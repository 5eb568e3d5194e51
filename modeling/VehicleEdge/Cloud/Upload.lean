import VehicleEdge.Cloud.Fota
import VehicleEdge.Library.LastWrite

/-
This file models the upload of the matched files of a directory and finds which files the bucket holds
afterwards.
-/

namespace VehicleEdge.Cloud

variable {Content : Type}

/-- A directory is seen through its files and through the matches of a filter in the order of the listing. -/
structure ScanDirectory (Content : Type) where
  files : String → Option Content
  glob : String → List String

/-- The environment of one scan has a directory for each name that can be entered.
The credentials and the outcome of the transfer belong to each file. -/
structure ScanEnvironment (Content : Type) where
  configLoads : Bool
  chdir : String → Option (ScanDirectory Content)
  credentials : String → Credentials
  transfers : String → Bool

/-- A bucket holds its objects by name. -/
abbrev Bucket (Content : Type) := String → Option Content

/-- The base name is the part after the last slash. -/
def basename (file : String) : String :=
  String.ofList (file.toList.reverse.takeWhile (· ≠ '/')).reverse

/-- An upload overwrites an object of the same name, and a file that cannot be read raises. -/
def uploadFile (env : ScanEnvironment Content) (directory : ScanDirectory Content) (file objectName : String)
    (bucket : Bucket Content) : Option (Bucket Content) :=
  match directory.files file with
  | some content =>
      if env.transfers file then
        some fun name => if name = objectName then some content else bucket name
      else none
  | none => none

/-- An empty access key is reported as a result and not as an exception. -/
def uploadFileToS3 (env : ScanEnvironment Content) (directory : ScanDirectory Content) (file : String)
    (bucket : Bucket Content) : Bucket Content × Except PyError String :=
  match env.credentials file with
  | .raised => (bucket, .error .requestError)
  | .refused => (bucket, .ok "AWS S3 credentials missing")
  | .granted accessKeyId =>
      if accessKeyId ≠ "" then
        match uploadFile env directory file (basename file) bucket with
        | some uploaded => (uploaded, .ok "success")
        | none => (bucket, .error .fileError)
      else (bucket, .ok "AWS S3 credentials missing")

/-- The result of a file is a text or the exception itself. -/
structure FileResult where
  name : String
  result : Except PyError String

/-- The loop goes on after an exception. -/
def uploadMatches (env : ScanEnvironment Content) (directory : ScanDirectory Content) :
    List String → Bucket Content → Bucket Content × List FileResult
  | [], bucket => (bucket, [])
  | file :: files, bucket =>
      let (uploaded, result) := uploadFileToS3 env directory file bucket
      let (final, uploadResult) := uploadMatches env directory files uploaded
      (final, ⟨file, result⟩ :: uploadResult)

/-- The configuration is loaded before the directory is entered. -/
def scanDirAndUpload (env : ScanEnvironment Content) (directory filter : String) (bucket : Bucket Content) :
    Bucket Content × Except PyError (List FileResult) :=
  if env.configLoads then
    match env.chdir directory with
    | some entered =>
        let (final, uploadResult) := uploadMatches env entered (entered.glob filter) bucket
        (final, .ok uploadResult)
    | none => (bucket, .error .fileError)
  else (bucket, .error .fileError)

/-- The upload of the file has an access key, a file to read, and a transfer that does not raise. -/
structure Uploads (env : ScanEnvironment Content) (directory : ScanDirectory Content) (file : String) :
    Prop where
  credentials : ∃ accessKeyId, env.credentials file = .granted accessKeyId ∧ accessKeyId ≠ ""
  readable : (directory.files file).isSome = true
  transferred : env.transfers file = true

/-- An upload that succeeds writes one object. -/
def writeObject (directory : ScanDirectory Content) (bucket : Bucket Content) (file : String) :
    Bucket Content :=
  fun name => if name = basename file then directory.files file else bucket name

section Uploaded

variable {env : ScanEnvironment Content} {directory : ScanDirectory Content}

theorem uploadFileToS3_of_uploads {file : String} (uploads : Uploads env directory file)
    (bucket : Bucket Content) :
    uploadFileToS3 env directory file bucket = (writeObject directory bucket file, .ok "success") := by
  obtain ⟨accessKeyId, granted, nonempty⟩ := uploads.credentials
  obtain ⟨content, read⟩ := Option.isSome_iff_exists.mp uploads.readable
  unfold uploadFileToS3 writeObject
  rw [granted]
  dsimp only
  rw [if_pos nonempty, uploadFile, read]
  dsimp only
  rw [if_pos uploads.transferred]

/-- When every upload succeeds there is one result for each match, and the objects are written in order. -/
theorem uploadMatches_of_uploads {files : List String}
    (uploads : ∀ file ∈ files, Uploads env directory file) (bucket : Bucket Content) :
    uploadMatches env directory files bucket =
      (files.foldl (writeObject directory) bucket, files.map fun file => ⟨file, .ok "success"⟩) := by
  induction files generalizing bucket with
  | nil => rfl
  | cons file files ih =>
      obtain ⟨first, rest⟩ := List.forall_mem_cons.mp uploads
      rw [uploadMatches, uploadFileToS3_of_uploads first]
      dsimp only
      rw [ih rest]
      rfl

/-- An object holds the last file of its name, or what it held before. -/
theorem object_foldl (files : List String) (bucket : Bucket Content) (name : String) :
    files.foldl (writeObject directory) bucket name =
      (lastWrite basename files name).elim (bucket name) directory.files := by
  apply observe_writes fun bucket : Bucket Content => bucket name
  · intro file _ same bucket
    exact if_pos same.symm
  · intro file _ other bucket
    exact if_neg (Ne.symm other)

end Uploaded

/-- The content of the file is also that of the last match of some base name, or that of an earlier object
whose name is no base name of a match. -/
def Retained (directory : ScanDirectory Content) (files : List String) (bucket : Bucket Content)
    (file : String) : Prop :=
  (∃ other ∈ files, lastWrite basename files (basename other) = some other ∧
      directory.files other = directory.files file) ∨
    ∃ name, name ∉ files.map basename ∧ bucket name = directory.files file

theorem retained_iff (directory : ScanDirectory Content) (files : List String) (bucket : Bucket Content)
    (file : String) :
    (∃ name, files.foldl (writeObject directory) bucket name = directory.files file) ↔
      Retained directory files bucket file := by
  simp only [object_foldl]
  constructor
  · rintro ⟨name, holds⟩
    cases last : lastWrite basename files name with
    | none =>
        rw [last] at holds
        refine Or.inr ⟨name, ?_, holds⟩
        intro used
        obtain ⟨other, member, same⟩ := List.mem_map.mp used
        exact lastWrite_eq_none.mp last other member same
    | some other =>
        rw [last] at holds
        obtain ⟨member, same⟩ := mem_of_lastWrite last
        exact Or.inl ⟨other, member, same ▸ last, holds⟩
  · rintro (⟨other, _, last, same⟩ | ⟨name, unused, same⟩)
    · refine ⟨basename other, ?_⟩
      rw [last]
      exact same
    · refine ⟨name, ?_⟩
      have untouched : lastWrite basename files name = none :=
        lastWrite_eq_none.mpr fun other member used => unused (List.mem_map.mpr ⟨other, member, used⟩)
      rw [untouched]
      exact same

/-- When every upload succeeds there is one entry for each match, and every file is in the bucket exactly
when no file is lost behind another one of its base name. -/
theorem upload_loses_no_file (env : ScanEnvironment Content) (directory filter : String)
    (bucket : Bucket Content) (loads : env.configLoads = true) {entered : ScanDirectory Content}
    (enters : env.chdir directory = some entered)
    (uploads : ∀ file ∈ entered.glob filter, Uploads env entered file) :
    (scanDirAndUpload env directory filter bucket).2 =
        .ok ((entered.glob filter).map fun file => ⟨file, .ok "success"⟩) ∧
      ((∀ file ∈ entered.glob filter, ∃ name content, entered.files file = some content ∧
          (scanDirAndUpload env directory filter bucket).1 name = some content) ↔
        ∀ file ∈ entered.glob filter, Retained entered (entered.glob filter) bucket file) := by
  have scanned : scanDirAndUpload env directory filter bucket =
      ((entered.glob filter).foldl (writeObject entered) bucket,
        .ok ((entered.glob filter).map fun file => ⟨file, .ok "success"⟩)) := by
    unfold scanDirAndUpload
    rw [if_pos loads, enters]
    dsimp only
    rw [uploadMatches_of_uploads uploads]
  rw [scanned]
  refine ⟨rfl, forall₂_congr fun file member => ?_⟩
  rw [← retained_iff]
  obtain ⟨content, read⟩ := Option.isSome_iff_exists.mp (uploads file member).readable
  simp only [read, Option.some.injEq, exists_eq_left']

/-- Two feeders write logs, and the provider grants a key for every request. -/
def logDirectory : ScanDirectory String where
  files
    | "someip/service.log" => some "offered"
    | "someip/trace.log" => some "0x9C00"
    | "wiper/trace.log" => some "0x0014"
    | _ => none
  glob
    | "*/trace.log" => ["someip/trace.log", "wiper/trace.log"]
    | "someip/*.log" => ["someip/service.log", "someip/trace.log"]
    | _ => []

def logEnvironment : ScanEnvironment String where
  configLoads := true
  chdir directory := if directory = "/data/logs" then some logDirectory else none
  credentials _ := .granted "ASIA"
  transfers _ := true

theorem uploads_logDirectory {file : String} (readable : (logDirectory.files file).isSome = true) :
    Uploads logEnvironment logDirectory file :=
  ⟨⟨"ASIA", rfl, by decide⟩, readable, rfl⟩

/-- The filter of one feeder uploads its two logs to an empty bucket. -/
theorem upload_loses_no_file_feeder :
    (logDirectory.glob "someip/*.log").map basename = ["service.log", "trace.log"] ∧
      ∀ file ∈ logDirectory.glob "someip/*.log", ∃ name content, logDirectory.files file = some content ∧
        (scanDirAndUpload logEnvironment "/data/logs" "someip/*.log" fun _ => none).1 name =
          some content := by
  have uploads : ∀ file ∈ logDirectory.glob "someip/*.log", Uploads logEnvironment logDirectory file :=
    List.forall_mem_cons.mpr ⟨uploads_logDirectory rfl,
      List.forall_mem_singleton.mpr (uploads_logDirectory rfl)⟩
  have retained : ∀ file ∈ logDirectory.glob "someip/*.log",
      Retained logDirectory (logDirectory.glob "someip/*.log") (fun _ => none) file := by
    refine List.forall_mem_cons.mpr ⟨Or.inl ?_, List.forall_mem_singleton.mpr (Or.inl ?_)⟩
    · exact ⟨_, List.mem_cons_self, by decide, rfl⟩
    · exact ⟨_, List.mem_cons_of_mem _ (List.mem_singleton_self _), by decide, rfl⟩
  have kept := upload_loses_no_file logEnvironment "/data/logs" "someip/*.log" (fun _ => none) rfl rfl
    uploads
  exact ⟨by decide, kept.2.mpr retained⟩

/-- The filter of both feeders reports two uploads and leaves one log. -/
theorem second_log_overwrites_first :
    (∀ file ∈ logDirectory.glob "*/trace.log", Uploads logEnvironment logDirectory file) ∧
      ¬ ∀ file ∈ logDirectory.glob "*/trace.log", ∃ name content, logDirectory.files file = some content ∧
        (scanDirAndUpload logEnvironment "/data/logs" "*/trace.log" fun _ => none).1 name =
          some content := by
  have uploads : ∀ file ∈ logDirectory.glob "*/trace.log", Uploads logEnvironment logDirectory file :=
    List.forall_mem_cons.mpr ⟨uploads_logDirectory rfl,
      List.forall_mem_singleton.mpr (uploads_logDirectory rfl)⟩
  refine ⟨uploads, fun kept => ?_⟩
  obtain ⟨name, content, read, holds⟩ := kept "someip/trace.log" List.mem_cons_self
  cases read
  have objects : (scanDirAndUpload logEnvironment "/data/logs" "*/trace.log" fun _ => none).1 name =
      if name = "trace.log" then some "0x0014" else if name = "trace.log" then some "0x9C00" else none := by
    rfl
  rw [objects] at holds
  split at holds
  · revert holds
    decide
  · cases holds

end VehicleEdge.Cloud
