import Mathlib.Data.List.Basic
import Mathlib.Data.List.Infix

/-
This file models the firmware download of the cloud connector and compares it with the requested object.
The code raises where a field, a file, or a name is missing, and the handler catches nothing.
-/

namespace VehicleEdge.Cloud

/-- These are the exceptions of the download. -/
inductive PyError where
  | keyError (key : String)
  | nameError (name : String)
  | fileError
  | requestError
  deriving DecidableEq, Repr

/-- The credentials provider raises, refuses, or gives an access key. -/
inductive Credentials where
  | raised
  | refused
  | granted (accessKeyId : String)
  deriving DecidableEq, Repr

/-- An entry of the bucket listing may lack its key. -/
abbrev Entry := Option String

/-- The environment of one download. -/
structure Environment where
  chdir : String → Bool
  credentials : Credentials
  listing : List Entry
  opens : String → Bool

/-- A refused request gives an empty access key. -/
def obtainTemporaryCredentials (env : Environment) : Except PyError String :=
  match env.credentials with
  | .raised => .error .requestError
  | .refused => .ok ""
  | .granted accessKeyId => .ok accessKeyId

/-- The listing of an empty bucket has no contents field. -/
def listContents (env : Environment) : Except PyError (List Entry) :=
  if env.listing = [] then .error (.keyError "Contents") else .ok env.listing

/-- This is the substring test of the language. -/
def occursIn (fileKey file : String) : Bool := decide (fileKey.toList <:+: file.toList)

/-- The loop keeps the name of the last match and has downloaded every match so far. -/
structure Download where
  tempFile : String
  downloads : List String
  deriving DecidableEq

/-- Every listed key that occurs in the requested name is downloaded. -/
def downloadEntries (env : Environment) (file : String) :
    List Entry → Download → Download × Except PyError Unit
  | [], state => (state, .ok ())
  | none :: entries, state => downloadEntries env file entries state
  | some fileKey :: entries, state =>
      if occursIn fileKey file then
        if env.opens fileKey then
          downloadEntries env file entries ⟨fileKey, state.downloads ++ [fileKey]⟩
        else ({ state with tempFile := fileKey }, .error .fileError)
      else downloadEntries env file entries state

/-- The result is the local file and an initialization vector, which is always empty. -/
structure S3Result where
  downloads : List String
  result : Except PyError (String × String)

def downloadFileFromS3 (env : Environment) (file fotaHostDir : String) : S3Result :=
  if env.chdir fotaHostDir then
    match obtainTemporaryCredentials env with
    | .error error => ⟨[], .error error⟩
    | .ok accessKeyId =>
        if accessKeyId ≠ "" then
          match listContents env with
          | .error error => ⟨[], .error error⟩
          | .ok entries =>
              let (state, finished) := downloadEntries env file entries ⟨"", []⟩
              ⟨state.downloads, finished.map fun _ => (state.tempFile, "")⟩
        else ⟨[], .ok ("", "")⟩
  else ⟨[], .error .fileError⟩

/-- A request is a JSON object whose members are read one by one. -/
structure FotaRequest where
  command : Option String
  file : Option String
  key : Option String
  hostDir : Option String

/-- These are the messages on the upstream control topic. -/
inductive Report where
  | downloading (file : String)
  | downloadOkay (name : String)
  deriving DecidableEq, Repr

def Report.text : Report → String
  | .downloading file => "downloading file:" ++ file
  | .downloadOkay name => "download okay, start flashing of:" ++ name

/-- A reply has a state and, after a flash, the name of the file. -/
structure Reply where
  state : String
  file : Option String

/-- The effects of one request, up to its result or its exception. -/
structure Handled where
  reports : List Report
  downloads : List String
  events : List (String × String)
  result : Except PyError (Option Reply)

def FotaRequest.required (member : Option String) (name : String) : Except PyError String :=
  match member with
  | some text => .ok text
  | none => .error (.keyError name)

/-- The members are read before the first report. -/
def FotaRequest.members (request : FotaRequest) : Except PyError (String × String) := do
  let file ← required request.file "file"
  let _ ← required request.key "key"
  let fotaHostDir ← required request.hostDir "hostDir"
  return (file, fotaHostDir)

/-- The module does not import `asyncio`, so the start of the flash raises before the event is published. -/
def flashVip (env : Environment) (file fotaHostDir : String) : Handled :=
  let s3 := downloadFileFromS3 env file fotaHostDir
  match s3.result with
  | .error error => ⟨[.downloading file], s3.downloads, [], .error error⟩
  | .ok (tempEncryptedFlashFile, _) =>
      ⟨[.downloading file, .downloadOkay tempEncryptedFlashFile], s3.downloads, [],
        .error (.nameError "asyncio")⟩

def handleFotaRequest (env : Environment) (request : FotaRequest) : Handled :=
  match request.command with
  | none => ⟨[], [], [], .ok none⟩
  | some command =>
      if command = "flash-vip" then
        match request.members with
        | .error error => ⟨[], [], [], .error error⟩
        | .ok (file, fotaHostDir) => flashVip env file fotaHostDir
      else ⟨[], [], [], .ok (some ⟨"ok", none⟩)⟩

section Loop

variable (env : Environment) (file : String)

/-- These are the listed keys that occur in the requested name. -/
def matching (entries : List Entry) : List String :=
  (entries.filterMap id).filter fun fileKey => occursIn fileKey file

theorem mem_matching {entries : List Entry} {fileKey : String} :
    fileKey ∈ matching file entries ↔ some fileKey ∈ entries ∧ occursIn fileKey file = true := by
  simp [matching, List.mem_filter]

/-- When every match can be written, all of them are downloaded and the last one is returned. -/
theorem downloadEntries_ok (entries : List Entry) (state : Download)
    (writable : ∀ fileKey ∈ matching file entries, env.opens fileKey = true) :
    downloadEntries env file entries state =
      (⟨(matching file entries).getLastD state.tempFile, state.downloads ++ matching file entries⟩,
        .ok ()) := by
  induction entries generalizing state with
  | nil => simp [downloadEntries, matching]
  | cons entry entries ih =>
      cases entry with
      | none => exact ih state writable
      | some fileKey =>
          by_cases occurs : occursIn fileKey file = true
          · have split : matching file (some fileKey :: entries) = fileKey :: matching file entries := by
              simp [matching, occurs]
            rw [split] at writable ⊢
            rw [downloadEntries, if_pos occurs, if_pos (writable fileKey List.mem_cons_self),
              ih _ fun other member => writable other (List.mem_cons_of_mem _ member), List.getLastD_cons,
              List.append_assoc, List.singleton_append]
          · have skip : matching file (some fileKey :: entries) = matching file entries := by
              simp [matching, occurs]
            rw [skip] at writable ⊢
            rw [downloadEntries, if_neg occurs, ih state writable]

/-- A match that cannot be written stops the loop. -/
theorem downloadEntries_error (entries : List Entry) (state : Download) {fileKey : String}
    (member : fileKey ∈ matching file entries) (blocked : env.opens fileKey = false) :
    (downloadEntries env file entries state).2 = .error .fileError := by
  induction entries generalizing state with
  | nil => cases member
  | cons entry entries ih =>
      cases entry with
      | none => exact ih state member
      | some first =>
          rw [downloadEntries]
          by_cases occurs : occursIn first file = true
          · rw [if_pos occurs]
            by_cases writable : env.opens first = true
            · rw [if_pos writable]
              apply ih
              obtain rfl | later : fileKey = first ∨ fileKey ∈ matching file entries := by
                simpa [matching, occurs] using member
              · rw [blocked] at writable
                cases writable
              · exact later
            · rw [if_neg writable]
          · rw [if_neg occurs]
            apply ih
            simpa [matching, occurs] using member

end Loop

/-- The name of an object in the bucket. -/
def objectUrl (bucket key : String) : String := "s3://" ++ bucket ++ "/" ++ key

/-- The download takes exactly the requested object, and nothing when the bucket does not have it. -/
def OnlyRequested (env : Environment) (bucket key fotaHostDir : String) : Prop :=
  let s3 := downloadFileFromS3 env (objectUrl bucket key) fotaHostDir
  if some key ∈ env.listing then
    s3.downloads ≠ [] ∧ (∀ name ∈ s3.downloads, name = key) ∧ s3.result = .ok (key, "")
  else s3.downloads = [] ∧ s3.result = .ok ("", "")

/-- Success is reported, and the flash started, only for the requested object. -/
def ReportsOnly (env : Environment) (key : String) (handled : Handled) : Prop :=
  (∀ name, Report.downloadOkay name ∈ handled.reports → some key ∈ env.listing ∧ name = key) ∧
    ∀ name, ("fota_control_start", name) ∈ handled.events → some key ∈ env.listing ∧ name = key

/-- The credentials give access to the bucket. -/
def Environment.HasAccess (env : Environment) : Prop :=
  ∃ accessKeyId, env.credentials = .granted accessKeyId ∧ accessKeyId ≠ ""

/-- The requested object is in the bucket, no other key occurs in its name, and it can be fetched. A request
for another object is harmless only when it stops at its missing key. -/
def Harmless (env : Environment) (bucket key fotaHostDir : String) (request : FotaRequest) : Prop :=
  env.chdir fotaHostDir = true ∧
    if some key ∈ env.listing then
      env.HasAccess ∧ env.opens key = true ∧
        ∀ other, some other ∈ env.listing → occursIn other (objectUrl bucket key) = true → other = key
    else request.key = none ∧
      (env.HasAccess → env.listing ≠ [] ∧
        ∀ other, some other ∈ env.listing → occursIn other (objectUrl bucket key) = false) ∧
      env.credentials ≠ .raised

section Requested

variable {env : Environment} {bucket key fotaHostDir : String}

theorem occursIn_objectUrl : occursIn key (objectUrl bucket key) = true := by
  have suffix : key.toList <:+ (objectUrl bucket key).toList := by
    rw [objectUrl, String.toList_append]
    exact List.suffix_append _ _
  exact decide_eq_true suffix.isInfix

/-- Without access nothing is downloaded, and only a refusal returns. -/
theorem download_refused (file : String) (directory : env.chdir fotaHostDir = true)
    (refused : ¬ env.HasAccess) (answered : env.credentials ≠ .raised) :
    downloadFileFromS3 env file fotaHostDir = ⟨[], .ok ("", "")⟩ := by
  unfold downloadFileFromS3 obtainTemporaryCredentials
  rw [if_pos directory]
  cases credentials : env.credentials with
  | raised => exact absurd credentials answered
  | refused => rfl
  | granted accessKeyId =>
      have empty : accessKeyId = "" := by
        by_contra nonempty
        exact refused ⟨accessKeyId, credentials, nonempty⟩
      simp [empty]

/-- With access to a listed bucket the download is its loop. -/
theorem download_access (file : String) (directory : env.chdir fotaHostDir = true) (access : env.HasAccess)
    (listed : env.listing ≠ []) :
    downloadFileFromS3 env file fotaHostDir =
      ⟨(downloadEntries env file env.listing ⟨"", []⟩).1.downloads,
        (downloadEntries env file env.listing ⟨"", []⟩).2.map fun _ =>
          ((downloadEntries env file env.listing ⟨"", []⟩).1.tempFile, "")⟩ := by
  obtain ⟨accessKeyId, granted, nonempty⟩ := access
  simp [downloadFileFromS3, directory, obtainTemporaryCredentials, granted, nonempty, listContents, listed]

/-- A download that returns had its directory, an answer for its credentials, and a listed bucket. -/
theorem download_returns {file : String} {value : String × String}
    (returned : (downloadFileFromS3 env file fotaHostDir).result = .ok value) :
    env.chdir fotaHostDir = true ∧ env.credentials ≠ .raised ∧ (env.HasAccess → env.listing ≠ []) := by
  unfold downloadFileFromS3 at returned
  split at returned
  case isFalse => cases returned
  case isTrue directory =>
    refine ⟨directory, ?_, ?_⟩
    · intro raised
      simp [obtainTemporaryCredentials, raised] at returned
    · rintro ⟨accessKeyId, granted, nonempty⟩ empty
      simp [obtainTemporaryCredentials, granted, nonempty, listContents, empty] at returned

/-- A download with access that returns has fetched every match and returns the last one. -/
theorem download_fetches {file : String} {value : String × String} (access : env.HasAccess)
    (returned : (downloadFileFromS3 env file fotaHostDir).result = .ok value) :
    (∀ fileKey ∈ matching file env.listing, env.opens fileKey = true) ∧
      (downloadFileFromS3 env file fotaHostDir).downloads = matching file env.listing ∧
      value = ((matching file env.listing).getLastD "", "") := by
  obtain ⟨directory, -, listed⟩ := download_returns returned
  rw [download_access file directory access (listed access)] at returned ⊢
  have writable : ∀ fileKey ∈ matching file env.listing, env.opens fileKey = true := by
    intro fileKey member
    by_contra blocked
    rw [downloadEntries_error env file env.listing ⟨"", []⟩ member (Bool.not_eq_true _ ▸ blocked)] at returned
    cases returned
  rw [downloadEntries_ok env file env.listing ⟨"", []⟩ writable] at returned ⊢
  cases returned
  exact ⟨writable, List.nil_append _, rfl⟩

/-- A listed object is fetched alone exactly when it can be written and no other key occurs in its name. -/
theorem onlyRequested_listed (listed : some key ∈ env.listing) :
    OnlyRequested env bucket key fotaHostDir ↔
      env.chdir fotaHostDir = true ∧ env.HasAccess ∧ env.opens key = true ∧
        ∀ other, some other ∈ env.listing → occursIn other (objectUrl bucket key) = true → other = key := by
  have own : key ∈ matching (objectUrl bucket key) env.listing :=
    (mem_matching _).mpr ⟨listed, occursIn_objectUrl⟩
  unfold OnlyRequested
  dsimp only
  rw [if_pos listed]
  constructor
  · rintro ⟨some_, only, returned⟩
    obtain ⟨directory, answered, -⟩ := download_returns returned
    have access : env.HasAccess := by
      by_contra refused
      rw [download_refused _ directory refused answered] at some_
      exact some_ rfl
    obtain ⟨writable, downloads, -⟩ := download_fetches access returned
    rw [downloads] at only
    refine ⟨directory, access, writable key own, ?_⟩
    intro other member occurs
    exact only other ((mem_matching _).mpr ⟨member, occurs⟩)
  · rintro ⟨directory, access, writable, only⟩
    have same : ∀ name ∈ matching (objectUrl bucket key) env.listing, name = key := by
      intro name member
      obtain ⟨inListing, occurs⟩ := (mem_matching _).mp member
      exact only name inListing occurs
    have all : ∀ name ∈ matching (objectUrl bucket key) env.listing, env.opens name = true := by
      intro name member
      rw [same name member]
      exact writable
    have nonempty := List.ne_nil_of_mem own
    have last : (matching (objectUrl bucket key) env.listing).getLastD "" = key := by
      apply same
      rw [List.getLastD_eq_getLast?, List.getLast?_eq_some_getLast nonempty]
      exact List.getLast_mem nonempty
    rw [download_access _ directory access (List.ne_nil_of_mem listed), downloadEntries_ok env _ _ _ all]
    refine ⟨nonempty, same, ?_⟩
    rw [last]
    rfl

/-- An object that is not listed is not fetched exactly when no listed key occurs in its name. -/
theorem onlyRequested_missing (missing : some key ∉ env.listing) :
    OnlyRequested env bucket key fotaHostDir ↔
      env.chdir fotaHostDir = true ∧
        (env.HasAccess → env.listing ≠ [] ∧
          ∀ other, some other ∈ env.listing → occursIn other (objectUrl bucket key) = false) ∧
        env.credentials ≠ .raised := by
  unfold OnlyRequested
  dsimp only
  rw [if_neg missing]
  constructor
  · rintro ⟨nothing, returned⟩
    obtain ⟨directory, answered, listed⟩ := download_returns returned
    refine ⟨directory, ?_, answered⟩
    intro access
    refine ⟨listed access, ?_⟩
    intro other member
    by_contra occurs
    have fetched : other ∈ matching (objectUrl bucket key) env.listing :=
      (mem_matching _).mpr ⟨member, Bool.not_eq_false _ ▸ occurs⟩
    rw [← (download_fetches access returned).2.1, nothing] at fetched
    cases fetched
  · rintro ⟨directory, quiet, answered⟩
    by_cases access : env.HasAccess
    · obtain ⟨listed, none_⟩ := quiet access
      have empty : matching (objectUrl bucket key) env.listing = [] := by
        apply List.eq_nil_iff_forall_not_mem.mpr
        intro name member
        obtain ⟨inListing, occurs⟩ := (mem_matching _).mp member
        rw [none_ name inListing] at occurs
        cases occurs
      rw [download_access _ directory access listed,
        downloadEntries_ok env _ _ _ (by rw [empty]; exact nofun), empty]
      exact ⟨rfl, rfl⟩
    · rw [download_refused _ directory access answered]
      exact ⟨rfl, rfl⟩

/-- The result is the requested key, or no name for an object that is not listed. -/
theorem onlyRequested_result (only : OnlyRequested env bucket key fotaHostDir) :
    (downloadFileFromS3 env (objectUrl bucket key) fotaHostDir).result =
      .ok (if some key ∈ env.listing then key else "", "") := by
  unfold OnlyRequested at only
  dsimp only at only
  split at only
  case isTrue listed => rw [only.2.2, if_pos listed]
  case isFalse missing => rw [only.2, if_neg missing]

/-- A harmless request downloads right and lacks its key when the object is not listed. -/
theorem harmless_iff {request : FotaRequest} :
    Harmless env bucket key fotaHostDir request ↔
      OnlyRequested env bucket key fotaHostDir ∧ (some key ∈ env.listing ∨ request.key = none) := by
  unfold Harmless
  by_cases listed : some key ∈ env.listing
  · have safe : some key ∈ env.listing ∨ request.key = none := .inl listed
    rw [if_pos listed, onlyRequested_listed listed, iff_self_and]
    exact fun _ => safe
  · rw [if_neg listed, onlyRequested_missing listed, or_iff_right listed]
    tauto

end Requested

section Handler

variable {env : Environment} {request : FotaRequest} {file fotaHostDir : String}
  (command : request.command = some "flash-vip") (named : request.file = some file)
include command named

/-- A request without its key or its directory raises before the first report. -/
theorem handle_incomplete (incomplete : request.key = none ∨ request.hostDir = none) :
    ∃ error, handleFotaRequest env request = ⟨[], [], [], .error error⟩ := by
  unfold handleFotaRequest FotaRequest.members
  rw [command, named]
  cases key : request.key with
  | none => exact ⟨_, rfl⟩
  | some text =>
      have missing := incomplete.resolve_left (by simp [key])
      rw [missing]
      exact ⟨_, rfl⟩

/-- A complete request reports success whenever the download returns, and then the start of the flash raises. -/
theorem handle_returned {text fileKey iv : String} (key : request.key = some text)
    (directory : request.hostDir = some fotaHostDir)
    (returned : (downloadFileFromS3 env file fotaHostDir).result = .ok (fileKey, iv)) :
    handleFotaRequest env request =
      ⟨[.downloading file, .downloadOkay fileKey], (downloadFileFromS3 env file fotaHostDir).downloads, [],
        .error (.nameError "asyncio")⟩ := by
  unfold handleFotaRequest FotaRequest.members
  rw [command, named, key, directory]
  simp only [if_true, FotaRequest.required, bind, Except.bind, pure, Except.pure, flashVip, returned]

end Handler

/-- The start of the flash is never published, whatever the request and the environment are. -/
theorem handled_events (env : Environment) (request : FotaRequest) :
    (handleFotaRequest env request).events = [] := by
  unfold handleFotaRequest flashVip
  split
  case h_1 => rfl
  case h_2 =>
    split
    case isTrue =>
      split
      case h_1 => rfl
      case h_2 =>
        dsimp only
        split <;> rfl
    case isFalse => rfl

/-- A complete request for an object that is fetched alone downloads this object and reports its key, and then
ends in the missing import. -/
theorem requested_firmware_is_reported {env : Environment} {request : FotaRequest}
    {bucket key fotaHostDir text : String} (command : request.command = some "flash-vip")
    (file : request.file = some (objectUrl bucket key)) (given : request.key = some text)
    (directory : request.hostDir = some fotaHostDir) (listed : some key ∈ env.listing)
    (only : OnlyRequested env bucket key fotaHostDir) :
    let handled := handleFotaRequest env request
    handled.reports = [.downloading (objectUrl bucket key), .downloadOkay key] ∧
      handled.downloads ≠ [] ∧ (∀ name ∈ handled.downloads, name = key) ∧
      handled.result = .error (.nameError "asyncio") := by
  have returned := onlyRequested_result only
  rw [if_pos listed] at returned
  have fetched := only
  unfold OnlyRequested at fetched
  dsimp only at fetched
  rw [if_pos listed] at fetched
  intro handled
  have reported : handled = _ := handle_returned command file given directory returned
  rw [reported]
  exact ⟨rfl, fetched.1, fetched.2.1, rfl⟩

/-- Only the requested firmware is fetched and reported exactly when the request is harmless. -/
theorem only_requested_firmware (env : Environment) (bucket key : String) (request : FotaRequest)
    (command : request.command = some "flash-vip")
    (file : request.file = some (objectUrl bucket key)) :
    (∀ fotaHostDir, request.hostDir = some fotaHostDir → OnlyRequested env bucket key fotaHostDir) ∧
        ReportsOnly env key (handleFotaRequest env request) ↔
      ∀ fotaHostDir, request.hostDir = some fotaHostDir → Harmless env bucket key fotaHostDir request := by
  constructor
  · rintro ⟨only, reports⟩ fotaHostDir directory
    have downloaded := only fotaHostDir directory
    apply harmless_iff.mpr
    refine ⟨downloaded, ?_⟩
    -- a complete request for an object that is not listed would report the empty name
    by_contra exposed
    obtain ⟨missing, given⟩ := not_or.mp exposed
    obtain ⟨text, given⟩ := Option.ne_none_iff_exists'.mp given
    have returned := onlyRequested_result downloaded
    rw [if_neg missing] at returned
    have handled := handle_returned command file given directory returned
    exact missing (reports.1 "" (by rw [handled]; simp)).1
  · intro harmless
    have only : ∀ fotaHostDir, request.hostDir = some fotaHostDir →
        OnlyRequested env bucket key fotaHostDir :=
      fun fotaHostDir directory => (harmless_iff.mp (harmless fotaHostDir directory)).1
    refine ⟨only, ?_⟩
    have unpublished : ∀ name, ("fota_control_start", name) ∈ (handleFotaRequest env request).events →
        some key ∈ env.listing ∧ name = key := by
      rw [handled_events]
      exact nofun
    by_cases incomplete : request.key = none ∨ request.hostDir = none
    · obtain ⟨error, handled⟩ : ∃ error, handleFotaRequest env request = ⟨[], [], [], .error error⟩ :=
        handle_incomplete command file incomplete
      refine ⟨?_, unpublished⟩
      rw [handled]
      exact nofun
    · obtain ⟨hasKey, hasDirectory⟩ := not_or.mp incomplete
      obtain ⟨text, given⟩ := Option.ne_none_iff_exists'.mp hasKey
      obtain ⟨fotaHostDir, directory⟩ := Option.ne_none_iff_exists'.mp hasDirectory
      have listed : some key ∈ env.listing :=
        (harmless_iff.mp (harmless fotaHostDir directory)).2.resolve_right hasKey
      obtain ⟨reports, -⟩ := requested_firmware_is_reported command file given directory listed
        (only fotaHostDir directory)
      refine ⟨?_, unpublished⟩
      rw [reports]
      intro name member
      exact ⟨listed, by simpa using member⟩

/-- This bucket holds two objects, and everything works. -/
def firmwareBucket : Environment where
  chdir _ := true
  credentials := .granted "ASIA"
  listing := [some "enc_image.tar.gz", some "enc_notes.txt"]
  opens _ := true

def flashRequest (key : String) : FotaRequest :=
  ⟨some "flash-vip", some (objectUrl "enterer-vip-fota-containers" key), some "aes", some "/fota"⟩

theorem only_requested_firmware_image :
    Harmless firmwareBucket "enterer-vip-fota-containers" "enc_image.tar.gz" "/fota"
        (flashRequest "enc_image.tar.gz") ∧
      ReportsOnly firmwareBucket "enc_image.tar.gz"
        (handleFotaRequest firmwareBucket (flashRequest "enc_image.tar.gz")) := by
  have listed : some "enc_image.tar.gz" ∈ firmwareBucket.listing := by decide
  have harmless : Harmless firmwareBucket "enterer-vip-fota-containers" "enc_image.tar.gz" "/fota"
      (flashRequest "enc_image.tar.gz") := by
    unfold Harmless
    rw [if_pos listed]
    refine ⟨rfl, ⟨"ASIA", rfl, by decide⟩, rfl, ?_⟩
    intro other member occurs
    have cases_ : other = "enc_image.tar.gz" ∨ other = "enc_notes.txt" := by
      simpa [firmwareBucket] using member
    rcases cases_ with rfl | rfl
    · rfl
    · revert occurs
      decide
  refine ⟨harmless, ?_⟩
  have reported := (only_requested_firmware firmwareBucket "enterer-vip-fota-containers" "enc_image.tar.gz"
    (flashRequest "enc_image.tar.gz") rfl rfl).mpr
  refine (reported ?_).2
  rintro _ ⟨⟩
  exact harmless

/-- A request for an object that is not in the bucket is reported as a successful download. -/
theorem missing_firmware_is_reported :
    some "enc_other.tar.gz" ∉ firmwareBucket.listing ∧
      ¬ ReportsOnly firmwareBucket "enc_other.tar.gz"
        (handleFotaRequest firmwareBucket (flashRequest "enc_other.tar.gz")) := by
  have missing : some "enc_other.tar.gz" ∉ firmwareBucket.listing := by decide
  refine ⟨missing, ?_⟩
  intro reports
  exact missing (reports.1 "" (by decide)).1

end VehicleEdge.Cloud
