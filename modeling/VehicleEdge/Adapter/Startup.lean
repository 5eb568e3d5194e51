import Mathlib.Data.List.TakeWhile
import VehicleEdge.Adapter.CommandLine
import VehicleEdge.Library.Numeral

/-
This file models the start of the adapter: what `main` takes from the environment, the command line, and the
token file, and what the client of the broker makes of it.
-/

namespace VehicleEdge.Adapter.Startup

open CommandLine (Argument Settings parse environmentSettings)

/-- The process environment and the files that `main` looks at. -/
structure World where
  getenv : String → Option Argument
  fileSize : Argument → Option Nat
  /-- the text of a file that opens for reading and writing -/
  openFile : Argument → Option Argument
  access : Argument → Bool

def getEnvironmentStr (world : World) (envVar : String) (defaultValue : Argument) : Argument :=
  (world.getenv envVar).getD defaultValue

/-- A number without digits or outside of the range raises. -/
def stoi (text : Argument) : Option Int :=
  (Numeral.strtol text).filter fun value => -2147483648 ≤ value && value ≤ 2147483647

/-- An exception is printed, and the default counts. -/
def getEnvironmentInt (world : World) (envVar : String) (defaultValue : Int) : Int :=
  match world.getenv envVar with
  | some envValue => (stoi envValue).getD defaultValue
  | none => defaultValue

/-- The environment gives these settings of the SOME/IP client. -/
structure ClientSettings where
  debug : Int
  useTcp : Bool
  appConfig : Argument
  feederJsonConfig : Argument
  appName : Argument

def createEnvConfig (world : World) : ClientSettings where
  debug := getEnvironmentInt world "SOMEIP_CLI_DEBUG" 1
  useTcp := getEnvironmentInt world "SOMEIP_CLI_TCP" 0 == 1
  appConfig := getEnvironmentStr world "VSOMEIP_CONFIGURATION" []
  feederJsonConfig := getEnvironmentStr world "FEEDER_CONFIGURATION" []
  appName := getEnvironmentStr world "VSOMEIP_APPLICATION_NAME" "UNKNOWN".toList

/-- The text up to the last colon, which is empty without a colon. -/
def upToLastColon (address : Argument) : Argument := (address.reverse.dropWhile (· ≠ ':')).reverse

/-- A set port replaces that of the address. -/
def changeToDaprPortIfSet (world : World) (brokerAddr : Argument) : Argument :=
  match getEnvironmentStr world "DAPR_GRPC_PORT" [] with
  | [] => brokerAddr
  | daprPort => upToLastColon brokerAddr ++ daprPort

/-- These entries are added to every call of the broker. -/
structure GrpcMetadata where
  daprAppId : Option Argument
  authorization : Option Argument
  deriving DecidableEq

def getGrpcMetadata (world : World) (authToken : Argument) : GrpcMetadata where
  daprAppId :=
    match getEnvironmentStr world "VEHICLEDATABROKER_DAPR_APP_ID" [] with
    | [] => none
    | daprAppId => some daprAppId
  authorization :=
    match (if authToken = [] then getEnvironmentStr world "BROKER_TOKEN" [] else authToken) with
    | [] => none
    | databrokerToken => some ("Bearer ".toList ++ databrokerToken)

/-- The stream is opened for reading and writing, and a file that does not open is read as an empty text. -/
def readFile (world : World) (fname : Argument) : Argument := (world.openFile fname).getD []

/-- Without a file there is no token, and a file of a wrong size ends the program. -/
def readToken (world : World) (tokenFile : Argument) : Option Argument :=
  if tokenFile = [] then some []
  else
    match world.fileSize tokenFile with
    | none => none
    | some tokenSize => if tokenSize = 0 || tokenSize > 16000 then none else some (readFile world tokenFile)

/-- The command line sets a variable of the environment when its option is not empty. -/
def setenv (envVar : String) (value : Argument) (world : World) : World :=
  if value = [] then world
  else { world with getenv := fun name => if name = envVar then some value else world.getenv name }

/-- The environment of the SOME/IP client. -/
def clientWorld (world : World) (settings : Settings) : World :=
  setenv "VSOMEIP_APPLICATION_NAME" settings.someipApp
    (setenv "VSOMEIP_CONFIGURATION" settings.someipConfig world)

/-- The client needs a name and an existing configuration file. -/
def initSomeipClient (world : World) : Bool :=
  (world.getenv "VSOMEIP_APPLICATION_NAME").isSome &&
    match world.getenv "VSOMEIP_CONFIGURATION" with
    | none => false
    | some someipConfig => world.access someipConfig

/-- What a started program works with. -/
structure Program where
  channel : Argument
  metadata : GrpcMetadata
  client : ClientSettings
  someipActive : Bool
  dummyFeeder : Bool

inductive Outcome where
  | exited (status : Nat)
  | started (program : Program)

/-- An empty option does not replace the setting of the environment. -/
def override (value setting : Argument) : Argument := if value = [] then setting else value

def main (world : World) (args : List Argument) : Outcome :=
  match parse (environmentSettings (world.getenv "BROKER_ADDR") (world.getenv "BROKER_TOKEN_FILE")) args with
  | .exited status => .exited status
  | .continued settings =>
      match readToken world settings.tokenFile with
      | none => .exited 1
      | some token =>
          let config := createEnvConfig world
          let later := clientWorld world settings
          let someipActive := initSomeipClient later
          .started
            { channel := changeToDaprPortIfSet later settings.target
              metadata := getGrpcMetadata later token
              client := { config with
                appConfig := override settings.someipConfig config.appConfig
                appName := override settings.someipApp config.appName }
              someipActive := someipActive
              dummyFeeder := settings.useDummyFeeder || !someipActive }

section Integers

/-- A variable that spells an integer gives this integer, and one outside of the range of the type gives the
default; white space before it and any text behind it are ignored. -/
theorem environment_integers_round_trip (world : World) (envVar : String) (defaultValue value : Int)
    (spelling : Numeral.Spelling) {spaces rest : Argument}
    (blank : ∀ space ∈ spaces, Numeral.isSpace space = true) (ends : Numeral.Ends rest)
    (set : world.getenv envVar = some (spaces ++ (spelling.write value ++ rest))) :
    getEnvironmentInt world envVar defaultValue =
      if -2147483648 ≤ value ∧ value ≤ 2147483647 then value else defaultValue := by
  rw [getEnvironmentInt, set]
  simp only [stoi, Numeral.strtol_write spelling value blank ends, Option.filter_some, Bool.and_eq_true,
    decide_eq_true_eq]
  split <;> rfl

/-- The variable holds the hexadecimal ten with a space before it and a semicolon behind it. -/
def debugWorld : World where
  getenv name := if name = "SOMEIP_CLI_DEBUG" then some " +0X00A;".toList else none
  fileSize _ := none
  openFile _ := none
  access _ := false

theorem environment_integers_round_trip_debug :
    getEnvironmentInt debugWorld "SOMEIP_CLI_DEBUG" 1 = 10 := by
  let spelling : Numeral.Spelling := ⟨.hexadecimal, true, true, true, 2⟩
  have ends : Numeral.Ends [';'] := by
    intro letter head
    cases head
    rfl
  have written : debugWorld.getenv "SOMEIP_CLI_DEBUG" = some ([' '] ++ (spelling.write 10 ++ [';'])) := by
    decide
  have blank : ∀ space ∈ [' '], Numeral.isSpace space = true := by
    intro space member
    rw [List.mem_singleton.mp member]
    rfl
  have read := environment_integers_round_trip debugWorld "SOMEIP_CLI_DEBUG" 1 10 spelling blank ends written
  rw [read, if_pos (by decide)]

end Integers

section Start

variable {world : World} {args : List Argument} {program : Program}

/-- The settings are those of the command line and, without an option, of the environment. -/
def settingsOf (world : World) (args : List Argument) : CommandLine.Outcome :=
  parse (environmentSettings (world.getenv "BROKER_ADDR") (world.getenv "BROKER_TOKEN_FILE")) args

@[simp]
theorem setenv_getenv (envVar name : String) (value : Argument) :
    (setenv envVar value world).getenv name =
      if name = envVar ∧ value ≠ [] then some value else world.getenv name := by
  unfold setenv
  by_cases empty : value = []
  · simp [empty]
  · by_cases same : name = envVar <;> simp [empty, same]

theorem upToLastColon_append {host port : Argument} (plain : ':' ∉ port) :
    upToLastColon (host ++ ':' :: port) = host ++ [':'] := by
  have reversed : (host ++ ':' :: port).reverse = port.reverse ++ ':' :: host.reverse := by simp
  have stops : (port.reverse ++ ':' :: host.reverse).dropWhile (· ≠ ':') = ':' :: host.reverse := by
    rw [List.dropWhile_append_of_pos, List.dropWhile_cons_of_neg (by simp)]
    intro letter member
    have other : letter ≠ ':' := fun same => plain (same ▸ List.mem_reverse.mp member)
    simpa using other
  rw [upToLastColon, reversed, stops]
  simp

theorem upToLastColon_plain {address : Argument} (plain : ':' ∉ address) : upToLastColon address = [] := by
  have all : address.reverse.dropWhile (· ≠ ':') = [] := by
    rw [List.dropWhile_eq_nil_iff]
    intro letter member
    have other : letter ≠ ':' := fun same => plain (same ▸ List.mem_reverse.mp member)
    simpa using other
  rw [upToLastColon, all, List.reverse_nil]

/-- A token file that was accepted is not empty and not too large. -/
theorem readToken_some {tokenFile token : Argument} (read : readToken world tokenFile = some token) :
    (tokenFile = [] ∧ token = []) ∨ (tokenFile ≠ [] ∧ token = readFile world tokenFile ∧
      ∃ size, world.fileSize tokenFile = some size ∧ 0 < size ∧ size ≤ 16000) := by
  unfold readToken at read
  split at read
  case isTrue none =>
    cases read
    exact .inl ⟨none, rfl⟩
  case isFalse named =>
    split at read
    case h_1 => cases read
    case h_2 size found =>
      split at read
      case isTrue => cases read
      case isFalse fits =>
        cases read
        simp only [Bool.or_eq_true, decide_eq_true_eq, not_or] at fits
        exact .inr ⟨named, rfl, size, found, by omega, by omega⟩

/-- A text as the header of a token, when it is not empty. -/
def bearer (token : Argument) : Option Argument := if token = [] then none else some ("Bearer ".toList ++ token)

theorem authorization_eq (authToken : Argument) :
    (getGrpcMetadata world authToken).authorization =
      bearer (if authToken = [] then getEnvironmentStr world "BROKER_TOKEN" [] else authToken) := by
  simp only [getGrpcMetadata, bearer]
  cases (if authToken = [] then getEnvironmentStr world "BROKER_TOKEN" [] else authToken) <;> rfl

/-- No option asks for the dummy feeder. -/
theorem parse_useDummyFeeder (args : List Argument) {defaults settings : Settings}
    (parsed : parse defaults args = .continued settings) :
    settings.useDummyFeeder = defaults.useDummyFeeder := by
  fun_induction parse defaults args with
  | case1 => cases parsed; rfl
  | case2 => cases parsed
  | case3 defaults argVal _ option found value rest ih =>
      rw [ih parsed]
      cases option <;> rfl
  | case4 defaults argVal args _ _ address found ih => exact ih parsed
  | case5 => cases parsed

/-- The client has a name and an existing configuration file, each from the command line or the environment. -/
def SomeipAvailable (world : World) (settings : Settings) : Prop :=
  (settings.someipApp ≠ [] ∨ (world.getenv "VSOMEIP_APPLICATION_NAME").isSome = true) ∧
    ∃ file, (if settings.someipConfig ≠ [] then some settings.someipConfig
      else world.getenv "VSOMEIP_CONFIGURATION") = some file ∧ world.access file = true

theorem initSomeipClient_iff (world : World) (settings : Settings) :
    initSomeipClient (clientWorld world settings) = true ↔ SomeipAvailable world settings := by
  have access : (clientWorld world settings).access = world.access := by
    unfold clientWorld setenv
    split <;> split <;> rfl
  have name : (clientWorld world settings).getenv "VSOMEIP_APPLICATION_NAME" =
      if settings.someipApp ≠ [] then some settings.someipApp
      else world.getenv "VSOMEIP_APPLICATION_NAME" := by simp [clientWorld]
  have file : (clientWorld world settings).getenv "VSOMEIP_CONFIGURATION" =
      if settings.someipConfig ≠ [] then some settings.someipConfig
      else world.getenv "VSOMEIP_CONFIGURATION" := by simp [clientWorld]
  rw [initSomeipClient, SomeipAvailable, access, name, file, Bool.and_eq_true]
  refine and_congr ?_ ?_
  · by_cases given : settings.someipApp = [] <;> simp [given]
  · cases (if settings.someipConfig ≠ [] then some settings.someipConfig
      else world.getenv "VSOMEIP_CONFIGURATION") <;> simp

theorem clientWorld_other (settings : Settings) {name : String} (app : name ≠ "VSOMEIP_APPLICATION_NAME")
    (config : name ≠ "VSOMEIP_CONFIGURATION") :
    getEnvironmentStr (clientWorld world settings) name [] = getEnvironmentStr world name [] := by
  simp [getEnvironmentStr, clientWorld, app, config]

/-- A port of the environment replaces the text behind the last colon. -/
theorem channel_port {host port : Argument} (plain : ':' ∉ port) :
    changeToDaprPortIfSet world (host ++ ':' :: port) =
      host ++ ':' :: override (getEnvironmentStr world "DAPR_GRPC_PORT" []) port := by
  unfold changeToDaprPortIfSet override
  split
  case h_1 unset => rw [unset, if_pos rfl]
  case h_2 other =>
    rw [if_neg other, upToLastColon_append plain]
    simp

/-- Without a colon only the port is left. -/
theorem channel_plain {address : Argument} (plain : ':' ∉ address) :
    changeToDaprPortIfSet world address =
      override (getEnvironmentStr world "DAPR_GRPC_PORT" []) address := by
  unfold changeToDaprPortIfSet override
  split
  case h_1 unset => rw [unset, if_pos rfl]
  case h_2 other => rw [if_neg other, upToLastColon_plain plain, List.nil_append]

/-- A program that starts has accepted the size of a named token file, it sends the text of the file if it opens
for reading and writing and the token of the environment otherwise, it connects to the chosen host under the
port of the environment if there is one, and it feeds dummy data exactly when SOME/IP is not available; an
address without a colon is lost to the port. -/
theorem start_follows_settings (world : World) (args : List Argument) {program : Program}
    (regular : ∀ name size text, world.fileSize name = some size → world.openFile name = some text →
      text.length = size)
    (started : main world args = .started program) :
    ∃ settings, settingsOf world args = .continued settings ∧
      (settings.tokenFile ≠ [] →
        ∃ size, world.fileSize settings.tokenFile = some size ∧ 0 < size ∧ size ≤ 16000) ∧
      (∀ text, settings.tokenFile ≠ [] → world.openFile settings.tokenFile = some text →
        program.metadata.authorization = some ("Bearer ".toList ++ text)) ∧
      (settings.tokenFile = [] ∨ world.openFile settings.tokenFile = none →
        program.metadata.authorization = bearer (getEnvironmentStr world "BROKER_TOKEN" [])) ∧
      (∀ host port, settings.target = host ++ ':' :: port → ':' ∉ port →
        program.channel = host ++ ':' :: override (getEnvironmentStr world "DAPR_GRPC_PORT" []) port) ∧
      (':' ∉ settings.target →
        program.channel = override (getEnvironmentStr world "DAPR_GRPC_PORT" []) settings.target) ∧
      (program.dummyFeeder = true ↔ ¬ SomeipAvailable world settings) := by
  unfold main at started
  split at started
  case h_1 => cases started
  case h_2 settings parsed =>
    split at started
    case h_1 => cases started
    case h_2 token read =>
      cases started
      have port := @clientWorld_other world settings "DAPR_GRPC_PORT" (by decide) (by decide)
      have broker := @clientWorld_other world settings "BROKER_TOKEN" (by decide) (by decide)
      have dummy := parse_useDummyFeeder args parsed
      have size := readToken_some read
      refine ⟨settings, parsed, fun named => ?_, fun text named opened => ?_, fun unread => ?_,
        fun host text address plain => ?_, fun plain => ?_, ?_⟩
      · exact (size.resolve_left fun unnamed => named unnamed.1).2.2
      · obtain ⟨-, rfl, bytes, found, positive, -⟩ := size.resolve_left fun unnamed => named unnamed.1
        have content : text ≠ [] := by
          rw [← List.length_pos_iff, regular _ _ _ found opened]
          exact positive
        rw [authorization_eq, readFile, opened, Option.getD_some, if_neg content, bearer, if_neg content]
      · have empty : token = [] := by
          rcases size with ⟨-, rfl⟩ | ⟨named, rfl, -⟩
          · rfl
          · rw [readFile, unread.resolve_left named, Option.getD_none]
        rw [authorization_eq, if_pos empty]
        exact congrArg bearer broker
      · rw [address]
        exact (channel_port plain).trans (by rw [← port])
      · exact (channel_plain plain).trans (by rw [← port])
      · rw [← initSomeipClient_iff]
        simp [dummy, environmentSettings]

end Start

/-- Two token files of three letters, of which one cannot be written, a token and a port of the environment, and
no SOME/IP settings. -/
def sidecarWorld : World where
  getenv name :=
    if name = "DAPR_GRPC_PORT" then some "50001".toList
    else if name = "BROKER_TOKEN" then some "other".toList
    else none
  fileSize name := if name = "/token".toList ∨ name = "/secret".toList then some 3 else none
  openFile name := if name = "/token".toList then some "abc".toList else none
  access _ := false

def sidecarArguments (tokenFile : String) : List Argument :=
  ["--target=broker:55555".toList, "--token".toList, tokenFile.toList]

def sidecarProgram (token : String) : Program where
  channel := "broker:50001".toList
  metadata := ⟨none, some ("Bearer ".toList ++ token.toList)⟩
  client := createEnvConfig sidecarWorld
  someipActive := false
  dummyFeeder := true

theorem sidecarWorld_regular (name : Argument) (size : Nat) (text : Argument)
    (found : sidecarWorld.fileSize name = some size) (opened : sidecarWorld.openFile name = some text) :
    text.length = size := by
  simp only [sidecarWorld] at found opened
  split at opened
  case isTrue same =>
    cases opened
    rw [if_pos (.inl same)] at found
    cases found
    rfl
  case isFalse => cases opened

/-- The token of the file that opens is sent, and for the other file that of the environment. -/
theorem start_follows_settings_sidecar :
    (∃ program, main sidecarWorld (sidecarArguments "/token") = .started program ∧
      program.metadata.authorization = some "Bearer abc".toList) ∧
    ∃ program, main sidecarWorld (sidecarArguments "/secret") = .started program ∧
      program.metadata.authorization = some "Bearer other".toList := by
  have chosen (tokenFile : String) (plain : tokenFile = "/token" ∨ tokenFile = "/secret") :
      settingsOf sidecarWorld (sidecarArguments tokenFile) =
        .continued ⟨"broker:55555".toList, tokenFile.toList, [], [], false⟩ := by
    rcases plain with rfl | rfl <;> decide
  constructor
  · obtain ⟨settings, parsed, -, sent, -⟩ := @start_follows_settings sidecarWorld (sidecarArguments "/token")
      (sidecarProgram "abc") sidecarWorld_regular rfl
    cases parsed.symm.trans (chosen "/token" (.inl rfl))
    exact ⟨sidecarProgram "abc", rfl, sent "abc".toList (by decide) rfl⟩
  · obtain ⟨settings, parsed, -, -, replaced, -⟩ := @start_follows_settings sidecarWorld
      (sidecarArguments "/secret") (sidecarProgram "other") sidecarWorld_regular rfl
    cases parsed.symm.trans (chosen "/secret" (.inr rfl))
    exact ⟨sidecarProgram "other", rfl, replaced (.inr rfl)⟩

end VehicleEdge.Adapter.Startup
