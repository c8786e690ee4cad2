import Greenhouse.Json.Printer
import Greenhouse.Toml.Document
import Greenhouse.Url.Basic

/-!
# Configuration

The configuration of the console: where the backend is, how long silence and typing may
last, how many events are kept, and what is logged.  `Config.parse` reads one from TOML;
what is missing takes its default.  `Config.validate` says what is wrong with a
configuration, if anything.
-/

namespace Greenhouse

/-- The form of the log on the terminal. -/
inductive LogFormat where
  | structuredJson
  | pretty
deriving DecidableEq

/-- The name of a form. -/
def LogFormat.name : LogFormat → String
  | .structuredJson => "structured-json"
  | .pretty => "pretty"

/-- Where the backend is. -/
structure BackendConfig where
  baseUrl : String
  wsPath : String
  /-- How long to wait before a lost channel is opened again, in milliseconds. -/
  reconnectDelay : Nat
  /-- How long a request may take, in milliseconds. -/
  requestTimeout : Nat
deriving DecidableEq

/-- What is logged, and where. -/
structure LoggingConfig where
  directory : Option String
  format : LogFormat
  filePrefix : Option String
deriving DecidableEq

/-- The configuration of the console. -/
structure Config where
  backend : BackendConfig
  /-- How long the backend may be silent, in milliseconds. -/
  window : Nat
  /-- How long edits must be quiet before they are saved, in milliseconds. -/
  debounce : Nat
  /-- How many events are kept for a listener. -/
  capacity : Nat
  logging : LoggingConfig
deriving DecidableEq

/-- Why there is no configuration to use. -/
inductive ConfigError where
  /-- A text is no configuration. -/
  | parse (context : String)
  /-- A file cannot be read. -/
  | read (path reason : String)
  /-- The address of the backend cannot be read. -/
  | address (text : String) (cause : Url.Error)
  /-- A value cannot be used, or there is no file. -/
  | invalid (reason : String)
deriving DecidableEq

/-- The text of the reason, without what has led to it. -/
def ConfigError.headline : ConfigError → String
  | .parse context => context
  | .read path _ => "unable to read config file " ++ path
  | .address text _ => "invalid backend.base_url '" ++ text ++ "'"
  | .invalid reason => reason

/-- The text of the reason. -/
def ConfigError.message (e : ConfigError) : String :=
  match e with
  | .read _ reason => e.headline ++ ": " ++ reason
  | .address _ cause => e.headline ++ ": " ++ cause.message
  | _ => e.headline

namespace BackendConfig

/-- The backend on this machine. -/
def standard : BackendConfig := ⟨"http://127.0.0.1:8000", "/ws", 2000, 10000⟩

/-- The address for requests. -/
def httpUrl (c : BackendConfig) : Except ConfigError Url :=
  match Url.parse c.baseUrl with
  | .error e => .error (.address c.baseUrl e)
  | .ok url =>
    if url.scheme = "http" ∨ url.scheme = "https" then .ok url
    else
      .error (.invalid ("backend.base_url must use http or https, found '" ++ url.scheme ++ "'"))

/-- The address of the streaming channel: that for requests with another scheme and path,
and without a query. -/
def websocketUrl (c : BackendConfig) : Except ConfigError Url := do
  let url ← c.httpUrl
  let scheme := if url.scheme = "https" then "wss" else "ws"
  if url.admitsScheme scheme then
    .ok (((url.withScheme scheme).withPath c.wsPath).withoutQuery)
  else .error (.invalid ("cannot derive websocket scheme from " ++ c.baseUrl))

/-- What is wrong with the backend's address. -/
def validate (c : BackendConfig) : Except ConfigError Unit := do
  let _ ← c.httpUrl
  if c.wsPath.toList.head? ≠ some '/' then
    .error (.invalid ("backend.ws_path '" ++ c.wsPath ++ "' must start with '/'"))
  else if c.reconnectDelay = 0 then
    .error (.invalid "backend.reconnect_delay_ms must be greater than zero")
  else if c.requestTimeout = 0 then
    .error (.invalid "backend.request_timeout_ms must be greater than zero")
  else .ok ()

end BackendConfig

namespace Config

/-- The configuration without any file. -/
def standard : Config := ⟨.standard, 5000, 1000, 256, ⟨none, .pretty, none⟩⟩

/-- What is wrong with a configuration. -/
def validate (c : Config) : Except ConfigError Unit := do
  c.backend.validate
  if c.window = 0 then .error (.invalid "watchdog.window_ms must be greater than zero")
  else if c.debounce = 0 then .error (.invalid "autosave.debounce_ms must be greater than zero")
  else if c.capacity = 0 then .error (.invalid "events.capacity must be greater than zero")
  else .ok ()

/-! ### Reading -/

/-- The values of the fields of a group.  A group may also be written as an array of its
fields in order; a date or a time is a group without any of them. -/
def fields? (names : List String) : Toml → Option (List (Option Toml))
  | .table _ entries => some (names.map fun n => Toml.find? n entries)
  | .arr items => some ((List.range names.length).map fun i => items[i]?)
  | .tables items =>
    some ((List.range names.length).map fun i => items[i]?.map (Toml.table .header))
  | .moment _ => some (names.map fun _ => none)
  | _ => none

/-- The value of a field, or its default when it is missing. -/
def orDefault {α : Type} (dflt : α) (read : Toml → Option α) : Option Toml → Option α
  | none => some dflt
  | some v => read v

/-- A text. -/
def text? : Toml → Option String
  | .str s => some s
  | _ => none

/-- A natural number. -/
def count? : Toml → Option Nat
  | .int n => if 0 ≤ n then some n.toNat else none
  | _ => none

/-- A form of the log by its name; the name may also be the key of an empty value. -/
def format? (v : Toml) : Option LogFormat :=
  let named (s : String) : Option LogFormat :=
    [LogFormat.structuredJson, .pretty].find? fun f => f.name == s
  match v with
  | .str s => named s
  | .table _ [(s, .table _ [])] | .table _ [(s, .arr [])] => named s
  | _ => none

/-- The address of the backend. -/
def backend? (v : Toml) : Option BackendConfig := do
  let d := BackendConfig.standard
  match ← fields? ["base_url", "ws_path", "reconnect_delay_ms", "request_timeout_ms"] v with
  | [url, path, delay, timeout] =>
    return ⟨← orDefault d.baseUrl text? url, ← orDefault d.wsPath text? path,
      ← orDefault d.reconnectDelay count? delay, ← orDefault d.requestTimeout count? timeout⟩
  | _ => none

/-- A group with a single number. -/
def single? (name : String) (dflt : Nat) (v : Toml) : Option Nat := do
  match ← fields? [name] v with
  | [n] => orDefault dflt count? n
  | _ => none

/-- What is logged. -/
def logging? (v : Toml) : Option LoggingConfig := do
  match ← fields? ["directory", "format", "file_prefix"] v with
  | [directory, format, filePrefix] =>
    return ⟨← orDefault none (fun v => (text? v).map some) directory,
      ← orDefault .pretty format? format,
      ← orDefault none (fun v => (text? v).map some) filePrefix⟩
  | _ => none

/-- The configuration that a document gives. -/
def ofToml? (doc : Toml.Entries) : Option Config := do
  let d := standard
  return ⟨← orDefault d.backend backend? (Toml.find? "backend" doc),
    ← orDefault d.window (single? "window_ms" d.window) (Toml.find? "watchdog" doc),
    ← orDefault d.debounce (single? "debounce_ms" d.debounce) (Toml.find? "autosave" doc),
    ← orDefault d.capacity (single? "capacity" d.capacity) (Toml.find? "events" doc),
    ← orDefault d.logging logging? (Toml.find? "logging" doc)⟩

/-- Reads a configuration and checks it; the context is named when it cannot be read. -/
def parse (context text : String) : Except ConfigError Config :=
  match (Toml.parse? text).bind ofToml? with
  | none => .error (.parse context)
  | some c => c.validate.map fun _ => c

/-- Reads a configuration that is not in a file. -/
def ofText (text : String) : Except ConfigError Config := parse "failed to parse configuration" text

/-! ### Writing -/

/-- A text that may be missing. -/
private def textOrNull : Option String → Json
  | some s => .str s
  | none => .null

/-- The configuration as a document. -/
def toJson (c : Config) : Json :=
  let group (name : String) (members : List (String × Json)) : String × Json := (name, .obj members)
  .obj
    [group "backend" [("base_url", .str c.backend.baseUrl), ("ws_path", .str c.backend.wsPath),
        ("reconnect_delay_ms", .int c.backend.reconnectDelay),
        ("request_timeout_ms", .int c.backend.requestTimeout)],
      group "watchdog" [("window_ms", .int c.window)],
      group "autosave" [("debounce_ms", .int c.debounce)],
      group "events" [("capacity", .int c.capacity)],
      group "logging" [("directory", textOrNull c.logging.directory),
        ("format", .str c.logging.format.name), ("file_prefix", textOrNull c.logging.filePrefix)]]

end Config

end Greenhouse
