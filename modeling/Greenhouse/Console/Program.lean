import Greenhouse.Config.Load
import Greenhouse.Config.Logging
import Greenhouse.Console.CommandLine
import Greenhouse.Console.Session

/-!
# The program

A whole run of the console program, from its arguments to its end, with the stand-in at some
address in place of the backend.  The configuration is that of the first file found, and the
standard one if there is none that can be used; only a file that was asked for has to be
usable.
-/

namespace Greenhouse.Console

open Rehearsal

/-- What a run of the program starts from. -/
structure Invocation where
  /-- The arguments behind the program's name. -/
  arguments : List String
  files : Files
  /-- The path of the configuration in the environment. -/
  configPath : Option String
  /-- The address of the backend in the environment. -/
  backendUrl : Option String
  /-- The directives for the log in the environment. -/
  logDirectives : Option String
  /-- The directives there for the logs of all programs. -/
  commonDirectives : Option String
  /-- What is typed. -/
  typed : List Typed
deriving DecidableEq

/-- What has become of a run. -/
structure Finished where
  exitCode : Nat
  /-- Why the arguments were the end of it. -/
  refused : Option ArgumentError
  /-- What the console has printed. -/
  printed : List String
  /-- Why the run has failed. -/
  complaint : Option String
  /-- Why the standard configuration was used. -/
  fellBack : Option ConfigError
  logging : Option Logging
  standIn : StandIn
deriving DecidableEq

/-- The files in which a configuration is looked for. -/
def candidates (asked : Option String) : List String :=
  asked.toList ++ ["configs/console.toml", "configs/console.example.toml"]

/-- The configuration for a command line, and why it is the standard one if it is. -/
def configuration (i : Invocation) (c : CommandLine) :
    Except ConfigError (Config × Option ConfigError) := do
  let (config, fellBack) ←
    match Config.load i.files i.configPath (candidates c.config), c.config with
    | .ok loaded, _ => .ok (loaded.config, none)
    | .error e, none => .ok (Config.standard, some e)
    | .error e, some _ => .error e
  let baseUrl := c.backendUrl.getD config.backend.baseUrl
  let config := { config with backend := { config.backend with baseUrl } }
  pure (config, fellBack)

/-- Whether an address leads to a place. -/
def leadsTo (url place : Url) : Bool :=
  url.scheme == place.scheme && url.host == place.host && url.port == place.port

/-- Who answers requests to an address when the stand-in is at a place. -/
def deskAt (url place : Url) : Desk := if leadsTo url place then .standIn else .nobody url

/-- What the one who dials a path at an address finds. -/
def doorAt (url place : Url) (path : String) : Door :=
  if leadsTo url place && path == "/ws" then .standIn else .shut

/-- The stage for a configuration, when the stand-in is at a place. -/
def stageAt (config : Config) (standIn : StandIn) (place : Url) : Except ConfigError Stage := do
  let bridge ← Bridge.ofConfig config
  let url ← config.backend.httpUrl
  let channelUrl ← config.backend.websocketUrl
  let stage := Stage.ofBridge bridge config.capacity (deskAt url place)
    (doorAt url place channelUrl.path)
  pure { stage with standIn }

/-- What the program is asked to do is done: what it prints, and why it has failed. -/
def perform (s : Stage) (typed : List Typed) : Task → Stage × List String × Option String
  | .run =>
    let (s, lines) := eventLines s.start.settle
    let (s, printed, course) := run s typed
    (s, greeting :: lines ++ printed,
      if course = .failed then some "stream did not contain valid UTF-8" else none)
  | .status =>
    match s.status with
    | (s, .ok status) => (s, [statusLine status], none)
    | (s, .error e) => (s, [], some e.message)
  | .goal words =>
    match s.order (.goal (String.intercalate " " words)) with
    | (s, .ok (.planned (some result))) => (s, ["goal accepted", result.pretty], none)
    | (s, .ok _) => (s, ["goal accepted"], none)
    | (s, .error e) => (s, [], some e.message)

/-- The exit code of a run that had to be broken off. -/
def brokenOff : Nat := 101

/-- A run of the program with a configuration, when the stand-in is at a place: what it prints,
why it has failed, and its exit code. -/
def runWith (config : Config) (standIn : StandIn) (place : Url) (typed : List Typed)
    (task : Task) : StandIn × List String × Option String × Nat :=
  match stageAt config standIn place with
  | .error e => (standIn, [], some e.headline, 1)
  | .ok stage =>
    if EventBus.canHold EventBus.placeBytes config.capacity then
      let (stage, printed, complaint) := perform stage typed task
      (stage.standIn, printed, complaint, if complaint.isSome then 1 else 0)
    else (standIn, [], none, brokenOff)

/-- A run of the program, when the stand-in is at a place. -/
def Invocation.run (i : Invocation) (standIn : StandIn) (place : Url) : Finished :=
  let nothing : Finished := ⟨1, none, [], none, none, none, standIn⟩
  match CommandLine.parse i.backendUrl i.arguments with
  | .error e => { nothing with exitCode := e.exitCode, refused := some e }
  | .ok c =>
    match configuration i c with
    | .error e => { nothing with complaint := some e.headline }
    | .ok (config, fellBack) =>
      match config.validate with
      | .error e => { nothing with complaint := some e.headline, fellBack }
      | .ok () =>
        let logging := Logging.start CommandLine.program config.logging i.logDirectives
          i.commonDirectives i.files
        let nothing := { nothing with fellBack, logging := some logging }
        match logging.state with
        | .noDirectory _ => { nothing with complaint := logging.state.complaint? }
        | .brokenOff => { nothing with exitCode := brokenOff }
        | .ready | .fallenBack =>
          let (standIn, printed, complaint, exitCode) :=
            runWith config standIn place i.typed (c.task.getD .run)
          { nothing with exitCode, printed, complaint, standIn }

end Greenhouse.Console
