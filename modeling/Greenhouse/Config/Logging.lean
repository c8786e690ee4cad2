import Greenhouse.Config.Basic
import Greenhouse.Config.Files
import Greenhouse.Config.LogFilter

/-!
# Logging

The log is written to the terminal, and to a file in a directory if one is configured.
`Logging.start` makes the directory and the file, and then reads the directives.
-/

namespace Greenhouse

/-- How the log has been started. -/
inductive LogState where
  /-- The log is written as asked. -/
  | ready
  /-- The directives for this program are none, and the usual ones are used. -/
  | fallenBack
  /-- The directory cannot be made. -/
  | noDirectory (path : String)
  /-- The file cannot be made, or the directives cannot be cut into parts. -/
  | brokenOff
deriving DecidableEq

/-- What has become of the log. -/
structure Logging where
  state : LogState
  /-- The files there are now. -/
  files : Files
deriving DecidableEq

namespace LogState

/-- Why the program cannot go on. -/
def complaint? : LogState → Option String
  | .noDirectory path => some ("unable to create log directory " ++ path)
  | _ => none

/-- How directives start the log; those that are not for this program alone fail silently. -/
def ofDirectives (own common : Option String) : LogState :=
  match own, common with
  | some text, _ =>
    match LogFilter.check text with
    | .ok () => .ready
    | .error .refused => .fallenBack
    | .error .broken => .brokenOff
  | none, some text =>
    match LogFilter.check text with
    | .error .broken => .brokenOff
    | _ => .ready
  | none, none => .ready

end LogState

namespace Logging

/-- The name of a log file; every day has a file of its own. -/
def fileName (name date : String) : String := name ++ ".log." ++ date

/-- A date, to stand for the day on which the log is started. -/
def someDate : String := "2000-01-01"

/-- Opens a log file, with the directories that its name asks for: the files, and whether it is
open. -/
def openFile (files : Files) (path : String) : Files × Bool :=
  match files.openForWriting path with
  | .ok opened => (opened, true)
  | .error _ =>
    match files.makeEach ((Files.lineage path).drop 1) with
    | (files, false) => (files, false)
    | (files, true) =>
      match files.openForWriting path with
      | .ok opened => (opened, true)
      | .error _ => (files, false)

/-- Starts the log of a service, with the directives for this program and those for all. -/
def start (service : String) (config : LoggingConfig) (own common : Option String)
    (files : Files) : Logging :=
  let state := LogState.ofDirectives own common
  match config.directory with
  | none => ⟨state, files⟩
  | some directory =>
    match files.makeDirectories directory with
    | (files, false) => ⟨.noDirectory directory, files⟩
    | (files, true) =>
      let name := fileName (config.filePrefix.getD service) someDate
      match openFile files (Files.join directory name) with
      | (files, true) => ⟨state, files⟩
      | (files, false) => ⟨.brokenOff, files⟩

/-- The names in a directory, each up to the mark of a log file, in ascending order. -/
def logsIn (l : Logging) (directory : String) : List String :=
  ((l.files.namesIn directory).map fun n => (n.splitOn ".log").headD n).mergeSort (· ≤ ·)

end Logging

end Greenhouse
