import Greenhouse.Console.Program

/-!
# The console's entry

The console is rehearsed against the stand-in, which is to be found where the backend is by
default.  Everything that is typed is read first.
-/

namespace Greenhouse.Console

/-- The file at a path, if it can be read. -/
def fileAt (path : String) : IO Files := do
  try
    let content ← IO.FS.readBinFile path
    pure [(path, .file content.toList)]
  catch _ => pure []

/-- The lines that are typed until the keyboard ends or cannot be read. -/
partial def readTyped (keyboard : IO.FS.Stream) (before : List Typed) : IO (List Typed) := do
  let typed ← try some <$> keyboard.getLine catch _ => pure none
  match typed with
  | none => pure (before ++ [.unreadable])
  | some "" => pure before
  | some line => readTyped keyboard (before ++ typedLines line)

/-- What the program says about a run on the side of what it prints. -/
def remarks (f : Finished) : List String :=
  (match f.fellBack with
    | some e => [e.message ++ "; using built-in defaults"]
    | none => [])
  ++ (if f.logging.any fun l => l.state == .fallenBack
      then ["invalid CANOPY_LOG directive; falling back to info"] else [])
  ++ (match f.complaint with
    | some complaint => ["Error: " ++ complaint]
    | none => [])

/-- What the program says instead of running. -/
def refusalText : ArgumentError → String
  | .versionAsked => CommandLine.program
  | _ => CommandLine.usage

/-- The console, started with arguments; its exit code. -/
def launch (arguments : List String) : IO UInt32 := do
  let configPath ← IO.getEnv "CANOPY_CONFIG"
  let backendUrl ← IO.getEnv "CANOPY_BACKEND_URL"
  let logDirectives ← IO.getEnv "CANOPY_LOG"
  let commonDirectives ← IO.getEnv "RUST_LOG"
  let asked := (CommandLine.parse backendUrl arguments).toOption.bind CommandLine.config
  let files ← (configPath.toList ++ candidates asked).flatMapM fileAt
  let typed ← readTyped (← IO.getStdin) []
  let invocation : Invocation :=
    { arguments, files, configPath, backendUrl, logDirectives, commonDirectives, typed }
  match BackendConfig.standard.httpUrl with
  | .error e =>
    IO.eprintln e.message
    pure 1
  | .ok place =>
    let finished := invocation.run .fresh place
    if let some reason := finished.refused then
      IO.println (refusalText reason)
    for text in finished.printed do
      IO.println text
    for text in remarks finished do
      IO.eprintln text
    pure finished.exitCode.toUInt32

end Greenhouse.Console

/-- The console. -/
def main (arguments : List String) : IO UInt32 := Greenhouse.Console.launch arguments
