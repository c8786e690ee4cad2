/-!
# The command line

`CommandLine.parse` reads the arguments with which the console is started: two options, each
given at most once, and a task.  An option keeps its value back until the next option or the
end of the arguments, so that what is wrong with a task is reported before what is wrong with
the last option in front of it.
-/

namespace Greenhouse

/-- What the console is started for. -/
inductive Task where
  /-- To take commands from the operator. -/
  | run
  /-- To show the status of the backend. -/
  | status
  /-- To give a goal, in words, to the planner. -/
  | goal (words : List String)
deriving DecidableEq

/-- What the command line says. -/
structure CommandLine where
  /-- The file with the configuration. -/
  config : Option String
  /-- The address of the backend, in place of the configured one. -/
  backendUrl : Option String
  task : Option Task
deriving DecidableEq

/-- Why the console is not started. -/
inductive ArgumentError where
  | helpAsked
  | versionAsked
  | unknownArgument
  /-- An option is given twice. -/
  | repeatedOption
  /-- An option has no value, or an empty one where that is no value. -/
  | missingValue
  /-- A value stands at a flag that takes none. -/
  | unneededValue
  | unknownTask
  /-- A goal without words. -/
  | missingWords
deriving DecidableEq

/-- The exit code that goes with the reason. -/
def ArgumentError.exitCode : ArgumentError → Nat
  | .helpAsked | .versionAsked => 0
  | _ => 2

namespace CommandLine

/-- The program's name. -/
def program : String := "canopy-console"

/-- What the program says when it is asked for help. -/
def usage : String :=
  "Canopy greenhouse operator console

Usage: canopy-console [OPTIONS] [COMMAND]

Commands:
  run     Connect to the backend and accept operator commands
  status  Print backend health and exit
  goal    Hand a goal to the backend planner and exit
  help    Print this message or the help of the given subcommand(s)

Options:
      --config <FILE>      Path to configuration file
      --backend-url <URL>  Override the backend base URL
  -h, --help               Print help
  -V, --version            Print version"

/-- The options that take a value. -/
inductive Setting where
  | config
  | backendUrl
deriving DecidableEq

/-- An argument by its form. -/
inductive Form where
  /-- Two dashes alone: only words follow. -/
  | escape
  /-- A name behind two dashes, and the value behind its equals sign. -/
  | long (name : String) (value : Option String)
  /-- A letter behind one dash. -/
  | short (letter : Char)
  | word
deriving DecidableEq

/-- The form of an argument. -/
def formOf (argument : String) : Form :=
  match argument.toList with
  | ['-', '-'] => .escape
  | '-' :: '-' :: rest =>
    let name := String.ofList (rest.takeWhile (· != '='))
    match rest.dropWhile (· != '=') with
    | _ :: value => .long name (some (String.ofList value))
    | [] => .long name none
  | '-' :: letter :: _ => .short letter
  | _ => .word

/-- The options read so far, and one whose value is still open or has not been stored. -/
structure Given where
  config : Option String
  backendUrl : Option String
  waiting : Option (Setting × Option String)
deriving DecidableEq

namespace Given

/-- No option has been read. -/
def nothing : Given := ⟨none, none, none⟩

/-- Stores the value of an option. -/
def store (g : Given) : Setting → Option String → Except ArgumentError Given
  | _, none => .error .missingValue
  | .config, some value =>
    if g.config.isSome then .error .repeatedOption
    else if value.isEmpty then .error .missingValue
    else .ok { g with config := some value }
  | .backendUrl, some value =>
    if g.backendUrl.isSome then .error .repeatedOption
    else .ok { g with backendUrl := some value }

/-- Stores the value that was kept back. -/
def settle (g : Given) : Except ArgumentError Given :=
  match g.waiting with
  | none => .ok g
  | some (option, value) => { g with waiting := none }.store option value

/-- Ends the options.  The environment gives the address when no option does. -/
def finish (g : Given) (env : Option String) (task : Option Task) :
    Except ArgumentError CommandLine := do
  let g ← g.settle
  return ⟨g.config, g.backendUrl.or env, task⟩

end Given

/-- Reads the arguments of a task, which are words if it takes any. -/
def readWords (takesWords : Bool) : Bool → List String → Except ArgumentError (List String)
  | _, [] => .ok []
  | escaped, argument :: rest =>
    let word : Except ArgumentError (List String) :=
      if takesWords then (readWords takesWords escaped rest).map (argument :: ·)
      else .error .unknownArgument
    if escaped then word
    else
      match formOf argument with
      | .escape => readWords takesWords true rest
      | .long "help" none | .short 'h' => .error .helpAsked
      | .long "help" (some _) => .error .unneededValue
      | .long _ _ | .short _ => .error .unknownArgument
      | .word => word

/-- The reason for which a request for help is no task: the names after it have to be those of
tasks. -/
def helpOn : List String → ArgumentError
  | [] => .helpAsked
  | name :: rest =>
    if ["run", "status", "goal", "help"].contains name && rest.isEmpty then .helpAsked
    else .unknownTask

/-- Reads a task, given its name and its arguments; none when there is no such task. -/
def readTask (name : String) (rest : List String) : Option (Except ArgumentError Task) :=
  match name with
  | "run" => some ((readWords false false rest).map fun _ => .run)
  | "status" => some ((readWords false false rest).map fun _ => .status)
  | "goal" =>
    some <| (readWords true false rest).bind fun words =>
      if words.isEmpty then .error .missingWords else .ok (.goal words)
  | "help" => some (.error (helpOn rest))
  | _ => none

/-- Reads what follows two dashes alone, where nothing may stand. -/
def readEscaped (g : Given) (env : Option String) : List String → Except ArgumentError CommandLine
  | [] => g.finish env none
  | name :: rest => .error (if (readTask name rest).isSome then .unknownArgument else .unknownTask)

/-- Reads the arguments that are left. -/
def readArguments (env : Option String) : Given → List String → Except ArgumentError CommandLine
  | g, [] => g.finish env none
  | g, argument :: rest =>
    let option (o : Setting) (value : Option String) : Except ArgumentError CommandLine := do
      let g ← g.settle
      match value with
      | some _ => readArguments env (← g.store o value) rest
      | none => readArguments env { g with waiting := some (o, none) } rest
    let flag (reason : ArgumentError) : Except ArgumentError CommandLine := do
      let _ ← g.settle
      .error reason
    match formOf argument with
    | .escape => readEscaped g env rest
    | .long "config" value => option .config value
    | .long "backend-url" value => option .backendUrl value
    | .long "help" none | .short 'h' => flag .helpAsked
    | .long "version" none | .short 'V' => flag .versionAsked
    | .long "help" _ | .long "version" _ => .error .unneededValue
    | .long _ _ | .short _ => .error .unknownArgument
    | .word =>
      match g.waiting with
      | some (o, none) =>
        readArguments env { g with waiting := some (o, some argument) } rest
      | _ =>
        match readTask argument rest with
        | some (.ok task) => g.finish env (some task)
        | some (.error e) => .error e
        | none => .error .unknownTask

/-- Reads the arguments after the program's name, given the address in the environment. -/
def parse (env : Option String) (arguments : List String) : Except ArgumentError CommandLine :=
  readArguments env .nothing arguments

end CommandLine

end Greenhouse
