import Greenhouse.Text.Split
import Greenhouse.Text.Utf8

/-!
# Files

A small picture of a file system: files with their bytes, and directories, by path.  A path
starts at one fixed directory, or with a slash at the root.  Beside what is listed there are only
the directories above, those that stand at every root, and a file that is always empty.

A path is followed name by name, and every name but the last has to be that of a directory.
`Files.lookup` finds what stands at a path, `Files.makeDirectories` and `Files.openForWriting`
make what is missing.
-/

namespace Greenhouse

/-- What stands at a path. -/
inductive FileEntry where
  | file (bytes : List UInt8)
  | directory
deriving DecidableEq

/-- Why a file cannot be read or made. -/
inductive FileError where
  | missing
  | taken
  | notADirectory
  | isADirectory
  | nameTooLong
  | zeroByte
  | notText
deriving DecidableEq

/-- The text of the reason. -/
def FileError.message : FileError → String
  | .missing => "No such file or directory (os error 2)"
  | .taken => "File exists (os error 17)"
  | .notADirectory => "Not a directory (os error 20)"
  | .isADirectory => "Is a directory (os error 21)"
  | .nameTooLong => "File name too long (os error 36)"
  | .zeroByte => "file name contained an unexpected NUL byte"
  | .notText => "stream did not contain valid UTF-8"

/-- The files and directories by path; a directory that holds something need not be
listed. -/
abbrev Files := List (String × FileEntry)

namespace Files

/-! ### Places -/

/-- The names on the way to a place.  Leading double dots go up from the fixed directory, and a
slash stands first when the way begins at the root. -/
abbrev Place := List String

/-- Whether a path begins with a slash. -/
def isRooted (path : String) : Bool := path.toList.head? == some '/'

/-- Whether a path ends in a slash. -/
def endsInSlash (path : String) : Bool := path.toList.getLast? == some '/'

/-- Where a path begins. -/
def origin (path : String) : Place := if isRooted path then ["/"] else []

/-- The names of a path. -/
def names (path : String) : List String :=
  ((Text.splitAt '/' path.toList).filter (· ≠ [])).map String.ofList

/-- The place that a name leads to; a dot leads nowhere, and a double dot up. -/
def Place.step (place : Place) (name : String) : Place :=
  if name = "." then place
  else if name = ".." then
    match place.getLast? with
    | none | some ".." => place ++ [".."]
    | some "/" => place
    | some _ => place.dropLast
  else place ++ [name]

/-- The place that a path leads to, whatever stands on the way. -/
def placeOf (path : String) : Place := (names path).foldl Place.step (origin path)

/-- The path of a place. -/
def Place.path : Place → String
  | "/" :: names => "/" ++ String.intercalate "/" names
  | names => String.intercalate "/" names

/-- The directories that stand at every root. -/
def rootDirectories : List String :=
  ["bin", "dev", "etc", "home", "lib", "proc", "root", "run", "sbin", "sys", "tmp", "usr", "var"]

/-- Whether a directory stands at a place in any case. -/
def Place.isStanding : Place → Bool
  | ["/"] => true
  | ["/", name] => rootDirectories.contains name
  | place => place.all (· == "..")

/-- Whether nothing can be made at a place. -/
def Place.isSealed : Place → Bool
  | "/" :: name :: _ => name == "proc" || name == "sys"
  | _ => false

/-- What stands at a place. -/
def entryAt? (files : Files) (place : Place) : Option FileEntry :=
  if place.isStanding then some .directory
  else if place = ["/", "dev", "null"] then some (.file [])
  else
    match files.find? fun (path, _) => placeOf path == place with
    | some (_, entry) => some entry
    | none =>
      if files.any fun (path, _) => place.isPrefixOf (placeOf path) then some .directory else none

/-! ### Following paths -/

/-- The most bytes of a name. -/
def longestName : Nat := 255

/-- The most bytes of a path. -/
def longestPath : Nat := 4095

/-- Checks that a path could be that of a file. -/
def checkPath (path : String) : Except FileError Unit :=
  if path.toList.any (·.toNat = 0) then .error .zeroByte
  else if path.isEmpty then .error .missing
  else if longestPath < path.utf8ByteSize then .error .nameTooLong
  else .ok ()

/-- Checks that a directory stands at a place. -/
def checkDirectory (files : Files) (place : Place) : Except FileError Unit :=
  match files.entryAt? place with
  | none => .error .missing
  | some (.file _) => .error .notADirectory
  | some .directory => .ok ()

/-- Checks the length of a name. -/
def checkName (name : String) : Except FileError Unit :=
  if longestName < name.utf8ByteSize then .error .nameTooLong else .ok ()

/-- Follows names from a place on. -/
def follow (files : Files) (place : Place) : List String → Except FileError Place
  | [] => .ok place
  | name :: rest => do
    files.checkDirectory place
    checkName name
    files.follow (place.step name) rest

/-- What stands at a path.  A path that ends in a slash is that of a directory. -/
def lookup (files : Files) (path : String) : Except FileError FileEntry := do
  checkPath path
  let place ← files.follow (origin path) (names path ++ if endsInSlash path then ["."] else [])
  match files.entryAt? place with
  | none => .error .missing
  | some entry => .ok entry

/-- Whether anything stands at a path. -/
def holds (files : Files) (path : String) : Bool :=
  match files.lookup path with
  | .ok _ => true
  | .error _ => false

/-- Whether a directory stands at a path. -/
def isDirectory (files : Files) (path : String) : Bool :=
  match files.lookup path with
  | .ok .directory => true
  | _ => false

/-- The text of a file. -/
def readText (files : Files) (path : String) : Except FileError String := do
  match ← files.lookup path with
  | .directory => .error .isADirectory
  | .file bytes =>
    match Utf8.decode? bytes with
    | some cs => .ok (String.ofList cs)
    | none => .error .notText

/-- The names in a directory. -/
def namesIn (files : Files) (directory : String) : List String :=
  let here := placeOf directory
  let inner (path : String) : Option String :=
    let place := placeOf path
    if here.isPrefixOf place then
      (place[here.length]?).filter fun name => name != ".." && name != "/"
    else none
  (files.filterMap fun (path, _) => inner path).eraseDups

/-! ### Making files -/

/-- Where the last name of a path stands, if its directory is there, and what stands there. -/
def target (files : Files) (path : String) : Except FileError (Place × Option FileEntry) := do
  checkPath path
  match (names path).getLast? with
  | none => .error .taken
  | some last =>
    let parent ← files.follow (origin path) (names path).dropLast
    files.checkDirectory parent
    if last = "." ∨ last = ".." then .error .taken
    else
      checkName last
      let place := parent ++ [last]
      let entry := files.entryAt? place
      if entry.isNone && place.isSealed then .error .missing else .ok (place, entry)

/-- Makes a directory. -/
def makeDirectory (files : Files) (path : String) : Except FileError Files := do
  match ← files.target path with
  | (_, some _) => .error .taken
  | (place, none) => .ok (files ++ [(place.path, .directory)])

/-- Opens a file for writing, and makes it if it is missing. -/
def openForWriting (files : Files) (path : String) : Except FileError Files := do
  match ← files.target path with
  | (_, some .directory) => .error .isADirectory
  | (_, some (.file _)) => .ok files
  | (place, none) => .ok (files ++ [(place.path, .file [])])

/-- A path and those of the directories above it, nearest first.  Dots count only at the start of
a path. -/
def lineage (path : String) : List String :=
  let counts (i : Nat) (name : String) : Bool := name != "." || (i == 0 && origin path == [])
  let kept := ((names path).zipIdx.filter fun (name, i) => counts i name).map Prod.fst
  let above := (List.range kept.length).reverse.filter (· ≠ 0)
  path :: above.map fun n => Place.path (origin path ++ kept.take n)

/-- Makes the first of some directories, each of which stands in the next one, with those that
are missing: the files, and whether it is there. -/
def makeEach (files : Files) : List String → Files × Bool
  | [] => (files, true)
  | path :: above =>
    let settled (files : Files) : Files × Bool := (files, files.isDirectory path)
    match files.makeDirectory path with
    | .ok made => (made, true)
    | .error .missing =>
      match files.makeEach above with
      | (files, false) => (files, false)
      | (files, true) =>
        match files.makeDirectory path with
        | .ok made => (made, true)
        | .error _ => settled files
    | .error _ => settled files

/-- Makes a directory with those above it that are missing: the files, and whether it is
there. -/
def makeDirectories (files : Files) (path : String) : Files × Bool :=
  if path.isEmpty then (files, true) else files.makeEach (lineage path)

/-- The path of a name in a directory; a name that begins at the root stands for itself. -/
def join (directory name : String) : String :=
  if isRooted name || directory.isEmpty then name
  else if endsInSlash directory then directory ++ name
  else directory ++ "/" ++ name

end Files

end Greenhouse
