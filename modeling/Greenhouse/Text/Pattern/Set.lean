import Greenhouse.Text.Pattern.Escape

/-!
# Sets in a pattern

A set stands between brackets: characters, ranges, classes and other sets, and operations
between such lists.  `Pattern.readSet` reads one, and says how deep it is nested.
-/

namespace Greenhouse.Pattern

/-- A row of parts: how many there are, and how deep the deepest one is nested. -/
structure Row where
  count : Nat
  depth : Nat
deriving DecidableEq

/-- No parts. -/
def Row.empty : Row := ⟨0, 0⟩

/-- One more part. -/
def Row.push (r : Row) (depth : Nat) : Row := ⟨r.count + 1, max r.depth depth⟩

/-- How deep the row is nested as a whole; a single part stands for itself. -/
def Row.total (r : Row) : Nat := if r.count < 2 then r.depth else r.depth + 1

/-- Whether a character may stand in a set. -/
def Mode.allowsMember (m : Mode) (c : Char) (byte : Bool) : Bool :=
  m.allowsChar c byte && (m.unicode || c.toNat < 128)

/-- The names of the classes that are written between colons. -/
def classNames : List String :=
  ["alnum", "alpha", "ascii", "blank", "cntrl", "digit", "graph", "lower", "print", "punct",
    "space", "upper", "word", "xdigit"]

/-- Reads a class with a name, from behind its first bracket: whether it is negated. -/
def namedClass? : List Char → Option (Bool × List Char)
  | ':' :: rest =>
    let (negated, rest) :=
      match rest with
      | '^' :: rest => (true, rest)
      | rest => (false, rest)
    let name := rest.takeWhile (· ≠ ':')
    match rest.drop name.length with
    | ':' :: ']' :: rest =>
      if classNames.contains (String.ofList name) then some (negated, rest) else none
    | _ => none
  | _ => none

/-- Reads one end of a range, or a member that stands alone. -/
def readMember (m : Mode) : List Char → Option (Escape × List Char)
  | [] => none
  | '\\' :: rest => readEscape m rest
  | c :: rest => some (.char c false, rest)

/-- The character behind a hyphen, blanks and comments apart; of a comment only its mark is passed
over. -/
def behindHyphen (m : Mode) (cs : List Char) : Option Char :=
  if m.verbose then
    let rest := cs.dropWhile Text.isBlank
    let rest :=
      match rest with
      | '#' :: rest => rest.dropWhile Text.isBlank
      | rest => rest
    (rest.head?).or cs.head?
  else cs.head?

/-- Whether a member may stand alone in a set. -/
def Mode.allowsAlone (m : Mode) : Escape → Bool
  | .char c byte => m.allowsMember c byte
  | .place _ => false
  | .kind negated => m.allowsKind negated

/-- Reads a member or a range. -/
def readRange (m : Mode) (cs : List Char) : Option (List Char) := do
  let (first, rest) ← readMember m cs
  let alone (rest : List Char) := if m.allowsAlone first then some rest else none
  match m.skip rest with
  | [] => none
  | '-' :: rest =>
    if [some ']', some '-'].contains (behindHyphen m rest) then alone ('-' :: rest)
    else do
      let (last, rest) ← readMember m (m.skip rest)
      match first, last with
      | .char a x, .char b y =>
        if a ≤ b && m.allowsMember a x && m.allowsMember b y then some rest else none
      | _, _ => none
  | rest => alone rest

/-- Reads the hyphens that a set may start with; the number bounds their count. -/
def leadingHyphens (m : Mode) (row : Row) : Nat → List Char → Row × List Char
  | fuel + 1, '-' :: rest => leadingHyphens m (row.push 0) fuel (m.skip rest)
  | _, cs => (row, cs)

/-- Reads the start of a set, from behind its bracket: the members that would have a meaning
elsewhere. -/
def openSet (m : Mode) (cs : List Char) : Option (Row × List Char) :=
  let (negated, cs) :=
    match m.skip cs with
    | '^' :: rest => (true, m.skip rest)
    | cs => (false, cs)
  let (row, cs) := leadingHyphens m .empty cs.length cs
  let (row, cs) :=
    match row.count, cs with
    | 0, ']' :: rest => (row.push 0, m.skip rest)
    | _, cs => (row, cs)
  if (negated && !m.unicode) || (row.count != 0 && !m.allowsMember '-' false) then none
  else some (row, cs)

/-- How deep a list of members is nested, with the operation before it. -/
def operate (before : Option Nat) (row : Row) : Nat :=
  match before with
  | none => row.total
  | some depth => max depth row.total + 1

/-- Reads the members of a set that are left, given those since the last operation and how deep
what stands before it is nested; the number bounds the steps. -/
def readMembers (m : Mode) : Nat → Option Nat → Row → List Char → Option (Nat × List Char)
  | 0, _, _, _ => none
  | fuel + 1, before, row, cs =>
    match m.skip cs with
    | [] => none
    | ']' :: rest => some (operate before row + 1, rest)
    | '[' :: rest =>
      match namedClass? rest with
      | some (negated, rest) =>
        if (m.unicode && m.ignoresCase) || (negated && !m.unicode) then none
        else readMembers m fuel before (row.push 0) rest
      | none => do
        let (inner, rest) ← openSet m rest
        let (depth, rest) ← readMembers m fuel none inner rest
        readMembers m fuel before (row.push depth) rest
    | '&' :: '&' :: rest | '-' :: '-' :: rest | '~' :: '~' :: rest =>
      readMembers m fuel (some (operate before row)) .empty rest
    | rest => (readRange m rest).bind fun rest => readMembers m fuel before (row.push 0) rest

/-- Reads a set, from behind its first bracket: how deep it is nested. -/
def readSet (m : Mode) (cs : List Char) : Option (Nat × List Char) := do
  let (row, rest) ← openSet m cs
  readMembers m (rest.length + 1) none row rest

end Greenhouse.Pattern
