import Greenhouse.Text.Alphanumeric
import Greenhouse.Text.Pattern.Set

/-!
# Patterns

A pattern is a regular expression: characters, sets, choices, repetitions and groups.
`Pattern.isValid` says whether a text is one that can be searched for.  The pattern is read
once, from left to right, along with the `Mode` that its marks in parentheses set.
-/

namespace Greenhouse.Pattern

/-- How deep a pattern may be nested. -/
def deepest : Nat := 250

/-- What has been read of a branch: the parts but the last one, and how deep the last part is
nested, if it may be repeated. -/
structure Branch where
  before : Row
  last : Option Nat
deriving DecidableEq

/-- Nothing has been read. -/
def Branch.empty : Branch := ⟨.empty, none⟩

/-- All parts of a branch. -/
def Branch.row (b : Branch) : Row :=
  match b.last with
  | some depth => b.before.push depth
  | none => b.before

/-- One more part, which may be repeated. -/
def Branch.push (b : Branch) (depth : Nat) : Branch := ⟨b.row, some depth⟩

/-- One more part, which may not be repeated. -/
def Branch.pushMark (b : Branch) : Branch := ⟨b.row.push 0, none⟩

/-- What is left of a pattern, how it is read, and the names of its groups so far. -/
structure Reader where
  mode : Mode
  names : List (List Char)
  rest : List Char
deriving DecidableEq

/-! ### Groups -/

/-- Reads the name of a group. -/
def readName (r : Reader) : Option Reader := do
  let name := r.rest.takeWhile (· ≠ '>')
  let inner (c : Char) := Text.isAlphanumeric c || "_.[]".toList.contains c
  match name, r.rest.drop name.length with
  | first :: others, '>' :: rest =>
    if (first = '_' || Text.isAlphabetic first) && others.all inner && !r.names.contains name then
      some { r with names := name :: r.names, rest }
    else none
  | _, _ => none

/-- Reads the letters that set the mode, up to a colon or a parenthesis: them, and what follows.
The letters behind a hyphen are taken back. -/
def readLetters (seen : List Char) : List Char → Option (List Char × List Char)
  | [] => none
  | c :: rest =>
    if c = ':' ∨ c = ')' then
      if seen.head? = some '-' then none else some (seen.reverse, c :: rest)
    else if seen.contains c || !"-imsUuRx".toList.contains c then none
    else readLetters (c :: seen) rest

/-- The mode that letters set. -/
def Mode.setBy (m : Mode) (letters : List Char) : Mode :=
  let given := letters.takeWhile (· ≠ '-')
  let state (c : Char) (old : Bool) : Bool :=
    if given.contains c then true else if letters.contains c then false else old
  ⟨state 'i' m.ignoresCase, state 'u' m.unicode, state 'x' m.verbose⟩

/-- What an opening parenthesis begins. -/
inductive Opening where
  /-- A group. -/
  | group (r : Reader)
  /-- A mark that sets the mode for what follows. -/
  | mark (r : Reader)
deriving DecidableEq

/-- Reads what stands behind an opening parenthesis. -/
def readOpening (r : Reader) : Option Opening :=
  match r.mode.skip r.rest with
  | '?' :: 'P' :: '<' :: rest => (readName { r with rest }).map .group
  | '?' :: '<' :: rest =>
    if rest.head? = some '=' || rest.head? = some '!' then none
    else (readName { r with rest }).map .group
  | '?' :: rest => do
    let (letters, rest) ← readLetters [] rest
    let mode := r.mode.setBy letters
    match rest with
    | ')' :: rest => if letters.isEmpty then none else some (.mark { r with mode, rest })
    | _ :: rest => some (.group { r with mode, rest })
    | [] => none
  | rest => some (.group { r with rest })

/-! ### Bodies -/

/-- Reads a character, an escape or a sign that is not in a set. -/
def readSingle (m : Mode) : List Char → Option (List Char)
  | [] => none
  | '\\' :: rest => do
    let (escape, rest) ← readEscape m rest
    if m.allows escape then some rest else none
  | c :: rest =>
    let allowed := if c = '.' then m.unicode else c = '^' || c = '$' || m.allowsChar c false
    if allowed then some rest else none

/-- Reads what is left of a body, given the branches before, the branch that is being read and
whether a parenthesis ends it: how deep it is nested.  The number bounds the steps. -/
def readBody : Nat → Bool → Row → Branch → Reader → Option (Nat × Reader)
  | 0, _, _, _, _ => none
  | fuel + 1, inGroup, branches, branch, r =>
    let depth := (branches.push branch.row.total).total
    match r.mode.skip r.rest with
    | [] => if inGroup then none else some (depth, { r with rest := [] })
    | ')' :: rest => if inGroup then some (depth, { r with rest }) else none
    | '|' :: rest =>
      readBody fuel inGroup (branches.push branch.row.total) .empty { r with rest }
    | '(' :: rest => do
      match ← readOpening { r with rest } with
      | .mark r => readBody fuel inGroup branches branch.pushMark r
      | .group inner =>
        let (depth, after) ← readBody fuel true .empty .empty inner
        readBody fuel inGroup branches (branch.push (depth + 1)) { after with mode := r.mode }
    | '[' :: rest => do
      let (depth, rest) ← readSet r.mode rest
      readBody fuel inGroup branches (branch.push depth) { r with rest }
    | '\x7b' :: _ => none
    | c :: rest =>
      if c = '?' ∨ c = '*' ∨ c = '+' then
        match branch.last with
        | none => none
        | some depth =>
          let rest := if rest.head? = some '?' then rest.drop 1 else rest
          readBody fuel inGroup branches ⟨branch.before, some (depth + 1)⟩ { r with rest }
      else do
        let rest ← readSingle r.mode (c :: rest)
        readBody fuel inGroup branches (branch.push 0) { r with rest }

/-- Whether a text is a pattern. -/
def isValid (cs : List Char) : Bool :=
  match readBody (cs.length + 1) false .empty .empty ⟨.initial, [], cs⟩ with
  | some (depth, _) => depth ≤ deepest
  | none => false

end Greenhouse.Pattern
