import Greenhouse.Toml.Token

/-!
# TOML documents

`Toml.parse?` reads a whole document.  Its lines give values to keys of the table that was
named last; a header names the next table.  No value is given twice, and no table has two
headers.
-/

namespace Greenhouse.Toml

/-- Neither arrays and inline tables may be nested this deep, nor may a key have this many
parts. -/
def depthLimit : Nat := 80

/-- Passes over blanks, comments and line ends; the number bounds the steps. -/
def skipFiller : Nat → List Char → List Char
  | 0, cs => cs
  | fuel + 1, cs =>
    let cs := skipComment (skipSpace cs)
    match newline? cs with
    | some rest => skipFiller fuel rest
    | none => cs

/-- Adds the value of a key, whose parts are given, to the entries of a table. -/
def assign (origin : Origin) (entries : Entries) (key : List String) (value : Toml) :
    Option Entries := do
  let last ← key.getLast?
  let front := key.dropLast
  if depthLimit ≤ key.length then none
  else updateAt true (insert (!front.isEmpty) last value) front origin entries

mutual
/-- Reads a value, given how deep it is nested; the first number bounds the steps. -/
def value? : Nat → Nat → Scan Toml
  | 0, _, _ => none
  | fuel + 1, depth, cs =>
    match cs with
    | '"' :: _ | '\'' :: _ => (string? cs).map fun (s, rest) => (.str s, rest)
    | '[' :: rest =>
      if depth + 1 < depthLimit then
        (items? fuel (depth + 1) [] (skipFiller (rest.length + 1) rest)).map fun (items, rest) =>
          (.arr items, rest)
      else none
    | '\x7b' :: rest =>
      if depth + 1 < depthLimit then
        match skipSpace rest with
        | '\x7d' :: rest => some (.table .inline [], rest)
        | rest =>
          (pairs? fuel (depth + 1) [] rest).map fun (entries, rest) =>
            (.table .inline entries, rest)
      else none
    | 't' :: 'r' :: 'u' :: 'e' :: rest => some (.bool true, rest)
    | 'f' :: 'a' :: 'l' :: 's' :: 'e' :: rest => some (.bool false, rest)
    | cs => number? cs

/-- Reads the items of an array that are left, given those before, last one first. -/
def items? : Nat → Nat → List Toml → Scan (List Toml)
  | 0, _, _, _ => none
  | fuel + 1, depth, acc, cs =>
    match cs with
    | ']' :: rest => some (acc.reverse, rest)
    | cs =>
      match value? fuel depth cs with
      | none => none
      | some (v, rest) =>
        match skipFiller (rest.length + 1) rest with
        | ',' :: rest => items? fuel depth (v :: acc) (skipFiller (rest.length + 1) rest)
        | ']' :: rest => some ((v :: acc).reverse, rest)
        | _ => none

/-- Reads the entries of an inline table that are left, given those before. -/
def pairs? : Nat → Nat → Entries → Scan Entries
  | 0, _, _, _ => none
  | fuel + 1, depth, acc, cs =>
    match key? (cs.length + 1) cs with
    | none => none
    | some (key, rest) =>
      match rest with
      | '=' :: rest =>
        match value? fuel depth (skipSpace rest) with
        | none => none
        | some (v, rest) =>
          match assign .header acc key v with
          | none => none
          | some acc =>
            match skipSpace rest with
            | ',' :: rest => pairs? fuel depth acc rest
            | '\x7d' :: rest => some (acc, rest)
            | _ => none
      | _ => none
end

/-- A document that is being read. -/
structure Draft where
  /-- The whole document, but for the table that was named last. -/
  root : Entries
  /-- The table that was named last. -/
  current : Entries
  /-- Its name; none before the first header. -/
  path : List String
  /-- Whether its header is a double one. -/
  double : Bool

namespace Draft

/-- Puts the table that was named last in its place. -/
def finish (d : Draft) : Option Entries :=
  match d.path.getLast? with
  | none => some d.current
  | some last =>
    let place (_ : Origin) (entries : Entries) : Option Entries :=
      if d.double then
        match find? last entries with
        | none => some (entries ++ [(last, .tables [d.current])])
        | some (.tables items) =>
          some (Json.putEntry last (.tables (items ++ [d.current])) entries)
        | some _ => none
      else if (find? last entries).isNone then
        some (entries ++ [(last, .table .header d.current)])
      else none
    updateAt false place d.path.dropLast .header d.root

/-- The entries of a table that was only passed so far, under a key. -/
def passed (key : String) (entries : Entries) : Option Entries :=
  match find? key entries with
  | none => some []
  | some (.table .path inner) => some inner
  | some _ => none

/-- The entries of the table at a path. -/
def entriesAt : List String → Entries → Option Entries
  | [], entries => some entries
  | key :: rest, entries =>
    match find? key entries with
    | none => some []
    | some (.table .inline _) => none
    | some (.table _ inner) => entriesAt rest inner
    | some (.tables items) => items.getLast?.bind (entriesAt rest)
    | some _ => none

/-- Begins the table that a header names. -/
def open? (d : Draft) (path : List String) (double : Bool) : Option Draft := do
  let root ← d.finish
  let last ← path.getLast?
  if depthLimit ≤ path.length then none
  else
    let parent ← entriesAt path.dropLast root
    if double then
      match find? last parent with
      | none | some (.tables _) => some { root, current := [], path, double }
      | some _ => none
    else
      let current ← passed last parent
      let remove (_ : Origin) (entries : Entries) : Option Entries :=
        some (entries.filter fun (k, _) => k != last)
      let root ← updateAt false remove path.dropLast .header root
      some { root, current, path, double }

end Draft

/-- Reads a header, from behind its first bracket. -/
def header? (d : Draft) (cs : List Char) : Option (Draft × List Char) :=
  match cs with
  | '[' :: rest => do
    let (path, rest) ← key? (rest.length + 1) rest
    match rest with
    | ']' :: ']' :: rest =>
      let rest ← lineEnd? rest
      let d ← d.open? path true
      some (d, rest)
    | _ => none
  | cs => do
    let (path, rest) ← key? (cs.length + 1) cs
    match rest with
    | ']' :: rest =>
      let rest ← lineEnd? rest
      let d ← d.open? path false
      some (d, rest)
    | _ => none

/-- Reads a line that gives a value to a key. -/
def pair? (d : Draft) (cs : List Char) : Option (Draft × List Char) := do
  let (key, rest) ← key? (cs.length + 1) cs
  match rest with
  | '=' :: rest =>
    let rest := skipSpace rest
    let (v, rest) ← value? (2 * rest.length + 2) 0 rest
    let rest ← lineEnd? rest
    let current ← assign .header d.current key v
    some ({ d with current }, rest)
  | _ => none

/-- Reads the lines that are left; the number bounds their count. -/
def lines? (d : Draft) : Nat → List Char → Option Entries
  | 0, _ => none
  | fuel + 1, cs =>
    match skipFiller (cs.length + 1) cs with
    | [] => d.finish
    | '[' :: rest => (header? d rest).bind fun (d, rest) => lines? d fuel rest
    | cs => (pair? d cs).bind fun (d, rest) => lines? d fuel rest

/-- Reads a document. -/
def parse? (text : String) : Option Entries :=
  let cs := text.toList
  let cs := if cs.head? = some (Char.ofNat 0xFEFF) then cs.drop 1 else cs
  lines? ⟨[], [], [], false⟩ (cs.length + 2) cs

end Greenhouse.Toml
