import Greenhouse.Json.Record

/-!
# TOML values

The values of a TOML document.  Numbers with a fraction, dates and times are kept as they
are written, since no configuration has any.  A table knows how it came about, which decides
whether it may be extended later.
-/

namespace Greenhouse

/-- How a table came about. -/
inductive Toml.Origin where
  /-- By a header of its own, or as the whole document. -/
  | header
  /-- On the way to a table with a longer header. -/
  | path
  /-- By a dotted key. -/
  | dotted
  /-- Between braces. -/
  | inline
deriving DecidableEq

/-- A value of a TOML document. -/
inductive Toml where
  | str (value : String)
  | int (value : Int)
  | bool (value : Bool)
  /-- A number with a fraction or an exponent. -/
  | float (text : String)
  /-- A date, a time or both. -/
  | moment (text : String)
  | arr (items : List Toml)
  | table (origin : Toml.Origin) (entries : List (String × Toml))
  /-- The tables under one double header. -/
  | tables (items : List (List (String × Toml)))

namespace Toml

/-- The entries of a table. -/
abbrev Entries := List (String × Toml)

/-- The value of a key. -/
def find? (key : String) : Entries → Option Toml
  | [] => none
  | (k, v) :: rest => if k = key then some v else find? key rest

/-- Changes the entries of the table at a path, and makes the tables that are missing on the
way.  Along a dotted key no table may be entered that has a header or braces. -/
def updateAt (dotted : Bool) (f : Origin → Entries → Option Entries) :
    List String → Origin → Entries → Option Entries
  | [], origin, entries => f origin entries
  | key :: rest, _, entries =>
    match find? key entries with
    | none => do
      let origin := if dotted then Origin.dotted else .path
      let inner ← updateAt dotted f rest origin []
      some (Json.putEntry key (.table origin inner) entries)
    | some (.table origin inner) =>
      if origin = .inline ∨ (dotted ∧ origin = .header) then none
      else do
        let inner ← updateAt dotted f rest origin inner
        some (Json.putEntry key (.table origin inner) entries)
    | some (.tables items) => do
      let last ← items.getLast?
      let last ← updateAt dotted f rest .header last
      some (Json.putEntry key (.tables (items.dropLast ++ [last])) entries)
    | some _ => none

/-- Adds a value under a new key; a table with a header is not extended by a dotted key. -/
def insert (dotted : Bool) (key : String) (value : Toml) (origin : Origin) (entries : Entries) :
    Option Entries :=
  if decide (origin = .dotted) = dotted ∧ (find? key entries).isNone then
    some (entries ++ [(key, value)])
  else none

end Toml

end Greenhouse
