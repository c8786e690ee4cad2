/-!
# Tables

A `Table` is a list of entries in ascending order of their names, each name once.  The
operations keep that order, so that two tables with the same entries are equal.
-/

namespace Greenhouse

/-- Entries by name. -/
abbrev Table (α : Type) := List (String × α)

namespace Table

variable {α : Type}

/-- The value of a name. -/
def find? (name : String) : Table α → Option α
  | [] => none
  | (k, v) :: rest => if k = name then some v else find? name rest

/-- The table with a value for a name, in place of any other. -/
def put (name : String) (value : α) : Table α → Table α
  | [] => [(name, value)]
  | (k, v) :: rest =>
    if name = k then (name, value) :: rest
    else if name < k then (name, value) :: (k, v) :: rest
    else (k, v) :: put name value rest

/-- The table without a name. -/
def erase (name : String) (t : Table α) : Table α := t.filter fun (k, _) => k != name

/-- The names of a table, in ascending order. -/
def names (t : Table α) : List String := t.map Prod.fst

/-- The table with every value changed. -/
def mapValues {β : Type} (f : α → β) (t : Table α) : Table β := t.map fun (k, v) => (k, f v)

/-- The entries stand in ascending order of their names, each name once. -/
def Ordered (t : Table α) : Prop := t.names.Pairwise (· < ·)

end Table

end Greenhouse
