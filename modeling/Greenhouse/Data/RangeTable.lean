import Greenhouse.Text.Blank
import Greenhouse.Text.Digit

/-!
# Tables of ranges

A property of characters holds on many ranges of code points.  A `RangeTable` lists such
ranges in ascending order, each with a value.  It is written as a text of words:
`41-5A` is the range between two code points in hexadecimal, `AA` a single one, and
`41-5A=L` gives the range the value that `L` stands for.
-/

namespace Greenhouse

/-- A range of code points and its value. -/
structure RangeTable.Row (α : Type) where
  first : Nat
  last : Nat
  value : α

/-- Ranges of code points in ascending order. -/
structure RangeTable (α : Type) where
  rows : Array (RangeTable.Row α)

namespace RangeTable

variable {α : Type}

/-- The index of the first row, between `low` and `high`, that ends at or after a code
point. -/
def lowerBound (t : RangeTable α) (code : Nat) : Nat → Nat → Nat → Nat
  | 0, low, _ => low
  | fuel + 1, low, high =>
    if high ≤ low then low
    else
      let mid := (low + high) / 2
      match t.rows[mid]? with
      | some row =>
        if row.last < code then t.lowerBound code fuel (mid + 1) high
        else t.lowerBound code fuel low mid
      | none => low

/-- The row that a code point belongs to. -/
def row? (t : RangeTable α) (code : Nat) : Option (Row α) :=
  let size := t.rows.size
  t.rows[t.lowerBound code (size.log2 + 2) 0 size]?.filter fun row =>
    row.first ≤ code && code ≤ row.last

/-- The value at a character. -/
def find? (t : RangeTable α) (c : Char) : Option α := (t.row? c.toNat).map Row.value

/-- Whether a character belongs to one of the ranges. -/
def contains (t : RangeTable α) (c : Char) : Bool := (t.row? c.toNat).isSome

/-! ### Tables as texts -/

/-- The words of a text. -/
def words (text : String) : List (List Char) :=
  let step (state : List (List Char) × List Char) (c : Char) :=
    if Text.isBlank c then (state.2.reverse :: state.1, []) else (state.1, c :: state.2)
  let (done, word) := text.foldl step ([], [])
  ((word.reverse :: done).filter fun w => !w.isEmpty).reverse

/-- The parts of a word before and after a mark. -/
def cut (mark : Char) (word : List Char) : List Char × List Char :=
  (word.takeWhile (· ≠ mark), (word.dropWhile (· ≠ mark)).drop 1)

/-- A number in hexadecimal. -/
def hexadecimal (cs : List Char) : Nat := (Text.numberOf? 16 cs).getD 0

/-- The row that a word stands for. -/
def Row.ofWord (value : List Char → α) (word : List Char) : Row α :=
  let (range, mark) := cut '=' word
  let (first, last) := cut '-' range
  { first := hexadecimal first
    last := hexadecimal (if last.isEmpty then first else last)
    value := value mark }

/-- The table that a text stands for. -/
def ofText (value : List Char → α) (text : String) : RangeTable α :=
  ⟨((words text).map (Row.ofWord value)).toArray⟩

/-- A table without values. -/
def ofRanges (text : String) : RangeTable Unit := ofText (fun _ => ()) text

end RangeTable

end Greenhouse
