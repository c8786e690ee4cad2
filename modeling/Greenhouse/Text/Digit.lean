/-!
# Digits

`Text.digitValue?` is the value of a digit in a base of at most sixteen, in either case, and
`Text.numberOf?` the number that a row of digits makes.  `Text.hex` writes a number in the
base sixteen.
-/

namespace Greenhouse.Text

/-- Whether a character is a decimal digit. -/
def isDigit (c : Char) : Bool := '0' ≤ c && c ≤ '9'

/-- Whether a character is a letter of ASCII. -/
def isLetter (c : Char) : Bool := ('a' ≤ c && c ≤ 'z') || ('A' ≤ c && c ≤ 'Z')

/-- The value of a digit in a base. -/
def digitValue? (base : Nat) (c : Char) : Option Nat :=
  let value? : Option Nat :=
    if '0' ≤ c ∧ c ≤ '9' then some (c.toNat - 48)
    else if 'a' ≤ c ∧ c ≤ 'f' then some (c.toNat - 87)
    else if 'A' ≤ c ∧ c ≤ 'F' then some (c.toNat - 55)
    else none
  value?.filter fun n => n < base

/-- The number that digits make in a base; nothing makes zero. -/
def numberOf? (base : Nat) (cs : List Char) : Option Nat :=
  cs.foldlM (fun n c => (digitValue? base c).map fun d => n * base + d) 0

/-- The number that decimal digits make. -/
def decimal (cs : List Char) : Nat := (numberOf? 10 cs).getD 0

/-- The lower case hexadecimal digits of a number. -/
def hex (n : Nat) : String := String.ofList (Nat.toDigits 16 n)

end Greenhouse.Text
