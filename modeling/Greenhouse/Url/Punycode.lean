/-!
# Names of letters beyond ASCII

Punycode writes a label as its ASCII characters and a list of insertions, each a number of
digits in a mixed base.
-/

namespace Greenhouse.Punycode

/-- The next bias after an insertion. -/
def adapt (delta points : Nat) (first : Bool) : Nat :=
  let rec shrink (delta k : Nat) : Nat → Nat × Nat
    | 0 => (delta, k)
    | fuel + 1 => if 455 < delta then shrink (delta / 35) (k + 36) fuel else (delta, k)
  let delta := if first then delta / 700 else delta / 2
  let (delta, k) := shrink (delta + delta / points) 0 64
  k + 36 * delta / (delta + 38)

/-- The threshold of a digit. -/
def threshold (bias k : Nat) : Nat := min 26 (max 1 (k - bias))

/-- The character of a digit. -/
def digit (n : Nat) : Char := if n < 26 then Char.ofNat (97 + n) else Char.ofNat (22 + n)

/-- The value of a digit. -/
def digitValue? (c : Char) : Option Nat :=
  if 'a' ≤ c ∧ c ≤ 'z' then some (c.toNat - 97)
  else if 'A' ≤ c ∧ c ≤ 'Z' then some (c.toNat - 65)
  else if '0' ≤ c ∧ c ≤ '9' then some (c.toNat - 22)
  else none

/-- The digits of a number. -/
def digits (bias q k : Nat) : Nat → List Char
  | 0 => []
  | fuel + 1 =>
    let t := threshold bias k
    if q < t then [digit q]
    else digit (t + (q - t) % (36 - t)) :: digits bias ((q - t) / (36 - t)) (k + 36) fuel

/-- What is known while a label is written. -/
structure State where
  delta : Nat
  bias : Nat
  /-- The number of characters written. -/
  written : Nat
  first : Bool
  out : List Char

/-- Writes the insertions of one code point. -/
def State.insert (s : State) (point : Nat) (label : List Char) : State :=
  label.foldl
    (fun s c =>
      if c.toNat < point then { s with delta := s.delta + 1 }
      else if c.toNat = point then
        { delta := 0
          bias := adapt s.delta (s.written + 1) s.first
          written := s.written + 1
          first := false
          out := s.out ++ digits s.bias s.delta 36 64 }
      else s)
    s

/-- Writes the insertions of the code points of a label, in ascending order. -/
def State.insertAll (s : State) (label : List Char) : Nat → List Nat → State
  | _, [] => s
  | next, point :: rest =>
    let s := { s with delta := s.delta + (point - next) * (s.written + 1) }
    let s := s.insert point label
    State.insertAll { s with delta := s.delta + 1 } label (point + 1) rest

/-- The text of a label, without its mark. -/
def encode (label : List Char) : List Char :=
  let basic := label.filter fun c => c.toNat < 128
  let points := (label.filter fun c => 128 ≤ c.toNat).map Char.toNat
  let sorted := (points.mergeSort (· ≤ ·)).eraseDups
  let start := if basic.isEmpty then [] else basic ++ ['-']
  (State.insertAll ⟨0, 72, basic.length, true, start⟩ label 128 sorted).out

/-- Reads the digits of a number: it, and the text after it. -/
def number? (bias i w k : Nat) : List Char → Option (Nat × List Char)
  | [] => none
  | c :: rest => do
    let d ← digitValue? c
    let i := i + d * w
    let t := threshold bias k
    if d < t then some (i, rest) else number? bias i (w * (36 - t)) (k + 36) rest

/-- Reads insertions; the first number bounds their count. -/
def insertions? (out : List Char) (n i bias : Nat) : Nat → List Char → Option (List Char)
  | _, [] => some out
  | 0, _ => none
  | fuel + 1, cs => do
    let (next, rest) ← number? bias i 1 36 cs
    let size := out.length + 1
    let bias := adapt (next - i) size (i = 0 ∧ n = 128)
    let n := n + next / size
    let at_ := next % size
    if n < 0x110000 ∧ ¬(0xD800 ≤ n ∧ n < 0xE000) then
      insertions? (out.take at_ ++ Char.ofNat n :: out.drop at_) n (at_ + 1) bias fuel rest
    else none

/-- The label of a text, without its mark.  The last hyphen ends the ASCII characters, so it
does not stand first. -/
def decode? (cs : List Char) : Option (List Char) :=
  let tail := (cs.reverse.takeWhile (· ≠ '-')).reverse
  match cs.take (cs.length - tail.length) with
  | ['-'] => none
  | front =>
    if cs.all fun c => c.toNat < 128 then
      insertions? front.dropLast 128 0 72 (cs.length + 1) tail
    else none

end Greenhouse.Punycode
