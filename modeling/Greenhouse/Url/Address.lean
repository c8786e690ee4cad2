import Greenhouse.Text.Digit
import Greenhouse.Text.Split

/-!
# Numeric addresses

An IPv4 address is one to four numbers, decimal, octal or hexadecimal, of which the last one
fills all bytes that are left.  An IPv6 address is eight pieces; one run of zeros may be left
out, and the last two pieces may be written as an IPv4 address.
-/

namespace Greenhouse.Address

/-! ### IPv4 -/

/-- The number that a part of an IPv4 address is. -/
def part? : List Char → Option Nat
  | [] => none
  | '0' :: 'x' :: rest | '0' :: 'X' :: rest => Text.numberOf? 16 rest
  | '0' :: c :: rest => Text.numberOf? 8 (c :: rest)
  | cs => Text.numberOf? 10 cs

/-- The parts of an address between its points; a point at the end does not count. -/
def parts (cs : List Char) : List (List Char) :=
  let ps := Text.splitAt '.' cs
  if ps.length > 1 ∧ ps.getLast? = some [] then ps.dropLast else ps

/-- Whether the last part is a number, so that the whole has to be an IPv4 address. -/
def endsInNumber (cs : List Char) : Bool :=
  match (parts cs).getLast? with
  | none | some [] => false
  | some last => last.all (Text.isDigit) || (part? last).isSome

/-- The IPv4 address that a text is. -/
def ipv4? (cs : List Char) : Option Nat := do
  let ps := parts cs
  if 4 < ps.length then none
  else
    let numbers ← ps.mapM part?
    let last ← numbers.getLast?
    let front := numbers.dropLast
    if front.any (255 < ·) || Nat.pow 256 (4 - front.length) ≤ last then none
    else
      let high := front.zipIdx.foldr (fun (n, i) rest => n * Nat.pow 256 (3 - i) + rest) 0
      some (high + last)

/-- The text of an IPv4 address. -/
def ipv4Text (n : Nat) : String :=
  String.intercalate "."
    [toString (n / 16777216 % 256), toString (n / 65536 % 256), toString (n / 256 % 256),
      toString (n % 256)]

/-! ### IPv6 -/

/-- The two pieces of an IPv4 address in four decimal parts. -/
def embedded? (cs : List Char) : Option (List Nat) := do
  let ps := Text.splitAt '.' cs
  if ps.length ≠ 4 then none
  else
    let numbers ← ps.mapM fun p =>
      match p with
      | [] => none
      | '0' :: _ :: _ => none
      | p => (Text.numberOf? 10 p).filter fun n => n ≤ 255
    match numbers with
    | [a, b, c, d] => some [a * 256 + b, c * 256 + d]
    | _ => none

/-- The pieces of a part of an IPv6 address without a gap; only the last part of an address
may end in an IPv4 address. -/
def pieces? (cs : List Char) (isLast : Bool) : Option (List Nat) :=
  if cs.isEmpty then some []
  else
    let groups := Text.splitAt ':' cs
    let piece? (g : List Char) : Option (List Nat) :=
      if g.isEmpty || 4 < g.length then none else (Text.numberOf? 16 g).map fun n => [n]
    let last := groups.getLast?.getD []
    do
      let front ← groups.dropLast.mapM piece?
      let back ← if isLast && last.contains '.' then embedded? last else piece? last
      some (front.flatten ++ back)

/-- The text before the first two colons in a row, and the text after them. -/
def splitGap : List Char → Option (List Char × List Char)
  | ':' :: ':' :: rest => some ([], rest)
  | c :: rest => (splitGap rest).map fun (a, b) => (c :: a, b)
  | [] => none

/-- The eight pieces of an IPv6 address. -/
def ipv6? (cs : List Char) : Option (List Nat) :=
  match splitGap cs with
  | none => (pieces? cs true).filter fun ps => ps.length = 8
  | some (front, back) => do
    let high ← pieces? front false
    let low ← pieces? back true
    if high.length + low.length < 8 then
      some (high ++ List.replicate (8 - high.length - low.length) 0 ++ low)
    else none

/-- The start and length of the longest run of zeros, the first of equally long ones, in
pieces from an index on. -/
def longestRun : Nat → List Nat → Nat × Nat
  | _, [] => (0, 0)
  | i, p :: rest =>
    let here := ((p :: rest).takeWhile (· = 0)).length
    let (start, length) := longestRun (i + 1) rest
    if 0 < here ∧ length ≤ here then (i, here) else (start, length)

/-- Pieces with colons between them. -/
def colons (ps : List Nat) : String := String.intercalate ":" (ps.map Text.hex)

/-- The text of an IPv6 address, with the longest run of at least two zeros left out. -/
def ipv6Text (ps : List Nat) : String :=
  let (start, length) := longestRun 0 ps
  if length < 2 then colons ps
  else colons (ps.take start) ++ "::" ++ colons (ps.drop (start + length))

end Greenhouse.Address
