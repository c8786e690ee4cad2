import Greenhouse.Numeric.Double

/-!
# The shortest decimal of a number

`Double.shortest` gives the decimal with the fewest digits that reads back as the number;
of those with equally few digits it is the nearest, and a `Tie` says which one when two
are equally near.  The decimals that read back as a number are those between the midpoints to its
two neighbours, ends included when the significand is even.  A decimal with few digits is a
multiple of a large power of ten, so the powers are tried from the largest one on, and on
each grid only the two neighbours of the number can be nearest.
-/

namespace Greenhouse.Double

/-- A decimal `digits · 10 ^ shift`. -/
structure Decimal where
  digits : Nat
  shift : Int
deriving DecidableEq

/-- Which of two equally near decimals is taken: the one with an even last digit, or the one
farther from zero. -/
inductive Tie where
  | even
  | away
deriving DecidableEq

/-- The decimals that read back as a number: `low / unit` to `high / unit`, around
`mid / unit`. -/
structure Interval where
  low : Nat
  mid : Nat
  high : Nat
  unit : Nat
  /-- Whether the two ends belong to the interval. -/
  closed : Bool

/-- The interval of a number's magnitude.  Below a power of two the neighbours are half as
far away. -/
def interval (d : Double) : Interval :=
  let up := Nat.pow 2 d.exponent.toNat
  let mid := 4 * d.significand * up
  let narrow := d.significand = Nat.pow 2 52 ∧ d.exponent ≠ -1074
  { low := mid - (if narrow then 1 else 2) * up
    mid
    high := mid + 2 * up
    unit := 4 * d.denominator
    closed := d.significand % 2 == 0 }

/-- Whether `value / scale` is in the interval, where `scale` multiplies its unit. -/
def Interval.holds (i : Interval) (scale value : Nat) : Bool :=
  if i.closed then i.low * scale ≤ value && value ≤ i.high * scale
  else i.low * scale < value && value < i.high * scale

/-- Whether `below` is taken rather than its successor, when their distances from the number
are in the order `order`. -/
def Tie.takesBelow (tie : Tie) (below : Nat) : Ordering → Bool
  | .lt => true
  | .gt => false
  | .eq => tie = .even && below % 2 == 0

/-- The multiple of `10 ^ shift` in the interval that is nearest to its middle. -/
def Interval.onGrid? (i : Interval) (tie : Tie) (shift : Int) : Option Nat :=
  let scale := Nat.pow 10 (-shift).toNat
  let step := i.unit * Nat.pow 10 shift.toNat
  let below := i.mid * scale / step
  let above := below + 1
  let order := compare (2 * (i.mid * scale)) ((below + above) * step)
  match i.holds scale (below * step), i.holds scale (above * step) with
  | true, true => some (if tie.takesBelow below order then below else above)
  | true, false => some below
  | false, true => some above
  | false, false => none

/-- The first grid with a hit, from `10 ^ shift` downwards. -/
def Interval.firstHit (i : Interval) (tie : Tie) (shift : Int) : Nat → Decimal
  | 0 => ⟨0, 0⟩
  | tries + 1 =>
    match i.onGrid? tie shift with
    | some digits => ⟨digits, shift⟩
    | none => i.firstHit tie (shift - 1) tries

/-- A power of ten above the magnitude of a number, and at most two places above it. -/
def topShift (d : Double) : Int :=
  (Int.ofNat d.significand.log2 + d.exponent + 1) * 30103 / 100000 + 1

/-- The shortest decimal that reads back as the magnitude of the number. -/
def shortest (d : Double) (tie : Tie) : Decimal :=
  if d.isZero then ⟨0, 0⟩ else d.interval.firstHit tie d.topShift 22

end Greenhouse.Double
