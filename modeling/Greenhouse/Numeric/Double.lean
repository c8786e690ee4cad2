/-!
# Double precision numbers

`Double` is the type of the finite numbers of double precision.  A number is given by
its sign and its rank: the numbers of one sign, in order of magnitude, have the ranks
`0, 1, 2, …`, and rank `0` is zero, so that there are two zeros.  The magnitude of rank
`r` is `significand · 2 ^ exponent`.  `Double.ofRatio?` is the number nearest to a ratio of
natural numbers, where a tie goes to the even significand and a ratio beyond the largest
number has none.
-/

namespace Greenhouse

/-- The ranks of the finite numbers are below this one, which is that of infinity. -/
def Double.infinityRank : Nat := 2047 * Nat.pow 2 52

/-- A finite number of double precision. -/
@[ext]
structure Double where
  /-- Whether the sign bit is set. -/
  negative : Bool
  /-- The position of the magnitude among all magnitudes, smallest first. -/
  rank : Nat
  rank_lt : rank < Double.infinityRank
deriving DecidableEq

namespace Double

/-- The positive zero. -/
def zero : Double := ⟨false, 0, by decide⟩

/-- The negative zero. -/
def negativeZero : Double := ⟨true, 0, by decide⟩

instance : Inhabited Double := ⟨zero⟩

/-- Whether the number is one of the two zeros. -/
def isZero (d : Double) : Bool := d.rank == 0

/-- The number with the other sign. -/
def neg (d : Double) : Double := { d with negative := !d.negative }

/-- The integer factor of the magnitude. -/
def significand (d : Double) : Nat :=
  if d.rank < Nat.pow 2 52 then d.rank else Nat.pow 2 52 + d.rank % Nat.pow 2 52

/-- The exponent of the power of two in the magnitude. -/
def exponent (d : Double) : Int :=
  if d.rank < Nat.pow 2 52 then -1074 else Int.ofNat (d.rank / Nat.pow 2 52) - 1075

/-- The numerator of the magnitude `significand · 2 ^ exponent`. -/
def numerator (d : Double) : Nat := d.significand * Nat.pow 2 d.exponent.toNat

/-- The denominator of the magnitude `significand · 2 ^ exponent`. -/
def denominator (d : Double) : Nat := Nat.pow 2 (-d.exponent).toNat

/-- The integer nearest to `num / den`; a tie goes to the even one. -/
def roundHalfEven (num den : Nat) : Nat :=
  let q := num / den
  let r := num % den
  if 2 * r < den then q
  else if den < 2 * r then q + 1
  else if q % 2 = 0 then q else q + 1

/-- The exponent that gives `num / den` a significand of 53 bits, or the least exponent
when that is larger. -/
def scaleOf (num den : Nat) : Int :=
  let e : Int := Int.ofNat num.log2 - Int.ofNat den.log2 - 52
  let short : Bool := num * Nat.pow 2 (-e).toNat < Nat.pow 2 52 * den * Nat.pow 2 e.toNat
  max (if short then e - 1 else e) (-1074)

/-- The rank of the magnitude nearest to `num / den`, which may be that of infinity or
beyond. -/
def rankOf (num den : Nat) : Nat :=
  if num = 0 then 0
  else
    let e := scaleOf num den
    (e + 1074).toNat * Nat.pow 2 52
      + roundHalfEven (num * Nat.pow 2 (-e).toNat) (den * Nat.pow 2 e.toNat)

/-- The number of the given sign nearest to `num / den`, if that is finite. -/
def ofRatio? (negative : Bool) (num den : Nat) : Option Double :=
  if h : rankOf num den < infinityRank then some ⟨negative, rankOf num den, h⟩ else none

/-- The number nearest to an integer, if that is finite. -/
def ofInt? (n : Int) : Option Double := ofRatio? (decide (n < 0)) n.natAbs 1

/-- The number nearest to an integer; an integer too large for that gives zero, which does
not happen to integers of 64 bits. -/
def ofInt (n : Int) : Double := (ofInt? n).getD zero

/-- The product of two numbers, rounded, if that is finite. -/
def mul? (a b : Double) : Option Double :=
  ofRatio? (a.negative != b.negative) (a.numerator * b.numerator)
    (a.denominator * b.denominator)

/-- The quotient of two numbers, rounded, if that is finite. -/
def div? (a b : Double) : Option Double :=
  if b.isZero then none
  else
    ofRatio? (a.negative != b.negative) (a.numerator * b.denominator)
      (a.denominator * b.numerator)

/-- The number nearest to `10 ^ k`, for `k` up to 308. -/
def powerOfTen (k : Nat) : Double := (ofRatio? false (Nat.pow 10 k) 1).getD zero

/-- The number nearest to `digits · 10 ^ shift`, if that is finite.  Exponents that decide
the answer by themselves are not raised to a power. -/
def ofDecimal? (negative : Bool) (digits : Nat) (shift : Int) : Option Double :=
  if digits = 0 then some { zero with negative }
  else if shift > 310 then none
  else if shift + Int.ofNat digits.log2 < -1200 then some { zero with negative }
  else ofRatio? negative (digits * Nat.pow 10 shift.toNat) (Nat.pow 10 (-shift).toNat)

end Double

end Greenhouse
