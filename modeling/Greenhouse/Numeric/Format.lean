import Greenhouse.Numeric.Shortest

/-!
# Writing numbers

Three texts of a number.  `Double.encode` is the one on the wire: positional with a
fraction from `10 ^ -5` up to `10 ^ 16`, scientific outside, an even last digit in a tie.
`Double.display` is the one for people: always positional, no fraction for an integer, and
away from zero in a tie.  `Double.rounded` has no
fraction at all; a half goes to the even neighbour.
-/

namespace Greenhouse.Double

/-- The sign in front of a number. -/
def signText (d : Double) : String := if d.negative then "-" else ""

/-- A row of zeros. -/
def zeros (n : Nat) : String := String.ofList (List.replicate n '0')

/-- The decimal places of a decimal, written out, with `whole` after the digits of an
integer. -/
def Decimal.positional (x : Decimal) (whole : String) : String :=
  let text := toString x.digits
  if 0 ≤ x.shift then text ++ zeros x.shift.toNat ++ whole
  else
    let places := (-x.shift).toNat
    if text.length ≤ places then "0." ++ zeros (places - text.length) ++ text
    else
      String.ofList (text.toList.take (text.length - places)) ++ "."
        ++ String.ofList (text.toList.drop (text.length - places))

/-- The power of ten of the first digit. -/
def Decimal.magnitude (x : Decimal) : Int := Int.ofNat (toString x.digits).length + x.shift - 1

/-- A decimal with one digit before the point and the power of ten after it. -/
def Decimal.scientific (x : Decimal) : String :=
  let e := x.magnitude
  let exponent := (if 0 ≤ e then "+" else "-") ++ toString e.natAbs
  match (toString x.digits).toList with
  | [] => "e" ++ exponent
  | [first] => String.singleton first ++ "e" ++ exponent
  | first :: rest => String.singleton first ++ "." ++ String.ofList rest ++ "e" ++ exponent

/-- The text of a number on the wire. -/
def encode (d : Double) : String :=
  let x := d.shortest .even
  let plain := d.isZero || (-5 ≤ x.magnitude && x.magnitude < 16)
  d.signText ++ (if plain then x.positional ".0" else x.scientific)

/-- The text of a number for people. -/
def display (d : Double) : String := d.signText ++ (d.shortest .away).positional ""

/-- The text of the integer nearest to a number; a half goes to the even neighbour. -/
def rounded (d : Double) : String :=
  d.signText ++ toString (roundHalfEven d.numerator d.denominator)

end Greenhouse.Double
