import Greenhouse.Json.Fault
import Greenhouse.Json.Value
import Greenhouse.Text.Digit

/-!
# Reading JSON numbers

The digits of a number are taken into a significand as long as that has 64 bits; further
digits only move the point.  A number without fraction and exponent whose digits all fit
is an integer; any other is its significand times a power of ten, each rounded to double
precision, and so is their product or quotient.
-/

namespace Greenhouse.Json

/-- The largest significand. -/
def maxSignificand : Nat := Nat.pow 2 64 - 1

/-- Whether a text goes on with a digit. -/
def startsWithDigit : List Char → Bool
  | c :: _ => Text.isDigit c
  | [] => false

/-- Takes digits into a significand as long as they fit: the significand, the number of
digits taken, and the text after them. -/
def takeDigits (significand count : Nat) : List Char → Nat × Nat × List Char
  | [] => (significand, count, [])
  | c :: rest =>
    match Text.digitValue? 10 c with
    | some d =>
      if maxSignificand < significand * 10 + d then (significand, count, c :: rest)
      else takeDigits (significand * 10 + d) (count + 1) rest
    | none => (significand, count, c :: rest)

/-- Passes over digits: their number, and the text after them. -/
def dropDigits (count : Nat) : List Char → Nat × List Char
  | [] => (count, [])
  | c :: rest => if Text.isDigit c then dropDigits (count + 1) rest else (count, c :: rest)

/-- Divides by `10 ^ n`, in steps of at most `10 ^ 308`.  A significand is zero after two
such steps, so three are enough. -/
def divideByPower (d : Double) (n : Nat) : Nat → Option Double
  | 0 => some d
  | steps + 1 =>
    if n ≤ 308 then d.div? (.powerOfTen n)
    else if d.isZero then some d
    else (d.div? (.powerOfTen 308)).bind fun d => divideByPower d (n - 308) steps

/-- The number `significand · 10 ^ exponent`, if that is finite. -/
def ofParts? (negative : Bool) (significand : Nat) (exponent : Int) : Option Double :=
  let d := Double.ofInt significand
  let magnitude :=
    if exponent < 0 then divideByPower d exponent.natAbs 3
    else if exponent ≤ 308 then d.mul? (.powerOfTen exponent.toNat)
    else if d.isZero then some d
    else none
  magnitude.map fun d => { d with negative }

/-- A number that is not an integer, and the text after it. -/
def ofParts (negative : Bool) (significand : Nat) (exponent : Int) (rest : List Char) :
    Except Fault (Json × List Char) :=
  match ofParts? negative significand exponent with
  | some d => .ok (.float d, rest)
  | none => .error .numberOutOfRange

/-- Reads an exponent, from behind its letter. -/
def readExponent (negative : Bool) (significand : Nat) (shift : Int) (cs : List Char) :
    Except Fault (Json × List Char) :=
  let (down, cs) : Bool × List Char :=
    match cs with
    | '+' :: rest => (false, rest)
    | '-' :: rest => (true, rest)
    | cs => (false, cs)
  match cs with
  | [] => .error .endInValue
  | c :: rest =>
    if Text.isDigit c then
      let (_, after) := dropDigits 0 rest
      let n : Int := Text.decimal ((c :: rest).take (rest.length + 1 - after.length))
      ofParts negative significand (if down then shift - n else shift + n) after
    else .error .invalidNumber

/-- Reads what may follow the digits of a number that is not an integer. -/
def readScale (negative : Bool) (significand : Nat) (shift : Int) :
    List Char → Except Fault (Json × List Char)
  | 'e' :: rest | 'E' :: rest => readExponent negative significand shift rest
  | rest => ofParts negative significand shift rest

/-- Reads a fraction, from behind its point. -/
def readFraction (negative : Bool) (significand : Nat) (shift : Int) (cs : List Char) :
    Except Fault (Json × List Char) :=
  let (significand, count, rest) := takeDigits significand 0 cs
  if startsWithDigit rest then
    readScale negative significand (shift - count) (dropDigits 0 rest).2
  else if count = 0 then
    if rest.isEmpty then .error .endInValue else .error .invalidNumber
  else readScale negative significand (shift - count) rest

/-- A number without fraction and exponent.  The negative zero is no integer, and neither
is what lies below `-2 ^ 63`. -/
def ofInteger (negative : Bool) (significand : Nat) : Json :=
  if negative then
    if significand = 0 then .float .negativeZero
    else if significand ≤ Nat.pow 2 63 then .int (-significand)
    else .float (.neg (.ofInt significand))
  else .int significand

/-- Reads what may follow the digits before the point. -/
def readTail (negative : Bool) (significand : Nat) : List Char → Except Fault (Json × List Char)
  | '.' :: rest => readFraction negative significand 0 rest
  | 'e' :: rest | 'E' :: rest => readExponent negative significand 0 rest
  | rest => .ok (ofInteger negative significand, rest)

/-- Reads a number, from behind its sign. -/
def readNumber (negative : Bool) : List Char → Except Fault (Json × List Char)
  | [] => .error .endInValue
  | '0' :: rest =>
    if startsWithDigit rest then .error .invalidNumber else readTail negative 0 rest
  | c :: rest =>
    match Text.digitValue? 10 c with
    | none => .error .invalidNumber
    | some d =>
      let (significand, _, rest) := takeDigits d 1 rest
      if startsWithDigit rest then
        let (skipped, rest) := dropDigits 0 rest
        match rest with
        | '.' :: rest => readFraction negative significand skipped rest
        | rest => readScale negative significand skipped rest
      else readTail negative significand rest

/-- Passes over an exponent, from behind its letter. -/
def skipExponent (cs : List Char) : Except Fault (List Char) :=
  let cs :=
    match cs with
    | '+' :: rest | '-' :: rest => rest
    | cs => cs
  if startsWithDigit cs then .ok (dropDigits 0 cs).2 else .error .invalidNumber

/-- Passes over what may follow the digits before the point. -/
def skipTail : List Char → Except Fault (List Char)
  | '.' :: rest =>
    if startsWithDigit rest then
      match (dropDigits 0 rest).2 with
      | 'e' :: rest | 'E' :: rest => skipExponent rest
      | rest => .ok rest
    else .error .invalidNumber
  | 'e' :: rest | 'E' :: rest => skipExponent rest
  | rest => .ok rest

/-- Passes over a number, from behind its sign, whatever its size. -/
def skipNumber : List Char → Except Fault (List Char)
  | '0' :: rest => if startsWithDigit rest then .error .invalidNumber else skipTail rest
  | cs => if startsWithDigit cs then skipTail (dropDigits 0 cs).2 else .error .invalidNumber

end Greenhouse.Json
