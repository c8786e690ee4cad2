import Greenhouse.Text.Digit
import Greenhouse.Text.Utf8

/-!
# Percent encoding

Characters that may not stand in a part of an address are written as their bytes, each by a
percent sign and two hexadecimal digits.  Which characters these are depends on the part.
-/

namespace Greenhouse.Percent

/-- A set of characters to be encoded. -/
abbrev Encoded := Char → Bool

/-- Controls and all that is not ASCII. -/
def control : Encoded := fun c => c.toNat < 0x20 || 0x7F ≤ c.toNat

/-- The characters encoded in a fragment. -/
def fragment : Encoded := fun c => control c || " \"<>`".toList.contains c

/-- The characters encoded in a path. -/
def path : Encoded := fun c => fragment c || "#?\x7b\x7d".toList.contains c

/-- The characters encoded in a user name or a password. -/
def userinfo : Encoded := fun c => path c || "/:;=@[\\]^|".toList.contains c

/-- The characters encoded in a query; the query of a special address also encodes an
apostrophe. -/
def query (special : Bool) : Encoded :=
  fun c => control c || " \"#<>".toList.contains c || (special && c == '\'')

/-- An upper case hexadecimal digit. -/
def digit (n : UInt8) : Char := "0123456789ABCDEF".toList.getD n.toNat '0'

/-- A byte as a percent sign and two digits. -/
def encodeByte (b : UInt8) : List Char := ['%', digit (b / 16), digit (b % 16)]

/-- A character, encoded if it is in the set. -/
def encodeChar (set : Encoded) (c : Char) : List Char :=
  if set c then (Utf8.encodeChar c).flatMap encodeByte else [c]

/-- A text with the characters of a set encoded. -/
def encode (set : Encoded) (cs : List Char) : List Char := cs.flatMap (encodeChar set)

/-- The bytes of an encoded text; a percent sign without two digits stands for itself. -/
def decode : List UInt8 → List UInt8
  | 37 :: a :: b :: rest =>
    match Text.numberOf? 16 [Char.ofNat a.toNat, Char.ofNat b.toNat] with
    | some n => UInt8.ofNat n :: decode rest
    | none => 37 :: decode (a :: b :: rest)
  | b :: rest => b :: decode rest
  | [] => []

end Greenhouse.Percent
