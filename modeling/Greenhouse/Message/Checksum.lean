import Greenhouse.Digest.Sha256
import Greenhouse.Message.Settings
import Greenhouse.Text.Utf8

/-!
# The checksum of a section

The backend confirms a saved section by the first four bytes of the digest of its text,
written as eight upper case hexadecimal digits.
-/

namespace Greenhouse

/-- The upper case hexadecimal digits of a word. -/
def upperHex (n : UInt32) : String :=
  let digits := (Nat.toDigits 16 n.toNat).map Char.toUpper
  String.ofList (List.replicate (8 - digits.length) '0' ++ digits)

/-- The checksum of a section. -/
def SettingsFields.checksum (fields : SettingsFields) : String :=
  upperHex (Sha256.digest (Utf8.encode fields.toJson.chars)).a

end Greenhouse
