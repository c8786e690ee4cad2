/-!
# Blanks and words

`Text.isBlank` is the property White_Space of Unicode.  `Text.trim` cuts blanks off both
ends, and `Text.splitWord` takes the first word off a text.
-/

namespace Greenhouse.Text

/-- The property White_Space. -/
def isBlank (c : Char) : Bool :=
  let n := c.toNat
  (9 ≤ n && n ≤ 13) || n == 0x20 || n == 0x85 || n == 0xA0 || n == 0x1680
    || (0x2000 ≤ n && n ≤ 0x200A) || n == 0x2028 || n == 0x2029 || n == 0x202F
    || n == 0x205F || n == 0x3000

/-- A text without the blanks at its start. -/
def trimStart (cs : List Char) : List Char := cs.dropWhile isBlank

/-- A text without the blanks at its end. -/
def trimEnd (cs : List Char) : List Char := (cs.reverse.dropWhile isBlank).reverse

/-- A text without the blanks at its ends. -/
def trim (cs : List Char) : List Char := trimEnd (trimStart cs)

/-- The string without the blanks at its ends. -/
def trimmed (s : String) : String := String.ofList (trim s.toList)

/-- Whether a string holds nothing but blanks. -/
def isBlankText (s : String) : Bool := s.toList.all isBlank

/-- The characters before the first blank, and those after that blank. -/
def splitAtBlank (cs : List Char) : List Char × List Char :=
  (cs.takeWhile (fun c => !isBlank c), (cs.dropWhile (fun c => !isBlank c)).drop 1)

/-- An ASCII letter in lower case; any other character is left alone. -/
def lowerAscii (c : Char) : Char :=
  if 'A' ≤ c ∧ c ≤ 'Z' then Char.ofNat (c.toNat + 32) else c

/-- Whether two strings differ only in the case of ASCII letters. -/
def sameIgnoringCase (a b : String) : Bool := a.toList.map lowerAscii == b.toList.map lowerAscii

/-- The number of bytes of a text in UTF-8. -/
def byteCount (cs : List Char) : Nat := cs.foldr (Char.utf8Size · + ·) 0

end Greenhouse.Text
