import Greenhouse.Text.Blank
import Greenhouse.Text.Digit

/-!
# Characters of a pattern

A pattern describes texts.  Its characters stand for themselves, or are escaped by a backslash.
The `Pattern.Mode` says how they are read; it may change within a pattern.

Patterns match characters, so in the mode of bytes nothing may match a part of one.  No tables
of letters and cases are at hand, so the classes of words and digits and the difference between
capitals and small letters are known only for bytes.
-/

namespace Greenhouse.Pattern

/-- How a pattern is read. -/
structure Mode where
  /-- Whether capitals and small letters are the same. -/
  ignoresCase : Bool
  /-- Whether characters are matched, and not bytes. -/
  unicode : Bool
  /-- Whether blanks and comments in the pattern do not count. -/
  verbose : Bool
deriving DecidableEq

/-- How a pattern is read at first. -/
def Mode.initial : Mode := ⟨false, true, false⟩

/-- A text without the blanks and comments at its start; a comment ends with its line. -/
def skipFiller (inComment : Bool) : List Char → List Char
  | [] => []
  | c :: rest =>
    if inComment then skipFiller (c != '\n') rest
    else if c = '#' then skipFiller true rest
    else if Text.isBlank c then skipFiller false rest
    else c :: rest

/-- A text without what does not count at its start. -/
def Mode.skip (m : Mode) (cs : List Char) : List Char :=
  if m.verbose then skipFiller false cs else cs

/-- What an escape stands for. -/
inductive Escape where
  /-- A character, which may be given as a byte. -/
  | char (c : Char) (byte : Bool)
  /-- A place between characters, which may be one at the edge of a word. -/
  | place (word : Bool)
  /-- The digits, the blanks or the characters of words, or all others. -/
  | kind (negated : Bool)
deriving DecidableEq

/-- The characters that have a meaning of their own. -/
def signs : List Char := "\\.+*?()|[]\x7b\x7d^$#&-~".toList

/-- Whether a backslash before a character only says that it stands for itself. -/
def isPlain (c : Char) : Bool :=
  signs.contains c
    || (c.toNat < 128 && !Text.isLetter c && !Text.isDigit c && c != '<' && c != '>')

/-- Reads a number of hexadecimal digits after the digits before. -/
def hexRun (m : Mode) : Nat → Nat → List Char → Option (Nat × List Char)
  | 0, n, cs => some (n, m.skip cs)
  | count + 1, n, cs =>
    match m.skip cs with
    | [] => none
    | c :: rest => (Text.digitValue? 16 c).bind fun d => hexRun m count (n * 16 + d) rest

/-- Reads a character that is given by its number. -/
def readHex (m : Mode) (digits : Nat) (cs : List Char) : Option (Escape × List Char) := do
  let (n, rest) ← hexRun m digits 0 cs
  if n.isValidChar then some (.char (Char.ofNat n) (digits == 2), rest) else none

/-- The control that a letter behind a backslash stands for. -/
def control? (c : Char) : Option Char :=
  ([('a', 7), ('t', 9), ('n', 10), ('v', 11), ('f', 12), ('r', 13)].lookup c).map Char.ofNat

/-- Reads an escape from behind its backslash. -/
def readEscape (m : Mode) : List Char → Option (Escape × List Char)
  | [] => none
  | c :: rest =>
    if isPlain c then some (.char c false, rest)
    else if c = 'x' then readHex m 2 rest
    else if c = 'u' then readHex m 4 rest
    else if c = 'U' then readHex m 8 rest
    else if "dsw".toList.contains c then some (.kind false, rest)
    else if "DSW".toList.contains c then some (.kind true, rest)
    else if "Az".toList.contains c then some (.place false, rest)
    else if "bB<>".toList.contains c then some (.place true, rest)
    else (control? c).map fun control => (.char control false, rest)

/-- Whether a character may stand for itself. -/
def Mode.allowsChar (m : Mode) (c : Char) (byte : Bool) : Bool :=
  if m.unicode then !m.ignoresCase else c.toNat < 0x80 || 0xFF < c.toNat || !byte

/-- Whether a class of characters is known and does not match a part of one. -/
def Mode.allowsKind (m : Mode) (negated : Bool) : Bool := !m.unicode && !negated

/-- Whether an escape may stand where it does. -/
def Mode.allows (m : Mode) : Escape → Bool
  | .char c byte => m.allowsChar c byte
  | .place word => !word || !m.unicode
  | .kind negated => m.allowsKind negated

end Greenhouse.Pattern
