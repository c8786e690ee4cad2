import Greenhouse.Text.Composed
import Greenhouse.Text.Split
import Greenhouse.Url.Domain.Direction
import Greenhouse.Url.Domain.Joiner
import Greenhouse.Url.Domain.Spelling
import Greenhouse.Url.Punycode

/-!
# Domain names

A domain name is brought into one spelling and sent in ASCII: `Domain.ascii?`.  A label with
other characters is written by its Punycode behind a mark.  A label that has the mark already
is read, so that it cannot hold what could not be written into it.
-/

namespace Greenhouse.Domain

/-- Whether a character of ASCII has a meaning of its own in an address or cannot be seen. -/
def isReserved (c : Char) : Bool :=
  c.toNat ≤ 0x20 || c.toNat == 0x7F || "#/:<>?@[\\]^|%".toList.contains c

/-- A text with its characters replaced, unless one may not stand in a name. -/
def spelled? (cs : List Char) : Option (List Char) :=
  (cs.mapM fun c =>
    match spelling c with
    | .kept => some [c]
    | .replaced text => some text
    | .forbidden => none).map List.flatten

/-- The text of a label behind the mark, if it has the mark. -/
def marked? : List Char → Option (List Char)
  | 'x' :: 'n' :: '-' :: '-' :: rest => some rest
  | _ => none

/-- The longest text behind the mark that is read. -/
def longestRead : Nat := 2000

/-- The longest label that is written. -/
def longestWritten : Nat := 1000

/-- A label with the characters that it stands for. -/
def read? (label : List Char) : Option (List Char) :=
  match marked? label with
  | none => some label
  | some rest =>
    if rest.getLast? = some '-' || longestRead < rest.length then none
    else do
      let decoded ← Punycode.decode? rest
      let same := decoded.all (spelling · = .kept) && Text.composed decoded = decoded
      if decoded.all (·.toNat < 128) || decoded.any isReserved || !same then none
      else some decoded

/-- Whether a label holds only characters that go together. -/
def isCoherent (label : List Char) : Bool :=
  label.all (·.toNat < 128)
    || (!label.head?.any Text.isMark && keepsJoiners [] label)

/-- A label as it is sent.  One that has the mark is sent as it is. -/
def write? (label : List Char) : Option (List Char) :=
  if label.all (·.toNat < 128) then some label
  else if longestWritten < label.length then none
  else some ("xn--".toList ++ Punycode.encode label)

/-- A name as it is sent, if it is one. -/
def ascii? (name : List Char) : Option (List Char) := do
  let text := Text.composed (← spelled? name)
  if text.any isReserved then none
  else
    let labels := Text.splitAt '.' text
    let meant ← labels.mapM read?
    let directed := meant.any (·.any isRightToLeft)
    if meant.all fun label => isCoherent label && (!directed || keepsDirection label) then
      (List.intercalate ['.'] ·) <$> labels.mapM write?
    else none

end Greenhouse.Domain
