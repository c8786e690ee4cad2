import Greenhouse.Text.Digit
import Greenhouse.Text.Hidden

/-!
# Quoted texts

`Text.quoted` writes a text between double quotes so that every character can be seen: a
quote and a backslash behind a backslash, the usual controls by a letter, and a hidden
character by its code point in braces.
-/

namespace Greenhouse.Text

/-- A character as a quoted text shows it. -/
def quotedChar (c : Char) : String :=
  if c == '"' then "\\\""
  else if c == '\\' then "\\\\"
  else if c == '\n' then "\\n"
  else if c == '\r' then "\\r"
  else if c == '\t' then "\\t"
  else if c.toNat == 0 then "\\0"
  else if isHidden c then "\\u\x7b" ++ hex c.toNat ++ "\x7d"
  else String.singleton c

/-- A text between quotes. -/
def quoted (s : String) : String :=
  "\"" ++ String.join (s.toList.map quotedChar) ++ "\""

end Greenhouse.Text
