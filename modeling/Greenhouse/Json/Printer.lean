import Greenhouse.Json.Value
import Greenhouse.Numeric.Format

/-!
# Writing JSON

`Json.render` is the compact text of a document: no blanks, members in their order.  In a
string the quote, the backslash and the controls are escaped, and nothing else.
-/

namespace Greenhouse.Json

/-- A character within a string. -/
def renderChar (c : Char) : List Char :=
  if c = '"' then ['\\', '"']
  else if c = '\\' then ['\\', '\\']
  else if c.toNat < 0x20 then
    match c.toNat with
    | 8 => ['\\', 'b']
    | 9 => ['\\', 't']
    | 10 => ['\\', 'n']
    | 12 => ['\\', 'f']
    | 13 => ['\\', 'r']
    | n => ['\\', 'u', '0', '0', (n / 16).digitChar, (n % 16).digitChar]
  else [c]

/-- A string between quotes. -/
def renderString (s : String) : List Char := '"' :: (s.toList.flatMap renderChar ++ ['"'])

mutual
/-- The characters of the compact text of a document. -/
def chars : Json → List Char
  | .null => "null".toList
  | .bool true => "true".toList
  | .bool false => "false".toList
  | .int n => (toString n).toList
  | .float d => d.encode.toList
  | .str s => renderString s
  | .arr items => '[' :: (charsOfItems items ++ [']'])
  | .obj members => '{' :: (charsOfMembers members ++ ['}'])

/-- The items of an array, with commas between them. -/
def charsOfItems : List Json → List Char
  | [] => []
  | [v] => chars v
  | v :: rest => chars v ++ ',' :: charsOfItems rest

/-- The members of an object, with commas between them. -/
def charsOfMembers : List (String × Json) → List Char
  | [] => []
  | [(k, v)] => renderString k ++ ':' :: chars v
  | (k, v) :: rest => renderString k ++ ':' :: (chars v ++ ',' :: charsOfMembers rest)
end

/-- The compact text of a document. -/
def render (v : Json) : String := String.ofList v.chars

end Greenhouse.Json
