import Greenhouse.Json.Printer

/-!
# Documents for people

The text of a document with every item and every member on a line of its own, indented by two
blanks for each level.  An empty array or object stays on its line.
-/

namespace Greenhouse.Json

/-- A new line at a level. -/
def newLine (level : Nat) : List Char := '\n' :: List.replicate (2 * level) ' '

mutual
/-- The characters of a document at a level. -/
def prettyChars (level : Nat) : Json → List Char
  | .arr [] => ['[', ']']
  | .arr (v :: rest) =>
    '[' :: (newLine (level + 1) ++ prettyItems (level + 1) (v :: rest) ++ newLine level ++ [']'])
  | .obj [] => ['\x7b', '\x7d']
  | .obj (m :: rest) =>
    '\x7b' ::
      (newLine (level + 1) ++ prettyMembers (level + 1) (m :: rest) ++ newLine level ++ ['\x7d'])
  | .null => chars .null
  | .bool b => chars (.bool b)
  | .int n => chars (.int n)
  | .float d => chars (.float d)
  | .str s => chars (.str s)

/-- The items of an array at a level. -/
def prettyItems (level : Nat) : List Json → List Char
  | [] => []
  | [v] => prettyChars level v
  | v :: rest => prettyChars level v ++ ',' :: (newLine level ++ prettyItems level rest)

/-- The members of an object at a level. -/
def prettyMembers (level : Nat) : List (String × Json) → List Char
  | [] => []
  | [(k, v)] => renderString k ++ ':' :: ' ' :: prettyChars level v
  | (k, v) :: rest =>
    renderString k ++ ':' :: ' ' :: (prettyChars level v ++ ',' :: (newLine level
      ++ prettyMembers level rest))
end

/-- The indented text of a document. -/
def pretty (v : Json) : String := String.ofList (prettyChars 0 v)

end Greenhouse.Json
