/-!
# Cutting a text at a character

`Text.splitAt` gives the pieces of a text between the places of a character; there is one piece
more than there are places.
-/

namespace Greenhouse.Text

/-- Cuts a text at a character. -/
def splitAt (sep : Char) : List Char → List (List Char)
  | [] => [[]]
  | c :: rest =>
    if c = sep then [] :: splitAt sep rest
    else
      match splitAt sep rest with
      | [] => [[c]]
      | first :: others => (c :: first) :: others

end Greenhouse.Text
