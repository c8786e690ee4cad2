import Greenhouse.Numeric.Double
import Greenhouse.Text.Digit
import Greenhouse.Time.Calendar
import Greenhouse.Toml.Value

/-!
# The tokens of TOML

Keys, strings, numbers, dates and times.  Each function reads one token from the start of a
text and gives it with the text after it.
-/

namespace Greenhouse.Toml

/-- A reader of the start of a text. -/
abbrev Scan (α : Type) := List Char → Option (α × List Char)

/-- Whether a character is a blank within a line. -/
def isSpace (c : Char) : Bool := c == ' ' || c == '\t'

/-- A text behind the blanks at its start. -/
def skipSpace (cs : List Char) : List Char := cs.dropWhile isSpace

/-- Passes over the end of a line. -/
def newline? : List Char → Option (List Char)
  | '\n' :: rest => some rest
  | '\r' :: '\n' :: rest => some rest
  | _ => none

/-- Whether a character may stand in a comment. -/
def isCommentChar (c : Char) : Bool := c == '\t' || (0x20 ≤ c.toNat && c.toNat != 0x7F)

/-- A text behind the comment at its start, if there is one. -/
def skipComment (cs : List Char) : List Char :=
  match cs with
  | '#' :: rest => rest.dropWhile isCommentChar
  | cs => cs

/-- Passes over blanks, a comment and the end of the line or of the text. -/
def lineEnd? (cs : List Char) : Option (List Char) :=
  match skipComment (skipSpace cs) with
  | [] => some []
  | cs => newline? cs

/-! ### Strings -/

/-- Reads a code point of so many digits. -/
def codePoint? (digits : Nat) : Scan Char := fun cs => do
  let text := cs.take digits
  if text.length < digits then none
  else
    let n ← Text.numberOf? 16 text
    if n < 0xD800 ∨ (0xDFFF < n ∧ n < 0x110000) then some (Char.ofNat n, cs.drop digits)
    else none

/-- Reads an escape, from behind its backslash. -/
def escape? : Scan Char
  | 'b' :: rest => some (Char.ofNat 8, rest)
  | 't' :: rest => some ('\t', rest)
  | 'n' :: rest => some ('\n', rest)
  | 'f' :: rest => some (Char.ofNat 12, rest)
  | 'r' :: rest => some ('\r', rest)
  | '"' :: rest => some ('"', rest)
  | '\\' :: rest => some ('\\', rest)
  | 'u' :: rest => codePoint? 4 rest
  | 'U' :: rest => codePoint? 8 rest
  | _ => none

/-- Whether a character may stand in a string as it is. -/
def isStringChar (c : Char) : Bool := c == '\t' || (0x20 ≤ c.toNat && c.toNat != 0x7F)

/-- Reads the rest of a string on one line; the number bounds the steps. -/
def lineString (quote : Char) (acc : List Char) : Nat → Scan String
  | 0, _ | _, [] => none
  | fuel + 1, c :: rest =>
    if c = quote then some (String.ofList acc.reverse, rest)
    else if c = '\\' ∧ quote = '"' then do
      let (c, rest) ← escape? rest
      lineString quote (c :: acc) fuel rest
    else if isStringChar c then lineString quote (c :: acc) fuel rest
    else none

/-- A text behind the blanks and line ends at its start; the number bounds the steps. -/
def skipLines : Nat → List Char → List Char
  | 0, cs => cs
  | fuel + 1, cs =>
    let cs := skipSpace cs
    match newline? cs with
    | some rest => skipLines fuel rest
    | none => cs

/-- Reads the rest of a string of several lines; the number bounds the steps.  Up to two
quotes in a row belong to it, and up to five may end it. -/
def blockString (quote : Char) (acc : List Char) : Nat → Scan String
  | 0, _ | _, [] => none
  | fuel + 1, c :: rest =>
    if c = quote then
      let run := ((c :: rest).takeWhile (· = quote)).length
      if run < 3 then blockString quote (c :: acc) fuel rest
      else if run ≤ 5 then
        some (String.ofList (acc.reverse ++ List.replicate (run - 3) quote), (c :: rest).drop run)
      else none
    else if c = '\\' ∧ quote = '"' then
      match newline? (skipSpace rest) with
      | some rest => blockString quote acc fuel (skipLines (rest.length + 1) rest)
      | none => do
        let (c, rest) ← escape? rest
        blockString quote (c :: acc) fuel rest
    else
      match newline? (c :: rest) with
      | some rest => blockString quote ('\n' :: acc) fuel rest
      | none => if isStringChar c then blockString quote (c :: acc) fuel rest else none

/-- Reads a string, from its first quote on. -/
def string? : Scan String
  | '"' :: '"' :: '"' :: rest =>
    let rest := (newline? rest).getD rest
    blockString '"' [] (rest.length + 1) rest
  | '\'' :: '\'' :: '\'' :: rest =>
    let rest := (newline? rest).getD rest
    blockString '\'' [] (rest.length + 1) rest
  | '"' :: rest => lineString '"' [] (rest.length + 1) rest
  | '\'' :: rest => lineString '\'' [] (rest.length + 1) rest
  | _ => none

/-! ### Keys -/

/-- Whether a character may stand in a key without quotes. -/
def isKeyChar (c : Char) : Bool :=
  ('a' ≤ c && c ≤ 'z') || ('A' ≤ c && c ≤ 'Z') || ('0' ≤ c && c ≤ '9') || c == '_' || c == '-'

/-- Reads one part of a key. -/
def simpleKey? : Scan String
  | '"' :: rest => lineString '"' [] (rest.length + 1) rest
  | '\'' :: rest => lineString '\'' [] (rest.length + 1) rest
  | cs =>
    let name := cs.takeWhile isKeyChar
    if name.isEmpty then none else some (String.ofList name, cs.drop name.length)

/-- Reads a key, whose parts are joined by points; the number bounds their count. -/
def key? : Nat → Scan (List String)
  | 0, _ => none
  | fuel + 1, cs => do
    let (part, rest) ← simpleKey? (skipSpace cs)
    match skipSpace rest with
    | '.' :: rest =>
      let (parts, rest) ← key? fuel rest
      some (part :: parts, rest)
    | rest => some ([part], rest)

/-! ### Numbers -/

/-- Reads digits, with single underscores between them. -/
def digits (isDigit : Char → Bool) : List Char → List Char × List Char
  | [] => ([], [])
  | '_' :: c :: rest =>
    if isDigit c then
      let (ds, rest) := digits isDigit rest
      (c :: ds, rest)
    else ([], '_' :: c :: rest)
  | c :: rest =>
    if isDigit c then
      let (ds, rest) := digits isDigit rest
      (c :: ds, rest)
    else ([], c :: rest)

/-- Reads at least one digit, with single underscores between digits. -/
def digits? (isDigit : Char → Bool) (cs : List Char) : Option (List Char × List Char) :=
  match cs with
  | '_' :: _ => none
  | cs =>
    let (ds, rest) := digits isDigit cs
    if ds.isEmpty then none else some (ds, rest)

/-- A sign at the start of a text. -/
def sign : List Char → Bool × List Char
  | '+' :: rest => (false, rest)
  | '-' :: rest => (true, rest)
  | cs => (false, cs)

/-- Reads the digits of a decimal integer: no zero in front of others. -/
def decimal? (cs : List Char) : Option (List Char × List Char) :=
  match cs with
  | '0' :: rest => some (['0'], rest)
  | cs => digits? Text.isDigit cs

/-- An integer, if it has 64 bits. -/
def integer? (negative : Bool) (n : Nat) (rest : List Char) : Option (Toml × List Char) :=
  if negative then (if n ≤ Nat.pow 2 63 then some (.int (-Int.ofNat n), rest) else none)
  else if n < Nat.pow 2 63 then some (.int n, rest) else none

/-- Reads an integer in another base, from behind its mark. -/
def based? (base : Nat) (cs : List Char) : Option (Toml × List Char) := do
  let (ds, rest) ← digits? (fun c => (Text.digitValue? base c).isSome) cs
  let n ← Text.numberOf? base ds
  integer? false n rest

/-- Reads an exponent: its value, and the text after it. -/
def exponent? (cs : List Char) : Option (Int × List Char) := do
  let (negative, cs) := sign cs
  let (ds, rest) ← digits? Text.isDigit cs
  let n : Int := Text.decimal ds
  some (if negative then -n else n, rest)

/-- A number with a fraction or an exponent; one that is too large is refused. -/
def float? (negative : Bool) (ds : List Char) (shift : Int) (rest : List Char) :
    Option (Toml × List Char) :=
  if (Double.ofDecimal? false (Text.decimal ds) shift).isNone && !negative then none
  else some (.float (String.ofList ds), rest)

/-- Reads a decimal number. -/
def decimalNumber? (cs : List Char) : Option (Toml × List Char) := do
  let (negative, cs) := sign cs
  match cs with
  | 'i' :: 'n' :: 'f' :: rest => some (.float "inf", rest)
  | 'n' :: 'a' :: 'n' :: rest => some (.float "nan", rest)
  | _ =>
    let (whole, rest) ← decimal? cs
    let isExponent (c : Char) : Bool := c == 'e' || c == 'E'
    match rest with
    | '.' :: rest =>
      let (fraction, rest) ← digits? Text.isDigit rest
      let shift : Int := -Int.ofNat fraction.length
      match rest with
      | e :: after =>
        if isExponent e then
          let (n, rest) ← exponent? after
          float? negative (whole ++ fraction) (n + shift) rest
        else float? negative (whole ++ fraction) shift rest
      | [] => float? negative (whole ++ fraction) shift rest
    | e :: after =>
      if isExponent e then
        let (n, rest) ← exponent? after
        float? negative whole n rest
      else integer? negative (Text.decimal whole) rest
    | [] => integer? negative (Text.decimal whole) rest

/-! ### Dates and times -/

/-- Reads so many digits, whose value is within bounds. -/
def fixed? (count low high : Nat) (cs : List Char) : Option (Nat × List Char) :=
  let text := cs.take count
  let n := Text.decimal text
  if text.length = count ∧ text.all Text.isDigit ∧ low ≤ n ∧ n ≤ high then some (n, cs.drop count)
  else none

/-- Passes over one character. -/
def expect? (c : Char) : List Char → Option (List Char)
  | d :: rest => if c = d then some rest else none
  | [] => none

/-- Passes over a time of day. -/
def time? (cs : List Char) : Option (List Char) := do
  let (_, cs) ← fixed? 2 0 23 cs
  let cs ← expect? ':' cs
  let (_, cs) ← fixed? 2 0 59 cs
  let cs ← expect? ':' cs
  let (_, cs) ← fixed? 2 0 60 cs
  match cs with
  | '.' :: rest =>
    let fraction := rest.takeWhile Text.isDigit
    if fraction.isEmpty then none else some (rest.drop fraction.length)
  | cs => some cs

/-- Passes over an offset, if there is one. -/
def offset? (cs : List Char) : Option (List Char) :=
  match cs with
  | 'Z' :: rest | 'z' :: rest => some rest
  | '+' :: rest | '-' :: rest => do
    let (_, cs) ← fixed? 2 0 23 rest
    let cs ← expect? ':' cs
    let (_, cs) ← fixed? 2 0 59 cs
    some cs
  | cs => some cs

/-- Passes over a date, and a time of day if one follows. -/
def date? (cs : List Char) : Option (List Char) := do
  let (year, cs) ← fixed? 4 0 9999 cs
  let cs ← expect? '-' cs
  let (month, cs) ← fixed? 2 1 12 cs
  let cs ← expect? '-' cs
  let (_, cs) ← fixed? 2 1 (Date.monthLength year month) cs
  match cs with
  | 'T' :: rest | 't' :: rest => (time? rest).bind offset?
  | ' ' :: rest => if rest.head?.any Text.isDigit then (time? rest).bind offset? else some cs
  | cs => some cs

/-- Whether a text starts like a date or a time of day. -/
def looksLikeMoment (cs : List Char) : Bool :=
  let ds := (cs.takeWhile Text.isDigit).length
  (ds == 4 && cs[4]? == some '-') || (ds == 2 && cs[2]? == some ':')

/-- Reads a number, a date or a time of day. -/
def number? (cs : List Char) : Option (Toml × List Char) :=
  if looksLikeMoment cs then
    let rest := if cs[2]? == some ':' then time? cs else date? cs
    rest.map fun rest => (.moment (String.ofList (cs.take (cs.length - rest.length))), rest)
  else
    match cs with
    | '0' :: 'x' :: rest => based? 16 rest
    | '0' :: 'o' :: rest => based? 8 rest
    | '0' :: 'b' :: rest => based? 2 rest
    | cs => decimalNumber? cs

end Greenhouse.Toml
