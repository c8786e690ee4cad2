import Greenhouse.Text.Pattern
import Greenhouse.Text.Split

/-!
# Directives for the log

What is logged is chosen by directives between commas: levels for all, for targets, and for
spans with fields, as in `info,link[call\x7bname=fan\x7d]=debug`.  `LogFilter.check` says
whether a text is a list of directives.

Blanks around a directive do not count while it is read, but its parts are then cut out of the
text with the blanks, by the number of their bytes.  So a part may begin too early, and when
that is within a character the program is broken off.
-/

namespace Greenhouse.LogFilter

/-- What is wrong with a text of directives. -/
inductive Fault where
  /-- It is no list of directives. -/
  | refused
  /-- A part would begin or end within a character. -/
  | broken
deriving DecidableEq

/-- A text without a number of bytes at its start. -/
def dropBytes? : Nat → List Char → Option (List Char)
  | 0, cs => some cs
  | _, [] => none
  | n, c :: rest => if c.utf8Size ≤ n then dropBytes? (n - c.utf8Size) rest else none

/-- A number of bytes at the start of a text. -/
def takeBytes? : Nat → List Char → Option (List Char)
  | 0, _ => some []
  | _, [] => none
  | n, c :: rest =>
    if c.utf8Size ≤ n then (takeBytes? (n - c.utf8Size) rest).map (c :: ·) else none

/-- The part of a text from one byte to another. -/
def cut (text : List Char) (first last : Nat) : Except Fault (List Char) :=
  match (dropBytes? first text).bind (takeBytes? (last - first)) with
  | some part => .ok part
  | none => .error .broken

/-! ### Levels and fields -/

/-- The names of the levels. -/
def levels : List String := ["off", "error", "warn", "info", "debug", "trace"]

/-- Whether a text is a level, by its name or its number; an empty one is. -/
def isLevel (s : List Char) : Bool :=
  let digits := if s.head? = some '+' then s.drop 1 else s
  let numbered := !digits.isEmpty && (Text.numberOf? 10 digits).any (· < levels.length)
  s.isEmpty || numbered || levels.contains (String.ofList (s.map Text.lowerAscii))

/-- Whether a text without a sign is a number with a fraction or an exponent, or the name of
one. -/
def isFraction (s : List Char) : Bool :=
  let lower := String.ofList (s.map Text.lowerAscii)
  let whole := s.takeWhile Text.isDigit
  let rest := s.dropWhile Text.isDigit
  let (places, rest) :=
    match rest with
    | '.' :: rest => (rest.takeWhile Text.isDigit, rest.dropWhile Text.isDigit)
    | rest => ([], rest)
  let exponent :=
    match rest with
    | [] => true
    | e :: rest =>
      let digits := if rest.head? = some '-' || rest.head? = some '+' then rest.drop 1 else rest
      (e = 'e' || e = 'E') && !digits.isEmpty && digits.all Text.isDigit
  ["inf", "infinity", "nan"].contains lower || (!(whole ++ places).isEmpty && exponent)

/-- Whether a text is the value of a field: a number, or a pattern.  What is written like a number
is a pattern too, but for a sign before it. -/
def isValue : List Char → Bool
  | '+' :: rest => isFraction rest
  | s => Pattern.isValid s

/-- Whether a text is a field: a name, and a value if one is asked for.  What follows a second
equals sign does not count. -/
def isField (s : List Char) : Bool :=
  match Text.splitAt '=' s with
  | _ :: value :: _ => isValue value
  | _ => !s.isEmpty

/-! ### Directives -/

/-- Where a directive is being read, and from which byte on. -/
inductive Place where
  | start
  | levelOrTarget
  | span (first : Nat)
  | field (first : Nat)
  /-- Behind the fields. -/
  | fields
  /-- Behind the span. -/
  | spanned
  | level (first : Nat)
deriving DecidableEq

/-- Whether a directive may start with a character. -/
def mayStart (c : Char) : Bool := "-:_".toList.contains c || Text.isAlphanumeric c

/-- Reads one character at a byte; the text is the directive with the blanks around it. -/
def Place.step (text : List Char) (p : Place) (byte : Nat) (c : Char) : Except Fault Place :=
  match p, c with
  | .start, '[' => .ok (.span (byte + 1))
  | .start, c => if mayStart c then .ok .levelOrTarget else .error .refused
  | .levelOrTarget, '=' => (cut text 0 byte).map fun _ => .level (byte + 1)
  | .levelOrTarget, '[' => (cut text 0 byte).map fun _ => .span (byte + 1)
  | .span first, ']' => (cut text first byte).map fun _ => .spanned
  | .span first, '\x7b' => (cut text first byte).map fun _ => .field (byte + 1)
  | .field first, '\x7d' => do
    if isField (← cut text first byte) then .ok .fields else .error .refused
  | .fields, ']' => .ok .spanned
  | .fields, _ => .error .refused
  | .spanned, '=' => .ok (.level (byte + 1))
  | .spanned, _ => .error .refused
  | p, _ => .ok p

/-- Reads a directive from a byte on. -/
def Place.read (text : List Char) (p : Place) (byte : Nat) : List Char → Except Fault Place
  | [] => .ok p
  | c :: rest => do (← p.step text byte c).read text (byte + c.utf8Size) rest

/-- Checks a directive. -/
def checkDirective (text : List Char) : Except Fault Unit := do
  match ← Place.start.read text 0 (Text.trim text) with
  | .level first =>
    if isLevel (← cut text first (Text.byteCount text)) then .ok () else .error .refused
  | .levelOrTarget | .spanned => .ok ()
  | _ => .error .refused

/-- Checks a list of directives; the first fault counts. -/
def check (text : String) : Except Fault Unit :=
  ((Text.splitAt ',' text.toList).filter fun piece => !piece.isEmpty).forM checkDirective

end Greenhouse.LogFilter
