import Greenhouse.Text.Blank
import Greenhouse.Text.Digit
import Greenhouse.Time.Calendar

/-!
# Instants

An `Instant` is a moment of universal time to the nanosecond.  `Instant.ofRfc3339?` reads a
moment with an offset, in the form of RFC 3339; `Instant.ofLocal?` reads one without an
offset, more leniently, and takes it as universal time.  A second may be a leap second,
which is kept as nanoseconds beyond the last second.
-/

namespace Greenhouse

/-- A moment of universal time. -/
structure Instant where
  /-- Days since the first of January 1970. -/
  day : Int
  /-- Seconds of the day. -/
  second : Nat
  /-- Nanoseconds of the second; one billion more during a leap second. -/
  nano : Nat
deriving DecidableEq

namespace Instant

/-! ### Reading -/

/-- Reads the digits at the start of a text, at most as many as given: their value, their
number and the text after them. -/
def takeNumber (value count : Nat) : Nat → List Char → Nat × Nat × List Char
  | 0, cs => (value, count, cs)
  | _ + 1, [] => (value, count, [])
  | width + 1, c :: rest =>
    match Text.digitValue? 10 c with
    | some d => takeNumber (value * 10 + d) (count + 1) width rest
    | none => (value, count, c :: rest)

/-- Reads a number of `least` to `most` digits. -/
def number? (least most : Nat) (cs : List Char) : Option (Nat × List Char) :=
  let (value, count, rest) := takeNumber 0 0 most cs
  if count < least then none else some (value, rest)

/-- Passes over one character. -/
def expect? (c : Char) : List Char → Option (List Char)
  | d :: rest => if c = d then some rest else none
  | [] => none

/-- Reads a fraction of a second, if there is one; digits beyond the ninth do not count. -/
def fraction? : List Char → Option (Nat × List Char)
  | '.' :: cs =>
    let (value, count, rest) := takeNumber 0 0 9 cs
    if count = 0 then none
    else some (value * Nat.pow 10 (9 - count), rest.dropWhile Text.isDigit)
  | cs => some (0, cs)

/-- Reads an offset from universal time, in seconds. -/
def offset? : List Char → Option (Int × List Char)
  | [] => none
  | c :: cs =>
    if c = 'Z' ∨ c = 'z' then some (0, cs)
    else do
      let negative ←
        if c = '+' then some false
        else if c = '-' ∨ c.toNat = 0x2212 then some true
        else none
      let (hours, cs) ← number? 2 2 cs
      let cs ← expect? ':' cs
      let (minutes, cs) ← number? 2 2 cs
      if 23 < hours ∨ 59 < minutes then none
      else
        let seconds : Int := hours * 3600 + minutes * 60
        some (if negative then -seconds else seconds, cs)

/-- The moment of a date and a time of day, if both are possible. -/
def ofParts? (date : Date) (hour minute second nano : Nat) : Option Instant :=
  if date.valid && hour < 24 && minute < 60 && second ≤ 60 then
    let leap := second = 60
    some
      { day := date.toDay
        second := hour * 3600 + minute * 60 + (if leap then 59 else second)
        nano := if leap then nano + 1000000000 else nano }
  else none

/-- The moment that many seconds earlier. -/
def before (t : Instant) (seconds : Int) : Instant :=
  let total := t.day * 86400 + t.second - seconds
  { t with day := total.fdiv 86400, second := (total.fmod 86400).toNat }

/-- Reads a moment in the form of RFC 3339. -/
def ofRfc3339? (text : String) : Option Instant := do
  let (year, cs) ← number? 4 4 text.toList
  let cs ← expect? '-' cs
  let (month, cs) ← number? 2 2 cs
  let cs ← expect? '-' cs
  let (day, cs) ← number? 2 2 cs
  let cs ← (expect? 'T' cs).or ((expect? 't' cs).or (expect? ' ' cs))
  let (hour, cs) ← number? 2 2 cs
  let cs ← expect? ':' cs
  let (minute, cs) ← number? 2 2 cs
  let cs ← expect? ':' cs
  let (second, cs) ← number? 2 2 cs
  let (nano, cs) ← fraction? cs
  let (offset, cs) ← offset? cs
  let t ← ofParts? ⟨year, month, day⟩ hour minute second nano
  if cs.isEmpty then some (t.before offset) else none

/-- Reads a year: up to four digits, or any number of them behind a sign. -/
def year? (cs : List Char) : Option (Int × List Char) :=
  match Text.trimStart cs with
  | '-' :: cs => (number? 1 cs.length cs).map fun (n, cs) => (-Int.ofNat n, cs)
  | '+' :: cs => (number? 1 cs.length cs).map fun (n, cs) => (Int.ofNat n, cs)
  | cs => (number? 1 4 cs).map fun (n, cs) => (Int.ofNat n, cs)

/-- Reads one or two digits behind blanks. -/
def field? (cs : List Char) : Option (Nat × List Char) := number? 1 2 (Text.trimStart cs)

/-- Reads a moment without an offset, which is taken as universal time. -/
def ofLocal? (text : String) : Option Instant := do
  let (year, cs) ← year? text.toList
  let cs ← expect? '-' cs
  let (month, cs) ← field? cs
  let cs ← expect? '-' cs
  let (day, cs) ← field? cs
  let cs ← expect? 'T' cs
  let (hour, cs) ← field? cs
  let cs ← expect? ':' cs
  let (minute, cs) ← field? cs
  let cs ← expect? ':' cs
  let (second, cs) ← field? cs
  let (nano, cs) ← fraction? cs
  let t ← ofParts? ⟨year, month, day⟩ hour minute second nano
  if cs.isEmpty then some t else none

/-- The moment that many milliseconds after the first of January 1970. -/
def ofMillis (millis : Nat) : Instant :=
  ⟨millis / 86400000, millis / 1000 % 86400, millis % 1000 * 1000000⟩

/-! ### Writing -/

/-- A number with zeros in front up to a width. -/
def padded (width n : Nat) : String :=
  let text := toString n
  String.ofList (List.replicate (width - text.length) '0') ++ text

/-- A year: four digits, and a sign where they are not enough. -/
def yearText (year : Int) : String :=
  if 0 ≤ year ∧ year ≤ 9999 then padded 4 year.toNat
  else (if year < 0 then "-" else "+") ++ padded 4 year.natAbs

/-- A fraction of a second in three, six or nine digits, as few as suffice. -/
def fractionText (nano : Nat) : String :=
  if nano = 0 then ""
  else if nano % 1000000 = 0 then "." ++ padded 3 (nano / 1000000)
  else if nano % 1000 = 0 then "." ++ padded 6 (nano / 1000)
  else "." ++ padded 9 nano

/-- The time of day in hours, minutes and seconds. -/
def clockText (t : Instant) : String :=
  let second := t.second % 60 + (if 1000000000 ≤ t.nano then 1 else 0)
  padded 2 (t.second / 3600) ++ ":" ++ padded 2 (t.second / 60 % 60) ++ ":" ++ padded 2 second

/-- The moment in the form of RFC 3339, with the text for universal time given. -/
def toText (t : Instant) (universal : String) : String :=
  let date := Date.ofDay t.day
  yearText date.year ++ "-" ++ padded 2 date.month ++ "-" ++ padded 2 date.day ++ "T"
    ++ t.clockText ++ fractionText (t.nano % 1000000000) ++ universal

/-- The moment in the form of RFC 3339, with a numeric offset. -/
def toRfc3339 (t : Instant) : String := t.toText "+00:00"

/-- The moment in the form of RFC 3339, with a letter for universal time. -/
def toZulu (t : Instant) : String := t.toText "Z"

end Instant

end Greenhouse
