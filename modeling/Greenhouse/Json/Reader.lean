import Greenhouse.Json.Number
import Greenhouse.Text.Utf8

/-!
# Reading JSON

`Json.parse` reads one document and nothing after it but blanks.  The pieces are readers:
a `Json.Reader` takes a text apart from its start and gives what it read and the text after
it.  `Json.readValue` reads any document, `Json.skipValue` passes over one without looking
at the size of its numbers or the depth of its nesting.  The names of an object are put in
order; of two members of one name the last one counts.
-/

namespace Greenhouse.Json

/-- What a reader goes by. -/
structure Limits where
  /-- How many more arrays and objects may be opened within each other. -/
  room : Nat
  /-- The character that stands for bytes that are not UTF-8. -/
  stray? : Option Char
deriving DecidableEq

/-- The limits for a text of characters. -/
def Limits.ofText : Limits := ⟨127, none⟩

/-- A reader of the beginning of a text. -/
abbrev Reader (α : Type) := Limits → List Char → Except DecodeError (α × List Char)

/-- The blanks between the tokens of a document. -/
def isGap (c : Char) : Bool := c == ' ' || c == '\n' || c == '\t' || c == '\r'

/-- A text from its first token on. -/
def skipGap (cs : List Char) : List Char := cs.dropWhile isGap

/-- A fault as the outcome of reading. -/
def fail {α : Type} (f : Fault) : Except DecodeError α := .error (.fault f)

/-- An outcome without mismatches as an outcome of reading. -/
def lift {α : Type} (r : Except Fault α) : Except DecodeError α := r.mapError .fault

/-! ### Words and strings -/

/-- Passes over the rest of a word. -/
def readWord : List Char → List Char → Except Fault (List Char)
  | [], cs => .ok cs
  | _ :: _, [] => .error .endInValue
  | w :: ws, c :: cs => if w = c then readWord ws cs else .error .expectedIdent

/-- The number of bytes that a character stands for. -/
def bytesOf (lim : Limits) (c : Char) : Nat := if lim.stray? = some c then 1 else c.utf8Size

/-- Reads four hexadecimal digits.  A text of fewer than four bytes ends too early. -/
def readHex (lim : Limits) : List Char → Except Fault (Nat × List Char)
  | a :: b :: c :: d :: rest =>
    match Text.numberOf? 16 [a, b, c, d] with
    | some n => .ok (n, rest)
    | none => .error .invalidEscape
  | cs =>
    if cs.foldr (bytesOf lim · + ·) 0 < 4 then .error .endInString
    else .error .invalidEscape

/-- The character of an escape of one letter. -/
def simpleEscape? : Char → Option Char
  | '"' => some '"'
  | '\\' => some '\\'
  | '/' => some '/'
  | 'b' => some (Char.ofNat 8)
  | 'f' => some (Char.ofNat 12)
  | 'n' => some '\n'
  | 'r' => some '\r'
  | 't' => some '\t'
  | _ => none

/-- Reads a code point, from behind `\u`.  One beyond the first plane is two surrogates. -/
def readCodePoint (lim : Limits) (cs : List Char) : Except Fault (Char × List Char) :=
  match readHex lim cs with
  | .error f => .error f
  | .ok (n, rest) =>
    if 0xDC00 ≤ n ∧ n ≤ 0xDFFF then .error .loneSurrogate
    else if n < 0xD800 ∨ 0xDBFF < n then .ok (Char.ofNat n, rest)
    else
      match rest with
      | [] => .error .endInString
      | '\\' :: [] => .error .endInString
      | '\\' :: 'u' :: rest =>
        match readHex lim rest with
        | .error f => .error f
        | .ok (m, rest) =>
          if m < 0xDC00 ∨ 0xDFFF < m then .error .loneSurrogate
          else .ok (Char.ofNat ((n - 0xD800) * 1024 + (m - 0xDC00) + 0x10000), rest)
      | _ => .error .unexpectedEndOfEscape

/-- Reads an escape, from behind its backslash. -/
def readEscape (lim : Limits) : List Char → Except Fault (Char × List Char)
  | [] => .error .endInString
  | 'u' :: rest => readCodePoint lim rest
  | c :: rest =>
    match simpleEscape? c with
    | some c => .ok (c, rest)
    | none => .error .invalidEscape

/-- Reads the rest of a string up to its quote, given what was read, last character first,
and whether a stray byte was among it. -/
def readStringFrom (lim : Limits) (acc : List Char) (strayed : Bool) :
    Nat → List Char → Except Fault (String × List Char)
  | 0, _ => .error .endInString
  | _ + 1, [] => .error .endInString
  | _ + 1, '"' :: rest =>
    if strayed then .error .invalidCodePoint else .ok (String.ofList acc.reverse, rest)
  | fuel + 1, '\\' :: rest =>
    match readEscape lim rest with
    | .ok (c, rest) => readStringFrom lim (c :: acc) strayed fuel rest
    | .error f => .error f
  | fuel + 1, c :: rest =>
    if c.toNat < 0x20 then .error .controlCharacter
    else readStringFrom lim (c :: acc) (strayed || lim.stray? == some c) fuel rest

/-- Reads a string, from behind its first quote. -/
def readString (lim : Limits) (cs : List Char) : Except Fault (String × List Char) :=
  readStringFrom lim [] false (cs.length + 1) cs

/-- Passes over an escape, from behind its backslash. -/
def skipEscape (lim : Limits) : List Char → Except Fault (List Char)
  | [] => .error .endInString
  | 'u' :: rest => (readHex lim rest).map Prod.snd
  | c :: rest => if (simpleEscape? c).isSome then .ok rest else .error .invalidEscape

/-- Passes over the rest of a string up to its quote. -/
def skipStringFrom (lim : Limits) : Nat → List Char → Except Fault (List Char)
  | 0, _ => .error .endInString
  | _ + 1, [] => .error .endInString
  | _ + 1, '"' :: rest => .ok rest
  | fuel + 1, '\\' :: rest =>
    match skipEscape lim rest with
    | .ok rest => skipStringFrom lim fuel rest
    | .error f => .error f
  | fuel + 1, c :: rest =>
    if c.toNat < 0x20 then .error .controlCharacter else skipStringFrom lim fuel rest

/-- Passes over a string, from behind its first quote. -/
def skipString (lim : Limits) (cs : List Char) : Except Fault (List Char) :=
  skipStringFrom lim (cs.length + 1) cs

/-- Passes over the colon behind a name. -/
def readColon (cs : List Char) : Except Fault (List Char) :=
  match skipGap cs with
  | [] => .error .endInObject
  | ':' :: rest => .ok rest
  | _ => .error .expectedColon

/-! ### Items and members -/

/-- Goes to the next item of an array: the text from that item on, or the text after the
array. -/
def nextItem (first : Bool) (cs : List Char) : Except Fault (List Char ⊕ List Char) :=
  match skipGap cs with
  | [] => .error .endInList
  | ']' :: rest => .ok (.inr rest)
  | ',' :: rest =>
    if first then .ok (.inl (',' :: rest))
    else
      match skipGap rest with
      | [] => .error .endInValue
      | ']' :: _ => .error .trailingComma
      | rest => .ok (.inl rest)
  | rest => if first then .ok (.inl rest) else .error .expectedListCommaOrEnd

/-- Goes to the next member of an object: the text behind the first quote of its name, or
the text after the object. -/
def nextMember (first : Bool) (cs : List Char) : Except Fault (List Char ⊕ List Char) :=
  match skipGap cs with
  | [] => .error .endInObject
  | '\x7d' :: rest => .ok (.inr rest)
  | '"' :: rest => if first then .ok (.inl rest) else .error .expectedObjectCommaOrEnd
  | ',' :: rest =>
    if first then .error .keyMustBeString
    else
      match skipGap rest with
      | [] => .error .endInValue
      | '"' :: rest => .ok (.inl rest)
      | '\x7d' :: _ => .error .trailingComma
      | _ => .error .keyMustBeString
  | _ => if first then .error .keyMustBeString else .error .expectedObjectCommaOrEnd

/-- The limits within one more array or object. -/
def Limits.enter (lim : Limits) : Except Fault Limits :=
  match lim.room with
  | 0 => .error .nestedTooDeep
  | room + 1 => .ok { lim with room }

mutual
/-- Reads a document; the first number bounds the steps. -/
def readValueFrom : Nat → Limits → List Char → Except Fault (Json × List Char)
  | 0, _, _ => .error .endInValue
  | fuel + 1, lim, cs =>
    match skipGap cs with
    | [] => .error .endInValue
    | 'n' :: rest => (readWord "ull".toList rest).map fun rest => (.null, rest)
    | 't' :: rest => (readWord "rue".toList rest).map fun rest => (.bool true, rest)
    | 'f' :: rest => (readWord "alse".toList rest).map fun rest => (.bool false, rest)
    | '-' :: rest => readNumber true rest
    | '"' :: rest => (readString lim rest).map fun (s, rest) => (.str s, rest)
    | '[' :: rest =>
      match lim.enter with
      | .error f => .error f
      | .ok inner =>
        match readItemsFrom fuel inner true [] rest with
        | .ok (items, rest) => .ok (.arr items, rest)
        | .error f => .error f
    | '\x7b' :: rest =>
      match lim.enter with
      | .error f => .error f
      | .ok inner =>
        match readMembersFrom fuel inner true [] rest with
        | .ok (members, rest) => .ok (.obj members, rest)
        | .error f => .error f
    | c :: rest =>
      if Text.isDigit c then readNumber false (c :: rest) else .error .expectedValue

/-- Reads the items of an array that are left, given those before, last one first. -/
def readItemsFrom : Nat → Limits → Bool → List Json → List Char →
    Except Fault (List Json × List Char)
  | 0, _, _, _, _ => .error .endInList
  | fuel + 1, lim, first, acc, cs =>
    match nextItem first cs with
    | .error f => .error f
    | .ok (.inr rest) => .ok (acc.reverse, rest)
    | .ok (.inl rest) =>
      match readValueFrom fuel lim rest with
      | .error f => .error f
      | .ok (v, rest) => readItemsFrom fuel lim false (v :: acc) rest

/-- Reads the members of an object that are left, given those before. -/
def readMembersFrom : Nat → Limits → Bool → List (String × Json) → List Char →
    Except Fault (List (String × Json) × List Char)
  | 0, _, _, _, _ => .error .endInObject
  | fuel + 1, lim, first, acc, cs =>
    match nextMember first cs with
    | .error f => .error f
    | .ok (.inr rest) => .ok (acc, rest)
    | .ok (.inl rest) =>
      match readString lim rest with
      | .error f => .error f
      | .ok (name, rest) =>
        match readColon rest with
        | .error f => .error f
        | .ok rest =>
          match readValueFrom fuel lim rest with
          | .error f => .error f
          | .ok (v, rest) => readMembersFrom fuel lim false (Table.put name v acc) rest
end

/-- Reads any document. -/
def readValue : Reader Json :=
  fun lim cs => lift (readValueFrom (2 * cs.length + 2) lim cs)

/-! ### Passing over a value -/

/-- An array or object that is open. -/
inductive Frame where
  | list
  | object
deriving DecidableEq

/-- Closes what can be closed behind a value or an opening bracket, and goes to the next
value: the open frames and the text from there on, or the text after the outermost
value. -/
def skipClosing (comma : Bool) : List Frame → List Char →
    Except Fault ((List Frame × List Char) ⊕ List Char)
  | [], cs => .ok (.inr cs)
  | .list :: frames, cs =>
    match skipGap cs with
    | [] => .error .endInList
    | ',' :: rest =>
      .ok (.inl (.list :: frames, if comma then rest else ',' :: rest))
    | ']' :: rest => skipClosing true frames rest
    | rest => if comma then .error .expectedListCommaOrEnd else .ok (.inl (.list :: frames, rest))
  | .object :: frames, cs =>
    match skipGap cs with
    | [] => .error .endInObject
    | ',' :: rest =>
      .ok (.inl (.object :: frames, if comma then rest else ',' :: rest))
    | '\x7d' :: rest => skipClosing true frames rest
    | rest =>
      if comma then .error .expectedObjectCommaOrEnd else .ok (.inl (.object :: frames, rest))

/-- Passes over the name of a member and its colon. -/
def skipName (lim : Limits) (cs : List Char) : Except Fault (List Char) :=
  match skipGap cs with
  | [] => .error .endInObject
  | '"' :: rest =>
    match skipString lim rest with
    | .ok rest => readColon rest
    | .error f => .error f
  | _ => .error .keyMustBeString

/-- Passes over a scalar, or opens an array or object. -/
def skipToken (lim : Limits) (cs : List Char) : Except Fault (Option Frame × List Char) :=
  match skipGap cs with
  | [] => .error .endInValue
  | 'n' :: rest => (readWord "ull".toList rest).map fun rest => (none, rest)
  | 't' :: rest => (readWord "rue".toList rest).map fun rest => (none, rest)
  | 'f' :: rest => (readWord "alse".toList rest).map fun rest => (none, rest)
  | '-' :: rest => (skipNumber rest).map fun rest => (none, rest)
  | '"' :: rest => (skipString lim rest).map fun rest => (none, rest)
  | '[' :: rest => .ok (some .list, rest)
  | '\x7b' :: rest => .ok (some .object, rest)
  | c :: rest =>
    if Text.isDigit c then (skipNumber (c :: rest)).map fun rest => (none, rest)
    else .error .expectedValue

/-- Passes over a value within open frames; the first number bounds the steps. -/
def skipValueFrom (lim : Limits) : Nat → List Frame → List Char → Except Fault (List Char)
  | 0, _, _ => .error .endInValue
  | fuel + 1, frames, cs =>
    match skipToken lim cs with
    | .error f => .error f
    | .ok (opened, rest) =>
      match skipClosing opened.isNone (opened.toList ++ frames) rest with
      | .error f => .error f
      | .ok (.inr rest) => .ok rest
      | .ok (.inl (frames, rest)) =>
        if frames.head? = some .object then
          match skipName lim rest with
          | .error f => .error f
          | .ok rest => skipValueFrom lim fuel frames rest
        else skipValueFrom lim fuel frames rest

/-- Passes over any value. -/
def skipValue : Reader Unit :=
  fun lim cs => lift ((skipValueFrom lim (cs.length + 1) [] cs).map fun rest => ((), rest))

/-! ### Whole texts -/

/-- Checks that nothing but blanks follows. -/
def finish {α : Type} (r : Except DecodeError (α × List Char)) : Except DecodeError α :=
  match r with
  | .error e => .error e
  | .ok (v, rest) => if (skipGap rest).isEmpty then .ok v else fail .trailingCharacters

/-- What a reader makes of a whole text. -/
def Reader.run {α : Type} (r : Reader α) (text : String) : Except DecodeError α :=
  finish (r .ofText text.toList)

/-- A character that does not occur in a text. -/
def unusedChar (cs : List Char) : Char :=
  (((List.range' 0xE000 0x1900).map Char.ofNat).find? fun c => !cs.contains c).getD '\x00'

/-- What a reader makes of bytes.  Bytes that are not UTF-8 are no character; they are only
passed over in strings that nobody reads. -/
def Reader.runBytes {α : Type} (r : Reader α) (bytes : List UInt8) : Except DecodeError α :=
  match Utf8.decode? bytes with
  | some cs => finish (r .ofText cs)
  | none =>
    let stray := unusedChar (Utf8.decodeLossy bytes)
    finish (r { Limits.ofText with stray? := some stray } (Utf8.decodeMarked stray bytes))

/-- The document that is a whole text. -/
def parse (text : String) : Except DecodeError Json := readValue.run text

end Greenhouse.Json
