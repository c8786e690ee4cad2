import Greenhouse.Json.Reader

/-!
# Reading values of a known shape

Readers for the shapes that messages are made of: texts, booleans, numbers, optional values,
names out of a list, ordered maps and records.  A `Json.Field` is a named part of a record.
A record is written as an object, whose unknown members are passed over, or as an array of
its fields in order.  A reader stops at the first thing it cannot use, so what follows it
need not even be JSON.
-/

namespace Greenhouse.Json

/-- A mismatch as the outcome of reading. -/
def reject {α : Type} (m : Mismatch) : Except DecodeError α := .error (.mismatch m)

/-- The outcome of finding a scalar where something else was expected, once the scalar has
been read. -/
def rejectScalar {α β : Type} (expected : String) (found : α → Found) (r : Except Fault α) :
    Except DecodeError β :=
  match r with
  | .ok a => reject (.wrongType (found a) expected)
  | .error f => fail f

/-- How a number is named when it was not expected. -/
def Found.ofNumber : Json → Found
  | .int n => .int n
  | .float d => .float d
  | _ => .null

/-- The outcome of finding something else than was expected, at its first character. -/
def rejectValue {α : Type} (expected : String) : Reader α :=
  fun lim cs =>
    match cs with
    | 'n' :: rest => rejectScalar expected (fun _ => .null) (readWord "ull".toList rest)
    | 't' :: rest => rejectScalar expected (fun _ => .bool true) (readWord "rue".toList rest)
    | 'f' :: rest => rejectScalar expected (fun _ => .bool false) (readWord "alse".toList rest)
    | '-' :: rest => rejectScalar expected (fun r => .ofNumber r.1) (readNumber true rest)
    | '"' :: rest => rejectScalar expected (fun r => .str r.1) (readString lim rest)
    | '[' :: _ => reject (.wrongType .sequence expected)
    | '\x7b' :: _ => reject (.wrongType .map expected)
    | c :: rest =>
      if Text.isDigit c then
        rejectScalar expected (fun r => .ofNumber r.1) (readNumber false (c :: rest))
      else fail .expectedValue
    | [] => fail .expectedValue

/-- Reads a text. -/
def readText (expected : String) : Reader String :=
  fun lim cs =>
    match skipGap cs with
    | [] => fail .endInValue
    | '"' :: rest => lift (readString lim rest)
    | rest => rejectValue expected lim rest

/-- Reads a boolean. -/
def readBool : Reader Bool :=
  fun lim cs =>
    match skipGap cs with
    | [] => fail .endInValue
    | 't' :: rest => lift ((readWord "rue".toList rest).map fun rest => (true, rest))
    | 'f' :: rest => lift ((readWord "alse".toList rest).map fun rest => (false, rest))
    | rest => rejectValue "a boolean" lim rest

/-- Reads a number. -/
def readFloat : Reader Double :=
  let number (r : Except Fault (Json × List Char)) : Except DecodeError (Double × List Char) :=
    lift (r.map fun (v, rest) => (v.number?.getD .zero, rest))
  fun lim cs =>
    match skipGap cs with
    | [] => fail .endInValue
    | '-' :: rest => number (readNumber true rest)
    | c :: rest =>
      if Text.isDigit c then number (readNumber false (c :: rest))
      else rejectValue "f64" lim (c :: rest)

/-- Reads a value that may be null. -/
def readOption {α : Type} (r : Reader α) : Reader (Option α) :=
  fun lim cs =>
    match skipGap cs with
    | 'n' :: rest => lift ((readWord "ull".toList rest).map fun rest => (none, rest))
    | rest => (r lim rest).map fun (a, rest) => (some a, rest)

/-- Finds the value of a name among the known ones. -/
def chooseName {α : Type} (known : List (String × α)) (name : String) : Except DecodeError α :=
  match known.find? fun (n, _) => n == name with
  | some (_, a) => .ok a
  | none => reject (.unknownVariant name (known.map Prod.fst))

/-- Reads a null behind a name. -/
def readUnit : Reader Unit :=
  fun lim cs =>
    match skipGap cs with
    | [] => fail .endInValue
    | 'n' :: rest => lift ((readWord "ull".toList rest).map fun rest => ((), rest))
    | rest => rejectValue "unit" lim rest

/-- Reads one of the known names: a string, or an object with that name and null. -/
def readName {α : Type} (known : List (String × α)) : Reader α :=
  fun lim cs =>
    match skipGap cs with
    | [] => fail .endInValue
    | '"' :: rest => do
      let (name, rest) ← lift (readString lim rest)
      let a ← chooseName known name
      return (a, rest)
    | '\x7b' :: rest => do
      let inner ← lift lim.enter
      let (name, rest) ← readText "variant identifier" inner rest
      let a ← chooseName known name
      let rest ← lift (readColon rest)
      let ((), rest) ← readUnit inner rest
      match skipGap rest with
      | [] => fail .endInObject
      | '\x7d' :: rest => return (a, rest)
      | _ => fail .expectedValue
    | _ => fail .expectedValue

/-! ### Ordered maps -/

/-- The entries of an ordered map with one more: an entry of its key keeps its place and
takes the value, a new key comes last. -/
def putEntry {β : Type} (key : String) (value : β) : List (String × β) → List (String × β)
  | [] => [(key, value)]
  | (k, v) :: rest => if k = key then (k, value) :: rest else (k, v) :: putEntry key value rest

/-- Reads the entries of an ordered map that are left; the number bounds the steps. -/
def readEntries {β : Type} (r : Reader β) (lim : Limits) :
    Nat → Bool → List (String × β) → List Char →
    Except DecodeError (List (String × β) × List Char)
  | 0, _, _, _ => fail .endInObject
  | fuel + 1, first, acc, cs => do
    match ← lift (nextMember first cs) with
    | .inr rest => return (acc, rest)
    | .inl rest =>
      let (key, rest) ← lift (readString lim rest)
      let rest ← lift (readColon rest)
      let (value, rest) ← r lim rest
      readEntries r lim fuel false (putEntry key value acc) rest

/-- Reads an ordered map. -/
def readMap {β : Type} (r : Reader β) : Reader (List (String × β)) :=
  fun lim cs =>
    match skipGap cs with
    | [] => fail .endInValue
    | '\x7b' :: rest => do
      let inner ← lift lim.enter
      readEntries r inner (rest.length + 1) true [] rest
    | rest => rejectValue "a map" lim rest

/-! ### Records -/

/-- A field of a record: its name, whether it has to be there, and how its value changes the
record read so far. -/
structure Field (α : Type) where
  key : String
  required : Bool
  read : Reader (α → α)

/-- A field read by `r` and stored by `store`. -/
def Field.of {α β : Type} (key : String) (required : Bool) (r : Reader β)
    (store : β → α → α) : Field α :=
  { key, required, read := fun lim cs => (r lim cs).map fun (b, rest) => (store b, rest) }

/-- A record type: its name, its fields in order, and the record before any is read. -/
structure Shape (α : Type) where
  name : String
  fields : List (Field α)
  blank : α

/-- How the record type is named when something else is found. -/
def Shape.title {α : Type} (s : Shape α) : String := "struct " ++ s.name

/-- How the record type is named when an array is too short for it. -/
def Shape.titleWithLength {α : Type} (s : Shape α) : String :=
  let n := s.fields.length
  s.title ++ " with " ++ toString n ++ (if n = 1 then " element" else " elements")

/-- Checks that an array ends once all fields are read. -/
def closeList (cs : List Char) : Except Fault (List Char) :=
  match skipGap cs with
  | [] => .error .endInList
  | ']' :: rest => .ok rest
  | ',' :: rest =>
    match skipGap rest with
    | ']' :: _ => .error .trailingComma
    | _ => .error .trailingCharacters
  | _ => .error .trailingCharacters

/-- Reads the fields that are left from an array. -/
def Shape.readItems {α : Type} (s : Shape α) (lim : Limits) :
    List (Field α) → Nat → α → List Char → Except DecodeError (α × List Char)
  | [], _, a, cs => do
    let rest ← lift (closeList cs)
    return (a, rest)
  | field :: fields, index, a, cs => do
    match ← lift (nextItem (index == 0) cs) with
    | .inl rest =>
      let (update, rest) ← field.read lim rest
      s.readItems lim fields (index + 1) (update a) rest
    | .inr rest =>
      match (field :: fields).findIdx? Field.required with
      | some i => reject (.wrongLength (index + i) s.titleWithLength)
      | none => return (a, rest)

/-- Reads the members of an object that are left, given the names of the fields before; the
number bounds the steps. -/
def Shape.readMembers {α : Type} (s : Shape α) (lim : Limits) :
    Nat → Bool → List String → α → List Char → Except DecodeError (α × List Char)
  | 0, _, _, _, _ => fail .endInObject
  | fuel + 1, first, seen, a, cs => do
    match ← lift (nextMember first cs) with
    | .inr rest =>
      match s.fields.find? fun f => f.required && !seen.contains f.key with
      | some f => reject (.missingField f.key)
      | none => return (a, rest)
    | .inl rest =>
      let (key, rest) ← lift (readString lim rest)
      match s.fields.find? fun f => f.key == key with
      | some field =>
        if seen.contains key then reject (.duplicateField key)
        else
          let rest ← lift (readColon rest)
          let (update, rest) ← field.read lim rest
          s.readMembers lim fuel false (key :: seen) (update a) rest
      | none =>
        let rest ← lift (readColon rest)
        let ((), rest) ← skipValue lim rest
        s.readMembers lim fuel false seen a rest

/-- Reads a record. -/
def Shape.reader {α : Type} (s : Shape α) : Reader α :=
  fun lim cs =>
    match skipGap cs with
    | [] => fail .endInValue
    | '[' :: rest => do
      let inner ← lift lim.enter
      s.readItems inner s.fields 0 s.blank rest
    | '\x7b' :: rest => do
      let inner ← lift lim.enter
      s.readMembers inner (rest.length + 1) true [] s.blank rest
    | rest => rejectValue s.title lim rest

end Greenhouse.Json
