import Greenhouse.Numeric.Format
import Greenhouse.Text.Quoted

/-!
# What can be wrong with a JSON text

A text is refused for one of two reasons.  A `Json.Fault` says that it is no JSON; some
faults say that it ends too early.  A `Json.Mismatch` says that it is JSON, or was so far,
but not of the shape that was asked for.
-/

namespace Greenhouse.Json

/-- Why a text is no JSON. -/
inductive Fault where
  | endInList
  | endInObject
  | endInString
  | endInValue
  | expectedColon
  | expectedListCommaOrEnd
  | expectedObjectCommaOrEnd
  | expectedIdent
  | expectedValue
  | invalidEscape
  | invalidNumber
  | numberOutOfRange
  | invalidCodePoint
  | controlCharacter
  | keyMustBeString
  | loneSurrogate
  | trailingComma
  | trailingCharacters
  | unexpectedEndOfEscape
  | nestedTooDeep
deriving DecidableEq

/-- The text of a fault. -/
def Fault.message : Fault → String
  | .endInList => "EOF while parsing a list"
  | .endInObject => "EOF while parsing an object"
  | .endInString => "EOF while parsing a string"
  | .endInValue => "EOF while parsing a value"
  | .expectedColon => "expected `:`"
  | .expectedListCommaOrEnd => "expected `,` or `]`"
  | .expectedObjectCommaOrEnd => "expected `,` or `\x7d`"
  | .expectedIdent => "expected ident"
  | .expectedValue => "expected value"
  | .invalidEscape => "invalid escape"
  | .invalidNumber => "invalid number"
  | .numberOutOfRange => "number out of range"
  | .invalidCodePoint => "invalid unicode code point"
  | .controlCharacter => "control character (\\u0000-\\u001F) found while parsing a string"
  | .keyMustBeString => "key must be a string"
  | .loneSurrogate => "lone leading surrogate in hex escape"
  | .trailingComma => "trailing comma"
  | .trailingCharacters => "trailing characters"
  | .unexpectedEndOfEscape => "unexpected end of hex escape"
  | .nestedTooDeep => "recursion limit exceeded"

/-- Whether the fault is that the text ends too early. -/
def Fault.isEnd : Fault → Bool
  | .endInList | .endInObject | .endInString | .endInValue => true
  | _ => false

/-- What was found where something else was expected. -/
inductive Found where
  | null
  | bool (value : Bool)
  | int (value : Int)
  | float (value : Double)
  | str (value : String)
  | sequence
  | map
deriving DecidableEq

/-- The text of what was found. -/
def Found.message : Found → String
  | .null => "null"
  | .bool true => "boolean `true`"
  | .bool false => "boolean `false`"
  | .int n => "integer `" ++ toString n ++ "`"
  | .float d => "floating point `" ++ d.encode ++ "`"
  | .str s => "string " ++ Text.quoted s
  | .sequence => "sequence"
  | .map => "map"

/-- Why a document is not of the shape asked for. -/
inductive Mismatch where
  /-- A value of one type where another was expected. -/
  | wrongType (found : Found) (expected : String)
  /-- A name that is none of the known ones. -/
  | unknownVariant (name : String) (known : List String)
  /-- No member of a name. -/
  | missingField (name : String)
  /-- Two members of one name. -/
  | duplicateField (name : String)
  /-- An array with too few items. -/
  | wrongLength (length : Nat) (expected : String)
  /-- A value that fits none of the forms of a type. -/
  | noVariant (type : String)
deriving DecidableEq

/-- The known names in words: none, one, two or many. -/
def knownNames : List String → String
  | [] => "there are no variants"
  | [a] => "expected `" ++ a ++ "`"
  | [a, b] => "expected `" ++ a ++ "` or `" ++ b ++ "`"
  | names => "expected one of " ++ String.intercalate ", " (names.map fun n => "`" ++ n ++ "`")

/-- The text of a mismatch. -/
def Mismatch.message : Mismatch → String
  | .wrongType found expected => "invalid type: " ++ found.message ++ ", expected " ++ expected
  | .unknownVariant name known => "unknown variant `" ++ name ++ "`, " ++ knownNames known
  | .missingField name => "missing field `" ++ name ++ "`"
  | .duplicateField name => "duplicate field `" ++ name ++ "`"
  | .wrongLength length expected =>
    "invalid length " ++ toString length ++ ", expected " ++ expected
  | .noVariant type => "data did not match any variant of untagged enum " ++ type

/-- Why a text is refused. -/
inductive DecodeError where
  | fault (fault : Fault)
  | mismatch (mismatch : Mismatch)
deriving DecidableEq

/-- The text of the reason. -/
def DecodeError.message : DecodeError → String
  | .fault f => f.message
  | .mismatch m => m.message

/-- The kind of a reason: a text that ends too early, one that is no JSON, or one of
another shape. -/
inductive Category where
  | grammar
  | ending
  | shape
deriving DecidableEq

/-- The kind of a reason. -/
def DecodeError.category : DecodeError → Category
  | .fault f => if f.isEnd then .ending else .grammar
  | .mismatch _ => .shape

end Greenhouse.Json
