import Greenhouse.Message.ActuatorValue
import Greenhouse.Text.Blank
import Greenhouse.Text.Digit

/-!
# What the operator types

`OperatorCommand.parse` reads a line: a verb and its arguments, separated by blanks.  A blank
line is no command.  Settings are taken as JSON when they are JSON, and as text otherwise.
-/

namespace Greenhouse

/-- A line typed by the operator. -/
inductive OperatorCommand where
  | set (name : String) (value : ActuatorValue)
  | toggle (name : String)
  | clear (name : String)
  | clearAll
  | goal (text : String)
  | edit (name field : String) (value : Json)
  | close (name : String)
  | send (verb : String) (payload : Json)
  | ping
  | status
  | show
  | settings
  | metrics
  | help
  | quit
deriving DecidableEq

/-- Why a line is no command. -/
inductive OperatorError where
  /-- The arguments are not those of the verb; its usage. -/
  | usage (form : String)
  | unknownVerb (verb : String)
  | notAValue (text : String)
  | payload (cause : Json.DecodeError)
deriving DecidableEq

/-- The text of the reason. -/
def OperatorError.message : OperatorError → String
  | .usage form => "usage: " ++ form
  | .unknownVerb verb => "unknown command `" ++ verb ++ "`; try `help`"
  | .notAValue text => "`" ++ text ++ "` is neither on/off nor a number"
  | .payload _ => "payload is not valid JSON"

namespace OperatorCommand

/-! ### Numbers -/

/-- The value of an exponent: a letter, a sign and digits; nothing stands for zero. -/
def exponent? : List Char → Option Int
  | [] => some 0
  | e :: cs =>
    if e = 'e' ∨ e = 'E' then
      let (negative, digits) : Bool × List Char :=
        match cs with
        | '-' :: rest => (true, rest)
        | '+' :: rest => (false, rest)
        | rest => (false, rest)
      if digits.isEmpty || !digits.all Text.isDigit then none
      else
        let n : Int := Text.decimal digits
        some (if negative then -n else n)
    else none

/-- The number that a text is: digits with or without a point, and an exponent; a sign may
stand in front. -/
def number? (cs : List Char) : Option Double :=
  let (negative, cs) : Bool × List Char :=
    match cs with
    | '-' :: rest => (true, rest)
    | '+' :: rest => (false, rest)
    | rest => (false, rest)
  let whole := cs.takeWhile Text.isDigit
  let (fraction, tail) : List Char × List Char :=
    match cs.dropWhile Text.isDigit with
    | '.' :: rest => (rest.takeWhile Text.isDigit, rest.dropWhile Text.isDigit)
    | rest => ([], rest)
  if whole.isEmpty && fraction.isEmpty then none
  else
    (exponent? tail).bind fun e =>
      Double.ofDecimal? negative (Text.decimal (whole ++ fraction)) (e - fraction.length)

/-- The actuator value that a text is: on or off, or a number. -/
def actuatorValue? (text : List Char) : Option ActuatorValue :=
  let word := String.ofList (text.map Text.lowerAscii)
  if word = "on" ∨ word = "true" then some (.switch true)
  else if word = "off" ∨ word = "false" then some (.switch false)
  else (number? text).map .level

/-- Reads an actuator value. -/
def actuatorValue (text : List Char) : Except OperatorError ActuatorValue :=
  match actuatorValue? text with
  | some value => .ok value
  | none => .error (.notAValue (String.ofList text))

/-- The value of a setting: JSON, or else the text itself. -/
def settingValue (text : List Char) : Json :=
  match Json.parse (String.ofList text) with
  | .ok value => value
  | .error _ => .str (String.ofList text)

/-! ### Words -/

/-- The first word of a text, and the text after it without blanks at its ends. -/
def splitWord (cs : List Char) : Option (List Char × List Char) :=
  match Text.trimStart cs with
  | [] => none
  | cs =>
    let (word, rest) := Text.splitAtBlank cs
    some (word, Text.trim rest)

/-- Reads an argument that stands alone. -/
def oneWord (cs : List Char) (form : String) : Except OperatorError String :=
  match splitWord cs with
  | some (word, []) => .ok (String.ofList word)
  | _ => .error (.usage form)

/-- Reads an argument and the text after it, which must not be empty. -/
def twoWords (cs : List Char) (form : String) : Except OperatorError (List Char × List Char) :=
  match splitWord cs with
  | some (first, second) => if second.isEmpty then .error (.usage form) else .ok (first, second)
  | none => .error (.usage form)

/-! ### Lines -/

/-- The arguments of an edit. -/
def parseEdit (rest : List Char) : Except OperatorError OperatorCommand :=
  let form := "edit <section> <field> <value>"
  match splitWord rest with
  | none => .error (.usage form)
  | some (name, rest) => do
    let (field, value) ← twoWords rest form
    return .edit (String.ofList name) (String.ofList field) (settingValue value)

/-- The arguments of a command for the streaming channel. -/
def parseSend (rest : List Char) : Except OperatorError OperatorCommand :=
  match splitWord rest with
  | none => .error (.usage "send <command> [json]")
  | some (verb, payload) =>
    if payload.isEmpty then .ok (.send (String.ofList verb) (.obj []))
    else
      match Json.parse (String.ofList payload) with
      | .ok payload => .ok (.send (String.ofList verb) payload)
      | .error e => .error (.payload e)

/-- Reads the arguments of a verb. -/
def parseVerb (verb : String) (rest : List Char) : Except OperatorError OperatorCommand :=
  match verb with
  | "set" => do
    let (name, value) ← twoWords rest "set <name> <value>"
    let value ← actuatorValue value
    return .set (String.ofList name) value
  | "toggle" => (oneWord rest "toggle <name>").map .toggle
  | "clear" => (oneWord rest "clear <name>").map .clear
  | "clear-all" => .ok .clearAll
  | "goal" =>
    if rest.isEmpty then .error (.usage "goal <text...>") else .ok (.goal (String.ofList rest))
  | "edit" => parseEdit rest
  | "close" => (oneWord rest "close <section>").map .close
  | "send" => parseSend rest
  | "ping" => .ok .ping
  | "status" => .ok .status
  | "show" => .ok .show
  | "settings" => .ok .settings
  | "metrics" => .ok .metrics
  | "help" | "?" => .ok .help
  | "quit" | "exit" => .ok .quit
  | verb => .error (.unknownVerb verb)

/-- Reads a line; a blank one is no command. -/
def parse (line : String) : Except OperatorError (Option OperatorCommand) :=
  match splitWord (Text.trim line.toList) with
  | none => .ok none
  | some (verb, rest) => (parseVerb (String.ofList verb) rest).map some

end OperatorCommand

end Greenhouse
