import Greenhouse.Message.Actuation
import Greenhouse.Text.Blank

/-!
# Settings

The settings of the backend come in sections, and a section is an ordered map from fields to
values.  A section is saved as a whole, and a save counts only when the backend answers with
the checksum of what it stored.
-/

namespace Greenhouse

/-- The fields of one section, in the order in which they were first given. -/
abbrev SettingsFields := List (String × Json)

/-- All sections. -/
abbrev SettingsSnapshot := List (String × SettingsFields)

namespace SettingsFields

/-- The fields as a document. -/
def toJson (fields : SettingsFields) : Json := .obj fields

/-- Reads the fields of a section. -/
def reader : Json.Reader SettingsFields := Json.readMap Json.readValue

end SettingsFields

namespace SettingsSnapshot

/-- All sections as a document. -/
def toJson (sections : SettingsSnapshot) : Json :=
  .obj (sections.map fun (name, fields) => (name, fields.toJson))

/-- Reads all sections. -/
def reader : Json.Reader SettingsSnapshot := Json.readMap SettingsFields.reader

end SettingsSnapshot

/-- A request to save a section. -/
structure SettingsRequest where
  name : String
  fields : SettingsFields
deriving DecidableEq

namespace SettingsRequest

/-- The request as a document. -/
def toJson (r : SettingsRequest) : Json :=
  .obj [("type", .str r.name), ("settings", r.fields.toJson)]

/-- The shape of a request. -/
def shape : Json.Shape SettingsRequest where
  name := "SettingsRequest"
  fields :=
    [.of "type" true (Json.readText "a string") fun name r => { r with name },
      .of "settings" true SettingsFields.reader fun fields r => { r with fields }]
  blank := ⟨"", []⟩

end SettingsRequest

/-- The answer to a request to save a section. -/
structure SettingsResponse where
  status : String
  /-- The checksum of what was stored. -/
  bcc : Option String
  /-- Why the request was refused. -/
  error : Option String
deriving DecidableEq

namespace SettingsResponse

/-- The checksum that confirms a save: the status has to be success, and the checksum must not
be blank. -/
def verifiedBcc (r : SettingsResponse) : Option String :=
  if r.status = successStatus then r.bcc.filter fun bcc => !Text.isBlankText bcc else none

/-- The answer as a document. -/
def toJson (r : SettingsResponse) : Json :=
  .obj ([("status", .str r.status)] ++ optionalMember "bcc" r.bcc .str
    ++ optionalMember "error" r.error .str)

/-- The shape of an answer. -/
def shape : Json.Shape SettingsResponse where
  name := "SettingsResponse"
  fields :=
    [.of "status" false (Json.readText "a string") fun status r => { r with status },
      .of "bcc" false (Json.readOption (Json.readText "a string")) fun bcc r => { r with bcc },
      .of "error" false (Json.readOption (Json.readText "a string")) fun error r =>
        { r with error }]
  blank := ⟨"", none, none⟩

end SettingsResponse

end Greenhouse
