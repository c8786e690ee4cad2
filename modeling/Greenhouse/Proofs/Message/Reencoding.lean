import Greenhouse.Message.Frame
import Greenhouse.Proofs.Json.Yield
import Greenhouse.Proofs.Message.Writing

/-!
# Messages, read and written again

Reading forgets how a message was spelled, and writing gives every message one spelling.  What has
been read is written so that it is read as it was, and its text is the text of what is read from it.

The numbers in a message have to be legible for that.  Everything else follows from what readers
yield: the documents within a message fit, those that may be missing are not null, and maps have
each key once and keep their order.
-/

namespace Greenhouse

/-! ### What is read -/

section
variable {room : Nat}

theorem Command.yields_reader :
  shape.reader.Yields (room + 1) fun c => c.payload.Fits room
  := by
  apply Json.Shape.yields_reader
  · intro f hf
    simp only [shape, List.mem_cons, List.not_mem_nil, or_false] at hf
    obtain rfl | rfl := hf
    · apply Json.Field.keeps_of_store
      intro _ _ hpayload
      apply hpayload
    · refine (Json.yields_readValue room).keeps ?_
      intro _ _ hpayload _
      apply hpayload
  · apply Json.fits_null

/-- The fields of a section: each key once, with a document that fits. -/
def SettingsFields.Fits (room : Nat) (fields : SettingsFields) : Prop :=
  (fields.map Prod.fst).Nodup ∧ ∀ field ∈ fields, field.2.Fits room

theorem SettingsFields.yields_reader :
  reader.Yields (room + 1) (SettingsFields.Fits room)
  := (Json.yields_readValue room).readMap

theorem SettingsSnapshot.yields_reader :
  reader.Yields (room + 2) fun sections =>
    (sections.map Prod.fst).Nodup ∧ ∀ entry ∈ sections, SettingsFields.Fits room entry.2
  := SettingsFields.yields_reader.readMap

theorem SettingsRequest.yields_reader :
  shape.reader.Yields (room + 2) fun r => r.fields.Fits room
  := by
  apply Json.Shape.yields_reader
  · intro f hf
    simp only [shape, List.mem_cons, List.not_mem_nil, or_false] at hf
    obtain rfl | rfl := hf
    · apply Json.Field.keeps_of_store
      intro _ _ hfields
      apply hfields
    · refine SettingsFields.yields_reader.keeps ?_
      intro _ _ hfields _
      apply hfields
  · use List.nodup_nil
    intro field hfield
    apply absurd hfield List.not_mem_nil

theorem GoalResponse.yields_reader :
  shape.reader.Yields (room + 1) fun r => ∀ v ∈ r.result, v.Fits room ∧ v ≠ .null
  := by
  apply Json.Shape.yields_reader
  · intro f hf
    simp only [shape, List.mem_cons, List.not_mem_nil, or_false] at hf
    obtain rfl | rfl | rfl := hf
    · apply Json.Field.keeps_of_store
      intro _ _ hresult
      apply hresult
    · refine (Json.yields_readOption_readValue room).keeps ?_
      intro _ _ hresult _
      apply hresult
    · apply Json.Field.keeps_of_store
      intro _ _ hresult
      apply hresult
  · intro v hv
    apply absurd hv (Option.not_mem_none v)

theorem StatusResponse.yields_reader :
  shape.reader.Yields (room + 1) fun r => ∀ v ∈ r.uptime, v.Fits room ∧ v ≠ .null
  := by
  apply Json.Shape.yields_reader
  · intro f hf
    simp only [shape, List.mem_cons, List.not_mem_nil, or_false] at hf
    obtain rfl | rfl := hf
    · apply Json.Field.keeps_of_store
      intro _ _ huptime
      apply huptime
    · refine (Json.yields_readOption_readValue room).keeps ?_
      intro _ _ huptime _
      apply huptime
  · intro v hv
    apply absurd hv (Option.not_mem_none v)

end

/-! ### Frames -/

namespace Frame

/-- A frame that names an event or a type, with data that fits. -/
def Fits (room : Nat) (f : Frame) : Prop :=
  f.data.Fits room ∧ (f.event.isEmpty && f.kind.isNone) = false

theorem fits_of_ofMembers {room : Nat} {members : List (String × Json)} {f : Frame}
    (hmembers : ∀ member ∈ members, member.2.Fits room) (h : ofMembers members = .ok f) :
  f.Fits room
  := by
  obtain ⟨event, _, h⟩ := bind_eq_ok.mp h
  obtain ⟨kind, _, h⟩ := bind_eq_ok.mp h
  dsimp only at h
  split at h
  · nomatch h
  · next hnamed =>
      obtain rfl := Except.ok.inj h
      constructor
      · cases hdata : Table.find? "data" members with
        | none => apply Json.fits_null
        | some data => apply hmembers _ (Table.mem_of_find? hdata)
      · apply Bool.eq_false_of_not_eq_true hnamed

/-- What is read as a frame fits. -/
theorem fits_of_parse {text : String} {f : Frame} (h : parse text = .ok f) :
  f.Fits 126
  := by
  unfold parse at h
  split at h
  · nomatch h
  · next members hmembers =>
      have hfits : (Json.obj members).Fits 127 := (Json.yields_readValue 127).run hmembers
      apply fits_of_ofMembers hfits.2 h
  · nomatch h

/-- The members of a written frame. -/
def members (f : Frame) : List (String × Json) :=
  textMember "type" f.kind ++ [("event", .str f.event), ("data", f.data)]
    ++ textMember "timestamp" f.timestamp ++ textMember "agent_id" f.agent

theorem nodup_members (f : Frame) :
  (f.members.map Prod.fst).Nodup
  := by
  obtain ⟨kind, event, data, timestamp, agent⟩ := f
  cases kind <;> cases timestamp <;> cases agent <;> simp [members, textMember]

/-- A frame is what its members make, in whatever order they are found. -/
theorem ofMembers_of_find? {f : Frame} {t : List (String × Json)}
    (ht : ∀ name, Table.find? name t = Table.find? name f.members)
    (hnamed : (f.event.isEmpty && f.kind.isNone) = false) :
  ofMembers t = .ok f
  := by
  obtain ⟨kind, event, data, timestamp, agent⟩ := f
  have hevent : optionalText "event" t = .ok (some event) := by
    cases kind <;> simp [optionalText, ht, members, textMember, Table.find?]
  have hkind : optionalText "type" t = .ok kind := by
    cases kind <;> cases timestamp <;> cases agent
      <;> simp [optionalText, ht, members, textMember, Table.find?]
  have hdata : (Table.find? "data" t).getD .null = data := by
    cases kind <;> simp [ht, members, textMember, Table.find?]
  have htimestamp : (Table.find? "timestamp" t).bind Json.string? = timestamp := by
    cases kind <;> cases timestamp <;> cases agent
      <;> simp [ht, members, textMember, Table.find?, Json.string?]
  have hagent : (Table.find? "agent_id" t).bind Json.string? = agent := by
    cases kind <;> cases timestamp <;> cases agent
      <;> simp [ht, members, textMember, Table.find?, Json.string?]
  simp only [ofMembers, hevent, hkind, hdata, htimestamp, hagent, Except.mapError, bind, Except.bind,
    Option.getD_some]
  rw [hnamed]
  rfl

/-- The text of a frame is read, as a document, as what was written, with the members in order. -/
def RoundTrips (f : Frame) : Prop :=
  Json.parse f.toWire = .ok (.obj (Table.putAll [] f.members))

/-- The text of a frame with legible numbers makes the round trip when its data fit. -/
theorem roundTrips_of_fits {f : Frame} (h : f.data.Fits 126) (hlegible : f.toJson.Legible) :
  f.RoundTrips
  := by
  apply (Json.takes_readValue_obj _).run (Nat.le_refl _)
  intro member hmember
  apply Json.Fits.rereads _ (Json.legible_obj.mp hlegible member hmember)
  simp only [textMember, List.mem_append, List.mem_cons, List.not_mem_nil, or_false,
    List.mem_map] at hmember
  obtain ((⟨_, _, rfl⟩ | rfl | rfl) | ⟨_, _, rfl⟩) | ⟨_, _, rfl⟩ := hmember
  · apply Json.fits_str
  · apply Json.fits_str
  · apply h
  · apply Json.fits_str
  · apply Json.fits_str

/-- A frame whose text makes the round trip is read as it was written. -/
theorem RoundTrips.parse_eq {f : Frame} (h : f.RoundTrips)
    (hnamed : (f.event.isEmpty && f.kind.isNone) = false) :
  parse f.toWire = .ok f
  := by
  have hread : Json.parse f.toWire = .ok (.obj (Table.putAll [] f.members)) := h
  simp only [parse, hread]
  apply ofMembers_of_find? _ hnamed
  intro name
  rw [Table.find?_putAll f.nodup_members]
  cases Table.find? name f.members <;> rfl

/-- A frame that fits is read as it was written. -/
theorem parse_toWire {f : Frame} (h : f.Fits 126) (hlegible : f.toJson.Legible) :
  parse f.toWire = .ok f
  := (roundTrips_of_fits h.1 hlegible).parse_eq h.2

end Frame

/-! ### Messages, written again -/

/-- The member of a value that is there. -/
theorem mem_optionalMember {β : Type} {key : String} {value : Option β} {toJson : β → Json} {b : β}
    (h : b ∈ value) :
  (key, toJson b) ∈ optionalMember key value toJson
  := by
  obtain rfl := Option.mem_def.mp h
  apply List.mem_cons_self

theorem ActuatorValue.legible_of_toJson {a : ActuatorValue} (h : a.toJson.Legible) :
  a.Legible
  := by
  cases a with
  | switch on => trivial
  | level amount => apply h amount List.mem_cons_self

section
variable {text : String}

theorem Command.run_render {c : Command} (hread : shape.reader.run text = .ok c)
    (hlegible : c.toJson.Legible) :
  shape.reader.run c.toJson.render = .ok c
  := by
  have hfits : c.payload.Fits 126 := yields_reader.run hread
  have hpayload : c.payload.Legible := by
    apply Json.legible_obj.mp hlegible ("payload", c.payload)
    apply List.mem_cons_of_mem _ List.mem_cons_self
  apply (writes (hfits.rereads hpayload)).takes.run (Nat.le_refl _)

theorem ActuatorRequest.run_render {r : ActuatorRequest} (hlegible : r.toJson.Legible) :
  shape.reader.run r.toJson.render = .ok r
  := by
  have hwrites : shape.Writes 0 r.toJson r := by
    apply writes
    intro a ha
    apply ActuatorValue.legible_of_toJson
    apply Json.legible_obj.mp hlegible ("value", a.toJson)
    apply List.mem_append_left
    apply List.mem_append_right _ (mem_optionalMember ha)
  apply hwrites.takes.run (by decide)

theorem ActuatorResponse.run_render {r : ActuatorResponse} (hlegible : r.toJson.Legible) :
  shape.reader.run r.toJson.render = .ok r
  := by
  have hwrites : shape.Writes 0 r.toJson r := by
    apply writes
    intro a ha
    apply ActuatorValue.legible_of_toJson
    apply Json.legible_obj.mp hlegible ("value", a.toJson)
    apply List.mem_append_left
    apply List.mem_append_left
    apply List.mem_append_right _ (mem_optionalMember ha)
  apply hwrites.takes.run (by decide)

theorem SettingsFields.Fits.rereads {room : Nat} {fields : SettingsFields} (hfits : fields.Fits room)
    (hlegible : fields.toJson.Legible) :
  ∀ field ∈ fields, field.2.Rereads room
  := by
  intro field hfield
  apply (hfits.2 field hfield).rereads (Json.legible_obj.mp hlegible field hfield)

theorem SettingsRequest.run_render {r : SettingsRequest} (hread : shape.reader.run text = .ok r)
    (hlegible : r.toJson.Legible) :
  shape.reader.run r.toJson.render = .ok r
  := by
  have hfits : r.fields.Fits 125 := yields_reader.run hread
  have hfields : r.fields.toJson.Legible := by
    apply Json.legible_obj.mp hlegible ("settings", r.fields.toJson)
    apply List.mem_cons_of_mem _ List.mem_cons_self
  apply (writes hfits.1 (hfits.rereads hfields)).takes.run (Nat.le_refl _)

theorem SettingsSnapshot.run_render {sections : SettingsSnapshot}
    (hread : reader.run text = .ok sections) (hlegible : sections.toJson.Legible) :
  reader.run sections.toJson.render = .ok sections
  := by
  obtain ⟨hnames, hfits⟩ : (sections.map Prod.fst).Nodup
      ∧ ∀ entry ∈ sections, SettingsFields.Fits 125 entry.2 := yields_reader.run hread
  apply (takes_reader hnames (fun entry hentry => (hfits entry hentry).1) _).run (Nat.le_refl _)
  intro entry hentry
  apply (hfits entry hentry).rereads
  apply Json.legible_obj.mp hlegible (entry.1, entry.2.toJson)
  apply List.mem_map.mpr ⟨entry, hentry, rfl⟩

theorem SettingsResponse.run_render (r : SettingsResponse) :
  shape.reader.run r.toJson.render = .ok r
  := by
  have hwrites : shape.Writes 0 r.toJson r := writes r
  apply hwrites.takes.run (by decide)

theorem GoalRequest.run_render (r : GoalRequest) :
  shape.reader.run r.toJson.render = .ok r
  := by
  have hwrites : shape.Writes 0 r.toJson r := writes r
  apply hwrites.takes.run (by decide)

theorem GoalResponse.run_render {r : GoalResponse} (hread : shape.reader.run text = .ok r)
    (hlegible : r.toJson.Legible) :
  shape.reader.run r.toJson.render = .ok r
  := by
  have hfits : ∀ v ∈ r.result, v.Fits 126 ∧ v ≠ .null := yields_reader.run hread
  have hwrites : shape.Writes 126 r.toJson r := by
    apply writes
    intro v hv
    obtain ⟨hvalue, hnull⟩ := hfits v hv
    constructor
    · apply hvalue.rereads
      apply Json.legible_obj.mp hlegible ("result", v)
      apply List.mem_append_left
      apply List.mem_append_right _ (mem_optionalMember hv)
    · apply hnull
  apply hwrites.takes.run (Nat.le_refl _)

theorem StatusResponse.run_render {r : StatusResponse} (hread : shape.reader.run text = .ok r)
    (hlegible : r.toJson.Legible) :
  shape.reader.run r.toJson.render = .ok r
  := by
  have hfits : ∀ v ∈ r.uptime, v.Fits 126 ∧ v ≠ .null := yields_reader.run hread
  have hwrites : shape.Writes 126 r.toJson r := by
    apply writes
    intro v hv
    obtain ⟨hvalue, hnull⟩ := hfits v hv
    constructor
    · apply hvalue.rereads
      apply Json.legible_obj.mp hlegible ("uptime", v)
      apply List.mem_cons_of_mem _ (mem_optionalMember hv)
    · apply hnull
  apply hwrites.takes.run (Nat.le_refl _)

end

/-! ### All kinds of messages -/

/-- The kinds of messages there are on the wire. -/
inductive MessageKind where
  | frame
  | command
  | actuatorRequest
  | actuatorResponse
  | settingsRequest
  | settingsResponse
  | settings
  | goalRequest
  | goalResponse
  | status
deriving DecidableEq

namespace MessageKind

/-- The messages of a kind. -/
abbrev Message : MessageKind → Type
  | frame => Frame
  | command => Command
  | actuatorRequest => ActuatorRequest
  | actuatorResponse => ActuatorResponse
  | settingsRequest => SettingsRequest
  | settingsResponse => SettingsResponse
  | settings => SettingsSnapshot
  | goalRequest => GoalRequest
  | goalResponse => GoalResponse
  | status => StatusResponse

/-- Reads a message. -/
def read : (k : MessageKind) → String → Except String k.Message
  | frame, text => (Frame.parse text).mapError FrameError.message
  | command, text => (Command.parse text).mapError Json.DecodeError.message
  | actuatorRequest, text =>
    (ActuatorRequest.shape.reader.run text).mapError Json.DecodeError.message
  | actuatorResponse, text =>
    (ActuatorResponse.shape.reader.run text).mapError Json.DecodeError.message
  | settingsRequest, text =>
    (SettingsRequest.shape.reader.run text).mapError Json.DecodeError.message
  | settingsResponse, text =>
    (SettingsResponse.shape.reader.run text).mapError Json.DecodeError.message
  | settings, text => (SettingsSnapshot.reader.run text).mapError Json.DecodeError.message
  | goalRequest, text => (GoalRequest.shape.reader.run text).mapError Json.DecodeError.message
  | goalResponse, text => (GoalResponse.shape.reader.run text).mapError Json.DecodeError.message
  | status, text => (StatusResponse.shape.reader.run text).mapError Json.DecodeError.message

/-- A message as a document. -/
def toJson : (k : MessageKind) → k.Message → Json
  | frame => Frame.toJson
  | command => Command.toJson
  | actuatorRequest => ActuatorRequest.toJson
  | actuatorResponse => ActuatorResponse.toJson
  | settingsRequest => SettingsRequest.toJson
  | settingsResponse => SettingsResponse.toJson
  | settings => SettingsSnapshot.toJson
  | goalRequest => GoalRequest.toJson
  | goalResponse => GoalResponse.toJson
  | status => StatusResponse.toJson

/-- A message as text. -/
def write (k : MessageKind) (m : k.Message) : String := (k.toJson m).render

/-- A message that has been read, and whose numbers are legible, is read as it was when it is
written again, and then its text stays the same. -/
theorem read_write {k : MessageKind} {text : String} {m : k.Message} (hread : k.read text = .ok m)
    (hlegible : (k.toJson m).Legible) :
  k.read (k.write m) = .ok m ∧ (k.read (k.write m)).map k.write = .ok (k.write m)
  := by
  have hagain : k.read (k.write m) = .ok m := by
    cases k with
    | frame =>
        simp only [read, mapError_eq_ok] at hread ⊢
        apply Frame.parse_toWire (Frame.fits_of_parse hread) hlegible
    | command =>
        simp only [read, mapError_eq_ok] at hread ⊢
        apply Command.run_render hread hlegible
    | actuatorRequest =>
        simp only [read, mapError_eq_ok]
        apply ActuatorRequest.run_render hlegible
    | actuatorResponse =>
        simp only [read, mapError_eq_ok]
        apply ActuatorResponse.run_render hlegible
    | settingsRequest =>
        simp only [read, mapError_eq_ok] at hread ⊢
        apply SettingsRequest.run_render hread hlegible
    | settingsResponse =>
        simp only [read, mapError_eq_ok]
        apply SettingsResponse.run_render m
    | settings =>
        simp only [read, mapError_eq_ok] at hread ⊢
        apply SettingsSnapshot.run_render hread hlegible
    | goalRequest =>
        simp only [read, mapError_eq_ok]
        apply GoalRequest.run_render m
    | goalResponse =>
        simp only [read, mapError_eq_ok] at hread ⊢
        apply GoalResponse.run_render hread hlegible
    | status =>
        simp only [read, mapError_eq_ok] at hread ⊢
        apply StatusResponse.run_render hread hlegible
  use hagain
  rw [hagain]
  rfl

/-- A frame whose data loses its spaces and the order of its members, a time that is no text and an
event that is null. -/
theorem read_write_telemetry :
  let text := "\x7b\"timestamp\": 5, \"data\": \x7b\"z\": [0.10, -0, 18446744073709551615], "
    ++ "\"a\\u000a\": null\x7d, \"event\": null, \"type\": \"TELEMETRY\"\x7d"
  let tenth : Double := ⟨false, 4591870180066957722, by decide⟩
  let data := Json.obj [("a\n", .null),
    ("z", .arr [.float tenth, .float ⟨true, 0, by decide⟩, .int 18446744073709551615])]
  let m : Frame := ⟨some "TELEMETRY", "", data, none, none⟩
  let written := "\x7b\"type\":\"TELEMETRY\",\"event\":\"\",\"data\":"
    ++ "\x7b\"a\\n\":null,\"z\":[0.1,-0.0,18446744073709551615]\x7d\x7d"
  frame.read text = .ok m ∧ m.toJson.Legible ∧ frame.write m = written
    ∧ frame.read written = .ok m ∧ (frame.read written).map frame.write = .ok written
  := by
  intro text tenth data m written
  have hread : frame.read text = .ok m := by decide +kernel
  have hlegible : m.toJson.Legible := by
    change ∀ d ∈ [tenth, ⟨true, 0, _⟩], Json.parse d.encode = .ok (.float d)
    decide +kernel
  have hwrite : frame.write m = written := by decide +kernel
  obtain ⟨hagain, hsame⟩ := read_write hread hlegible
  rw [hwrite] at hagain hsame
  use hread, hlegible, hwrite, hagain, hsame

end MessageKind

end Greenhouse
