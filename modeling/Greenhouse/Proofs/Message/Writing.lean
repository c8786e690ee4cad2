import Greenhouse.Message.Command
import Greenhouse.Message.Goal
import Greenhouse.Message.Settings
import Greenhouse.Message.Status
import Greenhouse.Proofs.Json.Rereading

/-!
# Messages as they are written

Each message is written with its members in the order of its fields, those that are missing left
out, and each member is read into its field as it was: what is written makes the message, in the
sense of `Json.Shape.Writes`.  The values of actuators have to be legible for that, which switches
always are, and documents within a message have to be read as they were written.
-/

namespace Greenhouse

/-! ### Values -/

/-- The text of a value is read as the value. -/
def ActuatorValue.Legible : ActuatorValue → Prop
  | .switch _ => True
  | .level amount => amount.Legible

section
variable {room : Nat}

theorem ActuatorValue.rereads_toJson {a : ActuatorValue} (h : a.Legible) :
  a.toJson.Rereads room
  := by
  cases a with
  | switch on => apply Json.rereads_bool
  | level amount =>
      apply Json.rereads_number (v := .float amount) trivial
      intro d hd
      obtain rfl := List.mem_singleton.mp hd
      apply h

theorem ActuatorValue.startsValue_toJson {a : ActuatorValue} (h : a.Legible) :
  Json.StartsValue a.toJson.chars
  := by
  have hrereads : a.toJson.Rereads 0 := rereads_toJson h
  obtain hnull | hstarts := hrereads.starts
  · cases a <;> nomatch hnull
  · apply hstarts

theorem ActuatorValue.takes_reader {a : ActuatorValue} (h : a.Legible) :
  ActuatorValue.reader.Takes room a.toJson.chars a
  := by
  have hread : Json.readValue.Takes room a.toJson.chars a.toJson :=
    (rereads_toJson h).takes_readValue
  have hvalue : ofJson? a.toJson = some a := by cases a <;> rfl
  constructor
  · apply hread.starts
  · intro lim cs more hlim hroom hmore hcs
    obtain ⟨rest, hok, hrest⟩ := hread.reads hlim hroom hmore hcs
    use rest
    constructor
    · apply bind_eq_ok.mpr
      use (a.toJson, rest), hok
      simp only [hvalue]
      rfl
    · apply hrest

end

/-! ### Members -/

section
variable {α β : Type} {s : Json.Shape α} {room : Nat} {seen : List String} {a a' : α} {key : String}
  {members : List (String × Json)}

/-- A member that may be missing.  The members behind it have to do whether or not its name has
been seen. -/
theorem Json.Shape.Makes.optional {required : Bool} {r : Json.Reader β}
    {store : Option β → α → α} {value : Option β} {toJson : β → Json}
    (hfield : s.fields.find? (fun f => f.key == key)
      = some (.of key required (Json.readOption r) store))
    (hnew : key ∉ seen) (hread : ∀ b ∈ value, r.Takes room (toJson b).chars b)
    (hvalue : ∀ b ∈ value, Json.StartsValue (toJson b).chars) (hnone : store none a = a)
    (hrest : ∀ seen', seen ⊆ seen' → seen' ⊆ key :: seen →
      s.Makes room seen' (store value a) members a') :
  s.Makes room seen a (optionalMember key value toJson ++ members) a'
  := by
  cases value with
  | none =>
      rw [hnone] at hrest
      apply hrest _ (List.Subset.refl _) (List.subset_cons_self _ _)
  | some b =>
      have htakes := (hread b rfl).readOption (hvalue b rfl)
      apply Json.Shape.Makes.cons hfield hnew (htakes.field _ _ _)
      apply hrest _ (List.subset_cons_self _ _) (List.Subset.refl _)

/-- A text that may be missing. -/
theorem Json.Shape.Makes.optionalText {required : Bool} {store : Option String → α → α}
    {value : Option String}
    (hfield : s.fields.find? (fun f => f.key == key)
      = some (.of key required (Json.readOption (Json.readText "a string")) store))
    (hnew : key ∉ seen) (hnone : store none a = a)
    (hrest : ∀ seen', seen ⊆ seen' → seen' ⊆ key :: seen →
      s.Makes room seen' (store value a) members a') :
  s.Makes room seen a (optionalMember key value .str ++ members) a'
  := by
  apply Json.Shape.Makes.optional hfield hnew
  · intro text _
    apply Json.takes_readText
  · intro text _
    apply Json.startsValue_renderString
  · apply hnone
  · apply hrest

end

/-! ### Messages -/

section
variable {room : Nat}

/-- A command is written as it is when its payload is read as it was. -/
theorem Command.writes {c : Command} (h : c.payload.Rereads room) :
  shape.Writes room c.toJson c
  := by
  refine ⟨_, rfl, ?_⟩
  apply Json.Shape.Makes.cons rfl List.not_mem_nil
  · apply (Json.takes_readText _ c.verb).field
  apply Json.Shape.Makes.cons rfl
  · decide
  · apply h.takes_readValue.field
  apply Json.Shape.Makes.nil
  intro f hf hrequired
  simp only [shape, List.mem_cons, List.not_mem_nil, or_false] at hf
  obtain rfl | rfl := hf
  · apply List.mem_cons_of_mem _ List.mem_cons_self
  · nomatch hrequired

theorem ActuatorAction.chooseName_name (action : ActuatorAction) :
  Json.chooseName known action.name = .ok action
  := by
  cases action <;> rfl

theorem ActuatorRequest.writes {r : ActuatorRequest} (h : ∀ a ∈ r.value, a.Legible) :
  shape.Writes room r.toJson r
  := by
  refine ⟨_, rfl, ?_⟩
  rw [List.append_assoc]
  apply Json.Shape.Makes.optionalText rfl List.not_mem_nil rfl
  intro seen _ hname
  apply Json.Shape.Makes.optional rfl
  · intro hmem
    apply absurd (hname hmem) (by decide)
  · intro a ha
    apply ActuatorValue.takes_reader (h a ha)
  · intro a ha
    apply ActuatorValue.startsValue_toJson (h a ha)
  · rfl
  intro seen' _ hvalue
  have hboth : seen' ⊆ ["value", "name"] :=
    List.Subset.trans hvalue (List.cons_subset_cons _ hname)
  apply Json.Shape.Makes.cons rfl
  · intro hmem
    apply absurd (hboth hmem) (by decide)
  · apply (Json.takes_readName r.action.chooseName_name).field
  apply Json.Shape.Makes.nil
  intro f hf hrequired
  simp only [shape, List.mem_cons, List.not_mem_nil, or_false] at hf
  obtain rfl | rfl | rfl := hf
  · nomatch hrequired
  · nomatch hrequired
  · apply List.mem_cons_self

theorem ActuatorResponse.writes {r : ActuatorResponse} (h : ∀ a ∈ r.value, a.Legible) :
  shape.Writes room r.toJson r
  := by
  refine ⟨_, rfl, ?_⟩
  rw [List.append_assoc, List.append_assoc, List.singleton_append, List.singleton_append,
    ← List.append_nil (optionalMember "error" _ _)]
  apply Json.Shape.Makes.cons rfl List.not_mem_nil
  · apply (Json.takes_readText _ r.status).field
  apply Json.Shape.Makes.optional rfl
  · decide
  · intro a ha
    apply ActuatorValue.takes_reader (h a ha)
  · intro a ha
    apply ActuatorValue.startsValue_toJson (h a ha)
  · rfl
  intro seen _ hvalue
  apply Json.Shape.Makes.cons rfl
  · intro hmem
    apply absurd (hvalue hmem) (by decide)
  · apply (Json.takes_readBool r.overrideActive).field
  apply Json.Shape.Makes.optionalText rfl
  · intro hmem
    apply absurd (List.cons_subset_cons _ hvalue hmem) (by decide)
  · rfl
  intro seen' _ _
  apply Json.Shape.Makes.nil
  intro f hf hrequired
  simp only [shape, List.mem_cons, List.not_mem_nil, or_false] at hf
  obtain rfl | rfl | rfl | rfl := hf
  all_goals nomatch hrequired

/-- The fields of a section are read as they were when each has one value, which is read as it
was. -/
theorem SettingsFields.takes_reader {fields : SettingsFields} (hkeys : (fields.map Prod.fst).Nodup)
    (h : ∀ field ∈ fields, field.2.Rereads room) :
  reader.Takes (room + 1) fields.toJson.chars fields
  := by
  have hself : Json.entriesToJson id fields = fields := List.map_id fields
  have hobject : fields.toJson = .obj (Json.entriesToJson id fields) := by rw [hself]; rfl
  rw [hobject]
  apply Json.takes_readMap hkeys
  intro field hfield
  apply (h field hfield).takes_readValue

theorem SettingsSnapshot.takes_reader {sections : SettingsSnapshot}
    (hnames : (sections.map Prod.fst).Nodup)
    (hkeys : ∀ entry ∈ sections, (entry.2.map Prod.fst).Nodup)
    (h : ∀ entry ∈ sections, ∀ field ∈ entry.2, field.2.Rereads room) :
  reader.Takes (room + 2) sections.toJson.chars sections
  := Json.takes_readMap hnames fun entry hentry =>
    SettingsFields.takes_reader (hkeys entry hentry) (h entry hentry)

theorem SettingsRequest.writes {r : SettingsRequest} (hkeys : (r.fields.map Prod.fst).Nodup)
    (h : ∀ field ∈ r.fields, field.2.Rereads room) :
  shape.Writes (room + 1) r.toJson r
  := by
  refine ⟨_, rfl, ?_⟩
  apply Json.Shape.Makes.cons rfl List.not_mem_nil
  · apply (Json.takes_readText _ r.name).field
  apply Json.Shape.Makes.cons rfl
  · decide
  · apply (SettingsFields.takes_reader hkeys h).field
  apply Json.Shape.Makes.nil
  intro f hf _
  simp only [shape, List.mem_cons, List.not_mem_nil, or_false] at hf
  obtain rfl | rfl := hf
  · apply List.mem_cons_of_mem _ List.mem_cons_self
  · apply List.mem_cons_self

theorem SettingsResponse.writes (r : SettingsResponse) :
  shape.Writes room r.toJson r
  := by
  refine ⟨_, rfl, ?_⟩
  rw [List.append_assoc, List.singleton_append, ← List.append_nil (optionalMember "error" _ _)]
  apply Json.Shape.Makes.cons rfl List.not_mem_nil
  · apply (Json.takes_readText _ r.status).field
  apply Json.Shape.Makes.optionalText rfl
  · decide
  · rfl
  intro seen _ hbcc
  apply Json.Shape.Makes.optionalText rfl
  · intro hmem
    apply absurd (hbcc hmem) (by decide)
  · rfl
  intro seen' _ _
  apply Json.Shape.Makes.nil
  intro f hf hrequired
  simp only [shape, List.mem_cons, List.not_mem_nil, or_false] at hf
  obtain rfl | rfl | rfl := hf
  all_goals nomatch hrequired

theorem GoalRequest.writes (r : GoalRequest) :
  shape.Writes room r.toJson r
  := by
  refine ⟨_, rfl, ?_⟩
  apply Json.Shape.Makes.cons rfl List.not_mem_nil
  · apply (Json.takes_readText _ r.goal).field
  apply Json.Shape.Makes.nil
  intro f hf _
  obtain rfl := List.mem_singleton.mp hf
  apply List.mem_cons_self

/-- A document that may be missing, and that is not null when it is there. -/
theorem Json.Shape.Makes.optionalValue {α : Type} {s : Json.Shape α} {seen : List String}
    {a a' : α} {key : String} {members : List (String × Json)} {required : Bool}
    {store : Option Json → α → α} {value : Option Json}
    (hfield : s.fields.find? (fun f => f.key == key)
      = some (.of key required (Json.readOption Json.readValue) store))
    (hnew : key ∉ seen) (hread : ∀ v ∈ value, v.Rereads room ∧ v ≠ .null)
    (hnone : store none a = a)
    (hrest : ∀ seen', seen ⊆ seen' → seen' ⊆ key :: seen →
      s.Makes room seen' (store value a) members a') :
  s.Makes room seen a (optionalMember key value id ++ members) a'
  := by
  apply Json.Shape.Makes.optional hfield hnew
  · intro v hv
    apply (hread v hv).1.takes_readValue
  · intro v hv
    obtain ⟨hrereads, hnull⟩ := hread v hv
    apply hrereads.starts.resolve_left hnull
  · apply hnone
  · apply hrest

theorem GoalResponse.writes {r : GoalResponse} (h : ∀ v ∈ r.result, v.Rereads room ∧ v ≠ .null) :
  shape.Writes room r.toJson r
  := by
  refine ⟨_, rfl, ?_⟩
  rw [List.append_assoc, ← List.append_nil (optionalMember "error" _ _)]
  apply Json.Shape.Makes.optionalText rfl List.not_mem_nil rfl
  intro seen _ hstatus
  apply Json.Shape.Makes.optionalValue rfl
  · intro hmem
    apply absurd (hstatus hmem) (by decide)
  · apply h
  · rfl
  intro seen' _ hresult
  have hboth : seen' ⊆ ["result", "status"] :=
    List.Subset.trans hresult (List.cons_subset_cons _ hstatus)
  apply Json.Shape.Makes.optionalText rfl
  · intro hmem
    apply absurd (hboth hmem) (by decide)
  · rfl
  intro seen'' _ _
  apply Json.Shape.Makes.nil
  intro f hf hrequired
  simp only [shape, List.mem_cons, List.not_mem_nil, or_false] at hf
  obtain rfl | rfl | rfl := hf
  all_goals nomatch hrequired

theorem BackendStatus.chooseName_name (status : BackendStatus) :
  Json.chooseName known status.name = .ok status
  := by
  cases status <;> rfl

theorem StatusResponse.writes {r : StatusResponse}
    (h : ∀ v ∈ r.uptime, v.Rereads room ∧ v ≠ .null) :
  shape.Writes room r.toJson r
  := by
  refine ⟨_, rfl, ?_⟩
  rw [← List.append_nil (optionalMember "uptime" _ _)]
  apply Json.Shape.Makes.cons rfl List.not_mem_nil
  · apply (Json.takes_readName r.status.chooseName_name).field
  apply Json.Shape.Makes.optionalValue rfl
  · decide
  · apply h
  · rfl
  intro seen hstatus _
  apply Json.Shape.Makes.nil
  intro f hf hrequired
  simp only [shape, List.mem_cons, List.not_mem_nil, or_false] at hf
  obtain rfl | rfl := hf
  · apply hstatus List.mem_cons_self
  · nomatch hrequired

end

end Greenhouse
