import Greenhouse.Message.Frame
import Greenhouse.Proofs.Json.Decoding

/-!
# Texts that are frames

A text is a frame when it is an object that can be used: `Frame.Typed` says that its type and its
event are texts, if they are there, and `Frame.Named` that one of them names something.  Nothing
else in the object matters for that, and nothing else makes the reading fail.  Of two members of
one name the last one counts.  Every other text is refused, for the first of three reasons that
applies: it is no document or its type or event is no text; it is no object; it names nothing.

Documents are meant here as the grammar has them: with at most 127 arrays and objects within each
other, the outermost object among them.
-/

namespace Greenhouse.Frame

/-! ### Usable objects -/

/-- The value of the last member of a name. -/
def lastOf (members : List (String × Json)) (name : String) : Option Json :=
  Table.find? name members.reverse

/-- A member is a text, null or missing. -/
inductive TextOrNone : Option Json → Prop where
  | missing : TextOrNone none
  | null : TextOrNone (some .null)
  | text (s : String) : TextOrNone (some (.str s))

/-- The type and the event are texts, if they are there. -/
def Typed (member : String → Option Json) : Prop :=
  TextOrNone (member "type") ∧ TextOrNone (member "event")

/-- There is a type, or an event that is not empty. -/
def Named (member : String → Option Json) : Prop :=
  (∃ s, member "type" = some (.str s)) ∨ ∃ s, s ≠ "" ∧ member "event" = some (.str s)

/-- The frame that some members make.  A type, event, time or agent that is no text is missing. -/
def ofLookup (member : String → Option Json) : Frame where
  kind := (member "type").bind Json.string?
  event := ((member "event").bind Json.string?).getD ""
  data := (member "data").getD .null
  timestamp := (member "timestamp").bind Json.string?
  agent := (member "agent_id").bind Json.string?

theorem find?_putAll_nil (members : List (String × Json)) (name : String) :
  Table.find? name (Table.putAll [] members) = lastOf members name
  := by
  rw [Table.find?_putAll_reverse, Table.find?_nil, Option.or_none]
  rfl

theorem bind_string?_eq_some {member : Option Json} {s : String} :
  member.bind Json.string? = some s ↔ member = some (.str s)
  := by
  constructor
  · intro h
    obtain ⟨v, rfl, hv⟩ := Option.bind_eq_some_iff.mp h
    cases v with
    | str s' => rw [← Option.some.inj hv]
    | _ => nomatch hv
  · rintro rfl
    rfl

/-- Members name nothing when the frame that they make has neither an event nor a type. -/
theorem not_named_iff {member : String → Option Json} :
  ¬ Named member ↔ ((ofLookup member).event.isEmpty && (ofLookup member).kind.isNone) = true
  := by
  simp only [Named, ← bind_string?_eq_some, ofLookup, Bool.and_eq_true, not_or, not_exists, not_and]
  rw [and_comm]
  constructor
  · rintro ⟨hevent, hkind⟩
    constructor
    · cases hs : (member "event").bind Json.string? with
      | none => rfl
      | some s =>
          rw [Option.getD_some, String.isEmpty_iff]
          by_contra hne
          apply hevent s hne hs
    · apply Option.isNone_iff_eq_none.mpr
      apply Option.eq_none_iff_forall_not_mem.mpr hkind
  · rintro ⟨hempty, hnone⟩
    constructor
    · intro s hne hs
      rw [hs, Option.getD_some, String.isEmpty_iff] at hempty
      apply hne hempty
    · rw [Option.isNone_iff_eq_none.mp hnone]
      nofun

/-! ### Objects -/

section
variable {name : String} {t : List (String × Json)} {member : String → Option Json}

theorem optionalText_of_textOrNone (h : TextOrNone (Table.find? name t)) :
  optionalText name t = .ok ((Table.find? name t).bind Json.string?)
  := by
  unfold optionalText
  generalize Table.find? name t = value at h ⊢
  cases h <;> rfl

theorem optionalText_of_not_textOrNone (h : ¬ TextOrNone (Table.find? name t)) :
  ∃ e, optionalText name t = .error e
  := by
  unfold optionalText
  generalize Table.find? name t = value at h ⊢
  cases value with
  | none => apply absurd .missing h
  | some v =>
      cases v with
      | null => apply absurd .null h
      | str s => apply absurd (.text s) h
      | _ => exact ⟨_, rfl⟩

variable (ht : ∀ name, Table.find? name t = member name)
include ht

theorem ofMembers_of_typed (h : Typed member) :
  ofMembers t =
    if (ofLookup member).event.isEmpty && (ofLookup member).kind.isNone then .error .missingEvent
    else .ok (ofLookup member)
  := by
  obtain ⟨hkind, hevent⟩ := h
  rw [← ht] at hkind hevent
  rw [ofMembers, optionalText_of_textOrNone hkind, optionalText_of_textOrNone hevent]
  simp only [ht]
  rfl

/-- An object that can be used is read as the frame that its members make. -/
theorem ofMembers_of_named (h : Typed member) (hnamed : Named member) :
  ofMembers t = .ok (ofLookup member)
  := by
  rw [ofMembers_of_typed ht h]
  apply if_neg
  intro hempty
  apply not_named_iff.mpr hempty hnamed

theorem ofMembers_of_not_named (h : Typed member) (hnamed : ¬ Named member) :
  ofMembers t = .error .missingEvent
  := by
  rw [ofMembers_of_typed ht h]
  apply if_pos (not_named_iff.mp hnamed)

/-- An object whose type or event is no text is no frame. -/
theorem ofMembers_of_not_typed (h : ¬ Typed member) :
  ∃ e, ofMembers t = .error (.json e)
  := by
  rw [ofMembers]
  by_cases hevent : TextOrNone (Table.find? "event" t)
  · have hkind : ¬ TextOrNone (Table.find? "type" t) := by
      intro hkind
      rw [ht] at hkind hevent
      apply h ⟨hkind, hevent⟩
    obtain ⟨e, he⟩ := optionalText_of_not_textOrNone hkind
    rw [optionalText_of_textOrNone hevent, he]
    exact ⟨e, rfl⟩
  · obtain ⟨e, he⟩ := optionalText_of_not_textOrNone hevent
    rw [he]
    exact ⟨e, rfl⟩

end

/-! ### Texts -/

section
variable {text : String} {members : List (String × Json)}

theorem parse_of_isObject (h : Json.IsObject 126 members text.toList) :
  parse text = ofMembers (Table.putAll [] members)
  := by
  have hread : Json.parse text = .ok (.obj (Table.putAll [] members)) := by
    apply Json.parse_eq_ok_iff.mpr
    apply Json.isDocument_obj.mpr ⟨members, h, rfl⟩
  rw [parse, hread]

theorem parse_of_not_obj {v : Json} (h : Json.IsDocument 127 v text.toList)
    (hv : v.members? = none) :
  parse text = .error .notAnObject
  := by
  rw [parse, Json.parse_eq_ok_iff.mpr h]
  cases v with
  | obj members => nomatch hv
  | _ => rfl

theorem parse_of_no_document (h : ¬ ∃ v, Json.IsDocument 127 v text.toList) :
  ∃ e, parse text = .error (.json e)
  := by
  cases hread : Json.parse text with
  | error e =>
      use e
      rw [parse, hread]
  | ok v => apply absurd ⟨v, Json.parse_eq_ok_iff.mp hread⟩ h

end

/-- What may become of a text, and when. -/
inductive Verdict (text : String) : Except FrameError Frame → Prop where
  | frame {members : List (String × Json)} (h : Json.IsObject 126 members text.toList)
    (htyped : Typed (lastOf members)) (hnamed : Named (lastOf members)) :
    Verdict text (.ok (ofLookup (lastOf members)))
  | unnamed {members : List (String × Json)} (h : Json.IsObject 126 members text.toList)
    (htyped : Typed (lastOf members)) (hnamed : ¬ Named (lastOf members)) :
    Verdict text (.error .missingEvent)
  | mistyped {members : List (String × Json)} {e : Json.DecodeError}
    (h : Json.IsObject 126 members text.toList) (htyped : ¬ Typed (lastOf members)) :
    Verdict text (.error (.json e))
  | other {v : Json} (h : Json.IsDocument 127 v text.toList) (hv : v.members? = none) :
    Verdict text (.error .notAnObject)
  | garbled {e : Json.DecodeError} (h : ¬ ∃ v, Json.IsDocument 127 v text.toList) :
    Verdict text (.error (.json e))

theorem verdict_of_isObject {text : String} {members : List (String × Json)}
    (h : Json.IsObject 126 members text.toList) :
  Verdict text (parse text)
  := by
  rw [parse_of_isObject h]
  have ht := find?_putAll_nil members
  by_cases htyped : Typed (lastOf members)
  · by_cases hnamed : Named (lastOf members)
    · rw [ofMembers_of_named ht htyped hnamed]
      apply Verdict.frame h htyped hnamed
    · rw [ofMembers_of_not_named ht htyped hnamed]
      apply Verdict.unnamed h htyped hnamed
  · obtain ⟨e, he⟩ := ofMembers_of_not_typed ht htyped
    rw [he]
    apply Verdict.mistyped h htyped

theorem verdict_parse (text : String) :
  Verdict text (parse text)
  := by
  by_cases h : ∃ v, Json.IsDocument 127 v text.toList
  · obtain ⟨v, hv⟩ := h
    cases hmembers : v.members? with
    | none =>
        rw [parse_of_not_obj hv hmembers]
        apply Verdict.other hv hmembers
    | some table =>
        cases v with
        | obj table =>
            obtain ⟨members, hobject, -⟩ := Json.isDocument_obj.mp hv
            apply verdict_of_isObject hobject
        | _ => nomatch hmembers
  · obtain ⟨e, he⟩ := parse_of_no_document h
    rw [he]
    apply Verdict.garbled h

section
variable {text : String}

theorem parse_eq_ok_iff {f : Frame} :
  parse text = .ok f ↔ ∃ members, Json.IsObject 126 members text.toList
    ∧ Typed (lastOf members) ∧ Named (lastOf members) ∧ f = ofLookup (lastOf members)
  := by
  constructor
  · intro h
    have hverdict := verdict_parse text
    rw [h] at hverdict
    cases hverdict with
    | @frame members hobject htyped hnamed => use members
  · rintro ⟨members, hobject, htyped, hnamed, rfl⟩
    rw [parse_of_isObject hobject]
    apply ofMembers_of_named (find?_putAll_nil members) htyped hnamed

theorem exists_parse_eq_json_iff :
  (∃ e, parse text = .error (.json e)) ↔ (¬ ∃ v, Json.IsDocument 127 v text.toList)
    ∨ ∃ members, Json.IsObject 126 members text.toList ∧ ¬ Typed (lastOf members)
  := by
  constructor
  · rintro ⟨e, h⟩
    have hverdict := verdict_parse text
    rw [h] at hverdict
    cases hverdict with
    | @mistyped members _ hobject htyped =>
        right
        use members
    | garbled hnone =>
        left
        apply hnone
  · rintro (hnone | ⟨members, hobject, htyped⟩)
    · apply parse_of_no_document hnone
    · rw [parse_of_isObject hobject]
      apply ofMembers_of_not_typed (find?_putAll_nil members) htyped

theorem parse_eq_notAnObject_iff :
  parse text = .error .notAnObject ↔ ∃ v, Json.IsDocument 127 v text.toList ∧ v.members? = none
  := by
  constructor
  · intro h
    have hverdict := verdict_parse text
    rw [h] at hverdict
    cases hverdict with
    | @other v hdocument hv => use v
  · rintro ⟨v, hdocument, hv⟩
    apply parse_of_not_obj hdocument hv

theorem parse_eq_missingEvent_iff :
  parse text = .error .missingEvent ↔ ∃ members, Json.IsObject 126 members text.toList
    ∧ Typed (lastOf members) ∧ ¬ Named (lastOf members)
  := by
  constructor
  · intro h
    have hverdict := verdict_parse text
    rw [h] at hverdict
    cases hverdict with
    | @unnamed members hobject htyped hnamed => use members
  · rintro ⟨members, hobject, htyped, hnamed⟩
    rw [parse_of_isObject hobject]
    apply ofMembers_of_not_named (find?_putAll_nil members) htyped hnamed

end

/-- A text is read as a frame when it is an object that can be used, and then as the frame that its
members make; every other text is refused, for the reason that applies. -/
theorem parse_accepts_usable (text : String) :
  (∀ f, parse text = .ok f ↔ ∃ members, Json.IsObject 126 members text.toList
      ∧ Typed (lastOf members) ∧ Named (lastOf members) ∧ f = ofLookup (lastOf members))
    ∧ ((∃ e, parse text = .error (.json e)) ↔ (¬ ∃ v, Json.IsDocument 127 v text.toList)
      ∨ ∃ members, Json.IsObject 126 members text.toList ∧ ¬ Typed (lastOf members))
    ∧ (parse text = .error .notAnObject
      ↔ ∃ v, Json.IsDocument 127 v text.toList ∧ v.members? = none)
    ∧ (parse text = .error .missingEvent ↔ ∃ members, Json.IsObject 126 members text.toList
      ∧ Typed (lastOf members) ∧ ¬ Named (lastOf members))
  := by
  constructor
  · intro f
    apply parse_eq_ok_iff
  constructor
  · apply exists_parse_eq_json_iff
  constructor
  · apply parse_eq_notAnObject_iff
  · apply parse_eq_missingEvent_iff

/-! ### Data within data -/

/-- Arrays within each other, so many within the outermost one. -/
def nested : Nat → Json
  | 0 => .arr []
  | depth + 1 => .arr [nested depth]

/-- The members of a frame with 127 arrays within each other as its data. -/
def nestedBody : List Char :=
  "\"event\":\"E\",\"data\":".toList ++ List.replicate 127 '[' ++ List.replicate 127 ']'

/-- An object that can be used is no frame when its data go too deep. -/
theorem parse_nested_ne_ok :
  (∃ members, Json.IsObject 127 members ('\x7b' :: (nestedBody ++ ['\x7d']))
      ∧ Typed (lastOf members) ∧ Named (lastOf members))
    ∧ parse (String.ofList ('\x7b' :: (nestedBody ++ ['\x7d'])))
      = .error (.json (.fault .nestedTooDeep))
  := by
  constructor
  -- A reader with room for one more array gets through, and whatever it gets through is an object.
  · have hread : Json.readMembersFrom 600 ⟨127, none⟩ true [] (nestedBody ++ ['\x7d'])
        = .ok ([("data", nested 126), ("event", .str "E")], []) := by decide +kernel
    obtain ⟨members, body, hmembers, htable, hbody⟩ := (Json.recognizes 600).members hread
    have hmember : ∀ name, lastOf members name
        = Table.find? name [("data", nested 126), ("event", .str "E")] := by
      intro name
      rw [htable, find?_putAll_nil]
    use members
    constructor
    · use [], body, [], Json.gap_nil, Json.gap_nil, hmembers
      rw [hbody]
      rfl
    constructor
    · constructor
      · rw [hmember]
        apply TextOrNone.missing
      · rw [hmember]
        apply TextOrNone.text "E"
    · right
      use "E", by decide, hmember "event"
  · rw [parse, Json.parse, Json.Reader.run, String.toList_ofList]
    decide +kernel

end Greenhouse.Frame
