import Greenhouse.Control.Bridge
import Greenhouse.Proofs.Autosave.Step
import Greenhouse.Proofs.Json.Follow

/-!
# Replies that were not accepted

The code of a reply says whether the backend accepted the request, and the body may say so as
well.  A reply with a refusing code is read all the same when its body names a failure, that
is, has an error or a status in it; and a status names a failure even when it says success.
The main statement tells exactly which bodies make the bridge take such a reply for an
accepted one, for orders, for saves and for loading the settings.
-/

namespace Greenhouse

/-! ### What records say of their documents -/

theorem ActuatorValue.follows_reader :
  ActuatorValue.reader.Follows fun v a => ofJson? v = some a
  := by
  intro fuel lim cs v rest a rest' hv h
  obtain ⟨⟨v', after⟩, hread, h⟩ := bind_eq_ok.mp h
  obtain ⟨rfl, rfl⟩ := Json.follows_readValue hv hread
  dsimp only at h
  split at h
  · next heq =>
      obtain ⟨rfl, rfl⟩ := Prod.mk.inj (Except.ok.inj h)
      use rfl
  · nomatch h

/-- A document is a text. -/
def Json.IsText (v : Json) (s : String) : Prop := v = .str s

theorem ActuatorResponse.tracks_status :
  shape.Tracks "status" status Json.IsText
  := by
  constructor
  · simp [shape, Json.Field.of]
  · intro f hf
    simp only [shape, List.mem_cons, List.not_mem_nil, or_false] at hf
    obtain rfl | rfl | rfl | rfl := hf
    · exact (Json.follows_readText _).tracks fun _ _ _ h => h
    · exact ActuatorValue.follows_reader.readOption.tracks_other (by decide) fun _ _ => rfl
    · exact Json.follows_readBool.tracks_other (by decide) fun _ _ => rfl
    · exact (Json.follows_readText _).readOption.tracks_other (by decide) fun _ _ => rfl

theorem ActuatorResponse.tracks_error :
  shape.Tracks "error" error (Json.Optional Json.IsText)
  := by
  constructor
  · simp [shape, Json.Field.of]
  · intro f hf
    simp only [shape, List.mem_cons, List.not_mem_nil, or_false] at hf
    obtain rfl | rfl | rfl | rfl := hf
    · exact (Json.follows_readText _).tracks_other (by decide) fun _ _ => rfl
    · exact ActuatorValue.follows_reader.readOption.tracks_other (by decide) fun _ _ => rfl
    · exact Json.follows_readBool.tracks_other (by decide) fun _ _ => rfl
    · exact (Json.follows_readText _).readOption.tracks fun _ _ _ h => h

theorem GoalResponse.tracks_status :
  shape.Tracks "status" status (Json.Optional Json.IsText)
  := by
  constructor
  · simp [shape, Json.Field.of]
  · intro f hf
    simp only [shape, List.mem_cons, List.not_mem_nil, or_false] at hf
    obtain rfl | rfl | rfl := hf
    · exact (Json.follows_readText _).readOption.tracks fun _ _ _ h => h
    · exact Json.follows_readValue.readOption.tracks_other (by decide) fun _ _ => rfl
    · exact (Json.follows_readText _).readOption.tracks_other (by decide) fun _ _ => rfl

theorem GoalResponse.tracks_error :
  shape.Tracks "error" error (Json.Optional Json.IsText)
  := by
  constructor
  · simp [shape, Json.Field.of]
  · intro f hf
    simp only [shape, List.mem_cons, List.not_mem_nil, or_false] at hf
    obtain rfl | rfl | rfl := hf
    · exact (Json.follows_readText _).readOption.tracks_other (by decide) fun _ _ => rfl
    · exact Json.follows_readValue.readOption.tracks_other (by decide) fun _ _ => rfl
    · exact (Json.follows_readText _).readOption.tracks fun _ _ _ h => h

theorem SettingsResponse.tracks_status :
  shape.Tracks "status" status Json.IsText
  := by
  constructor
  · simp [shape, Json.Field.of]
  · intro f hf
    simp only [shape, List.mem_cons, List.not_mem_nil, or_false] at hf
    obtain rfl | rfl | rfl := hf
    · exact (Json.follows_readText _).tracks fun _ _ _ h => h
    · exact (Json.follows_readText _).readOption.tracks_other (by decide) fun _ _ => rfl
    · exact (Json.follows_readText _).readOption.tracks_other (by decide) fun _ _ => rfl

theorem SettingsResponse.tracks_bcc :
  shape.Tracks "bcc" bcc (Json.Optional Json.IsText)
  := by
  constructor
  · simp [shape, Json.Field.of]
  · intro f hf
    simp only [shape, List.mem_cons, List.not_mem_nil, or_false] at hf
    obtain rfl | rfl | rfl := hf
    · exact (Json.follows_readText _).tracks_other (by decide) fun _ _ => rfl
    · exact (Json.follows_readText _).readOption.tracks fun _ _ _ h => h
    · exact (Json.follows_readText _).readOption.tracks_other (by decide) fun _ _ => rfl

/-! ### What objects say -/

section
variable {members : List (String × Json)} {name s : String}

/-- A text that has to be there is what the object says. -/
theorem text_eq_iff (hs : s ≠ "") {read : String}
    (h : (read = "" ∧ Table.find? name members = none)
      ∨ ∃ v, Table.find? name members = some v ∧ Json.IsText v read) :
  read = s ↔ Table.find? name members = some (.str s)
  := by
  obtain ⟨rfl, hfind⟩ | ⟨v, hfind, rfl⟩ := h
  · simp [hfind, hs.symm]
  · simp [hfind]

variable {read : Option String}
  (h : (read = none ∧ Table.find? name members = none)
    ∨ ∃ v, Table.find? name members = some v ∧ Json.Optional Json.IsText v read)
include h

/-- A text that may be missing is what the object says. -/
theorem text_eq_some_iff :
  read = some s ↔ Table.find? name members = some (.str s)
  := by
  obtain ⟨rfl, hfind⟩ | ⟨v, hfind, hv⟩ := h
  · simp [hfind]
  · cases read with
    | none =>
        obtain rfl := hv
        simp [hfind]
    | some s' =>
        obtain rfl := hv
        simp [hfind]

theorem text_eq_none_iff :
  read = none ↔ ∀ v, Table.find? name members = some v → v = .null
  := by
  obtain ⟨rfl, hfind⟩ | ⟨v, hfind, hv⟩ := h
  · simp [hfind]
  · cases read with
    | none =>
        obtain rfl := hv
        simp [hfind]
    | some s' =>
        obtain rfl := hv
        simp [hfind]

end

/-! ### Reading refused replies -/

/-- The members of an object name a failure: there is an error or a status that is not null. -/
def Reply.Fails (members : List (String × Json)) : Prop :=
  ∃ name ∈ ["error", "status"], ∃ v, Table.find? name members = some v ∧ v ≠ .null

theorem Reply.fails_of_status {members : List (String × Json)} {status : String}
    (hstatus : Table.find? "status" members = some (.str status)) :
  Reply.Fails members
  := by
  use "status", by simp, .str status, hstatus
  nofun

/-- A body names a failure when it is an object whose members do. -/
theorem Reply.namesFailure_iff {body : List UInt8} :
  Reply.namesFailure body = true
    ↔ ∃ members, Json.readValue.runBytes body = .ok (.obj members) ∧ Reply.Fails members
  := by
  have hnull (v : Json) : (!v.isNull) = true ↔ v ≠ .null := by cases v <;> simp [Json.isNull]
  unfold Reply.namesFailure
  split
  · next members heq =>
      rw [List.any_eq_true]
      constructor
      · rintro ⟨name, hname, hany⟩
        obtain ⟨v, hfind, hv⟩ := (Option.any_eq_true _ _).mp hany
        use members, heq, name, hname, v, hfind, (hnull v).mp hv
      · rintro ⟨members', hbody, name, hname, v, hfind, hv⟩
        obtain rfl := Json.obj.inj (Except.ok.inj (heq.symm.trans hbody))
        use name, hname
        apply (Option.any_eq_true _ _).mpr
        use v, hfind, (hnull v).mpr hv
  · next hnot =>
      constructor
      · nofun
      · rintro ⟨members, hbody, _⟩
        apply absurd hbody (hnot members)

/-- A body is an object that says success and has no error. -/
def Reply.SaysSuccess (body : List UInt8) : Prop :=
  ∃ members, Json.readValue.runBytes body = .ok (.obj members)
    ∧ Table.find? "status" members = some (.str successStatus)
    ∧ ∀ v, Table.find? "error" members = some v → v = .null

/-- A body is an object that says success and has a checksum that is not blank. -/
def Reply.SaysConfirmed (body : List UInt8) : Prop :=
  ∃ members, Json.readValue.runBytes body = .ok (.obj members)
    ∧ Table.find? "status" members = some (.str successStatus)
    ∧ ∃ bcc, Table.find? "bcc" members = some (.str bcc) ∧ Text.isBlankText bcc = false

/-- A body is an object in which the error or the status is an object. -/
def Reply.SaysSection (body : List UInt8) : Prop :=
  ∃ members, Json.readValue.runBytes body = .ok (.obj members)
    ∧ ∃ name ∈ ["error", "status"], ∃ inner, Table.find? name members = some (.obj inner)

/-- A body has the shape of an answer to an order. -/
def Order.Fits (body : List UInt8) : Order → Prop
  | .goal _ => ∃ r, GoalResponse.shape.reader.runBytes body = .ok r
  | .set _ _ | .toggle _ _ | .release _ | .releaseAll =>
    ∃ r, ActuatorResponse.shape.reader.runBytes body = .ok r

section
variable {code : Nat} (hcode : Reply.isAccepted code = false) {body : List UInt8}
include hcode

/-- A reply with a refusing code is read when its body names a failure and has the shape that
was expected. -/
theorem Reply.read_refused_eq_ok {α : Type} {reader : Json.Reader α} {a : α} :
  (Reply.answered code body).read reader = .ok a
    ↔ Reply.namesFailure body = true ∧ reader.runBytes body = .ok a
  := by
  simp only [Reply.read, hcode, Bool.false_eq_true, if_false]
  by_cases hfailure : Reply.namesFailure body = true
  · cases hread : reader.runBytes body with
    | error e => simp [hfailure]
    | ok a' => simp [hfailure]
  · simp [hfailure]

/-- What is read of a reply with a refusing code has a property when the members of its body
say so, given that they name a failure. -/
theorem Reply.exists_read_iff {α : Type} {reader : Json.Reader α} {P : α → Prop}
    {Says : List (String × Json) → Prop}
    (hmeans : ∀ members a, Json.readValue.runBytes body = .ok (.obj members) →
      reader.runBytes body = .ok a → (Reply.Fails members ∧ P a ↔ Says members)) :
  (∃ a, (Reply.answered code body).read reader = .ok a ∧ P a)
    ↔ (∃ members, Json.readValue.runBytes body = .ok (.obj members) ∧ Says members)
      ∧ ∃ a, reader.runBytes body = .ok a
  := by
  constructor
  · rintro ⟨a, ha, hp⟩
    obtain ⟨hfailure, ha⟩ := (Reply.read_refused_eq_ok hcode).mp ha
    obtain ⟨members, hbody, hfails⟩ := Reply.namesFailure_iff.mp hfailure
    constructor
    · use members, hbody
      apply (hmeans members a hbody ha).mp ⟨hfails, hp⟩
    · use a
  · rintro ⟨⟨members, hbody, hsaid⟩, a, ha⟩
    obtain ⟨hfails, hp⟩ := (hmeans members a hbody ha).mpr hsaid
    use a
    constructor
    · apply (Reply.read_refused_eq_ok hcode).mpr
      constructor
      · apply Reply.namesFailure_iff.mpr ⟨members, hbody, hfails⟩
      · apply ha
    · apply hp

/-- An actuator is taken to have obeyed when the body says success. -/
theorem ActuatorResponse.read_success_iff :
  (∃ r, (Reply.answered code body).read shape.reader = .ok r ∧ r.isSuccess = true)
    ↔ Reply.SaysSuccess body ∧ ∃ r, shape.reader.runBytes body = .ok r
  := by
  apply Reply.exists_read_iff hcode
  intro members r hbody hr
  have hstatus := text_eq_iff (s := successStatus) (by decide) (tracks_status.runBytes hbody hr)
  have herror := text_eq_none_iff (tracks_error.runBytes hbody hr)
  rw [isSuccess, Bool.and_eq_true, beq_iff_eq, Option.isNone_iff_eq_none, hstatus, herror]
  constructor
  · rintro ⟨_, hsuccess⟩
    apply hsuccess
  · intro hsuccess
    use Reply.fails_of_status hsuccess.1

/-- A goal is taken to be accepted when the body says success. -/
theorem GoalResponse.read_success_iff :
  (∃ r, (Reply.answered code body).read shape.reader = .ok r ∧ r.rejection = none)
    ↔ Reply.SaysSuccess body ∧ ∃ r, shape.reader.runBytes body = .ok r
  := by
  have hrejection (r : GoalResponse) : r.rejection = none
      ↔ (r.status = none ∨ r.status = some successStatus) ∧ r.error = none := by
    unfold GoalResponse.rejection
    cases r.error with
    | some error => simp
    | none => cases r.status <;> simp
  apply Reply.exists_read_iff hcode
  intro members r hbody hr
  have hmissing := text_eq_none_iff (tracks_status.runBytes hbody hr)
  have hstatus := text_eq_some_iff (s := successStatus) (tracks_status.runBytes hbody hr)
  have herror := text_eq_none_iff (tracks_error.runBytes hbody hr)
  rw [hrejection, hmissing, hstatus, herror]
  constructor
  · rintro ⟨⟨name, hname, v, hfind, hv⟩, hsuccess, hnone⟩
    constructor
    · obtain hnull | hsuccess := hsuccess
      · -- without a status, the error would have to name the failure
        obtain rfl | hname := List.mem_cons.mp hname
        · apply absurd (hnone v hfind) hv
        · obtain rfl := List.mem_singleton.mp hname
          apply absurd (hnull v hfind) hv
      · apply hsuccess
    · apply hnone
  · rintro ⟨hsuccess, hnone⟩
    use Reply.fails_of_status hsuccess, Or.inr hsuccess

/-- A save is taken to be confirmed when the body says so. -/
theorem SettingsResponse.read_confirmed_iff :
  (∃ r, (Reply.answered code body).read shape.reader = .ok r ∧ r.verifiedBcc.isSome = true)
    ↔ Reply.SaysConfirmed body ∧ ∃ r, shape.reader.runBytes body = .ok r
  := by
  have hverified (r : SettingsResponse) : r.verifiedBcc.isSome = true
      ↔ r.status = successStatus ∧ ∃ bcc, r.bcc = some bcc ∧ Text.isBlankText bcc = false := by
    unfold verifiedBcc
    split
    · next hstatus => cases r.bcc <;> simp [hstatus, Option.filter]
    · next hstatus => simp [hstatus]
  apply Reply.exists_read_iff hcode
  intro members r hbody hr
  have hstatus := text_eq_iff (s := successStatus) (by decide) (tracks_status.runBytes hbody hr)
  have hbcc (bcc : String) := text_eq_some_iff (s := bcc) (tracks_bcc.runBytes hbody hr)
  simp only [hverified, hstatus, hbcc]
  constructor
  · rintro ⟨_, hconfirmed⟩
    apply hconfirmed
  · intro hconfirmed
    use Reply.fails_of_status hconfirmed.1

/-- The settings are taken to be loaded when the body is a snapshot and has a section in the
place of a failure. -/
theorem SettingsSnapshot.read_iff :
  (∃ sections, (Reply.answered code body).read reader = .ok sections)
    ↔ Reply.SaysSection body ∧ ∃ sections, reader.runBytes body = .ok sections
  := by
  have hall : (∃ sections, (Reply.answered code body).read reader = .ok sections)
      ↔ ∃ sections, (Reply.answered code body).read reader = .ok sections ∧ True := by
    simp only [and_true]
  rw [hall]
  apply Reply.exists_read_iff hcode
  intro members sections hbody hr
  constructor
  · rintro ⟨⟨name, hname, v, hfind, _⟩, _⟩
    obtain ⟨members', heq, hsections⟩ :=
      Json.follows_readValue.readMap.readMap.runBytes hbody hr
    obtain rfl := Json.obj.inj heq
    obtain ⟨_, inner, rfl, _⟩ := hsections name v hfind
    use name, hname, inner
  · rintro ⟨name, hname, inner, hfind⟩
    constructor
    · use name, hname, .obj inner, hfind
      nofun
    · trivial

end

/-! ### The bridge -/

/-- An order is accepted when its verdict says so; otherwise the bridge stays as it is. -/
theorem Bridge.finish_isOk (b : Bridge) (now : Nat) (o : Order) (reply : Reply) :
  ((b.finish now o reply).2.2.isOk = true
      ↔ ∃ value result, o.verdict reply = .ok (.accepted value result))
    ∧ ((b.finish now o reply).2.2.isOk = false → (b.finish now o reply).1 = b)
  := by
  unfold finish
  cases o.verdict reply with
  | error cause => simp [Except.isOk, Except.toBool]
  | ok verdict => cases verdict <;> simp [Except.isOk, Except.toBool]

/-- With a refusing code, an order is accepted when the body says success. -/
theorem Order.verdict_accepted_iff {code : Nat} (hcode : Reply.isAccepted code = false)
    {body : List UInt8} (o : Order) :
  (∃ value result, o.verdict (.answered code body) = .ok (.accepted value result))
    ↔ Reply.SaysSuccess body ∧ o.Fits body
  := by
  have hactuator : (∃ value result,
      ((Reply.answered code body).read ActuatorResponse.shape.reader).map ActuatorResponse.verdict
        = .ok (.accepted value result))
      ↔ Reply.SaysSuccess body ∧ ∃ r, ActuatorResponse.shape.reader.runBytes body = .ok r := by
    rw [← ActuatorResponse.read_success_iff hcode]
    constructor
    · rintro ⟨value, result, h⟩
      obtain ⟨r, hr, hverdict⟩ := map_eq_ok.mp h
      use r, hr
      unfold ActuatorResponse.verdict at hverdict
      split at hverdict
      · assumption
      · nomatch hverdict
    · rintro ⟨r, hr, hsuccess⟩
      use r.value, none
      rw [hr, Except.map, ActuatorResponse.verdict, if_pos hsuccess]
  cases o with
  | set name value => apply hactuator
  | toggle name expected => apply hactuator
  | release name => apply hactuator
  | releaseAll => apply hactuator
  | goal text =>
      rw [Fits, ← GoalResponse.read_success_iff hcode]
      constructor
      · rintro ⟨value, result, h⟩
        obtain ⟨r, hr, hverdict⟩ := map_eq_ok.mp h
        use r, hr
        unfold GoalResponse.verdict at hverdict
        split at hverdict
        · nomatch hverdict
        · assumption
      · rintro ⟨r, hr, hnone⟩
        use none, r.result
        rw [verdict, hr, Except.map, GoalResponse.verdict, hnone]

/-- A save is confirmed when its answer is; otherwise the drafts stay. -/
theorem Bridge.saved_isOk (b : Bridge) (s : Save) (reply : Reply) :
  ((b.saved s reply).2.2.isOk = true
      ↔ ∃ r, reply.read SettingsResponse.shape.reader = .ok r ∧ r.verifiedBcc.isSome = true)
    ∧ ((b.saved s reply).2.2.isOk = false →
      (b.saved s reply).1.autosave.drafts = b.autosave.drafts)
  := by
  constructor
  · simp only [saved]
    cases reply.read SettingsResponse.shape.reader with
    | error cause => simp [Save.outcome, Except.isOk, Except.toBool]
    | ok r => cases hbcc : r.verifiedBcc <;> simp [Save.outcome, hbcc, Except.isOk, Except.toBool]
  · intro hfailed
    simp only [saved] at hfailed ⊢
    rw [Autosave.answer_fst, hfailed]
    rfl

/-- A reply with a refusing code is taken for an accepted one only if its body says so.  An
order is accepted exactly when the body is an object that says success without an error, and a
save exactly when it says success with a checksum, provided that the body has the shape of
their answers; otherwise there is an error, and the bridge or its drafts stay as they are.
The settings are loaded exactly when the body is a snapshot that has a section in the place of
an error or a status. -/
theorem refused_reply_accepted_iff {code : Nat} (hcode : Reply.isAccepted code = false)
    (body : List UInt8) :
  (∀ (b : Bridge) (now : Nat) (o : Order),
      ((b.finish now o (.answered code body)).2.2.isOk = true
        ↔ Reply.SaysSuccess body ∧ o.Fits body)
      ∧ ((b.finish now o (.answered code body)).2.2.isOk = false →
        (b.finish now o (.answered code body)).1 = b))
    ∧ (∀ (b : Bridge) (s : Save),
      ((b.saved s (.answered code body)).2.2.isOk = true
        ↔ Reply.SaysConfirmed body
          ∧ ∃ r, SettingsResponse.shape.reader.runBytes body = .ok r)
      ∧ ((b.saved s (.answered code body)).2.2.isOk = false →
        (b.saved s (.answered code body)).1.autosave.drafts = b.autosave.drafts))
    ∧ ((∃ sections, (Reply.answered code body).read SettingsSnapshot.reader = .ok sections)
      ↔ Reply.SaysSection body ∧ ∃ sections, SettingsSnapshot.reader.runBytes body = .ok sections)
  := by
  constructor
  · intro b now o
    rw [← Order.verdict_accepted_iff hcode o]
    apply b.finish_isOk
  constructor
  · intro b s
    rw [← SettingsResponse.read_confirmed_iff hcode]
    apply b.saved_isOk
  · apply SettingsSnapshot.read_iff hcode

/-- A bridge that has not been started and knows nothing. -/
def Bridge.blank : Bridge :=
  ⟨[], .ofDebounce 1000, .ofWindow 5000, .ofDelay 1000, .empty, none⟩

theorem refused_reply_accepted_iff_of_detail :
  let body := "\x7b\"detail\":\"Internal Server Error\"\x7d".toUTF8.toList
  Reply.isAccepted 500 = false
    ∧ (Bridge.blank.finish 0 (.set "fan" (.switch true)) (.answered 500 body)).1 = .blank
  := by
  intro body
  have hcode : Reply.isAccepted 500 = false := rfl
  obtain ⟨horders, _⟩ := refused_reply_accepted_iff hcode body
  use hcode
  apply (horders .blank 0 (.set "fan" (.switch true))).2
  decide +kernel

/-- An actuator is taken to have obeyed, and an error is taken for a section of settings,
although the code is that of a failure of the backend. -/
theorem refused_reply_accepted :
  Reply.isAccepted 500 = false
    ∧ (Bridge.blank.finish 0 (.set "fan" (.switch true))
      (.answered 500 "\x7b\"status\":\"success\"\x7d".toUTF8.toList)).1.registry
        = [("fan", ⟨true, .switch true, none, 0, none⟩)]
    ∧ (Reply.answered 500 "\x7b\"error\":\x7b\"code\":1\x7d\x7d".toUTF8.toList).read
      SettingsSnapshot.reader = .ok [("error", [("code", .int 1)])]
  := by
  decide +kernel

end Greenhouse
