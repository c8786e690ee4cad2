import Greenhouse.Proofs.Order.Wire

/-!
# Requests and the slots of the stand-in

A request about actuators that the stand-in accepts changes the slot that it names, or, when all
actuators are given back, only whether they are held.  A request that it refuses leaves all slots as
they are, but for one: whoever asks it to set an actuator that it does not know, and does not say to
what, is refused, and from then on the actuator is known to be off.
-/

namespace Greenhouse.Rehearsal

namespace StandIn

/-- The slot of an actuator, if the stand-in knows it. -/
def slot? (s : StandIn) (name : String) : Option Slot := Table.find? name s.slots

theorem slot?_putSlot (s : StandIn) (name : String) (slot : Slot) (other : String) :
  (s.putSlot name slot).slot? other = if name = other then some slot else s.slot? other
  := Table.find?_put name slot s.slots other

/-- A request to set an actuator that is neither locked nor known, and that does not say to
what. -/
def LeavesBehind (s : StandIn) (r : ActuatorRequest) (name : String) : Prop :=
  r = ⟨some name, none, .set⟩ ∧ name ∉ s.locked ∧ s.slot? name = none

end StandIn

/-- What a request about actuators does to the slots.  A refused one changes what it leaves behind
and nothing else; an accepted one changes whether actuators are held when it gives all of them
back, and otherwise the slot that it names and reports. -/
structure Accounted (r : ActuatorRequest) (before : StandIn)
    (done : StandIn × Nat × ActuatorResponse) : Prop where
  refused : Reply.isAccepted done.2.1 = false →
    ∀ name, done.1.slot? name ≠ before.slot? name ↔ before.LeavesBehind r name
  behind : ∀ name, before.LeavesBehind r name →
    Reply.isAccepted done.2.1 = false ∧ done.1.slot? name = some ⟨.switch false, false⟩
  freed : Reply.isAccepted done.2.1 = true → r.action = .clearAll →
    ∀ name, done.1.slot? name = (before.slot? name).map fun slot => { slot with held := false }
  changed : Reply.isAccepted done.2.1 = true → r.action ≠ .clearAll →
    ∃ name slot, r.name = some name ∧ done.1.slot? name = some slot
      ∧ done.2.2 = StandIn.report slot
      ∧ ∀ other, other ≠ name → done.1.slot? other = before.slot? other

section
variable {s : StandIn} {r : ActuatorRequest}

/-- A refusal that leaves the slots. -/
theorem Accounted.refusal {code : Nat} (hcode : Reply.isAccepted code = false)
    (hnone : ∀ name, ¬ s.LeavesBehind r name) (message : String) :
  Accounted r s (s, code, StandIn.refusal message)
  := by
  constructor
  · intro _ name
    simp only [ne_eq, not_true_eq_false, false_iff]
    apply hnone
  · intro name hbehind
    apply absurd hbehind (hnone name)
  · intro haccepted
    nomatch hcode.symm.trans haccepted
  · intro haccepted
    nomatch hcode.symm.trans haccepted

/-- A request that names no actuator. -/
theorem Accounted.noName (hname : r.name = none) (message : String) :
  Accounted r s (s, 400, StandIn.refusal message)
  := by
  apply Accounted.refusal rfl
  rintro name ⟨rfl, _⟩
  nomatch hname

/-- All actuators are given back. -/
theorem Accounted.freeAll (hclear : r.action = .clearAll) :
  Accounted r s
    ({ s with slots := Table.mapValues (fun slot => { slot with held := false }) s.slots }, 200,
      ⟨successStatus, none, false, none⟩)
  := by
  constructor
  · nofun
  · rintro name ⟨rfl, _⟩
    nomatch hclear
  · intro _ _ name
    simp only [StandIn.slot?, Table.find?_mapValues]
  · intro _ hall
    apply absurd hclear hall

/-- A slot is put in its place. -/
theorem Accounted.putSlot {name : String} (hname : r.name = some name)
    (hvalue : r.action = .set → r.value ≠ none) (hall : r.action ≠ .clearAll) (slot : Slot) :
  Accounted r s (s.putSlot name slot, 200, StandIn.report slot)
  := by
  constructor
  · nofun
  · rintro other ⟨rfl, _⟩
    apply absurd rfl (hvalue rfl)
  · intro _ hclear
    apply absurd hclear hall
  · intro _ _
    use name, slot, hname
    constructor
    · rw [s.slot?_putSlot, if_pos rfl]
    constructor
    · rfl
    · intro other hother
      rw [s.slot?_putSlot, if_neg (Ne.symm hother)]

/-- A slot is looked for before it turns out that there is no value for it. -/
theorem Accounted.noValue {name : String} (hlocked : name ∉ s.locked) (message : String) :
  Accounted ⟨some name, none, .set⟩ s
    (s.putSlot name ((s.slot? name).getD ⟨.switch false, false⟩), 400, StandIn.refusal message)
  := by
  constructor
  · intro _ other
    rw [s.slot?_putSlot]
    by_cases hother : name = other
    · subst hother
      rw [if_pos rfl]
      constructor
      · intro hchanged
        use rfl, hlocked
        cases hslot : s.slot? name with
        | none => rfl
        | some slot =>
            rw [hslot] at hchanged
            apply absurd rfl hchanged
      · rintro ⟨_, _, hnone⟩
        rw [hnone]
        nofun
    · rw [if_neg hother]
      constructor
      · intro hchanged
        apply absurd rfl hchanged
      · rintro ⟨heq, _⟩
        cases heq
        apply absurd rfl hother
  · rintro other ⟨heq, _, hnone⟩
    cases heq
    use rfl
    rw [s.slot?_putSlot, if_pos rfl, hnone]
    rfl
  · nofun
  · nofun

end

/-- The slots are accounted for, whatever is asked. -/
theorem StandIn.accounted_actuate (s : StandIn) (r : ActuatorRequest) :
  Accounted r s (s.actuate r)
  := by
  let noted : StandIn := { s with actuatorRequests := s.actuatorRequests ++ [r] }
  suffices haccounted : Accounted r noted (s.actuate r) by
    exact ⟨haccounted.refused, haccounted.behind, haccounted.freed, haccounted.changed⟩
  cases hlocked : r.name.filter s.locked.contains with
  | some name =>
      obtain ⟨hname, hcontains⟩ := Option.filter_eq_some_iff.mp hlocked
      simp only [actuate, hlocked]
      apply Accounted.refusal rfl
      rintro other ⟨rfl, hfree, _⟩
      obtain rfl := Option.some.inj hname
      apply hfree (List.contains_iff_mem.mp hcontains)
  | none =>
      simp only [actuate, hlocked]
      obtain ⟨name?, value?, action⟩ := r
      cases action with
      | clearAll => apply Accounted.freeAll rfl
      | set =>
          cases name? with
          | none => apply Accounted.noName rfl
          | some name =>
              cases value? with
              | some value => apply Accounted.putSlot rfl <;> nofun
              | none =>
                  apply Accounted.noValue
                  intro hmem
                  have hcontains := Option.filter_eq_none_iff.mp hlocked name rfl
                  apply hcontains (List.contains_iff_mem.mpr hmem)
      | toggle =>
          cases name? with
          | none => apply Accounted.noName rfl
          | some name => apply Accounted.putSlot rfl <;> nofun
      | clearOverride =>
          cases name? with
          | none => apply Accounted.noName rfl
          | some name => apply Accounted.putSlot rfl <;> nofun

namespace StandIn

/-- Whatever is asked about actuators at whatever stand-in, a refused request changes the slots that
it leaves behind and no others, and these are slots of an actuator that is off and not held.  An
accepted one gives all actuators back with their values, or changes the slot that it names to what
it reports, and no others. -/
theorem slot?_answer {s : StandIn} (now : Nat) {call : HttpCall} {r : ActuatorRequest}
    (hmethod : call.method = "POST") (hpath : path call = "/api/actuator")
    (hbody : body ActuatorRequest.shape.reader call = .ok r) :
  let after := (s.answer now call).1
  let answer := (s.answer now call).2
  (Reply.isAccepted answer.code = false →
      ∀ name, after.slot? name ≠ s.slot? name ↔ s.LeavesBehind r name)
    ∧ (∀ name, s.LeavesBehind r name →
      Reply.isAccepted answer.code = false ∧ after.slot? name = some ⟨.switch false, false⟩)
    ∧ (Reply.isAccepted answer.code = true → r.action = .clearAll →
      ∀ name, after.slot? name = (s.slot? name).map fun slot => { slot with held := false })
    ∧ (Reply.isAccepted answer.code = true → r.action ≠ .clearAll →
      ∃ name slot, r.name = some name ∧ after.slot? name = some slot
        ∧ answer.document = some (report slot).toJson
        ∧ ∀ other, other ≠ name → after.slot? other = s.slot? other)
  := by
  have hanswer : s.answer now call
      = ((s.actuate r).1, ⟨(s.actuate r).2.1, some (s.actuate r).2.2.toJson⟩) := by
    rw [s.answer_actuator now hmethod hpath, withBody, hbody]
  obtain ⟨hrefused, hbehind, hfreed, hchanged⟩ := s.accounted_actuate r
  intro after answer
  have hafter : after = (s.actuate r).1 := congrArg Prod.fst hanswer
  have hcode : answer.code = (s.actuate r).2.1 := congrArg (fun done => done.2.code) hanswer
  have hdocument : answer.document = some (s.actuate r).2.2.toJson :=
    congrArg (fun done => done.2.document) hanswer
  rw [hafter, hcode, hdocument]
  use hrefused, hbehind, hfreed
  intro haccepted hall
  obtain ⟨name, slot, hname, hslot, hreport, hothers⟩ := hchanged haccepted hall
  use name, slot, hname, hslot, congrArg (fun response => some response.toJson) hreport, hothers

/-- A lamp that is locked, and a request to switch it off. -/
theorem slot?_answer_lockedLamp :
  let lamp : Slot := ⟨.switch true, true⟩
  let s : StandIn := { fresh with slots := [("lamp", lamp)], locked := ["lamp"] }
  let text := "\x7b\"name\": \"lamp\", \"value\": false, \"action\": \"set\"\x7d"
  let call : HttpCall := ⟨"POST", "/api/actuator?by=hand", some text⟩
  path call = "/api/actuator"
    ∧ body ActuatorRequest.shape.reader call = .ok (.set "lamp" (.switch false))
    ∧ (s.answer 0 call).2.code = 409
    ∧ (s.answer 0 call).1.slot? "lamp" = some lamp
    ∧ (s.answer 0 call).1.slot? "pump" = none
  := by
  intro lamp s text call
  have hpath : path call = "/api/actuator" := by decide +kernel
  have hbody : body ActuatorRequest.shape.reader call = .ok (.set "lamp" (.switch false)) := by
    decide +kernel
  have hcode : (s.answer 0 call).2.code = 409 := by decide +kernel
  have hrefused : Reply.isAccepted (s.answer 0 call).2.code = false := by
    rw [hcode]
    rfl
  have hsame : ∀ name, (s.answer 0 call).1.slot? name = s.slot? name := by
    intro name
    by_contra hchanged
    obtain ⟨heq, _⟩ := ((slot?_answer 0 rfl hpath hbody).1 hrefused name).mp hchanged
    nomatch heq
  use hpath, hbody, hcode, hsame "lamp", hsame "pump"

/-- A pump that nobody has heard of is known after a request that is refused. -/
theorem slots_answer_unknownPump :
  let text := "\x7b\"name\": \"pump\", \"action\": \"set\"\x7d"
  let call : HttpCall := ⟨"POST", "/api/actuator", some text⟩
  path call = "/api/actuator"
    ∧ body ActuatorRequest.shape.reader call = .ok ⟨some "pump", none, .set⟩
    ∧ (fresh.answer 0 call).2 = ⟨400, some (refusal "value required").toJson⟩
    ∧ fresh.slots = []
    ∧ (fresh.answer 0 call).1.slots = [("pump", ⟨.switch false, false⟩)]
  := by
  decide +kernel

end StandIn

end Greenhouse.Rehearsal
