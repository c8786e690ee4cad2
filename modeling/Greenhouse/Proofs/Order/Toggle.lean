import Greenhouse.Proofs.Order.Exchange
import Greenhouse.Proofs.Registry.History
import Greenhouse.Proofs.Registry.Times

/-!
# Ways to toggle an actuator

An actuator is toggled by the registry itself, or by foretelling the value and forcing it, or by an
order to the backend, which announces the value and forces it once it is accepted.  The main
statement is that these come to the same: the same registry, but for the time stamped, and the same
answer.  Every toggle turns the actuator over, so that an even number of them leaves it as it was.
-/

namespace Greenhouse

variable {τ : Type}

theorem Actuator.restamp_forced (known : Option (Actuator τ)) (value : ActuatorValue)
    (now later : τ) :
  (forced known value now).restamp later = forced known value later
  := rfl

namespace Registry

/-- Whether an actuator is on; one that is not known is off. -/
def isOn (r : Registry τ) (name : String) : Bool := (r.value? name).any ActuatorValue.isOn

/-- An actuator is toggled again and again. -/
def toggleEach (r : Registry τ) (name : String) : List τ → Registry τ
  | [] => r
  | now :: rest => (r.toggle name now).1.toggleEach name rest

theorem toggledValue_eq_switch (r : Registry τ) (name : String) :
  r.toggledValue name = .switch (!r.isOn name)
  := by
  unfold toggledValue isOn value?
  cases Table.find? name r <;> rfl

theorem toggledValue_of_find? {r r' : Registry τ} {name : String}
    (h : Table.find? name r' = Table.find? name r) :
  r'.toggledValue name = r.toggledValue name
  := by
  rw [toggledValue, toggledValue, h]

/-- To force the value that was foretold is to toggle. -/
theorem setOverride_toggledValue (r : Registry τ) (name : String) (now : τ) :
  r.setOverride name (r.toggledValue name) now = ((r.toggle name now).1, (r.toggle name now).2.2)
  := by
  unfold setOverride toggledValue toggle
  cases Table.find? name r with
  | none => rfl
  | some a => rfl

theorem restamp_toggle {r : Registry τ} (h : Table.Ordered r) (name : String) (now later : τ) :
  (r.toggle name now).1.restamp [name] later = (r.setOverride name (r.toggledValue name) later).1
  := by
  apply Table.eq_of_find? (ordered_restamp (ordered_toggle h name now) _ _)
    (ordered_setOverride h _ _ _)
  intro other
  rw [find?_restamp, find?_toggle, find?_setOverride]
  by_cases heq : name = other
  · simp [heq, Actuator.restamp_forced]
  · simp [heq, Ne.symm heq]

/-- A toggle turns the actuator over. -/
theorem isOn_toggle (r : Registry τ) (name : String) (now : τ) :
  (r.toggle name now).1.isOn name = !r.isOn name
  := by
  rw [isOn, value?, find?_toggle, if_pos rfl, toggledValue_eq_switch]
  rfl

theorem isOn_toggleEach (r : Registry τ) (name : String) (times : List τ) :
  (r.toggleEach name times).isOn name = (r.isOn name ^^ decide (times.length % 2 = 1))
  := by
  induction times generalizing r with
  | nil => simp [toggleEach]
  | cons now rest ih =>
      have hodd : decide ((rest.length + 1) % 2 = 1) = !decide (rest.length % 2 = 1) := by
        rw [← decide_not, decide_eq_decide]
        omega
      rw [toggleEach, ih, isOn_toggle, List.length_cons, hodd, Bool.not_xor, Bool.xor_not]

end Registry

/-- An order to toggle an actuator, accepted without a value while nothing has happened to the
actuator, does what a toggle does at that time, and tells what a toggle answers. -/
theorem Bridge.finish_toggling {b b' : Bridge} {name : String} {reply : Reply}
    {answer : OrderAnswer} (hanswer : (b.toggling name).answer reply = .ok answer)
    (haccepted : answer.Accepts) (hvalue : answer.value? = none)
    (hstill : Table.find? name b'.registry = Table.find? name b.registry) (now : Nat) :
  let (registry, value, outcome) := b'.registry.toggle name now
  b'.finish now (b.toggling name) reply
    = ({ b' with registry },
        if outcome = .engaged then [.publish (.overrideEngaged name value)] else [],
        .ok (.held name value outcome))
  := by
  have hforced := b'.registry.setOverride_toggledValue name now
  have hvalue' : (b'.registry.toggle name now).2.1 = b'.registry.toggledValue name := by
    rw [b'.registry.toggle_answer]
  rw [finish_of_acceptance hanswer haccepted, hvalue]
  simp only [toggling, accept, hold, Option.getD_none, ← Registry.toggledValue_of_find? hstill,
    hforced, hvalue']

/-- In every registry, an actuator is toggled in the same way by a toggle and by forcing the value
that was foretold, but for the time stamped, and by an order that is accepted without a value while
nothing has happened to the actuator.  After toggles in a row the actuator is on or off as before
exactly when their number is even. -/
theorem RegistryHistory.toggles_agree (h : RegistryHistory τ) (name : String) :
  (∀ now later, let r := h.registry
    (r.toggle name now).1.restamp [name] later = (r.setOverride name (r.toggledValue name) later).1
      ∧ (r.toggle name now).2
        = (r.toggledValue name, (r.setOverride name (r.toggledValue name) later).2))
    ∧ (∀ (b b' : Bridge) (now : Nat) (reply : Reply) (answer : OrderAnswer),
      (b.toggling name).answer reply = .ok answer → answer.Accepts → answer.value? = none →
      Table.find? name b'.registry = Table.find? name b.registry →
      let (registry, value, outcome) := b'.registry.toggle name now
      b'.finish now (b.toggling name) reply
        = ({ b' with registry },
            if outcome = .engaged then [.publish (.overrideEngaged name value)] else [],
            .ok (.held name value outcome)))
    ∧ ∀ times : List τ, (h.registry.toggleEach name times).isOn name = h.registry.isOn name
      ↔ times.length % 2 = 0
  := by
  constructor
  · intro now later r
    use Registry.restamp_toggle h.ordered_registry name now later
    rw [r.toggle_answer, r.setOverride_answer]
  constructor
  · intro b b' now reply answer hanswer haccepted hvalue hstill
    apply Bridge.finish_toggling hanswer haccepted hvalue hstill
  · intro times
    rw [Registry.isOn_toggleEach]
    cases Nat.mod_two_eq_zero_or_one times.length with
    | inl heven => simp [heven]
    | inr hodd => simp [hodd]

/-- An actuator that is held at a level is toggled by an order, while another one is read. -/
theorem RegistryHistory.toggles_agree_heldLevel :
  let h : RegistryHistory Nat := [(1, .force "doser" (.level (.ofInt 3)))]
  let b : Bridge :=
    ⟨h.registry, .ofDebounce 1000, .ofWindow 5000, .ofDelay 2000, .empty, some []⟩
  let b' : Bridge :=
    { b with registry := (b.registry.applyTelemetry "lamp" (.switch true) 2).1 }
  let reply : Reply :=
    .answered 200 "\x7b\"status\":\"success\",\"override_active\":true\x7d".toUTF8.toList
  let answer : OrderAnswer := .actuator ⟨"success", none, true, none⟩
  (b.toggling "doser").answer reply = .ok answer
    ∧ answer.Accepts
    ∧ answer.value? = none
    ∧ Table.find? "doser" b'.registry = Table.find? "doser" b.registry
    ∧ b'.finish 3 (b.toggling "doser") reply
      = ({ b' with registry := (b'.registry.toggle "doser" 3).1 }, [],
          .ok (.held "doser" (.switch false) .updated))
  := by
  intro h b b' reply answer
  have hanswer : (b.toggling "doser").answer reply = .ok answer := by decide +kernel
  have haccepted : answer.Accepts := by decide
  have hstill : Table.find? "doser" b'.registry = Table.find? "doser" b.registry := by
    decide +kernel
  have hfinish := (h.toggles_agree "doser").2.1 b b' 3 reply answer hanswer haccepted rfl hstill
  exact ⟨hanswer, haccepted, rfl, hstill, hfinish⟩

end Greenhouse
