import Mathlib.Tactic.Common
import Greenhouse.Control.Bridge
import Greenhouse.Proofs.Registry.Step

/-!
# Orders and their answers

Between an order and its answer the router may take any number of signals, so the bridge that
learns the answer need not be the one that gave the order.  `Bridge.exchange` is the whole of
it: the order, the signals meanwhile, and the reply.

An order is carried out as a whole or not at all.  When the request fails or the backend
refuses, the bridge is what the signals alone have made of it, and only a refusal is published.
When the backend accepts, `Order.Fulfilled` says what has changed, and that nothing else has.
-/

namespace Greenhouse

/-! ### Orders -/

/-- What the operator asks for. -/
inductive Wish where
  | set (name : String) (value : ActuatorValue)
  | toggle (name : String)
  | release (name : String)
  | releaseAll
  | goal (text : String)
deriving DecidableEq

/-- The order for a wish.  A toggle announces the opposite of the value that is shown. -/
def Wish.order (b : Bridge) : Wish → Order
  | .set name value => .set name value
  | .toggle name => b.toggling name
  | .release name => .release name
  | .releaseAll => .releaseAll
  | .goal text => .goal text

/-- The actuators that an order may change. -/
def Order.Concerns (r : Registry Nat) (name : String) : Order → Prop
  | .set other _ | .toggle other _ | .release other => other = name
  | .releaseAll => r.isHeld name
  | .goal _ => False

/-! ### Answers -/

/-- What the backend answers to an order. -/
inductive OrderAnswer where
  | actuator (response : ActuatorResponse)
  | goal (response : GoalResponse)
deriving DecidableEq

/-- The answer in the reply to an order. -/
def Order.answer (o : Order) (reply : Reply) : Except RequestError OrderAnswer :=
  match o with
  | .goal _ => (reply.read GoalResponse.shape.reader).map .goal
  | _ => (reply.read ActuatorResponse.shape.reader).map .actuator

namespace OrderAnswer

/-- The backend has accepted the order. -/
def Accepts : OrderAnswer → Prop
  | .actuator r => r.status = "success" ∧ r.error = none
  | .goal r => r.error = none ∧ (r.status = none ∨ r.status = some "success")

instance : DecidablePred Accepts
  | .actuator _ => inferInstanceAs (Decidable (_ ∧ _))
  | .goal _ => inferInstanceAs (Decidable (_ ∧ _))

/-- The value that the actuator has taken, if the backend says so. -/
def value? : OrderAnswer → Option ActuatorValue
  | .actuator r => r.value
  | .goal _ => none

/-- The word of the planner. -/
def result? : OrderAnswer → Option Json
  | .actuator _ => none
  | .goal r => r.result

/-- Why the backend has not accepted the order: its error, or else its status. -/
def reason : OrderAnswer → String
  | .actuator r => r.error.getD (statusReason r.status)
  | .goal r => r.error.getD (statusReason (r.status.getD ""))

end OrderAnswer

theorem ActuatorResponse.verdict_eq (r : ActuatorResponse) :
  r.verdict
    = if (OrderAnswer.actuator r).Accepts then .accepted r.value none
      else .refused (OrderAnswer.actuator r).reason
  := by
  have hsuccess : r.isSuccess = true ↔ (OrderAnswer.actuator r).Accepts := by
    rw [isSuccess, Bool.and_eq_true, beq_iff_eq, Option.isNone_iff_eq_none]
    rfl
  unfold verdict
  simp only [hsuccess]
  rfl

theorem GoalResponse.verdict_eq (r : GoalResponse) :
  r.verdict
    = if (OrderAnswer.goal r).Accepts then .accepted none r.result
      else .refused (OrderAnswer.goal r).reason
  := by
  obtain ⟨status, result, error⟩ := r
  cases error with
  | some error => simp [verdict, rejection, OrderAnswer.Accepts, OrderAnswer.reason]
  | none =>
      cases status with
      | none => simp [verdict, rejection, OrderAnswer.Accepts]
      | some status =>
          by_cases hstatus : status = "success"
          · simp [verdict, rejection, successStatus, OrderAnswer.Accepts, hstatus]
          · simp [verdict, rejection, successStatus, OrderAnswer.Accepts, OrderAnswer.reason,
              hstatus]

/-- The verdict on an order is read off the answer to it. -/
theorem Order.verdict_eq (o : Order) (reply : Reply) :
  o.verdict reply
    = (o.answer reply).map fun answer =>
        if answer.Accepts then .accepted answer.value? answer.result? else .refused answer.reason
  := by
  cases o with
  | goal text =>
      simp only [verdict, answer]
      cases reply.read GoalResponse.shape.reader with
      | error cause => rfl
      | ok r => exact congrArg Except.ok r.verdict_eq
  | set | toggle | release | releaseAll =>
      simp only [verdict, answer]
      cases reply.read ActuatorResponse.shape.reader with
      | error cause => rfl
      | ok r => exact congrArg Except.ok r.verdict_eq

/-! ### Carrying orders out -/

/-- An actuator is held at a value from now on: it shows the value, keeps its last reading, and
the hold is published unless the actuator was held before. -/
structure Bridge.Holds (before : Bridge) (now : Nat) (name : String) (value : ActuatorValue)
    (after : Bridge) (effects : List Effect) (outcome : Outcome) : Prop where
  actuator : Table.find? name after.registry
    = some (Actuator.forced (Table.find? name before.registry) value now)
  shown : after.registry.value? name = some value
  effects : effects
    = if before.registry.isHeld name then [] else [.publish (.overrideEngaged name value)]
  outcome : outcome
    = .held name value (if before.registry.isHeld name then .updated else .engaged)

/-- What comes of an order that the backend has accepted with an answer. -/
def Order.Fulfilled (answer : OrderAnswer) (now : Nat) (before after : Bridge)
    (effects : List Effect) (outcome : Outcome) : Order → Prop
  | .set name value | .toggle name value =>
    before.Holds now name (answer.value?.getD value) after effects outcome
  | .release name =>
    Table.find? name after.registry
        = (Table.find? name before.registry).map (fun a => a.freed now)
      ∧ effects = (if before.registry.isHeld name then [.publish (.overrideReleased name)] else [])
      ∧ outcome = .released name (before.registry.isHeld name)
  | .releaseAll =>
    (∀ name, Table.find? name after.registry
        = (Table.find? name before.registry).map fun a => a.freed now)
      ∧ effects = before.registry.overridden.map (fun name => .publish (.overrideReleased name))
      ∧ outcome = .releasedAll before.registry.overridden
  | .goal _ => effects = [] ∧ outcome = .planned answer.result?

namespace Bridge

theorem hold_holds (b : Bridge) (now : Nat) (name : String) (value : ActuatorValue) :
  b.Holds now name value (b.hold now name value).1 (b.hold now name value).2.1
    (b.hold now name value).2.2
  := by
  have hfind := b.registry.find?_setOverride name value now name
  have hanswer := b.registry.setOverride_answer name value now
  rw [if_pos rfl] at hfind
  constructor
  · apply hfind
  · rw [Registry.value?]
    simp only [hold, hfind]
    rfl
  · simp only [hold, hanswer]
    cases b.registry.isHeld name <;> rfl
  · simp only [hold, hanswer]

/-- An order changes nothing but the registry. -/
theorem accept_registry (b : Bridge) (now : Nat) (o : Order) (value : Option ActuatorValue)
    (result : Option Json) :
  (b.accept now o value result).1
    = { b with registry := (b.accept now o value result).1.registry }
  := by
  cases o <;> rfl

/-- An order leaves the actuators that it does not concern. -/
theorem accept_frame (b : Bridge) (now : Nat) (o : Order) (value : Option ActuatorValue)
    (result : Option Json) {name : String} (h : ¬ o.Concerns b.registry name) :
  Table.find? name (b.accept now o value result).1.registry = Table.find? name b.registry
  := by
  cases o with
  | set other wanted | toggle other wanted =>
      apply (b.registry.find?_setOverride other (value.getD wanted) now name).trans
      apply if_neg h
  | release other =>
      apply (b.registry.find?_clearOverride other now name).trans
      apply if_neg h
  | releaseAll =>
      apply (b.registry.find?_clearAll now name).trans
      apply Actuator.map_freed_of_free
      apply Bool.eq_false_iff.mpr h
  | goal text => rfl

theorem accept_fulfilled (b : Bridge) (now : Nat) (o : Order) (answer : OrderAnswer) :
  let done := b.accept now o answer.value? answer.result?
  o.Fulfilled answer now b done.1 done.2.1 done.2.2
  := by
  cases o with
  | set name wanted | toggle name wanted => apply b.hold_holds
  | release name =>
      have hfind := b.registry.find?_clearOverride name now name
      have hanswer := b.registry.clearOverride_answer name now
      rw [if_pos rfl] at hfind
      use hfind
      simp only [accept, hanswer, and_self]
  | releaseAll =>
      constructor
      · intro name
        apply b.registry.find?_clearAll
      · constructor <;> rfl
  | goal text => constructor <;> rfl

/-! ### Signals meanwhile -/

/-- What the router does with signals, each at its time. -/
def routeEach (b : Bridge) : List (Nat × Signal) → Bridge × List Effect
  | [] => (b, [])
  | (now, signal) :: rest =>
    let (b, effects) := b.route now signal
    let (b, more) := b.routeEach rest
    (b, effects ++ more)

end Bridge

/-- Whether an effect tells of an order: a hold, a release or a refusal. -/
def Effect.tellsOfOrder : Effect → Bool
  | .publish (.overrideEngaged _ _) | .publish (.overrideReleased _)
  | .publish (.commandRejected _) => true
  | _ => false

/-- What the watchdog announces does not tell of orders. -/
theorem Watchdog.tellsOfOrder_beat (w : Watchdog) (now : Nat) (beat : Heartbeat) :
  ∀ e ∈ (w.step now (.beat beat)).2, e.tellsOfOrder = false
  := by
  intro e he
  simp only [step] at he
  split at he
  · simp only [announce, List.map_nil, List.nil_append] at he
    split at he
    · obtain rfl := List.mem_singleton.mp he
      rfl
    · nomatch he
  · nomatch he

namespace Bridge

theorem tellsOfOrder_route (b : Bridge) (now : Nat) (signal : Signal) :
  ∀ e ∈ (b.route now signal).2, e.tellsOfOrder = false
  := by
  intro e he
  cases signal with
  | state state =>
      obtain rfl := List.mem_singleton.mp he
      rfl
  | inbound frame =>
      simp only [route] at he
      split at he
      · next beat _ =>
          obtain rfl | he := List.mem_cons.mp he
          · rfl
          · apply b.watchdog.tellsOfOrder_beat now beat e he
      · obtain rfl := List.mem_singleton.mp he
        rfl
      · obtain rfl := List.mem_singleton.mp he
        rfl
      · obtain rfl := List.mem_singleton.mp he
        rfl

theorem tellsOfOrder_routeEach (b : Bridge) (signals : List (Nat × Signal)) :
  ∀ e ∈ (b.routeEach signals).2, e.tellsOfOrder = false
  := by
  induction signals generalizing b with
  | nil => nofun
  | cons first rest ih =>
      obtain ⟨now, signal⟩ := first
      intro e he
      obtain he | he := List.mem_append.mp he
      · apply b.tellsOfOrder_route now signal e he
      · apply ih _ e he

/-! ### The whole exchange -/

/-- An order is given, the router takes signals, and the reply arrives: the bridge in the end,
everything that was published and counted since the order, and what the operator learns. -/
def exchange (b : Bridge) (w : Wish) (meanwhile : List (Nat × Signal)) (now : Nat)
    (reply : Reply) : Bridge × List Effect × Except CommandError Outcome :=
  let order := w.order b
  let (b, heard) := b.routeEach meanwhile
  let (b, effects, outcome) := b.finish now order reply
  (b, heard ++ effects, outcome)

theorem finish_of_error {b : Bridge} {now : Nat} {o : Order} {reply : Reply}
    {cause : RequestError} (h : o.answer reply = .error cause) :
  b.finish now o reply = (b, [], .error (.request cause))
  := by
  simp only [finish, Order.verdict_eq, h]
  rfl

theorem finish_of_refusal {b : Bridge} {now : Nat} {o : Order} {reply : Reply}
    {answer : OrderAnswer} (h : o.answer reply = .ok answer) (hrefused : ¬ answer.Accepts) :
  b.finish now o reply
    = (b, [.publish (.commandRejected (o.rejection answer.reason))],
        .error (.rejected (o.rejection answer.reason)))
  := by
  simp only [finish, Order.verdict_eq, h, Except.map, if_neg hrefused]

theorem finish_of_acceptance {b : Bridge} {now : Nat} {o : Order} {reply : Reply}
    {answer : OrderAnswer} (h : o.answer reply = .ok answer) (haccepted : answer.Accepts) :
  b.finish now o reply
    = ((b.accept now o answer.value? answer.result?).1,
        (b.accept now o answer.value? answer.result?).2.1,
        .ok (b.accept now o answer.value? answer.result?).2.2)
  := by
  simp only [finish, Order.verdict_eq, h, Except.map, if_pos haccepted]

theorem exchange_of_finish {b alone after : Bridge} {w : Wish} {meanwhile : List (Nat × Signal)}
    {now : Nat} {reply : Reply} {heard told : List Effect} {outcome : Except CommandError Outcome}
    (hmeanwhile : b.routeEach meanwhile = (alone, heard))
    (hfinish : alone.finish now (w.order b) reply = (after, told, outcome)) :
  b.exchange w meanwhile now reply = (after, heard ++ told, outcome)
  := by
  simp only [exchange, hmeanwhile, hfinish]

/-- An order is carried out as a whole or not at all, whatever the router takes meanwhile.  When
the request fails, nothing is left of the order; when the backend refuses, one event tells what
the operator learns as well.  When the backend accepts, only the actuators that the order
concerns have changed, and what they show is what the operator and the listeners are told. -/
theorem exchange_all_or_nothing (b : Bridge) (w : Wish) (meanwhile : List (Nat × Signal))
    (now : Nat) (reply : Reply) :
  let order := w.order b
  let alone := (b.routeEach meanwhile).1
  let heard := (b.routeEach meanwhile).2
  (∀ e ∈ heard, e.tellsOfOrder = false) ∧
    match order.answer reply with
    | .error cause => b.exchange w meanwhile now reply = (alone, heard, .error (.request cause))
    | .ok answer =>
      if answer.Accepts then
        ∃ after told outcome, b.exchange w meanwhile now reply = (after, heard ++ told, .ok outcome)
          ∧ order.Fulfilled answer now alone after told outcome
          ∧ (∀ name, ¬ order.Concerns alone.registry name →
            Table.find? name after.registry = Table.find? name alone.registry)
          ∧ after = { alone with registry := after.registry }
      else
        b.exchange w meanwhile now reply
          = (alone, heard ++ [.publish (.commandRejected (order.rejection answer.reason))],
              .error (.rejected (order.rejection answer.reason)))
  := by
  intro order alone heard
  use b.tellsOfOrder_routeEach meanwhile
  cases hanswer : order.answer reply with
  | error cause =>
      have h : b.exchange w meanwhile now reply = (alone, heard ++ [], .error (.request cause)) :=
        exchange_of_finish rfl (finish_of_error hanswer)
      rw [List.append_nil] at h
      apply h
  | ok answer =>
      by_cases haccepted : answer.Accepts
      · let done := alone.accept now order answer.value? answer.result?
        have h : b.exchange w meanwhile now reply = (done.1, heard ++ done.2.1, .ok done.2.2) :=
          exchange_of_finish rfl (finish_of_acceptance hanswer haccepted)
        simp only [if_pos haccepted]
        use done.1, done.2.1, done.2.2, h, alone.accept_fulfilled now order answer
        constructor
        · intro name hname
          apply alone.accept_frame _ _ _ _ hname
        · apply alone.accept_registry
      · simp only [if_neg haccepted]
        apply exchange_of_finish rfl (finish_of_refusal hanswer haccepted)

end Bridge

end Greenhouse
