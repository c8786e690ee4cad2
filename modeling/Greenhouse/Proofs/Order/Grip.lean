import Greenhouse.Proofs.Order.Wire

/-!
# What an order makes of the actuators that are held

A bridge keeps its own account of the actuators that an operator holds, and so does the stand-in
it talks to.  A `Grip` is what either account comes to: for each actuator the value at which it
is held, if it is.

`Order.settle` is what an order makes of a grip, given the verdict on it.  The bridge does that
when it learns the answer, which is `Bridge.grip_finish`, and the stand-in does it when it
carries out the request, which is `StandIn.settles_actuate`.  Readings never change a grip.
-/

namespace Greenhouse

open Rehearsal (StandIn Slot)

/-- The value at which each actuator is held, if it is. -/
abbrev Grip := String → Option ActuatorValue

/-! ### What orders make of a grip -/

/-- What an order comes to when it is accepted, with the value that the actuator has taken. -/
def Order.grips (value : Option ActuatorValue) (before : Grip) : Order → Grip
  | .set name wanted | .toggle name wanted =>
    fun other => if name = other then some (value.getD wanted) else before other
  | .release name => fun other => if name = other then none else before other
  | .releaseAll => fun _ => none
  | .goal _ => before

/-- What an order comes to, given the verdict on it. -/
def Order.settle (o : Order) (verdict : Except RequestError Verdict) (before : Grip) : Grip :=
  match verdict with
  | .ok (.accepted value _) => o.grips value before
  | .ok (.refused _) | .error _ => before

/-! ### The grip of a registry -/

section
variable {τ : Type}

/-- The value at which an actuator is held, if it is. -/
def Actuator.grip (a : Actuator τ) : Option ActuatorValue := if a.held then some a.value else none

theorem Actuator.grip_freed (a : Actuator τ) (now : τ) :
  (a.freed now).grip = none
  := by
  unfold freed
  split
  · rfl
  · next hheld => rw [grip, if_neg hheld]

theorem Actuator.grip_observed (known : Option (Actuator τ)) (value : ActuatorValue) (now : τ) :
  (observed known value now).grip = known.bind grip
  := by
  cases known with
  | none => rfl
  | some a => cases hheld : a.held <;> simp [observed, grip, hheld]

end

namespace Registry

section
variable {τ : Type} (r : Registry τ) (name : String) (now : τ)

/-- The values at which actuators are held. -/
def grip : Grip := fun name => (Table.find? name r).bind Actuator.grip

theorem grip_setOverride (value : ActuatorValue) (other : String) :
  (r.setOverride name value now).1.grip other = if name = other then some value else r.grip other
  := by
  rw [grip, find?_setOverride]
  split <;> rfl

theorem grip_clearOverride (other : String) :
  (r.clearOverride name now).1.grip other = if name = other then none else r.grip other
  := by
  rw [grip, find?_clearOverride]
  split
  · cases Table.find? name r with
    | none => rfl
    | some a => apply a.grip_freed
  · rfl

theorem grip_clearAll :
  (r.clearAll now).1.grip name = none
  := by
  rw [grip, find?_clearAll]
  cases Table.find? name r with
  | none => rfl
  | some a => apply a.grip_freed

/-- A reading never changes a grip. -/
theorem grip_applyTelemetry (value : ActuatorValue) :
  (r.applyTelemetry name value now).1.grip = r.grip
  := by
  funext other
  rw [grip, find?_applyTelemetry]
  split
  · next heq =>
      subst heq
      apply Actuator.grip_observed
  · rfl

theorem grip_applyReadings (readings : List (String × ActuatorValue)) :
  (r.applyReadings readings now).grip = r.grip
  := by
  induction readings generalizing r with
  | nil => rfl
  | cons reading rest ih =>
      apply (ih _).trans
      apply grip_applyTelemetry

variable {r}

/-- An actuator is held when the grip has a value for it, and then shows that value. -/
theorem mem_overridden_iff_grip (h : Table.Ordered r) :
  name ∈ r.overridden ↔ ∃ value, r.grip name = some value
  := by
  rw [mem_overridden h, isHeld, grip]
  cases Table.find? name r with
  | none => simp
  | some a => simp [Actuator.grip]

theorem value?_of_grip {value : ActuatorValue} (h : r.grip name = some value) :
  r.value? name = some value
  := by
  obtain ⟨a, ha, hgrip⟩ := Option.bind_eq_some_iff.mp h
  unfold Actuator.grip at hgrip
  split at hgrip
  · rw [value?, ha, ← hgrip]
    rfl
  · cases hgrip

end

end Registry

/-! ### The grip of a bridge -/

namespace Bridge

theorem grip_accept (b : Bridge) (now : Nat) (o : Order) (value : Option ActuatorValue)
    (result : Option Json) :
  (b.accept now o value result).1.registry.grip = o.grips value b.registry.grip
  := by
  funext other
  cases o with
  | set name wanted | toggle name wanted => apply b.registry.grip_setOverride
  | release name => apply b.registry.grip_clearOverride
  | releaseAll => apply b.registry.grip_clearAll
  | goal text => rfl

/-- The bridge settles an order when it learns the answer. -/
theorem grip_finish (b : Bridge) (now : Nat) (o : Order) (reply : Reply) :
  (b.finish now o reply).1.registry.grip = o.settle (o.verdict reply) b.registry.grip
  := by
  unfold finish Order.settle
  split
  · next heq => rw [heq]
  · next heq => rw [heq]
  · next heq =>
      rw [heq]
      apply b.grip_accept

theorem ordered_accept {b : Bridge} (h : Table.Ordered b.registry) (now : Nat) (o : Order)
    (value : Option ActuatorValue) (result : Option Json) :
  Table.Ordered (b.accept now o value result).1.registry
  := by
  cases o with
  | set name wanted | toggle name wanted => apply Registry.ordered_setOverride h
  | release name => apply Registry.ordered_clearOverride h
  | releaseAll => apply Registry.ordered_clearAll h
  | goal text => apply h

theorem ordered_finish {b : Bridge} (h : Table.Ordered b.registry) (now : Nat) (o : Order)
    (reply : Reply) :
  Table.Ordered (b.finish now o reply).1.registry
  := by
  unfold finish
  split
  · apply h
  · apply h
  · apply ordered_accept h

/-- What the router does to the registry is to apply readings. -/
theorem route_registry (b : Bridge) (now : Nat) (signal : Signal) :
  ∃ readings, (b.route now signal).1.registry = b.registry.applyReadings readings now
  := by
  cases signal with
  | state state => use []; rfl
  | inbound frame =>
      simp only [route]
      split
      · use []; rfl
      · use frame.readings
      · use []; rfl
      · use []; rfl

end Bridge

/-! ### The grip of a stand-in -/

namespace Rehearsal

/-- The value at which a slot is held, if it is. -/
def Slot.grip (slot : Slot) : Option ActuatorValue := if slot.held then some slot.value else none

namespace StandIn

/-- The values at which actuators are held. -/
def grip (s : StandIn) : Grip := fun name => (Table.find? name s.slots).bind Slot.grip

/-- The grip has a value for the actuators that are held. -/
theorem grip_eq_some_iff {s : StandIn} {name : String} {value : ActuatorValue} :
  s.grip name = some value
    ↔ ∃ slot, Table.find? name s.slots = some slot ∧ slot.held = true ∧ slot.value = value
  := by
  rw [grip, Option.bind_eq_some_iff]
  simp only [Slot.grip, Option.ite_none_right_eq_some, Option.some.injEq]

/-- The text of every value that is kept is read as that value. -/
def Legible (s : StandIn) : Prop :=
  ∀ name slot, Table.find? name s.slots = some slot → slot.value.Legible

theorem grip_putSlot (s : StandIn) (name : String) (slot : Slot) (other : String) :
  (s.putSlot name slot).grip other = if name = other then slot.grip else s.grip other
  := by
  rw [grip, putSlot, Table.find?_put]
  split <;> rfl

theorem legible_putSlot {s : StandIn} (h : s.Legible) {slot : Slot} (hslot : slot.value.Legible)
    (name : String) :
  (s.putSlot name slot).Legible
  := by
  intro other found hfound
  rw [putSlot, Table.find?_put] at hfound
  split at hfound
  · obtain rfl := Option.some.inj hfound
    apply hslot
  · apply h other found hfound

end StandIn

/-- What becomes of an order that reaches the stand-in: its verdict tells what the order makes of
the grip, an order is only accepted with an accepting code, and all texts of values are read as
they were. -/
structure Settles (o : Order) (before : StandIn) (done : StandIn × Nat × ActuatorResponse) :
    Prop where
  grip : done.1.grip = o.settle (.ok done.2.2.verdict) before.grip
  accepted : done.2.2.isSuccess = true → Reply.isAccepted done.2.1 = true
  kept : done.1.Legible
  answered : ∀ a ∈ done.2.2.value, a.Legible

section
variable {s : StandIn} (h : s.Legible) {o : Order}
include h

/-- A refusal leaves the grip. -/
theorem Settles.refusal (code : Nat) (message : String) :
  Settles o s (s, code, StandIn.refusal message)
  := by
  constructor
  · rfl
  · nofun
  · apply h
  · nofun

/-- A slot is put in its place. -/
theorem Settles.putSlot {name : String} {slot : Slot} (hslot : slot.value.Legible)
    (hgrip : ∀ other, o.grips (some slot.value) s.grip other
      = if name = other then slot.grip else s.grip other) :
  Settles o s (s.putSlot name slot, 200, StandIn.report slot)
  := by
  constructor
  · funext other
    rw [s.grip_putSlot, ← hgrip]
    rfl
  · intro _
    rfl
  · apply StandIn.legible_putSlot h hslot
  · rintro _ ⟨⟩
    apply hslot

/-- All actuators are given back. -/
theorem Settles.freeAll :
  Settles .releaseAll s
    ({ s with slots := Table.mapValues (fun slot => { slot with held := false }) s.slots }, 200,
      ⟨successStatus, none, false, none⟩)
  := by
  constructor
  · funext other
    simp only [StandIn.grip, Table.find?_mapValues]
    cases Table.find? other s.slots <;> rfl
  · intro _
    rfl
  · intro other found hfound
    simp only [Table.find?_mapValues] at hfound
    obtain ⟨slot, hslot, rfl⟩ := Option.map_eq_some_iff.mp hfound
    apply h other slot hslot
  · nofun

/-- A slot that is not known yet holds a switch. -/
theorem StandIn.legible_getD (name : String) :
  ((Table.find? name s.slots).getD ⟨.switch false, false⟩).value.Legible
  := by
  cases hfind : Table.find? name s.slots with
  | none => trivial
  | some slot => apply h name slot hfind

end

/-- The stand-in settles an order when it answers. -/
theorem StandIn.settles_actuate {s : StandIn} (h : s.Legible) {o : Order} {r : ActuatorRequest}
    (hr : o.request = .actuator r) (hvalue : ∀ a ∈ r.value, a.Legible) :
  Settles o s (s.actuate r)
  := by
  let noted : StandIn := { s with actuatorRequests := s.actuatorRequests ++ [r] }
  have hnoted : noted.Legible := h
  suffices hsettles : Settles o noted (s.actuate r) by
    exact ⟨hsettles.grip, hsettles.accepted, hsettles.kept, hsettles.answered⟩
  cases hlocked : r.name.filter s.locked.contains with
  | some name =>
      simp only [actuate, hlocked]
      apply Settles.refusal hnoted
  | none =>
      simp only [actuate, hlocked]
      cases o with
      | set name value =>
          obtain rfl := Request.actuator.inj hr
          apply Settles.putSlot hnoted
          · apply hvalue value rfl
          · intro other
            rfl
      | toggle name expected =>
          obtain rfl := Request.actuator.inj hr
          apply Settles.putSlot hnoted
          · trivial
          · intro other
            rfl
      | release name =>
          obtain rfl := Request.actuator.inj hr
          apply Settles.putSlot hnoted
          · apply legible_getD hnoted name
          · intro other
            rfl
      | releaseAll =>
          obtain rfl := Request.actuator.inj hr
          apply Settles.freeAll hnoted
      | goal text => nomatch hr

end Rehearsal

end Greenhouse
