import Greenhouse.Proofs.Order.Grip

/-!
# Who holds which actuator

The registry of a bridge and the stand-in it talks to learn of each other only through requests
and replies, while readings and locks reach one of them alone.  A `Liaison` is the two of them
together.  An `Errand` takes a wish of the operator to the stand-in and the reply back, and on
either way anything may happen to one of the two alone.

The stand-in settles an order when it answers, and the bridge settles it in the same way when it
learns the answer.  In between their grips differ, so what a run keeps is that they agree when no
order is under way.  The values that are wished for have to be legible: a text that is read as
another number would let the two hold different values.
-/

namespace Greenhouse

/-! ### An order at the stand-in -/

/-- The text of the value in an order is read as that value. -/
def Order.Legible : Order → Prop
  | .set _ value | .toggle _ value => value.Legible
  | .release _ | .releaseAll | .goal _ => True

/-- The text of the value that is wished for is read as that value. -/
def Wish.Legible : Wish → Prop
  | .set _ value => value.Legible
  | .toggle _ | .release _ | .releaseAll | .goal _ => True

/-- A toggle announces a switch, so its value is always legible. -/
theorem Wish.legible_order {w : Wish} (h : w.Legible) (b : Bridge) :
  (w.order b).Legible
  := by
  cases w with
  | set name value => apply h
  | toggle name =>
      change (b.registry.toggledValue name).Legible
      unfold Registry.toggledValue
      split <;> trivial
  | release name => trivial
  | releaseAll => trivial
  | goal text => trivial

theorem Order.verdict_of_actuator {o : Order} {r : ActuatorRequest}
    (hr : o.request = .actuator r) (reply : Reply) :
  o.verdict reply = (reply.read ActuatorResponse.shape.reader).map ActuatorResponse.verdict
  := by
  cases o with
  | goal text => nomatch hr
  | set | toggle | release | releaseAll => rfl

theorem Order.legible_request {o : Order} (h : o.Legible) {r : ActuatorRequest}
    (hr : o.request = .actuator r) :
  ∀ a ∈ r.value, a.Legible
  := by
  cases o with
  | set | toggle =>
      obtain rfl := Request.actuator.inj hr
      rintro _ ⟨⟩
      apply h
  | release | releaseAll =>
      obtain rfl := Request.actuator.inj hr
      nofun
  | goal text => nomatch hr

namespace Rehearsal

/-- What an order makes of the grip of the stand-in is what the reply to it says. -/
theorem StandIn.serve_settles {s : StandIn} (h : s.Legible) {o : Order} (ho : o.Legible)
    (now : Nat) :
  (s.serve now o.request).1.Legible
    ∧ (s.serve now o.request).1.grip = o.settle (o.verdict (s.serve now o.request).2) s.grip
  := by
  have hactuator (r : ActuatorRequest) (hr : o.request = .actuator r) :
      (s.serve now o.request).1.Legible
        ∧ (s.serve now o.request).1.grip
          = o.settle (o.verdict (s.serve now o.request).2) s.grip := by
    have hvalue := o.legible_request ho hr
    have hsettles := settles_actuate h hr hvalue
    rw [hr, s.serve_actuator now hvalue, o.verdict_of_actuator hr]
    use hsettles.kept
    obtain hread | ⟨hcode, cause, hread⟩ := ActuatorResponse.read_encode hsettles.answered _
    · rw [hread]
      apply hsettles.grip
    · have hfailed : (s.actuate r).2.2.isSuccess = false := by
        by_contra hsuccess
        have haccepted := hsettles.accepted (by simpa using hsuccess)
        rw [hcode] at haccepted
        nomatch haccepted
      have hgrip := hsettles.grip
      rw [ActuatorResponse.verdict, hfailed] at hgrip
      rw [hread]
      apply hgrip
  cases o with
  | set name value => apply hactuator _ rfl
  | toggle name expected => apply hactuator _ rfl
  | release name => apply hactuator _ rfl
  | releaseAll => apply hactuator _ rfl
  | goal text =>
      change (s.serve now (.submitGoal ⟨text⟩)).1.Legible
        ∧ (s.serve now (.submitGoal ⟨text⟩)).1.grip = _
      rw [s.serve_goal]
      use h
      unfold Order.settle
      split <;> rfl

/-! ### A bridge and its stand-in -/

/-- An actuator is locked. -/
def StandIn.lock (s : StandIn) (name : String) : StandIn := { s with locked := name :: s.locked }

/-- A bridge and the stand-in it talks to. -/
structure Liaison where
  bridge : Bridge
  standIn : StandIn

/-- Something that happens to one of the two alone: an actuator of the stand-in is locked, or
the router of the bridge takes a signal. -/
inductive Aside where
  | lock (name : String)
  | signal (now : Nat) (signal : Signal)

/-- A wish on its way: what happens until the request arrives, when that is, what happens until
the reply arrives, and when that is. -/
structure Errand where
  wish : Wish
  outbound : List Aside
  served : Nat
  inbound : List Aside
  learnt : Nat

/-- Something that happens to a bridge and its stand-in. -/
inductive Occurrence where
  | aside (x : Aside)
  | errand (e : Errand)

/-- The text of a value that is wished for is read as that value. -/
def Occurrence.Legible : Occurrence → Prop
  | .aside _ => True
  | .errand e => e.wish.Legible

namespace Liaison

/-- Something happens to one of the two. -/
def aside (l : Liaison) : Aside → Liaison
  | .lock name => { l with standIn := l.standIn.lock name }
  | .signal now signal => { l with bridge := (l.bridge.route now signal).1 }

/-- The order is given, its request is answered, and the bridge learns the answer. -/
def errand (l : Liaison) (e : Errand) : Liaison :=
  let order := e.wish.order l.bridge
  let l := e.outbound.foldl aside l
  let (standIn, reply) := l.standIn.serve e.served order.request
  let l := e.inbound.foldl aside { l with standIn }
  { l with bridge := (l.bridge.finish e.learnt order reply).1 }

/-- Something happens. -/
def step (l : Liaison) : Occurrence → Liaison
  | .aside x => l.aside x
  | .errand e => l.errand e

/-- Things happen one after another. -/
def run (l : Liaison) (occurrences : List Occurrence) : Liaison := occurrences.foldl step l

/-- The grips are left as they are. -/
structure Keeps (before after : Liaison) : Prop where
  registry : after.bridge.registry.grip = before.bridge.registry.grip
  slots : after.standIn.slots = before.standIn.slots
  ordered : Table.Ordered before.bridge.registry → Table.Ordered after.bridge.registry

theorem Keeps.refl (l : Liaison) :
  l.Keeps l
  := by
  constructor
  · rfl
  · rfl
  · apply id

theorem Keeps.trans {l l' l'' : Liaison} (h : l.Keeps l') (h' : l'.Keeps l'') :
  l.Keeps l''
  := by
  constructor
  · apply h'.registry.trans h.registry
  · apply h'.slots.trans h.slots
  · intro hordered
    apply h'.ordered (h.ordered hordered)

/-- A lock is no concern of the bridge, and a signal brings it readings at most. -/
theorem keeps_aside (l : Liaison) (x : Aside) :
  l.Keeps (l.aside x)
  := by
  cases x with
  | lock name =>
      constructor
      · rfl
      · rfl
      · apply id
  | signal now signal =>
      obtain ⟨readings, hroute⟩ := l.bridge.route_registry now signal
      constructor
      · change (l.bridge.route now signal).1.registry.grip = _
        rw [hroute, Registry.grip_applyReadings]
      · rfl
      · intro hordered
        change Table.Ordered (l.bridge.route now signal).1.registry
        rw [hroute]
        apply Registry.ordered_applyReadings now hordered

theorem keeps_asides (l : Liaison) (xs : List Aside) :
  l.Keeps (xs.foldl aside l)
  := by
  induction xs generalizing l with
  | nil => apply Keeps.refl
  | cons x rest ih => apply (l.keeps_aside x).trans (ih (l.aside x))

/-- The bridge and the stand-in agree on who holds which actuator at which value. -/
structure Agrees (l : Liaison) : Prop where
  grip : l.bridge.registry.grip = l.standIn.grip
  ordered : Table.Ordered l.bridge.registry
  legible : l.standIn.Legible

section
variable {before after : Liaison} (hkeeps : before.Keeps after)
include hkeeps

theorem Keeps.standIn_grip :
  after.standIn.grip = before.standIn.grip
  := by
  funext name
  rw [StandIn.grip, hkeeps.slots, StandIn.grip]

theorem Keeps.legible (h : before.standIn.Legible) :
  after.standIn.Legible
  := by
  rw [StandIn.Legible, hkeeps.slots]
  apply h

theorem Keeps.agrees (h : before.Agrees) :
  after.Agrees
  := by
  constructor
  · rw [hkeeps.registry, h.grip, hkeeps.standIn_grip]
  · apply hkeeps.ordered h.ordered
  · apply hkeeps.legible h.legible

end

/-- Both settle an order in the same way, the stand-in when it answers and the bridge when it
learns the answer. -/
theorem Agrees.settled {asked told : Liaison} (h : asked.Agrees) {o : Order} (ho : o.Legible)
    (served learnt : Nat)
    (htold : Keeps ⟨asked.bridge, (asked.standIn.serve served o.request).1⟩ told) :
  Agrees ⟨(told.bridge.finish learnt o (asked.standIn.serve served o.request).2).1, told.standIn⟩
  := by
  obtain ⟨hkept, hserved⟩ := StandIn.serve_settles h.legible ho served
  generalize asked.standIn.serve served o.request = done at htold hkept hserved ⊢
  have hsettled : (told.bridge.finish learnt o done.2).1.registry.grip = told.standIn.grip := by
    rw [Bridge.grip_finish, htold.registry, htold.standIn_grip, hserved, h.grip]
  constructor
  · apply hsettled
  · apply Bridge.ordered_finish (htold.ordered h.ordered)
  · apply htold.legible hkept

theorem Agrees.errand {l : Liaison} (h : l.Agrees) {e : Errand} (hlegible : e.wish.Legible) :
  (l.errand e).Agrees
  := by
  apply Agrees.settled
  · apply (l.keeps_asides e.outbound).agrees h
  · apply Wish.legible_order hlegible
  · apply keeps_asides

theorem Agrees.step {l : Liaison} (h : l.Agrees) {x : Occurrence} (hlegible : x.Legible) :
  (l.step x).Agrees
  := by
  cases x with
  | aside x => apply (l.keeps_aside x).agrees h
  | errand e => apply h.errand hlegible

theorem Agrees.run {l : Liaison} (h : l.Agrees) {occurrences : List Occurrence}
    (hlegible : ∀ x ∈ occurrences, x.Legible) :
  (l.run occurrences).Agrees
  := by
  induction occurrences generalizing l with
  | nil => apply h
  | cons x rest ih =>
      apply ih
      · apply h.step (hlegible x List.mem_cons_self)
      · intro y hy
        apply hlegible y (List.mem_cons_of_mem x hy)

/-- Whatever has happened to a bridge and the stand-in it talks to, both of which knew no
actuator at first, the registry tells exactly those actuators that the stand-in takes to be held,
and shows for each of them the value that it has there. -/
theorem overridden_iff_held {l : Liaison} (hregistry : l.bridge.registry = [])
    (hslots : l.standIn.slots = []) {occurrences : List Occurrence}
    (hlegible : ∀ x ∈ occurrences, x.Legible) :
  let registry := (l.run occurrences).bridge.registry
  let slots := (l.run occurrences).standIn.slots
  (∀ name, name ∈ registry.overridden
      ↔ ∃ slot, Table.find? name slots = some slot ∧ slot.held = true)
    ∧ ∀ name ∈ registry.overridden,
      registry.value? name = (Table.find? name slots).map Slot.value
  := by
  intro registry slots
  have hstart : l.Agrees := by
    constructor
    · funext name
      rw [Registry.grip, hregistry, StandIn.grip, hslots]
      rfl
    · rw [hregistry]
      apply Table.ordered_nil
    · intro name slot hfind
      rw [hslots] at hfind
      cases hfind
  have hend := hstart.run hlegible
  have hholds (name : String) : name ∈ registry.overridden
      ↔ ∃ value, (l.run occurrences).standIn.grip name = some value := by
    rw [← hend.grip]
    apply Registry.mem_overridden_iff_grip name hend.ordered
  constructor
  · intro name
    rw [hholds]
    constructor
    · rintro ⟨value, hvalue⟩
      obtain ⟨slot, hfind, hheld, _⟩ := StandIn.grip_eq_some_iff.mp hvalue
      use slot, hfind
    · rintro ⟨slot, hfind, hheld⟩
      use slot.value
      apply StandIn.grip_eq_some_iff.mpr ⟨slot, hfind, hheld, rfl⟩
  · intro name hname
    obtain ⟨value, hvalue⟩ := (hholds name).mp hname
    obtain ⟨slot, hfind, _, rfl⟩ := StandIn.grip_eq_some_iff.mp hvalue
    rw [hfind]
    apply Registry.value?_of_grip
    rw [hend.grip, hvalue]

end Liaison

/-- The router takes a reading of one actuator. -/
def Aside.reads (name : String) (on : Bool) : Aside :=
  .signal 0 (.inbound (.greenhouse "" (.obj [(name, .bool on)])))

/-- A level that is held while a reading arrives, a lock that comes before the request, and a
toggle of an actuator that the stand-in takes to be off although it was read to be on. -/
theorem Liaison.overridden_iff_held_of_interlock :
  let level : ActuatorValue := .level ⟨false, 1022 * Nat.pow 2 52, by decide⟩
  let start : Liaison := ⟨⟨[], .ofDebounce 0, .ofWindow 0, .ofDelay 0, .empty, none⟩, .fresh⟩
  let occurrences : List Occurrence :=
    [.errand ⟨.set "doser" level, [], 1, [.reads "doser" false], 2⟩,
      .errand ⟨.set "fan" (.switch true), [.lock "fan"], 3, [], 4⟩, .aside (.reads "pump" true),
      .errand ⟨.toggle "pump", [], 5, [], 6⟩]
  let registry := (start.run occurrences).bridge.registry
  let slots := (start.run occurrences).standIn.slots
  (∀ x ∈ occurrences, x.Legible)
    ∧ (∀ name, name ∈ registry.overridden
      ↔ ∃ slot, Table.find? name slots = some slot ∧ slot.held = true)
    ∧ (∀ name ∈ registry.overridden,
      registry.value? name = (Table.find? name slots).map Slot.value)
    ∧ slots = [("doser", ⟨level, true⟩), ("pump", ⟨.switch true, true⟩)]
  := by
  intro level start occurrences registry slots
  have hlevel : level.Legible := by
    change Json.parse (Double.encode _) = _
    decide +kernel
  have hlegible : ∀ x ∈ occurrences, x.Legible := by
    simp only [occurrences, List.mem_cons, List.not_mem_nil, or_false]
    rintro x (rfl | rfl | rfl | rfl)
    · apply hlevel
    · trivial
    · trivial
    · trivial
  obtain ⟨hheld, hvalue⟩ := Liaison.overridden_iff_held (l := start) rfl rfl hlegible
  use hlegible, hheld, hvalue
  decide +kernel

end Rehearsal

end Greenhouse
