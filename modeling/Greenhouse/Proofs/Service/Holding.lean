import Mathlib.Data.Finset.Basic
import Mathlib.Data.List.Induction
import Greenhouse.Proofs.Order.Grip
import Greenhouse.Proofs.Service.Run

/-!
# The holds, as the events tell of them

A listener who has heard every event from the beginning knows which actuators are held: those for
which a hold was published and no release since.  `told` is what such a listener knows.

Only the reply to an order makes a difference to the holds.  When the router takes a signal, and
when anything else goes on, the holds stay as they are and no event tells of them.  So the listener
is right after every step of every run, and never hears of a hold that is there already or of a
release of what is not held.
-/

namespace Greenhouse

/-! ### What a listener knows -/

/-- The actuators that are held after an event, by those that were held before it. -/
def Event.holds (held : Finset String) : Event → Finset String
  | .overrideEngaged name _ => insert name held
  | .overrideReleased name => held.erase name
  | .connection _ | .liveness _ | .telemetry _ | .settingsSaved _ _ | .settingsFailed _ _
  | .commandRejected _ => held

/-- An event is news to a listener: it does not tell of a hold that is there, or of a release of
what is not held. -/
def Event.IsNews (held : Finset String) : Event → Prop
  | .overrideEngaged name _ => name ∉ held
  | .overrideReleased name => name ∈ held
  | .connection _ | .liveness _ | .telemetry _ | .settingsSaved _ _ | .settingsFailed _ _
  | .commandRejected _ => True

/-- The actuators that are held after events in a row. -/
def toldFrom (held : Finset String) (events : List Event) : Finset String :=
  events.foldl Event.holds held

/-- The actuators that are held by all that has been published. -/
def told (events : List Event) : Finset String := toldFrom ∅ events

/-- Every event is news to a listener who has heard those before it. -/
def NewsFrom (held : Finset String) (events : List Event) : Prop :=
  ∀ front e back, events = front ++ e :: back → e.IsNews (toldFrom held front)

section
variable (held : Finset String) (first second : List Event)

theorem toldFrom_append :
  toldFrom held (first ++ second) = toldFrom (toldFrom held first) second
  := List.foldl_append

variable {held first second}

theorem newsFrom_nil :
  NewsFrom held []
  := by
  intro front e back h
  have hlength := congrArg List.length h
  simp at hlength

theorem NewsFrom.append (hfirst : NewsFrom held first)
    (hsecond : NewsFrom (toldFrom held first) second) :
  NewsFrom held (first ++ second)
  := by
  intro front e back h
  obtain ⟨between, rfl, hback⟩ | ⟨between, rfl, hback⟩ := List.append_eq_append_iff.mp h
  · rw [toldFrom_append]
    apply hsecond between e back hback
  · cases between with
    | nil =>
        have hnone : second = [] ++ e :: back := by simpa using hback.symm
        rw [List.append_nil] at hsecond
        apply hsecond [] e back hnone
    | cons e' between =>
        obtain ⟨rfl, rfl⟩ := List.cons.inj hback
        apply hfirst front e between rfl

theorem newsFrom_singleton {e : Event} (h : e.IsNews held) :
  NewsFrom held [e]
  := by
  intro front e' back heq
  cases front with
  | nil =>
      obtain ⟨rfl, rfl⟩ := List.cons.inj heq
      apply h
  | cons e'' front =>
      have hlength := congrArg List.length heq
      simp at hlength

/-- Releases of different actuators that are all held are news, and none of them is held then. -/
theorem newsFrom_released {names : List String} (hnodup : names.Nodup)
    (hheld : ∀ name ∈ names, name ∈ held) :
  NewsFrom held (names.map .overrideReleased)
    ∧ toldFrom held (names.map .overrideReleased) = held \ names.toFinset
  := by
  induction names generalizing held with
  | nil =>
      constructor
      · apply newsFrom_nil
      · simp [toldFrom]
  | cons name rest ih =>
      obtain ⟨hfresh, hrest⟩ := List.nodup_cons.mp hnodup
      have hleft : ∀ other ∈ rest, other ∈ held.erase name := by
        intro other hother
        apply Finset.mem_erase.mpr
        constructor
        · rintro rfl
          apply hfresh hother
        · apply hheld other (List.mem_cons_of_mem name hother)
      obtain ⟨hnews, htold⟩ := ih hrest hleft
      have hfirst : (Event.overrideReleased name).IsNews held := hheld name List.mem_cons_self
      rw [List.map_cons, ← List.singleton_append]
      constructor
      · apply (newsFrom_singleton hfirst).append hnews
      · rw [toldFrom_append]
        apply htold.trans
        rw [List.toFinset_cons, Finset.sdiff_insert, Finset.erase_sdiff_comm]

end

/-! ### What orders make of the holds -/

/-- The actuators that the operator holds. -/
def Registry.heldNames {τ : Type} (r : Registry τ) : Finset String := r.overridden.toFinset

theorem Registry.mem_heldNames {τ : Type} {r : Registry τ} (h : Table.Ordered r) {name : String} :
  name ∈ r.heldNames ↔ r.isHeld name = true
  := by
  rw [heldNames, List.mem_toFinset, mem_overridden h]

/-- The events in a row are news by the holds of one registry, and lead to those of another. -/
structure Leads (before after : Registry Nat) (events : List Event) : Prop where
  news : NewsFrom before.heldNames events
  told : toldFrom before.heldNames events = after.heldNames

/-- No event leads to the same holds. -/
theorem Leads.nil {before after : Registry Nat} (hbefore : Table.Ordered before)
    (hafter : Table.Ordered after) (h : ∀ name, after.isHeld name = before.isHeld name) :
  Leads before after []
  := by
  constructor
  · apply newsFrom_nil
  · ext name
    rw [Registry.mem_heldNames hafter, h, ← Registry.mem_heldNames hbefore]
    rfl

section
variable {r : Registry Nat} (hr : Table.Ordered r) (name : String) (now : Nat)
include hr

/-- A hold is published unless it was there before. -/
theorem leads_setOverride (value : ActuatorValue) :
  Leads r (r.setOverride name value now).1
    (if r.isHeld name then [] else [.overrideEngaged name value])
  := by
  have hordered := Registry.ordered_setOverride hr name value now
  cases hheld : r.isHeld name with
  | true =>
      apply Leads.nil hr hordered
      intro other
      rw [r.isHeld_setOverride]
      by_cases hother : name = other
      · rw [← hother, hheld, Bool.or_true]
      · simp [hother]
  | false =>
      constructor
      · apply newsFrom_singleton
        intro hmem
        rw [Registry.mem_heldNames hr, hheld] at hmem
        nomatch hmem
      · ext other
        rw [Registry.mem_heldNames hordered, r.isHeld_setOverride, Bool.or_eq_true, decide_eq_true_eq,
          ← Registry.mem_heldNames hr, @eq_comm _ name other]
        apply Finset.mem_insert

/-- A release is published if the actuator was held. -/
theorem leads_clearOverride :
  Leads r (r.clearOverride name now).1 (if r.isHeld name then [.overrideReleased name] else [])
  := by
  have hordered := Registry.ordered_clearOverride hr name now
  cases hheld : r.isHeld name with
  | true =>
      constructor
      · apply newsFrom_singleton
        apply (Registry.mem_heldNames hr).mpr hheld
      · ext other
        rw [Registry.mem_heldNames hordered, r.isHeld_clearOverride, Bool.and_eq_true, Bool.not_eq_true',
          decide_eq_false_iff_not, ← Registry.mem_heldNames hr, @eq_comm _ name other]
        apply Finset.mem_erase
  | false =>
      apply Leads.nil hr hordered
      intro other
      rw [r.isHeld_clearOverride]
      by_cases hother : name = other
      · rw [← hother, hheld, Bool.and_false]
      · simp [hother]

/-- A release of all actuators is published for each one that was held. -/
theorem leads_clearAll :
  Leads r (r.clearAll now).1 (r.overridden.map .overrideReleased)
  := by
  have hnodup : r.overridden.Nodup := by
    apply (Registry.overridden_sorted hr).imp
    rintro name _ hlt rfl
    apply String.lt_irrefl name hlt
  have hheld : ∀ name ∈ r.overridden, name ∈ r.heldNames := by
    intro name hname
    apply List.mem_toFinset.mpr hname
  obtain ⟨hnews, htold⟩ := newsFrom_released hnodup hheld
  use hnews
  rw [htold]
  ext name
  rw [Registry.mem_heldNames (Registry.ordered_clearAll hr now), r.isHeld_clearAll]
  simp [Registry.heldNames]

end

/-- What is published when the reply to an order arrives leads to the holds that are then there. -/
theorem leads_finish {b : Bridge} (hb : Table.Ordered b.registry) (now : Nat) (o : Order)
    (reply : Reply) :
  Leads b.registry (b.finish now o reply).1.registry
    ((b.finish now o reply).2.1.filterMap Effect.event?)
  := by
  have hsame : Leads b.registry b.registry [] := Leads.nil hb hb fun _ => rfl
  unfold Bridge.finish
  cases o.verdict reply with
  | error cause => apply hsame
  | ok verdict =>
      cases verdict with
      | refused reason =>
          have hrefusal : (Event.commandRejected (o.rejection reason)).IsNews
              b.registry.heldNames := trivial
          exact ⟨newsFrom_singleton hrefusal, rfl⟩
      | accepted value result =>
          cases o with
          | set name wanted | toggle name wanted =>
              have hleads := leads_setOverride hb name now (value.getD wanted)
              have heffects := (b.hold_holds now name (value.getD wanted)).effects
              simp only [Bridge.accept, heffects]
              cases hheld : b.registry.isHeld name <;> rw [hheld] at hleads <;> apply hleads
          | release name =>
              have hleads := leads_clearOverride hb name now
              have hanswer := b.registry.clearOverride_answer name now
              simp only [Bridge.accept, hanswer]
              cases hheld : b.registry.isHeld name <;> rw [hheld] at hleads <;> apply hleads
          | releaseAll =>
              have hleads := leads_clearAll hb now
              have hevents : (b.registry.overridden.map fun name =>
                  Effect.publish (.overrideReleased name)).filterMap Effect.event?
                  = b.registry.overridden.map .overrideReleased := by
                rw [List.filterMap_map, ← List.filterMap_eq_map]
                rfl
              rw [← hevents] at hleads
              apply hleads
          | goal text => apply hsame

/-! ### Whole runs -/

/-- An event that comes from elsewhere says nothing about the holds. -/
theorem Leads.of_publisher {before after : Registry Nat} (hbefore : Table.Ordered before)
    (hafter : Table.Ordered after) (h : ∀ name, after.isHeld name = before.isHeld name)
    {events : List Event} (hevents : ∀ e ∈ events, e.publisher ≠ .orders) :
  Leads before after events
  := by
  have hstays (held : Finset String) (events : List Event)
      (hevents : ∀ e ∈ events, e.publisher ≠ .orders) : toldFrom held events = held := by
    induction events generalizing held with
    | nil => rfl
    | cons e rest ih =>
        have hfirst : e.holds held = held := by
          cases e with
          | overrideEngaged | overrideReleased => apply absurd rfl (hevents _ List.mem_cons_self)
          | connection | liveness | telemetry | settingsSaved | settingsFailed
          | commandRejected => rfl
        rw [toldFrom, List.foldl_cons, hfirst]
        apply ih
        intro e' he'
        apply hevents e' (List.mem_cons_of_mem e he')
  constructor
  · rintro front e back rfl
    have he := hevents e (by simp)
    cases e with
    | overrideEngaged | overrideReleased => apply absurd rfl he
    | connection | liveness | telemetry | settingsSaved | settingsFailed
    | commandRejected => trivial
  · rw [hstays _ _ hevents]
    apply (Leads.nil hbefore hafter h).told

/-- Runs of events that lead from one registry to the next lead from the first to the last. -/
theorem Leads.append {first second third : Registry Nat} {events more : List Event}
    (h : Leads first second events) (h' : Leads second third more) :
  Leads first third (events ++ more)
  := by
  have hnews := h'.news
  rw [← h.told] at hnews
  constructor
  · apply h.news.append hnews
  · rw [toldFrom_append, h.told, h'.told]

namespace Service

/-- Unless a reply arrives, nothing is done to the registry but to apply readings. -/
theorem registry_step (s : Service) (now : Nat) {x : ServiceInput}
    (hx : x.publisher? ≠ some .orders) :
  ∃ readings, (s.step now x).1.bridge.registry = s.bridge.registry.applyReadings readings now
  := by
  cases x with
  | start =>
      use []
      rw [step_start]
      split <;> rfl
  | halt =>
      use []
      simp only [step]
      split <;> rfl
  | channel | submit =>
      use []
      rw [s.step_of_drivesChannel now rfl]
      rfl
  | take =>
      simp only [step]
      split
      · next signal rest _ =>
          cases signal with
          | state state => use []; rfl
          | inbound frame =>
              simp only [act]
              split
              · use []
                simp only [feed]
                split <;> rfl
              · use frame.readings
              · use []; rfl
              · use []; rfl
      · use []; rfl
  | pass =>
      use []
      simp only [step]
      split <;> rfl
  | beat =>
      use []
      simp only [step]
      split <;> rfl
  | tick | order | settings => use []; rfl
  | reply order reply => apply absurd rfl hx

/-- What is published when a part of the bridge goes on leads to the holds that are then there. -/
theorem leads_step {s : Service} (h : Table.Ordered s.bridge.registry) (now : Nat)
    (x : ServiceInput) :
  Table.Ordered (s.step now x).1.bridge.registry
    ∧ Leads s.bridge.registry (s.step now x).1.bridge.registry
      ((s.step now x).2.filterMap Effect.event?)
  := by
  by_cases hx : x.publisher? = some .orders
  · cases x with
    | reply order reply =>
        simp only [step]
        split
        · next n o _ => exact ⟨Bridge.ordered_finish h now o reply, leads_finish h now o reply⟩
        · exact ⟨h, Leads.nil h h fun _ => rfl⟩
    | start | halt | channel | submit | take | pass | beat | tick | order | settings => cases hx
  · obtain ⟨readings, hreadings⟩ := s.registry_step now hx
    have hordered := Registry.ordered_applyReadings now h readings
    rw [← hreadings] at hordered
    use hordered
    apply Leads.of_publisher h hordered
    · intro name
      rw [hreadings, Registry.isHeld_applyReadings]
    · intro e he hpublisher
      obtain ⟨effect, heffect, heq⟩ := List.mem_filterMap.mp he
      cases effect with
      | publish e' =>
          obtain rfl := Option.some.inj heq
          apply hx
          rw [publisher_of_mem_step heffect, hpublisher]
      | count counter => cases heq

/-- In every run of a bridge, with orders and replies in whatever order and readings in between, the
holds that the events tell of are those of the registry; and every event that tells of a hold or of
a release is news by the events before it. -/
theorem told_eq_overridden (debounce window delay : Nat) (inputs : List (Nat × ServiceInput)) :
  let done := (ofBridge (Bridge.unstarted debounce window delay)).run inputs
  let events := done.2.filterMap Effect.event?
  told events = done.1.bridge.registry.overridden.toFinset
    ∧ ∀ front e back, events = front ++ e :: back → e.IsNews (told front)
  := by
  let s := ofBridge (Bridge.unstarted debounce window delay)
  have hrun : Table.Ordered (s.run inputs).1.bridge.registry
      ∧ Leads s.bridge.registry (s.run inputs).1.bridge.registry
        ((s.run inputs).2.filterMap Effect.event?) := by
    induction inputs using List.reverseRecOn with
    | nil => exact ⟨Table.ordered_nil, Leads.nil Table.ordered_nil Table.ordered_nil fun _ => rfl⟩
    | append_singleton inputs input ih =>
        obtain ⟨now, x⟩ := input
        obtain ⟨hordered, hleads⟩ := ih
        obtain ⟨hordered', hleads'⟩ := leads_step hordered now x
        rw [run_append_singleton, List.filterMap_append]
        exact ⟨hordered', hleads.append hleads'⟩
  exact ⟨hrun.2.told, hrun.2.news⟩

end Service

end Greenhouse
