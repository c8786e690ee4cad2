import Greenhouse.Proofs.Registry.History
import Greenhouse.Proofs.Registry.Times

/-!
# Releasing all actuators, or each of them

The operator gives all actuators back at once, or one after another.  `Registry.clearEach` is the
latter, with a time for every release.  The main statement is that, for the actuators that are held,
whatever the order, both come to the same registry, but for the time that the actuators are stamped
with.
-/

namespace Greenhouse

variable {τ : Type}

/-- A release changes nothing about an actuator that has been released. -/
theorem Actuator.freed_freed (a : Actuator τ) (now later : τ) :
  (a.freed now).freed later = a.freed now
  := by
  apply if_neg
  rw [held_freed]
  nofun

/-- Whenever an actuator was released, it can be stamped with another time. -/
theorem Actuator.restamp_freed {a : Actuator τ} (ha : a.held = true) (now later : τ) :
  (a.freed now).restamp later = a.freed later
  := by
  rw [freed_of_held ha, freed_of_held ha]
  rfl

namespace Registry

/-- The operator gives actuators back one after another, each at its time; for each of them,
whether it was held. -/
def clearEach (r : Registry τ) : List (String × τ) → Registry τ × List Bool
  | [] => (r, [])
  | (name, now) :: rest =>
    let (r, was) := r.clearOverride name now
    let (r, more) := r.clearEach rest
    (r, was :: more)

theorem ordered_clearEach {r : Registry τ} (h : Table.Ordered r) (releases : List (String × τ)) :
  Table.Ordered (r.clearEach releases).1
  := by
  induction releases generalizing r with
  | nil => apply h
  | cons first rest ih => apply ih (ordered_clearOverride h _ _)

/-- The first release of an actuator counts; the others are left as they are. -/
theorem find?_clearEach (r : Registry τ) (releases : List (String × τ)) (name : String) :
  Table.find? name (r.clearEach releases).1
    = match Table.find? name releases with
      | some now => (Table.find? name r).map fun a => a.freed now
      | none => Table.find? name r
  := by
  induction releases generalizing r with
  | nil => rfl
  | cons first rest ih =>
      obtain ⟨other, now⟩ := first
      change Table.find? name ((r.clearOverride other now).1.clearEach rest).1 = _
      rw [ih, find?_clearOverride, Table.find?]
      by_cases heq : other = name
      · subst heq
        cases Table.find? other rest with
        | none => simp
        | some later => simp [Function.comp_def, Actuator.freed_freed]
      · simp [heq]

/-- Of releases that name each actuator once, those are answered with yes that name one that is
held. -/
theorem clearEach_answers (r : Registry τ) {releases : List (String × τ)}
    (h : (releases.map Prod.fst).Nodup) :
  (r.clearEach releases).2 = releases.map fun (name, _) => r.isHeld name
  := by
  induction releases generalizing r with
  | nil => rfl
  | cons first rest ih =>
      obtain ⟨name, now⟩ := first
      obtain ⟨hnew, hrest⟩ := List.nodup_cons.mp h
      have hothers : ∀ release ∈ rest,
          (r.clearOverride name now).1.isHeld release.1 = r.isHeld release.1 := by
        intro release hrelease
        have hne : name ≠ release.1 := by
          rintro rfl
          apply hnew (List.mem_map.mpr ⟨release, hrelease, rfl⟩)
        rw [isHeld_clearOverride, decide_eq_false hne]
        rfl
      change (r.clearOverride name now).2 :: ((r.clearOverride name now).1.clearEach rest).2 = _
      rw [clearOverride_answer, ih _ hrest, List.map_cons, List.map_congr_left hothers]

section
variable {r : Registry τ} (h : Table.Ordered r)
include h

theorem nodup_overridden :
  r.overridden.Nodup
  := Table.nodup_names (Table.ordered_filter _ h)

theorem overridden_clearAll (now : τ) :
  (r.clearAll now).1.overridden = []
  := by
  apply List.eq_nil_iff_forall_not_mem.mpr
  intro name
  rw [mem_overridden (ordered_clearAll h now), isHeld_clearAll]
  nofun

/-- There is nothing left for a second release of all. -/
theorem clearAll_clearAll (now later : τ) :
  (r.clearAll now).1.clearAll later = ((r.clearAll now).1, [])
  := by
  have hafter := ordered_clearAll h now
  apply Prod.ext
  · apply Table.eq_of_find? (ordered_clearAll hafter later) hafter
    intro name
    rw [find?_clearAll, find?_clearAll]
    simp [Function.comp_def, Actuator.freed_freed]
  · apply overridden_clearAll h

/-- Releasing each actuator that is held is releasing all, but for the time stamped. -/
theorem restamp_clearEach {releases : List (String × τ)}
    (hreleases : (releases.map Prod.fst).Perm r.overridden) (now : τ) :
  (r.clearEach releases).1.restamp r.overridden now = (r.clearAll now).1
  := by
  apply Table.eq_of_find? (ordered_restamp (ordered_clearEach h _) _ _) (ordered_clearAll h now)
  intro name
  rw [find?_restamp, find?_clearEach, find?_clearAll]
  cases hfind : Table.find? name releases with
  | none =>
      have hname : name ∉ r.overridden := by
        rw [← hreleases.mem_iff]
        apply Table.find?_eq_none_iff.mp hfind
      have hfree : r.isHeld name = false := by
        apply Bool.eq_false_iff.mpr
        rwa [mem_overridden h] at hname
      simp [hname, Actuator.map_freed_of_free hfree]
  | some moment =>
      have hname : name ∈ r.overridden := by
        rw [← hreleases.mem_iff]
        apply List.mem_map.mpr ⟨_, Table.mem_of_find? hfind, rfl⟩
      obtain ⟨a, ha, hheld⟩ := (Option.any_eq_true _ _).mp ((mem_overridden h name).mp hname)
      simp [hname, ha, Actuator.restamp_freed hheld]

theorem clearEach_answers_of_perm {releases : List (String × τ)}
    (hreleases : (releases.map Prod.fst).Perm r.overridden) :
  (r.clearEach releases).2 = releases.map fun _ => true
  := by
  have hnodup : (releases.map Prod.fst).Nodup := hreleases.nodup_iff.mpr (nodup_overridden h)
  rw [clearEach_answers r hnodup]
  apply List.map_congr_left
  intro release hrelease
  apply (mem_overridden h _).mp
  rw [← hreleases.mem_iff]
  apply List.mem_map.mpr ⟨release, hrelease, rfl⟩

end

end Registry

/-- In every registry, releasing all actuators is releasing those that are held one after another,
in any order, but for the time that they are stamped with.  Each of these releases is answered with
yes.  The actuators that were not held are untouched, and nothing is left for a second release. -/
theorem RegistryHistory.clearAll_eq_clearEach (h : RegistryHistory τ) (now : τ) :
  let r := h.registry
  let after := (r.clearAll now).1
  let released := (r.clearAll now).2
  (released = r.overridden ∧ released.Pairwise (· < ·) ∧ ∀ name, name ∈ released ↔ r.isHeld name)
    ∧ (∀ releases : List (String × τ), (releases.map Prod.fst).Perm released →
      (r.clearEach releases).2 = releases.map (fun _ => true)
        ∧ (r.clearEach releases).1.restamp released now = after)
    ∧ after.overridden = []
    ∧ (∀ name, r.isHeld name = false → Table.find? name after = Table.find? name r)
    ∧ ∀ later, after.clearAll later = (after, [])
  := by
  intro r after released
  have hr : Table.Ordered r := h.ordered_registry
  constructor
  · use rfl, Registry.overridden_sorted hr, Registry.mem_overridden hr
  constructor
  · intro releases hreleases
    use Registry.clearEach_answers_of_perm hr hreleases
    apply Registry.restamp_clearEach hr hreleases
  constructor
  · apply Registry.overridden_clearAll hr
  constructor
  · intro name hfree
    rw [Registry.find?_clearAll, Actuator.map_freed_of_free hfree]
  · intro later
    apply Registry.clearAll_clearAll hr

/-- Two actuators are held, one of which has a reading to go back to, and a third one is not. -/
theorem RegistryHistory.clearAll_eq_clearEach_pumpAndLamp :
  let h : RegistryHistory Nat :=
    [(4, .telemetry "doser" (.switch true)), (3, .force "lamp" (.switch false)),
      (2, .telemetry "pump" (.switch false)), (1, .force "pump" (.switch true))]
  let releases : List (String × Nat) := [("pump", 7), ("lamp", 8)]
  let after : Registry Nat :=
    [("doser", ⟨false, .switch true, some (.switch true), 4, some 4⟩),
      ("lamp", ⟨false, .switch false, none, 9, none⟩),
      ("pump", ⟨false, .switch false, some (.switch false), 9, some 2⟩)]
  h.registry.clearAll 9 = (after, ["lamp", "pump"])
    ∧ (releases.map Prod.fst).Perm ["lamp", "pump"]
    ∧ (h.registry.clearEach releases).2 = [true, true]
    ∧ (h.registry.clearEach releases).1.restamp ["lamp", "pump"] 9 = after
  := by
  intro h releases after
  have hall : h.registry.clearAll 9 = (after, ["lamp", "pump"]) := by decide +kernel
  have hperm : (releases.map Prod.fst).Perm ["lamp", "pump"] := by decide
  have heach := (h.clearAll_eq_clearEach 9).2.1 releases
  simp only [hall] at heach
  exact ⟨hall, hperm, heach hperm⟩

end Greenhouse
