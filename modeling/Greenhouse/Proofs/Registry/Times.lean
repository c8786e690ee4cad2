import Greenhouse.Proofs.Registry.Step

/-!
# Registries that differ in times only

Two registries that are the same but for some times are compared by giving both the same times.
`Registry.restamp` does this for the last change of some actuators, and `Registry.timeless` forgets
every time; what is left of a reading's time is whether there is one.
-/

namespace Greenhouse

variable {τ : Type}

/-- The actuator with another time of its last change. -/
def Actuator.restamp (a : Actuator τ) (now : τ) : Actuator τ := { a with updated := now }

/-- The actuator without its times. -/
def Actuator.timeless (a : Actuator τ) : Actuator Unit :=
  { a with updated := (), seen := a.seen.map fun _ => () }

namespace Registry

/-- The registry with another time of the last change for some actuators. -/
def restamp (r : Registry τ) (names : List String) (now : τ) : Registry τ :=
  r.map fun (name, a) => (name, if name ∈ names then a.restamp now else a)

/-- The registry without its times. -/
def timeless (r : Registry τ) : Registry Unit := Table.mapValues Actuator.timeless r

theorem find?_restamp (r : Registry τ) (names : List String) (now : τ) (name : String) :
  Table.find? name (r.restamp names now)
    = (Table.find? name r).map fun a => if name ∈ names then a.restamp now else a
  := by
  induction r with
  | nil => rfl
  | cons entry rest ih =>
      obtain ⟨k, a⟩ := entry
      simp only [restamp, List.map_cons, Table.find?] at ih ⊢
      by_cases hk : k = name
      · simp [hk]
      · simpa [hk] using ih

theorem ordered_restamp {r : Registry τ} (h : Table.Ordered r) (names : List String) (now : τ) :
  Table.Ordered (r.restamp names now)
  := by
  simpa [Table.Ordered, Table.names, restamp, Function.comp_def] using h

/-- Registries that say the same about every name but for times are the same but for times. -/
theorem timeless_eq {r r' : Registry τ} (h : Table.Ordered r) (h' : Table.Ordered r')
    (hfind : ∀ name, (Table.find? name r).map Actuator.timeless
      = (Table.find? name r').map Actuator.timeless) :
  r.timeless = r'.timeless
  := by
  apply Table.eq_of_find? (Table.ordered_mapValues _ h) (Table.ordered_mapValues _ h')
  intro name
  rw [Table.find?_mapValues, Table.find?_mapValues, hfind]

end Registry

end Greenhouse
