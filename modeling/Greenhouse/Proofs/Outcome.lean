import Mathlib.Tactic.Common

/-!
# Outcomes

What is known of the parts when a computation that may fail has succeeded.
-/

namespace Greenhouse

section
variable {ε α β : Type}

theorem bind_eq_ok {x : Except ε α} {f : α → Except ε β} {b : β} :
  (x >>= f) = .ok b ↔ ∃ a, x = .ok a ∧ f a = .ok b
  := by
  cases x with
  | error e => constructor <;> nofun
  | ok a =>
      constructor
      · intro h
        use a, rfl, h
      · rintro ⟨_, ⟨⟩, h⟩
        apply h

theorem map_eq_ok {x : Except ε α} {f : α → β} {b : β} :
  x.map f = .ok b ↔ ∃ a, x = .ok a ∧ f a = b
  := by
  cases x with
  | error e => constructor <;> nofun
  | ok a =>
      constructor
      · intro h
        use a, rfl, Except.ok.inj h
      · rintro ⟨_, ⟨⟩, rfl⟩
        rfl

theorem mapError_eq_ok {δ : Type} {f : ε → δ} {x : Except ε α} {a : α} :
  x.mapError f = .ok a ↔ x = .ok a
  := by
  cases x with
  | error e => constructor <;> nofun
  | ok b =>
      constructor
      · intro h
        rw [Except.ok.inj h]
      · rintro ⟨⟩
        rfl

end

end Greenhouse
