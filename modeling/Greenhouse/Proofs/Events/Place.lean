import Mathlib.Data.List.Basic
import Mathlib.Order.Bounds.Basic
import Greenhouse.Proofs.Console.Capacity

/-!
# Listeners and what is kept for them

A bus keeps the last events published, and every listener stands in front of one of them, or in
front of one that is no longer kept.  That is `EventBus.Sound` and `EventBus.StandsBefore`.  A
listener that is behind is told so once, and then takes the oldest event that is kept; nobody else
is moved by that.
-/

namespace Greenhouse.EventBus

variable {ε : Type}

/-- As many events are kept as the least power of two that is enough, and at least one. -/
theorem isLeast_roundUp (capacity : Nat) :
  IsLeast {n | max capacity 1 ≤ n ∧ ∃ k, n = 2 ^ k} (roundUp capacity)
  := by
  have hle (k : Nat) : roundUp capacity ≤ 2 ^ k ↔ capacity ≤ 2 ^ k := by
    rw [roundUp_le_iff (Nat.ne_of_gt (Nat.two_pow_pos k)), Nat.log2_two_pow]
  constructor
  · constructor
    · apply Nat.max_le_of_le_of_le
      · apply (hle _).mp (Nat.le_refl _)
      · apply Nat.one_le_two_pow
    · exact ⟨_, rfl⟩
  · rintro n ⟨henough, k, rfl⟩
    apply (hle k).mpr (Nat.le_trans (Nat.le_max_left _ _) henough)

/-! ### Places for listeners -/

section
variable {b : EventBus ε} {listener : Nat}

theorem cursor?_moveTo_of_ne {other : Nat} (h : other ≠ listener) (position : Nat) :
  (b.moveTo listener position).cursor? other = b.cursor? other
  := by
  unfold cursor? moveTo
  induction b.cursors with
  | nil => rfl
  | cons entry rest ih => by_cases hentry : entry.1 = other <;> simp_all

theorem moveTo_moveTo (first second : Nat) :
  (b.moveTo listener first).moveTo listener second = b.moveTo listener second
  := by
  unfold moveTo
  rw [List.map_map]
  congr 2
  funext entry
  by_cases h : entry.1 = listener <;> simp [h]

theorem cursor?_unsubscribe (b : EventBus ε) (listener other : Nat) :
  (b.unsubscribe listener).cursor? other
    = if listener = other then none else b.cursor? other
  := by
  unfold cursor? unsubscribe
  induction b.cursors with
  | nil => simp
  | cons entry rest ih =>
      by_cases h : entry.1 = listener
      · by_cases hother : listener = other <;> simp_all
      · by_cases hother : listener = other <;> by_cases hentry : entry.1 = other <;> simp_all

theorem cursor?_eq_none (h : ∀ entry ∈ b.cursors, entry.1 ≠ listener) :
  b.cursor? listener = none
  := by
  rw [cursor?, Option.map_eq_none_iff, List.find?_eq_none]
  intro entry hentry
  simpa using h entry hentry

theorem cursor?_subscribe (h : ∀ entry ∈ b.cursors, entry.1 < b.fresh) (other : Nat) :
  b.subscribe.1.cursor? other
    = if b.fresh = other then some b.sent else b.cursor? other
  := by
  unfold cursor? subscribe
  rw [List.find?_append]
  by_cases hother : b.fresh = other
  · have hnone : b.cursor? other = none := by
      apply cursor?_eq_none
      intro entry hentry
      have hlt := h entry hentry
      omega
    rw [cursor?, Option.map_eq_none_iff] at hnone
    simp [hnone, hother]
  · simp [hother]

end

/-! ### What is kept -/

/-- The events kept are the last ones published, as many as the limit says, and no listener has a
number that is still to be given. -/
structure Sound (b : EventBus ε) (all : List ε) : Prop where
  sent : b.sent = all.length
  held : b.held = all.drop (all.length - b.limit)
  below : ∀ entry ∈ b.cursors, entry.1 < b.fresh

/-- A listener stands in front of the last so many of the events published. -/
def StandsBefore (b : EventBus ε) (listener : Nat) (all unread : List ε) : Prop :=
  ∃ before, all = before ++ unread ∧ b.cursor? listener = some before.length

section
variable {b : EventBus ε} {all : List ε} {listener : Nat}

theorem sound_ofCapacity (capacity : Nat) :
  (ofCapacity capacity : EventBus ε).Sound []
  where
  sent := rfl
  held := List.drop_nil.symm
  below := nofun

theorem Sound.publish (h : b.Sound all) (hlisteners : b.cursors ≠ []) (e : ε) :
  (b.publish e).Sound (all ++ [e])
  := by
  have hpublish : b.publish e
      = { b with
          sent := b.sent + 1
          held := (b.held ++ [e]).drop ((b.held ++ [e]).length - b.limit) } := by
    rw [EventBus.publish, if_neg (by simpa using hlisteners)]
  rw [hpublish]
  constructor
  · change b.sent + 1 = _
    rw [h.sent, List.length_append, List.length_singleton]
  · have hgone : all.length - b.limit ≤ all.length := Nat.sub_le _ _
    change (b.held ++ [e]).drop ((b.held ++ [e]).length - b.limit) = _
    rw [h.held, ← List.drop_append_of_le_length hgone, List.drop_drop]
    congr 1
    simp only [List.length_drop, List.length_append, List.length_singleton]
    omega
  · apply h.below

theorem Sound.subscribe (h : b.Sound all) :
  b.subscribe.1.Sound all
  where
  sent := h.sent
  held := h.held
  below := by
    intro entry hentry
    obtain hold | hnew := List.mem_append.mp hentry
    · apply Nat.lt_succ_of_lt (h.below entry hold)
    · rw [List.mem_singleton.mp hnew]
      apply Nat.lt_succ_self

theorem Sound.unsubscribe (h : b.Sound all) (listener : Nat) :
  (b.unsubscribe listener).Sound all
  where
  sent := h.sent
  held := h.held
  below := fun entry hentry => h.below entry (List.mem_of_mem_filter hentry)

theorem Sound.moveTo (h : b.Sound all) (listener position : Nat) :
  (b.moveTo listener position).Sound all
  where
  sent := h.sent
  held := h.held
  below := by
    intro entry hentry
    obtain ⟨old, hold, rfl⟩ := List.mem_map.mp hentry
    apply h.below old hold

theorem Sound.oldest (h : b.Sound all) :
  b.oldest = all.length - b.limit
  := by
  rw [EventBus.oldest, h.sent, h.held, List.length_drop]
  omega

/-! ### Taking an event -/

theorem look_of_none (h : b.cursor? listener = none) :
  b.look listener = (b, .nothing)
  := by rw [look, h]

/-- A listener that is not behind sees the event in front of which it stands. -/
theorem Sound.look_of_le (h : b.Sound all) {next : Nat} (hcursor : b.cursor? listener = some next)
    (hkept : all.length - b.limit ≤ next) :
  b.look listener
    = all[next]?.elim (b, .nothing) fun e => (b.moveTo listener (next + 1), .event e)
  := by
  have hevent : b.held[next - b.oldest]? = all[next]? := by
    rw [h.held, List.getElem?_drop, h.oldest, Nat.add_sub_cancel' hkept]
  simp only [look, hcursor]
  rw [h.oldest, if_neg (Nat.not_lt_of_le hkept), ← h.oldest, hevent]
  cases all[next]? <;> rfl

/-- A listener that is behind is told by how much, and stands in front of the oldest event
kept. -/
theorem Sound.look_of_lt (h : b.Sound all) {next : Nat} (hcursor : b.cursor? listener = some next)
    (hgone : next < all.length - b.limit) :
  b.look listener
    = (b.moveTo listener (all.length - b.limit), .missed (all.length - b.limit - next))
  := by
  simp only [look, hcursor]
  rw [h.oldest, if_pos hgone]

theorem receive_eq (b : EventBus ε) (listener : Nat) :
  b.receive listener
    = match b.look listener with
      | (after, .event e) => (after, some e)
      | (after, .nothing) => (after, none)
      | (after, .missed _) => after.receive listener
  := by
  rw [receive]
  split <;> next heq => rw [heq]

theorem receive_of_none (h : b.cursor? listener = none) :
  b.receive listener = (b, none)
  := by rw [receive_eq, look_of_none h]

theorem look_fst (b : EventBus ε) (listener : Nat) :
  (b.look listener).1 = b ∨ ∃ position, (b.look listener).1 = b.moveTo listener position
  := by
  unfold look
  split
  · left; rfl
  · split
    · right; exact ⟨_, rfl⟩
    · split
      · right; exact ⟨_, rfl⟩
      · left; rfl

/-- Taking an event moves the one who takes it, or nobody. -/
theorem receive_fst (b : EventBus ε) (listener : Nat) :
  (b.receive listener).1 = b ∨ ∃ position, (b.receive listener).1 = b.moveTo listener position
  := by
  fun_induction b.receive listener with
  | case1 b after e heq | case2 b after heq =>
      have hlook := look_fst b listener
      rw [heq] at hlook
      apply hlook
  | case3 b after count heq ih =>
      have hlook := look_fst b listener
      rw [heq] at hlook
      obtain rfl | ⟨first, rfl⟩ := hlook
      · apply ih
      · right
        obtain hsame | ⟨second, hmoved⟩ := ih
        · use first, hsame
        · use second
          rw [hmoved, moveTo_moveTo]

theorem limit_receive (b : EventBus ε) (listener : Nat) :
  (b.receive listener).1.limit = b.limit
  := by obtain hsame | ⟨position, hmoved⟩ := receive_fst b listener <;> simp [*, moveTo]

theorem fresh_receive (b : EventBus ε) (listener : Nat) :
  (b.receive listener).1.fresh = b.fresh
  := by obtain hsame | ⟨position, hmoved⟩ := receive_fst b listener <;> simp [*, moveTo]

theorem cursor?_receive_of_ne (b : EventBus ε) {listener other : Nat} (h : other ≠ listener) :
  (b.receive listener).1.cursor? other = b.cursor? other
  := by
  obtain hsame | ⟨position, hmoved⟩ := receive_fst b listener
  · rw [hsame]
  · rw [hmoved, cursor?_moveTo_of_ne h]

theorem Sound.received (h : b.Sound all) (listener : Nat) :
  (b.receive listener).1.Sound all
  := by
  obtain hsame | ⟨position, hmoved⟩ := receive_fst b listener
  · rw [hsame]
    apply h
  · rw [hmoved]
    apply h.moveTo

section
variable {unread : List ε} (hstands : b.StandsBefore listener all unread) (h : b.Sound all)
include hstands h

theorem StandsBefore.lt_fresh :
  listener < b.fresh
  := by
  obtain ⟨before, _, hcursor⟩ := hstands
  obtain ⟨place, hplace, _⟩ := Option.map_eq_some_iff.mp hcursor
  have hnumber : place.1 = listener := by simpa using List.find?_some hplace
  rw [← hnumber]
  apply h.below place (List.mem_of_find?_eq_some hplace)

/-- A listener in front of unread events takes the first one, or, if they are more than are kept,
the oldest one that is. -/
theorem StandsBefore.receive_eq (hlimit : 0 < b.limit) :
  b.receive listener
    = unread[unread.length - b.limit]?.elim (b, none) fun e =>
      (b.moveTo listener (all.length - unread.length + (unread.length - b.limit) + 1), some e)
  := by
  obtain ⟨before, hall, hcursor⟩ := hstands
  have hlength : all.length = before.length + unread.length := by rw [hall, List.length_append]
  have hevent (i : Nat) : all[before.length + i]? = unread[i]? := by
    rw [hall, List.getElem?_append_right (Nat.le_add_right _ _), Nat.add_sub_cancel_left]
  have hplace : all.length - unread.length = before.length := by omega
  rw [hplace]
  by_cases hgone : unread.length ≤ b.limit
  · have hlook := h.look_of_le hcursor (by omega)
    have hfirst := hevent 0
    rw [Nat.add_zero] at hfirst
    rw [EventBus.receive_eq, hlook, hfirst, Nat.sub_eq_zero_of_le hgone]
    cases unread[0]? <;> rfl
  · have holdest : all.length - b.limit = before.length + (unread.length - b.limit) := by omega
    have hlook := h.look_of_lt hcursor (by omega)
    have hmoved : (b.moveTo listener (all.length - b.limit)).cursor? listener
        = some (all.length - b.limit) := by
      rw [cursor?_moveTo, hcursor]
      rfl
    have hagain := (h.moveTo listener (all.length - b.limit)).look_of_le hmoved (Nat.le_refl _)
    have hsome : unread.length - b.limit < unread.length := by omega
    rw [EventBus.receive_eq, hlook]
    simp only
    rw [EventBus.receive_eq, hagain, holdest, hevent, moveTo_moveTo,
      List.getElem?_eq_getElem hsome]
    rfl

theorem StandsBefore.receive_snd (hlimit : 0 < b.limit) :
  (b.receive listener).2 = unread[unread.length - b.limit]?
  := by
  rw [hstands.receive_eq h hlimit]
  cases unread[unread.length - b.limit]? <;> rfl

/-- Then it stands behind that event. -/
theorem StandsBefore.received (hlimit : 0 < b.limit) :
  (b.receive listener).1.StandsBefore listener all
    (unread.drop (unread.length - b.limit + 1))
  := by
  rw [hstands.receive_eq h hlimit]
  obtain ⟨before, hall, hcursor⟩ := hstands
  have hlength : all.length = before.length + unread.length := by rw [hall, List.length_append]
  cases hnext : unread[unread.length - b.limit]? with
  | none =>
      -- nothing is unread, as something is kept
      have hle := List.getElem?_eq_none_iff.mp hnext
      have hunread : unread = [] := List.eq_nil_of_length_eq_zero (by omega)
      subst hunread
      use before, hall, hcursor
  | some e =>
      have hlt := (List.getElem?_eq_some_iff.mp hnext).1
      use before ++ unread.take (unread.length - b.limit + 1)
      constructor
      · rw [List.append_assoc, List.take_append_drop, hall]
      · change (b.moveTo listener _).cursor? listener = _
        rw [cursor?_moveTo, hcursor, Option.map_some, List.length_append, List.length_take]
        congr 1
        omega

/-- Of more unread events than are kept, the last ones are kept. -/
theorem StandsBefore.held_of_lt (hgone : b.limit < unread.length) :
  b.held = unread.drop (unread.length - b.limit)
  := by
  obtain ⟨before, hall, _⟩ := hstands
  have hlength : all.length - b.limit = before.length + (unread.length - b.limit) := by
    rw [hall, List.length_append]
    omega
  rw [h.held, hlength, ← List.drop_drop, hall, List.drop_left]

/-- A listener that is told that it is behind is told by how much, and once. -/
theorem StandsBefore.count_of_missed {after : EventBus ε} {count : Nat}
    (hlook : b.look listener = (after, .missed count)) :
  count = unread.length - b.limit ∧ ∀ again, (after.look listener).2 ≠ .missed again
  := by
  obtain ⟨before, hall, hcursor⟩ := hstands
  obtain ⟨hcount, _, hafter⟩ := lag_of_look hlook
  constructor
  · rw [hcount, lag, hcursor]
    change b.oldest - before.length = _
    rw [h.oldest, hall, List.length_append]
    omega
  · intro again hagain
    obtain ⟨hmore, hpos, _⟩ := lag_of_look (Prod.ext rfl hagain)
    omega

end

end

end Greenhouse.EventBus
