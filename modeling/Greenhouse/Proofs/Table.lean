import Greenhouse.Data.Table
import Mathlib.Tactic.Common

/-!
# What a table says about a name

Every operation on tables is determined by what `Table.find?` answers after it.  `Table.put`,
`Table.erase` and `Table.mapValues` keep the order of the names, and in an ordered table the
entries are exactly the answers of `Table.find?`.
-/

namespace Greenhouse.Table

variable {α : Type}

/-! ### Answers -/

@[simp]
theorem find?_nil (name : String) :
  find? name ([] : Table α) = none
  := rfl

/-- After `put`, the name has the value, and the others have what they had. -/
theorem find?_put (name : String) (value : α) (t : Table α) (other : String) :
  find? other (put name value t) = if name = other then some value else find? other t
  := by
  induction t with
  | nil => simp [put, find?]
  | cons entry rest ih =>
      obtain ⟨k, v⟩ := entry
      simp only [put]
      by_cases hk : name = k
      · subst hk
        by_cases ho : name = other
        · simp [find?, ho]
        · simp [find?, ho]
      · by_cases hlt : name < k
        · simp [find?, hk, hlt]
        · rw [if_neg hk, if_neg hlt]
          simp only [find?, ih]
          by_cases ho : name = other
          · have hko : ¬ k = other := fun h => hk (ho.trans h.symm)
            simp [ho, hko]
          · simp [ho]

@[simp]
theorem find?_put_self (name : String) (value : α) (t : Table α) :
  find? name (put name value t) = some value
  := by
  rw [find?_put, if_pos rfl]

/-- After `erase`, the name has no value, and the others have what they had. -/
theorem find?_erase (name : String) (t : Table α) (other : String) :
  find? other (erase name t) = if name = other then none else find? other t
  := by
  induction t with
  | nil => simp [erase]
  | cons entry rest ih =>
      obtain ⟨k, v⟩ := entry
      simp only [erase, List.filter_cons, find?] at ih ⊢
      by_cases hk : k = name
      · subst hk
        by_cases ho : k = other
        · simpa [ho] using ih
        · simpa [ho] using ih
      · by_cases ho : k = other
        · subst ho
          have hno : ¬ name = k := fun h => hk h.symm
          simp [hk, hno, find?]
        · simpa [hk, ho, find?] using ih

theorem mem_of_find? {t : Table α} {name : String} {value : α} (h : find? name t = some value) :
  (name, value) ∈ t
  := by
  induction t with
  | nil => nomatch h
  | cons entry rest ih =>
      rw [find?] at h
      split at h
      · next heq =>
          obtain rfl := Option.some.inj h
          rw [← heq]
          apply List.mem_cons_self
      · apply List.mem_cons_of_mem entry (ih h)

@[simp]
theorem find?_mapValues {β : Type} (f : α → β) (t : Table α) (name : String) :
  find? name (mapValues f t) = (find? name t).map f
  := by
  induction t with
  | nil => rfl
  | cons entry rest ih =>
      obtain ⟨k, v⟩ := entry
      simp only [mapValues, List.map_cons, find?] at ih ⊢
      by_cases hk : k = name
      · simp [hk]
      · simpa [hk] using ih

/-! ### Order -/

theorem ordered_nil :
  Ordered ([] : Table α)
  := by
  simp [Ordered, names]

theorem ordered_cons {k : String} {v : α} {t : Table α} :
  Ordered ((k, v) :: t) ↔ (∀ name ∈ names t, k < name) ∧ Ordered t
  := by
  simp [Ordered, names]

/-- The names after `put` are those before and the new one. -/
theorem mem_names_put {name : String} {value : α} {t : Table α} {other : String} :
  other ∈ names (put name value t) ↔ other = name ∨ other ∈ names t
  := by
  induction t with
  | nil => simp [put, names]
  | cons entry rest ih =>
      obtain ⟨k, v⟩ := entry
      simp only [put]
      by_cases hk : name = k
      · simp [hk, names]
      · by_cases hlt : name < k
        · simp [hk, hlt, names]
        · rw [if_neg hk, if_neg hlt]
          simp only [names, List.map_cons, List.mem_cons] at ih ⊢
          rw [ih]
          apply or_left_comm

theorem ordered_put (name : String) (value : α) {t : Table α} (h : Ordered t) :
  Ordered (put name value t)
  := by
  induction t with
  | nil => simp [put, Ordered, names]
  | cons entry rest ih =>
      obtain ⟨k, v⟩ := entry
      obtain ⟨hfirst, hrest⟩ := ordered_cons.mp h
      simp only [put]
      by_cases hk : name = k
      · rw [if_pos hk, hk]
        apply ordered_cons.mpr ⟨hfirst, hrest⟩
      · by_cases hlt : name < k
        · rw [if_neg hk, if_pos hlt]
          apply ordered_cons.mpr
          constructor
          · intro other hother
            simp only [names, List.map_cons, List.mem_cons] at hother
            obtain rfl | hother := hother
            · apply hlt
            · apply String.lt_trans hlt (hfirst other hother)
          · apply h
        · rw [if_neg hk, if_neg hlt]
          apply ordered_cons.mpr
          constructor
          · intro other hother
            obtain rfl | hother := mem_names_put.mp hother
            · obtain hlt' | heq | hgt := Std.lt_trichotomy other k
              · contradiction
              · contradiction
              · apply hgt
            · apply hfirst other hother
          · apply ih hrest

theorem ordered_filter (p : String × α → Bool) {t : Table α} (h : Ordered t) :
  Ordered (t.filter p)
  := by
  apply List.Pairwise.sublist _ h
  apply List.Sublist.map
  apply List.filter_sublist

theorem ordered_erase (name : String) {t : Table α} (h : Ordered t) :
  Ordered (erase name t)
  := ordered_filter _ h

theorem ordered_mapValues {β : Type} (f : α → β) {t : Table α} (h : Ordered t) :
  Ordered (mapValues f t)
  := by
  simpa [Ordered, names, mapValues, Function.comp_def] using h

/-- In an ordered table, an entry is what its name finds. -/
theorem mem_iff_find? {t : Table α} (h : Ordered t) {name : String} {value : α} :
  (name, value) ∈ t ↔ find? name t = some value
  := by
  induction t with
  | nil => simp
  | cons entry rest ih =>
      obtain ⟨k, v⟩ := entry
      obtain ⟨hfirst, hrest⟩ := ordered_cons.mp h
      simp only [List.mem_cons, Prod.mk.injEq, find?]
      by_cases hk : k = name
      · subst hk
        have hnot : (k, value) ∉ rest := by
          intro hmem
          apply String.lt_irrefl k
          apply hfirst
          apply List.mem_map.mpr ⟨_, hmem, rfl⟩
        simp [hnot, eq_comm]
      · rw [if_neg hk, ← ih hrest]
        simp [Ne.symm hk]

theorem nodup_names {t : Table α} (h : Ordered t) :
  (names t).Nodup
  := by
  apply List.Pairwise.imp _ h
  rintro name _ hlt rfl
  apply String.lt_irrefl name hlt

theorem nodup_of_ordered {t : Table α} (h : Ordered t) :
  t.Nodup
  := by
  apply List.Pairwise.imp _ (List.pairwise_map.mp h)
  rintro entry _ hlt rfl
  apply String.lt_irrefl entry.1 hlt

/-- Ordered tables that say the same about every name are equal. -/
theorem eq_of_find? {t t' : Table α} (h : Ordered t) (h' : Ordered t')
    (hfind : ∀ name, find? name t = find? name t') :
  t = t'
  := by
  have hperm : t.Perm t' := by
    apply (List.perm_ext_iff_of_nodup (nodup_of_ordered h) (nodup_of_ordered h')).mpr
    rintro ⟨name, value⟩
    rw [mem_iff_find? h, mem_iff_find? h', hfind]
  apply hperm.eq_of_pairwise _ (List.pairwise_map.mp h) (List.pairwise_map.mp h')
  intro entry entry' _ _ hlt hgt
  apply absurd (String.lt_trans hlt hgt) (String.lt_irrefl _)

/-- The names of the entries that pass a test on values. -/
theorem mem_names_filter {t : Table α} (h : Ordered t) (p : α → Bool) {name : String} :
  name ∈ names (t.filter fun (_, v) => p v) ↔ (find? name t).any p
  := by
  constructor
  · intro hname
    obtain ⟨⟨k, v⟩, hmem, rfl⟩ := List.mem_map.mp hname
    obtain ⟨hmem, hp⟩ := List.mem_filter.mp hmem
    rw [(mem_iff_find? h).mp hmem]
    apply hp
  · intro hany
    obtain ⟨v, hv, hp⟩ := (Option.any_eq_true _ _).mp hany
    apply List.mem_map.mpr
    use (name, v), List.mem_filter.mpr ⟨(mem_iff_find? h).mpr hv, hp⟩

/-! ### Entries in a row -/

theorem mem_put {name : String} {value : α} {t : Table α} {entry : String × α}
    (h : entry ∈ put name value t) :
  entry = (name, value) ∨ entry ∈ t
  := by
  induction t with
  | nil =>
      left
      apply List.mem_singleton.mp h
  | cons first rest ih =>
      obtain ⟨k, v⟩ := first
      rw [put] at h
      split at h
      · obtain h | h := List.mem_cons.mp h
        · left
          apply h
        · right
          apply List.mem_cons_of_mem _ h
      · split at h
        · apply List.mem_cons.mp h
        · obtain rfl | h := List.mem_cons.mp h
          · right
            apply List.mem_cons_self
          · obtain h | h := ih h
            · left
              apply h
            · right
              apply List.mem_cons_of_mem _ h

/-- A name above all others comes last. -/
theorem put_of_above {name : String} {t : Table α} (h : ∀ other ∈ names t, other < name)
    (value : α) :
  put name value t = t ++ [(name, value)]
  := by
  induction t with
  | nil => rfl
  | cons first rest ih =>
      obtain ⟨k, v⟩ := first
      have hk : k < name := h k List.mem_cons_self
      have hne : name ≠ k := by
        rintro rfl
        apply String.lt_irrefl _ hk
      have hlt : ¬ name < k := fun hlt => String.lt_irrefl _ (String.lt_trans hk hlt)
      have hrest : ∀ other ∈ names rest, other < name := by
        intro other hother
        apply h other (List.mem_cons_of_mem k hother)
      rw [put, if_neg hne, if_neg hlt, ih hrest, List.cons_append]

/-- The table with the values for some names, one after another. -/
def putAll (t : Table α) (entries : List (String × α)) : Table α :=
  entries.foldl (fun t (name, value) => put name value t) t

/-- Entries that are in order already are put behind each other. -/
theorem putAll_of_ordered {t entries : Table α} (h : Ordered (t ++ entries)) :
  putAll t entries = t ++ entries
  := by
  induction entries generalizing t with
  | nil => rw [List.append_nil]; rfl
  | cons entry rest ih =>
      obtain ⟨name, value⟩ := entry
      have habove : ∀ other ∈ names t, other < name := by
        rw [Ordered, names, List.map_append] at h
        intro other hother
        apply (List.pairwise_append.mp h).2.2 other hother name List.mem_cons_self
      rw [List.append_cons] at h ⊢
      rw [← ih h, ← put_of_above habove value]
      rfl

theorem find?_eq_none_iff {t : List (String × α)} {name : String} :
  find? name t = none ↔ name ∉ t.map Prod.fst
  := by
  induction t with
  | nil => simp
  | cons entry rest ih =>
      obtain ⟨k, v⟩ := entry
      rw [find?, List.map_cons, List.mem_cons, not_or, ← ih]
      by_cases hk : k = name
      · simp [hk]
      · simp [hk, Ne.symm hk]

/-- Among entries whose names differ, an entry is what its name finds. -/
theorem find?_eq_some_iff {t : List (String × α)} (h : (t.map Prod.fst).Nodup) {name : String}
    {value : α} :
  find? name t = some value ↔ (name, value) ∈ t
  := by
  induction t with
  | nil => simp
  | cons entry rest ih =>
      obtain ⟨k, v⟩ := entry
      obtain ⟨hnew, hrest⟩ := List.nodup_cons.mp h
      rw [find?, List.mem_cons, ← ih hrest]
      by_cases hk : k = name
      · subst hk
        simp [find?_eq_none_iff.mpr hnew, eq_comm]
      · simp [hk, Ne.symm hk]

theorem find?_append (name : String) (t t' : Table α) :
  find? name (t ++ t') = (find? name t).or (find? name t')
  := by
  induction t with
  | nil => rfl
  | cons entry rest ih =>
      obtain ⟨k, v⟩ := entry
      rw [List.cons_append, find?, find?]
      split
      · rfl
      · apply ih

/-- Of two entries of one name the last one counts. -/
theorem find?_putAll_reverse (entries : List (String × α)) (t : Table α) (name : String) :
  find? name (putAll t entries) = (find? name entries.reverse).or (find? name t)
  := by
  induction entries generalizing t with
  | nil => rfl
  | cons entry rest ih =>
      obtain ⟨k, v⟩ := entry
      change find? name (putAll (put k v t) rest) = _
      rw [ih, find?_put, List.reverse_cons, find?_append, Option.or_assoc, find?]
      split <;> rfl

theorem find?_putAll {entries : List (String × α)} (h : (entries.map Prod.fst).Nodup) (t : Table α)
    (name : String) :
  find? name (putAll t entries) = (find? name entries).or (find? name t)
  := by
  induction entries generalizing t with
  | nil => rfl
  | cons entry rest ih =>
      obtain ⟨k, v⟩ := entry
      obtain ⟨hnew, hrest⟩ := List.nodup_cons.mp h
      change find? name (putAll (put k v t) rest) = _
      rw [ih hrest, find?_put, find?]
      by_cases hk : k = name
      · subst hk
        have hnone : find? k rest = none := by
          cases hfind : find? k rest with
          | none => rfl
          | some v' => apply absurd (List.mem_map.mpr ⟨_, mem_of_find? hfind, rfl⟩) hnew
        simp [hnone]
      · simp [hk]

end Greenhouse.Table
