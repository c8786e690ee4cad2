import Greenhouse.Proofs.Json.Integer
import Greenhouse.Proofs.Table

/-!
# Documents

What a text is read as has its integers within 64 bits, the members of its objects in order, and no
more arrays and objects within each other than there was room for: it fits, in the sense of
`Json.Fits`.  It is legible when its numbers are, that is, when the text of each of them is read as
the number.
-/

namespace Greenhouse

/-- The text of a number is read as the number. -/
def Double.Legible (d : Double) : Prop := Json.parse d.encode = .ok (.float d)

namespace Json

/-! ### What is read -/

/-- A document has integers of 64 bits only, the members of its objects stand in order, and it has
at most so many arrays and objects within each other. -/
def Fits : Nat → Json → Prop
  | 0, .arr _ | 0, .obj _ => False
  | room + 1, .arr items => ∀ v ∈ items, Fits room v
  | room + 1, .obj members => Table.Ordered members ∧ ∀ member ∈ members, Fits room member.2
  | _, .int n => IsWord n
  | _, _ => True

section
variable {room : Nat}

@[simp]
theorem fits_null : Json.null.Fits room
  := by cases room <;> trivial

@[simp]
theorem fits_bool {b : Bool} : (Json.bool b).Fits room
  := by cases room <;> trivial

@[simp]
theorem fits_int {n : Int} : (Json.int n).Fits room ↔ IsWord n
  := by cases room <;> rfl

@[simp]
theorem fits_float {d : Double} : (Json.float d).Fits room
  := by cases room <;> trivial

@[simp]
theorem fits_str {s : String} : (Json.str s).Fits room
  := by cases room <;> trivial

end

theorem sortedItems_of_forall {items : List Json} (h : ∀ v ∈ items, v.Sorted) :
  SortedItems items
  := by
  induction items with
  | nil => trivial
  | cons v rest ih =>
      use h v List.mem_cons_self
      apply ih fun w hw => h w (List.mem_cons_of_mem v hw)

theorem sortedMembers_of_forall {members : List (String × Json)}
    (h : ∀ member ∈ members, member.2.Sorted) :
  SortedMembers members
  := by
  induction members with
  | nil => trivial
  | cons member rest ih =>
      use h member List.mem_cons_self
      apply ih fun other hother => h other (List.mem_cons_of_mem member hother)

theorem Fits.sorted {room : Nat} {v : Json} (h : v.Fits room) :
  v.Sorted
  := by
  induction room generalizing v with
  | zero =>
      cases v with
      | arr items => nomatch h
      | obj members => nomatch h
      | _ => trivial
  | succ room ih =>
      cases v with
      | arr items => apply sortedItems_of_forall fun v hv => ih (h v hv)
      | obj members =>
          use h.1
          apply sortedMembers_of_forall fun member hmember => ih (h.2 member hmember)
      | _ => trivial

section
variable {lim : Limits} {cs rest : List Char} {v : Json}

theorem fits_of_isNumber (h : IsNumber v) (room : Nat) :
  v.Fits room
  := by
  cases v with
  | int n => apply fits_int.mpr h
  | float d => apply fits_float
  | _ => nomatch h

theorem readScalar_fits (h : readScalar lim cs = .ok (v, rest)) (room : Nat) :
  v.Fits room
  := by
  obtain ⟨rfl, _⟩ | ⟨b, rfl⟩ | ⟨s, rfl⟩ | ⟨hnumber, _⟩ := readScalar_cases h
  · apply fits_null
  · apply fits_bool
  · apply fits_str
  · apply fits_of_isNumber hnumber

end

theorem Limits.room_of_enter {lim inner : Limits} (h : lim.enter = .ok inner) :
  lim.room = inner.room + 1
  := by
  unfold Limits.enter at h
  split at h
  · nomatch h
  · next room heq => rw [heq, ← Except.ok.inj h]

/-- What is read fits, and so do the items of an array and the members of an object when those
before them do. -/
theorem read_fits (fuel : Nat) :
  (∀ lim cs v rest, readValueFrom fuel lim cs = .ok (v, rest) → v.Fits lim.room)
    ∧ (∀ lim first acc cs items rest, readItemsFrom fuel lim first acc cs = .ok (items, rest) →
      (∀ v ∈ acc, v.Fits lim.room) → ∀ v ∈ items, v.Fits lim.room)
    ∧ ∀ lim first acc cs members rest,
      readMembersFrom fuel lim first acc cs = .ok (members, rest) →
      Table.Ordered acc → (∀ member ∈ acc, member.2.Fits lim.room) →
      Table.Ordered members ∧ ∀ member ∈ members, member.2.Fits lim.room
  := by
  induction fuel with
  | zero =>
      constructor
      · nofun
      constructor
      · nofun
      · nofun
  | succ fuel ih =>
      obtain ⟨hvalue, hitems, hmembers⟩ := ih
      constructor
      · intro lim cs v rest h
        obtain hscalar | ⟨inner, items, text, _, hinner, hread, rfl⟩
          | ⟨inner, members, text, _, hinner, hread, rfl⟩ := readValueFrom_succ_eq_ok.mp h
        · apply readScalar_fits hscalar
        · rw [Limits.room_of_enter hinner]
          apply hitems _ _ _ _ _ _ hread
          nofun
        · rw [Limits.room_of_enter hinner]
          apply hmembers _ _ _ _ _ _ hread Table.ordered_nil
          nofun
      constructor
      · intro lim first acc cs items rest h hacc
        obtain ⟨_, rfl⟩ | ⟨text, v, after, _, hread, hrest⟩ := readItemsFrom_succ_eq_ok.mp h
        · intro v hv
          apply hacc v (List.mem_reverse.mp hv)
        · apply hitems _ _ _ _ _ _ hrest
          intro w hw
          obtain rfl | hw := List.mem_cons.mp hw
          · apply hvalue _ _ _ _ hread
          · apply hacc w hw
      · intro lim first acc cs members rest h hordered hacc
        obtain ⟨_, rfl⟩ | ⟨_, name, _, _, v, _, _, _, _, hread, hrest⟩ :=
          readMembersFrom_succ_eq_ok.mp h
        · use hordered
        · apply hmembers _ _ _ _ _ _ hrest (Table.ordered_put name v hordered)
          intro member hmember
          obtain rfl | hmember := Table.mem_put hmember
          · apply hvalue _ _ _ _ hread
          · apply hacc member hmember

/-! ### Legible documents -/

mutual
/-- The numbers within a document that are no integers. -/
def numbers : Json → List Double
  | .float d => [d]
  | .arr items => numbersOfItems items
  | .obj members => numbersOfMembers members
  | _ => []

/-- The numbers within the items of an array. -/
def numbersOfItems : List Json → List Double
  | [] => []
  | v :: rest => numbers v ++ numbersOfItems rest

/-- The numbers within the members of an object. -/
def numbersOfMembers : List (String × Json) → List Double
  | [] => []
  | (_, v) :: rest => numbers v ++ numbersOfMembers rest
end

/-- The numbers within a document are legible. -/
def Legible (v : Json) : Prop := ∀ d ∈ v.numbers, d.Legible

@[simp]
theorem legible_float {d : Double} :
  (Json.float d).Legible ↔ d.Legible
  := by simp [Legible, numbers]

@[simp]
theorem legible_str {s : String} :
  (Json.str s).Legible
  := by simp [Legible, numbers]

@[simp]
theorem legible_arr {items : List Json} :
  Legible (.arr items) ↔ ∀ v ∈ items, v.Legible
  := by
  unfold Legible
  rw [numbers]
  induction items with
  | nil => simp [numbersOfItems]
  | cons v rest ih => simp [numbersOfItems, or_imp, forall_and, ih]

@[simp]
theorem legible_obj {members : List (String × Json)} :
  Legible (.obj members) ↔ ∀ member ∈ members, member.2.Legible
  := by
  unfold Legible
  rw [numbers]
  induction members with
  | nil => simp [numbersOfMembers]
  | cons member rest ih => simp only [numbersOfMembers, List.mem_append, or_imp, forall_and, ih,
      List.forall_mem_cons]

end Json

end Greenhouse
