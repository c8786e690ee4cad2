import Greenhouse.Proofs.Json.Yield
import Greenhouse.Proofs.Message.Acceptance

/-!
# What a frame reports

`Frame.Reports` says which readings stand in the data of a frame: the switches and levels among the
members of `actuators`, when that is an object, and the switches among all members otherwise.  The
data of every frame that has been read are sorted, and in sorted data every name is reported at most
once, so that `Frame.readings` gives each reading once.
-/

namespace Greenhouse

namespace Json

/-- The values of sorted members are sorted. -/
theorem SortedMembers.sorted {members : List (String × Json)} (h : SortedMembers members)
    {name : String} {v : Json} (hmem : (name, v) ∈ members) :
  v.Sorted
  := by
  induction members with
  | nil => nomatch hmem
  | cons first rest ih =>
      obtain ⟨k, w⟩ := first
      obtain heq | hrest := List.mem_cons.mp hmem
      · obtain ⟨rfl, rfl⟩ := Prod.mk.inj heq
        apply h.1
      · apply ih h.2 hrest

theorem members?_eq_some {v : Json} {members : List (String × Json)} :
  v.members? = some members ↔ v = .obj members
  := by
  cases v <;> simp [members?]

theorem bool?_eq_some {v : Json} {on : Bool} :
  v.bool? = some on ↔ v = .bool on
  := by
  cases v <;> simp [bool?]

end Json

/-- A document is a reading: a switch when it is a boolean, and a level when it is a number. -/
inductive Json.IsReading : Json → ActuatorValue → Prop where
  | switch (on : Bool) : IsReading (.bool on) (.switch on)
  | int (n : Int) : IsReading (.int n) (.level (.ofInt n))
  | float (d : Double) : IsReading (.float d) (.level d)

theorem ActuatorValue.ofJson?_eq_some {v : Json} {value : ActuatorValue} :
  ofJson? v = some value ↔ v.IsReading value
  := by
  constructor
  · intro h
    cases v with
    | bool on =>
        obtain rfl := Option.some.inj h
        apply Json.IsReading.switch
    | int n =>
        obtain rfl := Option.some.inj h
        apply Json.IsReading.int
    | float d =>
        obtain rfl := Option.some.inj h
        apply Json.IsReading.float
    | _ => nomatch h
  · intro h
    cases h <;> rfl

namespace Frame

/-- A frame reports a value for an actuator. -/
inductive Reports (f : Frame) (name : String) : ActuatorValue → Prop where
  /-- The actuators have an object of their own, and there all switches and levels count. -/
  | apart {members actuators : List (String × Json)} {v : Json} {value : ActuatorValue}
    (hdata : f.data = .obj members) (hactuators : ("actuators", .obj actuators) ∈ members)
    (hmem : (name, v) ∈ actuators) (hv : v.IsReading value) : Reports f name value
  /-- The actuators stand among other things, and there only switches count. -/
  | among {members : List (String × Json)} {on : Bool} (hdata : f.data = .obj members)
    (hnone : ∀ actuators, ("actuators", .obj actuators) ∉ members)
    (hmem : (name, .bool on) ∈ members) : Reports f name (.switch on)

/-- The data of a frame that has been read are sorted. -/
theorem sorted_data_of_parse {text : String} {f : Frame} (h : parse text = .ok f) :
  f.data.Sorted
  := by
  obtain ⟨members, hobject, -, -, rfl⟩ := parse_eq_ok_iff.mp h
  have hread : Json.parse text = .ok (.obj (Table.putAll [] members)) := by
    apply Json.parse_eq_ok_iff.mpr
    apply Json.isDocument_obj.mpr ⟨members, hobject, rfl⟩
  have hsorted : (Json.obj (Table.putAll [] members)).Sorted := Json.sorted_of_parse hread
  change ((lastOf members "data").getD .null).Sorted
  rw [← find?_putAll_nil]
  cases hfind : Table.find? "data" (Table.putAll [] members) with
  | none => trivial
  | some v => apply hsorted.2.sorted (Table.mem_of_find? hfind)

/-! ### Readings of members -/

/-- What is read from members, each value under the name of its member. -/
def readAll (read : Json → Option ActuatorValue) (members : List (String × Json)) :
    List (String × ActuatorValue) :=
  members.filterMap fun (name, v) => (read v).map fun value => (name, value)

section
variable {read : Json → Option ActuatorValue} {members : List (String × Json)}

theorem mem_readAll {name : String} {value : ActuatorValue} :
  (name, value) ∈ readAll read members ↔ ∃ v, (name, v) ∈ members ∧ read v = some value
  := by
  simp [readAll, List.mem_filterMap]

/-- What is read from members in order stands in order. -/
theorem ordered_readAll (h : Table.Ordered members) :
  Table.Ordered (readAll read members)
  := by
  induction members with
  | nil => apply Table.ordered_nil
  | cons first rest ih =>
      obtain ⟨k, v⟩ := first
      obtain ⟨hfirst, hrest⟩ := Table.ordered_cons.mp h
      cases hread : read v with
      | none =>
          have hall : readAll read ((k, v) :: rest) = readAll read rest := by
            simp [readAll, hread]
          rw [hall]
          apply ih hrest
      | some value =>
          have hall : readAll read ((k, v) :: rest) = (k, value) :: readAll read rest := by
            simp [readAll, hread]
          rw [hall]
          apply Table.ordered_cons.mpr
          constructor
          · intro name hname
            obtain ⟨⟨_, value'⟩, hmem, rfl⟩ := List.mem_map.mp hname
            obtain ⟨w, hw, -⟩ := mem_readAll.mp hmem
            apply hfirst _ (List.mem_map.mpr ⟨_, hw, rfl⟩)
          · apply ih hrest

end

/-! ### Readings of frames -/

/-- The members of the object under `actuators`, if there is one. -/
def actuators? (members : List (String × Json)) : Option (List (String × Json)) :=
  (Table.find? "actuators" members).bind Json.members?

theorem actuators?_eq_some {members actuators : List (String × Json)}
    (h : Table.Ordered members) :
  actuators? members = some actuators ↔ ("actuators", .obj actuators) ∈ members
  := by
  rw [actuators?, Option.bind_eq_some_iff, Table.mem_iff_find? h]
  constructor
  · rintro ⟨v, hfind, hv⟩
    rw [hfind, Json.members?_eq_some.mp hv]
  · intro hfind
    exact ⟨_, hfind, rfl⟩

/-- The readings of a frame are those of its actuators, or else the switches among its data. -/
theorem readings_eq (f : Frame) :
  f.readings
    = match f.data.members? with
      | none => []
      | some members =>
        match actuators? members with
        | some actuators => readAll ActuatorValue.ofJson? actuators
        | none => readAll (fun v => v.bool?.map ActuatorValue.switch) members
  := by
  unfold readings
  cases f.data.members? with
  | none => rfl
  | some members =>
      simp only [actuators?, readAll]
      cases (Table.find? "actuators" members).bind Json.members? with
      | some actuators => rfl
      | none => simp [Function.comp_def]

section
variable {f : Frame} (h : f.data.Sorted)
include h

/-- Every actuator that a frame names is read once. -/
theorem ordered_readings :
  Table.Ordered f.readings
  := by
  rw [readings_eq]
  cases hdata : f.data with
  | obj members =>
      rw [hdata] at h
      simp only [Json.members?]
      cases hactuators : actuators? members with
      | none => apply ordered_readAll h.1
      | some actuators =>
          have hmem := (actuators?_eq_some h.1).mp hactuators
          have hsorted : (Json.obj actuators).Sorted := h.2.sorted hmem
          apply ordered_readAll hsorted.1
  | _ => apply Table.ordered_nil

/-- The readings of a frame are what it reports. -/
theorem mem_readings_iff {name : String} {value : ActuatorValue} :
  (name, value) ∈ f.readings ↔ f.Reports name value
  := by
  rw [readings_eq]
  constructor
  · intro hmem
    cases hdata : f.data with
    | obj members =>
        rw [hdata] at h hmem
        simp only [Json.members?] at hmem
        cases hactuators : actuators? members with
        | none =>
            rw [hactuators] at hmem
            obtain ⟨v, hv, hread⟩ := mem_readAll.mp hmem
            obtain ⟨on, hon, rfl⟩ := Option.map_eq_some_iff.mp hread
            obtain rfl := Json.bool?_eq_some.mp hon
            apply Reports.among hdata _ hv
            intro actuators hmem
            rw [(actuators?_eq_some h.1).mpr hmem] at hactuators
            nomatch hactuators
        | some actuators =>
            rw [hactuators] at hmem
            obtain ⟨v, hv, hread⟩ := mem_readAll.mp hmem
            apply Reports.apart hdata ((actuators?_eq_some h.1).mp hactuators) hv
            apply ActuatorValue.ofJson?_eq_some.mp hread
    | _ =>
        rw [hdata] at hmem
        nomatch hmem
  · intro hreports
    cases hreports with
    | @apart members actuators v value hdata hactuators hv hread =>
        rw [hdata] at h ⊢
        simp only [Json.members?, (actuators?_eq_some h.1).mpr hactuators]
        apply mem_readAll.mpr ⟨v, hv, ActuatorValue.ofJson?_eq_some.mpr hread⟩
    | @among members on hdata hnone hv =>
        rw [hdata] at h ⊢
        cases hactuators : actuators? members with
        | none =>
            simp only [Json.members?, hactuators]
            apply mem_readAll.mpr ⟨_, hv, rfl⟩
        | some actuators =>
            apply absurd ((actuators?_eq_some h.1).mp hactuators) (hnone actuators)

end

end Frame

end Greenhouse
