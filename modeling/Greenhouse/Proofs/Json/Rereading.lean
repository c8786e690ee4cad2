import Greenhouse.Proofs.Json.Document
import Greenhouse.Proofs.Json.Written

/-!
# Reading documents again

A document that fits is read as it was written, as long as its numbers are legible; that is
`Json.Rereads`.  The text of a number is read as the number wherever it stands, and arrays and
objects follow from what is in them.  Of an object whose members stand in another order, the members
are read into order.
-/

namespace Greenhouse.Json

/-! ### Scalars within a text -/

/-- A number is the same whatever follows it and whatever the limits are. -/
theorem readScalar_append {more : List Char} (hmore : EndsNumber more) {lim : Limits}
    {cs rest : List Char} {v : Json} (hv : IsNumber v) (h : readScalar lim cs = .ok (v, rest))
    (lim' : Limits) :
  readScalar lim' (cs ++ more) = .ok (v, rest ++ more)
  := by
  obtain ⟨rfl, _⟩ | ⟨b, rfl⟩ | ⟨s, rfl⟩ | ⟨_, ⟨digits, rfl, hread⟩ | ⟨c, digits, rfl, hc, hread⟩⟩ :=
    readScalar_cases h
  · nomatch hv
  · nomatch hv
  · nomatch hv
  · apply readNumber_append hmore hread
  · rw [List.cons_append, readScalar_of_digit hc]
    apply readNumber_append hmore hread

/-- A text that is read as a number begins with its sign or a digit. -/
theorem startsValue_of_number {lim : Limits} {text rest : List Char} {v : Json} (hv : IsNumber v)
    (h : readScalar lim (skipGap text) = .ok (v, rest)) :
  StartsValue text
  := by
  obtain ⟨rfl, _⟩ | ⟨b, rfl⟩ | ⟨s, rfl⟩ | ⟨_, ⟨digits, htext, _⟩ | ⟨c, digits, htext, hc, _⟩⟩ :=
    readScalar_cases h
  · nomatch hv
  · nomatch hv
  · nomatch hv
  · use '-', digits, htext
    decide
  · use c, digits, htext
    intro hmem
    simp only [List.mem_cons, List.not_mem_nil, or_false] at hmem
    obtain rfl | rfl | rfl := hmem
    all_goals nomatch hc

theorem skipGap_of_readScalar {lim : Limits} {cs rest : List Char} {v : Json}
    (h : readScalar lim cs = .ok (v, rest)) :
  skipGap cs = cs
  := by
  cases cs with
  | nil => rfl
  | cons c more =>
      apply List.dropWhile_cons_of_neg
      intro hc
      simp only [isGap, Bool.or_eq_true, beq_iff_eq] at hc
      obtain ((rfl | rfl) | rfl) | rfl := hc
      all_goals nomatch h

theorem skipGap_append_of_gap {rest : List Char} (h : skipGap rest = []) (more : List Char) :
  skipGap (rest ++ more) = skipGap more
  := by
  unfold skipGap at h ⊢
  rw [List.dropWhile_append, h]
  rfl

/-- The text of a number, an integer of 64 bits or a legible one, is read as the number. -/
theorem readScalar_chars {v : Json} (hv : IsNumber v) (hlegible : v.Legible) :
  ∃ lim rest, readScalar lim (skipGap v.chars) = .ok (v, rest) ∧ skipGap rest = []
  := by
  cases v with
  | int n =>
      have hread := readScalar_int hv .ofText
      use .ofText, []
      rw [skipGap_of_readScalar hread]
      use hread
      rfl
  | float d =>
      have hparse : parse d.encode = .ok (.float d) := hlegible d List.mem_cons_self
      obtain ⟨rest, hread, hrest⟩ := finish_eq_ok_iff.mp hparse
      obtain hscalar | ⟨_, _, _, _, _, _, heq⟩ | ⟨_, _, _, _, _, _, heq⟩ :=
        readValueFrom_succ_eq_ok.mp (lift_eq_ok.mp hread)
      · use .ofText, rest, hscalar
      · nomatch heq
      · nomatch heq
  | _ => nomatch hv

/-! ### Reading what was written -/

/-- Reads a document in so many steps. -/
def readWithin (steps : Nat) : Reader Json := fun lim cs => lift (readValueFrom steps lim cs)

/-- A document is read as it was written, where there is room for so many arrays and objects within
each other, in two steps for each character. -/
structure Rereads (room : Nat) (v : Json) : Prop where
  starts : v = .null ∨ StartsValue v.chars
  takes : ∀ ⦃steps⦄, 2 * (skipGap v.chars).length ≤ steps → (readWithin steps).Takes room v.chars v

theorem Rereads.ne_nil {room : Nat} {v : Json} (h : v.Rereads room) :
  skipGap v.chars ≠ []
  := (h.takes (Nat.le_refl _)).starts

theorem length_skipGap_le (cs : List Char) :
  (skipGap cs).length ≤ cs.length
  := (List.dropWhile_sublist isGap).length_le

/-- With two steps for each character of the text there are enough. -/
theorem takes_readValue_of_readWithin {room : Nat} {text : List Char} {v : Json}
    (h : ∀ ⦃steps⦄, 2 * (skipGap text).length ≤ steps → (readWithin steps).Takes room text v) :
  readValue.Takes room text v
  := by
  constructor
  · apply (h (Nat.le_refl _)).starts
  · intro lim cs more hlim hroom hmore hcs
    have hlength := length_skipGap_le cs
    rw [hcs, List.length_append] at hlength
    have hsteps : 2 * (skipGap text).length ≤ 2 * cs.length + 2 := by omega
    apply (h hsteps).reads hlim hroom hmore hcs

/-! ### Scalars -/

/-- A document that is read off its text as a scalar. -/
theorem Rereads.of_scalar {v : Json} (hstarts : v = .null ∨ StartsValue v.chars)
    (hne : skipGap v.chars ≠ [])
    (hread : ∀ ⦃lim more⦄, lim.stray? = none → EndsNumber more → ∃ rest,
      readScalar lim (skipGap v.chars ++ more) = .ok (v, rest) ∧ skipGap rest = skipGap more)
    (room : Nat) :
  v.Rereads room
  := by
  constructor
  · apply hstarts
  · intro steps hsteps
    constructor
    · apply hne
    · intro lim cs more hlim _ hmore hcs
      obtain ⟨rest, hscalar, hrest⟩ := hread hlim hmore
      have hpos : 0 < (skipGap v.chars).length := List.length_pos_iff.mpr hne
      cases steps with
      | zero => omega
      | succ steps =>
          use rest
          constructor
          · apply lift_eq_ok.mpr
            apply readValueFrom_succ_eq_ok.mpr
            left
            rw [hcs, hscalar]
          · apply hrest

theorem rereads_null (room : Nat) :
  Json.null.Rereads room
  := by
  apply Rereads.of_scalar
  · left
    rfl
  · apply List.cons_ne_nil
  · intro lim more _ _
    use more
    constructor <;> rfl

theorem rereads_bool (b : Bool) (room : Nat) :
  (Json.bool b).Rereads room
  := by
  apply Rereads.of_scalar
  · right
    apply startsValue_bool
  · apply (startsValue_bool b).ne_nil
  · intro lim more _ _
    use more
    cases b <;> constructor <;> rfl

theorem rereads_str (s : String) (room : Nat) :
  (Json.str s).Rereads room
  := by
  have hchars : (Json.str s).chars = renderString s := by rw [chars]
  apply Rereads.of_scalar
  · right
    rw [hchars]
    apply startsValue_renderString
  · rw [hchars]
    apply (startsValue_renderString s).ne_nil
  · intro lim more hlim _
    use more
    rw [hchars]
    change readScalar lim (renderString s ++ more) = _ ∧ _
    rw [renderString_append, readScalar, readString_rendered hlim]
    constructor <;> rfl

theorem rereads_number {v : Json} (hv : IsNumber v) (hlegible : v.Legible) (room : Nat) :
  v.Rereads room
  := by
  obtain ⟨lim, rest, hread, hrest⟩ := readScalar_chars hv hlegible
  have hstarts := startsValue_of_number hv hread
  apply Rereads.of_scalar
  · right
    apply hstarts
  · apply hstarts.ne_nil
  · intro lim' more _ hmore
    use rest ++ more, readScalar_append hmore hv hread lim', skipGap_append_of_gap hrest more

/-! ### Arrays -/

/-- The characters of the items of an array that are left, with a comma in front of each but the
first one of all. -/
def itemsFrom : Bool → List Json → List Char
  | _, [] => []
  | first, v :: rest => (if first then [] else [',']) ++ (v.chars ++ itemsFrom false rest)

theorem charsOfItems_eq (items : List Json) :
  charsOfItems items = itemsFrom true items
  := by
  induction items with
  | nil => rw [charsOfItems, itemsFrom]
  | cons v rest ih =>
      cases rest with
      | nil => simp [charsOfItems, itemsFrom]
      | cons next rest =>
          rw [charsOfItems, ih, itemsFrom]
          · rfl
          · nofun

/-- Behind an item comes a comma or the end of the array. -/
theorem endsNumber_itemsFrom (items : List Json) (more : List Char) :
  EndsNumber (itemsFrom false items ++ ']' :: more)
  := by
  intro c hc
  cases items with
  | nil =>
      obtain rfl := Option.some.inj hc
      decide
  | cons v rest =>
      obtain rfl := Option.some.inj hc
      decide

/-- The next item of an array begins where its value does. -/
theorem nextItem_of_value {first : Bool} {cs text rest : List Char} {c : Char}
    (htext : skipGap text = c :: rest) (hc : c ∉ [',', ']'])
    (hcs : skipGap cs = if first then skipGap text else ',' :: text) :
  nextItem first cs = .ok (.inl (skipGap text))
  := by
  have hcomma : c ≠ ',' := by
    rintro rfl
    apply hc List.mem_cons_self
  have hbracket : c ≠ ']' := by
    rintro rfl
    apply hc (List.mem_cons_of_mem _ List.mem_cons_self)
  cases first with
  | true =>
      rw [nextItem, hcs, if_pos rfl, htext]
      split
      · next heq => nomatch heq
      · next heq => apply absurd (List.head_eq_of_cons_eq heq) hbracket
      · next heq => apply absurd (List.head_eq_of_cons_eq heq) hcomma
      · rfl
  | false =>
      rw [nextItem, hcs, if_neg Bool.false_ne_true]
      simp only [Bool.false_eq_true, if_false, htext]
      split
      · next heq => nomatch heq
      · next heq => apply absurd (List.head_eq_of_cons_eq heq) hbracket
      · rfl

theorem Rereads.start {room : Nat} {v : Json} (h : v.Rereads room) :
  ∃ c rest, skipGap v.chars = c :: rest ∧ c ∉ [',', ']']
  := by
  obtain rfl | ⟨c, rest, hstart, hc⟩ := h.starts
  · use 'n', "ull".toList, rfl
    decide
  · use c, rest, hstart
    intro hmem
    apply hc (List.mem_cons_of_mem _ hmem)

section
variable {room : Nat} {lim : Limits} (hlim : lim.stray? = none) (hroom : room ≤ lim.room)
include hlim hroom

theorem readItemsFrom_itemsFrom {items : List Json} (hitems : ∀ v ∈ items, v.Rereads room)
    {steps : Nat} {first : Bool} (hsteps : 2 * (itemsFrom first items).length < steps)
    (before : List Json) {cs more : List Char}
    (hcs : skipGap cs = skipGap (itemsFrom first items ++ ']' :: more)) :
  readItemsFrom steps lim first before cs = .ok (before.reverse ++ items, more)
  := by
  induction items generalizing steps first before cs with
  | nil =>
      cases steps with
      | zero => nomatch hsteps
      | succ steps =>
          apply readItemsFrom_succ_eq_ok.mpr
          left
          rw [nextItem, hcs, List.append_nil]
          constructor <;> rfl
  | cons v rest ih =>
      cases steps with
      | zero => nomatch hsteps
      | succ steps =>
          have hv := hitems v List.mem_cons_self
          have hpos : 0 < (skipGap v.chars).length := List.length_pos_iff.mpr hv.ne_nil
          have hle := length_skipGap_le v.chars
          simp only [itemsFrom, List.length_append] at hsteps
          have htext : skipGap (v.chars ++ (itemsFrom false rest ++ ']' :: more))
              = skipGap v.chars ++ (itemsFrom false rest ++ ']' :: more) :=
            skipGap_append hv.ne_nil _
          obtain ⟨c, start, hstart, hc⟩ := hv.start
          -- the text of the value, behind a comma unless it is the first one
          have hnext : nextItem first cs
              = .ok (.inl (skipGap (v.chars ++ (itemsFrom false rest ++ ']' :: more)))) := by
            apply nextItem_of_value
            · rw [htext, hstart, List.cons_append]
            · apply hc
            · rw [hcs, itemsFrom, List.append_assoc, List.append_assoc]
              cases first <;> rfl
          have htakes : (readWithin steps).Takes room v.chars v := hv.takes (by omega)
          obtain ⟨after, hread, hafter⟩ := htakes.reads hlim hroom (endsNumber_itemsFrom rest more)
            ((skipGap_skipGap _).trans htext)
          apply readItemsFrom_succ_eq_ok.mpr
          right
          refine ⟨_, v, after, hnext, lift_eq_ok.mp hread, ?_⟩
          rw [ih (fun w hw => hitems w (List.mem_cons_of_mem v hw)) (by omega) _ hafter,
            List.reverse_cons, List.append_assoc, List.singleton_append]

end

theorem Rereads.arr {room : Nat} {items : List Json} (h : ∀ v ∈ items, v.Rereads room) :
  (Json.arr items).Rereads (room + 1)
  := by
  have hchars : (Json.arr items).chars = '[' :: (itemsFrom true items ++ [']']) := by
    rw [chars, charsOfItems_eq]
  have hskip : skipGap (Json.arr items).chars = '[' :: (itemsFrom true items ++ [']']) := by
    rw [hchars]
    rfl
  constructor
  · right
    use '[', itemsFrom true items ++ [']'], hskip
    decide
  · intro steps hsteps
    rw [hskip, List.length_cons, List.length_append] at hsteps
    constructor
    · rw [hskip]
      apply List.cons_ne_nil
    · intro lim cs more hlim hroom _ hcs
      obtain ⟨inner, hinner, hwithin, hstray⟩ := lim.enter_of_lt (Nat.lt_of_succ_le hroom)
      rw [hskip, List.cons_append, List.append_assoc, List.singleton_append] at hcs
      cases steps with
      | zero => omega
      | succ steps =>
          have hread : readItemsFrom steps inner true [] (itemsFrom true items ++ ']' :: more)
              = .ok (items, more) :=
            readItemsFrom_itemsFrom (hstray.trans hlim) hwithin h (by omega) [] rfl
          use more
          constructor
          · apply lift_eq_ok.mpr
            apply readValueFrom_succ_eq_ok.mpr
            right
            left
            use inner, items, itemsFrom true items ++ ']' :: more, hcs, hinner, hread
          · rfl

/-! ### Objects -/

section
variable {room : Nat} {lim : Limits} (hlim : lim.stray? = none) (hroom : room ≤ lim.room)
include hlim hroom

theorem readMembersFrom_charsFrom {members : List (String × Json)}
    (hmembers : ∀ member ∈ members, member.2.Rereads room) {steps : Nat} {first : Bool}
    (hsteps : 2 * (charsFrom first members).length < steps) (before : List (String × Json))
    {cs more : List Char} (hcs : skipGap cs = charsFrom first members ++ '\x7d' :: more) :
  readMembersFrom steps lim first before cs = .ok (Table.putAll before members, more)
  := by
  induction members generalizing steps first before cs with
  | nil =>
      cases steps with
      | zero => apply absurd hsteps (Nat.not_lt_zero _)
      | succ steps =>
          apply readMembersFrom_succ_eq_ok.mpr
          left
          rw [nextMember, hcs]
          constructor <;> rfl
  | cons member rest ih =>
      obtain ⟨key, v⟩ := member
      cases steps with
      | zero => apply absurd hsteps (Nat.not_lt_zero _)
      | succ steps =>
          have hv : v.Rereads room := hmembers (key, v) List.mem_cons_self
          have hle := length_skipGap_le v.chars
          simp only [charsFrom, List.length_append, List.length_cons] at hsteps
          have htakes : (readWithin steps).Takes room v.chars v := hv.takes (by omega)
          obtain ⟨after, hread, hafter⟩ := htakes.reads hlim hroom (endsNumber_charsFrom rest more)
            (skipGap_append hv.ne_nil _)
          rw [skipGap_charsFrom] at hafter
          apply readMembersFrom_succ_eq_ok.mpr
          right
          refine ⟨_, key, _, _, v, after, nextMember_charsFrom hcs, readString_rendered hlim _ _, rfl,
            lift_eq_ok.mp hread, ?_⟩
          apply ih (fun other hother => hmembers other (List.mem_cons_of_mem _ hother)) (by omega) _
            hafter

end

section
variable {room : Nat} {members : List (String × Json)}
  (h : ∀ member ∈ members, member.2.Rereads room)
include h

/-- The members of a written object are read into order. -/
theorem takes_readWithin_obj {steps : Nat} (hsteps : 2 * (Json.obj members).chars.length ≤ steps) :
  (readWithin steps).Takes (room + 1) (Json.obj members).chars (.obj (Table.putAll [] members))
  := by
  rw [chars, charsOfMembers_eq, List.length_cons, List.length_append] at hsteps
  constructor
  · apply List.cons_ne_nil
  · intro lim cs more hlim hroom _ hcs
    obtain ⟨inner, hinner, hwithin, hstray⟩ := lim.enter_of_lt (Nat.lt_of_succ_le hroom)
    have hcs := hcs.trans (chars_obj_append members more)
    cases steps with
    | zero => omega
    | succ steps =>
        have hread : readMembersFrom steps inner true [] (charsFrom true members ++ '\x7d' :: more)
            = .ok (Table.putAll [] members, more) :=
          readMembersFrom_charsFrom (hstray.trans hlim) hwithin h (by omega) []
            (skipGap_charsFrom members more true)
        use more
        constructor
        · apply lift_eq_ok.mpr
          apply readValueFrom_succ_eq_ok.mpr
          right
          right
          use inner, Table.putAll [] members, charsFrom true members ++ '\x7d' :: more, hcs, hinner,
            hread
        · rfl

theorem takes_readValue_obj :
  readValue.Takes (room + 1) (Json.obj members).chars (.obj (Table.putAll [] members))
  := takes_readValue_of_readWithin fun _ hsteps => takes_readWithin_obj h hsteps

theorem Rereads.obj (hordered : Table.Ordered members) :
  (Json.obj members).Rereads (room + 1)
  := by
  constructor
  · right
    refine ⟨'\x7b', _, rfl, ?_⟩
    decide
  · intro steps hsteps
    have htakes := takes_readWithin_obj h hsteps
    rw [Table.putAll_of_ordered (t := []) hordered] at htakes
    apply htakes

end

/-! ### Documents -/

/-- A document that fits and is legible is read as it was written. -/
theorem Fits.rereads {room : Nat} {v : Json} (hfits : v.Fits room) (hlegible : v.Legible) :
  v.Rereads room
  := by
  cases v with
  | null => apply rereads_null
  | bool b => apply rereads_bool
  | int n => apply rereads_number (v := .int n) (fits_int.mp hfits) hlegible
  | float d => apply rereads_number (v := .float d) trivial hlegible
  | str s => apply rereads_str
  | arr items =>
      cases room with
      | zero => nomatch hfits
      | succ room =>
          apply Rereads.arr
          intro v hv
          apply Fits.rereads (hfits v hv) (legible_arr.mp hlegible v hv)
  | obj members =>
      cases room with
      | zero => nomatch hfits
      | succ room =>
          apply Rereads.obj _ hfits.1
          intro member hmember
          apply Fits.rereads (hfits.2 member hmember) (legible_obj.mp hlegible member hmember)
termination_by room

theorem Rereads.takes_readValue {room : Nat} {v : Json} (h : v.Rereads room) :
  readValue.Takes room v.chars v
  := takes_readValue_of_readWithin h.takes

end Greenhouse.Json
