import Greenhouse.Proofs.Json.Document
import Greenhouse.Proofs.Json.Numeral
import Greenhouse.Proofs.Json.Quotes

/-!
# The grammar of JSON

`Json.Denotes` says which texts are documents, and which documents they are, without a word about
how a text is read: strings are letters and escapes, arrays and objects have items and members with
commas between them and gaps around them, and of two members of one name the last one counts.  What
is read is exactly what the grammar says, with three limits.  Arrays and objects stand within each
other no deeper than there is room; a number has to be finite; and an escape for half of a character
needs the other half behind it.
-/

namespace Greenhouse.Json

/-! ### Documents -/

/-- A text holds nothing but what may stand between the tokens of a document. -/
def Gap (cs : List Char) : Prop := ∀ c ∈ cs, isGap c = true

/-- A text is a document that is neither an array nor an object. -/
inductive Scalar : Json → List Char → Prop where
  | null : Scalar .null "null".toList
  | bool (b : Bool) : Scalar (.bool b) (if b then "true".toList else "false".toList)
  | number {n : Numeral} {v : Json} (hv : n.value? = some v) : Scalar v n.text
  | str {cs text : List Char} (h : Quotes cs text) :
    Scalar (.str (String.ofList cs)) ('"' :: (text ++ ['"']))

/-- What stands between two items or members; there is nothing in front of the first one. -/
def comma (first : Bool) : List Char := if first then [] else [',']

/-- A text is the items of an array that are left, when a relation says what the items are. -/
inductive Items (p : Json → List Char → Prop) : Bool → List Json → List Char → Prop where
  | nil {first : Bool} {gap : List Char} (hgap : Gap gap) : Items p first [] gap
  | cons {first : Bool} {v : Json} {items : List Json} {gap gap' text rest : List Char}
    (hgap : Gap gap) (hgap' : Gap gap') (hv : p v text) (hrest : Items p false items rest) :
    Items p first (v :: items) (gap ++ (comma first ++ (gap' ++ (text ++ rest))))

/-- A text is the members of an object that are left, in the order in which they are written, when a
relation says what their values are. -/
inductive Members (p : Json → List Char → Prop) :
    Bool → List (String × Json) → List Char → Prop where
  | nil {first : Bool} {gap : List Char} (hgap : Gap gap) : Members p first [] gap
  | cons {first : Bool} {key : List Char} {v : Json} {members : List (String × Json)}
    {gap gap' name behind before text rest : List Char} (hgap : Gap gap) (hgap' : Gap gap')
    (hname : Quotes key name) (hbehind : Gap behind) (hbefore : Gap before) (hv : p v text)
    (hrest : Members p false members rest) :
    Members p first ((String.ofList key, v) :: members)
      (gap ++ (comma first
        ++ (gap' ++ '"' :: (name ++ '"' :: (behind ++ ':' :: (before ++ (text ++ rest)))))))

/-- A text is an array or an object, when a relation says what is in it.  Of two members of one name
the last one counts. -/
inductive Compound (p : Json → List Char → Prop) : Json → List Char → Prop where
  | arr {items : List Json} {body : List Char} (h : Items p true items body) :
    Compound p (.arr items) ('[' :: (body ++ [']']))
  | obj {members : List (String × Json)} {body : List Char} (h : Members p true members body) :
    Compound p (.obj (Table.putAll [] members)) ('\x7b' :: (body ++ ['\x7d']))

/-- A text is a document with at most so many arrays and objects within each other. -/
def Denotes : Nat → Json → List Char → Prop
  | 0 => Scalar
  | room + 1 => fun v text => Scalar v text ∨ Compound (Denotes room) v text

/-- A whole text is a document between gaps. -/
def IsDocument (room : Nat) (v : Json) (text : List Char) : Prop :=
  ∃ before token after, Gap before ∧ Gap after ∧ Denotes room v token
    ∧ text = before ++ (token ++ after)

/-- A whole text is an object between gaps, with members as they are written; there are at most so
many arrays and objects within each other in their values. -/
def IsObject (room : Nat) (members : List (String × Json)) (text : List Char) : Prop :=
  ∃ before body after, Gap before ∧ Gap after ∧ Members (Denotes room) true members body
    ∧ text = before ++ ('\x7b' :: (body ++ '\x7d' :: after))

/-- A text is a document that is an object when it is an object with members that make its table. -/
theorem isDocument_obj {room : Nat} {table : List (String × Json)} {text : List Char} :
  IsDocument (room + 1) (.obj table) text
    ↔ ∃ members, IsObject room members text ∧ table = Table.putAll [] members
  := by
  constructor
  · rintro ⟨before, token, after, hbefore, hafter, hscalar | hcompound, rfl⟩
    · cases hscalar with
      | @number n _ hv => apply absurd hv (n.value?_ne_obj table)
    · cases hcompound with
      | @obj members body hmembers =>
          use members
          constructor
          · use before, body, after, hbefore, hafter, hmembers
            simp
          · rfl
  · rintro ⟨members, ⟨before, body, after, hbefore, hafter, hmembers, rfl⟩, rfl⟩
    use before, '\x7b' :: (body ++ ['\x7d']), after, hbefore, hafter, .inr (.obj hmembers)
    simp

/-! ### What is read is a document -/

theorem gap_nil :
  Gap []
  := nofun

theorem Gap.append {cs cs' : List Char} (h : Gap cs) (h' : Gap cs') :
  Gap (cs ++ cs')
  := by
  intro c hc
  obtain hc | hc := List.mem_append.mp hc
  · apply h c hc
  · apply h' c hc

theorem Scalar.denotes {v : Json} {text : List Char} (h : Scalar v text) (room : Nat) :
  Denotes room v text
  := by
  cases room with
  | zero => apply h
  | succ room => apply Or.inl h

section
variable {lim : Limits} {cs rest text : List Char} {v : Json} {first : Bool}

theorem readWord_eq_ok {word : List Char} :
  readWord word cs = .ok rest ↔ cs = word ++ rest
  := by
  induction word generalizing cs with
  | nil => simp [readWord, eq_comm]
  | cons w word ih =>
      cases cs with
      | nil => simp [readWord]
      | cons c cs =>
          rw [readWord]
          split
          · next hw => simp [ih, hw]
          · next hw => simp [Ne.symm hw]

/-- A word is read as the value that it stands for. -/
theorem map_readWord_eq_ok {word : List Char} {value : Json} :
  (readWord word cs).map (fun after => (value, after)) = .ok (v, rest)
    ↔ v = value ∧ cs = word ++ rest
  := by
  rw [map_eq_ok]
  constructor
  · rintro ⟨_, hword, heq⟩
    obtain ⟨rfl, rfl⟩ := Prod.mk.inj heq
    use rfl, readWord_eq_ok.mp hword
  · rintro ⟨rfl, hword⟩
    use rest, readWord_eq_ok.mpr hword

/-- What is read as a scalar is one. -/
theorem exists_scalar (h : readScalar lim cs = .ok (v, rest)) :
  ∃ text, Scalar v text ∧ cs = text ++ rest
  := by
  unfold readScalar at h
  split at h
  · nomatch h
  · obtain ⟨rfl, rfl⟩ := map_readWord_eq_ok.mp h
    use "null".toList, Scalar.null
    rfl
  · obtain ⟨rfl, rfl⟩ := map_readWord_eq_ok.mp h
    use "true".toList, Scalar.bool true
    rfl
  · obtain ⟨rfl, rfl⟩ := map_readWord_eq_ok.mp h
    use "false".toList, Scalar.bool false
    rfl
  · obtain ⟨n, hsign, rfl, hv⟩ := exists_numeral h
    use n.text, Scalar.number hv
    rw [Numeral.text, if_pos hsign]
    rfl
  · obtain ⟨⟨s, _⟩, hstring, heq⟩ := map_eq_ok.mp h
    obtain ⟨rfl, rfl⟩ := Prod.mk.inj heq
    obtain ⟨key, text, hquotes, rfl, rfl⟩ := exists_quotes hstring
    use '"' :: (text ++ ['"']), Scalar.str hquotes
    simp
  · split at h
    · obtain ⟨n, hsign, hcs, hv⟩ := exists_numeral h
      use n.text, Scalar.number hv
      rw [hcs, Numeral.text, if_neg (Bool.eq_false_iff.mp hsign)]
      rfl
    · nomatch h

theorem exists_gap (cs : List Char) :
  ∃ gap, Gap gap ∧ cs = gap ++ skipGap cs
  := by
  use cs.takeWhile isGap, fun _ => List.mem_takeWhile_imp
  symm
  apply List.takeWhile_append_dropWhile

/-- The next item stands behind gaps and a comma. -/
theorem exists_gap_of_nextItem (h : nextItem first cs = .ok (.inl text)) :
  ∃ gap gap', Gap gap ∧ Gap gap' ∧ cs = gap ++ (comma first ++ (gap' ++ text))
  := by
  obtain ⟨gap, hgap, hcs⟩ := exists_gap cs
  use gap
  unfold nextItem at h
  split at h
  · nomatch h
  · nomatch h
  · next behind heq =>
    split at h
    · next hfirst =>
      obtain rfl := Sum.inl.inj (Except.ok.inj h)
      use [], hgap, gap_nil
      rw [hcs, heq, hfirst]
      rfl
    · next hfirst =>
      obtain ⟨gap', hgap', hbehind⟩ := exists_gap behind
      split at h
      · nomatch h
      · nomatch h
      · obtain rfl := Sum.inl.inj (Except.ok.inj h)
        use gap', hgap, hgap'
        rw [hcs, heq, Bool.eq_false_iff.mpr hfirst, ← hbehind]
        rfl
  · split at h
    · next hfirst =>
      obtain rfl := Sum.inl.inj (Except.ok.inj h)
      use [], hgap, gap_nil
      rw [hfirst]
      apply hcs
    · nomatch h

/-- An array ends behind a gap. -/
theorem exists_gap_of_lastItem (h : nextItem first cs = .ok (.inr rest)) :
  ∃ gap, Gap gap ∧ cs = gap ++ ']' :: rest
  := by
  obtain ⟨gap, hgap, hcs⟩ := exists_gap cs
  use gap, hgap
  unfold nextItem at h
  split at h
  · nomatch h
  · next heq =>
    obtain rfl := Sum.inr.inj (Except.ok.inj h)
    rw [hcs, heq]
  · split at h
    · nomatch h
    · split at h <;> nomatch h
  · split at h <;> nomatch h

/-- The name of the next member stands behind gaps and a comma. -/
theorem exists_gap_of_nextMember (h : nextMember first cs = .ok (.inl text)) :
  ∃ gap gap', Gap gap ∧ Gap gap' ∧ cs = gap ++ (comma first ++ (gap' ++ '"' :: text))
  := by
  obtain ⟨gap, hgap, hcs⟩ := exists_gap cs
  use gap
  unfold nextMember at h
  split at h
  · nomatch h
  · nomatch h
  · next behind heq =>
    split at h
    · next hfirst =>
      obtain rfl := Sum.inl.inj (Except.ok.inj h)
      use [], hgap, gap_nil
      rw [hcs, heq, hfirst]
      rfl
    · nomatch h
  · next behind heq =>
    split at h
    · nomatch h
    · next hfirst =>
      obtain ⟨gap', hgap', hbehind⟩ := exists_gap behind
      split at h
      · nomatch h
      · next hquote =>
        obtain rfl := Sum.inl.inj (Except.ok.inj h)
        use gap', hgap, hgap'
        rw [hcs, heq, Bool.eq_false_iff.mpr hfirst, ← hquote, ← hbehind]
        rfl
      · nomatch h
      · nomatch h
  · split at h <;> nomatch h

/-- An object ends behind a gap. -/
theorem exists_gap_of_lastMember (h : nextMember first cs = .ok (.inr rest)) :
  ∃ gap, Gap gap ∧ cs = gap ++ '\x7d' :: rest
  := by
  obtain ⟨gap, hgap, hcs⟩ := exists_gap cs
  use gap, hgap
  unfold nextMember at h
  split at h
  · nomatch h
  · next heq =>
    obtain rfl := Sum.inr.inj (Except.ok.inj h)
    rw [hcs, heq]
  · split at h <;> nomatch h
  · split at h
    · nomatch h
    · split at h <;> nomatch h
  · split at h <;> nomatch h

theorem exists_gap_of_readColon (h : readColon cs = .ok rest) :
  ∃ gap, Gap gap ∧ cs = gap ++ ':' :: rest
  := by
  obtain ⟨gap, hgap, hcs⟩ := exists_gap cs
  use gap, hgap
  unfold readColon at h
  split at h
  · nomatch h
  · next heq =>
    obtain rfl := Except.ok.inj h
    rw [hcs, heq]
  · nomatch h

end

/-- So many steps read nothing but documents: what is read begins with one, behind a gap, and the
items of an array and the members of an object that are left are what the grammar says. -/
structure Recognizes (fuel : Nat) : Prop where
  value : ∀ ⦃lim cs v rest⦄, readValueFrom fuel lim cs = .ok (v, rest) →
    ∃ gap text, Gap gap ∧ Denotes lim.room v text ∧ cs = gap ++ (text ++ rest)
  items : ∀ ⦃lim first acc cs all rest⦄, readItemsFrom fuel lim first acc cs = .ok (all, rest) →
    ∃ items body, Items (Denotes lim.room) first items body ∧ all = acc.reverse ++ items
      ∧ cs = body ++ ']' :: rest
  members : ∀ ⦃lim first acc cs all rest⦄,
    readMembersFrom fuel lim first acc cs = .ok (all, rest) →
    ∃ members body, Members (Denotes lim.room) first members body
      ∧ all = Table.putAll acc members ∧ cs = body ++ '\x7d' :: rest

section
variable {fuel : Nat} (ih : Recognizes fuel) {lim : Limits} {cs rest : List Char} {first : Bool}
include ih

theorem Recognizes.value_succ {v : Json} (h : readValueFrom (fuel + 1) lim cs = .ok (v, rest)) :
  ∃ gap text, Gap gap ∧ Denotes lim.room v text ∧ cs = gap ++ (text ++ rest)
  := by
  obtain ⟨gap, hgap, hcs⟩ := exists_gap cs
  obtain hscalar | ⟨inner, items, text, hbracket, hinner, hread, rfl⟩
    | ⟨inner, members, text, hbrace, hinner, hread, rfl⟩ := readValueFrom_succ_eq_ok.mp h
  · obtain ⟨text, hscalar, htext⟩ := exists_scalar hscalar
    use gap, text, hgap, hscalar.denotes lim.room
    rw [← htext, ← hcs]
  · obtain ⟨items, body, hitems, rfl, rfl⟩ := ih.items hread
    use gap, '[' :: (body ++ [']']), hgap
    constructor
    · rw [Limits.room_of_enter hinner]
      right
      apply Compound.arr hitems
    · rw [hcs, hbracket]
      simp
  · obtain ⟨members, body, hmembers, rfl, rfl⟩ := ih.members hread
    use gap, '\x7b' :: (body ++ ['\x7d']), hgap
    constructor
    · rw [Limits.room_of_enter hinner]
      right
      apply Compound.obj hmembers
    · rw [hcs, hbrace]
      simp

theorem Recognizes.items_succ {acc all : List Json}
    (h : readItemsFrom (fuel + 1) lim first acc cs = .ok (all, rest)) :
  ∃ items body, Items (Denotes lim.room) first items body ∧ all = acc.reverse ++ items
    ∧ cs = body ++ ']' :: rest
  := by
  obtain ⟨hlast, rfl⟩ | ⟨text, v, after, hnext, hread, hrest⟩ := readItemsFrom_succ_eq_ok.mp h
  · obtain ⟨gap, hgap, rfl⟩ := exists_gap_of_lastItem hlast
    use [], gap, Items.nil hgap
    simp
  · obtain ⟨gap, gap', hgap, hgap', rfl⟩ := exists_gap_of_nextItem hnext
    obtain ⟨gap'', token, hgap'', hv, rfl⟩ := ih.value hread
    obtain ⟨items, body, hitems, rfl, rfl⟩ := ih.items hrest
    have hcons : Items _ first _ _ := Items.cons hgap (hgap'.append hgap'') hv hitems
    refine ⟨v :: items, _, hcons, ?_, ?_⟩
    all_goals simp

theorem Recognizes.members_succ {acc all : List (String × Json)}
    (h : readMembersFrom (fuel + 1) lim first acc cs = .ok (all, rest)) :
  ∃ members body, Members (Denotes lim.room) first members body
    ∧ all = Table.putAll acc members ∧ cs = body ++ '\x7d' :: rest
  := by
  obtain ⟨hlast, rfl⟩
    | ⟨text, name, behind, before, v, after, hnext, hname, hcolon, hread, hrest⟩ :=
    readMembersFrom_succ_eq_ok.mp h
  · obtain ⟨gap, hgap, rfl⟩ := exists_gap_of_lastMember hlast
    use [], gap, Members.nil hgap
    simp [Table.putAll]
  · obtain ⟨gap, gap', hgap, hgap', rfl⟩ := exists_gap_of_nextMember hnext
    obtain ⟨key, letters, hquotes, rfl, rfl⟩ := exists_quotes hname
    obtain ⟨behind, hbehind, rfl⟩ := exists_gap_of_readColon hcolon
    obtain ⟨before, token, hbefore, hv, rfl⟩ := ih.value hread
    obtain ⟨members, body, hmembers, rfl, rfl⟩ := ih.members hrest
    have hcons : Members _ first _ _ :=
      Members.cons hgap hgap' hquotes hbehind hbefore hv hmembers
    refine ⟨(String.ofList key, v) :: members, _, hcons, rfl, ?_⟩
    simp

end

theorem recognizes (fuel : Nat) :
  Recognizes fuel
  := by
  -- The three readers call each other with one step less, so they are taken together.
  induction fuel with
  | zero => exact ⟨nofun, nofun, nofun⟩
  | succ fuel ih =>
      constructor
      · intro _ _ _ _ h
        apply ih.value_succ h
      · intro _ _ _ _ _ _ h
        apply ih.items_succ h
      · intro _ _ _ _ _ _ h
        apply ih.members_succ h

end Greenhouse.Json
