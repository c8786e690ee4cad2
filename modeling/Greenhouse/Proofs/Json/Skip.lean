import Greenhouse.Proofs.Json.Scan

/-!
# Where documents end

What `Json.readValueFrom` reads does not depend on the number that bounds its steps, as long
as that is large enough.  A document can also be passed over, as `Json.skipValue` does.  That
does not look at the document in the same order, but if both are possible, they end at the
same place.
-/

namespace Greenhouse.Json

/-! ### Gaps -/

@[simp]
theorem skipGap_skipGap (cs : List Char) :
  skipGap (skipGap cs) = skipGap cs
  := by
  unfold skipGap
  induction cs with
  | nil => rfl
  | cons c rest ih =>
      by_cases hc : isGap c = true
      · rw [List.dropWhile_cons_of_pos hc, ih]
      · rw [List.dropWhile_cons_of_neg hc, List.dropWhile_cons_of_neg hc]

/-! ### Scalars -/

/-- Reads a document that is neither an array nor an object, from its first character. -/
def readScalar (lim : Limits) : List Char → Except Fault (Json × List Char)
  | [] => .error .endInValue
  | 'n' :: rest => (readWord "ull".toList rest).map fun rest => (.null, rest)
  | 't' :: rest => (readWord "rue".toList rest).map fun rest => (.bool true, rest)
  | 'f' :: rest => (readWord "alse".toList rest).map fun rest => (.bool false, rest)
  | '-' :: rest => readNumber true rest
  | '"' :: rest => (readString lim rest).map fun (s, rest) => (.str s, rest)
  | c :: rest => if Text.isDigit c then readNumber false (c :: rest) else .error .expectedValue

/-- Passes over a document that is neither an array nor an object. -/
def skipScalar (lim : Limits) : List Char → Except Fault (List Char)
  | [] => .error .endInValue
  | 'n' :: rest => readWord "ull".toList rest
  | 't' :: rest => readWord "rue".toList rest
  | 'f' :: rest => readWord "alse".toList rest
  | '-' :: rest => skipNumber rest
  | '"' :: rest => skipString lim rest
  | c :: rest => if Text.isDigit c then skipNumber (c :: rest) else .error .expectedValue

theorem readValueFrom_succ (fuel : Nat) (lim : Limits) (cs : List Char) :
  readValueFrom (fuel + 1) lim cs =
    match skipGap cs with
    | '[' :: rest =>
      match lim.enter with
      | .error f => .error f
      | .ok inner =>
        match readItemsFrom fuel inner true [] rest with
        | .ok (items, rest) => .ok (.arr items, rest)
        | .error f => .error f
    | '\x7b' :: rest =>
      match lim.enter with
      | .error f => .error f
      | .ok inner =>
        match readMembersFrom fuel inner true [] rest with
        | .ok (members, rest) => .ok (.obj members, rest)
        | .error f => .error f
    | cs => readScalar lim cs
  := by
  rw [readValueFrom]
  generalize skipGap cs = text
  split
  · rfl
  · rfl
  · rfl
  · rfl
  · rfl
  · rfl
  · rfl
  · rfl
  · next c rest hn ht hf hminus hquote hbracket hbrace =>
      symm
      split
      · next heq => apply absurd (List.head_eq_of_cons_eq heq) hbracket
      · next heq => apply absurd (List.head_eq_of_cons_eq heq) hbrace
      · rw [readScalar]
        all_goals assumption

theorem skipToken_eq (lim : Limits) (cs : List Char) :
  skipToken lim cs =
    match skipGap cs with
    | '[' :: rest => .ok (some .list, rest)
    | '\x7b' :: rest => .ok (some .object, rest)
    | cs => (skipScalar lim cs).map fun rest => (none, rest)
  := by
  rw [skipToken]
  generalize skipGap cs = text
  split
  · rfl
  · rfl
  · rfl
  · rfl
  · rfl
  · rfl
  · rfl
  · rfl
  · next c rest hn ht hf hminus hquote hbracket hbrace =>
      symm
      split
      · next heq => apply absurd (List.head_eq_of_cons_eq heq) hbracket
      · next heq => apply absurd (List.head_eq_of_cons_eq heq) hbrace
      · rw [skipScalar]
        · split <;> rfl
        all_goals assumption

theorem readScalar_end {lim lim' : Limits} {cs rest rest' : List Char} {v : Json}
    (h : readScalar lim cs = .ok (v, rest)) (hskip : skipScalar lim' cs = .ok rest') :
  rest' = rest
  := by
  have hword {word cs : List Char} {v' : Json}
      (h : (readWord word cs).map (fun rest => (v', rest)) = .ok (v, rest))
      (hskip : readWord word cs = .ok rest') : rest' = rest := by
    rw [hskip] at h
    apply (Prod.mk.inj (Except.ok.inj h)).2
  unfold readScalar at h
  split at h
  · nomatch h
  · apply hword h hskip
  · apply hword h hskip
  · apply hword h hskip
  · apply readNumber_end h hskip
  · next text =>
      cases hs : readString lim text with
      | error f =>
          rw [hs] at h
          nomatch h
      | ok read =>
          obtain ⟨s, after⟩ := read
          rw [hs] at h
          rw [← (Prod.mk.inj (Except.ok.inj h)).2]
          apply readString_end hs hskip
  · next c more hn ht hf hminus hquote =>
      split at h
      · next hc =>
          rw [skipScalar, if_pos hc] at hskip
          · apply readNumber_end h hskip
          all_goals assumption
      · nomatch h

theorem skipToken_of_readScalar {lim lim' : Limits} {cs rest rest' : List Char} {v : Json}
    {opened : Option Frame} (h : readScalar lim (skipGap cs) = .ok (v, rest))
    (hskip : skipToken lim' cs = .ok (opened, rest')) :
  opened = none ∧ rest' = rest
  := by
  rw [skipToken_eq] at hskip
  split at hskip
  · next heq =>
      rw [heq] at h
      nomatch h
  · next heq =>
      rw [heq] at h
      nomatch h
  · cases hscalar : skipScalar lim' (skipGap cs) with
    | error f =>
        rw [hscalar] at hskip
        nomatch hskip
    | ok after =>
        rw [hscalar] at hskip
        obtain ⟨rfl, rfl⟩ := Prod.mk.inj (Except.ok.inj hskip)
        use rfl, readScalar_end h hscalar

/-! ### One step of reading -/

/-- Gaps before a document do not matter. -/
theorem readValueFrom_congr {cs cs' : List Char} (h : skipGap cs = skipGap cs') (fuel : Nat)
    (lim : Limits) :
  readValueFrom fuel lim cs = readValueFrom fuel lim cs'
  := by
  cases fuel with
  | zero => rfl
  | succ fuel => rw [readValueFrom_succ, readValueFrom_succ, h]

section
variable {fuel : Nat} {lim : Limits} {cs rest : List Char}

theorem readValueFrom_succ_eq_ok {v : Json} :
  readValueFrom (fuel + 1) lim cs = .ok (v, rest)
    ↔ readScalar lim (skipGap cs) = .ok (v, rest)
      ∨ (∃ inner items text, skipGap cs = '[' :: text ∧ lim.enter = .ok inner
        ∧ readItemsFrom fuel inner true [] text = .ok (items, rest) ∧ v = .arr items)
      ∨ ∃ inner members text, skipGap cs = '\x7b' :: text ∧ lim.enter = .ok inner
        ∧ readMembersFrom fuel inner true [] text = .ok (members, rest) ∧ v = .obj members
  := by
  rw [readValueFrom_succ]
  generalize skipGap cs = text
  constructor
  · intro h
    split at h
    · next text =>
        right; left
        split at h
        · nomatch h
        · next inner hinner =>
            split at h
            · next items after hitems =>
                obtain ⟨rfl, rfl⟩ := Prod.mk.inj (Except.ok.inj h)
                use inner, items, text, rfl, hinner, hitems
            · nomatch h
    · next text =>
        right; right
        split at h
        · nomatch h
        · next inner hinner =>
            split at h
            · next members after hmembers =>
                obtain ⟨rfl, rfl⟩ := Prod.mk.inj (Except.ok.inj h)
                use inner, members, text, rfl, hinner, hmembers
            · nomatch h
    · left
      apply h
  · rintro (h | ⟨inner, items, more, rfl, hinner, hitems, rfl⟩
      | ⟨inner, members, more, rfl, hinner, hmembers, rfl⟩)
    · split
      · nomatch h
      · nomatch h
      · apply h
    · simp only [hinner, hitems]
    · simp only [hinner, hmembers]

theorem readItemsFrom_succ_eq_ok {first : Bool} {acc items : List Json} :
  readItemsFrom (fuel + 1) lim first acc cs = .ok (items, rest)
    ↔ (nextItem first cs = .ok (.inr rest) ∧ acc.reverse = items)
      ∨ ∃ text v after, nextItem first cs = .ok (.inl text)
        ∧ readValueFrom fuel lim text = .ok (v, after)
        ∧ readItemsFrom fuel lim false (v :: acc) after = .ok (items, rest)
  := by
  rw [readItemsFrom]
  cases hnext : nextItem first cs with
  | error f => simp
  | ok next =>
      cases next with
      | inr after => simp [and_comm]
      | inl text =>
          cases hvalue : readValueFrom fuel lim text with
          | error f => simp [hvalue]
          | ok read =>
              obtain ⟨v, after⟩ := read
              simp [hvalue]

theorem readMembersFrom_succ_eq_ok {first : Bool} {acc members : List (String × Json)} :
  readMembersFrom (fuel + 1) lim first acc cs = .ok (members, rest)
    ↔ (nextMember first cs = .ok (.inr rest) ∧ acc = members)
      ∨ ∃ text name afterName afterColon v after, nextMember first cs = .ok (.inl text)
        ∧ readString lim text = .ok (name, afterName)
        ∧ readColon afterName = .ok afterColon
        ∧ readValueFrom fuel lim afterColon = .ok (v, after)
        ∧ readMembersFrom fuel lim false (Table.put name v acc) after = .ok (members, rest)
  := by
  rw [readMembersFrom]
  cases hnext : nextMember first cs with
  | error f => simp
  | ok next =>
      cases next with
      | inr after => simp [and_comm]
      | inl text =>
          cases hname : readString lim text with
          | error f => simp [hname]
          | ok read =>
              obtain ⟨name, afterName⟩ := read
              cases hcolon : readColon afterName with
              | error f => simp [hname, hcolon]
              | ok afterColon =>
                  cases hvalue : readValueFrom fuel lim afterColon with
                  | error f => simp [hname, hcolon, hvalue]
                  | ok read =>
                      obtain ⟨v, after⟩ := read
                      simp [hname, hcolon, hvalue]

end

/-! ### The bound on the steps -/

/-- One more step changes nothing that is read. -/
theorem read_succ (fuel : Nat) :
  (∀ lim cs v rest, readValueFrom fuel lim cs = .ok (v, rest) →
      readValueFrom (fuel + 1) lim cs = .ok (v, rest))
    ∧ (∀ lim first acc cs items rest, readItemsFrom fuel lim first acc cs = .ok (items, rest) →
      readItemsFrom (fuel + 1) lim first acc cs = .ok (items, rest))
    ∧ ∀ lim first acc cs members rest,
      readMembersFrom fuel lim first acc cs = .ok (members, rest) →
      readMembersFrom (fuel + 1) lim first acc cs = .ok (members, rest)
  := by
  induction fuel with
  | zero =>
      constructor
      · nofun
      constructor
      · nofun
      · nofun
  | succ fuel ih =>
      obtain ⟨hvalue, hitems, hmembers⟩ := ih
      constructor
      · intro lim cs v rest h
        apply readValueFrom_succ_eq_ok.mpr
        obtain h | ⟨inner, items, text, htext, hinner, hread, heq⟩
          | ⟨inner, members, text, htext, hinner, hread, heq⟩ := readValueFrom_succ_eq_ok.mp h
        · left
          apply h
        · right; left
          use inner, items, text, htext, hinner, hitems _ _ _ _ _ _ hread, heq
        · right; right
          use inner, members, text, htext, hinner, hmembers _ _ _ _ _ _ hread, heq
      constructor
      · intro lim first acc cs items rest h
        apply readItemsFrom_succ_eq_ok.mpr
        obtain h | ⟨text, v, after, hnext, hread, hrest⟩ := readItemsFrom_succ_eq_ok.mp h
        · left
          apply h
        · right
          use text, v, after, hnext, hvalue _ _ _ _ hread, hitems _ _ _ _ _ _ hrest
      · intro lim first acc cs members rest h
        apply readMembersFrom_succ_eq_ok.mpr
        obtain h | ⟨text, name, afterName, afterColon, v, after, hnext, hname, hcolon, hread,
          hrest⟩ := readMembersFrom_succ_eq_ok.mp h
        · left
          apply h
        · right
          use text, name, afterName, afterColon, v, after, hnext, hname, hcolon,
            hvalue _ _ _ _ hread, hmembers _ _ _ _ _ _ hrest

theorem readValueFrom_of_le {fuel fuel' : Nat} (hle : fuel ≤ fuel') {lim : Limits}
    {cs rest : List Char} {v : Json} (h : readValueFrom fuel lim cs = .ok (v, rest)) :
  readValueFrom fuel' lim cs = .ok (v, rest)
  := by
  induction hle with
  | refl => apply h
  | step hle ih => apply (read_succ _).1 _ _ _ _ ih

/-- What is read does not depend on the bound. -/
theorem readValueFrom_unique {fuel fuel' : Nat} {lim : Limits} {cs rest rest' : List Char}
    {v v' : Json} (h : readValueFrom fuel lim cs = .ok (v, rest))
    (h' : readValueFrom fuel' lim cs = .ok (v', rest')) :
  v' = v ∧ rest' = rest
  := by
  have hmax := readValueFrom_of_le (Nat.le_max_left fuel fuel') h
  rw [readValueFrom_of_le (Nat.le_max_right fuel fuel') h'] at hmax
  apply Prod.mk.inj (Except.ok.inj hmax)

/-! ### Passing over documents -/

/-- Goes on within open frames behind a value, or behind an opening bracket. -/
def skipOn (lim : Limits) (fuel : Nat) (comma : Bool) (frames : List Frame) (cs : List Char) :
    Except Fault (List Char) :=
  match skipClosing comma frames cs with
  | .error f => .error f
  | .ok (.inr rest) => .ok rest
  | .ok (.inl (frames, rest)) =>
    if frames.head? = some .object then
      match skipName lim rest with
      | .error f => .error f
      | .ok rest => skipValueFrom lim fuel frames rest
    else skipValueFrom lim fuel frames rest

theorem skipValueFrom_succ (lim : Limits) (fuel : Nat) (frames : List Frame) (cs : List Char) :
  skipValueFrom lim (fuel + 1) frames cs =
    match skipToken lim cs with
    | .error f => .error f
    | .ok (opened, rest) => skipOn lim fuel opened.isNone (opened.toList ++ frames) rest
  := rfl

section
variable {first : Bool} {cs rest text : List Char}

/-- The next item of an array is where passing over it goes on. -/
theorem skipClosing_of_nextItem (h : nextItem first cs = .ok (.inl text)) (frames : List Frame) :
  ∃ more, skipGap more = skipGap text
    ∧ skipClosing (!first) (.list :: frames) cs = .ok (.inl (.list :: frames, more))
  := by
  unfold nextItem at h
  rw [skipClosing]
  split at h
  · nomatch h
  · nomatch h
  · next more heq =>
      rw [heq]
      cases first with
      | true =>
          use ',' :: more
          obtain rfl := Sum.inl.inj (Except.ok.inj h)
          constructor <;> rfl
      | false =>
          use more
          rw [if_neg Bool.false_ne_true] at h
          split at h
          · nomatch h
          · nomatch h
          · obtain rfl := Sum.inl.inj (Except.ok.inj h)
            constructor
            · rw [skipGap_skipGap]
            · rfl
  · next hnil hclose hcomma =>
      cases first with
      | true =>
          obtain rfl := Sum.inl.inj (Except.ok.inj h)
          use skipGap cs, rfl
          split
          · contradiction
          · next heq => apply absurd heq (hcomma _)
          · next heq => apply absurd heq (hclose _)
          · rfl
      | false => nomatch h

theorem skipClosing_of_lastItem (h : nextItem first cs = .ok (.inr rest)) (frames : List Frame) :
  skipClosing (!first) (.list :: frames) cs = skipClosing true frames rest
  := by
  unfold nextItem at h
  rw [skipClosing]
  split at h
  · nomatch h
  · next heq =>
      rw [heq, Sum.inr.inj (Except.ok.inj h)]
      rfl
  · split at h
    · nomatch h
    · split at h <;> nomatch h
  · split at h <;> nomatch h

/-- The name of the next member of an object is where passing over it goes on. -/
theorem skipClosing_of_nextMember (h : nextMember first cs = .ok (.inl text))
    (frames : List Frame) :
  ∃ more, skipGap more = '"' :: text
    ∧ skipClosing (!first) (.object :: frames) cs = .ok (.inl (.object :: frames, more))
  := by
  unfold nextMember at h
  rw [skipClosing]
  split at h
  · nomatch h
  · nomatch h
  · next more heq =>
      rw [heq]
      cases first with
      | true =>
          obtain rfl := Sum.inl.inj (Except.ok.inj h)
          use '"' :: more
          constructor <;> rfl
      | false => nomatch h
  · next more heq =>
      rw [heq]
      cases first with
      | true => nomatch h
      | false =>
          use more
          rw [if_neg Bool.false_ne_true] at h
          split at h
          · nomatch h
          · next hquote =>
              obtain rfl := Sum.inl.inj (Except.ok.inj h)
              use hquote
              rfl
          · nomatch h
          · nomatch h
  · split at h <;> nomatch h

theorem skipClosing_of_lastMember (h : nextMember first cs = .ok (.inr rest))
    (frames : List Frame) :
  skipClosing (!first) (.object :: frames) cs = skipClosing true frames rest
  := by
  unfold nextMember at h
  rw [skipClosing]
  split at h
  · nomatch h
  · next heq =>
      rw [heq, Sum.inr.inj (Except.ok.inj h)]
      rfl
  · split at h <;> nomatch h
  · split at h
    · nomatch h
    · split at h <;> nomatch h
  · split at h <;> nomatch h

end

/-- What follows a document that has been read is what is left when it is passed over, within
any open frames. -/
theorem skip_read (fuel : Nat) :
  (∀ lim cs v rest, readValueFrom fuel lim cs = .ok (v, rest) →
      ∀ lim' steps frames final, skipValueFrom lim' steps frames cs = .ok final →
      ∃ steps', skipOn lim' steps' true frames rest = .ok final)
    ∧ (∀ lim first acc cs items rest, readItemsFrom fuel lim first acc cs = .ok (items, rest) →
      ∀ lim' steps frames final, skipOn lim' steps (!first) (.list :: frames) cs = .ok final →
      ∃ steps', skipOn lim' steps' true frames rest = .ok final)
    ∧ ∀ lim first acc cs members rest,
      readMembersFrom fuel lim first acc cs = .ok (members, rest) →
      ∀ lim' steps frames final, skipOn lim' steps (!first) (.object :: frames) cs = .ok final →
      ∃ steps', skipOn lim' steps' true frames rest = .ok final
  := by
  induction fuel with
  | zero =>
      constructor
      · nofun
      constructor
      · nofun
      · nofun
  | succ fuel ih =>
      obtain ⟨hvalue, hitems, hmembers⟩ := ih
      constructor
      · intro lim cs v rest h lim' steps frames final hskip
        cases steps with
        | zero => nomatch hskip
        | succ steps =>
            rw [skipValueFrom_succ] at hskip
            obtain h | ⟨inner, items, text, htext, _, hread, _⟩
              | ⟨inner, members, text, htext, _, hread, _⟩ := readValueFrom_succ_eq_ok.mp h
            · split at hskip
              · nomatch hskip
              · next htoken =>
                  obtain ⟨rfl, rfl⟩ := skipToken_of_readScalar h htoken
                  use steps
                  apply hskip
            · rw [skipToken_eq, htext] at hskip
              apply hitems _ _ _ _ _ _ hread _ _ _ _ hskip
            · rw [skipToken_eq, htext] at hskip
              apply hmembers _ _ _ _ _ _ hread _ _ _ _ hskip
      constructor
      · intro lim first acc cs items rest h lim' steps frames final hskip
        obtain ⟨hlast, _⟩ | ⟨text, v, after, hnext, hread, hrest⟩ := readItemsFrom_succ_eq_ok.mp h
        · use steps
          rw [skipOn, skipClosing_of_lastItem hlast] at hskip
          apply hskip
        · obtain ⟨more, hgap, hclosing⟩ := skipClosing_of_nextItem hnext frames
          rw [skipOn, hclosing] at hskip
          rw [← readValueFrom_congr hgap] at hread
          obtain ⟨steps', hskip⟩ := hvalue _ _ _ _ hread _ _ _ _ hskip
          apply hitems _ _ _ _ _ _ hrest _ _ _ _ hskip
      · intro lim first acc cs members rest h lim' steps frames final hskip
        obtain ⟨hlast, _⟩ | ⟨text, name, afterName, afterColon, v, after, hnext, hname, hcolon,
          hread, hrest⟩ := readMembersFrom_succ_eq_ok.mp h
        · use steps
          rw [skipOn, skipClosing_of_lastMember hlast] at hskip
          apply hskip
        · obtain ⟨more, hgap, hclosing⟩ := skipClosing_of_nextMember hnext frames
          rw [skipOn, hclosing] at hskip
          simp only [List.head?_cons, if_true, skipName, hgap] at hskip
          cases hstring : skipString lim' text with
          | error f =>
              rw [hstring] at hskip
              nomatch hskip
          | ok afterString =>
              rw [hstring, readString_end hname hstring] at hskip
              simp only [hcolon] at hskip
              obtain ⟨steps', hskip⟩ := hvalue _ _ _ _ hread _ _ _ _ hskip
              apply hmembers _ _ _ _ _ _ hrest _ _ _ _ hskip

/-- A document that is passed over ends where it would end when it is read. -/
theorem skipValue_end {lim lim' : Limits} {fuel : Nat} {cs rest rest' : List Char} {v : Json}
    (h : readValueFrom fuel lim cs = .ok (v, rest)) (hskip : skipValue lim' cs = .ok ((), rest')) :
  rest' = rest
  := by
  unfold skipValue at hskip
  cases hfrom : skipValueFrom lim' (cs.length + 1) [] cs with
  | error f =>
      rw [hfrom] at hskip
      nomatch hskip
  | ok after =>
      rw [hfrom] at hskip
      obtain ⟨steps, hsteps⟩ := (skip_read fuel).1 _ _ _ _ h _ _ _ _ hfrom
      rw [← (Prod.mk.inj (Except.ok.inj hskip)).2]
      apply (Except.ok.inj hsteps).symm

end Greenhouse.Json
