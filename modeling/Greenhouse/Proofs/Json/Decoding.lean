import Greenhouse.Proofs.Json.Grammar
import Greenhouse.Proofs.Json.Rereading

/-!
# Decoding

Every document of the grammar is read as what it denotes, behind any gap and in front of anything
that ends a number; together with what is known of a text that has been read, `Json.parse` gives a
document exactly for the texts that are one.
-/

namespace Greenhouse.Json

/-! ### Tokens and gaps -/

/-- No gap and no comma or bracket is the first character of a text. -/
def StartsToken (text : List Char) : Prop :=
  ∃ c rest, text = c :: rest ∧ isGap c = false ∧ c ∉ [',', ']']

/-- A text is read as a document behind any gap and in front of anything that ends a number, where
there is room for so many arrays and objects within each other.  Two steps for each character are
enough: every value takes one, and so does every item or member. -/
structure IsRead (room : Nat) (v : Json) (text : List Char) : Prop where
  starts : StartsToken text
  reads : ∀ ⦃lim steps gap more⦄, lim.stray? = none → room ≤ lim.room → 2 * text.length ≤ steps →
    Gap gap → EndsNumber more → readValueFrom steps lim (gap ++ (text ++ more)) = .ok (v, more)

section
variable {gap text more : List Char}

theorem skipGap_of_gap (hgap : Gap gap) (cs : List Char) :
  skipGap (gap ++ cs) = skipGap cs
  := List.dropWhile_append_of_pos hgap

theorem StartsToken.skipGap_append (h : StartsToken text) (more : List Char) :
  skipGap (text ++ more) = text ++ more
  := by
  obtain ⟨c, rest, rfl, hc, -⟩ := h
  apply List.dropWhile_cons_of_neg
  rw [hc]
  exact Bool.false_ne_true

theorem isGap_of_isDigit {c : Char} (h : Text.isDigit c = true) :
  isGap c = false
  := by
  by_contra hgap
  simp only [Bool.not_eq_false, isGap, Bool.or_eq_true, beq_iff_eq] at hgap
  obtain ((rfl | rfl) | rfl) | rfl := hgap
  all_goals contradiction

theorem startsToken_of_isDigits {digits : List Char} (h : IsDigits digits) (rest : List Char) :
  StartsToken (digits ++ rest)
  := by
  obtain ⟨c, more, rfl⟩ := List.exists_cons_of_ne_nil h.1
  have hc : Text.isDigit c = true := h.2 c List.mem_cons_self
  use c, more ++ rest, rfl, isGap_of_isDigit hc
  intro hmem
  simp only [List.mem_cons, List.not_mem_nil, or_false] at hmem
  obtain rfl | rfl := hmem
  all_goals nomatch hc

theorem isDigit_of_isGap {c : Char} (h : isGap c = true) :
  Text.isDigit c = false ∧ c ∉ ['.', 'e', 'E']
  := by
  simp only [isGap, Bool.or_eq_true, beq_iff_eq] at h
  obtain ((rfl | rfl) | rfl) | rfl := h
  all_goals decide

theorem endsNumber_of_gap (hgap : Gap gap) :
  EndsNumber gap
  := fun _ hc => isDigit_of_isGap (hgap _ (List.mem_of_mem_head? hc))

/-- A number ends before a gap and before anything that is no part of a number. -/
theorem endsNumber_gap_append (hgap : Gap gap) {c : Char} (hdigit : Text.isDigit c = false)
    (hc : c ∉ ['.', 'e', 'E']) (rest : List Char) :
  EndsNumber (gap ++ c :: rest)
  := by
  cases gap with
  | nil =>
      rintro _ ⟨⟩
      exact ⟨hdigit, hc⟩
  | cons d gap =>
      rintro _ ⟨⟩
      apply isDigit_of_isGap (hgap d List.mem_cons_self)

end

/-! ### Scalars -/

section
variable {lim : Limits} {v : Json} {text more : List Char}

theorem Scalar.startsToken (h : Scalar v text) :
  StartsToken text
  := by
  cases h with
  | null =>
      use 'n', "ull".toList, rfl
      decide
  | bool b =>
      cases b with
      | true =>
          use 't', "rue".toList, rfl
          decide
      | false =>
          use 'f', "alse".toList, rfl
          decide
  | @number n _ hv =>
      rw [Numeral.text]
      cases n.negative with
      | true =>
          use '-', n.unsigned, rfl
          decide
      | false => apply startsToken_of_isDigits n.isDigits_whole
  | str h =>
      refine ⟨'"', _, rfl, ?_⟩
      decide

/-- A scalar is read. -/
theorem Scalar.reads (h : Scalar v text) (hlim : lim.stray? = none) (hmore : EndsNumber more) :
  readScalar lim (text ++ more) = .ok (v, more)
  := by
  cases h with
  | null =>
      change (readWord "ull".toList ("ull".toList ++ more)).map _ = _
      apply map_readWord_eq_ok.mpr ⟨rfl, rfl⟩
  | bool b =>
      cases b with
      | true =>
          change (readWord "rue".toList ("rue".toList ++ more)).map _ = _
          apply map_readWord_eq_ok.mpr ⟨rfl, rfl⟩
      | false =>
          change (readWord "alse".toList ("alse".toList ++ more)).map _ = _
          apply map_readWord_eq_ok.mpr ⟨rfl, rfl⟩
  | @number n _ hv =>
      have hread := readNumber_unsigned n hmore
      rw [hv] at hread
      rw [Numeral.text]
      cases hsign : n.negative with
      | true =>
          rw [hsign] at hread
          apply hread
      | false =>
          rw [hsign] at hread
          obtain ⟨c, rest, hwhole⟩ := List.exists_cons_of_ne_nil n.isDigits_whole.1
          have hc : Text.isDigit c = true := by
            apply n.isDigits_whole.2 c
            rw [hwhole]
            apply List.mem_cons_self
          rw [Numeral.unsigned, hwhole] at hread ⊢
          apply (readScalar_of_digit hc lim _).trans hread
  | @str cs text h =>
      have hread : readString lim (text ++ '"' :: more) = .ok (String.ofList cs, more) :=
        readString_quotes hlim h more
      rw [List.cons_append, List.append_assoc, List.singleton_append, readScalar, hread]
      rfl

theorem Scalar.isRead (h : Scalar v text) (room : Nat) :
  IsRead room v text
  := by
  use h.startsToken
  intro lim steps gap more hlim _ hsteps hgap hmore
  cases steps with
  | zero =>
      obtain ⟨c, rest, rfl, -⟩ := h.startsToken
      nomatch hsteps
  | succ steps =>
      apply readValueFrom_succ_eq_ok.mpr
      left
      rw [skipGap_of_gap hgap, h.startsToken.skipGap_append, h.reads hlim hmore]

end

/-! ### Arrays and objects -/

section
variable {p : Json → List Char → Prop} {room : Nat} (hp : ∀ v text, p v text → IsRead room v text)
  {lim : Limits} (hlim : lim.stray? = none) (hroom : room ≤ lim.room)

theorem Items.endsNumber {items : List Json} {body : List Char} (h : Items p false items body)
    (more : List Char) :
  EndsNumber (body ++ ']' :: more)
  := by
  cases h with
  | nil hgap => apply endsNumber_gap_append hgap <;> decide
  | cons hgap =>
      rw [List.append_assoc]
      apply endsNumber_gap_append hgap <;> decide

theorem Members.endsNumber {members : List (String × Json)} {body : List Char}
    (h : Members p false members body) (more : List Char) :
  EndsNumber (body ++ '\x7d' :: more)
  := by
  cases h with
  | nil hgap => apply endsNumber_gap_append hgap <;> decide
  | cons hgap =>
      rw [List.append_assoc]
      apply endsNumber_gap_append hgap <;> decide

/-- The next member is found behind gaps and a comma. -/
theorem nextMember_comma {first : Bool} {gap gap' : List Char} (hgap : Gap gap) (hgap' : Gap gap')
    (cs : List Char) :
  nextMember first (gap ++ (comma first ++ (gap' ++ '"' :: cs))) = .ok (.inl cs)
  := by
  rw [nextMember, skipGap_of_gap hgap]
  cases first with
  | true =>
      have hskip : skipGap (comma true ++ (gap' ++ '"' :: cs)) = '"' :: cs := skipGap_of_gap hgap' _
      rw [hskip]
      rfl
  | false =>
      have hskip : skipGap (gap' ++ '"' :: cs) = '"' :: cs := skipGap_of_gap hgap' _
      have hcomma : skipGap (comma false ++ (gap' ++ '"' :: cs)) = ',' :: (gap' ++ '"' :: cs) := rfl
      rw [hcomma]
      simp only [hskip, Bool.false_eq_true, if_false]

include hp hlim hroom

theorem Items.reads {first : Bool} {items : List Json} {body : List Char}
    (h : Items p first items body) {steps : Nat} (hsteps : 2 * body.length < steps)
    (before : List Json) (more : List Char) :
  readItemsFrom steps lim first before (body ++ ']' :: more) = .ok (before.reverse ++ items, more)
  := by
  induction h generalizing steps before with
  | nil hgap =>
      cases steps with
      | zero => apply absurd hsteps (Nat.not_lt_zero _)
      | succ steps =>
          apply readItemsFrom_succ_eq_ok.mpr
          left
          rw [nextItem, skipGap_of_gap hgap, List.append_nil]
          constructor <;> rfl
  | @cons first v items gap gap' text rest hgap hgap' hv hrest ih =>
      cases steps with
      | zero => apply absurd hsteps (Nat.not_lt_zero _)
      | succ steps =>
          have htext := hp v text hv
          obtain ⟨c, start, hstart, hc, hmark⟩ := htext.starts
          have hpos : 0 < text.length := by
            rw [hstart]
            apply Nat.succ_pos
          simp only [List.length_append] at hsteps
          have hskip : skipGap (gap' ++ (text ++ (rest ++ ']' :: more)))
              = text ++ (rest ++ ']' :: more) := by
            rw [skipGap_of_gap hgap', htext.starts.skipGap_append]
          have hnext : nextItem first
                (gap ++ (comma first ++ (gap' ++ (text ++ rest))) ++ ']' :: more)
              = .ok (.inl (text ++ (rest ++ ']' :: more))) := by
            rw [← hskip]
            apply nextItem_of_value
            · rw [hskip, hstart, List.cons_append]
            · apply hmark
            · simp only [List.append_assoc]
              rw [skipGap_of_gap hgap]
              cases first <;> rfl
          have hlength : 2 * text.length ≤ steps := by omega
          have hread := htext.reads hlim hroom hlength gap_nil (hrest.endsNumber more)
          apply readItemsFrom_succ_eq_ok.mpr
          right
          refine ⟨_, v, _, hnext, hread, ?_⟩
          rw [ih (by omega), List.reverse_cons, List.append_assoc, List.singleton_append]

theorem Members.reads {first : Bool} {members : List (String × Json)} {body : List Char}
    (h : Members p first members body) {steps : Nat} (hsteps : 2 * body.length < steps)
    (before : List (String × Json)) (more : List Char) :
  readMembersFrom steps lim first before (body ++ '\x7d' :: more)
    = .ok (Table.putAll before members, more)
  := by
  induction h generalizing steps before with
  | nil hgap =>
      cases steps with
      | zero => apply absurd hsteps (Nat.not_lt_zero _)
      | succ steps =>
          apply readMembersFrom_succ_eq_ok.mpr
          left
          rw [nextMember, skipGap_of_gap hgap]
          constructor <;> rfl
  | @cons first key v members gap gap' name behind before' text rest hgap hgap' hname hbehind
      hbefore hv hrest ih =>
      cases steps with
      | zero => apply absurd hsteps (Nat.not_lt_zero _)
      | succ steps =>
          have htext := hp v text hv
          simp only [List.length_append, List.length_cons] at hsteps
          simp only [List.append_assoc, List.cons_append]
          generalize hafter : rest ++ '\x7d' :: more = after
          have hcolon : readColon (behind ++ ':' :: (before' ++ (text ++ after)))
              = .ok (before' ++ (text ++ after)) := by
            rw [readColon, skipGap_of_gap hbehind]
            rfl
          generalize behind ++ ':' :: (before' ++ (text ++ after)) = colon at hcolon ⊢
          have hkey : readString lim (name ++ '"' :: colon) = .ok (String.ofList key, colon) :=
            readString_quotes hlim hname colon
          have hnext :
              nextMember first (gap ++ (comma first ++ (gap' ++ '"' :: (name ++ '"' :: colon))))
                = .ok (.inl (name ++ '"' :: colon)) := nextMember_comma hgap hgap' _
          have hlength : 2 * text.length ≤ steps := by omega
          have hends : EndsNumber after := by
            rw [← hafter]
            apply hrest.endsNumber more
          have hread := htext.reads hlim hroom hlength hbefore hends
          apply readMembersFrom_succ_eq_ok.mpr
          right
          refine ⟨_, _, _, _, v, _, hnext, hkey, hcolon, hread, ?_⟩
          rw [← hafter, ih (by omega)]
          rfl

end

/-- An array or object is read where there is room for one more. -/
theorem Compound.isRead {p : Json → List Char → Prop} {room : Nat}
    (hp : ∀ v text, p v text → IsRead room v text) {v : Json} {text : List Char}
    (h : Compound p v text) :
  IsRead (room + 1) v text
  := by
  cases h with
  | @arr items body hitems =>
      have hstarts : StartsToken ('[' :: (body ++ [']'])) := ⟨'[', _, rfl, by decide⟩
      use hstarts
      intro lim steps gap more hlim hroom hsteps hgap _
      obtain ⟨inner, hinner, hwithin, hstray⟩ := lim.enter_of_lt (Nat.lt_of_succ_le hroom)
      rw [List.length_cons, List.length_append] at hsteps
      cases steps with
      | zero => nomatch hsteps
      | succ steps =>
          have hlength : 2 * body.length < steps := by omega
          have hread := hitems.reads hp (hstray.trans hlim) hwithin hlength [] more
          apply readValueFrom_succ_eq_ok.mpr
          right
          left
          use inner, items, body ++ ']' :: more
          rw [skipGap_of_gap hgap, hstarts.skipGap_append]
          refine ⟨?_, hinner, hread, rfl⟩
          simp
  | @obj members body hmembers =>
      have hstarts : StartsToken ('\x7b' :: (body ++ ['\x7d'])) := ⟨'\x7b', _, rfl, by decide⟩
      use hstarts
      intro lim steps gap more hlim hroom hsteps hgap _
      obtain ⟨inner, hinner, hwithin, hstray⟩ := lim.enter_of_lt (Nat.lt_of_succ_le hroom)
      rw [List.length_cons, List.length_append] at hsteps
      cases steps with
      | zero => nomatch hsteps
      | succ steps =>
          have hlength : 2 * body.length < steps := by omega
          have hread := hmembers.reads hp (hstray.trans hlim) hwithin hlength [] more
          apply readValueFrom_succ_eq_ok.mpr
          right
          right
          use inner, Table.putAll [] members, body ++ '\x7d' :: more
          rw [skipGap_of_gap hgap, hstarts.skipGap_append]
          refine ⟨?_, hinner, hread, rfl⟩
          simp

/-- Every document is read. -/
theorem Denotes.isRead {room : Nat} {v : Json} {text : List Char} (h : Denotes room v text) :
  IsRead room v text
  := by
  induction room generalizing v text with
  | zero => apply Scalar.isRead h
  | succ room ih =>
      obtain hscalar | hcompound := h
      · apply hscalar.isRead
      · apply hcompound.isRead fun _ _ => ih

/-- What a whole text is read as is the document that it is. -/
theorem parse_eq_ok_iff {text : String} {v : Json} :
  parse text = .ok v ↔ IsDocument Limits.ofText.room v text.toList
  := by
  rw [parse, Reader.run, finish_eq_ok_iff]
  constructor
  · rintro ⟨rest, hread, hend⟩
    obtain ⟨gap, token, hgap, hdenotes, htext⟩ := (recognizes _).value (lift_eq_ok.mp hread)
    use gap, token, rest, hgap, List.dropWhile_eq_nil_iff.mp hend, hdenotes, htext
  · rintro ⟨before, token, after, hbefore, hafter, hdenotes, htext⟩
    use after
    constructor
    · apply lift_eq_ok.mpr
      rw [htext]
      apply hdenotes.isRead.reads rfl (Nat.le_refl _) _ hbefore (endsNumber_of_gap hafter)
      simp only [List.length_append]
      omega
    · apply List.dropWhile_eq_nil_iff.mpr hafter

end Greenhouse.Json
