import Mathlib.Tactic.Common
import Mathlib.Tactic.IntervalCases
import Greenhouse.Json.Printer
import Greenhouse.Proofs.Json.Append
import Greenhouse.Proofs.Json.Follow
import Greenhouse.Proofs.Json.Skip

/-!
# Integers

An integer is written in decimal digits.  As long as it has 64 bits, which is `Json.IsWord`, all of
them go into the significand when it is read, and it is read as it was.  No text is read as an
integer of more bits, and what has a fraction or an exponent is never read as an integer.
-/

namespace Greenhouse.Json

/-- An integer has 64 bits, with a sign or without one. -/
def IsWord (n : Int) : Prop := -2 ^ 63 ≤ n ∧ n < 2 ^ 64

/-! ### Reading digits -/

theorem digitValue?_of_isDigit {c : Char} (h : c.isDigit = true) :
  Text.digitValue? 10 c = some (c.toNat - 48)
  := by
  have hdecimal : '0' ≤ c ∧ c ≤ '9' := by
    rw [Char.isDigit, Bool.and_eq_true, decide_eq_true_eq, decide_eq_true_eq] at h
    apply h
  have hlast : c.toNat ≤ 57 := hdecimal.2
  rw [Text.digitValue?, if_pos hdecimal]
  apply Option.filter_eq_some_iff.mpr
  use rfl
  apply decide_eq_true
  omega

theorem le_ofDigitChars (digits : List Char) (n : Nat) :
  n ≤ Nat.ofDigitChars 10 digits n
  := by
  induction digits generalizing n with
  | nil => apply Nat.le_refl
  | cons c rest ih =>
      rw [Nat.ofDigitChars_cons]
      apply Nat.le_trans _ (ih _)
      omega

/-- Digits that fit are all taken. -/
theorem takeDigits_of_fits {digits : List Char} (hdigits : ∀ c ∈ digits, c.isDigit = true)
    {significand : Nat} (hfits : Nat.ofDigitChars 10 digits significand ≤ maxSignificand)
    (count : Nat) :
  takeDigits significand count digits
    = (Nat.ofDigitChars 10 digits significand, count + digits.length, [])
  := by
  induction digits generalizing significand count with
  | nil => rfl
  | cons c rest ih =>
      have hshift : significand * 10 + (c.toNat - 48) = 10 * significand + (c.toNat - '0'.toNat) := by
        rw [Nat.mul_comm]
        rfl
      rw [Nat.ofDigitChars_cons] at hfits ⊢
      have hle := Nat.le_trans (le_ofDigitChars rest _) hfits
      rw [takeDigits, digitValue?_of_isDigit (hdigits c List.mem_cons_self)]
      simp only [hshift]
      rw [if_neg (Nat.not_lt.mpr hle), ih (fun d hd => hdigits d (List.mem_cons_of_mem c hd)) hfits,
        List.length_cons, Nat.add_right_comm, Nat.add_assoc]

/-- The digits of a positive number do not begin with a zero. -/
theorem toDigits_eq_cons {n : Nat} (h : 0 < n) :
  ∃ c rest, Nat.toDigits 10 n = c :: rest ∧ c ≠ '0'
  := by
  induction n using Nat.strong_induction_on with
  | h n ih =>
      rw [Nat.toDigits_eq_if (by decide)]
      split
      · next hsmall =>
          use n.digitChar, [], rfl
          interval_cases n
          all_goals decide
      · next hlarge =>
          obtain ⟨c, rest, hdigits, hc⟩ := ih (n / 10) (by omega) (by omega)
          use c, rest ++ [(n % 10).digitChar]
          rw [hdigits]
          use rfl

/-- The digits of a number that fits are read as the number. -/
theorem readNumber_toDigits {n : Nat} (h : n ≤ maxSignificand) (negative : Bool) :
  readNumber negative (Nat.toDigits 10 n) = .ok (ofInteger negative n, [])
  := by
  obtain rfl | hpos := Nat.eq_zero_or_pos n
  · rfl
  · obtain ⟨c, rest, hdigits, hc⟩ := toDigits_eq_cons hpos
    have hall : ∀ d ∈ c :: rest, d.isDigit = true := by
      rw [← hdigits]
      intro d
      apply Nat.isDigit_of_mem_toDigits (by decide) (by decide)
    have hvalue : Nat.ofDigitChars 10 rest (c.toNat - 48) = n := by
      have hvalue := Nat.ofDigitChars_ten_toDigits (n := n)
      rw [hdigits, Nat.ofDigitChars_cons, Nat.mul_zero, Nat.zero_add] at hvalue
      apply hvalue
    rw [hdigits, readNumber]
    · simp only [digitValue?_of_isDigit (hall c List.mem_cons_self)]
      rw [takeDigits_of_fits (fun d hd => hall d (List.mem_cons_of_mem c hd)) (hvalue.trans_le h),
        hvalue]
      rfl
    · apply hc

theorem readScalar_of_digit {c : Char} (h : Text.isDigit c = true) (lim : Limits)
    (rest : List Char) :
  readScalar lim (c :: rest) = readNumber false (c :: rest)
  := by
  rw [readScalar, if_pos h]
  all_goals
    rintro rfl
    apply absurd h (by decide)

/-- A written integer of 64 bits is read as it was. -/
theorem readScalar_int {n : Int} (h : IsWord n) (lim : Limits) :
  readScalar lim (Json.int n).chars = .ok (.int n, [])
  := by
  obtain ⟨hlow, hhigh⟩ := h
  have hmax : maxSignificand = 2 ^ 64 - 1 := rfl
  rw [chars, Int.toString_eq_repr, Int.repr_eq_if]
  split
  · next hsign =>
      have hfits : n.toNat ≤ maxSignificand := by omega
      have hinteger : ofInteger false n.toNat = .int n := congrArg Json.int (Int.toNat_of_nonneg hsign)
      rw [Nat.toList_repr]
      cases hdigits : Nat.toDigits 10 n.toNat with
      | nil => apply absurd hdigits Nat.toDigits_ne_nil
      | cons c rest =>
          have hc : c.isDigit = true := by
            have hmem : c ∈ Nat.toDigits 10 n.toNat := by
              rw [hdigits]
              apply List.mem_cons_self
            apply Nat.isDigit_of_mem_toDigits (by decide) (by decide) hmem
          have hdigit : Text.isDigit c = true := isDigit_of_digitValue? (digitValue?_of_isDigit hc)
          rw [readScalar_of_digit hdigit, ← hdigits, readNumber_toDigits hfits, hinteger]
  · next hsign =>
      have hfits : (-n).toNat ≤ maxSignificand := by omega
      have hpos : (-n).toNat ≠ 0 := by omega
      have hword : (-n).toNat ≤ Nat.pow 2 63 := by
        change (-n).toNat ≤ 2 ^ 63
        omega
      have hvalue : -((-n).toNat : Int) = n := by omega
      have hinteger : ofInteger true (-n).toNat = .int n := by
        rw [ofInteger, if_pos rfl, if_neg hpos, if_pos hword, hvalue]
      rw [String.toList_append, Nat.toList_repr]
      change readNumber true (Nat.toDigits 10 (-n).toNat) = _
      rw [readNumber_toDigits hfits, hinteger]

/-! ### What is read as an integer -/

section
variable {negative : Bool} {significand : Nat} {shift : Int} {cs rest : List Char} {v : Json}

theorem ofParts_eq_float (h : ofParts negative significand shift cs = .ok (v, rest)) :
  ∃ d, v = .float d
  := by
  rw [ofParts] at h
  split at h
  · next d _ =>
      use d
      apply (Prod.mk.inj (Except.ok.inj h)).1.symm
  · cases h

theorem readExponent_eq_float (h : readExponent negative significand shift cs = .ok (v, rest)) :
  ∃ d, v = .float d
  := by
  unfold readExponent at h
  simp only at h
  split at h
  · nomatch h
  · split at h
    · apply ofParts_eq_float h
    · nomatch h

theorem readScale_eq_float (h : readScale negative significand shift cs = .ok (v, rest)) :
  ∃ d, v = .float d
  := by
  unfold readScale at h
  split at h
  · apply readExponent_eq_float h
  · apply readExponent_eq_float h
  · apply ofParts_eq_float h

theorem readFraction_eq_float (h : readFraction negative significand shift cs = .ok (v, rest)) :
  ∃ d, v = .float d
  := by
  unfold readFraction at h
  simp only at h
  split at h
  · apply readScale_eq_float h
  · split at h
    · split at h <;> nomatch h
    · apply readScale_eq_float h

theorem takeDigits_le (h : significand ≤ maxSignificand) (count : Nat) (cs : List Char) :
  (takeDigits significand count cs).1 ≤ maxSignificand
  := by
  induction cs generalizing significand count with
  | nil => apply h
  | cons c rest ih =>
      rw [takeDigits]
      split
      · split
        · apply h
        · next hle => apply ih (Nat.not_lt.mp hle)
      · apply h

/-- What is read as a number is an integer of 64 bits or no integer. -/
def IsNumber : Json → Prop
  | .int n => IsWord n
  | .float _ => True
  | _ => False

theorem isNumber_ofInteger (h : significand ≤ maxSignificand) :
  IsNumber (ofInteger negative significand)
  := by
  have hmax : maxSignificand = 2 ^ 64 - 1 := rfl
  have hhalf : Nat.pow 2 63 = 2 ^ 63 := rfl
  rw [ofInteger]
  split
  · split
    · trivial
    · split
      · constructor <;> omega
      · trivial
  · constructor <;> omega

theorem isNumber_of_float (h : ∃ d, v = .float d) :
  IsNumber v
  := by
  obtain ⟨d, rfl⟩ := h
  trivial

theorem readTail_isNumber (hfits : significand ≤ maxSignificand)
    (h : readTail negative significand cs = .ok (v, rest)) :
  IsNumber v
  := by
  unfold readTail at h
  split at h
  · apply isNumber_of_float (readFraction_eq_float h)
  · apply isNumber_of_float (readExponent_eq_float h)
  · apply isNumber_of_float (readExponent_eq_float h)
  · obtain ⟨rfl, _⟩ := Prod.mk.inj (Except.ok.inj h)
    apply isNumber_ofInteger hfits

theorem readNumber_isNumber (h : readNumber negative cs = .ok (v, rest)) :
  IsNumber v
  := by
  unfold readNumber at h
  split at h
  · nomatch h
  · split at h
    · nomatch h
    · apply readTail_isNumber (Nat.zero_le _) h
  · split at h
    · nomatch h
    · next d hd =>
        have hsmall : d < 10 := of_decide_eq_true (Option.filter_eq_some_iff.mp hd).2
        have hfits : d ≤ maxSignificand := Nat.le_trans (Nat.le_of_lt hsmall) (by decide)
        simp only at h
        split at h
        · split at h
          · apply isNumber_of_float (readFraction_eq_float h)
          · apply isNumber_of_float (readScale_eq_float h)
        · apply readTail_isNumber (takeDigits_le hfits _ _) h

/-- What is read as a scalar: null, a boolean, a string, or a number behind a sign or a digit. -/
theorem readScalar_cases {lim : Limits} (h : readScalar lim cs = .ok (v, rest)) :
  (v = .null ∧ ∃ more, cs = 'n' :: more) ∨ (∃ b, v = .bool b) ∨ (∃ s, v = .str s)
    ∨ IsNumber v ∧ ((∃ digits, cs = '-' :: digits ∧ readNumber true digits = .ok (v, rest))
      ∨ ∃ c digits, cs = c :: digits ∧ Text.isDigit c = true
        ∧ readNumber false cs = .ok (v, rest))
  := by
  unfold readScalar at h
  split at h
  · nomatch h
  · next more =>
      obtain ⟨_, _, heq⟩ := map_eq_ok.mp h
      left
      use (Prod.mk.inj heq).1.symm, more
  · obtain ⟨_, _, heq⟩ := map_eq_ok.mp h
    right
    left
    use true, (Prod.mk.inj heq).1.symm
  · obtain ⟨_, _, heq⟩ := map_eq_ok.mp h
    right
    left
    use false, (Prod.mk.inj heq).1.symm
  · next digits =>
      right
      right
      right
      use readNumber_isNumber h
      left
      use digits
  · obtain ⟨⟨s, _⟩, _, heq⟩ := map_eq_ok.mp h
    right
    right
    left
    use s, (Prod.mk.inj heq).1.symm
  · next c digits _ _ _ _ _ =>
      split at h
      · next hdigit =>
          right
          right
          right
          use readNumber_isNumber h
          right
          use c, digits
      · nomatch h

end

end Greenhouse.Json
