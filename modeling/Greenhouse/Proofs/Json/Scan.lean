import Mathlib.Tactic.Common
import Greenhouse.Json.Reader

/-!
# Where strings and numbers end

A string or number can be read, or it can be passed over without looking at what it is.  If
both are possible, they end at the same place.
-/

namespace Greenhouse.Json

/-! ### Digits -/

theorem isDigit_of_digitValue? {c : Char} {d : Nat} (h : Text.digitValue? 10 c = some d) :
  Text.isDigit c = true
  := by
  by_contra hdigit
  have hdecimal : ¬ ('0' ≤ c ∧ c ≤ '9') := by simpa [Text.isDigit] using hdigit
  obtain ⟨hvalue, hsmall⟩ := Option.filter_eq_some_iff.mp h
  have hsmall : d < 10 := of_decide_eq_true hsmall
  rw [if_neg hdecimal] at hvalue
  split at hvalue
  · next hletter =>
      have hle : 97 ≤ c.toNat := hletter.1
      obtain rfl := Option.some.inj hvalue
      omega
  · split at hvalue
    · next hletter =>
        have hle : 65 ≤ c.toNat := hletter.1
        obtain rfl := Option.some.inj hvalue
        omega
    · nomatch hvalue

theorem dropDigits_snd (count : Nat) (cs : List Char) :
  (dropDigits count cs).2 = cs.dropWhile Text.isDigit
  := by
  induction cs generalizing count with
  | nil => rfl
  | cons c rest ih =>
      rw [dropDigits, List.dropWhile_cons]
      split
      · apply ih
      · rfl

/-- Digits are taken as long as they fit, and after them may come more. -/
theorem dropWhile_takeDigits (significand count : Nat) (cs : List Char) :
  (takeDigits significand count cs).2.2.dropWhile Text.isDigit = cs.dropWhile Text.isDigit
  := by
  induction cs generalizing significand count with
  | nil => rfl
  | cons c rest ih =>
      rw [takeDigits]
      split
      · next d hd =>
          split
          · rfl
          · rw [ih, List.dropWhile_cons_of_pos (isDigit_of_digitValue? hd)]
      · rfl

theorem dropWhile_of_not_startsWithDigit {cs : List Char} (h : startsWithDigit cs = false) :
  cs.dropWhile Text.isDigit = cs
  := by
  cases cs with
  | nil => rfl
  | cons c rest =>
      apply List.dropWhile_cons_of_neg
      rw [Bool.not_eq_true]
      apply h

/-! ### Numbers -/

theorem ofParts_end {negative : Bool} {significand : Nat} {exponent : Int} {cs rest : List Char}
    {v : Json} (h : ofParts negative significand exponent cs = .ok (v, rest)) :
  rest = cs
  := by
  rw [ofParts] at h
  split at h
  · obtain ⟨_, rfl⟩ := Prod.mk.inj (Except.ok.inj h)
    rfl
  · nomatch h

/-- A text without the sign at its start. -/
def afterSign : List Char → List Char
  | '+' :: rest | '-' :: rest => rest
  | cs => cs

section
variable {negative : Bool} {significand : Nat} {shift : Int} {cs rest rest' : List Char} {v : Json}

theorem readExponent_end (h : readExponent negative significand shift cs = .ok (v, rest)) :
  rest = (afterSign cs).dropWhile Text.isDigit
  := by
  unfold readExponent at h
  simp only at h
  split at h
  · nomatch h
  · next c more hdigits =>
      have hsign : c :: more = afterSign cs := by
        rw [← hdigits]
        fun_cases afterSign cs
        · rfl
        · rfl
        · simp only
      split at h
      · next hc => rw [ofParts_end h, dropDigits_snd, ← hsign, List.dropWhile_cons_of_pos hc]
      · nomatch h

theorem skipExponent_end (h : skipExponent cs = .ok rest) :
  rest = (afterSign cs).dropWhile Text.isDigit
  := by
  have hsign : skipExponent cs
      = if startsWithDigit (afterSign cs) then .ok (dropDigits 0 (afterSign cs)).2
        else .error .invalidNumber := rfl
  rw [hsign] at h
  split at h
  · rw [← Except.ok.inj h, dropDigits_snd]
  · nomatch h

/-- The text after an exponent, if there is one. -/
def afterScale : List Char → List Char
  | 'e' :: rest | 'E' :: rest => (afterSign rest).dropWhile Text.isDigit
  | cs => cs

theorem afterScale_eq_self (hlower : ∀ rest, cs = 'e' :: rest → False)
    (hupper : ∀ rest, cs = 'E' :: rest → False) :
  afterScale cs = cs
  := by
  unfold afterScale
  split
  · apply absurd rfl (hlower _)
  · apply absurd rfl (hupper _)
  · rfl

theorem readScale_end (h : readScale negative significand shift cs = .ok (v, rest)) :
  rest = afterScale cs
  := by
  unfold readScale at h
  split at h
  · apply readExponent_end h
  · apply readExponent_end h
  · next hlower hupper => rw [ofParts_end h, afterScale_eq_self hlower hupper]

theorem readFraction_end (h : readFraction negative significand shift cs = .ok (v, rest)) :
  rest = afterScale (cs.dropWhile Text.isDigit)
  := by
  have hdigits := dropWhile_takeDigits significand 0 cs
  unfold readFraction at h
  simp only at h
  split at h
  · rw [readScale_end h, dropDigits_snd, hdigits]
  · next hmore =>
      rw [dropWhile_of_not_startsWithDigit (by simpa using hmore)] at hdigits
      split at h
      · split at h
        · nomatch h
        · nomatch h
      · rw [readScale_end h, hdigits]

/-- The text after a fraction and an exponent, if there are any. -/
def afterTail : List Char → List Char
  | '.' :: rest => afterScale (rest.dropWhile Text.isDigit)
  | cs => afterScale cs

theorem afterTail_eq_afterScale (hpoint : ∀ rest, cs = '.' :: rest → False) :
  afterTail cs = afterScale cs
  := by
  unfold afterTail
  split
  · apply absurd rfl (hpoint _)
  · rfl

theorem readTail_end (h : readTail negative significand cs = .ok (v, rest)) :
  rest = afterTail cs
  := by
  unfold readTail at h
  split at h
  · apply readFraction_end h
  · apply readExponent_end h
  · apply readExponent_end h
  · next hpoint hlower hupper =>
      rw [afterTail_eq_afterScale hpoint, afterScale_eq_self hlower hupper]
      obtain ⟨_, rfl⟩ := Prod.mk.inj (Except.ok.inj h)
      rfl

theorem skipTail_end (h : skipTail cs = .ok rest) :
  rest = afterTail cs
  := by
  unfold skipTail at h
  split at h
  · split at h
    · rw [dropDigits_snd] at h
      rw [afterTail]
      split at h
      · next heq => rw [heq, skipExponent_end h, afterScale]
      · next heq => rw [heq, skipExponent_end h, afterScale]
      · next hlower hupper => rw [afterScale_eq_self hlower hupper, Except.ok.inj h]
    · cases h
  · rw [skipExponent_end h, afterTail_eq_afterScale, afterScale]
    simp
  · rw [skipExponent_end h, afterTail_eq_afterScale, afterScale]
    simp
  · next hpoint hlower hupper =>
      rw [afterTail_eq_afterScale hpoint, afterScale_eq_self hlower hupper, Except.ok.inj h]

/-- A number ends where it is passed over. -/
theorem readNumber_end (h : readNumber negative cs = .ok (v, rest))
    (hskip : skipNumber cs = .ok rest') :
  rest' = rest
  := by
  unfold readNumber at h
  split at h
  · nomatch h
  · -- a zero
    rw [skipNumber] at hskip
    split at h
    · nomatch h
    · next hdigit =>
        rw [if_neg hdigit] at hskip
        rw [readTail_end h, skipTail_end hskip]
  · next c more hzero =>
      split at h
      · nomatch h
      · next d hd =>
          have hc := isDigit_of_digitValue? hd
          have htaken := dropWhile_takeDigits d 1 more
          have hskip : skipTail (more.dropWhile Text.isDigit) = .ok rest' := by
            unfold skipNumber at hskip
            split at hskip
            · next heq => apply absurd (List.head_eq_of_cons_eq heq) hzero
            · rwa [startsWithDigit, if_pos hc, dropDigits_snd, List.dropWhile_cons_of_pos hc]
                at hskip
          rw [skipTail_end hskip, ← htaken]
          simp only at h
          split at h
          · rw [dropDigits_snd] at h
            split at h
            · next hpoint => rw [readFraction_end h, hpoint, afterTail]
            · next hpoint => rw [readScale_end h, afterTail_eq_afterScale hpoint]
          · next hdigit =>
              rw [dropWhile_of_not_startsWithDigit (by simpa using hdigit), readTail_end h]

end

/-! ### Strings -/

section
variable {lim lim' : Limits} {cs rest rest' : List Char}

/-- Four digits are the same number whatever the limits are. -/
theorem readHex_eq {n : Nat} (h : readHex lim cs = .ok (n, rest)) (lim' : Limits) :
  readHex lim' cs = .ok (n, rest)
  := by
  unfold readHex at h ⊢
  split at h
  · split at h
    · apply h
    · nomatch h
  · split at h <;> nomatch h

/-- An escape ends where it is passed over, unless it is the first of two surrogates, and then
the second one is left. -/
theorem readEscape_end {c : Char} (h : readEscape lim cs = .ok (c, rest))
    (hskip : skipEscape lim' cs = .ok rest') :
  rest' = rest ∨ ∃ more, rest' = '\\' :: 'u' :: more ∧ skipEscape lim' ('u' :: more) = .ok rest
  := by
  unfold readEscape at h
  split at h
  · nomatch h
  · next code =>
      rw [skipEscape] at hskip
      unfold readCodePoint at h
      split at h
      · nomatch h
      · next n after hn =>
          rw [readHex_eq hn lim'] at hskip
          obtain rfl := Except.ok.inj hskip
          split at h
          · nomatch h
          · split at h
            · left
              apply (Prod.mk.inj (Except.ok.inj h)).2
            · split at h
              · nomatch h
              · nomatch h
              · next more =>
                  right
                  use more, rfl
                  split at h
                  · nomatch h
                  · next m last hm =>
                      rw [skipEscape, readHex_eq hm lim']
                      split at h
                      · nomatch h
                      · rw [← (Prod.mk.inj (Except.ok.inj h)).2]
                        rfl
              · nomatch h
  · next letter more hletter =>
      left
      split at h
      · next escaped heq =>
          unfold skipEscape at hskip
          split at hskip
          · contradiction
          · next heq => apply absurd (List.head_eq_of_cons_eq heq) hletter
          · next heq =>
              split at hskip
              · rw [← Except.ok.inj hskip, ← (List.cons.inj heq).2]
                apply (Prod.mk.inj (Except.ok.inj h)).2
              · nomatch hskip
      · nomatch h

/-- A string ends where it is passed over. -/
theorem readStringFrom_end {acc : List Char} {strayed : Bool} {fuel fuel' : Nat} {s : String}
    (h : readStringFrom lim acc strayed fuel cs = .ok (s, rest))
    (hskip : skipStringFrom lim' fuel' cs = .ok rest') :
  rest' = rest
  := by
  fun_induction readStringFrom lim acc strayed fuel cs generalizing fuel' with
  | case1 => nomatch h
  | case2 => nomatch h
  | case3 => nomatch h
  | case4 acc strayed fuel more hstrayed =>
      cases fuel' with
      | zero => nomatch hskip
      | succ fuel' =>
          rw [skipStringFrom] at hskip
          rw [← Except.ok.inj hskip]
          apply (Prod.mk.inj (Except.ok.inj h)).2
  | case5 acc strayed fuel more c after hescape ih =>
      cases fuel' with
      | zero => nomatch hskip
      | succ fuel' =>
          rw [skipStringFrom] at hskip
          split at hskip
          · next hskipped =>
              obtain rfl | ⟨second, rfl, hsecond⟩ := readEscape_end hescape hskipped
              · apply ih h hskip
              · -- the second surrogate is passed over as an escape of its own
                cases fuel' with
                | zero => nomatch hskip
                | succ fuel' =>
                    rw [skipStringFrom, hsecond] at hskip
                    apply ih h hskip
          · nomatch hskip
  | case6 => nomatch h
  | case7 => nomatch h
  | case8 acc strayed fuel c more hquote hbackslash hcontrol ih =>
      cases fuel' with
      | zero => nomatch hskip
      | succ fuel' =>
          rw [skipStringFrom, if_neg hcontrol] at hskip
          · apply ih h hskip
          · apply hquote
          · apply hbackslash

theorem readString_end {s : String} (h : readString lim cs = .ok (s, rest))
    (hskip : skipString lim' cs = .ok rest') :
  rest' = rest
  := readStringFrom_end h hskip

end

end Greenhouse.Json
