import Greenhouse.Proofs.Json.Scan

/-!
# Numbers within a longer text

A number ends where the text ends, or where something follows that no number goes on with, such
as the comma behind a member.  What a number is read as does not depend on what follows it:
each of the readers that take a number apart leaves, of a longer text, what it left before and
what has been added.
-/

namespace Greenhouse.Json

/-- No number goes on with a text: it begins with no digit, no point and no exponent. -/
def EndsNumber (more : List Char) : Prop :=
  ∀ c ∈ more.head?, Text.isDigit c = false ∧ c ∉ ['.', 'e', 'E']

/-! ### Without a sign, and without an exponent -/

/-- Reads the digits of an exponent, from behind its sign. -/
def readPower (negative : Bool) (significand : Nat) (shift : Int) (down : Bool) :
    List Char → Except Fault (Json × List Char)
  | [] => .error .endInValue
  | c :: rest =>
    if Text.isDigit c then
      let after := (dropDigits 0 rest).2
      let n : Int := Text.decimal ((c :: rest).take (rest.length + 1 - after.length))
      ofParts negative significand (if down then shift - n else shift + n) after
    else .error .invalidNumber

section
variable {negative : Bool} {significand : Nat} {shift : Int} {cs rest : List Char} {v : Json}

theorem readExponent_of_unsigned {c : Char} (hplus : c ≠ '+') (hminus : c ≠ '-') :
  readExponent negative significand shift (c :: rest)
    = readPower negative significand shift false (c :: rest)
  := by
  unfold readExponent
  split
  next heq =>
    split at heq
    · next hsign => apply absurd (List.head_eq_of_cons_eq hsign) hplus
    · next hsign => apply absurd (List.head_eq_of_cons_eq hsign) hminus
    · obtain ⟨rfl, rfl⟩ := Prod.mk.inj heq
      rfl

theorem readScale_eq_ofParts (hlower : ∀ rest, cs ≠ 'e' :: rest)
    (hupper : ∀ rest, cs ≠ 'E' :: rest) :
  readScale negative significand shift cs = ofParts negative significand shift cs
  := by
  unfold readScale
  split
  · apply absurd rfl (hlower _)
  · apply absurd rfl (hupper _)
  · rfl

theorem ofParts_append (h : ofParts negative significand shift cs = .ok (v, rest))
    (more : List Char) :
  ofParts negative significand shift (cs ++ more) = .ok (v, rest ++ more)
  := by
  unfold ofParts at h ⊢
  split at h
  · obtain ⟨rfl, rfl⟩ := Prod.mk.inj (Except.ok.inj h)
    rfl
  · nomatch h

end

/-! ### Digits -/

section
variable {more : List Char} (hmore : startsWithDigit more = false)
include hmore

theorem takeDigits_append_of_not_digit (significand count : Nat) (cs : List Char) :
  takeDigits significand count (cs ++ more)
    = ((takeDigits significand count cs).1, (takeDigits significand count cs).2.1,
        (takeDigits significand count cs).2.2 ++ more)
  := by
  induction cs generalizing significand count with
  | nil =>
      cases more with
      | nil => rfl
      | cons c rest =>
          rw [List.nil_append, takeDigits, takeDigits]
          split
          · next hdigit =>
              rw [startsWithDigit, isDigit_of_digitValue? hdigit] at hmore
              cases hmore
          · rfl
  | cons c rest ih =>
      rw [List.cons_append, takeDigits, takeDigits]
      split
      · split
        · rfl
        · apply ih
      · rfl

end

theorem EndsNumber.startsWithDigit {more : List Char} (h : EndsNumber more) :
  startsWithDigit more = false
  := by
  cases more with
  | nil => rfl
  | cons c rest => apply (h c rfl).1

section
variable {more : List Char} (hmore : EndsNumber more)
include hmore

theorem startsWithDigit_append (cs : List Char) :
  startsWithDigit (cs ++ more) = startsWithDigit cs
  := by
  cases cs with
  | nil => apply hmore.startsWithDigit
  | cons c rest => rfl

/-- A longer text begins with a point or an exponent only if the text before it does. -/
theorem append_ne_cons {c : Char} (hc : c ∈ ['.', 'e', 'E']) {cs : List Char}
    (h : ∀ rest, cs = c :: rest → False) (rest : List Char) :
  cs ++ more ≠ c :: rest
  := by
  intro heq
  cases cs with
  | nil =>
      apply (hmore c _).2 hc
      rw [List.nil_append] at heq
      rw [heq]
      rfl
  | cons d digits =>
      obtain ⟨rfl, _⟩ := List.cons.inj heq
      apply h digits rfl

theorem takeDigits_append (significand count : Nat) (cs : List Char) :
  takeDigits significand count (cs ++ more)
    = ((takeDigits significand count cs).1, (takeDigits significand count cs).2.1,
        (takeDigits significand count cs).2.2 ++ more)
  := takeDigits_append_of_not_digit hmore.startsWithDigit significand count cs

theorem dropDigits_append (count : Nat) (cs : List Char) :
  dropDigits count (cs ++ more) = ((dropDigits count cs).1, (dropDigits count cs).2 ++ more)
  := by
  induction cs generalizing count with
  | nil =>
      cases more with
      | nil => rfl
      | cons c rest =>
          rw [List.nil_append, dropDigits, dropDigits,
            if_neg (Bool.eq_false_iff.mp (hmore c rfl).1)]
          rfl
  | cons c rest ih =>
      rw [List.cons_append, dropDigits, dropDigits]
      split
      · apply ih
      · rfl

/-! ### Numbers -/

variable {negative : Bool} {significand : Nat} {shift : Int} {cs rest : List Char} {v : Json}

theorem readPower_append (down : Bool)
    (h : readPower negative significand shift down cs = .ok (v, rest)) :
  readPower negative significand shift down (cs ++ more) = .ok (v, rest ++ more)
  := by
  cases cs with
  | nil => nomatch h
  | cons c digits =>
      rw [readPower] at h
      rw [List.cons_append, readPower]
      split at h
      · next hc =>
          have hafter := dropDigits_append hmore 0 digits
          have hlength : (digits ++ more).length + 1
                - ((dropDigits 0 digits).2 ++ more).length
              = digits.length + 1 - (dropDigits 0 digits).2.length := by
            simp only [List.length_append]
            omega
          have htaken : (c :: (digits ++ more)).take
                (digits.length + 1 - (dropDigits 0 digits).2.length)
              = (c :: digits).take (digits.length + 1 - (dropDigits 0 digits).2.length) := by
            rw [← List.cons_append, List.take_append_of_le_length]
            apply Nat.sub_le
          simp only [if_pos hc, hafter, hlength, htaken]
          apply ofParts_append h more
      · nomatch h

theorem readExponent_append (h : readExponent negative significand shift cs = .ok (v, rest)) :
  readExponent negative significand shift (cs ++ more) = .ok (v, rest ++ more)
  := by
  cases cs with
  | nil => nomatch h
  | cons c digits =>
      by_cases hplus : c = '+'
      · subst hplus
        apply readPower_append hmore false h
      · by_cases hminus : c = '-'
        · subst hminus
          apply readPower_append hmore true h
        · rw [readExponent_of_unsigned hplus hminus] at h
          rw [List.cons_append, readExponent_of_unsigned hplus hminus]
          apply readPower_append hmore false h

theorem readScale_append (h : readScale negative significand shift cs = .ok (v, rest)) :
  readScale negative significand shift (cs ++ more) = .ok (v, rest ++ more)
  := by
  unfold readScale at h
  split at h
  · apply readExponent_append hmore h
  · apply readExponent_append hmore h
  · next hlower hupper =>
      rw [readScale_eq_ofParts (append_ne_cons hmore (by decide) hlower)
        (append_ne_cons hmore (by decide) hupper)]
      apply ofParts_append h more

theorem readFraction_append (h : readFraction negative significand shift cs = .ok (v, rest)) :
  readFraction negative significand shift (cs ++ more) = .ok (v, rest ++ more)
  := by
  unfold readFraction at h ⊢
  simp only [takeDigits_append hmore, startsWithDigit_append hmore, dropDigits_append hmore] at h ⊢
  split at h
  · next hdigit =>
      rw [if_pos hdigit]
      apply readScale_append hmore h
  · next hdigit =>
      rw [if_neg hdigit]
      split at h
      · split at h <;> nomatch h
      · next hcount =>
          rw [if_neg hcount]
          apply readScale_append hmore h

theorem readTail_append (h : readTail negative significand cs = .ok (v, rest)) :
  readTail negative significand (cs ++ more) = .ok (v, rest ++ more)
  := by
  unfold readTail at h
  split at h
  · apply readFraction_append hmore h
  · apply readExponent_append hmore h
  · apply readExponent_append hmore h
  · next hpoint hlower hupper =>
      obtain ⟨rfl, rfl⟩ := Prod.mk.inj (Except.ok.inj h)
      rw [readTail]
      · apply append_ne_cons hmore (by decide) hpoint
      · apply append_ne_cons hmore (by decide) hlower
      · apply append_ne_cons hmore (by decide) hupper

/-- A number is the same whatever follows it. -/
theorem readNumber_append (h : readNumber negative cs = .ok (v, rest)) :
  readNumber negative (cs ++ more) = .ok (v, rest ++ more)
  := by
  unfold readNumber at h
  split at h
  · nomatch h
  · next digits =>
      rw [List.cons_append, readNumber, startsWithDigit_append hmore]
      split at h
      · nomatch h
      · next hdigit =>
          rw [if_neg hdigit]
          apply readTail_append hmore h
  · next c digits hzero =>
      rw [List.cons_append, readNumber]
      · split at h
        · nomatch h
        · next d hd =>
            simp only [takeDigits_append hmore, startsWithDigit_append hmore,
              dropDigits_append hmore]
            simp only at h
            split at h
            · next hdigit =>
                rw [if_pos hdigit]
                split at h
                · next heq =>
                    rw [heq]
                    apply readFraction_append hmore h
                · next hpoint =>
                    split
                    · next heq => apply absurd heq (append_ne_cons hmore (by decide) hpoint _)
                    · apply readScale_append hmore h
            · next hdigit =>
                rw [if_neg hdigit]
                apply readTail_append hmore h
      · apply hzero

end

end Greenhouse.Json
