import Mathlib.Data.List.TakeWhile
import Mathlib.Tactic.SplitIfs
import Greenhouse.Proofs.Json.Append

/-!
# Numbers as they are written

A number is written as digits, perhaps with a sign in front of them, with a fraction and with an
exponent behind them; that is a `Json.Numeral`.  A whole number does not begin with a zero unless it
is zero.  The value of a numeral is what its digits make as long as they fit in 64 bits, times a
power of ten; a numeral beyond the largest number has none.  What is read as a number is a numeral,
and the number is its value.
-/

namespace Greenhouse.Json

/-! ### Numerals -/

/-- A row of digits, with at least one. -/
def IsDigits (cs : List Char) : Prop := cs ≠ [] ∧ ∀ c ∈ cs, Text.isDigit c = true

/-- The power of ten behind a number. -/
structure Power where
  mark : Char
  sign : Option Char
  digits : List Char
  mark_mem : mark ∈ ['e', 'E']
  sign_mem : ∀ c ∈ sign, c ∈ ['+', '-']
  isDigits : IsDigits digits

/-- The text of a power of ten. -/
def Power.text (p : Power) : List Char := p.mark :: (p.sign.toList ++ p.digits)

/-- The exponent of a power of ten. -/
def Power.exponent (p : Power) : Int :=
  if p.sign = some '-' then -(Text.decimal p.digits : Int) else Text.decimal p.digits

theorem Power.mark_eq (p : Power) :
  p.mark = 'e' ∨ p.mark = 'E'
  := by simpa using p.mark_mem

/-- A number as it is written. -/
structure Numeral where
  negative : Bool
  whole : List Char
  fraction : Option (List Char)
  power : Option Power
  isDigits_whole : IsDigits whole
  whole_zero : whole.head? = some '0' → whole = ['0']
  isDigits_fraction : ∀ digits ∈ fraction, IsDigits digits

namespace Numeral

/-- The text of a fraction and of the power of ten behind it. -/
def textFrom (fraction : Option (List Char)) (power : Option Power) : List Char :=
  (fraction.elim [] fun digits => '.' :: digits) ++ power.elim [] Power.text

/-- The text of a numeral without its sign. -/
def unsigned (n : Numeral) : List Char := n.whole ++ textFrom n.fraction n.power

/-- The text of a numeral. -/
def text (n : Numeral) : List Char := (if n.negative then ['-'] else []) ++ n.unsigned

/-- The value of a numeral with a significand, digits before the point that did not go into it,
a fraction and a power of ten, if that is finite.  Each digit of the fraction that fits goes into
the significand. -/
def valueFrom? (negative : Bool) (significand left : Nat) (fraction : Option (List Char))
    (power : Option Power) : Option Json :=
  if fraction = none ∧ power = none ∧ left = 0 then some (ofInteger negative significand)
  else
    let taken := takeDigits significand 0 (fraction.getD [])
    let shift : Int := left - taken.2.1
    (ofParts? negative taken.1 (shift + power.elim 0 Power.exponent)).map .float

/-- The value of a numeral, if that is finite. -/
def value? (n : Numeral) : Option Json :=
  let taken := takeDigits 0 0 n.whole
  valueFrom? n.negative taken.1 taken.2.2.length n.fraction n.power

/-- No numeral is an object. -/
theorem value?_ne_obj (n : Numeral) (members : List (String × Json)) :
  n.value? ≠ some (.obj members)
  := by
  rw [value?, valueFrom?]
  split
  · rw [ofInteger]
    split_ifs <;> nofun
  · intro h
    obtain ⟨d, -, hd⟩ := Option.map_eq_some_iff.mp h
    nomatch hd

end Numeral

/-! ### Digits -/

section
variable {digits rest : List Char}

theorem dropDigits_of_digits (hdigits : ∀ c ∈ digits, Text.isDigit c = true)
    (hrest : startsWithDigit rest = false) (count : Nat) :
  dropDigits count (digits ++ rest) = (count + digits.length, rest)
  := by
  induction digits generalizing count with
  | nil =>
      cases rest with
      | nil => rfl
      | cons c more =>
          have hc : ¬ Text.isDigit c = true := Bool.eq_false_iff.mp hrest
          rw [List.nil_append, dropDigits, if_neg hc]
          rfl
  | cons c more ih =>
      rw [List.cons_append, dropDigits, if_pos (hdigits c List.mem_cons_self),
        ih (fun d hd => hdigits d (List.mem_cons_of_mem c hd)), List.length_cons, Nat.add_assoc,
        Nat.add_comm 1]

theorem exists_digitValue? {c : Char} (h : Text.isDigit c = true) :
  ∃ d, Text.digitValue? 10 c = some d ∧ d < 10
  := by
  have hdecimal : '0' ≤ c ∧ c ≤ '9' := by simpa [Text.isDigit] using h
  have hlast : c.toNat ≤ 57 := hdecimal.2
  have hsmall : c.toNat - 48 < 10 := by omega
  use c.toNat - 48
  rw [Text.digitValue?, if_pos hdecimal]
  use Option.filter_eq_some_iff.mpr ⟨rfl, decide_eq_true hsmall⟩

/-- Digits that are not taken are the last ones. -/
theorem takeDigits_left (hdigits : ∀ c ∈ digits, Text.isDigit c = true) (significand count : Nat) :
  (∀ c ∈ (takeDigits significand count digits).2.2, Text.isDigit c = true)
    ∧ (takeDigits significand count digits).2.1 + (takeDigits significand count digits).2.2.length
      = count + digits.length
  := by
  induction digits generalizing significand count with
  | nil =>
      constructor
      · nofun
      · rfl
  | cons c more ih =>
      have hmore : ∀ d ∈ more, Text.isDigit d = true := fun d hd =>
        hdigits d (List.mem_cons_of_mem c hd)
      rw [takeDigits]
      split
      · split
        · exact ⟨hdigits, rfl⟩
        · next d _ _ =>
            obtain ⟨hleft, hlength⟩ := ih hmore (significand * 10 + d) (count + 1)
            use hleft
            rw [hlength, List.length_cons]
            omega
      · exact ⟨hdigits, rfl⟩

theorem startsWithDigit_dropWhile (cs : List Char) :
  startsWithDigit (cs.dropWhile Text.isDigit) = false
  := by
  have hfirst := List.head?_dropWhile_not Text.isDigit cs
  cases hrest : cs.dropWhile Text.isDigit with
  | nil => rfl
  | cons c rest =>
      rw [hrest] at hfirst
      apply hfirst

end

/-- What ends a number does not go on with a point or an exponent. -/
theorem EndsNumber.ne_cons {more : List Char} (h : EndsNumber more) {c : Char}
    (hc : c ∈ ['.', 'e', 'E']) (rest : List Char) :
  more ≠ c :: rest
  := by
  rintro rfl
  apply (h c rfl).2 hc

/-! ### Reading a numeral -/

/-- What is read of a number: its value, if it has one. -/
def outcome (v? : Option Json) (rest : List Char) : Except Fault (Json × List Char) :=
  match v? with
  | some v => .ok (v, rest)
  | none => .error .numberOutOfRange

theorem outcome_eq_ok {v? : Option Json} {v : Json} {rest rest' : List Char} :
  outcome v? rest' = .ok (v, rest) ↔ v? = some v ∧ rest' = rest
  := by
  cases v? with
  | none => constructor <;> nofun
  | some w => simp [outcome]

/-- Reads what may follow the digits before the point, when so many of them did not fit. -/
def readBehind (negative : Bool) (significand left : Nat) (cs : List Char) :
    Except Fault (Json × List Char) :=
  if left = 0 then readTail negative significand cs
  else
    match cs with
    | '.' :: rest => readFraction negative significand left rest
    | rest => readScale negative significand left rest

section
variable {negative : Bool} {significand : Nat} {shift : Int} {digits rest cs : List Char} {v : Json}

theorem ofParts_eq_outcome (negative : Bool) (significand : Nat) (exponent : Int)
    (rest : List Char) :
  ofParts negative significand exponent rest
    = outcome ((ofParts? negative significand exponent).map .float) rest
  := by
  unfold ofParts
  cases ofParts? negative significand exponent <;> rfl

theorem readPower_digits (hdigits : IsDigits digits) (hrest : startsWithDigit rest = false)
    (down : Bool) :
  readPower negative significand shift down (digits ++ rest)
    = ofParts negative significand
        (if down then shift - Text.decimal digits else shift + Text.decimal digits) rest
  := by
  obtain ⟨hne, hall⟩ := hdigits
  cases digits with
  | nil => contradiction
  | cons c more =>
      have hmore : ∀ d ∈ more, Text.isDigit d = true := fun d hd =>
        hall d (List.mem_cons_of_mem c hd)
      have hcount : (more ++ rest).length + 1 - rest.length = (c :: more).length := by
        simp only [List.length_append, List.length_cons]
        omega
      rw [List.cons_append, readPower, if_pos (hall c List.mem_cons_self)]
      simp only [dropDigits_of_digits hmore hrest, hcount]
      rw [← List.cons_append, List.take_left]

/-- An exponent is read off its text. -/
theorem readExponent_power (p : Power) (hrest : startsWithDigit rest = false) :
  readExponent negative significand shift (p.sign.toList ++ p.digits ++ rest)
    = ofParts negative significand (shift + p.exponent) rest
  := by
  obtain ⟨mark, sign, digits, hmark, hsign, hdigits⟩ := p
  cases sign with
  | none =>
      obtain ⟨c, more, rfl⟩ := List.exists_cons_of_ne_nil hdigits.1
      have hc : Text.isDigit c = true := hdigits.2 c List.mem_cons_self
      have hplus : c ≠ '+' := by
        rintro rfl
        nomatch hc
      have hminus : c ≠ '-' := by
        rintro rfl
        nomatch hc
      change readExponent negative significand shift (c :: (more ++ rest)) = _
      rw [readExponent_of_unsigned hplus hminus, ← List.cons_append, readPower_digits hdigits hrest]
      rfl
  | some c =>
      have hc : c = '+' ∨ c = '-' := by simpa using hsign c rfl
      obtain rfl | rfl := hc
      · change readPower negative significand shift false (digits ++ rest) = _
        rw [readPower_digits hdigits hrest]
        rfl
      · change readPower negative significand shift true (digits ++ rest) = _
        rw [readPower_digits hdigits hrest, if_pos rfl, Int.sub_eq_add_neg]
        rfl

theorem readScale_power (power : Option Power) (hrest : EndsNumber rest) :
  readScale negative significand shift (power.elim [] Power.text ++ rest)
    = ofParts negative significand (shift + power.elim 0 Power.exponent) rest
  := by
  cases power with
  | none =>
      change readScale negative significand shift rest
        = ofParts negative significand (shift + 0) rest
      rw [Int.add_zero]
      apply readScale_eq_ofParts
      · apply hrest.ne_cons (by decide)
      · apply hrest.ne_cons (by decide)
  | some p =>
      have hread : readScale negative significand shift (p.text ++ rest)
          = readExponent negative significand shift (p.sign.toList ++ p.digits ++ rest) := by
        rw [Power.text, List.cons_append]
        obtain hmark | hmark := p.mark_eq
        · rw [hmark]
          rfl
        · rw [hmark]
          rfl
      apply hread.trans (readExponent_power p hrest.startsWithDigit)

theorem readFraction_digits (hdigits : IsDigits digits) (hrest : startsWithDigit rest = false) :
  readFraction negative significand shift (digits ++ rest)
    = readScale negative (takeDigits significand 0 digits).1
        (shift - (takeDigits significand 0 digits).2.1) rest
  := by
  obtain ⟨hleft, hlength⟩ := takeDigits_left hdigits.2 significand 0
  unfold readFraction
  simp only [takeDigits_append_of_not_digit hrest, dropDigits_of_digits hleft hrest]
  cases hcases : (takeDigits significand 0 digits).2.2 with
  | nil =>
      have hpos : 0 < digits.length := List.length_pos_iff.mpr hdigits.1
      rw [hcases, List.length_nil] at hlength
      rw [List.nil_append, if_neg (Bool.eq_false_iff.mp hrest), if_neg (by omega)]
  | cons c more =>
      rw [hcases] at hleft
      rw [List.cons_append, startsWithDigit, if_pos (hleft c List.mem_cons_self)]

theorem startsWithDigit_textFrom (fraction : Option (List Char)) (power : Option Power)
    (hrest : startsWithDigit rest = false) :
  startsWithDigit (Numeral.textFrom fraction power ++ rest) = false
  := by
  cases fraction with
  | some digits => rfl
  | none =>
      cases power with
      | none => apply hrest
      | some p =>
          change Text.isDigit p.mark = false
          obtain hmark | hmark := p.mark_eq <;> rw [hmark] <;> rfl

theorem readBehind_of_no_point {left : Nat} (hleft : left ≠ 0) (hpoint : ∀ more, cs ≠ '.' :: more) :
  readBehind negative significand left cs = readScale negative significand left cs
  := by
  unfold readBehind
  rw [if_neg hleft]
  split
  · apply absurd rfl (hpoint _)
  · rfl

theorem readTail_power (p : Power) :
  readTail negative significand (p.text ++ rest) = readScale negative significand 0 (p.text ++ rest)
  := by
  rw [Power.text, List.cons_append]
  obtain hmark | hmark := p.mark_eq
  · rw [hmark]
    rfl
  · rw [hmark]
    rfl

theorem readTail_of_endsNumber (hrest : EndsNumber rest) :
  readTail negative significand rest = .ok (ofInteger negative significand, rest)
  := by
  rw [readTail]
  all_goals apply hrest.ne_cons (by decide)

/-- Without a point, what follows the digits is a power of ten or nothing. -/
theorem readBehind_power {left : Nat} (power : Option Power) (hrest : EndsNumber rest) :
  readBehind negative significand left (power.elim [] Power.text ++ rest)
    = outcome (Numeral.valueFrom? negative significand left none power) rest
  := by
  have hscale : readScale negative significand left (power.elim [] Power.text ++ rest)
      = outcome
          ((ofParts? negative significand (left - (0 : Nat) + power.elim 0 Power.exponent)).map
            .float)
          rest := by
    rw [readScale_power power hrest, ofParts_eq_outcome]
    simp
  have hpoint : ∀ more, power.elim [] Power.text ++ rest ≠ '.' :: more := by
    cases power with
    | none => apply hrest.ne_cons (by decide)
    | some p =>
        intro more heq
        have hmark : '.' ∉ ['e', 'E'] := by decide
        apply hmark
        rw [← List.head_eq_of_cons_eq heq]
        apply p.mark_mem
  unfold Numeral.valueFrom?
  by_cases hleft : left = 0
  · subst hleft
    cases power with
    | none =>
        rw [if_pos ⟨rfl, rfl, rfl⟩]
        apply readTail_of_endsNumber hrest
    | some p =>
        rw [if_neg fun h => nomatch h.2.1]
        apply (readTail_power p).trans hscale
  · rw [readBehind_of_no_point hleft hpoint, if_neg fun h => hleft h.2.2]
    apply hscale

theorem readBehind_textFrom {left : Nat} {fraction : Option (List Char)}
    (hfraction : ∀ digits ∈ fraction, IsDigits digits) (power : Option Power)
    (hrest : EndsNumber rest) :
  readBehind negative significand left (Numeral.textFrom fraction power ++ rest)
    = outcome (Numeral.valueFrom? negative significand left fraction power) rest
  := by
  have hpower : startsWithDigit (power.elim [] Power.text ++ rest) = false :=
    startsWithDigit_textFrom none power hrest.startsWithDigit
  cases fraction with
  | some digits =>
      have hread : readBehind negative significand left
            (Numeral.textFrom (some digits) power ++ rest)
          = readFraction negative significand left
              (digits ++ (power.elim [] Power.text ++ rest)) := by
        unfold readBehind
        split
        · next hleft =>
          rw [hleft, ← List.append_assoc]
          rfl
        · rw [← List.append_assoc]
          rfl
      rw [hread, readFraction_digits (hfraction digits rfl) hpower, readScale_power power hrest,
        ofParts_eq_outcome]
      rfl
  | none => apply readBehind_power power hrest

theorem readNumber_whole (hdigits : IsDigits digits)
    (hzero : digits.head? = some '0' → digits = ['0']) (hrest : startsWithDigit rest = false) :
  readNumber negative (digits ++ rest)
    = readBehind negative (takeDigits 0 0 digits).1 (takeDigits 0 0 digits).2.2.length rest
  := by
  obtain ⟨c, more, rfl⟩ := List.exists_cons_of_ne_nil hdigits.1
  by_cases hc : c = '0'
  · subst hc
    obtain ⟨-, rfl⟩ := List.cons.inj (hzero rfl)
    rw [List.singleton_append, readNumber, if_neg (Bool.eq_false_iff.mp hrest)]
    rfl
  · have hdigit : Text.isDigit c = true := hdigits.2 c List.mem_cons_self
    have hmore : ∀ d ∈ more, Text.isDigit d = true := fun d hd =>
      hdigits.2 d (List.mem_cons_of_mem c hd)
    obtain ⟨d, hd, hsmall⟩ := exists_digitValue? hdigit
    have hfits : ¬ maxSignificand < d := by
      have hmax : maxSignificand = 2 ^ 64 - 1 := rfl
      omega
    have htaken : takeDigits 0 0 (c :: more) = takeDigits d 1 more := by
      rw [takeDigits, hd]
      simp only [Nat.zero_mul, Nat.zero_add, if_neg hfits]
    obtain ⟨hleft, -⟩ := takeDigits_left hmore d 1
    rw [List.cons_append, readNumber]
    · simp only [hd, takeDigits_append_of_not_digit hrest, htaken,
        dropDigits_of_digits hleft hrest, Nat.zero_add]
      generalize (takeDigits d 1 more).2.2 = left at hleft
      unfold readBehind
      cases left with
      | nil => rw [List.nil_append, if_neg (Bool.eq_false_iff.mp hrest), if_pos List.length_nil]
      | cons first others =>
          have hlength : (first :: others).length ≠ 0 := Nat.succ_ne_zero _
          have hstarts : startsWithDigit (first :: others ++ rest) = true :=
            hleft first List.mem_cons_self
          apply (if_pos hstarts).trans (if_neg hlength).symm
    · apply hc

end

/-- A numeral is read as its value. -/
theorem readNumber_unsigned (n : Numeral) {more : List Char} (hmore : EndsNumber more) :
  readNumber n.negative (n.unsigned ++ more) = outcome n.value? more
  := by
  have hbehind := startsWithDigit_textFrom n.fraction n.power hmore.startsWithDigit
  rw [Numeral.unsigned, List.append_assoc, readNumber_whole n.isDigits_whole n.whole_zero hbehind,
    readBehind_textFrom n.isDigits_fraction n.power hmore]
  rfl

/-! ### What is read as a number -/

section
variable {negative : Bool} {significand : Nat} {shift : Int} {rest cs : List Char} {v : Json}

theorem isDigits_takeWhile (h : startsWithDigit cs = true) :
  IsDigits (cs.takeWhile Text.isDigit)
  := by
  cases cs with
  | nil => nomatch h
  | cons c more =>
      have hc : Text.isDigit c = true := h
      constructor
      · rw [List.takeWhile_cons_of_pos hc]
        apply List.cons_ne_nil
      · intro d hd
        apply List.mem_takeWhile_imp hd

theorem exists_digits_of_readPower {down : Bool}
    (h : readPower negative significand shift down cs = .ok (v, rest)) :
  ∃ digits, IsDigits digits ∧ cs = digits ++ rest
    ∧ (ofParts? negative significand
        (if down then shift - Text.decimal digits else shift + Text.decimal digits)).map .float
      = some v
  := by
  have hsplit : cs.takeWhile Text.isDigit ++ cs.dropWhile Text.isDigit = cs :=
    List.takeWhile_append_dropWhile
  have hstarts : startsWithDigit cs = true := by
    by_contra hnot
    cases cs with
    | nil => cases h
    | cons c more =>
        have hc : ¬ Text.isDigit c = true := hnot
        rw [readPower, if_neg hc] at h
        cases h
  have hdigits := isDigits_takeWhile hstarts
  rw [← hsplit, readPower_digits hdigits (startsWithDigit_dropWhile cs), ofParts_eq_outcome] at h
  obtain ⟨hv, hrest⟩ := outcome_eq_ok.mp h
  use cs.takeWhile Text.isDigit, hdigits
  rw [← hrest, hsplit]
  use rfl, hv

theorem exists_power_of_readExponent {mark : Char} (hmark : mark ∈ ['e', 'E'])
    (h : readExponent negative significand shift cs = .ok (v, rest)) :
  ∃ p : Power, mark :: cs = p.text ++ rest
    ∧ (ofParts? negative significand (shift + p.exponent)).map .float = some v
  := by
  cases cs with
  | nil => nomatch h
  | cons c more =>
      by_cases hplus : c = '+'
      · subst hplus
        obtain ⟨digits, hdigits, rfl, hv⟩ := @exists_digits_of_readPower _ _ _ _ _ _ false h
        use ⟨mark, some '+', digits, hmark, by simp, hdigits⟩
        use rfl, hv
      · by_cases hminus : c = '-'
        · subst hminus
          obtain ⟨digits, hdigits, rfl, hv⟩ := @exists_digits_of_readPower _ _ _ _ _ _ true h
          use ⟨mark, some '-', digits, hmark, by simp, hdigits⟩
          use rfl
          rw [if_pos rfl, Int.sub_eq_add_neg] at hv
          apply hv
        · rw [readExponent_of_unsigned hplus hminus] at h
          obtain ⟨digits, hdigits, hcs, hv⟩ := exists_digits_of_readPower h
          use ⟨mark, none, digits, hmark, nofun, hdigits⟩
          rw [hcs]
          use rfl, hv

theorem exists_power_of_readScale (h : readScale negative significand shift cs = .ok (v, rest)) :
  ∃ power : Option Power, cs = power.elim [] Power.text ++ rest
    ∧ (ofParts? negative significand (shift + power.elim 0 Power.exponent)).map .float = some v
  := by
  have hlower : 'e' ∈ ['e', 'E'] := by decide
  have hupper : 'E' ∈ ['e', 'E'] := by decide
  unfold readScale at h
  split at h
  · obtain ⟨p, htext, hv⟩ := exists_power_of_readExponent hlower h
    use some p, htext, hv
  · obtain ⟨p, htext, hv⟩ := exists_power_of_readExponent hupper h
    use some p, htext, hv
  · rw [ofParts_eq_outcome] at h
    obtain ⟨hv, rfl⟩ := outcome_eq_ok.mp h
    use none, rfl
    simpa using hv

theorem exists_digits_of_readFraction
    (h : readFraction negative significand shift cs = .ok (v, rest)) :
  ∃ digits more, IsDigits digits ∧ cs = digits ++ more
    ∧ readScale negative (takeDigits significand 0 digits).1
        (shift - (takeDigits significand 0 digits).2.1) more = .ok (v, rest)
  := by
  have hsplit : cs.takeWhile Text.isDigit ++ cs.dropWhile Text.isDigit = cs :=
    List.takeWhile_append_dropWhile
  have hstarts : startsWithDigit cs = true := by
    by_contra hnot
    have htaken := takeDigits_append_of_not_digit (Bool.eq_false_iff.mpr hnot) significand 0 []
    rw [List.nil_append] at htaken
    unfold readFraction at h
    simp only [htaken, takeDigits, List.nil_append, if_neg hnot, if_pos] at h
    split at h <;> cases h
  have hdigits := isDigits_takeWhile hstarts
  rw [← hsplit, readFraction_digits hdigits (startsWithDigit_dropWhile cs)] at h
  use cs.takeWhile Text.isDigit, cs.dropWhile Text.isDigit, hdigits, hsplit.symm, h

/-- Behind a point come digits, and perhaps a power of ten. -/
theorem exists_textFrom_of_readFraction {left : Nat}
    (h : readFraction negative significand left cs = .ok (v, rest)) :
  ∃ fraction power, (∀ digits ∈ fraction, IsDigits digits)
    ∧ '.' :: cs = Numeral.textFrom fraction power ++ rest
    ∧ Numeral.valueFrom? negative significand left fraction power = some v
  := by
  obtain ⟨digits, behind, hdigits, rfl, hscale⟩ := exists_digits_of_readFraction h
  obtain ⟨power, rfl, hv⟩ := exists_power_of_readScale hscale
  use some digits, power
  constructor
  · rintro _ ⟨⟩
    apply hdigits
  constructor
  · simp [Numeral.textFrom]
  · rw [Numeral.valueFrom?, if_neg fun h => nomatch h.1]
    apply hv

theorem valueFrom?_of_power {left : Nat} {power : Option Power}
    (hpower : ¬ (power = none ∧ left = 0))
    (hv : (ofParts? negative significand (left + power.elim 0 Power.exponent)).map .float
      = some v) :
  Numeral.valueFrom? negative significand left none power = some v
  := by
  rw [Numeral.valueFrom?, if_neg fun h => hpower h.2]
  simpa [takeDigits] using hv

/-- What may follow the digits before the point is a fraction and a power of ten. -/
theorem exists_textFrom {left : Nat} (h : readBehind negative significand left cs = .ok (v, rest)) :
  ∃ fraction power, (∀ digits ∈ fraction, IsDigits digits)
    ∧ cs = Numeral.textFrom fraction power ++ rest
    ∧ Numeral.valueFrom? negative significand left fraction power = some v
  := by
  unfold readBehind at h
  split at h
  · next hleft =>
    subst hleft
    have hexponent {mark : Char} {more : List Char} (hmark : mark ∈ ['e', 'E'])
        (h : readExponent negative significand 0 more = .ok (v, rest)) :
        ∃ fraction power, (∀ digits ∈ fraction, IsDigits digits)
          ∧ mark :: more = Numeral.textFrom fraction power ++ rest
          ∧ Numeral.valueFrom? negative significand 0 fraction power = some v := by
      obtain ⟨p, htext, hv⟩ := exists_power_of_readExponent hmark h
      use none, some p, nofun, htext
      have hpower : ¬ (some p = none ∧ 0 = 0) := fun h => Option.some_ne_none p h.1
      apply valueFrom?_of_power hpower
      simpa using hv
    unfold readTail at h
    split at h
    · apply exists_textFrom_of_readFraction h
    · apply hexponent (by decide) h
    · apply hexponent (by decide) h
    · obtain ⟨rfl, rfl⟩ := Prod.mk.inj (Except.ok.inj h)
      use none, none, nofun, rfl
      apply if_pos ⟨rfl, rfl, rfl⟩
  · next hleft =>
    split at h
    · apply exists_textFrom_of_readFraction h
    · obtain ⟨power, htext, hv⟩ := exists_power_of_readScale h
      use none, power, nofun, htext
      apply valueFrom?_of_power (fun h => hleft h.2) hv

/-- What is read as a number is a numeral, and the number is its value. -/
theorem exists_numeral (h : readNumber negative cs = .ok (v, rest)) :
  ∃ n : Numeral, n.negative = negative ∧ cs = n.unsigned ++ rest ∧ n.value? = some v
  := by
  have hsplit : cs.takeWhile Text.isDigit ++ cs.dropWhile Text.isDigit = cs :=
    List.takeWhile_append_dropWhile
  obtain ⟨hstarts, hzero⟩ : startsWithDigit cs = true
      ∧ ((cs.takeWhile Text.isDigit).head? = some '0' → cs.takeWhile Text.isDigit = ['0']) := by
    unfold readNumber at h
    split at h
    · nomatch h
    · next more =>
      split at h
      · nomatch h
      · next hmore =>
        use rfl
        rw [List.takeWhile_cons_of_pos rfl]
        intro _
        cases more with
        | nil => rfl
        | cons c more =>
            have hc : ¬ Text.isDigit c = true := hmore
            rw [List.takeWhile_cons_of_neg hc]
    · next c more hc =>
      split at h
      · nomatch h
      · next d hd =>
        have hdigit := isDigit_of_digitValue? hd
        use hdigit
        rw [List.takeWhile_cons_of_pos hdigit]
        intro hhead
        apply absurd (Option.some.inj hhead) hc
  have hdigits := isDigits_takeWhile hstarts
  rw [← hsplit, readNumber_whole hdigits hzero (startsWithDigit_dropWhile cs)] at h
  obtain ⟨fraction, power, hfraction, htext, hv⟩ := exists_textFrom h
  use ⟨negative, cs.takeWhile Text.isDigit, fraction, power, hdigits, hzero, hfraction⟩
  use rfl
  constructor
  · rw [Numeral.unsigned, List.append_assoc, ← htext, hsplit]
  · apply hv

end

end Greenhouse.Json
