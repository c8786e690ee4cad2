import Greenhouse.Proofs.Json.Follow

/-!
# Strings as they are written

Between its quotes a string is written letter by letter, which is `Json.Quotes`.  A quote, a
backslash and the controls need an escape; any other character may have one, a character beyond the
first plane two.  What is read as a string is written so, and what is written so is read.
-/

namespace Greenhouse.Json

/-! ### Letters and escapes -/

/-- The letters that stand for a character behind a backslash. -/
def escapes : List (Char × Char) :=
  [('"', '"'), ('\\', '\\'), ('/', '/'), ('b', '\x08'), ('f', '\x0c'), ('n', '\n'), ('r', '\r'),
    ('t', '\t')]

/-- Four digits are the number of a unit of UTF-16. -/
def IsUnit (digits : List Char) (n : Nat) : Prop :=
  digits.length = 4 ∧ Text.numberOf? 16 digits = some n

/-- What stands behind a backslash, for a character: a letter, a unit or two of them. -/
inductive Escape : Char → List Char → Prop where
  | letter {letter c : Char} (h : (letter, c) ∈ escapes) : Escape c [letter]
  | one {digits : List Char} {n : Nat} (hunit : IsUnit digits n)
    (hplain : n < 0xD800 ∨ 0xDFFF < n) : Escape (Char.ofNat n) ('u' :: digits)
  | two {high low : List Char} {n m : Nat} (hhigh : IsUnit high n)
    (hn : 0xD800 ≤ n ∧ n ≤ 0xDBFF) (hlow : IsUnit low m) (hm : 0xDC00 ≤ m ∧ m ≤ 0xDFFF) :
    Escape (Char.ofNat ((n - 0xD800) * 1024 + (m - 0xDC00) + 0x10000))
      ('u' :: (high ++ '\\' :: 'u' :: low))

/-- A text is written between quotes as another one. -/
inductive Quotes : List Char → List Char → Prop where
  | nil : Quotes [] []
  | plain {c : Char} {cs text : List Char} (hc : c ∉ ['"', '\\']) (hcontrol : 0x20 ≤ c.toNat)
    (h : Quotes cs text) : Quotes (c :: cs) (c :: text)
  | escape {c : Char} {letters cs text : List Char} (hescape : Escape c letters)
    (h : Quotes cs text) : Quotes (c :: cs) ('\\' :: (letters ++ text))

section
variable {lim : Limits} {cs rest : List Char} {c : Char}

theorem readHex_eq_ok {n : Nat} :
  readHex lim cs = .ok (n, rest) ↔ ∃ digits, IsUnit digits n ∧ cs = digits ++ rest
  := by
  constructor
  · intro h
    unfold readHex at h
    split at h
    · next a b c d more =>
      split at h
      · next hn =>
        obtain ⟨rfl, rfl⟩ := Prod.mk.inj (Except.ok.inj h)
        use [a, b, c, d], ⟨rfl, hn⟩
        rfl
      · nomatch h
    · split at h <;> nomatch h
  · rintro ⟨digits, ⟨hlength, hn⟩, rfl⟩
    match digits, hlength with
    | [a, b, c, d], _ =>
        simp only [List.cons_append, List.nil_append, readHex, hn]

theorem simpleEscape?_eq_some {letter : Char} :
  simpleEscape? letter = some c ↔ (letter, c) ∈ escapes
  := by
  constructor
  · intro h
    unfold simpleEscape? at h
    split at h
    all_goals
      first
      | obtain rfl := Option.some.inj h
        decide
      | nomatch h
  · intro h
    have hall : ∀ p ∈ escapes, simpleEscape? p.1 = some p.2 := by decide
    apply hall _ h

theorem exists_escape_of_readCodePoint (h : readCodePoint lim cs = .ok (c, rest)) :
  ∃ letters, Escape c letters ∧ 'u' :: cs = letters ++ rest
  := by
  unfold readCodePoint at h
  split at h
  · nomatch h
  · next n behind hread =>
    obtain ⟨high, hhigh, rfl⟩ := readHex_eq_ok.mp hread
    split at h
    · nomatch h
    · next hlower =>
      split at h
      · next hplain =>
        obtain ⟨rfl, rfl⟩ := Prod.mk.inj (Except.ok.inj h)
        use 'u' :: high, Escape.one hhigh (by omega)
        rfl
      · next hplain =>
        split at h
        · nomatch h
        · nomatch h
        · split at h
          · nomatch h
          · next m after hread' =>
            obtain ⟨low, hlow, rfl⟩ := readHex_eq_ok.mp hread'
            split at h
            · nomatch h
            · next hm =>
              obtain ⟨rfl, rfl⟩ := Prod.mk.inj (Except.ok.inj h)
              use 'u' :: (high ++ '\\' :: 'u' :: low), Escape.two hhigh (by omega) hlow (by omega)
              simp
        · nomatch h

theorem readCodePoint_one {digits : List Char} {n : Nat} (hunit : IsUnit digits n)
    (hplain : n < 0xD800 ∨ 0xDFFF < n) :
  readCodePoint lim (digits ++ rest) = .ok (Char.ofNat n, rest)
  := by
  have hhex : readHex lim (digits ++ rest) = .ok (n, rest) := readHex_eq_ok.mpr ⟨_, hunit, rfl⟩
  unfold readCodePoint
  rw [hhex]
  dsimp only
  rw [if_neg (by omega), if_pos (by omega)]

theorem readCodePoint_two {high low : List Char} {n m : Nat} (hhigh : IsUnit high n)
    (hn : 0xD800 ≤ n ∧ n ≤ 0xDBFF) (hlow : IsUnit low m) (hm : 0xDC00 ≤ m ∧ m ≤ 0xDFFF) :
  readCodePoint lim (high ++ '\\' :: 'u' :: (low ++ rest))
    = .ok (Char.ofNat ((n - 0xD800) * 1024 + (m - 0xDC00) + 0x10000), rest)
  := by
  have hhex : readHex lim (high ++ '\\' :: 'u' :: (low ++ rest))
      = .ok (n, '\\' :: 'u' :: (low ++ rest)) := readHex_eq_ok.mpr ⟨_, hhigh, rfl⟩
  have hhex' : readHex lim (low ++ rest) = .ok (m, rest) := readHex_eq_ok.mpr ⟨_, hlow, rfl⟩
  unfold readCodePoint
  rw [hhex]
  dsimp only
  rw [if_neg (by omega), if_neg (by omega)]
  simp only [hhex']
  rw [if_neg (by omega)]

theorem readEscape_eq_ok :
  readEscape lim cs = .ok (c, rest) ↔ ∃ letters, Escape c letters ∧ cs = letters ++ rest
  := by
  constructor
  · intro h
    unfold readEscape at h
    split at h
    · nomatch h
    · apply exists_escape_of_readCodePoint h
    · next letter more _ =>
      split at h
      · next hletter =>
        obtain ⟨rfl, rfl⟩ := Prod.mk.inj (Except.ok.inj h)
        use [letter], Escape.letter (simpleEscape?_eq_some.mp hletter)
        rfl
      · nomatch h
  · rintro ⟨letters, hescape, rfl⟩
    cases hescape with
    | @letter letter _ hletter =>
        rw [List.singleton_append, readEscape, simpleEscape?_eq_some.mpr hletter]
        rintro rfl
        have hnone : 'u' ∉ escapes.map Prod.fst := by decide
        apply hnone (List.mem_map_of_mem hletter)
    | one hunit hplain => apply readCodePoint_one hunit hplain
    | two hhigh hn hlow hm =>
        rw [List.cons_append, List.append_assoc]
        apply readCodePoint_two hhigh hn hlow hm

theorem readStringFrom_quotes {text : List Char} (hlim : lim.stray? = none) (h : Quotes cs text)
    {acc : List Char} {fuel : Nat} (hfuel : text.length < fuel) :
  readStringFrom lim acc false fuel (text ++ '"' :: rest)
    = .ok (String.ofList (acc.reverse ++ cs), rest)
  := by
  induction h generalizing acc fuel with
  | nil =>
      cases fuel with
      | zero => nomatch hfuel
      | succ fuel =>
          rw [List.append_nil]
          rfl
  | @plain c cs text hc hcontrol _ ih =>
      cases fuel with
      | zero => nomatch hfuel
      | succ fuel =>
          have hrest := @ih (c :: acc) fuel (Nat.lt_of_succ_lt_succ hfuel)
          rw [List.reverse_cons, List.append_assoc, List.singleton_append] at hrest
          rw [List.cons_append, readStringFrom, if_neg (Nat.not_lt.mpr hcontrol), hlim]
          · apply hrest
          · rintro rfl
            apply hc List.mem_cons_self
          · rintro rfl
            apply hc (List.mem_cons_of_mem _ List.mem_cons_self)
  | @escape c letters cs text hescape _ ih =>
      cases fuel with
      | zero => nomatch hfuel
      | succ fuel =>
          rw [List.length_cons, List.length_append] at hfuel
          have hrest := @ih (c :: acc) fuel (by omega)
          rw [List.reverse_cons, List.append_assoc, List.singleton_append] at hrest
          have hread : readEscape lim (letters ++ (text ++ '"' :: rest))
              = .ok (c, text ++ '"' :: rest) := readEscape_eq_ok.mpr ⟨letters, hescape, rfl⟩
          rw [List.cons_append, List.append_assoc, readStringFrom, hread]
          apply hrest

/-- A string is read off its text. -/
theorem readString_quotes {text : List Char} (hlim : lim.stray? = none) (h : Quotes cs text)
    (rest : List Char) :
  readString lim (text ++ '"' :: rest) = .ok (String.ofList cs, rest)
  := by
  rw [readString, readStringFrom_quotes hlim h]
  · rfl
  · rw [List.length_append]
    omega

/-- What is read as a string is one. -/
theorem exists_quotes {acc : List Char} {strayed : Bool} {fuel : Nat} {s : String}
    (h : readStringFrom lim acc strayed fuel cs = .ok (s, rest)) :
  ∃ letters text, Quotes letters text ∧ cs = text ++ '"' :: rest
    ∧ s = String.ofList (acc.reverse ++ letters)
  := by
  induction fuel generalizing acc strayed cs with
  | zero => cases h
  | succ fuel ih =>
      unfold readStringFrom at h
      split at h
      · cases h
      · cases h
      · split at h
        · cases h
        · obtain ⟨rfl, rfl⟩ := Prod.mk.inj (Except.ok.inj h)
          use [], [], Quotes.nil
          simp
      · next fuel behind hfuel =>
        obtain rfl := Nat.succ.inj hfuel
        split at h
        · next c after hread =>
          obtain ⟨letters, hescape, rfl⟩ := readEscape_eq_ok.mp hread
          obtain ⟨cs, text, hquotes, rfl, rfl⟩ := ih h
          use c :: cs, '\\' :: (letters ++ text), Quotes.escape hescape hquotes
          simp
        · cases h
      · next fuel c behind hquote hbackslash hfuel =>
        obtain rfl := Nat.succ.inj hfuel
        split at h
        · cases h
        · next hcontrol =>
          obtain ⟨cs, text, hquotes, rfl, rfl⟩ := ih h
          have hc : c ∉ ['"', '\\'] := by simpa using And.intro hquote hbackslash
          use c :: cs, c :: text, Quotes.plain hc (Nat.not_lt.mp hcontrol) hquotes
          simp

end

end Greenhouse.Json
