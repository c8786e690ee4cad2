import Mathlib.Tactic.Common
import Greenhouse.Text.Utf8

/-!
# Texts as bytes

The bytes of a text are read back as that text.  `Utf8.step_inside` tells what a continuation
byte does, and the three statements about `Utf8.lead?` how a character of two, three or four
bytes begins; together they take `Utf8.State` once around, from between two characters to
between two characters.
-/

namespace Greenhouse.Utf8

/-! ### Single bytes -/

theorem toNat_toUInt8 {n : Nat} (h : n < 256) :
  n.toUInt8.toNat = n
  := Nat.mod_eq_of_lt h

/-- A byte of ASCII is its character. -/
theorem start_ascii {n : Nat} (h : n < 0x80) :
  start n.toUInt8 = (some (Char.ofNat n), .ready)
  := by
  have hn : n.toUInt8.toNat = n := toNat_toUInt8 (by omega)
  have hlt : n.toUInt8 < 0x80 := by
    rw [UInt8.lt_iff_toNat_lt, hn]
    apply h
  rw [start, if_pos hlt, hn]

/-- How a character of two bytes begins. -/
theorem lead?_two :
  ∀ k < 32, k < 2 ∨ ¬ (0xC0 + k).toUInt8 < 0x80
    ∧ lead? (0xC0 + k).toUInt8 = some (1, k, 0x80, 0xBF)
  := by
  decide

/-- How a character of three bytes begins.  Its first bits bound the second byte. -/
theorem lead?_three :
  ∀ k < 16, ¬ (0xE0 + k).toUInt8 < 0x80
    ∧ lead? (0xE0 + k).toUInt8
      = some (2, k, if k = 0 then 0xA0 else 0x80, if k = 0xD then 0x9F else 0xBF)
  := by
  decide

/-- How a character of four bytes begins.  Its first bits bound the second byte. -/
theorem lead?_four :
  ∀ k < 5, ¬ (0xF0 + k).toUInt8 < 0x80
    ∧ lead? (0xF0 + k).toUInt8
      = some (3, k, if k = 0 then 0x90 else 0x80, if k = 4 then 0x8F else 0xBF)
  := by
  decide

/-- A continuation byte within its bounds adds six bits. -/
theorem step_inside {left bits k : Nat} {low high : UInt8} (hk : k < 64)
    (hlow : low.toNat ≤ 0x80 + k) (hhigh : 0x80 + k ≤ high.toNat) (acc : List Char) :
  State.step acc (.inside left bits low high) (0x80 + k).toUInt8
    = if left = 1 then (Char.ofNat (bits * 64 + k) :: acc, .ready)
      else (acc, .inside (left - 1) (bits * 64 + k) 0x80 0xBF)
  := by
  have hb : (0x80 + k).toUInt8.toNat = 0x80 + k := toNat_toUInt8 (by omega)
  have hbounds : (low ≤ (0x80 + k).toUInt8 && (0x80 + k).toUInt8 ≤ high) = true := by
    simp only [Bool.and_eq_true, decide_eq_true_eq, UInt8.le_iff_toNat_le, hb]
    use hlow
  rw [State.step, if_pos hbounds, hb, Nat.add_sub_cancel_left]

/-! ### Bounds of a continuation byte -/

section
variable {k : Nat}

/-- A lower bound that is raised after some first bytes only. -/
theorem toNat_ite_le {raised : Prop} [Decidable raised] {low : UInt8}
    (hlow : raised → low.toNat ≤ 0x80 + k) :
  (if raised then low else 0x80).toNat ≤ 0x80 + k
  := by
  split
  · next h => apply hlow h
  · apply Nat.le_add_right

variable (hk : k < 64)
include hk

/-- Any six bits are within the bounds that hold after the second byte. -/
theorem toNat_low_high :
  (0x80 : UInt8).toNat ≤ 0x80 + k ∧ 0x80 + k ≤ (0xBF : UInt8).toNat
  := by
  change 128 ≤ 128 + k ∧ 128 + k ≤ 191
  omega

/-- An upper bound that is lowered after some first bytes only. -/
theorem le_toNat_ite {lowered : Prop} [Decidable lowered] {high : UInt8}
    (hhigh : lowered → 0x80 + k ≤ high.toNat) :
  0x80 + k ≤ (if lowered then high else 0xBF).toNat
  := by
  split
  · next h => apply hhigh h
  · apply (toNat_low_high hk).2

end

/-! ### Characters -/

section
variable (acc : List Char) (rest : List UInt8)

/-- A byte of ASCII is a character. -/
theorem decodeFrom_ascii {n : Nat} (h : n < 0x80) :
  decodeFrom acc .ready (n.toUInt8 :: rest) = decodeFrom (Char.ofNat n :: acc) .ready rest
  := by
  rw [decodeFrom, State.step, start_ascii h]

/-- The first byte of a longer character. -/
theorem decodeFrom_lead {b : UInt8} {left bits : Nat} {low high : UInt8}
    (h : ¬ b < 0x80 ∧ lead? b = some (left, bits, low, high)) :
  decodeFrom acc .ready (b :: rest) = decodeFrom acc (.inside left bits low high) rest
  := by
  rw [decodeFrom, State.step, start, if_neg h.1, h.2]

variable {left bits k : Nat} (hk : k < 64)
include hk

/-- A continuation byte that is not the last one. -/
theorem decodeFrom_inside {low high : UInt8} (hlow : low.toNat ≤ 0x80 + k)
    (hhigh : 0x80 + k ≤ high.toNat) (hleft : left ≠ 1) :
  decodeFrom acc (.inside left bits low high) ((0x80 + k).toUInt8 :: rest)
    = decodeFrom acc (.inside (left - 1) (bits * 64 + k) 0x80 0xBF) rest
  := by
  rw [decodeFrom, step_inside hk hlow hhigh, if_neg hleft]

/-- The last continuation byte. -/
theorem decodeFrom_last :
  decodeFrom acc (.inside 1 bits 0x80 0xBF) ((0x80 + k).toUInt8 :: rest)
    = decodeFrom (Char.ofNat (bits * 64 + k) :: acc) .ready rest
  := by
  rw [decodeFrom, step_inside hk (toNat_low_high hk).1 (toNat_low_high hk).2, if_pos rfl]

end

section
variable (acc : List Char) (rest : List UInt8) {first second third fourth : Nat}

theorem decodeFrom_two (hmin : 2 ≤ first) (hfirst : first < 32) (hsecond : second < 64) :
  decodeFrom acc .ready ((0xC0 + first).toUInt8 :: (0x80 + second).toUInt8 :: rest)
    = decodeFrom (Char.ofNat (first * 64 + second) :: acc) .ready rest
  := by
  have hlead := (lead?_two first hfirst).resolve_left (Nat.not_lt.mpr hmin)
  rw [decodeFrom_lead _ _ hlead, decodeFrom_last _ _ hsecond]

/-- Three bytes are a character unless two would do, or it is a surrogate. -/
theorem decodeFrom_three (hfirst : first < 16) (hsecond : second < 64) (hthird : third < 64)
    (hmin : first = 0 → 32 ≤ second) (hsurrogate : first = 0xD → second < 32) :
  decodeFrom acc .ready
      ((0xE0 + first).toUInt8 :: (0x80 + second).toUInt8 :: (0x80 + third).toUInt8 :: rest)
    = decodeFrom (Char.ofNat ((first * 64 + second) * 64 + third) :: acc) .ready rest
  := by
  rw [decodeFrom_lead _ _ (lead?_three first hfirst), decodeFrom_inside _ _ hsecond,
    decodeFrom_last _ _ hthird]
  · apply toNat_ite_le
    exact fun h => Nat.add_le_add_left (hmin h) 0x80
  · apply le_toNat_ite hsecond
    exact fun h => Nat.add_le_add_left (Nat.le_of_lt_succ (hsurrogate h)) 0x80
  · decide

/-- Four bytes are a character unless three would do, or it is too large. -/
theorem decodeFrom_four (hfirst : first < 5) (hsecond : second < 64) (hthird : third < 64)
    (hfourth : fourth < 64) (hmin : first = 0 → 16 ≤ second) (hmax : first = 4 → second < 16) :
  decodeFrom acc .ready ((0xF0 + first).toUInt8 :: (0x80 + second).toUInt8
      :: (0x80 + third).toUInt8 :: (0x80 + fourth).toUInt8 :: rest)
    = decodeFrom (Char.ofNat (((first * 64 + second) * 64 + third) * 64 + fourth) :: acc) .ready rest
  := by
  rw [decodeFrom_lead _ _ (lead?_four first hfirst), decodeFrom_inside _ _ hsecond,
    decodeFrom_inside _ _ hthird (toNat_low_high hthird).1 (toNat_low_high hthird).2 (by decide),
    decodeFrom_last _ _ hfourth]
  · apply toNat_ite_le
    exact fun h => Nat.add_le_add_left (hmin h) 0x80
  · apply le_toNat_ite hsecond
    exact fun h => Nat.add_le_add_left (Nat.le_of_lt_succ (hmax h)) 0x80
  · decide

/-- The bytes of a character are read as that character. -/
theorem decodeFrom_encodeChar (c : Char) :
  decodeFrom acc .ready (encodeChar c ++ rest) = decodeFrom (c :: acc) .ready rest
  := by
  have hvalid : c.toNat < 0xD800 ∨ (0xDFFF < c.toNat ∧ c.toNat < 0x110000) := c.valid
  have hc : Char.ofNat c.toNat = c := Char.ofNat_toNat c
  unfold encodeChar
  generalize c.toNat = n at hvalid hc
  dsimp only
  split
  · next hone => rw [List.singleton_append, decodeFrom_ascii acc rest hone, hc]
  · next hone =>
      split
      · next htwo =>
          have hbits : n / 64 * 64 + n % 64 = n := by omega
          apply (decodeFrom_two acc rest (by omega) (by omega) (by omega)).trans
          rw [hbits, hc]
      · next htwo =>
          split
          · next hthree =>
              have hbits : (n / 4096 * 64 + n / 64 % 64) * 64 + n % 64 = n := by omega
              apply (decodeFrom_three acc rest (by omega) (by omega) (by omega) (by omega)
                (by omega)).trans
              rw [hbits, hc]
          · next hthree =>
              have hbits : ((n / 262144 * 64 + n / 4096 % 64) * 64 + n / 64 % 64) * 64 + n % 64
                  = n := by omega
              apply (decodeFrom_four acc rest (by omega) (by omega) (by omega) (by omega)
                (by omega) (by omega)).trans
              rw [hbits, hc]

end

/-! ### Texts -/

theorem decodeFrom_encode (acc cs : List Char) :
  decodeFrom acc .ready (encode cs) = acc.reverse ++ cs
  := by
  induction cs generalizing acc with
  | nil => rw [List.append_nil, encode, List.flatMap_nil, decodeFrom]
  | cons c rest ih =>
      have hcons : encode (c :: rest) = encodeChar c ++ encode rest := List.flatMap_cons
      rw [hcons, decodeFrom_encodeChar, ih, List.reverse_cons, List.append_assoc,
        List.singleton_append]

/-- The bytes of a text are read as that text. -/
theorem decode?_encode (cs : List Char) :
  decode? (encode cs) = some cs
  := by
  have hlossy : decodeLossy (encode cs) = cs := decodeFrom_encode [] cs
  simp only [decode?, hlossy, if_true]

end Greenhouse.Utf8
