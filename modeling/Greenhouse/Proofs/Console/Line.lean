import Mathlib.Data.List.TakeWhile
import Mathlib.Tactic.Common
import Greenhouse.Console.Operator

/-!
# Lines and their parts

A line is made of parts with blanks between them, before the first one and behind the last one;
that is `Text.Laid`.  A part may be a word, which has no blanks at all, or a text that has none at
its ends.  The first word of a line and what is behind it are found again whatever the blanks are.
-/

namespace Greenhouse

namespace Text

/-! ### Blanks -/

/-- A text holds nothing but blanks. -/
def Blank (cs : List Char) : Prop := ∀ c ∈ cs, isBlank c = true

/-- A text begins with a blank, if with anything. -/
def StartsBlank (cs : List Char) : Prop := ∀ c ∈ cs.head?, isBlank c = true

/-- A text has no blanks. -/
def Solid (cs : List Char) : Prop := ∀ c ∈ cs, isBlank c = false

/-- A string is a word: it is not empty and has no blanks. -/
def IsWord (s : String) : Prop := s.toList ≠ [] ∧ Solid s.toList

/-- A string is not empty and has no blanks at its ends. -/
def Tight (s : String) : Prop := s.toList ≠ [] ∧ trim s.toList = s.toList

-- Only the characters of the text are looked at; the instance for all characters is no use here.
instance (cs : List Char) : Decidable (Blank cs) := List.decidableBAll _ cs

instance (cs : List Char) : Decidable (StartsBlank cs) := Option.decidableForallMem cs.head?

instance (cs : List Char) : Decidable (Solid cs) := List.decidableBAll _ cs

instance (s : String) : Decidable (IsWord s) := inferInstanceAs (Decidable (_ ∧ _))

instance (s : String) : Decidable (Tight s) := inferInstanceAs (Decidable (_ ∧ _))

section
variable {cs gap before after : List Char}

theorem blank_nil :
  Blank []
  := nofun

theorem Blank.append (hbefore : Blank before) (hafter : Blank after) :
  Blank (before ++ after)
  := by
  intro c hc
  obtain hc | hc := List.mem_append.mp hc
  · apply hbefore c hc
  · apply hafter c hc

theorem Blank.startsBlank (h : Blank cs) :
  StartsBlank cs
  := fun c hc => h c (List.mem_of_mem_head? hc)

theorem StartsBlank.append (h : StartsBlank cs) (hafter : Blank after) :
  StartsBlank (cs ++ after)
  := by
  cases cs with
  | nil => apply hafter.startsBlank
  | cons c rest => apply h

theorem Blank.trimStart_append (h : Blank gap) (cs : List Char) :
  trimStart (gap ++ cs) = trimStart cs
  := List.dropWhile_append_of_pos h

theorem Blank.trimEnd_append (h : Blank gap) (cs : List Char) :
  trimEnd (cs ++ gap) = trimEnd cs
  := by
  have hreverse : ∀ c ∈ gap.reverse, isBlank c = true := fun c hc => h c (List.mem_reverse.mp hc)
  rw [trimEnd, List.reverse_append, List.dropWhile_append_of_pos hreverse, trimEnd]

theorem Blank.trimStart_eq (h : Blank cs) :
  trimStart cs = []
  := List.dropWhile_eq_nil_iff.mpr h

theorem Blank.trim_eq (h : Blank cs) :
  trim cs = []
  := by rw [trim, h.trimStart_eq]; rfl

/-- Blanks around a text make no difference to what is left of it without them. -/
theorem trim_surrounded (hbefore : Blank before) (hafter : Blank after) (cs : List Char) :
  trim (before ++ (cs ++ after)) = trim cs
  := by
  rw [trim, hbefore.trimStart_append, trim]
  by_cases hcs : Blank cs
  · rw [(hcs.append hafter).trimStart_eq, hcs.trimStart_eq]
  · have hne : trimStart cs ≠ [] := fun hnil => hcs (List.dropWhile_eq_nil_iff.mp hnil)
    have hstart : trimStart (cs ++ after) = trimStart cs ++ after := by
      unfold trimStart at hne ⊢
      rw [List.dropWhile_append, if_neg (by simpa using hne)]
    rw [hstart, hafter.trimEnd_append]

/-- A text is what is left of it without the blanks at its ends, between blanks. -/
theorem exists_eq_surrounded (cs : List Char) :
  ∃ before after, Blank before ∧ Blank after ∧ cs = before ++ (trim cs ++ after)
  := by
  let rest := trimStart cs
  use cs.takeWhile isBlank, (rest.reverse.takeWhile isBlank).reverse
  constructor
  · intro c hc
    apply List.mem_takeWhile_imp hc
  constructor
  · intro c hc
    apply List.mem_takeWhile_imp (List.mem_reverse.mp hc)
  · have hend : trim cs ++ (rest.reverse.takeWhile isBlank).reverse = rest := by
      rw [trim, trimEnd, ← List.reverse_append, List.takeWhile_append_dropWhile,
        List.reverse_reverse]
    rw [hend]
    symm
    apply List.takeWhile_append_dropWhile

@[simp]
theorem trim_trim (cs : List Char) :
  trim (trim cs) = trim cs
  := by
  obtain ⟨before, after, hbefore, hafter, hcs⟩ := exists_eq_surrounded cs
  have hsurrounded := trim_surrounded hbefore hafter (trim cs)
  rw [← hcs] at hsurrounded
  exact hsurrounded.symm

/-- A text without blanks at its ends keeps both of them. -/
theorem trim_eq_self (hfirst : ∀ c ∈ cs.head?, isBlank c = false)
    (hlast : ∀ c ∈ cs.getLast?, isBlank c = false) :
  trim cs = cs
  := by
  have hstart : trimStart cs = cs := by
    cases cs with
    | nil => rfl
    | cons c rest =>
        apply List.dropWhile_cons_of_neg
        rw [hfirst c rfl]
        exact Bool.false_ne_true
  have hend : cs.reverse.dropWhile isBlank = cs.reverse := by
    cases hreverse : cs.reverse with
    | nil => rfl
    | cons c rest =>
        apply List.dropWhile_cons_of_neg
        rw [hlast c (by rw [List.getLast?_eq_head?_reverse, hreverse]; rfl)]
        exact Bool.false_ne_true
  rw [trim, hstart, trimEnd, hend, List.reverse_reverse]

end

theorem solid_nil :
  Solid []
  := nofun

theorem Solid.cons {c : Char} {cs : List Char} (hc : isBlank c = false) (hcs : Solid cs) :
  Solid (c :: cs)
  := List.forall_mem_cons.mpr ⟨hc, hcs⟩

theorem Solid.append {cs cs' : List Char} (h : Solid cs) (h' : Solid cs') :
  Solid (cs ++ cs')
  := by
  intro c hc
  obtain hc | hc := List.mem_append.mp hc
  · apply h c hc
  · apply h' c hc

/-- A text between two characters that are no blanks has none at its ends. -/
theorem tight_enclosed {first last : Char} (hfirst : isBlank first = false)
    (hlast : isBlank last = false) (cs : List Char) :
  Tight (String.ofList (first :: (cs ++ [last])))
  := by
  rw [Tight, String.toList_ofList]
  use List.cons_ne_nil _ _
  apply trim_eq_self
  · intro c hc
    obtain rfl := Option.some.inj hc
    apply hfirst
  · intro c hc
    rw [← List.cons_append, List.getLast?_concat] at hc
    obtain rfl := Option.some.inj hc
    apply hlast

theorem IsWord.tight {s : String} (h : IsWord s) :
  Tight s
  := by
  use h.1
  apply trim_eq_self
  · intro c hc
    apply h.2 c (List.mem_of_mem_head? hc)
  · intro c hc
    apply h.2 c (List.mem_of_mem_getLast? hc)

/-! ### Digits and letters -/

theorem isBlank_of_isDigit {c : Char} (h : isDigit c = true) :
  isBlank c = false
  := by
  simp only [isDigit, Bool.and_eq_true, decide_eq_true_eq, Char.le_def, UInt32.le_iff_toNat_le] at h
  have hlow : 48 ≤ c.toNat := h.1
  have hhigh : c.toNat ≤ 57 := h.2
  simp only [isBlank, Bool.or_eq_false_iff, Bool.and_eq_false_iff, beq_eq_false_iff_ne,
    decide_eq_false_iff_not]
  omega

theorem isBlank_lowerAscii (c : Char) :
  isBlank (lowerAscii c) = isBlank c
  := by
  unfold lowerAscii
  split
  · next hupper =>
    have hlow : 65 ≤ c.toNat := UInt32.le_iff_toNat_le.mp (Char.le_def.mp hupper.1)
    have hhigh : c.toNat ≤ 90 := UInt32.le_iff_toNat_le.mp (Char.le_def.mp hupper.2)
    have hnat : (Char.ofNat (c.toNat + 32)).toNat = c.toNat + 32 := by
      rw [Char.ofNat, dif_pos (Or.inl (by omega))]
      rfl
    rw [Bool.eq_iff_iff]
    simp only [isBlank, hnat, Bool.or_eq_true, Bool.and_eq_true, beq_iff_eq, decide_eq_true_eq]
    omega
  · rfl

/-- Digits have no blanks. -/
theorem solid_of_digits {cs : List Char} (h : ∀ c ∈ cs, isDigit c = true) :
  Solid cs
  := fun c hc => isBlank_of_isDigit (h c hc)

theorem solid_takeWhile_isDigit (cs : List Char) :
  Solid (cs.takeWhile isDigit)
  := solid_of_digits fun _ => List.mem_takeWhile_imp

/-! ### Parts of a line -/

/-- A line is made of parts, with blanks before, between and behind them. -/
inductive Laid : List String → List Char → Prop where
  | nil {gap : List Char} (hgap : Blank gap) : Laid [] gap
  | cons {gap line : List Char} {part : String} {parts : List String} (hgap : Blank gap)
    (hstart : StartsBlank line) (hline : Laid parts line) :
    Laid (part :: parts) (gap ++ (part.toList ++ line))

section
variable {cs before after : List Char} {part : String} {parts : List String}

/-- Blanks around a line make no difference to its parts. -/
theorem Laid.surrounded (h : Laid parts cs) (hbefore : Blank before) (hafter : Blank after) :
  Laid parts (before ++ (cs ++ after))
  := by
  induction h generalizing before with
  | nil hgap => apply Laid.nil (hbefore.append (hgap.append hafter))
  | @cons gap line part parts hgap hstart _ ih =>
      have hline := @Laid.cons _ _ part _ (hbefore.append hgap) (hstart.append hafter)
        (ih blank_nil)
      simpa only [List.append_assoc] using hline

theorem Laid.of_trim (h : Laid parts (trim cs)) :
  Laid parts cs
  := by
  obtain ⟨before, after, hbefore, hafter, hcs⟩ := exists_eq_surrounded cs
  rw [hcs]
  apply h.surrounded hbefore hafter

/-- Any parts make a line. -/
theorem exists_laid (parts : List String) :
  ∃ line, Laid parts line
  := by
  induction parts with
  | nil => exact ⟨_, Laid.nil blank_nil⟩
  | cons part parts ih =>
      obtain ⟨line, hline⟩ := ih
      have hgap : Blank [' '] := by decide
      have hstart : StartsBlank ([' '] ++ (line ++ [])) := by
        intro c hc
        obtain rfl := Option.some.inj hc
        rfl
      exact ⟨_, Laid.cons blank_nil hstart (hline.surrounded hgap blank_nil)⟩

/-- A line without parts is blank. -/
theorem laid_nil_iff :
  Laid [] cs ↔ Blank cs
  := by
  constructor
  · rintro ⟨hgap⟩
    apply hgap
  · apply Laid.nil

/-- A line with a single part is that part between blanks. -/
theorem trim_of_laid (h : Laid [part] cs) (hpart : Tight part) :
  trim cs = part.toList
  := by
  cases h with
  | cons hgap _ hline => rw [trim_surrounded hgap (laid_nil_iff.mp hline), hpart.2]

/-- A text without blanks at its ends is a line with a single part. -/
theorem laid_of_trim_eq (hne : cs ≠ []) (htrim : trim cs = cs) :
  Tight (String.ofList cs) ∧ Laid [String.ofList cs] cs
  := by
  constructor
  · simpa [Tight] using And.intro hne htrim
  · have hlaid := @Laid.cons _ _ (String.ofList cs) _ blank_nil blank_nil.startsBlank
      (Laid.nil blank_nil)
    rw [String.toList_ofList, List.append_nil, List.nil_append] at hlaid
    apply hlaid

end

end Text

namespace OperatorCommand

open Text

/-! ### The first word -/

section
variable {cs rest word : List Char}

theorem splitWord_of_blank (h : Blank cs) :
  splitWord cs = none
  := by rw [splitWord, h.trimStart_eq]

/-- A word behind blanks is the first word of a line. -/
theorem splitWord_of_word {gap line : List Char} (hgap : Blank gap) (hne : word ≠ [])
    (hword : Solid word) (hline : StartsBlank line) :
  splitWord (gap ++ (word ++ line)) = some (word, trim line)
  := by
  have hplain : ∀ c ∈ word, (!isBlank c) = true := by
    intro c hc
    rw [hword c hc]
    rfl
  have hstart : trimStart (gap ++ (word ++ line)) = word ++ line := by
    rw [hgap.trimStart_append]
    cases word with
    | nil => contradiction
    | cons c more =>
        apply List.dropWhile_cons_of_neg
        rw [hword c List.mem_cons_self]
        exact Bool.false_ne_true
  have hsplit : splitAtBlank (word ++ line) = (word, line.drop 1) := by
    rw [splitAtBlank, List.takeWhile_append_of_pos hplain, List.dropWhile_append_of_pos hplain]
    cases line with
    | nil => simp
    | cons c more => simp [hline c rfl]
  have htrim : trim (line.drop 1) = trim line := by
    cases line with
    | nil => rfl
    | cons c more =>
        have hblank : Blank [c] := by simpa [Blank] using hline c rfl
        have hsurrounded := trim_surrounded hblank blank_nil more
        rw [List.append_nil] at hsurrounded
        exact hsurrounded.symm
  rw [splitWord, hstart]
  split
  · next hnil => apply absurd (List.append_eq_nil_iff.mp hnil).1 hne
  · simp only [hsplit, htrim]

/-- A line with anything else than blanks in it begins with a word. -/
theorem exists_word (h : ¬ Blank cs) :
  ∃ gap word line, Blank gap ∧ word ≠ [] ∧ Solid word ∧ StartsBlank line
    ∧ cs = gap ++ (word ++ line)
  := by
  have hrest : trimStart cs ≠ [] := fun hnil => h (List.dropWhile_eq_nil_iff.mp hnil)
  obtain ⟨c, more, hcons⟩ := List.exists_cons_of_ne_nil hrest
  have hfirst : isBlank c = false := by
    have hnot := List.head?_dropWhile_not isBlank cs
    unfold trimStart at hcons
    rw [hcons] at hnot
    simpa using hnot
  use cs.takeWhile isBlank, (trimStart cs).takeWhile (fun c => !isBlank c),
    (trimStart cs).dropWhile (fun c => !isBlank c)
  refine ⟨?_, ?_, ?_, ?_, ?_⟩
  · intro c hc
    apply List.mem_takeWhile_imp hc
  · rw [hcons, List.takeWhile_cons_of_pos (by rw [hfirst]; rfl)]
    apply List.cons_ne_nil
  · intro c hc
    simpa using List.mem_takeWhile_imp hc
  · intro c hc
    have hnot := List.head?_dropWhile_not (fun c => !isBlank c) (trimStart cs)
    rw [Option.mem_def.mp hc] at hnot
    simpa using hnot
  · rw [List.takeWhile_append_dropWhile]
    symm
    apply List.takeWhile_append_dropWhile

theorem splitWord_eq_none_iff :
  splitWord cs = none ↔ Blank cs
  := by
  constructor
  · intro hnone
    by_contra hblank
    obtain ⟨gap, word, line, hgap, hne, hword, hline, rfl⟩ := exists_word hblank
    rw [splitWord_of_word hgap hne hword hline] at hnone
    nomatch hnone
  · apply splitWord_of_blank

/-- Blanks at the ends of a line make no difference to its first word. -/
@[simp]
theorem splitWord_trim (cs : List Char) :
  splitWord (trim cs) = splitWord cs
  := by
  obtain ⟨before, after, hbefore, hafter, hcs⟩ := exists_eq_surrounded cs
  by_cases hblank : Blank (trim cs)
  · rw [splitWord_of_blank hblank]
    symm
    apply splitWord_of_blank
    rw [hcs]
    apply hbefore.append (hblank.append hafter)
  · obtain ⟨gap, word, line, hgap, hne, hword, hline, htrim⟩ := exists_word hblank
    have hwhole : cs = (before ++ gap) ++ (word ++ (line ++ after)) := by
      rw [hcs, htrim, List.append_assoc, List.append_assoc, List.append_assoc]
    have hrest : trim (line ++ after) = trim line := trim_surrounded blank_nil hafter line
    rw [htrim, splitWord_of_word hgap hne hword hline, hwhole,
      splitWord_of_word (hbefore.append hgap) hne hword (hline.append hafter), hrest]

/-! ### Words and the line behind them -/

/-- The first word of a line is found, and so is the line behind it. -/
theorem splitWord_of_laid {part : String} {parts : List String} (h : Laid (part :: parts) cs)
    (hpart : IsWord part) :
  ∃ line, splitWord cs = some (part.toList, trim line) ∧ Laid parts line
  := by
  cases h with
  | cons hgap hstart hline => exact ⟨_, splitWord_of_word hgap hpart.1 hpart.2 hstart, hline⟩

/-- What is taken for the first word of a line is a word, and the line goes on behind it. -/
theorem laid_of_splitWord (h : splitWord cs = some (word, rest)) :
  IsWord (String.ofList word) ∧ trim rest = rest
    ∧ ∀ parts, Laid parts rest → Laid (String.ofList word :: parts) cs
  := by
  have hblank : ¬ Blank cs := by
    intro hblank
    rw [splitWord_of_blank hblank] at h
    nomatch h
  obtain ⟨gap, first, line, hgap, hne, hword, hline, rfl⟩ := exists_word hblank
  rw [splitWord_of_word hgap hne hword hline] at h
  obtain ⟨rfl, rfl⟩ := Prod.mk.inj (Option.some.inj h)
  constructor
  · simpa [IsWord] using And.intro hne hword
  constructor
  · apply trim_trim
  · intro parts hparts
    have hlaid := @Laid.cons _ _ (String.ofList first) _ hgap hline hparts.of_trim
    rw [String.toList_ofList] at hlaid
    apply hlaid

end

end OperatorCommand

end Greenhouse
