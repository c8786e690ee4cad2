import Mathlib.Logic.Relation
import Mathlib.Tactic.Common
import Greenhouse.Url.Basic

/-!
# The path of an address

The text of a path is written as it may stand in an address: tabs and line breaks are left out,
backslashes are slashes, and what may not stand there is percent-encoded.  Between its slashes are
places, and `Url.Resolve` takes one step towards a path without dots.  However the steps are
chosen, they lead to one path, and it is the one that `Url.walk` finds.
-/

namespace Greenhouse

/-! ### Cutting at a character -/

namespace Text

theorem splitAt_ne_nil (sep : Char) (cs : List Char) :
  splitAt sep cs ≠ []
  := by
  induction cs with
  | nil => nofun
  | cons c rest ih =>
      rw [splitAt]
      split
      · nofun
      · split <;> nofun

/-- What stands before the first place of the character goes to the first piece. -/
theorem splitAt_append {sep : Char} {cs : List Char} (hcs : sep ∉ cs) {rest first : List Char}
    {others : List (List Char)} (hrest : splitAt sep rest = first :: others) :
  splitAt sep (cs ++ rest) = (cs ++ first) :: others
  := by
  induction cs with
  | nil => apply hrest
  | cons c cs ih =>
      rw [List.mem_cons, not_or] at hcs
      obtain ⟨hc, hcs⟩ := hcs
      rw [List.cons_append, splitAt, if_neg (Ne.symm hc), ih hcs, List.cons_append]

/-- The pieces make the text again. -/
theorem intercalate_splitAt (sep : Char) (cs : List Char) :
  [sep].intercalate (splitAt sep cs) = cs
  := by
  induction cs with
  | nil => rfl
  | cons c rest ih =>
      obtain ⟨first, others, hrest⟩ := List.exists_cons_of_ne_nil (splitAt_ne_nil sep rest)
      rw [hrest] at ih
      rw [splitAt, hrest]
      split
      · next hc =>
          subst hc
          rw [List.intercalate_cons_cons, ih]
          rfl
      · cases others with
        | nil =>
            rw [List.intercalate_singleton] at ih ⊢
            rw [ih]
        | cons second others =>
            rw [List.intercalate_cons_cons] at ih ⊢
            rw [List.cons_append, List.cons_append, ih]

end Text

/-! ### Slashes in what is encoded -/

namespace Percent

theorem encode_cons (set : Encoded) (c : Char) (rest : List Char) :
  encode set (c :: rest) = encodeChar set c ++ encode set rest
  := List.flatMap_cons

theorem slash_not_mem_encodeByte (b : UInt8) :
  '/' ∉ encodeByte b
  := by
  have hdigit (n : UInt8) : '/' ≠ digit n := by
    rw [digit, List.getD_eq_getElem?_getD]
    cases hn : "0123456789ABCDEF".toList[n.toNat]? with
    | none => decide
    | some c =>
        intro hc
        apply absurd (List.mem_of_getElem? hn)
        rw [Option.getD_some] at hc
        rw [← hc]
        decide
  simp only [encodeByte, List.mem_cons, List.not_mem_nil, or_false, not_or]
  exact ⟨by decide, hdigit _, hdigit _⟩

/-- What a character is encoded to has a slash only for a slash. -/
theorem slash_not_mem_encodeChar (set : Encoded) {c : Char} (hc : c ≠ '/') :
  '/' ∉ encodeChar set c
  := by
  rw [encodeChar]
  split
  · rw [List.mem_flatMap]
    rintro ⟨b, _, hb⟩
    apply slash_not_mem_encodeByte b hb
  · rw [List.mem_singleton]
    apply Ne.symm hc

end Percent

namespace Url

/-! ### The places of a path -/

/-- The text of a path as it stands in the address of a host on the network. -/
def written (path : String) : List Char :=
  Percent.encode Percent.path
    ((path.toList.filter fun c => !isBreak c).map fun c => if c = '\\' then '/' else c)

/-- The places that a path leads through, each behind a slash. -/
def places (path : String) : List (List Char) := (Text.splitAt '/' (written path)).tail

/-- The path through places. -/
def through (places : List (List Char)) : String :=
  "/" ++ String.intercalate "/" (places.map String.ofList)

theorem segments_eq (cs : List Char) :
  segments true cs
    = Text.splitAt '/' (Percent.encode Percent.path (cs.map fun c => if c = '\\' then '/' else c))
  := by
  induction cs with
  | nil => rfl
  | cons c rest ih =>
      rw [segments, ih, List.map_cons, Percent.encode_cons]
      split
      · next hc =>
          have hslash : (if c = '\\' then '/' else c) = '/' := by
            split
            · rfl
            · next hback => apply hc.resolve_right (fun h => hback h.1)
          have hkept : Percent.encodeChar Percent.path '/' = ['/'] := by decide
          rw [hslash, hkept, List.singleton_append, Text.splitAt, if_pos rfl]
      · next hc =>
          obtain ⟨hslash, hback⟩ := not_or.mp hc
          rw [if_neg (fun h => hback ⟨h, rfl⟩)]
          obtain ⟨first, others, hrest⟩ := List.exists_cons_of_ne_nil (Text.splitAt_ne_nil '/' _)
          rw [hrest, Text.splitAt_append (Percent.slash_not_mem_encodeChar _ hslash) hrest]

/-! ### Dots -/

/-- Whether a place leads neither to itself nor above. -/
def IsPlain (place : List Char) : Prop := isDot place = false ∧ isDoubleDot place = false

/-- A step towards a path without dots. -/
inductive Resolve : List (List Char) → List (List Char) → Prop
  /-- A path that ends in dots leads into the place that they mean. -/
  | ending (before : List (List Char)) {s : List Char} (dots : isDot s ∨ isDoubleDot s) :
    Resolve (before ++ [s]) (before ++ [s, []])
  /-- A dot means the same place. -/
  | here (before : List (List Char)) {s : List Char} {after : List (List Char)} (dot : isDot s)
    (not_last : after ≠ []) :
    Resolve (before ++ s :: after) (before ++ after)
  /-- Two dots mean the place above. -/
  | up (before : List (List Char)) {t s : List Char} {after : List (List Char)} (plain : IsPlain t)
    (not_drive : isDrive t = false) (dots : isDoubleDot s) (not_last : after ≠ []) :
    Resolve (before ++ t :: s :: after) (before ++ after)
  /-- Nothing is above a drive. -/
  | drive (before : List (List Char)) {t s : List Char} {after : List (List Char)}
    (plain : IsPlain t) (drive : isDrive t) (dots : isDoubleDot s) (not_last : after ≠ []) :
    Resolve (before ++ t :: s :: after) (before ++ t :: after)
  /-- Nothing is above the first place. -/
  | root {s : List Char} {after : List (List Char)} (dots : isDoubleDot s) (not_last : after ≠ []) :
    Resolve (s :: after) after

/-- Steps in a row. -/
def Resolves : List (List Char) → List (List Char) → Prop := Relation.ReflTransGen Resolve

/-- Whether a path is the one that the text of a path means: its places with all dots resolved. -/
def IsPathOf (text path : String) : Prop :=
  ∃ kept, Resolves (places text) kept ∧ (∀ place ∈ kept, IsPlain place) ∧ path = through kept

/-! ### Walking along places -/

section
variable {s : List Char} {done rest : List (List Char)}

theorem isDoubleDot_of_isDot (hs : isDot s) :
  isDoubleDot s = false
  := by
  have hcases : String.ofList (s.map Text.lowerAscii) = "."
      ∨ String.ofList (s.map Text.lowerAscii) = "%2e" := by
    rw [isDot] at hs
    simpa using hs
  rw [isDoubleDot]
  rcases hcases with hs | hs <;> rw [hs] <;> decide

theorem walk_plain (hs : IsPlain s) :
  walk done (s :: rest) = walk (s :: done) rest
  := by
  simp [walk, hs.1, hs.2]

theorem walk_dot (hs : isDot s) (hrest : rest ≠ []) :
  walk done (s :: rest) = walk done rest
  := by
  simp [walk, hs, isDoubleDot_of_isDot hs, hrest]

theorem walk_doubleDot (hs : isDoubleDot s) (hrest : rest ≠ []) :
  walk done (s :: rest) = walk (above done) rest
  := by
  simp [walk, hs, hrest]

theorem isPlain_nil :
  IsPlain []
  := ⟨by decide, by decide⟩

/-- Dots at the end leave an empty place behind them. -/
theorem walk_ending (hs : isDot s ∨ isDoubleDot s) :
  walk done [s] = walk done [s, []]
  := by
  rcases hs with hs | hs
  · simp [walk, hs, isDoubleDot_of_isDot hs, isPlain_nil.1, isPlain_nil.2]
  · simp [walk, hs, isPlain_nil.1, isPlain_nil.2]

/-- Places that are walked along alike are so behind all others. -/
theorem walk_append_congr {after after' : List (List Char)} (hafter : after ≠ [])
    (hafter' : after' ≠ []) (h : ∀ done, walk done after = walk done after')
    (before done : List (List Char)) :
  walk done (before ++ after) = walk done (before ++ after')
  := by
  induction before generalizing done with
  | nil => apply h
  | cons s before ih =>
      have hlast (as : List (List Char)) (has : as ≠ []) : (before ++ as).isEmpty = false := by
        rw [List.isEmpty_eq_false_iff]
        apply List.append_ne_nil_of_right_ne_nil _ has
      simp only [List.cons_append, walk, hlast _ hafter, hlast _ hafter', ih]

/-- A step does not change where a walk leads. -/
theorem Resolve.walk_eq {ps qs : List (List Char)} (h : Resolve ps qs) :
  walk [] ps = walk [] qs
  := by
  cases h with
  | ending before dots =>
      apply walk_append_congr (by nofun) (by nofun)
      intro done
      apply walk_ending dots
  | here before dot not_last =>
      apply walk_append_congr (by nofun) not_last
      intro done
      apply walk_dot dot not_last
  | up before plain not_drive dots not_last =>
      apply walk_append_congr (by nofun) not_last
      intro done
      rw [walk_plain plain, walk_doubleDot dots not_last, above, if_neg (by simp [not_drive])]
  | drive before plain drive dots not_last =>
      apply walk_append_congr (by nofun) (by nofun)
      intro done
      rw [walk_plain plain, walk_doubleDot dots not_last, above, if_pos drive, walk_plain plain]
  | root dots not_last => rw [walk_doubleDot dots not_last, above]

theorem Resolves.walk_eq {ps qs : List (List Char)} (h : Resolves ps qs) :
  walk [] ps = walk [] qs
  := by
  induction h with
  | refl => rfl
  | tail _ hstep ih => rw [ih, hstep.walk_eq]

/-- Along plain places a walk keeps them all. -/
theorem walk_of_isPlain (hrest : ∀ place ∈ rest, IsPlain place) :
  walk done rest = rest.reverse ++ done
  := by
  induction rest generalizing done with
  | nil => rfl
  | cons s rest ih =>
      obtain ⟨hs, hrest⟩ := List.forall_mem_cons.mp hrest
      rw [walk_plain hs, ih hrest, List.reverse_cons, List.append_assoc, List.singleton_append]

theorem forall_mem_above {p : List Char → Prop} (hdone : ∀ place ∈ done, p place) :
  ∀ place ∈ above done, p place
  := by
  cases done with
  | nil => nofun
  | cons t done =>
      rw [above]
      split
      · apply hdone
      · apply (List.forall_mem_cons.mp hdone).2

/-- Two dots behind plain places are resolved in one step. -/
theorem resolve_above (hdone : ∀ place ∈ done, IsPlain place) (hs : isDoubleDot s)
    (hrest : rest ≠ []) :
  Resolve (done.reverse ++ s :: rest) ((above done).reverse ++ rest)
  := by
  cases done with
  | nil => apply Resolve.root hs hrest
  | cons t done =>
      have ht : IsPlain t := hdone t List.mem_cons_self
      rw [List.reverse_cons, List.append_assoc, List.singleton_append, above]
      split
      · next hdrive =>
          rw [List.reverse_cons, List.append_assoc, List.singleton_append]
          apply Resolve.drive _ ht hdrive hs hrest
      · next hdrive => apply Resolve.up _ ht (Bool.eq_false_iff.mpr hdrive) hs hrest

/-- Dots behind plain places are resolved in one step, and a walk does the same. -/
theorem exists_resolve (hdone : ∀ place ∈ done, IsPlain place) (hs : isDot s ∨ isDoubleDot s)
    (hrest : rest ≠ []) :
  ∃ kept, (∀ place ∈ kept, IsPlain place)
    ∧ Resolve (done.reverse ++ s :: rest) (kept.reverse ++ rest)
    ∧ walk done (s :: rest) = walk kept rest
  := by
  rcases hs with hs | hs
  · exact ⟨done, hdone, Resolve.here _ hs hrest, walk_dot hs hrest⟩
  · exact ⟨above done, forall_mem_above hdone, resolve_above hdone hs hrest, walk_doubleDot hs hrest⟩

/-- Steps lead from the places behind those that are done to where the walk leads, and no dots are
left there. -/
theorem resolves_walk (hdone : ∀ place ∈ done, IsPlain place) :
  Resolves (done.reverse ++ rest) (walk done rest).reverse
    ∧ ∀ place ∈ walk done rest, IsPlain place
  := by
  induction rest generalizing done with
  | nil =>
      rw [List.append_nil]
      exact ⟨Relation.ReflTransGen.refl, hdone⟩
  | cons s rest ih =>
      by_cases hs : IsPlain s
      · have ih := ih (List.forall_mem_cons.mpr ⟨hs, hdone⟩)
        rw [List.reverse_cons, List.append_assoc, List.singleton_append] at ih
        rw [walk_plain hs]
        apply ih
      · have hdots : isDot s ∨ isDoubleDot s := by
          rw [IsPlain, ← Bool.not_eq_true, ← Bool.not_eq_true, ← not_or, not_not] at hs
          apply hs
        by_cases hrest : rest = []
        · subst hrest
          -- the dots are followed by the empty place that they leave, and that is the end
          obtain ⟨kept, hkept, hstep, hwalk⟩ := exists_resolve hdone hdots (List.cons_ne_nil [] [])
          rw [walk_ending hdots, hwalk, walk_plain isPlain_nil, walk, List.reverse_cons]
          constructor
          · apply Relation.ReflTransGen.head (Resolve.ending _ hdots)
            apply Relation.ReflTransGen.single hstep
          · apply List.forall_mem_cons.mpr ⟨isPlain_nil, hkept⟩
        · obtain ⟨kept, hkept, hstep, hwalk⟩ := exists_resolve hdone hdots hrest
          obtain ⟨hsteps, hplain⟩ := ih hkept
          rw [hwalk]
          exact ⟨Relation.ReflTransGen.head hstep hsteps, hplain⟩

/-- The steps from places to a path without dots lead to where the walk leads. -/
theorem resolves_iff (ps kept : List (List Char)) :
  (Resolves ps kept ∧ ∀ place ∈ kept, IsPlain place) ↔ kept = (walk [] ps).reverse
  := by
  constructor
  · rintro ⟨hsteps, hplain⟩
    rw [hsteps.walk_eq, walk_of_isPlain hplain, List.append_nil, List.reverse_reverse]
  · rintro rfl
    obtain ⟨hsteps, hplain⟩ := @resolves_walk [] ps (by nofun)
    use hsteps
    intro place hplace
    apply hplain place (List.mem_reverse.mp hplace)

end

/-! ### The path that a text means -/

section
variable {text : String} (htext : text.toList.head? = some '/')
include htext

theorem exists_written :
  ∃ rest, (text.toList.filter fun c => !isBreak c) = '/' :: rest
    ∧ written text
      = '/' :: Percent.encode Percent.path (rest.map fun c => if c = '\\' then '/' else c)
  := by
  obtain ⟨cs, hcs⟩ := List.head?_eq_some_iff.mp htext
  have hfilter : (text.toList.filter fun c => !isBreak c)
      = '/' :: cs.filter fun c => !isBreak c := by
    rw [hcs, List.filter_cons_of_pos (by decide)]
  use cs.filter fun c => !isBreak c, hfilter
  rw [written, hfilter]
  rfl

/-- The path that is put into an address is the one that the text means. -/
theorem isPathOf_iff {u : Url} (hscheme : isSpecial u.scheme) (path : String) :
  IsPathOf text path ↔ path = (u.withPath text).path
  := by
  obtain ⟨rest, hfilter, hwritten⟩ := exists_written htext
  have hplaces : segments true rest = places text := by
    rw [places, hwritten, segments_eq, Text.splitAt, if_pos rfl, List.tail_cons]
  have hpath : (u.withPath text).path = through (walk [] (places text)).reverse := by
    rw [withPath, hscheme, hfilter, ← hplaces]
    rfl
  rw [hpath]
  constructor
  · rintro ⟨kept, hsteps, hplain, rfl⟩
    rw [(resolves_iff _ _).mp ⟨hsteps, hplain⟩]
  · rintro rfl
    obtain ⟨hsteps, hplain⟩ := (resolves_iff (places text) _).mpr rfl
    exact ⟨_, hsteps, hplain, rfl⟩

theorem through_places :
  through (places text) = String.ofList (written text)
  := by
  obtain ⟨rest, _, hwritten⟩ := exists_written htext
  apply String.toList_inj.mp
  have htexts (ps : List (List Char)) : (ps.map String.ofList).map String.toList = ps := by
    simp
  have hslash : "/".toList = ['/'] := rfl
  rw [through, places, hwritten, Text.splitAt, if_pos rfl, List.tail_cons, String.toList_append,
    String.toList_intercalate, htexts, hslash, Text.intercalate_splitAt, String.toList_ofList,
    List.singleton_append]

/-- A text without dots, backslashes, tabs and line breaks means the path that it is, but for what
is percent-encoded. -/
theorem isPathOf_encode (hplain : ∀ place ∈ places text, IsPlain place)
    (hclean : ∀ c ∈ text.toList, c ≠ '\\' ∧ isBreak c = false) :
  IsPathOf text (String.ofList (Percent.encode Percent.path text.toList))
  := by
  have hwritten : written text = Percent.encode Percent.path text.toList := by
    rw [written, List.filter_eq_self.mpr, List.map_congr_left, List.map_id]
    · intro c hc
      apply if_neg (hclean c hc).1
    · intro c hc
      rw [(hclean c hc).2]
      rfl
  use places text, Relation.ReflTransGen.refl, hplain
  rw [through_places htext, hwritten]

end

end Url

end Greenhouse
