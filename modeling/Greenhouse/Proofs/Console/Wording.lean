import Greenhouse.Proofs.Console.Usage
import Greenhouse.Proofs.Json.Rereading

/-!
# Commands written in a line

A command that can be written, `OperatorCommand.Writable`, can be worded in several ways, which is
`OperatorCommand.Spells`: a switch in any case of its letters, a level by any text that is a number,
the value of a setting as compact JSON, or without quotes if it is a text that is no JSON itself.
Each wording, with any blanks between its parts, is read as the command.  A goal without any text is
the one command that no line is read as.
-/

namespace Greenhouse

namespace Text

/-! ### Texts of numbers -/

section
variable {s t : String}

theorem Solid.append_string (hs : Solid s.toList) (ht : Solid t.toList) :
  Solid (s ++ t).toList
  := by
  rw [String.toList_append]
  apply hs.append ht

theorem IsWord.append (hs : IsWord s) (ht : Solid t.toList) :
  IsWord (s ++ t)
  := by
  constructor
  · rw [String.toList_append]
    apply List.append_ne_nil_of_left_ne_nil hs.1
  · apply hs.2.append_string ht

theorem IsWord.prepend (hs : Solid s.toList) (ht : IsWord t) :
  IsWord (s ++ t)
  := by
  constructor
  · rw [String.toList_append]
    apply List.append_ne_nil_of_right_ne_nil _ ht.1
  · apply hs.append_string ht.2

end

theorem Solid.singleton {cs : List Char} (h : Solid cs) {c : Char} (hc : c ∈ cs) :
  Solid (String.singleton c).toList
  := by
  rw [String.toList_singleton]
  apply Solid.cons (h c hc) solid_nil

theorem solid_ofList {cs : List Char} (h : Solid cs) :
  Solid (String.ofList cs).toList
  := by
  rw [String.toList_ofList]
  apply h

theorem isWord_repr (n : Nat) :
  IsWord n.repr
  := by
  rw [IsWord, Nat.toList_repr]
  use Nat.toDigits_ne_nil
  apply solid_of_digits
  intro c hc
  have hdigit : c.isDigit = true := Nat.isDigit_of_mem_toDigits (by decide) (by decide) hc
  apply Json.isDigit_of_digitValue? (Json.digitValue?_of_isDigit hdigit)

theorem isWord_int (n : Int) :
  IsWord (toString n)
  := by
  rw [Int.toString_eq_repr, Int.repr_eq_if]
  split
  · apply isWord_repr
  · apply IsWord.append (by decide) (isWord_repr _).2

theorem solid_zeros (n : Nat) :
  Solid (Double.zeros n).toList
  := by
  apply solid_ofList
  intro c hc
  rw [List.eq_of_mem_replicate hc]
  rfl

/-- A decimal that is written out has no blanks. -/
theorem isWord_positional (x : Double.Decimal) {whole : String} (hwhole : Solid whole.toList) :
  IsWord (x.positional whole)
  := by
  have hdigits := isWord_repr x.digits
  unfold Double.Decimal.positional
  dsimp only
  split
  · apply (hdigits.append (solid_zeros _)).append hwhole
  · split
    · apply IsWord.append _ hdigits.2
      apply IsWord.append (by decide) (solid_zeros _)
    · apply IsWord.append
      · apply IsWord.prepend _ (by decide)
        apply solid_ofList
        intro c hc
        apply hdigits.2 c (List.mem_of_mem_take hc)
      · apply solid_ofList
        intro c hc
        apply hdigits.2 c (List.mem_of_mem_drop hc)

/-- A decimal with a power of ten has no blanks. -/
theorem isWord_scientific (x : Double.Decimal) :
  IsWord x.scientific
  := by
  have hdigits : Solid (toString x.digits).toList := (isWord_repr x.digits).2
  have hexponent :
      IsWord ((if 0 ≤ x.magnitude then "+" else "-") ++ toString x.magnitude.natAbs) := by
    apply IsWord.prepend _ (isWord_repr _)
    split <;> decide
  unfold Double.Decimal.scientific
  dsimp only
  split
  · apply IsWord.append (by decide) hexponent.2
  · next first hfirst =>
    rw [hfirst] at hdigits
    apply IsWord.prepend _ hexponent
    apply (hdigits.singleton List.mem_cons_self).append_string (by decide)
  · next first rest hfirst hrest =>
    rw [hrest] at hdigits
    apply IsWord.prepend _ hexponent
    apply Solid.append_string _ (by decide)
    apply ((hdigits.singleton List.mem_cons_self).append_string (by decide)).append_string
    apply solid_ofList fun c hc => hdigits c (List.mem_cons_of_mem _ hc)

/-- The text of a number on the wire has no blanks. -/
theorem isWord_encode (d : Double) :
  IsWord d.encode
  := by
  unfold Double.encode
  apply IsWord.prepend
  · unfold Double.signText
    split <;> decide
  · split
    · apply isWord_positional _ (by decide)
    · apply isWord_scientific

/-! ### Texts of documents -/

/-- The compact text of a document has no blanks at its ends. -/
theorem tight_render (v : Json) :
  Tight v.render
  := by
  unfold Json.render
  cases v with
  | null => decide
  | bool b => cases b <;> decide
  | int n =>
      rw [Json.chars, String.ofList_toList]
      apply (isWord_int n).tight
  | float d =>
      rw [Json.chars, String.ofList_toList]
      apply (isWord_encode d).tight
  | str s =>
      rw [Json.chars]
      apply tight_enclosed rfl rfl
  | arr items =>
      rw [Json.chars]
      apply tight_enclosed rfl rfl
  | obj members =>
      rw [Json.chars]
      apply tight_enclosed rfl rfl

end Text

namespace OperatorCommand

open Text

/-! ### Wordings -/

/-- The words for a switch. -/
def switchWords : List (String × Bool) :=
  [("on", true), ("true", true), ("off", false), ("false", false)]

/-- A text is one for the value of an actuator. -/
inductive SpellsValue : ActuatorValue → String → Prop where
  | switch {word text : String} {on : Bool} (hword : (word, on) ∈ switchWords)
    (hcase : sameIgnoringCase text word = true) : SpellsValue (.switch on) text
  | level {text : String} {amount : Double} (hamount : number? text.toList = some amount) :
    SpellsValue (.level amount) text

/-- The parts of a line are a wording of a command. -/
inductive Spells : OperatorCommand → List String → Prop where
  | set {name text : String} {value : ActuatorValue} (htext : SpellsValue value text) :
    Spells (.set name value) ["set", name, text]
  | toggle {name : String} : Spells (.toggle name) ["toggle", name]
  | clear {name : String} : Spells (.clear name) ["clear", name]
  | goal {text : String} : Spells (.goal text) ["goal", text]
  | edit {name field : String} {value : Json} :
    Spells (.edit name field value) ["edit", name, field, value.render]
  | editText {name field text : String} (htext : Tight text)
    (hjson : ∀ v, Json.parse text ≠ .ok v) :
    Spells (.edit name field (.str text)) ["edit", name, field, text]
  | close {name : String} : Spells (.close name) ["close", name]
  | send {verb : String} {payload : Json} :
    Spells (.send verb payload) ["send", verb, payload.render]
  | sendEmpty {verb : String} : Spells (.send verb (.obj [])) ["send", verb]
  | alone {verb : String} {c : OperatorCommand} (h : (verb, c) ∈ bare) : Spells c [verb]

/-- The text of a level is a number, and the level is its value. -/
def Readable : ActuatorValue → Prop
  | .switch _ => True
  | .level amount => number? amount.display.toList = some amount

/-- A command can be written in a line: its names are words, a goal has a text without blanks at its
ends, a document has room, and its numbers are legible. -/
def Writable : OperatorCommand → Prop
  | .set name value => IsWord name ∧ Readable value
  | .toggle name | .clear name | .close name => IsWord name
  | .goal text => Tight text
  | .edit name field value =>
    IsWord name ∧ IsWord field ∧ value.Fits Json.Limits.ofText.room ∧ value.Legible
  | .send verb payload => IsWord verb ∧ payload.Fits Json.Limits.ofText.room ∧ payload.Legible
  | _ => True

/-! ### Values -/

/-- A number begins with a digit, a sign or a point. -/
theorem head_of_number? {c : Char} {cs : List Char} {d : Double}
    (h : number? (c :: cs) = some d) :
  isDigit c = true ∨ c ∈ ['-', '+', '.']
  := by
  by_contra hnot
  obtain ⟨hdigit, hmark⟩ := not_or.mp hnot
  have hminus : c ≠ '-' := fun heq => hmark (by simp [heq])
  have hplus : c ≠ '+' := fun heq => hmark (by simp [heq])
  have hpoint : c ≠ '.' := fun heq => hmark (by simp [heq])
  unfold number? at h
  split at h
  next negative magnitude hsign =>
  split at hsign
  · next heq => apply hminus (List.head_eq_of_cons_eq heq)
  · next heq => apply hplus (List.head_eq_of_cons_eq heq)
  · obtain ⟨-, rfl⟩ := Prod.mk.inj hsign
    rw [List.takeWhile_cons_of_neg hdigit, List.dropWhile_cons_of_neg hdigit] at h
    split at h
    next fraction tail hfraction =>
    split at hfraction
    · next heq => apply hpoint (List.head_eq_of_cons_eq heq)
    · obtain ⟨rfl, -⟩ := Prod.mk.inj hfraction
      nomatch h

theorem lowerAscii_of_isDigit {c : Char} (h : isDigit c = true) :
  lowerAscii c = c
  := by
  have hhigh : c ≤ '9' := of_decide_eq_true (Bool.and_eq_true_iff.mp h).2
  apply if_neg
  rintro ⟨hlow, -⟩
  apply absurd (Char.le_trans hlow hhigh) (by decide)

/-- A number is no word for a switch. -/
theorem lower_ne_of_number? {text : String} {d : Double} (h : number? text.toList = some d) :
  String.ofList (text.toList.map lowerAscii) ∉ switchWords.map Prod.fst
  := by
  intro hmem
  cases htext : text.toList with
  | nil => apply (solid_of_number? h).1 htext
  | cons c cs =>
      rw [htext] at h hmem
      have hletter : ∀ word ∈ switchWords.map Prod.fst, word.toList.head?.all fun c =>
          !isDigit c && decide (c ∉ ['-', '+', '.']) := by decide
      have hfirst := hletter _ hmem
      rw [String.toList_ofList, List.map_cons, List.head?_cons, Option.all_some] at hfirst
      obtain hdigit | hmark := head_of_number? h
      · rw [lowerAscii_of_isDigit hdigit, hdigit] at hfirst
        nomatch hfirst
      · simp only [List.mem_cons, List.not_mem_nil, or_false] at hmark
        obtain rfl | rfl | rfl := hmark <;> nomatch hfirst

theorem actuatorValue?_of_switch {cs : List Char} {word : String} {on : Bool}
    (hword : (word, on) ∈ switchWords) (hcs : String.ofList (cs.map lowerAscii) = word) :
  actuatorValue? cs = some (.switch on)
  := by
  unfold actuatorValue?
  rw [hcs]
  simp only [switchWords, List.mem_cons, Prod.mk.injEq, List.not_mem_nil, or_false] at hword
  obtain ⟨rfl, rfl⟩ | ⟨rfl, rfl⟩ | ⟨rfl, rfl⟩ | ⟨rfl, rfl⟩ := hword <;> rfl

theorem actuatorValue?_of_level {cs : List Char} {d : Double} (h : number? cs = some d)
    (hcs : String.ofList (cs.map lowerAscii) ∉ switchWords.map Prod.fst) :
  actuatorValue? cs = some (.level d)
  := by
  have hon : ¬ (String.ofList (cs.map lowerAscii) = "on"
      ∨ String.ofList (cs.map lowerAscii) = "true") := by
    rintro (heq | heq)
    all_goals
      rw [heq] at hcs
      apply hcs
      decide
  have hoff : ¬ (String.ofList (cs.map lowerAscii) = "off"
      ∨ String.ofList (cs.map lowerAscii) = "false") := by
    rintro (heq | heq)
    all_goals
      rw [heq] at hcs
      apply hcs
      decide
  unfold actuatorValue?
  rw [if_neg hon, if_neg hoff, h]
  rfl

/-- A text for the value of an actuator is read as the value. -/
theorem actuatorValue?_of_spells {value : ActuatorValue} {text : String}
    (h : SpellsValue value text) :
  actuatorValue? text.toList = some value
  := by
  cases h with
  | @switch word text on hword hcase =>
      have hlower : ∀ p ∈ switchWords, p.1.toList.map lowerAscii = p.1.toList := by decide
      apply actuatorValue?_of_switch hword
      rw [eq_of_beq hcase, hlower _ hword, String.ofList_toList]
  | level hamount => apply actuatorValue?_of_level hamount (lower_ne_of_number? hamount)

/-! ### Documents -/

theorem parse_render {v : Json} (hfits : v.Fits Json.Limits.ofText.room) (hlegible : v.Legible) :
  Json.parse v.render = .ok v
  := (hfits.rereads hlegible).takes_readValue.run (Nat.le_refl _)

theorem settingValue_of_ok {text : String} {v : Json} (h : Json.parse text = .ok v) :
  settingValue text.toList = v
  := by rw [settingValue, String.ofList_toList, h]

theorem settingValue_of_ne_ok {text : String} (h : ∀ v, Json.parse text ≠ .ok v) :
  settingValue text.toList = .str text
  := by
  rw [settingValue, String.ofList_toList]
  split
  · next v hv => nomatch h v hv
  · rfl

/-! ### Lines -/

/-- A wording of a command that can be written has its form. -/
theorem Spells.form {c : OperatorCommand} {parts : List String} (h : Spells c parts)
    (hc : Writable c) :
  Form c parts
  := by
  cases h with
  | set htext =>
      have hvalue := actuatorValue?_of_spells htext
      have hword := isWord_of_actuatorValue? hvalue
      rw [String.ofList_toList] at hword
      apply Form.set hc.1 hword hvalue
  | toggle => apply Form.toggle hc
  | clear => apply Form.clear hc
  | goal => apply Form.goal hc
  | @edit name field value =>
      obtain ⟨hname, hfield, hfits, hlegible⟩ := hc
      have hform := Form.edit hname hfield (tight_render value)
      rw [settingValue_of_ok (parse_render hfits hlegible)] at hform
      apply hform
  | editText htext hjson =>
      have hform := Form.edit hc.1 hc.2.1 htext
      rw [settingValue_of_ne_ok hjson] at hform
      apply hform
  | close => apply Form.close hc
  | send =>
      obtain ⟨hverb, hfits, hlegible⟩ := hc
      apply Form.send hverb (tight_render _) (parse_render hfits hlegible)
  | sendEmpty => apply Form.sendEmpty hc.1
  | alone h => apply Form.alone h

/-- Every command that can be written has a wording. -/
theorem Writable.exists_spells {c : OperatorCommand} (h : Writable c) :
  ∃ parts, Spells c parts
  := by
  cases c with
  | set name value =>
      match value, h with
      | .switch true, _ =>
          have htext : SpellsValue (.switch true) "on" :=
            @SpellsValue.switch "on" _ _ (by decide) rfl
          exact ⟨_, Spells.set htext⟩
      | .switch false, _ =>
          have htext : SpellsValue (.switch false) "off" :=
            @SpellsValue.switch "off" _ _ (by decide) rfl
          exact ⟨_, Spells.set htext⟩
      | .level amount, h => exact ⟨_, Spells.set (SpellsValue.level h.2)⟩
  | toggle name => exact ⟨_, Spells.toggle⟩
  | clear name => exact ⟨_, Spells.clear⟩
  | goal text => exact ⟨_, Spells.goal⟩
  | edit name field value => exact ⟨_, Spells.edit⟩
  | close name => exact ⟨_, Spells.close⟩
  | send verb payload => exact ⟨_, Spells.send⟩
  | clearAll => exact ⟨["clear-all"], Spells.alone (by decide)⟩
  | ping => exact ⟨["ping"], Spells.alone (by decide)⟩
  | status => exact ⟨["status"], Spells.alone (by decide)⟩
  | «show» => exact ⟨["show"], Spells.alone (by decide)⟩
  | settings => exact ⟨["settings"], Spells.alone (by decide)⟩
  | metrics => exact ⟨["metrics"], Spells.alone (by decide)⟩
  | help => exact ⟨["help"], Spells.alone (by decide)⟩
  | quit => exact ⟨["quit"], Spells.alone (by decide)⟩

/-- Every command that can be written is read off each line with one of its wordings, whatever
blanks are in the line, and there is such a line. -/
theorem parse_of_spells {c : OperatorCommand} (h : Writable c) :
  (∃ parts, ∃ line : String, Spells c parts ∧ Laid parts line.toList)
    ∧ ∀ parts, ∀ line : String, Spells c parts → Laid parts line.toList →
      parse line = .ok (some c)
  := by
  constructor
  · obtain ⟨parts, hparts⟩ := h.exists_spells
    obtain ⟨line, hline⟩ := exists_laid parts
    use parts, String.ofList line, hparts
    rw [String.toList_ofList]
    apply hline
  · intro parts line hparts hline
    apply parse_of_form (hparts.form h) hline

/-- An object for a setting, typed with a tab and more spaces than one. -/
theorem parse_of_spells_edit :
  let six : Double := ⟨false, 4618554007859127910, by decide⟩
  let value := Json.obj [("high", .float six), ("note", .str "a  b")]
  let line := " edit  nutrients\ttarget_ph \x7b\"high\":6.1,\"note\":\"a  b\"\x7d "
  Writable (.edit "nutrients" "target_ph" value)
    ∧ parse line = .ok (some (.edit "nutrients" "target_ph" value))
  := by
  intro six value line
  have hordered : Table.Ordered [("high", Json.float six), ("note", Json.str "a  b")] := by
    change ["high", "note"].Pairwise (· < ·)
    decide
  have hwritable : Writable (.edit "nutrients" "target_ph" value) := by
    use by decide, by decide
    constructor
    · use hordered
      simp
    · change ∀ d ∈ [six], Json.parse d.encode = .ok (.float d)
      decide +kernel
  have hline : line.toList = [' '] ++ ("edit".toList ++ ([' ', ' '] ++ ("nutrients".toList
      ++ (['\t'] ++ ("target_ph".toList ++ ([' '] ++ (value.render.toList ++ [' ']))))))) := by
    decide +kernel
  have hlaid : Laid ["edit", "nutrients", "target_ph", value.render] line.toList := by
    rw [hline]
    apply Laid.cons (by decide) (by decide)
    apply Laid.cons (by decide) (by decide)
    apply Laid.cons (by decide) (by decide)
    apply Laid.cons (by decide) (by decide)
    apply Laid.nil (by decide)
  use hwritable
  apply (parse_of_spells hwritable).2 _ line Spells.edit hlaid

/-- A goal without any text is refused, and no line is read as one. -/
theorem parse_ne_goal_empty :
  trim "".toList = "".toList ∧ Laid ["goal", ""] "goal".toList
    ∧ parse "goal" = .error (.usage "goal <text...>")
    ∧ ∀ line, parse line ≠ .ok (some (.goal ""))
  := by
  have hlaid : Laid ["goal", ""] ([] ++ ("goal".toList ++ ([] ++ ("".toList ++ [])))) :=
    Laid.cons blank_nil (by decide) (Laid.cons blank_nil (by decide) (Laid.nil blank_nil))
  refine ⟨rfl, ?_, by decide, ?_⟩
  · simpa using hlaid
  · intro line hparse
    obtain ⟨parts, hform, -⟩ | ⟨verb, text, hbare, -⟩ := shaped_or_surplus hparse
    · cases hform with
      | goal htext => apply htext.1 rfl
      | alone hbare =>
          have hgoal : (.goal "") ∉ bare.map Prod.snd := by decide
          apply hgoal (List.mem_map_of_mem hbare)
    · have hgoal : (.goal "") ∉ bare.map Prod.snd := by decide
      apply hgoal (List.mem_map_of_mem hbare)

end OperatorCommand

end Greenhouse
