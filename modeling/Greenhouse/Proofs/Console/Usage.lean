import Mathlib.Tactic.SplitIfs
import Greenhouse.Console.Text
import Greenhouse.Proofs.Console.Line
import Greenhouse.Proofs.Json.Follow

/-!
# Lines as the help shows them

A line that is taken for a command has one of the forms of the help, with every word of it in
a field of the command: that is `OperatorCommand.Shaped`.  The only other lines that are taken are
those with a verb that stands alone in the help and a text behind it all the same, and nothing
becomes of that text: `OperatorCommand.Surplus`.  Blank lines are no commands, and all the rest is
refused.
-/

namespace Greenhouse.OperatorCommand

open Text

/-! ### Values of actuators -/

/-- What a sign is taken off has no blanks if there are none behind the sign. -/
theorem exists_sign {cs rest : List Char} {negative : Bool}
    (h : (match cs with
      | '-' :: rest => (true, rest)
      | '+' :: rest => (false, rest)
      | rest => (false, rest)) = (negative, rest)) :
  ∃ sign, Solid sign ∧ cs = sign ++ rest
  := by
  split at h
  · obtain ⟨-, rfl⟩ := Prod.mk.inj h
    use ['-'], by decide
    rfl
  · obtain ⟨-, rfl⟩ := Prod.mk.inj h
    use ['+'], by decide
    rfl
  · obtain ⟨-, rfl⟩ := Prod.mk.inj h
    use [], solid_nil
    rfl

/-- An exponent has no blanks. -/
theorem solid_of_exponent? {cs : List Char} {e : Int} (h : exponent? cs = some e) :
  Solid cs
  := by
  unfold exponent? at h
  split at h
  · apply solid_nil
  · next mark rest =>
    split at h
    · next hmark =>
      have hfirst : isBlank mark = false := by obtain rfl | rfl := hmark <;> rfl
      apply Solid.cons hfirst
      split at h
      next negative digits hsign =>
      obtain ⟨sign, hsolid, rfl⟩ := exists_sign hsign
      apply hsolid.append
      split at h
      · nomatch h
      · next hdigits =>
        simp only [Bool.or_eq_true, not_or, Bool.not_eq_true', Bool.not_eq_false,
          List.all_eq_true] at hdigits
        apply solid_of_digits hdigits.2
    · nomatch h

/-- What is behind the first digits is a point with digits, if there is one, and an exponent. -/
theorem exists_fraction {cs fraction tail : List Char}
    (h : (match cs with
      | '.' :: rest => (rest.takeWhile isDigit, rest.dropWhile isDigit)
      | rest => ([], rest)) = (fraction, tail)) :
  ∃ point, Solid (point ++ fraction) ∧ cs = point ++ fraction ++ tail
  := by
  split at h
  · obtain ⟨rfl, rfl⟩ := Prod.mk.inj h
    use ['.'], Solid.cons rfl (solid_takeWhile_isDigit _)
    rw [List.append_assoc, List.takeWhile_append_dropWhile, List.singleton_append]
  · obtain ⟨rfl, rfl⟩ := Prod.mk.inj h
    use [], solid_nil
    rfl

/-- A number has no blanks. -/
theorem solid_of_number? {cs : List Char} {d : Double} (h : number? cs = some d) :
  cs ≠ [] ∧ Solid cs
  := by
  unfold number? at h
  split at h
  next negative magnitude hsign =>
  obtain ⟨sign, hsolid, rfl⟩ := exists_sign hsign
  split at h
  next fraction tail hpoint =>
  obtain ⟨point, hfraction, hmagnitude⟩ := exists_fraction hpoint
  dsimp only at h
  split at h
  · nomatch h
  · next hdigits =>
    obtain ⟨e, he, -⟩ := Option.bind_eq_some_iff.mp h
    rw [← List.takeWhile_append_dropWhile (p := isDigit) (l := magnitude), hmagnitude]
    constructor
    · intro hnil
      simp only [List.append_eq_nil_iff] at hnil
      simp [hnil] at hdigits
    · apply hsolid.append
      apply (solid_takeWhile_isDigit _).append
      apply hfraction.append (solid_of_exponent? he)

/-- A text that is a word in lower case is a word. -/
theorem isWord_of_lower {cs : List Char} {word : String} (hword : IsWord word)
    (h : String.ofList (cs.map lowerAscii) = word) :
  IsWord (String.ofList cs)
  := by
  subst h
  obtain ⟨hne, hsolid⟩ := hword
  rw [String.toList_ofList] at hne hsolid
  constructor
  · rw [String.toList_ofList]
    intro hnil
    apply hne
    rw [hnil, List.map_nil]
  · rw [String.toList_ofList]
    intro c hc
    rw [← isBlank_lowerAscii]
    apply hsolid _ (List.mem_map_of_mem hc)

/-- The value of an actuator is a word. -/
theorem isWord_of_actuatorValue? {cs : List Char} {value : ActuatorValue}
    (h : actuatorValue? cs = some value) :
  IsWord (String.ofList cs)
  := by
  unfold actuatorValue? at h
  dsimp only at h
  split_ifs at h with hon hoff
  · obtain hon | htrue := hon
    · apply isWord_of_lower (by decide) hon
    · apply isWord_of_lower (by decide) htrue
  · obtain hoff | hfalse := hoff
    · apply isWord_of_lower (by decide) hoff
    · apply isWord_of_lower (by decide) hfalse
  · obtain ⟨d, hd, -⟩ := Option.map_eq_some_iff.mp h
    simpa [IsWord] using solid_of_number? hd

theorem actuatorValue_eq_ok {cs : List Char} {value : ActuatorValue} :
  actuatorValue cs = .ok value ↔ actuatorValue? cs = some value
  := by
  unfold actuatorValue
  split
  · next other hother => rw [hother, Except.ok.injEq, Option.some.injEq]
  · next hnone =>
    rw [hnone]
    constructor <;> nofun

/-! ### Forms -/

/-- The verbs that stand alone, with their commands. -/
def bare : List (String × OperatorCommand) :=
  [("clear-all", .clearAll), ("ping", .ping), ("status", .status), ("show", .show),
    ("settings", .settings), ("metrics", .metrics), ("help", .help), ("?", .help),
    ("quit", .quit), ("exit", .quit)]

/-- The parts of a line are a verb and the fields of a command. -/
inductive Form : OperatorCommand → List String → Prop where
  | set {name text : String} {value : ActuatorValue} (hname : IsWord name) (htext : IsWord text)
    (hvalue : actuatorValue? text.toList = some value) : Form (.set name value) ["set", name, text]
  | toggle {name : String} (hname : IsWord name) : Form (.toggle name) ["toggle", name]
  | clear {name : String} (hname : IsWord name) : Form (.clear name) ["clear", name]
  | goal {text : String} (htext : Tight text) : Form (.goal text) ["goal", text]
  | edit {name field text : String} (hname : IsWord name) (hfield : IsWord field)
    (htext : Tight text) :
    Form (.edit name field (settingValue text.toList)) ["edit", name, field, text]
  | close {name : String} (hname : IsWord name) : Form (.close name) ["close", name]
  | send {verb text : String} {payload : Json} (hverb : IsWord verb) (htext : Tight text)
    (hpayload : Json.parse text = .ok payload) : Form (.send verb payload) ["send", verb, text]
  | sendEmpty {verb : String} (hverb : IsWord verb) : Form (.send verb (.obj [])) ["send", verb]
  | alone {verb : String} {c : OperatorCommand} (h : (verb, c) ∈ bare) : Form c [verb]

/-- The forms that a help shows: of each line behind the first, the words up to a gap of two
blanks. -/
def formsIn (help : List Char) : List (List String) :=
  ((help.splitOn '\n').drop 1).map fun line =>
    (((line.drop 2).splitOn ' ').takeWhile fun word => !word.isEmpty).map String.ofList

/-- The forms that the help of the console shows. -/
def forms : List (List String) := formsIn Console.help.toList

/-- Verbs that are not in the help, with those that mean the same. -/
def synonyms : List (String × String) := [("?", "help"), ("exit", "quit")]

/-- Parts of a line stand in the places of a form.  Most places take one word; a text, the value of
a setting and what is in brackets take the rest of the line, and the last may be left out. -/
inductive Fills : List String → List String → Prop where
  | nil : Fills [] []
  | word {place part : String} {places parts : List String}
    (hplace : place ∈ ["<name>", "<on|off|number>", "<section>", "<field>", "<command>"])
    (hpart : IsWord part) (h : Fills places parts) : Fills (place :: places) (part :: parts)
  | text {place part : String} (hplace : place ∈ ["<text...>", "<value>", "[json]"])
    (hpart : Tight part) : Fills [place] [part]
  | omitted : Fills ["[json]"] []

/-- The parts of a line are as the help shows them. -/
inductive Documented : List String → Prop where
  | intro {verb shown : String} {places parts : List String} (hform : shown :: places ∈ forms)
    (hverb : verb = shown ∨ (verb, shown) ∈ synonyms) (hparts : Fills places parts) :
    Documented (verb :: parts)

set_option maxRecDepth 4000 in
theorem forms_eq :
  forms =
    [["set", "<name>", "<on|off|number>"], ["toggle", "<name>"], ["clear", "<name>"],
      ["clear-all"], ["goal", "<text...>"], ["edit", "<section>", "<field>", "<value>"],
      ["close", "<section>"], ["send", "<command>", "[json]"], ["ping"], ["status"], ["show"],
      ["settings"], ["metrics"], ["help"], ["quit"]]
  := (congrArg formsIn String.toList_ofList).trans rfl

/-- A verb that stands alone does so in the help, or one that means the same does. -/
theorem documented_of_bare {verb : String} {c : OperatorCommand} (h : (verb, c) ∈ bare) :
  Documented [verb]
  := by
  have hshown : ∀ p ∈ bare, ∃ shown ∈ [p.1, "help", "quit"], [shown] ∈ forms
      ∧ (p.1 = shown ∨ (p.1, shown) ∈ synonyms) := by
    rw [forms_eq]
    decide
  obtain ⟨shown, -, hform, hverb⟩ := hshown _ h
  apply Documented.intro hform hverb Fills.nil

/-- Every form of a command is one that the help shows. -/
theorem Form.documented {c : OperatorCommand} {parts : List String} (h : Form c parts) :
  Documented parts
  := by
  cases h with
  | set hname htext _ =>
      have hform : ["set", "<name>", "<on|off|number>"] ∈ forms := by simp [forms_eq]
      apply Documented.intro hform (.inl rfl)
      apply Fills.word (by simp) hname
      apply Fills.word (by simp) htext Fills.nil
  | toggle hname =>
      have hform : ["toggle", "<name>"] ∈ forms := by simp [forms_eq]
      apply Documented.intro hform (.inl rfl)
      apply Fills.word (by simp) hname Fills.nil
  | clear hname =>
      have hform : ["clear", "<name>"] ∈ forms := by simp [forms_eq]
      apply Documented.intro hform (.inl rfl)
      apply Fills.word (by simp) hname Fills.nil
  | goal htext =>
      have hform : ["goal", "<text...>"] ∈ forms := by simp [forms_eq]
      apply Documented.intro hform (.inl rfl)
      apply Fills.text (by simp) htext
  | edit hname hfield htext =>
      have hform : ["edit", "<section>", "<field>", "<value>"] ∈ forms := by simp [forms_eq]
      apply Documented.intro hform (.inl rfl)
      apply Fills.word (by simp) hname
      apply Fills.word (by simp) hfield
      apply Fills.text (by simp) htext
  | close hname =>
      have hform : ["close", "<section>"] ∈ forms := by simp [forms_eq]
      apply Documented.intro hform (.inl rfl)
      apply Fills.word (by simp) hname Fills.nil
  | send hverb htext _ =>
      have hform : ["send", "<command>", "[json]"] ∈ forms := by simp [forms_eq]
      apply Documented.intro hform (.inl rfl)
      apply Fills.word (by simp) hverb
      apply Fills.text (by simp) htext
  | sendEmpty hverb =>
      have hform : ["send", "<command>", "[json]"] ∈ forms := by simp [forms_eq]
      apply Documented.intro hform (.inl rfl)
      apply Fills.word (by simp) hverb Fills.omitted
  | alone h => apply documented_of_bare h

/-! ### Reading a form -/

section
variable {line : String} {verb name text : String} {parts : List String} {cs : List Char}

/-- The verb of a line decides what becomes of the rest. -/
theorem parse_of_laid (hverb : IsWord verb) (h : Laid (verb :: parts) line.toList) :
  ∃ rest, parse line = (parseVerb verb (trim rest)).map some ∧ Laid parts rest
  := by
  obtain ⟨rest, hsplit, hrest⟩ := splitWord_of_laid h hverb
  use rest
  constructor
  · rw [parse, splitWord_trim, hsplit]
    dsimp only
    rw [String.ofList_toList]
  · apply hrest

theorem oneWord_of_laid (hname : IsWord name) (h : Laid [name] cs) (form : String) :
  oneWord (trim cs) form = .ok name
  := by
  obtain ⟨rest, hsplit, hrest⟩ := splitWord_of_laid h hname
  rw [oneWord, splitWord_trim, hsplit, (laid_nil_iff.mp hrest).trim_eq]
  dsimp only
  rw [String.ofList_toList]

theorem twoWords_of_laid (hname : IsWord name) (htext : Tight text) (h : Laid [name, text] cs)
    (form : String) :
  twoWords (trim cs) form = .ok (name.toList, text.toList)
  := by
  obtain ⟨rest, hsplit, hrest⟩ := splitWord_of_laid h hname
  rw [twoWords, splitWord_trim, hsplit, trim_of_laid hrest htext]
  dsimp only
  rw [List.isEmpty_eq_false_iff.mpr htext.1]
  rfl

theorem parseVerb_of_bare {c : OperatorCommand} (h : (verb, c) ∈ bare) (rest : List Char) :
  parseVerb verb rest = .ok c
  := by
  simp only [bare, List.mem_cons, Prod.mk.injEq, List.not_mem_nil, or_false] at h
  obtain ⟨rfl, rfl⟩ | ⟨rfl, rfl⟩ | ⟨rfl, rfl⟩ | ⟨rfl, rfl⟩ | ⟨rfl, rfl⟩ | ⟨rfl, rfl⟩ | ⟨rfl, rfl⟩
    | ⟨rfl, rfl⟩ | ⟨rfl, rfl⟩ | ⟨rfl, rfl⟩ := h <;> rfl

theorem isWord_of_bare {c : OperatorCommand} (h : (verb, c) ∈ bare) :
  IsWord verb
  := by
  have hwords : ∀ p ∈ bare, IsWord p.1 := by decide
  apply hwords _ h

/-- A line in the form of a command is that command, whatever blanks are in it. -/
theorem parse_of_form {c : OperatorCommand} (hform : Form c parts)
    (hline : Laid parts line.toList) :
  parse line = .ok (some c)
  := by
  cases hform with
  | set hname htext hvalue =>
      obtain ⟨rest, hparse, hrest⟩ := parse_of_laid (by decide) hline
      rw [hparse, parseVerb, twoWords_of_laid hname htext.tight hrest]
      simp only [bind, Except.bind, actuatorValue, hvalue, String.ofList_toList]
      rfl
  | toggle hname =>
      obtain ⟨rest, hparse, hrest⟩ := parse_of_laid (by decide) hline
      rw [hparse, parseVerb, oneWord_of_laid hname hrest]
      rfl
  | clear hname =>
      obtain ⟨rest, hparse, hrest⟩ := parse_of_laid (by decide) hline
      rw [hparse, parseVerb, oneWord_of_laid hname hrest]
      rfl
  | goal htext =>
      obtain ⟨rest, hparse, hrest⟩ := parse_of_laid (by decide) hline
      rw [hparse, parseVerb, trim_of_laid hrest htext, List.isEmpty_eq_false_iff.mpr htext.1,
        String.ofList_toList]
      rfl
  | edit hname hfield htext =>
      obtain ⟨rest, hparse, hrest⟩ := parse_of_laid (by decide) hline
      obtain ⟨rest', hsplit, hrest'⟩ := splitWord_of_laid hrest hname
      rw [hparse, parseVerb, parseEdit, splitWord_trim, hsplit]
      dsimp only
      rw [twoWords_of_laid hfield htext hrest']
      simp only [bind, Except.bind, String.ofList_toList]
      rfl
  | close hname =>
      obtain ⟨rest, hparse, hrest⟩ := parse_of_laid (by decide) hline
      rw [hparse, parseVerb, oneWord_of_laid hname hrest]
      rfl
  | send hverb htext hpayload =>
      obtain ⟨rest, hparse, hrest⟩ := parse_of_laid (by decide) hline
      obtain ⟨rest', hsplit, hrest'⟩ := splitWord_of_laid hrest hverb
      rw [hparse, parseVerb, parseSend, splitWord_trim, hsplit]
      dsimp only
      rw [trim_of_laid hrest' htext, List.isEmpty_eq_false_iff.mpr htext.1]
      simp only [String.ofList_toList, hpayload]
      rfl
  | sendEmpty hverb =>
      obtain ⟨rest, hparse, hrest⟩ := parse_of_laid (by decide) hline
      obtain ⟨rest', hsplit, hrest'⟩ := splitWord_of_laid hrest hverb
      rw [hparse, parseVerb, parseSend, splitWord_trim, hsplit]
      dsimp only
      rw [(laid_nil_iff.mp hrest').trim_eq, String.ofList_toList]
      rfl
  | alone h =>
      obtain ⟨rest, hparse, -⟩ := parse_of_laid (isWord_of_bare h) hline
      rw [hparse, parseVerb_of_bare h]
      rfl

/-! ### What is read has a form -/

theorem laid_of_oneWord {form : String} (h : oneWord cs form = .ok name) :
  IsWord name ∧ Laid [name] cs
  := by
  unfold oneWord at h
  split at h
  · next word hsplit =>
    obtain rfl := Except.ok.inj h
    obtain ⟨hword, -, hlaid⟩ := laid_of_splitWord hsplit
    use hword
    apply hlaid [] (Laid.nil blank_nil)
  · nomatch h

theorem laid_of_twoWords {form : String} {first second : List Char}
    (h : twoWords cs form = .ok (first, second)) :
  IsWord (String.ofList first) ∧ Tight (String.ofList second)
    ∧ Laid [String.ofList first, String.ofList second] cs
  := by
  unfold twoWords at h
  split at h
  · next hsplit =>
    split at h
    · nomatch h
    · next hsecond =>
      obtain ⟨rfl, rfl⟩ := Prod.mk.inj (Except.ok.inj h)
      obtain ⟨hword, htrim, hlaid⟩ := laid_of_splitWord hsplit
      obtain ⟨htight, htext⟩ := laid_of_trim_eq (mt List.isEmpty_iff.mpr hsecond) htrim
      use hword, htight
      apply hlaid _ htext
  · nomatch h

/-- What is read for an edit makes a form. -/
theorem form_of_parseEdit {c : OperatorCommand} (h : parseEdit cs = .ok c) :
  ∃ parts, Form c ("edit" :: parts) ∧ Laid parts cs
  := by
  unfold parseEdit at h
  dsimp only at h
  split at h
  · nomatch h
  · next name rest hsplit =>
    obtain ⟨⟨field, value⟩, htwo, hc⟩ := bind_eq_ok.mp h
    obtain rfl := Except.ok.inj hc
    obtain ⟨hname, -, hlaid⟩ := laid_of_splitWord hsplit
    obtain ⟨hfield, hvalue, hrest⟩ := laid_of_twoWords htwo
    use [String.ofList name, String.ofList field, String.ofList value]
    constructor
    · have hform := Form.edit hname hfield hvalue
      rw [String.toList_ofList] at hform
      apply hform
    · apply hlaid _ hrest

/-- What is read for the streaming channel makes a form. -/
theorem form_of_parseSend {c : OperatorCommand} (h : parseSend cs = .ok c) :
  ∃ parts, Form c ("send" :: parts) ∧ Laid parts cs
  := by
  unfold parseSend at h
  split at h
  · nomatch h
  · next verb payload hsplit =>
    obtain ⟨hverb, htrim, hlaid⟩ := laid_of_splitWord hsplit
    split at h
    · next hempty =>
      obtain rfl := Except.ok.inj h
      use [String.ofList verb], Form.sendEmpty hverb
      apply hlaid
      rw [List.isEmpty_iff.mp hempty]
      apply Laid.nil blank_nil
    · next hne =>
      obtain ⟨htight, htext⟩ := laid_of_trim_eq (mt List.isEmpty_iff.mpr hne) htrim
      split at h
      · next value hvalue =>
        obtain rfl := Except.ok.inj h
        use [String.ofList verb, String.ofList payload], Form.send hverb htight hvalue
        apply hlaid _ htext
      · nomatch h

/-- What is read behind a verb makes a form with it, but for a text behind a verb that stands
alone. -/
theorem form_of_parseVerb {c : OperatorCommand} (h : parseVerb verb cs = .ok c)
    (htrim : trim cs = cs) :
  (∃ parts, Form c (verb :: parts) ∧ Laid parts cs) ∨ ((verb, c) ∈ bare ∧ cs ≠ [])
  := by
  have halone (hbare : (verb, c) ∈ bare) :
      (∃ parts, Form c (verb :: parts) ∧ Laid parts cs) ∨ ((verb, c) ∈ bare ∧ cs ≠ []) := by
    by_cases hcs : cs = []
    · left
      use [], Form.alone hbare
      rw [hcs]
      apply Laid.nil blank_nil
    · right
      exact ⟨hbare, hcs⟩
  unfold parseVerb at h
  split at h
  case h_1 =>
    left
    obtain ⟨⟨name, text⟩, htwo, h⟩ := bind_eq_ok.mp h
    obtain ⟨value, hvalue, hc⟩ := bind_eq_ok.mp h
    obtain rfl := Except.ok.inj hc
    obtain ⟨hname, -, hlaid⟩ := laid_of_twoWords htwo
    have hvalue : actuatorValue? text = some value := actuatorValue_eq_ok.mp hvalue
    have hform := Form.set hname (isWord_of_actuatorValue? hvalue)
      (by rw [String.toList_ofList, hvalue])
    use [String.ofList name, String.ofList text], hform
  case h_2 =>
    left
    obtain ⟨name, hone, rfl⟩ := map_eq_ok.mp h
    obtain ⟨hname, hlaid⟩ := laid_of_oneWord hone
    use [name], Form.toggle hname
  case h_3 =>
    left
    obtain ⟨name, hone, rfl⟩ := map_eq_ok.mp h
    obtain ⟨hname, hlaid⟩ := laid_of_oneWord hone
    use [name], Form.clear hname
  case h_5 =>
    left
    split at h
    · nomatch h
    · next hne =>
      obtain rfl := Except.ok.inj h
      obtain ⟨htight, htext⟩ := laid_of_trim_eq (mt List.isEmpty_iff.mpr hne) htrim
      use [String.ofList cs], Form.goal htight
  case h_6 =>
    left
    apply form_of_parseEdit h
  case h_7 =>
    left
    obtain ⟨name, hone, rfl⟩ := map_eq_ok.mp h
    obtain ⟨hname, hlaid⟩ := laid_of_oneWord hone
    use [name], Form.close hname
  case h_8 =>
    left
    apply form_of_parseSend h
  case h_18 => nomatch h
  all_goals
    obtain rfl := Except.ok.inj h
    apply halone
    decide

end

/-! ### What is taken for a command -/

/-- A line shows a command as the help does, with every word of it in its place. -/
def Shaped (c : OperatorCommand) (line : String) : Prop :=
  ∃ parts, Form c parts ∧ Documented parts ∧ Laid parts line.toList

/-- A line goes on behind a verb that stands alone. -/
def Surplus (c : OperatorCommand) (line : String) : Prop :=
  ∃ verb text, (verb, c) ∈ bare ∧ Tight text ∧ Laid [verb, text] line.toList

section
variable {c c' : OperatorCommand} {line : String}

theorem parse_of_blank (h : Blank line.toList) :
  parse line = .ok none
  := by rw [parse, splitWord_trim, splitWord_of_blank h]

theorem blank_of_parse (h : parse line = .ok none) :
  Blank line.toList
  := by
  unfold parse at h
  rw [splitWord_trim] at h
  split at h
  · next hnone => apply splitWord_eq_none_iff.mp hnone
  · obtain ⟨_, _, hsome⟩ := map_eq_ok.mp h
    nomatch hsome

theorem parse_of_shaped (h : Shaped c line) :
  parse line = .ok (some c)
  := by
  obtain ⟨parts, hform, -, hline⟩ := h
  apply parse_of_form hform hline

theorem parse_of_surplus (h : Surplus c line) :
  parse line = .ok (some c)
  := by
  obtain ⟨verb, text, hbare, -, hline⟩ := h
  obtain ⟨rest, hparse, -⟩ := parse_of_laid (isWord_of_bare hbare) hline
  rw [hparse, parseVerb_of_bare hbare]
  rfl

/-- A line that is taken for a command shows it as the help does, or has a surplus. -/
theorem shaped_or_surplus (h : parse line = .ok (some c)) :
  Shaped c line ∨ Surplus c line
  := by
  unfold parse at h
  rw [splitWord_trim] at h
  split at h
  · nomatch h
  · next verb rest hsplit =>
    obtain ⟨c', hc', hsome⟩ := map_eq_ok.mp h
    obtain rfl := Option.some.inj hsome
    obtain ⟨hverb, htrim, hlaid⟩ := laid_of_splitWord hsplit
    obtain ⟨parts, hform, hparts⟩ | ⟨hbare, hne⟩ := form_of_parseVerb hc' htrim
    · left
      use String.ofList verb :: parts, hform, hform.documented
      apply hlaid _ hparts
    · right
      obtain ⟨htight, htext⟩ := laid_of_trim_eq hne htrim
      use String.ofList verb, String.ofList rest, hbare, htight
      apply hlaid _ htext

/-- A form begins with a verb. -/
theorem Form.exists_verb {parts : List String} (h : Form c parts) :
  ∃ verb rest, parts = verb :: rest ∧ IsWord verb
  := by
  cases h with
  | alone hbare => exact ⟨_, _, rfl, isWord_of_bare hbare⟩
  | _ => exact ⟨_, _, rfl, by decide⟩

/-- There is nothing behind a verb that stands alone. -/
theorem Form.eq_nil_of_bare {verb : String} {parts : List String} (h : Form c' (verb :: parts))
    (hbare : (verb, c) ∈ bare) :
  parts = []
  := by
  have hverb : verb ∈ bare.map Prod.fst := List.mem_map_of_mem hbare
  cases h with
  | alone _ => rfl
  | _ => nomatch (show ¬ _ by decide) hverb

/-- A line with a surplus shows no command as the help does. -/
theorem not_shaped_of_surplus (h : Surplus c line) :
  ¬ Shaped c' line
  := by
  obtain ⟨verb, text, hbare, htext, hline⟩ := h
  rintro ⟨parts, hform, -, hparts⟩
  obtain ⟨verb', parts, rfl, hverb'⟩ := hform.exists_verb
  obtain ⟨rest, hsplit, hrest⟩ := splitWord_of_laid hline (isWord_of_bare hbare)
  obtain ⟨rest', hsplit', hrest'⟩ := splitWord_of_laid hparts hverb'
  rw [hsplit] at hsplit'
  obtain ⟨hsame, htrim⟩ := Prod.mk.inj (Option.some.inj hsplit')
  obtain rfl := String.toList_inj.mp hsame
  obtain rfl := hform.eq_nil_of_bare hbare
  rw [trim_of_laid hrest htext, (laid_nil_iff.mp hrest').trim_eq] at htrim
  apply htext.1 htrim

end

/-- What becomes of every line.  A blank one is no command; one that shows a command as the help
does is that command; one with a surplus is the command of its verb all the same, and shows none;
and every other line is refused. -/
theorem accepts_iff_shaped_or_surplus (line : String) :
  (parse line = .ok none ↔ Blank line.toList)
    ∧ (∀ c, parse line = .ok (some c) ↔ Shaped c line ∨ Surplus c line)
    ∧ (∀ c, parse line = .ok (some c) → (Shaped c line ↔ ¬ Surplus c line))
    ∧ ((∃ e, parse line = .error e) ↔
        ¬ Blank line.toList ∧ ∀ c, ¬ Shaped c line ∧ ¬ Surplus c line)
  := by
  have hblank : parse line = .ok none ↔ Blank line.toList := by
    constructor
    · apply blank_of_parse
    · apply parse_of_blank
  have htaken (c : OperatorCommand) :
      parse line = .ok (some c) ↔ Shaped c line ∨ Surplus c line := by
    constructor
    · apply shaped_or_surplus
    · rintro (h | h)
      · apply parse_of_shaped h
      · apply parse_of_surplus h
  use hblank, htaken
  constructor
  · intro c h
    constructor
    · intro hshaped hsurplus
      apply not_shaped_of_surplus hsurplus hshaped
    · apply ((htaken c).mp h).resolve_right
  constructor
  · rintro ⟨e, he⟩
    have hblank : ¬ Blank line.toList := by
      rw [← hblank, he]
      nofun
    use hblank
    intro c
    rw [← not_or, ← htaken c, he]
    nofun
  · rintro ⟨hnot, hnone⟩
    match hparse : parse line with
    | .error e => use e
    | .ok none => nomatch hnot (hblank.mp hparse)
    | .ok (some c) =>
        obtain hshaped | hsurplus := (htaken c).mp hparse
        · nomatch (hnone c).1 hshaped
        · nomatch (hnone c).2 hsurplus

/-- A name behind `clear-all` is accepted, and every override is released. -/
theorem surplus_accepted :
  parse "clear-all water_pump" = .ok (some .clearAll)
    ∧ ¬ Shaped .clearAll "clear-all water_pump"
  := by
  have hline : "clear-all water_pump".toList =
      [] ++ ("clear-all".toList ++ ([' '] ++ ("water_pump".toList ++ []))) := by decide
  have hsurplus : Surplus .clearAll "clear-all water_pump" := by
    use "clear-all", "water_pump", by decide, by decide
    rw [hline]
    apply Laid.cons blank_nil (by decide)
    apply Laid.cons (by decide) blank_nil.startsBlank (Laid.nil blank_nil)
  use parse_of_surplus hsurplus
  apply not_shaped_of_surplus hsurplus

end Greenhouse.OperatorCommand
