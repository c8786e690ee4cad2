import Mathlib.Tactic.IntervalCases
import Greenhouse.Json.Printer
import Greenhouse.Proofs.Json.Append
import Greenhouse.Proofs.Json.Follow
import Greenhouse.Proofs.Text.Utf8

/-!
# Reading what was written

What was written is read as it was.  For strings and words that is a fact about their letters.
`Json.Reader.Takes` says of a reader that it takes a text for a value, wherever the text stands, as
long as there is room for the arrays and objects in it.

The members of an object make a record one after another, each by the field of its name, which is
`Json.Shape.Makes`; a document that is such an object is read as that record, off a text or off
bytes.  An ordered map is read from an object that has its keys in their order.
-/

namespace Greenhouse.Json

/-! ### Strings -/

section
variable {lim : Limits} {acc : List Char} {fuel : Nat}

/-- An escaped character is what its escape is read as. -/
theorem readEscape_renderChar (lim : Limits) {c : Char} (hc : c = '"' ∨ c = '\\' ∨ c.toNat < 0x20) :
  ∃ letters, renderChar c = '\\' :: letters
    ∧ ∀ rest, readEscape lim (letters ++ rest) = .ok (c, rest)
  := by
  obtain rfl | rfl | hcontrol := hc
  · use ['"'], rfl
    intro rest
    rfl
  · use ['\\'], rfl
    intro rest
    rfl
  · have hchar : Char.ofNat c.toNat = c := Char.ofNat_toNat c
    generalize c.toNat = n at hcontrol hchar
    subst hchar
    interval_cases n
    all_goals exact ⟨_, rfl, fun rest => rfl⟩

/-- A written character is read as it was. -/
theorem readStringFrom_renderChar (hlim : lim.stray? = none) (c : Char) (rest : List Char) :
  readStringFrom lim acc false (fuel + 1) (renderChar c ++ rest)
    = readStringFrom lim (c :: acc) false fuel rest
  := by
  by_cases hescaped : c = '"' ∨ c = '\\' ∨ c.toNat < 0x20
  · obtain ⟨letters, hletters, hread⟩ := readEscape_renderChar lim hescaped
    rw [hletters, List.cons_append, readStringFrom, hread]
  · obtain ⟨hquote, hrest⟩ := not_or.mp hescaped
    obtain ⟨hbackslash, hcontrol⟩ := not_or.mp hrest
    rw [renderChar, if_neg hquote, if_neg hbackslash, if_neg hcontrol, List.singleton_append,
      readStringFrom, if_neg hcontrol, hlim]
    · rfl
    · apply hquote
    · apply hbackslash

theorem readStringFrom_rendered (hlim : lim.stray? = none) {cs : List Char} (more : List Char)
    (hfuel : cs.length < fuel) :
  readStringFrom lim acc false fuel (cs.flatMap renderChar ++ '"' :: more)
    = .ok (String.ofList (acc.reverse ++ cs), more)
  := by
  induction cs generalizing acc fuel with
  | nil =>
      cases fuel with
      | zero => nomatch hfuel
      | succ fuel =>
          rw [List.append_nil]
          rfl
  | cons c rest ih =>
      cases fuel with
      | zero => nomatch hfuel
      | succ fuel =>
          rw [List.flatMap_cons, List.append_assoc, readStringFrom_renderChar hlim,
            ih (Nat.lt_of_succ_lt_succ hfuel), List.reverse_cons, List.append_assoc,
            List.singleton_append]

theorem length_le_length_rendered (cs : List Char) :
  cs.length ≤ (cs.flatMap renderChar).length
  := by
  induction cs with
  | nil => apply Nat.le_refl
  | cons c rest ih =>
      have hone : 1 ≤ (renderChar c).length := by
        fun_cases renderChar c
        all_goals exact Nat.succ_pos _
      rw [List.flatMap_cons, List.length_append, List.length_cons]
      omega

/-- A written string is read as it was. -/
theorem readString_rendered (hlim : lim.stray? = none) (s : String) (more : List Char) :
  readString lim (s.toList.flatMap renderChar ++ '"' :: more) = .ok (s, more)
  := by
  have hlength := length_le_length_rendered s.toList
  rw [readString, readStringFrom_rendered hlim more]
  · simp
  · rw [List.length_append]
    omega

end

/-! ### Taking a text -/

/-- A text begins with a value that is not null. -/
def StartsValue (text : List Char) : Prop :=
  ∃ c rest, skipGap text = c :: rest ∧ c ∉ ['n', ',', ']']

theorem skipGap_append {text : List Char} (h : skipGap text ≠ []) (more : List Char) :
  skipGap (text ++ more) = skipGap text ++ more
  := by
  unfold skipGap at h ⊢
  rw [List.dropWhile_append, if_neg (by simpa using h)]

/-- A reader that has room for so many arrays and objects within each other takes a text for a
value, whatever gap is in front of it and whatever follows it, and leaves what follows it, up to
a gap. -/
structure Reader.Takes {α : Type} (r : Reader α) (room : Nat) (text : List Char) (a : α) :
    Prop where
  starts : skipGap text ≠ []
  reads : ∀ ⦃lim cs more⦄, lim.stray? = none → room ≤ lim.room → EndsNumber more →
    skipGap cs = skipGap text ++ more →
    ∃ rest, r lim cs = .ok (a, rest) ∧ skipGap rest = skipGap more

/-- A written string within a text. -/
theorem renderString_append (s : String) (more : List Char) :
  renderString s ++ more = '"' :: (s.toList.flatMap renderChar ++ '"' :: more)
  := by
  rw [renderString, List.cons_append, List.append_assoc, List.singleton_append]

theorem startsValue_renderString (s : String) :
  StartsValue (renderString s)
  := by
  use '"', s.toList.flatMap renderChar ++ ['"'], rfl
  decide

theorem startsValue_bool (b : Bool) :
  StartsValue (Json.bool b).chars
  := by
  cases b with
  | true =>
      use 't', "rue".toList, rfl
      decide
  | false =>
      use 'f', "alse".toList, rfl
      decide

theorem StartsValue.ne_nil {text : List Char} (h : StartsValue text) :
  skipGap text ≠ []
  := by
  obtain ⟨c, rest, hstart, _⟩ := h
  rw [hstart]
  apply List.cons_ne_nil

section
variable {room : Nat}

theorem takes_readText (expected s : String) :
  (readText expected).Takes room (renderString s) s
  := by
  constructor
  · apply (startsValue_renderString s).ne_nil
  · intro lim cs more hlim _ _ hcs
    use more
    change skipGap cs = renderString s ++ more at hcs
    rw [renderString_append] at hcs
    constructor
    · rw [readText, hcs]
      simp only [readString_rendered hlim]
      rfl
    · rfl

theorem takes_readName {α : Type} {known : List (String × α)} {name : String} {a : α}
    (h : chooseName known name = .ok a) :
  (readName known).Takes room (renderString name) a
  := by
  constructor
  · apply (startsValue_renderString name).ne_nil
  · intro lim cs more hlim _ _ hcs
    use more
    change skipGap cs = renderString name ++ more at hcs
    rw [renderString_append] at hcs
    constructor
    · rw [readName, hcs]
      simp only [readString_rendered hlim, bind_eq_ok, lift_eq_ok]
      use (name, more), rfl, a, h
      rfl
    · rfl

theorem takes_readBool (b : Bool) :
  readBool.Takes room (Json.bool b).chars b
  := by
  constructor
  · apply (startsValue_bool b).ne_nil
  · intro lim cs more _ _ _ hcs
    use more
    cases b with
    | true =>
        rw [readBool, hcs]
        constructor <;> rfl
    | false =>
        rw [readBool, hcs]
        constructor <;> rfl

theorem Reader.Takes.readOption {α : Type} {r : Reader α} {text : List Char} {a : α}
    (h : r.Takes room text a) (hvalue : StartsValue text) :
  (readOption r).Takes room text (some a)
  := by
  constructor
  · apply h.starts
  · intro lim cs more hlim hroom hmore hcs
    obtain ⟨c, start, hstart, hc⟩ := hvalue
    have hskipped : skipGap (skipGap cs) = skipGap text ++ more := by rw [skipGap_skipGap, hcs]
    obtain ⟨rest, hread, hrest⟩ := h.reads hlim hroom hmore hskipped
    use rest
    constructor
    · rw [hcs, hstart] at hread
      rw [Json.readOption, hcs, hstart]
      split
      · next heq =>
          obtain rfl := List.head_eq_of_cons_eq heq
          apply absurd List.mem_cons_self hc
      · rw [hread]
        rfl
    · apply hrest

/-- A field reads what is stored in it. -/
theorem Reader.Takes.field {α β : Type} {r : Reader β} {text : List Char} {b : β}
    (h : r.Takes room text b) (key : String) (required : Bool) (store : β → α → α) :
  (Field.of key required r store).read.Takes room text (store b)
  := by
  constructor
  · apply h.starts
  · intro lim cs more hlim hroom hmore hcs
    obtain ⟨rest, hread, hrest⟩ := h.reads hlim hroom hmore hcs
    use rest
    constructor
    · apply map_eq_ok.mpr
      use (b, rest), hread
    · apply hrest

end

/-! ### Records -/

/-- The characters of the members of an object that are left, with a comma in front of each but
the first one of all. -/
def charsFrom : Bool → List (String × Json) → List Char
  | _, [] => []
  | first, (key, v) :: rest =>
    (if first then [] else [',']) ++ (renderString key ++ ':' :: (v.chars ++ charsFrom false rest))

theorem charsOfMembers_eq (members : List (String × Json)) :
  charsOfMembers members = charsFrom true members
  := by
  induction members with
  | nil => rw [charsOfMembers, charsFrom]
  | cons member rest ih =>
      obtain ⟨key, v⟩ := member
      cases rest with
      | nil => simp [charsOfMembers, charsFrom]
      | cons next rest =>
          rw [charsOfMembers, ih, charsFrom]
          · rfl
          · nofun

/-- An object within a text. -/
theorem chars_obj_append (members : List (String × Json)) (more : List Char) :
  (Json.obj members).chars ++ more = '\x7b' :: (charsFrom true members ++ '\x7d' :: more)
  := by
  rw [chars, charsOfMembers_eq, List.cons_append, List.append_assoc, List.singleton_append]

/-- Where there is room for one more array or object, it can be entered. -/
theorem Limits.enter_of_lt {room : Nat} (lim : Limits) (h : room < lim.room) :
  ∃ inner, lim.enter = .ok inner ∧ room ≤ inner.room ∧ inner.stray? = lim.stray?
  := by
  obtain ⟨within, stray?⟩ := lim
  cases within with
  | zero => nomatch h
  | succ within =>
      use ⟨within, stray?⟩, rfl, Nat.le_of_lt_succ h

theorem length_le_length_charsFrom (first : Bool) (members : List (String × Json)) :
  members.length ≤ (charsFrom first members).length
  := by
  induction members generalizing first with
  | nil => apply Nat.zero_le
  | cons member rest ih =>
      have hrest := ih false
      simp only [charsFrom, List.length_append, List.length_cons]
      omega

section
variable (members : List (String × Json)) (more : List Char)

/-- Behind a member comes a comma or the end of the object. -/
theorem endsNumber_charsFrom :
  EndsNumber (charsFrom false members ++ '\x7d' :: more)
  := by
  intro c hc
  cases members with
  | nil =>
      obtain rfl := Option.some.inj hc
      decide
  | cons member rest =>
      obtain rfl := Option.some.inj hc
      decide

theorem skipGap_charsFrom (first : Bool) :
  skipGap (charsFrom first members ++ '\x7d' :: more) = charsFrom first members ++ '\x7d' :: more
  := by
  cases members with
  | nil => rfl
  | cons member rest => cases first <;> rfl

end

/-- The next of some members that are left is found behind its first quote. -/
theorem nextMember_charsFrom {first : Bool} {key : String} {v : Json}
    {members : List (String × Json)} {cs more : List Char}
    (hcs : skipGap cs = charsFrom first ((key, v) :: members) ++ more) :
  nextMember first cs = .ok (.inl (key.toList.flatMap renderChar
    ++ '"' :: ':' :: (v.chars ++ (charsFrom false members ++ more))))
  := by
  rw [charsFrom, List.append_assoc, List.append_assoc, List.cons_append, List.append_assoc,
    renderString_append] at hcs
  cases first with
  | true =>
      rw [if_pos rfl, List.nil_append] at hcs
      rw [nextMember, hcs]
      rfl
  | false =>
      rw [if_neg Bool.false_ne_true, List.singleton_append] at hcs
      rw [nextMember, hcs]
      rfl

/-- The members of an object make a record of another one, one after another, each with room for
so many arrays and objects; the names of the members before are given. -/
inductive Shape.Makes {α : Type} (s : Shape α) (room : Nat) :
    List String → α → List (String × Json) → α → Prop where
  | nil {seen a} (hall : ∀ f ∈ s.fields, f.required = true → f.key ∈ seen) :
    s.Makes room seen a [] a
  | cons {seen a key v members f update a'}
    (hfield : s.fields.find? (fun f => f.key == key) = some f) (hnew : key ∉ seen)
    (hread : f.read.Takes room v.chars update)
    (hrest : s.Makes room (key :: seen) (update a) members a') :
    s.Makes room seen a ((key, v) :: members) a'

section
variable {α : Type} {s : Shape α} {lim : Limits} {steps : Nat} {first : Bool} {seen : List String}
  {a : α} {cs rest : List Char}

/-- The last member has been read. -/
theorem Shape.readMembers_of_end (hnext : nextMember first cs = .ok (.inr rest))
    (hall : ∀ f ∈ s.fields, f.required = true → f.key ∈ seen) :
  s.readMembers lim (steps + 1) first seen a cs = .ok (a, rest)
  := by
  have hnone : s.fields.find? (fun f => f.required && !seen.contains f.key) = none := by
    apply List.find?_eq_none.mpr
    intro f hf
    simpa using hall f hf
  rw [Shape.readMembers, hnext]
  simp only [lift, Except.mapError, bind, Except.bind, hnone]
  rfl

/-- A member is read into its field. -/
theorem Shape.readMembers_of_member {f : Field α} {key : String} {update : α → α}
    {text afterKey afterColon after : List Char} (hnext : nextMember first cs = .ok (.inl text))
    (hkey : readString lim text = .ok (key, afterKey)) (hcolon : readColon afterKey = .ok afterColon)
    (hfield : s.fields.find? (fun f => f.key == key) = some f) (hnew : key ∉ seen)
    (hvalue : f.read lim afterColon = .ok (update, after)) :
  s.readMembers lim (steps + 1) first seen a cs
    = s.readMembers lim steps false (key :: seen) (update a) after
  := by
  have hseen : seen.contains key = false := by simpa using hnew
  rw [Shape.readMembers, hnext]
  simp only [lift, Except.mapError, bind, Except.bind, hkey, hcolon, hfield, hvalue, hseen,
    Bool.false_eq_true, if_false]

end

section
variable {α : Type} {s : Shape α} {room : Nat} {lim : Limits} (hlim : lim.stray? = none)
include hlim

theorem Shape.Makes.readMembers {seen : List String} {a a' : α} {members : List (String × Json)}
    (h : s.Makes room seen a members a') (hroom : room ≤ lim.room) {steps : Nat}
    (hsteps : members.length < steps) {first : Bool} {cs more : List Char}
    (hcs : skipGap cs = charsFrom first members ++ '\x7d' :: more) :
  s.readMembers lim steps first seen a cs = .ok (a', more)
  := by
  induction h generalizing steps first cs with
  | nil hall =>
      cases steps with
      | zero => nomatch hsteps
      | succ steps =>
          have hnext : nextMember first cs = .ok (.inr more) := by
            rw [nextMember, hcs]
            rfl
          apply Shape.readMembers_of_end hnext hall
  | @cons _ _ _ _ members _ _ _ hfield hnew hread _ ih =>
      cases steps with
      | zero => nomatch hsteps
      | succ steps =>
          -- behind the value comes a comma or a brace, so that it may be a number
          obtain ⟨after, hvalue, hafter⟩ := hread.reads hlim hroom
            (endsNumber_charsFrom members more) (skipGap_append hread.starts _)
          rw [skipGap_charsFrom] at hafter
          rw [Shape.readMembers_of_member (nextMember_charsFrom hcs) (readString_rendered hlim _ _)
            rfl hfield hnew hvalue]
          apply ih (Nat.lt_of_succ_lt_succ hsteps) hafter

/-- A written record is read as it was. -/
theorem Shape.Makes.reader {a : α} {members : List (String × Json)}
    (h : s.Makes room [] s.blank members a) (hroom : room < lim.room) {cs more : List Char}
    (hcs : skipGap cs = (Json.obj members).chars ++ more) :
  s.reader lim cs = .ok (a, more)
  := by
  obtain ⟨inner, hinner, hwithin, hstray⟩ := lim.enter_of_lt hroom
  have hlength := length_le_length_charsFrom true members
  have hsteps : members.length < (charsFrom true members ++ '\x7d' :: more).length + 1 := by
    rw [List.length_append]
    omega
  rw [Shape.reader, hcs.trans (chars_obj_append members more)]
  apply bind_eq_ok.mpr
  use inner, lift_eq_ok.mpr hinner
  apply h.readMembers (hstray.trans hlim) hwithin hsteps (skipGap_charsFrom members more true)

end

section
variable {α : Type} {s : Shape α} {room : Nat} {v : Json} {a : α}

/-- A document is an object whose members make a record, with room for so many arrays and
objects in it. -/
def Shape.Writes (s : Shape α) (room : Nat) (v : Json) (a : α) : Prop :=
  ∃ members, v = .obj members ∧ s.Makes room [] s.blank members a

theorem Shape.Writes.takes (h : s.Writes room v a) :
  s.reader.Takes (room + 1) v.chars a
  := by
  obtain ⟨members, rfl, hmakes⟩ := h
  constructor
  · apply List.cons_ne_nil
  · intro lim cs more hlim hroom _ hcs
    use more, hmakes.reader hlim hroom hcs

end

/-! ### Maps -/

section
variable {β : Type} {r : Reader β} {room : Nat} {toJson : β → Json} {entries : List (String × β)}

/-- A new key comes last. -/
theorem putEntry_of_new {key : String} (h : key ∉ entries.map Prod.fst) (b : β) :
  putEntry key b entries = entries ++ [(key, b)]
  := by
  induction entries with
  | nil => rfl
  | cons entry rest ih =>
      rw [List.map_cons, List.mem_cons, not_or] at h
      rw [putEntry, if_neg (Ne.symm h.1), ih h.2, List.cons_append]

/-- An ordered map as an object. -/
def entriesToJson (toJson : β → Json) (entries : List (String × β)) : List (String × Json) :=
  entries.map fun (key, b) => (key, toJson b)

/-- An entry is read behind those before. -/
theorem readEntries_of_entry {lim : Limits} {steps : Nat} {first : Bool} {key : String} {b : β}
    {cs text afterKey afterColon after : List Char} (hnext : nextMember first cs = .ok (.inl text))
    (hkey : readString lim text = .ok (key, afterKey)) (hcolon : readColon afterKey = .ok afterColon)
    (hvalue : r lim afterColon = .ok (b, after)) :
  readEntries r lim (steps + 1) first entries cs
    = readEntries r lim steps false (putEntry key b entries) after
  := by
  rw [readEntries, hnext]
  simp only [lift, Except.mapError, bind, Except.bind, hkey, hcolon, hvalue]

/-- The entries that are left are read behind those before. -/
theorem readEntries_charsFrom {lim : Limits} (hlim : lim.stray? = none) (hroom : room ≤ lim.room)
    {before : List (String × β)} (hnew : ((before ++ entries).map Prod.fst).Nodup)
    (hread : ∀ e ∈ entries, r.Takes room (toJson e.2).chars e.2) {steps : Nat}
    (hsteps : entries.length < steps) {first : Bool} {cs more : List Char}
    (hcs : skipGap cs = charsFrom first (entriesToJson toJson entries) ++ '\x7d' :: more) :
  readEntries r lim steps first before cs = .ok (before ++ entries, more)
  := by
  induction entries generalizing before steps first cs with
  | nil =>
      cases steps with
      | zero => apply absurd hsteps (Nat.not_lt_zero _)
      | succ steps =>
          have hnext : nextMember first cs = .ok (.inr more) := by
            rw [nextMember, hcs]
            rfl
          rw [readEntries, hnext, List.append_nil]
          rfl
  | cons entry rest ih =>
      obtain ⟨key, b⟩ := entry
      cases steps with
      | zero => apply absurd hsteps (Nat.not_lt_zero _)
      | succ steps =>
          have htakes := hread (key, b) List.mem_cons_self
          obtain ⟨after, hvalue, hafter⟩ := htakes.reads hlim hroom
            (endsNumber_charsFrom (entriesToJson toJson rest) more) (skipGap_append htakes.starts _)
          rw [skipGap_charsFrom] at hafter
          have hkey : key ∉ before.map Prod.fst := by
            rw [List.map_append, List.map_cons] at hnew
            intro hmem
            apply (List.nodup_append.mp hnew).2.2 key hmem key List.mem_cons_self rfl
          rw [List.append_cons] at hnew ⊢
          rw [readEntries_of_entry (nextMember_charsFrom hcs) (readString_rendered hlim _ _) rfl
            hvalue, putEntry_of_new hkey]
          apply ih hnew (fun e he => hread e (List.mem_cons_of_mem _ he))
            (Nat.lt_of_succ_lt_succ hsteps) hafter

/-- An ordered map is read off an object with its keys as it was. -/
theorem takes_readMap (hkeys : (entries.map Prod.fst).Nodup)
    (hread : ∀ e ∈ entries, r.Takes room (toJson e.2).chars e.2) :
  (readMap r).Takes (room + 1) (Json.obj (entriesToJson toJson entries)).chars entries
  := by
  constructor
  · apply List.cons_ne_nil
  · intro lim cs more hlim hroom _ hcs
    obtain ⟨inner, hinner, hwithin, hstray⟩ := lim.enter_of_lt (Nat.lt_of_succ_le hroom)
    have hlength := length_le_length_charsFrom true (entriesToJson toJson entries)
    have hsteps : entries.length
        < (charsFrom true (entriesToJson toJson entries) ++ '\x7d' :: more).length + 1 := by
      rw [entriesToJson, List.length_map] at hlength
      rw [List.length_append, entriesToJson]
      omega
    use more
    constructor
    · rw [Json.readMap, hcs.trans (chars_obj_append _ _)]
      apply bind_eq_ok.mpr
      use inner, lift_eq_ok.mpr hinner
      apply readEntries_charsFrom (hstray.trans hlim) hwithin hkeys hread hsteps
        (skipGap_charsFrom _ more true)
    · rfl

end

/-! ### Whole texts -/

/-- A document is read from a whole text when nothing but a gap is left of it. -/
theorem finish_eq_ok_iff {α : Type} {r : Except DecodeError (α × List Char)} {a : α} :
  finish r = .ok a ↔ ∃ rest, r = .ok (a, rest) ∧ skipGap rest = []
  := by
  constructor
  · intro h
    obtain ⟨rest, rfl⟩ := finish_eq_ok h
    use rest, rfl
    rw [finish] at h
    split at h
    · next hend => apply List.isEmpty_iff.mp hend
    · nomatch h
  · rintro ⟨rest, rfl, hend⟩
    rw [finish, hend]
    rfl

section
variable {α : Type} {r : Reader α} {room : Nat} {text : List Char} {a : α}
  (h : r.Takes room text a) (hroom : room ≤ Limits.ofText.room)
include h hroom

/-- What a reader takes a whole text for. -/
theorem Reader.Takes.whole :
  ∃ rest, r .ofText text = .ok (a, rest) ∧ skipGap rest = []
  := by
  have hend : EndsNumber [] := by nofun
  have htext : skipGap text = skipGap text ++ [] := (List.append_nil _).symm
  apply h.reads rfl hroom hend htext

theorem Reader.Takes.run :
  r.run (String.ofList text) = .ok a
  := by
  rw [Reader.run, String.toList_ofList]
  apply finish_eq_ok_iff.mpr (h.whole hroom)

theorem Reader.Takes.runBytes :
  r.runBytes (Utf8.encode text) = .ok a
  := by
  rw [Reader.runBytes, Utf8.decode?_encode]
  apply finish_eq_ok_iff.mpr (h.whole hroom)

end

end Greenhouse.Json
