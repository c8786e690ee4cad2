import Greenhouse.Json.Record
import Greenhouse.Proofs.Json.Skip
import Greenhouse.Proofs.Outcome
import Greenhouse.Proofs.Table

/-!
# Readers and documents

A message is read without looking at it as a document first.  Still, when a text begins with
a document, the readers take no more and no less of it, and what they make of it is what the
document says: they follow the document, in the sense of `Json.Reader.Follows`.  For records
this is said member by member, with `Json.Shape.Tracks`.
-/

namespace Greenhouse.Json

/-! ### Outcomes -/

theorem lift_eq_ok {α : Type} {x : Except Fault α} {a : α} :
  lift x = .ok a ↔ x = .ok a
  := mapError_eq_ok

/-- Something else than was expected is never read. -/
theorem rejectValue_ne_ok {α : Type} (expected : String) (lim : Limits) (cs : List Char)
    (read : α × List Char) :
  rejectValue expected lim cs ≠ .ok read
  := by
  have hscalar {β : Type} (found : β → Found) (r : Except Fault β) :
      rejectScalar expected found r ≠ .ok read := by
    cases r <;> nofun
  unfold rejectValue
  split
  · apply hscalar
  · apply hscalar
  · apply hscalar
  · apply hscalar
  · apply hscalar
  · nofun
  · nofun
  · split
    · apply hscalar
    · nofun
  · nofun

/-- A document that begins with a brace is an object. -/
theorem readValueFrom_object {fuel : Nat} {lim inner : Limits} {cs text rest : List Char} {v : Json}
    (hgap : skipGap cs = '\x7b' :: text) (hinner : lim.enter = .ok inner)
    (h : readValueFrom (fuel + 1) lim cs = .ok (v, rest)) :
  ∃ members, readMembersFrom fuel inner true [] text = .ok (members, rest) ∧ v = .obj members
  := by
  obtain hscalar | ⟨_, _, _, htext, _⟩ | ⟨inner', members, text', htext, henter, hmembers, rfl⟩ :=
    readValueFrom_succ_eq_ok.mp h
  · rw [hgap] at hscalar
    nomatch hscalar
  · rw [hgap] at htext
    nomatch htext
  · obtain rfl := (List.cons.inj (hgap.symm.trans htext)).2
    obtain rfl := Except.ok.inj (hinner.symm.trans henter)
    use members, hmembers

/-! ### Following -/

/-- A reader follows documents: of a text that begins with a document it takes that document,
and it makes of it what the relation says. -/
def Reader.Follows {β : Type} (r : Reader β) (rel : Json → β → Prop) : Prop :=
  ∀ ⦃fuel lim cs v rest b rest'⦄, readValueFrom fuel lim cs = .ok (v, rest) →
    r lim cs = .ok (b, rest') → rest' = rest ∧ rel v b

theorem follows_readValue :
  readValue.Follows fun v read => read = v
  := by
  intro fuel lim cs v rest b rest' hv h
  obtain ⟨rfl, rfl⟩ := readValueFrom_unique hv (lift_eq_ok.mp h)
  constructor <;> rfl

theorem follows_skipValue :
  skipValue.Follows fun _ _ => True
  := by
  intro fuel lim cs v rest b rest' hv h
  use skipValue_end hv h

theorem follows_readText (expected : String) :
  (readText expected).Follows fun v s => v = .str s
  := by
  intro fuel lim cs v rest s rest' hv h
  unfold readText at h
  cases fuel with
  | zero => nomatch hv
  | succ fuel =>
      rw [readValueFrom_succ] at hv
      split at h
      · nomatch h
      · next heq =>
          rw [heq] at hv
          obtain ⟨read, hread, heq⟩ := map_eq_ok.mp hv
          rw [lift_eq_ok.mp h] at hread
          obtain rfl := Except.ok.inj hread
          obtain ⟨rfl, rfl⟩ := Prod.mk.inj heq
          constructor <;> rfl
      · apply absurd h (rejectValue_ne_ok _ _ _ _)

/-- Two readings of one word. -/
theorem word_end {β : Type} {r : Except Fault (List Char)} {v v' : Json} {b b' : β}
    {rest rest' : List Char} (hv : r.map (fun after => (v', after)) = .ok (v, rest))
    (h : lift (r.map fun after => (b', after)) = .ok (b, rest')) :
  rest' = rest ∧ v = v' ∧ b = b'
  := by
  obtain ⟨after, rfl, heq⟩ := map_eq_ok.mp hv
  obtain ⟨rfl, rfl⟩ := Prod.mk.inj heq
  obtain ⟨rfl, rfl⟩ := Prod.mk.inj (Except.ok.inj h)
  use rfl, rfl

theorem follows_readBool :
  readBool.Follows fun v b => v = .bool b
  := by
  intro fuel lim cs v rest b rest' hv h
  unfold readBool at h
  cases fuel with
  | zero => nomatch hv
  | succ fuel =>
      rw [readValueFrom_succ] at hv
      split at h
      · nomatch h
      · next heq =>
          rw [heq] at hv
          obtain ⟨hrest, rfl, rfl⟩ := word_end hv h
          use hrest
      · next heq =>
          rw [heq] at hv
          obtain ⟨hrest, rfl, rfl⟩ := word_end hv h
          use hrest
      · apply absurd h (rejectValue_ne_ok _ _ _ _)

section
variable {β : Type} {r : Reader β} {rel : Json → β → Prop}

/-- A document is null, or what a relation says of it. -/
def Optional (rel : Json → β → Prop) (v : Json) : Option β → Prop
  | none => v = .null
  | some b => rel v b

theorem Reader.Follows.readOption (hr : r.Follows rel) :
  (readOption r).Follows (Optional rel)
  := by
  intro fuel lim cs v rest read rest' hv h
  unfold Json.readOption at h
  split at h
  · next heq =>
      cases fuel with
      | zero => nomatch hv
      | succ fuel =>
          rw [readValueFrom_succ, heq] at hv
          obtain ⟨hrest, rfl, rfl⟩ := word_end hv h
          use hrest
          rfl
  · obtain ⟨⟨b, after⟩, hb, heq⟩ := map_eq_ok.mp h
    obtain ⟨rfl, rfl⟩ := Prod.mk.inj heq
    rw [← readValueFrom_congr (skipGap_skipGap cs)] at hv
    apply hr hv hb

/-! ### Maps -/

/-- What it takes to read the entries of a map that are left. -/
theorem readEntries_succ_eq_ok {lim : Limits} {steps : Nat} {first : Bool}
    {entries entries' : List (String × β)} {cs rest : List Char}
    (h : readEntries r lim (steps + 1) first entries cs = .ok (entries', rest)) :
  (nextMember first cs = .ok (.inr rest) ∧ entries' = entries)
    ∨ ∃ text key afterKey afterColon b after, nextMember first cs = .ok (.inl text)
      ∧ readString lim text = .ok (key, afterKey)
      ∧ readColon afterKey = .ok afterColon
      ∧ r lim afterColon = .ok (b, after)
      ∧ readEntries r lim steps false (putEntry key b entries) after = .ok (entries', rest)
  := by
  rw [readEntries] at h
  obtain ⟨next, hnext, h⟩ := bind_eq_ok.mp h
  rw [lift_eq_ok] at hnext
  cases next with
  | inr after =>
      obtain ⟨rfl, rfl⟩ := Prod.mk.inj (Except.ok.inj h)
      left
      use hnext
  | inl text =>
      obtain ⟨⟨key, afterKey⟩, hkey, h⟩ := bind_eq_ok.mp h
      obtain ⟨afterColon, hcolon, h⟩ := bind_eq_ok.mp h
      obtain ⟨⟨b, after⟩, hb, h⟩ := bind_eq_ok.mp h
      right
      use text, key, afterKey, afterColon, b, after, hnext, lift_eq_ok.mp hkey,
        lift_eq_ok.mp hcolon, hb, h

theorem readEntries_follows (hr : r.Follows rel) (name : String) {lim : Limits} {steps fuel : Nat}
    {first : Bool} {entries entries' : List (String × β)} {members members' : List (String × Json)}
    {cs rest rest' : List Char}
    (hv : readMembersFrom fuel lim first members cs = .ok (members', rest))
    (h : readEntries r lim steps first entries cs = .ok (entries', rest')) :
  rest' = rest ∧ ∀ v, Table.find? name members' = some v →
    Table.find? name members = some v ∨ ∃ b, rel v b
  := by
  induction steps generalizing fuel first entries members cs with
  | zero => nomatch h
  | succ steps ih =>
      cases fuel with
      | zero => nomatch hv
      | succ fuel =>
          obtain ⟨hlast, rfl⟩ | ⟨text, name', afterName, afterColon, v', after, hmember, hname,
            hcolon, hvalue, hrest⟩ := readMembersFrom_succ_eq_ok.mp hv
          · obtain ⟨hend, rfl⟩ | ⟨_, _, _, _, _, _, hnext, _⟩ := readEntries_succ_eq_ok h
            · obtain rfl := Sum.inr.inj (Except.ok.inj (hend.symm.trans hlast))
              use rfl
              intro v hfind
              left
              apply hfind
            · nomatch hnext.symm.trans hlast
          · obtain ⟨hend, _⟩ | ⟨_, _, _, _, b, _, hnext, hkey, hcolon', hb, hentries⟩ :=
              readEntries_succ_eq_ok h
            · nomatch hend.symm.trans hmember
            · obtain rfl := Sum.inl.inj (Except.ok.inj (hnext.symm.trans hmember))
              obtain ⟨rfl, rfl⟩ := Prod.mk.inj (Except.ok.inj (hkey.symm.trans hname))
              obtain rfl := Except.ok.inj (hcolon'.symm.trans hcolon)
              obtain ⟨rfl, hrel⟩ := hr hvalue hb
              obtain ⟨hend, hmembers⟩ := ih hrest hentries
              use hend
              intro v hfind
              obtain hfind | hread := hmembers v hfind
              · rw [Table.find?_put] at hfind
                split at hfind
                · obtain rfl := Option.some.inj hfind
                  right
                  use b
                · left
                  apply hfind
              · right
                apply hread

/-- A map is an object, each member of which can be read. -/
theorem Reader.Follows.readMap (hr : r.Follows rel) :
  (readMap r).Follows fun v _ => ∃ members, v = .obj members
    ∧ ∀ name v, Table.find? name members = some v → ∃ b, rel v b
  := by
  intro fuel lim cs v rest entries rest' hv h
  unfold Json.readMap at h
  cases fuel with
  | zero => nomatch hv
  | succ fuel =>
      split at h
      · nomatch h
      · next text heq =>
          obtain ⟨inner, hinner, h⟩ := bind_eq_ok.mp h
          obtain ⟨members, hmembers, rfl⟩ := readValueFrom_object heq (lift_eq_ok.mp hinner) hv
          have hread (name : String) := readEntries_follows hr name hmembers h
          use (hread "").1, members, rfl
          intro name v hfind
          obtain hnone | hsome := (hread name).2 v hfind
          · nomatch hnone
          · apply hsome
      · apply absurd h (rejectValue_ne_ok _ _ _ _)

end

/-! ### Records -/

/-- A field tracks a member of objects: when it has the key of the member, the part of the
record that `g` shows is what the relation says of the member, and otherwise that part stays. -/
def Field.Tracks {α γ : Type} (f : Field α) (key : String) (g : α → γ) (rel : Json → γ → Prop) :
    Prop :=
  f.read.Follows fun v update =>
    ∀ a, if f.key = key then rel v (g (update a)) else g (update a) = g a

section
variable {α β γ : Type} {r : Reader β} {rel' : Json → β → Prop} {key key' : String}
  {required : Bool} {store : β → α → α} {g : α → γ} {rel : Json → γ → Prop}

/-- A field that is stored where `g` shows it. -/
theorem Reader.Follows.tracks (hr : r.Follows rel')
    (h : ∀ v b a, rel' v b → rel v (g (store b a))) :
  (Field.of key required r store).Tracks key g rel
  := by
  intro fuel lim cs v rest update rest' hv hfield
  obtain ⟨⟨b, after⟩, hb, heq⟩ := map_eq_ok.mp hfield
  obtain ⟨rfl, rfl⟩ := Prod.mk.inj heq
  obtain ⟨hrest, hrel⟩ := hr hv hb
  use hrest
  intro a
  apply (if_pos rfl).mpr (h v b a hrel)

/-- A field that is stored elsewhere. -/
theorem Reader.Follows.tracks_other (hr : r.Follows rel') (hkey : key' ≠ key)
    (h : ∀ b a, g (store b a) = g a) :
  (Field.of key' required r store).Tracks key g rel
  := by
  intro fuel lim cs v rest update rest' hv hfield
  obtain ⟨⟨b, after⟩, hb, heq⟩ := map_eq_ok.mp hfield
  obtain ⟨rfl, rfl⟩ := Prod.mk.inj heq
  obtain ⟨hrest, _⟩ := hr hv hb
  use hrest
  intro a
  apply (if_neg hkey).mpr (h b a)

end

/-- A record tracks a member of objects: it has a field for it, and all fields track it. -/
structure Shape.Tracks {α γ : Type} (s : Shape α) (key : String) (g : α → γ)
    (rel : Json → γ → Prop) : Prop where
  known : ∃ f ∈ s.fields, f.key = key
  fields : ∀ f ∈ s.fields, f.Tracks key g rel

section
variable {α γ : Type} {s : Shape α} {key : String} {g : α → γ} {rel : Json → γ → Prop}

/-- What it takes to read the members of an object that are left: the next one belongs to a
field that has not been there before, or is passed over. -/
theorem Shape.readMembers_succ_eq_ok {lim : Limits} {steps : Nat} {first : Bool}
    {seen : List String} {a a' : α} {cs rest : List Char}
    (h : s.readMembers lim (steps + 1) first seen a cs = .ok (a', rest)) :
  (nextMember first cs = .ok (.inr rest) ∧ a' = a)
    ∨ ∃ text name afterName afterColon, nextMember first cs = .ok (.inl text)
      ∧ readString lim text = .ok (name, afterName)
      ∧ readColon afterName = .ok afterColon
      ∧ ((∃ f ∈ s.fields, f.key = name ∧ name ∉ seen ∧ ∃ update after,
          f.read lim afterColon = .ok (update, after)
          ∧ s.readMembers lim steps false (name :: seen) (update a) after = .ok (a', rest))
        ∨ ((∀ f ∈ s.fields, f.key ≠ name) ∧ ∃ after,
          skipValue lim afterColon = .ok ((), after)
          ∧ s.readMembers lim steps false seen a after = .ok (a', rest)))
  := by
  rw [Shape.readMembers] at h
  obtain ⟨next, hnext, h⟩ := bind_eq_ok.mp h
  rw [lift_eq_ok] at hnext
  cases next with
  | inr after =>
      left
      dsimp only at h
      split at h
      · nomatch h
      · obtain ⟨rfl, rfl⟩ := Prod.mk.inj (Except.ok.inj h)
        use hnext
  | inl text =>
      right
      obtain ⟨⟨name, afterName⟩, hname, h⟩ := bind_eq_ok.mp h
      dsimp only at h
      split at h
      · next field hfield =>
          split at h
          · nomatch h
          · next hseen =>
              obtain ⟨afterColon, hcolon, h⟩ := bind_eq_ok.mp h
              obtain ⟨⟨update, after⟩, hupdate, h⟩ := bind_eq_ok.mp h
              use text, name, afterName, afterColon, hnext, lift_eq_ok.mp hname,
                lift_eq_ok.mp hcolon
              left
              use field, List.mem_of_find?_eq_some hfield
              constructor
              · simpa using List.find?_some hfield
              constructor
              · simpa using hseen
              · use update, after, hupdate, h
      · next hunknown =>
          obtain ⟨afterColon, hcolon, h⟩ := bind_eq_ok.mp h
          obtain ⟨⟨_, after⟩, hskip, h⟩ := bind_eq_ok.mp h
          use text, name, afterName, afterColon, hnext, lift_eq_ok.mp hname, lift_eq_ok.mp hcolon
          right
          constructor
          · simpa using hunknown
          · use after, hskip, h

/-- What the members of an object that are left make of a record. -/
theorem Shape.Tracks.readMembers (ht : s.Tracks key g rel) {lim : Limits} {steps fuel : Nat}
    {first : Bool} {seen : List String} {a a' : α} {members members' : List (String × Json)}
    {cs rest rest' : List Char}
    (hv : readMembersFrom fuel lim first members cs = .ok (members', rest))
    (h : s.readMembers lim steps first seen a cs = .ok (a', rest')) :
  rest' = rest
    ∧ ((g a' = g a ∧ Table.find? key members' = Table.find? key members)
      ∨ (key ∉ seen ∧ ∃ v, Table.find? key members' = some v ∧ rel v (g a')))
  := by
  induction steps generalizing fuel first seen a members cs with
  | zero => nomatch h
  | succ steps ih =>
      cases fuel with
      | zero => nomatch hv
      | succ fuel =>
          obtain ⟨hlast, rfl⟩ | ⟨text, name, afterName, afterColon, v, after, hmember, hname,
            hcolon, hvalue, hrest⟩ := readMembersFrom_succ_eq_ok.mp hv
          · obtain ⟨hend, rfl⟩ | ⟨_, _, _, _, hnext, _⟩ := Shape.readMembers_succ_eq_ok h
            · obtain rfl := Sum.inr.inj (Except.ok.inj (hend.symm.trans hlast))
              use rfl
              left
              constructor <;> rfl
            · nomatch hnext.symm.trans hlast
          · obtain ⟨hend, _⟩ | ⟨_, _, _, _, hnext, hname', hcolon', h⟩ :=
              Shape.readMembers_succ_eq_ok h
            · nomatch hend.symm.trans hmember
            · obtain rfl := Sum.inl.inj (Except.ok.inj (hnext.symm.trans hmember))
              obtain ⟨rfl, rfl⟩ := Prod.mk.inj (Except.ok.inj (hname'.symm.trans hname))
              obtain rfl := Except.ok.inj (hcolon'.symm.trans hcolon)
              obtain ⟨f, hf, rfl, hseen, update, after, hupdate, h⟩
                | ⟨hunknown, after, hskip, h⟩ := h
              · obtain ⟨rfl, htrack⟩ := ht.fields f hf hvalue hupdate
                have htrack := htrack a
                obtain ⟨hend, hmembers⟩ := ih hrest h
                use hend
                by_cases hkey : f.key = key
                · subst hkey
                  rw [if_pos rfl] at htrack
                  obtain ⟨hg, hfind⟩ | ⟨hnew, _⟩ := hmembers
                  · right
                    use hseen, v
                    rw [hfind, hg]
                    use Table.find?_put_self f.key v members
                  · apply absurd List.mem_cons_self hnew
                · rw [if_neg hkey] at htrack
                  rw [htrack, Table.find?_put, if_neg hkey] at hmembers
                  obtain hkept | ⟨hnew, hread⟩ := hmembers
                  · left
                    apply hkept
                  · right
                    constructor
                    · intro hmem
                      apply hnew (List.mem_cons_of_mem _ hmem)
                    · apply hread
              · obtain ⟨rfl, _⟩ := follows_skipValue hvalue hskip
                obtain ⟨hend, hmembers⟩ := ih hrest h
                use hend
                obtain ⟨f, hf, rfl⟩ := ht.known
                have hother : _ ≠ f.key := Ne.symm (hunknown f hf)
                rw [Table.find?_put, if_neg hother] at hmembers
                apply hmembers

/-- What an object makes of a record. -/
theorem Shape.Tracks.reader (ht : s.Tracks key g rel) {lim : Limits} {fuel : Nat} {a : α}
    {members : List (String × Json)} {cs rest rest' : List Char}
    (hv : readValueFrom fuel lim cs = .ok (.obj members, rest))
    (h : s.reader lim cs = .ok (a, rest')) :
  (g a = g s.blank ∧ Table.find? key members = none)
    ∨ ∃ v, Table.find? key members = some v ∧ rel v (g a)
  := by
  unfold Shape.reader at h
  cases fuel with
  | zero => nomatch hv
  | succ fuel =>
      split at h
      · nomatch h
      · next text heq =>
          obtain hscalar | ⟨_, _, _, _, _, _, hlist⟩ | ⟨_, _, _, hbrace, _⟩ :=
            readValueFrom_succ_eq_ok.mp hv
          · rw [heq] at hscalar
            nomatch hscalar
          · nomatch hlist
          · rw [heq] at hbrace
            nomatch hbrace
      · next text heq =>
          obtain ⟨inner, hinner, h⟩ := bind_eq_ok.mp h
          obtain ⟨members', hmembers, heq⟩ := readValueFrom_object heq (lift_eq_ok.mp hinner) hv
          obtain rfl := Json.obj.inj heq
          obtain ⟨_, hkept | ⟨_, hread⟩⟩ := ht.readMembers hmembers h
          · left
            apply hkept
          · right
            apply hread
      · apply absurd h (rejectValue_ne_ok _ _ _ _)

end

/-! ### Whole texts -/

theorem finish_eq_ok {α : Type} {r : Except DecodeError (α × List Char)} {a : α}
    (h : finish r = .ok a) :
  ∃ rest, r = .ok (a, rest)
  := by
  unfold finish at h
  split at h
  · nomatch h
  · next rest =>
      split at h
      · rw [Except.ok.inj h]
        use rest
      · nomatch h

/-- Two readings of the same bytes begin with the same text. -/
theorem runBytes_eq_ok {α β : Type} {r : Reader α} {r' : Reader β} {body : List UInt8} {a : α}
    {b : β} (h : r.runBytes body = .ok a) (h' : r'.runBytes body = .ok b) :
  ∃ lim cs rest rest', r lim cs = .ok (a, rest) ∧ r' lim cs = .ok (b, rest')
  := by
  unfold Reader.runBytes at h h'
  split at h
  · next cs hcs =>
      rw [hcs] at h'
      obtain ⟨rest, ha⟩ := finish_eq_ok h
      obtain ⟨rest', hb⟩ := finish_eq_ok h'
      use .ofText, cs, rest, rest', ha, hb
  · next hcs =>
      rw [hcs] at h'
      obtain ⟨rest, ha⟩ := finish_eq_ok h
      obtain ⟨rest', hb⟩ := finish_eq_ok h'
      exact ⟨_, _, rest, rest', ha, hb⟩

/-- A reader that follows documents, on bytes that are a document. -/
theorem Reader.Follows.runBytes {β : Type} {r : Reader β} {rel : Json → β → Prop}
    (hr : r.Follows rel) {body : List UInt8} {v : Json} {b : β}
    (hv : readValue.runBytes body = .ok v) (h : r.runBytes body = .ok b) :
  rel v b
  := by
  obtain ⟨lim, cs, rest, rest', hvalue, hb⟩ := runBytes_eq_ok hv h
  apply (hr (lift_eq_ok.mp hvalue) hb).2

/-- A record that is read off bytes that are an object has what the object says of a member. -/
theorem Shape.Tracks.runBytes {α γ : Type} {s : Shape α} {key : String} {g : α → γ}
    {rel : Json → γ → Prop} (ht : s.Tracks key g rel) {body : List UInt8}
    {members : List (String × Json)} {a : α} (hv : readValue.runBytes body = .ok (.obj members))
    (h : s.reader.runBytes body = .ok a) :
  (g a = g s.blank ∧ Table.find? key members = none)
    ∨ ∃ v, Table.find? key members = some v ∧ rel v (g a)
  := by
  obtain ⟨lim, cs, rest, rest', hvalue, ha⟩ := runBytes_eq_ok hv h
  apply ht.reader (lift_eq_ok.mp hvalue) ha

end Greenhouse.Json
