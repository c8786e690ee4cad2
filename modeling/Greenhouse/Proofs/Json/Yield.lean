import Greenhouse.Proofs.Json.Document

/-!
# What readers yield

`Json.Reader.Yields` says of a reader what is true of everything that it reads, where there is room
for so many arrays and objects.  A document fits; an ordered map has each key once; and a record
has what was true of it before any field was read and what each field keeps true, be the record
written as an object or as an array.
-/

namespace Greenhouse.Json

/-- Whatever a reader reads, where there is room for so many arrays and objects, has a
property. -/
def Reader.Yields {β : Type} (r : Reader β) (room : Nat) (p : β → Prop) : Prop :=
  ∀ ⦃lim cs b rest⦄, lim.room = room → r lim cs = .ok (b, rest) → p b

section
variable {β : Type} {r : Reader β} {room : Nat} {p : β → Prop}

theorem Reader.Yields.run (h : r.Yields Limits.ofText.room p) {text : String} {b : β}
    (hread : r.run text = .ok b) :
  p b
  := by
  obtain ⟨rest, hread⟩ := finish_eq_ok hread
  apply h rfl hread

theorem yields_readValue (room : Nat) :
  readValue.Yields room (Fits room)
  := by
  rintro lim cs v rest rfl h
  apply (read_fits _).1 _ _ _ _ (lift_eq_ok.mp h)

/-- The members of all objects that are read stand in order. -/
theorem sorted_of_parse {text : String} {v : Json} (h : parse text = .ok v) :
  v.Sorted
  := by
  have hfits : v.Fits Limits.ofText.room := (yields_readValue _).run h
  apply hfits.sorted

theorem Reader.Yields.readOption (h : r.Yields room p) :
  (readOption r).Yields room fun read => ∀ b ∈ read, p b
  := by
  intro lim cs read rest hroom hread b hb
  unfold Json.readOption at hread
  split at hread
  · obtain ⟨_, _, heq⟩ := map_eq_ok.mp (lift_eq_ok.mp hread)
    obtain ⟨rfl, _⟩ := Prod.mk.inj heq
    nomatch hb
  · obtain ⟨⟨b', after⟩, hvalue, heq⟩ := map_eq_ok.mp hread
    obtain ⟨rfl, _⟩ := Prod.mk.inj heq
    obtain rfl := Option.some.inj hb
    apply h hroom hvalue

/-- Null is read as nothing and never as a document that is null. -/
theorem ne_null_of_readOption {lim : Limits} {cs rest : List Char} {v : Json}
    (h : readOption readValue lim cs = .ok (some v, rest)) :
  v ≠ .null
  := by
  rintro rfl
  unfold readOption at h
  split at h
  · obtain ⟨_, _, heq⟩ := map_eq_ok.mp (lift_eq_ok.mp h)
    nomatch heq
  · next hstart =>
      obtain ⟨⟨v, after⟩, hread, heq⟩ := map_eq_ok.mp h
      obtain ⟨hv, _⟩ := Prod.mk.inj heq
      obtain rfl := Option.some.inj hv
      obtain hscalar | ⟨_, _, _, _, _, _, hlist⟩ | ⟨_, _, _, _, _, _, hobject⟩ :=
        readValueFrom_succ_eq_ok.mp (lift_eq_ok.mp hread)
      · rw [skipGap_skipGap] at hscalar
        obtain ⟨_, more, hnull⟩ | ⟨_, heq⟩ | ⟨_, heq⟩ | ⟨hnumber, _⟩ := readScalar_cases hscalar
        · apply hstart more hnull
        · nomatch heq
        · nomatch heq
        · nomatch hnumber
      · nomatch hlist
      · nomatch hobject

/-- A document that may be missing fits, and it is not null when it is there. -/
theorem yields_readOption_readValue (room : Nat) :
  (readOption readValue).Yields room fun read => ∀ v ∈ read, v.Fits room ∧ v ≠ .null
  := by
  intro lim cs read rest hroom hread v hv
  constructor
  · apply (yields_readValue room).readOption hroom hread v hv
  · obtain rfl : read = some v := hv
    apply ne_null_of_readOption hread

/-! ### Maps -/

theorem mem_putEntry {key : String} {b : β} {entries : List (String × β)} {entry : String × β}
    (h : entry ∈ putEntry key b entries) :
  entry = (key, b) ∨ entry ∈ entries
  := by
  induction entries with
  | nil =>
      left
      apply List.mem_singleton.mp h
  | cons first rest ih =>
      obtain ⟨k, b'⟩ := first
      rw [putEntry] at h
      split at h
      · next hk =>
          obtain rfl | h := List.mem_cons.mp h
          · left
            rw [hk]
          · right
            apply List.mem_cons_of_mem _ h
      · obtain rfl | h := List.mem_cons.mp h
        · right
          apply List.mem_cons_self
        · obtain h | h := ih h
          · left
            apply h
          · right
            apply List.mem_cons_of_mem _ h

theorem nodup_putEntry {entries : List (String × β)} (h : (entries.map Prod.fst).Nodup)
    (key : String) (b : β) :
  ((putEntry key b entries).map Prod.fst).Nodup
  := by
  induction entries with
  | nil => apply List.pairwise_singleton
  | cons first rest ih =>
      obtain ⟨k, b'⟩ := first
      obtain ⟨hfirst, hrest⟩ := List.nodup_cons.mp h
      rw [putEntry]
      split
      · apply h
      · next hk =>
          apply List.nodup_cons.mpr
          constructor
          · intro hmem
            obtain ⟨entry, hentry, heq⟩ := List.mem_map.mp hmem
            obtain rfl | hentry := mem_putEntry hentry
            · apply hk heq.symm
            · apply hfirst (List.mem_map.mpr ⟨entry, hentry, heq⟩)
          · apply ih hrest

theorem readEntries_keeps (h : r.Yields room p) {lim : Limits} (hroom : lim.room = room)
    {steps : Nat} {first : Bool} {entries entries' : List (String × β)} {cs rest : List Char}
    (hread : readEntries r lim steps first entries cs = .ok (entries', rest))
    (hkeys : (entries.map Prod.fst).Nodup) (hentries : ∀ entry ∈ entries, p entry.2) :
  (entries'.map Prod.fst).Nodup ∧ ∀ entry ∈ entries', p entry.2
  := by
  induction steps generalizing first entries cs with
  | zero => nomatch hread
  | succ steps ih =>
      obtain ⟨_, rfl⟩ | ⟨_, key, _, _, b, _, _, _, _, hb, hrest⟩ := readEntries_succ_eq_ok hread
      · use hkeys
      · apply ih hrest (nodup_putEntry hkeys key b)
        intro entry hentry
        obtain rfl | hentry := mem_putEntry hentry
        · apply h hroom hb
        · apply hentries entry hentry

/-- A map has each key once. -/
theorem Reader.Yields.readMap (h : r.Yields room p) :
  (readMap r).Yields (room + 1) fun entries =>
    (entries.map Prod.fst).Nodup ∧ ∀ entry ∈ entries, p entry.2
  := by
  intro lim cs entries rest hroom hread
  unfold Json.readMap at hread
  split at hread
  · nomatch hread
  · obtain ⟨inner, hinner, hread⟩ := bind_eq_ok.mp hread
    have hwithin : inner.room = room := by
      have henter := Limits.room_of_enter (lift_eq_ok.mp hinner)
      omega
    apply readEntries_keeps h hwithin hread List.nodup_nil
    nofun
  · apply absurd hread (rejectValue_ne_ok _ _ _ _)

end

/-! ### Records -/

section
variable {α β : Type} {room : Nat} {q : α → Prop}

/-- A field keeps a property of records. -/
def Field.Keeps (f : Field α) (room : Nat) (q : α → Prop) : Prop :=
  f.read.Yields room fun update => ∀ a, q a → q (update a)

/-- A field whose values, wherever they are stored, do no harm. -/
theorem Reader.Yields.keeps {r : Reader β} {p : β → Prop} (h : r.Yields room p) {key : String}
    {required : Bool} {store : β → α → α} (hstore : ∀ b a, p b → q a → q (store b a)) :
  (Field.of key required r store).Keeps room q
  := by
  intro lim cs update rest hroom hread a ha
  obtain ⟨⟨b, after⟩, hb, heq⟩ := map_eq_ok.mp hread
  obtain ⟨rfl, _⟩ := Prod.mk.inj heq
  apply hstore b a (h hroom hb) ha

/-- A field that is stored where the property does not look. -/
theorem Field.keeps_of_store {r : Reader β} {key : String} {required : Bool} {store : β → α → α}
    (hstore : ∀ b a, q a → q (store b a)) :
  (Field.of key required r store).Keeps room q
  := by
  intro lim cs update rest _ hread
  obtain ⟨⟨b, after⟩, _, heq⟩ := map_eq_ok.mp hread
  obtain ⟨rfl, _⟩ := Prod.mk.inj heq
  apply hstore b

section
variable {s : Shape α} (hfields : ∀ f ∈ s.fields, f.Keeps room q)
include hfields

theorem Shape.readMembers_keeps {lim : Limits} (hroom : lim.room = room) {steps : Nat}
    {first : Bool} {seen : List String} {a a' : α} {cs rest : List Char}
    (hread : s.readMembers lim steps first seen a cs = .ok (a', rest)) (ha : q a) :
  q a'
  := by
  induction steps generalizing first seen a cs with
  | zero => nomatch hread
  | succ steps ih =>
      obtain ⟨_, rfl⟩ | ⟨_, _, _, _, _, _, _, ⟨f, hf, _, _, update, _, hupdate, hrest⟩
        | ⟨_, _, _, hrest⟩⟩ := Shape.readMembers_succ_eq_ok hread
      · apply ha
      · apply ih hrest (hfields f hf hroom hupdate a ha)
      · apply ih hrest ha

theorem Shape.readItems_keeps {lim : Limits} (hroom : lim.room = room) {fields : List (Field α)}
    (hleft : fields ⊆ s.fields) {index : Nat} {a a' : α} {cs rest : List Char}
    (hread : s.readItems lim fields index a cs = .ok (a', rest)) (ha : q a) :
  q a'
  := by
  induction fields generalizing index a cs with
  | nil =>
      obtain ⟨_, _, heq⟩ := bind_eq_ok.mp hread
      obtain ⟨rfl, _⟩ := Prod.mk.inj (Except.ok.inj heq)
      apply ha
  | cons f fields ih =>
      rw [Shape.readItems] at hread
      obtain ⟨next, _, hread⟩ := bind_eq_ok.mp hread
      cases next with
      | inl text =>
          obtain ⟨⟨update, after⟩, hupdate, hread⟩ := bind_eq_ok.mp hread
          obtain ⟨hf, hleft⟩ := List.cons_subset.mp hleft
          apply ih hleft hread (hfields f hf hroom hupdate a ha)
      | inr after =>
          dsimp only at hread
          split at hread
          · nomatch hread
          · obtain ⟨rfl, _⟩ := Prod.mk.inj (Except.ok.inj hread)
            apply ha

/-- A record has what is true before any field is read and what its fields keep. -/
theorem Shape.yields_reader (hblank : q s.blank) :
  s.reader.Yields (room + 1) q
  := by
  intro lim cs a rest hroom hread
  have hwithin {inner : Limits} (h : lift lim.enter = .ok inner) : inner.room = room := by
    have henter := Limits.room_of_enter (lift_eq_ok.mp h)
    omega
  unfold Shape.reader at hread
  split at hread
  · nomatch hread
  · obtain ⟨inner, hinner, hread⟩ := bind_eq_ok.mp hread
    apply s.readItems_keeps hfields (hwithin hinner) (List.Subset.refl _) hread hblank
  · obtain ⟨inner, hinner, hread⟩ := bind_eq_ok.mp hread
    apply s.readMembers_keeps hfields (hwithin hinner) hread hblank
  · apply absurd hread (rejectValue_ne_ok _ _ _ _)

end

end

end Greenhouse.Json
