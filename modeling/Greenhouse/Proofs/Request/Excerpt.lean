import Mathlib.Order.Bounds.Basic
import Mathlib.Tactic.Common
import Greenhouse.Control.Request

/-!
# The beginning of a body

An error shows the beginning of a body, as far as there is room.  `Text.boundary?` finds the greatest
of the boundaries within the room, `Text.boundaries`.  No character takes more than four bytes, so
that another boundary is close behind, and less than a character of the room is left over.
-/

namespace Greenhouse

namespace Text

/-- The boundaries between characters within so many bytes of a text. -/
def boundaries (text : String) (room : Nat) : Set Nat :=
  { cut | cut ≤ room ∧ String.Pos.Raw.IsValid text ⟨cut⟩ }

section
variable {text : String} {room : Nat}

/-! ### The search -/

/-- The search finds the greatest boundary. -/
theorem isGreatest_of_boundary? {cut : Nat} (h : boundary? text room = some cut) :
  IsGreatest (boundaries text room) cut
  := by
  induction room with
  | zero =>
      rw [boundary?, if_pos String.Pos.Raw.isValid_zero] at h
      obtain rfl := Option.some.inj h
      constructor
      · exact ⟨Nat.le_refl 0, String.Pos.Raw.isValid_zero⟩
      · exact fun other hother => hother.1
  | succ place ih =>
      rw [boundary?] at h
      split at h
      · next hvalid =>
          obtain rfl := Option.some.inj h
          constructor
          · exact ⟨Nat.le_refl _, hvalid⟩
          · exact fun other hother => hother.1
      · next hinvalid =>
          obtain ⟨⟨hle, hvalid⟩, hgreatest⟩ := ih h
          constructor
          · exact ⟨Nat.le_succ_of_le hle, hvalid⟩
          · rintro other ⟨hother, hothervalid⟩
            have hne : other ≠ place + 1 := by
              rintro rfl
              apply hinvalid hothervalid
            apply hgreatest ⟨by omega, hothervalid⟩

/-- A boundary before the end is followed by another one, at most four bytes behind it. -/
theorem exists_next_boundary {cut : Nat} (h : String.Pos.Raw.IsValid text ⟨cut⟩)
    (hcut : cut < text.utf8ByteSize) :
  ∃ next, cut < next ∧ next ≤ cut + 4 ∧ String.Pos.Raw.IsValid text ⟨next⟩
  := by
  obtain ⟨before, after, rfl, hplace⟩ := String.Pos.Raw.isValid_iff_exists_append.mp h
  have hsize : cut = before.utf8ByteSize := congrArg String.Pos.Raw.byteIdx hplace
  cases hchars : after.toList with
  | nil =>
      obtain rfl := String.toList_eq_nil_iff.mp hchars
      simp [hsize] at hcut
  | cons c rest =>
      have hafter : after = String.ofList [c] ++ String.ofList rest := by
        rw [← String.ofList_append, List.singleton_append, ← hchars, String.ofList_toList]
      use cut + c.utf8Size
      have hpos := c.utf8Size_pos
      have hfour := c.utf8Size_le_four
      refine ⟨by omega, by omega, ?_⟩
      apply String.Pos.Raw.isValid_iff_exists_append.mpr
      use before ++ String.ofList [c], String.ofList rest
      constructor
      · rw [hafter, String.append_assoc]
      · apply String.Pos.Raw.ext
        simp [hsize]

/-- Less than a character of the room is left over. -/
theorem lt_add_four {cut : Nat} (h : IsGreatest (boundaries text room) cut)
    (hroom : room < text.utf8ByteSize) :
  room < cut + 4
  := by
  obtain ⟨⟨hle, hvalid⟩, hgreatest⟩ := h
  obtain ⟨next, hlt, hnext, hnextvalid⟩ := exists_next_boundary hvalid (by omega)
  by_contra hfar
  have hback : next ≤ cut := hgreatest ⟨by omega, hnextvalid⟩
  omega

/-! ### The cut -/

/-- The text up to a place is a beginning of the text, and it ends at that place. -/
theorem append_of_upTo? {place : Nat} {beginning : String} (h : upTo? text place = some beginning) :
  (∃ rest, text = beginning ++ rest) ∧ beginning.utf8ByteSize = place
  := by
  unfold upTo? at h
  split at h
  · next hvalid =>
      obtain rfl := Option.some.inj h
      have hsplits := String.Pos.splits (text.pos ⟨place⟩ hvalid)
      constructor
      · exact ⟨_, hsplits.eq_append⟩
      · have hplace := congrArg String.Pos.Raw.byteIdx hsplits.offset_eq_rawEndPos
        apply hplace.symm
  · nomatch h

theorem truncate?_eq (room : Nat) (text : String) :
  truncate? room text = some (truncate room text)
  := (Option.some_get _).symm

theorem truncate_of_le (h : text.utf8ByteSize ≤ room) :
  truncate room text = text
  := by
  have heq := truncate?_eq room text
  rw [truncate?, if_neg (Nat.not_lt.mpr h)] at heq
  apply (Option.some.inj heq).symm

/-- A text that takes more bytes than there is room is cut off where the search ends. -/
theorem truncate_of_lt (h : room < text.utf8ByteSize) :
  ∃ cut, boundary? text room = some cut ∧ upTo? text cut = some (truncate room text)
  := by
  have heq := truncate?_eq room text
  rw [truncate?, if_pos h] at heq
  apply Option.bind_eq_some_iff.mp heq

/-- What is left of a text is a beginning of it. -/
theorem exists_append_truncate (room : Nat) (text : String) :
  ∃ rest, text = truncate room text ++ rest
  := by
  obtain h | h := Nat.lt_or_ge room text.utf8ByteSize
  · obtain ⟨cut, -, hcut⟩ := truncate_of_lt h
    apply (append_of_upTo? hcut).1
  · use ""
    rw [truncate_of_le h, String.append_empty]

/-- What is left of a text ends at the greatest boundary. -/
theorem isGreatest_truncate (room : Nat) (text : String) :
  IsGreatest (boundaries text room) (truncate room text).utf8ByteSize
  := by
  obtain h | h := Nat.lt_or_ge room text.utf8ByteSize
  · obtain ⟨cut, hsearch, hcut⟩ := truncate_of_lt h
    rw [(append_of_upTo? hcut).2]
    apply isGreatest_of_boundary? hsearch
  · rw [truncate_of_le h]
    constructor
    · exact ⟨h, String.Pos.Raw.isValid_rawEndPos⟩
    · exact fun other hother => hother.2.le_utf8ByteSize

/-- Of two characters that do not both find room only the first is left. -/
example : truncate 4 "né€" = "né" := by decide +kernel

end

end Text

/-- The beginning of a body is always found, the search for its end included.  It is the longest
beginning of the decoded body that ends at a boundary between characters and takes at most 512 bytes:
all of the decoded body if that takes no more, and else at least 509 bytes. -/
theorem Reply.excerpt_longest (body : List UInt8) :
  let text := String.ofList (Utf8.decodeLossy body)
  Text.truncate? 512 text = some (excerpt body)
    ∧ (∃ rest, text = excerpt body ++ rest)
    ∧ IsGreatest (Text.boundaries text 512) (excerpt body).utf8ByteSize
    ∧ if text.utf8ByteSize ≤ 512 then excerpt body = text
      else
        Text.boundary? text 512 = some (excerpt body).utf8ByteSize
          ∧ 509 ≤ (excerpt body).utf8ByteSize ∧ (excerpt body).utf8ByteSize ≤ 512
  := by
  intro text
  have hgreatest : IsGreatest (Text.boundaries text 512) (excerpt body).utf8ByteSize :=
    Text.isGreatest_truncate 512 text
  use Text.truncate?_eq 512 text, Text.exists_append_truncate 512 text, hgreatest
  split
  · next hfits => apply Text.truncate_of_le hfits
  · next hlong =>
      have hlt : 512 < text.utf8ByteSize := Nat.lt_of_not_ge hlong
      obtain ⟨cut, hsearch, -⟩ := Text.truncate_of_lt hlt
      have hcut := (Text.isGreatest_of_boundary? hsearch).unique hgreatest
      have hfar := Text.lt_add_four hgreatest hlt
      exact ⟨hcut ▸ hsearch, by omega, hgreatest.1.1⟩

end Greenhouse
