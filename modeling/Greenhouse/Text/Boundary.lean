/-!
# Boundaries in a text

A text that takes too many bytes is cut off at a boundary between characters.  The boundary is
looked for backwards, one byte at a time, from where the room ends.  The search would fail below the
front of the text, and the cut at a place within a character; `Text.isSome_truncate?` says that
neither happens, so that `Text.truncate` always gives a text.
-/

namespace Greenhouse.Text

/-- The last boundary at a place of a text or before it.  The search goes back one byte at a time,
and it fails when it would go below the front. -/
def boundary? (text : String) : Nat → Option Nat
  | 0 => if String.Pos.Raw.IsValid text 0 then some 0 else none
  | place + 1 =>
    if String.Pos.Raw.IsValid text ⟨place + 1⟩ then some (place + 1) else boundary? text place

/-- The text up to a place, which has to be a boundary. -/
def upTo? (text : String) (place : Nat) : Option String :=
  if h : String.Pos.Raw.IsValid text ⟨place⟩ then some (text.sliceTo (text.pos ⟨place⟩ h)).copy
  else none

/-- The text, cut off at the last boundary within so many bytes if it takes more; it fails when
either the search or the cut does. -/
def truncate? (room : Nat) (text : String) : Option String :=
  if room < text.utf8ByteSize then (boundary? text room).bind (upTo? text) else some text

/-- The search comes upon a boundary, at the front of the text at the latest. -/
theorem exists_boundary? (text : String) (place : Nat) :
  ∃ cut, boundary? text place = some cut ∧ String.Pos.Raw.IsValid text ⟨cut⟩
  := by
  induction place with
  | zero => exact ⟨0, if_pos String.Pos.Raw.isValid_zero, String.Pos.Raw.isValid_zero⟩
  | succ place ih =>
      rw [boundary?]
      split
      · next h => exact ⟨place + 1, rfl, h⟩
      · apply ih

theorem isSome_truncate? (room : Nat) (text : String) :
  (truncate? room text).isSome
  := by
  obtain ⟨cut, hcut, hvalid⟩ := exists_boundary? text room
  rw [truncate?, hcut]
  split
  · simp [upTo?, hvalid]
  · rfl

/-- The text, cut off at the last boundary within so many bytes if it takes more. -/
def truncate (room : Nat) (text : String) : String :=
  (truncate? room text).get (isSome_truncate? room text)

end Greenhouse.Text
