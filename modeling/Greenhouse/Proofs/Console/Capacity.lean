import Mathlib.Algebra.Group.Nat.Defs
import Mathlib.Tactic.Common
import Greenhouse.Console.Program
import Greenhouse.Proofs.Config.Address

/-!
# The capacity of a configuration

A configuration that has been checked makes a bridge: its address is one that the channel can be
dialled at.  What the check does not look at is how many events are to be kept.  The bus makes as
many places as the next power of two, and when these take more bytes than there may be, the program
is broken off.
-/

namespace Greenhouse

/-! ### What has been checked -/

theorem Config.backend_validate {c : Config} (h : c.validate = .ok ()) :
  c.backend.validate = .ok ()
  := by
  obtain ⟨_, hbackend, _⟩ := bind_eq_ok.mp h
  apply hbackend

/-- A configuration that has been read has been checked. -/
theorem Config.validate_of_parse {context text : String} {c : Config}
    (h : parse context text = .ok c) :
  c.validate = .ok ()
  := by
  unfold parse at h
  split at h
  · nomatch h
  · obtain ⟨_, hread, rfl⟩ := map_eq_ok.mp h
    apply hread

section
variable {c : Config} (h : c.validate = .ok ())
include h

/-- A configuration that has been checked makes a bridge. -/
theorem Bridge.exists_ofConfig :
  ∃ b, ofConfig c = .ok b
  := by
  obtain ⟨channel, hchannel⟩ := BackendConfig.exists_websocketUrl (Config.backend_validate h)
  rw [ofConfig, h, hchannel]
  exact ⟨_, rfl⟩

theorem Console.exists_stageAt (standIn : Rehearsal.StandIn) (place : Url) :
  ∃ stage, stageAt c standIn place = .ok stage
  := by
  obtain ⟨url, hurl⟩ := BackendConfig.exists_httpUrl (Config.backend_validate h)
  obtain ⟨channel, hchannel⟩ := BackendConfig.exists_websocketUrl (Config.backend_validate h)
  obtain ⟨b, hb⟩ := Bridge.exists_ofConfig h
  rw [stageAt, hb, hurl, hchannel]
  exact ⟨_, rfl⟩

end

/-! ### Places for events -/

namespace EventBus

/-- The least power of two that is enough is at most a number when the greatest power of two
within that number is enough. -/
theorem roundUp_le_iff {most : Nat} (hmost : most ≠ 0) (capacity : Nat) :
  roundUp capacity ≤ most ↔ capacity ≤ 2 ^ most.log2
  := by
  have hpower (k : Nat) : Nat.pow 2 k ≤ most ↔ k ≤ most.log2 := (Nat.le_log2 hmost).symm
  rw [roundUp, hpower]
  split
  · next hsmall =>
      constructor
      · intro _
        apply Nat.le_trans hsmall Nat.one_le_two_pow
      · intro _
        apply Nat.zero_le
  · next hlarge =>
      rw [Nat.succ_le_iff, Nat.log2_lt (by omega)]
      omega

/-- As many places can be had as the greatest power of two of them that has room. -/
theorem canHold_iff {place : Nat} (hplace : 0 < place) (hmost : place ≤ mostBytes)
    (capacity : Nat) :
  canHold place capacity = true ↔ capacity ≤ 2 ^ (mostBytes / place).log2
  := by
  have hroom : mostBytes / place ≠ 0 := Nat.ne_of_gt (Nat.div_pos hmost hplace)
  rw [canHold, Bool.and_eq_true, decide_eq_true_eq, decide_eq_true_eq,
    ← Nat.le_div_iff_mul_le hplace, roundUp_le_iff hroom]
  constructor
  · intro hcan
    apply hcan.2
  · intro hfits
    constructor
    · calc
        capacity ≤ 2 ^ (mostBytes / place).log2 := hfits
        _ ≤ mostBytes / place := Nat.log2_self_le hroom
        _ ≤ mostBytes := Nat.div_le_self _ _
    · apply hfits

end EventBus

/-! ### Runs that are broken off -/

namespace Console

/-- A run with a configuration that has been checked is broken off exactly when there is no room for
its events. -/
theorem brokenOff_iff {c : Config} (h : c.validate = .ok ()) (standIn : Rehearsal.StandIn)
    (place : Url) (typed : List Typed) (task : Task) :
  (runWith c standIn place typed task).2.2.2 = brokenOff
    ↔ EventBus.canHold EventBus.placeBytes c.capacity = false
  := by
  obtain ⟨stage, hstage⟩ := exists_stageAt h standIn place
  rw [runWith, hstage]
  simp only
  split
  · next hcan =>
      rw [hcan]
      constructor
      · intro hcode
        dsimp only at hcode
        split at hcode <;> nomatch hcode
      · nofun
  · next hcan =>
      constructor
      · intro _
        apply Bool.eq_false_iff.mpr hcan
      · intro _
        rfl

/-- Every configuration that has been checked makes a bridge.  There is room for its events, however
many bytes each of them takes, up to the greatest power of two of them that has room, and with more
than that the program is broken off. -/
theorem constructs_iff {c : Config} (h : c.validate = .ok ()) :
  (∃ b, Bridge.ofConfig c = .ok b)
    ∧ (∀ place, 0 < place → place ≤ EventBus.mostBytes →
      (EventBus.canHold place c.capacity = true
        ↔ c.capacity ≤ 2 ^ (EventBus.mostBytes / place).log2))
    ∧ ∀ standIn place typed task,
      (runWith c standIn place typed task).2.2.2 = brokenOff ↔ 2 ^ 56 < c.capacity
  := by
  use Bridge.exists_ofConfig h
  constructor
  · intro place hplace hmost
    apply EventBus.canHold_iff hplace hmost
  · intro standIn place typed task
    have hpower : (EventBus.mostBytes / EventBus.placeBytes).log2 = 56 := by decide +kernel
    rw [brokenOff_iff h, Bool.eq_false_iff, ne_eq, EventBus.canHold_iff (by decide) (by decide),
      hpower, Nat.not_le]

/-- A configuration with a capacity, read from a text with an address, a path and that capacity. -/
def limited (capacity : Nat) : Config :=
  { Config.standard with
    backend := { BackendConfig.standard with baseUrl := "https://[::1]/a?b", wsPath := "/live" }
    capacity }

/-- The text of such a configuration. -/
def limitedText (capacity : String) : String :=
  "[backend]\nbase_url = \"https://[::1]/a?b\"\nws_path = \"/live\"\n"
    ++ "[events]\ncapacity = " ++ capacity

/-- The greatest capacity for whose events there is room. -/
theorem constructs_iff_greatest :
  let c := limited (Nat.pow 2 56)
  Config.ofText (limitedText "72057594037927936") = .ok c
    ∧ c.validate = .ok ()
    ∧ (∃ b, Bridge.ofConfig c = .ok b)
    ∧ EventBus.canHold EventBus.placeBytes c.capacity = true
    ∧ (runWith c .fresh ⟨"https", "", "", none, none, "", none, none⟩ [] .status).2.2.2 ≠ brokenOff
  := by
  intro c
  have hread : Config.ofText (limitedText "72057594037927936") = .ok c := by decide +kernel
  have hchecked : c.validate = .ok () := Config.validate_of_parse hread
  obtain ⟨hbridge, hcan, hruns⟩ := constructs_iff hchecked
  use hread, hchecked, hbridge
  constructor
  · apply (hcan _ (by decide) (by decide)).mpr
    decide +kernel
  · intro hbroken
    apply absurd ((hruns _ _ _ _).mp hbroken)
    decide +kernel

/-- The greatest capacity that can be written is read without a complaint, and there is no room for
its events even if each took a single byte. -/
theorem cannotHold_largestCapacity :
  let c := limited (Nat.pow 2 63 - 1)
  Config.ofText (limitedText "9223372036854775807") = .ok c
    ∧ c.validate = .ok ()
    ∧ (Bridge.ofConfig c).isOk = true
    ∧ EventBus.canHold 1 c.capacity = false
    ∧ EventBus.canHold EventBus.placeBytes c.capacity = false
  := by
  decide +kernel

end Console

end Greenhouse
