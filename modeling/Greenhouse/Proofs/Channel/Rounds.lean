import Mathlib.Computability.Language
import Greenhouse.Proofs.Channel.Charge

/-!
# Rounds of a channel

What listeners hear of a channel is made of rounds: the channel is connecting, it may be open, and
then frames arrive, and it is closed.  `Signal.course` says what they may have heard when the
channel has a given state, and every turn leads from one course to the next.  Conversely,
`Signal.follow` walks along what is heard, and refuses a signal that may not come in a state; what
it can walk along is what can be continued to a number of rounds.
-/

namespace Greenhouse

open scoped Computability

namespace Signal

/-- A signal is heard, and nothing else. -/
def once (s : Signal) : Language Signal := {[s]}

/-- Any number of frames. -/
def frames : Language Signal := ({w | ∃ frame, w = [.inbound frame]} : Language Signal)∗

/-- The channel is connecting, it may be open, and frames arrive, and it is closed. -/
def round : Language Signal :=
  once (.state .connecting) * (1 + once (.state .opened) * frames) * once (.state .closed)

/-- What may have been heard when the channel has a state. -/
def course : ConnectionState → Language Signal
  | .closed => round∗
  | .connecting => round∗ * once (.state .connecting)
  | .opened => round∗ * (once (.state .connecting) * (once (.state .opened) * frames))

variable {s : Signal} {before after : ConnectionState} {word heard : List Signal}
  {l : Language Signal}

theorem mem_once_mul :
  word ∈ once s * l ↔ ∃ rest ∈ l, s :: rest = word
  := by
  constructor
  · rintro ⟨_, rfl, rest, hrest, rfl⟩
    use rest, hrest
    rfl
  · rintro ⟨rest, hrest, rfl⟩
    use [s], rfl, rest, hrest
    rfl

theorem mem_mul_once :
  word ∈ l * once s ↔ ∃ start ∈ l, start ++ [s] = word
  := by
  constructor
  · rintro ⟨start, hstart, _, rfl, rfl⟩
    use start, hstart
  · rintro ⟨start, hstart, rfl⟩
    use start, hstart, [s], rfl

theorem append_mem_kstar {other : List Signal} (h : word ∈ l∗) (hother : other ∈ l) :
  word ++ other ∈ l∗
  := by
  apply Set.mem_of_subset_of_mem (kstar_mul_le_kstar (a := l))
  apply Language.append_mem_mul h hother

theorem failed_mem_round :
  [.state .connecting, .state .closed] ∈ round
  := by
  apply mem_mul_once.mpr
  use [.state .connecting]
  constructor
  · apply mem_once_mul.mpr
    use []
    constructor
    · left
      rfl
    · rfl
  · rfl

theorem session_mem_round (h : word ∈ frames) :
  .state .connecting :: .state .opened :: word ++ [.state .closed] ∈ round
  := by
  apply mem_mul_once.mpr
  use .state .connecting :: .state .opened :: word
  constructor
  · apply mem_once_mul.mpr
    use .state .opened :: word
    constructor
    · right
      apply mem_once_mul.mpr
      use word
    · rfl
  · rfl

theorem mem_course_opened :
  word ∈ course .opened
    ↔ ∃ rounds ∈ round∗, ∃ arrived ∈ frames,
      rounds ++ .state .connecting :: .state .opened :: arrived = word
  := by
  rw [course, Language.mem_mul]
  simp only [mem_once_mul]
  constructor
  · rintro ⟨rounds, hrounds, _, ⟨_, ⟨arrived, harrived, rfl⟩, rfl⟩, rfl⟩
    use rounds, hrounds, arrived, harrived
  · rintro ⟨rounds, hrounds, arrived, harrived, rfl⟩
    exact ⟨rounds, hrounds, _, ⟨_, ⟨arrived, harrived, rfl⟩, rfl⟩, rfl⟩

theorem Turn.mem_course (h : Turn before heard after) (hword : word ∈ course before) :
  word ++ heard ∈ course after
  := by
  cases h with
  | stay => rwa [List.append_nil]
  | dial =>
      apply mem_mul_once.mpr
      use word, hword
  | opened =>
      obtain ⟨rounds, hrounds, rfl⟩ := mem_mul_once.mp hword
      rw [mem_course_opened]
      use rounds, hrounds, [], Language.nil_mem_kstar _
      simp
  | hear frame =>
      obtain ⟨rounds, hrounds, arrived, harrived, rfl⟩ := mem_course_opened.mp hword
      rw [mem_course_opened]
      use rounds, hrounds, arrived ++ [.inbound frame], append_mem_kstar harrived ⟨frame, rfl⟩
      simp
  | failed =>
      obtain ⟨rounds, hrounds, rfl⟩ := mem_mul_once.mp hword
      rw [List.append_assoc]
      apply append_mem_kstar hrounds failed_mem_round
  | lost =>
      obtain ⟨rounds, hrounds, arrived, harrived, rfl⟩ := mem_course_opened.mp hword
      rw [List.append_assoc]
      apply append_mem_kstar hrounds (session_mem_round harrived)

/-! ### Walking along what is heard -/

/-- The state after a signal, if the signal may come in a state. -/
def follow : ConnectionState → Signal → Option ConnectionState
  | .closed, .state .connecting => some .connecting
  | .connecting, .state .opened => some .opened
  | .connecting, .state .closed => some .closed
  | .opened, .inbound _ => some .opened
  | .opened, .state .closed => some .closed
  | _, _ => none

theorem Turn.walk (h : Turn before heard after) :
  heard.foldlM follow before = some after
  := by
  cases h <;> rfl

theorem turn_of_follow (h : follow before s = some after) :
  Turn before [s] after
  := by
  revert h
  fun_cases follow before s with
  | case1 =>
      rintro ⟨⟩
      exact .dial
  | case2 =>
      rintro ⟨⟩
      exact .opened
  | case3 =>
      rintro ⟨⟩
      exact .failed
  | case4 frame =>
      rintro ⟨⟩
      exact .hear frame
  | case5 =>
      rintro ⟨⟩
      exact .lost
  | case6 => nofun

theorem mem_course_of_walk (hword : word ∈ course before)
    (h : heard.foldlM follow before = some after) :
  word ++ heard ∈ course after
  := by
  induction heard generalizing before word with
  | nil =>
      obtain rfl := Option.some.inj h
      rwa [List.append_nil]
  | cons s heard ih =>
      obtain ⟨next, hnext, h⟩ := Option.bind_eq_some_iff.mp (List.foldlM_cons.symm.trans h)
      rw [List.append_cons]
      apply ih ((turn_of_follow hnext).mem_course hword) h

theorem mem_course_of_walk_closed (h : heard.foldlM follow .closed = some after) :
  heard ∈ course after
  := by
  have hnil : [] ∈ course .closed := Language.nil_mem_kstar _
  apply mem_course_of_walk hnil h

/-- What may be repeated, where it leads nowhere else, leads nowhere else. -/
theorem walk_of_mem_kstar (h : ∀ w ∈ l, w.foldlM follow before = some before)
    (hword : word ∈ l∗) :
  word.foldlM follow before = some before
  := by
  obtain ⟨words, rfl, hwords⟩ := Language.mem_kstar.mp hword
  clear hword
  induction words with
  | nil => rfl
  | cons w words ih =>
      obtain ⟨hw, hwords⟩ := List.forall_mem_cons.mp hwords
      rw [List.flatten_cons, List.foldlM_append, h w hw]
      apply ih hwords

theorem walk_of_mem_round (h : word ∈ round) :
  word.foldlM follow .closed = some .closed
  := by
  obtain ⟨start, hstart, rfl⟩ := mem_mul_once.mp h
  obtain ⟨opened, hopened, rfl⟩ := mem_once_mul.mp hstart
  obtain hnil | hopened := hopened
  · obtain rfl := Language.mem_one _ |>.mp hnil
    rfl
  · obtain ⟨arrived, harrived, rfl⟩ := mem_once_mul.mp hopened
    have hwalk : arrived.foldlM follow .opened = some .opened := by
      apply walk_of_mem_kstar _ harrived
      rintro _ ⟨frame, rfl⟩
      rfl
    simp [follow, hwalk]

/-- Whatever has been heard, there may follow what ends the last round. -/
theorem exists_append_mem_rounds (h : word ∈ course before) :
  ∃ rest, word ++ rest ∈ round∗
  := by
  cases before with
  | connecting =>
      use [.state .closed]
      apply Turn.failed.mem_course h
  | opened =>
      use [.state .closed]
      apply Turn.lost.mem_course h
  | closed =>
      use []
      rwa [List.append_nil]

/-- What can be walked along is the beginning of a number of rounds, and nothing else is. -/
theorem exists_append_mem_rounds_iff :
  (∃ rest, word ++ rest ∈ round∗) ↔ (word.foldlM follow .closed).isSome
  := by
  constructor
  · rintro ⟨rest, hrest⟩
    have hwalk := walk_of_mem_kstar (fun _ => walk_of_mem_round) hrest
    rw [List.foldlM_append] at hwalk
    obtain ⟨state, hstate, _⟩ := Option.bind_eq_some_iff.mp hwalk
    rw [hstate]
    rfl
  · intro h
    obtain ⟨state, hstate⟩ := Option.isSome_iff_exists.mp h
    apply exists_append_mem_rounds (mem_course_of_walk_closed hstate)

end Signal

end Greenhouse
