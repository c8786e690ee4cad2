import Mathlib.Tactic.Common
import Greenhouse.Control.Watchdog

/-!
# The verdict of the watchdog

At every time, what a running watchdog says about the backend is a function of its window,
of when it was started, and of the last heartbeat since then: that is `Watchdog.verdict`.
The main statement compares any run of a watchdog with these verdicts.  The watchdog tells
its listeners of each change of the verdict, once, and counts the silences.
-/

namespace Greenhouse

/-- Moments in the life of a watchdog, each with the heartbeats that arrive then. -/
abbrev Vigil := List (Nat × List Heartbeat)

namespace Vigil

/-- What the watchdog is given: at each moment time has passed, and then come the heartbeats. -/
def inputs (v : Vigil) : List (Nat × WatchdogInput) :=
  v.flatMap fun (now, beats) => (now, .tick) :: beats.map fun beat => (now, .beat beat)

/-- The heartbeats and their times. -/
def beats (v : Vigil) : List (Nat × Heartbeat) :=
  v.flatMap fun (now, beats) => beats.map fun beat => (now, beat)

/-- The last moment, or the start. -/
def ending (start : Nat) (v : Vigil) : Nat := (v.map Prod.fst).getLastD start

/-- The moments follow the start and one another. -/
def Timely (start : Nat) (v : Vigil) : Prop := (start :: v.map Prod.fst).Pairwise (· ≤ ·)

instance (start : Nat) (v : Vigil) : Decidable (v.Timely start) :=
  inferInstanceAs (Decidable (List.Pairwise _ _))

section
variable {start now : Nat} {beats : List Heartbeat} {v : Vigil}

theorem ending_cons :
  ending start ((now, beats) :: v) = v.ending now
  := by
  unfold ending
  rw [List.map_cons, List.getLastD_cons]

theorem Timely.cons (h : Timely start ((now, beats) :: v)) :
  start ≤ now ∧ v.Timely now
  := by
  obtain ⟨hle, hrest⟩ := List.pairwise_cons.mp h
  constructor
  · apply hle
    simp
  · apply hrest

/-- No heartbeat comes before the start. -/
theorem Timely.le_first (h : v.Timely start) :
  start ≤ (v.beats.map Prod.fst).headD (v.ending start)
  := by
  induction v generalizing start with
  | nil => apply Nat.le_refl
  | cons moment rest ih =>
      obtain ⟨now, beats⟩ := moment
      obtain ⟨hle, hrest⟩ := h.cons
      rw [ending_cons]
      cases beats with
      | nil => apply Nat.le_trans hle (ih hrest)
      | cons beat more => apply hle

end

end Vigil

namespace Watchdog

/-! ### Verdicts -/

/-- When the silence began that lasts since the last heartbeat, or since the start. -/
def quietSince (start : Nat) (last : Option (Nat × Heartbeat)) : Nat :=
  (last.map Prod.fst).getD start

/-- The last heartbeat when so many more have come. -/
def latest (last : Option (Nat × Heartbeat)) (beats : List (Nat × Heartbeat)) :
    Option (Nat × Heartbeat) :=
  beats.getLast?.or last

/-- What is known at some time when the last heartbeat since the start is given. -/
def verdict (window start : Nat) (last : Option (Nat × Heartbeat)) (now : Nat) :
    LivenessRecord Nat where
  state :=
    if quietSince start last + window ≤ now then .disconnected
    else (last.map fun (_, beat) => LivenessRecord.stateOf beat.health).getD .connecting
  lastSeen := last.map Prod.fst
  uptime := last.bind fun (_, beat) => beat.uptime

/-- The verdicts just before and just after each heartbeat, and the one in the end. -/
def verdicts (window start : Nat) (last : Option (Nat × Heartbeat)) :
    List (Nat × Heartbeat) → Nat → List (LivenessRecord Nat)
  | [], ending => [verdict window start last ending]
  | (now, beat) :: rest, ending =>
    verdict window start last now :: verdict window start (some (now, beat)) now
      :: verdicts window start (some (now, beat)) rest ending

/-- The records whose state is not the one before. -/
def changes (state : LivenessState) : List (LivenessRecord Nat) → List (LivenessRecord Nat)
  | [] => []
  | r :: rest => if r.state = state then changes state rest else r :: changes r.state rest

/-- How many of the times follow the one before by at least a window. -/
def silences (window since : Nat) : List Nat → Nat
  | [] => 0
  | now :: rest => (if since + window ≤ now then 1 else 0) + silences window now rest

/-- The effects of announcing a change: a disconnection is counted. -/
def report (r : LivenessRecord Nat) : List Effect :=
  (if r.state = .disconnected then [.count .livenessTimeouts] else []) ++ [.publish (.liveness r)]

section
variable {window start : Nat} {last : Option (Nat × Heartbeat)}

theorem verdict_state_of_silence {now : Nat} (h : quietSince start last + window ≤ now) :
  (verdict window start last now).state = .disconnected
  := if_pos h

theorem verdict_state_ne_of_short {now : Nat} (h : now < quietSince start last + window) :
  (verdict window start last now).state ≠ .disconnected
  := by
  rw [verdict, if_neg (by omega)]
  cases last with
  | none => nofun
  | some last =>
      obtain ⟨_, beat⟩ := last
      cases hbeat : beat.health <;> simp [LivenessRecord.stateOf, hbeat]

/-- While there is no heartbeat, a verdict stays until the window ends. -/
theorem verdict_of_short {now later : Nat} (hle : now ≤ later)
    (h : later < quietSince start last + window) :
  verdict window start last later = verdict window start last now
  := by
  simp only [verdict, if_neg (Nat.not_le.mpr h), if_neg (Nat.not_le.mpr (Nat.lt_of_le_of_lt hle h))]

/-- While there is no heartbeat, a disconnection is final. -/
theorem verdict_of_silence {now later : Nat} (hle : now ≤ later)
    (h : quietSince start last + window ≤ now) :
  verdict window start last later = verdict window start last now
  := by
  simp only [verdict, if_pos h, if_pos (Nat.le_trans h hle)]

end

theorem latest_cons (last : Option (Nat × Heartbeat)) (beat : Nat × Heartbeat)
    (beats : List (Nat × Heartbeat)) :
  latest last (beat :: beats) = latest (some beat) beats
  := by
  unfold latest
  rw [List.getLast?_cons]
  cases beats.getLast? <;> rfl

theorem latest_append (last : Option (Nat × Heartbeat)) (beats more : List (Nat × Heartbeat)) :
  latest last (beats ++ more) = latest (latest last beats) more
  := by
  unfold latest
  rw [List.getLast?_append, Option.or_assoc]

theorem changes_cons (state : LivenessState) (r : LivenessRecord Nat)
    (rest : List (LivenessRecord Nat)) :
  changes state (r :: rest) = changes state [r] ++ changes r.state rest
  := by
  by_cases h : r.state = state
  · subst h
    simp [changes]
  · simp [changes, h]

/-- A record with the state at hand changes nothing. -/
theorem changes_cons_self (r : LivenessRecord Nat) (rest : List (LivenessRecord Nat)) :
  changes r.state (r :: rest) = changes r.state rest
  := if_pos rfl

section
variable (window start : Nat) (last : Option (Nat × Heartbeat))

/-- The first verdict is the one on the silence before the first heartbeat. -/
theorem verdicts_eq_cons (beats : List (Nat × Heartbeat)) (ending : Nat) :
  ∃ rest, verdicts window start last beats ending
    = verdict window start last ((beats.map Prod.fst).headD ending) :: rest
  := by
  cases beats with
  | nil => use []; rfl
  | cons b rest =>
      obtain ⟨now, beat⟩ := b
      use verdict window start (some (now, beat)) now
        :: verdicts window start (some (now, beat)) rest ending
      rfl

/-- Changes up to a moment without heartbeats, and changes after it. -/
theorem changes_verdicts_of_le {since now : Nat} (hsince : since ≤ now)
    {beats : List (Nat × Heartbeat)} {ending : Nat}
    (hnow : now ≤ (beats.map Prod.fst).headD ending) :
  changes (verdict window start last since).state (verdicts window start last beats ending)
    = changes (verdict window start last since).state [verdict window start last now]
      ++ changes (verdict window start last now).state (verdicts window start last beats ending)
  := by
  by_cases h : quietSince start last + window ≤ now
  · obtain ⟨rest, hrest⟩ := verdicts_eq_cons window start last beats ending
    rw [hrest, verdict_of_silence hnow h, changes_cons, changes_cons_self]
  · rw [verdict_of_short hsince (Nat.not_le.mp h), changes_cons_self]
    rfl

/-- The change that a heartbeat makes, and the changes after it. -/
theorem changes_verdicts_cons (now : Nat) (beat : Heartbeat) (beats : List (Nat × Heartbeat))
    (ending : Nat) :
  changes (verdict window start last now).state
      (verdicts window start last ((now, beat) :: beats) ending)
    = changes (verdict window start last now).state [verdict window start (some (now, beat)) now]
      ++ changes (verdict window start (some (now, beat)) now).state
        (verdicts window start (some (now, beat)) beats ending)
  := by
  rw [verdicts, changes_cons_self, changes_cons]

end

/-! ### One input -/

/-- A running watchdog knows at some time what the last heartbeat implies, and its window is
open unless that is a disconnection. -/
structure Watches (window start : Nat) (last : Option (Nat × Heartbeat)) (now : Nat)
    (w : Watchdog) : Prop where
  length : w.window = window
  record : w.record = verdict window start last now
  running : w.running =
    some (if quietSince start last + window ≤ now then none
      else some (quietSince start last + window))

section
variable {w : Watchdog} {window start now : Nat} {last : Option (Nat × Heartbeat)}

/-- A watchdog that is started knows nothing. -/
theorem watches_start (hstopped : w.running = none) (hw : 0 < w.window) (start : Nat) :
  Watches w.window start none start (w.step start .start).1 ∧ (w.step start .start).2 = []
  := by
  have hopen : ¬ start + w.window ≤ start := by omega
  simp only [step, hstopped, Option.isSome_none, Bool.false_eq_true, if_false]
  constructor
  · constructor
    · rfl
    · simp [write, verdict, quietSince, LivenessRecord.initial, hopen]
    · simp [quietSince, hopen]
  · trivial

/-- As time passes, the watchdog reports when the window ends. -/
theorem watches_tick (h : Watches window start last now w) {later : Nat} (hle : now ≤ later) :
  Watches window start last later (w.step later .tick).1
    ∧ (w.step later .tick).2
      = (changes (verdict window start last now).state
          [verdict window start last later]).flatMap report
  := by
  have hrecord := h.record
  have hrunning := h.running
  by_cases hsilent : quietSince start last + window ≤ now
  · -- the window has ended before
    have hlater := verdict_of_silence hle hsilent
    rw [if_pos hsilent] at hrunning
    simp only [step, expire, hrunning, hlater, changes_cons_self]
    constructor
    · constructor
      · apply h.length
      · rw [hrecord, hlater]
      · rw [hrunning, if_pos (Nat.le_trans hsilent hle)]
    · rfl
  · rw [if_neg hsilent] at hrunning
    by_cases hends : quietSince start last + window ≤ later
    · have hstate := verdict_state_ne_of_short (Nat.not_le.mp hsilent)
      have hlater := verdict_state_of_silence hends
      have hverdict : { verdict window start last now with state := .disconnected }
          = verdict window start last later := by simp [verdict, hends]
      simp only [step, expire, hrunning, if_pos hends, LivenessRecord.expire, hrecord, hverdict]
      constructor
      · constructor
        · simp [hstate, write, h.length]
        · simp [hstate, write]
        · simp [hstate, write, hends]
      · simp [hstate, hstate.symm, announce, changes, report, hlater]
    · -- the window is still open
      have hlater := verdict_of_short hle (Nat.not_le.mp hends)
      simp only [step, expire, hrunning, if_neg hends, hlater, changes_cons_self]
      constructor
      · constructor
        · apply h.length
        · rw [hrecord, hlater]
        · rw [hrunning, if_neg hends]
      · rfl

/-- A heartbeat opens the window anew. -/
theorem watches_beat (h : Watches window start last now w) (hw : 0 < window) (beat : Heartbeat) :
  Watches window start (some (now, beat)) now (w.step now (.beat beat)).1
    ∧ (w.step now (.beat beat)).2
      = (changes (verdict window start last now).state
          [verdict window start (some (now, beat)) now]).flatMap report
  := by
  have hopen : ¬ now + window ≤ now := by omega
  have hstate : (verdict window start (some (now, beat)) now).state ≠ .disconnected :=
    verdict_state_ne_of_short (Nat.not_le.mp hopen)
  have hverdict : (w.record.observe beat now).1 = verdict window start (some (now, beat)) now := by
    simp [LivenessRecord.observe, verdict, quietSince, hopen]
  have hchanged : (w.record.observe beat now).2
      = ((verdict window start last now).state
        != (verdict window start (some (now, beat)) now).state) := by
    rw [← h.record, ← hverdict]
    rfl
  simp only [step, h.running, Option.isSome_some, if_true, hverdict, hchanged]
  constructor
  · constructor
    · apply h.length
    · rfl
    · simp [quietSince, hopen, h.length]
  · by_cases hsame : (verdict window start (some (now, beat)) now).state
        = (verdict window start last now).state
    · simp [announce, changes, hsame]
    · have hother := Ne.symm hsame
      simp [announce, changes, hsame, hother, report, hstate]

end

/-! ### Whole runs -/

theorem run_cons (w : Watchdog) (now : Nat) (x : WatchdogInput)
    (rest : List (Nat × WatchdogInput)) :
  w.run ((now, x) :: rest)
    = (((w.step now x).1.run rest).1, (w.step now x).2 ++ ((w.step now x).1.run rest).2)
  := rfl

theorem run_append (w : Watchdog) (first second : List (Nat × WatchdogInput)) :
  w.run (first ++ second)
    = (((w.run first).1.run second).1, (w.run first).2 ++ ((w.run first).1.run second).2)
  := by
  induction first generalizing w with
  | nil => rfl
  | cons input rest ih =>
      obtain ⟨now, x⟩ := input
      rw [List.cons_append, run_cons, run_cons, ih, List.append_assoc]

section
variable {w : Watchdog} {window start : Nat} {last : Option (Nat × Heartbeat)}

/-- Several heartbeats at one moment, whatever comes after them. -/
theorem watches_beats {now : Nat} (h : Watches window start last now w) (hw : 0 < window)
    (beats : List Heartbeat) :
  Watches window start (latest last (beats.map fun beat => (now, beat))) now
      (w.run (beats.map fun beat => (now, .beat beat))).1
    ∧ ∀ (later : List (Nat × Heartbeat)) (ending : Nat),
      (changes (verdict window start last now).state
          (verdicts window start last ((beats.map fun beat => (now, beat)) ++ later)
            ending)).flatMap report
        = (w.run (beats.map fun beat => (now, .beat beat))).2
          ++ (changes
            (verdict window start (latest last (beats.map fun beat => (now, beat))) now).state
            (verdicts window start (latest last (beats.map fun beat => (now, beat))) later
              ending)).flatMap report
  := by
  induction beats generalizing w last with
  | nil =>
      constructor
      · apply h
      · intro later ending
        rfl
  | cons beat rest ih =>
      obtain ⟨hbeat, heffects⟩ := watches_beat h hw beat
      obtain ⟨hrest, hreports⟩ := ih hbeat
      rw [List.map_cons, latest_cons]
      constructor
      · apply hrest
      · intro later ending
        rw [List.cons_append, changes_verdicts_cons, List.flatMap_append, hreports, ← heffects,
          List.map_cons, run_cons, List.append_assoc]

/-- A running watchdog reports the changes of its verdict. -/
theorem watches_vigil {now : Nat} (h : Watches window start last now w) (hw : 0 < window)
    {v : Vigil} (hv : v.Timely now) :
  Watches window start (latest last v.beats) (v.ending now) (w.run v.inputs).1
    ∧ (w.run v.inputs).2
      = (changes (verdict window start last now).state
          (verdicts window start last v.beats (v.ending now))).flatMap report
  := by
  induction v generalizing w last now with
  | nil =>
      constructor
      · apply h
      · simp [run, Vigil.inputs, Vigil.beats, Vigil.ending, verdicts, changes]
  | cons moment rest ih =>
      obtain ⟨later, beats⟩ := moment
      obtain ⟨hle, hrest⟩ := hv.cons
      obtain ⟨htick, hreport⟩ := watches_tick h hle
      obtain ⟨hbeats, hreports⟩ := watches_beats htick hw beats
      obtain ⟨hend, heffects⟩ := ih hbeats hrest
      have hinputs : Vigil.inputs ((later, beats) :: rest)
          = (later, .tick) :: ((beats.map fun beat => (later, .beat beat)) ++ Vigil.inputs rest) :=
        rfl
      have hall : Vigil.beats ((later, beats) :: rest)
          = (beats.map fun beat => (later, beat)) ++ Vigil.beats rest := rfl
      rw [hinputs, run_cons, run_append, hall, latest_append, Vigil.ending_cons]
      constructor
      · apply hend
      · rw [changes_verdicts_of_le window start last hle, List.flatMap_append, hreports, heffects,
          hreport]
        cases beats with
        | nil => apply hrest.le_first
        | cons beat more => apply Nat.le_refl

end

/-! ### Counting disconnections -/

theorem tally_append (counts : Counters) (first second : List Effect) :
  Effect.tally counts (first ++ second) = Effect.tally (Effect.tally counts first) second
  := List.foldl_append

/-- What is published of changes. -/
theorem filterMap_report (records : List (LivenessRecord Nat)) :
  (records.flatMap report).filterMap Effect.event? = records.map .liveness
  := by
  induction records with
  | nil => rfl
  | cons r rest ih =>
      have hone : (report r).filterMap Effect.event? = [.liveness r] := by
        unfold report
        split <;> rfl
      rw [List.flatMap_cons, List.filterMap_append, ih, hone]
      rfl

/-- What is counted of changes. -/
theorem tally_report (counts : Counters) (records : List (LivenessRecord Nat)) :
  Effect.tally counts (records.flatMap report)
    = counts.add (records.countP fun r => r.state = .disconnected) .livenessTimeouts
  := by
  induction records generalizing counts with
  | nil => rfl
  | cons r rest ih =>
      rw [List.flatMap_cons, tally_append, ih, List.countP_cons]
      by_cases h : r.state = .disconnected
      · have hone : Effect.tally counts (report r) = counts.bump .livenessTimeouts := by
          simp [report, Effect.tally, h]
        rw [hone, if_pos (decide_eq_true h)]
        simp only [Counters.bump, Counters.add, Nat.add_assoc, Nat.add_comm 1]
      · have hnone : Effect.tally counts (report r) = counts := by simp [report, Effect.tally, h]
        rw [hnone, if_neg (by simpa using h)]
        rfl

/-- A record is a disconnection among the changes when its state is, and is not the one
before. -/
theorem countP_changes_cons (state : LivenessState) (r : LivenessRecord Nat)
    (rest : List (LivenessRecord Nat)) :
  (changes state (r :: rest)).countP (fun r => r.state = .disconnected)
    = (if r.state = .disconnected ∧ state ≠ .disconnected then 1 else 0)
      + (changes r.state rest).countP fun r => r.state = .disconnected
  := by
  rw [changes]
  by_cases h : r.state = state
  · subst h
    simp
  · by_cases hr : r.state = .disconnected
    · have hstate : state ≠ .disconnected := by rw [← hr]; apply Ne.symm h
      simp [hr, hstate, hstate.symm, Nat.add_comm]
    · simp [h, hr]

/-- The disconnections among the changes are the silences. -/
theorem countP_changes {window : Nat} (hw : 0 < window) (start : Nat)
    (last : Option (Nat × Heartbeat)) (beats : List (Nat × Heartbeat)) (ending : Nat)
    {state : LivenessState} (hstate : state ≠ .disconnected) :
  ((changes state (verdicts window start last beats ending)).countP fun r =>
      r.state = .disconnected)
    = silences window (quietSince start last) (beats.map Prod.fst ++ [ending])
  := by
  have hsilent (last : Option (Nat × Heartbeat)) (now : Nat) :
      (verdict window start last now).state = .disconnected
        ↔ quietSince start last + window ≤ now := by
    constructor
    · intro h
      apply Nat.le_of_not_lt
      intro hshort
      apply verdict_state_ne_of_short hshort h
    · apply verdict_state_of_silence
  induction beats generalizing last state with
  | nil =>
      rw [verdicts, countP_changes_cons]
      simp [silences, hsilent, hstate, changes]
  | cons b rest ih =>
      obtain ⟨now, beat⟩ := b
      have hopen : (verdict window start (some (now, beat)) now).state ≠ .disconnected := by
        apply verdict_state_ne_of_short
        apply Nat.lt_add_of_pos_right hw
      have hopens : ¬ ((verdict window start (some (now, beat)) now).state = .disconnected
          ∧ (verdict window start last now).state ≠ .disconnected) := by
        intro h
        apply hopen h.1
      have hquiet : quietSince start (some (now, beat)) = now := rfl
      rw [verdicts, countP_changes_cons, countP_changes_cons, ih (some (now, beat)) hopen,
        if_neg hopens, hquiet]
      simp [silences, hsilent, hstate]

/-- There are no silences when every time follows the one before within the window. -/
theorem silences_of_isChain {window since : Nat} {times : List Nat}
    (h : (since :: times).IsChain fun earlier later => later < earlier + window) :
  silences window since times = 0
  := by
  induction times generalizing since with
  | nil => rfl
  | cons now rest ih =>
      obtain ⟨hshort, hrest⟩ := List.isChain_cons_cons.mp h
      rw [silences, if_neg (Nat.not_le.mpr hshort), ih hrest]

/-- A watchdog that has been started says at every time what its last heartbeat implies.  It
announces each change of that once and in order, and counts one disconnection for each
silence that lasts for a window, so that there is none while the heartbeats are closer. -/
theorem run_eq_verdicts (w : Watchdog) (hstopped : w.running = none) (hw : 0 < w.window)
    (start : Nat) (v : Vigil) (hv : v.Timely start) :
  let times := v.beats.map Prod.fst ++ [v.ending start]
  let announced := changes .connecting (verdicts w.window start none v.beats (v.ending start))
  let disconnections := announced.countP fun r => r.state = .disconnected
  (w.run ((start, .start) :: v.inputs)).1.record
      = verdict w.window start v.beats.getLast? (v.ending start)
    ∧ (w.run ((start, .start) :: v.inputs)).2.filterMap Effect.event? = announced.map .liveness
    ∧ (∀ counts, Effect.tally counts (w.run ((start, .start) :: v.inputs)).2
      = counts.add disconnections .livenessTimeouts)
    ∧ disconnections = silences w.window start times
    ∧ ((start :: times).IsChain (fun earlier later => later < earlier + w.window) →
      ∀ r ∈ announced, r.state ≠ .disconnected)
  := by
  intro times announced disconnections
  obtain ⟨hstart, hnone⟩ := watches_start hstopped hw start
  obtain ⟨hend, heffects⟩ := watches_vigil hstart hw hv
  have hconnecting : (verdict w.window start none start).state = .connecting := by
    apply if_neg
    simp only [quietSince, Option.map_none, Option.getD_none]
    omega
  have hreported : (w.run ((start, .start) :: v.inputs)).2 = announced.flatMap report := by
    rw [run_cons, hnone, heffects, hconnecting]
    rfl
  have hsilences : disconnections = silences w.window start times :=
    countP_changes hw start none v.beats (v.ending start) (by nofun)
  constructor
  · rw [run_cons, hend.record, latest, Option.or_none]
  constructor
  · rw [hreported, filterMap_report]
  constructor
  · intro counts
    rw [hreported, tally_report]
  constructor
  · apply hsilences
  · intro hclose r hr hdisconnected
    have hzero : disconnections = 0 := by rw [hsilences, silences_of_isChain hclose]
    have hno := List.countP_eq_zero.mp hzero r hr
    apply hno
    apply decide_eq_true hdisconnected

/-- A backend that falls silent after one heartbeat, for more than a window, and comes back. -/
theorem run_eq_verdicts_after_silence :
  let v : Vigil := [(4, [⟨.alive, none⟩]), (14, []), (34, [⟨.stalled, none⟩, ⟨.alive, none⟩])]
  ((ofWindow 10).run ((0, .start) :: v.inputs)).1.record = ⟨.connected, some 34, none⟩
    ∧ ((ofWindow 10).run ((0, .start) :: v.inputs)).2.filterMap Effect.event?
      = [.liveness ⟨.connected, some 4, none⟩, .liveness ⟨.disconnected, some 4, none⟩,
        .liveness ⟨.stalled, some 34, none⟩, .liveness ⟨.connected, some 34, none⟩]
    ∧ silences 10 0 [4, 34, 34, 34] = 1
  := by
  intro v
  obtain ⟨hrecord, hevents, -, hsilences, -⟩ :=
    run_eq_verdicts (ofWindow 10) rfl (by decide) 0 v (by decide)
  constructor
  · rw [hrecord]
    rfl
  constructor
  · rw [hevents]
    rfl
  · apply hsilences.symm.trans
    rfl

end Watchdog

end Greenhouse
