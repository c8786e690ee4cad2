import Mathlib.Data.List.Basic
import Mathlib.Data.List.Induction
import Greenhouse.Proofs.Watchdog.Verdict

/-!
# What a listener makes of the watchdog

A listener who takes the state of every record that the watchdog publishes believes in the state
of the last one.  A running watchdog publishes every change, so the listener is right; but a
watchdog that is started forgets what it knew and does not say so.

The main statement is that this is all that can go wrong, in runs with any number of starts and
stops: the listener is wrong exactly from the moment at which the watchdog is started again until
the next record, and a record repeats the state of the one before it only if the watchdog was
started again in between.
-/

namespace Greenhouse

/-- The record that is published. -/
def Effect.record? : Effect → Option (LivenessRecord Nat)
  | .publish (.liveness r) => some r
  | _ => none

namespace Watchdog

/-- The records that are published, in order. -/
def records (effects : List Effect) : List (LivenessRecord Nat) :=
  effects.filterMap Effect.record?

/-- The state that a listener believes in after some records: that of the last one. -/
def believed (heard : List (LivenessRecord Nat)) : LivenessState :=
  (heard.getLast?.map LivenessRecord.state).getD .connecting

/-- A watchdog that was not running has been started when these records had been published. -/
def StartedAfter (window : Nat) (inputs : List (Nat × WatchdogInput))
    (heard : List (LivenessRecord Nat)) : Prop :=
  ∃ before now after, inputs = before ++ (now, .start) :: after
    ∧ ((ofWindow window).run before).1.running = none
    ∧ records ((ofWindow window).run before).2 = heard

/-! ### One more input -/

theorem records_append (first second : List Effect) :
  records (first ++ second) = records first ++ records second
  := List.filterMap_append

@[simp]
theorem believed_append_singleton (heard : List (LivenessRecord Nat)) (r : LivenessRecord Nat) :
  believed (heard ++ [r]) = r.state
  := by
  simp [believed]

/-- The counts of an announcement are no records. -/
theorem records_announce (changed : Bool) (r : LivenessRecord Nat) (counts : List Counter) :
  records (announce changed r counts) = if changed then [r] else []
  := by
  cases changed with
  | false => rfl
  | true =>
      have hcounts : records (counts.map .count) = [] := by
        rw [records, List.filterMap_map]
        apply List.filterMap_eq_nil_iff.mpr
        intro c _
        rfl
      rw [announce, if_pos rfl, records_append, hcounts]
      rfl

/-- A watchdog is started without a word, or it says nothing and keeps its state, or it says that
it has another state. -/
theorem step_records_cases (w : Watchdog) (now : Nat) (x : WatchdogInput) :
  (x = .start ∧ w.running = none ∧ records (w.step now x).2 = []
      ∧ (w.step now x).1.record.state = .connecting)
    ∨ (¬ (x = .start ∧ w.running = none) ∧ records (w.step now x).2 = []
      ∧ (w.step now x).1.record.state = w.record.state)
    ∨ (x ≠ .start ∧ records (w.step now x).2 = [(w.step now x).1.record]
      ∧ (w.step now x).1.record.state ≠ w.record.state
      ∧ (w.step now x).1.record.state ≠ .connecting)
  := by
  cases x with
  | start =>
      cases hrunning : w.running with
      | none =>
          left
          simp [step, hrunning, records, write, LivenessRecord.initial]
      | some deadline =>
          right; left
          simp [step, hrunning, records]
  | stop =>
      right; left
      simp [step, records]
  | beat beat =>
      right
      cases hrunning : w.running with
      | none =>
          left
          simp [step, hrunning, records]
      | some deadline =>
          have hknown : LivenessRecord.stateOf beat.health ≠ .connecting := by
            cases beat.health <;> rintro ⟨⟩
          by_cases hsame : w.record.state = LivenessRecord.stateOf beat.health
          · left
            simp [step, hrunning, records_announce, write, LivenessRecord.observe, hsame]
          · right
            simp [step, hrunning, records_announce, write, LivenessRecord.observe, hsame, hknown,
              Ne.symm hsame]
  | tick =>
      right
      by_cases hdue : ∃ deadline, w.running = some (some deadline) ∧ deadline ≤ now
      · obtain ⟨deadline, hrunning, hdue⟩ := hdue
        by_cases hsame : w.record.state = .disconnected
        · left
          simp [step, expire, hrunning, hdue, records_announce, LivenessRecord.expire, hsame]
        · right
          simp [step, expire, hrunning, hdue, records_announce, LivenessRecord.expire, write, hsame,
            Ne.symm hsame]
      · left
        have hnothing : w.step now .tick = (w, []) := by
          simp only [step, expire]
          split
          · next deadline hrunning =>
              apply if_neg
              intro hle
              apply hdue ⟨deadline, hrunning, hle⟩
          · rfl
        simp [hnothing, records]

section
variable {window : Nat} {inputs : List (Nat × WatchdogInput)}

/-- A start stays a start, whatever comes after it. -/
theorem StartedAfter.append {heard : List (LivenessRecord Nat)}
    (h : StartedAfter window inputs heard) (more : List (Nat × WatchdogInput)) :
  StartedAfter window (inputs ++ more) heard
  := by
  obtain ⟨before, now, after, rfl, hstopped, hheard⟩ := h
  use before, now, after ++ more
  simp [hstopped, hheard]

/-- What has been published before a start has been published in the end. -/
theorem StartedAfter.isPrefix {heard : List (LivenessRecord Nat)}
    (h : StartedAfter window inputs heard) :
  heard <+: records ((ofWindow window).run inputs).2
  := by
  obtain ⟨before, now, after, rfl, -, rfl⟩ := h
  rw [run_append, records_append]
  apply List.prefix_append

/-- The last input is the start, or it was made before. -/
theorem startedAfter_append_singleton {now : Nat} {x : WatchdogInput}
    {heard : List (LivenessRecord Nat)} :
  StartedAfter window (inputs ++ [(now, x)]) heard
    ↔ (x = .start ∧ ((ofWindow window).run inputs).1.running = none
        ∧ records ((ofWindow window).run inputs).2 = heard)
      ∨ StartedAfter window inputs heard
  := by
  constructor
  · rintro ⟨before, then_, after, heq, hstopped, hheard⟩
    obtain rfl | ⟨after, last, rfl⟩ := after.eq_nil_or_concat'
    · left
      obtain ⟨rfl, hlast⟩ := List.append_inj' heq rfl
      obtain ⟨_, rfl⟩ := Prod.mk.inj (List.singleton_inj.mp hlast)
      use rfl, hstopped
    · right
      rw [← List.cons_append, ← List.append_assoc] at heq
      obtain ⟨rfl, _⟩ := List.append_inj' heq rfl
      use before, then_, after
  · rintro (⟨rfl, hstopped, hheard⟩ | h)
    · use inputs, now, []
    · apply h.append

end

/-! ### Whole runs -/

theorem run_append_singleton (w : Watchdog) (inputs : List (Nat × WatchdogInput)) (now : Nat)
    (x : WatchdogInput) :
  w.run (inputs ++ [(now, x)])
    = (((w.run inputs).1.step now x).1, (w.run inputs).2 ++ ((w.run inputs).1.step now x).2)
  := by
  rw [run_append, run_cons, run, List.append_nil]

/-- No record says that nothing is known. -/
theorem ne_connecting_of_mem_records (w : Watchdog) (inputs : List (Nat × WatchdogInput)) :
  ∀ r ∈ records (w.run inputs).2, r.state ≠ .connecting
  := by
  induction inputs generalizing w with
  | nil => nofun
  | cons input rest ih =>
      obtain ⟨now, x⟩ := input
      intro r hr
      rw [run_cons, records_append] at hr
      obtain hr | hr := List.mem_append.mp hr
      · obtain ⟨_, _, hnone, _⟩ | ⟨_, hnone, _⟩ | ⟨_, hone, _, hknown⟩ := w.step_records_cases now x
        · rw [hnone] at hr
          nomatch hr
        · rw [hnone] at hr
          nomatch hr
        · rw [hone] at hr
          rw [List.mem_singleton.mp hr]
          apply hknown
      · apply ih _ r hr

/-- What a listener believes in is that nothing is known only before the first record. -/
theorem believed_ne_connecting_iff (w : Watchdog) (inputs : List (Nat × WatchdogInput)) :
  believed (records (w.run inputs).2) ≠ .connecting ↔ records (w.run inputs).2 ≠ []
  := by
  have hknown := w.ne_connecting_of_mem_records inputs
  obtain heq | ⟨front, r, heq⟩ := (records (w.run inputs).2).eq_nil_or_concat'
  · rw [heq]
    simp [believed]
  · rw [heq] at hknown ⊢
    rw [believed_append_singleton]
    simp [hknown r]

/-- A listener is wrong exactly when the watchdog has been started again since the last record. -/
theorem believed_ne_iff (window : Nat) (inputs : List (Nat × WatchdogInput)) :
  believed (records ((ofWindow window).run inputs).2)
      ≠ ((ofWindow window).run inputs).1.record.state
    ↔ records ((ofWindow window).run inputs).2 ≠ []
      ∧ StartedAfter window inputs (records ((ofWindow window).run inputs).2)
  := by
  induction inputs using List.reverseRecOn with
  | nil => simp [run, records, believed, ofWindow, LivenessRecord.initial]
  | append_singleton inputs input ih =>
      obtain ⟨now, x⟩ := input
      have hforgets := (ofWindow window).believed_ne_connecting_iff inputs
      rw [run_append_singleton, records_append, startedAfter_append_singleton]
      obtain ⟨rfl, hstopped, hnone, hstate⟩ | ⟨hother, hnone, hstate⟩ | ⟨hother, hone, _, _⟩ :=
        ((ofWindow window).run inputs).1.step_records_cases now x
      · -- the watchdog forgets
        rw [hnone, hstate, List.append_nil, hforgets]
        simp [hstopped]
      · rw [hnone, hstate, List.append_nil, ih]
        grind
      · -- the record that is new was not there at any start
        rw [hone, believed_append_singleton]
        constructor
        · intro h
          apply absurd rfl h
        · rintro ⟨_, ⟨rfl, _⟩ | hbefore⟩
          · apply absurd rfl hother
          · have hlength := hbefore.isPrefix.length_le
            rw [List.length_append, List.length_singleton] at hlength
            omega

/-- A record repeats the state of the one before it only if the watchdog was started in
between. -/
theorem startedAfter_of_repeats (window : Nat) (inputs : List (Nat × WatchdogInput))
    {front back : List (LivenessRecord Nat)} {r r' : LivenessRecord Nat}
    (h : records ((ofWindow window).run inputs).2 = front ++ r :: r' :: back)
    (hsame : r'.state = r.state) :
  StartedAfter window inputs (front ++ [r])
  := by
  induction inputs using List.reverseRecOn generalizing back with
  | nil => simp [run, records] at h
  | append_singleton inputs input ih =>
      obtain ⟨now, x⟩ := input
      rw [run_append_singleton, records_append] at h
      obtain ⟨_, _, hnone, _⟩ | ⟨_, hnone, _⟩ | ⟨_, hone, hchanged, _⟩ :=
        ((ofWindow window).run inputs).1.step_records_cases now x
      · rw [hnone, List.append_nil] at h
        apply (ih h).append
      · rw [hnone, List.append_nil] at h
        apply (ih h).append
      · rw [hone] at h
        obtain rfl | ⟨back, last, rfl⟩ := back.eq_nil_or_concat'
        · -- the second record is the new one, so the listener was wrong before it
          have hsplit : front ++ [r, r'] = (front ++ [r]) ++ [r'] := by simp
          rw [hsplit] at h
          obtain ⟨hheard, hlast⟩ := List.append_inj' h rfl
          have hwrong := believed_ne_iff window inputs
          rw [hheard, believed_append_singleton] at hwrong
          obtain ⟨_, hstarted⟩ := hwrong.mp (by grind)
          apply hstarted.append
        · have hsplit : front ++ r :: r' :: (back ++ [last])
              = (front ++ r :: r' :: back) ++ [last] := by simp
          rw [hsplit] at h
          obtain ⟨hheard, _⟩ := List.append_inj' h rfl
          apply (ih hheard).append

/-- In every run, a listener is wrong exactly while the watchdog has been started again since the
last record, and a record repeats the state of the one before it only if the watchdog was started
in between. -/
theorem listener_wrong_iff (window : Nat) (inputs : List (Nat × WatchdogInput)) :
  let heard := records ((ofWindow window).run inputs).2
  (believed heard ≠ ((ofWindow window).run inputs).1.record.state
      ↔ heard ≠ [] ∧ StartedAfter window inputs heard)
    ∧ ∀ front r r' back, heard = front ++ r :: r' :: back → r'.state = r.state →
      StartedAfter window inputs (front ++ [r])
  := by
  intro heard
  constructor
  · apply believed_ne_iff
  · intro front r r' back h hsame
    apply startedAfter_of_repeats window inputs h hsame

/-- A watchdog that is started again after a heartbeat. -/
def restartedRun : List (Nat × WatchdogInput) :=
  [(0, .start), (1, .beat ⟨.alive, none⟩), (2, .stop), (3, .start)]

/-- The watchdog knows nothing, the listener believes that the backend is connected, and hears that
again after the next heartbeat. -/
theorem listener_wrong_restartedRun :
  ((ofWindow 5000).run restartedRun).1.record.state = .connecting
    ∧ believed (records ((ofWindow 5000).run restartedRun).2) = .connected
    ∧ records ((ofWindow 5000).run (restartedRun ++ [(4, .beat ⟨.alive, none⟩)])).2
      = [⟨.connected, some 1, none⟩, ⟨.connected, some 4, none⟩]
  := by
  decide

end Watchdog

end Greenhouse
