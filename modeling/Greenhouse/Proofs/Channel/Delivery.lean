import Mathlib.Data.List.Sort
import Greenhouse.Proofs.Channel.Submission

/-!
# Delivery of commands

A supervisor that has taken the text of a command holds it until it has written it or has lost its
session.  So whoever waits for an answer waits for a session that still lasts.  A supervisor that a
`stop` waits for may be writing a text while a new one writes those that are given later: then the
text has been overtaken.  The texts of all sessions together are in the order of the commands exactly
when none is overtaken, and none is as long as supervisors do not overlap.
-/

namespace Greenhouse

namespace Delivery

variable {d e : Delivery} {g : Given} {f : Outgoing} {id : Nat}

/-! ### Texts that are waiting -/

/-- What a supervisor holds after an input, it held before, unless it is new. -/
theorem Numbered.held_of_held_step (h : d.Numbered) (hg : g ∈ d.given) (now : Nat)
    (x : DeliveryInput) (hheld : g.frame ∈ (d.step now x).channel.held id) :
  g.frame ∈ d.channel.held id
  := by
  have hmem {y : ChannelInput} (hheld : g.frame ∈ (d.channel.step now y).1.held id) :
      g.frame ∈ d.channel.held id := by
    apply ((h.channel.transit now y).mem_held hheld).resolve_right
    rintro ⟨_, hticket⟩
    apply Nat.ne_of_lt (h.fresh g hg) hticket
  cases x with
  | drive x other => exact hmem hheld
  | submit command =>
      rw [step_submit] at hheld
      exact hmem hheld

theorem mem_given_step (hg : g ∈ d.given) (now : Nat) (x : DeliveryInput) :
  g ∈ (d.step now x).given
  := by
  cases x with
  | drive x other => exact hg
  | submit command =>
      rw [step_submit]
      exact List.mem_append_left _ hg

theorem mem_given_of_prefix (delay : Nat) {earlier inputs : List (Nat × DeliveryInput)}
    (hbegins : earlier <+: inputs) (hg : g ∈ (after delay earlier).given) :
  g ∈ (after delay inputs).given
  := by
  obtain ⟨later, rfl⟩ := hbegins
  induction later using List.reverseRecOn with
  | nil => rwa [List.append_nil]
  | append_singleton later x ih =>
      rw [← List.append_assoc, after_append]
      apply mem_given_step ih

/-- A text that is held has been held by the same supervisor since it was given. -/
theorem held_of_prefix (delay : Nat) {earlier inputs : List (Nat × DeliveryInput)}
    (hbegins : earlier <+: inputs) (hg : g ∈ (after delay earlier).given)
    (hheld : g.frame ∈ (after delay inputs).channel.held id) :
  g.frame ∈ (after delay earlier).channel.held id
  := by
  obtain ⟨later, rfl⟩ := hbegins
  induction later using List.reverseRecOn with
  | nil => rwa [List.append_nil] at hheld
  | append_singleton later x ih =>
      rw [← List.append_assoc, after_append] at hheld
      apply ih
      apply (kept_after delay _).1.held_of_held_step _ x.1 x.2 hheld
      apply mem_given_of_prefix delay (List.prefix_append _ _) hg

/-! ### The order of all texts -/

/-- One supervisor at most has not ended, and what has been written and what it holds is in the
order in which it was given. -/
def InLine (d : Delivery) : Prop :=
  ∃ id, (∀ other ≠ id, d.channel.phase other = .ended)
    ∧ (d.frames ++ d.channel.held id).Sublist (d.given.map Given.frame)

theorem inLine_nil (delay : Nat) :
  (after delay []).InLine
  := ⟨0, fun _ _ => rfl, List.Sublist.refl _⟩

/-- What one input does to the texts, when one supervisor at most has not ended. -/
theorem inLine_of_transit {x : ChannelInput} {written : List (Nat × Outgoing)}
    {answers : List (Nat × Except ChannelError Unit)}
    (htransit : d.channel.Transit x e.channel written answers)
    (hended : ∀ other ≠ id, d.channel.phase other = .ended)
    (hended' : ∀ other ≠ id, e.channel.phase other = .ended)
    (hline : (d.frames ++ d.channel.held id).Sublist (d.given.map Given.frame))
    (hwritten : e.written = d.written ++ written) {more : List Given}
    (hgiven : e.given = d.given ++ more)
    (hmore : ∀ text, x = .send text → more.map Given.frame = [⟨d.channel.fresh, text⟩]) :
  e.InLine
  := by
  have hnone {other : Nat} (hother : other ≠ id) : d.channel.held other = [] :=
    Channel.held_of_ended (hended other hother)
  have hnone' {other : Nat} (hother : other ≠ id) : e.channel.held other = [] :=
    Channel.held_of_ended (hended' other hother)
  have hold : (d.frames ++ d.channel.held id).Sublist (e.given.map Given.frame) := by
    rw [hgiven, List.map_append]
    apply hline.trans (List.sublist_append_left _ _)
  use id, hended'
  rw [frames, hwritten, List.map_append]
  cases htransit with
  | still other held | refused held =>
      rw [held, List.map_nil, List.append_nil]
      apply hold
  | taken taker own others =>
      have heq : taker = id := by
        by_contra hne
        rw [hnone' hne] at own
        exact absurd own.symm (List.append_ne_nil_of_right_ne_nil _ (List.cons_ne_nil _ _))
      rw [← heq] at hline ⊢
      rw [own, hgiven, List.map_append, hmore _ rfl, List.map_nil, List.append_nil,
        ← List.append_assoc]
      apply hline.append_right
  | @wrote _ _ writer frame other own others =>
      have heq : writer = id := by
        by_contra hne
        rw [hnone hne] at own
        nomatch own
      rw [← heq] at hold ⊢
      rw [own] at hold
      simpa [frames] using hold
  | @dropped _ _ loser other own others =>
      rw [List.map_nil, List.append_nil]
      by_cases heq : loser = id
      · rw [← heq, own, List.append_nil]
        apply (List.sublist_append_left _ _).trans hold
      · rw [others id (Ne.symm heq)]
        apply hold

/-- Unless a supervisor is started while a `stop` waits for another one, one at most has not
ended. -/
theorem Numbered.exists_ended (h : d.Numbered) (now : Nat) {x : ChannelInput}
    (hx : x = .connect → d.channel.stopping = [])
    (hended : ∀ other ≠ id, d.channel.phase other = .ended) :
  ∃ id', (∀ other ≠ id', d.channel.phase other = .ended)
    ∧ (∀ other ≠ id', (d.channel.step now x).1.phase other = .ended)
    ∧ (d.channel.held id').Sublist (d.channel.held id)
  := by
  obtain hlive | ⟨hconnect, hvacant, hspawn⟩ := (d.channel.move_step now x).live_or_spawn
  · use id, hended
    refine ⟨?_, List.Sublist.refl _⟩
    intro other hother
    by_contra hne
    exact hlive other hne (hended other hother)
  · have hall (other : Nat) : d.channel.phase other = .ended := by
      by_contra hne
      obtain hcurrent | hstopping := h.channel.live other hne
      · exact hne (hvacant other hcurrent)
      · rw [hx hconnect] at hstopping
        nomatch hstopping
    use d.channel.fresh
    use fun other _ => hall other
    constructor
    · intro other hother
      rw [hspawn, d.channel.phase_spawn h.channel.ids, if_neg hother, hall]
    · rw [Channel.held_of_ended (hall _)]
      apply List.nil_sublist

theorem InLine.step (h : d.InLine) (hnumbered : d.Numbered) (now : Nat) (x : DeliveryInput)
    (hx : ∀ other, x = .drive .connect other → d.channel.stopping = []) :
  (d.step now x).InLine
  := by
  obtain ⟨id, hended, hline⟩ := h
  cases x with
  | drive x other =>
      obtain ⟨id', hended, hended', hheld⟩ := hnumbered.exists_ended now (x := x) (by
        rintro rfl
        apply hx other rfl) hended
      have hline' := ((List.Sublist.refl d.frames).append hheld).trans hline
      refine inLine_of_transit (hnumbered.channel.transit now x) hended hended' hline' rfl
        (List.append_nil _).symm ?_
      intro text heq
      exact absurd heq (other text)
  | submit command =>
      have htransit := hnumbered.channel.transit now (.send command.toWire)
      obtain ⟨id', hended, hended', hheld⟩ :=
        hnumbered.exists_ended now (x := .send command.toWire) nofun hended
      have hline' := ((List.Sublist.refl d.frames).append hheld).trans hline
      rw [step_submit]
      refine inLine_of_transit htransit hended hended' hline' rfl rfl ?_
      intro text heq
      obtain rfl := ChannelInput.send.inj heq
      rfl

theorem inLine_after (delay : Nat) {inputs : List (Nat × DeliveryInput)}
    (h : ∀ earlier now other, earlier ++ [(now, .drive .connect other)] <+: inputs →
      (after delay earlier).channel.stopping = []) :
  (after delay inputs).InLine
  := by
  apply Channel.run_induction inputs
  · apply inLine_nil
  · intro earlier now x hbegins ih
    rw [after_append]
    apply ih.step (kept_after delay earlier).1
    rintro other rfl
    apply h earlier now other hbegins

/-! ### Texts that are overtaken -/

/-- The text that a supervisor has just written has been overtaken: another supervisor has written
one before that was given later. -/
inductive Overtaken (d : Delivery) : ChannelInput → Prop
  | written {id : Nat} {frame : Outgoing} {queue : List Outgoing} {w : Nat × Outgoing}
    (phase : d.channel.phase id = .writing frame queue) (before : w ∈ d.written) (ne : w.1 ≠ id)
    (later : frame.ticket < w.2.ticket) : Overtaken d (.written id true)

/-- The numbers of the texts that have been written increase. -/
def Ascends (d : Delivery) : Prop := d.frames.Pairwise (·.ticket < ·.ticket)

theorem Numbered.pairwise_given (h : d.Numbered) :
  (d.given.map Given.frame).Pairwise (·.ticket < ·.ticket)
  := List.pairwise_map.mpr (List.pairwise_map.mp h.ticket)

/-- Texts have been written in the order in which they were given when their numbers increase. -/
theorem Kept.sublist_iff_ascends (h : d.Kept) (hnumbered : d.Numbered) :
  d.frames.Sublist (d.given.map Given.frame) ↔ d.Ascends
  := by
  constructor
  · exact fun hsublist => List.Pairwise.sublist hsublist hnumbered.pairwise_given
  · intro hascends
    have hsubset : d.frames ⊆ d.given.map Given.frame := by
      intro f hf
      obtain ⟨w, hw, rfl⟩ := List.mem_map.mp hf
      obtain ⟨g, hg, hframe⟩ := h.exists_given_of_written hw
      rw [← hframe]
      apply List.mem_map_of_mem hg
    have hantisymm : Std.Antisymm fun f f' : Outgoing => f.ticket < f'.ticket :=
      ⟨fun f f' hlt hgt => absurd hgt (Nat.lt_asymm hlt)⟩
    apply List.sublist_of_subperm_of_pairwise _ hascends hnumbered.pairwise_given
    apply List.subperm_of_subset (hascends.imp _) hsubset
    rintro f _ hlt rfl
    apply Nat.lt_irrefl _ hlt

/-- A supervisor has written its texts before those that it holds were given. -/
theorem Kept.ticket_lt_of_held (h : d.Kept) (hnumbered : d.Numbered) (hf : f ∈ d.channel.held id)
    {w : Nat × Outgoing} (hw : w ∈ d.written) (hown : w.1 = id) :
  w.2.ticket < f.ticket
  := by
  have hascends := List.Pairwise.sublist (h.order id) hnumbered.pairwise_given
  apply (List.pairwise_append.mp hascends).2.2 _ _ _ hf
  apply List.mem_map_of_mem
  simpa [hown] using hw

/-- A text that is held has not been written. -/
theorem Kept.ticket_ne_of_held (h : d.Kept) (hf : f ∈ d.channel.held id) {w : Nat × Outgoing}
    (hw : w ∈ d.written) :
  w.2.ticket ≠ f.ticket
  := by
  have hunwritten := List.filter_eq_nil_iff.mp (h.held id f hf).1 w hw
  simpa using hunwritten

theorem frames_drive (d : Delivery) (now : Nat) (x : ChannelInput) (other : ∀ text, x ≠ .send text) :
  (d.step now (.drive x other)).frames
    = d.frames ++ (ChannelEffect.written (d.channel.step now x).2).map Prod.snd
  := List.map_append

theorem frames_submit (d : Delivery) (now : Nat) (command : Command) :
  (d.step now (.submit command)).frames = d.frames
  := by
  have hwritten : ChannelEffect.written (d.channel.step now (.send command.toWire)).2 = [] := by
    apply (d.channel.move_step now _).written_cases.resolve_right
    rintro ⟨_, _, _, hx, _⟩
    nomatch hx
  rw [step_submit, frames, hear, hwritten, List.append_nil]
  rfl

/-- Numbers go on to increase unless a text has been overtaken. -/
theorem Kept.ascends_drive (h : d.Kept) (hnumbered : d.Numbered) (now : Nat) (x : ChannelInput)
    (other : ∀ text, x ≠ .send text) :
  (d.step now (.drive x other)).Ascends ↔ d.Ascends ∧ ¬ d.Overtaken x
  := by
  rw [Ascends, frames_drive]
  obtain hnone | ⟨id, frame, queue, rfl, hphase, hwritten⟩ :=
    (d.channel.move_step now x).written_cases
  · rw [hnone, List.map_nil, List.append_nil]
    refine ⟨fun hascends => ⟨hascends, ?_⟩, And.left⟩
    rintro ⟨hphase, _⟩
    simp only [Channel.step, hphase] at hnone
    cases hnone
  · rw [hwritten, List.map_singleton, List.pairwise_append]
    have hheld : frame ∈ d.channel.held id := by
      rw [Channel.held, hphase]
      apply List.mem_cons_self
    constructor
    · rintro ⟨hascends, _, hlast⟩
      use hascends
      rintro ⟨hphase', hw, _, hlater⟩
      obtain ⟨rfl, rfl⟩ := Phase.writing.inj (hphase.symm.trans hphase')
      apply Nat.lt_asymm hlater
      apply hlast _ (List.mem_map_of_mem hw) _ (List.mem_singleton.mpr rfl)
    · rintro ⟨hascends, hnone⟩
      use hascends, List.pairwise_singleton _ _
      intro f hf _ heq
      obtain ⟨w, hw, rfl⟩ := List.mem_map.mp hf
      rw [List.mem_singleton.mp heq]
      by_cases hown : w.1 = id
      · apply h.ticket_lt_of_held hnumbered hheld hw hown
      · apply (Nat.lt_or_gt_of_ne (h.ticket_ne_of_held hheld hw)).resolve_right
        exact fun hlater => hnone (.written hphase hw hown hlater)

theorem ascends_after_iff (delay : Nat) (inputs : List (Nat × DeliveryInput)) :
  (after delay inputs).Ascends
    ↔ ∀ earlier now x other, earlier ++ [(now, .drive x other)] <+: inputs →
      ¬ (after delay earlier).Overtaken x
  := by
  induction inputs using List.reverseRecOn with
  | nil =>
      apply iff_of_true List.Pairwise.nil
      intro earlier now x other hbegins
      simp at hbegins
  | append_singleton inputs input ih =>
      obtain ⟨hnumbered, hkept⟩ := kept_after delay inputs
      obtain ⟨now, x⟩ := input
      rw [after_append]
      cases x with
      | submit command =>
          rw [Ascends, frames_submit]
          apply ih.trans
          constructor
          · intro h earlier now' x other hbegins
            obtain heq | hbegins := List.prefix_concat_iff.mp hbegins
            · cases (List.append_inj' heq rfl).2
            · apply h earlier now' x other hbegins
          · intro h earlier now' x other hbegins
            apply h earlier now' x other (hbegins.trans (List.prefix_append _ _))
      | drive x other =>
          rw [hkept.ascends_drive hnumbered, ih]
          constructor
          · rintro ⟨h, hlast⟩ earlier now' x' other' hbegins
            obtain heq | hbegins := List.prefix_concat_iff.mp hbegins
            · obtain ⟨rfl, hsame⟩ := List.append_inj' heq rfl
              cases hsame
              apply hlast
            · apply h earlier now' x' other' hbegins
          · intro h
            constructor
            · intro earlier now' x' other' hbegins
              apply h earlier now' x' other' (hbegins.trans (List.prefix_append _ _))
            · apply h inputs now x other (List.prefix_refl _)

/-! ### Delivery -/

/-- What one learns who has given a command, and what has become of its text. -/
inductive Sequel (delay : Nat) (inputs : List (Nat × DeliveryInput)) (g : Given) : Prop
  /-- The channel was not open: the text has not been taken, and never is written. -/
  | refused (taken : g.taken = false)
    (outcomes : (after delay inputs).outcomes g = [.error .notOpen])
    (unwritten : g.frame ∉ (after delay inputs).frames)
  /-- The text has been written once. -/
  | written (taken : g.taken = true)
    (outcomes : (after delay inputs).outcomes g = [.ok g.submission.sequence])
    (once : (after delay inputs).frames.count g.frame = 1)
  /-- The channel went away before the text was written: it never is. -/
  | dropped (taken : g.taken = true)
    (outcomes : (after delay inputs).outcomes g = [.error .closed])
    (unwritten : g.frame ∉ (after delay inputs).frames)
  /-- There is no answer, and the supervisor that has taken the text has held it ever since. -/
  | waiting (id : Nat) (taken : g.taken = true) (outcomes : (after delay inputs).outcomes g = [])
    (unwritten : g.frame ∉ (after delay inputs).frames)
    (held : ∀ earlier, earlier <+: inputs → g ∈ (after delay earlier).given →
      g.frame ∈ (after delay earlier).channel.held id)

theorem count_frames (d : Delivery) (g : Given) :
  d.frames.count g.frame = (d.writes g.ticket).countP fun w => w.2 == g.frame
  := by
  rw [frames, List.count, List.countP_map, writes, List.countP_filter]
  apply List.countP_congr
  intro w _
  simp only [Function.comp_apply, Bool.and_eq_true, decide_eq_true_eq, beq_iff_eq]
  constructor
  · intro heq
    use heq
    rw [heq]
    rfl
  · exact And.left

theorem Fate.count_frames_le_one (h : d.Fate g) :
  d.frames.count g.frame ≤ 1
  := by
  rw [count_frames]
  cases h with
  | refused _ writes | waiting _ _ _ writes | dropped _ writes =>
      rw [writes]
      apply Nat.zero_le
  | written _ _ writes =>
      rw [writes]
      apply List.countP_le_length

theorem not_mem_frames (h : d.writes g.ticket = []) :
  g.frame ∉ d.frames
  := by
  rw [← List.count_eq_zero, count_frames, h]
  rfl

theorem Kept.nodup_frames (h : d.Kept) :
  d.frames.Nodup
  := by
  rw [List.nodup_iff_count_le_one]
  intro f
  by_cases hf : f ∈ d.frames
  · obtain ⟨w, hw, rfl⟩ := List.mem_map.mp hf
    obtain ⟨g, hg, hframe⟩ := h.exists_given_of_written hw
    rw [← hframe]
    apply (h.fate g hg).count_frames_le_one
  · rw [List.count_eq_zero.mpr hf]
    apply Nat.zero_le

theorem Fate.sequel (delay : Nat) {inputs : List (Nat × DeliveryInput)}
    (h : (after delay inputs).Fate g) :
  Sequel delay inputs g
  := by
  have houtcomes {results : List (Nat × Except ChannelError Unit)}
      (hlearnt : (after delay inputs).learnt g.ticket = results) :
      (after delay inputs).outcomes g = results.map fun a => g.submission.outcome a.2 := by
    rw [← hlearnt]
    rfl
  cases h with
  | refused taken writes learnt =>
      exact .refused taken (houtcomes learnt) (not_mem_frames writes)
  | dropped taken writes learnt =>
      exact .dropped taken (houtcomes learnt) (not_mem_frames writes)
  | written id taken writes learnt =>
      apply Sequel.written taken (houtcomes learnt)
      rw [count_frames, writes]
      simp
  | waiting id taken held writes learnt =>
      apply Sequel.waiting id taken (houtcomes learnt) (not_mem_frames writes)
      intro earlier hbegins hg
      apply held_of_prefix delay hbegins hg held

/-- In every run, commands are numbered as they are given.  Every text that is written is that of a
command, none is written twice, and each supervisor writes them in the order in which they were
given; so do all supervisors together exactly when no text is overtaken, and none is if `connect` is
never called while a `stop` is waiting.  Whoever has given a command learns its number exactly when
its text has been written, learns otherwise why it never is, and waits only as long as the session
lasts in which it was given. -/
theorem deliveries (delay : Nat) (inputs : List (Nat × DeliveryInput)) :
  ((after delay inputs).given.map Given.command
      = inputs.filterMap fun input => input.2.command?)
    ∧ ((after delay inputs).given.map (·.submission.sequence)
      = List.range' 1 (after delay inputs).given.length)
    ∧ (after delay inputs).frames.Nodup
    ∧ (∀ id, ((after delay inputs).framesBy id).Sublist ((after delay inputs).given.map Given.frame))
    ∧ ((after delay inputs).frames.Sublist ((after delay inputs).given.map Given.frame)
      ↔ ∀ earlier now x other, earlier ++ [(now, .drive x other)] <+: inputs →
        ¬ (after delay earlier).Overtaken x)
    ∧ ((∀ earlier now other, earlier ++ [(now, .drive .connect other)] <+: inputs →
        (after delay earlier).channel.stopping = []) →
      (after delay inputs).frames.Sublist ((after delay inputs).given.map Given.frame))
    ∧ ∀ g ∈ (after delay inputs).given, Sequel delay inputs g
  := by
  obtain ⟨hnumbered, hkept⟩ := kept_after delay inputs
  use commands_after delay inputs, hnumbered.sequence
  use hkept.nodup_frames
  refine ⟨?_, ?_, ?_, ?_⟩
  · intro id
    apply (List.sublist_append_left _ _).trans (hkept.order id)
  · apply (hkept.sublist_iff_ascends hnumbered).trans (ascends_after_iff delay inputs)
  · intro h
    obtain ⟨id, _, hline⟩ := inLine_after delay h
    apply (List.sublist_append_left _ _).trans hline
  · intro g hg
    apply (hkept.fate g hg).sequel

/-- A command before the channel is open, and two in a session that ends after the first of them has
been written. -/
example :
    let run := after 1000 [(0, .submit .ping), (0, .drive .connect nofun),
      (0, .drive (.start 1) nofun), (1, .drive (.dialed 1 true) nofun), (2, .submit .ping),
      (2, .submit .ping), (2, .drive (.take 1) nofun), (3, .drive (.written 1 true) nofun),
      (4, .drive (.lost 1) nofun)]
    run.given.map run.outcomes = [[.error .notOpen], [.ok 2], [.error .closed]] := by
  decide +kernel

/-- While a text is being written, `stop` is called, and then `connect`; the new supervisor opens a
session and writes the next text before the first one has been written. -/
def overtaking : List (Nat × DeliveryInput) :=
  [(0, .drive .connect nofun), (0, .drive (.start 0) nofun), (1, .drive (.dialed 0 true) nofun),
    (2, .submit .ping), (2, .drive (.take 0) nofun), (3, .drive .stop nofun),
    (3, .drive .connect nofun), (3, .drive (.start 2) nofun), (4, .drive (.dialed 2 true) nofun),
    (5, .submit .ping), (5, .drive (.take 2) nofun), (6, .drive (.written 2 true) nofun),
    (7, .drive (.written 0 true) nofun)]

/-- Both commands are answered with their numbers, and have been written in the wrong order. -/
theorem not_inOrder_overtaking :
  let run := after 1000 overtaking
  run.given.map run.outcomes = [[.ok 1], [.ok 2]]
    ∧ run.frames.map Outgoing.ticket = [3, 1]
    ∧ run.given.map Given.ticket = [1, 3]
    ∧ ¬ run.frames.Sublist (run.given.map Given.frame)
  := by
  decide +kernel

end Delivery

end Greenhouse
