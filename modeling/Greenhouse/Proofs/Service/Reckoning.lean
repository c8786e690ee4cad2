import Greenhouse.Proofs.Channel.Submission
import Greenhouse.Proofs.Service.Tally

/-!
# What the counters say

Whoever watches a bridge can count for themselves what the counters count: the events that are
published, the texts that arrive, the signals of the channel, and the commands that are given and
answered.  They come to the same counts (`Service.balanced_run`) but for one.  An attempt to open
the channel again is counted whenever it is lost, or could not be opened.  Listeners hear that the
channel is closed each time, unless it counts as closed already.  This happens when one `stop` is
called while another one waits: it has nobody to wait for, and closes the channel although its
supervisor is at work.

For commands the argument runs over the answers of the channel.  The dispatcher waits for exactly
those commands that have not been answered (`Dispatcher.Accounts`), because each is given under a
number that the channel has not given before (`Channel.Issued`).
-/

namespace Greenhouse

/-! ### What becomes of commands -/

/-- One element of a list that has no element twice begins to satisfy a predicate, or does not. -/
theorem countP_of_nodup {α : Type} {l : List α} (hl : l.Nodup) {a : α} (ha : a ∈ l)
    {p q : α → Bool} (hsame : ∀ b ∈ l, b ≠ a → q b = p b) (hp : p a = false) :
  l.countP q = l.countP p + if q a then 1 else 0
  := by
  obtain ⟨before, after, rfl⟩ := List.append_of_mem ha
  obtain ⟨_, hafter, hdisjoint⟩ := List.nodup_append.mp hl
  have hbefore : before.countP q = before.countP p := by
    apply List.countP_congr
    intro b hb
    rw [hsame b (List.mem_append_left _ hb) (hdisjoint b hb a List.mem_cons_self)]
  have hrest : after.countP q = after.countP p := by
    apply List.countP_congr
    intro b hb
    rw [hsame b (List.mem_append_right _ (List.mem_cons_of_mem a hb))]
    rintro rfl
    apply (List.nodup_cons.mp hafter).1 hb
  simp only [List.countP_append, List.countP_cons, hbefore, hrest, hp]
  simp only [Bool.false_eq_true, if_false]
  omega

/-- What one has learnt who has given a command. -/
def Submission.learnt (g : Submission) (answers : List (Nat × Except ChannelError Unit)) :
    Option (Except ChannelError Nat) :=
  (answers.find? fun a => a.1 = g.ticket).map fun a => g.outcome a.2

/-- Whether a command has been sent, as far as one has learnt. -/
def Submission.isSent (g : Submission) (answers : List (Nat × Except ChannelError Unit)) : Bool :=
  (g.learnt answers).any Except.isOk

/-- Whether a command has been dropped, as far as one has learnt. -/
def Submission.isDropped (g : Submission) (answers : List (Nat × Except ChannelError Unit)) :
    Bool :=
  (g.learnt answers).any fun r => !r.isOk

section
variable {g : Submission} {answers : List (Nat × Except ChannelError Unit)} {ticket : Nat}
  {result : Except ChannelError Unit}

theorem Submission.learnt_append_of_ne (h : g.ticket ≠ ticket) :
  g.learnt (answers ++ [(ticket, result)]) = g.learnt answers
  := by
  rw [learnt, List.find?_append]
  simp [learnt, h.symm]

theorem Submission.learnt_append_of_some (h : g.learnt answers ≠ none) :
  g.learnt (answers ++ [(ticket, result)]) = g.learnt answers
  := by
  rw [learnt, List.find?_append]
  cases hfind : answers.find? fun a => a.1 = g.ticket with
  | none =>
      rw [learnt, hfind] at h
      contradiction
  | some a =>
      rw [learnt, hfind]
      rfl

theorem Submission.learnt_append_of_none (h : g.learnt answers = none) :
  g.learnt (answers ++ [(g.ticket, result)]) = some (g.outcome result)
  := by
  rw [learnt, List.find?_append, Option.map_eq_none_iff.mp h]
  simp

end

/-- Whoever has learnt what became of a command knows that it has been sent, or dropped. -/
theorem Submission.countP_isSent_add_countP_isDropped (given : List Submission)
    (answers : List (Nat × Except ChannelError Unit)) :
  given.countP (fun g => g.isSent answers) + given.countP (fun g => g.isDropped answers)
    = given.countP fun g => (g.learnt answers).isSome
  := by
  induction given with
  | nil => rfl
  | cons g given ih =>
      have hone : (if g.isSent answers then 1 else 0) + (if g.isDropped answers then 1 else 0)
          = if (g.learnt answers).isSome then 1 else 0 := by
        rw [isSent, isDropped]
        cases g.learnt answers with
        | none => rfl
        | some result => cases result <;> rfl
      rw [List.countP_cons, List.countP_cons, List.countP_cons]
      omega

/-- The dispatcher waits for the answers that have not come, and those that have come are
counted. -/
structure Dispatcher.Accounts (d : Dispatcher) (given : List Submission)
    (answers : List (Nat × Except ChannelError Unit)) (counters : List Counter) : Prop where
  waiting : d.waiting = given.filter fun g => (g.learnt answers).isNone
  distinct : (given.map Submission.ticket).Nodup
  sent : counters.count .commandsSent = given.countP fun g => g.isSent answers
  dropped : counters.count .commandsDropped = given.countP fun g => g.isDropped answers

namespace Dispatcher

variable {d : Dispatcher} {given : List Submission}
  {answers : List (Nat × Except ChannelError Unit)} {counters : List Counter}

/-- Who does not wait for an answer learns nothing from it. -/
theorem Accounts.learnt_append (h : d.Accounts given answers counters) {g : Submission}
    (hg : g ∈ given) {ticket : Nat} (hwaiting : g ∈ d.waiting → g.ticket ≠ ticket)
    (result : Except ChannelError Unit) :
  g.learnt (answers ++ [(ticket, result)]) = g.learnt answers
  := by
  by_cases hticket : g.ticket = ticket
  · apply Submission.learnt_append_of_some
    intro hnone
    apply hwaiting _ hticket
    rw [h.waiting]
    apply List.mem_filter.mpr
    use hg
    rw [hnone]
    rfl
  · apply Submission.learnt_append_of_ne hticket

section
variable {g : Submission}

theorem Accounts.learnt_of_waiting (h : d.Accounts given answers counters) (hg : g ∈ d.waiting) :
  g ∈ given ∧ g.learnt answers = none
  := by
  rw [h.waiting] at hg
  obtain ⟨hgiven, hnone⟩ := List.mem_filter.mp hg
  use hgiven
  simpa using hnone

theorem Accounts.ticket_ne (h : d.Accounts given answers counters) (hg : g ∈ given)
    {other : Submission} (hother : other ∈ given) (hne : other ≠ g) :
  other.ticket ≠ g.ticket
  := by
  intro heq
  apply hne (List.inj_on_of_nodup_map h.distinct hother hg heq)

/-- The answer that somebody waits for is one more of its kind. -/
theorem Accounts.countP_learnt (h : d.Accounts given answers counters) (hg : g ∈ d.waiting)
    (result : Except ChannelError Unit) (p : Except ChannelError Nat → Bool) :
  given.countP (fun g' => (g'.learnt (answers ++ [(g.ticket, result)])).any p)
    = given.countP (fun g' => (g'.learnt answers).any p) + if p (g.outcome result) then 1 else 0
  := by
  obtain ⟨hgiven, hnone⟩ := h.learnt_of_waiting hg
  have hlearnt : g.learnt (answers ++ [(g.ticket, result)]) = some (g.outcome result) :=
    Submission.learnt_append_of_none hnone
  have hcount := countP_of_nodup (List.Nodup.of_map _ h.distinct) hgiven
    (p := fun g' => (g'.learnt answers).any p)
    (q := fun g' => (g'.learnt (answers ++ [(g.ticket, result)])).any p)
    (fun g' hg' hne => by rw [h.learnt_append hg' (fun _ => h.ticket_ne hgiven hg' hne)])
    (by rw [hnone]; rfl)
  rw [hcount, hlearnt]
  rfl

/-- The channel answers for a command. -/
theorem Accounts.answer_of_waiting (h : d.Accounts given answers counters) (hg : g ∈ d.waiting)
    (result : Except ChannelError Unit) :
  Accounts { d with waiting := d.waiting.filter fun s => s.ticket != g.ticket } given
    (answers ++ [(g.ticket, result)]) (counters ++ Effect.counters [effectOf result])
  := by
  obtain ⟨hgiven, hnone⟩ := h.learnt_of_waiting hg
  constructor
  · rw [h.waiting, List.filter_filter]
    apply List.filter_congr
    intro g' hg'
    by_cases heq : g' = g
    · rw [heq, Submission.learnt_append_of_none hnone]
      simp
    · have hticket := h.ticket_ne hgiven hg' heq
      rw [h.learnt_append hg' fun _ => hticket]
      simp [hticket]
  · apply h.distinct
  · rw [List.count_append, h.sent]
    apply Eq.trans _ (h.countP_learnt hg result Except.isOk).symm
    cases result <;> rfl
  · rw [List.count_append, h.dropped]
    apply Eq.trans _ (h.countP_learnt hg result fun r => !r.isOk).symm
    cases result <;> rfl

end

/-- The channel answers for a text that is not a command, or has been answered. -/
theorem Accounts.answer_of_not_waiting (h : d.Accounts given answers counters) {ticket : Nat}
    (hwaiting : ∀ g ∈ d.waiting, g.ticket ≠ ticket) (result : Except ChannelError Unit) :
  d.Accounts given (answers ++ [(ticket, result)]) counters
  := by
  have hsame (g : Submission) (hg : g ∈ given) :
      g.learnt (answers ++ [(ticket, result)]) = g.learnt answers :=
    h.learnt_append hg (hwaiting g) result
  constructor
  · rw [h.waiting]
    apply List.filter_congr
    intro g hg
    rw [hsame g hg]
  · apply h.distinct
  · rw [h.sent]
    apply List.countP_congr
    intro g hg
    rw [Submission.isSent, Submission.isSent, hsame g hg]
  · rw [h.dropped]
    apply List.countP_congr
    intro g hg
    rw [Submission.isDropped, Submission.isDropped, hsame g hg]

/-- The channel answers for a text. -/
theorem Accounts.answer (h : d.Accounts given answers counters) (ticket : Nat)
    (result : Except ChannelError Unit) :
  (d.answer ticket result).1.Accounts given (answers ++ [(ticket, result)])
    (counters ++ Effect.counters (d.answer ticket result).2)
  := by
  rw [Dispatcher.answer]
  split
  · next hany =>
      obtain ⟨g, hg, heq⟩ := List.any_eq_true.mp hany
      obtain rfl : g.ticket = ticket := by simpa using heq
      apply h.answer_of_waiting hg
  · next hany =>
      rw [Effect.counters, List.filterMap_nil, List.append_nil]
      apply h.answer_of_not_waiting
      simpa using hany

/-- A command is given, under a number for which there is no answer. -/
theorem Accounts.submit (h : d.Accounts given answers counters) {after : Dispatcher}
    {g : Submission} (hafter : after.waiting = d.waiting ++ [g])
    (hnew : ∀ other ∈ given, other.ticket ≠ g.ticket) (hanswers : ∀ a ∈ answers, a.1 ≠ g.ticket) :
  after.Accounts (given ++ [g]) answers counters
  := by
  have hnone : g.learnt answers = none := by
    apply Option.map_eq_none_iff.mpr
    apply List.find?_eq_none.mpr
    simpa using hanswers
  constructor
  · rw [hafter, List.filter_append, ← h.waiting]
    simp [hnone]
  · rw [List.map_append]
    apply List.Nodup.append h.distinct (List.nodup_singleton _)
    simpa using hnew
  · rw [h.sent, List.countP_append]
    simp [Submission.isSent, hnone]
  · rw [h.dropped, List.countP_append]
    simp [Submission.isDropped, hnone]

/-- Something else is counted. -/
theorem Accounts.count (h : d.Accounts given answers counters) {more : List Counter}
    (hsent : more.count .commandsSent = 0) (hdropped : more.count .commandsDropped = 0) :
  d.Accounts given answers (counters ++ more)
  := by
  use h.waiting, h.distinct
  · rw [List.count_append, hsent]
    apply h.sent
  · rw [List.count_append, hdropped]
    apply h.dropped

end Dispatcher

namespace Bridge

open ChannelEffect

variable {b : Bridge} {given : List Submission}
  {heard : List (Nat × Except ChannelError Unit)} {counted : List Counter}

/-- The dispatcher hears of the effects of the channel, which does not count commands itself. -/
theorem accounts_absorbAll (h : b.dispatcher.Accounts given heard counted)
    {effects : List ChannelEffect}
    (heffects : ∀ k ∈ counters effects, k ≠ .commandsSent ∧ k ≠ .commandsDropped) :
  (b.absorbAll effects).1.dispatcher.Accounts given (heard ++ answers effects)
    (counted ++ Effect.counters (b.absorbAll effects).2)
  := by
  induction effects generalizing b heard counted with
  | nil => simpa [absorbAll, answers, Effect.counters] using h
  | cons effect effects ih =>
      have hrest (k : Counter) (hk : k ∈ counters effects) :
          k ≠ .commandsSent ∧ k ≠ .commandsDropped := by
        apply heffects k
        rw [counters, List.filterMap_cons]
        split
        · apply hk
        · apply List.mem_cons_of_mem _ hk
      have hhead : (b.absorb effect).1.dispatcher.Accounts given (heard ++ answers [effect])
          (counted ++ Effect.counters (b.absorb effect).2) := by
        cases effect with
        | answer ticket result => apply h.answer
        | count k =>
            obtain ⟨hsent, hdropped⟩ := heffects k List.mem_cons_self
            change b.dispatcher.Accounts given (heard ++ []) (counted ++ [k])
            rw [List.append_nil]
            use h.waiting, h.distinct
            · rw [List.count_append, List.count_cons_of_ne hsent]
              apply h.sent
            · rw [List.count_append, List.count_cons_of_ne hdropped]
              apply h.dropped
        | signal | dial | wrote | stopped =>
            change b.dispatcher.Accounts given (heard ++ []) (counted ++ [])
            rw [List.append_nil, List.append_nil]
            apply h
      have hall := ih hhead hrest
      rw [absorbAll_cons, Effect.counters_append, ← List.append_assoc]
      rw [List.append_assoc] at hall
      have hanswers : answers (effect :: effects) = answers [effect] ++ answers effects := by
        rw [← answers_append]
        rfl
      rw [hanswers]
      apply hall

end Bridge

/-- The numbers of texts that are held or have been answered have been given out. -/
structure Channel.Issued (c : Channel) (heard : List (Nat × Except ChannelError Unit)) : Prop where
  sound : c.Sound
  held : ∀ id, ∀ f ∈ c.held id, f.ticket < c.fresh
  heard : ∀ a ∈ heard, a.1 < c.fresh

/-- Every text that is sent has a new number. -/
theorem Channel.Issued.step {c : Channel} {heard : List (Nat × Except ChannelError Unit)}
    (h : c.Issued heard) (now : Nat) (x : ChannelInput) :
  (c.step now x).1.Issued (heard ++ ChannelEffect.answers (c.step now x).2)
  := by
  have hmove := c.move_step now x
  have htransit := h.sound.transit now x
  have hold {ticket : Nat} (hticket : ticket < c.fresh) : ticket < (c.step now x).1.fresh :=
    Nat.lt_of_lt_of_le hticket hmove.fresh_le
  have hnew {ticket : Nat} (hsend : ∃ text, x = .send text) (hticket : ticket = c.fresh) :
      ticket < (c.step now x).1.fresh := by
    obtain ⟨text, rfl⟩ := hsend
    rw [c.fresh_step_send, hticket]
    apply Nat.lt_succ_self
  constructor
  · apply h.sound.move hmove
  · intro id f hf
    obtain hf | ⟨hsend, hticket⟩ := htransit.mem_held hf
    · apply hold (h.held id f hf)
    · apply hnew hsend hticket
  · intro a ha
    obtain ha | ha := List.mem_append.mp ha
    · apply hold (h.heard a ha)
    · obtain ⟨id, f, hf, hticket⟩ | ⟨hsend, hticket⟩ := htransit.exists_held_of_answer ha
      · apply hold
        rw [← hticket]
        apply h.held id f hf
      · apply hnew hsend hticket

namespace Service

/-- The commands that are given in a run. -/
def given (s : Service) : List (Nat × ServiceInput) → List Submission :=
  s.gather fun s _ x => (s.submission? x).toList

section
variable (s : Service) (now : Nat) {x : ServiceInput}

theorem dispatcher_step (hx : x.drivesChannel = false) :
  (s.step now x).1.bridge.dispatcher = s.bridge.dispatcher
  := by
  cases x with
  | channel | submit => nomatch hx
  | start =>
      rw [step_start]
      split <;> rfl
  | halt =>
      simp only [step]
      split <;> rfl
  | take =>
      simp only [step]
      split
      · next signal _ _ =>
          cases signal with
          | state => rfl
          | inbound frame =>
              simp only [act, feed]
              split
              · split <;> rfl
              · rfl
              · rfl
              · rfl
      · rfl
  | pass =>
      simp only [step]
      split <;> rfl
  | beat =>
      simp only [step]
      split <;> rfl
  | reply order reply =>
      simp only [step]
      split
      · simp only
        rw [Bridge.finish_fst]
      · rfl
  | tick | order | settings => rfl

end

/-- The dispatcher keeps account of the commands that have been given and of the answers of the
channel, which gives a new number to every text. -/
structure Reckons (s : Service) (given : List Submission)
    (heard : List (Nat × Except ChannelError Unit)) (counted : List Counter) : Prop where
  accounts : s.bridge.dispatcher.Accounts given heard counted
  issued : s.bridge.channel.Issued heard
  tickets : ∀ g ∈ given, g.ticket < s.bridge.channel.fresh

/-- A command is given under a new number. -/
theorem ticket_of_submission? {s : Service} {x : ServiceInput} {g : Submission}
    (hg : s.submission? x = some g) (now : Nat) :
  g.ticket = s.bridge.channel.fresh
    ∧ s.bridge.channel.fresh < (s.step now x).1.bridge.channel.fresh
  := by
  cases x with
  | submit command =>
      obtain rfl := Option.some.inj hg
      use Delivery.ticket_send _ _
      rw [channel_step]
      apply Nat.lt_of_lt_of_eq (Nat.lt_succ_self _)
      apply (Channel.fresh_step_send _ _ _).symm
  | start | halt | channel | take | pass | beat | tick | order | reply | settings => cases hg

section
variable {s : Service} {given : List Submission} {heard : List (Nat × Except ChannelError Unit)}
  {counted : List Counter}

/-- A command is entered into the account before the channel answers for it. -/
theorem Reckons.enter (h : s.Reckons given heard counted) {b : Bridge} {x : ServiceInput}
    (hwaiting : b.dispatcher.waiting = s.bridge.dispatcher.waiting ++ (s.submission? x).toList) :
  b.dispatcher.Accounts (given ++ (s.submission? x).toList) heard counted
  := by
  cases hsubmission : s.submission? x with
  | some g =>
      obtain ⟨hnew, _⟩ := ticket_of_submission? hsubmission 0
      rw [hsubmission] at hwaiting
      apply h.accounts.submit hwaiting
      · intro other hother
        rw [hnew]
        apply Nat.ne_of_lt (h.tickets other hother)
      · intro a ha
        rw [hnew]
        apply Nat.ne_of_lt (h.issued.heard a ha)
  | none =>
      rw [hsubmission, Option.toList_none, List.append_nil] at hwaiting
      rw [Option.toList_none, List.append_nil]
      use hwaiting.trans h.accounts.waiting, h.accounts.distinct, h.accounts.sent
      apply h.accounts.dropped

theorem Reckons.accounts_step (h : s.Reckons given heard counted) (now : Nat) (x : ServiceInput) :
  (s.step now x).1.bridge.dispatcher.Accounts (given ++ (s.submission? x).toList)
    (heard ++ ChannelEffect.answers (s.channelEffects now x))
    (counted ++ Effect.counters (s.step now x).2)
  := by
  cases hx : x.drivesChannel with
  | false =>
      have hnone : s.submission? x = none := by
        cases x with
        | submit => cases hx
        | _ => rfl
      rw [hnone, s.channelEffects_eq_nil now hx, s.dispatcher_step now hx]
      simp only [Option.toList_none, List.append_nil, ChannelEffect.answers, List.filterMap_nil]
      apply h.accounts.count
      · apply s.count_step_of_not_drivesChannel now hx rfl
      · apply s.count_step_of_not_drivesChannel now hx rfl
  | true =>
      obtain ⟨b, hwaiting, hstep⟩ := s.step_eq_absorbAll now hx
      rw [hstep]
      apply Bridge.accounts_absorbAll (h.enter hwaiting)
      intro k hk
      rw [channelEffects_eq] at hk
      split at hk
      · obtain rfl | rfl | rfl := Channel.mem_counters_step hk <;> constructor <;> rintro ⟨⟩
      · cases hk

/-- The account is kept, whatever goes on. -/
theorem Reckons.step (h : s.Reckons given heard counted) (now : Nat) (x : ServiceInput) :
  (s.step now x).1.Reckons (given ++ (s.submission? x).toList)
    (heard ++ ChannelEffect.answers (s.channelEffects now x))
    (counted ++ Effect.counters (s.step now x).2)
  := by
  constructor
  · apply h.accounts_step
  · rw [channel_step, channelEffects_eq]
    split
    · apply h.issued.step
    · rw [ChannelEffect.answers, List.filterMap_nil, List.append_nil]
      apply h.issued
  · intro g hg
    obtain hg | hg := List.mem_append.mp hg
    · apply Nat.lt_of_lt_of_le (h.tickets g hg)
      rw [channel_step]
      split
      · apply (s.bridge.channel.move_step now _).fresh_le
      · apply Nat.le_refl
    · obtain ⟨hticket, hlt⟩ := ticket_of_submission? (Option.mem_toList.mp hg) now
      rw [hticket]
      apply hlt

end

theorem reckons_run (debounce window delay : Nat) (inputs : List (Nat × ServiceInput)) :
  let s := ofBridge (.unstarted debounce window delay)
  (s.run inputs).1.Reckons (s.given inputs) (ChannelEffect.answers (s.channelRun inputs).2)
    (Effect.counters (s.run inputs).2)
  := by
  intro s
  induction inputs using List.reverseRecOn with
  | nil =>
      constructor
      · exact ⟨rfl, List.nodup_nil, rfl, rfl⟩
      · use Channel.sound_ofDelay delay
        · nofun
        · nofun
      · nofun
  | append_singleton inputs input ih =>
      obtain ⟨now, x⟩ := input
      rw [run_append_singleton, channelRun_snd_append_singleton, given, gather_append_singleton,
        ChannelEffect.answers_append, Effect.counters_append]
      apply ih.step

/-- What has been seen of a run agrees with the counters. -/
structure Balanced (s : Service) (inputs : List (Nat × ServiceInput)) : Prop where
  settingsFlushed : (s.counts inputs).settingsFlushed
    = (s.events inputs).countP fun e => e matches .settingsSaved _ _
  settingsFailed : (s.counts inputs).settingsFailed
    = (s.events inputs).countP fun e => e matches .settingsFailed _ _
  livenessTimeouts : (s.counts inputs).livenessTimeouts
    = (s.events inputs).countP fun e => e matches .liveness ⟨.disconnected, _, _⟩
  framesReceived : (s.counts inputs).framesReceived
    = ((ChannelEffect.signals (s.channelRun inputs).2).filterMap Signal.frame?).length
  frames : (s.counts inputs).framesReceived + (s.counts inputs).framesMalformed
    = (s.bridge.channel.arrivals (s.channelInputs inputs)).length
  commandsSent : (s.counts inputs).commandsSent
    = (s.given inputs).countP fun g => g.isSent (ChannelEffect.answers (s.channelRun inputs).2)
  commands : (s.counts inputs).commandsSent + (s.counts inputs).commandsDropped
    = (s.given inputs).countP fun g =>
        (g.learnt (ChannelEffect.answers (s.channelRun inputs).2)).isSome
  reconnectAttempts : (s.counts inputs).reconnectAttempts
    = (s.bridge.channel.closures (s.channelInputs inputs)).length
      + (s.bridge.channel.unheard (s.channelInputs inputs)).length

/-- The counters account for every run of a bridge: each text, command, verdict on the backend and
verdict on settings is counted once.  Each time that the channel is closed without a `stop` is
counted as well, and so is each time that it is lost unheard.  This does not happen as long as neither
`connect` nor another `stop` is called while a `stop` is waiting. -/
theorem balanced_run (debounce window delay : Nat) (inputs : List (Nat × ServiceInput)) :
  let s := ofBridge (.unstarted debounce window delay)
  let c := s.bridge.channel
  Balanced s inputs
    ∧ ((s.counts inputs).reconnectAttempts = (c.closures (s.channelInputs inputs)).length
      ↔ c.unheard (s.channelInputs inputs) = [])
    ∧ (c.Awaits (s.channelInputs inputs) → c.unheard (s.channelInputs inputs) = [])
  := by
  intro s c
  obtain ⟨hframes, htexts, hlosses⟩ := c.count_run (s.channelInputs inputs)
  have hreceived : (s.counts inputs).framesReceived
      = (ChannelEffect.counters (s.channelRun inputs).2).count .framesReceived :=
    get_counts_of_not_isTold (k := .framesReceived) rfl nofun nofun
  have hmalformed : (s.counts inputs).framesMalformed
      = (ChannelEffect.counters (s.channelRun inputs).2).count .framesMalformed :=
    get_counts_of_not_isTold (k := .framesMalformed) rfl nofun nofun
  have hreconnect : (s.counts inputs).reconnectAttempts
      = (c.closures (s.channelInputs inputs)).length
        + (c.unheard (s.channelInputs inputs)).length :=
    (get_counts_of_not_isTold (k := .reconnectAttempts) rfl nofun nofun).trans hlosses
  have haccounts := (reckons_run debounce window delay inputs).accounts
  have hsent := (s.get_counts inputs .commandsSent).trans haccounts.sent
  have hdropped := (s.get_counts inputs .commandsDropped).trans haccounts.dropped
  refine ⟨?_, ?_, ?_⟩
  · constructor
    · apply get_counts_of_isTold (k := .settingsFlushed) rfl
      intro e
      cases e <;> simp [Event.counter?]
    · apply get_counts_of_isTold (k := .settingsFailed) rfl
      intro e
      cases e <;> simp [Event.counter?]
    · apply get_counts_of_isTold (k := .livenessTimeouts) rfl
      intro e
      cases e with
      | liveness record =>
          obtain ⟨state, lastSeen, uptime⟩ := record
          cases state <;> simp [Event.counter?]
      | _ => simp [Event.counter?]
    · rw [hreceived]
      apply hframes
    · rw [hreceived, hmalformed]
      apply htexts
    · apply hsent
    · rw [← Submission.countP_isSent_add_countP_isDropped]
      apply congrArg₂ _ hsent hdropped
    · apply hreconnect
  · rw [hreconnect, ← List.length_eq_zero_iff]
    omega
  · apply Channel.unheard_of_awaits (Channel.tidy_ofDelay delay) (Channel.sound_ofDelay delay)

/-- While one `stop` waits for the supervisor, another one finds nobody to wait for and closes the
channel.  Then the backend closes it, before the supervisor notices. -/
def stoppedTwice : List (Nat × ServiceInput) :=
  [(0, .start), (0, .channel (.start 0)), (0, .channel (.dialed 0 true)), (0, .channel .stop),
    (0, .channel .stop), (0, .channel (.lost 0))]

/-- The loss is counted, and nobody hears of it. -/
theorem reconnectAttempts_stoppedTwice :
  let s := ofBridge (.unstarted 1000 5000 2000)
  (s.counts stoppedTwice).reconnectAttempts = 1
    ∧ s.bridge.channel.closures (s.channelInputs stoppedTwice) = []
  := by
  decide +kernel

end Service

end Greenhouse
