import Mathlib.Data.List.Nodup
import Greenhouse.Control.Dispatcher
import Greenhouse.Proofs.Channel.Transit

/-!
# Submissions

A `Delivery` is a channel to which only the dispatcher gives texts, together with the commands that
have been given, the texts that have been written, and what the senders have learnt.  Commands and
their texts are numbered as they are given, and `Delivery.Kept` says that what has become of each
of them can be told at any time: it was refused, or it is held by a supervisor, or it has been
written, or it has been given up, and what its sender has learnt agrees with that.
-/

namespace Greenhouse

/-- A command that has been given to the channel. -/
structure Given where
  submission : Submission
  command : Command
  /-- A supervisor has taken its text. -/
  taken : Bool
deriving DecidableEq

namespace Given

/-- The number under which the channel answers. -/
def ticket (g : Given) : Nat := g.submission.ticket

/-- The text that is to be written. -/
def frame (g : Given) : Outgoing := ⟨g.ticket, g.command.toWire⟩

@[simp]
theorem frame_ticket (g : Given) :
  g.frame.ticket = g.ticket
  := rfl

end Given

/-- Something that happens to a channel to which only the dispatcher gives texts. -/
inductive DeliveryInput where
  | submit (command : Command)
  | drive (x : ChannelInput) (other : ∀ text, x ≠ .send text)

/-- The command that is given by an input. -/
def DeliveryInput.command? : DeliveryInput → Option Command
  | .submit command => some command
  | .drive _ _ => none

/-- A channel, the dispatcher, and what has become of the commands so far. -/
structure Delivery where
  dispatcher : Dispatcher
  channel : Channel
  /-- The commands in the order in which they were given. -/
  given : List Given
  /-- The texts that supervisors have written. -/
  written : List (Nat × Outgoing)
  /-- What senders have learnt. -/
  answers : List (Nat × Except ChannelError Unit)

namespace Delivery

/-- The channel has had effects, and answers to the dispatcher. -/
def hear (d : Delivery) (effects : List ChannelEffect) : Delivery :=
  { d with
    dispatcher := (ChannelEffect.answers effects).foldl
      (fun dispatcher a => (dispatcher.answer a.1 a.2).1) d.dispatcher
    written := d.written ++ ChannelEffect.written effects
    answers := d.answers ++ ChannelEffect.answers effects }

/-- What an input does. -/
def step (d : Delivery) (now : Nat) : DeliveryInput → Delivery
  | .submit command =>
    let (dispatcher, channel, submission, effects) := d.dispatcher.submit d.channel command
    let given := d.given ++ [⟨submission, command, (ChannelEffect.answers effects).isEmpty⟩]
    { d with dispatcher, channel, given }.hear effects
  | .drive x _ =>
    let (channel, effects) := d.channel.step now x
    { d with channel }.hear effects

/-- What has come of a run, from a channel that nobody has asked to be opened. -/
def after (delay : Nat) (inputs : List (Nat × DeliveryInput)) : Delivery :=
  inputs.foldl (fun d (now, x) => d.step now x) ⟨.empty, .ofDelay delay, [], [], []⟩

theorem after_append (delay : Nat) (inputs : List (Nat × DeliveryInput)) (now : Nat)
    (x : DeliveryInput) :
  after delay (inputs ++ [(now, x)]) = (after delay inputs).step now x
  := by
  rw [after, List.foldl_append]
  rfl

/-- The texts that have been written, in order. -/
def frames (d : Delivery) : List Outgoing := d.written.map Prod.snd

/-- The texts that one supervisor has written, in order. -/
def framesBy (d : Delivery) (id : Nat) : List Outgoing :=
  (d.written.filter fun w => w.1 = id).map Prod.snd

/-- What those learn who have given a command. -/
def outcomes (d : Delivery) (g : Given) : List (Except ChannelError Nat) :=
  (d.answers.filter fun a => a.1 = g.ticket).map fun a => g.submission.outcome a.2

/-! ### Numbers -/

/-- Commands and their texts are numbered as they are given. -/
structure Numbered (d : Delivery) : Prop where
  channel : d.channel.Sound
  count : d.dispatcher.count = d.given.length
  sequence : d.given.map (·.submission.sequence) = List.range' 1 d.given.length
  ticket : (d.given.map Given.ticket).Pairwise (· < ·)
  fresh : ∀ g ∈ d.given, g.ticket < d.channel.fresh

variable {d : Delivery}

theorem count_hear (d : Delivery) (effects : List ChannelEffect) :
  (d.hear effects).dispatcher.count = d.dispatcher.count
  := by
  rw [hear]
  generalize ChannelEffect.answers effects = answers
  generalize d.dispatcher = dispatcher
  induction answers generalizing dispatcher with
  | nil => rfl
  | cons a answers ih =>
      rw [List.foldl_cons]
      apply (ih _).trans
      rw [Dispatcher.answer]
      split <;> rfl

theorem ticket_send (c : Channel) (text : String) :
  (c.send text).2.1 = c.fresh
  := by
  rw [Channel.send]
  split
  · rfl
  · split <;> rfl

/-- A command is given: the text is sent, and both have the next numbers. -/
theorem step_submit (d : Delivery) (now : Nat) (command : Command) :
  d.step now (.submit command)
    = { dispatcher := ⟨d.dispatcher.count + 1,
          d.dispatcher.waiting ++ [⟨d.channel.fresh, d.dispatcher.count + 1⟩]⟩
        channel := (d.channel.step now (.send command.toWire)).1
        given := d.given ++ [⟨⟨d.channel.fresh, d.dispatcher.count + 1⟩, command,
          (ChannelEffect.answers (d.channel.step now (.send command.toWire)).2).isEmpty⟩]
        written := d.written
        answers := d.answers : Delivery }.hear (d.channel.step now (.send command.toWire)).2
  := by
  rw [step, Dispatcher.submit]
  simp only [ticket_send]
  rfl

theorem numbered_nil (delay : Nat) :
  (after delay []).Numbered
  := by
  constructor
  · apply Channel.sound_ofDelay
  · rfl
  · rfl
  · apply List.Pairwise.nil
  · nofun

theorem Numbered.step (h : d.Numbered) (now : Nat) (x : DeliveryInput) :
  (d.step now x).Numbered
  := by
  cases x with
  | drive x other =>
      have hmove := d.channel.move_step now x
      constructor
      · apply h.channel.move hmove
      · apply (count_hear _ _).trans h.count
      · apply h.sequence
      · apply h.ticket
      · intro g hg
        apply Nat.lt_of_lt_of_le (h.fresh g hg) hmove.fresh_le
  | submit command =>
      have hfresh := d.channel.fresh_step_send now command.toWire
      rw [step_submit]
      constructor
      · apply h.channel.move (d.channel.move_step now _)
      · rw [count_hear, h.count]
        simp [hear]
      · simp only [hear, List.map_append, List.map_singleton, List.length_append,
          List.length_singleton, List.range'_concat, h.sequence, h.count]
        rw [Nat.add_comm, Nat.one_mul]
      · simp only [hear, List.map_append, List.map_singleton, List.pairwise_append]
        use h.ticket, List.pairwise_singleton _ _
        intro ticket hticket _ heq
        obtain ⟨g, hg, rfl⟩ := List.mem_map.mp hticket
        rw [List.mem_singleton.mp heq]
        apply h.fresh g hg
      · intro g hg
        apply Nat.lt_of_lt_of_eq _ hfresh.symm
        obtain hg | hg := List.mem_append.mp hg
        · apply Nat.lt_succ_of_lt (h.fresh g hg)
        · rw [List.mem_singleton.mp hg]
          apply Nat.lt_succ_self

/-! ### What becomes of commands -/

/-- What has been written under a number. -/
def writes (d : Delivery) (ticket : Nat) : List (Nat × Outgoing) :=
  d.written.filter fun w => w.2.ticket = ticket

/-- What has been answered under a number. -/
def learnt (d : Delivery) (ticket : Nat) : List (Nat × Except ChannelError Unit) :=
  d.answers.filter fun a => a.1 = ticket

/-- What has become of a command. -/
inductive Fate (d : Delivery) (g : Given) : Prop
  /-- Nobody has taken its text. -/
  | refused (taken : g.taken = false) (writes : d.writes g.ticket = [])
    (learnt : d.learnt g.ticket = [(g.ticket, .error .notOpen)])
  /-- A supervisor holds it. -/
  | waiting (id : Nat) (taken : g.taken = true) (held : g.frame ∈ d.channel.held id)
    (writes : d.writes g.ticket = []) (learnt : d.learnt g.ticket = [])
  /-- A supervisor has written it. -/
  | written (id : Nat) (taken : g.taken = true) (writes : d.writes g.ticket = [(id, g.frame)])
    (learnt : d.learnt g.ticket = [(g.ticket, .ok ())])
  /-- A supervisor has given it up. -/
  | dropped (taken : g.taken = true) (writes : d.writes g.ticket = [])
    (learnt : d.learnt g.ticket = [(g.ticket, .error .closed)])

/-- What has become of the commands can be told. -/
structure Kept (d : Delivery) : Prop where
  /-- Of a text that is held, nothing has been heard. -/
  held : ∀ id, ∀ f ∈ d.channel.held id, d.writes f.ticket = [] ∧ d.learnt f.ticket = []
  /-- A supervisor takes and writes texts in the order in which they were given. -/
  order : ∀ id, (d.framesBy id ++ d.channel.held id).Sublist (d.given.map Given.frame)
  /-- One supervisor only holds a text. -/
  own : ∀ id other, ∀ f ∈ d.channel.held id, ∀ f' ∈ d.channel.held other,
    f.ticket = f'.ticket → id = other
  known : ∀ a ∈ d.answers, ∃ g ∈ d.given, g.ticket = a.1
  fate : ∀ g ∈ d.given, d.Fate g

variable {e : Delivery} {g : Given} {id : Nat} {f : Outgoing}

theorem writes_of_append {more : List (Nat × Outgoing)} (h : e.written = d.written ++ more)
    (ticket : Nat) :
  e.writes ticket = d.writes ticket ++ more.filter fun w => w.2.ticket = ticket
  := by
  rw [writes, h, List.filter_append, writes]

theorem learnt_of_append {more : List (Nat × Except ChannelError Unit)}
    (h : e.answers = d.answers ++ more) (ticket : Nat) :
  e.learnt ticket = d.learnt ticket ++ more.filter fun a => a.1 = ticket
  := by
  rw [learnt, h, List.filter_append, learnt]

theorem writes_eq (h : e.written = d.written) (ticket : Nat) :
  e.writes ticket = d.writes ticket
  := by
  rw [writes, h, writes]

theorem learnt_eq (h : e.answers = d.answers) (ticket : Nat) :
  e.learnt ticket = d.learnt ticket
  := by
  rw [learnt, h, learnt]

theorem writes_eq_of_append {more : List (Nat × Outgoing)} {ticket : Nat}
    (h : e.written = d.written ++ more) (hmore : ∀ w ∈ more, w.2.ticket ≠ ticket) :
  e.writes ticket = d.writes ticket
  := by
  rw [writes_of_append h, List.filter_eq_nil_iff.mpr, List.append_nil]
  intro w hw heq
  apply hmore w hw (of_decide_eq_true heq)

theorem learnt_eq_of_append {more : List (Nat × Except ChannelError Unit)} {ticket : Nat}
    (h : e.answers = d.answers ++ more) (hmore : ∀ a ∈ more, a.1 ≠ ticket) :
  e.learnt ticket = d.learnt ticket
  := by
  rw [learnt_of_append h, List.filter_eq_nil_iff.mpr, List.append_nil]
  intro a ha heq
  apply hmore a ha (of_decide_eq_true heq)

theorem Fate.of_eq (h : d.Fate g) (hwrites : e.writes g.ticket = d.writes g.ticket)
    (hlearnt : e.learnt g.ticket = d.learnt g.ticket)
    (hheld : ∀ id, g.frame ∈ d.channel.held id → g.frame ∈ e.channel.held id) :
  e.Fate g
  := by
  cases h with
  | refused taken writes learnt =>
      exact .refused taken (hwrites.trans writes) (hlearnt.trans learnt)
  | waiting id taken held writes learnt =>
      exact .waiting id taken (hheld id held) (hwrites.trans writes) (hlearnt.trans learnt)
  | written id taken writes learnt =>
      exact .written id taken (hwrites.trans writes) (hlearnt.trans learnt)
  | dropped taken writes learnt =>
      exact .dropped taken (hwrites.trans writes) (hlearnt.trans learnt)

theorem Numbered.nodup (h : d.Numbered) :
  (d.given.map Given.ticket).Nodup
  := h.ticket.imp Nat.ne_of_lt

theorem Numbered.eq_of_ticket (h : d.Numbered) {g' : Given} (hg : g ∈ d.given) (hg' : g' ∈ d.given)
    (heq : g.ticket = g'.ticket) :
  g = g'
  := List.inj_on_of_nodup_map h.nodup hg hg' heq

theorem Kept.exists_given_of_held (h : d.Kept) (hf : f ∈ d.channel.held id) :
  ∃ g ∈ d.given, g.frame = f
  := List.mem_map.mp ((h.order id).subset (List.mem_append_right _ hf))

theorem Kept.exists_given_of_written (h : d.Kept) {w : Nat × Outgoing} (hw : w ∈ d.written) :
  ∃ g ∈ d.given, g.frame = w.2
  := by
  apply List.mem_map.mp ((h.order w.1).subset (List.mem_append_left _ _))
  apply List.mem_map_of_mem
  simpa using hw

/-- The texts that a supervisor holds are numbered differently. -/
theorem Kept.nodup_held (h : d.Kept) (hnumbered : d.Numbered) (id : Nat) :
  ((d.channel.held id).map Outgoing.ticket).Nodup
  := by
  have hheld := (List.sublist_append_right _ _).trans (h.order id)
  have hnodup := hnumbered.nodup
  rw [show Given.ticket = Outgoing.ticket ∘ Given.frame from rfl, ← List.map_map] at hnodup
  apply (hheld.map Outgoing.ticket).nodup hnodup

/-- Nothing has been heard of a number that has not been given out. -/
theorem Kept.silent (h : d.Kept) {ticket : Nat} (hticket : ∀ g ∈ d.given, g.ticket ≠ ticket) :
  d.writes ticket = [] ∧ d.learnt ticket = []
  := by
  constructor
  · rw [writes, List.filter_eq_nil_iff]
    intro w hw heq
    obtain ⟨g, hg, hframe⟩ := h.exists_given_of_written hw
    apply hticket g hg
    rw [← of_decide_eq_true heq, ← hframe]
    rfl
  · rw [learnt, List.filter_eq_nil_iff]
    intro a ha heq
    obtain ⟨g, hg, hg'⟩ := h.known a ha
    apply hticket g hg
    rw [← of_decide_eq_true heq, hg']

/-- When the text of a command is held, a supervisor has taken it, and nothing has been heard of
it. -/
theorem Kept.of_held (h : d.Kept) (hg : g ∈ d.given) (hheld : g.frame ∈ d.channel.held id) :
  g.taken = true ∧ d.writes g.ticket = [] ∧ d.learnt g.ticket = []
  := by
  have hsilent : d.writes g.ticket = [] ∧ d.learnt g.ticket = [] := h.held id g.frame hheld
  cases h.fate g hg with
  | waiting id taken held writes learnt => exact ⟨taken, hsilent⟩
  | refused taken writes learnt | written id taken writes learnt | dropped taken writes learnt =>
      rw [hsilent.2] at learnt
      nomatch learnt

theorem kept_nil (delay : Nat) :
  (after delay []).Kept
  := by
  constructor
  · nofun
  · intro id
    apply List.Sublist.refl
  · nofun
  · nofun
  · nofun

/-- From one moment to the next, something happens under the numbers in question only. -/
structure Spares (d e : Delivery) (touched : Nat → Prop) : Prop where
  writes : ∀ ticket, ¬ touched ticket → e.writes ticket = d.writes ticket
  learnt : ∀ ticket, ¬ touched ticket → e.learnt ticket = d.learnt ticket
  held : ∀ id f, ¬ touched f.ticket → (f ∈ e.channel.held id ↔ f ∈ d.channel.held id)
  given : ∃ more, e.given = d.given ++ more ∧ ∀ g ∈ more, touched g.ticket

/-- What has become of the commands can still be told, if it can be told of those to which
something happens. -/
theorem Kept.of_spares {touched : Nat → Prop} (h : d.Kept) (hspares : d.Spares e touched) (id : Nat)
    (hheld : ∀ other, ∀ f ∈ e.channel.held other, touched f.ticket →
      other = id ∧ e.writes f.ticket = [] ∧ e.learnt f.ticket = [])
    (horder : ∀ other, (e.framesBy other ++ e.channel.held other).Sublist
      (e.given.map Given.frame))
    (hknown : ∀ a ∈ e.answers, a ∈ d.answers ∨ ∃ g ∈ e.given, g.ticket = a.1)
    (hfate : ∀ g ∈ e.given, touched g.ticket → e.Fate g) :
  e.Kept
  := by
  obtain ⟨more, hgiven, hmore⟩ := hspares.given
  constructor
  · intro other f hf
    by_cases htouched : touched f.ticket
    · exact (hheld other f hf htouched).2
    · rw [hspares.writes _ htouched, hspares.learnt _ htouched]
      apply h.held other f ((hspares.held other f htouched).mp hf)
  · exact horder
  · intro other other' f hf f' hf' heq
    by_cases htouched : touched f.ticket
    · rw [(hheld other f hf htouched).1, (hheld other' f' hf' (heq ▸ htouched)).1]
    · exact h.own other other' f ((hspares.held other f htouched).mp hf) f'
        ((hspares.held other' f' (heq ▸ htouched)).mp hf') heq
  · intro a ha
    obtain ha | hnew := hknown a ha
    · obtain ⟨g, hg, heq⟩ := h.known a ha
      rw [hgiven]
      use g, List.mem_append_left more hg
    · exact hnew
  · intro g hg
    by_cases htouched : touched g.ticket
    · exact hfate g hg htouched
    · rw [hgiven] at hg
      have hold := (List.mem_append.mp hg).resolve_right fun hg => htouched (hmore g hg)
      apply (h.fate g hold).of_eq (hspares.writes _ htouched) (hspares.learnt _ htouched)
      intro other
      apply (hspares.held other g.frame htouched).mpr

/-- Nothing happens to texts. -/
theorem Kept.still (h : d.Kept) (hheld : ∀ id, e.channel.held id = d.channel.held id)
    (hgiven : e.given = d.given) (hwritten : e.written = d.written)
    (hanswers : e.answers = d.answers) :
  e.Kept
  := by
  have hspares : d.Spares e fun _ => False := by
    constructor
    · exact fun ticket _ => writes_eq hwritten ticket
    · exact fun ticket _ => learnt_eq hanswers ticket
    · intro other f _
      rw [hheld]
    · exact ⟨[], by rw [hgiven, List.append_nil], nofun⟩
  apply h.of_spares hspares 0
  · exact fun other f hf => False.elim
  · intro other
    rw [framesBy, hwritten, hheld, hgiven]
    apply h.order other
  · rw [hanswers]
    exact fun a ha => .inl ha
  · exact fun g hg => False.elim

/-- A text that is held has not the number of a new command. -/
theorem Kept.ne_ticket_of_held (h : d.Kept) (hnew : ∀ g' ∈ d.given, g'.ticket ≠ g.ticket)
    (hf : f ∈ d.channel.held id) :
  f.ticket ≠ g.ticket
  := by
  obtain ⟨g', hg', rfl⟩ := h.exists_given_of_held hf
  apply hnew g' hg'

/-- Nobody takes the text of a new command. -/
theorem Kept.refused (h : d.Kept) (hnew : ∀ g' ∈ d.given, g'.ticket ≠ g.ticket)
    (htaken : g.taken = false) (hheld : ∀ id, e.channel.held id = d.channel.held id)
    (hgiven : e.given = d.given ++ [g]) (hwritten : e.written = d.written)
    (hanswers : e.answers = d.answers ++ [(g.ticket, .error .notOpen)]) :
  e.Kept
  := by
  obtain ⟨hunwritten, hsilent⟩ := h.silent hnew
  have hspares : d.Spares e (· = g.ticket) := by
    constructor
    · exact fun ticket _ => writes_eq hwritten ticket
    · intro ticket hne
      apply learnt_eq_of_append hanswers
      simpa using Ne.symm hne
    · intro other f _
      rw [hheld]
    · exact ⟨[g], hgiven, by simp⟩
  apply h.of_spares hspares 0
  · intro other f hf htouched
    rw [hheld] at hf
    exact absurd htouched (h.ne_ticket_of_held hnew hf)
  · intro other
    rw [framesBy, hwritten, hheld, hgiven, List.map_append]
    apply (h.order other).trans (List.sublist_append_left _ _)
  · simp only [hanswers, hgiven, List.mem_append, List.mem_singleton]
    rintro a (ha | rfl)
    · exact .inl ha
    · exact .inr ⟨g, .inr rfl, rfl⟩
  · simp only [hgiven, List.mem_append, List.mem_singleton]
    rintro g' (hg' | rfl) htouched
    · exact absurd htouched (hnew g' hg')
    · apply Fate.refused htaken
      · rw [writes_eq hwritten, hunwritten]
      · rw [learnt_of_append hanswers, hsilent]
        simp

/-- A supervisor takes the text of a new command. -/
theorem Kept.taken (h : d.Kept) (hnew : ∀ g' ∈ d.given, g'.ticket ≠ g.ticket)
    (htaken : g.taken = true) (hown : e.channel.held id = d.channel.held id ++ [g.frame])
    (hothers : ∀ other ≠ id, e.channel.held other = d.channel.held other)
    (hgiven : e.given = d.given ++ [g]) (hwritten : e.written = d.written)
    (hanswers : e.answers = d.answers) :
  e.Kept
  := by
  obtain ⟨hunwritten, hsilent⟩ := h.silent hnew
  have hspares : d.Spares e (· = g.ticket) := by
    constructor
    · exact fun ticket _ => writes_eq hwritten ticket
    · exact fun ticket _ => learnt_eq hanswers ticket
    · intro other f htouched
      by_cases hother : other = id
      · rw [hother, hown, List.mem_append, List.mem_singleton]
        apply or_iff_left
        rintro rfl
        apply htouched rfl
      · rw [hothers other hother]
    · exact ⟨[g], hgiven, by simp⟩
  apply h.of_spares hspares id
  · intro other f hf htouched
    have hother : other = id := by
      by_contra hother
      rw [hothers other hother] at hf
      apply h.ne_ticket_of_held hnew hf htouched
    use hother
    rw [htouched, writes_eq hwritten, learnt_eq hanswers]
    use hunwritten
  · intro other
    rw [framesBy, hwritten, hgiven, List.map_append]
    by_cases hother : other = id
    · rw [hother, hown, ← List.append_assoc]
      apply (h.order id).append_right
    · rw [hothers other hother]
      apply (h.order other).trans (List.sublist_append_left _ _)
  · rw [hanswers]
    exact fun a ha => .inl ha
  · simp only [hgiven, List.mem_append, List.mem_singleton]
    rintro g' (hg' | rfl) htouched
    · exact absurd htouched (hnew g' hg')
    · apply Fate.waiting id htaken
      · rw [hown]
        apply List.mem_append_right _ (List.mem_singleton.mpr rfl)
      · rw [writes_eq hwritten, hunwritten]
      · rw [learnt_eq hanswers, hsilent]

/-- A supervisor has written the first text that it holds. -/
theorem Kept.wrote (h : d.Kept) (hnumbered : d.Numbered)
    (hown : d.channel.held id = f :: e.channel.held id)
    (hothers : ∀ other ≠ id, e.channel.held other = d.channel.held other)
    (hgiven : e.given = d.given) (hwritten : e.written = d.written ++ [(id, f)])
    (hanswers : e.answers = d.answers ++ [(f.ticket, .ok ())]) :
  e.Kept
  := by
  have hf : f ∈ d.channel.held id := by
    rw [hown]
    apply List.mem_cons_self
  obtain ⟨g, hg, rfl⟩ := h.exists_given_of_held hf
  obtain ⟨htaken, hunwritten, hsilent⟩ := h.of_held hg hf
  have hspares : d.Spares e (· = g.ticket) := by
    constructor
    · intro ticket hne
      apply writes_eq_of_append hwritten
      simpa using Ne.symm hne
    · intro ticket hne
      apply learnt_eq_of_append hanswers
      simpa using Ne.symm hne
    · intro other f' htouched
      by_cases hother : other = id
      · rw [hother, hown, List.mem_cons]
        apply (or_iff_right _).symm
        rintro rfl
        apply htouched rfl
      · rw [hothers other hother]
    · exact ⟨[], by rw [hgiven, List.append_nil], nofun⟩
  apply h.of_spares hspares id
  · intro other f' hf' htouched
    by_cases hother : other = id
    · have hnodup := h.nodup_held hnumbered id
      rw [hown, List.map_cons, List.nodup_cons] at hnodup
      apply absurd _ hnodup.1
      rw [hother] at hf'
      apply List.mem_map.mpr ⟨f', hf', htouched⟩
    · rw [hothers other hother] at hf'
      exact absurd (h.own other id f' hf' g.frame hf htouched) hother
  · intro other
    rw [framesBy, hwritten, hgiven, List.filter_append, List.map_append]
    by_cases hother : other = id
    · subst hother
      have horder := h.order other
      rw [hown] at horder
      simpa [framesBy] using horder
    · rw [hothers other hother, List.filter_cons_of_neg (by simpa using Ne.symm hother)]
      simpa [framesBy] using h.order other
  · simp only [hanswers, hgiven, List.mem_append, List.mem_singleton]
    rintro a (ha | rfl)
    · exact .inl ha
    · exact .inr ⟨g, hg, rfl⟩
  · intro g' hg' htouched
    rw [hgiven] at hg'
    obtain rfl := hnumbered.eq_of_ticket hg' hg htouched
    apply Fate.written id htaken
    · rw [writes_of_append hwritten, hunwritten]
      simp
    · rw [learnt_of_append hanswers, hsilent]
      simp

theorem filter_map_ticket {frames : List Outgoing} {f : Outgoing}
    (hnodup : (frames.map Outgoing.ticket).Nodup) (hf : f ∈ frames)
    (result : Except ChannelError Unit) :
  ((frames.map fun f => (f.ticket, result)).filter fun a => a.1 = f.ticket) = [(f.ticket, result)]
  := by
  induction frames with
  | nil => nomatch hf
  | cons first frames ih =>
      rw [List.map_cons, List.nodup_cons] at hnodup
      obtain rfl | hf := List.mem_cons.mp hf
      · rw [List.map_cons, List.filter_cons_of_pos (by simp), List.filter_eq_nil_iff.mpr]
        intro a ha heq
        obtain ⟨f', hf', rfl⟩ := List.mem_map.mp ha
        apply hnodup.1
        rw [← of_decide_eq_true heq]
        apply List.mem_map_of_mem hf'
      · have hne : first.ticket ≠ f.ticket := by
          intro heq
          apply hnodup.1
          rw [heq]
          apply List.mem_map_of_mem hf
        rw [List.map_cons, List.filter_cons_of_neg (by simpa using hne)]
        apply ih hnodup.2 hf

/-- A supervisor gives up all that it holds. -/
theorem Kept.dropped (h : d.Kept) (hnumbered : d.Numbered) (hown : e.channel.held id = [])
    (hothers : ∀ other ≠ id, e.channel.held other = d.channel.held other)
    (hgiven : e.given = d.given) (hwritten : e.written = d.written)
    (hanswers : e.answers
      = d.answers ++ (d.channel.held id).map fun f => (f.ticket, .error .closed)) :
  e.Kept
  := by
  have hspares : d.Spares e (· ∈ (d.channel.held id).map Outgoing.ticket) := by
    constructor
    · exact fun ticket _ => writes_eq hwritten ticket
    · intro ticket htouched
      apply learnt_eq_of_append hanswers
      rintro a ha rfl
      obtain ⟨f, hf, rfl⟩ := List.mem_map.mp ha
      apply htouched (List.mem_map_of_mem hf)
    · intro other f htouched
      by_cases hother : other = id
      · rw [hother, hown, iff_false_left List.not_mem_nil]
        exact fun hf => htouched (List.mem_map_of_mem hf)
      · rw [hothers other hother]
    · exact ⟨[], by rw [hgiven, List.append_nil], nofun⟩
  apply h.of_spares hspares id
  · intro other f hf htouched
    by_cases hother : other = id
    · rw [hother, hown] at hf
      nomatch hf
    · rw [hothers other hother] at hf
      obtain ⟨f', hf', heq⟩ := List.mem_map.mp htouched
      exact absurd (h.own id other f' hf' f hf heq).symm hother
  · intro other
    rw [framesBy, hwritten, hgiven]
    by_cases hother : other = id
    · rw [hother, hown, List.append_nil]
      apply (List.sublist_append_left _ _).trans (h.order id)
    · rw [hothers other hother]
      apply h.order other
  · rw [hanswers, hgiven]
    intro a ha
    obtain ha | ha := List.mem_append.mp ha
    · exact .inl ha
    · obtain ⟨f, hf, rfl⟩ := List.mem_map.mp ha
      obtain ⟨g, hg, rfl⟩ := h.exists_given_of_held hf
      exact .inr ⟨g, hg, rfl⟩
  · intro g hg htouched
    rw [hgiven] at hg
    obtain ⟨f, hf, heq⟩ := List.mem_map.mp htouched
    obtain ⟨g', hg', rfl⟩ := h.exists_given_of_held hf
    obtain rfl := hnumbered.eq_of_ticket hg' hg heq
    obtain ⟨htaken, hunwritten, hsilent⟩ := h.of_held hg hf
    apply Fate.dropped htaken
    · rw [writes_eq hwritten, hunwritten]
    · rw [learnt_of_append hanswers, hsilent]
      apply filter_map_ticket (f := g'.frame) (h.nodup_held hnumbered id) hf

theorem Kept.drive (h : d.Kept) (hnumbered : d.Numbered) {x : ChannelInput}
    {written : List (Nat × Outgoing)} {answers : List (Nat × Except ChannelError Unit)}
    (htransit : d.channel.Transit x e.channel written answers) (hx : ∀ text, x ≠ .send text)
    (hgiven : e.given = d.given) (hwritten : e.written = d.written ++ written)
    (hanswers : e.answers = d.answers ++ answers) :
  e.Kept
  := by
  cases htransit with
  | still _ held =>
      rw [List.append_nil] at hwritten hanswers
      apply h.still held hgiven hwritten hanswers
  | refused => exact absurd rfl (hx _)
  | taken => exact absurd rfl (hx _)
  | wrote _ own others => exact h.wrote hnumbered own others hgiven hwritten hanswers
  | dropped _ own others =>
      rw [List.append_nil] at hwritten
      apply h.dropped hnumbered own others hgiven hwritten hanswers

theorem Kept.submit (h : d.Kept) (hnumbered : d.Numbered)
    {written : List (Nat × Outgoing)} {answers : List (Nat × Except ChannelError Unit)}
    (htransit : d.channel.Transit (.send g.command.toWire) e.channel written answers)
    (hticket : g.ticket = d.channel.fresh) (htaken : g.taken = answers.isEmpty)
    (hgiven : e.given = d.given ++ [g]) (hwritten : e.written = d.written ++ written)
    (hanswers : e.answers = d.answers ++ answers) :
  e.Kept
  := by
  have hnew : ∀ g' ∈ d.given, g'.ticket ≠ g.ticket := by
    intro g' hg'
    rw [hticket]
    apply Nat.ne_of_lt (hnumbered.fresh g' hg')
  cases htransit with
  | still other => exact absurd rfl (other _)
  | refused held =>
      rw [List.append_nil] at hwritten
      rw [← hticket] at hanswers
      apply h.refused hnew htaken held hgiven hwritten hanswers
  | taken id own others =>
      rw [List.append_nil] at hwritten hanswers
      rw [← hticket] at own
      apply h.taken hnew htaken own others hgiven hwritten hanswers
  | wrote other => exact absurd rfl (other _)
  | dropped other => exact absurd rfl (other _)

theorem Kept.step (h : d.Kept) (hnumbered : d.Numbered) (now : Nat) (x : DeliveryInput) :
  (d.step now x).Kept
  := by
  cases x with
  | drive x other => exact h.drive hnumbered (hnumbered.channel.transit now x) other rfl rfl rfl
  | submit command =>
      have htransit := hnumbered.channel.transit now (.send command.toWire)
      rw [step_submit]
      exact h.submit hnumbered (g := ⟨⟨d.channel.fresh, d.dispatcher.count + 1⟩, command,
        (ChannelEffect.answers (d.channel.step now (.send command.toWire)).2).isEmpty⟩)
        htransit rfl rfl rfl rfl rfl

theorem kept_after (delay : Nat) (inputs : List (Nat × DeliveryInput)) :
  (after delay inputs).Numbered ∧ (after delay inputs).Kept
  := by
  induction inputs using List.reverseRecOn with
  | nil => exact ⟨numbered_nil delay, kept_nil delay⟩
  | append_singleton inputs x ih =>
      rw [after_append]
      use ih.1.step x.1 x.2
      apply ih.2.step ih.1

/-- Commands are given in the order of the inputs. -/
theorem commands_after (delay : Nat) (inputs : List (Nat × DeliveryInput)) :
  (after delay inputs).given.map Given.command
    = inputs.filterMap fun input => input.2.command?
  := by
  induction inputs using List.reverseRecOn with
  | nil => rfl
  | append_singleton inputs x ih =>
      rw [after_append, List.filterMap_append, ← ih]
      cases hx : x.2 with
      | submit command =>
          rw [step_submit]
          simp [hear, hx, DeliveryInput.command?]
      | drive => simp [step, hear, hx, DeliveryInput.command?]

end Delivery

end Greenhouse
