import Greenhouse.Proofs.Autosave.Isolation
import Greenhouse.Proofs.Service.Ending

/-!
# The silence after a call of `stop`

A call of `stop` that has returned has saved all drafts that there were, and only the requests that
were under way are still heard of then: nothing is sent any more, nobody dials and the watchdog
rests.  This holds of every bridge that has worked for some time, as long as no section has had two
saves under way at once, and of every call that nobody disturbs (`Shutdown.saved_then_silent`).
-/

namespace Greenhouse

namespace Shutdown

variable {s : Service} {d e : Shutdown} {now : Nat} {x : ServiceInput}

/-- An event may still be published about an order that has not been answered, or about a section
of which a save is under way. -/
def Expects (d : Shutdown) (event : Event) : Prop :=
  (event.publisher = .orders ∧ d.service.orders ≠ [])
    ∨ ∃ v ∈ d.service.bridge.autosave.saves, event.section? = some v.name

/-- From one moment to another after the call nothing is sent, nobody dials, the channel is closed
and the watchdog stays as it is.  Nothing more is under way, and what is published had been expected
all along. -/
structure Silent (d e : Shutdown) : Prop where
  phase : e.phase = .returned
  sent : e.sent = d.sent
  aside : e.aside = d.aside
  dials : e.dials = d.dials
  closed : e.service.bridge.channel.state = .closed
  watchdog : e.service.bridge.watchdog = d.service.bridge.watchdog
  saves : ∀ v ∈ e.service.bridge.autosave.saves, v ∈ d.service.bridge.autosave.saves
  orders : ∀ o ∈ e.service.orders, o ∈ d.service.orders
  events : ∃ more, e.events = d.events ++ more ∧ ∀ event ∈ more, d.Expects event

theorem InOrder.closed (h : InOrder s d) (hreturned : d.phase = .returned) :
  d.service.bridge.channel.state = .closed
  := by
  have hobeys := h.obeys
  rw [hreturned] at hobeys
  apply (hobeys.1.vacant hobeys.2).1

theorem InOrder.silent (h : InOrder s d) (hreturned : d.phase = .returned) :
  Silent d d
  := by
  use hreturned, rfl, rfl, rfl, h.closed hreturned, rfl, fun _ => id, fun _ => id
  use []
  simp

theorem Silent.trans {f : Shutdown} (h : Silent d e) (h' : Silent e f) :
  Silent d f
  := by
  use h'.phase, h'.sent.trans h.sent, h'.aside.trans h.aside, h'.dials.trans h.dials, h'.closed,
    h'.watchdog.trans h.watchdog
  · intro v hv
    apply h.saves v (h'.saves v hv)
  · intro o ho
    apply h.orders o (h'.orders o ho)
  · obtain ⟨more, heq, hmore⟩ := h.events
    obtain ⟨rest, heq', hrest⟩ := h'.events
    use more ++ rest
    rw [heq', heq, List.append_assoc]
    use rfl
    intro event hevent
    obtain hevent | hevent := List.mem_append.mp hevent
    · apply hmore event hevent
    · obtain ⟨hpublisher, horders⟩ | ⟨v, hv, hsection⟩ := hrest event hevent
      · left
        use hpublisher
        obtain ⟨o, ho⟩ := List.exists_mem_of_ne_nil _ horders
        apply List.ne_nil_of_mem (h.orders o ho)
      · right
        use v, h.saves v hv

theorem meddles_of_not_isCall (hx : x.isCall = false) :
  x.meddles = false
  := by
  cases x with
  | submit | order => nomatch hx
  | channel y =>
      cases y with
      | send => nomatch hx
      | _ => apply hx
  | settings y =>
      cases y with
      | flush => nomatch hx
      | _ => apply hx
  | _ => apply hx

/-- When no timer is running, nothing is sent by itself. -/
theorem InOrder.sends_eq_none (h : InOrder s d) (hreturned : d.phase = .returned)
    (hx : x.isCall = false) :
  d.service.sends x = none
  := by
  have htimers : d.service.bridge.autosave.timers = [] := by
    apply List.eq_nil_iff_forall_not_mem.mpr
    intro t ht
    have hrest := h.saves.armed t ht
    rw [hreturned] at hrest
    nomatch hrest
  cases x with
  | settings y =>
      cases y with
      | edit | flush => nomatch hx
      | fire timer => simp [Service.sends, ServiceInput.settings?, Autosave.step, htimers]
      | answer save reply =>
          simp only [Service.sends, ServiceInput.settings?, Option.bind_some, Autosave.step]
          split <;> rfl
  | _ => rfl

theorem InOrder.dialers_eq_nil (h : InOrder s d) (hreturned : d.phase = .returned)
    (hx : x.isCall = false) :
  d.service.dialers now x = []
  := by
  have hobeys := h.obeys
  rw [hreturned] at hobeys
  rw [Service.dialers, Service.channelEffects_eq]
  split
  · next y hy =>
      apply (hobeys.1.rest h.sound hobeys.2 now _).2.2
      rintro rfl
      cases x with
      | channel y =>
          obtain rfl := Option.some.inj hy
          nomatch hx
      | start => nomatch hx
      | submit => nomatch hy
      | _ => nomatch hy
  · rfl

/-- What is published is about an order that is answered, or about a save. -/
theorem InOrder.expects (h : InOrder s d) (hreturned : d.phase = .returned) (hx : x.isCall = false)
    {event : Event} (hevent : event ∈ (d.service.step now x).2.filterMap Effect.event?) :
  d.Expects event
  := by
  obtain ⟨hhand, hrunning⟩ := h.parked (h.ended hreturned)
  have hpublisher : x.publisher? = some event.publisher := by
    obtain ⟨effect, heffect, heq⟩ := List.mem_filterMap.mp hevent
    cases effect with
    | count counter => cases heq
    | publish other =>
        obtain rfl := Option.some.inj heq
        apply Service.publisher_of_mem_step heffect
  cases x with
  | start | halt | submit | order => cases hx
  | channel | take => cases hpublisher
  | pass =>
      simp only [Service.step, hhand] at hevent
      cases hevent
  | beat =>
      simp only [Service.step] at hevent
      split at hevent
      · simp [Service.watch, Watchdog.step_of_not_running hrunning] at hevent
      · cases hevent
  | tick =>
      simp [Service.step, Service.watch, Watchdog.step_of_not_running hrunning] at hevent
  | reply order reply =>
      left
      use (Option.some.inj hpublisher).symm
      intro horders
      simp [Service.step, horders] at hevent
  | settings y =>
      right
      have hsection := Autosave.section?_of_published hevent
      cases y with
      | edit | flush => cases hx
      | fire timer =>
          rw [Service.step] at hevent
          simp only [Autosave.step] at hevent
          split at hevent <;> cases hevent
      | answer save reply =>
          rw [Autosave.subject?] at hsection
          cases hfind : d.service.bridge.autosave.saves.find? fun v => v.id = save with
          | none =>
              simp [Service.step, Autosave.step, hfind] at hevent
          | some v =>
              rw [hfind] at hsection
              use v, List.mem_of_find?_eq_some hfind
              apply hsection

/-- Without another call there is silence. -/
theorem InOrder.silent_other (h : InOrder s d) (hreturned : d.phase = .returned)
    (hx : x.isCall = false) :
  Silent d (d.step now (.other x))
  := by
  have hmeddles := meddles_of_not_isCall hx
  have hstart : x ≠ .start := by
    rintro rfl
    cases hx
  have hsends := h.sends_eq_none hreturned hx
  constructor
  · apply hreturned
  · rfl
  · simp [Shutdown.step, hsends]
  · simp [Shutdown.step, goOn, h.dialers_eq_nil hreturned hx]
  · apply (h.other hmeddles).closed hreturned
  · apply (h.parked.step_of_none (h.ended hreturned) now hstart).2
  · intro v hv
    simp only [Shutdown.step, goOn, Service.autosave_step] at hv
    split at hv
    · next y hy =>
        rw [Service.sends, hy] at hsends
        obtain hv | hv := Autosave.mem_saves_or_sent hv
        · apply hv
        · rw [Option.bind_some, hv] at hsends
          cases hsends
    · apply hv
  · intro o ho
    apply Service.mem_orders_of_step _ ho
    rintro w rfl
    cases hx
  · use (d.service.step now x).2.filterMap Effect.event?, rfl
    intro event hevent
    apply h.expects hreturned hx hevent

/-- Nobody makes another call. -/
def Alone (inputs : List (Nat × ShutdownInput)) : Prop :=
  ∀ input ∈ inputs, ∀ x, input.2 = .other x → x.isCall = false

/-- As long as nobody makes another call there is silence. -/
theorem InOrder.silent_run (h : InOrder s d) (hwired : s.bridge.autosave.Wired)
    (hreturned : d.phase = .returned) {inputs : List (Nat × ShutdownInput)}
    (hinputs : Alone inputs) :
  Silent d (d.run inputs)
  := by
  suffices InOrder s (d.run inputs) ∧ Silent d (d.run inputs) from this.2
  induction inputs using List.reverseRecOn with
  | nil => exact ⟨h, h.silent hreturned⟩
  | append_singleton inputs input ih =>
      obtain ⟨horder, hsilent⟩ :=
        ih fun other hother => hinputs other (List.mem_append_left _ hother)
      have hinput := hinputs input (List.mem_append_right _ (List.mem_singleton_self input))
      rw [run_append_singleton]
      constructor
      · apply horder.step hwired
        intro x hx
        apply meddles_of_not_isCall (hinput x hx)
      · apply hsilent.trans
        obtain ⟨now, input⟩ := input
        cases input with
        | proceed =>
            have hwaits : (d.run inputs).step now .proceed = d.run inputs := by
              simp only [Shutdown.step, Shutdown.proceed, hsilent.phase]
            rw [hwaits]
            apply horder.silent hsilent.phase
        | other x => apply horder.silent_other hsilent.phase (hinput x rfl)

end Shutdown

/-! ### The whole call -/

namespace Service

/-- The bridge after a run. -/
def after (debounce window delay : Nat) (inputs : List (Nat × ServiceInput)) : Service :=
  ((ofBridge (.unstarted debounce window delay)).run inputs).1

variable {debounce window delay : Nat} {inputs : List (Nat × ServiceInput)}

theorem after_append_singleton (now : Nat) (x : ServiceInput) :
  after debounce window delay (inputs ++ [(now, x)])
    = ((after debounce window delay inputs).step now x).1
  := by
  rw [after, run_append_singleton]
  rfl

/-- No section has had two saves under way at once, and now there is none under way. -/
structure AtRest (debounce window delay : Nat) (inputs : List (Nat × ServiceInput)) : Prop where
  oneEach : ∀ earlier, earlier <+: inputs →
    (after debounce window delay earlier).bridge.autosave.OneEach
  saves : (after debounce window delay inputs).bridge.autosave.saves = []

/-- In a run without saves no section has had two under way. -/
theorem atRest_of_inits
    (h : ∀ earlier ∈ inputs.inits,
      (after debounce window delay earlier).bridge.autosave.saves = []) :
  AtRest debounce window delay inputs
  := by
  constructor
  · intro earlier hearlier name
    rw [Autosave.savesOf, h earlier ((List.mem_inits _ _).mpr hearlier)]
    apply Nat.zero_le
  · apply h inputs ((List.mem_inits _ _).mpr (List.prefix_refl _))

theorem tidy_after
    (h : ∀ earlier, earlier <+: inputs →
      (after debounce window delay earlier).bridge.autosave.OneEach) :
  (after debounce window delay inputs).bridge.autosave.Tidy
  := by
  apply Channel.run_induction inputs (Autosave.tidy_ofDebounce debounce)
  intro earlier now x hbegins ih
  rw [after_append_singleton, autosave_step]
  split
  · apply ih.step (h earlier ((List.prefix_append _ _).trans hbegins))
  · apply ih

end Service

namespace Shutdown

variable {s : Service} {d : Shutdown}

/-- What a call of `stop` has done to the drafts that there were.  The sections have been sent in
ascending order, each at most once, and every request carried the whole draft.  A section has only
been left out when a request beside the call had been confirmed by then; if there was none, every
section has been sent exactly once.  The drafts that are gone are those of which a save has been
confirmed, and no save of the call is under way any more. -/
structure Saved (s : Service) (d : Shutdown) : Prop where
  ascending : s.bridge.autosave.pendingNames.Pairwise (· < ·)
  inTurn : (d.sent.map Save.name).Sublist s.bridge.autosave.pendingNames
  whole : ∀ v ∈ d.sent ++ d.aside, s.bridge.autosave.pending? v.name = some v.fields
  covered : ∀ name ∈ s.bridge.autosave.pendingNames,
    name ∈ d.sent.map Save.name ∨ ∃ v ∈ d.aside, v ∈ d.confirmed ∧ v.name = name
  once : d.aside = [] → d.sent.map Save.name = s.bridge.autosave.pendingNames
  known : ∀ v ∈ d.confirmed, v ∈ d.sent ++ d.aside
  left : ∀ name, d.service.bridge.autosave.pending? name
    = if ∃ v ∈ d.confirmed, v.name = name then none else s.bridge.autosave.pending? name
  underway : ∀ v ∈ d.service.bridge.autosave.saves, v ∈ d.aside

theorem Saves.saved (h : Saves s d) (hwired : s.bridge.autosave.Wired)
    (hreturned : d.phase = .returned) :
  Saved s d
  := by
  have hascending := hwired.pairwise_pendingNames
  have hpending (a : Autosave) (name : String) :
      a.pending? name = (a.content? name).map Prod.fst := by
    rw [Autosave.pending?, Autosave.content?]
    cases a.draft? name <;> rfl
  have hnodup : s.bridge.autosave.pendingNames.Nodup := by
    apply hascending.imp
    rintro name _ hlt rfl
    apply String.lt_irrefl name hlt
  obtain ⟨done, hnames, hsublist, hdone⟩ := h.inTurn
  rw [hreturned, StopPhase.rest, List.append_nil] at hnames
  rw [← hnames] at hsublist hdone
  constructor
  · apply hascending
  · apply hsublist
  · intro v hv
    rw [hpending, h.whole v hv]
    rfl
  · apply hdone
  · intro haside
    apply hsublist.eq_of_length_le
    apply List.Subperm.length_le
    apply hnodup.subperm
    intro name hname
    obtain hsent | ⟨v, hv, _⟩ := hdone name hname
    · apply hsent
    · rw [haside] at hv
      cases hv
  · apply h.known
  · intro name
    rw [hpending, hpending, h.settles.content]
    split <;> rfl
  · intro v hv
    obtain hv | ⟨_, rest, hphase⟩ := h.underway v hv
    · apply hv
    · rw [hreturned] at hphase
      cases hphase

/-- The bridge after some calls and answers is stopped, and then something goes on in it. -/
def stopping (debounce window delay : Nat) (earlier : List (Nat × ServiceInput))
    (inputs : List (Nat × ShutdownInput)) : Shutdown :=
  (ofService (.after debounce window delay earlier)).run inputs

/-- A call of `stop` that nobody disturbs can always be brought to its end.  When it has returned,
all drafts that there were have been saved, as far as the backend has confirmed it; and as long as
nobody makes another call, there is silence but for what was under way. -/
theorem saved_then_silent {debounce window delay : Nat} {earlier : List (Nat × ServiceInput)}
    (hrest : Service.AtRest debounce window delay earlier)
    (hstopping : (Service.after debounce window delay earlier).bridge.channel.stopping = [])
    {during : List (Nat × ShutdownInput)} (hduring : Undisturbed during) :
  (stopping debounce window delay earlier during).CanEnd
    ∧ ((stopping debounce window delay earlier during).phase = .returned →
      Saved (.after debounce window delay earlier) (stopping debounce window delay earlier during)
        ∧ ∀ later, Alone later →
          Silent (stopping debounce window delay earlier during)
            ((stopping debounce window delay earlier during).run later))
  := by
  have htidy := Service.tidy_after hrest.oneEach
  have hsound := Service.sound_channel_run debounce window delay earlier
  have hparked : (Service.after debounce window delay earlier).Parked :=
    Service.parked_run (fun _ => ⟨rfl, rfl⟩) earlier
  have horder : InOrder (.after debounce window delay earlier)
      (stopping debounce window delay earlier during) :=
    inOrder_run htidy hrest.saves hsound hstopping hparked hduring
  use horder.canEnd htidy.toWired 0
  intro hreturned
  use horder.saves.saved htidy.toWired hreturned
  intro later hlater
  apply horder.silent_run htidy.toWired hreturned hlater

/-- Two sections are edited. -/
def edited : List (Nat × ServiceInput) :=
  [(0, .settings (.edit 0 "m" "a" (.int 1))), (1, .settings (.edit 1 "n" "b" (.int 2)))]

/-- A save is answered. -/
def answers (save : Nat) (reply : SettingsResponse) : ShutdownInput :=
  .other (.settings (.answer save (.ok reply)))

/-- The save of one section is refused, and that of the other confirmed. -/
def refusedOnce : List (Nat × ShutdownInput) :=
  [(2, .proceed), (3, answers 2 ⟨"error", none, some "disk full"⟩), (3, .proceed), (3, .proceed),
    (4, answers 3 ⟨"success", some "N", none⟩), (4, .proceed), (4, .proceed), (4, .proceed)]

theorem atRest_edited :
  Service.AtRest 1000 5000 2000 edited
  := by
  apply Service.atRest_of_inits
  decide +kernel

/-- Both sections have been sent, and the draft that was refused is still there. -/
theorem saved_then_silent_refusedOnce :
  Saved (.after 1000 5000 2000 edited) (stopping 1000 5000 2000 edited refusedOnce)
    ∧ (stopping 1000 5000 2000 edited refusedOnce).sent.map Save.request
      = [⟨"m", [("a", .int 1)]⟩, ⟨"n", [("b", .int 2)]⟩]
    ∧ (stopping 1000 5000 2000 edited refusedOnce).service.bridge.autosave.pendingNames = ["m"]
    ∧ Silent (stopping 1000 5000 2000 edited refusedOnce)
      ((stopping 1000 5000 2000 edited refusedOnce).run [(9000, .other .tick)])
  := by
  have hundisturbed : Undisturbed refusedOnce := by
    simp [Undisturbed, refusedOnce, answers, ServiceInput.meddles]
  have hstopping : (Service.after 1000 5000 2000 edited).bridge.channel.stopping = [] := by
    decide +kernel
  have hreturned : (stopping 1000 5000 2000 edited refusedOnce).phase = .returned := by
    decide +kernel
  have halone : Alone [(9000, .other .tick)] := by
    simp [Alone, ServiceInput.isCall, ServiceInput.meddles]
  obtain ⟨_, hdone⟩ := saved_then_silent atRest_edited hstopping hundisturbed
  obtain ⟨hsaved, hsilent⟩ := hdone hreturned
  use hsaved
  constructor
  · decide +kernel
  · constructor
    · decide +kernel
    · apply hsilent _ halone

/-! ### Calls that are disturbed -/

/-- While the answer to a save is awaited, the other section has been quiet for long enough. -/
def overtaken : List (Nat × ShutdownInput) :=
  [(2, .proceed), (1001, .other (.settings (.fire 1))),
    (2002, answers 2 ⟨"success", some "M", none⟩), (2002, .proceed), (2002, .proceed),
    (2002, answers 4 ⟨"success", some "N", none⟩), (2002, .proceed), (2002, .proceed),
    (2002, .proceed)]

/-- The answer to the save of the other section is there when its turn comes. -/
def forestalled : List (Nat × ShutdownInput) :=
  [(2, .proceed), (1001, .other (.settings (.fire 1))),
    (1500, answers 3 ⟨"success", some "N", none⟩), (2002, answers 2 ⟨"success", some "M", none⟩),
    (2002, .proceed), (2002, .proceed), (2002, .proceed), (2002, .proceed)]

/-- Another call of `stop` is waiting for a supervisor that has not noticed it. -/
def stoppedBefore : List (Nat × ServiceInput) :=
  [(0, .start), (0, .channel (.start 0)), (1, .channel .stop)]

/-- The supervisor gets through to the backend meanwhile. -/
def gotThrough : List (Nat × ShutdownInput) :=
  (2, .proceed) :: (3, .other (.channel (.dialed 0 true)))
    :: beside [(4, .take), (4, .pass), (4, .take), (4, .pass), (4, .take), (4, .pass)]
    ++ [(4, .proceed)]

/-- The bridge is started meanwhile. -/
def startedMeanwhile : List (Nat × ShutdownInput) :=
  [(0, .proceed), (0, .other .start), (0, .proceed)]

/-- An actuator is to be held, and the backend has not answered. -/
def orderedBefore : List (Nat × ServiceInput) := [(0, .order (.set "fan" (.switch true)))]

/-- The backend refuses after the call. -/
def refusedLate : ShutdownInput :=
  .other (.reply 0 (.answered 200 "\x7b\"status\":\"error\"\x7d".toUTF8.toList))

/-- Nobody edits in these calls, and each has returned.  A timer that runs down meanwhile has its
section sent beside the call, which sends it once more, or not at all, if it has been saved by then;
and the answer may come after the call.  Where another call of `stop` has
been waiting, the channel may be open in the end; where the bridge is started meanwhile, somebody
dials later; and an order that was given before may be answered later. -/
theorem disturbed_stops :
  (Service.AtRest 1000 5000 2000 edited
      ∧ (stopping 1000 5000 2000 edited overtaken).phase = .returned
      ∧ (stopping 1000 5000 2000 edited overtaken).sent.map Save.name = ["m", "n"]
      ∧ (stopping 1000 5000 2000 edited overtaken).aside.map Save.name = ["n"]
      ∧ (stopping 1000 5000 2000 edited
          (overtaken ++ [(6001, answers 3 ⟨"success", some "L", none⟩)])).events
        = (stopping 1000 5000 2000 edited overtaken).events ++ [.settingsSaved "n" "L"]
      ∧ (stopping 1000 5000 2000 edited forestalled).phase = .returned
      ∧ (stopping 1000 5000 2000 edited forestalled).sent.map Save.name = ["m"])
    ∧ (Service.AtRest 1000 5000 2000 stoppedBefore
      ∧ (stopping 1000 5000 2000 stoppedBefore gotThrough).phase = .returned
      ∧ (stopping 1000 5000 2000 stoppedBefore gotThrough).service.bridge.channel.state = .opened)
    ∧ (Service.AtRest 1000 5000 2000 []
      ∧ (stopping 1000 5000 2000 [] startedMeanwhile).phase = .returned
      ∧ (stopping 1000 5000 2000 []
          (startedMeanwhile ++ [(1, .other (.channel (.start 0)))])).dials = [0])
    ∧ Service.AtRest 1000 5000 2000 orderedBefore
      ∧ (stopping 1000 5000 2000 orderedBefore [(1, .proceed), (1, .proceed)]).phase = .returned
      ∧ (stopping 1000 5000 2000 orderedBefore
          [(1, .proceed), (1, .proceed), (2, refusedLate)]).events.length = 1
  := by
  refine ⟨⟨atRest_edited, ?_⟩, ⟨Service.atRest_of_inits ?_, ?_⟩, ⟨Service.atRest_of_inits ?_, ?_⟩,
    Service.atRest_of_inits ?_, ?_⟩
  all_goals decide +kernel

end Shutdown

end Greenhouse
