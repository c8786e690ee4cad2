import Mathlib.Data.List.Induction
import Greenhouse.Proofs.Events.Place

/-!
# What a listener hears

Any number of listeners come, take their events or wait for them, and leave, while events are
published.  All that matters to a listener is what it notices itself: the events published since it
came, and when it asked for one.  Its `Account` is made from that alone, without the bus.

The main statement is that the bus gives every listener what its account says: the events
published since it came, in their order and none of them twice.  It passes over events only when it
has fallen behind by more than are kept, and then goes on with the oldest one that is.
-/

namespace Greenhouse.EventBus

variable {ε : Type}

/-! ### Runs -/

/-- What is done with a bus. -/
inductive Act (ε : Type) where
  | publish (e : ε)
  | subscribe
  | unsubscribe (listener : Nat)
  /-- A listener takes its next event, if there is one. -/
  | take (listener : Nat)
  /-- A listener waits for its next event.  A wait that is not over is looked after again later. -/
  | await (listener : Nat)

/-- What comes of it. -/
inductive Answer (ε : Type) where
  /-- An event was published to so many listeners. -/
  | reached (count : Nat)
  /-- There is a new listener of this number. -/
  | joined (listener : Nat)
  | left
  | event (e : ε)
  /-- There is no event to take. -/
  | nothing
  /-- The wait is not over. -/
  | waiting

/-- The bus after an act, and the answer. -/
def step (b : EventBus ε) : Act ε → EventBus ε × Answer ε
  | .publish e => (b.publish e, .reached b.listeners)
  | .subscribe => (b.subscribe.1, .joined b.subscribe.2)
  | .unsubscribe listener => (b.unsubscribe listener, .left)
  | .take listener => ((b.receive listener).1, (b.receive listener).2.elim .nothing .event)
  | .await listener => ((b.receive listener).1, (b.receive listener).2.elim .waiting .event)

/-- The bus after some acts, and the acts with their answers. -/
def run (b : EventBus ε) (acts : List (Act ε)) : EventBus ε × List (Act ε × Answer ε) :=
  acts.foldl (fun (b, log) act => ((b.step act).1, log ++ [(act, (b.step act).2)])) (b, [])

/-- The event that a listener was given, if the answer to it was one. -/
def givenTo? (listener : Nat) : Act ε × Answer ε → Option ε
  | (.take n, .event e) | (.await n, .event e) => if n = listener then some e else none
  | _ => none

/-- The events that a listener was given. -/
def given (listener : Nat) (log : List (Act ε × Answer ε)) : List ε :=
  log.filterMap (givenTo? listener)

theorem run_append_singleton (b : EventBus ε) (acts : List (Act ε)) (act : Act ε) :
  b.run (acts ++ [act])
    = (((b.run acts).1.step act).1, (b.run acts).2 ++ [(act, ((b.run acts).1.step act).2)])
  := by
  rw [run, List.foldl_append]
  rfl

/-! ### Listeners by themselves -/

/-- What a listener notices: an event is published, or it asks for one. -/
inductive Notice (ε : Type) where
  | news (e : ε)
  | asks

/-- The number of listeners that have come, and what one of them has noticed while it is there. -/
def notice (listener : Nat) :
    Nat × Option (List (Notice ε)) → Act ε → Nat × Option (List (Notice ε))
  | (count, noticed), .publish e => (count, noticed.map (· ++ [.news e]))
  | (count, noticed), .subscribe => (count + 1, if count = listener then some [] else noticed)
  | (count, noticed), .unsubscribe n => (count, if n = listener then none else noticed)
  | (count, noticed), .take n | (count, noticed), .await n =>
    (count, if n = listener then noticed.map (· ++ [.asks]) else noticed)

/-- What a listener has noticed in the course of some acts, if it has come and not left. -/
def noticed? (listener : Nat) (acts : List (Act ε)) : Option (List (Notice ε)) :=
  (acts.foldl (notice listener) (0, none)).2

/-- What becomes of a listener that nobody else disturbs. -/
structure Account (ε : Type) where
  /-- The events published since it came. -/
  heard : List ε
  /-- Those of them behind the last one that it was given. -/
  unread : List ε
  /-- Those that it was given. -/
  taken : List ε

namespace Account

/-- The next event, when so many are kept: the oldest one of the last so many that are unread. -/
def next? (limit : Nat) (a : Account ε) : Option ε := a.unread[a.unread.length - limit]?

/-- An account with one more notice. -/
def enter (limit : Nat) (a : Account ε) : Notice ε → Account ε
  | .news e => { a with heard := a.heard ++ [e], unread := a.unread ++ [e] }
  | .asks =>
    { a with
      unread := a.unread.drop (a.unread.length - limit + 1)
      taken := a.taken ++ (a.next? limit).toList }

/-- The account of what a listener has noticed. -/
def ofNotices (limit : Nat) (notices : List (Notice ε)) : Account ε :=
  notices.foldl (enter limit) ⟨[], [], []⟩

theorem ofNotices_append_singleton (limit : Nat) (notices : List (Notice ε)) (n : Notice ε) :
  ofNotices limit (notices ++ [n]) = (ofNotices limit notices).enter limit n
  := by
  rw [ofNotices, List.foldl_append]
  rfl

/-- As long as any are kept, there is a next event unless all have been taken. -/
theorem next?_eq_none {limit : Nat} (hlimit : 0 < limit) (a : Account ε) :
  a.next? limit = none ↔ a.unread = []
  := by
  rw [next?, List.getElem?_eq_none_iff, ← List.length_eq_zero_iff]
  omega

theorem next?_of_length_le {limit : Nat} {a : Account ε} (h : a.unread.length ≤ limit) :
  a.next? limit = a.unread.head?
  := by rw [next?, Nat.sub_eq_zero_of_le h, List.head?_eq_getElem?]

/-- What is unread is the end of what was heard, and what was given comes from before it, in
order. -/
def Orderly (a : Account ε) : Prop :=
  ∃ passed, a.heard = passed ++ a.unread ∧ a.taken.Sublist passed

theorem Orderly.enter {limit : Nat} {a : Account ε} (h : a.Orderly) (n : Notice ε) :
  (a.enter limit n).Orderly
  := by
  obtain ⟨passed, hheard, htaken⟩ := h
  cases n with
  | news e =>
      use passed
      constructor
      · change a.heard ++ [e] = passed ++ (a.unread ++ [e])
        rw [hheard, List.append_assoc]
      · apply htaken
  | asks =>
      let skipped := a.unread.length - limit
      use passed ++ a.unread.take (skipped + 1)
      constructor
      · change a.heard = passed ++ a.unread.take (skipped + 1) ++ a.unread.drop (skipped + 1)
        rw [List.append_assoc, List.take_append_drop, hheard]
      · apply List.Sublist.append htaken
        change (a.unread[skipped]?.toList).Sublist (a.unread.take (skipped + 1))
        rw [List.take_add_one]
        apply List.sublist_append_right

theorem orderly_ofNotices (limit : Nat) (notices : List (Notice ε)) :
  (ofNotices limit notices).Orderly
  := by
  induction notices using List.reverseRecOn with
  | nil => use [], rfl, List.Sublist.refl []
  | append_singleton notices n ih =>
      rw [ofNotices_append_singleton]
      apply ih.enter

end Account

/-! ### A listener among others -/

/-- How a listener stands after a run, by what it has noticed: in front of what is unread by its
account, and given what it was given by its account. -/
structure Tracks (listener : Nat) (all : List ε) (b : EventBus ε) (log : List (Act ε × Answer ε))
    (seen : Nat × Option (List (Notice ε))) : Prop where
  sound : b.Sound all
  count : seen.1 = b.fresh
  away : seen.2 = none → b.cursor? listener = none
  stands : ∀ notices, seen.2 = some notices →
    StandsBefore b listener all (Account.ofNotices b.limit notices).unread
  taken : ∀ notices, seen.2 = some notices →
    given listener log = (Account.ofNotices b.limit notices).taken
  fresh : b.fresh ≤ listener → given listener log = []

theorem given_append_singleton (listener : Nat) (log : List (Act ε × Answer ε))
    (entry : Act ε × Answer ε) :
  given listener (log ++ [entry]) = given listener log ++ (givenTo? listener entry).toList
  := by
  rw [given, List.filterMap_append]
  cases h : givenTo? listener entry <;> simp [given, h]

/-- What is no gift to a listener leaves what it was given. -/
theorem given_append_of_none {listener : Nat} (log : List (Act ε × Answer ε))
    {entry : Act ε × Answer ε} (h : givenTo? listener entry = none) :
  given listener (log ++ [entry]) = given listener log
  := by
  rw [given_append_singleton, h]
  apply List.append_nil

section
variable {listener : Nat} {all : List ε} {b : EventBus ε} {log : List (Act ε × Answer ε)}
  {count : Nat} {noticed : Option (List (Notice ε))}
  (h : Tracks listener all b log (count, noticed))
include h

/-- What leaves a listener where it is, and gives it nothing. -/
theorem Tracks.aside {b' : EventBus ε} (hsound : b'.Sound all) (hlimit : b'.limit = b.limit)
    (hfresh : b.fresh ≤ b'.fresh) (hcursor : b'.cursor? listener = b.cursor? listener)
    {entry : Act ε × Answer ε} (hentry : givenTo? listener entry = none) :
  Tracks listener all b' (log ++ [entry]) (b'.fresh, noticed)
  := by
  have hgiven := given_append_of_none log hentry
  constructor
  · apply hsound
  · rfl
  · rw [hcursor]
    apply h.away
  · intro notices hsome
    obtain ⟨before, hall, hstands⟩ := h.stands notices hsome
    rw [hlimit]
    use before, hall, hcursor.trans hstands
  · rw [hlimit, hgiven]
    apply h.taken
  · intro hle
    apply hgiven.trans (h.fresh (Nat.le_trans hfresh hle))

theorem Tracks.publish (e : ε) :
  ∃ all', Tracks listener all' (b.publish e) (log ++ [(.publish e, .reached b.listeners)])
    (notice listener (count, noticed) (.publish e))
  := by
  have hcount : count = b.fresh := h.count
  by_cases hlisteners : b.cursors = []
  · have hpublish : b.publish e = b := by rw [EventBus.publish, hlisteners]; rfl
    have haway : b.cursor? listener = none := by rw [cursor?, hlisteners]; rfl
    have hnoticed : noticed = none := by
      apply Option.eq_none_iff_forall_ne_some.mpr
      intro notices hsome
      obtain ⟨before, _, hcursor⟩ := h.stands notices hsome
      rw [haway] at hcursor
      cases hcursor
    subst hnoticed
    use all
    rw [hpublish, hcount]
    apply h.aside h.sound rfl (Nat.le_refl _) rfl rfl
  · have hpublish : (b.publish e).cursors = b.cursors ∧ (b.publish e).limit = b.limit
        ∧ (b.publish e).fresh = b.fresh := by
      rw [EventBus.publish, if_neg (by simpa using hlisteners)]
      exact ⟨rfl, rfl, rfl⟩
    obtain ⟨hcursors, hlimit, hfresh⟩ := hpublish
    have hcursor : (b.publish e).cursor? listener = b.cursor? listener := by
      rw [cursor?, hcursors, cursor?]
    have hgiven : given listener (log ++ [(.publish e, .reached b.listeners)])
        = given listener log := given_append_of_none log rfl
    use all ++ [e]
    constructor
    · apply h.sound.publish hlisteners
    · apply hcount.trans hfresh.symm
    · intro hnone
      rw [hcursor]
      apply h.away (Option.map_eq_none_iff.mp hnone)
    · intro notices hsome
      obtain ⟨old, hold, rfl⟩ := Option.map_eq_some_iff.mp hsome
      obtain ⟨before, hall, hstands⟩ := h.stands old hold
      use before
      rw [hlimit, Account.ofNotices_append_singleton, hcursor]
      constructor
      · rw [hall, List.append_assoc]
        rfl
      · apply hstands
    · intro notices hsome
      obtain ⟨old, hold, rfl⟩ := Option.map_eq_some_iff.mp hsome
      rw [hlimit, Account.ofNotices_append_singleton, hgiven]
      apply h.taken old hold
    · intro hle
      rw [hfresh] at hle
      apply hgiven.trans (h.fresh hle)

theorem Tracks.subscribe :
  Tracks listener all b.subscribe.1 (log ++ [(.subscribe, .joined b.subscribe.2)])
    (notice listener (count, noticed) .subscribe)
  := by
  have hcount : count = b.fresh := h.count
  have hcursor := cursor?_subscribe h.sound.below listener
  have hseen : notice listener (count, noticed) (.subscribe : Act ε)
      = (b.fresh + 1, if b.fresh = listener then some [] else noticed) := by rw [← hcount]; rfl
  rw [hseen]
  by_cases hnew : b.fresh = listener
  · rw [if_pos hnew] at hcursor ⊢
    have hgiven : given listener (log ++ [(.subscribe, .joined b.subscribe.2)]) = [] := by
      rw [given_append_of_none log rfl]
      apply h.fresh (Nat.le_of_eq hnew)
    constructor
    · apply h.sound.subscribe
    · rfl
    · nofun
    · rintro _ ⟨⟩
      use all, (List.append_nil all).symm
      rw [hcursor, h.sound.sent]
    · rintro _ ⟨⟩
      apply hgiven
    · intro _
      apply hgiven
  · rw [if_neg hnew] at hcursor ⊢
    apply h.aside h.sound.subscribe rfl (Nat.le_succ _) hcursor rfl

theorem Tracks.unsubscribe (n : Nat) :
  Tracks listener all (b.unsubscribe n) (log ++ [(.unsubscribe n, .left)])
    (notice listener (count, noticed) (.unsubscribe n))
  := by
  have hcount : count = b.fresh := h.count
  have hcursor := cursor?_unsubscribe b n listener
  have hseen : notice listener (count, noticed) (.unsubscribe n : Act ε)
      = (b.fresh, if n = listener then none else noticed) := by rw [← hcount]; rfl
  rw [hseen]
  by_cases hself : n = listener
  · rw [if_pos hself] at hcursor ⊢
    have hgiven : given listener (log ++ [(.unsubscribe n, .left)]) = given listener log :=
      given_append_of_none log rfl
    constructor
    · apply h.sound.unsubscribe
    · rfl
    · intro _
      apply hcursor
    · nofun
    · nofun
    · intro hle
      apply hgiven.trans (h.fresh hle)
  · rw [if_neg hself] at hcursor ⊢
    apply h.aside (h.sound.unsubscribe n) rfl (Nat.le_refl _) hcursor rfl

/-- Somebody else asks for an event. -/
theorem Tracks.other {n : Nat} (hother : n ≠ listener) {entry : Act ε × Answer ε}
    (hentry : givenTo? listener entry = none) :
  Tracks listener all (b.receive n).1 (log ++ [entry]) (count, noticed)
  := by
  have hcount : count = b.fresh := h.count
  have hfresh : (b.receive n).1.fresh = b.fresh := fresh_receive b n
  rw [hcount, ← hfresh]
  apply h.aside (h.sound.received n) (limit_receive b n) (Nat.le_of_eq hfresh.symm)
    (cursor?_receive_of_ne b hother.symm) hentry

/-- The listener itself asks for an event. -/
theorem Tracks.self (hlimit : 0 < b.limit) {entry : Act ε × Answer ε}
    (hentry : givenTo? listener entry = (b.receive listener).2) :
  Tracks listener all (b.receive listener).1 (log ++ [entry])
    (count, noticed.map (· ++ [.asks]))
  := by
  have hgiven := given_append_singleton listener log entry
  rw [hentry] at hgiven
  cases noticed with
  | none =>
      have haway : b.cursor? listener = none := h.away rfl
      rw [receive_of_none haway] at hgiven ⊢
      have hsame : given listener (log ++ [entry]) = given listener log :=
        hgiven.trans (List.append_nil _)
      exact ⟨h.sound, h.count, h.away, nofun, nofun, hsame ▸ h.fresh⟩
  | some notices =>
      have hstands := h.stands notices rfl
      have hbelow : listener < b.fresh := hstands.lt_fresh h.sound
      have hasks : Account.ofNotices b.limit (notices ++ [.asks])
          = (Account.ofNotices b.limit notices).enter b.limit .asks :=
        Account.ofNotices_append_singleton _ _ _
      have hlimit' : (b.receive listener).1.limit = b.limit := limit_receive b listener
      have hfresh : (b.receive listener).1.fresh = b.fresh := fresh_receive b listener
      constructor
      · apply h.sound.received
      · apply h.count.trans hfresh.symm
      · nofun
      · rintro _ ⟨⟩
        rw [hlimit', hasks]
        apply hstands.received h.sound hlimit
      · rintro _ ⟨⟩
        rw [hlimit', hasks, hgiven, h.taken notices rfl, hstands.receive_snd h.sound hlimit]
        rfl
      · intro hle
        rw [hfresh] at hle
        apply absurd hbelow (Nat.not_lt_of_le hle)

/-- A listener asks for an event, be it to take it or to wait for it. -/
theorem Tracks.ask (hlimit : 0 < b.limit) {n : Nat} {entry : Act ε × Answer ε}
    (hentry : givenTo? listener entry = if n = listener then (b.receive n).2 else none) :
  Tracks listener all (b.receive n).1 (log ++ [entry])
    (count, if n = listener then noticed.map (· ++ [.asks]) else noticed)
  := by
  by_cases hself : n = listener
  · subst hself
    rw [if_pos rfl] at hentry ⊢
    apply h.self hlimit hentry
  · rw [if_neg hself] at hentry ⊢
    apply h.other hself hentry

theorem Tracks.step (hlimit : 0 < b.limit) (act : Act ε) :
  ∃ all', Tracks listener all' (b.step act).1 (log ++ [(act, (b.step act).2)])
    (notice listener (count, noticed) act)
  := by
  cases act with
  | publish e => apply h.publish
  | subscribe => use all; apply h.subscribe
  | unsubscribe n => use all; apply h.unsubscribe
  | take n =>
      use all
      apply h.ask hlimit
      change givenTo? listener (.take n, (b.receive n).2.elim .nothing .event) = _
      cases (b.receive n).2 with
      | none => simp [givenTo?]
      | some e => rfl
  | await n =>
      use all
      apply h.ask hlimit
      change givenTo? listener (.await n, (b.receive n).2.elim .waiting .event) = _
      cases (b.receive n).2 with
      | none => simp [givenTo?]
      | some e => rfl

end

/-! ### Whole runs -/

theorem limit_step (b : EventBus ε) (act : Act ε) :
  (b.step act).1.limit = b.limit
  := by
  cases act with
  | publish e =>
      change (b.publish e).limit = b.limit
      unfold publish
      split <;> rfl
  | subscribe => rfl
  | unsubscribe n => rfl
  | take n | await n => apply limit_receive

theorem limit_run (b : EventBus ε) (acts : List (Act ε)) :
  (b.run acts).1.limit = b.limit
  := by
  induction acts using List.reverseRecOn with
  | nil => rfl
  | append_singleton acts act ih => rw [run_append_singleton, limit_step, ih]

theorem tracks_run (capacity listener : Nat) (acts : List (Act ε)) :
  ∃ all, Tracks listener all ((ofCapacity capacity).run acts).1 ((ofCapacity capacity).run acts).2
    (acts.foldl (notice listener) (0, none))
  := by
  induction acts using List.reverseRecOn with
  | nil => exact ⟨[], sound_ofCapacity capacity, rfl, fun _ => rfl, nofun, nofun, fun _ => rfl⟩
  | append_singleton acts act ih =>
      obtain ⟨all, h⟩ := ih
      have hlimit : 0 < ((ofCapacity capacity : EventBus ε).run acts).1.limit := by
        rw [limit_run]
        apply Nat.two_pow_pos
      rw [run_append_singleton, List.foldl_append]
      apply h.step hlimit

/-- The event that is published, if one is. -/
def Notice.news? : Notice ε → Option ε
  | .news e => some e
  | .asks => none

theorem Account.heard_ofNotices (limit : Nat) (notices : List (Notice ε)) :
  (ofNotices limit notices).heard = notices.filterMap Notice.news?
  := by
  induction notices using List.reverseRecOn with
  | nil => rfl
  | append_singleton notices n ih =>
      rw [ofNotices_append_singleton, List.filterMap_append, ← ih]
      cases n with
      | news e => rfl
      | asks =>
          symm
          apply List.append_nil

/-- A listener is given what its account says, whatever others do: some of the events published
since it came, in their order and none of them twice.  The next one is the first that is unread, or
the oldest one kept when more are unread than are kept, and that is told when it looks for it, once.
There is none only if nothing is unread. -/
theorem listens {capacity : Nat} {acts : List (Act ε)} {listener : Nat}
    {notices : List (Notice ε)} (h : noticed? listener acts = some notices) :
  let limit := roundUp capacity
  let b := ((ofCapacity capacity).run acts).1
  let log := ((ofCapacity capacity).run acts).2
  let a := Account.ofNotices limit notices
  IsLeast {n | max capacity 1 ≤ n ∧ ∃ k, n = 2 ^ k} limit
    ∧ given listener log = a.taken
    ∧ a.heard = notices.filterMap Notice.news?
    ∧ (∃ passed, a.heard = passed ++ a.unread ∧ a.taken.Sublist passed)
    ∧ (b.step (.take listener)).2 = (a.next? limit).elim .nothing .event
    ∧ (b.step (.await listener)).2 = (a.next? limit).elim .waiting .event
    ∧ (a.next? limit = none ↔ a.unread = [])
    ∧ (a.unread.length ≤ max capacity 1 → a.next? limit = a.unread.head?)
    ∧ (limit < a.unread.length →
      b.held = a.unread.drop (a.unread.length - limit) ∧ a.next? limit = b.held.head?)
    ∧ (∀ after count, b.look listener = (after, .missed count) →
      count = a.unread.length - limit ∧ ∀ again, (after.look listener).2 ≠ .missed again)
  := by
  intro limit b log a
  have hleast : IsLeast {n | max capacity 1 ≤ n ∧ ∃ k, n = 2 ^ k} limit := isLeast_roundUp capacity
  have hpos : 0 < limit :=
    Nat.lt_of_lt_of_le Nat.one_pos (Nat.le_trans (Nat.le_max_right _ _) hleast.1.1)
  have hlimit : b.limit = limit := limit_run _ acts
  obtain ⟨all, htracks⟩ := tracks_run capacity listener acts
  have htaken : given listener log = (Account.ofNotices b.limit notices).taken :=
    htracks.taken notices h
  have hstands : b.StandsBefore listener all (Account.ofNotices b.limit notices).unread :=
    htracks.stands notices h
  have hsound : b.Sound all := htracks.sound
  rw [hlimit] at htaken hstands
  have hreceive : (b.receive listener).2 = a.next? limit := by
    rw [hstands.receive_snd hsound (hlimit ▸ hpos), hlimit]
    rfl
  refine ⟨hleast, htaken, Account.heard_ofNotices limit notices,
    Account.orderly_ofNotices limit notices, ?_, ?_, Account.next?_eq_none hpos a, ?_, ?_, ?_⟩
  · rw [← hreceive]
    rfl
  · rw [← hreceive]
    rfl
  · intro hfew
    apply Account.next?_of_length_le (Nat.le_trans hfew hleast.1.1)
  · intro hgone
    have hmore : b.limit < a.unread.length := by
      rw [hlimit]
      apply hgone
    have hheld : b.held = a.unread.drop (a.unread.length - limit) := by
      rw [hstands.held_of_lt hsound hmore, hlimit]
    use hheld
    rw [hheld, List.head?_drop]
    rfl
  · intro after count hlook
    rw [← hlimit]
    apply hstands.count_of_missed hsound hlook

/-- Four events are kept for a capacity of three.  A listener who has taken the first of seven,
while another one came and left, goes on with the fourth. -/
theorem listens_overtaken :
  let acts : List (Act Nat) := [.subscribe, .publish 1, .subscribe, .await 0, .publish 2,
    .publish 3, .take 1, .publish 4, .publish 5, .unsubscribe 1, .publish 6, .publish 7]
  let notices : List (Notice Nat) :=
    [.news 1, .asks, .news 2, .news 3, .news 4, .news 5, .news 6, .news 7]
  let b := ((ofCapacity 3).run acts).1
  noticed? 0 acts = some notices
    ∧ given 0 ((ofCapacity 3).run acts).2 = [1]
    ∧ (b.step (.take 0)).2 = .event 4
    ∧ (b.step (.await 0)).2 = .event 4
    ∧ b.held = [4, 5, 6, 7]
  := by
  intro acts notices b
  have hnoticed : noticed? 0 acts = some notices := rfl
  obtain ⟨_, hgiven, _, _, htake, hawait, _, _, hheld, _⟩ := @listens _ 3 _ _ _ hnoticed
  obtain ⟨hkept, _⟩ := hheld (by decide)
  exact ⟨hnoticed, hgiven, htake, hawait, hkept⟩

end Greenhouse.EventBus
