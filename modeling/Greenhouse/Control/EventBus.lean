/-!
# The event bus

An `EventBus` hands events to any number of listeners.  It keeps the last events only, as
many as its limit says; the limit is the capacity asked for, rounded up to a power of two.
A listener that falls behind goes on with the oldest event that is still there.
-/

namespace Greenhouse

/-- A bus for events of a type. -/
structure EventBus (ε : Type) where
  /-- How many events are kept. -/
  limit : Nat
  /-- How many events have been published. -/
  sent : Nat
  /-- The events kept, oldest first. -/
  held : List ε
  /-- The listeners, and the number of events before the next one of each. -/
  cursors : List (Nat × Nat)
  /-- The number of the next listener. -/
  fresh : Nat

namespace EventBus

variable {ε : Type}

/-- The least power of two that is at least `n`, from a power of two not above it. -/
def roundUp (n : Nat) : Nat := Nat.pow 2 (if n ≤ 1 then 0 else (n - 1).log2 + 1)

/-- The bytes that a place for an event takes. -/
def placeBytes : Nat := 104

/-- The most bytes that something may take. -/
def mostBytes : Nat := Nat.pow 2 63 - 1

/-- Whether a bus of a capacity can be had when each place takes so many bytes: its places can be
counted, and no more bytes are asked for than there may be. -/
def canHold (place capacity : Nat) : Bool :=
  capacity ≤ mostBytes && roundUp capacity * place ≤ mostBytes

/-- A bus without listeners. -/
def ofCapacity (capacity : Nat) : EventBus ε := ⟨roundUp capacity, 0, [], [], 0⟩

/-- The number of listeners. -/
def listeners (b : EventBus ε) : Nat := b.cursors.length

/-- Publishes an event.  Without listeners nothing is kept. -/
def publish (b : EventBus ε) (e : ε) : EventBus ε :=
  if b.cursors.isEmpty then b
  else
    let held := b.held ++ [e]
    { b with sent := b.sent + 1, held := held.drop (held.length - b.limit) }

/-- A new listener, which hears what is published from now on, and its number. -/
def subscribe (b : EventBus ε) : EventBus ε × Nat :=
  ({ b with cursors := b.cursors ++ [(b.fresh, b.sent)], fresh := b.fresh + 1 }, b.fresh)

/-- A listener leaves. -/
def unsubscribe (b : EventBus ε) (listener : Nat) : EventBus ε :=
  { b with cursors := b.cursors.filter fun (n, _) => n != listener }

/-- The position of a listener. -/
def cursor? (b : EventBus ε) (listener : Nat) : Option Nat :=
  (b.cursors.find? fun (n, _) => n == listener).map Prod.snd

/-- The number of events before the oldest one kept. -/
def oldest (b : EventBus ε) : Nat := b.sent - b.held.length

/-- The events that a listener has not taken, as far as they are kept. -/
def unread (b : EventBus ε) (listener : Nat) : List ε :=
  match b.cursor? listener with
  | some next => b.held.drop (next - b.oldest)
  | none => []

/-- A listener's position is set. -/
def moveTo (b : EventBus ε) (listener position : Nat) : EventBus ε :=
  { b with
    cursors := b.cursors.map fun (n, next) => (n, if n = listener then position else next) }

/-- The number of events that a listener has not taken and that are no longer kept. -/
def lag (b : EventBus ε) (listener : Nat) : Nat :=
  match b.cursor? listener with
  | some next => b.oldest - next
  | none => 0

/-- What a listener sees when it looks for its next event. -/
inductive Sight (ε : Type) where
  | event (e : ε)
  /-- It has fallen behind: so many events that it has not taken are no longer kept. -/
  | missed (count : Nat)
  | nothing

/-- A listener looks for its next event.  If it has fallen behind, it goes on to the oldest event
that is kept, and is told so. -/
def look (b : EventBus ε) (listener : Nat) : EventBus ε × Sight ε :=
  match b.cursor? listener with
  | none => (b, .nothing)
  | some next =>
    if next < b.oldest then (b.moveTo listener b.oldest, .missed (b.oldest - next))
    else
      match b.held[next - b.oldest]? with
      | some e => (b.moveTo listener (next + 1), .event e)
      | none => (b, .nothing)

theorem cursor?_moveTo (b : EventBus ε) (listener position : Nat) :
  (b.moveTo listener position).cursor? listener = (b.cursor? listener).map fun _ => position
  := by
  unfold cursor? moveTo
  induction b.cursors with
  | nil => rfl
  | cons entry rest ih => by_cases h : entry.1 = listener <;> simp_all

/-- A listener that has been told that it has fallen behind is behind no longer. -/
theorem lag_of_look {b after : EventBus ε} {listener count : Nat}
    (h : b.look listener = (after, .missed count)) :
  count = b.lag listener ∧ 0 < count ∧ after.lag listener = 0
  := by
  unfold look at h
  split at h
  · nomatch h
  · next next hnext =>
      split at h
      · next hbehind =>
          obtain ⟨rfl, ⟨⟩⟩ := Prod.mk.inj h
          have hafter : (b.moveTo listener b.oldest).lag listener = b.oldest - b.oldest := by
            rw [lag, cursor?_moveTo, hnext]
            rfl
          rw [lag, hnext, hafter, Nat.sub_self]
          exact ⟨rfl, Nat.sub_pos_of_lt hbehind, rfl⟩
      · split at h <;> nomatch h

/-- A listener takes its next event: it looks until it sees one or there is none. -/
def receive (b : EventBus ε) (listener : Nat) : EventBus ε × Option ε :=
  match _ : b.look listener with
  | (b, .event e) => (b, some e)
  | (b, .nothing) => (b, none)
  | (after, .missed _) => after.receive listener
termination_by b.lag listener
decreasing_by
  obtain ⟨hcount, hpos, hafter⟩ := lag_of_look ‹b.look listener = _›
  omega

/-- A listener takes all its events. -/
def drain (b : EventBus ε) (listener : Nat) : EventBus ε × List ε :=
  (b.moveTo listener b.sent, b.unread listener)

end EventBus

end Greenhouse
