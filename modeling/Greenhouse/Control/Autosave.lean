import Greenhouse.Control.Effect
import Greenhouse.Json.Record
import Greenhouse.Message.Settings
import Greenhouse.Time.Wait

/-!
# Autosave

The operator edits settings field by field.  The edits of a section are gathered in a
`Draft`, and the whole draft is sent once no edit has come for a while, or when the section
is closed.  A draft is given up only when the backend confirms a save of its last revision
with a checksum; after any other answer it stays, and is sent again only on the next edit or
close.

Every edit starts a timer and stops the one before it.  A timer keeps the revision for which
it was started, and does nothing when the draft has another one by then.  Timers and saves
are numbered, so that any number of them may be under way at the same time and end in any
order.  Times are in milliseconds.
-/

namespace Greenhouse

/-- The unsaved edits of a section. -/
structure Draft where
  fields : SettingsFields
  /-- The number of edits since the draft was begun. -/
  revision : Nat
  /-- The timer that the next edit or save would stop. -/
  timer : Option Nat
deriving DecidableEq

/-- A timer that will send a section. -/
structure SaveTimer where
  id : Nat
  name : String
  /-- The revision of the draft for which the timer was started. -/
  revision : Nat
  due : Nat
deriving DecidableEq

/-- A save that the backend has not answered yet. -/
structure Save where
  id : Nat
  name : String
  fields : SettingsFields
  /-- The revision of the draft that was sent. -/
  revision : Nat
deriving DecidableEq

/-- The request for a save. -/
def Save.request (s : Save) : SettingsRequest := ⟨s.name, s.fields⟩

/-- The drafts of all sections, the timers that run and the saves under way. -/
structure Autosave where
  /-- How long a section has to be quiet before it is sent. -/
  debounce : Nat
  drafts : Table Draft
  timers : List SaveTimer
  saves : List Save
  /-- The number of the next timer or save. -/
  fresh : Nat
deriving DecidableEq

/-- What the answer to a save amounts to: the checksum that confirms it, or what went
wrong. -/
def Save.outcome (s : Save) : Except RequestError SettingsResponse → Except SaveError String
  | .error cause => .error (.request s.name cause)
  | .ok response =>
    match response.verifiedBcc with
    | some bcc => .ok bcc
    | none =>
      .error (.unverified s.name
        (response.error.getD ("status '" ++ response.status ++ "' without checksum")))

namespace Autosave

/-- Nothing has been edited. -/
def ofDebounce (debounce : Nat) : Autosave := ⟨debounce, [], [], [], 0⟩

/-- The draft of a section. -/
def draft? (a : Autosave) (name : String) : Option Draft := Table.find? name a.drafts

/-- The unsaved fields of a section. -/
def pending? (a : Autosave) (name : String) : Option SettingsFields :=
  (a.draft? name).map Draft.fields

/-- The sections with unsaved edits, in ascending order. -/
def pendingNames (a : Autosave) : List String :=
  (a.drafts.filter fun (_, d) => !d.fields.isEmpty).map Prod.fst

/-- A timer is stopped, if there is one. -/
def cancel (a : Autosave) (timer : Option Nat) : Autosave :=
  match timer with
  | none => a
  | some id => { a with timers := a.timers.filter fun t => t.id != id }

/-- A draft takes the place of that of its section. -/
def putDraft (a : Autosave) (name : String) (d : Draft) : Autosave :=
  { a with drafts := Table.put name d a.drafts }

/-- The operator edits a field. -/
def edit (a : Autosave) (now : Nat) (name field : String) (value : Json) : Autosave :=
  let d := (a.draft? name).getD ⟨[], 0, none⟩
  let a := a.cancel d.timer
  let timer : SaveTimer := ⟨a.fresh, name, d.revision + 1, now + waitLength a.debounce⟩
  let d : Draft := ⟨Json.putEntry field value d.fields, d.revision + 1, some timer.id⟩
  { a.putDraft name d with timers := a.timers ++ [timer], fresh := a.fresh + 1 }

/-- A section is to be saved now: the save that is sent, unless there is nothing to send. -/
def flush (a : Autosave) (name : String) : Autosave × Option Save :=
  match a.draft? name with
  | none => (a, none)
  | some d =>
    let a := (a.cancel d.timer).putDraft name { d with timer := none }
    if d.fields.isEmpty then (a, none)
    else
      let save : Save := ⟨a.fresh, name, d.fields, d.revision⟩
      ({ a with saves := a.saves ++ [save], fresh := a.fresh + 1 }, some save)

/-- A timer has run down: the save that is sent, unless the draft has changed since. -/
def fire (a : Autosave) (timer : SaveTimer) : Autosave × Option Save :=
  let a := a.cancel (some timer.id)
  match a.draft? timer.name with
  | none => (a, none)
  | some d =>
    if d.revision = timer.revision then
      (a.putDraft timer.name { d with timer := none }).flush timer.name
    else (a, none)

/-- The effects of a save that has been answered. -/
def announce (s : Save) : Except SaveError String → List Effect
  | .ok bcc => [.count .settingsFlushed, .publish (.settingsSaved s.name bcc)]
  | .error e => [.count .settingsFailed, .publish (.settingsFailed s.name e.message)]

/-- The backend has answered a save.  A confirmed draft is given up, unless it has been edited
since it was sent. -/
def answer (a : Autosave) (s : Save) (outcome : Except SaveError String) :
    Autosave × List Effect :=
  let a := { a with saves := a.saves.filter fun other => other.id != s.id }
  let confirmed : Bool :=
    match outcome with
    | .ok _ => (a.draft? s.name).any fun d => d.revision == s.revision
    | .error _ => false
  (if confirmed then { a with drafts := Table.erase s.name a.drafts } else a, announce s outcome)

/-- The timers whose time has come, in the order in which they run down. -/
def next? (a : Autosave) : Option SaveTimer :=
  a.timers.foldl (fun best t => match best with
    | some b => if t.due < b.due then some t else some b
    | none => some t) none

end Autosave

end Greenhouse
