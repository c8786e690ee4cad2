import Greenhouse.Console.Session
import Greenhouse.Proofs.Console.Books
import Greenhouse.Proofs.Table

/-!
# The end of a session

A session of the console goes on until something is typed that ends it; in the meantime time may
pass, and the backend may speak.  When it is over, the bridge has been stopped, and the drafts that
there were then have been sent.  There are two exceptions.  The answer to an older save may arrive
before a draft has had its turn, and the draft is given up for it when the two happen to have the
same revision; and a session that has been given up, because the keyboard failed, leaves the bridge
as it is.
-/

namespace Greenhouse.Console

open Rehearsal

/-- Something that happens in a session. -/
inductive Beat where
  | typed (input : Typed)
  /-- Time passes. -/
  | passes (duration : Nat)
  /-- The other end of the channel sends a text. -/
  | pushed (text : String)
  /-- The other end of the channel sends its clients away. -/
  | kicked
deriving DecidableEq

/-- How a session ends by what is typed, if it does. -/
def Typed.ending? : Typed → Option Course
  | .ended => some .over
  | .unreadable => some .failed
  | .line text =>
    match OperatorCommand.parse text with
    | .ok (some .quit) => some .over
    | _ => none

/-- How a session ends on a beat, if it does. -/
def Beat.ending? : Beat → Option Course
  | .typed input => input.ending?
  | .passes _ | .pushed _ | .kicked => none

/-- What happens on a beat, what is printed, and how the session goes on. -/
def beat (s : Stage) : Beat → Stage × List String × Course
  | .typed input => react s input
  | .passes duration => (s.wait duration, [], .goesOn)
  | .pushed text => ((s.push text).1, [], .goesOn)
  | .kicked => (s.kick, [], .goesOn)

/-- A session until it is over, and what is printed in it; after the last beat, the keyboard has
ended. -/
def play (s : Stage) : List Beat → Stage × List String × Course
  | [] => react s .ended
  | b :: rest =>
    match beat s b with
    | (s, printed, .goesOn) =>
      let (s, lines) := eventLines s.settle
      let (s, more, course) := play s rest
      (s, printed ++ lines ++ more, course)
    | (s, printed, course) => (s, printed, course)

/-- The stage just before the beat on which the session ends. -/
def exit (s : Stage) : List Beat → Stage
  | [] => s
  | b :: rest =>
    match b.ending? with
    | some _ => s
    | none => exit (eventLines (beat s b).1.settle).1 rest

/-- How a session ends. -/
def ending (beats : List Beat) : Course := (beats.findSome? Beat.ending?).getD .over

/-- A session in which nothing happens but what is typed. -/
theorem run_eq_play (s : Stage) (typed : List Typed) :
  run s typed = play s (typed.map .typed)
  := by
  induction typed generalizing s with
  | nil => rfl
  | cons first rest ih =>
      rw [run, List.map_cons, play, beat]
      generalize react s first = done
      obtain ⟨s', printed, course⟩ := done
      cases course with
      | goesOn => simp only [ih]
      | _ => rfl

/-! ### What is typed -/

variable {s : Stage}

theorem execute_noted (command : OperatorCommand) (h : (s.books []).Noted) :
  ((execute s command).1.books []).Noted
  := by
  cases command with
  | set | clear | clearAll | goal => exact (s.order_leads _ []).noted h
  | toggle name => exact (s.order_leads _ []).noted h
  | edit => exact h
  | close name => exact (s.close_leads name []).noted h
  | send | ping => exact (s.submit_leads _ []).noted h
  | status => exact (s.replyTo_leads _ []).noted h
  | settings => exact (s.replyTo_leads _ []).noted h
  | «show» | metrics | help | quit => exact h

/-- What is typed ends the session, or it goes on with the saves noted as before. -/
theorem react_cases (s : Stage) (typed : Typed) :
  (typed.ending? = some .over ∧ react s typed = (s.stop, [], .over))
    ∨ (typed.ending? = some .failed ∧ react s typed = (s, [], .failed))
    ∨ (typed.ending? = none ∧ (react s typed).2.2 = .goesOn
      ∧ ((s.books []).Noted → ((react s typed).1.books []).Noted))
  := by
  cases typed with
  | ended => exact .inl ⟨rfl, rfl⟩
  | unreadable => exact .inr (.inl ⟨rfl, rfl⟩)
  | line text =>
      simp only [Typed.ending?, react]
      cases hparse : OperatorCommand.parse text with
      | error e => exact .inr (.inr ⟨rfl, rfl, fun h => h⟩)
      | ok command =>
          cases command with
          | none => exact .inr (.inr ⟨rfl, rfl, fun h => h⟩)
          | some command =>
              cases command with
              | quit => exact .inl ⟨rfl, rfl⟩
              | _ => exact .inr (.inr ⟨rfl, rfl, execute_noted _⟩)

theorem books_eventLines (s : Stage) (hand : List Save) :
  (eventLines s).1.books hand = s.books hand
  := rfl

theorem eventLines_noted (h : (s.books []).Noted) :
  ((eventLines s.settle).1.books []).Noted
  := by
  rw [books_eventLines]
  apply (s.settle_leads []).noted h

/-- A beat ends the session, or it goes on with the saves noted as before. -/
theorem beat_cases (s : Stage) (b : Beat) :
  (b.ending? = some .over ∧ beat s b = (s.stop, [], .over))
    ∨ (b.ending? = some .failed ∧ beat s b = (s, [], .failed))
    ∨ (b.ending? = none ∧ (beat s b).2.2 = .goesOn
      ∧ ((s.books []).Noted → ((beat s b).1.books []).Noted))
  := by
  cases b with
  | typed typed => apply react_cases
  | passes duration => exact .inr (.inr ⟨rfl, rfl, (s.wait_leads duration []).noted⟩)
  | pushed text => exact .inr (.inr ⟨rfl, rfl, fun h => h⟩)
  | kicked => exact .inr (.inr ⟨rfl, rfl, fun h => h⟩)

theorem exit_noted (beats : List Beat) (h : (s.books []).Noted) :
  ((exit s beats).books []).Noted
  := by
  induction beats generalizing s with
  | nil => exact h
  | cons b rest ih =>
      rw [exit]
      obtain ⟨hending, _⟩ | ⟨hending, _⟩ | ⟨hending, _, hnoted⟩ := beat_cases s b
      · rw [hending]
        apply h
      · rw [hending]
        apply h
      · rw [hending]
        apply ih (eventLines_noted (hnoted h))

/-- A session ends as the first beat says that ends it: the bridge is stopped, or left as it is. -/
theorem play_eq (s : Stage) (beats : List Beat) :
  (play s beats).2.2 = ending beats
    ∧ (ending beats = .over ∧ (play s beats).1 = (exit s beats).stop
      ∨ ending beats = .failed ∧ (play s beats).1 = exit s beats)
  := by
  induction beats generalizing s with
  | nil => simp [play, exit, ending, react]
  | cons b rest ih =>
      rw [play, exit, ending, List.findSome?_cons]
      obtain ⟨hending, hbeat⟩ | ⟨hending, hbeat⟩ | ⟨hending, hcourse, _⟩ := beat_cases s b
      · rw [hending, hbeat]
        simp
      · rw [hending, hbeat]
        simp
      · rw [hending]
        generalize beat s b = done at hcourse ⊢
        obtain ⟨s', printed, course⟩ := done
        obtain rfl := hcourse
        apply ih

/-! ### Stopping -/

/-- Closing a section that has something to send notes the request for it. -/
theorem close_mem_calls {name : String} {d : Draft} (h : s.bridge.autosave.draft? name = some d)
    (hfields : d.fields ≠ []) :
  .saveSettings ⟨name, d.fields⟩ ∈ (s.close name).1.calls
  := by
  have hsave : (s.bridge.autosave.flush name).2
      = some ⟨s.bridge.autosave.fresh, name, d.fields, d.revision⟩ := by
    have hempty : d.fields.isEmpty = false := by simpa using hfields
    simp [Autosave.flush, h, hempty, Autosave.putDraft]
  apply (Stage.close_of_flush hsave []).2.mem_calls
  apply List.mem_append_right _ (List.mem_singleton.mpr rfl)

theorem mem_pendingNames {a : Autosave} {name : String} {d : Draft} (h : a.draft? name = some d)
    (hfields : d.fields ≠ []) :
  name ∈ a.pendingNames
  := by
  apply List.mem_map.mpr
  use (name, d)
  constructor
  · apply List.mem_filter.mpr
    use Table.mem_of_find? h
    simpa using hfields
  · rfl

/-- When all sections are closed, a draft that is kept until its turn has been sent. -/
theorem closeEach_mem_calls {names : List String} {name : String} (hname : name ∈ names)
    {content : SettingsFields × Nat} (hfields : content.1 ≠ [])
    (h : (s.books []).Keeps name content) :
  .saveSettings ⟨name, content.1⟩ ∈ (s.closeEach names).1.calls
  := by
  induction names generalizing s with
  | nil => nomatch hname
  | cons first rest ih =>
      have hrest {r : Request} (hr : r ∈ (s.close first).1.calls) :
          r ∈ (s.closeEach (first :: rest)).1.calls :=
        ((s.close first).1.closeEach_leads rest []).mem_calls hr
      have hnext := (s.close_leads first []).keeps h
      obtain hsent | ⟨hcontent, _⟩ := h
      · exact hrest ((s.close_leads first []).mem_calls hsent)
      · obtain rfl | hname := List.mem_cons.mp hname
        · obtain ⟨d, hd, rfl⟩ := Option.map_eq_some_iff.mp hcontent
          exact hrest (close_mem_calls hd hfields)
        · apply ih hname hnext

/-- A save that is under way at the revision of a draft was sent with other fields. -/
def Overtaken (s : Stage) (name : String) (d : Draft) : Prop :=
  ∃ f ∈ s.flights, f.save.name = name ∧ f.save.revision = d.revision ∧ f.save.fields ≠ d.fields

/-- When the bridge is stopped, all drafts have been sent that are not overtaken. -/
theorem stop_mem_calls (hnoted : (s.books []).Noted) {name : String} {d : Draft}
    (h : s.bridge.autosave.draft? name = some d) (hfields : d.fields ≠ [])
    (hovertaken : ¬ Overtaken s name d) :
  .saveSettings ⟨name, d.fields⟩ ∈ s.stop.calls
  := by
  have hcalls : s.stop.calls = s.closeAll.1.calls := congrArg Books.calls (s.books_stop [])
  have hkeeps : (s.books []).Keeps name (d.fields, d.revision) := by
    by_cases hsame : ∃ f ∈ s.flights, f.save.name = name ∧ f.save.revision = d.revision
    · obtain ⟨f, hf, rfl, hrevision⟩ := hsame
      left
      have hsave := hnoted f.save (List.mem_map_of_mem hf)
      have hequal : f.save.fields = d.fields := by
        by_contra hne
        apply hovertaken ⟨f, hf, rfl, hrevision, hne⟩
      rwa [Save.request, hequal] at hsave
    · right
      constructor
      · apply Option.map_eq_some_iff.mpr ⟨d, h, rfl⟩
      · rintro save hsave ⟨hname, hrevision⟩
        obtain ⟨f, hf, rfl⟩ := List.mem_map.mp hsave
        apply hsame ⟨f, hf, hname, hrevision⟩
  rw [hcalls]
  apply closeEach_mem_calls (mem_pendingNames h hfields) hfields hkeeps

/-- The stage on which a session begins, with a bridge and its surroundings. -/
def opening (bridge : Bridge) (capacity : Nat) (desk : Desk) (door : Door) : Stage :=
  (eventLines (Stage.ofBridge bridge capacity desk door).start.settle).1

theorem opening_noted (bridge : Bridge) (capacity : Nat) (desk : Desk) (door : Door) :
  ((opening bridge capacity desk door).books []).Noted
  := by
  apply eventLines_noted
  apply (Stage.start_leads _ []).noted
  nofun

/-- Every session ends as the first beat says that ends it.  When it is over, the bridge has been
stopped, and every draft with unsaved edits that there was when the session ended has been sent as
a whole, unless it was overtaken.  When it has been given up, everything is left as it was. -/
theorem session_ending (bridge : Bridge) (capacity : Nat) (desk : Desk) (door : Door)
    (beats : List Beat) :
  (play (opening bridge capacity desk door) beats).2.2 = ending beats
    ∧ (ending beats = .over
        ∧ (play (opening bridge capacity desk door) beats).1
          = (exit (opening bridge capacity desk door) beats).stop
        ∧ (∀ name d,
          (exit (opening bridge capacity desk door) beats).bridge.autosave.draft? name = some d →
          d.fields ≠ [] →
          ¬ Overtaken (exit (opening bridge capacity desk door) beats) name d →
          .saveSettings ⟨name, d.fields⟩
            ∈ (play (opening bridge capacity desk door) beats).1.calls)
      ∨ ending beats = .failed
        ∧ (play (opening bridge capacity desk door) beats).1
          = exit (opening bridge capacity desk door) beats)
  := by
  have hnoted := exit_noted beats (opening_noted bridge capacity desk door)
  obtain ⟨hcourse, ⟨hover, hstage⟩ | ⟨hfailed, hstage⟩⟩ :=
    play_eq (opening bridge capacity desk door) beats
  · refine ⟨hcourse, .inl ⟨hover, hstage, ?_⟩⟩
    intro name d h hfields hovertaken
    rw [hstage]
    apply stop_mem_calls hnoted h hfields hovertaken
  · exact ⟨hcourse, .inr ⟨hfailed, hstage⟩⟩

/-- A bridge that knows nothing, and a backend that confirms every save after a while. -/
def patient (delays : List Nat) : Stage :=
  opening ⟨[], .ofDebounce 1000, .ofWindow 5000, .ofDelay 1000, .empty, none⟩ 256
    (.script (delays.map fun delay =>
      ⟨delay, .answered 200 "\x7b\"status\":\"success\",\"bcc\":\"A\"\x7d".toUTF8.toList⟩)) .shut

/-- A section is edited, and the keyboard fails. -/
def unreadableAfterEdit : List Beat :=
  [.typed (.line "edit n a 1"), .typed .unreadable]

/-- A section is saved twice from the same draft, and edited anew when the second save has been
confirmed.  When the operator quits, another section is saved first, and the answer to the first
save arrives. -/
def quitBeforeAnswer : List Beat :=
  [.typed (.line "edit n a 1"), .passes 1500, .typed (.line "close n"), .passes 1000,
    .typed (.line "edit n b 2"), .typed (.line "edit m c 3"), .typed (.line "quit")]

/-- In both sessions there are unsaved edits at the end, and no request for them. -/
theorem unsent_unreadable_quit :
  (ending unreadableAfterEdit = .failed
      ∧ (exit (patient []) unreadableAfterEdit).bridge.autosave.pending? "n" = some [("a", .int 1)]
      ∧ (play (patient []) unreadableAfterEdit).1.calls = [])
    ∧ ending quitBeforeAnswer = .over
    ∧ (exit (patient [2000, 0, 3000]) quitBeforeAnswer).bridge.autosave.pending? "n"
      = some [("b", .int 2)]
    ∧ (play (patient [2000, 0, 3000]) quitBeforeAnswer).1.calls
      = [.saveSettings ⟨"n", [("a", .int 1)]⟩, .saveSettings ⟨"n", [("a", .int 1)]⟩,
        .saveSettings ⟨"m", [("c", .int 3)]⟩]
  := by
  decide +kernel

end Greenhouse.Console
