import Greenhouse.Proofs.Message.Writing
import Greenhouse.Proofs.Order.Exchange
import Greenhouse.Rehearsal.Clock

/-!
# Orders on the wire

The bridge writes a request about an actuator and the stand-in reads it; the stand-in writes the
answer and the bridge reads it.  Both arrive as they were sent when the value in them is
legible.

`StandIn.serve` is the way of a request to the stand-in and of the answer back, as a stage takes
it.
-/

namespace Greenhouse

namespace Rehearsal

/-- An answer as it arrives. -/
def HttpAnswer.reply (a : HttpAnswer) : Reply :=
  .answered a.code ((a.document.map fun document => Utf8.encode document.chars).getD [])

/-- The stand-in answers a request. -/
def StandIn.serve (s : StandIn) (now : Nat) (r : Request) : StandIn × Reply :=
  let (s, answer) := s.answer now ⟨r.method, r.path, r.body?.map Json.render⟩
  (s, answer.reply)

/-- That is how a stage asks its stand-in. -/
theorem Stage.ask_standIn {s : Stage} (h : s.desk = .standIn) (r : Request) :
  s.ask r
    = ({ s with calls := s.calls ++ [r], standIn := (s.standIn.serve s.now r).1 }, 0,
        (s.standIn.serve s.now r).2)
  := by
  simp only [ask, h]
  rfl

namespace StandIn

/-- A target without a query is a path. -/
theorem path_of_not_mem {target : String} (h : '?' ∉ target.toList) (method : String)
    (text : Option String) :
  path ⟨method, target, text⟩ = target
  := by
  have hsplit (cs : List Char) (hcs : '?' ∉ cs) : Text.splitAt '?' cs = [cs] := by
    induction cs with
    | nil => rfl
    | cons c rest ih =>
        obtain ⟨hc, hrest⟩ : ¬ '?' = c ∧ '?' ∉ rest := by simpa using hcs
        rw [Text.splitAt, if_neg (Ne.symm hc), ih hrest]
  simp only [path, hsplit target.toList h, List.headD_cons, String.ofList_toList]

/-- The stand-in carries out what is asked of an actuator. -/
theorem answer_actuator (s : StandIn) (now : Nat) {call : HttpCall} (hmethod : call.method = "POST")
    (hpath : path call = "/api/actuator") :
  s.answer now call
    = s.withBody ActuatorRequest.shape.reader call fun r =>
        ((s.actuate r).1, ⟨(s.actuate r).2.1, some (s.actuate r).2.2.toJson⟩)
  := by
  simp [answer, hpath, methods, hmethod]

theorem answer_goal (s : StandIn) (now : Nat) (text : Option String) :
  let call : HttpCall := ⟨"POST", "/api/goal", text⟩
  s.answer now call = s.withBody GoalRequest.shape.reader call fun r => (s, s.plan r)
  := by
  intro call
  have hpath : path call = "/api/goal" := path_of_not_mem (by decide) _ _
  simp [answer, hpath, methods, call]

/-- A request about an actuator arrives as it was sent. -/
theorem serve_actuator (s : StandIn) (now : Nat) {r : ActuatorRequest}
    (h : ∀ a ∈ r.value, a.Legible) :
  s.serve now (.actuator r)
    = ((s.actuate r).1,
        .answered (s.actuate r).2.1 (Utf8.encode (s.actuate r).2.2.toJson.chars))
  := by
  have htext : r.toJson.render.toList = r.toJson.chars := String.toList_ofList
  have hwrites : ActuatorRequest.shape.Writes 0 r.toJson r := ActuatorRequest.writes h
  obtain ⟨rest, hread, _⟩ := hwrites.takes.whole (by decide)
  have hbody : body ActuatorRequest.shape.reader
      ⟨"POST", "/api/actuator", some r.toJson.render⟩ = .ok r := by
    simp only [body, htext, hread]
  have hpath : path ⟨"POST", "/api/actuator", some r.toJson.render⟩ = "/api/actuator" :=
    path_of_not_mem (by decide) _ _
  have hanswer := s.answer_actuator now rfl hpath
  simp only [withBody, hbody] at hanswer
  change ((s.answer now ⟨"POST", "/api/actuator", some r.toJson.render⟩).1,
    (s.answer now ⟨"POST", "/api/actuator", some r.toJson.render⟩).2.reply) = _
  rw [hanswer]
  rfl

/-- A goal changes nothing. -/
theorem serve_goal (s : StandIn) (now : Nat) (r : GoalRequest) :
  (s.serve now (.submitGoal r)).1 = s
  := by
  have hanswer := s.answer_goal now (some r.toJson.render)
  change (s.answer now ⟨"POST", "/api/goal", some r.toJson.render⟩).1 = s
  rw [hanswer, withBody]
  split <;> rfl

end StandIn

end Rehearsal

/-- An answer about an actuator is read off a reply as it was, unless its code is a refusing one
and nothing is read. -/
theorem ActuatorResponse.read_encode {r : ActuatorResponse} (h : ∀ a ∈ r.value, a.Legible)
    (code : Nat) :
  let reply : Reply := .answered code (Utf8.encode r.toJson.chars)
  reply.read shape.reader = .ok r
    ∨ (Reply.isAccepted code = false ∧ ∃ cause, reply.read shape.reader = .error cause)
  := by
  have hwrites : shape.Writes 0 r.toJson r := writes h
  have hread := hwrites.takes.runBytes (by decide)
  intro reply
  simp only [reply, Reply.read]
  split
  · left
    rw [hread]
    rfl
  · next hcode =>
      split
      · left
        rw [hread]
      · right
        exact ⟨by simpa using hcode, _, rfl⟩

end Greenhouse
