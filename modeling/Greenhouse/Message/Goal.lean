import Greenhouse.Message.Actuation

/-!
# Goals

A goal is free text that the operator gives to the planner of the backend.
-/

namespace Greenhouse

/-- A request to take up a goal. -/
structure GoalRequest where
  goal : String
deriving DecidableEq

namespace GoalRequest

/-- The request as a document. -/
def toJson (r : GoalRequest) : Json := .obj [("goal", .str r.goal)]

/-- The shape of a request. -/
def shape : Json.Shape GoalRequest where
  name := "GoalRequest"
  fields := [.of "goal" true (Json.readText "a string") fun goal r => { r with goal }]
  blank := ⟨""⟩

end GoalRequest

/-- The answer to a request to take up a goal. -/
structure GoalResponse where
  status : Option String
  /-- What the planner says. -/
  result : Option Json
  /-- Why the goal was refused. -/
  error : Option String
deriving DecidableEq

namespace GoalResponse

/-- Why the goal was refused, if it was.  An answer without a status is no refusal. -/
def rejection (r : GoalResponse) : Option String :=
  match r.error, r.status with
  | some error, _ => some error
  | none, none => none
  | none, some status => if status = successStatus then none else some (statusReason status)

/-- The answer as a document. -/
def toJson (r : GoalResponse) : Json :=
  .obj (optionalMember "status" r.status .str ++ optionalMember "result" r.result id
    ++ optionalMember "error" r.error .str)

/-- The shape of an answer. -/
def shape : Json.Shape GoalResponse where
  name := "GoalResponse"
  fields :=
    [.of "status" false (Json.readOption (Json.readText "a string")) fun status r =>
        { r with status },
      .of "result" false (Json.readOption Json.readValue) fun result r => { r with result },
      .of "error" false (Json.readOption (Json.readText "a string")) fun error r =>
        { r with error }]
  blank := ⟨none, none, none⟩

end GoalResponse

end Greenhouse
