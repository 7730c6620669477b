import MeteredChecker.Json.Record

/-!
# Verdicts

A check that reaches the service comes back in one of two ways: with a result,
or with a message that says why there is none --- the quota is used up, or the
code could not be read.  Both are shown to the user as they are, the result
behind a label.
-/

namespace MeteredChecker

/-- What the service says about a submission. -/
inductive Verdict where
  /-- The check was made; this is its result. -/
  | result (text : String)
  /-- The check was refused, for the reason given. -/
  | refusal (message : String)
  deriving DecidableEq, Repr

namespace Verdict

/-- What the result region says about a verdict. -/
def display : Verdict → String
  | .result text => "Syntax Check Result: " ++ text
  | .refusal message => message

/-- A record with a single text in it. -/
def bodyShape (title field : String) : Json.Shape (Option String) String where
  title := title
  blank := none
  fields := [.of field id (fun _ text => some text) .string]
  lenient := false
  finish := fun
    | some text => .ok text
    | none => .error field

/-- The body of a response with a result. -/
def resultShape : Json.Shape (Option String) String := bodyShape "VerdictBody" "result"

/-- The body of a response with a refusal. -/
def refusalShape : Json.Shape (Option String) String := bodyShape "RejectionBody" "message"

/-- The verdict in the body of a response, which is read as a result or as a
refusal depending on whether the status of the response was a success. -/
def ofBody (success : Bool) (body : String) : Except String Verdict :=
  if success then (resultShape.reader.parse body).map .result
  else (refusalShape.reader.parse body).map .refusal

end Verdict
end MeteredChecker
