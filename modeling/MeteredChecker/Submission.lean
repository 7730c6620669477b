import MeteredChecker.Json.Value
import MeteredChecker.Text.Blank

/-!
# Submissions

What a person submits is the text of the form without the blanks around it.  If
that leaves nothing there is nothing to check.  What is inside stays as it is,
blanks and line breaks included.
-/

namespace MeteredChecker

/-- Code to be checked, with no blanks around it. -/
structure Submission where
  code : String
  trimmed : Text.trim code = code
  deriving DecidableEq, Repr

namespace Submission

/-- The submission that a form with a text in it makes. -/
def ofRaw (raw : String) : Submission := ⟨Text.trim raw, Text.trim_idem raw⟩

/-- Whether there is nothing to check. -/
def isEmpty (s : Submission) : Bool := s.code.toList.isEmpty

/-- The number of octets of the code in UTF-8. -/
def octets (s : Submission) : Nat := s.code.utf8ByteSize

/-- The body of a request that asks for a check. -/
def toJson (s : Submission) : Json.Value := .record [("code", .text s.code)]

end Submission

/-! ## The form -/

/-- The event of a form that is being sent.  Unless its default action is
suppressed the browser leaves the page to send the form itself. -/
structure FormEvent where
  defaultPrevented : Bool
  deriving DecidableEq, Repr

namespace FormEvent

/-- An event that nobody has seen yet. -/
def new : FormEvent := ⟨false⟩

/-- Takes a form in: the default action is suppressed before anything else
happens, and the text of the form becomes a submission. -/
def accept (_ : FormEvent) (raw : String) : FormEvent × Submission :=
  (⟨true⟩, .ofRaw raw)

end FormEvent
end MeteredChecker
