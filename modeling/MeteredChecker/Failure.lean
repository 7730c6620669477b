/-!
# What can go wrong, and what the user is told

Seven things can go wrong between a click and its answer.  Each has two texts.
`Failure.message` is for whoever reads the log and holds every detail there is.
`Failure.userMessage` is for whoever sits in front of the page and holds none:
it depends on what was being done, not on what went wrong --- except that an
empty form and a refused payment have a sentence of their own, wherever they
come up.
-/

namespace MeteredChecker

/-- Everything that can keep an operation from its answer. -/
inductive Failure where
  /-- The form was submitted with nothing but blanks in it. -/
  | emptyInput
  /-- No complete response arrived. -/
  | transport (detail : String)
  /-- The body of a response is not what it should be. -/
  | decode (detail : String)
  /-- The response has a status that it should not have. -/
  | status (code : UInt16)
  /-- The payment endpoint did not answer with an address to go to. -/
  | paymentRejected (code : UInt16) (body : String)
  /-- The browser did not go where it was sent. -/
  | navigation (detail : String)
  /-- The settings cannot work. -/
  | config (detail : String)
  deriving DecidableEq, Repr, Inhabited

/-- What the user was doing. -/
inductive Operation where
  | check
  | stats
  | payment
  | reset
  deriving DecidableEq, Repr

/-- What the result region says about an empty form. -/
def emptyInputText : String := "Please enter some code."

/-- What the quota region says when there is no quota to show. -/
def statsUnavailableText : String := "Could not fetch stats."

namespace Failure

/-- The text of a failure, with its details. -/
def message : Failure → String
  | .emptyInput => "Empty input"
  | .transport detail => "Transport error: " ++ detail
  | .decode detail => "Decode error: " ++ detail
  | .status code => "Unexpected status " ++ toString code.toNat
  | .paymentRejected code body =>
      "Payment rejected (status " ++ toString code.toNat ++ "): " ++ body
  | .navigation detail => "Navigation failed: " ++ detail
  | .config detail => "Configuration error: " ++ detail

/-- Whether the same operation may well succeed the next time. -/
def isRetryable : Failure → Bool
  | .transport _ | .status _ | .paymentRejected _ _ => true
  | .emptyInput | .decode _ | .navigation _ | .config _ => false

/-- What the user is told about a failure. -/
def userMessage (operation : Operation) : Failure → String
  | .emptyInput => emptyInputText
  | .paymentRejected _ _ => "Payment creation failed. Please try again."
  | _ =>
      match operation with
      | .check => "An error occurred while connecting to the server."
      | .stats => statsUnavailableText
      | .payment => "An error occurred while initiating the payment."
      | .reset => "Could not reset API calls."

end Failure
end MeteredChecker
