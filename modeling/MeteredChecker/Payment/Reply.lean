import MeteredChecker.Failure
import MeteredChecker.Text.Basic

/-!
# Replies of the payment endpoint

The payment endpoint answers with an address, as plain text, where the payment
is approved.  A reply counts as an approval if its status is a success and its
body looks like an absolute address.  That is as closely as it is looked at: the
body is used as it came, not cut and not checked further.
-/

namespace MeteredChecker

/-- The statuses that are a success. -/
def isSuccessStatus (status : UInt16) : Bool := 200 ≤ status && status < 300

namespace Payment

/-- What the payment endpoint answered. -/
structure Reply where
  status : UInt16
  body : String
  deriving DecidableEq, Repr

/-- The status of the reply is a success. -/
def Reply.isSuccess (r : Reply) : Bool := isSuccessStatus r.status

/-- An address at which a payment is approved. -/
structure Approval where
  url : String
  deriving DecidableEq, Repr

/-- The approval in a reply. -/
def Reply.approval (r : Reply) : Except Failure Approval :=
  if r.isSuccess && Text.startsWith r.body "http" then .ok ⟨r.body⟩
  else .error (.paymentRejected r.status r.body)

/-- What a click on the pay button ends in. -/
inductive Outcome where
  /-- The browser was sent to this address. -/
  | redirected (url : String)
  /-- The browser stays; this message was shown. -/
  | alerted (message : String)
  deriving DecidableEq, Repr

end Payment
end MeteredChecker
