import MeteredChecker.Failure
import MeteredChecker.Payment.Terms

/-!
# Configurations

A configuration says where the service is, how payments are made, what becomes
of an answer that comes too late, and whether the quota may be reset.

Three things are demanded of a configuration before anything is sent anywhere:
the service has an absolute address, the payment path begins with a slash, and
the amount is more than nothing.  `violation?` names the first that fails.  The
demands are few on purpose: they are the ones without which *every* request
would fail.

Addresses are joined by a single slash: the slashes at the end of a base are
taken off first, so it does not matter how many there are.
-/

namespace MeteredChecker

/-- What becomes of an answer to a request that a later one has superseded. -/
inductive Policy where
  /-- Whichever answer comes last is shown. -/
  | apply
  /-- Only the answer to the latest request is shown. -/
  | discard
  deriving DecidableEq, Repr

/-- A configuration of the client. -/
structure Config where
  apiBase : String
  payment : Payment.Terms
  stale : Policy
  allowReset : Bool
  deriving DecidableEq, Repr

namespace Config

/-- The address of the service unless another is set. -/
def defaultApiBase : String := "http://localhost:2424/api"

/-- The configuration that holds unless something else is set. -/
def default : Config := ⟨defaultApiBase, .default, .apply, false⟩

/-- The two configurations are the same, amounts being compared as numbers. -/
def Same (a b : Config) : Prop :=
  a.apiBase = b.apiBase ∧ a.payment.Same b.payment ∧ a.stale = b.stale ∧
    a.allowReset = b.allowReset

instance (a b : Config) : Decidable (Same a b) := inferInstanceAs (Decidable (_ ∧ _ ∧ _ ∧ _))

/-! ## Demands -/

/-- What is wrong with a configuration, or with a setting for one. -/
inductive Violation where
  | unreadableAmount (raw : String)
  | relativeBase (base : String)
  | relativePath (path : String)
  | amountNotPositive (amount : Decimal)
  deriving DecidableEq, Repr

/-- The text of a violation. -/
def Violation.message : Violation → String
  | .unreadableAmount raw => "invalid payment amount: " ++ raw
  | .relativeBase base => "api base must be an absolute http(s) URL: " ++ base
  | .relativePath path => "payment path must start with '/': " ++ path
  | .amountNotPositive amount => "payment amount must be positive: " ++ amount.toText

/-- A violation as a failure. -/
def Violation.failure (v : Violation) : Failure := .config v.message

/-- A text begins like an absolute address. -/
def isAbsolute (s : String) : Bool := Text.startsWith s "http://" || Text.startsWith s "https://"

/-- The first demand that a configuration does not meet. -/
def violation? (c : Config) : Option Violation :=
  if !isAbsolute c.apiBase then some (.relativeBase c.apiBase)
  else if !Text.startsWith c.payment.path "/" then some (.relativePath c.payment.path)
  else if ¬ c.payment.amount.IsPositive then some (.amountNotPositive c.payment.amount)
  else none

/-- The configuration meets every demand. -/
def IsValid (c : Config) : Prop := c.violation? = none

instance (c : Config) : Decidable c.IsValid := inferInstanceAs (Decidable (_ = _))

/-- The configuration itself, if it meets every demand. -/
def validate (c : Config) : Except Failure Config :=
  match c.violation? with
  | some v => .error v.failure
  | none => .ok c

/-! ## Addresses of the service -/

/-- The address of an endpoint. -/
def endpoint (c : Config) (name : String) : String := Text.dropEnd '/' c.apiBase ++ "/" ++ name

/-- Where code is checked. -/
def checkUrl (c : Config) : String := c.endpoint "check"

/-- Where the quota is read. -/
def statsUrl (c : Config) : String := c.endpoint "stats"

/-- Where the quota is reset. -/
def resetUrl (c : Config) : String := c.endpoint "reset"

/-! ## Variations -/

/-- The configuration with another base for payments. -/
def withPaymentBase (c : Config) (base : String) : Config :=
  { c with payment := { c.payment with base := some base } }

end Config
end MeteredChecker
