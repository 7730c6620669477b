import MeteredChecker.Config.Basic
import MeteredChecker.Quota
import MeteredChecker.Verdict

/-!
# What the page shows

The page shows a result, the state of the quota, and --- when the quota is used
up --- a way to pay for more.  That is the whole state of the program that
anybody can see, and it is changed by the functions of this module only.

## Tickets

Several requests may be under way at a time, and their answers come in any
order.  Every check and every quota refresh therefore takes a ticket when it
begins, from one of two counters, and hands it in with its answer.  A ticket that
is not the latest of its kind is *superseded*; under the policy `discard` an
answer with a superseded ticket changes nothing at all.

Tickets are words of 64 bits.  Zero is the ticket that nobody took.

## The regions

Beginning a check clears the result and the quota.  A check that fails marks the
quota as unavailable, too, since the quota will not have changed in a way that
could be shown.  A quota that arrives decides whether paying is offered; a quota
that fails to arrive leaves that as it was, so an outage neither offers payment
nor takes the offer back.
-/

namespace MeteredChecker

/-- The number of a request among the requests of its kind. -/
structure Ticket where
  value : UInt64
  deriving DecidableEq, Repr

namespace Ticket

/-- The ticket that nobody took. -/
def zero : Ticket := ⟨0⟩

/-- The ticket after this one. -/
def next (t : Ticket) : Ticket := ⟨t.value + 1⟩

/-- The order in which tickets were taken. -/
def compare (a b : Ticket) : Ordering := Ord.compare a.value b.value

end Ticket

/-- What the quota region shows. -/
inductive QuotaRegion where
  | blank
  | summary (quota : Quota)
  | unavailable
  deriving DecidableEq, Repr

/-- The lines of the quota region, from top to bottom. -/
def QuotaRegion.lines : QuotaRegion → List String
  | .blank => []
  | .summary quota => quota.lines
  | .unavailable => [statsUnavailableText]

/-- Everything that the page shows, and the tickets taken last. -/
structure View where
  result : String
  stats : QuotaRegion
  payVisible : Bool
  lastCheck : Ticket
  lastQuota : Ticket
  deriving DecidableEq, Repr

namespace View

/-- A page that has just been opened. -/
def new : View := ⟨"", .blank, false, .zero, .zero⟩

/-- Whether an answer with a ticket comes too late to be shown. -/
def isStale (ticket latest : Ticket) (policy : Policy) : Bool :=
  policy == .discard && ticket != latest

/-! ## Checks -/

/-- Begins a check: both regions are cleared and a ticket is taken. -/
def beginCheck (v : View) : View :=
  { v with result := "", stats := .blank, lastCheck := v.lastCheck.next }

/-- Says that there is nothing to check. -/
def rejectEmpty (v : View) : View := { v with result := emptyInputText }

/-- What a check came to, on a page that takes it in. -/
def showCheck (v : View) : Except Failure Verdict → View
  | .ok verdict => { v with result := verdict.display }
  | .error e => { v with result := e.userMessage .check, stats := .unavailable }

/-- Hands in what a check came to.  Answers with `none` if it is discarded. -/
def applyCheck? (v : View) (ticket : Ticket) (outcome : Except Failure Verdict)
    (policy : Policy) : Option View :=
  if isStale ticket v.lastCheck policy then none else some (v.showCheck outcome)

/-! ## Quotas -/

/-- Begins a quota refresh: a ticket is taken. -/
def beginQuota (v : View) : View := { v with lastQuota := v.lastQuota.next }

/-- What a quota refresh came to, on a page that takes it in. -/
def showQuota (v : View) : Except Failure Quota → View
  | .ok quota => { v with stats := .summary quota, payVisible := quota.isExhausted }
  | .error _ => { v with stats := .unavailable }

/-- Hands in what a quota refresh came to.  Answers with `none` if it is
discarded. -/
def applyQuota? (v : View) (ticket : Ticket) (outcome : Except Failure Quota)
    (policy : Policy) : Option View :=
  if isStale ticket v.lastQuota policy then none else some (v.showQuota outcome)

end View
end MeteredChecker
