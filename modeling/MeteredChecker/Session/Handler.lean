import MeteredChecker.Browser
import MeteredChecker.Log
import MeteredChecker.Submission
import MeteredChecker.View

/-!
# Handlers

Four things can be done on the page: submit code, refresh the quota, reset the
quota, and buy calls.  Each is done by a handler, and a handler is mostly waiting
for the service.  Between two waits it works in one *burst*, which nothing can
interrupt: it changes the page, logs, and ends by resting --- either for good, or
until the call that it has just made is settled.

## Waiting is data

What a handler waits for is a value, `Awaiting`, with all that the handler needs
to go on.  There are only four of them, because the handlers share their tails:
a check is followed by a quota refresh whatever became of it, and so is a reset.
A burst is then a function of what was awaited, what arrived, and the page as it
is *now* --- the page may have changed in between, and nothing of the old one is
kept.  How the handlers are interleaved is no business of this module.

The number of calls that a handler still waits for goes down by one with every
burst (`callsLeft_resume`), so every handler ends.
-/

namespace MeteredChecker

/-- What a user can do on the page. -/
inductive Event where
  | submit (submission : Submission)
  | refresh
  | reset
  | buy
  deriving DecidableEq, Repr

/-- What the service can be asked. -/
inductive Call where
  | check (submission : Submission)
  | stats
  | payment
  | reset
  deriving DecidableEq, Repr

/-- What arrives when a call is settled. -/
inductive Reply where
  | check (outcome : Except Failure Verdict)
  | stats (outcome : Except Failure Quota)
  | payment (outcome : Except Failure Payment.Reply)
  | reset (outcome : Except Failure Unit)

/-- What a handler waits for, with what it needs to go on. -/
inductive Awaiting where
  | check (submission : Submission) (ticket : Ticket)
  | stats (ticket : Ticket)
  | payment
  | reset
  deriving DecidableEq, Repr

/-- The call that has been made. -/
def Awaiting.call : Awaiting → Call
  | .check submission _ => .check submission
  | .stats _ => .stats
  | .payment => .payment
  | .reset => .reset

/-- How a burst ends. -/
inductive Rest where
  /-- The handler has ended; a purchase has an outcome. -/
  | ended (outcome : Option Payment.Outcome)
  /-- The handler waits. -/
  | waits (awaiting : Awaiting)
  deriving DecidableEq, Repr

/-- What a burst does: the page and the browser behind it, what it logs, and how
it ends. -/
structure Burst where
  view : View
  browser : Browser
  log : List LogEvent
  rest : Rest

namespace Handler

/-! ## Beginnings -/

/-- Begins a quota refresh, at the end of a burst that has logged something. -/
def beginRefresh (log : List LogEvent) (v : View) (b : Browser) : Burst :=
  let v := v.beginQuota
  ⟨v, b, log, .waits (.stats v.lastQuota)⟩

/-- Begins a submission.  With nothing to check the handler ends at once. -/
def beginSubmission (s : Submission) (v : View) (b : Browser) : Burst :=
  let v := v.beginCheck
  if s.isEmpty then ⟨v.rejectEmpty, b, [], .ended none⟩
  else ⟨v, b, [.checking s.octets], .waits (.check s v.lastCheck)⟩

/-- The first burst of a handler. -/
def begin : Event → View → Browser → Burst
  | .submit s, v, b => beginSubmission s v b
  | .refresh, v, b => beginRefresh [] v b
  | .reset, v, b => ⟨v, b, [], .waits .reset⟩
  | .buy, v, b => ⟨v, b, [], .waits .payment⟩

/-! ## Continuations -/

/-- The burst after a check.  A failure is logged even if nobody gets to see it. -/
def afterCheck (policy : Policy) (ticket : Ticket) (outcome : Except Failure Verdict)
    (v : View) (b : Browser) : Burst :=
  let failed := match outcome with
    | .ok _ => []
    | .error e => [.checkFailed e]
  match v.applyCheck? ticket outcome policy with
  | some v => beginRefresh failed v b
  | none => beginRefresh (failed ++ [.checkDiscarded ticket]) v b

/-- The burst after a quota has been read. -/
def afterStats (policy : Policy) (ticket : Ticket) (outcome : Except Failure Quota)
    (v : View) (b : Browser) : Burst :=
  let read := match outcome with
    | .ok quota => [.quotaRead quota]
    | .error e => [.quotaFailed e]
  match v.applyQuota? ticket outcome policy with
  | some v => ⟨v, b, read, .ended none⟩
  | none => ⟨v, b, read ++ [.quotaDiscarded ticket], .ended none⟩

/-- The burst after a reset. -/
def afterReset (outcome : Except Failure Unit) (v : View) (b : Browser) : Burst :=
  let failed := match outcome with
    | .ok _ => []
    | .error e => [.resetFailed e]
  beginRefresh failed v b

/-- Goes to where a reply of the payment endpoint says, if it says so. -/
def approve (outcome : Except Failure Payment.Reply) (b : Browser) :
    Except Failure (Browser × String) := do
  let reply ← outcome
  let approval ← reply.approval
  let b ← b.navigate approval.url
  pure (b, approval.url)

/-- The burst after a payment has been created or not.  The page is not touched,
so the user can try again. -/
def afterPayment (outcome : Except Failure Payment.Reply) (v : View) (b : Browser) : Burst :=
  let answered := match outcome with
    | .ok reply => [.paymentAnswered reply]
    | .error _ => []
  match approve outcome b with
  | .ok (b, url) => ⟨v, b, answered ++ [.redirecting], .ended (some (.redirected url))⟩
  | .error e =>
      let message := e.userMessage .payment
      ⟨v, b.alert message, answered ++ [.paymentFailed e], .ended (some (.alerted message))⟩

/-- The next burst of a handler, if what arrived is what it waits for. -/
def resume? (policy : Policy) : Awaiting → Reply → View → Browser → Option Burst
  | .check _ ticket, .check outcome, v, b => some (afterCheck policy ticket outcome v b)
  | .stats ticket, .stats outcome, v, b => some (afterStats policy ticket outcome v b)
  | .payment, .payment outcome, v, b => some (afterPayment outcome v b)
  | .reset, .reset outcome, v, b => some (afterReset outcome v b)
  | _, _, _, _ => none

/-! ## Every handler ends -/

end Handler

/-- The number of calls that are still to be settled before a handler ends. -/
def Awaiting.callsLeft : Awaiting → Nat
  | .check _ _ => 2
  | .stats _ => 1
  | .payment => 1
  | .reset => 2

/-- The number of calls that are still to be settled before a handler ends. -/
def Rest.callsLeft : Rest → Nat
  | .ended _ => 0
  | .waits awaiting => awaiting.callsLeft

namespace Handler

theorem callsLeft_afterCheck (policy : Policy) (ticket : Ticket)
    (outcome : Except Failure Verdict) (v : View) (b : Browser) :
    (afterCheck policy ticket outcome v b).rest.callsLeft = 1 := by
  unfold afterCheck
  cases v.applyCheck? ticket outcome policy <;> rfl

theorem callsLeft_afterStats (policy : Policy) (ticket : Ticket)
    (outcome : Except Failure Quota) (v : View) (b : Browser) :
    (afterStats policy ticket outcome v b).rest.callsLeft = 0 := by
  unfold afterStats
  cases v.applyQuota? ticket outcome policy <;> rfl

theorem callsLeft_afterReset (outcome : Except Failure Unit) (v : View) (b : Browser) :
    (afterReset outcome v b).rest.callsLeft = 1 := rfl

theorem callsLeft_afterPayment (outcome : Except Failure Payment.Reply) (v : View)
    (b : Browser) : (afterPayment outcome v b).rest.callsLeft = 0 := by
  unfold afterPayment
  cases approve outcome b <;> rfl

/-- **Every burst settles one call for good.** -/
theorem callsLeft_resume {policy : Policy} {a : Awaiting} {r : Reply} {v : View} {b : Browser}
    {burst : Burst} (h : resume? policy a r v b = some burst) :
    burst.rest.callsLeft + 1 = a.callsLeft := by
  cases a <;> cases r <;>
    simp only [resume?, Option.some.injEq, reduceCtorEq] at h <;> subst h
  · rw [callsLeft_afterCheck]; rfl
  · rw [callsLeft_afterStats]; rfl
  · rw [callsLeft_afterPayment]; rfl
  · rw [callsLeft_afterReset]; rfl

end Handler
end MeteredChecker
