import MeteredChecker.Config.Basic
import MeteredChecker.Session.Handler

/-!
# Handlers run to their end

Where nothing overlaps there is no need for calls under way.  A handler is run
from its beginning to its end, and each call it makes is answered on the spot by
a `Service`.

A service has a state of its own --- replies that are still to be given, requests
that have been sent --- and may log while it answers; its events come before the
ones of the burst that goes on with the answer.
-/

namespace MeteredChecker

/-- What a service does with one call: what it came to, what was logged on the
way, and the state of the service behind it. -/
structure Answer (σ α : Type) where
  outcome : Except Failure α
  log : List LogEvent
  state : σ

/-- Somebody who answers calls. -/
structure Service (σ : Type) where
  check : Submission → σ → Answer σ Verdict
  stats : σ → Answer σ Quota
  payment : σ → Answer σ Payment.Reply
  reset : σ → Answer σ Unit

/-- A handler in the middle of its run: its last burst, the calls it has made and
the service that answers them. -/
structure Progress (σ : Type) where
  view : View
  browser : Browser
  log : List LogEvent
  calls : List Call
  rest : Rest
  state : σ

/-- A handler that has ended. -/
structure Completed (σ : Type) where
  view : View
  browser : Browser
  log : List LogEvent
  calls : List Call
  outcome : Option Payment.Outcome
  state : σ

namespace Service

variable {σ : Type}

/-- Answers the call that a handler waits for and lets it go on. -/
def settle (service : Service σ) (policy : Policy) (a : Awaiting) (v : View) (b : Browser)
    (s : σ) : Burst × σ :=
  match a with
  | .check submission ticket =>
      let r := service.check submission s
      let burst := Handler.afterCheck policy ticket r.outcome v b
      ({ burst with log := r.log ++ burst.log }, r.state)
  | .stats ticket =>
      let r := service.stats s
      let burst := Handler.afterStats policy ticket r.outcome v b
      ({ burst with log := r.log ++ burst.log }, r.state)
  | .payment =>
      let r := service.payment s
      let burst := Handler.afterPayment r.outcome v b
      ({ burst with log := r.log ++ burst.log }, r.state)
  | .reset =>
      let r := service.reset s
      let burst := Handler.afterReset r.outcome v b
      ({ burst with log := r.log ++ burst.log }, r.state)

theorem callsLeft_settle (service : Service σ) (policy : Policy) (a : Awaiting) (v : View)
    (b : Browser) (s : σ) :
    (service.settle policy a v b s).1.rest.callsLeft + 1 = a.callsLeft := by
  cases a
  · exact congrArg (· + 1) (Handler.callsLeft_afterCheck _ _ _ _ _)
  · exact congrArg (· + 1) (Handler.callsLeft_afterStats _ _ _ _ _)
  · exact congrArg (· + 1) (Handler.callsLeft_afterPayment _ _ _)
  · exact congrArg (· + 1) (Handler.callsLeft_afterReset (service.reset s).outcome v b)

/-- Runs a handler on to its end. -/
def finish (service : Service σ) (policy : Policy) (p : Progress σ) : Completed σ :=
  match h : p.rest with
  | .ended outcome => ⟨p.view, p.browser, p.log, p.calls, outcome, p.state⟩
  | .waits a =>
      let next := service.settle policy a p.view p.browser p.state
      have : next.1.rest.callsLeft < p.rest.callsLeft := by
        have := service.callsLeft_settle policy a p.view p.browser p.state
        rw [h]
        simp only [Rest.callsLeft, next] at *
        omega
      service.finish policy
        { view := next.1.view
          browser := next.1.browser
          log := p.log ++ next.1.log
          calls := p.calls ++ [a.call]
          rest := next.1.rest
          state := next.2 }
  termination_by p.rest.callsLeft

/-- Runs a handler from its beginning to its end. -/
def complete (service : Service σ) (policy : Policy) (event : Event) (v : View) (b : Browser)
    (s : σ) : Completed σ :=
  let burst := Handler.begin event v b
  service.finish policy ⟨burst.view, burst.browser, burst.log, [], burst.rest, s⟩

end Service
end MeteredChecker
