import MeteredChecker.Session.Complete

/-!
# Scripted services

A scripted service answers from a script.  Checks have a queue of answers, each
given once; the other calls have one answer each, which is given until it is
replaced.  A check beyond the end of the queue is answered as if nobody were
there.
-/

namespace MeteredChecker

/-- What a scripted service will answer. -/
structure Script where
  checks : List (Except Failure Verdict)
  stats : Except Failure Quota
  payment : Except Failure Payment.Reply
  reset : Except Failure Unit

namespace Script

/-- The failure of a call for which there is no answer. -/
def unscripted : Failure := .transport "no scripted reply"

/-- A script in which nothing is written. -/
def empty : Script := ⟨[], .error unscripted, .error unscripted, .ok ()⟩

/-- The answer to a check, and the script without it. -/
def nextCheck (s : Script) : Except Failure Verdict × Script :=
  match s.checks with
  | [] => (.error unscripted, s)
  | outcome :: more => (outcome, { s with checks := more })

end Script

/-- The service that answers from a script. -/
def Service.scripted : Service Script where
  check := fun _ s => ⟨s.nextCheck.1, [], s.nextCheck.2⟩
  stats := fun s => ⟨s.stats, [], s⟩
  payment := fun s => ⟨s.payment, [], s⟩
  reset := fun s => ⟨s.reset, [], s⟩

end MeteredChecker
