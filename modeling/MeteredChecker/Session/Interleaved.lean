import MeteredChecker.Session.Handler

/-!
# Interleaved sessions

On a real page the handlers overlap: while one waits another is started, and the
service settles the calls in whatever order it pleases.  A `Session` is the page
together with the calls that are under way, and it moves in two ways --- a user
starts a handler, or a call is settled.  Each move runs exactly one burst.

Handlers are numbered in the order in which they are started, calls in the order
in which they are made.  A move that settles a call which is not under way, or
settles it with a reply of another kind, is no move: `step?` has no answer for
it.
-/

namespace MeteredChecker

/-- A call that is under way. -/
structure Pending where
  call : Nat
  handler : Nat
  awaiting : Awaiting
  deriving DecidableEq, Repr

/-- A page with the calls that are under way, in the order in which they were
made, and the numbers of calls made and handlers started so far. -/
structure Session where
  view : View
  browser : Browser
  pending : List Pending
  calls : Nat
  handlers : Nat

/-- What can happen to a session. -/
inductive Move where
  | start (event : Event)
  | settle (call : Nat) (reply : Reply)

/-- What a move did beside changing the session: which handler worked, what it
logged, and how its burst ended. -/
structure Report where
  handler : Nat
  log : List LogEvent
  rest : Rest

namespace Report

/-- The call that was made. -/
def made (r : Report) : Option Call :=
  match r.rest with
  | .waits awaiting => some awaiting.call
  | .ended _ => none

/-- The handler that ended, with the outcome of a purchase. -/
def finished (r : Report) : Option (Nat × Option Payment.Outcome) :=
  match r.rest with
  | .ended outcome => some (r.handler, outcome)
  | .waits _ => none

end Report

namespace Session

/-- A page that has just been opened, with nothing under way. -/
def new (browser : Browser) : Session := ⟨.new, browser, [], 0, 0⟩

/-- Takes a burst of a handler in: the page is the one behind the burst, and the
call that was made, if any, is under way. -/
def absorb (s : Session) (handler : Nat) (burst : Burst) : Session × Report :=
  let report : Report := ⟨handler, burst.log, burst.rest⟩
  let s := { s with view := burst.view, browser := burst.browser }
  match burst.rest with
  | .ended _ => (s, report)
  | .waits awaiting =>
      ({ s with
          pending := s.pending ++ [⟨s.calls, handler, awaiting⟩]
          calls := s.calls + 1 },
       report)

/-- The call under way with a number. -/
def pending? (s : Session) (call : Nat) : Option Pending :=
  s.pending.find? fun p => p.call == call

/-- The session without the call with a number. -/
def drop (s : Session) (call : Nat) : Session :=
  { s with pending := s.pending.filter fun p => p.call != call }

/-- Takes a form in on a page.  The page is left as it is: a handler for the submission is
started by a move of its own. -/
def accept (s : Session) (event : FormEvent) (raw : String) : Session × FormEvent × Submission :=
  (s, event.accept raw)

/-- Starts a handler. -/
def start (s : Session) (event : Event) : Session × Report :=
  absorb { s with handlers := s.handlers + 1 } s.handlers (Handler.begin event s.view s.browser)

/-- Settles a call. -/
def settle? (policy : Policy) (s : Session) (call : Nat) (reply : Reply) :
    Option (Session × Report) := do
  let p ← s.pending? call
  let burst ← Handler.resume? policy p.awaiting reply s.view s.browser
  pure ((s.drop call).absorb p.handler burst)

/-- Makes a move. -/
def step? (policy : Policy) (s : Session) : Move → Option (Session × Report)
  | .start event => some (s.start event)
  | .settle call reply => s.settle? policy call reply

/-- Makes moves one after the other.  Answers with the session and the report
behind each. -/
def run? (policy : Policy) (s : Session) : List Move → Option (List (Session × Report))
  | [] => some []
  | move :: moves => do
      let next ← s.step? policy move
      let later ← next.1.run? policy moves
      pure (next :: later)

end Session
end MeteredChecker
