import MeteredChecker.Proofs.Session.Completion
import MeteredChecker.Session.Complete

/-!
# A handler run to its end is a run

There are two ways to execute a handler.  `Service.complete` runs it to its end, with a
service that answers every call on the spot.  `Session.run?` has it wait, and settles its
calls by moves.  This file says that the first is the second with the calls settled as
soon as they are made: from a page with nothing under way, start the handler and settle
what it asks for, one call after the other, with what the service says.  The moves are
allowed, nothing else is under way in between, and the page behind the last of them is
the page that the handler run to its end leaves behind (`Service.exists_enacts`).

## The moves are known beforehand

Which moves these are does not have to be found out by making them.  What a handler asks
for is its script, whatever it is told (`Event.script`), and what the service replies
depends on the calls and on the state it is in.  So the replies to the calls of an event
are a function of the state before it, `Service.replies`, and those to any number of events
of the state before the first (`Service.answers`).  The moves are made of the answers and
of nothing else (`promptMoves`).  So two services that answer alike have the same moves;
that is what makes this file the meeting point for statements about two of them.

## What the service says beside

A service may log while it answers, and its events come before those of the burst that
goes on with the answer.  Moves know nothing of it.  So the log of a handler that was run
to its end is the log of the moves with `Service.remarks` between.
-/

namespace MeteredChecker

/-! ## What a service says -/

namespace Service

variable {σ : Type} (service : Service σ)

/-- What a service replies to a call. -/
def reply : Call → σ → Reply
  | .check submission, state => .check (service.check submission state).outcome
  | .stats, state => .stats (service.stats state).outcome
  | .payment, state => .payment (service.payment state).outcome
  | .reset, state => .reset (service.reset state).outcome

/-- What a service logs while it answers a call. -/
def remark : Call → σ → List LogEvent
  | .check submission, state => (service.check submission state).log
  | .stats, state => (service.stats state).log
  | .payment, state => (service.payment state).log
  | .reset, state => (service.reset state).log

/-- The state that a service is in when it has answered a call. -/
def next : Call → σ → σ
  | .check submission, state => (service.check submission state).state
  | .stats, state => (service.stats state).state
  | .payment, state => (service.payment state).state
  | .reset, state => (service.reset state).state

/-- The state that a service is in when it has answered calls. -/
def after (calls : List Call) (state : σ) : σ :=
  calls.foldl (fun state call => service.next call state) state

/-- What a service replies to calls that are made one after the other. -/
def replies : List Call → σ → List Reply
  | [], _ => []
  | call :: calls, state => service.reply call state :: replies calls (service.next call state)

/-- What a service logs while it answers calls, for each call. -/
def remarks : List Call → σ → List (List LogEvent)
  | [], _ => []
  | call :: calls, state => service.remark call state :: remarks calls (service.next call state)

@[simp] theorem length_replies (calls : List Call) (state : σ) :
    (service.replies calls state).length = calls.length := by
  induction calls generalizing state with
  | nil => rfl
  | cons call calls ih => rw [replies, List.length_cons, List.length_cons, ih]

@[simp] theorem length_remarks (calls : List Call) (state : σ) :
    (service.remarks calls state).length = calls.length := by
  induction calls generalizing state with
  | nil => rfl
  | cons call calls ih => rw [remarks, List.length_cons, List.length_cons, ih]

/-- What holds of whatever a service logs while it answers one call holds of what it logs
while it answers any number of them. -/
theorem forall_remarks {P : List LogEvent → Prop}
    (h : ∀ call state, P (service.remark call state)) (calls : List Call) (state : σ) :
    ∀ remark ∈ service.remarks calls state, P remark := by
  induction calls generalizing state with
  | nil => exact fun remark hremark => absurd hremark List.not_mem_nil
  | cons call calls ih => exact List.forall_mem_cons.2 ⟨h call state, ih _⟩

theorem after_append (calls calls' : List Call) (state : σ) :
    service.after (calls ++ calls') state = service.after calls' (service.after calls state) :=
  List.foldl_append ..

/-- **Settling a call** is the burst that goes on with the reply, behind the remark. -/
theorem exists_settle_eq (policy : Policy) (a : Awaiting) (v : View) (b : Browser) (state : σ) :
    ∃ burst, Handler.resume? policy a (service.reply a.call state) v b = some burst ∧
      service.settle policy a v b state =
        ({ burst with log := service.remark a.call state ++ burst.log },
          service.next a.call state) := by
  cases a with
  | check submission ticket => exact ⟨_, rfl, rfl⟩
  | stats ticket => exact ⟨_, rfl, rfl⟩
  | payment => exact ⟨_, rfl, rfl⟩
  | reset => exact ⟨_, rfl, rfl⟩

end Service

/-! ## What is still to be asked -/

/-- The calls that are still to be settled before a handler ends: the one that it waits
for, and those that it will make. -/
def Rest.due : Rest → List Call
  | .waits a => a.call :: (Rest.waits a).script
  | .ended _ => []

theorem Handler.due_begin (event : Event) (v : View) (b : Browser) :
    (begin event v b).rest.due = event.script := by
  cases event with
  | submit submission =>
    rw [begin, beginSubmission, Event.script]
    cases submission.isEmpty <;> rfl
  | refresh | reset | buy => rfl

theorem Handler.due_resume? {policy : Policy} {a : Awaiting} {reply : Reply} {v : View}
    {b : Browser} {burst : Burst} (h : resume? policy a reply v b = some burst) :
    burst.rest.due = (Rest.waits a).script := by
  cases turn_of_resume? 0 h <;> rfl

/-! ## One handler and nothing else -/

/-- The call under way, if it is the one of a handler that has come to rest. -/
def Rest.pending (n call : Nat) : Rest → List Pending
  | .waits a => [⟨call, n, a⟩]
  | .ended _ => []

namespace Session

/-- A page on which the latest handler has come to rest and no other is waiting; `call` is
the number of its call if it waits, and of the next call if it has ended. -/
def alone (v : View) (b : Browser) (rest : Rest) (n call : Nat) : Session :=
  ⟨v, b, rest.pending n call, call + (rest.pending n call).length, n + 1⟩

theorem length_pending_alone (v : View) (b : Browser) (rest : Rest) (n call : Nat) :
    (alone v b rest n call).pending.length ≤ 1 := by
  cases rest with
  | ended outcome => exact Nat.zero_le 1
  | waits a => exact Nat.le_refl 1

theorem absorb_quiet {s : Session} (quiet : s.pending = []) {n : Nat} (hn : s.handlers = n + 1)
    (burst : Burst) :
    s.absorb n burst = (alone burst.view burst.browser burst.rest n s.calls,
      ⟨n, burst.log, burst.rest⟩) := by
  obtain ⟨v, b, pending, calls, handlers⟩ := s
  obtain rfl : pending = [] := quiet
  obtain rfl : handlers = n + 1 := hn
  rw [absorb]
  cases burst.rest <;> rfl

/-- A handler whose call is settled is still alone. -/
theorem step?_alone {policy : Policy} {a : Awaiting} {reply : Reply} {v : View} {b : Browser}
    {burst : Burst} (n call : Nat) (h : Handler.resume? policy a reply v b = some burst) :
    (alone v b (.waits a) n call).step? policy (.settle call reply) =
      some (alone burst.view burst.browser burst.rest n (call + 1),
        ⟨n, burst.log, burst.rest⟩) := by
  have hsettle : (alone v b (.waits a) n call).settle? policy call reply =
      some (((alone v b (.waits a) n call).drop call).absorb n burst) := by
    simp [settle?, pending?, alone, Rest.pending, h]
  rw [step?, hsettle, absorb_quiet (by simp [drop, alone, Rest.pending]) rfl]
  rfl

end Session

/-! ## Settled at once -/

/-- The moves that settle calls from a number on, one after the other. -/
def settlements : Nat → List Reply → List Move
  | _, [] => []
  | call, reply :: replies => .settle call reply :: settlements (call + 1) replies

/-- The moves of a page on which events are handled one after the other, each call being
settled as soon as it is made, from a number of calls on. -/
def promptMoves : Nat → List (Event × List Reply) → List (List Move)
  | _, [] => []
  | call, (event, replies) :: later =>
      (.start event :: settlements call replies) :: promptMoves (call + replies.length) later

section progress

variable {σ : Type}

/-- The page on which a handler has got so far, with nothing else under way, and the report
of its latest burst. -/
def Progress.rested (p : Progress σ) (n call : Nat) : Session × Report :=
  (.alone p.view p.browser p.rest n call, ⟨n, p.log, p.rest⟩)

/-- A handler that has begun, before any of its calls is settled. -/
def Event.begun (event : Event) (v : View) (b : Browser) (state : σ) : Progress σ :=
  ⟨(Handler.begin event v b).view, (Handler.begin event v b).browser,
    (Handler.begin event v b).log, [], (Handler.begin event v b).rest, state⟩

theorem Event.due_begun (event : Event) (v : View) (b : Browser) (state : σ) :
    (event.begun v b state).rest.due = event.script :=
  Handler.due_begin event v b

/-- A handler that is started where nothing is under way is alone. -/
theorem Session.start_quiet {s : Session} (quiet : s.pending = []) (event : Event) (state : σ) :
    s.start event = (event.begun s.view s.browser state).rested s.handlers s.calls :=
  absorb_quiet (s := { s with handlers := s.handlers + 1 }) quiet rfl _

end progress

namespace Service

variable {σ : Type}

/-- What the log of a handler that is run to its end is made of: what was logged by the
moves, each behind the remark of the service. -/
def interleave (remarks : List (List LogEvent)) (trail : List (Session × Report)) :
    List LogEvent :=
  (List.zipWith (· ++ ·) remarks (trail.map fun next => next.2.log)).flatten

/-- What is left of a log without the remarks. -/
theorem filter_interleave {keep : LogEvent → Bool} {remarks : List (List LogEvent)}
    {trail : List (Session × Report)} (hlength : trail.length = remarks.length)
    (hremarks : ∀ remark ∈ remarks, ∀ e ∈ remark, keep e = false)
    (htrail : ∀ next ∈ trail, ∀ e ∈ next.2.log, keep e = true) :
    (interleave remarks trail).filter keep = trail.flatMap fun next => next.2.log := by
  induction trail generalizing remarks with
  | nil => simp [interleave]
  | cons next trail ih =>
    cases remarks with
    | nil => cases hlength
    | cons remark remarks =>
      obtain ⟨hremark, hremarks⟩ := List.forall_mem_cons.1 hremarks
      obtain ⟨hnext, htrail⟩ := List.forall_mem_cons.1 htrail
      have hdropped : remark.filter keep = [] := List.filter_eq_nil_iff.2 fun e he => by
        simp [hremark e he]
      have hkept : next.2.log.filter keep = next.2.log := List.filter_eq_self.2 hnext
      have hlater := ih (Nat.succ.inj hlength) hremarks htrail
      rw [interleave] at hlater ⊢
      rw [List.map_cons, List.zipWith_cons_cons, List.flatten_cons, List.filter_append,
        List.filter_append, hdropped, hkept, hlater, List.nil_append, List.flatMap_cons]

/-- Where a service is silent the log is that of the moves. -/
theorem interleave_of_silent {remarks : List (List LogEvent)} {trail : List (Session × Report)}
    (hlength : trail.length = remarks.length) (silent : ∀ remark ∈ remarks, remark = []) :
    interleave remarks trail = trail.flatMap fun next => next.2.log := by
  have hall : (interleave remarks trail).filter (fun _ => true) =
      trail.flatMap fun next => next.2.log :=
    filter_interleave hlength
      (fun remark hremark e he => absurd he (silent remark hremark ▸ List.not_mem_nil))
      fun _ _ _ _ => rfl
  rwa [List.filter_true] at hall

/-- What moves have to do with a handler that is run on to its end, from wherever it is:
`trail` is what came of the moves that settle its calls. -/
structure Finishes (service : Service σ) (p : Progress σ) (n call : Nat)
    (trail : List (Session × Report)) (done : Completed σ) : Prop where
  behind : (p.rested n call).1.behind trail =
    .alone done.view done.browser (.ended done.outcome) n (call + p.rest.due.length)
  calls : done.calls = p.calls ++ p.rest.due
  state : done.state = service.after p.rest.due p.state
  log : done.log = p.log ++ interleave (service.remarks p.rest.due p.state) trail
  made : (p.rested n call :: trail).filterMap (fun next => next.2.made) = p.rest.due
  finished : (p.rested n call :: trail).filterMap (fun next => next.2.finished) =
    [(n, done.outcome)]
  length : trail.length = p.rest.due.length
  alone : ∀ next ∈ trail, next.1.pending.length ≤ 1

/-- The progress of a handler whose call has been settled, with what came of the reply. -/
def settled (service : Service σ) (p : Progress σ) (a : Awaiting) (burst : Burst) : Progress σ :=
  ⟨burst.view, burst.browser, p.log ++ (service.remark a.call p.state ++ burst.log),
    p.calls ++ [a.call], burst.rest, service.next a.call p.state⟩

variable (service : Service σ) (policy : Policy)

/-- A handler that has ended needs no more moves. -/
theorem Finishes.nil {service : Service σ} {p : Progress σ} {outcome : Option Payment.Outcome}
    (hrest : p.rest = .ended outcome) (n call : Nat) :
    service.Finishes p n call [] ⟨p.view, p.browser, p.log, p.calls, outcome, p.state⟩ := by
  constructor <;> simp [hrest, Rest.due, after, remarks, interleave, Report.made,
    Report.finished, Session.behind, Progress.rested]

/-- A handler that waits needs one move more than behind that move. -/
theorem Finishes.cons {service : Service σ} {p : Progress σ} {a : Awaiting}
    {burst : Burst} {n call : Nat} {trail : List (Session × Report)} {done : Completed σ}
    (hrest : p.rest = .waits a) (hdue : p.rest.due = a.call :: burst.rest.due)
    (finishes : service.Finishes (service.settled p a burst) n (call + 1) trail done) :
    service.Finishes p n call ((.alone burst.view burst.browser burst.rest n (call + 1),
      ⟨n, burst.log, burst.rest⟩) :: trail) done where
  behind := by
    rw [Session.behind_cons, hdue, List.length_cons, Nat.add_comm burst.rest.due.length,
      ← Nat.add_assoc]
    exact finishes.behind
  calls := by
    rw [finishes.calls, hdue, settled, List.append_assoc, List.singleton_append]
  state := by
    rw [finishes.state, hdue]
    rfl
  log := by
    rw [finishes.log, hdue]
    simp [settled, remarks, interleave]
  made := by
    have hasked : (p.rested n call).2.made = some a.call := by
      rw [Progress.rested, hrest]
      rfl
    have hlater : burst.rest.due = _ := finishes.made.symm
    rw [hdue, hlater]
    exact List.filterMap_cons_some hasked
  finished := by
    have hwaits : (p.rested n call).2.finished = none := by
      rw [Progress.rested, hrest]
      rfl
    rw [← finishes.finished]
    exact List.filterMap_cons_none hwaits
  length := by
    rw [List.length_cons, hdue, List.length_cons, finishes.length]
    rfl
  alone := List.forall_mem_cons.2 ⟨Session.length_pending_alone .., finishes.alone⟩

/-- **A handler is run on to its end** by settling its calls. -/
theorem exists_finishes (p : Progress σ) (n call : Nat) :
    ∃ trail, (p.rested n call).1.run? policy
        (settlements call (service.replies p.rest.due p.state)) = some trail ∧
      service.Finishes p n call trail (service.finish policy p) := by
  fun_induction finish service policy p generalizing call with
  | case1 p outcome hrest =>
    refine ⟨[], ?_, .nil hrest n call⟩
    rw [hrest]
    rfl
  | case2 p a hrest next hless ih =>
    obtain ⟨burst, hburst, hsettle⟩ :=
      service.exists_settle_eq policy a p.view p.browser p.state
    have hnext : next = _ := hsettle
    clear_value next
    subst hnext
    obtain ⟨trail, hrun, finishes⟩ := ih (call + 1)
    have hdue : p.rest.due = a.call :: burst.rest.due := by
      rw [hrest, Handler.due_resume? hburst]
      rfl
    have hstep := Session.step?_alone n call hburst
    rw [← hrest] at hstep
    refine ⟨_, ?_, finishes.cons hrest hdue⟩
    rw [hdue]
    exact Session.run?_cons_iff.2 ⟨_, trail, hstep, hrun, rfl⟩

/-- The calls that are made for an event are its script. -/
theorem calls_complete (event : Event) (v : View) (b : Browser) (state : σ) :
    (service.complete policy event v b state).calls = event.script := by
  obtain ⟨trail, -, finishes⟩ := service.exists_finishes policy (event.begun v b state) 0 0
  exact finishes.calls.trans (event.due_begun v b state)

theorem state_complete (event : Event) (v : View) (b : Browser) (state : σ) :
    (service.complete policy event v b state).state = service.after event.script state := by
  obtain ⟨trail, -, finishes⟩ := service.exists_finishes policy (event.begun v b state) 0 0
  rw [← event.due_begun v b state]
  exact finishes.state

end Service

/-! ## Handlers and moves -/

/-- **A handler has been enacted by moves.**  They lead to the page that it leaves behind,
with nothing under way; they make its calls and end it with its outcome; one of them
starts the handler and one settles each call, as soon as it is made, since there never is
more than one under way. -/
structure Completed.EnactedBy {σ : Type} (done : Completed σ) (n : Nat)
    (trail : List (Session × Report)) : Prop where
  last : ∃ next ∈ trail.getLast?, next.1.view = done.view ∧ next.1.browser = done.browser ∧
    next.1.pending = []
  calls : trail.filterMap (fun next => next.2.made) = done.calls
  finished : trail.filterMap (fun next => next.2.finished) = [(n, done.outcome)]
  length : trail.length = done.calls.length + 1
  alone : ∀ next ∈ trail, next.1.pending.length ≤ 1

namespace Service

variable {σ : Type} {service : Service σ} {p : Progress σ} {n call : Nat}
  {trail : List (Session × Report)} {done : Completed σ}

/-- A handler that has begun and is run on to its end is enacted by the move that has
started it and those that settle its calls. -/
theorem Finishes.enactedBy (finishes : service.Finishes p n call trail done)
    (hcalls : p.calls = []) : done.EnactedBy n (p.rested n call :: trail) where
  last := by
    obtain ⟨next, hnext, hbehind⟩ :=
      Session.exists_getLast?_behind (p.rested n call).1 (p.rested n call) trail
    rw [Session.behind_cons, finishes.behind] at hbehind
    exact ⟨next, hnext, hbehind ▸ ⟨rfl, rfl, rfl⟩⟩
  calls := by rw [finishes.calls, hcalls, List.nil_append, finishes.made]
  finished := finishes.finished
  length := by rw [List.length_cons, finishes.length, finishes.calls, hcalls, List.nil_append]
  alone := List.forall_mem_cons.2 ⟨Session.length_pending_alone .., finishes.alone⟩

variable (service) (policy : Policy)

/-- **A handler run to its end is a run** in which its calls are settled as soon as they
are made. -/
theorem exists_enacts {s : Session} (quiet : s.pending = []) (event : Event) (state : σ) :
    ∃ trail, s.run? policy
        (.start event :: settlements s.calls (service.replies event.script state)) = some trail ∧
      s.behind trail = ⟨(service.complete policy event s.view s.browser state).view,
        (service.complete policy event s.view s.browser state).browser, [],
        s.calls + event.script.length, s.handlers + 1⟩ ∧
      (service.complete policy event s.view s.browser state).EnactedBy s.handlers trail ∧
      (service.complete policy event s.view s.browser state).log =
        interleave ([] :: service.remarks event.script state) trail := by
  have hdue := event.due_begun s.view s.browser state
  have hstart := Session.start_quiet quiet event state
  have hstate : (event.begun s.view s.browser state).state = state := rfl
  have hcalls : (event.begun s.view s.browser state).calls = [] := rfl
  have hcomplete : service.complete policy event s.view s.browser state =
    service.finish policy (event.begun s.view s.browser state) := rfl
  rw [hcomplete]
  obtain ⟨trail, hrun, finishes⟩ :=
    service.exists_finishes policy (event.begun s.view s.browser state) s.handlers s.calls
  generalize event.begun s.view s.browser state = p at *
  rw [hdue, hstate] at hrun
  refine ⟨_ :: trail, Session.run?_cons_iff.2 ⟨_, trail, congrArg some hstart, hrun, rfl⟩, ?_,
    finishes.enactedBy hcalls, ?_⟩
  · rw [Session.behind_cons, finishes.behind, hdue]
    rfl
  · rw [finishes.log, hdue, hstate]
    rfl

end Service

/-! ## One event after the other -/

/-- An event, and what becomes of the service before it. -/
structure Act (σ : Type) where
  prepare : σ → σ
  event : Event

/-- An event, with nothing done to the service before. -/
def Event.act {σ : Type} (event : Event) : Act σ := ⟨id, event⟩

/-- A handler that was run to its end, and the state that the service was in before. -/
structure Performance (σ : Type) where
  before : σ
  done : Completed σ

namespace Service

variable {σ : Type} (service : Service σ) (policy : Policy)

/-- Runs handlers to their ends, one after the other. -/
def perform : List (Act σ) → View → Browser → σ → List (Performance σ)
  | [], _, _, _ => []
  | act :: acts, v, b, state =>
      let done := service.complete policy act.event v b (act.prepare state)
      ⟨act.prepare state, done⟩ :: perform acts done.view done.browser done.state

/-- The events, each with what the service replies to its calls. -/
def answers : List (Act σ) → σ → List (Event × List Reply)
  | [], _ => []
  | act :: acts, state =>
      (act.event, service.replies act.event.script (act.prepare state)) ::
        answers acts (service.after act.event.script (act.prepare state))

/-- What the service replies in a performance. -/
def repliesIn (p : Performance σ) : List Reply := service.replies p.done.calls p.before

theorem map_fst_answers (acts : List (Act σ)) (state : σ) :
    (service.answers acts state).map Prod.fst = acts.map Act.event := by
  induction acts generalizing state with
  | nil => rfl
  | cons act acts ih => rw [answers, List.map_cons, List.map_cons, ih]

/-- What is replied does not depend on the page. -/
theorem map_snd_answers (acts : List (Act σ)) (v : View) (b : Browser) (state : σ) :
    (service.answers acts state).map Prod.snd =
      (service.perform policy acts v b state).map service.repliesIn := by
  induction acts generalizing v b state with
  | nil => rfl
  | cons act acts ih =>
    rw [answers, perform, List.map_cons, List.map_cons, ← service.state_complete policy, repliesIn,
      service.calls_complete]
    exact congrArg _ (ih ..)

/-- Services answer alike if they are asked alike and reply alike. -/
theorem answers_eq_of_replies {τ : Type} {service : Service σ} {service' : Service τ}
    {acts : List (Act σ)} {acts' : List (Act τ)} {v : View} {b : Browser} {state : σ} {state' : τ}
    (hevents : acts.map Act.event = acts'.map Act.event)
    (hreplies : (service.perform policy acts v b state).map service.repliesIn =
      (service'.perform policy acts' v b state').map service'.repliesIn) :
    service.answers acts state = service'.answers acts' state' := by
  rw [← map_snd_answers, ← map_snd_answers] at hreplies
  rw [← map_fst_answers service _ state, ← map_fst_answers service' _ state'] at hevents
  rw [List.zip_of_prod hevents hreplies]
  exact (List.zip_of_prod rfl rfl).symm

/-- **Handlers run to their ends one after the other are a run**, with the calls of each
settled as soon as they are made and before the next is started. -/
theorem exists_trails (acts : List (Act σ)) {s : Session} (quiet : s.pending = []) (state : σ) :
    ∃ trails, s.run? policy (promptMoves s.calls (service.answers acts state)).flatten =
        some trails.flatten ∧
      trails.map List.length = (promptMoves s.calls (service.answers acts state)).map List.length ∧
      List.Forall₂ (fun p trail => p.1.done.EnactedBy p.2 trail ∧
          p.1.done.log = interleave ([] :: service.remarks p.1.done.calls p.1.before) trail)
        ((service.perform policy acts s.view s.browser state).zipIdx s.handlers) trails := by
  induction acts generalizing s state with
  | nil => exact ⟨[], rfl, rfl, .nil⟩
  | cons act acts ih =>
    obtain ⟨trail, hrun, hbehind, enacted, hlog⟩ :=
      service.exists_enacts policy quiet act.event (act.prepare state)
    have hcalls := service.calls_complete policy act.event s.view s.browser (act.prepare state)
    have hstate := service.state_complete policy act.event s.view s.browser (act.prepare state)
    have hquiet : (s.behind trail).pending = [] := by rw [hbehind]
    obtain ⟨trails, hruns, hlengths, henacted⟩ :=
      ih hquiet (service.after act.event.script (act.prepare state))
    rw [perform, answers, promptMoves, length_replies]
    generalize service.complete policy act.event s.view s.browser (act.prepare state) = done at *
    refine ⟨trail :: trails, ?_, ?_, ?_⟩
    · rw [List.flatten_cons, List.flatten_cons]
      refine Session.run?_append hrun ?_
      rw [hbehind] at hruns ⊢
      exact hruns
    · rw [List.map_cons, List.map_cons, Session.length_run? hrun, hlengths, hbehind]
    · rw [List.zipIdx_cons]
      rw [hbehind, ← hstate] at henacted
      exact .cons ⟨enacted, hcalls ▸ hlog⟩ henacted

/-- A service is silent if it never logs anything. -/
def Silent : Prop := ∀ call state, service.remark call state = []

variable {service}

/-- Over a silent service the log is that of the moves. -/
theorem Silent.log_eq (silent : service.Silent) {p : Performance σ} {n : Nat}
    {trail : List (Session × Report)} (enacted : p.done.EnactedBy n trail)
    (hlog : p.done.log = interleave ([] :: service.remarks p.done.calls p.before) trail) :
    p.done.log = trail.flatMap fun next => next.2.log := by
  rw [hlog]
  exact interleave_of_silent (by simp [enacted.length])
    (List.forall_mem_cons.2 ⟨rfl, service.forall_remarks (P := (· = [])) silent _ _⟩)

/-- Nothing is done to the service between events, so it is in the state that the calls so
far have left it in. -/
theorem state_of_perform {events : List Event} {v : View} {b : Browser} {state : σ}
    {earlier later : List (Performance σ)} {p : Performance σ}
    (h : service.perform policy (events.map Event.act) v b state = earlier ++ p :: later) :
    p.done.state = service.after ((earlier ++ [p]).flatMap fun p => p.done.calls) state := by
  induction events generalizing v b state earlier with
  | nil => simp [perform] at h
  | cons event events ih =>
    rw [List.map_cons, perform] at h
    have hcalls := service.calls_complete policy event v b state
    have hstate := service.state_complete policy event v b state
    rcases List.cons_eq_append_iff.1 h with ⟨rfl, hfirst⟩ | ⟨earlier, rfl, hlater⟩
    · obtain ⟨rfl, -⟩ := List.cons.inj hfirst
      rw [List.nil_append, List.flatMap_singleton]
      exact hstate.trans (by rw [← hcalls]; rfl)
    · rw [List.cons_append, List.flatMap_cons, after_append, ih hlater]
      exact congrArg _ (hstate.trans (by rw [← hcalls]; rfl))

end Service

end MeteredChecker
