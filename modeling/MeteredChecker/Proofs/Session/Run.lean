import MeteredChecker.Proofs.Session.Burst
import MeteredChecker.Proofs.Session.History

/-!
# Runs

A run of a session is any number of moves that the session allows, from a page
that has just been opened.  It leads to a session and leaves a `History` behind.

Every beginning of a run is a run (`Run.of_append`), so a statement about all runs
is a statement about every step of every run.  And runs are exactly what
`Session.run?` computes (`run_iff_run?`).

## What a move can be

`Session.Step` is the one inversion of `Session.step?` that the rest of the theory
uses: a move starts a new handler or settles a call that is under way, and in
either case one `Handler.Turn` is taken.
-/

namespace MeteredChecker

/-! ## Steps -/

namespace Session

section absorb

variable (s : Session) (handler : Nat) (burst : Burst)

@[simp] theorem absorb_report :
    (s.absorb handler burst).2 = ⟨handler, burst.log, burst.rest⟩ := by
  unfold absorb
  cases burst.rest <;> rfl

@[simp] theorem absorb_view : (s.absorb handler burst).1.view = burst.view := by
  unfold absorb
  cases burst.rest <;> rfl

@[simp] theorem absorb_browser : (s.absorb handler burst).1.browser = burst.browser := by
  unfold absorb
  cases burst.rest <;> rfl

@[simp] theorem absorb_handlers : (s.absorb handler burst).1.handlers = s.handlers := by
  unfold absorb
  cases burst.rest <;> rfl

theorem absorb_pending_of_ended {outcome : Option Payment.Outcome}
    (h : burst.rest = .ended outcome) : (s.absorb handler burst).1.pending = s.pending := by
  simp [absorb, h]

theorem absorb_pending_of_waits {a : Awaiting} (h : burst.rest = .waits a) :
    (s.absorb handler burst).1.pending = s.pending ++ [⟨s.calls, handler, a⟩] := by
  simp [absorb, h]

theorem absorb_calls_of_waits {a : Awaiting} (h : burst.rest = .waits a) :
    (s.absorb handler burst).1.calls = s.calls + 1 := by
  simp [absorb, h]

theorem absorb_calls_of_ended {outcome : Option Payment.Outcome}
    (h : burst.rest = .ended outcome) : (s.absorb handler burst).1.calls = s.calls := by
  simp [absorb, h]

end absorb

/-- What a move can be: a new handler takes its first turn, or a handler whose
call is settled takes its next. -/
inductive Step (policy : Policy) (s : Session) : Move → Session × Report → Prop
  | start {event : Event} {burst : Burst}
      (turn : Handler.Turn policy s.view s.browser none (.start event) burst) :
      Step policy s (.start event)
        ({ s with handlers := s.handlers + 1 }.absorb s.handlers burst)
  | settle {p : Pending} {reply : Reply} {burst : Burst} (mem : p ∈ s.pending)
      (turn : Handler.Turn policy s.view s.browser (some p.awaiting) (.settle p.call reply)
        burst) :
      Step policy s (.settle p.call reply) ((s.drop p.call).absorb p.handler burst)

/-- What settles a call is a burst of the handler that waits for it. -/
theorem exists_of_settle? {policy : Policy} {s : Session} {call : Nat} {reply : Reply}
    {next : Session × Report} (h : s.settle? policy call reply = some next) :
    ∃ p ∈ s.pending, p.call = call ∧ ∃ burst,
      Handler.resume? policy p.awaiting reply s.view s.browser = some burst ∧
      (s.drop p.call).absorb p.handler burst = next := by
  simp only [settle?, Option.bind_eq_bind, Option.bind_eq_some_iff, Option.pure_def,
    Option.some.injEq] at h
  obtain ⟨p, hp, burst, hburst, hnext⟩ := h
  obtain rfl : p.call = call := by simpa using List.find?_some hp
  exact ⟨p, List.mem_of_find?_eq_some hp, rfl, burst, hburst, hnext⟩

theorem step_of_step? {policy : Policy} {s : Session} {move : Move} {next : Session × Report}
    (h : s.step? policy move = some next) : Step policy s move next := by
  cases move with
  | start event =>
    simp only [step?, start, Option.some.injEq] at h
    subst h
    exact .start (Handler.turn_begin event)
  | settle call reply =>
    obtain ⟨p, mem, rfl, burst, hburst, rfl⟩ := exists_of_settle? h
    exact .settle mem (Handler.turn_of_resume? p.call hburst)

theorem Step.handlers_le {policy : Policy} {s : Session} {move : Move}
    {next : Session × Report} (step : Step policy s move next) :
    s.handlers ≤ next.1.handlers := by
  cases step with
  | start turn =>
    rw [absorb_handlers]
    exact Nat.le_succ _
  | settle mem turn =>
    rw [absorb_handlers]
    exact Nat.le_refl _

/-- A handler waits, and this is what for: its call is under way. -/
def Waits (s : Session) (handler : Nat) (a : Awaiting) : Prop :=
  ∃ p ∈ s.pending, p.handler = handler ∧ p.awaiting = a

/-- A handler may take a turn: it is new, or it waits. -/
def Ready (s : Session) (handler : Nat) : Option Awaiting → Prop
  | none => handler = s.handlers
  | some a => s.Waits handler a

/-- What a move does to the page and to the browser is one turn of one handler. -/
theorem Step.exists_burst {policy : Policy} {s : Session} {move : Move}
    {next : Session × Report} (step : Step policy s move next) :
    ∃ n before burst, s.Ready n before ∧
      Handler.Turn policy s.view s.browser before move burst ∧
      next.1.view = burst.view ∧ next.1.browser = burst.browser ∧
      next.2 = ⟨n, burst.log, burst.rest⟩ := by
  cases step with
  | @start event burst turn => exact ⟨s.handlers, none, burst, rfl, turn, by simp⟩
  | @settle p reply burst mem turn =>
    exact ⟨p.handler, some p.awaiting, burst, ⟨p, mem, rfl, rfl⟩, turn, by simp⟩

/-- What a move does to the page is one turn of one handler. -/
theorem Step.exists_turn {policy : Policy} {s : Session} {move : Move}
    {next : Session × Report} (step : Step policy s move next) :
    ∃ n before burst, s.Ready n before ∧
      Handler.Turn policy s.view s.browser before move burst ∧
      next.1.view = burst.view ∧ next.2 = ⟨n, burst.log, burst.rest⟩ := by
  obtain ⟨n, before, burst, ready, turn, hview, -, hreport⟩ := step.exists_burst
  exact ⟨n, before, burst, ready, turn, hview, hreport⟩

end Session

/-! ## Runs -/

/-- The history and the session that any number of moves lead to, on a page that
has just been opened. -/
inductive Run (policy : Policy) (browser : Browser) : History → Session → Prop
  | opened : Run policy browser [] (.new browser)
  | moved {h : History} {s : Session} {move : Move} {next : Session × Report}
      (run : Run policy browser h s) (step : s.step? policy move = some next) :
      Run policy browser (⟨move, next.2⟩ :: h) next.1

namespace Run

variable {policy : Policy} {browser : Browser} {h : History} {s : Session}

/-- A handler may be started at any time. -/
theorem start (run : Run policy browser h s) (event : Event) :
    Run policy browser (⟨.start event, (s.start event).2⟩ :: h) (s.start event).1 :=
  .moved run rfl

/-- A call that is under way may be settled at any time. -/
theorem settle (run : Run policy browser h s) (call : Nat) (reply : Reply)
    {next : Session × Report} (step : s.settle? policy call reply = some next) :
    Run policy browser (⟨.settle call reply, next.2⟩ :: h) next.1 :=
  .moved run step

/-- **Every beginning of a run is a run.** -/
theorem of_append {newer older : History} (run : Run policy browser (newer ++ older) s) :
    ∃ s₀, Run policy browser older s₀ := by
  induction newer generalizing s with
  | nil => exact ⟨s, run⟩
  | cons m newer ih =>
    cases run with
    | moved run step => exact ih run

/-- A submission of code makes its handler wait for the check. -/
theorem waits_of_submission? {m : Moment} {older : History}
    (run : Run policy browser (m :: older) s) {submission : Submission} (hs : m.submission? = some submission)
    (full : submission.isEmpty = false) :
    ∃ ticket, m.report.rest = .waits (.check submission ticket) := by
  cases run with
  | moved run step =>
    obtain ⟨n, before, burst, -, turn, -, hreport⟩ := (Session.step_of_step? step).exists_turn
    rw [hreport]
    cases turn with
    | rejected _ empty =>
      cases hs
      rw [empty] at full
      cases full
    | submitted =>
      cases hs
      exact ⟨_, rfl⟩
    | refreshing | resetting | buying | checked | counted | restored | paid => cases hs

end Run

/-- The session behind a trail of moves, the latest of which is at its end. -/
def Session.behind (s : Session) (trail : List (Session × Report)) : Session :=
  (trail.getLast?.map Prod.fst).getD s

namespace Session

variable {policy : Policy} {s : Session} {move : Move} {moves : List Move}
  {trail : List (Session × Report)}

theorem behind_cons (s : Session) (next : Session × Report) (trail : List (Session × Report)) :
    s.behind (next :: trail) = next.1.behind trail := by
  cases trail with
  | nil => rfl
  | cons e trail => simp [behind, List.getLast?_cons]

theorem behind_append (s : Session) (trail trail' : List (Session × Report)) :
    s.behind (trail ++ trail') = (s.behind trail).behind trail' := by
  induction trail generalizing s with
  | nil => rfl
  | cons next trail ih => rw [List.cons_append, behind_cons, behind_cons, ih]

theorem exists_getLast?_behind (s : Session) (next : Session × Report)
    (trail : List (Session × Report)) :
    ∃ last ∈ (next :: trail).getLast?, s.behind (next :: trail) = last.1 := by
  have hlast := List.getLast?_eq_some_getLast (List.cons_ne_nil next trail)
  exact ⟨_, hlast, by rw [behind, hlast]; rfl⟩

/-- A run of moves is a first move and a run of the others. -/
theorem run?_cons_iff :
    s.run? policy (move :: moves) = some trail ↔
      ∃ next later, s.step? policy move = some next ∧ next.1.run? policy moves = some later ∧
        trail = next :: later := by
  simp only [run?, Option.bind_eq_bind, Option.bind_eq_some_iff, Option.pure_def,
    Option.some.injEq]
  constructor
  · rintro ⟨next, hstep, later, hlater, rfl⟩
    exact ⟨next, later, hstep, hlater, rfl⟩
  · rintro ⟨next, later, hstep, hlater, rfl⟩
    exact ⟨next, hstep, later, hlater, rfl⟩

theorem length_run? (run : s.run? policy moves = some trail) : trail.length = moves.length := by
  induction moves generalizing s trail with
  | nil =>
    cases run
    rfl
  | cons move moves ih =>
    obtain ⟨next, later, -, hlater, rfl⟩ := run?_cons_iff.1 run
    rw [List.length_cons, List.length_cons, ih hlater]

theorem run?_concat (policy : Policy) (s : Session) (moves : List Move) (move : Move) :
    s.run? policy (moves ++ [move]) =
      (s.run? policy moves).bind fun trail =>
        ((s.behind trail).step? policy move).map fun next => trail ++ [next] := by
  induction moves generalizing s with
  | nil =>
    show (s.step? policy move).bind (fun next => some [next]) =
      (s.step? policy move).map fun next => [next]
    cases s.step? policy move <;> rfl
  | cons first moves ih =>
    simp only [List.cons_append, run?, Option.bind_eq_bind, Option.pure_def]
    cases hs : s.step? policy first with
    | none => rfl
    | some next =>
      simp only [Option.bind_some, ih]
      cases hr : next.1.run? policy moves with
      | none => rfl
      | some trail =>
        simp only [Option.bind_some, behind_cons]
        cases (next.1.behind trail).step? policy move <;> rfl

/-- One run after the other is a run. -/
theorem run?_append {moves' : List Move} {trail' : List (Session × Report)}
    (run : s.run? policy moves = some trail)
    (run' : (s.behind trail).run? policy moves' = some trail') :
    s.run? policy (moves ++ moves') = some (trail ++ trail') := by
  induction moves generalizing s trail with
  | nil =>
    cases run
    exact run'
  | cons move moves ih =>
    obtain ⟨next, later, hstep, hlater, rfl⟩ := run?_cons_iff.1 run
    rw [behind_cons] at run'
    exact run?_cons_iff.2 ⟨next, later ++ trail', hstep, ih hlater run', rfl⟩

end Session

/-- **Runs are what `Session.run?` computes**: the moves of a run, made one after
the other, are all allowed, report what its history says and end in its session;
and moves that are allowed make a run. -/
theorem run_iff_run? {policy : Policy} {browser : Browser} {h : History} {s : Session} :
    Run policy browser h s ↔
      ∃ trail, (Session.new browser).run? policy (h.reverse.map Moment.move) = some trail ∧
        trail.map Prod.snd = h.reverse.map Moment.report ∧
        (Session.new browser).behind trail = s := by
  constructor
  · intro run
    induction run with
    | opened => exact ⟨[], rfl, rfl, rfl⟩
    | @moved h s move next run step ih =>
      obtain ⟨trail, hrun, hreports, rfl⟩ := ih
      refine ⟨trail ++ [next], ?_, ?_, ?_⟩
      · rw [List.reverse_cons, List.map_append, List.map_singleton, Session.run?_concat, hrun,
          Option.bind_some, step, Option.map_some]
      · simp [hreports]
      · simp [Session.behind]
  · intro hrun
    induction h generalizing s with
    | nil =>
      obtain ⟨trail, hrun, -, rfl⟩ := hrun
      obtain rfl : [] = trail := by simpa [Session.run?] using hrun
      exact .opened
    | cons m h ih =>
      obtain ⟨trail, hrun, hreports, rfl⟩ := hrun
      simp only [List.reverse_cons, List.map_append, List.map_cons, List.map_nil,
        Session.run?_concat, Option.bind_eq_some_iff, Option.map_eq_some_iff] at hrun
      obtain ⟨trail, hrun, next, hstep, rfl⟩ := hrun
      simp only [List.map_append, List.map_cons, List.map_nil, List.reverse_cons] at hreports
      obtain ⟨hinit, hlast⟩ := List.append_inj' hreports rfl
      have hr : next.2 = m.report := by simpa using hlast
      have hmoved := Run.moved (ih ⟨trail, hrun, hinit, rfl⟩) hstep
      rw [hr] at hmoved
      simpa [Session.behind] using hmoved

end MeteredChecker
