import MeteredChecker.Proofs.Session.Separation

/-!
# What comes back does not steer what is asked

A handler is told what became of its calls, and it shows what it is told: a verdict or
an excuse, a quota or that there is none.  It is told nothing that it acts on.  This file
compares two pages on which the same is done --- handlers of the same kinds are started,
calls of the same numbers are settled, in the same order --- while the service says one
thing on one page and something else on the other, while late answers are shown on one
and discarded on the other, and while they did not even look alike when they were opened.
The calls under way are of the same kinds on both, in the same order, and the same
handlers have ended.

## Two pages in step

`Session.InStep` is the relation that is kept.  It looks at the *labels* of the calls
under way, `Pending.label`: the number, the handler and the kind, but not the code of a
check and not the ticket.  A move makes the same kind of call on both pages because what
is asked depends on the move alone (`Session.Step.made_eq`).  That replies are of the
same kind need not be assumed where both are taken: a call takes replies of its own kind
only, and calls of one number are of one kind (`Session.InStep.step`).

## Purchases

A purchase does look at what came back, and what it does with it depends on the browser.
So where two pages have the same browser and get the same answers about payments, the
purchases on them end alike (`Handler.afterPayment_alike`), whatever else is different.
-/

namespace MeteredChecker

/-! ## Moves of a kind -/

/-- Two events are of one kind.  Two submissions are if both are of code or both are of
nothing. -/
def Event.Like : Event → Event → Prop
  | .submit submission, .submit submission' => submission.isEmpty = submission'.isEmpty
  | .refresh, .refresh | .reset, .reset | .buy, .buy => True
  | _, _ => False

namespace Move

/-- Two moves start handlers of one kind, or settle calls of one number with whatever. -/
def Like : Move → Move → Prop
  | .start event, .start event' => event.Like event'
  | .settle call _, .settle call' _ => call = call'
  | _, _ => False

/-- What the call that a move settles was for. -/
def settled? : Move → Option Operation
  | .settle _ reply => some reply.operation
  | .start _ => none

/-- What became of the payment that a move settles. -/
def payment? : Move → Option (Except Failure Payment.Reply)
  | .settle _ (.payment outcome) => some outcome
  | _ => none

/-- Moves of one kind make calls of one kind. -/
theorem Like.made_eq {move move' : Move} (like : move.Like move')
    (hsettled : move.settled? = move'.settled?) :
    move.made.map Call.operation = move'.made.map Call.operation := by
  cases move with
  | start event =>
    cases move' with
    | settle call' reply' => cases like
    | start event' =>
      cases event with
      | submit submission =>
        cases event' with
        | submit submission' =>
          have hempty : submission.isEmpty = submission'.isEmpty := like
          rw [made, made, hempty]
          split <;> rfl
        | refresh | reset | buy => cases like
      | refresh | reset | buy => cases event' <;> first | rfl | cases like
  | settle call reply =>
    cases move' with
    | start event' => cases like
    | settle call' reply' => cases reply <;> cases reply' <;> first | rfl | cases hsettled

theorem eq_of_payment? {move : Move} {outcome : Except Failure Payment.Reply}
    (h : move.payment? = some outcome) : ∃ call, move = .settle call (.payment outcome) := by
  cases move with
  | start event => cases h
  | settle call reply =>
    cases reply <;> cases h
    exact ⟨call, rfl⟩

theorem isSome_payment? (move : Move) :
    move.payment?.isSome = (move.settled? == some .payment) := by
  cases move with
  | start event => rfl
  | settle call reply => cases reply <;> rfl

/-- Where moves settle the same kinds of calls, the same about payments is the same move
by move. -/
theorem payment?_of_filterMap {move move' : Move} {moves moves' : List Move}
    (hsettled : move.settled? = move'.settled?)
    (h : (move :: moves).filterMap payment? = (move' :: moves').filterMap payment?) :
    move.payment? = move'.payment? ∧
      moves.filterMap payment? = moves'.filterMap payment? := by
  have hsome : move.payment?.isSome = move'.payment?.isSome := by
    rw [isSome_payment?, isSome_payment?, hsettled]
  rw [List.filterMap_cons, List.filterMap_cons] at h
  cases hm : move.payment? <;> cases hm' : move'.payment? <;> rw [hm, hm'] at h hsome
  · exact ⟨rfl, h⟩
  · cases hsome
  · cases hsome
  · obtain ⟨hfirst, hothers⟩ := List.cons.inj h
    exact ⟨congrArg some hfirst, hothers⟩

end Move

/-! ## Two pages in step -/

/-- A call under way as it looks from outside: its number, the handler that waits for it,
and what it is for. -/
def Pending.label (p : Pending) : Nat × Nat × Operation :=
  (p.call, p.handler, p.awaiting.call.operation)

/-- Which handler ended follows from what was asked: a handler that asks for nothing has
ended. -/
theorem Report.finished_handler_eq (r : Report) :
    r.finished.map Prod.fst =
      if (r.made.map Call.operation).isNone then some r.handler else none := by
  rw [finished, made]
  cases r.rest <;> rfl

namespace Session

/-- A page with nothing under way, whatever it shows. -/
def opened (v : View) (b : Browser) : Session := ⟨v, b, [], 0, 0⟩

theorem Sound.opened (v : View) (b : Browser) : (Session.opened v b).Sound :=
  ⟨.nil, by simp [Session.opened], by simp [Session.opened]⟩

/-- Two pages are in step: the calls under way are of the same kinds, in the same order,
and as many calls were made and handlers started. -/
structure InStep (s s' : Session) : Prop where
  pending : s.pending.map Pending.label = s'.pending.map Pending.label
  calls : s.calls = s'.calls
  handlers : s.handlers = s'.handlers

theorem label_absorb (s : Session) (n : Nat) (burst : Burst) :
    (s.absorb n burst).1.pending.map Pending.label = s.pending.map Pending.label ++
      ((s.absorb n burst).2.made.map fun call => (s.calls, n, call.operation)).toList := by
  rw [absorb_report, Report.made]
  cases hr : burst.rest with
  | ended outcome => simp [absorb_pending_of_ended s n burst hr]
  | waits a => simp [absorb_pending_of_waits s n burst hr, Pending.label]

theorem label_drop (s : Session) (call : Nat) :
    (s.drop call).pending.map Pending.label =
      (s.pending.map Pending.label).filter fun label => label.1 != call := by
  rw [drop, List.filter_map]
  rfl

namespace InStep

variable {policy policy' : Policy} {s s' : Session} {move move' : Move}
  {next next' : Session × Report}

/-- The same burst, as far as the traffic goes, is taken in on both pages. -/
theorem absorb (inStep : s.InStep s') {n n' : Nat} (hn : n = n') {burst burst' : Burst}
    (hmade : (s.absorb n burst).2.made.map Call.operation =
      (s'.absorb n' burst').2.made.map Call.operation) :
    (s.absorb n burst).1.InStep (s'.absorb n' burst').1 := by
  subst hn
  constructor
  case handlers => simpa using inStep.handlers
  case pending =>
    have hlabel (made : Option Call) : made.map (fun call => (s.calls, n, call.operation)) =
        (made.map Call.operation).map fun operation => (s.calls, n, operation) := by
      rw [Option.map_map]
      rfl
    rw [label_absorb, label_absorb, inStep.pending, ← inStep.calls, hlabel, hlabel, hmade]
  case calls =>
    have hlength (made : Option Call) :
        made.toList.length = (made.map Call.operation).toList.length := by
      cases made <;> rfl
    rw [absorb_report, absorb_report] at hmade
    rw [calls_absorb n rfl, calls_absorb n rfl, inStep.calls, hlength, hlength, hmade]

theorem drop (inStep : s.InStep s') (call : Nat) : (s.drop call).InStep (s'.drop call) where
  pending := by rw [label_drop, label_drop, inStep.pending]
  calls := inStep.calls
  handlers := inStep.handlers

/-- Calls of one number look alike from outside. -/
theorem label_eq (inStep : s.InStep s') (sound' : s'.Sound) {p p' : Pending}
    (hp : p ∈ s.pending) (hp' : p' ∈ s'.pending) (hcall : p.call = p'.call) :
    p.label = p'.label := by
  have hmem : p.label ∈ s'.pending.map Pending.label := inStep.pending ▸ List.mem_map_of_mem hp
  obtain ⟨q, hq, hlabel⟩ := List.mem_map.1 hmem
  have hq_call : q.call = p'.call := (congrArg Prod.fst hlabel).trans hcall
  rcases sound'.eq_or_ne hq hp' with rfl | hne
  · exact hlabel.symm
  · exact absurd hq_call hne.1

/-- A move that is made on both pages keeps them in step, and its reports agree on who
worked and on what was asked. -/
theorem step (inStep : s.InStep s') (sound' : s'.Sound) (like : move.Like move')
    (hstep : Step policy s move next) (hstep' : Step policy' s' move' next') :
    next.1.InStep next'.1 ∧ move.settled? = move'.settled? ∧
      next.2.handler = next'.2.handler ∧
      next.2.made.map Call.operation = next'.2.made.map Call.operation := by
  have hmade (hsettled : move.settled? = move'.settled?) :
      next.2.made.map Call.operation = next'.2.made.map Call.operation := by
    rw [hstep.made_eq, hstep'.made_eq]
    exact like.made_eq hsettled
  cases hstep with
  | @start event burst turn =>
    cases hstep' with
    | settle mem' turn' => cases like
    | @start event' burst' turn' =>
      have hbegun : ({ s with handlers := s.handlers + 1 } : Session).InStep
          { s' with handlers := s'.handlers + 1 } :=
        ⟨inStep.pending, inStep.calls, congrArg (· + 1) inStep.handlers⟩
      have hmade' := hmade rfl
      exact ⟨hbegun.absorb inStep.handlers hmade', rfl, by simpa using inStep.handlers, hmade'⟩
  | @settle p reply burst mem turn =>
    cases hstep' with
    | start turn' => cases like
    | @settle p' reply' burst' mem' turn' =>
      have hcall : p.call = p'.call := like
      have hlabel := inStep.label_eq sound' mem mem' hcall
      simp only [Pending.label, Prod.mk.injEq] at hlabel
      obtain ⟨-, hhandler, hoperation⟩ := hlabel
      have hsettled : (Move.settle p.call reply).settled? =
          (Move.settle p'.call reply').settled? := by
        rw [Move.settled?, Move.settled?, turn.operation_eq, turn'.operation_eq, hoperation]
      have hmade' := hmade hsettled
      have hdropped := inStep.drop p.call
      rw [hcall] at hdropped hmade' ⊢
      exact ⟨hdropped.absorb hhandler hmade', hsettled, by simpa using hhandler, hmade'⟩

/-- What can be done on one page can be done on the other, with any reply of the same
kind. -/
theorem exists_step? (inStep : s.InStep s') (sound' : s'.Sound) (like : move.Like move')
    (hsettled : move.settled? = move'.settled?) (hstep : Step policy s move next) :
    ∃ next', s'.step? policy' move' = some next' := by
  cases move' with
  | start event' => exact ⟨_, rfl⟩
  | settle call' reply' =>
    cases hstep with
    | start turn => cases like
    | @settle p reply burst mem turn =>
      obtain rfl : p.call = call' := like
      have hmem : p.label ∈ s'.pending.map Pending.label :=
        inStep.pending ▸ List.mem_map_of_mem mem
      obtain ⟨q, hq, hlabel⟩ := List.mem_map.1 hmem
      simp only [Pending.label, Prod.mk.injEq] at hlabel
      obtain ⟨hcall, -, hoperation⟩ := hlabel
      have hkind : reply'.operation = q.awaiting.call.operation := by
        rw [hoperation, ← turn.operation_eq]
        exact (Option.some.inj hsettled).symm
      rw [← hcall]
      exact sound'.exists_settle policy' hq hkind

end InStep

/-! ## Purchases -/

/-- What a payment that is settled does to the browser, and how its purchase ends. -/
theorem Step.of_payment {policy : Policy} {s : Session} {call : Nat}
    {outcome : Except Failure Payment.Reply} {next : Session × Report}
    (step : Step policy s (.settle call (.payment outcome)) next) :
    next.1.browser = (Handler.afterPayment outcome s.view s.browser).browser ∧
      next.2.rest = (Handler.afterPayment outcome s.view s.browser).rest := by
  obtain ⟨n, before, burst, -, turn, -, hbrowser, hreport⟩ := step.exists_burst
  cases turn with
  | paid _ _ sold => exact ⟨by rw [hbrowser, sold], by rw [hreport, sold]⟩

/-- What is not the end of a purchase leaves the browser alone and has no outcome. -/
theorem Step.of_payment?_eq_none {policy : Policy} {s : Session} {move : Move}
    {next : Session × Report} (step : Step policy s move next) (hpayment : move.payment? = none) :
    next.1.browser = s.browser ∧
      next.2.finished = (next.2.finished.map Prod.fst).map fun n => (n, none) := by
  rcases step.browser_cases with
    ⟨_, _, rfl, _⟩ | ⟨_, _, rfl, _⟩ | ⟨_, _, _, _, hbrowser, hrest⟩
  · cases hpayment
  · cases hpayment
  · refine ⟨hbrowser, ?_⟩
    rw [Report.finished]
    cases hr : next.2.rest with
    | waits a => rfl
    | ended outcome =>
      cases outcome with
      | none => rfl
      | some sale => exact absurd hr (hrest sale)

/-- Where the same is known about payments, purchases end alike: the browser behind the
moves is the same, and so are the handlers that ended and the outcomes of purchases. -/
theorem InStep.step_browser {policy policy' : Policy} {s s' : Session} {move move' : Move}
    {next next' : Session × Report} (inStep : s.InStep s') (sound' : s'.Sound)
    (like : move.Like move') (hbrowser : s.browser = s'.browser)
    (hpayment : move.payment? = move'.payment?) (hstep : Step policy s move next)
    (hstep' : Step policy' s' move' next') :
    next.1.browser = next'.1.browser ∧ next.2.finished = next'.2.finished := by
  obtain ⟨-, -, hhandler, hmade⟩ := inStep.step sound' like hstep hstep'
  cases hmove : move.payment? with
  | none =>
    obtain ⟨hb, hfinished⟩ := hstep.of_payment?_eq_none hmove
    obtain ⟨hb', hfinished'⟩ := hstep'.of_payment?_eq_none (hpayment.symm.trans hmove)
    refine ⟨by rw [hb, hb', hbrowser], ?_⟩
    rw [hfinished, hfinished', Report.finished_handler_eq, Report.finished_handler_eq, hmade,
      hhandler]
  | some outcome =>
    obtain ⟨call, rfl⟩ := Move.eq_of_payment? hmove
    obtain ⟨call', rfl⟩ := Move.eq_of_payment? (hpayment.symm.trans hmove)
    obtain ⟨hb, hrest⟩ := hstep.of_payment
    obtain ⟨hb', hrest'⟩ := hstep'.of_payment
    have alike : (Handler.afterPayment outcome s.view s.browser).Alike true
        (Handler.afterPayment outcome s'.view s.browser) := Handler.afterPayment_alike outcome
    rw [← hbrowser] at hb' hrest'
    refine ⟨?_, ?_⟩
    · rw [hb, hb']
      exact alike.agree.symm
    · rw [Report.finished, Report.finished, hrest, hrest', alike.rest, hhandler]

/-! ## Runs in step -/

section runs

variable {policy policy' : Policy} {moves moves' : List Move}
  {trail trail' : List (Session × Report)}

/-- The same moves, as far as the traffic goes, keep two pages in step. -/
theorem InStep.run? {s s' : Session} (inStep : s.InStep s') (sound' : s'.Sound)
    (like : List.Forall₂ Move.Like moves moves') (hrun : s.run? policy moves = some trail)
    (hrun' : s'.run? policy' moves' = some trail') :
    List.Forall₂ (fun next next' => next.1.InStep next'.1 ∧ next.2.handler = next'.2.handler ∧
      next.2.made.map Call.operation = next'.2.made.map Call.operation) trail trail' := by
  induction like generalizing s s' trail trail' with
  | nil =>
    cases hrun
    cases hrun'
    exact .nil
  | cons hlike hrest ih =>
    obtain ⟨next, later, hstep, hlater, rfl⟩ := run?_cons_iff.1 hrun
    obtain ⟨next', later', hstep', hlater', rfl⟩ := run?_cons_iff.1 hrun'
    have step := step_of_step? hstep
    have step' := step_of_step? hstep'
    obtain ⟨hinStep, -, hhandler, hmade⟩ := inStep.step sound' hlike step step'
    exact .cons ⟨hinStep, hhandler, hmade⟩ (ih hinStep (sound'.step step') hlater hlater')

/-- Where the same is known about payments, so do the browsers. -/
theorem InStep.run?_browser {s s' : Session} (inStep : s.InStep s') (sound' : s'.Sound)
    (like : List.Forall₂ Move.Like moves moves') (hbrowser : s.browser = s'.browser)
    (hpayments : moves.filterMap Move.payment? = moves'.filterMap Move.payment?)
    (hrun : s.run? policy moves = some trail) (hrun' : s'.run? policy' moves' = some trail') :
    List.Forall₂ (fun next next' => next.1.browser = next'.1.browser ∧
      next.2.finished = next'.2.finished) trail trail' := by
  induction like generalizing s s' trail trail' with
  | nil =>
    cases hrun
    cases hrun'
    exact .nil
  | @cons move move' moves moves' hlike hrest ih =>
    obtain ⟨next, later, hstep, hlater, rfl⟩ := run?_cons_iff.1 hrun
    obtain ⟨next', later', hstep', hlater', rfl⟩ := run?_cons_iff.1 hrun'
    have step := step_of_step? hstep
    have step' := step_of_step? hstep'
    obtain ⟨hinStep, hsettled, -⟩ := inStep.step sound' hlike step step'
    obtain ⟨hpayment, hpayments⟩ := Move.payment?_of_filterMap hsettled hpayments
    obtain ⟨hb, hfinished⟩ := inStep.step_browser sound' hlike hbrowser hpayment step step'
    exact .cons ⟨hb, hfinished⟩ (ih hinStep (sound'.step step') hb hpayments hlater hlater')

/-- What can be done on one page can be done on the other. -/
theorem InStep.exists_run? {s s' : Session} (inStep : s.InStep s') (sound' : s'.Sound)
    (like : List.Forall₂ Move.Like moves moves')
    (hsettled : moves.map Move.settled? = moves'.map Move.settled?)
    (hrun : s.run? policy moves = some trail) :
    ∃ trail', s'.run? policy' moves' = some trail' := by
  induction like generalizing s s' trail with
  | nil => exact ⟨[], rfl⟩
  | cons hlike hrest ih =>
    obtain ⟨next, later, hstep, hlater, rfl⟩ := run?_cons_iff.1 hrun
    obtain ⟨hfirst, hothers⟩ := List.cons.inj hsettled
    have step := step_of_step? hstep
    obtain ⟨next', hstep'⟩ := inStep.exists_step? sound' hlike hfirst step
    have step' := step_of_step? hstep'
    obtain ⟨hinStep, -⟩ := inStep.step sound' hlike step step'
    obtain ⟨later', hlater'⟩ := ih hinStep (sound'.step step') hothers hlater
    exact ⟨next' :: later', run?_cons_iff.2 ⟨next', later', hstep', hlater', rfl⟩⟩

end runs

end Session

/-- **Traffic does not depend on replies, on the policy or on what the page shows.**

Two pages are opened that need not show the same, under policies that need not be the
same, and moves of the same kinds are made on both: handlers of the same kinds are started
and calls of the same numbers are settled, in the same order, with whatever replies.  If
the replies are of the right kinds, what can be done on one page can be done on the other.
Behind every move the calls under way have the same numbers, belong to the same handlers
and are for the same things, in the same order; the move has made a call for the same
thing, or none on either page; and the same handler has ended, or none on either.

If the same was said about payments to browsers that were the same, then behind every move
the browsers are the same, with their messages and their locations, and the handlers that
ended have the same outcomes. -/
theorem traffic_does_not_depend_on_replies {policy : Policy} {v : View} {b : Browser}
    {moves : List Move} {trail : List (Session × Report)}
    (run : (Session.opened v b).run? policy moves = some trail)
    (policy' : Policy) (v' : View) (b' : Browser) {moves' : List Move}
    (like : List.Forall₂ Move.Like moves moves') :
    (moves.map Move.settled? = moves'.map Move.settled? →
      ∃ trail', (Session.opened v' b').run? policy' moves' = some trail') ∧
    ∀ trail', (Session.opened v' b').run? policy' moves' = some trail' →
      List.Forall₂ (fun next next' =>
        next.1.pending.map Pending.label = next'.1.pending.map Pending.label ∧
        next.2.made.map Call.operation = next'.2.made.map Call.operation ∧
        next.2.finished.map Prod.fst = next'.2.finished.map Prod.fst) trail trail' ∧
      (b = b' → moves.filterMap Move.payment? = moves'.filterMap Move.payment? →
        List.Forall₂ (fun next next' => next.1.browser = next'.1.browser ∧
          next.2.finished = next'.2.finished) trail trail') := by
  have sound' : (Session.opened v' b').Sound := .opened v' b'
  have inStep : (Session.opened v b).InStep (Session.opened v' b') := ⟨rfl, rfl, rfl⟩
  refine ⟨fun hsettled => inStep.exists_run? sound' like hsettled run, fun trail' run' =>
    ⟨?_, fun hbrowser hpayments => inStep.run?_browser sound' like hbrowser hpayments run run'⟩⟩
  refine (inStep.run? sound' like run run').imp fun next next' h => ?_
  obtain ⟨hinStep, hhandler, hmade⟩ := h
  refine ⟨hinStep.pending, hmade, ?_⟩
  rw [Report.finished_handler_eq, Report.finished_handler_eq, hmade, hhandler]

/-- A submission and a purchase overlap.  On one page everything is well; on the other
the quota is used up from the first, the check fails, and late answers are discarded.
The same is asked of the service, and the purchase ends alike. -/
theorem asked_alike_when_nothing_works :
    ∃ moves moves' trail trail',
      (Session.opened .new (.new .willing)).run? .apply moves = some trail ∧
      moves = [.start (.submit (.ofRaw "a")), .start .buy, .settle 0 (.check (.ok (.result "Valid"))),
        .settle 1 (.payment (.ok ⟨200, "https://pay.test/1"⟩)), .settle 2 (.stats (.ok ⟨5, 4⟩))] ∧
      (Session.opened ⟨"", .summary ⟨9, 0⟩, true, .zero, .zero⟩
        (.new .willing)).run? .discard moves' = some trail' ∧
      moves' = [.start (.submit (.ofRaw "b")), .start .buy,
        .settle 0 (.check (.error (.transport "down"))),
        .settle 1 (.payment (.ok ⟨200, "https://pay.test/1"⟩)),
        .settle 2 (.stats (.error (.status 503)))] ∧
      List.Forall₂ (fun next next' =>
        next.1.pending.map Pending.label = next'.1.pending.map Pending.label) trail trail' ∧
      List.Forall₂ (fun next next' => next.1.browser = next'.1.browser ∧
        next.2.finished = next'.2.finished) trail trail' := by
  have run : (Session.opened .new (.new .willing)).run? .apply [.start (.submit (.ofRaw "a")),
      .start .buy, .settle 0 (.check (.ok (.result "Valid"))),
      .settle 1 (.payment (.ok ⟨200, "https://pay.test/1"⟩)),
      .settle 2 (.stats (.ok ⟨5, 4⟩))] = some _ := rfl
  have like : List.Forall₂ Move.Like
      [.start (.submit (.ofRaw "a")), .start .buy, .settle 0 (.check (.ok (.result "Valid"))),
        .settle 1 (.payment (.ok ⟨200, "https://pay.test/1"⟩)), .settle 2 (.stats (.ok ⟨5, 4⟩))]
      [.start (.submit (.ofRaw "b")), .start .buy,
        .settle 0 (.check (.error (.transport "down"))),
        .settle 1 (.payment (.ok ⟨200, "https://pay.test/1"⟩)),
        .settle 2 (.stats (.error (.status 503)))] :=
    .cons rfl (.cons trivial (.cons rfl (.cons rfl (.cons rfl .nil))))
  obtain ⟨hexists, halike⟩ := traffic_does_not_depend_on_replies run .discard
    ⟨"", .summary ⟨9, 0⟩, true, .zero, .zero⟩ (.new .willing) like
  obtain ⟨trail', run'⟩ := hexists rfl
  obtain ⟨htraffic, hpurchases⟩ := halike trail' run'
  exact ⟨_, _, _, trail', run, rfl, run', rfl, htraffic.imp fun _ _ h => h.1, hpurchases rfl rfl⟩

end MeteredChecker
