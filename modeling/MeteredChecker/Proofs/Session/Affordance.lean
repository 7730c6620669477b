import MeteredChecker.Proofs.Session.Run

/-!
# When paying is offered

The offer to pay and the quota on display are two fields of the page, and they are
not always written together: a submission blanks the quota, a failed check or a
failed refresh marks it as unavailable, and none of them touches the offer.  So the
offer is not a function of what is displayed.  It is a function of the history:
paying is offered exactly if, of all the quotas that were taken in, the latest was
used up (`Run.payVisible_eq`).  This is true under either policy.

Still the two cannot contradict each other.  A quota gets on display in one way
only, and the offer is decided in the same burst (`Run.payVisible_eq_of_summary`).
-/

namespace MeteredChecker

/-- The quota that was taken in. -/
def Moment.taken? (m : Moment) : Option Quota :=
  if m.discards then none else m.quota?.bind Except.toOption

/-- A refresh is discarded exactly if its ticket is stale. -/
theorem Handler.discards_of_counted (move : Move) (n : Nat) (outcome : Except Failure Quota)
    (ticket : Ticket) (stale : Bool) (rest : Rest) :
    Moment.discards ⟨move, ⟨n, statsNotes outcome ++
      if stale then [.quotaDiscarded ticket] else [], rest⟩⟩ = stale := by
  cases outcome <;> cases stale <;> rfl

theorem View.takeQuota_payVisible {v : View} {ticket : Ticket} {policy : Policy}
    (outcome : Except Failure Quota) :
    (v.takeQuota ticket outcome policy).payVisible =
      if isStale ticket v.lastQuota policy then v.payVisible
      else (outcome.toOption.map Quota.isExhausted).getD v.payVisible := by
  by_cases hstale : isStale ticket v.lastQuota policy = true
  · rw [takeQuota_of_stale hstale, if_pos hstale]
  · rw [takeQuota_of_current (eq_false_of_ne_true hstale), if_neg hstale]
    cases outcome <;> rfl

namespace Run

variable {policy : Policy} {browser : Browser} {h : History} {s : Session}

/-- **Paying is offered exactly if the latest quota that was taken in was used
up.** -/
theorem payVisible_eq (run : Run policy browser h s) :
    s.view.payVisible = ((h.findSome? Moment.taken?).map Quota.isExhausted).getD false := by
  induction run with
  | opened => rfl
  | @moved h s move next run step ih =>
    obtain ⟨n, before, burst, -, turn, hview, hreport⟩ :=
      (Session.step_of_step? step).exists_turn
    rw [hview, hreport, List.findSome?_cons]
    cases turn with
    | counted ticket call outcome =>
      rw [View.takeQuota_payVisible, Moment.taken?, Handler.discards_of_counted]
      by_cases hstale : View.isStale ticket s.view.lastQuota policy = true
      · rw [if_pos hstale, if_pos hstale]
        exact ih
      · rw [if_neg hstale, if_neg hstale]
        cases outcome with
        | ok quota => rfl
        | error e => exact ih
    | rejected | submitted | refreshing | resetting | buying | checked | restored | paid =>
      have hnone : ∀ m : Moment, m.quota? = none → m.taken? = none := by
        intro m hm
        rw [Moment.taken?, hm]
        split <;> rfl
      rw [hnone _ rfl]
      simpa [View.beginCheck, View.rejectEmpty, View.beginQuota] using ih

/-- **A quota on display is never contradicted**: paying is offered beside it if and
only if it is used up. -/
theorem payVisible_eq_of_summary (run : Run policy browser h s) {quota : Quota}
    (shown : s.view.stats = .summary quota) : s.view.payVisible = quota.isExhausted := by
  induction run with
  | opened => cases shown
  | @moved h s move next run step ih =>
    obtain ⟨n, before, burst, -, turn, hview, -⟩ := (Session.step_of_step? step).exists_turn
    rw [hview] at shown ⊢
    cases turn with
    | rejected | submitted => cases shown
    | refreshing | resetting | buying | restored | paid => exact ih shown
    | checked submission ticket call outcome =>
      refine (View.takeCheck_payVisible outcome).trans (ih ?_)
      change (s.view.takeCheck ticket outcome policy).stats = _ at shown
      by_cases hstale : View.isStale ticket s.view.lastCheck policy = true
      · rwa [View.takeCheck_of_stale hstale] at shown
      · rw [View.takeCheck_of_current (eq_false_of_ne_true hstale)] at shown
        cases outcome with
        | ok verdict => exact shown
        | error e => cases shown
    | counted ticket call outcome =>
      show (s.view.takeQuota ticket outcome policy).payVisible = _
      change (s.view.takeQuota ticket outcome policy).stats = _ at shown
      by_cases hstale : View.isStale ticket s.view.lastQuota policy = true
      · rw [View.takeQuota_of_stale hstale] at shown ⊢
        exact ih shown
      · rw [View.takeQuota_of_current (eq_false_of_ne_true hstale)] at shown ⊢
        cases outcome with
        | ok quota' =>
          cases shown
          rfl
        | error e => cases shown

end Run

/-- Only a quota that arrives decides about the offer. -/
theorem Session.payVisible_of_step {policy : Policy} {s : Session} {move : Move}
    {next : Session × Report} (step : s.step? policy move = some next)
    (other : ∀ call quota, move ≠ .settle call (.stats (.ok quota))) :
    next.1.view.payVisible = s.view.payVisible := by
  obtain ⟨n, before, burst, -, turn, hview, -⟩ := (step_of_step? step).exists_turn
  rw [hview]
  cases turn with
  | rejected | submitted | refreshing | resetting | buying | restored | paid => rfl
  | checked submission ticket call outcome => exact View.takeCheck_payVisible outcome
  | counted ticket call outcome =>
    cases outcome with
    | ok quota => exact absurd rfl (other call quota)
    | error e => exact View.takeQuota_leaves View.payVisible rfl

/-- **The offer to pay**, under either policy and after every step of every run.
Paying is offered if and only if a quota was taken in and no calls were left in the
latest that was.  Beside a quota on display it is offered if and only if that quota
has no calls left.  And no move but the arrival of a quota makes a difference. -/
theorem payVisible_iff_exhausted {policy : Policy} {browser : Browser} {h : History} {s : Session}
    (run : Run policy browser h s) :
    (s.view.payVisible = true ↔
      ∃ quota, h.findSome? Moment.taken? = some quota ∧ quota.remaining = 0) ∧
    (∀ quota, s.view.stats = .summary quota →
      (s.view.payVisible = true ↔ quota.remaining = 0)) ∧
    (∀ move next, s.step? policy move = some next →
      (∀ call quota, move ≠ .settle call (.stats (.ok quota))) →
      next.1.view.payVisible = s.view.payVisible) := by
  refine ⟨?_, fun quota shown => ?_, fun move next step other =>
    Session.payVisible_of_step step other⟩
  · rw [run.payVisible_eq]
    cases h.findSome? Moment.taken? with
    | none => simp
    | some quota => simp [Quota.isExhausted]
  · rw [run.payVisible_eq_of_summary shown, Quota.isExhausted, beq_iff_eq]

/-- The service goes down once the quota is used up: no quota is on display any
more, and paying is still offered. -/
theorem offered_during_outage :
    ∃ (h : History) (s : Session), Run .discard (.new .willing) h s ∧
      h.map Moment.move =
        [.settle 2 (.stats (.error (.transport "down"))),
          .settle 1 (.check (.error (.transport "down"))), .start (.submit (.ofRaw "a")),
          .settle 0 (.stats (.ok ⟨7, 0⟩)), .start .refresh] ∧
      s.view.stats = .unavailable ∧ s.view.payVisible = true := by
  have used : Run .discard (.new .willing) _ _ :=
    (Run.opened.start .refresh).settle 0 (.stats (.ok ⟨7, 0⟩)) rfl
  have checked := (used.start (.submit (.ofRaw "a"))).settle 1
    (.check (.error (.transport "down"))) rfl
  have run := checked.settle 2 (.stats (.error (.transport "down"))) rfl
  refine ⟨_, _, run, rfl, rfl, ?_⟩
  exact (payVisible_iff_exhausted run).1.2 ⟨⟨7, 0⟩, rfl, rfl⟩

end MeteredChecker
