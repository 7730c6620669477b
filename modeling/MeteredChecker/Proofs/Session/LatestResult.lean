import MeteredChecker.Proofs.Session.Ticket

/-!
# Only the latest submission has a result

Under the policy `discard` the result region belongs to the submission that was
started last.  It is empty while its check is under way and then shows what that
very check came to; an empty submission is answered on the spot.  Whatever happens
to the submissions before it, and to refreshes, resets and purchases, the region
does not change.

`History.latestResult` says so as a function of the history, and
`Run.result_eq_latestResult` is the induction.  It needs one fact only about the
step in which a check is settled: the answer is taken in exactly if its handler
runs the latest submission (`Run.check_latest_or_superseded`).
-/

namespace MeteredChecker

/-- What the result region has to show when only the latest submission counts. -/
def History.latestResult (h : History) : String :=
  match h.latestSubmission? with
  | none => ""
  | some (n, submission) =>
      if submission.isEmpty then emptyInputText
      else ((h.answer? Moment.verdict? n).map Verdict.outcomeText).getD ""

/-- A moment in which nothing is submitted and no check is settled is none of the
result region's business. -/
theorem History.latestResult_cons_of_none {m : Moment} (h : History)
    (hs : m.submission? = none) (hv : m.verdict? = none) :
    History.latestResult (m :: h) = h.latestResult := by
  rw [latestResult, latestSubmission?_cons_of_none h hs, latestResult]
  simp only [answer?_cons_of_none h hv]

namespace Run

variable {browser : Browser} {h : History} {s : Session}

/-- **The result region shows the latest submission's result**, after every step of
every run. -/
theorem result_eq_latestResult (run : Run .discard browser h s) (few : s.handlers < 2 ^ 64) :
    s.view.result = h.latestResult := by
  induction run with
  | opened => rfl
  | @moved h s move next run step ih =>
    have few₀ := Nat.lt_of_le_of_lt (Session.step_of_step? step).handlers_le few
    replace ih := ih few₀
    obtain ⟨n, before, burst, ready, turn, hview, hreport⟩ :=
      (Session.step_of_step? step).exists_turn
    rw [hview, hreport]
    cases turn with
    | rejected submission empty =>
      rw [History.latestResult, History.latestSubmission?_cons_of_some h rfl]
      simp [empty, View.rejectEmpty]
    | submitted submission full =>
      -- the handler is new: no check of it can have been settled
      have hnone : h.answer? Moment.verdict? n = none := by
        rw [History.answer?, run.of_eq_nil (Nat.le_of_eq ready.symm), List.findSome?_nil]
      rw [History.latestResult, History.latestSubmission?_cons_of_some h rfl]
      simp only [full, Bool.false_eq_true, if_false]
      rw [History.answer?_cons_of_none h rfl, hnone]
      rfl
    | checked submission ticket call outcome =>
      have full := run.isEmpty_of_waits ready
      rw [History.latestResult, History.latestSubmission?_cons_of_none h rfl]
      rcases run.check_latest_or_superseded few₀ ready with
        ⟨ht, hlatest⟩ | ⟨ht, n', submission', hne, hlatest⟩
      · rw [View.takeCheck_of_current (View.isStale_discard_eq_false_iff.2 ht), hlatest]
        simp only [full, Bool.false_eq_true, if_false]
        rw [History.answer?_cons_self]
        exact View.showCheck_result outcome
      · rw [View.takeCheck_of_stale (View.isStale_discard_iff.2 ht), hlatest]
        dsimp only
        rw [History.answer?_cons_of_ne h hne]
        rw [History.latestResult, hlatest] at ih
        exact ih
    | refreshing | resetting | buying | counted | restored | paid =>
      rw [History.latestResult_cons_of_none h rfl rfl]
      simpa [View.beginQuota] using ih

/-- Whatever is settled or started but the latest submission leaves the result
region alone. -/
theorem result_eq_of_step (run : Run .discard browser h s) (few : s.handlers < 2 ^ 64)
    {move : Move} {next : Session × Report} (step : s.step? .discard move = some next)
    (hstart : ∀ submission, move ≠ .start (.submit submission))
    (hsettle : ∀ call outcome, move = .settle call (.check outcome) →
      ∀ submission, h.latestSubmission? ≠ some (next.2.handler, submission)) :
    next.1.view.result = s.view.result := by
  obtain ⟨n, before, burst, ready, turn, hview, hreport⟩ :=
    (Session.step_of_step? step).exists_turn
  rw [hview]
  cases turn with
  | rejected submission | submitted submission => exact absurd rfl (hstart submission)
  | checked submission ticket call outcome =>
    rcases run.check_latest_or_superseded few ready with ⟨-, hlatest⟩ | ⟨ht, -⟩
    · rw [hreport] at hsettle
      exact absurd hlatest (hsettle call outcome rfl submission)
    · rw [View.takeCheck_of_stale (View.isStale_discard_iff.2 ht)]
      rfl
  | refreshing | resetting | buying | restored | paid => rfl
  | counted => exact View.takeQuota_result _

end Run

/-- **The latest submission alone decides on the result**, if superseded answers are
discarded.  After every step of every run, the region is empty if nothing has been
submitted or the check of the latest submission is under way; it asks for code if
the latest submission is empty; and otherwise it shows what settled that very
check.  No other move changes it. -/
theorem result_of_latest_submission {browser : Browser} {h : History} {s : Session}
    (run : Run .discard browser h s) (few : s.handlers < 2 ^ 64) :
    (h.latestSubmission? = none → s.view.result = "") ∧
    (∀ n submission, h.latestSubmission? = some (n, submission) →
      submission.code = "" ∧ s.view.result = "Please enter some code." ∨
      submission.code ≠ "" ∧ (∃ ticket, s.Waits n (.check submission ticket)) ∧
        s.view.result = "" ∨
      submission.code ≠ "" ∧ (¬ ∃ ticket, s.Waits n (.check submission ticket)) ∧
        ∃ outcome, h.answer? Moment.verdict? n = some outcome ∧
          s.view.result = Verdict.outcomeText outcome) ∧
    (∀ move next, s.step? .discard move = some next →
      (∀ submission, move ≠ .start (.submit submission)) →
      (∀ call outcome, move = .settle call (.check outcome) →
        ∀ submission, h.latestSubmission? ≠ some (next.2.handler, submission)) →
      next.1.view.result = s.view.result) := by
  have hresult := run.result_eq_latestResult few
  refine ⟨fun hnone => ?_, fun n submission hlatest => ?_, fun move next step hstart hsettle =>
    run.result_eq_of_step few step hstart hsettle⟩
  · rw [hresult, History.latestResult, hnone]
  · simp only [History.latestResult, hlatest] at hresult
    by_cases hempty : submission.isEmpty = true
    · rw [if_pos hempty] at hresult
      exact .inl ⟨Submission.isEmpty_iff.1 hempty, hresult⟩
    · have hcode : submission.code ≠ "" := mt Submission.isEmpty_iff.2 hempty
      have hwaits := run.waits_check_iff hlatest (eq_false_of_ne_true hempty)
      rw [if_neg hempty] at hresult
      cases hanswer : h.answer? Moment.verdict? n with
      | none =>
        rw [hanswer] at hresult
        exact .inr (.inl ⟨hcode, hwaits.2 hanswer, hresult⟩)
      | some outcome =>
        rw [hanswer] at hresult
        refine .inr (.inr ⟨hcode, fun waiting => ?_, outcome, rfl, hresult⟩)
        rw [hwaits.1 waiting] at hanswer
        cases hanswer

/-- Two submissions are under way, and the earlier one is answered last: its
verdict is not shown. -/
theorem late_verdict_is_not_shown :
    ∃ (h : History) (s : Session) (next : Session × Report),
      Run .discard (.new .willing) h s ∧
      h.map Moment.move =
        [.settle 1 (.check (.ok (.result "Valid"))), .start (.submit (.ofRaw "b")),
          .start (.submit (.ofRaw " a "))] ∧
      s.handlers < 2 ^ 64 ∧
      s.step? .discard (.settle 0 (.check (.ok (.result "Invalid")))) = some next ∧
      next.1.view.result = "Syntax Check Result: Valid" := by
  have submitted : Run .discard (.new .willing) _ _ :=
    (Run.opened.start (.submit (.ofRaw " a "))).start (.submit (.ofRaw "b"))
  have run := submitted.settle 1 (.check (.ok (.result "Valid"))) rfl
  have few : 2 < 2 ^ 64 := by decide
  refine ⟨_, _, _, run, rfl, few, rfl, ?_⟩
  refine ((result_of_latest_submission run few).2.2
    (.settle 0 (.check (.ok (.result "Invalid")))) _ rfl ?_ ?_).trans rfl
  · rintro submission ⟨⟩
  · rintro call outcome - submission hlatest
    -- the latest submission is run by handler 1, and the call was made by handler 0
    have hn : some 1 = some 0 := congrArg (Option.map Prod.fst) hlatest
    cases hn

end MeteredChecker
