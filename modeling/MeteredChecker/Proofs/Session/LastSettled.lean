import MeteredChecker.Proofs.Session.Course

/-!
# The last to settle wins

Under the policy `apply` tickets are ignored: every answer is taken in, whoever
asked.  Each region then shows what was written to it last, and the proof of that
is a plain induction (`Run.result_eq_lastText`, `Run.stats_eq_lastRegion`).

For the result that is all there is to say.  For the quota there is more, because
of its three writers two are followed by a refresh: a submission of code and a
check that failed both make their handler ask for the quota, later or at once.  So
once nothing is under way neither of them can have had the last word
(`Run.region?_of_unread`).  The last word is that of the refresh that was settled
last, or that of an empty submission, which blanks the region and asks for
nothing.
-/

namespace MeteredChecker

/-! ## Writers -/

namespace Moment

/-- What is written to the result region if every answer is taken in. -/
def text? (m : Moment) : Option String :=
  match m.move with
  | .start (.submit submission) => some (if submission.isEmpty then emptyInputText else "")
  | .settle _ (.check outcome) => some (Verdict.outcomeText outcome)
  | _ => none

/-- What is written to the quota region if every answer is taken in. -/
def region? (m : Moment) : Option QuotaRegion :=
  match m.move with
  | .start (.submit _) => some .blank
  | .settle _ (.check (.error _)) => some .unavailable
  | .settle _ (.stats outcome) => some (.ofOutcome outcome)
  | _ => none

/-- A submission of nothing was started. -/
def submitsNothing (m : Moment) : Bool := m.submission?.any Submission.isEmpty

theorem region?_of_quota? {m : Moment} {outcome : Except Failure Quota}
    (hm : m.quota? = some outcome) : m.region? = some (.ofOutcome outcome) := by
  unfold quota? at hm
  split at hm
  · next hmove =>
    cases hm
    rw [region?, hmove]
  · cases hm

end Moment

namespace View

variable {v : View} {ticket : Ticket}

theorem takeCheck_apply (outcome : Except Failure Verdict) :
    v.takeCheck ticket outcome .apply = v.showCheck outcome :=
  takeCheck_of_current (isStale_apply _ _)

theorem takeQuota_apply (outcome : Except Failure Quota) :
    v.takeQuota ticket outcome .apply = v.showQuota outcome :=
  takeQuota_of_current (isStale_apply _ _)

end View

namespace Run

variable {browser : Browser} {h : History} {s : Session}

/-- Nothing is discarded. -/
theorem discards_eq_false (run : Run .apply browser h s) : ∀ m ∈ h, m.discards = false := by
  induction run with
  | opened => simp
  | @moved h s move next run step ih =>
    refine List.forall_mem_cons.2 ⟨?_, ih⟩
    obtain ⟨n, before, burst, -, turn, -, hreport⟩ := (Session.step_of_step? step).exists_turn
    rw [hreport]
    cases turn with
    | rejected | submitted | refreshing | resetting | buying => rfl
    | checked _ _ _ outcome | counted _ _ outcome | restored _ outcome => cases outcome <;> rfl
    | paid call outcome sold => exact Handler.discards_of_paid sold

/-- **The result region shows what was written to it last.** -/
theorem result_eq_lastText (run : Run .apply browser h s) :
    s.view.result = (h.findSome? Moment.text?).getD "" := by
  induction run with
  | opened => rfl
  | @moved h s move next run step ih =>
    obtain ⟨n, before, burst, -, turn, hview, -⟩ := (Session.step_of_step? step).exists_turn
    rw [hview, List.findSome?_cons]
    cases turn with
    | rejected submission empty =>
      show _ = if submission.isEmpty then _ else _
      rw [if_pos empty]
      rfl
    | submitted submission full =>
      show _ = if submission.isEmpty then _ else _
      rw [full]
      rfl
    | checked submission ticket call outcome =>
      rw [View.takeCheck_apply]
      exact View.showCheck_result outcome
    | counted ticket call outcome => exact (View.takeQuota_result outcome).trans ih
    | refreshing | resetting | buying | restored | paid => exact ih

/-- **The quota region shows what was written to it last.** -/
theorem stats_eq_lastRegion (run : Run .apply browser h s) :
    s.view.stats = (h.findSome? Moment.region?).getD .blank := by
  induction run with
  | opened => rfl
  | @moved h s move next run step ih =>
    obtain ⟨n, before, burst, -, turn, hview, -⟩ := (Session.step_of_step? step).exists_turn
    rw [hview, List.findSome?_cons]
    cases turn with
    | rejected | submitted => rfl
    | checked submission ticket call outcome =>
      rw [View.takeCheck_apply]
      cases outcome with
      | ok verdict => exact ih
      | error e => rfl
    | counted ticket call outcome =>
      rw [View.takeQuota_apply]
      exact View.showQuota_stats outcome
    | refreshing | resetting | buying | restored | paid => exact ih

/-! ## When nothing is under way -/

/-- When nothing is under way, what has happened since the quota was last read has
left the quota region alone, except that empty submissions have blanked it. -/
theorem region?_of_unread {policy : Policy} {newer older : History}
    (run : Run policy browser (newer ++ older) s) (quiet : s.pending = [])
    (unread : ∀ e ∈ newer, e.quota? = none) {m : Moment} (hm : m ∈ newer) :
    m.region? = if m.submitsNothing then some .blank else none := by
  obtain ⟨newer, between, rfl⟩ := List.append_of_mem hm
  rw [List.append_assoc] at run
  -- had its handler waited for a check, the quota or a reset, it would have read the quota
  have idle : ∀ a, m.report.rest = .waits a → a = .payment := by
    intro a ha
    by_contra hne
    obtain ⟨⟨outcome, hanswer⟩, -⟩ := run.exists_quota?_of_quiet quiet ha hne
    obtain ⟨e, he, hquota⟩ := List.exists_of_findSome?_eq_some hanswer
    have hnone := unread e (List.mem_append_left _ (History.mem_of.1 he).1)
    rw [hnone] at hquota
    cases hquota
  obtain ⟨s₀, run₀⟩ := run.of_append
  cases run₀ with
  | @moved _ s₁ move next run₀ step =>
    obtain ⟨n, before, burst, -, turn, -, hreport⟩ := (Session.step_of_step? step).exists_turn
    rw [hreport] at idle ⊢
    cases turn with
    | rejected submission empty =>
      show _ = if submission.isEmpty then _ else _
      rw [if_pos empty]
      rfl
    | buying | paid => rfl
    | submitted | refreshing | resetting | checked | restored => cases idle _ rfl
    | counted ticket call outcome =>
      have hnone : some outcome = none := unread _ hm
      cases hnone

/-- When nothing is under way, the quota region shows what it did when the quota
was last read, except that empty submissions have blanked it. -/
theorem stats_of_unread {newer older : History} (run : Run .apply browser (newer ++ older) s)
    (quiet : s.pending = []) (unread : ∀ e ∈ newer, e.quota? = none) :
    s.view.stats =
      if newer.any Moment.submitsNothing then .blank
      else (older.findSome? Moment.region?).getD .blank := by
  have hregion := fun e he => run.region?_of_unread quiet unread (m := e) he
  rw [run.stats_eq_lastRegion, List.findSome?_append]
  by_cases hany : newer.any Moment.submitsNothing = true
  · rw [if_pos hany]
    obtain ⟨e, he, hnothing⟩ := List.any_eq_true.1 hany
    cases hfind : newer.findSome? Moment.region? with
    | none =>
      have hnone := List.findSome?_eq_none_iff.1 hfind e he
      rw [hregion e he, if_pos hnothing] at hnone
      cases hnone
    | some region =>
      obtain ⟨e', he', hsome⟩ := List.exists_of_findSome?_eq_some hfind
      rw [hregion e' he'] at hsome
      split at hsome <;> cases hsome
      rfl
  · have hnone : newer.findSome? Moment.region? = none :=
      List.findSome?_eq_none_iff.2 fun e he => by
        rw [hregion e he, if_neg fun hnothing => hany (List.any_eq_true.2 ⟨e, he, hnothing⟩)]
    rw [if_neg hany, hnone, Option.none_or]

/-- The quota was read by a handler that had asked for it. -/
theorem exists_refreshes_of_quota? {policy : Policy} (run : Run policy browser h s) {m : Moment}
    (hm : m ∈ h) {outcome : Except Failure Quota} (hquota : m.quota? = some outcome) :
    ∃ e ∈ h, e.refreshes = true := by
  obtain ⟨newer, older, rfl⟩ := List.append_of_mem hm
  obtain ⟨s₀, run₀⟩ := run.of_append
  cases run₀ with
  | moved run₀ step =>
    obtain ⟨n, before, burst, ready, turn, -, -⟩ := (Session.step_of_step? step).exists_turn
    cases turn with
    | counted ticket =>
      obtain ⟨status, course, stands⟩ := run₀.exists_course n
      rw [(stands.waits_iff _).1 ready] at course
      obtain ⟨e, l, hof, hrest, -⟩ := course.eq_of_stats
      have he : e ∈ History.of older n := hof ▸ List.mem_cons_self
      exact ⟨e, List.mem_append_right _ (List.mem_cons_of_mem _ (History.mem_of.1 he).1),
        Moment.refreshes_iff.2 ⟨ticket, hrest⟩⟩
    | rejected | submitted | refreshing | resetting | buying | checked | restored | paid =>
      cases hquota

/-- When nothing is under way and the quota has been asked for, it has been read. -/
theorem exists_quota?_of_refreshes {policy : Policy} (run : Run policy browser h s)
    (quiet : s.pending = []) {m : Moment} (hm : m ∈ h) (hrefresh : m.refreshes = true) :
    ∃ outcome, h.findSome? Moment.quota? = some outcome := by
  obtain ⟨newer, older, rfl⟩ := List.append_of_mem hm
  obtain ⟨ticket, hrest⟩ := Moment.refreshes_iff.1 hrefresh
  obtain ⟨⟨outcome, hanswer⟩, -⟩ := run.exists_quota?_of_quiet quiet hrest (by simp)
  obtain ⟨e, he, hquota⟩ := List.exists_of_findSome?_eq_some hanswer
  have hmem : e ∈ newer ++ m :: older := List.mem_append_left _ (History.mem_of.1 he).1
  exact Option.isSome_iff_exists.1
    (List.findSome?_isSome_iff.2 ⟨e, hmem, Option.isSome_iff_exists.2 ⟨outcome, hquota⟩⟩)

end Run

/-- **The last to settle wins**, if superseded answers are taken in.  Nothing is
ever discarded: the page behind a settled check or refresh is the one that shows
its outcome.  After every step of every run the result region shows what was
written to it last, by a submission or by a check, whosever.  And once nothing is
under way the quota region is blank if the quota was never asked for; otherwise it
shows what the refresh that was settled last came to, unless an empty submission
was started since: then it is blank. -/
theorem last_settled_wins {browser : Browser} {h : History} {s : Session}
    (run : Run .apply browser h s) :
    (∀ m ∈ h, m.discards = false) ∧
    (∀ call outcome next, s.step? .apply (.settle call (.check outcome)) = some next →
      next.1.view = (s.view.showCheck outcome).beginQuota) ∧
    (∀ call outcome next, s.step? .apply (.settle call (.stats outcome)) = some next →
      next.1.view = s.view.showQuota outcome) ∧
    s.view.result = (h.findSome? Moment.text?).getD "" ∧
    (s.pending = [] →
      ((∀ m ∈ h, m.refreshes = false) → s.view.stats = .blank) ∧
      ((∃ m ∈ h, m.refreshes = true) → ∃ newer m older outcome,
        h = newer ++ m :: older ∧ (∀ e ∈ newer, e.quota? = none) ∧ m.quota? = some outcome ∧
        s.view.stats = if newer.any Moment.submitsNothing then .blank else .ofOutcome outcome)) := by
  refine ⟨run.discards_eq_false, fun call outcome next step => ?_,
    fun call outcome next step => ?_, run.result_eq_lastText,
    fun quiet => ⟨fun hnever => ?_, fun hever => ?_⟩⟩
  · obtain ⟨n, before, burst, -, turn, hview, -⟩ := (Session.step_of_step? step).exists_turn
    cases turn with
    | checked => rw [hview, View.takeCheck_apply]
  · obtain ⟨n, before, burst, -, turn, hview, -⟩ := (Session.step_of_step? step).exists_turn
    cases turn with
    | counted => rw [hview, View.takeQuota_apply]
  · have unread : ∀ e ∈ h, e.quota? = none := by
      intro e he
      by_contra hne
      obtain ⟨outcome, hquota⟩ := Option.ne_none_iff_exists'.1 hne
      obtain ⟨m, hm, hrefresh⟩ := run.exists_refreshes_of_quota? he hquota
      rw [hnever m hm] at hrefresh
      cases hrefresh
    rw [← List.append_nil h] at run
    rw [run.stats_of_unread quiet unread]
    split <;> rfl
  · obtain ⟨m₀, hm₀, hrefresh⟩ := hever
    obtain ⟨outcome, hfind⟩ := run.exists_quota?_of_refreshes quiet hm₀ hrefresh
    obtain ⟨newer, m, older, rfl, hquota, unread⟩ := List.findSome?_eq_some_iff.1 hfind
    refine ⟨newer, m, older, outcome, rfl, unread, hquota, ?_⟩
    rw [run.stats_of_unread quiet unread, List.findSome?_cons, Moment.region?_of_quota? hquota]
    rfl

/-- Two submissions and the refreshes behind them come back in any order, and what
comes back last is shown. -/
theorem late_answers_are_shown :
    ∃ (h : History) (s : Session), Run .apply (.new .willing) h s ∧
      h.map Moment.move =
        [.settle 2 (.stats (.ok ⟨5, 4⟩)), .settle 3 (.stats (.ok ⟨6, 3⟩)),
          .settle 0 (.check (.ok (.result "Invalid"))), .settle 1 (.check (.ok (.result "Valid"))),
          .start (.submit (.ofRaw "b")), .start (.submit (.ofRaw "a"))] ∧
      s.pending = [] ∧ s.view.result = "Syntax Check Result: Invalid" ∧
      s.view.stats = .summary ⟨5, 4⟩ := by
  have submitted : Run .apply (.new .willing) _ _ :=
    (Run.opened.start (.submit (.ofRaw "a"))).start (.submit (.ofRaw "b"))
  have checked := (submitted.settle 1 (.check (.ok (.result "Valid"))) rfl).settle 0
    (.check (.ok (.result "Invalid"))) rfl
  have run := (checked.settle 3 (.stats (.ok ⟨6, 3⟩)) rfl).settle 2 (.stats (.ok ⟨5, 4⟩)) rfl
  obtain ⟨-, -, -, hresult, hstats⟩ := last_settled_wins run
  refine ⟨_, _, run, rfl, rfl, hresult, ?_⟩
  obtain ⟨newer, m, older, outcome, hsplit, unread, hquota, hshown⟩ :=
    (hstats rfl).2 ⟨_, List.mem_cons_of_mem _ (List.mem_cons_of_mem _ List.mem_cons_self), rfl⟩
  cases newer with
  | nil =>
    obtain rfl := (List.cons.inj hsplit).1
    cases hquota
    exact hshown
  | cons e newer =>
    -- the latest moment has read the quota
    obtain rfl := (List.cons.inj hsplit).1
    cases unread _ List.mem_cons_self

end MeteredChecker
