import MeteredChecker.Proofs.Session.Ticket

/-!
# Discarded exactly if superseded

An answer is handed in with the ticket that was taken when its request began, and
the page compares it with the ticket taken last.  Between the two any number of
other requests may have begun, in any of the handlers.  What the comparison comes
to is said here in terms of the history: under the policy `discard` an answer is
refused if and only if another request of its kind has begun since its own did, and
under `apply` it never is (`isStale_nth_iff`).

The moment at which a request began is found again in the history, because a
handler that waits has done nothing since it asked (`Run.exists_submission_of_waits`,
`Run.exists_refresh_of_waits`).  Its place among the requests of its kind is the
number that the log names, and it is a number and not a word: there are fewer
requests than words.

## The burst goes on

A check that is refused changes nothing on the page, but its handler does not end.
It begins its quota refresh in the same burst, as it would have done anyway, so the
page behind the burst differs from the one before it in the ticket of that refresh.
-/

namespace MeteredChecker

/-! ## The log -/

/-- What the log says about replies that were discarded. -/
def Report.discarded (r : Report) : List String :=
  (r.log.filter fun
    | .checkDiscarded _ | .quotaDiscarded _ => true
    | _ => false).map LogEvent.text

theorem Report.discarded_of_discards_eq_false (move : Move) {r : Report}
    (h : Moment.discards ⟨move, r⟩ = false) : r.discarded = [] := by
  rw [discarded, List.map_eq_nil_iff, List.filter_eq_nil_iff]
  exact List.any_eq_false.1 h

theorem Ticket.toNat_nth {k : Nat} (hk : k < 2 ^ 64) : (nth k).value.toNat = k :=
  (UInt64.toNat_ofNat' ..).trans (Nat.mod_eq_of_lt hk)

namespace LogEvent

theorem text_checkDiscarded_nth {k : Nat} (hk : k < 2 ^ 64) :
    text (.checkDiscarded (.nth k)) =
      "Discarded superseded check result (ticket " ++ toString k ++ ")" := by
  have htext (t : Ticket) : text (.checkDiscarded t) =
      "Discarded superseded check result (ticket " ++ toString t.value.toNat ++ ")" := rfl
  rw [htext, Ticket.toNat_nth hk]

theorem text_quotaDiscarded_nth {k : Nat} (hk : k < 2 ^ 64) :
    text (.quotaDiscarded (.nth k)) =
      "Discarded superseded quota snapshot (ticket " ++ toString k ++ ")" := by
  have htext (t : Ticket) : text (.quotaDiscarded t) =
      "Discarded superseded quota snapshot (ticket " ++ toString t.value.toNat ++ ")" := rfl
  rw [htext, Ticket.toNat_nth hk]

end LogEvent

namespace Handler

variable (n : Nat) (ticket : Ticket) (stale : Bool) (rest : Rest)

theorem discarded_of_checked (outcome : Except Failure Verdict) :
    Report.discarded ⟨n, checkNotes outcome ++ if stale then [.checkDiscarded ticket] else [],
      rest⟩ = if stale then [LogEvent.text (.checkDiscarded ticket)] else [] := by
  cases outcome <;> cases stale <;> rfl

theorem discarded_of_counted (outcome : Except Failure Quota) :
    Report.discarded ⟨n, statsNotes outcome ++ if stale then [.quotaDiscarded ticket] else [],
      rest⟩ = if stale then [LogEvent.text (.quotaDiscarded ticket)] else [] := by
  cases outcome <;> cases stale <;> rfl

end Handler

/-! ## What a settled call does -/

namespace View

variable {v : View} {ticket : Ticket} {policy : Policy}

theorem applyCheck?_eq_none_iff {outcome : Except Failure Verdict} :
    v.applyCheck? ticket outcome policy = none ↔ isStale ticket v.lastCheck policy = true := by
  simp [applyCheck?]

theorem applyQuota?_eq_none_iff {outcome : Except Failure Quota} :
    v.applyQuota? ticket outcome policy = none ↔ isStale ticket v.lastQuota policy = true := by
  simp [applyQuota?]

end View

namespace Session

variable {policy : Policy} {s : Session} {call : Nat} {next : Session × Report}

/-- A check that is settled was under way; its outcome is handed in and a quota
refresh begins. -/
theorem exists_of_settle_check {outcome : Except Failure Verdict}
    (step : s.step? policy (.settle call (.check outcome)) = some next) :
    ∃ submission ticket, ⟨call, next.2.handler, .check submission ticket⟩ ∈ s.pending ∧
      next.1.view = (s.view.takeCheck ticket outcome policy).beginQuota ∧
      next.2.made = some .stats ∧
      next.2.discarded = if View.isStale ticket s.view.lastCheck policy
        then [LogEvent.text (.checkDiscarded ticket)] else [] := by
  cases step_of_step? step with
  | @settle p _ burst mem turn =>
    obtain ⟨call, n, a⟩ := p
    cases turn with
    | checked submission ticket =>
      refine ⟨submission, ticket, mem, absorb_view .., rfl, ?_⟩
      rw [absorb_report]
      exact Handler.discarded_of_checked ..

/-- A quota refresh that is settled was under way; its outcome is handed in, and
the handler ends. -/
theorem exists_of_settle_stats {outcome : Except Failure Quota}
    (step : s.step? policy (.settle call (.stats outcome)) = some next) :
    ∃ ticket, ⟨call, next.2.handler, .stats ticket⟩ ∈ s.pending ∧
      next.1.view = s.view.takeQuota ticket outcome policy ∧
      next.2.discarded = if View.isStale ticket s.view.lastQuota policy
        then [LogEvent.text (.quotaDiscarded ticket)] else [] := by
  cases step_of_step? step with
  | @settle p _ burst mem turn =>
    obtain ⟨call, n, a⟩ := p
    cases turn with
    | counted ticket =>
      refine ⟨ticket, mem, absorb_view .., ?_⟩
      rw [absorb_report]
      exact Handler.discarded_of_counted ..

/-- Only checks and quotas are ever discarded. -/
theorem discarded_eq_nil_of_step {move : Move} (step : s.step? policy move = some next)
    (hcheck : ∀ call outcome, move ≠ .settle call (.check outcome))
    (hstats : ∀ call outcome, move ≠ .settle call (.stats outcome)) :
    next.2.discarded = [] := by
  obtain ⟨n, before, burst, -, turn, -, hreport⟩ := (step_of_step? step).exists_turn
  rw [hreport]
  cases turn with
  | rejected | submitted | refreshing | resetting | buying => rfl
  | checked _ _ call outcome => exact absurd rfl (hcheck call outcome)
  | counted _ call outcome => exact absurd rfl (hstats call outcome)
  | restored _ outcome => cases outcome <;> rfl
  | paid call outcome sold =>
    exact Report.discarded_of_discards_eq_false (.settle call (.payment outcome))
      (Handler.discards_of_paid sold)

end Session

/-! ## Stale or superseded -/

/-- The ticket of a request is stale if and only if the policy is `discard` and
another request of its kind has begun since. -/
theorem isStale_nth_iff (policy : Policy) {P : Moment → Bool} {newer older : History} {m : Moment}
    (hm : P m = true) (few : (newer ++ m :: older).countP P < 2 ^ 64) :
    View.isStale (.nth (older.countP P + 1)) (.nth ((newer ++ m :: older).countP P)) policy = true ↔
      policy = .discard ∧ ∃ e ∈ newer, P e = true := by
  cases policy with
  | apply => simp
  | discard =>
    rw [View.isStale_discard_iff, Ne, nth_eq_nth_iff hm few]
    simp

/-- The number of a request of a kind that no handler makes twice is a word. -/
theorem countP_older_lt {P : Moment → Bool} {newer older : History} {m : Moment}
    (hm : P m = true) (few : (newer ++ m :: older).countP P < 2 ^ 64) :
    older.countP P + 1 < 2 ^ 64 := by
  rw [List.countP_append, List.countP_cons_of_pos hm] at few
  omega

namespace Run

variable {policy : Policy} {browser : Browser} {h : History} {s : Session}

/-- Whoever has asked for the quota asks for it once. -/
theorem countP_refreshes_eq_one (run : Run policy browser h s) {m : Moment} (hm : m ∈ h)
    (hrefresh : m.refreshes = true) :
    (h.of m.report.handler).countP Moment.refreshes = 1 := by
  obtain ⟨status, course, -⟩ := run.exists_course m.report.handler
  have hpos : 0 < (h.of m.report.handler).countP Moment.refreshes :=
    List.countP_pos_iff.2 ⟨m, History.mem_of.2 ⟨hm, rfl⟩, hrefresh⟩
  have hle := course.countP_refreshes_le
  omega

end Run

/-- **A reply is discarded if and only if it has been superseded.**

The outcome of a check is refused exactly if the policy is `discard` and another
submission, of code or of nothing, was started since its own was.  If it is refused
the page goes into the next refresh as it is, and the log says once which of the
submissions it was; otherwise it is shown and the log says nothing of the kind.  In
either case the handler asks for the quota, once.

The outcome of a quota refresh is refused exactly if the policy is `discard` and
another refresh has begun since, in whatever handler.  If it is refused the page
stays as it is, and the log says once which of the refreshes it was; otherwise it
is shown.  Nothing else is ever refused. -/
theorem discarded_iff_superseded {policy : Policy} {browser : Browser} {h : History} {s : Session}
    (run : Run policy browser h s) (few : s.handlers < 2 ^ 64) :
    (∀ call outcome next, s.step? policy (.settle call (.check outcome)) = some next →
      ∃ newer m older submission ticket,
        h = newer ++ m :: older ∧ m.move = .start (.submit submission) ∧
        m.report.handler = next.2.handler ∧
        ⟨call, next.2.handler, .check submission ticket⟩ ∈ s.pending ∧
        (s.view.applyCheck? ticket outcome policy = none ↔
          policy = .discard ∧ ∃ e ∈ newer, e.submits = true) ∧
        (s.view.applyCheck? ticket outcome policy = none →
          next.1.view = s.view.beginQuota ∧
          next.2.discarded = ["Discarded superseded check result (ticket " ++
            toString (older.countP Moment.submits + 1) ++ ")"]) ∧
        (s.view.applyCheck? ticket outcome policy ≠ none →
          next.1.view = (s.view.showCheck outcome).beginQuota ∧ next.2.discarded = []) ∧
        next.2.made = some .stats ∧
        ∀ later s', Run policy browser (later ++ ⟨.settle call (.check outcome), next.2⟩ :: h) s' →
          (History.of (later ++ ⟨.settle call (.check outcome), next.2⟩ :: h)
            next.2.handler).countP Moment.refreshes = 1) ∧
    (∀ call outcome next, s.step? policy (.settle call (.stats outcome)) = some next →
      ∃ newer m older ticket,
        h = newer ++ m :: older ∧ m.refreshes = true ∧
        m.report.handler = next.2.handler ∧ (∀ e ∈ newer, e.report.handler ≠ next.2.handler) ∧
        ⟨call, next.2.handler, .stats ticket⟩ ∈ s.pending ∧
        (s.view.applyQuota? ticket outcome policy = none ↔
          policy = .discard ∧ ∃ e ∈ newer, e.refreshes = true) ∧
        (s.view.applyQuota? ticket outcome policy = none →
          next.1.view = s.view ∧
          next.2.discarded = ["Discarded superseded quota snapshot (ticket " ++
            toString (older.countP Moment.refreshes + 1) ++ ")"]) ∧
        (s.view.applyQuota? ticket outcome policy ≠ none →
          next.1.view = s.view.showQuota outcome ∧ next.2.discarded = [])) ∧
    (∀ move next, s.step? policy move = some next →
      (∀ call outcome, move ≠ .settle call (.check outcome)) →
      (∀ call outcome, move ≠ .settle call (.stats outcome)) → next.2.discarded = []) := by
  refine ⟨fun call outcome next step => ?_, fun call outcome next step => ?_,
    fun move next step => Session.discarded_eq_nil_of_step step⟩
  · obtain ⟨submission, ticket, mem, hview, hmade, hlog⟩ := Session.exists_of_settle_check step
    obtain ⟨newer, m, older, rfl, hmove, hn, -, rfl⟩ :=
      run.exists_submission_of_waits ⟨_, mem, rfl, rfl⟩
    have hm : m.submits = true := by simp [Moment.submits, Moment.submission?, hmove]
    have hfew := Nat.lt_of_le_of_lt run.countP_submits_le few
    have hstale := isStale_nth_iff policy hm hfew
    rw [← run.lastCheck_eq] at hstale
    refine ⟨newer, m, older, submission, _, rfl, hmove, hn, mem,
      View.applyCheck?_eq_none_iff.trans hstale, fun hnone => ?_, fun hsome => ?_, hmade,
      fun later s' run' => ?_⟩
    · rw [View.applyCheck?_eq_none_iff] at hnone
      rw [hview, hlog, View.takeCheck_of_stale hnone, if_pos hnone,
        LogEvent.text_checkDiscarded_nth (countP_older_lt hm hfew)]
      exact ⟨rfl, rfl⟩
    · rw [Ne, View.applyCheck?_eq_none_iff] at hsome
      rw [hview, hlog, View.takeCheck_of_current (eq_false_of_ne_true hsome), if_neg hsome]
      exact ⟨rfl, rfl⟩
    · have hmem : (⟨.settle call (.check outcome), next.2⟩ : Moment) ∈
          later ++ ⟨.settle call (.check outcome), next.2⟩ :: (newer ++ m :: older) := by simp
      exact run'.countP_refreshes_eq_one hmem (by simp [Moment.refreshes, hmade])
  · obtain ⟨ticket, mem, hview, hlog⟩ := Session.exists_of_settle_stats step
    obtain ⟨newer, m, older, rfl, hm, hn, hnewer, rfl⟩ :=
      run.exists_refresh_of_waits ⟨_, mem, rfl, rfl⟩
    have hfew := Nat.lt_of_le_of_lt run.countP_refreshes_le few
    have hstale := isStale_nth_iff policy hm hfew
    rw [← run.lastQuota_eq] at hstale
    refine ⟨newer, m, older, _, rfl, hm, hn, hnewer, mem,
      View.applyQuota?_eq_none_iff.trans hstale, fun hnone => ?_, fun hsome => ?_⟩
    · rw [View.applyQuota?_eq_none_iff] at hnone
      rw [hview, hlog, View.takeQuota_of_stale hnone, if_pos hnone,
        LogEvent.text_quotaDiscarded_nth (countP_older_lt hm hfew)]
      exact ⟨rfl, rfl⟩
    · rw [Ne, View.applyQuota?_eq_none_iff] at hsome
      rw [hview, hlog, View.takeQuota_of_current (eq_false_of_ne_true hsome), if_neg hsome]
      exact ⟨rfl, rfl⟩

/-- An empty submission overtakes a check, and the check comes back: the log says
that it was the first. -/
theorem empty_submission_supersedes :
    ∃ (h : History) (s : Session) (next : Session × Report),
      Run .discard (.new .willing) h s ∧
      h.map Moment.move = [.start (.submit (.ofRaw " ")), .start (.submit (.ofRaw "a"))] ∧
      s.handlers < 2 ^ 64 ∧
      s.step? .discard (.settle 0 (.check (.ok (.result "Valid")))) = some next ∧
      next.1.view = s.view.beginQuota ∧
      next.2.discarded = ["Discarded superseded check result (ticket 1)"] := by
  have run : Run .discard (.new .willing) _ _ :=
    (Run.opened.start (.submit (.ofRaw "a"))).start (.submit (.ofRaw " "))
  have few : 2 < 2 ^ 64 := by decide
  refine ⟨_, _, _, run, rfl, few, rfl, ?_⟩
  obtain ⟨newer, m, older, submission, ticket, hsplit, -, hn, -, hiff, hdiscarded, -⟩ :=
    (discarded_iff_superseded run few).1 0 (.ok (.result "Valid")) _ rfl
  cases newer with
  | nil =>
    -- the latest moment is of handler 1, and the call was made by handler 0
    obtain rfl := (List.cons.inj hsplit).1
    cases hn
  | cons e newer =>
    obtain ⟨rfl, htail⟩ := List.cons.inj hsplit
    obtain ⟨rfl, h⟩ | ⟨newer, rfl, h⟩ := List.cons_eq_append_iff.1 htail
    · obtain ⟨rfl, rfl⟩ := List.cons.inj h
      exact hdiscarded (hiff.2 ⟨rfl, _, List.mem_cons_self, rfl⟩)
    · simp at h

end MeteredChecker
