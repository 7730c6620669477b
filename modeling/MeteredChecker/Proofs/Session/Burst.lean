import MeteredChecker.Session.Interleaved

/-!
# What a burst can be

A burst is a function of what was awaited, of what arrived and of the page as it
is at that moment.  This file writes that function down as a relation, `Turn`,
with one constructor for each of the nine ways in which a handler can work, and
derives from it what a move of a session can be.  Every invariant of a session is
proved from these two inversions; the functions themselves are not opened again.

## Shown or discarded

The two answers that carry a ticket, the outcome of a check and the outcome of a
quota refresh, may be discarded.  Whether one is decides the page and the log, but
never how the handler goes on.  So the page behind such an answer is one function,
`takeCheck` or `takeQuota`, and the constructors of `Turn` do not split on it.
-/

namespace MeteredChecker

/-! ## Outcomes on the page -/

/-- What the result region says about the outcome of a check. -/
def Verdict.outcomeText : Except Failure Verdict → String
  | .ok verdict => verdict.display
  | .error e => e.userMessage .check

/-- What the quota region shows of the outcome of a quota refresh. -/
def QuotaRegion.ofOutcome : Except Failure Quota → QuotaRegion
  | .ok quota => .summary quota
  | .error _ => .unavailable

namespace View

@[simp] theorem isStale_apply (ticket latest : Ticket) :
    isStale ticket latest .apply = false := rfl

theorem isStale_discard_iff {ticket latest : Ticket} :
    isStale ticket latest .discard = true ↔ ticket ≠ latest := by
  simp [isStale]

theorem isStale_discard_eq_false_iff {ticket latest : Ticket} :
    isStale ticket latest .discard = false ↔ ticket = latest := by
  simp [isStale]

/-- The ticket that was taken last is never stale. -/
theorem isStale_self (ticket : Ticket) (policy : Policy) : isStale ticket ticket policy = false := by
  simp [isStale]

/-- The page behind the outcome of a check, whether it is taken in or not. -/
def takeCheck (v : View) (ticket : Ticket) (outcome : Except Failure Verdict)
    (policy : Policy) : View :=
  (v.applyCheck? ticket outcome policy).getD v

/-- The page behind the outcome of a quota refresh, whether it is taken in or not. -/
def takeQuota (v : View) (ticket : Ticket) (outcome : Except Failure Quota)
    (policy : Policy) : View :=
  (v.applyQuota? ticket outcome policy).getD v

variable {v : View} {ticket : Ticket} {policy : Policy}

theorem takeCheck_of_stale {outcome : Except Failure Verdict}
    (h : isStale ticket v.lastCheck policy = true) :
    v.takeCheck ticket outcome policy = v := by
  simp [takeCheck, applyCheck?, h]

theorem takeCheck_of_current {outcome : Except Failure Verdict}
    (h : isStale ticket v.lastCheck policy = false) :
    v.takeCheck ticket outcome policy = v.showCheck outcome := by
  simp [takeCheck, applyCheck?, h]

theorem takeQuota_of_stale {outcome : Except Failure Quota}
    (h : isStale ticket v.lastQuota policy = true) :
    v.takeQuota ticket outcome policy = v := by
  simp [takeQuota, applyQuota?, h]

theorem takeQuota_of_current {outcome : Except Failure Quota}
    (h : isStale ticket v.lastQuota policy = false) :
    v.takeQuota ticket outcome policy = v.showQuota outcome := by
  simp [takeQuota, applyQuota?, h]

@[simp] theorem showCheck_result (outcome : Except Failure Verdict) :
    (v.showCheck outcome).result = Verdict.outcomeText outcome := by
  cases outcome <;> rfl

@[simp] theorem showQuota_stats (outcome : Except Failure Quota) :
    (v.showQuota outcome).stats = QuotaRegion.ofOutcome outcome := by
  cases outcome <;> rfl

@[simp] theorem showQuota_result (outcome : Except Failure Quota) :
    (v.showQuota outcome).result = v.result := by
  cases outcome <;> rfl

/-- What showing the outcome of a check leaves alone, taking it in leaves alone. -/
theorem takeCheck_leaves {α : Type} (f : View → α) {outcome : Except Failure Verdict}
    (hf : f (v.showCheck outcome) = f v) : f (v.takeCheck ticket outcome policy) = f v := by
  by_cases hstale : isStale ticket v.lastCheck policy = true
  · rw [takeCheck_of_stale hstale]
  · rw [takeCheck_of_current (eq_false_of_ne_true hstale), hf]

/-- What showing the outcome of a quota refresh leaves alone, taking it in leaves
alone. -/
theorem takeQuota_leaves {α : Type} (f : View → α) {outcome : Except Failure Quota}
    (hf : f (v.showQuota outcome) = f v) : f (v.takeQuota ticket outcome policy) = f v := by
  by_cases hstale : isStale ticket v.lastQuota policy = true
  · rw [takeQuota_of_stale hstale]
  · rw [takeQuota_of_current (eq_false_of_ne_true hstale), hf]

@[simp] theorem takeCheck_payVisible (outcome : Except Failure Verdict) :
    (v.takeCheck ticket outcome policy).payVisible = v.payVisible :=
  takeCheck_leaves payVisible (by cases outcome <;> rfl)

@[simp] theorem takeQuota_result (outcome : Except Failure Quota) :
    (v.takeQuota ticket outcome policy).result = v.result :=
  takeQuota_leaves result (showQuota_result outcome)

/-- **Tickets are taken when a request begins and never later**: no outcome moves
a counter. -/
@[simp] theorem takeCheck_lastCheck (outcome : Except Failure Verdict) :
    (v.takeCheck ticket outcome policy).lastCheck = v.lastCheck :=
  takeCheck_leaves lastCheck (by cases outcome <;> rfl)

@[simp] theorem takeCheck_lastQuota (outcome : Except Failure Verdict) :
    (v.takeCheck ticket outcome policy).lastQuota = v.lastQuota :=
  takeCheck_leaves lastQuota (by cases outcome <;> rfl)

@[simp] theorem takeQuota_lastCheck (outcome : Except Failure Quota) :
    (v.takeQuota ticket outcome policy).lastCheck = v.lastCheck :=
  takeQuota_leaves lastCheck (by cases outcome <;> rfl)

@[simp] theorem takeQuota_lastQuota (outcome : Except Failure Quota) :
    (v.takeQuota ticket outcome policy).lastQuota = v.lastQuota :=
  takeQuota_leaves lastQuota (by cases outcome <;> rfl)

end View

/-! ## Turns -/

namespace Handler

/-- What is logged about the outcome of a check. -/
def checkNotes : Except Failure Verdict → List LogEvent
  | .ok _ => []
  | .error e => [.checkFailed e]

/-- What is logged about the outcome of a quota refresh. -/
def statsNotes : Except Failure Quota → List LogEvent
  | .ok quota => [.quotaRead quota]
  | .error e => [.quotaFailed e]

/-- What is logged about the outcome of a reset. -/
def resetNotes : Except Failure Unit → List LogEvent
  | .ok _ => []
  | .error e => [.resetFailed e]

/-- The outcome of a check that is not stale is shown. -/
theorem afterCheck_of_current {policy : Policy} {ticket : Ticket} {v : View}
    (h : View.isStale ticket v.lastCheck policy = false) (outcome : Except Failure Verdict)
    (b : Browser) :
    afterCheck policy ticket outcome v b =
      beginRefresh (checkNotes outcome) (v.showCheck outcome) b := by
  unfold afterCheck
  rw [View.applyCheck?, h]
  cases outcome <;> rfl

/-- The outcome of a quota refresh that is not stale is shown. -/
theorem afterStats_of_current {policy : Policy} {ticket : Ticket} {v : View}
    (h : View.isStale ticket v.lastQuota policy = false) (outcome : Except Failure Quota)
    (b : Browser) :
    afterStats policy ticket outcome v b =
      ⟨v.showQuota outcome, b, statsNotes outcome, .ended none⟩ := by
  unfold afterStats
  rw [View.applyQuota?, h]
  cases outcome <;> rfl

/-- The bursts that there are: what the handler waited for --- nothing, if it is
only starting --- the move that set it to work, and the burst. -/
inductive Turn (policy : Policy) (v : View) (b : Browser) :
    Option Awaiting → Move → Burst → Prop
  | rejected (submission : Submission) (empty : submission.isEmpty = true) :
      Turn policy v b none (.start (.submit submission))
        ⟨v.beginCheck.rejectEmpty, b, [], .ended none⟩
  | submitted (submission : Submission) (full : submission.isEmpty = false) :
      Turn policy v b none (.start (.submit submission))
        ⟨v.beginCheck, b, [.checking submission.octets],
          .waits (.check submission v.lastCheck.next)⟩
  | refreshing :
      Turn policy v b none (.start .refresh)
        ⟨v.beginQuota, b, [], .waits (.stats v.lastQuota.next)⟩
  | resetting : Turn policy v b none (.start .reset) ⟨v, b, [], .waits .reset⟩
  | buying : Turn policy v b none (.start .buy) ⟨v, b, [], .waits .payment⟩
  | checked (submission : Submission) (ticket : Ticket) (call : Nat)
      (outcome : Except Failure Verdict) :
      Turn policy v b (some (.check submission ticket)) (.settle call (.check outcome))
        ⟨(v.takeCheck ticket outcome policy).beginQuota, b,
          checkNotes outcome ++
            if View.isStale ticket v.lastCheck policy then [.checkDiscarded ticket] else [],
          .waits (.stats v.lastQuota.next)⟩
  | counted (ticket : Ticket) (call : Nat) (outcome : Except Failure Quota) :
      Turn policy v b (some (.stats ticket)) (.settle call (.stats outcome))
        ⟨v.takeQuota ticket outcome policy, b,
          statsNotes outcome ++
            if View.isStale ticket v.lastQuota policy then [.quotaDiscarded ticket] else [],
          .ended none⟩
  | restored (call : Nat) (outcome : Except Failure Unit) :
      Turn policy v b (some .reset) (.settle call (.reset outcome))
        ⟨v.beginQuota, b, resetNotes outcome, .waits (.stats v.lastQuota.next)⟩
  | paid (call : Nat) (outcome : Except Failure Payment.Reply) {b' : Browser}
      {log : List LogEvent} {sale : Payment.Outcome}
      (sold : afterPayment outcome v b = ⟨v, b', log, .ended (some sale)⟩) :
      Turn policy v b (some .payment) (.settle call (.payment outcome))
        ⟨v, b', log, .ended (some sale)⟩

variable {policy : Policy} {v : View} {b : Browser}

theorem turn_begin (event : Event) : Turn policy v b none (.start event) (begin event v b) := by
  cases event with
  | submit submission =>
    cases h : submission.isEmpty
    · simpa [begin, beginSubmission, View.beginCheck, h] using Turn.submitted submission h
    · simpa [begin, beginSubmission, h] using Turn.rejected submission h
  | refresh => exact .refreshing
  | reset => exact .resetting
  | buy => exact .buying

theorem turn_afterCheck (submission : Submission) (ticket : Ticket) (call : Nat)
    (outcome : Except Failure Verdict) :
    Turn policy v b (some (.check submission ticket)) (.settle call (.check outcome))
      (afterCheck policy ticket outcome v b) := by
  have h : Turn policy v b _ _ _ := .checked submission ticket call outcome
  cases hs : View.isStale ticket v.lastCheck policy <;> cases outcome <;>
    simpa [View.takeCheck, View.applyCheck?, afterCheck, beginRefresh, checkNotes,
      View.beginQuota, View.showCheck, hs] using h

theorem turn_afterStats (ticket : Ticket) (call : Nat) (outcome : Except Failure Quota) :
    Turn policy v b (some (.stats ticket)) (.settle call (.stats outcome))
      (afterStats policy ticket outcome v b) := by
  have h : Turn policy v b _ _ _ := .counted ticket call outcome
  cases hs : View.isStale ticket v.lastQuota policy <;> cases outcome <;>
    simpa [View.takeQuota, View.applyQuota?, afterStats, statsNotes, hs] using h

theorem turn_afterReset (call : Nat) (outcome : Except Failure Unit) :
    Turn policy v b (some .reset) (.settle call (.reset outcome)) (afterReset outcome v b) := by
  have h : Turn policy v b _ _ _ := .restored call outcome
  cases outcome <;> exact h

/-- A payment ends a purchase, whatever became of it, and leaves the page alone. -/
theorem turn_afterPayment (call : Nat) (outcome : Except Failure Payment.Reply) :
    Turn policy v b (some .payment) (.settle call (.payment outcome))
      (afterPayment outcome v b) := by
  obtain ⟨b', log, sale, h⟩ : ∃ b' log sale,
      afterPayment outcome v b = ⟨v, b', log, .ended (some sale)⟩ := by
    unfold afterPayment
    cases approve outcome b <;> exact ⟨_, _, _, rfl⟩
  rw [h]
  exact .paid call outcome h

/-- **A burst is one of the nine turns.** -/
theorem turn_of_resume? {a : Awaiting} {reply : Reply} {burst : Burst} (call : Nat)
    (h : resume? policy a reply v b = some burst) :
    Turn policy v b (some a) (.settle call reply) burst := by
  cases a <;> cases reply <;>
    simp only [resume?, Option.some.injEq, reduceCtorEq] at h <;> subst h
  · exact turn_afterCheck _ _ _ _
  · exact turn_afterStats _ _ _
  · exact turn_afterPayment _ _
  · exact turn_afterReset _ _

end Handler
end MeteredChecker
