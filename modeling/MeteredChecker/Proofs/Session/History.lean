import MeteredChecker.Session.Interleaved

/-!
# Histories

What a session leaves behind is its history: the moves that were made, each with
what it reported, the latest first.  What the page ought to show is said in terms
of the history alone: of who was started when, which call of whom was settled with
what, and never of a ticket or of an older page.

## Calls go by their handlers

A handler makes at most one call of a kind, so the check of a submission is named
by the handler that runs the submission, and a quota refresh by the handler that
began it --- be it a refresh, a reset or a submission.  `History.of` keeps the
moments of one handler, and `History.answer?` is what its call was settled with.
-/

namespace MeteredChecker

theorem Submission.isEmpty_iff {s : Submission} : s.isEmpty = true ↔ s.code = "" := by
  simp [isEmpty]

/-- A move, with what it reported. -/
structure Moment where
  move : Move
  report : Report

/-- What has happened on a page, the latest first. -/
abbrev History := List Moment

namespace Moment

/-- A submission was started. -/
def submission? (m : Moment) : Option Submission :=
  match m.move with
  | .start (.submit submission) => some submission
  | _ => none

/-- A submission was started, empty or not. -/
def submits (m : Moment) : Bool := m.submission?.isSome

/-- A quota refresh began: the quota was asked for. -/
def refreshes (m : Moment) : Bool := m.report.made == some .stats

/-- The call of a check was settled, and this is the outcome. -/
def verdict? (m : Moment) : Option (Except Failure Verdict) :=
  match m.move with
  | .settle _ (.check outcome) => some outcome
  | _ => none

/-- The call of a quota refresh was settled, and this is the outcome. -/
def quota? (m : Moment) : Option (Except Failure Quota) :=
  match m.move with
  | .settle _ (.stats outcome) => some outcome
  | _ => none

/-- The reply was discarded: the log says so. -/
def discards (m : Moment) : Bool :=
  m.report.log.any fun
    | .checkDiscarded _ | .quotaDiscarded _ => true
    | _ => false

theorem refreshes_iff {m : Moment} :
    m.refreshes = true ↔ ∃ ticket, m.report.rest = .waits (.stats ticket) := by
  rw [refreshes, Report.made]
  cases m.report.rest with
  | ended outcome => simp
  | waits a => cases a <;> simp [Awaiting.call]

end Moment

/-- Nothing is discarded when a purchase ends. -/
theorem Handler.discards_of_paid {outcome : Except Failure Payment.Reply} {v v' : View}
    {b b' : Browser} {log : List LogEvent} {rest : Rest}
    (sold : afterPayment outcome v b = ⟨v', b', log, rest⟩) {move : Move} {n : Nat} :
    Moment.discards ⟨move, ⟨n, log, rest⟩⟩ = false := by
  unfold afterPayment at sold
  cases outcome with
  | error e =>
    cases sold
    rfl
  | ok reply =>
    cases hsale : approve (.ok reply) b with
    | error e =>
      rw [hsale] at sold
      cases sold
      rfl
    | ok sale =>
      rw [hsale] at sold
      cases sold
      rfl

namespace History

/-! ## One handler -/

/-- What one handler has been through. -/
def of (h : History) (n : Nat) : History := h.filter fun m => m.report.handler == n

theorem of_cons_self (m : Moment) (h : History) :
    History.of (m :: h) m.report.handler = m :: h.of m.report.handler := by
  simp [of]

theorem of_cons_of_ne {m : Moment} {n : Nat} (h : History) (hne : n ≠ m.report.handler) :
    History.of (m :: h) n = h.of n := by
  simp [of, hne.symm]

theorem of_append (newer older : History) (n : Nat) :
    History.of (newer ++ older) n = newer.of n ++ older.of n :=
  List.filter_append ..

theorem mem_of {h : History} {n : Nat} {m : Moment} :
    m ∈ h.of n ↔ m ∈ h ∧ m.report.handler = n := by
  simp [of]

section answer

variable {α : Type} {f : Moment → Option α}

/-- What the call of a handler was settled with; `f` says which kind of call. -/
def answer? (f : Moment → Option α) (h : History) (n : Nat) : Option α := (h.of n).findSome? f

theorem answer?_cons_self (m : Moment) (h : History) :
    History.answer? f (m :: h) m.report.handler =
      (f m).or (h.answer? f m.report.handler) := by
  rw [answer?, of_cons_self, List.findSome?_cons, answer?]
  cases f m <;> rfl

theorem answer?_cons_of_ne {m : Moment} {n : Nat} (h : History) (hne : n ≠ m.report.handler) :
    History.answer? f (m :: h) n = h.answer? f n := by
  rw [answer?, of_cons_of_ne h hne, answer?]

theorem answer?_cons_of_none {m : Moment} (h : History) (hm : f m = none) (n : Nat) :
    History.answer? f (m :: h) n = h.answer? f n := by
  by_cases hn : n = m.report.handler
  · subst hn
    rw [answer?_cons_self, hm, Option.none_or]
  · exact answer?_cons_of_ne h hn

theorem answer?_append_of_some {newer : History} {n : Nat} {a : α} (older : History)
    (hn : newer.answer? f n = some a) : History.answer? f (newer ++ older) n = some a := by
  rw [answer?] at hn
  rw [answer?, of_append, List.findSome?_append, hn, Option.some_or]

end answer

/-! ## The latest of a kind -/

/-- The submission that was started last, and the handler that runs it. -/
def latestSubmission? (h : History) : Option (Nat × Submission) :=
  (h.find? Moment.submits).bind fun m =>
    m.submission?.map fun submission => (m.report.handler, submission)

/-- The handler that was the last to begin a quota refresh. -/
def latestRefresh? (h : History) : Option Nat :=
  (h.find? Moment.refreshes).map fun m => m.report.handler

/-- What has happened since the latest submission was started, or all of it if
none was. -/
def sinceSubmission (h : History) : History := h.takeWhile fun m => !m.submits

variable {m : Moment} (h : History)

theorem latestSubmission?_cons_of_some {submission : Submission}
    (hm : m.submission? = some submission) :
    History.latestSubmission? (m :: h) = some (m.report.handler, submission) := by
  simp [latestSubmission?, Moment.submits, hm]

theorem latestSubmission?_cons_of_none (hm : m.submission? = none) :
    History.latestSubmission? (m :: h) = h.latestSubmission? := by
  simp [latestSubmission?, Moment.submits, hm]

/-- The latest submission parts a history in two. -/
theorem exists_of_latestSubmission? {h : History} {n : Nat} {submission : Submission}
    (latest : h.latestSubmission? = some (n, submission)) :
    ∃ m older, h = h.sinceSubmission ++ m :: older ∧ m.submission? = some submission ∧
      m.report.handler = n := by
  obtain ⟨m, hm, hmap⟩ := Option.bind_eq_some_iff.1 latest
  obtain ⟨submission', hs, hpair⟩ := Option.map_eq_some_iff.1 hmap
  obtain ⟨rfl, rfl⟩ := Prod.mk.inj hpair
  obtain ⟨hsubmits, newer, older, rfl, hnewer⟩ := List.find?_eq_some_iff_append.1 hm
  refine ⟨m, older, ?_, hs, rfl⟩
  rw [sinceSubmission, List.takeWhile_append_of_pos hnewer,
    List.takeWhile_cons_of_neg (by simp [hsubmits]), List.append_nil]

/-- What has been answered since the latest submission has been answered. -/
theorem answer?_of_sinceSubmission {α : Type} {f : Moment → Option α} {h : History} {n : Nat}
    {a : α} (hn : h.sinceSubmission.answer? f n = some a) : h.answer? f n = some a := by
  obtain ⟨older, holder⟩ : h.sinceSubmission <+: h := List.takeWhile_prefix _
  rw [← holder]
  exact answer?_append_of_some older hn

theorem latestRefresh?_cons_of_true (hm : m.refreshes = true) :
    History.latestRefresh? (m :: h) = some m.report.handler := by
  simp [latestRefresh?, hm]

theorem latestRefresh?_cons_of_false (hm : m.refreshes = false) :
    History.latestRefresh? (m :: h) = h.latestRefresh? := by
  simp [latestRefresh?, hm]

/-- The latest refresh parts a history in two. -/
theorem exists_of_latestRefresh? {h : History} {n : Nat} (latest : h.latestRefresh? = some n) :
    ∃ newer m older, h = newer ++ m :: older ∧ m.refreshes = true ∧ m.report.handler = n := by
  obtain ⟨m, hm, rfl⟩ := Option.map_eq_some_iff.1 latest
  obtain ⟨hrefresh, newer, older, rfl, -⟩ := List.find?_eq_some_iff_append.1 hm
  exact ⟨newer, m, older, rfl, hrefresh, rfl⟩

theorem sinceSubmission_cons_of_some {submission : Submission}
    (hm : m.submission? = some submission) : History.sinceSubmission (m :: h) = [] := by
  simp [sinceSubmission, Moment.submits, hm]

theorem sinceSubmission_cons_of_none (hm : m.submission? = none) :
    History.sinceSubmission (m :: h) = m :: h.sinceSubmission := by
  simp [sinceSubmission, Moment.submits, hm]

end History
end MeteredChecker
