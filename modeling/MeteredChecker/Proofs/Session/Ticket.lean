import MeteredChecker.Proofs.Session.Course
import Mathlib.Algebra.Group.Nat.Defs

/-!
# Tickets tell who is the latest

A counter of the page and the tickets of the handlers never meet except in one
comparison: an answer is stale if its ticket is not the one that was taken last.
This file says what the comparison means in terms of the history.  The counters
count (`Run.lastCheck_eq`, `Run.lastQuota_eq`); so the ticket of a handler is the
number of its request among the requests of its kind, and it equals the counter
exactly when no later request of the kind has begun.

## Words

Counters are words of 64 bits and wrap around.  That they count needs no bound,
since `Ticket.nth` wraps as well.  That *different* numbers are different tickets
does: it is the only place where the number of handlers started has to be below
`2 ^ 64`.  There are at most as many requests of a kind as handlers, because no
course has two of them (`Run.countP_le_handlers`).
-/

namespace MeteredChecker

/-! ## Numbers as tickets -/

namespace Ticket

/-- The ticket with a number; `nth 0` is the ticket that nobody took. -/
def nth (n : Nat) : Ticket := ⟨.ofNat n⟩

theorem next_nth (n : Nat) : (nth n).next = nth (n + 1) := by
  rw [next, nth, nth, UInt64.ofNat_add]
  rfl

theorem nth_inj {m n : Nat} (hm : m < 2 ^ 64) (hn : n < 2 ^ 64) : nth m = nth n ↔ m = n := by
  refine ⟨fun h => ?_, congrArg nth⟩
  have hval : (UInt64.ofNat m).toNat = (UInt64.ofNat n).toNat :=
    congrArg (fun t => t.value.toNat) h
  rwa [UInt64.toNat_ofNat', UInt64.toNat_ofNat', Nat.mod_eq_of_lt hm, Nat.mod_eq_of_lt hn] at hval

end Ticket

namespace Run

variable {policy : Policy} {browser : Browser} {h : History} {s : Session}

/-! ## Counters count -/

/-- **The counter of checks is the number of submissions**, the empty ones
included. -/
theorem lastCheck_eq (run : Run policy browser h s) :
    s.view.lastCheck = .nth (h.countP Moment.submits) := by
  induction run with
  | opened => rfl
  | @moved h s move next run step ih =>
    obtain ⟨n, before, burst, -, turn, hview, -⟩ := (Session.step_of_step? step).exists_turn
    rw [hview]
    cases turn with
    | rejected | submitted =>
      rw [List.countP_cons_of_pos rfl, ← Ticket.next_nth, ← ih]
      rfl
    | refreshing | resetting | buying | checked | counted | restored | paid =>
      rw [List.countP_cons_of_neg (by simp [Moment.submits, Moment.submission?])]
      simpa [View.beginQuota] using ih

/-- **The counter of quota refreshes is the number of times the quota was asked
for.** -/
theorem lastQuota_eq (run : Run policy browser h s) :
    s.view.lastQuota = .nth (h.countP Moment.refreshes) := by
  induction run with
  | opened => rfl
  | @moved h s move next run step ih =>
    obtain ⟨n, before, burst, -, turn, hview, hreport⟩ :=
      (Session.step_of_step? step).exists_turn
    rw [hview, hreport]
    cases turn with
    | refreshing | checked | restored =>
      rw [List.countP_cons_of_pos rfl, ← Ticket.next_nth, ← ih]
      simp [View.beginQuota]
    | rejected | submitted | resetting | buying | counted | paid =>
      rw [List.countP_cons_of_neg (by simp [Moment.refreshes_iff])]
      simpa [View.beginCheck, View.rejectEmpty] using ih

/-- The ticket of a check is the number of its submission. -/
theorem check_ticket_eq {m : Moment} {older : History} (run : Run policy browser (m :: older) s)
    {submission : Submission} {ticket : Ticket}
    (hm : m.report.rest = .waits (.check submission ticket)) :
    ticket = .nth (older.countP Moment.submits + 1) := by
  cases run with
  | moved run step =>
    obtain ⟨n, before, burst, -, turn, -, hreport⟩ := (Session.step_of_step? step).exists_turn
    have hrest := hm.symm.trans (congrArg Report.rest hreport)
    rw [← Ticket.next_nth, ← run.lastCheck_eq]
    cases turn <;> cases hrest
    rfl

/-- The ticket of a quota refresh is its number. -/
theorem stats_ticket_eq {m : Moment} {older : History} (run : Run policy browser (m :: older) s)
    {ticket : Ticket} (hm : m.report.rest = .waits (.stats ticket)) :
    ticket = .nth (older.countP Moment.refreshes + 1) := by
  cases run with
  | moved run step =>
    obtain ⟨n, before, burst, -, turn, -, hreport⟩ := (Session.step_of_step? step).exists_turn
    have hrest := hm.symm.trans (congrArg Report.rest hreport)
    rw [← Ticket.next_nth, ← run.lastQuota_eq]
    cases turn <;> cases hrest <;> rfl

/-! ## No more requests than handlers -/

theorem handler_lt (run : Run policy browser h s) {m : Moment} (hm : m ∈ h) :
    m.report.handler < s.handlers := by
  refine Nat.lt_of_not_le fun hle => ?_
  have hmem : m ∈ h.of m.report.handler := History.mem_of.2 ⟨hm, rfl⟩
  rw [run.of_eq_nil hle] at hmem
  cases hmem

/-- What happens at most once in a course happens at most as often as there are
handlers. -/
theorem countP_le_handlers (run : Run policy browser h s) {P : Moment → Bool}
    (once : ∀ n, (h.of n).countP P ≤ 1) : h.countP P ≤ s.handlers := by
  have hcount : ∀ n, ((h.filter P).map fun m => m.report.handler).count n = (h.of n).countP P := by
    intro n
    rw [List.count, List.countP_map, List.countP_filter, History.of, List.countP_filter]
    exact List.countP_congr fun m _ => by simp [and_comm]
  have hnodup : ((h.filter P).map fun m => m.report.handler).Nodup :=
    List.nodup_iff_count_le_one.2 fun n => hcount n ▸ once n
  have hsub : ((h.filter P).map fun m => m.report.handler) ⊆ List.range s.handlers := by
    intro n hn
    obtain ⟨m, hm, rfl⟩ := List.mem_map.1 hn
    exact List.mem_range.2 (run.handler_lt (List.mem_of_mem_filter hm))
  have hle := hnodup.length_le_of_subset hsub
  rwa [List.length_map, List.length_range, ← List.countP_eq_length_filter] at hle

theorem countP_submits_le (run : Run policy browser h s) :
    h.countP Moment.submits ≤ s.handlers :=
  run.countP_le_handlers fun n => by
    obtain ⟨status, course, -⟩ := run.exists_course n
    exact course.countP_submits_le

theorem countP_refreshes_le (run : Run policy browser h s) :
    h.countP Moment.refreshes ≤ s.handlers :=
  run.countP_le_handlers fun n => by
    obtain ⟨status, course, -⟩ := run.exists_course n
    exact course.countP_refreshes_le

end Run

/-! ## The latest request -/

/-- The number of a request is the number of them all if and only if no request of
its kind has begun since. -/
theorem nth_eq_nth_iff {P : Moment → Bool} {newer older : History} {m : Moment}
    (hm : P m = true) (few : (newer ++ m :: older).countP P < 2 ^ 64) :
    Ticket.nth (older.countP P + 1) = .nth ((newer ++ m :: older).countP P) ↔
      ∀ e ∈ newer, P e = false := by
  have hcount : (newer ++ m :: older).countP P = newer.countP P + (older.countP P + 1) := by
    rw [List.countP_append, List.countP_cons_of_pos hm]
  have hnone : newer.countP P = 0 ↔ ∀ e ∈ newer, P e = false := by
    simp [List.countP_eq_zero]
  rw [hcount] at few ⊢
  rw [Ticket.nth_inj (by omega) few, ← hnone]
  omega

/-- Of the requests of a kind, either the one at hand is the latest and its number
is the number of them all, or it is not and its number is another. -/
theorem latest_or_superseded {P : Moment → Bool} {newer older : History} {m : Moment}
    (hm : P m = true) (few : (newer ++ m :: older).countP P < 2 ^ 64) :
    (Ticket.nth (older.countP P + 1) = .nth ((newer ++ m :: older).countP P) ∧
        (newer ++ m :: older).find? P = some m) ∨
      (Ticket.nth (older.countP P + 1) ≠ .nth ((newer ++ m :: older).countP P) ∧
        ∃ e ∈ newer, (newer ++ m :: older).find? P = some e) := by
  rw [Ne, nth_eq_nth_iff hm few, List.find?_append]
  cases hnew : newer.find? P with
  | none =>
    refine .inl ⟨fun e he => ?_, by simp [hm]⟩
    exact eq_false_of_ne_true (List.find?_eq_none.1 hnew e he)
  | some e =>
    have he : e ∈ newer := List.mem_of_find?_eq_some hnew
    refine .inr ⟨fun hnone => ?_, e, he, by simp⟩
    have htrue : P e = true := List.find?_some hnew
    rw [hnone e he] at htrue
    cases htrue

namespace Run

variable {policy : Policy} {browser : Browser} {h : History} {s : Session} {n : Nat}
  {ticket : Ticket}

/-- Who waits for a check has submitted its code and has done nothing else since,
and its ticket is the number of the submission. -/
theorem exists_submission_of_waits (run : Run policy browser h s) {submission : Submission}
    (waits : s.Waits n (.check submission ticket)) :
    ∃ newer m older, h = newer ++ m :: older ∧ m.move = .start (.submit submission) ∧
      m.report.handler = n ∧ (∀ e ∈ newer, e.report.handler ≠ n) ∧
      ticket = .nth (older.countP Moment.submits + 1) := by
  obtain ⟨status, course, stands⟩ := run.exists_course n
  rw [(stands.waits_iff _).1 waits] at course
  obtain ⟨-, k, log, hof⟩ := course.eq_of_check
  obtain ⟨newer, older, rfl, hnewer, hk, -⟩ := List.filter_eq_cons_iff.1 hof
  obtain ⟨s₀, run₀⟩ := run.of_append
  exact ⟨newer, _, older, rfl, rfl, by simpa using hk, by simpa using hnewer,
    run₀.check_ticket_eq rfl⟩

/-- Who waits for the quota has begun a refresh and has done nothing else since,
and its ticket is the number of the refresh. -/
theorem exists_refresh_of_waits (run : Run policy browser h s) (waits : s.Waits n (.stats ticket)) :
    ∃ newer m older, h = newer ++ m :: older ∧ m.refreshes = true ∧
      m.report.handler = n ∧ (∀ e ∈ newer, e.report.handler ≠ n) ∧
      ticket = .nth (older.countP Moment.refreshes + 1) := by
  obtain ⟨status, course, stands⟩ := run.exists_course n
  rw [(stands.waits_iff _).1 waits] at course
  obtain ⟨m, l, hof, hrest, -⟩ := course.eq_of_stats
  obtain ⟨newer, older, rfl, hnewer, hk, -⟩ := List.filter_eq_cons_iff.1 hof
  obtain ⟨s₀, run₀⟩ := run.of_append
  exact ⟨newer, m, older, rfl, Moment.refreshes_iff.2 ⟨ticket, hrest⟩, by simpa using hk,
    by simpa using hnewer, run₀.stats_ticket_eq hrest⟩

/-- **The ticket of a check is the one taken last exactly if its submission is the
latest.** -/
theorem check_latest_or_superseded (run : Run policy browser h s) (few : s.handlers < 2 ^ 64)
    {submission : Submission} (waits : s.Waits n (.check submission ticket)) :
    (ticket = s.view.lastCheck ∧ h.latestSubmission? = some (n, submission)) ∨
      (ticket ≠ s.view.lastCheck ∧
        ∃ n' submission', n' ≠ n ∧ h.latestSubmission? = some (n', submission')) := by
  obtain ⟨newer, m, older, rfl, hmove, rfl, hnewer, rfl⟩ := run.exists_submission_of_waits waits
  have hsub : m.submission? = some submission := by simp [Moment.submission?, hmove]
  have hm : m.submits = true := by simp [Moment.submits, hsub]
  rw [run.lastCheck_eq]
  rcases latest_or_superseded hm (Nat.lt_of_le_of_lt run.countP_submits_le few) with
    ⟨ht, hlatest⟩ | ⟨ht, e, he, hlatest⟩
  · exact .inl ⟨ht, by simp [History.latestSubmission?, hlatest, hsub]⟩
  · have he' : e.submits = true := List.find?_some hlatest
    obtain ⟨submission', hs⟩ := Option.isSome_iff_exists.1 he'
    exact .inr ⟨ht, e.report.handler, submission', hnewer e he,
      by simp [History.latestSubmission?, hlatest, hs]⟩

/-- **The ticket of a quota refresh is the one taken last exactly if the refresh is
the latest.** -/
theorem stats_latest_or_superseded (run : Run policy browser h s) (few : s.handlers < 2 ^ 64)
    (waits : s.Waits n (.stats ticket)) :
    (ticket = s.view.lastQuota ∧ h.latestRefresh? = some n) ∨
      (ticket ≠ s.view.lastQuota ∧ ∃ n', n' ≠ n ∧ h.latestRefresh? = some n') := by
  obtain ⟨newer, m, older, rfl, hm, rfl, hnewer, rfl⟩ := run.exists_refresh_of_waits waits
  rw [run.lastQuota_eq]
  rcases latest_or_superseded hm (Nat.lt_of_le_of_lt run.countP_refreshes_le few) with
    ⟨ht, hlatest⟩ | ⟨ht, e, he, hlatest⟩
  · exact .inl ⟨ht, by simp [History.latestRefresh?, hlatest]⟩
  · exact .inr ⟨ht, e.report.handler, hnewer e he, by simp [History.latestRefresh?, hlatest]⟩

end Run
end MeteredChecker
