import MeteredChecker.Proofs.Session.Run
import Mathlib.Data.List.Nodup
import Mathlib.Data.List.Pairwise

/-!
# One handler among many

Handlers overlap in any way whatever, but a handler never notices.  Looked at
alone --- `History.of` keeps its moments and drops all others --- it takes one turn
after the other from its beginning, and that is a `Course`.  Main statement:
`Run.exists_course`, which also says where the handler stands: it waits for
exactly what its course ends with.

Two facts about the calls that are under way carry the proof: no two of them have
the same number, and no two belong to one handler (`Session.Sound`).  Without the
first, settling a call could take another with it; without the second, a handler
could go on twice.

What a course can be is then read off the turns.  A handler that waits for
anything but the quota has only begun; whoever has begun a quota refresh has begun
one; and whoever has ended without a purchase ended with the quota, unless there
was nothing to check.
-/

namespace MeteredChecker

/-! ## Calls under way -/

/-- The calls under way have different numbers and belong to different handlers,
all of them given out already. -/
structure Session.Sound (s : Session) : Prop where
  distinct : s.pending.Pairwise fun p q => p.call ≠ q.call ∧ p.handler ≠ q.handler
  call_lt : ∀ p ∈ s.pending, p.call < s.calls
  handler_lt : ∀ p ∈ s.pending, p.handler < s.handlers

namespace Session

variable {s : Session}

theorem Sound.eq_or_ne (sound : s.Sound) {p q : Pending} (hp : p ∈ s.pending)
    (hq : q ∈ s.pending) : p = q ∨ p.call ≠ q.call ∧ p.handler ≠ q.handler := by
  have : Std.Symm fun p q : Pending => p.call ≠ q.call ∧ p.handler ≠ q.handler :=
    ⟨fun _ _ h => ⟨h.1.symm, h.2.symm⟩⟩
  by_cases h : p = q
  · exact .inl h
  · exact .inr (sound.distinct.forall hp hq h)

theorem Sound.new (browser : Browser) : (Session.new browser).Sound :=
  ⟨.nil, by simp [Session.new], by simp [Session.new]⟩

/-- Settling a call takes that call away and no other. -/
theorem Sound.mem_drop (sound : s.Sound) {p q : Pending} (hp : p ∈ s.pending) :
    q ∈ (s.drop p.call).pending ↔ q ∈ s.pending ∧ q.handler ≠ p.handler := by
  simp only [drop, List.mem_filter, bne_iff_ne]
  refine and_congr_right fun hq => ?_
  rcases sound.eq_or_ne hq hp with rfl | h
  · simp
  · simp [h]

/-- A call under way is found by its number. -/
theorem Sound.pending?_eq (sound : s.Sound) {p : Pending} (hp : p ∈ s.pending) :
    s.pending? p.call = some p := by
  cases hfind : s.pending? p.call with
  | none => exact absurd (by simp) (List.find?_eq_none.1 hfind p hp)
  | some q =>
    have hcall : q.call = p.call := by simpa using List.find?_some hfind
    rcases sound.eq_or_ne (List.mem_of_find?_eq_some hfind) hp with rfl | hne
    · rfl
    · exact absurd hcall hne.1

/-- A call under way is settled by the next burst of the handler that waits for it. -/
theorem Sound.settle?_eq (sound : s.Sound) {p : Pending} (hp : p ∈ s.pending) {policy : Policy}
    {reply : Reply} {burst : Burst}
    (hburst : Handler.resume? policy p.awaiting reply s.view s.browser = some burst) :
    s.settle? policy p.call reply = some ((s.drop p.call).absorb p.handler burst) := by
  simp [settle?, sound.pending?_eq hp, hburst]

/-- Settling a call leaves the others as they are. -/
theorem Sound.pending_drop (sound : s.Sound) {p : Pending} {earlier later : List Pending}
    (h : s.pending = earlier ++ p :: later) : (s.drop p.call).pending = earlier ++ later := by
  have hdistinct := sound.distinct
  rw [h, List.pairwise_append, List.pairwise_cons] at hdistinct
  obtain ⟨-, ⟨hlater, -⟩, hearlier⟩ := hdistinct
  have kept₁ : earlier.filter (fun q => q.call != p.call) = earlier :=
    List.filter_eq_self.2 fun q hq => by simpa using (hearlier q hq p List.mem_cons_self).1
  have kept₂ : later.filter (fun q => q.call != p.call) = later :=
    List.filter_eq_self.2 fun q hq => by simpa using (hlater q hq).1.symm
  simp [Session.drop, h, kept₁, kept₂]

theorem Sound.drop (sound : s.Sound) (call : Nat) : (s.drop call).Sound where
  distinct := sound.distinct.filter _
  call_lt p hp := sound.call_lt p (List.mem_filter.1 hp).1
  handler_lt p hp := sound.handler_lt p (List.mem_filter.1 hp).1

/-- Taking a burst in is sound if its handler has no call under way. -/
theorem Sound.absorb (sound : s.Sound) {n : Nat} {burst : Burst} (idle : ∀ p ∈ s.pending,
    p.handler ≠ n) (hn : n < s.handlers) : (s.absorb n burst).1.Sound := by
  cases hr : burst.rest with
  | ended outcome =>
    have hp := absorb_pending_of_ended s n burst hr
    have hc := absorb_calls_of_ended s n burst hr
    exact ⟨hp ▸ sound.distinct, by simpa [hp, hc] using sound.call_lt,
      by simpa [hp] using sound.handler_lt⟩
  | waits a =>
    have hp := absorb_pending_of_waits s n burst hr
    have hc := absorb_calls_of_waits s n burst hr
    refine ⟨?_, ?_, ?_⟩
    · rw [hp, List.pairwise_append]
      refine ⟨sound.distinct, List.pairwise_singleton _ _, fun p hmem q hq => ?_⟩
      obtain rfl := List.mem_singleton.1 hq
      exact ⟨Nat.ne_of_lt (sound.call_lt p hmem), idle p hmem⟩
    · rw [hp, hc, List.forall_mem_append]
      exact ⟨fun p hmem => Nat.lt_succ_of_lt (sound.call_lt p hmem), by simp⟩
    · rw [hp, absorb_handlers, List.forall_mem_append]
      exact ⟨sound.handler_lt, by simpa using hn⟩

theorem Sound.start (sound : s.Sound) :
    ({ s with handlers := s.handlers + 1 } : Session).Sound :=
  ⟨sound.distinct, sound.call_lt, fun p hp => Nat.lt_succ_of_lt (sound.handler_lt p hp)⟩

theorem Sound.step (sound : s.Sound) {policy : Policy} {move : Move}
    {next : Session × Report} (step : Step policy s move next) : next.1.Sound := by
  cases step with
  | start turn =>
    exact sound.start.absorb (fun p hp => Nat.ne_of_lt (sound.handler_lt p hp))
      (Nat.lt_succ_self _)
  | settle mem turn =>
    exact (sound.drop _).absorb (fun q hq => ((sound.mem_drop mem).1 hq).2)
      (sound.handler_lt _ mem)

/-! ## Who waits -/

theorem waits_absorb (n k : Nat) (burst : Burst) (a : Awaiting) :
    (s.absorb k burst).1.Waits n a ↔ s.Waits n a ∨ n = k ∧ burst.rest = .waits a := by
  cases hr : burst.rest with
  | ended outcome => simp [Waits, absorb_pending_of_ended s k burst hr]
  | waits a' =>
    simp only [Waits, absorb_pending_of_waits s k burst hr, List.mem_append,
      List.mem_singleton, or_and_right, exists_or, exists_eq_left, Rest.waits.injEq, eq_comm]

theorem Sound.waits_drop (sound : s.Sound) {p : Pending} (hp : p ∈ s.pending) (n : Nat)
    (a : Awaiting) : (s.drop p.call).Waits n a ↔ n ≠ p.handler ∧ s.Waits n a := by
  simp only [Waits, sound.mem_drop hp]
  constructor
  · rintro ⟨q, ⟨hq, hne⟩, rfl, rfl⟩
    exact ⟨hne, q, hq, rfl, rfl⟩
  · rintro ⟨hne, q, hq, rfl, rfl⟩
    exact ⟨q, ⟨hq, hne⟩, rfl, rfl⟩

end Session

theorem Run.sound {policy : Policy} {browser : Browser} {h : History} {s : Session}
    (run : Run policy browser h s) : s.Sound := by
  induction run with
  | opened => exact .new _
  | moved _ step ih => exact ih.step (Session.step_of_step? step)

/-! ## Courses -/

/-- One turn after the other, from the beginning.  A course comes with how its
latest burst ended; a handler that has not begun has no burst. -/
inductive Course (policy : Policy) : History → Option Rest → Prop
  | idle : Course policy [] none
  | turn {l : History} {before : Option Awaiting} {n : Nat} {move : Move} {v v' : View}
      {b b' : Browser} {log : List LogEvent} {rest : Rest}
      (course : Course policy l (before.map .waits))
      (turn : Handler.Turn policy v b before move ⟨v', b', log, rest⟩) :
      Course policy (⟨move, ⟨n, log, rest⟩⟩ :: l) (some rest)

/-- Where a handler stands in a session, by how its course has ended so far. -/
structure Session.Stands (s : Session) (n : Nat) (status : Option Rest) : Prop where
  new_iff : status = none ↔ s.handlers ≤ n
  waits_iff : ∀ a, s.Waits n a ↔ status = some (.waits a)

/-- **Every handler goes through a course of its own**, whatever the others do,
and waits for exactly what its course ends with. -/
theorem Run.exists_course {policy : Policy} {browser : Browser} {h : History} {s : Session}
    (run : Run policy browser h s) (n : Nat) :
    ∃ status, Course policy (h.of n) status ∧ s.Stands n status := by
  induction run with
  | opened => exact ⟨none, .idle, by simp [Session.new], by simp [Session.Waits, Session.new]⟩
  | @moved h s move next run step ih =>
    obtain ⟨status, course, stands⟩ := ih
    cases Session.step_of_step? step with
    | @start event burst turn =>
      simp only [Session.absorb_report]
      by_cases hn : n = s.handlers
      · -- the new handler: nothing of it is in the history yet
        subst hn
        obtain rfl : status = none := stands.new_iff.2 (Nat.le_refl _)
        rw [History.of_cons_self]
        have course' : Course policy _ ((none : Option Awaiting).map .waits) := course
        refine ⟨_, .turn course' turn, by simp, fun a => ?_⟩
        have hidle : ¬ s.Waits s.handlers a := by simp [stands.waits_iff]
        rw [Session.waits_absorb]
        exact ⟨fun hw => hw.elim (fun hw => absurd hw hidle) fun hw => congrArg some hw.2,
          fun hw => .inr ⟨rfl, Option.some.inj hw⟩⟩
      · rw [History.of_cons_of_ne _ hn]
        refine ⟨status, course, ?_, fun a => ?_⟩
        · rw [stands.new_iff, Session.absorb_handlers]
          show s.handlers ≤ n ↔ s.handlers + 1 ≤ n
          omega
        · rw [Session.waits_absorb, ← stands.waits_iff]
          simp [hn, Session.Waits]
    | @settle p reply burst mem turn =>
      simp only [Session.absorb_report]
      by_cases hn : n = p.handler
      · -- the handler whose call is settled: it waits for nothing else
        subst hn
        obtain rfl : status = some (.waits p.awaiting) :=
          (stands.waits_iff _).1 ⟨p, mem, rfl, rfl⟩
        rw [History.of_cons_self]
        have course' : Course policy _ ((some p.awaiting).map .waits) := course
        refine ⟨_, .turn course' turn, ?_, fun a => ?_⟩
        · have := run.sound.handler_lt p mem
          simpa [Session.drop] using this
        · simp [Session.waits_absorb, run.sound.waits_drop mem]
      · rw [History.of_cons_of_ne _ hn]
        refine ⟨status, course, ?_, fun a => ?_⟩
        · rw [stands.new_iff, Session.absorb_handlers]
          rfl
        · rw [Session.waits_absorb, run.sound.waits_drop mem, ← stands.waits_iff]
          simp [hn]

/-- Nothing is in the history of a handler that has not been started. -/
theorem Run.of_eq_nil {policy : Policy} {browser : Browser} {h : History} {s : Session}
    (run : Run policy browser h s) {n : Nat} (hn : s.handlers ≤ n) : h.of n = [] := by
  obtain ⟨status, course, stands⟩ := run.exists_course n
  obtain rfl := stands.new_iff.2 hn
  generalize h.of n = l at course
  cases course
  rfl

/-! ## What a course can be -/

namespace Course

variable {policy : Policy} {l : History}

/-- Who waits for a check has only been started. -/
theorem eq_of_check {submission : Submission} {ticket : Ticket}
    (course : Course policy l (some (.waits (.check submission ticket)))) :
    submission.isEmpty = false ∧ ∃ n log, l = [⟨.start (.submit submission),
      ⟨n, log, .waits (.check submission ticket)⟩⟩] := by
  cases course with
  | turn course turn =>
    cases turn with
    | submitted _ full =>
      cases course
      exact ⟨full, _, _, rfl⟩

/-- Who waits for a reset has only been started. -/
theorem eq_of_reset (course : Course policy l (some (.waits .reset))) :
    ∃ n log, l = [⟨.start .reset, ⟨n, log, .waits .reset⟩⟩] := by
  cases course with
  | turn course turn =>
    cases turn
    cases course
    exact ⟨_, _, rfl⟩

/-- Who waits for a payment has only been started. -/
theorem eq_of_payment (course : Course policy l (some (.waits .payment))) :
    ∃ n log, l = [⟨.start .buy, ⟨n, log, .waits .payment⟩⟩] := by
  cases course with
  | turn course turn =>
    cases turn
    cases course
    exact ⟨_, _, rfl⟩

/-- Who waits for the quota has begun one refresh, just now. -/
theorem eq_of_stats {ticket : Ticket} (course : Course policy l (some (.waits (.stats ticket)))) :
    ∃ m l', l = m :: l' ∧ m.report.rest = .waits (.stats ticket) ∧
      ∀ e ∈ l', e.refreshes = false := by
  cases course with
  | turn course turn =>
    cases turn with
    | refreshing =>
      cases course
      exact ⟨_, _, rfl, rfl, by simp⟩
    | checked =>
      obtain ⟨-, n, log, rfl⟩ := course.eq_of_check
      exact ⟨_, _, rfl, rfl, by simp [Moment.refreshes, Report.made, Awaiting.call]⟩
    | restored =>
      obtain ⟨n, log, rfl⟩ := course.eq_of_reset
      exact ⟨_, _, rfl, rfl, by simp [Moment.refreshes, Report.made, Awaiting.call]⟩

/-- Nobody submits more than once. -/
theorem countP_submits_le {status : Option Rest} (course : Course policy l status) :
    l.countP Moment.submits ≤ 1 := by
  induction course with
  | idle => simp
  | turn course turn ih =>
    cases turn with
    | rejected | submitted | refreshing | resetting | buying =>
      cases course
      exact List.countP_le_length
    | checked | counted | restored | paid =>
      rwa [List.countP_cons_of_neg (by simp [Moment.submits, Moment.submission?])]

/-- Nobody begins more than one refresh. -/
theorem countP_refreshes_le {status : Option Rest} (course : Course policy l status) :
    l.countP Moment.refreshes ≤ 1 := by
  have of_tail : ∀ (m : Moment) {l' : History}, (∀ e ∈ l', e.refreshes = false) →
      List.countP Moment.refreshes (m :: l') ≤ 1 := by
    intro m l' hl'
    have h0 : l'.countP Moment.refreshes = 0 := List.countP_eq_zero.2 fun e he => by
      simp [hl' e he]
    rw [List.countP_cons, h0]
    split <;> omega
  cases course with
  | idle => simp
  | turn course turn =>
    cases turn with
    | rejected | submitted | refreshing | resetting | buying =>
      cases course
      exact of_tail _ (by simp)
    | checked =>
      obtain ⟨-, n, log, rfl⟩ := course.eq_of_check
      exact of_tail _ (by simp [Moment.refreshes, Report.made, Awaiting.call])
    | restored =>
      obtain ⟨n, log, rfl⟩ := course.eq_of_reset
      exact of_tail _ (by simp [Moment.refreshes, Report.made, Awaiting.call])
    | paid =>
      obtain ⟨n, log, rfl⟩ := course.eq_of_payment
      exact of_tail _ (by simp [Moment.refreshes, Report.made, Awaiting.call])
    | counted =>
      obtain ⟨m, l', rfl, -, hl'⟩ := course.eq_of_stats
      rw [List.countP_cons_of_neg (by simp [Moment.refreshes, Report.made])]
      exact of_tail _ hl'

/-- Who waits has not read the quota. -/
theorem findSome?_quota?_of_waits {a : Awaiting} (course : Course policy l (some (.waits a))) :
    l.findSome? Moment.quota? = none := by
  cases course with
  | turn course turn =>
    cases turn with
    | submitted | refreshing | resetting | buying =>
      cases course
      rfl
    | checked =>
      obtain ⟨-, n, log, rfl⟩ := course.eq_of_check
      rfl
    | restored =>
      obtain ⟨n, log, rfl⟩ := course.eq_of_reset
      rfl

/-- Who has submitted code waits for the check until it has its verdict, and no
longer. -/
theorem findSome?_verdict?_eq_none_iff {status : Option Rest} (course : Course policy l status)
    {m : Moment} (hm : m ∈ l) {submission : Submission}
    (hs : m.submission? = some submission) (full : submission.isEmpty = false) :
    l.findSome? Moment.verdict? = none ↔
      ∃ ticket, status = some (.waits (.check submission ticket)) := by
  induction course with
  | idle => simp at hm
  | turn course turn ih =>
    cases turn with
    | rejected _ empty =>
      cases course
      obtain rfl := List.mem_singleton.1 hm
      cases hs
      rw [empty] at full
      cases full
    | submitted =>
      cases course
      obtain rfl := List.mem_singleton.1 hm
      cases hs
      exact ⟨fun _ => ⟨_, rfl⟩, fun _ => rfl⟩
    | refreshing | resetting | buying =>
      cases course
      obtain rfl := List.mem_singleton.1 hm
      cases hs
    | checked => simp [Moment.verdict?]
    | counted =>
      rcases List.mem_cons.1 hm with rfl | hm
      · cases hs
      · simpa [Moment.verdict?] using ih hm
    | restored =>
      obtain ⟨n, log, rfl⟩ := course.eq_of_reset
      rcases List.mem_pair.1 hm with rfl | rfl <;> cases hs
    | paid =>
      obtain ⟨n, log, rfl⟩ := course.eq_of_payment
      rcases List.mem_pair.1 hm with rfl | rfl <;> cases hs

/-- **Whoever waited for anything but a payment has read the quota since**, once it
has ended, and began that refresh in the meantime if it was not waiting for it
already. -/
theorem exists_quota?_of_ended {outcome : Option Payment.Outcome}
    (course : Course policy l (some (.ended outcome))) {newer older : History} {m : Moment}
    (hl : l = newer ++ m :: older) {a : Awaiting} (hm : m.report.rest = .waits a)
    (ha : a ≠ .payment) :
    (∃ quota, newer.findSome? Moment.quota? = some quota) ∧
      ∃ e ∈ newer ++ [m], e.refreshes = true := by
  cases course with
  | turn course turn =>
    -- the latest moment has ended, so it is not the one that waited
    rcases List.cons_eq_append_iff.1 hl with ⟨rfl, h⟩ | ⟨newer, rfl, h⟩
    · obtain rfl : m = _ := (List.cons.inj h).1
      cases hm
    · cases turn with
      | rejected =>
        cases course
        simp at h
      | counted =>
        obtain ⟨e, l', rfl, hrest, -⟩ := course.eq_of_stats
        refine ⟨⟨_, rfl⟩, e, ?_, Moment.refreshes_iff.2 ⟨_, hrest⟩⟩
        rcases List.cons_eq_append_iff.1 h with ⟨rfl, h⟩ | ⟨newer, rfl, -⟩
        · obtain rfl := (List.cons.inj h).1
          simp
        · simp
      | paid =>
        obtain ⟨n, log, rfl⟩ := course.eq_of_payment
        rcases List.cons_eq_append_iff.1 h with ⟨rfl, h⟩ | ⟨newer, rfl, h⟩
        · obtain rfl := (List.cons.inj h).1
          cases hm
          exact absurd rfl ha
        · simp at h

end Course

/-- The handler of the latest submission waits for the check until it is settled. -/
theorem Run.waits_check_iff {policy : Policy} {browser : Browser} {h : History} {s : Session}
    (run : Run policy browser h s) {n : Nat} {submission : Submission}
    (latest : h.latestSubmission? = some (n, submission)) (full : submission.isEmpty = false) :
    (∃ ticket, s.Waits n (.check submission ticket)) ↔ h.answer? Moment.verdict? n = none := by
  obtain ⟨m, older, hsplit, hs, rfl⟩ := History.exists_of_latestSubmission? latest
  have hm : m ∈ h := by
    rw [hsplit]
    exact List.mem_append_right _ List.mem_cons_self
  obtain ⟨status, course, stands⟩ := run.exists_course m.report.handler
  rw [History.answer?, course.findSome?_verdict?_eq_none_iff (History.mem_of.2 ⟨hm, rfl⟩) hs full]
  exact exists_congr fun ticket => stands.waits_iff _

/-- Whoever is to take a turn has not read the quota. -/
theorem Run.answer?_quota?_of_ready {policy : Policy} {browser : Browser} {h : History}
    {s : Session} (run : Run policy browser h s) {n : Nat} {before : Option Awaiting}
    (ready : s.Ready n before) : h.answer? Moment.quota? n = none := by
  cases before with
  | none => rw [History.answer?, run.of_eq_nil (Nat.le_of_eq ready.symm), List.findSome?_nil]
  | some a =>
    obtain ⟨status, course, stands⟩ := run.exists_course n
    rw [(stands.waits_iff a).1 ready] at course
    exact course.findSome?_quota?_of_waits

/-- **When nothing is under way, whoever has waited for anything but a payment has
read the quota since.** -/
theorem Run.exists_quota?_of_quiet {policy : Policy} {browser : Browser} {newer older : History}
    {m : Moment} {s : Session} (run : Run policy browser (newer ++ m :: older) s)
    (quiet : s.pending = []) {a : Awaiting} (hm : m.report.rest = .waits a) (ha : a ≠ .payment) :
    (∃ quota, newer.answer? Moment.quota? m.report.handler = some quota) ∧
      ∃ e ∈ newer ++ [m], e.refreshes = true := by
  obtain ⟨status, course, stands⟩ := run.exists_course m.report.handler
  rw [History.of_append, History.of_cons_self] at course
  cases status with
  | none =>
    generalize hl : History.of newer m.report.handler ++ m :: _ = l at course
    cases course
    simp at hl
  | some rest =>
    cases rest with
    | waits a' =>
      obtain ⟨p, hp, -⟩ := (stands.waits_iff a').2 rfl
      rw [quiet] at hp
      cases hp
    | ended outcome =>
      obtain ⟨hquota, e, he, hrefresh⟩ := course.exists_quota?_of_ended rfl hm ha
      refine ⟨hquota, e, ?_, hrefresh⟩
      rw [List.mem_append] at he ⊢
      exact he.imp_left fun he => (History.mem_of.1 he).1

/-- Nobody waits for a check of nothing. -/
theorem Run.isEmpty_of_waits {policy : Policy} {browser : Browser} {h : History} {s : Session}
    (run : Run policy browser h s) {n : Nat} {submission : Submission} {ticket : Ticket}
    (waits : s.Waits n (.check submission ticket)) : submission.isEmpty = false := by
  obtain ⟨status, course, stands⟩ := run.exists_course n
  rw [(stands.waits_iff _).1 waits] at course
  exact course.eq_of_check.1

end MeteredChecker
