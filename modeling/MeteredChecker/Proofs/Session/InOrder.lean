import MeteredChecker.Proofs.Session.Completion
import MeteredChecker.Proofs.Session.Superseded

/-!
# Where the policy does not show

The policy says what becomes of an answer that has been superseded.  Where none is, there
is nothing for it to say, and a page under one policy goes through the same as a page
under the other: the same behind every move, tickets and log included.

## In order

A history is *in order*, `History.InOrder`, if every check in it was settled while its
submission was the latest and every quota while its refresh was.  This is said of who
began when, as in the other specifications.  What the page compares is a ticket, and one
half of the comparison needs no bound on the number of handlers: the ticket of the latest
request is the counter, whether the counter has wrapped around or not
(`nth_eq_of_latest`).

The bound is needed for the converse, which is true as well.  Where something has been
superseded the policies differ at once: one of them logs that it has discarded it.  So
being in order is not only enough, it is all that the policy can be told by
(`policy_shows_iff_superseded`).

## One by one

If no handler is started before the others have ended then whoever waits was the last to
do anything (`Run.exists_cons_of_waits`), so nothing comes between a request and its
answer.
-/

namespace MeteredChecker

/-! ## In order -/

namespace History

/-- Every check was settled while its submission was the latest, and every quota refresh
while it was the latest. -/
def InOrder : History → Prop
  | [] => True
  | m :: older => InOrder older ∧
      (m.verdict?.isSome →
        (latestSubmission? older).map Prod.fst = some m.report.handler) ∧
      (m.quota?.isSome → latestRefresh? older = some m.report.handler)

/-- Every handler that was started has ended. -/
def AtRest (h : History) : Prop :=
  ∀ m ∈ h, ∃ e ∈ h, e.report.handler = m.report.handler ∧ e.ends = true

/-- Handlers were started only when all that had been started before had ended. -/
def OneByOne : History → Prop
  | [] => True
  | m :: older => OneByOne older ∧ (m.move.event?.isSome → AtRest older)

instance InOrder.decidable : (h : History) → Decidable h.InOrder
  | [] => .isTrue trivial
  | _ :: older =>
    have := InOrder.decidable older
    inferInstanceAs (Decidable (_ ∧ _ ∧ _))

instance OneByOne.decidable : (h : History) → Decidable h.OneByOne
  | [] => .isTrue trivial
  | _ :: older =>
    have := OneByOne.decidable older
    have : Decidable (AtRest older) := inferInstanceAs (Decidable (∀ _ ∈ _, ∃ _ ∈ _, _))
    inferInstanceAs (Decidable (_ ∧ _))

section Cons

variable {m : Moment} {older : History}

theorem inOrder_cons_of_neither (hcheck : m.verdict? = none) (hquota : m.quota? = none) :
    InOrder (m :: older) ↔ InOrder older := by
  simp [InOrder, hcheck, hquota]

theorem inOrder_cons_of_verdict {outcome : Except Failure Verdict}
    (hcheck : m.verdict? = some outcome) (hquota : m.quota? = none) :
    InOrder (m :: older) ↔ InOrder older ∧
      (latestSubmission? older).map Prod.fst = some m.report.handler := by
  simp [InOrder, hcheck, hquota]

theorem inOrder_cons_of_quota {outcome : Except Failure Quota}
    (hcheck : m.verdict? = none) (hquota : m.quota? = some outcome) :
    InOrder (m :: older) ↔ InOrder older ∧
      latestRefresh? older = some m.report.handler := by
  simp [InOrder, hcheck, hquota]

end Cons

theorem latestSubmission?_map_fst (h : History) :
    h.latestSubmission?.map Prod.fst =
      (h.find? Moment.submits).map fun m => m.report.handler := by
  rw [latestSubmission?]
  cases hfind : h.find? Moment.submits with
  | none => rfl
  | some m =>
    have hm : m.submits = true := List.find?_some hfind
    obtain ⟨submission, hs⟩ := Option.isSome_iff_exists.1 hm
    simp [hs]

end History

/-! ## What is not superseded is current -/

/-- The number of a request is the number of them all if the latest of them is of its
handler, and the handler has made no other. -/
theorem nth_eq_of_latest {P : Moment → Bool} {newer older : History} {m : Moment} {n : Nat}
    (hm : P m = true) (hnewer : ∀ e ∈ newer, e.report.handler ≠ n)
    (latest : ((newer ++ m :: older).find? P).map (fun m => m.report.handler) = some n) :
    Ticket.nth (older.countP P + 1) = .nth ((newer ++ m :: older).countP P) := by
  have hnone : newer.countP P = 0 := by
    rw [List.countP_eq_zero, ← List.find?_eq_none]
    rw [List.find?_append] at latest
    cases hfind : newer.find? P with
    | none => rfl
    | some e =>
      rw [hfind] at latest
      exact absurd (Option.some.inj latest) (hnewer e (List.mem_of_find?_eq_some hfind))
  rw [List.countP_append, List.countP_cons_of_pos hm, hnone, Nat.zero_add]

/-- An answer has not been superseded on a page: its ticket, if it has one, is the one
that was taken last. -/
def Awaiting.Current (v : View) : Awaiting → Prop
  | .check _ ticket => ticket = v.lastCheck
  | .stats ticket => ticket = v.lastQuota
  | .payment | .reset => True

/-- **The policy has no say in what has not been superseded.** -/
theorem Handler.resume?_eq_of_current {a : Awaiting} {v : View} (current : a.Current v)
    (policy policy' : Policy) (reply : Reply) (b : Browser) :
    resume? policy a reply v b = resume? policy' a reply v b := by
  cases a with
  | check submission ticket =>
    obtain rfl : ticket = v.lastCheck := current
    cases reply <;> simp only [resume?, afterCheck_of_current (View.isStale_self _ _)]
  | stats ticket =>
    obtain rfl : ticket = v.lastQuota := current
    cases reply <;> simp only [resume?, afterStats_of_current (View.isStale_self _ _)]
  | payment | reset => cases reply <;> rfl

namespace Run

variable {policy : Policy} {browser : Browser} {h : History} {s : Session} {n : Nat}
  {ticket : Ticket}

theorem lastCheck_of_latest (run : Run policy browser h s) {submission : Submission}
    (waits : s.Waits n (.check submission ticket))
    (latest : h.latestSubmission?.map Prod.fst = some n) : ticket = s.view.lastCheck := by
  obtain ⟨newer, m, older, rfl, hmove, rfl, hnewer, rfl⟩ := run.exists_submission_of_waits waits
  have hm : m.submits = true := by simp [Moment.submits, Moment.submission?, hmove]
  rw [History.latestSubmission?_map_fst] at latest
  rw [run.lastCheck_eq]
  exact nth_eq_of_latest hm hnewer latest

theorem lastQuota_of_latest (run : Run policy browser h s) (waits : s.Waits n (.stats ticket))
    (latest : h.latestRefresh? = some n) : ticket = s.view.lastQuota := by
  obtain ⟨newer, m, older, rfl, hm, rfl, hnewer, rfl⟩ := run.exists_refresh_of_waits waits
  rw [run.lastQuota_eq]
  exact nth_eq_of_latest hm hnewer latest

/-- **One move in order** is the same under any policy. -/
theorem step?_of_inOrder (run : Run policy browser h s) {move : Move} {next : Session × Report}
    (step : s.step? policy move = some next) (ordered : History.InOrder (⟨move, next.2⟩ :: h))
    (policy' : Policy) : s.step? policy' move = some next := by
  cases move with
  | start event => exact step
  | settle call reply =>
    obtain ⟨p, mem, rfl, burst, hburst, rfl⟩ := Session.exists_of_settle? step
    obtain ⟨-, hcheck, hquota⟩ := ordered
    rw [Session.absorb_report] at hcheck hquota
    have current : p.awaiting.Current s.view := by
      have waits : s.Waits p.handler p.awaiting := ⟨p, mem, rfl, rfl⟩
      cases ha : p.awaiting with
      | check submission ticket =>
        rw [ha] at waits hburst
        cases reply <;> cases hburst
        exact run.lastCheck_of_latest waits (hcheck rfl)
      | stats ticket =>
        rw [ha] at waits hburst
        cases reply <;> cases hburst
        exact run.lastQuota_of_latest waits (hquota rfl)
      | payment | reset => trivial
    rw [Handler.resume?_eq_of_current current policy policy'] at hburst
    exact run.sound.settle?_eq mem hburst

/-! ## Runs under either policy -/

/-- Made one after the other, the moves of a history that is in order lead to the same
under any policy. -/
theorem run?_eq_of_inOrder (run : Run policy browser h s) (ordered : h.InOrder)
    (policy' : Policy) :
    (Session.new browser).run? policy' (h.reverse.map Moment.move) =
      (Session.new browser).run? policy (h.reverse.map Moment.move) := by
  induction run with
  | opened => rfl
  | @moved h s move next run step ih =>
    obtain ⟨trail, htrail, -, rfl⟩ := run_iff_run?.1 run
    have step' := run.step?_of_inOrder step ordered policy'
    rw [List.reverse_cons, List.map_append, List.map_singleton, Session.run?_concat,
      Session.run?_concat, ih ordered.1, htrail, Option.bind_some, Option.bind_some, step, step']

/-- A move that is the same under either policy is in order: what has been superseded is
discarded under one of them, and the log says so. -/
theorem inOrder_of_step? (run : Run policy browser h s) (few : s.handlers < 2 ^ 64)
    (ordered : h.InOrder) {move : Move} {next : Session × Report}
    (step : ∀ policy', s.step? policy' move = some next) :
    History.InOrder (⟨move, next.2⟩ :: h) := by
  have apply := step .apply
  have discard := step .discard
  cases move with
  | start event => exact (History.inOrder_cons_of_neither rfl rfl).2 ordered
  | settle call reply =>
    cases reply with
    | payment outcome | reset outcome =>
      exact (History.inOrder_cons_of_neither rfl rfl).2 ordered
    | check outcome =>
      obtain ⟨_, _, -, -, -, shown⟩ := Session.exists_of_settle_check apply
      obtain ⟨submission, ticket, mem, -, -, discarded⟩ := Session.exists_of_settle_check discard
      rw [shown] at discarded
      refine (History.inOrder_cons_of_verdict rfl rfl).2 ⟨ordered, ?_⟩
      rcases run.check_latest_or_superseded few ⟨_, mem, rfl, rfl⟩ with
        ⟨-, latest⟩ | ⟨superseded, -⟩
      · rw [latest]
        rfl
      · rw [if_pos (View.isStale_discard_iff.2 superseded)] at discarded
        cases discarded
    | stats outcome =>
      obtain ⟨_, -, -, shown⟩ := Session.exists_of_settle_stats apply
      obtain ⟨ticket, mem, -, discarded⟩ := Session.exists_of_settle_stats discard
      rw [shown] at discarded
      refine (History.inOrder_cons_of_quota rfl rfl).2 ⟨ordered, ?_⟩
      rcases run.stats_latest_or_superseded few ⟨_, mem, rfl, rfl⟩ with
        ⟨-, latest⟩ | ⟨superseded, -⟩
      · exact latest
      · rw [if_pos (View.isStale_discard_iff.2 superseded)] at discarded
        cases discarded

/-- A history that the same moves leave under any policy is in order. -/
theorem inOrder_of_run? (run : Run policy browser h s) (few : s.handlers < 2 ^ 64)
    {trail : List (Session × Report)}
    (alike : ∀ policy', (Session.new browser).run? policy' (h.reverse.map Moment.move) =
      some trail) : h.InOrder := by
  induction run generalizing trail with
  | opened => trivial
  | @moved h s move next run step ih =>
    obtain ⟨earlier, hearlier, -, rfl⟩ := run_iff_run?.1 run
    simp only [List.reverse_cons, List.map_append, List.map_singleton, Session.run?_concat,
      Option.bind_eq_some_iff, Option.map_eq_some_iff] at alike
    have few' := Nat.lt_of_le_of_lt (Session.step_of_step? step).handlers_le few
    -- the trails without their last members are the same as well
    have hbefore (policy' : Policy) :
        (Session.new browser).run? policy' (h.reverse.map Moment.move) = some earlier ∧
          ((Session.new browser).behind earlier).step? policy' move = some next := by
      obtain ⟨trail₀, hrun, next₀, hstep, htrail⟩ := alike policy
      obtain rfl := Option.some.inj (hearlier.symm.trans hrun)
      obtain rfl := Option.some.inj (step.symm.trans hstep)
      obtain ⟨trail', hrun', next', hstep', htrail'⟩ := alike policy'
      obtain ⟨rfl, hlast⟩ := List.append_inj' (htrail'.trans htrail.symm) rfl
      obtain rfl := List.singleton_inj.1 hlast
      exact ⟨hrun', hstep'⟩
    exact run.inOrder_of_step? few' (ih few' fun policy' => (hbefore policy').1)
      fun policy' => (hbefore policy').2

/-! ## One by one -/

/-- A page at rest has nothing under way. -/
theorem pending_eq_nil_of_atRest (run : Run policy browser h s) (rest : h.AtRest) :
    s.pending = [] := by
  refine List.eq_nil_iff_forall_not_mem.2 fun p hp => ?_
  obtain ⟨status, course, stands⟩ := run.exists_course p.handler
  rw [(stands.waits_iff _).1 ⟨p, hp, rfl, rfl⟩] at course
  obtain ⟨m, hm⟩ : ∃ m, m ∈ h.of p.handler := by
    generalize h.of p.handler = l at course
    cases course
    exact ⟨_, List.mem_cons_self⟩
  obtain ⟨hmem, hn⟩ := History.mem_of.1 hm
  obtain ⟨e, he, hhandler, hends⟩ := rest m hmem
  -- a handler that waits has not ended
  have hnone := course.countP_ends
  exact List.countP_eq_zero.1 hnone e (History.mem_of.2 ⟨he, hhandler.trans hn⟩) hends

/-- **Whoever waits was the last to do anything**, where handlers are started one by
one. -/
theorem exists_cons_of_waits (run : Run policy browser h s) (single : h.OneByOne) {n : Nat}
    {a : Awaiting} (waits : s.Waits n a) :
    ∃ m older, h = m :: older ∧ m.report.handler = n := by
  induction run generalizing n a with
  | opened =>
    obtain ⟨p, hp, -⟩ := waits
    cases hp
  | @moved h s move next run step ih =>
    refine ⟨_, _, rfl, ?_⟩
    obtain ⟨single, rest⟩ := single
    cases Session.step_of_step? step with
    | @start event burst turn =>
      rw [Session.absorb_report]
      rcases (Session.waits_absorb ..).1 waits with ⟨p, hp, -⟩ | ⟨rfl, -⟩
      · rw [run.pending_eq_nil_of_atRest (rest rfl)] at hp
        cases hp
      · rfl
    | @settle p reply burst mem turn =>
      rw [Session.absorb_report]
      rcases (Session.waits_absorb ..).1 waits with hother | ⟨rfl, -⟩
      · -- two handlers wait, and both were the last to do anything
        obtain ⟨hne, hwaits⟩ := (run.sound.waits_drop mem n a).1 hother
        obtain ⟨m, older, rfl, rfl⟩ := ih single hwaits
        obtain ⟨m', older', hcons, hhandler⟩ := ih single ⟨p, mem, rfl, rfl⟩
        obtain ⟨rfl, rfl⟩ := List.cons.inj hcons
        exact absurd hhandler hne
      · rfl

/-- Where handlers are started one by one, nothing has come since whoever waits asked. -/
theorem newer_eq_nil {newer older : History} {m : Moment}
    (run : Run policy browser (newer ++ m :: older) s)
    (single : History.OneByOne (newer ++ m :: older)) {a : Awaiting} (waits : s.Waits n a)
    (hnewer : ∀ e ∈ newer, e.report.handler ≠ n) : newer = [] := by
  obtain ⟨e, others, hsplit, hhandler⟩ := run.exists_cons_of_waits single waits
  cases newer with
  | nil => rfl
  | cons e' newer =>
    obtain rfl := (List.cons.inj hsplit).1
    exact absurd hhandler (hnewer _ List.mem_cons_self)

/-- What is settled has not been superseded, where handlers are started one by one. -/
theorem inOrder_of_oneByOne (run : Run policy browser h s) (single : h.OneByOne) :
    h.InOrder := by
  induction run with
  | opened => trivial
  | @moved h s move next run step ih =>
    obtain ⟨single, -⟩ := single
    have ordered := ih single
    cases move with
    | start event => exact (History.inOrder_cons_of_neither rfl rfl).2 ordered
    | settle call reply =>
      cases reply with
      | payment outcome | reset outcome =>
        exact (History.inOrder_cons_of_neither rfl rfl).2 ordered
      | check outcome =>
        obtain ⟨submission, ticket, mem, -⟩ := Session.exists_of_settle_check step
        have waits : s.Waits next.2.handler (.check submission ticket) := ⟨_, mem, rfl, rfl⟩
        obtain ⟨newer, m, older, rfl, hmove, hn, hnewer, -⟩ := run.exists_submission_of_waits waits
        obtain rfl := run.newer_eq_nil single waits hnewer
        have hm : m.submission? = some submission := by simp [Moment.submission?, hmove]
        refine (History.inOrder_cons_of_verdict rfl rfl).2 ⟨ordered, ?_⟩
        rw [List.nil_append, History.latestSubmission?_cons_of_some _ hm, hn]
        rfl
      | stats outcome =>
        obtain ⟨ticket, mem, -⟩ := Session.exists_of_settle_stats step
        have waits : s.Waits next.2.handler (.stats ticket) := ⟨_, mem, rfl, rfl⟩
        obtain ⟨newer, m, older, rfl, hm, hn, hnewer, -⟩ := run.exists_refresh_of_waits waits
        obtain rfl := run.newer_eq_nil single waits hnewer
        refine (History.inOrder_cons_of_quota rfl rfl).2 ⟨ordered, ?_⟩
        rw [List.nil_append, History.latestRefresh?_cons_of_true _ hm, hn]

end Run

/-- **The policy shows exactly where something has been superseded.**

Make the moves of a run under the other policy.  If every check was settled while its
submission was the latest and every quota refresh while it was the latest, the moves are
allowed, and behind each of them everything is as it was: the view with its tickets, the
browser with its messages and its location, the calls under way, the call that was made,
what was logged, and how the handler ended.  If not, something differs.

Handlers that are started one by one, each when the others have ended, are settled in
order. -/
theorem policy_shows_iff_superseded {policy : Policy} {browser : Browser} {h : History}
    {s : Session} (run : Run policy browser h s) (few : s.handlers < 2 ^ 64) :
    ∃ trail, (Session.new browser).run? policy (h.reverse.map Moment.move) = some trail ∧
      trail.map Prod.snd = h.reverse.map Moment.report ∧
      (h.InOrder ↔ ∀ policy', (Session.new browser).run? policy' (h.reverse.map Moment.move) =
        some trail) ∧
      (h.OneByOne → h.InOrder) := by
  obtain ⟨trail, htrail, hreports, -⟩ := run_iff_run?.1 run
  exact ⟨trail, htrail, hreports,
    ⟨fun ordered policy' => (run.run?_eq_of_inOrder ordered policy').trans htrail,
      run.inOrder_of_run? few⟩, run.inOrder_of_oneByOne⟩

/-- A second submission is started before the first has ended, and a purchase overlaps
both.  What is settled is always the latest of its kind, so the policy does not show. -/
theorem overlapping_but_in_order :
    ∃ (h : History) (s : Session) (trail : List (Session × Report)),
      Run .discard (.new .willing) h s ∧
      h.map Moment.move = [.settle 4 (.stats (.ok ⟨7, 0⟩)), .settle 1 (.payment (.error .emptyInput)),
        .settle 3 (.check (.error (.transport "down"))), .settle 2 (.stats (.ok ⟨6, 1⟩)),
        .start (.submit (.ofRaw "b")), .settle 0 (.check (.ok (.result "Valid"))), .start .buy,
        .start (.submit (.ofRaw "a"))] ∧
      s.handlers < 2 ^ 64 ∧ h.InOrder ∧ ¬ h.OneByOne ∧
      ∀ policy', (Session.new (.new .willing)).run? policy' (h.reverse.map Moment.move) =
        some trail := by
  have first : Run .discard (.new .willing) _ _ :=
    ((Run.opened.start (.submit (.ofRaw "a"))).start .buy).settle 0 (.check (.ok (.result "Valid"))) rfl
  have second := ((first.start (.submit (.ofRaw "b"))).settle 2 (.stats (.ok ⟨6, 1⟩)) rfl).settle 3
    (.check (.error (.transport "down"))) rfl
  have run := (second.settle 1 (.payment (.error .emptyInput)) rfl).settle 4 (.stats (.ok ⟨7, 0⟩)) rfl
  have few : 3 < 2 ^ 64 := by decide
  obtain ⟨trail, -, -, hiff, -⟩ := policy_shows_iff_superseded run few
  exact ⟨_, _, trail, run, rfl, few, by decide, by decide, hiff.1 (by decide)⟩

end MeteredChecker
