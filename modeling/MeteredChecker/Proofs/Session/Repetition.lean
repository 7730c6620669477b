import MeteredChecker.Page.Layout
import MeteredChecker.Proofs.Service.Enactment
import Mathlib.Logic.Function.Iterate

/-!
# Doing it again changes nothing

Refreshing twice shows what refreshing once shows, and a submission shows the same whatever was on
the page before, provided that the service says the same and that nothing comes in between.  On a
page the second is never quite what the first was: tickets have been taken, calls and handlers have
other numbers, and other calls may be under way all the time.  So this is a statement about what is
*seen*, `View.sight`, and it has to be shown that the rest does not come through.

## Answered at once

A handler whose calls are settled as soon as they are made is a fold over its replies
(`Handler.answered?`), in which there is no session.  What has to be said about the session is one
thing, once: the call that was made last can be settled, and what is under way then is what was
under way before it was made (`Session.step?_absorb`).  It follows that the others are not noticed,
and that they do not notice (`Session.exists_run?_answered`).

Within the fold the ticket that is compared is the one that was just taken, so the answer is shown
under either policy, and no bound on the number of tickets is needed.

## One function of what is seen

Behind such a handler, what is seen is a function of what was seen before (`Sight.refreshed`,
`Sight.submitted`), so behind a row of them it is an iterate of that function
(`Session.exists_promptly`).  Both functions are the same if applied twice, and the second keeps
nothing of what was there but the offer to pay.
-/

namespace MeteredChecker

/-! ## What is seen -/

/-- What is seen of a page: all of it but the tickets. -/
structure Sight where
  result : String
  stats : QuotaRegion
  payVisible : Bool

/-- What is seen of a page. -/
def View.sight (v : View) : Sight := ⟨v.result, v.stats, v.payVisible⟩

/-- **Tickets are not on the page**: what looks the same is the same page. -/
theorem View.checkerPage_eq_of_sight {v v' : View} (alike : v.sight = v'.sight)
    (config : Config) : Page.checkerPage config v = Page.checkerPage config v' := by
  obtain ⟨hresult, hstats, hpay⟩ := Sight.mk.inj alike
  simp only [Page.checkerPage, Page.resultPanel, Page.statsPanel, hresult, hstats, hpay]

/-- Whether paying is offered behind the outcome of a quota refresh. -/
def Quota.offers (before : Bool) : Except Failure Quota → Bool
  | .ok quota => quota.remaining == 0
  | .error _ => before

namespace Sight

/-- What is seen behind a quota refresh: of what was seen before, the quota is replaced. -/
def refreshed (quota : Except Failure Quota) (seen : Sight) : Sight :=
  ⟨seen.result, .ofOutcome quota, Quota.offers seen.payVisible quota⟩

/-- What is seen behind a submission and its refresh: of what was seen before, the offer to pay is
all that may be left. -/
def submitted (verdict : Except Failure Verdict) (quota : Except Failure Quota) (seen : Sight) :
    Sight :=
  ⟨Verdict.outcomeText verdict, .ofOutcome quota, Quota.offers seen.payVisible quota⟩

theorem refreshed_refreshed (quota : Except Failure Quota) (seen : Sight) :
    (seen.refreshed quota).refreshed quota = seen.refreshed quota := by
  cases quota <;> rfl

theorem submitted_submitted (verdict : Except Failure Verdict) (quota : Except Failure Quota)
    (seen : Sight) :
    (seen.submitted verdict quota).submitted verdict quota = seen.submitted verdict quota := by
  cases quota <;> rfl

/-- What is done again and again is done once if it is done twice without making a difference. -/
theorem iterate_eq_of_idem {f : Sight → Sight} (idem : ∀ seen, f (f seen) = f seen) (seen : Sight)
    {k : Nat} (hk : 1 ≤ k) : f^[k] seen = f seen := by
  obtain ⟨k, rfl⟩ := Nat.exists_eq_add_of_le' hk
  rw [Function.iterate_succ_apply]
  exact Function.iterate_fixed (idem seen) k

end Sight

theorem View.sight_showQuota (v : View) (quota : Except Failure Quota) :
    (v.showQuota quota).sight = v.sight.refreshed quota := by
  cases quota <;> rfl

theorem View.sight_showCheck (v : View) (verdict : Except Failure Verdict)
    (quota : Except Failure Quota) :
    ((v.beginCheck.showCheck verdict).sight).refreshed quota = v.sight.submitted verdict quota := by
  cases verdict <;> rfl

/-! ## Answered at once -/

namespace Handler

variable {policy : Policy}

/-- What a handler has come to when it has been given replies, one after the other. -/
def answered? (policy : Policy) : List Reply → Burst → Option Burst
  | [], burst => some burst
  | reply :: replies, burst =>
      match burst.rest with
      | .waits a => (resume? policy a reply burst.view burst.browser).bind (answered? policy replies)
      | .ended _ => none

/-- **An event that is answered at once acts on what is seen**: its handler ends, the browser is
left alone, and what is seen is a function of what was seen before. -/
def Shows (policy : Policy) (f : Sight → Sight) (event : Event) (replies : List Reply) : Prop :=
  ∀ v b, ∃ burst outcome, answered? policy replies (begin event v b) = some burst ∧
    burst.rest = .ended outcome ∧ burst.browser = b ∧ burst.view.sight = f v.sight

theorem shows_refresh (policy : Policy) (quota : Except Failure Quota) :
    Shows policy (Sight.refreshed quota) .refresh [.stats quota] := by
  intro v b
  refine ⟨⟨v.beginQuota.showQuota quota, b, statsNotes quota, .ended none⟩, none, ?_, rfl, rfl, ?_⟩
  · simp only [answered?, begin, beginRefresh, resume?,
      afterStats_of_current (View.isStale_self _ policy), Option.bind_some]
  · exact v.beginQuota.sight_showQuota quota

theorem shows_submit (policy : Policy) (verdict : Except Failure Verdict)
    (quota : Except Failure Quota) {submission : Submission} (full : submission.isEmpty = false) :
    Shows policy (Sight.submitted verdict quota) (.submit submission)
      [.check verdict, .stats quota] := by
  intro v b
  refine ⟨⟨(v.beginCheck.showCheck verdict).beginQuota.showQuota quota, b, statsNotes quota,
    .ended none⟩, none, ?_, rfl, rfl, ?_⟩
  · simp only [answered?, begin, beginSubmission, full, Bool.false_eq_true, if_false, resume?,
      afterCheck_of_current (View.isStale_self _ policy), beginRefresh,
      afterStats_of_current (View.isStale_self _ policy), Option.bind_some]
  · exact (View.sight_showQuota _ quota).trans (v.sight_showCheck verdict quota)

end Handler

namespace Session

variable {policy : Policy} {s : Session}

/-- **The call that was made last can be settled**, and then the calls under way are what they
were before it was made. -/
theorem step?_absorb (numbered : ∀ p ∈ s.pending, p.call < s.calls) {n : Nat}
    {burst burst' : Burst} {a : Awaiting} {reply : Reply} (waits : burst.rest = .waits a)
    (resumed : Handler.resume? policy a reply burst.view burst.browser = some burst') :
    (s.absorb n burst).1.step? policy (.settle s.calls reply) =
      some (absorb { s with view := burst.view, browser := burst.browser, calls := s.calls + 1 } n
        burst') := by
  have hfind : s.pending.find? (fun p => p.call == s.calls) = none :=
    List.find?_eq_none.2 fun p hp => by simpa using Nat.ne_of_lt (numbered p hp)
  have hfilter : s.pending.filter (fun p => p.call != s.calls) = s.pending :=
    List.filter_eq_self.2 fun p hp => by simpa using Nat.ne_of_lt (numbered p hp)
  have hmade : (s.absorb n burst).1 = { s with
      view := burst.view
      browser := burst.browser
      pending := s.pending ++ [⟨s.calls, n, a⟩]
      calls := s.calls + 1 } := by
    simp only [absorb, waits]
  simp [hmade, step?, settle?, pending?, hfind, resumed, drop, hfilter]

/-- A handler goes on from any of its bursts, being answered at once, and leaves the calls of the
others where they are. -/
theorem exists_run?_settlements (numbered : ∀ p ∈ s.pending, p.call < s.calls) {n : Nat}
    {burst burst' : Burst} {replies : List Reply} {outcome : Option Payment.Outcome}
    (answered : Handler.answered? policy replies burst = some burst')
    (ended : burst'.rest = .ended outcome) :
    ∃ trail, (s.absorb n burst).1.run? policy (settlements s.calls replies) = some trail ∧
      (s.absorb n burst).1.behind trail = { s with
        view := burst'.view
        browser := burst'.browser
        calls := s.calls + replies.length } := by
  induction replies generalizing s burst with
  | nil =>
    cases answered
    refine ⟨[], rfl, ?_⟩
    simp only [behind, absorb, ended]
    rfl
  | cons reply replies ih =>
    rw [Handler.answered?] at answered
    cases hrest : burst.rest with
    | ended outcome =>
      rw [hrest] at answered
      cases answered
    | waits a =>
      rw [hrest] at answered
      obtain ⟨next, resumed, answered⟩ := Option.bind_eq_some_iff.1 answered
      obtain ⟨trail, hrun, hbehind⟩ := ih (s := { s with
        view := burst.view, browser := burst.browser, calls := s.calls + 1 })
        (fun p hp => Nat.lt_succ_of_lt (numbered p hp)) answered
      refine ⟨_, run?_cons_iff.2 ⟨_, trail, step?_absorb numbered hrest resumed, hrun, rfl⟩, ?_⟩
      rw [behind_cons, hbehind, List.length_cons, Nat.add_right_comm, Nat.add_assoc]

/-- **A handler that is answered at once does on a busy page what it does by itself.** -/
theorem exists_run?_answered (numbered : ∀ p ∈ s.pending, p.call < s.calls) {event : Event}
    {replies : List Reply} {burst : Burst} {outcome : Option Payment.Outcome}
    (answered : Handler.answered? policy replies (Handler.begin event s.view s.browser) =
      some burst)
    (ended : burst.rest = .ended outcome) :
    ∃ trail, s.run? policy (.start event :: settlements s.calls replies) = some trail ∧
      s.behind trail = { s with
        view := burst.view
        browser := burst.browser
        calls := s.calls + replies.length
        handlers := s.handlers + 1 } := by
  obtain ⟨trail, hrun, hbehind⟩ :=
    exists_run?_settlements (s := { s with handlers := s.handlers + 1 }) (n := s.handlers)
      numbered answered ended
  exact ⟨_, run?_cons_iff.2 ⟨s.start event, trail, rfl, hrun, rfl⟩,
    (behind_cons ..).trans hbehind⟩

/-- Events are handled one after the other, the calls of each being settled with given replies as
soon as they are made; nothing else happens, and this is the page behind it. -/
def Promptly (policy : Policy) (s : Session) (answers : List (Event × List Reply))
    (s' : Session) : Prop :=
  ∃ trail, s.run? policy (promptMoves s.calls answers).flatten = some trail ∧ s.behind trail = s'

/-- An event that is answered at once may stand in front of a row. -/
theorem Promptly.cons {s₁ s' : Session} {event : Event} {replies : List Reply}
    {answers : List (Event × List Reply)} {trail : List (Session × Report)}
    (first : s.run? policy (.start event :: settlements s.calls replies) = some trail)
    (between : s.behind trail = s₁) (calls : s₁.calls = s.calls + replies.length)
    (later : s₁.Promptly policy answers s') :
    s.Promptly policy ((event, replies) :: answers) s' := by
  obtain ⟨trail', hrun, rfl⟩ := later
  subst between
  rw [calls] at hrun
  exact ⟨trail ++ trail', run?_append first hrun, behind_append s trail trail'⟩

/-- A row of events leaves on a page what the first of them leaves there, beside whatever is under
way: what is seen is the same, and so is what the page is made of. -/
structure Repeats (policy : Policy) (s : Session) (first : Event × List Reply)
    (more : List (Event × List Reply)) (once again : Session) : Prop where
  of_first : s.Promptly policy [first] once
  of_row : s.Promptly policy (first :: more) again
  sight : again.view.sight = once.view.sight
  page : ∀ config, Page.checkerPage config again.view = Page.checkerPage config once.view
  pending : again.pending = s.pending
  browser : again.browser = s.browser

/-- **A row of events that act on what is seen by the same function** acts by its iterate, beside
whatever is under way. -/
theorem exists_promptly (numbered : ∀ p ∈ s.pending, p.call < s.calls) {f : Sight → Sight}
    {answers : List (Event × List Reply)}
    (shows : ∀ answer ∈ answers, Handler.Shows policy f answer.1 answer.2) :
    ∃ s', s.Promptly policy answers s' ∧ s'.view.sight = f^[answers.length] s.view.sight ∧
      s'.pending = s.pending ∧ s'.browser = s.browser := by
  induction answers generalizing s with
  | nil => exact ⟨s, ⟨[], rfl, rfl⟩, rfl, rfl, rfl⟩
  | cons answer answers ih =>
    obtain ⟨hfirst, hlater⟩ := List.forall_mem_cons.1 shows
    obtain ⟨burst, outcome, answered, ended, hbrowser, hsight⟩ := hfirst s.view s.browser
    obtain ⟨trail, hrun, hbehind⟩ := exists_run?_answered numbered answered ended
    -- the first handler has ended, and the next is started on a page with the same calls under way
    obtain ⟨s', later, hsight', hpending', hbrowser'⟩ := ih (s := { s with
      view := burst.view
      browser := burst.browser
      calls := s.calls + answer.2.length
      handlers := s.handlers + 1 })
      (fun p hp => Nat.lt_add_right _ (numbered p hp)) hlater
    refine ⟨s', .cons hrun hbehind rfl later, ?_, hpending', hbrowser'.trans hbrowser⟩
    rw [hsight', hsight, List.length_cons, Function.iterate_succ_apply]

/-- **Where the function is the same if applied twice, one event is as good as a row of them.** -/
theorem exists_repeats (numbered : ∀ p ∈ s.pending, p.call < s.calls) {f : Sight → Sight}
    (idem : ∀ seen, f (f seen) = f seen) {first : Event × List Reply}
    {more : List (Event × List Reply)}
    (shows : ∀ answer ∈ first :: more, Handler.Shows policy f answer.1 answer.2) :
    ∃ once again, s.Repeats policy first more once again ∧
      once.view.sight = f s.view.sight := by
  obtain ⟨once, honce, hsight, -, -⟩ := exists_promptly numbered
    (List.forall_mem_singleton.2 (List.forall_mem_cons.1 shows).1)
  obtain ⟨again, hagain, hsight', hpending, hbrowser⟩ := exists_promptly numbered shows
  have hseen : again.view.sight = once.view.sight :=
    (hsight'.trans (Sight.iterate_eq_of_idem idem _ (Nat.le_add_left 1 more.length))).trans
      hsight.symm
  exact ⟨once, again, ⟨honce, hagain, hseen, View.checkerPage_eq_of_sight hseen, hpending,
    hbrowser⟩, hsight⟩

end Session

/-- **Doing it again is not seen**, on any page, under either policy, and whatever is under way.

However often the quota is refreshed in a row, if the service says the same about it every time then
the page is what it is behind the first: the result is as it was, there is the quota or that there
is none, and paying is offered if no calls are left, or if there is no quota and it was offered
before.

Code that is submitted and answered at once leaves its verdict and the quota on the page, or that
there is none, whatever was there before.  Only where there is no quota, paying is offered if it was
before.  So if any code is submitted behind it, the same or other, and the service says the same,
then the page stays what it is.

The calls under way and the browser are left alone all the time. -/
theorem repetition_is_not_seen {policy : Policy} {browser : Browser} {h : History} {s : Session}
    (run : Run policy browser h s) :
    (∀ (quota : Except Failure Quota) (k : Nat), ∃ once again,
      s.Repeats policy (.refresh, [.stats quota]) (List.replicate k (.refresh, [.stats quota]))
        once again ∧
      once.view.result = s.view.result ∧ once.view.stats = .ofOutcome quota ∧
      once.view.payVisible = Quota.offers s.view.payVisible quota) ∧
    ∀ (verdict : Except Failure Verdict) (quota : Except Failure Quota) (submission : Submission)
      (more : List Submission), (∀ x ∈ submission :: more, x.code ≠ "") → ∃ once again,
      s.Repeats policy (.submit submission, [.check verdict, .stats quota])
        (more.map fun x => (.submit x, [.check verdict, .stats quota])) once again ∧
      once.view.result = Verdict.outcomeText verdict ∧ once.view.stats = .ofOutcome quota ∧
      once.view.payVisible = Quota.offers s.view.payVisible quota := by
  have numbered := run.sound.call_lt
  refine ⟨fun quota k => ?_, fun verdict quota submission more full => ?_⟩
  · have shows : ∀ answer ∈ (Event.refresh, [Reply.stats quota]) ::
        List.replicate k (.refresh, [.stats quota]),
        Handler.Shows policy (Sight.refreshed quota) answer.1 answer.2 := by
      rw [← List.replicate_succ]
      intro answer hanswer
      cases List.eq_of_mem_replicate hanswer
      exact Handler.shows_refresh policy quota
    obtain ⟨once, again, repeats, hsight⟩ :=
      Session.exists_repeats numbered (Sight.refreshed_refreshed quota) shows
    obtain ⟨hresult, hstats, hpay⟩ := Sight.mk.inj hsight
    exact ⟨once, again, repeats, hresult, hstats, hpay⟩
  · have shows : ∀ answer ∈ (submission :: more).map fun x =>
        (Event.submit x, [Reply.check verdict, .stats quota]),
        Handler.Shows policy (Sight.submitted verdict quota) answer.1 answer.2 :=
      List.forall_mem_map.2 fun x hx => Handler.shows_submit policy verdict quota
        (eq_false_of_ne_true fun empty => full x hx (Submission.isEmpty_iff.1 empty))
    obtain ⟨once, again, repeats, hsight⟩ :=
      Session.exists_repeats numbered (Sight.submitted_submitted verdict quota) shows
    obtain ⟨hresult, hstats, hpay⟩ := Sight.mk.inj hsight
    exact ⟨once, again, repeats, hresult, hstats, hpay⟩

/-- A check is under way and no calls are left.  The quota is asked for four times and cannot be
told: paying is offered all the time.  If other code is submitted twice instead and there are calls
left, its verdict is on the page both times, and paying is not offered.  The first check is still
under way. -/
theorem asked_again_beside_check :
    ∃ (h : History) (s unknown stillUnknown valid stillValid : Session),
      Run .discard (.new .willing) h s ∧
      h.map Moment.move = [.settle 1 (.stats (.ok ⟨7, 0⟩)), .start .refresh,
        .start (.submit (.ofRaw "a"))] ∧
      (∀ x ∈ [Submission.ofRaw "b", .ofRaw "c"], x.code ≠ "") ∧ s.pending.length = 1 ∧
      s.Repeats .discard (.refresh, [.stats (.error (.status 503))])
        (List.replicate 3 (.refresh, [.stats (.error (.status 503))])) unknown stillUnknown ∧
      stillUnknown.view.sight = ⟨"", .unavailable, true⟩ ∧ stillUnknown.pending = s.pending ∧
      s.Repeats .discard
        (.submit (.ofRaw "b"), [.check (.ok (.result "Valid")), .stats (.ok ⟨8, 5⟩)])
        [(.submit (.ofRaw "c"), [.check (.ok (.result "Valid")), .stats (.ok ⟨8, 5⟩)])]
        valid stillValid ∧
      stillValid.view.sight = ⟨"Syntax Check Result: Valid", .summary ⟨8, 5⟩, false⟩ ∧
      stillValid.pending = s.pending := by
  have run : Run .discard (.new .willing) _ _ :=
    ((Run.opened.start (.submit (.ofRaw "a"))).start .refresh).settle 1 (.stats (.ok ⟨7, 0⟩)) rfl
  have full : ∀ x ∈ [Submission.ofRaw "b", .ofRaw "c"], x.code ≠ "" := by decide +kernel
  obtain ⟨hrefreshes, hsubmissions⟩ := repetition_is_not_seen run
  obtain ⟨unknown, stillUnknown, unknowns, hresult, hstats, hpay⟩ :=
    hrefreshes (.error (.status 503)) 3
  obtain ⟨valid, stillValid, valids, hresult', hstats', hpay'⟩ :=
    hsubmissions (.ok (.result "Valid")) (.ok ⟨8, 5⟩) (.ofRaw "b") [.ofRaw "c"] full
  refine ⟨_, _, unknown, stillUnknown, valid, stillValid, run, rfl, full, rfl, unknowns, ?_,
    unknowns.pending, valids, ?_, valids.pending⟩
  · rw [unknowns.sight, View.sight, hresult, hstats, hpay]
    rfl
  · rw [valids.sight, View.sight, hresult', hstats', hpay']
    rfl

end MeteredChecker
