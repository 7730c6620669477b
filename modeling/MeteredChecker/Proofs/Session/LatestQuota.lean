import MeteredChecker.Proofs.Session.Ticket

/-!
# Only the latest refresh counts

Three things write to the quota region: a submission blanks it when it is started,
a check that fails marks it as unavailable, and a refresh that comes back fills it.
Under the policy `discard`, and once nothing is under way, only the last word of
the latest refresh is left of all that --- unless a submission was started after
it, which leaves the region blank.

## What is true in between

While calls are under way the region may show many things.  What holds after every
step (`Run.stats_eq_latestStats`) is restricted to the moments at which the latest
refresh has come back: a failed check never gets in the way then, since it begins a
refresh in the same burst, and that one has not come back yet.

Once nothing is under way the restriction is void, because whoever has begun a
refresh has read the quota (`Run.exists_quota?_of_quiet`).
-/

namespace MeteredChecker

/-- What the latest refresh came to, if it came back since the latest submission. -/
def History.latestReading? (h : History) : Option (Except Failure Quota) :=
  h.latestRefresh?.bind fun n => h.sinceSubmission.answer? Moment.quota? n

/-- What the quota region has to show when the latest refresh has come back. -/
def History.latestStats (h : History) : QuotaRegion :=
  (h.latestReading?.map QuotaRegion.ofOutcome).getD .blank

/-- The latest refresh has come back, if there is one. -/
def History.Refreshed (h : History) : Prop :=
  ∀ n, h.latestRefresh? = some n → (h.answer? Moment.quota? n).isSome

section cons

variable {m : Moment} (h : History)

theorem History.latestReading?_cons_of_some {submission : Submission}
    (hm : m.submission? = some submission) : History.latestReading? (m :: h) = none := by
  rw [latestReading?, sinceSubmission_cons_of_some h hm]
  cases History.latestRefresh? (m :: h) <;> rfl

/-- A moment that neither submits nor begins a refresh matters only if the latest
refresh comes back in it. -/
theorem History.latestReading?_cons_of_none (hs : m.submission? = none)
    (hr : m.refreshes = false)
    (hq : m.quota? = none ∨ h.latestRefresh? ≠ some m.report.handler) :
    History.latestReading? (m :: h) = h.latestReading? := by
  rw [latestReading?, latestReading?, latestRefresh?_cons_of_false h hr,
    sinceSubmission_cons_of_none h hs]
  refine Option.bind_congr fun n hn => ?_
  rcases hq with hq | hq
  · exact answer?_cons_of_none _ hq n
  · refine answer?_cons_of_ne _ ?_
    rintro rfl
    exact hq hn

end cons

namespace Run

variable {browser : Browser} {h : History} {s : Session}

/-- **When the latest refresh has come back, the quota region shows what it came
to**, or nothing if a submission was started since. -/
theorem stats_eq_latestStats (run : Run .discard browser h s) (few : s.handlers < 2 ^ 64)
    (refreshed : h.Refreshed) : s.view.stats = h.latestStats := by
  induction run with
  | opened => rfl
  | @moved h s move next run step ih =>
    have few₀ := Nat.lt_of_le_of_lt (Session.step_of_step? step).handlers_le few
    obtain ⟨n, before, burst, ready, turn, hview, hreport⟩ :=
      (Session.step_of_step? step).exists_turn
    rw [hreport] at refreshed ⊢
    rw [hview]
    -- a refresh that has just begun cannot have come back
    have unread : h.answer? Moment.quota? n = none := run.answer?_quota?_of_ready ready
    cases turn with
    | rejected submission | submitted submission =>
      rw [History.latestStats, History.latestReading?_cons_of_some h rfl]
      rfl
    | refreshing | checked | restored =>
      have hsome := refreshed n (History.latestRefresh?_cons_of_true h rfl)
      rw [History.answer?_cons_of_none h rfl, unread] at hsome
      cases hsome
    | resetting | buying | paid =>
      rw [History.latestStats, History.latestReading?_cons_of_none h rfl rfl (.inl rfl)]
      refine ih few₀ fun n' hn' => ?_
      have hsome := refreshed n' (by rwa [History.latestRefresh?_cons_of_false h rfl])
      rwa [History.answer?_cons_of_none h rfl] at hsome
    | counted ticket call outcome =>
      rcases run.stats_latest_or_superseded few₀ ready with ⟨ht, hlatest⟩ | ⟨ht, n', hne, hlatest⟩
      · rw [View.takeQuota_of_current (View.isStale_discard_eq_false_iff.2 ht),
          View.showQuota_stats, History.latestStats, History.latestReading?,
          History.latestRefresh?_cons_of_false h rfl, hlatest,
          History.sinceSubmission_cons_of_none h rfl, Option.bind_some,
          History.answer?_cons_self]
        rfl
      · rw [View.takeQuota_of_stale (View.isStale_discard_iff.2 ht), History.latestStats,
          History.latestReading?_cons_of_none h rfl rfl (.inr (by simpa [hlatest] using hne))]
        refine ih few₀ fun k hk => ?_
        have hsome := refreshed k (by rwa [History.latestRefresh?_cons_of_false h rfl])
        obtain rfl : n' = k := Option.some.inj (hlatest.symm.trans hk)
        rwa [History.answer?_cons_of_ne h hne] at hsome

/-! ## When nothing is under way -/

/-- When nothing is under way the latest refresh has come back. -/
theorem refreshed_of_quiet (run : Run .discard browser h s) (quiet : s.pending = []) :
    h.Refreshed := by
  intro n hn
  obtain ⟨newer, m, older, rfl, hm, rfl⟩ := History.exists_of_latestRefresh? hn
  obtain ⟨ticket, hrest⟩ := Moment.refreshes_iff.1 hm
  obtain ⟨⟨outcome, hanswer⟩, -⟩ := run.exists_quota?_of_quiet quiet hrest (by simp)
  rw [History.answer?_append_of_some _ hanswer]
  rfl

/-- When nothing is under way and code was submitted last, the latest refresh has
come back since.

The submission's own handler has begun a refresh since, so the latest refresh is
not older than the submission. -/
theorem exists_latestReading?_of_quiet (run : Run .discard browser h s)
    (quiet : s.pending = []) {n : Nat} {submission : Submission}
    (latest : h.latestSubmission? = some (n, submission)) (full : submission.isEmpty = false) :
    ∃ outcome, h.latestReading? = some outcome := by
  obtain ⟨m, older, hsplit, hs, rfl⟩ := History.exists_of_latestSubmission? latest
  rw [History.latestReading?]
  generalize h.sinceSubmission = newer at hsplit ⊢
  subst hsplit
  obtain ⟨s₀, run₀⟩ := run.of_append
  obtain ⟨ticket, hrest⟩ := run₀.waits_of_submission? hs full
  -- the submission itself begins no refresh
  have hm : m.refreshes = false := by simp [Moment.refreshes, Report.made, Awaiting.call, hrest]
  obtain ⟨-, e, he, hrefresh⟩ := run.exists_quota?_of_quiet quiet hrest (by simp)
  have hmem : e ∈ newer := by
    rcases List.mem_append.1 he with he | he
    · exact he
    · obtain rfl := List.mem_singleton.1 he
      rw [hm] at hrefresh
      cases hrefresh
  obtain ⟨e', hfind⟩ := Option.isSome_iff_exists.1
    (List.find?_isSome.2 ⟨e, hmem, hrefresh⟩)
  obtain ⟨hrefresh', newer₁, older₁, rfl, -⟩ := List.find?_eq_some_iff_append.1 hfind
  obtain ⟨ticket', hrest'⟩ := Moment.refreshes_iff.1 hrefresh'
  rw [List.append_assoc] at run
  obtain ⟨⟨outcome, hanswer⟩, -⟩ := run.exists_quota?_of_quiet quiet hrest' (by simp)
  refine ⟨outcome, ?_⟩
  rw [History.latestRefresh?, List.find?_append, hfind]
  exact History.answer?_append_of_some _ hanswer

end Run

/-- **When nothing is under way the latest refresh alone decides on the quota
region**, if superseded answers are discarded.  The region is blank if the quota
was never asked for.  Otherwise the latest refresh has come back, and the region
shows what it came to, unless a submission was started since: then it is blank.
And if what was submitted last was code, it never is. -/
theorem stats_of_latest_refresh {browser : Browser} {h : History} {s : Session}
    (run : Run .discard browser h s) (few : s.handlers < 2 ^ 64) (quiet : s.pending = []) :
    (h.latestRefresh? = none → s.view.stats = .blank) ∧
    (∀ n, h.latestRefresh? = some n → ∃ outcome, h.answer? Moment.quota? n = some outcome ∧
      (h.sinceSubmission.answer? Moment.quota? n = some outcome ∧
          s.view.stats = QuotaRegion.ofOutcome outcome ∨
        h.sinceSubmission.answer? Moment.quota? n = none ∧ s.view.stats = .blank)) ∧
    (∀ n submission, h.latestSubmission? = some (n, submission) → submission.code ≠ "" →
      ∃ k outcome, h.latestRefresh? = some k ∧
        h.sinceSubmission.answer? Moment.quota? k = some outcome ∧
        s.view.stats = QuotaRegion.ofOutcome outcome) := by
  have refreshed := run.refreshed_of_quiet quiet
  have hstats := run.stats_eq_latestStats few refreshed
  rw [History.latestStats] at hstats
  refine ⟨fun hnone => ?_, fun n hn => ?_, fun n submission latest hcode => ?_⟩
  · rw [hstats, History.latestReading?, hnone]
    rfl
  · obtain ⟨outcome, hanswer⟩ := Option.isSome_iff_exists.1 (refreshed n hn)
    rw [History.latestReading?, hn, Option.bind_some] at hstats
    refine ⟨outcome, hanswer, ?_⟩
    cases hsince : h.sinceSubmission.answer? Moment.quota? n with
    | none =>
      rw [hsince] at hstats
      exact .inr ⟨rfl, hstats⟩
    | some outcome' =>
      rw [hsince] at hstats
      have heq := (History.answer?_of_sinceSubmission hsince).symm.trans hanswer
      exact .inl ⟨heq, hstats.trans (by rw [Option.some.inj heq]; rfl)⟩
  · have full : submission.isEmpty = false :=
      eq_false_of_ne_true fun empty => hcode (Submission.isEmpty_iff.1 empty)
    obtain ⟨outcome, hreading⟩ := run.exists_latestReading?_of_quiet quiet latest full
    rw [hreading] at hstats
    obtain ⟨k, hk, hanswer⟩ := Option.bind_eq_some_iff.1 hreading
    exact ⟨k, outcome, hk, hanswer, hstats⟩

/-- A refresh is overtaken by the one behind a submission, and what it came to is
not shown. -/
theorem overtaken_refresh_is_not_shown :
    ∃ (h : History) (s : Session), Run .discard (.new .willing) h s ∧
      h.map Moment.move =
        [.settle 0 (.stats (.ok ⟨5, 4⟩)), .settle 2 (.stats (.ok ⟨6, 3⟩)),
          .settle 1 (.check (.ok (.result "Valid"))), .start (.submit (.ofRaw "a")),
          .start .refresh] ∧
      s.handlers < 2 ^ 64 ∧ s.pending = [] ∧ s.view.stats = .summary ⟨6, 3⟩ := by
  have started : Run .discard (.new .willing) _ _ :=
    (Run.opened.start .refresh).start (.submit (.ofRaw "a"))
  have checked := started.settle 1 (.check (.ok (.result "Valid"))) rfl
  have run := (checked.settle 2 (.stats (.ok ⟨6, 3⟩)) rfl).settle 0 (.stats (.ok ⟨5, 4⟩)) rfl
  have few : 2 < 2 ^ 64 := by decide
  refine ⟨_, _, run, rfl, few, rfl, ?_⟩
  obtain ⟨k, outcome, hk, hanswer, hstats⟩ :=
    (stats_of_latest_refresh run few rfl).2.2 1 (.ofRaw "a") rfl (by decide)
  cases hk
  cases hanswer
  exact hstats

end MeteredChecker
