import MeteredChecker.Proofs.Session.Traffic

/-!
# Every handler ends, and has asked what it had to

A handler keeps to its script.  The calls that it has made and the calls that it has
still to make are together what its event asks for (`Course.calls_append_script`):
a check is followed by one refresh whatever became of it, and so is a reset; nothing
is tried again, and nothing is left out.

## Coming to rest

Each settlement takes one call away for good (`Handler.callsLeft_resume`), so how
many are left can be read off the calls under way (`Session.settlementsLeft`).
The number goes down by one with each settlement, whichever call is settled and with
whatever, and while it is not zero every call under way can be settled.  So it does
not matter in which order the service answers: a page on which nothing more is
started comes to rest after that many settlements, no more and no fewer
(`Run.length_add_settlementsLeft`, `Run.exists_rest`).  Then every handler has ended,
once, with its script behind it.
-/

namespace MeteredChecker

/-! ## Scripts -/

/-- The calls that a handler makes, first to last. -/
def Event.script : Event → List Call
  | .submit submission => if submission.isEmpty then [] else [.check submission, .stats]
  | .refresh => [.stats]
  | .reset => [.reset, .stats]
  | .buy => [.payment]

/-- The calls that a handler has still to make. -/
def Rest.script : Rest → List Call
  | .waits (.check _ _) | .waits .reset => [.stats]
  | .waits (.stats _) | .waits .payment | .ended _ => []

/-- The calls that were made, first to last. -/
def History.calls (h : History) : List Call := h.reverse.filterMap fun m => m.report.made

theorem History.calls_cons (m : Moment) (h : History) :
    History.calls (m :: h) = h.calls ++ m.report.made.toList := by
  rw [calls, List.reverse_cons, List.filterMap_append, calls]
  cases hm : m.report.made <;> simp [hm]

namespace Course

variable {policy : Policy} {l : History} {status : Option Rest}

/-- **A handler keeps to its script.** -/
theorem calls_append_script (course : Course policy l status) {rest : Rest}
    (hrest : status = some rest) {m : Moment} (hm : m ∈ l) {event : Event}
    (hstart : m.move = .start event) : l.calls ++ rest.script = event.script := by
  induction course generalizing rest with
  | idle => cases hrest
  | turn course turn ih =>
    obtain rfl := Option.some.inj hrest
    rw [History.calls_cons]
    rcases List.mem_cons.1 hm with rfl | hbefore
    · -- the handler starts: nothing was asked before
      cases turn with
      | rejected submission empty =>
        cases hstart
        cases course
        rw [Event.script, if_pos empty]
        rfl
      | submitted submission full =>
        cases hstart
        cases course
        rw [Event.script, full]
        rfl
      | refreshing | resetting | buying =>
        cases hstart
        cases course
        rfl
      | checked | counted | restored | paid => cases hstart
    · cases turn with
      | rejected | submitted | refreshing | resetting | buying =>
        cases course
        cases hbefore
      | checked | counted | restored | paid =>
        rw [← ih rfl hbefore]
        exact List.append_assoc ..

/-- A handler ends once, and then it has ended. -/
theorem countP_ends (course : Course policy l status) :
    l.countP Moment.ends = match status with
      | some (.ended _) => 1
      | _ => 0 := by
  induction course with
  | idle => rfl
  | @turn l before n move v v' b b' log rest course turn ih =>
    -- until this turn the handler was new or waited
    have hnone : l.countP Moment.ends = 0 := by
      rw [ih]
      cases before <;> rfl
    rw [List.countP_cons, hnone]
    cases rest <;> rfl

/-- A submission of nothing has ended where it began. -/
theorem eq_of_nothing (course : Course policy l status) {m : Moment} (hm : m ∈ l)
    {submission : Submission} (hstart : m.move = .start (.submit submission))
    (empty : submission.isEmpty = true) :
    l = [m] ∧ status = some (.ended none) ∧ m.report.rest = .ended none := by
  induction course with
  | idle => cases hm
  | turn course turn ih =>
    cases turn with
    | rejected =>
      cases course
      obtain rfl := List.mem_singleton.1 hm
      exact ⟨rfl, rfl, rfl⟩
    | submitted _ full =>
      cases course
      obtain rfl := List.mem_singleton.1 hm
      cases hstart
      rw [empty] at full
      cases full
    | refreshing | resetting | buying =>
      cases course
      obtain rfl := List.mem_singleton.1 hm
      cases hstart
    | checked | counted | restored | paid =>
      rcases List.mem_cons.1 hm with rfl | hbefore
      · cases hstart
      · cases (ih hbefore).2.1

end Course

/-! ## Settlements -/

namespace Session

variable {policy : Policy} {s : Session} {next : Session × Report}

/-- How many settlements it takes until nothing is under way. -/
def settlementsLeft (s : Session) : Nat :=
  2 * s.underWay .check + 2 * s.underWay .reset + s.underWay .stats + s.underWay .payment

theorem settlementsLeft_eq_zero_iff : s.settlementsLeft = 0 ↔ s.pending = [] := by
  simp only [settlementsLeft, underWay]
  cases s.pending with
  | nil => simp
  | cons p pending => cases h : p.awaiting <;> simp [h, Awaiting.call, Call.operation]

theorem settlementsLeft_absorb (s : Session) (n : Nat) (burst : Burst) :
    (s.absorb n burst).1.settlementsLeft = s.settlementsLeft + burst.rest.callsLeft := by
  simp only [settlementsLeft, underWay]
  cases hr : burst.rest with
  | ended outcome =>
    rw [absorb_pending_of_ended s n burst hr]
    rfl
  | waits a =>
    rw [absorb_pending_of_waits s n burst hr]
    simp only [List.countP_append, List.countP_singleton, Rest.callsLeft]
    cases a <;> simp [Awaiting.callsLeft, Awaiting.call, Call.operation] <;> omega

theorem Sound.settlementsLeft_drop (sound : s.Sound) {p : Pending} (hp : p ∈ s.pending) :
    (s.drop p.call).settlementsLeft + p.awaiting.callsLeft = s.settlementsLeft := by
  have hcheck := sound.underWay_drop hp .check
  have hreset := sound.underWay_drop hp .reset
  have hstats := sound.underWay_drop hp .stats
  have hpayment := sound.underWay_drop hp .payment
  rw [settlementsLeft, settlementsLeft]
  cases ha : p.awaiting <;>
    simp [ha, Awaiting.call, Call.operation] at hcheck hreset hstats hpayment <;>
    simp only [Awaiting.callsLeft] <;> omega

/-- **Each settlement brings the end nearer by one**, whichever call is settled and
with whatever. -/
theorem Sound.settlementsLeft_settle (sound : s.Sound) {move : Move}
    (step : s.step? policy move = some next) (settles : move.event? = none) :
    next.1.settlementsLeft + 1 = s.settlementsLeft := by
  cases move with
  | start event => cases settles
  | settle call reply =>
    obtain ⟨p, hp, rfl, burst, hburst, rfl⟩ := exists_of_settle? step
    have hresume := Handler.callsLeft_resume hburst
    have hdrop := sound.settlementsLeft_drop hp
    rw [settlementsLeft_absorb]
    omega

end Session

namespace Run

variable {policy : Policy} {browser : Browser} {h later : History} {s s' : Session}

/-- What has happened says where the page is. -/
theorem unique (run : Run policy browser h s) (run' : Run policy browser h s') : s = s' := by
  induction run generalizing s' with
  | opened =>
    cases run'
    rfl
  | @moved h s move next run step ih =>
    generalize hh : (⟨move, next.2⟩ : Moment) :: h = h' at run'
    cases run' with
    | opened => cases hh
    | @moved h₁ s₁ move₁ next₁ run₁ step₁ =>
      obtain ⟨hm, rfl⟩ := List.cons.inj hh
      obtain rfl : move = move₁ := congrArg Moment.move hm
      obtain rfl := ih run₁
      rw [step] at step₁
      rw [Option.some.inj step₁]

/-- **Nothing but settlements**: each of them takes one away from what is left. -/
theorem length_add_settlementsLeft (run : Run policy browser h s)
    (run' : Run policy browser (later ++ h) s') (settling : ∀ m ∈ later, m.move.event? = none) :
    later.length + s'.settlementsLeft = s.settlementsLeft := by
  induction later generalizing s' with
  | nil => rw [run.unique run', List.length_nil, Nat.zero_add]
  | cons m later ih =>
    cases run' with
    | @moved _ s₁ move next run₁ step =>
      obtain ⟨hm, hlater⟩ := List.forall_mem_cons.1 settling
      have hrest := ih run₁ hlater
      have hstep := run₁.sound.settlementsLeft_settle step hm
      rw [List.length_cons]
      omega

/-- **A page comes to rest** if no handler is started any more and the service
answers. -/
theorem exists_rest (run : Run policy browser h s) :
    ∃ later s', Run policy browser (later ++ h) s' ∧ (∀ m ∈ later, m.move.event? = none) ∧
      s'.pending = [] := by
  induction hleft : s.settlementsLeft generalizing h s with
  | zero => exact ⟨[], s, run, by simp, Session.settlementsLeft_eq_zero_iff.1 hleft⟩
  | succ k ih =>
    obtain ⟨p, hp⟩ : ∃ p, p ∈ s.pending := by
      refine List.exists_mem_of_ne_nil _ fun quiet => ?_
      rw [Session.settlementsLeft_eq_zero_iff.2 quiet] at hleft
      cases hleft
    obtain ⟨reply, hkind⟩ : ∃ reply : Reply, reply.operation = p.awaiting.call.operation :=
      ⟨_, Operation.operation_failed _ .emptyInput⟩
    obtain ⟨next, step⟩ := run.sound.exists_settle policy hp hkind
    have hstep := run.sound.settlementsLeft_settle step rfl
    obtain ⟨later, s', run', hlater, quiet⟩ := ih (run.moved step) (by omega)
    refine ⟨later ++ [⟨.settle p.call reply, next.2⟩], s', ?_, ?_, quiet⟩
    · rwa [List.append_assoc]
    · rw [List.forall_mem_append]
      exact ⟨hlater, by simp [Move.event?]⟩

/-- A submission of nothing ends where it begins, and its handler does nothing
else. -/
theorem of_eq_singleton_of_nothing (run : Run policy browser h s) {m : Moment} (hm : m ∈ h)
    {submission : Submission} (hstart : m.move = .start (.submit submission))
    (empty : submission.isEmpty = true) :
    m.report.finished = some (m.report.handler, none) ∧ h.of m.report.handler = [m] := by
  obtain ⟨status, course, -⟩ := run.exists_course m.report.handler
  obtain ⟨hof, -, hrest⟩ := course.eq_of_nothing (History.mem_of.2 ⟨hm, rfl⟩) hstart empty
  exact ⟨by rw [Report.finished, hrest], hof⟩

/-- **A handler that was started keeps to its script**, and once nothing is under way
it has ended, once, with the whole of it behind it. -/
theorem calls_of_start (run : Run policy browser h s) {m : Moment} (hm : m ∈ h) {event : Event}
    (hstart : m.move = .start event) :
    (h.of m.report.handler).calls <+: event.script ∧
      (s.pending = [] → (h.of m.report.handler).calls = event.script ∧
        (h.of m.report.handler).countP Moment.ends = 1) := by
  have hmem : m ∈ h.of m.report.handler := History.mem_of.2 ⟨hm, rfl⟩
  obtain ⟨status, course, stands⟩ := run.exists_course m.report.handler
  cases status with
  | none =>
    generalize h.of m.report.handler = l at course hmem
    cases course
    cases hmem
  | some rest =>
    have hscript := course.calls_append_script rfl hmem hstart
    refine ⟨⟨rest.script, hscript⟩, fun quiet => ?_⟩
    cases rest with
    | waits a =>
      obtain ⟨p, hp, -⟩ := (stands.waits_iff a).2 rfl
      rw [quiet] at hp
      cases hp
    | ended outcome => exact ⟨by simpa [Rest.script] using hscript, course.countP_ends⟩

end Run

/-- **Every call is accounted for**, under either policy and whatever the service
answers.

After every step the checks made are the submissions of code, the payments asked for
are the purchases, the resets asked for are the resets, and the quota was asked for
once by each refresh, once behind each check that was settled and once behind each
reset that was settled.  A submission of nothing ends at once and asks for nothing.
Every handler has made the calls of its script up to some place, and no others.

Every call under way can be settled, with any reply of its kind.  If nothing more is
started the page comes to rest, and it does so with the settlement whose number is
twice the checks and the resets under way and once the refreshes and the payments.
Then every handler has ended exactly once and has made all the calls of its script,
and the quota was asked for once for each refresh, each reset and each submission of
code. -/
theorem calls_are_accounted_for {policy : Policy} {browser : Browser} {h : History} {s : Session}
    (run : Run policy browser h s) :
    (h.countP (Moment.asks .check) = h.countP Moment.submitsCode ∧
      h.countP (Moment.asks .payment) = h.countP (Moment.starts .buy) ∧
      h.countP (Moment.asks .reset) = h.countP (Moment.starts .reset) ∧
      h.countP (Moment.asks .stats) = h.countP (Moment.starts .refresh) +
        h.countP (Moment.settles .check) + h.countP (Moment.settles .reset)) ∧
    (∀ m ∈ h, ∀ submission, m.move = .start (.submit submission) → submission.code = "" →
      m.report.finished = some (m.report.handler, none) ∧ h.of m.report.handler = [m]) ∧
    (∀ m ∈ h, ∀ event, m.move = .start event →
      (h.of m.report.handler).calls <+: event.script) ∧
    (∀ p ∈ s.pending, ∀ reply : Reply, reply.operation = p.awaiting.call.operation →
      ∃ next, s.step? policy (.settle p.call reply) = some next) ∧
    (∃ later s', Run policy browser (later ++ h) s' ∧ (∀ m ∈ later, m.move.event? = none) ∧
      s'.pending = []) ∧
    (∀ later s', Run policy browser (later ++ h) s' → (∀ m ∈ later, m.move.event? = none) →
      later.length ≤ 2 * s.underWay .check + 2 * s.underWay .reset +
        s.underWay .stats + s.underWay .payment ∧
      (s'.pending = [] ↔ later.length = 2 * s.underWay .check + 2 * s.underWay .reset +
        s.underWay .stats + s.underWay .payment)) ∧
    (s.pending = [] →
      (∀ m ∈ h, ∀ event, m.move = .start event →
        (h.of m.report.handler).countP Moment.ends = 1 ∧
        (h.of m.report.handler).calls = event.script) ∧
      h.countP (Moment.asks .stats) = h.countP (Moment.starts .refresh) +
        h.countP (Moment.starts .reset) + h.countP Moment.submitsCode) := by
  have hasks (operation : Operation) (P : Moment → Bool)
      (hP : ∀ m : Moment, m.report.made = m.move.made → m.asks operation = P m) :
      h.countP (Moment.asks operation) = h.countP P :=
    List.countP_congr fun m hm => by rw [hP m (run.made_eq m hm)]
  have hcheck := hasks .check Moment.submitsCode fun m hm => Moment.asks_eq hm .check
  have hpayment := hasks .payment (Moment.starts .buy) fun m hm => Moment.asks_eq hm .payment
  have hreset := hasks .reset (Moment.starts .reset) fun m hm => Moment.asks_eq hm .reset
  have hstats := History.countP_asks_stats run.made_eq
  refine ⟨⟨hcheck, hpayment, hreset, hstats⟩, fun m hm submission hstart hcode => ?_,
    fun m hm event hstart => (run.calls_of_start hm hstart).1,
    fun p hp reply hkind => run.sound.exists_settle policy hp hkind, run.exists_rest,
    fun later s' run' settling => ?_, fun quiet => ⟨fun m hm event hstart => ?_, ?_⟩⟩
  · exact run.of_eq_singleton_of_nothing hm hstart (Submission.isEmpty_iff.2 hcode)
  · have hleft := run.length_add_settlementsLeft run' settling
    rw [← Session.settlementsLeft_eq_zero_iff]
    rw [Session.settlementsLeft, Session.settlementsLeft] at *
    omega
  · obtain ⟨hcalls, hends⟩ := (run.calls_of_start hm hstart).2 quiet
    exact ⟨hends, hcalls⟩
  · -- no check and no reset is under way, so those that were asked for were settled
    have hunder (operation : Operation) : s.underWay operation = 0 := by
      rw [Session.underWay, quiet, List.countP_nil]
    have hchecks := run.countP_asks_eq .check
    have hresets := run.countP_asks_eq .reset
    rw [hunder] at hchecks hresets
    omega

/-- A submission of code, one of nothing, a reset and a purchase overlap; five
settlements later, in an order of the service's own, nothing is under way. -/
theorem five_settlements_to_rest :
    ∃ (later h : History) (s s' : Session), Run .apply (.new .willing) h s ∧
      h.map Moment.move =
        [.start .buy, .start .reset, .start (.submit (.ofRaw " ")), .start (.submit (.ofRaw "a"))] ∧
      Run .apply (.new .willing) (later ++ h) s' ∧
      later.map Moment.move =
        [.settle 4 (.stats (.ok ⟨5, 4⟩)), .settle 0 (.check (.error (.transport "down"))),
          .settle 3 (.stats (.error (.status 503))), .settle 2 (.payment (.error .emptyInput)),
          .settle 1 (.reset (.ok ()))] ∧
      s'.pending = [] := by
  have started : Run .apply (.new .willing) _ _ :=
    (((Run.opened.start (.submit (.ofRaw "a"))).start (.submit (.ofRaw " "))).start .reset).start .buy
  have paid := (started.settle 1 (.reset (.ok ())) rfl).settle 2 (.payment (.error .emptyInput)) rfl
  have checked := (paid.settle 3 (.stats (.error (.status 503))) rfl).settle 0
    (.check (.error (.transport "down"))) rfl
  have run := checked.settle 4 (.stats (.ok ⟨5, 4⟩)) rfl
  refine ⟨[_, _, _, _, _], _, _, _, started, rfl, run, rfl, ?_⟩
  obtain ⟨-, -, -, -, -, hlater, -⟩ := calls_are_accounted_for started
  exact (hlater [_, _, _, _, _] _ run (by simp [Move.event?])).2.2 rfl

end MeteredChecker
