import MeteredChecker.Proofs.Session.Course

/-!
# What is asked

Failures, discarded answers and a quota that is used up change what the page shows.
None of them changes what the service is asked.  A move makes a call or makes none,
and which of the two depends on the move alone (`Handler.Turn.made_eq`): not on the
page, not on the policy, and of a reply only on its kind.  So the calls that were
made are counted by looking at the moves (`Moment.asks_eq`,
`History.countP_asks_stats`).

And nothing is lost between the page and the service: of every kind, the calls made
are the calls settled and the calls under way (`Run.countP_asks_eq`).
-/

namespace MeteredChecker

/-! ## Kinds of calls -/

/-- What a call is for. -/
def Call.operation : Call → Operation
  | .check _ => .check
  | .stats => .stats
  | .payment => .payment
  | .reset => .reset

/-- What a reply is an answer to. -/
def Reply.operation : Reply → Operation
  | .check _ => .check
  | .stats _ => .stats
  | .payment _ => .payment
  | .reset _ => .reset

/-- The reply to a call that has failed. -/
def Operation.failed : Operation → Failure → Reply
  | .check, e => .check (.error e)
  | .stats, e => .stats (.error e)
  | .payment, e => .payment (.error e)
  | .reset, e => .reset (.error e)

theorem Operation.operation_failed (operation : Operation) (e : Failure) :
    (operation.failed e).operation = operation := by
  cases operation <;> rfl

/-- The call that a move makes. -/
def Move.made : Move → Option Call
  | .start (.submit submission) => if submission.isEmpty then none else some (.check submission)
  | .start .refresh => some .stats
  | .start .reset => some .reset
  | .start .buy => some .payment
  | .settle _ (.check _) | .settle _ (.reset _) => some .stats
  | .settle _ (.stats _) | .settle _ (.payment _) => none

/-- The event that a move starts a handler for. -/
def Move.event? : Move → Option Event
  | .start event => some event
  | .settle _ _ => none

/-- **What is asked depends on the move alone.** -/
theorem Handler.Turn.made_eq {policy : Policy} {v : View} {b : Browser}
    {before : Option Awaiting} {move : Move} {burst : Burst}
    (turn : Turn policy v b before move burst) (n : Nat) :
    Report.made ⟨n, burst.log, burst.rest⟩ = move.made := by
  cases turn with
  | rejected _ empty => rw [Move.made, if_pos empty]; rfl
  | submitted _ full => rw [Move.made, full]; rfl
  | refreshing | resetting | buying | checked | counted | restored | paid => rfl

/-- A call takes replies of its own kind only. -/
theorem Handler.Turn.operation_eq {policy : Policy} {v : View} {b : Browser} {a : Awaiting}
    {call : Nat} {reply : Reply} {burst : Burst}
    (turn : Turn policy v b (some a) (.settle call reply) burst) :
    reply.operation = a.call.operation := by
  cases turn <;> rfl

theorem Session.Step.made_eq {policy : Policy} {s : Session} {move : Move}
    {next : Session × Report} (step : Step policy s move next) : next.2.made = move.made := by
  obtain ⟨n, before, burst, -, turn, -, hreport⟩ := step.exists_turn
  rw [hreport]
  exact turn.made_eq n

/-! ## Counting -/

namespace Moment

/-- A call of a kind was made. -/
def asks (operation : Operation) (m : Moment) : Bool :=
  m.report.made.any fun call => call.operation == operation

/-- A call of a kind was settled. -/
def settles (operation : Operation) (m : Moment) : Bool :=
  match m.move with
  | .settle _ reply => reply.operation == operation
  | .start _ => false

/-- A handler was started for an event. -/
def starts (event : Event) (m : Moment) : Bool := m.move.event? == some event

/-- Code was submitted. -/
def submitsCode (m : Moment) : Bool := m.submission?.any fun submission => !submission.isEmpty

/-- A handler ended. -/
def ends (m : Moment) : Bool := m.report.finished.isSome

variable {m : Moment}

/-- Who asks for what. -/
theorem asks_eq (hm : m.report.made = m.move.made) (operation : Operation) :
    m.asks operation = match operation with
      | .check => m.submitsCode
      | .payment => m.starts .buy
      | .reset => m.starts .reset
      | .stats => m.starts .refresh || m.settles .check || m.settles .reset := by
  simp only [asks, hm, submitsCode, submission?, starts, settles]
  cases m.move with
  | start event =>
    cases event with
    | submit submission =>
      cases h : submission.isEmpty <;> cases operation <;>
        simp [Move.made, Move.event?, Call.operation, h]
    | refresh | reset | buy => cases operation <;> rfl
  | settle call reply => cases reply <;> cases operation <;> rfl

/-- The three ways in which the quota comes to be asked for exclude one another. -/
theorem asks_stats_eq_add (hm : m.report.made = m.move.made) :
    (if m.asks .stats then 1 else 0) = (if m.starts .refresh then 1 else 0) +
      (if m.settles .check then 1 else 0) + if m.settles .reset then 1 else 0 := by
  obtain ⟨move, report⟩ := m
  rw [asks_eq hm]
  cases move with
  | start event => cases event <;> rfl
  | settle call reply => cases reply <;> rfl

end Moment

/-- The quota is asked for by refreshes, behind checks and behind resets. -/
theorem History.countP_asks_stats {l : History} (hl : ∀ m ∈ l, m.report.made = m.move.made) :
    l.countP (Moment.asks .stats) = l.countP (Moment.starts .refresh) +
      l.countP (Moment.settles .check) + l.countP (Moment.settles .reset) := by
  induction l with
  | nil => rfl
  | cons m l ih =>
    have hm := Moment.asks_stats_eq_add (hl m List.mem_cons_self)
    have hrest := ih fun e he => hl e (List.mem_cons_of_mem _ he)
    simp only [List.countP_cons]
    omega

theorem Run.made_eq {policy : Policy} {browser : Browser} {h : History} {s : Session}
    (run : Run policy browser h s) : ∀ m ∈ h, m.report.made = m.move.made := by
  induction run with
  | opened => simp
  | @moved h s move next run step ih =>
    exact List.forall_mem_cons.2 ⟨(Session.step_of_step? step).made_eq, ih⟩

/-! ## Under way -/

namespace Session

variable {policy : Policy} {s : Session} {move : Move} {next : Session × Report}

/-- How many calls of a kind are under way. -/
def underWay (s : Session) (operation : Operation) : Nat :=
  s.pending.countP fun p => p.awaiting.call.operation == operation

theorem underWay_absorb (n : Nat) (burst : Burst) (move : Move) (operation : Operation) :
    (s.absorb n burst).1.underWay operation = s.underWay operation +
      if Moment.asks operation ⟨move, ⟨n, burst.log, burst.rest⟩⟩ then 1 else 0 := by
  rw [underWay, underWay, Moment.asks]
  cases hr : burst.rest with
  | ended outcome => simp [absorb_pending_of_ended s n burst hr, Report.made]
  | waits a => simp [absorb_pending_of_waits s n burst hr, Report.made, List.countP_singleton]

theorem Sound.underWay_drop (sound : s.Sound) {p : Pending} (hp : p ∈ s.pending)
    (operation : Operation) :
    (s.drop p.call).underWay operation +
      (if p.awaiting.call.operation == operation then 1 else 0) = s.underWay operation := by
  obtain ⟨earlier, later, hpending⟩ := List.append_of_mem hp
  simp only [underWay, hpending, sound.pending_drop hpending, List.countP_append, List.countP_cons]
  omega

/-- **A move takes the call that it settles and adds the call that it makes.** -/
theorem Sound.underWay_step (sound : s.Sound) (step : Step policy s move next)
    (operation : Operation) :
    next.1.underWay operation + (if Moment.settles operation ⟨move, next.2⟩ then 1 else 0) =
      s.underWay operation + if Moment.asks operation ⟨move, next.2⟩ then 1 else 0 := by
  cases step with
  | @start event burst turn =>
    rw [underWay_absorb _ _ (.start event), absorb_report]
    rfl
  | @settle p reply burst mem turn =>
    have hdrop := sound.underWay_drop mem operation
    have hkind := turn.operation_eq
    rw [underWay_absorb _ _ (.settle p.call reply), absorb_report]
    simp only [Moment.settles, hkind]
    omega

/-- **Every call under way can be settled**, with any reply of its kind. -/
theorem Sound.exists_settle (sound : s.Sound) (policy : Policy) {p : Pending} (hp : p ∈ s.pending)
    {reply : Reply} (hkind : reply.operation = p.awaiting.call.operation) :
    ∃ next, s.step? policy (.settle p.call reply) = some next := by
  obtain ⟨burst, hburst⟩ :
      ∃ burst, Handler.resume? policy p.awaiting reply s.view s.browser = some burst := by
    cases ha : p.awaiting <;> rw [ha] at hkind <;> cases reply <;> cases hkind <;> exact ⟨_, rfl⟩
  exact ⟨_, sound.settle?_eq hp hburst⟩

end Session

namespace Run

variable {policy : Policy} {browser : Browser} {h : History} {s : Session}

/-- **Of every kind, the calls made are the calls settled and the calls under
way.** -/
theorem countP_asks_eq (run : Run policy browser h s) (operation : Operation) :
    h.countP (Moment.asks operation) = h.countP (Moment.settles operation) + s.underWay operation := by
  induction run with
  | opened => rfl
  | @moved h s move next run step ih =>
    have hlaw := run.sound.underWay_step (Session.step_of_step? step) operation
    rw [List.countP_cons, List.countP_cons]
    omega

end Run
end MeteredChecker
