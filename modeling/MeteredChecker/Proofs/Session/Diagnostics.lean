import MeteredChecker.Proofs.Session.Purchase

/-!
# Every failure is told once

A failure that the user hardly gets to see --- one sentence stands for all of them, and under the
policy `discard` there may be none --- is told with its details in the log.  This file says that
nothing is lost there and nothing is told twice.

What is told above `debug` is decided by the move alone (`Move.notices`): a start tells nothing,
and a call that is settled tells its failure if it has one.  The page has no say in it.  That an
answer comes too late is found out *after* its failure has been told, and adds a word at
`debug` (`Handler.Turn.told_eq`).

## Where a failure is made and not received

Three of the four calls hand their failure in.  A purchase may also fail behind an answer that is
in good order: the answer approves of nothing, or the browser does not go where the approval says.
`Payment.failure?` is the first of the three links that breaks.  A purchase ends with a message
exactly if one of them does (`Handler.afterPayment_of_failure?`,
`Handler.exists_afterPayment_of_approved`), so the message and the error in the log are never one
without the other.
-/

namespace MeteredChecker

/-! ## What goes wrong with a purchase -/

/-- What a browser says if it does not go to an address. -/
def Disposition.refusal? : Disposition → String → Option Failure
  | .willing, _ => none
  | .refusing reason, url => some (.navigation (reason url))
  | .absent, _ => some (.navigation "no window")

/-- What goes wrong with a purchase: there is no answer, the answer approves of nothing, or the
browser does not go where the approval says. -/
def Payment.failure? (disposition : Disposition) : Except Failure Reply → Option Failure
  | .error e => some e
  | .ok reply =>
      if reply.Approves then disposition.refusal? reply.body
      else some (.paymentRejected reply.status reply.body)

namespace Browser

variable {b : Browser} {url : String}

theorem navigate_of_refusal? {e : Failure} (h : b.disposition.refusal? url = some e) :
    b.navigate url = .error e := by
  obtain ⟨disposition, alerts, location⟩ := b
  cases disposition with
  | willing => cases h
  | refusing reason | absent =>
    cases h
    rfl

theorem exists_navigate_of_refusal?_eq_none (h : b.disposition.refusal? url = none) :
    ∃ b', b.navigate url = .ok b' := by
  obtain ⟨disposition, alerts, location⟩ := b
  cases disposition with
  | willing => exact ⟨_, rfl⟩
  | refusing reason | absent => cases h

end Browser

namespace Handler

variable {b : Browser} {outcome : Except Failure Payment.Reply}

/-- The chain of a purchase breaks at the link that is named. -/
theorem approve_of_failure? {e : Failure} (h : Payment.failure? b.disposition outcome = some e) :
    approve outcome b = .error e := by
  cases outcome with
  | error e' =>
    obtain rfl : e' = e := Option.some.inj h
    rfl
  | ok reply =>
    rw [Payment.failure?] at h
    by_cases happroves : reply.Approves
    · rw [if_pos happroves] at h
      have hnavigate := Browser.navigate_of_refusal? h
      simp [approve, Payment.Reply.approval_eq, if_pos happroves, hnavigate, bind, Except.bind]
    · rw [if_neg happroves] at h
      obtain rfl := Option.some.inj h
      simp [approve, Payment.Reply.approval_eq, if_neg happroves, bind, Except.bind]

/-- If no link is named the chain holds. -/
theorem exists_approve_of_failure?_eq_none
    (h : Payment.failure? b.disposition outcome = none) : ∃ sale, approve outcome b = .ok sale := by
  cases outcome with
  | error e => cases h
  | ok reply =>
    rw [Payment.failure?] at h
    by_cases happroves : reply.Approves
    · rw [if_pos happroves] at h
      obtain ⟨b', hnavigate⟩ := Browser.exists_navigate_of_refusal?_eq_none h
      refine ⟨(b', reply.body), ?_⟩
      simp [approve, Payment.Reply.approval_eq, if_pos happroves, hnavigate, bind, Except.bind,
        pure, Except.pure]
    · rw [if_neg happroves] at h
      cases h

/-- What is logged about the answer of the payment endpoint. -/
def paymentNotes : Except Failure Payment.Reply → List LogEvent
  | .ok reply => [.paymentAnswered reply]
  | .error _ => []

variable (v : View)

/-- A purchase that fails logs its failure and shows a message. -/
theorem afterPayment_of_failure? {e : Failure}
    (h : Payment.failure? b.disposition outcome = some e) :
    afterPayment outcome v b =
      ⟨v, b.alert (e.userMessage .payment), paymentNotes outcome ++ [.paymentFailed e],
        .ended (some (.alerted (e.userMessage .payment)))⟩ := by
  unfold afterPayment
  rw [approve_of_failure? h]
  cases outcome <;> rfl

/-- A purchase that does not fail logs that it goes on. -/
theorem exists_afterPayment_of_approved (h : Payment.failure? b.disposition outcome = none) :
    ∃ b' url, afterPayment outcome v b =
      ⟨v, b', paymentNotes outcome ++ [.redirecting], .ended (some (.redirected url))⟩ := by
  obtain ⟨⟨b', url⟩, happrove⟩ := exists_approve_of_failure?_eq_none h
  refine ⟨b', url, ?_⟩
  unfold afterPayment
  rw [happrove]
  cases outcome <;> rfl

end Handler

/-! ## What is told -/

/-- What the log says at a level. -/
def Report.told (r : Report) (level : Level) : List String :=
  (r.log.filter fun e => e.level == level).map LogEvent.text

namespace Move

/-- What went wrong in a move. -/
def failure? (disposition : Disposition) : Move → Option Failure
  | .settle _ (.check (.error e)) => some e
  | .settle _ (.stats (.error e)) => some e
  | .settle _ (.reset (.error e)) => some e
  | .settle _ (.payment outcome) => Payment.failure? disposition outcome
  | _ => none

/-- What the log is to say about a move: its failure, as an error if it is of a check or of a
purchase and as a warning if it is of the quota or of a reset, and for the information of the
reader that a purchase goes on. -/
def notices (disposition : Disposition) : Move → Level → List String
  | .settle _ (.check (.error e)), .error => ["Check request failed: " ++ e.message]
  | .settle _ (.payment outcome), .error =>
      match Payment.failure? disposition outcome with
      | some e => ["Payment initiation failed: " ++ e.message]
      | none => []
  | .settle _ (.stats (.error e)), .warn => ["Could not fetch stats: " ++ e.message]
  | .settle _ (.reset (.error e)), .warn => ["Quota reset failed: " ++ e.message]
  | .settle _ (.payment outcome), .info =>
      match Payment.failure? disposition outcome with
      | some _ => []
      | none => ["Redirecting to payment approval"]
  | _, _ => []

/-- A failure is noticed once, and nothing else is. -/
theorem length_notices (disposition : Disposition) (move : Move) :
    (move.notices disposition .error).length + (move.notices disposition .warn).length =
      if (move.failure? disposition).isSome then 1 else 0 := by
  cases move with
  | start event => rfl
  | settle call reply =>
    cases reply with
    | check outcome | stats outcome | reset outcome => cases outcome <;> rfl
    | payment outcome =>
      cases hfailure : Payment.failure? disposition outcome <;> simp [notices, failure?, hfailure]

end Move

/-- **What is told is decided by the move**, and by the browser if it is a purchase that ends:
not by the page, nor by whether an answer is shown or discarded. -/
theorem Handler.Turn.told_eq {policy : Policy} {v : View} {b : Browser} {before : Option Awaiting}
    {move : Move} {burst : Burst} (turn : Turn policy v b before move burst) (n : Nat)
    {level : Level} (hlevel : level ≠ .debug) :
    Report.told ⟨n, burst.log, burst.rest⟩ level = move.notices b.disposition level := by
  cases turn with
  | rejected | submitted | refreshing | resetting | buying =>
    cases level
    case debug => exact absurd rfl hlevel
    all_goals rfl
  | checked _ ticket _ outcome =>
    cases level
    case debug => exact absurd rfl hlevel
    all_goals cases outcome <;> cases View.isStale ticket v.lastCheck policy <;> rfl
  | counted ticket _ outcome =>
    cases level
    case debug => exact absurd rfl hlevel
    all_goals cases outcome <;> cases View.isStale ticket v.lastQuota policy <;> rfl
  | restored _ outcome =>
    cases level
    case debug => exact absurd rfl hlevel
    all_goals cases outcome <;> rfl
  | paid _ outcome sold =>
    cases hfailure : Payment.failure? b.disposition outcome with
    | some e =>
      cases sold.symm.trans (afterPayment_of_failure? v hfailure)
      cases level
      case debug => exact absurd rfl hlevel
      all_goals simp only [Move.notices, hfailure]; cases outcome <;> rfl
    | none =>
      obtain ⟨b', url, hburst⟩ := exists_afterPayment_of_approved v hfailure
      cases sold.symm.trans hburst
      cases level
      case debug => exact absurd rfl hlevel
      all_goals simp only [Move.notices, hfailure]; cases outcome <;> rfl

/-- A purchase ends with a message if it fails, and somewhere else if it does not; nothing else
ends so. -/
theorem Handler.Turn.sale_eq {policy : Policy} {v : View} {b : Browser} {before : Option Awaiting}
    {move : Move} {burst : Burst} (turn : Turn policy v b before move burst) (n : Nat) :
    let m : Moment := ⟨move, ⟨n, burst.log, burst.rest⟩⟩
    ((∃ message, m.sale? = some (.alerted message)) ↔
      ∃ call outcome e, move = .settle call (.payment outcome) ∧
        Payment.failure? b.disposition outcome = some e) ∧
    ((∃ url, m.sale? = some (.redirected url)) ↔
      ∃ call outcome, move = .settle call (.payment outcome) ∧
        Payment.failure? b.disposition outcome = none) := by
  cases turn with
  | rejected | submitted | refreshing | resetting | buying | checked | counted | restored =>
    simp [Moment.sale?]
  | paid call outcome sold =>
    cases hfailure : Payment.failure? b.disposition outcome with
    | some e =>
      cases sold.symm.trans (afterPayment_of_failure? v hfailure)
      simp [Moment.sale?, hfailure]
    | none =>
      obtain ⟨b', url, hburst⟩ := exists_afterPayment_of_approved v hfailure
      cases sold.symm.trans hburst
      simp [Moment.sale?, hfailure]

/-! ## Runs -/

namespace Run

variable {policy : Policy} {disposition : Disposition} {h : History} {s : Session}

/-- Every moment of a run is a turn of a handler, in a browser that is disposed as it always
was. -/
theorem exists_turn_of_mem (run : Run policy (.new disposition) h s) {m : Moment} (hm : m ∈ h) :
    ∃ v b n before burst, Handler.Turn policy v b before m.move burst ∧
      b.disposition = disposition ∧ m = ⟨m.move, ⟨n, burst.log, burst.rest⟩⟩ := by
  obtain ⟨newer, older, rfl⟩ := List.append_of_mem hm
  obtain ⟨s₀, run₀⟩ := run.of_append
  cases run₀ with
  | @moved _ before move next earlier step =>
    obtain ⟨n, awaiting, burst, -, turn, -, hreport⟩ := (Session.step_of_step? step).exists_turn
    refine ⟨before.view, before.browser, n, awaiting, burst, turn, earlier.disposition_eq, ?_⟩
    rw [hreport]

end Run

/-- **Every failure is told once, and nothing else is told.**

In every run, whatever is replied and in whatever order, under either policy and in whatever
browser: each move tells its failure, at the level and with the text of `Move.notices`, and tells
nothing else above `debug`.  It does so whether the reply is shown or discarded.  The error of a
purchase is told if and only if the purchase ends with a message, and that it goes on is told if
and only if it ends at an address.

So over the whole run the log has at each level what the moves give it to tell, in their order,
and as many errors and warnings as there were failures. -/
theorem every_failure_is_told_once {policy : Policy} {disposition : Disposition} {h : History}
    {s : Session} (run : Run policy (.new disposition) h s) :
    (∀ m ∈ h,
      (∀ level ≠ .debug, m.report.told level = m.move.notices disposition level) ∧
      ((∃ message, m.sale? = some (.alerted message)) ↔
        ∃ call outcome e, m.move = .settle call (.payment outcome) ∧
          Payment.failure? disposition outcome = some e) ∧
      ((∃ url, m.sale? = some (.redirected url)) ↔
        ∃ call outcome, m.move = .settle call (.payment outcome) ∧
          Payment.failure? disposition outcome = none)) ∧
    (∀ level ≠ .debug, (h.reverse.flatMap fun m => m.report.told level) =
      h.reverse.flatMap fun m => m.move.notices disposition level) ∧
    (h.flatMap fun m => m.report.told .error).length +
        (h.flatMap fun m => m.report.told .warn).length =
      h.countP fun m => (m.move.failure? disposition).isSome := by
  have htold (m : Moment) (hm : m ∈ h) (level : Level) (hlevel : level ≠ .debug) :
      m.report.told level = m.move.notices disposition level := by
    obtain ⟨v, b, n, before, burst, turn, rfl, hmoment⟩ := run.exists_turn_of_mem hm
    rw [hmoment]
    exact turn.told_eq n hlevel
  refine ⟨fun m hm => ⟨htold m hm, ?_⟩, fun level hlevel => ?_, ?_⟩
  · obtain ⟨v, b, n, before, burst, turn, rfl, hmoment⟩ := run.exists_turn_of_mem hm
    rw [hmoment]
    exact turn.sale_eq n
  · exact List.flatMap_congr fun m hm => htold m (List.mem_reverse.1 hm) level hlevel
  · clear run
    induction h with
    | nil => rfl
    | cons m h ih =>
      have hfirst := m.move.length_notices disposition
      have hlater := ih fun m hm => htold m (List.mem_cons_of_mem _ hm)
      rw [← htold m List.mem_cons_self .error (by decide),
        ← htold m List.mem_cons_self .warn (by decide)] at hfirst
      rw [List.flatMap_cons, List.flatMap_cons, List.length_append, List.length_append,
        List.countP_cons]
      omega

/-- A check fails when a later one has superseded it, a purchase is approved in a browser that
blocks, and the quota cannot be read: the page keeps quiet about the first, and the log has all
three. -/
theorem failures_behind_discarded_check :
    ∃ h s, Run .discard (.new .blocking) h s ∧
      h.reverse.map Moment.move =
        [.start (.submit (.ofRaw "a")), .start (.submit (.ofRaw "b")), .start .buy,
          .settle 0 (.check (.error (.transport "down"))),
          .settle 2 (.payment (.ok ⟨200, "https://pay.test/1"⟩)),
          .settle 3 (.stats (.error (.status 503)))] ∧
      s.view.result = "" ∧
      (h.reverse.flatMap fun m => m.report.told .error) =
        ["Check request failed: Transport error: down",
          "Payment initiation failed: Navigation failed: blocked: https://pay.test/1"] ∧
      (h.reverse.flatMap fun m => m.report.told .warn) =
        ["Could not fetch stats: Unexpected status 503"] := by
  have started : Run .discard (.new .blocking) _ _ :=
    ((Run.opened.start (.submit (.ofRaw "a"))).start (.submit (.ofRaw "b"))).start .buy
  have run := ((started.settle 0 (.check (.error (.transport "down"))) rfl).settle 2
    (.payment (.ok ⟨200, "https://pay.test/1"⟩)) rfl).settle 3 (.stats (.error (.status 503))) rfl
  obtain ⟨-, htold, -⟩ := every_failure_is_told_once run
  refine ⟨_, _, run, rfl, rfl, ?_, ?_⟩
  · rw [htold .error (by decide)]
    rfl
  · rw [htold .warn (by decide)]
    rfl

end MeteredChecker
