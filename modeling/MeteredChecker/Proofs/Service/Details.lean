import MeteredChecker.Proofs.Service.Classification
import MeteredChecker.Proofs.Session.Likeness
import MeteredChecker.Proofs.Session.Purchase

/-!
# Details stay in the log

A failure has a kind and details: what the transport said, what could not be read and where,
which status it was, why the browser did not go.  The log gets all of it.  The user gets a
sentence that depends on the kind alone, and mostly not even on that
(`Failure.SameKind.userMessage_eq`).  So two pages on which the same goes wrong, in whatever
way, cannot be told apart from the outside.

What counts as a detail is written down as `Likeness.detail`.  Replies may differ inside
their failures.  A reply of the payment endpoint that is no approval is a failure, too,
although it only turns out to be one behind the call; and so is the refusal of a browser to
go where it is sent.  Nothing may differ in replies that are successful.

## Over HTTP

There the details are in the responses, and in what is said of requests that get none.
`Http.Arrival.SameButDetail` says which responses come to the same but for details, call by
call: two of which not enough arrives, two bodies that cannot be read, two statuses that are not
a success.  That the handlers over the client show the same is then a
consequence, since handlers run to their ends are a run (`Service.performances_like`).
-/

namespace MeteredChecker

/-! ## The same but for details -/

/-- Two failures are of one kind. -/
inductive Failure.SameKind : Failure → Failure → Prop
  | emptyInput : SameKind .emptyInput .emptyInput
  | transport (detail detail' : String) : SameKind (.transport detail) (.transport detail')
  | decode (detail detail' : String) : SameKind (.decode detail) (.decode detail')
  | status (code code' : UInt16) : SameKind (.status code) (.status code')
  | paymentRejected (code code' : UInt16) (body body' : String) :
      SameKind (.paymentRejected code body) (.paymentRejected code' body')
  | navigation (detail detail' : String) : SameKind (.navigation detail) (.navigation detail')
  | config (detail detail' : String) : SameKind (.config detail) (.config detail')

/-- **What the user is told depends on the kind of a failure.** -/
theorem Failure.SameKind.userMessage_eq {e e' : Failure} (same : e.SameKind e')
    (operation : Operation) : e.userMessage operation = e'.userMessage operation := by
  cases same <;> rfl

/-- Two outcomes are the same if both are good, and otherwise failures of one kind. -/
inductive SameOutcome {α : Type} : Except Failure α → Except Failure α → Prop
  | ok (a : α) : SameOutcome (.ok a) (.ok a)
  | error {e e' : Failure} (same : e.SameKind e') : SameOutcome (.error e) (.error e')

theorem SameOutcome.refl {α : Type} (outcome : Except Failure α) : SameOutcome outcome outcome := by
  cases outcome with
  | ok a => exact .ok a
  | error e => exact .error (by cases e <;> constructor)

/-- What cannot be read fails in the same way, wherever reading stops. -/
theorem SameOutcome.undecoded {α : Type} {outcome outcome' : Except String α}
    (h : ∀ a, outcome ≠ .ok a) (h' : ∀ a, outcome' ≠ .ok a) :
    SameOutcome (outcome.mapError .decode) (outcome'.mapError .decode) := by
  cases outcome with
  | ok a => exact absurd rfl (h a)
  | error detail =>
    cases outcome' with
    | ok a => exact absurd rfl (h' a)
    | error detail' => exact .error (.decode detail detail')

/-- Two replies are the same but for the details of failures.  A payment that is no approval
is a failure, and all of it is a detail. -/
inductive Reply.SameButDetail : Reply → Reply → Prop
  | check {outcome outcome' : Except Failure Verdict} (same : SameOutcome outcome outcome') :
      SameButDetail (.check outcome) (.check outcome')
  | stats {outcome outcome' : Except Failure Quota} (same : SameOutcome outcome outcome') :
      SameButDetail (.stats outcome) (.stats outcome')
  | payment {outcome outcome' : Except Failure Payment.Reply}
      (same : SameOutcome outcome outcome') :
      SameButDetail (.payment outcome) (.payment outcome')
  | rejected {reply reply' : Payment.Reply} (h : ¬ reply.Approves) (h' : ¬ reply'.Approves) :
      SameButDetail (.payment (.ok reply)) (.payment (.ok reply'))
  | reset {outcome outcome' : Except Failure Unit} (same : SameOutcome outcome outcome') :
      SameButDetail (.reset outcome) (.reset outcome')

/-- Calls that fail in the same way are replied to in the same way. -/
theorem Reply.SameButDetail.failed (operation : Operation) {e e' : Failure}
    (same : e.SameKind e') : (operation.failed e).SameButDetail (operation.failed e') := by
  cases operation with
  | check => exact .check (.error same)
  | stats => exact .stats (.error same)
  | payment => exact .payment (.error same)
  | reset => exact .reset (.error same)

theorem Reply.SameButDetail.refl (reply : Reply) : reply.SameButDetail reply := by
  cases reply with
  | check outcome => exact .check (.refl outcome)
  | stats outcome => exact .stats (.refl outcome)
  | payment outcome => exact .payment (.refl outcome)
  | reset outcome => exact .reset (.refl outcome)

/-- Two browsers are disposed in the same way; if they refuse to go somewhere, the reasons may
differ. -/
inductive Disposition.SameButReason : Disposition → Disposition → Prop
  | willing : SameButReason .willing .willing
  | refusing (reason reason' : String → String) :
      SameButReason (.refusing reason) (.refusing reason')
  | absent : SameButReason .absent .absent

/-- Two browsers are disposed in the same way, have shown the same and are at the same place. -/
structure Browser.SameButReason (b b' : Browser) : Prop where
  disposition : b.disposition.SameButReason b'.disposition
  alerts : b.alerts = b'.alerts
  location : b.location = b'.location

/-- The details of failures, and what is logged, may differ. -/
def Likeness.detail : Likeness where
  event := Eq
  reply := Reply.SameButDetail
  awaiting := Eq
  browser := Browser.SameButReason
  log := fun _ _ => True

/-! ## Handlers do not look at details -/

theorem Disposition.SameButReason.willing_iff {d d' : Disposition} (same : d.SameButReason d') :
    d = .willing ↔ d' = .willing := by
  cases same <;> simp

namespace Browser.SameButReason

variable {b b' : Browser}

theorem alert (same : b.SameButReason b') (message : String) :
    (b.alert message).SameButReason (b'.alert message) := by
  obtain ⟨disposition, alerts, location⟩ := b
  obtain ⟨disposition', alerts', location'⟩ := b'
  obtain ⟨hdisposition, rfl, rfl⟩ := same
  cases hdisposition with
  | willing => exact ⟨.willing, rfl, rfl⟩
  | refusing reason reason' => exact ⟨.refusing reason reason', rfl, rfl⟩
  | absent => exact ⟨.absent, rfl, rfl⟩

theorem goTo (same : b.SameButReason b') (url : String) :
    ({ b with location := some url } : Browser).SameButReason { b' with location := some url } :=
  ⟨same.disposition, same.alerts, rfl⟩

end Browser.SameButReason

namespace View

variable {v : View}

theorem takeCheck_eq_of_sameOutcome {outcome outcome' : Except Failure Verdict}
    (same : SameOutcome outcome outcome') (ticket : Ticket) (policy : Policy) :
    v.takeCheck ticket outcome policy = v.takeCheck ticket outcome' policy := by
  have hshown : v.showCheck outcome = v.showCheck outcome' := by
    cases same with
    | ok verdict => rfl
    | error same => rw [showCheck, showCheck, same.userMessage_eq]
  rw [takeCheck, takeCheck, applyCheck?, applyCheck?, hshown]

theorem takeQuota_eq_of_sameOutcome {outcome outcome' : Except Failure Quota}
    (same : SameOutcome outcome outcome') (ticket : Ticket) (policy : Policy) :
    v.takeQuota ticket outcome policy = v.takeQuota ticket outcome' policy := by
  have hshown : v.showQuota outcome = v.showQuota outcome' := by
    cases same <;> rfl
  rw [takeQuota, takeQuota, applyQuota?, applyQuota?, hshown]

end View

/-- Two payments come to the same for the user: he is told the same if they fail, and one is
an approval if the other is, and the same one. -/
structure Payment.SameFate (outcome outcome' : Except Failure Reply) : Prop where
  notice : notice outcome = notice outcome'
  approved : ∀ reply : Reply, reply.Approves → (outcome = .ok reply ↔ outcome' = .ok reply)

theorem Payment.sameFate_of_sameOutcome {outcome outcome' : Except Failure Reply}
    (same : SameOutcome outcome outcome') : SameFate outcome outcome' := by
  cases same with
  | ok reply => exact ⟨rfl, fun _ _ => Iff.rfl⟩
  | error same =>
    refine ⟨?_, fun _ _ => by simp⟩
    rw [notice_error, notice_error, same.userMessage_eq]

theorem Payment.sameFate_of_rejected {reply reply' : Reply} (h : ¬ reply.Approves)
    (h' : ¬ reply'.Approves) : SameFate (.ok reply) (.ok reply') where
  notice := by rw [notice, notice, if_neg h, if_neg h']
  approved := by
    intro r hr
    constructor
    · rintro ⟨⟩
      exact absurd hr h
    · rintro ⟨⟩
      exact absurd hr h'

namespace Handler

variable {policy : Policy} {v : View} {b b' : Browser}

/-- **A purchase ends in the same way for the user.** -/
theorem bursts_afterPayment (browsers : b.SameButReason b')
    {outcome outcome' : Except Failure Payment.Reply} (same : Payment.SameFate outcome outcome') :
    Likeness.detail.Bursts (afterPayment outcome v b) (afterPayment outcome' v b') := by
  have hwilling := browsers.disposition.willing_iff
  rcases afterPayment_cases v b outcome with
    ⟨reply, houtcome, happroves, hdisposition, log, hburst⟩ | ⟨hbroken, log, hburst⟩ <;>
  rcases afterPayment_cases v b' outcome' with
    ⟨reply', houtcome', happroves', hdisposition', log', hburst'⟩ | ⟨hbroken', log', hburst'⟩ <;>
  rw [hburst, hburst']
  · -- both are approved, by the same reply
    obtain rfl : reply = reply' :=
      Except.ok.inj (((same.approved reply happroves).1 houtcome).symm.trans houtcome')
    exact ⟨rfl, browsers.goTo reply.body, trivial, .ended _⟩
  · exact absurd (hwilling.1 hdisposition)
      (hbroken' reply ((same.approved reply happroves).1 houtcome) happroves)
  · exact absurd (hwilling.2 hdisposition')
      (hbroken reply' ((same.approved reply' happroves').2 houtcome') happroves')
  · -- neither is, and the same message is shown
    rw [same.notice]
    exact ⟨rfl, browsers.alert _, trivial, .ended _⟩

theorem kept_detail (policy : Policy) : Likeness.detail.Kept policy where
  begin := by
    rintro event _ v b b' rfl browsers
    cases event with
    | submit submission =>
      simp only [begin, beginSubmission]
      split
      · exact ⟨rfl, browsers, trivial, .ended _⟩
      · exact ⟨rfl, browsers, trivial, .waits rfl⟩
    | refresh | reset | buy => exact ⟨rfl, browsers, trivial, .waits rfl⟩
  resume := by
    rintro a _ reply reply' v b b' burst rfl replies browsers hburst
    have turn := turn_of_resume? 0 hburst
    obtain ⟨burst', hburst'⟩ : ∃ burst', resume? policy a reply' v b' = some burst' := by
      cases replies <;> cases turn <;> exact ⟨_, rfl⟩
    have turn' := turn_of_resume? 0 hburst'
    refine ⟨burst', hburst', ?_⟩
    cases replies with
    | check same =>
      cases turn with
      | checked submission ticket =>
        cases turn'
        exact ⟨congrArg View.beginQuota (View.takeCheck_eq_of_sameOutcome same ticket policy),
          browsers, trivial, .waits rfl⟩
    | stats same =>
      cases turn with
      | counted ticket =>
        cases turn'
        exact ⟨View.takeQuota_eq_of_sameOutcome same ticket policy, browsers, trivial, .ended _⟩
    | payment same =>
      have bursts := bursts_afterPayment (v := v) browsers (Payment.sameFate_of_sameOutcome same)
      cases turn with
      | paid _ _ sold =>
        cases turn' with
        | paid _ _ sold' => rwa [sold, sold'] at bursts
    | rejected h h' =>
      have bursts := bursts_afterPayment (v := v) browsers (Payment.sameFate_of_rejected h h')
      cases turn with
      | paid _ _ sold =>
        cases turn' with
        | paid _ _ sold' => rwa [sold, sold'] at bursts
    | reset same =>
      cases turn
      cases turn'
      exact ⟨rfl, browsers, trivial, .waits rfl⟩

end Handler

/-! ## Handlers run to their ends -/

namespace Likeness

variable {l : Likeness}

/-- Two events are the same, and are replied to in the same way. -/
structure Answers (l : Likeness) (answer answer' : Event × List Reply) : Prop where
  event : l.event answer.1 answer'.1
  replies : List.Forall₂ l.reply answer.2 answer'.2

/-- Two handlers that were run to their ends have come to the same. -/
structure Ends {σ τ : Type} (l : Likeness) (done : Completed σ) (done' : Completed τ) : Prop where
  view : done.view = done'.view
  browser : l.browser done.browser done'.browser
  outcome : done.outcome = done'.outcome

theorem moves_settlements {replies replies' : List Reply}
    (alike : List.Forall₂ l.reply replies replies') (call : Nat) :
    List.Forall₂ l.Moves (settlements call replies) (settlements call replies') := by
  induction alike generalizing call with
  | nil => exact .nil
  | cons hreply _ ih => exact .cons (.settle call hreply) (ih (call + 1))

end Likeness

/-- **Services that answer in the same way leave pages behind that are alike.** -/
theorem Service.performances_like {l : Likeness} {policy : Policy} (kept : l.Kept policy)
    {σ τ : Type} {service : Service σ} {service' : Service τ} {acts : List (Act σ)}
    {acts' : List (Act τ)} {s s' : Session} (alike : l.Sessions s s') (quiet : s.pending = [])
    (quiet' : s'.pending = []) {state : σ} {state' : τ}
    (same : List.Forall₂ l.Answers (service.answers acts state) (service'.answers acts' state')) :
    List.Forall₂ (fun p p' => l.Ends p.done p'.done)
      (service.perform policy acts s.view s.browser state)
      (service'.perform policy acts' s'.view s'.browser state') := by
  induction acts generalizing acts' s s' state state' with
  | nil =>
    cases acts' with
    | nil => exact .nil
    | cons act' acts' => cases same
  | cons act acts ih =>
    cases acts' with
    | nil => cases same
    | cons act' acts' =>
      obtain ⟨⟨hevent, hreplies⟩, hlater⟩ := List.forall₂_cons.1 same
      obtain ⟨trail, hrun, hbehind, enacted, -⟩ :=
        service.exists_enacts policy quiet act.event (act.prepare state)
      obtain ⟨trail', hrun', hbehind', enacted', -⟩ :=
        service'.exists_enacts policy quiet' act'.event (act'.prepare state')
      -- the moves that enact the one handler are those that enact the other
      have hmoves := List.Forall₂.cons (.start hevent) (l.moves_settlements hreplies s.calls)
      obtain ⟨trail'', hrun'', hsteps⟩ := kept.exists_run? alike hmoves hrun
      rw [alike.calls] at hrun''
      obtain rfl : trail' = trail'' := Option.some.inj (hrun'.symm.trans hrun'')
      have halike := alike.behind hsteps
      have hfinished := l.filterMap_finished hsteps
      rw [enacted.finished, enacted'.finished] at hfinished
      have hstate := service.state_complete policy act.event s.view s.browser (act.prepare state)
      have hstate' :=
        service'.state_complete policy act'.event s'.view s'.browser (act'.prepare state')
      rw [← hstate, ← hstate'] at hlater
      rw [hbehind, hbehind'] at halike
      refine .cons ⟨halike.view, halike.browser, ?_⟩ (ih halike rfl rfl hlater)
      exact (Prod.mk.inj (List.singleton_inj.1 hfinished)).2

/-! ## Details of responses -/

namespace Http

namespace Arrival

/-- The reply to a call, for what has arrived and what is said if that is not enough. -/
def reply (complaint : String) (a : Arrival) : Operation → Reply
  | .check => .check (a.verdict complaint)
  | .stats => .stats (a.quota complaint)
  | .payment => .payment (a.payment complaint)
  | .reset => .reset (a.reset complaint)

/-- What has arrived is not enough to answer a call: a check and a payment want all of a body, a
quota wants it of a success, and a reset wants a head. -/
def IsLost : Operation → Arrival → Prop
  | .check, a | .payment, a => a.text? = none
  | .stats, a => a.status? = none ∨ ∃ status, a = .brokenOff status ∧ IsSuccess status
  | .reset, a => a.status? = none

/-- What has arrived is the same but for details. -/
inductive SameButDetail : Operation → Arrival → Arrival → Prop
  | same (operation : Operation) (a : Arrival) : SameButDetail operation a a
  /-- Neither response is an answer. -/
  | lost {operation : Operation} {a a' : Arrival} (h : a.IsLost operation)
      (h' : a'.IsLost operation) : SameButDetail operation a a'
  /-- No verdict can be read in either body, and both statuses are a success or neither is. -/
  | noVerdict {status status' : UInt16} {body body' : String}
      (successes : IsSuccess status ↔ IsSuccess status')
      (h : ∀ verdict, Verdict.ofBody (isSuccessStatus status) body ≠ .ok verdict)
      (h' : ∀ verdict, Verdict.ofBody (isSuccessStatus status') body' ≠ .ok verdict) :
      SameButDetail .check (.whole status body) (.whole status' body')
  /-- Both statuses are a success, and no quota can be read in either body. -/
  | noQuota {status status' : UInt16} {body body' : String} (success : IsSuccess status)
      (success' : IsSuccess status') (h : ∀ quota, Quota.ofBody body ≠ .ok quota)
      (h' : ∀ quota, Quota.ofBody body' ≠ .ok quota) :
      SameButDetail .stats (.whole status body) (.whole status' body')
  /-- Neither status is a success, and nobody looks at the bodies. -/
  | refused {operation : Operation} (bodiless : operation = .stats ∨ operation = .reset)
      {a a' : Arrival} {status status' : UInt16} (hstatus : a.status? = some status)
      (hstatus' : a'.status? = some status') (h : ¬ IsSuccess status) (h' : ¬ IsSuccess status') :
      SameButDetail operation a a'
  /-- Neither response is an approval of a payment. -/
  | rejected {status status' : UInt16} {body body' : String}
      (h : ¬ (⟨status, body⟩ : Payment.Reply).Approves)
      (h' : ¬ (⟨status', body'⟩ : Payment.Reply).Approves) :
      SameButDetail .payment (.whole status body) (.whole status' body')

/-- **What is lost is complained about.** -/
theorem IsLost.reply_eq {operation : Operation} {a : Arrival} (h : a.IsLost operation)
    (complaint : String) :
    a.reply complaint operation = operation.failed (.transport complaint) := by
  cases a with
  | nothing => cases operation <;> rfl
  | brokenOff status =>
    cases operation with
    | check | payment => rfl
    | stats =>
      obtain h | ⟨_, ⟨⟩, success⟩ := h
      · cases h
      · rw [reply, quota, if_pos (isSuccessStatus_iff.2 success), Operation.failed]
    | reset => cases h
  | whole status body =>
    cases operation with
    | check | payment | reset => cases h
    | stats => obtain h | ⟨_, h, -⟩ := h <;> cases h

/-- What is enough is not complained about. -/
theorem reply_eq_of_not_isLost {operation : Operation} {a : Arrival} (h : ¬ a.IsLost operation)
    (complaint complaint' : String) :
    a.reply complaint operation = a.reply complaint' operation := by
  cases a with
  | whole status body => cases operation <;> rfl
  | nothing =>
    cases operation with
    | check | payment | reset => exact absurd rfl h
    | stats => exact absurd (.inl rfl) h
  | brokenOff status =>
    cases operation with
    | check | payment => exact absurd rfl h
    | stats =>
      have hfailure : ¬ isSuccessStatus status = true := fun hsuccess =>
        h (.inr ⟨status, rfl, isSuccessStatus_iff.1 hsuccess⟩)
      rw [reply, reply, quota, quota, if_neg hfailure, if_neg hfailure]
    | reset => rfl

/-- **Responses that are the same but for details are replies that are**, whatever is said of
those that are lost. -/
theorem SameButDetail.reply {operation : Operation} {a a' : Arrival}
    (same : SameButDetail operation a a') (complaint complaint' : String) :
    (a.reply complaint operation).SameButDetail (a'.reply complaint' operation) := by
  cases same with
  | same =>
    by_cases lost : a.IsLost operation
    · rw [lost.reply_eq, lost.reply_eq]
      exact .failed operation (.transport complaint complaint')
    · rw [reply_eq_of_not_isLost lost complaint complaint']
      exact .refl _
  | lost h h' =>
    rw [h.reply_eq, h'.reply_eq]
    exact .failed operation (.transport complaint complaint')
  | noVerdict _ h h' => exact .check (SameOutcome.undecoded h h')
  | noQuota success success' h h' =>
    refine .stats ?_
    rw [quota, quota, if_pos (isSuccessStatus_iff.2 success),
      if_pos (isSuccessStatus_iff.2 success')]
    exact SameOutcome.undecoded h h'
  | refused bodiless hstatus hstatus' h h' =>
    rcases bodiless with rfl | rfl
    · rw [Arrival.reply, Arrival.reply, (statsClassified _ _).status _ |>.2 ⟨hstatus, h⟩,
        (statsClassified _ _).status _ |>.2 ⟨hstatus', h'⟩]
      exact .failed .stats (.status _ _)
    · rw [Arrival.reply, Arrival.reply, (resetClassified _ _).status _ |>.2 ⟨hstatus, h⟩,
        (resetClassified _ _).status _ |>.2 ⟨hstatus', h'⟩]
      exact .failed .reset (.status _ _)
  | rejected h h' => exact .rejected h h'

end Arrival

/-- What arrives of the response to a letter with this fate. -/
def Fate.arrivalOf (fate : Fate) (letter : Letter) : Arrival :=
  (fate.meet (.new true [])).arrivalOf letter

namespace Client

variable (client : Client)

/-- What the client replies depends on what arrives. -/
theorem reply_eq (call : Call) (line : Line) :
    (client.service client.config.payment).reply call line =
      (line.arrivalOf (client.config.letter call)).reply line.complaint call.operation := by
  rw [← Line.ofDelivery_post]
  cases call <;>
    simp only [Service.reply, service, check_eq, stats_eq, pay_eq, reset_eq, checkOutcome_eq,
      statsOutcome_eq, paymentOutcome_eq, resetOutcome_eq, Call.operation, Arrival.reply]

theorem reply_sameButDetail {call : Call} {line line' : Line}
    (same : Arrival.SameButDetail call.operation (line.arrivalOf (client.config.letter call))
      (line'.arrivalOf (client.config.letter call))) :
    ((client.service client.config.payment).reply call line).SameButDetail
      ((client.service client.config.payment).reply call line') := by
  rw [reply_eq, reply_eq]
  exact same.reply _ _

variable {fates fates' : Nat → Fate}

/-- Every call that is answered counts. -/
theorem number_after (fates : Nat → Fate) (calls : List Call) (state : Line × Nat) :
    ((client.wire fates).after calls state).2 = state.2 + calls.length := by
  induction calls generalizing state with
  | nil => rfl
  | cons call calls ih =>
    have hnumber : ((client.wire fates).next call state).2 = state.2 + 1 := by
      rw [wire, Service.next_amid]
    have hlater := ih ((client.wire fates).next call state)
    rw [hnumber] at hlater
    rw [List.length_cons, Nat.add_comm calls.length, ← Nat.add_assoc]
    exact hlater

/-- Calls that are made one after the other are replied to in the same way. -/
theorem replies_sameButDetail {calls : List Call} {state state' : Line × Nat}
    (hnumber : state.2 = state'.2)
    (same : ∀ n call, calls[n]? = some call → Arrival.SameButDetail call.operation
      ((fates (state.2 + n)).arrivalOf (client.config.letter call))
      ((fates' (state.2 + n)).arrivalOf (client.config.letter call))) :
    List.Forall₂ Reply.SameButDetail ((client.wire fates).replies calls state)
      ((client.wire fates').replies calls state') := by
  induction calls generalizing state state' with
  | nil => exact .nil
  | cons call calls ih =>
    obtain ⟨line, number⟩ := state
    obtain ⟨line', _⟩ := state'
    obtain rfl : number = _ := hnumber
    rw [Service.replies, Service.replies]
    refine .cons ?_ (ih ?_ fun n next hnext => ?_)
    · rw [wire, wire, Service.reply_amid, Service.reply_amid]
      exact client.reply_sameButDetail (same 0 call rfl)
    · rw [wire, wire, Service.next_amid, Service.next_amid]
    · rw [wire, Service.next_amid, Nat.add_assoc, Nat.add_comm 1]
      exact same (n + 1) next hnext

/-- Events that are handled one after the other are answered in the same way. -/
theorem answers_like {events : List Event} {state state' : Line × Nat}
    (hnumber : state.2 = state'.2)
    (same : ∀ n call, (events.flatMap Event.script)[n]? = some call →
      Arrival.SameButDetail call.operation
        ((fates (state.2 + n)).arrivalOf (client.config.letter call))
        ((fates' (state.2 + n)).arrivalOf (client.config.letter call))) :
    List.Forall₂ Likeness.detail.Answers ((client.wire fates).answers (events.map Event.act) state)
      ((client.wire fates').answers (events.map Event.act) state') := by
  induction events generalizing state state' with
  | nil => exact .nil
  | cons event events ih =>
    rw [List.flatMap_cons] at same
    refine .cons ⟨rfl, client.replies_sameButDetail hnumber fun n call hcall => ?_⟩
      (ih ?_ fun n call hcall => ?_)
    · exact same n call (List.getElem?_append_left (List.getElem?_eq_some_iff.1 hcall).1 ▸ hcall)
    · rw [number_after, number_after]
      exact congrArg (· + _) hnumber
    · rw [number_after, Nat.add_assoc]
      refine same (event.script.length + n) call ?_
      rw [List.getElem?_append_right (Nat.le_add_right _ _), Nat.add_sub_cancel_left]
      exact hcall

end Client
end Http

/-- **Details of failures stay in the log.**

On two pages the browsers are disposed in the same way, but when they refuse to go
somewhere they may have different reasons.

The same handlers are started on both, and the same calls are settled, in the same order.
Where a call fails it fails in the same way, but for details, and a reply that is no approval
of a payment may be any other reply that is none.  Then the moves that can be made on the
first page can be made on the second, and behind each of them the pages show the same,
tickets included, the same messages have been shown, the browsers are at the same place, and
the same handler has ended with the same outcome.

Over HTTP, responses that are the same but for details are told to the handlers as replies
that are, whatever is said of those that are missing.  So if handlers are run to their ends, and
each call meets on the second page what is the same but for details as what it meets on the
first, the pages behind the handlers show the same. -/
theorem details_stay_in_the_log {browser browser' : Browser}
    (browsers : browser.SameButReason browser') :
    (∀ {policy : Policy} {moves moves' : List Move} {trail : List (Session × Report)},
      (Session.new browser).run? policy moves = some trail →
      List.Forall₂ Likeness.detail.Moves moves moves' →
      ∃ trail', (Session.new browser').run? policy moves' = some trail' ∧
        List.Forall₂ (fun next next' =>
          next.1.view = next'.1.view ∧ next.1.browser.alerts = next'.1.browser.alerts ∧
          next.1.browser.location = next'.1.browser.location ∧
          next.2.finished = next'.2.finished) trail trail') ∧
    (∀ (client : Http.Client) {call : Call} {line line' : Line},
      Http.Arrival.SameButDetail call.operation (line.arrivalOf (client.config.letter call))
        (line'.arrivalOf (client.config.letter call)) →
      ((client.service client.config.payment).reply call line).SameButDetail
        ((client.service client.config.payment).reply call line')) ∧
    ∀ (client : Http.Client) {fates fates' : Nat → Http.Fate} {events : List Event},
      (∀ n call, (events.flatMap Event.script)[n]? = some call →
        Http.Arrival.SameButDetail call.operation
          ((fates n).arrivalOf (client.config.letter call))
          ((fates' n).arrivalOf (client.config.letter call))) →
      List.Forall₂ (fun p p' =>
          p.done.view = p'.done.view ∧ p.done.browser.alerts = p'.done.browser.alerts ∧
          p.done.browser.location = p'.done.browser.location ∧
          p.done.outcome = p'.done.outcome)
        ((client.wire fates).perform client.config.stale (events.map Event.act) .new browser
          (.new true [], 0))
        ((client.wire fates').perform client.config.stale (events.map Event.act) .new browser'
          (.new true [], 0)) := by
  have alike : Likeness.detail.Sessions (.new browser) (.new browser') :=
    ⟨rfl, browsers, .nil, rfl, rfl⟩
  refine ⟨fun {policy moves moves' trail} run same => ?_,
    fun client {call line line'} same => client.reply_sameButDetail same,
    fun client {fates fates' events} same => ?_⟩
  · obtain ⟨trail', run', hsteps⟩ := (Handler.kept_detail policy).exists_run? alike same run
    exact ⟨trail', run', hsteps.imp fun next next' steps => ⟨steps.session.view,
      steps.session.browser.alerts, steps.session.browser.location, steps.report.finished⟩⟩
  · have hanswers := @Http.Client.answers_like client fates fates' events (.new true [], 0)
      (.new true [], 0) rfl fun n call hcall => by
        rw [Nat.zero_add]
        exact same n call hcall
    refine (Service.performances_like (Handler.kept_detail _) alike rfl rfl hanswers).imp ?_
    exact fun p p' ends => ⟨ends.view, ends.browser.alerts, ends.browser.location, ends.outcome⟩

/-- A check fails with one status and with another, and two browsers refuse to go to an
approval, each for its reason.  Over HTTP a check meets two pages that are no verdict, the quota
is refused with one status and with another, one of the responses breaking off, and of two
payments nobody listens to the one and the other breaks off. -/
theorem two_refusals_are_told_alike :
    ∃ (browser browser' : Browser) (moves moves' : List Move)
      (trail trail' : List (Session × Report)) (client : Http.Client)
      (fates fates' : Nat → Http.Fate),
      browser = .new .blocking ∧ browser' = .new (.refusing fun _ => "no window") ∧
      browser.SameButReason browser' ∧
      moves = [.start (.submit (.ofRaw "a")), .settle 0 (.check (.error (.status 500))),
        .start .buy, .settle 2 (.payment (.ok ⟨200, "https://pay.test"⟩))] ∧
      moves' = [.start (.submit (.ofRaw "a")), .settle 0 (.check (.error (.status 404))),
        .start .buy, .settle 2 (.payment (.ok ⟨200, "https://pay.test"⟩))] ∧
      List.Forall₂ Likeness.detail.Moves moves moves' ∧
      (Session.new browser).run? .discard moves = some trail ∧
      (Session.new browser').run? .discard moves' = some trail' ∧
      trail.map (fun next => next.1.view.result) = trail'.map (fun next => next.1.view.result) ∧
      fates 0 = ⟨true, [.http], some ⟨500, none, some "<html>".toUTF8.toList⟩, ""⟩ ∧
      fates' 0 = ⟨true, [.http], some ⟨404, none, some "null".toUTF8.toList⟩, ""⟩ ∧
      fates 1 = ⟨true, [.http], some ⟨503, none, none⟩, "error reading a body"⟩ ∧
      fates' 1 = ⟨true, [.http], some ⟨500, none, some []⟩, ""⟩ ∧
      fates 2 = ⟨false, [.http], none, "connection refused"⟩ ∧
      fates' 2 = ⟨true, [.http], some ⟨200, none, none⟩, "error reading a body"⟩ ∧
      ((client.wire fates).perform client.config.stale
          [Event.act (.submit (.ofRaw "a")), Event.act .buy] .new browser (.new true [], 0)).map
          (fun p => (p.done.view, p.done.browser.alerts)) =
        ((client.wire fates').perform client.config.stale
          [Event.act (.submit (.ofRaw "a")), Event.act .buy] .new browser' (.new true [], 0)).map
          fun p => (p.done.view, p.done.browser.alerts) := by
  have browsers : (Browser.new .blocking).SameButReason (.new (.refusing fun _ => "no window")) :=
    ⟨.refusing _ _, rfl, rfl⟩
  obtain ⟨hruns, -, hover⟩ := details_stay_in_the_log browsers
  have run : (Session.new (.new .blocking)).run? .discard
    [.start (.submit (.ofRaw "a")), .settle 0 (.check (.error (.status 500))),
      .start .buy, .settle 2 (.payment (.ok ⟨200, "https://pay.test"⟩))] = some _ := rfl
  have same : List.Forall₂ Likeness.detail.Moves
      [.start (.submit (.ofRaw "a")), .settle 0 (.check (.error (.status 500))),
        .start .buy, .settle 2 (.payment (.ok ⟨200, "https://pay.test"⟩))]
      [.start (.submit (.ofRaw "a")), .settle 0 (.check (.error (.status 404))),
        .start .buy, .settle 2 (.payment (.ok ⟨200, "https://pay.test"⟩))] :=
    .cons (.start rfl) <| .cons (.settle 0 (.check (.error (.status 500 404)))) <|
      .cons (.start rfl) <| .cons (.settle 2 (.payment (.ok _))) .nil
  obtain ⟨trail', run', hsteps⟩ := hruns run same
  let client : Http.Client := ⟨Config.default.withPaymentBase "http://localhost:2424", by decide⟩
  let fates : Nat → Http.Fate
    | 0 => ⟨true, [.http], some ⟨500, none, some "<html>".toUTF8.toList⟩, ""⟩
    | 1 => ⟨true, [.http], some ⟨503, none, none⟩, "error reading a body"⟩
    | _ => ⟨false, [.http], none, "connection refused"⟩
  let fates' : Nat → Http.Fate
    | 0 => ⟨true, [.http], some ⟨404, none, some "null".toUTF8.toList⟩, ""⟩
    | 1 => ⟨true, [.http], some ⟨500, none, some []⟩, ""⟩
    | _ => ⟨true, [.http], some ⟨200, none, none⟩, "error reading a body"⟩
  have hfates : ∀ n call,
      ([Event.submit (.ofRaw "a"), Event.buy].flatMap Event.script)[n]? = some call →
      Http.Arrival.SameButDetail call.operation ((fates n).arrivalOf (client.config.letter call))
        ((fates' n).arrivalOf (client.config.letter call)) := by
    intro n call hcall
    match n with
    | 0 =>
      cases hcall
      have harrival : (fates 0).arrivalOf (client.config.letter (.check (.ofRaw "a"))) =
        .whole 500 "<html>" := by decide +kernel
      have harrival' : (fates' 0).arrivalOf (client.config.letter (.check (.ofRaw "a"))) =
        .whole 404 "null" := by decide +kernel
      rw [harrival, harrival']
      exact .noVerdict (by decide) (fun _ => nofun) fun _ => nofun
    | 1 =>
      cases hcall
      have hstatus : ((fates 1).arrivalOf (client.config.letter .stats)).status? = some 503 := by
        decide +kernel
      have hstatus' : ((fates' 1).arrivalOf (client.config.letter .stats)).status? = some 500 := by
        decide +kernel
      exact .refused (.inl rfl) hstatus hstatus' (by decide) (by decide)
    | 2 =>
      cases hcall
      have hlost : ((fates 2).arrivalOf (client.config.letter .payment)).text? = none := by
        decide +kernel
      have hlost' : ((fates' 2).arrivalOf (client.config.letter .payment)).text? = none := by
        decide +kernel
      exact .lost hlost hlost'
    | n + 3 => cases hcall
  refine ⟨_, _, _, _, _, trail', client, fates, fates', rfl, rfl, browsers, rfl, rfl, same, run,
    run', ?_, rfl, rfl, rfl, rfl, rfl, rfl, ?_⟩
  · exact List.forall₂_eq_eq_eq ▸ List.rel_map (fun _ _ h => congrArg View.result h.1) hsteps
  · exact List.forall₂_eq_eq_eq ▸
      List.rel_map (fun _ _ h => congrArg₂ Prod.mk h.1 h.2.1) (hover client hfates)

end MeteredChecker
