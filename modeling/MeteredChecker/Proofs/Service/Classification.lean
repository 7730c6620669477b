import MeteredChecker.Proofs.Config.Demands
import MeteredChecker.Proofs.Service.Wire

/-!
# What a response comes to

A response has a status and a body, and the body may break off.  So of a request that is
made, three things can become: nothing arrives that could be read as a response; a head
arrives, whose body breaks off; or all of it arrives.  `Http.Arrival` is this distinction,
and nothing else that happens on a line matters to the client (`Client.check_outcome` and
its three siblings).

The four calls look at the parts of a response in four different orders, and that is all
that they differ in.  A check wants the body first, a quota the status first, a payment the
body only, and a reset the status only.  `responses_are_classified` writes down what each of
them says about each arrival, from the side of the answer: an answer of a kind is given for
these arrivals and for no others.  Every arrival has an answer, and the answers that are not
named are never given --- a check never says that a status was not expected, and a payment
never says that a body could not be read.
-/

namespace MeteredChecker

/-- The status of a response that was successful. -/
def IsSuccess (status : UInt16) : Prop := 200 ≤ status.toNat ∧ status.toNat ≤ 299

instance (status : UInt16) : Decidable (IsSuccess status) := inferInstanceAs (Decidable (_ ∧ _))

theorem isSuccessStatus_iff {status : UInt16} :
    isSuccessStatus status = true ↔ IsSuccess status := by
  simp only [isSuccessStatus, IsSuccess, Bool.and_eq_true, decide_eq_true_eq,
    UInt16.le_iff_toNat_le, UInt16.lt_iff_toNat_lt]
  exact and_congr_right fun _ => Nat.lt_succ_iff

namespace Http

/-! ## Arrivals -/

/-- What arrives of a response. -/
inductive Arrival where
  /-- Nothing that could be read as one. -/
  | nothing
  /-- The head; the body breaks off. -/
  | brokenOff (status : UInt16)
  /-- All of it. -/
  | whole (status : UInt16) (body : String)
  deriving DecidableEq, Repr

namespace Arrival

/-- What arrives with a delivery. -/
def ofDelivery : Delivery → Arrival
  | none => .nothing
  | some r =>
      match r.text? with
      | none => .brokenOff r.status
      | some body => .whole r.status body

/-- The status, if a head arrives. -/
def status? : Arrival → Option UInt16
  | .nothing => none
  | .brokenOff status | .whole status _ => some status

/-- The body, if all of it arrives. -/
def text? : Arrival → Option String
  | .nothing | .brokenOff _ => none
  | .whole _ body => some body

end Arrival

/-! The outcome of a call depends on what has arrived and on nothing else, apart from what is
said if that is not enough. -/

namespace Arrival

/-- What a check comes to. -/
def verdict (complaint : String) : Arrival → Except Failure Verdict
  | .nothing | .brokenOff _ => .error (.transport complaint)
  | .whole status body => (Verdict.ofBody (isSuccessStatus status) body).mapError .decode

/-- What reading the quota comes to. -/
def quota (complaint : String) : Arrival → Except Failure Quota
  | .nothing => .error (.transport complaint)
  | .brokenOff status =>
      .error (if isSuccessStatus status then .transport complaint else .status status)
  | .whole status body =>
      if isSuccessStatus status then (Quota.ofBody body).mapError .decode
      else .error (.status status)

/-- What creating a payment comes to. -/
def payment (complaint : String) : Arrival → Except Failure Payment.Reply
  | .nothing | .brokenOff _ => .error (.transport complaint)
  | .whole status body => .ok ⟨status, body⟩

/-- What a reset comes to. -/
def reset (complaint : String) (a : Arrival) : Except Failure Unit :=
  match a.status? with
  | none => .error (.transport complaint)
  | some status => if isSuccessStatus status then .ok () else .error (.status status)

end Arrival

theorem checkOutcome_eq (complaint : String) (delivery : Delivery) :
    (checkOutcome complaint delivery).1 = (Arrival.ofDelivery delivery).verdict complaint := by
  cases delivery with
  | none => rfl
  | some r =>
    rw [checkOutcome, Arrival.ofDelivery]
    cases r.text? <;> rfl

theorem statsOutcome_eq (complaint : String) (delivery : Delivery) :
    statsOutcome complaint delivery = (Arrival.ofDelivery delivery).quota complaint := by
  cases delivery with
  | none => rfl
  | some r =>
    rw [statsOutcome, Arrival.ofDelivery]
    cases r.text? with
    | none => exact (apply_ite Except.error _ _ _).symm
    | some body => rfl

theorem paymentOutcome_eq (complaint : String) (delivery : Delivery) :
    paymentOutcome complaint delivery = (Arrival.ofDelivery delivery).payment complaint := by
  cases delivery with
  | none => rfl
  | some r =>
    rw [paymentOutcome, Arrival.ofDelivery]
    cases r.text? <;> rfl

theorem resetOutcome_eq (complaint : String) (delivery : Delivery) :
    resetOutcome complaint delivery = (Arrival.ofDelivery delivery).reset complaint := by
  cases delivery with
  | none => rfl
  | some r =>
    rw [resetOutcome, Arrival.ofDelivery]
    cases r.text? <;> rfl

end Http

/-- What comes back to the next request that is made to a server: nothing if nobody listens
or the server hangs up, and nothing that counts if the head cannot be read. -/
def Line.incoming (line : Line) : Delivery :=
  if line.listening then line.deliveries.head?.join.filter Response.isReadable else none

/-- What arrives of the response to the next request that is made to a server. -/
def Line.arrival (line : Line) : Http.Arrival := .ofDelivery line.incoming

/-- A letter has an address at which it reaches a server, in the schemes that are spoken
there. -/
def Letter.Reaches (letter : Letter) (line : Line) : Prop :=
  (requestTarget? line.schemes letter.url).isSome = true

instance (letter : Letter) (line : Line) : Decidable (letter.Reaches line) :=
  inferInstanceAs (Decidable (_ = _))

/-- What arrives of the response to a letter: nothing, if there is no way for it to a server. -/
def Line.arrivalOf (line : Line) (letter : Letter) : Http.Arrival :=
  if letter.Reaches line then line.arrival else .nothing

/-- What comes back to a letter does not depend on what is in it. -/
theorem Line.post_fst (line : Line) (letter : Letter) :
    (line.post letter).1 = if letter.Reaches line then line.incoming else none := by
  obtain ⟨listening, schemes, deliveries, received, complaint⟩ := line
  by_cases reachable : letter.Reaches ⟨listening, schemes, deliveries, received, complaint⟩
  · obtain ⟨target, htarget⟩ := Option.isSome_iff_exists.1 reachable
    rw [if_pos reachable, post, send, incoming, htarget]
    cases listening <;> cases deliveries <;> rfl
  · have htarget : requestTarget? schemes letter.url = none := by
      simpa [Letter.Reaches] using reachable
    rw [if_neg reachable, post, send, htarget]

theorem Line.ofDelivery_post (line : Line) (letter : Letter) :
    .ofDelivery (line.post letter).1 = line.arrivalOf letter := by
  rw [post_fst, arrivalOf, apply_ite Http.Arrival.ofDelivery]
  rfl

namespace Http

/-! ## Answers -/

/-- The answer to a check, for what has arrived. -/
structure CheckClassified (a : Arrival) (outcome : Except Failure Verdict) : Prop where
  transport : (∃ detail, outcome = .error (.transport detail)) ↔ a.text? = none
  result : ∀ text, outcome = .ok (.result text) ↔
    ∃ status body, a = .whole status body ∧ IsSuccess status ∧
      Verdict.resultShape.reader.parse body = .ok text
  refusal : ∀ message, outcome = .ok (.refusal message) ↔
    ∃ status body, a = .whole status body ∧ ¬ IsSuccess status ∧
      Verdict.refusalShape.reader.parse body = .ok message
  decode : (∃ detail, outcome = .error (.decode detail)) ↔
    ∃ status body, a = .whole status body ∧
      (IsSuccess status → ∀ text, Verdict.resultShape.reader.parse body ≠ .ok text) ∧
      (¬ IsSuccess status → ∀ message, Verdict.refusalShape.reader.parse body ≠ .ok message)
  exhaustive : (∃ detail, outcome = .error (.transport detail)) ∨
    (∃ detail, outcome = .error (.decode detail)) ∨ ∃ verdict, outcome = .ok verdict

/-- The answer to a question for the quota, for what has arrived. -/
structure StatsClassified (a : Arrival) (outcome : Except Failure Quota) : Prop where
  transport : (∃ detail, outcome = .error (.transport detail)) ↔
    a.status? = none ∨ ∃ status, a = .brokenOff status ∧ IsSuccess status
  status : ∀ code, outcome = .error (.status code) ↔ a.status? = some code ∧ ¬ IsSuccess code
  decode : (∃ detail, outcome = .error (.decode detail)) ↔
    ∃ status body, a = .whole status body ∧ IsSuccess status ∧
      ∀ quota, Quota.ofBody body ≠ .ok quota
  quota : ∀ quota, outcome = .ok quota ↔
    ∃ status body, a = .whole status body ∧ IsSuccess status ∧ Quota.ofBody body = .ok quota
  exhaustive : (∃ detail, outcome = .error (.transport detail)) ∨
    (∃ code, outcome = .error (.status code)) ∨ (∃ detail, outcome = .error (.decode detail)) ∨
    ∃ quota, outcome = .ok quota

/-- The answer to a request for a payment, for what has arrived. -/
structure PaymentClassified (a : Arrival) (outcome : Except Failure Payment.Reply) : Prop where
  transport : (∃ detail, outcome = .error (.transport detail)) ↔ a.text? = none
  reply : ∀ reply, outcome = .ok reply ↔ a = .whole reply.status reply.body
  exhaustive : (∃ detail, outcome = .error (.transport detail)) ∨ ∃ reply, outcome = .ok reply

/-- The answer to a reset, for what has arrived. -/
structure ResetClassified (a : Arrival) (outcome : Except Failure Unit) : Prop where
  transport : (∃ detail, outcome = .error (.transport detail)) ↔ a.status? = none
  done : outcome = .ok () ↔ ∃ status, a.status? = some status ∧ IsSuccess status
  status : ∀ code, outcome = .error (.status code) ↔ a.status? = some code ∧ ¬ IsSuccess code
  exhaustive : (∃ detail, outcome = .error (.transport detail)) ∨ outcome = .ok () ∨
    ∃ code, outcome = .error (.status code)

namespace Arrival

theorem checkClassified (complaint : String) (a : Arrival) :
    CheckClassified a (a.verdict complaint) := by
  cases a with
  | nothing | brokenOff status => constructor <;> simp [verdict, text?]
  | whole status body =>
    by_cases hsuccess : IsSuccess status
    · have hbool := isSuccessStatus_iff.2 hsuccess
      cases hparse : Verdict.resultShape.reader.parse body <;> constructor <;>
        simp [verdict, Verdict.ofBody, hbool, hparse, hsuccess, Except.map, Except.mapError, text?]
    · have hbool := eq_false_of_ne_true (mt isSuccessStatus_iff.1 hsuccess)
      cases hparse : Verdict.refusalShape.reader.parse body <;> constructor <;>
        simp [verdict, Verdict.ofBody, hbool, hparse, hsuccess, Except.map, Except.mapError, text?]

theorem statsClassified (complaint : String) (a : Arrival) :
    StatsClassified a (a.quota complaint) := by
  cases a with
  | nothing => constructor <;> simp [quota, status?]
  | brokenOff status =>
    by_cases hsuccess : IsSuccess status
    · have hbool := isSuccessStatus_iff.2 hsuccess
      constructor <;> simp +contextual [quota, hbool, hsuccess, status?]
    · have hbool := eq_false_of_ne_true (mt isSuccessStatus_iff.1 hsuccess)
      constructor <;> simp +contextual [quota, hbool, hsuccess, status?]
  | whole status body =>
    by_cases hsuccess : IsSuccess status
    · have hbool := isSuccessStatus_iff.2 hsuccess
      cases hparse : Quota.ofBody body <;> constructor <;>
        simp +contextual [quota, hbool, hparse, hsuccess, Except.mapError, status?]
    · have hbool := eq_false_of_ne_true (mt isSuccessStatus_iff.1 hsuccess)
      constructor <;> simp +contextual [quota, hbool, hsuccess, status?]

theorem paymentClassified (complaint : String) (a : Arrival) :
    PaymentClassified a (a.payment complaint) := by
  cases a with
  | nothing | brokenOff status => constructor <;> simp [payment, text?]
  | whole status body =>
    constructor
    case reply =>
      rintro ⟨status', body'⟩
      simp [payment]
    all_goals simp [payment, text?]

theorem resetClassified (complaint : String) (a : Arrival) :
    ResetClassified a (a.reset complaint) := by
  cases hstatus : a.status? with
  | none => constructor <;> simp [reset, hstatus]
  | some status =>
    by_cases hsuccess : IsSuccess status
    · have hbool := isSuccessStatus_iff.2 hsuccess
      constructor <;> simp +contextual [reset, hstatus, hbool, hsuccess]
    · have hbool := eq_false_of_ne_true (mt isSuccessStatus_iff.1 hsuccess)
      constructor <;> simp +contextual [reset, hstatus, hbool, hsuccess]

end Arrival
namespace Client

variable (client : Client) {line : Line}

/-- What a check comes to depends on what arrives of the response. -/
theorem check_outcome {submission : Submission}
    (reachable : (client.config.letter (.check submission)).Reaches line) :
    (client.check submission line).outcome = line.arrival.verdict line.complaint := by
  rw [check_eq, line.post_fst, if_pos reachable, checkOutcome_eq, Line.arrival]

theorem stats_outcome (reachable : (client.config.letter .stats).Reaches line) :
    (client.stats line).outcome = line.arrival.quota line.complaint := by
  rw [stats_eq, line.post_fst, if_pos reachable, statsOutcome_eq, Line.arrival]

theorem pay_outcome (reachable : (client.config.letter .payment).Reaches line) :
    (client.pay client.config.payment line).outcome = line.arrival.payment line.complaint := by
  rw [pay_eq, line.post_fst, if_pos reachable, paymentOutcome_eq, Line.arrival]

theorem reset_outcome (reachable : (client.config.letter .reset).Reaches line) :
    (client.reset line).outcome = line.arrival.reset line.complaint := by
  rw [reset_eq, line.post_fst, if_pos reachable, resetOutcome_eq, Line.arrival]

end Client
end Http

/-- **Every response has its answer, and every answer its responses.**

Given is a configuration that the client accepts, and a server that can be reached at its
addresses, with whatever is next on its line.

A check fails in transport if not all of a body arrives, whatever the status is.  Otherwise
it has a result if and only if the status is a success and the body has one, it has a
message if and only if the status is not a success and the body has one, and in all other
cases the body could not be read.  It never says that a status was not expected.

A quota fails in transport if no head arrives, or if the body of a success breaks off.  If
the status is not a success that is what it says, whatever the body is and whether it breaks
off or not.  The body of a success has a quota or could not be read.

A payment fails in transport if not all of a body arrives, and otherwise says what has
arrived, for every status.  A reset fails in transport if no head arrives, says so if the
status is not a success, and does not look at the body. -/
theorem responses_are_classified {config : Config} {client : Http.Client}
    (accepted : Http.Client.new config = .ok client)
    {line : Line} (reachable : ∀ call, (config.letter call).Reaches line) :
    (∀ submission,
      Http.CheckClassified line.arrival (client.check submission line).outcome) ∧
    Http.StatsClassified line.arrival (client.stats line).outcome ∧
    Http.PaymentClassified line.arrival (client.pay config.payment line).outcome ∧
    Http.ResetClassified line.arrival (client.reset line).outcome := by
  obtain rfl := Http.Client.config_eq_of_new accepted
  refine ⟨fun submission => ?_, ?_, ?_, ?_⟩
  · rw [client.check_outcome (reachable _)]
    exact line.arrival.checkClassified _
  · rw [client.stats_outcome (reachable _)]
    exact line.arrival.statsClassified _
  · rw [client.pay_outcome (reachable _)]
    exact line.arrival.paymentClassified _
  · rw [client.reset_outcome (reachable _)]
    exact line.arrival.resetClassified _

/-- Every kind of answer is given, over plain connections and over secured ones.  If the body of
an error breaks off, that is a failure in transport for a check and for a payment, and a status
that was not expected for a quota and for a reset.  If all of it arrives there is a verdict in
it, as a result or as the message of a refusal, or a quota, or it could not be read; a payment
says what it is, and a reset does not ask. -/
theorem responses_with_and_without_their_bodies :
    ∃ (client : Http.Client) (answering : UInt16 → Option String → Line),
      Http.Client.new (Config.default.withPaymentBase "https://localhost:2424") = .ok client ∧
      (answering = fun status body => ⟨true, [.http, .https],
        [some ⟨status, none, body.map (·.toUTF8.toList)⟩], [], "connection lost"⟩) ∧
      (∀ status body call, ((Config.default.withPaymentBase "https://localhost:2424").letter
        call).Reaches (answering status body)) ∧
      (∃ detail, (client.check (.ofRaw "a") (answering 500 none)).outcome =
        .error (.transport detail)) ∧
      (client.stats (answering 500 none)).outcome = .error (.status 500) ∧
      (∃ detail, (client.pay client.config.payment (answering 500 none)).outcome =
        .error (.transport detail)) ∧
      (client.reset (answering 500 none)).outcome = .error (.status 500) ∧
      (client.check (.ofRaw "a") (answering 200 (some "\x7b\"result\":\"fine\"\x7d"))).outcome =
        .ok (.result "fine") ∧
      (client.check (.ofRaw "a") (answering 422 (some "\x7b\"message\":\"no\"\x7d"))).outcome =
        .ok (.refusal "no") ∧
      (∃ detail, (client.check (.ofRaw "a") (answering 200 (some "<html>"))).outcome =
        .error (.decode detail)) ∧
      (∃ detail, (client.stats (answering 200 (some "<html>"))).outcome =
        .error (.decode detail)) ∧
      (client.stats (answering 200
          (some "\x7b\"totalCalls\":9,\"remainingCalls\":0\x7d"))).outcome = .ok ⟨9, 0⟩ ∧
      (client.pay client.config.payment (answering 402 (some "no"))).outcome = .ok ⟨402, "no"⟩ ∧
      (client.reset (answering 200 none)).outcome = .ok () := by
  let config := Config.default.withPaymentBase "https://localhost:2424"
  have accepted := Http.Client.new_eq_ok (show config.IsValid by decide)
  let answering (status : UInt16) (body : Option String) : Line :=
    ⟨true, [.http, .https], [some ⟨status, none, body.map (·.toUTF8.toList)⟩], [],
      "connection lost"⟩
  have reachable (status : UInt16) (body : Option String) (call : Call) :
      (config.letter call).Reaches (answering status body) := by
    have hcheck : (requestTarget? [.http, .https] config.checkUrl).isSome = true := by
      decide +kernel
    have hstats : (requestTarget? [.http, .https] config.statsUrl).isSome = true := by
      decide +kernel
    have hpayment : (requestTarget? [.http, .https] config.payment.url).isSome = true := by
      decide +kernel
    have hreset : (requestTarget? [.http, .https] config.resetUrl).isSome = true := by
      decide +kernel
    cases call with
    | check submission => exact hcheck
    | stats => exact hstats
    | payment => exact hpayment
    | reset => exact hreset
  have classified (status : UInt16) (body : Option String) :=
    responses_are_classified accepted (reachable status body)
  have success : IsSuccess 200 := by decide
  have failure : ¬ IsSuccess 500 := by decide
  obtain ⟨hcheck, hstats, hpayment, hreset⟩ := classified 500 none
  refine ⟨_, answering, accepted, rfl, reachable, (hcheck _).transport.2 rfl,
    (hstats.status 500).2 ⟨rfl, failure⟩, hpayment.transport.2 rfl,
    (hreset.status 500).2 ⟨rfl, failure⟩, ?_, ?_, ?_, ?_, ?_, ?_, ?_⟩
  · exact (((classified 200 _).1 _).result _).2
      ⟨200, "\x7b\"result\":\"fine\"\x7d", by decide +kernel, success, by decide +kernel⟩
  · exact (((classified 422 _).1 _).refusal _).2
      ⟨422, "\x7b\"message\":\"no\"\x7d", by decide +kernel, by decide, by decide +kernel⟩
  · exact ((classified 200 _).1 _).decode.2 ⟨200, "<html>", by decide +kernel,
      fun _ text => nofun, fun refused => absurd success refused⟩
  · exact (classified 200 _).2.1.decode.2
      ⟨200, "<html>", by decide +kernel, success, fun quota => nofun⟩
  · exact ((classified 200 _).2.1.quota _).2 ⟨200,
      "\x7b\"totalCalls\":9,\"remainingCalls\":0\x7d", by decide +kernel, success,
      by decide +kernel⟩
  · exact ((classified 402 _).2.2.1.reply _).2 (by decide +kernel)
  · exact (classified 200 _).2.2.2.done.2 ⟨200, rfl, success⟩

end MeteredChecker
