import MeteredChecker.Proofs.Service.Echo
import MeteredChecker.Service.Http

/-!
# The service over HTTP is a script

The client turns calls into requests and what comes back into answers.  Whatever comes
back --- or does not: nobody may listen, and a response may break off --- the handlers
over the client do what they would do over a script that gives the same answers.  That
such a script exists and that the handlers cannot tell is true of every service
(`Service.answers_echo`, `Service.performances_alike`).  What is particular to the client
is said here: it logs nothing of its own but that a check was refused, and the requests
that reach the server are the calls, one by one (`http_run_is_scripted_run`).

## Fates

Anything may become of any request, so every request is given a `Fate`, by its number
among the calls.  A request that is refused never reaches the server, while one that is
hung up on does; and the number of a call counts those that were refused, too.
-/

namespace MeteredChecker

/-! ## A service in a changing world -/

/-- An answer, and one call more. -/
def Answer.numbered {σ α : Type} (r : Answer σ α) (calls : Nat) : Answer (σ × Nat) α :=
  ⟨r.outcome, r.log, (r.state, calls + 1)⟩

namespace Service

variable {σ : Type} (service : Service σ) (world : Nat → σ → σ)

/-- A service that counts calls, and whose state is changed before each of them. -/
def amid : Service (σ × Nat) where
  check submission state := (service.check submission (world state.2 state.1)).numbered state.2
  stats state := (service.stats (world state.2 state.1)).numbered state.2
  payment state := (service.payment (world state.2 state.1)).numbered state.2
  reset state := (service.reset (world state.2 state.1)).numbered state.2

theorem reply_amid (call : Call) (state : σ × Nat) :
    (service.amid world).reply call state = service.reply call (world state.2 state.1) := by
  cases call <;> rfl

theorem remark_amid (call : Call) (state : σ × Nat) :
    (service.amid world).remark call state = service.remark call (world state.2 state.1) := by
  cases call <;> rfl

theorem next_amid (call : Call) (state : σ × Nat) :
    (service.amid world).next call state =
      (service.next call (world state.2 state.1), state.2 + 1) := by
  cases call <;> rfl

end Service

/-! ## Requests -/

/-- What is sent for a call, and where. -/
structure Letter where
  method : Method
  url : String
  contentType : Option String
  body : String

/-- What a client with a configuration sends for a call: the code of a check as JSON, the
amount of a payment in the address, and for the rest nothing but where it is sent. -/
def Config.letter (config : Config) : Call → Letter
  | .check submission =>
      ⟨.post, config.checkUrl, some "application/json", submission.toJson.render⟩
  | .stats => ⟨.get, config.statsUrl, none, ""⟩
  | .payment =>
      ⟨.post, Text.dropEnd '/' (config.payment.base.getD "") ++ config.payment.path ++
        "?amount=" ++ config.payment.amountParam, some "application/json", ""⟩
  | .reset => ⟨.post, config.resetUrl, none, ""⟩

/-- The request that a server receives which speaks some schemes, if its address is one that
can be reached in them. -/
def Letter.request? (letter : Letter) (schemes : List Scheme) : Option Request :=
  (requestTarget? schemes letter.url).map fun target =>
    ⟨letter.method, target, letter.contentType, letter.body⟩

/-- Sends a letter. -/
def Line.post (line : Line) (letter : Letter) : Delivery × Line :=
  line.send letter.method letter.url letter.contentType letter.body

/-- A server receives what is sent to it if it listens and can be reached. -/
theorem Line.received_post (line : Line) (letter : Letter) :
    (line.post letter).2.received = line.received ++
      if line.listening then (letter.request? line.schemes).toList else [] := by
  obtain ⟨listening, schemes, deliveries, received, complaint⟩ := line
  rw [post, send, Letter.request?]
  cases requestTarget? schemes letter.url with
  | none => simp
  | some target => cases listening <;> cases deliveries <;> simp

namespace Http

/-- What becomes of a request: whether anybody listens and in which schemes, what comes back,
and what is said if that is not a complete response. -/
structure Fate where
  listening : Bool
  schemes : List Scheme
  delivery : Delivery
  complaint : String

/-- The server as a request with this fate meets it. -/
def Fate.meet (fate : Fate) (line : Line) : Line :=
  ⟨fate.listening, fate.schemes, [fate.delivery], line.received, fate.complaint⟩

/-- The requests that reach the server when calls are made, the first of which has a
number. -/
def arrivals (config : Config) (fates : Nat → Fate) (first : Nat) (calls : List Call) :
    List Request :=
  (calls.zipIdx first).filterMap fun (call, number) =>
    if (fates number).listening then (config.letter call).request? (fates number).schemes else none

namespace Client

theorem config_eq_of_new {config : Config} {client : Client}
    (accepted : new config = .ok client) : client.config = config := by
  rw [new] at accepted
  split at accepted <;> cases accepted
  rfl

/-- The service as handlers see it, with a fate for every request; the configuration of
the client says on which terms payments are made. -/
def wire (client : Client) (fates : Nat → Fate) : Service (Line × Nat) :=
  (client.service client.config.payment).amid fun number line => (fates number).meet line

section calls

variable (client : Client) (line : Line)

/-! A call is one letter, and what it comes to is a function of what comes back. -/

theorem check_eq (submission : Submission) :
    client.check submission line =
      ⟨(checkOutcome line.complaint (line.post (client.config.letter (.check submission))).1).1,
        (checkOutcome line.complaint (line.post (client.config.letter (.check submission))).1).2,
        (line.post (client.config.letter (.check submission))).2⟩ := by
  rw [Line.post, Config.letter, check, contentType]

theorem stats_eq :
    client.stats line =
      ⟨statsOutcome line.complaint (line.post (client.config.letter .stats)).1, [],
        (line.post (client.config.letter .stats)).2⟩ := by
  rw [Line.post, Config.letter, stats]

theorem pay_eq :
    client.pay client.config.payment line =
      ⟨paymentOutcome line.complaint (line.post (client.config.letter .payment)).1, [],
        (line.post (client.config.letter .payment)).2⟩ := by
  rw [Line.post, Config.letter, pay, contentType, Payment.Terms.url]

theorem reset_eq :
    client.reset line =
      ⟨resetOutcome line.complaint (line.post (client.config.letter .reset)).1, [],
        (line.post (client.config.letter .reset)).2⟩ := by
  rw [Line.post, Config.letter, reset]

theorem next_eq (call : Call) :
    (client.service client.config.payment).next call line =
      (line.post (client.config.letter call)).2 := by
  cases call <;> simp only [Service.next, service, check_eq, stats_eq, pay_eq, reset_eq]

/-- The client logs that a check was refused, and nothing else. -/
theorem isRemark_of_checkOutcome (complaint : String) (delivery : Delivery) :
    ∀ e ∈ (checkOutcome complaint delivery).2, e.isRemark = true := by
  unfold checkOutcome
  cases delivery with
  | none => exact nofun
  | some r =>
    dsimp only
    cases r.text? with
    | none => exact nofun
    | some body =>
      dsimp only
      cases isSuccessStatus r.status with
      | true => exact nofun
      | false => exact List.forall_mem_singleton.2 rfl

theorem discreet_service : (client.service client.config.payment).Discreet := by
  intro call line
  cases call with
  | check submission =>
    simp only [Service.remark, service, check_eq]
    exact isRemark_of_checkOutcome _ _
  | stats | payment | reset =>
    simp only [Service.remark, service, stats_eq, pay_eq, reset_eq]
    exact nofun

end calls

variable (client : Client) (fates : Nat → Fate)

theorem discreet_wire : (client.wire fates).Discreet := by
  intro call state
  rw [wire, Service.remark_amid]
  exact client.discreet_service call _

theorem arrivals_cons (config : Config) (first : Nat) (call : Call) (calls : List Call) :
    arrivals config fates first (call :: calls) =
      (if (fates first).listening then
          ((config.letter call).request? (fates first).schemes).toList else []) ++
        arrivals config fates (first + 1) calls := by
  rw [arrivals, List.zipIdx_cons, arrivals]
  cases hlistening : (fates first).listening <;>
    cases hrequest : (config.letter call).request? (fates first).schemes <;>
    simp [hlistening, hrequest]

/-- **Calls are received as their requests**, in order and no more than one for each. -/
theorem received_after (calls : List Call) (state : Line × Nat) :
    ((client.wire fates).after calls state).1.received =
      state.1.received ++ arrivals client.config fates state.2 calls := by
  induction calls generalizing state with
  | nil => simp [Service.after, arrivals]
  | cons call calls ih =>
    have hfirst : ((client.wire fates).next call state).1.received = state.1.received ++
        if (fates state.2).listening then
          ((client.config.letter call).request? (fates state.2).schemes).toList else [] := by
      rw [wire, Service.next_amid, next_eq, Line.received_post]
      rfl
    have hnumber : ((client.wire fates).next call state).2 = state.2 + 1 := by
      rw [wire, Service.next_amid]
    have hlater := ih ((client.wire fates).next call state)
    rw [hfirst, hnumber] at hlater
    rw [arrivals_cons, ← List.append_assoc]
    exact hlater

end Client
end Http

/-- **Over HTTP or over a script, the page goes through the same.**

Given is any configuration that the client accepts, with the terms of payments and the
policy that are in it; any browser; any events, handled one after the other, each to its
end; and any fate for every request.

There is a script, with cues for these events, that replies to the calls of each event what
the client replies.  Over every such script the page behind each event is the same, tickets
included; the browser is the same, with its messages and its location; the same calls are
made, and a purchase ends with the same outcome.  The log is the same, but for the remarks
of the client about refused checks.

Behind each event the server has received the requests that the calls so far are, in their
order, but for those that it was not listening to or that have no address to reach it in the
schemes that it spoke. -/
theorem http_run_is_scripted_run {config : Config} {client : Http.Client}
    (accepted : Http.Client.new config = .ok client) (fates : Nat → Http.Fate)
    (browser : Browser) (events : List Event) :
    let performed := (client.wire fates).perform config.stale (events.map Event.act) .new browser
      (.new true [], 0)
    let scripted := fun (script : Script) (cues : List Cue) =>
      Service.scripted.perform config.stale (cues.map Cue.act) .new browser script
    (∃ (script : Script) (cues : List Cue), cues.map Cue.event = events ∧
      (scripted script cues).map Service.scripted.repliesIn =
        performed.map (client.wire fates).repliesIn) ∧
    (∀ (script : Script) (cues : List Cue), cues.map Cue.event = events →
      (scripted script cues).map Service.scripted.repliesIn =
        performed.map (client.wire fates).repliesIn →
      List.Forall₂ (fun p p' => p.done.Alike p'.done) performed (scripted script cues)) ∧
    (∀ earlier p later, performed = earlier ++ p :: later →
      p.done.state.1.received =
        Http.arrivals config fates 0 ((earlier ++ [p]).flatMap fun p => p.done.calls)) := by
  obtain rfl := Http.Client.config_eq_of_new accepted
  intro performed scripted
  refine ⟨?_, fun script cues hevents hreplies => ?_, fun earlier p later hsplit => ?_⟩
  · exact Service.exists_echo (client.wire fates) _ events .new browser _
  · have hsame := Service.answers_eq_of_replies client.config.stale ?_ hreplies.symm
    · exact Service.performances_alike _ (client.discreet_wire fates) Service.silent_scripted
        hsame browser
    · rw [List.map_map, List.map_map]
      exact (List.map_id events).trans hevents.symm
  · rw [(client.wire fates).state_of_perform _ hsplit, Http.Client.received_after]
    rfl

/-- A check is refused with a body that says nothing, nobody listens when the quota is asked
for, and a purchase goes through on a secured connection: a script makes up for the client, and
the server has received two requests. -/
theorem refused_unheard_and_approved :
    ∃ (client : Http.Client) (fates : Nat → Http.Fate) (script : Script) (cues : List Cue)
      (submitted bought : Performance (Line × Nat)),
      Http.Client.new (Config.default.withPaymentBase "https://localhost:2424/") = .ok client ∧
      (client.wire fates).perform .apply [Event.act (.submit (.ofRaw " a")), Event.act .buy] .new
        (.new .willing) (.new true [], 0) = [submitted, bought] ∧
      cues.map Cue.event = [.submit (.ofRaw " a"), .buy] ∧
      List.Forall₂ (fun p p' => p.done.Alike p'.done) [submitted, bought]
        (Service.scripted.perform .apply (cues.map Cue.act) .new (.new .willing) script) ∧
      bought.done.state.1.received =
        [⟨.post, "/api/check", some "application/json", "\x7b\"code\":\"a\"\x7d"⟩,
          ⟨.post, "/paypal/makePayment?amount=1.00", some "application/json", ""⟩] := by
  have accepted : Http.Client.new (Config.default.withPaymentBase "https://localhost:2424/") =
    .ok ⟨Config.default.withPaymentBase "https://localhost:2424/", by decide⟩ := rfl
  let fates : Nat → Http.Fate
    | 0 => ⟨true, [.http], some ⟨400, none, some []⟩, ""⟩
    | 1 => ⟨false, [.http], none, "connection refused"⟩
    | _ => ⟨true, [.https], some ⟨200, none, some "https://pay.test/1".toUTF8.toList⟩, ""⟩
  obtain ⟨⟨script, cues, hevents, hreplies⟩, halike, hreceived⟩ :=
    http_run_is_scripted_run accepted fates (.new .willing) [.submit (.ofRaw " a"), .buy]
  refine ⟨_, fates, script, cues, _, _, accepted, rfl, hevents, halike script cues hevents hreplies,
    (hreceived [_] _ [] rfl).trans ?_⟩
  simp only [List.flatMap_append, List.flatMap_singleton, Service.calls_complete]
  decide +kernel

end MeteredChecker
