import MeteredChecker.Config.Basic
import MeteredChecker.Service.Exchange
import MeteredChecker.Session.Complete

/-!
# The service over HTTP

Each call is one request, and what it comes to is a function of what came back.
The four functions of the first section say it all, and they differ in when the
body of the response is looked at.

A *check* reads the body first and only then looks at the status, because both a
success and a refusal have their say in the body.  A *quota* looks at the status
first, and reads the body only of a success.  A *payment* reads the body and
passes the status on unjudged.  A *reset* never reads a body.

So a body that breaks off is a transport failure for a check and a payment
whatever the status, for a quota on success only, and for a reset never.  What such a
failure says is the complaint of the line on which the request was made.
-/

namespace MeteredChecker
namespace Http

/-! ## What a response means -/

section outcomes

variable (complaint : String) (delivery : Delivery)

/-- What a check came to, and what is logged about it. -/
def checkOutcome : Except Failure Verdict × List LogEvent :=
  match delivery with
  | none => (.error (.transport complaint), [])
  | some r =>
      match r.text? with
      | none => (.error (.transport complaint), [])
      | some body =>
          let success := isSuccessStatus r.status
          ((Verdict.ofBody success body).mapError .decode,
           if success then [] else [.checkRefused r.status])

/-- What reading the quota came to. -/
def statsOutcome : Except Failure Quota :=
  match delivery with
  | none => .error (.transport complaint)
  | some r =>
      if isSuccessStatus r.status then
        match r.text? with
        | none => .error (.transport complaint)
        | some body => (Quota.ofBody body).mapError .decode
      else .error (.status r.status)

/-- What creating a payment came to. -/
def paymentOutcome : Except Failure Payment.Reply :=
  match delivery with
  | none => .error (.transport complaint)
  | some r =>
      match r.text? with
      | none => .error (.transport complaint)
      | some body => .ok ⟨r.status, body⟩

/-- What a reset came to. -/
def resetOutcome : Except Failure Unit :=
  match delivery with
  | none => .error (.transport complaint)
  | some r => if isSuccessStatus r.status then .ok () else .error (.status r.status)

end outcomes

/-! ## Clients -/

/-- A client of the service, with a configuration that meets every demand. -/
structure Client where
  config : Config
  valid : config.IsValid

namespace Client

/-- The client with a configuration. -/
def new (config : Config) : Except Failure Client :=
  match h : config.violation? with
  | some v => .error v.failure
  | none => .ok ⟨config, h⟩

/-- The content type of everything that is sent. -/
def contentType : String := "application/json"

/-- Asks for a check. -/
def check (c : Client) (submission : Submission) (line : Line) : Answer Line Verdict :=
  let (delivery, behind) :=
    line.send .post c.config.checkUrl (some contentType) submission.toJson.render
  let (outcome, log) := checkOutcome line.complaint delivery
  ⟨outcome, log, behind⟩

/-- Asks for the quota. -/
def stats (c : Client) (line : Line) : Answer Line Quota :=
  let (delivery, behind) := line.send .get c.config.statsUrl none ""
  ⟨statsOutcome line.complaint delivery, [], behind⟩

/-- Asks for a payment on given terms. -/
def pay (_ : Client) (terms : Payment.Terms) (line : Line) : Answer Line Payment.Reply :=
  let (delivery, behind) := line.send .post terms.url (some contentType) ""
  ⟨paymentOutcome line.complaint delivery, [], behind⟩

/-- Asks for a reset. -/
def reset (c : Client) (line : Line) : Answer Line Unit :=
  let (delivery, behind) := line.send .post c.config.resetUrl none ""
  ⟨resetOutcome line.complaint delivery, [], behind⟩

/-- The service as handlers see it, payments being made on given terms. -/
def service (c : Client) (terms : Payment.Terms) : Service Line where
  check := c.check
  stats := c.stats
  payment := c.pay terms
  reset := c.reset

end Client
end Http
end MeteredChecker
