import MeteredChecker.Payment.Reply
import MeteredChecker.Quota
import MeteredChecker.View

/-!
# The log

What the program says about its own doings is a list of events.  An event is a
value, not a line: what it is about, and only from that its level, where it
comes from, and its text.

No event holds the code of a submission; of that, the log knows the length.
-/

namespace MeteredChecker

/-- How much an event matters. -/
inductive Level where
  | error
  | warn
  | info
  | debug
  deriving DecidableEq, Repr

/-- The name of a level. -/
def Level.name : Level → String
  | .error => "ERROR"
  | .warn => "WARN"
  | .info => "INFO"
  | .debug => "DEBUG"

/-- How much a level matters: the lower the rank, the more. -/
def Level.rank : Level → Nat
  | .error => 1
  | .warn => 2
  | .info => 3
  | .debug => 4

/-- Everything that is logged. -/
inductive LogEvent where
  | checking (octets : Nat)
  | checkFailed (failure : Failure)
  | checkDiscarded (ticket : Ticket)
  | checkRefused (status : UInt16)
  | quotaRead (quota : Quota)
  | quotaFailed (failure : Failure)
  | quotaDiscarded (ticket : Ticket)
  | resetFailed (failure : Failure)
  | paymentAnswered (reply : Payment.Reply)
  | redirecting
  | paymentFailed (failure : Failure)
  | settingsIgnored (failure : Failure)
  | clientMissing (failure : Failure)
  deriving DecidableEq, Repr

/-! ## Reasons of statuses -/

/-- The words that go with the statuses of refused checks. -/
def statusReasons : List (UInt16 × String) :=
  [(300, "Multiple Choices"), (301, "Moved Permanently"), (302, "Found"), (303, "See Other"),
   (304, "Not Modified"), (305, "Use Proxy"), (307, "Temporary Redirect"),
   (308, "Permanent Redirect"), (400, "Bad Request"), (401, "Unauthorized"),
   (402, "Payment Required"), (403, "Forbidden"), (404, "Not Found"),
   (405, "Method Not Allowed"), (406, "Not Acceptable"),
   (407, "Proxy Authentication Required"), (408, "Request Timeout"), (409, "Conflict"),
   (410, "Gone"), (411, "Length Required"), (412, "Precondition Failed"),
   (413, "Payload Too Large"), (414, "URI Too Long"), (415, "Unsupported Media Type"),
   (416, "Range Not Satisfiable"), (417, "Expectation Failed"), (418, "I'm a teapot"),
   (421, "Misdirected Request"), (422, "Unprocessable Entity"), (423, "Locked"),
   (424, "Failed Dependency"), (425, "Too Early"), (426, "Upgrade Required"),
   (428, "Precondition Required"), (429, "Too Many Requests"),
   (431, "Request Header Fields Too Large"),
   (451, "Unavailable For Legal Reasons"), (500, "Internal Server Error"),
   (501, "Not Implemented"), (502, "Bad Gateway"), (503, "Service Unavailable"),
   (504, "Gateway Timeout"), (505, "HTTP Version Not Supported"),
   (506, "Variant Also Negotiates"), (507, "Insufficient Storage"), (508, "Loop Detected"),
   (510, "Not Extended"), (511, "Network Authentication Required")]

/-- A status with its words. -/
def statusText (status : UInt16) : String :=
  toString status.toNat ++ " " ++ (statusReasons.lookup status).getD "<unknown status code>"

namespace LogEvent

/-- The level of an event. -/
def level : LogEvent → Level
  | .checkFailed _ | .paymentFailed _ | .settingsIgnored _ | .clientMissing _ => .error
  | .quotaFailed _ | .resetFailed _ => .warn
  | .redirecting => .info
  | .checking _ | .checkDiscarded _ | .checkRefused _ | .quotaRead _ | .quotaDiscarded _
  | .paymentAnswered _ => .debug

/-- The part of the program that an event comes from. -/
def target : LogEvent → String
  | .checking _ | .checkFailed _ | .checkDiscarded _ => "checker_core::workflow::submission"
  | .quotaRead _ | .quotaFailed _ | .quotaDiscarded _ | .resetFailed _ =>
      "checker_core::workflow::quota"
  | .paymentAnswered _ | .redirecting | .paymentFailed _ => "checker_core::workflow::payment"
  | .checkRefused _ => "checker_client::http"
  | .settingsIgnored _ => "checker_web::settings"
  | .clientMissing _ => "checker_web::pages::checker"

/-- The text of an event. -/
def text : LogEvent → String
  | .checking octets => "Checking " ++ toString octets ++ " bytes of code"
  | .checkFailed e => "Check request failed: " ++ e.message
  | .checkDiscarded t =>
      "Discarded superseded check result (ticket " ++ toString t.value.toNat ++ ")"
  | .checkRefused status => "Check rejected with status " ++ statusText status
  | .quotaRead q =>
      "Quota: " ++ toString q.total.toNat ++ " used, " ++ toString q.remaining.toNat ++
        " remaining"
  | .quotaFailed e => "Could not fetch stats: " ++ e.message
  | .quotaDiscarded t =>
      "Discarded superseded quota snapshot (ticket " ++ toString t.value.toNat ++ ")"
  | .resetFailed e => "Quota reset failed: " ++ e.message
  | .paymentAnswered r =>
      "Payment endpoint answered " ++ toString r.status.toNat ++ ": " ++ r.body
  | .redirecting => "Redirecting to payment approval"
  | .paymentFailed e => "Payment initiation failed: " ++ e.message
  | .settingsIgnored e => "Invalid build configuration, using defaults: " ++ e.message
  | .clientMissing e => "Cannot start checker client: " ++ e.message

/-- An event on one line: its level and its text. -/
def line (e : LogEvent) : String := e.level.name ++ " " ++ e.text

end LogEvent
end MeteredChecker
