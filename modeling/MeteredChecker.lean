import MeteredChecker.Config.Wire
import MeteredChecker.Page.Console
import MeteredChecker.Page.Site
import MeteredChecker.Service.Scripted
import MeteredChecker.Session.Interleaved
import MeteredChecker.Address.Name.Basic
import MeteredChecker.Proofs.Session.Burst
import MeteredChecker.Proofs.Session.Run
import MeteredChecker.Proofs.Session.Likeness
import MeteredChecker.Proofs.Session.Course
import MeteredChecker.Proofs.Session.Ticket
import MeteredChecker.Proofs.Session.LatestResult
import MeteredChecker.Proofs.Session.LatestQuota
import MeteredChecker.Proofs.Session.LastSettled
import MeteredChecker.Proofs.Session.Affordance
import MeteredChecker.Proofs.Session.Superseded
import MeteredChecker.Proofs.Session.Traffic
import MeteredChecker.Proofs.Session.Completion
import MeteredChecker.Proofs.Session.Purchase
import MeteredChecker.Proofs.Session.Diagnostics
import MeteredChecker.Proofs.Session.Separation
import MeteredChecker.Proofs.Session.Indifference
import MeteredChecker.Proofs.Session.InOrder
import MeteredChecker.Proofs.Session.Form
import MeteredChecker.Proofs.Session.Repetition
import MeteredChecker.Proofs.Service.Enactment
import MeteredChecker.Proofs.Service.Prompt
import MeteredChecker.Proofs.Service.Echo
import MeteredChecker.Proofs.Service.Wire
import MeteredChecker.Proofs.Service.Privacy
import MeteredChecker.Proofs.Service.Classification
import MeteredChecker.Proofs.Service.Details
import MeteredChecker.Proofs.Text.Blank
import MeteredChecker.Proofs.Text.Utf8
import MeteredChecker.Proofs.Text.Numeral
import MeteredChecker.Proofs.Json.Grammar
import MeteredChecker.Proofs.Json.Literal
import MeteredChecker.Proofs.Json.Skip
import MeteredChecker.Proofs.Json.Record
import MeteredChecker.Proofs.Json.Writing
import MeteredChecker.Proofs.Json.Unambiguous
import MeteredChecker.Proofs.Json.Accepted.Literal
import MeteredChecker.Proofs.Json.Accepted.Value
import MeteredChecker.Proofs.Json.Accepted.Record
import MeteredChecker.Proofs.Json.Accepted.List
import MeteredChecker.Proofs.Json.Counter
import MeteredChecker.Proofs.Service.Verbatim
import MeteredChecker.Proofs.Address.Web
import MeteredChecker.Proofs.Config.Demands
import MeteredChecker.Proofs.Config.Endpoints
import MeteredChecker.Proofs.Config.RoundTrip
import MeteredChecker.Proofs.Config.Settings
import MeteredChecker.Proofs.Config.Slashes
import MeteredChecker.Proofs.Decimal.Cents
import MeteredChecker.Proofs.Decimal.RoundTrip
import MeteredChecker.Proofs.Payment.Price
import MeteredChecker.Proofs.Payment.Query
import MeteredChecker.Proofs.Payment.Amount
import MeteredChecker.Proofs.Page.Start
import MeteredChecker.Proofs.Page.Console
import MeteredChecker.Proofs.Service.CheckBody
import MeteredChecker.Proofs.Service.Counters
import MeteredChecker.Proofs.Page.Opening
