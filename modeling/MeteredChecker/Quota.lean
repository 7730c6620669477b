import MeteredChecker.Json.Record
import MeteredChecker.Json.Value

/-!
# Quotas

The service counts the checks that were made and the ones that are left.  Both
counters are read-only here; all that is decided from them is whether any are
left, and that is a comparison with zero, not with a threshold.
-/

namespace MeteredChecker

/-- The counters of the service at one moment. -/
structure Quota where
  total : UInt32
  remaining : UInt32
  deriving DecidableEq, Repr

namespace Quota

/-- No checks are left. -/
def isExhausted (q : Quota) : Bool := q.remaining == 0

/-- The two lines that show a quota. -/
def lines (q : Quota) : List String :=
  ["Total API Calls: " ++ toString q.total.toNat,
   "Remaining Calls: " ++ toString q.remaining.toNat]

/-- A quota as JSON. -/
def toJson (q : Quota) : Json.Value :=
  .record [("totalCalls", .natural q.total.toNat), ("remainingCalls", .natural q.remaining.toNat)]

/-- A quota while it is being read. -/
structure Draft where
  total : Option UInt32
  remaining : Option UInt32

/-- A quota as a JSON record: both counters have to be there. -/
def shape : Json.Shape Draft Quota where
  title := "QuotaSnapshot"
  blank := ⟨none, none⟩
  fields :=
    [.of "totalCalls" Draft.total (fun d n => ⟨some n, d.remaining⟩) .counter,
     .of "remainingCalls" Draft.remaining (fun d n => ⟨d.total, some n⟩) .counter]
  lenient := false
  finish := fun d =>
    match d.total, d.remaining with
    | some total, some remaining => .ok ⟨total, remaining⟩
    | none, _ => .error "totalCalls"
    | _, none => .error "remainingCalls"

/-- The quota in a JSON text. -/
def ofBody (body : String) : Except String Quota := shape.reader.parse body

end Quota
end MeteredChecker
