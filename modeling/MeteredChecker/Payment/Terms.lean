import MeteredChecker.Decimal.Text
import MeteredChecker.Json.Value
import MeteredChecker.Text.Basic

/-!
# Payment terms

Topping up the quota begins at the payment endpoint: a base, a path, and the
amount to be paid, which is all that the request says.  The amount is cut to two
places in the address, however many it has.

The base may be left open; a page fills in the place it was loaded from.
-/

namespace MeteredChecker
namespace Payment

/-- Where a payment is created, and how much is paid. -/
structure Terms where
  base : Option String
  path : String
  amount : Decimal
  deriving DecidableEq, Repr

namespace Terms

/-- One unit, with two places. -/
def unitAmount : Decimal := ⟨false, 100, 2, by decide, by decide, by decide⟩

/-- The path that is used unless another is set. -/
def defaultPath : String := "/paypal/makePayment"

/-- The terms that hold unless others are set. -/
def default : Terms := ⟨none, defaultPath, unitAmount⟩

/-- The amount as the payment endpoint is told it. -/
def amountParam (t : Terms) : String := t.amount.toCents

/-- The address at which a payment is created. -/
def url (t : Terms) : String :=
  Text.dropEnd '/' (t.base.getD "") ++ t.path ++ "?amount=" ++ t.amountParam

/-- The terms as JSON; the amount is a text, so that no place of it is lost. -/
def toJson (t : Terms) : Json.Value :=
  .record
    [("base", match t.base with
      | some base => .text base
      | none => .null),
     ("path", .text t.path),
     ("amount", .text t.amount.toText)]

/-- The two terms are the same, amounts being compared as numbers. -/
def Same (a b : Terms) : Prop :=
  a.base = b.base ∧ a.path = b.path ∧ a.amount.SameNumber b.amount

instance (a b : Terms) : Decidable (Same a b) := inferInstanceAs (Decidable (_ ∧ _ ∧ _))

end Terms
end Payment
end MeteredChecker
