import MeteredChecker.Config.Basic
import MeteredChecker.Decimal.Reader
import MeteredChecker.Text.Blank
import MeteredChecker.Text.Utf8

/-!
# Configurations from settings

A configuration is assembled from up to six named settings --- the environment
of a process, or values baked into a page.  They are asked for one after the
other, in a fixed order, and the ones that are absent keep their defaults.

An amount that cannot be read ends the asking at once: there is no configuration
to come, whatever the remaining settings say.  The demands on a configuration
are checked at the end, when all of it is known.
-/

namespace MeteredChecker
namespace Config

/-- The settings there are. -/
inductive Key where
  | apiBase
  | paymentBase
  | paymentPath
  | paymentAmount
  | discardStale
  | allowReset
  deriving DecidableEq, Repr

/-- The name of a setting. -/
def Key.name : Key → String
  | .apiBase => "CHECKER_API_BASE"
  | .paymentBase => "CHECKER_PAYMENT_BASE"
  | .paymentPath => "CHECKER_PAYMENT_PATH"
  | .paymentAmount => "CHECKER_PAYMENT_AMOUNT"
  | .discardStale => "CHECKER_DISCARD_STALE"
  | .allowReset => "CHECKER_ALLOW_RESET"

/-- The settings up to the amount, in the order in which they are asked for. -/
def leadingKeys : List Key := [.apiBase, .paymentBase, .paymentPath, .paymentAmount]

/-- All settings, in the order in which they are asked for. -/
def keys : List Key := leadingKeys ++ [.discardStale, .allowReset]

/-- The words that turn a switch on. -/
def onWords : List String := ["1", "true", "yes", "on"]

/-- Whether the value of a switch turns it on.  Blanks around the word and the
case of its letters do not matter; any other word leaves the switch off. -/
def isOn (value : String) : Bool := onWords.contains (Text.lower (Text.trim value))

/-- Whether a switch is on.  An absent switch is off. -/
def switch (lookup : Key → Option String) (key : Key) : Bool := (lookup key).any isOn

/-- The amount that is set, or the default.  An amount may have blanks around it,
and is quoted with them where it cannot be read. -/
def amountSetting (lookup : Key → Option String) : Except Violation Decimal :=
  match lookup .paymentAmount with
  | none => .ok Payment.Terms.default.amount
  | some raw =>
      match Decimal.read? (Text.trim raw) with
      | some amount => .ok amount
      | none => .error (.unreadableAmount raw)

/-- What asking for settings comes to: the settings that were asked for, in order,
and the configuration, or why there is none. -/
structure Consultation where
  asked : List Key
  result : Except Failure Config

/-- The configuration that the settings make, before any demands on it. -/
def assemble (lookup : Key → Option String) (amount : Decimal) : Config where
  apiBase := (lookup .apiBase).getD default.apiBase
  payment :=
    { base := lookup .paymentBase
      path := (lookup .paymentPath).getD default.payment.path
      amount := amount }
  stale := if switch lookup .discardStale then .discard else .apply
  allowReset := switch lookup .allowReset

/-- Asks for the settings and assembles the configuration. -/
def consult (lookup : Key → Option String) : Consultation :=
  match amountSetting lookup with
  | .error v => ⟨leadingKeys, .error v.failure⟩
  | .ok amount => ⟨keys, (assemble lookup amount).validate⟩

/-- The configuration that the settings make. -/
def ofLookup (lookup : Key → Option String) : Except Failure Config := (consult lookup).result

/-- The configuration that the environment of a process makes.  A value that is
not UTF-8 counts as absent. -/
def ofEnvironment (environment : Key → Option (List UInt8)) : Except Failure Config :=
  ofLookup fun key => do
    let octets ← environment key
    let text ← Text.Utf8.decode? octets
    pure (String.ofList text)

end Config
end MeteredChecker
