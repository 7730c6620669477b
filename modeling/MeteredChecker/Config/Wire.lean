import MeteredChecker.Config.Basic
import MeteredChecker.Decimal.Reader
import MeteredChecker.Json.Record

/-!
# Configurations as JSON

Writing a configuration puts all of it down.  Reading one is lenient: whatever
is absent has its default, down to the single members of the payment terms.

An amount is written as a text and read from a text or a number.  A text may
have an exponent, which a setting may not.  A number is exact as long as it is
whole and has 64 bits; any other is a double and becomes the amount that the
double's shortest digits spell.
-/

namespace MeteredChecker

/-! ## Amounts -/

namespace Decimal

/-- How a complaint names an amount. -/
def wanted : String := "a Decimal type representing a fixed-point number"

/-- The amount that a JSON number denotes. -/
def ofNumber? : Json.Number → Option Decimal
  | .natural n => ofInt? n
  | .negative n => ofInt? (-n)
  | .float x => read? (Binary64.Layout.plain.text x)

/-- The amount in a text, with an exponent or without. -/
def ofText? (s : String) : Option Decimal := (read? s).or (readScientific? s)

/-- The amount that was found, or the complaint that it is none. -/
def orComplain (amount : Option Decimal) (found : Json.Found) (rest : List Char) :
    Json.Result Decimal :=
  match amount with
  | some d => .ok (d, rest)
  | none => .error (.here (.misfit (.wrongValue found wanted)) rest)

/-- Reads an amount.  A list or a record is taken for the beginning of one, so its
closing bracket is read before it is refused. -/
def readJson (s : List Char) : Json.Result Decimal :=
  match Json.skipBlanks s with
  | [] => .error (.past .endInValue [])
  | '"' :: rest =>
      match Json.string rest with
      | .error f => .error f
      | .ok (t, rest) =>
          let text := String.ofList t
          orComplain (ofText? text) (.text text) rest
  | '[' :: rest => Json.closeWith Json.closeList (.ok (.error (.wrongType .list wanted), rest))
  | '\x7b' :: rest =>
      Json.closeWith Json.closeRecord (.ok (.error (.wrongType .record wanted), rest))
  | c :: rest =>
      if c = '-' || c.isDigit then
        match Json.number (c :: rest) with
        | .error f => .error f
        | .ok (n, rest) => orComplain (ofNumber? n) n.found rest
      else .error (Json.wrongType wanted (c :: rest))

theorem within_orComplain (amount : Option Decimal) (found : Json.Found) (rest : List Char) :
    (orComplain amount found rest).Within rest.length := by
  unfold orComplain
  split
  · exact .ok (Nat.le_refl _)
  · exact .error

theorem within_readJson (s : List Char) : (readJson s).Within s.length := by
  have hs := Json.length_skipBlanks_le s
  unfold readJson
  split
  · exact .error
  · next heq =>
      rw [heq] at hs
      simp only [List.length_cons] at hs
      split
      · exact .error
      · next h =>
          have := Json.within_string _ _ _ h
          exact (within_orComplain _ _ _).mono (by omega)
  · exact .error
  · exact .error
  · next heq =>
      rw [heq] at hs
      split
      · split
        · exact .error
        · next h =>
            have := Json.within_number _ _ _ h
            exact (within_orComplain _ _ _).mono (by omega)
      · exact .error

/-- The reader of amounts. -/
def reader : Json.Reader Decimal := ⟨readJson, within_readJson⟩

end Decimal

/-! ## Payment terms -/

namespace Payment
namespace Terms

/-- Payment terms while they are being read. -/
structure Draft where
  base : Option (Option String)
  path : Option String
  amount : Option Decimal

/-- Payment terms as a JSON record. -/
def shape : Json.Shape Draft Terms where
  title := "PaymentConfig"
  blank := ⟨none, none, none⟩
  fields :=
    [.of "base" Draft.base (fun d base => { d with base := some base }) .optionalString,
     .of "path" Draft.path (fun d path => { d with path := some path }) .string,
     .of "amount" Draft.amount (fun d amount => { d with amount := some amount }) Decimal.reader]
  lenient := true
  finish := fun d =>
    .ok ⟨d.base.getD default.base, d.path.getD default.path, d.amount.getD default.amount⟩

end Terms
end Payment

/-! ## Policies and configurations -/

namespace Policy

/-- The names of the policies. -/
def names : List (String × Policy) := [("apply", .apply), ("discard", .discard)]

/-- The name of a policy. -/
def name : Policy → String
  | .apply => "apply"
  | .discard => "discard"

/-- The reader of policies. -/
def reader : Json.Reader Policy := .variant names

end Policy

namespace Config

/-- A configuration as JSON. -/
def toJson (c : Config) : Json.Value :=
  .record
    [("api_base", .text c.apiBase),
     ("payment", c.payment.toJson),
     ("stale_responses", .text c.stale.name),
     ("allow_reset", .bool c.allowReset)]

/-- A configuration while it is being read. -/
structure Draft where
  apiBase : Option String
  payment : Option Payment.Terms
  stale : Option Policy
  allowReset : Option Bool

/-- A configuration as a JSON record. -/
def shape : Json.Shape Draft Config where
  title := "ClientConfig"
  blank := ⟨none, none, none, none⟩
  fields :=
    [.of "api_base" Draft.apiBase (fun d base => { d with apiBase := some base }) .string,
     .of "payment" Draft.payment (fun d terms => { d with payment := some terms })
       Payment.Terms.shape.reader,
     .of "stale_responses" Draft.stale (fun d policy => { d with stale := some policy })
       Policy.reader,
     .of "allow_reset" Draft.allowReset (fun d allow => { d with allowReset := some allow })
       .bool]
  lenient := true
  finish := fun d =>
    .ok
      ⟨d.apiBase.getD default.apiBase, d.payment.getD default.payment,
       d.stale.getD default.stale, d.allowReset.getD default.allowReset⟩

end Config
end MeteredChecker
