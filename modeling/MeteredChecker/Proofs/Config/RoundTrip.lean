import MeteredChecker.Config.Wire
import MeteredChecker.Proofs.Decimal.RoundTrip
import MeteredChecker.Proofs.Json.Writing

/-!
# Configurations are read back, as far as they are written

A configuration that is written has four members, one of which has three members of its own.  Each
of the seven can be left out, and those that are there can come in any order.  What is read then is
the configuration with the defaults in the places of what was left out, and in no other place
(`config_is_read_back`).

There are many selections and orders, but they are never told apart.  Each member has a field of
its own in the draft, and that is all that a draft knows: which of the fields have been read
(`Config.drafted`, `Payment.Terms.drafted`).  The terms of payments are a value like any other by
then, and the same argument has been made for them before.
-/

namespace MeteredChecker

open Json (Value)

/-! ## Amounts -/

/-- **An amount that is written as a text is read back.** -/
theorem Decimal.reads_reader (d : Decimal) :
    Decimal.reader.Reads (Value.text d.toText).chars d := by
  intro b rest hb _
  have hread := Json.string_append (Json.spells_escaped d.toText.toList) rest
  show Decimal.readJson (b ++ ((Value.text d.toText).chars ++ rest)) = .ok (d, rest)
  rw [Decimal.readJson, Json.skipBlanks_chars hb]
  rw [Value.chars, Json.stringChars_eq, Json.quoted_append]
  simp [hread, Decimal.ofText?, Decimal.read?_toText, Decimal.orComplain]

/-! ## Payment terms -/

namespace Payment
namespace Terms

/-- What is written of terms, by name. -/
def members (t : Terms) : List (String × Value) :=
  [("base", t.base.elim .null .text), ("path", .text t.path), ("amount", .text t.amount.toText)]

theorem toJson_eq (t : Terms) : t.toJson = .record t.members := by
  obtain ⟨base, path, amount⟩ := t
  cases base <;> rfl

/-- The terms where they are written by name, and the default elsewhere. -/
def onlyWith (t : Terms) (names : List String) : Terms where
  base := if "base" ∈ names then t.base else default.base
  path := if "path" ∈ names then t.path else default.path
  amount := if "amount" ∈ names then t.amount else default.amount

/-- The draft in which the fields with some names have been read. -/
def drafted (t : Terms) (names : List String) : Draft where
  base := Json.fieldIn names "base" t.base
  path := Json.fieldIn names "path" t.path
  amount := Json.fieldIn names "amount" t.amount

theorem finish_drafted (t : Terms) (names : List String) :
    shape.finish (t.drafted names) = .ok (t.onlyWith names) := by
  simp only [shape, drafted, Json.getD_fieldIn]
  rfl

theorem reads_base (base : Option String) :
    Json.Reader.optionalString.Reads (base.elim Value.null Value.text).chars base := by
  cases base with
  | none => exact Json.reads_optionalString_none
  | some base => exact Json.reads_optionalString_some base

/-- Each member is read into its field, if it has not been read before. -/
theorem takesOne_drafted (t : Terms) : ∀ m ∈ t.members, ∀ names, m.1 ∉ names →
    shape.TakesOne (t.drafted names) (m.1.toList, m.2.chars) (t.drafted (names ++ [m.1])) := by
  intro m hm names hnew
  simp only [members, List.mem_cons, List.not_mem_nil, or_false] at hm
  have hunset {α : Type} (a : α) : Json.fieldIn names m.1 a = none := Json.fieldIn_of_notMem hnew a
  rcases hm with rfl | rfl | rfl
  · refine Json.Shape.takesOne_of_reads rfl (hunset t.base) (reads_base t.base) ?_
    simp [drafted, Json.fieldIn_append_self, Json.fieldIn_append_of_ne]
  · refine Json.Shape.takesOne_of_reads rfl (hunset t.path) (Json.reads_string t.path) ?_
    simp [drafted, Json.fieldIn_append_self, Json.fieldIn_append_of_ne]
  · refine Json.Shape.takesOne_of_reads rfl (hunset t.amount) t.amount.reads_reader ?_
    simp [drafted, Json.fieldIn_append_self, Json.fieldIn_append_of_ne]

theorem nodup_names (t : Terms) : (t.members.map Prod.fst).Nodup := by
  simp [members]

/-- **Terms are read from any of their members in any order.** -/
theorem reads_of_subperm (t : Terms) {ms : List (String × Value)} (h : ms.Subperm t.members) :
    shape.reader.Reads (Value.record ms).chars (t.onlyWith (ms.map Prod.fst)) :=
  Json.Shape.reads_record
    (Json.Shape.takes_of_subperm t.drafted t.nodup_names t.takesOne_drafted h)
    (t.finish_drafted _)

end Terms
end Payment

/-! ## Policies -/

theorem Policy.reads_reader (p : Policy) :
    Policy.reader.Reads (Value.text p.name).chars p := by
  refine Json.reads_variant ?_
  cases p <;> rfl

/-! ## Configurations -/

namespace Config

/-- What is written of a configuration, by name, with these members for the terms of payments. -/
def membersWith (c : Config) (terms : List (String × Value)) : List (String × Value) :=
  [("api_base", .text c.apiBase), ("payment", .record terms),
    ("stale_responses", .text c.stale.name), ("allow_reset", .bool c.allowReset)]

theorem toJson_eq (c : Config) : c.toJson = .record (c.membersWith c.payment.members) := by
  rw [toJson, c.payment.toJson_eq, membersWith]

/-- The configuration where it is written by name, and the default elsewhere; of the terms of
payments, if they are written, what is written by name of them. -/
def onlyWith (c : Config) (names terms : List String) : Config where
  apiBase := if "api_base" ∈ names then c.apiBase else default.apiBase
  payment := if "payment" ∈ names then c.payment.onlyWith terms else default.payment
  stale := if "stale_responses" ∈ names then c.stale else default.stale
  allowReset := if "allow_reset" ∈ names then c.allowReset else default.allowReset

/-- The draft in which the fields with some names have been read, with these terms of payments. -/
def drafted (c : Config) (payment : Payment.Terms) (names : List String) : Draft where
  apiBase := Json.fieldIn names "api_base" c.apiBase
  payment := Json.fieldIn names "payment" payment
  stale := Json.fieldIn names "stale_responses" c.stale
  allowReset := Json.fieldIn names "allow_reset" c.allowReset

theorem finish_drafted (c : Config) (names terms : List String) :
    shape.finish (c.drafted (c.payment.onlyWith terms) names) = .ok (c.onlyWith names terms) := by
  simp only [shape, drafted, Json.getD_fieldIn]
  rfl

/-- Each member is read into its field, if it has not been read before. -/
theorem takesOne_drafted (c : Config) {terms : List (String × Value)} {payment : Payment.Terms}
    (hpayment : Payment.Terms.shape.reader.Reads (Value.record terms).chars payment) :
    ∀ m ∈ c.membersWith terms, ∀ names, m.1 ∉ names →
      shape.TakesOne (c.drafted payment names) (m.1.toList, m.2.chars)
        (c.drafted payment (names ++ [m.1])) := by
  intro m hm names hnew
  simp only [membersWith, List.mem_cons, List.not_mem_nil, or_false] at hm
  have hunset {α : Type} (a : α) : Json.fieldIn names m.1 a = none := Json.fieldIn_of_notMem hnew a
  rcases hm with rfl | rfl | rfl | rfl
  · refine Json.Shape.takesOne_of_reads rfl (hunset c.apiBase) (Json.reads_string c.apiBase) ?_
    simp [drafted, Json.fieldIn_append_self, Json.fieldIn_append_of_ne]
  · refine Json.Shape.takesOne_of_reads rfl (hunset payment) hpayment ?_
    simp [drafted, Json.fieldIn_append_self, Json.fieldIn_append_of_ne]
  · refine Json.Shape.takesOne_of_reads rfl (hunset c.stale) c.stale.reads_reader ?_
    simp [drafted, Json.fieldIn_append_self, Json.fieldIn_append_of_ne]
  · refine Json.Shape.takesOne_of_reads rfl (hunset c.allowReset) (Json.reads_bool c.allowReset) ?_
    simp [drafted, Json.fieldIn_append_self, Json.fieldIn_append_of_ne]

theorem nodup_names (c : Config) (terms : List (String × Value)) :
    ((c.membersWith terms).map Prod.fst).Nodup := by
  simp [membersWith]

theorem parse_of_subperm (c : Config) {terms members : List (String × Value)}
    (hterms : terms.Subperm c.payment.members) (hmembers : members.Subperm (c.membersWith terms)) :
    shape.reader.parse (Value.record members).render =
      .ok (c.onlyWith (members.map Prod.fst) (terms.map Prod.fst)) := by
  have hpayment := c.payment.reads_of_subperm hterms
  have htakes := Json.Shape.takes_of_subperm (c.drafted (c.payment.onlyWith (terms.map Prod.fst)))
    (nodup_names c terms) (c.takesOne_drafted hpayment) hmembers
  exact Json.Shape.parse_render htakes (c.finish_drafted _ _)

end Config

/-- **A configuration is read back, and what is left out of it has its default.**

What is written of a configuration is four members, and of its terms of payments three.  The
configuration is read back from the text in which all of them are written, to the last place of
its amount.

Any of the three may be left out, and any of the four, and those that are written may be in any
order.  What is read then is the configuration in the fields that are written and the default in
those that are not; if the terms of payments are not written, all three of their fields are those
of the default. -/
theorem config_is_read_back (c : Config) :
    c.toJson = .record (c.membersWith c.payment.members) ∧
    Config.shape.reader.parse c.toJson.render = .ok c ∧
    ∀ terms members : List (String × Value),
      terms.Subperm c.payment.members → members.Subperm (c.membersWith terms) →
      Config.shape.reader.parse (Value.record members).render =
        .ok (c.onlyWith (members.map Prod.fst) (terms.map Prod.fst)) := by
  refine ⟨c.toJson_eq, ?_, fun _ _ => c.parse_of_subperm⟩
  have hall : c.onlyWith ((c.membersWith c.payment.members).map Prod.fst)
      (c.payment.members.map Prod.fst) = c := rfl
  have hwhole := c.parse_of_subperm (.refl c.payment.members) (.refl _)
  rw [hall, ← c.toJson_eq] at hwhole
  exact hwhole

/-- Two of the four members, the last one first, and one of the three. -/
theorem flag_and_amount_are_read :
    ∃ (c : Config) (terms members : List (String × Value)),
      c.payment.base = some "a\"\n" ∧ c.payment.amount.toText = "-0.250" ∧ c.stale = .discard ∧
      terms.Subperm c.payment.members ∧ members.Subperm (c.membersWith terms) ∧
      (Value.record members).render =
        "\x7b\"allow_reset\":true,\"payment\":\x7b\"amount\":\"-0.250\"\x7d\x7d" ∧
      Config.shape.reader.parse (Value.record members).render =
        .ok ⟨"http://localhost:2424/api", ⟨none, "/paypal/makePayment", c.payment.amount⟩, .apply,
          true⟩ := by
  let amount : Decimal := ⟨true, 250, 3, by decide, by decide, by decide⟩
  let c : Config := ⟨"api", ⟨some "a\"\n", "", amount⟩, .discard, true⟩
  let terms : List (String × Value) := [("amount", .text amount.toText)]
  let members : List (String × Value) := [("allow_reset", .bool true), ("payment", .record terms)]
  have hterms : terms.Subperm c.payment.members :=
    List.Sublist.subperm (.cons _ (.cons _ (.refl _)))
  have hmembers : members.Subperm (c.membersWith terms) :=
    ⟨[("payment", .record terms), ("allow_reset", .bool true)], .swap _ _ _,
      .cons _ (.cons_cons _ (.cons _ (.refl _)))⟩
  obtain ⟨-, -, hread⟩ := config_is_read_back c
  refine ⟨c, terms, members, rfl, by decide +kernel, rfl, hterms, hmembers, by decide +kernel, ?_⟩
  exact hread terms members hterms hmembers

end MeteredChecker
