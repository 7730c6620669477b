import MeteredChecker.Config.Sources
import MeteredChecker.Proofs.Address.Web
import MeteredChecker.Service.Http

/-!
# Configurations that meet every demand

`Config.violation?` asks three questions, one after the other, and a configuration is valid if
none of them finds anything.  So validity is the conjunction of the three answers
(`Config.isValid_iff`), the order in which they are asked matters only to the message, and of
the five parts of a configuration three have a say in it.  The base for payments has none,
which is why a page may fill it in after the configuration was accepted
(`Config.isValid_withBase_iff`).

There are two places where the demands are enforced.  The settings make a configuration only
if it is valid (`Config.exists_assemble_of_ofLookup`), and a client is made of a valid one, and
of every valid one (`Http.Client.new_eq_ok`).
-/

namespace MeteredChecker

theorem Text.startsWith_iff {s start : String} :
    Text.startsWith s start = true ↔ start.toList <+: s.toList := by
  rw [Text.startsWith, List.isPrefixOf_iff_prefix]

namespace Config

variable {c config : Config} {lookup : Key → Option String}

/-- An absolute address begins with a scheme, a colon and two slashes. -/
theorem isAbsolute_iff {s : String} :
    isAbsolute s = true ↔ ∃ scheme ∈ Address.requestSchemes, ∃ rest,
      s.toList = scheme.toList ++ ':' :: '/' :: '/' :: rest := by
  rw [isAbsolute, Bool.or_eq_true, Text.startsWith_iff, Text.startsWith_iff]
  constructor
  · rintro (⟨rest, h⟩ | ⟨rest, h⟩)
    · exact ⟨"http", by decide, rest, h.symm⟩
    · exact ⟨"https", by decide, rest, h.symm⟩
  · rintro ⟨scheme, web, rest, h⟩
    rcases Address.eq_http_or_https web with rfl | rfl
    · exact .inl ⟨rest, h.symm⟩
    · exact .inr ⟨rest, h.symm⟩

/-- **A configuration is valid if it meets the three demands**, in whatever order. -/
theorem isValid_iff :
    c.IsValid ↔ isAbsolute c.apiBase = true ∧ Text.startsWith c.payment.path "/" = true ∧
      c.payment.amount.IsPositive := by
  unfold IsValid violation?
  split
  · next h => simp_all
  · split
    · next h => simp_all
    · split <;> simp_all

theorem isValid_default : default.IsValid := by decide

/-- The configuration with a base for payments, or without any. -/
def withBase (c : Config) (base : Option String) : Config :=
  { c with payment := { c.payment with base := base } }

/-- No demand is made on the base for payments. -/
theorem isValid_withBase_iff (base : Option String) : (c.withBase base).IsValid ↔ c.IsValid := by
  rw [isValid_iff, isValid_iff]
  rfl

theorem eq_and_isValid_of_validate (h : c.validate = .ok config) : config = c ∧ c.IsValid := by
  unfold validate at h
  split at h
  · cases h
  · next hvalid => exact ⟨(Except.ok.inj h).symm, hvalid⟩

/-- **What the settings make is valid**, and put together of what was looked up. -/
theorem exists_assemble_of_ofLookup (h : ofLookup lookup = .ok config) :
    ∃ amount, amountSetting lookup = .ok amount ∧ config = assemble lookup amount ∧
      config.IsValid := by
  unfold ofLookup consult at h
  split at h
  · cases h
  · next amount hamount =>
    obtain ⟨rfl, hvalid⟩ := eq_and_isValid_of_validate h
    exact ⟨amount, hamount, rfl, hvalid⟩

theorem base_of_ofLookup (h : ofLookup lookup = .ok config) :
    config.payment.base = lookup .paymentBase := by
  obtain ⟨amount, -, rfl, -⟩ := exists_assemble_of_ofLookup h
  rfl

end Config

/-- **Every valid configuration makes a client.** -/
theorem Http.Client.new_eq_ok {config : Config} (valid : config.IsValid) :
    Http.Client.new config = .ok ⟨config, valid⟩ := by
  unfold Http.Client.new
  split
  · next v hviolation => exact absurd (hviolation.symm.trans valid) (by simp)
  · rfl

end MeteredChecker
