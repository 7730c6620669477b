import MeteredChecker.Proofs.Config.Demands
import MeteredChecker.Proofs.Decimal.RoundTrip
import MeteredChecker.Proofs.Text.Numeral

/-!
# Settings make exactly the valid configurations

A configuration is assembled from six settings, and there are four ways in which it can be refused.
Which of them is the reason is a matter of order: an amount that cannot be read is noticed while
the settings are being asked for, and the three demands are checked behind that, in their order.
`Config.Refuses` writes the order down, in that each reason has a place only where no reason in
front of it has one.

## What it means to ask

A lookup is a function, and a function has no order in which it is asked.  So the order is said of
something else: of an `Inquiry`, which puts one question at a time and has nothing to go by but the
answers that it has got.  Asking for settings is such an inquiry (`Config.follow_inquiry`), and as
for all of them its result depends on what was asked and on nothing else
(`Config.Inquiry.follow_congr`).

## Nothing is lost

Whatever meets the demands is made by some settings, namely by its own fields
(`Config.Tells`).  The one field that has to be read is the amount, and it is read from its text to
the last place, since there is nothing in that text that trimming could take away.
-/

namespace MeteredChecker

/-! ## Texts without blanks -/

namespace Text

theorem isBlank_eq_false_of_isDigit {c : Char} (hc : c.isDigit = true) : isBlank c = false := by
  obtain ⟨hlow, hhigh⟩ := toNat_of_isDigit hc
  simp only [isBlank, Bool.or_eq_false_iff, Bool.and_eq_false_iff, decide_eq_false_iff_not,
    beq_eq_false_iff_ne]
  omega

theorem dropWhile_isBlank_eq_self {s : List Char} (h : ∀ c ∈ s, isBlank c = false) :
    s.dropWhile isBlank = s := by
  cases s with
  | nil => rfl
  | cons c s => exact List.dropWhile_cons_of_neg (by simp [h c List.mem_cons_self])

/-- From a text without blanks nothing is trimmed. -/
theorem trim_eq_self {s : String} (h : ∀ c ∈ s.toList, isBlank c = false) : trim s = s := by
  rw [trim, trimChars, dropWhile_isBlank_eq_self h, trimEndChars,
    dropWhile_isBlank_eq_self fun c hc => h c (List.mem_reverse.1 hc), List.reverse_reverse,
    String.ofList_toList]

end Text

/-- The text of an amount has digits, a point and a sign at most. -/
theorem Decimal.mem_toChars {d : Decimal} {c : Char} (h : c ∈ d.toChars) :
    c = '-' ∨ c = '.' ∨ c.isDigit = true := by
  rw [toChars_eq, List.mem_append, spelled, List.mem_append] at h
  rcases h with h | h | h
  · rw [signChars] at h
    split at h
    · exact .inl (List.mem_singleton.1 h)
    · cases h
  · exact .inr (.inr (isDigit_of_mem_digits h))
  · split at h
    · cases h
    · rcases List.mem_cons.1 h with h | h
      · exact .inr (.inl h)
      · exact .inr (.inr (isDigit_of_mem_digits h))

/-- An amount is read back from its text, also by a reader that takes the blanks off first. -/
theorem Decimal.read?_trim_toText (d : Decimal) : read? (Text.trim d.toText) = some d := by
  have hblank : ∀ c ∈ d.toText.toList, Text.isBlank c = false := by
    intro c hc
    rw [toText, String.toList_ofList] at hc
    rcases mem_toChars hc with rfl | rfl | hdigit
    · rfl
    · rfl
    · exact Text.isBlank_eq_false_of_isDigit hdigit
  rw [Text.trim_eq_self hblank, read?_toText]

namespace Config

variable {lookup : Key → Option String} {c config : Config} {amount : Decimal}

/-! ## Asking -/

/-- Settings that are asked for one by one.  What is asked next, and what it comes to in the end,
depends on the answers so far. -/
inductive Inquiry where
  | done (result : Except Failure Config)
  | ask (key : Key) (next : Option String → Inquiry)

/-- What an inquiry comes to if a lookup answers. -/
def Inquiry.follow (lookup : Key → Option String) : Inquiry → Consultation
  | done result => ⟨[], result⟩
  | ask key next =>
      ⟨key :: ((next (lookup key)).follow lookup).asked, ((next (lookup key)).follow lookup).result⟩

/-- **What was not asked for has no say**: a lookup that gives the same answers to the questions
that were put is asked the same questions, and it comes to the same. -/
theorem Inquiry.follow_congr {other : Key → Option String} (inquiry : Inquiry)
    (same : ∀ key ∈ (inquiry.follow lookup).asked, other key = lookup key) :
    inquiry.follow other = inquiry.follow lookup := by
  induction inquiry with
  | done result => rfl
  | ask key next ih =>
    obtain ⟨hkey, hrest⟩ := List.forall_mem_cons.1 same
    rw [follow, follow, hkey, ih (lookup key) hrest]

/-- The inquiry for settings.  Whether the amount can be read decides whether it goes on. -/
def inquiry : Inquiry :=
  .ask .apiBase fun apiBase => .ask .paymentBase fun paymentBase =>
  .ask .paymentPath fun paymentPath => .ask .paymentAmount fun paymentAmount =>
    match amountSetting fun _ => paymentAmount with
    | .error v => .done (.error v.failure)
    | .ok amount =>
        .ask .discardStale fun discardStale => .ask .allowReset fun allowReset =>
          let answers : Key → Option String
            | .apiBase => apiBase
            | .paymentBase => paymentBase
            | .paymentPath => paymentPath
            | .paymentAmount => paymentAmount
            | .discardStale => discardStale
            | .allowReset => allowReset
          .done (assemble answers amount).validate

/-- **The settings are asked for one by one.** -/
theorem follow_inquiry (lookup : Key → Option String) : inquiry.follow lookup = consult lookup := by
  have hamount : (amountSetting fun _ => lookup .paymentAmount) = amountSetting lookup := rfl
  simp only [inquiry, Inquiry.follow, consult, hamount]
  cases amountSetting lookup <;> rfl

/-! ## What settings say -/

/-- What is said about the amount: it is what is set, read without the blanks around it, or one
unit if nothing is set. -/
def SaysAmount (raw? : Option String) (amount : Decimal) : Prop :=
  match raw? with
  | none => amount = Payment.Terms.unitAmount
  | some raw => Decimal.read? (Text.trim raw) = some amount

/-- The value of a switch that turns it on. -/
def TurnsOn (value? : Option String) : Prop :=
  ∃ value ∈ value?, Text.lower (Text.trim value) ∈ ["1", "true", "yes", "on"]

/-- A configuration has in its fields what was looked up, and the defaults where nothing is set. -/
structure IsMadeOf (config : Config) (lookup : Key → Option String) : Prop where
  apiBase : config.apiBase = (lookup .apiBase).getD "http://localhost:2424/api"
  paymentBase : config.payment.base = lookup .paymentBase
  paymentPath : config.payment.path = (lookup .paymentPath).getD "/paypal/makePayment"
  amount : SaysAmount (lookup .paymentAmount) config.payment.amount
  discards : config.stale = .discard ↔ TurnsOn (lookup .discardStale)
  resets : config.allowReset = true ↔ TurnsOn (lookup .allowReset)

theorem amountSetting_eq_ok_iff :
    amountSetting lookup = .ok amount ↔ SaysAmount (lookup .paymentAmount) amount := by
  unfold amountSetting SaysAmount
  cases lookup .paymentAmount with
  | none => exact ⟨fun h => (Except.ok.inj h).symm, fun h => congrArg Except.ok h.symm⟩
  | some raw => cases hread : Decimal.read? (Text.trim raw) <;> simp [hread]

theorem amountSetting_eq_error_iff {v : Violation} :
    amountSetting lookup = .error v ↔ ∃ raw, lookup .paymentAmount = some raw ∧
      Decimal.read? (Text.trim raw) = none ∧ v = .unreadableAmount raw := by
  unfold amountSetting
  cases lookup .paymentAmount with
  | none => simp
  | some raw => cases hread : Decimal.read? (Text.trim raw) <;> simp [hread, eq_comm]

theorem switch_iff {key : Key} : switch lookup key = true ↔ TurnsOn (lookup key) := by
  simp only [switch, TurnsOn, isOn, onWords, Option.any_eq_true, List.contains_iff_mem,
    Option.mem_def]

theorem isMadeOf_assemble (hamount : SaysAmount (lookup .paymentAmount) amount) :
    (assemble lookup amount).IsMadeOf lookup where
  apiBase := rfl
  paymentBase := rfl
  paymentPath := rfl
  amount := hamount
  discards := by
    rw [← switch_iff, assemble]
    cases switch lookup .discardStale <;> simp
  resets := switch_iff

/-- There is one configuration at most that settings make. -/
theorem IsMadeOf.unique (h : c.IsMadeOf lookup) (h' : config.IsMadeOf lookup) : c = config := by
  have hamount : c.payment.amount = config.payment.amount := by
    have hset := amountSetting_eq_ok_iff.2 h.amount
    rw [amountSetting_eq_ok_iff.2 h'.amount] at hset
    exact (Except.ok.inj hset).symm
  have hstale : c.stale = config.stale := by
    have hdiscard := h.discards.trans h'.discards.symm
    cases hc : c.stale <;> cases hconfig : config.stale <;> simp_all
  have hreset : c.allowReset = config.allowReset :=
    Bool.eq_iff_iff.2 (h.resets.trans h'.resets.symm)
  obtain ⟨_, ⟨_, _, _⟩, _, _⟩ := c
  obtain ⟨_, ⟨_, _, _⟩, _, _⟩ := config
  obtain ⟨rfl, rfl, rfl, -, -, -⟩ := h
  obtain ⟨hbase, rfl, hpath, -, -, -⟩ := h'
  simp_all

/-! ## Demands on settings -/

/-- A text begins like the address of a service. -/
def BeginsAbsolute (s : String) : Prop :=
  "http://".toList <+: s.toList ∨ "https://".toList <+: s.toList

instance (s : String) : Decidable (BeginsAbsolute s) := inferInstanceAs (Decidable (_ ∨ _))

theorem isAbsolute_eq_true_iff {s : String} : isAbsolute s = true ↔ BeginsAbsolute s := by
  rw [isAbsolute, Bool.or_eq_true, Text.startsWith_iff, Text.startsWith_iff, BeginsAbsolute]

theorem startsWith_slash_iff {s : String} :
    Text.startsWith s "/" = true ↔ s.toList.head? = some '/' := by
  rw [Text.startsWith_iff, List.head?_eq_some_iff]
  exact ⟨fun ⟨rest, h⟩ => ⟨rest, h.symm⟩, fun ⟨rest, h⟩ => ⟨rest, h.symm⟩⟩

/-- A setting for the amount is there, and no amount. -/
def IsUnreadable (raw? : Option String) : Prop :=
  ∃ raw ∈ raw?, Decimal.read? (Text.trim raw) = none

/-- Why settings make no configuration.  A reason is the first that there is. -/
inductive Refuses (lookup : Key → Option String) : Violation → Prop
  | unreadableAmount {raw : String} (hset : lookup .paymentAmount = some raw)
      (unreadable : Decimal.read? (Text.trim raw) = none) : Refuses lookup (.unreadableAmount raw)
  | relativeBase {config : Config} (made : config.IsMadeOf lookup)
      (relative : ¬ BeginsAbsolute config.apiBase) :
      Refuses lookup (.relativeBase config.apiBase)
  | relativePath {config : Config} (made : config.IsMadeOf lookup)
      (absolute : BeginsAbsolute config.apiBase)
      (relative : config.payment.path.toList.head? ≠ some '/') :
      Refuses lookup (.relativePath config.payment.path)
  | amountNotPositive {config : Config} (made : config.IsMadeOf lookup)
      (absolute : BeginsAbsolute config.apiBase)
      (rooted : config.payment.path.toList.head? = some '/')
      (notPositive : config.payment.amount.value ≤ 0) :
      Refuses lookup (.amountNotPositive config.payment.amount)

/-- What is left of asking, once the amount can be read, is to check the demands. -/
theorem ofLookup_eq_validate (made : config.IsMadeOf lookup) :
    ofLookup lookup = config.validate := by
  have hamount := amountSetting_eq_ok_iff.2 made.amount
  have hconfig : config = assemble lookup config.payment.amount :=
    made.unique (isMadeOf_assemble made.amount)
  rw [ofLookup, consult, hamount]
  exact congrArg validate hconfig.symm

theorem validate_eq_ok_iff : c.validate = .ok config ↔ config = c ∧ c.IsValid := by
  refine ⟨eq_and_isValid_of_validate, ?_⟩
  rintro ⟨rfl, valid⟩
  have hnone : config.violation? = none := valid
  rw [validate, hnone]

theorem validate_eq_error_iff {e : Failure} :
    c.validate = .error e ↔ ∃ v, c.violation? = some v ∧ e = v.failure := by
  unfold validate
  cases c.violation? <;> simp [eq_comm]

theorem violation?_eq_some_iff {v : Violation} :
    c.violation? = some v ↔
      (¬ BeginsAbsolute c.apiBase ∧ v = .relativeBase c.apiBase) ∨
      (BeginsAbsolute c.apiBase ∧ c.payment.path.toList.head? ≠ some '/' ∧
        v = .relativePath c.payment.path) ∨
      (BeginsAbsolute c.apiBase ∧ c.payment.path.toList.head? = some '/' ∧
        c.payment.amount.value ≤ 0 ∧ v = .amountNotPositive c.payment.amount) := by
  rw [violation?, ne_eq, ← isAbsolute_eq_true_iff, ← startsWith_slash_iff, ← not_lt,
    ← Decimal.isPositive_iff]
  by_cases habsolute : isAbsolute c.apiBase = true <;>
    by_cases hrooted : Text.startsWith c.payment.path "/" = true <;>
    by_cases hpositive : c.payment.amount.IsPositive <;>
    simp [habsolute, hrooted, hpositive, eq_comm]

/-- **Settings make a configuration if it meets every demand**, and no other one. -/
theorem ofLookup_eq_ok_iff :
    ofLookup lookup = .ok config ↔ config.IsMadeOf lookup ∧ config.IsValid := by
  constructor
  · intro h
    obtain ⟨amount, hamount, rfl, valid⟩ := exists_assemble_of_ofLookup h
    exact ⟨isMadeOf_assemble (amountSetting_eq_ok_iff.1 hamount), valid⟩
  · rintro ⟨made, valid⟩
    rw [ofLookup_eq_validate made]
    exact validate_eq_ok_iff.2 ⟨rfl, valid⟩

/-- **Otherwise the first reason is given.** -/
theorem ofLookup_eq_error_iff {e : Failure} :
    ofLookup lookup = .error e ↔ ∃ v, Refuses lookup v ∧ e = v.failure := by
  constructor
  · intro h
    cases hamount : amountSetting lookup with
    | error v =>
      obtain ⟨raw, hset, hread, rfl⟩ := amountSetting_eq_error_iff.1 hamount
      rw [ofLookup, consult, hamount] at h
      exact ⟨_, .unreadableAmount hset hread, (Except.error.inj h).symm⟩
    | ok amount =>
      have made := isMadeOf_assemble (amountSetting_eq_ok_iff.1 hamount)
      rw [ofLookup_eq_validate made] at h
      obtain ⟨v, hviolation, rfl⟩ := validate_eq_error_iff.1 h
      refine ⟨v, ?_, rfl⟩
      rcases violation?_eq_some_iff.1 hviolation with
        ⟨hbase, rfl⟩ | ⟨hbase, hpath, rfl⟩ | ⟨hbase, hpath, hvalue, rfl⟩
      · exact .relativeBase made hbase
      · exact .relativePath made hbase hpath
      · exact .amountNotPositive made hbase hpath hvalue
  · rintro ⟨v, refuses, rfl⟩
    have hrefused {config : Config} (made : config.IsMadeOf lookup) {v : Violation}
        (hviolation : config.violation? = some v) : ofLookup lookup = .error v.failure := by
      rw [ofLookup_eq_validate made]
      exact validate_eq_error_iff.2 ⟨v, hviolation, rfl⟩
    cases refuses with
    | unreadableAmount hset hread =>
      rw [ofLookup, consult, amountSetting_eq_error_iff.2 ⟨_, hset, hread, rfl⟩]
    | relativeBase made hbase =>
      exact hrefused made (violation?_eq_some_iff.2 (.inl ⟨hbase, rfl⟩))
    | relativePath made hbase hpath =>
      exact hrefused made (violation?_eq_some_iff.2 (.inr (.inl ⟨hbase, hpath, rfl⟩)))
    | amountNotPositive made hbase hpath hvalue =>
      exact hrefused made (violation?_eq_some_iff.2 (.inr (.inr ⟨hbase, hpath, hvalue, rfl⟩)))

/-! ## Settings for a configuration -/

/-- Settings have the fields of a configuration: the amount by its text, and the base for payments
only if there is one. -/
structure Tells (lookup : Key → Option String) (c : Config) : Prop where
  apiBase : lookup .apiBase = some c.apiBase
  paymentBase : lookup .paymentBase = c.payment.base
  paymentPath : lookup .paymentPath = some c.payment.path
  amount : lookup .paymentAmount = some c.payment.amount.toText
  discards : TurnsOn (lookup .discardStale) ↔ c.stale = .discard
  resets : TurnsOn (lookup .allowReset) ↔ c.allowReset = true

theorem Tells.isMadeOf (tells : Tells lookup c) : c.IsMadeOf lookup where
  apiBase := by rw [tells.apiBase, Option.getD_some]
  paymentBase := tells.paymentBase.symm
  paymentPath := by rw [tells.paymentPath, Option.getD_some]
  amount := by
    rw [tells.amount]
    exact c.payment.amount.read?_trim_toText
  discards := tells.discards.symm
  resets := tells.resets.symm

/-- The settings that have the fields of a configuration, and `true` for a switch that is on. -/
def settings (c : Config) : Key → Option String
  | .apiBase => some c.apiBase
  | .paymentBase => c.payment.base
  | .paymentPath => some c.payment.path
  | .paymentAmount => some c.payment.amount.toText
  | .discardStale => if c.stale = .discard then some "true" else none
  | .allowReset => if c.allowReset then some "true" else none

theorem turnsOn_ite {p : Prop} [Decidable p] : TurnsOn (if p then some "true" else none) ↔ p := by
  have hword : Text.lower (Text.trim "true") ∈ ["1", "true", "yes", "on"] := by decide +kernel
  by_cases h : p <;> simp only [h, if_true, if_false, TurnsOn, Option.mem_def, Option.some.injEq]
  · exact iff_of_true ⟨_, rfl, hword⟩ trivial
  · exact iff_of_false (fun ⟨_, hvalue, _⟩ => by cases hvalue) not_false

theorem tells_settings (c : Config) : Tells c.settings c :=
  ⟨rfl, rfl, rfl, rfl, turnsOn_ite, turnsOn_ite⟩

/-- The asking ends with the amount if that cannot be read, and goes on to the last setting
otherwise. -/
theorem asked_consult (lookup : Key → Option String) :
    (consult lookup).asked = leadingKeys ∧ IsUnreadable (lookup .paymentAmount) ∨
      (consult lookup).asked = keys ∧ ¬ IsUnreadable (lookup .paymentAmount) := by
  cases hamount : amountSetting lookup with
  | error v =>
    obtain ⟨raw, hset, hread, -⟩ := amountSetting_eq_error_iff.1 hamount
    refine .inl ⟨by rw [consult, hamount], raw, hset, hread⟩
  | ok amount =>
    refine .inr ⟨by rw [consult, hamount], ?_⟩
    rintro ⟨raw, hset, hread⟩
    rw [amountSetting_eq_error_iff.2 ⟨raw, hset, hread, rfl⟩] at hamount
    cases hamount

end Config

/-- **Settings make exactly the valid configurations, and nothing of them is lost.**

The six settings are asked for one by one, in a fixed order.  If the amount is set and cannot be
read, the asking ends with it, and otherwise it goes on to the last; what was not asked for has no
say.

A configuration comes of it if and only if the amount, where one is set, can be read, the address
of the service is an absolute one, the path of payments begins with a slash and the amount is more
than nothing.  It has in its fields what was looked up, and the defaults where nothing is set; its
two switches are on if they are set to one of four words, with blanks around it and in capitals or
not.

Otherwise the failure is one of the configuration, and it names the first of the four reasons.

And every valid configuration is made by the settings that have its fields. -/
theorem settings_make_exactly_the_valid_configurations (lookup : Config.Key → Option String) :
    Config.inquiry.follow lookup = Config.consult lookup ∧
    (∀ other, (∀ key ∈ (Config.consult lookup).asked, other key = lookup key) →
      Config.consult other = Config.consult lookup) ∧
    ((Config.consult lookup).asked.map Config.Key.name =
        ["CHECKER_API_BASE", "CHECKER_PAYMENT_BASE", "CHECKER_PAYMENT_PATH",
          "CHECKER_PAYMENT_AMOUNT"] ∧
        Config.IsUnreadable (lookup .paymentAmount) ∨
      (Config.consult lookup).asked.map Config.Key.name =
        ["CHECKER_API_BASE", "CHECKER_PAYMENT_BASE", "CHECKER_PAYMENT_PATH",
          "CHECKER_PAYMENT_AMOUNT", "CHECKER_DISCARD_STALE", "CHECKER_ALLOW_RESET"] ∧
        ¬ Config.IsUnreadable (lookup .paymentAmount)) ∧
    ((∃ config, Config.ofLookup lookup = .ok config) ↔
      Config.BeginsAbsolute ((lookup .apiBase).getD "http://localhost:2424/api") ∧
      ((lookup .paymentPath).getD "/paypal/makePayment").toList.head? = some '/' ∧
      ∃ amount, Config.SaysAmount (lookup .paymentAmount) amount ∧ 0 < amount.value) ∧
    (∀ config, Config.ofLookup lookup = .ok config →
      config.IsMadeOf lookup ∧ config.IsValid) ∧
    (∀ e, Config.ofLookup lookup = .error e ↔
      ∃ v, Config.Refuses lookup v ∧ e = .config v.message) ∧
    ∀ c : Config, c.IsValid → Config.Tells c.settings c ∧
      ∀ source, Config.Tells source c → Config.ofLookup source = .ok c := by
  refine ⟨Config.follow_inquiry lookup, fun other same => ?_, ?_, ?_,
    fun config => Config.ofLookup_eq_ok_iff.1, fun e => Config.ofLookup_eq_error_iff,
    fun c valid => ⟨c.tells_settings,
      fun source tells => Config.ofLookup_eq_ok_iff.2 ⟨tells.isMadeOf, valid⟩⟩⟩
  · rw [← Config.follow_inquiry, ← Config.follow_inquiry]
    rw [← Config.follow_inquiry] at same
    exact Config.inquiry.follow_congr same
  · rcases Config.asked_consult lookup with ⟨hasked, hamount⟩ | ⟨hasked, hamount⟩
    · exact .inl ⟨by rw [hasked]; rfl, hamount⟩
    · exact .inr ⟨by rw [hasked]; rfl, hamount⟩
  · simp only [Config.ofLookup_eq_ok_iff, Config.isValid_iff, Config.isAbsolute_eq_true_iff,
      Config.startsWith_slash_iff, Decimal.isPositive_iff]
    constructor
    · rintro ⟨config, made, habsolute, hrooted, hpositive⟩
      rw [made.apiBase] at habsolute
      rw [made.paymentPath] at hrooted
      exact ⟨habsolute, hrooted, _, made.amount, hpositive⟩
    · rintro ⟨habsolute, hrooted, amount, hamount, hpositive⟩
      exact ⟨_, Config.isMadeOf_assemble hamount, habsolute, hrooted, hpositive⟩

/-- A configuration is made by its fields, with a switch in capitals and one that is off. -/
theorem fields_make_their_configuration :
    ∃ (c : Config) (source : Config.Key → Option String), c.payment.amount.toText = "0.0010" ∧
      c.stale = .discard ∧ source .discardStale = some " YES\n" ∧ c.allowReset = false ∧
      source .allowReset = some "off" ∧ c.IsValid ∧ Config.Tells source c ∧
      Config.ofLookup source = .ok c := by
  let amount : Decimal := ⟨false, 10, 4, by decide, by decide, by decide⟩
  let c : Config := ⟨"https://a/", ⟨none, "/p?q", amount⟩, .discard, false⟩
  let source : Config.Key → Option String
    | .apiBase => some "https://a/"
    | .paymentBase => none
    | .paymentPath => some "/p?q"
    | .paymentAmount => some amount.toText
    | .discardStale => some " YES\n"
    | .allowReset => some "off"
  have valid : c.IsValid := by decide
  have discards : Config.TurnsOn (source .discardStale) := ⟨" YES\n", rfl, by decide +kernel⟩
  have resets : ¬ Config.TurnsOn (source .allowReset) := by
    rintro ⟨value, ⟨⟩, hword⟩
    exact absurd hword (by decide +kernel)
  have tells : Config.Tells source c :=
    ⟨rfl, rfl, rfl, rfl, iff_of_true discards rfl, iff_of_false resets Bool.false_ne_true⟩
  obtain ⟨-, -, -, -, -, -, hmade⟩ := settings_make_exactly_the_valid_configurations source
  obtain ⟨-, hmade⟩ := hmade c valid
  exact ⟨c, source, by decide +kernel, rfl, rfl, rfl, rfl, valid, tells, hmade source tells⟩

end MeteredChecker
