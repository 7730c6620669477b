import MeteredChecker.Proofs.Config.Endpoints

/-!
# Slashes at the end of a base make no difference

An address of the service is its base and a name with a slash between, and the address for payments
is a base and a path that brings its own slash.  The two conventions have one thing in common:
before anything is joined, all slashes at the end of the base are taken off, however many there are
(`Text.dropEnd_slashed`).  So slashes that are added there are not seen in any address.

What a client sends and what it makes of the answers depends on its configuration by way of the
addresses only (`Http.Client.service_congr`), so the slashes are not noticed at all: not by the
server, and not on the page.  Nor can they make a base invalid that was not, since the demand on a
base is about how it begins.  They can make one valid that was not, as two of them do for `http:`.
-/

namespace MeteredChecker

/-! ## Slashes behind a text -/

namespace Text

variable {c : Char} {s : List Char}

/-- Copies of a character at the end are taken off with those that were there before. -/
theorem dropEndChars_append_replicate (c : Char) (s : List Char) (n : Nat) :
    dropEndChars c (s ++ List.replicate n c) = dropEndChars c s := by
  induction n with
  | zero => rw [List.replicate_zero, List.append_nil]
  | succ n ih =>
    rw [List.replicate_succ', ← List.append_assoc]
    exact (List.rdropWhile_concat_pos (· == c) _ c (beq_self_eq_true c)).trans ih

/-- What is left does not end with the character. -/
theorem ne_of_mem_getLast?_dropEndChars {d : Char} (h : d ∈ (dropEndChars c s).getLast?) :
    d ≠ c := by
  obtain ⟨hne, rfl⟩ := List.mem_getLast?_eq_getLast h
  rw [dropEndChars_eq_rdropWhile] at hne
  exact fun heq => List.rdropWhile_last_not (· == c) s hne (beq_iff_eq.2 heq)

/-- A text with slashes behind it. -/
def slashed (s : String) (n : Nat) : String := s ++ String.ofList (List.replicate n '/')

theorem dropEnd_slashed (s : String) (n : Nat) : dropEnd '/' (slashed s n) = dropEnd '/' s := by
  rw [dropEnd, slashed, String.toList_append, String.toList_ofList, dropEndChars_append_replicate,
    dropEnd]

/-- What is taken off the end of a text is slashes. -/
theorem exists_eq_slashed (s : String) : ∃ n, s = slashed (dropEnd '/' s) n := by
  obtain ⟨n, hn⟩ := exists_eq_dropEndChars_append '/' s.toList
  refine ⟨n, ?_⟩
  rw [← String.toList_inj, slashed, dropEnd, String.toList_append, String.toList_ofList,
    String.toList_ofList]
  exact hn

/-- What is left does not end with a slash. -/
theorem ne_slash_of_mem_getLast?_dropEnd {s : String} {d : Char}
    (h : d ∈ (dropEnd '/' s).toList.getLast?) : d ≠ '/' := by
  rw [dropEnd, String.toList_ofList] at h
  exact ne_of_mem_getLast?_dropEndChars h

theorem startsWith_slashed {s start : String} (h : startsWith s start = true) (n : Nat) :
    startsWith (slashed s n) start = true := by
  rw [startsWith_iff] at h ⊢
  rw [slashed, String.toList_append]
  exact h.trans (List.prefix_append _ _)

end Text

/-! ## Slashes behind the bases -/

/-- The terms with slashes behind the base for payments, if there is one. -/
def Payment.Terms.slashed (t : Terms) (n : Nat) : Terms :=
  { t with base := t.base.map fun base => Text.slashed base n }

theorem Payment.Terms.url_slashed (t : Terms) (n : Nat) : (t.slashed n).url = t.url := by
  obtain ⟨base, path, amount⟩ := t
  cases base with
  | none => rfl
  | some base => simp only [url, slashed, Option.map_some, Option.getD_some, Text.dropEnd_slashed,
      amountParam]

namespace Config

variable {c : Config}

/-- The configuration with slashes behind the base of the service, and behind the base for
payments if there is one. -/
def slashed (c : Config) (n m : Nat) : Config :=
  { c with apiBase := Text.slashed c.apiBase n, payment := c.payment.slashed m }

theorem endpoint_slashed (c : Config) (n m : Nat) (name : String) :
    (c.slashed n m).endpoint name = c.endpoint name := by
  simp only [endpoint, slashed, Text.dropEnd_slashed]

/-- Slashes do not make a configuration invalid. -/
theorem IsValid.slashed (valid : c.IsValid) (n m : Nat) : (c.slashed n m).IsValid := by
  obtain ⟨hbase, hpath, hamount⟩ := isValid_iff.1 valid
  refine isValid_iff.2 ⟨?_, hpath, hamount⟩
  rw [isAbsolute, Bool.or_eq_true] at hbase ⊢
  exact hbase.imp (Text.startsWith_slashed · n) (Text.startsWith_slashed · n)

/-- **What is sent is the same**, and so is where it is sent. -/
theorem letter_slashed (c : Config) (n m : Nat) (call : Call) :
    (c.slashed n m).letter call = c.letter call := by
  cases call with
  | check submission => simp only [letter, checkUrl, endpoint_slashed]
  | stats => simp only [letter, statsUrl, endpoint_slashed]
  | payment => exact congrArg (fun url => (⟨_, url, _, _⟩ : Letter)) (c.payment.url_slashed m)
  | reset => simp only [letter, resetUrl, endpoint_slashed]

end Config

/-- **Clients that send the same are the same**, as far as anybody who calls them can tell. -/
theorem Http.Client.service_congr {client client' : Http.Client}
    (same : ∀ call, client'.config.letter call = client.config.letter call) :
    client'.service client'.config.payment = client.service client.config.payment := by
  rw [service, service, Service.mk.injEq]
  refine ⟨?_, ?_, ?_, ?_⟩
  · funext submission line
    rw [check_eq, check_eq, same]
  · funext line
    rw [stats_eq, stats_eq, same]
  · funext line
    rw [pay_eq, pay_eq, same]
  · funext line
    rw [reset_eq, reset_eq, same]

/-- **Slashes at the end of the bases make no difference**, however many are there and however many
are added.

The four addresses stay the same, and a valid configuration stays valid.  The client that is made of
it sends the same letters, and whoever calls it on any line is given the same answers, finds the
same in the log and leaves the same requests with the server.

In the addresses of the service the base is without the slashes at its end, and one slash is between
it and the name.  In the address for payments the base is without the slashes at its end, too, and
directly behind it is the path. -/
theorem trailing_slashes_make_no_difference (c : Config) (n m : Nat) :
    let c' := c.slashed n m
    (c'.checkUrl = c.checkUrl ∧ c'.statsUrl = c.statsUrl ∧ c'.resetUrl = c.resetUrl ∧
      c'.payment.url = c.payment.url) ∧
    (c.IsValid → c'.IsValid) ∧
    (∀ client, Http.Client.new c = .ok client → ∃ client', Http.Client.new c' = .ok client' ∧
      (∀ call, c'.letter call = c.letter call) ∧
      client'.service c'.payment = client.service c.payment) ∧
    (∃ front k, c.apiBase = Text.slashed front k ∧ (∀ d ∈ front.toList.getLast?, d ≠ '/') ∧
      c.checkUrl = front ++ "/" ++ "check" ∧ c.statsUrl = front ++ "/" ++ "stats" ∧
      c.resetUrl = front ++ "/" ++ "reset") ∧
    ∃ front k, c.payment.base.getD "" = Text.slashed front k ∧
      (∀ d ∈ front.toList.getLast?, d ≠ '/') ∧
      c.payment.url = front ++ c.payment.path ++ "?amount=" ++ c.payment.amountParam := by
  intro c'
  refine ⟨⟨c.endpoint_slashed n m _, c.endpoint_slashed n m _, c.endpoint_slashed n m _,
    c.payment.url_slashed m⟩, fun valid => valid.slashed n m, fun client accepted => ?_, ?_, ?_⟩
  · obtain rfl := Http.Client.config_eq_of_new accepted
    refine ⟨⟨_, client.valid.slashed n m⟩, Http.Client.new_eq_ok _,
      client.config.letter_slashed n m, ?_⟩
    exact Http.Client.service_congr (client.config.letter_slashed n m)
  · obtain ⟨k, hk⟩ := Text.exists_eq_slashed c.apiBase
    exact ⟨_, k, hk, fun d => Text.ne_slash_of_mem_getLast?_dropEnd, rfl, rfl, rfl⟩
  · obtain ⟨k, hk⟩ := Text.exists_eq_slashed (c.payment.base.getD "")
    exact ⟨_, k, hk, fun d => Text.ne_slash_of_mem_getLast?_dropEnd, rfl⟩

/-- A base with two slashes at its end is given three more, and a base for payments that is nothing
but a slash is given another. -/
theorem four_slashes_are_none :
    ∃ (c : Config) (client client' : Http.Client), c.apiBase = "http://localhost:2424/api//" ∧
      c.payment.base = some "/" ∧ c.IsValid ∧ Http.Client.new c = .ok client ∧
      Http.Client.new (c.slashed 3 1) = .ok client' ∧
      (c.slashed 3 1).apiBase = "http://localhost:2424/api/////" ∧
      (c.slashed 3 1).checkUrl = "http://localhost:2424/api/check" ∧
      (c.slashed 3 1).payment.url = "/paypal/makePayment?amount=1.00" ∧
      client'.service (c.slashed 3 1).payment = client.service c.payment := by
  have valid : ({ Config.default.withPaymentBase "/" with
      apiBase := "http://localhost:2424/api//" } : Config).IsValid := by
    decide
  have accepted := Http.Client.new_eq_ok valid
  obtain ⟨⟨hcheck, -, -, hpay⟩, -, hclient, -⟩ := trailing_slashes_make_no_difference _ 3 1
  obtain ⟨client', accepted', -, hservice⟩ := hclient _ accepted
  exact ⟨_, _, client', rfl, rfl, valid, accepted, accepted', by decide +kernel,
    hcheck.trans (by decide +kernel), hpay.trans (by decide +kernel), hservice⟩

end MeteredChecker
