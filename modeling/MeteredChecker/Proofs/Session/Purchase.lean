import MeteredChecker.Proofs.Session.Completion

/-!
# A purchase ends in one of two ways

Buying is a chain of three steps, each of which may fail: the payment endpoint
answers, its answer is an approval, the browser goes where the approval says.  A
purchase ends either at the end of the chain or with a message, and
`Handler.afterPayment_cases` is the only place where the chain is opened.  Whichever
link breaks, what the user sees is one message and no more, and where the browser is
does not change.

## What the browser remembers

The browser is written to by purchases that end and by nothing else
(`Session.Step.browser_cases`).  So after any run, whatever else went on and however
many purchases overlap, its location is the body of the approval that was settled
last and its messages are those of the purchases that failed, in the order in which
they did (`Run.location_eq`, `Run.alerts_eq`).

A browser without a window shows its messages to nobody, so what is said about
messages is said of browsers that have one.
-/

namespace MeteredChecker

namespace Payment

/-- A reply that says where to go: its status is one of 200 to 299, and its body
begins as an absolute address does. -/
def Reply.Approves (r : Reply) : Prop :=
  200 ≤ r.status.toNat ∧ r.status.toNat ≤ 299 ∧ "http".toList <+: r.body.toList

instance (r : Reply) : Decidable r.Approves := inferInstanceAs (Decidable (_ ∧ _ ∧ _))

/-- What the user is told about a purchase that leads nowhere. -/
def notice : Except Failure Reply → String
  | .ok reply =>
      if reply.Approves then "An error occurred while initiating the payment."
      else "Payment creation failed. Please try again."
  | .error .emptyInput => "Please enter some code."
  | .error (.paymentRejected _ _) => "Payment creation failed. Please try again."
  | .error _ => "An error occurred while initiating the payment."

theorem Reply.approves_iff {r : Reply} :
    (r.isSuccess && Text.startsWith r.body "http") = true ↔ r.Approves := by
  simp only [isSuccess, isSuccessStatus, Text.startsWith, Approves, Bool.and_eq_true,
    decide_eq_true_eq, UInt16.le_iff_toNat_le, UInt16.lt_iff_toNat_lt, List.isPrefixOf_iff_prefix,
    and_assoc]
  exact and_congr_right fun _ => and_congr_left fun _ => Nat.lt_succ_iff

theorem Reply.approval_eq (r : Reply) :
    r.approval =
      if r.Approves then .ok ⟨r.body⟩ else .error (.paymentRejected r.status r.body) := by
  rw [approval]
  exact if_congr approves_iff rfl rfl

theorem notice_error (e : Failure) : notice (.error e) = e.userMessage .payment := by
  cases e <;> rfl

/-- The message that a purchase ended with. -/
def Outcome.message? : Outcome → Option String
  | .alerted message => some message
  | .redirected _ => none

end Payment

namespace Browser

variable {b : Browser}

@[simp] theorem alert_location (message : String) : (b.alert message).location = b.location := by
  unfold alert
  split <;> rfl

@[simp] theorem alert_disposition (message : String) :
    (b.alert message).disposition = b.disposition := by
  unfold alert
  split <;> rfl

/-- Where there is a window a message is shown. -/
theorem alert_alerts (window : b.disposition ≠ .absent) (message : String) :
    (b.alert message).alerts = b.alerts ++ [message] := by
  unfold alert
  split
  · next h => exact absurd h window
  · rfl

theorem navigate_of_willing (willing : b.disposition = .willing) (url : String) :
    b.navigate url = .ok { b with location := some url } := by
  rw [navigate, willing]

/-- A browser that does not go where it is sent says so with a failure of its own
kind. -/
theorem exists_navigate_error (unwilling : b.disposition ≠ .willing) (url : String) :
    ∃ detail, b.navigate url = .error (.navigation detail) := by
  unfold navigate
  split
  · next h => exact absurd h unwilling
  · exact ⟨_, rfl⟩
  · exact ⟨_, rfl⟩

end Browser

/-! ## The chain -/

namespace Handler

variable (v : View) (b : Browser)

/-- **A purchase ends in one of two ways**: it goes where the approval says, if there
is one and the browser is willing, and otherwise it shows one message. -/
theorem afterPayment_cases (outcome : Except Failure Payment.Reply) :
    (∃ reply, outcome = .ok reply ∧ reply.Approves ∧ b.disposition = .willing ∧
      ∃ log, afterPayment outcome v b =
        ⟨v, { b with location := some reply.body }, log,
          .ended (some (.redirected reply.body))⟩) ∨
    ((∀ reply, outcome = .ok reply → reply.Approves → b.disposition ≠ .willing) ∧
      ∃ log, afterPayment outcome v b =
        ⟨v, b.alert (Payment.notice outcome), log,
          .ended (some (.alerted (Payment.notice outcome)))⟩) := by
  cases outcome with
  | error e =>
    refine .inr ⟨?_, ?_⟩
    · intro reply h
      cases h
    · rw [Payment.notice_error]
      exact ⟨_, rfl⟩
  | ok reply =>
    by_cases happroves : reply.Approves
    · have happroval : reply.approval = .ok ⟨reply.body⟩ := by
        rw [Payment.Reply.approval_eq, if_pos happroves]
      by_cases hwilling : b.disposition = .willing
      · refine .inl ⟨reply, rfl, happroves, hwilling, ?_⟩
        have happrove : approve (.ok reply) b =
            .ok ({ b with location := some reply.body }, reply.body) := by
          simp [approve, happroval, Browser.navigate_of_willing hwilling, bind, Except.bind, pure,
            Except.pure]
        exact ⟨_, by rw [afterPayment, happrove]⟩
      · refine .inr ⟨fun _ _ _ => hwilling, ?_⟩
        obtain ⟨detail, hnavigate⟩ := Browser.exists_navigate_error hwilling reply.body
        have happrove : approve (.ok reply) b = .error (.navigation detail) := by
          simp [approve, happroval, hnavigate, bind, Except.bind]
        rw [Payment.notice, if_pos happroves]
        exact ⟨_, by rw [afterPayment, happrove]; rfl⟩
    · refine .inr ⟨fun reply' h happroves' => ?_, ?_⟩
      · cases h
        exact absurd happroves' happroves
      · have happrove : approve (.ok reply) b =
            .error (.paymentRejected reply.status reply.body) := by
          simp [approve, Payment.Reply.approval_eq, if_neg happroves, bind, Except.bind]
        rw [Payment.notice, if_neg happroves]
        exact ⟨_, by rw [afterPayment, happrove]; rfl⟩

end Handler

/-! ## Who buys -/

/-- A purchase waits for its payment until it has its outcome. -/
theorem Course.rest_of_buy {policy : Policy} {l : History} {status : Option Rest}
    (course : Course policy l status) {m : Moment} (hm : m ∈ l) (hbuy : m.move = .start .buy) :
    status = some (.waits .payment) ∨ ∃ sale, status = some (.ended (some sale)) := by
  induction course with
  | idle => cases hm
  | turn course turn ih =>
    cases turn with
    | rejected | submitted | refreshing | resetting =>
      cases course
      obtain rfl := List.mem_singleton.1 hm
      cases hbuy
    | buying => exact .inl rfl
    | paid => exact .inr ⟨_, rfl⟩
    | checked | counted | restored =>
      rcases List.mem_cons.1 hm with rfl | hbefore
      · cases hbuy
      · rcases ih hbefore with h | ⟨sale, h⟩ <;> cases h

/-- A handler was started to buy calls. -/
def History.Buys (h : History) (n : Nat) : Prop :=
  ∃ m ∈ h, m.move = .start .buy ∧ m.report.handler = n

/-- Whoever is to take a turn is buying if and only if it waits for a payment. -/
theorem Run.buys_iff_of_ready {policy : Policy} {browser : Browser} {h : History} {s : Session}
    (run : Run policy browser h s) {n : Nat} {before : Option Awaiting}
    (ready : s.Ready n before) : h.Buys n ↔ before = some .payment := by
  obtain ⟨status, course, stands⟩ := run.exists_course n
  constructor
  · rintro ⟨m, hm, hbuy, hn⟩
    have hmem : m ∈ h.of n := History.mem_of.2 ⟨hm, hn⟩
    cases before with
    | none =>
      rw [run.of_eq_nil (Nat.le_of_eq ready.symm)] at hmem
      cases hmem
    | some a =>
      rw [(stands.waits_iff a).1 ready] at course
      rcases course.rest_of_buy hmem hbuy with h | ⟨sale, h⟩ <;> cases h
      rfl
  · rintro rfl
    rw [(stands.waits_iff .payment).1 ready] at course
    obtain ⟨k, log, hof⟩ := course.eq_of_payment
    have hmem : _ ∈ h.of n := hof ▸ List.mem_cons_self
    exact ⟨_, (History.mem_of.1 hmem).1, rfl, (History.mem_of.1 hmem).2⟩

/-! ## What the browser remembers -/

namespace Moment

/-- The address that an approval sends the browser to: its payment was settled, and
this is the body of the reply. -/
def approved? (m : Moment) : Option String :=
  match m.move with
  | .settle _ (.payment (.ok reply)) => if reply.Approves then some reply.body else none
  | _ => none

/-- A purchase ended, and this is how. -/
def sale? (m : Moment) : Option Payment.Outcome :=
  match m.report.rest with
  | .ended outcome => outcome
  | .waits _ => none

end Moment

/-- How the purchases ended, in the order in which they did. -/
def History.sales (h : History) : List Payment.Outcome := h.reverse.filterMap Moment.sale?

theorem History.sales_cons (m : Moment) (h : History) :
    History.sales (m :: h) = h.sales ++ m.sale?.toList := by
  rw [sales, List.reverse_cons, List.filterMap_append, sales]
  cases hm : m.sale? <;> simp [hm]

/-- **The browser is written to by purchases that end and by nothing else.**  A
purchase that ends has sent the browser to an address or shown a message; any other
handler has done neither. -/
theorem Session.Step.browser_cases {policy : Policy} {s : Session} {move : Move}
    {next : Session × Report} (step : Step policy s move next) :
    (∃ call reply, move = .settle call (.payment (.ok reply)) ∧
      s.Ready next.2.handler (some .payment) ∧ reply.Approves ∧
      s.browser.disposition = .willing ∧
      next.1.browser = { s.browser with location := some reply.body } ∧
      next.2.rest = .ended (some (.redirected reply.body))) ∨
    (∃ call outcome, move = .settle call (.payment outcome) ∧
      s.Ready next.2.handler (some .payment) ∧
      (∀ reply, outcome = .ok reply → reply.Approves → s.browser.disposition ≠ .willing) ∧
      next.1.browser = s.browser.alert (Payment.notice outcome) ∧
      next.2.rest = .ended (some (.alerted (Payment.notice outcome)))) ∨
    (∃ before, s.Ready next.2.handler before ∧ before ≠ some .payment ∧
      Moment.settles .payment ⟨move, next.2⟩ = false ∧
      next.1.browser = s.browser ∧ ∀ sale, next.2.rest ≠ .ended (some sale)) := by
  obtain ⟨n, before, burst, ready, turn, -, hbrowser, hreport⟩ := step.exists_burst
  rw [hbrowser, hreport]
  cases turn with
  | paid call outcome sold =>
    rcases Handler.afterPayment_cases s.view s.browser outcome with
      ⟨reply, rfl, happroves, hwilling, _, hburst⟩ | ⟨hbroken, _, hburst⟩
    · cases sold.symm.trans hburst
      exact .inl ⟨call, reply, rfl, ready, happroves, hwilling, rfl, rfl⟩
    · cases sold.symm.trans hburst
      exact .inr (.inl ⟨call, outcome, rfl, ready, hbroken, rfl, rfl⟩)
  | rejected | submitted | refreshing | resetting | buying | checked | counted | restored =>
    exact .inr (.inr ⟨_, ready, by simp, rfl, rfl, by simp⟩)

namespace Moment

variable {m : Moment}

/-- What is not the end of a purchase approves of nothing. -/
theorem approved?_eq_none_of_settles (h : m.settles .payment = false) : m.approved? = none := by
  obtain ⟨move, report⟩ := m
  cases move with
  | start event => rfl
  | settle call reply =>
    cases reply with
    | check | stats | reset => rfl
    | payment => cases h

theorem sale?_eq_none_of_rest (h : ∀ sale, m.report.rest ≠ .ended (some sale)) :
    m.sale? = none := by
  cases hsale : m.sale? with
  | none => rfl
  | some sale =>
    rw [sale?] at hsale
    split at hsale
    · next hrest => exact absurd (hsale ▸ hrest) (h sale)
    · cases hsale

end Moment

namespace Run

variable {policy : Policy} {disposition : Disposition} {h : History} {s : Session}

theorem disposition_eq (run : Run policy (.new disposition) h s) :
    s.browser.disposition = disposition := by
  induction run with
  | opened => rfl
  | moved run step ih =>
    rcases (Session.step_of_step? step).browser_cases with
      ⟨_, _, _, _, _, _, hb, _⟩ | ⟨_, _, _, _, _, hb, _⟩ | ⟨_, _, _, _, hb, _⟩
    · rw [hb]
      exact ih
    · rw [hb, Browser.alert_disposition]
      exact ih
    · rw [hb]
      exact ih

/-- **The browser is where the latest approval says**, if it goes anywhere. -/
theorem location_eq (run : Run policy (.new disposition) h s) :
    (disposition = .willing → s.browser.location = h.findSome? Moment.approved?) ∧
      (disposition ≠ .willing → s.browser.location = none) := by
  induction run with
  | opened => exact ⟨fun _ => rfl, fun _ => rfl⟩
  | moved run step ih =>
    obtain ⟨hwilling, hunwilling⟩ := ih
    rcases (Session.step_of_step? step).browser_cases with
      ⟨call, reply, rfl, -, happroves, hdisposition, hb, -⟩ |
      ⟨call, outcome, rfl, -, hbroken, hb, -⟩ | ⟨before, -, -, hsettles, hb, -⟩
    · rw [run.disposition_eq] at hdisposition
      rw [hb]
      exact ⟨fun _ => by simp [Moment.approved?, happroves],
        fun hne => absurd hdisposition hne⟩
    · rw [run.disposition_eq] at hbroken
      rw [hb, Browser.alert_location]
      refine ⟨fun heq => ?_, hunwilling⟩
      have hnone : ∀ r, Moment.approved? ⟨.settle call (.payment outcome), r⟩ = none := by
        intro r
        cases outcome with
        | error e => rfl
        | ok reply => exact if_neg fun happroves => hbroken reply rfl happroves heq
      rw [List.findSome?_cons, hnone]
      exact hwilling heq
    · rw [hb, List.findSome?_cons, Moment.approved?_eq_none_of_settles hsettles]
      exact ⟨hwilling, hunwilling⟩

/-- **The messages are those of the purchases that failed**, in their order. -/
theorem alerts_eq (run : Run policy (.new disposition) h s) (window : disposition ≠ .absent) :
    s.browser.alerts = h.sales.filterMap Payment.Outcome.message? := by
  induction run with
  | opened => rfl
  | moved run step ih =>
    rw [History.sales_cons, List.filterMap_append, ← ih]
    rcases (Session.step_of_step? step).browser_cases with
      ⟨_, _, _, _, _, _, hb, hrest⟩ | ⟨_, _, _, _, _, hb, hrest⟩ | ⟨_, _, _, _, hb, hrest⟩
    · rw [hb, Moment.sale?, hrest]
      exact (List.append_nil _).symm
    · rw [hb, Browser.alert_alerts (run.disposition_eq ▸ window), Moment.sale?, hrest]
      rfl
    · rw [hb, Moment.sale?_eq_none_of_rest hrest]
      exact (List.append_nil _).symm

/-- Each payment that is settled is the end of a purchase. -/
theorem length_sales_eq (run : Run policy (.new disposition) h s) :
    h.sales.length = h.countP (Moment.settles .payment) := by
  induction run with
  | opened => rfl
  | moved run step ih =>
    rw [History.sales_cons, List.length_append, List.countP_cons, ih]
    rcases (Session.step_of_step? step).browser_cases with
      ⟨_, _, rfl, _, _, _, _, hrest⟩ | ⟨_, _, rfl, _, _, _, hrest⟩ | ⟨_, _, _, hsettles, _, hrest⟩
    · rw [Moment.sale?, hrest]
      rfl
    · rw [Moment.sale?, hrest]
      rfl
    · rw [hsettles, Moment.sale?_eq_none_of_rest hrest]
      rfl

end Run

/-- No purchase ends twice, because no handler does. -/
theorem Run.length_sales_of_le {policy : Policy} {browser : Browser} {h : History} {s : Session}
    (run : Run policy browser h s) (n : Nat) : (h.of n).sales.length ≤ 1 := by
  obtain ⟨status, course, -⟩ := run.exists_course n
  have hends : ∀ m ∈ h.of n, m.sale?.isSome = true → m.ends = true := by
    intro m _ hsale
    rw [Moment.sale?] at hsale
    rw [Moment.ends, Report.finished]
    cases hrest : m.report.rest with
    | ended outcome => rfl
    | waits a =>
      rw [hrest] at hsale
      cases hsale
  calc (h.of n).sales.length
      = (h.of n).countP fun m => m.sale?.isSome := by
        rw [History.sales, List.length_filterMap_eq_countP, List.countP_reverse]
    _ ≤ (h.of n).countP Moment.ends := List.countP_mono_left hends
    _ ≤ 1 := by
        rw [course.countP_ends]
        split <;> simp

/-- **A purchase ends in exactly one of two ways**, however many of them overlap and
whatever the other handlers do.

The only step that a purchase takes after its start is the one that settles its
payment.  If the reply approves and the browser is willing, the browser is behind it
at the body of the reply, and shows no message; in every other case it stays where it
is and shows one message, which says what has happened.  A step of a handler that is
not buying does nothing to the browser and ends no purchase.

So at every moment the browser is where the approval settled last says, or nowhere
if there was none or if it is unwilling to go; the messages that it has shown are
those of the purchases that were alerted, in their order; each payment that was
settled has ended a purchase, and none has ended twice. -/
theorem purchase_ends_in_one_way {policy : Policy} {disposition : Disposition} {h : History}
    {s : Session} (run : Run policy (.new disposition) h s) (window : disposition ≠ .absent) :
    (∀ move next, s.step? policy move = some next → h.Buys next.2.handler →
      ∃ call outcome, move = .settle call (.payment outcome) ∧
        ((∃ reply, outcome = .ok reply ∧ reply.Approves ∧ disposition = .willing ∧
            next.2.rest = .ended (some (.redirected reply.body)) ∧
            next.1.browser.location = some reply.body ∧
            next.1.browser.alerts = s.browser.alerts) ∨
          ((∀ reply, outcome = .ok reply → reply.Approves → disposition ≠ .willing) ∧
            next.2.rest = .ended (some (.alerted (Payment.notice outcome))) ∧
            next.1.browser.location = s.browser.location ∧
            next.1.browser.alerts = s.browser.alerts ++ [Payment.notice outcome]))) ∧
    (∀ move next, s.step? policy move = some next → ¬ h.Buys next.2.handler →
      next.1.browser = s.browser ∧ ∀ sale, next.2.rest ≠ .ended (some sale)) ∧
    (disposition = .willing → s.browser.location = h.findSome? Moment.approved?) ∧
    (disposition ≠ .willing → s.browser.location = none) ∧
    s.browser.alerts = h.sales.filterMap Payment.Outcome.message? ∧
    s.browser.alerts.length = h.sales.countP (fun sale => sale.message?.isSome) ∧
    h.sales.length = h.countP (Moment.settles .payment) ∧
    ∀ n, (h.of n).sales.length ≤ 1 := by
  have hdisposition := run.disposition_eq
  have halerts := run.alerts_eq window
  refine ⟨fun move next step hbuys => ?_, fun move next step hbuys => ?_, run.location_eq.1,
    run.location_eq.2, halerts, ?_, run.length_sales_eq, run.length_sales_of_le⟩
  · rcases (Session.step_of_step? step).browser_cases with
      ⟨call, reply, rfl, -, happroves, hwilling, hb, hrest⟩ |
      ⟨call, outcome, rfl, -, hbroken, hb, hrest⟩ | ⟨before, ready, hbefore, -⟩
    · rw [hdisposition] at hwilling
      exact ⟨call, _, rfl, .inl ⟨reply, rfl, happroves, hwilling, hrest, by rw [hb], by rw [hb]⟩⟩
    · rw [hdisposition] at hbroken
      refine ⟨call, outcome, rfl, .inr ⟨hbroken, hrest, ?_, ?_⟩⟩
      · rw [hb, Browser.alert_location]
      · rw [hb, Browser.alert_alerts (hdisposition ▸ window)]
    · exact absurd ((run.buys_iff_of_ready ready).1 hbuys) hbefore
  · rcases (Session.step_of_step? step).browser_cases with
      ⟨_, _, _, ready, _⟩ | ⟨_, _, _, ready, _⟩ | ⟨_, _, _, _, hb, hrest⟩
    · exact absurd ((run.buys_iff_of_ready ready).2 rfl) hbuys
    · exact absurd ((run.buys_iff_of_ready ready).2 rfl) hbuys
    · exact ⟨hb, hrest⟩
  · rw [halerts, List.length_filterMap_eq_countP]

/-- Of two purchases that overlap the second is approved first, and the first is
declined then: the browser is where the approval says, and one message was shown. -/
theorem approved_and_declined :
    ∃ h s, Run .discard (.new .willing) h s ∧ Disposition.willing ≠ .absent ∧
      h.map Moment.move =
        [.settle 0 (.payment (.ok ⟨402, "no funds"⟩)),
          .settle 1 (.payment (.ok ⟨200, "https://pay.test/1"⟩)), .start .buy, .start .buy] ∧
      s.browser.location = some "https://pay.test/1" ∧
      s.browser.alerts = ["Payment creation failed. Please try again."] := by
  have window : Disposition.willing ≠ .absent := by simp
  have buying : Run .discard (.new .willing) _ _ := (Run.opened.start .buy).start .buy
  have run := (buying.settle 1 (.payment (.ok ⟨200, "https://pay.test/1"⟩)) rfl).settle 0
    (.payment (.ok ⟨402, "no funds"⟩)) rfl
  obtain ⟨-, -, hlocation, -, halerts, -⟩ := purchase_ends_in_one_way run window
  refine ⟨_, _, run, window, rfl, ?_, ?_⟩
  · rw [hlocation rfl]
    rfl
  · rw [halerts]
    rfl

end MeteredChecker
