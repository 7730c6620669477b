import MeteredChecker.Proofs.Decimal.Cents
import MeteredChecker.Proofs.Page.Start
import MeteredChecker.Proofs.Service.Counters

/-!
# What is seen when the page is opened

A page that is opened asks for the quota once and is rendered when the answer is there.  Between
the octets of the answer and the text of the page stand an address, a reader of responses, a
reader of JSON, a handler, a view and a tree of markup.  All of them together come to very
little: the text of the page is a function of two settings and of two numbers, or of there being
no numbers (`Page.html`, `Page.render_framed_checkerPage`).

That the numbers are all that an answer gives away is seen on the text itself.  What is not fixed
in it is whether there is an offer and whether there is a button, the two counters and the price,
and these are digits with a point and a sign at most.  None of their characters has to be escaped
(`Page.Markup.render_text`), so the text can be written down, and there is no place in it for
anything that a server says.

Which two numbers they are is said from the side of the server.  It tells a quota if the quota is
written in the body of its response, as an object or as a list (`Line.Tells`), and the quota that
it tells is the one that the client gets (`Http.Client.stats_outcome_eq_ok_iff`).
-/

namespace MeteredChecker

/-! ## The refresh -/

/-- **A refresh** asks once, and what it leaves on the page is what it is told. -/
theorem Service.complete_refresh {σ : Type} (service : Service σ) (policy : Policy) (v : View)
    (b : Browser) (state : σ) :
    let done := service.complete policy .refresh v b state
    done.view = v.beginQuota.showQuota (service.stats state).outcome ∧ done.calls = [.stats] ∧
      done.state = (service.stats state).state := by
  simp only [complete, Handler.begin, Handler.beginRefresh]
  rw [finish]
  simp only [settle, Handler.afterStats_of_current (View.isStale_self _ policy)]
  rw [finish]
  exact ⟨rfl, rfl, rfl⟩

/-! ## The text of markup -/

namespace Page
namespace Markup

/-- The text in front of the children of an element. -/
def opening (tag : String) (attributes : List Attribute) : String :=
  .ofList ('<' :: tag.toList ++ attributes.flatMap attributeChars ++ ['>'])

/-- The text behind the children of an element. -/
def closing (tag : String) : String := .ofList ("</".toList ++ tag.toList ++ ['>'])

/-- The text of trees in a row. -/
def renderAll (ms : List Markup) : String := .ofList (charsOfAll ms)

theorem render_element (tag : String) (attributes : List Attribute) (children : List Markup) :
    (element tag attributes children).render =
      opening tag attributes ++ renderAll children ++ closing tag := by
  simp only [render, opening, renderAll, closing, chars, ← String.ofList_append]
  simp only [List.append_assoc, List.cons_append, List.nil_append]

@[simp] theorem renderAll_nil : renderAll [] = "" := rfl

theorem renderAll_cons (m : Markup) (ms : List Markup) :
    renderAll (m :: ms) = m.render ++ renderAll ms :=
  String.ofList_append

theorem renderAll_singleton (m : Markup) : renderAll [m] = m.render := by
  rw [renderAll_cons, renderAll_nil, String.append_empty]

theorem renderAll_append (ms ms' : List Markup) :
    renderAll (ms ++ ms') = renderAll ms ++ renderAll ms' := by
  induction ms with
  | nil => rw [List.nil_append, renderAll_nil, String.empty_append]
  | cons m ms ih => rw [List.cons_append, renderAll_cons, renderAll_cons, ih, String.append_assoc]

/-- The characters that mean something else in markup than in a text. -/
def IsSpecial (c : Char) : Prop := c = '&' ∨ c = '<' ∨ c = '>'

instance (c : Char) : Decidable (IsSpecial c) := inferInstanceAs (Decidable (_ ∨ _ ∨ _))

/-- There is something in a text, and nothing that would have to be written differently in
markup. -/
structure IsPlain (content : String) : Prop where
  filled : content ≠ ""
  unspecial : ∀ c ∈ content.toList, ¬ IsSpecial c

theorem isPlain_iff {content : String} :
    IsPlain content ↔ content ≠ "" ∧ ∀ c ∈ content.toList, ¬ IsSpecial c :=
  ⟨fun h => ⟨h.filled, h.unspecial⟩, fun h => ⟨h.1, h.2⟩⟩

-- looks at the members of the text, and not at all characters that there are
instance (content : String) : Decidable (IsPlain content) :=
  have : Decidable (∀ c ∈ content.toList, ¬ IsSpecial c) := List.decidableBAll _ content.toList
  decidable_of_iff _ isPlain_iff.symm

theorem IsPlain.append {a b : String} (ha : IsPlain a) (hb : IsPlain b) : IsPlain (a ++ b) := by
  refine ⟨fun hempty => ?_, fun c hc => ?_⟩
  · exact ha.filled (String.append_eq_empty_iff.1 hempty).1
  · rw [String.toList_append, List.mem_append] at hc
    rcases hc with hc | hc
    · exact ha.unspecial c hc
    · exact hb.unspecial c hc

theorem not_isSpecial_of_isDigit {c : Char} (h : c.isDigit = true) : ¬ IsSpecial c := by
  rintro (rfl | rfl | rfl) <;> exact absurd h (by decide)

theorem isPlain_toString (n : Nat) : IsPlain (toString n) := by
  have hchars : (toString n).toList = Nat.toDigits 10 n := String.toList_ofList
  refine ⟨fun hempty => ?_, fun c hc => ?_⟩
  · rw [hempty] at hchars
    exact Nat.toDigits_ne_nil hchars.symm
  · rw [hchars] at hc
    exact not_isSpecial_of_isDigit (Nat.isDigit_of_mem_toDigits (by decide) (by decide) hc)

theorem isPlain_toCents (d : Decimal) : IsPlain d.toCents := by
  have hchars : d.toCents.toList = d.toCentsChars := String.toList_ofList
  refine ⟨fun hempty => ?_, fun c hc => ?_⟩
  · rw [hempty] at hchars
    exact List.append_ne_nil_of_right_ne_nil _ (List.cons_ne_nil _ _) hchars.symm
  · rw [hchars] at hc
    rcases Decimal.mem_toCentsChars hc with rfl | rfl | hdigit
    · decide
    · decide
    · exact not_isSpecial_of_isDigit hdigit

/-- **A plain text is written as it is.** -/
theorem render_text {content : String} (h : IsPlain content) :
    (text content).render = content := by
  have hfilled : ¬ content.toList.isEmpty = true := by
    rw [List.isEmpty_iff, String.toList_eq_nil_iff]
    exact h.filled
  have hescaped : content.toList.flatMap escaped = content.toList.flatMap fun c => [c] := by
    refine List.flatMap_congr fun c hc => ?_
    have hunspecial := h.unspecial c hc
    simp only [IsSpecial, not_or] at hunspecial
    unfold escaped
    split
    · exact absurd rfl hunspecial.1
    · exact absurd rfl hunspecial.2.1
    · exact absurd rfl hunspecial.2.2
    · rfl
  rw [render, chars, textChars, if_neg hfilled, hescaped, List.flatMap_singleton',
    String.ofList_toList]

end Markup

/-! ## The page as a text -/

/-- A row of the quota region. -/
def statRow (line : String) : String := "<p class=\"stat-line\">" ++ line ++ "</p>"

/-- The rows of the quota region: the two counters, or that there are none. -/
def statRows : Option Quota → String
  | some quota =>
      statRow ("Total API Calls: " ++ toString quota.total.toNat) ++
        statRow ("Remaining Calls: " ++ toString quota.remaining.toNat)
  | none => statRow "Could not fetch stats."

/-- The offer to pay an amount. -/
def offer (amount : String) : String :=
  "<div class=\"pay\"><p>You have used up all your API calls.</p>" ++
    "<button id=\"payButton\" class=\"btn btn-primary\">" ++
    ("Get 100 API calls for $" ++ amount ++ "!") ++ "</button></div>"

/-- The text of the form in which code is entered. -/
def formText : String :=
  "<form id=\"syntaxForm\">" ++
    ("<textarea id=\"codeInput\" placeholder=\"Enter your code here...\"></textarea>" ++
      "<button type=\"submit\" class=\"btn btn-primary\">Check Syntax</button></form>")

/-- The text of the page above the quota region. -/
def top : String :=
  "<main class=\"app\"><div class=\"checker\">" ++ ("<h1>Syntax Checker</h1>" ++
    ("<p class=\"subtitle\">Validate an assignment statement such as <code>int a = 5;</code></p>" ++
      (formText ++ "<div id=\"result\" class=\"result\"> </div>")))

/-- **The text of the page**, for an amount to be paid, for whether the quota may be reset, and
for the counters, if there are any. -/
def html (amount : String) (allowReset : Bool) (quota? : Option Quota) : String :=
  top ++ ("<div id=\"stats\" class=\"stats\">" ++ statRows quota? ++ "</div>") ++
    (if ∃ quota ∈ quota?, quota.remaining = 0 then offer amount else "") ++
    (if allowReset then "<button class=\"btn\">Reset calls</button>" else "") ++
    "</div></main>"

section render

open Markup

theorem render_classed (tag name : String) (children : List Markup) :
    (classed tag name children).render =
      opening tag [⟨"class", name⟩] ++ renderAll children ++ closing tag :=
  render_element _ _ _

theorem render_named (tag id name : String) (children : List Markup) :
    (named tag id name children).render =
      opening tag [⟨"id", id⟩, ⟨"class", name⟩] ++ renderAll children ++ closing tag :=
  render_element _ _ _

theorem render_statRow {line : String} (h : IsPlain line) :
    (classed "p" "stat-line" [.text line]).render = statRow line := by
  have hopen : opening "p" [⟨"class", "stat-line"⟩] = "<p class=\"stat-line\">" := by decide +kernel
  have hclose : closing "p" = "</p>" := by decide +kernel
  rw [render_classed, renderAll_singleton, render_text h, hopen, hclose]
  rfl

theorem render_statsPanel {v : View} {quota? : Option Quota}
    (h : v.stats = quota?.elim .unavailable .summary) :
    (statsPanel v).render =
      "<div id=\"stats\" class=\"stats\">" ++ statRows quota? ++ "</div>" := by
  have hopen : opening "div" [⟨"id", "stats"⟩, ⟨"class", "stats"⟩] =
    "<div id=\"stats\" class=\"stats\">" := by decide +kernel
  have hclose : closing "div" = "</div>" := by decide +kernel
  have hrows : renderAll (v.stats.lines.map fun line => classed "p" "stat-line" [.text line]) =
      statRows quota? := by
    rw [h]
    cases quota? with
    | none => exact (renderAll_singleton _).trans (render_statRow (by decide +kernel))
    | some quota =>
      have htotal := render_statRow ((by decide +kernel : IsPlain "Total API Calls: ").append
        (isPlain_toString quota.total.toNat))
      have hremaining := render_statRow ((by decide +kernel : IsPlain "Remaining Calls: ").append
        (isPlain_toString quota.remaining.toNat))
      simp only [Option.elim_some, QuotaRegion.lines, Quota.lines, List.map_cons, List.map_nil,
        renderAll_cons, renderAll_nil, String.append_empty]
      rw [htotal, hremaining, statRows]
  rw [statsPanel, render_named, hopen, hclose, hrows]

theorem render_payPanel (config : Config) :
    (payPanel config).render = offer config.payment.amountParam := by
  have hopen : opening "div" [⟨"class", "pay"⟩] ++
      (element "p" [] [.text "You have used up all your API calls."]).render =
    "<div class=\"pay\"><p>You have used up all your API calls.</p>" := by decide +kernel
  have hbutton : opening "button" [⟨"id", "payButton"⟩, ⟨"class", "btn btn-primary"⟩] =
    "<button id=\"payButton\" class=\"btn btn-primary\">" := by decide +kernel
  have hclose : closing "button" ++ closing "div" = "</button></div>" := by decide +kernel
  have hprice : IsPlain (price config) :=
    ((by decide +kernel : IsPlain "Get 100 API calls for $").append
      (isPlain_toCents config.payment.amount)).append (by decide +kernel)
  have hbuttonText : (named "button" "payButton" "btn btn-primary" [.text (price config)]).render =
      opening "button" [⟨"id", "payButton"⟩, ⟨"class", "btn btn-primary"⟩] ++ price config ++
        closing "button" := by
    rw [render_named, renderAll_singleton, render_text hprice]
  calc (payPanel config).render
    _ = opening "div" [⟨"class", "pay"⟩] ++
          (element "p" [] [.text "You have used up all your API calls."]).render ++
          opening "button" [⟨"id", "payButton"⟩, ⟨"class", "btn btn-primary"⟩] ++ price config ++
          (closing "button" ++ closing "div") := by
      rw [payPanel, render_classed, renderAll_cons, renderAll_singleton, hbuttonText]
      simp only [String.append_assoc]
    _ = offer config.payment.amountParam := by
      rw [hopen, hbutton, hclose]
      rfl

theorem render_form : form.render = formText := by
  have hopen : opening "form" [⟨"id", "syntaxForm"⟩] = "<form id=\"syntaxForm\">" := by
    decide +kernel
  have harea : (element "textarea"
      [⟨"id", "codeInput"⟩, ⟨"placeholder", "Enter your code here..."⟩] []).render =
    "<textarea id=\"codeInput\" placeholder=\"Enter your code here...\"></textarea>" := by
    decide +kernel
  have hbutton : (element "button" [⟨"type", "submit"⟩, ⟨"class", "btn btn-primary"⟩]
      [.text "Check Syntax"]).render ++ closing "form" =
    "<button type=\"submit\" class=\"btn btn-primary\">Check Syntax</button></form>" := by
    decide +kernel
  rw [form, render_element, renderAll_cons, renderAll_singleton, String.append_assoc,
    String.append_assoc, hopen, harea, hbutton]
  rfl

theorem render_top {v : View} (hresult : v.result = "") :
    opening "main" [⟨"class", "app"⟩] ++ opening "div" [⟨"class", "checker"⟩] ++
      renderAll [.element "h1" [] [.text "Syntax Checker"],
        classed "p" "subtitle"
          [.text "Validate an assignment statement such as ",
            .element "code" [] [.text "int a = 5;"]],
        form, resultPanel v] = top := by
  have hopen : opening "main" [⟨"class", "app"⟩] ++ opening "div" [⟨"class", "checker"⟩] =
    "<main class=\"app\"><div class=\"checker\">" := by decide +kernel
  have htitle : (element "h1" [] [.text "Syntax Checker"]).render = "<h1>Syntax Checker</h1>" := by
    decide +kernel
  have hsubtitle : (classed "p" "subtitle"
      [.text "Validate an assignment statement such as ",
        .element "code" [] [.text "int a = 5;"]]).render =
    "<p class=\"subtitle\">Validate an assignment statement such as <code>int a = 5;</code></p>" :=
      by decide +kernel
  have hpanel : (resultPanel v).render = "<div id=\"result\" class=\"result\"> </div>" := by
    rw [resultPanel, hresult]
    decide +kernel
  simp only [renderAll_cons, renderAll_nil, String.append_empty]
  rw [hopen, htitle, hsubtitle, render_form, hpanel]
  rfl

/-- **The text of a page whose quota has been asked for.** -/
theorem render_framed_checkerPage (config : Config) {v : View} {quota? : Option Quota}
    (hresult : v.result = "") (hstats : v.stats = quota?.elim .unavailable .summary)
    (hpay : v.payVisible = true ↔ ∃ quota ∈ quota?, quota.remaining = 0) :
    (framed (checkerPage config v)).render =
      html config.payment.amountParam config.allowReset quota? := by
  have hclose : closing "div" ++ closing "main" = "</div></main>" := by decide +kernel
  have hoffer : renderAll (if v.payVisible then [payPanel config] else []) =
      if ∃ quota ∈ quota?, quota.remaining = 0 then offer config.payment.amountParam else "" := by
    rw [← if_congr hpay rfl rfl, apply_ite renderAll, renderAll_singleton, render_payPanel]
    rfl
  have hreset : renderAll (if config.allowReset then [resetButton] else []) =
      if config.allowReset then "<button class=\"btn\">Reset calls</button>" else "" := by
    rw [apply_ite renderAll]
    refine if_congr Iff.rfl ?_ rfl
    decide +kernel
  have htop := render_top hresult
  simp only [renderAll_cons, renderAll_nil, String.append_empty] at htop
  rw [html, ← htop, ← render_statsPanel hstats, ← hoffer, ← hreset, ← hclose, framed, checkerPage]
  simp only [render_classed "main", render_classed "div", renderAll_append, renderAll_cons,
    renderAll_nil, String.append_empty, String.append_assoc]

end render

end Page

/-! ## What the answer tells -/

/-- All of a response arrives if the server listens and can be reached, and the response that is
next can be read and does not break off. -/
theorem Line.arrivalOf_eq_whole_iff {line : Line} {letter : Letter} {status : UInt16}
    {body : String} :
    line.arrivalOf letter = .whole status body ↔
      line.listening = true ∧ letter.Reaches line ∧
        ∃ r, line.deliveries.head? = some (some r) ∧ r.isReadable = true ∧ r.status = status ∧
          r.text? = some body := by
  have hdelivery (delivery : Delivery) : Http.Arrival.ofDelivery delivery = .whole status body ↔
      ∃ r, delivery = some r ∧ r.status = status ∧ r.text? = some body := by
    cases delivery with
    | none => simp [Http.Arrival.ofDelivery]
    | some r => cases htext : r.text? <;> simp [Http.Arrival.ofDelivery, htext]
  rw [arrivalOf]
  split
  · next reachable =>
    rw [arrival, incoming, hdelivery]
    cases hlistening : line.listening with
    | false => simp
    | true =>
      simp only [if_true, reachable, true_and, Option.filter_eq_some_iff, Option.join_eq_some_iff]
      simp only [and_assoc]
  · next reachable => simp [reachable]

/-- A server tells a quota in answer to a letter: it listens and can be reached, and the response
that is next can be read, is a success, and has a body, all of which arrives and in which the
quota is written. -/
structure Line.Tells (line : Line) (letter : Letter) (quota : Quota) : Prop where
  listening : line.listening = true
  reachable : letter.Reaches line
  answer : ∃ r body, line.deliveries.head? = some (some r) ∧ r.isReadable = true ∧
    IsSuccess r.status ∧ r.text? = some body ∧ quota.IsWritten body.toList

/-- What is behind the first delivery does not matter. -/
theorem Line.Tells.of_eq {line line' : Line} {letter : Letter} {quota : Quota}
    (tells : line.Tells letter quota) (hlistening : line.listening = line'.listening)
    (hschemes : line.schemes = line'.schemes)
    (hhead : line.deliveries.head? = line'.deliveries.head?) : line'.Tells letter quota where
  listening := hlistening ▸ tells.listening
  reachable := by
    have reachable := tells.reachable
    rw [Letter.Reaches, hschemes] at reachable
    exact reachable
  answer := hhead ▸ tells.answer

/-- **The quota that a client gets is the one that it is told.** -/
theorem Http.Client.stats_outcome_eq_ok_iff (client : Http.Client) {line : Line} {quota : Quota} :
    (client.stats line).outcome = .ok quota ↔ line.Tells (client.config.letter .stats) quota := by
  rw [client.stats_eq]
  dsimp only
  rw [statsOutcome_eq, Line.ofDelivery_post, (Arrival.statsClassified _ _).quota]
  simp only [Line.arrivalOf_eq_whole_iff, Quota.ofBody_eq_ok_iff_isWritten]
  constructor
  · rintro ⟨_, body, ⟨listening, reachable, r, next, readable, rfl, htext⟩, success, written⟩
    exact ⟨listening, reachable, r, body, next, readable, success, htext, written⟩
  · rintro ⟨listening, reachable, r, body, next, readable, success, htext, written⟩
    exact ⟨_, body, ⟨listening, reachable, r, next, readable, rfl, htext⟩, success, written⟩

/-- A server tells the quota that is written in the text which its response carries. -/
theorem Line.tells_of_carries {line : Line} {letter : Letter} {quota : Quota} {r : Response}
    {body : String} (listening : line.listening = true) (reachable : letter.Reaches line)
    (next : line.deliveries.head? = some (some r)) (carries : r.Carries body)
    (success : IsSuccess r.status) (written : quota.IsWritten body.toList) :
    line.Tells letter quota :=
  ⟨listening, reachable, r, body, next, carries.readable, success,
    carries.text? written.unmarked, written⟩

/-- A refresh of a new page shows the quota that it is told, or that there is none. -/
theorem View.showQuota_new (outcome : Except Failure Quota) :
    let v := View.new.beginQuota.showQuota outcome
    v.result = "" ∧ v.stats = outcome.toOption.elim .unavailable .summary ∧
      (v.payVisible = true ↔ ∃ quota ∈ outcome.toOption, quota.remaining = 0) := by
  cases outcome with
  | error e =>
    exact ⟨rfl, rfl, by simp [View.showQuota, View.beginQuota, View.new, Except.toOption]⟩
  | ok quota =>
    exact ⟨rfl, rfl, by simp [View.showQuota, Quota.isExhausted, Except.toOption]⟩

/-- **Opening the page is one refresh**, and what is rendered is the page behind it. -/
theorem Page.exists_openAt_root_eq (build : Page.Build) (window : Option Page.Window) :
    let config := (Page.load build window).config
    ∃ client, Http.Client.new config = .ok client ∧ client.config = config ∧ ∀ line,
      let opened := Page.openAt build window "/" line
      let done := (client.service config.payment).complete config.stale .refresh .new
        (Browser.new (Page.Window.disposition window)) line
      opened.markup = Page.framed (Page.checkerPage config done.view) ∧
      opened.line = done.state ∧ done.calls = [.stats] ∧
      done.view = View.new.beginQuota.showQuota (client.stats line).outcome ∧
      done.state = (client.stats line).state := by
  intro config
  obtain ⟨client, hnew, hopen⟩ := Page.exists_openAt_eq build window
  refine ⟨client, hnew, Http.Client.config_eq_of_new hnew, fun line => ?_⟩
  have hroot : Page.isRoot "/" = true := by decide +kernel
  have hopened := hopen "/" line
  simp only [hroot, if_true] at hopened
  obtain ⟨hview, hcalls, hstate⟩ := (client.service config.payment).complete_refresh config.stale
    .new (Browser.new (Page.Window.disposition window)) line
  exact ⟨congrArg Page.Opened.markup hopened, congrArg Page.Opened.line hopened, hcalls, hview,
    hstate⟩

/-- **What is seen when the page is opened is two numbers, or that there are none.**

Given are the settings that the page was built with, the window that it is shown in, and a
server with whatever is next on its line.  A client starts with the configuration that is
loaded, and opening the page is one refresh, which makes one call and sends one request: the
quota is asked for at its address.

The text of the page is the one that is written down in `Page.html`, for the amount and the
switch of the configuration and for the quota that is told, or for none.  A quota is told if the
response is a success and all of a body arrives in which the quota is written.  That is so for
every body in UTF-8, over plain connections and over secured ones.  The first delivery is all
that matters of a server, and of two servers that tell the same quota, or none, the same page is
seen. -/
theorem opened_page_shows_two_numbers (build : Page.Build) (window : Option Page.Window) :
    let config := (Page.load build window).config
    let letter : Letter := ⟨.get, config.statsUrl, none, ""⟩
    let opened := Page.openAt build window "/"
    let html := Page.html config.payment.amountParam config.allowReset
    (∃ client, Http.Client.new config = .ok client ∧ ∀ line,
      let done := (client.service config.payment).complete config.stale .refresh .new
        (Browser.new (Page.Window.disposition window)) line
      (opened line).markup = Page.framed (Page.checkerPage config done.view) ∧
      (opened line).line = done.state ∧ done.calls = [.stats]) ∧
    (∀ line, (opened line).line = (line.post letter).2 ∧
      (∀ quota, line.Tells letter quota → (opened line).markup.render = html (some quota)) ∧
      ((∀ quota, ¬ line.Tells letter quota) → (opened line).markup.render = html none)) ∧
    (∀ line r body quota, line.listening = true → letter.Reaches line →
      line.deliveries.head? = some (some r) → r.Carries body → IsSuccess r.status →
      quota.IsWritten body.toList → (opened line).markup.render = html (some quota)) ∧
    (∀ line line' : Line, line.listening = line'.listening → line.schemes = line'.schemes →
      line.deliveries.head? = line'.deliveries.head? →
      ∀ quota, line.Tells letter quota ↔ line'.Tells letter quota) ∧
    ∀ line line' : Line, (∀ quota, line.Tells letter quota ↔ line'.Tells letter quota) →
      (opened line).markup.render = (opened line').markup.render := by
  intro config letter opened html
  obtain ⟨client, hnew, (hconfig : client.config = config), hopened⟩ :=
    Page.exists_openAt_root_eq build window
  have hletter : client.config.letter .stats = letter := by rw [hconfig, Config.letter]
  have htext (line : Line) :
      (opened line).markup.render = html (client.stats line).outcome.toOption := by
    obtain ⟨hmarkup, -, -, hview, -⟩ := hopened line
    obtain ⟨hresult, hstats, hpay⟩ := View.showQuota_new (client.stats line).outcome
    rw [hview] at hmarkup
    rw [hmarkup]
    exact Page.render_framed_checkerPage config hresult hstats hpay
  have htold (line : Line) (quota : Quota) (tells : line.Tells letter quota) :
      (opened line).markup.render = html (some quota) := by
    rw [htext, client.stats_outcome_eq_ok_iff.2 (hletter ▸ tells)]
    rfl
  have huntold (line : Line) (untold : ∀ quota, ¬ line.Tells letter quota) :
      (opened line).markup.render = html none := by
    rw [htext]
    cases houtcome : (client.stats line).outcome with
    | error e => rfl
    | ok quota => exact absurd (hletter ▸ client.stats_outcome_eq_ok_iff.1 houtcome) (untold quota)
  have hsent (line : Line) : (opened line).line = (line.post letter).2 := by
    obtain ⟨-, hline, -, -, hstate⟩ := hopened line
    calc (opened line).line
      _ = (client.stats line).state := hline.trans hstate
      _ = (line.post (client.config.letter .stats)).2 := by rw [client.stats_eq]
      _ = (line.post letter).2 := by rw [hletter]
  refine ⟨⟨client, hnew, fun line => ?_⟩, fun line => ⟨hsent line, htold line, huntold line⟩,
    ?_, ?_, ?_⟩
  · obtain ⟨hmarkup, hline, hcalls, -, -⟩ := hopened line
    exact ⟨hmarkup, hline, hcalls⟩
  · intro line r body quota listening reachable next carries success written
    exact htold line quota
      (Line.tells_of_carries listening reachable next carries success written)
  · intro line line' hlistening hschemes hhead quota
    exact ⟨fun tells => tells.of_eq hlistening hschemes hhead,
      fun tells => tells.of_eq hlistening.symm hschemes.symm hhead.symm⟩
  · intro line line' same
    by_cases told : ∃ quota, line.Tells letter quota
    · obtain ⟨quota, tells⟩ := told
      rw [htold line quota tells, htold line' quota ((same quota).1 tells)]
    · rw [not_exists] at told
      rw [huntold line told, huntold line' fun quota tells => told quota ((same quota).2 tells)]

/-- An error with markup in its body and a success with a script in place of a quota are seen
alike, and nothing of them is on the page.  A quota without calls left is seen in two lines, with
an offer below. -/
theorem counters_are_seen_and_markup_is_not :
    ∃ (build : Page.Build) (answering : UInt16 → String → Line),
      let seen := fun status body =>
        (Page.openAt build none "/" (answering status body)).markup.render
      build .apiBase = some "https://checker.test/api" ∧
      (answering = fun status body => ⟨true, [.https],
        [some ⟨status, some "application/json", some body.toUTF8.toList⟩], [], ""⟩) ∧
      (∀ status body,
        ((Page.load build none).config.letter .stats).Reaches (answering status body)) ∧
      seen 500 "<b>down</b>" = seen 200 "<script>alert(1)</script>" ∧
      seen 500 "<b>down</b>" = Page.top ++ "<div id=\"stats\" class=\"stats\">" ++
        "<p class=\"stat-line\">Could not fetch stats.</p></div></div></main>" ∧
      seen 200 "\x7b\"totalCalls\":42,\"remainingCalls\":0\x7d" = Page.top ++
        "<div id=\"stats\" class=\"stats\"><p class=\"stat-line\">Total API Calls: 42</p>" ++
        "<p class=\"stat-line\">Remaining Calls: 0</p></div>" ++
        "<div class=\"pay\"><p>You have used up all your API calls.</p>" ++
        "<button id=\"payButton\" class=\"btn btn-primary\">Get 100 API calls for $1.00!" ++
        "</button></div></div></main>" := by
  let build : Page.Build
    | .apiBase => some "https://checker.test/api"
    | _ => none
  let answering (status : UInt16) (body : String) : Line := ⟨true, [.https],
    [some ⟨status, some "application/json", some body.toUTF8.toList⟩], [], ""⟩
  let letter := (Page.load build none).config.letter .stats
  have hstats : (requestTarget? [.https] letter.url).isSome = true := by decide +kernel
  have reachable (status : UInt16) (body : String) : letter.Reaches (answering status body) :=
    hstats
  obtain ⟨-, hseen, hcarried, -, -⟩ := opened_page_shows_two_numbers build none
  -- neither of the two answers tells a quota
  have hfailed (quota : Quota) : ¬ (answering 500 "<b>down</b>").Tells letter quota := by
    rintro ⟨-, -, r, body, next, -, success, -⟩
    cases next
    exact absurd success (by decide)
  have hscript (quota : Quota) :
      ¬ (answering 200 "<script>alert(1)</script>").Tells letter quota := by
    rintro ⟨-, -, r, body, next, -, -, htext, written⟩
    cases next
    have hbody : (⟨200, some "application/json",
        some "<script>alert(1)</script>".toUTF8.toList⟩ : Response).text? =
      some "<script>alert(1)</script>" := by decide +kernel
    obtain rfl := Option.some.inj (hbody.symm.trans htext)
    cases Quota.ofBody_eq_ok_iff_isWritten.2 written
  have hcounters : (⟨42, 0⟩ : Quota).IsWritten
      "\x7b\"totalCalls\":42,\"remainingCalls\":0\x7d".toList := by
    have hrender : (⟨42, 0⟩ : Quota).toJson.render =
      "\x7b\"totalCalls\":42,\"remainingCalls\":0\x7d" := by decide +kernel
    rw [← hrender]
    exact Quota.isWritten_render ⟨42, 0⟩
  refine ⟨build, answering, rfl, rfl, reachable, ?_, ?_, ?_⟩
  · exact ((hseen _).2.2 hfailed).trans ((hseen _).2.2 hscript).symm
  · exact ((hseen _).2.2 hfailed).trans (by decide +kernel)
  · refine (hcarried _ _ _ ⟨42, 0⟩ rfl (reachable _ _) rfl ?_ (by decide) hcounters).trans ?_
    · exact ⟨by decide +kernel, rfl, by decide +kernel, rfl⟩
    · decide +kernel

end MeteredChecker
