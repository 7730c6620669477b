import MeteredChecker.Config.Basic
import MeteredChecker.Page.Markup
import MeteredChecker.View

/-!
# What the page looks like

The page is a function of what it shows and of the configuration: from the view
come the result, the lines of the quota and whether payment is offered; from the
configuration come the price on the button and whether there is a button that
resets the quota.  Nothing else goes into it.
-/

namespace MeteredChecker
namespace Page

open Markup

/-- An element with a class. -/
def classed (tag name : String) (children : List Markup) : Markup :=
  .element tag [⟨"class", name⟩] children

/-- An element with a name and a class. -/
def named (tag id name : String) (children : List Markup) : Markup :=
  .element tag [⟨"id", id⟩, ⟨"class", name⟩] children

/-- The form in which code is entered. -/
def form : Markup :=
  .element "form" [⟨"id", "syntaxForm"⟩]
    [.element "textarea"
       [⟨"id", "codeInput"⟩, ⟨"placeholder", "Enter your code here..."⟩] [],
     .element "button" [⟨"type", "submit"⟩, ⟨"class", "btn btn-primary"⟩]
       [.text "Check Syntax"]]

/-- The result region. -/
def resultPanel (v : View) : Markup := named "div" "result" "result" [.text v.result]

/-- The quota region, a row for each line. -/
def statsPanel (v : View) : Markup :=
  named "div" "stats" "stats" (v.stats.lines.map fun line => classed "p" "stat-line" [.text line])

/-- The words on the pay button. -/
def price (c : Config) : String := "Get 100 API calls for $" ++ c.payment.amountParam ++ "!"

/-- The offer to pay. -/
def payPanel (c : Config) : Markup :=
  classed "div" "pay"
    [.element "p" [] [.text "You have used up all your API calls."],
     named "button" "payButton" "btn btn-primary" [.text (price c)]]

/-- The button that resets the quota. -/
def resetButton : Markup := classed "button" "btn" [.text "Reset calls"]

/-- The page of the checker. -/
def checkerPage (c : Config) (v : View) : Markup :=
  classed "div" "checker" <|
    [.element "h1" [] [.text "Syntax Checker"],
     classed "p" "subtitle"
       [.text "Validate an assignment statement such as ",
        .element "code" [] [.text "int a = 5;"]],
     form,
     resultPanel v,
     statsPanel v] ++
    (if v.payVisible then [payPanel c] else []) ++
    (if c.allowReset then [resetButton] else [])

/-- What is shown in place of a checker that cannot be started. -/
def misconfigured : Markup := classed "p" "error" [.text "The checker is misconfigured."]

/-- What is shown where there is no page. -/
def notFound : Markup := .element "p" [] [.text "Page not found"]

/-- A page inside the frame that all pages share. -/
def framed (page : Markup) : Markup := classed "main" "app" [page]

end Page
end MeteredChecker
