import MeteredChecker.Address.Basic
import MeteredChecker.Page.Layout
import MeteredChecker.Page.Settings
import MeteredChecker.Service.Http

/-!
# Opening the page

The page is at the root of its site and nowhere else.  Opening it loads the
settings, starts a client, and refreshes the quota once; what is rendered is the
page behind that refresh.
-/

namespace MeteredChecker
namespace Page

/-- The site of the page.  Which one it is does not matter. -/
def site : Address := ⟨"https", some (.name "localhost".toList), none, .segments [[]], none, none⟩

/-- Whether the page is at a path, or at any reference to an address for that
matter: only where it leads on its site counts. -/
def isRoot (path : String) : Bool :=
  match Address.read? (some site) path with
  | some a => a.path.chars == [] || a.path.chars == ['/']
  | none => false

/-- A page that has been opened. -/
structure Opened where
  markup : Markup
  log : List LogEvent
  line : Line

/-- Opens the page at a path. -/
def openAt (build : Build) (window : Option Window) (path : String) (line : Line) : Opened :=
  if isRoot path then
    let loaded := load build window
    match Http.Client.new loaded.config with
    | .error e => ⟨framed misconfigured, loaded.log ++ [.clientMissing e], line⟩
    | .ok client =>
        let service := client.service loaded.config.payment
        let browser := Browser.new (Window.disposition window)
        let done := service.complete loaded.config.stale .refresh .new browser line
        ⟨framed (checkerPage loaded.config done.view), loaded.log ++ done.log, done.state⟩
  else ⟨framed notFound, [], line⟩

end Page
end MeteredChecker
