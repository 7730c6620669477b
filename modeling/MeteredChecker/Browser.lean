import MeteredChecker.Failure

/-!
# The browser around the page

Two things are asked of the browser: to show a message, and to go to another
address.  A browser may refuse to go, and then says why; and where there is no
window at all, going fails and a message reaches nobody.
-/

namespace MeteredChecker

/-- How a browser takes what is asked of it.  It goes everywhere or nowhere: one that goes to
some addresses and refuses others, as a browser with a window may, is not modelled. -/
inductive Disposition where
  /-- It goes where it is sent. -/
  | willing
  /-- It goes nowhere; the text says why, in view of the address. -/
  | refusing (reason : String → String)
  /-- There is no window. -/
  | absent

/-- A browser that blocks every address, and says which. -/
def Disposition.blocking : Disposition := .refusing fun url => "blocked: " ++ url

/-- A browser: how it is disposed, the messages that it has shown, and the address
that it was sent to last. -/
structure Browser where
  disposition : Disposition
  alerts : List String
  location : Option String

namespace Browser

/-- A browser that has not been asked for anything. -/
def new (disposition : Disposition) : Browser := ⟨disposition, [], none⟩

/-- Shows a message. -/
def alert (b : Browser) (message : String) : Browser :=
  match b.disposition with
  | .absent => b
  | _ => { b with alerts := b.alerts ++ [message] }

/-- Goes to an address. -/
def navigate (b : Browser) (url : String) : Except Failure Browser :=
  match b.disposition with
  | .willing => .ok { b with location := some url }
  | .refusing reason => .error (.navigation (reason url))
  | .absent => .error (.navigation "no window")

end Browser
end MeteredChecker
