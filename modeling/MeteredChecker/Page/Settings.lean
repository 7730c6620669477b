import MeteredChecker.Browser
import MeteredChecker.Config.Sources
import MeteredChecker.Log

/-!
# The settings of the page

A page has no environment to ask.  Its settings are baked in when it is built,
and a setting that is empty counts as absent.  Settings that make no
configuration are given up as a whole, with a word in the log: a page that works
with the defaults is better than no page.

What is not known when the page is built is where it will be loaded from.  So
unless a base for payments was set, it is the origin of the window, if the window
tells.
-/

namespace MeteredChecker
namespace Page

/-- The window that a page is shown in: its origin, if it can be read, and why it
refuses to go elsewhere, if it does. -/
structure Window where
  origin : Option String
  refusal : Option String
  deriving DecidableEq, Repr

/-- The browser around a window, or around none. -/
def Window.disposition : Option Window → Disposition
  | none => .absent
  | some w =>
      match w.refusal with
      | none => .willing
      | some reason => .refusing fun _ => "JsValue(" ++ reason ++ ")"

/-- The settings that a page was built with. -/
abbrev Build := Config.Key → Option String

/-- A setting, unless it is empty. -/
def Build.lookup (build : Build) (key : Config.Key) : Option String :=
  (build key).filter fun value => !value.toList.isEmpty

/-- A configuration, and what was logged on the way to it. -/
structure Loaded where
  config : Config
  log : List LogEvent

/-- The configuration that the settings make, or the defaults. -/
def baked (build : Build) : Loaded :=
  match Config.ofLookup build.lookup with
  | .ok config => ⟨config, []⟩
  | .error e => ⟨.default, [.settingsIgnored e]⟩

/-- The configuration with its base for payments filled in. -/
def atOrigin (config : Config) (window : Option Window) : Config :=
  match config.payment.base, window.bind Window.origin with
  | none, some origin => config.withPaymentBase origin
  | _, _ => config

/-- The configuration of a page. -/
def load (build : Build) (window : Option Window) : Loaded :=
  let loaded := baked build
  { loaded with config := atOrigin loaded.config window }

end Page
end MeteredChecker
