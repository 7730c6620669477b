import MeteredChecker.Page.Site
import MeteredChecker.Proofs.Config.Demands

/-!
# The page always starts

A page has a branch for a configuration that its client does not accept, and never gets there.
Whatever was baked into it, the configuration that it loads is valid: it is made of the
settings, and then it was checked, or it is the default, which is valid.  What is done to it
afterwards is that a base for payments is filled in, and no demand is made on that one
(`Page.isValid_load`).

So the two parts of loading can be told apart.  Whether there is a complaint in the log, and
all of the configuration but the base for payments, is decided by the settings alone.  The
window has a say in the base for payments alone, and only if the settings, as far as they
count, say nothing about it (`page_always_starts`).
-/

namespace MeteredChecker

namespace Page

variable (build : Build) (window : Option Window)

/-- A setting that is empty is not there. -/
theorem lookup_eq_filter : build.lookup = fun key => (build key).filter (· ≠ "") := by
  funext key
  have hempty (value : String) : (!value.toList.isEmpty) = decide (value ≠ "") := by
    by_cases h : value = "" <;> simp [h]
  simp only [Build.lookup, hempty]

/-- The window fills in the base if there is none. -/
theorem atOrigin_eq (config : Config) :
    atOrigin config window =
      config.withBase (config.payment.base.or (window.bind Window.origin)) := by
  obtain ⟨apiBase, ⟨base, path, amount⟩, stale, allowReset⟩ := config
  unfold atOrigin
  cases base <;> cases window.bind Window.origin <;> rfl

/-- Settings that make a configuration are kept, and the window is asked for what they leave
open. -/
theorem load_of_ok {config : Config} (h : Config.ofLookup build.lookup = .ok config) :
    load build window =
      ⟨config.withBase ((build.lookup .paymentBase).or (window.bind Window.origin)), []⟩ := by
  have hbaked : baked build = ⟨config, []⟩ := by rw [baked, h]
  rw [load, hbaked, atOrigin_eq, Config.base_of_ofLookup h]

/-- Settings that make none are given up, all of them, and there is one complaint. -/
theorem load_of_error {e : Failure} (h : Config.ofLookup build.lookup = .error e) :
    load build window =
      ⟨Config.default.withBase (window.bind Window.origin), [.settingsIgnored e]⟩ := by
  have hbaked : baked build = ⟨.default, [.settingsIgnored e]⟩ := by rw [baked, h]
  rw [load, hbaked, atOrigin_eq]
  rfl

/-- **What a page loads is valid.** -/
theorem isValid_load : (load build window).config.IsValid := by
  cases h : Config.ofLookup build.lookup with
  | ok config =>
    obtain ⟨-, -, -, valid⟩ := Config.exists_assemble_of_ofLookup h
    rw [load_of_ok build window h]
    exact (Config.isValid_withBase_iff _).2 valid
  | error e =>
    rw [load_of_error build window h]
    exact (Config.isValid_withBase_iff _).2 Config.isValid_default

/-- The client starts, and what is rendered is the page, or that there is none. -/
theorem exists_openAt_eq :
    ∃ client, Http.Client.new (load build window).config = .ok client ∧ ∀ path line,
      openAt build window path line =
        let config := (load build window).config
        let done := (client.service config.payment).complete config.stale .refresh .new
          (Browser.new (Window.disposition window)) line
        if isRoot path then
          ⟨framed (checkerPage config done.view), (load build window).log ++ done.log, done.state⟩
        else ⟨framed notFound, [], line⟩ := by
  refine ⟨⟨_, isValid_load build window⟩, Http.Client.new_eq_ok _, fun path line => ?_⟩
  rw [openAt]
  split
  · simp only [Http.Client.new_eq_ok (isValid_load build window)]
  · rfl

theorem framed_checkerPage_ne_misconfigured (config : Config) (v : View) :
    framed (checkerPage config v) ≠ framed misconfigured := by
  simp [framed, checkerPage, classed, misconfigured]

theorem framed_notFound_ne_misconfigured : framed notFound ≠ framed misconfigured := by
  simp [framed, classed, misconfigured, notFound]

end Page

/-- **The page always starts, and says where its configuration comes from.**

A setting counts if it is there and not empty.  Whatever the settings are and whatever the
window says, the page loads a configuration that meets every demand.  If the settings make a
configuration, it is that one, nothing is logged, and the base for payments is the one that is
set or else the origin of the window, if it can be read.  If they make none, it is the default,
one error is logged, with the reason, and the base for payments is the origin of the window, if
it can be read, even if another one is set.

A client starts with the configuration that is loaded.  So what is rendered at a path is the
page of the checker or that there is no page, and never that the checker is misconfigured. -/
theorem page_always_starts (build : Page.Build) (window : Option Page.Window) :
    let setting := fun key => (build key).filter (· ≠ "")
    let origin := window.bind Page.Window.origin
    let loaded := Page.load build window
    loaded.config.IsValid ∧
    (match Config.ofLookup setting with
      | .ok config =>
          loaded.config = config.withBase ((setting .paymentBase).or origin) ∧ loaded.log = []
      | .error e =>
          loaded.config = Config.default.withBase origin ∧ loaded.log.map LogEvent.line =
            ["ERROR Invalid build configuration, using defaults: " ++ e.message]) ∧
    ∃ client, Http.Client.new loaded.config = .ok client ∧ ∀ path line,
      (Page.openAt build window path line).markup ≠ Page.framed Page.misconfigured ∧
      Page.openAt build window path line =
        let done := (client.service loaded.config.payment).complete loaded.config.stale .refresh
          .new (Browser.new (Page.Window.disposition window)) line
        if Page.isRoot path then
          ⟨Page.framed (Page.checkerPage loaded.config done.view), loaded.log ++ done.log,
            done.state⟩
        else ⟨Page.framed Page.notFound, [], line⟩ := by
  intro setting origin loaded
  refine ⟨Page.isValid_load build window, ?_, ?_⟩
  · have hlookup : setting = build.lookup := (Page.lookup_eq_filter build).symm
    rw [hlookup]
    cases hmade : Config.ofLookup build.lookup with
    | ok config =>
      have hloaded := Page.load_of_ok build window hmade
      exact ⟨congrArg Page.Loaded.config hloaded, congrArg Page.Loaded.log hloaded⟩
    | error e =>
      have hloaded := Page.load_of_error build window hmade
      exact ⟨congrArg Page.Loaded.config hloaded,
        congrArg (fun l => l.log.map LogEvent.line) hloaded⟩
  · obtain ⟨client, hnew, hopen⟩ := Page.exists_openAt_eq build window
    refine ⟨client, hnew, fun path line => ⟨?_, hopen path line⟩⟩
    rw [hopen]
    dsimp only
    split
    · exact Page.framed_checkerPage_ne_misconfigured _ _
    · exact Page.framed_notFound_ne_misconfigured

end MeteredChecker
