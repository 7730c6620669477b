import MeteredChecker.Proofs.Session.Run
import Mathlib.Data.List.Forall2

/-!
# Two pages that are alike

That something does not matter is a statement about two pages: whatever differs in it, the
rest is the same.  What is overlooked is different from one such statement to the next ---
a secret, a detail, an excuse --- but the argument is not.  Bursts are the only place where
anything is looked at.  So if every handler begins alike and goes on alike, the same is done
by every move, and by every run.

A `Likeness` says what counts as the same: which events, which replies, which calls that
are waited for, which browsers, which logs.  What the page shows is never overlooked.
`Likeness.Kept` is what has to be shown of the handlers, one burst at a time, and
`Likeness.Kept.exists_run?` is what it comes to: the second page allows the moves that the
first has made, and behind each of them the two are alike.  The numbers of calls and of
handlers, and the order in which calls are under way, come along by themselves.
-/

namespace MeteredChecker

/-- If a list has a member that is looked for, so has a list that is related to it, member by
member, and it is the related one. -/
theorem exists_find?_of_forall₂ {α β : Type} {R : α → β → Prop} {P : α → Bool} {Q : β → Bool}
    (hPQ : ∀ a b, R a b → P a = Q b) {l : List α} {l' : List β} (h : List.Forall₂ R l l') {a : α}
    (hfind : l.find? P = some a) : ∃ b, l'.find? Q = some b ∧ R a b := by
  induction h with
  | nil => cases hfind
  | @cons x y l l' hxy _ ih =>
    rw [List.find?_cons] at hfind ⊢
    rw [← hPQ x y hxy]
    cases hx : P x with
    | true =>
      rw [hx] at hfind
      cases hfind
      exact ⟨y, rfl, hxy⟩
    | false =>
      rw [hx] at hfind
      exact ih hfind

/-- What counts as the same when two pages are compared. -/
structure Likeness where
  event : Event → Event → Prop
  reply : Reply → Reply → Prop
  awaiting : Awaiting → Awaiting → Prop
  browser : Browser → Browser → Prop
  log : List LogEvent → List LogEvent → Prop

namespace Likeness

/-- Two bursts end alike: with the same outcome, or waiting for the same. -/
inductive Rests (l : Likeness) : Rest → Rest → Prop
  | ended (outcome : Option Payment.Outcome) : l.Rests (.ended outcome) (.ended outcome)
  | waits {a a' : Awaiting} (alike : l.awaiting a a') : l.Rests (.waits a) (.waits a')

/-- Two bursts do the same. -/
structure Bursts (l : Likeness) (burst burst' : Burst) : Prop where
  view : burst.view = burst'.view
  browser : l.browser burst.browser burst'.browser
  log : l.log burst.log burst'.log
  rest : l.Rests burst.rest burst'.rest

/-- Two moves are the same: handlers are started for the same, or the call of one number is
settled with the same. -/
inductive Moves (l : Likeness) : Move → Move → Prop
  | start {event event' : Event} (alike : l.event event event') :
      l.Moves (.start event) (.start event')
  | settle (call : Nat) {reply reply' : Reply} (alike : l.reply reply reply') :
      l.Moves (.settle call reply) (.settle call reply')

/-- Two moves report the same. -/
structure Reports (l : Likeness) (r r' : Report) : Prop where
  handler : r.handler = r'.handler
  log : l.log r.log r'.log
  rest : l.Rests r.rest r'.rest

/-- Two calls under way are the same. -/
structure Pendings (l : Likeness) (p p' : Pending) : Prop where
  call : p.call = p'.call
  handler : p.handler = p'.handler
  awaiting : l.awaiting p.awaiting p'.awaiting

/-- Two pages show the same, and the same is under way on them. -/
structure Sessions (l : Likeness) (s s' : Session) : Prop where
  view : s.view = s'.view
  browser : l.browser s.browser s'.browser
  pending : List.Forall₂ l.Pendings s.pending s'.pending
  calls : s.calls = s'.calls
  handlers : s.handlers = s'.handlers

/-- What is behind two moves is the same. -/
structure Steps (l : Likeness) (next next' : Session × Report) : Prop where
  session : l.Sessions next.1 next'.1
  report : l.Reports next.2 next'.2

/-- The handlers do not look at what is overlooked: where all else is the same, they begin
alike and they go on alike. -/
structure Kept (l : Likeness) (policy : Policy) : Prop where
  begin : ∀ {event event' : Event} (v : View) {b b' : Browser}, l.event event event' →
    l.browser b b' → l.Bursts (Handler.begin event v b) (Handler.begin event' v b')
  resume : ∀ {a a' : Awaiting} {reply reply' : Reply} {v : View} {b b' : Browser} {burst : Burst},
    l.awaiting a a' → l.reply reply reply' → l.browser b b' →
    Handler.resume? policy a reply v b = some burst →
    ∃ burst', Handler.resume? policy a' reply' v b' = some burst' ∧ l.Bursts burst burst'

variable {l : Likeness}

/-! ## Reports -/

/-- The same handlers end, with the same outcomes. -/
theorem Reports.finished {r r' : Report} (reports : l.Reports r r') : r.finished = r'.finished := by
  obtain ⟨n, log, rest⟩ := r
  obtain ⟨n', log', rest'⟩ := r'
  obtain ⟨hhandler, -, hrest⟩ := reports
  obtain rfl : n = n' := hhandler
  cases hrest <;> rfl

/-- Calls are made for the same. -/
theorem Reports.made {r r' : Report} (reports : l.Reports r r') {R : Call → Call → Prop}
    (hR : ∀ a a', l.awaiting a a' → R a.call a'.call) : Option.Rel R r.made r'.made := by
  obtain ⟨n, log, rest⟩ := r
  obtain ⟨n', log', rest'⟩ := r'
  cases reports.rest with
  | ended outcome => exact .none
  | waits alike => exact .some (hR _ _ alike)

/-! ## One move -/

namespace Sessions

variable {s s' : Session}

theorem absorb (alike : l.Sessions s s') {n n' : Nat} (hn : n = n') {burst burst' : Burst}
    (bursts : l.Bursts burst burst') : l.Steps (s.absorb n burst) (s'.absorb n' burst') := by
  subst hn
  obtain ⟨v, b, log, rest⟩ := burst
  obtain ⟨v', b', log', rest'⟩ := burst'
  obtain ⟨hview, hbrowser, hlog, hrest⟩ := bursts
  have hreport : l.Reports ⟨n, log, rest⟩ ⟨n, log', rest'⟩ := ⟨rfl, hlog, hrest⟩
  cases hrest with
  | ended outcome => exact ⟨⟨hview, hbrowser, alike.pending, alike.calls, alike.handlers⟩, hreport⟩
  | waits hawaiting =>
    have hmade : l.Pendings ⟨s.calls, n, _⟩ ⟨s'.calls, n, _⟩ := ⟨alike.calls, rfl, hawaiting⟩
    exact ⟨⟨hview, hbrowser, List.rel_append alike.pending (.cons hmade .nil),
      congrArg (· + 1) alike.calls, alike.handlers⟩, hreport⟩

theorem drop (alike : l.Sessions s s') (call : Nat) : l.Sessions (s.drop call) (s'.drop call) where
  view := alike.view
  browser := alike.browser
  calls := alike.calls
  handlers := alike.handlers
  pending := List.rel_filter (fun p p' hp => by simp [hp.call]) alike.pending

theorem exists_pending? (alike : l.Sessions s s') {call : Nat} {p : Pending}
    (hp : s.pending? call = some p) : ∃ p', s'.pending? call = some p' ∧ l.Pendings p p' :=
  exists_find?_of_forall₂ (fun p p' hpp' => by rw [hpp'.call]) alike.pending hp

theorem behind (alike : l.Sessions s s') {trail trail' : List (Session × Report)}
    (steps : List.Forall₂ l.Steps trail trail') :
    l.Sessions (s.behind trail) (s'.behind trail') := by
  induction steps generalizing s s' with
  | nil => exact alike
  | cons hnext _ ih =>
    rw [Session.behind_cons, Session.behind_cons]
    exact ih hnext.session

end Sessions

/-- By the same moves the same handlers end, with the same outcomes. -/
theorem filterMap_finished {trail trail' : List (Session × Report)}
    (steps : List.Forall₂ l.Steps trail trail') :
    trail.filterMap (fun next => next.2.finished) =
      trail'.filterMap fun next => next.2.finished := by
  induction steps with
  | nil => rfl
  | cons hnext _ ih => rw [List.filterMap_cons, List.filterMap_cons, hnext.report.finished, ih]

namespace Kept

variable {policy : Policy} {s s' : Session}

/-- **What a move does on one page it does on the other.** -/
theorem exists_step? (kept : l.Kept policy) (alike : l.Sessions s s') {move move' : Move}
    (moves : l.Moves move move') {next : Session × Report}
    (step : s.step? policy move = some next) :
    ∃ next', s'.step? policy move' = some next' ∧ l.Steps next next' := by
  cases moves with
  | @start event event' hevent =>
    have hbegun : l.Sessions { s with handlers := s.handlers + 1 }
        { s' with handlers := s'.handlers + 1 } :=
      { alike with handlers := congrArg (· + 1) alike.handlers }
    have hburst : l.Bursts (Handler.begin event s.view s.browser)
        (Handler.begin event' s'.view s'.browser) :=
      alike.view ▸ kept.begin s.view hevent alike.browser
    cases step
    exact ⟨_, rfl, hbegun.absorb alike.handlers hburst⟩
  | settle call hreply =>
    simp only [Session.step?, Session.settle?, Option.bind_eq_bind, Option.bind_eq_some_iff,
      Option.pure_def, Option.some.injEq] at step ⊢
    obtain ⟨p, hp, burst, hburst, rfl⟩ := step
    obtain ⟨p', hp', hpending⟩ := alike.exists_pending? hp
    obtain ⟨burst', hburst', bursts⟩ :=
      kept.resume hpending.awaiting hreply alike.browser hburst
    rw [alike.view] at hburst'
    exact ⟨_, ⟨p', hp', burst', hburst', rfl⟩, (alike.drop call).absorb hpending.handler bursts⟩

/-- **What is done on one page can be done on the other, and comes to the same.** -/
theorem exists_run? (kept : l.Kept policy) (alike : l.Sessions s s') {moves moves' : List Move}
    (hmoves : List.Forall₂ l.Moves moves moves') {trail : List (Session × Report)}
    (run : s.run? policy moves = some trail) :
    ∃ trail', s'.run? policy moves' = some trail' ∧ List.Forall₂ l.Steps trail trail' := by
  induction hmoves generalizing s s' trail with
  | nil =>
    cases run
    exact ⟨[], rfl, .nil⟩
  | cons hmove _ ih =>
    obtain ⟨next, later, hstep, hlater, rfl⟩ := Session.run?_cons_iff.1 run
    obtain ⟨next', hstep', hnext⟩ := kept.exists_step? alike hmove hstep
    obtain ⟨later', hlater', hlaters⟩ := ih hnext.session hlater
    exact ⟨next' :: later', Session.run?_cons_iff.2 ⟨next', later', hstep', hlater', rfl⟩,
      .cons hnext hlaters⟩

end Kept

end Likeness
end MeteredChecker
