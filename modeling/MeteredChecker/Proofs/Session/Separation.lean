import MeteredChecker.Proofs.Session.Purchase
import Mathlib.Data.List.Forall2

/-!
# Payments and the rest do not interfere

A page has two sides that share nothing but the numbers.  Purchases work on the
browser and never look at the view; submissions, refreshes and resets work on the
view and never look at the browser.  So either side can be deleted from a run, and
the other does what it did before, move by move.

What stands in the way is the numbering.  Calls and handlers are numbered over both
sides, so a move that settles a call names another number once the other side is
gone.  The new number of a call is the number of calls before it that are kept
(`callNumber`), and it can be read off the moves, since a move says by itself which
call it makes (`Handler.Turn.made_eq`).

## Two runs at once

`Session.Mirrors` relates a session to the one in which only one side has moved: they
agree in what that side works on, and the calls under way in the second are the calls
of that side under way in the first, renumbered.  A move of the side is made in both
(`Mirrors.exists_step?`), a move of the other only in the first (`Mirrors.skip`), and
both keep the relation.
-/

namespace MeteredChecker

/-! ## Two sides -/

/-- A call that is about money. -/
def Operation.pays : Operation → Bool
  | .payment => true
  | .check | .stats | .reset => false

/-- An event that is about money. -/
def Event.pays : Event → Bool
  | .buy => true
  | .submit _ | .refresh | .reset => false

/-- A move on the side of the payments: a purchase starts, or a payment is settled. -/
def Move.pays : Move → Bool
  | .start event => event.pays
  | .settle _ reply => reply.operation.pays

/-- What is waited for on the side of the payments. -/
def Awaiting.pays (a : Awaiting) : Bool := a.call.operation.pays

/-- A move makes calls on its own side. -/
theorem Move.pays_of_made {move : Move} {call : Call} (h : move.made = some call) :
    call.operation.pays = move.pays := by
  cases move with
  | start event =>
    cases event with
    | submit submission =>
      rw [made] at h
      split at h <;> cases h
      rfl
    | refresh | reset | buy =>
      cases h
      rfl
  | settle n reply =>
    cases reply <;> cases h <;> rfl

/-- What a side works on is the same: the browser for payments, the view for the
rest. -/
def Agree (pays : Bool) (v v' : View) (b b' : Browser) : Prop :=
  match pays with
  | true => b' = b
  | false => v' = v

/-- Two bursts do the same to what a side works on, and rest alike. -/
structure Burst.Alike (pays : Bool) (burst burst' : Burst) : Prop where
  agree : Agree pays burst.view burst'.view burst.browser burst'.browser
  log : burst'.log = burst.log
  rest : burst'.rest = burst.rest

namespace Handler

variable {policy : Policy} {v v' : View} {b b' : Browser}

/-- A handler begins alike wherever its own side is the same. -/
theorem begin_alike (event : Event) (agree : Agree event.pays v v' b b') :
    (begin event v b).Alike event.pays (begin event v' b') := by
  cases event with
  | submit submission =>
    obtain rfl : v' = v := agree
    simp only [begin, beginSubmission]
    split <;> exact ⟨rfl, rfl, rfl⟩
  | refresh | reset =>
    obtain rfl : v' = v := agree
    exact ⟨rfl, rfl, rfl⟩
  | buy => exact ⟨agree, rfl, rfl⟩

theorem afterCheck_alike (ticket : Ticket) (outcome : Except Failure Verdict) :
    (afterCheck policy ticket outcome v b).Alike false (afterCheck policy ticket outcome v b') := by
  unfold afterCheck
  cases v.applyCheck? ticket outcome policy <;> exact ⟨rfl, rfl, rfl⟩

theorem afterStats_alike (ticket : Ticket) (outcome : Except Failure Quota) :
    (afterStats policy ticket outcome v b).Alike false (afterStats policy ticket outcome v b') := by
  unfold afterStats
  cases v.applyQuota? ticket outcome policy <;> exact ⟨rfl, rfl, rfl⟩

theorem afterPayment_alike (outcome : Except Failure Payment.Reply) :
    (afterPayment outcome v b).Alike true (afterPayment outcome v' b) := by
  unfold afterPayment
  cases approve outcome b <;> exact ⟨rfl, rfl, rfl⟩

/-- **A handler that is not buying never looks at the browser, and a purchase never
looks at the view.** -/
theorem exists_resume?_alike {a : Awaiting} {reply : Reply} {burst : Burst}
    (agree : Agree a.pays v v' b b') (h : resume? policy a reply v b = some burst) :
    ∃ burst', resume? policy a reply v' b' = some burst' ∧ burst.Alike a.pays burst' := by
  cases a <;> cases reply <;> simp only [resume?, Option.some.injEq, reduceCtorEq] at h <;>
    subst h <;> cases agree <;> refine ⟨_, rfl, ?_⟩
  · exact afterCheck_alike _ _
  · exact afterStats_alike _ _
  · exact afterPayment_alike _
  · exact ⟨rfl, rfl, rfl⟩

variable {before : Option Awaiting} {move : Move} {burst : Burst}

/-- A move leaves alone what the other side works on. -/
theorem Turn.agree (turn : Turn policy v b before move burst) :
    Agree (!move.pays) v burst.view b burst.browser := by
  cases turn <;> rfl

/-- What a handler waits for is the call that its move has made. -/
theorem Turn.made_of_waits (turn : Turn policy v b before move burst) {a : Awaiting}
    (h : burst.rest = .waits a) : move.made = some a.call := by
  rw [← turn.made_eq 0, Report.made, h]

/-- A call is settled on its own side. -/
theorem Turn.pays_eq {a : Awaiting} (turn : Turn policy v b (some a) move burst) :
    a.pays = move.pays := by
  cases turn <;> rfl

end Handler

/-! ## Numbers -/

section rank

variable {α β : Type}

/-- How many of the first `n` members of a list have a property. -/
def rank (P : β → Bool) (l : List β) (n : Nat) : Nat := (l.take n).countP P

/-- Counting on in a list of which the rest is at hand. -/
theorem rank_succ (P : β → Bool) {l rest : List β} {n : Nat} {y : β}
    (h : y :: rest = l.drop n) : rank P l (n + 1) = rank P l n + if P y then 1 else 0 := by
  have hy : l[n]? = some y := by rw [← List.head?_drop, ← h, List.head?_cons]
  rw [rank, rank, List.take_add_one, hy, List.countP_append]
  exact congrArg _ (List.countP_singleton ..)

/-- What is still to come of a list of results, one member on. -/
theorem filterMap_eq_drop {f : α → Option β} {x : α} {todo : List α} {l : List β} {n : Nat}
    (h : (x :: todo).filterMap f = l.drop n) :
    todo.filterMap f = l.drop (n + (f x).toList.length) := by
  rw [List.filterMap_cons] at h
  cases hx : f x with
  | none =>
    rw [hx] at h
    exact h
  | some y =>
    rw [hx] at h
    exact (congrArg List.tail h).trans List.tail_drop

end rank

/-- The number of a call once one side only is kept: how many calls of that side were
made before it. -/
def callNumber (pays : Bool) (moves : List Move) : Nat → Nat :=
  rank (fun call => call.operation.pays == pays) (moves.filterMap Move.made)

/-- The number of a handler once one side only is kept: how many handlers of that side
were started before it. -/
def handlerNumber (pays : Bool) (moves : List Move) : Nat → Nat :=
  rank (fun event => event.pays == pays) (moves.filterMap Move.event?)

/-- A move with the number of its call changed. -/
def Move.renumber (f : Nat → Nat) : Move → Move
  | .start event => .start event
  | .settle call reply => .settle (f call) reply

/-- A report with the number of its handler changed. -/
def Report.renumber (f : Nat → Nat) (r : Report) : Report := { r with handler := f r.handler }

/-- A call under way with its number and that of its handler changed. -/
def Pending.renumber (f g : Nat → Nat) (p : Pending) : Pending :=
  ⟨f p.call, g p.handler, p.awaiting⟩

/-- The moves of one side, renumbered. -/
def only (pays : Bool) (moves : List Move) : List Move :=
  (moves.filter fun move => move.pays == pays).map (Move.renumber (callNumber pays moves))

/-- What is behind the moves of one side. -/
def kept {α : Type} (pays : Bool) (moves : List Move) (trail : List α) : List α :=
  ((moves.zip trail).filter fun e => e.1.pays == pays).map Prod.snd

/-! ## Two runs at once -/

namespace Session

/-- The second session is what the first is when one side only has moved. -/
structure Mirrors (pays : Bool) (f g : Nat → Nat) (s s' : Session) : Prop where
  agree : Agree pays s.view s'.view s.browser s'.browser
  pending : s'.pending =
    (s.pending.filter fun p => p.awaiting.pays == pays).map (Pending.renumber f g)
  calls : s'.calls = f s.calls
  handlers : s'.handlers = g s.handlers

namespace Mirrors

variable {policy : Policy} {pays : Bool} {f g : Nat → Nat} {s s' : Session}

/-- A burst is taken in on both sides of the mirror. -/
theorem absorb (mirrors : s.Mirrors pays f g s') (n : Nat) {burst burst' : Burst}
    (alike : burst.Alike pays burst')
    (made : ∀ a, burst.rest = .waits a → a.pays = pays ∧ f (s.calls + 1) = f s.calls + 1) :
    (s.absorb n burst).1.Mirrors pays f g (s'.absorb (g n) burst').1 where
  agree := by
    simpa using alike.agree
  handlers := by
    simpa using mirrors.handlers
  pending := by
    cases hr : burst.rest with
    | ended outcome =>
      rw [absorb_pending_of_ended _ _ _ hr, absorb_pending_of_ended _ _ _ (alike.rest.trans hr)]
      exact mirrors.pending
    | waits a =>
      rw [absorb_pending_of_waits _ _ _ hr, absorb_pending_of_waits _ _ _ (alike.rest.trans hr),
        mirrors.pending, mirrors.calls]
      simp [(made a hr).1, Pending.renumber]
  calls := by
    cases hr : burst.rest with
    | ended outcome =>
      rw [absorb_calls_of_ended _ _ _ hr, absorb_calls_of_ended _ _ _ (alike.rest.trans hr)]
      exact mirrors.calls
    | waits a =>
      rw [absorb_calls_of_waits _ _ _ hr, absorb_calls_of_waits _ _ _ (alike.rest.trans hr),
        mirrors.calls, (made a hr).2]

/-- A burst of the other side is taken in on one side of the mirror only. -/
theorem absorb_left (mirrors : s.Mirrors pays f g s') (n : Nat) {burst : Burst}
    (agree : Agree pays s.view burst.view s.browser burst.browser)
    (made : ∀ a, burst.rest = .waits a → a.pays ≠ pays ∧ f (s.calls + 1) = f s.calls) :
    (s.absorb n burst).1.Mirrors pays f g s' where
  agree := by
    rw [absorb_view, absorb_browser]
    cases pays <;> exact mirrors.agree.trans agree.symm
  handlers := by
    simpa using mirrors.handlers
  pending := by
    rw [mirrors.pending]
    cases hr : burst.rest with
    | ended outcome => rw [absorb_pending_of_ended _ _ _ hr]
    | waits a =>
      rw [absorb_pending_of_waits _ _ _ hr]
      simp [(made a hr).1]
  calls := by
    rw [mirrors.calls]
    cases hr : burst.rest with
    | ended outcome => rw [absorb_calls_of_ended _ _ _ hr]
    | waits a => rw [absorb_calls_of_waits _ _ _ hr, (made a hr).2]

/-- A call under way on the side is under way in the mirror. -/
theorem mem_pending (mirrors : s.Mirrors pays f g s') {p : Pending} (hp : p ∈ s.pending)
    (hside : p.awaiting.pays = pays) : p.renumber f g ∈ s'.pending := by
  rw [mirrors.pending]
  exact List.mem_map_of_mem (List.mem_filter.2 ⟨hp, by simp [hside]⟩)

/-- A call is settled on both sides of the mirror. -/
theorem drop (mirrors : s.Mirrors pays f g s') (sound : s.Sound) (sound' : s'.Sound)
    {p : Pending} (hp : p ∈ s.pending) (hside : p.awaiting.pays = pays) :
    (s.drop p.call).Mirrors pays f g (s'.drop (f p.call)) where
  agree := mirrors.agree
  calls := mirrors.calls
  handlers := mirrors.handlers
  pending := by
    obtain ⟨earlier, later, h⟩ := List.append_of_mem hp
    have h' := mirrors.pending
    rw [h, List.filter_append, List.filter_cons_of_pos (by simp [hside]), List.map_append,
      List.map_cons] at h'
    rw [sound.pending_drop h, List.filter_append, List.map_append]
    exact sound'.pending_drop h'

/-- A call of the other side is settled on one side of the mirror only. -/
theorem drop_left (mirrors : s.Mirrors pays f g s') (sound : s.Sound) {p : Pending}
    (hp : p ∈ s.pending) (hside : p.awaiting.pays ≠ pays) :
    (s.drop p.call).Mirrors pays f g s' where
  agree := mirrors.agree
  calls := mirrors.calls
  handlers := mirrors.handlers
  pending := by
    obtain ⟨earlier, later, h⟩ := List.append_of_mem hp
    rw [mirrors.pending, sound.pending_drop h, h, List.filter_append, List.filter_append,
      List.filter_cons_of_neg (by simp [hside])]

end Mirrors

/-! ## Places -/

/-- Moves that are still to be made, of all the moves of a run: those that have been
made have made the calls and started the handlers that there are. -/
structure Before (s : Session) (moves todo : List Move) : Prop where
  calls : todo.filterMap Move.made = (moves.filterMap Move.made).drop s.calls
  handlers : todo.filterMap Move.event? = (moves.filterMap Move.event?).drop s.handlers

variable {policy : Policy} {s s' : Session} {move : Move} {moves todo : List Move}
  {next : Session × Report}

theorem calls_absorb (n : Nat) {burst : Burst} {made : Option Call}
    (h : Report.made ⟨n, burst.log, burst.rest⟩ = made) :
    (s.absorb n burst).1.calls = s.calls + made.toList.length := by
  rw [← h, Report.made]
  cases hr : burst.rest with
  | ended outcome => exact absorb_calls_of_ended _ _ _ hr
  | waits a => exact absorb_calls_of_waits _ _ _ hr

/-- A move goes from one place to the next. -/
theorem Before.step (place : s.Before moves (move :: todo)) (step : Step policy s move next) :
    next.1.Before moves todo := by
  have hcalls := filterMap_eq_drop place.calls
  have hhandlers := filterMap_eq_drop place.handlers
  cases step with
  | start turn | settle mem turn =>
    constructor
    · rw [calls_absorb _ (turn.made_eq _)]
      exact hcalls
    · rw [absorb_handlers]
      exact hhandlers

/-- The numbers go on where a call is made. -/
theorem Before.callNumber_succ (place : s.Before moves (move :: todo)) (pays : Bool) {call : Call}
    (h : move.made = some call) :
    callNumber pays moves (s.calls + 1) =
      callNumber pays moves s.calls + if move.pays = pays then 1 else 0 := by
  have hdrop := place.calls
  rw [List.filterMap_cons_some h] at hdrop
  rw [callNumber, rank_succ _ hdrop, Move.pays_of_made h]
  simp

/-- The numbers go on where a handler is started. -/
theorem Before.handlerNumber_succ {event : Event}
    (place : s.Before moves (.start event :: todo)) (pays : Bool) :
    handlerNumber pays moves (s.handlers + 1) =
      handlerNumber pays moves s.handlers + if event.pays = pays then 1 else 0 := by
  have hdrop := place.handlers
  rw [List.filterMap_cons_some (by rfl)] at hdrop
  rw [handlerNumber, rank_succ _ hdrop]
  simp

/-- The second session is what the first is once the other side has been deleted from
the moves. -/
abbrev Projects (pays : Bool) (moves : List Move) (s s' : Session) : Prop :=
  s.Mirrors pays (callNumber pays moves) (handlerNumber pays moves) s'

variable {pays : Bool}

/-- The calls that a burst of the side makes are numbered one after the other. -/
theorem Before.made_of_kept (place : s.Before moves (move :: todo)) (hside : move.pays = pays)
    {v : View} {b : Browser} {before : Option Awaiting} {burst : Burst}
    (turn : Handler.Turn policy v b before move burst) (a : Awaiting)
    (ha : burst.rest = .waits a) : a.pays = pays ∧
      callNumber pays moves (s.calls + 1) = callNumber pays moves s.calls + 1 := by
  have hcall := turn.made_of_waits ha
  exact ⟨(Move.pays_of_made hcall).trans hside,
    by rw [place.callNumber_succ pays hcall, if_pos hside]⟩

/-- The calls that a burst of the other side makes are not counted. -/
theorem Before.made_of_deleted (place : s.Before moves (move :: todo)) (hside : move.pays ≠ pays)
    {v : View} {b : Browser} {before : Option Awaiting} {burst : Burst}
    (turn : Handler.Turn policy v b before move burst) (a : Awaiting)
    (ha : burst.rest = .waits a) : a.pays ≠ pays ∧
      callNumber pays moves (s.calls + 1) = callNumber pays moves s.calls := by
  have hcall := turn.made_of_waits ha
  exact ⟨fun h => hside ((Move.pays_of_made hcall).symm.trans h),
    by rw [place.callNumber_succ pays hcall, if_neg hside, Nat.add_zero]⟩

/-- A handler of the side is started in both runs. -/
theorem Mirrors.start {event : Event} (mirrors : s.Projects pays moves s')
    (place : s.Before moves (.start event :: todo)) (hside : event.pays = pays) :
    (s'.start event).2 = (s.start event).2.renumber (handlerNumber pays moves) ∧
      (s.start event).1.Projects pays moves (s'.start event).1 := by
  obtain ⟨agree, hpending, hcalls, hhandlers⟩ := mirrors
  have hbegun : ({ s with handlers := s.handlers + 1 } : Session).Projects pays moves
      { s' with handlers := s'.handlers + 1 } :=
    ⟨agree, hpending, hcalls, by rw [place.handlerNumber_succ, if_pos hside, ← hhandlers]⟩
  have alike : (Handler.begin event s.view s.browser).Alike pays
      (Handler.begin event s'.view s'.browser) :=
    hside ▸ Handler.begin_alike event (hside ▸ agree)
  -- a start is the same turn under either policy
  have turn : Handler.Turn .apply s.view s.browser none (.start event) _ := Handler.turn_begin event
  rw [Session.start, Session.start, absorb_report, absorb_report, alike.log, alike.rest, hhandlers]
  exact ⟨rfl, hhandlers ▸ hbegun.absorb s.handlers alike (place.made_of_kept hside turn)⟩

/-- A call of the side is settled in both runs. -/
theorem Mirrors.exists_settle? {call : Nat} {reply : Reply} (mirrors : s.Projects pays moves s')
    (sound : s.Sound) (sound' : s'.Sound) (place : s.Before moves (.settle call reply :: todo))
    (hside : reply.operation.pays = pays) (step : s.settle? policy call reply = some next) :
    ∃ next', s'.settle? policy (callNumber pays moves call) reply = some next' ∧
      next'.2 = next.2.renumber (handlerNumber pays moves) ∧
      next.1.Projects pays moves next'.1 := by
  obtain ⟨p, mem, rfl, burst, hburst, rfl⟩ := exists_of_settle? step
  have turn := Handler.turn_of_resume? p.call hburst
  have hpays : p.awaiting.pays = pays := turn.pays_eq.trans hside
  obtain ⟨burst', hburst', alike⟩ := Handler.exists_resume?_alike (hpays ▸ mirrors.agree) hburst
  rw [hpays] at alike
  refine ⟨_, sound'.settle?_eq (mirrors.mem_pending mem hpays) hburst', ?_, ?_⟩
  · rw [absorb_report, absorb_report, alike.log, alike.rest]
    rfl
  · exact (mirrors.drop sound sound' mem hpays).absorb p.handler alike
      (place.made_of_kept hside turn)

/-- **A move of the side that is kept is made in both runs**, and reports the same. -/
theorem Mirrors.exists_step? (mirrors : s.Projects pays moves s') (sound : s.Sound)
    (sound' : s'.Sound) (place : s.Before moves (move :: todo)) (hside : move.pays = pays)
    (step : s.step? policy move = some next) :
    ∃ next', s'.step? policy (move.renumber (callNumber pays moves)) = some next' ∧
      next'.2 = next.2.renumber (handlerNumber pays moves) ∧
      next.1.Projects pays moves next'.1 := by
  cases move with
  | start event =>
    obtain rfl : s.start event = next := Option.some.inj step
    exact ⟨_, rfl, mirrors.start place hside⟩
  | settle call reply => exact mirrors.exists_settle? sound sound' place hside step

/-- **A move of the side that is deleted is made in one run only.** -/
theorem Mirrors.skip (mirrors : s.Projects pays moves s') (sound : s.Sound)
    (place : s.Before moves (move :: todo)) (hside : move.pays ≠ pays)
    (step : Step policy s move next) : next.1.Projects pays moves s' := by
  have hother : (!move.pays) = pays := by
    cases pays <;> cases hmove : move.pays <;> simp_all
  cases step with
  | @start event burst turn =>
    have hevent : event.pays ≠ pays := hside
    have hbegun : ({ s with handlers := s.handlers + 1 } : Session).Projects pays moves s' :=
      ⟨mirrors.agree, mirrors.pending, mirrors.calls, by
        rw [place.handlerNumber_succ, if_neg hevent]
        exact mirrors.handlers⟩
    exact hbegun.absorb_left s.handlers (hother ▸ turn.agree) (place.made_of_deleted hside turn)
  | @settle p reply burst mem turn =>
    have hpays : p.awaiting.pays ≠ pays := fun h => hside (turn.pays_eq.symm.trans h)
    exact (mirrors.drop_left sound mem hpays).absorb_left p.handler (hother ▸ turn.agree)
      (place.made_of_deleted hside turn)

/-! ## Runs -/

theorem kept_cons_of_eq {α : Type} {move : Move} (h : move.pays = pays) (moves : List Move) (x : α)
    (trail : List α) : kept pays (move :: moves) (x :: trail) = x :: kept pays moves trail := by
  simp [kept, h]

theorem kept_cons_of_ne {α : Type} {move : Move} (h : move.pays ≠ pays) (moves : List Move) (x : α)
    (trail : List α) : kept pays (move :: moves) (x :: trail) = kept pays moves trail := by
  simp [kept, h]

/-- **The moves of one side make a run by themselves**, and behind each of them is
what was behind it before. -/
theorem Mirrors.exists_run? (mirrors : s.Projects pays moves s') (sound : s.Sound)
    (sound' : s'.Sound) (place : s.Before moves todo) {trail : List (Session × Report)}
    (run : s.run? policy todo = some trail) :
    ∃ trail', s'.run? policy ((todo.filter fun move => move.pays == pays).map
        (Move.renumber (callNumber pays moves))) = some trail' ∧
      List.Forall₂ (fun next next' =>
        Agree pays next.1.view next'.1.view next.1.browser next'.1.browser ∧
        next'.2 = next.2.renumber (handlerNumber pays moves)) (kept pays todo trail) trail' := by
  induction todo generalizing s s' trail with
  | nil => exact ⟨[], rfl, .nil⟩
  | cons move todo ih =>
    obtain ⟨next, step, hrest⟩ := Option.bind_eq_some_iff.1 run
    obtain ⟨later, hlater, htrail⟩ := Option.bind_eq_some_iff.1 hrest
    obtain rfl : next :: later = trail := Option.some.inj htrail
    have hstep := step_of_step? step
    by_cases hside : move.pays = pays
    · obtain ⟨next', step', hreport, hmirrors⟩ :=
        mirrors.exists_step? sound sound' place hside step
      obtain ⟨trail', run', hrelated⟩ := ih hmirrors (sound.step hstep)
        (sound'.step (step_of_step? step')) (place.step hstep) hlater
      refine ⟨next' :: trail', ?_, ?_⟩
      · rw [List.filter_cons_of_pos (by simp [hside]), List.map_cons, Session.run?, step']
        exact congrArg (Option.bind · _) run'
      · rw [kept_cons_of_eq hside]
        exact .cons ⟨hmirrors.agree, hreport⟩ hrelated
    · obtain ⟨trail', run', hrelated⟩ := ih (mirrors.skip sound place hside hstep)
        (sound.step hstep) sound' (place.step hstep) hlater
      rw [List.filter_cons_of_neg (by simp [hside]), kept_cons_of_ne hside]
      exact ⟨trail', run', hrelated⟩

/-- A page that has just been opened is the page of either side. -/
theorem Mirrors.new (pays : Bool) (moves : List Move) (browser : Browser) :
    (Session.new browser).Projects pays moves (Session.new browser) where
  agree := by cases pays <;> rfl
  pending := rfl
  calls := rfl
  handlers := rfl

/-- **Either side can be deleted from a run of a page.** -/
theorem exists_run?_only (pays : Bool) {browser : Browser} {trail : List (Session × Report)}
    (run : (new browser).run? policy moves = some trail) :
    ∃ trail', (new browser).run? policy (only pays moves) = some trail' ∧
      List.Forall₂ (fun next next' =>
        Agree pays next.1.view next'.1.view next.1.browser next'.1.browser ∧
        next'.2 = next.2.renumber (handlerNumber pays moves)) (kept pays moves trail) trail' :=
  (Mirrors.new pays moves browser).exists_run? (.new browser) (.new browser) ⟨rfl, rfl⟩ run

theorem view_eq_of_pays (step : s.step? policy move = some next) (hpays : move.pays = true) :
    next.1.view = s.view := by
  obtain ⟨n, before, burst, -, turn, hview, -⟩ := (step_of_step? step).exists_turn
  have hagree := turn.agree
  rw [hpays] at hagree
  exact hview.trans hagree

theorem browser_eq_of_not_pays (step : s.step? policy move = some next)
    (hpays : move.pays = false) :
    next.1.browser = s.browser ∧ ∀ sale, next.2.rest ≠ .ended (some sale) := by
  rcases (step_of_step? step).browser_cases with
    ⟨_, _, rfl, _⟩ | ⟨_, _, rfl, _⟩ | ⟨_, _, _, _, hbrowser, hrest⟩
  · cases hpays
  · cases hpays
  · exact ⟨hbrowser, hrest⟩

end Session

theorem map_eq_map_of_forall₂ {α β γ : Type} {f : α → γ} {g : β → γ} {l : List α} {l' : List β}
    (h : List.Forall₂ (fun a b => g b = f a) l l') : l'.map g = l.map f := by
  rw [← List.forall₂_eq_eq_eq, List.forall₂_map_left_iff, List.forall₂_map_right_iff]
  exact h.flip

/-- **Payments and the rest do not interfere.**

Delete from a run all that is on the side of the payments, and number the calls and
the handlers anew.  What is left is a run; behind each of its moves is the same view,
tickets included, and the reports are the same.  Delete what is on the other side,
and what is left is a run again: behind each of its moves is the same browser, with
its messages and its location, and the reports are the same, with the outcomes of
the purchases in them.

The moves that are deleted have done nothing to what is left: on any page a move on
the side of the payments leaves the view as it is, and any other move leaves the
browser as it is and ends no purchase. -/
theorem payments_and_page_do_not_interfere {policy : Policy} {browser : Browser}
    {moves : List Move} {trail : List (Session × Report)}
    (run : (Session.new browser).run? policy moves = some trail) :
    (∃ pages, (Session.new browser).run? policy (only false moves) = some pages ∧
      pages.map (fun next => next.1.view) =
        (kept false moves trail).map (fun next => next.1.view) ∧
      pages.map Prod.snd =
        (kept false moves trail).map fun next => next.2.renumber (handlerNumber false moves)) ∧
    (∃ sales, (Session.new browser).run? policy (only true moves) = some sales ∧
      sales.map (fun next => next.1.browser) =
        (kept true moves trail).map (fun next => next.1.browser) ∧
      sales.map Prod.snd =
        (kept true moves trail).map fun next => next.2.renumber (handlerNumber true moves)) ∧
    (∀ (s : Session) (move : Move) (next : Session × Report), s.step? policy move = some next →
      (move.pays = true → next.1.view = s.view) ∧
      (move.pays = false →
        next.1.browser = s.browser ∧ ∀ sale, next.2.rest ≠ .ended (some sale))) := by
  obtain ⟨pages, hpages, hviews⟩ := Session.exists_run?_only false run
  obtain ⟨sales, hsales, hbrowsers⟩ := Session.exists_run?_only true run
  refine ⟨⟨pages, hpages, map_eq_map_of_forall₂ (hviews.imp fun _ _ h => h.1),
      map_eq_map_of_forall₂ (hviews.imp fun _ _ h => h.2)⟩,
    ⟨sales, hsales, map_eq_map_of_forall₂ (hbrowsers.imp fun _ _ h => h.1),
      map_eq_map_of_forall₂ (hbrowsers.imp fun _ _ h => h.2)⟩,
    fun s move next step => ⟨Session.view_eq_of_pays step, Session.browser_eq_of_not_pays step⟩⟩

/-- A purchase overlaps a submission.  Without it the calls of the submission have
other numbers, and by itself the purchase still ends where it is approved. -/
theorem purchase_beside_submission :
    ∃ moves trail pages sales,
      (Session.new (.new .willing)).run? .discard moves = some trail ∧
      only false moves = [.start (.submit (.ofRaw "a")),
        .settle 0 (.check (.ok (.refusal "Too long"))), .settle 1 (.stats (.ok ⟨5, 4⟩))] ∧
      (Session.new (.new .willing)).run? .discard (only false moves) = some pages ∧
      pages.map (fun next => next.1.view.result) = ["", "Too long", "Too long"] ∧
      only true moves = [.start .buy, .settle 0 (.payment (.ok ⟨200, "https://pay.test/1"⟩))] ∧
      (Session.new (.new .willing)).run? .discard (only true moves) = some sales ∧
      sales.map (fun next => next.1.browser.location) = [none, some "https://pay.test/1"] := by
  have run : (Session.new (.new .willing)).run? .discard [.start (.submit (.ofRaw "a")),
      .start .buy, .settle 0 (.check (.ok (.refusal "Too long"))),
      .settle 1 (.payment (.ok ⟨200, "https://pay.test/1"⟩)),
      .settle 2 (.stats (.ok ⟨5, 4⟩))] = some _ := rfl
  obtain ⟨⟨pages, hpages, hviews, -⟩, ⟨sales, hsales, hbrowsers, -⟩, -⟩ :=
    payments_and_page_do_not_interfere run
  refine ⟨_, _, pages, sales, run, rfl, hpages, ?_, rfl, hsales, ?_⟩
  · exact (List.map_map ..).symm.trans (congrArg (List.map View.result) hviews)
  · exact (List.map_map ..).symm.trans (congrArg (List.map Browser.location) hbrowsers)

end MeteredChecker
