import MeteredChecker.Proofs.Service.Prompt

/-!
# Services that answer alike

A handler has no way to look behind an answer.  Two services that give the same answers to
the events of a page may be as different as they like: the page, the browser, the calls and
the outcomes are the same (`Service.performances_alike`), since the moves that make up for
the handlers are.  Only what the services themselves log may differ, and it can be told
from the rest: there is one kind of event that no handler logs, `LogEvent.isRemark`.

## Echoes

Any service can be replaced by a script, in this sense.  Whatever a service answers, there
is a script that answers it (`Service.answers_echo`): the answers to the checks are queued
from the beginning, and the others are put in place before the event in which they are
needed.  That this can be done is a fact about the handlers.  An answer that is in place is
the same for the whole of an event, so no handler may ask for anything but checks twice.
-/

namespace MeteredChecker

/-! ## Remarks -/

/-- Only a service logs this: that a check was refused, and with which status. -/
def LogEvent.isRemark : LogEvent → Bool
  | .checkRefused _ => true
  | _ => false

theorem Handler.isRemark_of_afterPayment (outcome : Except Failure Payment.Reply) (v : View)
    (b : Browser) : ∀ e ∈ (afterPayment outcome v b).log, e.isRemark = false := by
  unfold afterPayment
  cases outcome <;> cases approve _ b <;> simp [LogEvent.isRemark]

/-- No handler makes remarks. -/
theorem Handler.Turn.isRemark_eq_false {policy : Policy} {v : View} {b : Browser}
    {before : Option Awaiting} {move : Move} {burst : Burst}
    (turn : Turn policy v b before move burst) : ∀ e ∈ burst.log, e.isRemark = false := by
  cases turn with
  | rejected | refreshing | resetting | buying => exact nofun
  | submitted => exact List.forall_mem_singleton.2 rfl
  | checked _ _ _ outcome =>
    cases outcome <;> cases View.isStale _ _ _ <;> simp [checkNotes, LogEvent.isRemark]
  | counted _ _ outcome =>
    cases outcome <;> cases View.isStale _ _ _ <;> simp [statsNotes, LogEvent.isRemark]
  | restored _ outcome => cases outcome <;> simp [resetNotes, LogEvent.isRemark]
  | paid _ outcome sold => exact (sold ▸ isRemark_of_afterPayment outcome v b :)

theorem Session.isRemark_of_run? {policy : Policy} {s : Session} {moves : List Move}
    {trail : List (Session × Report)} (run : s.run? policy moves = some trail) :
    ∀ next ∈ trail, ∀ e ∈ next.2.log, e.isRemark = false := by
  induction moves generalizing s trail with
  | nil =>
    cases run
    exact fun next h => absurd h List.not_mem_nil
  | cons move moves ih =>
    obtain ⟨next, later, hstep, hlater, rfl⟩ := run?_cons_iff.1 run
    obtain ⟨n, before, burst, -, turn, -, hreport⟩ := (step_of_step? hstep).exists_turn
    refine List.forall_mem_cons.2 ⟨?_, ih hlater⟩
    rw [hreport]
    exact turn.isRemark_eq_false

/-! ## The same moves -/

/-- Two relations to the same list relate lists to one another. -/
theorem forall₂_of_common {α β γ : Type} {R : α → γ → Prop} {S : β → γ → Prop} {l : List α}
    {l' : List β} {u : List γ} (h : List.Forall₂ R l u) (h' : List.Forall₂ S l' u) :
    List.Forall₂ (fun a b => ∃ c ∈ u, R a c ∧ S b c) l l' := by
  induction h generalizing l' with
  | nil =>
    cases h'
    exact .nil
  | cons hR _ ih =>
    cases h' with
    | cons hS h' =>
      refine .cons ⟨_, List.mem_cons_self, hR, hS⟩ ((ih h').imp ?_)
      exact fun a b ⟨c, hc, hboth⟩ => ⟨c, List.mem_cons_of_mem _ hc, hboth⟩

/-- Two handlers that were run to their ends have done the same: they left the same page
behind, made the same calls, ended with the same outcome and logged the same, but for the
remarks of the service behind the first. -/
structure Completed.Alike {σ τ : Type} (done : Completed σ) (done' : Completed τ) : Prop where
  view : done.view = done'.view
  browser : done.browser = done'.browser
  calls : done.calls = done'.calls
  outcome : done.outcome = done'.outcome
  log : done.log.filter (fun e => !e.isRemark) = done'.log

/-- What one trail enacts is alike. -/
theorem Completed.EnactedBy.alike {σ τ : Type} {done : Completed σ} {done' : Completed τ}
    {n n' : Nat} {trail : List (Session × Report)} (enacted : done.EnactedBy n trail)
    (enacted' : done'.EnactedBy n' trail)
    (hlog : done.log.filter (fun e => !e.isRemark) = trail.flatMap fun next => next.2.log)
    (hlog' : done'.log = trail.flatMap fun next => next.2.log) :
    done.Alike done' := by
  obtain ⟨last, hlast, hview, hbrowser, -⟩ := enacted.last
  obtain ⟨last', hlast', hview', hbrowser', -⟩ := enacted'.last
  obtain rfl := Option.mem_unique hlast hlast'
  have hfinished := enacted.finished.symm.trans enacted'.finished
  exact ⟨hview.symm.trans hview', hbrowser.symm.trans hbrowser',
    enacted.calls.symm.trans enacted'.calls,
    (Prod.mk.inj (List.singleton_inj.1 hfinished)).2, hlog.trans hlog'.symm⟩

namespace Service

/-- A service is discreet if it logs nothing but remarks. -/
def Discreet {σ : Type} (service : Service σ) : Prop :=
  ∀ call state, ∀ e ∈ service.remark call state, e.isRemark = true

variable {σ τ : Type} {service : Service σ} {service' : Service τ}

/-- The log without the remarks is the log of the moves. -/
theorem Discreet.filter_log (discreet : service.Discreet) {p : Performance σ} {n : Nat}
    {trail : List (Session × Report)} (enacted : p.done.EnactedBy n trail)
    (hlog : p.done.log = interleave ([] :: service.remarks p.done.calls p.before) trail)
    (own : ∀ next ∈ trail, ∀ e ∈ next.2.log, e.isRemark = false) :
    p.done.log.filter (fun e => !e.isRemark) = trail.flatMap fun next => next.2.log := by
  rw [hlog]
  refine filter_interleave (by simp [enacted.length]) ?_ fun next hnext e he => by
    simp [own next hnext e he]
  refine List.forall_mem_cons.2 ⟨nofun, fun remark hremark e he => ?_⟩
  have hdiscreet := service.forall_remarks
    (P := fun remark => ∀ e ∈ remark, e.isRemark = true) discreet _ _ remark hremark
  simp [hdiscreet e he]

/-- **Services that answer alike are alike**, to the page. -/
theorem performances_alike (policy : Policy) (discreet : service.Discreet)
    (silent : service'.Silent) {acts : List (Act σ)} {acts' : List (Act τ)} {state : σ}
    {state' : τ} (same : service.answers acts state = service'.answers acts' state')
    (browser : Browser) :
    List.Forall₂ (fun p p' => p.done.Alike p'.done)
      (service.perform policy acts .new browser state)
      (service'.perform policy acts' .new browser state') := by
  obtain ⟨trails, hrun, hlengths, henacted⟩ :=
    service.exists_trails policy acts (s := .new browser) rfl state
  obtain ⟨trails', hrun', hlengths', henacted'⟩ :=
    service'.exists_trails policy acts' (s := .new browser) rfl state'
  rw [← same] at hrun' hlengths'
  -- the same moves lead to the same, and they are cut at the same places
  obtain rfl : trails = trails' := List.eq_iff_flatten_eq.2
    ⟨Option.some.inj (hrun.symm.trans hrun'), hlengths.trans hlengths'.symm⟩
  have own : ∀ trail ∈ trails, ∀ next ∈ trail, ∀ e ∈ next.2.log, e.isRemark = false :=
    fun trail htrail next hnext =>
      Session.isRemark_of_run? hrun next (List.mem_flatten_of_mem htrail hnext)
  -- the relation does not look at the numbers of the handlers
  rw [← List.zipIdx_map_fst 0 (service.perform _ _ _ _ _),
    ← List.zipIdx_map_fst 0 (service'.perform _ _ _ _ _), List.forall₂_map_left_iff,
    List.forall₂_map_right_iff]
  refine (forall₂_of_common henacted henacted').imp fun p p' h => ?_
  obtain ⟨trail, htrail, ⟨enacted, hlog⟩, enacted', hlog'⟩ := h
  exact enacted.alike enacted' (discreet.filter_log enacted hlog (own trail htrail))
    (silent.log_eq enacted' hlog')

end Service

/-! ## Echoes -/

/-- Replies fit an event: they are of the kinds that its calls are of. -/
inductive Fit : Event → List Reply → Prop
  | nothing {submission : Submission} (empty : submission.isEmpty = true) :
      Fit (.submit submission) []
  | code {submission : Submission} (full : submission.isEmpty = false)
      (verdict : Except Failure Verdict) (quota : Except Failure Quota) :
      Fit (.submit submission) [.check verdict, .stats quota]
  | refresh (quota : Except Failure Quota) : Fit .refresh [.stats quota]
  | reset (outcome : Except Failure Unit) (quota : Except Failure Quota) :
      Fit .reset [.reset outcome, .stats quota]
  | buy (outcome : Except Failure Payment.Reply) : Fit .buy [.payment outcome]

/-- The verdict in a reply, if it is one to a check. -/
def Reply.verdict? : Reply → Option (Except Failure Verdict)
  | .check outcome => some outcome
  | _ => none

/-- What has to be replaced for a script to give a reply, if it is not one to a check. -/
def Reply.replacement? : Reply → Option Replacement
  | .check _ => none
  | .stats outcome => some (.stats outcome)
  | .payment outcome => some (.payment outcome)
  | .reset outcome => some (.reset outcome)

/-- The verdicts in answers, first to last. -/
def verdicts (answers : List (Event × List Reply)) : List (Except Failure Verdict) :=
  answers.flatMap fun answer => answer.2.filterMap Reply.verdict?

/-- The cue that has a script answer an event. -/
def Cue.echo (answer : Event × List Reply) : Cue :=
  ⟨answer.2.filterMap Reply.replacement?, answer.1⟩

namespace Service

variable {σ : Type} (service : Service σ)

theorem fit_replies (event : Event) (state : σ) :
    Fit event (service.replies event.script state) := by
  cases event with
  | submit submission =>
    rw [Event.script]
    cases hempty : submission.isEmpty with
    | true => exact .nothing hempty
    | false => exact .code hempty _ _
  | refresh => exact .refresh _
  | reset => exact .reset _ _
  | buy => exact .buy _

theorem fit_answers (acts : List (Act σ)) (state : σ) :
    ∀ answer ∈ service.answers acts state, Fit answer.1 answer.2 := by
  induction acts generalizing state with
  | nil => exact fun answer h => absurd h List.not_mem_nil
  | cons act acts ih => exact List.forall_mem_cons.2 ⟨service.fit_replies _ _, ih _⟩

/-- **One event is echoed**: a script in which the replies are put in place, with the
verdict at the front of its queue, gives them; and the queue is used up so far. -/
theorem replies_echo {event : Event} {replies : List Reply} (fit : Fit event replies)
    {script : Script} {more : List (Except Failure Verdict)}
    (hchecks : script.checks = replies.filterMap Reply.verdict? ++ more) :
    scripted.replies event.script ((Cue.echo (event, replies)).act.prepare script) = replies ∧
      (scripted.after event.script ((Cue.echo (event, replies)).act.prepare script)).checks =
        more := by
  obtain ⟨checks, stats, payment, reset⟩ := script
  obtain rfl : checks = _ := hchecks
  cases fit with
  | nothing empty =>
    rw [Event.script, empty]
    exact ⟨rfl, rfl⟩
  | code full verdict quota =>
    rw [Event.script, full]
    exact ⟨rfl, rfl⟩
  | refresh quota => exact ⟨rfl, rfl⟩
  | reset outcome quota => exact ⟨rfl, rfl⟩
  | buy outcome => exact ⟨rfl, rfl⟩

/-- **Whatever is answered, a script answers it.** -/
theorem answers_echo {answers : List (Event × List Reply)}
    (fit : ∀ answer ∈ answers, Fit answer.1 answer.2) {script : Script}
    (hchecks : script.checks = verdicts answers) :
    scripted.answers ((answers.map Cue.echo).map Cue.act) script = answers := by
  induction answers generalizing script with
  | nil => rfl
  | cons answer answers ih =>
    obtain ⟨hfirst, hlater⟩ := List.forall_mem_cons.1 fit
    obtain ⟨hreplies, hqueue⟩ := replies_echo hfirst hchecks
    exact congrArg₂ List.cons (Prod.ext rfl hreplies) (ih hlater hqueue)

/-- **Every service has an echo.** -/
theorem exists_echo (policy : Policy) (events : List Event) (v : View) (b : Browser) (state : σ) :
    ∃ (script : Script) (cues : List Cue), cues.map Cue.event = events ∧
      (scripted.perform policy (cues.map Cue.act) v b script).map scripted.repliesIn =
        (service.perform policy (events.map Event.act) v b state).map service.repliesIn := by
  obtain ⟨answers, hanswers⟩ :
      ∃ answers, service.answers (events.map Event.act) state = answers := ⟨_, rfl⟩
  obtain ⟨script, hchecks⟩ : ∃ script : Script, script.checks = verdicts answers :=
    ⟨{ Script.empty with checks := verdicts answers }, rfl⟩
  have hechoed := answers_echo (hanswers ▸ service.fit_answers _ state) hchecks
  refine ⟨script, answers.map Cue.echo, ?_, ?_⟩
  · have hevents := service.map_fst_answers (events.map Event.act) state
    rw [hanswers, List.map_map] at hevents
    rw [List.map_map]
    exact hevents.trans (List.map_id _)
  · rw [← map_snd_answers, ← map_snd_answers, hechoed, hanswers]

end Service

end MeteredChecker
