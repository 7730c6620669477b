import MeteredChecker.Proofs.Service.Enactment
import MeteredChecker.Service.Scripted

/-!
# Prompt answers from a script

A script can be read in two ways.  `Service.scripted` takes the answers to checks off a
queue, and a check finds at the front of it what the checks before have left.  Or one
reads it by number: the answer to a check is the one with the number of the check, counted
over all that was ever asked, and the answer to anything else is the one that is in place.

This file reads it by number and settles calls with what it finds, each as soon as it is
made, on a page on which handlers wait (`Script.answers`, `promptMoves`).  The page goes
through the same as a page whose handlers are run to their ends over the queue, one after
the other (`scripted_run_is_prompt_run`).  What carries the proof is what the queue looks
like in the middle: it is the script without as many answers as there were checks,
`Script.used`, whatever was replaced in the meantime.
-/

namespace MeteredChecker

/-! ## What is done to a script -/

/-- An answer that is put in the place of another. -/
inductive Replacement where
  | stats (outcome : Except Failure Quota)
  | payment (outcome : Except Failure Payment.Reply)
  | reset (outcome : Except Failure Unit)

/-- Something that is done on the page, and the answers that are replaced before. -/
structure Cue where
  replacements : List Replacement
  event : Event

namespace Script

/-- The script with an answer replaced. -/
def replace (script : Script) : Replacement → Script
  | .stats outcome => { script with stats := outcome }
  | .payment outcome => { script with payment := outcome }
  | .reset outcome => { script with reset := outcome }

/-- The script with answers replaced, one after the other. -/
def replaceAll (script : Script) (replacements : List Replacement) : Script :=
  replacements.foldl replace script

end Script

/-- What a cue does to a scripted service. -/
def Cue.act (cue : Cue) : Act Script := ⟨fun script => script.replaceAll cue.replacements, cue.event⟩

/-! ## Reading by number -/

/-- How many of the calls are checks. -/
def checksAmong (calls : List Call) : Nat := calls.countP fun call => call.operation == .check

namespace Script

/-- What a script says to a call, behind the calls that were made before. -/
def replyTo (script : Script) (made : List Call) : Call → Reply
  | .check _ => .check (script.checks[checksAmong made]?.getD (.error unscripted))
  | .stats => .stats script.stats
  | .payment => .payment script.payment
  | .reset => .reset script.reset

/-- What a script says to calls that are made one after the other. -/
def repliesTo (script : Script) (made : List Call) : List Call → List Reply
  | [] => []
  | call :: calls => script.replyTo made call :: script.repliesTo (made ++ [call]) calls

/-- The events of the cues, each with what the script says to its calls: first the answers
that the cue replaces are replaced. -/
def answers (script : Script) (made : List Call) : List Cue → List (Event × List Reply)
  | [] => []
  | cue :: cues =>
      let inPlace := script.replaceAll cue.replacements
      (cue.event, inPlace.repliesTo made cue.event.script) ::
        inPlace.answers (made ++ cue.event.script) cues

/-! ## The queue in the middle -/

/-- The script as the calls that were made have left it. -/
def used (script : Script) (made : List Call) : Script :=
  { script with checks := script.checks.drop (checksAmong made) }

theorem used_nil (script : Script) : script.used [] = script := rfl

theorem nextCheck_eq (script : Script) :
    script.nextCheck =
      (script.checks.head?.getD (.error unscripted), { script with checks := script.checks.tail }) := by
  obtain ⟨checks, stats, payment, reset⟩ := script
  cases checks <;> rfl

theorem replaceAll_used (script : Script) (made : List Call) (replacements : List Replacement) :
    (script.used made).replaceAll replacements = (script.replaceAll replacements).used made := by
  induction replacements generalizing script with
  | nil => rfl
  | cons replacement replacements ih =>
    have hfirst : (script.used made).replace replacement = (script.replace replacement).used made := by
      cases replacement <;> rfl
    rw [replaceAll, List.foldl_cons, hfirst]
    exact ih (script.replace replacement)

theorem checksAmong_concat (made : List Call) (call : Call) :
    checksAmong (made ++ [call]) =
      checksAmong made + if call.operation == .check then 1 else 0 := by
  rw [checksAmong, List.countP_append, List.countP_singleton]
  rfl

end Script

namespace Service

variable (script : Script) (made : List Call)

/-- The queue says what the script says by number. -/
theorem reply_used (call : Call) :
    scripted.reply call (script.used made) = script.replyTo made call := by
  cases call with
  | check submission =>
    show Reply.check (script.used made).nextCheck.1 = _
    rw [Script.nextCheck_eq, Script.used, List.head?_drop]
    rfl
  | stats | payment | reset => rfl

/-- A call takes from the queue what is its due. -/
theorem next_used (call : Call) :
    scripted.next call (script.used made) = script.used (made ++ [call]) := by
  cases call with
  | check submission =>
    show (script.used made).nextCheck.2 = _
    rw [Script.nextCheck_eq, Script.used, Script.used, Script.checksAmong_concat, List.tail_drop]
    rfl
  | stats | payment | reset =>
    rw [Script.used, Script.used, Script.checksAmong_concat]
    rfl

theorem after_used (calls : List Call) :
    scripted.after calls (script.used made) = script.used (made ++ calls) := by
  induction calls generalizing made with
  | nil => rw [List.append_nil]; rfl
  | cons call calls ih =>
    rw [after, List.foldl_cons, next_used]
    exact (ih (made ++ [call])).trans (by rw [List.append_assoc, List.singleton_append])

theorem replies_used (calls : List Call) :
    scripted.replies calls (script.used made) = script.repliesTo made calls := by
  induction calls generalizing made with
  | nil => rfl
  | cons call calls ih => rw [replies, reply_used, next_used, ih, Script.repliesTo]

/-- **The queue and the numbers give the same answers.** -/
theorem answers_used (cues : List Cue) :
    scripted.answers (cues.map Cue.act) (script.used made) = script.answers made cues := by
  induction cues generalizing script made with
  | nil => rfl
  | cons cue cues ih =>
    have hprepare : cue.act.prepare (script.used made) =
      (script.replaceAll cue.replacements).used made := script.replaceAll_used made _
    rw [List.map_cons, answers, hprepare, replies_used, after_used, ih]
    rfl

/-- A script says nothing beside its answers. -/
theorem silent_scripted : scripted.Silent := fun call _ => by cases call <;> rfl

end Service

/-- **Handlers run to their ends over a script, and a page that is answered promptly, go
through the same.**

On one side the events of the cues are handled one after the other, each to its end, by a
service that takes the answers to checks off a queue.  On the other side the handlers are
started and their calls settled, each as soon as it is made and before anything else is
done: a check with the answer that has its number among all checks, or with the failure of
an answer that was never written, and any other call with the answer in place.

The moves are allowed, a number of them for each event.  Behind the last of them nothing is
under way and the page is the same, with its tickets and with the browser behind it; the
moves make the same calls, end the handler with the same outcome, and log the same. -/
theorem scripted_run_is_prompt_run (policy : Policy) (browser : Browser) (script : Script)
    (cues : List Cue) :
    ∃ trails, (Session.new browser).run? policy (promptMoves 0 (script.answers [] cues)).flatten =
        some trails.flatten ∧
      trails.map List.length = (promptMoves 0 (script.answers [] cues)).map List.length ∧
      List.Forall₂ (fun p trail => p.1.done.EnactedBy p.2 trail ∧
          p.1.done.log = trail.flatMap fun next => next.2.log)
        (Service.scripted.perform policy (cues.map Cue.act) .new browser script).zipIdx trails := by
  have hanswers := Service.answers_used script [] cues
  rw [Script.used_nil] at hanswers
  obtain ⟨trails, hrun, hlengths, henacted⟩ := Service.scripted.exists_trails policy
    (cues.map Cue.act) (s := .new browser) rfl script
  rw [← hanswers]
  exact ⟨trails, hrun, hlengths,
    henacted.imp fun p trail h => ⟨h.1, Service.silent_scripted.log_eq h.1 h.2⟩⟩

end MeteredChecker
