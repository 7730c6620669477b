import MeteredChecker.Proofs.Session.Completion
import MeteredChecker.Proofs.Text.Blank

/-!
# What becomes of a form

A form is taken in and then submitted, and whether the service hears of it is decided in between,
by trimming.  A text is never looked at again after that: a form of which something remains is
checked, whatever it is, and a form of which nothing remains is answered on the spot.

So there is one question to ask of a form, and it is a question about its characters only
(`Submission.isEmpty_ofRaw_iff`).  The two answers are two first bursts (`Session.start_nothing`,
`Session.start_code`).  A first burst that asks for nothing is the end of its handler, and this is
the one thing here that needs the rest of the run: nothing that happens later can make that handler
ask for anything (`Run.calls_of_nothing`).
-/

namespace MeteredChecker

namespace Submission

/-- A form makes an empty submission if and only if it has nothing but blanks in it. -/
theorem isEmpty_ofRaw_iff {raw : String} :
    (ofRaw raw).isEmpty = true ↔ Text.AreBlank raw.toList := by
  rw [isEmpty_iff]
  exact Text.trim_eq_empty_iff

/-- A form with the code of a submission in it makes that submission. -/
theorem ofRaw_code (submission : Submission) : ofRaw submission.code = submission := by
  obtain ⟨code, trimmed⟩ := submission
  simp only [ofRaw, trimmed]

end Submission

namespace Session

variable (s : Session) {submission : Submission}

/-- A submission of nothing is answered on the spot, and its handler has ended. -/
theorem start_nothing (empty : submission.isEmpty = true) :
    s.start (.submit submission) =
      ({ s with view := s.view.beginCheck.rejectEmpty, handlers := s.handlers + 1 },
        ⟨s.handlers, [], .ended none⟩) := by
  simp [start, Handler.begin, Handler.beginSubmission, empty, absorb]

/-- A submission of code clears the page and makes one call. -/
theorem start_code (full : submission.isEmpty = false) :
    s.start (.submit submission) =
      ({ s with
          view := s.view.beginCheck
          pending := s.pending ++ [⟨s.calls, s.handlers, .check submission s.view.lastCheck.next⟩]
          calls := s.calls + 1
          handlers := s.handlers + 1 },
        ⟨s.handlers, [.checking submission.octets],
          .waits (.check submission s.view.lastCheck.next)⟩) := by
  simp [start, Handler.begin, Handler.beginSubmission, full, absorb, View.beginCheck]

end Session

/-- The handler of a submission of nothing never asks for anything, whatever happens later. -/
theorem Run.calls_of_nothing {policy : Policy} {browser : Browser} {later h : History}
    {report : Report} {submission : Submission} {s : Session}
    (run : Run policy browser (later ++ ⟨.start (.submit submission), report⟩ :: h) s)
    (empty : submission.isEmpty = true) :
    (History.of (later ++ ⟨.start (.submit submission), report⟩ :: h) report.handler).calls =
      [] := by
  obtain ⟨rest, hscript⟩ :=
    (run.calls_of_start (List.mem_append_right later List.mem_cons_self) rfl).1
  rw [Event.script, if_pos empty] at hscript
  exact (List.append_eq_nil_iff.1 hscript).1

/-- **A form is checked unless there is nothing but blanks in it**, on any page and whatever is
under way there.

When a form is taken in its default action is suppressed and the page stays as it is.  The code of
the submission is what remains of the text without the blanks around it, and no other text is.  A
form with that code in it makes the same submission.

If and only if every character of the form is blank, the handler of the submission never asks for
anything, the result region says that there is nothing to check, the quota region is blank, and
paying is offered if it was before.  The handler has ended then, and the calls under way are the
ones that were.  Otherwise the regions are cleared, and one call is made and is under way: to check
the submission. -/
theorem forms_are_checked_unless_blank {policy : Policy} {browser : Browser} {h : History}
    {s : Session} (run : Run policy browser h s) (event : FormEvent) (raw : String) :
    ∃ (taken : FormEvent) (submission : Submission) (next : Session × Report),
      s.accept event raw = (s, taken, submission) ∧ taken.defaultPrevented = true ∧
      (∀ rest, Text.Remains raw rest ↔ rest = submission.code) ∧
      (∀ event', (s.accept event' submission.code).2.2 = submission) ∧
      s.step? policy (.start (.submit submission)) = some next ∧
      Run policy browser (⟨.start (.submit submission), next.2⟩ :: h) next.1 ∧
      (Text.AreBlank raw.toList ↔
        (∀ later s', Run policy browser (later ++ ⟨.start (.submit submission), next.2⟩ :: h) s' →
          (History.of (later ++ ⟨.start (.submit submission), next.2⟩ :: h)
            next.2.handler).calls = []) ∧
        next.1.view.result = "Please enter some code." ∧ next.1.view.stats = .blank ∧
        next.1.view.payVisible = s.view.payVisible ∧
        next.2.finished = some (next.2.handler, none) ∧
        next.1.pending = s.pending ∧ next.1.calls = s.calls) ∧
      (¬ Text.AreBlank raw.toList →
        next.1.view.result = "" ∧ next.1.view.stats = .blank ∧
        next.2.made = some (.check submission) ∧ next.1.calls = s.calls + 1 ∧
        ∃ ticket, next.1.pending =
          s.pending ++ [⟨s.calls, next.2.handler, .check submission ticket⟩]) := by
  refine ⟨⟨true⟩, .ofRaw raw, s.start (.submit (.ofRaw raw)), rfl, rfl,
    fun rest => Text.remains_iff, fun event' => Submission.ofRaw_code (.ofRaw raw), rfl,
    run.start _, ?_⟩
  rw [← Submission.isEmpty_ofRaw_iff]
  cases hempty : (Submission.ofRaw raw).isEmpty with
  | true =>
    refine ⟨iff_of_true rfl ⟨fun later s' run' => run'.calls_of_nothing hempty, ?_⟩,
      fun full => absurd rfl full⟩
    rw [s.start_nothing hempty]
    exact ⟨rfl, rfl, rfl, rfl, rfl, rfl⟩
  | false =>
    rw [s.start_code hempty]
    refine ⟨iff_of_false Bool.false_ne_true ?_, fun _ => ⟨rfl, rfl, rfl, rfl, _, rfl⟩⟩
    -- the result region is empty, so it does not say that there is nothing to check
    rintro ⟨-, hresult, -⟩
    exact absurd hresult (by simp [View.beginCheck])

/-- What is not seen need not be blank.  Of a form that begins with an ideographic space, a no-break
space and a zero-width space, the last of them is the first character that is checked.  A form of
an ogham space, a next line and a tab has nothing in it; a check that is under way stays under
way. -/
theorem zero_width_space_is_checked :
    ∃ (h : History) (s : Session) (taken taken' : FormEvent) (code nothing : Submission)
      (next next' : Session × Report),
      Run .discard (.new .willing) h s ∧ h.map Moment.move = [.start (.submit (.ofRaw "a"))] ∧
      s.accept .new "\u3000\u00a0\u200bx \u001c\ufeff\u2028\n" = (s, taken, code) ∧
      code.code = "\u200bx \u001c\ufeff" ∧
      s.step? .discard (.start (.submit code)) = some next ∧
      next.2.made = some (.check code) ∧ next.1.calls = 2 ∧
      s.accept .new "\u1680\u0085\t" = (s, taken', nothing) ∧
      s.step? .discard (.start (.submit nothing)) = some next' ∧
      next'.1.view.result = "Please enter some code." ∧ next'.1.pending = s.pending := by
  have run : Run .discard (.new .willing) _ _ := Run.opened.start (.submit (.ofRaw "a"))
  obtain ⟨taken, code, next, haccept, -, hrest, -, hstep, -, -, hfull⟩ :=
    forms_are_checked_unless_blank run .new "\u3000\u00a0\u200bx \u001c\ufeff\u2028\n"
  obtain ⟨taken', nothing, next', haccept', -, -, -, hstep', -, hblank, -⟩ :=
    forms_are_checked_unless_blank run .new "\u1680\u0085\t"
  have hcode : "\u200bx \u001c\ufeff" = code.code :=
    (hrest _).1 ⟨⟨"\u3000\u00a0", "\u2028\n", by decide +kernel, by decide +kernel,
      by decide +kernel⟩, by decide +kernel⟩
  obtain ⟨-, -, hmade, hcalls, -⟩ := hfull (by decide +kernel)
  obtain ⟨-, hresult, -, -, -, hpending, -⟩ := hblank.1 (by decide +kernel)
  exact ⟨_, _, taken, taken', code, nothing, next, next', run, rfl, haccept, hcode.symm, hstep,
    hmade, hcalls, haccept', hstep', hresult, hpending⟩

end MeteredChecker
