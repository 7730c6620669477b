import MeteredChecker.Proofs.Service.Wire
import MeteredChecker.Proofs.Session.Likeness

/-!
# Submitted code is private

The code that a person submits goes to the service and nowhere else.  It is not shown, it
is not logged, it does not come back in a message, and it does not decide what is asked
next.  Of a submission the program knows two things beside its code: whether there is any,
and how many octets it has.  The second says the first (`Submission.isEmpty_eq_of_octets`).
So two pages on which texts of the same length are submitted, and which are told the same,
cannot be told apart but by looking at what is asked of the service.

## Where the code is

A handler that waits for a check holds the code that it has sent, and this is the only
place where it is kept (`Awaiting.SameButCode`).  The burst that goes on with the reply has
it at hand and does not look at it: `Handler.resume?_eq_of_sameButCode` is the one fact
about the handlers on which everything else rests.
-/

namespace MeteredChecker

/-! ## The same but for the code -/

/-- What is done is the same, but for the text that is submitted; without the blanks around
it, it has the same number of octets. -/
inductive Event.SameButCode : Event → Event → Prop
  | submit {raw raw' : String}
      (length : (Text.trim raw).utf8ByteSize = (Text.trim raw').utf8ByteSize) :
      SameButCode (.submit (.ofRaw raw)) (.submit (.ofRaw raw'))
  | refresh : SameButCode .refresh .refresh
  | reset : SameButCode .reset .reset
  | buy : SameButCode .buy .buy

/-- What is asked is the same, but for the code to be checked, which has the same number of
octets. -/
inductive Call.SameButCode : Call → Call → Prop
  | check {submission submission' : Submission}
      (length : submission.octets = submission'.octets) :
      SameButCode (.check submission) (.check submission')
  | stats : SameButCode .stats .stats
  | payment : SameButCode .payment .payment
  | reset : SameButCode .reset .reset

/-- What is waited for is the same, but for the code to be checked. -/
inductive Awaiting.SameButCode : Awaiting → Awaiting → Prop
  | check {submission submission' : Submission}
      (length : submission.octets = submission'.octets) (ticket : Ticket) :
      SameButCode (.check submission ticket) (.check submission' ticket)
  | same (a : Awaiting) : SameButCode a a

/-- The same is sent, but for the body. -/
structure Letter.SameButBody (letter letter' : Letter) : Prop where
  method : letter.method = letter'.method
  url : letter.url = letter'.url
  contentType : letter.contentType = letter'.contentType

/-- Nothing but the code of a submission, and what is not the body of a request for a check,
may differ. -/
def Likeness.code : Likeness where
  event := Event.SameButCode
  reply := Eq
  awaiting := Awaiting.SameButCode
  browser := Eq
  log := Eq

theorem Submission.isEmpty_eq_of_octets {s s' : Submission} (h : s.octets = s'.octets) :
    s.isEmpty = s'.isEmpty := by
  have hempty (s : Submission) : s.isEmpty = true ↔ s.octets = 0 := by
    rw [isEmpty_iff, octets, String.utf8ByteSize_eq_zero_iff]
  rw [Bool.eq_iff_iff, hempty, hempty, h]

theorem Awaiting.SameButCode.call {a a' : Awaiting} (same : a.SameButCode a') :
    a.call.SameButCode a'.call := by
  cases same with
  | check length ticket => exact .check length
  | same a =>
    cases a with
    | check submission ticket => exact .check rfl
    | stats ticket => exact .stats
    | payment => exact .payment
    | reset => exact .reset

/-- A request for a check is the same but for its body, and any other request is the same. -/
theorem Call.SameButCode.letter {call call' : Call} (same : call.SameButCode call')
    (config : Config) : (config.letter call).SameButBody (config.letter call') := by
  cases same <;> exact ⟨rfl, rfl, rfl⟩

/-! ## Handlers do not look at the code -/

namespace Handler

/-- **A handler goes on in the same way whatever the code is** that it has had checked. -/
theorem resume?_eq_of_sameButCode {a a' : Awaiting} (same : a.SameButCode a') (policy : Policy)
    (reply : Reply) (v : View) (b : Browser) :
    resume? policy a reply v b = resume? policy a' reply v b := by
  cases same with
  | check length ticket => cases reply <;> rfl
  | same a => rfl

/-- A burst is like itself. -/
theorem bursts_code_refl (burst : Burst) : Likeness.code.Bursts burst burst where
  view := rfl
  browser := rfl
  log := rfl
  rest := by
    cases burst.rest with
    | ended outcome => exact .ended outcome
    | waits a => exact .waits (.same a)

theorem kept_code (policy : Policy) : Likeness.code.Kept policy where
  begin := by
    rintro event event' v b _ hevent rfl
    cases hevent with
    | @submit raw raw' length =>
      have hoctets : (Submission.ofRaw raw).octets = (Submission.ofRaw raw').octets := length
      simp only [begin, beginSubmission, ← Submission.isEmpty_eq_of_octets hoctets]
      split
      · exact bursts_code_refl _
      · exact ⟨rfl, rfl, by rw [hoctets]; rfl, .waits (.check hoctets _)⟩
    | refresh | reset | buy => exact bursts_code_refl _
  resume := by
    rintro a a' reply _ v b _ burst same rfl rfl hburst
    rw [resume?_eq_of_sameButCode same] at hburst
    exact ⟨burst, hburst, bursts_code_refl burst⟩

end Handler

/-- **Submitted code influences nothing but the body of the request to check it.**

On one page any moves are made; on another, with a browser in the same state and under the
same policy, the same handlers are started and the same calls are settled with the same
replies, in the same order.  Only the texts that are submitted differ: without the blanks
around them they have the same numbers of octets.  Then all these moves can be made on the
second page, too.  Behind each of them the two pages show the same, tickets included, and
the browsers have shown the same messages and are at the same place; the same was logged;
the same handler has ended, with the same outcome; and the same call was made, but for the
code if it is a check.  So whatever the configuration is, the requests have the same method,
address and content type, and differ in the body of a check alone. -/
theorem code_influences_its_own_check_only {policy : Policy} {browser : Browser}
    {moves moves' : List Move} {trail : List (Session × Report)}
    (run : (Session.new browser).run? policy moves = some trail)
    (same : List.Forall₂ Likeness.code.Moves moves moves') :
    ∃ trail', (Session.new browser).run? policy moves' = some trail' ∧
      List.Forall₂ (fun next next' =>
        next.1.view = next'.1.view ∧ next.1.browser = next'.1.browser ∧
        next.2.log = next'.2.log ∧ next.2.finished = next'.2.finished ∧
        Option.Rel Call.SameButCode next.2.made next'.2.made ∧
        ∀ config : Config, Option.Rel Letter.SameButBody (next.2.made.map config.letter)
          (next'.2.made.map config.letter)) trail trail' := by
  have alike : Likeness.code.Sessions (.new browser) (.new browser) := ⟨rfl, rfl, .nil, rfl, rfl⟩
  obtain ⟨trail', run', hsteps⟩ := (Handler.kept_code policy).exists_run? alike same run
  refine ⟨trail', run', hsteps.imp fun next next' steps => ?_⟩
  have hmade : Option.Rel Call.SameButCode next.2.made next'.2.made :=
    steps.report.made fun _ _ => Awaiting.SameButCode.call
  refine ⟨steps.session.view, steps.session.browser, steps.report.log, steps.report.finished,
    hmade, fun config => ?_⟩
  generalize next.2.made = made, next'.2.made = made' at hmade ⊢
  cases hmade with
  | none => exact .none
  | some hcall => exact .some (hcall.letter config)

/-- One text of three characters and one of a single character, of three octets both, are
submitted; the check fails.  The pages show the same and the logs are the same. -/
theorem three_octets_are_three_octets :
    ∃ moves moves' trail trail',
      moves = [.start (.submit (.ofRaw " a;b")), .settle 0 (.check (.error (.status 500)))] ∧
      moves' = [.start (.submit (.ofRaw "€\n")), .settle 0 (.check (.error (.status 500)))] ∧
      List.Forall₂ Likeness.code.Moves moves moves' ∧
      (Session.new (.new .willing)).run? .discard moves = some trail ∧
      (Session.new (.new .willing)).run? .discard moves' = some trail' ∧
      trail.map (fun next => next.2.log) = [[.checking 3], [.checkFailed (.status 500)]] ∧
      List.Forall₂ (fun next next' => next.1.view = next'.1.view ∧ next.2.log = next'.2.log)
        trail trail' := by
  have run : (Session.new (.new .willing)).run? .discard [.start (.submit (.ofRaw " a;b")),
    .settle 0 (.check (.error (.status 500)))] = some _ := rfl
  have same : List.Forall₂ Likeness.code.Moves
      [.start (.submit (.ofRaw " a;b")), .settle 0 (.check (.error (.status 500)))]
      [.start (.submit (.ofRaw "€\n")), .settle 0 (.check (.error (.status 500)))] :=
    .cons (.start (.submit (by decide))) (.cons (.settle 0 rfl) .nil)
  obtain ⟨trail', run', hsame⟩ := code_influences_its_own_check_only run same
  exact ⟨_, _, _, trail', rfl, rfl, same, run, run', rfl, hsame.imp fun _ _ h => ⟨h.1, h.2.2.1⟩⟩

end MeteredChecker
