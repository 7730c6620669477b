import MeteredChecker.Proofs.Json.Record
import MeteredChecker.Proofs.Service.Classification
import MeteredChecker.Proofs.Session.InOrder
import MeteredChecker.Proofs.Text.Utf8

/-!
# What the service says is shown as it is

A text goes a long way from the service to the page.  It is spelled as a JSON string, the
string stands somewhere in an object, the object is written as octets, and the octets are the
body of a response.  On this side the octets become characters, the object becomes a record,
the record a verdict and the verdict what is shown, unless something has come in between.  At
every station there is something that could go wrong with quotes, backslashes, control
characters, blanks at the ends or characters that take two escapes.

Nothing does.  `Bears` says which bodies have a text under a name, in all their spellings, and
`server_text_is_shown_verbatim` puts the stations together.  The work has been done at each of
them: octets in `Text.ofBody_toUTF8`, strings in `Json.string_append`, members that are of no
interest in `Json.skip_append`, objects in `Json.Shape.parse_of_isObject`, responses in
`Http.Client.check_outcome`, and superseded answers in `Run.lastCheck_of_latest`.
-/

namespace MeteredChecker

/-- A body bears a text under a name: it is a JSON object in which exactly one member has that
name, and the value of that member is a string that denotes the text.  The other members have
other names and any values.  A name is a text, too, so it is spelled by a string that denotes
one. -/
inductive Bears (name text : String) : String → Prop
  | intro {body : String} {before after : List (List Char × List Char)} {literal : List Char}
      (object : Json.IsObject (before ++ (name.toList, Json.quoted literal) :: after) body.toList)
      (spelled : Json.Spells literal text.toList)
      (others : ∀ m ∈ before ++ after, m.1 ≠ name.toList ∧ Json.IsValue m.2) :
      Bears name text body

/-- A response carries a text as its body: it can be read, it has a body, all of it arrives, and
it is the text in UTF-8. -/
structure Response.Carries (r : Response) (body : String) : Prop where
  readable : r.isReadable = true
  hasBody : r.isBodiless = false
  charset : Text.Charset.ofMediaType r.mediaType = .utf8
  octets : r.body = some body.toUTF8.toList

/-! ## From the octets to the verdict -/

/-- An object does not begin with a byte-order mark. -/
theorem Json.IsObject.unmarked {ms : List (List Char × List Char)} {s : List Char}
    (object : IsObject ms s) : s.head? ≠ some '\uFEFF' :=
  unmarked_of_head?_skipBlanks object.head?_skipBlanks (by decide)

/-- What a response carries is its text. -/
theorem Response.Carries.text? {r : Response} {body : String} (carries : r.Carries body)
    (unmarked : body.toList.head? ≠ some '\uFEFF') : r.text? = some body := by
  rw [Response.text?, if_neg (by simp [carries.hasBody]), carries.octets, Option.map_some,
    Text.ofBody_toUTF8 carries.charset unmarked]

/-- **A record with a single text is read from every body that bears the text.** -/
theorem Verdict.parse_of_bears {title name text body : String} (bears : Bears name text body) :
    (bodyShape title name).reader.parse body = .ok text := by
  obtain ⟨object, spelled, others⟩ := bears
  rename_i before after literal
  have unknown (m : List Char × List Char) (hm : m ∈ before ++ after) :
      (∀ field ∈ (bodyShape title name).fields, field.name ≠ String.ofList m.1) ∧
        Json.IsValue m.2 := by
    refine ⟨fun field hfield hname => (others m hm).1 ?_, (others m hm).2⟩
    obtain rfl := List.mem_singleton.1 hfield
    have hname : name = String.ofList m.1 := hname
    rw [hname, String.toList_ofList]
  have known : (bodyShape title name).fields.find?
      (fun field => field.name == String.ofList name.toList) =
        some (.of name id (fun _ text => some text) .string) := by
    rw [String.ofList_toList]
    exact List.find?_cons_of_pos (beq_self_eq_true name)
  have taken : (bodyShape title name).TakesOne none (name.toList, Json.quoted literal)
      (some text) := by
    refine .taken known rfl fun b rest hb _ => Json.Field.read_of ?_ name none
    rw [← String.ofList_toList (s := text)]
    exact Json.readString_append hb spelled "a string" rest
  refine Json.Shape.parse_of_isObject object (d := some text) ?_ rfl
  exact .append (Json.Shape.takes_of_unknown (fun m hm => unknown m (List.mem_append_left _ hm)) _)
    (.cons taken
      (Json.Shape.takes_of_unknown (fun m hm => unknown m (List.mem_append_right _ hm)) _))

/-- What arrives of a response that carries a text, if it is next. -/
theorem Line.arrival_of_carries {line : Line} {r : Response} {body : String}
    (listening : line.listening = true) (next : line.deliveries.head? = some (some r))
    (carries : r.Carries body) (unmarked : body.toList.head? ≠ some '\uFEFF') :
    line.arrival = .whole r.status body := by
  have hincoming : line.incoming = some r := by
    rw [incoming, if_pos listening, next]
    exact Option.filter_eq_some_iff.2 ⟨rfl, carries.readable⟩
  rw [arrival, hincoming, Http.Arrival.ofDelivery, carries.text? unmarked]

/-- The verdict in a response that carries a body which bears a text. -/
theorem Http.Client.check_outcome_of_bears (client : Client) {submission : Submission}
    {line : Line} (reachable : (client.config.letter (.check submission)).Reaches line)
    {r : Response} (listening : line.listening = true)
    (next : line.deliveries.head? = some (some r)) {body : String} (carries : r.Carries body)
    (text : String) :
    (IsSuccess r.status → Bears "result" text body →
      (client.check submission line).outcome = .ok (.result text)) ∧
    (¬ IsSuccess r.status → Bears "message" text body →
      (client.check submission line).outcome = .ok (.refusal text)) := by
  rw [client.check_outcome reachable]
  have harrival {name : String} (bears : Bears name text body) :
      line.arrival = .whole r.status body := by
    obtain ⟨object, -, -⟩ := bears
    exact line.arrival_of_carries listening next carries object.unmarked
  constructor
  · intro hsuccess bears
    exact ((line.arrival.checkClassified _).result text).2
      ⟨_, _, harrival bears, hsuccess, Verdict.parse_of_bears bears⟩
  · intro hrefused bears
    exact ((line.arrival.checkClassified _).refusal text).2
      ⟨_, _, harrival bears, hrefused, Verdict.parse_of_bears bears⟩

/-! ## From the verdict to the page -/

/-- **A check that has not been superseded is shown** as soon as it is settled.  Under `apply`
every check is. -/
theorem Run.exists_settle_of_current {policy : Policy} {browser : Browser} {h : History}
    {s : Session} (run : Run policy browser h s) {p : Pending} (mem : p ∈ s.pending)
    {submission : Submission} {ticket : Ticket} (waits : p.awaiting = .check submission ticket)
    (current : policy = .discard → h.latestSubmission?.map Prod.fst = some p.handler)
    (outcome : Except Failure Verdict) :
    ∃ next, s.step? policy (.settle p.call (.check outcome)) = some next ∧
      next.1.view.result = Verdict.outcomeText outcome := by
  have hburst : Handler.resume? policy p.awaiting (.check outcome) s.view s.browser =
      some (Handler.afterCheck policy ticket outcome s.view s.browser) := by
    rw [waits]
    rfl
  refine ⟨_, run.sound.settle?_eq mem hburst, ?_⟩
  have hfresh : View.isStale ticket s.view.lastCheck policy = false := by
    cases policy with
    | apply => exact View.isStale_apply _ _
    | discard =>
      exact View.isStale_discard_eq_false_iff.2
        (run.lastCheck_of_latest ⟨p, mem, rfl, waits⟩ (current rfl))
  rw [Session.absorb_view, Handler.afterCheck_of_current hfresh]
  exact View.showCheck_result outcome

/-- **What the service says is shown, and shown as it is.**

On any page, whatever has happened on it and whatever else is under way, a check is under way
that will be shown: under `discard` it is one of the latest submission.  The client asks a
server for it that can be reached, and what comes back is a response that carries a body in
UTF-8.

If the status of the response is a success and the body bears a text as the result, or if it is
not and the body bears a text as the message, then the call can be settled with what the client
answers, and the result region behind that shows the text, in the first case behind its label.
That is so for every text, for every string that denotes it, and for every object that has this
string as a member among others, in whatever order and with whatever blanks. -/
theorem server_text_is_shown_verbatim {policy : Policy} {browser : Browser} {h : History}
    {s : Session} (run : Run policy browser h s) {p : Pending} (mem : p ∈ s.pending)
    {submission : Submission} {ticket : Ticket} (waits : p.awaiting = .check submission ticket)
    (current : policy = .discard → h.latestSubmission?.map Prod.fst = some p.handler)
    {client : Http.Client} {line : Line}
    (reachable : (client.config.letter (.check submission)).Reaches line)
    {r : Response} (listening : line.listening = true)
    (next : line.deliveries.head? = some (some r)) {body : String} (carries : r.Carries body)
    (text : String) :
    ∃ behind, s.step? policy
        (.settle p.call (.check (client.check submission line).outcome)) = some behind ∧
      (IsSuccess r.status → Bears "result" text body →
        behind.1.view.result = "Syntax Check Result: " ++ text) ∧
      (¬ IsSuccess r.status → Bears "message" text body → behind.1.view.result = text) := by
  obtain ⟨behind, hstep, hresult⟩ :=
    run.exists_settle_of_current mem waits current (client.check submission line).outcome
  obtain ⟨hsuccess, hrefused⟩ :=
    client.check_outcome_of_bears reachable listening next carries text
  refine ⟨behind, hstep, fun success bears => ?_, fun refused bears => ?_⟩
  · rw [hresult, hsuccess success bears]
    rfl
  · rw [hresult, hrefused refused bears]
    rfl

/-- A text that is spelled with escapes, a pair of surrogates among them, comes behind a member
that nobody asks for, once as a result, whose name is spelled with an escape, too, and once as
the message of a refusal.  It is shown as it is. -/
theorem spelled_with_escapes_shown_without :
    ∃ (h : History) (s : Session) (client : Http.Client) (body body' : String)
      (line line' : Line) (behind behind' : Session × Report),
      Run .discard (.new .willing) h s ∧
      h.map Moment.move = [.start (.submit (.ofRaw "a"))] ∧
      body = "\x7b\"x\":[1e999], \"\\u0072esult\":\" \\\"\\uD83D\\ude00\\n\"\x7d" ∧
      body' = "\x7b\"x\":[1e999], \"message\":\" \\\"\\uD83D\\ude00\\n\"\x7d" ∧
      line = .new true [some ⟨200, some "application/json", some body.toUTF8.toList⟩] ∧
      line' = .new true [some ⟨429, none, some body'.toUTF8.toList⟩] ∧
      s.step? .discard (.settle 0 (.check (client.check (.ofRaw "a") line).outcome)) =
        some behind ∧
      behind.1.view.result = "Syntax Check Result:  \"😀\n" ∧
      s.step? .discard (.settle 0 (.check (client.check (.ofRaw "a") line').outcome)) =
        some behind' ∧
      behind'.1.view.result = " \"😀\n" := by
  have hex {a b c d : Char} (i j k l : Nat) (digits : Json.HexDigit a i ∧ Json.HexDigit b j ∧
      Json.HexDigit c k ∧ Json.HexDigit d l) :
      Json.Hex4 [a, b, c, d] (((i * 16 + j) * 16 + k) * 16 + l) :=
    .intro digits.1 digits.2.1 digits.2.2.1 digits.2.2.2
  -- the text, the member in front of it, and the two members that have the text
  have high : Json.Hex4 ['D', '8', '3', 'D'] (0xD800 + 0x3D) := hex 0xD 8 3 0xD (by decide)
  have low : Json.Hex4 ['d', 'e', '0', '0'] (0xDC00 + 0x200) := hex 0xD 0xE 0 0 (by decide)
  have spelled : Json.Spells " \\\"\\uD83D\\ude00\\n".toList " \"😀\n".toList :=
    .cons (.plain (by decide)) <| .cons (.short (e := '"') (by decide)) <|
      .cons (.pair high low (by decide) (by decide) (by decide)) <|
      .cons (.short (e := 'n') (by decide)) .nil
  have one : Json.Digits ['1'] := by decide
  have nines : Json.Digits ['9', '9', '9'] := by decide
  have huge : Json.IsNumber "1e999".toList :=
    .intro (.inl rfl) (.positive one (by decide)) .absent (.present (.inl rfl) (.inl rfl) nines)
  have blank : Json.Blanks [] := Json.blanks_nil
  have space : Json.Blanks [' '] := by decide
  have lead : Json.Frame.Lead .list [] := .list blank
  have other : Json.IsValue "[1e999]".toList := .filled (.last lead (.number huge) blank)
  have x : Json.Spells ['x'] ['x'] := .plain (by decide)
  have r : Json.Piece "\\u0072".toList 'r' :=
    .number (show Json.Hex4 ['0', '0', '7', '2'] 0x72 from hex 0 0 7 2 (by decide))
  have esult : Json.Spells "esult".toList "esult".toList := .plain (by decide)
  have result : Json.Spells "\\u0072esult".toList "result".toList := .cons r esult
  have message : Json.Spells "message".toList "message".toList := .plain (by decide)
  have first : Json.IsMember ("x".toList, "[1e999]".toList) _ := .intro blank x blank blank blank
  have bears {name : String} {body : List Char} (hname : Json.Spells body name.toList)
      (hx : "x".toList ≠ name.toList) :
      Bears name " \"😀\n" (String.ofList ("\x7b\"x\":[1e999], \"".toList ++
        (body ++ "\":\" \\\"\\uD83D\\ude00\\n\"\x7d".toList))) := by
    have second : Json.IsMember (name.toList, Json.quoted " \\\"\\uD83D\\ude00\\n".toList) _ :=
      .intro space hname blank blank blank
    refine @Bears.intro _ _ _ [("x".toList, "[1e999]".toList)] [] _ ?_ spelled ?_
    · have object := Json.IsObject.intro blank (.filled (.more first (.last second))) blank
      rw [String.toList_ofList]
      simpa [Json.quoted] using object
    · intro m hm
      obtain rfl := List.mem_singleton.1 hm
      exact ⟨hx, other⟩
  have run : Run .discard (.new .willing) _ _ := Run.opened.start (.submit (.ofRaw "a"))
  let client : Http.Client := ⟨Config.default.withPaymentBase "http://localhost:2424", by decide⟩
  have hcheck : (requestTarget? [.http] client.config.checkUrl).isSome = true := by decide +kernel
  have reachable (r : Response) :
      (client.config.letter (.check (.ofRaw "a"))).Reaches (.new true [some r]) := hcheck
  have shown {r : Response} {body : String} (carries : r.Carries body) :=
    server_text_is_shown_verbatim run List.mem_cons_self rfl (fun _ => rfl) (reachable r)
      (show (Line.new true [some r]).listening = true from rfl) rfl carries " \"😀\n"
  have charset : Text.Charset.ofMediaType
      (Response.mediaType ⟨200, some "application/json", none⟩) = .utf8 := by decide +kernel
  have answered (body : String) :
      (⟨200, some "application/json", some body.toUTF8.toList⟩ : Response).Carries body :=
    ⟨rfl, rfl, charset, rfl⟩
  have refused (body : String) :
      (⟨429, none, some body.toUTF8.toList⟩ : Response).Carries body := ⟨rfl, rfl, rfl, rfl⟩
  obtain ⟨behind, hstep, hresult, -⟩ := shown (answered _)
  obtain ⟨behind', hstep', -, hmessage⟩ := shown (refused _)
  exact ⟨_, _, client, _, _, _, _, behind, behind', run, rfl, rfl, rfl, rfl, rfl, hstep,
    hresult (by decide) (bears result (by decide)), hstep',
    hmessage (by decide) (bears message (by decide))⟩

end MeteredChecker
