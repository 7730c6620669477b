import MeteredChecker.Proofs.Json.Accepted.Literal
import MeteredChecker.Proofs.Json.Unambiguous
import MeteredChecker.Proofs.Json.Writing
import MeteredChecker.Proofs.Service.Verbatim

/-!
# What is sent for a check

The code that a person types is the one thing that is sent as they typed it, and it goes out
between two quotes.  Whatever is in it, a quote, a backslash, what looks like the end of the
object, or a control character, it must not get out of there.  `Json.Sealed` says what this is: the
literal denotes the code and nothing else, each quote and each backslash of the code has a
backslash of its own in front, and no quote in the literal is the one that ends the string.

The object around it has the code as its only member.  That this is so for whoever reads it, and
not just for a reader that is known here, is because a text is one object at most
(`Json.IsObject.unique`).  So nothing of the code can be taken for a member.
-/

namespace MeteredChecker

namespace Json

/-! ## Sealed strings -/

/-- What stands between the quotes of a string denotes a text, and nothing in the text can be taken
for anything but a part of it. -/
structure Sealed (literal text : List Char) : Prop where
  spelled : Spells literal text
  only : ∀ other, Spells literal other → other = text
  /-- Piece by piece a character of the text, and a quote or a backslash by an escape. -/
  escaped : ∃ pieces : List (List Char), literal = pieces.flatten ∧
    List.Forall₂ (fun piece c => Piece piece c ∧ (c = '"' ∨ c = '\\' → piece = ['\\', c]))
      pieces text
  /-- No quote ends the string early. -/
  closed : ∀ before after, literal = before ++ '"' :: after → ¬ IsString before

theorem Spells.eq_of_spells {literal text other : List Char} (h : Spells literal text)
    (h' : Spells literal other) : other = text :=
  have heq : literal ++ ['"'] = literal ++ ['"'] := rfl
  (h'.append_inj h heq).2.1

theorem IsString.closed {literal before after : List Char} (h : IsString literal)
    (hquote : literal = before ++ '"' :: after) : ¬ IsString before := by
  intro hbefore
  -- the string would end at a quote that has another one behind it, and at the last one
  have hlast := skipString_append h []
  have hearly := skipString_append hbefore (after ++ ['"'])
  rw [← List.cons_append, ← List.append_assoc, ← hquote] at hearly
  rw [hlast] at hearly
  exact List.append_ne_nil_of_right_ne_nil after (List.cons_ne_nil _ _) (Except.ok.inj hearly).symm

/-- **A text is written so that it is sealed.** -/
theorem sealed_escaped (text : List Char) : Sealed (text.flatMap escaped) text where
  spelled := spells_escaped text
  only := fun _ h => (spells_escaped text).eq_of_spells h
  escaped := by
    refine ⟨text.map escaped, List.flatMap_def, List.forall₂_map_left_iff.2 ?_⟩
    refine List.forall₂_same.2 fun c _ => ⟨piece_escaped c, ?_⟩
    rintro (rfl | rfl) <;> rfl
  closed := fun _ _ hquote => (spells_escaped text).isString.closed hquote

/-- Nothing that is written for a character is a control character. -/
theorem le_toNat_of_mem_escaped {c x : Char} (h : x ∈ escaped c) : 0x20 ≤ x.toNat := by
  have hdigit : ∀ n < 16, 0x20 ≤ (Text.hexDigit n).toNat := by decide
  have hshort {y : Char} (hy : 0x20 ≤ y.toNat) (h : x ∈ ['\\', y]) : 0x20 ≤ x.toNat := by
    simp only [List.mem_cons, List.not_mem_nil, or_false] at h
    rcases h with rfl | rfl
    · decide
    · exact hy
  unfold escaped at h
  split at h
  case h_8 =>
    split at h
    · next hcontrol =>
      simp only [List.mem_cons, List.not_mem_nil, or_false] at h
      rcases h with rfl | rfl | rfl | rfl | rfl | rfl
      · decide
      · decide
      · decide
      · decide
      · exact hdigit _ (by omega)
      · exact hdigit _ (by omega)
    · next hcontrol =>
      obtain rfl := List.mem_singleton.1 h
      exact Nat.not_lt.1 hcontrol
  all_goals exact hshort (by decide) h

end Json

/-! ## The body -/

namespace Submission

/-- What is sent for a check. -/
def body (s : Submission) : String := s.toJson.render

/-- What stands in it between the quotes of the code. -/
def literal (s : Submission) : List Char := s.code.toList.flatMap Json.escaped

variable (s : Submission)

theorem toList_body :
    s.body.toList = "\x7b\"code\":".toList ++ (Json.quoted s.literal ++ ['\x7d']) :=
  String.toList_ofList

theorem sealed_literal : Json.Sealed s.literal s.code.toList := Json.sealed_escaped s.code.toList

/-- The body is an object, and the code is its only member. -/
theorem isObject_body : Json.IsObject [("code".toList, Json.quoted s.literal)] s.body.toList :=
  Json.isObject_render [("code", Json.Value.text s.code)]

/-- **Whoever reads the body as an object finds the code**, and no other member. -/
theorem isObject_body_iff (ms : List (List Char × List Char)) :
    (Json.IsObject ms s.body.toList ∧ ∀ m ∈ ms, Json.IsValue m.2) ↔
      ms = [("code".toList, Json.quoted s.literal)] := by
  have hvalue : ∀ m ∈ [("code".toList, Json.quoted s.literal)], Json.IsValue m.2 :=
    List.forall_mem_singleton.2 s.sealed_literal.spelled.isValue
  constructor
  · rintro ⟨object, hvalues⟩
    exact object.unique s.isObject_body hvalues hvalue
  · rintro rfl
    exact ⟨s.isObject_body, hvalue⟩

theorem bears_body : Bears "code" s.code s.body := by
  have object : Json.IsObject ([] ++ ("code".toList, Json.quoted s.literal) :: []) s.body.toList :=
    s.isObject_body
  exact .intro object s.sealed_literal.spelled nofun

/-- The body is read back as the code. -/
theorem parse_body (title : String) :
    (Verdict.bodyShape title "code").reader.parse s.body = .ok s.code :=
  Verdict.parse_of_bears s.bears_body

/-- There is no control character in the body. -/
theorem le_toNat_of_mem_body {c : Char} (h : c ∈ s.body.toList) : 0x20 ≤ c.toNat := by
  -- what stands around the code is looked at character by character
  have hall {t : List Char} (ht : (t.all fun c => 0x20 ≤ c.toNat) = true) (hc : c ∈ t) :
      0x20 ≤ c.toNat := of_decide_eq_true (List.all_eq_true.1 ht c hc)
  rw [toList_body, Json.quoted, List.mem_append, List.cons_append, List.mem_cons,
    List.append_assoc, List.mem_append] at h
  rcases h with h | rfl | h | h
  · exact hall (by decide) h
  · decide
  · obtain ⟨d, -, hc⟩ := List.mem_flatMap.1 h
    exact Json.le_toNat_of_mem_escaped hc
  · exact hall (by decide) h

/-- The body says which code was sent. -/
theorem body_inj {s s' : Submission} : s.body = s'.body ↔ s.code = s'.code := by
  constructor
  · intro h
    have hread := s.parse_body ""
    rw [h, s'.parse_body] at hread
    exact (Except.ok.inj hread).symm
  · intro h
    rw [body, body, toJson, toJson, h]

end Submission

/-- The server receives the body of a check, if it listens and can be reached. -/
theorem Http.Client.received_check (client : Client) (submission : Submission) (line : Line) :
    (client.check submission line).state.received = line.received ++
      if line.listening then
        ((requestTarget? line.schemes client.config.checkUrl).map fun target =>
          ⟨.post, target, some "application/json", submission.body⟩).toList
      else [] := by
  rw [client.check_eq]
  dsimp only
  rw [line.received_post, Letter.request?, Config.letter, Submission.body]

/-- **What is sent for a check is the code and nothing else.**

Given is any text that a person types.  What every client sends for it is one and the same body,
which the server receives if it listens and can be reached.

The body is a JSON object, and the only members that it can be read to have are one, which is
named `code`.  Its value is a string that denotes the text without the blanks around it, and no
other text; every quote and every backslash of the text has a backslash in front, and no quote in
it ends the string.  A reader that asks for the code gets the trimmed text back.  There is no
control character in the body, and two texts have the same body if and only if they are the same
when trimmed. -/
theorem check_sends_the_code_alone (raw : String) :
    (∀ (client : Http.Client) (line : Line),
      (client.check (.ofRaw raw) line).state.received = line.received ++
        if line.listening then
          ((requestTarget? line.schemes client.config.checkUrl).map fun target =>
            ⟨.post, target, some "application/json", (Submission.ofRaw raw).body⟩).toList
        else []) ∧
    (∃ literal,
      (Submission.ofRaw raw).body.toList =
        "\x7b\"code\":".toList ++ (Json.quoted literal ++ ['\x7d']) ∧
      Json.Sealed literal (Text.trim raw).toList ∧
      ∀ ms, (Json.IsObject ms (Submission.ofRaw raw).body.toList ∧ ∀ m ∈ ms, Json.IsValue m.2) ↔
        ms = [("code".toList, Json.quoted literal)]) ∧
    (∀ title, (Verdict.bodyShape title "code").reader.parse (Submission.ofRaw raw).body =
      .ok (Text.trim raw)) ∧
    (∀ c ∈ (Submission.ofRaw raw).body.toList, 0x20 ≤ c.toNat) ∧
    ∀ other, (Submission.ofRaw other).body = (Submission.ofRaw raw).body ↔
      Text.trim other = Text.trim raw := by
  have hobject := (Submission.ofRaw raw).isObject_body_iff
  refine ⟨fun client line => client.received_check (.ofRaw raw) line,
    ⟨_, (Submission.ofRaw raw).toList_body, (Submission.ofRaw raw).sealed_literal, hobject⟩,
    (Submission.ofRaw raw).parse_body, fun c => (Submission.ofRaw raw).le_toNat_of_mem_body,
    fun other => Submission.body_inj⟩

/-- A code that looks as if it ended the object is received as a code, over a plain connection and
over a secured one. -/
theorem code_with_marks_is_received :
    ∃ (raw body : String) (client client' : Http.Client) (line line' : Line),
      raw = " \"\x7d, \\u0022\n\x01 " ∧
      body = "\x7b\"code\":\"\\\"\x7d, \\\\u0022\\n\\u0001\"\x7d" ∧
      client.config.apiBase = "http://127.0.0.1:2424/api" ∧ line = .new true [] ∧
      (client.check (.ofRaw raw) line).state.received =
        [⟨.post, "/api/check", some "application/json", body⟩] ∧
      client'.config.apiBase = "https://checker.test/" ∧
      line' = ⟨true, [.https], [none], [], "connection closed"⟩ ∧
      (client'.check (.ofRaw raw) line').state.received =
        [⟨.post, "/check", some "application/json", body⟩] := by
  let raw := " \"\x7d, \\u0022\n\x01 "
  let client : Http.Client :=
    ⟨{ Config.default with apiBase := "http://127.0.0.1:2424/api" }, by decide⟩
  let client' : Http.Client :=
    ⟨{ Config.default with apiBase := "https://checker.test/" }, by decide⟩
  obtain ⟨hreceived, -⟩ := check_sends_the_code_alone raw
  refine ⟨raw, _, client, client', _, _, rfl, rfl, rfl, rfl, (hreceived client _).trans ?_, rfl,
    rfl, (hreceived client' _).trans ?_⟩
  · decide +kernel
  · decide +kernel

end MeteredChecker
