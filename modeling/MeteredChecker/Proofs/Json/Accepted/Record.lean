import MeteredChecker.Proofs.Json.Accepted.Value
import MeteredChecker.Proofs.Json.Unambiguous
import MeteredChecker.Proofs.Json.Writing

/-!
# Only objects are read as records

If a text that begins with a brace is read as a record, then it is an object, and the record is
what the members of the object come to.  With the other half, that every such object is read so,
this describes what is read without a word about characters (`Shape.parse_eq_ok_iff`).

What the fields are is left open.  All that is asked of their readers is that they are `Honest`:
where one succeeds it has taken away blanks and a value, and it would have read that value in the
same way anywhere else.  A reader that looked past the value would not be.
-/

namespace MeteredChecker
namespace Json

variable {s rest : List Char}

/-! ## Readers of fields -/

/-- Where the reader succeeds there was a value that it always reads so. -/
def Reader.Honest {α : Type} (reader : Reader α) : Prop :=
  ∀ s a rest, reader.read s = .ok (a, rest) →
    ∃ b v, Blanks b ∧ IsValue v ∧ s = b ++ (v ++ rest) ∧ reader.Reads v a

/-- What a field does to a draft is what its reader says. -/
theorem Field.read_of_eq_ok_iff {δ α : Type} {name : String} {get : δ → Option α}
    {put : δ → α → δ} {reader : Reader α} {d d' : δ} :
    ((Field.of name get put reader).set d).read s = .ok (d', rest) ↔
      ∃ a, reader.read s = .ok (a, rest) ∧ put d a = d' := by
  constructor
  · intro h
    simp only [Field.of] at h
    split at h
    · cases h
    · next a left hread =>
      obtain ⟨rfl, rfl⟩ := Prod.mk.inj (Except.ok.inj h)
      exact ⟨a, hread, rfl⟩
  · rintro ⟨a, hread, rfl⟩
    exact Field.read_of hread name d

/-- A field is as honest as its reader. -/
theorem Reader.Honest.field {δ α : Type} {reader : Reader α} (honest : reader.Honest)
    (name : String) (get : δ → Option α) (put : δ → α → δ) (d : δ) :
    ((Field.of name get put reader).set d).Honest := by
  intro s d' rest h
  obtain ⟨a, hread, rfl⟩ := Field.read_of_eq_ok_iff.1 h
  obtain ⟨b, v, hb, hv, hs, reads⟩ := honest s a rest hread
  exact ⟨b, v, hb, hv, hs, fun b rest hb hrest =>
    Field.read_of_eq_ok_iff.2 ⟨a, reads b rest hb hrest, rfl⟩⟩

/-- An honest reader that takes a value away reads it so wherever it stands. -/
theorem Reader.Honest.reads {α : Type} {reader : Reader α} (honest : reader.Honest)
    {v : List Char} (hv : IsValue v) {a : α} (h : reader.read v = .ok (a, [])) :
    reader.Reads v a := by
  obtain ⟨b, w, hb, hw, hs, reads⟩ := honest v a [] h
  have heq : [] ++ (v ++ []) = b ++ (w ++ []) := (List.append_nil v).trans hs
  obtain ⟨-, heq⟩ := blanks_nil.append_inj hb (unblank_value hv []) (unblank_value hw []) heq
  rw [List.append_cancel_right heq]
  exact reads

/-- A field reads from a value what its reader reads. -/
theorem Field.reads_of_iff {δ α : Type} {reader : Reader α} (honest : reader.Honest)
    {v : List Char} (hv : IsValue v) {name : String} {get : δ → Option α} {put : δ → α → δ}
    {d d' : δ} :
    ((Field.of name get put reader).set d).Reads v d' ↔ ∃ a, reader.Reads v a ∧ put d a = d' := by
  constructor
  · intro reads
    have hread := reads [] [] blanks_nil nofun
    rw [List.nil_append, List.append_nil] at hread
    obtain ⟨a, hread, hput⟩ := Field.read_of_eq_ok_iff.1 hread
    exact ⟨a, honest.reads hv hread, hput⟩
  · rintro ⟨a, reads, hput⟩ b rest hb hrest
    exact Field.read_of_eq_ok_iff.2 ⟨a, reads b rest hb hrest, hput⟩

namespace Shape

variable {δ α β : Type} {shape : Shape δ α} {d d' : δ} {name v : List Char}

theorem takes_nil_iff : shape.Takes d [] d' ↔ d = d' := by
  constructor
  · intro takes
    cases takes
    rfl
  · rintro rfl
    exact .nil d

theorem takes_cons_iff {m : List Char × List Char} {ms : List (List Char × List Char)} :
    shape.Takes d (m :: ms) d' ↔ ∃ d₁, shape.TakesOne d m d₁ ∧ shape.Takes d₁ ms d' := by
  constructor
  · intro takes
    cases takes with
    | cons hm hms => exact ⟨_, hm, hms⟩
  · rintro ⟨d₁, hm, hms⟩
    exact .cons hm hms

/-- A member that nobody knows does nothing. -/
theorem takesOne_iff_of_unknown (hv : IsValue v)
    (unknown : ∀ field ∈ shape.fields, field.name ≠ String.ofList name) :
    shape.TakesOne d (name, v) d' ↔ d = d' := by
  constructor
  · intro takes
    cases takes with
    | passed => rfl
    | taken known =>
      have hname := List.find?_some known
      exact absurd (by simpa using hname) (unknown _ (List.mem_of_find?_eq_some known))
  · rintro rfl
    exact .passed unknown hv

/-- **A member with a known name is read into the draft**, which must not have its value. -/
theorem takesOne_iff_of_known {field : String} {get : δ → Option β} {put : δ → β → δ}
    {reader : Reader β} (honest : reader.Honest) (hv : IsValue v)
    (known : (shape.fields.find? fun f => f.name == String.ofList name) =
      some (.of field get put reader)) :
    shape.TakesOne d (name, v) d' ↔ get d = none ∧ ∃ a, reader.Reads v a ∧ put d a = d' := by
  constructor
  · intro takes
    cases takes with
    | passed unknown =>
      have hname := List.find?_some known
      exact absurd (by simpa using hname) (unknown _ (List.mem_of_find?_eq_some known))
    | taken known' unset reads =>
      obtain rfl := Option.some.inj (known.symm.trans known')
      exact ⟨Option.isNone_iff_eq_none.1 (by simpa [Field.of] using unset),
        (Field.reads_of_iff honest hv).1 reads⟩
  · rintro ⟨unset, reads⟩
    refine .taken known ?_ ((Field.reads_of_iff honest hv).2 reads)
    show (get d).isSome = false
    rw [unset]
    rfl

end Shape

/-! ## Names -/

/-- Where a name is to be read: its end, or the end of the object. -/
inductive Names (first : Bool) : Option String → List Char → List Char → Prop
  | closing {b rest : List Char} (hb : Blanks b) :
      Names first none (b ++ '\x7d' :: rest) ('\x7d' :: rest)
  | member {lead b body text rest : List Char} (hlead : Enters first lead) (hb : Blanks b)
      (hname : Spells body text) :
      Names first (some (String.ofList text)) (lead ++ (b ++ (quoted body ++ rest))) rest

/-- Reads the name of a member where one has to be. -/
def memberName : List Char → Result (Option String)
  | '"' :: rest =>
      match string rest with
      | .error f => .error f
      | .ok (t, rest) => .ok (some (String.ofList t), rest)
  | s => .error (.past .noKey s)

theorem nextName_eq (first : Bool) (s : List Char) : nextName first s =
    match skipBlanks s with
    | [] => .error (.past .endInRecord [])
    | c :: rest =>
        if c = '\x7d' then .ok (none, c :: rest)
        else if first then memberName (c :: rest)
        else if c = ',' then
          match skipBlanks rest with
          | [] => .error (.past .endInValue [])
          | d :: rest =>
              if d = '\x7d' then .error (.past .trailingComma (d :: rest))
              else memberName (d :: rest)
        else .error (.past .noRecordEnd (c :: rest)) := rfl

theorem exists_spells_of_memberName_ok {name? : Option String}
    (h : memberName s = .ok (name?, rest)) :
    ∃ body text, Spells body text ∧ name? = some (String.ofList text) ∧
      s = quoted body ++ rest := by
  unfold memberName at h
  split at h
  · split at h
    · cases h
    · next hstring =>
      obtain ⟨rfl, rfl⟩ := Prod.mk.inj (Except.ok.inj h)
      obtain ⟨body, hbody, rfl⟩ := string_eq_ok_iff.1 hstring
      exact ⟨body, _, hbody, rfl, (quoted_append body _).symm⟩
  · cases h

/-- **Reading the name of the next member** succeeds where there is one or the object ends. -/
theorem nextName_eq_ok_iff {first : Bool} {name? : Option String} :
    nextName first s = .ok (name?, rest) ↔ Names first name? s rest := by
  constructor
  · intro h
    rw [nextName_eq] at h
    split at h
    · cases h
    · next c t heq =>
      obtain ⟨b, hb, rfl⟩ := exists_blanks heq
      split_ifs at h with hend hfirst hcomma
      · obtain rfl := hend
        obtain ⟨rfl, rfl⟩ := Prod.mk.inj (Except.ok.inj h)
        exact .closing hb
      · obtain rfl := hfirst
        obtain ⟨body, text, hname, rfl, hs⟩ := exists_spells_of_memberName_ok h
        rw [hs]
        exact .member .first hb hname
      · obtain rfl := hcomma
        obtain rfl := eq_false_of_ne_true hfirst
        split at h
        · cases h
        · next d u heq =>
          obtain ⟨b', hb', rfl⟩ := exists_blanks heq
          split_ifs at h with hend
          obtain ⟨body, text, hname, rfl, hs⟩ := exists_spells_of_memberName_ok h
          have hnames : Names false _ (b ++ [','] ++ (b' ++ (quoted body ++ rest))) rest :=
            .member (.later hb) hb' hname
          rw [hs]
          simpa using hnames
  · rintro (⟨hb⟩ | ⟨hlead, hb, hname⟩)
    · exact nextName_end first hb _
    · exact nextName_append hlead hb hname _

/-! ## Members -/

/-- What stands between here and the end of an object: the first members, or the ones that come
behind a member. -/
inductive Follows : Bool → List (List Char × List Char) → List Char → Prop
  | nothing (first : Bool) {b : List Char} (hb : Blanks b) : Follows first [] b
  | members {first : Bool} {ms : List (List Char × List Char)} {lead s : List Char}
      (hlead : Enters first lead) (hs : AreMembers ms s) : Follows first ms (lead ++ s)

theorem Follows.isBody {ms : List (List Char × List Char)} (h : Follows true ms s) :
    IsBody ms s := by
  cases h with
  | nothing hb => exact .empty hb
  | members hlead hs =>
    cases hlead
    exact .filled hs

/-- **A member that has been read is put in front of what follows it.** -/
theorem Follows.exists_cons {first : Bool} {ms : List (List Char × List Char)} {name : String}
    {behind b₂ v t : List Char} (h : Follows false ms t)
    (hread : nextName first s = .ok (some name, behind))
    (hcolon : colon behind = .ok (b₂ ++ (v ++ (t ++ rest)))) (hb₂ : Blanks b₂) :
    ∃ text u, name = String.ofList text ∧ Follows first ((text, v) :: ms) u ∧ s = u ++ rest := by
  obtain ⟨b₁, hb₁, rfl⟩ := exists_colon_of_ok hcolon
  obtain - | @⟨lead, b, body, text, _, hlead, hb, hname⟩ := nextName_eq_ok_iff.1 hread
  refine ⟨text, lead ++ (b ++ (quoted body ++ (b₁ ++ ':' :: (b₂ ++ (v ++ t))))), rfl, ?_, by simp⟩
  cases h with
  | nothing hb₃ => exact .members hlead (.last (.intro hb hname hb₁ hb₂ hb₃))
  | members hlead' hs =>
    obtain - | hb₃ := hlead'
    have hmembers := AreMembers.more (.intro (v := v) hb hname hb₁ hb₂ hb₃) hs
    have hfollows := Follows.members hlead hmembers
    simpa using hfollows

section members

variable {δ α : Type} {shape : Shape δ α}

/-- All fields of a record have honest readers. -/
def Shape.Honest (shape : Shape δ α) : Prop := ∀ field ∈ shape.fields, ∀ d, (field.set d).Honest

/-- **Where the members of an object are read there are members**, and the draft is what they
come to. -/
theorem exists_takes_of_members_ok (honest : shape.Honest) {first : Bool} {d d' : δ}
    (h : members shape first d s = .ok (.ok d', rest)) :
    ∃ ms t left, Follows first ms t ∧ (∀ m ∈ ms, IsValue m.2) ∧ shape.Takes d ms d' ∧
      rest = '\x7d' :: left ∧ s = t ++ rest := by
  fun_induction members shape first d s with
  | case1 | case3 | case4 | case6 | case7 | case8 => cases h
  | case2 first d s left hname =>
    obtain ⟨hd, rfl⟩ := Prod.mk.inj (Except.ok.inj h)
    obtain rfl := Except.ok.inj hd
    obtain ⟨hb⟩ := nextName_eq_ok_iff.1 hname
    exact ⟨[], _, _, .nothing first hb, List.forall_mem_nil _, .nil d, rfl, rfl⟩
  | case5 first d s name behind hname _ unknown value hcolon behind' hskip _ ih =>
    obtain ⟨ms, t, left, hfollows, hvalues, takes, hrest, rfl⟩ := ih h
    obtain ⟨b, v, hb, hv, rfl⟩ := exists_isValue_of_skip_ok hskip
    obtain ⟨text, u, rfl, hfollows, hs⟩ := hfollows.exists_cons hname hcolon hb
    refine ⟨_, u, left, hfollows, List.forall_mem_cons.2 ⟨hv, hvalues⟩,
      .cons (.passed ?_ hv) takes, hrest, hs⟩
    exact fun field hfield hname => List.find?_eq_none.1 unknown field hfield (by simp [hname])
  | case9 first d s name behind hname _ field known unset value hcolon d'' behind' hread _ ih =>
    obtain ⟨ms, t, left, hfollows, hvalues, takes, hrest, rfl⟩ := ih h
    obtain ⟨b, v, hb, hv, rfl, reads⟩ :=
      honest field (List.mem_of_find?_eq_some known) d _ _ _ hread
    obtain ⟨text, u, rfl, hfollows, hs⟩ := hfollows.exists_cons hname hcolon hb
    exact ⟨_, u, left, hfollows, List.forall_mem_cons.2 ⟨hv, hvalues⟩,
      .cons (.taken known (eq_false_of_ne_true unset) reads) takes, hrest, hs⟩

end members

/-! ## Records -/

theorem skipBlanks_eq_nil_iff : skipBlanks s = [] ↔ Blanks s := by
  constructor
  · intro h
    obtain ⟨b, hb, rfl⟩ := exists_blanks h
    rwa [List.append_nil]
  · intro hs
    rw [← List.append_nil s, hs.skipBlanks_append]
    rfl

/-- A whole text is read as what is read from it with nothing but blanks behind. -/
theorem Reader.parse_eq_ok_iff {α : Type} {reader : Reader α} {text : String} {a : α} :
    reader.parse text = .ok a ↔ ∃ rest, reader.read text.toList = .ok (a, rest) ∧ Blanks rest := by
  unfold Reader.parse
  dsimp only
  constructor
  · intro h
    split at h
    · cases h
    · next a' rest hread =>
      split at h
      · next hend =>
        obtain rfl := Except.ok.inj h
        exact ⟨rest, hread, skipBlanks_eq_nil_iff.1 hend⟩
      · cases h
  · rintro ⟨rest, hread, hblanks⟩
    rw [hread]
    dsimp only
    rw [skipBlanks_eq_nil_iff.2 hblanks]

theorem closeWith_eq_ok_iff {α : Type} {close : List Char → Closing}
    {fields : Result (Except Misfit α)} {a : α} :
    closeWith close fields = .ok (a, rest) ↔
      ∃ s, fields = .ok (.ok a, s) ∧ close s = ⟨rest, none⟩ := by
  constructor
  · intro h
    unfold closeWith at h
    split at h
    · cases h
    · cases h
    · next a s =>
      split at h
      · cases h
      · next hfault =>
        obtain ⟨rfl, rfl⟩ := Prod.mk.inj (Except.ok.inj h)
        refine ⟨s, rfl, ?_⟩
        rw [← hfault]
  · rintro ⟨s, rfl, hclose⟩
    rw [closeWith, hclose]

theorem closeRecord_closer (rest : List Char) : closeRecord ('\x7d' :: rest) = ⟨rest, none⟩ := by
  rw [closeRecord, skipBlanks_cons rfl]
  rfl

namespace Shape

variable {δ α : Type} {shape : Shape δ α} {a : α}

theorem ofMembers_eq_ok_iff {draft : Draft δ} :
    shape.ofMembers draft = .ok a ↔ ∃ d, draft = .ok d ∧ shape.finish d = .ok a := by
  cases draft with
  | error m => simp [ofMembers]
  | ok d => cases hfinish : shape.finish d <;> simp [ofMembers, hfinish, Except.mapError]

/-- A record is read from an object, if it begins as one. -/
theorem exists_takes_of_read_ok (honest : shape.Honest) (h : shape.read s = .ok (a, rest))
    (hbrace : (skipBlanks s).head? = some '\x7b') :
    ∃ ms d b t, Blanks b ∧ IsBody ms t ∧ (∀ m ∈ ms, IsValue m.2) ∧
      shape.Takes shape.blank ms d ∧ shape.finish d = .ok a ∧
      s = b ++ '\x7b' :: (t ++ '\x7d' :: rest) := by
  unfold read at h
  split at h
  · next u heq =>
    obtain ⟨b, hb, rfl⟩ := exists_blanks heq
    obtain ⟨v, hfields, hclose⟩ := closeWith_eq_ok_iff.1 h
    split at hfields
    · cases hfields
    · next draft w hmembers =>
      obtain ⟨hrecord, rfl⟩ := Prod.mk.inj (Except.ok.inj hfields)
      obtain ⟨d, rfl, hfinish⟩ := ofMembers_eq_ok_iff.1 hrecord
      obtain ⟨ms, t, left, hfollows, hvalues, takes, rfl, rfl⟩ :=
        exists_takes_of_members_ok honest hmembers
      rw [closeRecord_closer] at hclose
      obtain rfl := (Closing.mk.inj hclose).1
      exact ⟨ms, d, b, t, hb, hfollows.isBody, hvalues, takes, hfinish, rfl⟩
  · next heq =>
    rw [heq] at hbrace
    cases hbrace
  · cases h

/-- **A text that begins with a brace is read as a record if and only if it is an object**, and
then as what the members of the object come to. -/
theorem parse_eq_ok_iff (honest : shape.Honest) {text : String} :
    (skipBlanks text.toList).head? = some '\x7b' ∧ shape.reader.parse text = .ok a ↔
      ∃ ms d, IsObject ms text.toList ∧ (∀ m ∈ ms, IsValue m.2) ∧
        shape.Takes shape.blank ms d ∧ shape.finish d = .ok a := by
  constructor
  · rintro ⟨hbrace, hparse⟩
    obtain ⟨rest, hread, hrest⟩ := Reader.parse_eq_ok_iff.1 hparse
    obtain ⟨ms, d, b, t, hb, hbody, hvalues, takes, hfinish, htext⟩ :=
      exists_takes_of_read_ok honest hread hbrace
    rw [htext]
    exact ⟨ms, d, .intro hb hbody hrest, hvalues, takes, hfinish⟩
  · rintro ⟨ms, d, object, -, takes, hfinish⟩
    exact ⟨object.head?_skipBlanks, parse_of_isObject object takes hfinish⟩

/-- **An object is read as what its members come to**, and as nothing else. -/
theorem parse_eq_ok_iff_of_isObject (honest : shape.Honest) {text : String}
    {ms : List (List Char × List Char)} (object : IsObject ms text.toList)
    (hvalues : ∀ m ∈ ms, IsValue m.2) :
    shape.reader.parse text = .ok a ↔
      ∃ d, shape.Takes shape.blank ms d ∧ shape.finish d = .ok a := by
  constructor
  · intro hparse
    obtain ⟨ms', d, object', hvalues', takes, hfinish⟩ :=
      (parse_eq_ok_iff honest).1 ⟨object.head?_skipBlanks, hparse⟩
    obtain rfl := object.unique object' hvalues hvalues'
    exact ⟨d, takes, hfinish⟩
  · rintro ⟨d, takes, hfinish⟩
    exact parse_of_isObject object takes hfinish

end Shape

end Json
end MeteredChecker
