import MeteredChecker.Proofs.Json.Skip

/-!
# Objects are read as records

The members of an object may come in any order and among others.  What reading them amounts
to is one step for each: a member with a name that is not known is passed over and changes
nothing, and one with a name that is known has its value read into the draft, which has to
have no such value yet.  `Shape.Takes` says that and nothing about characters.

Then every text in which an object with these members can be written is read as the same
record (`Shape.parse_of_isObject`), whatever the blanks between the tokens are and however the
names are spelled.
-/

namespace MeteredChecker
namespace Json

/-! ## What members do to a draft -/

section takes

variable {δ α : Type}

/-- What a member does to a draft. -/
inductive Shape.TakesOne (shape : Shape δ α) : δ → List Char × List Char → δ → Prop
  | passed {d : δ} {name v : List Char}
      (unknown : ∀ field ∈ shape.fields, field.name ≠ String.ofList name) (hv : IsValue v) :
      shape.TakesOne d (name, v) d
  | taken {d d' : δ} {name v : List Char} {field : Field δ}
      (known : (shape.fields.find? fun f => f.name == String.ofList name) = some field)
      (unset : field.isSet d = false)
      (hv : ∀ b rest, Blanks b → Delimits rest →
        (field.set d).read (b ++ (v ++ rest)) = .ok (d', rest)) :
      shape.TakesOne d (name, v) d'

/-- What members do to a draft, one after the other. -/
inductive Shape.Takes (shape : Shape δ α) : δ → List (List Char × List Char) → δ → Prop
  | nil (d : δ) : shape.Takes d [] d
  | cons {d d' d'' : δ} {m : List Char × List Char} {ms : List (List Char × List Char)}
      (hm : shape.TakesOne d m d') (hms : shape.Takes d' ms d'') : shape.Takes d (m :: ms) d''

theorem Shape.Takes.append {shape : Shape δ α} {d d' d'' : δ}
    {ms ms' : List (List Char × List Char)} (h : shape.Takes d ms d')
    (h' : shape.Takes d' ms' d'') : shape.Takes d (ms ++ ms') d'' := by
  induction h with
  | nil => exact h'
  | cons hm _ ih => exact .cons hm (ih h')

/-- Members that nobody knows do nothing. -/
theorem Shape.takes_of_unknown {shape : Shape δ α} {ms : List (List Char × List Char)}
    (unknown : ∀ m ∈ ms, (∀ field ∈ shape.fields, field.name ≠ String.ofList m.1) ∧ IsValue m.2)
    (d : δ) : shape.Takes d ms d := by
  induction ms with
  | nil => exact .nil d
  | cons m ms ih =>
    obtain ⟨⟨hm, hv⟩, hms⟩ := List.forall_mem_cons.1 unknown
    exact .cons (.passed hm hv) (ih hms)

end takes

/-! ## Names -/

/-- What stands in front of a member: nothing if it is the first, and otherwise a comma. -/
inductive Enters : Bool → List Char → Prop
  | first : Enters true []
  | later {b : List Char} (hb : Blanks b) : Enters false (b ++ [','])

theorem nextName_end (first : Bool) {b : List Char} (hb : Blanks b) (rest : List Char) :
    nextName first (b ++ '\x7d' :: rest) = .ok (none, '\x7d' :: rest) := by
  rw [nextName, hb.skipBlanks_append, skipBlanks_cons rfl]
  rfl

/-- **A name is read as the text that it denotes.** -/
theorem nextName_append {first : Bool} {lead b body name : List Char} (hlead : Enters first lead)
    (hb : Blanks b) (hname : Spells body name) (rest : List Char) :
    nextName first (lead ++ (b ++ (quoted body ++ rest))) =
      .ok (some (String.ofList name), rest) := by
  have hread := string_append hname rest
  rw [quoted_append]
  cases hlead with
  | first =>
    rw [List.nil_append, nextName, hb.skipBlanks_append, skipBlanks_cons rfl]
    simp [hread]
  | later hb' =>
    rw [List.append_assoc, nextName, hb'.skipBlanks_append, List.singleton_append,
      skipBlanks_cons rfl]
    simp [hb.skipBlanks_append, skipBlanks_cons (c := '"') rfl, hread]

/-! ## Members -/

section members

variable {δ α : Type} {shape : Shape δ α} {first : Bool} {d d' : δ} {s rest value : List Char}
  {name : String}

theorem members_end (hname : nextName first s = .ok (none, rest)) :
    members shape first d s = .ok (.ok d, rest) := by
  rw [members]
  split
  · next heq => rw [hname] at heq; cases heq
  · next heq => rw [hname] at heq; cases heq; rfl
  · next heq => rw [hname] at heq; cases heq

theorem members_unknown {left : List Char} (hname : nextName first s = .ok (some name, rest))
    (unknown : shape.fields.find? (fun f => f.name == name) = none)
    (hcolon : colon rest = .ok value) (hskip : skip value = .ok left) :
    members shape first d s = members shape false d left := by
  conv => lhs; rw [members]
  split
  · next heq => rw [hname] at heq; cases heq
  · next heq => rw [hname] at heq; cases heq
  · next heq =>
    rw [hname] at heq
    cases heq
    rw [unknown]
    dsimp only
    split
    · next heq => rw [hcolon] at heq; cases heq
    · next heq =>
      rw [hcolon] at heq
      cases heq
      split
      · next heq => rw [hskip] at heq; cases heq
      · next heq => rw [hskip] at heq; cases heq; rfl

theorem members_known {left : List Char} {field : Field δ}
    (hname : nextName first s = .ok (some name, rest))
    (known : shape.fields.find? (fun f => f.name == name) = some field)
    (unset : field.isSet d = false) (hcolon : colon rest = .ok value)
    (hread : (field.set d).read value = .ok (d', left)) :
    members shape first d s = members shape false d' left := by
  conv => lhs; rw [members]
  split
  · next heq => rw [hname] at heq; cases heq
  · next heq => rw [hname] at heq; cases heq
  · next heq =>
    rw [hname] at heq
    cases heq
    rw [known]
    dsimp only
    rw [if_neg (by simp [unset])]
    split
    · next heq => rw [hcolon] at heq; cases heq
    · next heq =>
      rw [hcolon] at heq
      cases heq
      split
      · next heq => rw [hread] at heq; cases heq
      · next heq => rw [hread] at heq; cases heq; rfl

/-- **One member is read**, and the blanks behind it are left. -/
theorem members_member {m : List Char × List Char} {lead : List Char} (hlead : Enters first lead)
    (hs : IsMember m s) (takes : shape.TakesOne d m d') (hrest : Delimits rest) :
    ∃ b, Blanks b ∧
      members shape first d (lead ++ (s ++ rest)) = members shape false d' (b ++ rest) := by
  obtain ⟨hb, hname, hb₁, hb₂, hb₃⟩ := hs
  rename_i b body name b₁ b₂ v b₃
  refine ⟨b₃, hb₃, ?_⟩
  have htext : lead ++ (b ++ (quoted body ++ (b₁ ++ ':' :: (b₂ ++ (v ++ b₃)))) ++ rest) =
      lead ++ (b ++ (quoted body ++ (b₁ ++ ':' :: (b₂ ++ (v ++ (b₃ ++ rest)))))) := by
    simp only [List.append_assoc, List.cons_append]
  rw [htext]
  have hread := nextName_append hlead hb hname (b₁ ++ ':' :: (b₂ ++ (v ++ (b₃ ++ rest))))
  have hcolon := colon_append hb₁ (b₂ ++ (v ++ (b₃ ++ rest)))
  have hdelimits := hb₃.delimits_append hrest
  cases takes with
  | passed unknown hv =>
    refine members_unknown hread ?_ hcolon (skip_append hb₂ hv hdelimits)
    exact List.find?_eq_none.2 fun field hfield => by simpa using unknown field hfield
  | taken known unset hv => exact members_known hread known unset hcolon (hv b₂ _ hb₂ hdelimits)

theorem members_append {ms : List (List Char × List Char)} {lead : List Char}
    (hs : AreMembers ms s) (hlead : Enters first lead) (takes : shape.Takes d ms d')
    (rest : List Char) :
    members shape first d (lead ++ (s ++ '\x7d' :: rest)) = .ok (.ok d', '\x7d' :: rest) := by
  induction hs generalizing first lead d with
  | last hs =>
    cases takes with
    | cons hm hms =>
      cases hms
      obtain ⟨b, hb, hread⟩ := members_member hlead hs hm (delimits_closer .record rest)
      exact hread.trans (members_end (nextName_end false hb rest))
  | @more m ms s t hs ht ih =>
    cases takes with
    | cons hm hms =>
      obtain ⟨b, hb, hread⟩ :=
        members_member hlead hs hm (delimits_comma (t ++ '\x7d' :: rest))
      have hlater := ih (.later hb) hms
      rw [List.append_assoc, List.singleton_append] at hlater
      rw [List.append_assoc, List.cons_append]
      exact hread.trans hlater

end members

/-! ## Fields -/

/-- **A string is read as the text that it denotes**, with the blanks in front of it. -/
theorem readString_append {b body text : List Char} (hb : Blanks b) (hbody : Spells body text)
    (wanted : String) (rest : List Char) :
    readString wanted (b ++ (quoted body ++ rest)) = .ok (String.ofList text, rest) := by
  rw [quoted_append, readString, hb.skipBlanks_append, skipBlanks_cons rfl]
  simp [string_append hbody rest]

theorem Field.read_of {δ α : Type} {get : δ → Option α} {put : δ → α → δ} {reader : Reader α}
    {s rest : List Char} {a : α} (hread : reader.read s = .ok (a, rest)) (name : String) (d : δ) :
    ((Field.of name get put reader).set d).read s = .ok (put d a, rest) := by
  simp only [Field.of, hread]

/-! ## Records -/

/-- An object begins with a brace, blanks apart. -/
theorem IsObject.head?_skipBlanks {ms : List (List Char × List Char)} {s : List Char}
    (object : IsObject ms s) : (skipBlanks s).head? = some '\x7b' := by
  obtain ⟨hb, -, -⟩ := object
  rw [hb.skipBlanks_append, skipBlanks_cons rfl]
  rfl

/-- What begins with another character than a byte-order mark, blanks apart, has no such mark. -/
theorem unmarked_of_head?_skipBlanks {s : List Char} {c : Char}
    (h : (skipBlanks s).head? = some c) (hc : c ≠ '\uFEFF') : s.head? ≠ some '\uFEFF' := by
  intro hmark
  cases s with
  | nil => cases hmark
  | cons d t =>
    obtain rfl := Option.some.inj hmark
    rw [skipBlanks_cons rfl] at h
    exact hc (Option.some.inj h).symm

namespace Shape

variable {δ α : Type} {shape : Shape δ α} {d : δ} {a : α} {ms : List (List Char × List Char)}

/-- **An object is read as the record that its members come to.** -/
theorem read_append {b s : List Char} (hb : Blanks b) (hs : IsBody ms s)
    (takes : shape.Takes shape.blank ms d) (hfinish : shape.finish d = .ok a) (rest : List Char) :
    shape.read (b ++ '\x7b' :: (s ++ '\x7d' :: rest)) = .ok (a, rest) := by
  have hmembers : members shape true shape.blank (s ++ '\x7d' :: rest) =
      .ok (.ok d, '\x7d' :: rest) := by
    cases hs with
    | empty hb =>
      cases takes
      exact members_end (nextName_end true hb rest)
    | filled hs => exact members_append hs .first takes rest
  have hclose : closeRecord ('\x7d' :: rest) = ⟨rest, none⟩ := by
    rw [closeRecord, skipBlanks_cons rfl]
    rfl
  have hrecord : shape.ofMembers (.ok d) = .ok a := by
    rw [ofMembers, hfinish]
    rfl
  rw [read, hb.skipBlanks_append, skipBlanks_cons rfl]
  split
  · next heq =>
    obtain ⟨-, rfl⟩ := List.cons.inj heq
    rw [hmembers]
    dsimp only
    rw [hrecord, closeWith, hclose]
  · next heq => cases heq
  · next hother _ => exact absurd rfl (hother _)

/-- **However an object is written, it is read as the same record.** -/
theorem parse_of_isObject {text : String} (object : IsObject ms text.toList)
    (takes : shape.Takes shape.blank ms d) (hfinish : shape.finish d = .ok a) :
    shape.reader.parse text = .ok a := by
  obtain ⟨b, s, b', hb, hs, hb', htext⟩ : ∃ b s b', Blanks b ∧ IsBody ms s ∧ Blanks b' ∧
      text.toList = b ++ '\x7b' :: (s ++ '\x7d' :: b') := by
    generalize text.toList = t at object
    cases object with
    | intro hb hs hb' => exact ⟨_, _, _, hb, hs, hb', rfl⟩
  have hread : shape.reader.read text.toList = .ok (a, b') :=
    htext ▸ read_append hb hs takes hfinish b'
  have hblanks : skipBlanks b' = [] := by
    rw [← List.append_nil b', hb'.skipBlanks_append]
    rfl
  rw [Reader.parse, hread]
  dsimp only
  rw [hblanks]

end Shape

end Json
end MeteredChecker
