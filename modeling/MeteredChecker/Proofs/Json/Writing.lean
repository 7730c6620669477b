import MeteredChecker.Json.Value
import MeteredChecker.Proofs.Json.Record
import Mathlib.Data.List.Perm.Subperm

/-!
# What is written is read back

A value is written in one way, without blanks and with the escapes that are needed, and the
grammar knows of it: a character is written as one of its pieces (`piece_escaped`), and a record
as one of the objects with its members (`isBody_memberChars`).  Nothing more has to be said about
the writer, since the readers have been held against the grammar.

A reader *reads* a text as something if it takes the text off the front, wherever a value may
stand (`Reader.Reads`).  For a record that is a matter of its fields, and the order of the members
does not come into it: a draft only knows which fields have been read, so a step for each of the
members, for whatever has been read before, is enough for every selection of them and for every
order (`Shape.takes_of_subperm`).
-/

namespace MeteredChecker
namespace Json

/-! ## Texts -/

theorem hexDigit_hexDigit : ∀ n < 16, HexDigit (Text.hexDigit n) n := by decide

/-- **A character is written as one of its pieces.** -/
theorem piece_escaped (c : Char) : Piece (escaped c) c := by
  unfold escaped
  split
  · exact .short (by decide)
  · exact .short (by decide)
  · exact .short (by decide)
  · exact .short (by decide)
  · exact .short (by decide)
  · exact .short (by decide)
  · exact .short (by decide)
  · next hquote hbackslash _ _ _ _ _ =>
    split
    · next hcontrol =>
      have hzero : HexDigit '0' 0 := by decide
      have hhigh := hexDigit_hexDigit (c.toNat / 16) (by omega)
      have hlow := hexDigit_hexDigit (c.toNat % 16) (by omega)
      have hvalue : ((0 * 16 + 0) * 16 + c.toNat / 16) * 16 + c.toNat % 16 = c.toNat := by omega
      have hdigits := Hex4.intro hzero hzero hhigh hlow
      rw [hvalue] at hdigits
      exact .number hdigits
    · next hcontrol => exact .plain ⟨by omega, hquote, hbackslash⟩

theorem spells_escaped (text : List Char) : Spells (text.flatMap escaped) text := by
  induction text with
  | nil => exact .nil
  | cons c text ih => exact .cons (piece_escaped c) ih

theorem stringChars_eq (text : List Char) : stringChars text = quoted (text.flatMap escaped) := rfl

/-! ## Records -/

/-- The members of a record that is written, each with the text of its value. -/
def written (ms : List (String × Value)) : List (List Char × List Char) :=
  ms.map fun m => (m.1.toList, m.2.chars)

theorem isMember_chars (name : String) (value : Value) :
    IsMember (name.toList, value.chars) (stringChars name.toList ++ ':' :: value.chars) := by
  have hmember := IsMember.intro (v := value.chars) blanks_nil (spells_escaped name.toList)
    blanks_nil blanks_nil blanks_nil
  rw [List.append_nil] at hmember
  exact hmember

theorem areMembers_memberChars (m : String × Value) (ms : List (String × Value)) :
    AreMembers (written (m :: ms)) (Value.memberChars (m :: ms)) := by
  induction ms generalizing m with
  | nil =>
    rw [Value.memberChars]
    exact .last (isMember_chars m.1 m.2)
  | cons m' ms ih =>
    have htext : Value.memberChars (m :: m' :: ms) =
        (stringChars m.1.toList ++ ':' :: m.2.chars) ++ ',' :: Value.memberChars (m' :: ms) := by
      rw [Value.memberChars]
      exact nofun
    rw [htext]
    exact .more (isMember_chars m.1 m.2) (ih m')

/-- **A record is written as one of the objects with its members.** -/
theorem isBody_memberChars (ms : List (String × Value)) :
    IsBody (written ms) (Value.memberChars ms) := by
  cases ms with
  | nil => exact .empty blanks_nil
  | cons m ms => exact .filled (areMembers_memberChars m ms)

/-- **A record is written as an object** with its members in their order. -/
theorem isObject_render (ms : List (String × Value)) :
    IsObject (written ms) (Value.record ms).render.toList := by
  have htext : (Value.record ms).render.toList =
      [] ++ '\x7b' :: (Value.memberChars ms ++ '\x7d' :: []) := by
    rw [Value.render, String.toList_ofList, Value.chars]
    rfl
  rw [htext]
  exact .intro blanks_nil (isBody_memberChars ms) blanks_nil

/-! ## Reading -/

/-- Wherever a value may stand, a text is read as `a`, with the blanks in front of it. -/
def Reader.Reads {α : Type} (reader : Reader α) (v : List Char) (a : α) : Prop :=
  ∀ b rest, Blanks b → Delimits rest → reader.read (b ++ (v ++ rest)) = .ok (a, rest)

section readers

variable {b : List Char}

theorem skipBlanks_chars (hb : Blanks b) (text : String) (rest : List Char) :
    skipBlanks (b ++ ((Value.text text).chars ++ rest)) = (Value.text text).chars ++ rest := by
  rw [hb.skipBlanks_append, Value.chars, stringChars_eq, quoted_append, skipBlanks_cons rfl]

theorem readString_chars (hb : Blanks b) (wanted text : String) (rest : List Char) :
    readString wanted (b ++ ((Value.text text).chars ++ rest)) = .ok (text, rest) := by
  have hread := readString_append hb (spells_escaped text.toList) wanted rest
  rw [String.ofList_toList] at hread
  exact hread

/-- **A text is read back.** -/
theorem reads_string (text : String) : Reader.string.Reads (Value.text text).chars text :=
  fun _ rest hb _ => readString_chars hb "a string" text rest

theorem reads_optionalString_some (text : String) :
    Reader.optionalString.Reads (Value.text text).chars (some text) := by
  intro b rest hb _
  have hread := readString_chars blanks_nil "a string" text rest
  rw [List.nil_append] at hread
  show readOptionalString (b ++ ((Value.text text).chars ++ rest)) = .ok (some text, rest)
  rw [readOptionalString, skipBlanks_chars hb]
  rw [Value.chars, stringChars_eq, quoted_append] at hread ⊢
  simp [hread]

theorem reads_optionalString_none : Reader.optionalString.Reads Value.null.chars none := by
  intro b rest hb _
  show readOptionalString (b ++ 'n' :: ("ull".toList ++ rest)) = .ok (none, rest)
  rw [readOptionalString, hb.skipBlanks_append, skipBlanks_cons rfl]
  simp [word]

theorem reads_bool (value : Bool) : Reader.bool.Reads (Value.bool value).chars value := by
  intro b rest hb _
  cases value with
  | true =>
    show readBool (b ++ 't' :: ("rue".toList ++ rest)) = .ok (true, rest)
    rw [readBool, hb.skipBlanks_append, skipBlanks_cons rfl]
    simp [word]
  | false =>
    show readBool (b ++ 'f' :: ("alse".toList ++ rest)) = .ok (false, rest)
    rw [readBool, hb.skipBlanks_append, skipBlanks_cons rfl]
    simp [word]

/-- A known name is read as what is known by it. -/
theorem reads_variant {α : Type} {known : List (String × α)} {name : String} {a : α}
    (h : known.lookup name = some a) : (Reader.variant known).Reads (Value.text name).chars a := by
  intro b rest hb _
  have hread := readString_chars blanks_nil "variant identifier" name rest
  rw [List.nil_append] at hread
  show readVariant known (b ++ ((Value.text name).chars ++ rest)) = .ok (a, rest)
  rw [readVariant, skipBlanks_chars hb]
  rw [Value.chars, stringChars_eq, quoted_append] at hread ⊢
  simp [readName, hread, h]

end readers

/-! ## Records of known fields -/

section fields

variable {α : Type} {names : List String} {name : String}

/-- A field of a draft: its value if it is among those that have been read. -/
def fieldIn (names : List String) (name : String) (a : α) : Option α :=
  if name ∈ names then some a else none

theorem fieldIn_of_notMem (h : name ∉ names) (a : α) : fieldIn names name a = none := if_neg h

theorem fieldIn_append_self (names : List String) (name : String) (a : α) :
    fieldIn (names ++ [name]) name a = some a :=
  if_pos (List.mem_append_right names (List.mem_singleton_self name))

theorem fieldIn_append_of_ne {other : String} (h : name ≠ other) (names : List String) (a : α) :
    fieldIn (names ++ [other]) name a = fieldIn names name a := by
  simp only [fieldIn, List.mem_append, List.mem_singleton, h, or_false]

theorem getD_fieldIn (names : List String) (name : String) (a d : α) :
    (fieldIn names name a).getD d = if name ∈ names then a else d :=
  apply_ite (Option.getD · d) _ _ _

end fields

namespace Shape

variable {δ α : Type} {shape : Shape δ α} {d : δ} {a : α}

/-- **A record is read as what its members come to**, as a value of its own in a longer text. -/
theorem reads_record {ms : List (String × Value)} (takes : shape.Takes shape.blank (written ms) d)
    (hfinish : shape.finish d = .ok a) : shape.reader.Reads (Value.record ms).chars a := by
  intro b rest hb _
  have hread := read_append hb (isBody_memberChars ms) takes hfinish rest
  have htext : (Value.record ms).chars ++ rest =
      '\x7b' :: (Value.memberChars ms ++ '\x7d' :: rest) := by
    rw [Value.chars]
    simp only [List.cons_append, List.append_assoc, List.nil_append]
  rw [htext]
  exact hread

/-- **And it is read so as a text of its own.** -/
theorem parse_render {ms : List (String × Value)} (takes : shape.Takes shape.blank (written ms) d)
    (hfinish : shape.finish d = .ok a) : shape.reader.parse (Value.record ms).render = .ok a := by
  have hread := reads_record takes hfinish [] [] blanks_nil nofun
  rw [List.nil_append, List.append_nil] at hread
  have htext : (Value.record ms).render.toList = (Value.record ms).chars := String.toList_ofList
  rw [Reader.parse, htext, hread]
  rfl

/-- A member with a known name does what its reader says. -/
theorem takesOne_of_reads {β : Type} {name : String} {get : δ → Option β} {put : δ → β → δ}
    {reader : Reader β} {value : Value} {x : β} {d' : δ}
    (known : (shape.fields.find? fun f => f.name == name) = some (.of name get put reader))
    (unset : get d = none) (reads : reader.Reads value.chars x) (hput : put d x = d') :
    shape.TakesOne d (name.toList, value.chars) d' := by
  subst hput
  have known' : (shape.fields.find? fun f => f.name == String.ofList name.toList) =
      some (.of name get put reader) := by rwa [String.ofList_toList]
  refine .taken known' ?_ ?_
  · show (get d).isSome = false
    rw [unset]
    rfl
  · exact fun b rest hb hrest => Field.read_of (reads b rest hb hrest) name d

/-- **Members may be left out and may come in any order.**  `draft names` is the draft in which
the fields with these names have been read; what is asked for is what one more member does. -/
theorem takes_of_subperm {full ms : List (String × Value)} (draft : List String → δ)
    (nodup : (full.map Prod.fst).Nodup)
    (step : ∀ m ∈ full, ∀ names, m.1 ∉ names →
      shape.TakesOne (draft names) (m.1.toList, m.2.chars) (draft (names ++ [m.1])))
    (selected : ms.Subperm full) :
    shape.Takes (draft []) (written ms) (draft (ms.map Prod.fst)) := by
  -- the names that have been read stand in front of those that are still to be read
  have hfrom (done : List String) (fresh : (done ++ ms.map Prod.fst).Nodup)
      (known : ∀ m ∈ ms, m ∈ full) :
      shape.Takes (draft done) (written ms) (draft (done ++ ms.map Prod.fst)) := by
    clear selected
    induction ms generalizing done with
    | nil =>
      rw [List.map_nil, List.append_nil]
      exact .nil _
    | cons m ms ih =>
      obtain ⟨hm, hms⟩ := List.forall_mem_cons.1 known
      have hsplit : done ++ (m :: ms).map Prod.fst = (done ++ [m.1]) ++ ms.map Prod.fst := by
        rw [List.map_cons, List.append_assoc, List.singleton_append]
      rw [hsplit] at fresh ⊢
      have hunread : m.1 ∉ done := by
        have hdone := (List.nodup_append.1 fresh).1
        exact fun h => (List.nodup_append.1 hdone).2.2 _ h _ List.mem_cons_self rfl
      exact .cons (step m hm done hunread) (ih (done ++ [m.1]) fresh hms)
  obtain ⟨l, hperm, hsublist⟩ := id selected
  have hnames : (ms.map Prod.fst).Nodup :=
    (hperm.map Prod.fst).nodup_iff.1 ((hsublist.map Prod.fst).nodup nodup)
  exact hfrom [] hnames selected.subset

end Shape

end Json
end MeteredChecker
