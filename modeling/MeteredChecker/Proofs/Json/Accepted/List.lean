import MeteredChecker.Proofs.Json.Accepted.Record

/-!
# Records that are lists

A record need not come as an object.  Its fields may also come without their names, as the
elements of a list, in the order in which they are declared.  Nobody writes records so, but they
are read so, and if it is to be said from which texts a record is read, then lists have to be
among them.

The fields take the elements one by one, and what they make of a draft is `Fills`.  Reading ends
behind the last field and not at the end of the list, so it is the closing bracket that finds an
element too many, while one too few is found by counting.  Records whose fields may all be absent
do not count, and they are left out here.

With that it can be said what a record is read from, whatever the text begins with: from an
object or a list of which the record is what it comes to, and from nothing else
(`Shape.parse_eq_ok_iff_or`).
-/

namespace MeteredChecker
namespace Json

variable {s rest : List Char}

/-! ## Lists -/

/-- Elements in their order, with what stands in front of each. -/
inductive AreElements : Bool → List (List Char) → List Char → Prop
  | nil (first : Bool) : AreElements first [] []
  | cons {first : Bool} {lead b v s : List Char} {vs : List (List Char)}
      (hlead : Enters first lead) (hb : Blanks b) (hv : IsValue v) (hs : AreElements false vs s) :
      AreElements first (v :: vs) (lead ++ (b ++ (v ++ s)))

/-- A list, with its elements in their order. -/
inductive IsList : List (List Char) → List Char → Prop
  | intro {vs : List (List Char)} {b s b₁ b₂ : List Char} (hb : Blanks b)
      (hs : AreElements true vs s) (hb₁ : Blanks b₁) (hb₂ : Blanks b₂) :
      IsList vs (b ++ '[' :: (s ++ (b₁ ++ ']' :: b₂)))

/-- Behind an element it may end. -/
theorem AreElements.delimits_append {vs : List (List Char)} (hs : AreElements false vs s)
    (hrest : Delimits rest) : Delimits (s ++ rest) := by
  cases hs with
  | nil => exact hrest
  | cons hlead =>
    obtain - | hb := hlead
    rw [List.append_assoc, List.append_assoc, List.singleton_append]
    exact hb.delimits_append (delimits_comma _)

theorem AreElements.isValue_of_mem {first : Bool} {vs : List (List Char)}
    (hs : AreElements first vs s) : ∀ v ∈ vs, IsValue v := by
  induction hs with
  | nil => exact List.forall_mem_nil _
  | cons _ _ hv _ ih => exact List.forall_mem_cons.2 ⟨hv, ih⟩

/-- A list begins with a bracket, blanks apart. -/
theorem IsList.head?_skipBlanks {vs : List (List Char)} (list : IsList vs s) :
    (skipBlanks s).head? = some '[' := by
  obtain ⟨hb, -, -, -⟩ := list
  rw [hb.skipBlanks_append, skipBlanks_cons rfl]
  rfl

theorem IsList.isValue_of_mem {vs : List (List Char)} (list : IsList vs s) :
    ∀ v ∈ vs, IsValue v := by
  obtain ⟨-, hs, -, -⟩ := list
  exact hs.isValue_of_mem

/-! ## Elements -/

/-- What elements do to a draft: the fields take one each, in their order. -/
inductive Fills {δ : Type} : List (Field δ) → δ → List (List Char) → δ → Prop
  | nil (d : δ) : Fills [] d [] d
  | cons {field : Field δ} {fields : List (Field δ)} {d d' d'' : δ} {v : List Char}
      {vs : List (List Char)} (hv : (field.set d).Reads v d') (hvs : Fills fields d' vs d'') :
      Fills (field :: fields) d (v :: vs) d''

theorem nextElement_append {first : Bool} {lead b v : List Char} (hlead : Enters first lead)
    (hb : Blanks b) (hv : IsValue v) (rest : List Char) :
    nextElement first (lead ++ (b ++ (v ++ rest))) = .ok (true, v ++ rest) := by
  obtain ⟨c, t, rfl, hc, hclosers⟩ := hv.exists_cons
  have hend : c ≠ ']' := hclosers .list
  cases hlead with
  | first =>
    rw [List.nil_append, nextElement, hb.skipBlanks_append, List.cons_append, skipBlanks_cons hc]
    simp [hend]
  | later hb' =>
    rw [List.append_assoc, nextElement, hb'.skipBlanks_append, List.singleton_append,
      skipBlanks_cons rfl]
    simp [hb.skipBlanks_append, skipBlanks_cons hc, hend]

theorem exists_enters_of_nextElement_ok {first : Bool}
    (h : nextElement first s = .ok (true, rest)) :
    ∃ lead b, Enters first lead ∧ Blanks b ∧ s = lead ++ (b ++ rest) := by
  unfold nextElement at h
  split at h
  · cases h
  · next c t heq =>
    obtain ⟨b, hb, rfl⟩ := exists_blanks heq
    split_ifs at h with hend hfirst hcomma
    · cases h
    · obtain rfl := hfirst
      obtain ⟨-, rfl⟩ := Prod.mk.inj (Except.ok.inj h)
      exact ⟨[], b, .first, hb, rfl⟩
    · obtain rfl := hcomma
      obtain rfl := eq_false_of_ne_true hfirst
      split at h
      · cases h
      · next c' t' heq' =>
        obtain ⟨b', hb', rfl⟩ := exists_blanks heq'
        split_ifs at h
        obtain ⟨-, rfl⟩ := Prod.mk.inj (Except.ok.inj h)
        exact ⟨b ++ [','], b', .later hb, hb', by simp⟩

section fields

variable {δ : Type} {fields : List (Field δ)} {first : Bool} {d d' : δ} {vs : List (List Char)}

/-- **Elements are read into the draft that they come to**, if there is one for each field. -/
theorem elements_append (fills : Fills fields d vs d') (hs : AreElements first vs s)
    (hrest : Delimits rest) :
    elements first d fields (s ++ rest) = .ok ((d', fields.length), rest) := by
  induction fills generalizing first s with
  | nil d =>
    cases hs
    rfl
  | cons hv _ ih =>
    cases hs with
    | @cons _ lead b v t _ hlead hb hvalue hs =>
      have hread := hv [] (t ++ rest) blanks_nil (hs.delimits_append hrest)
      rw [List.nil_append] at hread
      rw [List.append_assoc, List.append_assoc, List.append_assoc, elements,
        nextElement_append hlead hb hvalue]
      simp only [hread, ih hs, List.length_cons]

/-- **Where all fields are read from elements there are elements**, and the draft is what they
come to. -/
theorem exists_fills_of_elements_ok (honest : ∀ field ∈ fields, ∀ d, (field.set d).Honest)
    {n : Nat} (h : elements first d fields s = .ok ((d', n), rest)) (all : fields.length ≤ n) :
    ∃ vs t, AreElements first vs t ∧ Fills fields d vs d' ∧ s = t ++ rest := by
  induction fields generalizing first d s n with
  | nil =>
    obtain ⟨hd, rfl⟩ := Prod.mk.inj (Except.ok.inj h)
    obtain ⟨rfl, -⟩ := Prod.mk.inj hd
    exact ⟨[], [], .nil first, .nil d, rfl⟩
  | cons field fields ih =>
    rw [elements] at h
    split at h
    · cases h
    · obtain ⟨-, rfl⟩ := Prod.mk.inj (Prod.mk.inj (Except.ok.inj h)).1
      cases all
    · next hnext =>
      split at h
      · cases h
      · next hread =>
        split at h
        · cases h
        · next hlater =>
          obtain ⟨hd, rfl⟩ := Prod.mk.inj (Except.ok.inj h)
          obtain ⟨rfl, rfl⟩ := Prod.mk.inj hd
          obtain ⟨hfield, hfields⟩ := List.forall_mem_cons.1 honest
          obtain ⟨lead, b, hlead, hb, rfl⟩ := exists_enters_of_nextElement_ok hnext
          obtain ⟨b', v, hb', hv, rfl, reads⟩ := hfield d _ _ _ hread
          obtain ⟨vs, t, hs, fills, rfl⟩ := ih hfields hlater (Nat.le_of_succ_le_succ all)
          exact ⟨v :: vs, _, .cons hlead (hb.append hb') hv hs, .cons reads fills, by simp⟩

end fields

/-! ## Records -/

theorem closeList_eq_iff :
    closeList s = ⟨rest, none⟩ ↔ ∃ b, Blanks b ∧ s = b ++ ']' :: rest := by
  constructor
  · intro h
    unfold closeList at h
    split at h
    · cases h
    · next c t heq =>
      obtain ⟨b, hb, rfl⟩ := exists_blanks heq
      split_ifs at h with hend hcomma
      · obtain rfl := hend
        obtain rfl := (Closing.mk.inj h).1
        exact ⟨b, hb, rfl⟩
      · dsimp only at h
        split_ifs at h
        all_goals cases h
      · cases h
  · rintro ⟨b, hb, rfl⟩
    rw [closeList, hb.skipBlanks_append, skipBlanks_cons rfl]
    rfl

namespace Shape

variable {δ α : Type} {shape : Shape δ α} {a : α} {text : String}

/-- A record that must have its fields needs an element for each. -/
theorem ofElements_eq_ok_iff (strict : shape.lenient = false) {d : δ} {n : Nat} :
    shape.ofElements d n = .ok a ↔ shape.fields.length ≤ n ∧ shape.finish d = .ok a := by
  by_cases hfew : n < shape.fields.length
  · simp [ofElements, hfew, strict, Nat.not_le.2 hfew]
  · cases hfinish : shape.finish d <;>
      simp [ofElements, hfew, hfinish, Nat.not_lt.1 hfew, Except.mapError]

/-- A record begins as an object or as a list. -/
theorem head?_skipBlanks_of_read_ok (h : shape.read s = .ok (a, rest)) :
    (skipBlanks s).head? = some '\x7b' ∨ (skipBlanks s).head? = some '[' := by
  unfold read at h
  split at h
  · next heq =>
    rw [heq]
    exact .inl rfl
  · next heq =>
    rw [heq]
    exact .inr rfl
  · cases h

/-- A record is read from a list, if it begins as one. -/
theorem exists_fills_of_read_ok (honest : shape.Honest) (strict : shape.lenient = false)
    (h : shape.read s = .ok (a, rest)) (hbracket : (skipBlanks s).head? = some '[') :
    ∃ vs d b t b₁, Blanks b ∧ AreElements true vs t ∧ Blanks b₁ ∧
      Fills shape.fields shape.blank vs d ∧ shape.finish d = .ok a ∧
      s = b ++ '[' :: (t ++ (b₁ ++ ']' :: rest)) := by
  unfold read at h
  split at h
  · next heq =>
    rw [heq] at hbracket
    cases hbracket
  · next u heq =>
    obtain ⟨b, hb, rfl⟩ := exists_blanks heq
    obtain ⟨v, hfields, hclose⟩ := closeWith_eq_ok_iff.1 h
    obtain ⟨b₁, hb₁, rfl⟩ := closeList_eq_iff.1 hclose
    split at hfields
    · cases hfields
    · next d n w helements =>
      obtain ⟨hrecord, rfl⟩ := Prod.mk.inj (Except.ok.inj hfields)
      obtain ⟨hall, hfinish⟩ := (ofElements_eq_ok_iff strict).1 hrecord
      obtain ⟨vs, t, hs, fills, rfl⟩ := exists_fills_of_elements_ok honest helements hall
      exact ⟨vs, d, b, t, b₁, hb, hs, hb₁, fills, hfinish, rfl⟩
  · cases h

/-- **A list is read as the record that its elements come to.** -/
theorem parse_of_isList (strict : shape.lenient = false) {vs : List (List Char)} {d : δ}
    (list : IsList vs text.toList) (fills : Fills shape.fields shape.blank vs d)
    (hfinish : shape.finish d = .ok a) : shape.reader.parse text = .ok a := by
  generalize htext : text.toList = u at list
  obtain ⟨hb, hs, hb₁, hb₂⟩ := list
  rename_i b t b₁ b₂
  have hrest : Delimits (b₁ ++ ']' :: b₂) := hb₁.delimits_append (delimits_closer .list b₂)
  have hrecord : shape.ofElements d shape.fields.length = .ok a :=
    (ofElements_eq_ok_iff strict).2 ⟨Nat.le_refl _, hfinish⟩
  refine Reader.parse_eq_ok_iff.2 ⟨b₂, ?_, hb₂⟩
  show shape.read text.toList = _
  rw [htext, read, hb.skipBlanks_append, skipBlanks_cons rfl]
  refine closeWith_eq_ok_iff.2 ⟨_, ?_, closeList_eq_iff.2 ⟨b₁, hb₁, rfl⟩⟩
  rw [elements_append fills hs hrest]
  exact congrArg (fun record => Except.ok (record, _)) hrecord

/-- **A record that must have its fields is read from objects and from lists**, as what the
members or the elements come to, and from no other text. -/
theorem parse_eq_ok_iff_or (honest : shape.Honest) (strict : shape.lenient = false) :
    shape.reader.parse text = .ok a ↔
      (∃ ms d, IsObject ms text.toList ∧ (∀ m ∈ ms, IsValue m.2) ∧
        shape.Takes shape.blank ms d ∧ shape.finish d = .ok a) ∨
      ∃ vs d, IsList vs text.toList ∧ Fills shape.fields shape.blank vs d ∧
        shape.finish d = .ok a := by
  constructor
  · intro hparse
    obtain ⟨rest, hread, hrest⟩ := Reader.parse_eq_ok_iff.1 hparse
    rcases head?_skipBlanks_of_read_ok hread with hbrace | hbracket
    · exact .inl ((parse_eq_ok_iff honest).1 ⟨hbrace, hparse⟩)
    · obtain ⟨vs, d, b, t, b₁, hb, hs, hb₁, fills, hfinish, htext⟩ :=
        exists_fills_of_read_ok honest strict hread hbracket
      rw [htext]
      exact .inr ⟨vs, d, .intro hb hs hb₁ hrest, fills, hfinish⟩
  · rintro (⟨ms, d, object, -, takes, hfinish⟩ | ⟨vs, d, list, fills, hfinish⟩)
    · exact parse_of_isObject object takes hfinish
    · exact parse_of_isList strict list fills hfinish

end Shape

end Json
end MeteredChecker
