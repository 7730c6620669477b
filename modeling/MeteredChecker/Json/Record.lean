import MeteredChecker.Json.Reader

/-!
# Reading records

A record of known fields comes in one of two forms: as a JSON object, whose
members may stand in any order and among members that nobody knows, or as a JSON
list of the fields in the order in which they are declared.

While a record is being read its fields are kept in a *draft*, where a field may
still be absent.  A `Shape` describes a type of record: its fields, each with a
reader into the draft, and how a draft becomes a record --- or which field keeps
it from becoming one.  A shape is lenient if all its fields may be absent.

## Which fault is reported

When a field is missing, or comes twice, or the list is too short, that is found
out while the text is in good order.  The closing bracket is then read all the
same, and the fault is reported *behind* it, wherever that turns out to be; only
if the fields were all right is a fault of the closing bracket a fault of the
record.  A fault inside a field or between the fields is reported where it is.
-/

namespace MeteredChecker
namespace Json

/-- A field of a record whose draft is a `δ`. -/
structure Field (δ : Type) where
  name : String
  isSet : δ → Bool
  set : δ → Reader δ

/-- A field with a reader for its value. -/
def Field.of {δ α : Type} (name : String) (get : δ → Option α) (put : δ → α → δ)
    (reader : Reader α) : Field δ where
  name := name
  isSet := fun d => (get d).isSome
  set := fun d =>
    { read := fun s =>
        match reader.read s with
        | .error f => .error f
        | .ok (a, rest) => .ok (put d a, rest)
      within := by
        intro s
        split
        · exact .error
        · next h => exact .ok (reader.within _ _ _ h) }

/-- A type of record. -/
structure Shape (δ α : Type) where
  title : String
  blank : δ
  fields : List (Field δ)
  lenient : Bool
  /-- The record of a draft, or the name of the first field that is missing. -/
  finish : δ → Except String α

/-- What the fields of a record come to, when the text was in good order. -/
abbrev Draft (δ : Type) := Except Misfit δ

/-! ## Closing brackets -/

/-- Where reading a closing bracket ends, and whether there was one. -/
structure Closing where
  rest : List Char
  fault : Option Fault

/-- Reads the end of an object. -/
def closeRecord (s : List Char) : Closing :=
  match skipBlanks s with
  | [] => ⟨[], some (.past .endInRecord [])⟩
  | c :: rest =>
      if c = '\x7d' then ⟨rest, none⟩
      else if c = ',' then ⟨c :: rest, some (.past .trailingComma (c :: rest))⟩
      else ⟨c :: rest, some (.past .trailingCharacters (c :: rest))⟩

/-- Reads the end of a list. -/
def closeList (s : List Char) : Closing :=
  match skipBlanks s with
  | [] => ⟨[], some (.past .endInList [])⟩
  | c :: rest =>
      if c = ']' then ⟨rest, none⟩
      else if c = ',' then
        let rest := skipBlanks rest
        if rest.head? = some ']' then ⟨rest, some (.past .trailingComma rest)⟩
        else ⟨rest, some (.past .trailingCharacters rest)⟩
      else ⟨c :: rest, some (.past .trailingCharacters (c :: rest))⟩

theorem length_closeRecord_le (s : List Char) : (closeRecord s).rest.length ≤ s.length := by
  have hs := length_skipBlanks_le s
  unfold closeRecord
  split
  · simp
  · next heq =>
      rw [heq] at hs
      simp only [List.length_cons] at hs
      split
      · simp only; omega
      · split <;> simpa using hs

theorem length_closeList_le (s : List Char) : (closeList s).rest.length ≤ s.length := by
  have hs := length_skipBlanks_le s
  unfold closeList
  split
  · simp
  · next rest heq =>
      rw [heq] at hs
      simp only [List.length_cons] at hs
      have hr := length_skipBlanks_le rest
      split
      · simp only; omega
      · split
        · simp only
          split <;> (simp only; omega)
        · simpa using hs

/-- Joins what the fields came to with the closing bracket behind them. -/
def closeWith {α : Type} (close : List Char → Closing) (fields : Result (Except Misfit α)) :
    Result α :=
  match fields with
  | .error f => .error f
  | .ok (.error m, s) => .error (.here (.misfit m) (close s).rest)
  | .ok (.ok a, s) =>
      match (close s).fault with
      | some f => .error f
      | none => .ok (a, (close s).rest)

theorem within_closeWith {α : Type} {close : List Char → Closing} {n : Nat}
    {fields : Result (Except Misfit α)} (hclose : ∀ s, (close s).rest.length ≤ s.length)
    (h : fields.Within n) : (closeWith close fields).Within n := by
  unfold closeWith
  split
  · exact .error
  · exact .error
  · next a s =>
      split
      · exact .error
      · exact .ok (Nat.le_trans (hclose s) (h _ _ rfl))

/-! ## Objects -/

/-- Reads the name of the next member, in front of its colon, or finds the end of
the object.  `first` says that no member has been read yet. -/
def nextName (first : Bool) (s : List Char) : Result (Option String) :=
  let name := fun s : List Char =>
    match s with
    | '"' :: rest =>
        match string rest with
        | .error f => (.error f : Result (Option String))
        | .ok (t, rest) => .ok (some (String.ofList t), rest)
    | s => .error (.past .noKey s)
  match skipBlanks s with
  | [] => .error (.past .endInRecord [])
  | c :: rest =>
      if c = '\x7d' then .ok (none, c :: rest)
      else if first then name (c :: rest)
      else if c = ',' then
        match skipBlanks rest with
        | [] => .error (.past .endInValue [])
        | d :: rest =>
            if d = '\x7d' then .error (.past .trailingComma (d :: rest)) else name (d :: rest)
      else .error (.past .noRecordEnd (c :: rest))

theorem length_nextName_le {first : Bool} {s r : List Char} {n : Option String}
    (h : nextName first s = .ok (n, r)) :
    r.length ≤ s.length ∧ (n.isSome → r.length < s.length) := by
  have hname : ∀ t : List Char, t.length ≤ s.length →
      (match t with
        | '"' :: rest =>
            match string rest with
            | .error f => (.error f : Result (Option String))
            | .ok (t, rest) => .ok (some (String.ofList t), rest)
        | t => .error (.past .noKey t)) = .ok (n, r) →
      r.length ≤ s.length ∧ (n.isSome → r.length < s.length) := by
    intro t ht h
    split at h
    · split at h
      · simp at h
      · next hstr =>
          have := within_string _ _ _ hstr
          simp only [Except.ok.injEq, Prod.mk.injEq] at h
          simp only [List.length_cons] at ht
          rw [← h.2]
          exact ⟨by omega, fun _ => by omega⟩
    · simp at h
  have hs := length_skipBlanks_le s
  unfold nextName at h
  simp only at h
  split at h
  · simp at h
  · next c rest heq =>
      rw [heq] at hs
      split at h
      · simp only [Except.ok.injEq, Prod.mk.injEq] at h
        rw [← h.2, ← h.1]
        exact ⟨hs, by simp⟩
      · split at h
        · exact hname _ hs h
        · split at h
          · have hr := length_skipBlanks_le rest
            simp only [List.length_cons] at hs
            split at h
            · simp at h
            · next heq' =>
                rw [heq'] at hr
                split at h
                · simp at h
                · exact hname _ (by omega) h
          · simp at h

/-- Reads the members of an object up to its closing bracket. -/
def members {δ α : Type} (shape : Shape δ α) (first : Bool) (d : δ) (s : List Char) :
    Result (Draft δ) :=
  match hn : nextName first s with
  | .error f => .error f
  | .ok (none, rest) => .ok (.ok d, rest)
  | .ok (some name, rest) =>
      have hlt : rest.length < s.length := (length_nextName_le hn).2 rfl
      match shape.fields.find? fun f => f.name == name with
      | none =>
          match hc : colon rest with
          | .error f => .error f
          | .ok value =>
              match hv : skip value with
              | .error f => .error f
              | .ok rest =>
                  have : rest.length < s.length := by
                    have h1 := length_colon_lt hc
                    have h2 := length_skip_le hv
                    omega
                  members shape false d rest
      | some field =>
          if field.isSet d then .ok (.error (.duplicateField name), rest)
          else
            match hc : colon rest with
            | .error f => .error f
            | .ok value =>
                match hv : (field.set d).read value with
                | .error f => .error f
                | .ok (d, rest) =>
                    have : rest.length < s.length := by
                      have h1 := length_colon_lt hc
                      have h2 := (field.set _).within _ _ _ hv
                      omega
                    members shape false d rest
  termination_by s.length

theorem within_members {δ α : Type} (shape : Shape δ α) (first : Bool) (d : δ)
    (s : List Char) :
    (members shape first d s).Within s.length := by
  fun_induction members shape first d s with
  | case1 | case3 | case4 | case7 | case8 => exact .error
  | case2 _ _ _ _ hn => exact .ok (length_nextName_le hn).1
  | case5 _ _ _ _ _ _ _ _ _ _ _ _ _ ih => exact ih.mono (by omega)
  | case6 _ _ _ _ _ _ hlt => exact .ok (by omega)
  | case9 _ _ _ _ _ _ _ _ _ _ _ _ _ _ _ _ ih => exact ih.mono (by omega)

/-! ## Lists -/

/-- Whether another element follows in a list; if so the rest begins with it, and
if not with the closing bracket. -/
def nextElement (first : Bool) (s : List Char) : Result Bool :=
  match skipBlanks s with
  | [] => .error (.past .endInList [])
  | c :: rest =>
      if c = ']' then .ok (false, c :: rest)
      else if first then .ok (true, c :: rest)
      else if c = ',' then
        match skipBlanks rest with
        | [] => .error (.past .endInValue [])
        | d :: rest =>
            if d = ']' then .error (.past .trailingComma (d :: rest)) else .ok (true, d :: rest)
      else .error (.past .noListEnd (c :: rest))

theorem within_nextElement (first : Bool) (s : List Char) :
    (nextElement first s).Within s.length := by
  have hs := length_skipBlanks_le s
  unfold nextElement
  split
  · exact .error
  · next c rest heq =>
      rw [heq] at hs
      split
      · exact .ok hs
      · split
        · exact .ok hs
        · split
          · have hr := length_skipBlanks_le rest
            simp only [List.length_cons] at hs
            split
            · exact .error
            · next heq' =>
                rw [heq'] at hr
                split
                · exact .error
                · exact .ok (by omega)
          · exact .error

/-- Reads the fields of a record from the elements of a list, and says how many
there were. -/
def elements {δ : Type} (first : Bool) (d : δ) :
    List (Field δ) → List Char → Result (δ × Nat)
  | [], s => .ok ((d, 0), s)
  | field :: fields, s =>
      match nextElement first s with
      | .error f => .error f
      | .ok (false, rest) => .ok ((d, 0), rest)
      | .ok (true, rest) =>
          match (field.set d).read rest with
          | .error f => .error f
          | .ok (d, rest) =>
              match elements false d fields rest with
              | .error f => .error f
              | .ok ((d, n), rest) => .ok ((d, n + 1), rest)

theorem within_elements {δ : Type} (first : Bool) (d : δ) (fields : List (Field δ))
    (s : List Char) : (elements first d fields s).Within s.length := by
  induction fields generalizing first d s with
  | nil => exact .ok (Nat.le_refl _)
  | cons field fields ih =>
      unfold elements
      split
      · exact .error
      · next h => exact .ok (within_nextElement _ _ _ _ h)
      · next h =>
          have h1 := within_nextElement _ _ _ _ h
          split
          · exact .error
          · next h =>
              have h2 := (field.set _).within _ _ _ h
              split
              · exact .error
              · next h =>
                  have h3 := ih _ _ _ _ _ h
                  exact .ok (by omega)

/-! ## Records -/

namespace Shape

variable {δ α : Type}

/-- How a complaint names the record. -/
def wanted (shape : Shape δ α) : String := "struct " ++ shape.title

/-- The complaint about a list with too few elements. -/
def tooShort (shape : Shape δ α) (n : Nat) : Misfit :=
  let count := shape.fields.length
  let noun := if count = 1 then " element" else " elements"
  .wrongLength n (shape.wanted ++ " with " ++ toString count ++ noun)

/-- What a draft becomes when all the members of an object have been read. -/
def ofMembers (shape : Shape δ α) (draft : Draft δ) : Except Misfit α :=
  match draft with
  | .error m => .error m
  | .ok d => (shape.finish d).mapError .missingField

/-- What a draft becomes when `n` elements of a list have been read. -/
def ofElements (shape : Shape δ α) (d : δ) (n : Nat) : Except Misfit α :=
  if n < shape.fields.length ∧ !shape.lenient then .error (shape.tooShort n)
  else (shape.finish d).mapError .missingField

/-- Reads a record. -/
def read (shape : Shape δ α) (s : List Char) : Result α :=
  match skipBlanks s with
  | '{' :: rest =>
      closeWith closeRecord <|
        match members shape true shape.blank rest with
        | .error f => .error f
        | .ok (draft, rest) => .ok (shape.ofMembers draft, rest)
  | '[' :: rest =>
      closeWith closeList <|
        match elements true shape.blank shape.fields rest with
        | .error f => .error f
        | .ok ((d, n), rest) => .ok (shape.ofElements d n, rest)
  | s => .error (wrongType shape.wanted s)

theorem within_read (shape : Shape δ α) (s : List Char) : (shape.read s).Within s.length := by
  have hs := length_skipBlanks_le s
  unfold read
  split
  · next heq =>
      rw [heq] at hs
      simp only [List.length_cons] at hs
      refine within_closeWith length_closeRecord_le ?_
      split
      · exact .error
      · next h =>
          have := within_members _ _ _ _ _ _ h
          exact .ok (by omega)
  · next heq =>
      rw [heq] at hs
      simp only [List.length_cons] at hs
      refine within_closeWith length_closeList_le ?_
      split
      · exact .error
      · next h =>
          have := within_elements _ _ _ _ _ _ h
          exact .ok (by omega)
  · exact .error

/-- The reader of a type of record. -/
def reader (shape : Shape δ α) : Reader α := ⟨shape.read, shape.within_read⟩

end Shape

end Json
end MeteredChecker
