import MeteredChecker.Json.Skip

/-!
# Reading values of a known type

The reader of a type knows what it wants, so it looks at the first character
only to see whether that is what it finds.  If it is something else that could
begin a value, the value is read *before* anything is said about its type: a
fault in the value itself is the one that is reported.  Lists and records are the
exception --- they are recognised by their bracket and not read.

A `Reader` carries the fact that it never leaves more than it was given, so that
whoever reads several values in a row terminates.
-/

namespace MeteredChecker
namespace Json

/-- A way to read a value off the front of a text. -/
structure Reader (α : Type) where
  read : List Char → Result α
  within : ∀ s, (read s).Within s.length

/-- What is said about a value that is not of the type that is wanted. -/
def wrongType (wanted : String) (s : List Char) : Fault :=
  let complain := fun (found : Found) (rest : List Char) =>
    Fault.here (.misfit (.wrongType found wanted)) rest
  let afterWord := fun (found : Found) (w : String) (s : List Char) =>
    match word w.toList s with
    | .error f => f
    | .ok rest => complain found rest
  match s with
  | [] => .past .endInValue []
  | 'n' :: rest => afterWord .null "ull" rest
  | 't' :: rest => afterWord (.bool true) "rue" rest
  | 'f' :: rest => afterWord (.bool false) "alse" rest
  | '"' :: rest =>
      match string rest with
      | .error f => f
      | .ok (t, rest) => complain (.text (String.ofList t)) rest
  | '[' :: _ => complain .list s
  | '\x7b' :: _ => complain .record s
  | c :: _ =>
      if c = '-' || c.isDigit then
        match number s with
        | .error f => f
        | .ok (n, rest) => complain n.found rest
      else .past .noValue s

/-! ## Texts -/

/-- Reads a string; `wanted` is how a complaint names what is expected. -/
def readString (wanted : String) (s : List Char) : Result String :=
  match skipBlanks s with
  | '"' :: rest =>
      match string rest with
      | .error f => .error f
      | .ok (t, rest) => .ok (String.ofList t, rest)
  | s => .error (wrongType wanted s)

theorem within_readString (wanted : String) (s : List Char) :
    (readString wanted s).Within s.length := by
  have hs := length_skipBlanks_le s
  unfold readString
  split
  · next heq =>
      rw [heq] at hs
      simp only [List.length_cons] at hs
      split
      · exact .error
      · next hstr =>
          have := within_string _ _ _ hstr
          exact .ok (by omega)
  · exact .error

/-- Reads a string. -/
def Reader.string : Reader String := ⟨readString "a string", within_readString _⟩

/-- Reads a string, or `null` for none. -/
def readOptionalString (s : List Char) : Result (Option String) :=
  match skipBlanks s with
  | 'n' :: rest =>
      match word "ull".toList rest with
      | .error f => .error f
      | .ok rest => .ok (none, rest)
  | s =>
      match readString "a string" s with
      | .error f => .error f
      | .ok (t, rest) => .ok (some t, rest)

theorem within_readOptionalString (s : List Char) :
    (readOptionalString s).Within s.length := by
  have hs := length_skipBlanks_le s
  unfold readOptionalString
  split
  · next heq =>
      rw [heq] at hs
      simp only [List.length_cons] at hs
      split
      · exact .error
      · next hw =>
          have := length_word_le hw
          exact .ok (by omega)
  · split
    · exact .error
    · next hr =>
        have := within_readString _ _ _ _ hr
        exact .ok (by omega)

/-- Reads a string, or `null` for none. -/
def Reader.optionalString : Reader (Option String) :=
  ⟨readOptionalString, within_readOptionalString⟩

/-! ## Flags and counters -/

/-- Reads `true` or `false`. -/
def readBool (s : List Char) : Result Bool :=
  match skipBlanks s with
  | 't' :: rest =>
      match word "rue".toList rest with
      | .error f => .error f
      | .ok rest => .ok (true, rest)
  | 'f' :: rest =>
      match word "alse".toList rest with
      | .error f => .error f
      | .ok rest => .ok (false, rest)
  | s => .error (wrongType "a boolean" s)

theorem within_readBool (s : List Char) : (readBool s).Within s.length := by
  have hs := length_skipBlanks_le s
  unfold readBool
  split
  · next heq =>
      rw [heq] at hs
      simp only [List.length_cons] at hs
      split
      · exact .error
      · next hw =>
          have := length_word_le hw
          exact .ok (by omega)
  · next heq =>
      rw [heq] at hs
      simp only [List.length_cons] at hs
      split
      · exact .error
      · next hw =>
          have := length_word_le hw
          exact .ok (by omega)
  · exact .error

/-- Reads `true` or `false`. -/
def Reader.bool : Reader Bool := ⟨readBool, within_readBool⟩

/-- The counter that a number denotes.  A double is never a counter, not even
when it is whole, and a whole number only if it has 32 bits. -/
def Number.counter (n : Number) (rest : List Char) : Result UInt32 :=
  match n with
  | .natural k =>
      if k < UInt32.size then .ok (k.toUInt32, rest)
      else .error (.here (.misfit (.wrongValue n.found "u32")) rest)
  | .negative _ => .error (.here (.misfit (.wrongValue n.found "u32")) rest)
  | .float _ => .error (.here (.misfit (.wrongType n.found "u32")) rest)

/-- Reads a counter of 32 bits. -/
def readCounter (s : List Char) : Result UInt32 :=
  match skipBlanks s with
  | [] => .error (.past .endInValue [])
  | c :: t =>
      if c = '-' || c.isDigit then
        match number (c :: t) with
        | .error f => .error f
        | .ok (n, rest) => n.counter rest
      else .error (wrongType "u32" (c :: t))

theorem within_counter (n : Number) (rest : List Char) :
    (n.counter rest).Within rest.length := by
  unfold Number.counter
  split
  · split
    · exact .ok (Nat.le_refl _)
    · exact .error
  · exact .error
  · exact .error

theorem within_readCounter (s : List Char) : (readCounter s).Within s.length := by
  have hs := length_skipBlanks_le s
  unfold readCounter
  split
  · exact .error
  · next heq =>
      rw [heq] at hs
      split
      · split
        · exact .error
        · next hn =>
            have := within_number _ _ _ hn
            exact (within_counter _ _).mono (by omega)
      · exact .error

/-- Reads a counter of 32 bits. -/
def Reader.counter : Reader UInt32 := ⟨readCounter, within_readCounter⟩

/-! ## One of several names -/

/-- Reads a name and looks it up among the known ones. -/
def readName {α : Type} (known : List (String × α)) (s : List Char) : Result α :=
  match readString "variant identifier" s with
  | .error f => .error f
  | .ok (name, rest) =>
      match known.lookup name with
      | some a => .ok (a, rest)
      | none => .error (.here (.misfit (.unknownVariant name (known.map Prod.fst))) rest)

/-- Reads the value `null` that a name in a record has to have. -/
def readUnit (s : List Char) : Except Fault (List Char) :=
  match skipBlanks s with
  | 'n' :: rest => word "ull".toList rest
  | s => .error (wrongType "unit" s)

/-- Reads a known name, by itself or as the only member of a record, with the
value `null`. -/
def readVariant {α : Type} (known : List (String × α)) (s : List Char) : Result α :=
  match skipBlanks s with
  | [] => .error (.past .endInValue [])
  | '"' :: rest => readName known ('"' :: rest)
  | '\x7b' :: rest =>
      match readName known rest with
      | .error f => .error f
      | .ok (a, rest) =>
          match colon rest with
          | .error f => .error f
          | .ok rest =>
              match readUnit rest with
              | .error f => .error f
              | .ok rest =>
                  match skipBlanks rest with
                  | [] => .error (.here .endInRecord [])
                  | c :: rest =>
                      if c = '\x7d' then .ok (a, rest) else .error (.here .noValue (c :: rest))
  | s => .error (.past .noValue s)

theorem within_readName {α : Type} (known : List (String × α)) (s : List Char) :
    (readName known s).Within s.length := by
  unfold readName
  split
  · exact .error
  · next hr =>
      have := within_readString _ _ _ _ hr
      split
      · exact .ok this
      · exact .error

theorem length_readUnit_le {s r : List Char} (h : readUnit s = .ok r) :
    r.length ≤ s.length := by
  have hs := length_skipBlanks_le s
  unfold readUnit at h
  split at h
  · next heq =>
      rw [heq] at hs
      simp only [List.length_cons] at hs
      have := length_word_le h
      omega
  · simp at h

theorem within_readVariant {α : Type} (known : List (String × α)) (s : List Char) :
    (readVariant known s).Within s.length := by
  have hs := length_skipBlanks_le s
  unfold readVariant
  split
  · exact .error
  · next heq =>
      rw [heq] at hs
      exact (within_readName _ _).mono hs
  · next heq =>
      rw [heq] at hs
      simp only [List.length_cons] at hs
      split
      · exact .error
      · next hn =>
          have h1 := within_readName _ _ _ _ hn
          split
          · exact .error
          · next hc =>
              have h2 := length_colon_lt hc
              split
              · exact .error
              · next hu =>
                  have h3 := length_readUnit_le hu
                  have h4 := length_skipBlanks_le ‹List Char›
                  split
                  · exact .error
                  · next hb =>
                      rw [hb] at h4
                      simp only [List.length_cons] at h4
                      split
                      · exact .ok (by omega)
                      · exact .error
  · exact .error

/-- Reads one of several known names. -/
def Reader.variant {α : Type} (known : List (String × α)) : Reader α :=
  ⟨readVariant known, within_readVariant known⟩

/-! ## Whole texts -/

/-- Reads a whole text as one value with nothing but blanks behind it, or says
what is wrong with it. -/
def Reader.parse {α : Type} (reader : Reader α) (text : String) : Except String α :=
  let s := text.toList
  match reader.read s with
  | .error f => .error (f.message s)
  | .ok (a, rest) =>
      match skipBlanks rest with
      | [] => .ok a
      | rest => .error (Fault.message (.past .trailingCharacters rest) s)

end Json
end MeteredChecker
