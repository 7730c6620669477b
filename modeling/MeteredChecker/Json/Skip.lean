import MeteredChecker.Json.Literal
import MeteredChecker.Json.Number

/-!
# Passing over a value

A member that nobody asked for is passed over, whatever its value is.  It still
has to be JSON, but the rules are a little laxer than where a value is read:
numbers have no range, and the four digits of a `\u` escape may be any.

There is no bound on how deeply such a value nests, so the openings that are
still to be closed are kept in a list of frames, and passing over is a loop, not
a recursion on the value.  The loop is always in one of three places: in front
of a value, behind an opening bracket, or behind a complete value.  Each round
either takes a character off the text or moves from an opening to the element
that follows it, so the pair of the two decreases.
-/

namespace MeteredChecker
namespace Json

/-- What a bracket opens. -/
inductive Frame where
  | list
  | record
  deriving DecidableEq, Repr

/-- The character that closes a frame. -/
def Frame.closer : Frame → Char
  | .list => ']'
  | .record => '\x7d'

/-- The text ends inside a frame. -/
def Frame.ended : Frame → Reason
  | .list => .endInList
  | .record => .endInRecord

/-- Something else stands where a frame is to go on or to close. -/
def Frame.notEnded : Frame → Reason
  | .list => .noListEnd
  | .record => .noRecordEnd

/-! ## Strings and numbers -/

/-- Passes over what follows a backslash. -/
def skipEscape : List Char → Except Fault (List Char)
  | [] => .error (.here .endInString [])
  | c :: s =>
      if c = 'u' then (hex4 s).map Prod.snd
      else if (shortEscape? c).isSome then .ok s
      else .error (.past .badEscape (c :: s))

theorem length_skipEscape_lt {s r : List Char} (h : skipEscape s = .ok r) :
    r.length < s.length := by
  unfold skipEscape at h
  split at h
  · simp at h
  · next c s =>
      split at h
      · cases h4 : hex4 s with
        | error f => simp [h4, Except.map] at h
        | ok p =>
            have := within_hex4 s p.1 p.2 h4
            simp only [h4, Except.map, Except.ok.injEq] at h
            subst h
            simp only [List.length_cons]; omega
      · split at h
        · simp only [Except.ok.injEq] at h
          simp [← h]
        · simp at h

/-- Passes over a string behind its opening quote.  A control character is a
fault in front of it. -/
def skipString : List Char → Except Fault (List Char)
  | [] => .error (.here .endInString [])
  | c :: s =>
      if c = '"' then .ok s
      else if c = '\\' then
        match h : skipEscape s with
        | .error f => .error f
        | .ok rest =>
            have : rest.length < s.length + 1 := Nat.lt_succ_of_lt (length_skipEscape_lt h)
            skipString rest
      else if c.toNat < 0x20 then .error (.here .control (c :: s))
      else skipString s
  termination_by s => s.length

theorem length_skipString_lt {s r : List Char} (h : skipString s = .ok r) :
    r.length < s.length := by
  fun_induction skipString s with
  | case1 => simp at h
  | case2 => simp only [Except.ok.injEq] at h; simp [← h]
  | case3 => simp at h
  | case4 s rest he _ _ ih =>
      have h1 := length_skipEscape_lt he
      have h2 := ih h
      simp only [List.length_cons]; omega
  | case5 => simp at h
  | case6 c s _ _ _ ih =>
      have := ih h
      simp only [List.length_cons]; omega

/-- Passes over an exponent behind its mark. -/
def skipExponent (s : List Char) : Except Fault (List Char) :=
  match (sign s).2 with
  | [] => .error (.here .badNumber [])
  | c :: t =>
      if c.isDigit then .ok (t.dropWhile Char.isDigit) else .error (.past .badNumber (c :: t))

/-- Passes over an exponent if there is one. -/
def skipOptionalExponent (s : List Char) : Except Fault (List Char) :=
  match exponentMark? s with
  | some rest => skipExponent rest
  | none => .ok s

/-- Passes over what follows the digits before a point. -/
def skipFraction : List Char → Except Fault (List Char)
  | '.' :: s =>
      match s with
      | [] => .error (.past .badNumber [])
      | c :: _ =>
          if c.isDigit then skipOptionalExponent (s.dropWhile Char.isDigit)
          else .error (.past .badNumber s)
  | s => skipOptionalExponent s

/-- Passes over a number behind its sign. -/
def skipDigits : List Char → Except Fault (List Char)
  | [] => .error (.here .badNumber [])
  | c :: s =>
      if !c.isDigit then .error (.past .badNumber (c :: s))
      else if c = '0' then
        if s.head?.any Char.isDigit then .error (.past .badNumber s) else skipFraction s
      else skipFraction (s.dropWhile Char.isDigit)

theorem length_skipExponent_le {s r : List Char} (h : skipExponent s = .ok r) :
    r.length ≤ s.length := by
  have hs := length_sign_le s
  unfold skipExponent at h
  split at h
  · simp at h
  · next c t heq =>
      rw [heq] at hs
      simp only [List.length_cons] at hs
      split at h
      · simp only [Except.ok.injEq] at h
        rw [← h]
        exact Nat.le_trans (List.dropWhile_suffix _).length_le (by omega)
      · simp at h

theorem length_skipOptionalExponent_le {s r : List Char} (h : skipOptionalExponent s = .ok r) :
    r.length ≤ s.length := by
  unfold skipOptionalExponent at h
  split at h
  · next heq =>
      have h1 := length_exponentMark?_lt heq
      have h2 := length_skipExponent_le h
      omega
  · simp only [Except.ok.injEq] at h
    simp [h]

theorem length_skipFraction_le {s r : List Char} (h : skipFraction s = .ok r) :
    r.length ≤ s.length := by
  unfold skipFraction at h
  split at h
  · split at h
    · simp at h
    · next c t =>
        split at h
        · have h1 := length_skipOptionalExponent_le h
          have h2 := (List.dropWhile_suffix Char.isDigit (l := c :: t)).length_le
          simp only [List.length_cons] at *; omega
        · simp at h
  · exact length_skipOptionalExponent_le h

theorem length_skipDigits_lt {s r : List Char} (h : skipDigits s = .ok r) :
    r.length < s.length := by
  unfold skipDigits at h
  split at h
  · simp at h
  · split at h
    · simp at h
    · split at h
      · split at h
        · simp at h
        · have := length_skipFraction_le h
          simp only [List.length_cons]; omega
      · have h1 := length_skipFraction_le h
        have h2 := (List.dropWhile_suffix Char.isDigit (l := ‹List Char›)).length_le
        simp only [List.length_cons]; omega

/-! ## Values -/

/-- Passes over a word, a number or a string.  These are the values that do not
open a frame. -/
def skipLeaf : List Char → Except Fault (List Char)
  | [] => .error (.past .endInValue [])
  | 'n' :: s => word "ull".toList s
  | 't' :: s => word "rue".toList s
  | 'f' :: s => word "alse".toList s
  | '"' :: s => skipString s
  | '-' :: s => skipDigits s
  | c :: s => if c.isDigit then skipDigits (c :: s) else .error (.past .noValue (c :: s))

theorem length_skipLeaf_lt {s r : List Char} (h : skipLeaf s = .ok r) :
    r.length < s.length := by
  unfold skipLeaf at h
  split at h
  · simp at h
  · exact Nat.lt_succ_of_le (length_word_le h)
  · exact Nat.lt_succ_of_le (length_word_le h)
  · exact Nat.lt_succ_of_le (length_word_le h)
  · exact Nat.lt_succ_of_lt (length_skipString_lt h)
  · exact Nat.lt_succ_of_lt (length_skipDigits_lt h)
  · split at h
    · exact length_skipDigits_lt h
    · simp at h

/-- Passes over a colon. -/
def colon (s : List Char) : Except Fault (List Char) :=
  match skipBlanks s with
  | [] => .error (.past .endInRecord [])
  | c :: rest => if c = ':' then .ok rest else .error (.past .noColon (c :: rest))

theorem length_colon_lt {s r : List Char} (h : colon s = .ok r) : r.length < s.length := by
  have hs := length_skipBlanks_le s
  unfold colon at h
  split at h
  · simp at h
  · next heq =>
      rw [heq] at hs
      split at h
      · simp only [Except.ok.injEq] at h
        subst h
        exact hs
      · simp at h

/-- Passes over what stands in a frame in front of a value: nothing in a list,
a name and a colon in a record. -/
def skipName (frame : Frame) (s : List Char) : Except Fault (List Char) :=
  match frame with
  | .list => .ok s
  | .record =>
      match skipBlanks s with
      | [] => .error (.past .endInRecord [])
      | c :: rest =>
          if c = '"' then
            match skipString rest with
            | .error f => .error f
            | .ok rest => colon rest
          else .error (.past .noKey (c :: rest))

theorem length_skipName_le {frame : Frame} {s r : List Char} (h : skipName frame s = .ok r) :
    r.length ≤ s.length := by
  unfold skipName at h
  split at h
  · simp only [Except.ok.injEq] at h
    simp [h]
  · have hs := length_skipBlanks_le s
    split at h
    · simp at h
    · next heq =>
        rw [heq] at hs
        simp only [List.length_cons] at hs
        split at h
        · split at h
          · simp at h
          · next hstr =>
              have h1 := length_skipString_lt hstr
              have h2 := length_colon_lt h
              omega
        · simp at h

/-- Where the loop stands. -/
inductive Place where
  /-- In front of a value. -/
  | value
  /-- Behind an opening bracket. -/
  | opened
  /-- Behind a complete value. -/
  | closed
  deriving DecidableEq, Repr

/-- The second component of the measure: an opening comes before its element. -/
def Place.rank : Place → Nat
  | .value => 0
  | .opened => 1
  | .closed => 0

/-- Passes over values until all the frames are closed. -/
def skipFrom (place : Place) (frames : List Frame) (s : List Char) : Except Fault (List Char) :=
  match place, frames with
  | .value, frames =>
      match hs : skipBlanks s with
      | '[' :: rest =>
          have : rest.length < s.length := by
            have := length_skipBlanks_le s
            rw [hs] at this
            exact this
          skipFrom .opened (.list :: frames) rest
      | '\x7b' :: rest =>
          have : rest.length < s.length := by
            have := length_skipBlanks_le s
            rw [hs] at this
            exact this
          skipFrom .opened (.record :: frames) rest
      | leaf =>
          match hl : skipLeaf leaf with
          | .error f => .error f
          | .ok rest =>
              have : rest.length < s.length := by
                have h1 := length_skipBlanks_le s
                have h2 := length_skipLeaf_lt hl
                rw [hs] at h1
                omega
              skipFrom .closed frames rest
  | .opened, [] => .ok s
  | .opened, frame :: frames =>
      match hs : skipBlanks s with
      | [] => .error (.past frame.ended [])
      | c :: rest =>
          have hlt : rest.length < s.length := by
            have := length_skipBlanks_le s
            rw [hs] at this
            exact this
          if c = frame.closer then skipFrom .closed frames rest
          else
            match hn : skipName frame (c :: rest) with
            | .error f => .error f
            | .ok element =>
                have : element.length ≤ s.length := by
                  have := length_skipName_le hn
                  simp only [List.length_cons] at this
                  omega
                skipFrom .value (frame :: frames) element
  | .closed, [] => .ok s
  | .closed, frame :: frames =>
      match hs : skipBlanks s with
      | [] => .error (.past frame.ended [])
      | c :: rest =>
          have hlt : rest.length < s.length := by
            have := length_skipBlanks_le s
            rw [hs] at this
            exact this
          if c = ',' then
            match hn : skipName frame rest with
            | .error f => .error f
            | .ok element =>
                have : element.length < s.length := by
                  have := length_skipName_le hn
                  omega
                skipFrom .value (frame :: frames) element
          else if c = frame.closer then skipFrom .closed frames rest
          else .error (.past frame.notEnded (c :: rest))
  termination_by (s.length, place.rank)
  decreasing_by
    all_goals first
      | (apply Prod.Lex.left; assumption)
      | (rcases Nat.lt_or_eq_of_le this with h | h
         · exact Prod.Lex.left _ _ h
         · rw [h]; exact Prod.Lex.right _ (by decide))

/-- Passes over one value. -/
def skip (s : List Char) : Except Fault (List Char) := skipFrom .value [] s

theorem length_skipFrom_le {place : Place} {frames : List Frame} {s r : List Char}
    (h : skipFrom place frames s = .ok r) : r.length ≤ s.length := by
  fun_induction skipFrom place frames s with
  | case1 _ _ _ _ _ ih | case2 _ _ _ _ _ ih | case7 _ _ _ _ _ _ ih =>
      have := ih h
      omega
  | case4 _ _ _ _ _ _ _ ih | case9 _ _ _ _ _ _ _ _ _ _ _ ih | case13 _ _ _ _ _ _ _ _ _ ih
  | case14 _ _ _ _ _ _ _ ih =>
      have := ih h
      omega
  | case3 | case6 | case8 | case11 | case12 | case15 => simp at h
  | case5 | case10 =>
      simp only [Except.ok.injEq] at h
      simp [h]

theorem length_skip_le {s r : List Char} (h : skip s = .ok r) : r.length ≤ s.length :=
  length_skipFrom_le h

end Json
end MeteredChecker
