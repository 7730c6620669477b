import MeteredChecker.Json.Fault

/-!
# Reading off the front

Every reader takes a list of characters and answers with what it read and the
rest of the list, or with a fault.  `Result.Within n` says that a reader which
succeeds leaves at most `n` characters; each reader comes with such a bound ---
the length it was given, or one less where something must have been read --- and
those bounds are what makes the readers of whole values terminate.

This module has the two smallest readers: blanks, and the letters of a word.
-/

namespace MeteredChecker
namespace Json

/-- What a reader comes back with. -/
abbrev Result (α : Type) := Except Fault (α × List Char)

/-- A reader that succeeds leaves at most `n` characters. -/
def Result.Within {α : Type} (n : Nat) (x : Result α) : Prop :=
  ∀ a r, x = .ok (a, r) → r.length ≤ n

namespace Result.Within

variable {α : Type} {n m : Nat}

theorem ok {a : α} {r : List Char} (h : r.length ≤ n) :
    Result.Within n (.ok (a, r)) := by
  intro a' r' heq
  simp only [Except.ok.injEq, Prod.mk.injEq] at heq
  rw [← heq.2]
  exact h

theorem error {f : Fault} : Result.Within n (.error f : Result α) := by
  intro a r h
  simp at h

theorem mono {x : Result α} (h : x.Within n) (hnm : n ≤ m) : x.Within m :=
  fun a r heq => Nat.le_trans (h a r heq) hnm

end Result.Within

/-! ## Blanks and words -/

/-- The blanks between tokens. -/
def isBlank (c : Char) : Bool := c == ' ' || c == '\n' || c == '\t' || c == '\r'

/-- What is left behind the blanks. -/
def skipBlanks (s : List Char) : List Char := s.dropWhile isBlank

theorem length_skipBlanks_le (s : List Char) : (skipBlanks s).length ≤ s.length :=
  (List.dropWhile_suffix isBlank).length_le

/-- Reads the letters of a word, each in its turn. -/
def word : List Char → List Char → Except Fault (List Char)
  | [], s => .ok s
  | _ :: _, [] => .error (.here .endInValue [])
  | w :: ws, c :: s => if c = w then word ws s else .error (.past .badWord (c :: s))

theorem length_word_le {w s r : List Char} (h : word w s = .ok r) : r.length ≤ s.length := by
  induction w generalizing s with
  | nil => simp only [word, Except.ok.injEq] at h; simp [h]
  | cons a w ih =>
      cases s with
      | nil => simp [word] at h
      | cons c s =>
          simp only [word] at h
          split at h
          · exact Nat.le_succ_of_le (ih h)
          · simp at h

end Json
end MeteredChecker
