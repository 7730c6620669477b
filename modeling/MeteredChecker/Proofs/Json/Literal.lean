import MeteredChecker.Proofs.Json.Grammar

/-!
# Strings are read as what they denote

A piece of a string is one of four things, and reading it comes to the same for all of them:
the piece is gone and its character is there (`stringFrom_piece`).  The work is in the escapes.
A number of sixteen bits that is a character is neither half of a pair, since the surrogates
are no characters; and the two halves of a pair say how they are to be read, the high one by
asking for another escape and the low one by coming second.

A string that nobody reads is passed over by a reader of its own, which does not care what a
number of sixteen bits denotes (`skipString_append`).
-/

namespace MeteredChecker
namespace Json

/-! ## Escapes -/

theorem HexDigit.hexValue? {c : Char} {n : Nat} (h : HexDigit c n) : Text.hexValue? c = some n := by
  have hn : n < 16 := by
    rcases h with h | h <;> exact (List.getElem?_eq_some_iff.1 h).1
  have hall : ∀ n < 16, ("0123456789abcdef".toList[n]?.bind Text.hexValue? = some n) ∧
      "0123456789ABCDEF".toList[n]?.bind Text.hexValue? = some n := by decide
  obtain ⟨hlower, hupper⟩ := hall n hn
  rcases h with h | h
  · rwa [h] at hlower
  · rwa [h] at hupper

theorem Hex4.hex4_append {digits : List Char} {n : Nat} (h : Hex4 digits n) (rest : List Char) :
    hex4 (digits ++ rest) = .ok (n, rest) := by
  obtain ⟨ha, hb, hc, hd⟩ := h
  simp [hex4, hexValue4?, ha.hexValue?, hb.hexValue?, hc.hexValue?, hd.hexValue?]

theorem shortEscape?_of_mem {e c : Char} (h : (e, c) ∈ shortEscapes) :
    e ≠ 'u' ∧ shortEscape? e = some c := by
  have hall : ∀ p ∈ shortEscapes, p.1 ≠ 'u' ∧ shortEscape? p.1 = some p.2 := by decide
  exact hall _ h

theorem escape_short {e c : Char} (h : (e, c) ∈ shortEscapes) (rest : List Char) :
    escape (e :: rest) = .ok (c, rest) := by
  obtain ⟨hu, hshort⟩ := shortEscape?_of_mem h
  rw [escape, if_neg hu, hshort]

theorem escape_number {digits : List Char} {c : Char} (h : Hex4 digits c.toNat)
    (rest : List Char) : escape ('u' :: (digits ++ rest)) = .ok (c, rest) := by
  have hvalid : c.toNat < 0xD800 ∨ 0xDFFF < c.toNat ∧ c.toNat < 0x110000 := c.valid
  have hlow : isLow c.toNat = false := by simp [isLow]; omega
  have hhigh : isHigh c.toNat = false := by simp [isHigh]; omega
  rw [escape, if_pos rfl, unicodeEscape, h.hex4_append]
  simp [hlow, hhigh, Char.ofNat_toNat]

theorem escape_pair {high low : List Char} {c : Char} {i j : Nat} (hhigh : Hex4 high (0xD800 + i))
    (hlow : Hex4 low (0xDC00 + j)) (hi : i < 0x400) (hj : j < 0x400)
    (hc : c.toNat = 0x10000 + i * 0x400 + j) (rest : List Char) :
    escape ('u' :: (high ++ '\\' :: 'u' :: (low ++ rest))) = .ok (c, rest) := by
  have hnotLow : isLow (0xD800 + i) = false := by simp [isLow]; omega
  have hisHigh : isHigh (0xD800 + i) = true := by simp [isHigh]; omega
  have hisLow : isLow (0xDC00 + j) = true := by simp [isLow]; omega
  rw [escape, if_pos rfl, unicodeEscape, hhigh.hex4_append]
  simp [hnotLow, hisHigh, lowHalf, hlow.hex4_append, hisLow, ← hc, Char.ofNat_toNat]

/-! ## Strings -/

theorem stringFrom_escape {s rest : List Char} {c : Char} (h : escape s = .ok (c, rest))
    (done : List Char) : stringFrom done ('\\' :: s) = stringFrom (c :: done) rest := by
  rw [stringFrom, if_neg (by decide), if_pos rfl]
  split
  · next heq => rw [h] at heq; cases heq
  · next heq => rw [h] at heq; cases heq; rfl

/-- **A piece is read as its character.** -/
theorem stringFrom_piece {piece : List Char} {c : Char} (h : Piece piece c) (done s : List Char) :
    stringFrom done (piece ++ s) = stringFrom (c :: done) s := by
  cases h with
  | plain h =>
    rw [List.singleton_append, stringFrom, if_neg h.noQuote, if_neg h.noBackslash,
      if_neg (Nat.not_lt.2 h.noControl)]
  | short h => exact stringFrom_escape (escape_short h s) done
  | number h => exact stringFrom_escape (escape_number h s) done
  | pair hhigh hlow hi hj hc =>
    rw [List.cons_append, List.cons_append, List.append_assoc]
    exact stringFrom_escape (escape_pair hhigh hlow hi hj hc s) done

theorem stringFrom_append {body text : List Char} (h : Spells body text) (done rest : List Char) :
    stringFrom done (body ++ '"' :: rest) = .ok (done.reverse ++ text, rest) := by
  induction h generalizing done with
  | nil => rw [List.nil_append, stringFrom, if_pos rfl, List.append_nil]
  | @cons piece body text c hpiece _ ih =>
    rw [List.append_assoc, stringFrom_piece hpiece, ih, List.reverse_cons, List.append_assoc,
      List.singleton_append]

/-- **What is between quotes is read as the text that it denotes.** -/
theorem string_append {body text : List Char} (h : Spells body text) (rest : List Char) :
    string (body ++ '"' :: rest) = .ok (text, rest) :=
  stringFrom_append h [] rest

/-! ## Strings that nobody reads -/

theorem skipString_escape {s rest : List Char} (h : skipEscape s = .ok rest) :
    skipString ('\\' :: s) = skipString rest := by
  rw [skipString, if_neg (by decide), if_pos rfl]
  split
  · next heq => rw [h] at heq; cases heq
  · next heq => rw [h] at heq; cases heq; rfl

/-- **A string that nobody reads is passed over.** -/
theorem skipString_append {body : List Char} (h : IsString body) (rest : List Char) :
    skipString (body ++ '"' :: rest) = .ok rest := by
  induction h with
  | nil => rw [List.nil_append, skipString, if_pos rfl]
  | plain h _ ih =>
    rw [List.cons_append, skipString, if_neg h.noQuote, if_neg h.noBackslash,
      if_neg (Nat.not_lt.2 h.noControl), ih]
  | short h _ ih =>
    obtain ⟨hu, hshort⟩ := shortEscape?_of_mem h
    rw [List.cons_append, List.cons_append, skipString_escape, ih]
    rw [skipEscape, if_neg hu, hshort]
    rfl
  | number h _ ih =>
    rw [List.cons_append, List.cons_append, List.append_assoc, skipString_escape, ih]
    rw [skipEscape, if_pos rfl, h.hex4_append]
    rfl

end Json
end MeteredChecker
