import Mathlib.Tactic.SplitIfs
import MeteredChecker.Proofs.Json.Literal

/-!
# Only strings are read as strings

What is between quotes is read as the text that it denotes.  Here is the other half: if reading
succeeds, then that is because such a string was there, and what is left is what comes behind it.
Together they say that reading a string is a matter of the grammar and of nothing else
(`string_eq_ok_iff`).

A reader that succeeds has taken a path through its branches, and each branch that does not end in
a fault is a rule of the grammar.  So the proofs follow the readers, one lemma for each of them.
-/

namespace MeteredChecker
namespace Json

variable {s rest : List Char} {c : Char} {n : Nat}

/-! ## Escapes -/

theorem hexDigit_of_hexValue? (h : Text.hexValue? c = some n) : HexDigit c n := by
  have hall : ∀ k < 128, ∀ n ∈ Text.hexValue? (Char.ofNat k), HexDigit (Char.ofNat k) n := by decide
  have hc : c.toNat < 128 := by
    unfold Text.hexValue? at h
    dsimp only at h
    split_ifs at h <;> omega
  rw [← Char.ofNat_toNat c] at h ⊢
  exact hall c.toNat hc n h

/-- Four hexadecimal digits are a number of sixteen bits. -/
theorem Hex4.lt {digits : List Char} (h : Hex4 digits n) : n < 0x10000 := by
  have hlt {c : Char} {n : Nat} (h : HexDigit c n) : n < 16 := by
    rcases h with h | h <;> exact (List.getElem?_eq_some_iff.1 h).1
  obtain ⟨ha, hb, hc, hd⟩ := h
  have := hlt ha
  have := hlt hb
  have := hlt hc
  have := hlt hd
  omega

theorem exists_hex4_of_ok (h : hex4 s = .ok (n, rest)) :
    ∃ digits, Hex4 digits n ∧ s = digits ++ rest := by
  unfold hex4 at h
  split at h
  · next a b c d rest' =>
    split at h
    · next hvalue =>
      obtain ⟨rfl, rfl⟩ := Prod.mk.inj (Except.ok.inj h)
      simp only [hexValue4?, Option.bind_eq_bind, Option.bind_eq_some_iff, Option.pure_def,
        Option.some.injEq] at hvalue
      obtain ⟨i, hi, j, hj, k, hk, l, hl, rfl⟩ := hvalue
      refine ⟨[a, b, c, d], ?_, rfl⟩
      exact .intro (hexDigit_of_hexValue? hi) (hexDigit_of_hexValue? hj)
        (hexDigit_of_hexValue? hk) (hexDigit_of_hexValue? hl)
    · cases h
  · cases h

/-- The second half of a pair is an escape with a low surrogate. -/
theorem exists_of_lowHalf_ok {high : Nat} (h : lowHalf high s = .ok (c, rest)) :
    ∃ low j, Hex4 low (0xDC00 + j) ∧ j < 0x400 ∧ s = '\\' :: 'u' :: (low ++ rest) ∧
      c = Char.ofNat (0x10000 + (high - 0xD800) * 0x400 + j) := by
  unfold lowHalf at h
  split at h
  case h_3 =>
    split at h
    · cases h
    · next low rest' hread =>
      split at h
      · next hlow =>
        obtain ⟨rfl, rfl⟩ := Prod.mk.inj (Except.ok.inj h)
        obtain ⟨digits, hdigits, rfl⟩ := exists_hex4_of_ok hread
        simp only [isLow, Bool.and_eq_true, decide_eq_true_eq] at hlow
        refine ⟨digits, low - 0xDC00, ?_, by omega, rfl, rfl⟩
        rwa [Nat.add_sub_cancel' hlow.1]
      · cases h
  all_goals cases h

/-- The number of a pair is a character. -/
theorem toNat_ofNat_pair {i j : Nat} (hi : i < 0x400) (hj : j < 0x400) :
    (Char.ofNat (0x10000 + i * 0x400 + j)).toNat = 0x10000 + i * 0x400 + j := by
  have hvalid : (0x10000 + i * 0x400 + j).isValidChar := .inr ⟨by omega, by omega⟩
  rw [Char.ofNat, dif_pos hvalid]
  rfl

/-- What stands behind the mark of a number is the number of a character or of its two halves. -/
theorem exists_piece_of_unicodeEscape_ok (h : unicodeEscape s = .ok (c, rest)) :
    ∃ tail, Piece ('\\' :: 'u' :: tail) c ∧ s = tail ++ rest := by
  unfold unicodeEscape at h
  split at h
  · cases h
  · next n rest' hread =>
    obtain ⟨digits, hdigits, rfl⟩ := exists_hex4_of_ok hread
    have hlt := hdigits.lt
    split_ifs at h with hlow hhigh
    · obtain ⟨low, j, hdigits', hj, rfl, rfl⟩ := exists_of_lowHalf_ok h
      simp only [isHigh, Bool.and_eq_true, decide_eq_true_eq] at hhigh
      have hi : n - 0xD800 < 0x400 := by omega
      have hn : 0xD800 + (n - 0xD800) = n := Nat.add_sub_cancel' hhigh.1
      refine ⟨digits ++ '\\' :: 'u' :: low, ?_, ?_⟩
      · exact .pair (hn.symm ▸ hdigits) hdigits' hi hj (toNat_ofNat_pair hi hj)
      · simp only [List.append_assoc, List.cons_append]
    · obtain ⟨rfl, rfl⟩ := Prod.mk.inj (Except.ok.inj h)
      refine ⟨digits, .number ?_, rfl⟩
      have hvalid : n.isValidChar := by
        simp only [isLow, isHigh, Bool.and_eq_true, decide_eq_true_eq] at hlow hhigh
        unfold Nat.isValidChar
        omega
      rw [Char.ofNat, dif_pos hvalid]
      exact hdigits

theorem mem_shortEscapes_of_shortEscape? {e : Char} (h : shortEscape? e = some c) :
    (e, c) ∈ shortEscapes := by
  unfold shortEscape? at h
  split at h
  case h_9 => cases h
  all_goals
    obtain rfl := Option.some.inj h
    decide

/-- **What stands behind a backslash makes a piece with it.** -/
theorem exists_piece_of_escape_ok (h : escape s = .ok (c, rest)) :
    ∃ tail, Piece ('\\' :: tail) c ∧ s = tail ++ rest := by
  unfold escape at h
  split at h
  · cases h
  · next e s =>
    split at h
    · next hu =>
      obtain rfl := hu
      obtain ⟨tail, hpiece, rfl⟩ := exists_piece_of_unicodeEscape_ok h
      exact ⟨'u' :: tail, hpiece, rfl⟩
    · split at h
      · next d hshort =>
        obtain ⟨rfl, rfl⟩ := Prod.mk.inj (Except.ok.inj h)
        exact ⟨[e], .short (mem_shortEscapes_of_shortEscape? hshort), rfl⟩
      · cases h

/-! ## Strings -/

theorem exists_spells_of_stringFrom_ok {done text : List Char}
    (h : stringFrom done s = .ok (text, rest)) :
    ∃ body t, Spells body t ∧ text = done.reverse ++ t ∧ s = body ++ '"' :: rest := by
  fun_induction stringFrom done s with
  | case1 | case3 | case5 => cases h
  | case2 =>
    obtain ⟨rfl, rfl⟩ := Prod.mk.inj (Except.ok.inj h)
    exact ⟨[], [], .nil, (List.append_nil _).symm, rfl⟩
  | case4 done s d left hescape _ _ ih =>
    obtain ⟨body, t, hbody, rfl, rfl⟩ := ih h
    obtain ⟨tail, hpiece, rfl⟩ := exists_piece_of_escape_ok hescape
    exact ⟨'\\' :: tail ++ body, d :: t, .cons hpiece hbody, by simp, by simp⟩
  | case6 done c s hquote hbackslash hcontrol ih =>
    obtain ⟨body, t, hbody, rfl, rfl⟩ := ih h
    have hplain : IsPlain c := ⟨Nat.not_lt.1 hcontrol, hquote, hbackslash⟩
    exact ⟨[c] ++ body, c :: t, .cons (.plain hplain) hbody, by simp, rfl⟩

/-- **Reading a string succeeds where a string is**, and then with the text that it denotes. -/
theorem string_eq_ok_iff {text : List Char} :
    string s = .ok (text, rest) ↔ ∃ body, Spells body text ∧ s = body ++ '"' :: rest := by
  constructor
  · intro h
    obtain ⟨body, t, hbody, rfl, rfl⟩ := exists_spells_of_stringFrom_ok h
    exact ⟨body, hbody, rfl⟩
  · rintro ⟨body, hbody, rfl⟩
    exact string_append hbody rest

/-! ## Strings that nobody reads -/

theorem exists_isString_of_skipEscape_ok {body : List Char} (h : skipEscape s = .ok rest)
    (hbody : IsString body) :
    ∃ tail, IsString ('\\' :: (tail ++ body)) ∧ s = tail ++ rest := by
  unfold skipEscape at h
  split at h
  · cases h
  · next e s =>
    split_ifs at h with hu hshort
    · obtain rfl := hu
      cases hread : hex4 s with
      | error f =>
        rw [hread] at h
        cases h
      | ok r =>
        rw [hread] at h
        obtain rfl := Except.ok.inj h
        obtain ⟨digits, hdigits, hs⟩ := exists_hex4_of_ok hread
        exact ⟨'u' :: digits, .number hdigits hbody, congrArg ('u' :: ·) hs⟩
    · obtain rfl := Except.ok.inj h
      obtain ⟨d, hd⟩ := Option.isSome_iff_exists.1 hshort
      exact ⟨[e], .short (mem_shortEscapes_of_shortEscape? hd) hbody, rfl⟩

/-- **Passing over a string succeeds where a string is**, whether it denotes a text or not. -/
theorem skipString_eq_ok_iff :
    skipString s = .ok rest ↔ ∃ body, IsString body ∧ s = body ++ '"' :: rest := by
  constructor
  · intro h
    fun_induction skipString s with
    | case1 | case3 | case5 => cases h
    | case2 =>
      obtain rfl := Except.ok.inj h
      exact ⟨[], .nil, rfl⟩
    | case4 s left hescape _ _ ih =>
      obtain ⟨body, hbody, rfl⟩ := ih h
      obtain ⟨tail, hstring, rfl⟩ := exists_isString_of_skipEscape_ok hescape hbody
      exact ⟨_, hstring, by simp⟩
    | case6 c s hquote hbackslash hcontrol ih =>
      obtain ⟨body, hbody, rfl⟩ := ih h
      exact ⟨c :: body, .plain ⟨Nat.not_lt.1 hcontrol, hquote, hbackslash⟩ hbody, rfl⟩
  · rintro ⟨body, hbody, rfl⟩
    exact skipString_append hbody rest

/-! ## Texts as strings -/

/-- Behind a piece of a string the string goes on. -/
theorem Piece.isString_append {piece s : List Char} {c : Char} (h : Piece piece c)
    (hs : IsString s) : IsString (piece ++ s) := by
  cases h with
  | plain h => exact .plain h hs
  | short h => exact .short h hs
  | number h => exact .number h hs
  | pair hhigh hlow =>
    rw [List.cons_append, List.cons_append, List.append_assoc]
    exact .number hhigh (.number hlow hs)

theorem Spells.isString {body text : List Char} (h : Spells body text) : IsString body := by
  induction h with
  | nil => exact .nil
  | cons hpiece _ ih => exact hpiece.isString_append ih

/-- What denotes a text is a value, between its quotes. -/
theorem Spells.isValue {body text : List Char} (h : Spells body text) : IsValue (quoted body) :=
  .string h.isString

end Json
end MeteredChecker
