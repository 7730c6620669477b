import MeteredChecker.Text.Charset
import Mathlib.Data.UInt

/-!
# What is written as UTF-8 is read as it was

The reader of octets never fails, and the price is that it has an answer for everything, the
replacement character among them.  So the question about it is not whether it reads a text
but whether it reads the *same* text, and for what has been written as UTF-8 it does:
`decodeLossy_flatMap_utf8EncodeChar`.

All of it is about one character (`scalar_utf8EncodeChar`), and there the case to look at is
the first octet behind the lead.  Its range is narrower behind four of the leads, which is how
overlong forms, surrogates and numbers past the last character are told.  That the octet
of a character is never outside is said by the bounds of `announce_three` and `announce_four`,
in terms of the number that the two octets make together.
-/

namespace MeteredChecker
namespace Text
namespace Utf8

/-- An octet in its range contributes its six bits. -/
theorem follow_cons {lo hi b : UInt8} (hlo : lo.toNat ≤ b.toNat) (hhi : b.toNat ≤ hi.toNat)
    (value : Nat) (more : List (UInt8 × UInt8)) (s : List UInt8) :
    follow value ((lo, hi) :: more) (b :: s) = follow (value * 64 + (b.toNat - 0x80)) more s := by
  rw [follow, if_pos]
  simp [UInt8.le_iff_toNat_le, hlo, hhi]

/-- The octets that carry six bits, from 80 to BF. -/
theorem follow_tail {b : UInt8} {bits : Nat} (hb : b.toNat = 0x80 + bits) (hbits : bits < 64)
    (value : Nat) (more : List (UInt8 × UInt8)) (s : List UInt8) :
    follow value ((0x80, 0xBF) :: more) (b :: s) = follow (value * 64 + bits) more s := by
  rw [follow_cons (by rw [hb]; exact Nat.le_add_right _ _)
    (by rw [hb]; exact Nat.add_le_add_left (Nat.le_of_lt_succ hbits) 0x80), hb,
    Nat.add_sub_cancel_left]

theorem announce_one {b : UInt8} (h : b.toNat < 0x80) : announce b = some (b.toNat, []) := by
  rw [announce, if_pos h]

theorem announce_two {b : UInt8} {lead : Nat} (hb : b.toNat = 0xC0 + lead) (hlow : 2 ≤ lead)
    (hhigh : lead < 0x20) : announce b = some (lead, [(0x80, 0xBF)]) := by
  rw [announce, hb, if_neg (by omega), if_neg (by omega), if_pos (by omega),
    Nat.add_sub_cancel_left]

/-- **The lead of three octets**, and the range of the first octet behind it: what the two
come to is neither less than an overlong form allows nor among the surrogates. -/
theorem announce_three {b : UInt8} {lead bits : Nat} (hb : b.toNat = 0xE0 + lead)
    (hlead : lead < 0x10) (hbits : bits < 64) (hlow : 0x20 ≤ lead * 64 + bits)
    (hsurrogate : lead * 64 + bits < 0x360 ∨ 0x380 ≤ lead * 64 + bits) :
    ∃ lo hi : UInt8, announce b = some (lead, [(lo, hi), (0x80, 0xBF)]) ∧
      lo.toNat ≤ 0x80 + bits ∧ 0x80 + bits ≤ hi.toNat := by
  rw [announce, hb, if_neg (by omega), if_neg (by omega), if_neg (by omega)]
  by_cases hfirst : lead = 0
  · subst hfirst
    exact ⟨0xA0, 0xBF, rfl, by simp; omega, by simp; omega⟩
  · rw [if_neg (by simpa using hfirst)]
    by_cases hlast : lead = 0xD
    · subst hlast
      exact ⟨0x80, 0x9F, rfl, by simp, by simp; omega⟩
    · rw [if_neg (by simp; omega), if_pos (by omega), Nat.add_sub_cancel_left]
      exact ⟨0x80, 0xBF, rfl, by simp, by simp; omega⟩

/-- **The lead of four octets**, and the range of the first octet behind it: what the two come
to is neither less than an overlong form allows nor past the last character. -/
theorem announce_four {b : UInt8} {lead bits : Nat} (hb : b.toNat = 0xF0 + lead)
    (hbits : bits < 64) (hlow : 0x10 ≤ lead * 64 + bits) (hhigh : lead * 64 + bits < 0x110) :
    ∃ lo hi : UInt8, announce b = some (lead, [(lo, hi), (0x80, 0xBF), (0x80, 0xBF)]) ∧
      lo.toNat ≤ 0x80 + bits ∧ 0x80 + bits ≤ hi.toNat := by
  rw [announce, hb, if_neg (by omega), if_neg (by omega), if_neg (by omega),
    if_neg (by simp; omega), if_neg (by simp; omega), if_neg (by omega)]
  by_cases hfirst : lead = 0
  · subst hfirst
    exact ⟨0x90, 0xBF, rfl, by simp; omega, by simp; omega⟩
  · rw [if_neg (by simpa using hfirst)]
    by_cases hlast : lead = 4
    · subst hlast
      exact ⟨0x80, 0x8F, rfl, by simp, by simp; omega⟩
    · rw [if_pos (by omega), Nat.add_sub_cancel_left]
      exact ⟨0x80, 0xBF, rfl, by simp, by simp; omega⟩

/-! ## One character -/

section scalar

variable {b b₁ b₂ b₃ : UInt8} {lead bits bits₁ bits₂ bits₃ : Nat}

theorem scalar_one (hb : b.toNat < 0x80) (s : List UInt8) :
    scalar b s = (some (Char.ofNat b.toNat), s) := by
  rw [scalar, announce_one hb]
  rfl

theorem scalar_two (hb : b.toNat = 0xC0 + lead) (hlow : 2 ≤ lead) (hhigh : lead < 0x20)
    (hb₁ : b₁.toNat = 0x80 + bits₁) (h₁ : bits₁ < 64) (s : List UInt8) :
    scalar b (b₁ :: s) = (some (Char.ofNat (lead * 64 + bits₁)), s) := by
  rw [scalar, announce_two hb hlow hhigh]
  dsimp only
  rw [follow_tail hb₁ h₁]
  rfl

theorem scalar_three (hb : b.toNat = 0xE0 + lead) (hlead : lead < 0x10)
    (hb₁ : b₁.toNat = 0x80 + bits₁) (h₁ : bits₁ < 64) (hlow : 0x20 ≤ lead * 64 + bits₁)
    (hsurrogate : lead * 64 + bits₁ < 0x360 ∨ 0x380 ≤ lead * 64 + bits₁)
    (hb₂ : b₂.toNat = 0x80 + bits₂) (h₂ : bits₂ < 64) (s : List UInt8) :
    scalar b (b₁ :: b₂ :: s) =
      (some (Char.ofNat ((lead * 64 + bits₁) * 64 + bits₂)), s) := by
  obtain ⟨lo, hi, hannounce, hlo, hhi⟩ := announce_three hb hlead h₁ hlow hsurrogate
  rw [scalar, hannounce]
  dsimp only
  rw [follow_cons (by omega) (by omega), hb₁, Nat.add_sub_cancel_left, follow_tail hb₂ h₂]
  rfl

theorem scalar_four (hb : b.toNat = 0xF0 + lead) (hb₁ : b₁.toNat = 0x80 + bits₁)
    (h₁ : bits₁ < 64) (hlow : 0x10 ≤ lead * 64 + bits₁) (hhigh : lead * 64 + bits₁ < 0x110)
    (hb₂ : b₂.toNat = 0x80 + bits₂) (h₂ : bits₂ < 64) (hb₃ : b₃.toNat = 0x80 + bits₃)
    (h₃ : bits₃ < 64) (s : List UInt8) :
    scalar b (b₁ :: b₂ :: b₃ :: s) =
      (some (Char.ofNat (((lead * 64 + bits₁) * 64 + bits₂) * 64 + bits₃)), s) := by
  obtain ⟨lo, hi, hannounce, hlo, hhi⟩ := announce_four hb h₁ hlow hhigh
  rw [scalar, hannounce]
  dsimp only
  rw [follow_cons (by omega) (by omega), hb₁, Nat.add_sub_cancel_left, follow_tail hb₂ h₂,
    follow_tail hb₃ h₃]
  rfl

end scalar

/-- **A character that is written is read**, and what is behind it is left. -/
theorem scalar_utf8EncodeChar (c : Char) (s : List UInt8) :
    ∃ b t, String.utf8EncodeChar c = b :: t ∧ scalar b (t ++ s) = (some c, s) := by
  have hvalid : c.val.toNat < 0xD800 ∨ 0xDFFF < c.val.toNat ∧ c.val.toNat < 0x110000 := c.valid
  have hc : Char.ofNat c.val.toNat = c := Char.ofNat_toNat c
  unfold String.utf8EncodeChar
  generalize c.val.toNat = v at *
  have htail : (UInt8.ofNat (v % 64 + 128)).toNat = 0x80 + v % 64 := by simp; omega
  have hsecond : (UInt8.ofNat (v / 64 % 64 + 128)).toNat = 0x80 + v / 64 % 64 := by simp; omega
  have hthird : (UInt8.ofNat (v / 4096 % 64 + 128)).toNat = 0x80 + v / 4096 % 64 := by simp; omega
  dsimp only
  split
  · refine ⟨_, _, rfl, ?_⟩
    have hlead : (UInt8.ofNat v).toNat = v := by simp; omega
    rw [List.nil_append, scalar_one (by omega), hlead, hc]
  · split
    · refine ⟨_, _, rfl, ?_⟩
      have hlead : (UInt8.ofNat (v / 64 % 32 + 192)).toNat = 0xC0 + v / 64 := by simp; omega
      have hv : v / 64 * 64 + v % 64 = v := by omega
      rw [List.cons_append, List.nil_append,
        scalar_two hlead (by omega) (by omega) htail (by omega), hv, hc]
    · split
      · refine ⟨_, _, rfl, ?_⟩
        have hlead : (UInt8.ofNat (v / 4096 % 16 + 224)).toNat = 0xE0 + v / 4096 := by simp; omega
        have hv : (v / 4096 * 64 + v / 64 % 64) * 64 + v % 64 = v := by omega
        rw [List.cons_append, List.cons_append, List.nil_append,
          scalar_three hlead (by omega) hsecond (by omega) (by omega) (by omega) htail (by omega),
          hv, hc]
      · refine ⟨_, _, rfl, ?_⟩
        have hlead : (UInt8.ofNat (v / 262144 % 8 + 240)).toNat = 0xF0 + v / 262144 := by
          simp; omega
        have hv : ((v / 262144 * 64 + v / 4096 % 64) * 64 + v / 64 % 64) * 64 + v % 64 = v := by
          omega
        rw [List.cons_append, List.cons_append, List.cons_append, List.nil_append,
          scalar_four hlead hthird (by omega) (by omega) (by omega) hsecond (by omega) htail
            (by omega), hv, hc]

/-! ## Texts -/

/-- **A text that is written is read as it was.** -/
theorem decodeLossy_flatMap_utf8EncodeChar (s : List Char) :
    decodeLossy (s.flatMap String.utf8EncodeChar) = s := by
  induction s with
  | nil => rw [List.flatMap_nil, decodeLossy]
  | cons c s ih =>
    obtain ⟨b, t, hwritten, hread⟩ := scalar_utf8EncodeChar c (s.flatMap String.utf8EncodeChar)
    rw [List.flatMap_cons, hwritten, List.cons_append, decodeLossy, hread]
    exact congrArg (c :: ·) ih

end Utf8

/-- What is written as UTF-8 begins with a byte-order mark only if the text does. -/
theorem Charset.ofMark?_flatMap_utf8EncodeChar {s : List Char}
    (unmarked : s.head? ≠ some '\uFEFF') : ofMark? (s.flatMap String.utf8EncodeChar) = none := by
  cases s with
  | nil => rfl
  | cons c s =>
    obtain ⟨b, t, hwritten, hread⟩ :=
      Utf8.scalar_utf8EncodeChar c (s.flatMap String.utf8EncodeChar)
    rw [List.flatMap_cons, hwritten, List.cons_append]
    generalize t ++ s.flatMap String.utf8EncodeChar = rest at hread
    unfold ofMark?
    split
    · next heq =>
      -- the first character is then the mark
      obtain ⟨rfl, rfl⟩ := List.cons.inj heq
      have hmark (rest : List UInt8) :
          Utf8.scalar 0xEF (0xBB :: 0xBF :: rest) = (some '\uFEFF', rest) :=
        Utf8.scalar_three rfl (show 0xF < 0x10 by decide) rfl (show 0x3B < 64 by decide)
          (by decide) (by decide) rfl (show 0x3F < 64 by decide) rest
      rw [hmark] at hread
      obtain rfl : '\uFEFF' = c := Option.some.inj (Prod.mk.inj hread).1
      exact absurd rfl unmarked
    · next heq =>
      obtain ⟨rfl, -⟩ := List.cons.inj heq
      cases hread
    · next heq =>
      obtain ⟨rfl, -⟩ := List.cons.inj heq
      cases hread
    · rfl

theorem toList_toUTF8 (s : String) : s.toUTF8.toList = s.toList.flatMap String.utf8EncodeChar := by
  have hloop (bytes : ByteArray) (i : Nat) (done : List UInt8) :
      ByteArray.toList.loop bytes i done = done.reverse ++ bytes.data.toList.drop i := by
    fun_induction ByteArray.toList.loop bytes i done with
    | case1 i done h ih =>
      have hi : i < bytes.data.toList.length := by simpa using h
      rw [ih, List.drop_eq_getElem_cons hi]
      simp [ByteArray.get!, h]
    | case2 i done h =>
      rw [List.drop_eq_nil_of_le (by simpa using Nat.le_of_not_lt h), List.append_nil]
  have hoctets : s.toUTF8 = (s.toList.flatMap String.utf8EncodeChar).toByteArray := by
    conv_lhs => rw [← String.ofList_toList (s := s)]
    exact String.toByteArray_ofList
  rw [ByteArray.toList, hloop, hoctets, List.toList_data_toByteArray]
  rfl

/-- **A body that is written as UTF-8 is read as it was**, if the response says nothing else of
its charset and the text does not begin with a byte-order mark. -/
theorem ofBody_toUTF8 {contentType : Option String}
    (charset : Charset.ofMediaType contentType = .utf8) {text : String}
    (unmarked : text.toList.head? ≠ some '\uFEFF') :
    ofBody contentType text.toUTF8.toList = text := by
  rw [ofBody, toList_toUTF8, Charset.ofMark?_flatMap_utf8EncodeChar unmarked, charset]
  exact (congrArg String.ofList (Utf8.decodeLossy_flatMap_utf8EncodeChar _)).trans
    (String.ofList_toList)

end Text
end MeteredChecker
