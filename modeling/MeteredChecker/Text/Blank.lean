/-!
# Blank characters and trimming

Everything a person types into the form, and every setting that is compared with
a word, is trimmed first.  "Blank" is the Unicode property `White_Space`, which
is wider than the blanks of most languages in one direction and narrower in the
other: the no-break space, the ideographic space and the two separators
U+2028 and U+2029 are blank, while the zero-width space U+200B, the byte-order
mark U+FEFF and the information separators U+001C to U+001F are not.

Trimming is defined on character lists as `List.dropWhile`, once from the front
and once from the reversed list, so that "nothing blank is left at an end" and
"nothing that is not blank was lost" are two facts about `dropWhile`.
-/

namespace MeteredChecker
namespace Text

/-- The characters with the Unicode property `White_Space`. -/
def isBlank (c : Char) : Bool :=
  let n := c.toNat
  (0x9 ≤ n && n ≤ 0xD) || n == 0x20 || n == 0x85 || n == 0xA0 || n == 0x1680 ||
    (0x2000 ≤ n && n ≤ 0x200A) || n == 0x2028 || n == 0x2029 || n == 0x202F ||
    n == 0x205F || n == 0x3000

/-- A list without the blanks at its end. -/
def trimEndChars (s : List Char) : List Char :=
  (s.reverse.dropWhile isBlank).reverse

/-- A list without the blanks at either end. -/
def trimChars (s : List Char) : List Char :=
  trimEndChars (s.dropWhile isBlank)

/-- A text without the blanks at either end. -/
def trim (s : String) : String := String.ofList (trimChars s.toList)

/-! ## Trimming twice -/

theorem isBlank_of_mem_head?_dropWhile {s : List Char} {c : Char}
    (h : c ∈ (s.dropWhile isBlank).head?) : isBlank c = false := by
  have hstop := List.head?_dropWhile_not isBlank s
  rw [h] at hstop
  exact hstop

/-- Cutting the end off leaves the beginning where it is. -/
theorem trimEndChars_begins (s : List Char) : trimEndChars s <+: s := by
  unfold trimEndChars
  have h := List.dropWhile_suffix isBlank (l := s.reverse)
  have := List.reverse_prefix.mpr h
  simpa using this

/-- There is nothing to cut off from a list that does not begin with a blank, nor from what
begins it. -/
theorem dropWhile_eq_of_begins {t s : List Char} (h : t <+: s)
    (hs : ∀ c ∈ s.head?, isBlank c = false) : t.dropWhile isBlank = t := by
  cases t with
  | nil => rfl
  | cons c t =>
      obtain ⟨u, rfl⟩ := h
      exact List.dropWhile_cons_of_neg (by simp [hs c rfl])

theorem trimEndChars_idem (s : List Char) : trimEndChars (trimEndChars s) = trimEndChars s := by
  unfold trimEndChars
  rw [List.reverse_reverse, dropWhile_eq_of_begins (List.prefix_refl _)
    fun _ => isBlank_of_mem_head?_dropWhile]

/-- **Trimming a second time changes nothing.** -/
theorem trimChars_idem (s : List Char) : trimChars (trimChars s) = trimChars s := by
  unfold trimChars
  rw [dropWhile_eq_of_begins (trimEndChars_begins _) fun _ => isBlank_of_mem_head?_dropWhile,
    trimEndChars_idem]

/-- Trimming a second time changes nothing. -/
theorem trim_idem (s : String) : trim (trim s) = trim s := by
  simp [trim, trimChars_idem]

end Text
end MeteredChecker
