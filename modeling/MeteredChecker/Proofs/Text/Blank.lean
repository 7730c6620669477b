import MeteredChecker.Text.Blank
import Mathlib.Data.List.DropRight

/-!
# What trimming leaves

Trimming is two cuts, and each of them stops at the first character that is not blank.  What it
leaves can be told without them.  Any text is blanks, then something that neither begins nor ends
with a blank, then blanks again, and it is so in one way only (`Text.remains_iff`), as far as the
middle is concerned: of a text of nothing but blanks the middle is empty, and where the first
blanks end and the last begin is anybody's guess.

The two ends are not alike.  The cut at the end is made behind the one at the front, on what that
has left; so the end is settled first, for any list (`isBlank_of_mem_getLast?`), and the front has
to outlast it (`isBlank_of_mem_head?_trimChars`), which it does because a list cut at its end begins
as before.
-/

namespace MeteredChecker
namespace Text

/-! ## Blanks at the end -/

section trimEndChars

variable {s : List Char}

theorem trimEndChars_eq_rdropWhile : trimEndChars s = s.rdropWhile isBlank := rfl

/-- What is cut off is blank. -/
theorem exists_eq_trimEndChars_append (s : List Char) :
    ∃ blanks, (∀ c ∈ blanks, isBlank c = true) ∧ s = trimEndChars s ++ blanks := by
  refine ⟨s.rtakeWhile isBlank, fun c hc => List.mem_rtakeWhile_imp hc, ?_⟩
  rw [trimEndChars_eq_rdropWhile, List.rdropWhile_append_rtakeWhile]

/-- What is left does not end with a blank. -/
theorem isBlank_of_mem_getLast? {c : Char} (h : c ∈ (trimEndChars s).getLast?) :
    isBlank c = false := by
  obtain ⟨hne, rfl⟩ := List.mem_getLast?_eq_getLast h
  rw [trimEndChars_eq_rdropWhile] at hne
  exact eq_false_of_ne_true (List.rdropWhile_last_not isBlank s hne)

/-- A character that is not blank is a reason to leave something. -/
theorem trimEndChars_ne_nil {c : Char} (hc : c ∈ s) (hblank : isBlank c = false) :
    trimEndChars s ≠ [] := by
  intro hnil
  rw [trimEndChars_eq_rdropWhile, List.rdropWhile_eq_nil_iff] at hnil
  have := hnil c hc
  rw [hblank] at this
  cases this

end trimEndChars

/-! ## Blanks at both ends -/

/-- Every character of a list is blank. -/
def AreBlank (s : List Char) : Prop := ∀ c ∈ s, isBlank c = true

-- looks at the members of the list, and not at all characters that there are
instance : DecidablePred AreBlank := List.decidableBAll (isBlank · = true)

/-- A list has no blank at either end. -/
structure IsBare (s : List Char) : Prop where
  first : ∀ c ∈ s.head?, isBlank c = false
  last : ∀ c ∈ s.getLast?, isBlank c = false

instance : DecidablePred IsBare := fun s =>
  @decidable_of_iff _ ((∀ c ∈ s.head?, isBlank c = false) ∧ ∀ c ∈ s.getLast?, isBlank c = false)
    ⟨fun h => ⟨h.1, h.2⟩, fun h => ⟨h.first, h.last⟩⟩
    (@instDecidableAnd _ _ (Option.decidableForallMem s.head?)
      (Option.decidableForallMem s.getLast?))

variable {before s behind : List Char}

/-- Cutting the end off does not bring a blank to the front. -/
theorem isBlank_of_mem_head?_trimChars {c : Char} (h : c ∈ (trimChars s).head?) :
    isBlank c = false := by
  obtain ⟨tail, htail⟩ := trimEndChars_begins (s.dropWhile isBlank)
  refine isBlank_of_mem_head?_dropWhile (s := s) ?_
  rw [← htail]
  exact List.mem_head?_append_of_mem_head? h

theorem isBare_trimChars (s : List Char) : IsBare (trimChars s) :=
  ⟨fun _ => isBlank_of_mem_head?_trimChars, fun _ => isBlank_of_mem_getLast?⟩

/-- **What is cut off is blank**, at either end. -/
theorem exists_eq_append_trimChars_append (s : List Char) :
    ∃ before behind, AreBlank before ∧ AreBlank behind ∧ s = before ++ trimChars s ++ behind := by
  obtain ⟨behind, hbehind, hend⟩ := exists_eq_trimEndChars_append (s.dropWhile isBlank)
  refine ⟨s.takeWhile isBlank, behind, fun c hc => List.mem_takeWhile_imp hc, hbehind, ?_⟩
  rw [List.append_assoc, trimChars, ← hend, List.takeWhile_append_dropWhile]

theorem dropWhile_append_of_areBlank (hbefore : AreBlank before)
    (hs : ∀ c ∈ s.head?, isBlank c = false) : (before ++ s).dropWhile isBlank = s := by
  rw [List.dropWhile_append_of_pos hbefore, dropWhile_eq_of_begins (List.prefix_refl s) hs]

/-- Of nothing but blanks nothing is left. -/
theorem trimChars_eq_nil_iff : trimChars s = [] ↔ AreBlank s := by
  constructor
  · intro hnil c hc
    obtain ⟨before, behind, hbefore, hbehind, hs⟩ := exists_eq_append_trimChars_append s
    rw [hnil, List.append_nil] at hs
    rw [hs] at hc
    exact (List.mem_append.1 hc).elim (hbefore c) (hbehind c)
  · intro hblank
    rw [trimChars, List.dropWhile_eq_nil_iff.2 hblank]
    rfl

/-- **What has blanks around it is what is left** if no blank is at its own ends. -/
theorem IsBare.trimChars_append (bare : IsBare s) (hbefore : AreBlank before)
    (hbehind : AreBlank behind) : trimChars (before ++ s ++ behind) = s := by
  by_cases hempty : s = []
  · subst hempty
    rw [List.append_nil]
    exact trimChars_eq_nil_iff.2 fun c hc => (List.mem_append.1 hc).elim (hbefore c) (hbehind c)
  · have hfront : ∀ c ∈ (s ++ behind).head?, isBlank c = false := by
      rw [List.head?_append_of_ne_nil s hempty]
      exact bare.first
    have hend : ∀ c ∈ s.reverse.head?, isBlank c = false := by
      rw [List.head?_reverse]
      exact bare.last
    rw [List.append_assoc, trimChars, dropWhile_append_of_areBlank hbefore hfront, trimEndChars,
      List.reverse_append, dropWhile_append_of_areBlank (by simpa [AreBlank] using hbehind) hend,
      List.reverse_reverse]

/-! ## Texts -/

/-- What remains of a text when the blanks around it are taken away: the text is blanks, the
remainder and blanks, and there is no blank at the ends of the remainder. -/
structure Remains (raw rest : String) : Prop where
  around : ∃ before behind : String, raw = before ++ rest ++ behind ∧
    AreBlank before.toList ∧ AreBlank behind.toList
  bare : IsBare rest.toList

theorem toList_trim (raw : String) : (trim raw).toList = trimChars raw.toList := by
  rw [trim, String.toList_ofList]

/-- **One text remains, and it is the trimmed one.** -/
theorem remains_iff {raw rest : String} : Remains raw rest ↔ rest = trim raw := by
  constructor
  · rintro ⟨⟨before, behind, rfl, hbefore, hbehind⟩, bare⟩
    rw [← String.toList_inj, toList_trim, String.toList_append, String.toList_append,
      bare.trimChars_append hbefore hbehind]
  · rintro rfl
    obtain ⟨before, behind, hbefore, hbehind, hraw⟩ := exists_eq_append_trimChars_append raw.toList
    refine ⟨⟨.ofList before, .ofList behind, ?_, ?_, ?_⟩, ?_⟩
    · rw [← String.toList_inj, String.toList_append, String.toList_append, toList_trim,
        String.toList_ofList, String.toList_ofList]
      exact hraw
    · rwa [String.toList_ofList]
    · rwa [String.toList_ofList]
    · rw [toList_trim]
      exact isBare_trimChars _

theorem trim_eq_empty_iff {raw : String} : trim raw = "" ↔ AreBlank raw.toList := by
  rw [← trimChars_eq_nil_iff, ← toList_trim, String.toList_eq_nil_iff]

end Text
end MeteredChecker
