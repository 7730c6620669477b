import Mathlib.Data.List.TakeWhile
import MeteredChecker.Proofs.Json.Accepted.Literal
import MeteredChecker.Proofs.Json.Skip

/-!
# Only values are passed over

If passing over succeeds, then what is gone is blanks and a value (`exists_isValue_of_skip_ok`).
Nothing is asked of what comes behind it.

The loop has a stack of frames, and what it takes away from one of its places is what has still
to come before the last of them is closed: the rest of a value, and for each frame blanks, a
closing bracket and perhaps more values in front of it.  `Passes` is this, place by place, and the
loop turns one into another.  A value in a frame is put together from behind: first it is known
what follows it in its frame, and only then what comes in front.
-/

namespace MeteredChecker
namespace Json

variable {s rest : List Char}

/-! ## Blanks and words -/

theorem Blanks.append {b b' : List Char} (hb : Blanks b) (hb' : Blanks b') : Blanks (b ++ b') := by
  intro c hc
  rcases List.mem_append.1 hc with h | h
  · exact hb c h
  · exact hb' c h

/-- What is skipped in front of something is blanks. -/
theorem exists_blanks {t : List Char} (h : skipBlanks s = t) : ∃ b, Blanks b ∧ s = b ++ t := by
  subst h
  refine ⟨s.takeWhile isBlank, fun c hc => ?_, List.takeWhile_append_dropWhile.symm⟩
  have hblank := List.mem_takeWhile_imp hc
  simp only [isBlank, Bool.or_eq_true, beq_iff_eq] at hblank
  rcases hblank with ((rfl | rfl) | rfl) | rfl
  · exact .inl rfl
  · exact .inr (.inr (.inl rfl))
  · exact .inr (.inl rfl)
  · exact .inr (.inr (.inr rfl))

theorem eq_append_of_word_ok {w : List Char} (h : word w s = .ok rest) : s = w ++ rest := by
  induction w generalizing s with
  | nil => exact Except.ok.inj h
  | cons c w ih =>
    cases s with
    | nil => cases h
    | cons d s =>
      rw [word] at h
      split_ifs at h with hd
      rw [hd, ih h, List.cons_append]

/-! ## Numbers -/

/-- A digit and the digits behind it. -/
theorem exists_digits {c : Char} (hc : c.isDigit = true) (s : List Char) :
    ∃ t, Digits (c :: t) ∧ s = t ++ s.dropWhile Char.isDigit := by
  refine ⟨s.takeWhile Char.isDigit, ⟨List.cons_ne_nil _ _, ?_⟩,
    List.takeWhile_append_dropWhile.symm⟩
  exact List.forall_mem_cons.2 ⟨hc, fun d hd => List.mem_takeWhile_imp hd⟩

theorem exists_sign (s : List Char) :
    ∃ sgn, (sgn = [] ∨ sgn = ['+'] ∨ sgn = ['-']) ∧ s = sgn ++ (sign s).2 := by
  unfold sign
  split
  · exact ⟨['+'], .inr (.inl rfl), rfl⟩
  · exact ⟨['-'], .inr (.inr rfl), rfl⟩
  · exact ⟨[], .inl rfl, rfl⟩

theorem exists_mark {t : List Char} (h : exponentMark? s = some t) :
    ∃ mark, (mark = 'e' ∨ mark = 'E') ∧ s = mark :: t := by
  unfold exponentMark? at h
  split at h
  · obtain rfl := Option.some.inj h
    exact ⟨'e', .inl rfl, rfl⟩
  · obtain rfl := Option.some.inj h
    exact ⟨'E', .inr rfl, rfl⟩
  · cases h

theorem exists_isExponent_of_ok (h : skipOptionalExponent s = .ok rest) :
    ∃ e, IsExponent e ∧ s = e ++ rest := by
  unfold skipOptionalExponent at h
  split at h
  · next t hmarked =>
    obtain ⟨mark, hmark, rfl⟩ := exists_mark hmarked
    obtain ⟨sgn, hsign, ht⟩ := exists_sign t
    unfold skipExponent at h
    split at h
    · cases h
    · next c u hu =>
      split_ifs at h with hc
      obtain rfl := Except.ok.inj h
      obtain ⟨ds, hds, hu'⟩ := exists_digits hc u
      refine ⟨mark :: (sgn ++ c :: ds), .present hmark hsign hds, ?_⟩
      rw [ht, hu, List.cons_append, List.append_assoc, List.cons_append, ← hu']
  · obtain rfl := Except.ok.inj h
    exact ⟨[], .absent, rfl⟩

theorem exists_isFraction_of_ok (h : skipFraction s = .ok rest) :
    ∃ f e, IsFraction f ∧ IsExponent e ∧ s = f ++ (e ++ rest) := by
  unfold skipFraction at h
  split at h
  · split at h
    · cases h
    · next c t =>
      split_ifs at h with hc
      rw [List.dropWhile_cons_of_pos hc] at h
      obtain ⟨ds, hds, ht⟩ := exists_digits hc t
      obtain ⟨e, he, heq⟩ := exists_isExponent_of_ok h
      refine ⟨'.' :: c :: ds, e, .present hds, he, ?_⟩
      rw [← heq, List.cons_append, List.cons_append, ← ht]
  · obtain ⟨e, he, rfl⟩ := exists_isExponent_of_ok h
    exact ⟨[], e, .absent, he, rfl⟩

theorem exists_isNumber_of_ok (h : skipDigits s = .ok rest) {sgn : List Char}
    (hsign : sgn = [] ∨ sgn = ['-']) : ∃ v, IsNumber v ∧ sgn ++ s = v ++ rest := by
  -- what stands in front of the point, and behind it
  have hjoin {w t : List Char} (hw : IsWhole w) (h : skipFraction t = .ok rest) :
      ∃ v, IsNumber v ∧ sgn ++ (w ++ t) = v ++ rest := by
    obtain ⟨f, e, hf, he, rfl⟩ := exists_isFraction_of_ok h
    exact ⟨_, .intro hsign hw hf he, by simp only [List.append_assoc]⟩
  unfold skipDigits at h
  split at h
  · cases h
  · next c s =>
    split_ifs at h with hdigit hzero hmore
    · obtain rfl := hzero
      exact hjoin .zero h
    · have hc : c.isDigit = true := by simpa using hdigit
      obtain ⟨t, ht, hs⟩ := exists_digits hc s
      rw [hs]
      exact hjoin (.positive ht hzero) h

/-! ## Values without brackets -/

theorem exists_isValue_of_skipLeaf_ok (h : skipLeaf s = .ok rest) :
    ∃ v, IsValue v ∧ s = v ++ rest := by
  unfold skipLeaf at h
  split at h
  case h_1 => cases h
  case h_2 =>
    rw [eq_append_of_word_ok h]
    exact ⟨_, .word (w := "null") (by decide), rfl⟩
  case h_3 =>
    rw [eq_append_of_word_ok h]
    exact ⟨_, .word (w := "true") (by decide), rfl⟩
  case h_4 =>
    rw [eq_append_of_word_ok h]
    exact ⟨_, .word (w := "false") (by decide), rfl⟩
  case h_5 =>
    obtain ⟨body, hbody, rfl⟩ := skipString_eq_ok_iff.1 h
    exact ⟨quoted body, .string hbody, (quoted_append body rest).symm⟩
  case h_6 =>
    obtain ⟨v, hv, heq⟩ := exists_isNumber_of_ok h (.inr rfl)
    exact ⟨v, .number hv, heq⟩
  case h_7 =>
    split_ifs at h with hc
    obtain ⟨v, hv, heq⟩ := exists_isNumber_of_ok h (.inl rfl)
    exact ⟨v, .number hv, heq⟩

/-! ## In front of values -/

theorem exists_colon_of_ok (h : colon s = .ok rest) : ∃ b, Blanks b ∧ s = b ++ ':' :: rest := by
  unfold colon at h
  split at h
  · cases h
  · next c t heq =>
    split_ifs at h with hc
    obtain rfl := hc
    obtain rfl := Except.ok.inj h
    exact exists_blanks heq

/-- What is passed over in front of a value comes in front of it, with any blanks between. -/
theorem exists_lead_of_skipName_ok {frame : Frame} (h : skipName frame s = .ok rest) :
    ∃ lead, (∀ b, Blanks b → frame.Lead (lead ++ b)) ∧ s = lead ++ rest := by
  unfold skipName at h
  split at h
  · obtain rfl := Except.ok.inj h
    exact ⟨[], fun b hb => .list hb, rfl⟩
  · split at h
    · cases h
    · next c t heq =>
      split_ifs at h with hc
      obtain rfl := hc
      obtain ⟨b, hb, rfl⟩ := exists_blanks heq
      split at h
      · cases h
      · next hskip =>
        obtain ⟨name, hname, rfl⟩ := skipString_eq_ok_iff.1 hskip
        obtain ⟨b₁, hb₁, rfl⟩ := exists_colon_of_ok h
        refine ⟨b ++ (quoted name ++ (b₁ ++ [':'])), fun b₂ hb₂ => ?_, ?_⟩
        · simp only [List.append_assoc, List.singleton_append]
          exact .record hb hname hb₁ hb₂
        · simp [quoted]

theorem Frame.Lead.blanks_append {frame : Frame} {b lead : List Char} (hb : Blanks b)
    (h : frame.Lead lead) : frame.Lead (b ++ lead) := by
  cases h with
  | list hb' => exact .list (hb.append hb')
  | record hb' hname hb₁ hb₂ =>
    rw [← List.append_assoc]
    exact .record (hb.append hb') hname hb₁ hb₂

/-! ## The loop -/

/-- What is passed over from a place, up to where the last frame is closed. -/
inductive Passes : Place → List Frame → List Char → Prop
  | done : Passes .closed [] []
  | unopened : Passes .opened [] []
  | value {frames : List Frame} {b v t : List Char} (hb : Blanks b) (hv : IsValue v)
      (ht : Passes .closed frames t) : Passes .value frames (b ++ (v ++ t))
  | empty {frame : Frame} {frames : List Frame} {b t : List Char} (hb : Blanks b)
      (ht : Passes .closed frames t) : Passes .opened (frame :: frames) (b ++ frame.closer :: t)
  | filled {frame : Frame} {frames : List Frame} {s t : List Char} (hs : WellFormed (some frame) s)
      (ht : Passes .closed frames t) : Passes .opened (frame :: frames) (s ++ frame.closer :: t)
  | close {frame : Frame} {frames : List Frame} {b t : List Char} (hb : Blanks b)
      (ht : Passes .closed frames t) : Passes .closed (frame :: frames) (b ++ frame.closer :: t)
  | more {frame : Frame} {frames : List Frame} {b s t : List Char} (hb : Blanks b)
      (hs : WellFormed (some frame) s) (ht : Passes .closed frames t) :
      Passes .closed (frame :: frames) (b ++ ',' :: (s ++ frame.closer :: t))

/-- From behind an opening bracket a value is passed over that begins with this bracket. -/
theorem Passes.enclose {frame : Frame} {frames : List Frame} {t b : List Char}
    (h : Passes .opened (frame :: frames) t) (hb : Blanks b) :
    Passes .value frames (b ++ frame.opener :: t) := by
  have hvalue {u t : List Char} (hv : IsValue (frame.opener :: (u ++ [frame.closer])))
      (ht : Passes .closed frames t) :
      Passes .value frames (b ++ frame.opener :: (u ++ frame.closer :: t)) := by
    have hpasses := Passes.value hb hv ht
    simpa only [List.cons_append, List.append_assoc, List.nil_append] using hpasses
  cases h with
  | empty hb' ht => exact hvalue (.empty frame hb') ht
  | filled hs ht => exact hvalue (.filled hs) ht

/-- **A value in a frame is put in front of what follows it.** -/
theorem Passes.exists_filled {frame : Frame} {frames : List Frame} {lead t : List Char}
    (h : Passes .value (frame :: frames) t)
    (hlead : ∀ b, Blanks b → frame.Lead (lead ++ b)) :
    ∃ s u, WellFormed (some frame) s ∧ Passes .closed frames u ∧
      lead ++ t = s ++ frame.closer :: u := by
  cases h with
  | @value _ b v t hb hv ht =>
    cases ht with
    | @close _ _ b' u hb' hu =>
      refine ⟨_, u, .last (hlead b hb) hv hb', hu, ?_⟩
      simp only [List.append_assoc]
    | @more _ _ b' s u hb' hs hu =>
      refine ⟨_, u, .more (hlead b hb) hv hb' hs, hu, ?_⟩
      simp only [List.append_assoc, List.cons_append]

/-- **What the loop passes over is what may be passed over** from where it stands. -/
theorem exists_passes_of_skipFrom_ok {place : Place} {frames : List Frame}
    (h : skipFrom place frames s = .ok rest) : ∃ t, Passes place frames t ∧ s = t ++ rest := by
  fun_induction skipFrom place frames s with
  | case3 | case6 | case8 | case11 | case12 | case15 => cases h
  | case1 s frames t heq _ ih | case2 s frames t heq _ ih =>
    obtain ⟨u, hu, rfl⟩ := ih h
    obtain ⟨b, hb, rfl⟩ := exists_blanks heq
    exact ⟨_, hu.enclose hb, by simp [Frame.opener]⟩
  | case4 s frames t _ _ hleaf _ ih =>
    obtain ⟨u, hu, rfl⟩ := ih h
    obtain ⟨v, hv, heq⟩ := exists_isValue_of_skipLeaf_ok hleaf
    obtain ⟨b, hb, rfl⟩ := exists_blanks heq
    exact ⟨_, .value hb hv hu, by simp⟩
  | case5 s =>
    obtain rfl := Except.ok.inj h
    exact ⟨[], .unopened, rfl⟩
  | case7 s frame frames t heq _ ih =>
    obtain ⟨u, hu, rfl⟩ := ih h
    obtain ⟨b, hb, rfl⟩ := exists_blanks heq
    exact ⟨_, .empty hb hu, by simp⟩
  | case9 s frame frames c t heq _ _ element hname _ ih =>
    obtain ⟨u, hu, rfl⟩ := ih h
    obtain ⟨lead, hlead, hname⟩ := exists_lead_of_skipName_ok hname
    rw [hname] at heq
    obtain ⟨b, hb, rfl⟩ := exists_blanks heq
    have hlead' (b' : List Char) (hb' : Blanks b') : frame.Lead (b ++ lead ++ b') := by
      rw [List.append_assoc]
      exact (hlead b' hb').blanks_append hb
    obtain ⟨content, left, hcontent, hleft, hu⟩ := hu.exists_filled hlead'
    refine ⟨_, .filled hcontent hleft, ?_⟩
    rw [← hu]
    simp
  | case10 s =>
    obtain rfl := Except.ok.inj h
    exact ⟨[], .done, rfl⟩
  | case13 s frame frames t element hname heq _ _ ih =>
    obtain ⟨u, hu, rfl⟩ := ih h
    obtain ⟨b, hb, rfl⟩ := exists_blanks heq
    obtain ⟨lead, hlead, rfl⟩ := exists_lead_of_skipName_ok hname
    obtain ⟨content, left, hcontent, hleft, hu⟩ := hu.exists_filled hlead
    refine ⟨_, .more hb hcontent hleft, ?_⟩
    rw [← hu]
    simp
  | case14 s frame frames t heq _ _ ih =>
    obtain ⟨u, hu, rfl⟩ := ih h
    obtain ⟨b, hb, rfl⟩ := exists_blanks heq
    exact ⟨_, .close hb hu, by simp⟩

/-- **Where passing over succeeds there is a value**, and it is what is gone, with the blanks in
front of it. -/
theorem exists_isValue_of_skip_ok (h : skip s = .ok rest) :
    ∃ b v, Blanks b ∧ IsValue v ∧ s = b ++ (v ++ rest) := by
  obtain ⟨t, ht, rfl⟩ := exists_passes_of_skipFrom_ok h
  cases ht with
  | @value _ b v _ hb hv hdone =>
    cases hdone
    exact ⟨b, v, hb, hv, by simp⟩

end Json
end MeteredChecker
