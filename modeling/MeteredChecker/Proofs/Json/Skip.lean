import MeteredChecker.Proofs.Json.Literal

/-!
# Values that nobody reads are passed over

Passing over a value takes the value away and nothing else, whatever the value is
(`skip_append`).  The one thing that it has to be told from is a longer number, so what comes
behind it may not be such that a number could go on: `Delimits`.  Behind a value there always
is a blank, a comma or a closing bracket, or the text ends there.

Passing over is a loop with a stack of frames, and the value is a tree.  What connects the two
is that a value inside any frames brings the loop from where the value begins to where it ends,
and leaves the frames as they are.  Between the brackets of a frame that is not all: there the
loop gets to a value in two ways, from behind the bracket and from behind a comma, and both
have to be followed (`Passed`).
-/

namespace MeteredChecker
namespace Json

/-! ## Blanks -/

theorem Blanks.isBlank {b : List Char} (hb : Blanks b) : ∀ c ∈ b, isBlank c = true := by
  intro c hc
  rcases hb c hc with rfl | rfl | rfl | rfl <;> rfl

theorem Blanks.skipBlanks_append {b : List Char} (hb : Blanks b) (s : List Char) :
    skipBlanks (b ++ s) = skipBlanks s :=
  List.dropWhile_append_of_pos hb.isBlank

theorem blanks_nil : Blanks [] := fun _ h => absurd h List.not_mem_nil

theorem skipBlanks_cons {c : Char} (hc : isBlank c = false) (s : List Char) :
    skipBlanks (c :: s) = c :: s :=
  List.dropWhile_cons_of_neg (by simp [hc])

/-- Here a value may end, be it a number. -/
def Delimits (rest : List Char) : Prop :=
  ∀ c ∈ rest.head?, isBlank c = true ∨ c = ',' ∨ c = ']' ∨ c = '\x7d'

theorem delimits_comma (s : List Char) : Delimits (',' :: s) := by
  rintro c ⟨⟩
  exact .inr (.inl rfl)

theorem delimits_closer (frame : Frame) (s : List Char) : Delimits (frame.closer :: s) := by
  rintro c ⟨⟩
  cases frame
  · exact .inr (.inr (.inl rfl))
  · exact .inr (.inr (.inr rfl))

theorem Blanks.delimits_append {b : List Char} (hb : Blanks b) {rest : List Char}
    (hrest : Delimits rest) : Delimits (b ++ rest) := by
  cases b with
  | nil => exact hrest
  | cons c b =>
    rintro c ⟨⟩
    exact .inl (hb.isBlank c List.mem_cons_self)

/-! ## Words and numbers -/

theorem word_append (w s : List Char) : word w (w ++ s) = .ok s := by
  induction w with
  | nil => rfl
  | cons c w ih => rw [List.cons_append, word, if_pos rfl, ih]

theorem dropWhile_isDigit_append {s rest : List Char} (hs : ∀ c ∈ s, c.isDigit = true)
    (hrest : ∀ c ∈ rest.head?, c.isDigit = false) :
    (s ++ rest).dropWhile Char.isDigit = rest := by
  rw [List.dropWhile_append_of_pos hs]
  cases rest with
  | nil => rfl
  | cons c rest => exact List.dropWhile_cons_of_neg (by simp [hrest c rfl])

theorem Digits.exists_cons {s : List Char} (hs : Digits s) :
    ∃ c t, s = c :: t ∧ c.isDigit = true ∧ ∀ d ∈ t, d.isDigit = true := by
  obtain ⟨c, t, rfl⟩ := List.exists_cons_of_ne_nil hs.nonempty
  exact ⟨c, t, rfl, hs.digit c List.mem_cons_self,
    fun d hd => hs.digit d (List.mem_cons_of_mem c hd)⟩

/-- The characters by which a number could go on. -/
theorem Delimits.not_number {rest : List Char} (hrest : Delimits rest) :
    ∀ c ∈ rest.head?, c.isDigit = false ∧ c ≠ '.' ∧ c ≠ 'e' ∧ c ≠ 'E' := by
  intro c hc
  rcases hrest c hc with hblank | rfl | rfl | rfl
  · simp only [isBlank, Bool.or_eq_true, beq_iff_eq] at hblank
    rcases hblank with ((rfl | rfl) | rfl) | rfl <;> decide
  all_goals decide

theorem IsExponent.not_digit {e rest : List Char} (he : IsExponent e) (hrest : Delimits rest) :
    ∀ c ∈ (e ++ rest).head?, c.isDigit = false ∧ c ≠ '.' := by
  cases he with
  | absent => exact fun c hc => ⟨(hrest.not_number c hc).1, (hrest.not_number c hc).2.1⟩
  | present hmark =>
    rintro c ⟨⟩
    rcases hmark with rfl | rfl <;> decide

theorem IsFraction.not_digit {f e rest : List Char} (hf : IsFraction f) (he : IsExponent e)
    (hrest : Delimits rest) : ∀ c ∈ (f ++ (e ++ rest)).head?, c.isDigit = false := by
  cases hf with
  | absent => exact fun c hc => (he.not_digit hrest c hc).1
  | present =>
    rintro c ⟨⟩
    rfl

theorem IsExponent.skip_append {e rest : List Char} (he : IsExponent e) (hrest : Delimits rest) :
    skipOptionalExponent (e ++ rest) = .ok rest := by
  cases he with
  | absent =>
    rw [List.nil_append, skipOptionalExponent]
    cases rest with
    | nil => rfl
    | cons c rest =>
      obtain ⟨-, -, he, hE⟩ := hrest.not_number c rfl
      simp [exponentMark?, he, hE]
  | @present mark sgn s hmark hsign hs =>
    obtain ⟨c, t, rfl, hc, ht⟩ := hs.exists_cons
    have hmarked : exponentMark? (mark :: (sgn ++ c :: t) ++ rest) =
        some (sgn ++ c :: (t ++ rest)) := by
      rcases hmark with rfl | rfl <;> simp [exponentMark?]
    have hsigned : (sign (sgn ++ c :: (t ++ rest))).2 = c :: (t ++ rest) := by
      rcases hsign with rfl | rfl | rfl
      · have hplus : c ≠ '+' := by rintro rfl; cases hc
        have hminus : c ≠ '-' := by rintro rfl; cases hc
        simp [sign, hplus, hminus]
      all_goals rfl
    rw [skipOptionalExponent, hmarked]
    dsimp only
    rw [skipExponent, hsigned]
    dsimp only
    rw [if_pos hc, dropWhile_isDigit_append ht fun d hd => (hrest.not_number d hd).1]

theorem IsFraction.skip_append {f e rest : List Char} (hf : IsFraction f) (he : IsExponent e)
    (hrest : Delimits rest) : skipFraction (f ++ (e ++ rest)) = .ok rest := by
  have hnotDigit := he.not_digit hrest
  cases hf with
  | absent =>
    rw [List.nil_append, ← he.skip_append hrest]
    generalize e ++ rest = s at hnotDigit
    unfold skipFraction
    split
    · exact absurd rfl (hnotDigit '.' rfl).2
    · rfl
  | present hs =>
    obtain ⟨c, t, rfl, hc, -⟩ := id hs.exists_cons
    rw [List.cons_append, List.cons_append, skipFraction, ← List.cons_append, if_pos hc,
      dropWhile_isDigit_append hs.digit fun d hd => (hnotDigit d hd).1, he.skip_append hrest]

theorem IsWhole.skip_append {w s : List Char} (hw : IsWhole w)
    (hs : ∀ c ∈ s.head?, c.isDigit = false) : skipDigits (w ++ s) = skipFraction s := by
  cases hw with
  | zero =>
    have hnone : s.head?.any Char.isDigit = false := by
      cases s with
      | nil => rfl
      | cons c s => simpa using hs c rfl
    rw [List.singleton_append, skipDigits, if_neg (by decide), if_pos rfl, hnone]
    rfl
  | @positive c t ht hc =>
    have hdigit : c.isDigit = true := ht.digit c List.mem_cons_self
    rw [List.cons_append, skipDigits, if_neg (by simp [hdigit]), if_neg hc,
      dropWhile_isDigit_append (fun d hd => ht.digit d (List.mem_cons_of_mem c hd)) hs]

theorem skipLeaf_digit {c : Char} (hc : c.isDigit = true) (s : List Char) :
    skipLeaf (c :: s) = skipDigits (c :: s) := by
  unfold skipLeaf
  split
  case h_7 heq =>
    obtain ⟨rfl, rfl⟩ := List.cons.inj heq
    rw [if_pos hc]
  case h_1 heq => cases heq
  all_goals
    rename_i heq
    obtain ⟨rfl, -⟩ := List.cons.inj heq
    cases hc

/-- **A number that nobody reads is passed over**, of whatever size it is. -/
theorem IsNumber.skipLeaf_append {s rest : List Char} (hs : IsNumber s) (hrest : Delimits rest) :
    skipLeaf (s ++ rest) = .ok rest := by
  obtain ⟨hsign, hwhole, hfraction, hexponent⟩ := hs
  rename_i sgn w f e
  have hdigits : skipDigits (w ++ (f ++ (e ++ rest))) = .ok rest := by
    rw [hwhole.skip_append (hfraction.not_digit hexponent hrest),
      hfraction.skip_append hexponent hrest]
  rw [List.append_assoc, List.append_assoc, List.append_assoc]
  rcases hsign with rfl | rfl
  · rw [List.nil_append, ← hdigits]
    cases hwhole with
    | zero => exact skipLeaf_digit rfl _
    | positive hs => exact skipLeaf_digit (hs.digit _ List.mem_cons_self) _
  · exact hdigits

/-! ## Rounds of the loop -/

section rounds

variable {frame : Frame} {frames : List Frame} {s rest element : List Char}

theorem skipFrom_value_leaf {leaf : List Char} (hs : skipBlanks s = leaf)
    (hleaf : skipLeaf leaf = .ok rest) :
    skipFrom .value frames s = skipFrom .closed frames rest := by
  conv => lhs; rw [skipFrom]
  split
  · next heq => rw [← hs, heq] at hleaf; cases hleaf
  · next heq => rw [← hs, heq] at hleaf; cases hleaf
  · rw [← hs] at hleaf
    split
    · next heq => rw [hleaf] at heq; cases heq
    · next heq => rw [hleaf] at heq; cases heq; rfl

theorem skipFrom_value_open (hs : skipBlanks s = frame.opener :: rest) :
    skipFrom .value frames s = skipFrom .opened (frame :: frames) rest := by
  conv => lhs; rw [skipFrom]
  cases frame <;> split <;> rename_i heq <;> rw [hs] at heq <;> simp_all [Frame.opener]

theorem skipFrom_opened_close (hs : skipBlanks s = frame.closer :: rest) :
    skipFrom .opened (frame :: frames) s = skipFrom .closed frames rest := by
  conv => lhs; rw [skipFrom]
  split
  · next heq => rw [hs] at heq; cases heq
  · next heq =>
    rw [hs] at heq
    obtain ⟨rfl, rfl⟩ := List.cons.inj heq
    rw [if_pos rfl]

theorem skipFrom_opened_item {c : Char} (hs : skipBlanks s = c :: rest) (hc : c ≠ frame.closer)
    (hname : skipName frame (c :: rest) = .ok element) :
    skipFrom .opened (frame :: frames) s = skipFrom .value (frame :: frames) element := by
  conv => lhs; rw [skipFrom]
  split
  · next heq => rw [hs] at heq; cases heq
  · next heq =>
    rw [hs] at heq
    obtain ⟨rfl, rfl⟩ := List.cons.inj heq
    rw [if_neg hc]
    split
    · next heq => rw [hname] at heq; cases heq
    · next heq => rw [hname] at heq; cases heq; rfl

theorem skipFrom_closed_close (hs : skipBlanks s = frame.closer :: rest) :
    skipFrom .closed (frame :: frames) s = skipFrom .closed frames rest := by
  have hcomma : frame.closer ≠ ',' := by cases frame <;> decide
  conv => lhs; rw [skipFrom]
  split
  · next heq => rw [hs] at heq; cases heq
  · next heq =>
    rw [hs] at heq
    obtain ⟨rfl, rfl⟩ := List.cons.inj heq
    rw [if_neg hcomma, if_pos rfl]

theorem skipFrom_closed_item (hs : skipBlanks s = ',' :: rest)
    (hname : skipName frame rest = .ok element) :
    skipFrom .closed (frame :: frames) s = skipFrom .value (frame :: frames) element := by
  conv => lhs; rw [skipFrom]
  split
  · next heq => rw [hs] at heq; cases heq
  · next heq =>
    rw [hs] at heq
    obtain ⟨rfl, rfl⟩ := List.cons.inj heq
    rw [if_pos rfl]
    split
    · next heq => rw [hname] at heq; cases heq
    · next heq => rw [hname] at heq; cases heq; rfl

end rounds

/-! ## Values in frames -/

theorem quoted_append (body s : List Char) : quoted body ++ s = '"' :: (body ++ '"' :: s) := by
  simp [quoted]

theorem colon_append {b : List Char} (hb : Blanks b) (s : List Char) :
    colon (b ++ ':' :: s) = .ok s := by
  rw [colon, hb.skipBlanks_append, skipBlanks_cons rfl]
  rfl

/-- **What comes in front of a value is passed over** from behind a comma, blanks apart. -/
theorem Frame.Lead.skipName {frame : Frame} {lead : List Char} (hlead : frame.Lead lead)
    (s : List Char) : ∃ b, Blanks b ∧ skipName frame (lead ++ s) = .ok (b ++ s) := by
  cases hlead with
  | list hb => exact ⟨lead, hb, rfl⟩
  | @record b name b₁ b₂ hb hname hb₁ hb₂ =>
    refine ⟨b₂, hb₂, ?_⟩
    have htext : b ++ (quoted name ++ (b₁ ++ ':' :: b₂)) ++ s =
        b ++ '"' :: (name ++ '"' :: (b₁ ++ ':' :: (b₂ ++ s))) := by simp [quoted]
    rw [htext, Json.skipName, hb.skipBlanks_append, skipBlanks_cons rfl]
    dsimp only
    rw [if_pos rfl, skipString_append hname]
    exact colon_append hb₁ _

/-- **And from behind a bracket**, if what comes then does not close the frame. -/
theorem Frame.Lead.opened {frame : Frame} {lead : List Char} (hlead : frame.Lead lead) {c : Char}
    (hblank : isBlank c = false) (hc : c ≠ frame.closer) (frames : List Frame) (s : List Char) :
    ∃ b, Blanks b ∧ skipFrom .opened (frame :: frames) (lead ++ c :: s) =
      skipFrom .value (frame :: frames) (b ++ c :: s) := by
  cases hlead with
  | list hb =>
    refine ⟨[], blanks_nil, skipFrom_opened_item ?_ hc rfl⟩
    rw [hb.skipBlanks_append, skipBlanks_cons hblank]
  | @record b name b₁ b₂ hb hname hb₁ hb₂ =>
    have hlead' : Frame.Lead .record ([] ++ (quoted name ++ (b₁ ++ ':' :: b₂))) :=
      .record blanks_nil hname hb₁ hb₂
    obtain ⟨t, ht, hskip⟩ := hlead'.skipName (c :: s)
    refine ⟨t, ht, skipFrom_opened_item ?_ (by decide : '"' ≠ _) hskip⟩
    rw [List.append_assoc, hb.skipBlanks_append]
    exact skipBlanks_cons rfl _

/-- A value begins with a character that is neither a blank nor closes a frame. -/
theorem WellFormed.exists_cons {v : List Char} (hv : IsValue v) :
    ∃ c s, v = c :: s ∧ isBlank c = false ∧ ∀ frame : Frame, c ≠ frame.closer := by
  have hclosers {c : Char} (hlist : c ≠ ']') (hrecord : c ≠ '\x7d') :
      ∀ frame : Frame, c ≠ frame.closer
    | .list => hlist
    | .record => hrecord
  have hdigit {c : Char} (hc : c.isDigit = true) :
      isBlank c = false ∧ ∀ frame : Frame, c ≠ frame.closer := by
    have hne {d : Char} (hd : d.isDigit = false) : c ≠ d := by
      rintro rfl
      rw [hc] at hd
      cases hd
    refine ⟨?_, hclosers (hne rfl) (hne rfl)⟩
    simp [isBlank, hne]
  cases hv with
  | word hw =>
    simp only [List.mem_cons, List.not_mem_nil, or_false] at hw
    rcases hw with rfl | rfl | rfl <;>
      exact ⟨_, _, rfl, rfl, hclosers (by decide) (by decide)⟩
  | number hs =>
    obtain ⟨hsign, hwhole, -, -⟩ := hs
    rcases hsign with rfl | rfl
    · cases hwhole with
      | zero => exact ⟨_, _, rfl, hdigit rfl⟩
      | positive hs => exact ⟨_, _, rfl, hdigit (hs.digit _ List.mem_cons_self)⟩
    · exact ⟨_, _, rfl, rfl, hclosers (by decide) (by decide)⟩
  | string hs => exact ⟨_, _, rfl, rfl, hclosers (by decide) (by decide)⟩
  | empty frame hb | @filled frame s hs =>
    cases frame <;> exact ⟨_, _, rfl, rfl, hclosers (by decide) (by decide)⟩

/-- What passing over comes to: a value is gone, and so are what is between the brackets of a
frame, from behind the opening one or from behind a comma, and the closing bracket. -/
def Passed : Option Frame → List Char → Prop
  | none, v => ∀ (frames : List Frame) (b rest : List Char), Blanks b → Delimits rest →
      skipFrom .value frames (b ++ (v ++ rest)) = skipFrom .closed frames rest
  | some frame, s => ∀ (frames : List Frame) (rest : List Char),
      skipFrom .opened (frame :: frames) (s ++ frame.closer :: rest) =
        skipFrom .closed frames rest ∧
      ∀ b, Blanks b → skipFrom .closed (frame :: frames) (b ++ ',' :: (s ++ frame.closer :: rest)) =
        skipFrom .closed frames rest

theorem passed_leaf {v : List Char} (hv : IsValue v)
    (hleaf : ∀ rest, Delimits rest → skipLeaf (v ++ rest) = .ok rest) : Passed none v := by
  intro frames b rest hb hrest
  obtain ⟨c, s, rfl, hblank, -⟩ := hv.exists_cons
  refine skipFrom_value_leaf ?_ (hleaf rest hrest)
  rw [hb.skipBlanks_append]
  exact skipBlanks_cons hblank _

theorem skipBlanks_opener (frame : Frame) (s : List Char) :
    skipBlanks (frame.opener :: s) = frame.opener :: s := by
  cases frame <;> exact skipBlanks_cons rfl s

theorem skipBlanks_closer (frame : Frame) (s : List Char) :
    skipBlanks (frame.closer :: s) = frame.closer :: s := by
  cases frame <;> exact skipBlanks_cons rfl s

/-- Where a frame begins, the loop goes on between its brackets. -/
theorem skipFrom_value_frame {b : List Char} (hb : Blanks b) (frame : Frame)
    (frames : List Frame) (s rest : List Char) :
    skipFrom .value frames (b ++ (frame.opener :: (s ++ [frame.closer]) ++ rest)) =
      skipFrom .opened (frame :: frames) (s ++ frame.closer :: rest) := by
  refine skipFrom_value_open ?_
  rw [hb.skipBlanks_append, List.cons_append, skipBlanks_opener, List.append_assoc,
    List.singleton_append]

/-- A value in a frame is gone with what comes in front of it, by either way. -/
theorem Frame.Lead.passed {frame : Frame} {lead v : List Char} (hlead : frame.Lead lead)
    (hv : IsValue v) (passed : Passed none v) {rest : List Char} (hrest : Delimits rest)
    (frames : List Frame) :
    skipFrom .opened (frame :: frames) (lead ++ (v ++ rest)) =
        skipFrom .closed (frame :: frames) rest ∧
      ∀ b, Blanks b → skipFrom .closed (frame :: frames) (b ++ ',' :: (lead ++ (v ++ rest))) =
        skipFrom .closed (frame :: frames) rest := by
  constructor
  · obtain ⟨c, s, rfl, hblank, hcloser⟩ := hv.exists_cons
    obtain ⟨t, ht, hopened⟩ := hlead.opened hblank (hcloser frame) frames (s ++ rest)
    rw [← passed (frame :: frames) t rest ht hrest]
    exact hopened
  · intro b hb
    obtain ⟨t, ht, hname⟩ := hlead.skipName (v ++ rest)
    rw [← passed (frame :: frames) t rest ht hrest]
    refine skipFrom_closed_item ?_ hname
    rw [hb.skipBlanks_append, skipBlanks_cons rfl]

/-- **What is well-formed is passed over**, however deep it nests. -/
theorem WellFormed.passed {place : Option Frame} {s : List Char} (h : WellFormed place s) :
    Passed place s := by
  induction h with
  | @word w hw =>
    refine passed_leaf (.word hw) fun rest _ => ?_
    simp only [List.mem_cons, List.not_mem_nil, or_false] at hw
    rcases hw with rfl | rfl | rfl
    · exact word_append "ull".toList rest
    · exact word_append "rue".toList rest
    · exact word_append "alse".toList rest
  | number hs => exact passed_leaf (.number hs) fun rest hrest => hs.skipLeaf_append hrest
  | string hs =>
    refine passed_leaf (.string hs) fun rest _ => ?_
    rw [quoted_append]
    exact skipString_append hs rest
  | @empty frame b hb =>
    intro frames b' rest hb' _
    rw [skipFrom_value_frame hb']
    refine skipFrom_opened_close ?_
    rw [hb.skipBlanks_append, skipBlanks_closer]
  | @filled frame s _ ih =>
    intro frames b' rest hb' _
    rw [skipFrom_value_frame hb']
    exact (ih frames rest).1
  | @last frame lead v b hlead hv hb ih =>
    intro frames rest
    have hrest := hb.delimits_append (delimits_closer frame rest)
    obtain ⟨hopened, hcomma⟩ := hlead.passed hv ih hrest frames
    have hclose : skipFrom .closed (frame :: frames) (b ++ frame.closer :: rest) =
        skipFrom .closed frames rest :=
      skipFrom_closed_close (by rw [hb.skipBlanks_append, skipBlanks_closer])
    rw [List.append_assoc, List.append_assoc]
    exact ⟨hopened.trans hclose, fun b' hb' => (hcomma b' hb').trans hclose⟩
  | @more frame lead v b s hlead hv hb _ ih ihs =>
    intro frames rest
    have hrest := hb.delimits_append (delimits_comma (s ++ frame.closer :: rest))
    obtain ⟨hopened, hcomma⟩ := hlead.passed hv ih hrest frames
    have hlater := (ihs frames rest).2 b hb
    rw [List.append_assoc, List.append_assoc, List.append_assoc, List.cons_append]
    exact ⟨hopened.trans hlater, fun b' hb' => (hcomma b' hb').trans hlater⟩

/-- **A value that nobody reads is passed over**, with the blanks in front of it. -/
theorem skip_append {b v rest : List Char} (hb : Blanks b) (hv : IsValue v)
    (hrest : Delimits rest) : skip (b ++ (v ++ rest)) = .ok rest := by
  rw [skip, hv.passed [] b rest hb hrest, skipFrom]

end Json
end MeteredChecker
