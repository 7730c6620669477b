import Mathlib.Data.UInt
import MeteredChecker.Proofs.Decimal.RoundTrip
import MeteredChecker.Proofs.Json.Accepted.Record
import MeteredChecker.Proofs.Text.Numeral

/-!
# A counter is read from its digits

A counter has 32 bits, and what it is read from are the digits of a number that has so many
(`counter_reads_iff`).  A number with a sign, a point or an exponent is no counter, and it does
not become one by being rounded or wrapped.

Reading a number goes straight on as long as there are digits.  It turns off at a sign, at a point
and at the mark of an exponent, and where the digits no longer fit in 64 bits, and behind each of
these turns everything ends in a double or in a fault (`Unnatural`).  So a natural number comes
from digits only, and it is the number that they denote.
-/

namespace MeteredChecker
namespace Json

variable {s rest : List Char} {n : Nat}

/-! ## Gathering digits -/

theorem ofDigitChars_digit (c : Char) (ds : List Char) (n : Nat) :
    Nat.ofDigitChars 10 (c :: ds) n = Nat.ofDigitChars 10 ds (n * 10 + digitValue c) := by
  rw [Nat.ofDigitChars_cons, Nat.mul_comm, digitValue]

/-- What is gathered are digits, and the number that they make with what was there. -/
theorem exists_gathered (limit n taken : Nat) (s : List Char) :
    ∃ ds, (∀ c ∈ ds, c.isDigit = true) ∧ s = ds ++ (gather limit n taken s).2.2 ∧
      (gather limit n taken s).1 = Nat.ofDigitChars 10 ds n := by
  induction s generalizing n taken with
  | nil => exact ⟨[], nofun, rfl, rfl⟩
  | cons c s ih =>
    rw [gather]
    split
    · next hroom =>
      rw [Bool.and_eq_true] at hroom
      obtain ⟨ds, hds, hs, hvalue⟩ := ih (n * 10 + digitValue c) (taken + 1)
      refine ⟨c :: ds, List.forall_mem_cons.2 ⟨hroom.1, hds⟩, ?_, ?_⟩
      · rw [List.cons_append, ← hs]
      · rw [hvalue, ofDigitChars_digit]
    · exact ⟨[], nofun, rfl, rfl⟩

/-- **Digits are gathered** if there is room for all of them. -/
theorem gather_append {limit : Nat} {ds : List Char} (hds : ∀ c ∈ ds, c.isDigit = true)
    (hroom : Nat.ofDigitChars 10 ds n < limit) (hrest : ∀ c ∈ rest.head?, c.isDigit = false)
    (taken : Nat) :
    gather limit n taken (ds ++ rest) = (Nat.ofDigitChars 10 ds n, taken + ds.length, rest) := by
  induction ds generalizing n taken with
  | nil =>
    rw [List.nil_append]
    cases rest with
    | nil => rfl
    | cons c rest =>
      rw [gather, hrest c rfl]
      rfl
  | cons c ds ih =>
    obtain ⟨hc, hds⟩ := List.forall_mem_cons.1 hds
    rw [ofDigitChars_digit] at hroom ⊢
    have hfirst := Nat.lt_of_le_of_lt (Decimal.le_ofDigitChars ds _) hroom
    rw [List.cons_append, gather, hc, decide_eq_true hfirst, Bool.and_self, if_pos rfl,
      ih hds hroom, List.length_cons, Nat.add_assoc, Nat.add_comm 1]

/-! ## Natural numbers -/

/-- This is no natural number. -/
def Unnatural (r : Result Number) : Prop := ∀ n rest, r ≠ .ok (.natural n, rest)

theorem unnatural_error (f : Fault) : Unnatural (.error f) := nofun

theorem unnatural_float (x : Float) (rest : List Char) : Unnatural (.ok (.float x, rest)) := nofun

theorem unnatural_floating (negative : Bool) (n : Nat) (e : Int) (s : List Char) :
    Unnatural (floating negative n e s) := by
  unfold floating
  split
  · exact unnatural_float _ _
  · exact unnatural_error _

theorem unnatural_exponent (negative : Bool) (n : Nat) (shift : Int) (s : List Char) :
    Unnatural (exponent negative n shift s) := by
  unfold exponent
  split
  · exact unnatural_error _
  · split
    · split
      · exact unnatural_floating _ _ _ _
      · split
        · exact unnatural_error _
        · exact unnatural_float _ _
    · exact unnatural_error _

theorem unnatural_optionalExponent (negative : Bool) (n : Nat) (shift : Int) (s : List Char) :
    Unnatural (optionalExponent negative n shift s) := by
  unfold optionalExponent
  split
  · exact unnatural_exponent _ _ _ _
  · exact unnatural_floating _ _ _ _

theorem unnatural_fraction (negative : Bool) (n : Nat) (shift : Int) (s : List Char) :
    Unnatural (fraction negative n shift s) := by
  unfold fraction
  split
  · exact unnatural_error _
  · split_ifs
    · exact unnatural_optionalExponent _ _ _ _
    · exact unnatural_error _

/-- If no digits are dropped there are none. -/
theorem dropWhile_isDigit_of_isEmpty (h : (s.takeWhile Char.isDigit).isEmpty = true) :
    s.dropWhile Char.isDigit = s ∧ ∀ c ∈ s.head?, c.isDigit = false := by
  cases s with
  | nil => exact ⟨rfl, nofun⟩
  | cons c s =>
    have hc : c.isDigit = false := by
      by_contra hc
      rw [List.takeWhile_cons_of_pos (by simpa using hc)] at h
      cases h
    refine ⟨List.dropWhile_cons_of_neg (by simp [hc]), ?_⟩
    rintro d ⟨⟩
    exact hc

/-- **A natural number has no sign**, and all its digits have been gathered. -/
theorem exists_digits_of_unsigned_natural {negative : Bool}
    (h : unsigned negative s = .ok (.natural n, rest)) :
    negative = false ∧ ∃ ds, (∀ c ∈ ds, c.isDigit = true) ∧ Nat.ofDigitChars 10 ds 0 = n ∧
      s = ds ++ rest ∧ ∀ c ∈ rest.head?, c.isDigit = false := by
  obtain ⟨ds, hds, hs, hvalue⟩ := exists_gathered wordLimit 0 0 s
  unfold unsigned at h
  dsimp only at h
  split at h
  · exact absurd h (unnatural_fraction _ _ _ _ n rest)
  · split_ifs at h with hend
    · obtain ⟨hnumber, hrest⟩ := Prod.mk.inj (Except.ok.inj h)
      obtain ⟨rfl, hn⟩ : negative = false ∧ (gather wordLimit 0 0 s).1 = n := by
        unfold whole at hnumber
        split_ifs at hnumber with hsign hsize
        exact ⟨by simpa using hsign, Number.natural.inj hnumber⟩
      rw [Bool.and_eq_true] at hend
      obtain ⟨hdropped, hhead⟩ := dropWhile_isDigit_of_isEmpty hend.1
      rw [hdropped] at hrest
      rw [hrest] at hs hhead
      exact ⟨rfl, ds, hds, hvalue.symm.trans hn, hs, hhead⟩
    · exact absurd h (unnatural_optionalExponent _ _ _ _ n rest)

theorem exists_isWhole_of_digits_natural {negative : Bool}
    (h : digits negative s = .ok (.natural n, rest)) :
    negative = false ∧ ∃ w, IsWhole w ∧ Nat.ofDigitChars 10 w 0 = n ∧ s = w ++ rest := by
  unfold digits at h
  split at h
  · cases h
  · next c t =>
    split_ifs at h with hdigit hzeros
    obtain ⟨hsign, ds, hds, hvalue, hs, hrest⟩ := exists_digits_of_unsigned_natural h
    have hc : c.isDigit = true := by simpa using hdigit
    refine ⟨hsign, ds, ?_, hvalue, hs⟩
    cases ds with
    | nil =>
      -- then the first digit would have been left
      rw [List.nil_append] at hs
      rw [← hs] at hrest
      rw [hrest c rfl] at hc
      cases hc
    | cons d ds =>
      obtain ⟨rfl, rfl⟩ := List.cons.inj hs
      by_cases hzero : c = '0'
      · obtain rfl := hzero
        cases ds with
        | nil => exact .zero
        | cons d ds =>
          have hd := hds d (List.mem_cons_of_mem _ List.mem_cons_self)
          exact absurd (by simp [hd]) hzeros
      · exact .positive ⟨List.cons_ne_nil _ _, hds⟩ hzero

/-- **Digits are all that a natural number is read from.** -/
theorem exists_isWhole_of_number_natural (h : number s = .ok (.natural n, rest)) :
    ∃ w, IsWhole w ∧ Nat.ofDigitChars 10 w 0 = n ∧ s = w ++ rest := by
  unfold number at h
  split at h
  · exact absurd (exists_isWhole_of_digits_natural h).1 (by decide)
  · exact (exists_isWhole_of_digits_natural h).2

theorem IsWhole.areDigits {w : List Char} (hw : IsWhole w) : Digits w := by
  cases hw with
  | zero => decide
  | positive hs => exact hs

theorem unsigned_append {ds : List Char} (hds : ∀ c ∈ ds, c.isDigit = true)
    (hroom : Nat.ofDigitChars 10 ds 0 < wordLimit) (hrest : Delimits rest) :
    unsigned false (ds ++ rest) = .ok (.natural (Nat.ofDigitChars 10 ds 0), rest) := by
  have hnot := hrest.not_number
  rw [unsigned, gather_append hds hroom fun c hc => (hnot c hc).1]
  cases rest with
  | nil => rfl
  | cons c rest =>
    obtain ⟨hdigit, hpoint, he, hE⟩ := hnot c rfl
    have hdigit' : ¬ c.isDigit = true := by simp [hdigit]
    have hmark : exponentMark? (c :: rest) = none := by
      unfold exponentMark?
      split
      · next heq => exact absurd (List.cons.inj heq).1 he
      · next heq => exact absurd (List.cons.inj heq).1 hE
      · rfl
    dsimp only
    rw [List.dropWhile_cons_of_neg hdigit', List.takeWhile_cons_of_neg hdigit']
    split
    · next heq => exact absurd (List.cons.inj heq).1 hpoint
    · rw [hmark]
      rfl

/-- **And from digits it is read**, if it has 64 bits. -/
theorem IsWhole.number_append {w : List Char} (hw : IsWhole w)
    (hroom : Nat.ofDigitChars 10 w 0 < wordLimit) (hrest : Delimits rest) :
    number (w ++ rest) = .ok (.natural (Nat.ofDigitChars 10 w 0), rest) := by
  have hread := unsigned_append hw.areDigits.digit hroom hrest
  obtain ⟨c, t, rfl, hc, -⟩ := hw.areDigits.exists_cons
  have hdigits : digits false (c :: t ++ rest) = unsigned false (c :: t ++ rest) := by
    have hzeros : (decide (c = '0') && (t ++ rest).head?.any Char.isDigit) = false := by
      cases hw with
      | zero =>
        cases rest with
        | nil => rfl
        | cons d rest => simp [(hrest.not_number d rfl).1]
      | positive _ hc => rw [decide_eq_false hc, Bool.false_and]
    rw [List.cons_append, digits, hc, hzeros]
    rfl
  rw [← hread, ← hdigits, List.cons_append]
  unfold number
  split
  · next heq =>
    rw [(List.cons.inj heq).1] at hc
    cases hc
  · rfl

/-! ## Counters -/

theorem IsWhole.isValue {w : List Char} (hw : IsWhole w) : IsValue w := by
  have hnumber := IsNumber.intro (.inl rfl) hw .absent .absent
  rw [List.nil_append, List.append_nil, List.append_nil] at hnumber
  exact .number hnumber

theorem IsWhole.eq_toDigits {w : List Char} (hw : IsWhole w) :
    w = Nat.toDigits 10 (Nat.ofDigitChars 10 w 0) := by
  refine Text.IsNumeral.eq_toDigits ⟨hw.areDigits.nonempty, hw.areDigits.digit, fun hzero => ?_⟩
  cases hw with
  | zero => rfl
  | positive _ hc => exact absurd (Option.some.inj hzero) hc

theorem isWhole_toDigits (n : Nat) : IsWhole (Nat.toDigits 10 n) := by
  have hnumeral := Text.isNumeral_toDigits n
  generalize Nat.toDigits 10 n = w at hnumeral
  obtain ⟨c, t, rfl⟩ := List.exists_cons_of_ne_nil hnumeral.nonempty
  by_cases hc : c = '0'
  · rw [hnumeral.noZeroInFront (congrArg some hc)]
    exact .zero
  · exact .positive ⟨hnumeral.nonempty, hnumeral.digit⟩ hc

/-- A value that is digits is the digits of a number. -/
theorem IsValue.isWhole {v : List Char} (hv : IsValue v) (hdigits : Digits v) : IsWhole v := by
  have hnot {c : Char} (hc : c ∈ v) (h : c.isDigit = false) : False := by
    rw [hdigits.digit c hc] at h
    cases h
  cases hv with
  | word hw =>
    simp only [List.mem_cons, List.not_mem_nil, or_false] at hw
    rcases hw with rfl | rfl | rfl <;> exact (hnot List.mem_cons_self rfl).elim
  | number hs =>
    obtain ⟨rfl | rfl, hwhole, hfraction, hexponent⟩ := hs
    · cases hfraction with
      | absent =>
        cases hexponent with
        | absent => simpa using hwhole
        | @present mark _ _ hmark =>
          refine (hnot (c := mark) (by simp) ?_).elim
          rcases hmark with rfl | rfl <;> rfl
      | present => exact (hnot (c := '.') (by simp) rfl).elim
    · exact (hnot List.mem_cons_self rfl).elim
  | string hs => exact (hnot List.mem_cons_self rfl).elim
  | empty frame hb | @filled frame s hs =>
    cases frame <;> exact (hnot List.mem_cons_self rfl).elim

/-- **A counter is read from its digits**, wherever they stand. -/
theorem reads_toDigits (n : UInt32) : Reader.counter.Reads (Nat.toDigits 10 n.toNat) n := by
  intro b rest hb hrest
  have hwhole := isWhole_toDigits n.toNat
  have hvalue : Nat.ofDigitChars 10 (Nat.toDigits 10 n.toNat) 0 = n.toNat :=
    Nat.ofDigitChars_ten_toDigits
  have hnumber := hwhole.number_append (hvalue.symm ▸ Nat.lt_trans n.toNat_lt (by decide)) hrest
  rw [hvalue] at hnumber
  have hcounter : (Number.natural n.toNat).counter rest = .ok (n, rest) := by
    rw [Number.counter, if_pos n.toNat_lt]
    simp
  show readCounter (b ++ (Nat.toDigits 10 n.toNat ++ rest)) = .ok (n, rest)
  rw [readCounter, hb.skipBlanks_append, unblank_value hwhole.isValue]
  generalize Nat.toDigits 10 n.toNat = w at hwhole hnumber
  obtain ⟨c, t, rfl, hc, -⟩ := hwhole.areDigits.exists_cons
  rw [List.cons_append] at hnumber ⊢
  dsimp only
  rw [if_pos (by simp [hc]), hnumber]
  exact hcounter

/-- **And from nothing else.** -/
theorem exists_toDigits_of_readCounter_ok {n : UInt32} (h : readCounter s = .ok (n, rest)) :
    ∃ b, Blanks b ∧ s = b ++ (Nat.toDigits 10 n.toNat ++ rest) := by
  unfold readCounter at h
  split at h
  · cases h
  · next c t heq =>
    obtain ⟨b, hb, rfl⟩ := exists_blanks heq
    split_ifs at h
    split at h
    · cases h
    · next number left hread =>
      unfold Number.counter at h
      split at h
      · next k =>
        split_ifs at h with hsize
        obtain ⟨rfl, rfl⟩ := Prod.mk.inj (Except.ok.inj h)
        obtain ⟨w, hw, rfl, hs⟩ := exists_isWhole_of_number_natural hread
        refine ⟨b, hb, ?_⟩
        rw [hs, UInt32.toNat_ofNat_of_lt' hsize, ← hw.eq_toDigits]
      · cases h
      · cases h

theorem honest_counter : Reader.counter.Honest := by
  intro s n rest h
  obtain ⟨b, hb, hs⟩ := exists_toDigits_of_readCounter_ok h
  exact ⟨b, _, hb, (isWhole_toDigits n.toNat).isValue, hs, reads_toDigits n⟩

/-- **A value is read as a counter if and only if it is its digits.** -/
theorem counter_reads_iff {v : List Char} (hv : IsValue v) {n : UInt32} :
    Reader.counter.Reads v n ↔ v = Nat.toDigits 10 n.toNat := by
  constructor
  · intro reads
    obtain ⟨b, hb, hs⟩ := exists_toDigits_of_readCounter_ok (reads [] [] blanks_nil nofun)
    obtain ⟨-, heq⟩ := blanks_nil.append_inj hb (unblank_value hv [])
      (unblank_value (isWhole_toDigits n.toNat).isValue []) hs
    exact List.append_cancel_right heq
  · rintro rfl
    exact reads_toDigits n

end Json
end MeteredChecker
