import MeteredChecker.Decimal.Reader
import MeteredChecker.Proofs.Decimal.Cents

/-!
# An amount is read back from its text

The text of an amount has all of its places, and a reader that gathers them digit by digit ends
where the writer began: with the same sign, the same mantissa and the same scale
(`read?_toText`).  That is more than that the two amounts denote one number.

The reader has many ways to stop early, and none of them is taken.  What keeps it from stopping
is that a number is not less than the one that its first digits make (`le_ofDigitChars`): so if
the whole mantissa has room in 96 bits, every mantissa on the way has.  The 28th place is where
the reader looks whether there is more, and there a text that was written ends.

Nothing of this needs the sign of the number, so it is said for texts with any sign
(`readChars?_spelled`).  A zero with a sign is the only one that an amount does not have, and it
is read as the zero without.
-/

namespace MeteredChecker
namespace Decimal

/-! ## Digits -/

theorem le_ofDigitChars (ds : List Char) (m : Nat) : m ≤ Nat.ofDigitChars 10 ds m := by
  induction ds generalizing m with
  | nil => exact Nat.le_refl m
  | cons c ds ih =>
    rw [Nat.ofDigitChars_cons]
    exact Nat.le_trans (by omega) (ih _)

/-! ## Gathering -/

section gather

variable {c : Char} {ds rest : List Char} {m k : Nat}

theorem ofDigitChars_cons (c : Char) (ds : List Char) (m : Nat) :
    Nat.ofDigitChars 10 (c :: ds) m = Nat.ofDigitChars 10 ds (m * 10 + digitValue c) := by
  rw [Nat.ofDigitChars_cons, Nat.mul_comm, digitValue]

/-- If the whole mantissa has room, so has the one with the first digit. -/
theorem room_of_room_cons (hroom : Nat.ofDigitChars 10 (c :: ds) m < Nat.pow 2 96) :
    m * 10 + digitValue c < Nat.pow 2 96 := by
  rw [ofDigitChars_cons] at hroom
  exact Nat.lt_of_le_of_lt (le_ofDigitChars ds _) hroom

theorem gather_unit (hc : c.isDigit = true) (hroom : m * 10 + digitValue c < Nat.pow 2 96)
    (begun : Bool) (s : List Char) :
    gather m none begun (c :: s) = gather (m * 10 + digitValue c) none true s := by
  rw [gather, if_pos hc]
  exact if_pos hroom

/-- **The digits in front of the point are gathered**, whatever comes behind them. -/
theorem gather_units (hne : ds ≠ []) (hds : ∀ c ∈ ds, c.isDigit = true)
    (hroom : Nat.ofDigitChars 10 ds m < Nat.pow 2 96) (begun : Bool) (rest : List Char) :
    gather m none begun (ds ++ rest) = gather (Nat.ofDigitChars 10 ds m) none true rest := by
  induction ds generalizing m begun with
  | nil => exact absurd rfl hne
  | cons c ds ih =>
    obtain ⟨hc, hds⟩ := List.forall_mem_cons.1 hds
    have hfirst := room_of_room_cons hroom
    rw [ofDigitChars_cons] at hroom ⊢
    rw [List.cons_append, gather_unit hc hfirst]
    cases ds with
    | nil => rfl
    | cons d ds => exact ih (List.cons_ne_nil d ds) hds hroom true

/-- **The digits behind the point are gathered** up to the 28th. -/
theorem gather_places (hds : ∀ c ∈ ds, c.isDigit = true)
    (hroom : Nat.ofDigitChars 10 ds m < Nat.pow 2 96) (hplaces : k + ds.length ≤ 28) :
    gather m (some k) true ds = some (Nat.ofDigitChars 10 ds m, k + ds.length) := by
  induction ds generalizing m k with
  | nil => rfl
  | cons c ds ih =>
    obtain ⟨hc, hds⟩ := List.forall_mem_cons.1 hds
    have hfirst := room_of_room_cons hroom
    rw [ofDigitChars_cons] at hroom ⊢
    rw [List.length_cons] at hplaces ⊢
    rw [gather, if_pos hc]
    dsimp only
    rw [if_pos hfirst]
    cases ds with
    | nil => rfl
    | cons d ds =>
      -- there is another digit, so this is not the last place that there can be
      have hmore : k + 1 < 28 := by
        rw [List.length_cons] at hplaces
        omega
      dsimp only
      rw [decide_eq_true hmore, Bool.true_or, if_pos rfl, ih hds hroom (by omega)]
      congr 2
      omega

theorem gather_point (rest : List Char) :
    gather m none true ('.' :: rest) = gather m (some 0) true rest := by
  rw [gather, if_neg (by decide), if_pos rfl]

end gather

/-! ## Texts of amounts -/

/-- The characters of an amount without its sign. -/
def spelled (mantissa scale : Nat) : List Char :=
  digits 1 (mantissa / 10 ^ scale) ++
    if scale = 0 then [] else '.' :: digits scale (mantissa % 10 ^ scale)

theorem toChars_eq (d : Decimal) : d.toChars = d.signChars ++ spelled d.mantissa d.scale :=
  List.append_assoc _ _ _

/-- The two numerals of an amount make its mantissa. -/
theorem ofDigitChars_numerals (mantissa : Nat) {scale : Nat} (hscale : 0 < scale) :
    Nat.ofDigitChars 10 (digits scale (mantissa % 10 ^ scale)) (mantissa / 10 ^ scale) =
      mantissa := by
  have hlt : mantissa % 10 ^ scale < 10 ^ scale := Nat.mod_lt _ (Nat.pow_pos (by decide))
  rw [Nat.ofDigitChars_eq_ofDigitChars_zero, ofDigitChars_digits, length_digits hscale hlt]
  exact Nat.div_add_mod mantissa (10 ^ scale)

theorem gather_spelled {mantissa scale : Nat} (hmantissa : mantissa < Nat.pow 2 96)
    (hscale : scale ≤ 28) :
    gather 0 none false (spelled mantissa scale) = some (mantissa, scale) := by
  have hunits : Nat.ofDigitChars 10 (digits 1 (mantissa / 10 ^ scale)) 0 = mantissa / 10 ^ scale :=
    ofDigitChars_digits
  have hroom : mantissa / 10 ^ scale < Nat.pow 2 96 :=
    Nat.lt_of_le_of_lt (Nat.div_le_self _ _) hmantissa
  rw [spelled, gather_units digits_ne_nil (fun c => isDigit_of_mem_digits) (by rwa [hunits]),
    hunits]
  rcases Nat.eq_zero_or_pos scale with rfl | hpos
  · rw [if_pos rfl, Nat.pow_zero, Nat.div_one]
    rfl
  · have hlength : (digits scale (mantissa % 10 ^ scale)).length = scale :=
      length_digits hpos (Nat.mod_lt _ (Nat.pow_pos (by decide)))
    have hnumerals := ofDigitChars_numerals mantissa hpos
    rw [if_neg (Nat.ne_of_gt hpos), gather_point,
      gather_places (fun c => isDigit_of_mem_digits) (by rwa [hnumerals]) (by omega),
      hnumerals, hlength, Nat.zero_add]

theorem exists_spelled_eq_cons (mantissa scale : Nat) :
    ∃ c s, spelled mantissa scale = c :: s ∧ c.isDigit = true := by
  have hne : digits 1 (mantissa / 10 ^ scale) ≠ [] := digits_ne_nil
  obtain ⟨c, s, hunits⟩ := List.exists_cons_of_ne_nil hne
  refine ⟨c, _, by rw [spelled, hunits, List.cons_append], ?_⟩
  exact isDigit_of_mem_digits (hunits ▸ List.mem_cons_self)

/-- **A text with any sign, mantissa and scale is read as what it says.** -/
theorem readChars?_spelled (negative : Bool) {mantissa scale : Nat}
    (hmantissa : mantissa < Nat.pow 2 96) (hscale : scale ≤ 28) :
    readChars? ((if negative then ['-'] else []) ++ spelled mantissa scale) =
      ofParts? negative mantissa scale := by
  have hgather := gather_spelled hmantissa hscale
  have hplaces : scale % 29 = scale := Nat.mod_eq_of_lt (by omega)
  cases negative with
  | true =>
    rw [if_pos rfl, List.singleton_append, readChars?]
    dsimp only
    rw [hgather]
    dsimp only [Option.bind_eq_bind, Option.bind_some]
    rw [hplaces]
  | false =>
    obtain ⟨c, s, hcons, hc⟩ := exists_spelled_eq_cons mantissa scale
    have hunsigned {mark : Char} (hmark : mark.isDigit = false) (t : List Char) :
        spelled mantissa scale ≠ mark :: t := by
      intro h
      rw [hcons] at h
      obtain ⟨rfl, -⟩ := List.cons.inj h
      rw [hc] at hmark
      cases hmark
    rw [if_neg Bool.false_ne_true, List.nil_append, readChars?, hgather]
    · dsimp only [Option.bind_eq_bind, Option.bind_some]
      rw [hplaces]
    · exact hunsigned rfl
    · exact hunsigned rfl

/-- A zero has no sign, and any other number keeps it. -/
theorem ofParts?_self (d : Decimal) : ofParts? d.negative d.mantissa d.scale = some d := by
  have hsign : (d.negative && d.mantissa != 0) = d.negative := by
    by_cases hzero : d.mantissa = 0
    · rw [d.zero_unsigned hzero, Bool.false_and]
    · rw [bne_iff_ne.2 hzero, Bool.and_true]
  rw [ofParts?, dif_pos ⟨d.mantissa_lt, d.scale_le⟩]
  simp only [hsign]

/-- **An amount is read back from its text.** -/
theorem read?_toText (d : Decimal) : read? d.toText = some d := by
  have hchars : d.toText.toList = d.signChars ++ spelled d.mantissa d.scale :=
    String.toList_ofList.trans d.toChars_eq
  rw [read?, hchars, signChars, readChars?_spelled _ d.mantissa_lt d.scale_le, ofParts?_self]

end Decimal
end MeteredChecker
