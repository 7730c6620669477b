import MeteredChecker.Proofs.Json.Record

/-!
# A text is one object at most

The grammar says which texts can be written for what, and it would be of little use if one text
could be written for two things.  It cannot: a text that is an object with some members is not an
object with any others (`IsObject.unique`), and a string spells one text (`Spells.append_inj`).

This is not for free.  A member ends where its value ends, and nothing in the grammar says where
that is, except that what comes behind it is no part of it.  But a value can be passed over, and
passing over is a function: it ends at one place, and behind a value it ends where the value does.
So the proofs take two ways to write the same text, read it once, and find that both end there.

For the names of members and for blanks it is the same.  What follows is one lemma for each thing
that stands in an object: if two of a kind begin one text, they are equal and so are the rests.
-/

namespace MeteredChecker
namespace Json

variable {s s' rest rest' : List Char}

/-! ## Blanks, strings and values -/

/-- Here something begins that is not a blank. -/
def Unblank (s : List Char) : Prop := skipBlanks s = s

theorem unblank_cons {c : Char} (hc : isBlank c = false) (s : List Char) : Unblank (c :: s) :=
  skipBlanks_cons hc s

theorem Blanks.append_inj {b b' : List Char} (hb : Blanks b) (hb' : Blanks b')
    (hrest : Unblank rest) (hrest' : Unblank rest') (heq : b ++ rest = b' ++ rest') :
    b = b' ∧ rest = rest' := by
  have hskip := congrArg skipBlanks heq
  rw [hb.skipBlanks_append, hb'.skipBlanks_append, hrest, hrest'] at hskip
  rw [hskip] at heq
  exact ⟨List.append_cancel_right heq, hskip⟩

theorem Spells.append_inj {body body' text text' : List Char} (h : Spells body text)
    (h' : Spells body' text') (heq : body ++ '"' :: rest = body' ++ '"' :: rest') :
    body = body' ∧ text = text' ∧ rest = rest' := by
  have hread := string_append h rest
  rw [heq, string_append h' rest'] at hread
  obtain ⟨htext, hrest⟩ := Prod.mk.inj (Except.ok.inj hread)
  rw [hrest] at heq
  exact ⟨List.append_cancel_right heq, htext.symm, hrest.symm⟩

theorem WellFormed.append_inj {v v' : List Char} (hv : IsValue v) (hv' : IsValue v')
    (hrest : Delimits rest) (hrest' : Delimits rest') (heq : v ++ rest = v' ++ rest') :
    v = v' ∧ rest = rest' := by
  have hskip := skip_append blanks_nil hv hrest
  rw [heq] at hskip
  have hskip' := skip_append blanks_nil hv' hrest'
  rw [List.nil_append] at hskip hskip'
  obtain rfl := Except.ok.inj (hskip.symm.trans hskip')
  exact ⟨List.append_cancel_right heq, rfl⟩

/-! ## Members -/

/-- What comes behind a member: a comma or the end of the object. -/
def EndsMember (rest : List Char) : Prop := ∃ c t, rest = c :: t ∧ (c = ',' ∨ c = '\x7d')

theorem EndsMember.unblank (h : EndsMember rest) : Unblank rest := by
  obtain ⟨c, t, rfl, rfl | rfl⟩ := h <;> exact unblank_cons rfl t

theorem EndsMember.delimits_append {b : List Char} (hb : Blanks b) (h : EndsMember rest) :
    Delimits (b ++ rest) := by
  obtain ⟨c, t, rfl, rfl | rfl⟩ := h
  · exact hb.delimits_append (delimits_comma t)
  · exact hb.delimits_append (delimits_closer .record t)

theorem endsMember_comma (t : List Char) : EndsMember (',' :: t) := ⟨_, t, rfl, .inl rfl⟩

theorem endsMember_closer (t : List Char) : EndsMember ('\x7d' :: t) := ⟨_, t, rfl, .inr rfl⟩

theorem unblank_quoted (body rest : List Char) : Unblank (quoted body ++ rest) :=
  unblank_cons rfl _

theorem unblank_value {v : List Char} (hv : IsValue v) (rest : List Char) :
    Unblank (v ++ rest) := by
  obtain ⟨c, s, rfl, hblank, -⟩ := hv.exists_cons
  exact unblank_cons hblank _

theorem IsMember.append_inj {m m' : List Char × List Char} (hs : IsMember m s)
    (hs' : IsMember m' s') (hv : IsValue m.2) (hv' : IsValue m'.2) (hrest : EndsMember rest)
    (hrest' : EndsMember rest') (heq : s ++ rest = s' ++ rest') : m = m' ∧ rest = rest' := by
  obtain ⟨hb, hname, hb₁, hb₂, hb₃⟩ := hs
  obtain ⟨hb', hname', hb₁', hb₂', hb₃'⟩ := hs'
  simp only [List.append_assoc, List.cons_append] at heq
  obtain ⟨-, heq⟩ := hb.append_inj hb' (unblank_quoted _ _) (unblank_quoted _ _) heq
  rw [quoted_append, quoted_append] at heq
  obtain ⟨-, rfl, heq⟩ := hname.append_inj hname' (List.cons.inj heq).2
  obtain ⟨-, heq⟩ := hb₁.append_inj hb₁' (unblank_cons rfl _) (unblank_cons rfl _) heq
  obtain ⟨-, heq⟩ := hb₂.append_inj hb₂' (unblank_value hv _) (unblank_value hv' _)
    (List.cons.inj heq).2
  obtain ⟨hvalue, heq⟩ := WellFormed.append_inj hv hv' (hrest.delimits_append hb₃)
    (hrest'.delimits_append hb₃') heq
  obtain ⟨-, hrests⟩ := hb₃.append_inj hb₃' hrest.unblank hrest'.unblank heq
  exact ⟨Prod.ext rfl hvalue, hrests⟩

theorem AreMembers.append_inj {ms ms' : List (List Char × List Char)} (hs : AreMembers ms s)
    (hs' : AreMembers ms' s') (hv : ∀ m ∈ ms, IsValue m.2) (hv' : ∀ m ∈ ms', IsValue m.2)
    (heq : s ++ '\x7d' :: rest = s' ++ '\x7d' :: rest') : ms = ms' := by
  induction hs generalizing ms' s' with
  | last hm =>
    have hvm := hv _ List.mem_cons_self
    cases hs' with
    | last hm' =>
      obtain ⟨rfl, -⟩ := hm.append_inj hm' hvm (hv' _ List.mem_cons_self) (endsMember_closer rest)
        (endsMember_closer rest') heq
      rfl
    | more hm' ht' =>
      rw [List.append_assoc, List.cons_append] at heq
      obtain ⟨-, hrest⟩ := hm.append_inj hm' hvm (hv' _ List.mem_cons_self)
        (endsMember_closer rest) (endsMember_comma _) heq
      cases hrest
  | more hm ht ih =>
    have hvm := hv _ List.mem_cons_self
    rw [List.append_assoc, List.cons_append] at heq
    cases hs' with
    | last hm' =>
      obtain ⟨-, hrest⟩ := hm.append_inj hm' hvm (hv' _ List.mem_cons_self) (endsMember_comma _)
        (endsMember_closer rest') heq
      cases hrest
    | more hm' ht' =>
      rw [List.append_assoc, List.cons_append] at heq
      obtain ⟨rfl, hrest⟩ := hm.append_inj hm' hvm (hv' _ List.mem_cons_self) (endsMember_comma _)
        (endsMember_comma _) heq
      rw [ih ht' (fun m hm => hv m (List.mem_cons_of_mem _ hm))
        (fun m hm => hv' m (List.mem_cons_of_mem _ hm)) (List.cons.inj hrest).2]

/-! ## Objects -/

/-- Members begin with a quote, blanks apart. -/
theorem AreMembers.skipBlanks_append {ms : List (List Char × List Char)} (hs : AreMembers ms s)
    (rest : List Char) : (skipBlanks (s ++ rest)).head? = some '"' := by
  have hmember {m : List Char × List Char} {s : List Char} (hm : IsMember m s) (rest : List Char) :
      (skipBlanks (s ++ rest)).head? = some '"' := by
    obtain ⟨hb, -, -, -, -⟩ := hm
    rw [List.append_assoc, hb.skipBlanks_append, List.append_assoc, unblank_quoted]
    rfl
  cases hs with
  | last hm => exact hmember hm rest
  | more hm ht =>
    rw [List.append_assoc]
    exact hmember hm _

theorem IsBody.append_inj {ms ms' : List (List Char × List Char)} (hs : IsBody ms s)
    (hs' : IsBody ms' s') (hv : ∀ m ∈ ms, IsValue m.2) (hv' : ∀ m ∈ ms', IsValue m.2)
    (heq : s ++ '\x7d' :: rest = s' ++ '\x7d' :: rest') : ms = ms' := by
  -- an object without members is told from one with members by what comes first
  have hdiffer {b t rest rest' : List Char} {ms : List (List Char × List Char)} (hb : Blanks b)
      (ht : AreMembers ms t) (heq : b ++ '\x7d' :: rest = t ++ '\x7d' :: rest') : False := by
    have hhead := ht.skipBlanks_append ('\x7d' :: rest')
    rw [← heq, hb.skipBlanks_append, skipBlanks_cons rfl] at hhead
    cases hhead
  cases hs with
  | empty hb =>
    cases hs' with
    | empty hb' => rfl
    | filled ht' => exact (hdiffer hb ht' heq).elim
  | filled ht =>
    cases hs' with
    | empty hb' => exact (hdiffer hb' ht heq.symm).elim
    | filled ht' => exact ht.append_inj ht' hv hv' heq

/-- **A text is one object at most**: its members, with the texts of their values, are
determined. -/
theorem IsObject.unique {ms ms' : List (List Char × List Char)} {text : List Char}
    (h : IsObject ms text) (h' : IsObject ms' text) (hv : ∀ m ∈ ms, IsValue m.2)
    (hv' : ∀ m ∈ ms', IsValue m.2) : ms = ms' := by
  generalize htext : text = text' at h'
  obtain ⟨hb, hs, -⟩ := h
  obtain ⟨hb', hs', -⟩ := h'
  obtain ⟨-, heq⟩ := hb.append_inj hb' (unblank_cons rfl _) (unblank_cons rfl _) htext
  exact hs.append_inj hs' hv hv' (List.cons.inj heq).2

end Json
end MeteredChecker
