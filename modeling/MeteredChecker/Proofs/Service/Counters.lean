import MeteredChecker.Proofs.Json.Accepted.List
import MeteredChecker.Proofs.Json.Counter
import MeteredChecker.Proofs.Service.Verbatim
import MeteredChecker.Proofs.Session.Affordance

/-!
# Counters are read as they are written

The page offers to pay when no calls are left, so a counter must not become a zero on its way.
A JSON number that is read as a counter could do so in many ways: by wrapping, by being rounded or
cut off, by a second member with the same name that overwrites the first, or by a default that
takes the place of what is missing.

None of these happens.  A quota is read from an object exactly if each of its counters is in one
member and the value of this member is the digits of the counter (`Counts`).  In every other case
there is something wrong that can be named (`Spoilt`), and the body could not be read, which
changes nothing about the offer.

An object is read as what its members come to (`Json.Shape.parse_eq_ok_iff_of_isObject`), so it
remains to see what members do to a draft with two counters.  They do it to each of them
separately, and to each of them once (`Tally`).
-/

namespace MeteredChecker

/-! ## Members with a name -/

section named

variable {name : String} {ms : List (List Char × List Char)} {k v : List Char} {n : Nat}

/-- The members of an object that have a name. -/
def membersNamed (name : String) (ms : List (List Char × List Char)) :
    List (List Char × List Char) :=
  ms.filter fun m => m.1 = name.toList

theorem membersNamed_cons_self (name : String) (v : List Char)
    (ms : List (List Char × List Char)) :
    membersNamed name ((name.toList, v) :: ms) = (name.toList, v) :: membersNamed name ms :=
  List.filter_cons_of_pos (decide_eq_true rfl)

theorem membersNamed_cons_of_ne (h : k ≠ name.toList) (v : List Char)
    (ms : List (List Char × List Char)) : membersNamed name ((k, v) :: ms) = membersNamed name ms :=
  List.filter_cons_of_neg (by simpa using h)

/-- One member has the name, and its value is the digits of the number. -/
def Counts (name : String) (n : Nat) (ms : List (List Char × List Char)) : Prop :=
  membersNamed name ms = [(name.toList, Nat.toDigits 10 n)]

instance : Decidable (Counts name n ms) := inferInstanceAs (Decidable (_ = _))

/-- There is no counter with the name: no member has it, or more than one, or what is not a digit
is in the value, a sign, a point, a quote, a letter or a bracket, or it is the digits of a number
that does not have 32 bits. -/
inductive Spoilt (name : String) (ms : List (List Char × List Char)) : Prop
  | missing (h : ∀ m ∈ ms, m.1 ≠ name.toList)
  | repeated (h : 1 < (membersNamed name ms).length)
  | undigited {v : List Char} (mem : (name.toList, v) ∈ ms) {c : Char} (hc : c ∈ v)
      (h : c.isDigit = false)
  | tooLarge {n : Nat} (mem : (name.toList, Nat.toDigits 10 n) ∈ ms) (h : UInt32.size ≤ n)

/-- **A counter is there or something is wrong with it.** -/
theorem spoilt_iff (hvalues : ∀ m ∈ ms, Json.IsValue m.2) :
    Spoilt name ms ↔ ∀ n : UInt32, ¬ Counts name n.toNat ms := by
  have hmem {m : List Char × List Char} :
      m ∈ membersNamed name ms ↔ m ∈ ms ∧ m.1 = name.toList := by
    simp [membersNamed]
  constructor
  · intro spoilt n counts
    -- whatever is wrong is wrong with the one member that has the name
    have honly {m : List Char × List Char} (h : m ∈ ms) (hname : m.1 = name.toList) :
        m = (name.toList, Nat.toDigits 10 n.toNat) := by
      have hm := hmem.2 ⟨h, hname⟩
      rw [counts] at hm
      exact List.mem_singleton.1 hm
    cases spoilt with
    | missing h =>
      have hm := hmem.1 (counts ▸ List.mem_singleton.2 rfl)
      exact h _ hm.1 hm.2
    | repeated h =>
      rw [counts] at h
      exact Nat.lt_irrefl 1 h
    | undigited mem hc h =>
      obtain rfl := (Prod.mk.inj (honly mem rfl)).2
      rw [Nat.isDigit_of_mem_toDigits (by decide) (by decide) hc] at h
      cases h
    | tooLarge mem h =>
      have hdigits := (Prod.mk.inj (honly mem rfl)).2
      have hvalue := congrArg (Nat.ofDigitChars 10 · 0) hdigits
      simp only [Nat.ofDigitChars_ten_toDigits] at hvalue
      exact Nat.not_lt.2 (hvalue ▸ h) n.toNat_lt
  · intro h
    cases hnamed : membersNamed name ms with
    | nil => exact .missing fun m hm hname => List.not_mem_nil (hnamed ▸ hmem.2 ⟨hm, hname⟩)
    | cons m rest =>
      obtain ⟨k, v⟩ := m
      obtain ⟨hm, rfl⟩ := hmem.1 (hnamed ▸ List.mem_cons_self)
      cases rest with
      | cons m' rest => exact .repeated (by simp [hnamed])
      | nil =>
        have hv : Json.IsValue v := hvalues _ hm
        by_cases hdigit : ∀ c ∈ v, c.isDigit = true
        · obtain ⟨c, t, rfl, -, -⟩ := hv.exists_cons
          have hdigits := (hv.isWhole ⟨List.cons_ne_nil c t, hdigit⟩).eq_toDigits
          rw [hdigits] at hm hnamed
          refine .tooLarge hm (Nat.not_lt.1 fun hsize => ?_)
          apply h (UInt32.ofNat (Nat.ofDigitChars 10 (c :: t) 0))
          rw [Counts, hnamed, UInt32.toNat_ofNat_of_lt' hsize]
        · obtain ⟨c, hc, hnot⟩ : ∃ c ∈ v, ¬ c.isDigit = true := by simpa using hdigit
          exact .undigited hm hc (eq_false_of_ne_true hnot)

/-- What members make of a counter, which they leave as it is if none of them has its name. -/
inductive Tally (name : String) (ms : List (List Char × List Char)) :
    Option UInt32 → Option UInt32 → Prop
  | kept (o : Option UInt32) (h : membersNamed name ms = []) : Tally name ms o o
  | counted {n : UInt32} (h : Counts name n.toNat ms) : Tally name ms none (some n)

theorem tally_none_some_iff {n : UInt32} :
    Tally name ms none (some n) ↔ Counts name n.toNat ms := by
  constructor
  · intro tally
    cases tally with
    | counted counts => exact counts
  · exact .counted

theorem tally_nil_iff {o o' : Option UInt32} : Tally name [] o o' ↔ o = o' := by
  constructor
  · intro tally
    cases tally with
    | kept => rfl
    | counted h => cases h
  · rintro rfl
    exact .kept o rfl

/-- Members with other names do not count. -/
theorem tally_cons_iff_of_ne (h : k ≠ name.toList) {o o' : Option UInt32} :
    Tally name ((k, v) :: ms) o o' ↔ Tally name ms o o' := by
  have hnamed := membersNamed_cons_of_ne h v ms
  constructor
  · intro tally
    cases tally with
    | kept _ hnone => exact .kept o (hnamed.symm.trans hnone)
    | counted counts => exact .counted (hnamed.symm.trans counts)
  · intro tally
    cases tally with
    | kept _ hnone => exact .kept o (hnamed.trans hnone)
    | counted counts => exact .counted (hnamed.trans counts)

/-- **A member with the name counts if there has been none**, and then there is no other. -/
theorem tally_cons_iff_of_eq {o o' : Option UInt32} :
    Tally name ((name.toList, v) :: ms) o o' ↔
      o = none ∧ ∃ n : UInt32, v = Nat.toDigits 10 n.toNat ∧ Tally name ms (some n) o' := by
  have hnamed := membersNamed_cons_self name v ms
  constructor
  · intro tally
    cases tally with
    | kept _ hnone =>
      rw [hnamed] at hnone
      cases hnone
    | @counted n counts =>
      obtain ⟨hv, hnone⟩ := List.cons.inj (hnamed.symm.trans counts)
      exact ⟨rfl, n, (Prod.mk.inj hv).2, .kept _ hnone⟩
  · rintro ⟨rfl, n, rfl, tally⟩
    cases tally with
    | kept _ hnone => exact .counted (hnamed.trans (congrArg _ hnone))

end named

/-! ## Quotas -/

namespace Quota

variable {ms : List (List Char × List Char)}

theorem honest_shape : shape.Honest := by
  intro field hfield d
  simp only [shape, List.mem_cons, List.not_mem_nil, or_false] at hfield
  rcases hfield with rfl | rfl
  · exact Json.honest_counter.field _ _ _ d
  · exact Json.honest_counter.field _ _ _ d

/-- A member with the name of a counter is read into the draft, if it is the digits of one. -/
theorem takesOne_counter_iff (name : String) (get : Draft → Option UInt32)
    (put : Draft → UInt32 → Draft)
    (known : (shape.fields.find? fun f => f.name == name) = some (.of name get put .counter))
    {v : List Char} (hv : Json.IsValue v) {d d' : Draft} : shape.TakesOne d (name.toList, v) d' ↔
      get d = none ∧ ∃ n : UInt32, v = Nat.toDigits 10 n.toNat ∧ put d n = d' := by
  have known' : (shape.fields.find? fun f => f.name == String.ofList name.toList) =
      some (.of name get put .counter) := by rwa [String.ofList_toList]
  rw [Json.Shape.takesOne_iff_of_known Json.honest_counter hv known']
  simp only [Json.counter_reads_iff hv]

theorem takesOne_other_iff {name v : List Char} (hv : Json.IsValue v)
    (htotal : name ≠ "totalCalls".toList) (hremaining : name ≠ "remainingCalls".toList)
    {d d' : Draft} : shape.TakesOne d (name, v) d' ↔ d = d' := by
  refine Json.Shape.takesOne_iff_of_unknown hv fun field hfield hname => ?_
  simp only [shape, List.mem_cons, List.not_mem_nil, or_false] at hfield
  have hname := congrArg String.toList hname
  rw [String.toList_ofList] at hname
  rcases hfield with rfl | rfl
  · exact htotal hname.symm
  · exact hremaining hname.symm

/-- **Members are read into each of the counters separately.** -/
theorem takes_iff (hvalues : ∀ m ∈ ms, Json.IsValue m.2) {d d' : Draft} :
    shape.Takes d ms d' ↔ Tally "totalCalls" ms d.total d'.total ∧
      Tally "remainingCalls" ms d.remaining d'.remaining := by
  induction ms generalizing d with
  | nil =>
    obtain ⟨total, remaining⟩ := d
    obtain ⟨total', remaining'⟩ := d'
    rw [Json.Shape.takes_nil_iff, tally_nil_iff, tally_nil_iff, Draft.mk.injEq]
  | cons m ms ih =>
    obtain ⟨name, v⟩ := m
    obtain ⟨hv, hrest⟩ := List.forall_mem_cons.1 hvalues
    have hdiffer : "totalCalls".toList ≠ "remainingCalls".toList := by decide
    rw [Json.Shape.takes_cons_iff]
    -- the name of the first member says in which of the counters it is, if it is in one at all
    by_cases htotal : name = "totalCalls".toList
    · obtain rfl := htotal
      rw [tally_cons_iff_of_eq, tally_cons_iff_of_ne hdiffer]
      simp only [takesOne_counter_iff "totalCalls" Draft.total
        (fun d n => ⟨some n, d.remaining⟩) rfl hv, ih hrest]
      constructor
      · rintro ⟨d₁, ⟨hnone, n, hn, rfl⟩, htally, hother⟩
        exact ⟨⟨hnone, n, hn, htally⟩, hother⟩
      · rintro ⟨⟨hnone, n, hn, htally⟩, hother⟩
        exact ⟨_, ⟨hnone, n, hn, rfl⟩, htally, hother⟩
    · by_cases hremaining : name = "remainingCalls".toList
      · obtain rfl := hremaining
        rw [tally_cons_iff_of_ne htotal, tally_cons_iff_of_eq]
        simp only [takesOne_counter_iff "remainingCalls" Draft.remaining
          (fun d n => ⟨d.total, some n⟩) rfl hv, ih hrest]
        constructor
        · rintro ⟨d₁, ⟨hnone, n, hn, rfl⟩, hother, htally⟩
          exact ⟨hother, hnone, n, hn, htally⟩
        · rintro ⟨hother, hnone, n, hn, htally⟩
          exact ⟨_, ⟨hnone, n, hn, rfl⟩, hother, htally⟩
      · rw [tally_cons_iff_of_ne htotal, tally_cons_iff_of_ne hremaining]
        simp only [takesOne_other_iff hv htotal hremaining, exists_eq_left', ih hrest]

theorem finish_eq_ok_iff {d : Draft} {quota : Quota} :
    shape.finish d = .ok quota ↔
      d.total = some quota.total ∧ d.remaining = some quota.remaining := by
  obtain ⟨total, remaining⟩ := d
  obtain ⟨total', remaining'⟩ := quota
  cases total <;> cases remaining <;> simp [shape]

/-- **A quota is read from an object if and only if its counters are in it.** -/
theorem ofBody_eq_ok_iff {body : String} (object : Json.IsObject ms body.toList)
    (hvalues : ∀ m ∈ ms, Json.IsValue m.2) (quota : Quota) :
    ofBody body = .ok quota ↔ Counts "totalCalls" quota.total.toNat ms ∧
      Counts "remainingCalls" quota.remaining.toNat ms := by
  rw [ofBody, Json.Shape.parse_eq_ok_iff_of_isObject honest_shape object hvalues]
  simp only [takes_iff hvalues, finish_eq_ok_iff]
  constructor
  · rintro ⟨d, ⟨htotal, hremaining⟩, htotal', hremaining'⟩
    rw [htotal'] at htotal
    rw [hremaining'] at hremaining
    exact ⟨tally_none_some_iff.1 htotal, tally_none_some_iff.1 hremaining⟩
  · rintro ⟨htotal, hremaining⟩
    exact ⟨⟨some quota.total, some quota.remaining⟩, ⟨.counted htotal, .counted hremaining⟩,
      rfl, rfl⟩

/-- Two numbers as they are written. -/
theorem isObject_render (total remaining : Nat) :
    Json.IsObject [("totalCalls".toList, Nat.toDigits 10 total),
        ("remainingCalls".toList, Nat.toDigits 10 remaining)]
      (Json.Value.record [("totalCalls", .natural total),
        ("remainingCalls", .natural remaining)]).render.toList := by
  have object := Json.isObject_render [("totalCalls", .natural total),
    ("remainingCalls", .natural remaining)]
  simpa only [Json.written, List.map_cons, List.map_nil, Json.Value.chars] using object

theorem isValue_of_mem_pair {name name' : List Char} (n n' : Nat) :
    ∀ m ∈ [(name, Nat.toDigits 10 n), (name', Nat.toDigits 10 n')], Json.IsValue m.2 :=
  List.forall_mem_cons.2 ⟨(Json.isWhole_toDigits n).isValue,
    List.forall_mem_singleton.2 (Json.isWhole_toDigits n').isValue⟩

/-- A quota that is written is read back. -/
theorem ofBody_render (quota : Quota) : ofBody quota.toJson.render = .ok quota := by
  have object := isObject_render quota.total.toNat quota.remaining.toNat
  refine (ofBody_eq_ok_iff object (isValue_of_mem_pair _ _) quota).2 ⟨?_, ?_⟩
  · rw [Counts, membersNamed_cons_self, membersNamed_cons_of_ne (by decide)]
    rfl
  · rw [Counts, membersNamed_cons_of_ne (by decide), membersNamed_cons_self]
    rfl

/-- The elements of a list are read into the counters in their order, if they are the digits of
two. -/
theorem fills_iff {vs : List (List Char)} (hvalues : ∀ v ∈ vs, Json.IsValue v) {d : Draft} :
    Json.Fills shape.fields shape.blank vs d ↔
      ∃ total remaining : UInt32,
        vs = [Nat.toDigits 10 total.toNat, Nat.toDigits 10 remaining.toNat] ∧
          ⟨some total, some remaining⟩ = d := by
  constructor
  · intro fills
    obtain - | ⟨hfirst, hrest⟩ := fills
    obtain - | ⟨hsecond, hrest⟩ := hrest
    cases hrest
    simp only [List.forall_mem_cons] at hvalues
    obtain ⟨total, htotal, rfl⟩ :=
      (Json.Field.reads_of_iff Json.honest_counter hvalues.1).1 hfirst
    obtain ⟨remaining, hremaining, rfl⟩ :=
      (Json.Field.reads_of_iff Json.honest_counter hvalues.2.1).1 hsecond
    rw [(Json.counter_reads_iff hvalues.1).1 htotal,
      (Json.counter_reads_iff hvalues.2.1).1 hremaining]
    exact ⟨total, remaining, rfl, rfl⟩
  · rintro ⟨total, remaining, rfl, rfl⟩
    simp only [List.forall_mem_cons] at hvalues
    exact .cons ((Json.Field.reads_of_iff Json.honest_counter hvalues.1).2
        ⟨total, Json.reads_toDigits total, rfl⟩)
      (.cons ((Json.Field.reads_of_iff Json.honest_counter hvalues.2.1).2
        ⟨remaining, Json.reads_toDigits remaining, rfl⟩) (.nil _))

/-- A quota is written in a text: the text is an object that has its counters, or a list of
them. -/
inductive IsWritten (quota : Quota) (text : List Char) : Prop
  | object {ms : List (List Char × List Char)} (object : Json.IsObject ms text)
      (hvalues : ∀ m ∈ ms, Json.IsValue m.2) (total : Counts "totalCalls" quota.total.toNat ms)
      (remaining : Counts "remainingCalls" quota.remaining.toNat ms)
  | list (list : Json.IsList
      [Nat.toDigits 10 quota.total.toNat, Nat.toDigits 10 quota.remaining.toNat] text)

/-- A quota is not written behind a byte-order mark. -/
theorem IsWritten.unmarked {quota : Quota} {text : List Char} (written : quota.IsWritten text) :
    text.head? ≠ some '\uFEFF' := by
  cases written with
  | object object => exact object.unmarked
  | list list => exact Json.unmarked_of_head?_skipBlanks list.head?_skipBlanks (by decide)

/-- **A quota is read from the bodies in which it is written**, and from no other body. -/
theorem ofBody_eq_ok_iff_isWritten {body : String} {quota : Quota} :
    ofBody body = .ok quota ↔ quota.IsWritten body.toList := by
  constructor
  · intro hread
    rcases (Json.Shape.parse_eq_ok_iff_or honest_shape rfl).1 hread with
      ⟨ms, d, object, hvalues, -, -⟩ | ⟨vs, d, list, fills, hfinish⟩
    · obtain ⟨htotal, hremaining⟩ := (ofBody_eq_ok_iff object hvalues quota).1 hread
      exact .object object hvalues htotal hremaining
    · obtain ⟨total, remaining, rfl, rfl⟩ := (fills_iff list.isValue_of_mem).1 fills
      obtain ⟨htotal, hremaining⟩ := finish_eq_ok_iff.1 hfinish
      obtain rfl := Option.some.inj htotal
      obtain rfl := Option.some.inj hremaining
      exact .list list
  · rintro (⟨object, hvalues, total, remaining⟩ | list)
    · exact (ofBody_eq_ok_iff object hvalues quota).2 ⟨total, remaining⟩
    · exact (Json.Shape.parse_eq_ok_iff_or honest_shape rfl).2 (.inr ⟨_, _, list,
        (fills_iff list.isValue_of_mem).2 ⟨_, _, rfl, rfl⟩, finish_eq_ok_iff.2 ⟨rfl, rfl⟩⟩)

theorem isWritten_render (quota : Quota) : quota.IsWritten quota.toJson.render.toList :=
  ofBody_eq_ok_iff_isWritten.1 (ofBody_render quota)

/-- There is something wrong with one of the counters. -/
def IsSpoilt (ms : List (List Char × List Char)) : Prop :=
  Spoilt "totalCalls" ms ∨ Spoilt "remainingCalls" ms

/-- **If nothing is wrong with the counters there is a quota.** -/
theorem isSpoilt_iff {body : String} (object : Json.IsObject ms body.toList)
    (hvalues : ∀ m ∈ ms, Json.IsValue m.2) :
    IsSpoilt ms ↔ ∀ quota, ofBody body ≠ .ok quota := by
  simp only [IsSpoilt, spoilt_iff hvalues, ne_eq, ofBody_eq_ok_iff object hvalues]
  constructor
  · rintro (h | h) quota ⟨htotal, hremaining⟩
    · exact h _ htotal
    · exact h _ hremaining
  · intro h
    by_contra hboth
    simp only [not_or, not_forall, not_not] at hboth
    obtain ⟨⟨total, htotal⟩, remaining, hremaining⟩ := hboth
    exact h ⟨total, remaining⟩ ⟨htotal, hremaining⟩

end Quota

/-- A quota that could not be read changes nothing about the offer, and no quota appears. -/
theorem Session.step_of_unread {policy : Policy} {s : Session} {call : Nat} {e : Failure}
    {next : Session × Report}
    (step : s.step? policy (.settle call (.stats (.error e))) = some next) :
    next.1.view.payVisible = s.view.payVisible ∧
      ∀ quota, next.1.view.stats = .summary quota → s.view.stats = .summary quota := by
  refine ⟨payVisible_of_step step nofun, fun quota shown => ?_⟩
  obtain ⟨n, before, burst, -, turn, hview, -⟩ := (step_of_step? step).exists_turn
  rw [hview] at shown
  cases turn with
  | counted ticket =>
    change (s.view.takeQuota ticket (.error e) policy).stats = _ at shown
    by_cases hstale : View.isStale ticket s.view.lastQuota policy = true
    · rwa [View.takeQuota_of_stale hstale] at shown
    · rw [View.takeQuota_of_current (eq_false_of_ne_true hstale)] at shown
      cases shown

/-- **Counters are read as they are written.**

A quota that is written is read back.  A body that begins with a brace is read as a quota only if
it is a JSON object.  And from every object, with its members in any order, their names spelled in
any way, any blanks between its tokens, and any values of members that have other names, a quota is
read if and only if each of its counters is in exactly one member and is written there with its
digits.

If a success carries an object, then the client could not read it if and only if one of the two
counters is missing, comes twice, is not written with digits only, or does not have 32 bits.  To
whatever call on whatever page this is the answer, and under either policy, paying is offered
behind it if it was before, and no quota is on display that was not. -/
theorem counters_are_read_as_written :
    (∀ quota : Quota, Quota.ofBody quota.toJson.render = .ok quota) ∧
    (∀ (body : String) (quota : Quota), (Json.skipBlanks body.toList).head? = some '\x7b' →
      Quota.ofBody body = .ok quota →
        ∃ ms, Json.IsObject ms body.toList ∧ ∀ m ∈ ms, Json.IsValue m.2) ∧
    ∀ (body : String) (ms : List (List Char × List Char)), Json.IsObject ms body.toList →
      (∀ m ∈ ms, Json.IsValue m.2) →
      (∀ quota : Quota, Quota.ofBody body = .ok quota ↔
        Counts "totalCalls" quota.total.toNat ms ∧
          Counts "remainingCalls" quota.remaining.toNat ms) ∧
      ∀ (client : Http.Client) (line : Line) (status : UInt16),
        (client.config.letter .stats).Reaches line → line.arrival = .whole status body →
        IsSuccess status →
        ((∃ detail, (client.stats line).outcome = .error (.decode detail)) ↔
          Quota.IsSpoilt ms) ∧
        (Quota.IsSpoilt ms → ∀ (policy : Policy) (s : Session) (call : Nat)
          (next : Session × Report),
          s.step? policy (.settle call (.stats (client.stats line).outcome)) = some next →
            next.1.view.payVisible = s.view.payVisible ∧
              ∀ quota, next.1.view.stats = .summary quota → s.view.stats = .summary quota) := by
  refine ⟨Quota.ofBody_render, fun body quota hbrace hread => ?_, fun body ms object hvalues =>
    ⟨Quota.ofBody_eq_ok_iff object hvalues, fun client line status reachable arrives success => ?_⟩⟩
  · obtain ⟨ms, -, object, hvalues, -, -⟩ :=
      (Json.Shape.parse_eq_ok_iff Quota.honest_shape).1 ⟨hbrace, hread⟩
    exact ⟨ms, object, hvalues⟩
  · have hdecode : (∃ detail, (client.stats line).outcome = .error (.decode detail)) ↔
        Quota.IsSpoilt ms := by
      rw [client.stats_outcome reachable, (line.arrival.statsClassified _).decode, arrives,
        Quota.isSpoilt_iff object hvalues]
      constructor
      · rintro ⟨_, _, ⟨⟩, -, unread⟩
        exact unread
      · intro unread
        exact ⟨status, body, rfl, success, unread⟩
    refine ⟨hdecode, fun spoilt policy s call next step => ?_⟩
    obtain ⟨detail, hfailure⟩ := hdecode.2 spoilt
    rw [hfailure] at step
    exact Session.step_of_unread step

/-- The largest counter that there is stands behind other members, one of which has a counter of
its own in it, and its name has an escape in it.  It is read.  A counter that is larger by one is
not, and it does not become the zero that its last bits are. -/
theorem largest_counter_is_read :
    ∃ (body body' : String) (client : Http.Client) (line : Line),
      body = "\x7b \"remainingCalls\" :7,\"x\":[\x7b\"totalCalls\":1e5\x7d]" ++
        ", \"\\u0074otalCalls\":\t4294967295\n\x7d" ∧
      Quota.ofBody body = .ok ⟨4294967295, 7⟩ ∧
      body' = "\x7b\"totalCalls\":1,\"remainingCalls\":4294967296\x7d" ∧
      line = .new true [some ⟨200, some "application/json", some body'.toUTF8.toList⟩] ∧
      ∃ detail, (client.stats line).outcome = .error (.decode detail) := by
  have blank : Json.Blanks [] := Json.blanks_nil
  have plain {s : List Char} (h : Json.ArePlain s) : Json.Spells s s := .plain h
  have value (n : Nat) : Json.IsValue (Nat.toDigits 10 n) := (Json.isWhole_toDigits n).isValue
  -- the value of the member in the middle, and the name with an escape
  have inner : Json.IsValue "[\x7b\"totalCalls\":1e5\x7d]".toList := by
    have one : Json.Digits ['1'] := by decide
    have five : Json.Digits ['5'] := by decide
    have number : Json.IsNumber "1e5".toList :=
      .intro (.inl rfl) (.positive one (by decide)) .absent (.present (.inl rfl) (.inl rfl) five)
    have name : Json.Spells "totalCalls".toList "totalCalls".toList := plain (by decide)
    have lead : Json.Frame.Lead .record _ := .record blank name.isString blank blank
    have record : Json.IsValue "\x7b\"totalCalls\":1e5\x7d".toList :=
      .filled (.last lead (.number number) blank)
    exact .filled (.last (.list blank) record blank)
  have name : Json.Spells "\\u0074otalCalls".toList "totalCalls".toList := by
    have digits : Json.Hex4 "0074".toList (((0 * 16 + 0) * 16 + 7) * 16 + 4) :=
      .intro (by decide) (by decide) (by decide) (by decide)
    have rest : Json.Spells "otalCalls".toList "otalCalls".toList := plain (by decide)
    exact .cons (.number (show Json.Hex4 _ 't'.toNat from digits)) rest
  have space : Json.Blanks [' '] := by decide
  have tab : Json.Blanks ['\t'] := by decide
  have newline : Json.Blanks ['\n'] := by decide
  have remaining : Json.Spells "remainingCalls".toList "remainingCalls".toList := plain (by decide)
  have x : Json.Spells "x".toList "x".toList := plain (by decide)
  let ms : List (List Char × List Char) := [("remainingCalls".toList, "7".toList),
    ("x".toList, "[\x7b\"totalCalls\":1e5\x7d]".toList),
    ("totalCalls".toList, "4294967295".toList)]
  let body := "\x7b \"remainingCalls\" :7,\"x\":[\x7b\"totalCalls\":1e5\x7d]" ++
    ", \"\\u0074otalCalls\":\t4294967295\n\x7d"
  have object : Json.IsObject ms body.toList := by
    have first : Json.IsMember ("remainingCalls".toList, "7".toList) _ :=
      .intro space remaining space blank blank
    have second : Json.IsMember ("x".toList, "[\x7b\"totalCalls\":1e5\x7d]".toList) _ :=
      .intro blank x blank blank blank
    have third : Json.IsMember ("totalCalls".toList, "4294967295".toList) _ :=
      .intro space name blank tab newline
    have h := Json.IsObject.intro blank (.filled (.more first (.more second (.last third)))) blank
    simpa [Json.quoted, body, ms] using h
  have values : ∀ m ∈ ms, Json.IsValue m.2 :=
    List.forall_mem_cons.2 ⟨value 7,
      List.forall_mem_cons.2 ⟨inner, List.forall_mem_singleton.2 (value 4294967295)⟩⟩
  have read : Quota.ofBody body = .ok ⟨4294967295, 7⟩ :=
    ((counters_are_read_as_written.2.2 body ms object values).1 _).2 ⟨by decide, by decide⟩
  -- the second body and the response that carries it
  let body' := (Json.Value.record [("totalCalls", .natural 1),
    ("remainingCalls", .natural 4294967296)]).render
  let ms' : List (List Char × List Char) := [("totalCalls".toList, Nat.toDigits 10 1),
    ("remainingCalls".toList, Nat.toDigits 10 4294967296)]
  have object' : Json.IsObject ms' body'.toList := Quota.isObject_render 1 4294967296
  have values' : ∀ m ∈ ms', Json.IsValue m.2 := Quota.isValue_of_mem_pair 1 4294967296
  have spoilt : Quota.IsSpoilt ms' := .inr (.tooLarge (n := 4294967296) (by simp [ms']) (by decide))
  let client : Http.Client := ⟨Config.default.withPaymentBase "http://localhost:2424", by decide⟩
  let line := Line.new true [some ⟨200, some "application/json", some body'.toUTF8.toList⟩]
  have hstats : (requestTarget? [.http] client.config.statsUrl).isSome = true := by decide +kernel
  have reachable : (client.config.letter .stats).Reaches line := hstats
  have carries : (⟨200, some "application/json", some body'.toUTF8.toList⟩ : Response).Carries
      body' := ⟨rfl, rfl, by decide +kernel, rfl⟩
  have arrives := line.arrival_of_carries rfl rfl carries object'.unmarked
  have unread := ((counters_are_read_as_written.2.2 body' ms' object' values').2 client line 200
    reachable arrives (by decide)).1.2 spoilt
  exact ⟨body, body', client, line, rfl, read, by decide +kernel, rfl, unread⟩

end MeteredChecker
