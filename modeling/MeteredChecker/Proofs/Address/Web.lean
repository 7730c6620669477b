import MeteredChecker.Address.Basic
import Mathlib.Data.List.DropRight

/-!
# How an address of the web is read

Reading an address goes through a dozen functions, because there are many kinds of addresses.
For the two that a client makes requests to, `http` and `https`, all of it comes to four cuts,
and each of them is a `takeWhile`: the fragment is behind the first `#`, the query behind the
first `?` of what is left, the authority behind all slashes of what is left then, up to the
next slash, and the path is the rest.  `read?_web` says so, and whoever wants to know where a
request goes need not open the reader again.

Two consequences are drawn here.

* **What is added behind a slash does not change the authority**, once there is one
  (`authority_append`).  The condition is the whole point: behind nothing but slashes, the next
  word becomes the host.
* **A path has no question mark** (`question_notMem_pathBehind`), so the query of an address is
  what is behind the first question mark of what a server is told (`dropWhile_target`).
-/

namespace MeteredChecker

/-! ## Cutting lists -/

theorem Text.bne_of_notMem {c : Char} {s : List Char} (h : c ∉ s) : ∀ d ∈ s, (d != c) = true :=
  fun _ hd => bne_iff_ne.2 (ne_of_mem_of_not_mem hd h)

theorem Text.drop_length_takeWhile (p : Char → Bool) (s : List Char) :
    s.drop (s.takeWhile p).length = s.dropWhile p := by
  have h : (s.takeWhile p ++ s.dropWhile p).drop (s.takeWhile p).length = s.dropWhile p :=
    List.drop_left
  rwa [List.takeWhile_append_dropWhile] at h

/-- Where a list is cut does not depend on what is appended to it, unless it is not cut. -/
theorem Text.takeWhile_append_cases (p : Char → Bool) (s t : List Char) :
    (s ++ t).takeWhile p = s.takeWhile p ∨
      (∀ c ∈ s, p c) ∧ (s ++ t).takeWhile p = s ++ t.takeWhile p := by
  by_cases h : ∀ c ∈ s, p c
  · exact .inr ⟨h, List.takeWhile_append_of_pos h⟩
  · left
    rw [List.takeWhile_append, if_neg]
    intro hlength
    exact h (List.takeWhile_eq_self_iff.1 ((List.takeWhile_prefix p).eq_of_length hlength))

theorem Text.mem_of_mem_split {c d : Char} {s part : List Char} (hpart : part ∈ Text.split c s)
    (hd : d ∈ part) : d ∈ s := by
  induction s generalizing part with
  | nil =>
    rw [Text.split, List.mem_singleton] at hpart
    rw [hpart] at hd
    exact hd
  | cons e s ih =>
    rw [Text.split] at hpart
    split at hpart
    · rcases List.mem_cons.1 hpart with rfl | hpart
      · cases hd
      · exact List.mem_cons_of_mem e (ih hpart hd)
    · split at hpart
      · next first more hsplit =>
        rw [hsplit] at ih
        rcases List.mem_cons.1 hpart with rfl | hpart
        · rcases List.mem_cons.1 hd with rfl | hd
          · exact List.mem_cons_self
          · exact List.mem_cons_of_mem e (ih List.mem_cons_self hd)
        · exact List.mem_cons_of_mem e (ih (List.mem_cons_of_mem first hpart) hd)
      · rw [List.mem_singleton] at hpart
        rw [hpart, List.mem_singleton] at hd
        exact hd ▸ List.mem_cons_self

namespace Address

/-! ## What is read at all -/

/-- Tabs and line breaks are passed over wherever they stand. -/
def isRead (c : Char) : Bool := !(c == '\t' || c == '\n' || c == '\r')

theorem cleaned_eq_filter {s : List Char} (first : ∀ c ∈ s.head?, 0x20 < c.toNat)
    (last : ∀ c ∈ s.getLast?, 0x20 < c.toNat) : cleaned s = s.filter isRead := by
  have hdrop {t : List Char} (h : ∀ c ∈ t.head?, 0x20 < c.toNat) :
      t.dropWhile (fun c => decide (c.toNat ≤ 0x20)) = t := by
    cases t with
    | nil => rfl
    | cons c t => rw [List.dropWhile_cons_of_neg (by simpa using h c rfl)]
  simp only [cleaned, hdrop first]
  rw [hdrop (by simpa using last), List.reverse_reverse]
  rfl

theorem read?_eq (base : Option Address) (text : String) :
    read? base text = (withoutFragment? base ((cleaned text.toList).takeWhile (· != '#'))).map
      fun a => { a with fragment :=
        ((cleaned text.toList).dropWhile (· != '#')).tail?.map (escape fragmentSpecial) } := by
  unfold read?
  simp only [Text.drop_length_takeWhile]
  cases (cleaned text.toList).dropWhile (· != '#') <;> rfl

theorem withoutFragment?_of_scheme? {s rest : List Char} {scheme : String}
    (h : scheme? (s.takeWhile (· != '?')) = some (scheme, rest)) (base : Option Address) :
    withoutFragment? base s = absolute base scheme
      ((s.dropWhile (· != '?')).tail?.map (escape (querySpecial (isSpecial scheme)))) rest := by
  unfold withoutFragment?
  simp only [Text.drop_length_takeWhile, h]
  cases s.dropWhile (· != '?') <;> rfl

/-! ## The four cuts -/

/-- What is in front of the query and the fragment. -/
def front (s : List Char) : List Char := (s.takeWhile (· != '#')).takeWhile (· != '?')

/-- The query as it is written. -/
def writtenQuery? (s : List Char) : Option (List Char) :=
  ((s.takeWhile (· != '#')).dropWhile (· != '?')).tail?

/-- What is between the slashes in front and the next slash. -/
def authority (s : List Char) : List Char :=
  ((front s).dropWhile (isSlash true)).takeWhile fun c => !isSlash true c

/-- What is left of the text then. -/
def behindAuthority (s : List Char) : List Char :=
  ((front s).dropWhile (isSlash true)).dropWhile fun c => !isSlash true c

/-! ## The authority -/

theorem front_append (s t : List Char) :
    front (s ++ t) = front s ∨ front s = s ∧ front (s ++ t) = s ++ front t := by
  unfold front
  rcases Text.takeWhile_append_cases (· != '#') s t with h | ⟨hs, h⟩
  · exact .inl (by rw [h])
  · rw [h, List.takeWhile_eq_self_iff.2 hs]
    rcases Text.takeWhile_append_cases (· != '?') s (t.takeWhile (· != '#')) with h | ⟨hs, h⟩
    · exact .inl h
    · exact .inr ⟨List.takeWhile_eq_self_iff.2 hs, h⟩

theorem mem_of_mem_front {s : List Char} {c : Char} (h : c ∈ front s) : c ∈ s :=
  (List.takeWhile_prefix _).subset ((List.takeWhile_prefix _).subset h)

theorem authority_eq_nil_iff {s : List Char} :
    authority s = [] ↔ ∀ c ∈ front s, isSlash true c := by
  rw [authority, ← List.dropWhile_eq_nil_iff]
  constructor
  · intro h
    cases hrest : (front s).dropWhile (isSlash true) with
    | nil => rfl
    | cons c t =>
      have hc := List.head?_dropWhile_not (isSlash true) (front s)
      rw [hrest] at h hc
      rw [List.takeWhile_cons_of_pos (by simpa using hc)] at h
      cases h
  · intro h
    rw [h]
    rfl

/-- **What is added behind a slash does not change the authority**, if there is one. -/
theorem authority_append {s : List Char} (h : authority s ≠ []) (t : List Char) :
    authority (s ++ '/' :: t) = authority s := by
  rcases front_append s ('/' :: t) with hfront | ⟨hself, hfront⟩
  · rw [authority, hfront, authority]
  · have hslash : isSlash true '/' = true := rfl
    have hrest : s.dropWhile (isSlash true) ≠ [] := by
      intro hrest
      rw [authority, hself, hrest] at h
      exact h rfl
    have hdrop : (front (s ++ '/' :: t)).dropWhile (isSlash true) =
        s.dropWhile (isSlash true) ++ '/' :: front t := by
      rw [hfront, List.dropWhile_append, if_neg (by simpa using hrest)]
      rfl
    rw [authority, hdrop, authority, hself]
    rcases Text.takeWhile_append_cases (fun c => !isSlash true c) (s.dropWhile (isSlash true))
      ('/' :: front t) with hauthority | ⟨hall, hauthority⟩
    · exact hauthority
    · rw [hauthority, List.takeWhile_cons_of_neg (by simp [hslash]), List.append_nil,
        List.takeWhile_eq_self_iff.2 hall]

/-- Slashes make no authority. -/
theorem authority_append_slashes {s : List Char} (h : authority s = []) (n : Nat) :
    authority (s ++ List.replicate n '/') = [] := by
  rw [authority_eq_nil_iff] at h ⊢
  rcases front_append s (List.replicate n '/') with hfront | ⟨hself, hfront⟩
  · rwa [hfront]
  · rw [hself] at h
    intro c hc
    rw [hfront] at hc
    rcases List.mem_append.1 hc with hc | hc
    · exact h c hc
    · rw [List.eq_of_mem_replicate (mem_of_mem_front hc)]
      rfl

/-! ## The addresses that a client makes requests to -/

/-- Their schemes. -/
def requestSchemes : List String := ["http", "https"]

section schemes

variable {scheme : String} (web : scheme ∈ requestSchemes)
include web

theorem eq_http_or_https : scheme = "http" ∨ scheme = "https" := by
  simpa [requestSchemes] using web

theorem isSpecial_of_request : isSpecial scheme = true := by
  rcases eq_http_or_https web with rfl | rfl <;> decide

theorem scheme?_request (s : List Char) :
    scheme? (scheme.toList ++ ':' :: s) = some (scheme, s) := by
  rcases eq_http_or_https web with rfl | rfl <;> simp [scheme?, isSchemeChar]

/-- If the end of a text is read, all of it is, but for the tabs and line breaks. -/
theorem cleaned_web {c : Char} {tail : List Char} (hc : isRead c = true)
    (last : ∀ d ∈ (c :: tail).getLast?, 0x20 < d.toNat) (place : List Char) :
    cleaned (scheme.toList ++ ':' :: (place ++ c :: tail)) =
      scheme.toList ++ ':' :: (place.filter isRead ++ c :: tail.filter isRead) := by
  have hfirst : ∀ d ∈ (scheme.toList ++ ':' :: (place ++ c :: tail)).head?, 0x20 < d.toNat := by
    rcases eq_http_or_https web with rfl | rfl <;> simp
  have hscheme : scheme.toList.filter isRead = scheme.toList := by
    rcases eq_http_or_https web with rfl | rfl <;> decide
  have hlast : (scheme.toList ++ ':' :: (place ++ c :: tail)).getLast? = (c :: tail).getLast? := by
    rw [List.getLast?_append_of_ne_nil _ (List.cons_ne_nil _ _), ← List.cons_append,
      List.getLast?_append_of_ne_nil _ (List.cons_ne_nil _ _)]
  rw [cleaned_eq_filter hfirst (hlast ▸ last), List.filter_append, hscheme,
    List.filter_cons_of_pos (by decide), List.filter_append, List.filter_cons_of_pos hc]

/-- Without an authority there is no address. -/
theorem host?_nil : host? scheme [] = none := by
  rcases eq_http_or_https web with rfl | rfl <;> decide +kernel

theorem withHost_request (query : Option (List Char)) (s : List Char) :
    withHost scheme query s = (host? scheme (s.takeWhile fun c => !isSlash true c)).map fun p =>
      ⟨scheme, some p.1, p.2, pathBehind true (s.dropWhile fun c => !isSlash true c), query,
        none⟩ := by
  rw [withHost, isSpecial_of_request web, Text.drop_length_takeWhile]
  cases host? scheme (s.takeWhile fun c => !isSlash true c) <;> rfl

theorem absolute_request (query : Option (List Char)) (s : List Char) :
    absolute none scheme query s = withHost scheme query (s.dropWhile (isSlash true)) := by
  have hweb : webSchemes.contains scheme = true := by
    rcases eq_http_or_https web with rfl | rfl <;> decide
  unfold absolute
  rw [if_pos hweb, ← Text.drop_length_takeWhile]
  rfl

/-- **An address of the web is its four cuts.** -/
theorem read?_web {text : String} {s : List Char}
    (h : cleaned text.toList = scheme.toList ++ ':' :: s) :
    ∃ fragment, read? none text = (host? scheme (authority s)).map fun p =>
      ⟨scheme, some p.1, p.2, pathBehind true (behindAuthority s),
        (writtenQuery? s).map (escape (querySpecial true)), fragment⟩ := by
  have hplain : ∀ c ∈ scheme.toList ++ [':'], (c != '#') = true ∧ (c != '?') = true := by
    rcases eq_http_or_https web with rfl | rfl <;> simp
  -- Neither mark is in the scheme, so both cuts pass over it.
  have htake (p : Char → Bool) (hp : ∀ c ∈ scheme.toList ++ [':'], p c) (t : List Char) :
      (scheme.toList ++ ':' :: t).takeWhile p = scheme.toList ++ ':' :: t.takeWhile p := by
    rw [List.append_cons, List.takeWhile_append_of_pos hp, ← List.append_cons]
  have hdrop (p : Char → Bool) (hp : ∀ c ∈ scheme.toList ++ [':'], p c) (t : List Char) :
      (scheme.toList ++ ':' :: t).dropWhile p = t.dropWhile p := by
    rw [List.append_cons, List.dropWhile_append_of_pos hp]
  have hscheme : scheme? ((scheme.toList ++ ':' :: s.takeWhile (· != '#')).takeWhile (· != '?')) =
      some (scheme, front s) := by
    rw [htake _ fun c hc => (hplain c hc).2, scheme?_request web, front]
  refine ⟨(s.dropWhile (· != '#')).tail?.map (escape fragmentSpecial), ?_⟩
  rw [read?_eq, h, htake _ fun c hc => (hplain c hc).1, hdrop _ fun c hc => (hplain c hc).1,
    withoutFragment?_of_scheme? hscheme, hdrop _ fun c hc => (hplain c hc).2,
    isSpecial_of_request web, absolute_request web, withHost_request web, Option.map_map]
  rfl

/-- **What is below a place is on the same host.**  The place is known by the slash behind it;
any number of slashes will do. -/
theorem exists_read?_below {place tail : List Char} {n : Nat} {root : Address}
    (hroot : read? none (String.ofList
      (scheme.toList ++ ':' :: (place ++ '/' :: List.replicate n '/'))) = some root)
    (last : ∀ c ∈ ('/' :: tail).getLast?, 0x20 < c.toNat) :
    ∃ a, read? none (String.ofList (scheme.toList ++ ':' :: (place ++ '/' :: tail))) = some a ∧
      a.scheme = root.scheme ∧ a.host = root.host ∧ a.socket = root.socket := by
  have hcleaned {tail : List Char} (last : ∀ c ∈ ('/' :: tail).getLast?, 0x20 < c.toNat) :
      cleaned (String.ofList (scheme.toList ++ ':' :: (place ++ '/' :: tail))).toList =
        scheme.toList ++ ':' :: (place.filter isRead ++ '/' :: tail.filter isRead) := by
    rw [String.toList_ofList, cleaned_web web rfl last]
  have hslashes : ∀ c ∈ ('/' :: List.replicate n '/').getLast?, 0x20 < c.toNat := by
    intro c hc
    rw [← List.replicate_succ] at hc
    rw [List.eq_of_mem_replicate (List.mem_of_getLast? hc)]
    decide
  obtain ⟨_, hreadRoot⟩ := read?_web web (hcleaned hslashes)
  obtain ⟨_, hread⟩ := read?_web web (hcleaned last)
  -- Behind nothing but slashes the place would have no authority, and not be read.
  have hplace : authority (place.filter isRead) ≠ [] := by
    intro hnil
    have hkept : (List.replicate n '/').filter isRead = List.replicate n '/' :=
      List.filter_replicate_of_pos (by decide)
    have hnone := authority_append_slashes hnil (n + 1)
    rw [List.replicate_succ] at hnone
    rw [hroot, hkept, hnone, host?_nil web] at hreadRoot
    cases hreadRoot
  rw [authority_append hplace] at hreadRoot hread
  rw [hroot] at hreadRoot
  obtain ⟨p, hhost, rfl⟩ := Option.map_eq_some_iff.1 hreadRoot.symm
  exact ⟨_, hread.trans (congrArg (Option.map _) hhost), rfl, rfl, rfl⟩

end schemes

/-! ## The query -/

theorem writtenQuery?_append {place query : List Char} (hplace : '?' ∉ place ∧ '#' ∉ place)
    (hquery : '#' ∉ query) : writtenQuery? (place ++ '?' :: query) = some query := by
  have hfragment : '#' ∉ place ++ '?' :: query := by
    simp [hplace.2, hquery]
  rw [writtenQuery?, List.takeWhile_eq_self_iff.2 (Text.bne_of_notMem hfragment),
    List.dropWhile_append_of_pos (Text.bne_of_notMem hplace.1),
    List.dropWhile_cons_of_neg (by decide)]
  rfl

/-- A character that stands for itself in a query, and does not end one. -/
def IsPlain (c : Char) : Prop := isForeign c = false ∧ c ∉ '?' :: querySpecial true

instance (c : Char) : Decidable (IsPlain c) := inferInstanceAs (Decidable (_ ∧ _))

theorem IsPlain.notMem {c : Char} (h : IsPlain c) : c ∉ querySpecial true :=
  fun hc => h.2 (List.mem_cons_of_mem _ hc)

theorem IsPlain.lt_toNat {c : Char} (h : IsPlain c) : 0x20 < c.toNat := by
  have hle : 0x20 ≤ c.toNat := by
    have := h.1
    simp only [isForeign, Bool.or_eq_false_iff, decide_eq_false_iff_not] at this
    omega
  have hblank : c ≠ ' ' := fun hc => h.notMem (by rw [hc]; decide)
  exact lt_of_le_of_ne hle fun heq => hblank (Char.toNat_inj.1 heq.symm)

theorem IsPlain.isRead {c : Char} (h : IsPlain c) : isRead c = true := by
  have hgt := h.lt_toNat
  rw [Address.isRead, Bool.not_eq_true', Bool.eq_false_iff]
  simp only [Bool.or_eq_true, beq_iff_eq, ne_eq, not_or]
  refine ⟨⟨?_, ?_⟩, ?_⟩
  all_goals
    rintro rfl
    revert hgt
    decide

theorem isPlain_of_isDigit {c : Char} (h : c.isDigit = true) : IsPlain c := by
  have hspecial : ∀ d ∈ '?' :: querySpecial true, d.isDigit = false := by simp [querySpecial]
  have hrange : 0x30 ≤ c.toNat ∧ c.toNat ≤ 0x39 := Char.isDigit_iff_toNat.1 h
  refine ⟨?_, fun hc => ?_⟩
  · simp only [isForeign, Bool.or_eq_false_iff, decide_eq_false_iff_not]
    omega
  · rw [hspecial c hc] at h
    cases h

theorem escape_eq_self {s : List Char} (h : ∀ c ∈ s, IsPlain c) :
    escape (querySpecial true) s = s := by
  induction s with
  | nil => rfl
  | cons c s ih =>
    have hc := h c List.mem_cons_self
    rw [escape, List.flatMap_cons, if_neg (by simp [hc.1, hc.notMem])]
    exact congrArg (c :: ·) (ih fun d hd => h d (List.mem_cons_of_mem c hd))

/-! ## The path -/

theorem question_notMem_escapeOctet (b : UInt8) : '?' ∉ escapeOctet b := by
  have hdigit : ∀ n < 16, '?' ≠ (Text.hexDigit n).toUpper := by decide
  have hb : b.toNat < 256 := b.toNat_lt
  rw [escapeOctet]
  simp only [List.mem_cons, List.not_mem_nil, or_false, not_or]
  exact ⟨by decide, hdigit _ (by omega), hdigit _ (by omega)⟩

theorem question_notMem_escape (s : List Char) : '?' ∉ escape pathSpecial s := by
  intro h
  obtain ⟨c, -, hc⟩ := List.mem_flatMap.1 h
  split at hc
  · obtain ⟨b, -, hb⟩ := List.mem_flatMap.1 hc
    exact question_notMem_escapeOctet b hb
  · next hkept =>
    obtain rfl := List.mem_singleton.1 hc
    exact hkept (by decide)

/-- Following segments adds nothing to them but empty ones. -/
theorem mem_of_mem_follow {path segments : List (List Char)} {segment : List Char}
    (h : segment ∈ follow path segments) :
    segment ∈ path ∨ segment ∈ segments ∨ segment = [] := by
  have hback {path : List (List Char)} {segment : List Char} (h : segment ∈ back path) :
      segment ∈ path := by
    unfold back at h
    split at h
    · exact h
    · exact List.dropLast_subset path h
  fun_induction follow path segments <;> grind

theorem question_notMem_pathBehind (s : List Char) : '?' ∉ (pathBehind true s).chars := by
  have hwalk (t : List Char) : '?' ∉ (walk true [] t).chars := by
    intro h
    obtain ⟨segment, hsegment, h⟩ := List.mem_flatMap.1 h
    have h : '?' ∈ segment := (List.mem_cons.1 h).resolve_left (by decide)
    rcases mem_of_mem_follow hsegment with hnil | hsplit | rfl
    · cases hnil
    · exact question_notMem_escape _ (Text.mem_of_mem_split hsplit h)
    · cases h
  cases s with
  | nil => decide
  | cons c s => exact hwalk _

/-- **The query is what a server is told behind the first question mark.** -/
theorem dropWhile_target {a : Address} (h : '?' ∉ a.path.chars) :
    a.target.toList.dropWhile (· != '?') =
      match a.query with
      | some q => '?' :: q
      | none => [] := by
  rw [target, String.toList_ofList, List.dropWhile_append_of_pos (Text.bne_of_notMem h)]
  cases a.query with
  | none => rfl
  | some q => exact List.dropWhile_cons_of_neg (by decide)

/-- **A query that is written plainly is what the server is told.** -/
theorem dropWhile_target_of_read? {scheme : String} (web : scheme ∈ requestSchemes)
    {place query : List Char} {a : Address} (hplace : '?' ∉ place ∧ '#' ∉ place)
    (hquery : ∀ c ∈ query, IsPlain c)
    (hread : read? none (String.ofList (scheme.toList ++ ':' :: (place ++ '?' :: query))) =
      some a) :
    a.target.toList.dropWhile (· != '?') = '?' :: query := by
  have hlast : ∀ c ∈ ('?' :: query).getLast?, 0x20 < c.toNat := by
    intro c hc
    rcases List.mem_cons.1 (List.mem_of_getLast? hc) with rfl | hc
    · decide
    · exact (hquery c hc).lt_toNat
  have hkept : query.filter isRead = query :=
    List.filter_eq_self.2 fun c hc => (hquery c hc).isRead
  have hcleaned : cleaned (String.ofList (scheme.toList ++ ':' :: (place ++ '?' :: query))).toList =
      scheme.toList ++ ':' :: (place.filter isRead ++ '?' :: query) := by
    rw [String.toList_ofList, cleaned_web web rfl hlast, hkept]
  have hmarks : '?' ∉ place.filter isRead ∧ '#' ∉ place.filter isRead :=
    ⟨fun h => hplace.1 (List.mem_filter.1 h).1, fun h => hplace.2 (List.mem_filter.1 h).1⟩
  have hfragment : '#' ∉ query := fun h => (hquery '#' h).notMem (by decide)
  obtain ⟨_, hweb⟩ := read?_web web hcleaned
  rw [hread, writtenQuery?_append hmarks hfragment, Option.map_some, escape_eq_self hquery] at hweb
  obtain ⟨p, -, rfl⟩ := Option.map_eq_some_iff.1 hweb.symm
  exact dropWhile_target (question_notMem_pathBehind _)

end Address
end MeteredChecker
