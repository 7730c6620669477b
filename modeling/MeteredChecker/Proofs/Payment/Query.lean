import MeteredChecker.Proofs.Config.Endpoints
import MeteredChecker.Proofs.Decimal.Cents

/-!
# The query of a payment

The address at which a payment is created is three texts in a row, a base, a path and a query,
and nobody looks at the marks that are in them.  The query is plain: an amount has digits, a
point and a sign at most, which stand for themselves in every part of an address.  So if there
are no marks in the base and the path, the query is the amount alone, as the text and as what
the server is told (`amount_is_whole_query_iff`).

All that is demanded of a path is a slash at its beginning.  A `?` in it makes the amount a
part of a longer query, and a `#` takes the query away altogether, since a server is not told
what is behind it.
-/

namespace MeteredChecker

/-- A server is told the target of an address that can be read. -/
theorem exists_read?_of_requestTarget? {schemes : List Scheme} {url target : String}
    (h : requestTarget? schemes url = some target) :
    ∃ a, Address.read? none url = some a ∧ a.target = target := by
  unfold requestTarget? at h
  simp only [Option.bind_eq_bind, Option.bind_eq_some_iff] at h
  obtain ⟨a, hread, h⟩ := h
  split at h
  · exact ⟨a, hread, Option.some.inj h⟩
  · cases h

namespace Payment
namespace Terms

variable (t : Terms)

/-- The query of a payment. -/
def query : List Char := "amount=".toList ++ t.amountParam.toList

theorem isPlain_of_mem_query {c : Char} (h : c ∈ t.query) : Address.IsPlain c := by
  rcases List.mem_append.1 h with h | h
  · have hname : ∀ c ∈ "amount=".toList, Address.IsPlain c := by
      simp [Address.IsPlain, Address.isForeign, Address.querySpecial]
    exact hname c h
  · rw [amountParam, Decimal.toCents, String.toList_ofList] at h
    rcases Decimal.mem_toCentsChars h with rfl | rfl | hdigit
    · decide
    · decide
    · exact Address.isPlain_of_isDigit hdigit

theorem toList_url : t.url.toList =
    Text.dropEndChars '/' (t.base.getD "").toList ++ t.path.toList ++ '?' :: t.query := by
  rw [url, String.toList_append, String.toList_append, String.toList_append, Text.dropEnd,
    String.toList_ofList, List.append_assoc _ "?amount=".toList]
  rfl

theorem question_notMem_query : '?' ∉ t.query :=
  fun h => (t.isPlain_of_mem_query h).2 (by decide)

theorem hash_notMem_query : '#' ∉ t.query :=
  fun h => (t.isPlain_of_mem_query h).2 (by decide)

variable {t}

/-- **The query is all that is marked in the address if and only if there is no mark in the
path**, for a base without marks. -/
theorem url_marks_iff
    (hbase : '?' ∉ (t.base.getD "").toList ∧ '#' ∉ (t.base.getD "").toList) :
    (t.url.toList.count '?' = 1 ∧ '#' ∉ t.url.toList ∧
        t.url.toList.dropWhile (· != '?') = '?' :: t.query) ↔
      '?' ∉ t.path.toList ∧ '#' ∉ t.path.toList := by
  have hkept : '?' ∉ Text.dropEndChars '/' (t.base.getD "").toList ∧
      '#' ∉ Text.dropEndChars '/' (t.base.getD "").toList :=
    ⟨fun h => hbase.1 (Text.mem_of_mem_dropEndChars h),
      fun h => hbase.2 (Text.mem_of_mem_dropEndChars h)⟩
  rw [toList_url]
  constructor
  · rintro ⟨hone, hfragment, -⟩
    constructor
    · rw [List.count_append, List.count_append, List.count_cons_self,
        List.count_eq_zero_of_not_mem hkept.1,
        List.count_eq_zero_of_not_mem t.question_notMem_query]
        at hone
      exact List.count_eq_zero.1 (by omega)
    · exact fun h => hfragment (List.mem_append_left _ (List.mem_append_right _ h))
  · rintro ⟨hquestion, hhash⟩
    have hplace : '?' ∉ Text.dropEndChars '/' (t.base.getD "").toList ++ t.path.toList := by
      simp [hkept.1, hquestion]
    refine ⟨?_, ?_, ?_⟩
    · rw [List.count_append, List.count_cons_self, List.count_eq_zero_of_not_mem hplace,
        List.count_eq_zero_of_not_mem t.question_notMem_query]
    · simp [hkept.2, hhash, t.hash_notMem_query]
    · rw [List.dropWhile_append_of_pos (Text.bne_of_notMem hplace),
        List.dropWhile_cons_of_neg (by decide)]

/-- **What the server is told is the amount alone**, if there are no marks in the base and the
path. -/
theorem dropWhile_target_of_url {base : String} {schemes : List Scheme} {target : String}
    (hbase : t.base = some base) (habsolute : Config.isAbsolute base = true)
    (hmarks : '?' ∉ base.toList ∧ '#' ∉ base.toList)
    (hpath : '?' ∉ t.path.toList ∧ '#' ∉ t.path.toList)
    (hreachable : requestTarget? schemes t.url = some target) :
    target.toList.dropWhile (· != '?') = '?' :: t.query := by
  obtain ⟨scheme, web, rest, hrest⟩ := Config.isAbsolute_iff.1 habsolute
  obtain ⟨a, hread, rfl⟩ := exists_read?_of_requestTarget? hreachable
  let more := Text.dropEndChars '/' ('/' :: '/' :: rest)
  have hcut : Text.dropEndChars '/' base.toList = scheme.toList ++ ':' :: more := by
    rw [hrest, Text.dropEndChars_append_cons (by decide)]
  have hmore {c : Char} (hc : c ∈ more) : c ∈ base.toList :=
    Text.mem_of_mem_dropEndChars (c := '/') (by rw [hcut]; simp [hc])
  have hurl : t.url =
      String.ofList (scheme.toList ++ ':' :: (more ++ t.path.toList ++ '?' :: t.query)) := by
    rw [← String.toList_inj, toList_url, hbase, Option.getD_some, hcut, String.toList_ofList]
    simp only [List.append_assoc, List.cons_append]
  have hplace : '?' ∉ more ++ t.path.toList ∧ '#' ∉ more ++ t.path.toList := by
    simp only [List.mem_append, not_or]
    exact ⟨⟨fun h => hmarks.1 (hmore h), hpath.1⟩, fun h => hmarks.2 (hmore h), hpath.2⟩
  rw [hurl] at hread
  exact Address.dropWhile_target_of_read? web hplace (fun c => t.isPlain_of_mem_query) hread

end Terms
end Payment

/-- **The amount is the whole query of a payment if and only if there is no mark in the path.**

The base is an absolute address without a question mark and without a hash.  The address of a
payment has exactly one question mark and no hash, and behind the question mark stands the name
of the parameter with the amount and nothing else, if and only if neither mark is in the path.
In that case the request has one parameter, too: whatever server it reaches, over a plain
connection or a secured one, is told this query and no other. -/
theorem amount_is_whole_query_iff {config : Config} {base : String}
    (hbase : config.payment.base = some base) (habsolute : Config.isAbsolute base = true)
    (hmarks : '?' ∉ base.toList ∧ '#' ∉ base.toList) :
    let url := config.payment.url.toList
    let query := "amount=".toList ++ config.payment.amountParam.toList
    let path := config.payment.path.toList
    (url.count '?' = 1 ∧ '#' ∉ url ∧ url.dropWhile (· != '?') = '?' :: query ↔
      '?' ∉ path ∧ '#' ∉ path) ∧
    ('?' ∉ path ∧ '#' ∉ path → ∀ schemes request,
      (config.letter .payment).request? schemes = some request →
      request.target.toList.dropWhile (· != '?') = '?' :: query) := by
  refine ⟨Payment.Terms.url_marks_iff (by rwa [hbase]), fun hpath schemes request hrequest => ?_⟩
  rw [Letter.request?, Option.map_eq_some_iff] at hrequest
  obtain ⟨target, htarget, rfl⟩ := hrequest
  exact Payment.Terms.dropWhile_target_of_url hbase habsolute hmarks hpath htarget

/-- A step back in the path does not touch the amount. -/
theorem amount_behind_step_back :
    ∃ (config : Config) (request : Request), config.IsValid ∧
      config.payment = ⟨some "http://localhost:2424/", "/pay/../paid", Payment.Terms.unitAmount⟩ ∧
      (config.letter .payment).request? [.http] = some request ∧
      request.target = "/paid?amount=1.00" ∧
      request.target.toList.dropWhile (· != '?') =
        '?' :: ("amount=".toList ++ config.payment.amountParam.toList) := by
  let config : Config := { Config.default with
    payment := ⟨some "http://localhost:2424/", "/pay/../paid", Payment.Terms.unitAmount⟩ }
  have hrequest : (config.letter .payment).request? [.http] =
    some ⟨.post, "/paid?amount=1.00", some "application/json", ""⟩ := by decide +kernel
  exact ⟨config, _, by decide, rfl, hrequest, rfl,
    (amount_is_whole_query_iff rfl (by decide) (by decide)).2 (by decide) _ _ hrequest⟩

/-- **A mark in the path is accepted, and the amount is not the query.**  Behind a hash the
server is not told the amount at all, and behind a question mark it is told a longer query. -/
theorem marks_in_path_hide_amount :
    ∃ config config' : Config, config.IsValid ∧ config'.IsValid ∧
      config.payment = ⟨some "http://127.0.0.1:2424", "/pay#now", Payment.Terms.unitAmount⟩ ∧
      config'.payment = ⟨some "http://127.0.0.1:2424", "/pay?by=card", Payment.Terms.unitAmount⟩ ∧
      config.payment.url = "http://127.0.0.1:2424/pay#now?amount=1.00" ∧
      config'.payment.url = "http://127.0.0.1:2424/pay?by=card?amount=1.00" ∧
      (config.letter .payment).request? [.http] =
        some ⟨.post, "/pay", some "application/json", ""⟩ ∧
      (config'.letter .payment).request? [.http] =
        some ⟨.post, "/pay?by=card?amount=1.00", some "application/json", ""⟩ := by
  let base : Option String := some "http://127.0.0.1:2424"
  refine ⟨{ Config.default with payment := ⟨base, "/pay#now", Payment.Terms.unitAmount⟩ },
    { Config.default with payment := ⟨base, "/pay?by=card", Payment.Terms.unitAmount⟩ }, ?_⟩
  decide +kernel

end MeteredChecker
