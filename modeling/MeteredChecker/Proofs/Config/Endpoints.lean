import MeteredChecker.Proofs.Address.Web
import MeteredChecker.Proofs.Config.Demands
import MeteredChecker.Proofs.Service.Wire

/-!
# Where the service is asked

A base is valid if it begins like an absolute address, and an endpoint is joined to it by one
slash, all slashes at its end being taken off first.  These two rules do not know of each
other.  A base of which nothing is left behind its scheme but slashes is valid, and then the
slashes that are taken off are the ones of the scheme: `http://` and `check` make `http:/check`,
which begins with a scheme and no authority, and is read as the address of a host named
`check`.

This is the only way in which the rules collide.  As soon as there is one other character
behind the scheme, the scheme stays whole (`Config.prefix_endpoint_iff`), and if the base
leads anywhere, the endpoints lead to the same place (`Config.exists_read?_endpoint`).
-/

namespace MeteredChecker

/-! ## Slashes at the end -/

namespace Text

variable {c : Char} {s t : List Char}

theorem dropEndChars_eq_rdropWhile : dropEndChars c s = s.rdropWhile (· == c) := rfl

/-- What is taken off the end of a text is copies of the character. -/
theorem exists_eq_dropEndChars_append (c : Char) (s : List Char) :
    ∃ n, s = dropEndChars c s ++ List.replicate n c := by
  refine ⟨(s.rtakeWhile (· == c)).length, ?_⟩
  have hcopies : s.rtakeWhile (· == c) = List.replicate (s.rtakeWhile (· == c)).length c := by
    refine List.eq_replicate_iff.2 ⟨rfl, fun d hd => ?_⟩
    simpa using List.mem_rtakeWhile_imp hd
  rw [← hcopies, dropEndChars_eq_rdropWhile, List.rdropWhile_append_rtakeWhile]

theorem mem_of_mem_dropEndChars {d : Char} (h : d ∈ dropEndChars c s) : d ∈ s :=
  (List.rdropWhile_prefix _ s).subset h

/-- What is in front of another character stays as it is. -/
theorem dropEndChars_append_of_exists (h : ∃ d ∈ t, d ≠ c) (s : List Char) :
    dropEndChars c (s ++ t) = s ++ dropEndChars c t := by
  have hrest : ¬ (t.reverse.dropWhile (· == c)).isEmpty := by
    obtain ⟨d, hd, hne⟩ := h
    rw [List.isEmpty_iff, List.dropWhile_eq_nil_iff]
    exact fun hall => hne (by simpa using hall d (List.mem_reverse.2 hd))
  rw [dropEndChars, List.reverse_append, List.dropWhile_append, if_neg hrest, List.reverse_append,
    List.reverse_reverse, dropEndChars]

theorem dropEndChars_of_forall (h : ∀ d ∈ t, d = c) : dropEndChars c t = [] := by
  rw [dropEndChars_eq_rdropWhile, List.rdropWhile_eq_nil_iff]
  simpa using h

/-- Another character stops what is taken off. -/
theorem dropEndChars_append_cons {d : Char} (hd : d ≠ c) (s t : List Char) :
    dropEndChars c (s ++ d :: t) = s ++ d :: dropEndChars c t := by
  rw [dropEndChars_append_of_exists ⟨d, List.mem_cons_self, hd⟩]
  by_cases h : ∃ e ∈ t, e ≠ c
  · exact congrArg (s ++ ·) (dropEndChars_append_of_exists h [d])
  · have hall : ∀ e ∈ t, e = c := by simpa using h
    have hcopies : t.reverse.dropWhile (· == c) = [] := by simpa using hall
    rw [dropEndChars_of_forall hall, dropEndChars, List.reverse_cons, List.dropWhile_append,
      hcopies]
    simp [hd]

end Text

/-! ## Endpoints -/

namespace Config

variable {c : Config} {scheme name : String} {rest : List Char}

theorem toList_endpoint (c : Config) (name : String) :
    (c.endpoint name).toList = Text.dropEndChars '/' c.apiBase.toList ++ '/' :: name.toList := by
  simp [endpoint, Text.dropEnd]

/-- **An endpoint keeps the scheme of its base if and only if the base has something else than
slashes behind it.** -/
theorem prefix_endpoint_iff (hbase : c.apiBase.toList = scheme.toList ++ ':' :: '/' :: '/' :: rest)
    (hname : name.toList.head? ≠ some '/') :
    scheme.toList ++ [':', '/', '/'] <+: (c.endpoint name).toList ↔ ∃ d ∈ rest, d ≠ '/' := by
  rw [toList_endpoint, hbase, Text.dropEndChars_append_cons (by decide), List.append_assoc,
    List.prefix_append_right_inj, List.cons_append, List.cons_prefix_cons]
  by_cases hrest : ∃ d ∈ rest, d ≠ '/'
  · have hkept : Text.dropEndChars '/' ('/' :: '/' :: rest) =
        ['/', '/'] ++ Text.dropEndChars '/' rest :=
      Text.dropEndChars_append_of_exists hrest ['/', '/']
    rw [hkept, List.append_assoc]
    exact iff_of_true ⟨rfl, List.prefix_append _ _⟩ hrest
  · -- The slashes of the scheme are taken off, too.  One is put back, and the next character
    -- is not a slash.
    have hlost : Text.dropEndChars '/' ('/' :: '/' :: rest) = [] := by
      refine Text.dropEndChars_of_forall ?_
      simpa using hrest
    rw [hlost, List.nil_append, List.cons_prefix_cons]
    refine iff_of_false ?_ hrest
    rintro ⟨-, -, t, ht⟩
    exact hname (by rw [← ht]; rfl)

/-- **An endpoint is where its base is.**  If the base leads to a host, which is seen when a
slash is put behind it, an endpoint leads to the same socket of the same host. -/
theorem exists_read?_endpoint {root : Address} (habsolute : isAbsolute c.apiBase = true)
    (hroot : Address.read? none (c.apiBase ++ "/") = some root)
    (hname : ∀ d ∈ ('/' :: name.toList).getLast?, 0x20 < d.toNat) :
    ∃ a, Address.read? none (c.endpoint name) = some a ∧ a.scheme = root.scheme ∧
      a.host = root.host ∧ a.socket = root.socket := by
  obtain ⟨scheme, web, rest, hbase⟩ := isAbsolute_iff.1 habsolute
  obtain ⟨n, hslashes⟩ := Text.exists_eq_dropEndChars_append '/' ('/' :: '/' :: rest)
  have hplace : c.apiBase ++ "/" = String.ofList (scheme.toList ++ ':' ::
      (Text.dropEndChars '/' ('/' :: '/' :: rest) ++ '/' :: List.replicate n '/')) := by
    have hslash : List.replicate n '/' ++ ['/'] = '/' :: List.replicate n '/' := by
      rw [← List.replicate_succ', List.replicate_succ]
    rw [← String.toList_inj, String.toList_append, hbase, ← hslash, ← List.append_assoc, ← hslashes,
      List.append_assoc]
    exact String.toList_ofList.symm
  have hendpoint : c.endpoint name = String.ofList (scheme.toList ++ ':' ::
      (Text.dropEndChars '/' ('/' :: '/' :: rest) ++ '/' :: name.toList)) := by
    rw [← String.toList_inj, toList_endpoint, hbase, Text.dropEndChars_append_cons (by decide),
      String.toList_ofList, List.append_assoc, List.cons_append]
  rw [hplace] at hroot
  rw [hendpoint]
  exact Address.exists_read?_below web hroot hname

end Config

/-- **A base with nothing but slashes behind its scheme loses the scheme, and no other does.**

The base of a valid configuration begins with a scheme.  The addresses at which the service is
asked begin with the same scheme, colon and two slashes as the base, if and only if something
else than slashes is behind it.  And if the base leads to a host, so does each of the three
addresses: to the same host, at the same socket, under the same scheme. -/
theorem endpoints_keep_scheme_iff {config : Config} (valid : config.IsValid) :
    ∃ scheme ∈ ["http", "https"], ∃ rest,
      config.apiBase.toList = scheme.toList ++ ':' :: '/' :: '/' :: rest ∧
      ∀ url ∈ [config.checkUrl, config.statsUrl, config.resetUrl],
        (scheme.toList ++ [':', '/', '/'] <+: url.toList ↔ ∃ c ∈ rest, c ≠ '/') ∧
        ∀ root, Address.read? none (config.apiBase ++ "/") = some root →
          ∃ a, Address.read? none url = some a ∧ a.scheme = root.scheme ∧ a.host = root.host ∧
            a.socket = root.socket := by
  obtain ⟨habsolute, -, -⟩ := Config.isValid_iff.1 valid
  obtain ⟨scheme, web, rest, hbase⟩ := Config.isAbsolute_iff.1 habsolute
  refine ⟨scheme, web, rest, hbase, fun url hurl => ?_⟩
  obtain ⟨name, hname, rfl⟩ : ∃ name ∈ ["check", "stats", "reset"], url = config.endpoint name := by
    simpa [Config.checkUrl, Config.statsUrl, Config.resetUrl] using hurl
  have hends : ∀ name ∈ ["check", "stats", "reset"], name.toList.head? ≠ some '/' ∧
      ∀ c ∈ ('/' :: name.toList).getLast?, 0x20 < c.toNat := by simp
  exact ⟨Config.prefix_endpoint_iff hbase (hends name hname).1,
    fun root hroot => Config.exists_read?_endpoint habsolute hroot (hends name hname).2⟩

/-- The slashes behind a host are not the ones of the scheme. -/
theorem slashes_behind_host_are_harmless :
    ∃ config : Config, config.IsValid ∧ config.apiBase = "http://localhost:2424//" ∧
      ∀ url ∈ [config.checkUrl, config.statsUrl, config.resetUrl],
        "http://".toList <+: url.toList ∧
        ∃ a, Address.read? none url = some a ∧ a.host = some (.name "localhost".toList) ∧
          a.socket = some 2424 := by
  have valid : ({ Config.default with apiBase := "http://localhost:2424//" } : Config).IsValid := by
    decide
  obtain ⟨scheme, web, rest, hbase, hkept⟩ := endpoints_keep_scheme_iff valid
  obtain rfl : scheme = "http" := by
    rcases Address.eq_http_or_https web with rfl | rfl
    · rfl
    · exact absurd hbase (by simp)
  obtain rfl : rest = "localhost:2424//".toList := by simpa using hbase.symm
  have hroot : Address.read? none "http://localhost:2424///" =
      some ⟨"http", some (.name "localhost".toList), some 2424, .segments [[], [], []], none,
        none⟩ := by
    decide +kernel
  refine ⟨_, valid, rfl, fun url hurl => ⟨(hkept url hurl).1.2 ⟨'l', by decide, by decide⟩, ?_⟩⟩
  obtain ⟨a, ha, -, hhost, hsocket⟩ := (hkept url hurl).2 _ hroot
  exact ⟨a, ha, hhost, hsocket⟩

/-- **A base that is nothing but a scheme is accepted, and its endpoints are hosts.**  With the
base `http://` the quota is asked for at the root of a host named `stats`. -/
theorem bare_scheme_leads_elsewhere :
    ∃ config : Config, config.IsValid ∧ config.apiBase = "http://" ∧
      config.checkUrl = "http:/check" ∧ config.statsUrl = "http:/stats" ∧
      config.resetUrl = "http:/reset" ∧
      (∀ url ∈ [config.checkUrl, config.statsUrl, config.resetUrl],
        ¬ "http://".toList <+: url.toList) ∧
      (Address.read? none config.statsUrl).bind Address.host = some (.name "stats".toList) ∧
      (config.letter .stats).request? [.http] = some ⟨.get, "/", none, ""⟩ := by
  refine ⟨{ Config.default with apiBase := "http://" }, ?_⟩
  decide +kernel

end MeteredChecker
