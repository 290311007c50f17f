import Mathlib.Data.List.DropRight
import PocketAp.Base.NetURL
import PocketAp.Pocket.Signer

/-!
# The URL that is signed

`src/pocket/signer.go:133–177`. A supplier's base URL and the inbound path and query are joined
as texts, and `http.NewRequest` parses what comes out. Parsed against its parts: which route of
the backend the signed request addresses.
-/

namespace PocketAp.Pocket

open PocketAp.Base PocketAp.Domain PocketAp.Relay

/-- The URL of `http.NewRequest`, which drops an empty port; `none` is an error. -/
def requestURL (reader : AuthorityReader) (url : String) : Option NetURL :=
  (NetURL.parse reader url.toList).map fun u ↦
    { u with host := if u.host.getLast? = some ':' then u.host.dropLast else u.host }

/-- `http.NewRequest` accepts no URL that it cannot parse. -/
def ParsesURLs [Shannon] (reader : AuthorityReader) : Prop :=
  ∀ method url, Shannon.newRequest method url = none → (requestURL reader url).isSome = true

/-- An inbound path and query, with a slash in front. -/
def inboundText (path : String) : List Char :=
  if hasPrefix path "/" then path.toList else '/' :: path.toList

/-- The path of what the client asked for. -/
def inboundPath (path : String) : List Char := before '?' (inboundText path)

/-- The query of what the client asked for. -/
def inboundQuery (path : String) : List Char := after '?' path.toList

/-- The inbound query, if there is one. -/
def inboundQuery? (path : String) : Option (List Char) :=
  if '?' ∈ inboundText path then some (inboundQuery path) else none

/-- `strings.TrimRight` of slashes. -/
def trimSlashes (s : List Char) : List Char := s.rdropWhile (· = '/')

/-- Slashes at the end. -/
def trailingSlashes (s : List Char) : List Char := s.rtakeWhile (· = '/')

/-- The inbound path goes below the base's, with the inbound query if the base has none. -/
structure RouteKept (base : String) (b : NetURL) (inbound : String) (u : NetURL) : Prop where
  path : u.path = trimSlashes b.path ++ inboundPath inbound
  query : '?' ∉ base.toList → u.rawQuery = inboundQuery inbound

/-! ### Joining -/

private theorem inboundText_eq_cons (path : String) : ∃ rest, inboundText path = '/' :: rest := by
  unfold inboundText
  split
  · next h =>
    obtain ⟨rest, hrest⟩ := (hasPrefix_iff path "/").mp h
    exact ⟨rest, hrest.symm⟩
  · exact ⟨_, rfl⟩

private theorem inboundPath_head (path : String) : (inboundPath path).head? = some '/' := by
  obtain ⟨rest, hrest⟩ := inboundText_eq_cons path
  rw [inboundPath, hrest, before, List.takeWhile_cons_of_pos (by decide), List.head?_cons]

private theorem after_inboundText (path : String) :
    after '?' (inboundText path) = inboundQuery path := by
  unfold inboundText
  split
  · rfl
  · rw [after, List.dropWhile_cons_of_pos (by decide)]
    rfl

private theorem inboundText_eq (path : String) :
    inboundText path = inboundPath path ++ AbsoluteURL.querySuffix (inboundQuery? path) := by
  unfold inboundQuery?
  rcases eq_before_or_append '?' (inboundText path) with ⟨hbefore, hnone⟩ | hsome
  · rw [if_neg hnone, AbsoluteURL.querySuffix, List.append_nil]
    exact hbefore
  · rw [if_pos (by rw [hsome]; simp), AbsoluteURL.querySuffix, ← after_inboundText]
    exact hsome

private theorem getD_inboundQuery? (path : String) :
    (inboundQuery? path).getD [] = inboundQuery path := by
  unfold inboundQuery?
  split
  · rfl
  · next hnone =>
    rw [← after_inboundText, after_of_notMem hnone]
    rfl

private theorem trimSlashes_append {pre : List Char} (h : trimSlashes pre = pre) (s : List Char) :
    trimSlashes (pre ++ s) = pre ++ trimSlashes s := by
  unfold trimSlashes at *
  induction s using List.reverseRecOn with
  | nil => simpa using h
  | append_singleton s c ih =>
    rw [← List.append_assoc, List.rdropWhile_concat, List.rdropWhile_concat, ih]
    split <;> simp

private theorem trimSlashes_eq_self {s : List Char} {c : Char} (h : s.getLast? = some c)
    (hc : c ≠ '/') : trimSlashes s = s := by
  rw [trimSlashes, List.rdropWhile_eq_self_iff]
  intro hne
  rw [List.getLast?_eq_getLast_of_ne_nil hne, Option.some.injEq] at h
  simpa [h] using hc

/-- A path below another. -/
private theorem head_append_inboundPath {s : List Char} (h : s = [] ∨ s.head? = some '/')
    (path : String) : (trimSlashes s ++ inboundPath path).head? = some '/' := by
  obtain ⟨rest, hrest⟩ := List.rdropWhile_prefix (· = '/') (l := s)
  change trimSlashes s ++ rest = s at hrest
  cases htrim : trimSlashes s with
  | nil => exact inboundPath_head path
  | cons c cs =>
    rw [htrim] at hrest
    rw [← hrest] at h
    simpa using h

private theorem notMem_trimSlashes {c : Char} {s : List Char} (h : c ∉ s) : c ∉ trimSlashes s :=
  fun hmem ↦ h ((List.rdropWhile_prefix _ s).subset hmem)

/-- What the joined text is, part by part: without a query the inbound path goes below the
base's, and after a query everything inbound is a part of that. -/
def join (base : AbsoluteURL) (inbound : String) : AbsoluteURL :=
  match base.query with
  | none =>
    { base with
      path := trimSlashes base.path ++ inboundPath inbound
      query := inboundQuery? inbound
      path_query := by
        rw [List.mem_append, not_or]
        exact ⟨notMem_trimSlashes base.path_query, notMem_before _ _⟩
      path_head := .inr (head_append_inboundPath base.path_head inbound) }
  | some query => { base with query := some (trimSlashes query ++ inboundText inbound) }

variable {base : AbsoluteURL} {inbound : String}

private theorem text_join (hauthority : base.authority ≠ []) :
    (join base inbound).text = trimSlashes base.text ++ inboundText inbound := by
  unfold join
  cases hquery : base.query with
  | none =>
    have hlast : (base.scheme ++ [':', '/', '/'] ++ base.authority).getLast? =
        some (base.authority.getLast hauthority) := by
      rw [List.getLast?_append_of_ne_nil _ hauthority,
        List.getLast?_eq_getLast_of_ne_nil hauthority]
    have hne : base.authority.getLast hauthority ≠ '/' := fun heq ↦
      base.authority_slash (heq ▸ List.getLast_mem hauthority)
    have htext : base.text = base.scheme ++ [':', '/', '/'] ++ base.authority ++ base.path := by
      simp [AbsoluteURL.text, hquery, AbsoluteURL.querySuffix]
    rw [htext, trimSlashes_append (trimSlashes_eq_self hlast hne), inboundText_eq inbound]
    simp [AbsoluteURL.text]
  | some query =>
    have hlast : (base.scheme ++ [':', '/', '/'] ++ base.authority ++ base.path ++ ['?']).getLast? =
        some '?' := List.getLast?_concat
    have htext : base.text =
        base.scheme ++ [':', '/', '/'] ++ base.authority ++ base.path ++ ['?'] ++ query := by
      simp [AbsoluteURL.text, hquery, AbsoluteURL.querySuffix]
    rw [htext, trimSlashes_append (trimSlashes_eq_self hlast (by decide))]
    simp [AbsoluteURL.text, AbsoluteURL.querySuffix]

private theorem buildTargetURL_join (hauthority : base.authority ≠ []) (hpath : inbound ≠ "")
    (hroot : inbound ≠ "/") :
    (buildTargetURL (String.ofList base.text) inbound).toList = (join base inbound).text := by
  rw [text_join hauthority, buildTargetURL, if_neg (by simp [hpath, hroot])]
  simp only [String.toList_append, String.toList_ofList]
  congr 1
  unfold inboundText
  split
  · rfl
  · simp

/-! ### Parsing what was joined -/

private theorem validEscapes_trimSlashes {s : List Char} (h : validEscapes s = true) :
    validEscapes (trimSlashes s) = true := by
  have hsplit : trimSlashes s ++ trailingSlashes s = s := List.rdropWhile_append_rtakeWhile
  cases hslashes : trailingSlashes s with
  | nil =>
    rw [hslashes, List.append_nil] at hsplit
    rwa [hsplit]
  | cons c rest =>
    have hc : c = '/' := by
      have hmem : c ∈ trailingSlashes s := by simp [hslashes]
      simpa using List.mem_rtakeWhile_imp hmem
    rw [hslashes, hc] at hsplit
    rw [← hsplit, validEscapes_append_slash, Bool.and_eq_true] at h
    exact h.1

private theorem validEscapes_join (hbase : validEscapes base.path = true)
    (hinbound : validEscapes (inboundPath inbound) = true) :
    validEscapes (join base inbound).path = true := by
  unfold join
  cases base.query with
  | none =>
    obtain ⟨rest, hrest⟩ := List.head?_eq_some_iff.mp (inboundPath_head inbound)
    have hsplit := validEscapes_append_slash [] rest
    rw [hrest] at hinbound
    rw [List.nil_append, hinbound] at hsplit
    simp only [hrest]
    rw [validEscapes_append_slash, validEscapes_trimSlashes hbase]
    exact hsplit.symm
  | some query => exact hbase

section Requests

variable {reader : AuthorityReader} {b : NetURL}

/-- A base that parses. -/
private structure Parses (reader : AuthorityReader) (base : AbsoluteURL) (b : NetURL) : Prop where
  plain : base.text.any isControl = false
  escapes : validEscapes base.path = true
  authority : base.authority ≠ []
  path : b.path = base.path
  target : ∀ u : AbsoluteURL, u.scheme = base.scheme → u.authority = base.authority →
    '#' ∉ u.text → u.text.any isControl = false → validEscapes u.path = true →
    requestURL reader (String.ofList u.text) =
      some { b with path := u.path, forceQuery := u.query = some [], rawQuery := u.query.getD [] }

private theorem parses_of_requestURL (hfragment : '#' ∉ base.text)
    (h : requestURL reader (String.ofList base.text) = some b) (hhost : b.host ≠ []) :
    Parses reader base b := by
  rw [requestURL, String.toList_ofList, base.parse_text reader hfragment] at h
  split at h
  · cases h
  · next hplain =>
    cases hread : reader.read (base.scheme.map asciiLower) base.authority with
    | none =>
      rw [hread] at h
      cases h
    | some parts =>
      obtain ⟨user, host⟩ := parts
      rw [hread, Option.bind_some] at h
      by_cases hescapes : validEscapes base.path = true
      · simp only [hescapes, if_true, Option.map_some, Option.some.injEq] at h
        subst h
        refine ⟨Bool.eq_false_iff.mpr hplain, hescapes, ?_, rfl, ?_⟩
        · intro hempty
          rw [hempty] at hread
          cases reader.host_empty _ _ _ hread
          exact hhost rfl
        · intro u hscheme hauthority hu hcontrol hpath
          rw [requestURL, String.toList_ofList, u.parse_text reader hu, hcontrol, hscheme,
            hauthority, hread, Option.bind_some]
          simp [hpath]
      · simp [hescapes] at h

private theorem join_keeps : (join base inbound).scheme = base.scheme ∧
    (join base inbound).authority = base.authority := by
  unfold join
  cases base.query <;> exact ⟨rfl, rfl⟩

private theorem notMem_text_join (hauthority : base.authority ≠ []) {c : Char} (hc : c ≠ '/')
    (hbase : c ∉ base.text) (hinbound : c ∉ inbound.toList) : c ∉ (join base inbound).text := by
  rw [text_join hauthority, List.mem_append, not_or]
  refine ⟨notMem_trimSlashes hbase, ?_⟩
  unfold inboundText
  split
  · exact hinbound
  · simp [hc, hinbound]

private theorem control_text_join (hauthority : base.authority ≠ [])
    (hbase : base.text.any isControl = false) :
    (join base inbound).text.any isControl = inbound.toList.any isControl := by
  have htrim : (trimSlashes base.text).any isControl = false := by
    rw [List.any_eq_false] at hbase ⊢
    exact fun c hc ↦ hbase c ((List.rdropWhile_prefix _ _).subset hc)
  rw [text_join hauthority, List.any_append, htrim, Bool.false_or]
  unfold inboundText
  split
  · rfl
  · simp [show isControl '/' = false by decide]

/-- The joined URL, parsed: the base's, up to path and query. -/
private theorem requestURL_buildTargetURL (h : Parses reader base b) (hfragment : '#' ∉ base.text)
    (hpath : inbound ≠ "") (hroot : inbound ≠ "/") (hin : '#' ∉ inbound.toList)
    (hescapes : validEscapes (inboundPath inbound) = true) :
    requestURL reader (buildTargetURL (String.ofList base.text) inbound) =
      if inbound.toList.any isControl then none
      else some
        { b with
          path := (join base inbound).path
          forceQuery := (join base inbound).query = some []
          rawQuery := (join base inbound).query.getD [] } := by
  have htext : buildTargetURL (String.ofList base.text) inbound =
      String.ofList (join base inbound).text := by
    rw [← buildTargetURL_join h.authority hpath hroot, String.ofList_toList]
  have hnohash := notMem_text_join h.authority (by decide) hfragment hin
  have hcontrol := @control_text_join base inbound h.authority h.plain
  rw [htext]
  split
  · next hany =>
    rw [requestURL, String.toList_ofList, AbsoluteURL.parse_text _ _ hnohash, hcontrol, if_pos hany]
    rfl
  · next hany =>
    rw [Bool.not_eq_true] at hany
    exact h.target _ join_keeps.1 join_keeps.2 hnohash (hcontrol.trans hany)
      (validEscapes_join h.escapes hescapes)

private theorem mark_mem_text_iff : '?' ∈ base.text ↔ base.query.isSome = true := by
  have hscheme : '?' ∉ base.scheme := fun hmem ↦
    absurd (base.scheme_chars _ hmem) (by decide)
  have hpre : '?' ∉ base.scheme ++ ':' :: '/' :: '/' :: (base.authority ++ base.path) := by
    simp [hscheme, base.authority_query, base.path_query]
  rw [← AbsoluteURL.mem_querySuffix_iff hpre base.query]
  simp [AbsoluteURL.text]

/-- Which route is addressed. -/
private theorem routeKept_join_iff {u : NetURL} (hb : b.path = base.path)
    (hu : u.path = (join base inbound).path)
    (hquery : u.rawQuery = (join base inbound).query.getD []) :
    RouteKept (String.ofList base.text) b inbound u ↔
      '?' ∉ base.text ∨ inboundPath inbound = trailingSlashes b.path := by
  rw [mark_mem_text_iff]
  unfold join at hu hquery
  cases hmark : base.query with
  | none =>
    simp only [hmark] at hu hquery
    refine iff_of_true ⟨?_, fun _ ↦ ?_⟩ (.inl (by simp))
    · rw [hu, hb]
    · rw [hquery, getD_inboundQuery?]
  | some query =>
    simp only [hmark] at hu hquery
    have hsplit : trimSlashes b.path ++ trailingSlashes b.path = b.path :=
      List.rdropWhile_append_rtakeWhile
    simp only [Option.isSome_some, not_true_eq_false, false_or]
    constructor
    · intro hkept
      have hpath := hkept.path
      rw [hu, ← hb] at hpath
      exact (List.append_cancel_left (hsplit.trans hpath)).symm
    · intro hslashes
      constructor
      · rw [hu, ← hb, hslashes, hsplit]
      · intro hnone
        rw [String.toList_ofList, mark_mem_text_iff, hmark] at hnone
        exact absurd rfl hnone

end Requests

private theorem buildRelayRequest_ok [Shannon] {session : Session} {endpoint : Endpoint}
    {rpcType : RPCType} {input : RelayInput} {base : String} {relay : RelayRequest}
    (hbase : endpoint.url rpcType = some base)
    (h : buildRelayRequest session endpoint rpcType input = .ok relay) :
    Shannon.newRequest input.method (buildTargetURL base input.path) = none ∧
      Shannon.serializeHTTPRequest (innerRequest (buildTargetURL base input.path) input) =
        .ok relay.payload := by
  rw [buildRelayRequest, hbase] at h
  simp only at h
  split at h
  · cases h
  · next hnew =>
    split at h
    · cases h
    · next payloadBz hserialize =>
      split at h
      · cases h
      · cases h
        exact ⟨hnew, hserialize⟩

/-- For a base with a scheme and a host: the joined URL parses if nothing inbound is a control
character; what is signed has the base's scheme, userinfo and host; and it addresses the inbound
route exactly when the base has no query, or the inbound path is the slashes at the end of the
base's. -/
theorem buildRelayRequest_routeKept_iff [Shannon] (reader : AuthorityReader)
    (hnew : ParsesURLs reader) (session : Session) (endpoint : Endpoint) (rpcType : RPCType)
    (input : RelayInput) (base : String) (b : NetURL) (hbase : endpoint.url rpcType = some base)
    (hparse : requestURL reader base = some b) (hscheme : b.scheme ≠ []) (hhost : b.host ≠ [])
    (hfragment : '#' ∉ base.toList) (hpath : input.path ≠ "") (hroot : input.path ≠ "/")
    (hin : '#' ∉ input.path.toList) (hescapes : validEscapes (inboundPath input.path) = true) :
    ((requestURL reader (buildTargetURL base input.path)).isSome = true ↔
        ∀ c ∈ input.path.toList, isControl c = false) ∧
      ∀ relay, buildRelayRequest session endpoint rpcType input = .ok relay →
        Shannon.serializeHTTPRequest (innerRequest (buildTargetURL base input.path) input) =
            .ok relay.payload ∧
          ∃ u, requestURL reader (buildTargetURL base input.path) = some u ∧
            u.scheme = b.scheme ∧ u.user = b.user ∧ u.host = b.host ∧ u.opaquePart = b.opaquePart ∧
            u.fragment = b.fragment ∧
            (RouteKept base b input.path u ↔
              '?' ∉ base.toList ∨ inboundPath input.path = trailingSlashes b.path) := by
  obtain ⟨parts, hparts⟩ : ∃ parts : AbsoluteURL, parts.text = base.toList := by
    obtain ⟨u, hu, hub⟩ := Option.map_eq_some_iff.mp hparse
    subst hub
    refine exists_absoluteURL hu hscheme ?_ hfragment
    intro hempty
    simp [hempty] at hhost
  have htext : String.ofList parts.text = base := by rw [hparts, String.ofList_toList]
  rw [← hparts] at hfragment
  rw [← htext] at hparse
  have hparses := parses_of_requestURL hfragment hparse hhost
  have hjoined := requestURL_buildTargetURL hparses hfragment hpath hroot hin hescapes
  rw [htext] at hjoined
  rw [hjoined]
  refine ⟨?_, fun relay hrelay ↦ ?_⟩
  · split
    · next hany => simpa using hany
    · next hany => simpa using hany
  · obtain ⟨haccepted, hserialized⟩ := buildRelayRequest_ok hbase hrelay
    refine ⟨hserialized, ?_⟩
    have hsome := hnew _ _ haccepted
    rw [hjoined] at hsome
    split at hsome
    · cases hsome
    · next hany =>
      rw [if_neg hany]
      refine ⟨_, rfl, rfl, rfl, rfl, rfl, rfl, ?_⟩
      rw [← htext, String.toList_ofList]
      exact routeKept_join_iff hparses.path rfl rfl

/-- An authority without userinfo. -/
def plainReader : AuthorityReader := ⟨fun _ authority ↦ some (none, authority), by simp⟩

/-- An instance on which `http.NewRequest` parses, and a payload is the text of a URL. -/
@[reducible]
def Shannon.parsing : Shannon :=
  { Shannon.plain with
    newRequest := fun _ url ↦
      if (requestURL plainReader url).isSome then none else some (.text "parse")
    serializeHTTPRequest := fun req ↦ .ok (req.url.toList.map fun c ↦ UInt8.ofNat c.toNat) }

/-- What is signed for a base and an inbound path. -/
def relayFor [Shannon] (base path : String) : Except Err RelayRequest :=
  buildRelayRequest ⟨"session", "eth", "pokt1app", 10, [], some ⟨"pokt1app", "eth", "session", 10⟩⟩
    ⟨"pokt1a", fun _ ↦ some base⟩ .rest ⟨"GET", path, [], []⟩

/-- A base URL with a path, asked for a path below it. -/
theorem buildRelayRequest_routeKept_below :
    let _ : Shannon := Shannon.parsing
    ∃ relay b u, relayFor "HTTPS://h:443/p/" "v1?x=1" = .ok relay ∧
      requestURL plainReader "HTTPS://h:443/p/" = some b ∧
      requestURL plainReader "HTTPS://h:443/p/v1?x=1" = some u ∧
      u.scheme = "https".toList ∧ u.host = "h:443".toList ∧
      RouteKept "HTTPS://h:443/p/" b "v1?x=1" u := by
  let _ : Shannon := Shannon.parsing
  have hnew : ParsesURLs plainReader := by
    intro method url hnone
    by_contra hnot
    have herror : Shannon.newRequest method url = some (.text "parse") := if_neg hnot
    rw [herror] at hnone
    cases hnone
  obtain ⟨-, hsigned⟩ := buildRelayRequest_routeKept_iff plainReader hnew
    ⟨"session", "eth", "pokt1app", 10, [], some ⟨"pokt1app", "eth", "session", 10⟩⟩
    ⟨"pokt1a", fun _ ↦ some "HTTPS://h:443/p/"⟩ .rest ⟨"GET", "v1?x=1", [], []⟩ "HTTPS://h:443/p/"
    { scheme := "https".toList, host := "h:443".toList, path := "/p/".toList } rfl
    (by decide +kernel) (by decide +kernel) (by decide +kernel) (by decide +kernel)
    (by decide +kernel) (by decide +kernel) (by decide +kernel) (by decide +kernel)
  obtain ⟨-, u, hu, hscheme, -, hhost, -, -, hroute⟩ := hsigned _ rfl
  refine ⟨_, _, u, rfl, by decide +kernel, ?_, hscheme, hhost, hroute.mpr (.inl (by decide +kernel))⟩
  rw [← hu]
  decide +kernel

/-- After a base's query the inbound path is not a path. -/
theorem inbound_path_in_query :
    let _ : Shannon := Shannon.parsing
    ∃ relay b u, relayFor "https://h/p?k=1" "/v1" = .ok relay ∧
      relay.payload = "https://h/p?k=1/v1".toList.map (fun c ↦ UInt8.ofNat c.toNat) ∧
      requestURL plainReader "https://h/p?k=1" = some b ∧
      requestURL plainReader "https://h/p?k=1/v1" = some u ∧
      u.path = "/p".toList ∧ u.rawQuery = "k=1/v1".toList ∧
      ¬ RouteKept "https://h/p?k=1" b "/v1" u := by
  let _ : Shannon := Shannon.parsing
  refine ⟨_,
    { scheme := "https".toList, host := "h".toList, path := "/p".toList, rawQuery := "k=1".toList },
    { scheme := "https".toList, host := "h".toList, path := "/p".toList
      rawQuery := "k=1/v1".toList }, rfl, by decide +kernel, by decide +kernel, by decide +kernel,
    rfl, rfl, ?_⟩
  intro hkept
  have hpath := hkept.path
  revert hpath
  decide +kernel

end PocketAp.Pocket
