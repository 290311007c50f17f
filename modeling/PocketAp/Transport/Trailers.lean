import PocketAp.Transport.Framing

/-!
# Trailers of gRPC

`src/transport/grpc.go` and `src/transport/http.go:229–276`. The values a relay miner folded
into the headers leave as trailers: under `http.TrailerPrefix`, with `Set` for each of them. So
of two values of one trailer the last is left, and all of them are lost where `net/http` sends
no trailers.
-/

namespace PocketAp.Transport

open PocketAp.Base PocketAp.Domain PocketAp.Relay

section Unfolding

variable [GoLib]

/-- Nothing is lost, the trailers are what is named like one, and no header is. -/
structure Unfolded (backend : Header) (r : Response) : Prop where
  conserved : ∀ name, (r.headersUnder name ++ r.trailersUnder name).Perm
    (canonicalValues backend name)
  trailers : ∀ name, (r.trailersUnder name).Perm
    (canonicalValues (backend.filter (fun kv ↦ isGRPCTrailerHeader kv.1)) name)
  headers : ∀ name, isGRPCTrailerHeader name = true → r.headersUnder name = []

/-- No trailer has two values: over HTTP/1.1 under one spelling of its name, over HTTP/2 under
any. -/
def SingleTrailers (proto : Proto) (backend : Header) : Prop :=
  match proto with
  | .http1 => ∀ name, (spelledValues (splitGRPCTrailers backend).2 name).length ≤ 1
  | .http2 => ∀ name, (canonicalValues (splitGRPCTrailers backend).2 name).length ≤ 1

/-- What a response must be like to be un-folded without a loss. -/
structure Unfoldable (backend : Header) (origin : String) (r : Response) : Prop where
  single : SingleTrailers r.proto backend
  unprefixed : ∀ kv ∈ (splitGRPCTrailers backend).1, kv.2 ≠ [] →
    hasPrefix kv.1 "Trailer:" = false
  cors : origin = "" ∨
    (canonicalValues (splitGRPCTrailers backend).1 "Access-Control-Allow-Origin" = [origin] ∧
      canonicalValues (splitGRPCTrailers backend).1 "Vary" = ["Origin"])
  framed : headerPairs (splitGRPCTrailers backend).2 ≠ [] → r.sendsTrailers = true
  undeclared : r.sendsTrailers = true → ∀ name ∈ declaredTrailers r.atHead,
    canonicalValues (splitGRPCTrailers backend).1 name = []

private theorem canonicalValues_split_perm (backend : Header) (name : String) :
    (canonicalValues (splitGRPCTrailers backend).1 name ++
      canonicalValues (splitGRPCTrailers backend).2 name).Perm (canonicalValues backend name) :=
  valuesBy_filter_perm canonicalHeaderKey (fun kv ↦ isGRPCTrailerHeader kv.1) backend name

omit [GoLib] in
private theorem prefixed_canonical_iff (name : String) :
    hasPrefix (canonicalHeaderKey name) "Trailer:" = hasPrefix name "Trailer:" := by
  rw [Bool.eq_iff_iff, hasPrefix_iff, hasPrefix_iff]
  exact prefix_canonicalHeaderKey_iff ⟨':', by decide, by decide⟩ name

omit [GoLib] in
private theorem cutPrefix_eq_none {name : String} (h : hasPrefix name "Trailer:" = false) :
    cutPrefix name "Trailer:" = none := by
  rw [cutPrefix_eq_none_iff, ← hasPrefix_iff, h]
  exact Bool.false_ne_true

omit [GoLib] in
private theorem canonical_trailerKey (name : String) :
    canonicalHeaderKey (trailerKey name) = "Trailer:" ++ name := by
  unfold canonicalHeaderKey
  rw [if_neg]
  · rfl
  · intro hall
    have := List.all_eq_true.mp hall ':' (by simp [trailerKey])
    revert this
    decide

/-! ### The header map at the end -/

omit [GoLib] in
/-- Trailers are set one value after another. -/
private theorem writeGRPCTrailers_eq (trailers : Header) :
    writeGRPCTrailers trailers =
      (headerPairs trailers).map (fun p ↦ .headerSet (trailerKey p.1) p.2) := by
  rw [writeGRPCTrailers, headerPairs, List.map_flatMap]
  congr 1
  funext kv
  rw [List.map_map]
  rfl

omit [GoLib] in
private theorem cutKeys_trailers (ps : List (String × String)) (header : Header) :
    cutKeys "Trailer:" ((ps.map (fun p ↦ ClientEvent.headerSet (trailerKey p.1) p.2)).foldl
        applyHeader header) =
      ps.foldl (fun header p ↦ assignHeader header p.1 [p.2]) (cutKeys "Trailer:" header) := by
  induction ps generalizing header with
  | nil => rfl
  | cons p ps ih =>
    rw [List.map_cons, List.foldl_cons, ih, List.foldl_cons]
    congr 1
    change cutKeys "Trailer:" (setHeader header (trailerKey p.1) p.2) = _
    rw [setHeader_eq_assignHeader, canonical_trailerKey, cutKeys_assignHeader]

omit [GoLib] in
/-- Other keys keep their values. -/
private theorem headerValues_trailers (ps : List (String × String)) (header : Header) {key : String}
    (hkey : hasPrefix key "Trailer:" = false) :
    headerValues ((ps.map (fun p ↦ ClientEvent.headerSet (trailerKey p.1) p.2)).foldl
        applyHeader header) key = headerValues header key := by
  induction ps generalizing header with
  | nil => rfl
  | cons p ps ih =>
    rw [List.map_cons, List.foldl_cons, ih]
    change headerValues (setHeader header (trailerKey p.1) p.2) key = _
    rw [headerValues_setHeader, canonical_trailerKey, if_neg]
    rintro rfl
    rw [Bool.eq_false_iff, ne_eq, hasPrefix_iff] at hkey
    exact hkey ⟨p.1.toList, by rw [String.toList_append]⟩

omit [GoLib] in
/-- Calls other than those on headers leave the map alone. -/
private theorem foldl_isHead (es : List ClientEvent) (header : Header) :
    es.foldl applyHeader header = (es.filter ClientEvent.isHead).foldl applyHeader header := by
  induction es generalizing header with
  | nil => rfl
  | cons e es ih =>
    rw [List.foldl_cons, ih]
    cases e with
    | write body err => rfl
    | flush => rfl
    | error text code => rfl
    | _ => rfl

omit [GoLib] in
/-- No backend header has the prefix, so none shows as a trailer. -/
private theorem cutKeys_addHeaders {added : Header}
    (h : ∀ kv ∈ added, kv.2 ≠ [] → hasPrefix kv.1 "Trailer:" = false) (header : Header) :
    cutKeys "Trailer:" ((addHeaders added).foldl applyHeader header) =
      cutKeys "Trailer:" header := by
  have hcalls : ∀ e ∈ addHeaders added, ∃ name value, e = .headerAdd name value ∧
      hasPrefix name "Trailer:" = false := by
    intro e he
    simp only [addHeaders, List.mem_flatMap, List.mem_map] at he
    obtain ⟨kv, hkv, v, hv, rfl⟩ := he
    exact ⟨kv.1, v, rfl, h kv hkv (List.ne_nil_of_mem hv)⟩
  generalize addHeaders added = es at hcalls
  induction es generalizing header with
  | nil => rfl
  | cons e es ih =>
    rw [List.forall_mem_cons] at hcalls
    obtain ⟨⟨name, value, rfl, hname⟩, hes⟩ := hcalls
    rw [List.foldl_cons, ih _ hes]
    apply cutKeys_addHeader_other
    apply cutPrefix_eq_none
    rw [prefixed_canonical_iff, hname]

/-! ### Un-folding without a loss -/

omit [GoLib] in
private theorem canonicalValues_eq_nil {header : Header} {name : String}
    (h : ∀ kv ∈ header, canonicalHeaderKey kv.1 = name → kv.2 = []) :
    canonicalValues header name = [] := by
  rw [canonicalValues, valuesBy, List.flatMap_eq_nil_iff]
  intro kv hkv
  split
  · next hname => exact h kv hkv hname
  · rfl

private theorem isGRPCTrailerHeader_canonical
    (hlower : ∀ c : Char, c.toNat < 128 → GoLib.toLowerRune c = asciiLower c) (name : String) :
    isGRPCTrailerHeader (canonicalHeaderKey name) = isGRPCTrailerHeader name := by
  unfold isGRPCTrailerHeader
  rw [toLower_canonicalHeaderKey hlower]

/-- Headers proper are not named like trailers. -/
private theorem not_trailer_of_header
    (hlower : ∀ c : Char, c.toNat < 128 → GoLib.toLowerRune c = asciiLower c) {backend : Header}
    {name : String} (h : isGRPCTrailerHeader name = true) :
    canonicalValues (splitGRPCTrailers backend).1 name = [] := by
  refine canonicalValues_eq_nil fun kv hkv hname ↦ ?_
  have hnot : isGRPCTrailerHeader kv.1 = false := by simpa using (List.mem_filter.mp hkv).2
  rw [← isGRPCTrailerHeader_canonical hlower, hname, h] at hnot
  cases hnot

/-- Trailers are. -/
private theorem trailer_of_pair
    (hlower : ∀ c : Char, c.toNat < 128 → GoLib.toLowerRune c = asciiLower c) {backend : Header}
    {name : String} (h : name ∈ (headerPairs (splitGRPCTrailers backend).2).map Prod.fst) :
    isGRPCTrailerHeader (canonicalHeaderKey name) = true := by
  obtain ⟨p, hp, rfl⟩ := List.mem_map.mp h
  obtain ⟨kv, hkv, hv⟩ := List.mem_flatMap.mp hp
  obtain ⟨v, -, rfl⟩ := List.mem_map.mp hv
  rw [isGRPCTrailerHeader_canonical hlower]
  exact (List.mem_filter.mp hkv).2

/-- The header maps of a response in question: its head is written from the headers proper, only
prefixed keys change after that, and when the headers proper leave the prefix alone, the prefixed
keys at the end are the trailers'. -/
private structure Maps (backend : Header) (origin : String) (r : Response) : Prop where
  head : ∀ key, headerValues r.atHead key =
    if origin = "" then canonicalValues (splitGRPCTrailers backend).1 key
    else if key = "Vary" then ["Origin"]
    else if key = "Access-Control-Allow-Origin" then [origin]
    else canonicalValues (splitGRPCTrailers backend).1 key
  kept : ∀ key, hasPrefix key "Trailer:" = false →
    headerValues r.atEnd key = headerValues r.atHead key
  cut : (∀ kv ∈ (splitGRPCTrailers backend).1, kv.2 ≠ [] → hasPrefix kv.1 "Trailer:" = false) →
    cutKeys "Trailer:" r.atEnd = assignEach (headerPairs (splitGRPCTrailers backend).2)

variable {backend : Header} {origin : String} {r : Response}

/-- A declared name has at the end what it was sent with as a header. -/
private theorem Maps.declared (hmaps : Maps backend origin r) {name : String}
    (h : name ∈ declaredTrailers r.atHead) : headerValues r.atEnd name = r.headersUnder name := by
  have hstarts := hasPrefix_of_declared h
  rw [hmaps.kept name hstarts, Response.headersUnder,
    if_neg (by rw [hstarts]; exact Bool.false_ne_true)]

private theorem Unfolded.headers_perm (h : Unfolded backend r) (name : String) :
    (r.headersUnder name).Perm (canonicalValues (splitGRPCTrailers backend).1 name) := by
  have hall := (h.conserved name).trans (canonicalValues_split_perm backend name).symm
  have hright := ((h.trailers name).append_left (r.headersUnder name)).symm.trans hall
  exact (List.perm_append_right_iff _).mp hright

private theorem Unfolded.unprefixed (h : Unfolded backend r) :
    ∀ kv ∈ (splitGRPCTrailers backend).1, kv.2 ≠ [] → hasPrefix kv.1 "Trailer:" = false := by
  intro kv hkv hne
  by_contra hstarts
  rw [Bool.not_eq_false, ← prefixed_canonical_iff] at hstarts
  have hperm := h.headers_perm (canonicalHeaderKey kv.1)
  rw [Response.headersUnder, if_pos hstarts, List.nil_perm] at hperm
  obtain ⟨v, hv⟩ := List.exists_mem_of_ne_nil kv.2 hne
  have hmem := mem_valuesBy (f := canonicalHeaderKey) hkv hv rfl
  change v ∈ canonicalValues _ _ at hmem
  rw [hperm] at hmem
  cases hmem

private theorem Unfolded.framed (h : Unfolded backend r)
    (hne : headerPairs (splitGRPCTrailers backend).2 ≠ []) : r.sendsTrailers = true := by
  by_contra hs
  rw [Bool.not_eq_true] at hs
  obtain ⟨p, hp⟩ := List.exists_mem_of_ne_nil _ hne
  obtain ⟨kv, hkv, hpv⟩ := List.mem_flatMap.mp hp
  obtain ⟨v, hv, -⟩ := List.mem_map.mp hpv
  have hperm := h.trailers (canonicalHeaderKey kv.1)
  rw [Response.trailersUnder_of_not_sends hs, List.nil_perm] at hperm
  have hmem := mem_valuesBy (f := canonicalHeaderKey) hkv hv rfl
  change v ∈ canonicalValues (splitGRPCTrailers backend).2 _ at hmem
  rw [splitGRPCTrailers, hperm] at hmem
  cases hmem

/-- A declared name with values would be sent twice, once as a trailer that is none. -/
private theorem Unfolded.undeclared
    (hlower : ∀ c : Char, c.toNat < 128 → GoLib.toLowerRune c = asciiLower c)
    (h : Unfolded backend r) (hmaps : Maps backend origin r) (hs : r.sendsTrailers = true)
    {name : String} (hname : name ∈ declaredTrailers r.atHead) :
    canonicalValues (splitGRPCTrailers backend).1 name = [] := by
  by_cases htrailer : isGRPCTrailerHeader name = true
  · exact not_trailer_of_header hlower htrailer
  -- The name is no trailer's, so nothing may be sent as a trailer under it.
  have hnot (key : String)
      (hkey : key ∈ (headerPairs (splitGRPCTrailers backend).2).map Prod.fst) :
      canonicalHeaderKey key ≠ name := by
    rintro rfl
    exact htrailer (trailer_of_pair hlower hkey)
  have hempty : r.trailersUnder name = [] := by
    have hnone : canonicalValues (splitGRPCTrailers backend).2 name = [] := by
      refine canonicalValues_eq_nil fun kv hkv hkey ↦ ?_
      have htrue : isGRPCTrailerHeader kv.1 = true := (List.mem_filter.mp hkv).2
      rw [← isGRPCTrailerHeader_canonical hlower, hkey] at htrue
      exact absurd htrue htrailer
    have hperm := h.trailers name
    rw [← List.perm_nil]
    exact hnone ▸ hperm
  have hcut := hmaps.cut h.unprefixed
  have hvalues : headerValues r.atEnd name = [] := by
    simp only [Response.trailersUnder, hs, if_true, hcut] at hempty
    cases hproto : r.proto with
    | http1 =>
      simp only [hproto, List.append_eq_nil_iff, List.flatMap_eq_nil_iff] at hempty
      exact hempty.2 name (by simpa using hname)
    | http2 =>
      have hany : (assignEach (headerPairs (splitGRPCTrailers backend).2)).any
          (fun kv ↦ canonicalHeaderKey kv.1 = name) = false := by
        rw [List.any_eq_false]
        intro kv hkv
        simpa using hnot kv.1 (mem_of_mem_assignEach hkv)
      simpa [hproto, hany, hname] using hempty
  have hperm := h.headers_perm name
  rw [← hmaps.declared hname, hvalues, List.nil_perm] at hperm
  exact hperm

/-- Declared names are empty at the end if they are in the backend's headers. -/
private theorem Maps.declared_nil (hmaps : Maps backend origin r)
    (hheaders : ∀ name, (r.headersUnder name).Perm
      (canonicalValues (splitGRPCTrailers backend).1 name))
    (h : ∀ name ∈ declaredTrailers r.atHead,
      canonicalValues (splitGRPCTrailers backend).1 name = []) :
    ∀ name ∈ declaredTrailers r.atHead, headerValues r.atEnd name = [] := by
  intro name hname
  have hperm := hheaders name
  rw [h name hname, List.perm_nil] at hperm
  rw [hmaps.declared hname, hperm]

private theorem Unfolded.single
    (hlower : ∀ c : Char, c.toNat < 128 → GoLib.toLowerRune c = asciiLower c)
    (h : Unfolded backend r) (hmaps : Maps backend origin r) : SingleTrailers r.proto backend := by
  by_cases hpairs : headerPairs (splitGRPCTrailers backend).2 = []
  · -- There are no trailers at all.
    have hnone (f : String → String) (name : String) :
        valuesBy f (splitGRPCTrailers backend).2 name = [] := by
      rw [valuesBy_eq_pairs, hpairs]
      rfl
    unfold SingleTrailers
    cases r.proto with
    | http1 => exact fun name ↦ by simp [spelledValues, hnone]
    | http2 => exact fun name ↦ by simp [canonicalValues, hnone]
  have hs := h.framed hpairs
  have hcut := hmaps.cut h.unprefixed
  have hsilent := hmaps.declared_nil h.headers_perm
    (fun name hname ↦ h.undeclared hlower hmaps hs hname)
  have hlen (name : String) := (h.trailers name).length_eq
  simp only [Response.trailersUnder_of_sends hs hsilent, hcut] at hlen
  cases hproto : r.proto with
  | http1 =>
    simp only [hproto] at hlen
    exact (nodup_pairs_iff id _).mp (nodup_of_length_assignEach hlen)
  | http2 =>
    intro name
    simp only [hproto] at hlen
    exact (hlen name) ▸ length_promotedValues_assignEach _ _

private theorem Unfolded.cors (h : Unfolded backend r)
    (hmaps : Maps backend origin r) (ho : origin ≠ "") :
    canonicalValues (splitGRPCTrailers backend).1 "Access-Control-Allow-Origin" = [origin] ∧
      canonicalValues (splitGRPCTrailers backend).1 "Vary" = ["Origin"] := by
  constructor
  · have hperm := h.headers_perm "Access-Control-Allow-Origin"
    rw [Response.headersUnder, if_neg (by decide), hmaps.head, if_neg ho, if_neg (by decide),
      if_pos rfl] at hperm
    exact List.perm_singleton.mp hperm.symm
  · have hperm := h.headers_perm "Vary"
    rw [Response.headersUnder, if_neg (by decide), hmaps.head, if_neg ho, if_pos rfl] at hperm
    exact List.perm_singleton.mp hperm.symm

private theorem Unfoldable.headersUnder (h : Unfoldable backend origin r)
    (hmaps : Maps backend origin r) (name : String) :
    r.headersUnder name = canonicalValues (splitGRPCTrailers backend).1 name := by
  unfold Response.headersUnder
  split
  · next hstarts =>
    refine (canonicalValues_eq_nil fun kv hkv hname ↦ ?_).symm
    by_contra hne
    have := h.unprefixed kv hkv hne
    rw [← prefixed_canonical_iff, hname, hstarts] at this
    cases this
  · rw [hmaps.head]
    rcases h.cors with ho | ⟨hallow, hvary⟩
    · rw [if_pos ho]
    · by_cases ho : origin = ""
      · rw [if_pos ho]
      · rw [if_neg ho]
        split
        · next hname => rw [hname, hvary]
        · split
          · next hname => rw [hname, hallow]
          · rfl

private theorem Unfoldable.trailersUnder (h : Unfoldable backend origin r)
    (hmaps : Maps backend origin r) (name : String) :
    r.trailersUnder name = canonicalValues (splitGRPCTrailers backend).2 name := by
  cases hs : r.sendsTrailers with
  | false =>
    have hpairs : headerPairs (splitGRPCTrailers backend).2 = [] := by
      by_contra hne
      rw [h.framed hne] at hs
      cases hs
    rw [Response.trailersUnder_of_not_sends hs, canonicalValues, valuesBy_eq_pairs, hpairs]
    rfl
  | true =>
    have hcut := hmaps.cut h.unprefixed
    have hsingle := h.single
    have hsilent := hmaps.declared_nil
      (fun name ↦ h.headersUnder hmaps name ▸ List.Perm.refl _) (h.undeclared hs)
    rw [Response.trailersUnder_of_sends hs hsilent, hcut]
    cases hproto : r.proto with
    | http1 =>
      rw [hproto] at hsingle
      exact valuesBy_assignEach_of_nodup ((nodup_pairs_iff id _).mpr hsingle) name
    | http2 =>
      rw [hproto] at hsingle
      have hnodup : ((headerPairs (splitGRPCTrailers backend).2).map Prod.fst).Nodup := by
        apply List.Nodup.of_map canonicalHeaderKey
        rw [List.map_map]
        exact (nodup_pairs_iff canonicalHeaderKey _).mpr hsingle
      have hvalues : canonicalValues (assignEach (headerPairs (splitGRPCTrailers backend).2)) name =
          canonicalValues (splitGRPCTrailers backend).2 name :=
        valuesBy_assignEach_of_nodup hnodup name
      simp only
      rw [promotedValues_assignEach (by rw [hvalues]; exact hsingle name), hvalues]

private theorem unfolded_iff
    (hlower : ∀ c : Char, c.toNat < 128 → GoLib.toLowerRune c = asciiLower c)
    (hmaps : Maps backend origin r) : Unfolded backend r ↔ Unfoldable backend origin r := by
  constructor
  · intro h
    refine ⟨h.single hlower hmaps, h.unprefixed, ?_, h.framed,
      fun hs name hname ↦ h.undeclared hlower hmaps hs hname⟩
    by_cases ho : origin = ""
    · exact .inl ho
    · exact .inr (h.cors hmaps ho)
  · intro h
    constructor
    · intro name
      rw [h.headersUnder hmaps, h.trailersUnder hmaps]
      exact canonicalValues_split_perm backend name
    · intro name
      rw [h.trailersUnder hmaps]
      exact .refl _
    · intro name htrailer
      rw [h.headersUnder hmaps]
      exact not_trailer_of_header hlower htrailer

end Unfolding

section Runs

variable {σ : Type} [GoLib] {h : HTTP σ} {req : Inbound} {result : RelayResult}

private theorem cutKeys_headers (hreq : h.Admits req)
    (hstarts : ∀ kv ∈ h.passedOn result, kv.2 ≠ [] → hasPrefix kv.1 "Trailer:" = false) :
    cutKeys "Trailer:" (headerAfter (h.headers req result)) = [] := by
  have hcors (header : Header) : cutKeys "Trailer:" ((if HTTP.origin req ≠ "" then
      writeCORSHeaders req.request (HTTP.origin req) else []).foldl applyHeader header) =
      cutKeys "Trailer:" header := by
    split
    · rw [writeCORSHeaders_of_not_preflight hreq.request]
      simp only [List.foldl_cons, List.foldl_nil, applyHeader, setHeader_eq_assignHeader]
      rw [cutKeys_assignHeader_other (by decide +kernel),
        cutKeys_assignHeader_other (by decide +kernel)]
    · rfl
  rw [h.headers_eq, headerAfter, List.foldl_append, hcors, cutKeys_addHeaders hstarts]
  rfl

/-- The header map when the handler has returned. -/
private theorem headerAfter_calls (hrpc : h.rpcType = .grpc) (hstream : h.stream = true)
    {order : String → RangeOrder} {s : σ} {atHead : Header}
    (hdone : (h.handle order req).outcome s = .ok ())
    (hs : Sent (HTTP.coreCalls ((h.handle order req).events s)) result atHead) :
    headerAfter (clientCalls (HTTP.coreCalls ((h.handle order req).events s))) =
      ((headerPairs (splitGRPCTrailers result.header).2).map
        (fun p ↦ ClientEvent.headerSet (trailerKey p.1) p.2)).foldl applyHeader
          (headerAfter (h.headers req result)) := by
  have htrailers : h.trailers req result = (headerPairs (splitGRPCTrailers result.header).2).map
      (fun p ↦ .headerSet (trailerKey p.1) p.2) := by
    rw [← writeGRPCTrailers_eq]
    simp [HTTP.trailers, hstream, StreamHandler.split, HTTP.streamHandler, hrpc]
  obtain ⟨err, rest, hcalls, hrest⟩ := HTTP.calls_of_sent hs
  rw [hcalls, headerAfter, List.foldl_append, ← htrailers, ← hrest hdone, ← foldl_isHead]
  rfl

/-- The maps of a response that was served to the end. -/
private theorem maps_of_sent (hrpc : h.rpcType = .grpc) (hstream : h.stream = true) (proto : Proto)
    {order : String → RangeOrder} {s : σ} {atHead : Header}
    (hdone : (h.handle order req).outcome s = .ok ())
    (hs : Sent (HTTP.coreCalls ((h.handle order req).events s)) result atHead) :
    Maps result.header (HTTP.origin req) ⟨proto, req.request.method,
      clientCalls (HTTP.coreCalls ((h.handle order req).events s)), atHead⟩ := by
  have hpassed : h.passedOn result = (splitGRPCTrailers result.header).1 := by
    simp [HTTP.passedOn, hrpc, hstream]
  have hadmits := h.admits_of_signed hs.1
  have hhead := HTTP.header_of_sent hs
  have hend := headerAfter_calls hrpc hstream hdone hs
  constructor
  · intro key
    rw [hhead, h.headerValues_headers hadmits, hpassed]
  · intro key hkey
    unfold Response.atEnd
    rw [hend, headerValues_trailers _ _ hkey, hhead]
  · intro hstarts
    unfold Response.atEnd
    rw [hend, cutKeys_trailers, cutKeys_headers hadmits (by rwa [hpassed])]
    rfl

end Runs

/-- On a gRPC listener a response that was served to the end was un-folded without a loss exactly
when no trailer has two values, no header is named like a prefixed trailer, CORS, if it has a
say, repeats what the backend has, trailers can be sent if there are any, and no header is declared
to be one. -/
theorem handle_unfolded_iff {σ : Type} [GoLib]
    (hlower : ∀ c : Char, c.toNat < 128 → GoLib.toLowerRune c = asciiLower c) (h : HTTP σ)
    (hrpc : h.rpcType = .grpc) (hstream : h.stream = true) (proto : Proto)
    (order : String → RangeOrder) (req : Inbound) (s : σ)
    (hdone : (h.handle order req).outcome s = .ok ()) :
    (∀ result atHead, Sent (HTTP.coreCalls ((h.handle order req).events s)) result atHead →
        Unfolded result.header ⟨proto, req.request.method,
          clientCalls (HTTP.coreCalls ((h.handle order req).events s)), atHead⟩) ↔
      ∀ result atHead, Sent (HTTP.coreCalls ((h.handle order req).events s)) result atHead →
        Unfoldable result.header (HTTP.origin req) ⟨proto, req.request.method,
          clientCalls (HTTP.coreCalls ((h.handle order req).events s)), atHead⟩ := by
  refine forall_congr' fun result ↦ forall_congr' fun atHead ↦ forall_congr' fun hs ↦ ?_
  exact unfolded_iff hlower (maps_of_sent hrpc hstream proto hdone hs)

/-- Trailers with one value each are un-folded over either protocol. -/
theorem handle_unfolded_single :
    let _ : GoLib := GoLib.plain
    let run := (signing true .grpc 200 [("content-type", some ["application/grpc"]),
      ("trailer", some ["grpc-status"]), ("x-a", some ["1", "2"]), ("grpc-status", some ["5"]),
      ("Grpc-Message", some ["gone"])]).handle (fun _ ↦ .listed) plainRequest
    ∀ proto, ∃ result atHead, Sent (HTTP.coreCalls (run.events ())) result atHead ∧
      Unfolded result.header
        ⟨proto, "POST", clientCalls (HTTP.coreCalls (run.events ())), atHead⟩ := by
  intro _ run proto
  have hsent : Sent (HTTP.coreCalls (run.events ()))
      ⟨200, [("content-type", ["application/grpc"]), ("trailer", ["grpc-status"]),
        ("x-a", ["1", "2"]), ("grpc-status", ["5"]), ("Grpc-Message", ["gone"])], [7]⟩
      [("Content-Type", ["application/grpc"]), ("Trailer", ["grpc-status"]), ("X-A", ["1", "2"])] :=
    ⟨by decide +kernel, by decide +kernel⟩
  refine ⟨_, _, hsent, (handle_unfolded_iff (fun _ _ ↦ rfl) _ rfl rfl proto _ plainRequest ()
    rfl).mpr ?_ _ _ hsent⟩
  intro result atHead hs
  cases hs.1.symm.trans hsent.1
  cases hs.2.symm.trans hsent.2
  refine ⟨?_, by decide +kernel, .inl (by decide +kernel), fun _ ↦ ?_, fun _ ↦ ?_⟩
  · cases proto with
    | http1 => exact (nodup_pairs_iff id _).mp (by decide +kernel)
    | http2 => exact (nodup_pairs_iff canonicalHeaderKey _).mp (by decide +kernel)
  · cases proto <;> decide +kernel
  · cases proto <;> decide +kernel

/-- Of two details only the last is sent, over either protocol. Over HTTP/1.1 none is sent with a
body of known length. A header that is declared to be a trailer is sent as both. -/
theorem detail_dropped :
    let _ : GoLib := GoLib.plain
    let run (header : List (String × Option (List String))) :=
      HTTP.coreCalls (((signing true .grpc 200 header).handle (fun _ ↦ .listed) plainRequest).events ())
    let details := run [("grpc-status-details-bin", some ["a", "b"])]
    let measured := run [("content-length", some ["1"]), ("grpc-status", some ["0"])]
    let declared := run [("trailer", some ["x-a"]), ("x-a", some ["1"])]
    (∀ proto, ∃ result atHead, Sent details result atHead ∧
      let r : Response := ⟨proto, "POST", clientCalls details, atHead⟩
      canonicalValues result.header "Grpc-Status-Details-Bin" = ["a", "b"] ∧
      r.headersUnder "Grpc-Status-Details-Bin" = [] ∧
      r.trailersUnder "Grpc-Status-Details-Bin" = ["b"] ∧ ¬ Unfolded result.header r) ∧
    (∃ result atHead, Sent measured result atHead ∧
      let r : Response := ⟨.http1, "POST", clientCalls measured, atHead⟩
      r.headersUnder "Grpc-Status" = [] ∧ r.trailersUnder "Grpc-Status" = [] ∧
      ¬ Unfolded result.header r) ∧
    ∀ proto, ∃ result atHead, Sent declared result atHead ∧
      let r : Response := ⟨proto, "POST", clientCalls declared, atHead⟩
      r.headersUnder "X-A" = ["1"] ∧ r.trailersUnder "X-A" = ["1"] ∧ ¬ Unfolded result.header r := by
  intro _ run details measured declared
  -- Each response has another number of values under one name than the backend's.
  have hnot {backend : Header} {r : Response} (name : String)
      (hne : (r.headersUnder name ++ r.trailersUnder name).length ≠
        (canonicalValues backend name).length) : ¬ Unfolded backend r :=
    fun h ↦ hne (h.conserved name).length_eq
  refine ⟨fun proto ↦ ?_, ?_, fun proto ↦ ?_⟩
  · have hheaders : (⟨proto, "POST", clientCalls details, []⟩ : Response).headersUnder
        "Grpc-Status-Details-Bin" = [] := by
      cases proto <;> decide +kernel
    have htrailers : (⟨proto, "POST", clientCalls details, []⟩ : Response).trailersUnder
        "Grpc-Status-Details-Bin" = ["b"] := by
      cases proto <;> decide +kernel
    refine ⟨⟨200, [("grpc-status-details-bin", ["a", "b"])], [7]⟩, [],
      ⟨by decide +kernel, by decide +kernel⟩, by decide +kernel, hheaders, htrailers, ?_⟩
    apply hnot "Grpc-Status-Details-Bin"
    rw [hheaders, htrailers]
    decide +kernel
  · refine ⟨⟨200, [("content-length", ["1"]), ("grpc-status", ["0"])], [7]⟩,
      [("Content-Length", ["1"])], ⟨by decide +kernel, by decide +kernel⟩, by decide +kernel,
      by decide +kernel, ?_⟩
    apply hnot "Grpc-Status"
    decide +kernel
  · have hheaders : (⟨proto, "POST", clientCalls declared,
        [("Trailer", ["x-a"]), ("X-A", ["1"])]⟩ : Response).headersUnder "X-A" = ["1"] := by
      cases proto <;> decide +kernel
    have htrailers : (⟨proto, "POST", clientCalls declared,
        [("Trailer", ["x-a"]), ("X-A", ["1"])]⟩ : Response).trailersUnder "X-A" = ["1"] := by
      cases proto <;> decide +kernel
    refine ⟨⟨200, [("trailer", ["x-a"]), ("x-a", ["1"])], [7]⟩,
      [("Trailer", ["x-a"]), ("X-A", ["1"])], ⟨by decide +kernel, by decide +kernel⟩, hheaders,
      htrailers, ?_⟩
    apply hnot "X-A"
    rw [hheaders, htrailers]
    decide +kernel

end PocketAp.Transport
