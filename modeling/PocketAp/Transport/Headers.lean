import PocketAp.Base.HeaderMap
import PocketAp.Transport.Status

/-!
# The header map of a response

`src/transport/http.go:186–198, 231–241` and `src/transport/cors.go:53–71`. The response
writer's header map is followed call by call up to what `WriteHeader` finds: the backend's
headers go in with `Add`, which makes their names canonical, and those of CORS with `Set`, which
drops what is there. What `net/http` adds on its own or leaves out is not part of it.
-/

namespace PocketAp.Transport

open PocketAp.Base PocketAp.Domain PocketAp.Relay PocketAp.Pocket PocketAp.Websockets

/-- What a call does to the header map of the response writer. -/
def applyHeader (header : Header) : ClientEvent → Header
  | .headerAdd name value => addHeader header name value
  | .headerSet name value => setHeader header name value
  | _ => header

/-- The header map after these calls. -/
def headerAfter (es : List ClientEvent) : Header := es.foldl applyHeader []

/-- The header map as `WriteHeader` finds it, if that is called. -/
def sentHeader? (es : List ClientEvent) : Option Header :=
  match es.dropWhile ClientEvent.isHeader with
  | .writeHeader _ :: _ => some (headerAfter (es.takeWhile ClientEvent.isHeader))
  | _ => none

section Maps

private theorem sentHeader?_written {hs : List ClientEvent} (h : ∀ e ∈ hs, e.isHeader = true)
    (code : Int) (rest : List ClientEvent) :
    sentHeader? (hs ++ .writeHeader code :: rest) = some (headerAfter hs) := by
  have hdrop : (hs ++ .writeHeader code :: rest).dropWhile ClientEvent.isHeader =
      .writeHeader code :: rest := by
    rw [List.dropWhile_append_of_pos h]
    rfl
  have htake : (hs ++ .writeHeader code :: rest).takeWhile ClientEvent.isHeader = hs := by
    rw [List.takeWhile_append_of_pos h]
    simp [ClientEvent.isHeader]
  rw [sentHeader?, hdrop, htake]

private theorem sentHeader?_headers {hs : List ClientEvent} (h : ∀ e ∈ hs, e.isHeader = true) :
    sentHeader? hs = none := by
  have hdrop : (hs ++ []).dropWhile ClientEvent.isHeader = [] := by
    rw [List.dropWhile_append_of_pos h]
    rfl
  rw [List.append_nil] at hdrop
  rw [sentHeader?, hdrop]

/-- Adding a map of headers call by call. -/
private theorem foldl_addHeaders (added header : Header) :
    (addHeaders added).foldl applyHeader header =
      added.foldl (fun h kv ↦ kv.2.foldl (fun h v ↦ addHeader h kv.1 v) h) header := by
  rw [addHeaders, List.foldl_flatMap]
  congr 1
  funext h kv
  rw [List.foldl_map]
  rfl

private theorem headerValues_addHeaders (added : Header) (key : String) :
    headerValues (headerAfter (addHeaders added)) key = canonicalValues added key := by
  rw [headerAfter, foldl_addHeaders, headerValues_foldl_addHeader]
  rfl

/-- Outside a preflight CORS sets two headers. -/
theorem writeCORSHeaders_of_not_preflight {req : Request} (h : isCORSPreflight req = false)
    (origin : String) :
    writeCORSHeaders req origin =
      [.headerSet "Access-Control-Allow-Origin" origin, .headerSet "Vary" "Origin"] := by
  simp [writeCORSHeaders, h]

private theorem canonical_cors :
    canonicalHeaderKey "Access-Control-Allow-Origin" = "Access-Control-Allow-Origin" ∧
      canonicalHeaderKey "Vary" = "Vary" := by
  decide +kernel

private theorem headerValues_cors (added : Header) (origin key : String) :
    headerValues (headerAfter (addHeaders added ++
        [.headerSet "Access-Control-Allow-Origin" origin, .headerSet "Vary" "Origin"])) key =
      if key = "Vary" then ["Origin"]
      else if key = "Access-Control-Allow-Origin" then [origin]
      else canonicalValues added key := by
  rw [headerAfter, List.foldl_append]
  simp only [List.foldl_cons, List.foldl_nil, applyHeader]
  rw [headerValues_setHeader, headerValues_setHeader, canonical_cors.1, canonical_cors.2]
  change (if key = "Vary" then ["Origin"] else if key = "Access-Control-Allow-Origin" then [origin]
    else headerValues (headerAfter (addHeaders added)) key) = _
  rw [headerValues_addHeaders]

end Maps

namespace HTTP

variable {σ : Type} [GoLib] (h : HTTP σ)

/-- The backend's headers that go out as headers. `src/transport/http.go:186–190, 231–238`. -/
def passedOn (result : RelayResult) : Header :=
  if h.stream ∧ h.rpcType = .grpc then (splitGRPCTrailers result.header).1 else result.header

/-- Headers are added first, and CORS is set over them. -/
theorem headers_eq (req : Inbound) (result : RelayResult) :
    h.headers req result = addHeaders (h.passedOn result) ++
      if origin req ≠ "" then writeCORSHeaders req.request (origin req) else [] := by
  unfold headers passedOn StreamHandler.headers StreamHandler.split streamHandler
  cases h.stream with
  | true => by_cases hg : h.rpcType = .grpc <;> simp [hg]
  | false => simp

/-- Only a request that was let in gets a response of a supplier. -/
theorem admits_of_signed {order : String → RangeOrder} {req : Inbound} {s : σ}
    {result : RelayResult}
    (hs : signed? (coreCalls ((h.handle order req).events s)) = some result) : h.Admits req := by
  by_contra hreq
  obtain ⟨es, hes⟩ := h.handle_of_not_admits order hreq s
  unfold Exec.events at hs
  rw [hes, coreCalls_answer, signed?_client] at hs
  cases hs

/-- The header map a response goes out with, key by key. -/
theorem headerValues_headers {req : Inbound} (hreq : h.Admits req) (result : RelayResult)
    (key : String) :
    headerValues (headerAfter (h.headers req result)) key =
      if origin req = "" then canonicalValues (h.passedOn result) key
      else if key = "Vary" then ["Origin"]
      else if key = "Access-Control-Allow-Origin" then [origin req]
      else canonicalValues (h.passedOn result) key := by
  rw [headers_eq]
  by_cases ho : origin req = ""
  · simp only [ho, ne_eq, not_true_eq_false, if_false, List.append_nil, if_true]
    exact headerValues_addHeaders _ key
  · simp only [ho, ne_eq, not_false_eq_true, if_true, if_false]
    rw [writeCORSHeaders_of_not_preflight hreq.request, headerValues_cors]

end HTTP

/-- CORS touched only CORS: one `Access-Control-Allow-Origin`, `Origin` in `Vary` along with all
the backend has there, and every other name as the backend has it. -/
structure CORSFrame (backend : Header) (origin : String) (sent : Header) : Prop where
  allowOrigin : headerValues sent "Access-Control-Allow-Origin" = [origin]
  vary : "Origin" ∈ headerValues sent "Vary"
  keepsVary : ∀ v ∈ canonicalValues backend "Vary", v ∈ headerValues sent "Vary"
  others : ∀ name, name ≠ "Access-Control-Allow-Origin" → name ≠ "Vary" →
    headerValues sent name = canonicalValues backend name

/-- What the headers sent should be, by the origin of the request. -/
def HeadersPassed (backend : Header) (origin : String) (sent : Header) : Prop :=
  if origin = "" then ∀ name, headerValues sent name = canonicalValues backend name
  else CORSFrame backend origin sent

/-- The response `result` was sent under the header map `sent`. -/
def Sent (es : List (Event ClientEvent)) (result : RelayResult) (sent : Header) : Prop :=
  signed? es = some result ∧ sentHeader? (clientCalls es) = some sent

namespace HTTP

variable {σ : Type} [GoLib] {h : HTTP σ} {order : String → RangeOrder} {req : Inbound} {s : σ}
  {result : RelayResult} {sent : Header}

/-- The calls of a handler that sent a response. -/
theorem calls_of_sent (hs : Sent (coreCalls ((h.handle order req).events s)) result sent) :
    ∃ err rest, clientCalls (coreCalls ((h.handle order req).events s)) =
        h.headers req result ++
          .writeHeader (StreamHandler.status result) :: .write result.body err :: rest ∧
      ((h.handle order req).outcome s = .ok () →
        rest.filter ClientEvent.isHead = h.trailers req result) := by
  obtain ⟨hsigned, hsent⟩ := hs
  cases h.handle_served order req s with
  | unsigned unsigned returned closes =>
    rw [unsigned] at hsigned
    cases hsigned
  | unwritable result' signed status calls panicked =>
    rw [calls, sentHeader?_headers (h.headers_isHeader req result')] at hsent
    cases hsent
  | written result' err rest signed status closes calls ended after =>
    rw [signed, Option.some.injEq] at hsigned
    subst hsigned
    refine ⟨err, rest, calls, fun hdone ↦ ?_⟩
    rcases ended with ⟨-, hrest⟩ | ⟨hout, -⟩
    · exact hrest
    · rw [hdone] at hout
      cases hout

/-- The header map of a response is the one its head was written with. -/
theorem header_of_sent (hs : Sent (coreCalls ((h.handle order req).events s)) result sent) :
    sent = headerAfter (h.headers req result) := by
  obtain ⟨err, rest, hcalls, -⟩ := calls_of_sent hs
  have hsent := hs.2
  rw [hcalls, sentHeader?_written (h.headers_isHeader req result), Option.some.injEq] at hsent
  exact hsent.symm

end HTTP

private theorem headersPassed_iff {backend sent : Header} {origin : String}
    (hsent : ∀ key, headerValues sent key =
      if origin = "" then canonicalValues backend key
      else if key = "Vary" then ["Origin"]
      else if key = "Access-Control-Allow-Origin" then [origin]
      else canonicalValues backend key) :
    HeadersPassed backend origin sent ↔
      (origin ≠ "" → ∀ v ∈ canonicalValues backend "Vary", v = "Origin") := by
  unfold HeadersPassed
  by_cases ho : origin = ""
  · simp only [ho, if_true, ne_eq, not_true_eq_false, false_implies, iff_true]
    intro name
    rw [hsent, if_pos ho]
  · simp only [ho, if_false, ne_eq, not_false_eq_true, true_implies] at hsent ⊢
    have hvary : headerValues sent "Vary" = ["Origin"] := by rw [hsent, if_pos rfl]
    constructor
    · intro hframe v hv
      have := hframe.keepsVary v hv
      rwa [hvary, List.mem_singleton] at this
    · intro hall
      refine ⟨?_, ?_, ?_, ?_⟩
      · rw [hsent, if_neg (by decide), if_pos rfl]
      · rw [hvary]
        exact List.mem_singleton_self _
      · intro v hv
        rw [hvary, hall v hv]
        exact List.mem_singleton_self _
      · intro name hname hne
        rw [hsent, if_neg hne, if_neg hname]

/-- On a listener that is no gRPC one, the headers sent are the backend's up to CORS exactly
when a browser is not answered with a `Vary` of the backend's own. -/
theorem handle_headersPassed_iff {σ : Type} [GoLib] (h : HTTP σ) (hrpc : h.rpcType ≠ .grpc)
    (order : String → RangeOrder) (req : Inbound) (s : σ) :
    (∀ result sent, Sent (HTTP.coreCalls ((h.handle order req).events s)) result sent →
        HeadersPassed result.header (HTTP.origin req) sent) ↔
      ∀ result sent, Sent (HTTP.coreCalls ((h.handle order req).events s)) result sent →
        HTTP.origin req ≠ "" → ∀ v ∈ canonicalValues result.header "Vary", v = "Origin" := by
  have hpassed (result : RelayResult) : h.passedOn result = result.header := by
    simp [HTTP.passedOn, hrpc]
  refine forall_congr' fun result ↦ forall_congr' fun sent ↦ forall_congr' fun hs ↦ ?_
  apply headersPassed_iff
  intro key
  rw [HTTP.header_of_sent hs, h.headerValues_headers (h.admits_of_signed hs.1), hpassed]

/-- A request of a browser. -/
def browserRequest : Inbound where
  request := ⟨"POST", [("Origin", ["https://app.example"])]⟩
  host := "localhost:8545"
  url := { escapedPath := "/" }
  body := ⟨[1], none⟩

/-- A backend whose `Vary` is what CORS sets. -/
theorem handle_headersPassed_cacheable :
    let _ : GoLib := GoLib.plain
    let h (stream : Bool) := signing stream .rest 200
      [("content-type", some ["text/plain"]), ("x-a", some ["1", "2"]), ("vary", some ["Origin"])]
    let calls (stream : Bool) :=
      HTTP.coreCalls (((h stream).handle (fun _ ↦ .listed) browserRequest).events ())
    ∀ stream, ∃ result sent, Sent (calls stream) result sent ∧
      HeadersPassed result.header "https://app.example" sent := by
  intro _ h calls stream
  have hsent : Sent (calls stream)
      ⟨200, [("content-type", ["text/plain"]), ("x-a", ["1", "2"]), ("vary", ["Origin"])], [7]⟩
      [("Content-Type", ["text/plain"]), ("X-A", ["1", "2"]), ("Vary", ["Origin"]),
        ("Access-Control-Allow-Origin", ["https://app.example"])] := by
    cases stream <;> exact ⟨by decide +kernel, by decide +kernel⟩
  refine ⟨_, _, hsent, (handle_headersPassed_iff (h stream) (by cases stream <;> decide) _
    browserRequest ()).mpr ?_ _ _ hsent⟩
  intro result sent hs _
  have hresult := hs.1.symm.trans hsent.1
  cases hresult
  decide +kernel

/-- A backend's `Vary: Accept-Encoding` does not reach a browser, either way. -/
theorem accept_encoding_clobbered :
    let _ : GoLib := GoLib.plain
    let calls (stream : Bool) := HTTP.coreCalls (((signing stream .rest 200
      [("Vary", some ["Accept-Encoding"])]).handle (fun _ ↦ .listed) browserRequest).events ())
    ∀ stream, ∃ result sent, Sent (calls stream) result sent ∧
      canonicalValues result.header "Vary" = ["Accept-Encoding"] ∧
      headerValues sent "Vary" = ["Origin"] ∧
      ¬ HeadersPassed result.header "https://app.example" sent := by
  intro _ calls stream
  have hsent : Sent (calls stream) ⟨200, [("Vary", ["Accept-Encoding"])], [7]⟩
      [("Vary", ["Origin"]), ("Access-Control-Allow-Origin", ["https://app.example"])] := by
    cases stream <;> exact ⟨by decide +kernel, by decide +kernel⟩
  refine ⟨_, _, hsent, by decide +kernel, by decide +kernel, ?_⟩
  intro hpassed
  unfold HeadersPassed at hpassed
  rw [if_neg (by decide)] at hpassed
  have hlost := hpassed.keepsVary "Accept-Encoding" (by decide +kernel)
  revert hlost
  decide +kernel

end PocketAp.Transport
