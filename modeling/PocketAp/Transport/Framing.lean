import PocketAp.Base.Text
import PocketAp.Transport.Headers

/-!
# How `net/http` frames a response

A handler sets trailers under `http.TrailerPrefix` when the head is out,
`src/transport/grpc.go:57–63`. `net/http` sends no key with that prefix as a header. When the
handler has returned it sends them as trailers, over HTTP/1.1 as they are spelled and over HTTP/2
under their canonical names. Over HTTP/1.1 only a chunked body has trailers, and none is chunked
whose length is known: because the head gives it, because there is no body, or because the
handler had returned before the head left. Over HTTP/2 only the answer to a `HEAD` request has no
trailers. Names that a `Trailer` header declares are sent as trailers too, with the values they
have as headers.
-/

namespace PocketAp.Transport

open PocketAp.Base PocketAp.Domain PocketAp.Relay

/-- What `net/http` goes by when a handler has returned: the request's method, the handler's
calls, and the header map that `WriteHeader` found. -/
structure Response where
  proto : Proto
  method : String
  calls : List ClientEvent
  atHead : Header

/-- The length a header map gives the body, if `net/http` accepts it. -/
def contentLength? (header : Header) : Option Nat :=
  match atoi (getHeader header "Content-Length") with
  | (n, none) => if 0 ≤ n then some n.toNat else none
  | (_, some _) => none

/-- Names that `net/http` does not send as trailers. -/
def forbiddenTrailers : List String :=
  ["Authorization", "Cache-Control", "Connection", "Content-Encoding", "Content-Length",
    "Content-Range", "Content-Type", "Expect", "Host", "Keep-Alive", "Max-Forwards", "Pragma",
    "Proxy-Authenticate", "Proxy-Authorization", "Proxy-Connection", "Range", "Realm", "Te",
    "Trailer", "Transfer-Encoding", "Www-Authenticate"]

/-- `httpguts.ValidTrailerHeader` for a name that can be sent at all. -/
def validTrailerHeader (name : String) : Bool :=
  name.toList.all validHeaderFieldByte && !hasPrefix name "If-" && !forbiddenTrailers.contains name

/-- The names that a `Trailer` header declares. -/
def declaredTrailers (header : Header) : List String :=
  let elements := (headerValues header "Trailer").flatMap (splitAt ',')
  let names := (elements.map (trimSet [' ', '\t', '\n', '\r'])).filter (· ≠ "")
  (names.map canonicalHeaderKey).filter validTrailerHeader

namespace Response

variable (r : Response)

/-- The header map when the handler has returned. -/
def atEnd : Header := headerAfter r.calls

/-- The status of the response. -/
def code : Int := (finalStatus r.calls).getD 200

/-- `net/http` counts the body itself: the handler has returned before the head left, and the head
says nothing about the body. -/
def counted : Bool :=
  !decide (HeadSent r.proto r.calls) && (headerValues r.atHead "Trailer").isEmpty &&
    !r.atHead.any (fun kv ↦ hasPrefix kv.1 "Trailer:") &&
    (headerValues r.atHead "Content-Length").head? != some ""

/-- Over HTTP/1.1 the body is sent in chunks. -/
def chunked : Bool :=
  let encoding := getHeader r.atHead "Transfer-Encoding"
  r.method != "HEAD" && allowsBody r.code && encoding != "identity" &&
    (encoding != "" || ((contentLength? r.atHead).isNone && !r.counted))

/-- The response can have trailers. -/
def sendsTrailers : Bool :=
  match r.proto with
  | .http1 => r.chunked
  | .http2 => r.method != "HEAD"

/-- The values sent as headers under a name. -/
def headersUnder (name : String) : List String :=
  if hasPrefix name "Trailer:" then [] else headerValues r.atHead name

/-- The values sent as trailers under a canonical name. -/
def trailersUnder (name : String) : List String :=
  let cut := cutKeys "Trailer:" r.atEnd
  if r.sendsTrailers then
    match r.proto with
    | .http1 => canonicalValues cut name ++
      ((declaredTrailers r.atHead).filter (· = name)).flatMap (headerValues r.atEnd)
    | .http2 =>
      if cut.any (fun kv ↦ canonicalHeaderKey kv.1 = name) then promotedValues cut name
      else if name ∈ declaredTrailers r.atHead then headerValues r.atEnd name
      else []
  else []

end Response

/-- A declared name has not the prefix. -/
theorem hasPrefix_of_declared {header : Header} {name : String}
    (h : name ∈ declaredTrailers header) : hasPrefix name "Trailer:" = false := by
  have hvalid := (List.mem_filter.mp h).2
  simp only [validTrailerHeader, Bool.and_eq_true] at hvalid
  by_contra hstarts
  rw [Bool.not_eq_false, hasPrefix_iff] at hstarts
  have hcolon : ':' ∈ name.toList := hstarts.subset (by decide)
  have := List.all_eq_true.mp hvalid.1.1 ':' hcolon
  revert this
  decide

/-- Names that have no values when the handler has returned add nothing to the trailers. -/
theorem Response.trailersUnder_of_sends {r : Response} (hs : r.sendsTrailers = true)
    (h : ∀ name ∈ declaredTrailers r.atHead, headerValues r.atEnd name = []) (name : String) :
    r.trailersUnder name =
      match r.proto with
      | .http1 => canonicalValues (cutKeys "Trailer:" r.atEnd) name
      | .http2 => promotedValues (cutKeys "Trailer:" r.atEnd) name := by
  simp only [trailersUnder, hs, if_true]
  cases r.proto with
  | http1 =>
    have hnone : ((declaredTrailers r.atHead).filter (· = name)).flatMap
        (headerValues r.atEnd) = [] := by
      rw [List.flatMap_eq_nil_iff]
      exact fun k hk ↦ h k (List.mem_filter.mp hk).1
    simp only [hnone, List.append_nil]
  | http2 =>
    simp only
    split
    · rfl
    · next hany =>
      have hnone : promotedValues (cutKeys "Trailer:" r.atEnd) name = [] :=
        promotedValues_eq_nil (by simpa using hany)
      rw [hnone]
      split
      · next hdeclared => exact h name hdeclared
      · rfl

/-- Without trailers there are none under any name. -/
theorem Response.trailersUnder_of_not_sends {r : Response} (hs : r.sendsTrailers = false)
    (name : String) : r.trailersUnder name = [] := by
  simp [trailersUnder, hs]

end PocketAp.Transport
