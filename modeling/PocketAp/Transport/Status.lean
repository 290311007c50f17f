import PocketAp.Pocket.Validate
import PocketAp.Transport.Served

/-!
# The status a client receives

A status travels from the signed response, `src/pocket/validate.go:84–88`, to `WriteHeader`
without a check on either way a listener relays, `src/transport/http.go:199–201, 242–245`.
`net/http` panics on a code outside `100..999` and sends one from `100` to `199` other than
`101` ahead of a response whose status is then decided by the first `Write`. It holds the head
back until something is flushed, its buffer is full or the handler has returned; what it still
holds when the handler panics is dropped.
-/

namespace PocketAp.Transport

open PocketAp.Base PocketAp.Domain PocketAp.Relay PocketAp.Pocket PocketAp.Websockets

/-- What a client speaks: HTTP/1.1, or HTTP/2 with a gRPC listener.
`src/transport/http.go:61–76`. -/
inductive Proto where
  | http1
  | http2
  deriving DecidableEq, Repr

/-- Bytes of a body that `net/http` buffers before the head leaves. -/
def Proto.buffer : Proto → Nat
  | .http1 => 2048
  | .http2 => 4096

/-- Codes that `net/http` sends ahead of the response. -/
def isInformational (code : Int) : Bool := decide (100 ≤ code ∧ code ≤ 199 ∧ code ≠ 101)

/-- Codes that come with a body; under the others `Write` answers `http.ErrBodyNotAllowed` to
one that is not empty. -/
def allowsBody (code : Int) : Bool :=
  !decide ((100 ≤ code ∧ code ≤ 199) ∨ code = 204 ∨ code = 304)

/-- The status that these calls decide, if any of them does. -/
def finalStatus : List ClientEvent → Option Int
  | [] => none
  | .headerAdd _ _ :: es => finalStatus es
  | .headerSet _ _ :: es => finalStatus es
  | .writeHeader code :: es => if isInformational code then finalStatus es else some code
  | .write _ _ :: _ => some 200
  | .flush :: _ => some 200
  | .error _ code :: _ => some (if isInformational code then 200 else code)

/-- Bytes of the body that `Write` took. -/
def bytesTaken : List ClientEvent → Nat
  | [] => 0
  | .write body none :: es => body.length + bytesTaken es
  | _ :: es => bytesTaken es

/-- The head has left while the handler runs. -/
def HeadSent (proto : Proto) (es : List ClientEvent) : Prop :=
  .flush ∈ es ∨ proto.buffer < bytesTaken es

instance (proto : Proto) (es : List ClientEvent) : Decidable (HeadSent proto es) :=
  inferInstanceAs (Decidable (_ ∨ _))

/-- The final status a client receives. With a handler that returns the response is complete; of
one that panics the client has a head if that had left, and otherwise nothing. -/
def received (proto : Proto) (es : List ClientEvent) : Except HandlerPanic Unit → Option Int
  | .ok () => some ((finalStatus es).getD 200)
  | .error _ => if HeadSent proto es then finalStatus es else none

/-- No panic while the head is written, the signed status or a gateway error for the client,
and no body of a supplier left open. -/
structure ServedSafely (proto : Proto) (es : List (Event ClientEvent))
    (out : Except HandlerPanic Unit) : Prop where
  noPanic : ∀ code, out ≠ .error (.invalidWriteHeaderCode code)
  faithful : ∀ result, signed? es = some result →
    received proto (clientCalls es) out = some (StreamHandler.status result) ∨
      received proto (clientCalls es) out = some 502
  closes : ClosesBodies es

/-- Status codes that `WriteHeader` takes as final; `0` stands for `200`. -/
def Servable (statusCode : Int) : Prop :=
  statusCode = 0 ∨ statusCode = 101 ∨ (200 ≤ statusCode ∧ statusCode ≤ 999)

instance (statusCode : Int) : Decidable (Servable statusCode) :=
  inferInstanceAs (Decidable (_ ∨ _))

/-- A client that stays: `Write` fails exactly on a body that the status in force does not
allow. -/
def ClientStays (es : List ClientEvent) : Prop :=
  ∀ pre body err post, es = pre ++ .write body err :: post →
    (err = none ↔ body = [] ∨ allowsBody ((finalStatus pre).getD 200) = true)

private theorem servable_iff (result : RelayResult) :
    Servable result.statusCode ↔
      Writable result ∧ isInformational (StreamHandler.status result) = false := by
  simp only [Servable, Writable, isInformational, StreamHandler.status]
  by_cases h0 : result.statusCode = 0
  · simp [h0]
  · simp only [h0, if_false, false_or, decide_eq_false_iff_not]
    omega

/-- A call that sets or adds a header. -/
def ClientEvent.isHeader : ClientEvent → Bool
  | .headerAdd _ _ => true
  | .headerSet _ _ => true
  | _ => false

/-- What headers in front do not change, any number of them does not. -/
private theorem eq_of_headers {α : Type} {f : List ClientEvent → α}
    (hf : ∀ e es, ClientEvent.isHeader e = true → f (e :: es) = f es) {hs : List ClientEvent}
    (h : ∀ e ∈ hs, e.isHeader = true) (es : List ClientEvent) : f (hs ++ es) = f es := by
  induction hs with
  | nil => rfl
  | cons e hs ih =>
    rw [List.forall_mem_cons] at h
    rw [List.cons_append, hf e _ h.1, ih h.2]

private theorem finalStatus_headers {hs : List ClientEvent} (h : ∀ e ∈ hs, e.isHeader = true)
    (es : List ClientEvent) : finalStatus (hs ++ es) = finalStatus es := by
  refine eq_of_headers (fun e es he ↦ ?_) h es
  cases e with
  | headerAdd name value => rfl
  | headerSet name value => rfl
  | _ => cases he

private theorem addHeaders_isHeader (header : Header) :
    ∀ e ∈ addHeaders header, e.isHeader = true := by
  intro e he
  simp only [addHeaders, List.mem_flatMap, List.mem_map] at he
  obtain ⟨kv, -, v, -, rfl⟩ := he
  rfl

private theorem writeCORSHeaders_isHeader (req : Request) (origin : String) :
    ∀ e ∈ writeCORSHeaders req origin, e.isHeader = true := by
  unfold writeCORSHeaders
  simp only [List.cons_append, List.nil_append, List.forall_mem_cons]
  refine ⟨rfl, rfl, ?_⟩
  split
  · simp
  · simp only [List.forall_mem_cons, List.forall_mem_append]
    refine ⟨rfl, ?_, rfl, by simp⟩
    split <;> simp [ClientEvent.isHeader]

/-- What is written before the status are headers. -/
theorem HTTP.headers_isHeader {σ : Type} [GoLib] (h : HTTP σ) (req : Inbound)
    (result : RelayResult) : ∀ e ∈ h.headers req result, e.isHeader = true := by
  have hcors : ∀ e ∈ (if origin req ≠ "" then writeCORSHeaders req.request (origin req) else []),
      e.isHeader = true := by
    split
    · exact writeCORSHeaders_isHeader _ _
    · simp
  unfold HTTP.headers
  split
  · exact List.forall_mem_append.mpr ⟨addHeaders_isHeader _, hcors⟩
  · exact List.forall_mem_append.mpr ⟨addHeaders_isHeader _, hcors⟩

/-- The head of a response that is written decides the status, unless its code is
informational: then `Write` does. -/
private theorem finalStatus_written {hs rest : List ClientEvent} (h : ∀ e ∈ hs, e.isHeader = true)
    (code : Int) (body : Bytes) (err : Option Err) :
    finalStatus (hs ++ .writeHeader code :: .write body err :: rest) =
      some (if isInformational code then 200 else code) := by
  rw [finalStatus_headers h, finalStatus]
  split <;> rfl

/-- The status in force when the body is written. -/
private theorem finalStatus_head {hs : List ClientEvent} (h : ∀ e ∈ hs, e.isHeader = true)
    {code : Int} (hcode : isInformational code = false) :
    finalStatus (hs ++ [.writeHeader code]) = some code := by
  rw [finalStatus_headers h, finalStatus, hcode]
  rfl

private theorem bytesTaken_headers {hs : List ClientEvent} (h : ∀ e ∈ hs, e.isHeader = true)
    (es : List ClientEvent) : bytesTaken (hs ++ es) = bytesTaken es := by
  refine eq_of_headers (fun e es he ↦ ?_) h es
  cases e with
  | headerAdd name value => rfl
  | headerSet name value => rfl
  | _ => cases he

section Safely

variable (proto : Proto) {stream canFlush : Bool}
  {headers trailers : RelayResult → List ClientEvent}
  {es : List (Event ClientEvent)} {out : Except HandlerPanic Unit}

private theorem Served.safely_iff (hheaders : ∀ result, ∀ e ∈ headers result, e.isHeader = true)
    (h : Served stream canFlush headers trailers es out) :
    ServedSafely proto es out ↔ ∀ result, signed? es = some result →
      Servable result.statusCode ∧ (out = .ok () ∨ HeadSent proto (clientCalls es)) := by
  cases h with
  | unsigned unsigned returned closes =>
    rw [unsigned, returned]
    refine iff_of_true ⟨by simp, by simp [unsigned], closes⟩ (by simp)
  | unwritable result signed status calls panicked =>
    refine iff_of_false ?_ ?_
    · intro hsafe
      exact hsafe.noPanic _ panicked
    · intro hall
      exact status ((servable_iff result).mp (hall result signed).1).1
  | written result err rest signed status closes calls ended after =>
    have hfinal : finalStatus (clientCalls es) = some (if isInformational
        (StreamHandler.status result) then 200 else StreamHandler.status result) := by
      rw [calls]
      exact finalStatus_written (hheaders result) _ result.body err
    -- A head that left carries the status that the calls decided, and one that did not nothing.
    have hreceived : received proto (clientCalls es) out =
        if out = .ok () ∨ HeadSent proto (clientCalls es) then finalStatus (clientCalls es)
        else none := by
      rcases ended with ⟨rfl, -⟩ | ⟨rfl, -⟩
      · simp [received, hfinal]
      · simp [received]
    have hall : (∀ result', signed? es = some result' → Servable result'.statusCode ∧
        (out = .ok () ∨ HeadSent proto (clientCalls es))) ↔
        isInformational (StreamHandler.status result) = false ∧
          (out = .ok () ∨ HeadSent proto (clientCalls es)) := by
      rw [signed]
      simp only [Option.some.injEq, forall_eq', servable_iff, status, true_and]
    rw [hall]
    constructor
    · intro hsafe
      have hfaithful := hsafe.faithful result signed
      rw [hreceived, hfinal] at hfaithful
      by_cases hleft : out = .ok () ∨ HeadSent proto (clientCalls es)
      · refine ⟨?_, hleft⟩
        by_contra hinfo
        rw [Bool.not_eq_false] at hinfo
        simp only [if_pos hleft, hinfo, if_true, Option.some.injEq] at hfaithful
        simp only [isInformational, decide_eq_true_eq] at hinfo
        omega
      · simp [if_neg hleft] at hfaithful
    · rintro ⟨hinfo, hleft⟩
      refine ⟨?_, ?_, closes⟩
      · rcases ended with ⟨rfl, -⟩ | ⟨rfl, -⟩ <;> simp
      · intro result' hsigned
        rw [signed, Option.some.injEq] at hsigned
        subst hsigned
        rw [hreceived, if_pos hleft, hfinal, hinfo]
        exact .inl rfl

/-- With a client that stays the head leaves unless a stream begins with a body that its status
does not allow. -/
private theorem Served.left_iff (hheaders : ∀ result, ∀ e ∈ headers result, e.isHeader = true)
    (h : Served stream true headers trailers es out) (hstays : ClientStays (clientCalls es))
    {result : RelayResult} (hsigned : signed? es = some result)
    (hservable : Servable result.statusCode) :
    (out = .ok () ∨ HeadSent proto (clientCalls es)) ↔
      (stream = true → result.body = [] ∨ allowsBody (StreamHandler.status result) = true) := by
  cases h with
  | unsigned unsigned returned closes =>
    rw [unsigned] at hsigned
    cases hsigned
  | unwritable result' signed status calls panicked =>
    rw [signed, Option.some.injEq] at hsigned
    subst hsigned
    exact absurd ((servable_iff result').mp hservable).1 status
  | written result' err rest signed status closes calls ended after =>
    rw [signed, Option.some.injEq] at hsigned
    subst hsigned
    have hinfo := ((servable_iff result').mp hservable).2
    have hanswer : err = none ↔
        result'.body = [] ∨ allowsBody (StreamHandler.status result') = true := by
      have h := hstays (headers result' ++ [.writeHeader (StreamHandler.status result')])
        result'.body err rest (by rw [calls]; simp)
      rwa [finalStatus_head (hheaders result') hinfo] at h
    rw [← hanswer]
    cases stream with
    | false =>
      obtain ⟨-, hout⟩ := after
      simp [hout]
    | true =>
      cases err with
      | none =>
        have hflush : .flush ∈ rest := after rfl
        refine iff_of_true (.inr (.inl ?_)) fun _ ↦ rfl
        rw [calls]
        simp [hflush]
      | some e =>
        obtain ⟨rfl, hout⟩ := after
        refine iff_of_false ?_ (by simp)
        rintro (hok | hflush | hlong)
        · rw [hout] at hok
          cases hok
        · rw [calls] at hflush
          rcases List.mem_append.mp hflush with hflush | hflush
          · have := hheaders result' _ hflush
            cases this
          · simp at hflush
        · rw [calls, bytesTaken_headers (hheaders result')] at hlong
          simp [bytesTaken] at hlong

end Safely

/-- A request is served safely exactly when the first response found valid for it carries a
status that `WriteHeader` takes as final and its head leaves. With a client that stays the latter
fails only for a stream whose first body the status does not allow. -/
theorem handle_servedSafely_iff {σ : Type} [GoLib] (h : HTTP σ) (order : String → RangeOrder)
    (req : Inbound) (s : σ) (proto : Proto) :
    (ServedSafely proto (HTTP.coreCalls ((h.handle order req).events s))
        ((h.handle order req).outcome s) ↔
      ∀ result, signed? (HTTP.coreCalls ((h.handle order req).events s)) = some result →
        Servable result.statusCode ∧
          ((h.handle order req).outcome s = .ok () ∨
            HeadSent proto (clientCalls (HTTP.coreCalls ((h.handle order req).events s))))) ∧
    (h.canFlush = true →
      ClientStays (clientCalls (HTTP.coreCalls ((h.handle order req).events s))) →
      (ServedSafely proto (HTTP.coreCalls ((h.handle order req).events s))
          ((h.handle order req).outcome s) ↔
        ∀ result, signed? (HTTP.coreCalls ((h.handle order req).events s)) = some result →
          Servable result.statusCode ∧
            (h.stream = true →
              result.body = [] ∨ allowsBody (StreamHandler.status result) = true))) := by
  have hserved := h.handle_served order req s
  have hsafely := hserved.safely_iff proto (h.headers_isHeader req)
  refine ⟨hsafely, fun hflush hstays ↦ ?_⟩
  rw [hflush] at hserved
  rw [hsafely]
  refine forall_congr' fun result ↦ forall_congr' fun hsigned ↦ and_congr_right fun hservable ↦ ?_
  exact hserved.left_iff proto (h.headers_isHeader req) hstays hsigned hservable

/-- A listener for one browser origin whose one supplier signs responses with this status and
header. -/
def signing (stream : Bool) (rpcType : RPCType) (statusCode : UInt32)
    (header : List (String × Option (List String))) : HTTP Unit where
  serviceID := "eth"
  rpcType := rpcType
  relayer :=
    let v : Validator Unit :=
      ⟨fun _ bz s ↦ (.ok { payload := bz }, s), fun bz ↦ .ok ⟨statusCode, header, bz⟩⟩
    { Relayer.scripted [⟨"pokt1a", fun _ ↦ some "https://a"⟩]
        (fun _ ↦ .ok ⟨.final [7] .eof, [], 200⟩) with
      validator := v.validateResponse }
  stream := stream
  policy := ⟨["https://app.example"]⟩
  hosts := ⟨[], ":8545"⟩
  write _ := fun s ↦ (none, s)
  canFlush := true

/-- A request of a native client. -/
def plainRequest : Inbound where
  request := ⟨"POST", []⟩
  host := "localhost:8545"
  url := { escapedPath := "/" }
  body := ⟨[1], none⟩

/-- A response with a body and status `404` is served safely either way. -/
theorem handle_servedSafely_notFound :
    let _ : GoLib := GoLib.plain
    let run (stream : Bool) :=
      (signing stream .rest 404 []).handle (fun _ ↦ .listed) plainRequest
    ∀ stream proto, signed? (HTTP.coreCalls ((run stream).events ())) = some ⟨404, [], [7]⟩ ∧
      ServedSafely proto (HTTP.coreCalls ((run stream).events ())) ((run stream).outcome ()) := by
  intro _ run stream proto
  have hsigned : signed? (HTTP.coreCalls ((run stream).events ())) = some ⟨404, [], [7]⟩ := by
    cases stream <;> rfl
  have hcalls : clientCalls (HTTP.coreCalls ((run stream).events ())) =
      .writeHeader 404 :: .write [7] none :: if stream then [.flush] else [] := by
    cases stream <;> decide +kernel
  have hstays : ClientStays (clientCalls (HTTP.coreCalls ((run stream).events ()))) := by
    rw [hcalls]
    rintro (_ | ⟨e, _ | ⟨e', pre⟩⟩) body err post hsplit
    · cases hsplit
    · cases hsplit
      decide
    · cases stream <;> cases pre <;> simp at hsplit
  refine ⟨hsigned, ((handle_servedSafely_iff (signing stream .rest 404 []) _ plainRequest ()
    proto).2 rfl hstays).mpr ?_⟩
  intro result hresult
  rw [hsigned, Option.some.injEq] at hresult
  subst hresult
  exact ⟨by decide, fun _ ↦ .inr (by decide)⟩

/-- The same over a response writer that refuses every body. -/
def refusing (stream : Bool) (statusCode : UInt32) : HTTP Unit :=
  { signing stream .rest statusCode [] with
    write := fun _ s ↦
      (some (.text "http: request method or response status code does not allow body"), s) }

/-- With status `1000` either way panics, and a stream leaves the body open; with `103` the
client receives `200`; and of a stream with `204` and a body it receives nothing. -/
theorem signing_not_servedSafely :
    let _ : GoLib := GoLib.plain
    let run (stream : Bool) (statusCode : UInt32) :=
      (signing stream .rest statusCode []).handle (fun _ ↦ .listed) plainRequest
    let refused (stream : Bool) :=
      (refusing stream 204).handle (fun _ ↦ .listed) plainRequest
    (∀ stream, (run stream 1000).outcome () = .error (.invalidWriteHeaderCode 1000)) ∧
      ¬ ClosesBodies (HTTP.coreCalls ((run true 1000).events ())) ∧
      (∀ stream proto, received proto (clientCalls (HTTP.coreCalls ((run stream 103).events ())))
        ((run stream 103).outcome ()) = some 200) ∧
      (∀ stream proto, ¬ ServedSafely proto (HTTP.coreCalls ((run stream 103).events ()))
        ((run stream 103).outcome ())) ∧
      (∀ stream proto, received proto (clientCalls (HTTP.coreCalls ((refused stream).events ())))
        ((refused stream).outcome ()) = if stream then none else some 204) ∧
      ∀ proto, ¬ ServedSafely proto (HTTP.coreCalls ((refused true).events ()))
        ((refused true).outcome ()) := by
  intro _ run refused
  have hpanic (stream : Bool) :
      (run stream 1000).outcome () = .error (.invalidWriteHeaderCode 1000) := by
    cases stream <;> rfl
  have hreceived (stream : Bool) (proto : Proto) : received proto (clientCalls (HTTP.coreCalls
      ((run stream 103).events ()))) ((run stream 103).outcome ()) = some 200 := by
    cases stream <;> cases proto <;> decide +kernel
  have hdropped (stream : Bool) (proto : Proto) : received proto (clientCalls (HTTP.coreCalls
      ((refused stream).events ()))) ((refused stream).outcome ()) =
        if stream then none else some 204 := by
    cases stream <;> cases proto <;> decide +kernel
  refine ⟨hpanic, ?_, hreceived, ?_, hdropped, ?_⟩
  · intro hcloses
    have hopen : ((HTTP.coreCalls ((run true 1000).events ())).any fun ev ↦
      match ev with | .close => true | _ => false) = false := rfl
    have hreply : ((HTTP.coreCalls ((run true 1000).events ())).any fun ev ↦ !ev.isBodiless) =
      true := rfl
    obtain ⟨ev, hev, hbody⟩ := List.any_eq_true.mp hreply
    obtain ⟨pre, post, hsplit⟩ := List.append_of_mem hev
    cases ev with
    | sendStream url relayReq t result =>
      cases result with
      | error e => cases hbody
      | ok reply =>
        obtain ⟨mid, rest, rfl, -⟩ := hcloses pre url relayReq t reply post hsplit
        rw [hsplit] at hopen
        simp at hopen
    | _ => cases hbody
  · intro stream proto hsafe
    have hsigned : signed? (HTTP.coreCalls ((run stream 103).events ())) = some ⟨103, [], [7]⟩ := by
      cases stream <;> rfl
    have hfaithful := hsafe.faithful _ hsigned
    rw [hreceived stream] at hfaithful
    simp [StreamHandler.status] at hfaithful
  · intro proto hsafe
    have hsigned : signed? (HTTP.coreCalls ((refused true).events ())) = some ⟨204, [], [7]⟩ := rfl
    have hfaithful := hsafe.faithful _ hsigned
    rw [hdropped true] at hfaithful
    simp at hfaithful

end PocketAp.Transport
