import PocketAp.Transport.HTTP
import PocketAp.Transport.Suppliers
import PocketAp.Websockets.Upgrade

/-!
# The HTTP listener

`src/transport/http.go:104–203` and `src/transport/hosts.go`. A request passes the gates in
the order of the source. The event `enter` marks where the handler calls `Relay` or
`RelayStream`, and with what. A body is what its reader yields before it ends, and the error
it ends with unless that is `io.EOF`.
-/

namespace PocketAp.Transport

open PocketAp.Base PocketAp.Domain PocketAp.Relay PocketAp.Websockets

/-! ### Hosts -/

/-- `src/transport/hosts.go:30–39`. -/
structure HostPolicy where
  allowedHosts : List String
  bindAddr : String
  deriving DecidableEq, Repr

/-- `src/transport/hosts.go:84–90`. -/
def hostname (hostHeader : String) : String :=
  match splitHostPort? hostHeader with
  | some (h, _) => h
  | none => trimSet ['[', ']'] hostHeader

section Hosts

variable [GoLib]

/-- `src/transport/hosts.go:93–102`. -/
def isLoopbackHost (host : String) : Bool :=
  if equalFold host "localhost" then true else GoLib.isLoopbackIP host

/-- `src/transport/hosts.go:105–118`. -/
def isLoopbackBind (addr : String) : Bool :=
  let host := match splitHostPort? addr with
    | some (h, _) => h
    | none => addr
  let host := trimSet ['[', ']'] host
  if host = "" then false else isLoopbackHost host

namespace HostPolicy

/-- `src/transport/hosts.go:53–58`. -/
def enforces (p : HostPolicy) : Bool :=
  if !p.allowedHosts.isEmpty then true else isLoopbackBind p.bindAddr

/-- `src/transport/hosts.go:61–81`. -/
def allows (p : HostPolicy) (hostHeader : String) : Bool :=
  if !p.enforces then true
  else
    let host := hostname hostHeader
    if !p.allowedHosts.isEmpty then
      p.allowedHosts.any fun allowed ↦ allowed == "*" || GoLib.sameFold (hostname allowed) host
    else isLoopbackHost host

end HostPolicy

end Hosts

/-! ### The handler -/

/-- `src/transport/http.go:17`. -/
def maxRequestBodyBytes : Nat := 16 * 2 ^ 20

/-- The target of a request, as `net/url` holds it. -/
structure Target where
  scheme : String := ""
  opaquePart : String := ""
  escapedPath : String
  forceQuery : Bool := false
  rawQuery : String := ""
  deriving DecidableEq, Repr

/-- `net/url.URL.RequestURI`. -/
def Target.requestURI (u : Target) : String :=
  let path :=
    if u.opaquePart = "" then if u.escapedPath = "" then "/" else u.escapedPath
    else if hasPrefix u.opaquePart "//" then u.scheme ++ ":" ++ u.opaquePart
    else u.opaquePart
  if u.forceQuery ∨ u.rawQuery ≠ "" then path ++ "?" ++ u.rawQuery else path

/-- A body, and how reading it ends. -/
structure InboundBody where
  bytes : Bytes
  err : Option Err := none
  deriving DecidableEq, Repr

/-- A request as it reaches the handler. -/
structure Inbound where
  request : Request
  host : String
  url : Target
  body : InboundBody
  deriving DecidableEq, Repr

/-- `io.ReadAll` of `http.MaxBytesReader`. -/
def readBody (b : InboundBody) : Except Err Bytes :=
  if maxRequestBodyBytes < b.bytes.length then .error (.text "http: request body too large")
  else
    match b.err with
    | some e => .error e
    | none => .ok b.bytes

/-- Calls of the handler: into the relay core, or recorded by it and by the response writer. -/
inductive FrontEvent where
  | enter (ctx : Context) (serviceID : ServiceID) (rpcType : RPCType) (input : RelayInput)
  | core (e : Event ClientEvent)

/-- The handler answers a request itself. -/
def FrontEvent.answer (e : ClientEvent) : FrontEvent := .core (.client e)

/-- A listener, with the response writer of the request at hand.
`src/transport/http.go:25–35`. -/
structure HTTP (σ : Type) where
  serviceID : ServiceID
  rpcType : RPCType
  relayer : Relayer σ
  /-- Whether `h.stream` is set. -/
  stream : Bool
  policy : OriginPolicy
  hosts : HostPolicy
  write : Bytes → Seam σ (Option Err)
  canFlush : Bool

namespace HTTP

variable {σ : Type} [GoLib] (h : HTTP σ)

/-- `src/transport/http.go:119`. -/
def origin (req : Inbound) : String := headerGet req.request.header "Origin"

/-- `src/transport/http.go:152–157`. -/
def captured (req : Inbound) (body : Bytes) : RelayInput :=
  ⟨req.request.method, req.url.requestURI, req.request.header, body⟩

/-- A refusal. -/
def refuse (text : String) (code : Int) : Exec HandlerPanic σ FrontEvent Unit :=
  Exec.emit (.answer (.error text code))

omit [GoLib] in
/-- The head and body of a whole response. `src/transport/http.go:186–202`. -/
def writeResult (req : Inbound) (result : RelayResult) : Exec HandlerPanic σ FrontEvent Unit := do
  Exec.emitAll ((addHeaders result.header ++
    if origin req ≠ "" then writeCORSHeaders req.request (origin req) else []).map .answer)
  let code := StreamHandler.status result
  if code < 100 ∨ 999 < code then Exec.throw (.invalidWriteHeaderCode code)
  else
    Exec.emit (.answer (ClientEvent.writeHeader code))
    let _ ← Exec.call (h.write result.body) fun err ↦ .answer (.write result.body err)
    pure ()

omit [GoLib] in
/-- `src/transport/http.go:178–202`. -/
def serveWhole (req : Inbound) (ctx : Context) (input : RelayInput) :
    Exec HandlerPanic σ FrontEvent Unit := do
  match ← Exec.mapEvents .core (h.relayer.relay ctx h.serviceID h.rpcType input) with
  | .error e => refuse ("relay failed: " ++ e.message) 502
  | .ok result => h.writeResult req result

/-- The handler of a stream for this request. -/
def streamHandler (req : Inbound) : StreamHandler σ :=
  ⟨h.serviceID, h.rpcType, h.write, h.canFlush, req.request, origin req⟩

/-- Past the gates. `src/transport/http.go:171–202`. -/
def serve (req : Inbound) (ctx : Context) (input : RelayInput) :
    Exec HandlerPanic σ FrontEvent Unit := do
  Exec.emit (.enter ctx h.serviceID h.rpcType input)
  if h.stream then
    Exec.mapEvents .core ((h.streamHandler req).serveStream h.relayer ctx input)
  else h.serveWhole req ctx input

/-- `src/transport/http.go:104–203`. -/
def handle (order : String → RangeOrder) (req : Inbound) : Exec HandlerPanic σ FrontEvent Unit :=
  if !h.hosts.allows req.host then refuse "host not allowed" 403
  else if !h.policy.allows (origin req) then refuse "origin not allowed" 403
  else if isCORSPreflight req.request then
    Exec.emitAll ((writeCORSHeaders req.request (origin req) ++ [ClientEvent.writeHeader 204]).map .answer)
  else
    match readBody req.body with
    | .error e => refuse ("read body: " ++ e.message) 413
    | .ok body =>
      match routed order (captured req body) with
      | .error e => refuse e.message 400
      | .ok (ctx, input) => h.serve req ctx input

/-! ### Who gets in -/

/-- The request may be relayed. -/
structure Admits (req : Inbound) : Prop where
  host : h.hosts.allows req.host = true
  origin : h.policy.allows (origin req) = true
  request : isCORSPreflight req.request = false
  body : req.body.err = none ∧ req.body.bytes.length ≤ maxRequestBodyBytes
  lists : ListsValid req.request.header

/-- Calls into the relay core. -/
def isEnter : FrontEvent → Bool
  | .enter .. => true
  | .core _ => false

omit [GoLib] in
private theorem filter_isEnter_core (es : List (Event ClientEvent)) :
    (es.map FrontEvent.core).filter isEnter = [] := by
  simp [List.filter_eq_nil_iff, isEnter]

omit [GoLib] in
private theorem filter_isEnter_answer (es : List ClientEvent) :
    (es.map FrontEvent.answer).filter isEnter = [] := by
  simp [List.filter_eq_nil_iff, isEnter, FrontEvent.answer]

omit [GoLib] in
private theorem writeResult_enters (req : Inbound) (result : RelayResult) (s : σ) :
    ((h.writeResult req result).events s).filter isEnter = [] := by
  unfold writeResult Exec.events
  rw [Exec.bind_run_ok (Exec.emitAll_run _ s)]
  simp only [List.filter_append, filter_isEnter_answer, List.nil_append]
  split
  · rfl
  · rfl

omit [GoLib] in
private theorem serveWhole_enters (req : Inbound) (ctx : Context) (input : RelayInput) (s : σ) :
    ((h.serveWhole req ctx input).events s).filter isEnter = [] := by
  unfold serveWhole Exec.events
  rcases hr : (h.relayer.relay ctx h.serviceID h.rpcType input :
      Exec HandlerPanic σ (Event ClientEvent) _) s with ⟨es, s', p | e | result⟩
  · rw [Exec.bind_run_error (Exec.mapEvents_run hr _)]
    exact filter_isEnter_core es
  · rw [Exec.bind_run_ok (Exec.mapEvents_run hr _), List.filter_append, filter_isEnter_core]
    rfl
  · rw [Exec.bind_run_ok (Exec.mapEvents_run hr _), List.filter_append, filter_isEnter_core]
    exact h.writeResult_enters req result s'

/-- Past the gates the core is entered once. -/
theorem serve_enters (req : Inbound) (ctx : Context) (input : RelayInput) (s : σ) :
    ((h.serve req ctx input).events s).filter isEnter =
      [.enter ctx h.serviceID h.rpcType input] := by
  unfold serve Exec.events
  rw [Exec.bind_run_ok (Exec.emit_run _ s), List.filter_append]
  have hrest : (((if h.stream then
      Exec.mapEvents .core ((h.streamHandler req).serveStream h.relayer ctx input)
      else h.serveWhole req ctx input) s).1).filter isEnter = [] := by
    split
    · exact filter_isEnter_core _
    · exact h.serveWhole_enters req ctx input s
  rw [hrest]
  rfl

omit [GoLib] in
private theorem readBody_ok_iff (b : InboundBody) (body : Bytes) :
    readBody b = .ok body ↔
      (b.err = none ∧ b.bytes.length ≤ maxRequestBodyBytes) ∧ body = b.bytes := by
  unfold readBody
  rcases b with ⟨bytes, e | e⟩
  · by_cases hlen : maxRequestBodyBytes < bytes.length
    · refine iff_of_false (by simp [hlen]) ?_
      rintro ⟨⟨-, hle⟩, -⟩
      simp only at hle
      omega
    · simp only [hlen, if_false, Except.ok.injEq, true_and]
      constructor
      · rintro rfl
        exact ⟨by omega, rfl⟩
      · rintro ⟨-, rfl⟩
        rfl
  · by_cases hlen : maxRequestBodyBytes < bytes.length <;> simp [hlen]

/-- A request that may be relayed goes through the gates as it stands. -/
theorem handle_of_admits (order : String → RangeOrder) {req : Inbound} (hreq : h.Admits req) :
    ∃ p, (takeSupplierPolicy order req.request.header).2 = .ok p ∧
      h.handle order req = h.serve req (withSupplierPolicy {} p)
        ⟨req.request.method, req.url.requestURI, stripRouting req.request.header,
          req.body.bytes⟩ := by
  obtain ⟨p, hp⟩ := (takeSupplierPolicy_ok_iff order req.request.header).mpr hreq.lists
  refine ⟨p, hp, ?_⟩
  have hbody := (readBody_ok_iff req.body req.body.bytes).mpr ⟨hreq.body, rfl⟩
  have hrouted : routed order (captured req req.body.bytes) =
      .ok (withSupplierPolicy {} p, ⟨req.request.method, req.url.requestURI,
        stripRouting req.request.header, req.body.bytes⟩) := by
    simp only [routed, captured, hp, takeSupplierPolicy_header]
  simp only [handle, hreq.host, hreq.origin, hreq.request, hbody, hrouted, Bool.not_true,
    Bool.false_eq_true, if_false]

/-- A request that may not be relayed is answered by the handler, and nothing else happens. -/
theorem handle_of_not_admits (order : String → RangeOrder) {req : Inbound}
    (hreq : ¬h.Admits req) (s : σ) :
    ∃ es : List ClientEvent, h.handle order req s = (es.map .answer, s, .ok ()) := by
  have hrefuse (text : String) (code : Int) : ∃ es : List ClientEvent,
      (refuse text code : Exec HandlerPanic σ FrontEvent Unit) s = (es.map .answer, s, .ok ()) :=
    ⟨[.error text code], rfl⟩
  unfold handle
  by_cases hhost : h.hosts.allows req.host = true
  · by_cases horigin : h.policy.allows (origin req) = true
    · by_cases hpre : isCORSPreflight req.request = true
      · simp only [hhost, horigin, hpre, Bool.not_true, Bool.false_eq_true, if_false, if_true]
        exact ⟨_, rfl⟩
      · simp only [hhost, horigin, hpre, Bool.not_true, Bool.false_eq_true, if_false]
        rcases hbody : readBody req.body with e | body
        · exact hrefuse _ _
        · obtain ⟨hread, rfl⟩ := (readBody_ok_iff req.body body).mp hbody
          rcases hrouted : routed order (captured req req.body.bytes) with e | ⟨ctx, input⟩
          · simp only [hrouted]
            exact hrefuse _ _
          · refine absurd ⟨hhost, horigin, by simpa using hpre, hread, ?_⟩ hreq
            refine (takeSupplierPolicy_ok_iff order req.request.header).mp ?_
            simp only [routed, captured] at hrouted
            split at hrouted
            · cases hrouted
            · next p hp => exact ⟨p, hp⟩
    · simp only [hhost, horigin, Bool.not_true, Bool.not_false, Bool.false_eq_true, if_false,
        if_true]
      exact hrefuse _ _
  · simp only [hhost, Bool.not_false, if_true]
    exact hrefuse _ _

end HTTP

end PocketAp.Transport
