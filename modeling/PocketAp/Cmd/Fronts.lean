import PocketAp.Cmd.Startup
import PocketAp.Pocket.Frames
import PocketAp.Pocket.Sender
import PocketAp.Relay.Observers
import PocketAp.Transport.Handshake
import PocketAp.Transport.Provenance
import PocketAp.Transport.Routing

/-!
# From a request to a response

`src/cmd/pocket-ap/main.go:337–414`. The relayer of `serve`, put together from what startup has
wired, the bridge beside it, and the listeners over them. Sessions come from the session
manager, whatever its interleaving; the SDK's checks, the network and the clock are outside.
`requests_carried` follows a request through all of it: which app pays, whom it is sent to and
what is signed, and which supplier's word a client is given. `bridges_carried` does so for a
WebSocket and all of its frames.
-/

namespace PocketAp.Cmd

open PocketAp.Base PocketAp.Domain PocketAp.Config PocketAp.Relay PocketAp.Pocket
open PocketAp.Selector PocketAp.Transport PocketAp.Websockets

section Fronts

variable [Shannon] {ω : Type} {cfg : Config}

/-- `src/cmd/pocket-ap/main.go:48`. -/
def defaultMaxAttempts : Int := 3

/-- What the relayer of a process uses besides what startup has wired. -/
structure Outside (ω : Type) where
  sessions : ServiceID → Seam (AllCaches × ω) (Except Err Session)
  validator : Validator (AllCaches × ω)
  stats : Observer (AllCaches × ω)
  sender : MultiSender (AllCaches × ω)
  draw : Draws

variable [GoLib]

/-- `src/cmd/pocket-ap/main.go:345–378`. -/
def Wiring.relayer (wiring : Wiring cfg ω) (o : Outside ω) : Relayer (AllCaches × ω) where
  sessions := o.sessions
  signer := wiring.core.signer.signRelay wiring.core.fullNode
  validator := o.validator.validateResponse
  selector := withObservers (filterSelector wiring.filter.policies none o.draw) [o.stats]
  sender := o.sender.send
  maxAttempts := defaultMaxAttempts
  streamSender := some o.sender.sendStream

/-- The bridges are over the same objects. `src/cmd/pocket-ap/main.go:382–388`. -/
def Wiring.bridge (wiring : Wiring cfg ω) (o : Outside ω) : Relay.Bridge (AllCaches × ω) where
  sessions := o.sessions
  signer := wiring.core.signer.signFrame wiring.core.fullNode
  validator := o.validator.validateFrame
  selector := (wiring.relayer o).selector
  rpcTypeHeader := some rpcTypeHeader

/-- What a listener is built with besides; `limiter` is what its cap amounts to, `write` and
`canFlush` are the response writer of the request at hand. `src/transport/transport.go:62–100`. -/
structure Options (σ : Type) where
  allowedOrigins : List String
  allowedHosts : List String
  limiter : Option (Limiter σ)
  write : Bytes → Seam σ (Option Err)
  canFlush : Bool

/-- The adapter for a listener. `src/cmd/pocket-ap/main.go:396–414`,
`src/transport/transport.go:104–120`, `src/transport/http.go:41–51`,
`src/transport/ws.go:54–68`. -/
def Wiring.newTransport (wiring : Wiring cfg ω) (o : Outside ω) (opts : Options (AllCaches × ω))
    (l : Listener) : Except Err (HTTP (AllCaches × ω) ⊕ WS (AllCaches × ω)) :=
  match l.parsed with
  | .error e => .error e
  | .ok (serviceID, .webSocket) => .ok (.inr
    { serviceID
      rpcType := .webSocket
      core := wiring.bridge o
      policy := ⟨opts.allowedOrigins⟩
      hosts := ⟨opts.allowedHosts, l.addr⟩
      limiter := opts.limiter })
  | .ok (serviceID, rpcType) => .ok (.inl
    { serviceID, rpcType
      relayer := wiring.relayer o
      -- `RelayStream` is always given, and preferred to `Relay`.
      stream := true
      policy := ⟨opts.allowedOrigins⟩
      hosts := ⟨opts.allowedHosts, l.addr⟩
      write := opts.write
      canFlush := opts.canFlush })

/-- Each adapter is for the listener's service, over the wired relayer or the wired bridge. -/
private theorem newTransport_ok {wiring : Wiring cfg ω} {o : Outside ω}
    {opts : Options (AllCaches × ω)} {l : Listener}
    {t : HTTP (AllCaches × ω) ⊕ WS (AllCaches × ω)}
    (h : wiring.newTransport o opts l = .ok t) :
    (∀ front, t = .inl front →
      front.serviceID = l.serviceID ∧ front.relayer = wiring.relayer o) ∧
    (∀ ws, t = .inr ws → ws.serviceID = l.serviceID ∧ ws.core = wiring.bridge o) := by
  unfold Wiring.newTransport at h
  split at h
  · cases h
  · next hparsed =>
    cases h
    refine ⟨nofun, ?_⟩
    rintro _ ⟨rfl⟩
    exact ⟨parsed_serviceID hparsed, rfl⟩
  · next hparsed =>
    cases h
    refine ⟨?_, nofun⟩
    rintro _ ⟨rfl⟩
    exact ⟨parsed_serviceID hparsed, rfl⟩

/-! ### What startup has established for an app -/

section Wired

variable {newFullNode : String → Bool → String → Except Err (Chain ω)} {draw : Draws} {w₀ : ω}
  {wiring : Wiring cfg ω}

/-- The signer and the policy of an app are found under its address and its service. -/
private theorem wire_app (h : wire newFullNode draw cfg w₀ = .ok wiring) {app : ResolvedApp}
    (happ : app ∈ wiring.apps) :
    wiring.core.signer.byAddr app.addr = some app.signer ∧
      wiring.filter.configured app.serviceID = app.suppliers := by
  obtain ⟨hcore, happs, -, hsessions, hfilter⟩ := wire_ok h
  obtain ⟨haddrs, hmulti⟩ := buildCore_ok hcore
  have hlen : wiring.core.signers.length = cfg.appList.length := by
    simpa using congrArg List.length wiring.core.keys
  have hsnd : (cfg.appList.zip wiring.core.signers).map Prod.snd = wiring.core.signers :=
    List.map_snd_zip (by omega)
  obtain ⟨hsigners, hres⟩ := resolveFrom_ok wiring.core.fullNode
    (Prod.ext happs rfl : resolveApps cfg wiring.core _ = (.ok wiring.apps, _))
    (by rwa [hsnd]) (fun _ _ ↦ rfl)
  rw [hsnd] at hsigners
  constructor
  · have haddr := addrs_of_resolved hres
    rw [List.map_map] at haddr
    rw [hmulti, newMultiSigner_byAddr haddrs, ← hsigners]
    exact ⟨List.mem_map_of_mem happ, (List.map_inj_left.mp haddr app happ).symm⟩
  · obtain ⟨-, hservices, -⟩ := newSessionManager_ok hsessions
    rw [Filter.configured, hfilter]
    exact (foldl_addPolicy wiring.apps (fun _ ↦ none)
      (by simpa [serviceApps, Function.comp_def] using hservices) (fun _ _ ↦ rfl)).1 app happ

private theorem signerFor_app (h : wire newFullNode draw cfg w₀ = .ok wiring) {app : ResolvedApp}
    (happ : app ∈ wiring.apps) {session : Session} (hbilled : session.appAddr = app.addr) :
    wiring.core.signer.signerFor session = .ok app.signer := by
  simp only [MultiSigner.signerFor, hbilled, (wire_app h happ).1]

private theorem listener_app (h : wire newFullNode draw cfg w₀ = .ok wiring) {l : Listener}
    (hl : l ∈ wiring.listeners) : ∃ app ∈ wiring.apps, app.serviceID = l.serviceID := by
  obtain ⟨-, -, hls, -, -⟩ := wire_ok h
  exact (resolveListenerServices_ok hls).1 l hl

/-- A session that the manager issued for the service of an app is billed to that app. -/
private theorem issued_app (h : wire newFullNode draw cfg w₀ = .ok wiring)
    (hcolon : ∀ app ∈ wiring.apps, ':' ∉ app.addr.toList) {app : ResolvedApp}
    (happ : app ∈ wiring.apps) {session : Session}
    (hissued : wiring.sessions.Issued app.serviceID session) :
    session.serviceID = app.serviceID ∧ session.appAddr = app.addr := by
  obtain ⟨-, -, -, hsessions, -⟩ := wire_ok h
  obtain ⟨-, hservices, -⟩ := newSessionManager_ok hsessions
  obtain ⟨a, ha, hservice, hid, haddr⟩ := hissued.billed hsessions (by
    simpa [serviceApps] using hcolon)
  obtain ⟨app', happ', rfl⟩ := List.mem_map.mp ha
  have hone : app' = app :=
    eq_of_service (by simpa [serviceApps, Function.comp_def] using hservices) happ' happ hservice
  subst hone
  exact ⟨hid, haddr⟩

end Wired

/-! ### What is asked, and what is answered -/

section Causes

variable (wiring : Wiring cfg ω) (o : Outside ω) (app : ResolvedApp) (rpcType : RPCType)
  (order : String → RangeOrder) (req : Inbound) (s : AllCaches × ω)

/-- A relay of the request: billed to the app, for a supplier of the session at hand that both
the operator and the request permit, and of the request as it came, signed with the app's key. -/
structure Asked (ep : Endpoint) (url : String) (relayReq : Bytes) : Prop where
  billed : ∃ session s', o.sessions app.serviceID s = (.ok session, s') ∧
    session.serviceID = app.serviceID ∧ session.appAddr = app.addr ∧ ep ∈ session.endpoints ∧
    ∃ payload, Shannon.serializeHTTPRequest
        (innerRequest (buildTargetURL url req.url.requestURI) (HTTP.forwarded req)) = .ok payload ∧
      SignedAs wiring.core.fullNode app.signer session ep.supplier payload relayReq
  reached : ep.url rpcType = some url
  configured : app.suppliers.permitsEndpoint ep rpcType = true
  requested : ∃ policy, (takeSupplierPolicy order req.request.header).2 = .ok policy ∧
    policy.permitsEndpoint ep rpcType = true

/-- A response that the SDK has checked as this supplier's, and read. -/
def Checked (supplier : EndpointAddr) (batch : Bytes) (result : RelayResult) : Prop :=
  ∃ s s' resp poktResp, o.validator.validateRelayResponse supplier batch s = (.ok resp, s') ∧
    o.validator.deserializeHTTPResponse resp.payload = .ok poktResp ∧ result = poktResp.result

/-- What caused a call of a listener's handler, given the calls before it. -/
def Caused (past : List (Event ClientEvent)) : Event ClientEvent → Prop
  | .send url relayReq t _ =>
    t = rpcType ∧ ∃ ep, Asked wiring o app rpcType order req s ep url relayReq
  | .sendStream url relayReq t _ =>
    t = rpcType ∧ ∃ ep, Asked wiring o app rpcType order req s ep url relayReq
  | .validate supplier batch (.ok result) =>
    Checked o supplier batch result ∧ ∃ ep url relayReq, ep.supplier = supplier ∧
      Asked wiring o app rpcType order req s ep url relayReq ∧
        Replied rpcType past supplier url relayReq batch
  | .client (.write body _) => ∃ batch result,
    latest Event.valid? past = some (batch, result) ∧ result.body = body
  | _ => True

end Causes

section Seams

omit [GoLib] in
private theorem signRelay_ok {c : Chain ω} {signer : Signer} {session : Session} {ep : Endpoint}
    {rpcType : RPCType} {input : RelayInput} {url : String} {bz : Bytes} {s : Caches × ω}
    (hurl : ep.url rpcType = some url)
    (h : (signer.signRelay c session ep rpcType input s).1 = .ok bz) :
    ∃ payload,
      Shannon.serializeHTTPRequest (innerRequest (buildTargetURL url input.path) input) =
        .ok payload ∧ SignedAs c signer session ep.supplier payload bz := by
  unfold Signer.signRelay buildRelayRequest at h
  simp only [hurl] at h
  cases hnew : Shannon.newRequest input.method (buildTargetURL url input.path) with
  | some e => simp [hnew] at h
  | none =>
    cases hser : Shannon.serializeHTTPRequest
        (innerRequest (buildTargetURL url input.path) input) with
    | error e => simp [hnew, hser] at h
    | ok payload =>
      cases hraw : session.raw with
      | none => simp [hnew, hser, hraw] at h
      | some header =>
        simp only [hnew, hser, hraw] at h
        exact ⟨payload, rfl, signAndMarshal_ok hraw h⟩

omit [Shannon] [GoLib] in
private theorem validateResponse_ok {σ : Type} {v : Validator σ} {supplier : EndpointAddr}
    {batch : Bytes} {result : RelayResult} {s : σ}
    (h : (v.validateResponse supplier batch s).1 = .ok result) :
    ∃ s' resp poktResp, v.validateRelayResponse supplier batch s = (.ok resp, s') ∧
      v.deserializeHTTPResponse resp.payload = .ok poktResp ∧ result = poktResp.result := by
  unfold Validator.validateResponse at h
  split at h
  · cases h
  · next resp s' checked =>
    split at h
    · cases h
    · next poktResp hread =>
      cases h
      exact ⟨s', resp, poktResp, checked, hread, rfl⟩

/-- What the selector of `serve` returns is of the session and permitted twice. -/
private theorem select_permitted {wiring : Wiring cfg ω} {o : Outside ω}
    {policy : Domain.SupplierPolicy} {serviceID : ServiceID} {endpoints ordered : List Endpoint}
    {rpcType : RPCType} {s s' : AllCaches × ω}
    (h : (wiring.relayer o).selector.select (withSupplierPolicy {} policy) serviceID endpoints
      rpcType s = (.ok ordered, s'))
    {ep : Endpoint} (hep : ep ∈ ordered) :
    ep ∈ endpoints ∧ (wiring.filter.configured serviceID).permitsEndpoint ep rpcType = true ∧
      policy.permitsEndpoint ep rpcType = true := by
  have hsel : Filter.selected ⟨randomSelect o.draw, wiring.filter.policies⟩
      (withSupplierPolicy {} policy) serviceID endpoints rpcType = .ok ordered := congrArg Prod.fst h
  have hmem := (Filter.selected_perm hsel).mem_iff.mp hep
  simp only [Filter.candidates, List.mem_filter, Filter.eligible, Filter.bothPermit,
    Bool.and_eq_true, supplierPolicyFromContext_with] at hmem
  exact ⟨hmem.1, hmem.2.2.1, hmem.2.2.2⟩

end Seams

section Carried

variable {newFullNode : String → Bool → String → Except Err (Chain ω)} {draw : Draws} {w₀ : ω}
  {wiring : Wiring cfg ω} {o : Outside ω} {app : ResolvedApp}

private theorem asked_of_addressed (h : wire newFullNode draw cfg w₀ = .ok wiring)
    (happ : app ∈ wiring.apps) {order : String → RangeOrder} {req : Inbound} {rpcType : RPCType}
    {policy : Domain.SupplierPolicy}
    (hpolicy : (takeSupplierPolicy order req.request.header).2 = .ok policy) {session : Session}
    {ordered : List Endpoint} {s s₁ s₂ : AllCaches × ω}
    (hfetch : o.sessions app.serviceID s = (.ok session, s₁))
    (hbilled : session.serviceID = app.serviceID ∧ session.appAddr = app.addr)
    (hselect : (wiring.relayer o).selector.select (withSupplierPolicy {} policy) app.serviceID
      session.endpoints rpcType s₁ = (.ok ordered, s₂)) {ep : Endpoint} (hep : ep ∈ ordered)
    {url : String} {relayReq : Bytes}
    (ha : (wiring.relayer o).Addressed rpcType (HTTP.forwarded req) session ep url relayReq) :
    Asked wiring o app rpcType order req s ep url relayReq := by
  obtain ⟨hurl, s₃, hsigned⟩ := ha
  obtain ⟨hmem, hoperator, hrequest⟩ := select_permitted hselect hep
  rw [(wire_app h happ).2] at hoperator
  simp only [Wiring.relayer, MultiSigner.signRelay, signerFor_app h happ hbilled.2, withCaches]
    at hsigned
  exact ⟨⟨session, s₁, hfetch, hbilled.1, hbilled.2, hmem, signRelay_ok hurl hsigned⟩, hurl,
    hoperator, policy, hpolicy, hrequest⟩

/-- A call into the core, traced by the relayer, is one on behalf of the app. -/
private theorem caused_of_traced (h : wire newFullNode draw cfg w₀ = .ok wiring)
    (hcolon : ∀ app ∈ wiring.apps, ':' ∉ app.addr.toList)
    (hissued : ∀ serviceID s session s', o.sessions serviceID s = (.ok session, s') →
      wiring.sessions.Issued serviceID session)
    (happ : app ∈ wiring.apps) {order : String → RangeOrder} {req : Inbound} {rpcType : RPCType}
    {policy : Domain.SupplierPolicy}
    (hpolicy : (takeSupplierPolicy order req.request.header).2 = .ok policy)
    {s : AllCaches × ω} {past : List (Event ClientEvent)} {ev : Event ClientEvent}
    (hcore : ∀ c, ev ≠ .client c)
    (htraced : (wiring.relayer o).Traced rpcType (HTTP.forwarded req) (withSupplierPolicy {} policy)
      app.serviceID s past ev) :
    Caused wiring o app rpcType order req s past ev := by
  obtain ⟨session, s₁, ordered, s₂, hfetch, hselect, hsourced⟩ := htraced
  have hbilled := issued_app h hcolon happ (hissued _ _ _ _ hfetch)
  have hasked {ep : Endpoint} (hep : ep ∈ ordered) {url : String} {relayReq : Bytes}
      (ha : (wiring.relayer o).Addressed rpcType (HTTP.forwarded req) session ep url relayReq) :
      Asked wiring o app rpcType order req s ep url relayReq :=
    asked_of_addressed h happ hpolicy hfetch hbilled hselect hep ha
  cases ev with
  | send url relayReq t result =>
    obtain ⟨ht, ep, hep, ha⟩ := hsourced
    exact ⟨ht, ep, hasked hep ha⟩
  | sendStream url relayReq t result =>
    obtain ⟨ht, ep, hep, ha⟩ := hsourced
    exact ⟨ht, ep, hasked hep ha⟩
  | validate supplier batch result =>
    cases result with
    | error e => trivial
    | ok result =>
      obtain ⟨⟨s₃, hvalid⟩, ep, hep, hsupplier, url, relayReq, ha, hreply⟩ := hsourced
      exact ⟨⟨s₃, validateResponse_ok hvalid⟩, ep, url, relayReq, hsupplier, hasked hep ha, hreply⟩
  | client c => exact absurd rfl (hcore c)
  | _ => trivial

/-- Whatever a listener is asked and whatever the network, the suppliers and the SDK answer:
one app serves it, and throughout the handling of a request every relay that is sent is one of
this request, billed to that app and signed with its key, for a supplier that the operator and
the request permit; every response accepted answers such a relay and was checked as its
supplier's; and every body the client is written is that of the response accepted last. -/
theorem requests_carried (h : wire newFullNode draw cfg w₀ = .ok wiring)
    (hcolon : ∀ app ∈ wiring.apps, ':' ∉ app.addr.toList)
    (hissued : ∀ serviceID s session s', o.sessions serviceID s = (.ok session, s') →
      wiring.sessions.Issued serviceID session)
    {l : Listener} (hl : l ∈ wiring.listeners) {opts : Options (AllCaches × ω)}
    {front : HTTP (AllCaches × ω)} (hfront : wiring.newTransport o opts l = .ok (.inl front))
    (order : String → RangeOrder) (req : Inbound) (s : AllCaches × ω) :
    ∃ app ∈ wiring.apps, app.serviceID = l.serviceID ∧
      Throughout (Caused wiring o app front.rpcType order req s)
        (HTTP.coreCalls ((front.handle order req).events s)) := by
  obtain ⟨app, happ, hservice⟩ := listener_app h hl
  obtain ⟨hid, hrelayer⟩ := (newTransport_ok hfront).1 front rfl
  rw [← hservice] at hid
  refine ⟨app, happ, hservice, (front.handle_traced order req s).imp ?_⟩
  rintro past ev ⟨hrelayed, hwritten⟩
  by_cases hcore : ∀ c, ev ≠ .client c
  · obtain ⟨policy, hpolicy, htraced⟩ := hrelayed hcore
    rw [hid, hrelayer] at htraced
    exact caused_of_traced h hcolon hissued happ hpolicy hcore htraced
  · push Not at hcore
    obtain ⟨c, rfl⟩ := hcore
    cases c with
    | write body err => exact hwritten _ body rfl rfl
    | _ => trivial

end Carried

/-! ### WebSockets -/

section Bridges

variable (wiring : Wiring cfg ω) (o : Outside ω) (app : ResolvedApp) (rpcType : RPCType)
  (order : String → RangeOrder) (req : Handshake (AllCaches × ω))

/-- The bridge is pinned to a session billed to the app and to a supplier of that session that
both the operator and the handshake permit, and its handshake says whom to bill. -/
structure Pinned (prepared : Prepared (AllCaches × ω)) : Prop where
  fetched : ∃ s s', o.sessions app.serviceID s = (.ok prepared.session, s')
  serviceID : prepared.session.serviceID = app.serviceID
  appAddr : prepared.session.appAddr = app.addr
  chosen : ∃ ep ∈ prepared.session.endpoints, ep.supplier = prepared.supplier ∧
    ep.url rpcType = some prepared.endpointURL ∧
    app.suppliers.permitsEndpoint ep rpcType = true ∧
    ∃ policy, (takeSupplierPolicy order req.header).2 = .ok policy ∧
      policy.permitsEndpoint ep rpcType = true
  named : prepared.headers.lookup headerTargetServiceID = some [app.serviceID] ∧
    prepared.headers.lookup headerAppAddress = some [app.addr]

omit [GoLib] in
/-- What has passed the open bridge: the supplier has the client's first frames, each signed
with the app's key, and the client has what the supplier's first frames contain, each checked
as that supplier's. -/
structure Conveyed (prepared : Prepared (AllCaches × ω)) (st : Websockets.State (AllCaches × ω)) :
    Prop where
  sent : ∃ done, done <+: st.read .client ∧ List.Forall₂
    (fun f g ↦ g.messageType = f.messageType ∧
      SignedAs wiring.core.fullNode app.signer prepared.session prepared.supplier f.data g.data)
    done (st.conn .endpoint).accepted
  received : ∃ done, done <+: st.read .endpoint ∧
    List.Forall₂ (Verified o.validator prepared.supplier) done (st.conn .client).accepted

end Bridges

section Conveyed

variable {newFullNode : String → Bool → String → Except Err (Chain ω)} {draw : Draws} {w₀ : ω}
  {wiring : Wiring cfg ω} {o : Outside ω} {app : ResolvedApp}

private theorem pinned_of_prepare (h : wire newFullNode draw cfg w₀ = .ok wiring)
    (hcolon : ∀ app ∈ wiring.apps, ':' ∉ app.addr.toList)
    (hissued : ∀ serviceID s session s', o.sessions serviceID s = (.ok session, s') →
      wiring.sessions.Issued serviceID session)
    (happ : app ∈ wiring.apps) {order : String → RangeOrder} {req : Handshake (AllCaches × ω)}
    {rpcType : RPCType} {policy : Domain.SupplierPolicy}
    (hpolicy : (takeSupplierPolicy order req.header).2 = .ok policy)
    {prepared : Prepared (AllCaches × ω)} {s s' : AllCaches × ω}
    (hprep : (wiring.bridge o).prepare (withSupplierPolicy {} policy) app.serviceID rpcType s =
      (.ok prepared, s')) :
    Pinned o app rpcType order req prepared ∧
      prepared.processor = ⟨(wiring.bridge o).signer, (wiring.bridge o).validator, prepared.session,
        prepared.supplier, true⟩ := by
  obtain ⟨session, s₁, ordered, ep, url, hfetch, hselect, hfirst, rfl⟩ := Bridge.prepare_ok hprep
  obtain ⟨hid, haddr⟩ := issued_app h hcolon happ (hissued _ _ _ _ hfetch)
  obtain ⟨hep, hurl⟩ := Bridge.firstWithURL_some hfirst
  obtain ⟨hmem, hoperator, hrequest⟩ := select_permitted hselect hep
  rw [(wire_app h happ).2] at hoperator
  refine ⟨⟨⟨s, s₁, hfetch⟩, hid, haddr, ?_, rfl, ?_⟩, rfl⟩
  · exact ⟨ep, hmem, rfl, hurl, hoperator, policy, hpolicy, hrequest⟩
  · rw [← haddr]
    rfl

private theorem conveyed_of_run (h : wire newFullNode draw cfg w₀ = .ok wiring)
    (happ : app ∈ wiring.apps) {prepared : Prepared (AllCaches × ω)}
    (hbilled : prepared.session.appAddr = app.addr)
    (hprocessor : prepared.processor = ⟨(wiring.bridge o).signer, (wiring.bridge o).validator,
      prepared.session, prepared.supplier, true⟩) {w : AllCaches × ω}
    {actions : List (Action (AllCaches × ω))} {st : Websockets.State (AllCaches × ω)}
    (hrun : runAll (step prepared.processor) { world := w } actions = some st) :
    Conveyed wiring o app prepared st := by
  constructor
  · obtain ⟨done, hdone, himages⟩ := images_of_run hrun .client
    refine ⟨done, hdone, himages.imp ?_⟩
    rintro f g ⟨htype, w', hg⟩
    simp only [hprocessor, Wiring.bridge, MultiSigner.signFrame, signerFor_app h happ hbilled,
      withCaches] at hg
    exact ⟨htype, signFrame_ok hg⟩
  · obtain ⟨done, hdone, himages⟩ := images_of_run hrun .endpoint
    refine ⟨done, hdone, himages.imp ?_⟩
    rintro f g ⟨htype, w', hg⟩
    simp only [hprocessor, Wiring.bridge] at hg
    obtain ⟨w'', resp, hresp, hpayload⟩ := Validator.validateFrame_ok hg
    exact ⟨htype, w', w'', resp, hresp, hpayload⟩

/-- Whatever a handshake asks of a listener and however the goroutines of its bridge are
scheduled: no supplier is contacted, or one bridge is opened, pinned to a session of the app that
serves the listener and to a supplier that the operator and the handshake permit; that supplier
alone is dialled, it accepts the client's first frames signed with the app's key, and the client
accepts what its own first frames contain, each checked as that supplier's. -/
theorem bridges_carried {π : Type} (h : wire newFullNode draw cfg w₀ = .ok wiring)
    (hcolon : ∀ app ∈ wiring.apps, ':' ∉ app.addr.toList)
    (hissued : ∀ serviceID s session s', o.sessions serviceID s = (.ok session, s') →
      wiring.sessions.Issued serviceID session)
    {l : Listener} (hl : l ∈ wiring.listeners) {opts : Options (AllCaches × ω)}
    {ws : WS (AllCaches × ω)} (hws : wiring.newTransport o opts l = .ok (.inr ws))
    (order : String → RangeOrder) (req : Handshake (AllCaches × ω))
    (schedule : List (Action (AllCaches × ω))) (s : AllCaches × ω)
    {es : List (WSEvent (AllCaches × ω))}
    (hes : (ws.handle order req schedule : Exec π _ _ Unit).events s = es) :
    ∃ app ∈ wiring.apps, app.serviceID = l.serviceID ∧
      ((∀ e ∈ es, ¬ e.IsContact) ∨ ∃ prepared st, ws.Opened order req es prepared st ∧
        Pinned o app ws.rpcType order req prepared ∧ Conveyed wiring o app prepared st) := by
  subst hes
  obtain ⟨app, happ, hservice⟩ := listener_app h hl
  obtain ⟨hid, hcore⟩ := (newTransport_ok hws).2 ws rfl
  rw [← hservice] at hid
  refine ⟨app, happ, hservice, (ws.handle_opened order req schedule s).imp_right ?_⟩
  rintro ⟨prepared, st, hopened⟩
  obtain ⟨⟨policy, s₁, s₂, hpolicy, hprep⟩, -, w, hrun⟩ := id hopened
  rw [hcore, hid] at hprep
  obtain ⟨hpinned, hprocessor⟩ := pinned_of_prepare h hcolon hissued happ hpolicy hprep
  exact ⟨prepared, st, hopened, hpinned,
    conveyed_of_run h happ hpinned.appAddr hprocessor hrun⟩

end Conveyed

end Fronts

/-! ### One request, one bridge -/

section OneRequest

@[reducible]
local instance frontShannon : Shannon := Shannon.plain

@[reducible]
local instance frontGoLib : GoLib := GoLib.plain

/-- One service has a session; suppliers send back what they are sent. -/
def echoing : Outside Unit where
  sessions serviceID := polyRelayer.sessions serviceID
  validator := ⟨fun _ bz w ↦ (.ok ⟨bz, none⟩, w), fun bz ↦ .ok ⟨.ofNat 200, [], bz⟩⟩
  stats _ _ w := w
  sender := ⟨⟨fun _ ↦ none, fun req w ↦ (.ok ⟨bytesReader req.body, [], 200⟩, w),
    fun req w ↦ (.ok ⟨bytesReader req.body, [], 200⟩, w)⟩, none⟩
  draw i := ⟨0, Nat.succ_pos i⟩

/-- A session the manager has returned for the one service that has any. -/
private theorem issued_poly {known session : Session} {calls : List SessionManager.Action} {i : Nat}
    (hcalls : ∃ s, runAll (SessionManager.step twoManager) SessionManager.start calls = some s ∧
      s.calls i = .returned "poly" (.ok known))
    {serviceID : ServiceID} {w w' : AllCaches × Unit}
    (h : ((if serviceID = "poly" then .ok known else .error (.text "down") : Except Err Session),
      w) = (.ok session, w')) : twoManager.Issued serviceID session := by
  obtain ⟨s, hs, hret⟩ := hcalls
  by_cases hp : serviceID = "poly"
  · subst hp
    cases h
    exact ⟨calls, s, i, hs, hret⟩
  · simp [hp] at h

/-- Options under which every write succeeds. -/
def plainOptions : Options (AllCaches × Unit) := ⟨[], [], none, fun _ w ↦ (none, w), true⟩

/-- A listener for one of the two services. -/
def polyListener : Listener := ⟨"127.0.0.1:8546", "poly", "json_rpc"⟩

/-- A request of a native client to a wired listener is answered by its service's supplier. -/
theorem requests_carried_poly : ∃ wiring front,
    wire (fun _ _ _ ↦ .ok halfChain) (fun _ ↦ 0) twoKeys () = .ok wiring ∧
      wiring.newTransport echoing plainOptions polyListener = .ok (.inl front) ∧
      (HTTP.coreCalls ((front.handle (fun _ ↦ .listed) nativePost).events noCaches)).filterMap
        written? = [[123, 125]] ∧
      ∃ app ∈ wiring.apps, app.serviceID = "poly" ∧
        Throughout (Caused wiring echoing app front.rpcType (fun _ ↦ .listed) nativePost noCaches)
          (HTTP.coreCalls ((front.handle (fun _ ↦ .listed) nativePost).events noCaches)) := by
  have hrun : ∃ wiring, wire (fun _ _ _ ↦ .ok halfChain) (fun _ ↦ 0) twoKeys () = .ok wiring ∧
      (∀ app ∈ wiring.apps, ':' ∉ app.addr.toList) ∧ polyListener ∈ wiring.listeners ∧
      wiring.sessions = twoManager ∧
      ∃ front, wiring.newTransport echoing plainOptions polyListener = .ok (.inl front) ∧
        (HTTP.coreCalls ((front.handle (fun _ ↦ .listed) nativePost).events noCaches)).filterMap
          written? = [[123, 125]] :=
    ⟨_, rfl, by decide +kernel, by decide +kernel, rfl, _, rfl, by decide +kernel⟩
  obtain ⟨wiring, hwire, hcolon, hl, hsessions, front, hfront, hwritten⟩ := hrun
  refine ⟨wiring, front, hwire, hfront, hwritten,
    requests_carried hwire hcolon ?_ hl hfront (fun _ ↦ .listed) nativePost noCaches⟩
  intro serviceID w session w' hf
  have hcalls : ∃ s, runAll (SessionManager.step twoManager) SessionManager.start threeCalls =
      some s ∧ s.calls 2 = .returned "poly" (.ok polySession) := ⟨_, rfl, rfl⟩
  rw [hsessions]
  exact issued_poly hcalls hf

/-- The same for bridges. -/
def socketListener : Listener := ⟨"127.0.0.1:8546", "poly", "websocket"⟩

/-- Both apps, and one listener for WebSockets. -/
def socketKeys : Config := { twoKeys with listeners := [socketListener] }

/-- A session whose supplier takes bridges. -/
def socketRaw : RawSession := ⟨"session", some polyHeader, some [[⟨"supplier", 2, "ws://s"⟩]]⟩

/-- The session as the relay core sees it. -/
def socketSession : Session := toDomainSession "poly" polySigner.appAddr socketRaw polyHeader

/-- The calls that fetched it. -/
def socketCalls : List SessionManager.Action :=
  [.call 0 "poly", .load 0, .answer 0 (.ok socketRaw), .store 0]

/-- As `echoing`, with a supplier that has WebSockets. -/
def socketed : Outside Unit :=
  { echoing with
    sessions := fun serviceID w ↦
      (if serviceID = "poly" then .ok socketSession else .error (.text "down"), w) }

/-- A handshake of the same client. -/
def socketHandshake : Handshake (AllCaches × Unit) where
  host := "localhost:8546"
  header := [("x-pocket-deny-suppliers", ["pokt1b, pokt1c"])]
  upgrade w := (.ok (), w)
  parseURL url := .ok url
  dial _ _ w := (.ok (), w)

/-- A bridge of a wired listener carries a question and its answer. -/
theorem bridges_carried_poly : ∃ wiring ws es,
    wire (fun _ _ _ ↦ .ok halfChain) (fun _ ↦ 0) socketKeys () = .ok wiring ∧
      wiring.newTransport socketed plainOptions socketListener = .ok (.inr ws) ∧
      (ws.handle (fun _ ↦ .listed) socketHandshake askAndAnswer : Exec Empty _ _ Unit).events
        noCaches = es ∧
      (es.filterMap WSEvent.action?).length = askAndAnswer.length ∧
      ∃ app ∈ wiring.apps, app.serviceID = "poly" ∧
        ((∀ e ∈ es, ¬ e.IsContact) ∨ ∃ prepared st,
          ws.Opened (fun _ ↦ .listed) socketHandshake es prepared st ∧
          Pinned socketed app ws.rpcType (fun _ ↦ .listed) socketHandshake prepared ∧
          Conveyed wiring socketed app prepared st) := by
  have hrun : ∃ wiring, wire (fun _ _ _ ↦ .ok halfChain) (fun _ ↦ 0) socketKeys () = .ok wiring ∧
      (∀ app ∈ wiring.apps, ':' ∉ app.addr.toList) ∧ socketListener ∈ wiring.listeners ∧
      wiring.sessions = twoManager ∧
      ∃ ws, wiring.newTransport socketed plainOptions socketListener = .ok (.inr ws) ∧
        (((ws.handle (fun _ ↦ .listed) socketHandshake askAndAnswer :
          Exec Empty _ _ Unit).events noCaches).filterMap WSEvent.action?).length =
            askAndAnswer.length :=
    ⟨_, rfl, by decide +kernel, by decide +kernel, rfl, _, rfl, by decide +kernel⟩
  obtain ⟨wiring, hwire, hcolon, hl, hsessions, ws, hws, hactions⟩ := hrun
  refine ⟨wiring, ws, _, hwire, hws, rfl, hactions,
    bridges_carried hwire hcolon ?_ hl hws (fun _ ↦ .listed) socketHandshake askAndAnswer noCaches
      rfl⟩
  intro serviceID w session w' hf
  have hcalls : ∃ s, runAll (SessionManager.step twoManager) SessionManager.start socketCalls =
      some s ∧ s.calls 0 = .returned "poly" (.ok socketSession) := ⟨_, rfl, rfl⟩
  rw [hsessions]
  exact issued_poly hcalls hf

end OneRequest

end PocketAp.Cmd
