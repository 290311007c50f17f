import PocketAp.Transport.Handle

/-!
# The WebSocket listener

`src/transport/ws.go:119–190`. A handshake takes a connection slot, looks up a session and a
supplier, and only then are the client upgraded and the supplier dialled. Once a bridge is
open its goroutines run as the machine of `Websockets.Bridge`, on a schedule that is an input;
every frame is signed there.
-/

namespace PocketAp.Transport

open PocketAp.Base PocketAp.Domain PocketAp.Relay PocketAp.Websockets

/-- What a handler sees of the connection limiter. `src/websockets/limiter.go:31–34`. -/
structure Limiter (σ : Type) where
  acquire : Seam σ Bool
  release : σ → σ

/-- Calls of the handler. -/
inductive WSEvent (σ : Type) where
  | answer (text : String) (code : Int)
  | acquire (granted : Bool)
  | release
  | prepare (ctx : Context) (serviceID : ServiceID) (rpcType : RPCType)
  | handshake (e : HandshakeEvent)
  | bridge (a : Action σ)

/-- A listener; without a limiter there is no cap. `src/transport/ws.go:28–49`. -/
structure WS (σ : Type) where
  serviceID : ServiceID
  rpcType : RPCType
  core : Relay.Bridge σ
  policy : OriginPolicy
  hosts : HostPolicy
  limiter : Option (Limiter σ)

/-- A handshake as it reaches the handler. -/
structure Handshake (σ : Type) where
  host : String
  header : Header
  /-- `websocket.Upgrader.Upgrade` of this request. -/
  upgrade : Seam σ (Except Err Unit)
  parseURL : String → Except Err String
  dial : String → Header → Seam σ (Except Err Unit)

/-- The sockets of a handshake. -/
def Handshake.sockets {σ : Type} (req : Handshake σ) : Sockets σ :=
  ⟨headerGet req.header "Origin", req.upgrade, req.parseURL, req.dial⟩

section Live

variable {σ : Type} (p : FrameProcessor σ)

/-- The part of a schedule that can happen, and the state after it. -/
def runBridge : Websockets.State σ → List (Action σ) → List (Action σ) × Websockets.State σ
  | s, [] => ([], s)
  | s, a :: as =>
    match step p s a with
    | none => ([], s)
    | some s' => (a :: (runBridge s' as).1, (runBridge s' as).2)

end Live

namespace WS

variable {π σ : Type} [GoLib] (ws : WS σ)

/-- `src/websockets/limiter.go:50–67`; a nil limiter always grants. -/
def acquire : Exec π σ (WSEvent σ) Bool :=
  match ws.limiter with
  | none => do
    Exec.emit (.acquire true)
    pure true
  | some l => Exec.call l.acquire .acquire

/-- `src/websockets/limiter.go:71–76`. -/
def release (s : σ) : σ :=
  match ws.limiter with
  | none => s
  | some l => l.release s

/-- The life of an open bridge. `src/transport/ws.go:182–189`. -/
def live (prepared : Prepared σ) (schedule : List (Action σ)) : Exec π σ (WSEvent σ) Unit :=
  fun w ↦
    let run := runBridge prepared.processor { world := w } schedule
    (run.1.map .bridge, run.2.world, .ok ())

/-- With a slot taken. `src/transport/ws.go:146–189`. -/
def connect (order : String → RangeOrder) (req : Handshake σ) (schedule : List (Action σ)) :
    Exec π σ (WSEvent σ) Unit :=
  match (takeSupplierPolicy order req.header).2 with
  | .error e => Exec.emit (.answer ("invalid supplier header: " ++ e.message) 400)
  | .ok suppliers => do
    let ctx := withSupplierPolicy {} suppliers
    match ← Exec.call (ws.core.prepare ctx ws.serviceID ws.rpcType)
      (fun _ ↦ .prepare ctx ws.serviceID ws.rpcType) with
    | .error e => Exec.emit (.answer ("relay unavailable: " ++ e.message) 502)
    | .ok prepared =>
      match ← Exec.mapEvents .handshake
        (startBridge ws.policy req.sockets prepared.endpointURL prepared.headers) with
      | .error _ => pure ()
      | .ok () => live prepared schedule

/-- `src/transport/ws.go:119–190`. -/
def handle (order : String → RangeOrder) (req : Handshake σ) (schedule : List (Action σ)) :
    Exec π σ (WSEvent σ) Unit :=
  if !ws.hosts.allows req.host then Exec.emit (.answer "host not allowed" 403)
  else do
    if ← ws.acquire then
      Exec.deferring ws.release .release (ws.connect order req schedule)
    else Exec.emit (.answer "too many websocket connections" 503)

/-! ### What a handshake can do -/

/-- With a slot taken: refuse the lists, or prepare a bridge and then either fail before the
client is upgraded, or upgrade it from an allowed origin. -/
inductive ConnectRun (order : String → RangeOrder) (req : Handshake σ)
    (run : List (WSEvent σ) × σ × Except π Unit) : Prop where
  | malformed (text : String) (code : Int) (s' : σ) (run_eq : run = ([.answer text code], s', .ok ()))
  | prepared (lists : ListsValid req.header) (ctx : Context) (es : List (WSEvent σ)) (s' : σ)
      (quiet : ∀ e ∈ es, (∃ text code, e = .answer text code) ∨
        (∃ text code, e = .handshake (.answer text code)) ∨
        ∃ err, e = .handshake (.upgrade (.error err)))
      (run_eq : run = (.prepare ctx ws.serviceID ws.rpcType :: es, s', .ok ()))
  | upgraded (lists : ListsValid req.header) (ctx : Context) (es : List (WSEvent σ)) (s' : σ)
      (origin : ws.policy.allows (headerGet req.header "Origin") = true)
      (run_eq : run = (.prepare ctx ws.serviceID ws.rpcType ::
        .handshake (.upgrade (.ok ())) :: es, s', .ok ()))

/-- What a handshake with a slot can do. -/
theorem connect_run (order : String → RangeOrder) (req : Handshake σ) (schedule : List (Action σ))
    (s : σ) : ConnectRun ws order req
      ((ws.connect order req schedule : Exec π σ (WSEvent σ) Unit) s) := by
  unfold connect
  rcases hp : (takeSupplierPolicy order req.header).2 with e | suppliers
  · exact .malformed _ _ _ rfl
  · have hlists := (takeSupplierPolicy_ok_iff order req.header).mp ⟨suppliers, hp⟩
    simp only
    rcases hprep : ws.core.prepare (withSupplierPolicy {} suppliers) ws.serviceID ws.rpcType s with
      ⟨e | prepared, s₁⟩
    · rw [Exec.bind_run_ok (Exec.call_run hprep _)]
      exact .prepared hlists _ [_] _ (by simp) rfl
    · rw [Exec.bind_run_ok (Exec.call_run hprep _)]
      simp only
      have hstart := @startBridge_run π σ _ ws.policy req.sockets prepared.endpointURL
        prepared.headers s₁
      cases hstart with
      | rejected text code s' e run_eq =>
        rw [Exec.bind_run_ok (Exec.mapEvents_run run_eq _)]
        exact .prepared hlists _ [_] _ (by simp) rfl
      | notUpgraded e e' s' run_eq =>
        rw [Exec.bind_run_ok (Exec.mapEvents_run run_eq _)]
        exact .prepared hlists _ [_] _ (by simp) rfl
      | upgraded allowed es s' result run_eq =>
        rw [Exec.bind_run_ok (Exec.mapEvents_run run_eq _)]
        rcases result with e | ⟨⟩
        · exact .upgraded hlists _ _ _ allowed rfl
        · exact .upgraded hlists _ _ _ allowed rfl

/-- A handshake is answered at once, or it asks for a slot; with the slot it connects and gives
the slot back. -/
inductive HandleRun (order : String → RangeOrder) (req : Handshake σ)
    (run : List (WSEvent σ) × σ × Except π Unit) : Prop where
  | unknownHost (text : String) (code : Int) (s' : σ)
      (run_eq : run = ([.answer text code], s', .ok ()))
  | full (text : String) (code : Int) (s' : σ)
      (run_eq : run = ([.acquire false, .answer text code], s', .ok ()))
  | granted (host : ws.hosts.allows req.host = true) (inner : List (WSEvent σ) × σ × Except π Unit)
      (connect : ConnectRun ws order req inner)
      (run_eq : run = (.acquire true :: (inner.1 ++ [.release]), ws.release inner.2.1, inner.2.2))

omit [GoLib] in
/-- Asking for a slot is one call. -/
theorem acquire_run (s : σ) : ∃ granted s',
    (ws.acquire : Exec π σ (WSEvent σ) Bool) s = ([.acquire granted], s', .ok granted) := by
  unfold acquire
  cases ws.limiter with
  | none => exact ⟨true, s, rfl⟩
  | some l => exact ⟨(l.acquire s).1, (l.acquire s).2, rfl⟩

/-- What a handshake can do. -/
theorem handle_run (order : String → RangeOrder) (req : Handshake σ) (schedule : List (Action σ))
    (s : σ) : HandleRun ws order req
      ((ws.handle order req schedule : Exec π σ (WSEvent σ) Unit) s) := by
  unfold handle
  by_cases hhost : ws.hosts.allows req.host = true
  · simp only [hhost, Bool.not_true, Bool.false_eq_true, if_false]
    obtain ⟨granted, s₁, ha⟩ := @acquire_run π σ ws s
    rw [Exec.bind_run_ok ha]
    cases granted with
    | false => exact .full _ _ _ rfl
    | true => exact .granted hhost _ (ws.connect_run order req schedule s₁) rfl
  · simp only [hhost, Bool.not_false, if_true]
    exact .unknownHost _ _ _ rfl

end WS

/-! ### Both listeners -/

/-- Session lookup and supplier choice. -/
def WSEvent.IsLookup {σ : Type} (e : WSEvent σ) : Prop :=
  ∃ ctx serviceID rpcType, e = .prepare ctx serviceID rpcType

/-- A supplier is dialled, or an open bridge is at work. -/
def WSEvent.IsContact {σ : Type} (e : WSEvent σ) : Prop :=
  (∃ url header result, e = .handshake (.dial url header result)) ∨ ∃ a, e = .bridge a

section Gates

variable {π σ : Type} [GoLib]

private theorem connect_gates {ws : WS σ} {order : String → RangeOrder} {req : Handshake σ}
    {run : List (WSEvent σ) × σ × Except π Unit} (h : WS.ConnectRun ws order req run)
    {pre post : List (WSEvent σ)} {e : WSEvent σ} (he : run.1 ++ [.release] = pre ++ e :: post) :
    (e.IsLookup → ListsValid req.header) ∧
      (e.IsContact → ListsValid req.header ∧
        ws.policy.allows (headerGet req.header "Origin") = true ∧
        .handshake (.upgrade (.ok ())) ∈ pre) := by
  have hmem : e ∈ run.1 ++ [.release] := he ▸ List.mem_append_right pre List.mem_cons_self
  cases h with
  | malformed text code s' run_eq =>
    subst run_eq
    simp only [List.cons_append, List.nil_append, List.mem_cons, List.not_mem_nil,
      or_false] at hmem
    constructor
    · rintro ⟨ctx, serviceID, rpcType, rfl⟩
      simp at hmem
    · rintro (⟨url, header, result, rfl⟩ | ⟨a, rfl⟩) <;> simp at hmem
  | prepared lists ctx es s' quiet run_eq =>
    refine ⟨fun _ ↦ lists, fun hc ↦ ?_⟩
    subst run_eq
    have hes : e ∈ es := by
      rcases hc with ⟨url, header, result, rfl⟩ | ⟨a, rfl⟩ <;> simpa using hmem
    rcases hc with ⟨url, header, result, rfl⟩ | ⟨a, rfl⟩ <;> simpa using quiet _ hes
  | upgraded lists ctx es s' origin run_eq =>
    refine ⟨fun _ ↦ lists, fun hc ↦ ⟨lists, origin, ?_⟩⟩
    subst run_eq
    have hsplit : [WSEvent.prepare ctx ws.serviceID ws.rpcType,
        WSEvent.handshake (.upgrade (.ok ()))] ++ (es ++ [.release]) = pre ++ e :: post := he
    obtain ⟨l, rfl, -⟩ := exists_of_append_eq_append_cons hsplit (by
      rcases hc with ⟨url, header, result, rfl⟩ | ⟨a, rfl⟩ <;> simp)
    simp

/-- What a listener does before its gates are passed costs nothing, and what passes them is
carried as it stands. A request enters the relay core once if it may be relayed and is answered
by the handler alone if not. A handshake looks up a session only with an allowed host, a slot
and valid lists, and contacts a supplier only after the client was upgraded as well. -/
theorem refused_spends_nothing (h : HTTP σ) (ws : WS σ) (order : String → RangeOrder) :
    (∀ req s,
      (h.Admits req → ∃ ctx, ((h.handle order req).events s).filter HTTP.isEnter =
        [.enter ctx h.serviceID h.rpcType ⟨req.request.method, req.url.requestURI,
          stripRouting req.request.header, req.body.bytes⟩]) ∧
      (¬h.Admits req → ∃ es : List ClientEvent,
        h.handle order req s = (es.map .answer, s, .ok ()))) ∧
    ∀ req schedule s pre e post,
      (ws.handle order req schedule : Exec π σ _ _).events s = pre ++ e :: post →
      (e.IsLookup → ws.hosts.allows req.host = true ∧ .acquire true ∈ pre ∧
        ListsValid req.header) ∧
      (e.IsContact → ws.hosts.allows req.host = true ∧ .acquire true ∈ pre ∧
        ListsValid req.header ∧ ws.policy.allows (headerGet req.header "Origin") = true ∧
        .handshake (.upgrade (.ok ())) ∈ pre) := by
  constructor
  · intro req s
    refine ⟨fun hreq ↦ ?_, fun hreq ↦ h.handle_of_not_admits order hreq s⟩
    obtain ⟨p, -, hserve⟩ := h.handle_of_admits order hreq
    rw [hserve]
    exact ⟨_, h.serve_enters ..⟩
  · intro req schedule s pre e post he
    have hrun := @WS.handle_run π σ _ ws order req schedule s
    unfold Exec.events at he
    have hmem : e ∈ (ws.handle order req schedule s : _ × σ × Except π Unit).1 :=
      he ▸ List.mem_append_right pre List.mem_cons_self
    cases hrun with
    | unknownHost text code s' run_eq =>
      rw [run_eq] at hmem
      constructor
      · rintro ⟨ctx, serviceID, rpcType, rfl⟩
        simp at hmem
      · rintro (⟨url, header, result, rfl⟩ | ⟨a, rfl⟩) <;> simp at hmem
    | full text code s' run_eq =>
      rw [run_eq] at hmem
      constructor
      · rintro ⟨ctx, serviceID, rpcType, rfl⟩
        simp at hmem
      · rintro (⟨url, header, result, rfl⟩ | ⟨a, rfl⟩) <;> simp at hmem
    | granted host inner hconnect run_eq =>
      rw [run_eq] at he
      have hslot (hne : e ≠ .acquire true) : ∃ l, pre = [.acquire true] ++ l ∧
          inner.1 ++ [.release] = l ++ e :: post :=
        exists_of_append_eq_append_cons he (by simpa using hne)
      constructor
      · intro hl
        obtain ⟨l, rfl, hin⟩ := hslot (by rcases hl with ⟨_, _, _, rfl⟩; nofun)
        exact ⟨host, by simp, (connect_gates hconnect hin).1 hl⟩
      · intro hc
        obtain ⟨l, rfl, hin⟩ := hslot (by rcases hc with ⟨_, _, _, rfl⟩ | ⟨_, rfl⟩ <;> nofun)
        obtain ⟨hlists, horigin, hup⟩ := (connect_gates hconnect hin).2 hc
        exact ⟨host, by simp, hlists, horigin, List.mem_append_right _ hup⟩

end Gates

section Closed

/-- A listener on loopback that knows one supplier. -/
def loopback : HTTP Unit where
  serviceID := "eth"
  rpcType := .jsonRPC
  relayer := .scripted [⟨"pokt1a", fun _ ↦ some "http://a"⟩] fun _ ↦ .error (.text "down")
  stream := false
  policy := ⟨[]⟩
  hosts := ⟨[], "127.0.0.1:8545"⟩
  write _ := fun s ↦ (none, s)
  canFlush := false

/-- A listener for bridges with one free slot. -/
def oneSlot : WS Unit where
  serviceID := "eth"
  rpcType := .webSocket
  core := ⟨loopback.relayer.sessions, fun _ _ _ s ↦ (.ok [], s), fun _ _ s ↦ (.ok [], s),
    loopback.relayer.selector, none⟩
  policy := ⟨[]⟩
  hosts := ⟨[], "127.0.0.1:8546"⟩
  limiter := some ⟨fun s ↦ (true, s), id⟩

/-- A request of a native client that refuses a supplier. -/
def nativePost : Inbound where
  request := ⟨"POST", [("Accept", ["*/*"]), ("x-pocket-deny-suppliers", ["pokt1b, pokt1c"])]⟩
  host := "localhost:8545"
  url := { escapedPath := "/v1", rawQuery := "x=1" }
  body := ⟨[123, 125], none⟩

/-- A handshake of the same client; the upgrade and the dial succeed. -/
def nativeHandshake : Handshake Unit where
  host := "localhost:8546"
  header := nativePost.request.header
  upgrade := fun s ↦ (.ok (), s)
  parseURL := .ok
  dial _ _ := fun s ↦ (.ok (), s)

/-- A request that enters the core once, and a handshake that passes every gate before the supplier
is dialled. -/
theorem refused_spends_nothing_nativePost :
    let _ : GoLib := GoLib.plain
    (∃ ctx, ((loopback.handle (fun _ ↦ .listed) nativePost).events ()).filter HTTP.isEnter =
      [.enter ctx "eth" .jsonRPC ⟨"POST", "/v1?x=1", [("Accept", ["*/*"])], [123, 125]⟩]) ∧
    ∃ (pre : List (WSEvent Unit)) (header : Header),
      (oneSlot.handle (fun _ ↦ .listed) nativeHandshake [] : Exec Empty Unit _ _).events () =
        pre ++ [.handshake (.dial "http://a" header (.ok ())), .release] ∧
      oneSlot.hosts.allows "localhost:8546" = true ∧ .acquire true ∈ pre ∧
      ListsValid nativeHandshake.header ∧ .handshake (.upgrade (.ok ())) ∈ pre := by
  let _ : GoLib := GoLib.plain
  have hlists : ListsValid nativePost.request.header :=
    (takeSupplierPolicy_ok_iff (fun _ ↦ .listed) nativePost.request.header).mp
      ⟨{ deny := ["pokt1b", "pokt1c"] }, by decide +kernel⟩
  have hstrip : stripRouting nativePost.request.header = [("Accept", ["*/*"])] := by
    decide +kernel
  have hdialled : ∃ (pre : List (WSEvent Unit)) (header : Header),
      (oneSlot.handle (fun _ ↦ .listed) nativeHandshake [] : Exec Empty Unit _ _).events () =
        pre ++ [.handshake (.dial "http://a" header (.ok ())), .release] :=
    ⟨[_, _, _], _, rfl⟩
  obtain ⟨pre, header, hpre⟩ := hdialled
  obtain ⟨hhttp, hws⟩ := @refused_spends_nothing Empty Unit _ loopback oneSlot fun _ ↦ .listed
  have henter := (hhttp nativePost ()).1
    ⟨by decide +kernel, by decide +kernel, by decide +kernel, by decide +kernel, hlists⟩
  rw [hstrip] at henter
  obtain ⟨hhost, hslot, hvalid, -, hup⟩ :=
    (hws nativeHandshake [] () pre _ _ hpre).2 (.inl ⟨_, _, _, rfl⟩)
  exact ⟨henter, pre, header, hpre, hhost, hslot, hvalid, hup⟩

end Closed

end PocketAp.Transport
