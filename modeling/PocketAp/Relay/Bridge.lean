import PocketAp.Relay.Relay

/-!
# Preparing a bridge

`src/relay/bridge.go`. A bridge is pinned to one session and one supplier when it is
prepared; its processor signs and validates frames for these two and nothing else.
-/

namespace PocketAp.Relay

open PocketAp.Base PocketAp.Domain

/-- `src/relay/bridge.go:18–22`. -/
def headerTargetServiceID : String := "Target-Service-Id"

/-- `App-Address`. -/
def headerAppAddress : String := "App-Address"

/-- `Rpc-Type`. -/
def headerRPCType : String := "Rpc-Type"

/-- Signs and validates the frames of one bridge. `src/relay/bridge.go:148–161`. -/
structure FrameProcessor (σ : Type) where
  signer : Session → EndpointAddr → Bytes → Seam σ (Except Err Bytes)
  validator : EndpointAddr → Bytes → Seam σ (Except Err Bytes)
  session : Session
  supplier : EndpointAddr
  active : Bool

namespace FrameProcessor

variable {σ : Type} (p : FrameProcessor σ)

/-- `src/relay/bridge.go:181`. -/
def deactivate : FrameProcessor σ := { p with active := false }

/-- `src/relay/bridge.go:190–195`. -/
def processClientMessage (data : Bytes) : Seam σ (Except Err Bytes) :=
  if !p.active then fun s ↦ (.error (.sentinel .sessionExpired), s)
  else p.signer p.session p.supplier data

/-- `src/relay/bridge.go:202–204`. -/
def processEndpointMessage (data : Bytes) : Seam σ (Except Err Bytes) :=
  p.validator p.supplier data

end FrameProcessor

/-- What a front adapter needs to open a bridge. `src/relay/bridge.go:78–87`. -/
structure Prepared (σ : Type) where
  session : Session
  supplier : EndpointAddr
  endpointURL : String
  headers : Header
  processor : FrameProcessor σ

/-- The seams of a bridge. `src/relay/bridge.go:52–62`. -/
structure Bridge (σ : Type) where
  sessions : ServiceID → Seam σ (Except Err Session)
  signer : Session → EndpointAddr → Bytes → Seam σ (Except Err Bytes)
  validator : EndpointAddr → Bytes → Seam σ (Except Err Bytes)
  selector : Selector σ
  rpcTypeHeader : Option (RPCType → String)

namespace Bridge

variable {σ : Type} (b : Bridge σ)

/-- The handshake's authentication. `src/relay/bridge.go:121–129`. -/
def handshake (serviceID : ServiceID) (rpcType : RPCType) (session : Session) : Header :=
  [(headerTargetServiceID, [serviceID]), (headerAppAddress, [session.appAddr])] ++
    match b.rpcTypeHeader with
    | none => []
    | some f => if f rpcType = "" then [] else [(headerRPCType, [f rpcType])]

/-- The first endpoint with a URL for the type. `src/relay/bridge.go:108–112`. -/
def firstWithURL (rpcType : RPCType) (ordered : List Endpoint) : Option (Endpoint × String) :=
  ordered.findSome? (fun ep ↦ (ep.url rpcType).map (ep, ·))

/-- A bridge pinned to an endpoint. `src/relay/bridge.go:130–136`. -/
def pinned (serviceID : ServiceID) (rpcType : RPCType) (session : Session) (ep : Endpoint)
    (url : String) : Prepared σ :=
  ⟨session, ep.supplier, url, b.handshake serviceID rpcType session,
    ⟨b.signer, b.validator, session, ep.supplier, true⟩⟩

/-- `src/relay/bridge.go:97–140`. -/
def prepare (ctx : Context) (serviceID : ServiceID) (rpcType : RPCType) :
    Seam σ (Except Err (Prepared σ)) := fun s ↦
  match b.sessions serviceID s with
  | (.error e, s₁) =>
    (.error (.errorf ("bridge: session fetch failed for " ++ serviceID ++ ": ") e), s₁)
  | (.ok session, s₁) =>
    match b.selector.select ctx serviceID session.endpoints rpcType s₁ with
    | (.error e, s₂) =>
      (.error (.errorf ("bridge: endpoint selection failed for " ++ serviceID ++ "/" ++
        rpcType.string ++ ": ") e), s₂)
    | (.ok ordered, s₂) =>
      match firstWithURL rpcType ordered with
      | none => (.error errNoEndpoint, s₂)
      | some (ep, url) => (.ok (b.pinned serviceID rpcType session ep url), s₂)

/-- Whom a bridge is pinned to is settled by then; how it was selected leaves no trace. -/
theorem pinned_selector (selector : Selector σ) (serviceID : ServiceID) (rpcType : RPCType)
    (session : Session) (ep : Endpoint) (url : String) :
    { b with selector := selector }.pinned serviceID rpcType session ep url =
      b.pinned serviceID rpcType session ep url := by
  simp only [pinned, handshake]

/-- The endpoint chosen is one of those offered, with a URL for the type. -/
theorem firstWithURL_some {rpcType : RPCType} {ordered : List Endpoint} {ep : Endpoint}
    {url : String} (h : firstWithURL rpcType ordered = some (ep, url)) :
    ep ∈ ordered ∧ ep.url rpcType = some url := by
  obtain ⟨ep', hm, he⟩ := List.exists_of_findSome?_eq_some h
  obtain ⟨url', hu, hp⟩ := Option.map_eq_some_iff.mp he
  cases hp
  exact ⟨hm, hu⟩

/-- More endpoints to fall back on do not change the choice. -/
theorem firstWithURL_append {rpcType : RPCType} {ordered : List Endpoint} {c : Endpoint × String}
    (h : firstWithURL rpcType ordered = some c) (eps : List Endpoint) :
    firstWithURL rpcType (ordered ++ eps) = some c := by
  unfold firstWithURL at h ⊢
  rw [List.findSome?_append, h]
  rfl

variable {b}

/-- A bridge is prepared out of a session that was fetched and a selection from it. -/
theorem prepare_ok {ctx : Context} {serviceID : ServiceID} {rpcType : RPCType} {s s' : σ}
    {prepared : Prepared σ} (h : b.prepare ctx serviceID rpcType s = (.ok prepared, s')) :
    ∃ session s₁ ordered ep url, b.sessions serviceID s = (.ok session, s₁) ∧
      b.selector.select ctx serviceID session.endpoints rpcType s₁ = (.ok ordered, s') ∧
      firstWithURL rpcType ordered = some (ep, url) ∧
      prepared = b.pinned serviceID rpcType session ep url := by
  unfold prepare at h
  rcases hf : b.sessions serviceID s with ⟨e | session, s₁⟩
  · simp [hf] at h
  · rw [hf] at h
    simp only at h
    rcases hs : b.selector.select ctx serviceID session.endpoints rpcType s₁ with
      ⟨e | ordered, s₂⟩
    · simp [hs] at h
    · rw [hs] at h
      simp only at h
      rcases hu : firstWithURL rpcType ordered with _ | ⟨ep, url⟩
      · simp [hu] at h
      · rw [hu] at h
        cases h
        exact ⟨session, s₁, ordered, ep, url, rfl, hs, hu, rfl⟩

/-- A bridge is prepared for the first endpoint with a URL. -/
theorem prepare_of_selected {ctx : Context} {serviceID : ServiceID} {rpcType : RPCType}
    {s s₁ s₂ : σ} {session : Session} {ordered : List Endpoint} {ep : Endpoint} {url : String}
    (hf : b.sessions serviceID s = (.ok session, s₁))
    (hs : b.selector.select ctx serviceID session.endpoints rpcType s₁ = (.ok ordered, s₂))
    (hu : firstWithURL rpcType ordered = some (ep, url)) :
    b.prepare ctx serviceID rpcType s = (.ok (b.pinned serviceID rpcType session ep url), s₂) := by
  simp only [prepare, hf, hs, hu]

end Bridge
end PocketAp.Relay
