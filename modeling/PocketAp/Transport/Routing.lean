import PocketAp.Relay.Bridge
import PocketAp.Relay.Delivery
import PocketAp.Selector.Filter
import PocketAp.Transport.Suppliers

/-!
# Requests only narrow routing

The three ways a request reaches a supplier, from its headers to the calls that sign and
send: `Relay` and `RelayStream` behind `src/transport/http.go:159–180` and `Prepare` behind
`src/transport/ws.go:141–156`, all over the selector of `src/cmd/pocket-ap/main.go:352–355`.
Two runs are compared that differ in the routing headers only.
-/

namespace PocketAp.Transport

open PocketAp.Base PocketAp.Domain PocketAp.Relay PocketAp.Selector

/-- A supplier that is signed for, with the URL it is to be reached at, or a URL handed to
the sender. -/
inductive Contact where
  | signFor (supplier : EndpointAddr) (url : Option String)
  | sendTo (url : String)

/-- Signing and sending are what contacts a supplier. -/
def contact? {γ : Type} : Event γ → Option Contact
  | .sign _ ep rpcType _ _ => some (.signFor ep.supplier (ep.url rpcType))
  | .send url _ _ _ => some (.sendTo url)
  | .sendStream url _ _ _ => some (.sendTo url)
  | _ => none

/-- Contacts made in order. -/
def contacts {γ : Type} (es : List (Event γ)) : List Contact := es.filterMap contact?

/-- A contact with this endpoint. -/
def Contact.With (ep : Endpoint) (rpcType : RPCType) : Contact → Prop
  | .signFor supplier url => supplier = ep.supplier ∧ url = ep.url rpcType
  | .sendTo url => some url = ep.url rpcType

section Paths

variable {π σ γ : Type} [GoLib]

/-- A filter over `Random` as the selector of a relayer or a bridge.
`src/cmd/pocket-ap/main.go:352–355`. -/
def filterSelector (policies : ServiceID → Option SupplierPolicy)
    (observer : Option (EndpointAddr → Outcome → σ → σ)) (draw : Draws) : Relay.Selector σ where
  select ctx serviceID endpoints rpcType := fun s ↦
    (Filter.selected ⟨randomSelect draw, policies⟩ ctx serviceID endpoints rpcType, s)
  observer := observer

/-- A request that is relayed as a whole. `src/transport/http.go:159–180`. -/
def relayRequest (r : Relayer σ) (order : String → RangeOrder) (serviceID : ServiceID)
    (rpcType : RPCType) (input : RelayInput) : Exec π σ (Event γ) (Except Err RelayResult) :=
  match routed order input with
  | .error e => pure (.error e)
  | .ok (ctx, input') => r.relay ctx serviceID rpcType input'

/-- A request that is relayed as a stream. `src/transport/http.go:159–176`. -/
def streamRequest (r : Relayer σ) (order : String → RangeOrder) (serviceID : ServiceID)
    (rpcType : RPCType) (input : RelayInput)
    (onBatch : RelayResult → Exec π σ γ (Except Err Unit)) :
    Exec π σ (Event γ) (Except Err Unit) :=
  match routed order input with
  | .error e => pure (.error e)
  | .ok (ctx, input') => r.relayStream ctx serviceID rpcType input' onBatch

/-- A request that opens a bridge. `src/transport/ws.go:141–156`. -/
def prepareRequest (b : Bridge σ) (order : String → RangeOrder) (serviceID : ServiceID)
    (rpcType : RPCType) (input : RelayInput) : Seam σ (Except Err (Prepared σ)) :=
  match routed order input with
  | .error e => fun s ↦ (.error e, s)
  | .ok (ctx, _) => b.prepare ctx serviceID rpcType

variable (policies : ServiceID → Option SupplierPolicy)
  (observer : Option (EndpointAddr → Outcome → σ → σ)) (serviceID : ServiceID)
  (rpcType : RPCType) (input : RelayInput) (s : σ)

/-- What `Relay` can contact for a request, over all shuffles. -/
def relayReach (r : Relayer σ) : Set Contact :=
  {c | ∃ draw order, c ∈ contacts
    ((relayRequest { r with selector := filterSelector policies observer draw } order serviceID
      rpcType input : Exec Empty σ (Event Empty) _).events s)}

/-- What `RelayStream` can contact for a request, over all shuffles. -/
def streamReach (r : Relayer σ) (onBatch : RelayResult → Exec π σ γ (Except Err Unit)) :
    Set Contact :=
  {c | ∃ draw order, c ∈ contacts
    ((streamRequest { r with selector := filterSelector policies observer draw } order serviceID
      rpcType input onBatch).events s)}

/-- Whom a bridge can be pinned to for a request, over all shuffles. -/
def prepareReach (b : Bridge σ) : Set Contact :=
  {c | ∃ draw order prepared s',
    prepareRequest { b with selector := filterSelector policies observer draw } order serviceID
      rpcType input s = (.ok prepared, s') ∧
    (c = .signFor prepared.processor.supplier (some prepared.endpointURL) ∨
      c = .sendTo prepared.endpointURL)}

end Paths

/-- Endpoints of the session a run fetches. -/
def fetched {σ : Type} (sessions : ServiceID → Seam σ (Except Err Session))
    (serviceID : ServiceID) (s : σ) : List Endpoint :=
  match (sessions serviceID s).1 with
  | .error _ => []
  | .ok session => session.endpoints

/-- A contact with an endpoint of the session that the policy permits. -/
def Contact.Permitted [GoLib] (p : SupplierPolicy) (endpoints : List Endpoint)
    (rpcType : RPCType) (c : Contact) : Prop :=
  ∃ ep ∈ endpoints, p.permitsEndpoint ep rpcType = true ∧ c.With ep rpcType

section Attempts

variable {σ γ : Type} {r : Relayer σ} {serviceID : ServiceID} {rpcType : RPCType}
  {input : RelayInput} {session : Session} {ep : Endpoint}

/-- An attempt contacts its own endpoint. -/
private theorem with_of_ofAttempt {ev : Event γ}
    (h : r.OfAttempt serviceID rpcType input session ep ev) (c : Contact)
    (hc : contact? ev = some c) : c.With ep rpcType := by
  cases ev with
  | sign session' ep' rpcType' input' result =>
    cases hc
    obtain ⟨-, rfl, rfl, -, -⟩ := h
    exact ⟨rfl, rfl⟩
  | send url relayReq rpcType' result =>
    cases hc
    exact h.1.symm
  | sendStream url relayReq rpcType' result =>
    cases hc
    exact h.1.symm
  | _ => cases hc

end Attempts

section Failover

variable {π σ γ ρ : Type} [GoLib] {policies : ServiceID → Option SupplierPolicy}
  {observer : Option (EndpointAddr → Outcome → σ → σ)} {serviceID : ServiceID}
  {rpcType : RPCType} {s : σ}

private theorem filterSelector_ok {ctx : Context} {draw : Draws}
    {endpoints ordered : List Endpoint} {s' : σ} :
    (filterSelector policies observer draw).select ctx serviceID endpoints rpcType s =
        (.ok ordered, s') ↔
      Filter.selected ⟨randomSelect draw, policies⟩ ctx serviceID endpoints rpcType =
        .ok ordered ∧ s = s' := by
  simp only [filterSelector, Prod.mk.injEq]

/-- What was selected belongs to the session and is permitted by the operator. -/
private theorem permitted_of_selected {ctx : Context} {draw : Draws}
    {endpoints ordered : List Endpoint} {ep : Endpoint}
    (h : Filter.selected ⟨randomSelect draw, policies⟩ ctx serviceID endpoints rpcType =
      .ok ordered) (hep : ep ∈ ordered) :
    ep ∈ endpoints ∧ ((policies serviceID).getD {}).permitsEndpoint ep rpcType = true := by
  have hm := (Filter.selected_perm h).mem_iff.mp hep
  rw [Filter.candidates, List.mem_filter, Filter.eligible, Filter.bothPermit, Bool.and_eq_true,
    Bool.and_eq_true] at hm
  exact ⟨hm.1, hm.2.2.1⟩

/-- When every attempt contacts its own endpoint only, the loop stays with the endpoints
the operator permits. -/
private theorem withFailover_permitted (r : Relayer σ) (ctx : Context) (draw : Draws)
    (attempt : Session → Endpoint → Exec π σ (Event γ) (Attempt Err (Except Err ρ)))
    (hatt : ∀ session ep s, ∀ ev ∈ (attempt session ep s).1, ∀ c, contact? ev = some c →
      c.With ep rpcType) :
    ∀ c ∈ contacts (({ r with selector := filterSelector policies observer draw }.withFailover ctx
        serviceID rpcType attempt).events s),
      c.Permitted ((policies serviceID).getD {}) (fetched r.sessions serviceID s) rpcType := by
  intro c hc
  obtain ⟨ev, hev, hcontact⟩ := List.mem_filterMap.mp hc
  unfold Exec.events at hev
  cases Relayer.withFailover_run { r with selector := filterSelector policies observer draw } ctx
    serviceID rpcType attempt s with
  | unavailable e s' kept run_eq =>
    rw [run_eq] at hev
    cases hev
  | tried session ordered s₁ s₂ tries hfetch hselect ne_nil tries_eq run_eq =>
    obtain ⟨hsel, -⟩ := filterSelector_ok.mp hselect
    have hends : fetched r.sessions serviceID s = session.endpoints := by
      simp only [fetched, show r.sessions serviceID s = (.ok session, s₁) from hfetch]
    rw [run_eq, tries_eq] at hev
    rw [hends]
    refine forall_events_tryEach (fun ev ↦ ∀ c, contact? ev = some c →
      c.Permitted ((policies serviceID).getD {}) session.endpoints rpcType) ?_ s₂ none ev hev c
      hcontact
    intro ep hep w ev hev c hc
    obtain ⟨hmem, hperm⟩ := permitted_of_selected hsel (List.mem_of_mem_take hep)
    exact ⟨ep, hmem, hperm, hatt session ep w ev hev c hc⟩

-- An attempt is told which endpoint to try, so how the endpoints were shuffled does not matter.
private theorem relayAttempt_draw {input : RelayInput} (r : Relayer σ) (draw draw' : Draws) :
    ({ r with selector := filterSelector policies observer draw }.relayAttempt serviceID rpcType
        input : Session → Endpoint → Exec π σ (Event γ) _) =
      { r with selector := filterSelector policies observer draw' }.relayAttempt serviceID rpcType
        input := by
  funext session ep
  simp only [Relayer.relayAttempt, Relayer.signRelay, Relayer.send, Relayer.validateResponse,
    Relayer.observe, filterSelector]

private theorem streamAttempt_draw {input : RelayInput}
    {sendStream : String → Bytes → RPCType → Seam σ (Except Err Reply)}
    {onBatch : RelayResult → Exec π σ γ (Except Err Unit)} (r : Relayer σ) (draw draw' : Draws) :
    { r with selector := filterSelector policies observer draw }.streamAttempt sendStream
        serviceID rpcType input onBatch =
      { r with selector := filterSelector policies observer draw' }.streamAttempt sendStream
        serviceID rpcType input onBatch := by
  funext session ep
  simp only [Relayer.streamAttempt, Relayer.signRelay, Relayer.validateResponse,
    Relayer.conclude, Relayer.observe, filterSelector]

/-- Without a request policy some shuffle makes the loop start as it did with one. -/
private theorem withFailover_narrow (r : Relayer σ) (ctx : Context) (draw : Draws)
    (attempt : Draws → Session → Endpoint → Exec π σ (Event γ) (Attempt Err (Except Err ρ)))
    (hatt : ∀ draw', attempt draw' = attempt draw) :
    ∃ draw', ({ r with selector := filterSelector policies observer draw }.withFailover ctx
        serviceID rpcType (attempt draw)).events s <+:
      ({ r with selector := filterSelector policies observer draw' }.withFailover {}
        serviceID rpcType (attempt draw')).events s := by
  unfold Exec.events
  cases Relayer.withFailover_run { r with selector := filterSelector policies observer draw } ctx
    serviceID rpcType (attempt draw) s with
  | unavailable e s' kept run_eq =>
    rw [run_eq]
    exact ⟨draw, List.nil_prefix⟩
  | tried session ordered s₁ s₂ tries hfetch hselect ne_nil tries_eq run_eq =>
    obtain ⟨hsel, hw⟩ := filterSelector_ok.mp hselect
    obtain ⟨draw', rest, hsel'⟩ := Filter.exists_selected_append hsel
    have hrun := Relayer.withFailover_tried
      { r with selector := filterSelector policies observer draw' } hfetch
      (filterSelector_ok.mpr ⟨hsel', hw⟩) (by simp [ne_nil])
      (attempt draw) _ rfl
    obtain ⟨zs, hzs⟩ := take_attemptCap_append r.maxAttempts ordered rest
    refine ⟨draw', ?_⟩
    rw [hatt draw', run_eq, tries_eq, hrun]
    simp only
    rw [hzs]
    exact events_tryEach_append s₂ none _ zs

end Failover

/-! ### Selection -/

section Selection

variable [GoLib] (policies : ServiceID → Option SupplierPolicy) (serviceID : ServiceID)
  (rpcType : RPCType)

/-- Two selections that are the same list, or both fail for want of an endpoint. -/
def SameSelection (r r' : Memory Endpoint × Except Err Nat) : Prop :=
  (∃ a a', r.2 = .ok a ∧ r'.2 = .ok a' ∧ r.1.get a = r'.1.get a') ∨
    (∃ e e', r.2 = .error e ∧ r'.2 = .error e' ∧ e.is .noEndpoint = true ∧
      e'.is .noEndpoint = true)

/-- One selection of a filter over `Random`, at an address of a memory: it fails, for want of
an endpoint, exactly when none is eligible, and otherwise permutes the eligible ones; lists
that exist stay as they are, and the path without policies does what the other one does. -/
structure SelectsEligible (draw : Draws) (ctx : Context) (endpoints : Nat)
    (m : Memory Endpoint) : Prop where
  unchanged :
    m.Extends (Filter.select ⟨randomSelect draw, policies⟩ ctx serviceID endpoints rpcType m).1
  fails_iff :
    (∃ e, (Filter.select ⟨randomSelect draw, policies⟩ ctx serviceID endpoints rpcType m).2 =
      .error e) ↔ Filter.candidates policies ctx serviceID rpcType (m.get endpoints) = []
  wraps : ∀ e,
    (Filter.select ⟨randomSelect draw, policies⟩ ctx serviceID endpoints rpcType m).2 =
      .error e → e.is .noEndpoint = true
  permutes : ∀ a,
    (Filter.select ⟨randomSelect draw, policies⟩ ctx serviceID endpoints rpcType m).2 = .ok a →
      ((Filter.select ⟨randomSelect draw, policies⟩ ctx serviceID endpoints rpcType m).1.get
        a).Perm (Filter.candidates policies ctx serviceID rpcType (m.get endpoints))
  fast_path : SameSelection
    (Filter.select ⟨randomSelect draw, policies⟩ ctx serviceID endpoints rpcType m)
    (Filter.selectKept ⟨randomSelect draw, policies⟩ ctx serviceID endpoints rpcType m)

private theorem filter_selectsEligible (draw : Draws) (ctx : Context) (endpoints : Nat)
    (m : Memory Endpoint) : SelectsEligible policies serviceID rpcType draw ctx endpoints m := by
  have hout := Filter.select_outcome policies draw ctx serviceID endpoints rpcType m
  have hkept := Filter.selectKept_outcome policies draw ctx serviceID endpoints rpcType m
  by_cases hn : Filter.candidates policies ctx serviceID rpcType (m.get endpoints) = []
  · obtain ⟨e, he, hw⟩ := hout.failed hn
    obtain ⟨e', he', hw'⟩ := hkept.failed hn
    constructor
    · exact hout.unchanged
    · exact ⟨fun _ ↦ hn, fun _ ↦ ⟨e, he⟩⟩
    · intro x hx
      rw [he] at hx
      cases hx
      exact hw
    · intro a ha
      rw [he] at ha
      cases ha
    · exact .inr ⟨e, e', he, he', hw, hw'⟩
  · obtain ⟨a, ha, hget⟩ := hout.chosen hn
    obtain ⟨a', ha', hget'⟩ := hkept.chosen hn
    constructor
    · exact hout.unchanged
    · constructor
      · rintro ⟨e, he⟩
        rw [ha] at he
        cases he
      · intro h
        exact absurd h hn
    · intro e he
      rw [ha] at he
      cases he
    · intro x hx
      rw [ha] at hx
      cases hx
      rw [hget]
      exact shuffle_perm draw _
    · exact .inl ⟨a, a', ha, ha', by rw [hget, hget']⟩

end Selection

/-! ### The three paths -/

section Narrowing

variable {π σ γ : Type} [GoLib] (policies : ServiceID → Option SupplierPolicy)
  (observer : Option (EndpointAddr → Outcome → σ → σ)) (serviceID : ServiceID)
  (rpcType : RPCType) (input : RelayInput) (s : σ)

variable {policies observer serviceID rpcType input s} in
/-- A contact of `Relay` is one for the request without its routing headers. -/
private theorem mem_relayReach {r : Relayer σ} {c : Contact}
    (hc : c ∈ relayReach policies observer serviceID rpcType input s r) :
    ∃ draw ctx, ∃ _ : String → RangeOrder, c ∈ contacts
      (({ r with selector := filterSelector policies observer draw }.relay ctx serviceID rpcType
        (unrouted input) : Exec Empty σ (Event Empty) _).events s) := by
  obtain ⟨draw, order, hc⟩ := hc
  unfold relayRequest at hc
  rcases hr : routed order input with e | ⟨ctx, input'⟩
  · rw [hr] at hc
    cases hc
  · rw [hr] at hc
    have hin := routed_input order input input' ctx hr
    subst hin
    exact ⟨draw, ctx, order, hc⟩

private theorem relayReach_permitted (r : Relayer σ) :
    ∀ c ∈ relayReach policies observer serviceID rpcType input s r,
      c.Permitted ((policies serviceID).getD {}) (fetched r.sessions serviceID s) rpcType := by
  intro c hc
  obtain ⟨draw, ctx, -, hc⟩ := mem_relayReach hc
  exact withFailover_permitted r ctx draw _
    (fun _ _ w ev hev ↦ with_of_ofAttempt (Relayer.relayAttempt_calls w ev hev)) c hc

private theorem relayReach_narrow (r : Relayer σ) :
    relayReach policies observer serviceID rpcType input s r ⊆
      relayReach policies observer serviceID rpcType (unrouted input) s r := by
  intro c hc
  obtain ⟨draw, ctx, order, hc⟩ := mem_relayReach hc
  obtain ⟨draw', hp⟩ := @withFailover_narrow Empty σ Empty RelayResult _ policies observer
    serviceID rpcType s r ctx draw
    (fun d ↦ { r with selector := filterSelector policies observer d }.relayAttempt serviceID
      rpcType (unrouted input)) (fun d ↦ relayAttempt_draw r d draw)
  refine ⟨draw', order, ?_⟩
  unfold relayRequest
  rw [routed_unrouted]
  exact (hp.filterMap contact?).subset hc

variable {policies observer serviceID rpcType input s} in
/-- A contact of `RelayStream` is one for the request without its routing headers, and there is
a sender for streams. -/
private theorem mem_streamReach {r : Relayer σ}
    {onBatch : RelayResult → Exec π σ γ (Except Err Unit)} {c : Contact}
    (hc : c ∈ streamReach policies observer serviceID rpcType input s r onBatch) :
    ∃ sendStream draw ctx, ∃ _ : String → RangeOrder, r.streamSender = some sendStream ∧
      c ∈ contacts (({ r with selector := filterSelector policies observer draw }.withFailover ctx
        serviceID rpcType ({ r with selector := filterSelector policies observer draw }.streamAttempt
          sendStream serviceID rpcType (unrouted input) onBatch)).events s) := by
  obtain ⟨draw, order, hc⟩ := hc
  unfold streamRequest at hc
  rcases hr : routed order input with e | ⟨ctx, input'⟩
  · rw [hr] at hc
    cases hc
  · rw [hr] at hc
    have hin := routed_input order input input' ctx hr
    subst hin
    unfold Relayer.relayStream at hc
    cases hs : r.streamSender with
    | none =>
      simp only [hs] at hc
      cases hc
    | some sendStream =>
      simp only [hs] at hc
      exact ⟨sendStream, draw, ctx, order, rfl, hc⟩

private theorem streamReach_permitted (r : Relayer σ)
    (onBatch : RelayResult → Exec π σ γ (Except Err Unit)) :
    ∀ c ∈ streamReach policies observer serviceID rpcType input s r onBatch,
      c.Permitted ((policies serviceID).getD {}) (fetched r.sessions serviceID s) rpcType := by
  intro c hc
  obtain ⟨sendStream, draw, ctx, -, -, hc⟩ := mem_streamReach hc
  exact withFailover_permitted r ctx draw _
    (fun _ _ w ev hev ↦ with_of_ofAttempt (Relayer.streamAttempt_calls w ev hev)) c hc

private theorem streamReach_narrow (r : Relayer σ)
    (onBatch : RelayResult → Exec π σ γ (Except Err Unit)) :
    streamReach policies observer serviceID rpcType input s r onBatch ⊆
      streamReach policies observer serviceID rpcType (unrouted input) s r onBatch := by
  intro c hc
  obtain ⟨sendStream, draw, ctx, order, hs, hc⟩ := mem_streamReach hc
  obtain ⟨draw', hp⟩ := @withFailover_narrow π σ γ Unit _ policies observer
    serviceID rpcType s r ctx draw
    (fun d ↦ { r with selector := filterSelector policies observer d }.streamAttempt sendStream
      serviceID rpcType (unrouted input) onBatch) (fun d ↦ streamAttempt_draw r d draw)
  refine ⟨draw', order, ?_⟩
  unfold streamRequest
  rw [routed_unrouted]
  simp only [Relayer.relayStream, hs]
  rw [hs] at hp hc
  exact (hp.filterMap contact?).subset hc

variable {policies observer serviceID rpcType input s} in
/-- Whom a bridge is pinned to was selected and has the URL. -/
private theorem mem_prepareReach {b : Bridge σ} {c : Contact}
    (hc : c ∈ prepareReach policies observer serviceID rpcType input s b) :
    ∃ draw ctx, ∃ _ : String → RangeOrder, ∃ session s₁ s' ordered ep url,
      b.sessions serviceID s = (.ok session, s₁) ∧
      (filterSelector policies observer draw).select ctx serviceID session.endpoints rpcType s₁ =
        (.ok ordered, s') ∧
      Bridge.firstWithURL rpcType ordered = some (ep, url) ∧
      (c = .signFor ep.supplier (some url) ∨ c = .sendTo url) := by
  obtain ⟨draw, order, prepared, s', hp, hc⟩ := hc
  unfold prepareRequest at hp
  rcases hr : routed order input with e | ⟨ctx, input'⟩
  · simp [hr] at hp
  · rw [hr] at hp
    obtain ⟨session, s₁, ordered, ep, url, hfetch, hselect, hfirst, rfl⟩ := Bridge.prepare_ok hp
    exact ⟨draw, ctx, order, session, s₁, s', ordered, ep, url, hfetch, hselect, hfirst, hc⟩

private theorem prepareReach_permitted (b : Bridge σ) :
    ∀ c ∈ prepareReach policies observer serviceID rpcType input s b,
      c.Permitted ((policies serviceID).getD {}) (fetched b.sessions serviceID s) rpcType := by
  intro c hc
  obtain ⟨draw, ctx, -, session, s₁, s', ordered, ep, url, hfetch, hselect, hfirst, hc⟩ :=
    mem_prepareReach hc
  obtain ⟨hep, hurl⟩ := Bridge.firstWithURL_some hfirst
  obtain ⟨hsel, -⟩ := filterSelector_ok.mp hselect
  obtain ⟨hmem, hperm⟩ := permitted_of_selected hsel hep
  refine ⟨ep, ?_, hperm, ?_⟩
  · simp only [fetched, hfetch]
    exact hmem
  · rcases hc with rfl | rfl
    · exact ⟨rfl, hurl.symm⟩
    · exact hurl.symm

private theorem prepareReach_narrow (b : Bridge σ) :
    prepareReach policies observer serviceID rpcType input s b ⊆
      prepareReach policies observer serviceID rpcType (unrouted input) s b := by
  intro c hc
  obtain ⟨draw, ctx, order, session, s₁, s', ordered, ep, url, hfetch, hselect, hfirst, hc⟩ :=
    mem_prepareReach hc
  obtain ⟨hsel, hw⟩ := filterSelector_ok.mp hselect
  obtain ⟨draw', rest, hsel'⟩ := Filter.exists_selected_append hsel
  have hprep := Bridge.prepare_of_selected
    (b := { b with selector := filterSelector policies observer draw' }) hfetch
    (filterSelector_ok.mpr ⟨hsel', hw⟩) (Bridge.firstWithURL_append hfirst rest)
  rw [Bridge.pinned_selector] at hprep
  refine ⟨draw', order, b.pinned serviceID rpcType session ep url, s', ?_, hc⟩
  unfold prepareRequest
  rw [routed_unrouted]
  exact hprep

/-- A request can only narrow routing. Selection takes exactly the endpoints that advertise
the type and that the operator and the request permit; on all three paths only suppliers and
URLs the operator permits are signed for and sent to; and whatever a request with routing
headers can reach, the same request without them can reach too. -/
theorem requests_only_narrow_routing (r : Relayer σ) (b : Bridge σ)
    (onBatch : RelayResult → Exec π σ γ (Except Err Unit)) :
    (∀ draw ctx endpoints m,
      SelectsEligible policies serviceID rpcType draw ctx endpoints m) ∧
    (∀ c ∈ relayReach policies observer serviceID rpcType input s r,
      c.Permitted ((policies serviceID).getD {}) (fetched r.sessions serviceID s) rpcType) ∧
    (∀ c ∈ streamReach policies observer serviceID rpcType input s r onBatch,
      c.Permitted ((policies serviceID).getD {}) (fetched r.sessions serviceID s) rpcType) ∧
    (∀ c ∈ prepareReach policies observer serviceID rpcType input s b,
      c.Permitted ((policies serviceID).getD {}) (fetched b.sessions serviceID s) rpcType) ∧
    relayReach policies observer serviceID rpcType input s r ⊆
      relayReach policies observer serviceID rpcType (unrouted input) s r ∧
    streamReach policies observer serviceID rpcType input s r onBatch ⊆
      streamReach policies observer serviceID rpcType (unrouted input) s r onBatch ∧
    prepareReach policies observer serviceID rpcType input s b ⊆
      prepareReach policies observer serviceID rpcType (unrouted input) s b := by
  refine ⟨?_, ?_, ?_, ?_, ?_, ?_, ?_⟩
  · exact filter_selectsEligible policies serviceID rpcType
  · exact relayReach_permitted policies observer serviceID rpcType input s r
  · exact streamReach_permitted policies observer serviceID rpcType input s r onBatch
  · exact prepareReach_permitted policies observer serviceID rpcType input s b
  · exact relayReach_narrow policies observer serviceID rpcType input s r
  · exact streamReach_narrow policies observer serviceID rpcType input s r onBatch
  · exact prepareReach_narrow policies observer serviceID rpcType input s b

end Narrowing

end PocketAp.Transport
