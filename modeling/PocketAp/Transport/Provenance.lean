import PocketAp.Relay.Provenance
import PocketAp.Transport.Served

/-!
# Where a response comes from

`src/transport/http.go:104–276` over the relay core. Whichever way a listener relays, what its
handler makes the core do is for the request as it came, without the routing headers, and
under the policy they carried; and each body it writes is that of the response validated last.
-/

namespace PocketAp.Transport

open PocketAp.Base PocketAp.Domain PocketAp.Relay

/-! ### The core does not see the handler's variables -/

section Lifted

variable {τ σ γ : Type} {r : Relayer σ} {rpcType : RPCType} {input : RelayInput}

private theorem liftSeam_eq {α : Type} {f : Seam σ α} {s s' : τ × σ} {a : α}
    (h : liftSeam f s = (a, s')) : f s.2 = (a, s'.2) := by
  cases h
  rfl

variable [GoLib]

private theorem sourced_of_lift {session : Session} {ordered : List Endpoint}
    {past : List (Event γ)} {ev : Event γ}
    (h : (liftRelayer τ r).Sourced rpcType input session ordered past ev) :
    r.Sourced rpcType input session ordered past ev := by
  have haddr {ep : Endpoint} {url : String} {relayReq : Bytes}
      (h : (liftRelayer τ r).Addressed rpcType input session ep url relayReq) :
      r.Addressed rpcType input session ep url relayReq := by
    obtain ⟨found, s, signed⟩ := h
    exact ⟨found, s.2, signed⟩
  cases ev with
  | send url relayReq t result =>
    obtain ⟨ht, ep, hep, ha⟩ := h
    exact ⟨ht, ep, hep, haddr ha⟩
  | sendStream url relayReq t result =>
    obtain ⟨ht, ep, hep, ha⟩ := h
    exact ⟨ht, ep, hep, haddr ha⟩
  | validate supplier batch result =>
    cases result with
    | error e => trivial
    | ok result =>
      obtain ⟨⟨s, hvalid⟩, ep, hep, hs, url, relayReq, ha, hreply⟩ := h
      exact ⟨⟨s.2, hvalid⟩, ep, hep, hs, url, relayReq, haddr ha, hreply⟩
  | _ => trivial

private theorem traced_of_lift {ctx : Context} {serviceID : ServiceID} {s : τ × σ}
    {past : List (Event γ)} {ev : Event γ}
    (h : (liftRelayer τ r).Traced rpcType input ctx serviceID s past ev) :
    r.Traced rpcType input ctx serviceID s.2 past ev := by
  obtain ⟨session, s₁, ordered, s₂, fetched, selected, hsourced⟩ := h
  exact ⟨session, s₁.2, ordered, s₂.2, liftSeam_eq fetched, liftSeam_eq selected,
    sourced_of_lift hsourced⟩

end Lifted

/-! ### What the handler writes -/

/-- A body handed to the response writer. -/
def ClientEvent.body? : ClientEvent → Option Bytes
  | .write body _ => some body
  | _ => none

private theorem body?_of_isHead {c : ClientEvent} (h : c.isHead = true) : c.body? = none := by
  cases c <;> first | rfl | cases h

private theorem addHeaders_isHead (header : Header) : ∀ c ∈ addHeaders header, c.isHead = true := by
  intro c hc
  simp only [addHeaders, List.mem_flatMap, List.mem_map] at hc
  obtain ⟨kv, -, v, -, rfl⟩ := hc
  rfl

private theorem writeCORSHeaders_isHead (req : Request) (origin : String) :
    ∀ c ∈ writeCORSHeaders req origin, c.isHead = true := by
  intro c hc
  unfold writeCORSHeaders at hc
  split at hc
  · simp only [List.append_nil, List.mem_cons, List.not_mem_nil, or_false] at hc
    rcases hc with rfl | rfl <;> rfl
  · simp only [List.mem_append, List.mem_cons, List.not_mem_nil, or_false] at hc
    rcases hc with (rfl | rfl) | (rfl | hc) | rfl
    · rfl
    · rfl
    · rfl
    · split at hc
      · cases List.mem_singleton.mp hc
        rfl
      · cases hc
    · rfl

private theorem headers_isHead (header : Header) (req : Request) (origin : String) :
    ∀ c ∈ addHeaders header ++ if origin ≠ "" then writeCORSHeaders req origin else [],
      c.isHead = true := by
  refine List.forall_mem_append.mpr ⟨addHeaders_isHead header, ?_⟩
  split
  · exact writeCORSHeaders_isHead req origin
  · simp

namespace StreamHandler

variable {σ : Type} [GoLib] (h : StreamHandler σ)

/-- The callback writes the body of its result, if anything. -/
private theorem onBatch_body (result : RelayResult) (vs : StreamVars × σ) :
    ∀ c ∈ (h.onBatch result vs).1, ∀ body, c.body? = some body → result.body = body := by
  obtain ⟨v, s⟩ := vs
  rcases hw : h.write result.body s with ⟨err, s'⟩
  have hheads : ∀ c ∈ h.headers result, ∀ body, c.body? = some body → result.body = body := by
    intro c hc body hb
    rw [body?_of_isHead (headers_isHead _ _ _ c hc)] at hb
    cases hb
  have hbody : ∀ c ∈ h.bodyOps result err, ∀ body, c.body? = some body → result.body = body := by
    intro c hc body hb
    rcases List.mem_cons.mp hc with rfl | hc
    · exact Option.some.inj hb
    · split at hc
      · split at hc
        · cases List.mem_singleton.mp hc
          cases hb
        · cases hc
      · cases hc
  cases hv : v.wroteHeader with
  | true =>
    rw [h.onBatch_of_wroteHeader result hv hw]
    exact hbody
  | false =>
    by_cases hst : Writable result
    · rw [h.onBatch_of_writable hst hv hw]
      simp only [head, List.forall_mem_append, List.forall_mem_singleton]
      refine ⟨⟨hheads, ?_⟩, hbody⟩
      intro body hb
      cases hb
    · rw [h.onBatch_of_not_writable hst hv]
      exact hheads

omit [GoLib] in
/-- Ending the response writes no body. -/
private theorem finishServe_events (res : Except Err Unit) (vs : StreamVars × σ) :
    ∃ cs : List ClientEvent, (finishServe res vs).1 = cs.map .client ∧ ∀ c ∈ cs, c.body? = none := by
  unfold finishServe
  rw [Exec.bind_run_ok (Exec.peek_run _ _)]
  cases res with
  | error e =>
    cases hv : vs.1.wroteHeader with
    | true => exact ⟨[], by simp [Exec.throw], by simp⟩
    | false =>
      exact ⟨[.error ("relay failed: " ++ e.message) 502], by simp [Exec.emit],
        by simp [ClientEvent.body?]⟩
  | ok u =>
    refine ⟨writeGRPCTrailers vs.1.grpcTrailers, by simp [Exec.emitAll], ?_⟩
    simp only [writeGRPCTrailers, List.mem_flatMap, List.mem_map]
    rintro c ⟨-, -, -, -, rfl⟩
    rfl

/-- What a run records: the calls of `RelayStream`, and those that end the response. -/
private theorem serveStream_events (r : Relayer σ) (ctx : Context) (input : RelayInput) (s : σ) :
    ∃ cs : List ClientEvent, (h.serveStream r ctx input).events s =
        ((liftRelayer StreamVars r).relayStream ctx h.serviceID h.rpcType input h.onBatch).events
          ({}, s) ++ cs.map .client ∧ ∀ c ∈ cs, c.body? = none := by
  have hrun (x : Exec HandlerPanic (StreamVars × σ) (Event ClientEvent) Unit) :
      ((do let _ ← Exec.withVar {} x; pure () :
        Exec HandlerPanic σ (Event ClientEvent) Unit)).events s = x.events ({}, s) := by
    unfold Exec.events
    rcases hx : x ({}, s) with ⟨es, vs, p | u⟩
    · rw [Exec.bind_run_error (show Exec.withVar {} x s = (es, vs.2, .error p) by
        simp [Exec.withVar, hx, Except.map])]
    · rw [Exec.bind_run_ok (show Exec.withVar {} x s = (es, vs.2, .ok (u, vs.1)) by
        simp [Exec.withVar, hx, Except.map])]
      simp [Exec.pure_run]
  unfold serveStream
  rw [hrun]
  unfold Exec.events
  rcases hX : (liftRelayer StreamVars r).relayStream ctx h.serviceID h.rpcType input h.onBatch
    ({}, s) with ⟨es, vs, p | res⟩
  · rw [Exec.bind_run_error hX]
    exact ⟨[], by simp, by simp⟩
  · obtain ⟨cs, hcs, hbody⟩ := finishServe_events res vs
    rw [Exec.bind_run_ok hX]
    exact ⟨cs, by simp only [hcs], hbody⟩

end StreamHandler

namespace HTTP

variable {σ : Type} [GoLib] (h : HTTP σ)

omit [GoLib] in
/-- What is relayed of a request that is let in. `src/transport/http.go:152–169`. -/
def forwarded (req : Inbound) : RelayInput :=
  ⟨req.request.method, req.url.requestURI, stripRouting req.request.header, req.body.bytes⟩

/-- What caused a call of the handler, given the calls before it. -/
structure Traced (order : String → RangeOrder) (req : Inbound) (s : σ)
    (past : List (Event ClientEvent)) (ev : Event ClientEvent) : Prop where
  relayed : (∀ c, ev ≠ .client c) → ∃ policy,
    (takeSupplierPolicy order req.request.header).2 = .ok policy ∧
      h.relayer.Traced h.rpcType (forwarded req) (withSupplierPolicy {} policy) h.serviceID s past ev
  written : ∀ c body, ev = .client c → c.body? = some body → ∃ batch result,
    latest Event.valid? past = some (batch, result) ∧ result.body = body

omit [GoLib] in
private theorem bytes_of_readBody {b : InboundBody} {body : Bytes} (h : readBody b = .ok body) :
    body = b.bytes := by
  unfold readBody at h
  split at h
  · cases h
  · split at h
    · cases h
    · cases h
      rfl

/-- A request is answered by the handler itself, without a body, or it is let in. -/
private theorem handle_cases (order : String → RangeOrder) (req : Inbound) :
    (∃ cs : List ClientEvent, (∀ c ∈ cs, c.body? = none) ∧
      ∀ s, h.handle order req s = (cs.map .answer, s, .ok ())) ∨
    ∃ policy, (takeSupplierPolicy order req.request.header).2 = .ok policy ∧
      h.handle order req = h.serve req (withSupplierPolicy {} policy) (forwarded req) := by
  have hrefused (text : String) (code : Int) :
      ∃ cs : List ClientEvent, (∀ c ∈ cs, c.body? = none) ∧
        ∀ s : σ, refuse text code s = (cs.map .answer, s, .ok ()) :=
    ⟨[.error text code], by simp [ClientEvent.body?], fun _ ↦ rfl⟩
  unfold handle
  split
  · exact .inl (hrefused _ _)
  · split
    · exact .inl (hrefused _ _)
    · split
      · refine .inl ⟨_, ?_, fun _ ↦ rfl⟩
        rw [List.forall_mem_append, List.forall_mem_singleton]
        exact ⟨fun c hc ↦ body?_of_isHead (writeCORSHeaders_isHead _ _ c hc), rfl⟩
      · cases hbody : readBody req.body with
        | error e => exact .inl (hrefused _ _)
        | ok body =>
          cases bytes_of_readBody hbody
          cases hpolicy : (takeSupplierPolicy order req.request.header).2 with
          | error e =>
            simp only [routed, captured, hpolicy]
            exact .inl (hrefused _ _)
          | ok policy =>
            simp only [routed, captured, hpolicy, takeSupplierPolicy_header]
            exact .inr ⟨policy, rfl, rfl⟩

omit [GoLib] in
private theorem writeResult_events (req : Inbound) (result : RelayResult) (s : σ) :
    ∃ cs : List ClientEvent, (h.writeResult req result s).1 = cs.map .answer ∧
      ∀ c ∈ cs, ∀ body, c.body? = some body → result.body = body := by
  have hheads : ∀ c ∈ addHeaders result.header ++
      (if origin req ≠ "" then writeCORSHeaders req.request (origin req) else []),
      ∀ body, c.body? = some body → result.body = body := by
    intro c hc body hb
    rw [body?_of_isHead (headers_isHead _ _ _ c hc)] at hb
    cases hb
  by_cases hst : Writable result
  · rcases hw : h.write result.body s with ⟨err, s'⟩
    rw [h.writeResult_of_writable hst hw]
    refine ⟨_, rfl, ?_⟩
    simp only [List.forall_mem_append, List.forall_mem_cons]
    exact ⟨List.forall_mem_append.mp hheads, nofun, fun body hb ↦ Option.some.inj hb, by simp⟩
  · rw [h.writeResult_of_not_writable hst]
    exact ⟨_, rfl, hheads⟩

/-- Calls of the client that all write `result`, after calls of which it is the last response
validated. -/
private theorem traced_answers {order : String → RangeOrder} {req : Inbound} {s : σ}
    {past : List (Event ClientEvent)} {batch : Bytes} {result : RelayResult}
    (hlast : latest Event.valid? past = some (batch, result)) {cs : List ClientEvent}
    (hcs : ∀ c ∈ cs, ∀ body, c.body? = some body → result.body = body) :
    Throughout (fun past' ↦ h.Traced order req s (past ++ past')) (cs.map .client) := by
  rintro past' ev future heq
  obtain ⟨cs₁, cs₂, rfl, rfl, hev⟩ := List.map_eq_append_iff.mp heq
  obtain ⟨c, cs₃, rfl, rfl, -⟩ := List.map_eq_cons_iff.mp hev
  refine ⟨fun hnot ↦ absurd rfl (hnot c), ?_⟩
  rintro _ body ⟨rfl⟩ hb
  refine ⟨batch, result, ?_, hcs c (by simp) body hb⟩
  rw [latest_append, latest_eq_none (by simp [Event.valid?]), Option.none_or, hlast]

private theorem traced_bodiless {order : String → RangeOrder} {req : Inbound} {s : σ}
    (past : List (Event ClientEvent)) {cs : List ClientEvent} (hcs : ∀ c ∈ cs, c.body? = none) :
    Throughout (fun past' ↦ h.Traced order req s (past ++ past')) (cs.map .client) := by
  apply throughout_of_forall
  intro ev hev past'
  obtain ⟨c, hc, rfl⟩ := List.mem_map.mp hev
  refine ⟨fun hnot ↦ absurd rfl (hnot c), ?_⟩
  rintro _ body ⟨rfl⟩ hb
  rw [hcs c hc] at hb
  cases hb

section Serve

variable {order : String → RangeOrder} {req : Inbound} {policy : SupplierPolicy}

private theorem serveWhole_traced
    (hpolicy : (takeSupplierPolicy order req.request.header).2 = .ok policy) (s : σ) :
    Throughout (h.Traced order req s)
      (coreCalls ((h.serveWhole req (withSupplierPolicy {} policy) (forwarded req)).events s)) := by
  -- `Relay` has no callback; this one says nothing.
  have hrelay := h.relayer.relay_traced h.serviceID h.rpcType (forwarded req)
    (fun _ ↦ pure (.ok ()) : RelayResult → Exec HandlerPanic σ ClientEvent (Except Err Unit))
    (withSupplierPolicy {} policy) s
  unfold serveWhole Exec.events at *
  rcases hr : (h.relayer.relay (withSupplierPolicy {} policy) h.serviceID h.rpcType (forwarded req) :
      Exec HandlerPanic σ (Event ClientEvent) _) s with ⟨es, s', out⟩
  rw [hr] at hrelay
  have hes : Throughout (h.Traced order req s) es := by
    refine hrelay.imp ?_
    rintro past ev ⟨htraced, htold⟩
    refine ⟨fun _ ↦ ⟨policy, hpolicy, htraced⟩, ?_⟩
    intro c body hc hb
    obtain ⟨batch, result, w, -, hmem⟩ := htold c hc
    simp [Exec.pure_run] at hmem
  rcases out with p | e | result
  · rw [Exec.bind_run_error (Exec.mapEvents_run hr _), coreCalls_core]
    exact hes
  · rw [Exec.bind_run_ok (Exec.mapEvents_run hr _), coreCalls_append, coreCalls_core]
    refine throughout_append.mpr ⟨hes, ?_⟩
    change Throughout _ ([ClientEvent.error ("relay failed: " ++ e.message) 502].map Event.client)
    exact h.traced_bodiless es (by simp [ClientEvent.body?])
  · obtain ⟨cs, hcs, hbody⟩ := h.writeResult_events req result s'
    obtain ⟨batch, hlast⟩ := Relayer.latest_of_relay_ok hr
    rw [Exec.bind_run_ok (Exec.mapEvents_run hr _), coreCalls_append, coreCalls_core]
    simp only [hcs, coreCalls_answer]
    exact throughout_append.mpr ⟨hes, h.traced_answers hlast hbody⟩

private theorem serveStream_traced
    (hpolicy : (takeSupplierPolicy order req.request.header).2 = .ok policy) (s : σ) :
    Throughout (h.Traced order req s)
      (((h.streamHandler req).serveStream h.relayer (withSupplierPolicy {} policy)
        (forwarded req)).events s) := by
  obtain ⟨cs, hevents, hbody⟩ := (h.streamHandler req).serveStream_events h.relayer
    (withSupplierPolicy {} policy) (forwarded req) s
  rw [hevents]
  refine throughout_append.mpr ⟨?_, h.traced_bodiless _ hbody⟩
  refine ((liftRelayer StreamVars h.relayer).relayStream_traced h.serviceID h.rpcType
    (forwarded req) (h.streamHandler req).onBatch (withSupplierPolicy {} policy) ({}, s)).imp ?_
  rintro past ev ⟨htraced, htold⟩
  refine ⟨fun _ ↦ ⟨policy, hpolicy, traced_of_lift htraced⟩, ?_⟩
  intro c body hc hb
  obtain ⟨batch, result, w, hlast, hmem⟩ := htold c hc
  exact ⟨batch, result, hlast, (h.streamHandler req).onBatch_body result w c hmem body hb⟩

end Serve

/-- Throughout every run of the handler. -/
theorem handle_traced (order : String → RangeOrder) (req : Inbound) (s : σ) :
    Throughout (h.Traced order req s) (coreCalls ((h.handle order req).events s)) := by
  rcases h.handle_cases order req with ⟨cs, hcs, hrun⟩ | ⟨policy, hpolicy, hrun⟩
  · rw [Exec.events, hrun, coreCalls_answer]
    exact h.traced_bodiless [] hcs
  · rw [hrun]
    have hserve : coreCalls ((h.serve req (withSupplierPolicy {} policy) (forwarded req)).events s) =
        coreCalls (((if h.stream then
          Exec.mapEvents .core ((h.streamHandler req).serveStream h.relayer
            (withSupplierPolicy {} policy) (forwarded req))
          else h.serveWhole req (withSupplierPolicy {} policy) (forwarded req))).events s) := by
      unfold serve Exec.events
      rw [Exec.bind_run_ok (Exec.emit_run _ s)]
      rfl
    rw [hserve]
    split
    · change Throughout _ (coreCalls ((((h.streamHandler req).serveStream h.relayer
        (withSupplierPolicy {} policy) (forwarded req)).events s).map .core))
      rw [coreCalls_core]
      exact h.serveStream_traced hpolicy s
    · exact h.serveWhole_traced hpolicy s

end HTTP

end PocketAp.Transport
