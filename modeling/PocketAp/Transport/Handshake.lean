import PocketAp.Transport.WS

/-!
# Where a handshake leads

`src/transport/ws.go:119–190`. Whatever the schedule of the goroutines: a handler that dials a
supplier has prepared one bridge, under the policy of the handshake's own headers; it dials
that bridge's supplier and nobody else, and what is at work afterwards is that bridge.
-/

namespace PocketAp.Transport

open PocketAp.Base PocketAp.Domain PocketAp.Relay PocketAp.Websockets

/-- A step of the open bridge. -/
def WSEvent.action? {σ : Type} : WSEvent σ → Option (Action σ)
  | .bridge a => some a
  | _ => none

namespace WS

variable {π σ : Type} [GoLib] (ws : WS σ)

/-- One bridge was prepared, and `st` is what its goroutines have made of it. -/
structure Opened (order : String → RangeOrder) (req : Handshake σ) (es : List (WSEvent σ))
    (prepared : Prepared σ) (st : Websockets.State σ) : Prop where
  pinned : ∃ policy s s', (takeSupplierPolicy order req.header).2 = .ok policy ∧
    ws.core.prepare (withSupplierPolicy {} policy) ws.serviceID ws.rpcType s = (.ok prepared, s')
  dialled : ∀ url headers result, .handshake (.dial url headers result) ∈ es →
    req.parseURL prepared.endpointURL = .ok url ∧ headers = prepared.headers
  ran : ∃ w, runAll (step prepared.processor) { world := w } (es.filterMap WSEvent.action?) = some st

section Parts

omit [GoLib] in
private theorem runBridge_run (p : FrameProcessor σ) (s : Websockets.State σ)
    (schedule : List (Action σ)) :
    runAll (step p) s (runBridge p s schedule).1 = some (runBridge p s schedule).2 := by
  induction schedule generalizing s with
  | nil => rfl
  | cons a schedule ih =>
    unfold runBridge
    cases hstep : step p s a with
    | none => rfl
    | some s' => simp only [runAll, hstep, ih]

private theorem upgradeClient_quiet (policy : OriginPolicy) (c : Sockets σ) (s : σ) :
    ∃ e s' res, (upgradeClient policy c : Exec π σ HandshakeEvent _) s = ([e], s', .ok res) ∧
      ∀ url headers result, e ≠ .dial url headers result := by
  unfold upgradeClient
  split
  · exact ⟨_, _, _, rfl, nofun⟩
  · rcases hu : c.upgrade s with ⟨e | u, s'⟩
    · exact ⟨_, _, _, Exec.bind_run_ok (Exec.call_run hu _) _, nofun⟩
    · exact ⟨_, _, _, Exec.bind_run_ok (Exec.call_run hu _) _, nofun⟩

/-- Only the URL it is given is dialled, with the headers it is given. -/
private theorem connectEndpoint_dials (c : Sockets σ) (rawURL : String) (endpointHeaders : Header)
    (s : σ) :
    ∃ es s' res,
      (connectEndpoint c rawURL endpointHeaders : Exec π σ HandshakeEvent _) s = (es, s', .ok res) ∧
      ∀ url headers result, .dial url headers result ∈ es →
        c.parseURL rawURL = .ok url ∧ headers = endpointHeaders := by
  unfold connectEndpoint
  cases hparse : c.parseURL rawURL with
  | error e => exact ⟨[], s, _, rfl, by simp⟩
  | ok url =>
    rcases hd : c.dial url endpointHeaders s with ⟨e | u, s'⟩
    · refine ⟨_, _, _, Exec.bind_run_ok (Exec.call_run hd _) _, ?_⟩
      simp +contextual [Exec.pure_run]
    · refine ⟨_, _, _, Exec.bind_run_ok (Exec.call_run hd _) _, ?_⟩
      simp +contextual [Exec.pure_run]

private theorem startBridge_dials (policy : OriginPolicy) (c : Sockets σ) (endpointURL : String)
    (endpointHeaders : Header) (s : σ) :
    ∃ es s' res, (startBridge policy c endpointURL endpointHeaders : Exec π σ HandshakeEvent _) s =
        (es, s', .ok res) ∧
      ∀ url headers result, .dial url headers result ∈ es →
        c.parseURL endpointURL = .ok url ∧ headers = endpointHeaders := by
  obtain ⟨e, s₁, res, hup, hquiet⟩ := @upgradeClient_quiet π σ _ policy c s
  have hfirst (url : String) (headers : Header) (result : Except Err Unit) :
      .dial url headers result ≠ e := (hquiet url headers result).symm
  unfold startBridge
  rw [Exec.bind_run_ok hup]
  rcases res with err | u
  · exact ⟨[e], s₁, _, rfl, by simp [hfirst]⟩
  · obtain ⟨es, s₂, res, hc, hdials⟩ :=
      @connectEndpoint_dials π σ _ c endpointURL endpointHeaders s₁
    simp only
    rw [Exec.bind_run_ok hc]
    rcases res with err | u
    · simp only
      rw [Exec.bind_run_ok (Exec.emit_run _ s₂)]
      refine ⟨_, _, _, rfl, ?_⟩
      simpa [hfirst, Exec.pure_run] using hdials
    · refine ⟨_, _, _, rfl, ?_⟩
      simpa [hfirst, Exec.pure_run] using hdials

end Parts

variable {ws} in
private theorem opened_of {order : String → RangeOrder} {req : Handshake σ}
    {policy : SupplierPolicy} (hpolicy : (takeSupplierPolicy order req.header).2 = .ok policy)
    {prepared : Prepared σ} {s s' w : σ}
    (hprep : ws.core.prepare (withSupplierPolicy {} policy) ws.serviceID ws.rpcType s =
      (.ok prepared, s'))
    {es : List HandshakeEvent}
    (hdials : ∀ url headers result, .dial url headers result ∈ es →
      req.sockets.parseURL prepared.endpointURL = .ok url ∧ headers = prepared.headers)
    {as : List (Action σ)} {st : Websockets.State σ}
    (hrun : runAll (step prepared.processor) { world := w } as = some st) :
    ws.Opened order req (.prepare (withSupplierPolicy {} policy) ws.serviceID ws.rpcType ::
      (es.map .handshake ++ as.map .bridge)) prepared st := by
  refine ⟨⟨policy, s, s', hpolicy, hprep⟩, ?_, w, ?_⟩
  · intro url headers result hmem
    apply hdials url headers result
    simpa using hmem
  · have hquiet : (es.map (.handshake : _ → WSEvent σ)).filterMap WSEvent.action? = [] := by
      simp [WSEvent.action?]
    have hactions : (as.map (.bridge : _ → WSEvent σ)).filterMap WSEvent.action? = as := by
      simp [List.filterMap_map, Function.comp_def, WSEvent.action?]
    rw [List.filterMap_cons_none rfl, List.filterMap_append, hquiet, hactions, List.nil_append]
    exact hrun

/-- With a slot taken. -/
private theorem connect_opened (order : String → RangeOrder) (req : Handshake σ)
    (schedule : List (Action σ)) (s : σ) :
    (∀ e ∈ ((ws.connect order req schedule : Exec π σ (WSEvent σ) Unit) s).1, ¬ e.IsContact) ∨
      ∃ prepared st, ws.Opened order req
        ((ws.connect order req schedule : Exec π σ (WSEvent σ) Unit) s).1 prepared st := by
  unfold connect
  cases hpolicy : (takeSupplierPolicy order req.header).2 with
  | error e => exact .inl (by simp [Exec.emit_run, WSEvent.IsContact])
  | ok policy =>
    simp only
    rcases hprep : ws.core.prepare (withSupplierPolicy {} policy) ws.serviceID ws.rpcType s with
      ⟨e | prepared, s₁⟩
    · rw [Exec.bind_run_ok (Exec.call_run hprep _)]
      exact .inl (by simp [Exec.emit_run, WSEvent.IsContact])
    · rw [Exec.bind_run_ok (Exec.call_run hprep _)]
      simp only
      obtain ⟨es, s₂, res, hstart, hdials⟩ :=
        @startBridge_dials π σ _ ws.policy req.sockets prepared.endpointURL prepared.headers s₁
      rw [Exec.bind_run_ok (Exec.mapEvents_run hstart _)]
      right
      rcases res with err | u
      · have hidle : runAll (step prepared.processor) { world := s₂ } [] = some { world := s₂ } := rfl
        refine ⟨prepared, { world := s₂ }, ?_⟩
        simpa [Exec.pure_run] using opened_of hpolicy hprep hdials hidle
      · refine ⟨prepared, (runBridge prepared.processor { world := s₂ } schedule).2, ?_⟩
        simpa [live] using opened_of hpolicy hprep hdials (runBridge_run _ _ schedule)

/-- Whatever a handshake asks for. -/
theorem handle_opened (order : String → RangeOrder) (req : Handshake σ)
    (schedule : List (Action σ)) (s : σ) :
    (∀ e ∈ (ws.handle order req schedule : Exec π σ (WSEvent σ) Unit).events s, ¬ e.IsContact) ∨
      ∃ prepared st, ws.Opened order req
        ((ws.handle order req schedule : Exec π σ (WSEvent σ) Unit).events s) prepared st := by
  unfold handle Exec.events
  split
  · exact .inl (by simp [Exec.emit_run, WSEvent.IsContact])
  · obtain ⟨granted, s₁, ha⟩ := @acquire_run π σ ws s
    rw [Exec.bind_run_ok ha]
    cases granted with
    | false => exact .inl (by simp [Exec.emit_run, WSEvent.IsContact])
    | true =>
      -- The slot's own calls are of no concern.
      have hactions (es : List (WSEvent σ)) :
          (WSEvent.acquire true :: (es ++ [.release])).filterMap WSEvent.action? =
            es.filterMap WSEvent.action? := by
        rw [List.filterMap_cons_none rfl, List.filterMap_append, List.filterMap_cons_none rfl,
          List.filterMap_nil, List.append_nil]
      refine (@connect_opened π σ _ ws order req schedule s₁).imp ?_ ?_
      · intro hquiet
        simp only [Exec.deferring, if_true, List.singleton_append, List.forall_mem_cons,
          List.forall_mem_append]
        exact ⟨by simp [WSEvent.IsContact], hquiet, by simp [WSEvent.IsContact], by simp⟩
      · rintro ⟨prepared, st, pinned, dialled, ran⟩
        refine ⟨prepared, st, pinned, by simpa [Exec.deferring] using dialled, ?_⟩
        simpa only [Exec.deferring, if_true, List.singleton_append, hactions] using ran

end WS

end PocketAp.Transport
