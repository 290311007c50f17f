import PocketAp.Relay.Returns

/-!
# Who is blamed for a failure

`src/relay/relay.go:76–102, 179–225` and `src/relay/stream.go:112–121, 144–171`. A failure is
reported against a supplier because sending to it, reading its reply or validating what it
sent failed, but also because the callback returned an error: `RelayStream` gets both back
through the same result.
-/

namespace PocketAp.Relay

open PocketAp.Base PocketAp.Domain

section Statement

variable {γ : Type}

/-- The supplier is the one that was last signed for, and nothing was reported since; `P` holds
of the calls since then. -/
def SinceSigned (supplier : EndpointAddr) (P : List (Event γ) → Prop) (pre : List (Event γ)) :
    Prop :=
  ∃ before session ep rpcType input relayReq calls,
    pre = before ++ .sign session ep rpcType input (.ok relayReq) :: calls ∧
    ep.supplier = supplier ∧ (∀ ev ∈ calls, ev.isSign = false ∧ ev.isObserve = false) ∧ P calls

/-- The supplier that was last signed for failed with `e` since then. -/
def AtFault [GoLib] (supplier : EndpointAddr) (e : Err) (pre : List (Event γ)) : Prop :=
  SinceSigned supplier (Fault supplier e) pre

/-- A failure is only ever reported against the supplier whose own it is. -/
def BlamesFaults [GoLib] (es : List (Event γ)) : Prop :=
  ∀ pre supplier outcome post, es = pre ++ .observe supplier outcome :: post →
    outcome.success = false → ∃ e, outcome.err = some e ∧ AtFault supplier e pre

/-- A call and those before it: a failure that it reports is for a reason that `blame` allows. -/
def Blames (blame : EndpointAddr → Err → List (Event γ) → Prop) (pre : List (Event γ)) :
    Event γ → Prop
  | .observe supplier outcome => outcome.success = false →
    ∃ e, outcome.err = some e ∧ SinceSigned supplier (blame supplier e) pre
  | _ => True

variable {blame : EndpointAddr → Err → List (Event γ) → Prop}

private theorem Blames.append {before pre : List (Event γ)} {ev : Event γ}
    (h : Blames blame pre ev) : Blames blame (before ++ pre) ev := by
  cases ev with
  | observe supplier outcome =>
    intro hfail
    obtain ⟨e, he, before', session, ep, rpcType, input, relayReq, calls, rfl, hrest⟩ := h hfail
    exact ⟨e, he, before ++ before', session, ep, rpcType, input, relayReq, calls,
      by rw [List.append_assoc], hrest⟩
  | _ => trivial

/-- Reads between the calls do not matter. -/
private theorem Blames.of_filter
    (hmono : ∀ supplier e calls calls', (∀ ev ∈ calls, ev ∈ calls') → blame supplier e calls →
      blame supplier e calls') {pre : List (Event γ)} {ev : Event γ}
    (h : Blames blame (pre.filter (fun ev ↦ !ev.isRead)) ev) : Blames blame pre ev := by
  cases ev with
  | observe supplier outcome =>
    intro hfail
    obtain ⟨e, he, before, session, ep, rpcType, input, relayReq, calls, hpre, hsupplier, hcalls,
      hblame⟩ := h hfail
    obtain ⟨before', rest, rfl, -, hrest⟩ := List.filter_eq_append_iff.mp hpre
    obtain ⟨reads, calls', rfl, -, -, rfl⟩ := List.filter_eq_cons_iff.mp hrest
    refine ⟨e, he, before' ++ reads, session, ep, rpcType, input, relayReq, calls',
      by rw [List.append_assoc], hsupplier, ?_,
      hmono _ _ _ _ (fun ev hev ↦ List.mem_of_mem_filter hev) hblame⟩
    intro ev hev
    by_cases hread : ev.isRead = true
    · cases ev with
      | read chunk => exact ⟨rfl, rfl⟩
      | _ => cases hread
    · exact hcalls ev (List.mem_filter.mpr ⟨hev, by simpa using hread⟩)
  | _ => trivial

end Statement

namespace Relayer

section Attempts

variable {π σ γ ρ : Type} {r : Relayer σ} {serviceID : ServiceID} {rpcType : RPCType}
  {input : RelayInput} {session : Session} {ep : Endpoint}

/-- An attempt blames nobody but its own supplier, and for what it may report. -/
private theorem Reported.blames {blame : EndpointAddr → Err → List (Event γ) → Prop}
    {run : List (Event γ) × σ × Except π (Attempt Err (Except Err ρ))}
    (h : r.Reported serviceID rpcType input session ep (blame ep.supplier) run)
    {pre post : List (Event γ)} {ev : Event γ} (hsplit : run.1 = pre ++ ev :: post) :
    Blames blame pre ev := by
  have hmem : ev ∈ run.1 := by rw [hsplit]; simp
  cases ev with
  | observe supplier outcome =>
    cases h with
    | silent a quiet returned unsuccessful => exact absurd (quiet _ hmem) (by simp [Event.isSign])
    | cut p untold panicked => exact absurd (untold _ hmem) (by simp [Event.isObserve])
    | told a relayReq call inner success err sends between events returned succeeded blamed =>
      have hquiet : ∀ ev ∈ call :: inner, ev.isSign = false ∧ ev.isObserve = false := by
        rw [List.forall_mem_cons]
        constructor
        · cases call with
          | send => exact ⟨rfl, rfl⟩
          | sendStream => exact ⟨rfl, rfl⟩
          | _ => cases sends
        · intro ev hev
          have hi := between ev hev
          simp only [Event.isInner, Bool.not_eq_true', Bool.or_eq_false_iff] at hi
          exact ⟨hi.1.1, hi.2⟩
      have hnew : (.observe supplier outcome : Event γ) ∉
          .sign session ep rpcType input (.ok relayReq) :: call :: inner := by
        intro hm
        rcases List.mem_cons.mp hm with hm | hm
        · cases hm
        · exact absurd (hquiet _ hm).2 (by simp [Event.isObserve])
      rw [events] at hsplit
      obtain ⟨l, rfl, hobs⟩ := exists_of_append_eq_append_cons hsplit hnew
      intro hfail
      unfold observed at hobs
      cases ho : r.selector.observer with
      | none => simp [ho] at hobs
      | some f =>
        rw [ho] at hobs
        simp only [List.singleton_eq_append_iff, List.cons.injEq, reduceCtorEq, and_false,
          or_false] at hobs
        obtain ⟨rfl, hev, -⟩ := hobs
        cases hev
        obtain ⟨e, he, hb⟩ := blamed hfail
        exact ⟨e, he, [], session, ep, rpcType, input, relayReq, call :: inner, by simp, rfl,
          hquiet, hb⟩
  | _ => trivial

variable [GoLib]

/-- `Relay` blames a supplier for its own failures only. -/
theorem relay_blamesFaults (ctx : Context) (s : σ) :
    BlamesFaults ((r.relay ctx serviceID rpcType input : Exec π σ (Event γ) _).events s) := by
  intro pre supplier outcome post hsplit
  exact r.forall_splits_withFailover (Blames Fault) (fun _ _ _ h ↦ h.append)
    (fun session ep s pre ev post h ↦ (relayAttempt_reported s).blames h) s pre _ post hsplit

/-- Why `RelayStream` may report a failure, if the callback's returns are on the record. -/
private def NotedCause (supplier : EndpointAddr) (e : Err) (calls : List (Event (Noted γ))) :
    Prop :=
  Fault supplier e calls ∨ .client (.returned (.error e)) ∈ calls

private theorem NotedCause.mono (supplier : EndpointAddr) (e : Err)
    (calls calls' : List (Event (Noted γ))) (hsub : ∀ ev ∈ calls, ev ∈ calls')
    (h : NotedCause supplier e calls) : NotedCause supplier e calls' :=
  h.imp (Fault.mono hsub) (hsub _)

omit [GoLib] in
/-- A noted callback that refuses has left a note. -/
private theorem RefusedIn.noted {onBatch : RelayResult → Exec π σ γ (Except Err Unit)} {e : Err}
    {calls : List (Event (Noted γ))} (h : RefusedIn (noting onBatch) e calls) :
    .client (.returned (.error e)) ∈ calls := by
  obtain ⟨result, s, hout, hcalls⟩ := h
  apply hcalls
  rcases hrun : onBatch result s with ⟨es, s', p | returned⟩
  · rw [Exec.outcome, noting_run_error hrun] at hout
    cases hout
  · rw [Exec.outcome, noting_run_ok hrun] at hout
    cases hout
    rw [Exec.events, noting_run_ok hrun]
    exact List.mem_append_right _ (List.mem_singleton_self _)

private theorem relayStream_blames {onBatch : RelayResult → Exec π σ γ (Except Err Unit)}
    (ctx : Context) (s : σ) (pre : List (Event (Noted γ))) (ev : Event (Noted γ))
    (post : List (Event (Noted γ)))
    (hsplit : (r.relayStream ctx serviceID rpcType input (noting onBatch)).events s =
      pre ++ ev :: post) : Blames NotedCause pre ev := by
  unfold relayStream at hsplit
  cases hs : r.streamSender with
  | none => simp [hs, Exec.events, Exec.pure_run] at hsplit
  | some sendStream =>
    rw [hs] at hsplit
    apply r.forall_splits_withFailover (Blames NotedCause) (fun _ _ _ h ↦ h.append) ?_ s pre _ post
      hsplit
    intro session ep s pre ev post hpre
    by_cases hread : ev.isRead = true
    · cases ev with
      | read chunk => trivial
      | _ => cases hread
    · have hrun := r.streamAttempt_run serviceID rpcType sendStream input (noting onBatch) session
        ep s
      apply Blames.of_filter NotedCause.mono
      have hfiltered : (Exec.hide Event.isRead (r.streamAttempt sendStream serviceID rpcType input
          (noting onBatch) session ep) s).1 = pre.filter (fun ev ↦ !ev.isRead) ++
            ev :: post.filter (fun ev ↦ !ev.isRead) := by
        simp [Exec.hide, hpre, hread]
      exact (hrun.reported.imp fun _ _ hb ↦ hb.imp_right RefusedIn.noted).blames hfiltered

omit [GoLib] in
/-- What is left of the calls since a signing when the notes are taken out. -/
private theorem SinceSigned.unnoted {supplier : EndpointAddr} {P : List (Event (Noted γ)) → Prop}
    {P' : List (Event γ) → Prop} {pre : List (Event (Noted γ))}
    (himp : ∀ calls, (∀ ev ∈ calls, ev ∈ pre) → P calls → P' (calls.filterMap Event.unnoted))
    (h : SinceSigned supplier P pre) : SinceSigned supplier P' (pre.filterMap Event.unnoted) := by
  obtain ⟨before, session, ep, rpcType, input, relayReq, calls, rfl, hsupplier, hquiet, hP⟩ := h
  refine ⟨before.filterMap Event.unnoted, session, ep, rpcType, input, relayReq,
    calls.filterMap Event.unnoted, by simp [Event.unnoted], hsupplier, ?_,
    himp calls (fun ev hev ↦ by simp [hev]) hP⟩
  intro ev hev
  obtain ⟨ev', hev', hev⟩ := List.mem_filterMap.mp hev
  have hq := hquiet ev' hev'
  cases ev' with
  | client c =>
    cases c with
    | did e =>
      cases hev
      exact ⟨rfl, rfl⟩
    | returned result => cases hev
  | _ =>
    cases hev
    exact hq

private theorem Fault.unnoted {supplier : EndpointAddr} {e : Err}
    {calls : List (Event (Noted γ))} (h : Fault supplier e calls) :
    Fault supplier e (calls.filterMap Event.unnoted) := by
  rcases h with ⟨url, relayReq, t, h⟩ | ⟨url, relayReq, t, h⟩ | ⟨url, relayReq, t, reply, h, hend⟩ |
    ⟨batch, h⟩
  · exact .inl ⟨url, relayReq, t, List.mem_filterMap.mpr ⟨_, h, rfl⟩⟩
  · exact .inr (.inl ⟨url, relayReq, t, List.mem_filterMap.mpr ⟨_, h, rfl⟩⟩)
  · exact .inr (.inr (.inl ⟨url, relayReq, t, reply, List.mem_filterMap.mpr ⟨_, h, rfl⟩, hend⟩))
  · exact .inr (.inr (.inr ⟨batch, List.mem_filterMap.mpr ⟨_, h, rfl⟩⟩))

/-- A run of `RelayStream` in which the callback returned no error blames a supplier for its own
failures only. -/
theorem relayStream_blamesFaults {onBatch : RelayResult → Exec π σ γ (Except Err Unit)}
    (ctx : Context) (s : σ)
    (h : r.callbackErrors onBatch ctx serviceID rpcType input s = []) :
    BlamesFaults ((r.relayStream ctx serviceID rpcType input onBatch).events s) := by
  intro pre supplier outcome post hsplit hfail
  rw [← relayStream_noting] at hsplit
  obtain ⟨pre', rest, hes, rfl, hrest⟩ := List.filterMap_eq_append_iff.mp hsplit
  obtain ⟨notes, ev, post', rfl, hnotes, hev, -⟩ := List.filterMap_eq_cons_iff.mp hrest
  obtain rfl := Event.eq_observe_of_unnoted hev
  have hsplit' : (r.relayStream ctx serviceID rpcType input (noting onBatch)).events s =
      (pre' ++ notes) ++ .observe supplier outcome :: post' := by
    rw [List.append_assoc]
    exact hes
  obtain ⟨e, he, hsince⟩ := relayStream_blames ctx s _ _ _ hsplit' hfail
  refine ⟨e, he, ?_⟩
  have hpre : (pre' ++ notes).filterMap Event.unnoted = pre'.filterMap Event.unnoted := by
    rw [List.filterMap_append, List.filterMap_eq_nil_iff.mpr hnotes, List.append_nil]
  rw [← hpre]
  apply SinceSigned.unnoted ?_ hsince
  rintro calls hcalls (hfault | hnoted)
  · exact Fault.unnoted hfault
  · -- A note of an error would be one of the run's callback errors.
    have hmem : .client (.returned (.error e)) ∈
        (r.relayStream ctx serviceID rpcType input (noting onBatch)).events s := by
      rw [hsplit']
      exact List.mem_append_left _ (hcalls _ hnoted)
    have herr : e ∈ r.callbackErrors onBatch ctx serviceID rpcType input s :=
      List.mem_filterMap.mpr ⟨_, hmem, rfl⟩
    rw [h] at herr
    cases herr

end Attempts

/-! ### A callback that returns an error -/

section Refused

variable {π σ γ : Type} {onBatch : RelayResult → Exec π σ γ (Except Err Unit)} {e : Err}

/-- A note of an error tells how the call of the callback ended. -/
private theorem returned_mem_iff {result : RelayResult} {s s' : σ} {es : List (Event (Noted γ))}
    {out : Except π (Except Err Unit)}
    (h : callOnBatch (noting onBatch) result s = (es, s', out)) :
    .client (.returned (.error e)) ∈ es ↔ out = .ok (.error e) := by
  rw [callOnBatch_run] at h
  rcases hrun : onBatch result s with ⟨es', s'', p | returned⟩
  · rw [noting_run_error hrun] at h
    cases h
    simp
  · rw [noting_run_ok hrun] at h
    cases h
    simp [eq_comm]

private theorem Delivers.not_returned {validator : Bytes → Seam σ (Except Err RelayResult)}
    {supplier : EndpointAddr} {s s' : σ} {done : List (Bytes × RelayResult)}
    {es : List (Event (Noted γ))}
    (h : Delivers validator supplier (callOnBatch (noting onBatch)) s done es s') :
    .client (.returned (.error e)) ∉ es := by
  induction h with
  | nil s => simp
  | cons batch result valid accepted tail ih =>
    have hno := mt (returned_mem_iff accepted (e := e)).mp (by simp)
    simp [hno, ih]

private theorem DeliverRun.of_returned {validator : Bytes → Seam σ (Except Err RelayResult)}
    {supplier : EndpointAddr} {ending : Except Err Unit} {delivered : Bool} {s : σ}
    {bs : List Bytes} {run : List (Event (Noted γ)) × σ × Except π (Except Err Unit × Bool)}
    (h : DeliverRun validator supplier (callOnBatch (noting onBatch)) ending delivered s bs run)
    (hm : .client (.returned (.error e)) ∈ run.1) : ∃ d, run.2.2 = .ok (.error e, d) := by
  cases h with
  | complete done es s' all delivers run_eq =>
    rw [run_eq] at hm
    exact absurd hm (Delivers.not_returned delivers)
  | invalid done batch rest es s' s'' e' split delivers failed run_eq =>
    rw [run_eq] at hm
    simp [Delivers.not_returned delivers] at hm
  | refused done batch result rest es es' s' s₁ s₂ e' split delivers valid failed run_eq =>
    rw [run_eq] at hm
    have hes' : .client (.returned (.error e)) ∈ es' := by
      simpa [Delivers.not_returned delivers] using hm
    cases (returned_mem_iff failed).mp hes'
    exact ⟨true, by rw [run_eq]⟩
  | panicked done batch result rest es es' s' s₁ s₂ p split delivers valid failed run_eq =>
    rw [run_eq] at hm
    have hes' : .client (.returned (.error e)) ∈ es' := by
      simpa [Delivers.not_returned delivers] using hm
    cases (returned_mem_iff failed).mp hes'

variable [GoLib] {r : Relayer σ} {serviceID : ServiceID} {rpcType : RPCType} {input : RelayInput}

/-- An attempt whose callback returned an error reports it as the supplier's. -/
private theorem AttemptRun.observes_returned
    {sendStream : String → Bytes → RPCType → Seam σ (Except Err Reply)} {session : Session}
    {ep : Endpoint} {s : σ}
    {run : List (Event (Noted γ)) × σ × Except π (Attempt Err (Except Err Unit))}
    (h : r.AttemptRun serviceID rpcType sendStream input (noting onBatch) session ep s run)
    (hm : .client (.returned (.error e)) ∈ run.1) (hobs : r.selector.observer.isSome = true) :
    .observe ep.supplier ⟨serviceID, rpcType, false, some e⟩ ∈ run.1 := by
  obtain ⟨f, hf⟩ := Option.isSome_iff_exists.mp hobs
  cases h with
  | noURL absent run_eq =>
    rw [run_eq] at hm
    cases hm
  | unsigned url e' s' found signed run_eq =>
    rw [run_eq] at hm
    simp at hm
  | unsent url relayReq e' s₁ s₂ found signed sent run_eq =>
    rw [run_eq] at hm
    simp [observed, hf] at hm
  | consumed url relayReq reply s₁ s₂ batches found signed sent delivery run_eq =>
    rw [run_eq] at hm ⊢
    have hbatches : .client (.returned (.error e)) ∈ batches.1 := by
      have hafter : .client (.returned (.error e)) ∈
          (r.afterDelivery serviceID rpcType ep.supplier batches).1 := by simpa using hm
      rcases mem_afterDelivery hafter with hb | hb | ⟨success, err, hb⟩
      · exact hb
      · cases hb
      · exact absurd hb (not_mem_observed (by simp))
    obtain ⟨d, hd⟩ := DeliverRun.of_returned delivery hbatches
    rcases batches with ⟨es, s', out⟩
    cases hd
    simp [afterDelivery, observed, hf]

/-- Every error that the callback returned in a run of `RelayStream` was reported as a failure of
a supplier. -/
theorem callbackErrors_observed {ctx : Context} {s : σ}
    (h : e ∈ r.callbackErrors onBatch ctx serviceID rpcType input s)
    (hobs : r.selector.observer.isSome = true) :
    ∃ supplier, .observe supplier ⟨serviceID, rpcType, false, some e⟩ ∈
      (r.relayStream ctx serviceID rpcType input onBatch).events s := by
  obtain ⟨ev, hev, he⟩ := List.mem_filterMap.mp h
  obtain rfl := Event.callbackError?_eq_some he
  suffices hnoted : ∃ supplier, .observe supplier ⟨serviceID, rpcType, false, some e⟩ ∈
      (r.relayStream ctx serviceID rpcType input (noting onBatch)).events s by
    obtain ⟨supplier, hm⟩ := hnoted
    rw [← relayStream_noting]
    exact ⟨supplier, List.mem_filterMap.mpr ⟨_, hm, rfl⟩⟩
  have hhidden := (Exec.mem_events_hide Event.isRead _ s _).mpr ⟨hev, rfl⟩
  suffices hquiet : ∃ supplier, .observe supplier ⟨serviceID, rpcType, false, some e⟩ ∈
      (Exec.hide Event.isRead
        (r.relayStream ctx serviceID rpcType input (noting onBatch))).events s by
    obtain ⟨supplier, hm⟩ := hquiet
    exact ⟨supplier, ((Exec.mem_events_hide _ _ s _).mp hm).1⟩
  unfold relayStream at hhidden ⊢
  cases hs : r.streamSender with
  | none =>
    rw [hs] at hhidden
    cases hhidden
  | some sendStream =>
    simp only [hs, hide_withFailover] at hhidden ⊢
    obtain ⟨session, s₁, ep, s₂, -, hm, hinfix⟩ := r.exists_attempt_withFailover hhidden
    have hrun := r.streamAttempt_run serviceID rpcType sendStream input (noting onBatch) session
      ep s₂
    exact ⟨ep.supplier, hinfix.subset (AttemptRun.observes_returned hrun hm hobs)⟩

end Refused

/-- `Relay` blames a supplier only for its own failures, and so does every run of `RelayStream`
in which no call of the callback returns an error. In the other runs every such error is
reported, to whoever observes, as a failure of a supplier. -/
theorem blames_only_suppliers_at_fault [GoLib] {π σ γ : Type} (r : Relayer σ) (ctx : Context)
    (serviceID : ServiceID) (rpcType : RPCType) (input : RelayInput)
    (onBatch : RelayResult → Exec π σ γ (Except Err Unit)) (s : σ) :
    BlamesFaults ((r.relay ctx serviceID rpcType input : Exec π σ (Event γ) _).events s) ∧
    (r.callbackErrors onBatch ctx serviceID rpcType input s = [] →
      BlamesFaults ((r.relayStream ctx serviceID rpcType input onBatch).events s)) ∧
    (r.selector.observer.isSome = true →
      ∀ e ∈ r.callbackErrors onBatch ctx serviceID rpcType input s,
        ∃ supplier, .observe supplier ⟨serviceID, rpcType, false, some e⟩ ∈
          (r.relayStream ctx serviceID rpcType input onBatch).events s) :=
  ⟨relay_blamesFaults ctx s, relayStream_blamesFaults ctx s,
    fun hobs _ he ↦ callbackErrors_observed he hobs⟩

/-! ### A client that may go away -/

/-- A reply that is one response. -/
def oneResponse : Reply := ⟨.final [1] .eof, [], 200⟩

/-- The endpoints of two suppliers. -/
def twoEndpoints : List Endpoint :=
  [⟨"pokt1a", fun _ ↦ some "https://a.example"⟩, ⟨"pokt1b", fun _ ↦ some "https://b.example"⟩]

/-- The first of them cannot be reached, the second sends one response. -/
def twoSuppliers : Relayer (Nat × Unit) :=
  liftRelayer Nat (scripted twoEndpoints (fun url ↦
    if url = "https://a.example" then .error (.text "connection refused")
    else .ok oneResponse))

/-- What a write to a client that is gone returns. -/
def brokenPipe : Err := .errorf "write to client: " (.text "broken pipe")

/-- A client that is gone after so many responses. -/
def goneAfter : RelayResult → Exec Empty (Nat × Unit) Empty (Except Err Unit) :=
  fun _ s ↦
    match s.1 with
    | 0 => ([], s, .ok (.error brokenPipe))
    | n + 1 => ([], (n, s.2), .ok (.ok ()))

/-- The first supplier is blamed for its own failure, also with a callback that may return
errors, as long as it does not. -/
theorem blames_only_suppliers_at_fault_delivered :
    let _ : GoLib := GoLib.plain
    let es := (twoSuppliers.relayStream {} "eth" .jsonRPC ⟨"POST", "/", [], []⟩
      goneAfter).events (1, ())
    .observe "pokt1a" ⟨"eth", .jsonRPC, false, some (.text "connection refused")⟩ ∈ es ∧
      BlamesFaults es := by
  intro _ es
  refine ⟨?_, (blames_only_suppliers_at_fault twoSuppliers {} "eth" .jsonRPC ⟨"POST", "/", [], []⟩
    goneAfter (1, ())).2.1 (by decide +kernel)⟩
  exact List.mem_of_getElem? (i := 2) rfl

private theorem plan_oneResponse [GoLib] (supplier : EndpointAddr) :
    plan supplier oneResponse.body oneResponse.header = ⟨[[1]], .ok ()⟩ := by
  have hr : (oneResponse.body.readAllLimited (maxResponseBytes + 1)).2 = ([1], none) :=
    Body.readAllLimited_of_lt (by simp [oneResponse, Body.bytes, maxResponseBytes])
  have hn : isStreamingResponse oneResponse.header = false := rfl
  simp only [plan, hn, Bool.false_eq_true, if_false, wholePlan, hr]
  rfl

/-- The calls of a run up to the report on the second supplier. -/
private def callsBefore : List (Event Empty) :=
  let sign (ep : Endpoint) := .sign ⟨"session", "eth", "app", 1, twoEndpoints, none⟩ ep .jsonRPC
    ⟨"POST", "/", [], []⟩ (.ok [])
  [sign ⟨"pokt1a", fun _ ↦ some "https://a.example"⟩,
    .sendStream "https://a.example" [] .jsonRPC (.error (.text "connection refused")),
    .observe "pokt1a" ⟨"eth", .jsonRPC, false, some (.text "connection refused")⟩,
    sign ⟨"pokt1b", fun _ ↦ some "https://b.example"⟩,
    .sendStream "https://b.example" [] .jsonRPC (.ok oneResponse), .read ⟨[1], some .eof⟩,
    .validate "pokt1b" [1] (.ok ⟨200, [], [1]⟩), .onBatch ⟨200, [], [1]⟩, .close]

/-- As far as the supplier is concerned, none of these calls failed in the way reported. -/
private theorem callsBefore_no_fault [GoLib] : ¬ Fault "pokt1b" brokenPipe callsBefore := by
  rintro (⟨url, req, t, hm⟩ | ⟨url, req, t, hm⟩ | ⟨url, req, t, reply, hm, hend⟩ | ⟨batch, hm⟩)
  · simp [callsBefore] at hm
  · have hne : brokenPipe ≠ .text "connection refused" := by decide
    simp [callsBefore, hne] at hm
  · have hreply : reply = oneResponse := by
      simp only [callsBefore, List.mem_cons, Event.sendStream.injEq, reduceCtorEq, and_false,
        false_or, Except.ok.injEq, List.not_mem_nil, or_false] at hm
      exact hm.2.2.2
    rw [hreply, plan_oneResponse] at hend
    cases hend
  · simp [callsBefore] at hm

/-- The second supplier answers well and is reported as failed, because the client is gone. -/
theorem goneAway_blames_supplier :
    let _ : GoLib := GoLib.plain
    let es := (twoSuppliers.relayStream {} "eth" .jsonRPC ⟨"POST", "/", [], []⟩
      goneAfter).events (0, ())
    .observe "pokt1b" ⟨"eth", .jsonRPC, false, some brokenPipe⟩ ∈ es ∧ ¬ BlamesFaults es := by
  intro _ es
  have hes : es = callsBefore ++ [.observe "pokt1b" ⟨"eth", .jsonRPC, false, some brokenPipe⟩] :=
    rfl
  refine ⟨by rw [hes]; simp, fun hblames ↦ ?_⟩
  obtain ⟨e, he, before, session, ep, t, input, relayReq, calls, hpre, -, -, hfault⟩ :=
    hblames callsBefore _ _ [] hes rfl
  cases he
  exact callsBefore_no_fault (hfault.mono fun ev hev ↦ by simp [hpre, hev])

end Relayer
end PocketAp.Relay
