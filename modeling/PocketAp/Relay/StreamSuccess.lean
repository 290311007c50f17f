import PocketAp.Relay.Delivery
import PocketAp.Relay.StreamSplit

/-!
# What a successful stream has delivered

`RelayStream` returns nil when a body was consumed without an error. A streaming body that
ends cleanly and carries no batch is consumed without an error too, so nil does not imply
that anything was delivered; `relayStream_nil_delivers_iff` says that such a reply is the
only exception. `src/relay/stream.go:152–172, 246–271`.
-/

namespace PocketAp.Relay

open PocketAp.Base PocketAp.Domain

/-- A streaming reply that ends cleanly without a batch: nothing but delimiters, if that. -/
def Reply.Blank [GoLib] (reply : Reply) : Prop :=
  isStreamingResponse reply.header = true ∧
    ∃ w, reply.body.yield maxConsecutiveEmptyReads = (w, .eof) ∧
      nonempty (batchSegments w) = [] ∧ batchTail w = []

section Plans

variable [GoLib]

omit [GoLib] in
private theorem streamPlan_blank_iff (body : Body UInt8 Err) :
    ((streamPlan body).batches = [] ∧ (streamPlan body).ending = .ok ()) ↔
      ∃ w, body.yield maxConsecutiveEmptyReads = (w, .eof) ∧
        nonempty (batchSegments w) = [] ∧ batchTail w = [] := by
  rcases hy : body.yield maxConsecutiveEmptyReads with ⟨w, stop⟩
  have hrest : (newScanner body).rest = w := by simp [Scanner.rest, newScanner, hy]
  have hstop : (newScanner body).stop = stop := by simp [Scanner.stop, newScanner, hy]
  unfold streamPlan
  cases newScanner_drain body with
  | ended tokens err fitting =>
    rw [tokens, err, hrest, hstop]
    cases stop with
    | eof =>
      have hp := planOfTokens_tokensOf w .eof
      simp only [ScanEnd.ofRead] at hp
      rw [hp]
      simp [batchesOf, endingOf]
    | failed e => simp [planOfTokens, scannerErr]
    | tooLong => simp [planOfTokens, scannerErr]
    | noProgress => simp [planOfTokens, scannerErr]
  | longSegment before after long split tokens err fitting unfitting =>
    rw [tokens, err, planOfTokens_tooLong]
    rw [hrest] at split
    have hlong : long ∈ nonempty (batchSegments w) := by
      have hne : long ≠ [] := by
        intro h
        subst h
        exact unfitting (by simp [Scanner.SegmentFits, streamDelimiter, maxBatchBytes])
      have hm : long ∈ batchSegments w := by
        unfold batchSegments
        rw [split]
        simp
      simp [nonempty, hm, hne]
    constructor
    · rintro ⟨-, h⟩
      cases h
    · rintro ⟨w', h, hsegs, -⟩
      cases h
      rw [hsegs] at hlong
      cases hlong
  | longTail tokens err fitting long =>
    rw [tokens, err, planOfTokens_tooLong]
    rw [hrest] at long
    constructor
    · rintro ⟨-, h⟩
      cases h
    · rintro ⟨w', h, -, htail⟩
      cases h
      unfold batchTail at htail
      rw [htail] at long
      simp [maxBatchBytes] at long

/-- A reply is consumed without an error and without a batch exactly when it is blank. -/
theorem plan_blank_iff (supplier : EndpointAddr) (reply : Reply) :
    ((plan supplier reply.body reply.header).batches = [] ∧
      (plan supplier reply.body reply.header).ending = .ok ()) ↔ reply.Blank := by
  unfold plan Reply.Blank
  split
  · next h =>
    simp only [h, true_and]
    exact streamPlan_blank_iff reply.body
  · next h =>
    constructor
    · rintro ⟨hb, he⟩
      unfold wholePlan at hb he
      simp only at hb he
      split at hb
      · next e hr => rw [hr] at he; cases he
      · next hr =>
        rw [hr] at he
        simp only at he
        split at hb
        · next hl => rw [if_pos hl] at he; cases he
        · cases hb
    · rintro ⟨hs, -⟩
      exact absurd hs h

end Plans

/-! ### Runs of `RelayStream` -/

/-- Nothing in a record has reached the client, and no reply in it was blank. -/
def NoneDelivered {γ : Type} [GoLib] (es : List (Event γ)) : Prop :=
  (∀ ev ∈ es, ev.Fruitless) ∧
    ∀ url relayReq t reply, .sendStream url relayReq t (.ok reply) ∈ es → ¬ reply.Blank

section Runs

variable {π σ γ : Type} [GoLib] (r : Relayer σ)
  (sendStream : String → Bytes → RPCType → Seam σ (Except Err Reply)) (serviceID : ServiceID)
  (rpcType : RPCType) (input : RelayInput) (onBatch : RelayResult → Exec π σ γ (Except Err Unit))

/-- What a run of `RelayStream` can do, reads left out: fail without having reached the
client, or end in one last attempt after some that did not reach it. Until then a property
`I` of the world that the seams keep still holds. -/
inductive StreamRun (I : σ → Prop) (run : List (Event γ) × σ × Except π (Except Err Unit)) :
    Prop where
  | failed (es : List (Event γ)) (s' : σ) (e : Err) (before : NoneDelivered es) (kept : I s')
      (run_eq : run = (es, s', .ok (.error e)))
  | ended (session : Session) (ep : Endpoint) (es final : List (Event γ)) (s₀ s' : σ)
      (out : Except π (Except Err Unit)) (before : NoneDelivered es) (kept : I s₀)
      (attempt : r.AttemptRun serviceID rpcType sendStream input onBatch session ep s₀
        (final, s', out.map .finish))
      (run_eq : run = (es ++ final, s', out))

private theorem noneDelivered_skips (session : Session) {s s' : σ} {last last' : Option Err}
    {eps : List Endpoint} {es : List (Event γ)}
    (h : Skips (fun ep ↦ Exec.hide Event.isRead
      (r.streamAttempt sendStream serviceID rpcType input onBatch session ep))
      s last eps es s' last') : NoneDelivered es := by
  have key : ∀ ev ∈ es, ev.Fruitless ∧
      ∀ url relayReq t reply, ev = .sendStream url relayReq t (.ok reply) → ¬ reply.Blank := by
    apply h.forall_events
    intro ep _ s₁ es₁ s₂ e hrun ev hev
    have ha := r.streamAttempt_run serviceID rpcType sendStream input onBatch session ep s₁
    rw [hrun] at ha
    obtain ⟨h1, h2⟩ := ha.of_next
    refine ⟨h1 ev hev, ?_⟩
    rintro url relayReq t reply rfl hblank
    exact h2 url relayReq t reply hev ((plan_blank_iff ep.supplier reply).mpr hblank)
  refine ⟨fun ev hev ↦ (key ev hev).1, ?_⟩
  intro url relayReq t reply hev
  exact (key _ hev).2 url relayReq t reply rfl

/-- What `RelayStream` can do. -/
theorem relayStream_run (ctx : Context) (hsend : r.streamSender = some sendStream) (I : σ → Prop)
    (hI : r.Keeps I) (s : σ) (hs : I s) :
    StreamRun r sendStream serviceID rpcType input onBatch I
      (Exec.hide Event.isRead (r.relayStream ctx serviceID rpcType input onBatch) s) := by
  unfold Relayer.relayStream
  rw [hsend]
  simp only
  rw [r.hide_withFailover]
  cases r.withFailover_run ctx serviceID rpcType (fun session ep ↦ Exec.hide Event.isRead
      (r.streamAttempt sendStream serviceID rpcType input onBatch session ep)) s with
  | unavailable e s' kept run_eq =>
    exact .failed [] s' e (by simp [NoneDelivered]) (kept I hI hs) run_eq
  | tried session ordered s₁ s₂ tries fetched selected ne_nil tries_eq run_eq =>
    have ht := tryEach_tried (fun ep ↦ Exec.hide Event.isRead
      (r.streamAttempt sendStream serviceID rpcType input onBatch session ep)) s₂ none
      (ordered.take (attemptCap r.maxAttempts ordered.length))
    have hs₂ : I s₂ := by
      have h₁ := hI.sessions serviceID s hs
      rw [fetched] at h₁
      have h₂ := hI.select ctx serviceID session.endpoints rpcType s₁ h₁
      rwa [selected] at h₂
    have hnext (ep : Endpoint) (w : σ) (es : List (Event γ)) (w' : σ) (e : Err)
        (hrun : Exec.hide Event.isRead (r.streamAttempt sendStream serviceID rpcType input onBatch
          session ep) w = (es, w', .ok (.next e))) (hw : I w) : I w' := by
      have ha := r.streamAttempt_run serviceID rpcType sendStream input onBatch session ep w
      rw [hrun] at ha
      exact ha.keeps_of_next hI hsend hw
    rw [← tries_eq] at ht
    rw [run_eq]
    cases ht with
    | exhausted es s' last' skips tries_eq =>
      subst tries_eq
      exact .failed es s' _ (noneDelivered_skips r sendStream serviceID rpcType input onBatch
        session skips) (skips.keeps hnext hs₂) rfl
    | finished before after ep es es' s' s'' last' result split skips final tries_eq =>
      subst tries_eq
      have ha := r.streamAttempt_run serviceID rpcType sendStream input onBatch session ep s'
      rw [final] at ha
      exact .ended session ep es es' s' s'' (.ok result) (noneDelivered_skips r sendStream
        serviceID rpcType input onBatch session skips) (skips.keeps hnext hs₂) ha rfl
    | panicked before after ep es es' s' s'' last' p split skips final tries_eq =>
      subst tries_eq
      have ha := r.streamAttempt_run serviceID rpcType sendStream input onBatch session ep s'
      rw [final] at ha
      exact .ended session ep es es' s' s'' (.error p) (noneDelivered_skips r sendStream
        serviceID rpcType input onBatch session skips) (skips.keeps hnext hs₂) ha rfl

variable {r sendStream serviceID rpcType input onBatch}

/-- A blank reply ends the run well, and nothing is handed on. -/
theorem AttemptRun.of_blank {session : Session} {ep : Endpoint} {s s' : σ}
    {es : List (Event γ)} {out : Except π (Except Err Unit)} {url : String} {relayReq : Bytes}
    {t : RPCType} {reply : Reply}
    (h : r.AttemptRun serviceID rpcType sendStream input onBatch session ep s
      (es, s', out.map .finish))
    (hm : .sendStream url relayReq t (.ok reply) ∈ es) (hblank : reply.Blank) :
    out = .ok (.ok ()) ∧ ∀ result, .onBatch result ∉ es := by
  cases h with
  | noURL absent run_eq =>
    cases out <;> simp [Except.map] at run_eq
  | unsigned url' e s₁ found signed run_eq =>
    cases out with
    | error p => simp [Except.map] at run_eq
    | ok res =>
      cases run_eq
      simp at hm
  | unsent url' relayReq' e s₁ s₂ found signed sent run_eq =>
    cases out <;> simp [Except.map] at run_eq
  | consumed url' relayReq' reply' s₁ s₂ batches found signed sent delivery run_eq =>
    have hes := congrArg Prod.fst run_eq
    simp only at hes
    have hreply : reply = reply' := by
      rw [hes] at hm
      simp only [List.cons_append, List.nil_append, List.mem_cons, reduceCtorEq,
        Event.sendStream.injEq, Except.ok.injEq, false_or] at hm
      rcases hm with ⟨-, -, -, h⟩ | hm
      · exact h
      · rcases Relayer.mem_afterDelivery hm with hm | hm | ⟨_, _, hm⟩
        · exact absurd (delivery.delivery _ hm) (by simp [Event.IsDelivery])
        · cases hm
        · exact absurd hm (Relayer.not_mem_observed (by simp))
    subst hreply
    obtain ⟨hb, hend⟩ := (plan_blank_iff ep.supplier reply).mpr hblank
    rw [hb, hend] at delivery
    have hrun := delivery.of_nil
    subst hrun
    simp only [Relayer.afterDelivery, List.nil_append, Prod.mk.injEq] at run_eq
    constructor
    · cases out with
      | error p => simp [Except.map] at run_eq
      | ok res => simpa [Except.map] using run_eq.2.2
    · intro result hr
      rw [run_eq.1] at hr
      simp only [List.cons_append, List.nil_append, List.mem_cons, reduceCtorEq, false_or] at hr
      exact absurd hr (Relayer.not_mem_observed (by simp))

end Runs

/-- A run that returns nil has handed on a result that was validated for the one supplier
reported as successful. -/
def DeliversOnSuccess {π σ γ : Type} (run : Exec π σ (Event γ) (Except Err Unit)) (s : σ) : Prop :=
  run.outcome s = .ok (.ok ()) → ∃ supplier batch result,
    .validate supplier batch (.ok result) ∈ run.events s ∧ .onBatch result ∈ run.events s ∧
    ∀ supplier' outcome, .observe supplier' outcome ∈ run.events s → outcome.success = true →
      supplier' = supplier

private theorem deliversOnSuccess_hide {π σ γ : Type}
    (run : Exec π σ (Event γ) (Except Err Unit)) (s : σ) :
    DeliversOnSuccess (Exec.hide Event.isRead run) s ↔ DeliversOnSuccess run s := by
  simp [DeliversOnSuccess, Exec.outcome_hide, Exec.mem_events_hide, Event.isRead]

/-- An attempt that returned nil without a blank reply has handed on a validated result. -/
theorem exists_delivered {π σ γ : Type} [GoLib] {r : Relayer σ}
    {sendStream : String → Bytes → RPCType → Seam σ (Except Err Reply)} {serviceID : ServiceID}
    {rpcType : RPCType} {input : RelayInput}
    {onBatch : RelayResult → Exec π σ γ (Except Err Unit)} {session : Session} {ep : Endpoint}
    {s s' : σ} {es : List (Event γ)}
    (h : r.AttemptRun serviceID rpcType sendStream input onBatch session ep s
      (es, s', .ok (.finish (.ok ()))))
    (hblank : ∀ url relayReq t reply, .sendStream url relayReq t (.ok reply) ∈ es →
      ¬ reply.Blank) :
    (∃ batch result, .validate ep.supplier batch (.ok result) ∈ es ∧ .onBatch result ∈ es) ∧
      ∀ supplier' outcome, .observe supplier' outcome ∈ es → supplier' = ep.supplier := by
  obtain ⟨url, relayReq, reply, s₂, s₃, done, es₀, hend, hb, hd, rfl⟩ := h.of_finish_ok
  have hnb := hblank url relayReq rpcType reply (by simp)
  constructor
  · cases hd with
    | nil => exact absurd ((plan_blank_iff ep.supplier reply).mp ⟨by simpa using hb, hend⟩) hnb
    | cons batch result valid accepted tail =>
      refine ⟨batch, result, by simp, ?_⟩
      rw [callOnBatch_events accepted]
      simp
  · intro supplier' outcome hm
    simp only [List.cons_append, List.nil_append, List.mem_cons, List.mem_append, reduceCtorEq,
      false_or] at hm
    rcases hm with hm | hm
    · exact absurd (hd.delivery _ hm) (by simp [Event.IsDelivery])
    · exact Relayer.eq_of_mem_observed hm

/-- Success means at least one verified batch exactly when no reply was blank. -/
theorem relayStream_nil_delivers_iff {π σ γ : Type} [GoLib] (r : Relayer σ) (ctx : Context)
    (serviceID : ServiceID) (rpcType : RPCType) (input : RelayInput)
    (onBatch : RelayResult → Exec π σ γ (Except Err Unit)) (s : σ) :
    DeliversOnSuccess (r.relayStream ctx serviceID rpcType input onBatch) s ↔
      ∀ url relayReq t reply, .sendStream url relayReq t (.ok reply) ∈
        (r.relayStream ctx serviceID rpcType input onBatch).events s → ¬ reply.Blank := by
  cases hsend : r.streamSender with
  | none =>
    simp [DeliversOnSuccess, Relayer.relayStream, hsend, Exec.outcome, Exec.events, Exec.pure_run]
  | some sendStream =>
    have hrun := relayStream_run r sendStream serviceID rpcType input onBatch ctx hsend
      (fun _ ↦ True) (Relayer.Keeps.trivial r) s trivial
    rw [← deliversOnSuccess_hide]
    have hmem (url relayReq t reply) :
        (.sendStream url relayReq t (.ok reply) : Event γ) ∈
            (r.relayStream ctx serviceID rpcType input onBatch).events s ↔
          .sendStream url relayReq t (.ok reply) ∈ (Exec.hide Event.isRead
            (r.relayStream ctx serviceID rpcType input onBatch)).events s := by
      simp [Exec.mem_events_hide, Event.isRead]
    simp only [hmem]
    unfold DeliversOnSuccess Exec.outcome Exec.events
    cases hrun with
    | failed es s' e before kept run_eq =>
      rw [run_eq]
      constructor
      · intro _
        exact before.2
      · intro _ h
        cases h
    | ended session ep es final s₀ s' out before kept attempt run_eq =>
      rw [run_eq]
      simp only
      constructor
      · intro hP url relayReq t reply hm hblank
        rcases List.mem_append.mp hm with hm | hm
        · exact before.2 url relayReq t reply hm hblank
        · -- The blank reply made the run succeed, so a result must have been handed on.
          obtain ⟨hout, hno⟩ := AttemptRun.of_blank attempt hm hblank
          obtain ⟨supplier, batch, result, -, hr, -⟩ := hP hout
          rcases List.mem_append.mp hr with hr | hr
          · exact before.1 _ hr
          · exact hno result hr
      · intro hC hout
        subst hout
        obtain ⟨⟨batch, result, hv, hr⟩, hobs⟩ := exists_delivered attempt
          (fun url relayReq t reply hm ↦ hC url relayReq t reply (List.mem_append_right es hm))
        refine ⟨ep.supplier, batch, result, List.mem_append_right es hv,
          List.mem_append_right es hr, ?_⟩
        intro supplier' outcome hm hsuccess
        rcases List.mem_append.mp hm with hm | hm
        · have hf : outcome.success = false := before.1 _ hm
          rw [hsuccess] at hf
          cases hf
        · exact hobs supplier' outcome hm

/-- One supplier that answers a stream of server-sent events with an empty body. -/
def blankRun : Exec Empty Unit (Event Empty) (Except Err Unit) :=
  @Relayer.relayStream Empty Unit Empty GoLib.plain
    (Relayer.scripted [⟨"pokt1a", fun _ ↦ some "https://a.example"⟩]
      (fun _ ↦ .ok ⟨.final [] .eof, [("Content-Type", ["text/event-stream"])], 200⟩))
    {} "eth" .rest ⟨"GET", "/", [], []⟩ (fun _ ↦ pure (.ok ()))

/-- The run returns nil and has handed nothing on. -/
theorem blankRun_succeeds_undelivered :
    blankRun.outcome () = .ok (.ok ()) ∧ (blankRun.events ()).filterMap Event.batch? = [] ∧
      ¬ DeliversOnSuccess blankRun () := by
  have hout : blankRun.outcome () = .ok (.ok ()) := by decide +kernel
  have hev : (blankRun.events ()).filterMap Event.batch? = [] := by decide +kernel
  refine ⟨hout, hev, ?_⟩
  intro h
  obtain ⟨supplier, batch, result, -, hr, -⟩ := h hout
  have hm : result ∈ (blankRun.events ()).filterMap Event.batch? :=
    List.mem_filterMap.mpr ⟨_, hr, rfl⟩
  rw [hev] at hm
  cases hm

end PocketAp.Relay
