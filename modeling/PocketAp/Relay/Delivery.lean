import PocketAp.Relay.StreamPlan

/-!
# Runs of a streaming attempt

What one attempt of `RelayStream` can do, `src/relay/stream.go:130–171`, with the reads of
the body left out: `DeliverRun` for the batches of a reply, `AttemptRun` for the whole
attempt. The cases are those of the source; later results go through them and do not look
at the code again.
-/

namespace PocketAp.Relay

open PocketAp.Base PocketAp.Domain

/-- Nothing was found valid or has reached the client, and no supplier was reported as
successful. -/
def Event.Fruitless {γ : Type} : Event γ → Prop
  | .validate _ _ (.ok _) => False
  | .onBatch _ => False
  | .client _ => False
  | .observe _ outcome => outcome.success = false
  | _ => True

/-- A batch that was found valid, and its result. -/
def Event.valid? {γ : Type} : Event γ → Option (Bytes × RelayResult)
  | .validate _ batch (.ok result) => some (batch, result)
  | _ => none

/-- The result of a call to the callback. -/
def Event.batch? {γ : Type} : Event γ → Option RelayResult
  | .onBatch result => some result
  | _ => none

/-- Calls made while the batches of one supplier are delivered. -/
def Event.IsDelivery {γ : Type} (supplier : EndpointAddr) : Event γ → Prop
  | .validate supplier' _ _ => supplier' = supplier
  | .onBatch _ => True
  | .client _ => True
  | _ => False

section Batches

variable {π σ γ : Type}
variable (validator : Bytes → Seam σ (Except Err RelayResult)) (supplier : EndpointAddr)
  (onBatch : RelayResult → Exec π σ (Event γ) (Except Err Unit))

/-- Batches that were validated and accepted one after another, with their results. -/
inductive Delivers : σ → List (Bytes × RelayResult) → List (Event γ) → σ → Prop where
  | nil (s : σ) : Delivers s [] [] s
  | cons {s s₁ s₂ s₃ : σ} {done : List (Bytes × RelayResult)} {es es' : List (Event γ)}
      (batch : Bytes) (result : RelayResult)
      (valid : validator batch s = (.ok result, s₁))
      (accepted : onBatch result s₁ = (es, s₂, .ok (.ok ())))
      (tail : Delivers s₂ done es' s₃) :
      Delivers s ((batch, result) :: done)
        (.validate supplier batch (.ok result) :: (es ++ es')) s₃

/-- What delivering the batches of a reply can do: accept all of them, or stop at the first
one that is invalid, refused by the callback, or makes it panic. -/
inductive DeliverRun (ending : Except Err Unit) (delivered : Bool) (s : σ) (bs : List Bytes)
    (run : List (Event γ) × σ × Except π (Except Err Unit × Bool)) : Prop where
  | complete (done : List (Bytes × RelayResult)) (es : List (Event γ)) (s' : σ)
      (all : bs = done.map Prod.fst) (delivers : Delivers validator supplier onBatch s done es s')
      (run_eq : run = (es, s', .ok (ending, delivered || !done.isEmpty)))
  | invalid (done : List (Bytes × RelayResult)) (batch : Bytes) (rest : List Bytes)
      (es : List (Event γ)) (s' s'' : σ) (e : Err)
      (split : bs = done.map Prod.fst ++ batch :: rest)
      (delivers : Delivers validator supplier onBatch s done es s')
      (failed : validator batch s' = (.error e, s''))
      (run_eq : run = (es ++ [.validate supplier batch (.error e)], s'',
        .ok (.error e, delivered || !done.isEmpty)))
  | refused (done : List (Bytes × RelayResult)) (batch : Bytes) (result : RelayResult)
      (rest : List Bytes) (es es' : List (Event γ)) (s' s₁ s₂ : σ) (e : Err)
      (split : bs = done.map Prod.fst ++ batch :: rest)
      (delivers : Delivers validator supplier onBatch s done es s')
      (valid : validator batch s' = (.ok result, s₁))
      (failed : onBatch result s₁ = (es', s₂, .ok (.error e)))
      (run_eq : run = (es ++ .validate supplier batch (.ok result) :: es', s₂,
        .ok (.error e, true)))
  | panicked (done : List (Bytes × RelayResult)) (batch : Bytes) (result : RelayResult)
      (rest : List Bytes) (es es' : List (Event γ)) (s' s₁ s₂ : σ) (p : π)
      (split : bs = done.map Prod.fst ++ batch :: rest)
      (delivers : Delivers validator supplier onBatch s done es s')
      (valid : validator batch s' = (.ok result, s₁))
      (failed : onBatch result s₁ = (es', s₂, .error p))
      (run_eq : run = (es ++ .validate supplier batch (.ok result) :: es', s₂, .error p))

/-- What a delivery can do. -/
theorem deliverTracked_run (ending : Except Err Unit) (delivered : Bool) (s : σ)
    (bs : List Bytes) :
    DeliverRun validator supplier onBatch ending delivered s bs
      (deliverTracked
        (fun batch ↦ Exec.call (validator batch) (.validate supplier batch))
        onBatch ending delivered bs s) := by
  induction bs generalizing delivered s with
  | nil =>
    rw [deliverTracked_nil]
    exact .complete [] [] s rfl (.nil s) (by simp [Exec.pure_run])
  | cons b bs ih =>
    rw [deliverTracked_cons]
    rcases hv : validator b s with ⟨e | result, s₁⟩
    · rw [Exec.bind_run_ok (Exec.call_run hv _)]
      exact .invalid [] b bs [] s s₁ e rfl (.nil s) hv (by simp [Exec.pure_run])
    · rw [Exec.bind_run_ok (Exec.call_run hv _)]
      simp only
      rcases ho : onBatch result s₁ with ⟨es, s₂, p | e | u⟩
      · rw [Exec.bind_run_error ho]
        exact .panicked [] b result bs [] es s s₁ s₂ p rfl (.nil s) hv ho rfl
      · rw [Exec.bind_run_ok ho]
        exact .refused [] b result bs [] es s s₁ s₂ e rfl (.nil s) hv ho
          (by simp [Exec.pure_run])
      · rw [Exec.bind_run_ok ho]
        cases ih true s₂ with
        | complete done es' s' all delivers run_eq =>
          exact .complete ((b, result) :: done) _ s' (by rw [all]; rfl)
            (.cons b result hv ho delivers) (by simp [run_eq])
        | invalid done batch rest es' s' s'' e split delivers failed run_eq =>
          exact .invalid ((b, result) :: done) batch rest _ s' s'' e (by rw [split]; rfl)
            (.cons b result hv ho delivers) failed (by simp [run_eq])
        | refused done batch res rest es' es'' s' t₁ t₂ e split delivers valid failed run_eq =>
          exact .refused ((b, result) :: done) batch res rest _ es'' s' t₁ t₂ e
            (by rw [split]; rfl) (.cons b result hv ho delivers) valid failed (by simp [run_eq])
        | panicked done batch res rest es' es'' s' t₁ t₂ p split delivers valid failed run_eq =>
          exact .panicked ((b, result) :: done) batch res rest _ es'' s' t₁ t₂ p
            (by rw [split]; rfl) (.cons b result hv ho delivers) valid failed (by simp [run_eq])

variable {validator supplier onBatch}

/-- A delivery that fails before it has handed anything on met at most one invalid batch. -/
theorem DeliverRun.of_undelivered {ending : Except Err Unit} {s s' : σ} {bs : List Bytes}
    {es : List (Event γ)} {e : Err}
    (h : DeliverRun validator supplier onBatch ending false s bs (es, s', .ok (.error e, false))) :
    ((es = [] ∧ s' = s) ∨ ∃ batch, es = [.validate supplier batch (.error e)] ∧
      validator batch s = (.error e, s')) ∧ ¬ (bs = [] ∧ ending = .ok ()) := by
  cases h with
  | complete done es' s'' all delivers run_eq =>
    simp only [Prod.mk.injEq, Except.ok.injEq, Bool.false_or] at run_eq
    obtain ⟨rfl, rfl, he, hd⟩ := run_eq
    have hn : done = [] := by simpa using hd.symm
    subst hn
    cases delivers
    refine ⟨.inl ⟨rfl, rfl⟩, ?_⟩
    rintro ⟨-, hok⟩
    rw [hok] at he
    cases he
  | invalid done batch rest es' s₁ s₂ e' split delivers failed run_eq =>
    simp only [Prod.mk.injEq, Except.ok.injEq, Except.error.injEq, Bool.false_or] at run_eq
    obtain ⟨rfl, rfl, rfl, hd⟩ := run_eq
    have hn : done = [] := by simpa using hd.symm
    subst hn
    cases delivers
    refine ⟨.inr ⟨batch, rfl, failed⟩, ?_⟩
    rintro ⟨hb, -⟩
    rw [hb] at split
    simp at split
  | refused done batch result rest es' es'' s₁ s₂ s₃ e' split delivers valid failed run_eq =>
    simp at run_eq
  | panicked done batch result rest es' es'' s₁ s₂ s₃ p split delivers valid failed run_eq =>
    simp at run_eq

variable (validator supplier onBatch) in
/-- What delivering can do with the first batch, and how it goes on. -/
inductive DeliverStart (ending : Except Err Unit) (delivered : Bool) (s : σ)
    (run : List (Event γ) × σ × Except π (Except Err Unit × Bool)) : Prop where
  | nothing (run_eq : run = ([], s, .ok (ending, delivered)))
  | invalid (batch : Bytes) (s' : σ) (e : Err) (failed : validator batch s = (.error e, s'))
      (run_eq : run = ([.validate supplier batch (.error e)], s', .ok (.error e, delivered)))
  | refused (batch : Bytes) (result : RelayResult) (es : List (Event γ)) (s₁ s₂ : σ) (e : Err)
      (valid : validator batch s = (.ok result, s₁))
      (failed : onBatch result s₁ = (es, s₂, .ok (.error e)))
      (run_eq : run = (.validate supplier batch (.ok result) :: es, s₂, .ok (.error e, true)))
  | panicked (batch : Bytes) (result : RelayResult) (es : List (Event γ)) (s₁ s₂ : σ) (p : π)
      (valid : validator batch s = (.ok result, s₁))
      (failed : onBatch result s₁ = (es, s₂, .error p))
      (run_eq : run = (.validate supplier batch (.ok result) :: es, s₂, .error p))
  | accepted (batch : Bytes) (result : RelayResult) (es : List (Event γ)) (s₁ s₂ : σ)
      (bs : List Bytes) (rest : List (Event γ) × σ × Except π (Except Err Unit × Bool))
      (valid : validator batch s = (.ok result, s₁))
      (accepted : onBatch result s₁ = (es, s₂, .ok (.ok ())))
      (tail : DeliverRun validator supplier onBatch ending true s₂ bs rest)
      (run_eq : run = (.validate supplier batch (.ok result) :: (es ++ rest.1), rest.2))

/-- How a delivery starts. -/
theorem DeliverRun.start {ending : Except Err Unit} {delivered : Bool} {s : σ} {bs : List Bytes}
    {run : List (Event γ) × σ × Except π (Except Err Unit × Bool)}
    (h : DeliverRun validator supplier onBatch ending delivered s bs run) :
    DeliverStart validator supplier onBatch ending delivered s run := by
  cases h with
  | complete done es s' all delivers run_eq =>
    cases delivers with
    | nil => exact .nothing (by simpa using run_eq)
    | cons batch result valid accepted tail =>
      exact .accepted batch result _ _ _ _ _ valid accepted (.complete _ _ s' rfl tail rfl)
        (by simpa using run_eq)
  | invalid done batch rest es s' s'' e split delivers failed run_eq =>
    cases delivers with
    | nil => exact .invalid batch s'' e failed (by simpa using run_eq)
    | cons first result valid accepted tail =>
      exact .accepted first result _ _ _ _ _ valid accepted
        (.invalid _ batch rest _ s' s'' e rfl tail failed rfl) (by simpa using run_eq)
  | refused done batch result rest es es' s' s₁ s₂ e split delivers valid failed run_eq =>
    cases delivers with
    | nil => exact .refused batch result es' s₁ s₂ e valid failed (by simpa using run_eq)
    | cons first result' valid' accepted tail =>
      exact .accepted first result' _ _ _ _ _ valid' accepted
        (.refused _ batch result rest _ es' s' s₁ s₂ e rfl tail valid failed rfl)
        (by simpa using run_eq)
  | panicked done batch result rest es es' s' s₁ s₂ p split delivers valid failed run_eq =>
    cases delivers with
    | nil => exact .panicked batch result es' s₁ s₂ p valid failed (by simpa using run_eq)
    | cons first result' valid' accepted tail =>
      exact .accepted first result' _ _ _ _ _ valid' accepted
        (.panicked _ batch result rest _ es' s' s₁ s₂ p rfl tail valid failed rfl)
        (by simpa using run_eq)

/-- Without batches there is nothing to do. -/
theorem DeliverRun.of_nil {ending : Except Err Unit} {delivered : Bool} {s : σ}
    {run : List (Event γ) × σ × Except π (Except Err Unit × Bool)}
    (h : DeliverRun validator supplier onBatch ending delivered s [] run) :
    run = ([], s, .ok (ending, delivered)) := by
  cases h with
  | complete done es s' all delivers run_eq =>
    have hn : done = [] := by simpa using all.symm
    subst hn
    cases delivers
    simpa using run_eq
  | invalid done batch rest es s' s'' e split => simp at split
  | refused done batch result rest es es' s' s₁ s₂ e split => simp at split
  | panicked done batch result rest es es' s' s₁ s₂ p split => simp at split

/-- The callback is recorded and then runs. -/
theorem callOnBatch_run (callback : RelayResult → Exec π σ γ (Except Err Unit))
    (result : RelayResult) (s : σ) :
    callOnBatch callback result s = (.onBatch result :: (callback result s).1.map .client,
      (callback result s).2) := by
  unfold callOnBatch
  rw [Exec.bind_run_ok (Exec.emit_run _ _)]
  rfl

/-- What a call of the callback is recorded as. -/
theorem callOnBatch_events {callback : RelayResult → Exec π σ γ (Except Err Unit)}
    {result : RelayResult} {s s' : σ} {es : List (Event γ)} {out : Except π (Except Err Unit)}
    (h : callOnBatch callback result s = (es, s', out)) :
    es = .onBatch result :: (callback result s).1.map .client := by
  rw [callOnBatch_run] at h
  exact (congrArg Prod.fst h).symm

private theorem callOnBatch_delivery {callback : RelayResult → Exec π σ γ (Except Err Unit)}
    {result : RelayResult} {s s' : σ} {es : List (Event γ)} {out : Except π (Except Err Unit)}
    (h : callOnBatch callback result s = (es, s', out)) :
    ∀ ev ∈ es, ev.IsDelivery supplier := by
  rw [callOnBatch_events h]
  intro ev hev
  rcases List.mem_cons.mp hev with rfl | hev
  · trivial
  · obtain ⟨c, -, rfl⟩ := List.mem_map.mp hev
    trivial

/-- Deliveries consist of validations for that supplier and calls of the callback. -/
theorem Delivers.delivery {callback : RelayResult → Exec π σ γ (Except Err Unit)}
    {s s' : σ} {done : List (Bytes × RelayResult)} {es : List (Event γ)}
    (h : Delivers validator supplier (callOnBatch callback) s done es s') :
    ∀ ev ∈ es, ev.IsDelivery supplier := by
  induction h with
  | nil s => simp
  | cons batch result valid accepted tail ih =>
    simp only [List.forall_mem_cons, List.forall_mem_append]
    exact ⟨rfl, callOnBatch_delivery accepted, ih⟩

/-- Delivering the batches of a supplier calls its validator and the client, nothing else. -/
theorem DeliverRun.delivery {callback : RelayResult → Exec π σ γ (Except Err Unit)}
    {ending : Except Err Unit} {delivered : Bool} {s : σ} {bs : List Bytes}
    {run : List (Event γ) × σ × Except π (Except Err Unit × Bool)}
    (h : DeliverRun validator supplier (callOnBatch callback) ending delivered s bs run) :
    ∀ ev ∈ run.1, ev.IsDelivery supplier := by
  cases h with
  | complete done es s' all delivers run_eq =>
    subst run_eq
    exact delivers.delivery
  | invalid done batch rest es s' s'' e split delivers failed run_eq =>
    subst run_eq
    simp only [List.forall_mem_append, List.forall_mem_cons]
    exact ⟨delivers.delivery, rfl, by simp⟩
  | refused done batch result rest es es' s' s₁ s₂ e split delivers valid failed run_eq =>
    subst run_eq
    simp only [List.forall_mem_append, List.forall_mem_cons]
    exact ⟨delivers.delivery, rfl, callOnBatch_delivery failed⟩
  | panicked done batch result rest es es' s' s₁ s₂ p split delivers valid failed run_eq =>
    subst run_eq
    simp only [List.forall_mem_append, List.forall_mem_cons]
    exact ⟨delivers.delivery, rfl, callOnBatch_delivery failed⟩

end Batches

namespace Relayer

variable {π σ γ : Type} (r : Relayer σ)

private theorem hide_observe (serviceID : ServiceID) (rpcType : RPCType) (supplier : EndpointAddr)
    (success : Bool) (err : Option Err) :
    Exec.hide Event.isRead
      (r.observe serviceID rpcType supplier success err : Exec π σ (Event γ) Unit) =
      r.observe serviceID rpcType supplier success err := by
  unfold observe
  cases r.selector.observer with
  | none => rfl
  | some f => exact Exec.hide_call _ _ _ (fun _ ↦ rfl)

variable (serviceID : ServiceID) (rpcType : RPCType)

/-- How an attempt goes on once the body has been consumed. `src/relay/stream.go:157–171`. -/
def afterDelivery (supplier : EndpointAddr) :
    List (Event γ) × σ × Except π (Except Err Unit × Bool) →
      List (Event γ) × σ × Except π (Attempt Err (Except Err Unit))
  | (es, s, .error p) => (es, s, .error p)
  | (es, s, .ok (.error e, delivered)) =>
    (es ++ .close :: r.observed serviceID rpcType supplier false (some e),
      r.afterObserve serviceID rpcType supplier false (some e) s,
      .ok (if delivered then
        .finish (.error (.errorf ("relay: stream from " ++ supplier ++
          " failed after delivery: ") e))
      else .next (.errorf ("relay: stream from " ++ supplier ++ " failed: ") e)))
  | (es, s, .ok (.ok (), _)) =>
    (es ++ .close :: r.observed serviceID rpcType supplier true none,
      r.afterObserve serviceID rpcType supplier true none s, .ok (.finish (.ok ())))

variable [GoLib] (sendStream : String → Bytes → RPCType → Seam σ (Except Err Reply))
  (input : RelayInput) (onBatch : RelayResult → Exec π σ γ (Except Err Unit))
  (session : Session) (ep : Endpoint)

/-- What one attempt of `RelayStream` can do, reads left out. -/
inductive AttemptRun (s : σ)
    (run : List (Event γ) × σ × Except π (Attempt Err (Except Err Unit))) : Prop where
  | noURL (absent : ep.url rpcType = none) (run_eq : run = ([], s, .ok (.next errNoEndpoint)))
  | unsigned (url : String) (e : Err) (s' : σ) (found : ep.url rpcType = some url)
      (signed : r.signer session ep rpcType input s = (.error e, s'))
      (run_eq : run = ([.sign session ep rpcType input (.error e)], s',
        .ok (.finish (.error (.errorf "relay: sign failed: " e)))))
  | unsent (url : String) (relayReq : Bytes) (e : Err) (s₁ s₂ : σ)
      (found : ep.url rpcType = some url)
      (signed : r.signer session ep rpcType input s = (.ok relayReq, s₁))
      (sent : sendStream url relayReq rpcType s₁ = (.error e, s₂))
      (run_eq : run = (.sign session ep rpcType input (.ok relayReq) ::
          .sendStream url relayReq rpcType (.error e) ::
          r.observed serviceID rpcType ep.supplier false (some e),
        r.afterObserve serviceID rpcType ep.supplier false (some e) s₂,
        .ok (.next (.errorf ("relay: send to " ++ ep.supplier ++ " failed: ") e))))
  | consumed (url : String) (relayReq : Bytes) (reply : Reply) (s₁ s₂ : σ)
      (batches : List (Event γ) × σ × Except π (Except Err Unit × Bool))
      (found : ep.url rpcType = some url)
      (signed : r.signer session ep rpcType input s = (.ok relayReq, s₁))
      (sent : sendStream url relayReq rpcType s₁ = (.ok reply, s₂))
      (delivery : DeliverRun (r.validator ep.supplier) ep.supplier
        (callOnBatch onBatch) (plan ep.supplier reply.body reply.header).ending false s₂
        (plan ep.supplier reply.body reply.header).batches batches)
      (run_eq : run = ([.sign session ep rpcType input (.ok relayReq),
          .sendStream url relayReq rpcType (.ok reply)] ++
          (r.afterDelivery serviceID rpcType ep.supplier batches).1,
        (r.afterDelivery serviceID rpcType ep.supplier batches).2))

/-- Consuming a body under the flag `delivered`, reads left out. -/
theorem hide_consume (supplier : EndpointAddr) (reply : Reply) :
    Exec.hide Event.isRead (Exec.withVar false (consumeBatches
        (fun batch ↦ Exec.lift (r.validateResponse supplier batch))
        (fun result ↦ Exec.setting true (callOnBatch onBatch result))
        supplier reply.body reply.header)) =
      deliverTracked (fun batch ↦ Exec.call (r.validator supplier batch)
          (.validate supplier batch)) (callOnBatch onBatch)
        (plan supplier reply.body reply.header).ending false
        (plan supplier reply.body reply.header).batches := by
  have hv : quiet (fun batch ↦ (Exec.lift (r.validateResponse supplier batch) :
      Exec π (Bool × σ) (Event γ) (Except Err RelayResult))) =
      fun batch ↦ Exec.lift (Exec.call (r.validator supplier batch)
        (.validate supplier batch)) := by
    funext batch
    rw [quiet, Exec.hide_lift]
    exact congrArg Exec.lift (congrFun (quiet_validateResponse r supplier) batch)
  have ho : quiet (fun result ↦ Exec.setting true (callOnBatch onBatch result)) =
      fun result ↦ Exec.setting true (callOnBatch onBatch result) := by
    funext result
    rw [quiet, Exec.hide_setting]
    exact congrArg (Exec.setting true) (congrFun (quiet_callOnBatch onBatch) result)
  rw [Exec.hide_withVar, hide_consumeBatches, hv, ho]
  rfl

omit [GoLib] in
private theorem conclude_run (supplier : EndpointAddr)
    (x : Exec π σ (Event γ) (Except Err Unit × Bool)) (s : σ) :
    (x >>= fun c ↦ Exec.hide Event.isRead (r.conclude serviceID rpcType supplier c.1 c.2)) s =
      r.afterDelivery serviceID rpcType supplier (x s) := by
  rcases hx : x s with ⟨es, s', p | ⟨e | u, delivered⟩⟩
  · rw [Exec.bind_run_error hx]
    rfl
  · rw [Exec.bind_run_ok hx]
    simp only [conclude]
    rw [Exec.hide_bind, Exec.hide_emit _ _ rfl, Exec.bind_run_ok (Exec.emit_run _ _),
      Exec.hide_bind, hide_observe, Exec.bind_run_ok (r.observe_run _ _ _ _ _ _)]
    cases delivered <;> simp [afterDelivery, Exec.hide_pure, Exec.pure_run]
  · rw [Exec.bind_run_ok hx]
    simp only [conclude]
    rw [Exec.hide_bind, Exec.hide_emit _ _ rfl, Exec.bind_run_ok (Exec.emit_run _ _),
      Exec.hide_bind, hide_observe, Exec.bind_run_ok (r.observe_run _ _ _ _ _ _)]
    simp [afterDelivery, Exec.hide_pure, Exec.pure_run]

/-- What an attempt of `RelayStream` can do. -/
theorem streamAttempt_run (s : σ) :
    r.AttemptRun serviceID rpcType sendStream input onBatch session ep s
      (Exec.hide Event.isRead
        (r.streamAttempt sendStream serviceID rpcType input onBatch session ep) s) := by
  unfold streamAttempt
  cases hu : ep.url rpcType with
  | none => exact .noURL hu rfl
  | some url =>
    simp only [signRelay]
    rw [Exec.hide_bind, Exec.hide_call _ _ _ (fun _ ↦ rfl)]
    rcases hs : r.signer session ep rpcType input s with ⟨e | relayReq, s₁⟩
    · rw [Exec.bind_run_ok (Exec.call_run hs _)]
      exact .unsigned url e s₁ hu hs rfl
    · rw [Exec.bind_run_ok (Exec.call_run hs _)]
      simp only
      rw [Exec.hide_bind, Exec.hide_call _ _ _ (fun _ ↦ rfl)]
      rcases hd : sendStream url relayReq rpcType s₁ with ⟨e | reply, s₂⟩
      · rw [Exec.bind_run_ok (Exec.call_run hd _)]
        simp only
        rw [Exec.hide_bind, hide_observe, Exec.bind_run_ok (r.observe_run _ _ _ _ _ _)]
        exact .unsent url relayReq e s₁ s₂ hu hs hd (by simp [Exec.hide_pure, Exec.pure_run])
      · rw [Exec.bind_run_ok (Exec.call_run hd _)]
        simp only
        rw [Exec.hide_bind, hide_consume]
        have hrun := deliverTracked_run (r.validator ep.supplier) ep.supplier
          (callOnBatch onBatch) (plan ep.supplier reply.body reply.header).ending
          false s₂ (plan ep.supplier reply.body reply.header).batches
        refine .consumed url relayReq reply s₁ s₂ _ hu hs hd hrun ?_
        rw [r.conclude_run]
        rfl

variable {r serviceID rpcType sendStream input onBatch session ep}

omit [GoLib] in
private theorem observed_fruitless (supplier : EndpointAddr) (e : Err) :
    ∀ ev ∈ (r.observed serviceID rpcType supplier false (some e) : List (Event γ)),
      ev.Fruitless := by
  unfold observed
  cases r.selector.observer with
  | none => simp
  | some f => simp [Event.Fruitless]

omit [GoLib] in
/-- After the delivery the body is closed and the observer told, unless there was a panic. -/
theorem mem_afterDelivery {supplier : EndpointAddr} {ev : Event γ}
    {batches : List (Event γ) × σ × Except π (Except Err Unit × Bool)}
    (hev : ev ∈ (r.afterDelivery serviceID rpcType supplier batches).1) :
    ev ∈ batches.1 ∨ ev = .close ∨
      ∃ success err, ev ∈ r.observed serviceID rpcType supplier success err := by
  rcases batches with ⟨es, s, p | ⟨delivery, delivered⟩⟩
  · exact .inl hev
  · obtain ⟨success, err, hev⟩ : ∃ success err,
        ev ∈ es ++ .close :: r.observed serviceID rpcType supplier success err := by
      cases delivery <;> exact ⟨_, _, hev⟩
    rw [List.mem_append, List.mem_cons] at hev
    exact hev.imp_right (Or.imp_right (fun h ↦ ⟨success, err, h⟩))

omit [GoLib] in
/-- Only a delivery that failed before anything was handed on leads to another attempt. -/
private theorem afterDelivery_next {supplier : EndpointAddr} {es : List (Event γ)} {s' : σ}
    {e : Err} {pre : List (Event γ)}
    {batches : List (Event γ) × σ × Except π (Except Err Unit × Bool)}
    (h : (es, s', Except.ok (.next e)) = (pre ++ (r.afterDelivery serviceID rpcType supplier batches).1,
      (r.afterDelivery serviceID rpcType supplier batches).2)) :
    ∃ es₀ s₀ e₀, batches = (es₀, s₀, .ok (.error e₀, false)) ∧
      es = pre ++ (es₀ ++ .close :: r.observed serviceID rpcType supplier false (some e₀)) ∧
      s' = r.afterObserve serviceID rpcType supplier false (some e₀) s₀ := by
  rcases batches with ⟨es₀, s₀, p | ⟨e₀ | u, delivered⟩⟩
  · simp [afterDelivery] at h
  · cases delivered with
    | true => simp [afterDelivery] at h
    | false =>
      simp only [afterDelivery, Prod.mk.injEq] at h
      exact ⟨es₀, s₀, e₀, rfl, h.1, h.2.1⟩
  · simp [afterDelivery] at h

/-- An attempt that hands over to the next supplier has not reached the client, and a reply
it got was not consumed without an error. -/
theorem AttemptRun.of_next {s s' : σ} {es : List (Event γ)} {e : Err}
    (h : r.AttemptRun serviceID rpcType sendStream input onBatch session ep s
      (es, s', .ok (.next e))) :
    (∀ ev ∈ es, ev.Fruitless) ∧
      ∀ url relayReq t reply, .sendStream url relayReq t (.ok reply) ∈ es →
        ¬ ((plan ep.supplier reply.body reply.header).batches = [] ∧
          (plan ep.supplier reply.body reply.header).ending = .ok ()) := by
  cases h with
  | noURL absent run_eq =>
    cases run_eq
    simp
  | unsigned url e' s₁ found signed run_eq => cases run_eq
  | unsent url relayReq e' s₁ s₂ found signed sent run_eq =>
    cases run_eq
    have hobs := @observed_fruitless σ γ r serviceID rpcType ep.supplier e'
    constructor
    · simp only [List.forall_mem_cons]
      exact ⟨trivial, trivial, hobs⟩
    · intro url' relayReq' t reply hm
      simp only [List.mem_cons, reduceCtorEq, Event.sendStream.injEq, and_false, false_or] at hm
      exact absurd hm (not_mem_observed (by simp))
  | consumed url relayReq reply s₁ s₂ batches found signed sent delivery run_eq =>
    obtain ⟨es₀, s₀, e₀, rfl, rfl, -⟩ := afterDelivery_next run_eq
    have hobs := @observed_fruitless σ γ r serviceID rpcType ep.supplier e₀
    obtain ⟨hes, hplan⟩ := delivery.of_undelivered
    have hes' : ∀ ev ∈ es₀, ∃ batch, ev = .validate ep.supplier batch (.error e₀) := by
      rcases hes with ⟨rfl, -⟩ | ⟨batch, rfl, -⟩
      · simp
      · intro ev hev
        exact ⟨batch, by simpa using hev⟩
    constructor
    · simp only [List.forall_mem_cons, List.forall_mem_append]
      refine ⟨⟨trivial, trivial, by simp⟩, ?_, trivial, hobs⟩
      intro ev hev
      obtain ⟨batch, rfl⟩ := hes' ev hev
      exact trivial
    · intro url' relayReq' t reply' hm
      simp only [List.mem_cons, List.mem_append, reduceCtorEq, Event.sendStream.injEq,
        Except.ok.injEq, false_or, List.not_mem_nil, or_false] at hm
      rcases hm with ⟨-, -, -, rfl⟩ | hm | hm
      · exact hplan
      · obtain ⟨batch, hb⟩ := hes' _ hm
        cases hb
      · exact absurd hm (not_mem_observed (by simp))

/-- Nor has such an attempt touched what the seams leave alone. -/
theorem AttemptRun.keeps_of_next {I : σ → Prop} (hI : r.Keeps I)
    (hsend : r.streamSender = some sendStream) {s s' : σ} {es : List (Event γ)} {e : Err}
    (h : r.AttemptRun serviceID rpcType sendStream input onBatch session ep s
      (es, s', .ok (.next e))) (hs : I s) : I s' := by
  have hsigned (relayReq : Bytes) (s₁ : σ)
      (signed : r.signer session ep rpcType input s = (.ok relayReq, s₁)) : I s₁ := by
    have := hI.signer session ep rpcType input s hs
    rwa [signed] at this
  have hsent (url : String) (relayReq : Bytes) (s₁ s₂ : σ) (out : Except Err Reply) (hs₁ : I s₁)
      (sent : sendStream url relayReq rpcType s₁ = (out, s₂)) : I s₂ := by
    have := hI.streamSender sendStream hsend url relayReq rpcType s₁ hs₁
    rwa [sent] at this
  cases h with
  | noURL absent run_eq =>
    cases run_eq
    exact hs
  | unsigned url e' s₁ found signed run_eq => cases run_eq
  | unsent url relayReq e' s₁ s₂ found signed sent run_eq =>
    cases run_eq
    exact hI.afterObserve _ _ _ _ _ _ (hsent url relayReq s₁ s₂ _ (hsigned relayReq s₁ signed) sent)
  | consumed url relayReq reply s₁ s₂ batches found signed sent delivery run_eq =>
    obtain ⟨es₀, s₀, e₀, rfl, -, rfl⟩ := afterDelivery_next run_eq
    have hs₂ := hsent url relayReq s₁ s₂ _ (hsigned relayReq s₁ signed) sent
    apply hI.afterObserve
    rcases delivery.of_undelivered.1 with ⟨-, rfl⟩ | ⟨batch, -, failed⟩
    · exact hs₂
    · have := hI.validator ep.supplier batch s₂ hs₂
      rwa [failed] at this

/-- An attempt that returns nil has delivered every batch of a reply that ended well. -/
theorem AttemptRun.of_finish_ok {s s' : σ} {es : List (Event γ)}
    (h : r.AttemptRun serviceID rpcType sendStream input onBatch session ep s
      (es, s', .ok (.finish (.ok ())))) :
    ∃ url relayReq reply s₂ s₃ done es₀,
      (plan ep.supplier reply.body reply.header).ending = .ok () ∧
      (plan ep.supplier reply.body reply.header).batches = done.map Prod.fst ∧
      Delivers (r.validator ep.supplier) ep.supplier (callOnBatch onBatch) s₂ done es₀ s₃ ∧
      es = [.sign session ep rpcType input (.ok relayReq),
        .sendStream url relayReq rpcType (.ok reply)] ++
        (es₀ ++ .close :: r.observed serviceID rpcType ep.supplier true none) := by
  cases h with
  | noURL absent run_eq => cases run_eq
  | unsigned url e' s₁ found signed run_eq => cases run_eq
  | unsent url relayReq e' s₁ s₂ found signed sent run_eq => cases run_eq
  | consumed url relayReq reply s₁ s₂ batches found signed sent delivery run_eq =>
    cases delivery with
    | complete done es₀ s₃ all delivers run_eq' =>
      subst run_eq'
      cases hend : (plan ep.supplier reply.body reply.header).ending with
      | error e => rw [hend] at run_eq; cases hd : done.isEmpty <;> simp [afterDelivery, hd] at run_eq
      | ok u =>
        rw [hend] at run_eq
        simp only [afterDelivery, Prod.mk.injEq] at run_eq
        exact ⟨url, relayReq, reply, s₂, s₃, done, es₀, hend, all, delivers, run_eq.1⟩
    | invalid done batch rest es' s₁ s₂ e' split delivers failed run_eq' =>
      subst run_eq'
      cases hd : done.isEmpty <;> simp [afterDelivery, hd] at run_eq
    | refused done batch result rest es' es'' s₁ s₂ s₃ e' split delivers valid failed run_eq' =>
      subst run_eq'
      simp [afterDelivery] at run_eq
    | panicked done batch result rest es' es'' s₁ s₂ s₃ p split delivers valid failed run_eq' =>
      subst run_eq'
      simp [afterDelivery] at run_eq

/-! ### Calls of an attempt -/

omit [GoLib] in
/-- What a call tells about the attempt that made it. -/
def OfAttempt (r : Relayer σ) (serviceID : ServiceID) (rpcType : RPCType) (input : RelayInput)
    (session : Session) (ep : Endpoint) : Event γ → Prop
  | .sign session' ep' rpcType' input' result =>
    session' = session ∧ ep' = ep ∧ rpcType' = rpcType ∧ input' = input ∧
      ∃ s, (r.signer session ep rpcType input s).1 = result
  | .send url _ rpcType' _ => ep.url rpcType = some url ∧ rpcType' = rpcType
  | .sendStream url _ rpcType' _ => ep.url rpcType = some url ∧ rpcType' = rpcType
  | .validate supplier _ _ => supplier = ep.supplier
  | .observe supplier outcome =>
    supplier = ep.supplier ∧ outcome.serviceID = serviceID ∧ outcome.rpcType = rpcType
  | _ => True

omit [GoLib] in
private theorem observed_ofAttempt {success : Bool} {err : Option Err} :
    ∀ ev ∈ (r.observed serviceID rpcType ep.supplier success err : List (Event γ)),
      r.OfAttempt serviceID rpcType input session ep ev := by
  unfold observed
  cases r.selector.observer with
  | none => simp
  | some f => simp [OfAttempt]

omit [GoLib] in
private theorem sign_ofAttempt {s s' : σ} {result : Except Err Bytes}
    (signed : r.signer session ep rpcType input s = (result, s')) :
    r.OfAttempt serviceID rpcType input session ep
      (.sign session ep rpcType input result : Event γ) :=
  ⟨rfl, rfl, rfl, rfl, s, by rw [signed]⟩

omit [GoLib] in
/-- Calls of an attempt of `Relay`. -/
theorem relayAttempt_calls (s : σ) :
    ∀ ev ∈ (r.relayAttempt serviceID rpcType input session ep s :
      List (Event γ) × σ × Except π (Attempt Err (Except Err RelayResult))).1,
      r.OfAttempt serviceID rpcType input session ep ev := by
  cases r.relayAttempt_run serviceID rpcType input session ep s with
  | noURL absent run_eq =>
    rw [run_eq]
    simp
  | unsigned url e s' found signed run_eq =>
    rw [run_eq]
    simp only [List.forall_mem_singleton]
    exact sign_ofAttempt signed
  | unsent url relayReq e s₁ s₂ found signed sent run_eq =>
    rw [run_eq]
    simp only [List.forall_mem_cons]
    exact ⟨sign_ofAttempt signed, ⟨found, rfl⟩, observed_ofAttempt⟩
  | invalid url relayReq respBz e s₁ s₂ s₃ found signed sent validated run_eq =>
    rw [run_eq]
    simp only [List.forall_mem_cons]
    exact ⟨sign_ofAttempt signed, ⟨found, rfl⟩, rfl, observed_ofAttempt⟩
  | valid url relayReq respBz result s₁ s₂ s₃ found signed sent validated run_eq =>
    rw [run_eq]
    simp only [List.forall_mem_cons]
    exact ⟨sign_ofAttempt signed, ⟨found, rfl⟩, rfl, observed_ofAttempt⟩

omit [GoLib] in
private theorem afterDelivery_calls
    {batches : List (Event γ) × σ × Except π (Except Err Unit × Bool)}
    (h : ∀ ev ∈ batches.1, ev.IsDelivery ep.supplier) :
    ∀ ev ∈ (r.afterDelivery serviceID rpcType ep.supplier batches).1,
      r.OfAttempt serviceID rpcType input session ep ev := by
  intro ev hev
  rcases mem_afterDelivery hev with hb | rfl | ⟨success, err, hb⟩
  · have hd := h ev hb
    cases ev with
    | validate supplier batch result => exact hd
    | onBatch result => trivial
    | client e => trivial
    | _ => exact hd.elim
  · trivial
  · exact observed_ofAttempt ev hb

/-- Calls of an attempt of `RelayStream`, reads apart. -/
theorem AttemptRun.calls {s : σ} {run : List (Event γ) × σ × Except π (Attempt Err (Except Err Unit))}
    (h : r.AttemptRun serviceID rpcType sendStream input onBatch session ep s run) :
    ∀ ev ∈ run.1, r.OfAttempt serviceID rpcType input session ep ev := by
  cases h with
  | noURL absent run_eq =>
    rw [run_eq]
    simp
  | unsigned url e s' found signed run_eq =>
    rw [run_eq]
    simp only [List.forall_mem_singleton]
    exact sign_ofAttempt signed
  | unsent url relayReq e s₁ s₂ found signed sent run_eq =>
    rw [run_eq]
    simp only [List.forall_mem_cons]
    exact ⟨sign_ofAttempt signed, ⟨found, rfl⟩, observed_ofAttempt⟩
  | consumed url relayReq reply s₁ s₂ batches found signed sent delivery run_eq =>
    rw [run_eq]
    simp only [List.cons_append, List.nil_append, List.forall_mem_cons]
    exact ⟨sign_ofAttempt signed, ⟨found, rfl⟩,
      afterDelivery_calls delivery.delivery⟩

/-- Calls of an attempt of `RelayStream`. -/
theorem streamAttempt_calls (s : σ) :
    ∀ ev ∈ (r.streamAttempt sendStream serviceID rpcType input onBatch session ep s).1,
      r.OfAttempt serviceID rpcType input session ep ev := by
  intro ev hev
  by_cases hread : ev.isRead = true
  · cases ev with
    | read chunk => trivial
    | _ => cases hread
  · apply (r.streamAttempt_run serviceID rpcType sendStream input onBatch session ep s).calls ev
    exact (Exec.mem_events_hide _ _ s ev).mpr ⟨hev, by simpa using hread⟩

omit [GoLib] in
/-- Every call of `Relay` belongs to an attempt with the session. -/
theorem relay_calls {ctx : Context} {s : σ} :
    ∀ ev ∈ (r.relay ctx serviceID rpcType input : Exec π σ (Event γ) _).events s,
      ∃ session s₁, r.sessions serviceID s = (.ok session, s₁) ∧
        ∃ ep, r.OfAttempt serviceID rpcType input session ep ev :=
  r.forall_events_withFailover
    (fun session ev ↦ ∃ ep, r.OfAttempt serviceID rpcType input session ep ev)
    (fun _ ep s ev hev ↦ ⟨ep, relayAttempt_calls s ev hev⟩) s

/-- Every call of `RelayStream` belongs to an attempt with the session. -/
theorem relayStream_calls {ctx : Context} {s : σ} :
    ∀ ev ∈ (r.relayStream ctx serviceID rpcType input onBatch).events s,
      ∃ session s₁, r.sessions serviceID s = (.ok session, s₁) ∧
        ∃ ep, r.OfAttempt serviceID rpcType input session ep ev := by
  unfold relayStream
  cases r.streamSender with
  | none => simp [Exec.events, Exec.pure_run]
  | some sendStream =>
    exact r.forall_events_withFailover
      (fun session ev ↦ ∃ ep, r.OfAttempt serviceID rpcType input session ep ev)
      (fun _ ep s ev hev ↦ ⟨ep, streamAttempt_calls s ev hev⟩) s

end Relayer
end PocketAp.Relay
