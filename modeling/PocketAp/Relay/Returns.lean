import PocketAp.Relay.Attempts

/-!
# What the callback returned

The record of a run of `RelayStream` has the calls of `onBatch`, `src/relay/stream.go:151–156`,
but not what they returned. `noting` is the same callback with its returns on the record, and
`relayStream_noting` says that a run with it is the same run: without the notes its record is
the plain one, and the world and the result are the same.
-/

namespace PocketAp.Relay

open PocketAp.Base PocketAp.Domain

/-- A call that a callback makes, or its return. -/
inductive Noted (γ : Type) where
  | did (e : γ)
  | returned (result : Except Err Unit)

section Noting

variable {π σ γ : Type}

/-- The callback, with what it returns on the record. -/
def noting (onBatch : RelayResult → Exec π σ γ (Except Err Unit)) (result : RelayResult) :
    Exec π σ (Noted γ) (Except Err Unit) := do
  let returned ← Exec.mapEvents .did (onBatch result)
  Exec.emit (.returned returned)
  pure returned

/-- A record without the notes. -/
def Event.unnoted : Event (Noted γ) → Option (Event γ)
  | .sign session endpoint rpcType input result =>
    some (.sign session endpoint rpcType input result)
  | .send url relayReq rpcType result => some (.send url relayReq rpcType result)
  | .sendStream url relayReq rpcType result => some (.sendStream url relayReq rpcType result)
  | .read chunk => some (.read chunk)
  | .validate supplier batch result => some (.validate supplier batch result)
  | .onBatch result => some (.onBatch result)
  | .close => some .close
  | .observe supplier outcome => some (.observe supplier outcome)
  | .client (.did e) => some (.client e)
  | .client (.returned _) => none

/-- The error that a callback returned. -/
def Event.callbackError? : Event (Noted γ) → Option Err
  | .client (.returned (.error e)) => some e
  | _ => none

/-- Only the note of an error has one. -/
theorem Event.callbackError?_eq_some {ev : Event (Noted γ)} {e : Err}
    (h : ev.callbackError? = some e) : ev = .client (.returned (.error e)) := by
  cases ev with
  | client c =>
    cases c with
    | did c => cases h
    | returned result =>
      cases result with
      | ok u => cases h
      | error e' =>
        cases h
        rfl
  | _ => cases h

/-- Only a report is left as a report. -/
theorem Event.eq_observe_of_unnoted {ev : Event (Noted γ)} {supplier : EndpointAddr}
    {outcome : Outcome} (h : ev.unnoted = some (.observe supplier outcome)) :
    ev = .observe supplier outcome := by
  cases ev with
  | observe supplier' outcome' =>
    cases h
    rfl
  | client c =>
    cases c with
    | did e => cases h
    | returned result => cases h
  | _ => cases h

/-- A noted callback that returns: its calls, and then its return. -/
theorem noting_run_ok {onBatch : RelayResult → Exec π σ γ (Except Err Unit)} {result : RelayResult}
    {s s' : σ} {es : List γ} {returned : Except Err Unit}
    (h : onBatch result s = (es, s', .ok returned)) :
    noting onBatch result s = (es.map .did ++ [.returned returned], s', .ok returned) := by
  unfold noting
  rw [Exec.bind_run_ok (Exec.mapEvents_run h _), Exec.bind_run_ok (Exec.emit_run _ _)]
  rfl

/-- A noted callback that panics has returned nothing. -/
theorem noting_run_error {onBatch : RelayResult → Exec π σ γ (Except Err Unit)}
    {result : RelayResult} {s s' : σ} {es : List γ} {p : π}
    (h : onBatch result s = (es, s', .error p)) :
    noting onBatch result s = (es.map .did, s', .error p) := by
  unfold noting
  rw [Exec.bind_run_error (Exec.mapEvents_run h _)]

private theorem filterMap_did (es : List γ) :
    ((es.map Noted.did).map Event.client).filterMap Event.unnoted = es.map .client := by
  rw [List.map_map, List.filterMap_map, ← List.filterMap_eq_map]
  rfl

/-- Without its notes a noted callback is the callback. -/
theorem project_callOnBatch_noting (onBatch : RelayResult → Exec π σ γ (Except Err Unit))
    (result : RelayResult) :
    Exec.project Event.unnoted (callOnBatch (noting onBatch) result) =
      callOnBatch onBatch result := by
  apply Exec.ext
  intro s
  rw [Exec.project, callOnBatch_run, callOnBatch_run]
  rcases h : onBatch result s with ⟨es, s', p | returned⟩
  · rw [noting_run_error h, List.filterMap_cons, filterMap_did]
    simp [Event.unnoted]
  · rw [noting_run_ok h, List.map_append, List.filterMap_cons, List.filterMap_append,
      filterMap_did]
    simp [Event.unnoted]

end Noting

/-! ### The rest of the run -/

section Consume

variable {π σ γ γ' : Type} {f : Event γ → Option (Event γ')}
variable (validate : Bytes → Exec π σ (Event γ) (Except Err RelayResult))
  (onBatch : RelayResult → Exec π σ (Event γ) (Except Err Unit))

private theorem project_reads (hread : ∀ c, f (.read c) = some (.read c))
    (chunks : List (Chunk UInt8 Err)) :
    Exec.project f (Exec.emitAll (chunks.map .read) : Exec π σ (Event γ) Unit) =
      Exec.emitAll (chunks.map .read) := by
  apply Exec.project_emitAll
  have hfun : f ∘ Event.read = some ∘ Event.read := funext hread
  rw [List.filterMap_map, hfun, List.filterMap_eq_map]

private theorem project_scanLoop (hread : ∀ c, f (.read c) = some (.read c))
    (s : Scanner Bool UInt8 Err) (pending : Option (Bytes × Bool)) :
    Exec.project f (scanLoop validate onBatch s pending) =
      scanLoop (fun b ↦ Exec.project f (validate b)) (fun r ↦ Exec.project f (onBatch r)) s
        pending := by
  induction hn : s.data.length + s.pendingInput using Nat.strongRecOn
    generalizing s pending with
  | ind n ih =>
    cases ht : (scanBatch s).token with
    | none =>
      rw [scanLoop_none _ _ s pending ht, scanLoop_none _ _ s pending ht, Exec.project_bind,
        project_reads hread, project_finishStream]
    | some batch =>
      have hlt : (scanBatch s).next.data.length + (scanBatch s).next.pendingInput < n :=
        hn ▸ Scanner.scan_size_lt _ _ s _ ht
      rw [scanLoop_some _ _ s pending batch ht, scanLoop_some _ _ s pending batch ht,
        Exec.project_bind, project_reads hread]
      congr 1
      funext _
      rw [Exec.project_bind, project_flush]
      congr 1
      funext flushed
      cases flushed with
      | error e => rfl
      | ok u => exact ih _ hlt _ _ rfl

private theorem project_consumeWhole (hread : ∀ c, f (.read c) = some (.read c))
    (supplier : EndpointAddr) (body : Body UInt8 Err) :
    Exec.project f (consumeWhole validate onBatch supplier body) =
      consumeWhole (fun b ↦ Exec.project f (validate b)) (fun r ↦ Exec.project f (onBatch r))
        supplier body := by
  unfold consumeWhole
  simp only
  rw [Exec.project_bind, project_reads hread]
  congr 1
  funext _
  split
  · rfl
  · split
    · rfl
    · rw [Exec.project_bind]
      congr 1
      funext validated
      cases validated with
      | error e => rfl
      | ok result => rfl

private theorem project_consumeBatches [GoLib] (hread : ∀ c, f (.read c) = some (.read c))
    (supplier : EndpointAddr) (body : Body UInt8 Err) (header : Header) :
    Exec.project f (consumeBatches validate onBatch supplier body header) =
      consumeBatches (fun b ↦ Exec.project f (validate b)) (fun r ↦ Exec.project f (onBatch r))
        supplier body header := by
  unfold consumeBatches
  split
  · exact project_scanLoop validate onBatch hread _ _
  · exact project_consumeWhole validate onBatch hread _ _

end Consume

namespace Relayer

variable {π σ γ : Type} (r : Relayer σ)

private theorem project_observe (serviceID : ServiceID) (rpcType : RPCType)
    (supplier : EndpointAddr) (success : Bool) (err : Option Err) :
    Exec.project Event.unnoted
        (r.observe serviceID rpcType supplier success err : Exec π σ (Event (Noted γ)) Unit) =
      r.observe serviceID rpcType supplier success err := by
  unfold observe
  cases r.selector.observer with
  | none => rfl
  | some f => exact Exec.project_call _ (fun _ ↦ rfl)

private theorem project_conclude (serviceID : ServiceID) (rpcType : RPCType)
    (supplier : EndpointAddr) (err : Except Err Unit) (delivered : Bool) :
    Exec.project Event.unnoted (r.conclude serviceID rpcType supplier err delivered :
        Exec π σ (Event (Noted γ)) (Attempt Err (Except Err Unit))) =
      r.conclude serviceID rpcType supplier err delivered := by
  unfold conclude
  rw [Exec.project_bind, Exec.project_emit (f := Event.unnoted) rfl]
  congr 1
  funext _
  cases err with
  | error e =>
    simp only
    rw [Exec.project_bind, project_observe]
    congr 1
    funext _
    split <;> rfl
  | ok u =>
    simp only
    rw [Exec.project_bind, project_observe]
    rfl

variable [GoLib] (onBatch : RelayResult → Exec π σ γ (Except Err Unit))

private theorem project_streamAttempt
    (sendStream : String → Bytes → RPCType → Seam σ (Except Err Reply)) (serviceID : ServiceID)
    (rpcType : RPCType) (input : RelayInput) (session : Session) (ep : Endpoint) :
    Exec.project Event.unnoted
        (r.streamAttempt sendStream serviceID rpcType input (noting onBatch) session ep) =
      r.streamAttempt sendStream serviceID rpcType input onBatch session ep := by
  unfold streamAttempt
  cases ep.url rpcType with
  | none => rfl
  | some url =>
    simp only [signRelay]
    rw [Exec.project_bind, Exec.project_call (f := Event.unnoted) _ (fun _ ↦ rfl)]
    congr 1
    funext signed
    cases signed with
    | error e => rfl
    | ok relayReq =>
      simp only
      rw [Exec.project_bind, Exec.project_call (f := Event.unnoted) _ (fun _ ↦ rfl)]
      congr 1
      funext sent
      cases sent with
      | error e =>
        simp only
        rw [Exec.project_bind, project_observe]
        rfl
      | ok reply =>
        simp only
        rw [Exec.project_bind]
        have hvalidate (batch : Bytes) : Exec.project Event.unnoted
            (Exec.lift (r.validateResponse ep.supplier batch) :
              Exec π (Bool × σ) (Event (Noted γ)) _) =
              Exec.lift (r.validateResponse ep.supplier batch) :=
          congrArg Exec.lift (Exec.project_call _ (fun _ ↦ rfl))
        have honBatch (result : RelayResult) : Exec.project Event.unnoted
            (Exec.setting true (callOnBatch (noting onBatch) result)) =
              Exec.setting true (callOnBatch onBatch result) :=
          congrArg (Exec.setting true) (project_callOnBatch_noting onBatch result)
        have hconsume := project_consumeBatches
          (fun batch ↦ (Exec.lift (r.validateResponse ep.supplier batch) :
            Exec π (Bool × σ) (Event (Noted γ)) _))
          (fun result ↦ Exec.setting true (callOnBatch (noting onBatch) result))
          (f := Event.unnoted) (fun _ ↦ rfl) ep.supplier reply.body reply.header
        simp only [hvalidate, honBatch] at hconsume
        rw [show Exec.project Event.unnoted (Exec.withVar false _) = Exec.withVar false _ from
          congrArg (Exec.withVar false) hconsume]
        simp only [project_conclude]

/-- A run with the callback's returns on the record is the plain run. -/
theorem relayStream_noting (ctx : Context) (serviceID : ServiceID) (rpcType : RPCType)
    (input : RelayInput) :
    Exec.project Event.unnoted (r.relayStream ctx serviceID rpcType input (noting onBatch)) =
      r.relayStream ctx serviceID rpcType input onBatch := by
  unfold relayStream
  cases r.streamSender with
  | none => rfl
  | some sendStream =>
    simp only
    rw [project_withFailover]
    simp only [project_streamAttempt]

/-- The errors that the callback returned in a run, in order. -/
def callbackErrors (ctx : Context) (serviceID : ServiceID) (rpcType : RPCType)
    (input : RelayInput) (s : σ) : List Err :=
  ((r.relayStream ctx serviceID rpcType input (noting onBatch)).events s).filterMap
    Event.callbackError?

end Relayer
end PocketAp.Relay
