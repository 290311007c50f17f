import PocketAp.Relay.Delivery

/-!
# What an attempt reports

An attempt of `Relay`, `src/relay/relay.go:195–225`, or of `RelayStream`,
`src/relay/stream.go:130–171`, ends before anything is sent and reports nothing, or it sends
once and reports once, last of all, unless the callback panics. `Reported` says so, and what
a failure that is reported may be due to.
-/

namespace PocketAp.Relay

open PocketAp.Base PocketAp.Domain

section Kinds

variable {γ : Type}

/-- A request is signed. -/
def Event.isSign : Event γ → Bool
  | .sign .. => true
  | _ => false

/-- A call of `Send` or `SendStream`. -/
def Event.isSend : Event γ → Bool
  | .send .. => true
  | .sendStream .. => true
  | _ => false

/-- An outcome is reported. -/
def Event.isObserve : Event γ → Bool
  | .observe .. => true
  | _ => false

/-- Calls an attempt makes after it has sent and before it reports. -/
def Event.isInner (ev : Event γ) : Bool := !(ev.isSign || ev.isSend || ev.isObserve)

/-- A delivery is inside an attempt. -/
theorem Event.IsDelivery.isInner {supplier : EndpointAddr} {ev : Event γ}
    (h : ev.IsDelivery supplier) : ev.isInner = true := by
  cases ev with
  | validate supplier' batch result => rfl
  | onBatch result => rfl
  | client e => rfl
  | _ => exact h.elim

/-- Sending to a supplier, reading its reply or validating what it sent failed with `e` in one
of these calls. -/
def Fault [GoLib] (supplier : EndpointAddr) (e : Err) (calls : List (Event γ)) : Prop :=
  (∃ url relayReq t, .send url relayReq t (.error e) ∈ calls) ∨
  (∃ url relayReq t, .sendStream url relayReq t (.error e) ∈ calls) ∨
  (∃ url relayReq t reply, .sendStream url relayReq t (.ok reply) ∈ calls ∧
    (plan supplier reply.body reply.header).ending = .error e) ∨
  ∃ batch, .validate supplier batch (.error e) ∈ calls

/-- A fault among some calls is one among more. -/
theorem Fault.mono [GoLib] {supplier : EndpointAddr} {e : Err} {calls calls' : List (Event γ)}
    (hsub : ∀ ev ∈ calls, ev ∈ calls') (h : Fault supplier e calls) :
    Fault supplier e calls' := by
  rcases h with ⟨url, relayReq, t, h⟩ | ⟨url, relayReq, t, h⟩ | ⟨url, relayReq, t, reply, h, hend⟩ |
    ⟨batch, h⟩
  · exact .inl ⟨url, relayReq, t, hsub _ h⟩
  · exact .inr (.inl ⟨url, relayReq, t, hsub _ h⟩)
  · exact .inr (.inr (.inl ⟨url, relayReq, t, reply, hsub _ h, hend⟩))
  · exact .inr (.inr (.inr ⟨batch, hsub _ h⟩))

end Kinds

/-- The callback returned the error `e`, and what it did then is among these calls. -/
def RefusedIn {π σ γ : Type} (onBatch : RelayResult → Exec π σ γ (Except Err Unit)) (e : Err)
    (calls : List (Event γ)) : Prop :=
  ∃ result s, (onBatch result).outcome s = .ok (.error e) ∧
    ∀ c ∈ (onBatch result).events s, .client c ∈ calls

namespace Relayer

variable {π σ γ ρ : Type} (r : Relayer σ) (serviceID : ServiceID) (rpcType : RPCType)
  (input : RelayInput) (session : Session) (ep : Endpoint)

/-- What an attempt reports; `blame e calls` is why it may report the error `e` after `calls`. -/
inductive Reported (blame : Err → List (Event γ) → Prop)
    (run : List (Event γ) × σ × Except π (Attempt Err (Except Err ρ))) : Prop where
  | silent (a : Attempt Err (Except Err ρ)) (quiet : ∀ ev ∈ run.1, ev.isSign = true)
      (returned : run.2.2 = .ok a) (unsuccessful : ∀ x, a ≠ .finish (.ok x))
  | told (a : Attempt Err (Except Err ρ)) (relayReq : Bytes) (call : Event γ)
      (inner : List (Event γ)) (success : Bool) (err : Option Err)
      (sends : call.isSend = true) (between : ∀ ev ∈ inner, ev.isInner = true)
      (events : run.1 = .sign session ep rpcType input (.ok relayReq) :: call ::
        (inner ++ r.observed serviceID rpcType ep.supplier success err))
      (returned : run.2.2 = .ok a) (succeeded : success = true ↔ ∃ x, a = .finish (.ok x))
      (blamed : success = false → ∃ e, err = some e ∧ blame e (call :: inner))
  | cut (p : π) (untold : ∀ ev ∈ run.1, ev.isObserve = false) (panicked : run.2.2 = .error p)

variable {r serviceID rpcType input session ep}

/-- What is reported for one reason is reported for a weaker one. -/
theorem Reported.imp {blame blame' : Err → List (Event γ) → Prop}
    {run : List (Event γ) × σ × Except π (Attempt Err (Except Err ρ))}
    (himp : ∀ e calls, blame e calls → blame' e calls)
    (h : r.Reported serviceID rpcType input session ep blame run) :
    r.Reported serviceID rpcType input session ep blame' run := by
  cases h with
  | silent a quiet returned unsuccessful => exact .silent a quiet returned unsuccessful
  | told a relayReq call inner success err sends between events returned succeeded blamed =>
    refine .told a relayReq call inner success err sends between events returned succeeded ?_
    intro hfail
    obtain ⟨e, he, hb⟩ := blamed hfail
    exact ⟨e, he, himp e _ hb⟩
  | cut p untold panicked => exact .cut p untold panicked

/-- How an attempt of `Relay` is reported. -/
theorem relayAttempt_reported [GoLib] (s : σ) :
    r.Reported serviceID rpcType input session ep (Fault ep.supplier)
      (r.relayAttempt serviceID rpcType input session ep s :
        List (Event γ) × σ × Except π (Attempt Err (Except Err RelayResult))) := by
  cases r.relayAttempt_run serviceID rpcType input session ep s with
  | noURL absent run_eq =>
    rw [run_eq]
    exact .silent _ (by simp) rfl (by simp)
  | unsigned url e s' found signed run_eq =>
    rw [run_eq]
    exact .silent _ (by simp [Event.isSign]) rfl (by simp)
  | unsent url relayReq e s₁ s₂ found signed sent run_eq =>
    rw [run_eq]
    refine .told _ relayReq (.send url relayReq rpcType (.error e)) [] false (some e) rfl
      (by simp) rfl rfl (by simp) ?_
    intro _
    exact ⟨e, rfl, .inl ⟨url, relayReq, rpcType, List.mem_cons_self⟩⟩
  | invalid url relayReq respBz e s₁ s₂ s₃ found signed sent validated run_eq =>
    rw [run_eq]
    refine .told _ relayReq (.send url relayReq rpcType (.ok respBz))
      [.validate ep.supplier respBz (.error e)] false (some e) rfl
      (by simp [Event.isInner, Event.isSign, Event.isSend, Event.isObserve]) rfl rfl (by simp) ?_
    intro _
    exact ⟨e, rfl, .inr (.inr (.inr ⟨respBz, by simp⟩))⟩
  | valid url relayReq respBz result s₁ s₂ s₃ found signed sent validated run_eq =>
    rw [run_eq]
    exact .told _ relayReq (.send url relayReq rpcType (.ok respBz))
      [.validate ep.supplier respBz (.ok result)] true none rfl
      (by simp [Event.isInner, Event.isSign, Event.isSend, Event.isObserve]) rfl rfl (by simp)
      (by simp)

end Relayer

section Causes

variable {π σ γ : Type} {onBatch : RelayResult → Exec π σ γ (Except Err Unit)}

private theorem outcome_callOnBatch (result : RelayResult) (s : σ) :
    (callOnBatch onBatch result).outcome s = (onBatch result).outcome s := by
  unfold callOnBatch Exec.outcome
  rw [Exec.bind_run_ok (Exec.emit_run _ _)]
  rfl

/-- Why a delivery returns an error. -/
theorem DeliverRun.cause {validator : Bytes → Seam σ (Except Err RelayResult)}
    {supplier : EndpointAddr} {ending : Except Err Unit} {delivered d : Bool} {s s' : σ}
    {bs : List Bytes} {es : List (Event γ)} {e : Err}
    (h : DeliverRun validator supplier (callOnBatch onBatch) ending delivered s bs
      (es, s', .ok (.error e, d))) :
    ending = .error e ∨ (∃ batch, .validate supplier batch (.error e) ∈ es) ∨
      RefusedIn onBatch e es := by
  cases h with
  | complete done es' s'' all delivers run_eq =>
    cases run_eq
    exact .inl rfl
  | invalid done batch rest es' s₁ s₂ e' split delivers failed run_eq =>
    cases run_eq
    exact .inr (.inl ⟨batch, by simp⟩)
  | refused done batch result rest es' es'' s₁ s₂ s₃ e' split delivers valid failed run_eq =>
    cases run_eq
    refine .inr (.inr ⟨result, s₂, ?_, fun c hc ↦ ?_⟩)
    · rw [← outcome_callOnBatch, Exec.outcome, failed]
    · have hev : .client c ∈ es'' := by
        rw [callOnBatch_events failed]
        exact List.mem_cons_of_mem _ (List.mem_map_of_mem hc)
      exact List.mem_append_right _ (List.mem_cons_of_mem _ hev)
  | panicked done batch result rest es' es'' s₁ s₂ s₃ p split delivers valid failed run_eq =>
    cases run_eq

end Causes

namespace Relayer

variable {π σ γ : Type} [GoLib] {r : Relayer σ} {serviceID : ServiceID} {rpcType : RPCType}
  {sendStream : String → Bytes → RPCType → Seam σ (Except Err Reply)} {input : RelayInput}
  {onBatch : RelayResult → Exec π σ γ (Except Err Unit)} {session : Session} {ep : Endpoint}

/-- How an attempt of `RelayStream` is reported. -/
theorem AttemptRun.reported {s : σ}
    {run : List (Event γ) × σ × Except π (Attempt Err (Except Err Unit))}
    (h : r.AttemptRun serviceID rpcType sendStream input onBatch session ep s run) :
    r.Reported serviceID rpcType input session ep
      (fun e calls ↦ Fault ep.supplier e calls ∨ RefusedIn onBatch e calls) run := by
  cases h with
  | noURL absent run_eq =>
    rw [run_eq]
    exact .silent _ (by simp) rfl (by simp)
  | unsigned url e s' found signed run_eq =>
    rw [run_eq]
    exact .silent _ (by simp [Event.isSign]) rfl (by simp)
  | unsent url relayReq e s₁ s₂ found signed sent run_eq =>
    rw [run_eq]
    refine .told _ relayReq (.sendStream url relayReq rpcType (.error e)) [] false (some e) rfl
      (by simp) rfl rfl (by simp) ?_
    intro _
    exact ⟨e, rfl, .inl (.inr (.inl ⟨url, relayReq, rpcType, List.mem_cons_self⟩))⟩
  | consumed url relayReq reply s₁ s₂ batches found signed sent delivery run_eq =>
    have hinner (ev : Event γ) (hev : ev ∈ batches.1) : ev.isInner = true :=
      (delivery.delivery ev hev).isInner
    have hclosed (ev : Event γ) (hev : ev ∈ batches.1 ++ [.close]) : ev.isInner = true := by
      rcases List.mem_append.mp hev with hev | hev
      · exact hinner ev hev
      · rw [List.mem_singleton.mp hev]
        rfl
    rw [run_eq]
    rcases batches with ⟨es, s', p | ⟨e | u, delivered⟩⟩
    · refine .cut p ?_ rfl
      intro ev hev
      simp only [afterDelivery, List.cons_append, List.nil_append, List.mem_cons] at hev
      rcases hev with rfl | rfl | hev
      · rfl
      · rfl
      · have hi := hinner ev hev
        simp only [Event.isInner, Bool.not_eq_true', Bool.or_eq_false_iff] at hi
        exact hi.2
    · refine .told _ relayReq (.sendStream url relayReq rpcType (.ok reply)) (es ++ [.close])
        false (some e) rfl hclosed (by simp [afterDelivery]) rfl
        (by cases delivered <;> simp) ?_
      intro _
      refine ⟨e, rfl, ?_⟩
      rcases delivery.cause with hend | ⟨batch, hb⟩ | ⟨result, s, hrefused, hmem⟩
      · exact .inl (.inr (.inr (.inl ⟨url, relayReq, rpcType, reply, List.mem_cons_self, hend⟩)))
      · exact .inl (.inr (.inr (.inr ⟨batch, by simp [hb]⟩)))
      · exact .inr ⟨result, s, hrefused, fun c hc ↦ by simp [hmem c hc]⟩
    · exact .told _ relayReq (.sendStream url relayReq rpcType (.ok reply)) (es ++ [.close])
        true none rfl hclosed (by simp [afterDelivery]) rfl (by simp) (by simp)

end Relayer
end PocketAp.Relay
