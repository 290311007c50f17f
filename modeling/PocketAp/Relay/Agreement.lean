import PocketAp.Pocket.Sender
import PocketAp.Relay.Delivery

/-!
# `Relay` and `RelayStream` agree

The two failover loops of `src/relay/relay.go:157–229` and `src/relay/stream.go:88–203` over
replies that are no streams. Observers keep books of their own that signing, sending and
validating do not read, so the runs may differ in the errors they report and still stay in
lockstep.
-/

namespace PocketAp.Relay

open PocketAp.Base PocketAp.Domain
open PocketAp.Pocket (MultiSender)

/-- What signs for or contacts a supplier, and with which bytes. -/
inductive Outreach where
  | signed (session : Session) (ep : Endpoint) (rpcType : RPCType) (input : RelayInput)
      (result : Except Err Bytes)
  | contacted (url : String) (relayReq : Bytes) (rpcType : RPCType)

/-- The calls to the signer and to either sender. -/
def Event.outreach? {γ : Type} : Event γ → Option Outreach
  | .sign session ep rpcType input result => some (.signed session ep rpcType input result)
  | .send url relayReq rpcType _ => some (.contacted url relayReq rpcType)
  | .sendStream url relayReq rpcType _ => some (.contacted url relayReq rpcType)
  | _ => none

/-- The supplier an observer is told about, and whether it succeeded. -/
def Event.report? {γ : Type} : Event γ → Option (EndpointAddr × Bool)
  | .observe supplier outcome => some (supplier, outcome.success)
  | _ => none

/-- One answer of `Send` and one of `SendStream` that mean the same: both failed, or the
reply is no stream, not too large, and reads as what `Send` returned. -/
def AlikeAnswers [GoLib] {σ : Type} : Except Err Bytes × σ → Except Err Reply × σ → Prop
  | (.error _, s), (.error _, s') => s = s'
  | (.ok respBz, s), (.ok reply, s') =>
    s = s' ∧ isStreamingResponse reply.header = false ∧ reply.body.bytes = respBz ∧
      reply.body.stop = .eof ∧ respBz.length ≤ maxResponseBytes
  | (.error _, s), (.ok reply, s') =>
    s = s' ∧ isStreamingResponse reply.header = false ∧
      (∃ e, reply.body.stop = .failed e) ∧ reply.body.bytes.length ≤ maxResponseBytes
  | (.ok _, _), (.error _, _) => False

/-- A relayer whose observer has a state `τ` that only the selector reads. -/
def Relayer.watched {τ σ : Type} (r : Relayer σ)
    (select : Context → ServiceID → List Endpoint → RPCType →
      Seam (τ × σ) (Except Err (List Endpoint)))
    (observer : Option (EndpointAddr → Outcome → τ → τ)) : Relayer (τ × σ) :=
  { liftRelayer τ r with
    selector := ⟨select, observer.map (fun f supplier outcome s ↦ (f supplier outcome s.1, s.2))⟩ }

/-- A run of `Relay` and a run of `RelayStream` with the same result, the same suppliers
signed for and contacted, and the same reports. -/
structure Agree {π γ : Type} (es : List (Event γ)) (out : Except π (Except Err RelayResult))
    (es' : List (Event γ)) (out' : Except π (Except Err Unit)) : Prop where
  answers : ∀ result, out = .ok (.ok result) ↔
    out' = .ok (.ok ()) ∧ es'.filterMap Event.batch? = [result]
  fails : (∃ e, out = .ok (.error e)) ↔
    (∃ e, out' = .ok (.error e)) ∧ es'.filterMap Event.batch? = []
  outreach : es.filterMap Event.outreach? = es'.filterMap Event.outreach?
  reports : es.filterMap Event.report? = es'.filterMap Event.report?

/-- Both calls, made from one world. -/
def RunsAgree {π σ γ : Type} (x : Exec π σ (Event γ) (Except Err RelayResult))
    (y : Exec π σ (Event γ) (Except Err Unit)) (s : σ) : Prop :=
  Agree (x.events s) (x.outcome s) (y.events s) (y.outcome s)

section Attempts

variable {γ : Type}

/-- Records that show the same from outside. -/
structure SameRecord (es es' : List (Event γ)) : Prop where
  outreach : es.filterMap Event.outreach? = es'.filterMap Event.outreach?
  reports : es.filterMap Event.report? = es'.filterMap Event.report?

private theorem SameRecord.append {a b c d : List (Event γ)} (h : SameRecord a b)
    (h' : SameRecord c d) : SameRecord (a ++ c) (b ++ d) := by
  constructor
  · rw [List.filterMap_append, List.filterMap_append, h.outreach, h'.outreach]
  · rw [List.filterMap_append, List.filterMap_append, h.reports, h'.reports]

private theorem SameRecord.quiet_left {e : Event γ} {es es' : List (Event γ)}
    (h : SameRecord es es') (ho : e.outreach? = none) (hr : e.report? = none) :
    SameRecord (e :: es) es' := by
  constructor
  · rw [List.filterMap_cons_none ho, h.outreach]
  · rw [List.filterMap_cons_none hr, h.reports]

private theorem SameRecord.quiet_right {e : Event γ} {es es' : List (Event γ)}
    (h : SameRecord es es') (ho : e.outreach? = none) (hr : e.report? = none) :
    SameRecord es (e :: es') := by
  constructor
  · rw [List.filterMap_cons_none ho, h.outreach]
  · rw [List.filterMap_cons_none hr, h.reports]

/-- Nothing was handed on, and the records agree. -/
def BothWent (es es' : List (Event γ)) : Prop :=
  SameRecord es es' ∧ es'.filterMap Event.batch? = []

/-- Both attempts ended the run, with the same answer or with an error each. -/
def BothFinished (es : List (Event γ)) (res : Except Err RelayResult) (es' : List (Event γ))
    (res' : Except Err Unit) : Prop :=
  SameRecord es es' ∧
    ((∃ result, res = .ok result ∧ res' = .ok () ∧ es'.filterMap Event.batch? = [result]) ∨
      ((∃ e, res = .error e) ∧ (∃ e, res' = .error e) ∧ es'.filterMap Event.batch? = []))

section Observed

variable {σ : Type} (r : Relayer σ) (serviceID : ServiceID) (rpcType : RPCType)
  (supplier : EndpointAddr) (success : Bool)

private theorem outreach_observed (err : Option Err) :
    (r.observed serviceID rpcType supplier success err : List (Event γ)).filterMap
      Event.outreach? = [] := by
  unfold Relayer.observed
  cases r.selector.observer <;> rfl

private theorem batch_observed (err : Option Err) :
    (r.observed serviceID rpcType supplier success err : List (Event γ)).filterMap
      Event.batch? = [] := by
  unfold Relayer.observed
  cases r.selector.observer <;> rfl

/-- The error is no part of what is compared. -/
private theorem report_observed (err err' : Option Err) :
    (r.observed serviceID rpcType supplier success err : List (Event γ)).filterMap
      Event.report? =
    (r.observed serviceID rpcType supplier success err' : List (Event γ)).filterMap
      Event.report? := by
  unfold Relayer.observed
  cases r.selector.observer <;> rfl

end Observed

/-- The same supplier was signed for and contacted, either way. -/
private theorem sameRecord_sent (session : Session) (ep : Endpoint) (rpcType : RPCType)
    (input : RelayInput) (url : String) (relayReq : Bytes) (x : Except Err Bytes)
    (y : Except Err Reply) :
    SameRecord [(.sign session ep rpcType input (.ok relayReq) : Event γ),
        .send url relayReq rpcType x]
      [.sign session ep rpcType input (.ok relayReq), .sendStream url relayReq rpcType y] :=
  ⟨rfl, rfl⟩

private theorem sameRecord_observed {σ : Type} (r : Relayer σ) (serviceID : ServiceID)
    (rpcType : RPCType) (supplier : EndpointAddr) (success : Bool) (err err' : Option Err) :
    SameRecord (r.observed serviceID rpcType supplier success err : List (Event γ))
      (r.observed serviceID rpcType supplier success err') := by
  constructor
  · rw [outreach_observed, outreach_observed]
  · exact report_observed r serviceID rpcType supplier success err err'

end Attempts

section Single

variable {π σ γ : Type} {validator : Bytes → Seam σ (Except Err RelayResult)}
  {supplier : EndpointAddr} {onBatch : RelayResult → Exec π σ (Event γ) (Except Err Unit)}

/-- Delivering one batch to a callback that accepts everything. -/
private theorem DeliverRun.of_single {ending : Except Err Unit} {s : σ} {b : Bytes}
    {run : List (Event γ) × σ × Except π (Except Err Unit × Bool)}
    (hnil : ∀ result s, (onBatch result s).2.2 = .ok (.ok ()))
    (h : DeliverRun validator supplier onBatch ending false s [b] run) :
    (∃ e s', validator b s = (.error e, s') ∧
      run = ([.validate supplier b (.error e)], s', .ok (.error e, false))) ∨
    (∃ result s₁ es s₂, validator b s = (.ok result, s₁) ∧
      onBatch result s₁ = (es, s₂, .ok (.ok ())) ∧
      run = (.validate supplier b (.ok result) :: es, s₂, .ok (ending, true))) := by
  cases h with
  | complete done es s' all delivers run_eq =>
    cases delivers with
    | nil s => cases all
    | cons batch result valid accepted tail =>
      simp only [List.map_cons, List.cons.injEq] at all
      obtain ⟨rfl, hdone⟩ := all
      cases List.map_eq_nil_iff.mp hdone.symm
      cases tail
      right
      refine ⟨result, _, _, _, valid, accepted, ?_⟩
      simpa using run_eq
  | invalid done batch rest es s' s'' e split delivers failed run_eq =>
    obtain ⟨hdone, hb⟩ := List.append_eq_singleton_iff.mp split.symm |>.resolve_right (by simp)
    cases List.map_eq_nil_iff.mp hdone
    cases hb
    cases delivers
    exact .inl ⟨e, s'', failed, by simpa using run_eq⟩
  | refused done batch result rest es es' s' s₁ s₂ e split delivers valid failed run_eq =>
    have := hnil result s₁
    rw [failed] at this
    cases this
  | panicked done batch result rest es es' s' s₁ s₂ p split delivers valid failed run_eq =>
    have := hnil result s₁
    rw [failed] at this
    cases this

end Single

section Plans

variable [GoLib] (supplier : EndpointAddr) {reply : Reply}

private theorem plan_of_eof (hh : isStreamingResponse reply.header = false)
    (he : reply.body.stop = .eof) (hl : reply.body.bytes.length ≤ maxResponseBytes) :
    plan supplier reply.body reply.header = ⟨[reply.body.bytes], .ok ()⟩ := by
  have hr := Body.readAllLimited_of_lt (Nat.lt_succ_of_le hl)
  rw [he] at hr
  unfold plan wholePlan
  simp only [hh, Bool.false_eq_true, if_false, hr, if_neg (Nat.not_lt.mpr hl)]

private theorem plan_of_failed (hh : isStreamingResponse reply.header = false) {e : Err}
    (he : reply.body.stop = .failed e) (hl : reply.body.bytes.length ≤ maxResponseBytes) :
    plan supplier reply.body reply.header = ⟨[], .error (.errorf "read response: " e)⟩ := by
  have hr := Body.readAllLimited_of_lt (Nat.lt_succ_of_le hl)
  rw [he] at hr
  unfold plan wholePlan
  simp only [hh, Bool.false_eq_true, if_false, hr]

end Plans

/-! ### The two loops -/

section Loops

variable {π τ σ γ : Type} [GoLib] (r : Relayer σ)
  (sendStream : String → Bytes → RPCType → Seam σ (Except Err Reply))
  (select : Context → ServiceID → List Endpoint → RPCType →
    Seam (τ × σ) (Except Err (List Endpoint)))
  (observer : Option (EndpointAddr → Outcome → τ → τ))
  (serviceID : ServiceID) (rpcType : RPCType) (input : RelayInput)
  (onBatch : RelayResult → Exec π (τ × σ) γ (Except Err Unit))

omit [GoLib] in
/-- Telling the observer leaves the rest of the world alone. -/
private theorem watched_afterObserve (supplier : EndpointAddr) (success : Bool)
    (err : Option Err) (s : τ × σ) :
    ((r.watched select observer).afterObserve serviceID rpcType supplier success err s).2 =
      s.2 := by
  unfold Relayer.afterObserve Relayer.watched
  cases observer <;> rfl

omit [GoLib] in
/-- The callback and what it does are not compared. -/
private theorem SameRecord.called {es es' : List (Event γ)} (h : SameRecord es es')
    (result : RelayResult) (cs : List γ) :
    SameRecord es (.onBatch result :: (cs.map .client ++ es')) := by
  have hc : SameRecord es (cs.map .client ++ es') := by
    induction cs with
    | nil => exact h
    | cons c cs ih => exact ih.quiet_right rfl rfl
  exact hc.quiet_right rfl rfl

omit [GoLib] in
private theorem batch_clients (cs : List γ) :
    (cs.map (.client : γ → Event γ)).filterMap Event.batch? = [] := by
  simp [List.filterMap_map, Function.comp_def, Event.batch?]

variable {r sendStream}

omit [GoLib] in
private theorem watched_signer {session : Session} {ep : Endpoint} {t₁ t₂ : τ} {w : σ}
    {out₁ out₂ : Except Err Bytes} {s₁ s₂ : τ × σ}
    (h₁ : (r.watched select observer).signer session ep rpcType input (t₁, w) = (out₁, s₁))
    (h₂ : (r.watched select observer).signer session ep rpcType input (t₂, w) = (out₂, s₂)) :
    out₁ = out₂ ∧ s₁.2 = s₂.2 := by
  cases h₁
  cases h₂
  exact ⟨rfl, rfl⟩

/-- The answers both attempts get to what they signed. -/
private theorem watched_sent (halike : ∀ url relayReq w,
      AlikeAnswers (r.sender url relayReq rpcType w) (sendStream url relayReq rpcType w))
    {url : String} {relayReq : Bytes} {s₁ s₂ s₁' s₂' : τ × σ} {out : Except Err Bytes}
    {out' : Except Err Reply} (hs : s₁.2 = s₂.2)
    (h₁ : (r.watched select observer).sender url relayReq rpcType s₁ = (out, s₁'))
    (h₂ : liftSeam (sendStream url relayReq rpcType) s₂ = (out', s₂')) :
    AlikeAnswers (out, s₁'.2) (out', s₂'.2) := by
  cases h₁
  cases h₂
  have h := halike url relayReq s₂.2
  rw [← hs] at h ⊢
  exact h

omit [GoLib] in
private theorem watched_validator {supplier : EndpointAddr} {batch : Bytes} {s₁ s₂ : τ × σ}
    {out₁ out₂ : Except Err RelayResult} {s₁' s₂' : τ × σ} (hs : s₁.2 = s₂.2)
    (h₁ : (r.watched select observer).validator supplier batch s₁ = (out₁, s₁'))
    (h₂ : (r.watched select observer).validator supplier batch s₂ = (out₂, s₂')) :
    out₁ = out₂ ∧ s₁'.2 = s₂'.2 := by
  cases h₁
  cases h₂
  simp only [hs, and_self]

private theorem attempts_lockstep (session : Session)
    (halike : ∀ url relayReq w,
      AlikeAnswers (r.sender url relayReq rpcType w) (sendStream url relayReq rpcType w))
    (hnil : ∀ result s, (onBatch result s).2.2 = .ok (.ok ())) :
    Lockstep (fun s₁ s₂ : τ × σ ↦ s₁.2 = s₂.2) BothWent BothFinished
      ((r.watched select observer).relayAttempt serviceID rpcType input session :
        Endpoint → Exec π (τ × σ) (Event γ) _)
      (fun ep ↦ Exec.hide Event.isRead ((r.watched select observer).streamAttempt
        (fun url relayReq t ↦ liftSeam (sendStream url relayReq t)) serviceID rpcType input
        onBatch session ep)) := by
  constructor
  rintro ep ⟨t₁, w⟩ ⟨t₂, w'⟩ hw
  cases show w = w' from hw
  have hacc (result : RelayResult) (s : τ × σ) :
      (callOnBatch onBatch result s).2.2 = .ok (.ok ()) := by
    rw [callOnBatch_run]
    exact hnil result s
  have hsign := @watched_signer τ σ r select observer rpcType input session ep t₁ t₂ w
  have hstart {url url' : String} {relayReq relayReq' : Bytes} {s₁ s₂ : τ × σ}
      (found : ep.url rpcType = some url) (found' : ep.url rpcType = some url')
      (signed : (r.watched select observer).signer session ep rpcType input (t₁, w) =
        (.ok relayReq, s₁))
      (signed' : (r.watched select observer).signer session ep rpcType input (t₂, w) =
        (.ok relayReq', s₂)) : url = url' ∧ relayReq = relayReq' ∧ s₁.2 = s₂.2 := by
    cases found.symm.trans found'
    obtain ⟨heq, hs⟩ := hsign signed signed'
    cases heq
    exact ⟨rfl, rfl, hs⟩
  have hobs := @watched_afterObserve τ σ r select observer serviceID rpcType ep.supplier
  have hsame := @sameRecord_observed γ (τ × σ) (r.watched select observer) serviceID rpcType
    ep.supplier
  have hbatch := @batch_observed γ (τ × σ) (r.watched select observer) serviceID rpcType
    ep.supplier
  have hrun := (r.watched select observer).streamAttempt_run serviceID rpcType
    (fun url relayReq t ↦ liftSeam (sendStream url relayReq t)) input onBatch session ep (t₂, w)
  cases @Relayer.relayAttempt_run π (τ × σ) γ (r.watched select observer) serviceID rpcType input
    session ep (t₁, w) with
  | noURL absent run_eq =>
    cases hrun with
    | noURL absent' run_eq' =>
      exact .inl ⟨_, _, _, _, _, _, run_eq, run_eq', rfl, ⟨rfl, rfl⟩, rfl⟩
    | unsigned url e s' found => cases absent.symm.trans found
    | unsent url relayReq e s₁ s₂ found => cases absent.symm.trans found
    | consumed url relayReq reply s₁ s₂ batches found => cases absent.symm.trans found
  | unsigned url e s' found signed run_eq =>
    cases hrun with
    | noURL absent' => cases absent'.symm.trans found
    | unsigned url' e' s'' found' signed' run_eq' =>
      cases (hsign signed signed').1
      exact .inr ⟨_, _, _, _, _, _, run_eq, run_eq', ⟨rfl, rfl⟩, .inr ⟨⟨_, rfl⟩, ⟨_, rfl⟩, rfl⟩⟩
    | unsent url' relayReq e s₁ s₂ found' signed' => cases (hsign signed signed').1
    | consumed url' relayReq reply s₁ s₂ batches found' signed' => cases (hsign signed signed').1
  | unsent url relayReq e s₁ s₂ found signed sent run_eq =>
    cases hrun with
    | noURL absent' => cases absent'.symm.trans found
    | unsigned url' e' s'' found' signed' => cases (hsign signed signed').1
    | unsent url' relayReq' e' s₁' s₂' found' signed' sent' run_eq' =>
      obtain ⟨rfl, rfl, hs⟩ := hstart found found' signed signed'
      have ha := watched_sent select observer rpcType halike hs sent sent'
      left
      refine ⟨_, _, _, _, _, _, run_eq, run_eq', ?_, ?_, ?_⟩
      · rw [hobs, hobs]
        exact ha
      · exact (sameRecord_sent session ep rpcType input url relayReq _ _).append
          (hsame false (some e) (some e'))
      · exact hbatch false (some e')
    | consumed url' relayReq' reply s₁' s₂' batches found' signed' sent' delivery run_eq' =>
      -- The reply broke off while it was read.
      obtain ⟨rfl, rfl, hs⟩ := hstart found found' signed signed'
      obtain ⟨hw', hh, ⟨e', he⟩, hl⟩ := watched_sent select observer rpcType halike hs sent sent'
      rw [plan_of_failed ep.supplier hh he hl] at delivery
      cases delivery.of_nil
      left
      refine ⟨_, _, _, _, _, _, run_eq, run_eq', ?_, ?_, ?_⟩
      · rw [hobs, hobs]
        exact hw'
      · exact (sameRecord_sent session ep rpcType input url relayReq _ _).append
          ((hsame false (some e) (some _)).quiet_right rfl rfl)
      · exact hbatch false (some _)
  | invalid url relayReq respBz e s₁ s₂ s₃ found signed sent validated run_eq =>
    cases hrun with
    | noURL absent' => cases absent'.symm.trans found
    | unsigned url' e' s'' found' signed' => cases (hsign signed signed').1
    | unsent url' relayReq' e' s₁' s₂' found' signed' sent' run_eq' =>
      obtain ⟨rfl, rfl, hs⟩ := hstart found found' signed signed'
      exact (watched_sent select observer rpcType halike hs sent sent').elim
    | consumed url' relayReq' reply s₁' s₂' batches found' signed' sent' delivery run_eq' =>
      obtain ⟨rfl, rfl, hs⟩ := hstart found found' signed signed'
      obtain ⟨hw', hh, rfl, he, hl⟩ := watched_sent select observer rpcType halike hs sent sent'
      rw [plan_of_eof ep.supplier hh he hl] at delivery
      rcases delivery.of_single hacc with ⟨e', s', hv, rfl⟩ | ⟨result, s', es, s'', hv, ho, rfl⟩
      · have hv' := watched_validator select observer hw' validated hv
        left
        refine ⟨_, _, _, _, _, _, run_eq, run_eq', ?_, ?_, ?_⟩
        · rw [hobs, hobs]
          exact hv'.2
        · have hrest := (hsame false (some e) (some e')).quiet_right (e := .close) rfl rfl
          exact (sameRecord_sent session ep rpcType input url relayReq _ _).append
            ((hrest.quiet_right rfl rfl).quiet_left rfl rfl)
        · exact hbatch false (some e')
      · cases (watched_validator select observer hw' validated hv).1
  | valid url relayReq respBz result s₁ s₂ s₃ found signed sent validated run_eq =>
    cases hrun with
    | noURL absent' => cases absent'.symm.trans found
    | unsigned url' e' s'' found' signed' => cases (hsign signed signed').1
    | unsent url' relayReq' e' s₁' s₂' found' signed' sent' run_eq' =>
      obtain ⟨rfl, rfl, hs⟩ := hstart found found' signed signed'
      exact (watched_sent select observer rpcType halike hs sent sent').elim
    | consumed url' relayReq' reply s₁' s₂' batches found' signed' sent' delivery run_eq' =>
      obtain ⟨rfl, rfl, hs⟩ := hstart found found' signed signed'
      obtain ⟨hw', hh, rfl, he, hl⟩ := watched_sent select observer rpcType halike hs sent sent'
      rw [plan_of_eof ep.supplier hh he hl] at delivery
      rcases delivery.of_single hacc with ⟨e', s', hv, rfl⟩ | ⟨result', s', es, s'', hv, ho, rfl⟩
      · cases (watched_validator select observer hw' validated hv).1
      · cases (watched_validator select observer hw' validated hv).1
        rw [callOnBatch_run] at ho
        obtain rfl := congrArg Prod.fst ho
        right
        refine ⟨_, _, _, _, _, _, run_eq, run_eq', ?_, .inl ⟨result, rfl, rfl, ?_⟩⟩
        · have hrest := ((hsame true none none).quiet_right (e := .close) rfl rfl).called
            result (onBatch result s').1
          exact (sameRecord_sent session ep rpcType input url relayReq _ _).append
            ((hrest.quiet_right rfl rfl).quiet_left rfl rfl)
        · change result :: ((onBatch result s').1.map Event.client ++ Event.close ::
            (r.watched select observer).observed serviceID rpcType ep.supplier true none).filterMap
              Event.batch? = [result]
          rw [List.filterMap_append, batch_clients, List.nil_append,
            List.filterMap_cons_none rfl, hbatch]

omit [GoLib] in
/-- Loops over the same endpoints that agree on every attempt agree altogether. -/
private theorem agree_of_lockstep {n : Nat} {ordered : List Endpoint} {s : τ × σ}
    {a : Endpoint → Exec π (τ × σ) (Event γ) (Attempt Err (Except Err RelayResult))}
    {b : Endpoint → Exec π (τ × σ) (Event γ) (Attempt Err (Except Err Unit))}
    (h : Lockstep (fun s₁ s₂ : τ × σ ↦ s₁.2 = s₂.2) BothWent BothFinished a b) :
    Agree (tryEach a none ordered s).1
      ((tryEach a none ordered s).2.2.map (Relayer.finishTries n))
      (tryEach b none ordered s).1
      ((tryEach b none ordered s).2.2.map (Relayer.finishTries n)) := by
  rcases h.run ⟨⟨rfl, rfl⟩, rfl⟩ (fun _ _ _ _ h h' ↦ ⟨h.1.append h'.1, by
      rw [List.filterMap_append, h.2, h'.2]; rfl⟩) s s rfl none none ordered with
    ⟨es₁, es₂, t₁, t₂, l₁, l₂, h₁, h₂, hw⟩ |
    ⟨pre₁, pre₂, es₁, es₂, t₁, t₂, r₁, r₂, h₁, h₂, hw, hf⟩
  · rw [h₁, h₂]
    exact {
      answers := fun result ↦ ⟨fun h ↦ (by cases h), fun h ↦ (by cases h.1)⟩
      fails := ⟨fun _ ↦ ⟨⟨_, rfl⟩, hw.2⟩, fun _ ↦ ⟨_, rfl⟩⟩
      outreach := hw.1.outreach
      reports := hw.1.reports }
  · rw [h₁, h₂]
    have hsame := hw.1.append hf.1
    have hb : (pre₂ ++ es₂).filterMap Event.batch? = es₂.filterMap Event.batch? := by
      rw [List.filterMap_append, hw.2, List.nil_append]
    rcases hf.2 with ⟨result, rfl, rfl, hres⟩ | ⟨⟨e, rfl⟩, ⟨e', rfl⟩, hres⟩
    · refine ⟨?_, ?_, hsame.outreach, hsame.reports⟩
      · intro result'
        rw [hb, hres]
        constructor
        · intro h
          cases h
          exact ⟨rfl, rfl⟩
        · rintro ⟨-, h⟩
          cases h
          rfl
      · constructor
        · rintro ⟨e, h⟩
          cases h
        · rintro ⟨⟨e, h⟩, -⟩
          cases h
    · refine ⟨?_, ?_, hsame.outreach, hsame.reports⟩
      · intro result'
        constructor
        · intro h
          cases h
        · rintro ⟨h, -⟩
          cases h
      · rw [hb, hres]
        exact ⟨fun _ ↦ ⟨⟨e', rfl⟩, rfl⟩, fun _ ↦ ⟨e, rfl⟩⟩

variable (r)

omit [GoLib] in
/-- Hiding the reads hides nothing that is compared. -/
private theorem RunsAgree.of_hide {x : Exec π (τ × σ) (Event γ) (Except Err RelayResult)}
    {y : Exec π (τ × σ) (Event γ) (Except Err Unit)} {s : τ × σ}
    (h : RunsAgree x (Exec.hide Event.isRead y) s) : RunsAgree x y s := by
  have hf {α : Type} (f : Event γ → Option α) (hr : ∀ c, f (.read c) = none) :
      ((Exec.hide Event.isRead y).events s).filterMap f = (y.events s).filterMap f := by
    rw [Exec.events_hide, List.filterMap_filter]
    congr 1
    funext e
    cases e with
    | read c => exact (hr c).symm
    | _ => rfl
  unfold RunsAgree at h
  rw [Exec.outcome_hide] at h
  refine ⟨?_, ?_, ?_, ?_⟩
  · rw [← hf _ (fun _ ↦ rfl)]
    exact h.answers
  · rw [← hf _ (fun _ ↦ rfl)]
    exact h.fails
  · rw [← hf _ (fun _ ↦ rfl)]
    exact h.outreach
  · rw [← hf _ (fun _ ↦ rfl)]
    exact h.reports

private theorem relay_agrees (ctx : Context) (s : τ × σ)
    (hstream : r.streamSender = some sendStream) (halike : ∀ url relayReq w,
      AlikeAnswers (r.sender url relayReq rpcType w) (sendStream url relayReq rpcType w))
    (hnil : ∀ result s, (onBatch result s).2.2 = .ok (.ok ())) :
    RunsAgree ((r.watched select observer).relay ctx serviceID rpcType input)
      ((r.watched select observer).relayStream ctx serviceID rpcType input onBatch) s := by
  have hst : (r.watched select observer).streamSender =
      some (fun url relayReq t ↦ liftSeam (sendStream url relayReq t)) := by
    simp [Relayer.watched, liftRelayer, hstream]
  apply RunsAgree.of_hide
  simp only [Relayer.relayStream, hst]
  rw [Relayer.hide_withFailover]
  unfold RunsAgree Relayer.relay Exec.events Exec.outcome
  rcases (r.watched select observer).withFailover_split ctx serviceID rpcType s with
    ⟨e, s', -, h⟩ | ⟨session, ordered, s₁, s₂, hf, hs, he⟩
  · rw [h π γ RelayResult, h π γ Unit]
    exact {
      answers := fun result ↦ ⟨fun h ↦ (by cases h), fun h ↦ (by cases h.1)⟩
      fails := ⟨fun _ ↦ ⟨⟨e, rfl⟩, rfl⟩, fun _ ↦ ⟨e, rfl⟩⟩
      outreach := rfl
      reports := rfl }
  · rw [Relayer.withFailover_tried _ hf hs he _ _ rfl, Relayer.withFailover_tried _ hf hs he _ _ rfl]
    exact agree_of_lockstep (attempts_lockstep select observer serviceID rpcType input onBatch
      session halike hnil)

end Loops

/-- On replies that are no streams `Relay` and `RelayStream` return the same, contact the same
suppliers with the same bytes and report the same outcomes; and the gRPC branch of
`MultiSender` answers both alike. -/
theorem relay_agrees_relayStream [GoLib] {σ : Type} :
    (∀ (π τ γ : Type) (r : Relayer σ)
      (sendStream : String → Bytes → RPCType → Seam σ (Except Err Reply))
      (select : Context → ServiceID → List Endpoint → RPCType →
        Seam (τ × σ) (Except Err (List Endpoint)))
      (observer : Option (EndpointAddr → Outcome → τ → τ)) (ctx : Context)
      (serviceID : ServiceID) (rpcType : RPCType) (input : RelayInput)
      (onBatch : RelayResult → Exec π (τ × σ) γ (Except Err Unit)) (s : τ × σ),
      r.streamSender = some sendStream →
      (∀ url relayReq w,
        AlikeAnswers (r.sender url relayReq rpcType w) (sendStream url relayReq rpcType w)) →
      (∀ result s, (onBatch result s).2.2 = .ok (.ok ())) →
      RunsAgree ((r.watched select observer).relay ctx serviceID rpcType input)
        ((r.watched select observer).relayStream ctx serviceID rpcType input onBatch) s) ∧
    (∀ (m : MultiSender σ) (g : String → Bytes → RPCType → Seam σ (Except Err Bytes)) (url : String)
      (relayReq : Bytes) (s : σ), m.grpc = some g →
      (∀ respBz, (g url relayReq .grpc s).1 = .ok respBz → respBz.length ≤ maxResponseBytes) →
      AlikeAnswers (m.send url relayReq .grpc s) (m.sendStream url relayReq .grpc s)) := by
  constructor
  · intro π τ γ r sendStream select observer ctx serviceID rpcType input onBatch s
    exact relay_agrees r select observer serviceID rpcType input onBatch ctx s
  · intro m g url relayReq s hg hsize
    unfold MultiSender.send MultiSender.sendStream
    rw [hg]
    simp only
    rcases ha : g url relayReq .grpc s with ⟨e | respBz, s'⟩
    · exact rfl
    · refine ⟨rfl, rfl, Pocket.bytesReader_bytes respBz, Pocket.bytesReader_stop respBz, ?_⟩
      apply hsize
      rw [ha]

/-- One supplier that answers with a single byte. -/
def oneReply : Relayer Unit :=
  .scripted [⟨"pokt1a", fun _ ↦ some "https://a"⟩] (fun _ ↦ .ok ⟨.final [7] .eof, [], 200⟩)

/-- With one reply both ways of relaying agree. -/
theorem relay_agrees_oneReply :
    @RunsAgree Empty (Nat × Unit) Empty
      ((oneReply.watched (fun _ _ eps _ s ↦ (.ok eps, s))
        (some fun _ _ (n : Nat) ↦ n + 1)).relay {} "eth" .grpc ⟨"POST", "/", [], []⟩)
      (@Relayer.relayStream _ _ _ GoLib.plain (oneReply.watched (fun _ _ eps _ s ↦ (.ok eps, s))
        (some fun _ _ (n : Nat) ↦ n + 1)) {} "eth" .grpc ⟨"POST", "/", [], []⟩
        (fun _ ↦ pure (.ok ()))) (0, ()) ∧
    @AlikeAnswers GoLib.plain Unit
      (MultiSender.send ⟨⟨fun _ ↦ none, fun _ s ↦ (.error (.text "refused"), s),
        fun _ s ↦ (.error (.text "refused"), s)⟩, some fun _ _ _ s ↦ (.ok [7], s)⟩ "a" [] .grpc ())
      (MultiSender.sendStream ⟨⟨fun _ ↦ none, fun _ s ↦ (.error (.text "refused"), s),
        fun _ s ↦ (.error (.text "refused"), s)⟩, some fun _ _ _ s ↦ (.ok [7], s)⟩ "a" []
          .grpc ()) := by
  constructor
  · apply (@relay_agrees_relayStream GoLib.plain Unit).1
    · rfl
    · intro url relayReq w
      exact ⟨rfl, rfl, rfl, rfl, by simp [maxResponseBytes, Body.bytes]⟩
    · intro result s
      rfl
  · apply (@relay_agrees_relayStream GoLib.plain Unit).2
    · rfl
    · intro respBz h
      cases h
      simp [maxResponseBytes]

end PocketAp.Relay
