import PocketAp.Base.Failover
import PocketAp.Base.Scanner
import PocketAp.Domain.Supplier

/-!
# The relay flow

`src/relay/relay.go`. The seams may do anything to a world `σ` they share, so their answers
can change from call to call. A run records every call it makes into a seam. Latencies are
left out: they are measured and handed on, never read here.
-/

namespace PocketAp.Relay

open PocketAp.Base PocketAp.Domain

/-- A call into a seam: its answer, and the world afterwards. -/
abbrev Seam (σ α : Type) := σ → α × σ

/-- What an observer is told about one attempt. `src/relay/relay.go:83–89`. -/
structure Outcome where
  serviceID : ServiceID
  rpcType : RPCType
  success : Bool
  err : Option Err
  deriving DecidableEq, Repr

/-- A selector, and its `Observe` method if it has one. `src/relay/relay.go:58–60, 102–104`. -/
structure Selector (σ : Type) where
  select : Context → ServiceID → List Endpoint → RPCType → Seam σ (Except Err (List Endpoint))
  observer : Option (EndpointAddr → Outcome → σ → σ)

/-- An answer still open for reading. `src/relay/stream.go:51–53`. -/
structure Reply where
  body : Body UInt8 Err
  header : Header
  statusCode : Int
  deriving DecidableEq, Repr

/-- The seams of a relayer. `src/relay/relay.go:141–153`. -/
structure Relayer (σ : Type) where
  sessions : ServiceID → Seam σ (Except Err Session)
  signer : Session → Endpoint → RPCType → RelayInput → Seam σ (Except Err Bytes)
  validator : EndpointAddr → Bytes → Seam σ (Except Err RelayResult)
  selector : Selector σ
  sender : String → Bytes → RPCType → Seam σ (Except Err Bytes)
  maxAttempts : Int
  streamSender : Option (String → Bytes → RPCType → Seam σ (Except Err Reply))

/-- A seam of a world without the additional variable `τ`. -/
def liftSeam {τ σ α : Type} (f : Seam σ α) : Seam (τ × σ) α :=
  fun s ↦ ((f s.2).1, (s.1, (f s.2).2))

/-- Such a call leaves the additional variable as it is. -/
theorem liftSeam_run {τ σ α : Type} {f : Seam σ α} {s : τ × σ} {a : α} {s' : σ}
    (h : f s.2 = (a, s')) : liftSeam f s = (a, (s.1, s')) := by
  simp only [liftSeam, h]

/-- A relayer does not see the variables of the code that calls it. -/
def liftRelayer (τ : Type) {σ : Type} (r : Relayer σ) : Relayer (τ × σ) where
  sessions serviceID := liftSeam (r.sessions serviceID)
  signer session ep rpcType input := liftSeam (r.signer session ep rpcType input)
  validator supplier batch := liftSeam (r.validator supplier batch)
  selector :=
    { select := fun ctx serviceID endpoints rpcType ↦
        liftSeam (r.selector.select ctx serviceID endpoints rpcType)
      observer := r.selector.observer.map
        (fun f supplier outcome s ↦ (s.1, f supplier outcome s.2)) }
  sender url relayReq rpcType := liftSeam (r.sender url relayReq rpcType)
  maxAttempts := r.maxAttempts
  streamSender := r.streamSender.map
    (fun f url relayReq rpcType ↦ liftSeam (f url relayReq rpcType))

/-- The calls a run makes; `client` are those of the code that serves a client. -/
inductive Event (γ : Type) where
  | sign (session : Session) (endpoint : Endpoint) (rpcType : RPCType) (input : RelayInput)
      (result : Except Err Bytes)
  | send (url : String) (relayReq : Bytes) (rpcType : RPCType) (result : Except Err Bytes)
  | sendStream (url : String) (relayReq : Bytes) (rpcType : RPCType)
      (result : Except Err Reply)
  | read (chunk : Chunk UInt8 Err)
  | validate (supplier : EndpointAddr) (batch : Bytes) (result : Except Err RelayResult)
  | onBatch (result : RelayResult)
  | close
  | observe (supplier : EndpointAddr) (outcome : Outcome)
  | client (e : γ)

namespace Relayer

variable {π σ γ : Type} (r : Relayer σ)

/-! ### Calls into the seams -/

/-- A recorded call of the signer. -/
def signRelay (session : Session) (ep : Endpoint) (rpcType : RPCType) (input : RelayInput) :
    Exec π σ (Event γ) (Except Err Bytes) :=
  Exec.call (r.signer session ep rpcType input) (.sign session ep rpcType input)

/-- A recorded call of the sender. -/
def send (url : String) (relayReq : Bytes) (rpcType : RPCType) :
    Exec π σ (Event γ) (Except Err Bytes) :=
  Exec.call (r.sender url relayReq rpcType) (.send url relayReq rpcType)

/-- A recorded call of the validator. -/
def validateResponse (supplier : EndpointAddr) (respBz : Bytes) :
    Exec π σ (Event γ) (Except Err RelayResult) :=
  Exec.call (r.validator supplier respBz) (.validate supplier respBz)

/-- `src/relay/relay.go:179–190`, `src/relay/stream.go:112–121`. -/
def observe (serviceID : ServiceID) (rpcType : RPCType) (supplier : EndpointAddr)
    (success : Bool) (err : Option Err) : Exec π σ (Event γ) Unit :=
  match r.selector.observer with
  | none => pure ()
  | some f =>
    Exec.call (fun s ↦ ((), f supplier ⟨serviceID, rpcType, success, err⟩ s))
      (fun _ ↦ .observe supplier ⟨serviceID, rpcType, success, err⟩)

/-- The record of telling the observer, if there is one. -/
def observed (serviceID : ServiceID) (rpcType : RPCType) (supplier : EndpointAddr)
    (success : Bool) (err : Option Err) : List (Event γ) :=
  match r.selector.observer with
  | none => []
  | some _ => [.observe supplier ⟨serviceID, rpcType, success, err⟩]

/-- The world after the observer was told. -/
def afterObserve (serviceID : ServiceID) (rpcType : RPCType) (supplier : EndpointAddr)
    (success : Bool) (err : Option Err) (s : σ) : σ :=
  match r.selector.observer with
  | none => s
  | some f => f supplier ⟨serviceID, rpcType, success, err⟩ s

/-- What reporting an outcome does. -/
theorem observe_run (serviceID : ServiceID) (rpcType : RPCType) (supplier : EndpointAddr)
    (success : Bool) (err : Option Err) (s : σ) :
    (r.observe serviceID rpcType supplier success err : Exec π σ (Event γ) Unit) s =
      (r.observed serviceID rpcType supplier success err,
        r.afterObserve serviceID rpcType supplier success err s, .ok ()) := by
  unfold observe observed afterObserve
  cases r.selector.observer <;> rfl

/-- An outcome is reported for its supplier. -/
theorem eq_of_mem_observed {r : Relayer σ} {serviceID : ServiceID} {rpcType : RPCType}
    {supplier supplier' : EndpointAddr} {success : Bool}
    {err : Option Err} {outcome : Outcome}
    (h : (.observe supplier' outcome : Event γ) ∈
      r.observed serviceID rpcType supplier success err) : supplier' = supplier := by
  unfold observed at h
  cases ho : r.selector.observer with
  | none => simp [ho] at h
  | some f =>
    simp only [ho, List.mem_singleton, Event.observe.injEq] at h
    exact h.1

/-- Reporting an outcome makes no other call. -/
theorem not_mem_observed {r : Relayer σ} {serviceID : ServiceID} {rpcType : RPCType}
    {supplier : EndpointAddr} {success : Bool} {err : Option Err}
    {ev : Event γ} (hev : ∀ supplier' outcome, ev ≠ .observe supplier' outcome) :
    ev ∉ r.observed serviceID rpcType supplier success err := by
  unfold observed
  cases r.selector.observer with
  | none => simp
  | some f => simpa using hev _ _

/-- No seam breaks the property `I` of the world. -/
structure Keeps (I : σ → Prop) : Prop where
  sessions : ∀ serviceID s, I s → I (r.sessions serviceID s).2
  signer : ∀ session ep rpcType input s, I s → I (r.signer session ep rpcType input s).2
  validator : ∀ supplier batch s, I s → I (r.validator supplier batch s).2
  select : ∀ ctx serviceID endpoints rpcType s, I s →
    I (r.selector.select ctx serviceID endpoints rpcType s).2
  observer : ∀ f, r.selector.observer = some f → ∀ supplier outcome s, I s →
    I (f supplier outcome s)
  sender : ∀ url relayReq rpcType s, I s → I (r.sender url relayReq rpcType s).2
  streamSender : ∀ f, r.streamSender = some f → ∀ url relayReq rpcType s, I s →
    I (f url relayReq rpcType s).2

/-- Nothing is kept for nothing. -/
theorem Keeps.trivial : r.Keeps (fun _ ↦ True) := by
  constructor <;> intros <;> exact True.intro

/-- What a relayer keeps, its observer keeps. -/
theorem Keeps.afterObserve {r : Relayer σ} {I : σ → Prop} (h : r.Keeps I) (serviceID : ServiceID)
    (rpcType : RPCType) (supplier : EndpointAddr) (success : Bool) (err : Option Err) (s : σ)
    (hs : I s) : I (r.afterObserve serviceID rpcType supplier success err s) := by
  unfold Relayer.afterObserve
  cases ho : r.selector.observer with
  | none => exact hs
  | some f => exact h.observer f ho _ _ s hs

/-! ### Failover -/

/-- What is returned when the loop is over. `src/relay/relay.go:228`, `src/relay/stream.go:174`. -/
def finishTries {ρ : Type} (attempts : Nat) : Except (Option Err) (Except Err ρ) → Except Err ρ
  | .ok result => result
  | .error last => .error (.errorfOption ("relay: all " ++ toString attempts ++
      " attempt(s) failed: ") last)

/-- The part `Relay` and `RelayStream` have in common: fetch a session, choose endpoints, and
attempt them in order. `src/relay/relay.go:158–174, 192–194, 228`,
`src/relay/stream.go:99–110, 123–129, 174`. -/
def withFailover {ρ : Type} (ctx : Context) (serviceID : ServiceID) (rpcType : RPCType)
    (attempt : Session → Endpoint → Exec π σ (Event γ) (Attempt Err (Except Err ρ))) :
    Exec π σ (Event γ) (Except Err ρ) := do
  match ← Exec.act (r.sessions serviceID) with
  | .error e =>
    pure (.error (.errorf ("relay: session fetch failed for " ++ serviceID ++ ": ") e))
  | .ok session =>
    match ← Exec.act (r.selector.select ctx serviceID session.endpoints rpcType) with
    | .error e =>
      pure (.error (.errorf ("relay: endpoint selection failed for " ++ serviceID ++ "/" ++
        rpcType.string ++ ": ") e))
    | .ok ordered =>
      if ordered.isEmpty then pure (.error errNoEndpoint)
      else
        let attempts := attemptCap r.maxAttempts ordered.length
        let tried ← tryEach (attempt session) none (ordered.take attempts)
        pure (finishTries attempts tried)

/-- One attempt of `Relay`. `src/relay/relay.go:195–225`. -/
def relayAttempt (serviceID : ServiceID) (rpcType : RPCType) (input : RelayInput)
    (session : Session) (ep : Endpoint) :
    Exec π σ (Event γ) (Attempt Err (Except Err RelayResult)) :=
  match ep.url rpcType with
  | none => pure (.next errNoEndpoint)
  | some url => do
    match ← r.signRelay session ep rpcType input with
    | .error e => pure (.finish (.error (.errorf "relay: sign failed: " e)))
    | .ok relayReq =>
      match ← r.send url relayReq rpcType with
      | .error e =>
        r.observe serviceID rpcType ep.supplier false (some e)
        pure (.next (.errorf ("relay: send to " ++ ep.supplier ++ " failed: ") e))
      | .ok respBz =>
        match ← r.validateResponse ep.supplier respBz with
        | .error e =>
          r.observe serviceID rpcType ep.supplier false (some e)
          pure (.next (.errorf ("relay: validate from " ++ ep.supplier ++ " failed: ") e))
        | .ok result =>
          r.observe serviceID rpcType ep.supplier true none
          pure (.finish (.ok result))

/-- `src/relay/relay.go:157–229`. -/
def relay (ctx : Context) (serviceID : ServiceID) (rpcType : RPCType) (input : RelayInput) :
    Exec π σ (Event γ) (Except Err RelayResult) :=
  r.withFailover ctx serviceID rpcType (r.relayAttempt serviceID rpcType input)

/-! ### Runs of the common part -/

/-- What a run can do: return an error before the first attempt, or try the endpoints that
were selected, as many as the cap allows. -/
inductive FailoverRun {ρ : Type} (ctx : Context) (serviceID : ServiceID) (rpcType : RPCType)
    (attempt : Session → Endpoint → Exec π σ (Event γ) (Attempt Err (Except Err ρ)))
    (s : σ) (run : List (Event γ) × σ × Except π (Except Err ρ)) : Prop where
  | unavailable (e : Err) (s' : σ) (kept : ∀ I, r.Keeps I → I s → I s')
      (run_eq : run = ([], s', .ok (.error e)))
  | tried (session : Session) (ordered : List Endpoint) (s₁ s₂ : σ)
      (tries : List (Event γ) × σ × Except π (Except (Option Err) (Except Err ρ)))
      (fetched : r.sessions serviceID s = (.ok session, s₁))
      (selected : r.selector.select ctx serviceID session.endpoints rpcType s₁ =
        (.ok ordered, s₂))
      (ne_nil : ordered ≠ [])
      (tries_eq : tries = tryEach (attempt session) none
        (ordered.take (attemptCap r.maxAttempts ordered.length)) s₂)
      (run_eq : run = (tries.1, tries.2.1,
        tries.2.2.map (finishTries (attemptCap r.maxAttempts ordered.length))))

/-- With a session and a selection the run is the loop over the endpoints. -/
theorem withFailover_tried {ρ : Type} {ctx : Context} {serviceID : ServiceID} {rpcType : RPCType}
    {session : Session} {ordered : List Endpoint} {s s₁ s₂ : σ}
    (hf : r.sessions serviceID s = (.ok session, s₁))
    (hs : r.selector.select ctx serviceID session.endpoints rpcType s₁ = (.ok ordered, s₂))
    (he : ordered ≠ [])
    (attempt : Session → Endpoint → Exec π σ (Event γ) (Attempt Err (Except Err ρ)))
    (tries : List (Event γ) × σ × Except π (Except (Option Err) (Except Err ρ)))
    (ht : tries = tryEach (attempt session) none
      (ordered.take (attemptCap r.maxAttempts ordered.length)) s₂) :
    r.withFailover ctx serviceID rpcType attempt s = (tries.1, tries.2.1,
      tries.2.2.map (finishTries (attemptCap r.maxAttempts ordered.length))) := by
  have hb : ordered.isEmpty = false := by simpa using he
  unfold withFailover
  rw [Exec.bind_run_ok (Exec.act_run hf)]
  simp only
  rw [Exec.bind_run_ok (Exec.act_run hs)]
  simp only [hb, Bool.false_eq_true, if_false]
  rcases tries with ⟨es, s₃, p | t⟩
  · rw [Exec.bind_run_error ht.symm]
    rfl
  · rw [Exec.bind_run_ok ht.symm]
    simp [Exec.pure_run, Except.map]

/-- With an empty selection there is nothing to try. -/
theorem withFailover_nil {ρ : Type} {ctx : Context} {serviceID : ServiceID} {rpcType : RPCType}
    {session : Session} {s s₁ s₂ : σ} (hf : r.sessions serviceID s = (.ok session, s₁))
    (hs : r.selector.select ctx serviceID session.endpoints rpcType s₁ = (.ok [], s₂))
    (attempt : Session → Endpoint → Exec π σ (Event γ) (Attempt Err (Except Err ρ))) :
    r.withFailover ctx serviceID rpcType attempt s = ([], s₂, .ok (.error errNoEndpoint)) := by
  unfold withFailover
  rw [Exec.bind_run_ok (Exec.act_run hf)]
  simp only
  rw [Exec.bind_run_ok (Exec.act_run hs)]
  rfl

/-- Whether there is anything to try does not depend on the attempts. -/
theorem withFailover_split (ctx : Context) (serviceID : ServiceID) (rpcType : RPCType) (s : σ) :
    (∃ e s', (∀ I, r.Keeps I → I s → I s') ∧ ∀ (π γ ρ : Type)
      (attempt : Session → Endpoint → Exec π σ (Event γ) (Attempt Err (Except Err ρ))),
      r.withFailover ctx serviceID rpcType attempt s = ([], s', .ok (.error e))) ∨
    (∃ session ordered s₁ s₂, r.sessions serviceID s = (.ok session, s₁) ∧
      r.selector.select ctx serviceID session.endpoints rpcType s₁ = (.ok ordered, s₂) ∧
      ordered ≠ []) := by
  have hkept (I : σ → Prop) (hI : r.Keeps I) (hs : I s) : I (r.sessions serviceID s).2 :=
    hI.sessions serviceID s hs
  rcases hf : r.sessions serviceID s with ⟨e | session, s₁⟩
  · rw [hf] at hkept
    refine .inl ⟨.errorf ("relay: session fetch failed for " ++ serviceID ++ ": ") e, s₁, hkept,
      fun π γ ρ attempt ↦ ?_⟩
    unfold withFailover
    rw [Exec.bind_run_ok (Exec.act_run hf)]
    rfl
  · rw [hf] at hkept
    have hkept' (I : σ → Prop) (hI : r.Keeps I) (hs : I s) :
        I (r.selector.select ctx serviceID session.endpoints rpcType s₁).2 :=
      hI.select ctx serviceID session.endpoints rpcType s₁ (hkept I hI hs)
    rcases hs : r.selector.select ctx serviceID session.endpoints rpcType s₁ with
      ⟨e | ordered, s₂⟩
    · rw [hs] at hkept'
      refine .inl ⟨.errorf ("relay: endpoint selection failed for " ++ serviceID ++ "/" ++
        rpcType.string ++ ": ") e, s₂, hkept', fun π γ ρ attempt ↦ ?_⟩
      unfold withFailover
      rw [Exec.bind_run_ok (Exec.act_run hf)]
      simp only
      rw [Exec.bind_run_ok (Exec.act_run hs)]
      rfl
    · by_cases he : ordered = []
      · subst he
        rw [hs] at hkept'
        exact .inl ⟨errNoEndpoint, s₂, hkept', fun π γ ρ attempt ↦ r.withFailover_nil hf hs attempt⟩
      · exact .inr ⟨session, ordered, s₁, s₂, rfl, hs, he⟩

/-- What the failover loop can do. -/
theorem withFailover_run {ρ : Type} (ctx : Context) (serviceID : ServiceID) (rpcType : RPCType)
    (attempt : Session → Endpoint → Exec π σ (Event γ) (Attempt Err (Except Err ρ))) (s : σ) :
    r.FailoverRun ctx serviceID rpcType attempt s
      (r.withFailover ctx serviceID rpcType attempt s) := by
  rcases r.withFailover_split ctx serviceID rpcType s with
    ⟨e, s', hkept, h⟩ | ⟨session, ordered, s₁, s₂, hf, hs, he⟩
  · exact .unavailable e s' hkept (h π γ ρ attempt)
  · exact .tried session ordered s₁ s₂ _ hf hs he rfl (r.withFailover_tried hf hs he attempt _ rfl)

/-- A call of a run is one of an attempt with the session that was fetched, and the whole
attempt is part of the run. -/
theorem exists_attempt_withFailover {ρ : Type} {ctx : Context} {serviceID : ServiceID}
    {rpcType : RPCType}
    {attempt : Session → Endpoint → Exec π σ (Event γ) (Attempt Err (Except Err ρ))} {s : σ}
    {ev : Event γ} (hev : ev ∈ (r.withFailover ctx serviceID rpcType attempt s).1) :
    ∃ session s₁ ep s₂, r.sessions serviceID s = (.ok session, s₁) ∧
      ev ∈ (attempt session ep s₂).1 ∧
      (attempt session ep s₂).1 <:+: (r.withFailover ctx serviceID rpcType attempt s).1 := by
  cases r.withFailover_run ctx serviceID rpcType attempt s with
  | unavailable e s' kept run_eq =>
    rw [run_eq] at hev
    cases hev
  | tried session ordered s₁ s₂ tries fetched selected ne_nil tries_eq run_eq =>
    rw [run_eq, tries_eq] at hev ⊢
    obtain ⟨ep, -, s₃, hev, hinfix⟩ := exists_attempt_tryEach hev
    exact ⟨session, s₁, ep, s₃, fetched, hev, hinfix⟩

/-- Calls of a run inherit what holds of every attempt with the session that was fetched. -/
theorem forall_events_withFailover {ρ : Type} {ctx : Context} {serviceID : ServiceID}
    {rpcType : RPCType}
    {attempt : Session → Endpoint → Exec π σ (Event γ) (Attempt Err (Except Err ρ))}
    (Q : Session → Event γ → Prop)
    (hQ : ∀ session ep s, ∀ ev ∈ (attempt session ep s).1, Q session ev) (s : σ) :
    ∀ ev ∈ (r.withFailover ctx serviceID rpcType attempt s).1,
      ∃ session s₁, r.sessions serviceID s = (.ok session, s₁) ∧ Q session ev := by
  intro ev hev
  obtain ⟨session, s₁, ep, s₂, fetched, hev, -⟩ := r.exists_attempt_withFailover hev
  exact ⟨session, s₁, fetched, hQ session ep s₂ ev hev⟩

/-- The same for a call together with the calls before it. -/
theorem forall_splits_withFailover {ρ : Type} {ctx : Context} {serviceID : ServiceID}
    {rpcType : RPCType}
    {attempt : Session → Endpoint → Exec π σ (Event γ) (Attempt Err (Except Err ρ))}
    (Q : List (Event γ) → Event γ → Prop)
    (hmono : ∀ before pre ev, Q pre ev → Q (before ++ pre) ev)
    (hQ : ∀ session ep s pre ev post, (attempt session ep s).1 = pre ++ ev :: post → Q pre ev)
    (s : σ) (pre : List (Event γ)) (ev : Event γ) (post : List (Event γ))
    (h : (r.withFailover ctx serviceID rpcType attempt s).1 = pre ++ ev :: post) : Q pre ev := by
  cases r.withFailover_run ctx serviceID rpcType attempt s with
  | unavailable e s' kept run_eq =>
    rw [run_eq] at h
    exact absurd h.symm (by simp)
  | tried session ordered s₁ s₂ tries fetched selected ne_nil tries_eq run_eq =>
    rw [run_eq, tries_eq] at h
    exact forall_splits_tryEach Q hmono (fun ep _ ↦ hQ session ep) s₂ none pre ev post h

/-- Projecting the record of a run is projecting that of every attempt. -/
theorem project_withFailover {ρ γ' : Type} (f : Event γ → Option (Event γ')) (ctx : Context)
    (serviceID : ServiceID) (rpcType : RPCType)
    (attempt : Session → Endpoint → Exec π σ (Event γ) (Attempt Err (Except Err ρ))) :
    Exec.project f (r.withFailover ctx serviceID rpcType attempt) =
      r.withFailover ctx serviceID rpcType
        (fun session ep ↦ Exec.project f (attempt session ep)) := by
  unfold withFailover
  rw [Exec.project_bind, Exec.project_act]
  congr 1
  funext fetched
  cases fetched with
  | error e => rfl
  | ok session =>
    simp only
    rw [Exec.project_bind, Exec.project_act]
    congr 1
    funext selected
    cases selected with
    | error e => rfl
    | ok ordered =>
      simp only
      split
      · rfl
      · rw [Exec.project_bind, project_tryEach]
        rfl

/-- Hiding calls of a run is hiding them in every attempt. -/
theorem hide_withFailover {ρ : Type} (p : Event γ → Bool) (ctx : Context)
    (serviceID : ServiceID) (rpcType : RPCType)
    (attempt : Session → Endpoint → Exec π σ (Event γ) (Attempt Err (Except Err ρ))) :
    Exec.hide p (r.withFailover ctx serviceID rpcType attempt) =
      r.withFailover ctx serviceID rpcType
        (fun session ep ↦ Exec.hide p (attempt session ep)) := by
  simp only [Exec.hide_eq_project, project_withFailover]

/-! ### Runs of one attempt of `Relay` -/

/-- What one attempt of `Relay` can do. -/
inductive RelayAttemptRun (serviceID : ServiceID) (rpcType : RPCType) (input : RelayInput)
    (session : Session) (ep : Endpoint) (s : σ)
    (run : List (Event γ) × σ × Except π (Attempt Err (Except Err RelayResult))) : Prop where
  | noURL (absent : ep.url rpcType = none) (run_eq : run = ([], s, .ok (.next errNoEndpoint)))
  | unsigned (url : String) (e : Err) (s' : σ) (found : ep.url rpcType = some url)
      (signed : r.signer session ep rpcType input s = (.error e, s'))
      (run_eq : run = ([.sign session ep rpcType input (.error e)], s',
        .ok (.finish (.error (.errorf "relay: sign failed: " e)))))
  | unsent (url : String) (relayReq : Bytes) (e : Err) (s₁ s₂ : σ)
      (found : ep.url rpcType = some url)
      (signed : r.signer session ep rpcType input s = (.ok relayReq, s₁))
      (sent : r.sender url relayReq rpcType s₁ = (.error e, s₂))
      (run_eq : run = (.sign session ep rpcType input (.ok relayReq) ::
          .send url relayReq rpcType (.error e) ::
          r.observed serviceID rpcType ep.supplier false (some e),
        r.afterObserve serviceID rpcType ep.supplier false (some e) s₂,
        .ok (.next (.errorf ("relay: send to " ++ ep.supplier ++ " failed: ") e))))
  | invalid (url : String) (relayReq respBz : Bytes) (e : Err) (s₁ s₂ s₃ : σ)
      (found : ep.url rpcType = some url)
      (signed : r.signer session ep rpcType input s = (.ok relayReq, s₁))
      (sent : r.sender url relayReq rpcType s₁ = (.ok respBz, s₂))
      (validated : r.validator ep.supplier respBz s₂ = (.error e, s₃))
      (run_eq : run = (.sign session ep rpcType input (.ok relayReq) ::
          .send url relayReq rpcType (.ok respBz) ::
          .validate ep.supplier respBz (.error e) ::
          r.observed serviceID rpcType ep.supplier false (some e),
        r.afterObserve serviceID rpcType ep.supplier false (some e) s₃,
        .ok (.next (.errorf ("relay: validate from " ++ ep.supplier ++ " failed: ") e))))
  | valid (url : String) (relayReq respBz : Bytes) (result : RelayResult) (s₁ s₂ s₃ : σ)
      (found : ep.url rpcType = some url)
      (signed : r.signer session ep rpcType input s = (.ok relayReq, s₁))
      (sent : r.sender url relayReq rpcType s₁ = (.ok respBz, s₂))
      (validated : r.validator ep.supplier respBz s₂ = (.ok result, s₃))
      (run_eq : run = (.sign session ep rpcType input (.ok relayReq) ::
          .send url relayReq rpcType (.ok respBz) ::
          .validate ep.supplier respBz (.ok result) ::
          r.observed serviceID rpcType ep.supplier true none,
        r.afterObserve serviceID rpcType ep.supplier true none s₃,
        .ok (.finish (.ok result))))

/-- What an attempt of `Relay` can do. -/
theorem relayAttempt_run (serviceID : ServiceID) (rpcType : RPCType) (input : RelayInput)
    (session : Session) (ep : Endpoint) (s : σ) :
    r.RelayAttemptRun serviceID rpcType input session ep s
      (r.relayAttempt serviceID rpcType input session ep s :
        List (Event γ) × σ × Except π (Attempt Err (Except Err RelayResult))) := by
  unfold relayAttempt
  cases hu : ep.url rpcType with
  | none => exact .noURL hu rfl
  | some url =>
    simp only [signRelay, send, validateResponse]
    rcases hs : r.signer session ep rpcType input s with ⟨e | relayReq, s₁⟩
    · rw [Exec.bind_run_ok (Exec.call_run hs _)]
      exact .unsigned url e s₁ hu hs rfl
    · rw [Exec.bind_run_ok (Exec.call_run hs _)]
      simp only
      rcases hd : r.sender url relayReq rpcType s₁ with ⟨e | respBz, s₂⟩
      · rw [Exec.bind_run_ok (Exec.call_run hd _)]
        simp only
        rw [Exec.bind_run_ok (r.observe_run _ _ _ _ _ _)]
        exact .unsent url relayReq e s₁ s₂ hu hs hd (by simp [Exec.pure_run])
      · rw [Exec.bind_run_ok (Exec.call_run hd _)]
        simp only
        rcases hv : r.validator ep.supplier respBz s₂ with ⟨e | result, s₃⟩
        · rw [Exec.bind_run_ok (Exec.call_run hv _)]
          simp only
          rw [Exec.bind_run_ok (r.observe_run _ _ _ _ _ _)]
          exact .invalid url relayReq respBz e s₁ s₂ s₃ hu hs hd hv (by simp [Exec.pure_run])
        · rw [Exec.bind_run_ok (Exec.call_run hv _)]
          simp only
          rw [Exec.bind_run_ok (r.observe_run _ _ _ _ _ _)]
          exact .valid url relayReq respBz result s₁ s₂ s₃ hu hs hd hv (by simp [Exec.pure_run])

end Relayer
end PocketAp.Relay
