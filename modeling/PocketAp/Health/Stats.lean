import PocketAp.Relay.Observers

/-!
# Relay counters

`src/health/health.go:50–98`, and what its counters say after any sequence of relay calls.
Latencies and the time of the last error are left out: they are added up or stored, and no
counter depends on them.
-/

namespace PocketAp.Health

open PocketAp.Base PocketAp.Domain PocketAp.Relay

/-- `src/health/health.go:58–65`. -/
structure ServiceStats where
  attempts : UInt64
  successes : UInt64
  failures : UInt64
  lastErr : String
  deriving DecidableEq, Repr

/-- `src/health/health.go:52–56`. -/
structure Stats where
  byServiceID : ServiceID → Option ServiceStats

/-- `src/health/health.go:67–70`. -/
def newStats : Stats := ⟨fun _ ↦ none⟩

namespace Stats

/-- The counters of a service, zero if it was never observed. `src/health/health.go:81–85,
362–381`. -/
def counters (st : Stats) (id : ServiceID) : ServiceStats :=
  (st.byServiceID id).getD ⟨0, 0, 0, ""⟩

/-- `src/health/health.go:77–98`. -/
def observe (st : Stats) (_supplier : EndpointAddr) (o : Outcome) : Stats :=
  let svc := st.counters o.serviceID
  let svc := { svc with attempts := svc.attempts + 1 }
  let svc :=
    if o.success then { svc with successes := svc.successes + 1 }
    else
      let svc := { svc with failures := svc.failures + 1 }
      match o.err with
      | some e => { svc with lastErr := e.message }
      | none => svc
  ⟨Function.update st.byServiceID o.serviceID (some svc)⟩

/-- An outcome counts for its own service only. -/
theorem counters_observe_of_ne {st : Stats} {supplier : EndpointAddr} {o : Outcome}
    {id : ServiceID} (h : id ≠ o.serviceID) :
    (st.observe supplier o).counters id = st.counters id := by
  simp only [observe, counters, Function.update_of_ne h]

/-- One of the counters goes up by one with the outcomes of its service selected by `p`. -/
def Counts (count : ServiceStats → UInt64) (p : Outcome → Bool) : Prop :=
  ∀ st supplier o, count ((observe st supplier o).counters o.serviceID) =
    count (st.counters o.serviceID) + UInt64.ofNat (if p o then 1 else 0)

/-- Every outcome is an attempt. -/
theorem counts_attempts : Counts ServiceStats.attempts (fun _ ↦ true) := by
  intro st supplier o
  simp only [observe, counters, Function.update_self, Option.getD_some]
  split
  · rfl
  · split <;> rfl

/-- Successes are the outcomes that say so. -/
theorem counts_successes : Counts ServiceStats.successes (fun o ↦ o.success) := by
  intro st supplier o
  simp only [observe, counters, Function.update_self, Option.getD_some]
  split
  · rfl
  · split <;> simp

/-- Every attempt is a success or a failure. -/
def Balanced (st : Stats) : Prop :=
  ∀ id, (st.counters id).attempts = (st.counters id).successes + (st.counters id).failures

private theorem Balanced.observe {st : Stats} (h : st.Balanced) (supplier : EndpointAddr)
    (o : Outcome) : (st.observe supplier o).Balanced := by
  intro id
  by_cases hid : id = o.serviceID
  · subst hid
    have ho := h o.serviceID
    simp only [counters] at ho
    simp only [Stats.observe, counters, Function.update_self, Option.getD_some]
    split
    · simp only [ho]
      rw [UInt64.add_assoc, UInt64.add_comm _ 1, ← UInt64.add_assoc]
    · split <;> simp only [ho, UInt64.add_assoc]
  · rw [counters_observe_of_ne hid]
    exact h id

/-- Outcomes reported one after another. -/
def observeEach (st : Stats) (told : List (EndpointAddr × Outcome)) : Stats :=
  told.foldl (fun st t ↦ st.observe t.1 t.2) st

/-- Any number of outcomes keeps the counters balanced. -/
theorem Balanced.observeEach {st : Stats} (h : st.Balanced)
    (told : List (EndpointAddr × Outcome)) : (st.observeEach told).Balanced := by
  induction told generalizing st with
  | nil => exact h
  | cons t told ih => exact ih (h.observe t.1 t.2)

/-- A counter grows by the outcomes it counts. -/
theorem Counts.observeEach {count : ServiceStats → UInt64} {p : Outcome → Bool}
    (h : Counts count p) (st : Stats) (told : List (EndpointAddr × Outcome)) (id : ServiceID) :
    count ((st.observeEach told).counters id) = count (st.counters id) +
      UInt64.ofNat (told.countP (fun t ↦ decide (t.2.serviceID = id) && p t.2)) := by
  induction told generalizing st with
  | nil => simp [Stats.observeEach]
  | cons t told ih =>
    change count (((st.observe t.1 t.2).observeEach told).counters id) = _
    rw [ih, List.countP_cons, Nat.add_comm (List.countP _ _), UInt64.ofNat_add, ← UInt64.add_assoc]
    congr 1
    by_cases hid : t.2.serviceID = id
    · subst hid
      simp only [decide_true, Bool.true_and]
      exact h st t.1 t.2
    · rw [counters_observe_of_ne (Ne.symm hid)]
      simp [hid]

end Stats

/-! ### Relayers that are watched -/

/-- Someone who watches: the counters, or an observer with a world of its own. -/
inductive Watcher (τ : Type) where
  | stats
  | other (observer : Observer τ)

namespace Watcher

variable {τ : Type}

/-- What an observer does with an outcome. -/
def observe : Watcher τ → Observer (Stats × τ)
  | stats => fun supplier outcome s ↦ (s.1.observe supplier outcome, s.2)
  | other observer => fun supplier outcome s ↦ (s.1, observer supplier outcome s.2)

/-- The observer is the counters. -/
def isStats : Watcher τ → Bool
  | stats => true
  | other _ => false

/-- Telling everyone tells the counters as often as they are attached. -/
theorem observeAll_fst (watchers : List (Watcher τ)) (supplier : EndpointAddr) (outcome : Outcome)
    (s : Stats × τ) :
    (observeAll (watchers.map observe) supplier outcome s).1 =
      s.1.observeEach (List.replicate (watchers.countP isStats) (supplier, outcome)) := by
  induction watchers generalizing s with
  | nil => rfl
  | cons w ws ih =>
    change (observeAll (ws.map observe) supplier outcome (w.observe supplier outcome s)).1 = _
    rw [ih]
    cases w with
    | stats =>
      rw [List.countP_cons_of_pos rfl, List.replicate_succ]
      rfl
    | other observer => rfl

end Watcher

section Watching

variable {τ : Type} (r : Relayer τ) (n : Nesting (Watcher τ))

/-- The relayer whose selector is wrapped as `n` says; its seams know nothing of the counters. -/
def watching : Relayer (Stats × τ) :=
  { liftRelayer Stats r with
    selector := n.selector (liftRelayer Stats r).selector.select Watcher.observe }

/-- What the counters are told by a call. -/
def told {γ : Type} : Event γ → List (EndpointAddr × Outcome)
  | .observe supplier outcome =>
    List.replicate (n.attached.countP Watcher.isStats) (supplier, outcome)
  | _ => []

private theorem watching_tracks {γ : Type} :
    (watching r n).Tracks Prod.fst (fun st (ev : Event γ) ↦ st.observeEach (told n ev)) where
  seams v := by
    constructor
    · exact fun _ _ h ↦ h
    · exact fun _ _ _ _ _ h ↦ h
    · exact fun _ _ _ h ↦ h
    · intro ctx serviceID endpoints rpcType s h
      simp only [watching, Nesting.selector_select]
      exact h
    · intro f hf
      cases hf
    · exact fun _ _ _ _ h ↦ h
    · intro f hf url relayReq rpcType s h
      obtain ⟨g, -, rfl⟩ := Option.map_eq_some_iff.mp hf
      exact h
  observe f hf supplier outcome s := by
    rw [(n.selector_feeds _ _).tells f hf]
    exact Watcher.observeAll_fst n.attached supplier outcome s
  other v ev hev := by
    cases ev with
    | observe supplier outcome => cases hev
    | _ => rfl

private theorem watching_isSome :
    (watching r n).selector.observer.isSome = !n.attached.isEmpty := by
  have h := (n.selector_feeds (liftRelayer Stats r).selector.select Watcher.observe).isSome_iff
  cases ha : n.attached with
  | nil => simpa [ha, watching] using h
  | cons w ws => simpa [ha, watching] using h

end Watching

/-! ### Sequences of calls -/

/-- A call of `Relay` or of `RelayStream`. -/
inductive Call (π τ γ : Type) where
  | relay (ctx : Context) (serviceID : ServiceID) (rpcType : RPCType) (input : RelayInput)
  | relayStream (ctx : Context) (serviceID : ServiceID) (rpcType : RPCType) (input : RelayInput)
      (onBatch : RelayResult → Exec π τ γ (Except Err Unit))

/-- What a call did, and whether it returned a nil error. -/
structure Report (γ : Type) where
  serviceID : ServiceID
  rpcType : RPCType
  events : List (Event γ)
  returnedNil : Bool

section Runs

variable {π τ γ : Type} [GoLib]

/-- The report of a run that did not panic. -/
def report {α : Type} (serviceID : ServiceID) (rpcType : RPCType) :
    List (Event γ) × (Stats × τ) × Except π (Except Err α) → Option (Report γ × Stats × τ)
  | (es, s, .ok result) => some (⟨serviceID, rpcType, es, result.isOk⟩, s)
  | (_, _, .error _) => none

/-- One call; none if it panicked. -/
def runCall (r : Relayer (Stats × τ)) (s : Stats × τ) :
    Call π τ γ → Option (Report γ × Stats × τ)
  | .relay ctx serviceID rpcType input =>
    report serviceID rpcType
      ((r.relay ctx serviceID rpcType input : Exec π (Stats × τ) (Event γ) _) s)
  | .relayStream ctx serviceID rpcType input onBatch =>
    report serviceID rpcType
      (r.relayStream ctx serviceID rpcType input (fun result ↦ Exec.lift (onBatch result)) s)

/-- Calls one after another; none if one of them panicked. -/
def runCalls (r : Relayer (Stats × τ)) :
    List (Call π τ γ) → Stats × τ → Option (List (Report γ) × Stats × τ)
  | [], s => some ([], s)
  | c :: cs, s =>
    match runCall r s c with
    | none => none
    | some (rep, s') => (runCalls r cs s').map (fun rest ↦ (rep :: rest.1, rest.2))

end Runs

/-- Sends made for a service. -/
def sends {γ : Type} (id : ServiceID) : List (Report γ) → Nat
  | [] => 0
  | rep :: reports =>
    (if rep.serviceID = id then rep.events.countP Event.isSend else 0) + sends id reports

/-- Calls for a service that returned a nil error. -/
def nilReturns {γ : Type} (id : ServiceID) (reports : List (Report γ)) : Nat :=
  reports.countP (fun rep ↦ decide (rep.serviceID = id) && rep.returnedNil)

/-! ### What a call tells the counters -/

section Contacts

variable {τ γ : Type} {n : Nesting (Watcher τ)} {serviceID : ServiceID} {rpcType : RPCType}
  {es : List (Event γ)} {returnedNil : Bool} {contacts : List (Contact γ)}

private theorem countP_isSend
    (h : Accounts (!n.attached.isEmpty) serviceID rpcType es returnedNil contacts) :
    es.countP Event.isSend = contacts.length := by
  have hfilter : es.countP Event.isSend =
      (es.filter (fun ev ↦ ev.isSend || ev.isObserve)).countP Event.isSend := by
    rw [List.countP_filter]
    congr 1
    funext ev
    cases ev.isSend <;> rfl
  have hone : contacts.map (List.countP Event.isSend ∘ fun c ↦ c.send ::
      if !n.attached.isEmpty then [Event.observe c.endpoint.supplier c.outcome] else []) =
        contacts.map (fun _ ↦ 1) := by
    apply List.map_congr_left
    intro c hc
    have hgoes := (h.contact c hc).1
    rw [Function.comp_apply]
    cases hs : c.send with
    | send => split <;> rfl
    | sendStream => split <;> rfl
    | _ => simp [hs, Event.GoesTo] at hgoes
  rw [hfilter, h.record, List.countP_flatMap, hone]
  simp

/-- The counters are told of every contact as often as they are attached. -/
theorem flatMap_told
    (h : Accounts (!n.attached.isEmpty) serviceID rpcType es returnedNil contacts) :
    es.flatMap (told n) = contacts.flatMap (fun c ↦
      List.replicate (n.attached.countP Watcher.isStats) (c.endpoint.supplier, c.outcome)) := by
  have hfilter (es : List (Event γ)) : es.flatMap (told n) =
      (es.filter (fun ev ↦ ev.isSend || ev.isObserve)).flatMap (told n) := by
    induction es with
    | nil => rfl
    | cons ev es ih =>
      cases ev with
      | observe => simp [Event.isSend, Event.isObserve, ih]
      | _ => simp [told, Event.isSend, Event.isObserve, ih]
  rw [hfilter, h.record, List.flatMap_assoc]
  apply List.flatMap_congr
  intro c hc
  have hgoes := (h.contact c hc).1
  have hsend : told n c.send = [] := by
    cases hs : c.send with
    | observe => simp [hs, Event.GoesTo] at hgoes
    | _ => rfl
  rw [List.flatMap_cons, hsend]
  cases ha : n.attached with
  | nil => simp
  | cons w ws => simp [told, ha]

private theorem countP_flatMap_replicate {α β : Type} (k : Nat) (f : α → β) (p : β → Bool)
    (as : List α) :
    (as.flatMap (fun a ↦ List.replicate k (f a))).countP p = k * as.countP (fun a ↦ p (f a)) := by
  induction as with
  | nil => rfl
  | cons a as ih =>
    rw [List.flatMap_cons, List.countP_append, ih, List.countP_replicate, List.countP_cons,
      Nat.mul_add, Nat.add_comm]
    split <;> simp

/-- A call is counted for its own service only. -/
theorem countP_told
    (h : Accounts (!n.attached.isEmpty) serviceID rpcType es returnedNil contacts)
    (p : Outcome → Bool) (id : ServiceID) :
    (es.flatMap (told n)).countP (fun t ↦ decide (t.2.serviceID = id) && p t.2) =
      n.attached.countP Watcher.isStats *
        if serviceID = id then contacts.countP (fun c ↦ p c.outcome) else 0 := by
  rw [flatMap_told h, countP_flatMap_replicate]
  congr 1
  split
  · next hid =>
    apply List.countP_congr
    intro c hc
    simp [(h.contact c hc).2.1, hid]
  · next hid =>
    rw [List.countP_eq_zero]
    intro c hc
    simp [(h.contact c hc).2.1, hid]

end Contacts

section Totals

variable {π τ γ : Type} [GoLib] {r : Relayer τ} {n : Nesting (Watcher τ)}

/-- What one call's record accounts for, and what the counters make of it. -/
theorem runCall_accounts {c : Call π τ γ} {s s' : Stats × τ} {rep : Report γ}
    (h : runCall (watching r n) s c = some (rep, s')) :
    (∃ contacts, Accounts (!n.attached.isEmpty) rep.serviceID rep.rpcType rep.events
      rep.returnedNil contacts) ∧ s'.1 = s.1.observeEach (rep.events.flatMap (told n)) := by
  rw [← watching_isSome r n, Stats.observeEach, List.foldl_flatMap]
  cases c with
  | relay ctx serviceID rpcType input =>
    have hfollows := @Relayer.Tracks.follows_relay π _ _ γ _ _ _ (watching_tracks r n) ctx
      serviceID rpcType input s
    rcases hrun : ((watching r n).relay ctx serviceID rpcType input :
      Exec π (Stats × τ) (Event γ) _) s with ⟨es, s₁, p | result⟩
    · simp [runCall, hrun, report] at h
    · rw [runCall, hrun] at h
      cases h
      rw [hrun] at hfollows
      exact ⟨Relayer.relay_accounts hrun, hfollows⟩
  | relayStream ctx serviceID rpcType input onBatch =>
    have hlift (result : RelayResult) (s : Stats × τ) :
        (Exec.after (Exec.lift (onBatch result)) s).1 = s.1 := rfl
    have hfollows := (watching_tracks r n).follows_relayStream ctx serviceID rpcType input hlift s
    rcases hrun : (watching r n).relayStream ctx serviceID rpcType input
      (fun result ↦ Exec.lift (onBatch result)) s with ⟨es, s₁, p | result⟩
    · simp [runCall, hrun, report] at h
    · rw [runCall, hrun] at h
      cases h
      rw [hrun] at hfollows
      exact ⟨Relayer.relayStream_accounts hrun, hfollows⟩

private theorem runCalls_cons {c : Call π τ γ} {cs : List (Call π τ γ)} {s s' : Stats × τ}
    {reports : List (Report γ)} (h : runCalls (watching r n) (c :: cs) s = some (reports, s')) :
    ∃ rep s₁ rest, runCall (watching r n) s c = some (rep, s₁) ∧
      runCalls (watching r n) cs s₁ = some (rest, s') ∧ reports = rep :: rest := by
  rw [runCalls] at h
  rcases hc : runCall (watching r n) s c with _ | ⟨rep, s₁⟩
  · simp [hc] at h
  · rw [hc] at h
    obtain ⟨⟨rest, s₂⟩, hrest, heq⟩ := Option.map_eq_some_iff.mp h
    cases heq
    exact ⟨rep, s₁, rest, rfl, hrest, rfl⟩

private theorem runCalls_accounts {calls : List (Call π τ γ)} {s s' : Stats × τ}
    {reports : List (Report γ)} (h : runCalls (watching r n) calls s = some (reports, s')) :
    ∀ rep ∈ reports, ∃ contacts, Accounts (!n.attached.isEmpty) rep.serviceID rep.rpcType
      rep.events rep.returnedNil contacts := by
  induction calls generalizing s reports with
  | nil =>
    cases h
    simp
  | cons c cs ih =>
    obtain ⟨rep, s₁, rest, hc, hrest, rfl⟩ := runCalls_cons h
    exact List.forall_mem_cons.mpr ⟨(runCall_accounts hc).1, ih hrest⟩

private theorem runCalls_balanced {calls : List (Call π τ γ)} {s s' : Stats × τ}
    {reports : List (Report γ)} (h : runCalls (watching r n) calls s = some (reports, s'))
    (hs : s.1.Balanced) : s'.1.Balanced := by
  induction calls generalizing s reports with
  | nil =>
    cases h
    exact hs
  | cons c cs ih =>
    obtain ⟨rep, s₁, rest, hc, hrest, -⟩ := runCalls_cons h
    apply ih hrest
    rw [(runCall_accounts hc).2]
    exact hs.observeEach _

/-- A counter goes up by the contacts it counts in the calls for its service. -/
theorem runCalls_counts {count : ServiceStats → UInt64} {p : Outcome → Bool}
    (hcount : Stats.Counts count p) (total : List (Report γ) → Nat) (id : ServiceID)
    (hnil : total [] = 0)
    (hcons : ∀ rep reports contacts, Accounts (!n.attached.isEmpty) rep.serviceID rep.rpcType
      rep.events rep.returnedNil contacts → total (rep :: reports) =
        (if rep.serviceID = id then contacts.countP (fun c ↦ p c.outcome) else 0) + total reports)
    {calls : List (Call π τ γ)} {s s' : Stats × τ} {reports : List (Report γ)}
    (h : runCalls (watching r n) calls s = some (reports, s')) :
    count (s'.1.counters id) = count (s.1.counters id) +
      UInt64.ofNat (n.attached.countP Watcher.isStats * total reports) := by
  induction calls generalizing s reports with
  | nil =>
    cases h
    simp [hnil]
  | cons c cs ih =>
    obtain ⟨rep, s₁, rest, hc, hrest, rfl⟩ := runCalls_cons h
    obtain ⟨⟨contacts, hcontacts⟩, hs₁⟩ := runCall_accounts hc
    rw [ih hrest, hs₁, hcount.observeEach, countP_told hcontacts, hcons rep rest contacts hcontacts,
      Nat.mul_add, UInt64.ofNat_add, UInt64.add_assoc]

/-- For every way to wrap a selector and every sequence of calls that do not panic: selection is
that of the innermost selector; observing tells everyone attached once, in order; every send is
reported once, right after it and in order, and nothing else is; and the counters of a service
are the sends made for it and the calls that returned nil, as often as the counters are
attached. -/
theorem attempts_counted_once (r : Relayer τ) (n : Nesting (Watcher τ))
    (calls : List (Call π τ γ)) (s : τ) (reports : List (Report γ)) (s' : Stats × τ)
    (hrun : runCalls (watching r n) calls (newStats, s) = some (reports, s')) :
    (watching r n).selector.select = (liftRelayer Stats r).selector.select ∧
    (watching r n).selector.Feeds (n.attached.map Watcher.observe) ∧
    (∀ rep ∈ reports, ∃ contacts, Accounts (!n.attached.isEmpty) rep.serviceID rep.rpcType
      rep.events rep.returnedNil contacts) ∧
    ∀ id,
      (s'.1.counters id).attempts =
        UInt64.ofNat (n.attached.countP Watcher.isStats * sends id reports) ∧
      (s'.1.counters id).successes =
        UInt64.ofNat (n.attached.countP Watcher.isStats * nilReturns id reports) ∧
      (s'.1.counters id).attempts = (s'.1.counters id).successes + (s'.1.counters id).failures := by
  refine ⟨n.selector_select _ _, n.selector_feeds _ _, runCalls_accounts hrun, ?_⟩
  intro id
  refine ⟨?_, ?_, ?_⟩
  · rw [runCalls_counts Stats.counts_attempts (sends id) id rfl ?_ hrun]
    · exact UInt64.zero_add _
    · intro rep rest contacts hcontacts
      rw [sends, countP_isSend hcontacts]
      simp
  · rw [runCalls_counts Stats.counts_successes (nilReturns id) id rfl ?_ hrun]
    · exact UInt64.zero_add _
    · intro rep rest contacts hcontacts
      rw [nilReturns, List.countP_cons, hcontacts.successes, Nat.add_comm]
      congr 1
      by_cases hid : rep.serviceID = id
      · simp [hid]
      · simp [hid]
  · exact runCalls_balanced hrun (fun _ ↦ rfl) id

end Totals

/-- A selector wrapped twice, with the counters in between. -/
def twice : Nesting (Watcher Unit) :=
  .wrapped (.wrapped (.innermost none) [.stats]) [.other (fun _ _ s ↦ s)]

/-- Two suppliers, the first of which cannot be reached. -/
def firstDown : Relayer Unit :=
  Relayer.scripted [⟨"pokt1a", fun _ ↦ some "https://a.example"⟩,
      ⟨"pokt1b", fun _ ↦ some "https://b.example"⟩]
    (fun url ↦ if url = "https://a.example" then .error (.text "connection refused")
      else .ok ⟨.final [1] .eof, [], 200⟩)

/-- Two calls whose first supplier is down make four attempts. -/
theorem attempts_counted_once_twice :
    let _ : GoLib := GoLib.plain
    let calls : List (Call Empty Unit Empty) :=
      [.relay {} "eth" .jsonRPC ⟨"POST", "/", [], []⟩,
        .relayStream {} "eth" .jsonRPC ⟨"POST", "/", [], []⟩ (fun _ ↦ pure (.ok ()))]
    ∃ reports s', runCalls (watching firstDown twice) calls (newStats, ()) = some (reports, s') ∧
      (s'.1.counters "eth").attempts =
        UInt64.ofNat (twice.attached.countP Watcher.isStats * sends "eth" reports) ∧
      (s'.1.counters "eth").attempts = 4 ∧ (s'.1.counters "eth").successes = 2 := by
  intro _ calls
  refine ⟨_, _, rfl, ?_⟩
  exact ⟨((attempts_counted_once firstDown twice calls () _ _ rfl).2.2.2 "eth").1, by decide +kernel,
    by decide +kernel⟩

end PocketAp.Health
