import PocketAp.Relay.Attempts

/-!
# Observers

`src/relay/relay.go:91–136`. A relayer takes its observer from its selector alone, by a type
assertion; `WithObservers` wraps a selector so that several can watch. `Nesting` is a selector
wrapped any number of times, and `Tracks` is what a variable that only observers change has in
common with the record of a run.
-/

namespace PocketAp.Relay

open PocketAp.Base PocketAp.Domain

/-- `src/relay/relay.go:91–102`. -/
abbrev Observer (σ : Type) := EndpointAddr → Outcome → σ → σ

/-- `src/relay/relay.go:111–115`. -/
def observeAll {σ : Type} (observers : List (Observer σ)) : Observer σ :=
  fun supplier outcome s ↦ observers.foldl (fun s ob ↦ ob supplier outcome s) s

/-- `src/relay/relay.go:127–136`. -/
def withObservers {σ : Type} (sel : Selector σ) (observers : List (Observer σ)) : Selector σ :=
  if observers.isEmpty then sel
  else
    -- A selector that observes in its own right keeps its feed, before the others.
    { select := sel.select
      observer := some (observeAll (sel.observer.toList ++ observers)) }

/-- Observing through the selector tells each of these observers once, in order. -/
structure Selector.Feeds {σ : Type} (sel : Selector σ) (observers : List (Observer σ)) : Prop where
  isSome_iff : sel.observer.isSome = true ↔ observers ≠ []
  tells : ∀ f, sel.observer = some f → ∀ supplier outcome s,
    f supplier outcome s = observeAll observers supplier outcome s

private theorem Selector.Feeds.withObservers {σ : Type} {sel : Selector σ}
    {observers₀ : List (Observer σ)} (h : sel.Feeds observers₀) (observers : List (Observer σ)) :
    (withObservers sel observers).Feeds (observers₀ ++ observers) := by
  unfold Relay.withObservers
  cases observers with
  | nil => simpa using h
  | cons ob obs =>
    refine ⟨by simp, ?_⟩
    intro f hf supplier outcome s
    cases hf
    simp only [observeAll, List.foldl_append]
    congr 1
    cases ho : sel.observer with
    | none =>
      have hnil : observers₀ = [] := by
        by_contra hne
        have := h.isSome_iff.mpr hne
        simp [ho] at this
      rw [hnil]
      rfl
    | some f => exact h.tells f ho supplier outcome s

/-- How a selector is wrapped by `WithObservers` again and again; its observers are named in
`ο`, and the innermost selector may be one itself. -/
inductive Nesting (ο : Type) where
  | innermost (own : Option ο)
  | wrapped (inner : Nesting ο) (observers : List ο)

namespace Nesting

variable {ο σ : Type}
  (select : Context → ServiceID → List Endpoint → RPCType → Seam σ (Except Err (List Endpoint)))
  (act : ο → Observer σ)

/-- The selector the code builds from an innermost one that selects by `select`. -/
def selector : Nesting ο → Selector σ
  | innermost own => ⟨select, own.map act⟩
  | wrapped inner observers => withObservers inner.selector (observers.map act)

/-- Everyone attached, in the order they are told. -/
def attached : Nesting ο → List ο
  | innermost own => own.toList
  | wrapped inner observers => inner.attached ++ observers

/-- Observers do not change what is selected. -/
theorem selector_select (n : Nesting ο) : (n.selector select act).select = select := by
  induction n with
  | innermost own => rfl
  | wrapped inner observers ih =>
    rw [selector, withObservers]
    split
    · exact ih
    · exact ih

/-- A nested selector feeds every observer that was attached, in order. -/
theorem selector_feeds (n : Nesting ο) :
    (n.selector select act).Feeds (n.attached.map act) := by
  induction n with
  | innermost own =>
    cases own with
    | none => exact ⟨by simp [selector, attached], by simp [selector]⟩
    | some o =>
      refine ⟨by simp [selector, attached], ?_⟩
      intro f hf supplier outcome s
      cases hf
      rfl
  | wrapped inner observers ih =>
    rw [attached, List.map_append]
    exact ih.withObservers (observers.map act)

end Nesting

/-! ### Sends and reports of a call -/

/-- A send to an endpoint's URL. -/
def Event.GoesTo {γ : Type} (ep : Endpoint) (rpcType : RPCType) : Event γ → Prop
  | .send url _ t _ => ep.url rpcType = some url ∧ t = rpcType
  | .sendStream url _ t _ => ep.url rpcType = some url ∧ t = rpcType
  | _ => False

/-- One attempt that reached the network. -/
structure Contact (γ : Type) where
  send : Event γ
  endpoint : Endpoint
  outcome : Outcome

/-- The contacts account for all sends and reports of a call, in order: each is sent to once and,
if anyone is watching, reported once right after; one of them is a success exactly if the call
returned nil. -/
structure Accounts {γ : Type} (watched : Bool) (serviceID : ServiceID) (rpcType : RPCType)
    (es : List (Event γ)) (returnedNil : Bool) (contacts : List (Contact γ)) : Prop where
  record : es.filter (fun ev ↦ ev.isSend || ev.isObserve) = contacts.flatMap (fun c ↦
    c.send :: if watched then [.observe c.endpoint.supplier c.outcome] else [])
  contact : ∀ c ∈ contacts, c.send.GoesTo c.endpoint rpcType ∧ c.outcome.serviceID = serviceID ∧
    c.outcome.rpcType = rpcType
  successes : contacts.countP (fun c ↦ c.outcome.success) = if returnedNil then 1 else 0

namespace Accounts

variable {γ : Type} {watched : Bool} {serviceID : ServiceID} {rpcType : RPCType}

private theorem nil : Accounts watched serviceID rpcType ([] : List (Event γ)) false [] :=
  ⟨rfl, by simp, rfl⟩

private theorem append {es₁ es₂ : List (Event γ)} {returnedNil : Bool} {cs₁ cs₂ : List (Contact γ)}
    (h₁ : Accounts watched serviceID rpcType es₁ false cs₁)
    (h₂ : Accounts watched serviceID rpcType es₂ returnedNil cs₂) :
    Accounts watched serviceID rpcType (es₁ ++ es₂) returnedNil (cs₁ ++ cs₂) where
  record := by rw [List.filter_append, List.flatMap_append, h₁.record, h₂.record]
  contact := List.forall_mem_append.mpr ⟨h₁.contact, h₂.contact⟩
  successes := by simp [List.countP_append, h₁.successes, h₂.successes]

/-- Reads do not matter. -/
theorem of_filter {es : List (Event γ)} {returnedNil : Bool} {cs : List (Contact γ)}
    (h : Accounts watched serviceID rpcType (es.filter (fun ev ↦ !ev.isRead)) returnedNil cs) :
    Accounts watched serviceID rpcType es returnedNil cs where
  record := by
    rw [← h.record, List.filter_filter]
    congr 1
    funext ev
    cases ev <;> rfl
  contact := h.contact
  successes := h.successes

end Accounts

namespace Relayer

section Accounts

variable {π σ γ ρ : Type} {r : Relayer σ} {serviceID : ServiceID} {rpcType : RPCType}
  {input : RelayInput}

/-- The attempt made the whole call succeed. -/
def succeeded : Attempt Err (Except Err ρ) → Bool
  | .finish (.ok _) => true
  | _ => false

private theorem Reported.accounts {session : Session} {ep : Endpoint}
    {blame : Err → List (Event γ) → Prop} {es : List (Event γ)} {s' : σ}
    {a : Attempt Err (Except Err ρ)}
    (h : r.Reported serviceID rpcType input session ep blame
      ((es, s', .ok a) : List (Event γ) × σ × Except π (Attempt Err (Except Err ρ))))
    (hcalls : ∀ ev ∈ es, r.OfAttempt serviceID rpcType input session ep ev) :
    ∃ cs, Accounts r.selector.observer.isSome serviceID rpcType es (succeeded a) cs := by
  cases h with
  | silent a' quiet returned unsuccessful =>
    cases returned
    have hfilter : es.filter (fun ev ↦ ev.isSend || ev.isObserve) = [] := by
      rw [List.filter_eq_nil_iff]
      intro ev hev
      have hsign := quiet ev hev
      cases ev with
      | sign => simp [Event.isSend, Event.isObserve]
      | _ => cases hsign
    have ha : succeeded a = false := by
      rcases a with e | (e | x)
      · rfl
      · rfl
      · exact absurd rfl (unsuccessful x)
    exact ⟨[], by rw [hfilter]; rfl, by simp, by rw [ha]; rfl⟩
  | told a' relayReq call inner success err sends between events returned succ blamed =>
    cases returned
    cases events
    have hsend : call.GoesTo ep rpcType := by
      have hc := hcalls call (by simp)
      cases call with
      | send => exact hc
      | sendStream => exact hc
      | _ => cases sends
    have hinner : inner.filter (fun ev ↦ ev.isSend || ev.isObserve) = [] := by
      rw [List.filter_eq_nil_iff]
      intro ev hev
      have hi := between ev hev
      simp only [Event.isInner, Bool.not_eq_true', Bool.or_eq_false_iff] at hi
      simp [hi.1.2, hi.2]
    have ha : succeeded a = success := by
      rcases a with e | (e | x)
      · simpa [succeeded] using succ
      · simpa [succeeded] using succ
      · simpa [succeeded] using succ
    refine ⟨[⟨call, ep, ⟨serviceID, rpcType, success, err⟩⟩], ?_, ?_, ?_⟩
    · rw [List.filter_cons_of_neg (by simp [Event.isSend, Event.isObserve]),
        List.filter_cons_of_pos (by simp [sends]), List.filter_append, hinner]
      unfold observed
      cases r.selector.observer <;> simp [Event.isSend, Event.isObserve]
    · simpa using hsend
    · rw [ha]
      cases success <;> rfl
  | cut p untold panicked => cases panicked

private theorem Skips.accounts {session : Session}
    {attempt : Endpoint → Exec π σ (Event γ) (Attempt Err (Except Err ρ))}
    {blame : Endpoint → Err → List (Event γ) → Prop}
    (hrep : ∀ ep s, r.Reported serviceID rpcType input session ep (blame ep) (attempt ep s))
    (hcalls : ∀ ep s, ∀ ev ∈ (attempt ep s).1, r.OfAttempt serviceID rpcType input session ep ev)
    {s s' : σ} {last last' : Option Err} {eps : List Endpoint} {es : List (Event γ)}
    (h : Skips attempt s last eps es s' last') :
    ∃ cs, Accounts r.selector.observer.isSome serviceID rpcType es false cs := by
  induction h with
  | nil => exact ⟨[], .nil⟩
  | @cons s s₁ s₂ last last' ep eps es es' e head tail ih =>
    have hr := hrep ep s
    have hc := hcalls ep s
    rw [head] at hr hc
    obtain ⟨cs, hcs⟩ := hr.accounts hc
    obtain ⟨cs', hcs'⟩ := ih
    exact ⟨cs ++ cs', hcs.append hcs'⟩

/-- Every call that returns can be accounted for. -/
theorem accounts_withFailover {ctx : Context}
    {attempt : Session → Endpoint → Exec π σ (Event γ) (Attempt Err (Except Err ρ))}
    {blame : Endpoint → Err → List (Event γ) → Prop}
    (hrep : ∀ session ep s,
      r.Reported serviceID rpcType input session ep (blame ep) (attempt session ep s))
    (hcalls : ∀ session ep s, ∀ ev ∈ (attempt session ep s).1,
      r.OfAttempt serviceID rpcType input session ep ev)
    {s s' : σ} {es : List (Event γ)} {result : Except Err ρ}
    (hrun : r.withFailover ctx serviceID rpcType attempt s = (es, s', .ok result)) :
    ∃ cs, Accounts r.selector.observer.isSome serviceID rpcType es result.isOk cs := by
  cases r.withFailover_run ctx serviceID rpcType attempt s with
  | unavailable e s₁ kept run_eq =>
    rw [hrun] at run_eq
    cases run_eq
    exact ⟨[], .nil⟩
  | tried session ordered s₁ s₂ tries fetched selected ne_nil tries_eq run_eq =>
    rw [hrun] at run_eq
    have hskips {before : List Endpoint} {es₁ : List (Event γ)} {s₃ : σ} {last : Option Err}
        (h : Skips (attempt session) s₂ none before es₁ s₃ last) :=
      Skips.accounts (hrep session) (hcalls session) h
    cases tryEach_tried (attempt session) s₂ none
        (ordered.take (attemptCap r.maxAttempts ordered.length)) with
    | exhausted es₁ s₃ last skips tried_eq =>
      rw [tries_eq, tried_eq] at run_eq
      cases run_eq
      exact hskips skips
    | finished before after ep es₁ es₂ s₃ s₄ last out split skips final tried_eq =>
      rw [tries_eq, tried_eq] at run_eq
      cases run_eq
      have hr := hrep session ep s₃
      have hc := hcalls session ep s₃
      rw [final] at hr hc
      obtain ⟨cs, hcs⟩ := hskips skips
      obtain ⟨cs', hcs'⟩ := hr.accounts hc
      have hout : succeeded (.finish out) = out.isOk := by cases out <;> rfl
      rw [hout] at hcs'
      exact ⟨cs ++ cs', hcs.append hcs'⟩
    | panicked before after ep es₁ es₂ s₃ s₄ last p split skips final tried_eq =>
      rw [tries_eq, tried_eq] at run_eq
      cases run_eq

/-- The record of a `Relay` that returned accounts for its contacts. -/
theorem relay_accounts [GoLib] {ctx : Context} {s s' : σ} {es : List (Event γ)}
    {result : Except Err RelayResult}
    (hrun : (r.relay ctx serviceID rpcType input : Exec π σ (Event γ) _) s =
      (es, s', .ok result)) :
    ∃ cs, Accounts r.selector.observer.isSome serviceID rpcType es result.isOk cs :=
  accounts_withFailover (fun _ _ s ↦ relayAttempt_reported s) (fun _ _ s ↦ relayAttempt_calls s)
    hrun

/-- The record of a `RelayStream` that returned accounts for its contacts. -/
theorem relayStream_accounts [GoLib] {ctx : Context}
    {onBatch : RelayResult → Exec π σ γ (Except Err Unit)} {s s' : σ} {es : List (Event γ)}
    {result : Except Err Unit}
    (hrun : r.relayStream ctx serviceID rpcType input onBatch s = (es, s', .ok result)) :
    ∃ cs, Accounts r.selector.observer.isSome serviceID rpcType es result.isOk cs := by
  unfold relayStream at hrun
  cases hs : r.streamSender with
  | none =>
    rw [hs] at hrun
    cases hrun
    exact ⟨[], .nil⟩
  | some sendStream =>
    rw [hs] at hrun
    have hfailover : r.withFailover ctx serviceID rpcType
        (r.streamAttempt sendStream serviceID rpcType input onBatch) s = (es, s', .ok result) := hrun
    have hhide := congrFun (r.hide_withFailover Event.isRead ctx serviceID rpcType
      (r.streamAttempt sendStream serviceID rpcType input onBatch)) s
    rw [Exec.hide, hfailover] at hhide
    obtain ⟨cs, hcs⟩ := accounts_withFailover
      (fun session ep s ↦ (r.streamAttempt_run serviceID rpcType sendStream input onBatch session
        ep s).reported)
      (fun session ep s ↦ (r.streamAttempt_run serviceID rpcType sendStream input onBatch session
        ep s).calls) hhide.symm
    exact ⟨cs, hcs.of_filter⟩

end Accounts

/-! ### Variables of observers -/

section Tracks

variable {π σ τ γ ρ : Type}

/-- No seam changes what `get` sees of the world, and observing changes it as `step` says. -/
structure Tracks (r : Relayer σ) (get : σ → τ) (step : τ → Event γ → τ) : Prop where
  seams : ∀ v, ({ r with selector := ⟨r.selector.select, none⟩ } : Relayer σ).Keeps
    (fun s ↦ get s = v)
  observe : ∀ f, r.selector.observer = some f → ∀ supplier outcome s,
    get (f supplier outcome s) = step (get s) (.observe supplier outcome)
  other : ∀ v ev, ev.isObserve = false → step v ev = v

variable {r : Relayer σ} {get : σ → τ} {step : τ → Event γ → τ}

private theorem Tracks.follows_observe (h : r.Tracks get step) (serviceID : ServiceID)
    (rpcType : RPCType) (supplier : EndpointAddr) (success : Bool) (err : Option Err) :
    Exec.Follows get step
      (r.observe serviceID rpcType supplier success err : Exec π σ (Event γ) Unit) := by
  unfold Relayer.observe
  cases ho : r.selector.observer with
  | none => exact Exec.follows_pure _
  | some f => exact Exec.follows_call (h.observe f ho supplier _)

private theorem Tracks.follows_call (h : r.Tracks get step) {α : Type} {f : Seam σ α}
    {record : α → Event γ} (hrecord : ∀ a, (record a).isObserve = false)
    (hf : ∀ s, get (f s).2 = get s) :
    Exec.Follows get step (Exec.call f record : Exec π σ (Event γ) α) := by
  apply Exec.follows_call
  intro s
  rw [h.other _ _ (hrecord _)]
  exact hf s

private theorem Tracks.follows_signRelay (h : r.Tracks get step) (session : Session) (ep : Endpoint)
    (rpcType : RPCType) (input : RelayInput) :
    Exec.Follows get step
      (r.signRelay session ep rpcType input : Exec π σ (Event γ) (Except Err Bytes)) :=
  h.follows_call (fun _ ↦ rfl) (fun s ↦ (h.seams (get s)).signer session ep rpcType input s rfl)

private theorem Tracks.follows_validate (h : r.Tracks get step) (supplier : EndpointAddr)
    (batch : Bytes) :
    Exec.Follows get step (Exec.call (r.validator supplier batch) (.validate supplier batch) :
      Exec π σ (Event γ) (Except Err RelayResult)) :=
  h.follows_call (fun _ ↦ rfl) (fun s ↦ (h.seams (get s)).validator supplier batch s rfl)

private theorem Tracks.follows_withFailover (h : r.Tracks get step) (ctx : Context)
    (serviceID : ServiceID) (rpcType : RPCType)
    {attempt : Session → Endpoint → Exec π σ (Event γ) (Attempt Err (Except Err ρ))}
    (hattempt : ∀ session ep, Exec.Follows get step (attempt session ep)) :
    Exec.Follows get step (r.withFailover ctx serviceID rpcType attempt) := by
  have hsessions : Exec.Follows get step
      (Exec.act (r.sessions serviceID) : Exec π σ (Event γ) (Except Err Session)) :=
    Exec.follows_act (fun s ↦ (h.seams (get s)).sessions serviceID s rfl)
  apply hsessions.bind
  intro fetched
  cases fetched with
  | error e => exact Exec.follows_pure _
  | ok session =>
    apply (Exec.follows_act (fun s ↦
      (h.seams (get s)).select ctx serviceID session.endpoints rpcType s rfl)).bind
    intro selected
    cases selected with
    | error e => exact Exec.follows_pure _
    | ok ordered =>
      simp only
      split
      · exact Exec.follows_pure _
      · exact (follows_tryEach (hattempt session) _ _).bind (fun _ ↦ Exec.follows_pure _)

/-- What is tracked follows the calls of `Relay`. -/
theorem Tracks.follows_relay (h : r.Tracks get step) (ctx : Context) (serviceID : ServiceID)
    (rpcType : RPCType) (input : RelayInput) :
    Exec.Follows get step
      (r.relay ctx serviceID rpcType input : Exec π σ (Event γ) (Except Err RelayResult)) := by
  apply h.follows_withFailover
  intro session ep
  unfold relayAttempt
  cases ep.url rpcType with
  | none => exact Exec.follows_pure _
  | some url =>
    apply (h.follows_signRelay session ep rpcType input).bind
    intro signed
    cases signed with
    | error e => exact Exec.follows_pure _
    | ok relayReq =>
      apply (h.follows_call (fun _ ↦ rfl)
        (fun s ↦ (h.seams (get s)).sender url relayReq rpcType s rfl)).bind
      intro sent
      cases sent with
      | error e => exact (h.follows_observe _ _ _ _ _).bind (fun _ ↦ Exec.follows_pure _)
      | ok respBz =>
        apply (h.follows_validate ep.supplier respBz).bind
        intro validated
        cases validated with
        | error e => exact (h.follows_observe _ _ _ _ _).bind (fun _ ↦ Exec.follows_pure _)
        | ok result => exact (h.follows_observe _ _ _ _ _).bind (fun _ ↦ Exec.follows_pure _)

private theorem follows_deliverTracked
    {validate : Bytes → Exec π σ (Event γ) (Except Err RelayResult)}
    {onBatch : RelayResult → Exec π σ (Event γ) (Except Err Unit)}
    (hv : ∀ b, Exec.Follows get step (validate b))
    (ho : ∀ result, Exec.Follows get step (onBatch result)) (ending : Except Err Unit)
    (delivered : Bool) (bs : List Bytes) :
    Exec.Follows get step (deliverTracked validate onBatch ending delivered bs) := by
  induction bs generalizing delivered with
  | nil =>
    rw [deliverTracked_nil]
    exact Exec.follows_pure _
  | cons b bs ih =>
    rw [deliverTracked_cons]
    apply (hv b).bind
    intro validated
    cases validated with
    | error e => exact Exec.follows_pure _
    | ok result =>
      apply (ho result).bind
      intro accepted
      cases accepted with
      | error e => exact Exec.follows_pure _
      | ok u => exact ih true

private theorem Tracks.follows_emit (h : r.Tracks get step) {ev : Event γ}
    (hev : ev.isObserve = false) : Exec.Follows get step (Exec.emit ev : Exec π σ (Event γ) Unit) :=
  fun s ↦ (h.other (get s) ev hev).symm

/-- The calls of a client are not those of an observer. -/
theorem Tracks.follows_callOnBatch (h : r.Tracks get step)
    {onBatch : RelayResult → Exec π σ γ (Except Err Unit)}
    (hcallback : ∀ result s, get ((onBatch result).after s) = get s) (result : RelayResult) :
    Exec.Follows get step (callOnBatch onBatch result) := by
  have hclient (es : List γ) (v : τ) : (es.map Event.client).foldl step v = v := by
    induction es generalizing v with
    | nil => rfl
    | cons e es ih => rw [List.map_cons, List.foldl_cons, h.other v (.client e) rfl, ih]
  apply (h.follows_emit rfl).bind
  intro _ s
  exact (hcallback result s).trans (hclient _ _).symm

private theorem Tracks.follows_conclude (h : r.Tracks get step) (serviceID : ServiceID)
    (rpcType : RPCType) (supplier : EndpointAddr) (err : Except Err Unit) (delivered : Bool) :
    Exec.Follows get step (r.conclude serviceID rpcType supplier err delivered :
      Exec π σ (Event γ) (Attempt Err (Except Err Unit))) := by
  apply (h.follows_emit rfl).bind
  intro _
  cases err with
  | error e =>
    apply (h.follows_observe serviceID rpcType supplier false (some e)).bind
    intro _
    split
    · exact Exec.follows_pure _
    · exact Exec.follows_pure _
  | ok u =>
    exact (h.follows_observe serviceID rpcType supplier true none).bind
      (fun _ ↦ Exec.follows_pure _)

/-- What is tracked follows the calls of `RelayStream`, if the callback leaves it alone. -/
theorem Tracks.follows_relayStream [GoLib] (h : r.Tracks get step) (ctx : Context)
    (serviceID : ServiceID) (rpcType : RPCType) (input : RelayInput)
    {onBatch : RelayResult → Exec π σ γ (Except Err Unit)}
    (hcallback : ∀ result s, get ((onBatch result).after s) = get s) :
    Exec.Follows get step (r.relayStream ctx serviceID rpcType input onBatch) := by
  have hread (v : τ) (ev : Event γ) (hev : ev.isRead = true) : step v ev = v := by
    apply h.other
    cases ev with
    | read chunk => rfl
    | _ => cases hev
  unfold relayStream
  cases hs : r.streamSender with
  | none => exact Exec.follows_pure _
  | some sendStream =>
    apply h.follows_withFailover
    intro session ep
    unfold streamAttempt
    cases ep.url rpcType with
    | none => exact Exec.follows_pure _
    | some url =>
      apply (h.follows_signRelay session ep rpcType input).bind
      intro signed
      cases signed with
      | error e => exact Exec.follows_pure _
      | ok relayReq =>
        apply (h.follows_call (fun _ ↦ rfl) (fun s ↦
          (h.seams (get s)).streamSender sendStream hs url relayReq rpcType s rfl)).bind
        intro sent
        cases sent with
        | error e => exact (h.follows_observe _ _ _ _ _).bind (fun _ ↦ Exec.follows_pure _)
        | ok reply =>
          refine Exec.Follows.bind (Exec.Follows.of_hide hread ?_) (fun consumed ↦
            h.follows_conclude serviceID rpcType ep.supplier consumed.1 consumed.2)
          rw [r.hide_consume]
          exact follows_deliverTracked (h.follows_validate ep.supplier)
            (h.follows_callOnBatch hcallback) _ _ _

end Tracks

end Relayer
end PocketAp.Relay
