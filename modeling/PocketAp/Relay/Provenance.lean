import PocketAp.Base.History
import PocketAp.Relay.Delivery

/-!
# Where the calls of a relay come from

`src/relay/relay.go:157–229` and `src/relay/stream.go:88–272`. Every call of a run has a cause
among the calls before it: what is sent was signed for the input and for the endpoint at that
URL, a response is validated out of a reply to such a request, as its supplier's, and the
client is only ever given the response that was validated last. `Traced` says so of one call;
it holds throughout every run of `Relay` and of `RelayStream`.
-/

namespace PocketAp.Relay

open PocketAp.Base PocketAp.Domain

section Causes

variable {π σ γ : Type} (r : Relayer σ) (rpcType : RPCType) (input : RelayInput)

/-- The request was signed for this endpoint, which is reached at this URL. -/
def Relayer.Addressed (session : Session) (ep : Endpoint) (url : String) (relayReq : Bytes) : Prop :=
  ep.url rpcType = some url ∧ ∃ s, (r.signer session ep rpcType input s).1 = .ok relayReq

variable [GoLib]

/-- The batch is a reply to the request, or one of those that a streamed reply is split into. -/
def Replied (past : List (Event γ)) (supplier : EndpointAddr) (url : String) (relayReq batch : Bytes) :
    Prop :=
  .send url relayReq rpcType (.ok batch) ∈ past ∨
    ∃ reply, .sendStream url relayReq rpcType (.ok reply) ∈ past ∧
      batch ∈ (plan supplier reply.body reply.header).batches

/-- What caused a call into a seam, given the calls before it. -/
def Relayer.Sourced (session : Session) (ordered : List Endpoint) (past : List (Event γ)) :
    Event γ → Prop
  | .send url relayReq t _ =>
    t = rpcType ∧ ∃ ep ∈ ordered, r.Addressed rpcType input session ep url relayReq
  | .sendStream url relayReq t _ =>
    t = rpcType ∧ ∃ ep ∈ ordered, r.Addressed rpcType input session ep url relayReq
  | .validate supplier batch (.ok result) =>
    (∃ s, (r.validator supplier batch s).1 = .ok result) ∧
      ∃ ep ∈ ordered, ep.supplier = supplier ∧ ∃ url relayReq,
        r.Addressed rpcType input session ep url relayReq ∧
          Replied rpcType past supplier url relayReq batch
  | _ => True

/-- The same, for the session that is fetched and the endpoints that are selected. -/
def Relayer.Traced (ctx : Context) (serviceID : ServiceID) (s : σ) (past : List (Event γ))
    (ev : Event γ) : Prop :=
  ∃ session s₁ ordered s₂, r.sessions serviceID s = (.ok session, s₁) ∧
    r.selector.select ctx serviceID session.endpoints rpcType s₁ = (.ok ordered, s₂) ∧
    r.Sourced rpcType input session ordered past ev

omit [GoLib] in
/-- A call of the callback was made for the response validated last. -/
def Told (onBatch : RelayResult → Exec π σ γ (Except Err Unit)) (past : List (Event γ))
    (ev : Event γ) : Prop :=
  ∀ c, ev = .client c → ∃ batch result s, latest Event.valid? past = some (batch, result) ∧
    c ∈ (onBatch result s).1

end Causes

section Delivery

variable {π σ γ : Type} {validator : Bytes → Seam σ (Except Err RelayResult)}
  {supplier : EndpointAddr} {callback : RelayResult → Exec π σ γ (Except Err Unit)}

/-- What caused a call while the batches `bs` of one supplier are delivered. -/
private def FromBatch (validator : Bytes → Seam σ (Except Err RelayResult))
    (supplier : EndpointAddr) (bs : List Bytes) : Event γ → Prop
  | .validate supplier' batch (.ok result) =>
    supplier' = supplier ∧ batch ∈ bs ∧ ∃ s, (validator batch s).1 = .ok result
  | .send _ _ _ _ => False
  | .sendStream _ _ _ _ => False
  | _ => True

private theorem told_mono (more past : List (Event γ)) (ev : Event γ) (h : Told callback past ev) :
    Told callback (more ++ past) ev := by
  intro c hc
  obtain ⟨batch, result, s, hlast, hmem⟩ := h c hc
  exact ⟨batch, result, s, by rw [latest_append, hlast, Option.some_or], hmem⟩

variable (supplier) in
/-- One batch that is found valid and handed on, whatever the callback makes of it. -/
private theorem delivered_batch {bs : List Bytes} {batch : Bytes} {result : RelayResult}
    {s s₁ s₂ : σ} {es : List (Event γ)} {out : Except π (Except Err Unit)} (hmem : batch ∈ bs)
    (valid : validator batch s = (.ok result, s₁))
    (handed : callOnBatch callback result s₁ = (es, s₂, out)) :
    (∀ ev ∈ Event.validate supplier batch (.ok result) :: es, FromBatch validator supplier bs ev) ∧
      Throughout (Told callback) (.validate supplier batch (.ok result) :: es) := by
  rw [callOnBatch_events handed]
  constructor
  · simp only [List.forall_mem_cons]
    exact ⟨⟨rfl, hmem, s, by rw [valid]⟩, trivial, by simp [FromBatch]⟩
  · rw [throughout_cons, throughout_cons]
    refine ⟨nofun, nofun, ?_⟩
    rintro past ev future heq c rfl
    obtain ⟨cs, cs', hcs, rfl, hev⟩ := List.map_eq_append_iff.mp heq
    obtain ⟨c', cs'', rfl, hc, -⟩ := List.map_eq_cons_iff.mp hev
    cases hc
    have hquiet : latest Event.valid? (.onBatch result :: cs.map (.client : γ → Event γ)) = none := by
      apply latest_eq_none
      simp [Event.valid?]
    refine ⟨batch, result, s₁, ?_, by simp [hcs]⟩
    rw [← List.singleton_append, latest_append, hquiet]
    rfl

private theorem delivered_all {bs : List Bytes} {s s' : σ} {done : List (Bytes × RelayResult)}
    {es : List (Event γ)} (h : Delivers validator supplier (callOnBatch callback) s done es s')
    (hsub : ∀ d ∈ done, d.1 ∈ bs) :
    (∀ ev ∈ es, FromBatch validator supplier bs ev) ∧ Throughout (Told callback) es := by
  induction h with
  | nil s => exact ⟨by simp, throughout_nil⟩
  | cons batch result valid accepted tail ih =>
    rw [List.forall_mem_cons] at hsub
    obtain ⟨hfrom, htold⟩ := ih hsub.2
    have hfirst := delivered_batch supplier hsub.1 valid accepted
    rw [← List.cons_append]
    exact ⟨List.forall_mem_append.mpr ⟨hfirst.1, hfrom⟩, hfirst.2.append told_mono htold⟩

/-- Whatever happens to them, the batches of a reply are the cause of all calls. -/
private theorem deliverRun_caused {ending : Except Err Unit} {delivered : Bool} {s : σ}
    {bs : List Bytes} {run : List (Event γ) × σ × Except π (Except Err Unit × Bool)}
    (h : DeliverRun validator supplier (callOnBatch callback) ending delivered s bs run) :
    (∀ ev ∈ run.1, FromBatch validator supplier bs ev) ∧ Throughout (Told callback) run.1 := by
  have hsub {done : List (Bytes × RelayResult)} {rest : List Bytes}
      (split : bs = done.map Prod.fst ++ rest) : ∀ d ∈ done, d.1 ∈ bs := by
    intro d hd
    rw [split]
    exact List.mem_append_left _ (List.mem_map_of_mem hd)
  have hbatch {done : List (Bytes × RelayResult)} {batch : Bytes} {rest : List Bytes}
      (split : bs = done.map Prod.fst ++ batch :: rest) : batch ∈ bs := by
    rw [split]
    simp
  cases h with
  | complete done es s' all delivers run_eq =>
    subst run_eq
    exact delivered_all delivers (hsub (by simpa using all : bs = done.map Prod.fst ++ []))
  | invalid done batch rest es s' s'' e split delivers failed run_eq =>
    subst run_eq
    obtain ⟨hfrom, htold⟩ := delivered_all delivers (hsub split)
    refine ⟨List.forall_mem_append.mpr ⟨hfrom, by simp [FromBatch]⟩, htold.append told_mono ?_⟩
    exact throughout_of_forall (by simp [Told])
  | refused done batch result rest es es' s' s₁ s₂ e split delivers valid failed run_eq =>
    subst run_eq
    obtain ⟨hfrom, htold⟩ := delivered_all delivers (hsub split)
    have hlast := delivered_batch supplier (hbatch split) valid failed
    exact ⟨List.forall_mem_append.mpr ⟨hfrom, hlast.1⟩, htold.append told_mono hlast.2⟩
  | panicked done batch result rest es es' s' s₁ s₂ p split delivers valid failed run_eq =>
    subst run_eq
    obtain ⟨hfrom, htold⟩ := delivered_all delivers (hsub split)
    have hlast := delivered_batch supplier (hbatch split) valid failed
    exact ⟨List.forall_mem_append.mpr ⟨hfrom, hlast.1⟩, htold.append told_mono hlast.2⟩

end Delivery

namespace Relayer

variable {π σ γ : Type} [GoLib] {r : Relayer σ} {serviceID : ServiceID} {rpcType : RPCType}
  {input : RelayInput} {onBatch : RelayResult → Exec π σ γ (Except Err Unit)} {session : Session}
  {ordered : List Endpoint} {ep : Endpoint}

/-! ### One attempt -/

private theorem sourced_of_sub {past past' : List (Event γ)} (hsub : past ⊆ past') {ev : Event γ}
    (h : r.Sourced rpcType input session ordered past ev) :
    r.Sourced rpcType input session ordered past' ev := by
  cases ev with
  | validate supplier batch result =>
    cases result with
    | error e => trivial
    | ok result =>
      obtain ⟨hvalid, ep, hep, hs, url, relayReq, haddr, hreply⟩ := h
      refine ⟨hvalid, ep, hep, hs, url, relayReq, haddr, ?_⟩
      exact hreply.imp (@hsub _) (fun ⟨reply, hm, hb⟩ ↦ ⟨reply, hsub hm, hb⟩)
  | _ => exact h

/-- What an attempt has to say for each of its calls. -/
private def Caused (r : Relayer σ) (rpcType : RPCType) (input : RelayInput)
    (onBatch : RelayResult → Exec π σ γ (Except Err Unit)) (session : Session)
    (ordered : List Endpoint) (past : List (Event γ)) (ev : Event γ) : Prop :=
  r.Sourced rpcType input session ordered past ev ∧ Told onBatch past ev

private theorem caused_mono (more past : List (Event γ)) (ev : Event γ)
    (h : r.Caused rpcType input onBatch session ordered past ev) :
    r.Caused rpcType input onBatch session ordered (more ++ past) ev :=
  ⟨sourced_of_sub (List.subset_append_right more past) h.1, told_mono more past ev h.2⟩

omit [GoLib] in
private theorem observe_of_mem {supplier : EndpointAddr} {success : Bool} {err : Option Err}
    {ev : Event γ} (hev : ev ∈ r.observed serviceID rpcType supplier success err) :
    ∃ supplier' outcome, ev = .observe supplier' outcome := by
  by_contra hother
  push Not at hother
  exact not_mem_observed hother hev

private theorem caused_observed {supplier : EndpointAddr} {success : Bool} {err : Option Err}
    {ev : Event γ} (hev : ev ∈ r.observed serviceID rpcType supplier success err)
    (past : List (Event γ)) : r.Caused rpcType input onBatch session ordered past ev := by
  obtain ⟨supplier', outcome, rfl⟩ := observe_of_mem hev
  exact ⟨trivial, nofun⟩

omit [GoLib] in
private theorem addressed {url : String} {relayReq : Bytes} {s s₁ : σ}
    (found : ep.url rpcType = some url)
    (signed : r.signer session ep rpcType input s = (.ok relayReq, s₁)) :
    r.Addressed rpcType input session ep url relayReq := ⟨found, s, by rw [signed]⟩

private theorem relayAttempt_caused (hep : ep ∈ ordered) (s : σ) :
    Throughout (r.Caused rpcType input onBatch session ordered)
      (r.relayAttempt serviceID rpcType input session ep s :
        List (Event γ) × σ × Except π (Attempt Err (Except Err RelayResult))).1 := by
  cases r.relayAttempt_run serviceID rpcType input session ep s with
  | noURL absent run_eq =>
    rw [run_eq]
    exact throughout_nil
  | unsigned url e s' found signed run_eq =>
    rw [run_eq]
    exact throughout_of_forall (by simp [Caused, Sourced, Told])
  | unsent url relayReq e s₁ s₂ found signed sent run_eq =>
    rw [run_eq]
    simp only [throughout_cons]
    exact ⟨⟨trivial, nofun⟩, ⟨⟨rfl, ep, hep, addressed found signed⟩, nofun⟩,
      throughout_of_forall fun _ hev _ ↦ caused_observed hev _⟩
  | invalid url relayReq respBz e s₁ s₂ s₃ found signed sent validated run_eq =>
    rw [run_eq]
    simp only [throughout_cons]
    exact ⟨⟨trivial, nofun⟩, ⟨⟨rfl, ep, hep, addressed found signed⟩, nofun⟩, ⟨trivial, nofun⟩,
      throughout_of_forall fun _ hev _ ↦ caused_observed hev _⟩
  | valid url relayReq respBz result s₁ s₂ s₃ found signed sent validated run_eq =>
    rw [run_eq]
    simp only [throughout_cons]
    refine ⟨⟨trivial, nofun⟩, ⟨⟨rfl, ep, hep, addressed found signed⟩, nofun⟩, ⟨?_, nofun⟩,
      throughout_of_forall fun _ hev _ ↦ caused_observed hev _⟩
    exact ⟨⟨s₂, by rw [validated]⟩, ep, hep, rfl, url, relayReq, addressed found signed,
      .inl (by simp)⟩

omit [GoLib] in
private theorem afterDelivery_eq (r : Relayer σ) (serviceID : ServiceID) (rpcType : RPCType)
    (supplier : EndpointAddr)
    (batches : List (Event γ) × σ × Except π (Except Err Unit × Bool)) :
    ∃ tail, (r.afterDelivery serviceID rpcType supplier batches).1 = batches.1 ++ tail ∧
      ∀ ev ∈ tail, ev = .close ∨
        ∃ success err, ev ∈ r.observed serviceID rpcType supplier success err := by
  rcases batches with ⟨es, s, p | ⟨e | u, delivered⟩⟩
  · exact ⟨[], by simp [afterDelivery], by simp⟩
  · refine ⟨_, rfl, ?_⟩
    intro ev hev
    exact (List.mem_cons.mp hev).imp_right (fun h ↦ ⟨_, _, h⟩)
  · refine ⟨_, rfl, ?_⟩
    intro ev hev
    exact (List.mem_cons.mp hev).imp_right (fun h ↦ ⟨_, _, h⟩)

private theorem attemptRun_caused
    {sendStream : String → Bytes → RPCType → Seam σ (Except Err Reply)} (hep : ep ∈ ordered)
    {s : σ} {run : List (Event γ) × σ × Except π (Attempt Err (Except Err Unit))}
    (h : r.AttemptRun serviceID rpcType sendStream input onBatch session ep s run) :
    Throughout (r.Caused rpcType input onBatch session ordered) run.1 := by
  cases h with
  | noURL absent run_eq =>
    rw [run_eq]
    exact throughout_nil
  | unsigned url e s' found signed run_eq =>
    rw [run_eq]
    exact throughout_of_forall (by simp [Caused, Sourced, Told])
  | unsent url relayReq e s₁ s₂ found signed sent run_eq =>
    rw [run_eq]
    simp only [throughout_cons]
    exact ⟨⟨trivial, nofun⟩, ⟨⟨rfl, ep, hep, addressed found signed⟩, nofun⟩,
      throughout_of_forall fun _ hev _ ↦ caused_observed hev _⟩
  | consumed url relayReq reply s₁ s₂ batches found signed sent delivery run_eq =>
    obtain ⟨tail, htail, hends⟩ := r.afterDelivery_eq serviceID rpcType ep.supplier batches
    obtain ⟨hfrom, htold⟩ := deliverRun_caused delivery
    simp only [run_eq, htail]
    rw [throughout_append, throughout_append]
    refine ⟨?_, ?_, throughout_of_forall ?_⟩
    · simp only [throughout_cons]
      exact ⟨⟨trivial, nofun⟩, ⟨⟨rfl, ep, hep, addressed found signed⟩, nofun⟩, throughout_nil⟩
    · intro past ev future heq
      refine ⟨?_, told_mono _ past ev (htold past ev future heq)⟩
      have hev := hfrom ev (by simp [heq])
      cases ev with
      | send url relayReq t result => exact hev.elim
      | sendStream url relayReq t result => exact hev.elim
      | validate supplier batch result =>
        cases result with
        | error e => trivial
        | ok result =>
          obtain ⟨rfl, hmem, hvalid⟩ := hev
          exact ⟨hvalid, ep, hep, rfl, url, relayReq, addressed found signed,
            .inr ⟨reply, by simp, hmem⟩⟩
      | _ => trivial
    · intro ev hev past
      rcases hends ev hev with rfl | ⟨success, err, hobs⟩
      · exact ⟨trivial, nofun⟩
      · exact caused_observed hobs _

private theorem streamAttempt_caused
    {sendStream : String → Bytes → RPCType → Seam σ (Except Err Reply)} (hep : ep ∈ ordered)
    (s : σ) :
    Throughout (r.Caused rpcType input onBatch session ordered)
      (r.streamAttempt sendStream serviceID rpcType input onBatch session ep s).1 := by
  have hidden := attemptRun_caused hep
    (r.streamAttempt_run serviceID rpcType sendStream input onBatch session ep s)
  refine Throughout.of_filter ?_ ?_ hidden
  · intro past ev hread
    cases ev with
    | read chunk => exact ⟨trivial, nofun⟩
    | _ => cases hread
  · rintro past ev ⟨hsourced, htold⟩
    refine ⟨sourced_of_sub (List.filter_subset_self _) hsourced, ?_⟩
    intro c hc
    obtain ⟨batch, result, w, hlast, hmem⟩ := htold c hc
    refine ⟨batch, result, w, ?_, hmem⟩
    rwa [latest_filter] at hlast
    intro e he
    cases e with
    | read chunk => rfl
    | _ => cases he

/-! ### Whole runs -/

private theorem withFailover_traced {ρ : Type} {ctx : Context}
    {attempt : Session → Endpoint → Exec π σ (Event γ) (Attempt Err (Except Err ρ))}
    (hattempt : ∀ session ordered, ∀ ep ∈ ordered, ∀ s,
      Throughout (r.Caused rpcType input onBatch session ordered) (attempt session ep s).1)
    (s : σ) :
    Throughout (fun past ev ↦ r.Traced rpcType input ctx serviceID s past ev ∧
        Told onBatch past ev)
      (r.withFailover ctx serviceID rpcType attempt s).1 := by
  cases r.withFailover_run ctx serviceID rpcType attempt s with
  | unavailable e s' kept run_eq =>
    rw [run_eq]
    exact throughout_nil
  | tried session ordered s₁ s₂ tries fetched selected ne_nil tries_eq run_eq =>
    rw [run_eq, tries_eq]
    intro past ev future heq
    obtain ⟨hsourced, htold⟩ := forall_splits_tryEach
      (r.Caused rpcType input onBatch session ordered) caused_mono
      (fun ep hep w ↦ hattempt session ordered ep (List.mem_of_mem_take hep) w)
      s₂ none past ev future heq
    exact ⟨⟨session, s₁, ordered, s₂, fetched, selected, hsourced⟩, htold⟩

section Runs

variable (r serviceID rpcType input onBatch)

/-- Throughout `Relay`; there is no callback, so `onBatch` can be anything. -/
theorem relay_traced (ctx : Context) (s : σ) :
    Throughout (fun past ev ↦ r.Traced rpcType input ctx serviceID s past ev ∧
        Told onBatch past ev)
      ((r.relay ctx serviceID rpcType input : Exec π σ (Event γ) _).events s) :=
  withFailover_traced (fun _ _ _ hep s ↦ relayAttempt_caused hep s) s

/-- Every call of `RelayStream` is traced to the calls before it. -/
theorem relayStream_traced (ctx : Context) (s : σ) :
    Throughout (fun past ev ↦ r.Traced rpcType input ctx serviceID s past ev ∧
        Told onBatch past ev)
      ((r.relayStream ctx serviceID rpcType input onBatch).events s) := by
  unfold relayStream
  cases r.streamSender with
  | none => exact throughout_nil
  | some sendStream =>
    exact withFailover_traced (fun _ _ _ hep s ↦ streamAttempt_caused hep s) s

end Runs

omit [GoLib] in
private theorem latest_of_relayAttempt_ok {s s' : σ} {es : List (Event γ)} {result : RelayResult}
    (h : (r.relayAttempt serviceID rpcType input session ep : Exec π σ (Event γ) _) s =
      (es, s', .ok (.finish (.ok result)))) :
    ∃ batch, latest Event.valid? es = some (batch, result) := by
  have hrun := @relayAttempt_run π σ γ r serviceID rpcType input session ep s
  rw [h] at hrun
  cases hrun with
  | noURL absent run_eq => cases run_eq
  | unsigned url e s' found signed run_eq => cases run_eq
  | unsent url relayReq e s₁ s₂ found signed sent run_eq => cases run_eq
  | invalid url relayReq respBz e s₁ s₂ s₃ found signed sent validated run_eq => cases run_eq
  | valid url relayReq respBz result s₁ s₂ s₃ found signed sent validated run_eq =>
    cases run_eq
    have hobs : latest Event.valid?
        (r.observed serviceID rpcType ep.supplier true none : List (Event γ)) = none := by
      apply latest_eq_none
      intro ev hev
      obtain ⟨supplier, outcome, rfl⟩ := observe_of_mem hev
      rfl
    refine ⟨respBz, ?_⟩
    change latest Event.valid? ([_, _, _] ++ r.observed _ _ _ _ _) = _
    rw [latest_append, hobs]
    rfl

omit [GoLib] in
/-- What `Relay` returns is the response it validated last. -/
theorem latest_of_relay_ok {ctx : Context} {s s' : σ} {es : List (Event γ)} {result : RelayResult}
    (h : (r.relay ctx serviceID rpcType input : Exec π σ (Event γ) _) s = (es, s', .ok (.ok result))) :
    ∃ batch, latest Event.valid? es = some (batch, result) := by
  have hrun := r.withFailover_run ctx serviceID rpcType
    (r.relayAttempt serviceID rpcType input : Session → Endpoint → Exec π σ (Event γ) _) s
  rw [show r.withFailover ctx serviceID rpcType (r.relayAttempt serviceID rpcType input) s =
    (es, s', .ok (.ok result)) from h] at hrun
  cases hrun with
  | unavailable e s' kept run_eq => cases run_eq
  | tried session ordered s₁ s₂ tries fetched selected ne_nil tries_eq run_eq =>
    have htried := tryEach_tried
      (r.relayAttempt serviceID rpcType input session : Endpoint → Exec π σ (Event γ) _) s₂ none
      (ordered.take (attemptCap r.maxAttempts ordered.length))
    rw [← tries_eq] at htried
    cases htried with
    | exhausted es s' last' skips tries_eq =>
      subst tries_eq
      cases run_eq
    | finished before after ep es es' s' s'' last' res split skips final tries_eq =>
      subst tries_eq
      cases run_eq
      obtain ⟨batch, hlast⟩ := latest_of_relayAttempt_ok final
      exact ⟨batch, by rw [latest_append, hlast, Option.some_or]⟩
    | panicked before after ep es es' s' s'' last' p split skips final tries_eq =>
      subst tries_eq
      cases run_eq

end Relayer

end PocketAp.Relay
