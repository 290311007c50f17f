import PocketAp.Relay.Attempts

/-!
# Closing what was opened

`src/relay/stream.go:152–158`. `RelayStream` closes the body of a reply after consuming it
and before anything else is sent. The close is a plain call and no deferred one, so a callback
that panics leaves the body open.
-/

namespace PocketAp.Relay

open PocketAp.Base PocketAp.Domain

/-- Every body received is closed before the next request goes out. -/
def ClosesBodies {γ : Type} (es : List (Event γ)) : Prop :=
  ∀ pre url relayReq t reply post, es = pre ++ .sendStream url relayReq t (.ok reply) :: post →
    ∃ mid rest, post = mid ++ .close :: rest ∧ ∀ ev ∈ mid, ev.isSend = false

/-- A call that receives no body. -/
def Event.isBodiless {γ : Type} : Event γ → Bool
  | .sendStream _ _ _ (.ok _) => false
  | _ => true

section Records

variable {γ : Type} {es es' : List (Event γ)}

/-- Where there is no body none is left open. -/
theorem closesBodies_of_bodiless (h : ∀ ev ∈ es, ev.isBodiless = true) : ClosesBodies es := by
  rintro pre url relayReq t reply post rfl
  have hm := h (.sendStream url relayReq t (.ok reply)) (by simp)
  cases hm

/-- Two runs that close their bodies are one. -/
theorem ClosesBodies.append (h : ClosesBodies es) (h' : ClosesBodies es') :
    ClosesBodies (es ++ es') := by
  intro pre url relayReq t reply post heq
  rcases List.append_eq_append_iff.mp heq with ⟨l, -, hl⟩ | ⟨l, hl, hpost⟩
  · exact h' l url relayReq t reply post hl
  · cases l with
    | nil => exact h' [] url relayReq t reply post hpost.symm
    | cons e l =>
      simp only [List.cons_append, List.cons.injEq] at hpost
      obtain ⟨rfl, rfl⟩ := hpost
      obtain ⟨mid, rest, rfl, hmid⟩ := h pre url relayReq t reply l hl
      exact ⟨mid, rest ++ es', by simp, hmid⟩

/-- Reads of a body have no part in this. -/
theorem ClosesBodies.of_filter (h : ClosesBodies (es.filter (fun e ↦ !e.isRead))) :
    ClosesBodies es := by
  rintro pre url relayReq t reply post rfl
  rw [List.filter_append, List.filter_cons_of_pos rfl] at h
  obtain ⟨mid, rest, hpost, hmid⟩ := h _ url relayReq t reply _ rfl
  obtain ⟨mid', rest', rfl, hm, hr⟩ := List.filter_eq_append_iff.mp hpost
  obtain ⟨reads, tail, rfl, hreads, -, -⟩ := List.filter_eq_cons_iff.mp hr
  refine ⟨mid' ++ reads, tail, by simp, ?_⟩
  intro ev hev
  cases hread : ev.isRead with
  | true => cases ev <;> first | rfl | cases hread
  | false =>
    rcases List.mem_append.mp hev with hev | hev
    · rw [← hm] at hmid
      exact hmid ev (List.mem_filter.mpr ⟨hev, by simp [hread]⟩)
    · exact absurd (hreads ev hev) (by simp [hread])

end Records

section Runs

variable {π σ γ : Type} [GoLib] {r : Relayer σ}
  {sendStream : String → Bytes → RPCType → Seam σ (Except Err Reply)} {serviceID : ServiceID}
  {rpcType : RPCType} {input : RelayInput} {onBatch : RelayResult → Exec π σ γ (Except Err Unit)}

omit [GoLib] in
private theorem observed_bodiless (supplier : EndpointAddr) (success : Bool) (err : Option Err) :
    ∀ ev ∈ (r.observed serviceID rpcType supplier success err : List (Event γ)),
      ev.isBodiless = true := by
  unfold Relayer.observed
  cases r.selector.observer with
  | none => simp
  | some f => simp [Event.isBodiless]

omit [GoLib] in
/-- One body, closed after what was done with it. -/
private theorem closesBodies_body {pre mid rest : List (Event γ)} {url : String} {relayReq : Bytes}
    {t : RPCType} {reply : Reply} (hpre : ∀ ev ∈ pre, ev.isBodiless = true)
    (hmid : ∀ ev ∈ mid, ev.isSend = false) (hrest : ∀ ev ∈ rest, ev.isBodiless = true) :
    ClosesBodies (pre ++ .sendStream url relayReq t (.ok reply) :: (mid ++ .close :: rest)) := by
  intro pre' url' relayReq' t' reply' post heq
  have hnot : .sendStream url' relayReq' t' (.ok reply') ∉ pre := by
    intro hm
    cases hpre _ hm
  obtain ⟨l, rfl, hl⟩ := exists_of_append_eq_append_cons heq hnot
  cases l with
  | nil =>
    simp only [List.nil_append, List.cons.injEq] at hl
    exact ⟨mid, rest, hl.2.symm, hmid⟩
  | cons e l =>
    simp only [List.cons_append, List.cons.injEq] at hl
    have hm : .sendStream url' relayReq' t' (.ok reply') ∈ mid ++ .close :: rest := by
      rw [hl.2]
      simp
    simp only [List.mem_append, List.mem_cons, reduceCtorEq, false_or] at hm
    rcases hm with hm | hm
    · cases hmid _ hm
    · cases hrest _ hm

/-- An attempt that does not panic has closed what it received. -/
private theorem closesBodies_attempt {session : Session} {ep : Endpoint} {s s' : σ}
    {es : List (Event γ)} {a : Attempt Err (Except Err Unit)}
    (h : r.AttemptRun serviceID rpcType sendStream input onBatch session ep s (es, s', .ok a)) :
    ClosesBodies es := by
  cases h with
  | noURL absent run_eq =>
    cases run_eq
    exact closesBodies_of_bodiless (by simp)
  | unsigned url e s₁ found signed run_eq =>
    cases run_eq
    exact closesBodies_of_bodiless (by simp [Event.isBodiless])
  | unsent url relayReq e s₁ s₂ found signed sent run_eq =>
    cases run_eq
    apply closesBodies_of_bodiless
    simp only [List.forall_mem_cons, Event.isBodiless, true_and]
    exact observed_bodiless _ _ _
  | consumed url relayReq reply s₁ s₂ batches found signed sent delivery run_eq =>
    have hmid : ∀ ev ∈ batches.1, ev.isSend = false := by
      intro ev hev
      have hinner := (delivery.delivery ev hev).isInner
      simp only [Event.isInner, Bool.not_eq_true', Bool.or_eq_false_iff] at hinner
      exact hinner.1.2
    have hbody (success : Bool) (err : Option Err) : ClosesBodies
        ([.sign session ep rpcType input (.ok relayReq)] ++
          .sendStream url relayReq rpcType (.ok reply) :: (batches.1 ++ .close ::
            r.observed serviceID rpcType ep.supplier success err)) :=
      closesBodies_body (by simp [Event.isBodiless]) hmid (observed_bodiless _ _ _)
    rcases batches with ⟨ds, w, p | ⟨e | u, delivered⟩⟩
    · simp [Relayer.afterDelivery] at run_eq
    · simp only [Relayer.afterDelivery, Prod.mk.injEq] at run_eq
      rw [run_eq.1]
      exact hbody false (some e)
    · simp only [Relayer.afterDelivery, Prod.mk.injEq] at run_eq
      rw [run_eq.1]
      exact hbody true none

/-- Unless the callback panics, `RelayStream` closes every body it receives. -/
theorem relayStream_closes {ctx : Context} {s s' : σ} {es : List (Event γ)} {res : Except Err Unit}
    (h : Exec.hide Event.isRead (r.relayStream ctx serviceID rpcType input onBatch) s =
      (es, s', .ok res)) : ClosesBodies es := by
  cases hsend : r.streamSender with
  | none =>
    simp only [Relayer.relayStream, hsend, Exec.hide_pure, Exec.pure_run] at h
    cases h
    exact closesBodies_of_bodiless (by simp)
  | some sendStream =>
    simp only [Relayer.relayStream, hsend] at h
    rw [r.hide_withFailover] at h
    cases r.withFailover_run ctx serviceID rpcType (fun session ep ↦ Exec.hide Event.isRead
        (r.streamAttempt sendStream serviceID rpcType input onBatch session ep)) s with
    | unavailable e w kept run_eq =>
      rw [h] at run_eq
      cases run_eq
      exact closesBodies_of_bodiless (by simp)
    | tried session ordered s₁ s₂ tries fetched selected ne_nil tries_eq run_eq =>
      rw [h] at run_eq
      rcases tries with ⟨ts, w, p | out⟩
      · simp [Except.map] at run_eq
      · simp only [Prod.mk.injEq] at run_eq
        rw [run_eq.1]
        refine record_tryEach (closesBodies_of_bodiless (by simp)) (fun _ _ ↦ .append) ?_
          tries_eq.symm
        intro ep w₁ es₁ w₂ a ha
        have hattempt := r.streamAttempt_run serviceID rpcType sendStream input onBatch session ep w₁
        rw [ha] at hattempt
        exact closesBodies_attempt hattempt

end Runs

end PocketAp.Relay
