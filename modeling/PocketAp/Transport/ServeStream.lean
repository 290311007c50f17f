import PocketAp.Relay.StreamSuccess
import PocketAp.Transport.HTTP

/-!
# What a client of a stream is given

Runs of `serveStream` over `RelayStream`, `src/transport/http.go:215–276`: everything
written comes from verified batches of one supplier, in order; the head comes from the first
of them; and the connection is aborted unless all of them were written.
-/

namespace PocketAp.Transport

open PocketAp.Base PocketAp.Domain PocketAp.Relay

/-- Bytes handed to the response writer. -/
def written? : Event ClientEvent → Option Bytes
  | .client (.write body _) => some body
  | _ => none

/-- A call that decides the status or a header of the response. -/
def ClientEvent.isHead : ClientEvent → Bool
  | .headerAdd _ _ => true
  | .headerSet _ _ => true
  | .writeHeader _ => true
  | _ => false

/-- Such a call among all calls. -/
def headOp? : Event ClientEvent → Option ClientEvent
  | .client e => if e.isHead then some e else none
  | _ => none

/-- A supplier is signed for or sent to. -/
def isContact : Event ClientEvent → Bool
  | .sign _ _ _ _ _ => true
  | .send _ _ _ _ => true
  | .sendStream _ _ _ _ => true
  | _ => false

/-- A status that a response can carry. -/
def ValidStatus (result : RelayResult) : Prop :=
  result.statusCode = 0 ∨ (200 ≤ result.statusCode ∧ result.statusCode ≤ 999)

/-- `WriteHeader` takes the status of a result. -/
def Writable (result : RelayResult) : Prop :=
  100 ≤ StreamHandler.status result ∧ StreamHandler.status result ≤ 999

private theorem ValidStatus.writable {result : RelayResult} (h : ValidStatus result) :
    Writable result := by
  unfold Writable StreamHandler.status
  rcases h with h0 | ⟨h1, h2⟩
  · simp [h0]
  · split <;> omega

section Records

private theorem heads_of_client (es : List ClientEvent) (h : ∀ e ∈ es, e.isHead = true) :
    (es.map .client).filterMap headOp? = es := by
  induction es with
  | nil => rfl
  | cons e es ih =>
    have he := h e List.mem_cons_self
    have hes := ih (fun x hx ↦ h x (List.mem_cons_of_mem _ hx))
    have hop : headOp? (.client e) = some e := by simp [headOp?, he]
    rw [List.map_cons, List.filterMap_cons_some hop, hes]

private theorem written_of_heads (es : List ClientEvent) (h : ∀ e ∈ es, e.isHead = true) :
    (es.map .client).filterMap written? = [] := by
  rw [List.filterMap_eq_nil_iff]
  intro x hx
  obtain ⟨e, he, rfl⟩ := List.mem_map.mp hx
  have := h e he
  cases e <;> first | rfl | cases this

private theorem valid_of_client (es : List ClientEvent) :
    (es.map (.client : _ → Event ClientEvent)).filterMap Event.valid? = [] := by
  simp [Event.valid?]

/-- At no point more has been written than was found valid, `k` batches apart. -/
def Ahead (k : Nat) (es : List (Event ClientEvent)) : Prop :=
  ∀ pre, pre <+: es →
    (pre.filterMap written?).length ≤ k + (pre.filterMap Event.valid?).length

private theorem Ahead.append {k j : Nat} {xs ys : List (Event ClientEvent)} (hx : Ahead k xs)
    (hj : (xs.filterMap written?).length + j = k + (xs.filterMap Event.valid?).length)
    (hy : Ahead j ys) : Ahead k (xs ++ ys) := by
  rintro pre ⟨t, ht⟩
  rcases List.append_eq_append_iff.mp ht with ⟨l, hl, -⟩ | ⟨l, rfl, hl⟩
  · exact hx pre ⟨l, hl.symm⟩
  · have := hy l ⟨t, hl.symm⟩
    rw [List.filterMap_append, List.filterMap_append, List.length_append, List.length_append]
    omega

private theorem ahead_of_unwritten {k : Nat} {es : List (Event ClientEvent)}
    (h : es.filterMap written? = []) : Ahead k es := by
  intro pre hpre
  have hp := hpre.filterMap written?
  rw [h, List.prefix_nil] at hp
  rw [hp]
  exact Nat.zero_le _

end Records

namespace StreamHandler

variable {σ : Type} [GoLib] (h : StreamHandler σ)

/-- The head a first result gives the response. -/
def head (result : RelayResult) : List ClientEvent :=
  h.headers result ++ [.writeHeader (status result)]

/-- The head is written before the first batch only. -/
def opening (v : StreamVars) (result : RelayResult) : List ClientEvent :=
  if v.wroteHeader then [] else h.head result

/-- The variables once the head is written. -/
def opened (v : StreamVars) (result : RelayResult) : StreamVars :=
  if v.wroteHeader then v else ⟨true, (h.split result).2⟩

omit [GoLib] in
/-- The record of a write, flushed when it went well. -/
def bodyOps (result : RelayResult) (err : Option Err) : List ClientEvent :=
  .write result.body err ::
    match err with
    | none => if h.canFlush then [.flush] else []
    | some _ => []

omit [GoLib] in
/-- What the callback returns. -/
def writeResult : Option Err → Except Err Unit
  | none => .ok ()
  | some e => .error (.errorf "write to client: " e)

omit [GoLib] in
private theorem writeBody_run (result : RelayResult) (v : StreamVars) (s s' : σ)
    (err : Option Err) (hw : h.write result.body s = (err, s')) :
    h.writeBody result (v, s) = (h.bodyOps result err, (v, s'), .ok (writeResult err)) := by
  have hl : liftSeam (h.write result.body) (v, s) = (err, (v, s')) := liftSeam_run hw
  unfold writeBody
  rw [Exec.bind_run_ok (Exec.call_run hl _)]
  cases err with
  | none =>
    simp only
    rw [Exec.bind_run_ok (Exec.emitAll_run _ _)]
    simp [bodyOps, writeResult, Exec.pure_run]
  | some e => rfl

/-- Once the head is out, a result is only its body. -/
theorem onBatch_of_wroteHeader (result : RelayResult) {v : StreamVars} (hv : v.wroteHeader = true)
    {s s' : σ} {err : Option Err} (hw : h.write result.body s = (err, s')) :
    h.onBatch result (v, s) = (h.bodyOps result err, (v, s'), .ok (writeResult err)) := by
  unfold onBatch
  rw [Exec.bind_run_ok (Exec.peek_run _ _)]
  simp only [hv, Bool.not_true, Bool.false_eq_true, if_false, List.nil_append]
  exact h.writeBody_run result v s s' err hw

/-- A first result whose status `WriteHeader` takes is written with its head. -/
theorem onBatch_of_writable {result : RelayResult} (hst : Writable result) {v : StreamVars}
    (hv : v.wroteHeader = false) {s s' : σ} {err : Option Err}
    (hw : h.write result.body s = (err, s')) :
    h.onBatch result (v, s) = (h.head result ++ h.bodyOps result err,
      (⟨true, (h.split result).2⟩, s'), .ok (writeResult err)) := by
  have hcode : ¬ (status result < 100 ∨ 999 < status result) := by
    unfold Writable at hst
    omega
  have hhead : h.writeHead result (v, s) =
      (h.head result, (⟨true, (h.split result).2⟩, s), .ok ()) := by
    simp only [writeHead, writeHeader, hcode, if_false]
    rfl
  unfold onBatch
  rw [Exec.bind_run_ok (Exec.peek_run _ _)]
  simp only [hv, Bool.not_false, if_true, List.nil_append]
  rw [Exec.bind_run_ok hhead, h.writeBody_run result _ s s' err hw]

/-- A first result whose status `WriteHeader` does not take makes the callback panic. -/
theorem onBatch_of_not_writable {result : RelayResult} (hst : ¬ Writable result) {v : StreamVars}
    (hv : v.wroteHeader = false) (s : σ) :
    h.onBatch result (v, s) = (h.headers result, (⟨false, (h.split result).2⟩, s),
      .error (.invalidWriteHeaderCode (status result))) := by
  have hcode : status result < 100 ∨ 999 < status result := by
    unfold Writable at hst
    omega
  have hhead : h.writeHead result (v, s) = (h.headers result, (⟨false, (h.split result).2⟩, s),
      .error (.invalidWriteHeaderCode (status result))) := by
    simp only [writeHead, writeHeader, hcode, if_true]
    rw [← hv]
    simp [Exec.assign, Exec.emitAll, Exec.throw, bind]
  unfold onBatch
  rw [Exec.bind_run_ok (Exec.peek_run _ _)]
  simp only [hv, Bool.not_false, if_true, List.nil_append]
  rw [Exec.bind_run_error hhead]

/-- A result with a valid status is written with its head, if that is still due. -/
theorem onBatch_run (result : RelayResult) (hst : ValidStatus result) (v : StreamVars) (s s' : σ)
    (err : Option Err) (hw : h.write result.body s = (err, s')) :
    h.onBatch result (v, s) = (h.opening v result ++ h.bodyOps result err,
      (h.opened v result, s'), .ok (writeResult err)) := by
  unfold opening opened
  cases hv : v.wroteHeader with
  | true => simpa using h.onBatch_of_wroteHeader result hv hw
  | false => simpa using h.onBatch_of_writable hst.writable hv hw

private theorem head_isHead (result : RelayResult) : ∀ e ∈ h.head result, e.isHead = true := by
  unfold head headers addHeaders writeCORSHeaders
  intro e he
  simp only [List.mem_append, List.mem_flatMap, List.mem_map, List.mem_singleton] at he
  rcases he with (⟨kv, -, v, -, rfl⟩ | he) | rfl
  · rfl
  · split at he
    · simp only [List.mem_append, List.mem_cons, List.not_mem_nil, or_false] at he
      rcases he with (rfl | rfl) | he
      · rfl
      · rfl
      · split at he
        · cases he
        · simp only [List.mem_append, List.mem_singleton] at he
          rcases he with (rfl | he) | rfl
          · rfl
          · split at he
            · cases List.mem_singleton.mp he
              rfl
            · cases he
          · rfl
    · cases he
  · rfl

private theorem opening_isHead (v : StreamVars) (result : RelayResult) :
    ∀ e ∈ h.opening v result, e.isHead = true := by
  unfold opening
  split
  · simp
  · exact h.head_isHead result

/-! ### Records of delivered batches -/

/-- The record of one batch that was handed on. -/
def block (v : StreamVars) (supplier : EndpointAddr) (batch : Bytes) (result : RelayResult)
    (err : Option Err) : List (Event ClientEvent) :=
  .validate supplier batch (.ok result) :: .onBatch result ::
    (h.opening v result ++ h.bodyOps result err).map .client

private theorem callOnBatch_run (result : RelayResult) (hst : ValidStatus result)
    (v : StreamVars) (s s' : σ) (err : Option Err) (hw : h.write result.body s = (err, s')) :
    callOnBatch h.onBatch result (v, s) =
      (.onBatch result :: (h.opening v result ++ h.bodyOps result err).map .client,
        (h.opened v result, s'), .ok (writeResult err)) := by
  unfold callOnBatch
  rw [Exec.bind_run_ok (Exec.emit_run _ _)]
  simp only [Exec.mapEvents, h.onBatch_run result hst v s s' err hw, List.cons_append,
    List.nil_append]

omit [GoLib] in
private theorem written_bodyOps (result : RelayResult) (err : Option Err) :
    ((h.bodyOps result err).map .client).filterMap written? = [result.body] := by
  unfold bodyOps
  cases err with
  | none => cases h.canFlush <;> rfl
  | some e => rfl

omit [GoLib] in
private theorem heads_bodyOps (result : RelayResult) (err : Option Err) :
    ((h.bodyOps result err).map .client).filterMap headOp? = [] := by
  unfold bodyOps
  cases err with
  | none => cases h.canFlush <;> rfl
  | some e => rfl

private theorem valid_block (v : StreamVars) (supplier : EndpointAddr) (batch : Bytes)
    (result : RelayResult) (err : Option Err) :
    (h.block v supplier batch result err).filterMap Event.valid? = [(batch, result)] := by
  simp [block, List.filterMap_cons, Event.valid?, Function.comp_def]

private theorem written_block (v : StreamVars) (supplier : EndpointAddr) (batch : Bytes)
    (result : RelayResult) (err : Option Err) :
    (h.block v supplier batch result err).filterMap written? = [result.body] := by
  rw [block, List.filterMap_cons_none rfl, List.filterMap_cons_none rfl, List.map_append,
    List.filterMap_append, written_of_heads _ (h.opening_isHead v result), written_bodyOps]
  rfl

private theorem heads_block (v : StreamVars) (supplier : EndpointAddr) (batch : Bytes)
    (result : RelayResult) (err : Option Err) :
    (h.block v supplier batch result err).filterMap headOp? = h.opening v result := by
  rw [block, List.filterMap_cons_none rfl, List.filterMap_cons_none rfl, List.map_append,
    List.filterMap_append, heads_of_client _ (h.opening_isHead v result), heads_bodyOps,
    List.append_nil]

/-- Its batch is found valid before anything of it is written. -/
private theorem ahead_block (v : StreamVars) (supplier : EndpointAddr) (batch : Bytes)
    (result : RelayResult) (err : Option Err) : Ahead 0 (h.block v supplier batch result err) := by
  intro pre hpre
  have hw := (hpre.filterMap written?).length_le
  rw [h.written_block] at hw
  cases pre with
  | nil => exact Nat.zero_le _
  | cons e pre =>
    obtain ⟨rfl, -⟩ := List.cons_prefix_cons.mp hpre
    rw [List.filterMap_cons_some (show Event.valid? _ = some (batch, result) from rfl)]
    simp only [List.length_cons, List.length_nil] at hw ⊢
    omega

/-- The head due before these batches. -/
def headOf (v : StreamVars) : List (Bytes × RelayResult) → List ClientEvent
  | [] => []
  | d :: _ => h.opening v d.2

/-- The variables after these batches. -/
def varsAfter (v : StreamVars) : List (Bytes × RelayResult) → StreamVars
  | [] => v
  | d :: _ => h.opened v d.2

/-- A record in which exactly these batches were found valid and written, in this order. -/
structure Recorded (v : StreamVars) (done : List (Bytes × RelayResult))
    (es : List (Event ClientEvent)) : Prop where
  valid : es.filterMap Event.valid? = done
  written : es.filterMap written? = done.map (·.2.body)
  heads : es.filterMap headOp? = h.headOf v done
  ahead : Ahead 0 es

private theorem opened_wroteHeader (v : StreamVars) (result : RelayResult) :
    (h.opened v result).wroteHeader = true := by
  unfold opened
  split
  · assumption
  · rfl

private theorem headOf_opened (v : StreamVars) (result : RelayResult)
    (done : List (Bytes × RelayResult)) : h.headOf (h.opened v result) done = [] := by
  cases done with
  | nil => rfl
  | cons d done => exact if_pos (h.opened_wroteHeader v result)

private theorem varsAfter_opened (v : StreamVars) (result : RelayResult)
    (done : List (Bytes × RelayResult)) :
    h.varsAfter (h.opened v result) done = h.opened v result := by
  cases done with
  | nil => rfl
  | cons d done => exact if_pos (h.opened_wroteHeader v result)

/-- Calls that neither validate nor write. -/
private theorem Recorded.silent {h : StreamHandler σ} {v : StreamVars}
    {es : List (Event ClientEvent)} (hv : es.filterMap Event.valid? = [])
    (hw : es.filterMap written? = []) (hh : es.filterMap headOp? = []) : h.Recorded v [] es :=
  ⟨hv, hw, hh, ahead_of_unwritten hw⟩

private theorem Recorded.block (v : StreamVars) (supplier : EndpointAddr) (batch : Bytes)
    (result : RelayResult) (err : Option Err) :
    h.Recorded v [(batch, result)] (h.block v supplier batch result err) :=
  ⟨h.valid_block v supplier batch result err, h.written_block v supplier batch result err,
    h.heads_block v supplier batch result err, h.ahead_block v supplier batch result err⟩

private theorem Recorded.append {h : StreamHandler σ} {v : StreamVars}
    {done done' : List (Bytes × RelayResult)} {es es' : List (Event ClientEvent)}
    (hr : h.Recorded v done es) (hr' : h.Recorded (h.varsAfter v done) done' es') :
    h.Recorded v (done ++ done') (es ++ es') := by
  constructor
  · rw [List.filterMap_append, hr.valid, hr'.valid]
  · rw [List.filterMap_append, hr.written, hr'.written, List.map_append]
  · rw [List.filterMap_append, hr.heads, hr'.heads]
    cases done with
    | nil => rfl
    | cons d done =>
      rw [varsAfter, headOf_opened, List.append_nil]
      rfl
  · apply hr.ahead.append _ hr'.ahead
    rw [hr.valid, hr.written, List.length_map]
    omega

/-- Every write went well. -/
def AllSent (es : List (Event ClientEvent)) : Prop :=
  ∀ body err, .client (.write body err) ∈ es → err = none

private theorem allSent_block (v : StreamVars) (supplier : EndpointAddr) (batch : Bytes)
    (result : RelayResult) : AllSent (h.block v supplier batch result none) := by
  intro body err hm
  simp only [block, List.mem_cons, reduceCtorEq, false_or, List.mem_map, List.mem_append,
    Event.client.injEq, exists_eq_right] at hm
  rcases hm with hm | hm
  · exact absurd (h.opening_isHead v result _ hm) (by simp [ClientEvent.isHead])
  · unfold bodyOps at hm
    simp only [List.mem_cons, ClientEvent.write.injEq] at hm
    rcases hm with ⟨-, hm⟩ | hm
    · exact hm
    · split at hm <;> simp at hm

variable {h} {r : Relayer σ} {supplier : EndpointAddr}

/-- The callback's run, by the answer of the writer. -/
private theorem callOnBatch_eq {result : RelayResult} (hst : ValidStatus result)
    {vs vs' : StreamVars × σ} {es : List (Event ClientEvent)}
    {out : Except HandlerPanic (Except Err Unit)}
    (hrun : callOnBatch h.onBatch result vs = (es, vs', out)) :
    ∃ err, (∀ batch, .validate supplier batch (.ok result) :: es =
        h.block vs.1 supplier batch result err) ∧
      vs'.1 = h.opened vs.1 result ∧ out = .ok (writeResult err) := by
  rcases hw : h.write result.body vs.2 with ⟨err, s'⟩
  have hc := h.callOnBatch_run result hst vs.1 vs.2 s' err hw
  rw [hrun] at hc
  simp only [Prod.mk.injEq] at hc
  obtain ⟨rfl, rfl, rfl⟩ := hc
  exact ⟨err, fun _ ↦ rfl, rfl, rfl⟩

omit [GoLib] in
private theorem lift_valid {batch : Bytes} {result : RelayResult} {vs vs' : StreamVars × σ}
    (hst : ∀ supplier batch s result s', r.validator supplier batch s = (.ok result, s') →
      ValidStatus result)
    (hv : (liftRelayer StreamVars r).validator supplier batch vs = (.ok result, vs')) :
    ValidStatus result ∧ vs'.1 = vs.1 := by
  have h1 := congrArg Prod.fst hv
  have h2 : vs.1 = vs'.1 := congrArg (·.2.1) hv
  refine ⟨hst supplier batch vs.2 result (r.validator supplier batch vs.2).2 ?_, ?_⟩
  · exact Prod.ext h1 rfl
  · exact h2.symm

private theorem delivers_recorded
    (hst : ∀ supplier batch s result s', r.validator supplier batch s = (.ok result, s') →
      ValidStatus result)
    {vs vs' : StreamVars × σ} {done : List (Bytes × RelayResult)}
    {es : List (Event ClientEvent)}
    (hd : Delivers ((liftRelayer StreamVars r).validator supplier) supplier
      (callOnBatch h.onBatch) vs done es vs') :
    h.Recorded vs.1 done es ∧ vs'.1 = h.varsAfter vs.1 done ∧ AllSent es := by
  induction hd with
  | nil vs => exact ⟨.silent rfl rfl rfl, rfl, by simp [AllSent]⟩
  | cons batch result valid accepted tail ih =>
    obtain ⟨hrec, hvars, hsent⟩ := ih
    obtain ⟨hvs, hv⟩ := lift_valid hst valid
    obtain ⟨err, hblock, hopen, hout⟩ := @callOnBatch_eq _ _ h supplier _ hvs _ _ _ _ accepted
    have herr : err = none := by
      cases err with
      | none => rfl
      | some e => simp [writeResult] at hout
    subst herr
    rw [hopen, hv] at hrec hvars
    rw [← List.cons_append, hblock batch, hv]
    refine ⟨(Recorded.block h _ supplier batch result none).append hrec, ?_, ?_⟩
    · rw [hvars, varsAfter_opened]
      rfl
    · intro body err hm
      rcases List.mem_append.mp hm with hm | hm
      · exact h.allSent_block _ _ _ _ body err hm
      · exact hsent body err hm

/-- How delivering the batches of a reply ends: without a panic, with a record of the batches
that were handed on, and with nil only when these were all and the reply ended well. -/
private theorem deliverRun_recorded
    (hst : ∀ supplier batch s result s', r.validator supplier batch s = (.ok result, s') →
      ValidStatus result)
    {ending : Except Err Unit} {w : σ} {bs : List Bytes}
    {run : List (Event ClientEvent) × (StreamVars × σ) ×
      Except HandlerPanic (Except Err Unit × Bool)}
    (hrun : DeliverRun ((liftRelayer StreamVars r).validator supplier) supplier
      (callOnBatch h.onBatch) ending false (({} : StreamVars), w) bs run) :
    ∃ done es vs res, run = (es, vs, .ok (res, !done.isEmpty)) ∧ h.Recorded {} done es ∧
      vs.1 = h.varsAfter {} done ∧ done.map Prod.fst <+: bs ∧
      (res = .ok () → ending = .ok () ∧ done.map Prod.fst = bs ∧ AllSent es) := by
  cases hrun with
  | complete done es vs all delivers run_eq =>
    obtain ⟨hrec, hvars, hsent⟩ := delivers_recorded hst delivers
    refine ⟨done, es, vs, ending, by simpa using run_eq, hrec, hvars, ?_, ?_⟩
    · rw [all]
    · intro hend
      exact ⟨hend, all.symm, hsent⟩
  | invalid done batch rest es vs vs' e split delivers failed run_eq =>
    obtain ⟨hrec, hvars, -⟩ := delivers_recorded hst delivers
    have hvs : vs.1 = vs'.1 := congrArg (·.2.1) failed
    have hlast : h.Recorded (h.varsAfter {} done) [] [.validate supplier batch (.error e)] :=
      .silent rfl rfl rfl
    have hfinal := hrec.append hlast
    rw [List.append_nil] at hfinal
    refine ⟨done, _, vs', .error e, by simpa using run_eq, hfinal, ?_, ?_, ?_⟩
    · rw [← hvs, hvars]
    · rw [split]
      exact List.prefix_append _ _
    · intro h
      cases h
  | refused done batch result rest es es' vs vs₁ vs₂ e split delivers valid failed run_eq =>
    obtain ⟨hrec, hvars, -⟩ := delivers_recorded hst delivers
    obtain ⟨hvs, hv⟩ := lift_valid hst valid
    obtain ⟨err, hblock, hopen, -⟩ := @callOnBatch_eq _ _ h supplier _ hvs _ _ _ _ failed
    rw [hv, hvars] at hopen hblock
    have hfinal := hrec.append (Recorded.block h _ supplier batch result err)
    rw [← hblock batch] at hfinal
    have hne : (done ++ [(batch, result)]).isEmpty = false := by simp
    refine ⟨done ++ [(batch, result)], _, vs₂, .error e, by rw [hne]; exact run_eq, hfinal, ?_, ?_,
      ?_⟩
    · rw [hopen]
      cases done with
      | nil => rfl
      | cons d done => exact if_pos (h.opened_wroteHeader _ _)
    · rw [split]
      simp
    · intro h
      cases h
  | panicked done batch result rest es es' vs vs₁ vs₂ p split delivers valid failed run_eq =>
    obtain ⟨hvs, -⟩ := lift_valid hst valid
    obtain ⟨err, -, -, hout⟩ := @callOnBatch_eq _ _ h supplier _ hvs _ _ _ _ failed
    cases hout

end StreamHandler

/-! ### Runs of the handler -/

section Faithful

variable {σ : Type} [GoLib] (h : StreamHandler σ)

/-- A reply that came back from sending to an endpoint what had been signed for it. -/
def CameFrom (input : RelayInput) (ep : Endpoint) (reply : Reply)
    (es : List (Event ClientEvent)) : Prop :=
  ∃ session url relayReq, ep.url h.rpcType = some url ∧
    .sign session ep h.rpcType input (.ok relayReq) ∈ es ∧
    .sendStream url relayReq h.rpcType (.ok reply) ∈ es

/-- A client was given what one supplier said, from `p.batches` on, and nothing else. -/
structure Faithful (supplier : EndpointAddr) (p : Plan) (es : List (Event ClientEvent))
    (out : Except HandlerPanic Unit) : Prop where
  verified : ∀ pre, pre <+: es → ∃ done, done <+: pre.filterMap Event.valid? ∧
    done.map Prod.fst <+: p.batches ∧ pre.filterMap written? = done.map (·.2.body)
  oneSupplier : ∀ supplier' batch result,
    .validate supplier' batch (.ok result) ∈ es → supplier' = supplier
  headed : ∃ first rest, es.filterMap Event.valid? = first :: rest ∧
    (es.filterMap headOp? = h.head first.2 ∨
      es.filterMap headOp? = h.head first.2 ++ writeGRPCTrailers (h.split first.2).2)
  committed : ∀ pre result post, es = pre ++ .onBatch result :: post →
    ∀ ev ∈ post, isContact ev = false
  complete : out = .ok () → p.ending = .ok () ∧ es.filterMap written? =
    (es.filterMap Event.valid?).map (·.2.body) ∧
    (es.filterMap Event.valid?).map Prod.fst = p.batches ∧ StreamHandler.AllSent es
  aborted : out ≠ .ok () → out = .error .abortHandler

/-- No batch was handed on: nothing of a supplier was written, and the client was told so,
unless a reply carried nothing to begin with. -/
structure Undelivered (es : List (Event ClientEvent)) (out : Except HandlerPanic Unit) : Prop where
  silent : ∀ result, .onBatch result ∉ es
  unwritten : es.filterMap written? = []
  returned : out = .ok ()
  refused : (∃ text, .client (.error text 502) ∈ es) ∨
    ∃ url relayReq t reply, .sendStream url relayReq t (.ok reply) ∈ es ∧ reply.Blank

/-! ### Leaving out the reads -/

/-- A record without its reads. -/
def withoutReads (es : List (Event ClientEvent)) : List (Event ClientEvent) :=
  es.filter (fun e ↦ !e.isRead)

omit [GoLib] in
/-- What does not look at reads sees the same without them. -/
theorem filterMap_withoutReads {α : Type} (f : Event ClientEvent → Option α)
    (hf : ∀ c, f (.read c) = none) (es : List (Event ClientEvent)) :
    (withoutReads es).filterMap f = es.filterMap f := by
  rw [withoutReads, List.filterMap_filter]
  congr 1
  funext e
  cases e with
  | read c => simp [Event.isRead, hf]
  | _ => rfl

omit [GoLib] in
private theorem mem_withoutReads {ev : Event ClientEvent} {es : List (Event ClientEvent)}
    (h : ev ∈ withoutReads es) : ev ∈ es := (List.mem_filter.mp h).1

omit [GoLib] in
private theorem mem_withoutReads_of {ev : Event ClientEvent} {es : List (Event ClientEvent)}
    (h : ev ∈ es) (hr : ev.isRead = false) : ev ∈ withoutReads es :=
  List.mem_filter.mpr ⟨h, by simp [hr]⟩

private theorem Undelivered.of_withoutReads {es : List (Event ClientEvent)}
    {out : Except HandlerPanic Unit} (hu : Undelivered (withoutReads es) out) :
    Undelivered es out := by
  constructor
  · intro result hm
    exact hu.silent result (mem_withoutReads_of hm rfl)
  · rw [← filterMap_withoutReads written? (fun _ ↦ rfl)]
    exact hu.unwritten
  · exact hu.returned
  · rcases hu.refused with ⟨text, hm⟩ | ⟨url, relayReq, t, reply, hm, hb⟩
    · exact .inl ⟨text, mem_withoutReads hm⟩
    · exact .inr ⟨url, relayReq, t, reply, mem_withoutReads hm, hb⟩

variable {h} in
private theorem Faithful.of_withoutReads {supplier : EndpointAddr} {p : Plan}
    {es : List (Event ClientEvent)} {out : Except HandlerPanic Unit}
    (hf : Faithful h supplier p (withoutReads es) out) : Faithful h supplier p es out := by
  have hv := filterMap_withoutReads Event.valid? (fun _ ↦ rfl)
  have hw := filterMap_withoutReads written? (fun _ ↦ rfl)
  have hh := filterMap_withoutReads headOp? (fun _ ↦ rfl)
  constructor
  · intro pre hpre
    have := hf.verified (withoutReads pre) (hpre.filter _)
    rwa [hv, hw] at this
  · intro supplier' batch result hm
    exact hf.oneSupplier supplier' batch result (mem_withoutReads_of hm rfl)
  · have := hf.headed
    rwa [hv, hh] at this
  · intro pre result post heq ev hev
    cases hc : isContact ev with
    | false => rfl
    | true =>
      have hr : ev.isRead = false := by cases ev <;> first | rfl | cases hc
      have hsplit : withoutReads es = withoutReads pre ++ .onBatch result :: withoutReads post := by
        rw [heq, withoutReads, List.filter_append, List.filter_cons_of_pos rfl]
        rfl
      rw [← hc]
      exact hf.committed _ result _ hsplit ev (mem_withoutReads_of hev hr)
  · have := hf.complete
    rw [hv, hw] at this
    intro hout
    obtain ⟨h1, h2, h3, h4⟩ := this hout
    exact ⟨h1, h2, h3, fun body err hm ↦ h4 body err (mem_withoutReads_of hm rfl)⟩
  · exact hf.aborted

/-! ### Assembling a run -/

/-- How the handler ends, by the relay's answer. -/
def closing (v : StreamVars) : Except Err Unit →
    List (Event ClientEvent) × Except HandlerPanic Unit
  | .error e =>
    if v.wroteHeader then ([], .error .abortHandler)
    else ([.client (.error ("relay failed: " ++ e.message) 502)], .ok ())
  | .ok () => ((writeGRPCTrailers v.grpcTrailers).map .client, .ok ())

omit [GoLib] in
private theorem finishServe_run (res : Except Err Unit) (vs : StreamVars × σ) :
    Exec.hide Event.isRead (StreamHandler.finishServe res) vs =
      ((closing vs.1 res).1, vs, (closing vs.1 res).2) := by
  unfold StreamHandler.finishServe
  rw [Exec.hide_bind, Exec.bind_run_ok (show Exec.hide Event.isRead (Exec.peek Prod.fst) vs =
    ([], vs, .ok vs.1) from rfl)]
  cases res with
  | error e => cases hv : vs.1.wroteHeader <;> simp [closing, hv, Exec.hide, Exec.emit, Exec.throw,
      Event.isRead]
  | ok u => simp [closing, Exec.hide, Exec.emitAll, Event.isRead, List.filter_map,
      Function.comp_def]

/-- `serveStream` is the relay and what is done once it is over. -/
theorem serveStream_hidden (r : Relayer σ) (ctx : Context) (input : RelayInput) (s : σ)
    {es : List (Event ClientEvent)} {vs : StreamVars × σ} {res : Except Err Unit}
    (hX : Exec.hide Event.isRead ((liftRelayer StreamVars r).relayStream ctx h.serviceID h.rpcType
      input h.onBatch) ({}, s) = (es, vs, .ok res)) :
    withoutReads ((h.serveStream r ctx input).events s) = es ++ (closing vs.1 res).1 ∧
      (h.serveStream r ctx input).outcome s = (closing vs.1 res).2 := by
  have hY : Exec.hide Event.isRead ((liftRelayer StreamVars r).relayStream ctx h.serviceID
      h.rpcType input h.onBatch >>= StreamHandler.finishServe) ({}, s) =
      (es ++ (closing vs.1 res).1, vs, (closing vs.1 res).2) := by
    rw [Exec.hide_bind, Exec.bind_run_ok hX, finishServe_run]
  have hS : Exec.hide Event.isRead (h.serveStream r ctx input) s =
      (es ++ (closing vs.1 res).1, vs.2, (closing vs.1 res).2) := by
    unfold StreamHandler.serveStream
    rw [Exec.hide_bind, Exec.hide_withVar]
    rcases hc : (closing vs.1 res).2 with p | u
    · rw [hc] at hY
      have hW := congrArg (fun y ↦ (y.1, y.2.1.2, y.2.2.map (fun a ↦ (a, y.2.1.1)))) hY
      exact Exec.bind_run_error hW _
    · rw [hc] at hY
      have hW := congrArg (fun y ↦ (y.1, y.2.1.2, y.2.2.map (fun a ↦ (a, y.2.1.1)))) hY
      refine Eq.trans (Exec.bind_run_ok hW _) ?_
      simp [Exec.hide_pure, Exec.pure_run]
  exact ⟨congrArg Prod.fst hS, congrArg (·.2.2) hS⟩

/-- A panic of the callback ends the handler. -/
theorem serveStream_panicked (r : Relayer σ) (ctx : Context) (input : RelayInput) (s : σ)
    {es : List (Event ClientEvent)} {vs : StreamVars × σ} {p : HandlerPanic}
    (hX : Exec.hide Event.isRead ((liftRelayer StreamVars r).relayStream ctx h.serviceID h.rpcType
      input h.onBatch) ({}, s) = (es, vs, .error p)) :
    withoutReads ((h.serveStream r ctx input).events s) = es ∧
      (h.serveStream r ctx input).outcome s = .error p := by
  have hY : Exec.hide Event.isRead ((liftRelayer StreamVars r).relayStream ctx h.serviceID
      h.rpcType input h.onBatch >>= StreamHandler.finishServe) ({}, s) = (es, vs, .error p) := by
    rw [Exec.hide_bind, Exec.bind_run_error hX]
  have hW := congrArg (fun y ↦ (y.1, y.2.1.2, y.2.2.map (fun a ↦ (a, y.2.1.1)))) hY
  have hS : Exec.hide Event.isRead (h.serveStream r ctx input) s = (es, vs.2, .error p) := by
    unfold StreamHandler.serveStream
    rw [Exec.hide_bind, Exec.hide_withVar]
    exact Exec.bind_run_error hW _
  exact ⟨congrArg Prod.fst hS, congrArg (·.2.2) hS⟩

/-- Calls that have no part in what a client is given. -/
def Inert : Event ClientEvent → Prop
  | .validate _ _ (.ok _) => False
  | .onBatch _ => False
  | .client _ => False
  | _ => True

omit [GoLib] in
/-- An attempt without a batch writes nothing. -/
theorem inert_of_fruitless {ev : Event ClientEvent} (hf : ev.Fruitless) : Inert ev := by
  cases ev with
  | validate supplier batch result => cases result <;> exact hf
  | onBatch result => exact hf
  | client e => exact hf
  | _ => trivial

omit [GoLib] in
/-- Closing and reporting write nothing. -/
theorem inert_of_tail {ev : Event ClientEvent}
    (hev : ev = .close ∨ ∃ s o, ev = .observe s o) : Inert ev := by
  rcases hev with rfl | ⟨s, o, rfl⟩
  · trivial
  · trivial

omit [GoLib] in
/-- Nothing is seen of calls that write nothing. -/
theorem filterMap_inert {α : Type} (f : Event ClientEvent → Option α)
    (hf : ∀ ev, Inert ev → f ev = none) {es : List (Event ClientEvent)} (h : ∀ ev ∈ es, Inert ev) :
    es.filterMap f = [] :=
  List.filterMap_eq_nil_iff.mpr (fun ev hev ↦ hf ev (h ev hev))

omit [GoLib] in
/-- A call that writes nothing finds no batch valid. -/
theorem inert_valid (ev : Event ClientEvent) (h : Inert ev) : ev.valid? = none := by
  cases ev with
  | validate supplier batch result =>
    cases result with
    | error e => rfl
    | ok result => exact h.elim
  | _ => rfl

omit [GoLib] in
private theorem inert_client (ev : Event ClientEvent) (h : Inert ev) :
    written? ev = none ∧ headOp? ev = none := by
  cases ev with
  | client e => exact h.elim
  | _ => exact ⟨rfl, rfl⟩

variable {h}

private theorem recorded_inert {v : StreamVars} {es : List (Event ClientEvent)}
    (hes : ∀ ev ∈ es, Inert ev) : h.Recorded v [] es :=
  .silent (filterMap_inert _ inert_valid hes)
    (filterMap_inert _ (fun ev he ↦ (inert_client ev he).1) hes)
    (filterMap_inert _ (fun ev he ↦ (inert_client ev he).2) hes)

omit [GoLib] in
/-- When never more was written than found valid, what was written so far are the first
batches found valid so far. -/
private theorem exists_done_of_ahead {es pre : List (Event ClientEvent)} (ha : Ahead 0 es)
    (hw : es.filterMap written? = (es.filterMap Event.valid?).map (·.2.body)) (hpre : pre <+: es) :
    ∃ done, done <+: pre.filterMap Event.valid? ∧
      pre.filterMap written? = done.map (·.2.body) := by
  have hlen := ha pre hpre
  rw [Nat.zero_add] at hlen
  refine ⟨(pre.filterMap Event.valid?).take (pre.filterMap written?).length,
    List.take_prefix _ _, ?_⟩
  have h1 := List.prefix_iff_eq_take.mp (hpre.filterMap written?)
  have h2 := List.prefix_iff_eq_take.mp (hpre.filterMap Event.valid?)
  rw [h2, List.take_take, Nat.min_eq_left hlen, List.map_take, ← hw]
  exact h1

omit [GoLib] in
private theorem trailers_isHead (trailers : Header) :
    ∀ e ∈ writeGRPCTrailers trailers, e.isHead = true := by
  intro e he
  simp only [writeGRPCTrailers, List.mem_flatMap, List.mem_map] at he
  obtain ⟨kv, -, v, -, rfl⟩ := he
  rfl

omit [GoLib] in
/-- Once the head is out, the handler adds trailers or aborts. -/
theorem closing_of_wroteHeader {v : StreamVars} (hv : v.wroteHeader = true)
    (res : Except Err Unit) :
    ∃ cs : List ClientEvent, (∀ e ∈ cs, e.isHead = true) ∧ (closing v res).1 = cs.map .client ∧
      ((res = .ok () ∧ (closing v res).2 = .ok () ∧ cs = writeGRPCTrailers v.grpcTrailers) ∨
        ((closing v res).2 = .error .abortHandler ∧ cs = [])) := by
  cases res with
  | error e => exact ⟨[], by simp, by simp [closing, hv], .inr ⟨by simp [closing, hv], rfl⟩⟩
  | ok u => exact ⟨_, trailers_isHead _, rfl, .inl ⟨rfl, rfl, rfl⟩⟩

/-- What follows a record and has a part in the head only. -/
private theorem recorded_heads {v : StreamVars} {done : List (Bytes × RelayResult)}
    {es : List (Event ClientEvent)} (hrec : h.Recorded v done es) {cs : List ClientEvent}
    (hcs : ∀ e ∈ cs, e.isHead = true) :
    (es ++ cs.map Event.client).filterMap Event.valid? = done ∧
      (es ++ cs.map Event.client).filterMap written? = done.map (·.2.body) ∧
      (es ++ cs.map Event.client).filterMap headOp? = h.headOf v done ++ cs ∧
      Ahead 0 (es ++ cs.map Event.client) := by
  refine ⟨?_, ?_, ?_, ?_⟩
  · rw [List.filterMap_append, hrec.valid, valid_of_client, List.append_nil]
  · rw [List.filterMap_append, hrec.written, written_of_heads cs hcs, List.append_nil]
  · rw [List.filterMap_append, hrec.heads, heads_of_client cs hcs]
  · apply hrec.ahead.append _ (ahead_of_unwritten (written_of_heads cs hcs))
    · exact 0
    · rw [hrec.valid, hrec.written, List.length_map]
      omega

omit [GoLib] in
private theorem delivery_no_contact {supplier : EndpointAddr} {ev : Event ClientEvent}
    (hd : ev.IsDelivery supplier) : isContact ev = false := by
  cases ev <;> first | rfl | exact hd.elim

/-- The record of a run that handed batches on, up to how the handler ends. -/
private theorem faithful_of_recorded {supplier : EndpointAddr} {p : Plan}
    {lead ds tail : List (Event ClientEvent)} {done : List (Bytes × RelayResult)}
    {res : Except Err Unit} (hlead : ∀ ev ∈ lead, Inert ev) (hrec : h.Recorded {} done ds)
    (hds : ∀ ev ∈ ds, ev.IsDelivery supplier)
    (htail : ∀ ev ∈ tail, ev = .close ∨ ∃ s o, ev = .observe s o) (hne : done ≠ [])
    (hbs : done.map Prod.fst <+: p.batches)
    (hok : res = .ok () → p.ending = .ok () ∧ done.map Prod.fst = p.batches ∧
      StreamHandler.AllSent ds) :
    Faithful h supplier p (lead ++ (ds ++ tail) ++ (closing (h.varsAfter {} done) res).1)
      (closing (h.varsAfter {} done) res).2 := by
  obtain ⟨first, rest, rfl⟩ := List.exists_cons_of_ne_nil hne
  have hinert : ∀ ev ∈ tail, Inert ev := fun ev hev ↦ inert_of_tail (htail ev hev)
  have hbody : h.Recorded {} (first :: rest) (lead ++ (ds ++ tail)) := by
    have hx := (recorded_inert (h := h) (v := {}) hlead).append
      (hrec.append (recorded_inert hinert))
    rwa [List.append_nil] at hx
  have hopened : (h.varsAfter {} (first :: rest)).wroteHeader = true :=
    h.opened_wroteHeader {} first.2
  obtain ⟨cs, hcs, hclose, hend⟩ := closing_of_wroteHeader hopened res
  obtain ⟨hvalid, hwritten, hheads, hahead⟩ := recorded_heads hbody hcs
  rw [hclose]
  generalize (closing (h.varsAfter {} (first :: rest)) res).2 = out at hend ⊢
  generalize hes : lead ++ (ds ++ tail) ++ cs.map Event.client = es at hvalid hwritten hheads hahead ⊢
  have hmem (ev : Event ClientEvent) (hev : ev ∈ es) :
      ev ∈ lead ∨ ev ∈ ds ∨ ev ∈ tail ∨ ∃ c ∈ cs, ev = .client c := by
    rw [← hes] at hev
    simp only [List.mem_append, List.mem_map] at hev
    rcases hev with (hev | hev | hev) | ⟨c, hc, rfl⟩
    · exact .inl hev
    · exact .inr (.inl hev)
    · exact .inr (.inr (.inl hev))
    · exact .inr (.inr (.inr ⟨c, hc, rfl⟩))
  constructor
  · intro pre hpre
    obtain ⟨done, hd, hw⟩ := exists_done_of_ahead hahead (by rw [hvalid, hwritten]) hpre
    refine ⟨done, hd, ?_, hw⟩
    have hfull := hd.trans (hpre.filterMap Event.valid?)
    rw [hvalid] at hfull
    exact (hfull.map Prod.fst).trans hbs
  · intro supplier' batch result hm
    rcases hmem _ hm with hm | hm | hm | ⟨c, -, hm⟩
    · exact (hlead _ hm).elim
    · exact hds _ hm
    · exact (hinert _ hm).elim
    · cases hm
  · refine ⟨first, rest, hvalid, ?_⟩
    rw [hheads]
    rcases hend with ⟨-, -, rfl⟩ | ⟨-, rfl⟩
    · exact .inr rfl
    · exact .inl (List.append_nil _)
  · intro pre result post hsplit ev hev
    rw [← hes, List.append_assoc] at hsplit
    obtain ⟨l, -, hl⟩ := exists_of_append_eq_append_cons hsplit (fun hm ↦ hlead _ hm)
    have hin : ev ∈ ds ++ tail ++ cs.map .client := by
      rw [hl]
      exact List.mem_append_right _ (List.mem_cons_of_mem _ hev)
    simp only [List.mem_append, List.mem_map] at hin
    rcases hin with (hin | hin) | ⟨c, -, rfl⟩
    · exact delivery_no_contact (hds ev hin)
    · rcases htail ev hin with rfl | ⟨s, o, rfl⟩
      · rfl
      · rfl
    · rfl
  · intro hout
    rcases hend with ⟨hres, -, -⟩ | ⟨hc, -⟩
    · obtain ⟨hended, hall, hsent⟩ := hok hres
      refine ⟨hended, by rw [hvalid, hwritten], by rw [hvalid]; exact hall, ?_⟩
      intro body err hm
      rcases hmem _ hm with hm | hm | hm | ⟨c, hc, hm⟩
      · exact (hlead _ hm).elim
      · exact hsent body err hm
      · exact (hinert _ hm).elim
      · cases hm
        cases hcs _ hc
    · rw [hout] at hc
      cases hc
  · intro hout
    rcases hend with ⟨-, hc, -⟩ | ⟨hc, -⟩
    · exact absurd hc hout
    · exact hc

private theorem undelivered_of_inert {es : List (Event ClientEvent)} {v : StreamVars}
    (hv : v.wroteHeader = false) (hes : ∀ ev ∈ es, Inert ev) (e : Err) :
    Undelivered (es ++ (closing v (.error e)).1) (closing v (.error e)).2 := by
  simp only [closing, hv, Bool.false_eq_true, if_false]
  constructor
  · intro result hm
    rcases List.mem_append.mp hm with hm | hm
    · exact hes _ hm
    · simp at hm
  · rw [List.filterMap_append, filterMap_inert _ (fun ev he ↦ (inert_client ev he).1) hes]
    rfl
  · rfl
  · exact .inl ⟨_, List.mem_append_right _ (List.mem_singleton.mpr rfl)⟩

private theorem undelivered_of_blank {es : List (Event ClientEvent)} (hes : ∀ ev ∈ es, Inert ev)
    (hblank : ∃ url relayReq t reply, .sendStream url relayReq t (.ok reply) ∈ es ∧ reply.Blank) :
    Undelivered (es ++ (closing {} (.ok ())).1) (closing {} (.ok ())).2 := by
  have hnothing : (closing {} (.ok ())).1 = [] := rfl
  rw [hnothing, List.append_nil]
  exact ⟨fun _ hm ↦ hes _ hm, filterMap_inert _ (fun ev he ↦ (inert_client ev he).1) hes, rfl,
    .inr hblank⟩

omit [GoLib] in
/-- Suppliers do not touch the handler's variables. -/
theorem liftRelayer_keeps (r : Relayer σ) (v : StreamVars) :
    (liftRelayer StreamVars r).Keeps (fun vs ↦ vs.1 = v) := by
  constructor
  · intro serviceID vs hvs
    exact hvs
  · intro session ep rpcType input vs hvs
    exact hvs
  · intro supplier batch vs hvs
    exact hvs
  · intro ctx serviceID endpoints rpcType vs hvs
    exact hvs
  · intro f hf supplier outcome vs hvs
    obtain ⟨g, -, rfl⟩ := Option.map_eq_some_iff.mp hf
    exact hvs
  · intro url relayReq rpcType vs hvs
    exact hvs
  · intro f hf url relayReq rpcType vs hvs
    obtain ⟨g, -, rfl⟩ := Option.map_eq_some_iff.mp hf
    exact hvs

variable {r : Relayer σ} {input : RelayInput}

omit [GoLib] in
/-- Reporting does not touch the handler's variables. -/
theorem afterObserve_vars (serviceID : ServiceID) (rpcType : RPCType)
    (supplier : EndpointAddr) (success : Bool) (err : Option Err) (vs : StreamVars × σ) :
    ((liftRelayer StreamVars r).afterObserve serviceID rpcType supplier success err vs).1 = vs.1 :=
  (liftRelayer_keeps r vs.1).afterObserve serviceID rpcType supplier success err vs rfl

omit [GoLib] in
/-- After a delivery the body is closed and the outcome reported. -/
theorem observed_tail (serviceID : ServiceID) (rpcType : RPCType)
    (supplier : EndpointAddr) (success : Bool) (err : Option Err) :
    ∀ ev ∈ (.close :: (liftRelayer StreamVars r).observed serviceID rpcType supplier success err :
      List (Event ClientEvent)), ev = .close ∨ ∃ s o, ev = .observe s o := by
  intro ev hev
  rcases List.mem_cons.mp hev with rfl | hev
  · exact .inl rfl
  · unfold Relayer.observed at hev
    split at hev
    · cases hev
    · cases List.mem_singleton.mp hev
      exact .inr ⟨_, _, rfl⟩

/-- What the attempt that ends a run can do, on a handler that has answered nothing yet. -/
inductive LastAttempt (h : StreamHandler σ) (r : Relayer σ) (input : RelayInput) (session : Session)
    (ep : Endpoint) (final : List (Event ClientEvent)) (vs' : StreamVars × σ)
    (out : Except HandlerPanic (Except Err Unit)) : Prop where
  | unsigned (e : Err) (final_eq : final = [.sign session ep h.rpcType input (.error e)])
      (out_eq : out = .ok (.error (.errorf "relay: sign failed: " e))) (vars : vs'.1 = {})
  | consumed (url : String) (relayReq : Bytes) (reply : Reply) (w : σ)
      (batches : List (Event ClientEvent) × (StreamVars × σ) ×
        Except HandlerPanic (Except Err Unit × Bool))
      (found : ep.url h.rpcType = some url)
      (delivery : DeliverRun ((liftRelayer StreamVars r).validator ep.supplier) ep.supplier
        (callOnBatch h.onBatch) (plan ep.supplier reply.body reply.header).ending false
        (({} : StreamVars), w) (plan ep.supplier reply.body reply.header).batches batches)
      (run_eq : (final, vs', out.map Attempt.finish) =
        ([.sign session ep h.rpcType input (.ok relayReq),
          .sendStream url relayReq h.rpcType (.ok reply)] ++
          ((liftRelayer StreamVars r).afterDelivery h.serviceID h.rpcType ep.supplier batches).1,
        ((liftRelayer StreamVars r).afterDelivery h.serviceID h.rpcType ep.supplier batches).2))

/-- The attempt whose batches reached the handler is the last one. -/
theorem lastAttempt_of_attemptRun
    {sendStream : String → Bytes → RPCType → Seam (StreamVars × σ) (Except Err Reply)}
    (hsend : (liftRelayer StreamVars r).streamSender = some sendStream)
    {session : Session} {ep : Endpoint} {vs₀ vs' : StreamVars × σ}
    {final : List (Event ClientEvent)} {out : Except HandlerPanic (Except Err Unit)}
    (kept : vs₀.1 = {})
    (attempt : (liftRelayer StreamVars r).AttemptRun h.serviceID h.rpcType sendStream input
      h.onBatch session ep vs₀ (final, vs', out.map .finish)) :
    LastAttempt h r input session ep final vs' out := by
  have hkeeps := liftRelayer_keeps r {}
  have hsigner := hkeeps.signer session ep h.rpcType input vs₀ kept
  cases attempt with
  | noURL absent run_eq => cases out <;> simp [Except.map] at run_eq
  | unsent url relayReq e vs₁ vs₂ found signed sent run_eq =>
    cases out <;> simp [Except.map] at run_eq
  | unsigned url e vs₁ found signed run_eq =>
    rw [signed] at hsigner
    cases out with
    | error p => simp [Except.map] at run_eq
    | ok res =>
      cases run_eq
      exact .unsigned e rfl rfl hsigner
  | consumed url relayReq reply vs₁ vs₂ batches found signed sent delivery run_eq =>
    rw [signed] at hsigner
    have hsender := hkeeps.streamSender sendStream hsend url relayReq h.rpcType vs₁ hsigner
    rw [sent] at hsender
    obtain ⟨v, w⟩ := vs₂
    cases hsender
    exact .consumed url relayReq reply w batches found delivery run_eq

omit [GoLib] in
/-- Signing and sending write nothing. -/
theorem inert_lead {es : List (Event ClientEvent)} (before : ∀ ev ∈ es, Inert ev) (session : Session)
    (ep : Endpoint) (rpcType : RPCType) (input : RelayInput) (url : String) (relayReq : Bytes)
    (reply : Reply) :
    ∀ ev ∈ es ++ [.sign session ep rpcType input (.ok relayReq),
      .sendStream url relayReq rpcType (.ok reply)], Inert ev := by
  simp only [List.forall_mem_append, List.forall_mem_cons]
  exact ⟨before, trivial, trivial, by simp⟩

/-- How a run ends with its last attempt: a client was given nothing, or one supplier's
batches. -/
private theorem attempt_served
    (hst : ∀ supplier batch s result s', r.validator supplier batch s = (.ok result, s') →
      ValidStatus result)
    {session : Session} {ep : Endpoint} {vs' : StreamVars × σ}
    {es final : List (Event ClientEvent)} {out : Except HandlerPanic (Except Err Unit)}
    (before : ∀ ev ∈ es, Inert ev) (attempt : LastAttempt h r input session ep final vs' out) :
    ∃ res, out = .ok res ∧
      (Undelivered (es ++ final ++ (closing vs'.1 res).1) (closing vs'.1 res).2 ∨
        ∃ reply, CameFrom h input ep reply final ∧
          Faithful h ep.supplier (plan ep.supplier reply.body reply.header)
            (es ++ final ++ (closing vs'.1 res).1) (closing vs'.1 res).2) := by
  cases attempt with
  | unsigned e final_eq out_eq vars =>
    subst final_eq
    refine ⟨_, out_eq, .inl (undelivered_of_inert (by rw [vars]) ?_ _)⟩
    exact List.forall_mem_append.mpr ⟨before, by simp [Inert]⟩
  | consumed url relayReq reply w batches found delivery run_eq =>
    have hds := delivery.delivery
    obtain ⟨done, ds, vs, res, rfl, hrec, hvars, hbs, hok⟩ :=
      StreamHandler.deliverRun_recorded hst delivery
    have hlead := inert_lead before session ep h.rpcType input url relayReq reply
    -- Whatever the end, the batches handed on are followed by closing the body and observing.
    have hserved (success : Bool) (err : Option Err) (res' : Except Err Unit)
        (hres : res' = .ok () → res = .ok ()) (hne : done ≠ []) :
        Faithful h ep.supplier (plan ep.supplier reply.body reply.header)
          (es ++ ([.sign session ep h.rpcType input (.ok relayReq),
            .sendStream url relayReq h.rpcType (.ok reply)] ++ (ds ++ .close ::
              (liftRelayer StreamVars r).observed h.serviceID h.rpcType ep.supplier success err)) ++
            (closing (h.varsAfter {} done) res').1) (closing (h.varsAfter {} done) res').2 := by
      rw [← List.append_assoc es]
      exact faithful_of_recorded hlead hrec hds (observed_tail _ _ _ success err) hne hbs
        (fun hr ↦ hok (hres hr))
    cases res with
    | error e =>
      by_cases hne : done = []
      · subst hne
        cases out <;> simp [Relayer.afterDelivery, Except.map] at run_eq
      · have hb : done.isEmpty = false := by simpa using hne
        cases out with
        | error p => simp [Relayer.afterDelivery, Except.map] at run_eq
        | ok res' =>
          simp only [Relayer.afterDelivery, hb, Bool.not_false, if_true, Except.map,
            Prod.mk.injEq, Except.ok.injEq, Attempt.finish.injEq] at run_eq
          obtain ⟨rfl, rfl, rfl⟩ := run_eq
          refine ⟨_, rfl, .inr ⟨reply, ⟨session, url, relayReq, found, by simp, by simp⟩, ?_⟩⟩
          rw [afterObserve_vars, hvars]
          exact hserved false (some e) _ (by simp) hne
    | ok u =>
      cases out with
      | error p => simp [Relayer.afterDelivery, Except.map] at run_eq
      | ok res' =>
        simp only [Relayer.afterDelivery, Except.map, Prod.mk.injEq, Except.ok.injEq,
          Attempt.finish.injEq] at run_eq
        obtain ⟨rfl, rfl, rfl⟩ := run_eq
        refine ⟨_, rfl, ?_⟩
        rw [afterObserve_vars, hvars]
        by_cases hne : done = []
        · subst hne
          obtain ⟨hend, hall, -⟩ := hok rfl
          rw [← hall] at delivery
          obtain rfl : ds = [] := congrArg Prod.fst delivery.of_nil
          rw [← List.append_assoc es, List.nil_append]
          refine .inl (undelivered_of_blank ?_
            ⟨url, relayReq, h.rpcType, reply, by simp,
              (plan_blank_iff ep.supplier reply).mp ⟨hall.symm, hend⟩⟩)
          exact List.forall_mem_append.mpr ⟨hlead, fun ev hev ↦
            inert_of_tail (observed_tail _ _ _ _ _ ev hev)⟩
        · exact .inr ⟨reply, ⟨session, url, relayReq, found, by simp, by simp⟩,
            hserved true none _ (fun _ ↦ rfl) hne⟩

/-- Without a sender of streams there is nothing but an error. -/
theorem relayStream_of_no_sender (hsend : (liftRelayer StreamVars r).streamSender = none)
    (ctx : Context) (s : StreamVars × σ) :
    Exec.hide Event.isRead ((liftRelayer StreamVars r).relayStream ctx h.serviceID h.rpcType input
      h.onBatch) s = ([], s, .ok (.error (.text "relay: RelayStream needs a StreamSender"))) := by
  simp only [Relayer.relayStream, hsend]
  rfl

/-- A client is never given a spliced, unverified or silently truncated answer. -/
theorem serveStream_faithful (h : StreamHandler σ) (r : Relayer σ) (ctx : Context)
    (input : RelayInput) (s : σ)
    (hst : ∀ supplier batch s result s', r.validator supplier batch s = (.ok result, s') →
      ValidStatus result) :
    Undelivered ((h.serveStream r ctx input).events s) ((h.serveStream r ctx input).outcome s) ∨
      ∃ ep reply, CameFrom h input ep reply ((h.serveStream r ctx input).events s) ∧
        Faithful h ep.supplier (plan ep.supplier reply.body reply.header)
          ((h.serveStream r ctx input).events s) ((h.serveStream r ctx input).outcome s) := by
  cases hsend : (liftRelayer StreamVars r).streamSender with
  | none =>
    obtain ⟨hes, hout⟩ := serveStream_hidden h r ctx input s
      (relayStream_of_no_sender hsend ctx ({}, s))
    left
    apply Undelivered.of_withoutReads
    rw [hes, hout]
    exact undelivered_of_inert rfl (by simp) _
  | some sendStream =>
    cases relayStream_run (liftRelayer StreamVars r) sendStream h.serviceID h.rpcType input
      h.onBatch ctx hsend (fun vs ↦ vs.1 = {}) (liftRelayer_keeps r {}) ({}, s) rfl with
    | failed es vs' e before kept run_eq =>
      obtain ⟨hes, hout⟩ := serveStream_hidden h r ctx input s run_eq
      left
      apply Undelivered.of_withoutReads
      rw [hes, hout]
      exact undelivered_of_inert (by rw [kept])
        (fun ev hev ↦ inert_of_fruitless (before.1 ev hev)) e
    | ended session ep es final vs₀ vs' out before kept attempt run_eq =>
      obtain ⟨res, rfl, hserved⟩ := attempt_served hst
        (fun ev hev ↦ inert_of_fruitless (before.1 ev hev))
        (lastAttempt_of_attemptRun hsend kept attempt)
      obtain ⟨hes, hout⟩ := serveStream_hidden h r ctx input s run_eq
      rw [← hes, ← hout] at hserved
      rcases hserved with hu | ⟨reply, hcame, hf⟩
      · exact .inl hu.of_withoutReads
      · right
        refine ⟨ep, reply, ?_, hf.of_withoutReads⟩
        obtain ⟨session', url, relayReq, hurl, hs, hd⟩ := hcame
        have hin (ev : Event ClientEvent) (hev : ev ∈ final) :
            ev ∈ (h.serveStream r ctx input).events s := by
          apply mem_withoutReads
          rw [hes]
          exact List.mem_append_left _ (List.mem_append_right _ hev)
        exact ⟨session', url, relayReq, hurl, hin _ hs, hin _ hd⟩

end Faithful

/-- A handler whose client accepts everything. -/
def plainHandler : StreamHandler Unit where
  serviceID := "eth"
  rpcType := .jsonRPC
  write _ := fun s ↦ (none, s)
  canFlush := true
  request := ⟨"POST", []⟩
  origin := ""

/-- One supplier that streams two batches. -/
def streamingRelayer : Relayer Unit :=
  .scripted [⟨"pokt1a", fun _ ↦ some "https://a"⟩] (fun _ ↦ .ok
    ⟨.more (1 :: streamDelimiter.symbols) (.final [2] .eof),
      [("Content-Type", ["text/event-stream"])], 200⟩)

/-- A stream of two batches reaches the client as two. -/
theorem serveStream_faithful_streaming :
    ∃ ep reply, CameFrom plainHandler ⟨"POST", "/", [], []⟩ ep reply
        ((@StreamHandler.serveStream Unit GoLib.plain plainHandler streamingRelayer {}
          ⟨"POST", "/", [], []⟩).events ()) ∧
      @Faithful Unit GoLib.plain plainHandler ep.supplier
        (@plan GoLib.plain ep.supplier reply.body reply.header)
        ((@StreamHandler.serveStream Unit GoLib.plain plainHandler streamingRelayer {}
          ⟨"POST", "/", [], []⟩).events ())
        ((@StreamHandler.serveStream Unit GoLib.plain plainHandler streamingRelayer {}
          ⟨"POST", "/", [], []⟩).outcome ()) := by
  rcases @serveStream_faithful Unit GoLib.plain plainHandler streamingRelayer {}
    ⟨"POST", "/", [], []⟩ () (by
      intro supplier batch s result s' hv
      cases hv
      exact Or.inr ⟨by simp, by simp⟩) with hu | hf
  · have hw : ((@StreamHandler.serveStream Unit GoLib.plain plainHandler streamingRelayer {}
        ⟨"POST", "/", [], []⟩).events ()).filterMap written? = [[1], [2]] := by decide +kernel
    rw [@Undelivered.unwritten GoLib.plain _ _ hu] at hw
    cases hw
  · exact hf

end PocketAp.Transport
