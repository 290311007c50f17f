import PocketAp.Relay.Closing
import PocketAp.Transport.Handle
import PocketAp.Transport.ServeStream

/-!
# How a response is written

`src/transport/http.go:171–276`. Whichever way a listener relays, what its handler asks of the
response writer follows the first response found valid: the headers, `WriteHeader`, `Write`,
and then what is left of a stream. `Served` says so for both ways.
-/

namespace PocketAp.Transport

open PocketAp.Base PocketAp.Domain PocketAp.Relay

/-- A call on the response writer. -/
def clientCall? : Event ClientEvent → Option ClientEvent
  | .client e => some e
  | _ => none

/-- The calls on the response writer, in order. -/
def clientCalls (es : List (Event ClientEvent)) : List ClientEvent := es.filterMap clientCall?

/-- The first response found valid. -/
def signed? (es : List (Event ClientEvent)) : Option RelayResult :=
  (es.filterMap Event.valid?).head?.map Prod.snd

/-- What follows the first `Write`, which answers `err`. A whole response is done with it; a stream
is flushed, or given up if the write failed. `src/transport/http.go:201–202, 250–258`. -/
def AfterWrite (stream canFlush : Bool) (err : Option Err) (rest : List ClientEvent)
    (out : Except HandlerPanic Unit) : Prop :=
  if stream then
    match err with
    | none => canFlush = true → .flush ∈ rest
    | some _ => rest = [] ∧ out = .error .abortHandler
  else rest = [] ∧ out = .ok ()

/-- How a handler ends that makes the calls `headers` before `WriteHeader` and `trailers` after
the body: without a valid response, in a panic of `WriteHeader`, or with the response written
as far as there is one. -/
inductive Served (stream canFlush : Bool) (headers trailers : RelayResult → List ClientEvent)
    (es : List (Event ClientEvent)) (out : Except HandlerPanic Unit) : Prop where
  | unsigned (unsigned : signed? es = none) (returned : out = .ok ()) (closes : ClosesBodies es)
  | unwritable (result : RelayResult) (signed : signed? es = some result)
      (status : ¬ Writable result) (calls : clientCalls es = headers result)
      (panicked : out = .error (.invalidWriteHeaderCode (StreamHandler.status result)))
  | written (result : RelayResult) (err : Option Err) (rest : List ClientEvent)
      (signed : signed? es = some result) (status : Writable result) (closes : ClosesBodies es)
      (calls : clientCalls es = headers result ++
        .writeHeader (StreamHandler.status result) :: .write result.body err :: rest)
      (ended : (out = .ok () ∧ rest.filter ClientEvent.isHead = trailers result) ∨
        (out = .error .abortHandler ∧ rest.filter ClientEvent.isHead = []))
      (after : AfterWrite stream canFlush err rest out)

section Records

private theorem clientCalls_append (es es' : List (Event ClientEvent)) :
    clientCalls (es ++ es') = clientCalls es ++ clientCalls es' :=
  List.filterMap_append

private theorem clientCalls_client (cs : List ClientEvent) : clientCalls (cs.map .client) = cs := by
  simp [clientCalls, clientCall?, List.filterMap_map, Function.comp_def]

/-- The handler's own calls sign nothing. -/
theorem signed?_client (cs : List ClientEvent) : signed? (cs.map .client) = none := by
  simp [signed?, Event.valid?, List.filterMap_map, Function.comp_def]

/-- The first response of a record is that of its first part, if there is one. -/
theorem signed?_append (es es' : List (Event ClientEvent)) :
    signed? (es ++ es') = (signed? es).or (signed? es') := by
  simp only [signed?, List.filterMap_append, List.head?_append]
  cases (es.filterMap Event.valid?).head? <;> rfl

private theorem clientCalls_inert {es : List (Event ClientEvent)} (h : ∀ ev ∈ es, Inert ev) :
    clientCalls es = [] := by
  apply filterMap_inert clientCall? _ h
  intro ev hev
  cases ev with
  | client e => exact hev.elim
  | _ => rfl

private theorem signed?_inert {es : List (Event ClientEvent)} (h : ∀ ev ∈ es, Inert ev) :
    signed? es = none := by
  rw [signed?, filterMap_inert _ inert_valid h]
  rfl

private theorem clientCalls_withoutReads (es : List (Event ClientEvent)) :
    clientCalls (withoutReads es) = clientCalls es :=
  filterMap_withoutReads clientCall? (fun _ ↦ rfl) es

private theorem signed?_withoutReads (es : List (Event ClientEvent)) :
    signed? (withoutReads es) = signed? es := by
  rw [signed?, filterMap_withoutReads Event.valid? (fun _ ↦ rfl)]
  rfl

private theorem closesBodies_client (cs : List ClientEvent) :
    ClosesBodies (cs.map Event.client) := by
  apply closesBodies_of_bodiless
  simp [Event.isBodiless]

private theorem Served.of_withoutReads {stream canFlush : Bool}
    {headers trailers : RelayResult → List ClientEvent} {es : List (Event ClientEvent)}
    {out : Except HandlerPanic Unit}
    (h : Served stream canFlush headers trailers (withoutReads es) out) :
    Served stream canFlush headers trailers es out := by
  cases h with
  | unsigned unsigned returned closes =>
    rw [signed?_withoutReads] at unsigned
    exact .unsigned unsigned returned closes.of_filter
  | unwritable result signed status calls panicked =>
    rw [signed?_withoutReads] at signed
    rw [clientCalls_withoutReads] at calls
    exact .unwritable result signed status calls panicked
  | written result err rest signed status closes calls ended after =>
    rw [signed?_withoutReads] at signed
    rw [clientCalls_withoutReads] at calls
    exact .written result err rest signed status closes.of_filter calls ended after

end Records

/-! ### A stream -/

section Stream

variable {σ : Type} [GoLib] {h : StreamHandler σ} {r : Relayer σ} {supplier : EndpointAddr}

omit [GoLib] in
private theorem bodyOps_eq (h : StreamHandler σ) (result : RelayResult) (err : Option Err) :
    ∃ rest, h.bodyOps result err = .write result.body err :: rest ∧
      ∀ c ∈ rest, c.isHead = false := by
  refine ⟨_, rfl, ?_⟩
  cases err with
  | none => cases h.canFlush <;> simp [ClientEvent.isHead]
  | some e => simp

/-- The callback once the head is out. -/
private theorem callOnBatch_open {result : RelayResult} {vs vs' : StreamVars × σ}
    (hv : vs.1.wroteHeader = true) {es : List (Event ClientEvent)}
    {out : Except HandlerPanic (Except Err Unit)}
    (hrun : callOnBatch h.onBatch result vs = (es, vs', out)) :
    vs'.1 = vs.1 ∧ (∃ res, out = .ok res) ∧ ∀ c ∈ clientCalls es, c.isHead = false := by
  rcases hw : h.write result.body vs.2 with ⟨err, s'⟩
  rw [callOnBatch_run, show vs = (vs.1, vs.2) from rfl,
    h.onBatch_of_wroteHeader result hv hw] at hrun
  simp only [Prod.mk.injEq] at hrun
  obtain ⟨rfl, rfl, rfl⟩ := hrun
  refine ⟨rfl, ⟨_, rfl⟩, ?_⟩
  obtain ⟨rest, hbody, hrest⟩ := bodyOps_eq h result err
  change ∀ c ∈ clientCalls ((h.bodyOps result err).map .client), c.isHead = false
  rw [clientCalls_client, hbody]
  exact List.forall_mem_cons.mpr ⟨rfl, hrest⟩

/-- The callback with the first result. -/
private theorem callOnBatch_first {result : RelayResult} {vs vs' : StreamVars × σ} (hv : vs.1 = {})
    {es : List (Event ClientEvent)} {out : Except HandlerPanic (Except Err Unit)}
    (hrun : callOnBatch h.onBatch result vs = (es, vs', out)) :
    (¬ Writable result ∧ clientCalls es = h.headers result ∧
        out = .error (.invalidWriteHeaderCode (StreamHandler.status result))) ∨
      (Writable result ∧ vs'.1 = ⟨true, (h.split result).2⟩ ∧
        ∃ err, out = .ok (StreamHandler.writeResult err) ∧
          clientCalls es = h.headers result ++
            .writeHeader (StreamHandler.status result) :: h.bodyOps result err) := by
  have hclosed : vs.1.wroteHeader = false := by rw [hv]
  rw [callOnBatch_run, show vs = (vs.1, vs.2) from rfl] at hrun
  by_cases hst : Writable result
  · rcases hw : h.write result.body vs.2 with ⟨err, s'⟩
    rw [h.onBatch_of_writable hst hclosed hw] at hrun
    simp only [Prod.mk.injEq] at hrun
    obtain ⟨rfl, rfl, rfl⟩ := hrun
    refine .inr ⟨hst, rfl, err, rfl, ?_⟩
    change clientCalls ((h.head result ++ h.bodyOps result err).map .client) = _
    rw [clientCalls_client, StreamHandler.head, List.append_assoc]
    rfl
  · rw [h.onBatch_of_not_writable hst hclosed] at hrun
    simp only [Prod.mk.injEq] at hrun
    obtain ⟨rfl, -, rfl⟩ := hrun
    exact .inl ⟨hst, clientCalls_client _, rfl⟩

omit [GoLib] in
private theorem validator_vars {batch : Bytes} {vs vs' : StreamVars × σ}
    {answer : Except Err RelayResult}
    (hv : (liftRelayer StreamVars r).validator supplier batch vs = (answer, vs')) :
    vs'.1 = vs.1 := (congrArg (·.2.1) hv).symm

/-- Batches delivered once the head is out. -/
private theorem delivers_open {vs vs' : StreamVars × σ} {done : List (Bytes × RelayResult)}
    {es : List (Event ClientEvent)}
    (hd : Delivers ((liftRelayer StreamVars r).validator supplier) supplier
      (callOnBatch h.onBatch) vs done es vs') (hv : vs.1.wroteHeader = true) :
    vs'.1 = vs.1 ∧ ∀ c ∈ clientCalls es, c.isHead = false := by
  induction hd with
  | nil vs => exact ⟨rfl, by simp [clientCalls]⟩
  | @cons vs vs₁ vs₂ vs₃ done es es' batch result valid accepted tail ih =>
    have h₁ := validator_vars valid
    obtain ⟨h₂, -, hes⟩ := callOnBatch_open (by rw [h₁]; exact hv) accepted
    obtain ⟨h₃, hes'⟩ := ih (by rw [h₂, h₁]; exact hv)
    refine ⟨h₃.trans (h₂.trans h₁), ?_⟩
    change ∀ c ∈ clientCalls (es ++ es'), c.isHead = false
    rw [clientCalls_append]
    exact List.forall_mem_append.mpr ⟨hes, hes'⟩

private theorem deliverRun_open {ending : Except Err Unit} {vs : StreamVars × σ} {bs : List Bytes}
    {run : List (Event ClientEvent) × (StreamVars × σ) ×
      Except HandlerPanic (Except Err Unit × Bool)}
    (hrun : DeliverRun ((liftRelayer StreamVars r).validator supplier) supplier
      (callOnBatch h.onBatch) ending true vs bs run) (hv : vs.1.wroteHeader = true) :
    (∃ vs' res, run.2 = (vs', .ok (res, true)) ∧ vs'.1 = vs.1) ∧
      ∀ c ∈ clientCalls run.1, c.isHead = false := by
  cases hrun with
  | complete done es vs' all delivers run_eq =>
    subst run_eq
    obtain ⟨h₁, hes⟩ := delivers_open delivers hv
    exact ⟨⟨vs', ending, rfl, h₁⟩, hes⟩
  | invalid done batch rest es vs' vs'' e split delivers failed run_eq =>
    subst run_eq
    obtain ⟨h₁, hes⟩ := delivers_open delivers hv
    refine ⟨⟨vs'', .error e, rfl, (validator_vars failed).trans h₁⟩, ?_⟩
    simpa [clientCalls_append, clientCalls, clientCall?] using hes
  | refused done batch result rest es es' vs' vs₁ vs₂ e split delivers valid failed run_eq =>
    subst run_eq
    obtain ⟨h₁, hes⟩ := delivers_open delivers hv
    have h₂ := (validator_vars valid).trans h₁
    obtain ⟨h₃, -, hes'⟩ := callOnBatch_open (by rw [h₂]; exact hv) failed
    refine ⟨⟨vs₂, .error e, rfl, h₃.trans h₂⟩, ?_⟩
    rw [clientCalls_append]
    exact List.forall_mem_append.mpr ⟨hes, hes'⟩
  | panicked done batch result rest es es' vs' vs₁ vs₂ p split delivers valid failed run_eq =>
    obtain ⟨h₁, -⟩ := delivers_open delivers hv
    have h₂ := (validator_vars valid).trans h₁
    obtain ⟨-, ⟨res, hout⟩, -⟩ := callOnBatch_open (by rw [h₂]; exact hv) failed
    cases hout

/-- What delivering the batches of a reply does to the response. -/
private inductive Opened (h : StreamHandler σ) (run : List (Event ClientEvent) × (StreamVars × σ) ×
    Except HandlerPanic (Except Err Unit × Bool)) : Prop where
  | nothing (vs : StreamVars × σ) (res : Except Err Unit) (unsigned : signed? run.1 = none)
      (run_eq : run.2 = (vs, .ok (res, false))) (vars : vs.1 = {})
  | unwritable (result : RelayResult) (signed : signed? run.1 = some result)
      (status : ¬ Writable result) (calls : clientCalls run.1 = h.headers result)
      (panicked : run.2.2 = .error (.invalidWriteHeaderCode (StreamHandler.status result)))
  | written (result : RelayResult) (err : Option Err) (rest : List ClientEvent)
      (vs : StreamVars × σ) (res : Except Err Unit) (signed : signed? run.1 = some result)
      (status : Writable result)
      (calls : clientCalls run.1 = h.headers result ++
        .writeHeader (StreamHandler.status result) :: .write result.body err :: rest)
      (rest_body : ∀ c ∈ rest, c.isHead = false)
      (run_eq : run.2 = (vs, .ok (res, true))) (vars : vs.1 = ⟨true, (h.split result).2⟩)
      (flushed : err = none → h.canFlush = true → .flush ∈ rest)
      (failed : err ≠ none → rest = [] ∧ res ≠ .ok ())

private theorem deliverRun_opened {ending : Except Err Unit} {w : σ} {bs : List Bytes}
    {run : List (Event ClientEvent) × (StreamVars × σ) ×
      Except HandlerPanic (Except Err Unit × Bool)}
    (hrun : DeliverRun ((liftRelayer StreamVars r).validator supplier) supplier
      (callOnBatch h.onBatch) ending false (({} : StreamVars), w) bs run) : Opened h run := by
  cases hrun.start with
  | nothing run_eq =>
    subst run_eq
    exact .nothing _ ending rfl rfl rfl
  | invalid batch vs' e failed run_eq =>
    subst run_eq
    exact .nothing vs' (.error e) rfl rfl (validator_vars failed)
  | refused batch result es vs₁ vs₂ e valid failed run_eq =>
    subst run_eq
    rcases callOnBatch_first (validator_vars valid) failed with ⟨-, -, hout⟩ |
      ⟨hst, hvars, err, hout, hcalls⟩
    · cases hout
    · cases err with
      | none => cases hout
      | some e' =>
        exact .written result (some e') [] vs₂ (.error e) rfl hst hcalls (by simp) rfl hvars
          (by simp) (by simp)
  | panicked batch result es vs₁ vs₂ p valid failed run_eq =>
    subst run_eq
    rcases callOnBatch_first (validator_vars valid) failed with ⟨hst, hcalls, hout⟩ |
      ⟨-, -, err, hout, -⟩
    · cases hout
      exact .unwritable result rfl hst hcalls rfl
    · cases hout
  | accepted batch result es vs₁ vs₂ bs' rest' valid accepted tail run_eq =>
    subst run_eq
    rcases callOnBatch_first (validator_vars valid) accepted with ⟨-, -, hout⟩ |
      ⟨hst, hvars, err, hout, hcalls⟩
    · cases hout
    · cases err with
      | some e => cases hout
      | none =>
        obtain ⟨⟨vs', res, hrun', hvars'⟩, hrest'⟩ := deliverRun_open tail (by rw [hvars])
        obtain ⟨flushes, hbody, hflushes⟩ := bodyOps_eq h result none
        refine .written result none (flushes ++ clientCalls rest'.1) vs' res rfl hst ?_
          (List.forall_mem_append.mpr ⟨hflushes, hrest'⟩) hrun' (hvars'.trans hvars) ?_ (by simp)
        · change clientCalls (es ++ rest'.1) = _
          rw [clientCalls_append, hcalls, hbody]
          simp
        · intro _ hflush
          have hops : flushes = [.flush] := by simpa [StreamHandler.bodyOps, hflush] using hbody.symm
          simp [hops]

omit [GoLib] in
private theorem filter_isHead_body {rest : List ClientEvent} (h : ∀ c ∈ rest, c.isHead = false) :
    rest.filter ClientEvent.isHead = [] := by
  rw [List.filter_eq_nil_iff]
  intro c hc
  simp [h c hc]

/-- How the handler ends a run by what became of the response. -/
private theorem served_of_opened {es ds tail : List (Event ClientEvent)} {vs : StreamVars × σ}
    {res res' : Except Err Unit} {delivered : Bool} (hes : ∀ ev ∈ es, Inert ev)
    (htail : ∀ ev ∈ tail, Inert ev) (hopened : Opened h (ds, vs, .ok (res, delivered)))
    (hres : res ≠ .ok () → res' ≠ .ok ()) (hcloses : ClosesBodies (es ++ (ds ++ tail))) :
    Served true h.canFlush h.headers (fun result ↦ writeGRPCTrailers (h.split result).2)
      (es ++ (ds ++ tail) ++ (closing vs.1 res').1) (closing vs.1 res').2 := by
  have hcalls (cs : List ClientEvent) :
      clientCalls (es ++ (ds ++ tail) ++ cs.map .client) = clientCalls ds ++ cs := by
    simp only [clientCalls_append, clientCalls_inert hes, clientCalls_inert htail,
      clientCalls_client, List.nil_append, List.append_nil]
  have hsigned (cs : List ClientEvent) :
      signed? (es ++ (ds ++ tail) ++ cs.map .client) = signed? ds := by
    simp only [signed?_append, signed?_inert hes, signed?_inert htail, signed?_client,
      Option.none_or, Option.or_none]
  have hclosed (cs : List ClientEvent) : ClosesBodies (es ++ (ds ++ tail) ++ cs.map .client) :=
    hcloses.append (closesBodies_client cs)
  cases hopened with
  | nothing vs' res'' unsigned run_eq vars =>
    cases run_eq
    obtain ⟨cs, hcs, hout⟩ : ∃ cs : List ClientEvent,
        (closing vs.1 res').1 = cs.map .client ∧ (closing vs.1 res').2 = .ok () := by
      rw [vars]
      cases res' with
      | error e => exact ⟨[.error ("relay failed: " ++ e.message) 502], rfl, rfl⟩
      | ok u => exact ⟨[], rfl, rfl⟩
    rw [hcs]
    exact .unsigned ((hsigned cs).trans unsigned) hout (hclosed cs)
  | unwritable result signed status calls panicked => cases panicked
  | written result err rest vs' res'' signed status calls rest_body run_eq vars flushed failed =>
    cases run_eq
    obtain ⟨cs, hhead, hcs, hend⟩ := closing_of_wroteHeader (show vs.1.wroteHeader = true by
      rw [vars]) res'
    rw [hcs]
    refine .written result err (rest ++ cs) ((hsigned cs).trans signed) status (hclosed cs)
      ?_ ?_ ?_
    · rw [hcalls, calls]
      simp
    · rw [List.filter_append, filter_isHead_body rest_body, List.nil_append,
        List.filter_eq_self.mpr hhead]
      rcases hend with ⟨-, hout, rfl⟩ | ⟨hout, rfl⟩
      · exact .inl ⟨hout, by rw [vars]⟩
      · exact .inr ⟨hout, rfl⟩
    · unfold AfterWrite
      cases err with
      | none => exact fun hflush ↦ List.mem_append_left _ (flushed rfl hflush)
      | some e =>
        obtain ⟨rfl, herr⟩ := failed (by simp)
        rcases hend with ⟨hok, -⟩ | ⟨hout, rfl⟩
        · exact absurd hok (hres herr)
        · exact ⟨rfl, hout⟩

private theorem served_of_nothing {es tail : List (Event ClientEvent)} {vs : StreamVars × σ}
    {res : Except Err Unit} (hes : ∀ ev ∈ es, Inert ev) (htail : ∀ ev ∈ tail, Inert ev)
    (hvs : vs.1 = {}) (hcloses : ClosesBodies (es ++ tail)) :
    Served true h.canFlush h.headers (fun result ↦ writeGRPCTrailers (h.split result).2)
      (es ++ tail ++ (closing vs.1 res).1) (closing vs.1 res).2 := by
  have hopened : Opened h ([], vs, .ok (res, false)) := .nothing vs res rfl rfl hvs
  exact served_of_opened hes htail hopened id hcloses

private theorem served_of_attempt {ctx : Context} {input : RelayInput} {s : σ}
    {session : Session} {ep : Endpoint} {vs' : StreamVars × σ}
    {es final : List (Event ClientEvent)} {out : Except HandlerPanic (Except Err Unit)}
    (before : ∀ ev ∈ es, Inert ev) (attempt : LastAttempt h r input session ep final vs' out)
    (run_eq : Exec.hide Event.isRead ((liftRelayer StreamVars r).relayStream ctx h.serviceID
      h.rpcType input h.onBatch) ({}, s) = (es ++ final, vs', out)) :
    Served true h.canFlush h.headers (fun result ↦ writeGRPCTrailers (h.split result).2)
      (withoutReads ((h.serveStream r ctx input).events s))
      ((h.serveStream r ctx input).outcome s) := by
  cases attempt with
  | unsigned e final_eq out_eq vars =>
    subst final_eq out_eq
    obtain ⟨hes, hout⟩ := serveStream_hidden h r ctx input s run_eq
    rw [hes, hout]
    exact served_of_nothing before (by simp [Inert]) vars (relayStream_closes run_eq)
  | consumed url relayReq reply w batches found delivery final_eq =>
    have hopened := deliverRun_opened delivery
    have hlead := inert_lead before session ep h.rpcType input url relayReq reply
    rcases batches with ⟨ds, vs, p | ⟨res, delivered⟩⟩
    · -- The callback panicked, and the body stays open.
      cases out with
      | ok res => simp [Relayer.afterDelivery, Except.map] at final_eq
      | error p' =>
        simp only [Relayer.afterDelivery, Except.map, Prod.mk.injEq, Except.error.injEq] at final_eq
        obtain ⟨rfl, -, rfl⟩ := final_eq
        obtain ⟨hes, hout⟩ := serveStream_panicked h r ctx input s run_eq
        rw [hes, hout]
        cases hopened with
        | nothing vs' res unsigned run_eq vars => cases run_eq
        | unwritable result signed status calls panicked =>
          cases panicked
          refine .unwritable result ?_ status ?_ rfl
          · rw [← List.append_assoc, signed?_append, signed?_inert hlead, Option.none_or]
            exact signed
          · rw [← List.append_assoc, clientCalls_append, clientCalls_inert hlead, List.nil_append]
            exact calls
        | written result err rest vs' res signed status calls rest_body run_eq vars =>
          cases run_eq
    · obtain ⟨success, err, res', hfinal⟩ : ∃ success err res', final =
          [.sign session ep h.rpcType input (.ok relayReq),
            .sendStream url relayReq h.rpcType (.ok reply)] ++ (ds ++ .close ::
              (liftRelayer StreamVars r).observed h.serviceID h.rpcType ep.supplier success err) ∧
          vs'.1 = vs.1 ∧ out = .ok res' ∧ (res ≠ .ok () → res' ≠ .ok ()) := by
        cases out with
        | error p => cases res <;> simp [Relayer.afterDelivery, Except.map] at final_eq
        | ok res' =>
          cases res with
          | error e =>
            simp only [Relayer.afterDelivery, Prod.mk.injEq] at final_eq
            refine ⟨false, some e, res', final_eq.1, ?_, rfl, ?_⟩
            · rw [final_eq.2.1, afterObserve_vars]
            · rintro - rfl
              cases delivered <;> simp [Except.map] at final_eq
          | ok u =>
            simp only [Relayer.afterDelivery, Prod.mk.injEq] at final_eq
            refine ⟨true, none, res', final_eq.1, ?_, rfl, fun h ↦ absurd rfl h⟩
            rw [final_eq.2.1, afterObserve_vars]
      obtain ⟨rfl, hvs, rfl, hres⟩ := hfinal
      obtain ⟨hes, hout⟩ := serveStream_hidden h r ctx input s run_eq
      have hcloses := relayStream_closes run_eq
      rw [← List.append_assoc es] at hcloses
      rw [hes, hout, hvs, ← List.append_assoc es]
      exact served_of_opened hlead (fun ev hev ↦ inert_of_tail (observed_tail _ _ _ _ _ ev hev))
        hopened hres hcloses

/-- How a stream is served. -/
theorem serveStream_served (h : StreamHandler σ) (r : Relayer σ) (ctx : Context)
    (input : RelayInput) (s : σ) :
    Served true h.canFlush h.headers (fun result ↦ writeGRPCTrailers (h.split result).2)
      ((h.serveStream r ctx input).events s) ((h.serveStream r ctx input).outcome s) := by
  apply Served.of_withoutReads
  -- Without a sender, or when no attempt was the last one, the client is only told of an error.
  have hfailed {es : List (Event ClientEvent)} {vs : StreamVars × σ} {e : Err} (hvs : vs.1 = {})
      (hes : ∀ ev ∈ es, Inert ev)
      (run_eq : Exec.hide Event.isRead ((liftRelayer StreamVars r).relayStream ctx h.serviceID
        h.rpcType input h.onBatch) ({}, s) = (es, vs, .ok (.error e))) :
      Served true h.canFlush h.headers (fun result ↦ writeGRPCTrailers (h.split result).2)
        (withoutReads ((h.serveStream r ctx input).events s))
        ((h.serveStream r ctx input).outcome s) := by
    obtain ⟨hevents, hout⟩ := serveStream_hidden h r ctx input s run_eq
    have hcloses := relayStream_closes run_eq
    rw [hevents, hout, ← List.append_nil es]
    rw [← List.append_nil es] at hcloses
    exact served_of_nothing hes (by simp) hvs hcloses
  cases hsend : (liftRelayer StreamVars r).streamSender with
  | none =>
    exact hfailed rfl (by simp) (relayStream_of_no_sender hsend ctx ({}, s))
  | some sendStream =>
    cases relayStream_run (liftRelayer StreamVars r) sendStream h.serviceID h.rpcType input
      h.onBatch ctx hsend (fun vs ↦ vs.1 = {}) (liftRelayer_keeps r {}) ({}, s) rfl with
    | failed es vs' e before kept run_eq =>
      exact hfailed kept (fun ev hev ↦ inert_of_fruitless (before.1 ev hev)) run_eq
    | ended session ep es final vs₀ vs' out before kept attempt run_eq =>
      exact served_of_attempt (fun ev hev ↦ inert_of_fruitless (before.1 ev hev))
        (lastAttempt_of_attemptRun hsend kept attempt) run_eq

end Stream

/-! ### A whole response -/

section Whole

variable {σ : Type} {r : Relayer σ} {serviceID : ServiceID} {rpcType : RPCType}
  {input : RelayInput}

/-- Calls of `Relay` other than a validation that went well. -/
private def Quiet (ev : Event ClientEvent) : Prop := Inert ev ∧ ev.isBodiless = true

private theorem observed_quiet (supplier : EndpointAddr) (success : Bool) (err : Option Err) :
    ∀ ev ∈ (r.observed serviceID rpcType supplier success err : List (Event ClientEvent)),
      Quiet ev := by
  unfold Relayer.observed
  cases r.selector.observer with
  | none => simp
  | some f => simp [Quiet, Inert, Event.isBodiless]

/-- A record of `Relay`: no call of the client, no body, and the response it returns. -/
private structure Relayed (es : List (Event ClientEvent)) (res : Except Err RelayResult) :
    Prop where
  calls : clientCalls es = []
  bodiless : ∀ ev ∈ es, ev.isBodiless = true
  signed : signed? es = res.toOption

private theorem relayed_of_quiet {es : List (Event ClientEvent)} (h : ∀ ev ∈ es, Quiet ev)
    (e : Err) : Relayed es (.error e) :=
  ⟨clientCalls_inert (fun ev hev ↦ (h ev hev).1), fun ev hev ↦ (h ev hev).2,
    signed?_inert (fun ev hev ↦ (h ev hev).1)⟩

private theorem relayed_append {es es' : List (Event ClientEvent)} {res : Except Err RelayResult}
    (h : ∀ ev ∈ es, Quiet ev) (h' : Relayed es' res) : Relayed (es ++ es') res := by
  constructor
  · rw [clientCalls_append, clientCalls_inert (fun ev hev ↦ (h ev hev).1), h'.calls]
    rfl
  · exact List.forall_mem_append.mpr ⟨fun ev hev ↦ (h ev hev).2, h'.bodiless⟩
  · rw [signed?_append, signed?_inert (fun ev hev ↦ (h ev hev).1), Option.none_or, h'.signed]

/-- An attempt of `Relay` finishes with the response it found valid, or finds none. -/
private theorem relayAttempt_relayed (session : Session) (ep : Endpoint) (s : σ) :
    ∃ es s' a, (r.relayAttempt serviceID rpcType input session ep :
      Exec HandlerPanic σ (Event ClientEvent) _) s = (es, s', .ok a) ∧
      ((∃ e, a = .next e ∧ ∀ ev ∈ es, Quiet ev) ∨ ∃ res, a = .finish res ∧ Relayed es res) := by
  have hobs (success : Bool) (err : Option Err) :=
    @observed_quiet σ r serviceID rpcType ep.supplier success err
  cases (r.relayAttempt_run serviceID rpcType input session ep s :
      r.RelayAttemptRun serviceID rpcType input session ep s
        ((r.relayAttempt serviceID rpcType input session ep :
          Exec HandlerPanic σ (Event ClientEvent) _) s)) with
  | noURL absent run_eq => exact ⟨_, _, _, run_eq, .inl ⟨_, rfl, by simp⟩⟩
  | unsigned url e s' found signed run_eq =>
    refine ⟨_, _, _, run_eq, .inr ⟨_, rfl, relayed_of_quiet ?_ _⟩⟩
    simp [Quiet, Inert, Event.isBodiless]
  | unsent url relayReq e s₁ s₂ found signed sent run_eq =>
    refine ⟨_, _, _, run_eq, .inl ⟨_, rfl, ?_⟩⟩
    simp only [List.forall_mem_cons]
    exact ⟨⟨trivial, rfl⟩, ⟨trivial, rfl⟩, hobs false (some e)⟩
  | invalid url relayReq respBz e s₁ s₂ s₃ found signed sent validated run_eq =>
    refine ⟨_, _, _, run_eq, .inl ⟨_, rfl, ?_⟩⟩
    simp only [List.forall_mem_cons]
    exact ⟨⟨trivial, rfl⟩, ⟨trivial, rfl⟩, ⟨trivial, rfl⟩, hobs false (some e)⟩
  | valid url relayReq respBz result s₁ s₂ s₃ found signed sent validated run_eq =>
    refine ⟨_, _, _, run_eq, .inr ⟨_, rfl, ?_, ?_, rfl⟩⟩
    · change clientCalls (r.observed serviceID rpcType ep.supplier true none) = []
      exact clientCalls_inert (fun ev hev ↦ (hobs true none ev hev).1)
    · simp only [List.forall_mem_cons]
      exact ⟨rfl, rfl, rfl, fun ev hev ↦ (hobs true none ev hev).2⟩

private theorem relayed_of_run {session : Session} {ep : Endpoint} {s s' : σ}
    {es : List (Event ClientEvent)}
    {out : Except HandlerPanic (Attempt Err (Except Err RelayResult))}
    (h : r.relayAttempt serviceID rpcType input session ep s = (es, s', out)) :
    (∃ e, out = .ok (.next e) ∧ ∀ ev ∈ es, Quiet ev) ∨
      ∃ res, out = .ok (.finish res) ∧ Relayed es res := by
  obtain ⟨es', s'', a, hrun, ha⟩ := @relayAttempt_relayed σ r serviceID rpcType input session ep s
  rw [h] at hrun
  cases hrun
  rcases ha with ⟨e, rfl, hq⟩ | ⟨res, rfl, hr⟩
  · exact .inl ⟨e, rfl, hq⟩
  · exact .inr ⟨res, rfl, hr⟩

/-- `Relay` returns, and its record holds a valid response exactly when it returns that. -/
private theorem relay_relayed (r : Relayer σ) (ctx : Context) (serviceID : ServiceID)
    (rpcType : RPCType) (input : RelayInput) (s : σ) :
    ∃ es s' res, (r.relay ctx serviceID rpcType input :
      Exec HandlerPanic σ (Event ClientEvent) _) s = (es, s', .ok res) ∧ Relayed es res := by
  cases (r.withFailover_run ctx serviceID rpcType (r.relayAttempt serviceID rpcType input) s :
      r.FailoverRun ctx serviceID rpcType (r.relayAttempt serviceID rpcType input) s
        ((r.relay ctx serviceID rpcType input : Exec HandlerPanic σ (Event ClientEvent) _) s)) with
  | unavailable e s' kept run_eq =>
    exact ⟨[], s', .error e, run_eq, relayed_of_quiet (by simp) e⟩
  | tried session ordered s₁ s₂ tries fetched selected ne_nil tries_eq run_eq =>
    have hskips {s' : σ} {last' : Option Err} {eps : List Endpoint} {es : List (Event ClientEvent)}
        (h : Skips (r.relayAttempt serviceID rpcType input session :
          Endpoint → Exec HandlerPanic σ (Event ClientEvent) _) s₂ none eps es s' last') :
        ∀ ev ∈ es, Quiet ev := by
      apply h.forall_events
      intro ep _ w es₁ w' e hnext
      rcases relayed_of_run hnext with ⟨_, -, hq⟩ | ⟨_, hout, -⟩
      · exact hq
      · cases hout
    have ht : Tried (r.relayAttempt serviceID rpcType input session) s₂ none
        (ordered.take (attemptCap r.maxAttempts ordered.length)) tries := by
      rw [tries_eq]
      exact tryEach_tried _ _ _ _
    cases ht with
    | exhausted es s' last' skips tries_eq =>
      subst tries_eq
      exact ⟨es, s', _, run_eq, relayed_of_quiet (hskips skips) _⟩
    | finished before after ep es es' s' s'' last' res split skips final tries_eq =>
      subst tries_eq
      refine ⟨es ++ es', s'', res, run_eq, relayed_append (hskips skips) ?_⟩
      rcases relayed_of_run final with ⟨_, hout, -⟩ | ⟨_, hout, hr⟩
      · cases hout
      · cases hout
        exact hr
    | panicked before after ep es es' s' s'' last' p split skips final tries_eq =>
      rcases relayed_of_run final with ⟨_, hout, -⟩ | ⟨_, hout, -⟩ <;> cases hout

end Whole

namespace HTTP

variable {σ : Type} [GoLib] (h : HTTP σ)

/-- Calls before `WriteHeader`. `src/transport/http.go:186–198, 231–241`. -/
def headers (req : Inbound) (result : RelayResult) : List ClientEvent :=
  if h.stream then (h.streamHandler req).headers result
  else addHeaders result.header ++
    if origin req ≠ "" then writeCORSHeaders req.request (origin req) else []

/-- Calls after the body. `src/transport/http.go:275`. -/
def trailers (req : Inbound) (result : RelayResult) : List ClientEvent :=
  if h.stream then writeGRPCTrailers ((h.streamHandler req).split result).2 else []

/-- What the handler records of the relay core and of the response writer. -/
def core? : FrontEvent → Option (Event ClientEvent)
  | .core e => some e
  | .enter .. => none

/-- The calls of the relay core, and those on the response writer. -/
def coreCalls (es : List FrontEvent) : List (Event ClientEvent) := es.filterMap core?

omit [GoLib] in
/-- A run of the core is its own calls. -/
theorem coreCalls_core (es : List (Event ClientEvent)) : coreCalls (es.map .core) = es := by
  simp [coreCalls, core?, List.filterMap_map, Function.comp_def]

omit [GoLib] in
/-- What the handler answers itself goes to the client. -/
theorem coreCalls_answer (cs : List ClientEvent) :
    coreCalls (cs.map .answer) = cs.map .client := by
  simp only [coreCalls, List.filterMap_map]
  induction cs with
  | nil => rfl
  | cons c cs ih => exact congrArg (Event.client c :: ·) ih

omit [GoLib] in
/-- Calls of two runs in order. -/
theorem coreCalls_append (es es' : List FrontEvent) :
    coreCalls (es ++ es') = coreCalls es ++ coreCalls es' :=
  List.filterMap_append

omit [GoLib] in
/-- Writing a response whose status `WriteHeader` takes. -/
theorem writeResult_of_writable {req : Inbound} {result : RelayResult}
    (hst : Writable result) {s s' : σ} {err : Option Err}
    (hw : h.write result.body s = (err, s')) :
    h.writeResult req result s = (((addHeaders result.header ++
        if origin req ≠ "" then writeCORSHeaders req.request (origin req) else []) ++
        [ClientEvent.writeHeader (StreamHandler.status result),
          ClientEvent.write result.body err]).map .answer, s',
      .ok ()) := by
  have hcode : ¬ (StreamHandler.status result < 100 ∨ 999 < StreamHandler.status result) := by
    unfold Writable at hst
    omega
  unfold writeResult
  rw [Exec.bind_run_ok (Exec.emitAll_run _ s)]
  simp only [hcode, if_false]
  rw [Exec.bind_run_ok (Exec.emit_run _ s), Exec.bind_run_ok (Exec.call_run hw _)]
  simp [Exec.pure_run]

omit [GoLib] in
/-- A status that `WriteHeader` does not take makes the handler panic after the headers. -/
theorem writeResult_of_not_writable {req : Inbound} {result : RelayResult}
    (hst : ¬ Writable result) (s : σ) :
    h.writeResult req result s = ((addHeaders result.header ++
        if origin req ≠ "" then writeCORSHeaders req.request (origin req) else []).map .answer, s,
      .error (.invalidWriteHeaderCode (StreamHandler.status result))) := by
  have hcode : StreamHandler.status result < 100 ∨ 999 < StreamHandler.status result := by
    unfold Writable at hst
    omega
  unfold writeResult
  rw [Exec.bind_run_ok (Exec.emitAll_run _ s)]
  simp [hcode, Exec.throw]

omit [GoLib] in
private theorem serveWhole_served (req : Inbound) (ctx : Context) (input : RelayInput) (s : σ) :
    Served false h.canFlush (fun result ↦ addHeaders result.header ++
        if origin req ≠ "" then writeCORSHeaders req.request (origin req) else []) (fun _ ↦ [])
      (coreCalls ((h.serveWhole req ctx input).events s))
      ((h.serveWhole req ctx input).outcome s) := by
  obtain ⟨es, s', res, hrun, hrel⟩ := relay_relayed h.relayer ctx h.serviceID h.rpcType input s
  have hcloses (cs : List ClientEvent) : ClosesBodies (es ++ cs.map .client) :=
    (closesBodies_of_bodiless hrel.bodiless).append (closesBodies_client cs)
  have hsigned (cs : List ClientEvent) : signed? (es ++ cs.map .client) = res.toOption := by
    rw [signed?_append, signed?_client, Option.or_none, hrel.signed]
  have hevents {cs : List ClientEvent} {w : σ} {out : Except HandlerPanic Unit}
      (hs : h.serveWhole req ctx input s = (es.map .core ++ cs.map .answer, w, out)) :
      coreCalls ((h.serveWhole req ctx input).events s) = es ++ cs.map .client ∧
        (h.serveWhole req ctx input).outcome s = out := by
    unfold Exec.events Exec.outcome
    rw [hs, coreCalls_append, coreCalls_core, coreCalls_answer]
    exact ⟨rfl, rfl⟩
  cases res with
  | error e =>
    have hrefused : h.serveWhole req ctx input s = (es.map .core ++
        [ClientEvent.error ("relay failed: " ++ e.message) 502].map .answer, s', .ok ()) := by
      unfold serveWhole
      rw [Exec.bind_run_ok (Exec.mapEvents_run hrun FrontEvent.core)]
      rfl
    obtain ⟨he, ho⟩ := hevents hrefused
    rw [he, ho]
    exact .unsigned (hsigned _) rfl (hcloses _)
  | ok result =>
    have hbind : h.serveWhole req ctx input s = (es.map .core ++ (h.writeResult req result s').1,
        (h.writeResult req result s').2) := by
      unfold serveWhole
      rw [Exec.bind_run_ok (Exec.mapEvents_run hrun FrontEvent.core)]
    by_cases hst : Writable result
    · rcases hw : h.write result.body s' with ⟨err, s''⟩
      simp only [h.writeResult_of_writable hst hw] at hbind
      obtain ⟨he, ho⟩ := hevents hbind
      rw [he, ho]
      refine .written result err [] (hsigned _) hst (hcloses _) ?_ (.inl ⟨rfl, rfl⟩) ⟨rfl, rfl⟩
      rw [clientCalls_append, hrel.calls, clientCalls_client]
      rfl
    · simp only [h.writeResult_of_not_writable hst] at hbind
      obtain ⟨he, ho⟩ := hevents hbind
      rw [he, ho]
      refine .unwritable result (hsigned _) hst ?_ rfl
      rw [clientCalls_append, hrel.calls, clientCalls_client]
      rfl

private theorem serve_served (req : Inbound) (ctx : Context) (input : RelayInput) (s : σ) :
    Served h.stream h.canFlush (h.headers req) (h.trailers req)
      (coreCalls ((h.serve req ctx input).events s)) ((h.serve req ctx input).outcome s) := by
  have henter {x : Exec HandlerPanic σ FrontEvent Unit}
      (hx : h.serve req ctx input =
        Exec.emit (.enter ctx h.serviceID h.rpcType input) >>= fun _ ↦ x) :
      coreCalls ((h.serve req ctx input).events s) = coreCalls (x.events s) ∧
        (h.serve req ctx input).outcome s = x.outcome s := by
    unfold Exec.events Exec.outcome
    rw [hx, Exec.bind_run_ok (Exec.emit_run _ s)]
    exact ⟨rfl, rfl⟩
  cases hstream : h.stream with
  | true =>
    obtain ⟨he, ho⟩ := henter (x := Exec.mapEvents .core
      ((h.streamHandler req).serveStream h.relayer ctx input)) (by simp [serve, hstream])
    have hs := serveStream_served (h.streamHandler req) h.relayer ctx input s
    rw [he, ho]
    unfold headers trailers
    simp only [hstream, if_true]
    change Served true h.canFlush _ _
      (coreCalls ((((h.streamHandler req).serveStream h.relayer ctx input).events s).map .core))
      (((h.streamHandler req).serveStream h.relayer ctx input).outcome s)
    rw [coreCalls_core]
    exact hs
  | false =>
    obtain ⟨he, ho⟩ := henter (x := h.serveWhole req ctx input) (by simp [serve, hstream])
    rw [he, ho]
    unfold headers trailers
    simp only [hstream, Bool.false_eq_true, if_false]
    exact h.serveWhole_served req ctx input s

/-- How the handler of a listener ends. -/
theorem handle_served (order : String → RangeOrder) (req : Inbound) (s : σ) :
    Served h.stream h.canFlush (h.headers req) (h.trailers req)
      (coreCalls ((h.handle order req).events s)) ((h.handle order req).outcome s) := by
  by_cases hreq : h.Admits req
  · obtain ⟨p, -, hhandle⟩ := h.handle_of_admits order hreq
    rw [hhandle]
    exact h.serve_served req _ _ s
  · obtain ⟨es, hes⟩ := h.handle_of_not_admits order hreq s
    unfold Exec.events Exec.outcome
    rw [hes, coreCalls_answer]
    exact .unsigned (signed?_client es) rfl (closesBodies_client es)

end HTTP

end PocketAp.Transport
