import PocketAp.Relay.Delivery
import PocketAp.Relay.StreamSplit

/-!
# How much of a body is held

`src/relay/stream.go:178–272`. A body that is one response is read up to one byte over the
limit; of a streaming body only what was not split off yet is held, in a buffer of fixed size.
What does not fit ends in an error.
-/

namespace PocketAp.Relay

open PocketAp.Base PocketAp.Domain

/-- Bytes of a body that were read in a run. -/
def bytesOf {γ : Type} (es : List (Event γ)) : Bytes :=
  es.flatMap fun
    | .read c => c.bytes
    | _ => []

private theorem bytesOf_reads {γ : Type} (cs : List (Chunk UInt8 Err)) :
    bytesOf (cs.map .read : List (Event γ)) = Scanner.bytesRead cs := by
  simp [bytesOf, Scanner.bytesRead, List.flatMap_map]

section Limits

variable {π σ γ : Type} [GoLib] (r : Relayer σ) (supplier : EndpointAddr)
  (onBatch : RelayResult → Exec π σ γ (Except Err Unit)) (body : Body UInt8 Err) (header : Header)

/-- `consumeBatches` as `RelayStream` calls it. -/
abbrev consuming : Exec π σ (Event γ) (Except Err Unit) :=
  consumeBatches (r.validateResponse supplier) (callOnBatch onBatch) supplier body header

/-! ### One response -/

omit [GoLib] in
/-- Validating and handing on reads nothing, and validates one batch. -/
private theorem flush_events (batch : Bytes) (w : σ) :
    ∀ ev ∈ (flush (r.validateResponse supplier) (callOnBatch onBatch) (some (batch, false))).events w,
      ev.isRead = false ∧ ∀ s b result, ev = .validate s b result → b = batch := by
  have hvalid : ∀ result, (Event.validate supplier batch result : Event γ).isRead = false ∧
      ∀ s b result', (Event.validate supplier batch result : Event γ) = .validate s b result' →
        b = batch := by
    intro result
    refine ⟨rfl, fun s b result' h ↦ ?_⟩
    cases h
    rfl
  intro ev hev
  simp only [Exec.events, flush, Relayer.validateResponse] at hev
  rcases hv : r.validator supplier batch w with ⟨e | result, w'⟩
  · rw [Exec.bind_run_ok (Exec.call_run hv _)] at hev
    rw [List.mem_singleton.mp hev]
    exact hvalid (.error e)
  · rw [Exec.bind_run_ok (Exec.call_run hv _)] at hev
    rcases List.mem_append.mp hev with hev | hev
    · rw [List.mem_singleton.mp hev]
      exact hvalid (.ok result)
    · have hcallback : ev ∈ (callOnBatch onBatch result w').1 := hev
      rcases hc : callOnBatch onBatch result w' with ⟨es, w₂, out⟩
      rw [hc, callOnBatch_events hc] at hcallback
      rcases List.mem_cons.mp hcallback with rfl | hev
      · exact ⟨rfl, by simp⟩
      · obtain ⟨c, -, rfl⟩ := List.mem_map.mp hev
        exact ⟨rfl, by simp⟩

omit [GoLib] in
private theorem bytesOf_of_quiet {es : List (Event γ)} (h : ∀ ev ∈ es, ev.isRead = false) :
    bytesOf es = [] := by
  rw [bytesOf, List.flatMap_eq_nil_iff]
  intro ev hev
  have hquiet := h ev hev
  cases ev with
  | read c => cases hquiet
  | _ => rfl

omit [GoLib] in
/-- What follows the reads of a body that is one response. -/
private theorem consumeWhole_events (w : σ) :
    ∃ es, (consumeWhole (r.validateResponse supplier) (callOnBatch onBatch) supplier body).events w =
        (body.readAllLimited (maxResponseBytes + 1)).1.map .read ++ es ∧
      ∀ ev ∈ es, ev.isRead = false ∧
        ∀ s b result, ev = .validate s b result → b.length ≤ maxResponseBytes := by
  unfold Exec.events consumeWhole
  simp only
  rw [Exec.bind_run_ok (Exec.emitAll_run _ _)]
  refine ⟨_, rfl, ?_⟩
  cases (body.readAllLimited (maxResponseBytes + 1)).2.2 with
  | some e => simp [Exec.pure_run]
  | none =>
    simp only
    split
    · simp [Exec.pure_run]
    · next hlen =>
      intro ev hev
      obtain ⟨hread, hbatch⟩ := flush_events r supplier onBatch _ w ev hev
      refine ⟨hread, fun s b result h ↦ ?_⟩
      rw [hbatch s b result h]
      omega

/-- A body that is one response is read up to one byte over the limit, and only what is within
the limit is validated; a longer one ends in an error. -/
theorem whole_limits (h : isStreamingResponse header = false) (w : σ) :
    (bytesOf ((consuming r supplier onBatch body header).events w)).length ≤ maxResponseBytes + 1 ∧
      (∀ s b result, .validate s b result ∈ (consuming r supplier onBatch body header).events w →
        b.length ≤ maxResponseBytes) ∧
      (maxResponseBytes < body.bytes.length →
        (consuming r supplier onBatch body header).outcome w ≠ .ok (.ok ())) := by
  have hwhole : consuming r supplier onBatch body header =
      consumeWhole (r.validateResponse supplier) (callOnBatch onBatch) supplier body := by
    rw [consuming, consumeBatches, if_neg (by simp [h])]
  obtain ⟨es, hevents, hquiet⟩ := consumeWhole_events r supplier onBatch body w
  refine ⟨?_, ?_, fun hlong ↦ ?_⟩
  · rw [hwhole, hevents, bytesOf, List.flatMap_append, ← bytesOf, ← bytesOf, bytesOf_reads,
      bytesOf_of_quiet (fun ev hev ↦ (hquiet ev hev).1), List.append_nil,
      Scanner.bytesRead_readAllLimited, Scanner.length_readAllLimited]
    exact Nat.min_le_left _ _
  · intro s b result hmem
    rw [hwhole, hevents] at hmem
    rcases List.mem_append.mp hmem with hmem | hmem
    · obtain ⟨c, -, hc⟩ := List.mem_map.mp hmem
      cases hc
    · exact (hquiet _ hmem).2 s b result rfl
  · have hplan : (wholePlan supplier body).ending ≠ .ok () := by
      have hlen : maxResponseBytes < (body.readAllLimited (maxResponseBytes + 1)).2.1.length := by
        rw [Scanner.length_readAllLimited]
        omega
      unfold wholePlan
      simp only
      cases (body.readAllLimited (maxResponseBytes + 1)).2.2 with
      | some e => simp
      | none => simp [hlen]
    have hrun := hide_consumeBatches (r.validateResponse supplier) (callOnBatch onBatch) supplier
      body header
    rw [plan, if_neg (by simp [h])] at hrun
    rw [← Exec.outcome_hide Event.isRead, hrun, ne_eq, deliver_ok_iff]
    exact fun hok ↦ hplan hok.1

/-! ### A stream -/

/-- The scanner before its nth call of `Scan`. -/
def scannerAt (n : Nat) : Scanner Bool UInt8 Err :=
  (fun s ↦ (scanBatch s).next)^[n] (newScanner body)

omit [GoLib] in
private theorem scannerAt_fits (n : Nat) : (scannerAt body n).Fits maxBatchBytes := by
  induction n with
  | zero => simp [scannerAt, newScanner, Scanner.Fits]
  | succ n ih =>
    rw [scannerAt, Function.iterate_succ_apply']
    exact (Scanner.scan_step streamDelimiter maxBatchBytes _ ih).2

/-- Parts of a stream that are split off in one piece, the tail included. -/
def pieces (w : Bytes) : List Bytes := batchSegments w ++ [batchTail w]

omit [GoLib] in
/-- A piece that does not fit the buffer makes the scan fail. -/
private theorem streamPlan_ending_of_long {piece : Bytes} (hmem : piece ∈ pieces body.bytes)
    (hlong : maxBatchBytes < piece.length) : (streamPlan body).ending ≠ .ok () := by
  have htokens := Scanner.drain_token_le streamDelimiter maxBatchBytes (newScanner body)
    (scannerAt_fits body 0)
  have hfailed {err : ScanEnd Err} (herr : (drainBatches (newScanner body)).2 = some err)
      (hcause : err = .tooLong ∨ err = .noProgress) : (streamPlan body).ending ≠ .ok () := by
    unfold streamPlan planOfTokens
    rw [herr]
    rcases hcause with rfl | rfl <;> simp [scannerErr]
  cases newScanner_drain body with
  | longSegment before after long split tokens err => exact hfailed err (.inl rfl)
  | longTail tokens err => exact hfailed err (.inl rfl)
  | ended tokens err fitting =>
    by_cases hp : body.MakesProgress
    · obtain ⟨hrest, -⟩ := newScanner_rest body hp
      rw [hrest] at tokens fitting
      rcases List.mem_append.mp hmem with hseg | htail
      · have hfit := fitting piece hseg
        unfold Scanner.SegmentFits at hfit
        omega
      · have hpiece : piece = (segments streamDelimiter body.bytes).2 := List.mem_singleton.mp htail
        have hne : (segments streamDelimiter body.bytes).2 ≠ [] := by
          rw [← hpiece]
          rintro rfl
          simp at hlong
        have htoken := htokens ((segments streamDelimiter body.bytes).2, true) (by
          rw [tokens, Scanner.tokensOf, if_neg hne]
          simp)
        rw [hpiece] at hlong
        simp only at htoken
        omega
    · refine hfailed err (.inr ?_)
      have hstop := Body.yield_of_not_progresses maxConsecutiveEmptyReads body (by
        simpa [Body.MakesProgress] using hp)
      simpa [Scanner.stop, newScanner] using hstop

/-- At every call of `Scan` the unsplit data and all that is read on top of it fit a buffer of
256 KiB; a stream with a longer piece ends in an error. -/
theorem stream_limits (h : isStreamingResponse header = true) :
    (∀ n, ((scannerAt body n).data ++
        Scanner.bytesRead (scanBatch (scannerAt body n)).reads).length ≤ maxBatchBytes) ∧
      ∀ piece ∈ pieces body.bytes, maxBatchBytes < piece.length →
        ∀ w, (consuming r supplier onBatch body header).outcome w ≠ .ok (.ok ()) := by
  refine ⟨fun n ↦ ?_, fun piece hmem hlong w ↦ ?_⟩
  · exact (Scanner.scan_buffered streamDelimiter maxBatchBytes _ (scannerAt_fits body n)).1
  · have hrun := hide_consumeBatches (r.validateResponse supplier) (callOnBatch onBatch) supplier
      body header
    rw [plan, if_pos h] at hrun
    rw [← Exec.outcome_hide Event.isRead, hrun, ne_eq, deliver_ok_iff]
    exact fun hok ↦ streamPlan_ending_of_long body hmem hlong hok.1

end Limits

end PocketAp.Relay
