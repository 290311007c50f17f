import PocketAp.Relay.Delivery
import PocketAp.Relay.StreamSplit

/-!
# When batches are delivered

`consumeBatches` holds every token back until the next call of `Scan` has returned, also
one that a delimiter has already ended (`src/relay/stream.go:246–257`). So whenever it asks
the body for more, the last batch received is still waiting: `scanLoop_holdsLast`. Nobody
can tell on the bodies of `consumeBatches_timely_iff` only.
-/

namespace PocketAp.Relay

open PocketAp.Base PocketAp.Domain

/-- What a read returned. -/
def Event.chunk? {γ : Type} : Event γ → Option (Chunk UInt8 Err)
  | .read chunk => some chunk
  | _ => none

private theorem Event.eq_read_of_chunk {γ : Type} {e : Event γ} {c : Chunk UInt8 Err}
    (h : e.chunk? = some c) : e = .read c := by
  cases e with
  | read chunk =>
    cases h
    rfl
  | _ => cases h

section Records

variable {γ : Type}

/-- Bytes received so far. -/
def received (es : List (Event γ)) : Bytes :=
  Scanner.bytesRead (es.filterMap Event.chunk?)

/-- These batches were found valid, in this order, and their results handed on. -/
def Delivered (es : List (Event γ)) (bs : List Bytes) : Prop :=
  ∃ done : List (Bytes × RelayResult), done.map Prod.fst = bs ∧
    done <+: es.filterMap Event.valid? ∧ done.map Prod.snd <+: es.filterMap Event.batch?

/-- Whenever the body is asked for more, every nonempty batch whose delimiter has been
received was delivered. -/
def Timely (es : List (Event γ)) : Prop :=
  ∀ pre chunk post, es = pre ++ .read chunk :: post →
    Delivered pre (nonempty (batchSegments (received pre)))

/-- The last segment, unless it is empty. -/
def lastBatch (segs : List Bytes) : List Bytes := nonempty segs.getLast?.toList

/-- All batches received were delivered but the last one. -/
structure HoldsLast (es : List (Event γ)) : Prop where
  accepted : es.filterMap Event.batch? = (es.filterMap Event.valid?).map Prod.snd
  missing : (es.filterMap Event.valid?).map Prod.fst ++ lastBatch (batchSegments (received es)) =
    nonempty (batchSegments (received es))

private theorem HoldsLast.delivered_iff {es : List (Event γ)} (h : HoldsLast es) :
    Delivered es (nonempty (batchSegments (received es))) ↔
      lastBatch (batchSegments (received es)) = [] := by
  constructor
  · rintro ⟨done, hd, hv, -⟩
    have hl := hv.length_le
    have hm := congrArg List.length (hd.trans h.missing.symm)
    simp only [List.length_map, List.length_append] at hm
    apply List.length_eq_zero_iff.mp
    omega
  · intro hn
    refine ⟨es.filterMap Event.valid?, ?_, List.prefix_rfl, ?_⟩
    · rw [← h.missing, hn, List.append_nil]
    · rw [h.accepted]

private theorem received_append (es es' : List (Event γ)) :
    received (es ++ es') = received es ++ received es' := by
  simp [received, Scanner.bytesRead]

private theorem chunks_reads (cs : List (Chunk UInt8 Err)) :
    (cs.map (.read : _ → Event γ)).filterMap Event.chunk? = cs := by
  simp [List.filterMap_map, Function.comp_def, Event.chunk?]

private theorem valid_reads (cs : List (Chunk UInt8 Err)) :
    (cs.map (.read : _ → Event γ)).filterMap Event.valid? = [] := by
  simp [Event.valid?]

private theorem batch_reads (cs : List (Chunk UInt8 Err)) :
    (cs.map (.read : _ → Event γ)).filterMap Event.batch? = [] := by
  simp [Event.batch?]

/-- A read is not among events that hold none. -/
private theorem read_after_silent {xs ys pre post : List (Event γ)} {c : Chunk UInt8 Err}
    (hx : xs.filterMap Event.chunk? = []) (h : xs ++ ys = pre ++ .read c :: post) :
    ∃ l, pre = xs ++ l ∧ ys = l ++ .read c :: post := by
  apply exists_of_append_eq_append_cons h
  intro hm
  have := List.filterMap_eq_nil_iff.mp hx _ hm
  cases this

/-- A read is one of those made first or comes after them. -/
private theorem read_among {cs : List (Chunk UInt8 Err)} {ys pre post : List (Event γ)}
    {c : Chunk UInt8 Err} (h : cs.map .read ++ ys = pre ++ .read c :: post) :
    (∃ before after, cs = before ++ c :: after ∧ pre = before.map .read) ∨
      ∃ l, pre = cs.map .read ++ l ∧ ys = l ++ .read c :: post := by
  rcases List.append_eq_append_iff.mp h with ⟨l, hl, hy⟩ | ⟨l, hl, hy⟩
  · exact .inr ⟨l, hl, hy⟩
  · cases l with
    | nil => exact .inr ⟨[], by simpa using hl.symm, by simpa using hy.symm⟩
    | cons e l =>
      simp only [List.cons_append, List.cons.injEq] at hy
      obtain ⟨before, rest, hcs, hpre, hrest⟩ := List.map_eq_append_iff.mp hl
      obtain ⟨c', after, rfl, hc, -⟩ := List.map_eq_cons_iff.mp hrest
      have he : c' = c := by
        rw [← hy.1] at hc
        simpa using hc
      exact .inl ⟨before, after, by rw [hcs, he], hpre.symm⟩

end Records

/-- All reads of a body that is scanned to its end. -/
def bodyReads (body : Body UInt8 Err) : List (Chunk UInt8 Err) :=
  (newScanner body).drainReads (delimitedSplit streamDelimiter) maxBatchBytes

/-- Whenever the body is asked for more, the last delimiter received ended an empty segment,
or there was none. -/
def NeverHolds (body : Body UInt8 Err) : Prop :=
  ∀ pre chunk post, bodyReads body = pre ++ chunk :: post →
    lastBatch (batchSegments (Scanner.bytesRead pre)) = []

private theorem lastBatch_concat (segs : List Bytes) (b : Bytes) :
    lastBatch (segs ++ [b]) = nonempty [b] := by
  simp [lastBatch]

private theorem nonempty_concat (segs : List Bytes) (b : Bytes) :
    nonempty (segs ++ [b]) = nonempty segs ++ nonempty [b] := List.filter_append segs [b]

/-- Every batch is valid and every result is accepted. -/
structure AllSucceed {π σ γ : Type} (r : Relayer σ) (supplier : EndpointAddr)
    (onBatch : RelayResult → Exec π σ γ (Except Err Unit)) : Prop where
  valid : ∀ batch w, ∃ result w', r.validator supplier batch w = (.ok result, w')
  accepted : ∀ result w, ∃ es w', onBatch result w = (es, w', .ok (.ok ()))

section Loop

variable {π σ γ : Type} {r : Relayer σ} {supplier : EndpointAddr}
  {onBatch : RelayResult → Exec π σ γ (Except Err Unit)}

/-- Events that hand on exactly what is held back. -/
structure Flushes (pending : Option (Bytes × Bool)) (es : List (Event γ)) : Prop where
  silent : es.filterMap Event.chunk? = []
  accepted : es.filterMap Event.batch? = (es.filterMap Event.valid?).map Prod.snd
  flushed : (es.filterMap Event.valid?).map Prod.fst = pending.toList.map Prod.fst

private theorem flush_succeeds (hok : AllSucceed r supplier onBatch)
    (pending : Option (Bytes × Bool)) (w : σ) :
    ∃ es w', flush (r.validateResponse supplier) (callOnBatch onBatch) pending w =
      (es, w', .ok (.ok ())) ∧ Flushes pending es := by
  cases pending with
  | none => exact ⟨[], w, rfl, by simp, by simp, by simp⟩
  | some t =>
    obtain ⟨result, w₁, hv⟩ := hok.valid t.1 w
    obtain ⟨es, w₂, ho⟩ := hok.accepted result w₁
    have hc : callOnBatch onBatch result w₁ =
        (.onBatch result :: es.map .client, w₂, .ok (.ok ())) := by
      unfold callOnBatch
      rw [Exec.bind_run_ok (Exec.emit_run _ _)]
      simp [Exec.mapEvents, ho]
    refine ⟨.validate supplier t.1 (.ok result) :: .onBatch result :: es.map .client, w₂, ?_, ?_⟩
    · simp only [flush, Relayer.validateResponse]
      rw [Exec.bind_run_ok (Exec.call_run hv _)]
      simp [hc]
    · constructor
      · simp [Event.chunk?]
      · simp [List.filterMap_cons, Function.comp_def, Event.valid?, Event.batch?]
      · simp [List.filterMap_cons, Function.comp_def, Event.valid?]

/-- The end of the stream makes no reads. -/
private theorem finishStream_silent (hok : AllSucceed r supplier onBatch)
    (err : Option (ScanEnd Err)) (pending : Option (Bytes × Bool)) (w : σ) :
    (finishStream (r.validateResponse supplier) (callOnBatch onBatch) err pending w).1.filterMap
      Event.chunk? = [] := by
  unfold finishStream
  cases scannerErr err with
  | none =>
    obtain ⟨es, w', hf, hes⟩ := flush_succeeds hok pending w
    simp only [hf, hes.silent]
  | some e =>
    simp only
    split
    · next batch =>
      obtain ⟨es, w', hf, hes⟩ := flush_succeeds hok (some (batch, false)) w
      rw [Exec.bind_run_ok hf]
      simp [hes.silent, Exec.pure_run]
    · rfl

/-- The record of one round of the scan loop. -/
private theorem scanLoop_round (hok : AllSucceed r supplier onBatch)
    (s : Scanner Bool UInt8 Err) (pending : Option (Bytes × Bool)) (batch : Bytes)
    (ht : (scanBatch s).token = some batch) (w : σ) :
    ∃ es w', Flushes pending es ∧
      (scanLoop (r.validateResponse supplier) (callOnBatch onBatch) s pending).events w =
        (scanBatch s).reads.map .read ++ (es ++
          (scanLoop (r.validateResponse supplier) (callOnBatch onBatch) (scanBatch s).next
            (if batch = [] then none else some (batch, (scanBatch s).next.vars))).events w') := by
  obtain ⟨es, w', hf, hes⟩ := flush_succeeds hok pending w
  refine ⟨es, w', hes, ?_⟩
  unfold Exec.events
  rw [scanLoop_some _ _ s pending batch ht,
    Exec.bind_run_ok (Exec.emitAll_run _ w), Exec.bind_run_ok hf]

/-- The record of the last round. -/
private theorem scanLoop_last (hok : AllSucceed r supplier onBatch)
    (s : Scanner Bool UInt8 Err) (pending : Option (Bytes × Bool))
    (ht : (scanBatch s).token = none) (w : σ) :
    ∃ es : List (Event γ), es.filterMap Event.chunk? = [] ∧
      (scanLoop (r.validateResponse supplier) (callOnBatch onBatch) s pending).events w =
        (scanBatch s).reads.map .read ++ es := by
  refine ⟨_, finishStream_silent hok (scanBatch s).next.err pending w, ?_⟩
  unfold Exec.events
  rw [scanLoop_none _ _ s pending ht,
    Exec.bind_run_ok (Exec.emitAll_run _ w)]

/-- The reads of the scan loop are those of the scanner. -/
private theorem scanLoop_reads (hok : AllSucceed r supplier onBatch)
    (s : Scanner Bool UInt8 Err) (pending : Option (Bytes × Bool)) (w : σ) :
    ((scanLoop (r.validateResponse supplier) (callOnBatch onBatch) s pending).events w).filterMap
        Event.chunk? =
      s.drainReads (delimitedSplit streamDelimiter) maxBatchBytes := by
  induction hn : s.data.length + s.pendingInput using Nat.strongRecOn
    generalizing s pending w with
  | ind n ih =>
    cases ht : (scanBatch s).token with
    | none =>
      obtain ⟨es, hes, hrun⟩ := scanLoop_last hok s pending ht w
      rw [hrun, List.filterMap_append, chunks_reads, hes, List.append_nil,
        Scanner.drainReads_none _ _ s ht]
    | some batch =>
      obtain ⟨es, w', hes, hrun⟩ := scanLoop_round hok s pending batch ht w
      have hlt := Scanner.scan_size_lt _ _ s _ ht
      rw [hrun, List.filterMap_append, List.filterMap_append, chunks_reads, hes.silent,
        List.nil_append, ih _ (by rw [← hn]; exact hlt) _ _ w' rfl,
        Scanner.drainReads_some _ _ s batch ht]

/-- Between two calls of `Scan`: `segs` are the segments taken so far, the buffer is where
splitting goes on, and the last batch taken is the one held back. -/
private structure Waiting (s : Scanner Bool UInt8 Err) (pending : Option (Bytes × Bool))
    (es : List (Event γ)) (segs : List Bytes) : Prop where
  resume : ∀ v, batchSegments (received es ++ v) = segs ++ batchSegments (s.data ++ v)
  accepted : es.filterMap Event.batch? = (es.filterMap Event.valid?).map Prod.snd
  missing : (es.filterMap Event.valid?).map Prod.fst ++ lastBatch segs = nonempty segs
  held : pending.toList.map Prod.fst = lastBatch segs

/-- At a read the buffer holds no delimiter, so all segments received have been taken. -/
private theorem Waiting.holdsLast {s : Scanner Bool UInt8 Err} {pending : Option (Bytes × Bool)}
    {es : List (Event γ)} {segs : List Bytes} (h : Waiting s pending es segs)
    (before : List (Chunk UInt8 Err))
    (hn : index streamDelimiter.symbols (s.data ++ Scanner.bytesRead before) = none) :
    HoldsLast (es ++ before.map .read) := by
  have hsegs : batchSegments (received (es ++ before.map .read)) = segs := by
    rw [received_append, received.eq_1 (before.map .read), chunks_reads, h.resume, batchSegments,
      segments_of_none hn, List.append_nil]
  constructor
  · rw [List.filterMap_append, List.filterMap_append, valid_reads, batch_reads, List.append_nil,
      List.append_nil]
    exact h.accepted
  · rw [hsegs, List.filterMap_append, valid_reads, List.append_nil]
    exact h.missing

/-- A round takes the next segment from the buffer and hands on the one held back. -/
private theorem Waiting.round {s : Scanner Bool UInt8 Err} {pending : Option (Bytes × Bool)}
    {es : List (Event γ)} {segs : List Bytes} (h : Waiting s pending es segs)
    (batch : Bytes) (i : Nat)
    (hi : index streamDelimiter.symbols (s.data ++ Scanner.bytesRead (scanBatch s).reads) = some i)
    (hb : batch = (s.data ++ Scanner.bytesRead (scanBatch s).reads).take i)
    (hd : (scanBatch s).next.data = (s.data ++ Scanner.bytesRead (scanBatch s).reads).drop
      (i + streamDelimiter.symbols.length))
    (fs : List (Event γ)) (hf : Flushes pending fs) :
    Waiting (scanBatch s).next
      (if batch = [] then none else some (batch, (scanBatch s).next.vars))
      (es ++ ((scanBatch s).reads.map .read ++ fs)) (segs ++ [batch]) := by
  constructor
  · intro v
    have hr : received (es ++ ((scanBatch s).reads.map .read ++ fs)) =
        received es ++ Scanner.bytesRead (scanBatch s).reads := by
      rw [received_append, received.eq_1 (_ ++ fs), List.filterMap_append, chunks_reads, hf.silent,
        List.append_nil]
    have hl := index_add_le hi
    rw [hr, List.append_assoc, h.resume, ← List.append_assoc s.data, List.append_assoc segs]
    congr 1
    unfold batchSegments
    rw [segments_of_some (index_append_some hi v), List.drop_append_of_le_length hl,
      List.take_append_of_le_length (by omega), ← hb, ← hd]
    rfl
  · simp only [List.filterMap_append, valid_reads, batch_reads, List.nil_append, List.map_append]
    rw [h.accepted, hf.accepted]
  · simp only [List.filterMap_append, valid_reads, List.nil_append, List.map_append]
    rw [hf.flushed, h.held, lastBatch_concat, nonempty_concat, h.missing]
  · rw [lastBatch_concat]
    by_cases hz : batch = []
    · simp [hz, nonempty]
    · simp [hz, nonempty]

/-- At every read of the scan loop the last batch received is the only one that was not
delivered. -/
private theorem scanLoop_holdsLast (hok : AllSucceed r supplier onBatch)
    (s : Scanner Bool UInt8 Err) (pending : Option (Bytes × Bool)) (w : σ)
    (es : List (Event γ)) (hw : s.err = none → ∃ segs, Waiting s pending es segs)
    (pre : List (Event γ)) (c : Chunk UInt8 Err) (post : List (Event γ))
    (h : (scanLoop (r.validateResponse supplier) (callOnBatch onBatch) s pending).events w =
      pre ++ .read c :: post) : HoldsLast (es ++ pre) := by
  induction hn : s.data.length + s.pendingInput using Nat.strongRecOn
    generalizing s pending w es pre with
  | ind n ih =>
    have hrec := Scanner.scan_received streamDelimiter maxBatchBytes s
    -- A read of this call of `Scan`.
    have hhere (before after) (hcs : (scanBatch s).reads = before ++ c :: after) :
        HoldsLast (es ++ before.map .read) := by
      obtain ⟨he, hi⟩ := hrec.read before c after hcs
      obtain ⟨segs, hwait⟩ := hw he
      exact hwait.holdsLast before hi
    cases ht : (scanBatch s).token with
    | none =>
      obtain ⟨fs, hfs, hrun⟩ := scanLoop_last hok s pending ht w
      rcases read_among (hrun.symm.trans h) with ⟨before, after, hcs, rfl⟩ | ⟨l, -, hl⟩
      · exact hhere before after hcs
      · rw [hl] at hfs
        simp [Event.chunk?] at hfs
    | some batch =>
      obtain ⟨fs, w', hfs, hrun⟩ := scanLoop_round hok s pending batch ht w
      rcases read_among (hrun.symm.trans h) with ⟨before, after, hcs, rfl⟩ | ⟨l, rfl, hl⟩
      · exact hhere before after hcs
      · obtain ⟨l', rfl, hl'⟩ := read_after_silent hfs.silent hl
        have hlt := Scanner.scan_size_lt _ _ s _ ht
        have hnext := ih _ (by rw [← hn]; exact hlt) (scanBatch s).next _ w'
          (es ++ ((scanBatch s).reads.map .read ++ fs)) ?_ l' hl' rfl
        · simpa only [List.append_assoc] using hnext
        · intro he
          obtain ⟨hs, i, hi, hb, hd⟩ := hrec.token batch ht he
          obtain ⟨segs, hwait⟩ := hw hs
          exact ⟨_, hwait.round batch i hi hb hd fs hfs⟩

end Loop

/-- With every batch valid and accepted, batches are delivered as they arrive exactly on the
bodies that never make the code wait while it holds one back. -/
theorem consumeBatches_timely_iff {π σ γ : Type} [GoLib] (r : Relayer σ)
    (supplier : EndpointAddr) (onBatch : RelayResult → Exec π σ γ (Except Err Unit))
    (body : Body UInt8 Err) (header : Header) (w : σ)
    (hstream : isStreamingResponse header = true) (hok : AllSucceed r supplier onBatch) :
    Timely ((consumeBatches (r.validateResponse supplier) (callOnBatch onBatch) supplier body
      header).events w) ↔ NeverHolds body := by
  have hrun : consumeBatches (r.validateResponse supplier) (callOnBatch onBatch) supplier body
      header = scanLoop (r.validateResponse supplier) (callOnBatch onBatch) (newScanner body)
        none := if_pos hstream
  rw [hrun]
  have hreads := scanLoop_reads hok (newScanner body) none w
  have hwait : Waiting (newScanner body) none ([] : List (Event γ)) [] := by
    constructor
    · intro v; rfl
    · rfl
    · rfl
    · rfl
  have hlast := scanLoop_holdsLast hok (newScanner body) none w [] (fun _ ↦ ⟨[], hwait⟩)
  simp only [List.nil_append] at hlast
  constructor
  · intro htimely pre c post hsplit
    obtain ⟨xs, ys, hev, hpre, hys⟩ := List.filterMap_eq_append_iff.mp (hreads.trans hsplit)
    obtain ⟨zs, e, rest, rfl, hzs, he, -⟩ := List.filterMap_eq_cons_iff.mp hys
    have hread := Event.eq_read_of_chunk he
    have hchunks : (xs ++ zs).filterMap Event.chunk? = pre := by
      rw [List.filterMap_append, hpre, List.filterMap_eq_nil_iff.mpr hzs, List.append_nil]
    rw [hread, ← List.append_assoc] at hev
    have hd := (hlast _ c rest hev).delivered_iff.mp (htimely _ c rest hev)
    rw [received, hchunks] at hd
    exact hd
  · intro hnever pre c post hsplit
    rw [(hlast pre c post hsplit).delivered_iff]
    apply hnever _ c (post.filterMap Event.chunk?)
    rw [bodyReads, ← hreads, hsplit]
    simp [Event.chunk?]

private theorem scripted_allSucceed :
    AllSucceed (Relayer.scripted [] (fun _ ↦ .error errNoEndpoint)) "pokt1a"
      (fun _ ↦ pure (.ok ()) : RelayResult → Exec Empty Unit Empty (Except Err Unit)) := by
  constructor
  · intro batch w
    exact ⟨_, w, rfl⟩
  · intro result w
    exact ⟨[], w, rfl⟩

/-- A server that ends its first batch with two delimiters, and its last one with the body. -/
def twiceEnded : Body UInt8 Err :=
  .more (1 :: (streamDelimiter.symbols ++ streamDelimiter.symbols)) (.more [2] (.final [] .eof))

/-- The first batch is delivered before the second read. -/
theorem consumeBatches_timely_twiceEnded :
    Timely ((@consumeBatches Empty Unit Empty
      ((Relayer.scripted [] (fun _ ↦ .error errNoEndpoint)).validateResponse "pokt1a")
      (callOnBatch (fun _ ↦ pure (.ok ()))) GoLib.plain "pokt1a" twiceEnded
      [("Content-Type", ["text/event-stream"])]).events ()) := by
  apply (@consumeBatches_timely_iff Empty Unit Empty GoLib.plain _ _ _ _ _ _ (by decide)
    scripted_allSucceed).mpr
  have hreads : bodyReads twiceEnded =
      [⟨1 :: (streamDelimiter.symbols ++ streamDelimiter.symbols), none⟩, ⟨[2], none⟩,
        ⟨[], some .eof⟩] := by
    decide +kernel
  have hnone : ∀ n < 3, lastBatch (batchSegments
      (Scanner.bytesRead ((bodyReads twiceEnded).take n))) = [] := by
    decide +kernel
  intro pre c post h
  have hpre : pre = (bodyReads twiceEnded).take pre.length := by
    rw [h, List.take_left]
  have hlen : pre.length < 3 := by
    have hcount := congrArg List.length h
    rw [hreads, List.length_append, List.length_cons] at hcount
    simp only [List.length_cons, List.length_nil] at hcount
    omega
  rw [hpre]
  exact hnone pre.length hlen

/-- A server that writes a batch with its delimiter and then waits before the next one. -/
def pausing : Body UInt8 Err :=
  .more (1 :: streamDelimiter.symbols) (.more (2 :: streamDelimiter.symbols) (.final [] .eof))

/-- The second read is made while the first batch, complete and valid, is held back. -/
theorem pausing_not_timely :
    ¬ Timely ((@consumeBatches Empty Unit Empty
      ((Relayer.scripted [] (fun _ ↦ .error errNoEndpoint)).validateResponse "pokt1a")
      (callOnBatch (fun _ ↦ pure (.ok ()))) GoLib.plain "pokt1a" pausing
      [("Content-Type", ["text/event-stream"])]).events ()) := by
  generalize hrun : (@consumeBatches Empty Unit Empty _ _ GoLib.plain _ _ _).events () = es
  have hreads : (es.take 2).map Event.chunk? =
      [some ⟨1 :: streamDelimiter.symbols, none⟩, some ⟨2 :: streamDelimiter.symbols, none⟩] := by
    rw [← hrun]
    decide +kernel
  obtain ⟨e₁, l, htake, hc₁, hl⟩ := List.map_eq_cons_iff.mp hreads
  obtain ⟨e₂, l', rfl, hc₂, -⟩ := List.map_eq_cons_iff.mp hl
  have hes : es = [e₁] ++ e₂ :: (l' ++ es.drop 2) := by
    have hsplit := (List.take_append_drop 2 es).symm
    rw [htake] at hsplit
    exact hsplit
  rw [Event.eq_read_of_chunk hc₁, Event.eq_read_of_chunk hc₂] at hes
  intro htimely
  obtain ⟨done, hdone, hvalid, -⟩ := htimely _ _ _ hes
  have hnil : done = [] := List.prefix_nil.mp hvalid
  rw [hnil] at hdone
  revert hdone
  decide +kernel

end PocketAp.Relay
