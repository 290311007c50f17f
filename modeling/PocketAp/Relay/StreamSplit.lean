import PocketAp.Relay.StreamPlan

/-!
# Splitting is exact

The plan of a streaming body in terms of the bytes it yields: the nonempty segments of the
greedy split at the delimiter, and the tail after a clean end. How the bytes were cut into
reads does not enter. Limits are those of the scanner's buffer, `src/relay/stream.go:205–206`.
-/

namespace PocketAp.Relay

open PocketAp.Base PocketAp.Domain

/-- Segments of a byte string at the stream delimiter. -/
def batchSegments (w : Bytes) : List Bytes := (segments streamDelimiter w).1

/-- What follows the last delimiter. -/
def batchTail (w : Bytes) : Bytes := (segments streamDelimiter w).2

/-- Empty segments carry no batch. -/
def nonempty (segs : List Bytes) : List Bytes := segs.filter (fun b ↦ decide (b ≠ []))

/-- Batches a streaming body carries: the tail counts only after a clean end. -/
def batchesOf (w : Bytes) (stop : ReadEnd Err) : List Bytes :=
  nonempty (batchSegments w) ++ if stop = .eof ∧ batchTail w ≠ [] then [batchTail w] else []

/-- What is returned when every batch was accepted. -/
def endingOf : ReadEnd Err → Except Err Unit
  | .eof => .ok ()
  | .failed e => .error (.errorf "read stream: " e)

/-- Longest segment that fits the buffer together with its delimiter. -/
def maxSegmentBytes : Nat := maxBatchBytes - streamDelimiter.symbols.length

example : maxSegmentBytes = 262129 ∧ maxBatchBytes = 262144 := by decide

private theorem fits_iff (s : Bytes) :
    Scanner.SegmentFits streamDelimiter maxBatchBytes s ↔ s.length ≤ maxSegmentBytes := by
  unfold Scanner.SegmentFits maxSegmentBytes
  have hd : streamDelimiter.symbols.length = 15 := rfl
  have hm : maxBatchBytes = 262144 := rfl
  omega

/-- A new scanner has the whole body before it. -/
theorem newScanner_rest (body : Body UInt8 Err) (hp : body.MakesProgress) :
    (newScanner body).rest = body.bytes ∧
      (newScanner body).stop = ScanEnd.ofRead body.stop := by
  have hy := Body.yield_of_progresses maxConsecutiveEmptyReads body hp
  simp [Scanner.rest, Scanner.stop, newScanner, hy]

/-- What scanning a fresh body to its end can do. -/
theorem newScanner_drain (body : Body UInt8 Err) :
    Scanner.DrainStep streamDelimiter maxBatchBytes (newScanner body)
      (drainBatches (newScanner body)) := by
  apply Scanner.drain_segments
  simp [Scanner.Fits, newScanner]

/-- The plan of a stream with a token that is too long. -/
theorem planOfTokens_tooLong (segs : List Bytes) :
    planOfTokens (segs.map (·, false)) (some .tooLong) = ⟨nonempty segs,
      .error (.errorf "read stream: " (.text "bufio.Scanner: token too long"))⟩ := by
  simp [planOfTokens, scannerErr, nonempty, List.filter_map, List.map_map, Function.comp_def]

/-- The plan of a stream's tokens is the one of its batches. -/
theorem planOfTokens_tokensOf (w : Bytes) (stop : ReadEnd Err) :
    planOfTokens (Scanner.tokensOf streamDelimiter w) (some (ScanEnd.ofRead stop)) =
      ⟨batchesOf w stop, endingOf stop⟩ := by
  unfold Scanner.tokensOf batchesOf batchTail batchSegments
  cases stop with
  | eof =>
    by_cases ht : (segments streamDelimiter w).2 = []
    · simp [planOfTokens, scannerErr, ScanEnd.ofRead, nonempty, endingOf, ht, Function.comp_def]
    · simp [planOfTokens, scannerErr, ScanEnd.ofRead, nonempty, endingOf, ht, Function.comp_def]
  | failed e =>
    by_cases ht : (segments streamDelimiter w).2 = []
    · simp [planOfTokens, scannerErr, ScanEnd.ofRead, nonempty, endingOf, ht, List.filter_map,
        Function.comp_def]
    · simp [planOfTokens, scannerErr, ScanEnd.ofRead, nonempty, endingOf, ht, List.filter_map,
        Function.comp_def]

/-- Within the limits a streaming body delivers exactly its batches. -/
theorem streamPlan_of_fits (body : Body UInt8 Err) (hp : body.MakesProgress)
    (hseg : ∀ s ∈ batchSegments body.bytes, s.length ≤ maxSegmentBytes)
    (htail : (batchTail body.bytes).length < maxBatchBytes) :
    streamPlan body = ⟨batchesOf body.bytes body.stop, endingOf body.stop⟩ := by
  obtain ⟨hrest, hstop⟩ := newScanner_rest body hp
  unfold streamPlan
  cases newScanner_drain body with
  | ended tokens err fitting =>
    rw [tokens, err, hrest, hstop]
    exact planOfTokens_tokensOf body.bytes body.stop
  | longSegment before after long split tokens err fitting unfitting =>
    rw [hrest] at split
    have hm : long ∈ batchSegments body.bytes := by
      unfold batchSegments
      rw [split]
      simp
    exact absurd ((fits_iff long).mpr (hseg long hm)) unfitting
  | longTail tokens err fitting long =>
    rw [hrest] at long
    unfold batchTail at htail
    omega

/-- Two ways to write a list up to its first long segment are the same. -/
private theorem before_eq (before before' after after' : List Bytes) (long long' : Bytes)
    (h : before ++ long :: after = before' ++ long' :: after')
    (hb : ∀ s ∈ before, s.length ≤ maxSegmentBytes) (hl : maxSegmentBytes < long.length)
    (hb' : ∀ s ∈ before', s.length ≤ maxSegmentBytes) (hl' : maxSegmentBytes < long'.length) :
    before = before' := by
  have key (xs ys : List Bytes) (y : Bytes) (hx : ∀ s ∈ xs, s.length ≤ maxSegmentBytes)
      (hy : maxSegmentBytes < y.length) :
      (xs ++ y :: ys).takeWhile (fun s ↦ decide (s.length ≤ maxSegmentBytes)) = xs := by
    rw [List.takeWhile_append_of_pos (by simpa using hx), List.takeWhile_cons_of_neg (by
      simpa using hy), List.append_nil]
  rw [← key before after long hb hl, h, key before' after' long' hb' hl']

/-- A segment over the limit ends the stream with an error; what came before it is
delivered, nothing from it on is. -/
theorem streamPlan_of_long (body : Body UInt8 Err) (hp : body.MakesProgress)
    (before after : List Bytes) (long : Bytes)
    (hsplit : batchSegments body.bytes = before ++ long :: after)
    (hb : ∀ s ∈ before, s.length ≤ maxSegmentBytes) (hl : maxSegmentBytes < long.length) :
    streamPlan body = ⟨nonempty before,
      .error (.errorf "read stream: " (.text "bufio.Scanner: token too long"))⟩ := by
  obtain ⟨hrest, -⟩ := newScanner_rest body hp
  have hmem : long ∈ batchSegments body.bytes := by rw [hsplit]; simp
  have hno : ¬ ∀ x ∈ batchSegments body.bytes,
      Scanner.SegmentFits streamDelimiter maxBatchBytes x := by
    intro hall
    have := (fits_iff long).mp (hall long hmem)
    omega
  unfold streamPlan
  cases newScanner_drain body with
  | ended tokens err fitting =>
    rw [hrest] at fitting
    exact absurd fitting hno
  | longTail tokens err fitting _ =>
    rw [hrest] at fitting
    exact absurd fitting hno
  | longSegment before' after' long' split tokens err fitting unfitting =>
    rw [hrest] at split
    have he : before = before' := by
      apply before_eq before before' after after' long long' _ hb hl
      · intro s hs
        exact (fits_iff s).mp (fitting s hs)
      · have := mt (fits_iff long').mpr unfitting
        omega
      · rw [← hsplit, ← split]
        rfl
    rw [tokens, err, he]
    exact planOfTokens_tooLong before'

/-- Splitting a stream is exact, whatever the sizes of its reads. Within the limits the
batches are the nonempty segments and, after a clean end, the tail; a segment over the limit
ends the stream with an error after everything before it was delivered. -/
theorem consumeBatches_splits_exactly {π σ γ : Type} [GoLib] (r : Relayer σ)
    (supplier : EndpointAddr) (onBatch : RelayResult → Exec π σ γ (Except Err Unit))
    (body : Body UInt8 Err) (header : Header) (hstream : isStreamingResponse header = true)
    (hprogress : body.MakesProgress) :
    let run := Exec.hide Event.isRead
      (consumeBatches (r.validateResponse supplier) (callOnBatch onBatch) supplier body header)
    let delivering := deliver (r.validateResponse supplier) (callOnBatch onBatch)
    ((∀ s ∈ batchSegments body.bytes, s.length ≤ 262129) →
      (batchTail body.bytes).length < 262144 →
      run = delivering (endingOf body.stop) (batchesOf body.bytes body.stop) ∧
      ∀ w, run.outcome w = .ok (.ok ()) ↔ body.stop = .eof ∧
        (delivering (.ok ()) (batchesOf body.bytes body.stop)).outcome w = .ok (.ok ())) ∧
    (∀ before long after, batchSegments body.bytes = before ++ long :: after →
      (∀ s ∈ before, s.length ≤ 262129) → 262129 < long.length →
      (∃ e, run = delivering (.error e) (nonempty before)) ∧
      ∀ w, run.outcome w ≠ .ok (.ok ())) := by
  intro run delivering
  have hrun : run = delivering (streamPlan body).ending (streamPlan body).batches := by
    have hc := hide_consumeBatches (r.validateResponse supplier) (callOnBatch onBatch)
      supplier body header
    rw [quiet_validateResponse, quiet_callOnBatch, plan, if_pos hstream] at hc
    exact hc
  constructor
  · intro hseg htail
    have hp := streamPlan_of_fits body hprogress hseg htail
    rw [hp] at hrun
    refine ⟨hrun, ?_⟩
    intro w
    have hend : endingOf body.stop = .ok () ↔ body.stop = .eof := by
      cases body.stop <;> simp [endingOf]
    rw [hrun, deliver_ok_iff, hend]
  · intro before long after hsplit hb hl
    have hp := streamPlan_of_long body hprogress before after long hsplit hb hl
    rw [hp] at hrun
    refine ⟨⟨_, hrun⟩, ?_⟩
    intro w h
    rw [hrun, deliver_ok_iff] at h
    exact absurd h.1 (by simp)

/-- Two batches that arrive in two reads, the second without a delimiter. -/
def twoBatches : Body UInt8 Err :=
  .more (1 :: streamDelimiter.symbols) (.final [2] .eof)

private theorem segments_twoBatches : segments streamDelimiter twoBatches.bytes = ([[1]], [2]) := by
  have hi : index streamDelimiter.symbols twoBatches.bytes = some 1 := by decide
  have hn : index streamDelimiter.symbols (twoBatches.bytes.drop 16) = none := by decide
  rw [segments_of_some hi]
  change ([twoBatches.bytes.take 1] ++ (segments streamDelimiter (twoBatches.bytes.drop 16)).1,
    (segments streamDelimiter (twoBatches.bytes.drop 16)).2) = _
  rw [segments_of_none hn]
  rfl

/-- A body with two batches is delivered as two. -/
theorem consumeBatches_splits_twoBatches :
    Exec.hide Event.isRead (@consumeBatches Empty Unit Empty
      ((Relayer.scripted [] (fun _ ↦ .error errNoEndpoint)).validateResponse "pokt1a")
      (callOnBatch (fun _ ↦ pure (.ok ()))) GoLib.plain "pokt1a" twoBatches
      [("Content-Type", ["text/event-stream"])]) =
    deliver ((Relayer.scripted [] (fun _ ↦ .error errNoEndpoint)).validateResponse "pokt1a")
      (callOnBatch (fun _ ↦ pure (.ok ()))) (.ok ()) [[1], [2]] := by
  have h := ((@consumeBatches_splits_exactly Empty Unit Empty GoLib.plain
    (Relayer.scripted [] (fun _ ↦ .error errNoEndpoint)) "pokt1a" (fun _ ↦ pure (.ok ()))
    twoBatches [("Content-Type", ["text/event-stream"])] (by decide) (by decide)).1
    (by simp [batchSegments, segments_twoBatches]) (by simp [batchTail, segments_twoBatches])).1
  have hstop : twoBatches.stop = .eof := rfl
  have hb : batchesOf twoBatches.bytes twoBatches.stop = [[1], [2]] := by
    simp [batchesOf, batchSegments, batchTail, segments_twoBatches, nonempty, hstop]
  rw [hb] at h
  exact h

end PocketAp.Relay
