import PocketAp.Base.ScanLaws

/-!
# Tokens of a delimited body

Library `Base`. Scanning a body at a delimiter produces the segments of everything the
body yields, whatever the sizes of the single reads: `scan_step` says it for one call of
`Scan` and `drain_segments` for the whole loop. Only a segment that does not fit the
buffer together with its delimiter, or a tail that fills it, stops the scan early.
`scan_received` says what is known at every single read.
-/

namespace PocketAp.Base

variable {α ε : Type} [DecidableEq α]

/-- Cut at the next delimiter; at the end of the input return what is left. The captured
flag tells the two kinds of token apart. -/
def delimitedSplit (d : Delimiter α) : SplitFunc Bool α where
  run leftover data atEOF :=
    if atEOF ∧ data = [] then (leftover, 0, none)
    else
      match index d.symbols data with
      | some i => (false, i + d.symbols.length, some (data.take i))
      | none => if atEOF then (true, data.length, some data) else (leftover, 0, none)
  advance_le := by
    intro v data atEOF
    split
    · exact Nat.zero_le _
    · split
      · next i hi => exact index_add_le hi
      · split
        · exact Nat.le_refl _
        · exact Nat.zero_le _
  token_advance := by
    intro v data atEOF t ht
    split at ht
    · cases ht
    · next hc =>
      rw [if_neg hc]
      split at ht
      · next i hi =>
        have := d.length_pos
        simp only
        omega
      · next hi =>
        split at ht
        · next ha =>
          have hd : data ≠ [] := fun hd => hc ⟨ha, hd⟩
          simpa [ha] using List.length_pos_iff.mpr hd
        · cases ht

namespace Scanner

variable (d : Delimiter α) (bufLen : Nat)

private theorem trySplit_found (s : Scanner Bool α ε) (i : Nat)
    (h : index d.symbols s.data = some i) :
    s.trySplit (delimitedSplit d) = (false, i + d.symbols.length, some (s.data.take i)) := by
  have hn : s.data ≠ [] := by
    intro hd
    have hl := index_add_le h
    have := d.length_pos
    rw [hd] at hl
    simp only [List.length_nil] at hl
    omega
  simp [trySplit, delimitedSplit, hn, h]

private theorem trySplit_absent (s : Scanner Bool α ε) (h : index d.symbols s.data = none)
    (he : s.err = none) : s.trySplit (delimitedSplit d) = (s.vars, 0, none) := by
  unfold trySplit
  split
  · simp [delimitedSplit, h, he]
  · rfl

private theorem trySplit_leftover (s : Scanner Bool α ε) (e : ScanEnd ε)
    (h : index d.symbols s.data = none) (he : s.err = some e) (hn : s.data ≠ []) :
    s.trySplit (delimitedSplit d) = (true, s.data.length, some s.data) := by
  simp [trySplit, delimitedSplit, h, he, hn]

private theorem trySplit_finished (s : Scanner Bool α ε) (e : ScanEnd ε)
    (he : s.err = some e) (hn : s.data = []) :
    s.trySplit (delimitedSplit d) = (s.vars, 0, none) := by
  simp [trySplit, delimitedSplit, he, hn]

private theorem advance_of_silent (s : Scanner Bool α ε)
    (h : s.trySplit (delimitedSplit d) = (s.vars, 0, none)) :
    s.advance (delimitedSplit d) = s := by
  simp [advance, h]

/-- Without a delimiter in the buffer a call reads on. -/
private theorem scan_refilled (s : Scanner Bool α ε) (h : index d.symbols s.data = none)
    (he : s.err = none) (hf : 0 < s.room bufLen) :
    scan (delimitedSplit d) bufLen s =
      { scan (delimitedSplit d) bufLen (s.refilled bufLen) with
        reads := (s.refill bufLen).1 ++
          (scan (delimitedSplit d) bufLen (s.refilled bufLen)).reads } := by
  have ht := trySplit_absent d s h he
  have ha := advance_of_silent d s ht
  have hs := scan_read (delimitedSplit d) bufLen s (by rw [ht]) he (by rw [ha]; exact hf)
  rw [ha] at hs
  exact hs

/-- Without a delimiter in a full buffer a call gives up. -/
private theorem scan_overfull (s : Scanner Bool α ε) (h : index d.symbols s.data = none)
    (he : s.err = none) (hf : s.room bufLen = 0) :
    scan (delimitedSplit d) bufLen s =
      ⟨[], none, { s.compact bufLen with err := some .tooLong }⟩ := by
  have ht := trySplit_absent d s h he
  have ha := advance_of_silent d s ht
  have hs := scan_full (delimitedSplit d) bufLen s (by rw [ht]) he (by rw [ha]; exact hf)
  rw [ha] at hs
  exact hs

/-! ### One call of `Scan` -/

/-- What one call of `Scan` can do on a delimited body, in terms of the input left. -/
inductive ScanStep (s : Scanner Bool α ε) (r : Scanned Bool α ε) : Prop where
  | segment (i : Nat) (found : index d.symbols s.rest = some i)
      (fitting : i + d.symbols.length ≤ bufLen) (token : r.token = some (s.rest.take i))
      (rest : r.next.rest = s.rest.drop (i + d.symbols.length))
      (stop : r.next.stop = s.stop) (vars : r.next.vars = false)
  | leftover (absent : index d.symbols s.rest = none) (ne_nil : s.rest ≠ [])
      (token : r.token = some s.rest) (rest : r.next.rest = [])
      (err : r.next.err = some s.stop) (vars : r.next.vars = true)
  | finished (nil : s.rest = []) (token : r.token = none) (err : r.next.err = some s.stop)
  | overflow (reading : s.err = none) (long : bufLen ≤ s.rest.length)
      (unfitting : ∀ i, index d.symbols s.rest = some i → bufLen < i + d.symbols.length)
      (token : r.token = none) (err : r.next.err = some .tooLong)

/-- One call of `Scan` on a delimited body takes the first segment of the input left,
the unterminated tail at its end, or nothing, and keeps the data inside the buffer. -/
theorem scan_step (s : Scanner Bool α ε) (hs : s.Fits bufLen) :
    ScanStep d bufLen s (scan (delimitedSplit d) bufLen s) ∧
      (scan (delimitedSplit d) bufLen s).next.Fits bufLen := by
  induction hn : s.pendingInput using Nat.strongRecOn generalizing s with
  | ind n ih =>
    cases hi : index d.symbols s.data with
    | some i =>
      -- The delimiter is already in the buffer, so the rest of the input cannot move it.
      have ht := trySplit_found d s i hi
      have hl := index_add_le hi
      have hr : index d.symbols s.rest = some i := by
        unfold rest
        split
        · exact index_append_some hi _
        · exact hi
      unfold Fits at hs
      rw [scan_token (delimitedSplit d) bufLen s (s.data.take i) (by rw [ht])]
      constructor
      · apply ScanStep.segment i hr (by omega)
        · unfold rest
          split
          · rw [List.take_append_of_le_length (by omega)]
          · rfl
        · simp only [rest, advance, ht]
          split
          · rw [List.drop_append_of_le_length hl]
          · rfl
        · simp only [stop, advance]
        · simp only [advance, ht]
      · simp only [Fits, advance, ht, List.length_drop]
        omega
    | none =>
      cases he : s.err with
      | none =>
        rcases Nat.eq_zero_or_pos (s.room bufLen) with hf | hf
        · have hb := length_data_of_full bufLen s hs hf
          have hr : s.rest = s.data ++ (s.body.yield maxConsecutiveEmptyReads).1 := by
            simp only [rest, he]
          rw [scan_overfull d bufLen s hi he hf]
          constructor
          · apply ScanStep.overflow he
            · rw [hr, List.length_append]; omega
            · intro i hx
              rw [hr] at hx
              have := index_append_none hi hx
              omega
            · rfl
            · rfl
          · exact compact_fits bufLen s hs
        · have hp := refilled_pendingInput bufLen s he hf
          obtain ⟨hstep, hfit⟩ := ih _ (by rw [← hn]; exact hp) (s.refilled bufLen)
            (refilled_fits bufLen s hf) rfl
          obtain ⟨hr, hst⟩ := refilled_rest bufLen s he
          rw [scan_refilled d bufLen s hi he hf]
          refine ⟨?_, hfit⟩
          cases hstep with
          | segment i found fitting token rest stop vars =>
            rw [hr] at found token rest
            exact .segment i found fitting token rest (by rw [← hst]; exact stop) vars
          | leftover absent ne_nil token rest err vars =>
            rw [hr] at absent ne_nil token
            exact .leftover absent ne_nil token rest (by rw [← hst]; exact err) vars
          | finished nil token err =>
            rw [hr] at nil
            exact .finished nil token (by rw [← hst]; exact err)
          | overflow reading long unfitting token err =>
            rw [hr] at long unfitting
            exact .overflow he long unfitting token err
      | some e =>
        have hr : s.rest = s.data := by simp only [rest, he]
        have hst : s.stop = e := by simp only [stop, he]
        by_cases hd : s.data = []
        · have ht := trySplit_finished d s e he hd
          rw [scan_ended (delimitedSplit d) bufLen s e (by rw [ht]) he]
          constructor
          · apply ScanStep.finished (by rw [hr, hd]) rfl
            simp only [advance, he, hst]
          · simp only [Fits, List.length_nil]; omega
        · have ht := trySplit_leftover d s e hi he hd
          unfold Fits at hs
          rw [scan_token (delimitedSplit d) bufLen s s.data (by rw [ht])]
          constructor
          · apply ScanStep.leftover (by rw [hr]; exact hi) (by rw [hr]; exact hd)
            · rw [hr]
            · simp [rest, advance, ht, he]
            · simp only [advance, he, hst]
            · simp only [advance, ht]
          · simp only [Fits, advance, ht, List.length_drop]
            omega

/-! ### The single reads -/

/-- What the reads of one call tell. A read is made only while no end was seen and no
delimiter has been received since the last token, and a token that comes before the end is
cut from what was received at the first delimiter. -/
structure Received (s : Scanner Bool α ε) (r : Scanned Bool α ε) : Prop where
  read : ∀ pre c post, r.reads = pre ++ c :: post →
    s.err = none ∧ index d.symbols (s.data ++ bytesRead pre) = none
  token : ∀ t, r.token = some t → r.next.err = none →
    s.err = none ∧ ∃ i, index d.symbols (s.data ++ bytesRead r.reads) = some i ∧
      t = (s.data ++ bytesRead r.reads).take i ∧
      r.next.data = (s.data ++ bytesRead r.reads).drop (i + d.symbols.length)

private theorem received_silent (s : Scanner Bool α ε) (r : Scanned Bool α ε)
    (hr : r.reads = [])
    (ht : ∀ t, r.token = some t → r.next.err = none → s.err = none ∧
      ∃ i, index d.symbols s.data = some i ∧
        t = s.data.take i ∧ r.next.data = s.data.drop (i + d.symbols.length)) :
    Received d s r := by
  constructor
  · intro pre c post h
    rw [hr] at h
    simp at h
  · intro t h he
    rw [hr]
    simpa [bytesRead] using ht t h he

/-- What one call of `Scan` receives and returns. -/
theorem scan_received (s : Scanner Bool α ε) :
    Received d s (scan (delimitedSplit d) bufLen s) := by
  induction hn : s.pendingInput using Nat.strongRecOn generalizing s with
  | ind n ih =>
    cases hi : index d.symbols s.data with
    | some i =>
      have ht := trySplit_found d s i hi
      rw [scan_token (delimitedSplit d) bufLen s (s.data.take i) (by rw [ht])]
      apply received_silent d s _ rfl
      intro t h he
      refine ⟨he, i, hi, ?_, ?_⟩
      · simpa using h.symm
      · simp only [advance, ht]
    | none =>
      cases he : s.err with
      | some e =>
        have hnext : (scan (delimitedSplit d) bufLen s).next.err = some e ∧
            (scan (delimitedSplit d) bufLen s).reads = [] := by
          cases ht : (s.trySplit (delimitedSplit d)).2.2 with
          | some t =>
            rw [scan_token (delimitedSplit d) bufLen s t ht]
            exact ⟨he, rfl⟩
          | none =>
            rw [scan_ended (delimitedSplit d) bufLen s e ht he]
            exact ⟨he, rfl⟩
        apply received_silent d s _ hnext.2
        intro t _ h
        rw [hnext.1] at h
        cases h
      | none =>
        rcases Nat.eq_zero_or_pos (s.room bufLen) with hf | hf
        · rw [scan_overfull d bufLen s hi he hf]
          apply received_silent d s _ rfl
          intro t h
          cases h
        · have hr := ih _ (by rw [← hn]; exact refilled_pendingInput bufLen s he hf)
            (s.refilled bufLen) rfl
          have hd := refilled_data bufLen s
          rw [scan_refilled d bufLen s hi he hf]
          constructor
          · intro pre c post h
            refine ⟨he, ?_⟩
            rcases List.append_eq_append_iff.mp h with ⟨l, hl, hrs⟩ | ⟨l, hl, hrs⟩
            · have hx := (hr.read l c post hrs).2
              rw [hd] at hx
              rw [hl, bytesRead, List.flatMap_append, ← List.append_assoc]
              exact hx
            · cases l with
              | nil =>
                simp only [List.append_nil] at hl
                simp only [List.nil_append] at hrs
                have hx := (hr.read [] c post hrs.symm).2
                rw [← hl]
                simpa [hd, bytesRead] using hx
              | cons x xs =>
                have hx := fill_reads_empty _ _ _ pre xs x hl
                rw [hx, List.append_nil]
                exact hi
          · intro t h hne
            obtain ⟨-, i, h1, h2, h3⟩ := hr.token t h hne
            rw [hd, List.append_assoc] at h1 h2 h3
            simp only [bytesRead, List.flatMap_append]
            exact ⟨he, i, h1, h2, h3⟩

/-- What a call works on stays inside the buffer: the data it starts with and all it reads, and
so its token. -/
theorem scan_buffered (s : Scanner Bool α ε) (hs : s.Fits bufLen) :
    (s.data ++ bytesRead (scan (delimitedSplit d) bufLen s).reads).length ≤ bufLen ∧
      ∀ t, (scan (delimitedSplit d) bufLen s).token = some t → t.length ≤ bufLen := by
  have hdata : s.data.length ≤ bufLen := by
    unfold Fits at hs
    omega
  induction hn : s.pendingInput using Nat.strongRecOn generalizing s with
  | ind n ih =>
    cases hi : index d.symbols s.data with
    | some i =>
      have ht := trySplit_found d s i hi
      rw [scan_token (delimitedSplit d) bufLen s (s.data.take i) (by rw [ht])]
      refine ⟨by simpa [bytesRead] using hdata, fun t h ↦ ?_⟩
      cases h
      rw [List.length_take]
      omega
    | none =>
      cases he : s.err with
      | some e =>
        by_cases hd : s.data = []
        · have ht := trySplit_finished d s e he hd
          rw [scan_ended (delimitedSplit d) bufLen s e (by rw [ht]) he]
          exact ⟨by simpa [bytesRead] using hdata, by simp⟩
        · have ht := trySplit_leftover d s e hi he hd
          rw [scan_token (delimitedSplit d) bufLen s s.data (by rw [ht])]
          refine ⟨by simpa [bytesRead] using hdata, fun t h ↦ ?_⟩
          cases h
          exact hdata
      | none =>
        rcases Nat.eq_zero_or_pos (s.room bufLen) with hf | hf
        · rw [scan_overfull d bufLen s hi he hf]
          exact ⟨by simpa [bytesRead] using hdata, by simp⟩
        · have hfit := refilled_fits bufLen s hf
          have hrec := ih _ (by rw [← hn]; exact refilled_pendingInput bufLen s he hf)
            (s.refilled bufLen) hfit (by unfold Fits at hfit; omega) rfl
          rw [refilled_data, List.append_assoc] at hrec
          rw [scan_refilled d bufLen s hi he hf]
          simpa only [bytesRead, List.flatMap_append] using hrec

/-! ### The whole scan -/

/-- The tokens of a delimited input: its segments, then its tail unless that is empty. -/
def tokensOf (w : List α) : List (List α × Bool) :=
  (segments d w).1.map (·, false) ++
    if (segments d w).2 = [] then [] else [((segments d w).2, true)]

/-- A segment fits the buffer together with its delimiter. -/
def SegmentFits (s : List α) : Prop := s.length + d.symbols.length ≤ bufLen

/-- What a whole scan can do. It reaches the end of the input, having returned every token,
or it stops at the first thing that does not fit: a segment too long for the buffer, or a
tail that fills it. -/
inductive DrainStep (s : Scanner Bool α ε) (r : List (List α × Bool) × Option (ScanEnd ε)) :
    Prop where
  | ended (tokens : r.1 = tokensOf d s.rest) (err : r.2 = some s.stop)
      (fitting : ∀ x ∈ (segments d s.rest).1, SegmentFits d bufLen x)
  | longSegment (before after : List (List α)) (long : List α)
      (split : (segments d s.rest).1 = before ++ long :: after)
      (tokens : r.1 = before.map (·, false)) (err : r.2 = some .tooLong)
      (fitting : ∀ x ∈ before, SegmentFits d bufLen x)
      (unfitting : ¬ SegmentFits d bufLen long)
  | longTail (tokens : r.1 = (segments d s.rest).1.map (·, false))
      (err : r.2 = some .tooLong)
      (fitting : ∀ x ∈ (segments d s.rest).1, SegmentFits d bufLen x)
      (long : bufLen ≤ (segments d s.rest).2.length)

private theorem drain_finished (s : Scanner Bool α ε) (hs : s.Fits bufLen) (e : ScanEnd ε)
    (he : s.err = some e) (hr : s.rest = []) :
    drain (delimitedSplit d) bufLen s = ([], some e) := by
  have hst : s.stop = e := by simp only [stop, he]
  cases (scan_step d bufLen s hs).1 with
  | finished nil token err => rw [drain_none _ _ _ token, err, hst]
  | segment i found => rw [hr] at found; simp [index, d.ne_nil] at found
  | leftover absent ne_nil => exact absurd hr ne_nil
  | overflow reading => rw [he] at reading; cases reading

/-- Scanning to the end returns the segments of the input in order, for every way the bytes
were cut into reads. -/
theorem drain_segments (s : Scanner Bool α ε) (hs : s.Fits bufLen) :
    DrainStep d bufLen s (drain (delimitedSplit d) bufLen s) := by
  induction hn : s.data.length + s.pendingInput using Nat.strongRecOn generalizing s with
  | ind n ih =>
    obtain ⟨hstep, hfit⟩ := scan_step d bufLen s hs
    cases hstep with
    | finished nil token err =>
      have hz : segments d s.rest = ([], []) := by
        rw [nil]
        exact segments_of_none (by simp [index, d.ne_nil])
      rw [drain_none _ _ _ token]
      apply DrainStep.ended
      · simp [tokensOf, hz]
      · exact err
      · simp [hz]
    | overflow reading long unfitting token err =>
      rw [drain_none _ _ _ token]
      cases hi : index d.symbols s.rest with
      | none =>
        have hz := segments_of_none hi
        apply DrainStep.longTail
        · simp [hz]
        · exact err
        · simp [hz]
        · rw [hz]; exact long
      | some i =>
        have hl := index_add_le hi
        have hz := segments_of_some hi
        apply DrainStep.longSegment [] _ (s.rest.take i)
        · rw [hz]; rfl
        · rfl
        · exact err
        · simp
        · have := unfitting i hi
          unfold SegmentFits
          rw [List.length_take]
          omega
    | leftover absent ne_nil token rest err vars =>
      have hz := segments_of_none absent
      rw [drain_some _ _ _ _ token, drain_finished d bufLen _ hfit _ err rest]
      apply DrainStep.ended
      · rw [tokensOf, hz, vars]
        simp [ne_nil]
      · rfl
      · simp [hz]
    | segment i found fitting token rest stop vars =>
      have hl := index_add_le found
      have hz := segments_of_some found
      have hr := ih _ (by rw [← hn]; exact scan_size_lt _ _ s _ token) _ hfit rfl
      have hf : SegmentFits d bufLen (s.rest.take i) := by
        unfold SegmentFits
        rw [List.length_take]
        omega
      rw [drain_some _ _ _ _ token, vars]
      cases hr with
      | ended tokens err fits =>
        rw [rest] at tokens fits
        apply DrainStep.ended
        · rw [tokensOf, hz, tokens, tokensOf]
          simp
        · rw [err, stop]
        · rw [hz]
          exact List.forall_mem_cons.mpr ⟨hf, fits⟩
      | longSegment before after long split tokens err fits unfits =>
        rw [rest] at split
        apply DrainStep.longSegment (s.rest.take i :: before) after long
        · rw [hz, split]; rfl
        · rw [tokens]; rfl
        · exact err
        · exact List.forall_mem_cons.mpr ⟨hf, fits⟩
        · exact unfits
      | longTail tokens err fits long =>
        rw [rest] at tokens fits long
        apply DrainStep.longTail
        · rw [hz, tokens]; rfl
        · exact err
        · rw [hz]
          exact List.forall_mem_cons.mpr ⟨hf, fits⟩
        · rw [hz]; exact long

/-- No token is longer than the buffer. -/
theorem drain_token_le (s : Scanner Bool α ε) (hs : s.Fits bufLen) :
    ∀ t ∈ (drain (delimitedSplit d) bufLen s).1, t.1.length ≤ bufLen := by
  induction hn : s.data.length + s.pendingInput using Nat.strongRecOn generalizing s with
  | ind n ih =>
    cases ht : (scan (delimitedSplit d) bufLen s).token with
    | none =>
      rw [drain_none _ _ _ ht]
      simp
    | some t =>
      rw [drain_some _ _ _ _ ht]
      refine List.forall_mem_cons.mpr ⟨(scan_buffered d bufLen s hs).2 t ht, ?_⟩
      exact ih _ (by rw [← hn]; exact scan_size_lt _ _ s _ ht) _ (scan_step d bufLen s hs).2 rfl

end Scanner
end PocketAp.Base
