import PocketAp.Relay.StreamSplit

/-!
# Framing a stream

The encoding that `src/relay/stream.go:205–272` undoes: each batch followed by the delimiter,
which may be missing after the last one. `||POKT_STREAM||` has borders of one and two bytes,
so a batch can complete an occurrence of it together with the delimiter that follows.
`framing_exact` says exactly when the batches come back.
-/

namespace PocketAp.Relay

open PocketAp.Base PocketAp.Domain

/-- Each batch followed by the delimiter; after the last one it stands only if `closed`. -/
def encodeBatches (closed : Bool) : List Bytes → Bytes
  | [] => []
  | [b] => if closed then b ++ streamDelimiter.symbols else b
  | b :: b' :: bs => b ++ streamDelimiter.symbols ++ encodeBatches closed (b' :: bs)

/-- The batches that a delimiter follows. -/
def followed (closed : Bool) (bs : List Bytes) : List Bytes := if closed then bs else bs.dropLast

/-- No batch contains the delimiter, and none that it follows ends in all of it but the last
two bytes or the last one. -/
structure Framed (closed : Bool) (bs : List Bytes) : Prop where
  contained : ∀ b ∈ bs, ¬streamDelimiter.symbols <:+: b
  overlapping : ∀ b ∈ followed closed bs, ¬streamDelimiter.symbols.take 13 <:+ b ∧
    ¬streamDelimiter.symbols.take 14 <:+ b

example : streamDelimiter.symbols.take 13 = "||POKT_STREAM".toUTF8.data.toList ∧
    streamDelimiter.symbols.take 14 = "||POKT_STREAM|".toUTF8.data.toList := by decide

/-- A batch that can be found again before a delimiter. -/
def FramedBatch (b : Bytes) : Prop :=
  ¬streamDelimiter.symbols <:+: b ∧ ¬streamDelimiter.symbols.take 13 <:+ b ∧
    ¬streamDelimiter.symbols.take 14 <:+ b

private theorem framed_single (b : Bytes) : Framed false [b] ↔ ¬streamDelimiter.symbols <:+: b := by
  constructor
  · intro h
    exact h.contained b (List.mem_singleton.mpr rfl)
  · intro h
    refine ⟨by simpa using h, ?_⟩
    simp [followed]

private theorem framed_closed (b : Bytes) : Framed true [b] ↔ FramedBatch b := by
  constructor
  · intro h
    exact ⟨h.contained b (List.mem_singleton.mpr rfl), h.overlapping b (List.mem_singleton.mpr rfl)⟩
  · rintro ⟨hc, ho⟩
    exact ⟨by simpa using hc, by simpa [followed] using ho⟩

private theorem framed_cons (closed : Bool) (b b' : Bytes) (bs : List Bytes) :
    Framed closed (b :: b' :: bs) ↔ FramedBatch b ∧ Framed closed (b' :: bs) := by
  have hf : followed closed (b :: b' :: bs) = b :: followed closed (b' :: bs) := by
    cases closed <;> rfl
  constructor
  · rintro ⟨hc, ho⟩
    rw [hf] at ho
    refine ⟨⟨hc b List.mem_cons_self, ho b List.mem_cons_self⟩, ?_, ?_⟩
    · exact fun x hx ↦ hc x (List.mem_cons_of_mem _ hx)
    · exact fun x hx ↦ ho x (List.mem_cons_of_mem _ hx)
  · rintro ⟨⟨hb, hbo⟩, hc, ho⟩
    refine ⟨List.forall_mem_cons.mpr ⟨hb, hc⟩, ?_⟩
    rw [hf]
    exact List.forall_mem_cons.mpr ⟨hbo, ho⟩

/-! ### One batch and its delimiter -/

/-- The borders of the delimiter. -/
private theorem border_streamDelimiter : ∀ k, k < 15 → 0 < k →
    IsBorder streamDelimiter.symbols k → k = 1 ∨ k = 2 := by
  decide

private theorem endsAtDelimiter_iff_framedBatch (b : Bytes) :
    EndsAtDelimiter streamDelimiter b ↔ FramedBatch b := by
  rw [endsAtDelimiter_iff]
  constructor
  · rintro ⟨hc, ho⟩
    refine ⟨hc, ?_, ?_⟩
    · exact ho 2 (by decide) (by decide) (by decide)
    · exact ho 1 (by decide) (by decide) (by decide)
  · rintro ⟨hc, h13, h14⟩
    refine ⟨hc, ?_⟩
    intro k hk hkd hb
    rcases border_streamDelimiter k hkd hk hb with rfl | rfl
    · exact h14
    · exact h13

/-- A framed batch is the first segment. -/
theorem segments_framed {b : Bytes} (hb : FramedBatch b) (rest : Bytes) :
    segments streamDelimiter (b ++ streamDelimiter.symbols ++ rest) =
      (b :: (segments streamDelimiter rest).1, (segments streamDelimiter rest).2) := by
  have hi := index_append_some ((endsAtDelimiter_iff_framedBatch b).mpr hb) rest
  rw [segments_of_some hi]
  have htake : (b ++ streamDelimiter.symbols ++ rest).take b.length = b := by
    rw [List.append_assoc, List.take_left]
  have hdrop : (b ++ streamDelimiter.symbols ++ rest).drop
      (b.length + streamDelimiter.symbols.length) = rest := by
    rw [← List.length_append, List.drop_left]
  rw [htake, hdrop]

private theorem batchesOf_framed {b : Bytes} (hb : FramedBatch b) (hne : b ≠ []) (rest : Bytes) :
    batchesOf (b ++ streamDelimiter.symbols ++ rest) .eof = b :: batchesOf rest .eof := by
  simp only [batchesOf, batchSegments, batchTail, segments_framed hb]
  simp [nonempty, hne]

/-! ### A batch that is not framed -/

private theorem batchesOf_nil : batchesOf [] .eof = [] := by
  have hnone : index streamDelimiter.symbols [] = none := by decide
  simp [batchesOf, batchSegments, batchTail, segments_of_none hnone, nonempty]

/-- What a stream delivers first is a part of its beginning. -/
private theorem batchesOf_head {w : Bytes} (hne : w ≠ [])
    (h0 : index streamDelimiter.symbols w ≠ some 0) :
    ∃ n l, batchesOf w .eof = w.take n :: l ∧
      ∀ i, index streamDelimiter.symbols w = some i → n = i := by
  cases hi : index streamDelimiter.symbols w with
  | none =>
    refine ⟨w.length, [], ?_, by simp⟩
    simp [batchesOf, batchSegments, batchTail, segments_of_none hi, nonempty, hne]
  | some i =>
    have hle := index_add_le hi
    refine ⟨i, nonempty (segments streamDelimiter (w.drop (i + streamDelimiter.symbols.length))).1 ++
      if (segments streamDelimiter (w.drop (i + streamDelimiter.symbols.length))).2 ≠ [] then
        [(segments streamDelimiter (w.drop (i + streamDelimiter.symbols.length))).2] else [], ?_,
      fun j hj ↦ Option.some.inj hj⟩
    have hpos : i ≠ 0 := by
      intro hz
      rw [hi, hz] at h0
      exact h0 rfl
    have htake : w.take i ≠ [] := by
      simp [hpos, hne]
    simp [batchesOf, batchSegments, batchTail, segments_of_some hi, nonempty, htake]

/-- No delivered batch contains the delimiter. -/
private theorem index_batchesOf {w b : Bytes} (h : b ∈ batchesOf w .eof) :
    index streamDelimiter.symbols b = none := by
  unfold batchesOf at h
  rcases List.mem_append.mp h with h | h
  · exact index_segment _ w b (List.mem_filter.mp h).1
  · split at h
    · rw [List.mem_singleton.mp h]
      exact index_tail _ w
    · cases h

/-- The delimiter begins a beginning of itself followed by itself only after all of it but two
bytes or one. -/
private theorem prefix_take_append : ∀ n, n < 15 → 0 < n →
    streamDelimiter.symbols.isPrefixOf (streamDelimiter.symbols.take n ++ streamDelimiter.symbols) →
    n = 13 ∨ n = 14 := by
  decide

/-- After such a beginning the stream goes on with what is left of the delimiter. -/
private theorem batchesOf_overlap (k : Nat) (rest : Bytes) :
    batchesOf (streamDelimiter.symbols ++ (streamDelimiter.symbols.drop k ++ rest)) .eof =
      batchesOf (streamDelimiter.symbols.drop k ++ rest) .eof := by
  have h0 : index streamDelimiter.symbols
      (streamDelimiter.symbols ++ (streamDelimiter.symbols.drop k ++ rest)) = some 0 :=
    index_append_some (by decide) _
  simp only [batchesOf, batchSegments, batchTail, segments_of_some h0, Nat.zero_add,
    List.drop_left, List.take_zero]
  simp [nonempty]

/-- A batch that begins like the delimiter is not what comes out when the stream goes on
differently. -/
private theorem batchesOf_ne_cons {w b : Bytes} (hb : b.take 2 = [124, 124])
    (hw : w.take 2 ≠ [124, 124]) (l : List Bytes) : batchesOf w .eof ≠ b :: l := by
  intro heq
  have hne : w ≠ [] := by
    rintro rfl
    rw [batchesOf_nil] at heq
    cases heq
  have h0 : index streamDelimiter.symbols w ≠ some 0 := by
    intro h0
    obtain ⟨v, hv⟩ := index_prefix h0
    rw [List.drop_zero] at hv
    exact hw (by rw [← hv]; rfl)
  obtain ⟨n, l', hhead, -⟩ := batchesOf_head hne h0
  rw [hhead] at heq
  have hbw : w.take n = b := (List.cons.inj heq).1
  have hlen : 2 ≤ (w.take n).length := by
    have h2 := congrArg List.length hb
    rw [List.length_take, List.length_cons, List.length_cons, List.length_nil] at h2
    rw [hbw]
    omega
  rw [List.length_take] at hlen
  rw [← hbw, List.take_take, Nat.min_eq_left (by omega)] at hb
  exact hw hb

/-- A batch that the delimiter would cut at its very start. -/
private theorem batchesOf_cut_at_start {b rest : Bytes}
    (h0 : index streamDelimiter.symbols (b ++ streamDelimiter.symbols) = some 0)
    (hne : b ≠ []) (l : List Bytes) :
    batchesOf (b ++ streamDelimiter.symbols ++ rest) .eof ≠ b :: l := by
  intro heq
  have hnone : index streamDelimiter.symbols b = none :=
    index_batchesOf (heq ▸ List.mem_cons_self)
  have hlen := index_append_none hnone h0
  have hd : streamDelimiter.symbols.length = 15 := rfl
  have hp : streamDelimiter.symbols <+: b ++ streamDelimiter.symbols := by
    simpa using index_prefix h0
  -- The batch is a proper beginning of the delimiter.
  have hb : b = streamDelimiter.symbols.take b.length :=
    List.prefix_iff_eq_take.mp
      (List.prefix_of_prefix_length_le (List.prefix_append b _) hp (by omega))
  have hpos := List.length_pos_iff.mpr hne
  rw [hb] at hp
  rcases prefix_take_append b.length (by omega) hpos (List.isPrefixOf_iff_prefix.mpr hp) with
    hn | hn
  · rw [hn] at hb
    subst hb
    exact batchesOf_ne_cons (by decide) (by simp [streamDelimiter]) l
      ((batchesOf_overlap 2 rest).symm.trans heq)
  · rw [hn] at hb
    subst hb
    exact batchesOf_ne_cons (by decide) (by simp [streamDelimiter]) l
      ((batchesOf_overlap 1 rest).symm.trans heq)

/-- A batch that is not framed does not come out first. -/
theorem batchesOf_unframed {b : Bytes} (hb : ¬FramedBatch b) (hne : b ≠ []) (rest : Bytes)
    (l : List Bytes) : batchesOf (b ++ streamDelimiter.symbols ++ rest) .eof ≠ b :: l := by
  have hp : streamDelimiter.symbols <+: (b ++ streamDelimiter.symbols).drop b.length := by
    rw [List.drop_left]
  obtain ⟨i, hle, hi⟩ := index_of_prefix (by simp only [List.length_append]; omega) hp
  by_cases hz : i = 0
  · subst hz
    exact batchesOf_cut_at_start hi hne l
  · -- The first batch ends where the delimiter was found, inside `b`.
    intro heq
    have hfound := index_append_some hi rest
    have hw : b ++ streamDelimiter.symbols ++ rest ≠ [] := by simp [hne]
    obtain ⟨n, l', hhead, hn⟩ := batchesOf_head hw (by rw [hfound]; simpa using hz)
    rw [hn i hfound, heq] at hhead
    have hbi : b = (b ++ streamDelimiter.symbols ++ rest).take i := (List.cons.inj hhead).1
    have hlen := congrArg List.length hbi
    rw [List.length_take, List.length_append, List.length_append] at hlen
    have hib : i = b.length := by omega
    rw [hib] at hi
    exact hb ((endsAtDelimiter_iff_framedBatch b).mp hi)

/-! ### Whole streams -/

/-- Framed batches come back. -/
theorem batchesOf_encode {closed : Bool} {bs : List Bytes} (hne : ∀ b ∈ bs, b ≠ [])
    (h : Framed closed bs) : batchesOf (encodeBatches closed bs) .eof = bs := by
  induction bs with
  | nil => exact batchesOf_nil
  | cons b bs ih =>
    obtain ⟨hb, hbs⟩ := List.forall_mem_cons.mp hne
    cases bs with
    | nil =>
      cases closed with
      | false =>
        have hnone := index_eq_none_iff.mpr ((framed_single b).mp h)
        simp [encodeBatches, batchesOf, batchSegments, batchTail, segments_of_none hnone,
          nonempty, hb]
      | true =>
        rw [encodeBatches, if_pos rfl, ← List.append_nil (b ++ _),
          batchesOf_framed ((framed_closed b).mp h) hb, batchesOf_nil]
    | cons b' bs =>
      obtain ⟨hf, hrest⟩ := (framed_cons closed b b' bs).mp h
      rw [encodeBatches, batchesOf_framed hf hb, ih hbs hrest]

/-- Batches that come back, before whatever else, are framed. -/
theorem framed_of_prefix {closed : Bool} {bs : List Bytes} (hne : ∀ b ∈ bs, b ≠ [])
    (h : bs <+: batchesOf (encodeBatches closed bs) .eof) : Framed closed bs := by
  induction bs with
  | nil => exact ⟨by simp, by cases closed <;> simp [followed]⟩
  | cons b bs ih =>
    obtain ⟨hb, hbs⟩ := List.forall_mem_cons.mp hne
    cases bs with
    | nil =>
      cases closed with
      | false =>
        rw [encodeBatches, if_neg (by decide)] at h
        exact (framed_single b).mpr (index_eq_none_iff.mp
          (index_batchesOf (h.subset List.mem_cons_self)))
      | true =>
        rw [encodeBatches, if_pos rfl, ← List.append_nil (b ++ _)] at h
        obtain ⟨l, hl⟩ := h
        by_contra hf
        exact batchesOf_unframed (mt (framed_closed b).mpr hf) hb [] _ hl.symm
    | cons b' bs =>
      rw [encodeBatches] at h
      by_cases hf : FramedBatch b
      · rw [batchesOf_framed hf hb] at h
        exact (framed_cons closed b b' bs).mpr ⟨hf, ih hbs (List.cons_prefix_cons.mp h).2⟩
      · obtain ⟨l, hl⟩ := h
        exact absurd hl.symm (batchesOf_unframed hf hb _ _)

/-- Even a stream that ends early delivers a first part of its batches. -/
theorem streamPlan_prefix (body : Body UInt8 Err) (hp : body.MakesProgress)
    (hstop : body.stop = .eof) : (streamPlan body).batches <+: batchesOf body.bytes .eof := by
  obtain ⟨hrest, hend⟩ := newScanner_rest body hp
  unfold streamPlan
  cases newScanner_drain body with
  | ended tokens err fitting =>
    rw [tokens, err, hrest, hend, planOfTokens_tokensOf, hstop]
  | longSegment before after long split tokens err fitting unfitting =>
    rw [hrest] at split
    rw [tokens, err, planOfTokens_tooLong, batchesOf, batchSegments, split]
    simp only [nonempty, List.filter_append, List.append_assoc]
    exact List.prefix_append _ _
  | longTail tokens err fitting long =>
    rw [hrest] at tokens
    rw [tokens, err, planOfTokens_tooLong]
    exact List.prefix_append _ _

/-- Every part that a framed stream is cut into fits the buffer. -/
theorem streamPlan_framed {closed : Bool} {bs : List Bytes} {body : Body UInt8 Err}
    (hne : ∀ b ∈ bs, b ≠ []) (hlen : ∀ b ∈ bs, b.length ≤ maxSegmentBytes)
    (hbytes : body.bytes = encodeBatches closed bs) (hstop : body.stop = .eof)
    (hprogress : body.MakesProgress) (h : Framed closed bs) : streamPlan body = ⟨bs, .ok ()⟩ := by
  have hbs := batchesOf_encode hne h
  have hpart (x : Bytes) (hx : x ∈ batchesOf (encodeBatches closed bs) .eof) :
      x.length ≤ maxSegmentBytes := hlen x (by rwa [hbs] at hx)
  rw [streamPlan_of_fits body hprogress, hbytes, hstop, hbs]
  · rfl
  · intro s hs
    rw [hbytes] at hs
    by_cases hz : s = []
    · simp [hz]
    · exact hpart s (List.mem_append_left _ (List.mem_filter.mpr ⟨hs, by simpa using hz⟩))
  · rw [hbytes]
    by_cases hz : batchTail (encodeBatches closed bs) = []
    · simp [hz, maxBatchBytes]
    · have htail := hpart (batchTail (encodeBatches closed bs))
        (List.mem_append_right _ (by rw [if_pos ⟨rfl, hz⟩]; simp))
      have hm : maxSegmentBytes = 262129 := rfl
      have hb : maxBatchBytes = 262144 := rfl
      omega

/-- Batches encoded with the delimiter come back from a stream that ends cleanly exactly when
they are framed, however the stream is cut into reads; batches that are not framed come back
as a different list. -/
theorem framing_exact {π σ γ : Type} [GoLib] (closed : Bool) (bs : List Bytes)
    (body : Body UInt8 Err) (hne : ∀ b ∈ bs, b ≠ []) (hlen : ∀ b ∈ bs, b.length ≤ 262129)
    (hbytes : body.bytes = encodeBatches closed bs) (hstop : body.stop = .eof)
    (hprogress : body.MakesProgress) :
    ∃ p : Plan,
      (∀ (r : Relayer σ) supplier (onBatch : RelayResult → Exec π σ γ (Except Err Unit)) header,
        isStreamingResponse header = true →
        Exec.hide Event.isRead (consumeBatches (r.validateResponse supplier)
          (callOnBatch onBatch) supplier body header) =
        deliver (r.validateResponse supplier) (callOnBatch onBatch) p.ending p.batches) ∧
      (Framed closed bs → p = ⟨bs, .ok ()⟩) ∧ (¬Framed closed bs → p.batches ≠ bs) := by
  refine ⟨streamPlan body, ?_, ?_, ?_⟩
  · intro r supplier onBatch header hstream
    have hc := hide_consumeBatches (r.validateResponse supplier) (callOnBatch onBatch)
      supplier body header
    rwa [quiet_validateResponse, quiet_callOnBatch, plan, if_pos hstream] at hc
  · exact streamPlan_framed hne hlen hbytes hstop hprogress
  · intro hf heq
    have hpre := streamPlan_prefix body hprogress hstop
    rw [heq, hbytes] at hpre
    apply hf
    exact framed_of_prefix hne hpre

/-- One batch that ends in all of the delimiter but its last two bytes, with the delimiter after
it in a second read: another list is delivered. -/
theorem framing_exact_overlap :
    ∃ p : Plan, p.batches ≠ [streamDelimiter.symbols.take 13] ∧
      Exec.hide Event.isRead (@consumeBatches Empty Unit Empty
        ((Relayer.scripted [] (fun _ ↦ .error errNoEndpoint)).validateResponse "pokt1a")
        (callOnBatch (fun _ ↦ pure (.ok ()))) GoLib.plain "pokt1a"
        (.more (streamDelimiter.symbols.take 13) (.final streamDelimiter.symbols .eof))
        [("Content-Type", ["text/event-stream"])]) =
      deliver ((Relayer.scripted [] (fun _ ↦ .error errNoEndpoint)).validateResponse "pokt1a")
        (callOnBatch (fun _ ↦ pure (.ok ()))) p.ending p.batches := by
  obtain ⟨p, hrun, -, hdiff⟩ := @framing_exact Empty Unit Empty GoLib.plain true
    [streamDelimiter.symbols.take 13]
    (.more (streamDelimiter.symbols.take 13) (.final streamDelimiter.symbols .eof))
    (by decide) (by decide) (by decide) rfl (by decide)
  refine ⟨p, hdiff ?_, hrun _ _ _ _ (by decide)⟩
  intro h
  exact ((framed_closed _).mp h).2.1 (List.suffix_refl _)

end PocketAp.Relay
