import PocketAp.Base.Scanner

/-!
# Laws of the token scanner

Library `Base`. What a body yields to a scanner, the equations of one `Scan` call, and
`drain`, the loop `for scanner.Scan()` run to its end. All of it holds for every split
function.
-/

namespace PocketAp.Base

/-! ### What a body yields to a scanner -/

/-- Bytes handed over before the scan ends, and why it ends; a reader that returns nothing
too often in a row ends it too. -/
def Body.yield {α ε : Type} : Nat → Body α ε → List α × ScanEnd ε
  | _, .final bs e => (bs, ScanEnd.ofRead e)
  | 0, .more [] _ => ([], .noProgress)
  | budget + 1, .more [] rest => rest.yield budget
  | _, .more (b :: bs) rest =>
    (b :: bs ++ (rest.yield maxConsecutiveEmptyReads).1,
      (rest.yield maxConsecutiveEmptyReads).2)

/-- At most `budget` empty reads come next, and at most `maxConsecutiveEmptyReads` in a row
after that. -/
def Body.progresses {α ε : Type} : Nat → Body α ε → Bool
  | _, .final _ _ => true
  | 0, .more [] _ => false
  | budget + 1, .more [] rest => rest.progresses budget
  | _, .more (_ :: _) rest => rest.progresses maxConsecutiveEmptyReads

/-- A reader makes progress when it never returns nothing too often in a row. -/
def Body.MakesProgress {α ε : Type} (b : Body α ε) : Prop :=
  b.progresses maxConsecutiveEmptyReads = true

instance {α ε : Type} (b : Body α ε) : Decidable b.MakesProgress :=
  inferInstanceAs (Decidable (_ = true))

/-- A body that makes progress yields all its bytes and its own end. -/
theorem Body.yield_of_progresses {α ε : Type} (budget : Nat) (b : Body α ε)
    (h : b.progresses budget = true) :
    b.yield budget = (b.bytes, ScanEnd.ofRead b.stop) := by
  induction b generalizing budget with
  | final bs e => rfl
  | more bs rest ih =>
    cases bs with
    | nil =>
      cases budget with
      | zero => cases h
      | succ budget => exact ih budget h
    | cons b bs =>
      simp only [Body.yield, ih maxConsecutiveEmptyReads h]
      rfl

/-- One that does not ends the scan. -/
theorem Body.yield_of_not_progresses {α ε : Type} (budget : Nat) (b : Body α ε)
    (h : b.progresses budget = false) : (b.yield budget).2 = .noProgress := by
  induction b generalizing budget with
  | final bs e => cases h
  | more bs rest ih =>
    cases bs with
    | nil =>
      cases budget with
      | zero => rfl
      | succ budget => exact ih budget h
    | cons b bs => exact ih maxConsecutiveEmptyReads h

namespace Scanner

variable {σ α ε : Type}

/-- Bytes read by a list of calls, in order. -/
def bytesRead (cs : List (Chunk α ε)) : List α := cs.flatMap Chunk.bytes

/-- Reading under a limit stops at it. -/
theorem length_readAllLimited (limit : Nat) (b : Body α ε) :
    (b.readAllLimited limit).2.1.length = min limit b.bytes.length := by
  induction b generalizing limit with
  | final bs e =>
    cases limit with
    | zero => simp [Body.readAllLimited]
    | succ limit =>
      simp only [Body.readAllLimited, Body.bytes]
      split
      · next h => simp only; omega
      · next h => simp only [List.length_take]
  | more bs rest ih =>
    cases limit with
    | zero => simp [Body.readAllLimited]
    | succ limit =>
      simp only [Body.readAllLimited, Body.bytes, List.length_append]
      split
      · next h =>
        simp only [List.length_append, ih]
        omega
      · next h =>
        simp only [List.length_take]
        omega

/-- Reading a body whole reads its bytes. -/
theorem bytesRead_readAll (b : Body α ε) : bytesRead b.readAll.1 = b.bytes := by
  induction b with
  | final bs e => simp [Body.readAll, bytesRead, Body.bytes]
  | more bs rest ih => simpa [Body.readAll, bytesRead, Body.bytes] using ih

/-- What it keeps is what it read. -/
theorem bytesRead_readAllLimited (limit : Nat) (b : Body α ε) :
    bytesRead (b.readAllLimited limit).1 = (b.readAllLimited limit).2.1 := by
  induction b generalizing limit with
  | final bs e =>
    cases limit with
    | zero => rfl
    | succ limit =>
      simp only [Body.readAllLimited]
      split <;> simp [bytesRead]
  | more bs rest ih =>
    cases limit with
    | zero => rfl
    | succ limit =>
      simp only [Body.readAllLimited]
      split
      · next h => simpa [bytesRead] using ih (limit + 1 - bs.length)
      · simp [bytesRead]

/-- The part of the input that no token has consumed yet. -/
def rest (s : Scanner σ α ε) : List α :=
  match s.err with
  | none => s.data ++ (s.body.yield maxConsecutiveEmptyReads).1
  | some _ => s.data

/-- Why the scan will end, unless a token does not fit. -/
def stop (s : Scanner σ α ε) : ScanEnd ε :=
  match s.err with
  | none => (s.body.yield maxConsecutiveEmptyReads).2
  | some e => e

/-- The data lies inside the buffer. -/
def Fits (bufLen : Nat) (s : Scanner σ α ε) : Prop := s.start + s.data.length ≤ bufLen

/-- A fill that met no end leaves the rest of the yield in the body. -/
theorem yield_fill_none (cap budget : Nat) (b : Body α ε)
    (h : (fill cap budget b).2.2.1 = none) :
    b.yield budget = ((fill cap budget b).2.1 ++
        ((fill cap budget b).2.2.2.yield maxConsecutiveEmptyReads).1,
      ((fill cap budget b).2.2.2.yield maxConsecutiveEmptyReads).2) := by
  induction b generalizing budget with
  | final bs e =>
    simp only [fill, Body.read] at h ⊢
    split at h
    · simp at h
    · next hl => simp [hl, Body.yield]
  | more bs rest ih =>
    cases bs with
    | nil =>
      cases budget with
      | zero => simp [fill] at h
      | succ budget =>
        simp only [fill] at h ⊢
        simpa only [Body.yield] using ih budget h
    | cons b bs =>
      simp only [fill, Body.read, Body.yield]
      split
      · rfl
      · next hl =>
        have hd : ((b :: bs).drop cap) ≠ [] := by
          intro hn
          have := congrArg List.length hn
          rw [List.length_drop] at this
          simp only [List.length_nil] at this
          omega
        obtain ⟨x, xs, hx⟩ := List.exists_cons_of_ne_nil hd
        simp only [hx, Body.yield]
        rw [← List.append_assoc, ← hx, List.take_append_drop]

/-- A fill that met the end has handed over everything. -/
theorem yield_fill_some (cap budget : Nat) (b : Body α ε) (e : ScanEnd ε)
    (h : (fill cap budget b).2.2.1 = some e) :
    b.yield budget = ((fill cap budget b).2.1, e) := by
  induction b generalizing budget with
  | final bs stop =>
    simp only [fill, Body.read] at h ⊢
    split at h
    · next hl =>
      simp only [Option.map_some, Option.some.injEq] at h
      simp [hl, Body.yield, h]
    · simp at h
  | more bs rest ih =>
    cases bs with
    | nil =>
      cases budget with
      | zero =>
        simp only [fill, Option.some.injEq] at h
        simp [fill, Body.yield, h]
      | succ budget =>
        simp only [fill] at h ⊢
        simpa only [Body.yield] using ih budget h
    | cons b bs => simp [fill] at h

/-- A fill stays within the room offered. -/
theorem length_fill_le (cap budget : Nat) (b : Body α ε) :
    (fill cap budget b).2.1.length ≤ cap := by
  induction b generalizing budget with
  | final bs e =>
    simp only [fill, Body.read]
    split
    · next hl => exact hl
    · simp only [List.length_take]; omega
  | more bs rest ih =>
    cases bs with
    | nil =>
      cases budget with
      | zero => simp [fill]
      | succ budget => simpa only [fill] using ih budget
    | cons b bs =>
      simp only [fill, Body.read]
      split
      · next hl => exact hl
      · simp only [List.length_take]; omega

/-- The bytes of a fill are the bytes its reads returned. -/
theorem bytesRead_fill (cap budget : Nat) (b : Body α ε) :
    bytesRead (fill cap budget b).1 = (fill cap budget b).2.1 := by
  induction b generalizing budget with
  | final bs e => simp [fill, bytesRead]
  | more bs rest ih =>
    cases bs with
    | nil =>
      cases budget with
      | zero => simp [fill, bytesRead]
      | succ budget => simpa [fill, bytesRead] using ih budget
    | cons b bs => simp [fill, bytesRead]

/-- Only the last read of a fill returns bytes. -/
theorem fill_reads_empty (cap budget : Nat) (b : Body α ε) (pre post : List (Chunk α ε))
    (c : Chunk α ε) (h : (fill cap budget b).1 = pre ++ c :: post) : bytesRead pre = [] := by
  induction b generalizing budget pre with
  | final bs e =>
    cases pre with
    | nil => rfl
    | cons p ps => simp [fill] at h
  | more bs rest ih =>
    cases bs with
    | nil =>
      cases budget with
      | zero =>
        cases pre with
        | nil => rfl
        | cons p ps => simp [fill] at h
      | succ budget =>
        cases pre with
        | nil => rfl
        | cons p ps =>
          simp only [fill, List.cons_append, List.cons.injEq] at h
          have hp := ih budget ps h.2
          simp only [bytesRead] at hp
          simp [bytesRead, ← h.1, hp]
    | cons b bs =>
      cases pre with
      | nil => rfl
      | cons p ps => simp [fill] at h

variable (sp : SplitFunc σ α) (bufLen : Nat)

/-! ### Compaction and refilling -/

private theorem compact_data (s : Scanner σ α ε) : (s.compact bufLen).data = s.data := by
  unfold compact
  split <;> rfl

private theorem compact_body (s : Scanner σ α ε) : (s.compact bufLen).body = s.body := by
  unfold compact
  split <;> rfl

/-- Compacting keeps the data within the buffer. -/
theorem compact_fits (s : Scanner σ α ε) (h : s.Fits bufLen) :
    (s.compact bufLen).Fits bufLen := by
  unfold Fits at h ⊢
  unfold compact
  split
  · simp only; omega
  · exact h

/-- Room left in the buffer once it has been compacted. -/
def room (s : Scanner σ α ε) : Nat :=
  bufLen - ((s.compact bufLen).start + (s.compact bufLen).data.length)

/-- After compaction a full buffer holds nothing but unread data. -/
theorem length_data_of_full (s : Scanner σ α ε) (hs : s.Fits bufLen)
    (h : s.room bufLen = 0) : bufLen ≤ s.data.length := by
  unfold Fits at hs
  unfold room at h
  rw [compact_data] at h
  unfold compact at h
  split at h
  · simp only at h; omega
  · next hc =>
    by_cases hz : 0 < s.start
    · exact absurd ⟨hz, Or.inl (by omega)⟩ hc
    · omega

/-- One round of reading, into the room left after compaction. -/
def refill (s : Scanner σ α ε) :
    List (Chunk α ε) × List α × Option (ScanEnd ε) × Body α ε :=
  fill (s.room bufLen) maxConsecutiveEmptyReads s.body

/-- The scanner after one round of reading. -/
def refilled (s : Scanner σ α ε) : Scanner σ α ε :=
  (s.compact bufLen).absorb (s.refill bufLen).2.1 (s.refill bufLen).2.2.1
    (s.refill bufLen).2.2.2

/-- What was read comes after what was there. -/
theorem refilled_data (s : Scanner σ α ε) :
    (s.refilled bufLen).data = s.data ++ bytesRead (s.refill bufLen).1 := by
  rw [refill, bytesRead_fill]
  simp only [refilled, absorb, compact_data, refill]

/-- Reading moves bytes from the body to the buffer; the input left stays the same. -/
theorem refilled_rest (s : Scanner σ α ε) (he : s.err = none) :
    (s.refilled bufLen).rest = s.rest ∧ (s.refilled bufLen).stop = s.stop := by
  simp only [rest, stop, he]
  simp only [refilled, absorb, compact_data]
  cases h : (s.refill bufLen).2.2.1 with
  | none =>
    have hy := yield_fill_none _ _ _ h
    simp only
    rw [hy]
    simp [refill, List.append_assoc]
  | some e =>
    have hy := yield_fill_some _ _ _ e h
    simp only
    rw [hy]
    exact ⟨rfl, rfl⟩

/-- A refill stays within the buffer. -/
theorem refilled_fits (s : Scanner σ α ε) (h : 0 < s.room bufLen) :
    (s.refilled bufLen).Fits bufLen := by
  have hl := length_fill_le (s.room bufLen) maxConsecutiveEmptyReads s.body
  unfold room at h hl
  simp only [Fits, refilled, absorb, refill, room, List.length_append]
  omega

/-- Reading brings the end of the input closer. -/
theorem refilled_pendingInput (s : Scanner σ α ε) (he : s.err = none)
    (h : 0 < s.room bufLen) : (s.refilled bufLen).pendingInput < s.pendingInput := by
  have hp : s.pendingInput = s.body.weight + 1 := by rw [pendingInput, he]; rfl
  rw [hp]
  exact weight_fill_lt (s.room bufLen) maxConsecutiveEmptyReads h s.body

/-- Reading never adds to data and input taken together. -/
theorem refilled_size_le (s : Scanner σ α ε) (he : s.err = none) :
    (s.refilled bufLen).data.length + (s.refilled bufLen).pendingInput ≤
      s.data.length + s.pendingInput := by
  have hp : s.pendingInput = s.body.weight + 1 := by rw [pendingInput, he]; rfl
  have hw := weight_fill_le (s.room bufLen) maxConsecutiveEmptyReads s.body
  have ho : owed (s.refill bufLen).2.2.1 ≤ 1 := by
    cases (s.refill bufLen).2.2.1 <;> simp [owed]
  rw [hp, refilled_data, refill, bytesRead_fill, List.length_append]
  change _ + ((s.refill bufLen).2.2.2.weight + owed (s.refill bufLen).2.2.1) ≤ _
  unfold refill at ho ⊢
  omega

/-! ### Equations of `Scan` -/

/-- A token in the data is returned without a read. -/
theorem scan_token (s : Scanner σ α ε) (t : List α) (h : (s.trySplit sp).2.2 = some t) :
    scan sp bufLen s = ⟨[], some t, s.advance sp⟩ := by
  rw [scan]
  simp only [h]

/-- Without a token and with nothing to come, the scan is over. -/
theorem scan_ended (s : Scanner σ α ε) (e : ScanEnd ε) (h : (s.trySplit sp).2.2 = none)
    (he : s.err = some e) :
    scan sp bufLen s = ⟨[], none, { s.advance sp with start := 0, data := [] }⟩ := by
  rw [scan]
  simp only [h]
  split
  · rfl
  · next hn => rw [he] at hn; cases hn

/-- Without a token and without room, the scan fails. -/
theorem scan_full (s : Scanner σ α ε) (h : (s.trySplit sp).2.2 = none) (he : s.err = none)
    (hf : (s.advance sp).room bufLen = 0) :
    scan sp bufLen s =
      ⟨[], none, { (s.advance sp).compact bufLen with err := some .tooLong }⟩ := by
  have hb : bufLen ≤ ((s.advance sp).compact bufLen).start +
      ((s.advance sp).compact bufLen).data.length := by
    unfold room at hf
    omega
  rw [scan]
  simp only [h]
  split
  · next hn => rw [he] at hn; cases hn
  · simp only [hb, dite_true]

/-- With room left a call reads once and goes on from the refilled buffer. -/
theorem scan_read (s : Scanner σ α ε) (h : (s.trySplit sp).2.2 = none) (he : s.err = none)
    (hf : 0 < (s.advance sp).room bufLen) :
    scan sp bufLen s =
      { scan sp bufLen ((s.advance sp).refilled bufLen) with
        reads := ((s.advance sp).refill bufLen).1 ++
          (scan sp bufLen ((s.advance sp).refilled bufLen)).reads } := by
  have hb : ¬ bufLen ≤ ((s.advance sp).compact bufLen).start +
      ((s.advance sp).compact bufLen).data.length := by
    unfold room at hf
    omega
  rw [scan]
  simp only [h]
  split
  · next hn => rw [he] at hn; cases hn
  · simp only [hb, dite_false]
    simp only [refilled, refill, room, compact_body]

/-- Scanning a token shrinks data and input together. -/
theorem scan_size_lt (s : Scanner σ α ε) (t : List α) (h : (scan sp bufLen s).token = some t) :
    (scan sp bufLen s).next.data.length + (scan sp bufLen s).next.pendingInput <
      s.data.length + s.pendingInput := by
  induction hn : s.pendingInput using Nat.strongRecOn generalizing s with
  | ind n ih =>
    cases ht : (s.trySplit sp).2.2 with
    | some u =>
      rw [scan_token sp bufLen s u ht]
      unfold trySplit at ht
      split at ht
      · next hc =>
        have hp := sp.token_advance _ _ _ u ht
        have hl := sp.advance_le s.vars s.data s.err.isSome
        have ha : (s.trySplit sp).2.1 = (sp.run s.vars s.data s.err.isSome).2.1 := by
          unfold trySplit; rw [if_pos hc]
        have hi : (s.advance sp).pendingInput = s.pendingInput := rfl
        simp only [hi, hn]
        simp only [advance, List.length_drop, ha]
        omega
      · cases ht
    | none =>
      cases he : s.err with
      | some e => rw [scan_ended sp bufLen s e ht he] at h; cases h
      | none =>
        rcases Nat.eq_zero_or_pos ((s.advance sp).room bufLen) with hf | hf
        · rw [scan_full sp bufLen s ht he hf] at h; cases h
        · rw [scan_read sp bufLen s ht he hf] at h ⊢
          have hlt := refilled_pendingInput bufLen (s.advance sp) he hf
          have hle := refilled_size_le bufLen (s.advance sp) he
          have hr := ih _ (by rw [← hn]; exact hlt) _ h rfl
          have hd : (s.advance sp).data.length ≤ s.data.length := by simp [advance]
          have hi : (s.advance sp).pendingInput = s.pendingInput := rfl
          simp only
          omega

/-- All tokens in order, each with the captured variables after it, and the recorded end. -/
def drain (s : Scanner σ α ε) : List (List α × σ) × Option (ScanEnd ε) :=
  match _h : (scan sp bufLen s).token with
  | none => ([], (scan sp bufLen s).next.err)
  | some t =>
    let r := drain (scan sp bufLen s).next
    ((t, (scan sp bufLen s).next.vars) :: r.1, r.2)
termination_by s.data.length + s.pendingInput
decreasing_by exact scan_size_lt sp bufLen s _ _h

/-- Scanning to the end of a scan that is over. -/
theorem drain_none (s : Scanner σ α ε) (h : (scan sp bufLen s).token = none) :
    drain sp bufLen s = ([], (scan sp bufLen s).next.err) := by
  rw [drain]
  split
  · rfl
  · next t ht => rw [h] at ht; cases ht

/-- Scanning to the end after a token. -/
theorem drain_some (s : Scanner σ α ε) (t : List α) (h : (scan sp bufLen s).token = some t) :
    drain sp bufLen s =
      ((t, (scan sp bufLen s).next.vars) :: (drain sp bufLen (scan sp bufLen s).next).1,
        (drain sp bufLen (scan sp bufLen s).next).2) := by
  rw [drain]
  split
  · next hn => rw [h] at hn; cases hn
  · next u hu =>
    rw [h] at hu
    cases hu
    rfl

/-- All reads in order. -/
def drainReads (s : Scanner σ α ε) : List (Chunk α ε) :=
  match _h : (scan sp bufLen s).token with
  | none => (scan sp bufLen s).reads
  | some _ => (scan sp bufLen s).reads ++ drainReads (scan sp bufLen s).next
termination_by s.data.length + s.pendingInput
decreasing_by exact scan_size_lt sp bufLen s _ _h

/-- Reads of a scan that is over. -/
theorem drainReads_none (s : Scanner σ α ε) (h : (scan sp bufLen s).token = none) :
    drainReads sp bufLen s = (scan sp bufLen s).reads := by
  rw [drainReads]
  split
  · rfl
  · next t ht => rw [h] at ht; cases ht

/-- Reads up to the first token and after it. -/
theorem drainReads_some (s : Scanner σ α ε) (t : List α)
    (h : (scan sp bufLen s).token = some t) :
    drainReads sp bufLen s =
      (scan sp bufLen s).reads ++ drainReads sp bufLen (scan sp bufLen s).next := by
  rw [drainReads]
  split
  · next hn => rw [h] at hn; cases hn
  · rfl

end Scanner
end PocketAp.Base
