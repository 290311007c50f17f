import PocketAp.Relay.Stream

/-!
# What a reply delivers

The purpose of `consumeBatches`, apart from how it reads: a reply determines a list of
batches and an ending, and delivering them means to validate each batch and hand the result
on before the next one, up to the first failure. `hide_consumeBatches` says that this is
what the code in `src/relay/stream.go:178–272` does once its reads are left out.
-/

namespace PocketAp.Relay

open PocketAp.Base PocketAp.Domain

/-- Reads of a body. -/
def Event.isRead {γ : Type} : Event γ → Bool
  | .read _ => true
  | _ => false

/-- Batches in order, and what is returned once all of them have been accepted. -/
structure Plan where
  batches : List Bytes
  ending : Except Err Unit

/-- Tokens that are batches: empty ones are not, nor is a tail whose end was never seen. -/
def planOfTokens (tokens : List (Bytes × Bool)) (err : Option (ScanEnd Err)) : Plan :=
  match scannerErr err with
  | none => ⟨(tokens.map Prod.fst).filter (fun b ↦ decide (b ≠ [])), .ok ()⟩
  | some e => ⟨((tokens.filter (fun t ↦ !t.2)).map Prod.fst).filter (fun b ↦ decide (b ≠ [])),
      .error (.errorf "read stream: " e)⟩

/-- All tokens the scanner still returns, and why it stops. -/
abbrev drainBatches (s : Scanner Bool UInt8 Err) :
    List (Bytes × Bool) × Option (ScanEnd Err) :=
  s.drain (delimitedSplit streamDelimiter) maxBatchBytes

/-- The plan of a streaming body. -/
def streamPlan (body : Body UInt8 Err) : Plan :=
  planOfTokens (drainBatches (newScanner body)).1 (drainBatches (newScanner body)).2

/-- The plan of a body that is one response. -/
def wholePlan (supplier : EndpointAddr) (body : Body UInt8 Err) : Plan :=
  let r := body.readAllLimited (maxResponseBytes + 1)
  match r.2.2 with
  | some e => ⟨[], .error (.errorf "read response: " e)⟩
  | none =>
    if maxResponseBytes < r.2.1.length then
      ⟨[], .error (.text ("response from " ++ supplier ++ " exceeds " ++
        toString maxResponseBytes ++ " bytes"))⟩
    else ⟨[r.2.1], .ok ()⟩

/-- The plan of a reply. -/
def plan [GoLib] (supplier : EndpointAddr) (body : Body UInt8 Err) (header : Header) : Plan :=
  if isStreamingResponse header then streamPlan body else wholePlan supplier body

section Deliver

variable {π σ ε : Type}
variable (validate : Bytes → Exec π σ ε (Except Err RelayResult))
  (onBatch : RelayResult → Exec π σ ε (Except Err Unit))

/-- Validate each batch and hand its result on, up to the first failure. -/
def deliver (ending : Except Err Unit) : List Bytes → Exec π σ ε (Except Err Unit)
  | [] => pure ending
  | b :: bs => do
    match ← validate b with
    | .error e => pure (.error e)
    | .ok result =>
      match ← onBatch result with
      | .error e => pure (.error e)
      | .ok () => deliver ending bs

end Deliver

section Tracked

variable {π σ ε : Type}
variable (validate : Bytes → Exec π σ ε (Except Err RelayResult))
  (onBatch : RelayResult → Exec π σ ε (Except Err Unit)) (ending : Except Err Unit)

/-- Deliver, with a flag that is set before every result that is handed on. -/
def deliverTracked (delivered : Bool) (bs : List Bytes) :
    Exec π σ ε (Except Err Unit × Bool) :=
  Exec.withVar delivered (deliver (fun batch ↦ Exec.lift (validate batch))
    (fun result ↦ Exec.setting true (onBatch result)) ending bs)

/-- Nothing is left to deliver. -/
theorem deliverTracked_nil (delivered : Bool) :
    deliverTracked validate onBatch ending delivered [] = pure (ending, delivered) := rfl

/-- One batch is validated and handed on, and then the others. -/
theorem deliverTracked_cons (delivered : Bool) (b : Bytes) (bs : List Bytes) :
    deliverTracked validate onBatch ending delivered (b :: bs) =
      (do match ← validate b with
          | .error e => pure (.error e, delivered)
          | .ok result =>
            match ← onBatch result with
            | .error e => pure (.error e, true)
            | .ok () => deliverTracked validate onBatch ending true bs) := by
  unfold deliverTracked
  simp only [deliver]
  rw [Exec.withVar_lift_bind]
  congr 1
  funext result
  cases result with
  | error e => rfl
  | ok result =>
    simp only
    rw [Exec.withVar_setting_bind]
    congr 1
    funext x
    cases x <;> rfl

end Tracked

section Refinement

variable {π σ γ : Type}
variable {validate : Bytes → Exec π σ (Event γ) (Except Err RelayResult)}
  {onBatch : RelayResult → Exec π σ (Event γ) (Except Err Unit)}

/-- Flushing the token held back and going on is delivering it first. -/
private theorem flush_bind (batch : Bytes) (v : Bool) (ending : Except Err Unit)
    (bs : List Bytes) :
    (flush validate onBatch (some (batch, v)) >>= fun
      | .error e => pure (.error e)
      | .ok () => deliver validate onBatch ending bs) =
    deliver validate onBatch ending (batch :: bs) := by
  simp only [flush, deliver, bind_assoc]
  congr 1
  funext result
  cases result with
  | error e => simp
  | ok result => rfl

/-- A last batch may be flushed without looking at the answer. -/
private theorem flush_last (batch : Bytes) (v : Bool) :
    flush validate onBatch (some (batch, v)) = deliver validate onBatch (.ok ()) [batch] := by
  rw [← flush_bind batch v]
  have hid : (fun x : Except Err Unit ↦ match x with
      | .error e => (pure (.error e) : Exec π σ (Event γ) (Except Err Unit))
      | .ok () => deliver validate onBatch (.ok ()) []) = pure := by
    funext x
    cases x <;> rfl
  rw [hid, bind_pure]

private theorem planOfTokens_nil_cons (v : Bool) (tokens : List (Bytes × Bool))
    (err : Option (ScanEnd Err)) :
    planOfTokens (([], v) :: tokens) err = planOfTokens tokens err := by
  unfold planOfTokens
  cases scannerErr err with
  | none => simp
  | some e => cases v <;> simp

private theorem planOfTokens_cons (batch : Bytes) (hb : batch ≠ [])
    (tokens : List (Bytes × Bool)) (err : Option (ScanEnd Err)) :
    planOfTokens ((batch, false) :: tokens) err =
      ⟨batch :: (planOfTokens tokens err).batches, (planOfTokens tokens err).ending⟩ := by
  unfold planOfTokens
  cases scannerErr err with
  | none => simp [hb]
  | some e => simp [hb]

/-- What follows the last token delivers what was held back, if that is a batch. -/
private theorem finishStream_eq (err : Option (ScanEnd Err)) (pending : Option (Bytes × Bool))
    (hne : ∀ batch v, pending = some (batch, v) → batch ≠ []) :
    finishStream validate onBatch err pending =
      deliver validate onBatch (planOfTokens pending.toList err).ending
        (planOfTokens pending.toList err).batches := by
  unfold finishStream planOfTokens
  cases pending with
  | none =>
    cases scannerErr err with
    | none => rfl
    | some e => rfl
  | some t =>
    obtain ⟨batch, v⟩ := t
    have hb := hne batch v rfl
    cases scannerErr err with
    | none => simpa [hb] using flush_last batch v
    | some e =>
      cases v with
      | true => rfl
      | false =>
        have hf := @flush_bind π σ γ validate onBatch batch false
          (.error (.errorf "read stream: " e)) []
        refine Eq.trans hf ?_
        simp [hb]

/-- A leftover token is the last one. -/
private theorem token_after_leftover (s : Scanner Bool UInt8 Err) (hs : s.Fits maxBatchBytes)
    (batch : Bytes)
    (ht : (scanBatch s).token = some batch)
    (hv : (scanBatch s).next.vars = true) :
    (scanBatch (scanBatch s).next).token = none := by
  obtain ⟨hstep, hfit⟩ := Scanner.scan_step streamDelimiter maxBatchBytes s hs
  cases hstep with
  | segment i found fitting token rest stop vars => rw [hv] at vars; cases vars
  | finished nil token err => rw [ht] at token; cases token
  | overflow reading long unfitting token err => rw [ht] at token; cases token
  | leftover absent ne_nil token rest err vars =>
    cases (Scanner.scan_step streamDelimiter maxBatchBytes _ hfit).1 with
    | segment i found => rw [rest] at found; simp [index, streamDelimiter] at found
    | leftover absent' ne_nil' => exact absurd rest ne_nil'
    | finished nil token' err' => exact token'
    | overflow reading long unfitting token' => exact token'

/-- Code with the reads left out of its record. -/
abbrev quiet {α β : Type} (f : α → Exec π σ (Event γ) β) (a : α) : Exec π σ (Event γ) β :=
  Exec.hide Event.isRead (f a)

private theorem quiet_eq_project {α β : Type} (f : α → Exec π σ (Event γ) β) :
    quiet f = fun a ↦ Exec.project (Option.guard fun e ↦ !e.isRead) (f a) :=
  funext fun a ↦ Exec.hide_eq_project _ (f a)

private theorem hide_flush (pending : Option (Bytes × Bool)) :
    Exec.hide Event.isRead (flush validate onBatch pending) =
      flush (quiet validate) (quiet onBatch) pending := by
  rw [Exec.hide_eq_project, project_flush, quiet_eq_project, quiet_eq_project]

private theorem hide_finishStream (err : Option (ScanEnd Err))
    (pending : Option (Bytes × Bool)) :
    Exec.hide Event.isRead (finishStream validate onBatch err pending) =
      finishStream (quiet validate) (quiet onBatch) err pending := by
  rw [Exec.hide_eq_project, project_finishStream, quiet_eq_project, quiet_eq_project]

private theorem hide_reads (chunks : List (Chunk UInt8 Err)) :
    Exec.hide Event.isRead (Exec.emitAll (chunks.map .read) : Exec π σ (Event γ) Unit) =
      pure () := by
  apply Exec.hide_emitAll
  intro e he
  obtain ⟨c, -, rfl⟩ := List.mem_map.mp he
  rfl

/-- The scan loop delivers the token held back and then those that are still to come. -/
private theorem hide_scanLoop (s : Scanner Bool UInt8 Err) (hs : s.Fits maxBatchBytes)
    (pending : Option (Bytes × Bool))
    (hne : ∀ batch v, pending = some (batch, v) → batch ≠ [])
    (hlast : ∀ batch, pending = some (batch, true) →
      (scanBatch s).token = none)
    (p : Plan)
    (hp : planOfTokens (pending.toList ++ (drainBatches s).1) (drainBatches s).2 = p) :
    Exec.hide Event.isRead (scanLoop validate onBatch s pending) =
      deliver (quiet validate) (quiet onBatch) p.ending p.batches := by
  induction hn : s.data.length + s.pendingInput using Nat.strongRecOn
    generalizing s pending p with
  | ind n ih =>
    cases ht : (scanBatch s).token with
    | none =>
      have hd : drainBatches s = ([], (scanBatch s).next.err) := Scanner.drain_none _ _ _ ht
      rw [hd, List.append_nil] at hp
      rw [scanLoop_none _ _ s pending ht, Exec.hide_bind, hide_reads, pure_bind,
        hide_finishStream, finishStream_eq _ pending hne]
      simp only at hp
      rw [hp]
    | some batch =>
      -- After the flush the new token is held back, unless it is empty.
      have hfit := (Scanner.scan_step streamDelimiter maxBatchBytes s hs).2
      have hrec (q : Plan) (hq : planOfTokens ((batch, (scanBatch s).next.vars) ::
          (drainBatches (scanBatch s).next).1) (drainBatches (scanBatch s).next).2 = q) :
          Exec.hide Event.isRead (scanLoop validate onBatch (scanBatch s).next
            (if batch = [] then none else some (batch, (scanBatch s).next.vars))) =
            deliver (quiet validate) (quiet onBatch) q.ending q.batches := by
        have hlt := Scanner.scan_size_lt _ _ s _ ht
        rw [hn] at hlt
        by_cases hb : batch = []
        · rw [if_pos hb]
          rw [hb, planOfTokens_nil_cons] at hq
          exact ih _ hlt _ hfit none (by simp) (by simp) q hq rfl
        · rw [if_neg hb]
          refine ih _ hlt _ hfit (some (batch, (scanBatch s).next.vars)) ?_ ?_ q hq rfl
          · intro b v h
            cases h
            exact hb
          · intro b h
            simp only [Option.some.injEq, Prod.mk.injEq] at h
            exact token_after_leftover s hs batch ht h.2
      have hd : drainBatches s = ((batch, (scanBatch s).next.vars) ::
          (drainBatches (scanBatch s).next).1, (drainBatches (scanBatch s).next).2) :=
        Scanner.drain_some _ _ _ _ ht
      rw [hd] at hp
      rw [scanLoop_some _ _ s pending batch ht, Exec.hide_bind, hide_reads, pure_bind,
        Exec.hide_bind, hide_flush]
      cases pending with
      | none =>
        simp only [flush, pure_bind]
        exact hrec p hp
      | some t =>
        obtain ⟨held, v⟩ := t
        cases v with
        | true => rw [hlast held rfl] at ht; cases ht
        | false =>
          have hh := hne held false rfl
          simp only [Option.toList, List.cons_append, List.nil_append] at hp
          rw [planOfTokens_cons held hh] at hp
          rw [← hp, ← flush_bind held false]
          congr 1
          funext x
          cases x with
          | error e => rfl
          | ok u => exact hrec _ rfl

/-- Reading a body as one response delivers its plan. -/
private theorem hide_consumeWhole (supplier : EndpointAddr) (body : Body UInt8 Err) :
    Exec.hide Event.isRead (consumeWhole validate onBatch supplier body) =
      deliver (quiet validate) (quiet onBatch) (wholePlan supplier body).ending
        (wholePlan supplier body).batches := by
  unfold consumeWhole wholePlan
  simp only
  rw [Exec.hide_bind, hide_reads, pure_bind]
  cases (body.readAllLimited (maxResponseBytes + 1)).2.2 with
  | some e => rfl
  | none =>
    simp only
    split
    · rfl
    · have hf := @hide_flush π σ γ validate onBatch
        (some ((body.readAllLimited (maxResponseBytes + 1)).2.1, false))
      refine Eq.trans hf ?_
      rw [flush_last]

/-- Apart from its reads, `consumeBatches` delivers the plan of the reply. -/
theorem hide_consumeBatches [GoLib] (validate : Bytes → Exec π σ (Event γ) (Except Err RelayResult))
    (onBatch : RelayResult → Exec π σ (Event γ) (Except Err Unit)) (supplier : EndpointAddr)
    (body : Body UInt8 Err) (header : Header) :
    Exec.hide Event.isRead (consumeBatches validate onBatch supplier body header) =
      deliver (quiet validate) (quiet onBatch) (plan supplier body header).ending
        (plan supplier body header).batches := by
  unfold consumeBatches plan
  split
  · apply hide_scanLoop (newScanner body) _ none (by simp) (by simp) _ rfl
    simp [Scanner.Fits, newScanner, maxBatchBytes]
  · exact hide_consumeWhole supplier body

/-- The callback makes no reads. -/
theorem quiet_callOnBatch (onBatch : RelayResult → Exec π σ γ (Except Err Unit)) :
    quiet (callOnBatch onBatch) = callOnBatch onBatch := by
  funext result
  rw [quiet, callOnBatch, Exec.hide_bind, Exec.hide_emit _ _ rfl,
    Exec.hide_mapEvents _ _ _ (fun _ ↦ rfl)]

/-- Nor does the validator. -/
theorem quiet_validateResponse (r : Relayer σ) (supplier : EndpointAddr) :
    quiet (r.validateResponse supplier : Bytes → Exec π σ (Event γ) _) =
      r.validateResponse supplier := by
  funext batch
  exact Exec.hide_call _ _ _ (fun _ ↦ rfl)

end Refinement

/-- A delivery returns nil exactly when nothing failed and the ending is nil. -/
theorem deliver_ok_iff {π σ ε : Type} (validate : Bytes → Exec π σ ε (Except Err RelayResult))
    (onBatch : RelayResult → Exec π σ ε (Except Err Unit)) (ending : Except Err Unit)
    (bs : List Bytes) (w : σ) :
    (deliver validate onBatch ending bs).outcome w = .ok (.ok ()) ↔
      ending = .ok () ∧ (deliver validate onBatch (.ok ()) bs).outcome w = .ok (.ok ()) := by
  unfold Exec.outcome
  induction bs generalizing w with
  | nil => simp [deliver, Exec.pure_run]
  | cons b bs ih =>
    simp only [deliver]
    rcases hv : validate b w with ⟨es, w₁, p | e | result⟩
    · simp [Exec.bind_run_error hv]
    · simp [Exec.bind_run_ok hv, Exec.pure_run]
    · rw [Exec.bind_run_ok hv, Exec.bind_run_ok hv]
      simp only
      rcases ho : onBatch result w₁ with ⟨es', w₂, p | e | u⟩
      · simp [Exec.bind_run_error ho]
      · simp [Exec.bind_run_ok ho, Exec.pure_run]
      · rw [Exec.bind_run_ok ho, Exec.bind_run_ok ho]
        exact ih w₂

end PocketAp.Relay
