import PocketAp.Base.Tokens
import PocketAp.Relay.Relay

/-!
# Streaming relays

`src/relay/stream.go`. A reply is either one signed response or a sequence of signed
batches cut at a delimiter. `consumeBatches` is generic in the code that validates a batch
and in the code that receives the result, because `RelayStream` wraps the latter.
-/

namespace PocketAp.Relay

open PocketAp.Base PocketAp.Domain

/-- The bytes of `StreamDelimiter`, `||POKT_STREAM||`. `src/relay/stream.go:21`. -/
def streamDelimiter : Delimiter UInt8 where
  symbols := [124, 124, 80, 79, 75, 84, 95, 83, 84, 82, 69, 65, 77, 124, 124]
  ne_nil := by simp

example : streamDelimiter.symbols = "||POKT_STREAM||".toUTF8.data.toList := by decide

/-- `src/relay/stream.go:27`. -/
def maxBatchBytes : Nat := 256 * 1024

/-- `src/relay/stream.go:32`. -/
def maxResponseBytes : Nat := 64 * 2 ^ 20

/-- `src/relay/stream.go:41`. -/
def streamingMediaTypes : List String := ["text/event-stream", "application/x-ndjson"]

/-- `src/relay/stream.go:57–73`. -/
def isStreamingResponse [GoLib] (header : Header) : Bool :=
  let contentType :=
    match header.find? (fun kv ↦ equalFold kv.1 "Content-Type" && !kv.2.isEmpty) with
    | some (_, v :: _) => v
    | _ => ""
  if contentType = "" then false
  else
    match GoLib.parseMediaType contentType with
    | none => false
    | some mediaType => streamingMediaTypes.contains (toLower mediaType)

/-- The error `scanner.Err` reports; `io.EOF` is none. -/
def scannerErr : Option (ScanEnd Err) → Option Err
  | none => none
  | some .eof => none
  | some (.failed e) => some e
  | some .tooLong => some (.text "bufio.Scanner: token too long")
  | some .noProgress => some (.text "multiple Read calls return no data or error")

/-- The scanner over a fresh body, with the flag `leftover` unset.
`src/relay/stream.go:205–224`. -/
def newScanner (body : Body UInt8 Err) : Scanner Bool UInt8 Err := ⟨0, [], none, false, body⟩

/-- One call of `scanner.Scan`. -/
abbrev scanBatch (s : Scanner Bool UInt8 Err) : Scanned Bool UInt8 Err :=
  s.scan (delimitedSplit streamDelimiter) maxBatchBytes

section Consume

variable {π σ γ : Type}
variable (validate : Bytes → Exec π σ (Event γ) (Except Err RelayResult))
  (onBatch : RelayResult → Exec π σ (Event γ) (Except Err Unit))

/-- The token held back, if any. `src/relay/stream.go:234–244`. -/
def flush : Option (Bytes × Bool) → Exec π σ (Event γ) (Except Err Unit)
  | none => pure (.ok ())
  | some (batch, _) => do
    match ← validate batch with
    | .error e => pure (.error e)
    | .ok result => onBatch result

/-- After the last token. `src/relay/stream.go:259–271`. -/
def finishStream (err : Option (ScanEnd Err)) (pending : Option (Bytes × Bool)) :
    Exec π σ (Event γ) (Except Err Unit) :=
  match scannerErr err with
  | none => flush validate onBatch pending
  | some e =>
    match pending with
    | some (batch, false) => do
      match ← flush validate onBatch (some (batch, false)) with
      | .error flushErr => pure (.error flushErr)
      | .ok () => pure (.error (.errorf "read stream: " e))
    | _ => pure (.error (.errorf "read stream: " e))

/-- Flushing looks, from elsewhere, as flushing with what is seen of its two parts. -/
theorem project_flush {γ' : Type} (f : Event γ → Option (Event γ'))
    (pending : Option (Bytes × Bool)) :
    Exec.project f (flush validate onBatch pending) =
      flush (fun b ↦ Exec.project f (validate b)) (fun r ↦ Exec.project f (onBatch r)) pending := by
  cases pending with
  | none => rfl
  | some t =>
    simp only [flush]
    rw [Exec.project_bind]
    congr 1
    funext result
    cases result with
    | error e => rfl
    | ok result => rfl

/-- So does what follows the last token. -/
theorem project_finishStream {γ' : Type} (f : Event γ → Option (Event γ'))
    (err : Option (ScanEnd Err)) (pending : Option (Bytes × Bool)) :
    Exec.project f (finishStream validate onBatch err pending) =
      finishStream (fun b ↦ Exec.project f (validate b)) (fun r ↦ Exec.project f (onBatch r))
        err pending := by
  unfold finishStream
  cases scannerErr err with
  | none => exact project_flush validate onBatch f pending
  | some e =>
    simp only
    split
    · rw [Exec.project_bind, project_flush]
      congr 1
      funext x
      cases x <;> rfl
    · rfl

/-- The scan loop; `pending` is the token held back together with `pendingLeftover`.
`src/relay/stream.go:246–257`. -/
def scanLoop (s : Scanner Bool UInt8 Err) (pending : Option (Bytes × Bool)) :
    Exec π σ (Event γ) (Except Err Unit) :=
  let r := scanBatch s
  Exec.emitAll (r.reads.map .read) >>= fun _ ↦
    match _h : r.token with
    | none => finishStream validate onBatch r.next.err pending
    | some batch => do
      match ← flush validate onBatch pending with
      | .error e => pure (.error e)
      | .ok () => scanLoop r.next (if batch = [] then none else some (batch, r.next.vars))
termination_by s.data.length + s.pendingInput
decreasing_by exact Scanner.scan_size_lt _ _ s _ _h

/-- Without another token the stream is finished. -/
theorem scanLoop_none (s : Scanner Bool UInt8 Err) (pending : Option (Bytes × Bool))
    (h : (scanBatch s).token = none) :
    scanLoop validate onBatch s pending =
      Exec.emitAll ((scanBatch s).reads.map .read) >>= fun _ ↦
        finishStream validate onBatch (scanBatch s).next.err pending := by
  rw [scanLoop]
  congr 1
  funext _
  split
  · rfl
  · next batch hb => rw [h] at hb; cases hb

/-- Before another token is held back, the one held is flushed. -/
theorem scanLoop_some (s : Scanner Bool UInt8 Err) (pending : Option (Bytes × Bool))
    (batch : Bytes)
    (h : (scanBatch s).token = some batch) :
    scanLoop validate onBatch s pending =
      Exec.emitAll ((scanBatch s).reads.map .read) >>= fun _ ↦
        flush validate onBatch pending >>= fun
          | .error e => pure (.error e)
          | .ok () => scanLoop validate onBatch (scanBatch s).next
              (if batch = [] then none else some (batch, (scanBatch s).next.vars)) := by
  rw [scanLoop]
  congr 1
  funext _
  split
  · next hn => rw [h] at hn; cases hn
  · next b hb =>
    rw [h] at hb
    cases hb
    rfl

/-- A body that is one response. `src/relay/stream.go:186–202`. -/
def consumeWhole (supplier : EndpointAddr) (body : Body UInt8 Err) :
    Exec π σ (Event γ) (Except Err Unit) := do
  let (chunks, respBz, err) := body.readAllLimited (maxResponseBytes + 1)
  Exec.emitAll (chunks.map .read)
  match err with
  | some e => pure (.error (.errorf "read response: " e))
  | none =>
    if maxResponseBytes < respBz.length then
      pure (.error (.text ("response from " ++ supplier ++ " exceeds " ++
        toString maxResponseBytes ++ " bytes")))
    else
      match ← validate respBz with
      | .error e => pure (.error e)
      | .ok result => onBatch result

/-- `src/relay/stream.go:178–272`. -/
def consumeBatches [GoLib] (supplier : EndpointAddr) (body : Body UInt8 Err) (header : Header) :
    Exec π σ (Event γ) (Except Err Unit) :=
  if isStreamingResponse header then scanLoop validate onBatch (newScanner body) none
  else consumeWhole validate onBatch supplier body

end Consume

/-- Call back, leaving the call in the record; what the callback does is the client's. -/
def callOnBatch {π σ γ : Type} (onBatch : RelayResult → Exec π σ γ (Except Err Unit))
    (result : RelayResult) : Exec π σ (Event γ) (Except Err Unit) := do
  Exec.emit (.onBatch result)
  Exec.mapEvents .client (onBatch result)

namespace Relayer

variable {π σ γ : Type} [GoLib] (r : Relayer σ)

omit [GoLib] in
/-- After the body was consumed. `src/relay/stream.go:157–171`. -/
def conclude (serviceID : ServiceID) (rpcType : RPCType) (supplier : EndpointAddr)
    (err : Except Err Unit) (delivered : Bool) :
    Exec π σ (Event γ) (Attempt Err (Except Err Unit)) := do
  Exec.emit .close
  match err with
  | .error e =>
    r.observe serviceID rpcType supplier false (some e)
    if delivered then
      pure (.finish (.error (.errorf ("relay: stream from " ++ supplier ++
        " failed after delivery: ") e)))
    else pure (.next (.errorf ("relay: stream from " ++ supplier ++ " failed: ") e))
  | .ok () =>
    r.observe serviceID rpcType supplier true none
    pure (.finish (.ok ()))

/-- One attempt of `RelayStream`. `src/relay/stream.go:130–171`. -/
def streamAttempt (sendStream : String → Bytes → RPCType → Seam σ (Except Err Reply))
    (serviceID : ServiceID) (rpcType : RPCType) (input : RelayInput)
    (onBatch : RelayResult → Exec π σ γ (Except Err Unit))
    (session : Session) (ep : Endpoint) :
    Exec π σ (Event γ) (Attempt Err (Except Err Unit)) :=
  match ep.url rpcType with
  | none => pure (.next errNoEndpoint)
  | some url => do
    match ← r.signRelay session ep rpcType input with
    | .error e => pure (.finish (.error (.errorf "relay: sign failed: " e)))
    | .ok relayReq =>
      match ← Exec.call (sendStream url relayReq rpcType) (.sendStream url relayReq rpcType) with
      | .error e =>
        r.observe serviceID rpcType ep.supplier false (some e)
        pure (.next (.errorf ("relay: send to " ++ ep.supplier ++ " failed: ") e))
      | .ok reply =>
        -- The closure given to `consumeBatches` sets the captured flag before it calls on.
        let consumed ← Exec.withVar false (consumeBatches
          (fun batch ↦ Exec.lift (r.validateResponse ep.supplier batch))
          (fun result ↦ Exec.setting true (callOnBatch onBatch result))
          ep.supplier reply.body reply.header)
        r.conclude serviceID rpcType ep.supplier consumed.1 consumed.2

/-- `src/relay/stream.go:88–175`. -/
def relayStream (ctx : Context) (serviceID : ServiceID) (rpcType : RPCType) (input : RelayInput)
    (onBatch : RelayResult → Exec π σ γ (Except Err Unit)) :
    Exec π σ (Event γ) (Except Err Unit) :=
  match r.streamSender with
  | none => pure (.error (.text "relay: RelayStream needs a StreamSender"))
  | some sendStream =>
    r.withFailover ctx serviceID rpcType
      (r.streamAttempt sendStream serviceID rpcType input onBatch)

/-- A relayer whose seams answer the same every time: the endpoints of the session in order,
replies by URL, and every batch valid with itself as the body. -/
def scripted (endpoints : List Endpoint) (reply : String → Except Err Reply) : Relayer Unit where
  sessions serviceID := fun s ↦ (.ok ⟨"session", serviceID, "app", 1, endpoints, none⟩, s)
  signer _ _ _ _ := fun s ↦ (.ok [], s)
  validator _ batch := fun s ↦ (.ok ⟨200, [], batch⟩, s)
  selector := ⟨fun _ _ eps _ s ↦ (.ok eps, s), some (fun _ _ s ↦ s)⟩
  sender url _ _ := fun s ↦ ((reply url).map (fun x ↦ x.body.bytes), s)
  maxAttempts := 0
  streamSender := some (fun url _ _ s ↦ (reply url, s))

end Relayer
end PocketAp.Relay
