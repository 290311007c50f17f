import PocketAp.Relay.Relay

/-!
# Senders

`src/pocket/sender.go` and the routing part of `src/pocket/grpc.go:512–557`. An HTTP client
is a seam that answers a request with an open reply; the two clients of `HTTPSender` differ
in their timeouts only. A send leaves the reply it got and what it read of it on record;
as a seam of the relayer it is the same code without the record.
-/

namespace PocketAp.Pocket

open PocketAp.Base PocketAp.Domain PocketAp.Relay

/-- `src/pocket/sender.go:35`. -/
def maxResponseBytes : Nat := 64 * 2 ^ 20

/-- The number of `sharedtypes.RPCType` a type is mapped to. `src/pocket/sender.go:108–114`. -/
def rpcTypeToShared : RPCType → Option Nat
  | .grpc => some 1
  | .webSocket => some 2
  | .jsonRPC => some 3
  | .rest => some 4
  | .cometBFT => some 5
  | .unknown => none

/-- `src/pocket/sender.go:118–124`. -/
def rpcTypeHeader (rpcType : RPCType) : String :=
  match rpcTypeToShared rpcType with
  | none => ""
  | some st => if st = 0 then "" else toString st

/-- A POST request. -/
structure PostRequest where
  url : String
  header : Header
  body : Bytes
  deriving DecidableEq, Repr

/-- What a send does with an HTTP client's answer: it gets a reply, and reads from its body. -/
inductive SendCall where
  | reply (reply : Reply)
  | read (chunk : Chunk UInt8 Err)

/-- The bytes that a send has read into memory. -/
def heldBytes (calls : List SendCall) : Bytes :=
  calls.flatMap fun
    | .read c => c.bytes
    | .reply _ => []

/-- `src/pocket/sender.go:22–29`; `newRequest` reports what is wrong with a URL. -/
structure HTTPSender (σ : Type) where
  newRequest : String → Option Err
  client : PostRequest → Seam σ (Except Err Reply)
  streamClient : PostRequest → Seam σ (Except Err Reply)

namespace HTTPSender

variable {σ : Type} (h : HTTPSender σ)

/-- `src/pocket/sender.go:78–85, 141–148`. -/
def buildRequest (url : String) (relayReqBz : Bytes) (rpcType : RPCType) :
    Except Err PostRequest :=
  match h.newRequest url with
  | some e => .error (.errorf "sender: build request: " e)
  | none => .ok ⟨url, ("Content-Type", ["application/json"]) ::
      (if rpcTypeHeader rpcType = "" then [] else [("Rpc-Type", [rpcTypeHeader rpcType])]),
      relayReqBz⟩

/-- What a reply is read to be. `src/pocket/sender.go:93–103`. -/
def readResponse (url : String) (reply : Reply) : Exec Empty σ SendCall (Except Err Bytes) := do
  let (chunks, body, err) := reply.body.readAllLimited (maxResponseBytes + 1)
  Exec.emitAll (chunks.map .read)
  match err with
  | some e => pure (.error (.errorf "sender: read response: " e))
  | none =>
    if maxResponseBytes < body.length then
      pure (.error (.text ("sender: response from " ++ url ++ " exceeds " ++
        toString maxResponseBytes ++ " bytes")))
    else pure (.ok body)

/-- `src/pocket/sender.go:77–104`, with what is read on record. -/
def sending (url : String) (relayReqBz : Bytes) (rpcType : RPCType) :
    Exec Empty σ SendCall (Except Err Bytes) :=
  match h.buildRequest url relayReqBz rpcType with
  | .error e => pure (.error e)
  | .ok req => do
    match ← Exec.act (h.client req) with
    | .error e => pure (.error (.errorf "sender: request failed: " e))
    | .ok reply =>
      Exec.emit (.reply reply)
      readResponse url reply

/-- `src/pocket/sender.go:77–104`. -/
def send (url : String) (relayReqBz : Bytes) (rpcType : RPCType) : Seam σ (Except Err Bytes) :=
  (h.sending url relayReqBz rpcType).seam

/-- `src/pocket/sender.go:140–158`. -/
def sendStream (url : String) (relayReqBz : Bytes) (rpcType : RPCType) :
    Seam σ (Except Err Reply) :=
  fun s ↦
    match h.buildRequest url relayReqBz rpcType with
    | .error e => (.error e, s)
    | .ok req =>
      match h.streamClient req s with
      | (.error e, s') => (.error (.errorf "sender: request failed: " e), s')
      | (.ok reply, s') => (.ok reply, s')

end HTTPSender

/-- `src/pocket/grpc.go:523–526`; `grpc` is `GRPCSender.Send`. -/
structure MultiSender (σ : Type) where
  http : HTTPSender σ
  grpc : Option (String → Bytes → RPCType → Seam σ (Except Err Bytes))

/-- A body that is a slice of bytes, as `bytes.Reader` hands it out. -/
def bytesReader : Bytes → Body UInt8 Err
  | [] => .final [] .eof
  | b :: bs => .more (b :: bs) (.final [] .eof)

namespace MultiSender

variable {σ : Type} (m : MultiSender σ)

/-- `src/pocket/grpc.go:534–539`. -/
def send (url : String) (relayReqBz : Bytes) (rpcType : RPCType) : Seam σ (Except Err Bytes) :=
  match rpcType, m.grpc with
  | .grpc, some g => g url relayReqBz .grpc
  | _, _ => m.http.send url relayReqBz rpcType

/-- `src/pocket/grpc.go:548–557`. -/
def sendStream (url : String) (relayReqBz : Bytes) (rpcType : RPCType) :
    Seam σ (Except Err Reply) :=
  match rpcType, m.grpc with
  | .grpc, some g => fun s ↦
    match g url relayReqBz .grpc s with
    | (.error e, s') => (.error e, s')
    | (.ok respBz, s') => (.ok ⟨bytesReader respBz, [], 200⟩, s')
  | _, _ => m.http.sendStream url relayReqBz rpcType

end MultiSender

/-- A reader of bytes has those bytes. -/
theorem bytesReader_bytes (bs : Bytes) : (bytesReader bs).bytes = bs := by
  cases bs with
  | nil => rfl
  | cons b bs => simp [bytesReader, Body.bytes]

/-- A reader of bytes ends well. -/
theorem bytesReader_stop (bs : Bytes) : (bytesReader bs).stop = .eof := by
  cases bs <;> rfl

end PocketAp.Pocket
