import PocketAp.Base.Frames
import PocketAp.Base.Text
import PocketAp.Pocket.Sender

/-!
# The gRPC sender

`src/pocket/grpc.go`. A relay goes to the miner as a native gRPC call or framed as gRPC-Web in
a POST request; in auto mode a sender remembers the hosts that do not speak HTTP/2. The gRPC
stream and the HTTP client are seams, and so is what `net/url` renders. An `int` has 64 bits
and a body in memory is shorter than `2^62` bytes, so that offsets do not overflow. What the cache
of connections returns is part of the stream seam; `PocketAp.Pocket.Conns` has the cache.
-/

namespace PocketAp.Pocket

open PocketAp.Base PocketAp.Domain PocketAp.Relay

/-- `src/pocket/grpc.go:31`. -/
def relayServiceMethodPath : String := "/pocket.service.RelayService/SendRelay"

/-- `src/pocket/grpc.go:37`. -/
def rpcTypeMetadataKey : String := "rpc-type"

/-- `src/pocket/grpc.go:48–57`. -/
inductive GRPCMode where
  | auto
  | native
  | web
  deriving DecidableEq, Repr

/-- `src/pocket/grpc.go:113–118`; an unrecognised mode is auto. -/
def grpcMode (mode : String) : GRPCMode :=
  if mode = "native" then .native else if mode = "web" then .web else .auto

/-- `src/pocket/grpc.go:62`. -/
def grpcWebContentType : String := "application/grpc-web+proto"

/-- `src/pocket/grpc.go:66`. -/
def grpcFrameHeaderLen : Nat := 5

/-- `src/pocket/grpc.go:70`. -/
def grpcTrailerFlag : UInt8 := 0x80

/-! ### Dial targets -/

/-- `(*url.URL).Port` of a host. -/
def urlPort (host : String) : String :=
  match lastIndex ':' host.toList with
  | none => ""
  | some i =>
    let port := host.toList.drop (i + 1)
    if port.all isDigit then String.ofList port else ""

/-- Whether a scheme wants TLS; `none` is no gRPC scheme. `src/pocket/grpc.go:330–338`. -/
def grpcTLS (scheme : String) : Option Bool :=
  if scheme = "https" ∨ scheme = "grpcs" then some true
  else if scheme = "http" ∨ scheme = "grpc" then some false
  else none

/-- `src/pocket/grpc.go:313–351`; `parseError` is what `url.Parse` says of a URL it rejects. -/
def grpcTarget [GoLib] (parseError : String → Err) (endpointURL : String) :
    Except Err (String × Bool) :=
  if !contains endpointURL "://" then
    if endpointURL = "" then .error (.text "grpc sender: empty endpoint url")
    else .ok (endpointURL, false)
  else
    match GoLib.parseURL endpointURL with
    | none =>
      .error (.errorf ("grpc sender: parse url " ++ GoLib.quote endpointURL ++ ": ")
        (parseError endpointURL))
    | some u =>
      match grpcTLS (toLower u.scheme) with
      | none =>
        .error (.text ("grpc sender: url " ++ GoLib.quote endpointURL ++ " has scheme " ++
          GoLib.quote u.scheme ++ ", want http(s) or grpc(s)"))
      | some useTLS =>
        if u.host = "" then
          .error (.text ("grpc sender: url " ++ GoLib.quote endpointURL ++ " has no host"))
        else
          .ok (if urlPort u.host = "" then u.host ++ (if useTLS then ":443" else ":80")
            else u.host, useTLS)

/-- `src/pocket/grpc.go:380–409`; `withPath` renders the URL with another scheme and the service
path, without query and fragment. -/
def grpcWebURL [GoLib] (parseError : String → Err) (withPath : String → String → String)
    (endpointURL : String) : Except Err String :=
  if endpointURL = "" then .error (.text "grpc-web sender: empty endpoint url")
  else if !contains endpointURL "://" then
    .ok ("http://" ++ endpointURL ++ relayServiceMethodPath)
  else
    match GoLib.parseURL endpointURL with
    | none =>
      .error (.errorf ("grpc-web sender: parse url " ++ GoLib.quote endpointURL ++ ": ")
        (parseError endpointURL))
    | some u =>
      match grpcTLS (toLower u.scheme) with
      | none =>
        .error (.text ("grpc-web sender: url " ++ GoLib.quote endpointURL ++ " has scheme " ++
          GoLib.quote u.scheme ++ ", want http(s) or grpc(s)"))
      | some useTLS =>
        if u.host = "" then
          .error (.text ("grpc-web sender: url " ++ GoLib.quote endpointURL ++ " has no host"))
        else .ok (withPath endpointURL (if useTLS then "https" else "http"))

/-! ### Frames -/

/-- `src/pocket/grpc.go:413–419`. -/
def encodeGRPCFrame (flag : UInt8) (msg : Bytes) : Bytes :=
  [flag] ++ putUint32 msg.length ++ msg

/-- A slice of a slice; `none` is the panic for bounds out of range. -/
def slice (bs : Bytes) (low high : Nat) : Option Bytes :=
  if low ≤ high ∧ high ≤ bs.length then some ((bs.take high).drop low) else none

/-- What is looked up in a map of trailers. -/
abbrev Trailers := String → Option String

/-- The map after one line. `src/pocket/grpc.go:451–455`. -/
def addTrailer [GoLib] (out : Trailers) (line : String) : Trailers :=
  match cutAt ':' line with
  | none => out
  | some (key, value) => Function.update out (toLower (trimSpace key)) (some (trimSpace value))

/-- `src/pocket/grpc.go:448–458`; `text` is the conversion of bytes to a string. -/
def parseGRPCTrailers [GoLib] (text : Bytes → String) (payload : Bytes) : Trailers :=
  ((splitLines (text payload).toList).map String.ofList).foldl addTrailer (fun _ ↦ none)

section Decode

variable [GoLib] (text : Bytes → String)

/-- The loop from an offset on; `none` is a panic. `src/pocket/grpc.go:425–443`. -/
def decodeFrom (body : Bytes) (off : Nat) (message : Option Bytes) (trailers : Trailers) :
    Option (Except Err (Option Bytes × Trailers)) :=
  if off < body.length then
    if body.length < off + grpcFrameHeaderLen then
      some (.error (.text ("truncated frame header at byte " ++ toString off)))
    else
      match body[off]?, slice body (off + 1) (off + grpcFrameHeaderLen) with
      | some flag, some field =>
        let size := uint32 field
        let start := off + grpcFrameHeaderLen
        if body.length < start + size then
          some (.error (.text ("frame at byte " ++ toString off ++ " claims " ++ toString size ++
            " bytes, only " ++ toString (body.length - start) ++ " remain")))
        else
          match slice body start (start + size) with
          | none => none
          | some payload =>
            if flag &&& grpcTrailerFlag ≠ 0 then
              decodeFrom body (start + size) message (parseGRPCTrailers text payload)
            else decodeFrom body (start + size) (message.or (some payload)) trailers
      | _, _ => none
  else some (.ok (message, trailers))
termination_by body.length - off
decreasing_by
  all_goals
    simp only [grpcFrameHeaderLen] at *
    omega

/-- `src/pocket/grpc.go:424–444`. -/
def decodeGRPCWebResponse (body : Bytes) : Option (Except Err (Option Bytes × Trailers)) :=
  decodeFrom text body 0 none (fun _ ↦ none)

end Decode

/-- `src/pocket/grpc.go:463–473`. -/
def grpcStatusFrom (trailers : Trailers) (header : Header) : Int × String :=
  match trailers "grpc-status" with
  | some raw => ((atoi raw).1, (trailers "grpc-message").getD "")
  | none =>
    let raw := getHeader header "Grpc-Status"
    if raw ≠ "" then ((atoi raw).1, getHeader header "Grpc-Message") else (0, "")

/-! ### Errors -/

/-- An error of grpc-go and the status code it carries; wrapping keeps the code. -/
structure StatusErr where
  code : Nat
  err : Err
  deriving DecidableEq, Repr

/-- `fmt.Errorf` keeps the status code. -/
def StatusErr.errorf (pre : String) (e : StatusErr) : StatusErr := ⟨e.code, .errorf pre e.err⟩

/-- `codes.Unknown`. -/
def codeUnknown : Nat := 2

/-- `codes.Unimplemented`. -/
def codeUnimplemented : Nat := 12

/-- `src/pocket/grpc.go:499–502`. -/
def notHTTP2Markers : List String :=
  ["505", "HTTP Version Not Supported", "gRPC requires HTTP/2", "looked like an HTTP/1.1 header"]

/-- `src/pocket/grpc.go:491–503`. -/
def isNotHTTP2 (e : StatusErr) : Bool :=
  e.code == codeUnimplemented || notHTTP2Markers.any (contains e.err.message ·)

/-- The calls a native relay makes. -/
inductive NativeCall where
  | dial
  | openStream
  | send
  | closeSend
  | receive
  deriving DecidableEq, Repr

/-- What their errors are wrapped with. `src/pocket/grpc.go:212–226, 300`. -/
def NativeCall.format (endpointURL target : String) : NativeCall → String
  | .dial => "grpc sender: dial " ++ target ++ ": "
  | .openStream => "grpc sender: open stream to " ++ endpointURL ++ ": "
  | .send => "grpc sender: send to " ++ endpointURL ++ ": "
  | .closeSend => "grpc sender: close send to " ++ endpointURL ++ ": "
  | .receive => "grpc sender: receive from " ++ endpointURL ++ ": "

/-- `src/pocket/grpc.go:505–510`, on the bytes of the text. -/
def truncateForError (text : Bytes → String) (bs : Bytes) (n : Nat) : String :=
  if bs.length ≤ n then text bs else text (bs.take n) ++ "…"

/-! ### The sender -/

/-- `src/pocket/grpc.go:90–103`. The stream seam dials, sends one message and receives one; a
failure says in which call. -/
structure GRPCSender (σ : Type) where
  mode : GRPCMode
  parseError : String → Err
  withPath : String → String → String
  newRequest : String → Option Err
  stream : String → Bool → Bytes → RPCType → Seam σ (Except (NativeCall × StatusErr) Bytes)
  client : PostRequest → Seam σ (Except Err Reply)
  text : Bytes → String

namespace GRPCSender

variable {σ : Type} [GoLib] (g : GRPCSender σ)

/-- `src/pocket/grpc.go:186–228`. -/
def sendNative (endpointURL : String) (relayReqBz : Bytes) (rpcType : RPCType) :
    Seam σ (Except StatusErr Bytes) :=
  fun s ↦
    match grpcTarget g.parseError endpointURL with
    | .error e => (.error ⟨codeUnknown, e⟩, s)
    | .ok (target, useTLS) =>
      match g.stream target useTLS relayReqBz rpcType s with
      | (.error (call, e), s') => (.error (e.errorf (call.format endpointURL target)), s')
      | (.ok respBz, s') => (.ok respBz, s')

/-- `src/pocket/grpc.go:237–246`. -/
def webRequest (target : String) (relayReqBz : Bytes) (rpcType : RPCType) : Except Err PostRequest :=
  match g.newRequest target with
  | some e => .error (.errorf "grpc-web sender: build request: " e)
  | none => .ok ⟨target, ("Content-Type", [grpcWebContentType]) ::
      (if rpcTypeHeader rpcType = "" then []
        else [(canonicalHeaderKey rpcTypeMetadataKey, [rpcTypeHeader rpcType])]),
      encodeGRPCFrame 0 relayReqBz⟩

/-- What is made of an answer whose body has been read. `src/pocket/grpc.go:254–277`. -/
def webResult (target : String) (reply : Reply) : Bytes × Option Err → Except Err Bytes
  | (_, some e) =>
    .error (.errorf ("grpc-web sender: read response from " ++ target ++ ": ") e)
  | (body, none) =>
    if reply.statusCode ≠ 200 then
      .error (.text ("grpc-web sender: " ++ target ++ " returned HTTP " ++
        toString reply.statusCode ++ ": " ++ truncateForError g.text body 200))
    else
      -- No body makes the decoder panic.
      match (decodeGRPCWebResponse g.text body).getD (.error (.sentinel .panicked)) with
      | .error e => .error (.errorf ("grpc-web sender: " ++ target ++ ": ") e)
      | .ok (message, trailers) =>
        let status := grpcStatusFrom trailers reply.header
        if status.1 ≠ 0 then
          .error (.text ("grpc-web sender: " ++ target ++ " returned grpc-status " ++
            toString status.1 ++ ": " ++ status.2))
        else
          match message with
          | none => .error (.text ("grpc-web sender: " ++ target ++ " returned no message frame"))
          | some message => .ok message

/-- The body is read to its end. `src/pocket/grpc.go:253–277`. -/
def readWeb (target : String) (reply : Reply) : Exec Empty σ SendCall (Except Err Bytes) := do
  let (chunks, read) := reply.body.readAll
  Exec.emitAll (chunks.map .read)
  pure (g.webResult target reply read)

/-- `src/pocket/grpc.go:231–277`, with what is read on record. -/
def sendingWeb (endpointURL : String) (relayReqBz : Bytes) (rpcType : RPCType) :
    Exec Empty σ SendCall (Except Err Bytes) :=
  match grpcWebURL g.parseError g.withPath endpointURL with
  | .error e => pure (.error e)
  | .ok target =>
    match g.webRequest target relayReqBz rpcType with
    | .error e => pure (.error e)
    | .ok req => do
      match ← Exec.act (g.client req) with
      | .error e => pure (.error (.errorf ("grpc-web sender: " ++ target ++ ": ") e))
      | .ok reply =>
        Exec.emit (.reply reply)
        g.readWeb target reply

/-- `src/pocket/grpc.go:231–277`. -/
def sendWeb (endpointURL : String) (relayReqBz : Bytes) (rpcType : RPCType) :
    Seam σ (Except Err Bytes) :=
  (g.sendingWeb endpointURL relayReqBz rpcType).seam

/-- The sender's own variable is the set `webOnly`; what a web attempt reads is on record, a
native call reads its message itself. `src/pocket/grpc.go:149–183`. -/
def sending (endpointURL : String) (relayReqBz : Bytes) (rpcType : RPCType) :
    Exec Empty ((String → Bool) × σ) SendCall (Except Err Bytes) :=
  match grpcTarget g.parseError endpointURL with
  | .error e => pure (.error e)
  | .ok (host, _) =>
    let web := Exec.lift (g.sendingWeb endpointURL relayReqBz rpcType)
    let native := Exec.act (liftSeam (g.sendNative endpointURL relayReqBz rpcType))
    match g.mode with
    | .web => web
    | .native => do
      match ← native with
      | .ok resp => pure (.ok resp)
      | .error e => pure (.error e.err)
    | .auto => do
      if ← Exec.peek (fun s ↦ s.1 host) then web
      else
        match ← native with
        | .ok resp => pure (.ok resp)
        | .error e =>
          if isNotHTTP2 e then do
            Exec.assign (fun s ↦ (Function.update s.1 host true, s.2))
            web
          else pure (.error e.err)

/-- `src/pocket/grpc.go:149–183`. -/
def send (endpointURL : String) (relayReqBz : Bytes) (rpcType : RPCType) :
    Seam ((String → Bool) × σ) (Except Err Bytes) :=
  (g.sending endpointURL relayReqBz rpcType).seam

/-- A send in auto mode, by what its attempts answer. -/
theorem send_of_auto (hmode : g.mode = .auto) {endpointURL host : String} {useTLS : Bool}
    (htarget : grpcTarget g.parseError endpointURL = .ok (host, useTLS)) (relayReqBz : Bytes)
    (rpcType : RPCType) (webOnly : String → Bool) (s : σ) :
    g.send endpointURL relayReqBz rpcType (webOnly, s) =
      if webOnly host then
        ((g.sendWeb endpointURL relayReqBz rpcType s).1, webOnly,
          (g.sendWeb endpointURL relayReqBz rpcType s).2)
      else
        match g.sendNative endpointURL relayReqBz rpcType s with
        | (.ok resp, s') => (.ok resp, webOnly, s')
        | (.error e, s') =>
          if isNotHTTP2 e then
            ((g.sendWeb endpointURL relayReqBz rpcType s').1, Function.update webOnly host true,
              (g.sendWeb endpointURL relayReqBz rpcType s').2)
          else (.error e.err, webOnly, s') := by
  simp only [send, sending, htarget, hmode, sendWeb, Exec.seam_bind, Exec.seam_peek]
  by_cases hpinned : webOnly host = true
  · simp only [hpinned, if_true, Exec.seam_lift]
  · simp only [hpinned, if_false, Bool.false_eq_true, Exec.seam_bind, Exec.seam_act, liftSeam]
    rcases g.sendNative endpointURL relayReqBz rpcType s with ⟨e | resp, s'⟩
    · by_cases hclass : isNotHTTP2 e = true
      · simp [hclass]
      · simp [hclass]
    · rfl

end GRPCSender

end PocketAp.Pocket
