import PocketAp.Relay.Stream

/-!
# Serving a stream over HTTP

`src/transport/http.go:215–276` with `src/transport/cors.go` and `src/transport/grpc.go`.
The handler's calls on its `http.ResponseWriter` are recorded one by one; whether a write
reaches the client is up to the world. `WriteHeader` panics on a code that is not three
digits long, as `net/http` documents.
-/

namespace PocketAp.Transport

open PocketAp.Base PocketAp.Domain PocketAp.Relay

/-- What a handler reads of the inbound request itself. -/
structure Request where
  method : String
  header : Header
  deriving DecidableEq, Repr

/-- `http.Header.Get` for a name in canonical form. -/
def headerGet (header : Header) (name : String) : String :=
  match header.find? (fun kv ↦ kv.1 == name) with
  | some (_, v :: _) => v
  | _ => ""

/-- Calls on the response writer. -/
inductive ClientEvent where
  | headerAdd (name value : String)
  | headerSet (name value : String)
  | writeHeader (statusCode : Int)
  | write (body : Bytes) (err : Option Err)
  | flush
  | error (text : String) (code : Int)
  deriving DecidableEq, Repr

/-- How a handler can panic: to abort the connection, or inside `WriteHeader`. -/
inductive HandlerPanic where
  | abortHandler
  | invalidWriteHeaderCode (code : Int)
  deriving DecidableEq, Repr

/-- `src/transport/cors.go:36–38`. -/
def isCORSPreflight (req : Request) : Bool :=
  req.method == "OPTIONS" && headerGet req.header "Access-Control-Request-Method" != ""

/-- `src/transport/cors.go:53–71`. -/
def writeCORSHeaders (req : Request) (origin : String) : List ClientEvent :=
  [.headerSet "Access-Control-Allow-Origin" origin, .headerSet "Vary" "Origin"] ++
    if !isCORSPreflight req then []
    else
      [.headerSet "Access-Control-Allow-Methods" "GET, POST, PUT, PATCH, DELETE, OPTIONS"] ++
        (let reqHeaders := headerGet req.header "Access-Control-Request-Headers"
          if reqHeaders ≠ "" then [.headerSet "Access-Control-Allow-Headers" reqHeaders] else []) ++
        [.headerSet "Access-Control-Max-Age" "600"]

/-- `src/transport/grpc.go:22–26`. -/
def grpcTrailerHeaders : List String := ["grpc-status", "grpc-message", "grpc-status-details-bin"]

/-- `src/transport/grpc.go:29–31`. -/
def isGRPCTrailerHeader [GoLib] (name : String) : Bool := grpcTrailerHeaders.contains (toLower name)

/-- Headers and trailers. `src/transport/grpc.go:39–50`. -/
def splitGRPCTrailers [GoLib] (header : Header) : Header × Header :=
  (header.filter (fun kv ↦ !isGRPCTrailerHeader kv.1),
    header.filter (fun kv ↦ isGRPCTrailerHeader kv.1))

/-- `http.TrailerPrefix`. -/
def trailerKey (name : String) : String := "Trailer:" ++ name

/-- `src/transport/grpc.go:57–63`. -/
def writeGRPCTrailers (trailers : Header) : List ClientEvent :=
  trailers.flatMap (fun kv ↦ kv.2.map (.headerSet (trailerKey kv.1)))

/-- `src/transport/http.go:234–238`. -/
def addHeaders (header : Header) : List ClientEvent :=
  header.flatMap (fun kv ↦ kv.2.map (.headerAdd kv.1))

/-- Variables of `serveStream` that its callback sets. `src/transport/http.go:224–227`. -/
structure StreamVars where
  wroteHeader : Bool := false
  grpcTrailers : Header := []
  deriving DecidableEq, Repr

/-- The handler: the RPC type of its listener, its response writer, and the request. -/
structure StreamHandler (σ : Type) where
  serviceID : ServiceID
  rpcType : RPCType
  write : Bytes → Seam σ (Option Err)
  canFlush : Bool
  request : Request
  origin : String

namespace StreamHandler

variable {σ : Type} [GoLib] (h : StreamHandler σ)

/-- The headers and trailers a first result gives the response.
`src/transport/http.go:231–234`. -/
def split (result : RelayResult) : Header × Header :=
  if h.rpcType = .grpc then splitGRPCTrailers result.header else (result.header, [])

/-- `src/transport/http.go:242–244`. -/
def status (result : RelayResult) : Int :=
  if result.statusCode = 0 then 200 else result.statusCode

/-- Calls before `WriteHeader`. `src/transport/http.go:231–241`. -/
def headers (result : RelayResult) : List ClientEvent :=
  addHeaders (h.split result).1 ++
    if h.origin ≠ "" then writeCORSHeaders h.request h.origin else []

/-- `http.ResponseWriter.WriteHeader`. -/
def writeHeader (code : Int) : Exec HandlerPanic (StreamVars × σ) ClientEvent Unit :=
  if code < 100 ∨ 999 < code then Exec.throw (.invalidWriteHeaderCode code)
  else Exec.emit (.writeHeader code)

/-- The head of the response, from the first result. `src/transport/http.go:230–248`. -/
def writeHead (result : RelayResult) : Exec HandlerPanic (StreamVars × σ) ClientEvent Unit := do
  Exec.assign (fun s ↦ ({ s.1 with grpcTrailers := (h.split result).2 }, s.2))
  Exec.emitAll (h.headers result)
  writeHeader (status result)
  Exec.assign (fun s ↦ ({ s.1 with wroteHeader := true }, s.2))

omit [GoLib] in
/-- A batch of the body. `src/transport/http.go:250–258`. -/
def writeBody (result : RelayResult) :
    Exec HandlerPanic (StreamVars × σ) ClientEvent (Except Err Unit) := do
  match ← Exec.call (liftSeam (h.write result.body)) (.write result.body) with
  | some e => pure (.error (.errorf "write to client: " e))
  | none =>
    Exec.emitAll (if h.canFlush then [.flush] else [])
    pure (.ok ())

/-- The callback. `src/transport/http.go:229–259`. -/
def onBatch (result : RelayResult) :
    Exec HandlerPanic (StreamVars × σ) ClientEvent (Except Err Unit) := do
  let vars ← Exec.peek Prod.fst
  if !vars.wroteHeader then h.writeHead result
  h.writeBody result

omit [GoLib] in
/-- After the relay. `src/transport/http.go:261–275`. -/
def finishServe (err : Except Err Unit) :
    Exec HandlerPanic (StreamVars × σ) (Event ClientEvent) Unit := do
  let vars ← Exec.peek Prod.fst
  match err with
  | .error e =>
    if !vars.wroteHeader then
      Exec.emit (.client (.error ("relay failed: " ++ e.message) 502))
    else Exec.throw .abortHandler
  | .ok () => Exec.emitAll ((writeGRPCTrailers vars.grpcTrailers).map .client)

/-- `src/transport/http.go:215–276`. -/
def serveStream (r : Relayer σ) (ctx : Context) (input : RelayInput) :
    Exec HandlerPanic σ (Event ClientEvent) Unit := do
  let _ ← Exec.withVar {} (do
    let err ← (liftRelayer StreamVars r).relayStream ctx h.serviceID h.rpcType input h.onBatch
    finishServe err)
  pure ()

end StreamHandler
end PocketAp.Transport
