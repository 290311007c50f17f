import PocketAp.Base.GoError
import PocketAp.Base.GoLib

/-!
# Domain types

`src/domain/domain.go`. A Go map is the list of its entries in the order a `range` visits
them, except for the URLs of an endpoint, which are only ever looked up. The node's own
session behind `Session.Raw` is kept as far as it is read: its header.
-/

namespace PocketAp.Domain

open PocketAp.Base

/-- Sentinel errors of the repository, and `context.Canceled`.
`src/domain/domain.go:127–132`, `src/relay/bridge.go:177`, `src/websockets/errors.go:8–37`,
`src/internal/safego/safego.go:54`. -/
inductive Sentinel where
  | noApp
  | noEndpoint
  | unsupportedType
  | notImplemented
  | sessionExpired
  | bridgeClientUpgradeFailed
  | bridgeOriginRejected
  | bridgeEndpointUnavailable
  | bridgeConnectionFailed
  | bridgeMessageProcessing
  | bridgeSessionExpired
  | bridgeContextCanceled
  | panicked
  | canceled
  deriving DecidableEq, Repr

instance : ToString Sentinel where
  toString
    | .noApp => "no app configured for service"
    | .noEndpoint => "no endpoint supports the requested rpc type"
    | .unsupportedType => "unsupported rpc type"
    | .notImplemented => "not implemented: lift from SAGE (see TODO)"
    | .sessionExpired => "bridge: session expired"
    | .bridgeClientUpgradeFailed => "websockets: client upgrade failed"
    | .bridgeOriginRejected => "websockets: origin not allowed"
    | .bridgeEndpointUnavailable => "websockets: endpoint unavailable"
    | .bridgeConnectionFailed => "websockets: connection failed"
    | .bridgeMessageProcessing => "websockets: message processing failed"
    | .bridgeSessionExpired => "websockets: session expired"
    | .bridgeContextCanceled => "websockets: context canceled"
    | .panicked => "recovered panic"
    | .canceled => "context canceled"

/-- An error value. -/
abbrev Err := GoError Sentinel

/-- `domain.ErrNoEndpoint`. -/
def errNoEndpoint : Err := .sentinel .noEndpoint

/-- A byte slice. -/
abbrev Bytes := List UInt8

/-- A header map, in iteration order. -/
abbrev Header := List (String × List String)

/-- Service identifier. `src/domain/domain.go:13`. -/
abbrev ServiceID := String

/-- Supplier operator address. `src/domain/domain.go:16`. -/
abbrev EndpointAddr := String

/-- RPC types. `src/domain/domain.go:20–29`. -/
inductive RPCType where
  | unknown
  | jsonRPC
  | rest
  | cometBFT
  | grpc
  | webSocket
  deriving DecidableEq, Repr

/-- `src/domain/domain.go:43–58`. -/
def RPCType.string : RPCType → String
  | .jsonRPC => "json_rpc"
  | .rest => "rest"
  | .cometBFT => "comet_bft"
  | .grpc => "grpc"
  | .webSocket => "websocket"
  | .unknown => "unknown"

/-- `src/domain/domain.go:61–76`. -/
def parseRPCType [GoLib] (s : String) : Except Err RPCType :=
  let name := toLower (trimSpace s)
  if name ∈ ["json_rpc", "jsonrpc", "json-rpc"] then .ok .jsonRPC
  else if name ∈ ["rest", "http"] then .ok .rest
  else if name ∈ ["comet_bft", "cometbft", "comet-bft", "tendermint"] then .ok .cometBFT
  else if name = "grpc" then .ok .grpc
  else if name ∈ ["websocket", "ws"] then .ok .webSocket
  else .error (.text ("unknown rpc type " ++ GoLib.quote s))

/-- One supplier's URLs by RPC type. `src/domain/domain.go:81–84`. -/
structure Endpoint where
  supplier : EndpointAddr
  urls : RPCType → Option String

/-- `src/domain/domain.go:87–90`. -/
def Endpoint.supportsType (e : Endpoint) (t : RPCType) : Bool := (e.urls t).isSome

/-- `src/domain/domain.go:93–96`. -/
def Endpoint.url (e : Endpoint) (t : RPCType) : Option String := e.urls t

/-- The header of the node's session, as far as it is read. -/
structure SessionHeader where
  applicationAddress : String
  serviceId : String
  sessionId : String
  sessionEndBlockHeight : Int
  deriving DecidableEq, Repr

/-- The view of a session the proxy needs. `src/domain/domain.go:101–108`. -/
structure Session where
  id : String
  serviceID : ServiceID
  appAddr : String
  endBlockHeight : Int
  endpoints : List Endpoint
  raw : Option SessionHeader

/-- A captured inbound request. `src/domain/domain.go:113–118`. -/
structure RelayInput where
  method : String
  path : String
  header : Header
  body : Bytes
  deriving DecidableEq, Repr

/-- A response for the client. `src/domain/domain.go:121–125`. -/
structure RelayResult where
  statusCode : Int
  header : Header
  body : Bytes
  deriving DecidableEq, Repr

end PocketAp.Domain
