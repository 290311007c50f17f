import PocketAp.Relay.Relay

/-!
# Validating responses

`src/pocket/validate.go`. Checking the supplier's signature and reading the two protobuf
messages are the SDK's; what it reads is handed on as it stands. `int` holds every `uint32`.
-/

namespace PocketAp.Pocket

open PocketAp.Base PocketAp.Domain PocketAp.Relay

/-- A relay miner's own report of a failure. -/
structure RelayMinerError where
  codespace : String
  code : UInt32
  description : String
  message : String
  deriving DecidableEq, Repr

/-- What is read of a `servicetypes.RelayResponse`. -/
structure RelayResponse where
  payload : Bytes
  relayMinerError : Option RelayMinerError := none
  deriving DecidableEq, Repr

/-- `sdktypes.POKTHTTPResponse`; an entry of its header may be a nil pointer. -/
structure POKTHTTPResponse where
  statusCode : UInt32
  header : List (String × Option (List String))
  bodyBz : Bytes
  deriving DecidableEq, Repr

/-- `src/pocket/validate.go:23–29`. `sdk.ValidateRelayResponse` may return the response along
with an error. -/
structure Validator (σ : Type) where
  validateRelayResponse : EndpointAddr → Bytes →
    Seam σ (Except (Err × Option RelayResponse) RelayResponse)
  deserializeHTTPResponse : Bytes → Except Err POKTHTTPResponse

/-- `src/pocket/validate.go:49–56`. -/
def minerErrDetail (resp : Option RelayResponse) : String :=
  match resp.bind RelayResponse.relayMinerError with
  | none => ""
  | some e => " [relay miner reported: codespace=" ++ e.codespace ++ " code=" ++
      toString e.code.toNat ++ " " ++ e.description ++ ": " ++ e.message ++ "]"

/-- `src/pocket/validate.go:76–88`. -/
def POKTHTTPResponse.result (poktResp : POKTHTTPResponse) : RelayResult where
  statusCode := poktResp.statusCode.toNat
  header := poktResp.header.filterMap (fun kh ↦ kh.2.map (fun values ↦ (kh.1, values)))
  body := poktResp.bodyBz

/-- `src/pocket/validate.go:60–89`. -/
def Validator.validateResponse {σ : Type} (v : Validator σ) (supplier : EndpointAddr)
    (respBz : Bytes) : Seam σ (Except Err RelayResult) := fun s ↦
  match v.validateRelayResponse supplier respBz s with
  | (.error (e, relayResp), s') =>
    (.error (.wrap ("validate relay response from " ++ supplier ++ ": " ++ e.message ++
      minerErrDetail relayResp) e), s')
  | (.ok relayResp, s') =>
    match v.deserializeHTTPResponse relayResp.payload with
    | .error e => (.error (.errorf ("deserialize relay response from " ++ supplier ++ ": ") e), s')
    | .ok poktResp => (.ok poktResp.result, s')

end PocketAp.Pocket
