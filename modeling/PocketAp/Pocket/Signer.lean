import Mathlib.Logic.Function.Basic
import PocketAp.Relay.Relay

/-!
# Signing

`src/pocket/signer.go` and the signing part of `src/pocket/ws.go`. What the SDK, ring and
bech32 libraries compute is taken as it comes (`Shannon`), and so is what the node and the
SDK's randomised signing answer (`Chain`). A signer's caches are explicit state. A cache is
a map that is only looked up, so a function; `sync.Map.LoadOrStore` right after a miss is a
store when nobody comes in between.
-/

namespace PocketAp.Pocket

open PocketAp.Base PocketAp.Domain PocketAp.Relay

/-- The application record, as far as it is read; `delegations` is what the ring's addresses
are computed from. -/
structure Application where
  address : String
  serviceConfigs : List String
  delegations : List String
  deriving DecidableEq, Repr

/-- An HTTP request that is serialized into a relay. -/
structure HTTPRequest where
  method : String
  url : String
  header : Header
  body : Bytes
  deriving DecidableEq, Repr

/-- A relay request; unsigned requests have no signature. -/
structure RelayRequest where
  sessionHeader : SessionHeader
  supplierOperatorAddress : String
  payload : Bytes
  signature : Option Bytes
  deriving DecidableEq, Repr

/-- Library functions taken as they come. -/
class Shannon where
  PubKey : Type
  Ring : Type
  /-- `hex.DecodeString`. -/
  decodeHex : String → Except Err Bytes
  /-- What `sdk.NewSignerFromHex` finds wrong with a key. -/
  newSignerFromHex : String → Option Err
  /-- The bech32 address with prefix `pokt` of a key's public key. -/
  bech32Address : Bytes → Except Err String
  /-- `rings.GetRingAddressesAtSessionEndHeight`. -/
  ringAddressesAt : Application → Nat → List String
  /-- `rings.GetRingFromPubKeys`. -/
  ringFromPubKeys : List PubKey → Except Err Ring
  /-- What `http.NewRequestWithContext` finds wrong with a method and a URL. -/
  newRequest : String → String → Option Err
  /-- `sdktypes.SerializeHTTPRequest`. -/
  serializeHTTPRequest : HTTPRequest → Except Err Bytes
  /-- `RelayRequest.Marshal`. -/
  marshal : RelayRequest → Except Err Bytes

/-- An instance on which results can be evaluated: a byte for each character of a key, rings
that are lists of addresses. -/
@[reducible]
def Shannon.plain : Shannon where
  PubKey := String
  Ring := List String
  decodeHex s := .ok (s.toList.map (fun c ↦ UInt8.ofNat c.toNat))
  newSignerFromHex _ := none
  bech32Address bz := .ok ("pokt1" ++ String.ofList (bz.map (fun b ↦ Char.ofNat b.toNat)))
  ringAddressesAt app _ := app.delegations
  ringFromPubKeys pubKeys := .ok pubKeys
  newRequest _ _ := none
  serializeHTTPRequest req := .ok req.body
  marshal req := .ok req.payload

/-- What a signer asks of the outside. -/
structure Chain [Shannon] (ω : Type) where
  getApp : String → Seam ω (Except Err Application)
  getPubKeyFromAddress : String → Seam ω (Except Err (Option Shannon.PubKey))
  /-- `SignOffChainWithRing` of the SDK's signer for a key. -/
  signOffChainWithRing : String → RelayRequest → Shannon.Ring → Seam ω (Except Err RelayRequest)

/-- `src/pocket/signer.go:34–37`. -/
structure RingCacheKey where
  appAddress : String
  sessionEndHeight : Nat
  deriving DecidableEq, Repr

/-- The caches of a signer. `src/pocket/signer.go:64–66`. -/
structure Caches [Shannon] where
  ringCache : RingCacheKey → Option Shannon.Ring
  appCache : String → Option Application
  highestSessionEnd : Nat

/-- The caches of a new signer. -/
def Caches.fresh [Shannon] : Caches := ⟨fun _ ↦ none, fun _ ↦ none, 0⟩

/-- `src/pocket/signer.go:97`. -/
def secp256k1KeyLen : Nat := 32

/-- `src/pocket/signer.go:116–131`. -/
def deriveAppAddr [Shannon] (privateKeyHex : String) : Except Err String :=
  match Shannon.decodeHex privateKeyHex with
  | .error e => .error (.errorf "deriveAppAddr: invalid hex key: " e)
  | .ok privKeyBz =>
    if privKeyBz.length ≠ secp256k1KeyLen then
      .error (.text ("deriveAppAddr: key is " ++ toString privKeyBz.length ++ " bytes, want " ++
        toString secp256k1KeyLen ++
        " — a wrong-length key derives a valid-looking address for the wrong app"))
    else
      match Shannon.bech32Address privKeyBz with
      | .error e => .error (.errorf "deriveAppAddr: encode address: " e)
      | .ok appAddr => .ok appAddr

/-- A signer: its address is the one its key derives. `src/pocket/signer.go:53–68`. -/
structure Signer [Shannon] where
  privateKeyHex : String
  appAddr : String
  derived : deriveAppAddr privateKeyHex = .ok appAddr

/-- `src/pocket/signer.go:73–91`. -/
def newSigner [Shannon] (privateKeyHex : String) : Except Err Signer :=
  match Shannon.newSignerFromHex privateKeyHex with
  | some e => .error (.errorf "NewSigner: create SDK signer: " e)
  | none =>
    match h : deriveAppAddr privateKeyHex with
    | .error e => .error (.errorf "NewSigner: " e)
    | .ok appAddr => .ok ⟨privateKeyHex, appAddr, h⟩

/-- A signer that can be evaluated. -/
def ethSigner : @Signer Shannon.plain :=
  @Signer.mk Shannon.plain "aaaaaaaaaaaaaaaaaaaaaaaaaaaaaaaa"
    "pokt1aaaaaaaaaaaaaaaaaaaaaaaaaaaaaaaa" (by decide +kernel)

/-- A signer has the key it was made from. -/
theorem newSigner_ok [Shannon] {privateKeyHex : String} {signer : Signer}
    (h : newSigner privateKeyHex = .ok signer) : signer.privateKeyHex = privateKeyHex := by
  unfold newSigner at h
  split at h
  · cases h
  · split at h
    · cases h
    · cases h
      rfl

/-- `src/pocket/signer.go:141–149`. -/
def buildTargetURL (base path : String) : String :=
  if path = "" ∨ path = "/" then base
  else
    let path := if hasPrefix path "/" then path else "/" ++ path
    String.ofList (base.toList.reverse.dropWhile (· = '/')).reverse ++ path

/-- The request that is relayed; `http.NewRequest` takes an empty method for `GET`.
`src/pocket/signer.go:160–172`. -/
def innerRequest (url : String) (input : RelayInput) : HTTPRequest :=
  let header := input.header.foldl (fun h kv ↦ kv.2.foldl (fun h v ↦ addHeader h kv.1 v) h) []
  ⟨if input.method = "" then "GET" else input.method, url,
    if getHeader header "Content-Type" = "" then
      setHeader header "Content-Type" "application/json" else header,
    input.body⟩

/-- The unsigned relay of a request. `src/pocket/signer.go:155–192`. -/
def buildRelayRequest [Shannon] (session : Session) (endpoint : Endpoint) (rpcType : RPCType)
    (input : RelayInput) : Except Err RelayRequest :=
  match endpoint.url rpcType with
  | none => .error errNoEndpoint
  | some base =>
    let url := buildTargetURL base input.path
    match Shannon.newRequest input.method url with
    | some e => .error (.errorf "SignRelay: build http request: " e)
    | none =>
      match Shannon.serializeHTTPRequest (innerRequest url input) with
      | .error e => .error (.errorf "SignRelay: serialize http request: " e)
      | .ok payloadBz =>
        match session.raw with
        | none => .error (.text "SignRelay: session missing raw header")
        | some header => .ok ⟨header, endpoint.supplier, payloadBz, none⟩

/-- The unsigned relay of a frame. `src/pocket/ws.go:29–41`. -/
def buildFrameRelayRequest (session : Session) (supplier : EndpointAddr) (payload : Bytes) :
    Except Err RelayRequest :=
  match session.raw with
  | none => .error (.text "SignFrame: session missing raw header")
  | some header => .ok ⟨header, supplier, payload, none⟩

/-- The conversion to `uint64`. `src/pocket/signer.go:226`. -/
def sessionEndHeight (header : SessionHeader) : Nat :=
  (header.sessionEndBlockHeight % 2 ^ 64).toNat

section Rings

variable [Shannon]

/-- `src/pocket/signer.go:299–320`. -/
def Caches.evictStaleRingsOnRollover (c : Caches) (sessionEndHeight : Nat) : Caches :=
  if sessionEndHeight ≤ c.highestSessionEnd then c
  else
    { c with
      highestSessionEnd := sessionEndHeight
      ringCache := fun k ↦
        if k.sessionEndHeight < c.highestSessionEnd then none else c.ringCache k }

/-- `src/pocket/signer.go:255–262`. -/
def ringAddresses (app : Application) (sessionEndHeight : Nat) : List String :=
  let gatewayAddresses := Shannon.ringAddressesAt app sessionEndHeight
  app.address :: if gatewayAddresses.isEmpty then [app.address] else gatewayAddresses

/-- `src/pocket/signer.go:269–285`. -/
def ringPubKeys {ω : Type} (c : Chain ω) : List String → Seam ω (Except Err (List Shannon.PubKey))
  | [], w => (.ok [], w)
  | addr :: addrs, w =>
    match c.getPubKeyFromAddress addr w with
    | (.error e, w') => (.error (.errorf ("getOrCreateRing: pubkey for " ++ addr ++ ": ") e), w')
    | (.ok none, w') =>
      (.error (.text ("getOrCreateRing: no onchain public key for ring address " ++ addr ++
        " — this app, or a gateway it is delegated to, has never signed a transaction")), w')
    | (.ok (some pubKey), w') =>
      match ringPubKeys c addrs w' with
      | (.error e, w'') => (.error e, w'')
      | (.ok pubKeys, w'') => (.ok (pubKey :: pubKeys), w'')

/-- A ring for an application record. `src/pocket/signer.go:254–290`. -/
def buildRing {ω : Type} (c : Chain ω) (app : Application) (sessionEndHeight : Nat) :
    Seam ω (Except Err Shannon.Ring) := fun w ↦
  match ringPubKeys c (ringAddresses app sessionEndHeight) w with
  | (.error e, w') => (.error e, w')
  | (.ok pubKeys, w') =>
    match Shannon.ringFromPubKeys pubKeys with
    | .error e => (.error (.errorf "getOrCreateRing: build ring: " e), w')
    | .ok ring => (.ok ring, w')

/-- `src/pocket/signer.go:246–294`. -/
def getOrCreateRing {ω : Type} (c : Chain ω) (app : Application) (sessionEndHeight : Nat) :
    Seam (Caches × ω) (Except Err Shannon.Ring) := fun s ↦
  let caches := s.1.evictStaleRingsOnRollover sessionEndHeight
  let key : RingCacheKey := ⟨app.address, sessionEndHeight⟩
  match caches.ringCache key with
  | some ring => (.ok ring, (caches, s.2))
  | none =>
    match buildRing c app sessionEndHeight s.2 with
    | (.error e, w) => (.error e, (caches, w))
    | (.ok ring, w) =>
      (.ok ring, ({ caches with ringCache := Function.update caches.ringCache key (some ring) }, w))

end Rings

namespace Signer

variable [Shannon] {ω : Type} (c : Chain ω) (signer : Signer)

/-- `src/pocket/signer.go:211–221`. -/
def getApp (appAddr : String) : Seam (Caches × ω) (Except Err Application) := fun s ↦
  match s.1.appCache appAddr with
  | some app => (.ok app, s)
  | none =>
    match c.getApp appAddr s.2 with
    | (.error e, w) => (.error e, (s.1, w))
    | (.ok app, w) =>
      (.ok app, ({ s.1 with appCache := Function.update s.1.appCache appAddr (some app) }, w))

/-- `src/pocket/signer.go:225–241`. -/
def signRelayRequest (unsignedReq : RelayRequest) (app : Application) :
    Seam (Caches × ω) (Except Err RelayRequest) := fun s ↦
  match getOrCreateRing c app (sessionEndHeight unsignedReq.sessionHeader) s with
  | (.error e, s') =>
    (.error (.errorf ("signRelayRequest: get ring for app " ++ app.address ++ ": ") e), s')
  | (.ok ring, s') =>
    match c.signOffChainWithRing signer.privateKeyHex unsignedReq ring s'.2 with
    | (.error e, w) => (.error (.errorf "signRelayRequest: sign: " e), (s'.1, w))
    | (.ok signed, w) => (.ok signed, (s'.1, w))

/-- What `SignRelay` and `SignFrame` have in common; `op` is the name of the caller.
`src/pocket/signer.go:194–207`, `src/pocket/ws.go:66–80`. -/
def signAndMarshal (op : String) (session : Session) (unsignedReq : RelayRequest) :
    Seam (Caches × ω) (Except Err Bytes) := fun s ↦
  match getApp c session.appAddr s with
  | (.error e, s') => (.error (.errorf (op ++ ": fetch app for signing: ") e), s')
  | (.ok app, s') =>
    match signer.signRelayRequest c unsignedReq app s' with
    | (.error e, s'') => (.error e, s'')
    | (.ok signed, s'') =>
      match Shannon.marshal signed with
      | .error e => (.error (.errorf (op ++ ": marshal signed request: ") e), s'')
      | .ok reqBz => (.ok reqBz, s'')

/-- `src/pocket/signer.go:154–208`. -/
def signRelay (session : Session) (endpoint : Endpoint) (rpcType : RPCType) (input : RelayInput) :
    Seam (Caches × ω) (Except Err Bytes) := fun s ↦
  match buildRelayRequest session endpoint rpcType input with
  | .error e => (.error e, s)
  | .ok unsignedReq => signer.signAndMarshal c "SignRelay" session unsignedReq s

/-- `src/pocket/ws.go:61–81`. -/
def signFrame (session : Session) (supplier : EndpointAddr) (payload : Bytes) :
    Seam (Caches × ω) (Except Err Bytes) := fun s ↦
  match buildFrameRelayRequest session supplier payload with
  | .error e => (.error e, s)
  | .ok unsignedReq => signer.signAndMarshal c "SignFrame" session unsignedReq s

/-- The service the app is staked for. `src/pocket/apps.go:28–51`. -/
def serviceID : Seam (Caches × ω) (Except Err ServiceID) := fun s ↦
  match getApp c signer.appAddr s with
  | (.error e, s') => (.error (.errorf ("app " ++ signer.appAddr ++ ": ") e), s')
  | (.ok app, s') =>
    match app.serviceConfigs with
    | [serviceID] => (.ok serviceID, s')
    | [] =>
      (.error (.text ("app " ++ signer.appAddr ++ " is staked for no service — check the key " ++
        "is the app's own, and that the app is staked on the network this full node serves")), s')
    | _ =>
      (.error (.text ("app " ++ signer.appAddr ++ " is staked for " ++
        toString app.serviceConfigs.length ++ " services, but poktroll allows exactly one — " ++
        "the app/service mapping this proxy relies on no longer holds")), s')

end Signer

/-! ### Several signers -/

/-- The caches of every signer, by the address of its app. -/
abbrev AllCaches [Shannon] := String → Caches

/-- One signer at work among the others. -/
def withCaches [Shannon] {ω α : Type} (appAddr : String) (f : Seam (Caches × ω) α) :
    Seam (AllCaches × ω) α := fun s ↦
  ((f (s.1 appAddr, s.2)).1,
    (Function.update s.1 appAddr (f (s.1 appAddr, s.2)).2.1, (f (s.1 appAddr, s.2)).2.2))

/-- `src/pocket/apps.go:59–61`. -/
structure MultiSigner [Shannon] where
  byAddr : String → Option Signer

/-- `src/pocket/apps.go:71`. -/
def indexSigner [Shannon] (byAddr : String → Option Signer) (s : Signer) :
    String → Option Signer :=
  Function.update byAddr s.appAddr (some s)

/-- Later signers replace earlier ones of the same address. `src/pocket/apps.go:68–74`. -/
def newMultiSigner [Shannon] (signers : List Signer) : MultiSigner :=
  ⟨signers.foldl indexSigner (fun _ ↦ none)⟩

namespace MultiSigner

variable [Shannon] {ω : Type} (c : Chain ω) (m : MultiSigner)

/-- `src/pocket/apps.go:86–95`. -/
def signerFor (session : Session) : Except Err Signer :=
  match m.byAddr session.appAddr with
  | none => .error (.text ("no signing key configured for app " ++ session.appAddr ++
      " (service " ++ session.serviceID ++ ")"))
  | some s => .ok s

/-- `src/pocket/apps.go:98–104`. -/
def signRelay (session : Session) (endpoint : Endpoint) (rpcType : RPCType) (input : RelayInput) :
    Seam (AllCaches × ω) (Except Err Bytes) := fun s ↦
  match m.signerFor session with
  | .error e => (.error (.errorf "SignRelay: " e), s)
  | .ok signer => withCaches signer.appAddr (signer.signRelay c session endpoint rpcType input) s

/-- `src/pocket/apps.go:107–113`. -/
def signFrame (session : Session) (supplier : EndpointAddr) (payload : Bytes) :
    Seam (AllCaches × ω) (Except Err Bytes) := fun s ↦
  match m.signerFor session with
  | .error e => (.error (.errorf "SignFrame: " e), s)
  | .ok signer => withCaches signer.appAddr (signer.signFrame c session supplier payload) s

end MultiSigner

section Index

variable [Shannon]

private theorem foldl_indexSigner (signers : List Signer) (byAddr : String → Option Signer)
    (hn : (signers.map Signer.appAddr).Nodup) (addr : String) (signer : Signer) :
    (signers.foldl indexSigner byAddr) addr = some signer ↔
      (signer ∈ signers ∧ signer.appAddr = addr) ∨
        (addr ∉ signers.map Signer.appAddr ∧ byAddr addr = some signer) := by
  induction signers generalizing byAddr with
  | nil => simp
  | cons s signers ih =>
    rw [List.map_cons, List.nodup_cons] at hn
    rw [List.foldl_cons, ih _ hn.2]
    by_cases heq : addr = s.appAddr
    · subst heq
      have hself : indexSigner byAddr s s.appAddr = some s := Function.update_self ..
      rw [hself]
      constructor
      · rintro (⟨hmem, ha⟩ | ⟨-, hs⟩)
        · exact .inl ⟨List.mem_cons_of_mem _ hmem, ha⟩
        · cases hs
          exact .inl ⟨List.mem_cons_self, rfl⟩
      · rintro (⟨hmem, ha⟩ | ⟨hout, -⟩)
        · rcases List.mem_cons.mp hmem with rfl | hmem
          · exact .inr ⟨hn.1, rfl⟩
          · exact .inl ⟨hmem, ha⟩
        · simp at hout
    · have hother : indexSigner byAddr s addr = byAddr addr := Function.update_of_ne heq ..
      rw [hother]
      simp only [List.mem_cons, List.map_cons]
      grind

/-- With one signer per address, each is found under its own. -/
theorem newMultiSigner_byAddr {signers : List Signer} (hn : (signers.map Signer.appAddr).Nodup)
    (addr : String) (signer : Signer) :
    (newMultiSigner signers).byAddr addr = some signer ↔
      signer ∈ signers ∧ signer.appAddr = addr := by
  unfold newMultiSigner
  rw [foldl_indexSigner signers _ hn]
  simp

end Index
end PocketAp.Pocket
