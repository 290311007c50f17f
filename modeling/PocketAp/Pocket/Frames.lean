import PocketAp.Pocket.Billing
import PocketAp.Pocket.Validate
import PocketAp.Websockets.Forwarding

/-!
# Frames on the wire

`src/pocket/ws.go`, `src/pocket/apps.go:107–113` and `src/relay/bridge.go:97–204` put together:
what reaches either socket of a bridge that was prepared with the SDK's signers and validator.
A frame is neither wrapped nor unwrapped as HTTP on its way. The world of a bridge is shared
with every other user of the signers, whose steps come in between.
-/

namespace PocketAp.Pocket

open PocketAp.Base PocketAp.Domain PocketAp.Relay PocketAp.Websockets

/-- `src/pocket/ws.go:91–102`. -/
def Validator.validateFrame {σ : Type} (v : Validator σ) (supplier : EndpointAddr)
    (respBz : Bytes) : Seam σ (Except Err Bytes) := fun s ↦
  match v.validateRelayResponse supplier respBz s with
  | (.error (e, relayResp), s') =>
    (.error (.wrap ("validate relay frame from " ++ supplier ++ ": " ++ e.message ++
      minerErrDetail relayResp) e), s')
  | (.ok relayResp, s') => (.ok relayResp.payload, s')

/-- The frame is the payload of a response that passed the check as the supplier's. -/
def Verified {σ : Type} (v : Validator σ) (supplier : EndpointAddr) (f g : Frame) : Prop :=
  g.messageType = f.messageType ∧ ∃ s s' resp,
    v.validateRelayResponse supplier f.data s = (.ok resp, s') ∧ g.data = resp.payload

/-- A frame found valid is the payload of a valid response. -/
theorem Validator.validateFrame_ok {σ : Type} {v : Validator σ} {supplier : EndpointAddr}
    {respBz payload : Bytes} {s : σ} (h : (v.validateFrame supplier respBz s).1 = .ok payload) :
    ∃ s' resp, v.validateRelayResponse supplier respBz s = (.ok resp, s') ∧
      payload = resp.payload := by
  unfold validateFrame at h
  split at h
  · cases h
  · next resp s' checked =>
    cases h
    exact ⟨s', resp, checked, rfl⟩

section Signed

variable [Shannon] {ω : Type} (c : Chain ω)

/-- The bytes are the relay of a payload for a session and a supplier, signed with a key under
the ring that the session's app has when the session ends. -/
def SignedAs (signer : Signer) (session : Session) (supplier : EndpointAddr)
    (payload bz : Bytes) : Prop :=
  ∃ header app ring s s' w w' req, session.raw = some header ∧
    (Signer.getApp c session.appAddr s).1 = .ok app ∧
    (getOrCreateRing c app (sessionEndHeight header) s').1 = .ok ring ∧
    c.signOffChainWithRing signer.privateKeyHex ⟨header, supplier, payload, none⟩ ring w =
      (.ok req, w') ∧
    Shannon.marshal req = .ok bz

/-- The frame is the relay of another one, byte for byte, signed by the app that the bridge named
in its handshake. -/
def Carried (signers : List Signer) (prepared : Prepared (AllCaches × ω)) (f g : Frame) : Prop :=
  g.messageType = f.messageType ∧ ∃ signer ∈ signers,
    prepared.headers.lookup headerAppAddress = some [signer.appAddr] ∧
      SignedAs c signer prepared.session prepared.supplier f.data g.data

variable {c}

private theorem signRelayRequest_ok {signer : Signer} {unsignedReq req : RelayRequest}
    {app : Application} {s : Caches × ω}
    (h : (signer.signRelayRequest c unsignedReq app s).1 = .ok req) :
    ∃ ring w w',
      (getOrCreateRing c app (sessionEndHeight unsignedReq.sessionHeader) s).1 = .ok ring ∧
      c.signOffChainWithRing signer.privateKeyHex unsignedReq ring w = (.ok req, w') := by
  unfold Signer.signRelayRequest at h
  split at h
  · cases h
  · next ring s' hring =>
    split at h
    · cases h
    · next signed w' hsigned =>
      cases h
      exact ⟨ring, s'.2, w', by rw [hring], hsigned⟩

/-- Bytes that were signed and marshalled are a request signed as asked. -/
theorem signAndMarshal_ok {signer : Signer} {op : String} {session : Session}
    {header : SessionHeader} {supplier : EndpointAddr} {payload bz : Bytes} {s : Caches × ω}
    (hraw : session.raw = some header)
    (h : (signer.signAndMarshal c op session ⟨header, supplier, payload, none⟩ s).1 = .ok bz) :
    SignedAs c signer session supplier payload bz := by
  unfold Signer.signAndMarshal at h
  split at h
  · cases h
  · next app s₁ happ =>
    split at h
    · cases h
    · next req s₂ hreq =>
      split at h
      · cases h
      · next hmarshal =>
        cases h
        obtain ⟨ring, w, w', hring, hsign⟩ := signRelayRequest_ok (congrArg Prod.fst hreq)
        exact ⟨header, app, ring, s, s₁, w, w', req, hraw, congrArg Prod.fst happ, hring, hsign,
          hmarshal⟩

/-- A signed frame is a request with that payload. -/
theorem signFrame_ok {signer : Signer} {session : Session} {supplier : EndpointAddr}
    {payload bz : Bytes} {s : Caches × ω}
    (h : (signer.signFrame c session supplier payload s).1 = .ok bz) :
    SignedAs c signer session supplier payload bz := by
  unfold Signer.signFrame buildFrameRelayRequest at h
  cases hraw : session.raw with
  | none => simp [hraw] at h
  | some header =>
    simp only [hraw] at h
    exact signAndMarshal_ok hraw h

private theorem byAddr_mem {signers : List Signer} {byAddr : String → Option Signer}
    {addr : String} {signer : Signer} (h : signers.foldl indexSigner byAddr addr = some signer) :
    (signer ∈ signers ∧ signer.appAddr = addr) ∨ byAddr addr = some signer := by
  induction signers generalizing byAddr with
  | nil => exact .inr h
  | cons s signers ih =>
    rcases ih h with ⟨hmem, ha⟩ | hs
    · exact .inl ⟨List.mem_cons_of_mem s hmem, ha⟩
    · by_cases heq : addr = s.appAddr
      · subst heq
        rw [indexSigner, Function.update_self] at hs
        cases hs
        exact .inl ⟨List.mem_cons_self, rfl⟩
      · rw [indexSigner, Function.update_of_ne heq] at hs
        exact .inr hs

/-- Frames of a session are signed by one of the signers, the one of the session's app. -/
private theorem multiSigner_signFrame_ok {signers : List Signer} {session : Session}
    {supplier : EndpointAddr} {payload bz : Bytes} {s : AllCaches × ω}
    (h : ((newMultiSigner signers).signFrame c session supplier payload s).1 = .ok bz) :
    ∃ signer ∈ signers, signer.appAddr = session.appAddr ∧
      SignedAs c signer session supplier payload bz := by
  unfold MultiSigner.signFrame MultiSigner.signerFor at h
  cases hfor : (newMultiSigner signers).byAddr session.appAddr with
  | none => simp [hfor] at h
  | some signer =>
    simp only [hfor] at h
    rcases byAddr_mem hfor with ⟨hmem, ha⟩ | hnone
    · exact ⟨signer, hmem, ha, signFrame_ok h⟩
    · cases hnone

end Signed

/-- What a socket has accepted are images of the first frames read from the other one. -/
theorem images_of_run {σ : Type} {p : FrameProcessor σ} {w : σ}
    {actions : List (Action σ)} {s : Websockets.State σ}
    (h : runAll (step p) { world := w } actions = some s) (src : Source) :
    ∃ done, done <+: s.read src ∧
      List.Forall₂ (Image p src) done (s.conn src.other).accepted := by
  have hsound : Websockets.Sound p s :=
    invariant_of_step (fun _ _ _ ↦ sound_step) (sound_start w) h
  exact ⟨_, (List.take_prefix _ _).trans (hsound.pumped src).started, (hsound.routed src).images⟩

/-- Whatever the bridge's goroutines, the watcher and the other users of the signers do: the
supplier has accepted the client's first frames, each one's bytes as they came in a relay for the
pinned session and supplier that the app of the handshake signed; and the client has accepted
what the supplier's first frames contain, each one checked as the pinned supplier's. -/
theorem frames_carried [Shannon] {ω : Type} {c : Chain ω} {v : Validator (AllCaches × ω)}
    {signers : List Signer} {b : Bridge (AllCaches × ω)}
    (hsigner : b.signer = (newMultiSigner signers).signFrame c)
    (hvalidator : b.validator = v.validateFrame) {ctx : Context} {serviceID : ServiceID}
    {rpcType : RPCType} {w w' w₀ : AllCaches × ω} {prepared : Prepared (AllCaches × ω)}
    (hprep : b.prepare ctx serviceID rpcType w = (.ok prepared, w'))
    {actions : List (Action (AllCaches × ω))} {s : Websockets.State (AllCaches × ω)}
    (h : runAll (step prepared.processor) { world := w₀ } actions = some s) :
    (∃ done, done <+: s.read .client ∧
      List.Forall₂ (Carried c signers prepared) done (s.conn .endpoint).accepted) ∧
    (∃ done, done <+: s.read .endpoint ∧
      List.Forall₂ (Verified v prepared.supplier) done (s.conn .client).accepted) := by
  obtain ⟨session, w₁, ordered, ep, url, -, -, -, rfl⟩ := Bridge.prepare_ok hprep
  constructor
  · obtain ⟨done, hdone, himages⟩ := images_of_run h .client
    refine ⟨done, hdone, himages.imp ?_⟩
    rintro f g ⟨htype, w₂, hg⟩
    simp only [Bridge.pinned, hsigner] at hg
    obtain ⟨signer, hmem, ha, hs⟩ := multiSigner_signFrame_ok hg
    refine ⟨htype, signer, hmem, ?_, hs⟩
    rw [ha]
    rfl
  · obtain ⟨done, hdone, himages⟩ := images_of_run h .endpoint
    refine ⟨done, hdone, himages.imp ?_⟩
    rintro f g ⟨htype, w₂, hg⟩
    simp only [Bridge.pinned, hvalidator] at hg
    obtain ⟨w₃, resp, hresp, hpayload⟩ := Validator.validateFrame_ok hg
    exact ⟨htype, w₂, w₃, resp, hresp, hpayload⟩

section OneBridge

@[reducible]
local instance polyShannon : Shannon := Shannon.plain

/-- Takes a response for the payload it is. -/
def trusting : Validator (AllCaches × Unit) where
  validateRelayResponse _ bz := fun w ↦ (.ok ⟨bz, none⟩, w)
  deserializeHTTPResponse _ := .error (.text "no HTTP")

/-- A bridge to the second service. -/
def polyBridge : Bridge (AllCaches × Unit) where
  sessions serviceID := polyRelayer.sessions serviceID
  signer := (newMultiSigner [ethSigner, polySigner]).signFrame plainChain
  validator := trusting.validateFrame
  selector := polyRelayer.selector
  rpcTypeHeader := none

/-- A frame each way. -/
def askAndAnswer : List (Action (AllCaches × Unit)) :=
  [.read .client (.frame ⟨1, [7]⟩), .enqueue .client, .take, .process, .write none,
    .read .endpoint (.frame ⟨2, [8, 9]⟩), .enqueue .endpoint, .take, .process, .write none]

/-- A question is signed for the supplier and its answer validated. -/
theorem frames_carried_poly : ∃ prepared s,
    polyBridge.prepare {} "poly" .jsonRPC noCaches = (.ok prepared, noCaches) ∧
      runAll (step prepared.processor) { world := noCaches } askAndAnswer = some s ∧
      (s.conn .endpoint).accepted = [⟨1, [7]⟩] ∧ (s.conn .client).accepted = [⟨2, [8, 9]⟩] ∧
      (∃ done, done <+: s.read .client ∧
        List.Forall₂ (Carried plainChain [ethSigner, polySigner] prepared) done
          (s.conn .endpoint).accepted) ∧
      (∃ done, done <+: s.read .endpoint ∧
        List.Forall₂ (Verified trusting prepared.supplier) done (s.conn .client).accepted) := by
  have hprep : ∃ prepared, polyBridge.prepare {} "poly" .jsonRPC noCaches =
      (.ok prepared, noCaches) ∧ ∃ s,
      runAll (step prepared.processor) { world := noCaches } askAndAnswer = some s ∧
      (s.conn .endpoint).accepted = [⟨1, [7]⟩] ∧ (s.conn .client).accepted = [⟨2, [8, 9]⟩] :=
    ⟨_, rfl, _, rfl, rfl, rfl⟩
  obtain ⟨prepared, hprep, s, hrun, hout, hin⟩ := hprep
  exact ⟨prepared, s, hprep, hrun, hout, hin,
    frames_carried (b := polyBridge) rfl rfl hprep hrun⟩

end OneBridge

end PocketAp.Pocket
