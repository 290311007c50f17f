import PocketAp.Websockets.Bridge

/-!
# Opening a bridge

`src/websockets/upgrade.go` and `StartBridge`. The client is upgraded before the supplier is
dialled; the origin is checked before either. What the upgrader and the dialer answer is up
to the world.
-/

namespace PocketAp.Websockets

open PocketAp.Base PocketAp.Domain PocketAp.Relay

/-- `src/websockets/upgrade.go:30–37`. -/
structure OriginPolicy where
  allowedOrigins : List String
  deriving DecidableEq, Repr

/-- `src/websockets/upgrade.go:46–62`. -/
def OriginPolicy.allows [GoLib] (p : OriginPolicy) (origin : String) : Bool :=
  if origin = "" then true
  else p.allowedOrigins.any (fun allowed ↦ allowed == "*" || GoLib.sameFold allowed origin)

/-- What happens to the client's connection and to the supplier's. -/
inductive HandshakeEvent where
  | answer (text : String) (code : Int)
  | upgrade (result : Except Err Unit)
  | dial (url : String) (header : Header) (result : Except Err Unit)
  | closeClient (code : Int) (text : String)

/-- The client's handshake and the way to suppliers. -/
structure Sockets (σ : Type) where
  origin : String
  /-- `websocket.Upgrader.Upgrade` of the client's request. -/
  upgrade : Seam σ (Except Err Unit)
  /-- `url.Parse`, printed again. -/
  parseURL : String → Except Err String
  /-- `websocket.Dialer.Dial`. -/
  dial : String → Header → Seam σ (Except Err Unit)

section Start

variable {π σ : Type} [GoLib]

/-- `src/websockets/upgrade.go:72–100`. -/
def upgradeClient (policy : OriginPolicy) (c : Sockets σ) :
    Exec π σ HandshakeEvent (Except Err Unit) :=
  if !policy.allows c.origin then do
    Exec.emit (.answer "websocket: origin not allowed" 403)
    let rejected : Err := .sentinel .bridgeOriginRejected
    pure (.error (.wrap (rejected.message ++ ": " ++ GoLib.quote c.origin) rejected))
  else do
    match ← Exec.call c.upgrade .upgrade with
    | .error e => pure (.error (.errorf₂ (.sentinel .bridgeClientUpgradeFailed) e))
    | .ok () => pure (.ok ())

/-- `src/websockets/upgrade.go:105–120`. -/
def connectEndpoint (c : Sockets σ) (rawURL : String) (headers : Header) :
    Exec π σ HandshakeEvent (Except Err Unit) :=
  let unavailable : Err := .sentinel .bridgeEndpointUnavailable
  match c.parseURL rawURL with
  | .error e => pure (.error (.join (unavailable.message ++ ": invalid URL " ++
      GoLib.quote rawURL ++ ": " ++ e.message) unavailable e))
  | .ok url => do
    match ← Exec.call (c.dial url headers) (.dial url headers) with
    | .error e => pure (.error (.join (unavailable.message ++ ": dial " ++ GoLib.quote url ++
        ": " ++ e.message) unavailable e))
    | .ok () => pure (.ok ())

/-- `src/websockets/bridge.go:85–133`. -/
def startBridge (policy : OriginPolicy) (c : Sockets σ) (endpointURL : String)
    (endpointHeaders : Header) : Exec π σ HandshakeEvent (Except Err Unit) := do
  match ← upgradeClient policy c with
  | .error e => pure (.error (.errorf "StartBridge: " e))
  | .ok () =>
    match ← connectEndpoint c endpointURL endpointHeaders with
    | .error e =>
      Exec.emit (.closeClient (sanitizeCloseCode closeTryAgainLater)
        "upstream endpoint unavailable, please reconnect")
      pure (.error (.errorf "StartBridge: " e))
    | .ok () => pure (.ok ())

/-- What opening a bridge can do. -/
inductive StartRun (policy : OriginPolicy) (c : Sockets σ)
    (run : List HandshakeEvent × σ × Except π (Except Err Unit)) : Prop where
  | rejected (text : String) (code : Int) (s' : σ) (e : Err)
      (run_eq : run = ([.answer text code], s', .ok (.error e)))
  | notUpgraded (e e' : Err) (s' : σ)
      (run_eq : run = ([.upgrade (.error e)], s', .ok (.error e')))
  | upgraded (allowed : policy.allows c.origin = true) (es : List HandshakeEvent) (s' : σ)
      (result : Except Err Unit)
      (run_eq : run = (.upgrade (.ok ()) :: es, s', .ok result))

private theorem connectEndpoint_run (c : Sockets σ) (url : String) (headers : Header) (s : σ) :
    ∃ es s' result, (connectEndpoint c url headers : Exec π σ HandshakeEvent _) s =
      (es, s', .ok result) := by
  unfold connectEndpoint
  rcases c.parseURL url with e | url'
  · exact ⟨_, _, _, rfl⟩
  · rcases hd : c.dial url' headers s with ⟨e | ⟨⟩, s'⟩
    · exact ⟨_, _, _, Exec.bind_run_ok (Exec.call_run hd _) _⟩
    · exact ⟨_, _, _, Exec.bind_run_ok (Exec.call_run hd _) _⟩

/-- What starting a bridge can do. -/
theorem startBridge_run (policy : OriginPolicy) (c : Sockets σ) (url : String) (headers : Header)
    (s : σ) : StartRun policy c
      ((startBridge policy c url headers : Exec π σ HandshakeEvent _) s) := by
  unfold startBridge
  by_cases ho : policy.allows c.origin = true
  · rcases hu : c.upgrade s with ⟨e | ⟨⟩, s₁⟩
    · have hup : (upgradeClient policy c : Exec π σ HandshakeEvent _) s =
          ([.upgrade (.error e)], s₁,
            .ok (.error (.errorf₂ (.sentinel .bridgeClientUpgradeFailed) e))) := by
        simp only [upgradeClient, ho, Bool.not_true, Bool.false_eq_true, if_false]
        rw [Exec.bind_run_ok (Exec.call_run hu _)]
        rfl
      rw [Exec.bind_run_ok hup]
      exact .notUpgraded _ _ _ rfl
    · have hup : (upgradeClient policy c : Exec π σ HandshakeEvent _) s =
          ([.upgrade (.ok ())], s₁, .ok (.ok ())) := by
        simp only [upgradeClient, ho, Bool.not_true, Bool.false_eq_true, if_false]
        rw [Exec.bind_run_ok (Exec.call_run hu _)]
        rfl
      rw [Exec.bind_run_ok hup]
      obtain ⟨es, s₂, result, hc⟩ := @connectEndpoint_run π σ _ c url headers s₁
      simp only
      rw [Exec.bind_run_ok hc]
      rcases result with e | ⟨⟩
      · exact .upgraded ho _ _ _ rfl
      · exact .upgraded ho _ _ _ rfl
  · have hup : (upgradeClient policy c : Exec π σ HandshakeEvent _) s =
        ([.answer "websocket: origin not allowed" 403], s, .ok (.error
          (.wrap ((.sentinel .bridgeOriginRejected : Err).message ++ ": " ++
            GoLib.quote c.origin) (.sentinel .bridgeOriginRejected)))) := by
      simp only [upgradeClient, ho, Bool.not_false, if_true]
      rfl
    rw [Exec.bind_run_ok hup]
    exact .rejected _ _ _ _ rfl

end Start
end PocketAp.Websockets
