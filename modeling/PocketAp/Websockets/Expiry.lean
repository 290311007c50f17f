import PocketAp.Websockets.Forwarding

/-!
# Session expiry

The expiry watcher deactivates the processor and then shuts the bridge down,
`src/transport/ws.go:229–237`. In between the other goroutines go on. A client frame that is
routed there makes the routing loop shut the bridge down first, with another error.
-/

namespace PocketAp.Websockets

open PocketAp.Base PocketAp.Domain PocketAp.Relay

/-- `Shutdown` has begun. -/
def Once.begun : Once → Bool
  | .idle => false
  | _ => true

/-- Errors that call for a reconnect: the bridge's or the process's own end. -/
def reconnects : Option Err → Bool
  | none => true
  | some e => e.is .bridgeContextCanceled || e.is .canceled || e.is .bridgeSessionExpired

/-- A close frame that tells the client to reconnect. -/
def ReconnectHint (frame : Int × String) : Prop :=
  frame.1 = closeServiceRestart ∧ hasSuffix frame.2 "please reconnect" = true

instance (frame : Int × String) : Decidable (ReconnectHint frame) :=
  inferInstanceAs (Decidable (_ ∧ _))

/-- From a bridge whose processor has been deactivated the client hears a reconnect hint. -/
def HintsReconnect {σ : Type} (s : State σ) : Prop :=
  s.active = false → ∀ frame, (s.conn .client).closeFrame = some frame → ReconnectHint frame

section Runs

variable {σ : Type} (p : FrameProcessor σ)

/-- A step that is no failure: nobody breaks off or sends a close code before the client has
its close frame, and until `Shutdown` begins no frame is refused, except client frames for a
retired session. -/
def undisturbed (s : State σ) : Action σ → Bool
  | .read _ (.frame _) => true
  | .read _ _ => (s.conn .client).closeFrame.isSome
  | .process => s.once.begun ||
    match s.router with
    | .routing m => (s.process p m s.world).1.isOk || (m.source == .client && !s.active)
    | _ => true
  | .panics _ _ => s.once.begun
  | .write (some _) => s.once.begun
  | .cancelParent => s.once.begun
  | .shutdown err => reconnects err
  | .body sent => sent
  | _ => true

/-- No client frame is handed to the processor after it was deactivated and before `Shutdown`
begins. -/
def inTime (s : State σ) : Action σ → Bool
  | .process => s.once.begun ||
    match s.router with
    | .routing m => !(m.source == .client && !s.active)
    | _ => true
  | _ => true

/-! ### The close code -/

/-- What has been decided about the client's close frame at each stage. -/
def Once.Hints : Once → Prop
  | .running (.cancel err) => reconnects err = true
  | .running (.askEndpoint err) => reconnects err = true
  | .running (.askClient err) => reconnects err = true
  | .running (.sendClose .client code text) => ReconnectHint (code, text)
  | _ => True

/-- A close code has not been looked for yet, or is being looked for. -/
def Once.early : Once → Bool
  | .idle => true
  | .running (.cancel _) => true
  | .running (.askEndpoint _) => true
  | .running (.askClient _) => true
  | _ => false

/-- What holds as long as nothing fails and client frames come in time. -/
structure Calm (s : State σ) : Prop where
  works : s.once = .idle → s.router.Works ∧ ∀ src, (s.pump src).Runs
  uncancelled : s.once = .idle → s.cancelled = false
  hints : s.once.Hints
  silent : s.once.early = true → (s.conn .client).closeFrame = none
  codes : (s.conn .client).closeFrame = none → ∀ src, (s.conn src).closeInfo.1 = 0
  told : ∀ frame, (s.conn .client).closeFrame = some frame → ReconnectHint frame

private theorem errorCloseCode_of_reconnects {err : Option Err} (h : reconnects err = true) :
    ReconnectHint (sanitizeCloseCode (errorCloseCode err).1, (errorCloseCode err).2) := by
  cases err with
  | none => decide
  | some e =>
    simp only [reconnects, Bool.or_eq_true] at h
    unfold errorCloseCode
    by_cases hc : e.is .bridgeContextCanceled = true ∨ e.is .canceled = true
    · simp only [hc, if_true]
      decide
    · have he := h.resolve_left hc
      simp only [hc, he, if_true, if_false]
      decide

/-- A socket with a close frame on it sends no other. -/
private theorem sendClose_of_isSome {c : Connection} (h : c.closeFrame.isSome = true)
    (frame : Int × String) : c.sendClose frame = c := by
  have ho : c.isOpen = false := by
    cases hc : c.closeFrame with
    | none => simp [hc] at h
    | some f => simp [Connection.isOpen, hc]
  simp [Connection.sendClose, ho]

/-- A step that touches neither `Shutdown` nor the sockets. -/
private theorem Calm.congr {s s' : State σ} (h : Calm s) (ho : s'.once = s.once)
    (hc : s'.conn = s.conn)
    (hi : s.once = .idle → (s'.router.Works ∧ ∀ src, (s'.pump src).Runs) ∧ s'.cancelled = false) :
    Calm s' where
  works hidle := (hi (ho ▸ hidle)).1
  uncancelled hidle := (hi (ho ▸ hidle)).2
  hints := ho ▸ h.hints
  silent := by
    rw [ho, hc]
    exact h.silent
  codes := by
    rw [hc]
    exact h.codes
  told := by
    rw [hc]
    exact h.told

private theorem Calm.not_idle {s : State σ} (h : Calm s)
    (hs : (s.conn .client).closeFrame.isSome = true) : s.once ≠ .idle := by
  intro hidle
  have hn := h.silent (by rw [hidle]; rfl)
  simp [hn] at hs

private theorem begun_of_not_idle {o : Once} : o.begun = true ↔ o ≠ .idle := by
  cases o <;> simp [Once.begun]

/-- Once the client has its close frame, reads may fail. -/
private theorem calm_readFailed {s : State σ} {src : Source} {result : ReadResult} (h : Calm s)
    (hs : (s.conn .client).closeFrame.isSome = true) (hr : ∀ f, result ≠ .frame f) :
    Calm (s.readStep src result) := by
  have hidle := h.not_idle hs
  have hclient : ((s.readStep src result).conn .client).closeFrame =
      (s.conn .client).closeFrame := by
    cases result with
    | frame f => exact absurd rfl (hr f)
    | panicked => rfl
    | failed e closeInfo reply =>
      cases src with
      | endpoint => simp [State.readStep]
      | client =>
        cases closeInfo with
        | none =>
          cases reply with
          | none => simp [State.readStep]
          | some frame => simp [State.readStep, sendClose_of_isSome hs]
        | some info =>
          cases reply with
          | none => simp [State.readStep]
          | some frame =>
            have hc : ({ s.conn .client with closeInfo := info } : Connection).closeFrame.isSome :=
              hs
            simp [State.readStep, sendClose_of_isSome hc]
  constructor
  · rw [State.readStep_once]
    exact fun hi ↦ absurd hi hidle
  · rw [State.readStep_once]
    exact fun hi ↦ absurd hi hidle
  · rw [State.readStep_once]
    exact h.hints
  · rw [State.readStep_once, hclient]
    exact h.silent
  · rw [hclient]
    intro hn
    simp [hn] at hs
  · rw [hclient]
    exact h.told

private theorem Calm.of_begun {s : State σ} (begun : s.once ≠ .idle) (hints : s.once.Hints)
    (silent : s.once.early = true → (s.conn .client).closeFrame = none)
    (codes : (s.conn .client).closeFrame = none → ∀ src, (s.conn src).closeInfo.1 = 0)
    (told : ∀ frame, (s.conn .client).closeFrame = some frame → ReconnectHint frame) : Calm s :=
  ⟨fun h ↦ absurd h begun, fun h ↦ absurd h begun, hints, silent, codes, told⟩

/-- Past the stages that look for a close code. -/
private theorem Calm.of_late {s : State σ} (late : s.once.early = false) (hints : s.once.Hints)
    (codes : (s.conn .client).closeFrame = none → ∀ src, (s.conn src).closeInfo.1 = 0)
    (told : ∀ frame, (s.conn .client).closeFrame = some frame → ReconnectHint frame) : Calm s := by
  refine .of_begun (fun h ↦ ?_) hints (fun h ↦ ?_) codes told
  · rw [h] at late
    cases late
  · rw [h] at late
    cases late

private theorem calm_body {s : State σ} {stage : Stage} (h : Calm s)
    (running : s.once = .running stage) : Calm (s.bodyStep true stage) := by
  have hhints := h.hints
  have hsilent := h.silent
  rw [running] at hhints hsilent
  cases stage with
  | cancel err =>
    exact .of_begun (by simp [State.bodyStep]) hhints hsilent h.codes h.told
  | askEndpoint err =>
    have hcode := h.codes (hsilent rfl) .endpoint
    simp only [State.bodyStep, hcode, if_true]
    exact .of_begun (by simp) hhints hsilent h.codes h.told
  | askClient err =>
    have hcode := h.codes (hsilent rfl) .client
    simp only [State.bodyStep, hcode, if_true]
    exact .of_late rfl (errorCloseCode_of_reconnects hhints) h.codes h.told
  | sendClose peer code text =>
    cases peer with
    | endpoint =>
      refine .of_late rfl trivial ?_ ?_
      · intro hn src
        have hc := h.codes (by simpa [State.bodyStep] using hn) src
        cases src with
        | client => simpa [State.bodyStep] using hc
        | endpoint =>
          simp only [State.bodyStep, Function.update_self, if_true, Connection.sendClose]
          split <;> exact hc
      · simpa [State.bodyStep] using h.told
    | client =>
      simp only [State.bodyStep, if_true]
      by_cases ho : (s.conn .client).isOpen = true
      · refine .of_late rfl trivial ?_ ?_
        · simp [Connection.sendClose, ho]
        · simp only [Function.update_self, Connection.sendClose, ho, if_true, Option.some.injEq]
          rintro frame rfl
          exact hhints
      · have hsame : (s.conn .client).sendClose (code, text) = s.conn .client := by
          simp [Connection.sendClose, ho]
        rw [hsame, Function.update_eq_self]
        exact .of_late rfl trivial h.codes h.told
  | closeSocket peer code text =>
    have hf (src : Source) : ((s.bodyStep true (.closeSocket peer code text)).conn src).closeFrame =
        (s.conn src).closeFrame := by
      by_cases hx : src = peer
      · subst hx
        simp [State.bodyStep]
      · simp [State.bodyStep, Function.update_of_ne hx]
    have hi (src : Source) : ((s.bodyStep true (.closeSocket peer code text)).conn src).closeInfo =
        (s.conn src).closeInfo := by
      by_cases hx : src = peer
      · subst hx
        simp [State.bodyStep]
      · simp [State.bodyStep, Function.update_of_ne hx]
    refine .of_late ?_ ?_ ?_ ?_
    · cases peer <;> rfl
    · cases peer <;> trivial
    · rw [hf]
      intro hn src
      rw [hi]
      exact h.codes hn src
    · rw [hf]
      exact h.told
  | closeDone => exact .of_late rfl trivial h.codes h.told

/-- `Shutdown` begins with an error that calls for a reconnect. -/
private theorem calm_begin {s : State σ} (h : Calm s) (idle : s.once = .idle) {err : Option Err}
    (herr : reconnects err = true) : Calm { s with once := .running (.cancel err) } :=
  .of_begun (by simp) herr (fun _ ↦ h.silent (by rw [idle]; rfl)) h.codes h.told

/-- While `Shutdown` has not begun, only the watcher is about to call it. -/
private theorem Calm.pending {s : State σ} (h : Calm s) (idle : s.once = .idle) {who : Caller}
    {err : Option Err} (hp : s.pending who = some err) : reconnects err = true := by
  obtain ⟨hw, hr⟩ := h.works idle
  rcases State.pending_cases hp with ⟨src, -, hs⟩ | ⟨m, returns, -, hs⟩ | ⟨-, -, rfl⟩
  · have hrun := hr src
    simp [hs, Pump.Runs] at hrun
  · simp [hs, Router.Works] at hw
  · rfl

private theorem runs_update {f : Source → Pump} (hf : ∀ src, (f src).Runs) (x : Source) {v : Pump}
    (hv : v.Runs) (src : Source) : (Function.update f x v src).Runs := by
  by_cases hx : src = x
  · subst hx
    simpa using hv
  · simpa [Function.update_of_ne hx] using hf src

variable {p}

private theorem calm_step {s s' : State σ} {a : Action σ} (h : Calm s)
    (hc : undisturbed p s a = true ∧ inTime s a = true) (hs : step p s a = some s') : Calm s' := by
  obtain ⟨hu, ht⟩ := hc
  cases step_cases hs with
  | read src result reading =>
    cases result with
    | frame f =>
      refine h.congr rfl rfl (fun hi ↦ ⟨⟨(h.works hi).1, ?_⟩, h.uncancelled hi⟩)
      exact runs_update (h.works hi).2 src trivial
    | failed e closeInfo reply => exact calm_readFailed h hu (fun _ ↦ nofun)
    | panicked => exact calm_readFailed h hu (fun _ ↦ nofun)
  | enqueue src f holding room =>
    refine h.congr rfl rfl (fun hi ↦ ⟨⟨(h.works hi).1, ?_⟩, h.uncancelled hi⟩)
    exact runs_update (h.works hi).2 src trivial
  | abandon src f holding cancelled =>
    refine h.congr rfl rfl (fun hi ↦ ?_)
    rw [h.uncancelled hi] at cancelled
    cases cancelled
  | stop selecting cancelled =>
    refine h.congr rfl rfl (fun hi ↦ ?_)
    rw [h.uncancelled hi] at cancelled
    cases cancelled
  | take m rest selecting chan =>
    exact h.congr rfl rfl (fun hi ↦ ⟨⟨trivial, (h.works hi).2⟩, h.uncancelled hi⟩)
  | processed m payload w routing answer =>
    exact h.congr rfl rfl (fun hi ↦ ⟨⟨trivial, (h.works hi).2⟩, h.uncancelled hi⟩)
  | refused m e w routing answer =>
    refine h.congr rfl rfl (fun hi ↦ ?_)
    simp only [undisturbed, inTime, hi, Once.begun, routing, answer, Bool.false_or, Except.isOk,
      Except.toBool] at hu ht
    rw [hu] at ht
    cases ht
  | panicked m value world busy =>
    exact h.congr rfl rfl (fun hi ↦ absurd hi (begun_of_not_idle.mp hu))
  | unwritten m payload e writing =>
    exact h.congr rfl rfl (fun hi ↦ absurd hi (begun_of_not_idle.mp hu))
  | cancelParent => exact h.congr rfl rfl (fun hi ↦ absurd hi (begun_of_not_idle.mp hu))
  | written m payload writing takes =>
    have hconn (src : Source) : ((Function.update s.conn m.source.other { s.conn m.source.other with
        accepted := (s.conn m.source.other).accepted ++ [⟨m.frame.messageType, payload⟩] }) src).closeFrame
          = (s.conn src).closeFrame ∧
        ((Function.update s.conn m.source.other { s.conn m.source.other with
        accepted := (s.conn m.source.other).accepted ++ [⟨m.frame.messageType, payload⟩] }) src).closeInfo
          = (s.conn src).closeInfo := by
      by_cases hx : src = m.source.other
      · subst hx
        simp
      · simp [Function.update_of_ne hx]
    refine ⟨fun hi ↦ ⟨trivial, (h.works hi).2⟩, h.uncancelled, h.hints, ?_, ?_, ?_⟩
    · simp only [(hconn _).1]
      exact h.silent
    · simp only [(hconn _).1, (hconn _).2]
      exact h.codes
    · simp only [(hconn _).1]
      exact h.told
  | deactivate waiting => exact h.congr rfl rfl (fun hi ↦ ⟨h.works hi, h.uncancelled hi⟩)
  | elsewhere world => exact h.congr rfl rfl (fun hi ↦ ⟨h.works hi, h.uncancelled hi⟩)
  | begin who err pending idle => exact calm_begin h idle (h.pending idle pending)
  | shutdown err idle => exact calm_begin h idle hu
  | resume who err pending finished =>
    refine h.congr (State.resumed_once s who) (State.resumed_conn s who) (fun hi ↦ ?_)
    rw [finished] at hi
    cases hi
  | body sent stage running =>
    cases show sent = true from hu
    exact calm_body h running

private theorem calm_start (w : σ) : Calm ({ world := w } : State σ) :=
  ⟨fun _ ↦ ⟨trivial, fun _ ↦ trivial⟩, fun _ ↦ rfl, trivial, fun _ ↦ rfl, fun _ _ ↦ rfl, nofun⟩

variable (p) in
/-- If no client frame reaches the processor between its deactivation and the beginning of
`Shutdown`, a client of a bridge that expires undisturbed is told to reconnect. -/
theorem expiry_hints_reconnect (w : σ) (actions : List (Action σ)) (s : State σ)
    (hrun : runAll (step p) { world := w } actions = some s)
    (hall : AllSteps (step p) (fun s a ↦ undisturbed p s a = true ∧ inTime s a = true)
      { world := w } actions) : HintsReconnect s := by
  have hcalm : Calm s := invariant_of_allSteps (fun _ _ _ ↦ calm_step) (calm_start w) hall hrun
  exact fun _ ↦ hcalm.told

end Runs

/-- The watcher deactivates the processor and shuts the bridge down, with nobody in between. -/
def plainExpiry {σ : Type} : List (Action σ) :=
  [.deactivate, .begin .watcher, .body true, .body true, .body true, .body true]

/-- Two client frames before it: one is routed, the other waits on the channel. -/
def clientFrames : List (Action Unit) :=
  [.read .client (.frame ⟨1, [7]⟩), .enqueue .client, .take, .process, .write none,
    .read .client (.frame ⟨1, [8]⟩), .enqueue .client]

/-- With client frames before it, an expiry hints to reconnect. -/
theorem expiry_hints_reconnect_plain : ∃ s,
    runAll (step echoProcessor) { world := () } (clientFrames ++ plainExpiry) = some s ∧
      s.active = false ∧ (s.conn .endpoint).accepted = [⟨1, [7]⟩] ∧
      s.msgChan = [⟨.client, ⟨1, [8]⟩⟩] ∧
      (s.conn .client).closeFrame = some (1012, "session ended, please reconnect") ∧
      HintsReconnect s := by
  have hrun : ∃ s, runAll (step echoProcessor) { world := () } (clientFrames ++ plainExpiry) =
      some s ∧ s.active = false ∧ (s.conn .endpoint).accepted = [⟨1, [7]⟩] ∧
      s.msgChan = [⟨.client, ⟨1, [8]⟩⟩] ∧
      (s.conn .client).closeFrame = some (1012, "session ended, please reconnect") :=
    ⟨_, rfl, rfl, rfl, rfl, by decide⟩
  obtain ⟨s, hrun, hactive, hrouted, hwaits, hframe⟩ := hrun
  exact ⟨s, hrun, hactive, hrouted, hwaits, hframe,
    expiry_hints_reconnect echoProcessor () _ s hrun (by decide)⟩

/-- A client frame is routed after the deactivation and before the watcher's `Shutdown`. -/
def lateFrame : List (Action Unit) :=
  [.read .client (.frame ⟨1, [7]⟩), .enqueue .client, .deactivate, .take, .process,
    .begin .router, .body true, .body true, .body true, .body true]

/-- A client frame after `Deactivate` takes the hint away. -/
theorem lateFrame_no_hint : ∃ s,
    runAll (step echoProcessor) { world := () } lateFrame = some s ∧
      AllSteps (step echoProcessor) (fun s a ↦ undisturbed echoProcessor s a = true)
        { world := () } lateFrame ∧
      (s.conn .client).closeFrame = some (1011, "message processing error") ∧
      ¬ HintsReconnect s := by
  refine ⟨_, rfl, by decide, by decide, ?_⟩
  intro h
  have hint := h rfl (1011, "message processing error") (by decide)
  revert hint
  decide

end PocketAp.Websockets
