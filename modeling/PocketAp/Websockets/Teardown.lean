import PocketAp.Websockets.Expiry

/-!
# Teardown of a bridge

`src/websockets/bridge.go:141–190, 417–438`. Whichever goroutine wins the race for
`shutdownOnce`, what `Shutdown` does to the outside is an initial segment of one sequence of
five effects, fixed by the close code and text it chose. Everything said about close frames
below is read off that sequence.
-/

namespace PocketAp.Websockets

open PocketAp.Base PocketAp.Domain PocketAp.Relay

/-- What `Shutdown`'s body does to the sockets and to `done`. A close frame counts from the
call of `WriteControl` on, whether or not it goes out. -/
inductive Effect where
  | closeFrame (peer : Source) (code : Int) (text : String)
  | closeSocket (peer : Source)
  | closeDone
  deriving DecidableEq, Repr

/-- `src/websockets/bridge.go:168–188`. -/
def Stage.effects : Stage → List Effect
  | .sendClose .client code text => [.closeFrame .client code text]
  | .sendClose .endpoint code text => [.closeFrame .endpoint (endpointCloseCode code) text]
  | .closeSocket peer _ _ => [.closeSocket peer]
  | .closeDone => [.closeDone]
  | _ => []

/-- The effects of one action. -/
def effects {σ : Type} (s : State σ) : Action σ → List Effect
  | .body _ =>
    match s.once with
    | .running stage => stage.effects
    | _ => []
  | _ => []

/-- A whole teardown. -/
def teardown (code : Int) (text : String) : List Effect :=
  [.closeFrame .client code text, .closeSocket .client,
    .closeFrame .endpoint (endpointCloseCode code) text, .closeSocket .endpoint, .closeDone]

/-- Whether an effect is a close frame for a peer. -/
def Effect.framesTo (peer : Source) : Effect → Bool
  | .closeFrame x _ _ => x == peer
  | _ => false

/-! ### Close codes on the wire -/

/-- The entries of gorilla's `validReceivedCloseCodes` that are true. -/
def validReceivedCloseCodes : List Int :=
  [1000, 1001, 1002, 1003, 1007, 1008, 1009, 1010, 1011, 1012, 1013]

/-- A code a gorilla peer accepts in a close frame. -/
def ValidReceived (code : Int) : Prop :=
  code ∈ validReceivedCloseCodes ∨ 3000 ≤ code ∧ code ≤ 4999

/-- The size of `websocket.FormatCloseMessage`. -/
def closePayload (code : Int) (text : String) : Nat :=
  if code = 1005 then 0 else 2 + text.utf8ByteSize

/-- A code and a text that a close error of gorilla carries. -/
def Reportable (info : Int × String) : Prop :=
  (ValidReceived info.1 ∨ info.1 = 1005 ∨ info.1 = 1006) ∧ info.2.utf8ByteSize ≤ 123

/-- Close errors of this read are gorilla's. -/
def Reports {σ : Type} : Action σ → Prop
  | .read _ (.failed _ (some info) _) => Reportable info
  | _ => True

/-- Causes raised inside the repository: nil, or an error that is or wraps one of the bridge's
own sentinels or `context.Canceled`. `src/websockets/bridge.go:203, 212, 235, 239, 267, 272,
290`, `src/transport/bridgeset.go:57`, `src/transport/ws.go:236`. -/
def raisedHere : Option Err → Bool
  | none => true
  | some e =>
    e.is .bridgeContextCanceled || e.is .canceled || e.is .bridgeSessionExpired ||
      e.is .bridgeEndpointUnavailable || e.is .bridgeMessageProcessing ||
      e.is .bridgeConnectionFailed

/-- Whoever else calls `Shutdown` gives such a cause. -/
def RaisesHere {σ : Type} : Action σ → Prop
  | .shutdown err => raisedHere err = true
  | _ => True

private theorem validReceived_sanitize {info : Int × String} (h : Reportable info) :
    ValidReceived (sanitizeCloseCode info.1) := by
  unfold sanitizeCloseCode
  split
  · next hs =>
    rcases h.1 with hv | hc | hc
    · exact hv
    · rw [hc] at hs
      cases hs
    · rw [hc] at hs
      cases hs
  · exact .inl (by decide)

private theorem errorCloseCode_code (err : Option Err) :
    (errorCloseCode err).1 = 1011 ∨ (errorCloseCode err).1 = 1012 := by
  cases err with
  | none => exact .inr rfl
  | some e =>
    unfold errorCloseCode
    dsimp only
    repeat' split
    all_goals first
      | exact .inl rfl
      | exact .inr rfl

private theorem errorCloseCode_text {err : Option Err} (h : raisedHere err = true) :
    (errorCloseCode err).2.utf8ByteSize ≤ 123 := by
  cases err with
  | none => decide
  | some e =>
    simp only [raisedHere, Bool.or_eq_true] at h
    unfold errorCloseCode
    dsimp only
    split
    · decide
    · next hc =>
      split
      · decide
      · next hx =>
        split
        · decide
        · next hu =>
          split
          · decide
          · next hm =>
            split
            · decide
            · next hf => simp [hc, hx, hu, hm, hf] at h

private theorem validReceived_endpoint {code : Int} (h : ValidReceived code) :
    ValidReceived (endpointCloseCode code) := by
  unfold endpointCloseCode
  split
  · exact .inl (by decide)
  · exact h

private theorem endpointCloseCode_ne (code : Int) :
    endpointCloseCode code ≠ 1011 ∧ endpointCloseCode code ≠ 1012 ∧
      endpointCloseCode code ≠ 1013 := by
  unfold endpointCloseCode
  split
  · decide
  · next h =>
    simp only [not_or] at h
    exact h

private theorem sanitizeCloseCode_application {code : Int} (h : 3000 ≤ code ∧ code ≤ 4999) :
    sanitizeCloseCode code = code := by
  have hs : isSendableCloseCode code = true := by
    unfold isSendableCloseCode
    rw [if_neg (by omega)]
    simp [h]
  simp [sanitizeCloseCode, hs]

/-! ### The sequence of effects -/

/-- How much of a teardown is done, when the code and text it is for meet `P`. -/
def Once.Wrote (P : Int → String → Prop) : Once → List Effect → Prop
  | .running (.sendClose .client code text), es => P code text ∧ es = []
  | .running (.closeSocket .client code text), es =>
    P code text ∧ es = (teardown code text).take 1
  | .running (.sendClose .endpoint code text), es =>
    P code text ∧ es = (teardown code text).take 2
  | .running (.closeSocket .endpoint code text), es =>
    P code text ∧ es = (teardown code text).take 3
  | .running .closeDone, es => ∃ code text, P code text ∧ es = (teardown code text).take 4
  | .finished, es => ∃ code text, P code text ∧ es = teardown code text
  | _, es => es = []

private theorem Once.Wrote.segment {P : Int → String → Prop} {o : Once} {es : List Effect}
    (h : o.Wrote P es) : es = [] ∨ ∃ code text, P code text ∧ es <+: teardown code text := by
  cases o with
  | idle => exact .inl h
  | finished =>
    obtain ⟨code, text, hP, rfl⟩ := h
    exact .inr ⟨code, text, hP, List.prefix_rfl⟩
  | running stage =>
    cases stage with
    | cancel err => exact .inl h
    | askEndpoint err => exact .inl h
    | askClient err => exact .inl h
    | closeDone =>
      obtain ⟨code, text, hP, rfl⟩ := h
      exact .inr ⟨code, text, hP, List.take_prefix _ _⟩
    | sendClose peer code text =>
      cases peer with
      | client => exact .inl h.2
      | endpoint => exact .inr ⟨code, text, h.1, h.2 ▸ List.take_prefix _ _⟩
    | closeSocket peer code text =>
      cases peer <;> exact .inr ⟨code, text, h.1, h.2 ▸ List.take_prefix _ _⟩

/-- Every effect so far belongs to a teardown with a code and text that meet `P`. -/
theorem Once.Wrote.mem {P : Int → String → Prop} {o : Once} {es : List Effect}
    (h : o.Wrote P es) {e : Effect} (he : e ∈ es) :
    ∃ code text, P code text ∧ e ∈ teardown code text := by
  rcases h.segment with rfl | ⟨code, text, hP, hes⟩
  · cases he
  · exact ⟨code, text, hP, hes.mem he⟩

private theorem Once.Wrote.count_framesTo {P : Int → String → Prop} {o : Once} {es : List Effect}
    (h : o.Wrote P es) (peer : Source) : es.countP (Effect.framesTo peer) ≤ 1 := by
  rcases h.segment with rfl | ⟨code, text, hP, hes⟩
  · exact Nat.zero_le 1
  · refine hes.sublist.countP_le.trans ?_
    cases peer <;> exact Nat.le_refl 1

private theorem Once.Wrote.count_closeDone {P : Int → String → Prop} {o : Once} {es : List Effect}
    (h : o.Wrote P es) : es.count .closeDone = if o = .finished then 1 else 0 := by
  cases o with
  | idle =>
    cases h
    rfl
  | finished =>
    obtain ⟨code, text, -, rfl⟩ := h
    rfl
  | running stage =>
    cases stage with
    | cancel err =>
      cases h
      rfl
    | askEndpoint err =>
      cases h
      rfl
    | askClient err =>
      cases h
      rfl
    | closeDone =>
      obtain ⟨code, text, -, rfl⟩ := h
      rfl
    | sendClose peer code text => cases peer <;> (cases h.2; rfl)
    | closeSocket peer code text => cases peer <;> (cases h.2; rfl)

/-- Behind the client's socket its close frame has been written. -/
theorem Once.Wrote.mem_of_past {P : Int → String → Prop} {o : Once} {es : List Effect}
    (h : o.Wrote P es) (hpast : o.past .client = true) :
    ∃ code text, P code text ∧ .closeFrame .client code text ∈ es := by
  cases o with
  | idle => cases hpast
  | finished =>
    obtain ⟨code, text, hP, rfl⟩ := h
    exact ⟨code, text, hP, List.mem_cons_self⟩
  | running stage =>
    cases stage with
    | cancel err => cases hpast
    | askEndpoint err => cases hpast
    | askClient err => cases hpast
    | closeDone =>
      obtain ⟨code, text, hP, rfl⟩ := h
      exact ⟨code, text, hP, List.mem_cons_self⟩
    | sendClose peer code text =>
      cases peer with
      | client => cases hpast
      | endpoint => exact ⟨code, text, h.1, h.2 ▸ List.mem_cons_self⟩
    | closeSocket peer code text =>
      cases peer with
      | client => cases hpast
      | endpoint => exact ⟨code, text, h.1, h.2 ▸ List.mem_cons_self⟩

section Runs

variable {σ : Type} {p : FrameProcessor σ}

/-- The code and text the body settles on at a stage. -/
def State.chosen (s : State σ) : Stage → Option (Int × String)
  | .askEndpoint _ =>
    let info := (s.conn .endpoint).closeInfo
    if info.1 = 0 then none else some (sanitizeCloseCode info.1, info.2)
  | .askClient err =>
    let info := (s.conn .client).closeInfo
    let info := if info.1 = 0 then errorCloseCode err else info
    some (sanitizeCloseCode info.1, info.2)
  | _ => none

private theorem wrote_bodyStep {P : Int → String → Prop} {s : State σ} {stage : Stage}
    {es : List Effect} (sent : Bool) (h : (Once.running stage).Wrote P es)
    (hP : ∀ c, s.chosen stage = some c → P c.1 c.2) :
    (s.bodyStep sent stage).once.Wrote P (es ++ stage.effects) := by
  cases stage with
  | cancel err =>
    cases h
    rfl
  | askEndpoint err =>
    cases h
    simp only [State.bodyStep]
    simp only [State.chosen] at hP
    split
    · rfl
    · next hc =>
      rw [if_neg hc] at hP
      exact ⟨hP _ rfl, rfl⟩
  | askClient err =>
    cases h
    exact ⟨hP _ rfl, rfl⟩
  | sendClose peer code text =>
    cases peer <;>
    · obtain ⟨hc, rfl⟩ := h
      exact ⟨hc, rfl⟩
  | closeSocket peer code text =>
    cases peer with
    | client =>
      obtain ⟨hc, rfl⟩ := h
      exact ⟨hc, rfl⟩
    | endpoint =>
      obtain ⟨hc, rfl⟩ := h
      exact ⟨code, text, hc, rfl⟩
  | closeDone =>
    obtain ⟨code, text, hc, rfl⟩ := h
    exact ⟨code, text, hc, rfl⟩

/-- Effects follow the stages, whatever the other goroutines do in between. -/
theorem wrote_step {P : Int → String → Prop} {es : List Effect} {s s' : State σ} {a : Action σ}
    (h : s.once.Wrote P es)
    (hP : ∀ stage c, s.once = .running stage → s.chosen stage = some c → P c.1 c.2)
    (hs : step p s a = some s') : s'.once.Wrote P (es ++ effects s a) := by
  cases step_cases hs with
  | body sent stage running =>
    rw [running] at h
    simp only [effects, running]
    exact wrote_bodyStep sent h (fun c ↦ hP stage c running)
  | begin who err pending idle =>
    rw [idle] at h
    cases h
    rfl
  | shutdown err idle =>
    rw [idle] at h
    cases h
    rfl
  | read src result reading =>
    rw [State.readStep_once]
    simpa only [effects, List.append_nil] using h
  | resume who err pending finished =>
    rw [State.resumed_once]
    simpa only [effects, List.append_nil] using h
  | _ => simpa only [effects, List.append_nil] using h

/-! ### What the peers reported -/

private theorem sendClose_closeInfo (c : Connection) (frame : Int × String) :
    (c.sendClose frame).closeInfo = c.closeInfo :=
  Connection.sendClose_keeps (f := Connection.closeInfo) (fun _ _ ↦ rfl) c frame

private theorem bodyStep_closeInfo (s : State σ) (sent : Bool) (stage : Stage) (x : Source) :
    ((s.bodyStep sent stage).conn x).closeInfo = (s.conn x).closeInfo :=
  s.bodyStep_keeps sent stage (f := Connection.closeInfo) (fun _ _ ↦ rfl) (fun _ ↦ rfl) x

/-- The code a peer sent is recorded by the read that failed with it, and then the read loop is
on its way out. -/
def Recorded (s : State σ) (src : Source) : Prop :=
  (s.conn src).closeInfo.1 ≠ 0 → Reportable (s.conn src).closeInfo ∧ ¬ (s.pump src).Runs

private theorem Recorded.congr {s s' : State σ} {src : Source} (h : Recorded s src)
    (hc : (s'.conn src).closeInfo = (s.conn src).closeInfo)
    (hp : (s'.pump src).Runs → (s.pump src).Runs) : Recorded s' src := by
  intro hne
  rw [hc] at hne ⊢
  exact ⟨(h hne).1, fun hr ↦ (h hne).2 (hp hr)⟩

private theorem runs_of_update {pump : Source → Pump} {x src : Source} {v : Pump}
    (hv : v.Runs → (pump x).Runs) (h : (Function.update pump x v src).Runs) : (pump src).Runs := by
  by_cases hx : src = x
  · subst hx
    rw [Function.update_self] at h
    exact hv h
  · rwa [Function.update_of_ne hx] at h

/-- A step leaves the record of a peer alone, or is the failing read that sets it. -/
private theorem closeInfo_step {s s' : State σ} {a : Action σ} (hs : step p s a = some s')
    (src : Source) :
    ((s'.conn src).closeInfo = (s.conn src).closeInfo ∧
      ((s'.pump src).Runs → (s.pump src).Runs)) ∨
    (∃ e info reply, a = .read src (.failed e (some info) reply) ∧ s.pump src = .reading ∧
      (s'.conn src).closeInfo = info ∧ ¬ (s'.pump src).Runs) := by
  cases step_cases hs with
  | read x result reading =>
    by_cases hx : src = x
    · subst hx
      have hruns : (s.pump src).Runs := by
        rw [reading]
        trivial
      cases result with
      | frame f => exact .inl ⟨rfl, fun _ ↦ hruns⟩
      | panicked => exact .inl ⟨rfl, fun _ ↦ hruns⟩
      | failed e closeInfo reply =>
        cases closeInfo with
        | none =>
          refine .inl ⟨?_, fun _ ↦ hruns⟩
          cases reply <;> simp [State.readStep, sendClose_closeInfo]
        | some info =>
          refine .inr ⟨e, info, reply, rfl, reading, ?_, ?_⟩
          · cases reply <;> simp [State.readStep, sendClose_closeInfo]
          · simp [State.readStep, Pump.Runs]
    · refine .inl ?_
      cases result <;> simp [State.readStep, Function.update_of_ne hx]
  | enqueue x f holding room =>
    refine .inl ⟨rfl, runs_of_update (fun _ ↦ ?_)⟩
    rw [holding]
    trivial
  | abandon x f holding cancelled =>
    refine .inl ⟨rfl, runs_of_update (fun _ ↦ ?_)⟩
    rw [holding]
    trivial
  | written m payload writing takes =>
    refine .inl ⟨?_, fun hr ↦ hr⟩
    by_cases hx : src = m.source.other
    · subst hx
      simp
    · simp [Function.update_of_ne hx]
  | resume who err pending finished =>
    refine .inl ⟨by rw [State.resumed_conn], ?_⟩
    cases who with
    | router => exact id
    | watcher => exact id
    | pump x => exact runs_of_update False.elim
  | body sent stage running =>
    refine .inl ⟨bodyStep_closeInfo s sent stage src, fun hr ↦ ?_⟩
    rwa [State.bodyStep_pump] at hr
  | _ => exact .inl ⟨rfl, fun hr ↦ hr⟩

private theorem recorded_step {s s' : State σ} {a : Action σ} {src : Source} (h : Recorded s src)
    (hr : Reports a) (hs : step p s a = some s') : Recorded s' src := by
  rcases closeInfo_step hs src with ⟨hc, hp⟩ | ⟨e, info, reply, rfl, -, hc, hp⟩
  · exact h.congr hc hp
  · intro _
    rw [hc]
    exact ⟨hr, hp⟩

/-- A code the peer sent stays on record. -/
private theorem closeInfo_kept {s s' : State σ} {a : Action σ} {src : Source}
    (h : Recorded s src) (hne : (s.conn src).closeInfo.1 ≠ 0) (hs : step p s a = some s') :
    (s'.conn src).closeInfo = (s.conn src).closeInfo := by
  rcases closeInfo_step hs src with ⟨hc, -⟩ | ⟨e, info, reply, -, hreading, -, -⟩
  · exact hc
  · refine absurd ?_ (h hne).2
    rw [hreading]
    trivial

/-! ### Causes -/

/-- The cause `Shutdown` runs with, as long as it may still be asked for. -/
def Once.cause : Once → Option (Option Err)
  | .running (.cancel err) => some err
  | .running (.askEndpoint err) => some err
  | .running (.askClient err) => some err
  | _ => none

/-- Whoever shuts the bridge down, or is about to, does so for a cause raised here. -/
structure Caused (s : State σ) : Prop where
  running : ∀ err, s.once.cause = some err → raisedHere err = true
  pump : ∀ src err, s.pump src = .calling err → raisedHere err = true
  router : ∀ m err returns, s.router = .calling m err returns → raisedHere err = true

private theorem Caused.pending {s : State σ} (h : Caused s) {who : Caller} {err : Option Err}
    (hp : s.pending who = some err) : raisedHere err = true := by
  rcases State.pending_cases hp with ⟨src, -, hs⟩ | ⟨m, returns, -, hs⟩ | ⟨-, -, rfl⟩
  · exact h.pump src err hs
  · exact h.router m err returns hs
  · rfl

private theorem update_calling {f : Source → Pump} {x : Source} {v : Pump}
    (hf : ∀ src err, f src = .calling err → raisedHere err = true)
    (hv : ∀ err, v = .calling err → raisedHere err = true) (src : Source) (err : Option Err)
    (h : Function.update f x v src = .calling err) : raisedHere err = true := by
  by_cases hx : src = x
  · subst hx
    rw [Function.update_self] at h
    exact hv err h
  · rw [Function.update_of_ne hx] at h
    exact hf src err h

private theorem pump_calling {e err : Option Err} (he : raisedHere e = true)
    (h : Pump.calling e = .calling err) : raisedHere err = true := by
  cases h
  exact he

private theorem router_calling {m m' : Option Message} {e err : Option Err} {r r' : Bool}
    (he : raisedHere e = true) (h : Router.calling m e r = .calling m' err r') :
    raisedHere err = true := by
  cases h
  exact he

private theorem raisedHere_readError (src : Source) (e : Err) :
    raisedHere (some (readError src e)) = true := by
  simp [raisedHere, readError, GoError.is]

private theorem raisedHere_endedError (src : Source) :
    raisedHere (some (endedError src)) = true := by
  simp [raisedHere, endedError, GoError.is]

private theorem raisedHere_processError (e : Err) :
    raisedHere (some (processError e)) = true := by
  simp [raisedHere, processError, GoError.errorf₂, GoError.is]

private theorem raisedHere_writeError (dst : Source) (e : Err) :
    raisedHere (some (writeError dst e)) = true := by
  simp [raisedHere, writeError, GoError.is]

private theorem cause_bodyStep {s : State σ} {stage : Stage} {sent : Bool} {err : Option Err}
    (h : (s.bodyStep sent stage).once.cause = some err) :
    (Once.running stage).cause = some err := by
  cases stage with
  | cancel e => exact h
  | askEndpoint e =>
    simp only [State.bodyStep] at h
    split at h
    · exact h
    · cases h
  | askClient e => cases h
  | sendClose peer code text => cases h
  | closeSocket peer code text => cases peer <;> cases h
  | closeDone => cases h

private theorem caused_step {s s' : State σ} {a : Action σ} (h : Caused s) (hr : RaisesHere a)
    (hs : step p s a = some s') : Caused s' := by
  cases step_cases hs with
  | read src result reading =>
    refine ⟨by rw [State.readStep_once]; exact h.running, ?_, by
      rw [State.readStep_router]; exact h.router⟩
    cases result with
    | frame f => exact update_calling h.pump nofun
    | panicked => exact update_calling h.pump (fun _ ↦ pump_calling (raisedHere_endedError src))
    | failed e closeInfo reply =>
      exact update_calling h.pump (fun _ ↦ pump_calling (raisedHere_readError src e))
  | enqueue src f holding room => exact ⟨h.running, update_calling h.pump nofun, h.router⟩
  | abandon src f holding cancelled =>
    have hv (err : Option Err) := @pump_calling _ err (raisedHere_endedError src)
    exact ⟨h.running, update_calling h.pump hv, h.router⟩
  | take m rest selecting chan => exact ⟨h.running, h.pump, nofun⟩
  | stop selecting cancelled => exact ⟨h.running, h.pump, fun _ _ _ ↦ router_calling rfl⟩
  | processed m payload w routing answer => exact ⟨h.running, h.pump, nofun⟩
  | refused m e w routing answer =>
    exact ⟨h.running, h.pump, fun _ _ _ ↦ router_calling (raisedHere_processError e)⟩
  | panicked m value world busy =>
    exact ⟨h.running, h.pump, fun _ _ _ ↦ router_calling (raisedHere_processError _)⟩
  | written m payload writing takes => exact ⟨h.running, h.pump, nofun⟩
  | unwritten m payload e writing =>
    exact ⟨h.running, h.pump, fun _ _ _ ↦ router_calling (raisedHere_writeError _ e)⟩
  | begin who err pending idle =>
    refine ⟨fun err' he ↦ ?_, h.pump, h.router⟩
    cases he
    exact h.pending pending
  | shutdown err idle =>
    refine ⟨fun err' he ↦ ?_, h.pump, h.router⟩
    cases he
    exact hr
  | resume who err pending finished =>
    refine ⟨by rw [State.resumed_once]; exact h.running, ?_, ?_⟩
    · cases who with
      | pump src => exact update_calling h.pump nofun
      | router => exact h.pump
      | watcher => exact h.pump
    · cases who with
      | pump src => exact h.router
      | watcher => exact h.router
      | router =>
        intro m err' returns he
        simp only [State.resumed, Router.resumed] at he
        split at he <;> cases he
  | body sent stage running =>
    refine ⟨fun err he ↦ ?_, ?_, ?_⟩
    · exact h.running err (by rw [running]; exact cause_bodyStep he)
    · rw [State.bodyStep_pump]
      exact h.pump
    · rw [State.bodyStep_router]
      exact h.router
  | deactivate waiting => exact ⟨h.running, h.pump, h.router⟩
  | cancelParent => exact ⟨h.running, h.pump, h.router⟩
  | elsewhere world => exact ⟨h.running, h.pump, h.router⟩

/-! ### The choice -/

private theorem valid_of_chosen {s : State σ} (h : ∀ src, Recorded s src) {stage : Stage}
    {c : Int × String} (hc : s.chosen stage = some c) : ValidReceived c.1 := by
  cases stage with
  | askEndpoint err =>
    simp only [State.chosen] at hc
    split at hc
    · cases hc
    · next hne =>
      cases hc
      exact validReceived_sanitize (h .endpoint hne).1
  | askClient err =>
    cases hc
    dsimp only
    split
    · rcases errorCloseCode_code err with he | he
      · rw [he]
        exact .inl (by decide)
      · rw [he]
        exact .inl (by decide)
    · next hne => exact validReceived_sanitize (h .client hne).1
  | _ => cases hc

private theorem text_of_chosen {s : State σ} (h : ∀ src, Recorded s src) (hcause : Caused s)
    {stage : Stage} (running : s.once = .running stage) {c : Int × String}
    (hc : s.chosen stage = some c) : c.2.utf8ByteSize ≤ 123 := by
  cases stage with
  | askEndpoint err =>
    simp only [State.chosen] at hc
    split at hc
    · cases hc
    · next hne =>
      cases hc
      exact (h .endpoint hne).1.2
  | askClient err =>
    cases hc
    dsimp only
    split
    · exact errorCloseCode_text (hcause.running err (by rw [running]; rfl))
    · next hne => exact (h .client hne).1.2
  | _ => cases hc

/-! ### The routing loop -/

/-- The routing loop returns from `Shutdown`, and so not before it is through. -/
def Joined (s : State σ) : Prop := s.router = .returned → s.once = .finished

/-- Every step keeps it that the routing loop returns only after `Shutdown`. -/
theorem joined_step {s s' : State σ} {a : Action σ} (h : Joined s)
    (hs : step p s a = some s') : Joined s' := by
  cases step_cases hs with
  | read src result reading =>
    intro hret
    rw [State.readStep_router] at hret
    rw [State.readStep_once]
    exact h hret
  | resume who err pending finished =>
    intro _
    rw [State.resumed_once]
    exact finished
  | body sent stage running =>
    intro hret
    rw [State.bodyStep_router] at hret
    rw [h hret] at running
    cases running
  | begin who err pending idle =>
    intro hret
    rw [h hret] at idle
    cases idle
  | shutdown err idle =>
    intro hret
    rw [h hret] at idle
    cases idle
  | take m rest selecting chan => exact nofun
  | stop selecting cancelled => exact nofun
  | processed m payload w routing answer => exact nofun
  | refused m e w routing answer => exact nofun
  | panicked m value world busy => exact nofun
  | written m payload writing takes => exact nofun
  | unwritten m payload e writing => exact nofun
  | enqueue src f holding room => exact h
  | abandon src f holding cancelled => exact h
  | deactivate waiting => exact h
  | cancelParent => exact h
  | elsewhere world => exact h

/-! ### Reaching the end -/

/-- The stages ahead. -/
def Stage.rank : Stage → Nat
  | .closeDone => 0
  | .closeSocket .endpoint _ _ => 1
  | .sendClose .endpoint _ _ => 2
  | .closeSocket .client _ _ => 3
  | .sendClose .client _ _ => 4
  | .askClient _ => 5
  | .askEndpoint _ => 6
  | .cancel _ => 7

/-- Every turn of `Shutdown` brings it closer to its end. -/
theorem bodyStep_rank (s : State σ) (sent : Bool) (stage : Stage) :
    (s.bodyStep sent stage).once = .finished ∨
      ∃ next, (s.bodyStep sent stage).once = .running next ∧ next.rank < stage.rank := by
  cases stage with
  | closeDone => exact .inl rfl
  | askEndpoint err =>
    simp only [State.bodyStep]
    split
    · exact .inr ⟨_, rfl, by simp [Stage.rank]⟩
    · exact .inr ⟨_, rfl, by simp [Stage.rank]⟩
  | cancel err => exact .inr ⟨_, rfl, by simp [Stage.rank]⟩
  | askClient err => exact .inr ⟨_, rfl, by simp [Stage.rank]⟩
  | sendClose peer code text => cases peer <;> exact .inr ⟨_, rfl, by simp [Stage.rank]⟩
  | closeSocket peer code text => cases peer <;> exact .inr ⟨_, rfl, by simp [Stage.rank]⟩

/-- Some run leads on from here to the end of `Shutdown`. -/
def CanFinish (p : FrameProcessor σ) (s : State σ) : Prop :=
  ∃ actions s', runAll (step p) s actions = some s' ∧ s'.once = .finished

private theorem CanFinish.step {s s' : State σ} {a : Action σ} (hs : step p s a = some s')
    (h : CanFinish p s') : CanFinish p s := by
  obtain ⟨actions, s'', hrun, hf⟩ := h
  exact ⟨a :: actions, s'', runAll_of_step hs hrun, hf⟩

/-- The body of `Shutdown` waits for nobody: its own steps finish it. -/
theorem body_finishes {s : State σ} {stage : Stage} (running : s.once = .running stage) :
    ∃ n s', runAll (step p) s (List.replicate n (.body true)) = some s' ∧
      s'.once = .finished := by
  have hs : step p s (.body true) = some (s.bodyStep true stage) := by
    simp only [step, running]
  rcases bodyStep_rank s true stage with hf | ⟨next, hn, hlt⟩
  · exact ⟨1, _, runAll_single hs, hf⟩
  · obtain ⟨n, s', hrun, hf⟩ := body_finishes hn
    exact ⟨n + 1, s', runAll_of_step hs hrun, hf⟩
termination_by stage.rank

/-- A bridge whose `Shutdown` has begun can finish it. -/
theorem canFinish_of_running {s : State σ} {stage : Stage} (running : s.once = .running stage) :
    CanFinish p s :=
  have ⟨_, s', hrun, hf⟩ := body_finishes running
  ⟨_, s', hrun, hf⟩

private theorem canFinish_of_pending {s : State σ} {who : Caller} {err : Option Err}
    (hp : s.pending who = some err) : CanFinish p s := by
  cases ho : s.once with
  | idle =>
    have hs : step p s (.begin who) = some { s with once := .running (.cancel err) } := by
      simp only [step, hp, ho]
    exact .step hs (canFinish_of_running rfl)
  | running stage => exact canFinish_of_running ho
  | finished => exact ⟨[], s, rfl, ho⟩

private theorem canFinish_of_selecting {s : State σ} (hc : s.cancelled = true)
    (hr : s.router = .selecting) : CanFinish p s := by
  have hs : step p s .stop = some
      { s with router := .calling none (some (.sentinel .bridgeContextCanceled)) true } := by
    simp only [step, hr, hc]
  exact .step hs (@canFinish_of_pending σ p _ .router _ rfl)

private theorem canFinish_of_writing {s : State σ} {m : Message} {payload : Bytes}
    (hc : s.cancelled = true) (hr : s.router = .writing m payload) : CanFinish p s := by
  by_cases ho : (s.conn m.source.other).isOpen = true
  · have hs : step p s (.write none) = some { s with
        conn := Function.update s.conn m.source.other { s.conn m.source.other with
          accepted := (s.conn m.source.other).accepted ++ [⟨m.frame.messageType, payload⟩] }
        router := .selecting } := by
      simp only [step, hr, ho, if_true]
    exact .step hs (canFinish_of_selecting hc rfl)
  · have hs : step p s (.write (some (.text "websocket: close sent"))) = some { s with
        router := .calling (some m)
          (some (writeError m.source.other (.text "websocket: close sent"))) false } := by
      simp only [step, hr]
    exact .step hs (@canFinish_of_pending σ p _ .router _ rfl)

/-- A cancelled context reaches the routing loop wherever it is. -/
theorem canFinish_of_cancelled {s : State σ} (hj : Joined s) (hc : s.cancelled = true) :
    CanFinish p s := by
  cases hr : s.router with
  | selecting => exact canFinish_of_selecting hc hr
  | writing m payload => exact canFinish_of_writing hc hr
  | calling m err returns =>
    have hp : s.pending .router = some err := by simp only [State.pending, hr]
    exact canFinish_of_pending hp
  | returned => exact ⟨[], s, rfl, hj hr⟩
  | routing m =>
    cases ha : s.process p m s.world with
    | mk answer w =>
      cases answer with
      | ok payload =>
        have hs : step p s .process = some { s with world := w, router := .writing m payload } := by
          simp only [step, hr, ha]
        exact .step hs (canFinish_of_writing hc rfl)
      | error e =>
        have hs : step p s .process = some
            { s with world := w, router := .calling (some m) (some (processError e)) false } := by
          simp only [step, hr, ha]
        exact .step hs (@canFinish_of_pending σ p _ .router _ rfl)

/-! ### The whole run -/

/-- The endpoint's record has not been looked at. -/
def Once.unasked : Once → Bool
  | .idle => true
  | .running (.cancel _) => true
  | .running (.askEndpoint _) => true
  | _ => false

/-- What a run, from the start of a bridge to `s`, does to the outside. -/
abbrev effectsOf (p : FrameProcessor σ) (w : σ) (actions : List (Action σ)) : List Effect :=
  outputs (step p) effects { world := w } actions

/-- An orderly teardown, as far as a run has come. -/
structure TornDown (p : FrameProcessor σ) (w : σ) (actions : List (Action σ)) (s : State σ) :
    Prop where
  /-- `done` is closed when `Shutdown` is through, once. -/
  doneOnce : (effectsOf p w actions).count .closeDone = if s.once = .finished then 1 else 0
  /-- Both sockets are closed before `done`. -/
  socketsClosed : s.once = .running .closeDone ∨ s.once = .finished →
    ∀ src, (s.conn src).closed = true
  joined : s.router = .returned → s.once = .finished
  /-- Nothing that calls for a teardown is left without one. -/
  completes : (s.cancelled = true ∨ s.once.begun = true ∨ ∃ who, (s.pending who).isSome = true) →
    CanFinish p s
  oneFrame : ∀ peer, (effectsOf p w actions).countP (Effect.framesTo peer) ≤ 1
  legal : ∀ peer code text, .closeFrame peer code text ∈ effectsOf p w actions →
    ValidReceived code
  upstream : ∀ code text, .closeFrame .endpoint code text ∈ effectsOf p w actions →
    code ≠ 1011 ∧ code ≠ 1012 ∧ code ≠ 1013
  /-- An application code on record in time is the client's code, with its text. -/
  carried : ∀ before after s₁, actions = before ++ after →
    runAll (step p) { world := w } before = some s₁ → s₁.once.unasked = true →
    ∀ code text, (s₁.conn .endpoint).closeInfo = (code, text) → 3000 ≤ code → code ≤ 4999 →
    (∀ c t, .closeFrame .client c t ∈ effectsOf p w actions → c = code ∧ t = text) ∧
    (s.once.past .client = true → .closeFrame .client code text ∈ effectsOf p w actions)
  fits : (∀ a ∈ actions, RaisesHere a) →
    ∀ peer code text, .closeFrame peer code text ∈ effectsOf p w actions →
    closePayload code text ≤ 125

private theorem mem_teardown {peer : Source} {c code : Int} {t text : String}
    (h : .closeFrame peer c t ∈ teardown code text) :
    t = text ∧ (peer = .client ∧ c = code ∨ peer = .endpoint ∧ c = endpointCloseCode code) := by
  simp only [teardown, List.mem_cons, Effect.closeFrame.injEq, reduceCtorEq, List.not_mem_nil,
    or_false, false_or] at h
  rcases h with ⟨hp, hc, ht⟩ | ⟨hp, hc, ht⟩
  · exact ⟨ht, .inl ⟨hp, hc⟩⟩
  · exact ⟨ht, .inr ⟨hp, hc⟩⟩

private theorem recorded_start (w : σ) (src : Source) :
    Recorded ({ world := w } : State σ) src := fun hne ↦ absurd rfl hne

private theorem caused_start (w : σ) : Caused ({ world := w } : State σ) := ⟨nofun, nofun, nofun⟩

variable {w : σ} {actions : List (Action σ)} {s : State σ}

/-- Where an invariant of the run makes every choice meet `P`, so do the effects. -/
private theorem wrote_run (P : Int → String → Prop) {C : Action σ → Prop} {I : State σ → Prop}
    (hstep : ∀ s a s', I s → C a → step p s a = some s' → I s')
    (hchoice : ∀ s stage c, I s → s.once = .running stage → s.chosen stage = some c → P c.1 c.2)
    {s₀ : State σ} {es : List Effect} (hes : s₀.once.Wrote P es) (hI : I s₀)
    (hC : ∀ a ∈ actions, C a) (h : runAll (step p) s₀ actions = some s) :
    s.once.Wrote P (es ++ outputs (step p) effects s₀ actions) := by
  have hboth (es : List Effect) (s : State σ) (a : Action σ) (s' : State σ)
      (hs : s.once.Wrote P es ∧ I s) (ha : C a) (hstep' : step p s a = some s') :
      s'.once.Wrote P (es ++ effects s a) ∧ I s' :=
    ⟨wrote_step hs.1 (fun stage c ↦ hchoice s stage c hs.2) hstep', hstep s a s' hs.2 ha hstep'⟩
  exact (invariant_of_outputs hboth ⟨hes, hI⟩ (allSteps_of_forall (fun a ha _ ↦ hC a ha) s₀) h).1

private theorem wrote_valid (hreports : ∀ a ∈ actions, Reports a)
    (h : runAll (step p) { world := w } actions = some s) :
    s.once.Wrote (fun code _ ↦ ValidReceived code) (effectsOf p w actions) := by
  have hstep (s : State σ) (a : Action σ) (s' : State σ) (hI : ∀ src, Recorded s src)
      (ha : Reports a) (hs : step p s a = some s') (src : Source) : Recorded s' src :=
    recorded_step (hI src) ha hs
  exact wrote_run (fun code _ ↦ ValidReceived code) hstep
    (fun _ _ _ hI _ hc ↦ valid_of_chosen hI hc) (show Once.idle.Wrote _ [] from rfl)
    (recorded_start w) hreports h

private theorem wrote_text (hreports : ∀ a ∈ actions, Reports a)
    (hraised : ∀ a ∈ actions, RaisesHere a)
    (h : runAll (step p) { world := w } actions = some s) :
    s.once.Wrote (fun _ text ↦ text.utf8ByteSize ≤ 123) (effectsOf p w actions) := by
  have hstep (s : State σ) (a : Action σ) (s' : State σ)
      (hI : (∀ src, Recorded s src) ∧ Caused s) (ha : Reports a ∧ RaisesHere a)
      (hs : step p s a = some s') : (∀ src, Recorded s' src) ∧ Caused s' :=
    ⟨fun src ↦ recorded_step (hI.1 src) ha.1 hs, caused_step hI.2 ha.2 hs⟩
  exact wrote_run (fun _ text ↦ text.utf8ByteSize ≤ 123) hstep
    (fun _ _ _ hI hrun hc ↦ text_of_chosen hI.1 hI.2 hrun hc) (show Once.idle.Wrote _ [] from rfl)
    ⟨recorded_start w, caused_start w⟩
    (fun a ha ↦ ⟨hreports a ha, hraised a ha⟩) h

/-- The client's record is consulted only when the endpoint has none. -/
private theorem askClient_step {s s' : State σ} {a : Action σ} {err : Option Err}
    (hs : step p s a = some s') (hask : s'.once = .running (.askClient err)) :
    s.once = .running (.askClient err) ∨ (s.conn .endpoint).closeInfo.1 = 0 := by
  cases step_cases hs with
  | read src result reading => exact .inl (by rwa [State.readStep_once] at hask)
  | resume who err pending finished => exact .inl (by rwa [State.resumed_once] at hask)
  | begin who err pending idle => cases hask
  | shutdown err idle => cases hask
  | body sent stage running =>
    cases stage with
    | cancel e => cases hask
    | askEndpoint e =>
      simp only [State.bodyStep] at hask
      split at hask
      · next hc => exact .inr hc
      · cases hask
    | askClient e => cases hask
    | sendClose peer code text => cases hask
    | closeSocket peer code text => cases peer <;> cases hask
    | closeDone => cases hask
  | _ => exact .inl hask

/-- The endpoint's code is on record, and nothing else has been asked for. -/
private structure Held (code : Int) (text : String) (s : State σ) : Prop where
  recorded : Recorded s .endpoint
  info : (s.conn .endpoint).closeInfo = (code, text)
  unasked : ∀ err, s.once ≠ .running (.askClient err)

private theorem held_step {code : Int} {text : String} (hne : code ≠ 0) {s s' : State σ}
    {a : Action σ} (h : Held code text s) (hr : Reports a) (hs : step p s a = some s') :
    Held code text s' := by
  have hinfo : (s.conn .endpoint).closeInfo.1 ≠ 0 := by rwa [h.info]
  constructor
  · exact recorded_step h.recorded hr hs
  · rw [closeInfo_kept h.recorded hinfo hs]
    exact h.info
  · intro err hask
    rcases askClient_step hs hask with hbefore | hzero
    · exact h.unasked err hbefore
    · exact hinfo hzero

private theorem held_chosen {code : Int} {text : String} (happ : 3000 ≤ code ∧ code ≤ 4999)
    {s : State σ} (h : Held code text s) {stage : Stage} {c : Int × String}
    (running : s.once = .running stage) (hc : s.chosen stage = some c) :
    c.1 = code ∧ c.2 = text := by
  cases stage with
  | askEndpoint err =>
    simp only [State.chosen, h.info] at hc
    rw [if_neg (by omega)] at hc
    cases hc
    exact ⟨sanitizeCloseCode_application happ, rfl⟩
  | askClient err => exact absurd running (h.unasked err)
  | _ => cases hc

private theorem Once.Wrote.of_unasked {P Q : Int → String → Prop} {o : Once} {es : List Effect}
    (h : o.Wrote P es) (ho : o.unasked = true) :
    o.Wrote Q es ∧ ∀ err, o ≠ .running (.askClient err) := by
  cases o with
  | idle => exact ⟨h, nofun⟩
  | finished => cases ho
  | running stage =>
    cases stage with
    | cancel err => exact ⟨h, nofun⟩
    | askEndpoint err => exact ⟨h, nofun⟩
    | _ => cases ho

private theorem wrote_carried {before after : List (Action σ)} {s₁ : State σ} {code : Int}
    {text : String} (hreports : ∀ a ∈ before ++ after, Reports a)
    (h : runAll (step p) { world := w } (before ++ after) = some s)
    (h₁ : runAll (step p) { world := w } before = some s₁) (hun : s₁.once.unasked = true)
    (hinfo : (s₁.conn .endpoint).closeInfo = (code, text)) (happ : 3000 ≤ code ∧ code ≤ 4999) :
    s.once.Wrote (fun c t ↦ c = code ∧ t = text) (effectsOf p w (before ++ after)) := by
  have hpre : ∀ a ∈ before, Reports a := fun a ha ↦ hreports a (List.mem_append_left _ ha)
  have hpost : ∀ a ∈ after, Reports a := fun a ha ↦ hreports a (List.mem_append_right _ ha)
  obtain ⟨s₁', h₁', hrest⟩ := runAll_append h
  rw [h₁] at h₁'
  cases h₁'
  obtain ⟨hes, hasked⟩ := (wrote_valid hpre h₁).of_unasked hun
  have hrec : Recorded s₁ .endpoint :=
    invariant_of_allSteps (fun _ _ _ ↦ recorded_step) (recorded_start w .endpoint)
      (allSteps_of_forall (fun a ha _ ↦ hpre a ha) _) h₁
  rw [effectsOf, outputs_append h₁]
  exact wrote_run (fun c t ↦ c = code ∧ t = text) (fun _ _ _ ↦ held_step (by omega))
    (fun _ _ _ hI hrun hc ↦ held_chosen happ hI hrun hc) hes ⟨hrec, hinfo, hasked⟩ hpost hrest

end Runs

/-- However the read loops, the routing loop, cancellation and other callers of `Shutdown`
interleave, the teardown is orderly. -/
theorem bridge_tornDown {σ : Type} (p : FrameProcessor σ) (w : σ) (actions : List (Action σ))
    (s : State σ) (hreports : ∀ a ∈ actions, Reports a)
    (h : runAll (step p) { world := w } actions = some s) : TornDown p w actions s := by
  have hvalid := wrote_valid hreports h
  have hshut : Shut s := by
    refine invariant_of_step (fun _ _ _ ↦ shut_step) (fun src hpast ↦ ?_) h
    cases src <;> cases hpast
  have hjoined : Joined s := by
    refine invariant_of_step (fun _ _ _ ↦ joined_step) (fun hret ↦ ?_) h
    cases hret
  constructor
  · exact hvalid.count_closeDone
  · intro ho src
    apply hshut
    rcases ho with ho | ho <;> (rw [ho]; rfl)
  · exact hjoined
  · rintro (hc | hb | ⟨who, hp⟩)
    · exact canFinish_of_cancelled hjoined hc
    · cases ho : s.once with
      | idle =>
        rw [ho] at hb
        cases hb
      | running stage => exact canFinish_of_running ho
      | finished => exact ⟨[], s, rfl, ho⟩
    · obtain ⟨err, he⟩ := Option.isSome_iff_exists.mp hp
      exact canFinish_of_pending he
  · exact hvalid.count_framesTo
  · intro peer code text hmem
    obtain ⟨c, t, hc, ht⟩ := hvalid.mem hmem
    obtain ⟨-, ⟨-, rfl⟩ | ⟨-, rfl⟩⟩ := mem_teardown ht
    · exact hc
    · exact validReceived_endpoint hc
  · intro code text hmem
    obtain ⟨c, t, -, ht⟩ := hvalid.mem hmem
    obtain ⟨-, ⟨hp, -⟩ | ⟨-, rfl⟩⟩ := mem_teardown ht
    · cases hp
    · exact endpointCloseCode_ne c
  · intro before after s₁ hsplit h₁ hun code text hinfo hlow hhigh
    subst hsplit
    have hcarried := wrote_carried hreports h h₁ hun hinfo ⟨hlow, hhigh⟩
    constructor
    · intro c t hmem
      obtain ⟨c', t', ⟨rfl, rfl⟩, ht⟩ := hcarried.mem hmem
      obtain ⟨rfl, ⟨-, rfl⟩ | ⟨hp, -⟩⟩ := mem_teardown ht
      · exact ⟨rfl, rfl⟩
      · cases hp
    · intro hpast
      obtain ⟨c, t, ⟨rfl, rfl⟩, hmem⟩ := hcarried.mem_of_past hpast
      exact hmem
  · intro hraised peer code text hmem
    obtain ⟨c, t, hsize, ht⟩ := (wrote_text hreports hraised h).mem hmem
    obtain ⟨rfl, -⟩ := mem_teardown ht
    unfold closePayload
    split <;> omega

/-- The endpoint closes with a code of its own and the client's read loop breaks off later. -/
def closedByEndpoint : List (Action Unit) :=
  [.read .endpoint (.failed (.text "websocket: close 4000") (some (4000, "session over")) none),
    .begin (.pump .endpoint), .body true, .body true, .body true, .body true,
    .read .client (.failed (.text "use of closed connection") none none),
    .body false, .body true, .body true]

/-- A bridge that the endpoint closes. -/
theorem bridge_tornDown_closedByEndpoint : ∃ s,
    runAll (step echoProcessor) { world := () } closedByEndpoint = some s ∧
    effectsOf echoProcessor () closedByEndpoint = teardown 4000 "session over" ∧
    (effectsOf echoProcessor () closedByEndpoint).count .closeDone = 1 ∧
    TornDown echoProcessor () closedByEndpoint s := by
  refine ⟨_, rfl, rfl, rfl, bridge_tornDown echoProcessor () closedByEndpoint _ ?_ rfl⟩
  intro a ha
  simp only [closedByEndpoint, List.mem_cons, List.not_mem_nil, or_false] at ha
  rcases ha with rfl | rfl | rfl | rfl | rfl | rfl | rfl | rfl | rfl | rfl <;> try trivial
  exact ⟨.inl (.inr (by decide)), by decide⟩

end PocketAp.Websockets
