import Mathlib.Logic.Function.Basic
import PocketAp.Base.Machine
import PocketAp.Relay.Bridge

/-!
# The WebSocket bridge

`src/websockets/bridge.go` and `src/websockets/connection.go`, as a machine. Two read loops,
the routing loop, the expiry watcher of `src/transport/ws.go:209–240` and any number of other
callers of `Shutdown` take turns; an action names who moves and what a socket, the frame
processor or the scheduler answers. A socket takes no data frame after it was closed or a
close frame was sent on it. `read` and `queued` record what has happened, no code reads them.
-/

namespace PocketAp.Websockets

open PocketAp.Base PocketAp.Domain PocketAp.Relay

/-- `src/websockets/connection.go:13–18`. -/
inductive Source where
  | client
  | endpoint
  deriving DecidableEq, Repr

/-- `src/websockets/connection.go:20–25`. -/
def Source.string : Source → String
  | .client => "client"
  | .endpoint => "endpoint"

/-- The far side. -/
def Source.other : Source → Source
  | .client => .endpoint
  | .endpoint => .client

/-- A data frame: text or binary, and its payload. -/
structure Frame where
  messageType : Int
  data : Bytes
  deriving DecidableEq, Repr

/-- `src/websockets/connection.go:28–32`. -/
structure Message where
  source : Source
  frame : Frame
  deriving DecidableEq, Repr

/-- A socket: the close code its peer sent, the data frames it accepted, and the close frame
that was sent on it. `src/websockets/connection.go:38–48`. -/
structure Connection where
  closeInfo : Int × String := (0, "")
  accepted : List Frame := []
  closeFrame : Option (Int × String) := none
  closed : Bool := false
  deriving DecidableEq, Repr

/-- Whether the socket still takes frames. -/
def Connection.isOpen (c : Connection) : Bool := c.closeFrame.isNone && !c.closed

/-- A close frame, if the socket still takes one. -/
def Connection.sendClose (c : Connection) (frame : Int × String) : Connection :=
  if c.isOpen then { c with closeFrame := some frame } else c

/-! ### Close codes -/

/-- `websocket.CloseGoingAway`. -/
def closeGoingAway : Int := 1001

/-- `websocket.CloseInternalServerErr`. -/
def closeInternalServerErr : Int := 1011

/-- `websocket.CloseServiceRestart`. -/
def closeServiceRestart : Int := 1012

/-- `websocket.CloseTryAgainLater`. -/
def closeTryAgainLater : Int := 1013

/-- `src/websockets/bridge.go:324–335`. -/
def isSendableCloseCode (code : Int) : Bool :=
  if code = 1005 ∨ code = 1006 ∨ code = 1015 then false
  else (3000 ≤ code ∧ code ≤ 4999) ∨ (1000 ≤ code ∧ code ≤ 1014)

/-- `src/websockets/bridge.go:356–361`. -/
def sanitizeCloseCode (code : Int) : Int :=
  if isSendableCloseCode code then code else closeInternalServerErr

/-- `src/websockets/bridge.go:389–397`. -/
def endpointCloseCode (clientCode : Int) : Int :=
  if clientCode = closeInternalServerErr ∨ clientCode = closeServiceRestart ∨
    clientCode = closeTryAgainLater then closeGoingAway
  else clientCode

/-- The code an error calls for when no peer sent one. `src/websockets/bridge.go:417–437`. -/
def errorCloseCode : Option Err → Int × String
  | none => (closeServiceRestart, "service restarting, please reconnect")
  | some e =>
    if e.is .bridgeContextCanceled ∨ e.is .canceled then
      (closeServiceRestart, "service restarting, please reconnect")
    else if e.is .bridgeSessionExpired then
      (closeServiceRestart, "session ended, please reconnect")
    else if e.is .bridgeEndpointUnavailable then
      (closeServiceRestart, "endpoint temporarily unavailable, please reconnect")
    else if e.is .bridgeMessageProcessing then
      (closeInternalServerErr, "message processing error")
    else if e.is .bridgeConnectionFailed then (closeInternalServerErr, "connection error")
    else (closeInternalServerErr, "bridge error: " ++ e.message)

/-! ### The machine -/

/-- How far `Shutdown`'s body has come: cancel the context, look for a close code in either
connection, and then send the close frame and close the socket, client first.
`src/websockets/bridge.go:142–189`. -/
inductive Stage where
  | cancel (err : Option Err)
  | askEndpoint (err : Option Err)
  | askClient (err : Option Err)
  | sendClose (peer : Source) (code : Int) (text : String)
  | closeSocket (peer : Source) (code : Int) (text : String)
  | closeDone
  deriving DecidableEq, Repr

/-- `shutdownOnce`: later callers wait until the first one is through. -/
inductive Once where
  | idle
  | running (stage : Stage)
  | finished
  deriving DecidableEq, Repr

/-- Where a read loop is. `src/websockets/bridge.go:213–222, 279–300`. -/
inductive Pump where
  | reading
  | holding (frame : Frame)
  | calling (err : Option Err)
  | exited
  deriving DecidableEq, Repr

/-- Where the routing loop is, and the message in its hands.
`src/websockets/bridge.go:193–274`. -/
inductive Router where
  | selecting
  | routing (m : Message)
  | writing (m : Message) (payload : Bytes)
  | calling (m : Option Message) (err : Option Err) (returns : Bool)
  | returned
  deriving DecidableEq, Repr

/-- Where the expiry watcher is. `src/transport/ws.go:209–240`. -/
inductive Watcher where
  | waiting
  | calling
  | exited
  deriving DecidableEq, Repr

/-- A bridge: its flags, its channel, the sockets and where its goroutines are. -/
structure State (σ : Type) where
  world : σ
  active : Bool := true
  cancelled : Bool := false
  once : Once := .idle
  msgChan : List Message := []
  conn : Source → Connection := fun _ ↦ {}
  pump : Source → Pump := fun _ ↦ .reading
  router : Router := .selecting
  watcher : Watcher := .waiting
  read : Source → List Frame := fun _ ↦ []
  queued : Source → List Frame := fun _ ↦ []

/-- What `ReadMessage` does. A failing read comes with the peer's close code if it sent one,
and the connection may answer it with a close frame of its own. -/
inductive ReadResult where
  | frame (f : Frame)
  | failed (err : Err) (closeInfo : Option (Int × String)) (reply : Option (Int × String))
  | panicked

/-- Goroutines of the bridge that call `Shutdown`. -/
inductive Caller where
  | pump (src : Source)
  | router
  | watcher
  deriving DecidableEq, Repr

/-- What can happen at a bridge. -/
inductive Action (σ : Type) where
  | read (src : Source) (result : ReadResult)
  | enqueue (src : Source)
  | abandon (src : Source)
  | take
  | stop
  | process
  | panics (value : String) (world : σ)
  | write (err : Option Err)
  | deactivate
  | begin (who : Caller)
  | resume (who : Caller)
  | shutdown (err : Option Err)
  | body (sent : Bool)
  | cancelParent
  | elsewhere (world : σ)

/-- `src/websockets/bridge.go:38`. -/
def msgChanSize : Nat := 32

/-- The errors `Shutdown` is called with. -/
def readError (src : Source) (e : Err) : Err :=
  let l : Err := .sentinel .bridgeConnectionFailed
  .join (l.message ++ ": read from " ++ src.string ++ ": " ++ e.message) l e

/-- A read loop that ended. -/
def endedError (src : Source) : Err :=
  let l : Err := .sentinel .bridgeConnectionFailed
  .wrap (l.message ++ ": read loop from " ++ src.string ++ " ended") l

/-- A frame that could not be processed. -/
def processError (e : Err) : Err := .errorf₂ (.sentinel .bridgeMessageProcessing) e

/-- A panic while a frame was processed. -/
def panicError (value : String) : Err :=
  processError (.wrap ("recovered panic in websockets.bridge.route: " ++ value)
    (.sentinel .panicked))

/-- A write that failed. -/
def writeError (dst : Source) (e : Err) : Err :=
  let l : Err := .sentinel .bridgeConnectionFailed
  .join (l.message ++ ": write to " ++ dst.string ++ ": " ++ e.message) l e

section Step

variable {σ : Type} (p : FrameProcessor σ)

/-- The processor's answer to a frame. `src/websockets/bridge.go:255–264`. -/
def State.process (s : State σ) (m : Message) : Seam σ (Except Err Bytes) :=
  match m.source with
  | .client => { p with active := s.active }.processClientMessage m.frame.data
  | .endpoint => { p with active := s.active }.processEndpointMessage m.frame.data

/-- One read. `src/websockets/bridge.go:281–292`. -/
def State.readStep (s : State σ) (src : Source) : ReadResult → State σ
  | .frame f =>
    { s with
      pump := Function.update s.pump src (.holding f)
      read := Function.update s.read src (s.read src ++ [f]) }
  | .failed e closeInfo reply =>
    let c := s.conn src
    let c := match closeInfo with
      | none => c
      | some info => { c with closeInfo := info }
    let c := match reply with
      | none => c
      | some frame => c.sendClose frame
    { s with
      conn := Function.update s.conn src c
      pump := Function.update s.pump src (.calling (some (readError src e))) }
  | .panicked => { s with pump := Function.update s.pump src (.calling (some (endedError src))) }

/-- The error a goroutine of the bridge is about to call `Shutdown` with. -/
def State.pending (s : State σ) : Caller → Option (Option Err)
  | .pump src =>
    match s.pump src with
    | .calling err => some err
    | _ => none
  | .router =>
    match s.router with
    | .calling _ err _ => some err
    | _ => none
  | .watcher =>
    match s.watcher with
    | .calling => some (some (.sentinel .bridgeSessionExpired))
    | _ => none

/-- A failed frame leads back to the loop, a panic or a cancelled context out of it. -/
def Router.resumed : Router → Router
  | .calling _ _ false => .selecting
  | _ => .returned

/-- Where a goroutine goes on after `Shutdown` returned. -/
def State.resumed (s : State σ) : Caller → State σ
  | .pump src => { s with pump := Function.update s.pump src .exited }
  | .router => { s with router := s.router.resumed }
  | .watcher => { s with watcher := .exited }

/-- The next step of `Shutdown`'s body; `sent` says whether a close frame goes out.
`src/websockets/bridge.go:147–188`. -/
def State.bodyStep (s : State σ) (sent : Bool) : Stage → State σ
  | .cancel err => { s with cancelled := true, once := .running (.askEndpoint err) }
  | .askEndpoint err =>
    let info := (s.conn .endpoint).closeInfo
    if info.1 = 0 then { s with once := .running (.askClient err) }
    else { s with once := .running (.sendClose .client (sanitizeCloseCode info.1) info.2) }
  | .askClient err =>
    let info := (s.conn .client).closeInfo
    let info := if info.1 = 0 then errorCloseCode err else info
    { s with once := .running (.sendClose .client (sanitizeCloseCode info.1) info.2) }
  | .sendClose peer code text =>
    let wire := match peer with
      | .client => code
      | .endpoint => endpointCloseCode code
    let c := s.conn peer
    { s with
      conn := Function.update s.conn peer (if sent then c.sendClose (wire, text) else c)
      once := .running (.closeSocket peer code text) }
  | .closeSocket peer code text =>
    { s with
      conn := Function.update s.conn peer { s.conn peer with closed := true }
      once := .running (match peer with
        | .client => .sendClose .endpoint code text
        | .endpoint => .closeDone) }
  | .closeDone => { s with once := .finished }

/-- One action. -/
def step (s : State σ) : Action σ → Option (State σ)
  | .read src result =>
    match s.pump src with
    | .reading => some (s.readStep src result)
    | _ => none
  | .enqueue src =>
    match s.pump src with
    | .holding f =>
      if s.msgChan.length < msgChanSize then
        some { s with
          msgChan := s.msgChan ++ [⟨src, f⟩]
          pump := Function.update s.pump src .reading
          queued := Function.update s.queued src (s.queued src ++ [f]) }
      else none
    | _ => none
  | .abandon src =>
    match s.pump src, s.cancelled with
    | .holding _, true =>
      some { s with pump := Function.update s.pump src (.calling (some (endedError src))) }
    | _, _ => none
  | .take =>
    match s.router, s.msgChan with
    | .selecting, m :: rest => some { s with msgChan := rest, router := .routing m }
    | _, _ => none
  | .stop =>
    match s.router, s.cancelled with
    | .selecting, true =>
      some { s with router := .calling none (some (.sentinel .bridgeContextCanceled)) true }
    | _, _ => none
  | .process =>
    match s.router with
    | .routing m =>
      match s.process p m s.world with
      | (.ok payload, w) => some { s with world := w, router := .writing m payload }
      | (.error e, w) =>
        some { s with world := w, router := .calling (some m) (some (processError e)) false }
    | _ => none
  | .panics value world =>
    match s.router with
    | .routing m | .writing m _ =>
      some { s with world := world, router := .calling (some m) (some (panicError value)) true }
    | _ => none
  | .write err =>
    match s.router with
    | .writing m payload =>
      let dst := m.source.other
      match err with
      | some e => some { s with router := .calling (some m) (some (writeError dst e)) false }
      | none =>
        if (s.conn dst).isOpen then
          some { s with
            conn := Function.update s.conn dst { s.conn dst with
              accepted := (s.conn dst).accepted ++ [⟨m.frame.messageType, payload⟩] }
            router := .selecting }
        else none
    | _ => none
  | .deactivate =>
    match s.watcher with
    | .waiting => some { s with active := false, watcher := .calling }
    | _ => none
  | .begin who =>
    match s.pending who, s.once with
    | some err, .idle => some { s with once := .running (.cancel err) }
    | _, _ => none
  | .resume who =>
    match s.pending who, s.once with
    | some _, .finished => some (s.resumed who)
    | _, _ => none
  | .shutdown err =>
    match s.once with
    | .idle => some { s with once := .running (.cancel err) }
    | _ => none
  | .body sent =>
    match s.once with
    | .running stage => some (s.bodyStep sent stage)
    | _ => none
  | .cancelParent => some { s with cancelled := true }
  | .elsewhere world => some { s with world := world }

/-! ### What the parts of a step leave alone -/

section Frame

variable (s : State σ) (src : Source) (result : ReadResult) (who : Caller) (sent : Bool)
  (stage : Stage)

/-- A read leaves `Shutdown` where it is. -/
@[simp]
theorem State.readStep_once : (s.readStep src result).once = s.once := by
  cases result <;> rfl

/-- A read puts nothing on the channel yet. -/
@[simp]
theorem State.readStep_msgChan : (s.readStep src result).msgChan = s.msgChan := by
  cases result <;> rfl

/-- A read leaves the routing loop where it is. -/
@[simp]
theorem State.readStep_router : (s.readStep src result).router = s.router := by
  cases result <;> rfl

/-- A read queues nothing yet. -/
@[simp]
theorem State.readStep_queued : (s.readStep src result).queued = s.queued := by
  cases result <;> rfl

/-- A caller that comes back leaves `Shutdown` where it is. -/
@[simp]
theorem State.resumed_once : (s.resumed who).once = s.once := by
  cases who <;> rfl

/-- A caller that comes back leaves the sockets alone. -/
@[simp]
theorem State.resumed_conn : (s.resumed who).conn = s.conn := by
  cases who <;> rfl

/-- A caller that comes back has read nothing. -/
@[simp]
theorem State.resumed_read : (s.resumed who).read = s.read := by
  cases who <;> rfl

/-- A caller that comes back has queued nothing. -/
@[simp]
theorem State.resumed_queued : (s.resumed who).queued = s.queued := by
  cases who <;> rfl

/-- The body of `Shutdown` touches the context, the sockets and its own progress. -/
private theorem State.bodyStep_eq : ∃ cancelled conn once,
    s.bodyStep sent stage = { s with cancelled := cancelled, conn := conn, once := once } := by
  cases stage with
  | askEndpoint err =>
    unfold bodyStep
    dsimp only
    split <;> exact ⟨_, _, _, rfl⟩
  | _ => exact ⟨_, _, _, rfl⟩

/-- `Shutdown` does not touch the channel. -/
@[simp]
theorem State.bodyStep_msgChan : (s.bodyStep sent stage).msgChan = s.msgChan := by
  obtain ⟨_, _, _, h⟩ := s.bodyStep_eq sent stage
  rw [h]

/-- `Shutdown` leaves the read loops where they are. -/
@[simp]
theorem State.bodyStep_pump : (s.bodyStep sent stage).pump = s.pump := by
  obtain ⟨_, _, _, h⟩ := s.bodyStep_eq sent stage
  rw [h]

/-- `Shutdown` leaves the routing loop where it is. -/
@[simp]
theorem State.bodyStep_router : (s.bodyStep sent stage).router = s.router := by
  obtain ⟨_, _, _, h⟩ := s.bodyStep_eq sent stage
  rw [h]

/-- `Shutdown` reads nothing. -/
@[simp]
theorem State.bodyStep_read : (s.bodyStep sent stage).read = s.read := by
  obtain ⟨_, _, _, h⟩ := s.bodyStep_eq sent stage
  rw [h]

/-- `Shutdown` queues nothing. -/
@[simp]
theorem State.bodyStep_queued : (s.bodyStep sent stage).queued = s.queued := by
  obtain ⟨_, _, _, h⟩ := s.bodyStep_eq sent stage
  rw [h]

/-- What a close frame leaves alone of a socket. -/
theorem Connection.sendClose_keeps {β : Type} {f : Connection → β}
    (hframe : ∀ c frame, f { c with closeFrame := frame } = f c) (c : Connection)
    (frame : Int × String) : f (c.sendClose frame) = f c := by
  unfold sendClose
  split
  · exact hframe c _
  · rfl

/-- What a read leaves alone of the sockets: all but close codes and close frames. -/
theorem State.readStep_keeps {β : Type} {f : Connection → β}
    (hinfo : ∀ c info, f { c with closeInfo := info } = f c)
    (hframe : ∀ c frame, f { c with closeFrame := frame } = f c) (x : Source) :
    f ((s.readStep src result).conn x) = f (s.conn x) := by
  cases result with
  | frame f => rfl
  | panicked => rfl
  | failed e closeInfo reply =>
    by_cases hx : x = src
    · subst hx
      cases closeInfo <;> cases reply <;>
        simp [readStep, hinfo, Connection.sendClose_keeps hframe]
    · simp [readStep, Function.update_of_ne hx]

/-- What the body of `Shutdown` leaves alone of them: all but close frames and whether they are
closed. -/
theorem State.bodyStep_keeps {β : Type} {f : Connection → β}
    (hframe : ∀ c frame, f { c with closeFrame := frame } = f c)
    (hclosed : ∀ c, f { c with closed := true } = f c) (x : Source) :
    f ((s.bodyStep sent stage).conn x) = f (s.conn x) := by
  cases stage with
  | cancel err => rfl
  | askEndpoint err =>
    simp only [bodyStep]
    split <;> rfl
  | askClient err => rfl
  | sendClose peer code text =>
    by_cases hx : x = peer
    · subst hx
      cases sent <;> simp [bodyStep, Connection.sendClose_keeps hframe]
    · simp [bodyStep, Function.update_of_ne hx]
  | closeSocket peer code text =>
    by_cases hx : x = peer
    · subst hx
      simp [bodyStep, hclosed]
    · simp [bodyStep, Function.update_of_ne hx]
  | closeDone => rfl

end Frame

/-! ### What a step can do -/

/-- Who is about to call `Shutdown`, and with what. -/
theorem State.pending_cases {s : State σ} {who : Caller} {err : Option Err}
    (h : s.pending who = some err) :
    (∃ src, who = .pump src ∧ s.pump src = .calling err) ∨
    (∃ m returns, who = .router ∧ s.router = .calling m err returns) ∨
    (who = .watcher ∧ s.watcher = .calling ∧
      err = some (.sentinel .bridgeSessionExpired)) := by
  cases who with
  | pump src =>
    simp only [State.pending] at h
    split at h
    · next hs =>
      cases h
      exact .inl ⟨src, rfl, hs⟩
    · cases h
  | router =>
    simp only [State.pending] at h
    split at h
    · next m _ returns hs =>
      cases h
      exact .inr (.inl ⟨m, returns, rfl, hs⟩)
    · cases h
  | watcher =>
    simp only [State.pending] at h
    split at h
    · next hs =>
      cases h
      exact .inr (.inr ⟨rfl, hs, rfl⟩)
    · cases h

/-- The cases of `step`, each with what it needs. -/
inductive Stepped (s : State σ) : Action σ → State σ → Prop where
  | read (src : Source) (result : ReadResult) (reading : s.pump src = .reading) :
      Stepped s (.read src result) (s.readStep src result)
  | enqueue (src : Source) (f : Frame) (holding : s.pump src = .holding f)
      (room : s.msgChan.length < msgChanSize) :
      Stepped s (.enqueue src) { s with
        msgChan := s.msgChan ++ [⟨src, f⟩]
        pump := Function.update s.pump src .reading
        queued := Function.update s.queued src (s.queued src ++ [f]) }
  | abandon (src : Source) (f : Frame) (holding : s.pump src = .holding f)
      (cancelled : s.cancelled = true) :
      Stepped s (.abandon src)
        { s with pump := Function.update s.pump src (.calling (some (endedError src))) }
  | take (m : Message) (rest : List Message) (selecting : s.router = .selecting)
      (chan : s.msgChan = m :: rest) :
      Stepped s .take { s with msgChan := rest, router := .routing m }
  | stop (selecting : s.router = .selecting) (cancelled : s.cancelled = true) :
      Stepped s .stop
        { s with router := .calling none (some (.sentinel .bridgeContextCanceled)) true }
  | processed (m : Message) (payload : Bytes) (w : σ) (routing : s.router = .routing m)
      (answer : s.process p m s.world = (.ok payload, w)) :
      Stepped s .process { s with world := w, router := .writing m payload }
  | refused (m : Message) (e : Err) (w : σ) (routing : s.router = .routing m)
      (answer : s.process p m s.world = (.error e, w)) :
      Stepped s .process
        { s with world := w, router := .calling (some m) (some (processError e)) false }
  | panicked (m : Message) (value : String) (world : σ)
      (busy : s.router = .routing m ∨ ∃ payload, s.router = .writing m payload) :
      Stepped s (.panics value world)
        { s with world := world, router := .calling (some m) (some (panicError value)) true }
  | written (m : Message) (payload : Bytes) (writing : s.router = .writing m payload)
      (takes : (s.conn m.source.other).isOpen = true) :
      Stepped s (.write none) { s with
        conn := Function.update s.conn m.source.other { s.conn m.source.other with
          accepted := (s.conn m.source.other).accepted ++ [⟨m.frame.messageType, payload⟩] }
        router := .selecting }
  | unwritten (m : Message) (payload : Bytes) (e : Err) (writing : s.router = .writing m payload) :
      Stepped s (.write (some e))
        { s with router := .calling (some m) (some (writeError m.source.other e)) false }
  | deactivate (waiting : s.watcher = .waiting) :
      Stepped s .deactivate { s with active := false, watcher := .calling }
  | begin (who : Caller) (err : Option Err) (pending : s.pending who = some err)
      (idle : s.once = .idle) :
      Stepped s (.begin who) { s with once := .running (.cancel err) }
  | resume (who : Caller) (err : Option Err) (pending : s.pending who = some err)
      (finished : s.once = .finished) : Stepped s (.resume who) (s.resumed who)
  | shutdown (err : Option Err) (idle : s.once = .idle) :
      Stepped s (.shutdown err) { s with once := .running (.cancel err) }
  | body (sent : Bool) (stage : Stage) (running : s.once = .running stage) :
      Stepped s (.body sent) (s.bodyStep sent stage)
  | cancelParent : Stepped s .cancelParent { s with cancelled := true }
  | elsewhere (world : σ) : Stepped s (.elsewhere world) { s with world := world }

variable {p} in
/-- A bridge moves in one of these ways. -/
theorem step_cases {s s' : State σ} {a : Action σ} (h : step p s a = some s') :
    Stepped p s a s' := by
  cases a with
  | read src result =>
    simp only [step] at h
    split at h
    · next hr =>
      cases h
      exact .read src result hr
    · cases h
  | enqueue src =>
    simp only [step] at h
    split at h
    · next f hf =>
      split at h
      · next hroom =>
        cases h
        exact .enqueue src f hf hroom
      · cases h
    · cases h
  | abandon src =>
    simp only [step] at h
    split at h
    · next f hf hc =>
      cases h
      exact .abandon src f hf hc
    · cases h
  | take =>
    simp only [step] at h
    split at h
    · next m rest hr hm =>
      cases h
      exact .take m rest hr hm
    · cases h
  | stop =>
    simp only [step] at h
    split at h
    · next hr hc =>
      cases h
      exact .stop hr hc
    · cases h
  | process =>
    simp only [step] at h
    split at h
    · next m hm =>
      split at h
      · next payload w ha =>
        cases h
        exact .processed m payload w hm ha
      · next e w ha =>
        cases h
        exact .refused m e w hm ha
    · cases h
  | panics value world =>
    simp only [step] at h
    split at h
    · next m hm =>
      cases h
      exact .panicked m value world (.inl hm)
    · next m payload hm =>
      cases h
      exact .panicked m value world (.inr ⟨payload, hm⟩)
    · cases h
  | write err =>
    simp only [step] at h
    split at h
    · next m payload hm =>
      cases err with
      | some e =>
        cases h
        exact .unwritten m payload e hm
      | none =>
        simp only at h
        split at h
        · next ho =>
          cases h
          exact .written m payload hm ho
        · cases h
    · cases h
  | deactivate =>
    simp only [step] at h
    split at h
    · next hw =>
      cases h
      exact .deactivate hw
    · cases h
  | begin who =>
    simp only [step] at h
    split at h
    · next err hp hi =>
      cases h
      exact .begin who err hp hi
    · cases h
  | resume who =>
    simp only [step] at h
    split at h
    · next err hp hf =>
      cases h
      exact .resume who err hp hf
    · cases h
  | shutdown err =>
    simp only [step] at h
    split at h
    · next hi =>
      cases h
      exact .shutdown err hi
    · cases h
  | body sent =>
    simp only [step] at h
    split at h
    · next stage hr =>
      cases h
      exact .body sent stage hr
    · cases h
  | cancelParent =>
    cases h
    exact .cancelParent
  | elsewhere world =>
    cases h
    exact .elsewhere world

end Step

end PocketAp.Websockets
