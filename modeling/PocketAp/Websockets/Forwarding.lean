import Mathlib.Data.List.Forall2
import PocketAp.Websockets.Bridge

/-!
# What a bridge forwards

In every reachable state each socket has accepted the images of an initial segment of the
frames read from the other one. Two facts carry this. Until `Shutdown` is through, a frame
that was queued is on the channel, in the routing loop's hands or accepted, in this order.
And with a frame that failed the loop does not come back from `Shutdown` before both sockets
are closed.
-/

namespace PocketAp.Websockets

open PocketAp.Base PocketAp.Domain PocketAp.Relay

/-- The first frame is forwarded as the second: same type, and signed or validated for the
session and the supplier the bridge is pinned to. -/
def Image {σ : Type} (p : FrameProcessor σ) (src : Source) (f g : Frame) : Prop :=
  g.messageType = f.messageType ∧ ∃ w : σ,
    match src with
    | .client => (p.signer p.session p.supplier f.data w).1 = .ok g.data
    | .endpoint => (p.validator p.supplier f.data w).1 = .ok g.data

/-- A step in which a frame fails. -/
def Failing {σ : Type} (p : FrameProcessor σ) (s : State σ) : Action σ → Prop
  | .process => ∃ m e, s.router = .routing m ∧ (s.process p m s.world).1 = .error e
  | .panics _ _ => True
  | .write (some _) => True
  | _ => False

instance {σ : Type} (p : FrameProcessor σ) (s : State σ) : DecidablePred (Failing p s)
  | .process =>
    match hr : s.router with
    | .routing m =>
      match he : (s.process p m s.world).1 with
      | .error e => .isTrue ⟨m, e, hr, he⟩
      | .ok payload => .isFalse fun ⟨m', e, hr', he'⟩ ↦ by
        rw [hr] at hr'
        cases hr'
        rw [he] at he'
        cases he'
    | .selecting => .isFalse fun ⟨_, _, hr', _⟩ ↦ by simp [hr] at hr'
    | .writing _ _ => .isFalse fun ⟨_, _, hr', _⟩ ↦ by simp [hr] at hr'
    | .calling _ _ _ => .isFalse fun ⟨_, _, hr', _⟩ ↦ by simp [hr] at hr'
    | .returned => .isFalse fun ⟨_, _, hr', _⟩ ↦ by simp [hr] at hr'
  | .panics _ _ => .isTrue trivial
  | .write (some _) => .isTrue trivial
  | .write none => .isFalse id
  | .read _ _ => .isFalse id
  | .enqueue _ => .isFalse id
  | .abandon _ => .isFalse id
  | .take => .isFalse id
  | .stop => .isFalse id
  | .deactivate => .isFalse id
  | .begin _ => .isFalse id
  | .resume _ => .isFalse id
  | .shutdown _ => .isFalse id
  | .body _ => .isFalse id
  | .cancelParent => .isFalse id
  | .elsewhere _ => .isFalse id

/-! ### Sockets -/

/-- Whether `Shutdown` has closed a socket by now. -/
def Once.past : Once → Source → Bool
  | .finished, _ => true
  | .running .closeDone, _ => true
  | .running (.sendClose .endpoint _ _), .client => true
  | .running (.closeSocket .endpoint _ _), .client => true
  | _, _ => false

section Invariants

variable {σ : Type} (p : FrameProcessor σ)

/-- Sockets stay closed behind `Shutdown`. -/
def Shut (s : State σ) : Prop := ∀ src, s.once.past src = true → (s.conn src).closed = true

private theorem readStep_closed (s : State σ) (src x : Source) (result : ReadResult) :
    ((s.readStep src result).conn x).closed = (s.conn x).closed :=
  s.readStep_keeps src result (f := Connection.closed) (fun _ _ ↦ rfl) (fun _ _ ↦ rfl) x

/-- A read does not change what a socket accepted. -/
theorem readStep_accepted (s : State σ) (src x : Source) (result : ReadResult) :
    ((s.readStep src result).conn x).accepted = (s.conn x).accepted :=
  s.readStep_keeps src result (f := Connection.accepted) (fun _ _ ↦ rfl) (fun _ _ ↦ rfl) x

/-- `Shutdown` does not change what a socket accepted. -/
theorem bodyStep_accepted (s : State σ) (sent : Bool) (stage : Stage) (x : Source) :
    ((s.bodyStep sent stage).conn x).accepted = (s.conn x).accepted :=
  s.bodyStep_keeps sent stage (f := Connection.accepted) (fun _ _ ↦ rfl) (fun _ ↦ rfl) x

private theorem shut_bodyStep {s : State σ} {stage : Stage} (sent : Bool) (h : Shut s)
    (hr : s.once = .running stage) : Shut (s.bodyStep sent stage) := by
  unfold Shut at h
  rw [hr] at h
  intro x hx
  cases stage with
  | cancel err => cases x <;> cases hx
  | askEndpoint err =>
    simp only [State.bodyStep] at hx
    split at hx <;> cases x <;> cases hx
  | askClient err => cases x <;> cases hx
  | sendClose peer code text =>
    cases peer with
    | client => cases x <;> cases hx
    | endpoint =>
      cases x with
      | endpoint => cases hx
      | client => exact h .client rfl
  | closeSocket peer code text =>
    cases peer with
    | client =>
      cases x with
      | endpoint => cases hx
      | client => rfl
    | endpoint =>
      cases x with
      | endpoint => rfl
      | client => exact h .client rfl
  | closeDone => exact h x rfl

variable {p}

/-- Every step keeps closed sockets closed. -/
theorem shut_step {s s' : State σ} {a : Action σ} (h : Shut s) (hs : step p s a = some s') :
    Shut s' := by
  cases step_cases hs with
  | read src result reading =>
    intro x hx
    rw [readStep_closed]
    rw [State.readStep_once] at hx
    exact h x hx
  | written m payload writing takes =>
    intro x hx
    by_cases hm : x = m.source.other
    · subst hm
      simpa using h _ hx
    · simpa [Function.update_of_ne hm] using h x hx
  | begin who err pending idle =>
    intro x hx
    cases x <;> cases hx
  | shutdown err idle =>
    intro x hx
    cases x <;> cases hx
  | resume who err pending finished =>
    intro x hx
    simp only [State.resumed_once, State.resumed_conn] at hx ⊢
    exact h x hx
  | body sent stage running => exact shut_bodyStep sent h running
  | enqueue src f holding room => exact h
  | abandon src f holding cancelled => exact h
  | take m rest selecting chan => exact h
  | stop selecting cancelled => exact h
  | processed m payload w routing answer => exact h
  | refused m e w routing answer => exact h
  | panicked m value world busy => exact h
  | unwritten m payload e writing => exact h
  | deactivate waiting => exact h
  | cancelParent => exact h
  | elsewhere world => exact h

/-! ### Read loops -/

/-- Frames a read loop has not queued. -/
def Pump.held : Pump → List Frame
  | .holding f => [f]
  | _ => []

/-- A read loop that goes on reading. -/
def Pump.Runs : Pump → Prop
  | .reading => True
  | .holding _ => True
  | _ => False

/-- A read loop queues what it reads in order, and reads no more once it gave a frame up. -/
structure Pumped (s : State σ) (src : Source) : Prop where
  started : s.queued src <+: s.read src
  whole : (s.pump src).Runs → s.read src = s.queued src ++ (s.pump src).held

private theorem Pumped.congr {s s' : State σ} {src : Source} (h : Pumped s src)
    (hq : s'.queued src = s.queued src) (hr : s'.read src = s.read src)
    (hp : s'.pump src = s.pump src ∨ ¬ (s'.pump src).Runs) : Pumped s' src := by
  constructor
  · rw [hq, hr]
    exact h.started
  · intro hruns
    rcases hp with hp | hp
    · rw [hq, hr, hp]
      rw [hp] at hruns
      exact h.whole hruns
    · exact absurd hruns hp

private theorem update_pump (f : Source → Pump) (src x : Source) (v : Pump) (hv : ¬ v.Runs) :
    Function.update f src v x = f x ∨ ¬ (Function.update f src v x).Runs := by
  by_cases hx : x = src
  · subst hx
    right
    simpa using hv
  · left
    rw [Function.update_of_ne hx]

private theorem pumped_step {s s' : State σ} {a : Action σ} {src : Source} (h : Pumped s src)
    (hs : step p s a = some s') : Pumped s' src := by
  cases step_cases hs with
  | read x result reading =>
    cases result with
    | frame f =>
      by_cases hx : src = x
      · subst hx
        have hw := h.whole (by rw [reading]; trivial)
        rw [reading] at hw
        constructor
        · simp only [State.readStep, Function.update_self]
          exact h.started.trans (List.prefix_append _ _)
        · intro _
          simp only [State.readStep, Function.update_self, Pump.held]
          rw [hw]
          simp [Pump.held]
      · apply h.congr
        · rfl
        · simp [State.readStep, Function.update_of_ne hx]
        · simp [State.readStep, Function.update_of_ne hx]
    | failed e closeInfo reply => exact h.congr rfl rfl (update_pump _ _ _ _ (by simp [Pump.Runs]))
    | panicked => exact h.congr rfl rfl (update_pump _ _ _ _ (by simp [Pump.Runs]))
  | enqueue x f holding room =>
    by_cases hx : src = x
    · subst hx
      have hw := h.whole (by rw [holding]; trivial)
      rw [holding] at hw
      constructor
      · simp only [Function.update_self]
        rw [hw]
        exact List.prefix_refl _
      · intro _
        simp only [Function.update_self]
        rw [hw]
        simp [Pump.held]
    · apply h.congr
      · simp [Function.update_of_ne hx]
      · rfl
      · simp [Function.update_of_ne hx]
  | abandon x f holding cancelled =>
    exact h.congr rfl rfl (update_pump _ _ _ _ (by simp [Pump.Runs]))
  | resume who err pending finished =>
    apply h.congr
    · rw [State.resumed_queued]
    · rw [State.resumed_read]
    · cases who with
      | pump x => exact update_pump _ _ _ _ (by simp [Pump.Runs])
      | router => exact .inl rfl
      | watcher => exact .inl rfl
  | body sent stage running =>
    apply h.congr
    · rw [State.bodyStep_queued]
    · rw [State.bodyStep_read]
    · rw [State.bodyStep_pump]
      exact .inl rfl
  | take m rest selecting chan => exact h.congr rfl rfl (.inl rfl)
  | stop selecting cancelled => exact h.congr rfl rfl (.inl rfl)
  | processed m payload w routing answer => exact h.congr rfl rfl (.inl rfl)
  | refused m e w routing answer => exact h.congr rfl rfl (.inl rfl)
  | panicked m value world busy => exact h.congr rfl rfl (.inl rfl)
  | written m payload writing takes => exact h.congr rfl rfl (.inl rfl)
  | unwritten m payload e writing => exact h.congr rfl rfl (.inl rfl)
  | deactivate waiting => exact h.congr rfl rfl (.inl rfl)
  | begin who err pending idle => exact h.congr rfl rfl (.inl rfl)
  | shutdown err idle => exact h.congr rfl rfl (.inl rfl)
  | cancelParent => exact h.congr rfl rfl (.inl rfl)
  | elsewhere world => exact h.congr rfl rfl (.inl rfl)

/-! ### The routing loop -/

/-- The frame from one side that the routing loop is busy with. -/
def Router.hand (src : Source) : Router → List Frame
  | .routing m => if m.source = src then [m.frame] else []
  | .writing m _ => if m.source = src then [m.frame] else []
  | .calling (some m) _ _ => if m.source = src then [m.frame] else []
  | _ => []

/-- Frames from one side that wait on the channel. -/
def onChannel (src : Source) (ms : List Message) : List Frame :=
  (ms.filter (fun m ↦ decide (m.source = src))).map Message.frame

variable (p) in
/-- Accepted frames are images of the first frames queued; the others are on their way. -/
structure Routed (s : State σ) (src : Source) : Prop where
  images : List.Forall₂ (Image p src)
    ((s.queued src).take (s.conn src.other).accepted.length) (s.conn src.other).accepted
  onTheWay : s.once ≠ .finished → s.router.hand src ++ onChannel src s.msgChan =
    (s.queued src).drop (s.conn src.other).accepted.length

/-- A frame about to be written is the image of the frame it came from. -/
def Ready (p : FrameProcessor σ) (s : State σ) : Prop :=
  ∀ m payload, s.router = .writing m payload →
    Image p m.source m.frame ⟨m.frame.messageType, payload⟩

private theorem image_of_process {s : State σ} {m : Message} {payload : Bytes} {w w' : σ}
    (h : s.process p m w = (.ok payload, w')) :
    Image p m.source m.frame ⟨m.frame.messageType, payload⟩ := by
  refine ⟨rfl, w, ?_⟩
  unfold State.process at h
  cases hm : m.source with
  | endpoint =>
    simp only [hm, FrameProcessor.processEndpointMessage] at h
    exact congrArg Prod.fst h
  | client =>
    simp only [hm, FrameProcessor.processClientMessage] at h
    cases ha : s.active with
    | false => simp [ha] at h
    | true =>
      simp only [ha, Bool.not_true, Bool.false_eq_true, if_false] at h
      exact congrArg Prod.fst h

private theorem ready_step {s s' : State σ} {a : Action σ} (h : Ready p s)
    (hs : step p s a = some s') : Ready p s' := by
  cases step_cases hs with
  | processed m payload w routing answer =>
    intro m' payload' hw
    cases hw
    exact image_of_process answer
  | read src result reading =>
    unfold Ready
    rw [State.readStep_router]
    exact h
  | resume who err pending finished =>
    cases who with
    | pump src => exact h
    | watcher => exact h
    | router =>
      intro m payload hw
      simp only [State.resumed] at hw
      cases hr : s.router with
      | calling m' err returns => cases returns <;> simp [hr, Router.resumed] at hw
      | _ => simp [hr, Router.resumed] at hw
  | body sent stage running =>
    unfold Ready
    rw [State.bodyStep_router]
    exact h
  | take m rest selecting chan => exact fun _ _ hw ↦ by cases hw
  | stop selecting cancelled => exact fun _ _ hw ↦ by cases hw
  | refused m e w routing answer => exact fun _ _ hw ↦ by cases hw
  | panicked m value world busy => exact fun _ _ hw ↦ by cases hw
  | written m payload writing takes => exact fun _ _ hw ↦ by cases hw
  | unwritten m payload e writing => exact fun _ _ hw ↦ by cases hw
  | enqueue src f holding room => exact h
  | abandon src f holding cancelled => exact h
  | deactivate waiting => exact h
  | begin who err pending idle => exact h
  | shutdown err idle => exact h
  | cancelParent => exact h
  | elsewhere world => exact h

private theorem Routed.congr {s s' : State σ} {src : Source} (h : Routed p s src)
    (hq : s'.queued src = s.queued src)
    (hc : (s'.conn src.other).accepted = (s.conn src.other).accepted)
    (hl : s'.once ≠ .finished → s.once ≠ .finished ∧
      s'.router.hand src ++ onChannel src s'.msgChan =
        s.router.hand src ++ onChannel src s.msgChan) : Routed p s' src := by
  constructor
  · rw [hq, hc]
    exact h.images
  · intro hlive
    obtain ⟨hlive', heq⟩ := hl hlive
    rw [heq, hq, hc]
    exact h.onTheWay hlive'

/-- Accepted frames were queued. -/
theorem Routed.accepted_le {s : State σ} {src : Source} (h : Routed p s src) :
    (s.conn src.other).accepted.length ≤ (s.queued src).length := by
  have hl := h.images.length_eq
  rw [List.length_take] at hl
  omega

private theorem other_injective {x y : Source} (h : x.other = y.other) : x = y := by
  cases x <;> cases y <;> first | rfl | cases h

/-- A frame that is written joins the images. -/
private theorem routed_written {s : State σ} {src : Source} {m : Message} {payload : Bytes}
    (h : Routed p s src) (hshut : Shut s) (hready : Ready p s)
    (writing : s.router = .writing m payload)
    (takes : (s.conn m.source.other).isOpen = true) :
    Routed p { s with
      conn := Function.update s.conn m.source.other { s.conn m.source.other with
        accepted := (s.conn m.source.other).accepted ++ [⟨m.frame.messageType, payload⟩] }
      router := .selecting } src := by
  have hlive : s.once ≠ .finished := by
    intro hf
    have hclosed := hshut m.source.other (by rw [hf]; rfl)
    simp [Connection.isOpen, hclosed] at takes
  have hway := h.onTheWay hlive
  by_cases hm : m.source = src
  · subst hm
    have hdrop : (s.queued m.source).drop (s.conn m.source.other).accepted.length =
        m.frame :: onChannel m.source s.msgChan := by
      rw [← hway, writing]
      simp [Router.hand]
    have hle := h.accepted_le
    have htake : (s.queued m.source).take ((s.conn m.source.other).accepted.length + 1) =
        (s.queued m.source).take (s.conn m.source.other).accepted.length ++ [m.frame] := by
      rw [List.take_add, hdrop]
      simp
    constructor
    · simp only [Function.update_self, List.length_append, List.length_singleton]
      rw [htake]
      exact List.rel_append h.images (.cons (hready m payload writing) .nil)
    · intro _
      simp only [Function.update_self, List.length_append, List.length_singleton, Router.hand,
        List.nil_append]
      rw [← List.drop_drop, hdrop]
      rfl
  · apply h.congr
    · rfl
    · have hne : src.other ≠ m.source.other := fun h ↦ hm (other_injective h).symm
      simp only [Function.update_of_ne hne]
    · intro _
      refine ⟨hlive, ?_⟩
      simp [Router.hand, writing, hm]

private theorem routed_step {s s' : State σ} {a : Action σ} {src : Source} (h : Routed p s src)
    (hshut : Shut s) (hready : Ready p s) (hs : step p s a = some s') : Routed p s' src := by
  cases step_cases hs with
  | written m payload writing takes => exact routed_written h hshut hready writing takes
  | enqueue x f holding room =>
    by_cases hx : src = x
    · subst hx
      have hle := h.accepted_le
      constructor
      · simp only [Function.update_self]
        rw [List.take_append_of_le_length hle]
        exact h.images
      · intro hlive
        simp only [Function.update_self]
        rw [List.drop_append_of_le_length hle, ← h.onTheWay hlive]
        simp [onChannel]
    · apply h.congr
      · simp [Function.update_of_ne hx]
      · rfl
      · intro hlive
        refine ⟨hlive, ?_⟩
        simp [onChannel, Ne.symm hx]
  | take m rest selecting chan =>
    refine h.congr rfl rfl (fun hlive ↦ ⟨hlive, ?_⟩)
    by_cases hm : m.source = src
    · simp [Router.hand, onChannel, selecting, chan, hm]
    · simp [Router.hand, onChannel, selecting, chan, hm]
  | stop selecting cancelled =>
    exact h.congr rfl rfl (fun hlive ↦ ⟨hlive, by rw [selecting]; rfl⟩)
  | processed m payload w routing answer =>
    exact h.congr rfl rfl (fun hlive ↦ ⟨hlive, by rw [routing]; rfl⟩)
  | refused m e w routing answer =>
    exact h.congr rfl rfl (fun hlive ↦ ⟨hlive, by rw [routing]; rfl⟩)
  | panicked m value world busy =>
    refine h.congr rfl rfl (fun hlive ↦ ⟨hlive, ?_⟩)
    rcases busy with routing | ⟨payload, writing⟩
    · rw [routing]
      rfl
    · rw [writing]
      rfl
  | unwritten m payload e writing =>
    exact h.congr rfl rfl (fun hlive ↦ ⟨hlive, by rw [writing]; rfl⟩)
  | read x result reading =>
    apply h.congr
    · rw [State.readStep_queued]
    · rw [readStep_accepted]
    · intro hlive
      rw [State.readStep_once] at hlive
      rw [State.readStep_router, State.readStep_msgChan]
      exact ⟨hlive, rfl⟩
  | body sent stage running =>
    apply h.congr
    · rw [State.bodyStep_queued]
    · rw [bodyStep_accepted]
    · intro _
      rw [State.bodyStep_router, State.bodyStep_msgChan, running]
      exact ⟨nofun, rfl⟩
  | resume who err pending finished =>
    apply h.congr
    · rw [State.resumed_queued]
    · rw [State.resumed_conn]
    · intro hlive
      rw [State.resumed_once] at hlive
      exact absurd finished hlive
  | begin who err pending idle =>
    exact h.congr rfl rfl (fun _ ↦ ⟨by rw [idle]; exact nofun, rfl⟩)
  | shutdown err idle => exact h.congr rfl rfl (fun _ ↦ ⟨by rw [idle]; exact nofun, rfl⟩)
  | abandon x f holding cancelled => exact h.congr rfl rfl (fun hlive ↦ ⟨hlive, rfl⟩)
  | deactivate waiting => exact h.congr rfl rfl (fun hlive ↦ ⟨hlive, rfl⟩)
  | cancelParent => exact h.congr rfl rfl (fun hlive ↦ ⟨hlive, rfl⟩)
  | elsewhere world => exact h.congr rfl rfl (fun hlive ↦ ⟨hlive, rfl⟩)

/-! ### After a failure -/

/-- The routing loop is at work. -/
def Router.Works : Router → Prop
  | .calling _ _ _ => False
  | .returned => False
  | _ => True

/-- The routing loop has not been to `Shutdown`, nor is that through. -/
def Live (s : State σ) : Prop := s.router.Works ∧ s.once ≠ .finished

/-- Once the routing loop has been to `Shutdown` it never works with open sockets again. -/
private theorem dead_step {s s' : State σ} {a : Action σ} (hshut : Shut s) (hd : ¬ Live s)
    (hs : step p s a = some s') :
    ¬ Live s' ∧ ∀ src, (s'.conn src).accepted = (s.conn src).accepted := by
  cases step_cases hs with
  | written m payload writing takes =>
    refine absurd ⟨by rw [writing]; trivial, fun hf ↦ ?_⟩ hd
    have hclosed := hshut m.source.other (by rw [hf]; rfl)
    simp [Connection.isOpen, hclosed] at takes
  | read x result reading =>
    constructor
    · unfold Live
      rw [State.readStep_router, State.readStep_once]
      exact hd
    · exact fun src ↦ readStep_accepted s x src result
  | resume who err pending finished =>
    constructor
    · intro hlive
      have hf := hlive.2
      rw [State.resumed_once] at hf
      exact hf finished
    · exact fun src ↦ by rw [State.resumed_conn]
  | body sent stage running =>
    constructor
    · intro hlive
      have hw := hlive.1
      rw [State.bodyStep_router] at hw
      exact hd ⟨hw, by rw [running]; exact nofun⟩
    · exact fun src ↦ bodyStep_accepted s sent stage src
  | take m rest selecting chan =>
    exact ⟨fun hlive ↦ hd ⟨by rw [selecting]; trivial, hlive.2⟩, fun _ ↦ rfl⟩
  | processed m payload w routing answer =>
    exact ⟨fun hlive ↦ hd ⟨by rw [routing]; trivial, hlive.2⟩, fun _ ↦ rfl⟩
  | begin who err pending idle =>
    exact ⟨fun hlive ↦ hd ⟨hlive.1, by rw [idle]; exact nofun⟩, fun _ ↦ rfl⟩
  | shutdown err idle =>
    exact ⟨fun hlive ↦ hd ⟨hlive.1, by rw [idle]; exact nofun⟩, fun _ ↦ rfl⟩
  | stop selecting cancelled => exact ⟨fun hlive ↦ hlive.1, fun _ ↦ rfl⟩
  | refused m e w routing answer => exact ⟨fun hlive ↦ hlive.1, fun _ ↦ rfl⟩
  | panicked m value world busy => exact ⟨fun hlive ↦ hlive.1, fun _ ↦ rfl⟩
  | unwritten m payload e writing => exact ⟨fun hlive ↦ hlive.1, fun _ ↦ rfl⟩
  | enqueue x f holding room => exact ⟨hd, fun _ ↦ rfl⟩
  | abandon x f holding cancelled => exact ⟨hd, fun _ ↦ rfl⟩
  | deactivate waiting => exact ⟨hd, fun _ ↦ rfl⟩
  | cancelParent => exact ⟨hd, fun _ ↦ rfl⟩
  | elsewhere world => exact ⟨hd, fun _ ↦ rfl⟩

/-- A frame that fails takes the routing loop to `Shutdown`, and nothing is accepted. -/
private theorem failing_step {s s' : State σ} {a : Action σ} (hf : Failing p s a)
    (hs : step p s a = some s') :
    ¬ Live s' ∧ ∀ src, (s'.conn src).accepted = (s.conn src).accepted := by
  cases step_cases hs with
  | processed m payload w routing answer =>
    obtain ⟨m', e, hr, he⟩ := hf
    rw [routing] at hr
    cases hr
    rw [answer] at he
    cases he
  | refused m e w routing answer => exact ⟨fun hlive ↦ hlive.1, fun _ ↦ rfl⟩
  | panicked m value world busy => exact ⟨fun hlive ↦ hlive.1, fun _ ↦ rfl⟩
  | unwritten m payload e writing => exact ⟨fun hlive ↦ hlive.1, fun _ ↦ rfl⟩
  | _ => exact hf.elim

/-- What the sockets have accepted when a frame fails is all they will ever accept. -/
theorem accepted_of_failing {s s' : State σ} {a : Action σ} {post : List (Action σ)}
    (hshut : Shut s) (hf : Failing p s a) (h : runAll (step p) s (a :: post) = some s')
    (src : Source) : (s'.conn src).accepted = (s.conn src).accepted := by
  obtain ⟨s₁, hstep, hpost⟩ := runAll_cons h
  -- From here on the routing loop is dead, the sockets are shut behind it, and so the
  -- accepted frames stay what they were.
  have hkeep (t : State σ) (b : Action σ) (t' : State σ)
      (ht : Shut t ∧ ¬ Live t ∧ ∀ src, (t.conn src).accepted = (s.conn src).accepted)
      (hb : step p t b = some t') :
      Shut t' ∧ ¬ Live t' ∧ ∀ src, (t'.conn src).accepted = (s.conn src).accepted := by
    obtain ⟨hl, ha⟩ := dead_step ht.1 ht.2.1 hb
    exact ⟨shut_step ht.1 hb, hl, fun src ↦ (ha src).trans (ht.2.2 src)⟩
  have hdead := invariant_of_step hkeep ⟨shut_step hshut hstep, failing_step hf hstep⟩ hpost
  exact hdead.2.2 src

/-! ### Whole runs -/

variable (p) in
/-- What every reachable state satisfies. -/
structure Sound (s : State σ) : Prop where
  shut : Shut s
  ready : Ready p s
  pumped : ∀ src, Pumped s src
  routed : ∀ src, Routed p s src

/-- Nothing has been read yet. -/
theorem sound_start (w : σ) : Sound p { world := w } := by
  constructor
  · intro src h
    cases src <;> cases h
  · intro m payload h
    cases h
  · exact fun src ↦ ⟨List.prefix_refl _, fun _ ↦ rfl⟩
  · exact fun src ↦ ⟨.nil, fun _ ↦ rfl⟩

/-- Every step keeps the frames in order. -/
theorem sound_step {s s' : State σ} {a : Action σ} (h : Sound p s) (hs : step p s a = some s') :
    Sound p s' where
  shut := shut_step h.shut hs
  ready := ready_step h.ready hs
  pumped src := pumped_step (h.pumped src) hs
  routed src := routed_step (h.routed src) h.shut h.ready hs

end Invariants

variable {σ : Type} (p : FrameProcessor σ)

/-- Each socket has accepted the images of an initial segment of what was read from the other,
and what has been accepted when a frame fails is all there will ever be. -/
theorem bridge_forwards_prefix (w : σ) (actions : List (Action σ)) (s : State σ)
    (h : runAll (step p) { world := w } actions = some s) :
    (∀ src, ∃ done, done <+: s.read src ∧
      List.Forall₂ (Image p src) done (s.conn src.other).accepted) ∧
    (∀ pre a post s₁, actions = pre ++ a :: post →
      runAll (step p) { world := w } pre = some s₁ → Failing p s₁ a →
      ∀ src, (s.conn src).accepted = (s₁.conn src).accepted) := by
  constructor
  · intro src
    have hsound : Sound p s := invariant_of_step (fun _ _ _ ↦ sound_step) (sound_start w) h
    exact ⟨_, (List.take_prefix _ _).trans (hsound.pumped src).started, (hsound.routed src).images⟩
  · intro pre a post s₁ hsplit hpre hfail
    rw [hsplit] at h
    obtain ⟨s₁', hpre', hrest⟩ := runAll_append h
    rw [hpre] at hpre'
    cases hpre'
    have hsound : Sound p s₁ := invariant_of_step (fun _ _ _ ↦ sound_step) (sound_start w) hpre
    exact accepted_of_failing hsound.shut hfail hrest

/-- A processor that passes every frame on as it is. -/
def echoProcessor : FrameProcessor Unit where
  signer _ _ data s := (.ok data, s)
  validator _ data s := (.ok data, s)
  session := ⟨"session", "eth", "app", 1, [], none⟩
  supplier := "pokt1a"
  active := true

/-- Two frames cross from the client and one from the supplier; the supplier's second one fails
on the way. -/
def crossings : List (Action Unit) :=
  [.read .client (.frame ⟨1, [7]⟩), .read .endpoint (.frame ⟨2, [8]⟩), .enqueue .client,
    .read .client (.frame ⟨1, [9]⟩), .enqueue .endpoint, .take, .enqueue .client,
    .read .endpoint (.frame ⟨2, [10]⟩), .process, .write none, .take, .enqueue .endpoint, .process,
    .write none, .take, .process, .write none, .take, .process,
    .write (some (.text "broken pipe"))]

/-- Frames that cross in both directions. -/
theorem bridge_forwards_prefix_echo : ∃ s,
    runAll (step echoProcessor) { world := () } crossings = some s ∧
    (s.conn .endpoint).accepted = [⟨1, [7]⟩, ⟨1, [9]⟩] ∧ (s.conn .client).accepted = [⟨2, [8]⟩] ∧
    (∀ src, ∃ done, done <+: s.read src ∧
      List.Forall₂ (Image echoProcessor src) done (s.conn src.other).accepted) ∧
    ∃ s₁, runAll (step echoProcessor) { world := () } (crossings.take 19) = some s₁ ∧
      ∀ src, (s.conn src).accepted = (s₁.conn src).accepted := by
  have hrun : ∃ s₁ s, runAll (step echoProcessor) { world := () } (crossings.take 19) = some s₁ ∧
      runAll (step echoProcessor) { world := () } crossings = some s ∧
      (s.conn .endpoint).accepted = [⟨1, [7]⟩, ⟨1, [9]⟩] ∧
      (s.conn .client).accepted = [⟨2, [8]⟩] := ⟨_, _, rfl, rfl, rfl, rfl⟩
  obtain ⟨s₁, s, hpre, hall, hendpoint, hclient⟩ := hrun
  obtain ⟨hforwards, hstops⟩ := bridge_forwards_prefix echoProcessor () crossings s hall
  refine ⟨s, hall, hendpoint, hclient, hforwards, s₁, hpre, ?_⟩
  exact hstops (crossings.take 19) (.write (some (.text "broken pipe"))) [] s₁ rfl hpre trivial

end PocketAp.Websockets
