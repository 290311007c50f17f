import PocketAp.Websockets.Teardown

/-!
# The bridges of a listener

`src/transport/bridgeset.go` and `src/transport/ws.go:96–116, 182–240`. Every handler that
started a bridge puts it into the listener's set, has a watcher compare the polled height with
the end of its own session, and takes the bridge out of the set once it is done. `Close` may be
called any number of times: it takes down the set as it is, in some order, and shuts one bridge
after the other down, waiting for each. All of them and the goroutines of the bridges take
turns. A bridge is the machine of `Websockets.Bridge`; what other bridges do to the world they
share with it is its `elsewhere`. A bridge is named by its place among all that were started.
-/

namespace PocketAp.Transport

open PocketAp.Base PocketAp.Domain PocketAp.Relay PocketAp.Websockets

/-- Where the handler of a bridge is: before `add`, at `Done`, or after `remove`.
`src/transport/ws.go:182–189`. -/
inductive Place where
  | started
  | added
  | removed
  deriving DecidableEq, Repr

/-- Where a watcher is: not begun, between two ticks, with a height that has ended the session,
or past `Deactivate` or its `return`. `src/transport/ws.go:209–240`. -/
inductive Watch where
  | unborn
  | ticking
  | expired (height : Int)
  | gone
  deriving DecidableEq, Repr

/-- A bridge that was started, with its handler and its watcher. `origin` is the world it began
in and `acts` what it has done; no code reads the two. -/
structure Bridged (σ : Type) where
  processor : FrameProcessor σ
  /-- The end of the session, if there is a session. -/
  endHeight : Option Int
  origin : σ
  state : Websockets.State σ
  acts : List (Action σ)
  place : Place := .started
  watch : Watch := .unborn

/-- Steps that are taken inside a bridge: no other caller of `Shutdown`, no `Deactivate` and no
cancellation from above. -/
def isOwn {σ : Type} : Action σ → Bool
  | .deactivate => false
  | .shutdown _ => false
  | .cancelParent => false
  | _ => true

/-- What can happen at a bridge: its watcher's turns, and steps of its own. -/
inductive BridgeMove (σ : Type) where
  | watch
  | tick
  | deactivate
  | unwatch
  | own (a : Action σ)

namespace Bridged

variable {σ : Type} (b : Bridged σ)

/-- One step of the bridge's machine. -/
def act (a : Action σ) : Option (Bridged σ) :=
  match Websockets.step b.processor b.state a with
  | none => none
  | some state => some { b with state, acts := b.acts ++ [a] }

/-- `src/transport/ws.go:185, 209–240`; without a source of heights nothing is watched. -/
def move (chainHeight : Option Int) : BridgeMove σ → Option (Bridged σ)
  | .watch =>
    match b.place, b.watch with
    | .added, .unborn =>
      some { b with watch := if chainHeight.isSome && b.endHeight.isSome then .ticking else .gone }
    | _, _ => none
  | .tick =>
    match b.watch, chainHeight, b.endHeight with
    | .ticking, some height, some endHeight =>
      some (if height < endHeight then b else { b with watch := .expired height })
    | _, _, _ => none
  | .deactivate =>
    match b.watch with
    | .expired _ =>
      match b.act .deactivate with
      | none => none
      | some b' => some { b' with watch := .gone }
    | _ => none
  | .unwatch =>
    match b.watch, b.state.once with
    | .ticking, .finished => some { b with watch := .gone }
    | _, _ => none
  | .own a => if isOwn a then b.act a else none

end Bridged

/-- A call of `Close`: the bridges it took down and those still ahead, or the one it waits for.
`src/transport/bridgeset.go:46–59`. -/
inductive CloserPhase where
  | next (rest : List Nat)
  | waiting (i : Nat) (rest : List Nat)
  deriving DecidableEq, Repr

/-- A call of `Close`, with the set it took down. -/
structure Closer where
  snapshot : List Nat
  phase : CloserPhase
  deriving DecidableEq, Repr

/-- `polled` records the heights there have been; no code reads it. -/
structure Listener (σ : Type) where
  cancelled : Bool := false
  height : Int := 0
  polled : List Int := [0]
  bridges : List (Bridged σ) := []
  live : List Nat := []
  closers : List Closer := []

/-- What can happen at a listener. -/
inductive ListenerAction (σ : Type) where
  | start (processor : FrameProcessor σ) (endHeight : Option Int) (world : σ)
  | add (i : Nat)
  | remove (i : Nat)
  | move (i : Nat) (m : BridgeMove σ)
  | poll (height : Int)
  | cancel
  | close (order : List Nat)
  | shut (k : Nat)
  | resume (k : Nat)

namespace Listener

variable {σ : Type}

/-- A bridge under a context that may have been cancelled by now. -/
def started (cancelled : Bool) (processor : FrameProcessor σ) (endHeight : Option Int)
    (world : σ) : Bridged σ :=
  { processor, endHeight, origin := world, state := { world, cancelled }
    acts := if cancelled then [.cancelParent] else [] }

/-- `ctx` is cancelled, and with it the context of every bridge. -/
def cancelAll (bs : List (Bridged σ)) : List (Bridged σ) :=
  bs.map fun b ↦ { b with
    state := { b.state with cancelled := true }, acts := b.acts ++ [.cancelParent] }

/-- The bridge at `i` is asked to go down, unless it is going down. -/
def askDown (b : Bridged σ) : Bridged σ :=
  match b.act (.shutdown (some (.sentinel .bridgeContextCanceled))) with
  | none => b
  | some b' => b'

variable (sourced : Bool) (s : Listener σ)

/-- What a watcher reads, if the listener was given a source of heights. -/
def chainHeight : Option Int := if sourced then some s.height else none

/-- The listener after an action, if it can happen. -/
def step : ListenerAction σ → Option (Listener σ)
  | .start processor endHeight world =>
    some { s with bridges := s.bridges ++ [started s.cancelled processor endHeight world] }
  | .add i =>
    match s.bridges[i]? with
    | none => none
    | some b =>
      if b.place = .started then
        some { s with bridges := s.bridges.set i { b with place := .added }, live := i :: s.live }
      else none
  | .remove i =>
    match s.bridges[i]? with
    | none => none
    | some b =>
      if b.place = .added ∧ b.state.once = .finished then
        some { s with
          bridges := s.bridges.set i { b with place := .removed }, live := s.live.erase i }
      else none
  | .move i m =>
    match s.bridges[i]? with
    | none => none
    | some b =>
      match b.move (s.chainHeight sourced) m with
      | none => none
      | some b' => some { s with bridges := s.bridges.set i b' }
  | .poll height => some { s with height, polled := s.polled ++ [height] }
  | .cancel => some { s with cancelled := true, bridges := cancelAll s.bridges }
  | .close order =>
    if order.isPerm s.live then some { s with closers := s.closers ++ [⟨order, .next order⟩] }
    else none
  | .shut k =>
    match s.closers[k]? with
    | some ⟨snapshot, .next (i :: rest)⟩ =>
      match s.bridges[i]? with
      | none => none
      | some b =>
        some { s with
          bridges := s.bridges.set i (askDown b)
          closers := s.closers.set k ⟨snapshot, .waiting i rest⟩ }
    | _ => none
  | .resume k =>
    match s.closers[k]? with
    | some ⟨snapshot, .waiting i rest⟩ =>
      match s.bridges[i]? with
      | none => none
      | some b =>
        if b.state.once = .finished then
          some { s with closers := s.closers.set k ⟨snapshot, .next rest⟩ }
        else none
    | _ => none

end Listener

/-! ### What the steps of a bridge keep -/

section Steps

variable {σ : Type} {p : FrameProcessor σ} {s s' : Websockets.State σ} {a : Action σ}

private theorem bodyStep_once_ne (s : Websockets.State σ) (sent : Bool) (stage : Stage) :
    (s.bodyStep sent stage).once ≠ .idle := by
  rcases bodyStep_rank s sent stage with h | ⟨next, h, -⟩ <;> rw [h] <;> nofun

private theorem bodyStep_cancelled (s : Websockets.State σ) (sent : Bool) (stage : Stage)
    (h : s.cancelled = true) : (s.bodyStep sent stage).cancelled = true := by
  cases stage with
  | cancel err => rfl
  | askEndpoint err =>
    simp only [State.bodyStep]
    split <;> exact h
  | _ => exact h

private theorem readStep_cancelled (s : Websockets.State σ) (src : Source) (result : ReadResult) :
    (s.readStep src result).cancelled = s.cancelled := by
  cases result <;> rfl

private theorem resumed_cancelled (s : Websockets.State σ) (who : Caller) :
    (s.resumed who).cancelled = s.cancelled := by
  cases who <;> rfl

/-- `Shutdown` is not undone, and neither is a cancellation. -/
theorem bridge_step_mono (h : Websockets.step p s a = some s') :
    (s.once = .finished → s'.once = .finished) ∧ (s.once ≠ .idle → s'.once ≠ .idle) ∧
      (s.cancelled = true → s'.cancelled = true) := by
  cases step_cases h with
  | read src result reading =>
    simp only [State.readStep_once, readStep_cancelled]
    exact ⟨id, id, id⟩
  | begin who err pending idle => exact ⟨fun hf ↦ by simp [idle] at hf, fun _ ↦ nofun, id⟩
  | resume who err pending finished =>
    simp only [State.resumed_once, resumed_cancelled]
    exact ⟨id, id, id⟩
  | shutdown err idle => exact ⟨fun hf ↦ by simp [idle] at hf, fun _ ↦ nofun, id⟩
  | body sent stage running =>
    exact ⟨fun hf ↦ by simp [running] at hf, fun _ ↦ bodyStep_once_ne s sent stage,
      bodyStep_cancelled s sent stage⟩
  | cancelParent => exact ⟨id, id, fun _ ↦ rfl⟩
  | _ => exact ⟨id, id, id⟩

private theorem readStep_active (s : Websockets.State σ) (src : Source) (result : ReadResult) :
    (s.readStep src result).active = s.active ∧ (s.readStep src result).watcher = s.watcher := by
  cases result <;> exact ⟨rfl, rfl⟩

private theorem bodyStep_active (s : Websockets.State σ) (sent : Bool) (stage : Stage) :
    (s.bodyStep sent stage).active = s.active ∧ (s.bodyStep sent stage).watcher = s.watcher := by
  cases stage with
  | askEndpoint err =>
    simp only [State.bodyStep]
    split <;> exact ⟨rfl, rfl⟩
  | _ => exact ⟨rfl, rfl⟩

/-- What a bridge does of itself leaves its processor active and its watcher waiting. -/
theorem bridge_step_own (h : Websockets.step p s a = some s') (hown : isOwn a = true) :
    s'.active = s.active ∧ (s.watcher = .waiting → s'.watcher = .waiting) := by
  cases step_cases h with
  | read src result reading =>
    obtain ⟨ha, hw⟩ := readStep_active s src result
    exact ⟨ha, fun hs ↦ hw.trans hs⟩
  | resume who err pending finished =>
    cases who with
    | pump src => exact ⟨rfl, id⟩
    | router => exact ⟨rfl, id⟩
    | watcher =>
      refine ⟨rfl, fun hs ↦ ?_⟩
      simp only [State.pending, hs] at pending
      cases pending
  | body sent stage running =>
    obtain ⟨ha, hw⟩ := bodyStep_active s sent stage
    exact ⟨ha, fun hs ↦ hw.trans hs⟩
  | deactivate waiting => cases hown
  | _ => exact ⟨rfl, id⟩

end Steps

/-! ### What the listener's steps do to a bridge -/

section Bridges

variable {σ : Type}

/-- A bridge before and after a step of the listener at a height. -/
inductive Bridged.Stepped (chainHeight : Option Int) (b : Bridged σ) : Bridged σ → Prop where
  | same : Stepped chainHeight b b
  | added (started : b.place = .started) : Stepped chainHeight b { b with place := .added }
  | removed (added : b.place = .added) (finished : b.state.once = .finished) :
      Stepped chainHeight b { b with place := .removed }
  | watched (added : b.place = .added) (unborn : b.watch = .unborn) (watch : Watch)
      (either : watch = .ticking ∨ watch = .gone) :
      Stepped chainHeight b { b with watch := watch }
  | expired (height endHeight : Int) (ticking : b.watch = .ticking)
      (read : chainHeight = some height) (session : b.endHeight = some endHeight)
      (ended : endHeight ≤ height) :
      Stepped chainHeight b { b with watch := .expired height }
  | deactivated (height : Int) (expired : b.watch = .expired height)
      (waiting : b.state.watcher = .waiting) :
      Stepped chainHeight b { b with
        state := { b.state with active := false, watcher := .calling }
        acts := b.acts ++ [.deactivate], watch := .gone }
  | unwatched (ticking : b.watch = .ticking) (finished : b.state.once = .finished) :
      Stepped chainHeight b { b with watch := .gone }
  | own (a : Action σ) (state : Websockets.State σ) (isOwn : isOwn a = true)
      (step : Websockets.step b.processor b.state a = some state) :
      Stepped chainHeight b { b with state, acts := b.acts ++ [a] }
  | cancelled : Stepped chainHeight b { b with
      state := { b.state with cancelled := true }, acts := b.acts ++ [.cancelParent] }
  | asked (err : Option Err) (idle : b.state.once = .idle) :
      Stepped chainHeight b { b with
        state := { b.state with once := .running (.cancel err) }
        acts := b.acts ++ [.shutdown err] }

variable {h : Option Int} {b b' : Bridged σ}

private theorem Bridged.act_some {a : Action σ} (hact : b.act a = some b') :
    ∃ state, Websockets.step b.processor b.state a = some state ∧
      b' = { b with state, acts := b.acts ++ [a] } := by
  unfold Bridged.act at hact
  split at hact
  · cases hact
  · next state hs =>
    cases hact
    exact ⟨state, hs, rfl⟩

private theorem Bridged.move_stepped {m : BridgeMove σ} (hm : b.move h m = some b') :
    b.Stepped h b' ∧ b'.place = b.place := by
  cases m with
  | watch =>
    simp only [Bridged.move] at hm
    split at hm
    · next hp hw =>
      cases hm
      refine ⟨.watched hp hw _ ?_, rfl⟩
      split
      · exact .inl rfl
      · exact .inr rfl
    · cases hm
  | tick =>
    simp only [Bridged.move] at hm
    split at hm
    · next height endHeight hw he =>
      cases hm
      split
      · exact ⟨.same, rfl⟩
      · next hle => exact ⟨.expired height endHeight hw rfl he (by omega), rfl⟩
    · cases hm
  | deactivate =>
    simp only [Bridged.move] at hm
    split at hm
    · next height hw =>
      split at hm
      · cases hm
      · next b₁ hact =>
        cases hm
        obtain ⟨state, hs, rfl⟩ := Bridged.act_some hact
        cases step_cases hs with
        | deactivate waiting => exact ⟨.deactivated height hw waiting, rfl⟩
    · cases hm
  | unwatch =>
    simp only [Bridged.move] at hm
    split at hm
    · next hw hf =>
      cases hm
      exact ⟨.unwatched hw hf, rfl⟩
    · cases hm
  | own a =>
    simp only [Bridged.move] at hm
    split at hm
    · next hown =>
      obtain ⟨state, hs, rfl⟩ := Bridged.act_some hm
      exact ⟨.own a state hown hs, rfl⟩
    · cases hm

private theorem Listener.askDown_stepped (b : Bridged σ) : b.Stepped h (Listener.askDown b) := by
  unfold Listener.askDown
  split
  · exact .same
  · next b' hact =>
    obtain ⟨state, hs, rfl⟩ := Bridged.act_some hact
    cases step_cases hs with
    | shutdown err idle => exact .asked _ idle

/-- A bridge that was asked has begun to go down. -/
theorem Listener.askDown_once (b : Bridged σ) : (Listener.askDown b).state.once ≠ .idle := by
  unfold Listener.askDown Bridged.act
  cases ho : b.state.once with
  | idle => simp [Websockets.step, ho]
  | running stage => simp [Websockets.step, ho]
  | finished => simp [Websockets.step, ho]

/-- What has happened to a bridge continues its run, and keeps what the run has reached. -/
structure Bridged.Extends (b b' : Bridged σ) : Prop where
  processor : b'.processor = b.processor
  origin : b'.origin = b.origin
  endHeight : b'.endHeight = b.endHeight
  run : ∃ acts, b'.acts = b.acts ++ acts ∧
    runAll (Websockets.step b.processor) b.state acts = some b'.state
  finished : b.state.once = .finished → b'.state.once = .finished
  begun : b.state.once ≠ .idle → b'.state.once ≠ .idle
  cancelled : b.state.cancelled = true → b'.state.cancelled = true

private theorem Bridged.Extends.of_state {place : Place} {watch : Watch} (b : Bridged σ) :
    b.Extends { b with place, watch } :=
  ⟨rfl, rfl, rfl, ⟨[], by simp, rfl⟩, id, id, id⟩

private theorem Bridged.Extends.of_step {a : Action σ} {state : Websockets.State σ} {watch : Watch}
    (hs : Websockets.step b.processor b.state a = some state) :
    b.Extends { b with state, acts := b.acts ++ [a], watch } := by
  obtain ⟨hf, hb, hc⟩ := bridge_step_mono hs
  exact ⟨rfl, rfl, rfl, ⟨[a], rfl, runAll_single hs⟩, hf, hb, hc⟩

private theorem Bridged.Stepped.extends (hs : b.Stepped h b') : b.Extends b' := by
  cases hs with
  | same => exact .of_state b
  | added started => exact .of_state b
  | removed added finished => exact .of_state b
  | watched added unborn watch either => exact .of_state b
  | expired height endHeight ticking read session ended => exact .of_state b
  | deactivated height expired waiting =>
    exact .of_step (by simp only [Websockets.step, waiting])
  | unwatched ticking finished => exact .of_state b
  | own a state isOwn step => exact .of_step step
  | cancelled => exact .of_step rfl
  | asked err idle => exact .of_step (by simp only [Websockets.step, idle])

end Bridges

/-! ### What the listener's steps do -/

section Inversion

variable {σ : Type} {sourced : Bool} {s s' : Listener σ} {a : ListenerAction σ}

/-- The cases of a step. -/
inductive Listener.Stepped (sourced : Bool) (s : Listener σ) :
    ListenerAction σ → Listener σ → Prop where
  | start (processor : FrameProcessor σ) (endHeight : Option Int) (world : σ) :
      Stepped sourced s (.start processor endHeight world)
        { s with bridges := s.bridges ++ [started s.cancelled processor endHeight world] }
  | add (i : Nat) (b : Bridged σ) (here : s.bridges[i]? = some b) (place : b.place = .started) :
      Stepped sourced s (.add i)
        { s with bridges := s.bridges.set i { b with place := .added }, live := i :: s.live }
  | remove (i : Nat) (b : Bridged σ) (here : s.bridges[i]? = some b) (place : b.place = .added)
      (finished : b.state.once = .finished) :
      Stepped sourced s (.remove i)
        { s with
          bridges := s.bridges.set i { b with place := .removed }, live := s.live.erase i }
  | move (i : Nat) (m : BridgeMove σ) (b b' : Bridged σ) (here : s.bridges[i]? = some b)
      (moved : b.move (s.chainHeight sourced) m = some b') :
      Stepped sourced s (.move i m) { s with bridges := s.bridges.set i b' }
  | poll (height : Int) :
      Stepped sourced s (.poll height) { s with height, polled := s.polled ++ [height] }
  | cancel :
      Stepped sourced s .cancel { s with cancelled := true, bridges := cancelAll s.bridges }
  | close (order : List Nat) (perm : order.Perm s.live) :
      Stepped sourced s (.close order)
        { s with closers := s.closers ++ [⟨order, .next order⟩] }
  | shut (k i : Nat) (snapshot rest : List Nat) (b : Bridged σ)
      (closer : s.closers[k]? = some ⟨snapshot, .next (i :: rest)⟩)
      (here : s.bridges[i]? = some b) :
      Stepped sourced s (.shut k)
        { s with
          bridges := s.bridges.set i (askDown b)
          closers := s.closers.set k ⟨snapshot, .waiting i rest⟩ }
  | resume (k i : Nat) (snapshot rest : List Nat) (b : Bridged σ)
      (closer : s.closers[k]? = some ⟨snapshot, .waiting i rest⟩)
      (here : s.bridges[i]? = some b) (finished : b.state.once = .finished) :
      Stepped sourced s (.resume k)
        { s with closers := s.closers.set k ⟨snapshot, .next rest⟩ }

/-- A listener moves in one of these ways. -/
theorem Listener.step_cases (h : s.step sourced a = some s') : s.Stepped sourced a s' := by
  cases a with
  | start processor endHeight world =>
    cases h
    exact .start processor endHeight world
  | add i =>
    simp only [Listener.step] at h
    split at h
    · cases h
    · next b hb =>
      split at h
      · next hp =>
        cases h
        exact .add i b hb hp
      · cases h
  | remove i =>
    simp only [Listener.step] at h
    split at h
    · cases h
    · next b hb =>
      split at h
      · next hp =>
        cases h
        exact .remove i b hb hp.1 hp.2
      · cases h
  | move i m =>
    simp only [Listener.step] at h
    split at h
    · cases h
    · next b hb =>
      split at h
      · cases h
      · next b' hm =>
        cases h
        exact .move i m b b' hb hm
  | poll height =>
    cases h
    exact .poll height
  | cancel =>
    cases h
    exact .cancel
  | close order =>
    simp only [Listener.step] at h
    split at h
    · next hp =>
      cases h
      exact .close order (List.isPerm_iff.mp hp)
    · cases h
  | shut k =>
    simp only [Listener.step] at h
    split at h
    · next snapshot i rest hc =>
      split at h
      · cases h
      · next b hb =>
        cases h
        exact .shut k i snapshot rest b hc hb
    · cases h
  | resume k =>
    simp only [Listener.step] at h
    split at h
    · next snapshot i rest hc =>
      split at h
      · cases h
      · next b hb =>
        split at h
        · next hf =>
          cases h
          exact .resume k i snapshot rest b hc hb hf
        · cases h
    · cases h

/-- Every bridge there was makes one step or none, and at most one is new. -/
theorem Listener.step_bridges (h : s.step sourced a = some s') :
    ∃ bs new, s'.bridges = bs ++ new ∧
      List.Forall₂ (Bridged.Stepped (s.chainHeight sourced)) s.bridges bs ∧
      ∀ b ∈ new, ∃ processor endHeight world,
        b = Listener.started s'.cancelled processor endHeight world := by
  have hsame : List.Forall₂ (Bridged.Stepped (s.chainHeight sourced)) s.bridges s.bridges :=
    List.forall₂_same.mpr fun b _ ↦ .same
  have hset {i : Nat} {b b' : Bridged σ} (here : s.bridges[i]? = some b)
      (hb : b.Stepped (s.chainHeight sourced) b') :
      List.Forall₂ (Bridged.Stepped (s.chainHeight sourced)) s.bridges (s.bridges.set i b') :=
    forall₂_set (fun b ↦ .same) here hb
  cases Listener.step_cases h with
  | start processor endHeight world =>
    exact ⟨s.bridges, [_], rfl, hsame, by simp⟩
  | add i b here place => exact ⟨_, [], (List.append_nil _).symm, hset here (.added place), by simp⟩
  | remove i b here place finished =>
    exact ⟨_, [], (List.append_nil _).symm, hset here (.removed place finished), by simp⟩
  | move i m b b' here moved =>
    exact ⟨_, [], (List.append_nil _).symm, hset here (Bridged.move_stepped moved).1, by simp⟩
  | poll height => exact ⟨_, [], (List.append_nil _).symm, hsame, by simp⟩
  | cancel =>
    refine ⟨_, [], (List.append_nil _).symm, ?_, by simp⟩
    exact List.forall₂_map_right_iff.mpr (List.forall₂_same.mpr fun b _ ↦ .cancelled)
  | close order perm => exact ⟨_, [], (List.append_nil _).symm, hsame, by simp⟩
  | shut k i snapshot rest b closer here =>
    exact ⟨_, [], (List.append_nil _).symm, hset here (askDown_stepped b), by simp⟩
  | resume k i snapshot rest b closer here finished =>
    exact ⟨_, [], (List.append_nil _).symm, hsame, by simp⟩

end Inversion

/-! ### Each bridge -/

section Each

variable {σ : Type}

/-- A bridge runs as the machine of bridges does, its handler leaves after it is done, and its
watcher deactivates it only for a height that has ended its own session. -/
structure Bridged.Sound (polled : List Int) (b : Bridged σ) : Prop where
  run : runAll (Websockets.step b.processor) { world := b.origin } b.acts = some b.state
  ended : b.place = .removed → b.state.once = .finished
  waits : b.watch ≠ .gone → b.state.watcher = .waiting ∧ b.state.active = true
  seen : ∀ height, b.watch = .expired height →
    height ∈ polled ∧ ∃ endHeight, b.endHeight = some endHeight ∧ endHeight ≤ height
  retired : b.state.active = false →
    ∃ endHeight height, b.endHeight = some endHeight ∧ height ∈ polled ∧ endHeight ≤ height

variable {polled : List Int} {h : Option Int} {b b' : Bridged σ}

private theorem Bridged.Sound.mono (hb : b.Sound polled) (height : Int) :
    b.Sound (polled ++ [height]) := by
  refine ⟨hb.run, hb.ended, hb.waits, fun e he ↦ ?_, fun ha ↦ ?_⟩
  · obtain ⟨hmem, hend⟩ := hb.seen e he
    exact ⟨List.mem_append_left _ hmem, hend⟩
  · obtain ⟨e, seen, he, hmem, hle⟩ := hb.retired ha
    exact ⟨e, seen, he, List.mem_append_left _ hmem, hle⟩

private theorem Bridged.Extends.run_eq (hx : b.Extends b')
    (hrun : runAll (Websockets.step b.processor) { world := b.origin } b.acts = some b.state) :
    runAll (Websockets.step b'.processor) { world := b'.origin } b'.acts = some b'.state := by
  obtain ⟨acts, hacts, hmore⟩ := hx.run
  rw [hx.processor, hx.origin, hacts]
  exact runAll_trans hrun hmore

private theorem Bridged.Sound.step (hb : b.Sound polled) (hs : b.Stepped h b')
    (hpolled : ∀ height, h = some height → height ∈ polled) : b'.Sound polled := by
  have hrun := hs.extends.run_eq hb.run
  cases hs with
  | same => exact hb
  | added started => exact ⟨hrun, nofun, hb.waits, hb.seen, hb.retired⟩
  | removed added finished => exact ⟨hrun, fun _ ↦ finished, hb.waits, hb.seen, hb.retired⟩
  | watched added unborn watch either =>
    refine ⟨hrun, hb.ended, fun _ ↦ hb.waits (by rw [unborn]; nofun), fun height hw ↦ ?_,
      hb.retired⟩
    rcases either with rfl | rfl <;> cases hw
  | expired height endHeight ticking read session ended =>
    refine ⟨hrun, hb.ended, fun _ ↦ hb.waits (by rw [ticking]; nofun), fun height' hw ↦ ?_,
      hb.retired⟩
    cases hw
    exact ⟨hpolled height read, endHeight, session, ended⟩
  | deactivated height expired waiting =>
    obtain ⟨hmem, endHeight, hend, hle⟩ := hb.seen height expired
    exact ⟨hrun, hb.ended, fun hg ↦ absurd rfl hg, nofun,
      fun _ ↦ ⟨endHeight, height, hend, hmem, hle⟩⟩
  | unwatched ticking finished =>
    exact ⟨hrun, hb.ended, fun hg ↦ absurd rfl hg, nofun, hb.retired⟩
  | own a state isOwn step =>
    obtain ⟨hactive, hwatcher⟩ := bridge_step_own step isOwn
    refine ⟨hrun, fun hp ↦ (bridge_step_mono step).1 (hb.ended hp), fun hg ↦ ?_, hb.seen, fun ha ↦ ?_⟩
    · exact ⟨hwatcher (hb.waits hg).1, hactive.trans (hb.waits hg).2⟩
    · exact hb.retired (hactive.symm.trans ha)
  | cancelled => exact ⟨hrun, hb.ended, hb.waits, hb.seen, hb.retired⟩
  | asked err idle =>
    refine ⟨hrun, fun hp ↦ ?_, hb.waits, hb.seen, hb.retired⟩
    have hf := hb.ended hp
    rw [idle] at hf
    cases hf

private theorem Listener.started_sound (cancelled : Bool) (processor : FrameProcessor σ)
    (endHeight : Option Int) (world : σ) :
    (Listener.started cancelled processor endHeight world).Sound polled := by
  refine ⟨?_, nofun, fun _ ↦ ⟨rfl, rfl⟩, nofun, nofun⟩
  cases cancelled <;> rfl

end Each

/-! ### The set and the calls of `Close` -/

section Set

variable {σ : Type} {sourced : Bool} {s s' : Listener σ} {a : ListenerAction σ}

/-- Where the handlers are. -/
def Listener.places (s : Listener σ) : List Place := s.bridges.map Bridged.place

/-- The set holds the bridges whose handlers are between `add` and `remove`. -/
structure Listener.Tracks (s : Listener σ) : Prop where
  nodup : s.live.Nodup
  mem_iff : ∀ i, i ∈ s.live ↔ s.places[i]? = some .added

private theorem places_set {bs : List (Bridged σ)} {i : Nat} {b b' : Bridged σ}
    (here : bs[i]? = some b) (hplace : b'.place = b.place) :
    (bs.set i b').map Bridged.place = bs.map Bridged.place := by
  obtain ⟨hi, rfl⟩ := List.getElem?_eq_some_iff.mp here
  rw [List.map_set, hplace, ← List.getElem_map Bridged.place (h := by simpa using hi),
    List.set_getElem_self]

private theorem askDown_place (b : Bridged σ) : (Listener.askDown b).place = b.place := by
  unfold Listener.askDown
  split
  · rfl
  · next b' hact =>
    obtain ⟨state, -, rfl⟩ := Bridged.act_some hact
    rfl

private theorem places_cancelAll (bs : List (Bridged σ)) :
    (Listener.cancelAll bs).map Bridged.place = bs.map Bridged.place := by
  simp [Listener.cancelAll]

/-- Handlers stay where they are, except in their own steps. -/
private theorem tracks_same (ht : s.Tracks) (hlive : s'.live = s.live)
    (hplaces : s'.places = s.places) : s'.Tracks := by
  refine ⟨hlive ▸ ht.nodup, fun i ↦ ?_⟩
  rw [hlive, hplaces]
  exact ht.mem_iff i

private theorem places_getElem? {i : Nat} {b : Bridged σ} (here : s.bridges[i]? = some b) :
    s.places[i]? = some b.place := by
  rw [Listener.places, List.getElem?_map, here]
  rfl

private theorem added_set_iff {l : List Place} {i : Nat} {place : Place} (hi : i < l.length)
    (j : Nat) : (l.set i place)[j]? = some .added ↔
      (j = i ∧ place = .added) ∨ (j ≠ i ∧ l[j]? = some .added) := by
  by_cases hj : j = i
  · subst hj
    simp [hi]
  · rw [List.getElem?_set_ne (Ne.symm hj)]
    simp [hj]

private theorem tracks_add {i : Nat} (ht : s.Tracks) (hplace : s.places[i]? = some .started)
    (hlive : s'.live = i :: s.live) (hplaces : s'.places = s.places.set i .added) :
    s'.Tracks := by
  have hi : i < s.places.length := (List.getElem?_eq_some_iff.mp hplace).1
  have hout : i ∉ s.live := by
    rw [ht.mem_iff, hplace]
    nofun
  refine ⟨hlive ▸ List.nodup_cons.mpr ⟨hout, ht.nodup⟩, fun j ↦ ?_⟩
  rw [hlive, hplaces, added_set_iff hi, List.mem_cons, ht.mem_iff]
  by_cases hj : j = i <;> simp [hj]

private theorem tracks_remove {i : Nat} {place : Place} (ht : s.Tracks)
    (hplace : s.places[i]? = some place) (hlive : s'.live = s.live.erase i)
    (hplaces : s'.places = s.places.set i .removed) : s'.Tracks := by
  have hi : i < s.places.length := (List.getElem?_eq_some_iff.mp hplace).1
  refine ⟨hlive ▸ ht.nodup.erase i, fun j ↦ ?_⟩
  rw [hlive, hplaces, added_set_iff hi, ht.nodup.mem_erase_iff, ht.mem_iff]
  simp

private theorem Listener.Tracks.step (ht : s.Tracks) (h : s.step sourced a = some s') :
    s'.Tracks := by
  cases Listener.step_cases h with
  | start processor endHeight world =>
    refine ⟨ht.nodup, fun i ↦ ?_⟩
    rw [ht.mem_iff]
    simp only [Listener.places, List.map_append, List.map_singleton, Listener.started]
    rw [List.getElem?_append]
    split
    · rfl
    · next hle =>
      rw [List.getElem?_eq_none (by omega)]
      constructor
      · nofun
      · intro hnew
        have hmem := List.mem_of_getElem? hnew
        simp at hmem
  | add i b here place =>
    exact tracks_add ht (place ▸ places_getElem? here) rfl List.map_set
  | remove i b here place finished =>
    exact tracks_remove ht (places_getElem? here) rfl List.map_set
  | move i m b b' here moved =>
    exact tracks_same ht rfl (places_set here (Bridged.move_stepped moved).2)
  | poll height => exact tracks_same ht rfl rfl
  | cancel => exact tracks_same ht rfl (places_cancelAll s.bridges)
  | close order perm => exact tracks_same ht rfl rfl
  | shut k i snapshot rest b closer here =>
    exact tracks_same ht rfl (places_set here (askDown_place b))
  | resume k i snapshot rest b closer here finished => exact tracks_same ht rfl rfl

/-- The bridge at `i` meets a condition. -/
def Listener.At (s : Listener σ) (i : Nat) (C : Bridged σ → Prop) : Prop :=
  ∃ b, s.bridges[i]? = some b ∧ C b

/-- How far a call of `Close` has come: what lies behind it is done, and what it waits for has
begun to go down. -/
structure Closer.Sound (s : Listener σ) (c : Closer) : Prop where
  known : ∀ i ∈ c.snapshot, s.At i fun _ ↦ True
  progress :
    match c.phase with
    | .next rest => ∃ done, c.snapshot = done ++ rest ∧
        ∀ i ∈ done, s.At i fun b ↦ b.state.once = .finished
    | .waiting i rest => ∃ done, c.snapshot = done ++ i :: rest ∧
        (∀ j ∈ done, s.At j fun b ↦ b.state.once = .finished) ∧
        s.At i fun b ↦ b.state.once ≠ .idle

/-- A bridge that was there is still there, and its run goes on. -/
theorem Listener.step_extends (h : s.step sourced a = some s') {i : Nat} {b : Bridged σ}
    (here : s.bridges[i]? = some b) : ∃ b', s'.bridges[i]? = some b' ∧ b.Extends b' := by
  obtain ⟨bs, new, hbs, hall, -⟩ := Listener.step_bridges h
  obtain ⟨b', hb', hs⟩ := forall₂_getElem? hall here
  refine ⟨b', ?_, hs.extends⟩
  rw [hbs, List.getElem?_append_left (List.getElem?_eq_some_iff.mp hb').1]
  exact hb'

private theorem Listener.At.step {C : Bridged σ → Prop} {i : Nat} (hat : s.At i C)
    (h : s.step sourced a = some s') (hkeep : ∀ b b', C b → b.Extends b' → C b') : s'.At i C := by
  obtain ⟨b, here, hc⟩ := hat
  obtain ⟨b', here', hx⟩ := Listener.step_extends h here
  exact ⟨b', here', hkeep b b' hc hx⟩

private theorem Closer.Sound.step {c : Closer} (hc : c.Sound s) (h : s.step sourced a = some s') :
    c.Sound s' := by
  have hfinished (i : Nat) (hat : s.At i fun b ↦ b.state.once = .finished) :
      s'.At i fun b ↦ b.state.once = .finished :=
    hat.step h fun _ _ hf hx ↦ hx.finished hf
  refine ⟨fun i hi ↦ (hc.known i hi).step h fun _ _ _ _ ↦ trivial, ?_⟩
  obtain ⟨snapshot, phase⟩ := c
  cases phase with
  | next rest =>
    obtain ⟨done, hsnap, hdone⟩ := hc.progress
    exact ⟨done, hsnap, fun i hi ↦ hfinished i (hdone i hi)⟩
  | waiting i rest =>
    obtain ⟨done, hsnap, hdone, hbegun⟩ := hc.progress
    exact ⟨done, hsnap, fun i hi ↦ hfinished i (hdone i hi),
      hbegun.step h fun _ _ hb hx ↦ hx.begun hb⟩

/-! ### What a listener keeps -/

/-- What holds of a listener however its actions interleave. -/
structure Listener.Sound (s : Listener σ) : Prop where
  height : s.height ∈ s.polled
  each : ∀ b ∈ s.bridges, b.Sound s.polled
  cancelled : s.cancelled = true → ∀ b ∈ s.bridges, b.state.cancelled = true
  tracks : s.Tracks
  closers : ∀ c ∈ s.closers, c.Sound s

private theorem each_step (hs : s.Sound) (h : s.step sourced a = some s') :
    ∀ b ∈ s'.bridges, b.Sound s.polled := by
  obtain ⟨bs, new, hbs, hall, hnew⟩ := Listener.step_bridges h
  have hread (height : Int) (hh : s.chainHeight sourced = some height) : height ∈ s.polled := by
    unfold Listener.chainHeight at hh
    split at hh
    · cases hh
      exact hs.height
    · cases hh
  intro b hb
  rw [hbs] at hb
  rcases List.mem_append.mp hb with hb | hb
  · obtain ⟨b₀, hb₀, hst⟩ := forall₂_mem hall hb
    exact (hs.each b₀ hb₀).step hst hread
  · obtain ⟨processor, endHeight, world, rfl⟩ := hnew b hb
    exact Listener.started_sound _ _ _ _

private theorem cancelled_step (hs : s.Sound) (h : s.step sourced a = some s') :
    s'.cancelled = true → ∀ b ∈ s'.bridges, b.state.cancelled = true := by
  intro hc b hb
  by_cases hbefore : s.cancelled = true
  · obtain ⟨bs, new, hbs, hall, hnew⟩ := Listener.step_bridges h
    rw [hbs] at hb
    rcases List.mem_append.mp hb with hb | hb
    · obtain ⟨b₀, hb₀, hst⟩ := forall₂_mem hall hb
      exact hst.extends.cancelled (hs.cancelled hbefore b₀ hb₀)
    · obtain ⟨processor, endHeight, world, rfl⟩ := hnew b hb
      exact hc
  · -- Only the cancellation itself turns the flag, and it reaches every bridge.
    cases Listener.step_cases h with
    | cancel =>
      obtain ⟨b₀, -, rfl⟩ := List.mem_map.mp hb
      rfl
    | _ => exact absurd hc hbefore

private theorem closers_step (hs : s.Sound) (h : s.step sourced a = some s') :
    ∀ c ∈ s'.closers, c.Sound s' := by
  have hold (c : Closer) (hc : c ∈ s.closers) : c.Sound s' := (hs.closers c hc).step h
  intro c hc
  cases Listener.step_cases h with
  | close order perm =>
    rcases List.mem_append.mp hc with hc | hc
    · exact hold c hc
    · rw [List.mem_singleton.mp hc]
      refine ⟨fun i hi ↦ ?_, [], rfl, by simp⟩
      have hlive := (hs.tracks.mem_iff i).mp (perm.mem_iff.mp hi)
      rw [Listener.places, List.getElem?_map] at hlive
      obtain ⟨b, here, -⟩ := Option.map_eq_some_iff.mp hlive
      exact ⟨b, here, trivial⟩
  | shut k i snapshot rest b closer here =>
    rcases List.mem_or_eq_of_mem_set hc with hc | rfl
    · exact hold c hc
    · have hbefore := hold _ (List.mem_of_getElem? closer)
      obtain ⟨done, hsnap, hdone⟩ := hbefore.progress
      refine ⟨hbefore.known, done, hsnap, hdone, Listener.askDown b, ?_, Listener.askDown_once b⟩
      exact List.getElem?_set_self (List.getElem?_eq_some_iff.mp here).1
  | resume k i snapshot rest b closer here finished =>
    rcases List.mem_or_eq_of_mem_set hc with hc | rfl
    · exact hold c hc
    · have hbefore := hold _ (List.mem_of_getElem? closer)
      obtain ⟨done, hsnap, hdone, -⟩ := hbefore.progress
      refine ⟨hbefore.known, done ++ [i], by simpa using hsnap, fun j hj ↦ ?_⟩
      rcases List.mem_append.mp hj with hj | hj
      · exact hdone j hj
      · rw [List.mem_singleton.mp hj]
        exact ⟨b, here, finished⟩
  | _ => exact hold c hc

/-- Every step keeps the listener sound. -/
theorem Listener.Sound.step (hs : s.Sound) (h : s.step sourced a = some s') : s'.Sound := by
  have heach := each_step hs h
  have hgrown : s'.height ∈ s'.polled ∧ ∀ b ∈ s'.bridges, b.Sound s'.polled := by
    cases Listener.step_cases h with
    | poll height =>
      exact ⟨List.mem_concat_self, fun b hb ↦ (heach b hb).mono height⟩
    | _ => exact ⟨hs.height, heach⟩
  exact ⟨hgrown.1, hgrown.2, cancelled_step hs h, hs.tracks.step h, closers_step hs h⟩

/-- After every run the listener is sound. -/
theorem Listener.sound_run {actions : List (ListenerAction σ)}
    (h : runAll (Listener.step sourced) {} actions = some s) : s.Sound :=
  invariant_of_step (fun _ _ _ ↦ Listener.Sound.step)
    ⟨List.mem_singleton.mpr rfl, by simp, by simp, ⟨List.nodup_nil, by simp [Listener.places]⟩,
      by simp⟩ h

/-! ### Every call of `Close` can return -/

/-- What a bridge can do of itself, it can do under the listener. -/
theorem Listener.run_own {acts : List (Action σ)} {i : Nat} {b : Bridged σ}
    {state : Websockets.State σ} (hown : ∀ a ∈ acts, isOwn a = true)
    (hrun : runAll (Websockets.step b.processor) b.state acts = some state)
    (here : s.bridges[i]? = some b) :
    runAll (Listener.step sourced) s (acts.map fun a ↦ .move i (.own a)) =
      some { s with bridges := s.bridges.set i { b with state, acts := b.acts ++ acts } } := by
  induction acts generalizing s b with
  | nil =>
    cases hrun
    obtain ⟨hi, rfl⟩ := List.getElem?_eq_some_iff.mp here
    have hset : s.bridges.set i s.bridges[i] = s.bridges := List.set_getElem_self hi
    simp only [List.map_nil, runAll, List.append_nil]
    rw [hset]
  | cons a acts ih =>
    obtain ⟨state₁, hstep, hrest⟩ := runAll_cons hrun
    have hi : i < s.bridges.length := (List.getElem?_eq_some_iff.mp here).1
    have hmove : s.step sourced (.move i (.own a)) =
        some { s with
          bridges := s.bridges.set i { b with state := state₁, acts := b.acts ++ [a] } } := by
      simp only [Listener.step, here, Bridged.move, hown a List.mem_cons_self, if_true,
        Bridged.act, hstep]
    have hlater := ih (s := { s with
        bridges := s.bridges.set i { b with state := state₁, acts := b.acts ++ [a] } })
      (b := { b with state := state₁, acts := b.acts ++ [a] })
      (fun a' ha' ↦ hown a' (List.mem_cons_of_mem _ ha')) hrest (List.getElem?_set_self hi)
    rw [List.map_cons]
    refine runAll_of_step hmove (hlater.trans ?_)
    simp

/-- A bridge that has begun to go down gets there by itself. -/
private theorem finishes {i : Nat} (hat : s.At i fun b ↦ b.state.once ≠ .idle) :
    ∃ more s', runAll (Listener.step sourced) s more = some s' ∧ s'.closers = s.closers ∧
      s'.At i fun b ↦ b.state.once = .finished := by
  obtain ⟨b, here, hbegun⟩ := hat
  cases ho : b.state.once with
  | idle => exact absurd ho hbegun
  | finished => exact ⟨[], s, rfl, rfl, b, here, ho⟩
  | running stage =>
    obtain ⟨n, state, hrun, hf⟩ := @body_finishes σ b.processor b.state stage ho
    have hown : ∀ a ∈ List.replicate n (Action.body true : Action σ), isOwn a = true := by
      intro a ha
      rw [List.eq_of_mem_replicate ha]
      rfl
    refine ⟨_, _, Listener.run_own hown hrun here, rfl,
      { b with state, acts := b.acts ++ List.replicate n (.body true) }, ?_, hf⟩
    exact List.getElem?_set_self (List.getElem?_eq_some_iff.mp here).1

private theorem waiting_resumes {k i : Nat} {snapshot rest : List Nat} (hs : s.Sound)
    (hk : s.closers[k]? = some ⟨snapshot, .waiting i rest⟩) :
    ∃ more s', runAll (Listener.step sourced) s more = some s' ∧
      s'.closers[k]? = some ⟨snapshot, .next rest⟩ := by
  obtain ⟨-, done, -, -, hbegun⟩ := hs.closers _ (List.mem_of_getElem? hk)
  obtain ⟨more, s₁, hrun, hclosers, b, here, hf⟩ := @finishes σ sourced s i hbegun
  have hk₁ : s₁.closers[k]? = some ⟨snapshot, .waiting i rest⟩ := hclosers ▸ hk
  have hstep : s₁.step sourced (.resume k) =
      some { s₁ with closers := s₁.closers.set k ⟨snapshot, .next rest⟩ } := by
    simp only [Listener.step, hk₁, here, hf, if_true]
  exact ⟨more ++ [.resume k], _, runAll_trans hrun (runAll_single hstep),
    List.getElem?_set_self (List.getElem?_eq_some_iff.mp hk₁).1⟩

private theorem sound_runAll {more : List (ListenerAction σ)} (hs : s.Sound)
    (h : runAll (Listener.step sourced) s more = some s') : s'.Sound :=
  invariant_of_step (fun _ _ _ ↦ Listener.Sound.step) hs h

private theorem next_returns {k : Nat} {snapshot rest : List Nat} (hs : s.Sound)
    (hk : s.closers[k]? = some ⟨snapshot, .next rest⟩) :
    ∃ more s', runAll (Listener.step sourced) s more = some s' ∧
      s'.closers[k]? = some ⟨snapshot, .next []⟩ := by
  induction rest generalizing s with
  | nil => exact ⟨[], s, rfl, hk⟩
  | cons i rest ih =>
    have hknown := (hs.closers _ (List.mem_of_getElem? hk)).known
    obtain ⟨-, done, hsnap, -⟩ := hs.closers _ (List.mem_of_getElem? hk)
    obtain ⟨b, here, -⟩ := hknown i (by simp only at hsnap; simp [hsnap])
    have hshut : s.step sourced (.shut k) = some { s with
        bridges := s.bridges.set i (Listener.askDown b)
        closers := s.closers.set k ⟨snapshot, .waiting i rest⟩ } := by
      simp only [Listener.step, hk, here]
    have hk₁ : (s.closers.set k ⟨snapshot, .waiting i rest⟩)[k]? =
        some ⟨snapshot, .waiting i rest⟩ :=
      List.getElem?_set_self (List.getElem?_eq_some_iff.mp hk).1
    obtain ⟨more₂, s₂, hrun₂, hk₂⟩ := @waiting_resumes σ sourced _ k i snapshot rest
      (hs.step hshut) hk₁
    have hrun := runAll_of_step hshut hrun₂
    obtain ⟨more₃, s₃, hrun₃, hk₃⟩ := ih (sound_runAll hs hrun) hk₂
    exact ⟨_, s₃, runAll_trans hrun hrun₃, hk₃⟩

private theorem closer_returns {k : Nat} {c : Closer} (hs : s.Sound)
    (hk : s.closers[k]? = some c) :
    ∃ more s', runAll (Listener.step sourced) s more = some s' ∧
      s'.closers[k]? = some ⟨c.snapshot, .next []⟩ := by
  obtain ⟨snapshot, phase⟩ := c
  cases phase with
  | next rest => exact next_returns hs hk
  | waiting i rest =>
    obtain ⟨more₁, s₁, hrun₁, hk₁⟩ := @waiting_resumes σ sourced _ k i snapshot rest hs hk
    obtain ⟨more₂, s₂, hrun₂, hk₂⟩ := next_returns (sound_runAll hs hrun₁) hk₁
    exact ⟨_, s₂, runAll_trans hrun₁ hrun₂, hk₂⟩

/-! ### Whole runs -/

variable {actions : List (ListenerAction σ)}

/-- In every reachable state the set holds exactly the bridges whose handlers are between `add`
and `remove`, no handler left before its bridge was done, and each bridge has come to where it
is by steps of its own machine. -/
theorem listener_tracks_bridges (h : runAll (Listener.step sourced) {} actions = some s) :
    s.live.Nodup ∧ (∀ i, i ∈ s.live ↔ s.At i fun b ↦ b.place = .added) ∧
    ∀ b ∈ s.bridges, (b.place = .removed → b.state.once = .finished) ∧
      runAll (Websockets.step b.processor) { world := b.origin } b.acts = some b.state := by
  have hs := Listener.sound_run h
  refine ⟨hs.tracks.nodup, fun i ↦ ?_, fun b hb ↦ ⟨(hs.each b hb).ended, (hs.each b hb).run⟩⟩
  rw [hs.tracks.mem_iff, Listener.places, List.getElem?_map, Option.map_eq_some_iff]
  rfl

/-- `Close` is through only when every bridge it found is done, it can always get there, and it
needs no bridge that came too late for it: once the listener's context is cancelled every bridge,
early or late, has been told and can finish. -/
theorem close_ends_bridges (h : runAll (Listener.step sourced) {} actions = some s) :
    (∀ c ∈ s.closers, c.phase = .next [] →
      ∀ i ∈ c.snapshot, s.At i fun b ↦ b.state.once = .finished) ∧
    (∀ (k : Nat) (c : Closer), s.closers[k]? = some c →
      ∃ more s', runAll (Listener.step sourced) s more = some s' ∧
        s'.closers[k]? = some ⟨c.snapshot, .next []⟩) ∧
    (s.cancelled = true →
      ∀ b ∈ s.bridges, b.state.cancelled = true ∧ CanFinish b.processor b.state) := by
  have hs := Listener.sound_run h
  refine ⟨fun c hc hphase i hi ↦ ?_, fun k c hk ↦ closer_returns hs hk, fun hc b hb ↦ ?_⟩
  · have hprogress := (hs.closers c hc).progress
    simp only [hphase, List.append_nil] at hprogress
    obtain ⟨done, rfl, hdone⟩ := hprogress
    exact hdone i hi
  · have hcancelled := hs.cancelled hc b hb
    have hjoined : Joined b.state :=
      invariant_of_step (fun _ _ _ ↦ joined_step) (fun hret ↦ by cases hret) (hs.each b hb).run
    exact ⟨hcancelled, canFinish_of_cancelled hjoined hcancelled⟩

/-- A bridge is deactivated only for a height that has ended its own session; and as soon as such
a height is there, its watcher's next tick deactivates it and goes on to shut it down, wherever
the other bridges are and without touching them. -/
theorem bridges_expire_alone (h : runAll (Listener.step true) {} actions = some s) :
    (∀ b ∈ s.bridges, b.state.active = false → ∃ endHeight height,
      b.endHeight = some endHeight ∧ height ∈ s.polled ∧ endHeight ≤ height) ∧
    ∀ (i : Nat) (b : Bridged σ) (endHeight : Int), s.bridges[i]? = some b → b.watch = .ticking →
      b.endHeight = some endHeight → endHeight ≤ s.height →
      ∃ b', runAll (Listener.step true) s [.move i .tick, .move i .deactivate] =
          some { s with bridges := s.bridges.set i b' } ∧
        b'.state.active = false ∧
        b'.state.pending .watcher = some (some (.sentinel .bridgeSessionExpired)) := by
  have hs := Listener.sound_run h
  refine ⟨fun b hb ↦ (hs.each b hb).retired, fun i b endHeight here hwatch hend hle ↦ ?_⟩
  have hi : i < s.bridges.length := (List.getElem?_eq_some_iff.mp here).1
  have hwaits := ((hs.each b (List.mem_of_getElem? here)).waits (by rw [hwatch]; nofun)).1
  have htick : s.step true (.move i .tick) =
      some { s with bridges := s.bridges.set i { b with watch := .expired s.height } } := by
    simp only [Listener.step, here, Bridged.move, hwatch, Listener.chainHeight, hend, if_true,
      if_neg (Int.not_lt.mpr hle)]
  refine ⟨{ b with
    state := { b.state with active := false, watcher := .calling }
    acts := b.acts ++ [.deactivate], watch := .gone }, ?_, rfl, rfl⟩
  refine runAll_of_step htick (runAll_single ?_)
  simp [Listener.step, hi, Bridged.move, Bridged.act, Websockets.step, hwaits]

end Set

section Closed

/-- Two bridges with different sessions: the height ends the first one's, and later the listener
is closed while the second is open. -/
def twoBridges : List (ListenerAction Unit) :=
  [.start echoProcessor (some 10) (), .start echoProcessor (some 20) (), .add 0, .add 1,
    .move 0 .watch, .move 1 .watch, .poll 12, .move 1 .tick, .move 0 .tick, .move 0 .deactivate,
    .cancel, .close [1, 0], .shut 0]

/-- The listener then. -/
def twoBridgesAfter : Option (Listener Unit) := runAll (Listener.step true) {} twoBridges

/-- Both bridges are in the set. -/
theorem listener_tracks_bridges_two : twoBridgesAfter.map Listener.live = some [1, 0] ∧
    ∃ s, twoBridgesAfter = some s ∧ ∀ i, i ∈ s.live ↔ s.At i fun b ↦ b.place = .added := by
  refine ⟨rfl, ?_⟩
  obtain ⟨s, hs⟩ := Option.isSome_iff_exists.mp (rfl : twoBridgesAfter.isSome = true)
  exact ⟨s, hs, (listener_tracks_bridges hs).2.1⟩

/-- `Close`, waiting for the second bridge, can come back. -/
theorem close_ends_bridges_two :
    twoBridgesAfter.map Listener.closers = some [⟨[1, 0], .waiting 1 [0]⟩] ∧
    ∃ s, twoBridgesAfter = some s ∧ ∃ more s', runAll (Listener.step true) s more = some s' ∧
      s'.closers[0]? = some ⟨[1, 0], .next []⟩ := by
  have hclosers : twoBridgesAfter.map Listener.closers = some [⟨[1, 0], .waiting 1 [0]⟩] := rfl
  obtain ⟨s, hs⟩ := Option.isSome_iff_exists.mp (rfl : twoBridgesAfter.isSome = true)
  refine ⟨hclosers, s, hs, ?_⟩
  rw [hs] at hclosers
  refine (close_ends_bridges hs).2.1 0 ⟨[1, 0], .waiting 1 [0]⟩ ?_
  rw [Option.some.inj hclosers]
  rfl

/-- Up to the first deactivation, and then a height that ends the second session too. -/
def twoSessionsOver : List (ListenerAction Unit) := twoBridges.take 10 ++ [.poll 25]

/-- The first is deactivated, and the second is by its next tick. -/
theorem bridges_expire_alone_two : ∃ (s : Listener Unit) (b : Bridged Unit),
    runAll (Listener.step true) {} twoSessionsOver = some s ∧
      s.bridges.map (fun b ↦ b.state.active) = [false, true] ∧ s.bridges[1]? = some b ∧
      (∀ b ∈ s.bridges, b.state.active = false → ∃ endHeight height,
        b.endHeight = some endHeight ∧ height ∈ s.polled ∧ endHeight ≤ height) ∧
      ∃ b', runAll (Listener.step true) s [.move 1 .tick, .move 1 .deactivate] =
          some { s with bridges := s.bridges.set 1 b' } ∧
        b'.state.active = false ∧
        b'.state.pending .watcher = some (some (.sentinel .bridgeSessionExpired)) := by
  have hrun : ∃ (s : Listener Unit) (b : Bridged Unit),
      runAll (Listener.step true) {} twoSessionsOver = some s ∧
        s.bridges.map (fun b ↦ b.state.active) = [false, true] ∧ s.bridges[1]? = some b ∧
        b.watch = .ticking ∧ b.endHeight = some 20 ∧ 20 ≤ s.height :=
    ⟨_, _, rfl, rfl, rfl, rfl, rfl, by decide⟩
  obtain ⟨s, b, hs, hactive, here, hwatch, hend, hle⟩ := hrun
  obtain ⟨hretired, hexpire⟩ := bridges_expire_alone hs
  exact ⟨s, b, hs, hactive, here, hretired, hexpire 1 b 20 here hwatch hend hle⟩

end Closed

end PocketAp.Transport
