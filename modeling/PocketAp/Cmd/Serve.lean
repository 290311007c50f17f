import PocketAp.Base.Shared

/-!
# The life of the process

`src/cmd/pocket-ap/main.go:410–453`, with `Serve` and `Close` of the listeners
(`src/transport/http.go:56–100`, `src/transport/ws.go:73–116`) and of the admin endpoint
(`src/health/health.go:165–199`). A front is a listener or the admin endpoint. Each has a
goroutine in `Serve` and a second one in `ListenAndServe`; `runServe` waits for the signal,
closes the fronts one after another within ten seconds and waits for every `Serve`.

The fronts, `runServe`, the signal and the deadline interleave freely. A select with two cases
ready takes either. `inFlight` counts the requests `http.Server.Shutdown` waits for; a
connection that became a WebSocket is not one of them, and `PocketAp.Transport.Listener` says
how `Close` ends those. Log lines are left out.
-/

namespace PocketAp.Cmd

open PocketAp.Base

/-! ### One front -/

/-- Which `Serve` a front runs; a WebSocket listener may lack its prepare function. -/
inductive FrontKind where
  | http
  | ws (prepared : Bool)
  | admin
deriving DecidableEq, Repr

/-- Name under which `ListenAndServe` runs. `src/transport/http.go:81`,
`src/transport/ws.go:94`, `src/health/health.go:180`. -/
def FrontKind.work : FrontKind → String
  | .http => "transport.http.listen"
  | .ws _ => "transport.ws.listen"
  | .admin => "health.listen"

/-- How `ListenAndServe` ends. -/
inductive ListenEnd where
  | serverClosed
  | failed (msg : String)
  | panicked (value : String)
deriving DecidableEq, Repr

/-- Errors `Serve` meets. -/
inductive ServeErr where
  | serverClosed
  | noPrepareFunc
  | failed (msg : String)
  | panic (work value : String)
deriving DecidableEq, Repr

/-- A panic becomes an error that wraps `ErrPanic`. `src/internal/safego/safego.go:102–109`. -/
def Safego.call (work : String) : ListenEnd → ServeErr
  | .serverClosed => .serverClosed
  | .failed msg => .failed msg
  | .panicked value => .panic work value

/-- How `Serve` came back: out of its own `Close`, with an error it met, or by a panic that
`Recover` stopped. -/
inductive Served where
  | drained
  | ended (err : ServeErr)
  | panicked
deriving DecidableEq, Repr

/-- What `Serve` returns: a closed server is no error. `src/transport/http.go:87–91`. -/
def Served.error : Served → Option ServeErr
  | .ended .serverClosed => none
  | .ended err => some err
  | _ => none

/-- `Serve` came back without being asked to. -/
def Served.Failed (how : Served) : Prop := how.error.isSome = true ∨ how = .panicked

/-- Place of the goroutine that runs `Serve`. -/
inductive ServePhase where
  | unborn
  | selecting
  | closing
  | returned (how : Served)
deriving DecidableEq, Repr

/-- The goroutine still counts in the wait group. -/
def ServePhase.running : ServePhase → Bool
  | .returned _ => false
  | _ => true

/-- Place of the goroutine that runs `ListenAndServe`, with what it sent on `errCh`. -/
inductive ListenPhase where
  | unborn
  | listening
  | sent (err : ServeErr)
deriving DecidableEq, Repr

/-- A front. `srv` says that the server was built and `shutdown` that `Shutdown` was called on
it; `late` records that `runServe` found no server to close. -/
structure Front where
  kind : FrontKind
  srv : Bool := false
  serve : ServePhase := .unborn
  listen : ListenPhase := .unborn
  shutdown : Bool := false
  inFlight : Nat := 0
  late : Bool := false
deriving DecidableEq, Repr

/-- What happens at a front. -/
inductive FrontMove where
  | begin
  | accept
  | finish
  | ended (how : ListenEnd)
  | takeErr
  | takeDone
  | drained
  | panics
deriving DecidableEq, Repr

/-- `Serve` up to its select. `src/transport/ws.go:74–94`. -/
def Front.begin (f : Front) : Front :=
  if f.kind = .ws false then { f with serve := .returned (.ended .noPrepareFunc) }
  else { f with srv := true, serve := .selecting, listen := .listening }

/-- `src/transport/http.go:56–100`. A server that was built takes requests until `Shutdown`, on
connections that are open also after `ListenAndServe` failed. `ErrServerClosed` comes only after
`Shutdown`; the `Close` inside `Serve` has no deadline. -/
def Front.move (ctxDone : Bool) (f : Front) : FrontMove → Option Front
  | .begin => if f.serve = .unborn then some f.begin else none
  | .accept =>
    if f.srv = true ∧ f.shutdown = false then
      some { f with inFlight := f.inFlight + 1 }
    else none
  | .finish => if 0 < f.inFlight then some { f with inFlight := f.inFlight - 1 } else none
  | .ended how =>
    if f.listen = .listening ∧ (how = .serverClosed → f.shutdown = true) then
      some { f with listen := .sent (Safego.call f.kind.work how) }
    else none
  | .takeErr =>
    match f.serve, f.listen with
    | .selecting, .sent err => some { f with serve := .returned (.ended err) }
    | _, _ => none
  | .takeDone =>
    if f.serve = .selecting ∧ ctxDone = true then
      some { f with serve := .closing, shutdown := true }
    else none
  | .drained =>
    if f.serve = .closing ∧ f.inFlight = 0 then some { f with serve := .returned .drained }
    else none
  | .panics =>
    if f.serve.running = true then some { f with serve := .returned .panicked } else none

/-- What a front counts for in the wait group. -/
def Front.claim (f : Front) : Nat := if f.serve.running then 1 else 0

/-! ### The process -/

/-- Place of `runServe`. -/
inductive MainPhase where
  | waiting
  | closing (k : Nat)
  | shutting (k : Nat)
  | joining
  | returned
deriving DecidableEq, Repr

/-- `expired` says that the ten seconds are over. -/
structure Process where
  fronts : List Front
  wg : Nat
  ctxDone : Bool := false
  expired : Bool := false
  main : MainPhase := .waiting
deriving DecidableEq, Repr

/-- What happens in the process. -/
inductive ServeAct where
  | signal
  | deadline
  | front (i : Nat) (m : FrontMove)
  | main
deriving DecidableEq, Repr

namespace Process

/-- Every front counts in the wait group before `runServe` waits.
`src/cmd/pocket-ap/main.go:410–436`. -/
def start (kinds : List FrontKind) : Process where
  fronts := kinds.map fun kind ↦ { kind }
  wg := kinds.length

/-- `src/cmd/pocket-ap/main.go:440–452`, with `Close` as `src/transport/http.go:95–100` has it:
nothing to do before the server was built, else until no request is left or the context is
over. -/
def mainStep (p : Process) : Option Process :=
  match p.main with
  | .waiting => if p.ctxDone then some { p with main := .closing 0 } else none
  | .closing k =>
    match p.fronts[k]? with
    | none => some { p with main := .joining }
    | some f =>
      if f.srv then
        some { p with fronts := p.fronts.set k { f with shutdown := true }, main := .shutting k }
      else
        some { p with fronts := p.fronts.set k { f with late := true }, main := .closing (k + 1) }
  | .shutting k =>
    match p.fronts[k]? with
    | none => none
    | some f =>
      if f.inFlight = 0 ∨ p.expired = true then some { p with main := .closing (k + 1) } else none
  | .joining => if p.wg = 0 then some { p with main := .returned } else none
  | .returned => none

/-- The deadline runs from the signal on; a `Serve` that comes back calls `wg.Done`. -/
def step (p : Process) : ServeAct → Option Process
  | .signal => if p.ctxDone then none else some { p with ctxDone := true }
  | .deadline =>
    if p.main = .waiting ∨ p.expired = true then none else some { p with expired := true }
  | .front i m =>
    match p.fronts[i]? with
    | none => none
    | some f =>
      match f.move p.ctxDone m with
      | none => none
      | some f' =>
        some { p with fronts := p.fronts.set i f', wg := p.wg - (f.claim - f'.claim) }
  | .main => p.mainStep

/-- What a step of the process can be. -/
inductive Stepped (p : Process) : ServeAct → Process → Prop where
  | signal (before : p.ctxDone = false) : p.Stepped .signal { p with ctxDone := true }
  | deadline (left : p.main ≠ .waiting) (before : p.expired = false) :
    p.Stepped .deadline { p with expired := true }
  | front {i : Nat} {m : FrontMove} {f f' : Front} (here : p.fronts[i]? = some f)
    (moved : f.move p.ctxDone m = some f') :
    p.Stepped (.front i m)
      { p with fronts := p.fronts.set i f', wg := p.wg - (f.claim - f'.claim) }
  | leave (waits : p.main = .waiting) (done : p.ctxDone = true) :
    p.Stepped .main { p with main := .closing 0 }
  | ask {k : Nat} {f : Front} (stands : p.main = .closing k) (here : p.fronts[k]? = some f)
    (built : f.srv = true) :
    p.Stepped .main
      { p with fronts := p.fronts.set k { f with shutdown := true }, main := .shutting k }
  | skip {k : Nat} {f : Front} (stands : p.main = .closing k) (here : p.fronts[k]? = some f)
    (unbuilt : f.srv = false) :
    p.Stepped .main
      { p with fronts := p.fronts.set k { f with late := true }, main := .closing (k + 1) }
  | asked {k : Nat} {f : Front} (stands : p.main = .shutting k) (here : p.fronts[k]? = some f)
    (idle : f.inFlight = 0 ∨ p.expired = true) :
    p.Stepped .main { p with main := .closing (k + 1) }
  | join {k : Nat} (stands : p.main = .closing k) (last : p.fronts[k]? = none) :
    p.Stepped .main { p with main := .joining }
  | leaves (stands : p.main = .joining) (done : p.wg = 0) :
    p.Stepped .main { p with main := .returned }

private theorem mainStep_cases {p p' : Process} (h : p.mainStep = some p') :
    p.Stepped .main p' := by
  unfold mainStep at h
  split at h
  · next waits =>
    split at h
    · next done =>
      cases h
      exact .leave waits done
    · cases h
  · next k stands =>
    split at h
    · next last =>
      cases h
      exact .join stands last
    · next f here =>
      split at h
      · next built =>
        cases h
        exact .ask stands here built
      · next unbuilt =>
        cases h
        exact .skip stands here (Bool.eq_false_iff.mpr unbuilt)
  · next k stands =>
    split at h
    · cases h
    · next f here =>
      split at h
      · next idle =>
        cases h
        exact .asked stands here idle
      · cases h
  · next stands =>
    split at h
    · next done =>
      cases h
      exact .leaves stands done
    · cases h
  · cases h

/-- The process moves in one of these ways. -/
theorem step_cases {p p' : Process} {a : ServeAct} (h : p.step a = some p') : p.Stepped a p' := by
  cases a with
  | signal =>
    simp only [step] at h
    split at h
    · cases h
    · next before =>
      cases h
      exact .signal (Bool.eq_false_iff.mpr before)
  | deadline =>
    simp only [step] at h
    split at h
    · cases h
    · next before =>
      cases h
      exact .deadline (fun hw ↦ before (.inl hw))
        (Bool.eq_false_iff.mpr fun he ↦ before (.inr he))
  | front i m =>
    simp only [step] at h
    split at h
    · cases h
    · next f here =>
      split at h
      · cases h
      · next f' moved =>
        cases h
        exact .front here moved
  | main => exact mainStep_cases h

end Process

/-! ### What every step keeps -/

/-- A front `runServe` is through with. -/
def Front.Closed (expired : Bool) (f : Front) : Prop :=
  f.late = true ∨ (f.shutdown = true ∧ (f.inFlight = 0 ∨ expired = true))

/-- What holds at each place of `Serve`. A late front is shut down by its own `Serve` only, so
it never meets `ErrServerClosed`. -/
def Front.Placed (f : Front) : Prop :=
  match f.serve with
  | .unborn => f.srv = false
  | .selecting => f.srv = true ∧ (f.late = true → f.shutdown = false)
  | .closing => f.srv = true ∧ f.shutdown = true
  | .returned .drained => f.shutdown = true ∧ f.inFlight = 0
  | .returned (.ended .serverClosed) => f.shutdown = true ∧ f.late = false
  | .returned _ => True

/-- What holds of a front; `done` says that `runServe` is through with it. -/
structure Front.Sound (done : Prop) (expired : Bool) (f : Front) : Prop where
  placed : f.Placed
  sent : f.listen = .sent .serverClosed → f.shutdown = true
  unbuilt : f.srv = false → f.shutdown = false
  closed : done → f.Closed expired
  fresh : ¬ done → f.late = false

namespace Front

variable {done : Prop} {expired ctxDone : Bool} {f f' : Front} {m : FrontMove}

/-- What a move can be, with the fields it leaves alone. -/
inductive Moved (ctxDone : Bool) (f : Front) : FrontMove → Front → Prop where
  | refuse (new : f.serve = .unborn) (kind : f.kind = .ws false) :
    f.Moved ctxDone .begin { f with serve := .returned (.ended .noPrepareFunc) }
  | build (new : f.serve = .unborn) :
    f.Moved ctxDone .begin { f with srv := true, serve := .selecting, listen := .listening }
  | accept (built : f.srv = true) (opened : f.shutdown = false) :
    f.Moved ctxDone .accept { f with inFlight := f.inFlight + 1 }
  | finish (pending : 0 < f.inFlight) :
    f.Moved ctxDone .finish { f with inFlight := f.inFlight - 1 }
  | ended {how : ListenEnd} (listening : f.listen = .listening)
    (closed : how = .serverClosed → f.shutdown = true) :
    f.Moved ctxDone (.ended how) { f with listen := .sent (Safego.call f.kind.work how) }
  | takeErr {err : ServeErr} (selecting : f.serve = .selecting) (sent : f.listen = .sent err) :
    f.Moved ctxDone .takeErr { f with serve := .returned (.ended err) }
  | takeDone (selecting : f.serve = .selecting) (cancelled : ctxDone = true) :
    f.Moved ctxDone .takeDone { f with serve := .closing, shutdown := true }
  | drained (closing : f.serve = .closing) (empty : f.inFlight = 0) :
    f.Moved ctxDone .drained { f with serve := .returned .drained }
  | panics (running : f.serve.running = true) :
    f.Moved ctxDone .panics { f with serve := .returned .panicked }

/-- A front moves in one of these ways. -/
theorem move_cases (h : f.move ctxDone m = some f') : f.Moved ctxDone m f' := by
  cases m with
  | begin =>
    simp only [move] at h
    split at h
    · next new =>
      cases h
      unfold Front.begin
      split
      · next kind => exact .refuse new kind
      · exact .build new
    · cases h
  | takeErr =>
    simp only [move] at h
    split at h
    · next err selecting sent =>
      cases h
      exact .takeErr selecting sent
    · cases h
  | accept =>
    obtain ⟨⟨built, opened⟩, ⟨⟩⟩ := Option.ite_none_right_eq_some.mp h
    exact .accept built opened
  | finish =>
    obtain ⟨pending, ⟨⟩⟩ := Option.ite_none_right_eq_some.mp h
    exact .finish pending
  | ended how =>
    obtain ⟨⟨listening, closed⟩, ⟨⟩⟩ := Option.ite_none_right_eq_some.mp h
    exact .ended listening closed
  | takeDone =>
    obtain ⟨⟨selecting, cancelled⟩, ⟨⟩⟩ := Option.ite_none_right_eq_some.mp h
    exact .takeDone selecting cancelled
  | drained =>
    obtain ⟨⟨closing, empty⟩, ⟨⟩⟩ := Option.ite_none_right_eq_some.mp h
    exact .drained closing empty
  | panics =>
    obtain ⟨running, ⟨⟩⟩ := Option.ite_none_right_eq_some.mp h
    exact .panics running

private theorem Placed.of_eq {phase : ServePhase} (hp : f.Placed) (h : f.serve = phase) :
    { f with serve := phase }.Placed := by
  subst h
  exact hp

/-- Requests come only where `Shutdown` was not called. -/
private theorem Sound.accept (hs : f.Sound done expired) (opened : f.shutdown = false) :
    { f with inFlight := f.inFlight + 1 }.Sound done expired := by
  refine { hs with placed := ?_, closed := fun hd ↦ ?_ }
  · have hp := hs.placed
    simp only [Placed, opened] at hp ⊢
    split at hp <;> simp_all
  · rcases hs.closed hd with hl | ⟨hoff, -⟩
    · exact .inl hl
    · exact absurd hoff (by simp [opened])

private theorem Sound.finish (hs : f.Sound done expired) :
    { f with inFlight := f.inFlight - 1 }.Sound done expired := by
  refine { hs with placed := ?_, closed := fun hd ↦ ?_ }
  · have hp := hs.placed
    simp only [Placed] at hp ⊢
    split at hp <;> simp_all
  · rcases hs.closed hd with hl | ⟨hoff, hnone | he⟩
    · exact .inl hl
    · exact .inr ⟨hoff, .inl (by simp [hnone])⟩
    · exact .inr ⟨hoff, .inr he⟩

/-- A late `Serve` in its select was not shut down, so the error is not `ErrServerClosed`. -/
private theorem Sound.takeErr {err : ServeErr} (hs : f.Sound done expired)
    (selecting : f.serve = .selecting) (sent : f.listen = .sent err) :
    { f with serve := .returned (.ended err) }.Placed := by
  cases err with
  | serverClosed =>
    have hoff := hs.sent sent
    obtain ⟨-, hlate⟩ := hs.placed.of_eq selecting
    refine ⟨hoff, Bool.eq_false_iff.mpr fun hl ↦ ?_⟩
    exact Bool.eq_false_iff.mp (hlate hl) hoff
  | noPrepareFunc => trivial
  | failed msg => trivial
  | panic work value => trivial

private theorem Sound.move (hs : f.Sound done expired) (h : f.move ctxDone m = some f') :
    f'.Sound done expired := by
  cases move_cases h with
  | refuse new kind => exact { hs with placed := trivial }
  | build new =>
    have hsrv : f.srv = false := hs.placed.of_eq new
    exact { hs with
      placed := ⟨rfl, fun _ ↦ hs.unbuilt hsrv⟩
      sent := fun h ↦ by cases h
      unbuilt := fun h ↦ by cases h }
  | accept built opened => exact hs.accept opened
  | finish pending => exact hs.finish
  | @ended how listening closed =>
    refine { hs with sent := fun h ↦ ?_ }
    apply closed
    cases how with
    | serverClosed => rfl
    | failed msg => cases h
    | panicked value => cases h
  | takeErr selecting sent => exact { hs with placed := hs.takeErr selecting sent }
  | takeDone selecting cancelled =>
    obtain ⟨hsrv, -⟩ := hs.placed.of_eq selecting
    exact { hs with
      placed := ⟨hsrv, rfl⟩
      sent := fun _ ↦ rfl
      unbuilt := fun h ↦ absurd hsrv (by simpa using h)
      closed := fun hd ↦ (hs.closed hd).imp_right fun hc ↦ ⟨rfl, hc.2⟩ }
  | drained closing empty =>
    obtain ⟨-, hoff⟩ := hs.placed.of_eq closing
    exact { hs with placed := ⟨hoff, empty⟩ }
  | panics running => exact { hs with placed := trivial }

/-- `runServe` shuts down the server of a front it has not been through with. -/
theorem Sound.ask (hs : f.Sound done expired) (here : ¬ done) (built : f.srv = true) :
    { f with shutdown := true }.Sound done expired := by
  have hl := hs.fresh here
  refine { hs with
    placed := ?_
    sent := fun _ ↦ rfl
    unbuilt := fun h ↦ absurd built (by simpa using h)
    closed := fun hd ↦ absurd hd here }
  have hp := hs.placed
  simp only [Placed] at hp ⊢
  split at hp <;> simp_all

/-- `runServe` passes a front that has no server yet. -/
theorem Sound.skip (hs : f.Sound done expired) (unbuilt : f.srv = false) :
    { f with late := true }.Sound True expired := by
  have hoff := hs.unbuilt unbuilt
  refine { hs with
    placed := ?_
    closed := fun _ ↦ .inl rfl
    fresh := fun hd ↦ absurd trivial hd }
  have hp := hs.placed
  simp only [Placed] at hp ⊢
  split at hp <;> simp_all

private theorem Sound.expire (hs : f.Sound done expired) : f.Sound done true :=
  { hs with
    closed := fun hd ↦ (hs.closed hd).imp_right fun hc ↦ ⟨hc.1, .inr rfl⟩ }

private theorem shutdown_move (hoff : f.shutdown = true) (h : f.move ctxDone m = some f') :
    f'.shutdown = true := by
  cases move_cases h with
  | takeDone selecting cancelled => rfl
  | _ => exact hoff

private theorem claim_move (h : f.move ctxDone m = some f') : f'.claim ≤ f.claim := by
  cases move_cases h with
  | build new => simp [claim, new, ServePhase.running]
  | takeDone selecting cancelled => simp [claim, selecting, ServePhase.running]
  | accept built opened => exact Nat.le_refl _
  | finish pending => exact Nat.le_refl _
  | ended listening closed => exact Nat.le_refl _
  | refuse new kind => exact Nat.zero_le _
  | takeErr selecting sent => exact Nat.zero_le _
  | drained closing empty => exact Nat.zero_le _
  | panics running => exact Nat.zero_le _

end Front

/-- `runServe` is through with front `i`. -/
def MainPhase.Through (i : Nat) : MainPhase → Prop
  | .waiting => False
  | .closing k => i < k
  | .shutting k => i < k
  | .joining => True
  | .returned => True

namespace Process

variable {p p' : Process} {a : ServeAct}

/-- What holds of the process between any two steps. -/
structure Sound (p : Process) : Prop where
  each : ∀ (i : Nat) (f : Front), p.fronts[i]? = some f → f.Sound (p.main.Through i) p.expired
  counts : p.wg = (p.fronts.map Front.claim).sum
  signalled : p.main ≠ .waiting → p.ctxDone = true
  asked : ∀ k, p.main = .shutting k → ∃ f, p.fronts[k]? = some f ∧ f.shutdown = true
  joined : p.main = .returned → p.wg = 0

private theorem sound_start (kinds : List FrontKind) : (start kinds).Sound where
  each i f here := by
    simp only [start, List.getElem?_map, Option.map_eq_some_iff] at here
    obtain ⟨kind, -, rfl⟩ := here
    exact ⟨rfl, (fun h ↦ by cases h), fun _ ↦ rfl, fun h ↦ h.elim, fun _ ↦ rfl⟩
  counts := by
    simp [start, Front.claim, ServePhase.running, Function.comp_def]
  signalled h := absurd rfl h
  asked k h := by cases h
  joined h := by cases h

/-- The counter of the wait group follows the fronts. -/
private theorem Sound.front (hs : p.Sound) {i : Nat} {m : FrontMove} {f f' : Front}
    (here : p.fronts[i]? = some f) (moved : f.move p.ctxDone m = some f') :
    { p with fronts := p.fronts.set i f', wg := p.wg - (f.claim - f'.claim) }.Sound where
  each j g hj := by
    rcases getElem?_set_cases hj with ⟨rfl, rfl⟩ | ⟨-, hj⟩
    · exact (hs.each _ _ here).move moved
    · exact hs.each j g hj
  counts := by
    have hsum := sum_map_set here Front.claim f'
    have hle := Front.claim_move moved
    have hc := hs.counts
    simp only
    omega
  signalled := hs.signalled
  asked k hk := by
    obtain ⟨g, hg, hoff⟩ := hs.asked k hk
    by_cases hki : k = i
    · subst hki
      have hfg : f = g := Option.some.inj (here.symm.trans hg)
      subst hfg
      exact ⟨f', List.getElem?_set_self (List.getElem?_eq_some_iff.mp here).1,
        Front.shutdown_move hoff moved⟩
    · exact ⟨g, (List.getElem?_set_ne (Ne.symm hki)).trans hg, hoff⟩
  joined hr := by
    have h0 := hs.joined hr
    simp only
    omega

private theorem Sound.ask (hs : p.Sound) {k : Nat} {f : Front} (stands : p.main = .closing k)
    (here : p.fronts[k]? = some f) (built : f.srv = true) :
    { p with
      fronts := p.fronts.set k { f with shutdown := true }, main := .shutting k }.Sound where
  each j g hj := by
    have hthrough : p.main.Through j ↔ (MainPhase.shutting k).Through j := by rw [stands]; rfl
    rcases getElem?_set_cases hj with ⟨rfl, rfl⟩ | ⟨-, hj⟩
    · have hf := hs.each _ _ here
      rw [hthrough] at hf
      exact hf.ask (Nat.lt_irrefl j) built
    · have hg := hs.each j g hj
      rwa [hthrough] at hg
  counts := by
    have hsum := sum_map_set here Front.claim { f with shutdown := true }
    have hc := hs.counts
    simp only [Front.claim] at hsum hc ⊢
    omega
  signalled _ := hs.signalled (by simp [stands])
  asked j hj := by
    cases hj
    exact ⟨_, List.getElem?_set_self (List.getElem?_eq_some_iff.mp here).1, rfl⟩
  joined h := by cases h

private theorem through_succ {i k : Nat} (hik : i ≠ k) :
    i < k ↔ (MainPhase.closing (k + 1)).Through i := by
  simp only [MainPhase.Through]
  omega

private theorem Sound.skip (hs : p.Sound) {k : Nat} {f : Front} (stands : p.main = .closing k)
    (here : p.fronts[k]? = some f) (unbuilt : f.srv = false) :
    { p with
      fronts := p.fronts.set k { f with late := true }, main := .closing (k + 1) }.Sound where
  each j g hj := by
    rcases getElem?_set_cases hj with ⟨rfl, rfl⟩ | ⟨hjk, hj⟩
    · have hthrough : True ↔ (MainPhase.closing (j + 1)).Through j :=
        (iff_of_true trivial (Nat.lt_succ_self j))
      rw [← hthrough]
      exact (hs.each _ _ here).skip unbuilt
    · have hg := hs.each j g hj
      rw [stands] at hg
      rwa [← through_succ hjk]
  counts := by
    have hsum := sum_map_set here Front.claim { f with late := true }
    have hc := hs.counts
    simp only [Front.claim] at hsum hc ⊢
    omega
  signalled _ := hs.signalled (by simp [stands])
  asked j hj := by cases hj
  joined h := by cases h

private theorem Sound.asked_over (hs : p.Sound) {k : Nat} {f : Front}
    (stands : p.main = .shutting k) (here : p.fronts[k]? = some f)
    (idle : f.inFlight = 0 ∨ p.expired = true) : { p with main := .closing (k + 1) }.Sound where
  each j g hj := by
    have hg := hs.each j g hj
    rw [stands] at hg
    by_cases hjk : j = k
    · subst hjk
      obtain ⟨g', hg', hoff⟩ := hs.asked j stands
      have hgf : g = f := Option.some.inj (hj.symm.trans here)
      have hgg : g = g' := Option.some.inj (hj.symm.trans hg')
      subst hgf hgg
      exact { hg with
        closed := fun _ ↦ .inr ⟨hoff, idle⟩
        fresh := fun hn ↦ absurd (Nat.lt_succ_self j) hn }
    · rwa [← through_succ hjk]
  counts := hs.counts
  signalled _ := hs.signalled (by simp [stands])
  asked j hj := by cases hj
  joined h := by cases h

private theorem Sound.join (hs : p.Sound) {k : Nat} (stands : p.main = .closing k)
    (last : p.fronts[k]? = none) : { p with main := .joining }.Sound where
  each j g hj := by
    have hlen := List.getElem?_eq_none_iff.mp last
    obtain ⟨hlt, -⟩ := List.getElem?_eq_some_iff.mp hj
    have hthrough : p.main.Through j ↔ MainPhase.joining.Through j := by
      rw [stands]
      exact iff_of_true (Nat.lt_of_lt_of_le hlt hlen) trivial
    rw [← hthrough]
    exact hs.each j g hj
  counts := hs.counts
  signalled _ := hs.signalled (by simp [stands])
  asked j hj := by cases hj
  joined h := by cases h

/-- Every step keeps the process sound. -/
theorem sound_step (hs : p.Sound) (h : p.step a = some p') : p'.Sound := by
  cases step_cases h with
  | signal before => exact { hs with signalled := fun _ ↦ rfl }
  | deadline left before => exact { hs with each := fun i f here ↦ (hs.each i f here).expire }
  | front here moved => exact hs.front here moved
  | leave waits done =>
    have heach := hs.each
    rw [waits] at heach
    exact {
      each := fun i f here ↦ { heach i f here with
        closed := fun h ↦ absurd h (Nat.not_lt_zero i)
        fresh := fun _ ↦ (heach i f here).fresh id }
      counts := hs.counts
      signalled := fun _ ↦ done
      asked := fun k hk ↦ by cases hk
      joined := fun h ↦ by cases h }
  | ask stands here built => exact hs.ask stands here built
  | skip stands here unbuilt => exact hs.skip stands here unbuilt
  | asked stands here idle => exact hs.asked_over stands here idle
  | join stands last => exact hs.join stands last
  | leaves stands done =>
    have heach := hs.each
    rw [stands] at heach
    exact {
      each := heach
      counts := hs.counts
      signalled := fun _ ↦ hs.signalled (by simp [stands])
      asked := fun k hk ↦ by cases hk
      joined := fun _ ↦ done }

/-- After every run the process is sound. -/
theorem sound_run {kinds : List FrontKind} {acts : List ServeAct}
    (h : runAll step (start kinds) acts = some p) : p.Sound :=
  invariant_of_step (fun _ _ _ hs ha ↦ sound_step hs ha) (sound_start kinds) h

/-- The signal is not taken back. -/
theorem cancelled_run {acts : List ServeAct} (cancelled : p.ctxDone = true)
    (h : runAll step p acts = some p') : p'.ctxDone = true := by
  refine invariant_of_step (I := fun p ↦ p.ctxDone = true) (fun p a p' hc ha ↦ ?_) cancelled h
  cases step_cases ha with
  | signal before => rfl
  | _ => exact hc

/-- The counter is zero exactly when every `Serve` has come back. -/
theorem Sound.wg_eq_zero_iff (hs : p.Sound) :
    p.wg = 0 ↔ ∀ f ∈ p.fronts, ∃ how, f.serve = .returned how := by
  rw [hs.counts, List.sum_eq_zero_iff_forall_eq_nat]
  simp only [List.mem_map, forall_exists_index, and_imp, forall_apply_eq_imp_iff₂]
  refine forall₂_congr fun f _ ↦ ?_
  cases hf : f.serve <;> simp [Front.claim, hf, ServePhase.running]

end Process

/-! ### What is left when `runServe` returns -/

/-- A late front whose `Serve` came back neither drained nor from the closed server failed. -/
private theorem Front.Sound.failed_of_late {done : Prop} {expired : Bool} {f : Front}
    {how : Served} (hs : f.Sound done expired) (hf : f.serve = .returned how)
    (hd : how ≠ .drained) (hl : f.late = true) : how.Failed := by
  cases how with
  | drained => exact absurd rfl hd
  | panicked => exact .inr rfl
  | ended err =>
    cases err with
    | serverClosed =>
      obtain ⟨-, hn⟩ := hs.placed.of_eq hf
      exact absurd hl (Bool.eq_false_iff.mp hn)
    | noPrepareFunc => exact .inl rfl
    | failed msg => exact .inl rfl
    | panic work value => exact .inl rfl

/-- `runServe` returns only after the signal and after every `Serve`, however many listeners
failed before. It leaves a request behind only when the ten seconds were over, or at a front
that came up too late to be closed and whose `Serve` failed; never at one that `Serve` itself
closed, which the ten seconds do not bound. -/
theorem serve_returns_drained {kinds : List FrontKind} {acts : List ServeAct} {p : Process}
    (h : runAll Process.step (.start kinds) acts = some p) (returned : p.main = .returned) :
    p.ctxDone = true ∧ ∀ f ∈ p.fronts, ∃ how, f.serve = .returned how ∧
      (f.inFlight ≠ 0 → how ≠ .drained ∧
        (p.expired = true ∨ (f.late = true ∧ how.Failed))) := by
  have hs := Process.sound_run h
  refine ⟨hs.signalled (by simp [returned]), fun f hmem ↦ ?_⟩
  obtain ⟨how, hf⟩ := hs.wg_eq_zero_iff.mp (hs.joined returned) f hmem
  refine ⟨how, hf, fun hopen ↦ ?_⟩
  obtain ⟨i, here⟩ := List.mem_iff_getElem?.mp hmem
  have hsound := hs.each i f here
  have hd : how ≠ .drained := by
    rintro rfl
    exact hopen (hsound.placed.of_eq hf).2
  refine ⟨hd, ?_⟩
  have hthrough : p.main.Through i := by
    rw [returned]
    trivial
  rcases hsound.closed hthrough with hl | ⟨-, hnone | he⟩
  · exact .inr ⟨hl, hsound.failed_of_late hf hd hl⟩
  · exact absurd hnone hopen
  · exact .inl he

/-- A listener with one request that never ends and the admin endpoint, closed by the deadline. -/
def cutShort : List ServeAct :=
  [.front 0 .begin, .front 1 .begin, .front 0 .accept, .signal, .main, .main,
    .front 0 (.ended .serverClosed), .front 0 .takeErr, .deadline, .main, .main, .main, .main,
    .front 1 .takeDone, .front 1 .drained, .main]

/-- The process then. -/
def cutShortEnd : Option Process := runAll Process.step (.start [.http, .admin]) cutShort

/-- A front that is cut short does not claim to have drained. -/
theorem serve_returns_drained_cut : ∃ p, cutShortEnd = some p ∧ p.main = .returned ∧
    p.fronts.map (·.inFlight) = [1, 0] ∧ p.ctxDone = true ∧ ∀ f ∈ p.fronts, ∃ how,
      f.serve = .returned how ∧ (f.inFlight ≠ 0 → how ≠ .drained ∧
        (p.expired = true ∨ (f.late = true ∧ how.Failed))) := by
  obtain ⟨p, hp⟩ := Option.isSome_iff_exists.mp (by decide +kernel : cutShortEnd.isSome = true)
  have hfacts : cutShortEnd.map (fun p ↦ (p.main, p.fronts.map (·.inFlight))) =
      some (.returned, [1, 0]) := by decide +kernel
  rw [hp] at hfacts
  obtain ⟨hmain, hopen⟩ := Prod.mk.inj (Option.some.inj hfacts)
  exact ⟨p, hp, hmain, hopen, serve_returns_drained hp hmain⟩

/-! ### That `runServe` returns -/

/-- Turns `Serve` can still take. -/
def ServePhase.rank : ServePhase → Nat
  | .unborn => 4
  | .selecting => 2
  | .closing => 1
  | .returned _ => 0

/-- Turns `ListenAndServe` can still take. -/
def ListenPhase.rank : ListenPhase → Nat
  | .unborn => 2
  | .listening => 1
  | .sent _ => 0

/-- Steps a front can still take without a new request. -/
def Front.rank (f : Front) : Nat := f.serve.rank + f.listen.rank + f.inFlight

/-- Steps `runServe` can still take with `n` fronts. -/
def MainPhase.rank (n : Nat) : MainPhase → Nat
  | .waiting => 2 * n + 3
  | .closing k => 2 * (n - k) + 2
  | .shutting k => 2 * (n - k) + 1
  | .joining => 1
  | .returned => 0

/-- A request arrives. -/
def ServeAct.accepts : ServeAct → Bool
  | .front _ .accept => true
  | _ => false

/-- Steps that come by themselves: those of `runServe` and of each `Serve`, and the end of a
request. A signal, a deadline, an error and a panic may never come. -/
def ServeAct.due : ServeAct → Bool
  | .main => true
  | .front _ .begin => true
  | .front _ .finish => true
  | .front _ .takeErr => true
  | .front _ .takeDone => true
  | .front _ .drained => true
  | _ => false

private theorem Front.rank_move {ctxDone : Bool} {f f' : Front} {m : FrontMove}
    (h : f.move ctxDone m = some f') (hm : m ≠ .accept) : f'.rank < f.rank := by
  cases move_cases h with
  | accept built opened => exact absurd rfl hm
  | refuse new kind => simp [rank, new, ServePhase.rank]
  | build new =>
    simp only [rank, new, ServePhase.rank, ListenPhase.rank]
    omega
  | finish pending =>
    simp only [rank]
    omega
  | ended listening closed => simp [rank, listening, ListenPhase.rank]
  | takeErr selecting sent => simp [rank, selecting, ServePhase.rank]
  | takeDone selecting cancelled => simp [rank, selecting, ServePhase.rank]
  | drained closing empty => simp [rank, closing, ServePhase.rank]
  | panics running =>
    cases hf : f.serve with
    | returned how => simp [hf, ServePhase.running] at running
    | _ => simp [rank, hf, ServePhase.rank]

namespace Process

variable {p p' : Process} {a : ServeAct}

/-- Requests in flight anywhere. -/
def inFlight (p : Process) : Nat := (p.fronts.map Front.inFlight).sum

/-- Steps the process can still take without a new request. -/
def rank (p : Process) : Nat :=
  (p.fronts.map Front.rank).sum + p.main.rank p.fronts.length +
    (if p.ctxDone then 0 else 1) + (if p.expired then 0 else 1)

private theorem rank_step (ha : a.accepts = false) (h : p.step a = some p') :
    p'.rank < p.rank := by
  cases step_cases h with
  | signal before => simp [rank, before]
  | deadline left before => simp [rank, before]
  | @front i m f f' here moved =>
    have hsum := sum_map_set here Front.rank f'
    have hlt := Front.rank_move moved (fun hm ↦ by subst hm; cases ha)
    simp only [rank, List.length_set]
    omega
  | leave waits done =>
    simp only [rank, waits, MainPhase.rank]
    omega
  | @ask k f stands here built =>
    have hsum := sum_map_set here Front.rank { f with shutdown := true }
    simp only [rank, stands, MainPhase.rank, List.length_set, Front.rank] at hsum ⊢
    omega
  | @skip k f stands here unbuilt =>
    obtain ⟨hk, -⟩ := List.getElem?_eq_some_iff.mp here
    have hsum := sum_map_set here Front.rank { f with late := true }
    simp only [rank, stands, MainPhase.rank, List.length_set, Front.rank] at hsum ⊢
    omega
  | asked stands here idle =>
    obtain ⟨hk, -⟩ := List.getElem?_eq_some_iff.mp here
    simp only [rank, stands, MainPhase.rank]
    omega
  | join stands last =>
    simp only [rank, stands, MainPhase.rank]
    omega
  | leaves stands done =>
    simp only [rank, stands, MainPhase.rank]
    omega

private theorem sum_rank_le (fronts : List Front) :
    (fronts.map Front.rank).sum ≤ 6 * fronts.length + (fronts.map Front.inFlight).sum := by
  induction fronts with
  | nil => simp
  | cons f fronts ih =>
    have hserve : f.serve.rank ≤ 4 := by cases f.serve <;> simp [ServePhase.rank]
    have hlisten : f.listen.rank ≤ 2 := by cases f.listen <;> simp [ListenPhase.rank]
    simp only [List.map_cons, List.sum_cons, List.length_cons, Front.rank] at ih ⊢
    omega

private theorem rank_le (p : Process) : p.rank ≤ 8 * p.fronts.length + p.inFlight + 5 := by
  have hfronts := sum_rank_le p.fronts
  have hmain : p.main.rank p.fronts.length ≤ 2 * p.fronts.length + 3 := by
    cases p.main <;> simp only [MainPhase.rank] <;> omega
  simp only [rank, inFlight]
  split <;> split <;> omega

/-- Once the signal is there, some step is due until `runServe` has returned. -/
private theorem Sound.due (hs : p.Sound) (cancelled : p.ctxDone = true)
    (running : p.main ≠ .returned) : ∃ a : ServeAct, a.due = true ∧ (p.step a).isSome = true := by
  cases hmain : p.main with
  | returned => exact absurd hmain running
  | waiting => exact ⟨.main, rfl, by simp [step, mainStep, hmain, cancelled]⟩
  | closing k =>
    refine ⟨.main, rfl, ?_⟩
    cases here : p.fronts[k]? with
    | none => simp [step, mainStep, hmain, here]
    | some f => cases hsrv : f.srv <;> simp [step, mainStep, hmain, here, hsrv]
  | shutting k =>
    obtain ⟨f, here, -⟩ := hs.asked k hmain
    by_cases hidle : f.inFlight = 0
    · exact ⟨.main, rfl, by simp [step, mainStep, hmain, here, hidle]⟩
    · exact ⟨.front k .finish, rfl, by
        simp [step, here, Front.move, Nat.pos_of_ne_zero hidle]⟩
  | joining =>
    by_cases hwg : p.wg = 0
    · exact ⟨.main, rfl, by simp [step, mainStep, hmain, hwg]⟩
    · -- Some `Serve` has not come back; it waits for nothing but its own requests.
      have hout := mt hs.wg_eq_zero_iff.mpr hwg
      push Not at hout
      obtain ⟨f, hmem, hf⟩ := hout
      obtain ⟨i, here⟩ := List.mem_iff_getElem?.mp hmem
      cases hserve : f.serve with
      | returned how => exact absurd hserve (hf how)
      | unborn => exact ⟨.front i .begin, rfl, by simp [step, here, Front.move, hserve]⟩
      | selecting =>
        exact ⟨.front i .takeDone, rfl, by simp [step, here, Front.move, hserve, cancelled]⟩
      | closing =>
        by_cases hidle : f.inFlight = 0
        · exact ⟨.front i .drained, rfl, by simp [step, here, Front.move, hserve, hidle]⟩
        · exact ⟨.front i .finish, rfl, by
            simp [step, here, Front.move, Nat.pos_of_ne_zero hidle]⟩

end Process

/-- After the signal `runServe` comes back. Without new requests the process takes a bounded
number of steps, whatever fails or panics, and until `runServe` has returned it is never stuck:
a step of `runServe` or of a `Serve` or the end of a request is due. -/
theorem serve_exits {kinds : List FrontKind} {acts more : List ServeAct} {p q : Process}
    (h : runAll Process.step (.start kinds) acts = some p) (cancelled : p.ctxDone = true)
    (hm : ∀ a ∈ more, a.accepts = false) (hq : runAll Process.step p more = some q) :
    more.length ≤ 8 * p.fronts.length + p.inFlight + 5 ∧
      (q.main = .returned ∨ ∃ a : ServeAct, a.due = true ∧ (q.step a).isSome = true) := by
  have hbound : more.length + q.rank ≤ p.rank :=
    length_add_rank_le (fun _ _ _ ha hstep ↦ Process.rank_step ha hstep)
      (allSteps_of_forall (fun a ha _ ↦ hm a ha) p) hq
  have hle := p.rank_le
  refine ⟨by omega, ?_⟩
  by_cases hret : q.main = .returned
  · exact .inl hret
  · refine .inr (Process.Sound.due (Process.sound_run (runAll_trans h hq)) ?_ hret)
    exact Process.cancelled_run cancelled hq

/-- That run is within the bound. -/
theorem serve_exits_cut : ∃ p q,
    runAll Process.step (.start [.http, .admin]) (cutShort.take 4) = some p ∧
      runAll Process.step p (cutShort.drop 4) = some q ∧ p.ctxDone = true ∧ p.inFlight = 1 ∧
      (cutShort.drop 4).length ≤ 8 * p.fronts.length + p.inFlight + 5 ∧
      (q.main = .returned ∨ ∃ a : ServeAct, a.due = true ∧ (q.step a).isSome = true) := by
  obtain ⟨p, hp⟩ := Option.isSome_iff_exists.mp (by decide +kernel :
    (runAll Process.step (.start [.http, .admin]) (cutShort.take 4)).isSome = true)
  obtain ⟨q, hq⟩ := Option.isSome_iff_exists.mp (by decide +kernel : cutShortEnd.isSome = true)
  have hfacts : (runAll Process.step (.start [.http, .admin]) (cutShort.take 4)).map
      (fun p ↦ (p.ctxDone, p.inFlight)) = some (true, 1) := by decide +kernel
  rw [hp] at hfacts
  obtain ⟨hc, hopen⟩ := Prod.mk.inj (Option.some.inj hfacts)
  have hcut : runAll Process.step (.start [.http, .admin])
      (cutShort.take 4 ++ cutShort.drop 4) = some q := hq
  obtain ⟨p', hp', hrest⟩ := runAll_append hcut
  cases hp.symm.trans hp'
  exact ⟨p, q, hp, hrest, hc, hopen, serve_exits hp hc (by decide +kernel) hrest⟩

end PocketAp.Cmd
