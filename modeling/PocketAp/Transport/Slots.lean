import PocketAp.Base.Shared
import PocketAp.Transport.WS

/-!
# Connection slots

`src/websockets/limiter.go:45–84` and its only user, `src/transport/ws.go:119–190`. Handlers
share the counter `active`; a load, a compare-and-swap and a decrement are one step each, and
any other handler may move between them. The counter is an `int64` in the source: it stays
between 0 and `max` and never wraps.
-/

namespace PocketAp.Transport

open PocketAp.Base PocketAp.Domain PocketAp.Relay PocketAp.Websockets

/-- How a handler ends. -/
inductive Exit where
  | host
  | limit
  | header
  | prepare
  | bridge
  | closed
  | panicked
  deriving DecidableEq, Repr

/-- What a handler with a slot is at: the supplier lists, `prepare`, `StartBridge`, or an open
bridge. `src/transport/ws.go:146–189`. -/
inductive Serving where
  | reading
  | preparing
  | starting
  | live
  deriving DecidableEq, Repr

/-- Where a handler is; `swapping` holds the value it loaded, and `leaving` has the deferred
`Release` ahead. -/
inductive Phase where
  | arrived
  | loading
  | swapping (cur : Int)
  | serving (stage : Serving)
  | leaving (exit : Exit)
  | left (exit : Exit)
  deriving DecidableEq, Repr

/-- What happened to a slot. -/
inductive SlotEvent where
  | granted
  | released
  deriving DecidableEq, Repr

/-- A handler, and what it did to the counter so far; no code reads the latter. -/
structure Handler where
  phase : Phase := .arrived
  log : List SlotEvent := []
  deriving DecidableEq, Repr

/-- The parts of the handler's code between which others may move. -/
inductive HandlerMove where
  | check (allowed : Bool)
  | load
  | swap
  | serve (ok : Bool)
  | panics
  | release
  deriving DecidableEq, Repr

/-- Where a part of the handler that succeeds or fails leads. -/
def Serving.next : Serving → Bool → Phase
  | .reading, true => .serving .preparing
  | .reading, false => .leaving .header
  | .preparing, true => .serving .starting
  | .preparing, false => .leaving .prepare
  | .starting, true => .serving .live
  | .starting, false => .leaving .bridge
  | .live, _ => .leaving .closed

/-- One move of a handler over the counter. -/
def Handler.move (max active : Int) (h : Handler) : HandlerMove → Option (Int × Handler)
  | .check allowed =>
    match h.phase with
    | .arrived =>
      some (active, { h with phase := if allowed then .loading else .left .host })
    | _ => none
  | .load =>
    match h.phase with
    | .loading =>
      if max ≤ active then some (active, { h with phase := .left .limit })
      else some (active, { h with phase := .swapping active })
    | _ => none
  | .swap =>
    match h.phase with
    | .swapping cur =>
      if active = cur then some (cur + 1, ⟨.serving .reading, h.log ++ [.granted]⟩)
      else some (active, { h with phase := .loading })
    | _ => none
  | .serve ok =>
    match h.phase with
    | .serving stage => some (active, { h with phase := stage.next ok })
    | _ => none
  | .panics =>
    match h.phase with
    | .arrived => some (active, { h with phase := .left .panicked })
    | .serving _ => some (active, { h with phase := .leaving .panicked })
    | _ => none
  | .release =>
    match h.phase with
    | .leaving exit => some (active - 1, ⟨.left exit, h.log ++ [.released]⟩)
    | _ => none

/-- The slot is the handler's: granted and not given back. -/
def Handler.holds (h : Handler) : Bool := h.log.getLast? == some .granted

/-- What a handler did to the counter, by where it is. -/
def Handler.Settled (max : Int) (h : Handler) : Prop :=
  match h.phase with
  | .arrived => h.log = []
  | .loading => h.log = []
  | .swapping cur => h.log = [] ∧ cur < max
  | .serving _ => h.log = [.granted]
  | .leaving exit => h.log = [.granted] ∧ exit ≠ .host ∧ exit ≠ .limit
  | .left .host => h.log = []
  | .left .limit => h.log = []
  | .left .panicked => h.log = [] ∨ h.log = [.granted, .released]
  | .left _ => h.log = [.granted, .released]

/-- The cases of a move. -/
inductive Handler.Moved (max active : Int) (h : Handler) : HandlerMove → Int → Handler → Prop where
  | allowed (arrived : h.phase = .arrived) :
      Moved max active h (.check true) active { h with phase := .loading }
  | unknownHost (arrived : h.phase = .arrived) :
      Moved max active h (.check false) active { h with phase := .left .host }
  | full (loading : h.phase = .loading) (atCap : max ≤ active) :
      Moved max active h .load active { h with phase := .left .limit }
  | loaded (loading : h.phase = .loading) (below : active < max) :
      Moved max active h .load active { h with phase := .swapping active }
  | granted (swapping : h.phase = .swapping active) :
      Moved max active h .swap (active + 1) ⟨.serving .reading, h.log ++ [.granted]⟩
  | lost (cur : Int) (swapping : h.phase = .swapping cur) (changed : active ≠ cur) :
      Moved max active h .swap active { h with phase := .loading }
  | served (stage : Serving) (ok : Bool) (serving : h.phase = .serving stage) :
      Moved max active h (.serve ok) active { h with phase := stage.next ok }
  | panicsEarly (arrived : h.phase = .arrived) :
      Moved max active h .panics active { h with phase := .left .panicked }
  | panics (stage : Serving) (serving : h.phase = .serving stage) :
      Moved max active h .panics active { h with phase := .leaving .panicked }
  | released (exit : Exit) (leaving : h.phase = .leaving exit) :
      Moved max active h .release (active - 1) ⟨.left exit, h.log ++ [.released]⟩

section Moves

variable {max active active' : Int} {h h' : Handler} {m : HandlerMove}

/-- A handler moves in one of these ways. -/
theorem Handler.move_cases (hm : h.move max active m = some (active', h')) :
    h.Moved max active m active' h' := by
  cases m with
  | check ok =>
    simp only [Handler.move] at hm
    split at hm
    · next hp =>
      cases ok <;> cases hm
      · exact .unknownHost hp
      · exact .allowed hp
    · cases hm
  | load =>
    simp only [Handler.move] at hm
    split at hm
    · next hp =>
      split at hm
      · next hc =>
        cases hm
        exact .full hp hc
      · next hc =>
        cases hm
        exact .loaded hp (by omega)
    · cases hm
  | swap =>
    simp only [Handler.move] at hm
    split at hm
    · next cur hp =>
      split at hm
      · next hc =>
        cases hm
        subst hc
        exact .granted hp
      · next hc =>
        cases hm
        exact .lost cur hp hc
    · cases hm
  | serve ok =>
    simp only [Handler.move] at hm
    split at hm
    · next stage hp =>
      cases hm
      exact .served stage ok hp
    · cases hm
  | panics =>
    simp only [Handler.move] at hm
    split at hm
    · next hp =>
      cases hm
      exact .panicsEarly hp
    · next stage hp =>
      cases hm
      exact .panics stage hp
    · cases hm
  | release =>
    simp only [Handler.move] at hm
    split at hm
    · next exit hp =>
      cases hm
      exact .released exit hp
    · cases hm

/-- A handler that gave its slot back went some other way than by a refusal. -/
private theorem Handler.settled_left (max : Int) {exit : Exit} (hhost : exit ≠ .host)
    (hlimit : exit ≠ .limit) : Handler.Settled max ⟨.left exit, [.granted] ++ [.released]⟩ := by
  cases exit with
  | host => exact absurd rfl hhost
  | limit => exact absurd rfl hlimit
  | panicked => exact .inr rfl
  | _ => rfl

private theorem Handler.settled_move (hs : h.Settled max)
    (hm : h.move max active m = some (active', h')) : h'.Settled max := by
  unfold Handler.Settled at hs
  cases Handler.move_cases hm with
  | allowed arrived =>
    simp only [arrived] at hs
    exact hs
  | unknownHost arrived =>
    simp only [arrived] at hs
    exact hs
  | full loading atCap =>
    simp only [loading] at hs
    exact hs
  | loaded loading below =>
    simp only [loading] at hs
    exact ⟨hs, below⟩
  | granted swapping =>
    simp only [swapping] at hs
    simp only [Handler.Settled, hs.1, List.nil_append]
  | lost cur swapping changed =>
    simp only [swapping] at hs
    exact hs.1
  | served stage ok serving =>
    simp only [serving] at hs
    cases stage <;> cases ok
    all_goals first
      | exact hs
      | exact ⟨hs, nofun, nofun⟩
  | panicsEarly arrived =>
    simp only [arrived] at hs
    exact .inl hs
  | panics stage serving =>
    simp only [serving] at hs
    exact ⟨hs, nofun, nofun⟩
  | released exit leaving =>
    simp only [leaving] at hs
    obtain ⟨hlog, hhost, hlimit⟩ := hs
    rw [hlog]
    exact Handler.settled_left max hhost hlimit

/-- The counter moves as the handler's slot does. -/
theorem Handler.count_move (hs : h.Settled max) (hm : h.move max active m = some (active', h')) :
    active' = active - (if h.holds then 1 else 0) + (if h'.holds then 1 else 0) := by
  unfold Handler.Settled at hs
  cases Handler.move_cases hm with
  | granted swapping =>
    simp only [swapping] at hs
    simp [Handler.holds, hs.1]
  | released exit leaving =>
    simp only [leaving] at hs
    simp [Handler.holds, hs.1]
  | _ => simp [Handler.holds]

private theorem Handler.le_move (hle : active ≤ max) (hs : h.Settled max)
    (hm : h.move max active m = some (active', h')) : active' ≤ max := by
  unfold Handler.Settled at hs
  cases Handler.move_cases hm with
  | granted swapping =>
    simp only [swapping] at hs
    omega
  | released exit leaving => omega
  | _ => exact hle

end Moves

/-! ### Whole runs -/

/-- Handlers over a counter with a cap. -/
abbrev slotStep (max : Int) :
    Shared Int Handler → Turn Unit HandlerMove → Option (Shared Int Handler) :=
  Shared.step (fun _ _ ↦ {}) (fun active h ↦ h.move max active)

/-- Handlers keep within the limit. -/
theorem slots_stable (max : Int) :
    Shared.Stable (fun _ (_ : Unit) ↦ ({} : Handler)) (fun active h ↦ h.move max active)
      (fun active ↦ active ≤ max) (fun _ h ↦ h.Settled max) where
  arrives _ _ _ := rfl
  cell _ _ _ _ _ hle hs hm := Handler.le_move hle hs hm
  own _ _ _ _ _ _ hs hm := Handler.settled_move hs hm
  others _ _ _ _ _ _ _ _ hq _ := hq

/-- The counter is the number of handlers that hold a slot. -/
theorem slots_count {max : Int} (hmax : 0 ≤ max) {turns : List (Turn Unit HandlerMove)}
    {s : Shared Int Handler} (h : runAll (slotStep max) ⟨0, []⟩ turns = some s) :
    s.cell = s.procs.countP Handler.holds :=
  (slots_stable max).count_run (fun _ _ ↦ rfl) (fun _ _ _ _ _ ↦ Handler.count_move) hmax h

/-- The limiter as one handler sees it. -/
def slotLimiter (max : Int) : Limiter Int where
  acquire active := if max ≤ active then (false, active) else (true, active + 1)
  release active := active - 1

/-- Left alone, the retry loop is `acquire` of the limiter. -/
theorem acquire_uninterrupted (max : Int) (s : Shared Int Handler) (i : Nat) (log : List SlotEvent)
    (here : s.procs[i]? = some ⟨.loading, log⟩) :
    runAll (slotStep max) s
        (if max ≤ s.cell then [.move i .load] else [.move i .load, .move i .swap]) =
      some (match (slotLimiter max).acquire s.cell with
        | (false, active) => ⟨active, s.procs.set i ⟨.left .limit, log⟩⟩
        | (true, active) => ⟨active, s.procs.set i ⟨.serving .reading, log ++ [.granted]⟩⟩) := by
  obtain ⟨hi, hget⟩ := List.getElem?_eq_some_iff.mp here
  by_cases hc : max ≤ s.cell
  · simp [hc, runAll, slotStep, Shared.step, here, Handler.move, slotLimiter]
  · simp [hc, runAll, slotStep, Shared.step, Handler.move, slotLimiter, hi, hget]

/-! ### One handler -/

/-- Whether an event is the limiter's. -/
def WSEvent.isSlot {σ : Type} : WSEvent σ → Bool
  | .acquire _ => true
  | .release => true
  | _ => false

namespace WS

variable {π σ : Type} [GoLib] (ws : WS σ)

omit [GoLib] in
private theorem hide_live (prepared : Prepared σ) (schedule : List (Action σ)) :
    Exec.hide WSEvent.isSlot (live prepared schedule : Exec π σ (WSEvent σ) Unit) =
      live prepared schedule := by
  apply Exec.ext
  intro s
  simp only [Exec.hide, live, Prod.mk.injEq, and_true]
  rw [List.filter_eq_self]
  intro e he
  obtain ⟨a, -, rfl⟩ := List.mem_map.mp he
  rfl

private theorem hide_connect (order : String → RangeOrder) (req : Handshake σ)
    (schedule : List (Action σ)) :
    Exec.hide WSEvent.isSlot (ws.connect order req schedule : Exec π σ (WSEvent σ) Unit) =
      ws.connect order req schedule := by
  unfold connect
  rcases (takeSupplierPolicy order req.header).2 with e | suppliers
  · exact Exec.hide_emit _ _ rfl
  · simp only
    rw [Exec.hide_bind, Exec.hide_call _ _ _ (fun _ ↦ rfl)]
    congr 1
    funext prepared
    rcases prepared with e | prepared
    · exact Exec.hide_emit _ _ rfl
    · simp only
      rw [Exec.hide_bind, Exec.hide_mapEvents _ _ _ (fun _ ↦ rfl)]
      congr 1
      funext started
      rcases started with e | ⟨⟩
      · rfl
      · exact hide_live prepared schedule

/-- With a slot taken a handler leaves the limiter alone. -/
theorem connect_quiet (order : String → RangeOrder) (req : Handshake σ)
    (schedule : List (Action σ)) (s : σ) :
    ∀ e ∈ (ws.connect order req schedule : Exec π σ (WSEvent σ) Unit).events s,
      e.isSlot = false := by
  intro e he
  rw [← hide_connect] at he
  exact ((Exec.mem_events_hide _ _ _ _).mp he).2

/-- The handler around an arbitrary body, which may panic anywhere.
`src/transport/ws.go:124–140`. -/
def handling (req : Handshake σ) (body : Exec π σ (WSEvent σ) Unit) :
    Exec π σ (WSEvent σ) Unit :=
  if !ws.hosts.allows req.host then Exec.emit (.answer "host not allowed" 403)
  else do
    if ← ws.acquire then Exec.deferring ws.release .release body
    else Exec.emit (.answer "too many websocket connections" 503)

private theorem handle_eq_handling (order : String → RangeOrder) (req : Handshake σ)
    (schedule : List (Action σ)) :
    (ws.handle order req schedule : Exec π σ (WSEvent σ) Unit) =
      ws.handling req (ws.connect order req schedule) := rfl

/-- A handler that was granted a slot gives it back once, at the end, whether its body returns
or panics; any other asks for none or is refused. -/
theorem handling_slots (req : Handshake σ) {body : Exec π σ (WSEvent σ) Unit}
    (hbody : ∀ s, ∀ e ∈ body.events s, e.isSlot = false) (s : σ) :
    (ws.hosts.allows req.host = false ∧
      ((ws.handling req body).events s).filter WSEvent.isSlot = []) ∨
    ((ws.handling req body).events s).filter WSEvent.isSlot = [.acquire false] ∨
    ∃ s₁, ((ws.handling req body).events s).filter WSEvent.isSlot = [.acquire true, .release] ∧
      (ws.handling req body).after s = ws.release (body.after s₁) ∧
      (ws.handling req body).outcome s = body.outcome s₁ := by
  unfold handling
  by_cases hhost : ws.hosts.allows req.host = true
  · right
    simp only [hhost, Bool.not_true, Bool.false_eq_true, if_false]
    obtain ⟨granted, s₁, ha⟩ := @acquire_run π σ ws s
    cases granted with
    | false =>
      left
      rw [Exec.events, Exec.bind_run_ok ha]
      rfl
    | true =>
      right
      have hnone : (body.events s₁).filter WSEvent.isSlot = [] := by
        rw [List.filter_eq_nil_iff]
        intro e he
        simp [hbody s₁ e he]
      refine ⟨s₁, ?_, ?_, ?_⟩
      · rw [Exec.events, Exec.bind_run_ok ha]
        change ([WSEvent.acquire true] ++ (body.events s₁ ++ [WSEvent.release])).filter
          WSEvent.isSlot = _
        rw [List.filter_append, List.filter_append, hnone]
        rfl
      · rw [Exec.after, Exec.bind_run_ok ha]
        rfl
      · rw [Exec.outcome, Exec.bind_run_ok ha]
        rfl
  · left
    rw [Bool.not_eq_true] at hhost
    simp only [hhost, Bool.not_false, if_true, true_and]
    rfl

end WS

/-! ### All handlers -/

/-- The cap is kept and no slot is lost. -/
structure SlotsKept (max : Int) (s : Shared Int Handler) : Prop where
  bounded : 0 ≤ s.cell ∧ s.cell ≤ max
  counted : s.cell = s.procs.countP Handler.holds
  /-- A refusal leaves the counter and the others alone, and comes with all slots held. -/
  refused : ∀ i s', slotStep max s (.move i .load) = some s' →
    s'.procs[i]?.map Handler.phase = some (.left .limit) →
    s'.cell = s.cell ∧ (∀ j, j ≠ i → s'.procs[j]? = s.procs[j]?) ∧
      (s.procs.countP Handler.holds : Int) = max
  paired : ∀ h ∈ s.procs, h.log <+: [.granted, .released]
  /-- What a handler has done to the counter when it is gone, by the way it went. -/
  settled : ∀ h ∈ s.procs, ∀ exit, h.phase = .left exit →
    (exit = .host ∨ exit = .limit → h.log = []) ∧
    (exit = .panicked → h.log = [] ∨ h.log = [.granted, .released]) ∧
    (exit = .header ∨ exit = .prepare ∨ exit = .bridge ∨ exit = .closed →
      h.log = [.granted, .released])

private theorem Handler.Settled.paired {max : Int} {h : Handler} (hs : h.Settled max) :
    h.log <+: [.granted, .released] := by
  have hnil (hlog : h.log = []) : h.log <+: [.granted, .released] := by simp [hlog]
  have hone (hlog : h.log = [.granted]) : h.log <+: [.granted, .released] := by simp [hlog]
  have htwo (hlog : h.log = [.granted, .released]) : h.log <+: [.granted, .released] := by
    simp [hlog]
  unfold Handler.Settled at hs
  split at hs
  · exact hnil hs
  · exact hnil hs
  · exact hnil hs.1
  · exact hone hs
  · exact hone hs.1
  · exact hnil hs
  · exact hnil hs
  · rcases hs with hs | hs
    · exact hnil hs
    · exact htwo hs
  · exact htwo hs

private theorem Handler.Settled.exits {max : Int} {h : Handler} {exit : Exit}
    (hs : h.Settled max) (hleft : h.phase = .left exit) :
    (exit = .host ∨ exit = .limit → h.log = []) ∧
    (exit = .panicked → h.log = [] ∨ h.log = [.granted, .released]) ∧
    (exit = .header ∨ exit = .prepare ∨ exit = .bridge ∨ exit = .closed →
      h.log = [.granted, .released]) := by
  simp only [Handler.Settled, hleft] at hs
  cases exit <;> simp_all

private theorem refused_load {max : Int} {s s' : Shared Int Handler} {i : Nat}
    (hle : s.cell ≤ max) (hs : slotStep max s (.move i .load) = some s')
    (hleft : s'.procs[i]?.map Handler.phase = some (.left .limit)) :
    s'.cell = s.cell ∧ (∀ j, j ≠ i → s'.procs[j]? = s.procs[j]?) ∧ s.cell = max := by
  cases Shared.step_cases hs with
  | move i m h h' c here moved =>
    obtain ⟨hi, -⟩ := List.getElem?_eq_some_iff.mp here
    have hothers (j : Nat) (hj : j ≠ i) : (s.procs.set i h')[j]? = s.procs[j]? :=
      List.getElem?_set_ne (Ne.symm hj)
    have hphase : h'.phase = .left .limit := by simpa [hi] using hleft
    cases Handler.move_cases moved with
    | full loading atCap => exact ⟨rfl, hothers, by omega⟩
    | loaded loading below => cases hphase

/-- For any number of handlers in any order of steps the counter stays within the cap and is
the number of slots in use, and every exit of a handler gives back what it was granted, once.
The same is true of the handler as it stands in the source, whatever its body does. -/
theorem slots_never_leak {π σ : Type} [GoLib] (ws : WS σ) (max : Int) (hmax : 0 < max) :
    (∀ turns s, runAll (slotStep max) ⟨0, []⟩ turns = some s → SlotsKept max s) ∧
    (∀ order req schedule,
      (ws.handle order req schedule : Exec π σ (WSEvent σ) Unit) =
        ws.handling req (ws.connect order req schedule) ∧
      ∀ s, ∀ e ∈ (ws.connect order req schedule : Exec π σ (WSEvent σ) Unit).events s,
        e.isSlot = false) ∧
    ∀ req (body : Exec π σ (WSEvent σ) Unit), (∀ s, ∀ e ∈ body.events s, e.isSlot = false) →
      ∀ s,
      (ws.hosts.allows req.host = false ∧
        ((ws.handling req body).events s).filter WSEvent.isSlot = []) ∨
      ((ws.handling req body).events s).filter WSEvent.isSlot = [.acquire false] ∨
      ∃ s₁, ((ws.handling req body).events s).filter WSEvent.isSlot = [.acquire true, .release] ∧
        (ws.handling req body).after s = ws.release (body.after s₁) ∧
        (ws.handling req body).outcome s = body.outcome s₁ := by
  refine ⟨fun turns s h ↦ ?_, fun order req schedule ↦ ?_, fun req body hbody s ↦ ?_⟩
  · have hcount := slots_count (Int.le_of_lt hmax) h
    obtain ⟨hle, hsettled⟩ := (slots_stable max).run (Int.le_of_lt hmax) h
    constructor
    · exact ⟨by omega, hle⟩
    · exact hcount
    · intro i s' hs hleft
      obtain ⟨hcell, hothers, hfull⟩ := refused_load hle hs hleft
      exact ⟨hcell, hothers, by omega⟩
    · exact fun q hq ↦ (hsettled q hq).paired
    · exact fun q hq exit hleft ↦ (hsettled q hq).exits hleft
  · exact ⟨ws.handle_eq_handling order req schedule, ws.connect_quiet order req schedule⟩
  · exact ws.handling_slots req hbody s

/-- Two handlers load the same value, one of them has to try again, and a third is refused. -/
def threeHandlers : List (Turn Unit HandlerMove) :=
  [.arrive (), .arrive (), .arrive (), .move 0 (.check true), .move 1 (.check true),
    .move 0 .load, .move 1 .load, .move 0 .swap, .move 1 .swap, .move 1 .load, .move 1 .swap,
    .move 2 (.check true), .move 2 .load, .move 0 (.serve false), .move 0 .release,
    .move 1 .panics]

/-- Of three handlers one panicked and one was refused; the panicked one is leaving. -/
theorem slots_never_leak_threeHandlers : ∃ s,
    runAll (slotStep 2) ⟨0, []⟩ threeHandlers = some s ∧
    s.procs.map Handler.phase = [.left .header, .leaving .panicked, .left .limit] ∧
    s.cell = 1 ∧ SlotsKept 2 s := by
  let _ : GoLib := GoLib.plain
  refine ⟨_, rfl, rfl, rfl, ?_⟩
  exact (@slots_never_leak Empty Unit _ oneSlot 2 (by decide)).1 threeHandlers _ rfl

end PocketAp.Transport
