import PocketAp.Websockets.Expiry

/-!
# Supplier frames at expiry

The comment at the watcher says that supplier frames still in flight drain out to the client,
`src/transport/ws.go:232–234`. But `Shutdown` waits for nobody, `src/websockets/bridge.go:141–189`:
its body sends the client's close frame while the routing loop is still at it, and from there on
the socket takes nothing. So a frame that is in flight when the processor is deactivated gets
through if the routing loop has the turns it needs before that, and frames get through on every
schedule only if none in flight validates.
-/

namespace PocketAp.Websockets

open PocketAp.Base PocketAp.Domain PocketAp.Relay

variable {σ : Type} (p : FrameProcessor σ)

/-- A supplier frame that the processor can find valid. -/
def Validates (f : Frame) : Prop := ∃ g, Image p .endpoint f g

/-- By the time the client has its close frame, every supplier frame that was queued in `s₁` and
validates has been written to it, each in its place. -/
def DrainedSince (s₁ s : State σ) : Prop :=
  (s.conn .client).closeFrame.isSome = true →
    ∀ (i : Nat) (f : Frame), (s₁.queued .endpoint)[i]? = some f → Validates p f →
      ∃ g, (s.conn .client).accepted[i]? = some g ∧ Image p .endpoint f g

/-- Supplier frames on the channel or in the routing loop's hands. -/
def State.inFlight (s : State σ) : List Frame :=
  s.router.hand .endpoint ++ onChannel .endpoint s.msgChan

/-- Nothing has gone wrong: `Shutdown` has not begun, the routing loop is at work, the watcher
waits for the expiry and the client's socket is open. -/
structure Healthy (s : State σ) : Prop where
  idle : s.once = .idle
  works : s.router.Works
  waiting : s.watcher = .waiting
  takes : (s.conn .client).isOpen = true

/-- A step after which the client gets no more frames: one fails, or the body of `Shutdown`
sends the client's close frame. -/
inductive CutsOff (s : State σ) : Action σ → Prop where
  | failing (a : Action σ) (h : Failing p s a) : CutsOff s a
  | closing (code : Int) (text : String) (h : s.once = .running (.sendClose .client code text)) :
      CutsOff s (.body true)

/-! ### Turns of the routing loop -/

/-- The routing loop takes a frame, has it processed, or writes it. -/
def Action.routes : Action σ → Bool
  | .take => true
  | .process => true
  | .write none => true
  | _ => false

/-- Turns the routing loop needs for messages in this order until it has written so many
supplier frames. -/
def turnsFor : Nat → List Message → Nat
  | 0, _ => 0
  | _ + 1, [] => 0
  | n + 1, m :: ms => 3 + turnsFor (if m.source = .endpoint then n else n + 1) ms

/-- The message the routing loop is busy with, and how many turns it has spent on it. -/
def Router.busyWith : Router → List Message × Nat
  | .routing m => ([m], 1)
  | .writing m _ => ([m], 2)
  | _ => ([], 0)

/-- Turns the routing loop needs until it has written so many more supplier frames. -/
def State.turnsFor (s : State σ) (n : Nat) : Nat :=
  Websockets.turnsFor n (s.router.busyWith.1 ++ s.msgChan) - s.router.busyWith.2

/-- Turns the routing loop needs for the supplier frames in flight. -/
def State.turnsDue (s : State σ) : Nat := s.turnsFor s.inFlight.length

private theorem turnsFor_append {n : Nat} {ms : List Message} (m : Message)
    (h : n ≤ (onChannel .endpoint ms).length) : turnsFor n (ms ++ [m]) = turnsFor n ms := by
  induction ms generalizing n with
  | nil =>
    cases n with
    | zero => rfl
    | succ n => simp [onChannel] at h
  | cons m' ms ih =>
    cases n with
    | zero => rfl
    | succ n =>
      simp only [List.cons_append, turnsFor, Nat.add_left_cancel_iff]
      apply ih
      by_cases hm : m'.source = .endpoint
      · simpa [onChannel, hm] using h
      · simpa [onChannel, hm] using h

variable {p}

/-- The messages the routing loop still has to deal with. -/
private def State.messages (s : State σ) : List Message := s.router.busyWith.1 ++ s.msgChan

/-- A routing loop at work has the frames in flight before it. -/
private theorem inFlight_of_works {s : State σ} (h : s.router.Works) :
    s.inFlight = onChannel .endpoint s.messages := by
  unfold State.inFlight State.messages
  cases hr : s.router with
  | selecting => rfl
  | routing m =>
    by_cases hm : m.source = .endpoint <;> simp [Router.hand, Router.busyWith, onChannel, hm]
  | writing m payload =>
    by_cases hm : m.source = .endpoint <;> simp [Router.hand, Router.busyWith, onChannel, hm]
  | calling m err returns => simp [hr, Router.Works] at h
  | returned => simp [hr, Router.Works] at h

/-- The supplier's first `n` frames are written or before the routing loop. -/
private def Covered (n : Nat) (s : State σ) : Prop :=
  n ≤ (s.conn .client).accepted.length + (onChannel .endpoint s.messages).length

/-- Turns until the supplier's first `n` frames are written. -/
private def State.turnsUntil (s : State σ) (n : Nat) : Nat :=
  s.turnsFor (n - (s.conn .client).accepted.length)

/-- They are the turns for the messages before the routing loop, less those already spent. -/
private theorem turnsUntil_eq (s : State σ) (n : Nat) : s.turnsUntil n =
    turnsFor (n - (s.conn .client).accepted.length) s.messages - s.router.busyWith.2 := rfl

/-- A supplier frame that waits leaves at least the turns for the message before it. -/
private theorem turnsFor_cons {n : Nat} (h : 0 < n) (m : Message) (ms : List Message) :
    turnsFor n (m :: ms) = 3 + turnsFor (if m.source = .endpoint then n - 1 else n) ms := by
  cases n with
  | zero => cases h
  | succ n => rfl

/-- While a frame waits there is a message with turns due. -/
private theorem three_le_turnsFor {n : Nat} {s : State σ} (h : Covered n s)
    (hlt : (s.conn .client).accepted.length < n) :
    3 ≤ turnsFor (n - (s.conn .client).accepted.length) s.messages := by
  unfold Covered at h
  cases hms : s.messages with
  | nil =>
    rw [hms] at h
    simp only [onChannel, List.filter_nil, List.map_nil, List.length_nil] at h
    omega
  | cons m ms =>
    rw [turnsFor_cons (by omega)]
    omega

/-- The third turn ends with the message. -/
private theorem spent_le_two (r : Router) : r.busyWith.2 ≤ 2 := by
  cases r <;> simp [Router.busyWith]

/-- The turns still due and those taken add up while a frame waits. -/
private structure Advances (n : Nat) (s : State σ) (a : Action σ) (s' : State σ) : Prop where
  covered : Covered n s'
  turns : (s.conn .client).accepted.length < n →
    s'.turnsUntil n + a.routes.toNat = s.turnsUntil n

/-- A step that is no turn of the routing loop. -/
private theorem Advances.of_same {n : Nat} {s s' : State σ} {a : Action σ} (h : Covered n s)
    (hroutes : a.routes = false) (hbusy : s'.router.busyWith = s.router.busyWith)
    (hchan : s'.msgChan = s.msgChan)
    (hacc : (s'.conn .client).accepted = (s.conn .client).accepted) : Advances n s a s' where
  covered := by
    unfold Covered State.messages
    rw [hbusy, hchan, hacc]
    exact h
  turns _ := by
    simp [State.turnsUntil, State.turnsFor, hbusy, hchan, hacc, hroutes]

/-- A turn after which the routing loop is still busy with the message. -/
private theorem Advances.of_turn {n : Nat} {s s' : State σ} {a : Action σ} (h : Covered n s)
    (hroutes : a.routes = true) (hmsgs : s'.messages = s.messages)
    (hspent : s'.router.busyWith.2 = s.router.busyWith.2 + 1)
    (hacc : (s'.conn .client).accepted = (s.conn .client).accepted) : Advances n s a s' where
  covered := by
    unfold Covered
    rw [hmsgs, hacc]
    exact h
  turns hlt := by
    have hthree := three_le_turnsFor h hlt
    have htwo := spent_le_two s'.router
    rw [turnsUntil_eq, turnsUntil_eq, hmsgs, hacc, hroutes, Bool.toNat_true]
    omega

private theorem advances_written {n : Nat} {s : State σ} {m : Message} {payload : Bytes}
    (h : Covered n s) (writing : s.router = .writing m payload) :
    Advances n s (.write none) { s with
      conn := Function.update s.conn m.source.other { s.conn m.source.other with
        accepted := (s.conn m.source.other).accepted ++ [⟨m.frame.messageType, payload⟩] }
      router := .selecting } := by
  simp only [Covered, State.messages, writing, Router.busyWith] at h
  cases hm : m.source with
  | endpoint =>
    constructor
    · simp [onChannel, hm] at h
      simp [Covered, State.messages, Router.busyWith, onChannel, Source.other]
      omega
    · intro hlt
      simp only [State.turnsUntil, State.turnsFor, writing, Router.busyWith, Source.other,
        Function.update_self, List.length_append, List.length_singleton, List.nil_append,
        List.cons_append]
      rw [turnsFor_cons (by omega), if_pos hm, Nat.sub_sub]
      simp only [Action.routes, Bool.toNat_true]
      omega
  | client =>
    have hconn (c : Connection) : Function.update s.conn .endpoint c .client = s.conn .client :=
      Function.update_of_ne (by decide) _ _
    constructor
    · simp [onChannel, hm] at h
      simpa [Covered, State.messages, Router.busyWith, onChannel, Source.other, hconn] using h
    · intro hlt
      simp only [State.turnsUntil, State.turnsFor, writing, Router.busyWith, Source.other, hconn,
        List.nil_append, List.cons_append]
      rw [turnsFor_cons (by omega), if_neg (by simp [hm])]
      simp only [Action.routes, Bool.toNat_true]
      omega

private theorem advances_step {n : Nat} {s s' : State σ} {a : Action σ} (h : Covered n s)
    (hf : ¬ Failing p s a) (hs : step p s a = some s') : Advances n s a s' := by
  cases step_cases hs with
  | take m rest selecting chan =>
    exact .of_turn h rfl (by simp [State.messages, Router.busyWith, selecting, chan])
      (by rw [selecting]; rfl) rfl
  | processed m payload w routing answer =>
    exact .of_turn h rfl (by simp [State.messages, Router.busyWith, routing])
      (by rw [routing]; rfl) rfl
  | written m payload writing takes => exact advances_written h writing
  | enqueue src f holding room =>
    unfold Covered State.messages at h
    constructor
    · simp only [Covered, State.messages, onChannel, List.filter_append, List.map_append,
        List.length_append] at h ⊢
      omega
    · intro _
      simp only [State.turnsUntil, State.turnsFor, Action.routes, Bool.toNat_false, Nat.add_zero,
        ← List.append_assoc]
      rw [turnsFor_append _ (by omega)]
  | refused m e w routing answer => exact absurd ⟨m, e, routing, by rw [answer]⟩ hf
  | panicked m value world busy => exact absurd trivial hf
  | unwritten m payload e writing => exact absurd trivial hf
  | read src result reading =>
    exact .of_same h rfl (by rw [State.readStep_router]) (s.readStep_msgChan src result)
      (readStep_accepted s src .client result)
  | stop selecting cancelled => exact .of_same h rfl (by rw [selecting]; rfl) rfl rfl
  | resume who err pending finished =>
    refine .of_same h rfl ?_ ?_ (by rw [State.resumed_conn])
    · cases who with
      | pump src => rfl
      | watcher => rfl
      | router =>
        -- The loop calls `Shutdown` with no frame before it.
        rcases State.pending_cases pending with ⟨src, hwho, -⟩ | ⟨m, returns, -, hr⟩ | ⟨hwho, -⟩
        · cases hwho
        · cases returns <;> simp [State.resumed, hr, Router.resumed, Router.busyWith]
        · cases hwho
    · cases who <;> rfl
  | body sent stage running =>
    exact .of_same h rfl (by rw [State.bodyStep_router]) (s.bodyStep_msgChan sent stage)
      (bodyStep_accepted s sent stage .client)
  | abandon src f holding cancelled => exact .of_same h rfl rfl rfl rfl
  | deactivate waiting => exact .of_same h rfl rfl rfl rfl
  | begin who err pending idle => exact .of_same h rfl rfl rfl rfl
  | shutdown err idle => exact .of_same h rfl rfl rfl rfl
  | cancelParent => exact .of_same h rfl rfl rfl rfl
  | elsewhere world => exact .of_same h rfl rfl rfl rfl

/-- Turns are due exactly as long as a frame waits. -/
private theorem turnsUntil_eq_zero_iff {n : Nat} {s : State σ} (h : Covered n s) :
    s.turnsUntil n = 0 ↔ n ≤ (s.conn .client).accepted.length := by
  constructor
  · intro hzero
    by_contra hlt
    have hthree := three_le_turnsFor h (by omega)
    have htwo := spent_le_two s.router
    rw [turnsUntil_eq] at hzero
    omega
  · intro hle
    simp [State.turnsUntil, State.turnsFor, Nat.sub_eq_zero_of_le hle, turnsFor]

/-- What was queued or accepted stays so. -/
private theorem grows_step {s s' : State σ} {a : Action σ} (src : Source)
    (hs : step p s a = some s') :
    s.queued src <+: s'.queued src ∧ (s.conn src).accepted <+: (s'.conn src).accepted := by
  have hsame : s.queued src <+: s.queued src ∧
      (s.conn src).accepted <+: (s.conn src).accepted := ⟨List.prefix_refl _, List.prefix_refl _⟩
  cases step_cases hs with
  | read x result reading =>
    rw [State.readStep_queued, readStep_accepted]
    exact hsame
  | enqueue x f holding room =>
    refine ⟨?_, List.prefix_refl _⟩
    by_cases hx : src = x
    · subst hx
      simp
    · simp [Function.update_of_ne hx]
  | written m payload writing takes =>
    refine ⟨List.prefix_refl _, ?_⟩
    by_cases hx : src = m.source.other
    · subst hx
      simp
    · simp [Function.update_of_ne hx]
  | resume who err pending finished =>
    rw [State.resumed_queued, State.resumed_conn]
    exact hsame
  | body sent stage running =>
    rw [State.bodyStep_queued, bodyStep_accepted]
    exact hsame
  | _ => exact hsame

private theorem grows_run {s s' : State σ} {actions : List (Action σ)} (src : Source)
    (h : runAll (step p) s actions = some s') :
    s.queued src <+: s'.queued src ∧ (s.conn src).accepted <+: (s'.conn src).accepted := by
  have hkeep (t : State σ) (a : Action σ) (t' : State σ)
      (ht : s.queued src <+: t.queued src ∧ (s.conn src).accepted <+: (t.conn src).accepted)
      (hs : step p t a = some t') :
      s.queued src <+: t'.queued src ∧ (s.conn src).accepted <+: (t'.conn src).accepted := by
    obtain ⟨hq, ha⟩ := grows_step src hs
    exact ⟨ht.1.trans hq, ht.2.trans ha⟩
  exact invariant_of_step hkeep ⟨List.prefix_refl _, List.prefix_refl _⟩ h

/-- While no frame fails, the first `n` are written as soon as the loop has had its turns. -/
private theorem written_iff_turns {n : Nat} {s s' : State σ} {actions : List (Action σ)}
    (h : Covered n s) (hall : AllSteps (step p) (fun s a ↦ ¬ Failing p s a) s actions)
    (hrun : runAll (step p) s actions = some s') :
    n ≤ (s'.conn .client).accepted.length ↔ s.turnsUntil n ≤ actions.countP Action.routes := by
  induction actions generalizing s with
  | nil =>
    cases hrun
    rw [List.countP_nil, Nat.le_zero, turnsUntil_eq_zero_iff h]
  | cons a actions ih =>
    obtain ⟨s₁, hstep, hrest⟩ := runAll_cons hrun
    obtain ⟨hf, hall⟩ := hall.cons hstep
    have hadv := advances_step h hf hstep
    by_cases hle : n ≤ (s.conn .client).accepted.length
    · have hgrown := (grows_run .client hrun).2.length_le
      have hzero := (turnsUntil_eq_zero_iff h).mpr hle
      constructor <;> intro <;> omega
    · have hturns := hadv.turns (by omega)
      rw [ih hadv.covered hall hrest, List.countP_cons]
      cases hr : a.routes <;> simp [hr] at hturns ⊢ <;> omega

/-! ### After the close frame -/

/-- A socket that takes no frames never does again, whatever `Shutdown` has still to do. -/
private theorem closed_step {s s' : State σ} {a : Action σ} {src : Source}
    (h : (s.conn src).isOpen = false) (hs : step p s a = some s') :
    (s'.conn src).isOpen = false ∧ (s'.conn src).accepted = (s.conn src).accepted := by
  have hsend (c : Connection) (hc : c.isOpen = false) (frame : Int × String) :
      c.sendClose frame = c := by
    simp [Connection.sendClose, hc]
  cases step_cases hs with
  | read x result reading =>
    refine ⟨?_, readStep_accepted s x src result⟩
    cases result with
    | frame f => exact h
    | panicked => exact h
    | failed e closeInfo reply =>
      by_cases hx : src = x
      · subst hx
        have hinfo (info : Int × String) :
            ({ s.conn src with closeInfo := info } : Connection).isOpen = false := h
        cases closeInfo <;> cases reply <;>
          simp [State.readStep, hsend _ h, hsend _ (hinfo _), h, hinfo]
      · simpa [State.readStep, Function.update_of_ne hx] using h
  | written m payload writing takes =>
    have hx : src ≠ m.source.other := by
      rintro rfl
      rw [h] at takes
      cases takes
    simp [Function.update_of_ne hx, h]
  | body sent stage running =>
    refine ⟨?_, bodyStep_accepted s sent stage src⟩
    cases stage with
    | cancel err => exact h
    | askEndpoint err =>
      simp only [State.bodyStep]
      split <;> exact h
    | askClient err => exact h
    | sendClose peer code text =>
      by_cases hx : src = peer
      · subst hx
        cases sent <;> simp [State.bodyStep, hsend _ h, h]
      · simpa [State.bodyStep, Function.update_of_ne hx] using h
    | closeSocket peer code text =>
      by_cases hx : src = peer
      · subst hx
        simp [State.bodyStep, Connection.isOpen]
      · simpa [State.bodyStep, Function.update_of_ne hx] using h
    | closeDone => exact h
  | resume who err pending finished =>
    rw [State.resumed_conn]
    exact ⟨h, rfl⟩
  | _ => exact ⟨h, rfl⟩

/-- What the client has accepted when it is cut off is all it will ever accept. -/
private theorem accepted_of_cutsOff {s s' : State σ} {a : Action σ} {rest : List (Action σ)}
    (hshut : Shut s) (ha : CutsOff p s a) (h : runAll (step p) s (a :: rest) = some s') :
    (s'.conn .client).accepted = (s.conn .client).accepted := by
  cases ha with
  | failing _ hf => exact accepted_of_failing hshut hf h .client
  | closing code text running =>
    obtain ⟨s₁, hstep, hrest⟩ := runAll_cons h
    -- The body's step leaves the socket with a close frame on it.
    have hclosed : (s₁.conn .client).isOpen = false ∧
        (s₁.conn .client).accepted = (s.conn .client).accepted := by
      cases step_cases hstep with
      | body sent stage running' =>
        rw [running] at running'
        cases running'
        refine ⟨?_, bodyStep_accepted s true _ .client⟩
        simp only [State.bodyStep, if_true, Function.update_self, Connection.sendClose]
        split
        · simp [Connection.isOpen]
        · next ho => simpa using ho
    have hkeep (t : State σ) (b : Action σ) (t' : State σ)
        (ht : (t.conn .client).isOpen = false ∧
          (t.conn .client).accepted = (s.conn .client).accepted)
        (hb : step p t b = some t') : (t'.conn .client).isOpen = false ∧
          (t'.conn .client).accepted = (s.conn .client).accepted := by
      obtain ⟨ho, hacc⟩ := closed_step ht.1 hb
      exact ⟨ho, hacc.trans ht.2⟩
    exact (invariant_of_step hkeep hclosed hrest).2

/-! ### Whole runs -/

/-- A frame queued early has been written once its place among the accepted frames is taken. -/
private theorem written_at {s₁ s₂ : State σ} {actions : List (Action σ)} (h : Sound p s₂)
    (hrun : runAll (step p) s₁ actions = some s₂) {i : Nat} {f : Frame}
    (hf : (s₁.queued .endpoint)[i]? = some f) (hi : i < (s₂.conn .client).accepted.length) :
    ∃ g, (s₂.conn .client).accepted[i]? = some g ∧ Image p .endpoint f g := by
  have himages : List.Forall₂ (Image p .endpoint)
      ((s₂.queued .endpoint).take (s₂.conn .client).accepted.length)
      (s₂.conn .client).accepted := (h.routed .endpoint).images
  have hqueued : (s₂.queued .endpoint)[i]? = some f := by
    obtain ⟨rest, hrest⟩ := (grows_run .endpoint hrun).1
    rw [← hrest, List.getElem?_append_left (List.getElem?_eq_some_iff.mp hf).1, hf]
  refine forall₂_getElem? himages ?_
  rw [List.getElem?_take_of_lt hi, hqueued]

/-- Once as many frames have been accepted as were queued, those have been drained. -/
private theorem drained_of_le {s₁ s₂ s : State σ} {actions : List (Action σ)} (h : Sound p s₂)
    (hrun : runAll (step p) s₁ actions = some s₂)
    (hacc : (s.conn .client).accepted = (s₂.conn .client).accepted)
    (hle : (s₁.queued .endpoint).length ≤ (s₂.conn .client).accepted.length) :
    DrainedSince p s₁ s := by
  intro _ i f hf _
  rw [hacc]
  have hi := (List.getElem?_eq_some_iff.mp hf).1
  exact written_at h hrun hf (by omega)

/-- Before `Shutdown` is through, the frames in flight are those queued and not yet accepted. -/
private theorem inFlight_eq {s : State σ} (h : Sound p s) (hlive : s.once ≠ .finished) :
    s.inFlight = (s.queued .endpoint).drop (s.conn .client).accepted.length :=
  (h.routed .endpoint).onTheWay hlive

private theorem length_queued {s : State σ} (h : Sound p s) (hlive : s.once ≠ .finished) :
    (s.queued .endpoint).length = (s.conn .client).accepted.length + s.inFlight.length := by
  have hle := (h.routed .endpoint).accepted_le
  simp only [Source.other] at hle
  rw [inFlight_eq h hlive, List.length_drop]
  omega

/-- A place that is not accepted yet has its frame in flight. -/
private theorem mem_inFlight {s : State σ} (h : Sound p s) (hlive : s.once ≠ .finished) {i : Nat}
    {f : Frame} (hf : (s.queued .endpoint)[i]? = some f)
    (hi : (s.conn .client).accepted.length ≤ i) : f ∈ s.inFlight := by
  rw [inFlight_eq h hlive]
  refine List.mem_of_getElem? (i := i - (s.conn .client).accepted.length) ?_
  rw [List.getElem?_drop, Nat.add_sub_cancel' hi, hf]

/-- If the frames in flight validate, draining them takes as many accepted frames as were
queued. -/
private theorem le_of_drained {s₁ s : State σ} (h : Sound p s₁) (hlive : s₁.once ≠ .finished)
    (hvalid : ∀ f ∈ s₁.inFlight, Validates p f)
    (hclosed : (s.conn .client).closeFrame.isSome = true) (hdrained : DrainedSince p s₁ s)
    (hgrown : (s₁.conn .client).accepted.length ≤ (s.conn .client).accepted.length) :
    (s₁.queued .endpoint).length ≤ (s.conn .client).accepted.length := by
  by_contra hlt
  -- The last frame queued is still in flight, so it had to be drained too.
  have hlast : (s₁.queued .endpoint).length - 1 < (s₁.queued .endpoint).length := by omega
  have hf := List.getElem?_eq_getElem hlast
  obtain ⟨g, hg, -⟩ := hdrained hclosed _ _ hf (hvalid _ (mem_inFlight h hlive hf (by omega)))
  have := (List.getElem?_eq_some_iff.mp hg).1
  omega

/-- The watcher's `Shutdown` from a healthy bridge, with nobody in between. -/
private theorem straight_run {s : State σ} (h : Healthy s) (p : FrameProcessor σ) : ∃ s',
    runAll (step p) s plainExpiry = some s' ∧
    (s'.conn .client).closeFrame.isSome = true ∧
    (s'.conn .client).accepted = (s.conn .client).accepted := by
  have hopen := h.takes
  by_cases hcode : (s.conn .endpoint).closeInfo.1 = 0
  · simp [plainExpiry, runAll, step, h.waiting, h.idle, State.pending, State.bodyStep, hcode,
      Connection.sendClose, hopen]
  · simp [plainExpiry, runAll, step, h.waiting, h.idle, State.pending, State.bodyStep, hcode,
      Connection.sendClose, hopen]

variable (p) in
/-- Supplier frames in flight when the processor of a healthy bridge is deactivated. Those that
validate reach the client on every schedule on which the watcher closes the bridge undisturbed
exactly if there are none. In a run they do if the routing loop has the turns it needs for the
frames in flight before a frame fails or the client's close frame goes out, and if all of them
validate, only then. -/
theorem expiry_drains (w : σ) (pre : List (Action σ)) (s₁ : State σ)
    (hpre : runAll (step p) { world := w } pre = some s₁) (hhealthy : Healthy s₁) :
    ((∀ mid rest s,
        runAll (step p) s₁ (.deactivate :: (mid ++ .begin .watcher :: rest)) = some s →
        AllSteps (step p) (fun s a ↦ undisturbed p s a = true) s₁
          (.deactivate :: (mid ++ .begin .watcher :: rest)) →
        DrainedSince p s₁ s) ↔
      ∀ f ∈ s₁.inFlight, ¬ Validates p f) ∧
    ∀ mid a rest s₂ s, runAll (step p) s₁ (.deactivate :: mid) = some s₂ →
      AllSteps (step p) (fun s a ↦ ¬ Failing p s a) s₁ (.deactivate :: mid) → CutsOff p s₂ a →
      runAll (step p) s₂ (a :: rest) = some s → (s.conn .client).closeFrame.isSome = true →
      (s₁.turnsDue ≤ mid.countP Action.routes → DrainedSince p s₁ s) ∧
        ((∀ f ∈ s₁.inFlight, Validates p f) → DrainedSince p s₁ s →
          s₁.turnsDue ≤ mid.countP Action.routes) := by
  have hsound : Sound p s₁ := invariant_of_step (fun _ _ _ ↦ sound_step) (sound_start w) hpre
  have hlive : s₁.once ≠ .finished := by
    rw [hhealthy.idle]
    exact nofun
  refine ⟨⟨fun h f hf hvalid ↦ ?_, fun hnone mid rest s hrun _ _ i f hf hvalid ↦ ?_⟩,
    fun mid a rest s₂ s hmid hall hcut hrest hclosed ↦ ?_⟩
  · -- Nobody takes a turn on the watcher's way to the close frame.
    obtain ⟨s, hrun, hclosed, hacc⟩ := straight_run hhealthy p
    have hcalm : AllSteps (step p) (fun s a ↦ undisturbed p s a = true) s₁ plainExpiry :=
      allSteps_of_forall (by simp [plainExpiry, undisturbed]) s₁
    rw [inFlight_eq hsound hlive] at hf
    obtain ⟨i, hi⟩ := List.getElem?_of_mem hf
    rw [List.getElem?_drop] at hi
    obtain ⟨g, hg, -⟩ := h [] _ s hrun hcalm hclosed _ f hi hvalid
    rw [hacc] at hg
    have := (List.getElem?_eq_some_iff.mp hg).1
    omega
  · have hsound' : Sound p s := invariant_of_step (fun _ _ _ ↦ sound_step) hsound hrun
    have hgrown := (grows_run .client hrun).2.length_le
    by_cases hi : i < (s₁.conn .client).accepted.length
    · exact written_at hsound' hrun hf (by omega)
    · exact absurd hvalid (hnone f (mem_inFlight hsound hlive hf (by omega)))
  · have hsound₂ : Sound p s₂ := invariant_of_step (fun _ _ _ ↦ sound_step) hsound hmid
    have hacc := accepted_of_cutsOff hsound₂.shut hcut hrest
    have hqueued := length_queued hsound hlive
    have hcovered : Covered (s₁.queued .endpoint).length s₁ := by
      unfold Covered
      rw [← inFlight_of_works hhealthy.works, hqueued]
    have hdue : s₁.turnsUntil (s₁.queued .endpoint).length = s₁.turnsDue := by
      unfold State.turnsUntil State.turnsDue
      rw [hqueued, Nat.add_sub_cancel_left]
    have hturns : (s₁.queued .endpoint).length ≤ (s₂.conn .client).accepted.length ↔
        s₁.turnsDue ≤ mid.countP Action.routes := by
      rw [written_iff_turns hcovered hall hmid, hdue]
      simp [Action.routes]
    refine ⟨fun hle ↦ drained_of_le hsound₂ hmid hacc (hturns.mpr hle), fun hvalid hdrained ↦ ?_⟩
    have hgrown := (grows_run .client hmid).2.length_le
    rw [← hturns, ← hacc]
    exact le_of_drained hsound hlive hvalid hclosed hdrained (by rw [hacc]; exact hgrown)

/-- Two supplier frames, the first in the routing loop's hands when the processor is deactivated. -/
def framesWaiting : List (Action Unit) :=
  [.read .endpoint (.frame ⟨1, [7]⟩), .enqueue .endpoint, .read .endpoint (.frame ⟨1, [8]⟩),
    .enqueue .endpoint, .take]

/-- The routing loop writes the first one before `Shutdown` begins, and the second one while its
body is on the way to the close frame. -/
def writtenInTime : List (Action Unit) :=
  [.process, .write none, .begin .watcher, .body true, .take, .body true, .process, .body true,
    .write none]

/-- Two frames in flight that the routing loop writes in time, as it would not on every
schedule. -/
theorem expiry_drains_inTime : ∃ s₁ s₂ s,
    runAll (step echoProcessor) { world := () } framesWaiting = some s₁ ∧ s₁.turnsDue = 5 ∧
      runAll (step echoProcessor) s₁ (.deactivate :: writtenInTime) = some s₂ ∧
      runAll (step echoProcessor) s₂ [.body true] = some s ∧
      (s.conn .client).accepted = [⟨1, [7]⟩, ⟨1, [8]⟩] ∧
      (s.conn .client).closeFrame = some (1012, "session ended, please reconnect") ∧
      DrainedSince echoProcessor s₁ s ∧
      ∃ mid rest s', runAll (step echoProcessor) s₁
          (.deactivate :: (mid ++ .begin .watcher :: rest)) = some s' ∧
        AllSteps (step echoProcessor) (fun s a ↦ undisturbed echoProcessor s a = true) s₁
          (.deactivate :: (mid ++ .begin .watcher :: rest)) ∧
        ¬ DrainedSince echoProcessor s₁ s' := by
  have hrun : ∃ s₁ s₂ s,
      runAll (step echoProcessor) { world := () } framesWaiting = some s₁ ∧ Healthy s₁ ∧
      s₁.inFlight = [⟨1, [7]⟩, ⟨1, [8]⟩] ∧
      s₁.turnsDue = 5 ∧ runAll (step echoProcessor) s₁ (.deactivate :: writtenInTime) = some s₂ ∧
      AllSteps (step echoProcessor) (fun s a ↦ ¬ Failing echoProcessor s a) s₁
        (.deactivate :: writtenInTime) ∧
      s₂.once = .running (.sendClose .client 1012 "session ended, please reconnect") ∧
      runAll (step echoProcessor) s₂ [.body true] = some s ∧
      (s.conn .client).accepted = [⟨1, [7]⟩, ⟨1, [8]⟩] ∧
      (s.conn .client).closeFrame = some (1012, "session ended, please reconnect") :=
    ⟨_, _, _, rfl, ⟨rfl, trivial, rfl, rfl⟩, rfl, rfl, rfl, by decide, by decide, rfl, rfl,
      by decide⟩
  obtain ⟨s₁, s₂, s, hpre, hhealthy, hwaiting, hdue, hmid, hall, hstage, hclose, hacc, hframe⟩ :=
    hrun
  obtain ⟨halways, hturns⟩ := expiry_drains echoProcessor () framesWaiting s₁ hpre hhealthy
  obtain ⟨hdrains, -⟩ := hturns writtenInTime (.body true) [] s₂ s hmid hall (.closing _ _ hstage)
    hclose (by rw [hframe]; rfl)
  refine ⟨s₁, s₂, s, hpre, hdue, hmid, hclose, hacc, hframe, hdrains (by rw [hdue]; decide), ?_⟩
  -- The first frame in flight validates, so some schedule loses it.
  by_contra hnever
  have hfirst := halways.mp fun mid rest s' hs' hcalm ↦ by
    by_contra hlost
    exact hnever ⟨mid, rest, s', hs', hcalm, hlost⟩
  exact hfirst ⟨1, [7]⟩ (by rw [hwaiting]; simp) ⟨⟨1, [7]⟩, rfl, (), rfl⟩

/-- A supplier frame is on the channel when the watcher deactivates the processor. -/
def frameWaiting : List (Action Unit) :=
  [.read .endpoint (.frame ⟨1, [7]⟩), .enqueue .endpoint]

/-- A frame in flight that is lost although nothing goes wrong. -/
theorem frameWaiting_lost : ∃ s₁ s,
    runAll (step echoProcessor) { world := () } frameWaiting = some s₁ ∧
      runAll (step echoProcessor) s₁ plainExpiry = some s ∧
      AllSteps (step echoProcessor) (fun s a ↦ undisturbed echoProcessor s a = true)
        { world := () } (frameWaiting ++ plainExpiry) ∧
      (s.conn .client).closeFrame = some (1012, "session ended, please reconnect") ∧
      ¬ DrainedSince echoProcessor s₁ s := by
  refine ⟨_, _, rfl, rfl, by decide, by decide, ?_⟩
  intro h
  obtain ⟨g, hg, -⟩ := h (by decide) 0 ⟨1, [7]⟩ rfl ⟨⟨1, [7]⟩, rfl, (), rfl⟩
  cases hg

end PocketAp.Websockets
