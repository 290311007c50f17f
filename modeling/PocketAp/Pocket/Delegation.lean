import PocketAp.Base.Machine
import PocketAp.Pocket.Signer

/-!
# Rings over several sessions

`src/pocket/signer.go:194–320`, with any number of concurrent calls of `SignRelay`,
`SignFrame` and `ServiceID` on one signer. Each access to a cache is a step, and so is each
answer of the node; the world an answer comes from is the action's, so the application
record may change at any time. A rollover is one step: it happens under a lock.

The ring cache is emptied as sessions go by, the application cache below it never is. So a
ring is built from whatever record was fetched first, unless the call that builds it missed
the application cache too. The log, the records' times and `highest` are ghosts; time is
counted in events.
-/

namespace PocketAp.Pocket.Signing

open PocketAp.Base PocketAp.Domain PocketAp.Relay

/-- An application record, and when it was fetched. -/
structure Record where
  app : Application
  fetchedAt : Nat
  deriving DecidableEq, Repr

/-- What a call is for: `ServiceID`, or signing a request. -/
inductive Job where
  | discover
  | sign (req : RelayRequest)
  deriving DecidableEq, Repr

/-- What happened: the node answered with a record, or a request was signed with a ring built
from a record, when `highest` was the highest session end height signed for until then,
together with the time it was first signed for. -/
inductive Event where
  | fetched (app : Application)
  | signed (height : Nat) (record : Record) (highest : Option (Nat × Nat))
  deriving DecidableEq, Repr

section Machine

variable [Shannon]

/-- How far a call has come; with a ring comes the record it was built from. -/
inductive Call where
  | idle
  | loading (job : Job)
  | fetching (job : Job)
  | storing (job : Job) (record : Record)
  | ready (req : RelayRequest) (record : Record)
  | rolled (req : RelayRequest) (record : Record)
  | building (req : RelayRequest) (record : Record)
  | keeping (req : RelayRequest) (record : Record) (ring : Shannon.Ring)
  | signing (req : RelayRequest) (record : Record) (ring : Shannon.Ring)
  | done

/-- The signer's caches, the calls, and the ghosts: when the cached record was fetched, and
what the cached rings were built from. -/
structure State where
  caches : Caches
  appFetchedAt : Nat
  ringRecord : RingCacheKey → Record
  calls : Nat → Call
  log : List Event
  highest : Option (Nat × Nat)

/-- A signer nobody has called yet. -/
def start : State :=
  ⟨Caches.fresh, 0, fun _ ↦ ⟨⟨"", [], []⟩, 0⟩, fun _ ↦ .idle, [], none⟩

/-- Steps of a call; `w` is the world that answers. -/
inductive Action (ω : Type) where
  | begin (i : Nat) (job : Job)
  | load (i : Nat)
  | fetch (i : Nat) (w : ω)
  | store (i : Nat)
  | roll (i : Nat)
  | lookup (i : Nat)
  | build (i : Nat) (w : ω)
  | keep (i : Nat)
  | sign (i : Nat) (w : ω)

/-- The session end height of a request. -/
def heightOf (req : RelayRequest) : Nat := sessionEndHeight req.sessionHeader

/-- `src/pocket/signer.go:249`. -/
def ringKey (req : RelayRequest) (record : Record) : RingCacheKey :=
  ⟨record.app.address, heightOf req⟩

/-- Where a call goes on when it has its record. -/
def Job.goOn (job : Job) (record : Record) : Call :=
  match job with
  | .discover => .done
  | .sign req => .ready req record

/-- The highest height signed for, after another signature. -/
def raise (highest : Option (Nat × Nat)) (height now : Nat) : Option (Nat × Nat) :=
  match highest with
  | none => some (height, now)
  | some (p, k) => if p < height then some (height, now) else some (p, k)

namespace State

/-- Call `i` goes on. -/
def goOn : State → Nat → Call → State :=
  Base.goOn State.calls fun s calls ↦ { s with calls := calls }

@[simp] private theorem goOn_caches (s : State) (i : Nat) (c : Call) :
    (s.goOn i c).caches = s.caches := rfl

/-- The node answered. -/
def fetched (s : State) (app : Application) : State := { s with log := s.log ++ [.fetched app] }

/-- `s.appCache.Store`. -/
def storeApp (s : State) (appAddr : String) (record : Record) : State :=
  { s with
    caches := { s.caches with
      appCache := Function.update s.caches.appCache appAddr (some record.app) }
    appFetchedAt := record.fetchedAt }

/-- `evictStaleRingsOnRollover`. -/
def roll (s : State) (height : Nat) : State :=
  { s with caches := s.caches.evictStaleRingsOnRollover height }

/-- `s.ringCache.LoadOrStore` when the key is absent. -/
def storeRing (s : State) (key : RingCacheKey) (record : Record) (ring : Shannon.Ring) : State :=
  { s with
    caches := { s.caches with ringCache := Function.update s.caches.ringCache key (some ring) }
    ringRecord := Function.update s.ringRecord key record }

/-- A request was signed. -/
def signed (s : State) (height : Nat) (record : Record) : State :=
  { s with
    log := s.log ++ [.signed height record s.highest]
    highest := raise s.highest height s.log.length }

@[simp] private theorem fetched_caches (s : State) (app : Application) :
    (s.fetched app).caches = s.caches := rfl

@[simp] private theorem storeApp_ringCache (s : State) (appAddr : String) (record : Record) :
    (s.storeApp appAddr record).caches.ringCache = s.caches.ringCache := rfl

@[simp] private theorem storeRing_ringCache (s : State) (key : RingCacheKey) (record : Record)
    (ring : Shannon.Ring) : (s.storeRing key record ring).caches.ringCache =
      Function.update s.caches.ringCache key (some ring) := rfl

@[simp] private theorem signed_caches (s : State) (height : Nat) (record : Record) :
    (s.signed height record).caches = s.caches := rfl

end State

variable {ω : Type} (c : Chain ω) (signer : Signer)

/-- One step of a call. -/
def step (s : State) : Action ω → Option State
  | .begin i job =>
    match s.calls i with
    | .idle => some (s.goOn i (.loading job))
    | _ => none
  | .load i =>
    match s.calls i with
    | .loading job =>
      match s.caches.appCache signer.appAddr with
      | some app => some (s.goOn i (job.goOn ⟨app, s.appFetchedAt⟩))
      | none => some (s.goOn i (.fetching job))
    | _ => none
  | .fetch i w =>
    match s.calls i with
    | .fetching job =>
      match (c.getApp signer.appAddr w).1 with
      | .error _ => some (s.goOn i .done)
      | .ok app => some ((s.fetched app).goOn i (.storing job ⟨app, s.log.length⟩))
    | _ => none
  | .store i =>
    match s.calls i with
    | .storing job record => some ((s.storeApp signer.appAddr record).goOn i (job.goOn record))
    | _ => none
  | .roll i =>
    match s.calls i with
    | .ready req record => some ((s.roll (heightOf req)).goOn i (.rolled req record))
    | _ => none
  | .lookup i =>
    match s.calls i with
    | .rolled req record =>
      match s.caches.ringCache (ringKey req record) with
      | some ring => some (s.goOn i (.signing req (s.ringRecord (ringKey req record)) ring))
      | none => some (s.goOn i (.building req record))
    | _ => none
  | .build i w =>
    match s.calls i with
    | .building req record =>
      match (buildRing c record.app (heightOf req) w).1 with
      | .error _ => some (s.goOn i .done)
      | .ok ring => some (s.goOn i (.keeping req record ring))
    | _ => none
  | .keep i =>
    match s.calls i with
    | .keeping req record ring =>
      match s.caches.ringCache (ringKey req record) with
      | some actual => some (s.goOn i (.signing req (s.ringRecord (ringKey req record)) actual))
      | none =>
        some ((s.storeRing (ringKey req record) record ring).goOn i (.signing req record ring))
    | _ => none
  | .sign i w =>
    match s.calls i with
    | .signing req record ring =>
      match (c.signOffChainWithRing signer.privateKeyHex req ring w).1 with
      | .error _ => some (s.goOn i .done)
      | .ok _ => some ((s.signed (heightOf req) record).goOn i .done)
    | _ => none

/-- What a step can do. -/
inductive Stepped (s : State) : Action ω → State → Prop where
  | begin (i : Nat) (job : Job) (idle : s.calls i = .idle) :
      Stepped s (.begin i job) (s.goOn i (.loading job))
  | hit (i : Nat) (job : Job) (app : Application) (loading : s.calls i = .loading job)
      (found : s.caches.appCache signer.appAddr = some app) :
      Stepped s (.load i) (s.goOn i (job.goOn ⟨app, s.appFetchedAt⟩))
  | missed (i : Nat) (job : Job) (loading : s.calls i = .loading job) :
      Stepped s (.load i) (s.goOn i (.fetching job))
  | failed (i : Nat) (a : Action ω) : Stepped s a (s.goOn i .done)
  | fetched (i : Nat) (w : ω) (job : Job) (app : Application)
      (fetching : s.calls i = .fetching job) :
      Stepped s (.fetch i w) ((s.fetched app).goOn i (.storing job ⟨app, s.log.length⟩))
  | stored (i : Nat) (job : Job) (record : Record) (storing : s.calls i = .storing job record) :
      Stepped s (.store i) ((s.storeApp signer.appAddr record).goOn i (job.goOn record))
  | rolled (i : Nat) (req : RelayRequest) (record : Record)
      (ready : s.calls i = .ready req record) :
      Stepped s (.roll i) ((s.roll (heightOf req)).goOn i (.rolled req record))
  | reused (i : Nat) (a : Action ω) (req : RelayRequest) (record : Record) (ring : Shannon.Ring)
      (found : s.caches.ringCache (ringKey req record) = some ring) :
      Stepped s a (s.goOn i (.signing req (s.ringRecord (ringKey req record)) ring))
  | absent (i : Nat) (req : RelayRequest) (record : Record)
      (rolled : s.calls i = .rolled req record) :
      Stepped s (.lookup i) (s.goOn i (.building req record))
  | built (i : Nat) (w : ω) (req : RelayRequest) (record : Record) (ring : Shannon.Ring)
      (building : s.calls i = .building req record) :
      Stepped s (.build i w) (s.goOn i (.keeping req record ring))
  | kept (i : Nat) (req : RelayRequest) (record : Record) (ring : Shannon.Ring)
      (keeping : s.calls i = .keeping req record ring) :
      Stepped s (.keep i) ((s.storeRing (ringKey req record) record ring).goOn i
        (.signing req record ring))
  | signed (i : Nat) (w : ω) (req : RelayRequest) (record : Record) (ring : Shannon.Ring)
      (signing : s.calls i = .signing req record ring) :
      Stepped s (.sign i w) ((s.signed (heightOf req) record).goOn i .done)

variable {c signer}

/-- Signing moves in one of these ways. -/
theorem step_cases {s s' : State} {a : Action ω} (h : step c signer s a = some s') :
    Stepped signer s a s' := by
  cases a with
  | begin i job =>
    simp only [step] at h
    split at h
    · next idle =>
      cases h
      exact .begin i job idle
    · cases h
  | load i =>
    simp only [step] at h
    split at h
    · next job loading =>
      split at h
      · next app found =>
        cases h
        exact .hit i job app loading found
      · cases h
        exact .missed i job loading
    · cases h
  | fetch i w =>
    simp only [step] at h
    split at h
    · next job fetching =>
      split at h
      · cases h
        exact .failed i _
      · next app answered =>
        cases h
        exact .fetched i w job app fetching
    · cases h
  | store i =>
    simp only [step] at h
    split at h
    · next job record storing =>
      cases h
      exact .stored i job record storing
    · cases h
  | roll i =>
    simp only [step] at h
    split at h
    · next req record ready =>
      cases h
      exact .rolled i req record ready
    · cases h
  | lookup i =>
    simp only [step] at h
    split at h
    · next req record rolled =>
      split at h
      · next ring found =>
        cases h
        exact .reused i _ req record ring found
      · cases h
        exact .absent i req record rolled
    · cases h
  | build i w =>
    simp only [step] at h
    split at h
    · next req record building =>
      split at h
      · cases h
        exact .failed i _
      · next ring answered =>
        cases h
        exact .built i w req record ring building
    · cases h
  | keep i =>
    simp only [step] at h
    split at h
    · next req record ring keeping =>
      split at h
      · next actual found =>
        cases h
        exact .reused i _ req record actual found
      · cases h
        exact .kept i req record ring keeping
    · cases h
  | sign i w =>
    simp only [step] at h
    split at h
    · next req record ring signing =>
      split at h
      · cases h
        exact .failed i _
      · cases h
        exact .signed i w req record ring signing
    · cases h

/-! ### What rings are built from -/

/-- The record is what the node answered at that time. -/
def Genuine (log : List Event) (record : Record) : Prop :=
  log[record.fetchedAt]? = some (.fetched record.app)

/-- For a height above the highest one signed for, the record was fetched after that one was
first signed for. -/
def Timely (highest : Option (Nat × Nat)) (height : Nat) (record : Record) : Prop :=
  ∀ p k, highest = some (p, k) → p < height → k < record.fetchedAt

/-- The ring that first signs at a new height was built from a record fetched since the
highest height before it was first signed for. -/
def FollowsChain (log : List Event) : Prop :=
  ∀ height record highest, .signed height record highest ∈ log →
    Genuine log record ∧ Timely highest height record

/-- The record a call has in hand. -/
def Call.record? : Call → Option Record
  | .storing _ record => some record
  | .ready _ record => some record
  | .rolled _ record => some record
  | .building _ record => some record
  | .keeping _ record _ => some record
  | .signing _ record _ => some record
  | _ => none

/-- The height a call with a record in hand is going to sign for. -/
def Call.height? : Call → Option Nat
  | .storing (.sign req) _ => some (heightOf req)
  | .ready req _ => some (heightOf req)
  | .rolled req _ => some (heightOf req)
  | .building req _ => some (heightOf req)
  | .keeping req _ _ => some (heightOf req)
  | .signing req _ _ => some (heightOf req)
  | _ => none

variable (signer) in
/-- A call for a new session finds no record in the application cache; and when a new session
is first signed for, no call or cached ring of a still later one has its record already. -/
def Refetches (s : State) : Action ω → Prop
  | .load i => ∀ req, s.calls i = .loading (.sign req) →
      ∀ p k, s.highest = some (p, k) → p < heightOf req → s.caches.appCache signer.appAddr = none
  | .sign i _ => ∀ req record ring, s.calls i = .signing req record ring →
      (∀ p k, s.highest = some (p, k) → p < heightOf req) →
      (∀ j height, (s.calls j).height? = some height → height ≤ heightOf req) ∧
        ∀ key ring, s.caches.ringCache key = some ring → key.sessionEndHeight ≤ heightOf req
  | _ => True

/-- A record a call may have in hand. -/
structure Usable (s : State) (c : Call) : Prop where
  genuine : ∀ record, c.record? = some record → Genuine s.log record
  timely : ∀ record height, c.record? = some record → c.height? = some height →
    Timely s.highest height record

variable (signer) in
/-- Carries `FollowsChain` through a run. -/
structure Tracked (s : State) : Prop where
  app : ∀ app, s.caches.appCache signer.appAddr = some app → Genuine s.log ⟨app, s.appFetchedAt⟩
  rings : ∀ key ring, s.caches.ringCache key = some ring →
    Genuine s.log (s.ringRecord key) ∧ Timely s.highest key.sessionEndHeight (s.ringRecord key)
  calls : ∀ i, Usable s (s.calls i)
  clock : ∀ p k, s.highest = some (p, k) → k < s.log.length
  follows : FollowsChain s.log

omit [Shannon] in
private theorem Genuine.grow {log : List Event} {record : Record} (h : Genuine log record)
    (e : Event) : Genuine (log ++ [e]) record := by
  unfold Genuine at h ⊢
  rw [List.getElem?_append_left (List.getElem?_eq_some_iff.mp h).1]
  exact h

omit [Shannon] in
private theorem genuine_new (log : List Event) (app : Application) :
    Genuine (log ++ [.fetched app]) ⟨app, log.length⟩ := by
  simp [Genuine]

section Invariant

variable {s : State}

/-- A call without a record in hand. -/
private theorem usable_of_none {c : Call} (h : c.record? = none) : Usable s c := by
  constructor <;> simp [h]

private theorem Tracked.goOn (h : Tracked signer s) (i : Nat) {call : Call} (hc : Usable s call) :
    Tracked signer (s.goOn i call) := by
  refine ⟨h.app, h.rings, fun j ↦ ?_, h.clock, h.follows⟩
  rw [State.goOn, get_goOn State.calls _ fun _ _ ↦ rfl]
  by_cases hj : j = i
  · rw [if_pos hj]
    exact ⟨hc.genuine, hc.timely⟩
  · rw [if_neg hj]
    exact ⟨(h.calls j).genuine, (h.calls j).timely⟩

private theorem Tracked.fetched (h : Tracked signer s) (app : Application) :
    Tracked signer (s.fetched app) := by
  constructor
  · intro app' ha
    exact (h.app app' ha).grow _
  · intro key ring hr
    obtain ⟨hg, ht⟩ := h.rings key ring hr
    exact ⟨hg.grow _, ht⟩
  · intro i
    exact ⟨fun record hr ↦ ((h.calls i).genuine record hr).grow _, (h.calls i).timely⟩
  · intro p k hk
    have hlt := h.clock p k hk
    simp only [State.fetched, List.length_append]
    omega
  · intro height record highest hmem
    rcases List.mem_append.mp hmem with hmem | hmem
    · obtain ⟨hg, ht⟩ := h.follows height record highest hmem
      exact ⟨hg.grow _, ht⟩
    · cases List.mem_singleton.mp hmem

private theorem Tracked.storeApp (h : Tracked signer s) {record : Record}
    (hr : Genuine s.log record) : Tracked signer (s.storeApp signer.appAddr record) := by
  refine ⟨fun app ha ↦ ?_, h.rings, fun i ↦ ⟨(h.calls i).genuine, (h.calls i).timely⟩, h.clock,
    h.follows⟩
  simp only [State.storeApp, Function.update_self, Option.some.injEq] at ha
  subst ha
  exact hr

private theorem evict_ringCache {caches : Caches} {height : Nat} {key : RingCacheKey}
    {ring : Shannon.Ring}
    (h : (caches.evictStaleRingsOnRollover height).ringCache key = some ring) :
    caches.ringCache key = some ring := by
  unfold Caches.evictStaleRingsOnRollover at h
  split at h
  · exact h
  · simp only at h
    split at h
    · cases h
    · exact h

private theorem roll_ringCache {height : Nat} {key : RingCacheKey} {ring : Shannon.Ring}
    (h : (s.roll height).caches.ringCache key = some ring) : s.caches.ringCache key = some ring :=
  evict_ringCache h

private theorem evict_appCache (caches : Caches) (height : Nat) :
    (caches.evictStaleRingsOnRollover height).appCache = caches.appCache := by
  unfold Caches.evictStaleRingsOnRollover
  split <;> rfl

private theorem Tracked.roll (h : Tracked signer s) (height : Nat) :
    Tracked signer (s.roll height) := by
  refine ⟨fun app ha ↦ ?_, fun key ring hr ↦ h.rings key ring (roll_ringCache hr),
    fun i ↦ ⟨(h.calls i).genuine, (h.calls i).timely⟩, h.clock, h.follows⟩
  simp only [State.roll, evict_appCache] at ha
  exact h.app app ha

private theorem of_update_some {rings : RingCacheKey → Option Shannon.Ring}
    {key key' : RingCacheKey} {ring ring' : Shannon.Ring}
    (h : Function.update rings key (some ring) key' = some ring') :
    key' = key ∨ rings key' = some ring' := by
  by_cases hkey : key' = key
  · exact .inl hkey
  · rw [Function.update_of_ne hkey] at h
    exact .inr h

private theorem Tracked.storeRing (h : Tracked signer s) {key : RingCacheKey} {record : Record}
    (hg : Genuine s.log record) (ht : Timely s.highest key.sessionEndHeight record)
    (ring : Shannon.Ring) : Tracked signer (s.storeRing key record ring) := by
  refine ⟨h.app, fun key' ring' hr ↦ ?_, fun i ↦ ⟨(h.calls i).genuine, (h.calls i).timely⟩,
    h.clock, h.follows⟩
  simp only [State.storeRing, Function.update_apply] at hr ⊢
  by_cases hkey : key' = key
  · rw [if_pos hkey, hkey]
    exact ⟨hg, ht⟩
  · rw [if_neg hkey] at hr ⊢
    exact h.rings key' ring' hr

omit [Shannon] in
/-- After a signature the highest height is another one only if it was raised. -/
private theorem raise_cases {highest : Option (Nat × Nat)} {height now p k : Nat}
    (h : raise highest height now = some (p, k)) :
    highest = some (p, k) ∨
      (p = height ∧ k = now ∧ ∀ p' k', highest = some (p', k') → p' < height) := by
  cases highest with
  | none =>
    cases h
    exact .inr ⟨rfl, rfl, nofun⟩
  | some pk =>
    simp only [raise] at h
    split at h
    · next hlt =>
      cases h
      refine .inr ⟨rfl, rfl, ?_⟩
      rintro p' k' ⟨⟩
      exact hlt
    · exact .inl h

private theorem Tracked.signed (h : Tracked signer s) {height : Nat} {record : Record}
    (hg : Genuine s.log record) (ht : Timely s.highest height record)
    (hnew : (∀ p k, s.highest = some (p, k) → p < height) →
      (∀ j height', (s.calls j).height? = some height' → height' ≤ height) ∧
        ∀ key ring, s.caches.ringCache key = some ring → key.sessionEndHeight ≤ height) :
    Tracked signer (s.signed height record) := by
  -- Whoever is going to sign for a still higher height is bound by the old highest one.
  have hkeep {height' : Nat} {record' : Record} (htimely : Timely s.highest height' record')
      (hle : (∀ p k, s.highest = some (p, k) → p < height) → height' ≤ height) :
      Timely (raise s.highest height s.log.length) height' record' := by
    intro p k hpk hlt
    rcases raise_cases hpk with hold | ⟨rfl, rfl, hraised⟩
    · exact htimely p k hold hlt
    · have := hle hraised
      omega
  constructor
  · intro app ha
    exact (h.app app ha).grow _
  · intro key ring hr
    obtain ⟨hg', ht'⟩ := h.rings key ring hr
    exact ⟨hg'.grow _, hkeep ht' (fun hraised ↦ (hnew hraised).2 key ring hr)⟩
  · intro i
    refine ⟨fun record' hr ↦ ((h.calls i).genuine record' hr).grow _, fun record' height' hr hh ↦ ?_⟩
    exact hkeep ((h.calls i).timely record' height' hr hh)
      (fun hraised ↦ (hnew hraised).1 i height' hh)
  · intro p k hpk
    simp only [State.signed, List.length_append, List.length_singleton]
    rcases raise_cases hpk with hold | ⟨-, rfl, -⟩
    · have := h.clock p k hold
      omega
    · omega
  · intro height' record' highest' hmem
    rcases List.mem_append.mp hmem with hmem | hmem
    · obtain ⟨hg', ht'⟩ := h.follows height' record' highest' hmem
      exact ⟨hg'.grow _, ht'⟩
    · cases List.mem_singleton.mp hmem
      exact ⟨hg.grow _, ht⟩

/-- Nothing has been fetched or signed yet. -/
theorem tracked_start : Tracked signer start := by
  constructor
  · simp [start, Caches.fresh]
  · simp [start, Caches.fresh]
  · intro i
    exact usable_of_none rfl
  · simp [start]
  · simp [FollowsChain, start]

/-- The record a job goes on with. -/
private theorem usable_goOn {job : Job} {record : Record} (hg : Genuine s.log record)
    (ht : ∀ req, job = .sign req → Timely s.highest (heightOf req) record) :
    Usable s (job.goOn record) := by
  cases job with
  | discover => exact usable_of_none rfl
  | sign req =>
    constructor
    · rintro _ ⟨⟩
      exact hg
    · rintro _ _ ⟨⟩ ⟨⟩
      exact ht req rfl

/-- A call with the same record in hand and the same height in mind as another. -/
private theorem Usable.congr {c c' : Call} (h : Usable s c) (hr : c'.record? = c.record?)
    (hh : c'.height? = c.height?) : Usable s c' := by
  constructor
  · rw [hr]
    exact h.genuine
  · rw [hr, hh]
    exact h.timely

/-- Every step that keeps to the condition keeps signing on the chain's records. -/
theorem tracked_step {a : Action ω} {s' : State} (h : Tracked signer s)
    (hcond : Refetches signer s a) (hstep : step c signer s a = some s') : Tracked signer s' := by
  cases step_cases hstep with
  | begin i job idle => exact h.goOn i (usable_of_none rfl)
  | hit i job app loading found =>
    refine h.goOn i (usable_goOn (h.app app found) ?_)
    rintro req rfl p k hpk hlt
    have hnone := hcond req loading p k hpk hlt
    rw [found] at hnone
    cases hnone
  | missed i job loading => exact h.goOn i (usable_of_none rfl)
  | failed i a => exact h.goOn i (usable_of_none rfl)
  | fetched i w job app fetching =>
    refine (h.fetched app).goOn i ⟨?_, ?_⟩
    · rintro _ ⟨⟩
      exact genuine_new s.log app
    · rintro _ height ⟨⟩ _ p k hpk _
      exact h.clock p k hpk
  | stored i job record storing =>
    have hu := h.calls i
    rw [storing] at hu
    refine (h.storeApp (hu.genuine record rfl)).goOn i (usable_goOn (hu.genuine record rfl) ?_)
    rintro req rfl
    exact hu.timely record _ rfl rfl
  | rolled i req record ready =>
    have hu := h.calls i
    rw [ready] at hu
    exact (h.roll _).goOn i ⟨hu.genuine, hu.timely⟩
  | reused i a req record ring found =>
    obtain ⟨hg, ht⟩ := h.rings _ _ found
    refine h.goOn i ⟨?_, ?_⟩
    · rintro _ ⟨⟩
      exact hg
    · rintro _ _ ⟨⟩ ⟨⟩
      exact ht
  | absent i req record rolled =>
    have hu := h.calls i
    rw [rolled] at hu
    exact h.goOn i (hu.congr rfl rfl)
  | built i w req record ring building =>
    have hu := h.calls i
    rw [building] at hu
    exact h.goOn i (hu.congr rfl rfl)
  | kept i req record ring keeping =>
    have hu := h.calls i
    rw [keeping] at hu
    have ht : Timely s.highest (ringKey req record).sessionEndHeight record :=
      hu.timely record _ rfl rfl
    exact (h.storeRing (hu.genuine record rfl) ht ring).goOn i ⟨hu.genuine, hu.timely⟩
  | signed i w req record ring signing =>
    have hu := h.calls i
    rw [signing] at hu
    exact (h.signed (hu.genuine record rfl) (hu.timely record _ rfl rfl)
      (hcond req record ring signing)).goOn i (usable_of_none rfl)

end Invariant

/-- If calls for new sessions miss the application cache, rings follow the chain. -/
theorem rings_follow_chain {as : List (Action ω)} {s : State}
    (hall : AllSteps (step c signer) (Refetches signer) start as)
    (hrun : runAll (step c signer) start as = some s) : FollowsChain s.log :=
  (invariant_of_allSteps (fun _ _ _ h hcond hstep ↦ tracked_step h hcond hstep)
    tracked_start hall hrun).follows

/-- A call that nobody interrupts does to the caches what `getOrCreateRing` does. -/
theorem getOrCreateRing_alone {s : State} {i : Nat} {req : RelayRequest} {record : Record}
    (hready : s.calls i = .ready req record) (w : ω) :
    ∃ as s', runAll (step c signer) s as = some s' ∧
      s'.caches = (getOrCreateRing c record.app (heightOf req) (s.caches, w)).2.1 ∧
      match (getOrCreateRing c record.app (heightOf req) (s.caches, w)).1 with
      | .error _ => s'.calls i = .done
      | .ok ring => ∃ record', s'.calls i = .signing req record' ring := by
  have hself (t : State) (call : Call) : (t.goOn i call).calls i = call := by
    rw [State.goOn, get_goOn State.calls _ fun _ _ ↦ rfl, if_pos rfl]
  let s₁ := (s.roll (heightOf req)).goOn i (.rolled req record)
  have h₁ : step c signer s (.roll i) = some s₁ := by
    simp only [step, hready, s₁]
  have hc₁ : s₁.calls i = .rolled req record := hself _ _
  cases hring : (s.caches.evictStaleRingsOnRollover (heightOf req)).ringCache
      ⟨record.app.address, heightOf req⟩ with
  | some ring =>
    have hring₁ : s₁.caches.ringCache (ringKey req record) = some ring := hring
    have h₂ : step c signer s₁ (.lookup i) =
        some (s₁.goOn i (.signing req (s₁.ringRecord (ringKey req record)) ring)) := by
      simp only [step, hc₁, hring₁]
    refine ⟨[.roll i, .lookup i], _, runAll_of_step h₁ (runAll_of_step h₂ rfl), ?_⟩
    simp only [getOrCreateRing, hring]
    exact ⟨rfl, _, hself _ _⟩
  | none =>
    have hring₁ : s₁.caches.ringCache (ringKey req record) = none := hring
    let s₂ := s₁.goOn i (.building req record)
    have h₂ : step c signer s₁ (.lookup i) = some s₂ := by
      simp only [step, hc₁, hring₁, s₂]
    have hc₂ : s₂.calls i = .building req record := hself _ _
    rcases hb : buildRing c record.app (heightOf req) w with ⟨e | ring, w'⟩
    · have h₃ : step c signer s₂ (.build i w) = some (s₂.goOn i .done) := by
        simp only [step, hc₂, hb]
      refine ⟨[.roll i, .lookup i, .build i w], _,
        runAll_of_step h₁ (runAll_of_step h₂ (runAll_of_step h₃ rfl)), ?_⟩
      simp only [getOrCreateRing, hring, hb]
      exact ⟨rfl, hself _ _⟩
    · let s₃ := s₂.goOn i (.keeping req record ring)
      have h₃ : step c signer s₂ (.build i w) = some s₃ := by
        simp only [step, hc₂, hb, s₃]
      have hc₃ : s₃.calls i = .keeping req record ring := hself _ _
      have hring₃ : s₃.caches.ringCache (ringKey req record) = none := hring
      have h₄ : step c signer s₃ (.keep i) = some ((s₃.storeRing (ringKey req record) record
          ring).goOn i (.signing req record ring)) := by
        simp only [step, hc₃, hring₃]
      refine ⟨[.roll i, .lookup i, .build i w, .keep i], _, runAll_of_step h₁ (runAll_of_step h₂
        (runAll_of_step h₃ (runAll_of_step h₄ rfl))), ?_⟩
      simp only [getOrCreateRing, hring, hb]
      exact ⟨rfl, record, hself _ _⟩

end Machine

/-! ### A delegation between two sessions -/

section Rollover

local instance : Shannon := Shannon.plain

/-- The chain as it is: the world is the application's list of gateways. -/
def delegatingChain : Chain (List String) where
  getApp appAddr := fun gateways ↦ (.ok ⟨appAddr, ["poly"], gateways⟩, gateways)
  getPubKeyFromAddress appAddr := fun w ↦ (.ok (some appAddr), w)
  signOffChainWithRing _ req _ := fun w ↦ (.ok { req with signature := some [] }, w)

/-- A request in the session that ends at a height. -/
def requestAt (height : Int) : RelayRequest :=
  ⟨⟨ethSigner.appAddr, "poly", "session", height⟩, "supplier", [], none⟩

/-- Call 1 belongs to the later session and has missed the application cache before call 0
fills it; it is answered after call 0 has signed. -/
def overlapping : List (Action (List String)) :=
  [.begin 0 (.sign (requestAt 10)), .load 0, .begin 1 (.sign (requestAt 20)), .load 1,
    .fetch 0 [], .store 0, .roll 0, .lookup 0, .build 0 [], .keep 0, .sign 0 [],
    .fetch 1 ["gateway"], .store 1, .roll 1, .lookup 1, .build 1 ["gateway"], .keep 1,
    .sign 1 ["gateway"]]

/-- Two relays that overlap, with a delegation in between. -/
theorem rings_follow_chain_overlapping : ∃ s,
    runAll (step delegatingChain ethSigner) start overlapping = some s ∧
      .signed 20 ⟨⟨ethSigner.appAddr, ["poly"], ["gateway"]⟩, 2⟩ (some (10, 1)) ∈ s.log ∧
      FollowsChain s.log := by
  have hall : AllSteps (step delegatingChain ethSigner) (Refetches ethSigner) start
      overlapping := by
    refine And.intro trivial (And.intro ?load₀ (And.intro trivial (And.intro ?load₁
      (And.intro trivial (And.intro trivial (And.intro trivial (And.intro trivial (And.intro trivial
      (And.intro trivial (And.intro ?sign₀ (And.intro trivial (And.intro trivial (And.intro trivial
      (And.intro trivial (And.intro trivial (And.intro trivial (And.intro ?sign₁
        trivial)))))))))))))))))
    case load₀ => exact fun _ _ _ _ h ↦ nomatch h
    case load₁ => exact fun _ _ _ _ h ↦ nomatch h
    case sign₀ =>
      rintro req record ring ⟨⟩ -
      refine ⟨fun j height hj ↦ ?_, fun key ring' hr ↦ ?_⟩
      · match j, hj with
        | 0, hj => exact (Option.some.inj hj).ge
        | 1, hj => cases hj
        | j + 2, hj => cases hj
      · simp only [State.goOn_caches, State.storeRing_ringCache] at hr
        rcases of_update_some hr with rfl | hr
        · exact Nat.le_refl _
        · cases roll_ringCache hr
    case sign₁ =>
      rintro req record ring ⟨⟩ -
      refine ⟨fun j height hj ↦ ?_, fun key ring' hr ↦ ?_⟩
      · match j, hj with
        | 0, hj => cases hj
        | 1, hj => exact (Option.some.inj hj).ge
        | j + 2, hj => cases hj
      · simp only [State.goOn_caches, State.storeRing_ringCache] at hr
        rcases of_update_some hr with rfl | hr
        · exact Nat.le_refl _
        · have hold := roll_ringCache hr
          simp only [State.goOn_caches, State.storeApp_ringCache, State.fetched_caches,
            State.signed_caches, State.storeRing_ringCache] at hold
          rcases of_update_some hold with rfl | hold
          · decide
          · cases roll_ringCache hold
  exact ⟨_, rfl, by decide, rings_follow_chain hall rfl⟩

/-- The service is discovered at startup; then a request is signed in each of two sessions,
with a delegation in between. -/
def discovered : List (Action (List String)) :=
  [.begin 0 .discover, .load 0, .fetch 0 [], .store 0,
    .begin 1 (.sign (requestAt 10)), .load 1, .roll 1, .lookup 1, .build 1 [], .keep 1, .sign 1 [],
    .begin 2 (.sign (requestAt 20)), .load 2, .roll 2, .lookup 2, .build 2 ["gateway"], .keep 2,
    .sign 2 ["gateway"]]

/-- A record that start-up fetched is signed with after the delegation. -/
theorem discovered_stale : ∃ s,
    runAll (step delegatingChain ethSigner) start discovered = some s ∧
      s.log = [.fetched ⟨ethSigner.appAddr, ["poly"], []⟩,
        .signed 10 ⟨⟨ethSigner.appAddr, ["poly"], []⟩, 0⟩ none,
        .signed 20 ⟨⟨ethSigner.appAddr, ["poly"], []⟩, 0⟩ (some (10, 1))] ∧
      ¬ FollowsChain s.log := by
  refine ⟨_, rfl, by decide, ?_⟩
  intro h
  have hlast := (h 20 ⟨⟨ethSigner.appAddr, ["poly"], []⟩, 0⟩ (some (10, 1)) (by decide)).2
  exact absurd (hlast 10 1 rfl (by decide)) (by decide)

end Rollover
end PocketAp.Pocket.Signing
