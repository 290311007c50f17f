import PocketAp.Base.History
import PocketAp.Health.Stats
import PocketAp.Pocket.Session
import PocketAp.Transport.Handle

/-!
# The health report

`src/health/health.go` and what it reads: the poller and the session cache of
`src/pocket/session.go`, the relay counters, and the panics counted by
`src/internal/safego/safego.go`. A request to the admin listener reads each of them at its
own moment, while polls, relays and session refreshes go on; a step of the machine touches
one of them. Times are nanoseconds. The history is a ghost: it records what happened and
when, and a report is measured by it. A report only reads, so that one request stands for
any number. The mean latency is left out, as in `Stats`, and so are the redirects of
`http.ServeMux` to a cleaned path.
-/

namespace PocketAp.Health

open PocketAp.Base PocketAp.Domain PocketAp.Relay PocketAp.Pocket PocketAp.Transport

/-! ### What happened -/

/-- What a report is about. -/
inductive Happened where
  | polled (reply : Except Err Int)
  | stored (serviceID : ServiceID) (session : Session)
  | observed (supplier : EndpointAddr) (outcome : Outcome)
  | panicked

/-- What happened, and when. -/
abbrev History := List (Int × Happened)

namespace History

/-- The time and the height of a poll that succeeded. -/
def success? : Int × Happened → Option (Int × Int)
  | (t, .polled (.ok height)) => some (t, height)
  | _ => none

/-- The last poll that succeeded. -/
def lastSuccess : History → Option (Int × Int) := latest success?

/-- What the most recent poll answered. -/
def lastPoll : History → Option (Except Err Int) :=
  latest fun
    | (_, .polled reply) => some reply
    | _ => none

/-- The session fetched last for a service. -/
def lastStored (id : ServiceID) : History → Option Session :=
  latest fun
    | (_, .stored serviceID session) => if serviceID = id then some session else none
    | _ => none

/-- The last attempt of a service that failed with an error: when, and its text. -/
def lastError (id : ServiceID) : History → Option (Int × String) :=
  latest fun
    | (t, .observed _ o) =>
      if o.serviceID = id ∧ o.success = false then o.err.map fun e ↦ (t, e.message) else none
    | _ => none

/-- The attempts, in order. -/
def outcomes (h : History) : List (EndpointAddr × Outcome) :=
  h.filterMap fun
    | (_, .observed supplier outcome) => some (supplier, outcome)
    | _ => none

/-- How many attempts of a service meet a condition. -/
def attempts (id : ServiceID) (p : Outcome → Bool) (h : History) : Nat :=
  h.outcomes.countP fun t ↦ decide (t.2.serviceID = id) && p t.2

/-- How many panics were recovered. -/
def panics (h : History) : Nat :=
  h.countP fun
    | (_, .panicked) => true
    | _ => false

end History

/-! ### What the process keeps -/

/-- `src/pocket/session.go:57`. -/
structure PollState where
  height : Int
  lastPollAt : Option Int
  lastPollErr : Option Err

/-- The session manager with the outcome of its polls, the counters with the time of their
last errors, the counter of recovered panics, and the clock. `src/pocket/session.go:41–51`,
`src/health/health.go:52–65`, `src/internal/safego/safego.go:42–50`. -/
structure Proxy where
  now : Int
  sessions : SessionManager.State
  lastPollAt : Option Int
  lastPollErr : Option Err
  stats : Stats
  lastErrAt : ServiceID → Option Int
  panics : UInt64
  history : History

/-- What goes on beside a report. -/
inductive ProxyAction where
  | tick (d : Nat)
  | manager (a : SessionManager.Action)
  | observe (supplier : EndpointAddr) (outcome : Outcome)
  | panic

namespace Proxy

/-- A process that has just come up. -/
def start (now : Int) : Proxy :=
  ⟨now, SessionManager.start, none, none, newStats, fun _ ↦ none, 0, []⟩

/-- `src/pocket/session.go:57–61`. -/
def pollState (p : Proxy) : PollState :=
  ⟨p.sessions.latestBlockHeight, p.lastPollAt, p.lastPollErr⟩

/-- Something happens. -/
def note (p : Proxy) (e : Happened) : Proxy := { p with history := p.history ++ [(p.now, e)] }

/-- What a poll records beside the height. `src/pocket/session.go:184–193`. -/
def polled (p : Proxy) : Except Err Int → Proxy
  | .error e => { p with lastPollErr := some e }.note (.polled (.error e))
  | .ok height => { p with lastPollAt := some p.now, lastPollErr := none }.note (.polled (.ok height))

/-- What changes beside the manager's own variables when it takes a step. -/
def beside (p : Proxy) : SessionManager.Action → Proxy
  | .poll reply => p.polled reply
  | .store i =>
    match p.sessions.calls i with
    | .storing serviceID _ ds => p.note (.stored serviceID ds)
    | _ => p
  | _ => p

/-- `src/health/health.go:77–98`, with the time of the error. -/
def observe (p : Proxy) (supplier : EndpointAddr) (o : Outcome) : Proxy :=
  { p with
    stats := p.stats.observe supplier o
    lastErrAt :=
      if o.success = false ∧ o.err.isSome then Function.update p.lastErrAt o.serviceID (some p.now)
      else p.lastErrAt }.note (.observed supplier o)

/-- One step. A recovered panic is counted and nothing else changes,
`src/internal/safego/safego.go:113–127`. -/
def step (m : SessionManager) (p : Proxy) : ProxyAction → Option Proxy
  | .tick d => some { p with now := p.now + d }
  | .manager a => (m.step p.sessions a).map fun s ↦ { p.beside a with sessions := s }
  | .observe supplier outcome => some (p.observe supplier outcome)
  | .panic => some ({ p with panics := p.panics + 1 }.note .panicked)

end Proxy

/-! ### The report -/

/-- `src/pocket/session.go:23`. -/
def blockPollInterval : Int := 10 * 1000000000

/-- `src/health/health.go:34`. -/
def stalenessFactor : Int := 3

/-- `time.Duration.String` of a positive number of whole seconds. -/
def durationString (d : Int) : String :=
  let secs := d / 1000000000
  let h := secs / 3600
  let m := secs / 60 % 60
  (if 0 < h then toString h ++ "h" else "") ++
    (if 0 < h ∨ 0 < m then toString m ++ "m" else "") ++ toString (secs % 60) ++ "s"

/-- `src/health/health.go:216`. -/
inductive Status where
  | ok
  | degraded
  deriving DecidableEq, Repr

/-- `src/health/health.go:244–249`. -/
structure ChainHealth where
  blockHeight : Int
  heightAge : Int
  pollInterval : Int
  lastPollError : String
  deriving DecidableEq, Repr

/-- `src/health/health.go:118–121, 237–240`. -/
structure AppInfo where
  address : String
  serviceID : ServiceID
  deriving DecidableEq, Repr

/-- `src/health/health.go:253–270`. -/
structure ServiceHealth where
  serviceID : ServiceID
  sessionID : String := ""
  sessionEndHeight : Int := 0
  endpoints : Nat := 0
  sessionCached : Bool := false
  attempts : UInt64 := 0
  successes : UInt64 := 0
  failures : UInt64 := 0
  lastError : String := ""
  lastErrorAge : Int := 0
  deriving DecidableEq, Repr

/-- `src/health/health.go:215–234`. -/
structure Response where
  status : Status
  reason : String
  apps : List AppInfo
  uptime : Int
  chain : ChainHealth
  services : List ServiceHealth
  recoveredPanics : UInt64
  deriving DecidableEq, Repr

/-- What the poll state says at a time. `src/health/health.go:301–322`. -/
def judge (now : Int) (v : PollState) : Status × String × ChainHealth :=
  let chain : ChainHealth :=
    ⟨v.height, 0, blockPollInterval, (v.lastPollErr.map fun e ↦ e.message).getD ""⟩
  match v.lastPollAt with
  | none => (.degraded, "no successful block-height poll yet", chain)
  | some lastPollAt =>
    let age := now - lastPollAt
    let chain := { chain with heightAge := age }
    if stalenessFactor * blockPollInterval < age then
      (.degraded, "block height is stale: last poll " ++ durationString age ++
        " ago, expected every " ++ durationString blockPollInterval, chain)
    else (.ok, "", chain)

/-- A later session of a service replaces an earlier one. `src/health/health.go:326–329`. -/
def indexed (sessions : List Session) : ServiceID → Option Session :=
  sessions.foldl (fun out sess ↦ Function.update out sess.serviceID (some sess)) fun _ ↦ none

/-- `src/health/health.go:348–354`. -/
def sessionPart (id : ServiceID) : Option Session → ServiceHealth
  | none => { serviceID := id }
  | some sess =>
    { serviceID := id, sessionCached := true, sessionID := sess.id,
      sessionEndHeight := sess.endBlockHeight, endpoints := sess.endpoints.length }

/-- `src/health/health.go:362–380`. -/
def fill (p : Proxy) (id : ServiceID) (sh : ServiceHealth) (now : Int) : ServiceHealth :=
  match p.stats.byServiceID id with
  | none => sh
  | some svc =>
    { sh with
      attempts := svc.attempts, successes := svc.successes, failures := svc.failures
      lastError := svc.lastErr
      lastErrorAge :=
        match p.lastErrAt id with
        | none => sh.lastErrorAge
        | some lastErrAt => now - lastErrAt }

/-! ### A request -/

/-- `src/health/health.go:104–112`. -/
structure Server where
  addr : String
  hosts : HostPolicy
  apps : List AppInfo
  startedAt : Int

/-- `src/health/health.go:125–140`. -/
def newServer (addr : String) (apps : List AppInfo) (startedAt : Int) : Server :=
  ⟨addr, ⟨[], addr⟩, apps, startedAt⟩

/-- `src/health/health.go:149`. -/
def healthPath : String := "/pocket-ap/health"

/-- What a request came with and when; `since` is a ghost, the history up to then. -/
structure Asked where
  host : String
  now : Int
  since : History

/-- How far a request has come. -/
inductive Reading where
  | idle
  | refused (code : Nat) (text : String)
  | arrived (q : Asked)
  | judged (q : Asked) (verdict : Status × String × ChainHealth)
  | ranging (q : Asked) (verdict : Status × String × ChainHealth) (due seen : List String)
      (found : List Session)
  | filling (q : Asked) (resp : Response) (sessions : ServiceID → Option Session)
      (left : List AppInfo)
  | answered (q : Asked) (code : Nat) (resp : Response)

/-- The process and a request to it. -/
structure Admin where
  proxy : Proxy
  reading : Reading

/-- Something else goes on, or the request takes its next step. -/
inductive AdminAction where
  | proxy (a : ProxyAction)
  | ask (host path : String)
  | pollState
  | range
  | visit (key : String)
  | collect
  | fill

/-- The keys in the session cache, for the services a manager knows. -/
def cachedKeys (m : SessionManager) (s : SessionManager.State) : List String :=
  (m.services.filterMap fun id ↦ (m.appAddrFor id).map (SessionManager.cacheKey id)).filter
    fun key ↦ (s.sessionCache key).isSome

namespace Server

variable [GoLib]

/-- `src/health/health.go:153–162, 203–212`. -/
def route (srv : Server) (p : Proxy) (host path : String) : Reading :=
  if !srv.hosts.allows host then .refused 403 "host not allowed"
  else if path = healthPath then .arrived ⟨host, p.now, p.history⟩
  else .refused 404 ("pocket-ap admin: nothing here. try " ++ healthPath)

/-- The answer begins with what is known before the counters are read, the count of panics
included. `src/health/health.go:331–344`. -/
def begin (srv : Server) (p : Proxy) (q : Asked) (verdict : Status × String × ChainHealth) :
    Response :=
  ⟨verdict.1, verdict.2.1, srv.apps, q.now - srv.startedAt, verdict.2.2, [], p.panics⟩

/-- One step. `sync.Map.Range` visits no key twice, and every key that was there when it
began. `src/health/health.go:276–359`, `src/pocket/session.go:85–94`. -/
def step (srv : Server) (m : SessionManager) (s : Admin) : AdminAction → Option Admin
  | .proxy a => (s.proxy.step m a).map fun p ↦ { s with proxy := p }
  | .ask host path =>
    match s.reading with
    | .idle => some { s with reading := srv.route s.proxy host path }
    | _ => none
  | .pollState =>
    match s.reading with
    | .arrived q => some { s with reading := .judged q (judge q.now s.proxy.pollState) }
    | _ => none
  | .range =>
    match s.reading with
    | .judged q v => some { s with reading := .ranging q v (cachedKeys m s.proxy.sessions) [] [] }
    | _ => none
  | .visit key =>
    match s.reading with
    | .ranging q v due seen found =>
      match s.proxy.sessions.sessionCache key with
      | none => none
      | some sess =>
        if key ∈ seen then none
        else some { s with reading := .ranging q v due (seen ++ [key]) (found ++ [sess]) }
    | _ => none
  | .collect =>
    match s.reading with
    | .ranging q v due seen found =>
      if ∀ key ∈ due, key ∈ seen then
        some { s with reading := .filling q (srv.begin s.proxy q v) (indexed found) srv.apps }
      else none
    | _ => none
  | .fill =>
    match s.reading with
    | .filling q resp _ [] =>
      some { s with reading := .answered q (if resp.status ≠ .ok then 503 else 200) resp }
    | .filling q resp sessions (app :: left) =>
      let sh := Health.fill s.proxy app.serviceID
        (sessionPart app.serviceID (sessions app.serviceID)) q.now
      some { s with
        reading := .filling q { resp with services := resp.services ++ [sh] } sessions left }
    | _ => none

end Server

/-! ### The process keeps the latest of its history -/

/-- The error of a poll that failed. -/
def pollError : Except Err Int → Option Err
  | .error e => some e
  | .ok _ => none

/-- The poll state after a history. -/
def History.pollState (h : History) : PollState :=
  ⟨(h.lastSuccess.map Prod.snd).getD 0, h.lastSuccess.map Prod.fst, h.lastPoll.bind pollError⟩

namespace History

/-- Nothing in it is later than now, or out of order. -/
structure Timed (h : History) (now : Int) : Prop where
  past : ∀ e ∈ h, e.1 ≤ now
  ordered : h.Pairwise fun a b ↦ a.1 ≤ b.1

private theorem Timed.concat {h : History} {now : Int} (ht : h.Timed now) (e : Happened) :
    History.Timed (h ++ [(now, e)]) now := by
  constructor
  · intro e' he'
    rcases List.mem_append.mp he' with he' | he'
    · exact ht.past e' he'
    · cases List.mem_singleton.mp he'
      exact Int.le_refl now
  · refine List.pairwise_append.mpr ⟨ht.ordered, List.pairwise_singleton _ _, fun a ha b hb ↦ ?_⟩
    cases List.mem_singleton.mp hb
    exact ht.past a ha

/-- The counters count the attempts. -/
structure Counted (h : History) (st : Stats) (errAt : ServiceID → Option Int) : Prop where
  stats : st = newStats.observeEach h.outcomes
  lastErr : ∀ id, (st.counters id).lastErr = ((h.lastError id).map Prod.snd).getD ""
  lastErrAt : ∀ id, errAt id = (h.lastError id).map Prod.fst

variable {h : History} {t : Int} {e : Happened}

private theorem pollState_concat (he : ∀ reply, e ≠ .polled reply) :
    History.pollState (h ++ [(t, e)]) = h.pollState := by
  cases e with
  | polled reply => exact absurd rfl (he reply)
  | _ => simp [pollState, lastSuccess, success?, lastPoll]

private theorem panics_concat (he : e ≠ .panicked) : History.panics (h ++ [(t, e)]) = h.panics := by
  cases e with
  | panicked => exact absurd rfl he
  | _ => simp [panics]

private theorem Counted.concat {st : Stats} {errAt : ServiceID → Option Int}
    (hc : h.Counted st errAt) (he : ∀ supplier outcome, e ≠ .observed supplier outcome) :
    History.Counted (h ++ [(t, e)]) st errAt := by
  have houtcomes : History.outcomes (h ++ [(t, e)]) = h.outcomes := by
    cases e with
    | observed supplier outcome => exact absurd rfl (he supplier outcome)
    | _ => simp [outcomes]
  have herror (id : ServiceID) : History.lastError id (h ++ [(t, e)]) = h.lastError id := by
    cases e with
    | observed supplier outcome => exact absurd rfl (he supplier outcome)
    | _ => simp [lastError]
  constructor
  · rw [houtcomes]
    exact hc.stats
  · intro id
    rw [herror]
    exact hc.lastErr id
  · intro id
    rw [herror]
    exact hc.lastErrAt id

end History

namespace Proxy

private theorem counted_observe {p : Proxy} (h : p.history.Counted p.stats p.lastErrAt)
    (supplier : EndpointAddr) (o : Outcome) :
    (p.observe supplier o).history.Counted (p.observe supplier o).stats
      (p.observe supplier o).lastErrAt := by
  have herror (id : ServiceID) : (p.observe supplier o).history.lastError id =
      (if o.serviceID = id ∧ o.success = false then o.err.map fun e ↦ (p.now, e.message)
        else none).or (p.history.lastError id) := by
    simp [Proxy.observe, Proxy.note, History.lastError]
  constructor
  · simp only [Proxy.observe, Proxy.note]
    rw [h.stats]
    simp [History.outcomes, Stats.observeEach]
  · intro id
    rw [herror]
    change ((p.stats.observe supplier o).counters id).lastErr = _
    by_cases hid : o.serviceID = id
    · subst hid
      have hl := h.lastErr o.serviceID
      simp only [Stats.counters] at hl
      simp only [Stats.observe, Stats.counters, Function.update_self, Option.getD_some]
      cases hs : o.success with
      | true => simpa using hl
      | false =>
        cases o.err with
        | none => simpa using hl
        | some e => simp
    · rw [Stats.counters_observe_of_ne (Ne.symm hid), h.lastErr id]
      simp [hid]
  · intro id
    rw [herror]
    simp only [Proxy.observe, Proxy.note]
    by_cases hid : o.serviceID = id
    · subst hid
      cases hs : o.success with
      | true => simpa using h.lastErrAt o.serviceID
      | false =>
        cases o.err with
        | none => simpa using h.lastErrAt o.serviceID
        | some e => simp
    · simp only [hid, false_and, if_false, Option.none_or]
      split
      · rw [Function.update_of_ne (Ne.symm hid)]
        exact h.lastErrAt id
      · exact h.lastErrAt id

/-- What the polls, the relays and the panics left behind is what the history says. -/
structure Faithful (p : Proxy) : Prop where
  timed : p.history.Timed p.now
  polled : p.pollState = p.history.pollState
  counted : p.history.Counted p.stats p.lastErrAt
  panics : p.panics = UInt64.ofNat p.history.panics

/-- Nothing has happened yet. -/
theorem faithful_start (now : Int) : (start now).Faithful where
  timed := ⟨fun _ he ↦ absurd he List.not_mem_nil, List.Pairwise.nil⟩
  polled := rfl
  counted := ⟨rfl, fun _ ↦ rfl, fun _ ↦ rfl⟩
  panics := rfl

/-- What a step can do. The manager stores a session, polls, or does something that leaves
its cache and its height alone. -/
inductive Stepped (m : SessionManager) (p : Proxy) : ProxyAction → Proxy → Prop where
  | ticked (d : Nat) : Stepped m p (.tick d) { p with now := p.now + d }
  | went (a : SessionManager.Action) (s : SessionManager.State)
      (moved : SessionManager.Stepped m p.sessions a s)
      (cache : s.sessionCache = p.sessions.sessionCache)
      (height : s.latestBlockHeight = p.sessions.latestBlockHeight) :
      Stepped m p (.manager a) { p with sessions := s }
  | stored (i : Nat) (serviceID : ServiceID) (appAddr : String) (ds : Session)
      (storing : p.sessions.calls i = .storing serviceID appAddr ds) :
      Stepped m p (.manager (.store i)) { p.note (.stored serviceID ds) with
        sessions := p.sessions.store i serviceID appAddr ds }
  | polled (reply : Except Err Int) : Stepped m p (.manager (.poll reply))
      { p.polled reply with sessions := p.sessions.poll reply }
  | observed (supplier : EndpointAddr) (outcome : Outcome) :
      Stepped m p (.observe supplier outcome) (p.observe supplier outcome)
  | panicked : Stepped m p .panic ({ p with panics := p.panics + 1 }.note .panicked)

/-- The proxy moves in one of these ways. -/
theorem step_cases {m : SessionManager} {p p' : Proxy} {a : ProxyAction}
    (h : p.step m a = some p') : Stepped m p a p' := by
  cases a with
  | tick d =>
    cases h
    exact .ticked d
  | manager a =>
    obtain ⟨s, hs, rfl⟩ := Option.map_eq_some_iff.mp h
    have hm := SessionManager.step_cases hs
    cases hm with
    | stored i serviceID appAddr ds storing =>
      simp only [beside, storing]
      exact .stored i serviceID appAddr ds storing
    | polled reply => exact .polled reply
    | _ => exact .went _ _ (SessionManager.step_cases hs) rfl rfl
  | observe supplier outcome =>
    cases h
    exact .observed supplier outcome
  | panic =>
    cases h
    exact .panicked

private theorem pollState_polled (p : Proxy) (h : p.pollState = p.history.pollState)
    (reply : Except Err Int) :
    pollState { p.polled reply with sessions := p.sessions.poll reply } =
      (p.polled reply).history.pollState := by
  cases reply with
  | ok height =>
    simp [Proxy.pollState, History.pollState, Proxy.polled, SessionManager.State.poll,
      SessionManager.State.record, note, History.lastSuccess, History.success?, History.lastPoll,
      pollError]
  | error e =>
    simp only [Proxy.pollState, History.pollState, PollState.mk.injEq] at h
    simp [Proxy.pollState, History.pollState, Proxy.polled, SessionManager.State.poll,
      SessionManager.State.record, note, History.lastSuccess, History.success?, History.lastPoll,
      pollError]
    exact ⟨h.1, h.2.1⟩

/-- Every step keeps the proxy's figures faithful to its history. -/
theorem Faithful.step {m : SessionManager} {p p' : Proxy} {a : ProxyAction} (h : p.Faithful)
    (hs : p.step m a = some p') : p'.Faithful := by
  cases step_cases hs with
  | ticked d =>
    refine ⟨⟨fun e he ↦ ?_, h.timed.ordered⟩, h.polled, h.counted, h.panics⟩
    have hp := h.timed.past e he
    change e.1 ≤ p.now + d
    omega
  | went a s moved cache height =>
    refine ⟨h.timed, ?_, h.counted, h.panics⟩
    rw [← h.polled]
    simp only [Proxy.pollState, height]
  | stored i serviceID appAddr ds storing =>
    refine ⟨h.timed.concat _, ?_, h.counted.concat (fun _ _ h ↦ by cases h), ?_⟩
    · exact h.polled.trans (History.pollState_concat (fun _ h ↦ by cases h)).symm
    · exact h.panics.trans (congrArg _ (History.panics_concat (fun h ↦ by cases h)).symm)
  | polled reply =>
    refine ⟨?_, pollState_polled p h.polled reply, ?_, ?_⟩
    · cases reply <;> exact h.timed.concat _
    · cases reply <;> exact h.counted.concat (fun _ _ h ↦ by cases h)
    · cases reply <;>
        exact h.panics.trans (congrArg _ (History.panics_concat (fun h ↦ by cases h)).symm)
  | observed supplier outcome =>
    refine ⟨h.timed.concat _, ?_, counted_observe h.counted supplier outcome, ?_⟩
    · exact h.polled.trans (History.pollState_concat (fun _ h ↦ by cases h)).symm
    · exact h.panics.trans (congrArg _ (History.panics_concat (fun h ↦ by cases h)).symm)
  | panicked =>
    refine ⟨h.timed.concat _, ?_, h.counted.concat (fun _ _ h ↦ by cases h), ?_⟩
    · exact h.polled.trans (History.pollState_concat (fun _ h ↦ by cases h)).symm
    · change p.panics + 1 = UInt64.ofNat (History.panics (p.history ++ [_]))
      rw [h.panics]
      simp [History.panics]

end Proxy

end PocketAp.Health
