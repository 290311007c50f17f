import Mathlib.Data.List.Nodup
import Mathlib.Logic.Function.Basic
import PocketAp.Base.HostPort
import PocketAp.Base.Machine
import PocketAp.Pocket.Sender

/-!
# Sessions

`src/pocket/session.go` and `src/pocket/endpoint.go`. The manager's cache and block height
are shared by any number of `Session` calls and the poller, without a lock around them. Each
access to them is a step of its own, and so is each answer of the node: a call is the list
of steps `call`, `load`, `check`, `answer`, `store` as far as it gets. The log is a ghost, it
records what happened and is never read.
-/

namespace PocketAp.Pocket

open PocketAp.Base PocketAp.Domain PocketAp.Relay

/-! ### The node's session -/

/-- An endpoint as the SDK reports it. -/
structure SupplierEndpoint where
  supplier : String
  rpcType : Nat
  url : String
  deriving DecidableEq, Repr

/-- The node's answer: `endpoints` is what `SessionFilter.AllEndpoints` makes of it, grouped
by supplier, or nothing if that fails. -/
structure RawSession where
  sessionId : String
  header : Option SessionHeader
  endpoints : Option (List (List SupplierEndpoint))
  deriving DecidableEq, Repr

/-- `src/pocket/endpoint.go:16–22`. -/
def rpcTypeMapping : Nat → Option RPCType
  | 1 => some .grpc
  | 2 => some .webSocket
  | 3 => some .jsonRPC
  | 4 => some .rest
  | 5 => some .cometBFT
  | _ => none

/-- The URLs of one supplier; a later one for the same type replaces an earlier one.
`src/pocket/endpoint.go:46–52`. -/
def supplierURLs : List SupplierEndpoint → RPCType → Option String
  | [], _ => none
  | se :: rest, t =>
    match supplierURLs rest t with
    | some url => some url
    | none => if rpcTypeMapping se.rpcType = some t then some se.url else none

/-- `src/pocket/endpoint.go:29–56`. -/
def endpointsFromSession (raw : RawSession) : List Endpoint :=
  match raw.endpoints with
  | none => []
  | some allEndpoints => allEndpoints.filterMap fun
    | [] => none
    | se :: rest => some ⟨se.supplier, supplierURLs (se :: rest)⟩

/-- `src/pocket/session.go:238–247`; the header is there, the caller has looked. -/
def toDomainSession (serviceID : ServiceID) (appAddr : String) (raw : RawSession)
    (header : SessionHeader) : Session :=
  ⟨raw.sessionId, serviceID, appAddr, header.sessionEndBlockHeight, endpointsFromSession raw,
    raw.header⟩

/-! ### The manager -/

/-- `src/pocket/session.go:101–104`. -/
structure ServiceApp where
  serviceID : ServiceID
  appAddr : String
  deriving DecidableEq, Repr

/-- What a manager is built with. `src/pocket/session.go:32–40`. -/
structure SessionManager where
  appByService : ServiceID → Option String
  services : List ServiceID

namespace SessionManager

/-- `src/pocket/session.go:115–121`. -/
def addApps (m : SessionManager) : List ServiceApp → Except Err SessionManager
  | [] => .ok m
  | a :: apps =>
    match m.appByService a.serviceID with
    | some prev => .error (.text ("sessions: service " ++ a.serviceID ++
        " is claimed by two apps (" ++ prev ++ " and " ++ a.appAddr ++
        ") — one app per service, app rotation is not supported"))
    | none => addApps ⟨Function.update m.appByService a.serviceID (some a.appAddr),
        m.services ++ [a.serviceID]⟩ apps

end SessionManager

/-- `src/pocket/session.go:112–129`. -/
def newSessionManager (apps : List ServiceApp) : Except Err SessionManager :=
  SessionManager.addApps ⟨fun _ ↦ none, []⟩ apps

namespace SessionManager

private theorem addApps_ok {m m' : SessionManager} {apps : List ServiceApp}
    (h : m.addApps apps = .ok m') :
    m'.services = m.services ++ apps.map ServiceApp.serviceID ∧
      (apps.map ServiceApp.serviceID).Nodup ∧
      (∀ a ∈ apps, m.appByService a.serviceID = none) ∧
      ∀ serviceID appAddr, m'.appByService serviceID = some appAddr ↔
        m.appByService serviceID = some appAddr ∨ ⟨serviceID, appAddr⟩ ∈ apps := by
  induction apps generalizing m with
  | nil =>
    cases h
    simp
  | cons a apps ih =>
    unfold addApps at h
    cases hp : m.appByService a.serviceID with
    | some prev => simp [hp] at h
    | none =>
      rw [hp] at h
      obtain ⟨hs, hn, hnew, hiff⟩ := ih h
      have hother (b : ServiceApp) (hb : b ∈ apps) : b.serviceID ≠ a.serviceID := by
        intro heq
        have hnone := hnew b hb
        simp [heq] at hnone
      refine ⟨by simp [hs], ?_, ?_, ?_⟩
      · simpa [hn] using hother
      · intro b hb
        rcases List.mem_cons.mp hb with rfl | hb
        · exact hp
        · have hnone := hnew b hb
          simpa only [Function.update_of_ne (hother b hb)] using hnone
      · intro serviceID appAddr
        rw [hiff, List.mem_cons]
        by_cases heq : serviceID = a.serviceID
        · subst heq
          have hout : ⟨a.serviceID, appAddr⟩ ∉ apps := fun hb ↦ hother _ hb rfl
          rcases a with ⟨aid, addr⟩
          simp only [Function.update_self, hp, Option.some.injEq, ServiceApp.mk.injEq]
          grind
        · rcases a with ⟨aid, addr⟩
          simp only at heq
          simp [heq]

end SessionManager

/-- A manager knows the apps it was built with, in their order, one for each service. -/
theorem newSessionManager_ok {apps : List ServiceApp} {m : SessionManager}
    (h : newSessionManager apps = .ok m) :
    m.services = apps.map ServiceApp.serviceID ∧ (apps.map ServiceApp.serviceID).Nodup ∧
      ∀ serviceID appAddr, m.appByService serviceID = some appAddr ↔
        ⟨serviceID, appAddr⟩ ∈ apps := by
  obtain ⟨hs, hn, -, hiff⟩ := SessionManager.addApps_ok h
  refine ⟨by simpa using hs, hn, fun serviceID appAddr ↦ ?_⟩
  simpa using hiff serviceID appAddr

namespace SessionManager

/-- `src/pocket/session.go:135–138`. -/
def appAddrFor (m : SessionManager) (serviceID : ServiceID) : Option String :=
  m.appByService serviceID

/-- `src/pocket/session.go:202–203`. -/
def noApp (m : SessionManager) (serviceID : ServiceID) : Err :=
  .text ("session: no app configured for service " ++ serviceID ++ " (configured: [" ++
    " ".intercalate m.services ++ "])")

/-- `src/pocket/session.go:205`. -/
def cacheKey (serviceID : ServiceID) (appAddr : String) : String := serviceID ++ ":" ++ appAddr

/-- Without a colon in the addresses, a key says which service and which app it is for. -/
theorem cacheKey_inj {serviceID serviceID' : ServiceID} {appAddr appAddr' : String}
    (ha : ':' ∉ appAddr.toList) (ha' : ':' ∉ appAddr'.toList)
    (h : cacheKey serviceID appAddr = cacheKey serviceID' appAddr') :
    serviceID = serviceID' ∧ appAddr = appAddr' := by
  have hl := congrArg String.toList h
  have hc : ":".toList = [':'] := by decide
  simp only [cacheKey, String.toList_append, hc, List.append_assoc, List.singleton_append] at hl
  obtain ⟨hs, ht⟩ := append_cons_inj hl ha ha'
  exact ⟨String.toList_injective hs, String.toList_injective ht⟩

/-- What a call makes of the node's answer. `src/pocket/session.go:219–227`. -/
def receive (serviceID : ServiceID) (appAddr : String) :
    Except Err RawSession → Except Err Session
  | .error e => .error (.errorf ("session: fetch " ++ serviceID ++ ": ") e)
  | .ok raw =>
    match raw.header with
    | none => .error (.text ("session: " ++ serviceID ++ " returned session with nil header"))
    | some header => .ok (toDomainSession serviceID appAddr raw header)

/-- A session is taken from an answer with a header. -/
theorem receive_ok {serviceID : ServiceID} {appAddr : String} {reply : Except Err RawSession}
    {ds : Session} (h : receive serviceID appAddr reply = .ok ds) :
    ∃ raw header, reply = .ok raw ∧ raw.header = some header ∧
      ds = toDomainSession serviceID appAddr raw header := by
  cases reply with
  | error e => cases h
  | ok raw =>
    simp only [receive] at h
    split at h
    · cases h
    · next header hh =>
      cases h
      exact ⟨raw, header, rfl, hh, rfl⟩

/-- How far a call of `Session` has come. -/
inductive Call where
  | idle
  | loading (serviceID : ServiceID) (appAddr : String)
  | checking (serviceID : ServiceID) (appAddr : String) (cached : Session)
  | fetching (serviceID : ServiceID) (appAddr : String)
  | storing (serviceID : ServiceID) (appAddr : String) (ds : Session)
  | returned (serviceID : ServiceID) (result : Except Err Session)

/-- What happened. -/
inductive Event where
  | served (serviceID : ServiceID) (session : Session) (height : Int)
  | expired (serviceID : ServiceID) (session : Session) (height : Int)
  | asked (serviceID : ServiceID) (appAddr : String) (reply : Except Err RawSession)
  | stored (serviceID : ServiceID) (session : Session)
  | polled (reply : Except Err Int)

/-- The shared variables, the calls, and the log. `src/pocket/session.go:42–43`. -/
structure State where
  sessionCache : String → Option Session
  latestBlockHeight : Int
  calls : Nat → Call
  log : List Event

/-- Before the first call and the first poll. -/
def start : State := ⟨fun _ ↦ none, 0, fun _ ↦ .idle, []⟩

/-- Steps of a call, with the node's answer; and a poll. -/
inductive Action where
  | call (i : Nat) (serviceID : ServiceID)
  | load (i : Nat)
  | check (i : Nat)
  | answer (i : Nat) (reply : Except Err RawSession)
  | store (i : Nat)
  | poll (reply : Except Err Int)

namespace State

/-- Call `i` goes on. -/
def goOn : State → Nat → Call → State :=
  Base.goOn State.calls fun s calls ↦ { s with calls := calls }

/-- Something happens. -/
def record (s : State) (e : Event) : State := { s with log := s.log ++ [e] }

/-- Recording an event leaves the calls where they are. -/
@[simp] theorem record_calls (s : State) (e : Event) : (s.record e).calls = s.calls := rfl

/-- An event is recorded at the end. -/
@[simp] theorem record_log (s : State) (e : Event) : (s.record e).log = s.log ++ [e] := rfl

/-- The other calls stay where they are. -/
theorem goOn_calls (s : State) (i j : Nat) (c : Call) :
    (s.goOn i c).calls j = if j = i then c else s.calls j :=
  get_goOn State.calls _ (fun _ _ ↦ rfl) s i c j

/-- The end of a refresh. `src/pocket/session.go:228–233`. -/
def store (s : State) (i : Nat) (serviceID : ServiceID) (appAddr : String) (ds : Session) : State :=
  ({ s with sessionCache :=
    Function.update s.sessionCache (cacheKey serviceID appAddr) (some ds) }.goOn i
      (.returned serviceID (.ok ds))).record (.stored serviceID ds)

/-- The end of a poll. `src/pocket/session.go:178–194`. -/
def poll (s : State) : Except Err Int → State
  | .error e => s.record (.polled (.error e))
  | .ok height => { s with latestBlockHeight := height }.record (.polled (.ok height))

end State

/-- One step of `Session`, `src/pocket/session.go:199–234`, or of `pollBlockHeight`. -/
def step (m : SessionManager) (s : State) : Action → Option State
  | .call i serviceID =>
    match s.calls i with
    | .idle =>
      match m.appAddrFor serviceID with
      | none => some (s.goOn i (.returned serviceID (.error (m.noApp serviceID))))
      | some appAddr => some (s.goOn i (.loading serviceID appAddr))
    | _ => none
  | .load i =>
    match s.calls i with
    | .loading serviceID appAddr =>
      match s.sessionCache (cacheKey serviceID appAddr) with
      | none => some (s.goOn i (.fetching serviceID appAddr))
      | some cached => some (s.goOn i (.checking serviceID appAddr cached))
    | _ => none
  | .check i =>
    match s.calls i with
    | .checking serviceID appAddr cached =>
      if s.latestBlockHeight < cached.endBlockHeight then
        some ((s.goOn i (.returned serviceID (.ok cached))).record
          (.served serviceID cached s.latestBlockHeight))
      else
        some ((s.goOn i (.fetching serviceID appAddr)).record
          (.expired serviceID cached s.latestBlockHeight))
    | _ => none
  | .answer i reply =>
    match s.calls i with
    | .fetching serviceID appAddr =>
      match receive serviceID appAddr reply with
      | .error e =>
        some ((s.goOn i (.returned serviceID (.error e))).record (.asked serviceID appAddr reply))
      | .ok ds =>
        some ((s.goOn i (.storing serviceID appAddr ds)).record (.asked serviceID appAddr reply))
    | _ => none
  | .store i =>
    match s.calls i with
    | .storing serviceID appAddr ds => some (s.store i serviceID appAddr ds)
    | _ => none
  | .poll reply => some (s.poll reply)

/-- What a step can do. -/
inductive Stepped (m : SessionManager) (s : State) : Action → State → Prop where
  | unknown (i : Nat) (serviceID : ServiceID) (idle : s.calls i = .idle)
      (absent : m.appAddrFor serviceID = none) :
      Stepped m s (.call i serviceID)
        (s.goOn i (.returned serviceID (.error (m.noApp serviceID))))
  | called (i : Nat) (serviceID : ServiceID) (appAddr : String) (idle : s.calls i = .idle)
      (found : m.appAddrFor serviceID = some appAddr) :
      Stepped m s (.call i serviceID) (s.goOn i (.loading serviceID appAddr))
  | missed (i : Nat) (serviceID : ServiceID) (appAddr : String)
      (loading : s.calls i = .loading serviceID appAddr)
      (absent : s.sessionCache (cacheKey serviceID appAddr) = none) :
      Stepped m s (.load i) (s.goOn i (.fetching serviceID appAddr))
  | hit (i : Nat) (serviceID : ServiceID) (appAddr : String) (cached : Session)
      (loading : s.calls i = .loading serviceID appAddr)
      (found : s.sessionCache (cacheKey serviceID appAddr) = some cached) :
      Stepped m s (.load i) (s.goOn i (.checking serviceID appAddr cached))
  | served (i : Nat) (serviceID : ServiceID) (appAddr : String) (cached : Session)
      (checking : s.calls i = .checking serviceID appAddr cached)
      (fresh : s.latestBlockHeight < cached.endBlockHeight) :
      Stepped m s (.check i) ((s.goOn i (.returned serviceID (.ok cached))).record
        (.served serviceID cached s.latestBlockHeight))
  | expired (i : Nat) (serviceID : ServiceID) (appAddr : String) (cached : Session)
      (checking : s.calls i = .checking serviceID appAddr cached)
      (passed : cached.endBlockHeight ≤ s.latestBlockHeight) :
      Stepped m s (.check i) ((s.goOn i (.fetching serviceID appAddr)).record
        (.expired serviceID cached s.latestBlockHeight))
  | failed (i : Nat) (serviceID : ServiceID) (appAddr : String) (reply : Except Err RawSession)
      (e : Err) (fetching : s.calls i = .fetching serviceID appAddr)
      (received : receive serviceID appAddr reply = .error e) :
      Stepped m s (.answer i reply) ((s.goOn i (.returned serviceID (.error e))).record
        (.asked serviceID appAddr reply))
  | answered (i : Nat) (serviceID : ServiceID) (appAddr : String)
      (reply : Except Err RawSession) (ds : Session)
      (fetching : s.calls i = .fetching serviceID appAddr)
      (received : receive serviceID appAddr reply = .ok ds) :
      Stepped m s (.answer i reply) ((s.goOn i (.storing serviceID appAddr ds)).record
        (.asked serviceID appAddr reply))
  | stored (i : Nat) (serviceID : ServiceID) (appAddr : String) (ds : Session)
      (storing : s.calls i = .storing serviceID appAddr ds) :
      Stepped m s (.store i) (s.store i serviceID appAddr ds)
  | polled (reply : Except Err Int) : Stepped m s (.poll reply) (s.poll reply)

/-- The manager moves in one of these ways. -/
theorem step_cases {m : SessionManager} {s s' : State} {a : Action}
    (h : step m s a = some s') : Stepped m s a s' := by
  cases a with
  | call i serviceID =>
    simp only [step] at h
    split at h
    · next idle =>
      split at h
      · next absent =>
        cases h
        exact .unknown i serviceID idle absent
      · next appAddr found =>
        cases h
        exact .called i serviceID appAddr idle found
    · cases h
  | load i =>
    simp only [step] at h
    split at h
    · next serviceID appAddr loading =>
      split at h
      · next absent =>
        cases h
        exact .missed i serviceID appAddr loading absent
      · next cached found =>
        cases h
        exact .hit i serviceID appAddr cached loading found
    · cases h
  | check i =>
    simp only [step] at h
    split at h
    · next serviceID appAddr cached checking =>
      split at h
      · next fresh =>
        cases h
        exact .served i serviceID appAddr cached checking fresh
      · next passed =>
        cases h
        exact .expired i serviceID appAddr cached checking (by omega)
    · cases h
  | answer i reply =>
    simp only [step] at h
    split at h
    · next serviceID appAddr fetching =>
      split at h
      · next e received =>
        cases h
        exact .failed i serviceID appAddr reply e fetching received
      · next ds received =>
        cases h
        exact .answered i serviceID appAddr reply ds fetching received
    · cases h
  | store i =>
    simp only [step] at h
    split at h
    · next serviceID appAddr ds storing =>
      cases h
      exact .stored i serviceID appAddr ds storing
    · cases h
  | poll reply =>
    cases h
    exact .polled reply

end SessionManager
end PocketAp.Pocket
