import PocketAp.Pocket.Session
import PocketAp.Pocket.Signer
import PocketAp.Relay.Bridge
import PocketAp.Relay.Delivery

/-!
# Who pays

A session is fetched for a service and the app configured for it, kept under a key made of
the two, and handed to relays and bridges of that service; whoever signs under it is looked
up by the app's address. The invariant of the session manager's machine carries the first
part through every interleaving, the index of the signers gives the second.
-/

namespace PocketAp.Pocket

open PocketAp.Base PocketAp.Domain PocketAp.Relay

namespace SessionManager

/-! ### Where sessions come from -/

/-- The session is what the node answered for this service and this app. -/
def FetchedFor (log : List Event) (serviceID : ServiceID) (appAddr : String)
    (session : Session) : Prop :=
  ∃ raw header, .asked serviceID appAddr (.ok raw) ∈ log ∧ raw.header = some header ∧
    session = toDomainSession serviceID appAddr raw header

/-- What a call has in hand was fetched for its service and the app of that service. -/
def Call.Sound (m : SessionManager) (log : List Event) : Call → Prop
  | .idle => True
  | .loading serviceID appAddr => m.appAddrFor serviceID = some appAddr
  | .checking serviceID appAddr cached =>
    m.appAddrFor serviceID = some appAddr ∧ FetchedFor log serviceID appAddr cached
  | .fetching serviceID appAddr => m.appAddrFor serviceID = some appAddr
  | .storing serviceID appAddr ds =>
    m.appAddrFor serviceID = some appAddr ∧ FetchedFor log serviceID appAddr ds
  | .returned serviceID (.ok session) =>
    ∃ appAddr, m.appAddrFor serviceID = some appAddr ∧ FetchedFor log serviceID appAddr session
  | .returned _ (.error _) => True

/-- So was what is in the cache. -/
structure Sound (m : SessionManager) (s : State) : Prop where
  calls : ∀ i, (s.calls i).Sound m s.log
  cache : ∀ key session, s.sessionCache key = some session →
    ∃ serviceID appAddr, key = cacheKey serviceID appAddr ∧
      m.appAddrFor serviceID = some appAddr ∧ FetchedFor s.log serviceID appAddr session

section Invariant

variable {m : SessionManager} {s : State}

private theorem FetchedFor.grow {log : List Event} {serviceID : ServiceID} {appAddr : String}
    {session : Session} (h : FetchedFor log serviceID appAddr session) (e : Event) :
    FetchedFor (log ++ [e]) serviceID appAddr session := by
  obtain ⟨raw, header, hmem, hh, hs⟩ := h
  exact ⟨raw, header, List.mem_append_left _ hmem, hh, hs⟩

private theorem Call.Sound.grow {log : List Event} {c : Call} (h : c.Sound m log) (e : Event) :
    c.Sound m (log ++ [e]) := by
  cases c with
  | idle => trivial
  | loading serviceID appAddr => exact h
  | checking serviceID appAddr cached => exact ⟨h.1, h.2.grow e⟩
  | fetching serviceID appAddr => exact h
  | storing serviceID appAddr ds => exact ⟨h.1, h.2.grow e⟩
  | returned serviceID result =>
    cases result with
    | error e' => trivial
    | ok session =>
      obtain ⟨appAddr, ha, hf⟩ := h
      exact ⟨appAddr, ha, hf.grow e⟩

private theorem Sound.record (h : Sound m s) (e : Event) : Sound m (s.record e) := by
  constructor
  · intro i
    exact (h.calls i).grow e
  · intro key session hk
    obtain ⟨serviceID, appAddr, hkey, ha, hf⟩ := h.cache key session hk
    exact ⟨serviceID, appAddr, hkey, ha, hf.grow e⟩

private theorem Sound.goOn (h : Sound m s) (i : Nat) {c : Call} (hc : c.Sound m s.log) :
    Sound m (s.goOn i c) := by
  constructor
  · intro j
    rw [State.goOn_calls]
    by_cases hj : j = i
    · rw [if_pos hj]
      exact hc
    · rw [if_neg hj]
      exact h.calls j
  · exact h.cache

private theorem Sound.update (h : Sound m s) {serviceID : ServiceID} {appAddr : String}
    {ds : Session} (ha : m.appAddrFor serviceID = some appAddr)
    (hf : FetchedFor s.log serviceID appAddr ds) :
    Sound m { s with sessionCache :=
      Function.update s.sessionCache (cacheKey serviceID appAddr) (some ds) } := by
  constructor
  · exact h.calls
  · intro key session hk
    simp only [Function.update_apply] at hk
    by_cases hkey : key = cacheKey serviceID appAddr
    · rw [if_pos hkey] at hk
      cases hk
      exact ⟨serviceID, appAddr, hkey, ha, hf⟩
    · rw [if_neg hkey] at hk
      exact h.cache key session hk

/-- No call has been made yet. -/
theorem sound_start (m : SessionManager) : Sound m start := by
  constructor
  · intro i
    trivial
  · intro key session hk
    cases hk

/-- Every step keeps sessions with the application they were fetched for. -/
theorem sound_step (hcolon : ∀ serviceID appAddr, m.appAddrFor serviceID = some appAddr →
    ':' ∉ appAddr.toList) {a : Action} {s' : State} (h : Sound m s) (hstep : step m s a = some s') :
    Sound m s' := by
  cases step_cases hstep with
  | unknown i serviceID idle absent => exact h.goOn i trivial
  | called i serviceID appAddr idle found => exact h.goOn i found
  | missed i serviceID appAddr loading absent =>
    have hc := h.calls i
    rw [loading] at hc
    exact h.goOn i hc
  | hit i serviceID appAddr cached loading found =>
    have hc := h.calls i
    rw [loading] at hc
    -- The entry was stored under this very key, hence for this service and this app.
    obtain ⟨serviceID', appAddr', hkey, ha, hf⟩ := h.cache _ _ found
    obtain ⟨rfl, rfl⟩ := cacheKey_inj (hcolon _ _ hc) (hcolon _ _ ha) hkey
    exact h.goOn i ⟨hc, hf⟩
  | served i serviceID appAddr cached checking fresh =>
    have hc := h.calls i
    rw [checking] at hc
    exact (h.goOn i (c := .returned serviceID (.ok cached)) ⟨appAddr, hc⟩).record _
  | expired i serviceID appAddr cached checking passed =>
    have hc := h.calls i
    rw [checking] at hc
    exact (h.goOn i (c := .fetching serviceID appAddr) hc.1).record _
  | failed i serviceID appAddr reply e fetching received =>
    exact (h.goOn i (c := .returned serviceID (.error e)) trivial).record _
  | answered i serviceID appAddr reply ds fetching received =>
    have hc := h.calls i
    rw [fetching] at hc
    obtain ⟨raw, header, rfl, hh, hds⟩ := receive_ok received
    have hf : FetchedFor (s.record (.asked serviceID appAddr (.ok raw))).log serviceID appAddr ds :=
      ⟨raw, header, by simp, hh, hds⟩
    exact (h.record _).goOn i ⟨hc, hf⟩
  | stored i serviceID appAddr ds storing =>
    have hc := h.calls i
    rw [storing] at hc
    exact ((h.update hc.1 hc.2).goOn i (c := .returned serviceID (.ok ds))
      ⟨appAddr, hc⟩).record _
  | polled reply =>
    cases reply with
    | error e => exact h.record _
    | ok height =>
      have hp : Sound m { s with latestBlockHeight := height } := ⟨h.calls, h.cache⟩
      exact hp.record _

end Invariant

/-- A session for the service of this app, paid by this app, as the node answered for the
two. -/
structure BilledTo (log : List Event) (a : ServiceApp) (session : Session) : Prop where
  serviceID : session.serviceID = a.serviceID
  appAddr : session.appAddr = a.appAddr
  fetched : FetchedFor log a.serviceID a.appAddr session

private theorem FetchedFor.billedTo {log : List Event} {a : ServiceApp} {session : Session}
    (h : FetchedFor log a.serviceID a.appAddr session) : BilledTo log a session := by
  obtain ⟨raw, header, hmem, hh, rfl⟩ := h
  exact ⟨rfl, rfl, raw, header, hmem, hh, rfl⟩

/-- What holds of a state of the manager and of the steps from it. -/
structure Accounted (apps : List ServiceApp) (m : SessionManager) (s : State) : Prop where
  returned : ∀ i serviceID session, s.calls i = .returned serviceID (.ok session) →
    ∃ a ∈ apps, a.serviceID = serviceID ∧ BilledTo s.log a session
  cached : ∀ a ∈ apps, ∀ session,
    s.sessionCache (cacheKey a.serviceID a.appAddr) = some session → BilledTo s.log a session
  /-- The node fails, or its answer has no header. -/
  failed : ∀ i reply s', step m s (.answer i reply) = some s' →
    (∀ raw, reply = .ok raw → raw.header = none) →
    s'.sessionCache = s.sessionCache ∧ ∃ serviceID e, s'.calls i = .returned serviceID (.error e)
  /-- Only a call that has fetched a session writes to the cache. -/
  written : ∀ action s', step m s action = some s' → s'.sessionCache ≠ s.sessionCache →
    ∃ i serviceID appAddr ds, action = .store i ∧ s.calls i = .storing serviceID appAddr ds ∧
      FetchedFor s.log serviceID appAddr ds
  /-- A session is returned fresh from the cache, or by the call that fetched it. -/
  fresh : ∀ i serviceID session action s', step m s action = some s' →
    s.calls i ≠ s'.calls i → s'.calls i = .returned serviceID (.ok session) →
    (action = .check i ∧ s.latestBlockHeight < session.endBlockHeight) ∨
      (action = .store i ∧ ∃ appAddr, s.calls i = .storing serviceID appAddr session)

section Accounts

variable {apps : List ServiceApp} {m : SessionManager} {s : State}

private theorem written_of_step {action : Action} {s' : State} (h : Sound m s)
    (hstep : step m s action = some s') (hne : s'.sessionCache ≠ s.sessionCache) :
    ∃ i serviceID appAddr ds, action = .store i ∧ s.calls i = .storing serviceID appAddr ds ∧
      FetchedFor s.log serviceID appAddr ds := by
  cases step_cases hstep with
  | stored i serviceID appAddr ds storing =>
    have hc := h.calls i
    rw [storing] at hc
    exact ⟨i, serviceID, appAddr, ds, rfl, storing, hc.2⟩
  | polled reply => cases reply <;> exact absurd rfl hne
  | _ => exact absurd rfl hne

private theorem failed_of_step {i : Nat} {reply : Except Err RawSession} {s' : State}
    (hstep : step m s (.answer i reply) = some s')
    (hreply : ∀ raw, reply = .ok raw → raw.header = none) :
    s'.sessionCache = s.sessionCache ∧
      ∃ serviceID e, s'.calls i = .returned serviceID (.error e) := by
  cases step_cases hstep with
  | failed i serviceID appAddr reply e fetching received =>
    exact ⟨rfl, serviceID, e, by simp [State.goOn_calls]⟩
  | answered i serviceID appAddr reply ds fetching received =>
    obtain ⟨raw, header, hr, hh, -⟩ := receive_ok received
    rw [hreply raw hr] at hh
    cases hh

private theorem fresh_of_step {i : Nat} {serviceID : ServiceID} {session : Session}
    {action : Action} {s' : State} (hstep : step m s action = some s')
    (hne : s.calls i ≠ s'.calls i) (hret : s'.calls i = .returned serviceID (.ok session)) :
    (action = .check i ∧ s.latestBlockHeight < session.endBlockHeight) ∨
      (action = .store i ∧ ∃ appAddr, s.calls i = .storing serviceID appAddr session) := by
  -- The call that moves is the one that returns.
  have hmoves {j : Nat} {c : Call} (h : s'.calls i = if i = j then c else s.calls i) :
      i = j ∧ c = .returned serviceID (.ok session) := by
    by_cases hij : i = j
    · rw [if_pos hij] at h
      exact ⟨hij, h.symm.trans hret⟩
    · rw [if_neg hij] at h
      exact absurd h.symm hne
  cases step_cases hstep with
  | unknown j serviceID' idle absent => cases (hmoves (State.goOn_calls ..)).2
  | called j serviceID' appAddr idle found => cases (hmoves (State.goOn_calls ..)).2
  | missed j serviceID' appAddr loading absent => cases (hmoves (State.goOn_calls ..)).2
  | hit j serviceID' appAddr cached loading found => cases (hmoves (State.goOn_calls ..)).2
  | served j serviceID' appAddr cached checking fresh =>
    obtain ⟨rfl, hc⟩ := hmoves (State.goOn_calls ..)
    cases hc
    exact .inl ⟨rfl, fresh⟩
  | expired j serviceID' appAddr cached checking passed => cases (hmoves (State.goOn_calls ..)).2
  | failed j serviceID' appAddr reply e fetching received =>
    cases (hmoves (State.goOn_calls ..)).2
  | answered j serviceID' appAddr reply ds fetching received =>
    cases (hmoves (State.goOn_calls ..)).2
  | stored j serviceID' appAddr ds storing =>
    obtain ⟨rfl, hc⟩ := hmoves (State.goOn_calls ..)
    cases hc
    exact .inr ⟨rfl, appAddr, storing⟩
  | polled reply => cases reply <;> exact absurd rfl hne

private theorem Sound.accounted (hm : newSessionManager apps = .ok m)
    (hcolon : ∀ a ∈ apps, ':' ∉ a.appAddr.toList) (h : Sound m s) : Accounted apps m s := by
  obtain ⟨-, -, hiff⟩ := newSessionManager_ok hm
  constructor
  · intro i serviceID session hret
    have hc := h.calls i
    rw [hret] at hc
    obtain ⟨appAddr, ha, hf⟩ := hc
    exact ⟨⟨serviceID, appAddr⟩, (hiff serviceID appAddr).mp ha, rfl, hf.billedTo⟩
  · intro a hmem session hk
    obtain ⟨serviceID, appAddr, hkey, ha, hf⟩ := h.cache _ _ hk
    have hcolon' : ':' ∉ appAddr.toList := hcolon _ ((hiff serviceID appAddr).mp ha)
    obtain ⟨hs, ht⟩ := cacheKey_inj (hcolon a hmem) hcolon' hkey
    rw [← hs, ← ht] at hf
    exact hf.billedTo
  · intro i reply s' hstep hreply
    exact failed_of_step hstep hreply
  · intro action s' hstep hne
    exact written_of_step h hstep hne
  · intro i serviceID session action s' hstep hne hret
    exact fresh_of_step hstep hne hret

/-- After every run sessions are with the application they were fetched for. -/
theorem sound_run (hm : newSessionManager apps = .ok m)
    (hcolon : ∀ a ∈ apps, ':' ∉ a.appAddr.toList) {as : List Action}
    (hrun : runAll (step m) start as = some s) : Sound m s := by
  obtain ⟨-, -, hiff⟩ := newSessionManager_ok hm
  refine invariant_of_step (fun s a s' hs hstep ↦ sound_step ?_ hs hstep) (sound_start m) hrun
  intro serviceID appAddr ha
  exact hcolon _ ((hiff serviceID appAddr).mp ha)

end Accounts

/-- A session the manager returned for a service, in some interleaving. -/
def Issued (m : SessionManager) (serviceID : ServiceID) (session : Session) : Prop :=
  ∃ as s i, runAll (step m) start as = some s ∧ s.calls i = .returned serviceID (.ok session)

/-- A session that was handed out is billed to its service's application. -/
theorem Issued.billed {apps : List ServiceApp} {m : SessionManager} {serviceID : ServiceID}
    {session : Session} (h : Issued m serviceID session) (hm : newSessionManager apps = .ok m)
    (hcolon : ∀ a ∈ apps, ':' ∉ a.appAddr.toList) :
    ∃ a ∈ apps, a.serviceID = serviceID ∧ session.serviceID = a.serviceID ∧
      session.appAddr = a.appAddr := by
  obtain ⟨as, s, i, hrun, hret⟩ := h
  obtain ⟨a, hmem, hs, hb⟩ := ((sound_run hm hcolon hrun).accounted hm hcolon).returned
    i serviceID session hret
  exact ⟨a, hmem, hs, hb.serviceID, hb.appAddr⟩

end SessionManager

/-! ### Who signs -/

section Signing

variable [Shannon]

/-- The one signer whose key derives an address. -/
structure SoleSigner (signers : List Signer) (appAddr : String) (signer : Signer) : Prop where
  mem : signer ∈ signers
  derives : deriveAppAddr signer.privateKeyHex = .ok appAddr
  only : ∀ other ∈ signers, deriveAppAddr other.privateKeyHex = .ok appAddr → other = signer

private theorem soleSigner_of_mem {signers : List Signer} (hn : (signers.map Signer.appAddr).Nodup)
    {signer : Signer} (hmem : signer ∈ signers) : SoleSigner signers signer.appAddr signer := by
  refine ⟨hmem, signer.derived, fun other hother hd ↦ ?_⟩
  have ha : other.appAddr = signer.appAddr := by
    rw [other.derived] at hd
    exact Except.ok.inj hd
  exact List.inj_on_of_nodup_map hn hother hmem ha

variable {ω : Type} (c : Chain ω)

namespace MultiSigner

/-- Whoever signs for a session of an app is the signer of that app. -/
theorem signerFor_sole {signers : List Signer} (hn : (signers.map Signer.appAddr).Nodup)
    {appAddr : String} (hex : ∃ signer ∈ signers, signer.appAddr = appAddr) {session : Session}
    (hs : session.appAddr = appAddr) :
    ∃ signer, SoleSigner signers appAddr signer ∧ signer.appAddr = appAddr ∧
      (newMultiSigner signers).signerFor session = .ok signer := by
  obtain ⟨signer, hmem, ha⟩ := hex
  have hfound := (newMultiSigner_byAddr hn appAddr signer).mpr ⟨hmem, ha⟩
  refine ⟨signer, ?_, ha, ?_⟩
  · rw [← ha]
    exact soleSigner_of_mem hn hmem
  · simp only [signerFor, hs, hfound]

end MultiSigner

/-- A relay that was signed for an app, by its signer. -/
def SignedRelay (signers : List Signer) (a : ServiceApp) (session : Session) (ep : Endpoint)
    (rpcType : RPCType) (input : RelayInput) (result : Except Err Bytes) : Prop :=
  session.serviceID = a.serviceID ∧ session.appAddr = a.appAddr ∧
    ∃ signer, SoleSigner signers a.appAddr signer ∧
      ∃ s, (withCaches signer.appAddr (signer.signRelay c session ep rpcType input) s).1 = result

/-- A bridge for an app: its handshake names the service and the app, and its frames are
signed by the app's signer. -/
def SignedBridge (signers : List Signer) (a : ServiceApp) (prepared : Prepared (AllCaches × ω)) :
    Prop :=
  prepared.session.serviceID = a.serviceID ∧ prepared.session.appAddr = a.appAddr ∧
    prepared.headers.lookup headerTargetServiceID = some [a.serviceID] ∧
    prepared.headers.lookup headerAppAddress = some [a.appAddr] ∧
    ∃ signer, SoleSigner signers a.appAddr signer ∧ ∀ data,
      prepared.processor.processClientMessage data =
        withCaches signer.appAddr (signer.signFrame c prepared.session prepared.supplier data)

open SessionManager in
/-- Whatever the interleaving, sessions are billed to the app configured for their service,
and relays and bridges of a service are signed by the signer of that app. -/
theorem relays_billed [GoLib] {apps : List ServiceApp} {m : SessionManager}
    (hm : newSessionManager apps = .ok m) (signers : List Signer)
    (hone : (signers.map Signer.appAddr).Nodup)
    (hall : ∀ a ∈ apps, ∃ signer ∈ signers, signer.appAddr = a.appAddr)
    (hcolon : ∀ a ∈ apps, ':' ∉ a.appAddr.toList) :
    (apps.map ServiceApp.serviceID).Nodup ∧
    (∀ as s, runAll (step m) start as = some s → Accounted apps m s) ∧
    (∀ (π γ : Type) (r : Relayer (AllCaches × ω)),
      r.signer = (newMultiSigner signers).signRelay c →
      (∀ serviceID w session w', r.sessions serviceID w = (.ok session, w') →
        Issued m serviceID session) →
      ∀ ctx serviceID rpcType input (onBatch : RelayResult → Exec π _ γ (Except Err Unit)) w
        session ep rpcType' input' result,
        (.sign session ep rpcType' input' result ∈
            (r.relay ctx serviceID rpcType input : Exec π _ (Event γ) _).events w ∨
          .sign session ep rpcType' input' result ∈
            (r.relayStream ctx serviceID rpcType input onBatch).events w) →
        ∃ a ∈ apps, a.serviceID = serviceID ∧
          SignedRelay c signers a session ep rpcType' input' result) ∧
    (∀ b : Bridge (AllCaches × ω), b.signer = (newMultiSigner signers).signFrame c →
      (∀ serviceID w session w', b.sessions serviceID w = (.ok session, w') →
        Issued m serviceID session) →
      ∀ ctx serviceID rpcType w prepared w', b.prepare ctx serviceID rpcType w = (.ok prepared, w') →
        ∃ a ∈ apps, a.serviceID = serviceID ∧ SignedBridge c signers a prepared) := by
  refine ⟨(newSessionManager_ok hm).2.1, ?_, ?_, ?_⟩
  · intro as s hrun
    exact (sound_run hm hcolon hrun).accounted hm hcolon
  · intro π γ r hsigner hissued ctx serviceID rpcType input onBatch w session ep rpcType' input'
      result hsign
    obtain ⟨session', w', hfetch, ep', hof⟩ :=
      hsign.elim (Relayer.relay_calls _) (Relayer.relayStream_calls _)
    obtain ⟨rfl, rfl, rfl, rfl, w'', hres⟩ := hof
    obtain ⟨a, hmem, hs, hid, haddr⟩ := (hissued _ _ _ _ hfetch).billed hm hcolon
    obtain ⟨signer, hsole, -, hfor⟩ := MultiSigner.signerFor_sole hone (hall a hmem) haddr
    refine ⟨a, hmem, hs, hid, haddr, signer, hsole, w'', ?_⟩
    rw [hsigner] at hres
    simpa only [MultiSigner.signRelay, hfor] using hres
  · intro b hsigner hissued ctx serviceID rpcType w prepared w' hprep
    obtain ⟨session, w₁, ordered, ep, url, hfetch, -, -, rfl⟩ := Bridge.prepare_ok hprep
    obtain ⟨a, hmem, hs, hid, haddr⟩ := (hissued _ _ _ _ hfetch).billed hm hcolon
    obtain ⟨signer, hsole, -, hfor⟩ := MultiSigner.signerFor_sole hone (hall a hmem) haddr
    refine ⟨a, hmem, hs, hid, haddr, ?_, ?_, signer, hsole, ?_⟩
    · rw [hs]
      rfl
    · rw [← haddr]
      rfl
    · intro data
      funext w₂
      simp only [Bridge.pinned, FrameProcessor.processClientMessage, hsigner, Bool.not_true,
        Bool.false_eq_true, if_false, MultiSigner.signFrame, hfor]

end Signing

/-! ### Two apps -/

section TwoApps

local instance : Shannon := Shannon.plain

/-- A chain on which every app is known and delegates to nobody. -/
def plainChain : Chain Unit where
  getApp appAddr := fun w ↦ (.ok ⟨appAddr, ["poly"], []⟩, w)
  getPubKeyFromAddress appAddr := fun w ↦ (.ok (some appAddr), w)
  signOffChainWithRing _ req _ := fun w ↦ (.ok { req with signature := some [] }, w)

/-- The second of two keys. -/
def polySigner : Signer := ⟨"bbbbbbbbbbbbbbbbbbbbbbbbbbbbbbbb",
  "pokt1bbbbbbbbbbbbbbbbbbbbbbbbbbbbbbbb", by decide +kernel⟩

/-- Two services with a key each. -/
def twoApps : List ServiceApp :=
  [⟨"eth", ethSigner.appAddr⟩, ⟨"poly", polySigner.appAddr⟩]

/-- The header of a session for the second service. -/
def polyHeader : SessionHeader := ⟨polySigner.appAddr, "poly", "session", 20⟩

/-- The session as the full node answers it. -/
def polyRaw : RawSession := ⟨"session", some polyHeader, some [[⟨"supplier", 3, "http://s"⟩]]⟩

/-- The session as the relay core sees it. -/
def polySession : Session := toDomainSession "poly" polySigner.appAddr polyRaw polyHeader

/-- Two calls, of which one fails; the other is answered, and a third is served from the
cache. -/
def threeCalls : List SessionManager.Action :=
  [.call 0 "poly", .load 0, .call 1 "eth", .load 1, .answer 1 (.error (.text "down")),
    .answer 0 (.ok polyRaw), .poll (.ok 10), .store 0, .call 2 "poly", .load 2, .check 2]

/-- A relayer whose supplier for the second service answers. -/
def polyRelayer : Relayer (AllCaches × Unit) where
  sessions serviceID := fun w ↦
    (if serviceID = "poly" then .ok polySession else .error (.text "down"), w)
  signer := (newMultiSigner [ethSigner, polySigner]).signRelay plainChain
  validator _ batch := fun w ↦ (.ok ⟨200, [], batch⟩, w)
  selector := ⟨fun _ _ eps _ w ↦ (.ok eps, w), none⟩
  sender _ _ _ := fun w ↦ (.ok [], w)
  maxAttempts := 0
  streamSender := none

/-- The manager of the two services. -/
def twoManager : SessionManager where
  appByService := Function.update (Function.update (fun _ ↦ none) "eth" (some ethSigner.appAddr))
    "poly" (some polySigner.appAddr)
  services := ["eth", "poly"]

/-- New signers, in a world of no concern. -/
def noCaches : AllCaches × Unit := (fun _ ↦ Caches.fresh, ())

open SessionManager in
/-- A session for the second service, and a relay signed with its key. -/
theorem relays_billed_twoApps :
    (∃ s, runAll (step twoManager) start threeCalls = some s ∧
      s.calls 2 = .returned "poly" (.ok polySession) ∧ Accounted twoApps twoManager s) ∧
    ∃ session ep rpcType input result, .sign session ep rpcType input result ∈
        (polyRelayer.relay {} "poly" .jsonRPC ⟨"POST", "/", [], []⟩ :
          Exec Empty _ (Event Empty) _).events noCaches ∧
      ∃ a ∈ twoApps, a.serviceID = "poly" ∧
        SignedRelay plainChain [ethSigner, polySigner] a session ep rpcType input result := by
  let _ : GoLib := GoLib.plain
  have hm : newSessionManager twoApps = .ok twoManager := rfl
  obtain ⟨-, hacc, hrelay, -⟩ := relays_billed plainChain hm [ethSigner, polySigner] (by decide)
    (by decide) (by decide)
  have hrun : ∃ s, runAll (step twoManager) start threeCalls = some s ∧
      s.calls 2 = .returned "poly" (.ok polySession) := ⟨_, rfl, rfl⟩
  obtain ⟨s, hs, hret⟩ := hrun
  refine ⟨⟨s, hs, hret, hacc threeCalls s hs⟩, ?_⟩
  have hissued (serviceID : ServiceID) (w : AllCaches × Unit) (session : Session)
      (w' : AllCaches × Unit) (hf : polyRelayer.sessions serviceID w = (.ok session, w')) :
      Issued twoManager serviceID session := by
    by_cases hp : serviceID = "poly"
    · subst hp
      cases hf
      exact ⟨threeCalls, s, 2, hs, hret⟩
    · simp [polyRelayer, hp] at hf
  have hsign : ∃ session ep rpcType input result, .sign session ep rpcType input result ∈
      (polyRelayer.relay {} "poly" .jsonRPC ⟨"POST", "/", [], []⟩ :
        Exec Empty _ (Event Empty) _).events noCaches := ⟨_, _, _, _, _, List.mem_cons_self⟩
  obtain ⟨session, ep, rpcType, input, result, hmem⟩ := hsign
  exact ⟨session, ep, rpcType, input, result, hmem, hrelay Empty Empty polyRelayer rfl hissued {}
    "poly" .jsonRPC ⟨"POST", "/", [], []⟩ (fun _ ↦ pure (.ok ())) noCaches _ _ _ _ _ (.inl hmem)⟩

end TwoApps
end PocketAp.Pocket
