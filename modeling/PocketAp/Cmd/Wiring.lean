import PocketAp.Config.Config
import PocketAp.Pocket.Session
import PocketAp.Pocket.Signer
import PocketAp.Selector.Filter

/-!
# Startup wiring

`src/cmd/pocket-ap/main.go`. From a configuration to signers, apps, listeners, the session
manager and the filter, as `runServe` builds them. The node is asked once for the record of
each app; signers start with empty caches. `wire_wired` says what a startup that succeeded
has established, whatever the node answered.
-/

namespace PocketAp.Cmd

open PocketAp.Base PocketAp.Domain PocketAp.Config PocketAp.Relay PocketAp.Pocket
open PocketAp.Selector

section Startup

variable [Shannon] [GoLib] {ω : Type}

/-- `src/cmd/pocket-ap/main.go:138–143`. -/
structure ResolvedApp where
  signer : Signer
  addr : String
  serviceID : ServiceID
  suppliers : Domain.SupplierPolicy

/-- What `buildCore` returns: one signer for each configured app, in their order. -/
structure Core (cfg : Config) (ω : Type) where
  fullNode : Chain ω
  signers : List Signer
  keys : signers.map Signer.privateKeyHex = cfg.appList.map App.privateKeyHex
  signer : MultiSigner

/-- The loop from the `i`-th app on. `src/cmd/pocket-ap/main.go:159–173`. -/
def buildSigners (i : Nat) (seen : String → Option Nat) : (apps : List App) →
    Except Err { signers : List Signer //
      signers.map Signer.privateKeyHex = apps.map App.privateKeyHex }
  | [] => .ok ⟨[], rfl⟩
  | a :: apps =>
    match h : newSigner a.privateKeyHex with
    | .error e => .error (.errorf ("app " ++ toString i ++ ": ") e)
    | .ok signer =>
      match seen signer.appAddr with
      | some prev =>
        .error (.text ("apps " ++ toString prev ++ " and " ++ toString i ++ " are the same app (" ++
          signer.appAddr ++ ")"))
      | none =>
        match buildSigners (i + 1) (Function.update seen signer.appAddr (some i)) apps with
        | .error e => .error e
        | .ok signers =>
          .ok ⟨signer :: signers.1, by rw [List.map_cons, List.map_cons, newSigner_ok h, signers.2]⟩

/-- `src/cmd/pocket-ap/main.go:150–175`. -/
def buildCore (newFullNode : String → Bool → String → Except Err (Chain ω)) (cfg : Config) :
    Except Err (Core cfg ω) :=
  match newFullNode cfg.fullNode.grpcHostPort cfg.fullNode.grpcInsecure cfg.fullNode.rpcURL with
  | .error e => .error e
  | .ok fn =>
    match buildSigners 0 (fun _ ↦ none) cfg.appList with
    | .error e => .error e
    | .ok signers => .ok ⟨fn, signers.1, signers.2, newMultiSigner signers.1⟩

/-- `src/cmd/pocket-ap/main.go:223–237`. -/
def supplierPolicy (p : Config.SupplierPolicy) : Domain.SupplierPolicy :=
  ⟨p.allow, p.deny, p.allowHosts, p.denyHosts⟩

/-- The service an app is given: `want` is configured, `got` is what its signer found out.
`src/cmd/pocket-ap/main.go:195–211`. -/
def resolveService (i : Nat) (appAddr : String) (want : ServiceID) :
    Except Err ServiceID → Except Err ServiceID
  | .error e =>
    if want = "" then
      .error (.wrap ("app " ++ appAddr ++ ": cannot determine which service it is staked for: " ++
        e.message ++ " (set apps[" ++ toString i ++ "].service_id to skip the lookup)") e)
    else .ok want
  | .ok got =>
    if want ≠ "" ∧ got ≠ want then
      .error (.text ("app " ++ appAddr ++ " is staked for service " ++ GoLib.quote got ++
        ", but the config says " ++ GoLib.quote want ++ " — one of them is wrong, and relaying " ++
        "would fail every request with \"session not found\""))
    else if want = "" then .ok got
    else .ok want

/-- The loop from the `i`-th app on. `src/cmd/pocket-ap/main.go:194–218`. -/
def resolveFrom (c : Chain ω) (i : Nat) :
    List (App × Signer) → Seam (AllCaches × ω) (Except Err (List ResolvedApp))
  | [], s => (.ok [], s)
  | (configured, signer) :: rest, s =>
    let got := withCaches signer.appAddr (signer.serviceID c) s
    match resolveService i signer.appAddr configured.serviceID got.1 with
    | .error e => (.error e, got.2)
    | .ok serviceID =>
      match resolveFrom c (i + 1) rest got.2 with
      | (.error e, s') => (.error e, s')
      | (.ok apps, s') =>
        (.ok (⟨signer, signer.appAddr, serviceID, supplierPolicy configured.suppliers⟩ :: apps), s')

/-- `src/cmd/pocket-ap/main.go:190–220`; there is a signer for each app, so the index is in
range. -/
def resolveApps (cfg : Config) (core : Core cfg ω) :
    Seam (AllCaches × ω) (Except Err (List ResolvedApp)) :=
  resolveFrom core.fullNode 0 (cfg.appList.zip core.signers)

/-- `src/cmd/pocket-ap/main.go:241–247`. -/
def serviceApps (apps : List ResolvedApp) : List ServiceApp :=
  apps.map fun a ↦ ⟨a.serviceID, a.addr⟩

/-- `src/cmd/pocket-ap/main.go:252–254`. -/
def addPolicy (out : ServiceID → Option Domain.SupplierPolicy) (a : ResolvedApp) :
    ServiceID → Option Domain.SupplierPolicy :=
  if a.suppliers.empty then out else Function.update out a.serviceID (some a.suppliers)

/-- A later app replaces an earlier one of its service. `src/cmd/pocket-ap/main.go:249–257`. -/
def supplierPolicies (apps : List ResolvedApp) : ServiceID → Option Domain.SupplierPolicy :=
  apps.foldl addPolicy fun _ ↦ none

/-- `src/cmd/pocket-ap/main.go:489–495`. -/
def serviceIDs (apps : List ResolvedApp) : List ServiceID := apps.map ResolvedApp.serviceID

/-- `src/cmd/pocket-ap/main.go:473–485`. -/
def resolveListener (apps : List ResolvedApp) (l : Listener) : Except Err Listener :=
  if l.serviceID = "" then
    match apps with
    | [a] => .ok { l with serviceID := a.serviceID }
    | _ => .error (.text ("listener " ++ l.addr ++ ": service_id is required — " ++
        toString apps.length ++ " apps are configured, so there is no unambiguous default"))
  else if l.serviceID ∈ serviceIDs apps then .ok l
  else .error (.text ("listener " ++ l.addr ++ ": no configured app is staked for service " ++
    GoLib.quote l.serviceID ++ " (configured: [" ++ " ".intercalate (serviceIDs apps) ++ "])"))

/-- `src/cmd/pocket-ap/main.go:467–487`. -/
def resolveListenerServices (apps : List ResolvedApp) : List Listener → Except Err (List Listener)
  | [] => .ok []
  | l :: ls =>
    match resolveListener apps l with
    | .error e => .error e
    | .ok l' =>
      match resolveListenerServices apps ls with
      | .error e => .error e
      | .ok ls' => .ok (l' :: ls')

/-- What startup hands to the relays. -/
structure Wiring (cfg : Config) (ω : Type) where
  core : Core cfg ω
  apps : List ResolvedApp
  listeners : List Listener
  sessions : SessionManager
  filter : Filter

/-- `src/cmd/pocket-ap/main.go:320–352`. -/
def wire (newFullNode : String → Bool → String → Except Err (Chain ω)) (draw : Draws)
    (cfg : Config) (w : ω) : Except Err (Wiring cfg ω) :=
  match buildCore newFullNode cfg with
  | .error e => .error e
  | .ok core =>
    match (resolveApps cfg core (fun _ ↦ Caches.fresh, w)).1 with
    | .error e => .error e
    | .ok apps =>
      match resolveListenerServices apps cfg.listeners with
      | .error e => .error e
      | .ok listeners =>
        match newSessionManager (serviceApps apps) with
        | .error e => .error e
        | .ok sessions =>
          .ok ⟨core, apps, listeners, sessions, ⟨randomSelect draw, supplierPolicies apps⟩⟩

/-! ### What startup establishes -/

/-- The service a record names, if it is one. -/
def staked : Except Err Application → Option ServiceID
  | .error _ => none
  | .ok app =>
    match app.serviceConfigs with
    | [serviceID] => some serviceID
    | _ => none

/-- What the node answers when it is asked for these records in turn. -/
def records (c : Chain ω) : List Signer → ω → List (Except Err Application)
  | [], _ => []
  | signer :: signers, w =>
    (c.getApp signer.appAddr w).1 :: records c signers (c.getApp signer.appAddr w).2

/-- What startup makes of an app, given its configuration, its signer and its record. -/
structure Resolves (b : App) (signer : Signer) (record : Except Err Application)
    (a : ResolvedApp) : Prop where
  signedBy : a.signer = signer
  addr : a.addr = signer.appAddr
  suppliers : a.suppliers = supplierPolicy b.suppliers
  discovered : ∀ serviceID, staked record = some serviceID →
    a.serviceID = serviceID ∧ (b.serviceID ≠ "" → b.serviceID = serviceID)
  assumed : staked record = none → b.serviceID ≠ "" ∧ a.serviceID = b.serviceID

section Signers

omit [GoLib] in
private theorem buildSigners_ok {i : Nat} {seen : String → Option Nat} {apps : List App}
    {signers : { signers : List Signer //
      signers.map Signer.privateKeyHex = apps.map App.privateKeyHex }}
    (h : buildSigners i seen apps = .ok signers) :
    (signers.1.map Signer.appAddr).Nodup ∧ ∀ signer ∈ signers.1, seen signer.appAddr = none := by
  induction apps generalizing i seen with
  | nil =>
    cases h
    simp
  | cons a apps ih =>
    unfold buildSigners at h
    split at h
    · cases h
    · next signer hs =>
      split at h
      · cases h
      · next hseen =>
        split at h
        · cases h
        · next rest hrest =>
          cases h
          obtain ⟨hn, hnew⟩ := ih hrest
          have hother (b : Signer) (hb : b ∈ rest.1) : b.appAddr ≠ signer.appAddr := by
            intro heq
            have hnone := hnew b hb
            simp [heq] at hnone
          refine ⟨?_, ?_⟩
          · simpa [hn] using hother
          · intro b hb
            rcases List.mem_cons.mp hb with rfl | hb
            · exact hseen
            · have hnone := hnew b hb
              rwa [Function.update_of_ne (hother b hb)] at hnone

omit [GoLib] in
/-- The core has a signer for each address, and finds it under that address. -/
theorem buildCore_ok {newFullNode : String → Bool → String → Except Err (Chain ω)} {cfg : Config}
    {core : Core cfg ω} (h : buildCore newFullNode cfg = .ok core) :
    (core.signers.map Signer.appAddr).Nodup ∧ core.signer = newMultiSigner core.signers := by
  unfold buildCore at h
  split at h
  · cases h
  · split at h
    · cases h
    · next signers hs =>
      cases h
      exact ⟨(buildSigners_ok hs).1, rfl⟩

end Signers

section Apps

variable (c : Chain ω)

omit [GoLib] in
/-- A signer that has not looked yet asks the node. -/
private theorem serviceID_fresh (signer : Signer) (s : Caches × ω)
    (h : s.1.appCache signer.appAddr = none) :
    (∀ serviceID, (signer.serviceID c s).1 = .ok serviceID ↔
        staked (c.getApp signer.appAddr s.2).1 = some serviceID) ∧
      (signer.serviceID c s).2.2 = (c.getApp signer.appAddr s.2).2 := by
  unfold Signer.serviceID Signer.getApp
  rw [h]
  rcases hr : c.getApp signer.appAddr s.2 with ⟨e | app, w⟩
  · simp [staked]
  · rcases hsc : app.serviceConfigs with _ | ⟨svc, _ | ⟨svc', rest⟩⟩ <;> simp [staked, hsc]

omit [Shannon] in
private theorem resolveService_ok {i : Nat} {appAddr : String} {want svc : ServiceID}
    {got : Except Err ServiceID} (h : resolveService i appAddr want got = .ok svc) :
    (∀ serviceID, got = .ok serviceID →
        svc = serviceID ∧ (want ≠ "" → want = serviceID)) ∧
      ((∀ serviceID, got ≠ .ok serviceID) → want ≠ "" ∧ svc = want) := by
  cases got with
  | error e =>
    by_cases hw : want = ""
    · simp [resolveService, hw] at h
    · simp only [resolveService, hw, if_false, Except.ok.injEq] at h
      exact ⟨nofun, fun _ ↦ ⟨hw, h.symm⟩⟩
  | ok got =>
    refine ⟨?_, fun hno ↦ absurd rfl (hno got)⟩
    rintro _ ⟨rfl⟩
    by_cases hw : want = ""
    · simp only [resolveService, hw, ne_eq, not_true_eq_false, false_and, if_false, if_true,
        Except.ok.injEq] at h
      exact ⟨h.symm, fun hne ↦ absurd hw hne⟩
    · by_cases heq : got = want
      · simp only [resolveService, hw, heq, ne_eq, not_true_eq_false, and_false, if_false,
          Except.ok.injEq] at h
        exact ⟨h.symm.trans heq.symm, fun _ ↦ heq.symm⟩
      · simp [resolveService, hw, heq] at h

/-- Every app that comes through is what its configuration, its signer and its record say. -/
theorem resolveFrom_ok {i : Nat} {pairs : List (App × Signer)} {s s' : AllCaches × ω}
    {apps : List ResolvedApp} (h : resolveFrom c i pairs s = (.ok apps, s'))
    (hn : ((pairs.map Prod.snd).map Signer.appAddr).Nodup)
    (hfresh : ∀ p ∈ pairs, (s.1 p.2.appAddr).appCache p.2.appAddr = none) :
    apps.map ResolvedApp.signer = pairs.map Prod.snd ∧
      List.Forall₂ (fun p a ↦ Resolves p.1.1 p.1.2 p.2 a)
        (pairs.zip (records c (pairs.map Prod.snd) s.2)) apps := by
  induction pairs generalizing i s apps with
  | nil =>
    cases h
    exact ⟨rfl, .nil⟩
  | cons p pairs ih =>
    rcases p with ⟨b, signer⟩
    rw [List.map_cons, List.map_cons, List.nodup_cons] at hn
    obtain ⟨hgot, hw⟩ := serviceID_fresh c signer (s.1 signer.appAddr, s.2)
      (hfresh _ List.mem_cons_self)
    simp only [resolveFrom, withCaches] at h
    split at h
    · cases h
    · next svc hsvc =>
      obtain ⟨hdisc, hass⟩ := resolveService_ok hsvc
      split at h
      · cases h
      · next rest s'' hrest =>
        cases h
        obtain ⟨hsigners, hall⟩ := ih hrest hn.2 (by
          intro q hq
          have hne : q.2.appAddr ≠ signer.appAddr := by
            intro heq
            exact hn.1 (heq ▸ List.mem_map_of_mem (List.mem_map_of_mem hq))
          simp only [Function.update_of_ne hne]
          exact hfresh q (List.mem_cons_of_mem _ hq))
        refine ⟨by rw [List.map_cons, List.map_cons, hsigners], ?_⟩
        rw [List.map_cons, records, List.zip_cons_cons]
        simp only [hw] at hall
        refine .cons ⟨rfl, rfl, rfl, ?_, ?_⟩ hall
        · intro serviceID hst
          exact hdisc serviceID ((hgot serviceID).mpr hst)
        · intro hst
          refine hass fun serviceID hok ↦ ?_
          have hsome := (hgot serviceID).mp hok
          simp [hst] at hsome

omit [GoLib] in
private theorem length_records (signers : List Signer) (w : ω) :
    (records c signers w).length = signers.length := by
  induction signers generalizing w with
  | nil => rfl
  | cons signer signers ih => rw [records, List.length_cons, List.length_cons, ih]

end Apps

section Listeners

private theorem resolveListener_ok {apps : List ResolvedApp} {l l' : Listener}
    (h : resolveListener apps l = .ok l') :
    (∃ a ∈ apps, a.serviceID = l'.serviceID) ∧ l' = { l with serviceID := l'.serviceID } ∧
      (l.serviceID ≠ "" → l'.serviceID = l.serviceID) := by
  unfold resolveListener at h
  split at h
  · next hempty =>
    split at h
    · next a =>
      cases h
      exact ⟨⟨a, List.mem_singleton.mpr rfl, rfl⟩, rfl, fun hne ↦ absurd hempty hne⟩
    · cases h
  · split at h
    · next hmem =>
      cases h
      exact ⟨List.mem_map.mp hmem, rfl, fun _ ↦ rfl⟩
    · cases h

/-- Every listener ends with a service of some app, and keeps the rest. -/
theorem resolveListenerServices_ok {apps : List ResolvedApp} {ls ls' : List Listener}
    (h : resolveListenerServices apps ls = .ok ls') :
    (∀ l' ∈ ls', ∃ a ∈ apps, a.serviceID = l'.serviceID) ∧
      List.Forall₂ (fun l l' : Listener ↦ l' = { l with serviceID := l'.serviceID } ∧
        (l.serviceID ≠ "" → l'.serviceID = l.serviceID)) ls ls' := by
  induction ls generalizing ls' with
  | nil =>
    cases h
    exact ⟨by simp, .nil⟩
  | cons l ls ih =>
    unfold resolveListenerServices at h
    split at h
    · cases h
    · next hl =>
      split at h
      · cases h
      · next hls =>
        cases h
        obtain ⟨hserved, hkept⟩ := resolveListener_ok hl
        exact ⟨List.forall_mem_cons.mpr ⟨hserved, (ih hls).1⟩, .cons hkept (ih hls).2⟩

end Listeners

section Policies

omit [GoLib] in
/-- Without entries an app's policy is the zero policy, which is what a missing entry means. -/
private theorem addPolicy_self (out : ServiceID → Option Domain.SupplierPolicy) (a : ResolvedApp)
    (h : out a.serviceID = none) : (addPolicy out a a.serviceID).getD {} = a.suppliers := by
  unfold addPolicy
  split
  · next he =>
    rcases a with ⟨signer, addr, serviceID, ⟨allow, deny, allowHosts, denyHosts⟩⟩
    simp only [Domain.SupplierPolicy.empty, Bool.and_eq_true, List.isEmpty_iff] at he
    obtain ⟨⟨⟨rfl, rfl⟩, rfl⟩, rfl⟩ := he
    rw [h]
    rfl
  · rw [Function.update_self]
    rfl

omit [GoLib] in
private theorem addPolicy_of_ne (out : ServiceID → Option Domain.SupplierPolicy)
    {a : ResolvedApp} {serviceID : ServiceID} (h : serviceID ≠ a.serviceID) :
    addPolicy out a serviceID = out serviceID := by
  unfold addPolicy
  split
  · rfl
  · exact Function.update_of_ne h ..

omit [GoLib] in
/-- Every application gets its own policy, and no other service one. -/
theorem foldl_addPolicy (apps : List ResolvedApp)
    (out : ServiceID → Option Domain.SupplierPolicy)
    (hn : (apps.map ResolvedApp.serviceID).Nodup) (hout : ∀ a ∈ apps, out a.serviceID = none) :
    (∀ a ∈ apps, (apps.foldl addPolicy out a.serviceID).getD {} = a.suppliers) ∧
      ∀ serviceID, serviceID ∉ apps.map ResolvedApp.serviceID →
        apps.foldl addPolicy out serviceID = out serviceID := by
  induction apps generalizing out with
  | nil => simp
  | cons a apps ih =>
    rw [List.map_cons, List.nodup_cons] at hn
    have hnew (b : ResolvedApp) (hb : b ∈ apps) : addPolicy out a b.serviceID = none := by
      rw [addPolicy_of_ne out fun heq ↦ hn.1 (heq ▸ List.mem_map_of_mem hb)]
      exact hout b (List.mem_cons_of_mem _ hb)
    obtain ⟨hin, hother⟩ := ih (addPolicy out a) hn.2 hnew
    constructor
    · intro b hb
      rcases List.mem_cons.mp hb with rfl | hb
      · rw [List.foldl_cons, hother _ hn.1]
        exact addPolicy_self out b (hout b List.mem_cons_self)
      · exact hin b hb
    · intro serviceID hnot
      rw [List.map_cons, List.mem_cons, not_or] at hnot
      rw [List.foldl_cons, hother _ hnot.2]
      exact addPolicy_of_ne out hnot.1

end Policies

/-- Startup leaves nothing ambiguous. `answers` is what the node said about each app. -/
structure Wired (cfg : Config) (answers : List (Except Err Application)) (w : Wiring cfg ω) :
    Prop where
  /-- Signers stand in the order of the apps, with their keys, and so do the resolved apps. -/
  keys : w.core.signers.map Signer.privateKeyHex = cfg.appList.map App.privateKeyHex
  signers : w.apps.map ResolvedApp.signer = w.core.signers
  answered : answers.length = cfg.appList.length
  resolved : List.Forall₂ (fun p a ↦ Resolves p.1.1 p.1.2 p.2 a)
    ((cfg.appList.zip w.core.signers).zip answers) w.apps
  /-- No two apps share an address or a service. -/
  addrs : (w.apps.map ResolvedApp.addr).Nodup
  services : (w.apps.map ResolvedApp.serviceID).Nodup
  /-- The session manager and the signer find exactly these apps. -/
  sessions : ∀ serviceID appAddr, w.sessions.appAddrFor serviceID = some appAddr ↔
    ∃ a ∈ w.apps, a.serviceID = serviceID ∧ a.addr = appAddr
  signing : ∀ appAddr signer, w.core.signer.byAddr appAddr = some signer ↔
    ∃ a ∈ w.apps, a.addr = appAddr ∧ a.signer = signer
  /-- A listener keeps what it was configured with, and one app and one signer serve it. -/
  listeners : List.Forall₂ (fun l l' : Listener ↦ l' = { l with serviceID := l'.serviceID } ∧
    (l.serviceID ≠ "" → l'.serviceID = l.serviceID)) cfg.listeners w.listeners
  served : ∀ l ∈ w.listeners, (∃! a, a ∈ w.apps ∧ a.serviceID = l.serviceID) ∧
    ∃! signer, ∃ appAddr, w.sessions.appAddrFor l.serviceID = some appAddr ∧
      w.core.signer.byAddr appAddr = some signer
  /-- The policy in force for a service is that of the app serving it. -/
  policies : ∀ a ∈ w.apps, w.filter.configured a.serviceID = a.suppliers
  unserved : ∀ serviceID, serviceID ∉ w.apps.map ResolvedApp.serviceID →
    w.filter.policies serviceID = none

omit [GoLib] in
/-- Apps with different services are told apart by them. -/
theorem eq_of_service {apps : List ResolvedApp}
    (hn : (apps.map ResolvedApp.serviceID).Nodup) {a b : ResolvedApp} (ha : a ∈ apps)
    (hb : b ∈ apps) (h : a.serviceID = b.serviceID) : a = b :=
  List.inj_on_of_nodup_map hn ha hb h

/-- What start-up has checked by the time a process is wired. -/
theorem wire_ok {newFullNode : String → Bool → String → Except Err (Chain ω)}
    {draw : Draws} {cfg : Config} {w : ω} {wiring : Wiring cfg ω}
    (h : wire newFullNode draw cfg w = .ok wiring) :
    buildCore newFullNode cfg = .ok wiring.core ∧
      (resolveApps cfg wiring.core (fun _ ↦ Caches.fresh, w)).1 = .ok wiring.apps ∧
      resolveListenerServices wiring.apps cfg.listeners = .ok wiring.listeners ∧
      newSessionManager (serviceApps wiring.apps) = .ok wiring.sessions ∧
      wiring.filter.policies = supplierPolicies wiring.apps := by
  unfold wire at h
  split at h
  · cases h
  · next hcore =>
    split at h
    · cases h
    · next happs =>
      split at h
      · cases h
      · next hls =>
        split at h
        · cases h
        · next hsessions =>
          cases h
          exact ⟨hcore, happs, hls, hsessions, rfl⟩

omit [GoLib] in
/-- A resolved application has its signer's address. -/
theorem addrs_of_resolved {ps : List ((App × Signer) × Except Err Application)}
    {apps : List ResolvedApp}
    (h : List.Forall₂ (fun p a ↦ Resolves p.1.1 p.1.2 p.2 a) ps apps) :
    apps.map ResolvedApp.addr = (apps.map ResolvedApp.signer).map Signer.appAddr := by
  induction h with
  | nil => rfl
  | cons hr _ ih => simp only [List.map_cons, hr.addr, hr.signedBy, ih]

/-- A startup that succeeds leaves no ambiguous or mismatched wiring, whatever the configuration
and whatever the node answered. -/
theorem wire_wired {newFullNode : String → Bool → String → Except Err (Chain ω)} {draw : Draws}
    {cfg : Config} {w : ω} {wiring : Wiring cfg ω}
    (h : wire newFullNode draw cfg w = .ok wiring) :
    Wired cfg (records wiring.core.fullNode wiring.core.signers w) wiring := by
  obtain ⟨hcore, happs, hls, hsessions, hfilter⟩ := wire_ok h
  obtain ⟨haddrs, hmulti⟩ := buildCore_ok hcore
  have hlen : wiring.core.signers.length = cfg.appList.length := by
    simpa using congrArg List.length wiring.core.keys
  have hsnd : (cfg.appList.zip wiring.core.signers).map Prod.snd = wiring.core.signers :=
    List.map_snd_zip (by omega)
  obtain ⟨hsigners, hres⟩ := resolveFrom_ok wiring.core.fullNode
    (Prod.ext happs rfl : resolveApps cfg wiring.core _ = (.ok wiring.apps, _))
    (by rwa [hsnd]) (fun _ _ ↦ rfl)
  rw [hsnd] at hsigners hres
  have haddr := addrs_of_resolved hres
  obtain ⟨-, hservices, happ⟩ := newSessionManager_ok hsessions
  have hservices : (wiring.apps.map ResolvedApp.serviceID).Nodup := by
    simpa [serviceApps, Function.comp_def] using hservices
  have hsess (serviceID : ServiceID) (appAddr : String) :
      wiring.sessions.appAddrFor serviceID = some appAddr ↔
        ∃ a ∈ wiring.apps, a.serviceID = serviceID ∧ a.addr = appAddr := by
    rw [SessionManager.appAddrFor, happ]
    simp [serviceApps]
  have hsign (appAddr : String) (signer : Signer) :
      wiring.core.signer.byAddr appAddr = some signer ↔
        ∃ a ∈ wiring.apps, a.addr = appAddr ∧ a.signer = signer := by
    rw [hmulti, newMultiSigner_byAddr haddrs, ← hsigners]
    have hown (a : ResolvedApp) (ha : a ∈ wiring.apps) : a.addr = a.signer.appAddr := by
      rw [List.map_map] at haddr
      exact List.map_inj_left.mp haddr a ha
    constructor
    · rintro ⟨hmem, rfl⟩
      obtain ⟨a, ha, rfl⟩ := List.mem_map.mp hmem
      exact ⟨a, ha, hown a ha, rfl⟩
    · rintro ⟨a, ha, rfl, rfl⟩
      exact ⟨List.mem_map_of_mem ha, (hown a ha).symm⟩
  obtain ⟨hserved, hkept⟩ := resolveListenerServices_ok hls
  obtain ⟨hpolicies, hunserved⟩ := foldl_addPolicy wiring.apps (fun _ ↦ none) hservices
    (fun _ _ ↦ rfl)
  constructor
  case keys => exact wiring.core.keys
  case signers => exact hsigners
  case answered => rw [length_records, hlen]
  case resolved => exact hres
  case addrs => rwa [haddr, hsigners]
  case services => exact hservices
  case sessions => exact hsess
  case signing => exact hsign
  case listeners => exact hkept
  case served =>
    intro l hl
    obtain ⟨a, ha, hal⟩ := hserved l hl
    have hone (b : ResolvedApp) (hb : b ∈ wiring.apps) (hbl : b.serviceID = l.serviceID) : b = a :=
      eq_of_service hservices hb ha (hbl.trans hal.symm)
    refine ⟨⟨a, ⟨ha, hal⟩, fun b hb ↦ hone b hb.1 hb.2⟩, a.signer, ?_, ?_⟩
    · exact ⟨a.addr, (hsess _ _).mpr ⟨a, ha, hal, rfl⟩, (hsign _ _).mpr ⟨a, ha, rfl, rfl⟩⟩
    · rintro signer ⟨appAddr, hfor, hby⟩
      obtain ⟨b, hb, hbl, rfl⟩ := (hsess _ _).mp hfor
      rw [hone b hb hbl] at hby
      have hown := (hsign _ _).mpr ⟨a, ha, rfl, rfl⟩
      rw [hby] at hown
      exact Option.some.inj hown
  case policies =>
    intro a ha
    rw [Filter.configured, hfilter]
    exact hpolicies a ha
  case unserved =>
    intro serviceID hnot
    rw [hfilter]
    exact hunserved serviceID hnot

end Startup

/-! ### Two apps -/

section TwoApps

local instance : Shannon := Shannon.plain

local instance : GoLib := GoLib.plain

/-- A node that cannot be asked about the first app. -/
def halfChain : Chain Unit where
  getApp appAddr := fun w ↦
    (if appAddr = "pokt1aaaaaaaaaaaaaaaaaaaaaaaaaaaaaaaa" then .error (.text "down")
      else .ok ⟨appAddr, ["poly"], []⟩, w)
  getPubKeyFromAddress appAddr := fun w ↦ (.ok (some appAddr), w)
  signOffChainWithRing _ req _ := fun w ↦ (.ok req, w)

/-- The first app names its service and refuses a supplier, the second has only a key. -/
def twoKeys : Config where
  apps := [⟨"aaaaaaaaaaaaaaaaaaaaaaaaaaaaaaaa", "eth", { deny := ["pokt1bad"] }⟩,
    { privateKeyHex := "bbbbbbbbbbbbbbbbbbbbbbbbbbbbbbbb" }]
  listeners := [⟨"127.0.0.1:8545", "eth", "json_rpc"⟩, ⟨"127.0.0.1:8546", "poly", "json_rpc"⟩]

/-- Two services with two keys, one of them with a policy. -/
theorem wire_wired_twoKeys :
    ∃ wiring, wire (fun _ _ _ ↦ .ok halfChain) (fun _ ↦ 0) twoKeys () = .ok wiring ∧
      wiring.apps.map ResolvedApp.serviceID = ["eth", "poly"] ∧
      wiring.filter.configured "eth" = { deny := ["pokt1bad"] } ∧
      Wired twoKeys (records halfChain wiring.core.signers ()) wiring := by
  have h : wire (fun _ _ _ ↦ .ok halfChain) (fun _ ↦ 0) twoKeys () = .ok _ := rfl
  exact ⟨_, h, by decide +kernel, by decide +kernel, wire_wired h⟩

end TwoApps

end PocketAp.Cmd
