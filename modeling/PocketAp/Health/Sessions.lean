import PocketAp.Health.Readiness

/-!
# The sessions of a health report

`src/health/health.go:324–354` and `src/pocket/session.go:82–94`. `CachedSessions` ranges over
a map that `Session` calls write to meanwhile, and the report picks the session of a service
from what it found. The keys of the map are of the form `service:app`; the manager has one
app for each service.
-/

namespace PocketAp.Health

open PocketAp.Base PocketAp.Domain PocketAp.Relay PocketAp.Pocket PocketAp.Transport

/-! ### The cache -/

/-- `src/cmd/pocket-ap/main.go:497–503`, of the apps the manager is built with. -/
def appInfos (apps : List ServiceApp) : List AppInfo := apps.map fun a ↦ ⟨a.appAddr, a.serviceID⟩

/-- What a call of `Session` that goes on was given and got. -/
def CallSound (m : SessionManager) : SessionManager.Call → Prop
  | .idle => True
  | .loading id appAddr => m.appAddrFor id = some appAddr
  | .checking id appAddr _ => m.appAddrFor id = some appAddr
  | .fetching id appAddr => m.appAddrFor id = some appAddr
  | .storing id appAddr ds => m.appAddrFor id = some appAddr ∧ ds.serviceID = id
  | .returned _ _ => True

/-- No two services share a key of the cache. -/
def KeysApart (m : SessionManager) : Prop :=
  ∀ id appAddr id' appAddr', m.appAddrFor id = some appAddr → m.appAddrFor id' = some appAddr' →
    SessionManager.cacheKey id appAddr = SessionManager.cacheKey id' appAddr' → id = id'

/-- The cache holds the session fetched last for each service, and nothing else. -/
structure Proxy.Cached (m : SessionManager) (p : Proxy) : Prop where
  calls : ∀ i, CallSound m (p.sessions.calls i)
  cached : ∀ id appAddr, m.appAddrFor id = some appAddr →
    p.sessions.sessionCache (SessionManager.cacheKey id appAddr) = p.history.lastStored id
  keys : ∀ key ds, p.sessions.sessionCache key = some ds → ∃ appAddr,
    m.appAddrFor ds.serviceID = some appAddr ∧ key = SessionManager.cacheKey ds.serviceID appAddr

private theorem Proxy.cached_start (m : SessionManager) (now : Int) : (Proxy.start now).Cached m :=
  ⟨fun _ ↦ trivial, fun _ _ _ ↦ rfl, fun _ _ h ↦ by cases h⟩

private theorem callSound_goOn {m : SessionManager} {s : SessionManager.State}
    (h : ∀ i, CallSound m (s.calls i)) (i : Nat) (c : SessionManager.Call) (hc : CallSound m c)
    (j : Nat) : CallSound m ((s.goOn i c).calls j) := by
  rw [SessionManager.State.goOn_calls]
  split
  · exact hc
  · exact h j

private theorem callSound_step {m : SessionManager} {s s' : SessionManager.State}
    {a : SessionManager.Action} (h : ∀ i, CallSound m (s.calls i))
    (hs : SessionManager.Stepped m s a s') (i : Nat) : CallSound m (s'.calls i) := by
  have was (j : Nat) {c : SessionManager.Call} (hj : s.calls j = c) : CallSound m c := hj ▸ h j
  cases hs with
  | unknown j serviceID idle absent => exact callSound_goOn h j (.returned _ _) trivial i
  | called j serviceID appAddr idle found => exact callSound_goOn h j (.loading _ _) found i
  | missed j serviceID appAddr loading absent =>
    have hw := was j loading
    exact callSound_goOn h j (.fetching _ _) hw i
  | hit j serviceID appAddr cached loading found =>
    have hw := was j loading
    exact callSound_goOn h j (.checking _ _ _) hw i
  | served j serviceID appAddr cached checking fresh =>
    exact callSound_goOn h j (.returned _ _) trivial i
  | expired j serviceID appAddr cached checking passed =>
    have hw := was j checking
    exact callSound_goOn h j (.fetching _ _) hw i
  | failed j serviceID appAddr reply e fetching received =>
    exact callSound_goOn h j (.returned _ _) trivial i
  | answered j serviceID appAddr reply ds fetching received =>
    obtain ⟨raw, header, -, -, rfl⟩ := SessionManager.receive_ok received
    exact callSound_goOn h j (.storing _ _ _) ⟨was j fetching, rfl⟩ i
  | stored j serviceID appAddr ds storing => exact callSound_goOn h j (.returned _ _) trivial i
  | polled reply => cases reply <;> exact h i

private theorem lastStored_concat {h : History} {t : Int} {e : Happened} (id : ServiceID)
    (he : ∀ serviceID ds, e ≠ .stored serviceID ds) :
    History.lastStored id (h ++ [(t, e)]) = h.lastStored id := by
  cases e with
  | stored serviceID ds => exact absurd rfl (he serviceID ds)
  | _ => simp [History.lastStored]

private theorem Proxy.Cached.step {m : SessionManager} (hm : KeysApart m) {p p' : Proxy}
    {a : ProxyAction} (h : p.Cached m) (hs : p.step m a = some p') : p'.Cached m := by
  cases step_cases hs with
  | ticked d => exact ⟨h.calls, h.cached, h.keys⟩
  | went a s moved cache height =>
    refine ⟨callSound_step h.calls moved, ?_, ?_⟩
    · simpa only [cache] using h.cached
    · simpa only [cache] using h.keys
  | stored i serviceID appAddr ds storing =>
    have hcall := h.calls i
    rw [storing] at hcall
    obtain ⟨happ, hds⟩ := hcall
    refine ⟨callSound_step h.calls (.stored i serviceID appAddr ds storing), ?_, ?_⟩
    · intro id appAddr' happ'
      change Function.update p.sessions.sessionCache (SessionManager.cacheKey serviceID appAddr)
        (some ds) (SessionManager.cacheKey id appAddr') = History.lastStored id (p.history ++ [_])
      by_cases hid : serviceID = id
      · subst hid
        cases happ.symm.trans happ'
        simp [History.lastStored]
      · have hkey : SessionManager.cacheKey id appAddr' ≠ SessionManager.cacheKey serviceID appAddr :=
          fun hk ↦ hid (hm _ _ _ _ happ' happ hk).symm
        rw [Function.update_of_ne hkey, h.cached id appAddr' happ']
        simp [History.lastStored, hid]
    · intro key ds' hk
      change Function.update p.sessions.sessionCache (SessionManager.cacheKey serviceID appAddr)
        (some ds) key = some ds' at hk
      by_cases hkey : key = SessionManager.cacheKey serviceID appAddr
      · rw [hkey, Function.update_self] at hk
        cases hk
        exact ⟨appAddr, hds ▸ happ, hds ▸ hkey⟩
      · rw [Function.update_of_ne hkey] at hk
        exact h.keys key ds' hk
  | polled reply =>
    refine ⟨callSound_step h.calls (.polled reply), ?_, ?_⟩
    · intro id appAddr happ
      cases reply <;>
        exact (h.cached id appAddr happ).trans (lastStored_concat id (fun _ _ h ↦ by cases h)).symm
    · cases reply <;> exact h.keys
  | observed supplier outcome =>
    exact ⟨h.calls, fun id appAddr happ ↦ (h.cached id appAddr happ).trans
      (lastStored_concat id (fun _ _ h ↦ by cases h)).symm, h.keys⟩
  | panicked =>
    exact ⟨h.calls, fun id appAddr happ ↦ (h.cached id appAddr happ).trans
      (lastStored_concat id (fun _ _ h ↦ by cases h)).symm, h.keys⟩

/-! ### The pass over the cache -/

/-- The session a service is reported with: none only if none was fetched before the request,
and otherwise the one that was current at some moment since. -/
structure SessionReported (h : History) (q : Asked) (app : AppInfo) (sh : ServiceHealth) :
    Prop where
  absent : sh.sessionCached = false → q.since.lastStored app.serviceID = none
  present : sh.sessionCached = true → ∃ (view : History) (ds : Session), Between q.since view h ∧
    view.lastStored app.serviceID = some ds ∧ sh.sessionID = ds.id ∧
      sh.sessionEndHeight = ds.endBlockHeight ∧ sh.endpoints = ds.endpoints.length

/-- A pass over the cache: what it has to visit, has visited, and has found. -/
structure Ranged (m : SessionManager) (h : History) (q : Asked) (due seen : List String)
    (found : List Session) : Prop where
  due : ∀ id appAddr, m.appAddrFor id = some appAddr → (q.since.lastStored id).isSome →
    SessionManager.cacheKey id appAddr ∈ due
  seen : ∀ id appAddr, m.appAddrFor id = some appAddr →
    SessionManager.cacheKey id appAddr ∈ seen → ∃ ds ∈ found, ds.serviceID = id
  found : ∀ ds ∈ found, ∃ view : History, Between q.since view h ∧
    view.lastStored ds.serviceID = some ds

/-- The sessions by service, after the pass. -/
structure Found (m : SessionManager) (h : History) (q : Asked)
    (sessions : ServiceID → Option Session) : Prop where
  all : ∀ id appAddr, m.appAddrFor id = some appAddr → (q.since.lastStored id).isSome →
    (sessions id).isSome
  genuine : ∀ id ds, sessions id = some ds → ∃ view : History, Between q.since view h ∧
    view.lastStored id = some ds

private theorem indexed_eq_latest (found : List Session) (id : ServiceID) :
    indexed found id = latest (fun ds ↦ if ds.serviceID = id then some ds else none) found := by
  induction found using List.reverseRecOn with
  | nil => rfl
  | append_singleton found ds ih =>
    rw [latest_concat, ← ih]
    simp only [indexed, List.foldl_append, List.foldl_cons, List.foldl_nil]
    by_cases hid : ds.serviceID = id
    · subst hid
      simp
    · rw [Function.update_of_ne (Ne.symm hid), if_neg hid, Option.none_or]

private theorem Ranged.collect {m : SessionManager} {h : History} {q : Asked}
    {due seen : List String} {found : List Session} (hr : Ranged m h q due seen found)
    (all : ∀ key ∈ due, key ∈ seen) : Found m h q (indexed found) := by
  constructor
  · intro id appAddr happ hstored
    obtain ⟨ds, hmem, hid⟩ := hr.seen id appAddr happ (all _ (hr.due id appAddr happ hstored))
    rw [indexed_eq_latest]
    obtain ⟨-, b, -, hl, -⟩ := latest_of_mem (R := fun _ _ ↦ True)
      (f := fun ds : Session ↦ if ds.serviceID = id then some ds else none) (fun _ ↦ trivial)
      (List.pairwise_of_forall fun _ _ ↦ trivial) hmem (by simp [hid])
    rw [hl]
    rfl
  · intro id ds hds
    rw [indexed_eq_latest] at hds
    obtain ⟨ds', hmem, heq⟩ := latest_mem hds
    split at heq
    · next hid =>
      cases heq
      exact hid ▸ hr.found ds hmem
    · cases heq

private theorem Found.reported {m : SessionManager} {h : History} {q : Asked}
    {sessions : ServiceID → Option Session} (hf : Found m h q sessions) {app : AppInfo}
    {appAddr : String} (happ : m.appAddrFor app.serviceID = some appAddr) (p : Proxy) :
    SessionReported h q app (fill p app.serviceID
      (sessionPart app.serviceID (sessions app.serviceID)) q.now) := by
  have hfill (sh : ServiceHealth) (now : Int) :
      (fill p app.serviceID sh now).sessionCached = sh.sessionCached ∧
        (fill p app.serviceID sh now).sessionID = sh.sessionID ∧
        (fill p app.serviceID sh now).sessionEndHeight = sh.sessionEndHeight ∧
        (fill p app.serviceID sh now).endpoints = sh.endpoints := by
    unfold fill
    split <;> exact ⟨rfl, rfl, rfl, rfl⟩
  obtain ⟨hcached, hid, hend, hcount⟩ := hfill (sessionPart app.serviceID (sessions app.serviceID)) q.now
  cases hs : sessions app.serviceID with
  | none =>
    rw [hs] at hcached
    refine ⟨fun _ ↦ ?_, fun hc ↦ ?_⟩
    · cases hl : q.since.lastStored app.serviceID with
      | none => rfl
      | some ds =>
        have hsome := hf.all app.serviceID appAddr happ (by rw [hl]; rfl)
        simp [hs] at hsome
    · rw [hcached] at hc
      cases hc
  | some ds =>
    rw [hs] at hcached hid hend hcount
    refine ⟨fun hc ↦ ?_, fun _ ↦ ?_⟩
    · rw [hcached] at hc
      cases hc
    · obtain ⟨view, hb, hv⟩ := hf.genuine app.serviceID ds hs
      exact ⟨view, ds, hb, hv, hid, hend, hcount⟩

private theorem Ranged.grow {m : SessionManager} {h h' : History} {q : Asked}
    {due seen : List String} {found : List Session} (hr : Ranged m h q due seen found)
    (hh : h <+: h') : Ranged m h' q due seen found := by
  refine ⟨hr.due, hr.seen, fun ds hds ↦ ?_⟩
  obtain ⟨view, hb, hv⟩ := hr.found ds hds
  exact ⟨view, hb.grow hh, hv⟩

private theorem Found.grow {m : SessionManager} {h h' : History} {q : Asked}
    {sessions : ServiceID → Option Session} (hf : Found m h q sessions) (hh : h <+: h') :
    Found m h' q sessions := by
  refine ⟨hf.all, fun id ds hds ↦ ?_⟩
  obtain ⟨view, hb, hv⟩ := hf.genuine id ds hds
  exact ⟨view, hb.grow hh, hv⟩

private theorem SessionReported.grow {h h' : History} {q : Asked} {app : AppInfo}
    {sh : ServiceHealth} (hr : SessionReported h q app sh) (hh : h <+: h') :
    SessionReported h' q app sh := by
  refine ⟨hr.absent, fun hc ↦ ?_⟩
  obtain ⟨view, ds, hb, hv⟩ := hr.present hc
  exact ⟨view, ds, hb.grow hh, hv⟩

/-- What the pass over the cache has established so far. -/
def Reading.Current (srv : Server) (m : SessionManager) (h : History) : Reading → Prop
  | .ranging q _ due seen found => Ranged m h q due seen found
  | .filling q resp sessions left => Found m h q sessions ∧
      ∃ apps, srv.apps = apps ++ left ∧ List.Forall₂ (SessionReported h q) apps resp.services
  | .answered q _ resp => List.Forall₂ (SessionReported h q) srv.apps resp.services
  | _ => True

private theorem Reading.Current.grow {srv : Server} {m : SessionManager} {h h' : History}
    {r : Reading} (hr : r.Current srv m h) (hh : h <+: h') : r.Current srv m h' := by
  cases r with
  | ranging q v due seen found => exact Ranged.grow hr hh
  | filling q resp sessions left =>
    obtain ⟨hf, apps, happs, hs⟩ := hr
    exact ⟨hf.grow hh, apps, happs, hs.imp fun _ _ hs ↦ hs.grow hh⟩
  | answered q code resp => exact List.Forall₂.imp (fun _ _ hs ↦ SessionReported.grow hs hh) hr
  | _ => trivial

section Sessions

variable {srv : Server} {m : SessionManager}

/-- The manager's apps are those of the report. -/
structure Fits (srv : Server) (m : SessionManager) : Prop where
  apart : KeysApart m
  listed : ∀ id appAddr, m.appAddrFor id = some appAddr → id ∈ m.services
  apps : ∀ app ∈ srv.apps, ∃ appAddr, m.appAddrFor app.serviceID = some appAddr

/-- A pass begins with every key that was there when the request came. -/
theorem Proxy.Cached.ranged (hm : Fits srv m) {p : Proxy} (h : p.Cached m) {q : Asked}
    (hs : q.since <+: p.history) : Ranged m p.history q (cachedKeys m p.sessions) [] [] := by
  refine ⟨fun id appAddr happ hstored ↦ ?_, fun _ _ _ hk ↦ absurd hk List.not_mem_nil,
    fun _ hds ↦ absurd hds List.not_mem_nil⟩
  refine List.mem_filter.mpr ⟨List.mem_filterMap.mpr ⟨id, hm.listed id appAddr happ, ?_⟩, ?_⟩
  · rw [happ, Option.map_some]
  · rw [h.cached id appAddr happ]
    exact latest_isSome_of_prefix hs hstored

/-- A visit finds what is current. -/
theorem Ranged.visit (hm : KeysApart m) {p : Proxy} (h : p.Cached m) {q : Asked}
    (hs : q.since <+: p.history) {due seen : List String} {found : List Session}
    (hr : Ranged m p.history q due seen found) {key : String} {ds : Session}
    (hk : p.sessions.sessionCache key = some ds) :
    Ranged m p.history q due (seen ++ [key]) (found ++ [ds]) := by
  obtain ⟨appAddr, happ, rfl⟩ := h.keys key ds hk
  refine ⟨hr.due, fun id appAddr' happ' hmem ↦ ?_, fun ds' hds' ↦ ?_⟩
  · rcases List.mem_append.mp hmem with hmem | hmem
    · obtain ⟨ds', hds', hid⟩ := hr.seen id appAddr' happ' hmem
      exact ⟨ds', List.mem_append_left _ hds', hid⟩
    · exact ⟨ds, by simp, (hm _ _ _ _ happ' happ (List.mem_singleton.mp hmem)).symm⟩
  · rcases List.mem_append.mp hds' with hds' | hds'
    · exact hr.found ds' hds'
    · cases List.mem_singleton.mp hds'
      exact ⟨p.history, between_now hs, (h.cached _ _ happ).symm.trans hk⟩

/-- A manager and a report that are built from the same apps fit each other. -/
theorem fits_of_apps {apps : List ServiceApp} (hm : newSessionManager apps = .ok m)
    (ha : ∀ a ∈ apps, ':' ∉ a.appAddr.toList) (addr : String) (startedAt : Int) :
    Fits (newServer addr (appInfos apps) startedAt) m := by
  obtain ⟨hservices, -, hiff⟩ := newSessionManager_ok hm
  constructor
  · intro id appAddr id' appAddr' h h'
    exact fun hkey ↦ (SessionManager.cacheKey_inj (ha _ ((hiff id appAddr).mp h))
      (ha _ ((hiff id' appAddr').mp h')) hkey).1
  · intro id appAddr h
    rw [hservices]
    exact List.mem_map.mpr ⟨_, (hiff id appAddr).mp h, rfl⟩
  · intro app happ
    obtain ⟨a, hmem, rfl⟩ := List.mem_map.mp happ
    exact ⟨a.appAddr, (hiff a.serviceID a.appAddr).mpr hmem⟩

variable [GoLib]

/-- The cache is faithful to the history, and the request to the cache. -/
structure Admin.Current (srv : Server) (m : SessionManager) (s : Admin) : Prop where
  sound : s.Sound srv
  cached : s.proxy.Cached m
  reading : s.reading.Current srv m s.proxy.history

private theorem Admin.Current.step (hm : Fits srv m) {s s' : Admin} {a : AdminAction}
    (h : s.Current srv m) (hs : srv.step m s a = some s') : s'.Current srv m := by
  have hsound := h.sound.step hs
  obtain ⟨⟨-, hread⟩, hcached, hr⟩ := h
  refine ⟨hsound, ?_, ?_⟩
  · cases Server.step_cases hs with
    | beside a p moved => exact hcached.step hm.apart moved
    | _ => exact hcached
  · cases Server.step_cases hs with
    | beside a p moved => exact hr.grow (Proxy.history_step moved)
    | refused host path code text => trivial
    | arrived host path allowed => trivial
    | judged q was => trivial
    | ranged q v was =>
      rw [was] at hread
      exact hcached.ranged hm hread.1.since
    | visited key q v due seen found sess was cached =>
      rw [was] at hr hread
      exact Ranged.visit hm.apart hcached hread.1.since hr cached
    | collected q v due seen found was all =>
      rw [was] at hr
      exact ⟨hr.collect all, [], rfl, .nil⟩
    | answered q resp sessions was =>
      rw [was] at hr
      obtain ⟨-, apps, happs, hon⟩ := hr
      rw [List.append_nil] at happs
      rw [← happs] at hon
      exact hon
    | filled q resp sessions app left was =>
      rw [was] at hr
      obtain ⟨hf, apps, happs, hon⟩ := hr
      obtain ⟨appAddr, happ⟩ := hm.apps app (by simp [happs])
      refine ⟨hf, apps ++ [app], by simp [happs], ?_⟩
      exact List.rel_append hon (.cons (hf.reported happ s.proxy) .nil)

/-- The session reported for a service is the one fetched last for it, as of some moment
between the arrival of the request and the answer, however the pass over the cache and the
refreshes interleave; a service is reported without one only if none had been fetched when
the request came. Addresses of apps have no colon, so no two services share a key. -/
theorem health_sessions_current {apps : List ServiceApp} {addr : String} {startedAt now : Int}
    {actions : List AdminAction} {s : Admin} {q : Asked} {code : Nat} {resp : Response}
    (hm : newSessionManager apps = .ok m) (ha : ∀ a ∈ apps, ':' ∉ a.appAddr.toList)
    (h : runAll ((newServer addr (appInfos apps) startedAt).step m) (Admin.start now) actions =
      some s)
    (hr : s.reading = .answered q code resp) :
    List.Forall₂ (SessionReported s.proxy.history q) (appInfos apps) resp.services := by
  have hfits := fits_of_apps hm ha addr startedAt
  have hs := invariant_of_step (I := Admin.Current (newServer addr (appInfos apps) startedAt) m)
    (fun _ _ _ hi hs ↦ hi.step hfits hs) (s := Admin.start now)
    ⟨⟨Proxy.faithful_start now, trivial⟩, Proxy.cached_start m now, trivial⟩ h
  have hread := hs.reading
  rwa [hr] at hread

end Sessions

/-- The manager for one app. -/
def polyManager : SessionManager := ⟨Function.update (fun _ ↦ none) "poly" (some "app"), ["poly"]⟩

/-- A session is fetched, and expires at height 10. While a request is on its way through the
cache, a call finds that out and replaces it. -/
def refreshedReport : List AdminAction :=
  [.proxy (.manager (.call 0 "poly")), .proxy (.manager (.load 0)),
    .proxy (.manager (.answer 0 (.ok ⟨"first", some ⟨"app", "poly", "first", 10⟩, none⟩))),
    .proxy (.manager (.store 0)), .proxy (.manager (.poll (.ok 12))), .ask "localhost" healthPath,
    .pollState, .range, .proxy (.manager (.call 1 "poly")), .proxy (.manager (.load 1)),
    .proxy (.manager (.check 1)),
    .proxy (.manager (.answer 1 (.ok ⟨"second", some ⟨"app", "poly", "second", 20⟩, none⟩))),
    .proxy (.manager (.store 1)), .visit "poly:app", .collect, .fill, .fill]

/-- Where it leads. -/
def refreshedAdmin : Option Admin :=
  let _ : GoLib := GoLib.plain
  runAll ((newServer "127.0.0.1:9000" (appInfos [⟨"poly", "app"⟩]) 0).step polyManager)
    (Admin.start 0) refreshedReport

/-- After a refresh the second session is reported. -/
theorem health_sessions_current_refreshed : ∃ s q code resp, refreshedAdmin = some s ∧
    s.reading = .answered q code resp ∧ resp.services.map (·.sessionID) = ["second"] ∧
    List.Forall₂ (SessionReported s.proxy.history q) (appInfos [⟨"poly", "app"⟩]) resp.services := by
  let _ : GoLib := GoLib.plain
  obtain ⟨s, hs⟩ := Option.isSome_iff_exists.mp (by decide +kernel : refreshedAdmin.isSome = true)
  have hr : refreshedAdmin.map (fun s ↦ s.reading.answer?.map fun r ↦
      r.2.services.map (·.sessionID)) = some (some ["second"]) := by decide +kernel
  rw [hs] at hr
  obtain ⟨⟨code, resp⟩, ha, hid⟩ := Option.map_eq_some_iff.mp (Option.some.inj hr)
  obtain ⟨q, hq⟩ := Reading.answer?_eq_some ha
  have hm : newSessionManager [⟨"poly", "app"⟩] = .ok polyManager := rfl
  exact ⟨s, q, code, resp, hs, hq, hid, health_sessions_current hm (by decide) hs hq⟩

end PocketAp.Health
