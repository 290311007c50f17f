import PocketAp.Health.Health

/-!
# What a health report is worth

`src/health/health.go:276–380`. Nothing is locked while a report is put together, so it is
not a picture of one moment. Every part of it is right of some moment between the arrival
of the request and the answer, which is what the theorems below say part by part: the
verdict on the poller, the counters of each service, and its session.
-/

namespace PocketAp.Health

open PocketAp.Base PocketAp.Domain PocketAp.Relay PocketAp.Pocket PocketAp.Transport

/-- The status code and the report, once there is one. -/
def Reading.answer? : Reading → Option (Nat × Response)
  | .answered _ code resp => some (code, resp)
  | _ => none

/-- Only an answered request has an answer. -/
theorem Reading.answer?_eq_some {r : Reading} {code : Nat} {resp : Response}
    (h : r.answer? = some (code, resp)) : ∃ q, r = .answered q code resp := by
  cases r with
  | answered q code' resp' =>
    cases h
    exact ⟨q, rfl⟩
  | _ => cases h

/-- Before the request. -/
def Admin.start (now : Int) : Admin := ⟨Proxy.start now, .idle⟩

/-- A step adds to the history and takes nothing back. -/
theorem Proxy.history_step {m : SessionManager} {p p' : Proxy} {a : ProxyAction}
    (h : p.step m a = some p') : p.history <+: p'.history := by
  cases step_cases h with
  | ticked d => exact List.prefix_rfl
  | went a s moved cache height => exact List.prefix_rfl
  | polled reply => cases reply <;> exact List.prefix_append _ _
  | _ => exact List.prefix_append _ _

namespace Server

variable [GoLib]

/-- What a step can do. -/
inductive Stepped (srv : Server) (m : SessionManager) (s : Admin) : AdminAction → Admin → Prop where
  | beside (a : ProxyAction) (p : Proxy) (moved : s.proxy.step m a = some p) :
      Stepped srv m s (.proxy a) { s with proxy := p }
  | refused (host path : String) (code : Nat) (text : String) :
      Stepped srv m s (.ask host path) { s with reading := .refused code text }
  | arrived (host path : String) (allowed : srv.hosts.allows host = true) :
      Stepped srv m s (.ask host path)
        { s with reading := .arrived ⟨host, s.proxy.now, s.proxy.history⟩ }
  | judged (q : Asked) (was : s.reading = .arrived q) :
      Stepped srv m s .pollState { s with reading := .judged q (judge q.now s.proxy.pollState) }
  | ranged (q : Asked) (v : Status × String × ChainHealth) (was : s.reading = .judged q v) :
      Stepped srv m s .range
        { s with reading := .ranging q v (cachedKeys m s.proxy.sessions) [] [] }
  | visited (key : String) (q : Asked) (v : Status × String × ChainHealth)
      (due seen : List String) (found : List Session) (sess : Session)
      (was : s.reading = .ranging q v due seen found)
      (cached : s.proxy.sessions.sessionCache key = some sess) :
      Stepped srv m s (.visit key)
        { s with reading := .ranging q v due (seen ++ [key]) (found ++ [sess]) }
  | collected (q : Asked) (v : Status × String × ChainHealth) (due seen : List String)
      (found : List Session) (was : s.reading = .ranging q v due seen found)
      (all : ∀ key ∈ due, key ∈ seen) :
      Stepped srv m s .collect
        { s with reading := .filling q (srv.begin s.proxy q v) (indexed found) srv.apps }
  | answered (q : Asked) (resp : Response) (sessions : ServiceID → Option Session)
      (was : s.reading = .filling q resp sessions []) :
      Stepped srv m s .fill
        { s with reading := .answered q (if resp.status ≠ .ok then 503 else 200) resp }
  | filled (q : Asked) (resp : Response) (sessions : ServiceID → Option Session) (app : AppInfo)
      (left : List AppInfo) (was : s.reading = .filling q resp sessions (app :: left)) :
      Stepped srv m s .fill
        { s with
          reading := .filling q { resp with
            services := resp.services ++ [Health.fill s.proxy app.serviceID
              (sessionPart app.serviceID (sessions app.serviceID)) q.now] } sessions left }

/-- The health server moves in one of these ways. -/
theorem step_cases {srv : Server} {m : SessionManager} {s s' : Admin} {a : AdminAction}
    (h : srv.step m s a = some s') : Stepped srv m s a s' := by
  cases a with
  | proxy a =>
    obtain ⟨p, hp, rfl⟩ := Option.map_eq_some_iff.mp h
    exact .beside a p hp
  | ask host path =>
    simp only [step] at h
    split at h
    · cases h
      unfold route
      split
      · exact .refused host path _ _
      · next ha =>
        split
        · exact .arrived host path (by simpa using ha)
        · exact .refused host path _ _
    · cases h
  | pollState =>
    simp only [step] at h
    split at h
    · next q hq =>
      cases h
      exact .judged q hq
    · cases h
  | range =>
    simp only [step] at h
    split at h
    · next q v hq =>
      cases h
      exact .ranged q v hq
    · cases h
  | visit key =>
    simp only [step] at h
    split at h
    · next q v due seen found hq =>
      split at h
      · cases h
      · next sess hs =>
        split at h
        · cases h
        · cases h
          exact .visited key q v due seen found sess hq hs
    · cases h
  | collect =>
    simp only [step] at h
    split at h
    · next q v due seen found hq =>
      split at h
      · next all =>
        cases h
        exact .collected q v due seen found hq all
      · cases h
    · cases h
  | fill =>
    simp only [step] at h
    split at h
    · next q resp sessions hq =>
      cases h
      exact .answered q resp sessions hq
    · next q resp sessions app left hq =>
      cases h
      exact .filled q resp sessions app left hq
    · cases h

end Server

/-! ### Each part is right of some moment -/

/-- What the counters say of a service after a history. -/
structure Tallied (h : History) (id : ServiceID) (now : Int) (sh : ServiceHealth) : Prop where
  attempts : sh.attempts = UInt64.ofNat (h.attempts id fun _ ↦ true)
  successes : sh.successes = UInt64.ofNat (h.attempts id fun o ↦ o.success)
  balanced : sh.attempts = sh.successes + sh.failures
  lastError : sh.lastError = ((h.lastError id).map Prod.snd).getD ""
  lastErrorAge : sh.lastErrorAge = ((h.lastError id).map fun e ↦ now - e.1).getD 0

/-- A service of the report: it is the app's, and its counters are those of one moment. -/
structure Reported (h : History) (q : Asked) (app : AppInfo) (sh : ServiceHealth) : Prop where
  service : sh.serviceID = app.serviceID
  tallied : ∃ view, Between q.since view h ∧ Tallied view app.serviceID q.now sh

/-- A request that was let in, and how old its report can be. -/
structure Came [GoLib] (srv : Server) (h : History) (q : Asked) : Prop where
  allowed : srv.hosts.allows q.host = true
  since : q.since <+: h
  timed : q.since.Timed q.now

/-- The verdict is that of one moment. -/
def Judged (h : History) (q : Asked) (v : Status × String × ChainHealth) : Prop :=
  ∃ view : History, Between q.since view h ∧ v = judge q.now view.pollState

/-- The parts of a report, the services of `apps` included. -/
structure Honest (h : History) (q : Asked) (apps : List AppInfo) (resp : Response) : Prop where
  judged : Judged h q (resp.status, resp.reason, resp.chain)
  panics : ∃ view : History, Between q.since view h ∧
    resp.recoveredPanics = UInt64.ofNat view.panics
  services : List.Forall₂ (Reported h q) apps resp.services

private theorem Judged.grow {h h' : History} {q : Asked} {v : Status × String × ChainHealth}
    (hj : Judged h q v) (hh : h <+: h') : Judged h' q v := by
  obtain ⟨view, hb, hv⟩ := hj
  exact ⟨view, hb.grow hh, hv⟩

private theorem Reported.grow {h h' : History} {q : Asked} {app : AppInfo} {sh : ServiceHealth}
    (hr : Reported h q app sh) (hh : h <+: h') : Reported h' q app sh := by
  obtain ⟨view, hb, ht⟩ := hr.tallied
  exact ⟨hr.service, view, hb.grow hh, ht⟩

private theorem Honest.grow {h h' : History} {q : Asked} {apps : List AppInfo} {resp : Response}
    (hr : Honest h q apps resp) (hh : h <+: h') : Honest h' q apps resp := by
  obtain ⟨view, hb, hp⟩ := hr.panics
  exact ⟨hr.judged.grow hh, ⟨view, hb.grow hh, hp⟩, hr.services.imp fun _ _ hs ↦ hs.grow hh⟩

/-! ### The counters -/

/-- A service without counters was never attempted. -/
theorem observeEach_absent {st : Stats} {told : List (EndpointAddr × Outcome)} {id : ServiceID}
    (h : (st.observeEach told).byServiceID id = none) :
    st.byServiceID id = none ∧ ∀ t ∈ told, t.2.serviceID ≠ id := by
  induction told generalizing st with
  | nil => exact ⟨h, fun _ ht ↦ absurd ht List.not_mem_nil⟩
  | cons t told ih =>
    have hrest : ((st.observe t.1 t.2).observeEach told).byServiceID id = none := h
    obtain ⟨ht, hrest⟩ := ih hrest
    have hid : id ≠ t.2.serviceID := by
      intro hid
      simp [Stats.observe, hid] at ht
    refine ⟨?_, fun t' ht' ↦ ?_⟩
    · simpa [Stats.observe, Function.update_of_ne hid] using ht
    · rcases List.mem_cons.mp ht' with rfl | ht'
      · exact Ne.symm hid
      · exact hrest t' ht'

private theorem lastError_absent {h : History} {id : ServiceID}
    (ha : ∀ t ∈ h.outcomes, t.2.serviceID ≠ id) : h.lastError id = none := by
  cases hl : h.lastError id with
  | none => rfl
  | some e =>
    obtain ⟨⟨t, happened⟩, hmem, hf⟩ := latest_mem hl
    cases happened with
    | observed supplier o =>
      simp only at hf
      split at hf
      · next hid =>
        refine absurd hid.1 (ha (supplier, o) ?_)
        exact List.mem_filterMap.mpr ⟨_, hmem, rfl⟩
      · cases hf
    | _ => cases hf

/-- What `fill` writes down is what the history up to then says. -/
theorem fill_tallied {p : Proxy} (hp : p.Faithful) (id : ServiceID) (sess : Option Session)
    (now : Int) : Tallied p.history id now (fill p id (sessionPart id sess) now) := by
  have hc := hp.counted
  have hattempts := Stats.counts_attempts.observeEach newStats p.history.outcomes id
  have hsuccesses := Stats.counts_successes.observeEach newStats p.history.outcomes id
  have hbalanced : p.stats.Balanced := hc.stats ▸ Stats.Balanced.observeEach (fun _ ↦ rfl) _
  rw [← hc.stats] at hattempts hsuccesses
  have hzero : (newStats.counters id) = ⟨0, 0, 0, ""⟩ := rfl
  simp only [hzero, UInt64.zero_add] at hattempts hsuccesses
  have herr := hc.lastErr id
  have herrAt := hc.lastErrAt id
  have hbal := hbalanced id
  cases hs : p.stats.byServiceID id with
  | none =>
    have hnone := lastError_absent (observeEach_absent (hc.stats ▸ hs)).2
    simp only [Stats.counters, hs, Option.getD_none] at hattempts hsuccesses
    have hfill : fill p id (sessionPart id sess) now = sessionPart id sess := by
      simp only [fill, hs]
    rw [hfill]
    cases sess <;> exact ⟨hattempts, hsuccesses, rfl, by rw [hnone]; rfl, by rw [hnone]; rfl⟩
  | some svc =>
    simp only [Stats.counters, hs, Option.getD_some] at hattempts hsuccesses herr hbal
    refine ⟨?_, ?_, ?_, ?_, ?_⟩ <;> simp only [fill, hs]
    · exact hattempts
    · exact hsuccesses
    · exact hbal
    · exact herr
    · rw [herrAt]
      cases p.history.lastError id with
      | some e => rfl
      | none => cases sess <;> rfl

private theorem fill_service (p : Proxy) (id : ServiceID) (sess : Option Session) (now : Int) :
    (fill p id (sessionPart id sess) now).serviceID = id := by
  unfold fill
  split <;> cases sess <;> rfl

/-! ### A request -/

section Request

variable [GoLib] {srv : Server} {m : SessionManager}

/-- What a request has established so far. -/
def Reading.Sound (srv : Server) (h : History) : Reading → Prop
  | .idle => True
  | .refused _ _ => True
  | .arrived q => Came srv h q
  | .judged q v => Came srv h q ∧ Judged h q v
  | .ranging q v _ _ _ => Came srv h q ∧ Judged h q v
  | .filling q resp _ left => Came srv h q ∧
      ∃ apps, srv.apps = apps ++ left ∧ Honest h q apps resp
  | .answered q code resp => Came srv h q ∧ Honest h q srv.apps resp ∧
      code = if resp.status ≠ .ok then 503 else 200

private theorem Came.grow {h h' : History} {q : Asked} (hc : Came srv h q) (hh : h <+: h') :
    Came srv h' q :=
  ⟨hc.allowed, hc.since.trans hh, hc.timed⟩

/-- Whatever else goes on, what was established stays so. -/
theorem Reading.Sound.grow {h h' : History} {r : Reading} (hr : r.Sound srv h) (hh : h <+: h') :
    r.Sound srv h' := by
  cases r with
  | idle => trivial
  | refused code text => trivial
  | arrived q => exact Came.grow hr hh
  | judged q v => exact ⟨hr.1.grow hh, hr.2.grow hh⟩
  | ranging q v due seen found => exact ⟨hr.1.grow hh, hr.2.grow hh⟩
  | filling q resp sessions left =>
    obtain ⟨hc, apps, happs, hon⟩ := hr
    exact ⟨hc.grow hh, apps, happs, hon.grow hh⟩
  | answered q code resp => exact ⟨hr.1.grow hh, hr.2.1.grow hh, hr.2.2⟩

/-- The process is faithful to its history, and the request to the process. -/
structure Admin.Sound (srv : Server) (s : Admin) : Prop where
  faithful : s.proxy.Faithful
  reading : s.reading.Sound srv s.proxy.history

/-- Every step keeps the health server sound. -/
theorem Admin.Sound.step {s s' : Admin} {a : AdminAction} (h : s.Sound srv)
    (hs : srv.step m s a = some s') : s'.Sound srv := by
  obtain ⟨hf, hr⟩ := h
  cases Server.step_cases hs with
  | beside a p moved => exact ⟨hf.step moved, hr.grow (Proxy.history_step moved)⟩
  | refused host path code text => exact ⟨hf, trivial⟩
  | arrived host path allowed => exact ⟨hf, allowed, List.prefix_rfl, hf.timed⟩
  | judged q was =>
    rw [was] at hr
    exact ⟨hf, hr, s.proxy.history, between_now hr.since, by rw [hf.polled]⟩
  | ranged q v was =>
    rw [was] at hr
    exact ⟨hf, hr⟩
  | visited key q v due seen found sess was cached =>
    rw [was] at hr
    exact ⟨hf, hr⟩
  | collected q v due seen found was all =>
    rw [was] at hr
    exact ⟨hf, hr.1, [], rfl, hr.2, ⟨s.proxy.history, between_now hr.1.since, hf.panics⟩, .nil⟩
  | answered q resp sessions was =>
    rw [was] at hr
    obtain ⟨hc, apps, happs, hon⟩ := hr
    rw [List.append_nil] at happs
    exact ⟨hf, hc, happs ▸ hon, rfl⟩
  | filled q resp sessions app left was =>
    rw [was] at hr
    obtain ⟨hc, apps, happs, hon⟩ := hr
    have hnew : Reported s.proxy.history q app (fill s.proxy app.serviceID
        (sessionPart app.serviceID (sessions app.serviceID)) q.now) :=
      ⟨fill_service _ _ _ _, s.proxy.history, between_now hc.since, fill_tallied hf _ _ _⟩
    refine ⟨hf, hc, apps ++ [app], by simp [happs], hon.judged, hon.panics, ?_⟩
    exact List.rel_append hon.services (.cons hnew .nil)

/-- After every run the health server is sound. -/
theorem sound_run {now : Int} {actions : List AdminAction} {s : Admin}
    (h : runAll (srv.step m) (Admin.start now) actions = some s) : s.Sound srv :=
  invariant_of_step (I := Admin.Sound srv) (fun _ _ _ hi hs ↦ hi.step hs)
    (s := Admin.start now) ⟨Proxy.faithful_start now, trivial⟩ h

end Request

/-! ### The verdict -/

/-- How old a height may be. -/
def staleAfter : Int := stalenessFactor * blockPollInterval

/-- A verdict is good iff the last poll that succeeded is recent enough. -/
theorem judge_ok_iff (now : Int) (h : History) : (judge now h.pollState).1 = .ok ↔
    ∃ t height, h.lastSuccess = some (t, height) ∧ now - t ≤ staleAfter := by
  unfold judge History.pollState
  cases hl : h.lastSuccess with
  | none => simp
  | some e =>
    rcases e with ⟨t, height⟩
    simp only [Option.map_some, Option.some.injEq, Prod.mk.injEq]
    split
    · next hstale =>
      simp only [reduceCtorEq, false_iff]
      rintro ⟨t', height', ⟨rfl, rfl⟩, hle⟩
      unfold staleAfter at hle
      omega
    · next hfresh =>
      simp only [true_iff]
      exact ⟨t, height, ⟨rfl, rfl⟩, by unfold staleAfter; omega⟩

private theorem success?_eq_some {e : Int × Happened} {t height : Int}
    (h : History.success? e = some (t, height)) : e = (t, .polled (.ok height)) := by
  rcases e with ⟨t', happened⟩
  cases happened with
  | polled reply =>
    cases reply with
    | ok height' =>
      cases h
      rfl
    | error e => cases h
  | _ => cases h

/-- The poll state is that of a success, if there was one. -/
theorem lastSuccess_mem {h : History} {t height : Int} (hl : h.lastSuccess = some (t, height)) :
    (t, .polled (.ok height)) ∈ h := by
  obtain ⟨e, hmem, hf⟩ := latest_mem hl
  exact success?_eq_some hf ▸ hmem

/-- A poll that succeeded is no more recent than the last one that did. -/
theorem lastSuccess_of_mem {h : History} {t height : Int}
    (ho : h.Pairwise fun a b ↦ a.1 ≤ b.1) (hm : (t, .polled (.ok height)) ∈ h) :
    ∃ t' height', h.lastSuccess = some (t', height') ∧ t ≤ t' := by
  obtain ⟨e, ⟨t', height'⟩, hf, hl, hle⟩ :=
    latest_of_mem (f := History.success?) (fun _ ↦ Int.le_refl _) ho hm rfl
  rw [success?_eq_some hf] at hle
  exact ⟨t', height', hl, hle⟩

/-- What the status code of a report is worth. -/
structure Ready (h : History) (q : Asked) (code : Nat) (resp : Response) : Prop where
  coded : code = 200 ∧ resp.status = .ok ∨ code = 503 ∧ resp.status = .degraded
  /-- The verdict is exact of one moment, with the height and the error of that moment. -/
  judged : ∃ view : History, Between q.since view h ∧
    (resp.status = .ok ↔
      ∃ t height, view.lastSuccess = some (t, height) ∧ q.now - t ≤ staleAfter) ∧
    resp.chain.blockHeight = (view.lastSuccess.map Prod.snd).getD 0 ∧
    resp.chain.lastPollError = ((view.lastPoll.bind pollError).map fun e ↦ e.message).getD ""
  /-- A poll that succeeded in time makes the proxy ready. -/
  polled : ∀ t height, (t, .polled (.ok height)) ∈ q.since → q.now - t ≤ staleAfter → code = 200
  /-- A ready proxy has polled in time. -/
  fresh : code = 200 → ∃ t height, (t, .polled (.ok height)) ∈ h ∧ q.now - t ≤ staleAfter

private theorem judge_chain (now : Int) (h : History) :
    (judge now h.pollState).2.2.blockHeight = (h.lastSuccess.map Prod.snd).getD 0 ∧
      (judge now h.pollState).2.2.lastPollError =
        ((h.lastPoll.bind pollError).map fun e ↦ e.message).getD "" := by
  unfold judge
  dsimp only
  split
  · exact ⟨rfl, rfl⟩
  · split <;> exact ⟨rfl, rfl⟩

private theorem ready_of_judged {h : History} {q : Asked} {code : Nat} {resp : Response}
    (ho : h.Pairwise fun a b ↦ a.1 ≤ b.1) (hj : Judged h q (resp.status, resp.reason, resp.chain))
    (hcode : code = if resp.status ≠ .ok then 503 else 200) : Ready h q code resp := by
  obtain ⟨view, hb, hv⟩ := hj
  have hstatus : resp.status = (judge q.now view.pollState).1 := congrArg Prod.fst hv
  have hchain : resp.chain = (judge q.now view.pollState).2.2 := congrArg (·.2.2) hv
  have hok := hstatus ▸ judge_ok_iff q.now view
  have h200 : code = 200 ↔ resp.status = .ok := by
    rw [hcode]
    split
    · next hne => simp [hne]
    · next heq => simpa using heq
  refine ⟨?_, ⟨view, hb, hok, ?_, ?_⟩, fun t height hm hle ↦ ?_, fun hc ↦ ?_⟩
  · rw [hcode]
    cases resp.status with
    | ok => exact .inl ⟨rfl, rfl⟩
    | degraded => exact .inr ⟨rfl, rfl⟩
  · rw [hchain]
    exact (judge_chain q.now view).1
  · rw [hchain]
    exact (judge_chain q.now view).2
  · obtain ⟨t', height', hl, ht⟩ :=
      lastSuccess_of_mem (ho.sublist hb.upTo.sublist) (hb.after.subset hm)
    exact h200.mpr (hok.mpr ⟨t', height', hl, by omega⟩)
  · obtain ⟨t, height, hl, hle⟩ := hok.mp (h200.mp hc)
    exact ⟨t, height, hb.upTo.subset (lastSuccess_mem hl), hle⟩

/-- Whatever polls, relays and refreshes happen around it and during it, a request that is
answered gets 200 or 503, with the status that goes with it. It is 200 if a poll succeeded
within three intervals before the request came, and only if one succeeded since three
intervals before it; height and error are those of one moment. Only a Host that the listener
answers to gets a report. -/
theorem health_ready_iff_polled [GoLib] {srv : Server} {m : SessionManager} {now : Int}
    {actions : List AdminAction} {s : Admin} {q : Asked} {code : Nat} {resp : Response}
    (h : runAll (srv.step m) (Admin.start now) actions = some s)
    (hr : s.reading = .answered q code resp) :
    Ready s.proxy.history q code resp ∧ srv.hosts.allows q.host = true := by
  have hs := sound_run h
  have hread := hs.reading
  rw [hr] at hread
  obtain ⟨hc, hon, hcode⟩ := hread
  exact ⟨ready_of_judged hs.faithful.timed.ordered hon.judged hcode, hc.allowed⟩

/-- An admin listener on loopback, for one app. -/
def polyAdmin : Server := newServer "127.0.0.1:9000" [⟨"app", "poly"⟩] 0

/-- A poll succeeds, a relay fails, and 20 s later a request comes. While it is answered, a
poll fails, a panic is recovered and a relay succeeds. -/
def busyReport : List AdminAction :=
  [.proxy (.manager (.poll (.ok 7))),
    .proxy (.observe "s1" ⟨"poly", .jsonRPC, false, some (.text "refused")⟩),
    .proxy (.tick 20000000000), .ask "localhost:9000" healthPath,
    .proxy (.manager (.poll (.error (.text "node down")))), .pollState, .range, .proxy .panic,
    .collect, .proxy (.observe "s2" ⟨"poly", .jsonRPC, true, none⟩), .fill, .fill]

/-- Where it leads. -/
def busyAdmin : Option Admin :=
  let _ : GoLib := GoLib.plain
  runAll (polyAdmin.step ⟨fun s ↦ if s = "poly" then some "app" else none, ["poly"]⟩)
    (Admin.start 0) busyReport

/-- What it answers. -/
def busyResponse : Response :=
  ⟨.ok, "", [⟨"app", "poly"⟩], 20000000000, ⟨7, 20000000000, 10000000000, "node down"⟩,
    [{ serviceID := "poly", attempts := 2, successes := 1, failures := 1, lastError := "refused",
       lastErrorAge := 20000000000 }], 1⟩

private theorem busyAdmin_answers : ∃ s q, busyAdmin = some s ∧
    s.reading = .answered q 200 busyResponse := by
  obtain ⟨s, hs⟩ := Option.isSome_iff_exists.mp (by decide +kernel : busyAdmin.isSome = true)
  have hr : busyAdmin.map (fun s ↦ s.reading.answer?) = some (some (200, busyResponse)) := by
    decide +kernel
  rw [hs] at hr
  obtain ⟨q, hq⟩ := Reading.answer?_eq_some (Option.some.inj hr)
  exact ⟨s, q, hs, hq⟩

/-- A busy proxy that has been polled is ready. -/
theorem health_ready_iff_polled_busy : ∃ s q, busyAdmin = some s ∧
    s.reading = .answered q 200 busyResponse ∧ Ready s.proxy.history q 200 busyResponse := by
  let _ : GoLib := GoLib.plain
  obtain ⟨s, q, hs, hq⟩ := busyAdmin_answers
  exact ⟨s, q, hs, hq, (health_ready_iff_polled hs hq).1⟩

/-- The report lists the services in the order of the apps. The counters of each are those of
one moment between the arrival of the request and the answer: they count the attempts of
that service up to then, every one as a success or a failure, and the error is that of the
last attempt that failed with one. So is the number of recovered panics. -/
theorem health_counters_exact [GoLib] {srv : Server} {m : SessionManager} {now : Int}
    {actions : List AdminAction} {s : Admin} {q : Asked} {code : Nat} {resp : Response}
    (h : runAll (srv.step m) (Admin.start now) actions = some s)
    (hr : s.reading = .answered q code resp) :
    List.Forall₂ (Reported s.proxy.history q) srv.apps resp.services ∧
      ∃ view : History, Between q.since view s.proxy.history ∧
        resp.recoveredPanics = UInt64.ofNat view.panics := by
  have hread := (sound_run h).reading
  rw [hr] at hread
  exact ⟨hread.2.1.services, hread.2.1.panics⟩

/-- Its counters are those of its history. -/
theorem health_counters_exact_busy : ∃ s q, busyAdmin = some s ∧
    s.reading = .answered q 200 busyResponse ∧
    List.Forall₂ (Reported s.proxy.history q) polyAdmin.apps busyResponse.services := by
  let _ : GoLib := GoLib.plain
  obtain ⟨s, q, hs, hq⟩ := busyAdmin_answers
  exact ⟨s, q, hs, hq, (health_counters_exact hs hq).1⟩

end PocketAp.Health
