import PocketAp.Pocket.Session

/-!
# Sessions over time

`src/pocket/session.go:178–234`. A poll stores the height it was given, and a refresh stores
the session it was given, whatever is there already. So the height follows the last poll and
the cache the last store, not the newest answer. Both move forward only if the node never
answers with an older height, and if no answer overtakes another on its way to the cache.
-/

namespace PocketAp.Pocket.SessionManager

open PocketAp.Base PocketAp.Domain

/-! ### The height -/

/-- The height of a successful poll. -/
def Event.height? : Event → Option Int
  | .polled (.ok height) => some height
  | _ => none

/-- Heights of the successful polls, in order. -/
def heights (log : List Event) : List Int := log.filterMap Event.height?

/-- What was found expired is not served later. -/
def Event.NotRevived : Event → Event → Prop
  | .expired _ session _, .served _ session' _ => session' ≠ session
  | _, _ => True

/-- The view of the chain: the highest height seen, and no session that was over comes back. -/
structure UpToDate (s : State) : Prop where
  height : s.latestBlockHeight = (heights s.log).max?.getD 0
  retired : s.log.Pairwise Event.NotRevived

/-- A poll does not answer with a height below the one that is held. -/
def NeverOlder (s : State) : Action → Prop
  | .poll (.ok height) => s.latestBlockHeight ≤ height
  | _ => True

instance (s : State) : (a : Action) → Decidable (NeverOlder s a)
  | .poll (.ok height) => inferInstanceAs (Decidable (s.latestBlockHeight ≤ height))
  | .poll (.error _) => .isTrue trivial
  | .call _ _ => .isTrue trivial
  | .load _ => .isTrue trivial
  | .check _ => .isTrue trivial
  | .answer _ _ => .isTrue trivial
  | .store _ => .isTrue trivial

/-- Carries `UpToDate`: the height is at least every one seen, and at least the end of every
session that was found expired. -/
structure Forward (s : State) : Prop where
  unpolled : heights s.log = [] → s.latestBlockHeight = 0
  mem : heights s.log ≠ [] → s.latestBlockHeight ∈ heights s.log
  le : ∀ h ∈ heights s.log, h ≤ s.latestBlockHeight
  passed : ∀ serviceID session h, .expired serviceID session h ∈ s.log →
    session.endBlockHeight ≤ s.latestBlockHeight
  retired : s.log.Pairwise Event.NotRevived

private theorem Forward.upToDate {s : State} (h : Forward s) : UpToDate s := by
  refine ⟨?_, h.retired⟩
  by_cases hn : heights s.log = []
  · rw [hn, h.unpolled hn]
    rfl
  · have hmax : (heights s.log).max? = some s.latestBlockHeight :=
      List.max?_eq_some_iff.mpr ⟨h.mem hn, h.le⟩
    rw [hmax]
    rfl

private theorem forward_start : Forward start := by
  constructor <;> simp [start, heights]

private theorem heights_append (log : List Event) (e : Event) :
    heights (log ++ [e]) = heights log ++ e.height?.toList := by
  simp only [heights, List.filterMap_append, List.filterMap_cons, List.filterMap_nil]
  cases e.height? <;> rfl

/-- Only a session that is not over is served, and those found expired are over. -/
private theorem Forward.retired_append {s : State} (h : Forward s) {e : Event}
    (hserved : ∀ serviceID session height, e = .served serviceID session height →
      s.latestBlockHeight < session.endBlockHeight) :
    (s.log ++ [e]).Pairwise Event.NotRevived := by
  rw [List.pairwise_append]
  refine ⟨h.retired, List.pairwise_singleton .., ?_⟩
  intro old hold new hnew
  rw [List.mem_singleton.mp hnew]
  cases old with
  | expired serviceID session height =>
    cases e with
    | served serviceID' session' height' =>
      intro heq
      have hover := h.passed serviceID session height hold
      have hfresh := hserved serviceID' session' height' rfl
      rw [heq] at hfresh
      omega
    | _ => trivial
  | _ => trivial

private theorem Forward.record {s : State} (h : Forward s) {e : Event} (he : e.height? = none)
    (hover : ∀ serviceID session height, e = .expired serviceID session height →
      session.endBlockHeight ≤ s.latestBlockHeight)
    (hserved : ∀ serviceID session height, e = .served serviceID session height →
      s.latestBlockHeight < session.endBlockHeight) : Forward (s.record e) := by
  have hh : heights (s.record e).log = heights s.log := by
    rw [State.record_log, heights_append, he]
    simp
  constructor
  · rw [hh]
    exact h.unpolled
  · rw [hh]
    exact h.mem
  · rw [hh]
    exact h.le
  · intro serviceID session height hmem
    rcases List.mem_append.mp hmem with hold | hnew
    · exact h.passed serviceID session height hold
    · exact hover serviceID session height (List.mem_singleton.mp hnew).symm
  · exact h.retired_append hserved

private theorem Forward.goOn {s : State} (h : Forward s) (i : Nat) (c : Call) :
    Forward (s.goOn i c) :=
  ⟨h.unpolled, h.mem, h.le, h.passed, h.retired⟩

private theorem Forward.poll {s : State} (h : Forward s) {reply : Except Err Int}
    (hold : NeverOlder s (.poll reply)) : Forward (s.poll reply) := by
  cases reply with
  | error e => exact h.record rfl nofun nofun
  | ok height =>
    have hle : s.latestBlockHeight ≤ height := hold
    have hh : heights (s.poll (.ok height)).log = heights s.log ++ [height] := heights_append _ _
    constructor
    · rw [hh]
      simp
    · rw [hh]
      intro _
      exact List.mem_append_right _ (List.mem_singleton.mpr rfl)
    · rw [hh]
      intro x hx
      show x ≤ height
      rcases List.mem_append.mp hx with hx | hx
      · exact Int.le_trans (h.le x hx) hle
      · exact Int.le_of_eq (List.mem_singleton.mp hx)
    · intro serviceID session h' hmem
      rcases List.mem_append.mp hmem with hmem | hmem
      · exact Int.le_trans (h.passed serviceID session h' hmem) hle
      · cases List.mem_singleton.mp hmem
    · exact h.retired_append nofun

/-- Every step that brings no older height keeps the view going forward. -/
theorem forward_step {m : SessionManager} {s s' : State} {a : Action} (h : Forward s)
    (hold : NeverOlder s a) (hstep : step m s a = some s') : Forward s' := by
  cases step_cases hstep with
  | unknown i serviceID idle absent => exact h.goOn i _
  | called i serviceID appAddr idle found => exact h.goOn i _
  | missed i serviceID appAddr loading absent => exact h.goOn i _
  | hit i serviceID appAddr cached loading found => exact h.goOn i _
  | served i serviceID appAddr cached checking fresh =>
    refine (h.goOn i _).record rfl nofun ?_
    rintro _ _ _ ⟨⟩
    exact fresh
  | expired i serviceID appAddr cached checking passed =>
    refine (h.goOn i _).record rfl ?_ nofun
    rintro _ _ _ ⟨⟩
    exact passed
  | failed i serviceID appAddr reply e fetching received =>
    exact (h.goOn i _).record rfl nofun nofun
  | answered i serviceID appAddr reply ds fetching received =>
    exact (h.goOn i _).record rfl nofun nofun
  | stored i serviceID appAddr ds storing =>
    have hs : Forward { s with
        sessionCache := Function.update s.sessionCache (cacheKey serviceID appAddr) (some ds) } :=
      ⟨h.unpolled, h.mem, h.le, h.passed, h.retired⟩
    exact (hs.goOn i _).record rfl nofun nofun
  | polled reply => exact h.poll hold

/-- As long as the node never answers a poll with an older height, the height is the highest
that was seen and no session that was found expired is served again. -/
theorem view_upToDate {m : SessionManager} {as : List Action} {s : State}
    (hall : AllSteps (step m) NeverOlder start as) (hrun : runAll (step m) start as = some s) :
    UpToDate s ∧ ∀ a s', NeverOlder s a → step m s a = some s' →
      s.latestBlockHeight ≤ s'.latestBlockHeight := by
  have hf : Forward s :=
    invariant_of_allSteps (fun _ _ _ h hold hstep ↦ forward_step h hold hstep) forward_start hall
      hrun
  refine ⟨hf.upToDate, ?_⟩
  intro a s' hold hstep
  cases step_cases hstep with
  | polled reply =>
    cases reply with
    | error e => exact Int.le_refl _
    | ok height => exact hold
  | _ => exact Int.le_refl _

/-- One service. -/
def polyManager : SessionManager := ⟨fun s ↦ if s = "poly" then some "app" else none, ["poly"]⟩

/-- The node's session that ends at a height. -/
def sessionUntil (height : Int) : RawSession :=
  ⟨"session", some ⟨"app", "poly", "session", height⟩, none⟩

/-- A session that ends at height 8 is fetched, and found expired at height 10. -/
def expiring : List Action :=
  [.poll (.ok 5), .call 0 "poly", .load 0, .answer 0 (.ok (sessionUntil 8)), .store 0,
    .call 1 "poly", .load 1, .check 1, .poll (.error (.text "down")), .poll (.ok 10),
    .call 2 "poly", .load 2, .check 2, .answer 2 (.error (.text "down"))]

/-- The view follows the heights past the end of a session. -/
theorem view_upToDate_expiring : ∃ s, runAll (step polyManager) start expiring = some s ∧
    s.latestBlockHeight = 10 ∧ UpToDate s := by
  have hall : AllSteps (step polyManager) NeverOlder start expiring := by decide
  exact ⟨_, rfl, rfl, (view_upToDate hall rfl).1⟩

/-- Then another node answers the poll, and it is behind. -/
def olderPoll : List Action :=
  expiring ++ [.poll (.ok 5), .call 3 "poly", .load 3, .check 3]

/-- A poll that answers late brings an ended session back. -/
theorem olderPoll_revives : ∃ s, runAll (step polyManager) start olderPoll = some s ∧
    s.latestBlockHeight = 5 ∧ (heights s.log).max?.getD 0 = 10 ∧
    ¬ s.log.Pairwise Event.NotRevived := by
  refine ⟨_, rfl, rfl, rfl, ?_⟩
  intro h
  let session := toDomainSession "poly" "app" (sessionUntil 8) ⟨"app", "poly", "session", 8⟩
  have hlast : ([.polled (.ok 5), .asked "poly" "app" (.ok (sessionUntil 8)),
      .stored "poly" session, .served "poly" session 5, .polled (.error (.text "down")),
      .polled (.ok 10), .expired "poly" session 10, .asked "poly" "app" (.error (.text "down")),
      .polled (.ok 5)] ++ [.served "poly" session 5] : List Event).Pairwise Event.NotRevived := h
  have hexpired := (List.pairwise_append.mp hlast).2.2 (.expired "poly" session 10) (by simp)
  exact hexpired (.served "poly" session 5) List.mem_cons_self rfl

/-! ### The cache -/

/-- The end height of a session that was answered for a cache entry. -/
def Event.end? (key : String) : Event → Option Int
  | .asked serviceID appAddr (.ok raw) =>
    if cacheKey serviceID appAddr = key then raw.header.map SessionHeader.sessionEndBlockHeight
    else none
  | _ => none

/-- End heights of the sessions that were answered for a cache entry, in order. -/
def ends (key : String) (log : List Event) : List Int := log.filterMap (Event.end? key)

/-- The entry is as new as it was, or newer. -/
def Newer (key : String) (s s' : State) : Prop :=
  ∀ old, s.sessionCache key = some old →
    ∃ new, s'.sessionCache key = some new ∧ old.endBlockHeight ≤ new.endBlockHeight

/-- A call that waits for the node's answer for an entry. -/
def Call.fetches (key : String) : Call → Bool
  | .fetching serviceID appAddr => cacheKey serviceID appAddr == key
  | _ => false

/-- A call with an answer for an entry that it has not stored yet. -/
def Call.stores (key : String) : Call → Bool
  | .storing serviceID appAddr _ => cacheKey serviceID appAddr == key
  | _ => false

/-- The node's answers for the entry end no earlier than those before. -/
def InOrder (key : String) (s : State) : Action → Prop
  | .answer i (.ok ⟨_, some header, _⟩) =>
    (s.calls i).fetches key = true → ∀ h ∈ ends key s.log, h ≤ header.sessionEndBlockHeight
  | _ => True

instance (key : String) (s : State) : (a : Action) → Decidable (InOrder key s a)
  | .answer _ (.ok ⟨_, some _, _⟩) => inferInstanceAs (Decidable (_ → _))
  | .answer _ (.ok ⟨_, none, _⟩) => .isTrue trivial
  | .answer _ (.error _) => .isTrue trivial
  | .call _ _ => .isTrue trivial
  | .load _ => .isTrue trivial
  | .check _ => .isTrue trivial
  | .store _ => .isTrue trivial
  | .poll _ => .isTrue trivial

/-- The node answers for the entry only when every answer before has been stored. -/
def OneAtATime (key : String) (s : State) : Action → Prop
  | .answer i _ => (s.calls i).fetches key = true → ∀ j, (s.calls j).stores key = false
  | _ => True

/-- Carries `Newer`: a call about to store holds the last answer, and nobody else does. -/
structure Queued (key : String) (s : State) : Prop where
  cached : ∀ old, s.sessionCache key = some old → old.endBlockHeight ∈ ends key s.log
  storing : ∀ j serviceID appAddr ds, s.calls j = .storing serviceID appAddr ds →
    cacheKey serviceID appAddr = key → ds.endBlockHeight ∈ ends key s.log ∧
      ∀ old, s.sessionCache key = some old → old.endBlockHeight ≤ ds.endBlockHeight
  alone : ∀ j j' serviceID appAddr ds serviceID' appAddr' ds',
    s.calls j = .storing serviceID appAddr ds → cacheKey serviceID appAddr = key →
    s.calls j' = .storing serviceID' appAddr' ds' → cacheKey serviceID' appAddr' = key → j = j'

private theorem queued_start (key : String) : Queued key start := by
  constructor <;> simp [start]

private theorem ends_append (key : String) (log : List Event) (e : Event) :
    ends key (log ++ [e]) = ends key log ++ (e.end? key).toList := by
  simp only [ends, List.filterMap_append, List.filterMap_cons, List.filterMap_nil]
  cases e.end? key <;> rfl

private theorem mem_ends_append {key : String} {log : List Event} {x : Int} (hx : x ∈ ends key log)
    (e : Event) : x ∈ ends key (log ++ [e]) := by
  rw [ends_append]
  exact List.mem_append_left _ hx

section Refresh

variable {m : SessionManager} {key : String} {s : State}

private theorem Queued.record (h : Queued key s) (e : Event) : Queued key (s.record e) := by
  constructor
  · intro old hold
    exact mem_ends_append (h.cached old hold) e
  · intro j serviceID appAddr ds hj hkey
    obtain ⟨hmem, hle⟩ := h.storing j serviceID appAddr ds hj hkey
    exact ⟨mem_ends_append hmem e, hle⟩
  · exact h.alone

/-- A call that goes on without an answer in its hands. -/
private theorem Queued.goOn (h : Queued key s) (i : Nat) {c : Call}
    (hc : ∀ serviceID appAddr ds, c ≠ .storing serviceID appAddr ds) : Queued key (s.goOn i c) := by
  have hother {j : Nat} {serviceID : ServiceID} {appAddr : String} {ds : Session}
      (hj : (s.goOn i c).calls j = .storing serviceID appAddr ds) :
      s.calls j = .storing serviceID appAddr ds := by
    rw [State.goOn_calls] at hj
    by_cases hji : j = i
    · rw [if_pos hji] at hj
      exact absurd hj (hc serviceID appAddr ds)
    · rwa [if_neg hji] at hj
  constructor
  · exact h.cached
  · intro j serviceID appAddr ds hj
    exact h.storing j serviceID appAddr ds (hother hj)
  · intro j j' serviceID appAddr ds serviceID' appAddr' ds' hj hkey hj'
    exact h.alone j j' serviceID appAddr ds serviceID' appAddr' ds' (hother hj) hkey (hother hj')

private theorem Queued.answered (h : Queued key s) {i : Nat} {serviceID : ServiceID}
    {appAddr : String} {reply : Except Err RawSession} {ds : Session}
    (fetching : s.calls i = .fetching serviceID appAddr)
    (received : receive serviceID appAddr reply = .ok ds)
    (horder : InOrder key s (.answer i reply)) (hone : OneAtATime key s (.answer i reply)) :
    Queued key ((s.goOn i (.storing serviceID appAddr ds)).record
      (.asked serviceID appAddr reply)) := by
  obtain ⟨raw, header, rfl, hh, rfl⟩ := receive_ok received
  have hends (hkey : cacheKey serviceID appAddr = key) :
      ends key (s.log ++ [.asked serviceID appAddr (.ok raw)]) =
        ends key s.log ++ [header.sessionEndBlockHeight] := by
    simp [ends_append, Event.end?, hkey, hh]
  have hother (hkey : cacheKey serviceID appAddr = key) {j : Nat} {serviceID' : ServiceID}
      {appAddr' : String} {ds' : Session} (hj : s.calls j = .storing serviceID' appAddr' ds') :
      cacheKey serviceID' appAddr' ≠ key := by
    have hfree := hone (by simp [fetching, Call.fetches, hkey]) j
    simpa [hj, Call.stores] using hfree
  constructor
  · intro old hold
    exact mem_ends_append (h.cached old hold) _
  · intro j serviceID' appAddr' ds' hj hkey
    rw [State.record_calls, State.goOn_calls] at hj
    by_cases hji : j = i
    · rw [if_pos hji] at hj
      cases hj
      refine ⟨?_, fun old hold ↦ ?_⟩
      · show header.sessionEndBlockHeight ∈ ends key (s.log ++ _)
        rw [hends hkey]
        exact List.mem_append_right _ (List.mem_singleton.mpr rfl)
      · rcases raw with ⟨sessionId, _, endpoints⟩
        cases hh
        exact horder (by simp [fetching, Call.fetches, hkey]) _ (h.cached old hold)
    · rw [if_neg hji] at hj
      obtain ⟨hmem, hle⟩ := h.storing j serviceID' appAddr' ds' hj hkey
      exact ⟨mem_ends_append hmem _, hle⟩
  · intro j j' serviceID₁ appAddr₁ ds₁ serviceID₂ appAddr₂ ds₂ hj hkey₁ hj' hkey₂
    rw [State.record_calls, State.goOn_calls] at hj hj'
    by_cases hji : j = i
    · by_cases hji' : j' = i
      · rw [hji, hji']
      · rw [if_pos hji] at hj
        rw [if_neg hji'] at hj'
        cases hj
        exact absurd hkey₂ (hother hkey₁ hj')
    · rw [if_neg hji] at hj
      by_cases hji' : j' = i
      · rw [if_pos hji'] at hj'
        cases hj'
        exact absurd hkey₁ (hother hkey₂ hj)
      · rw [if_neg hji'] at hj'
        exact h.alone j j' _ _ _ _ _ _ hj hkey₁ hj' hkey₂

private theorem store_sessionCache (i : Nat) (serviceID : ServiceID) (appAddr : String)
    (ds : Session) : (s.store i serviceID appAddr ds).sessionCache key =
      if key = cacheKey serviceID appAddr then some ds else s.sessionCache key :=
  Function.update_apply ..

private theorem Queued.stored (h : Queued key s) {i : Nat} {serviceID : ServiceID}
    {appAddr : String} {ds : Session} (storing : s.calls i = .storing serviceID appAddr ds) :
    Queued key (s.store i serviceID appAddr ds) := by
  by_cases hkey : key = cacheKey serviceID appAddr
  · -- Nobody else is about to store under this key.
    have hnone (j : Nat) (serviceID' : ServiceID) (appAddr' : String) (ds' : Session)
        (hj : (s.store i serviceID appAddr ds).calls j = .storing serviceID' appAddr' ds')
        (hkey' : cacheKey serviceID' appAddr' = key) : False := by
      have hj' : (if j = i then .returned serviceID (.ok ds) else s.calls j) =
          Call.storing serviceID' appAddr' ds' := (State.goOn_calls ..).symm.trans hj
      by_cases hji : j = i
      · rw [if_pos hji] at hj'
        cases hj'
      · rw [if_neg hji] at hj'
        exact hji (h.alone j i _ _ _ _ _ _ hj' hkey' storing hkey.symm)
    refine Queued.record (s := { s with
      sessionCache := Function.update s.sessionCache (cacheKey serviceID appAddr) (some ds) }.goOn i
        (.returned serviceID (.ok ds))) ⟨?_, ?_, ?_⟩ _
    · intro old hold
      have hds : (s.store i serviceID appAddr ds).sessionCache key = some old := hold
      rw [store_sessionCache, if_pos hkey] at hds
      cases hds
      exact (h.storing i _ _ _ storing hkey.symm).1
    · intro j serviceID' appAddr' ds' hj hkey'
      exact (hnone j serviceID' appAddr' ds' hj hkey').elim
    · intro j j' serviceID₁ appAddr₁ ds₁ _ _ _ hj hkey₁ _ _
      exact (hnone j serviceID₁ appAddr₁ ds₁ hj hkey₁).elim
  · have hs : Queued key { s with
        sessionCache := Function.update s.sessionCache (cacheKey serviceID appAddr) (some ds) } := by
      have hsame : Function.update s.sessionCache (cacheKey serviceID appAddr) (some ds) key =
          s.sessionCache key := Function.update_of_ne hkey ..
      refine ⟨fun old hold ↦ h.cached old (hsame ▸ hold), ?_, h.alone⟩
      intro j serviceID' appAddr' ds' hj hkey'
      obtain ⟨hmem, hle⟩ := h.storing j serviceID' appAddr' ds' hj hkey'
      exact ⟨hmem, fun old hold ↦ hle old (hsame ▸ hold)⟩
    exact (hs.goOn i (c := .returned serviceID (.ok ds)) nofun).record _

/-- With fetches in order and one at a time, a stored session is newer than the one before. -/
theorem queued_step {a : Action} {s' : State} (h : Queued key s) (horder : InOrder key s a)
    (hone : OneAtATime key s a) (hstep : step m s a = some s') :
    Queued key s' ∧ Newer key s s' := by
  have hsame : Newer key s s := fun old hold ↦ ⟨old, hold, Int.le_refl _⟩
  cases step_cases hstep with
  | unknown i serviceID idle absent => exact ⟨h.goOn i nofun, hsame⟩
  | called i serviceID appAddr idle found => exact ⟨h.goOn i nofun, hsame⟩
  | missed i serviceID appAddr loading absent => exact ⟨h.goOn i nofun, hsame⟩
  | hit i serviceID appAddr cached loading found => exact ⟨h.goOn i nofun, hsame⟩
  | served i serviceID appAddr cached checking fresh =>
    exact ⟨(h.goOn i (c := .returned serviceID (.ok cached)) nofun).record _, hsame⟩
  | expired i serviceID appAddr cached checking passed =>
    exact ⟨(h.goOn i (c := .fetching serviceID appAddr) nofun).record _, hsame⟩
  | failed i serviceID appAddr reply e fetching received =>
    exact ⟨(h.goOn i (c := .returned serviceID (.error e)) nofun).record _, hsame⟩
  | answered i serviceID appAddr reply ds fetching received =>
    exact ⟨h.answered fetching received horder hone, hsame⟩
  | stored i serviceID appAddr ds storing =>
    refine ⟨h.stored storing, fun old hold ↦ ?_⟩
    rw [store_sessionCache]
    by_cases hkey : key = cacheKey serviceID appAddr
    · rw [if_pos hkey]
      exact ⟨ds, rfl, (h.storing i _ _ _ storing hkey.symm).2 old hold⟩
    · rw [if_neg hkey]
      exact ⟨old, hold, Int.le_refl _⟩
  | polled reply =>
    cases reply with
    | error e => exact ⟨h.record _, hsame⟩
    | ok height =>
      have hp : Queued key { s with latestBlockHeight := height } :=
        ⟨h.cached, h.storing, h.alone⟩
      exact ⟨hp.record _, hsame⟩

/-- As long as the node answers in order, and one call at a time is between its answer and
its store, the cached session is never replaced by an older one. -/
theorem refresh_newer {as bs : List Action} {s₁ s₂ : State}
    (horder : AllSteps (step m) (InOrder key) start (as ++ bs))
    (hone : AllSteps (step m) (OneAtATime key) start (as ++ bs))
    (has : runAll (step m) start as = some s₁) (hbs : runAll (step m) s₁ bs = some s₂) :
    Newer key s₁ s₂ := by
  have hall := horder.and hone
  obtain ⟨hall₁, hall₂⟩ := hall.append has
  have hq : Queued key s₁ := invariant_of_allSteps
    (fun _ _ _ h hc hstep ↦ (queued_step h hc.1 hc.2 hstep).1) (queued_start key) hall₁ has
  refine relation_of_allSteps (fun _ old hold ↦ ⟨old, hold, Int.le_refl _⟩) ?_
    (fun _ _ _ h hc hstep ↦ queued_step h hc.1 hc.2 hstep) hq hall₂ hbs
  intro t₁ t₂ t₃ h₁₂ h₂₃ old hold
  obtain ⟨mid, hmid, hle⟩ := h₁₂ old hold
  obtain ⟨new, hnew, hle'⟩ := h₂₃ mid hmid
  exact ⟨new, hnew, Int.le_trans hle hle'⟩

end Refresh

/-- A second call is answered when the first has stored its session. -/
def inTurn : List Action :=
  [.call 0 "poly", .load 0, .answer 0 (.ok (sessionUntil 10)), .store 0, .poll (.ok 15),
    .call 1 "poly", .load 1, .check 1]

/-- A refresh after another stores the later session. -/
theorem refresh_newer_inTurn : ∃ s₁ s₂, runAll (step polyManager) start inTurn = some s₁ ∧
    runAll (step polyManager) s₁ [.answer 1 (.ok (sessionUntil 20)), .store 1] = some s₂ ∧
    (s₁.sessionCache "poly:app").map Session.endBlockHeight = some 10 ∧
    (s₂.sessionCache "poly:app").map Session.endBlockHeight = some 20 ∧
    Newer "poly:app" s₁ s₂ := by
  have horder : AllSteps (step polyManager) (InOrder "poly:app") start
      (inTurn ++ [.answer 1 (.ok (sessionUntil 20)), .store 1]) := by decide
  have hone : AllSteps (step polyManager) (OneAtATime "poly:app") start
      (inTurn ++ [.answer 1 (.ok (sessionUntil 20)), .store 1]) := by
    refine And.intro trivial (And.intro trivial (And.intro ?_ (And.intro trivial (And.intro trivial
      (And.intro trivial (And.intro trivial (And.intro trivial (And.intro ?_ (And.intro trivial
        trivial)))))))))
    · intro _ j
      simp only [State.goOn_calls, start]
      grind [Call.stores]
    · intro _ j
      simp only [State.goOn_calls, State.record_calls, start, State.store, State.poll]
      grind [Call.stores]
  exact ⟨_, _, rfl, rfl, by decide, by decide, refresh_newer horder hone rfl rfl⟩

/-- Two calls miss the cache, the first one's answer is the older and is stored last. -/
def overtaken : List Action :=
  [.call 0 "poly", .load 0, .call 1 "poly", .load 1, .answer 0 (.ok (sessionUntil 10)),
    .answer 1 (.ok (sessionUntil 20)), .store 1]

/-- A fetch that is overtaken stores the older session last. -/
theorem overtaken_older : ∃ s₁ s₂, runAll (step polyManager) start overtaken = some s₁ ∧
    runAll (step polyManager) s₁ [.store 0] = some s₂ ∧
    AllSteps (step polyManager) (InOrder "poly:app") start (overtaken ++ [.store 0]) ∧
    (s₁.sessionCache "poly:app").map Session.endBlockHeight = some 20 ∧
    (s₂.sessionCache "poly:app").map Session.endBlockHeight = some 10 ∧
    ¬ Newer "poly:app" s₁ s₂ := by
  refine ⟨_, _, rfl, rfl, by decide, by decide, by decide, ?_⟩
  intro h
  obtain ⟨new, hnew, hle⟩ := h _ rfl
  cases hnew
  exact absurd hle (by decide)

end PocketAp.Pocket.SessionManager
