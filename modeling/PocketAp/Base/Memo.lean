import Mathlib.Data.List.AList
import PocketAp.Base.Shared

/-!
# Tables filled on first use

Library `Base`. A call looks its key up without the lock; when it misses it takes the lock,
looks again, builds the value and stores it before it lets go. Building may fail, and a failure
is not stored. Any number of calls run at once: a lookup, taking the lock, the second lookup,
building with storing, and letting go are one step each.
-/

namespace PocketAp.Base

/-- A table and its lock; `built` records what was stored, in order, and nothing reads it. -/
structure Memo (K V : Type) where
  table : AList (fun _ : K ↦ V) := ∅
  held : Bool := false
  built : List ((_ : K) × V) := []

/-- Where a call is: before its first lookup, waiting for the lock, before the second lookup,
building, about to let go, or back. -/
inductive MemoPhase (V E : Type) where
  | looking
  | waiting
  | locked
  | building
  | leaving (result : Except E V)
  | returned (result : Except E V)

/-- A call for a key. -/
structure MemoCall (K V E : Type) where
  key : K
  phase : MemoPhase V E := .looking

/-- `build` carries what the world answers. -/
inductive MemoMove (W : Type) where
  | load
  | lock
  | recheck
  | build (w : W)
  | unlock

section Memo

variable {K V E W : Type}

/-- Whether the lock is the call's. -/
def MemoCall.Holds (p : MemoCall K V E) : Prop :=
  match p.phase with
  | .locked | .building | .leaving _ => True
  | _ => False

variable [DecidableEq K] (build : K → W → Except E V)

/-- What a call does next, if it can. -/
def MemoCall.move (c : Memo K V) (p : MemoCall K V E) :
    MemoMove W → Option (Memo K V × MemoCall K V E)
  | .load =>
    match p.phase with
    | .looking =>
      match c.table.lookup p.key with
      | some v => some (c, { p with phase := .returned (.ok v) })
      | none => some (c, { p with phase := .waiting })
    | _ => none
  | .lock =>
    match p.phase, c.held with
    | .waiting, false => some ({ c with held := true }, { p with phase := .locked })
    | _, _ => none
  | .recheck =>
    match p.phase with
    | .locked =>
      match c.table.lookup p.key with
      | some v => some (c, { p with phase := .leaving (.ok v) })
      | none => some (c, { p with phase := .building })
    | _ => none
  | .build w =>
    match p.phase with
    | .building =>
      match build p.key w with
      | .error e => some (c, { p with phase := .leaving (.error e) })
      | .ok v =>
        some ({ c with table := c.table.insert p.key v, built := c.built ++ [⟨p.key, v⟩] },
          { p with phase := .leaving (.ok v) })
    | _ => none
  | .unlock =>
    match p.phase with
    | .leaving r => some ({ c with held := false }, { p with phase := .returned r })
    | _ => none

/-- One turn of the calls. -/
abbrev memoStep :
    Shared (Memo K V) (MemoCall K V E) → Turn K (MemoMove W) →
      Option (Shared (Memo K V) (MemoCall K V E)) :=
  Shared.step (fun _ key ↦ { key }) (MemoCall.move build)

/-- The cases of a move. -/
inductive MemoCall.Moved (c : Memo K V) (p : MemoCall K V E) :
    MemoMove W → Memo K V → MemoCall K V E → Prop where
  | found (v : V) (looking : p.phase = .looking) (here : c.table.lookup p.key = some v) :
      Moved c p .load c { p with phase := .returned (.ok v) }
  | missed (looking : p.phase = .looking) (absent : c.table.lookup p.key = none) :
      Moved c p .load c { p with phase := .waiting }
  | locked (waiting : p.phase = .waiting) (free : c.held = false) :
      Moved c p .lock { c with held := true } { p with phase := .locked }
  | present (v : V) (locked : p.phase = .locked) (here : c.table.lookup p.key = some v) :
      Moved c p .recheck c { p with phase := .leaving (.ok v) }
  | absent (locked : p.phase = .locked) (absent : c.table.lookup p.key = none) :
      Moved c p .recheck c { p with phase := .building }
  | failed (w : W) (e : E) (building : p.phase = .building) (answer : build p.key w = .error e) :
      Moved c p (.build w) c { p with phase := .leaving (.error e) }
  | stored (w : W) (v : V) (building : p.phase = .building) (answer : build p.key w = .ok v) :
      Moved c p (.build w)
        { c with table := c.table.insert p.key v, built := c.built ++ [⟨p.key, v⟩] }
        { p with phase := .leaving (.ok v) }
  | unlocked (r : Except E V) (leaving : p.phase = .leaving r) :
      Moved c p .unlock { c with held := false } { p with phase := .returned r }

variable {build} {c c' : Memo K V} {p p' : MemoCall K V E} {m : MemoMove W}

/-- A call moves in one of these ways. -/
theorem MemoCall.move_cases (hm : p.move build c m = some (c', p')) :
    p.Moved build c m c' p' := by
  cases m with
  | load =>
    simp only [MemoCall.move] at hm
    split at hm
    · next hp =>
      split at hm
      · next v hv =>
        cases hm
        exact .found v hp hv
      · next hv =>
        cases hm
        exact .missed hp hv
    · cases hm
  | lock =>
    simp only [MemoCall.move] at hm
    split at hm
    · next hp hc =>
      cases hm
      exact .locked hp hc
    · cases hm
  | recheck =>
    simp only [MemoCall.move] at hm
    split at hm
    · next hp =>
      split at hm
      · next v hv =>
        cases hm
        exact .present v hp hv
      · next hv =>
        cases hm
        exact .absent hp hv
    · cases hm
  | build w =>
    simp only [MemoCall.move] at hm
    split at hm
    · next hp =>
      split at hm
      · next e he =>
        cases hm
        exact .failed w e hp he
      · next v hv =>
        cases hm
        exact .stored w v hp hv
    · cases hm
  | unlock =>
    simp only [MemoCall.move] at hm
    split at hm
    · next r hp =>
      cases hm
      exact .unlocked r hp
    · cases hm

/-! ### What calls keep -/

/-- The table holds what was built, each value under the key it was built for. -/
structure Memo.Sound (build : K → W → Except E V) (c : Memo K V) : Prop where
  entries : c.table.entries = c.built.reverse
  genuine : ∀ e ∈ c.built, ∃ w, build e.1 w = .ok e.2

/-- A result is in the table, or is a failure to build. -/
def Memo.Backs (build : K → W → Except E V) (c : Memo K V) (key : K) : Except E V → Prop
  | .ok v => c.table.lookup key = some v
  | .error e => ∃ w, build key w = .error e

/-- What is known of a call by where it is. -/
def MemoCall.Sound (build : K → W → Except E V) (c : Memo K V) (p : MemoCall K V E) : Prop :=
  match p.phase with
  | .looking | .waiting => True
  | .locked => c.held = true
  | .building => c.held = true ∧ c.table.lookup p.key = none
  | .leaving r => c.held = true ∧ c.Backs build p.key r
  | .returned r => c.Backs build p.key r

private theorem MemoCall.held_of_holds (hs : p.Sound build c) (hp : p.Holds) :
    c.held = true := by
  obtain ⟨key, phase⟩ := p
  cases phase with
  | locked => exact hs
  | building => exact hs.1
  | leaving r => exact hs.1
  | _ => exact hp.elim

/-- A move stores under a key only while the lock is the call's and nothing is there. -/
theorem MemoCall.lookup_move (hs : p.Sound build c) (hm : p.move build c m = some (c', p'))
    {key : K} {v : V} (h : c.table.lookup key = some v) : c'.table.lookup key = some v := by
  cases MemoCall.move_cases hm with
  | stored w v' building answer =>
    simp only [MemoCall.Sound, building] at hs
    have hne : key ≠ p.key := by
      rintro rfl
      rw [hs.2] at h
      cases h
    rw [AList.lookup_insert_ne hne]
    exact h
  | _ => exact h

private theorem MemoCall.backs_move (hs : p.Sound build c) (hm : p.move build c m = some (c', p'))
    {key : K} {r : Except E V} (h : c.Backs build key r) : c'.Backs build key r := by
  cases r with
  | ok v => exact MemoCall.lookup_move hs hm h
  | error e => exact h

/-- While another call has the lock, a call changes nothing. -/
theorem MemoCall.move_of_held (hp : ¬ p.Holds) (hc : c.held = true)
    (hm : p.move build c m = some (c', p')) : c' = c ∧ ¬ p'.Holds := by
  obtain ⟨key, phase⟩ := p
  cases MemoCall.move_cases hm with
  | found v looking here => exact ⟨rfl, id⟩
  | missed looking absent => exact ⟨rfl, id⟩
  | locked waiting free =>
    rw [hc] at free
    cases free
  | present v locked here =>
    cases locked
    exact absurd trivial hp
  | absent locked absent =>
    cases locked
    exact absurd trivial hp
  | failed w e building answer =>
    cases building
    exact absurd trivial hp
  | stored w v building answer =>
    cases building
    exact absurd trivial hp
  | unlocked r leaving =>
    cases leaving
    exact absurd trivial hp

private theorem MemoCall.sound_move (hs : p.Sound build c) (hm : p.move build c m = some (c', p')) :
    p'.Sound build c' := by
  unfold MemoCall.Sound at hs
  cases MemoCall.move_cases hm with
  | found v looking here => exact here
  | missed looking absent => trivial
  | locked waiting free => rfl
  | present v locked here =>
    simp only [locked] at hs
    exact ⟨hs, here⟩
  | absent locked absent =>
    simp only [locked] at hs
    exact ⟨hs, absent⟩
  | failed w e building answer =>
    simp only [building] at hs
    exact ⟨hs.1, w, answer⟩
  | stored w v building answer =>
    simp only [building] at hs
    exact ⟨hs.1, AList.lookup_insert _⟩
  | unlocked r leaving =>
    simp only [leaving] at hs
    exact hs.2

private theorem Memo.sound_move (hc : c.Sound build) (hs : p.Sound build c)
    (hm : p.move build c m = some (c', p')) : c'.Sound build := by
  cases MemoCall.move_cases hm with
  | stored w v building answer =>
    simp only [MemoCall.Sound, building] at hs
    constructor
    · show (c.table.insert p.key v).entries = (c.built ++ [Sigma.mk p.key v]).reverse
      rw [AList.entries_insert_of_notMem (AList.lookup_eq_none.mp hs.2), hc.entries,
        List.reverse_append, List.reverse_singleton, List.singleton_append]
    · intro e he
      rcases List.mem_append.mp he with he | he
      · exact hc.genuine e he
      · rw [List.mem_singleton.mp he]
        exact ⟨w, answer⟩
  | _ => exact ⟨hc.entries, hc.genuine⟩

/-- A call that does not move keeps what is known of it. -/
theorem MemoCall.sound_other {q : MemoCall K V E} (hp : p.Sound build c) (hq : q.Sound build c)
    (hpq : ¬ (p.Holds ∧ q.Holds)) (hm : p.move build c m = some (c', p')) :
    q.Sound build c' := by
  by_cases hqh : q.Holds
  · have hc : c' = c :=
      (MemoCall.move_of_held (fun hph ↦ hpq ⟨hph, hqh⟩) (MemoCall.held_of_holds hq hqh) hm).1
    rw [hc]
    exact hq
  · obtain ⟨key, phase⟩ := q
    cases phase with
    | looking => trivial
    | waiting => trivial
    | returned r => exact MemoCall.backs_move hp hm hq
    | _ => exact absurd trivial hqh

/-- Calls keep the memo sound, and no two of them hold the lock. -/
theorem memo_stable (build : K → W → Except E V) :
    Shared.StablePairs (fun _ key ↦ { key }) (MemoCall.move build) (Memo.Sound build)
      (MemoCall.Sound build) (fun p q ↦ ¬ (p.Holds ∧ q.Holds)) where
  symm _ _ h := fun hqp ↦ h hqp.symm
  arrives _ _ _ := trivial
  apart _ _ _ _ _ := fun h ↦ h.1
  cell _ _ _ _ _ hc hp hm := Memo.sound_move hc hp hm
  own _ _ _ _ _ _ hp hm := MemoCall.sound_move hp hm
  others _ _ _ _ _ _ _ hp hq hpq hm := MemoCall.sound_other hp hq hpq hm
  pairs c p m c' p' q _ hp hq hpq hm := by
    rintro ⟨hp', hqh⟩
    exact (MemoCall.move_of_held (fun hph ↦ hpq ⟨hph, hqh⟩) (MemoCall.held_of_holds hq hqh) hm).2
      hp'

/-! ### Whole runs -/

section Runs

variable {s : Shared (Memo K V) (MemoCall K V E)} {ts : List (Turn K (MemoMove W))}

/-- After every run the memo and its calls are sound. -/
theorem memo_kept (h : runAll (memoStep build) ⟨{}, []⟩ ts = some s) :
    Shared.Kept (Memo.Sound build) (MemoCall.Sound build) (fun p q ↦ ¬ (p.Holds ∧ q.Holds)) s :=
  (memo_stable build).run ⟨rfl, by simp⟩ h

omit [DecidableEq K] in
/-- Every key was built for at most once. -/
theorem Memo.Sound.nodupKeys (hc : c.Sound build) : c.built.NodupKeys := by
  have h := c.table.nodupKeys
  rw [hc.entries] at h
  simpa [List.NodupKeys, List.keys] using h

/-- What is under a key is what was built for it. -/
theorem Memo.Sound.lookup_iff (hc : c.Sound build) {key : K} {v : V} :
    c.table.lookup key = some v ↔ ⟨key, v⟩ ∈ c.built := by
  rw [← Option.mem_def, AList.mem_lookup_iff, hc.entries, List.mem_reverse]

omit [DecidableEq K] in
private theorem mem_set_of_ne {ps : List (MemoCall K V E)} {i : Nat} {p p' q : MemoCall K V E}
    (here : ps[i]? = some p) (hq : q ∈ ps) (hpq : q ≠ p) : q ∈ ps.set i p' := by
  obtain ⟨j, hj⟩ := List.mem_iff_getElem?.mp hq
  have hij : i ≠ j := by
    rintro rfl
    rw [here] at hj
    exact hpq (Option.some.inj hj).symm
  apply List.mem_of_getElem? (i := j)
  rw [List.getElem?_set_ne hij]
  exact hj

/-- A call that fails was answered so when it built. -/
theorem memo_failed (h : runAll (memoStep build) ⟨{}, []⟩ ts = some s) {i : Nat}
    (here : s.procs[i]? = some p) {e : E} (failed : p.phase = .returned (.error e)) :
    ∃ w, Turn.move i (.build w) ∈ ts ∧ build p.key w = .error e := by
  -- The answer is known from the moment the call is about to let go.
  have hinit (i : Nat) (p : MemoCall K V E) (e : E) :
      ([] : List (MemoCall K V E))[i]? = some p →
        p.phase = .leaving (.error e) ∨ p.phase = .returned (.error e) →
        ∃ w, Turn.move i (.build w) ∈ ([] : List (Turn K (MemoMove W))) ∧
          build p.key w = .error e := by
    intro hp
    simp at hp
  refine invariant_of_actions (I := fun ts s ↦ ∀ (i : Nat) (p : MemoCall K V E) (e : E),
    s.procs[i]? = some p → p.phase = .leaving (.error e) ∨ p.phase = .returned (.error e) →
      ∃ w, Turn.move i (.build w) ∈ ts ∧ build p.key w = .error e)
    (fun past s t s' hs hstep ↦ ?_) hinit h i p e here (.inr failed)
  intro j q e' hq hphase
  have hkept {q : MemoCall K V E} (hq : s.procs[j]? = some q)
      (hphase : q.phase = .leaving (.error e') ∨ q.phase = .returned (.error e')) :
      ∃ w, Turn.move j (.build w) ∈ past ++ [t] ∧ build q.key w = .error e' := by
    obtain ⟨w, hw, hb⟩ := hs j q e' hq hphase
    exact ⟨w, List.mem_append_left _ hw, hb⟩
  cases Shared.step_cases hstep with
  | arrive key =>
    rcases getElem?_concat_cases hq with hq | ⟨-, rfl⟩
    · exact hkept hq hphase
    · simp at hphase
  | move i m p p' c here moved =>
    rcases getElem?_set_cases hq with ⟨rfl, rfl⟩ | ⟨-, hq⟩
    · cases MemoCall.move_cases moved with
      | failed w e'' building answer =>
        simp only [MemoPhase.leaving.injEq, Except.error.injEq, reduceCtorEq, or_false] at hphase
        subst hphase
        exact ⟨w, by simp, answer⟩
      | unlocked r leaving =>
        simp only [MemoPhase.returned.injEq, reduceCtorEq, false_or] at hphase
        subst hphase
        exact hkept (q := p) here (.inl leaving)
      | _ => simp at hphase
    · exact hkept hq hphase

/-- The lock is taken only while a call has it. -/
theorem memo_holder (h : runAll (memoStep build) ⟨{}, []⟩ ts = some s) :
    s.cell.held = true → ∃ p ∈ s.procs, p.Holds := by
  refine invariant_of_step (I := fun s ↦ s.cell.held = true → ∃ p ∈ s.procs, p.Holds)
    (fun s t s' hs hstep hheld ↦ ?_) (fun hheld ↦ by cases hheld) h
  cases Shared.step_cases hstep with
  | arrive key =>
    obtain ⟨p, hp, hholds⟩ := hs hheld
    exact ⟨p, List.mem_append_left _ hp, hholds⟩
  | move i m p p' c here moved =>
    have hmem (q : MemoCall K V E) : q ∈ s.procs.set i q :=
      List.mem_set (List.getElem?_eq_some_iff.mp here).1 q
    -- A first lookup leaves the holder where it is; every other move ends at the holder.
    have hkept (hlooking : p.phase = .looking) (hc : s.cell.held = true) :
        ∃ q ∈ s.procs.set i p', q.Holds := by
      obtain ⟨q, hq, hholds⟩ := hs hc
      refine ⟨q, mem_set_of_ne here hq ?_, hholds⟩
      rintro rfl
      simp [MemoCall.Holds, hlooking] at hholds
    cases MemoCall.move_cases moved with
    | found v looking _ => exact hkept looking hheld
    | missed looking _ => exact hkept looking hheld
    | unlocked r leaving => cases hheld
    | locked _ _ => exact ⟨_, hmem _, trivial⟩
    | present v _ _ => exact ⟨_, hmem _, trivial⟩
    | absent _ _ => exact ⟨_, hmem _, trivial⟩
    | failed w e _ _ => exact ⟨_, hmem _, trivial⟩
    | stored w v _ _ => exact ⟨_, hmem _, trivial⟩

variable (build) in
/-- A call that is left alone. -/
def Memo.get (c : Memo K V) (key : K) (w : W) : Except E V × Memo K V :=
  match c.table.lookup key with
  | some v => (.ok v, c)
  | none =>
    match build key w with
    | .error e => (.error e, c)
    | .ok v => (.ok v, { c with
        table := c.table.insert key v, built := c.built ++ [⟨key, v⟩] })

/-- With the lock free, the steps of a call are those of a plain lookup that fills the table. -/
theorem memo_uninterrupted {i : Nat} {key : K} (here : s.procs[i]? = some ⟨key, .looking⟩)
    (free : s.cell.held = false) (w : W) :
    ∃ ts', runAll (memoStep build) s ts' = some
      ⟨(s.cell.get build key w).2, s.procs.set i ⟨key, .returned (s.cell.get build key w).1⟩⟩ := by
  obtain ⟨hi, hget⟩ := List.getElem?_eq_some_iff.mp here
  have hcell : { s.cell with held := false } = s.cell := by rw [← free]
  cases hv : s.cell.table.lookup key with
  | some v =>
    refine ⟨[.move i .load], ?_⟩
    simp [runAll, Shared.step, MemoCall.move, Memo.get, hi, hget, hv]
  | none =>
    refine ⟨[.move i .load, .move i .lock, .move i .recheck, .move i (.build w),
      .move i .unlock], ?_⟩
    cases hb : build key w with
    | error e => simp [runAll, Shared.step, MemoCall.move, Memo.get, hi, hget, hv, hb, free, hcell]
    | ok v => simp [runAll, Shared.step, MemoCall.move, Memo.get, hi, hget, hv, hb, free]

/-! ### Every call can return -/

/-- The world answers `w` if the move builds. -/
def MemoMove.AnsweredBy (w : W) : MemoMove W → Prop
  | .build w' => w' = w
  | _ => True

/-- A move of the call at `i` or of the lock's holder, for which the world answers `w`. -/
def Shared.ByCallOrHolder (s : Shared (Memo K V) (MemoCall K V E)) (i : Nat) (w : W)
    (t : Turn K (MemoMove W)) : Prop :=
  t.Makes i (MemoMove.AnsweredBy w) ∨
    ∃ j q, s.procs[j]? = some q ∧ q.Holds ∧ t.Makes j (MemoMove.AnsweredBy w)

variable (build) in
/-- The call at `i` returns by moves of its own, and the lock is free then. -/
def Returns (s : Shared (Memo K V) (MemoCall K V E)) (i : Nat) (key : K) (w : W) : Prop :=
  ∃ ts s' r, runAll (memoStep build) s ts = some s' ∧
    (∀ t ∈ ts, t.Makes i (MemoMove.AnsweredBy w)) ∧ s'.cell.held = false ∧
    s'.procs = s.procs.set i ⟨key, .returned r⟩

private theorem returns_of_move {i : Nat} {key : K} {w : W} (here : s.procs[i]? = some p)
    (moved : p.move build s.cell m = some (c', p')) (hm : m.AnsweredBy w)
    (h : Returns build ⟨c', s.procs.set i p'⟩ i key w) : Returns build s i key w := by
  obtain ⟨ts, s', r, hrun, hby, hfree, hset⟩ := h
  refine ⟨.move i m :: ts, s', r, runAll_of_step (Shared.step_move here moved) hrun, ?_, hfree, ?_⟩
  · exact List.forall_mem_cons.mpr ⟨⟨rfl, hm⟩, hby⟩
  · rw [hset, List.set_set]

omit [DecidableEq K] in
private theorem getElem?_set_of_some {ps : List (MemoCall K V E)} {i : Nat}
    (here : ps[i]? = some p) (q : MemoCall K V E) : (ps.set i q)[i]? = some q := by
  rw [List.getElem?_set_self (List.getElem?_eq_some_iff.mp here).1]

private theorem returns_of_leaving {i : Nat} {key : K} {w : W} {r : Except E V}
    (here : s.procs[i]? = some ⟨key, .leaving r⟩) : Returns build s i key w :=
  ⟨[.move i .unlock], ⟨{ s.cell with held := false }, s.procs.set i ⟨key, .returned r⟩⟩, r,
    runAll_single (Shared.step_move here rfl),
    List.forall_mem_singleton.mpr ⟨rfl, trivial⟩, rfl, rfl⟩

private theorem returns_of_building {i : Nat} {key : K}
    (here : s.procs[i]? = some ⟨key, .building⟩) (w : W) : Returns build s i key w := by
  cases hb : build key w with
  | error e =>
    have hmove : MemoCall.move build s.cell ⟨key, .building⟩ (.build w) =
        some (s.cell, ⟨key, .leaving (.error e)⟩) := by
      simp only [MemoCall.move, hb]
    exact returns_of_move here hmove rfl (returns_of_leaving (getElem?_set_of_some here _))
  | ok v =>
    have hmove : MemoCall.move build s.cell ⟨key, .building⟩ (.build w) =
        some ({ s.cell with
          table := s.cell.table.insert key v, built := s.cell.built ++ [⟨key, v⟩] },
          ⟨key, .leaving (.ok v)⟩) := by
      simp only [MemoCall.move, hb]
    exact returns_of_move here hmove rfl (returns_of_leaving (getElem?_set_of_some here _))

private theorem returns_of_locked {i : Nat} {key : K}
    (here : s.procs[i]? = some ⟨key, .locked⟩) (w : W) : Returns build s i key w := by
  cases hv : s.cell.table.lookup key with
  | some v =>
    have hmove : MemoCall.move build s.cell ⟨key, .locked⟩ .recheck =
        some (s.cell, ⟨key, .leaving (.ok v)⟩) := by
      simp only [MemoCall.move, hv]
    exact returns_of_move here hmove trivial (returns_of_leaving (getElem?_set_of_some here _))
  | none =>
    have hmove : MemoCall.move build s.cell ⟨key, .locked⟩ .recheck =
        some (s.cell, ⟨key, .building⟩) := by
      simp only [MemoCall.move, hv]
    exact returns_of_move here hmove trivial (returns_of_building (getElem?_set_of_some here _) w)

variable (build) in
private theorem returns_of_holds {i : Nat} (here : s.procs[i]? = some p) (hp : p.Holds) (w : W) :
    Returns build s i p.key w := by
  obtain ⟨key, phase⟩ := p
  cases phase with
  | locked => exact returns_of_locked here w
  | building => exact returns_of_building here w
  | leaving r => exact returns_of_leaving here
  | _ => exact hp.elim

variable (build) in
private theorem returns_of_waiting {i : Nat} {key : K}
    (here : s.procs[i]? = some ⟨key, .waiting⟩) (hfree : s.cell.held = false) (w : W) :
    Returns build s i key w := by
  have hmove : MemoCall.move build s.cell ⟨key, .waiting⟩ .lock =
      some ({ s.cell with held := true }, ⟨key, .locked⟩) := by
    simp only [MemoCall.move, hfree]
  exact returns_of_move here hmove trivial (returns_of_locked (getElem?_set_of_some here _) w)

variable (build) in
/-- The call at `i` returns when the lock's holder and it move, and nobody else. -/
def ReturnsWithHolder (s : Shared (Memo K V) (MemoCall K V E)) (i : Nat) (key : K) (w : W) :
    Prop :=
  ∃ ts s' r, runAll (memoStep build) s ts = some s' ∧ (∀ t ∈ ts, s.ByCallOrHolder i w t) ∧
    s'.procs[i]? = some ⟨key, .returned r⟩

private theorem Returns.withHolder {i : Nat} {key : K} {w : W} (here : s.procs[i]? = some p)
    (h : Returns build s i key w) : ReturnsWithHolder build s i key w := by
  obtain ⟨ts, s', r, hrun, hby, -, hset⟩ := h
  exact ⟨ts, s', r, hrun, fun t ht ↦ .inl (hby t ht), hset ▸ getElem?_set_of_some here _⟩

variable (build) in
/-- A call that waits for the lock returns after the lock's holder did. -/
private theorem waiting_returns {i : Nat} {key : K} (here : s.procs[i]? = some ⟨key, .waiting⟩)
    (hholder : s.cell.held = true → ∃ p ∈ s.procs, p.Holds) (w : W) :
    ReturnsWithHolder build s i key w := by
  cases hc : s.cell.held with
  | false => exact (returns_of_waiting build here hc w).withHolder here
  | true =>
    obtain ⟨q, hq, hholds⟩ := hholder hc
    obtain ⟨j, hj⟩ := List.mem_iff_getElem?.mp hq
    have hji : j ≠ i := by
      rintro rfl
      rw [here] at hj
      cases hj
      exact hholds
    obtain ⟨ts₁, s₁, r₁, hrun₁, hby₁, hfree, hset₁⟩ := returns_of_holds build hj hholds w
    have here₁ : s₁.procs[i]? = some ⟨key, .waiting⟩ := by
      rw [hset₁, List.getElem?_set_ne hji]
      exact here
    obtain ⟨ts₂, s₂, r, hrun₂, hby₂, -, hset₂⟩ := returns_of_waiting build here₁ hfree w
    refine ⟨ts₁ ++ ts₂, s₂, r, runAll_trans hrun₁ hrun₂, ?_, ?_⟩
    · intro t ht
      rcases List.mem_append.mp ht with ht | ht
      · exact .inr ⟨j, q, hj, hholds, hby₁ t ht⟩
      · exact .inl (hby₂ t ht)
    · rw [hset₂, getElem?_set_of_some here₁]

/-- After the first lookup the lock's holder is still where it was. -/
private theorem ReturnsWithHolder.of_load {i : Nat} {key : K} {w : W}
    (hstep : memoStep build s (.move i .load) = some ⟨s.cell, s.procs.set i ⟨key, .waiting⟩⟩)
    (h : ReturnsWithHolder build ⟨s.cell, s.procs.set i ⟨key, .waiting⟩⟩ i key w) :
    ReturnsWithHolder build s i key w := by
  obtain ⟨ts, s', r, hrun, hby, hret⟩ := h
  refine ⟨.move i .load :: ts, s', r, runAll_of_step hstep hrun, ?_, hret⟩
  refine List.forall_mem_cons.mpr ⟨.inl ⟨rfl, trivial⟩, fun t ht ↦ ?_⟩
  rcases hby t ht with hown | ⟨j, q, hj, hholds, hmakes⟩
  · exact .inl hown
  · rcases getElem?_set_cases hj with ⟨-, rfl⟩ | ⟨-, hj⟩
    · exact hholds.elim
    · exact .inr ⟨j, q, hj, hholds, hmakes⟩

/-- Wherever the calls stand and whatever the world answers, each of them returns after moves of
the lock's holder, if there is one, and of its own; every turn is one of these. -/
theorem memo_returns (h : runAll (memoStep build) ⟨{}, []⟩ ts = some s) {i : Nat}
    (here : s.procs[i]? = some p) (w : W) :
    ∃ ts' s' r, runAll (memoStep build) s ts' = some s' ∧
      (∀ t ∈ ts', s.ByCallOrHolder i w t) ∧ s'.procs[i]? = some ⟨p.key, .returned r⟩ := by
  change ReturnsWithHolder build s i p.key w
  have hown (hp : p.Holds) : ReturnsWithHolder build s i p.key w :=
    (returns_of_holds build here hp w).withHolder here
  obtain ⟨key, phase⟩ := p
  cases phase with
  | returned r => exact ⟨[], s, r, rfl, List.forall_mem_nil _, here⟩
  | waiting => exact waiting_returns build here (memo_holder h) w
  | looking =>
    cases hv : s.cell.table.lookup key with
    | some v =>
      have hmove : MemoCall.move build s.cell ⟨key, .looking⟩ .load =
          some (s.cell, ⟨key, .returned (.ok v)⟩) := by
        simp only [MemoCall.move, hv]
      exact ⟨[.move i .load], _, _, runAll_single (Shared.step_move here hmove),
        List.forall_mem_singleton.mpr (.inl ⟨rfl, trivial⟩), getElem?_set_of_some here _⟩
    | none =>
      have hmove : MemoCall.move build s.cell ⟨key, .looking⟩ .load =
          some (s.cell, ⟨key, .waiting⟩) := by
        simp only [MemoCall.move, hv]
      have hstep : memoStep build s (.move i .load) =
          some ⟨s.cell, s.procs.set i ⟨key, .waiting⟩⟩ := Shared.step_move here hmove
      have hholder := memo_holder (runAll_trans h (runAll_single hstep))
      exact .of_load hstep (waiting_returns build (getElem?_set_of_some here _) hholder w)
  | _ => exact hown trivial

end Runs

end Memo

end PocketAp.Base
