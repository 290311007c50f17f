import PocketAp.Base.Shared
import PocketAp.Pocket.RingCache

/-!
# The cache of public keys, shared

`src/pocket/pubkey.go`. One cache serves the validator and every signer, and nothing locks it
across a query: a lookup, the node's answer and the store are one step each, and any other call
may move between them. The node may answer that an account has no key.
-/

namespace PocketAp.Pocket

open PocketAp.Base PocketAp.Domain PocketAp.Relay

section Keys

variable [Shannon]

/-- What the node answers to a query. -/
abbrev KeyAnswer := Except Err (Option Shannon.PubKey)

/-- The cache, and the node's answers so far by address; no code reads the latter. -/
structure SharedKeys where
  keys : KeyCache := fun _ ↦ none
  answers : List (String × KeyAnswer) := []

/-- Where a call is: before its lookup, waiting for the node, before the store, or back. -/
inductive KeyPhase where
  | looking
  | asking
  | storing (key : Shannon.PubKey)
  | returned (result : KeyAnswer)

/-- A call; `known` is whether its address was cached when it began, and `asked` whether the node
has answered it. No code reads the two. -/
structure KeyCall where
  address : String
  phase : KeyPhase := .looking
  known : Bool := false
  asked : Bool := false

/-- What can happen to a lookup. -/
inductive KeyMove where
  | load
  | answer (answer : KeyAnswer)
  | store

/-- A lookup that has just begun. -/
def KeyCall.start (c : SharedKeys) (address : String) : KeyCall :=
  { address, known := (c.keys address).isSome }

/-- `src/pocket/pubkey.go:82–101`. -/
def KeyCall.move (c : SharedKeys) (p : KeyCall) : KeyMove → Option (SharedKeys × KeyCall)
  | .load =>
    match p.phase with
    | .looking =>
      match c.keys p.address with
      | some key => some (c, { p with phase := .returned (.ok (some key)) })
      | none => some (c, { p with phase := .asking })
    | _ => none
  | .answer answer =>
    match p.phase with
    | .asking =>
      some ({ c with answers := c.answers ++ [(p.address, answer)] },
        { p with
          asked := true
          phase := match answer with
            | .error e => .returned (.error e)
            | .ok none => .returned (.ok none)
            | .ok (some key) => .storing key })
    | _ => none
  | .store =>
    match p.phase with
    | .storing key =>
      some ({ c with keys := Function.update c.keys p.address (some key) },
        { p with phase := .returned (.ok (some key)) })
    | _ => none

/-- One turn of the calls. -/
abbrev keyStep : Shared SharedKeys KeyCall → Turn String KeyMove → Option (Shared SharedKeys KeyCall) :=
  Shared.step KeyCall.start KeyCall.move

/-- The cases of a move. -/
inductive KeyCall.Moved (c : SharedKeys) (p : KeyCall) : KeyMove → SharedKeys → KeyCall → Prop where
  | found (key : Shannon.PubKey) (looking : p.phase = .looking)
      (here : c.keys p.address = some key) :
      Moved c p .load c { p with phase := .returned (.ok (some key)) }
  | missed (looking : p.phase = .looking) (absent : c.keys p.address = none) :
      Moved c p .load c { p with phase := .asking }
  | failed (e : Err) (asking : p.phase = .asking) :
      Moved c p (.answer (.error e)) { c with answers := c.answers ++ [(p.address, .error e)] }
        { p with asked := true, phase := .returned (.error e) }
  | keyless (asking : p.phase = .asking) :
      Moved c p (.answer (.ok none)) { c with answers := c.answers ++ [(p.address, .ok none)] }
        { p with asked := true, phase := .returned (.ok none) }
  | answered (key : Shannon.PubKey) (asking : p.phase = .asking) :
      Moved c p (.answer (.ok (some key)))
        { c with answers := c.answers ++ [(p.address, .ok (some key))] }
        { p with asked := true, phase := .storing key }
  | stored (key : Shannon.PubKey) (storing : p.phase = .storing key) :
      Moved c p .store { c with keys := Function.update c.keys p.address (some key) }
        { p with phase := .returned (.ok (some key)) }

variable {c c' : SharedKeys} {p p' : KeyCall} {m : KeyMove}

/-- A lookup moves in one of these ways. -/
theorem KeyCall.move_cases (hm : p.move c m = some (c', p')) : p.Moved c m c' p' := by
  cases m with
  | load =>
    simp only [KeyCall.move] at hm
    split at hm
    · next hp =>
      split at hm
      · next key hk =>
        cases hm
        exact .found key hp hk
      · next hk =>
        cases hm
        exact .missed hp hk
    · cases hm
  | answer a =>
    simp only [KeyCall.move] at hm
    split at hm
    · next hp =>
      cases hm
      rcases a with e | key | key
      · exact .failed e hp
      · exact .keyless hp
      · exact .answered key hp
    · cases hm
  | store =>
    simp only [KeyCall.move] at hm
    split at hm
    · next key hp =>
      cases hm
      exact .stored key hp
    · cases hm

/-! ### What calls keep -/

/-- Only answers are cached, and never that there is no key. -/
def SharedKeys.Sound (c : SharedKeys) : Prop :=
  ∀ address key, c.keys address = some key → (address, .ok (some key)) ∈ c.answers

/-- What is known of a call by where it is. -/
def KeyCall.Sound (c : SharedKeys) (p : KeyCall) : Prop :=
  (p.known = true → (c.keys p.address).isSome = true ∧ p.asked = false) ∧
  match p.phase with
  | .looking => p.asked = false
  | .asking => p.asked = false ∧ p.known = false
  | .storing key => p.known = false ∧ (p.address, .ok (some key)) ∈ c.answers
  | .returned r => (p.address, r) ∈ c.answers

/-- What is cached is not forgotten, and answers stay given. -/
theorem KeyCall.move_mono (hm : p.move c m = some (c', p')) :
    (∀ address, (c.keys address).isSome = true → (c'.keys address).isSome = true) ∧
      ∀ a ∈ c.answers, a ∈ c'.answers := by
  cases KeyCall.move_cases hm with
  | found key looking here => exact ⟨fun _ ↦ id, fun _ ↦ id⟩
  | missed looking absent => exact ⟨fun _ ↦ id, fun _ ↦ id⟩
  | failed e asking => exact ⟨fun _ ↦ id, fun _ ↦ List.mem_append_left _⟩
  | keyless asking => exact ⟨fun _ ↦ id, fun _ ↦ List.mem_append_left _⟩
  | answered key asking => exact ⟨fun _ ↦ id, fun _ ↦ List.mem_append_left _⟩
  | stored key storing =>
    refine ⟨fun address h ↦ ?_, fun _ ↦ id⟩
    simp only [Function.update_apply]
    split
    · rfl
    · exact h

private theorem KeyCall.sound_other {q : KeyCall} (hq : q.Sound c)
    (hm : p.move c m = some (c', p')) : q.Sound c' := by
  obtain ⟨hkeys, hanswers⟩ := KeyCall.move_mono hm
  refine ⟨fun hknown ↦ ⟨hkeys _ (hq.1 hknown).1, (hq.1 hknown).2⟩, ?_⟩
  have hphase := hq.2
  cases hp : q.phase with
  | looking => simpa only [hp] using hphase
  | asking => simpa only [hp] using hphase
  | storing key =>
    simp only [hp] at hphase ⊢
    exact ⟨hphase.1, hanswers _ hphase.2⟩
  | returned r =>
    simp only [hp] at hphase ⊢
    exact hanswers _ hphase

private theorem KeyCall.sound_move (hc : c.Sound) (hp : p.Sound c)
    (hm : p.move c m = some (c', p')) : p'.Sound c' := by
  obtain ⟨hknown, hphase⟩ := hp
  cases KeyCall.move_cases hm with
  | found key looking here => exact ⟨hknown, hc _ _ here⟩
  | missed looking absent =>
    simp only [looking] at hphase
    refine ⟨hknown, hphase, ?_⟩
    by_contra hk
    have hsome := (hknown (by simpa using hk)).1
    rw [absent] at hsome
    cases hsome
  | failed e asking =>
    simp only [asking] at hphase
    exact ⟨fun h ↦ absurd h (by simp [hphase.2]), List.mem_concat_self⟩
  | keyless asking =>
    simp only [asking] at hphase
    exact ⟨fun h ↦ absurd h (by simp [hphase.2]), List.mem_concat_self⟩
  | answered key asking =>
    simp only [asking] at hphase
    exact ⟨fun h ↦ absurd h (by simp [hphase.2]), hphase.2, List.mem_concat_self⟩
  | stored key storing =>
    simp only [storing] at hphase
    exact ⟨fun h ↦ absurd h (by simp [hphase.1]), hphase.2⟩

private theorem SharedKeys.sound_move (hc : c.Sound) (hp : p.Sound c)
    (hm : p.move c m = some (c', p')) : c'.Sound := by
  intro address key h
  cases KeyCall.move_cases hm with
  | found key' looking here => exact hc _ _ h
  | missed looking absent => exact hc _ _ h
  | failed e asking => exact List.mem_append_left _ (hc _ _ h)
  | keyless asking => exact List.mem_append_left _ (hc _ _ h)
  | answered key' asking => exact List.mem_append_left _ (hc _ _ h)
  | stored key' storing =>
    have hphase := hp.2
    simp only [storing] at hphase
    simp only [Function.update_apply] at h
    split at h
    · next heq =>
      cases h
      rw [heq]
      exact hphase.2
    · exact hc _ _ h

/-- Lookups keep the cache and each other sound. -/
theorem keys_stable :
    Shared.Stable KeyCall.start KeyCall.move SharedKeys.Sound KeyCall.Sound where
  arrives _ _ _ := ⟨fun h ↦ ⟨h, rfl⟩, rfl⟩
  cell _ _ _ _ _ hc hp hm := SharedKeys.sound_move hc hp hm
  own _ _ _ _ _ hc hp hm := KeyCall.sound_move hc hp hm
  others _ _ _ _ _ _ _ _ hq hm := KeyCall.sound_other hq hm

/-! ### Whole runs -/

/-- Whether the node was asked for a call's address, which is `address`. -/
def KeyCall.askedFor (address : String) (p : KeyCall) : Bool := p.asked && p.address == address

private theorem countP_answer (address : String) (answers : List (String × KeyAnswer))
    (a : String × KeyAnswer) :
    ((answers ++ [a]).countP (·.1 == address) : Int) =
      answers.countP (·.1 == address) + (if a.1 = address then 1 else 0) := by
  rw [List.countP_append, List.countP_singleton]
  by_cases h : a.1 = address <;> simp [h]

private theorem answers_move (address : String) (hp : p.Sound c)
    (hm : p.move c m = some (c', p')) :
    (c'.answers.countP (·.1 == address) : Int) = c.answers.countP (·.1 == address) -
      (if p.askedFor address then 1 else 0) + (if p'.askedFor address then 1 else 0) := by
  have hphase := hp.2
  cases KeyCall.move_cases hm with
  | found key looking here => simp [KeyCall.askedFor]
  | missed looking absent => simp [KeyCall.askedFor]
  | failed e asking =>
    simp only [asking] at hphase
    rw [countP_answer]
    simp [KeyCall.askedFor, hphase.1]
  | keyless asking =>
    simp only [asking] at hphase
    rw [countP_answer]
    simp [KeyCall.askedFor, hphase.1]
  | answered key asking =>
    simp only [asking] at hphase
    rw [countP_answer]
    simp [KeyCall.askedFor, hphase.1]
  | stored key storing => simp [KeyCall.askedFor]

/-- What the users of the cache can rely on. -/
structure KeysKept (s : Shared SharedKeys KeyCall) : Prop where
  /-- A cached key is one the node gave for that address; that there is none is never cached. -/
  cached : ∀ address key, s.cell.keys address = some key →
    (address, .ok (some key)) ∈ s.cell.answers
  /-- Every call returns an answer of the node for its own address. -/
  genuine : ∀ p ∈ s.procs, ∀ r, p.phase = .returned r → (p.address, r) ∈ s.cell.answers
  /-- A call that begins when its address is cached does not reach the node. -/
  spared : ∀ p ∈ s.procs, p.known = true → p.asked = false
  /-- The node is asked at most once for each call that began before the address was cached. -/
  queries : ∀ address, s.cell.answers.countP (·.1 == address) ≤
    s.procs.countP (fun p ↦ !p.known && p.address == address)
  /-- Where the node gives one key per address, no two callers see different ones. -/
  agree : ∀ address,
    (∀ k₁ k₂, (address, .ok (some k₁)) ∈ s.cell.answers →
      (address, .ok (some k₂)) ∈ s.cell.answers → k₁ = k₂) →
    ∀ p ∈ s.procs, ∀ q ∈ s.procs, ∀ k₁ k₂, p.address = address → q.address = address →
      p.phase = .returned (.ok (some k₁)) → q.phase = .returned (.ok (some k₂)) → k₁ = k₂

/-- The cache of public keys under any interleaving of its callers. -/
theorem pubKeys_kept {s : Shared SharedKeys KeyCall} {ts : List (Turn String KeyMove)}
    (h : runAll keyStep ⟨{}, []⟩ ts = some s) : KeysKept s := by
  have hempty : SharedKeys.Sound {} := fun _ _ hk ↦ by cases hk
  obtain ⟨hcell, hcalls⟩ := keys_stable.run hempty h
  have hgenuine (p : KeyCall) (hp : p ∈ s.procs) (r : KeyAnswer)
      (hr : p.phase = .returned r) : (p.address, r) ∈ s.cell.answers := by
    have hphase := (hcalls p hp).2
    simpa only [hr] using hphase
  constructor
  · exact hcell
  · exact hgenuine
  · exact fun p hp hknown ↦ ((hcalls p hp).1 hknown).2
  · intro address
    have hcount := keys_stable.count_of
      (fun c ↦ (c.answers.countP (·.1 == address) : Int)) (fun _ _ ↦ rfl)
      (fun _ _ _ _ _ hp hm ↦ answers_move address hp hm) hempty rfl h
    have hle : s.procs.countP (KeyCall.askedFor address) ≤
        s.procs.countP (fun p ↦ !p.known && p.address == address) := by
      refine List.countP_mono_left fun p hp hasked ↦ ?_
      simp only [KeyCall.askedFor, Bool.and_eq_true] at hasked
      cases hk : p.known with
      | false => simpa using hasked.2
      | true => simp [((hcalls p hp).1 hk).2] at hasked
    omega
  · intro address hone p hp q hq k₁ k₂ hpa hqa h₁ h₂
    exact hone k₁ k₂ (hpa ▸ hgenuine p hp _ h₁) (hqa ▸ hgenuine q hq _ h₂)

/-- Left alone, the steps of a call are `cachedPubKey`. -/
theorem cachedPubKey_uninterrupted {ω : Type} (ch : Chain ω) (s : Shared SharedKeys KeyCall)
    {i : Nat} {address : String} {known : Bool} (w : ω)
    (here : s.procs[i]? = some ⟨address, .looking, known, false⟩) :
    ∃ ts s' asked, runAll keyStep s ts = some s' ∧
      s'.procs = s.procs.set i
        ⟨address, .returned (ch.cachedPubKey address (s.cell.keys, w)).1, known, asked⟩ ∧
      s'.cell.keys = (ch.cachedPubKey address (s.cell.keys, w)).2.1 := by
  obtain ⟨hi, hget⟩ := List.getElem?_eq_some_iff.mp here
  cases hk : s.cell.keys address with
  | some key =>
    refine ⟨[.move i .load],
      ⟨s.cell, s.procs.set i ⟨address, .returned (.ok (some key)), known, false⟩⟩, false,
      runAll_single (Shared.step_move here ?_), ?_, ?_⟩
    · simp only [KeyCall.move, hk]
    · simp only [Chain.cachedPubKey, hk]
    · simp only [Chain.cachedPubKey, hk]
  | none =>
    rcases hq : ch.getPubKeyFromAddress address w with ⟨e | key | key, w'⟩
    · refine ⟨[.move i .load, .move i (.answer (.error e))],
        ⟨{ s.cell with answers := s.cell.answers ++ [(address, .error e)] },
          s.procs.set i ⟨address, .returned (.error e), known, true⟩⟩, true, ?_, ?_, ?_⟩
      · simp [runAll, Shared.step, KeyCall.move, hi, hget, hk]
      · simp only [Chain.cachedPubKey, hk, hq]
      · simp only [Chain.cachedPubKey, hk, hq]
    · refine ⟨[.move i .load, .move i (.answer (.ok none))],
        ⟨{ s.cell with answers := s.cell.answers ++ [(address, .ok none)] },
          s.procs.set i ⟨address, .returned (.ok none), known, true⟩⟩, true, ?_, ?_, ?_⟩
      · simp [runAll, Shared.step, KeyCall.move, hi, hget, hk]
      · simp only [Chain.cachedPubKey, hk, hq]
      · simp only [Chain.cachedPubKey, hk, hq]
    · refine ⟨[.move i .load, .move i (.answer (.ok (some key))), .move i .store],
        ⟨⟨Function.update s.cell.keys address (some key),
            s.cell.answers ++ [(address, .ok (some key))]⟩,
          s.procs.set i ⟨address, .returned (.ok (some key)), known, true⟩⟩, true, ?_, ?_, ?_⟩
      · simp [runAll, Shared.step, KeyCall.move, hi, hget, hk]
      · simp only [Chain.cachedPubKey, hk, hq]
      · simp only [Chain.cachedPubKey, hk, hq]

end Keys

section Race

@[reducible]
local instance racingShannon : Shannon := Shannon.plain

/-- Two calls miss before either answer comes, a third finds the key, and an account without a
key is asked about each time. -/
def racingLookups : List (Turn String KeyMove) :=
  [.arrive "pokt1a", .arrive "pokt1a", .move 0 .load, .move 1 .load,
    .move 0 (.answer (.ok (some "key"))), .move 0 .store, .move 1 (.answer (.ok (some "key"))),
    .arrive "pokt1a", .move 2 .load, .move 1 .store, .arrive "pokt1b", .move 3 .load,
    .move 3 (.answer (.ok none)), .arrive "pokt1b", .move 4 .load,
    .move 4 (.answer (.error (.text "down")))]

/-- The lookups then. -/
def racedLookups : Option (Shared SharedKeys KeyCall) := runAll keyStep ⟨{}, []⟩ racingLookups

/-- The chain is asked again only by lookups that overlap. -/
theorem pubKeys_kept_racing : ∃ s, racedLookups = some s ∧
    s.procs.map KeyCall.asked = [true, true, false, true, true] ∧ KeysKept s := by
  obtain ⟨s, hs⟩ := Option.isSome_iff_exists.mp (by decide +kernel : racedLookups.isSome = true)
  have hasked : racedLookups.map (fun s ↦ s.procs.map KeyCall.asked) =
      some [true, true, false, true, true] := by decide +kernel
  rw [hs] at hasked
  exact ⟨s, hs, Option.some.inj hasked, pubKeys_kept hs⟩

end Race

end PocketAp.Pocket
