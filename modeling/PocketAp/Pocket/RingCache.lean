import Mathlib.Data.List.Forall2
import PocketAp.Pocket.Signer

/-!
# The ring cache

`src/pocket/signer.go:243–320` with the cache of public keys below it, `src/pocket/pubkey.go`.
Calls of `getOrCreateRing` one after another, for any records and heights. What one call does to
the cache is one equation, and what a cache holds after any number of calls follows from it.
-/

namespace PocketAp.Pocket

open PocketAp.Base PocketAp.Domain PocketAp.Relay

section Keys

variable [Shannon] {ω : Type}

/-- The keys of a `cachingPubKeyFetcher`. `src/pocket/pubkey.go:36–39`. -/
abbrev KeyCache := String → Option Shannon.PubKey

/-- `src/pocket/pubkey.go:82–101`; nothing is stored for an address without a key. -/
def Chain.cachedPubKey (c : Chain ω) (address : String) :
    Seam (KeyCache × ω) (Except Err (Option Shannon.PubKey)) := fun s ↦
  match s.1 address with
  | some key => (.ok (some key), s)
  | none =>
    match c.getPubKeyFromAddress address s.2 with
    | (.error e, w) => (.error e, (s.1, w))
    | (.ok none, w) => (.ok none, (s.1, w))
    | (.ok (some key), w) => (.ok (some key), (Function.update s.1 address (some key), w))

/-- A node whose keys are cached. -/
def Chain.cachingKeys (c : Chain ω) : Chain (KeyCache × ω) where
  getApp appAddr s := ((c.getApp appAddr s.2).1, (s.1, (c.getApp appAddr s.2).2))
  getPubKeyFromAddress := c.cachedPubKey
  signOffChainWithRing key req ring s :=
    ((c.signOffChainWithRing key req ring s.2).1, (s.1, (c.signOffChainWithRing key req ring s.2).2))

/-- The node has answered so. -/
def Answers (c : Chain ω) (address : String) (key : Shannon.PubKey) : Prop :=
  ∃ w, (c.getPubKeyFromAddress address w).1 = .ok (some key)

/-- Only what the node has answered is cached. -/
def KnownKeys (c : Chain ω) (keys : KeyCache) : Prop :=
  ∀ address key, keys address = some key → Answers c address key

/-- One lookup: nothing known is forgotten, and what is returned is known. -/
private theorem cachedPubKey_spec {c : Chain ω} {address : String} {s s' : KeyCache × ω}
    {result : Except Err (Option Shannon.PubKey)} (hknown : KnownKeys c s.1)
    (h : c.cachedPubKey address s = (result, s')) :
    KnownKeys c s'.1 ∧ (∀ a key, s.1 a = some key → s'.1 a = some key) ∧
      ∀ key, result = .ok (some key) → s'.1 address = some key := by
  unfold Chain.cachedPubKey at h
  split at h
  · next key hkey =>
    cases h
    refine ⟨hknown, fun _ _ ↦ id, ?_⟩
    rintro _ ⟨⟩
    exact hkey
  · next hnone =>
    split at h
    · cases h
      exact ⟨hknown, fun _ _ ↦ id, nofun⟩
    · cases h
      exact ⟨hknown, fun _ _ ↦ id, nofun⟩
    · next key w hanswer =>
      cases h
      refine ⟨fun a key' ha ↦ ?_, fun a key' ha ↦ ?_, ?_⟩
      · simp only [Function.update_apply] at ha
        split at ha
        · next heq =>
          cases ha
          exact ⟨s.2, by rw [heq, hanswer]⟩
        · exact hknown a key' ha
      · have hne : a ≠ address := by
          rintro rfl
          rw [hnone] at ha
          cases ha
        simpa [Function.update_of_ne hne] using ha
      · rintro _ ⟨⟩
        simp

private theorem ringPubKeys_spec {c : Chain ω} {addrs : List String} {s s' : KeyCache × ω}
    {result : Except Err (List Shannon.PubKey)} (hknown : KnownKeys c s.1)
    (h : ringPubKeys c.cachingKeys addrs s = (result, s')) :
    KnownKeys c s'.1 ∧ (∀ a key, s.1 a = some key → s'.1 a = some key) ∧
      ∀ pubKeys, result = .ok pubKeys →
        List.Forall₂ (fun address key ↦ s'.1 address = some key) addrs pubKeys := by
  induction addrs generalizing s result with
  | nil =>
    cases h
    refine ⟨hknown, fun _ _ ↦ id, ?_⟩
    rintro _ ⟨⟩
    exact .nil
  | cons address addrs ih =>
    rw [ringPubKeys] at h
    split at h
    · next e s₁ hread =>
      cases h
      obtain ⟨h₁, h₂, -⟩ := cachedPubKey_spec hknown hread
      exact ⟨h₁, h₂, nofun⟩
    · next s₁ hread =>
      cases h
      obtain ⟨h₁, h₂, -⟩ := cachedPubKey_spec hknown hread
      exact ⟨h₁, h₂, nofun⟩
    · next key s₁ hread =>
      obtain ⟨hknown₁, hkeeps₁, hkey⟩ := cachedPubKey_spec hknown hread
      split at h
      · next e s₂ hrest =>
        cases h
        obtain ⟨h₁, h₂, -⟩ := ih hknown₁ hrest
        exact ⟨h₁, fun a k hk ↦ h₂ a k (hkeeps₁ a k hk), nofun⟩
      · next keys s₂ hrest =>
        cases h
        obtain ⟨h₁, h₂, hkeys⟩ := ih hknown₁ hrest
        refine ⟨h₁, fun a k hk ↦ h₂ a k (hkeeps₁ a k hk), ?_⟩
        rintro _ ⟨⟩
        exact .cons (h₂ _ _ (hkey key rfl)) (hkeys keys rfl)

end Keys

/-! ### The two highest heights -/

/-- A call of `getOrCreateRing`. -/
structure Ask where
  app : Application
  height : Nat
  deriving DecidableEq, Repr

/-- `src/pocket/signer.go:249`. -/
def Ask.key (a : Ask) : RingCacheKey := ⟨a.app.address, a.height⟩

/-- The highest height asked for, zero for none. -/
def highestAsked (as : List Ask) : Nat := (as.map Ask.height).foldl max 0

/-- The heights that were the highest before and are now: a height above the highest takes its
place. -/
def lastHighest (as : List Ask) : Nat × Nat :=
  as.foldl (fun p a ↦ if p.2 < a.height then (p.2, a.height) else p) (0, 0)

private theorem highestAsked_concat (as : List Ask) (a : Ask) :
    highestAsked (as ++ [a]) = max (highestAsked as) a.height := by
  simp [highestAsked]

private theorem lastHighest_concat (as : List Ask) (a : Ask) :
    lastHighest (as ++ [a]) =
      if (lastHighest as).2 < a.height then ((lastHighest as).2, a.height) else lastHighest as := by
  rw [lastHighest, List.foldl_append]
  rfl

private theorem lastHighest_snd (as : List Ask) : (lastHighest as).2 = highestAsked as := by
  induction as using List.reverseRecOn with
  | nil => rfl
  | append_singleton as a ih =>
    rw [lastHighest_concat, highestAsked_concat, ih]
    split
    · next h => exact (Nat.max_eq_right (Nat.le_of_lt h)).symm
    · next h => rw [ih, Nat.max_eq_left (Nat.le_of_not_lt h)]

private theorem lastHighest_fst_le (as : List Ask) : (lastHighest as).1 ≤ highestAsked as := by
  induction as using List.reverseRecOn with
  | nil => exact Nat.le_refl _
  | append_singleton as a ih =>
    rw [lastHighest_concat, highestAsked_concat, lastHighest_snd]
    split
    · exact Nat.le_max_left _ _
    · exact ih.trans (Nat.le_max_left _ _)

private theorem lastHighest_fst_mono (as later : List Ask) :
    (lastHighest as).1 ≤ (lastHighest (as ++ later)).1 := by
  induction later using List.reverseRecOn with
  | nil => rw [List.append_nil]
  | append_singleton later a ih =>
    rw [← List.append_assoc, lastHighest_concat]
    split
    · rw [lastHighest_snd]
      exact ih.trans (lastHighest_fst_le _)
    · exact ih

/-- After a raise both are at least the height it started from. -/
private theorem le_lastHighest_of_raise (as l l' : List Ask) {a : Ask}
    (h : highestAsked (as ++ l) < a.height) :
    highestAsked (as ++ l) ≤ (lastHighest (as ++ (l ++ a :: l'))).1 := by
  have hraised : (lastHighest (as ++ l ++ [a])).1 = highestAsked (as ++ l) := by
    rw [lastHighest_concat, lastHighest_snd, if_pos h]
  have hmono := lastHighest_fst_mono (as ++ l ++ [a]) l'
  rw [hraised] at hmono
  simpa using hmono

section Rings

variable [Shannon] {ω : Type}

/-- A signer's caches, the keys, and the world. -/
abbrev RingState (ω : Type) := Caches × (KeyCache × ω)

/-- A new signer. -/
def RingState.fresh (w : ω) : RingState ω := (.fresh, (fun _ ↦ none), w)

/-- One request for a ring. -/
def ask (c : Chain ω) (a : Ask) : Seam (RingState ω) (Except Err Shannon.Ring) :=
  getOrCreateRing c.cachingKeys a.app a.height

/-- After some calls. -/
def askAll (c : Chain ω) (s : RingState ω) (as : List Ask) : RingState ω :=
  as.foldl (fun s a ↦ (ask c a s).2) s

/-- A ring of the keys of the app and of its gateways at that height, or of the app twice; all of
them the node has answered, and `keys` has them. -/
def BuiltFrom (c : Chain ω) (keys : KeyCache) (a : Ask) (ring : Shannon.Ring) : Prop :=
  ∃ pubKeys, List.Forall₂ (fun address key ↦ keys address = some key ∧ Answers c address key)
      (ringAddresses a.app a.height) pubKeys ∧ Shannon.ringFromPubKeys pubKeys = .ok ring

/-- A call raises the highest height from one that is above `x`. -/
def RaisesAbove (x : Nat) (s : RingState ω) (a : Ask) : Prop :=
  x < s.1.highestSessionEnd ∧ s.1.highestSessionEnd < a.height

/-- What is said of the cache after some calls on a new signer. -/
structure Coherent (c : Chain ω) (as : List Ask) (s : RingState ω) : Prop where
  highest : s.1.highestSessionEnd = highestAsked as
  returned : ∀ a ring, (ask c a s).1 = .ok ring →
    s.1.ringCache a.key = some ring ∨ BuiltFrom c (ask c a s).2.2.1 a ring
  failing : ∀ a e, (ask c a s).1 = .error e → ∀ key ring,
    (ask c a s).2.1.ringCache key = some ring → s.1.ringCache key = some ring
  evicts : ∀ a, s.1.highestSessionEnd < a.height → ∀ key ring, s.1.ringCache key = some ring →
    (ask c a s).2.1.ringCache key =
      if key.sessionEndHeight < s.1.highestSessionEnd then none else some ring
  reused : ∀ later key ring, s.1.ringCache key = some ring →
    (∀ l a l', later = l ++ a :: l' → ¬ RaisesAbove key.sessionEndHeight (askAll c s l) a) →
    ∀ a, a.key = key → ask c a (askAll c s later) = (.ok ring, askAll c s later)
  retained : ∀ later key ring, s.1.ringCache key = some ring →
    key.sessionEndHeight = (lastHighest (as ++ later)).1 ∨
      key.sessionEndHeight = highestAsked (as ++ later) →
    ∀ a, a.key = key → ask c a (askAll c s later) = (.ok ring, askAll c s later)

/-! ### One call -/

variable {c : Chain ω} {a : Ask} {s : RingState ω}

private theorem evict_ringCache_eq (caches : Caches) (height : Nat) (key : RingCacheKey) :
    (caches.evictStaleRingsOnRollover height).ringCache key =
      if caches.highestSessionEnd < height ∧ key.sessionEndHeight < caches.highestSessionEnd then
        none
      else caches.ringCache key := by
  unfold Caches.evictStaleRingsOnRollover
  by_cases h : height ≤ caches.highestSessionEnd
  · rw [if_pos h, if_neg (by omega)]
  · rw [if_neg h]
    simp only [Nat.lt_of_not_le h, true_and]

private theorem evict_highest (caches : Caches) (height : Nat) :
    (caches.evictStaleRingsOnRollover height).highestSessionEnd =
      max caches.highestSessionEnd height := by
  unfold Caches.evictStaleRingsOnRollover
  split
  · next h => rw [Nat.max_eq_left h]
  · next h => simp only [Nat.max_eq_right (Nat.le_of_not_le h)]

/-- The ring that is asked for is not evicted by the call. -/
private theorem evict_own (caches : Caches) (a : Ask) :
    (caches.evictStaleRingsOnRollover a.height).ringCache a.key = caches.ringCache a.key := by
  rw [evict_ringCache_eq, if_neg]
  simp only [Ask.key]
  omega

/-- A call that finds its ring. -/
private theorem ask_hit {ring : Shannon.Ring} (h : s.1.ringCache a.key = some ring) :
    ask c a s = (.ok ring, (s.1.evictStaleRingsOnRollover a.height, s.2)) := by
  have hfound := evict_own s.1 a
  rw [h] at hfound
  unfold Ask.key at hfound
  simp only [ask, getOrCreateRing, hfound]

/-- A call that does not: the ring is built, and kept if that succeeds. -/
private theorem ask_miss (h : s.1.ringCache a.key = none) :
    (ask c a s).1 = (buildRing c.cachingKeys a.app a.height s.2).1 ∧
      (ask c a s).2.2 = (buildRing c.cachingKeys a.app a.height s.2).2 ∧
      (ask c a s).2.1.highestSessionEnd = max s.1.highestSessionEnd a.height ∧
      ∀ key, (ask c a s).2.1.ringCache key =
        if key = a.key then (ask c a s).1.toOption
        else (s.1.evictStaleRingsOnRollover a.height).ringCache key := by
  have hmissed := evict_own s.1 a
  rw [h] at hmissed
  have hkey : a.key = ⟨a.app.address, a.height⟩ := rfl
  rw [hkey] at hmissed ⊢
  simp only [ask, getOrCreateRing, hmissed]
  rcases buildRing c.cachingKeys a.app a.height s.2 with ⟨e | ring, w⟩
  · refine ⟨rfl, rfl, evict_highest s.1 a.height, fun key ↦ ?_⟩
    by_cases heq : key = ⟨a.app.address, a.height⟩
    · rw [if_pos heq, heq]
      exact hmissed
    · rw [if_neg heq]
  · refine ⟨rfl, rfl, evict_highest s.1 a.height, fun key ↦ ?_⟩
    exact Function.update_apply _ _ _ _

private theorem ask_highest (c : Chain ω) (a : Ask) (s : RingState ω) :
    (ask c a s).2.1.highestSessionEnd = max s.1.highestSessionEnd a.height := by
  cases h : s.1.ringCache a.key with
  | some ring =>
    rw [ask_hit h]
    exact evict_highest s.1 a.height
  | none => exact (ask_miss h).2.2.1

/-- All a call does to the rings: those below the highest height so far go when that is raised,
and a ring that was built comes. -/
theorem ask_ringCache (c : Chain ω) (a : Ask) (s : RingState ω) (key : RingCacheKey) :
    (ask c a s).2.1.ringCache key =
      if s.1.highestSessionEnd < a.height ∧ key.sessionEndHeight < s.1.highestSessionEnd then none
      else
        match s.1.ringCache key with
        | some ring => some ring
        | none => if key = a.key then (ask c a s).1.toOption else none := by
  cases h : s.1.ringCache a.key with
  | some ring =>
    have hother (hnone : s.1.ringCache key = none) : key ≠ a.key := by
      rintro rfl
      rw [h] at hnone
      cases hnone
    rw [ask_hit h]
    simp only [evict_ringCache_eq]
    split
    · rfl
    · cases hkey : s.1.ringCache key with
      | some ring' => rfl
      | none => simp [hother hkey]
  | none =>
    rw [(ask_miss h).2.2.2, evict_ringCache_eq]
    by_cases hkey : key = a.key
    · rw [if_pos hkey, hkey, h, if_neg]
      · simp
      · simp only [Ask.key]
        omega
    · rw [if_neg hkey]
      split
      · rfl
      · cases s.1.ringCache key with
        | some ring => rfl
        | none => simp

private theorem buildRing_spec {keys : KeyCache × ω} (hknown : KnownKeys c keys.1) :
    KnownKeys c (buildRing c.cachingKeys a.app a.height keys).2.1 ∧
      ∀ ring, (buildRing c.cachingKeys a.app a.height keys).1 = .ok ring →
        BuiltFrom c (buildRing c.cachingKeys a.app a.height keys).2.1 a ring := by
  unfold buildRing
  cases hread : ringPubKeys c.cachingKeys (ringAddresses a.app a.height) keys with
  | mk result keys' =>
    obtain ⟨hknown', -, hkeys⟩ := ringPubKeys_spec hknown hread
    cases result with
    | error e => exact ⟨hknown', nofun⟩
    | ok pubKeys =>
      dsimp only
      cases hring : Shannon.ringFromPubKeys pubKeys with
      | error e => exact ⟨hknown', nofun⟩
      | ok ring' =>
        refine ⟨hknown', ?_⟩
        rintro _ ⟨⟩
        refine ⟨pubKeys, (hkeys pubKeys rfl).imp fun address key hkey ↦ ⟨hkey, ?_⟩, hring⟩
        exact hknown' address key hkey

/-! ### Many calls -/

/-- What every call keeps. -/
private structure Tracks (c : Chain ω) (as : List Ask) (s : RingState ω) : Prop where
  known : KnownKeys c s.2.1
  bounded : ∀ key ring, s.1.ringCache key = some ring →
    key.sessionEndHeight ≤ s.1.highestSessionEnd
  highest : s.1.highestSessionEnd = highestAsked as

private theorem tracks_fresh (c : Chain ω) (w : ω) : Tracks c [] (.fresh w) :=
  ⟨nofun, nofun, rfl⟩

private theorem Tracks.ask {as : List Ask} (h : Tracks c as s) (a : Ask) :
    Tracks c (as ++ [a]) (ask c a s).2 where
  known := by
    cases hring : s.1.ringCache a.key with
    | some ring =>
      rw [ask_hit hring]
      exact h.known
    | none =>
      rw [(ask_miss hring).2.1]
      exact (buildRing_spec h.known).1
  bounded := by
    intro key ring hkey
    rw [ask_ringCache] at hkey
    rw [ask_highest]
    split at hkey
    · cases hkey
    · split at hkey
      · next ring' hring => exact (h.bounded key ring' hring).trans (Nat.le_max_left _ _)
      · split at hkey
        · next heq =>
          rw [heq]
          exact Nat.le_max_right _ _
        · cases hkey
  highest := by rw [ask_highest, h.highest, highestAsked_concat]

private theorem Tracks.askAll {as : List Ask} (h : Tracks c as s) (later : List Ask) :
    Tracks c (as ++ later) (askAll c s later) := by
  induction later generalizing as s with
  | nil => rwa [List.append_nil]
  | cons a later ih =>
    have hrest := ih (h.ask a)
    rwa [List.append_assoc] at hrest

private theorem Tracks.returned {as : List Ask} (h : Tracks c as s) {ring : Shannon.Ring}
    (hring : (Pocket.ask c a s).1 = .ok ring) :
    s.1.ringCache a.key = some ring ∨ BuiltFrom c (Pocket.ask c a s).2.2.1 a ring := by
  cases hfound : s.1.ringCache a.key with
  | some ring' =>
    rw [ask_hit hfound] at hring
    cases hring
    exact .inl rfl
  | none =>
    rw [(ask_miss hfound).1] at hring
    rw [(ask_miss hfound).2.1]
    exact .inr ((buildRing_spec h.known).2 ring hring)

private theorem ask_error {e : Err} (h : (ask c a s).1 = .error e) {key : RingCacheKey}
    {ring : Shannon.Ring} (hkey : (ask c a s).2.1.ringCache key = some ring) :
    s.1.ringCache key = some ring := by
  rw [ask_ringCache, h] at hkey
  split at hkey
  · cases hkey
  · split at hkey
    · next ring' hring =>
      cases hkey
      exact hring
    · split at hkey <;> cases hkey

/-- A ring that is cached stays so, unless the highest height is raised from one above it. -/
private theorem askAll_keeps {later : List Ask} {key : RingCacheKey} {ring : Shannon.Ring}
    (hring : s.1.ringCache key = some ring)
    (hlater : ∀ l a l', later = l ++ a :: l' →
      ¬ RaisesAbove key.sessionEndHeight (askAll c s l) a) :
    (askAll c s later).1.ringCache key = some ring := by
  induction later generalizing s with
  | nil => exact hring
  | cons a later ih =>
    have hkept : (ask c a s).2.1.ringCache key = some ring := by
      have hnot := hlater [] a later rfl
      rw [ask_ringCache, if_neg (fun h ↦ hnot ⟨h.2, h.1⟩), hring]
    refine ih hkept fun l b l' heq ↦ ?_
    exact hlater (a :: l) b l' (by rw [heq]; rfl)

/-- A ring at most as high as the highest height is found by a call that changes nothing. -/
private theorem ask_cached {key : RingCacheKey} {ring : Shannon.Ring}
    (hring : s.1.ringCache key = some ring) (hle : key.sessionEndHeight ≤ s.1.highestSessionEnd)
    (hkey : a.key = key) : ask c a s = (.ok ring, s) := by
  subst hkey
  rw [ask_hit hring, Caches.evictStaleRingsOnRollover, if_pos (show a.height ≤ _ from hle)]

/-- The cache of rings of any run on a new signer: what is in it, what comes and what goes. -/
theorem askAll_coherent (c : Chain ω) (w : ω) (as : List Ask) :
    Coherent c as (askAll c (.fresh w) as) := by
  have htracks : Tracks c as (askAll c (.fresh w) as) := (tracks_fresh c w).askAll as
  generalize askAll c (.fresh w) as = s at htracks
  have hfound (later : List Ask) {key : RingCacheKey} {ring : Shannon.Ring}
      (hring : s.1.ringCache key = some ring)
      (hlater : ∀ l a l', later = l ++ a :: l' →
        ¬ RaisesAbove key.sessionEndHeight (askAll c s l) a) (a : Ask) (hkey : a.key = key) :
      ask c a (askAll c s later) = (.ok ring, askAll c s later) := by
    have hkept := askAll_keeps hring hlater
    exact ask_cached hkept ((htracks.askAll later).bounded key ring hkept) hkey
  constructor
  · exact htracks.highest
  · exact fun a ring ↦ htracks.returned
  · exact fun a e h key ring ↦ ask_error h
  · intro a hraise key ring hring
    rw [ask_ringCache, hring]
    simp only [hraise, true_and]
  · exact fun later key ring ↦ hfound later
  · intro later key ring hring hheight
    refine hfound later hring fun l a l' heq hraises ↦ ?_
    obtain ⟨habove, hraise⟩ := hraises
    rw [(htracks.askAll l).highest] at habove hraise
    have hprevious := le_lastHighest_of_raise as l l' hraise
    have hcurrent := lastHighest_fst_le (as ++ (l ++ a :: l'))
    rw [heq] at hheight
    omega

end Rings

end PocketAp.Pocket
