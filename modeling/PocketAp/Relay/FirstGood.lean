import PocketAp.Relay.Attempts

/-!
# The first good supplier

`Relay`, `src/relay/relay.go:157–229`, against what it is for: of the endpoints the cap allows,
in order, the first that has a URL, sends and validates decides the call. What an endpoint
does may depend on everything that happened before, so `verdictAt` looks at each endpoint in
the world the earlier ones leave behind.
-/

namespace PocketAp.Relay

open PocketAp.Base PocketAp.Domain

/-- How an endpoint does with a relay. -/
inductive Verdict where
  | noURL
  | unsigned (e : Err)
  | unsent (e : Err)
  | invalid (e : Err)
  | good (result : RelayResult)
  deriving DecidableEq, Repr

/-- The failure after which the next endpoint is tried. -/
def Verdict.failure? : Verdict → Option Err
  | noURL => some errNoEndpoint
  | unsent e => some e
  | invalid e => some e
  | unsigned _ => none
  | good _ => none

/-- A request that was signed for an endpoint and sent to its URL, and the answer. -/
structure Sent where
  endpoint : Endpoint
  url : String
  relayReq : Bytes
  result : Except Err Bytes

/-- Of the endpoints exactly those with a URL are contacted, in order and once each: the request
is signed afresh, from the same input, and sent. -/
def ContactsExactly {γ : Type} (session : Session) (rpcType : RPCType) (input : RelayInput)
    (eps : List Endpoint) (es : List (Event γ)) : Prop :=
  ∃ sent : List Sent, sent.map Sent.endpoint = eps.filter (fun ep ↦ ep.supportsType rpcType) ∧
    (∀ c ∈ sent, c.endpoint.url rpcType = some c.url) ∧
    es.filter (fun ev ↦ ev.isSign || ev.isSend) = sent.flatMap (fun c ↦
      [.sign session c.endpoint rpcType input (.ok c.relayReq),
        .send c.url c.relayReq rpcType c.result])

section Contacts

variable {γ : Type} {session : Session} {rpcType : RPCType} {input : RelayInput}

private theorem ContactsExactly.nil :
    ContactsExactly session rpcType input [] ([] : List (Event γ)) := ⟨[], rfl, by simp, rfl⟩

private theorem ContactsExactly.append {eps₁ eps₂ : List Endpoint} {es₁ es₂ : List (Event γ)}
    (h₁ : ContactsExactly session rpcType input eps₁ es₁)
    (h₂ : ContactsExactly session rpcType input eps₂ es₂) :
    ContactsExactly session rpcType input (eps₁ ++ eps₂) (es₁ ++ es₂) := by
  obtain ⟨sent₁, heps₁, hurl₁, hes₁⟩ := h₁
  obtain ⟨sent₂, heps₂, hurl₂, hes₂⟩ := h₂
  refine ⟨sent₁ ++ sent₂, ?_, List.forall_mem_append.mpr ⟨hurl₁, hurl₂⟩, ?_⟩
  · rw [List.map_append, List.filter_append, heps₁, heps₂]
  · rw [List.filter_append, List.flatMap_append, hes₁, hes₂]

/-- An endpoint without a URL is passed over. -/
theorem ContactsExactly.of_noURL {ep : Endpoint} (h : ep.url rpcType = none) :
    ContactsExactly session rpcType input [ep] ([] : List (Event γ)) := by
  have hs : ep.supportsType rpcType = false := by
    unfold Endpoint.url at h
    simp [Endpoint.supportsType, h]
  exact ⟨[], by simp [hs], by simp, rfl⟩

/-- An endpoint that was signed for and sent to, whatever came of it. -/
theorem ContactsExactly.of_sent {ep : Endpoint} {url : String} (h : ep.url rpcType = some url)
    (relayReq : Bytes) (result : Except Err Bytes) {rest : List (Event γ)}
    (hrest : ∀ ev ∈ rest, ev.isSign = false ∧ ev.isSend = false) :
    ContactsExactly session rpcType input [ep]
      (.sign session ep rpcType input (.ok relayReq) :: .send url relayReq rpcType result ::
        rest) := by
  have hs : ep.supportsType rpcType = true := by
    unfold Endpoint.url at h
    simp [Endpoint.supportsType, h]
  have hnil : rest.filter (fun ev ↦ ev.isSign || ev.isSend) = [] := by
    rw [List.filter_eq_nil_iff]
    intro ev hev
    simp [hrest ev hev]
  refine ⟨[⟨ep, url, relayReq, result⟩], by simp [hs], by simpa using h, ?_⟩
  rw [List.filter_cons_of_pos rfl, List.filter_cons_of_pos rfl, hnil]
  rfl

end Contacts

namespace Relayer

variable {π σ γ : Type} (r : Relayer σ) (serviceID : ServiceID) (rpcType : RPCType)
  (input : RelayInput) (session : Session)

/-- How an endpoint does in a world, and the world it leaves behind. -/
def verdict (ep : Endpoint) (s : σ) : Verdict × σ :=
  match ep.url rpcType with
  | none => (.noURL, s)
  | some url =>
    match r.signer session ep rpcType input s with
    | (.error e, s₁) => (.unsigned e, s₁)
    | (.ok relayReq, s₁) =>
      match r.sender url relayReq rpcType s₁ with
      | (.error e, s₂) =>
        (.unsent e, r.afterObserve serviceID rpcType ep.supplier false (some e) s₂)
      | (.ok respBz, s₂) =>
        match r.validator ep.supplier respBz s₂ with
        | (.error e, s₃) =>
          (.invalid e, r.afterObserve serviceID rpcType ep.supplier false (some e) s₃)
        | (.ok result, s₃) =>
          (.good result, r.afterObserve serviceID rpcType ep.supplier true none s₃)

/-- How the endpoint at an index does after those before it. -/
def verdictAt : List Endpoint → σ → Nat → Option Verdict
  | [], _, _ => none
  | ep :: _, s, 0 => some (r.verdict serviceID rpcType input session ep s).1
  | ep :: eps, s, i + 1 => verdictAt eps (r.verdict serviceID rpcType input session ep s).2 i

/-- No endpoint before the index validates, and none fails to sign. -/
def Undecided (eps : List Endpoint) (s : σ) (i : Nat) : Prop :=
  ∀ j < i, (∀ result, r.verdictAt serviceID rpcType input session eps s j ≠ some (.good result)) ∧
    ∀ e, r.verdictAt serviceID rpcType input session eps s j ≠ some (.unsigned e)

variable {r serviceID rpcType input session}

private theorem observed_quiet {supplier : EndpointAddr} {success : Bool} {err : Option Err} :
    ∀ ev ∈ (r.observed serviceID rpcType supplier success err : List (Event γ)),
      ev.isSign = false ∧ ev.isSend = false := by
  unfold observed
  cases r.selector.observer with
  | none => simp
  | some f => simp [Event.isSign, Event.isSend]

/-- An endpoint that fails, but not in signing, hands over to the next. -/
theorem relayAttempt_of_failure {ep : Endpoint} {s : σ}
    (hgood : ∀ result, (r.verdict serviceID rpcType input session ep s).1 ≠ .good result)
    (hsign : ∀ e, (r.verdict serviceID rpcType input session ep s).1 ≠ .unsigned e) :
    ∃ (es : List (Event γ)) (e f : Err),
      (r.relayAttempt serviceID rpcType input session ep s :
        List (Event γ) × σ × Except π (Attempt Err (Except Err RelayResult))) =
        (es, (r.verdict serviceID rpcType input session ep s).2, .ok (.next e)) ∧
      (r.verdict serviceID rpcType input session ep s).1.failure? = some f ∧ f.Wraps e ∧
      ContactsExactly session rpcType input [ep] es := by
  cases r.relayAttempt_run serviceID rpcType input session ep s with
  | noURL absent run_eq =>
    have hv : r.verdict serviceID rpcType input session ep s = (.noURL, s) := by
      simp only [verdict, absent]
    rw [run_eq, hv]
    exact ⟨[], errNoEndpoint, errNoEndpoint, rfl, rfl, .refl, .of_noURL absent⟩
  | unsigned url e s' found signed run_eq =>
    exact absurd (by simp only [verdict, found, signed]) (hsign e)
  | unsent url relayReq e s₁ s₂ found signed sent run_eq =>
    have hv : r.verdict serviceID rpcType input session ep s = (.unsent e,
        r.afterObserve serviceID rpcType ep.supplier false (some e) s₂) := by
      simp only [verdict, found, signed, sent]
    rw [run_eq, hv]
    exact ⟨_, _, e, rfl, rfl, GoError.Wraps.refl.errorf _, .of_sent found _ _ observed_quiet⟩
  | invalid url relayReq respBz e s₁ s₂ s₃ found signed sent validated run_eq =>
    have hv : r.verdict serviceID rpcType input session ep s = (.invalid e,
        r.afterObserve serviceID rpcType ep.supplier false (some e) s₃) := by
      simp only [verdict, found, signed, sent, validated]
    rw [run_eq, hv]
    refine ⟨_, _, e, rfl, rfl, GoError.Wraps.refl.errorf _, .of_sent found _ _ ?_⟩
    exact List.forall_mem_cons.mpr ⟨⟨rfl, rfl⟩, observed_quiet⟩
  | valid url relayReq respBz result s₁ s₂ s₃ found signed sent validated run_eq =>
    exact absurd (by simp only [verdict, found, signed, sent, validated]) (hgood result)

/-- A good endpoint ends the call with its result. -/
theorem relayAttempt_of_good {ep : Endpoint} {s : σ} {result : RelayResult}
    (h : (r.verdict serviceID rpcType input session ep s).1 = .good result) :
    ∃ (es : List (Event γ)) (s' : σ),
      (r.relayAttempt serviceID rpcType input session ep s :
        List (Event γ) × σ × Except π (Attempt Err (Except Err RelayResult))) =
        (es, s', .ok (.finish (.ok result))) ∧ ContactsExactly session rpcType input [ep] es := by
  cases r.relayAttempt_run serviceID rpcType input session ep s with
  | noURL absent run_eq => simp [verdict, absent] at h
  | unsigned url e s' found signed run_eq => simp [verdict, found, signed] at h
  | unsent url relayReq e s₁ s₂ found signed sent run_eq => simp [verdict, found, signed, sent] at h
  | invalid url relayReq respBz e s₁ s₂ s₃ found signed sent validated run_eq =>
    simp [verdict, found, signed, sent, validated] at h
  | valid url relayReq respBz result' s₁ s₂ s₃ found signed sent validated run_eq =>
    simp only [verdict, found, signed, sent, validated, Verdict.good.injEq] at h
    subst h
    rw [run_eq]
    refine ⟨_, _, rfl, .of_sent found _ _ ?_⟩
    exact List.forall_mem_cons.mpr ⟨⟨rfl, rfl⟩, observed_quiet⟩

/-- An endpoint that cannot be signed for ends the call. -/
theorem relayAttempt_of_unsigned {ep : Endpoint} {s : σ} {e : Err}
    (h : (r.verdict serviceID rpcType input session ep s).1 = .unsigned e) :
    ∃ s', (r.relayAttempt serviceID rpcType input session ep s :
        List (Event γ) × σ × Except π (Attempt Err (Except Err RelayResult))) =
      ([.sign session ep rpcType input (.error e)], s',
        .ok (.finish (.error (.errorf "relay: sign failed: " e)))) := by
  cases r.relayAttempt_run serviceID rpcType input session ep s with
  | noURL absent run_eq => simp [verdict, absent] at h
  | unsigned url e' s' found signed run_eq =>
    simp only [verdict, found, signed, Verdict.unsigned.injEq] at h
    subst h
    exact ⟨s', run_eq⟩
  | unsent url relayReq e s₁ s₂ found signed sent run_eq => simp [verdict, found, signed, sent] at h
  | invalid url relayReq respBz e s₁ s₂ s₃ found signed sent validated run_eq =>
    simp [verdict, found, signed, sent, validated] at h
  | valid url relayReq respBz result' s₁ s₂ s₃ found signed sent validated run_eq =>
    simp [verdict, found, signed, sent, validated] at h

/-- As long as nothing is decided, the endpoints are contacted one after another, and what is
left to do is to try the others, knowing the failure of the last. -/
theorem skips_of_undecided {eps : List Endpoint} {s : σ} {i : Nat} (hi : i ≤ eps.length)
    (h : r.Undecided serviceID rpcType input session eps s i) (last : Option Err) :
    ∃ (es : List (Event γ)) (s' : σ) (last' : Option Err),
      Skips (r.relayAttempt serviceID rpcType input session :
        Endpoint → Exec π σ (Event γ) (Attempt Err (Except Err RelayResult)))
        s last (eps.take i) es s' last' ∧
      ContactsExactly session rpcType input (eps.take i) es ∧
      r.verdictAt serviceID rpcType input session eps s i =
        r.verdictAt serviceID rpcType input session (eps.drop i) s' 0 ∧
      (i = 0 → last' = last) ∧
      ∀ k, i = k + 1 → ∃ v f e, r.verdictAt serviceID rpcType input session eps s k = some v ∧
        v.failure? = some f ∧ last' = some e ∧ f.Wraps e := by
  induction i generalizing eps s last with
  | zero => exact ⟨[], s, last, .nil s last, .nil, rfl, fun _ ↦ rfl, fun k hk ↦ by omega⟩
  | succ i ih =>
    cases eps with
    | nil => simp at hi
    | cons ep eps =>
      have hhead := h 0 (by omega)
      simp only [verdictAt, ne_eq, Option.some.injEq] at hhead
      obtain ⟨es₁, e, f, hrun, hf, hwraps, hcontacts⟩ :=
        @relayAttempt_of_failure π σ γ r serviceID rpcType input session ep s hhead.1 hhead.2
      have htail : r.Undecided serviceID rpcType input session eps
          (r.verdict serviceID rpcType input session ep s).2 i :=
        fun j hj ↦ h (j + 1) (by omega)
      obtain ⟨es₂, s', last', hskips, hcontacts', hat, hzero, hsucc⟩ :=
        ih (Nat.le_of_succ_le_succ hi) htail (some e)
      refine ⟨es₁ ++ es₂, s', last', .cons hrun hskips, hcontacts.append hcontacts', hat, by simp, ?_⟩
      intro k hk
      cases k with
      | zero =>
        have hi0 : i = 0 := by omega
        exact ⟨_, f, e, rfl, hf, hzero hi0, hwraps⟩
      | succ k => exact hsucc k (by omega)

/-- The loop is left with the endpoints from the index on. -/
private theorem tries_of_undecided {ordered : List Endpoint} {n i : Nat} {s₂ : σ} (hi : i ≤ n)
    (hn : n ≤ ordered.length)
    (h : r.Undecided serviceID rpcType input session ordered s₂ i)
    {attempt : Endpoint → Exec π σ (Event γ) (Attempt Err (Except Err RelayResult))}
    (hattempt : attempt = r.relayAttempt serviceID rpcType input session) :
    ∃ (es : List (Event γ)) (s' : σ) (last' : Option Err),
      tryEach attempt none (ordered.take n) s₂ =
        (es ++ (tryEach attempt last' ((ordered.drop i).take (n - i)) s').1,
          (tryEach attempt last' ((ordered.drop i).take (n - i)) s').2) ∧
      ContactsExactly session rpcType input (ordered.take i) es ∧
      r.verdictAt serviceID rpcType input session ordered s₂ i =
        r.verdictAt serviceID rpcType input session (ordered.drop i) s' 0 ∧
      ∀ k, i = k + 1 → ∃ v f e, r.verdictAt serviceID rpcType input session ordered s₂ k = some v ∧
        v.failure? = some f ∧ last' = some e ∧ f.Wraps e := by
  subst hattempt
  obtain ⟨es, s', last', hskips, hcontacts, hat, -, hlast⟩ :=
    @skips_of_undecided π σ γ r serviceID rpcType input session ordered s₂ i (hi.trans hn) h none
  have hsplit : ordered.take n = ordered.take i ++ (ordered.drop i).take (n - i) := by
    rw [← List.take_add, Nat.add_sub_cancel' hi]
  rw [hsplit]
  exact ⟨es, s', last', hskips.tryEach_append _, hcontacts, hat, hlast⟩

/-- With a verdict at the index there is an endpoint there, and it is tried next. -/
private theorem exists_next {ordered : List Endpoint} {n i : Nat} {s' : σ} {v : Verdict}
    (hi : i < n) (h : r.verdictAt serviceID rpcType input session (ordered.drop i) s' 0 = some v) :
    ∃ ep rest, ordered[i]? = some ep ∧ ordered.take (i + 1) = ordered.take i ++ [ep] ∧
      (ordered.drop i).take (n - i) = ep :: rest ∧
      (r.verdict serviceID rpcType input session ep s').1 = v := by
  cases hd : ordered.drop i with
  | nil => simp [hd, verdictAt] at h
  | cons ep eps =>
    have hget : ordered[i]? = some ep := by
      rw [← List.head?_drop, hd]
      rfl
    obtain ⟨m, hm⟩ : ∃ m, n - i = m + 1 := ⟨n - i - 1, by omega⟩
    rw [hd] at h
    refine ⟨ep, eps.take m, hget, ?_, ?_, Option.some.inj h⟩
    · rw [List.take_add_one, hget]
      rfl
    · rw [hm, List.take_succ_cons]

/-- `Relay` is the first good supplier within the cap. -/
theorem relay_first_good (r : Relayer σ) (ctx : Context) (serviceID : ServiceID)
    (rpcType : RPCType) (input : RelayInput) (s s₁ s₂ : σ) (session : Session)
    (ordered : List Endpoint) (fetched : r.sessions serviceID s = (.ok session, s₁))
    (selected : r.selector.select ctx serviceID session.endpoints rpcType s₁ =
      (.ok ordered, s₂)) :
    let n := attemptCap r.maxAttempts ordered.length
    let run := (r.relay ctx serviceID rpcType input : Exec π σ (Event γ) _) s
    let verdictAt := r.verdictAt serviceID rpcType input session ordered s₂
    let undecided := r.Undecided serviceID rpcType input session ordered s₂
    (∀ i result, i < n → verdictAt i = some (.good result) → undecided i →
      run.2.2 = .ok (.ok result) ∧
        ContactsExactly session rpcType input (ordered.take (i + 1)) run.1) ∧
    (∀ i e, i < n → verdictAt i = some (.unsigned e) → undecided i →
      ∃ e' es ep, run.2.2 = .ok (.error e') ∧ e.Wraps e' ∧ ordered[i]? = some ep ∧
        run.1 = es ++ [.sign session ep rpcType input (.error e)] ∧
        ContactsExactly session rpcType input (ordered.take i) es) ∧
    (ordered ≠ [] → undecided n →
      ∃ v f e', verdictAt (n - 1) = some v ∧ v.failure? = some f ∧
        run.2.2 = .ok (.error e') ∧ f.Wraps e' ∧
        ContactsExactly session rpcType input (ordered.take n) run.1) ∧
    (ordered = [] → run.1 = [] ∧ run.2.2 = .ok (.error errNoEndpoint)) := by
  intro n run verdictAt undecided
  have hn : n ≤ ordered.length := attemptCap_le _ _
  obtain ⟨attempt, hattempt⟩ : ∃ attempt : Endpoint → Exec π σ (Event γ) _,
      attempt = r.relayAttempt serviceID rpcType input session := ⟨_, rfl⟩
  have hrun (he : ordered ≠ []) : run = ((tryEach attempt none (ordered.take n) s₂).1,
      (tryEach attempt none (ordered.take n) s₂).2.1,
      (tryEach attempt none (ordered.take n) s₂).2.2.map (finishTries n)) := by
    rw [hattempt]
    exact r.withFailover_tried fetched selected he (r.relayAttempt serviceID rpcType input) _ rfl
  -- The attempt at an index nobody before has decided; if it ends the loop, so it does the run.
  have hstops {i : Nat} {v : Verdict} (hi : i < n) (hat : verdictAt i = some v)
      (hundecided : undecided i) : ∃ ep es s', ordered[i]? = some ep ∧
        ordered.take (i + 1) = ordered.take i ++ [ep] ∧
        ContactsExactly session rpcType input (ordered.take i) es ∧
        (r.verdict serviceID rpcType input session ep s').1 = v ∧
        ∀ es' s'' result, attempt ep s' = (es', s'', .ok (.finish result)) →
          run = (es ++ es', s'', .ok result) := by
    obtain ⟨es, s', last', htries, hcontacts, hnow, -⟩ :=
      tries_of_undecided hi.le hn hundecided hattempt
    obtain ⟨ep, rest, hget, htake, hnext, hv⟩ := exists_next hi (hnow.symm.trans hat)
    refine ⟨ep, es, s', hget, htake, hcontacts, hv, ?_⟩
    intro es' s'' result hfinal
    have he : ordered ≠ [] := by
      rintro rfl
      simp at hget
    rw [hnext, tryEach_finish hfinal] at htries
    rw [hrun he, htries]
    rfl
  refine ⟨?_, ?_, ?_, ?_⟩
  · intro i result hi hgood hundecided
    obtain ⟨ep, es, s', -, htake, hcontacts, hv, hends⟩ := hstops hi hgood hundecided
    obtain ⟨es', s'', hfinal, hcontacts'⟩ := relayAttempt_of_good hv
    rw [← hattempt] at hfinal
    rw [hends es' s'' _ hfinal, htake]
    exact ⟨rfl, hcontacts.append hcontacts'⟩
  · intro i e hi hunsigned hundecided
    obtain ⟨ep, es, s', hget, -, hcontacts, hv, hends⟩ := hstops hi hunsigned hundecided
    obtain ⟨s'', hfinal⟩ := relayAttempt_of_unsigned hv
    rw [← hattempt] at hfinal
    rw [hends _ s'' _ hfinal]
    exact ⟨_, es, ep, rfl, GoError.Wraps.refl.errorf _, hget, rfl, hcontacts⟩
  · intro he hundecided
    obtain ⟨es, s', last', htries, hcontacts, -, hlast⟩ :=
      tries_of_undecided le_rfl hn hundecided hattempt
    have hpos : 0 < n := attemptCap_pos _ _ (List.length_pos_of_ne_nil he)
    obtain ⟨v, f, e, hv, hf, rfl, hwraps⟩ := hlast (n - 1) (by omega)
    rw [Nat.sub_self, List.take_zero] at htries
    rw [hrun he, htries]
    refine ⟨v, f, _, hv, hf, rfl, hwraps.errorf _, ?_⟩
    simpa [tryEach, Exec.pure_run] using hcontacts
  · intro he
    subst he
    have hnil : run = ([], s₂, .ok (.error errNoEndpoint)) :=
      r.withFailover_nil fetched selected (r.relayAttempt serviceID rpcType input)
    rw [hnil]
    exact ⟨rfl, rfl⟩

/-- One supplier without a URL, one that cannot be reached, and one that answers. -/
def threeSuppliers : List Endpoint :=
  [⟨"pokt1a", fun _ ↦ none⟩, ⟨"pokt1b", fun _ ↦ some "https://b.example"⟩,
    ⟨"pokt1c", fun _ ↦ some "https://c.example"⟩]

/-- Of three suppliers the second cannot be reached. -/
def thirdAnswers : Relayer Unit :=
  scripted threeSuppliers (fun url ↦
    if url = "https://b.example" then .error (.text "connection refused")
    else .ok ⟨.final [1] .eof, [], 200⟩)

/-- The first good answer is returned. -/
theorem relay_first_good_third :
    (thirdAnswers.relay {} "eth" .jsonRPC ⟨"POST", "/", [], []⟩ :
      Exec Empty Unit (Event Empty) _).outcome () = .ok (.ok ⟨200, [], [1]⟩) := by
  have hfirst : thirdAnswers.Undecided "eth" .jsonRPC ⟨"POST", "/", [], []⟩
      ⟨"session", "eth", "app", 1, threeSuppliers, none⟩ threeSuppliers () 2 := by
    intro j hj
    match j, hj with
    | 0, _ => exact ⟨fun result ↦ nofun, fun e ↦ nofun⟩
    | 1, _ => exact ⟨fun result ↦ nofun, fun e ↦ nofun⟩
  exact ((relay_first_good thirdAnswers {} "eth" .jsonRPC ⟨"POST", "/", [], []⟩ () () () _
    threeSuppliers rfl rfl).1 2 _ (by decide) rfl hfirst).1

end Relayer
end PocketAp.Relay
