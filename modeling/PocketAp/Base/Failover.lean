import PocketAp.Base.Exec

/-!
# Trying candidates in order

Library `Base`. `tryEach` runs an attempt on one candidate after another until one of them
finishes. `tryEach_tried` says what every run of it looks like: some attempts that asked
for the next candidate, and then at most one that ended the run.
-/

namespace PocketAp.Base

/-- What one attempt decides: go on to the next candidate, or finish. -/
inductive Attempt (κ ρ : Type) where
  | next (reason : κ)
  | finish (result : ρ)

/-- The candidates in order until one finishes; otherwise the last reason to go on. -/
def tryEach {π σ ε α κ ρ : Type} (attempt : α → Exec π σ ε (Attempt κ ρ)) :
    Option κ → List α → Exec π σ ε (Except (Option κ) ρ)
  | last, [] => pure (.error last)
  | _, x :: xs => do
    match ← attempt x with
    | .next e => tryEach attempt (some e) xs
    | .finish r => pure (.ok r)

section Runs

variable {π σ ε α κ ρ : Type} {attempt : α → Exec π σ ε (Attempt κ ρ)}

/-- After a failed attempt the rest is tried. -/
theorem tryEach_next {x : α} {xs : List α} {s s' : σ} {es : List ε} {e : κ}
    (h : attempt x s = (es, s', .ok (.next e))) (last : Option κ) :
    tryEach attempt last (x :: xs) s =
      (es ++ (tryEach attempt (some e) xs s').1, (tryEach attempt (some e) xs s').2) :=
  Exec.bind_run_ok h _

/-- An attempt that finishes ends the loop. -/
theorem tryEach_finish {x : α} {xs : List α} {s s' : σ} {es : List ε} {r : ρ}
    (h : attempt x s = (es, s', .ok (.finish r))) (last : Option κ) :
    tryEach attempt last (x :: xs) s = (es, s', .ok (.ok r)) := by
  have hb : tryEach attempt last (x :: xs) s = (es ++ [], s', .ok (.ok r)) :=
    Exec.bind_run_ok h _
  rw [hb, List.append_nil]

/-- A panic ends the loop. -/
theorem tryEach_panic {x : α} {xs : List α} {s s' : σ} {es : List ε} {p : π}
    (h : attempt x s = (es, s', .error p)) (last : Option κ) :
    tryEach attempt last (x :: xs) s = (es, s', .error p) :=
  Exec.bind_run_error h _

/-- A run in which every candidate of the list asked for the next one. -/
inductive Skips (attempt : α → Exec π σ ε (Attempt κ ρ)) :
    σ → Option κ → List α → List ε → σ → Option κ → Prop where
  | nil (s : σ) (last : Option κ) : Skips attempt s last [] [] s last
  | cons {s s' s'' : σ} {last last' : Option κ} {x : α} {xs : List α} {es es' : List ε} {e : κ}
      (head : attempt x s = (es, s', .ok (.next e)))
      (tail : Skips attempt s' (some e) xs es' s'' last') :
      Skips attempt s last (x :: xs) (es ++ es') s'' last'

/-- What every run of `tryEach` looks like. -/
inductive Tried (attempt : α → Exec π σ ε (Attempt κ ρ)) (s : σ) (last : Option κ)
    (xs : List α) (run : List ε × σ × Except π (Except (Option κ) ρ)) : Prop where
  | exhausted (es : List ε) (s' : σ) (last' : Option κ) (skips : Skips attempt s last xs es s' last')
      (run_eq : run = (es, s', .ok (.error last')))
  | finished (before after : List α) (x : α) (es es' : List ε) (s' s'' : σ) (last' : Option κ)
      (r : ρ) (split : xs = before ++ x :: after) (skips : Skips attempt s last before es s' last')
      (final : attempt x s' = (es', s'', .ok (.finish r)))
      (run_eq : run = (es ++ es', s'', .ok (.ok r)))
  | panicked (before after : List α) (x : α) (es es' : List ε) (s' s'' : σ) (last' : Option κ)
      (p : π) (split : xs = before ++ x :: after) (skips : Skips attempt s last before es s' last')
      (final : attempt x s' = (es', s'', .error p))
      (run_eq : run = (es ++ es', s'', .error p))

/-- What the loop does to a list of candidates. -/
theorem tryEach_tried (attempt : α → Exec π σ ε (Attempt κ ρ)) (s : σ) (last : Option κ)
    (xs : List α) : Tried attempt s last xs (tryEach attempt last xs s) := by
  induction xs generalizing s last with
  | nil => exact .exhausted [] s last (.nil s last) rfl
  | cons x xs ih =>
    rcases h : attempt x s with ⟨es, s', p | e | r⟩
    · exact .panicked [] xs x [] es s s' last p rfl (.nil s last) h (tryEach_panic h last)
    · rw [tryEach_next h last]
      cases ih s' (some e) with
      | exhausted es' s'' last' skips run_eq =>
        exact .exhausted _ s'' last' (.cons h skips) (by rw [run_eq])
      | finished before after y es' es'' s₁ s₂ last' r split skips final run_eq =>
        exact .finished (x :: before) after y _ es'' s₁ s₂ last' r (by rw [split]; rfl)
          (.cons h skips) final (by rw [run_eq, List.append_assoc])
      | panicked before after y es' es'' s₁ s₂ last' p split skips final run_eq =>
        exact .panicked (x :: before) after y _ es'' s₁ s₂ last' p (by rw [split]; rfl)
          (.cons h skips) final (by rw [run_eq, List.append_assoc])
    · exact .finished [] xs x [] es s s' last r rfl (.nil s last) h (tryEach_finish h last)

/-- After candidates that were skipped the run goes on with the others. -/
theorem Skips.tryEach_append {s s' : σ} {last last' : Option κ} {xs : List α} {es : List ε}
    (h : Skips attempt s last xs es s' last') (ys : List α) :
    tryEach attempt last (xs ++ ys) s =
      (es ++ (tryEach attempt last' ys s').1, (tryEach attempt last' ys s').2) := by
  induction h with
  | nil => rfl
  | cons head tail ih => rw [List.cons_append, tryEach_next head, ih, List.append_assoc]

/-- Calls of skipped attempts inherit what holds of every single skipped attempt. -/
theorem Skips.forall_events {s s' : σ} {last last' : Option κ} {xs : List α} {es : List ε}
    (h : Skips attempt s last xs es s' last') (Q : ε → Prop)
    (hQ : ∀ x ∈ xs, ∀ s₁ es₁ s₂ e, attempt x s₁ = (es₁, s₂, .ok (.next e)) → ∀ ev ∈ es₁, Q ev) :
    ∀ ev ∈ es, Q ev := by
  induction h with
  | nil => simp
  | cons head tail ih =>
    intro ev hev
    rcases List.mem_append.mp hev with hev | hev
    · exact hQ _ List.mem_cons_self _ _ _ _ head ev hev
    · exact ih (fun x hx ↦ hQ x (List.mem_cons_of_mem _ hx)) ev hev

/-- A property that every skipped attempt keeps holds after all of them. -/
theorem Skips.keeps {I : σ → Prop} {s s' : σ} {last last' : Option κ} {xs : List α} {es : List ε}
    (h : Skips attempt s last xs es s' last')
    (hI : ∀ x s₁ es₁ s₂ e, attempt x s₁ = (es₁, s₂, .ok (.next e)) → I s₁ → I s₂)
    (hs : I s) : I s' := by
  induction h with
  | nil => exact hs
  | cons head tail ih => exact ih (hI _ _ _ _ _ head hs)

/-- A call of a run is one of an attempt, and the whole attempt is part of the run. -/
theorem exists_attempt_tryEach {xs : List α} {s : σ} {last : Option κ} {ev : ε}
    (hev : ev ∈ (tryEach attempt last xs s).1) :
    ∃ x ∈ xs, ∃ s', ev ∈ (attempt x s').1 ∧
      (attempt x s').1 <:+: (tryEach attempt last xs s).1 := by
  induction xs generalizing s last with
  | nil => cases hev
  | cons x xs ih =>
    rcases ha : attempt x s with ⟨es, s', p | e | r⟩
    · rw [tryEach_panic ha] at hev ⊢
      exact ⟨x, List.mem_cons_self, s, by rwa [ha], by simp only [ha, List.infix_rfl]⟩
    · rw [tryEach_next ha] at hev ⊢
      rcases List.mem_append.mp hev with hev | hev
      · exact ⟨x, List.mem_cons_self, s, by rwa [ha], by
          rw [ha]
          exact (List.prefix_append _ _).isInfix⟩
      · obtain ⟨y, hy, s'', hev, hinfix⟩ := ih hev
        exact ⟨y, List.mem_cons_of_mem x hy, s'', hev,
          hinfix.trans (List.suffix_append _ _).isInfix⟩
    · rw [tryEach_finish ha] at hev ⊢
      exact ⟨x, List.mem_cons_self, s, by rwa [ha], by simp only [ha, List.infix_rfl]⟩

/-- Calls of a whole run inherit what holds of every single attempt. -/
theorem forall_events_tryEach {xs : List α} (Q : ε → Prop)
    (hQ : ∀ x ∈ xs, ∀ s, ∀ ev ∈ (attempt x s).1, Q ev) (s : σ) (last : Option κ) :
    ∀ ev ∈ (tryEach attempt last xs s).1, Q ev := by
  intro ev hev
  obtain ⟨x, hx, s', hev, -⟩ := exists_attempt_tryEach hev
  exact hQ x hx s' ev hev

/-- A call of a run, with the calls before it, inherits what holds of every single attempt, if
earlier attempts do not matter. -/
theorem forall_splits_tryEach {xs : List α} (Q : List ε → ε → Prop)
    (hmono : ∀ before pre ev, Q pre ev → Q (before ++ pre) ev)
    (hQ : ∀ x ∈ xs, ∀ s pre ev post, (attempt x s).1 = pre ++ ev :: post → Q pre ev)
    (s : σ) (last : Option κ) (pre : List ε) (ev : ε) (post : List ε)
    (h : (tryEach attempt last xs s).1 = pre ++ ev :: post) : Q pre ev := by
  induction xs generalizing s last pre with
  | nil => exact absurd h.symm (by simp [tryEach, Exec.pure_run])
  | cons x xs ih =>
    have hx := hQ x List.mem_cons_self s
    rcases ha : attempt x s with ⟨es, s', p | e | r⟩
    · rw [tryEach_panic ha] at h
      rw [ha] at hx
      exact hx pre ev post h
    · rw [tryEach_next ha] at h
      rw [ha] at hx
      have hxs := ih (fun y hy ↦ hQ y (List.mem_cons_of_mem x hy)) s' (some e)
      rcases List.append_eq_append_iff.mp h with ⟨l, rfl, hl⟩ | ⟨l, hl, hr⟩
      · exact hmono es l ev (hxs l hl)
      · cases l with
        | nil =>
          rw [List.append_nil] at hl
          subst hl
          have hq := hmono es [] ev (hxs [] hr.symm)
          rwa [List.append_nil] at hq
        | cons y l =>
          cases hr
          exact hx pre ev l hl
    · rw [tryEach_finish ha] at h
      rw [ha] at hx
      exact hx pre ev post h

/-- With more candidates to fall back on, a run starts the same way. -/
theorem events_tryEach_append (s : σ) (last : Option κ) (xs ys : List α) :
    (tryEach attempt last xs s).1 <+: (tryEach attempt last (xs ++ ys) s).1 := by
  induction xs generalizing s last with
  | nil => exact List.nil_prefix
  | cons x xs ih =>
    rcases h : attempt x s with ⟨es, s', p | e | r⟩
    · rewrite [List.cons_append, tryEach_panic h, tryEach_panic h]
      exact List.prefix_refl es
    · rw [List.cons_append, tryEach_next h, tryEach_next h]
      exact (List.prefix_append_right_inj es).mpr (ih s' (some e))
    · rewrite [List.cons_append, tryEach_finish h, tryEach_finish h]
      exact List.prefix_refl es

/-- A property of records that appending keeps holds of a whole run without a panic if it holds
of every such attempt. -/
theorem record_tryEach {P : List ε → Prop} (hnil : P [])
    (happend : ∀ es es', P es → P es' → P (es ++ es'))
    (hattempt : ∀ x s es s' a, attempt x s = (es, s', .ok a) → P es) {s s' : σ} {last : Option κ}
    {xs : List α} {es : List ε} {out : Except (Option κ) ρ}
    (h : tryEach attempt last xs s = (es, s', .ok out)) : P es := by
  induction xs generalizing s last es with
  | nil =>
    cases h
    exact hnil
  | cons x xs ih =>
    rcases ha : attempt x s with ⟨es₁, s₁, p | e | r⟩
    · rw [tryEach_panic ha] at h
      cases h
    · rw [tryEach_next ha] at h
      rcases hrest : tryEach attempt (some e) xs s₁ with ⟨es₂, s₂, out₂⟩
      rw [hrest] at h
      simp only [Prod.mk.injEq] at h
      obtain ⟨rfl, rfl, rfl⟩ := h
      exact happend es₁ es₂ (hattempt x s es₁ s₁ _ ha) (ih hrest)
    · rw [tryEach_finish ha] at h
      cases h
      exact hattempt x s _ _ _ ha

end Runs

/-- Projecting the record of the loop is projecting that of every attempt. -/
theorem project_tryEach {π σ ε ε' α κ ρ : Type} (f : ε → Option ε')
    (attempt : α → Exec π σ ε (Attempt κ ρ)) (last : Option κ) (xs : List α) :
    Exec.project f (tryEach attempt last xs) =
      tryEach (fun x ↦ Exec.project f (attempt x)) last xs := by
  induction xs generalizing last with
  | nil => rfl
  | cons x xs ih =>
    simp only [tryEach]
    rw [Exec.project_bind]
    congr 1
    funext a
    cases a with
    | next e => exact ih (some e)
    | finish r => rfl

/-- A loop follows its calls if every attempt does. -/
theorem follows_tryEach {π σ τ ε α κ ρ : Type} {get : σ → τ} {step : τ → ε → τ}
    {attempt : α → Exec π σ ε (Attempt κ ρ)} (h : ∀ x, Exec.Follows get step (attempt x))
    (last : Option κ) (xs : List α) : Exec.Follows get step (tryEach attempt last xs) := by
  induction xs generalizing last with
  | nil => exact Exec.follows_pure _
  | cons x xs ih =>
    apply (h x).bind
    intro a
    cases a with
    | next e => exact ih (some e)
    | finish r => exact Exec.follows_pure _

/-! ### Caps on the number of attempts -/

/-- Number of attempts allowed by a configured cap; without a positive one, all. -/
def attemptCap (maxAttempts : Int) (n : Nat) : Nat :=
  if maxAttempts ≤ 0 ∨ (n : Int) < maxAttempts then n else maxAttempts.toNat

/-- No more attempts than candidates. -/
theorem attemptCap_le (maxAttempts : Int) (n : Nat) : attemptCap maxAttempts n ≤ n := by
  unfold attemptCap
  split <;> omega

/-- At least one attempt, whatever the configuration says. -/
theorem attemptCap_pos (maxAttempts : Int) (n : Nat) (h : 0 < n) :
    0 < attemptCap maxAttempts n := by
  unfold attemptCap
  split <;> omega

/-- More candidates never cut short the attempts made with fewer. -/
theorem take_attemptCap_append {α : Type} (maxAttempts : Int) (xs ys : List α) :
    ∃ zs, (xs ++ ys).take (attemptCap maxAttempts (xs ++ ys).length) =
      xs.take (attemptCap maxAttempts xs.length) ++ zs := by
  have hle : attemptCap maxAttempts xs.length ≤ attemptCap maxAttempts (xs ++ ys).length := by
    rw [List.length_append]
    unfold attemptCap
    split <;> split <;> omega
  have hxs := attemptCap_le maxAttempts xs.length
  have hp : xs.take (attemptCap maxAttempts xs.length) <+:
      (xs ++ ys).take (attemptCap maxAttempts (xs ++ ys).length) := by
    have ht : (xs ++ ys).take (attemptCap maxAttempts xs.length) =
        xs.take (attemptCap maxAttempts xs.length) := List.take_append_of_le_length hxs
    rw [← ht]
    exact List.take_prefix_take_left hle
  obtain ⟨zs, hz⟩ := hp
  exact ⟨zs, hz.symm⟩

/-! ### Two loops in lockstep -/

/-- Two attempts agree from states related by `R`: both go on, again from related states, or
both finish. -/
structure Lockstep {π₁ π₂ σ₁ σ₂ ε₁ ε₂ α κ₁ κ₂ ρ₁ ρ₂ : Type} (R : σ₁ → σ₂ → Prop)
    (next : List ε₁ → List ε₂ → Prop) (finish : List ε₁ → ρ₁ → List ε₂ → ρ₂ → Prop)
    (a₁ : α → Exec π₁ σ₁ ε₁ (Attempt κ₁ ρ₁)) (a₂ : α → Exec π₂ σ₂ ε₂ (Attempt κ₂ ρ₂)) :
    Prop where
  step : ∀ x s₁ s₂, R s₁ s₂ →
    (∃ es₁ es₂ t₁ t₂ e₁ e₂, a₁ x s₁ = (es₁, t₁, .ok (.next e₁)) ∧
      a₂ x s₂ = (es₂, t₂, .ok (.next e₂)) ∧ R t₁ t₂ ∧ next es₁ es₂) ∨
    (∃ es₁ es₂ t₁ t₂ r₁ r₂, a₁ x s₁ = (es₁, t₁, .ok (.finish r₁)) ∧
      a₂ x s₂ = (es₂, t₂, .ok (.finish r₂)) ∧ finish es₁ r₁ es₂ r₂)

/-- Loops over attempts in lockstep give up together or finish together. -/
theorem Lockstep.run {π₁ π₂ σ₁ σ₂ ε₁ ε₂ α κ₁ κ₂ ρ₁ ρ₂ : Type} {R : σ₁ → σ₂ → Prop}
    {next : List ε₁ → List ε₂ → Prop} {finish : List ε₁ → ρ₁ → List ε₂ → ρ₂ → Prop}
    {a₁ : α → Exec π₁ σ₁ ε₁ (Attempt κ₁ ρ₁)} {a₂ : α → Exec π₂ σ₂ ε₂ (Attempt κ₂ ρ₂)}
    (h : Lockstep R next finish a₁ a₂) (hnil : next [] [])
    (happ : ∀ a b c d, next a b → next c d → next (a ++ c) (b ++ d)) (s₁ : σ₁) (s₂ : σ₂)
    (hR : R s₁ s₂) (last₁ : Option κ₁) (last₂ : Option κ₂) (xs : List α) :
    (∃ es₁ es₂ t₁ t₂ l₁ l₂, tryEach a₁ last₁ xs s₁ = (es₁, t₁, .ok (.error l₁)) ∧
      tryEach a₂ last₂ xs s₂ = (es₂, t₂, .ok (.error l₂)) ∧ next es₁ es₂) ∨
    (∃ pre₁ pre₂ es₁ es₂ t₁ t₂ r₁ r₂,
      tryEach a₁ last₁ xs s₁ = (pre₁ ++ es₁, t₁, .ok (.ok r₁)) ∧
      tryEach a₂ last₂ xs s₂ = (pre₂ ++ es₂, t₂, .ok (.ok r₂)) ∧
      next pre₁ pre₂ ∧ finish es₁ r₁ es₂ r₂) := by
  induction xs generalizing s₁ s₂ last₁ last₂ with
  | nil => exact .inl ⟨[], [], s₁, s₂, last₁, last₂, rfl, rfl, hnil⟩
  | cons x xs ih =>
    rcases h.step x s₁ s₂ hR with ⟨es₁, es₂, t₁, t₂, e₁, e₂, h₁, h₂, hT, hn⟩ |
        ⟨es₁, es₂, t₁, t₂, r₁, r₂, h₁, h₂, hf⟩
    · rw [tryEach_next h₁, tryEach_next h₂]
      rcases ih t₁ t₂ hT (some e₁) (some e₂) with ⟨fs₁, fs₂, u₁, u₂, l₁, l₂, q₁, q₂, hq⟩ |
          ⟨pre₁, pre₂, fs₁, fs₂, u₁, u₂, r₁, r₂, q₁, q₂, hq, hf⟩
      · rw [q₁, q₂]
        exact .inl ⟨_, _, u₁, u₂, l₁, l₂, rfl, rfl, happ _ _ _ _ hn hq⟩
      · rw [q₁, q₂]
        refine .inr ⟨es₁ ++ pre₁, es₂ ++ pre₂, fs₁, fs₂, u₁, u₂, r₁, r₂, ?_, ?_,
          happ _ _ _ _ hn hq, hf⟩
        · rw [List.append_assoc]
        · rw [List.append_assoc]
    · rw [tryEach_finish h₁, tryEach_finish h₂]
      exact .inr ⟨[], [], es₁, es₂, t₁, t₂, r₁, r₂, rfl, rfl, hnil, hf⟩

end PocketAp.Base
