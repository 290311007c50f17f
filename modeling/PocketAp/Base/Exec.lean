import Mathlib.Logic.Basic

/-!
# Runs of imperative code

Library `Base`. A run starts from the variables in scope and leaves three things
behind: the observable calls it made, in order, the variables afterwards, and either
a returned value or a panic. Calls made before a panic stay made.
`hide` forgets a class of calls, so that code which interleaves two concerns can be
compared, as an equation between runs, with code that has only one of them.
-/

namespace PocketAp.Base

/-- Code over variables `σ` with observable calls `ε` and panic values `π`. -/
def Exec (π σ ε α : Type) : Type := σ → List ε × σ × Except π α

namespace Exec

variable {π σ τ ε α β : Type}

/-- Calls made by a run, in order. -/
def events (x : Exec π σ ε α) (s : σ) : List ε := (x s).1

/-- Variables after a run. -/
def after (x : Exec π σ ε α) (s : σ) : σ := (x s).2.1

/-- Returned value, or the panic that ended the run. -/
def outcome (x : Exec π σ ε α) (s : σ) : Except π α := (x s).2.2

/-- Two runs are equal when they agree from every state of the variables. -/
theorem ext {x y : Exec π σ ε α} (h : ∀ s, x s = y s) : x = y := funext h

/-- Sequencing stops at the first panic and keeps the calls made before it. -/
instance : Monad (Exec π σ ε) where
  pure a := fun s ↦ ([], s, .ok a)
  bind x f := fun s ↦
    match x s with
    | (es, s', .ok a) => (es ++ (f a s').1, (f a s').2)
    | (es, s', .error p) => (es, s', .error p)

/-- A pure value has no calls. -/
theorem pure_run (a : α) (s : σ) : (pure a : Exec π σ ε α) s = ([], s, .ok a) := rfl

/-- Running a sequence after a first part that returned. -/
theorem bind_run_ok {x : Exec π σ ε α} {s s' : σ} {es : List ε} {a : α}
    (h : x s = (es, s', .ok a)) (f : α → Exec π σ ε β) :
    (x >>= f) s = (es ++ (f a s').1, (f a s').2) := by
  change (match x s with
    | (es, s', .ok a) => (es ++ (f a s').1, (f a s').2)
    | (es, s', .error p) => (es, s', .error p)) = _
  rw [h]

/-- Running a sequence after a first part that panicked. -/
theorem bind_run_error {x : Exec π σ ε α} {s s' : σ} {es : List ε} {p : π}
    (h : x s = (es, s', .error p)) (f : α → Exec π σ ε β) :
    (x >>= f) s = (es, s', .error p) := by
  change (match x s with
    | (es, s', .ok a) => (es ++ (f a s').1, (f a s').2)
    | (es, s', .error p) => (es, s', .error p)) = _
  rw [h]

private theorem execMap_id (x : Exec π σ ε α) : id <$> x = x := by
  apply ext
  intro s
  change (x >>= fun a ↦ pure (id a)) s = x s
  rcases h : x s with ⟨es, s', p | a⟩
  · exact bind_run_error h _
  · rw [bind_run_ok h]
    simp [pure_run]

private theorem execPure_bind (a : α) (f : α → Exec π σ ε β) : pure a >>= f = f a := by
  apply ext
  intro s
  rw [bind_run_ok (pure_run a s)]
  simp

private theorem execBind_assoc {γ : Type} (x : Exec π σ ε α) (f : α → Exec π σ ε β)
    (g : β → Exec π σ ε γ) : x >>= f >>= g = x >>= fun a ↦ f a >>= g := by
  apply ext
  intro s
  rcases h : x s with ⟨es, s', p | a⟩
  · rw [bind_run_error (bind_run_error h f) g, bind_run_error h]
  · rw [bind_run_ok h]
    rcases hf : f a s' with ⟨es', s'', p | b⟩
    · rw [bind_run_error (by rw [bind_run_ok h, hf]) g, bind_run_error hf]
    · rw [bind_run_ok (by rw [bind_run_ok h, hf]) g, bind_run_ok hf]
      simp [List.append_assoc]

instance : LawfulMonad (Exec π σ ε) :=
  LawfulMonad.mk' _ execMap_id execPure_bind execBind_assoc

/-- One observable call. -/
def emit (e : ε) : Exec π σ ε Unit := fun s ↦ ([e], s, .ok ())

/-- What is emitted is the one call. -/
theorem emit_run (e : ε) (s : σ) : (emit e : Exec π σ ε Unit) s = ([e], s, .ok ()) := rfl

/-- Several observable calls in order. -/
def emitAll (es : List ε) : Exec π σ ε Unit := fun s ↦ (es, s, .ok ())

/-- What is emitted are the calls, in order. -/
theorem emitAll_run (es : List ε) (s : σ) :
    (emitAll es : Exec π σ ε Unit) s = (es, s, .ok ()) := rfl

/-- The value of a variable. -/
def peek (f : σ → α) : Exec π σ ε α := fun s ↦ ([], s, .ok (f s))

/-- Looking at the variables changes nothing. -/
theorem peek_run (f : σ → α) (s : σ) : (peek f : Exec π σ ε α) s = ([], s, .ok (f s)) := rfl

/-- Assignment to variables. -/
def assign (f : σ → σ) : Exec π σ ε Unit := fun s ↦ ([], f s, .ok ())

/-- An assignment has no calls. -/
theorem assign_run (f : σ → σ) (s : σ) : (assign f : Exec π σ ε Unit) s = ([], f s, .ok ()) := rfl

/-- A silent action of the environment on the variables. -/
def act (f : σ → α × σ) : Exec π σ ε α := fun s ↦ ([], (f s).2, .ok (f s).1)

/-- The environment answers silently. -/
theorem act_run {f : σ → α × σ} {s s' : σ} {a : α} (h : f s = (a, s')) :
    (act f : Exec π σ ε α) s = ([], s', .ok a) := by
  simp [act, h]

/-- A call into the environment, recorded together with its answer. -/
def call (f : σ → α × σ) (record : α → ε) : Exec π σ ε α :=
  fun s ↦ ([record (f s).1], (f s).2, .ok (f s).1)

/-- A call is recorded with its answer. -/
theorem call_run {f : σ → α × σ} {s s' : σ} {a : α} (h : f s = (a, s')) (record : α → ε) :
    (call f record : Exec π σ ε α) s = ([record a], s', .ok a) := by
  simp [call, h]

/-- Abandon the run with a panic. -/
def throw (p : π) : Exec π σ ε α := fun s ↦ ([], s, .error p)

/-- The same run with its calls seen as calls of another kind. -/
def mapEvents {ε' : Type} (f : ε → ε') (x : Exec π σ ε α) : Exec π σ ε' α :=
  fun s ↦ ((x s).1.map f, (x s).2)

/-- The same run under other names for its calls. -/
theorem mapEvents_run {ε' : Type} {x : Exec π σ ε α} {s s' : σ} {es : List ε} {r : Except π α}
    (h : x s = (es, s', r)) (f : ε → ε') : mapEvents f x s = (es.map f, s', r) := by
  simp only [mapEvents, h]

/-- Code with a deferred call, which is made however the code ends. -/
def deferring (f : σ → σ) (e : ε) (x : Exec π σ ε α) : Exec π σ ε α :=
  fun s ↦ ((x s).1 ++ [e], f (x s).2.1, (x s).2.2)

/-! ### Code that cannot panic -/

/-- What code that cannot panic answers and does to the variables, without its record. -/
def seam (x : Exec Empty σ ε α) : σ → α × σ := fun s ↦
  match x s with
  | (_, s', .ok a) => (a, s')

/-- Its answer and the variables afterwards are those of the run. -/
theorem seam_run {x : Exec Empty σ ε α} {s s' : σ} {es : List ε} {a : α}
    (h : x s = (es, s', .ok a)) : seam x s = (a, s') := by
  simp only [seam, h]

/-- A value is answered as it is. -/
@[simp] theorem seam_pure (a : α) (s : σ) : seam (pure a : Exec Empty σ ε α) s = (a, s) := rfl

/-- Sequencing hands the answer on. -/
@[simp] theorem seam_bind (x : Exec Empty σ ε α) (f : α → Exec Empty σ ε β) (s : σ) :
    seam (x >>= f) s = seam (f (seam x s).1) (seam x s).2 := by
  rcases h : x s with ⟨es, s', p | a⟩
  · exact p.elim
  · rw [seam_run h]
    rcases hf : f a s' with ⟨es', s'', p | b⟩
    · exact p.elim
    · rw [seam_run hf, seam_run (by rw [bind_run_ok h, hf])]

/-- Observable calls answer nothing. -/
@[simp] theorem seam_emit (e : ε) (s : σ) : seam (emit e) s = ((), s) := rfl

/-- Nor do several of them. -/
@[simp] theorem seam_emitAll (es : List ε) (s : σ) : seam (emitAll es) s = ((), s) := rfl

/-- A silent action is its own answer. -/
@[simp] theorem seam_act (f : σ → α × σ) (s : σ) :
    seam (act f : Exec Empty σ ε α) s = f s := rfl

/-- The value of a variable is answered. -/
@[simp] theorem seam_peek (f : σ → α) (s : σ) :
    seam (peek f : Exec Empty σ ε α) s = (f s, s) := rfl

/-- An assignment answers nothing. -/
@[simp] theorem seam_assign (f : σ → σ) (s : σ) :
    seam (assign f : Exec Empty σ ε Unit) s = ((), f s) := rfl

/-! ### Seeing a record as another one -/

/-- The same run with each call seen as one of another kind, or not at all. -/
def project {ε' : Type} (f : ε → Option ε') (x : Exec π σ ε α) : Exec π σ ε' α :=
  fun s ↦ ((x s).1.filterMap f, (x s).2)

/-- Code without calls looks the same from everywhere. -/
theorem project_pure {ε' : Type} (f : ε → Option ε') (a : α) :
    project f (pure a : Exec π σ ε α) = pure a := rfl

/-- So do silent actions. -/
theorem project_act {ε' : Type} (f : ε → Option ε') (g : σ → α × σ) :
    project f (act g : Exec π σ ε α) = act g := rfl

/-- Projecting distributes over sequencing. -/
theorem project_bind {ε' : Type} (f : ε → Option ε') (x : Exec π σ ε α)
    (g : α → Exec π σ ε β) :
    project f (x >>= g) = project f x >>= fun a ↦ project f (g a) := by
  apply ext
  intro s
  rcases h : x s with ⟨es, s', q | a⟩
  · have hp : project f x s = (es.filterMap f, s', .error q) := by simp [project, h]
    rw [bind_run_error hp]
    simp [project, bind_run_error h]
  · have hp : project f x s = (es.filterMap f, s', .ok a) := by simp [project, h]
    rw [bind_run_ok hp]
    simp [project, bind_run_ok h, List.filterMap_append]

/-- A call that is seen. -/
theorem project_emit {ε' : Type} {f : ε → Option ε'} {e : ε} {e' : ε'} (h : f e = some e') :
    project f (emit e : Exec π σ ε Unit) = emit e' := by
  apply ext
  intro s
  simp [project, emit, h]

/-- Several calls that are seen. -/
theorem project_emitAll {ε' : Type} {f : ε → Option ε'} {es : List ε} {es' : List ε'}
    (h : es.filterMap f = es') : project f (emitAll es : Exec π σ ε Unit) = emitAll es' := by
  apply ext
  intro s
  simp [project, emitAll, h]

/-- A recorded call that is seen. -/
theorem project_call {ε' : Type} {f : ε → Option ε'} (g : σ → α × σ) {record : α → ε}
    {record' : α → ε'} (h : ∀ a, f (record a) = some (record' a)) :
    project f (call g record : Exec π σ ε α) = call g record' := by
  apply ext
  intro s
  simp [project, call, h]

/-! ### Hiding a class of calls -/

/-- The same run with the calls selected by `p` left out of the record. -/
def hide (p : ε → Bool) (x : Exec π σ ε α) : Exec π σ ε α :=
  fun s ↦ ((x s).1.filter (fun e ↦ !p e), (x s).2)

/-- Hiding is not to see some of the calls. -/
theorem hide_eq_project (p : ε → Bool) (x : Exec π σ ε α) :
    hide p x = project (Option.guard fun e ↦ !p e) x := by
  apply ext
  intro s
  simp [hide, project, List.filterMap_eq_filter]

/-- Nothing is hidden of code without calls. -/
theorem hide_pure (p : ε → Bool) (a : α) :
    hide p (pure a : Exec π σ ε α) = pure a := rfl

/-- Hiding distributes over sequencing. -/
theorem hide_bind (p : ε → Bool) (x : Exec π σ ε α) (f : α → Exec π σ ε β) :
    hide p (x >>= f) = hide p x >>= fun a ↦ hide p (f a) := by
  simp only [hide_eq_project, project_bind]

/-- Hidden calls leave nothing behind. -/
theorem hide_emitAll (p : ε → Bool) (es : List ε) (h : ∀ e ∈ es, p e = true) :
    hide p (emitAll es : Exec π σ ε Unit) = pure () := by
  apply ext
  intro s
  have hn : es.filter (fun e ↦ !p e) = [] := by
    rw [List.filter_eq_nil_iff]
    intro e he
    simp [h e he]
  change (es.filter (fun e ↦ !p e), s, Except.ok ()) = ([], s, Except.ok ())
  rw [hn]

/-- A call that is not selected stays. -/
theorem hide_emit (p : ε → Bool) (e : ε) (h : p e = false) :
    hide p (emit e : Exec π σ ε Unit) = emit e := by
  apply ext
  intro s
  change ([e].filter (fun e ↦ !p e), s, Except.ok ()) = ([e], s, Except.ok ())
  simp [h]

/-- A recorded call that is not selected stays. -/
theorem hide_call (p : ε → Bool) (f : σ → α × σ) (record : α → ε)
    (h : ∀ a, p (record a) = false) :
    hide p (call f record : Exec π σ ε α) = call f record := by
  apply ext
  intro s
  simp [hide, call, h]

/-- Calls of another kind are not hidden. -/
theorem hide_mapEvents {ε' : Type} (p : ε' → Bool) (f : ε → ε') (x : Exec π σ ε α)
    (h : ∀ e, p (f e) = false) : hide p (mapEvents f x) = mapEvents f x := by
  apply ext
  intro s
  have hf : ((x s).1.map f).filter (fun e ↦ !p e) = (x s).1.map f := by
    rw [List.filter_eq_self]
    intro e he
    obtain ⟨e', -, rfl⟩ := List.mem_map.mp he
    simp [h e']
  change (((x s).1.map f).filter (fun e ↦ !p e), (x s).2) = _
  rw [hf]
  rfl

/-- What is left to see of a run. -/
theorem events_hide (p : ε → Bool) (x : Exec π σ ε α) (s : σ) :
    (hide p x).events s = (x.events s).filter (fun e ↦ !p e) := rfl

/-- The calls left are those not hidden. -/
theorem mem_events_hide (p : ε → Bool) (x : Exec π σ ε α) (s : σ) (e : ε) :
    e ∈ (hide p x).events s ↔ e ∈ x.events s ∧ p e = false := by
  simp [events_hide, List.mem_filter]

/-- Hiding calls does not change how a run ends. -/
theorem outcome_hide (p : ε → Bool) (x : Exec π σ ε α) (s : σ) :
    (hide p x).outcome s = x.outcome s := rfl

/-! ### Local variables of a closure -/

/-- Run code that does not see the additional variable `τ`. -/
def lift (x : Exec π σ ε α) : Exec π (τ × σ) ε α :=
  fun s ↦ ((x s.2).1, (s.1, (x s.2).2.1), (x s.2).2.2)

/-- Declare a variable, run code that sees it, and return its last value too. -/
def withVar (init : τ) (x : Exec π (τ × σ) ε α) : Exec π σ ε (α × τ) :=
  fun s ↦ ((x (init, s)).1, (x (init, s)).2.1.2,
    (x (init, s)).2.2.map (fun a ↦ (a, (x (init, s)).2.1.1)))

/-- Assign the variable, then run code that does not see it. -/
def setting (value : τ) (x : Exec π σ ε α) : Exec π (τ × σ) ε α :=
  fun s ↦ ((x s.2).1, (value, (x s.2).2.1), (x s.2).2.2)

/-- Code that does not see the variable can be moved out of its scope. -/
theorem withVar_lift_bind (init : τ) (x : Exec π σ ε α) (f : α → Exec π (τ × σ) ε β) :
    withVar init (lift x >>= f) = x >>= fun a ↦ withVar init (f a) := by
  apply ext
  intro s
  rcases h : x s with ⟨es, s', q | a⟩
  · have hl : lift x (init, s) = (es, (init, s'), .error q) := by simp [lift, h]
    rw [bind_run_error h]
    simp [withVar, bind_run_error hl, Except.map]
  · have hl : lift x (init, s) = (es, (init, s'), .ok a) := by simp [lift, h]
    rw [bind_run_ok h]
    simp [withVar, bind_run_ok hl]

/-- An assignment becomes the variable's value for the rest of its scope. -/
theorem withVar_setting_bind (init value : τ) (x : Exec π σ ε α)
    (f : α → Exec π (τ × σ) ε β) :
    withVar init (setting value x >>= f) = x >>= fun a ↦ withVar value (f a) := by
  apply ext
  intro s
  rcases h : x s with ⟨es, s', q | a⟩
  · have hl : setting value x (init, s) = (es, (value, s'), .error q) := by
      simp [setting, h]
    rw [bind_run_error h]
    simp [withVar, bind_run_error hl, Except.map]
  · have hl : setting value x (init, s) = (es, (value, s'), .ok a) := by
      simp [setting, h]
    rw [bind_run_ok h]
    simp [withVar, bind_run_ok hl]

/-- Code that does not see the variable leaves it as it is. -/
@[simp] theorem seam_lift (x : Exec Empty σ ε α) (s : τ × σ) :
    seam (lift x) s = ((seam x s.2).1, (s.1, (seam x s.2).2)) := by
  rcases h : x s.2 with ⟨es, s', p | a⟩
  · exact p.elim
  · have hl : lift x s = (es, (s.1, s'), .ok a) := by simp only [lift, h]
    rw [seam_run h, seam_run hl]

/-- Hiding commutes with adding a variable. -/
theorem hide_lift (p : ε → Bool) (x : Exec π σ ε α) :
    hide p (lift x : Exec π (τ × σ) ε α) = lift (hide p x) := rfl

/-- Hiding commutes with setting a variable. -/
theorem hide_setting (p : ε → Bool) (value : τ) (x : Exec π σ ε α) :
    hide p (setting value x) = setting value (hide p x) := rfl

/-- Hiding commutes with a local variable. -/
theorem hide_withVar (p : ε → Bool) (init : τ) (x : Exec π (τ × σ) ε α) :
    hide p (withVar init x) = withVar init (hide p x) := rfl

/-! ### Variables that follow the record -/

/-- What `get` sees of the variables changes exactly as the recorded calls say. -/
def Follows (get : σ → τ) (step : τ → ε → τ) (x : Exec π σ ε α) : Prop :=
  ∀ s, get (x s).2.1 = (x s).1.foldl step (get s)

section Follows

variable {get : σ → τ} {step : τ → ε → τ}

/-- A pure value follows its calls, there being none. -/
theorem follows_pure (a : α) : Follows get step (pure a : Exec π σ ε α) := fun _ ↦ rfl

/-- What follows its calls part by part follows them as a whole. -/
theorem Follows.bind {x : Exec π σ ε α} {f : α → Exec π σ ε β} (hx : Follows get step x)
    (hf : ∀ a, Follows get step (f a)) : Follows get step (x >>= f) := by
  intro s
  have hxs := hx s
  rcases h : x s with ⟨es, s', p | a⟩
  · rw [bind_run_error h]
    rw [h] at hxs
    exact hxs
  · rw [bind_run_ok h, List.foldl_append]
    rw [h] at hxs
    exact (hf a s').trans (by rw [hxs])

/-- A silent action that leaves the part alone. -/
theorem follows_act {f : σ → α × σ} (h : ∀ s, get (f s).2 = get s) :
    Follows get step (act f : Exec π σ ε α) := h

/-- A call that changes the part as its record says. -/
theorem follows_call {f : σ → α × σ} {record : α → ε}
    (h : ∀ s, get (f s).2 = step (get s) (record (f s).1)) :
    Follows get step (call f record : Exec π σ ε α) := h

/-- Calls that change nothing may be hidden. -/
theorem Follows.of_hide {p : ε → Bool} {x : Exec π σ ε α}
    (hp : ∀ v e, p e = true → step v e = v) (h : Follows get step (hide p x)) :
    Follows get step x := by
  intro s
  have hfold (es : List ε) (v : τ) :
      (es.filter (fun e ↦ !p e)).foldl step v = es.foldl step v := by
    induction es generalizing v with
    | nil => rfl
    | cons e es ih =>
      by_cases he : p e = true
      · simp [he, hp v e he, ih]
      · simp [he, ih]
  exact (h s).trans (hfold _ _)

end Follows

end Exec

/-- An element that is not in a first part is found in the second. -/
theorem exists_of_append_eq_append_cons {α : Type} {xs ys pre post : List α} {e : α}
    (h : xs ++ ys = pre ++ e :: post) (he : e ∉ xs) :
    ∃ l, pre = xs ++ l ∧ ys = l ++ e :: post := by
  rcases List.append_eq_append_iff.mp h with ⟨l, hl, hy⟩ | ⟨l, hl, hy⟩
  · exact ⟨l, hl, hy⟩
  · cases l with
    | nil => exact ⟨[], by simpa using hl.symm, by simpa using hy.symm⟩
    | cons x l =>
      simp only [List.cons_append, List.cons.injEq] at hy
      rw [hl, ← hy.1] at he
      simp at he

end PocketAp.Base
