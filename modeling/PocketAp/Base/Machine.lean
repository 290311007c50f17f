import Mathlib.Data.List.Forall2
import Mathlib.Logic.Function.Basic

/-!
# Machines

Library `Base`. A machine takes an action in a state to the next state, if the action can
happen there. Goroutines that interleave are one machine whose actions say who moves and
what the outside world answers. `runAll` runs a list of actions; an invariant of a machine
is shown for one step and holds after every run.
-/

namespace PocketAp.Base

section Machine

variable {S A : Type} (step : S → A → Option S)

/-- The state after a list of actions, if all of them can happen. -/
def runAll : S → List A → Option S
  | s, [] => some s
  | s, a :: as =>
    match step s a with
    | none => none
    | some s' => runAll s' as

/-- Every action of a run meets a condition on the state it happens in. -/
def AllSteps (C : S → A → Prop) : S → List A → Prop
  | _, [] => True
  | s, a :: as =>
    C s a ∧
      match step s a with
      | none => True
      | some s' => AllSteps C s' as

instance decidableAllSteps (C : S → A → Prop) [∀ s a, Decidable (C s a)] :
    (s : S) → (as : List A) → Decidable (AllSteps step C s as)
  | _, [] => .isTrue trivial
  | s, a :: as =>
    have : Decidable (match step s a with
        | none => True
        | some s' => AllSteps step C s' as) :=
      match step s a with
      | none => .isTrue trivial
      | some s' => decidableAllSteps C s' as
    inferInstanceAs (Decidable (_ ∧ _))

/-- What the steps of a run put out, in order. -/
def outputs {B : Type} (out : S → A → List B) : S → List A → List B
  | _, [] => []
  | s, a :: as =>
    out s a ++
      match step s a with
      | none => []
      | some s' => outputs out s' as

variable {step}

/-- The first step and the others. -/
theorem AllSteps.cons {C : S → A → Prop} {s s' : S} {a : A} {as : List A}
    (h : AllSteps step C s (a :: as)) (ha : step s a = some s') :
    C s a ∧ AllSteps step C s' as := by
  simpa only [AllSteps, ha] using h

/-- Two conditions on the steps are one. -/
theorem AllSteps.and {C D : S → A → Prop} {s : S} {as : List A} (hc : AllSteps step C s as)
    (hd : AllSteps step D s as) : AllSteps step (fun s a ↦ C s a ∧ D s a) s as := by
  induction as generalizing s with
  | nil => trivial
  | cons a as ih =>
    refine ⟨⟨hc.1, hd.1⟩, ?_⟩
    cases ha : step s a with
    | none => trivial
    | some s' => exact ih (hc.cons ha).2 (hd.cons ha).2

/-- A run begins with its first step. -/
theorem runAll_cons {s s' : S} {a : A} {as : List A} (h : runAll step s (a :: as) = some s') :
    ∃ s₁, step s a = some s₁ ∧ runAll step s₁ as = some s' := by
  simp only [runAll] at h
  cases ha : step s a with
  | none => simp [ha] at h
  | some s₁ => exact ⟨s₁, rfl, by simpa [ha] using h⟩

/-- A step before a run is a run. -/
theorem runAll_of_step {s s₁ s' : S} {a : A} {as : List A} (ha : step s a = some s₁)
    (h : runAll step s₁ as = some s') : runAll step s (a :: as) = some s' := by
  simp only [runAll, ha, h]

/-- A step is a run. -/
theorem runAll_single {s s' : S} {a : A} (h : step s a = some s') :
    runAll step s [a] = some s' :=
  runAll_of_step h rfl

/-- A run after a run is a run. -/
theorem runAll_trans {s s₁ s' : S} {as bs : List A} (ha : runAll step s as = some s₁)
    (hb : runAll step s₁ bs = some s') : runAll step s (as ++ bs) = some s' := by
  induction as generalizing s with
  | nil =>
    cases ha
    exact hb
  | cons a as ih =>
    obtain ⟨s₂, h₂, hr⟩ := runAll_cons ha
    exact runAll_of_step h₂ (ih hr)

/-- A run passes through the state its first part ends in. -/
theorem runAll_append {s s' : S} {as bs : List A} (h : runAll step s (as ++ bs) = some s') :
    ∃ s₁, runAll step s as = some s₁ ∧ runAll step s₁ bs = some s' := by
  induction as generalizing s with
  | nil => exact ⟨s, rfl, h⟩
  | cons a as ih =>
    obtain ⟨s₂, ha, hr⟩ := runAll_cons h
    obtain ⟨s₁, h₁, h₂⟩ := ih hr
    exact ⟨s₁, runAll_of_step ha h₁, h₂⟩

/-- What holds at first and is kept by every step that meets the condition holds after a run
of such steps. -/
theorem invariant_of_allSteps {C : S → A → Prop} {I : S → Prop}
    (hstep : ∀ s a s', I s → C s a → step s a = some s' → I s') {s s' : S} {as : List A}
    (hs : I s) (hall : AllSteps step C s as) (h : runAll step s as = some s') : I s' := by
  induction as generalizing s with
  | nil =>
    cases h
    exact hs
  | cons a as ih =>
    obtain ⟨s₁, ha, hr⟩ := runAll_cons h
    obtain ⟨hc, hrest⟩ := hall.cons ha
    exact ih (hstep s a s₁ hs hc ha) hrest hr

/-- The steps of a run's second part happen after its first part. -/
theorem AllSteps.append {C : S → A → Prop} {s s₁ : S} {as bs : List A}
    (h : AllSteps step C s (as ++ bs)) (hrun : runAll step s as = some s₁) :
    AllSteps step C s as ∧ AllSteps step C s₁ bs := by
  induction as generalizing s with
  | nil =>
    cases hrun
    exact ⟨trivial, h⟩
  | cons a as ih =>
    obtain ⟨s₂, ha, hr⟩ := runAll_cons hrun
    obtain ⟨hc, hrest⟩ := AllSteps.cons h ha
    obtain ⟨h₁, h₂⟩ := ih hrest hr
    refine ⟨⟨hc, ?_⟩, h₂⟩
    simpa only [ha] using h₁

/-- What every step relates, a run relates: its first state to its last. -/
theorem relation_of_allSteps {C : S → A → Prop} {I : S → Prop} {R : S → S → Prop}
    (hrefl : ∀ s, R s s) (htrans : ∀ s₁ s₂ s₃, R s₁ s₂ → R s₂ s₃ → R s₁ s₃)
    (hstep : ∀ s a s', I s → C s a → step s a = some s' → I s' ∧ R s s') {s s' : S} {as : List A}
    (hs : I s) (hall : AllSteps step C s as) (h : runAll step s as = some s') : R s s' := by
  induction as generalizing s with
  | nil =>
    cases h
    exact hrefl _
  | cons a as ih =>
    obtain ⟨s₁, ha, hr⟩ := runAll_cons h
    obtain ⟨hc, hrest⟩ := hall.cons ha
    obtain ⟨hI, hR⟩ := hstep s a s₁ hs hc ha
    exact htrans s s₁ s' hR (ih hI hrest hr)

/-- A condition that the actions meet in every state. -/
theorem allSteps_of_forall {C : S → A → Prop} {as : List A} (h : ∀ a ∈ as, ∀ s, C s a) (s : S) :
    AllSteps step C s as := by
  induction as generalizing s with
  | nil => trivial
  | cons a as ih =>
    refine ⟨h a List.mem_cons_self s, ?_⟩
    cases step s a with
    | none => trivial
    | some s' => exact ih (fun b hb ↦ h b (List.mem_cons_of_mem a hb)) s'

/-- What holds at first and is kept by every step holds after every run. -/
theorem invariant_of_step {I : S → Prop} (hstep : ∀ s a s', I s → step s a = some s' → I s')
    {s s' : S} {as : List A} (hs : I s) (h : runAll step s as = some s') : I s' :=
  invariant_of_allSteps (C := fun _ _ ↦ True) (fun s a s' hI _ ↦ hstep s a s' hI) hs
    (allSteps_of_forall (fun _ _ _ ↦ trivial) s) h

/-- What ties a state to the actions so far, shown for one step, holds after every run. -/
theorem invariant_of_actions {I : List A → S → Prop}
    (hstep : ∀ past s a s', I past s → step s a = some s' → I (past ++ [a]) s') {past : List A}
    {s s' : S} {as : List A} (hs : I past s) (h : runAll step s as = some s') :
    I (past ++ as) s' := by
  induction as generalizing s past with
  | nil =>
    cases h
    simpa using hs
  | cons a as ih =>
    obtain ⟨s₁, ha, hr⟩ := runAll_cons h
    rw [List.append_cons]
    exact ih (hstep past s a s₁ hs ha) hr

/-- Steps that each lower a rank are no more than the rank allows. -/
theorem length_add_rank_le {C : S → A → Prop} {rank : S → Nat}
    (hstep : ∀ s a s', C s a → step s a = some s' → rank s' < rank s) {s s' : S} {as : List A}
    (hall : AllSteps step C s as) (h : runAll step s as = some s') :
    as.length + rank s' ≤ rank s := by
  induction as generalizing s with
  | nil =>
    cases h
    simp
  | cons a as ih =>
    obtain ⟨s₁, ha, hr⟩ := runAll_cons h
    obtain ⟨hc, hrest⟩ := hall.cons ha
    have hlt := hstep s a s₁ hc ha
    have hle := ih hrest hr
    simp only [List.length_cons]
    omega

section Outputs

variable {B : Type} {out : S → A → List B}

/-- The first step's outputs come first. -/
theorem outputs_cons {s s₁ : S} {a : A} (ha : step s a = some s₁) (as : List A) :
    outputs step out s (a :: as) = out s a ++ outputs step out s₁ as := by
  simp only [outputs, ha]

/-- Outputs of a run's two parts in order. -/
theorem outputs_append {s s₁ : S} {as : List A} (h : runAll step s as = some s₁) (bs : List A) :
    outputs step out s (as ++ bs) = outputs step out s as ++ outputs step out s₁ bs := by
  induction as generalizing s with
  | nil =>
    cases h
    rfl
  | cons a as ih =>
    obtain ⟨s₂, ha, hr⟩ := runAll_cons h
    rw [List.cons_append, outputs_cons ha, outputs_cons ha, ih hr, List.append_assoc]

/-- What ties a state to the outputs so far, shown for one step, holds after a run. -/
theorem invariant_of_outputs {C : S → A → Prop} {I : List B → S → Prop}
    (hstep : ∀ bs s a s', I bs s → C s a → step s a = some s' → I (bs ++ out s a) s')
    {bs : List B} {s s' : S} {as : List A} (hs : I bs s) (hall : AllSteps step C s as)
    (h : runAll step s as = some s') : I (bs ++ outputs step out s as) s' := by
  induction as generalizing s bs with
  | nil =>
    cases h
    simpa only [outputs, List.append_nil] using hs
  | cons a as ih =>
    obtain ⟨s₁, ha, hr⟩ := runAll_cons h
    obtain ⟨hc, hrest⟩ := hall.cons ha
    rw [outputs_cons ha, ← List.append_assoc]
    exact ih (hstep bs s a s₁ hs hc ha) hrest hr

end Outputs

end Machine

/-! ### Any number of calls -/

section Calls

variable {S C : Type} (get : S → Nat → C) (set : S → (Nat → C) → S)

/-- Call `i` goes on, in a state that keeps a place for each of any number of calls. -/
def goOn (s : S) (i : Nat) (c : C) : S :=
  set s (Function.update (get s) i c)

/-- The other calls stay where they are. -/
theorem get_goOn (h : ∀ s calls, get (set s calls) = calls) (s : S) (i : Nat) (c : C) (j : Nat) :
    get (goOn get set s i c) j = if j = i then c else get s j := by
  unfold goOn
  rw [h]
  exact Function.update_apply (get s) i c j

end Calls

/-! ### Machines side by side -/

section Pool

variable {S S' : Type}

/-- One machine of several goes from `x` to `y` while the others stay. -/
theorem forall₂_set {R : S → S → Prop} (hrefl : ∀ x, R x x) {l : List S} {i : Nat} {x y : S}
    (here : l[i]? = some x) (hxy : R x y) : List.Forall₂ R l (l.set i y) := by
  induction l generalizing i with
  | nil => simp at here
  | cons z l ih =>
    cases i with
    | zero =>
      cases here
      exact .cons hxy (List.forall₂_same.mpr fun x _ ↦ hrefl x)
    | succ i => exact .cons (hrefl z) (ih here)

variable {R : S → S' → Prop} {l : List S} {l' : List S'}

/-- The machine at a place afterwards comes from the one that was there. -/
theorem forall₂_getElem? (h : List.Forall₂ R l l') {i : Nat} {x : S} (hx : l[i]? = some x) :
    ∃ y, l'[i]? = some y ∧ R x y := by
  obtain ⟨hlen, hrel⟩ := List.forall₂_iff_get.mp h
  obtain ⟨hi, rfl⟩ := List.getElem?_eq_some_iff.mp hx
  have hi' : i < l'.length := hlen ▸ hi
  exact ⟨l'[i], List.getElem?_eq_getElem hi', hrel i hi hi'⟩

/-- Every machine afterwards comes from one before. -/
theorem forall₂_mem (h : List.Forall₂ R l l') {y : S'} (hy : y ∈ l') : ∃ x ∈ l, R x y := by
  obtain ⟨i, hi⟩ := List.getElem?_of_mem hy
  obtain ⟨x, hx, hr⟩ := forall₂_getElem? (List.Forall₂.flip h) hi
  exact ⟨x, List.mem_of_getElem? hx, hr⟩

end Pool

end PocketAp.Base
