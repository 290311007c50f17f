import Mathlib.Algebra.GroupWithZero.Nat
import Mathlib.Data.List.Basic
import PocketAp.Base.Machine

/-!
# Processes over a shared variable

Library `Base`. Any number of processes arrive and then take turns; a move of one of them may
read and write the shared variable. A property of the variable and one process that the
process's own moves keep, and that survives the moves of the others, holds of all of them
along every run. The same holds of a property of any two processes, such as that not both
hold a lock. A number that changes as the moving process's claim on it does counts the
claims.
-/

namespace PocketAp.Base

/-- What the calls share, and where each of them is. -/
structure Shared (C H : Type) where
  cell : C
  procs : List H

/-- A new process arrives, or one that is there moves. -/
inductive Turn (A M : Type) where
  | arrive (a : A)
  | move (i : Nat) (m : M)
  deriving DecidableEq, Repr

/-- The process at `i` makes a move of the kind `P`. -/
def Turn.Makes {A M : Type} (i : Nat) (P : M → Prop) : Turn A M → Prop
  | .arrive _ => False
  | .move j m => j = i ∧ P m

section Shared

variable {C H A M : Type} (init : C → A → H) (move : C → H → M → Option (C × H))

/-- One call arrives or moves. -/
def Shared.step (s : Shared C H) : Turn A M → Option (Shared C H)
  | .arrive a => some { s with procs := s.procs ++ [init s.cell a] }
  | .move i m =>
    match s.procs[i]? with
    | none => none
    | some h =>
      match move s.cell h m with
      | none => none
      | some (c, h') => some ⟨c, s.procs.set i h'⟩

/-- The cases of a turn. -/
inductive Shared.Stepped (s : Shared C H) : Turn A M → Shared C H → Prop where
  | arrive (a : A) : Stepped s (.arrive a) { s with procs := s.procs ++ [init s.cell a] }
  | move (i : Nat) (m : M) (h h' : H) (c : C) (here : s.procs[i]? = some h)
      (moved : move s.cell h m = some (c, h')) : Stepped s (.move i m) ⟨c, s.procs.set i h'⟩

variable {init move}

/-- A step is an arrival or a move of one call. -/
theorem Shared.step_cases {s s' : Shared C H} {t : Turn A M}
    (h : Shared.step init move s t = some s') : Shared.Stepped init move s t s' := by
  cases t with
  | arrive a =>
    cases h
    exact .arrive a
  | move i m =>
    simp only [Shared.step] at h
    split at h
    · cases h
    · next p hp =>
      split at h
      · cases h
      · next c p' hm =>
        cases h
        exact .move i m p p' c hp hm

/-- `J` of the variable alone and `I` of the variable and each process, kept by every move. -/
structure Shared.Stable (init : C → A → H) (move : C → H → M → Option (C × H)) (J : C → Prop)
    (I : C → H → Prop) : Prop where
  arrives : ∀ c a, J c → I c (init c a)
  cell : ∀ c h m c' h', J c → I c h → move c h m = some (c', h') → J c'
  own : ∀ c h m c' h', J c → I c h → move c h m = some (c', h') → I c' h'
  others : ∀ c h m c' h' q, J c → I c h → I c q → move c h m = some (c', h') → I c' q

variable {J : C → Prop} {I : C → H → Prop}

private theorem Shared.Stable.step (hst : Shared.Stable init move J I) {s s' : Shared C H}
    {t : Turn A M} (hs : J s.cell ∧ ∀ h ∈ s.procs, I s.cell h)
    (h : Shared.step init move s t = some s') : J s'.cell ∧ ∀ h ∈ s'.procs, I s'.cell h := by
  obtain ⟨hJ, hI⟩ := hs
  cases Shared.step_cases h with
  | arrive a =>
    refine ⟨hJ, fun q hq ↦ ?_⟩
    rcases List.mem_append.mp hq with hq | hq
    · exact hI q hq
    · rw [List.mem_singleton.mp hq]
      exact hst.arrives s.cell a hJ
  | move i m p p' c here moved =>
    have hp : I s.cell p := hI p (List.mem_of_getElem? here)
    refine ⟨hst.cell _ _ _ _ _ hJ hp moved, fun q hq ↦ ?_⟩
    rcases List.mem_or_eq_of_mem_set hq with hq | rfl
    · exact hst.others _ _ _ _ _ q hJ hp (hI q hq) moved
    · exact hst.own _ _ _ _ _ hJ hp moved

/-- What is stable holds after every run from an empty start. -/
theorem Shared.Stable.run (hst : Shared.Stable init move J I) {c : C} (hc : J c)
    {s : Shared C H} {ts : List (Turn A M)}
    (h : runAll (Shared.step init move) ⟨c, []⟩ ts = some s) :
    J s.cell ∧ ∀ h ∈ s.procs, I s.cell h :=
  invariant_of_step (fun _ _ _ ↦ hst.step) ⟨hc, by simp⟩ h

end Shared

section Pairs

variable {C H A M : Type} {init : C → A → H} {move : C → H → M → Option (C × H)}

/-- A call that can move does. -/
theorem Shared.step_move {s : Shared C H} {i : Nat} {m : M} {h h' : H} {c : C}
    (here : s.procs[i]? = some h) (moved : move s.cell h m = some (c, h')) :
    Shared.step init move s (.move i m) = some ⟨c, s.procs.set i h'⟩ := by
  simp only [Shared.step, here, moved]

/-- `J` of the variable, `I` of the variable and each process, and `R` of any two processes,
kept by every move. -/
structure Shared.StablePairs (init : C → A → H) (move : C → H → M → Option (C × H)) (J : C → Prop)
    (I : C → H → Prop) (R : H → H → Prop) : Prop where
  symm : ∀ p q, R p q → R q p
  arrives : ∀ c a, J c → I c (init c a)
  apart : ∀ c a q, J c → I c q → R (init c a) q
  cell : ∀ c p m c' p', J c → I c p → move c p m = some (c', p') → J c'
  own : ∀ c p m c' p', J c → I c p → move c p m = some (c', p') → I c' p'
  others : ∀ c p m c' p' q, J c → I c p → I c q → R p q → move c p m = some (c', p') → I c' q
  pairs : ∀ c p m c' p' q, J c → I c p → I c q → R p q → move c p m = some (c', p') → R p' q

/-- The two processes of any two places are related. -/
def Shared.Apart (R : H → H → Prop) (hs : List H) : Prop :=
  ∀ (i j : Nat) (p q : H), i ≠ j → hs[i]? = some p → hs[j]? = some q → R p q

/-- After an arrival a process is the new one or an old one. -/
theorem getElem?_concat_cases {hs : List H} {i : Nat} {h h' : H}
    (here : (hs ++ [h'])[i]? = some h) : hs[i]? = some h ∨ i = hs.length ∧ h = h' := by
  rw [List.getElem?_append] at here
  split at here
  · exact .inl here
  · next hle =>
    obtain ⟨hlt, rfl⟩ := List.getElem?_eq_some_iff.mp here
    simp only [List.length_singleton] at hlt
    exact .inr ⟨by omega, by simp⟩

private theorem Shared.Apart.append {R : H → H → Prop} {hs : List H} {h : H}
    (hsymm : ∀ p q, R p q → R q p) (hapart : Shared.Apart R hs) (hnew : ∀ q ∈ hs, R h q) :
    Shared.Apart R (hs ++ [h]) := by
  intro i j p q hij hp hq
  rcases getElem?_concat_cases hp with hp' | ⟨hi, rfl⟩ <;>
    rcases getElem?_concat_cases hq with hq' | ⟨hj, rfl⟩
  · exact hapart i j p q hij hp' hq'
  · exact hsymm _ _ (hnew p (List.mem_of_getElem? hp'))
  · exact hnew q (List.mem_of_getElem? hq')
  · exact absurd (hi.trans hj.symm) hij

private theorem Shared.Apart.set {R : H → H → Prop} {hs : List H} {h : H} {k : Nat}
    (hsymm : ∀ p q, R p q → R q p) (hapart : Shared.Apart R hs)
    (hnew : ∀ j q, k ≠ j → hs[j]? = some q → R h q) : Shared.Apart R (hs.set k h) := by
  have hcases (i : Nat) (p : H) (hp : (hs.set k h)[i]? = some p) :
      (k = i ∧ p = h) ∨ (k ≠ i ∧ hs[i]? = some p) := by
    by_cases hki : k = i
    · subst hki
      obtain ⟨hlt, rfl⟩ := List.getElem?_eq_some_iff.mp hp
      exact .inl ⟨rfl, by simp⟩
    · rw [List.getElem?_set_ne hki] at hp
      exact .inr ⟨hki, hp⟩
  intro i j p q hij hp hq
  rcases hcases i p hp with ⟨hi, rfl⟩ | ⟨hi, hp'⟩ <;>
    rcases hcases j q hq with ⟨hj, rfl⟩ | ⟨hj, hq'⟩
  · exact absurd (hi.symm.trans hj) hij
  · exact hnew j q hj hq'
  · exact hsymm _ _ (hnew i p hi hp')
  · exact hapart i j p q hij hp' hq'

variable {J : C → Prop} {I : C → H → Prop} {R : H → H → Prop}

/-- What holds of the variable, of every process and of every two. -/
structure Shared.Kept (J : C → Prop) (I : C → H → Prop) (R : H → H → Prop) (s : Shared C H) :
    Prop where
  cell : J s.cell
  each : ∀ h ∈ s.procs, I s.cell h
  apart : Shared.Apart R s.procs

private theorem Shared.StablePairs.step (hst : Shared.StablePairs init move J I R)
    {s s' : Shared C H} {t : Turn A M} (hs : Shared.Kept J I R s)
    (h : Shared.step init move s t = some s') : Shared.Kept J I R s' := by
  cases Shared.step_cases h with
  | arrive a =>
    refine ⟨hs.cell, fun q hq ↦ ?_, ?_⟩
    · rcases List.mem_append.mp hq with hq | hq
      · exact hs.each q hq
      · rw [List.mem_singleton.mp hq]
        exact hst.arrives s.cell a hs.cell
    · exact hs.apart.append hst.symm fun q hq ↦ hst.apart s.cell a q hs.cell (hs.each q hq)
  | move i m p p' c here moved =>
    have hp : I s.cell p := hs.each p (List.mem_of_getElem? here)
    have hothers (j : Nat) (q : H) (hij : i ≠ j) (hq : s.procs[j]? = some q) :
        I c q ∧ R p' q := by
      have hIq : I s.cell q := hs.each q (List.mem_of_getElem? hq)
      have hR : R p q := hs.apart i j p q hij here hq
      exact ⟨hst.others _ _ _ _ _ q hs.cell hp hIq hR moved,
        hst.pairs _ _ _ _ _ q hs.cell hp hIq hR moved⟩
    refine ⟨hst.cell _ _ _ _ _ hs.cell hp moved, fun q hq ↦ ?_, ?_⟩
    · obtain ⟨j, hj⟩ := List.mem_iff_getElem?.mp hq
      by_cases hij : i = j
      · subst hij
        obtain ⟨hlt, rfl⟩ := List.getElem?_eq_some_iff.mp hj
        rw [List.getElem_set_self]
        exact hst.own _ _ _ _ _ hs.cell hp moved
      · rw [List.getElem?_set_ne hij] at hj
        exact (hothers j q hij hj).1
    · exact hs.apart.set hst.symm fun j q hij hq ↦ (hothers j q hij hq).2

/-- What is stable between processes holds after every run from an empty start. -/
theorem Shared.StablePairs.run (hst : Shared.StablePairs init move J I R) {c : C} (hc : J c)
    {s : Shared C H} {ts : List (Turn A M)}
    (h : runAll (Shared.step init move) ⟨c, []⟩ ts = some s) : Shared.Kept J I R s :=
  invariant_of_step (fun _ _ _ ↦ hst.step) ⟨hc, by simp, fun i j p q _ hp ↦ by simp at hp⟩ h

end Pairs

section Count

variable {H A M : Type} {init : Int → A → H} {move : Int → H → M → Option (Int × H)}

/-- What one entry counts for. -/
private theorem countP_set_of_getElem? {holds : H → Bool} {hs : List H} {i : Nat} {h h' : H}
    (here : hs[i]? = some h) :
    ((hs.set i h').countP holds : Int) =
      hs.countP holds - (if holds h then 1 else 0) + (if holds h' then 1 else 0) := by
  obtain ⟨hi, rfl⟩ := List.getElem?_eq_some_iff.mp here
  rw [List.countP_set hi]
  by_cases hh : holds hs[i] = true
  · have hpos : 0 < hs.countP holds := List.countP_pos_iff.mpr ⟨_, List.getElem_mem hi, hh⟩
    rw [if_pos hh, if_pos hh]
    split <;> omega
  · rw [if_neg hh, if_neg hh]
    split <;> omega

/-- A counter that every move changes as it changes the mover's claim counts the claims. -/
theorem Shared.Stable.count_run {J : Int → Prop} {I : Int → H → Prop}
    (hst : Shared.Stable init move J I) {holds : H → Bool}
    (harrive : ∀ c a, holds (init c a) = false)
    (hmove : ∀ c h m c' h', I c h → move c h m = some (c', h') →
      c' = c - (if holds h then 1 else 0) + (if holds h' then 1 else 0))
    (hzero : J 0) {s : Shared Int H} {ts : List (Turn A M)}
    (h : runAll (Shared.step init move) ⟨0, []⟩ ts = some s) :
    s.cell = s.procs.countP holds := by
  have hboth (s : Shared Int H) (t : Turn A M) (s' : Shared Int H)
      (hs : (J s.cell ∧ ∀ h ∈ s.procs, I s.cell h) ∧ s.cell = s.procs.countP holds)
      (hstep : Shared.step init move s t = some s') :
      (J s'.cell ∧ ∀ h ∈ s'.procs, I s'.cell h) ∧ s'.cell = s'.procs.countP holds := by
    refine ⟨hst.step hs.1 hstep, ?_⟩
    cases Shared.step_cases hstep with
    | arrive a => simpa [List.countP_append, harrive] using hs.2
    | move i m p p' c here moved =>
      rw [countP_set_of_getElem? here, ← hs.2]
      exact hmove _ _ _ _ _ (hs.1.2 p (List.mem_of_getElem? here)) moved
  exact (invariant_of_step hboth ⟨⟨hzero, by simp⟩, rfl⟩ h).2

/-- The same of a number kept in the variable. -/
theorem Shared.Stable.count_of {C : Type} {init : C → A → H}
    {move : C → H → M → Option (C × H)} {J : C → Prop} {I : C → H → Prop}
    (hst : Shared.Stable init move J I) (f : C → Int) {holds : H → Bool}
    (harrive : ∀ c a, holds (init c a) = false)
    (hmove : ∀ c h m c' h', I c h → move c h m = some (c', h') →
      f c' = f c - (if holds h then 1 else 0) + (if holds h' then 1 else 0))
    {c : C} (hc : J c) (hzero : f c = 0) {s : Shared C H} {ts : List (Turn A M)}
    (h : runAll (Shared.step init move) ⟨c, []⟩ ts = some s) :
    f s.cell = s.procs.countP holds := by
  have hboth (s : Shared C H) (t : Turn A M) (s' : Shared C H)
      (hs : (J s.cell ∧ ∀ h ∈ s.procs, I s.cell h) ∧ f s.cell = s.procs.countP holds)
      (hstep : Shared.step init move s t = some s') :
      (J s'.cell ∧ ∀ h ∈ s'.procs, I s'.cell h) ∧ f s'.cell = s'.procs.countP holds := by
    refine ⟨hst.step hs.1 hstep, ?_⟩
    cases Shared.step_cases hstep with
    | arrive a => simpa [List.countP_append, harrive] using hs.2
    | move i m p p' c here moved =>
      rw [countP_set_of_getElem? here, ← hs.2]
      exact hmove _ _ _ _ _ (hs.1.2 p (List.mem_of_getElem? here)) moved
  exact (invariant_of_step hboth ⟨⟨hc, by simp⟩, by simpa using hzero⟩ h).2

end Count

section Sums

variable {H : Type}

/-- What one process's move does to a sum over the processes. -/
theorem sum_map_set {hs : List H} {i : Nat} {h : H} (here : hs[i]? = some h) (w : H → Nat)
    (h' : H) : ((hs.set i h').map w).sum + w h = (hs.map w).sum + w h' := by
  induction hs generalizing i with
  | nil => cases here
  | cons x hs ih =>
    cases i with
    | zero =>
      cases here
      simp only [List.set_cons_zero, List.map_cons, List.sum_cons]
      omega
    | succ i =>
      have hrest := ih here
      simp only [List.set_cons_succ, List.map_cons, List.sum_cons]
      omega

/-- After an update a process is the new one or an old one. -/
theorem getElem?_set_cases {hs : List H} {i j : Nat} {h h' : H}
    (here : (hs.set i h')[j]? = some h) : (j = i ∧ h = h') ∨ (j ≠ i ∧ hs[j]? = some h) := by
  by_cases hj : j = i
  · subst hj
    refine .inl ⟨rfl, ?_⟩
    rw [List.getElem?_set] at here
    by_cases hl : j < hs.length
    · simp only [if_pos hl] at here
      cases here
      rfl
    · simp only [if_neg hl] at here
      cases here
  · rw [List.getElem?_set_ne (Ne.symm hj)] at here
    exact .inr ⟨hj, here⟩

end Sums

end PocketAp.Base
