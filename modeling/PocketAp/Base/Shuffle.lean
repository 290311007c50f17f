import Mathlib.Data.List.Basic
import Mathlib.Logic.Function.Basic

/-!
# Fisher–Yates shuffle

Library `Base`. The loop of `math/rand.Shuffle`, driven by its draws. It only permutes,
and every permutation is the outcome of some draws.
-/

namespace PocketAp.Base

variable {α : Type}

/-- The random numbers of one shuffle: at position `i` an index up to `i`. -/
abbrev Draws := (i : Nat) → Fin (i + 1)

/-- Exchange two elements. -/
def swap (xs : List α) (i j : Nat) : List α :=
  match xs[i]?, xs[j]? with
  | some a, some b => (xs.set i b).set j a
  | _, _ => xs

/-- The loop from position `i` down to 1. -/
def shuffleFrom (draw : Draws) : Nat → List α → List α
  | 0, xs => xs
  | i + 1, xs => shuffleFrom draw i (swap xs (i + 1) (draw (i + 1)))

/-- `rand.Shuffle` over the whole list. -/
def shuffle (draw : Draws) (xs : List α) : List α := shuffleFrom draw (xs.length - 1) xs

/-- Two places are exchanged. -/
theorem swap_of_lt (xs : List α) (i j : Nat) (hi : i < xs.length) (hj : j < xs.length) :
    swap xs i j = (xs.set i xs[j]).set j xs[i] := by
  simp only [swap, List.getElem?_eq_getElem hi, List.getElem?_eq_getElem hj]

/-- Exchanging two places loses nothing. -/
theorem swap_perm (xs : List α) (i j : Nat) : (swap xs i j).Perm xs := by
  by_cases h : i < xs.length ∧ j < xs.length
  · have hp := Array.perm_iff_toList_perm.mp
      (@Array.swap_perm α xs.toArray i j (by simpa using h.1) (by simpa using h.2))
    rw [swap_of_lt xs i j h.1 h.2]
    simpa [Array.swap_def] using hp
  · have hs : swap xs i j = xs := by
      unfold swap
      split
      · next a b ha hb =>
        exact absurd ⟨(List.getElem?_eq_some_iff.mp ha).1, (List.getElem?_eq_some_iff.mp hb).1⟩ h
      · rfl
    rw [hs]

/-- Exchanging two places keeps the length. -/
theorem length_swap (xs : List α) (i j : Nat) : (swap xs i j).length = xs.length :=
  (swap_perm xs i j).length_eq

private theorem shuffleFrom_perm (draw : Draws) (i : Nat) (xs : List α) :
    (shuffleFrom draw i xs).Perm xs := by
  induction i generalizing xs with
  | zero => exact List.Perm.refl xs
  | succ i ih => exact (ih _).trans (swap_perm xs _ _)

/-- A shuffle loses nothing and duplicates nothing. -/
theorem shuffle_perm (draw : Draws) (xs : List α) : (shuffle draw xs).Perm xs :=
  shuffleFrom_perm draw _ xs

/-! ### Every permutation is reached -/

/-- Elements past the positions in play stay where they are. -/
private theorem shuffleFrom_append (draw : Draws) (i : Nat) (xs ys : List α)
    (h : i < xs.length) : shuffleFrom draw i (xs ++ ys) = shuffleFrom draw i xs ++ ys := by
  induction i generalizing xs with
  | zero => rfl
  | succ i ih =>
    have hj : (draw (i + 1)).val < xs.length := by
      have := (draw (i + 1)).isLt
      omega
    have hs : swap (xs ++ ys) (i + 1) (draw (i + 1)) =
        swap xs (i + 1) (draw (i + 1)) ++ ys := by
      rw [swap_of_lt xs _ _ h hj, swap_of_lt (xs ++ ys) _ _ (by rw [List.length_append]; omega)
        (by rw [List.length_append]; omega), List.getElem_append_left hj,
        List.getElem_append_left h, List.set_append_left _ _ h, List.set_append_left]
      rw [List.length_set]
      exact hj
    change shuffleFrom draw i _ = shuffleFrom draw i _ ++ ys
    rw [hs, ih _ (by rw [length_swap]; omega)]

/-- Draws at later positions do not matter. -/
theorem shuffleFrom_congr (draw draw' : Draws) (i : Nat) (xs : List α)
    (h : ∀ k, k ≤ i → draw k = draw' k) : shuffleFrom draw i xs = shuffleFrom draw' i xs := by
  induction i generalizing xs with
  | zero => rfl
  | succ i ih =>
    change shuffleFrom draw i (swap xs (i + 1) (draw (i + 1))) = _
    rw [h (i + 1) (Nat.le_refl _), ih _ (fun k hk ↦ h k (by omega))]
    rfl

/-- Moving any chosen element to the last place. -/
private theorem swap_to_last (xs : List α) (n j : Nat) (hn : xs.length = n + 1)
    (hj : j < xs.length) : ∃ zs, swap xs n j = zs ++ [xs[j]] := by
  have hl : (swap xs n j).length = n + 1 := by rw [length_swap, hn]
  have hne : swap xs n j ≠ [] := by
    intro h
    rw [h] at hl
    simp at hl
  have hlast : (swap xs n j).getLast hne = xs[j] := by
    rw [List.getLast_eq_getElem]
    simp only [swap_of_lt xs n j (by omega) hj, List.length_set, hn, Nat.add_sub_cancel]
    rw [List.getElem_set]
    split
    · next he => subst he; rfl
    · rw [List.getElem_set_self]
  exact ⟨_, by rw [← hlast, List.dropLast_append_getLast hne]⟩

/-- Every permutation of a list is what some draws shuffle it to. -/
theorem exists_shuffle_eq (xs ys : List α) (h : ys.Perm xs) : ∃ draw, shuffle draw xs = ys := by
  induction hn : xs.length generalizing xs ys with
  | zero =>
    have hx : xs = [] := List.eq_nil_of_length_eq_zero hn
    subst hx
    exact ⟨fun _ ↦ 0, by rw [h.eq_nil]; rfl⟩
  | succ n ih =>
    have hy : ys ≠ [] := by
      intro hy
      have := h.length_eq
      rw [hy, hn] at this
      simp at this
    -- The last element of the target is drawn first; the rest is a shorter shuffle.
    obtain ⟨j, hj, hjl⟩ := List.getElem_of_mem
      (h.subset (List.getLast_mem hy))
    obtain ⟨zs, hz⟩ := swap_to_last xs n j hn hj
    rw [hjl] at hz
    have hp : ys.dropLast.Perm zs := by
      have := h.trans (swap_perm xs n j).symm
      rw [hz] at this
      nth_rewrite 1 [← List.dropLast_append_getLast hy] at this
      exact (List.perm_append_right_iff _).mp this
    have hzl : zs.length = n := by
      have := congrArg List.length hz
      rw [length_swap, hn] at this
      simpa using this.symm
    obtain ⟨draw, hd⟩ := ih zs ys.dropLast hp hzl
    refine ⟨Function.update draw n ⟨j, by omega⟩, ?_⟩
    unfold shuffle at hd ⊢
    rw [hzl] at hd
    rw [hn, Nat.add_sub_cancel]
    cases n with
    | zero =>
      have hzn : zs = [] := List.eq_nil_of_length_eq_zero hzl
      have hj0 : j = 0 := by omega
      have hs : swap xs 0 j = xs := by
        subst hj0
        rw [swap_of_lt xs 0 0 hj hj, List.set_set, List.set_getElem_self]
      rw [hs, hzn, List.nil_append] at hz
      change xs = ys
      rw [hz]
      have hyn : ys.dropLast = [] := by rw [hzn] at hp; exact hp.eq_nil
      have := List.dropLast_append_getLast hy
      rw [hyn] at this
      exact this
    | succ n =>
      change shuffleFrom _ n (swap xs (n + 1) _) = ys
      rw [Function.update_self, hz, shuffleFrom_append _ _ _ _ (by omega),
        shuffleFrom_congr _ draw n zs (fun k hk ↦ Function.update_of_ne (by omega) _ _)]
      rw [show n + 1 - 1 = n from rfl] at hd
      rw [hd, List.dropLast_append_getLast hy]

end PocketAp.Base
