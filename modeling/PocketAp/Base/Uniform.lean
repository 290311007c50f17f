import Mathlib.Algebra.BigOperators.Fin
import Mathlib.Algebra.Order.BigOperators.Group.Finset
import Mathlib.Data.Fintype.BigOperators
import Mathlib.Data.List.InsertIdx
import Mathlib.Data.List.Perm.Basic
import Mathlib.Data.Nat.Factorial.BigOperators
import Mathlib.Data.Set.Card
import PocketAp.Base.Shuffle

/-!
# Counting the outcomes of a shuffle

Library `Base`. On a list without duplicates the draws of a shuffle can be read off its
outcome: the element at position `i` of the outcome says what was drawn at `i`. So no two
sequences of draws lead to the same order, and each element comes to each place equally
often.
-/

namespace PocketAp.Base

open scoped Nat

variable {α : Type}

/-! ### The outcome determines the draws -/

private theorem getElem?_swap_of_ne {xs : List α} {i j k : Nat} (hi : k ≠ i) (hj : k ≠ j) :
    (swap xs i j)[k]? = xs[k]? := by
  unfold swap
  split
  · rw [List.getElem?_set_ne (Ne.symm hj), List.getElem?_set_ne (Ne.symm hi)]
  · rfl

private theorem getElem?_swap_left {xs : List α} {i j : Nat} (hi : i < xs.length)
    (hj : j < xs.length) : (swap xs i j)[i]? = xs[j]? := by
  rw [swap_of_lt xs i j hi hj]
  by_cases hij : j = i
  · subst hij
    simp
  · rw [List.getElem?_set_ne hij, List.getElem?_set_self hi, List.getElem?_eq_getElem hj]

/-- Positions that the loop has passed are settled. -/
theorem getElem?_shuffleFrom_of_lt (draw : Draws) {i k : Nat} (h : i < k) (xs : List α) :
    (shuffleFrom draw i xs)[k]? = xs[k]? := by
  induction i generalizing xs with
  | zero => rfl
  | succ i ih =>
    have hd := (draw (i + 1)).isLt
    rw [shuffleFrom, ih (by omega), getElem?_swap_of_ne (by omega) (by omega)]

private theorem shuffleFrom_injective {draw draw' : Draws} {i : Nat} {xs : List α}
    (hn : xs.Nodup) (hi : i < xs.length)
    (h : shuffleFrom draw i xs = shuffleFrom draw' i xs) : ∀ k ≤ i, draw k = draw' k := by
  induction i generalizing xs with
  | zero =>
    intro k hk
    have hk : k = 0 := by omega
    subst hk
    exact Fin.ext (by omega)
  | succ i ih =>
    have hd (d : Draws) : (d (i + 1)).val < xs.length :=
      Nat.lt_of_le_of_lt (Nat.le_of_lt_succ (d (i + 1)).isLt) hi
    -- The loop goes on below `i + 1`, so that position still has what the draw put there.
    have hplace : xs[(draw (i + 1)).val]? = xs[(draw' (i + 1)).val]? := by
      have hat := congrArg (fun ys ↦ ys[i + 1]?) h
      simp only [shuffleFrom, getElem?_shuffleFrom_of_lt _ (Nat.lt_succ_self i)] at hat
      rwa [getElem?_swap_left hi (hd draw), getElem?_swap_left hi (hd draw')] at hat
    have hsame : draw (i + 1) = draw' (i + 1) := by
      rw [List.getElem?_eq_getElem (hd draw), List.getElem?_eq_getElem (hd draw'),
        Option.some.injEq, hn.getElem_inj_iff] at hplace
      exact Fin.ext hplace
    rw [shuffleFrom, shuffleFrom, hsame] at h
    have hlower := ih ((swap_perm xs _ _).nodup_iff.mpr hn) (by rw [length_swap]; omega) h
    intro k hk
    rcases Nat.lt_or_eq_of_le hk with hlt | rfl
    · exact hlower k (by omega)
    · exact hsame

/-- Draws that lead to the same order of distinct elements are the same. -/
theorem shuffle_injective {draw draw' : Draws} {xs : List α} (hn : xs.Nodup)
    (h : shuffle draw xs = shuffle draw' xs) : ∀ k < xs.length, draw k = draw' k := by
  intro k hk
  exact shuffleFrom_injective hn (by omega) h k (by omega)

/-! ### How many draws there are -/

/-- The draws of a shuffle of `n` elements; the one at position 0 has no choice. -/
abbrev DrawsBelow (n : Nat) := (k : Fin n) → Fin (k.val + 1)

/-- Draws for any length, of which only the first `n` matter. -/
def DrawsBelow.extend {n : Nat} (d : DrawsBelow n) : Draws := fun i ↦
  if h : i < n then d ⟨i, h⟩ else 0

/-- There are as many sequences of draws as permutations. -/
theorem card_drawsBelow (n : Nat) : Nat.card (DrawsBelow n) = n ! := by
  rw [Nat.card_eq_fintype_card, Fintype.card_pi]
  simp only [Fintype.card_fin]
  rw [Fin.prod_univ_eq_prod_range (fun k ↦ k + 1) n, Finset.prod_range_add_one_eq_factorial]

/-- Every order of distinct elements is what exactly one sequence of draws leads to. -/
theorem existsUnique_shuffle {xs order : List α} (hn : xs.Nodup) (h : order.Perm xs) :
    ∃! d : DrawsBelow xs.length, shuffle d.extend xs = order := by
  obtain ⟨draw, hdraw⟩ := exists_shuffle_eq xs order h
  refine ⟨fun k ↦ draw k, ?_, fun d hd ↦ ?_⟩
  · simp only
    rw [← hdraw]
    cases xs with
    | nil => rfl
    | cons x xs =>
      refine shuffleFrom_congr _ _ _ _ fun k hk ↦ ?_
      have hlt : k < (x :: xs).length := Nat.lt_succ_of_le hk
      simp only [DrawsBelow.extend, dif_pos hlt]
  · funext k
    have hk := shuffle_injective hn (hd.trans hdraw.symm) k k.isLt
    simpa only [DrawsBelow.extend, dif_pos k.isLt] using hk

private theorem ncard_perm {xs : List α} (hn : xs.Nodup) :
    {ys : List α | ys.Perm xs}.ncard = xs.length ! := by
  rw [← card_drawsBelow, ← Set.ncard_univ]
  symm
  refine Set.ncard_congr (fun d _ ↦ shuffle d.extend xs) ?_ ?_ ?_
  · exact fun d _ ↦ shuffle_perm d.extend xs
  · intro d d' _ _ h
    exact (existsUnique_shuffle hn (shuffle_perm d'.extend xs)).unique h rfl
  · intro order horder
    obtain ⟨d, hd, -⟩ := existsUnique_shuffle hn horder
    exact ⟨d, Set.mem_univ d, hd⟩

/-- An order with a given element at a given place leaves an order of the others. -/
private theorem eraseIdx_perm {as bs ys : List α} {x : α} {i : Nat} (hx : ys[i]? = some x)
    (h : ys.Perm (as ++ x :: bs)) : (ys.eraseIdx i).Perm (as ++ bs) := by
  obtain ⟨hi, rfl⟩ := List.getElem?_eq_some_iff.mp hx
  exact ((List.getElem_cons_eraseIdx_perm hi).trans (h.trans List.perm_middle)).cons_inv

private theorem eq_of_eraseIdx_eq {ys zs : List α} {x : α} {i : Nat} (hy : ys[i]? = some x)
    (hz : zs[i]? = some x) (h : ys.eraseIdx i = zs.eraseIdx i) : ys = zs := by
  obtain ⟨hi, hyx⟩ := List.getElem?_eq_some_iff.mp hy
  obtain ⟨hi', hzx⟩ := List.getElem?_eq_some_iff.mp hz
  rw [← List.insertIdx_eraseIdx_getElem hi, ← List.insertIdx_eraseIdx_getElem hi', hyx, hzx, h]

private theorem ncard_shuffle_place {xs : List α} (hn : xs.Nodup) {x : α} (hx : x ∈ xs) {i : Nat}
    (hi : i < xs.length) :
    {d : DrawsBelow xs.length | (shuffle d.extend xs)[i]? = some x}.ncard = (xs.length - 1)! := by
  obtain ⟨as, bs, hxs⟩ := List.append_of_mem hx
  have hrest : (as ++ bs).Nodup := by
    rw [hxs, List.nodup_middle, List.nodup_cons] at hn
    exact hn.2
  have hlen : (as ++ bs).length = xs.length - 1 := by simp [hxs]
  rw [← hlen, ← ncard_perm hrest]
  refine Set.ncard_congr (fun d _ ↦ (shuffle d.extend xs).eraseIdx i) ?_ ?_ ?_
  · intro d hd
    exact eraseIdx_perm hd ((shuffle_perm d.extend xs).trans (List.Perm.of_eq hxs))
  · intro d d' hd hd' h
    have hsame := eq_of_eraseIdx_eq hd hd' h
    exact (existsUnique_shuffle hn (shuffle_perm d'.extend xs)).unique hsame rfl
  · intro zs hzs
    have hzlen : i ≤ zs.length := by
      rw [hzs.length_eq, hlen]
      omega
    have horder : (zs.insertIdx i x).Perm xs :=
      (List.perm_insertIdx x zs hzlen).trans
        ((hzs.cons x).trans (List.perm_middle.symm.trans (List.Perm.of_eq hxs.symm)))
    obtain ⟨d, hd, -⟩ := existsUnique_shuffle hn horder
    refine ⟨d, ?_, ?_⟩
    · simp [hd, List.getElem?_insertIdx, hzlen]
    · simp only [hd, List.eraseIdx_insertIdx_self]

/-- Each element comes to each place by the same share of all draws. -/
theorem length_mul_ncard_shuffle_place {xs : List α} (hn : xs.Nodup) {x : α} (hx : x ∈ xs)
    {i : Nat} (hi : i < xs.length) :
    xs.length * {d : DrawsBelow xs.length | (shuffle d.extend xs)[i]? = some x}.ncard =
      Nat.card (DrawsBelow xs.length) := by
  rw [ncard_shuffle_place hn hx hi, card_drawsBelow]
  exact Nat.mul_factorial_pred (Nat.ne_zero_of_lt hi)

end PocketAp.Base
