import PocketAp.Base.Shuffle

/-!
# Slices in memory

Library `Base`. A slice made with enough capacity is an address of a backing array;
appending and exchanging elements write through it. The frame lemmas say that such writes
are seen at that address only.
-/

namespace PocketAp.Base

/-- Backing arrays by address. -/
structure Memory (α : Type) where
  arrays : List (List α)

namespace Memory

variable {α : Type}

/-- Content of the array at an address. -/
def get (m : Memory α) (a : Nat) : List α := m.arrays.getD a []

/-- `make([]T, 0, n)`: an empty array at a fresh address. -/
def alloc (m : Memory α) : Memory α × Nat := (⟨m.arrays ++ [[]]⟩, m.arrays.length)

/-- `append` within the capacity. -/
def push (m : Memory α) (a : Nat) (x : α) : Memory α := ⟨m.arrays.modify a (· ++ [x])⟩

/-- `s[i], s[j] = s[j], s[i]`. -/
def swapAt (m : Memory α) (a i j : Nat) : Memory α := ⟨m.arrays.modify a (swap · i j)⟩

/-- Append in order the elements of a list that satisfy a test. -/
def pushAll (a : Nat) (p : α → Bool) : List α → Memory α → Memory α
  | [], m => m
  | x :: xs, m => pushAll a p xs (if p x then m.push a x else m)

/-- The loop of `rand.Shuffle` on the array at an address, from position `i` down to 1. -/
def shuffleAt (draw : Draws) (a : Nat) : Nat → Memory α → Memory α
  | 0, m => m
  | i + 1, m => shuffleAt draw a i (m.swapAt a (i + 1) (draw (i + 1)))

/-- `m'` has what `m` has at every address of `m`. -/
def Extends (m m' : Memory α) : Prop :=
  m.arrays.length ≤ m'.arrays.length ∧ ∀ b, b < m.arrays.length → m'.get b = m.get b

/-- What is kept twice is kept. -/
theorem Extends.trans {m₁ m₂ m₃ : Memory α} (h : m₁.Extends m₂) (h' : m₂.Extends m₃) :
    m₁.Extends m₃ := by
  refine ⟨Nat.le_trans h.1 h'.1, ?_⟩
  intro b hb
  rw [h'.2 b (Nat.lt_of_lt_of_le hb h.1), h.2 b hb]

private theorem get_modify_self (m : Memory α) (a : Nat) (f : List α → List α)
    (h : a < m.arrays.length) : get ⟨m.arrays.modify a f⟩ a = f (m.get a) := by
  simp [get, h]

private theorem get_modify_ne (m : Memory α) (a b : Nat) (f : List α → List α) (h : a ≠ b) :
    get ⟨m.arrays.modify a f⟩ b = m.get b := by
  simp [get, h]

/-- A fresh array changes no other. -/
theorem extends_alloc (m : Memory α) : m.Extends m.alloc.1 := by
  constructor
  · simp [alloc]
  · intro b hb
    simp [alloc, get, List.getElem?_append_left hb]

/-- A fresh array is empty. -/
theorem get_alloc (m : Memory α) : m.alloc.1.get m.alloc.2 = [] := by
  simp [alloc, get]

/-! ### The two loops -/

/-- Appending in a loop builds the filtered list, at its own address only. -/
theorem pushAll_spec (a : Nat) (p : α → Bool) (xs : List α) (m : Memory α)
    (ha : a < m.arrays.length) :
    (pushAll a p xs m).get a = m.get a ++ xs.filter p ∧
      (pushAll a p xs m).arrays.length = m.arrays.length ∧
      ∀ b, b ≠ a → (pushAll a p xs m).get b = m.get b := by
  induction xs generalizing m with
  | nil => simp [pushAll]
  | cons x xs ih =>
    by_cases hp : p x = true
    · have hl : (m.push a x).arrays.length = m.arrays.length := by simp [push]
      obtain ⟨h1, h2, h3⟩ := ih (m.push a x) (by rw [hl]; exact ha)
      simp only [pushAll, hp, if_true]
      refine ⟨?_, h2.trans hl, ?_⟩
      · rw [h1, push, get_modify_self m a _ ha, List.filter_cons_of_pos hp, List.append_assoc]
        rfl
      · intro b hb
        rw [h3 b hb, push, get_modify_ne m a b _ (Ne.symm hb)]
    · obtain ⟨h1, h2, h3⟩ := ih m ha
      simp only [pushAll, hp]
      refine ⟨?_, h2, h3⟩
      rw [List.filter_cons_of_neg hp]
      exact h1

/-- Shuffling in place, at its own address only. -/
theorem shuffleAt_spec (draw : Draws) (a i : Nat) (m : Memory α) (ha : a < m.arrays.length) :
    (shuffleAt draw a i m).get a = shuffleFrom draw i (m.get a) ∧
      (shuffleAt draw a i m).arrays.length = m.arrays.length ∧
      ∀ b, b ≠ a → (shuffleAt draw a i m).get b = m.get b := by
  induction i generalizing m with
  | zero => exact ⟨rfl, rfl, fun _ _ ↦ rfl⟩
  | succ i ih =>
    have hl : (m.swapAt a (i + 1) (draw (i + 1))).arrays.length = m.arrays.length := by
      simp [swapAt]
    obtain ⟨h1, h2, h3⟩ := ih (m.swapAt a (i + 1) (draw (i + 1))) (by rw [hl]; exact ha)
    refine ⟨?_, h2.trans hl, ?_⟩
    · rw [shuffleAt, h1, swapAt, get_modify_self m a _ ha]
      rfl
    · intro b hb
      rw [shuffleAt, h3 b hb, swapAt, get_modify_ne m a b _ (Ne.symm hb)]

end Memory
end PocketAp.Base
