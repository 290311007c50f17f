import Mathlib.Data.List.Basic
import Mathlib.Data.List.Infix

/-!
# Greedy splitting at a delimiter

Library `Base`. `index` is the first occurrence of a pattern in a list; `segments`
cuts a list at successive first occurrences of a nonempty delimiter, leaving the
unterminated tail apart. Both are stable under extension of the input, which is what
lets a reader split a stream it has only partly received.
-/

namespace PocketAp.Base

variable {α : Type}

/-- A delimiter has at least one symbol. -/
structure Delimiter (α : Type) where
  symbols : List α
  ne_nil : symbols ≠ []

/-- A delimiter's length is positive. -/
theorem Delimiter.length_pos (d : Delimiter α) : 0 < d.symbols.length :=
  List.length_pos_iff.mpr d.ne_nil

variable [DecidableEq α]

/-- Position of the first occurrence of `d`, if there is one. -/
def index (d : List α) : List α → Option Nat
  | [] => if d = [] then some 0 else none
  | x :: xs => if d.isPrefixOf (x :: xs) then some 0 else (index d xs).map (· + 1)

/-- An occurrence found by `index` lies inside the list. -/
theorem index_add_le {d w : List α} {i : Nat} (h : index d w = some i) :
    i + d.length ≤ w.length := by
  induction w generalizing i with
  | nil =>
    simp only [index] at h
    split at h
    · next hd =>
      cases h
      simp [hd]
    · cases h
  | cons x xs ih =>
    simp only [index] at h
    split at h
    · next hp =>
      have hl := (List.isPrefixOf_iff_prefix.mp hp).length_le
      cases h
      simpa using hl
    · obtain ⟨j, hj, rfl⟩ := Option.map_eq_some_iff.mp h
      have := ih hj
      simp only [List.length_cons]
      omega

/-- The occurrence found by `index` is an occurrence. -/
theorem index_prefix {d w : List α} {i : Nat} (h : index d w = some i) :
    d <+: w.drop i := by
  induction w generalizing i with
  | nil =>
    simp only [index] at h
    split at h
    · next hd => simp [hd]
    · cases h
  | cons x xs ih =>
    simp only [index] at h
    split at h
    · next hp =>
      cases h
      simpa using List.isPrefixOf_iff_prefix.mp hp
    · obtain ⟨j, hj, rfl⟩ := Option.map_eq_some_iff.mp h
      simpa using ih hj

/-- An occurrence anywhere in the list is found, at its own position or earlier. -/
theorem index_of_prefix {d w : List α} {j : Nat} (hj : j ≤ w.length) (h : d <+: w.drop j) :
    ∃ i, i ≤ j ∧ index d w = some i := by
  induction w generalizing j with
  | nil =>
    have hz : d = [] := by simpa using h
    exact ⟨0, Nat.zero_le _, by simp [index, hz]⟩
  | cons x xs ih =>
    by_cases hp : d.isPrefixOf (x :: xs) = true
    · exact ⟨0, Nat.zero_le _, by simp [index, hp]⟩
    · cases j with
      | zero => exact absurd (List.isPrefixOf_iff_prefix.mpr (by simpa using h)) hp
      | succ j =>
        obtain ⟨i, hi, he⟩ := ih (by simpa using hj) (by simpa using h)
        exact ⟨i + 1, Nat.succ_le_succ hi, by simp [index, hp, he]⟩

/-- A found occurrence stays the first one when the list grows. -/
theorem index_append_some {d w : List α} {i : Nat} (h : index d w = some i) (v : List α) :
    index d (w ++ v) = some i := by
  induction w generalizing i with
  | nil =>
    simp only [index] at h
    split at h
    · next hd =>
      cases h
      cases v with
      | nil => simp [index, hd]
      | cons y ys => simp [index, hd]
    · cases h
  | cons x xs ih =>
    simp only [index] at h
    split at h
    · next hp =>
      cases h
      have hp' : d.isPrefixOf (x :: (xs ++ v)) = true :=
        List.isPrefixOf_iff_prefix.mpr
          ((List.isPrefixOf_iff_prefix.mp hp).trans (List.prefix_append (x :: xs) v))
      simp [index, hp']
    · next hp =>
      obtain ⟨j, hj, rfl⟩ := Option.map_eq_some_iff.mp h
      have hn : ¬ d.isPrefixOf (x :: (xs ++ v)) = true := by
        intro hp'
        have hx := List.isPrefixOf_iff_prefix.mp hp'
        have hl := index_add_le hj
        have hw : d <+: x :: xs :=
          List.prefix_of_prefix_length_le hx (List.prefix_append (x :: xs) v)
            (by simp only [List.length_cons]; omega)
        exact hp (List.isPrefixOf_iff_prefix.mpr hw)
      simp [index, hn, ih hj]

/-- An occurrence that appears only once the list has grown ends in the new part. -/
theorem index_append_none {d w v : List α} {i : Nat} (hn : index d w = none)
    (h : index d (w ++ v) = some i) : w.length < i + d.length := by
  by_contra hc
  have hle : i + d.length ≤ w.length := by omega
  have hp := index_prefix h
  rw [List.drop_append_of_le_length (by omega)] at hp
  have hw : d <+: w.drop i :=
    List.prefix_of_prefix_length_le hp (List.prefix_append _ _) (by
      rw [List.length_drop]; omega)
  obtain ⟨j, -, hj⟩ := index_of_prefix (by omega) hw
  rw [hn] at hj
  cases hj

/-- `index` finds nothing exactly when the pattern does not occur. -/
theorem index_eq_none_iff {d w : List α} : index d w = none ↔ ¬d <:+: w := by
  constructor
  · rintro h ⟨a, c, rfl⟩
    have hp : d <+: (a ++ d ++ c).drop a.length := by
      rw [List.append_assoc, List.drop_left]
      exact List.prefix_append d c
    obtain ⟨i, -, hi⟩ := index_of_prefix (by simp only [List.length_append]; omega) hp
    rw [h] at hi
    cases hi
  · intro h
    cases hi : index d w with
    | none => rfl
    | some i =>
      have hp := index_prefix hi
      exact absurd (hp.isInfix.trans (List.drop_suffix i w).isInfix) h

/-! ### A list and a delimiter after it -/

/-- The first `k` symbols of a delimiter are its last ones as well. -/
def IsBorder (d : List α) (k : Nat) : Prop := d.drop (d.length - k) = d.take k

instance (d : List α) (k : Nat) : Decidable (IsBorder d k) := inferInstanceAs (Decidable (_ = _))

/-- The delimiter found first is the one that was put there. -/
def EndsAtDelimiter (d : Delimiter α) (b : List α) : Prop :=
  index d.symbols (b ++ d.symbols) = some b.length

omit [DecidableEq α] in
/-- An occurrence that starts in the list and ends in the delimiter shows a border. -/
private theorem overlap_border {d b : List α} {i : Nat} (hp : d <+: b.drop i ++ d)
    (hi : i < b.length) (hover : b.length < i + d.length) :
    ∃ k, 0 < k ∧ k < d.length ∧ IsBorder d k ∧ d.take (d.length - k) <:+ b := by
  have hlen : (b.drop i).length = b.length - i := List.length_drop
  have hstart : b.drop i <+: d :=
    List.prefix_of_prefix_length_le (List.prefix_append _ d) hp (by omega)
  have htake : d.take (b.length - i) = b.drop i := by
    rw [← hlen]
    exact (List.prefix_iff_eq_take.mp hstart).symm
  refine ⟨i + d.length - b.length, by omega, by omega, ?_, ?_⟩
  · have hd : d.drop (b.length - i) <+: d := by
      rw [← htake] at hp
      have hsplit := List.take_append_drop (b.length - i) d
      exact (List.prefix_append_right_inj (d.take (b.length - i))).mp (by rwa [hsplit])
    unfold IsBorder
    have hk : d.length - (i + d.length - b.length) = b.length - i := by omega
    rw [hk, List.prefix_iff_eq_take.mp hd, List.length_drop]
    congr 1
    omega
  · have hk : d.length - (i + d.length - b.length) = b.length - i := by omega
    rw [hk, htake]
    exact List.drop_suffix i b

/-- The delimiter put after a list is found first exactly when it does not occur in the list
and no occurrence starts in the list and ends in the delimiter. -/
theorem endsAtDelimiter_iff (d : Delimiter α) (b : List α) :
    EndsAtDelimiter d b ↔ ¬d.symbols <:+: b ∧ ∀ k, 0 < k → k < d.symbols.length →
      IsBorder d.symbols k → ¬d.symbols.take (d.symbols.length - k) <:+ b := by
  have hd := d.length_pos
  unfold EndsAtDelimiter
  constructor
  · intro h
    constructor
    · intro hin
      cases hi : index d.symbols b with
      | none => exact index_eq_none_iff.mp hi hin
      | some i =>
        have hle := index_add_le hi
        rw [index_append_some hi] at h
        cases h
        omega
    · rintro k hk hkd hborder ⟨c, rfl⟩
      have hp : d.symbols <+: (c ++ d.symbols.take (d.symbols.length - k) ++ d.symbols).drop
          c.length := by
        rw [List.append_assoc, List.drop_left]
        have hsplit := List.take_append_drop (d.symbols.length - k) d.symbols
        rw [hborder] at hsplit
        have hpre := (List.prefix_append_right_inj (d.symbols.take (d.symbols.length - k))).mpr
          (List.take_prefix k d.symbols)
        rwa [hsplit] at hpre
      obtain ⟨i, hi, hfound⟩ := index_of_prefix
        (by simp only [List.length_append, List.length_take]; omega) hp
      rw [hfound] at h
      cases h
      simp only [List.length_append, List.length_take] at hi
      omega
  · rintro ⟨hin, hborder⟩
    have hp : d.symbols <+: (b ++ d.symbols).drop b.length := by
      rw [List.drop_left]
    obtain ⟨i, hle, hi⟩ := index_of_prefix (by simp only [List.length_append]; omega) hp
    rw [hi]
    congr 1
    by_contra hne
    have hlt : i < b.length := by omega
    have hpi := index_prefix hi
    rw [List.drop_append_of_le_length (by omega)] at hpi
    by_cases hover : b.length < i + d.symbols.length
    · obtain ⟨k, hk, hkd, hb, hsuf⟩ := overlap_border hpi hlt hover
      exact hborder k hk hkd hb hsuf
    · have hpb : d.symbols <+: b.drop i :=
        List.prefix_of_prefix_length_le hpi (List.prefix_append _ _)
          (by rw [List.length_drop]; omega)
      exact hin (hpb.isInfix.trans (List.drop_suffix i b).isInfix)

/-! ### Segments -/

/-- Delimiter-terminated segments in order, and the unterminated tail. -/
def segments (d : Delimiter α) (w : List α) : List (List α) × List α :=
  match _h : index d.symbols w with
  | none => ([], w)
  | some i =>
    let rest := segments d (w.drop (i + d.symbols.length))
    (w.take i :: rest.1, rest.2)
termination_by w.length
decreasing_by
  have hi := index_add_le _h
  have hd := d.length_pos
  rw [List.length_drop]
  omega

/-- Without an occurrence everything is tail. -/
theorem segments_of_none {d : Delimiter α} {w : List α} (h : index d.symbols w = none) :
    segments d w = ([], w) := by
  rw [segments]
  split
  · rfl
  · next i hi => rw [h] at hi; cases hi

/-- The first occurrence ends the first segment. -/
theorem segments_of_some {d : Delimiter α} {w : List α} {i : Nat}
    (h : index d.symbols w = some i) :
    segments d w = (w.take i :: (segments d (w.drop (i + d.symbols.length))).1,
      (segments d (w.drop (i + d.symbols.length))).2) := by
  rw [segments]
  split
  · next hn => rw [h] at hn; cases hn
  · next j hj =>
    rw [h] at hj
    cases hj
    rfl

/-- No delimiter occurs in the tail. -/
theorem index_tail (d : Delimiter α) (w : List α) :
    index d.symbols (segments d w).2 = none := by
  induction hn : w.length using Nat.strongRecOn generalizing w with
  | ind n ih =>
    cases h : index d.symbols w with
    | none => rw [segments_of_none h]; exact h
    | some i =>
      rw [segments_of_some h]
      apply ih _ _ _ rfl
      have hi := index_add_le h
      have hd := d.length_pos
      rw [List.length_drop]
      omega

/-- Nor in a segment. -/
theorem index_segment (d : Delimiter α) (w s : List α) (h : s ∈ (segments d w).1) :
    index d.symbols s = none := by
  induction hn : w.length using Nat.strongRecOn generalizing w with
  | ind n ih =>
    cases hx : index d.symbols w with
    | none => rw [segments_of_none hx] at h; cases h
    | some i =>
      have hi := index_add_le hx
      have hd := d.length_pos
      rw [segments_of_some hx] at h
      rcases List.mem_cons.mp h with rfl | hm
      · cases hs : index d.symbols (w.take i) with
        | none => rfl
        | some j =>
          have hj := index_add_le hs
          have hw := index_append_some hs (w.drop i)
          rw [List.take_append_drop, hx] at hw
          cases hw
          rw [List.length_take] at hj
          omega
      · exact ih _ (by rw [List.length_drop]; omega) _ hm rfl

end PocketAp.Base
