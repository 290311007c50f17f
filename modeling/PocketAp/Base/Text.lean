import Mathlib.Data.List.Infix
import PocketAp.Base.GoLib

/-!
# Searching and reading texts

Library `Base`. When a search for a marker in a composed text finds it in one of the parts;
lines, fields and decimal numbers as Go's `strings` and `strconv` read them.
-/

namespace PocketAp.Base

/-! ### Searching -/

/-- `strings.Contains` tells infixes. -/
theorem contains_iff (s m : String) : contains s m = true ↔ m.toList <:+: s.toList := by
  simp only [contains, List.any_eq_true, List.mem_tails, List.isPrefixOf_iff_prefix]
  rw [List.infix_iff_prefix_suffix]
  constructor
  · rintro ⟨t, hs, hp⟩
    exact ⟨t, hp, hs⟩
  · rintro ⟨t, hp, hs⟩
    exact ⟨t, hs, hp⟩

section Search

variable {α : Type}

/-- What does not contain a separator lies on one side of it. -/
theorem infix_append_cons_iff {c : α} {m : List α} (hc : c ∉ m) (xs ys : List α) :
    m <:+: xs ++ c :: ys ↔ m <:+: xs ∨ m <:+: ys := by
  constructor
  · rintro ⟨s, t, h⟩
    rcases List.append_eq_append_iff.mp h with ⟨l, hx, -⟩ | ⟨l, hx, hl⟩
    · exact .inl ⟨s, l, hx.symm⟩
    · cases l with
      | nil =>
        rw [List.append_nil] at hx
        exact .inl ⟨s, [], by rw [List.append_nil, hx]⟩
      | cons b l =>
        obtain ⟨rfl, rfl⟩ := List.cons.inj hl
        -- The separator is not in the marker, so it is in what stands before it.
        rcases List.append_eq_append_iff.mp hx with ⟨k, -, hk⟩ | ⟨k, -, hk⟩
        · exact absurd (hk ▸ by simp) hc
        · cases k with
          | nil => exact absurd (show c ∈ m by rw [← List.nil_append m, ← hk]; simp) hc
          | cons b' k =>
            obtain ⟨rfl, rfl⟩ := List.cons.inj hk
            exact .inr ⟨k, t, rfl⟩
  · rintro (h | h)
    · exact h.trans (List.prefix_append xs _).isInfix
    · exact h.trans ((List.suffix_cons c ys).trans (List.suffix_append xs _)).isInfix

/-- A marker that cannot start inside a text is found behind it only. -/
theorem infix_append_iff_of_disjoint {m pre : List α}
    (h : ∀ t ∈ pre.tails, t ≠ [] → ¬ t <+: m ∧ ¬ m <+: t) (ys : List α) :
    m <:+: pre ++ ys ↔ m <:+: ys := by
  constructor
  · rintro ⟨s, t, hs⟩
    rw [List.append_assoc] at hs
    rcases List.append_eq_append_iff.mp hs with ⟨l, hpre, hl⟩ | ⟨l, -, hl⟩
    · by_cases hne : l = []
      · subst hne
        exact ⟨[], t, by simpa using hl⟩
      · have hmem : l ∈ pre.tails := (List.mem_tails _ _).mpr ⟨s, hpre.symm⟩
        obtain ⟨h₁, h₂⟩ := h l hmem hne
        rcases List.append_eq_append_iff.mp hl with ⟨k, hk, -⟩ | ⟨k, hk, -⟩
        · exact absurd ⟨k, hk.symm⟩ h₂
        · exact absurd ⟨k, hk.symm⟩ h₁
    · exact ⟨l, t, by rw [List.append_assoc, ← hl]⟩
  · exact fun hm ↦ hm.trans (List.suffix_append pre ys).isInfix

end Search

/-! ### Reading -/

/-- `strings.Split` at a line break. -/
def splitLines : List Char → List (List Char)
  | [] => [[]]
  | '\r' :: '\n' :: rest => [] :: splitLines rest
  | c :: rest =>
    match splitLines rest with
    | [] => [[c]]
    | line :: lines => (c :: line) :: lines

/-- `strings.Cut` at a single code point; `none` when it is not there. -/
def cutAt (c : Char) (s : String) : Option (String × String) :=
  let before := s.toList.takeWhile (· ≠ c)
  match s.toList.drop before.length with
  | [] => none
  | _ :: after => some (String.ofList before, String.ofList after)

/-- ASCII digits. -/
def isDigit (c : Char) : Bool := '0' ≤ c ∧ c ≤ '9'

/-- A sign, if there is one, and at least one digit. -/
def parseDecimal (s : String) : Option Int :=
  let number (ds : List Char) : Option Nat :=
    if ds = [] ∨ ¬ ds.all isDigit then none
    else some (ds.foldl (fun n c ↦ 10 * n + (c.toNat - '0'.toNat)) 0)
  match s.toList with
  | '-' :: ds => (number ds).map (fun n ↦ -(n : Int))
  | '+' :: ds => (number ds).map (fun n ↦ (n : Int))
  | ds => (number ds).map (fun n ↦ (n : Int))

/-- What is wrong with a number. -/
inductive NumError where
  | malformed
  | range
  deriving DecidableEq, Repr

/-- `strconv.Atoi` for 64-bit integers: 0 for a malformed text, the nearest value for a number
out of range. -/
def atoi (s : String) : Int × Option NumError :=
  match parseDecimal s with
  | none => (0, some .malformed)
  | some n =>
    if 2 ^ 63 ≤ n then (2 ^ 63 - 1, some .range)
    else if n < -2 ^ 63 then (-2 ^ 63, some .range)
    else (n, none)

/-- `strconv.Atoi` answers zero for the number zero and for what is no number. -/
theorem atoi_eq_zero_iff (s : String) :
    (atoi s).1 = 0 ↔ parseDecimal s = none ∨ parseDecimal s = some 0 := by
  rw [atoi]
  cases parseDecimal s with
  | none => simp
  | some n =>
    simp only [reduceCtorEq, Option.some.injEq, false_or]
    split
    · next h =>
      simp only
      omega
    · split
      · next h =>
        simp only
        omega
      · rfl

example : atoi "-0" = (0, none) ∧ atoi "" = (0, some .malformed) ∧
    atoi "99999999999999999999" = (2 ^ 63 - 1, some .range) := by decide +kernel

end PocketAp.Base
