import Mathlib.Data.List.Infix

/-!
# Histories

Library `Base`. A history is a list that only grows at its end. `latest` is what its most
recent entry of a kind says. `Throughout` is a property of each entry together with those
before it. A reader that looks more than once sees the history at different lengths:
`Between` says of what it saw that it is no older than the moment the reader came, and no
newer than now.
-/

namespace PocketAp.Base

section Latest

variable {α β : Type} (f : α → Option β)

/-- What the last entry that `f` selects says. -/
def latest (h : List α) : Option β := h.reverse.findSome? f

/-- The last event counts if it has something to say. -/
@[simp] theorem latest_concat (h : List α) (e : α) :
    latest f (h ++ [e]) = (f e).or (latest f h) := by
  unfold latest
  rw [List.reverse_append, List.reverse_singleton, List.singleton_append, List.findSome?_cons]
  cases f e <;> rfl

/-- What comes later counts first. -/
theorem latest_append (h h' : List α) : latest f (h ++ h') = (latest f h').or (latest f h) := by
  unfold latest
  rw [List.reverse_append, List.findSome?_append]

variable {f}

/-- Nothing was said by anything. -/
theorem latest_eq_none {h : List α} (hn : ∀ e ∈ h, f e = none) : latest f h = none := by
  rw [latest, List.findSome?_eq_none_iff]
  exact fun e he ↦ hn e (List.mem_reverse.mp he)

/-- Entries that say nothing can be left out. -/
theorem latest_filter {p : α → Bool} (hp : ∀ e, p e = false → f e = none) (h : List α) :
    latest f (h.filter p) = latest f h := by
  induction h using List.reverseRecOn with
  | nil => rfl
  | append_singleton h e ih =>
    rw [List.filter_append, latest_concat]
    by_cases he : p e = true
    · rw [List.filter_singleton, he, cond_true, latest_concat, ih]
    · rw [List.filter_singleton, Bool.eq_false_iff.mpr he, cond_false, List.append_nil, ih,
        hp e (Bool.eq_false_iff.mpr he), Option.none_or]

/-- What was said last was said by some event. -/
theorem latest_mem {h : List α} {b : β} (hb : latest f h = some b) : ∃ e ∈ h, f e = some b := by
  obtain ⟨e, he, hf⟩ := List.exists_of_findSome?_eq_some hb
  exact ⟨e, List.mem_reverse.mp he, hf⟩

/-- An entry is at most as recent as the latest of its kind. -/
theorem latest_of_mem {R : α → α → Prop} (hrefl : ∀ e, R e e) {h : List α} (hh : h.Pairwise R)
    {e : α} (he : e ∈ h) (hf : (f e).isSome) :
    ∃ e' b, f e' = some b ∧ latest f h = some b ∧ R e e' := by
  induction h using List.reverseRecOn with
  | nil => cases he
  | append_singleton h last ih =>
    obtain ⟨hh, -, hlast⟩ := List.pairwise_append.mp hh
    rw [latest_concat]
    cases hl : f last with
    | some b =>
      refine ⟨last, b, hl, rfl, ?_⟩
      rcases List.mem_append.mp he with he | he
      · exact hlast e he last (List.mem_singleton_self last)
      · cases List.mem_singleton.mp he
        exact hrefl e
    | none =>
      rcases List.mem_append.mp he with he | he
      · exact ih hh he
      · cases List.mem_singleton.mp he
        simp [hl] at hf

/-- What was said once is not unsaid. -/
theorem latest_isSome_of_prefix {h h' : List α} (hp : h <+: h') (hs : (latest f h).isSome) :
    (latest f h').isSome := by
  obtain ⟨more, rfl⟩ := hp
  induction more using List.reverseRecOn with
  | nil => simpa using hs
  | append_singleton more last ih =>
    rw [← List.append_assoc, latest_concat]
    cases f last with
    | some b => rfl
    | none => exact ih

end Latest

section Throughout

variable {α : Type}

/-- Each entry, together with the entries before it. -/
def Throughout (Q : List α → α → Prop) (h : List α) : Prop :=
  ∀ past e future, h = past ++ e :: future → Q past e

variable {Q : List α → α → Prop}

/-- Nothing happened. -/
theorem throughout_nil : Throughout Q [] := by
  intro past e future h
  simp at h

/-- What holds throughout holds of both parts, the second with the first as its past. -/
theorem throughout_append {h h' : List α} :
    Throughout Q (h ++ h') ↔ Throughout Q h ∧ Throughout (fun past ↦ Q (h ++ past)) h' := by
  constructor
  · intro hq
    refine ⟨?_, ?_⟩
    · rintro past e future rfl
      exact hq past e (future ++ h') (by simp)
    · rintro past e future rfl
      exact hq (h ++ past) e future (by simp)
  · rintro ⟨hq, hq'⟩ past e future heq
    rcases List.append_eq_append_iff.mp heq with ⟨l, rfl, hl⟩ | ⟨l, hl, hr⟩
    · exact hq' l e future hl
    · cases l with
      | nil =>
        rw [List.append_nil] at hl
        subst hl
        simpa using hq' [] e future hr.symm
      | cons x l =>
        cases hr
        exact hq past e l hl

/-- The first event has no past, and the others have it in theirs. -/
theorem throughout_cons {e : α} {h : List α} :
    Throughout Q (e :: h) ↔ Q [] e ∧ Throughout (fun past ↦ Q (e :: past)) h := by
  rw [← List.singleton_append, throughout_append]
  refine and_congr_left' ⟨fun hq ↦ hq [] e [] rfl, ?_⟩
  rintro hq past e' future heq
  cases past with
  | nil =>
    cases heq
    exact hq
  | cons x past => simp at heq

/-- What holds of every event whatever its past. -/
theorem throughout_of_forall {h : List α} (hq : ∀ e ∈ h, ∀ past, Q past e) : Throughout Q h := by
  rintro past e future rfl
  exact hq e (by simp) past

/-- A weaker property holds throughout too. -/
theorem Throughout.imp {Q' : List α → α → Prop} {h : List α} (hq : Throughout Q h)
    (himp : ∀ past e, Q past e → Q' past e) : Throughout Q' h :=
  fun past e future heq ↦ himp past e (hq past e future heq)

/-- What a longer past cannot spoil holds throughout two histories in a row. -/
theorem Throughout.append {h h' : List α} (hmono : ∀ more past e, Q past e → Q (more ++ past) e)
    (hq : Throughout Q h) (hq' : Throughout Q h') : Throughout Q (h ++ h') :=
  throughout_append.mpr ⟨hq, hq'.imp (hmono h)⟩

/-- Entries of no concern can be left out. -/
theorem Throughout.of_filter {p : α → Bool} (hskip : ∀ past e, p e = false → Q past e)
    (hfilter : ∀ past e, Q (past.filter p) e → Q past e) {h : List α}
    (hq : Throughout Q (h.filter p)) : Throughout Q h := by
  rintro past e future rfl
  by_cases he : p e = true
  · refine hfilter past e (hq (past.filter p) e (future.filter p) ?_)
    rw [List.filter_append, List.filter_cons_of_pos he]
  · exact hskip past e (Bool.eq_false_iff.mpr he)

end Throughout

section Between

variable {α : Type}

/-- `view` is the history at a moment between `since` and now. -/
structure Between (since view now : List α) : Prop where
  after : since <+: view
  upTo : view <+: now

/-- What was seen in between stays so while the history grows. -/
theorem Between.grow {since view now later : List α} (h : Between since view now)
    (hl : now <+: later) : Between since view later :=
  ⟨h.after, h.upTo.trans hl⟩

/-- The present is seen at once. -/
theorem between_now {since now : List α} (h : since <+: now) : Between since now now :=
  ⟨h, List.prefix_rfl⟩

end Between

end PocketAp.Base
