import PocketAp.Base.GoLib

/-!
# Host names and ports

Library `Base`. What `net.SplitHostPort` accepts, as a grammar: a host without colons or an
address in brackets, a colon and a port. And what a suffix test means for names made of
labels.
-/

namespace PocketAp.Base

/-- A check of every element; for `decide`, which would else try every code point. -/
theorem forall_mem_of_all {α : Type} {p : α → Prop} [DecidablePred p] {l : List α}
    (h : l.all (fun a ↦ decide (p a)) = true) : ∀ a ∈ l, p a :=
  fun a ha ↦ of_decide_eq_true (List.all_eq_true.mp h a ha)

/-! ### Labels -/

section Labels

variable {α : Type} [DecidableEq α]

private theorem splitOn_append_cons (c : α) (xs ys : List α) :
    (xs ++ c :: ys).splitOn c = xs.splitOn c ++ ys.splitOn c := by
  simp only [List.splitOn_eq_splitOnP]
  exact List.splitOnP_append_cons xs ys (by simp)

omit [DecidableEq α] in
private theorem intercalate_append (c : α) {xs ys : List (List α)} (hx : xs ≠ []) (hy : ys ≠ []) :
    [c].intercalate (xs ++ ys) = [c].intercalate xs ++ c :: [c].intercalate ys := by
  induction xs with
  | nil => exact absurd rfl hx
  | cons x xs ih =>
    cases xs with
    | nil =>
      rw [List.cons_append, List.nil_append, List.intercalate_cons_of_ne_nil hy]
      simp
    | cons x' xs =>
      have hne : x' :: xs ++ ys ≠ [] := by simp
      have hne' : x' :: xs ≠ [] := by simp
      rw [List.cons_append, List.intercalate_cons_of_ne_nil hne, ih hne',
        List.intercalate_cons_of_ne_nil hne']
      simp

/-- A suffix that starts with a separator cuts between two labels. -/
theorem cons_suffix_iff (c : α) (ys xs : List α) :
    c :: ys <:+ xs ↔ ∃ ls, ls ≠ [] ∧ xs.splitOn c = ls ++ ys.splitOn c := by
  constructor
  · rintro ⟨pre, rfl⟩
    exact ⟨pre.splitOn c, List.splitOn_ne_nil c pre, splitOn_append_cons c pre ys⟩
  · rintro ⟨ls, hls, h⟩
    refine ⟨[c].intercalate ls, ?_⟩
    have hx := @List.intercalate_splitOn _ xs _ _ c
    rw [h, intercalate_append c hls (List.splitOn_ne_nil c ys), List.intercalate_splitOn] at hx
    exact hx

end Labels

/-! ### The last occurrence -/

/-- A code point does not occur, or the text is cut at its last occurrence. -/
inductive LastIndex (c : Char) : List Char → Option Nat → Prop where
  | absent {s : List Char} (h : c ∉ s) : LastIndex c s none
  | found (xs : List Char) {ys : List Char} (h : c ∉ ys) :
      LastIndex c (xs ++ c :: ys) (some xs.length)

/-- What the search for the last `c` finds. -/
theorem lastIndex_cases (c : Char) (s : List Char) : LastIndex c s (lastIndex c s) := by
  induction s with
  | nil => exact .absent (by simp)
  | cons x s ih =>
    rw [lastIndex]
    generalize lastIndex c s = i at ih ⊢
    cases ih with
    | found xs h => exact .found (x :: xs) h
    | absent h =>
      by_cases hx : x = c
      · subst hx
        simp only [if_true]
        exact .found [] h
      · simp only [hx, if_false]
        exact .absent (by simp [Ne.symm hx, h])

/-- The last separator of a text is where the rest has none. -/
theorem append_cons_inj {c : Char} {xs ys xs' ys' : List Char} (h : xs ++ c :: ys = xs' ++ c :: ys')
    (hy : c ∉ ys) (hy' : c ∉ ys') : xs = xs' ∧ ys = ys' := by
  rcases List.append_eq_append_iff.mp h with ⟨l, hx, hl⟩ | ⟨l, hx, hl⟩
  · cases l with
    | nil => simpa [hx] using hl
    | cons a l =>
      have hmem : c ∈ ys := by
        rw [(List.cons.inj hl).2]
        simp
      exact absurd hmem hy
  · cases l with
    | nil => simpa [hx] using hl.symm
    | cons a l =>
      have hmem : c ∈ ys' := by
        rw [(List.cons.inj hl).2]
        simp
      exact absurd hmem hy'

/-- The last `c` is the one after which there is none. -/
theorem lastIndex_append_cons {c : Char} (xs : List Char) {ys : List Char} (h : c ∉ ys) :
    lastIndex c (xs ++ c :: ys) = some xs.length := by
  have hi := lastIndex_cases c (xs ++ c :: ys)
  generalize hs : xs ++ c :: ys = s at hi ⊢
  generalize lastIndex c s = i at hi ⊢
  cases hi with
  | absent hn => exact absurd (hs ▸ by simp) hn
  | found xs' h' => rw [(append_cons_inj hs h h').1]

/-- No `c` is found where there is none. -/
theorem lastIndex_of_notMem {c : Char} {s : List Char} (h : c ∉ s) : lastIndex c s = none := by
  have hi := lastIndex_cases c s
  generalize lastIndex c s = i at hi ⊢
  cases hi with
  | absent _ => rfl
  | found xs _ => simp at h

/-! ### `net.SplitHostPort` -/

/-- No colon and no bracket. -/
def Plain (s : List Char) : Prop := ':' ∉ s ∧ '[' ∉ s ∧ ']' ∉ s

instance (s : List Char) : Decidable (Plain s) := inferInstanceAs (Decidable (_ ∧ _))

/-- A host as it stands before a port, and the host itself: a plain name, or an address in
brackets. -/
inductive BareHost : List Char → List Char → Prop where
  | name {host : List Char} (h : Plain host) : BareHost host host
  | literal {host : List Char} (ho : '[' ∉ host) (hc : ']' ∉ host) :
      BareHost ('[' :: host ++ [']']) host

/-- A colon in a host stands inside the brackets. -/
theorem BareHost.closes {xs ys host : List Char} (h : BareHost (xs ++ ':' :: ys) host) :
    ']' ∈ ys := by
  generalize hw : xs ++ ':' :: ys = written at h
  cases h with
  | name h => exact absurd (by rw [← hw]; simp) h.1
  | literal ho hc =>
    have hlast := congrArg List.getLast? hw
    rw [List.getLast?_append_of_ne_nil _ (by simp), List.getLast?_append_of_ne_nil _ (by simp),
      List.getLast?_cons] at hlast
    cases hy : ys.getLast? with
    | none => simp [hy] at hlast
    | some c =>
      simp only [hy, Option.getD_some, List.getLast?_singleton, Option.some.injEq] at hlast
      exact hlast ▸ List.mem_of_getLast? hy

private theorem splitHostPort?_none {s : List Char} (h : lastIndex ':' s = none) :
    splitHostPort? (String.ofList s) = none := by
  unfold splitHostPort?
  simp only [String.toList_ofList, h]

private theorem splitHostPort?_name {s : List Char} {i : Nat} (h : lastIndex ':' s = some i)
    (hs : ∀ t, s ≠ '[' :: t) :
    splitHostPort? (String.ofList s) =
      if ':' ∈ s.take i ∨ '[' ∈ s ∨ ']' ∈ s then none
      else some (String.ofList (s.take i), String.ofList (s.drop (i + 1))) := by
  unfold splitHostPort?
  simp only [String.toList_ofList, h]

private theorem splitHostPort?_literal {t : List Char} {i : Nat}
    (h : lastIndex ':' ('[' :: t) = some i) :
    splitHostPort? (String.ofList ('[' :: t)) =
      match ('[' :: t).findIdx? (· = ']') with
      | none => none
      | some e =>
        if e + 1 = i ∧ '[' ∉ t ∧ ']' ∉ ('[' :: t).drop (e + 1) then
          some (String.ofList ((('[' :: t).take e).drop 1), String.ofList (('[' :: t).drop (i + 1)))
        else none := by
  unfold splitHostPort?
  rewrite [String.toList_ofList]
  dsimp only
  rewrite [h]
  rfl

/-- Where the first closing bracket is. -/
private theorem findIdx?_append_cons {xs ys : List Char} (h : ']' ∉ xs) :
    (xs ++ ']' :: ys).findIdx? (· = ']') = some xs.length := by
  have hnone : xs.findIdx? (fun c ↦ decide (c = ']')) = none := by
    rw [List.findIdx?_eq_none_iff]
    intro c hc
    exact decide_eq_false (fun heq ↦ h (heq ▸ hc))
  simp [List.findIdx?_append, hnone, List.findIdx?_cons]

/-- A host and a plain port are split where they were joined. -/
theorem splitHostPort?_of_bareHost {written host port : List Char} (hb : BareHost written host)
    (hp : Plain port) :
    splitHostPort? (String.ofList (written ++ ':' :: port)) =
      some (String.ofList host, String.ofList port) := by
  have hlast := lastIndex_append_cons written hp.1
  cases hb with
  | name h =>
    rw [splitHostPort?_name hlast, if_neg]
    · simp
    · simp [h.1, h.2.1, h.2.2, hp.2.1, hp.2.2]
    · intro t ht
      have hmem : '[' ∈ written ++ ':' :: port := by simp [ht]
      simp [h.2.1, hp.2.1] at hmem
  | literal ho hc =>
    have hidx := @findIdx?_append_cons ('[' :: host) (':' :: port) (by simp [hc])
    have hshape : '[' :: host ++ [']'] ++ ':' :: port = '[' :: (host ++ ']' :: ':' :: port) := by
      simp
    rw [hshape] at hlast ⊢
    rw [splitHostPort?_literal hlast]
    simp only [List.cons_append] at hidx
    rw [hidx]
    dsimp only
    rw [if_pos]
    · simp
    · simp [ho, hp.2.1, hp.2.2]

private theorem eq_append_of_findIdx? {s : List Char} {e : Nat}
    (h : s.findIdx? (· = ']') = some e) :
    ∃ us vs, s = us ++ ']' :: vs ∧ ']' ∉ us ∧ us.length = e := by
  have hmem : ']' ∈ s := by
    by_contra hn
    rw [List.findIdx?_eq_none_iff.mpr] at h
    · cases h
    · intro c hc
      exact decide_eq_false (fun heq ↦ hn (heq ▸ hc))
  obtain ⟨us, vs, hs, hn⟩ := List.eq_append_cons_of_mem hmem
  rw [hs, findIdx?_append_cons hn] at h
  exact ⟨us, vs, hs, hn, Option.some.inj h⟩

section SplitAtLastColon

variable {xs ys : List Char} {host port : String} (hy : ':' ∉ ys)
  (h : splitHostPort? (String.ofList (xs ++ ':' :: ys)) = some (host, port))

include hy h

private theorem bareHost_of_name (hopen : ∀ t, xs ++ ':' :: ys ≠ '[' :: t) :
    BareHost xs host.toList ∧ Plain ys ∧ port.toList = ys := by
  rw [splitHostPort?_name (lastIndex_append_cons xs hy) hopen, List.take_left] at h
  split at h
  · cases h
  · next hno =>
    have hdrop : (xs ++ ':' :: ys).drop (xs.length + 1) = ys := by simp
    rw [hdrop] at h
    cases h
    simp only [not_or, List.mem_append, List.mem_cons] at hno
    simp only [String.toList_ofList, and_true]
    exact ⟨.name ⟨hno.1, hno.2.1.1, hno.2.2.1⟩, hy, hno.2.1.2.2, hno.2.2.2.2⟩

private theorem bareHost_of_literal {t : List Char} (ht : xs ++ ':' :: ys = '[' :: t) :
    BareHost xs host.toList ∧ Plain ys ∧ port.toList = ys := by
  have hlast := lastIndex_append_cons xs hy
  rw [ht] at h hlast
  rw [splitHostPort?_literal hlast] at h
  split at h
  · cases h
  · next e he =>
    obtain ⟨us, vs, hus, hn, rfl⟩ := eq_append_of_findIdx? he
    split at h
    · next hcond =>
      obtain ⟨hlen, ho, hc⟩ := hcond
      -- The bracket stands right before the last colon.
      have hsplit : us ++ [']'] ++ vs = xs ++ ':' :: ys := by
        rw [ht, hus]
        simp
      obtain ⟨hxs, hvs⟩ := List.append_inj hsplit (by simpa using hlen)
      cases us with
      | nil => cases hus
      | cons c us =>
        obtain ⟨rfl, rfl⟩ := List.cons.inj hus
        subst hxs hvs
        simp only [← List.cons_append, List.append_eq] at h ho hc
        simp only [Option.some.injEq, Prod.mk.injEq] at h
        obtain ⟨rfl, rfl⟩ := h
        simp only [List.mem_append, List.mem_cons, not_or] at ho hn
        refine ⟨?_, ⟨hy, ho.2.2.2, by simpa using hc⟩, by simp⟩
        simpa using BareHost.literal ho.1 hn.2
    · cases h

end SplitAtLastColon

/-- A text that splits is a host, a colon and a port. -/
theorem bareHost_of_splitHostPort? {s : List Char} {host port : String}
    (h : splitHostPort? (String.ofList s) = some (host, port)) :
    ∃ written, BareHost written host.toList ∧ Plain port.toList ∧
      s = written ++ ':' :: port.toList := by
  have hlast := lastIndex_cases ':' s
  generalize hi : lastIndex ':' s = i at hlast
  cases hlast with
  | absent hn =>
    rw [splitHostPort?_none hi] at h
    cases h
  | @found xs ys hy =>
    have hparts : BareHost xs host.toList ∧ Plain ys ∧ port.toList = ys := by
      by_cases hopen : ∃ t, xs ++ ':' :: ys = '[' :: t
      · obtain ⟨t, ht⟩ := hopen
        exact bareHost_of_literal hy h ht
      · exact bareHost_of_name hy h (fun t ht ↦ hopen ⟨t, ht⟩)
    obtain ⟨hbare, hplain, hport⟩ := hparts
    rw [hport]
    exact ⟨xs, hbare, hplain, rfl⟩

/-- A host alone does not split. -/
theorem splitHostPort?_eq_none {written host : List Char} (h : BareHost written host) :
    splitHostPort? (String.ofList written) = none := by
  cases hs : splitHostPort? (String.ofList written) with
  | none => rfl
  | some hp =>
    obtain ⟨before, -, hport, rfl⟩ := bareHost_of_splitHostPort? hs
    exact absurd h.closes hport.2.2

/-! ### Trimming and lower case -/

private theorem trimList_of_forall {p : Char → Bool} {s : List Char} (h : ∀ c ∈ s, p c = false) :
    trimList p s = s := by
  have hdrop (t : List Char) (ht : ∀ c ∈ t, p c = false) : t.dropWhile p = t := by
    cases t with
    | nil => rfl
    | cons c t => rw [List.dropWhile_cons_of_neg (by simp [ht c List.mem_cons_self])]
  rw [trimList, hdrop s h, hdrop s.reverse (fun c hc ↦ h c (List.mem_reverse.mp hc)),
    List.reverse_reverse]

/-- A text without blanks is not trimmed. -/
theorem trimSpace_of_forall {s : String} (h : ∀ c ∈ s.toList, isSpace c = false) :
    trimSpace s = s := by
  rw [trimSpace, trimList_of_forall h, String.ofList_toList]

/-- Trimming brackets leaves the host. -/
theorem trimSet_of_bareHost {written host : List Char} (h : BareHost written host) :
    trimSet ['[', ']'] (String.ofList written) = String.ofList host := by
  have hnone (ho : '[' ∉ host) (hc : ']' ∉ host) (c : Char) (hm : c ∈ host) :
      decide (c ∈ ['[', ']']) = false := by
    refine decide_eq_false (fun hb ↦ ?_)
    simp only [List.mem_cons, List.not_mem_nil, or_false] at hb
    rcases hb with rfl | rfl
    · exact ho hm
    · exact hc hm
  rw [trimSet, String.toList_ofList]
  cases h with
  | name h => rw [trimList_of_forall (hnone h.2.1 h.2.2)]
  | literal ho hc =>
    have htrim := trimList_of_forall (hnone ho hc)
    congr 1
    rw [trimList, List.cons_append, List.dropWhile_cons_of_pos (by simp)]
    cases host with
    | nil => rfl
    | cons c host =>
      have hfirst := hnone ho hc c List.mem_cons_self
      rw [List.cons_append, List.dropWhile_cons_of_neg (by simpa using hfirst),
        ← List.cons_append, List.reverse_append, List.reverse_cons, List.reverse_nil,
        List.nil_append, List.cons_append, List.nil_append,
        List.dropWhile_cons_of_pos (by simp)]
      rw [trimList, List.dropWhile_cons_of_neg (by simpa using hfirst)] at htrim
      exact htrim

/-- Lower case of an ASCII letter. -/
def asciiLower (c : Char) : Char :=
  if 'A' ≤ c ∧ c ≤ 'Z' then Char.ofNat (c.toNat + 32) else c

/-- ASCII text is folded letter by letter. -/
theorem toLower_ofList [GoLib]
    (hlower : ∀ c : Char, c.toNat < 128 → GoLib.toLowerRune c = asciiLower c) {s : List Char}
    (hs : ∀ c ∈ s, c.toNat < 128) : toLower (String.ofList s) = String.ofList (s.map asciiLower) := by
  rw [toLower, String.toList_ofList]
  congr 1
  exact List.map_congr_left (fun c hc ↦ hlower c (hs c hc))

/-- `strings.HasSuffix` tells suffixes. -/
theorem hasSuffix_iff (s p : String) : hasSuffix s p = true ↔ p.toList <:+ s.toList := by
  rw [hasSuffix, List.isSuffixOf_iff_suffix]

/-- `strings.HasPrefix` tells prefixes. -/
theorem hasPrefix_iff (s p : String) : hasPrefix s p = true ↔ p.toList <+: s.toList := by
  rw [hasPrefix, List.isPrefixOf_iff_prefix]

/-- What is left is what follows the prefix. -/
theorem cutPrefix_eq_some_iff {s p t : String} :
    cutPrefix s p = some t ↔ s.toList = p.toList ++ t.toList := by
  rw [cutPrefix]
  constructor
  · intro h
    split at h
    · next hp =>
      cases h
      obtain ⟨rest, hrest⟩ := (hasPrefix_iff s p).mp hp
      simp [← hrest]
    · cases h
  · intro h
    have hp : hasPrefix s p = true := (hasPrefix_iff s p).mpr ⟨t.toList, h.symm⟩
    rw [if_pos hp, h, List.drop_left, String.ofList_toList]

/-- Nothing is cut off a text without the prefix. -/
theorem cutPrefix_eq_none_iff {s p : String} :
    cutPrefix s p = none ↔ ¬ p.toList <+: s.toList := by
  rw [← hasPrefix_iff, cutPrefix]
  split
  · next hp => simp [hp]
  · next hp => simp [hp]

end PocketAp.Base
