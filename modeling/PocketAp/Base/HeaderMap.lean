import Mathlib.Data.List.Induction
import Mathlib.Data.List.Nodup
import PocketAp.Base.HostPort

/-!
# Header maps

Library `Base`. `http.Header` seen key by key: what `Add`, `Set` and an assignment do to the
values under one key. A map whose names need not be canonical is read by a normal form of its
names, `valuesBy`.
-/

namespace PocketAp.Base

/-- The values under a key. -/
def headerValues (header : List (String × List String)) (key : String) : List String :=
  (header.lookup key).getD []

/-- The assignment `header[key] = values`. -/
def assignHeader (header : List (String × List String)) (key : String) (values : List String) :
    List (String × List String) :=
  if header.any (fun kv ↦ kv.1 == key) then
    header.map (fun kv ↦ if kv.1 = key then (key, values) else kv)
  else header ++ [(key, values)]

/-- The values of all names with this normal form, in order. -/
def valuesBy (f : String → String) (header : List (String × List String)) (key : String) :
    List String :=
  header.flatMap (fun kv ↦ if f kv.1 = key then kv.2 else [])

/-- The values of a name, however it is spelled. -/
def canonicalValues (header : List (String × List String)) (key : String) : List String :=
  valuesBy canonicalHeaderKey header key

/-- The values of a name as it is spelled. -/
def spelledValues (header : List (String × List String)) (name : String) : List String :=
  valuesBy id header name

section Keys

variable {header : List (String × List String)} {key k name value : String}

/-- `Set` assigns one value under the canonical name. -/
theorem setHeader_eq_assignHeader (header : List (String × List String)) (name value : String) :
    setHeader header name value = assignHeader header (canonicalHeaderKey name) [value] := rfl

private theorem lookup_eq_none (h : ¬ header.any (fun kv ↦ kv.1 == key) = true) :
    header.lookup key = none := by
  rw [List.lookup_eq_none_iff]
  intro kv hkv
  rw [bne_iff_ne]
  rintro rfl
  exact h (List.any_eq_true.mpr ⟨kv, hkv, by simp⟩)

private theorem lookup_map_key (f : List String → List String) :
    (header.map (fun kv ↦ if kv.1 = key then (key, f kv.2) else kv)).lookup k =
      if k = key then (header.lookup key).map f else header.lookup k := by
  induction header with
  | nil => split <;> rfl
  | cons kv header ih =>
    rw [List.map_cons, List.lookup_cons, List.lookup_cons, List.lookup_cons, ih]
    by_cases hkv : kv.1 = key <;> by_cases hk : k = key
    · simp [hkv, hk]
    · have hne : (k == key) = false := by simpa using hk
      simp [hkv, hk, hne]
    · have hne : (key == kv.1) = false := by simpa using Ne.symm hkv
      simp [hkv, hk, hne]
    · simp [hkv, hk]

private theorem isSome_lookup (h : header.any (fun kv ↦ kv.1 == key) = true) :
    ∃ values, header.lookup key = some values := by
  cases hl : header.lookup key with
  | some values => exact ⟨values, rfl⟩
  | none =>
    rw [List.lookup_eq_none_iff] at hl
    obtain ⟨kv, hkv, heq⟩ := List.any_eq_true.mp h
    have := hl kv hkv
    rw [beq_iff_eq] at heq
    simp [heq] at this

/-- An assignment changes what is under its key only. -/
theorem headerValues_assignHeader (header : List (String × List String)) (key : String)
    (values : List String) (k : String) :
    headerValues (assignHeader header key values) k =
      if k = key then values else headerValues header k := by
  unfold headerValues assignHeader
  by_cases hany : header.any (fun kv ↦ kv.1 == key) = true
  · obtain ⟨old, hold⟩ := isSome_lookup hany
    rw [if_pos hany, lookup_map_key (fun _ ↦ values), hold]
    split <;> rfl
  · rw [if_neg hany, List.lookup_append]
    split
    · next hk =>
      subst hk
      simp [lookup_eq_none hany]
    · next hk =>
      have hne : (k == key) = false := by simpa using hk
      simp [List.lookup_cons, hne]

/-- `Set` changes what is under the canonical name only. -/
theorem headerValues_setHeader (header : List (String × List String)) (name value k : String) :
    headerValues (setHeader header name value) k =
      if k = canonicalHeaderKey name then [value] else headerValues header k := by
  rw [setHeader_eq_assignHeader, headerValues_assignHeader]

/-- `Add` appends under the canonical name only. -/
theorem headerValues_addHeader (header : List (String × List String)) (name value k : String) :
    headerValues (addHeader header name value) k =
      headerValues header k ++ if canonicalHeaderKey name = k then [value] else [] := by
  unfold headerValues addHeader
  by_cases hany : header.any (fun kv ↦ kv.1 == canonicalHeaderKey name) = true
  · obtain ⟨old, hold⟩ := isSome_lookup hany
    simp only [hany, if_true]
    rw [lookup_map_key (fun values ↦ values ++ [value])]
    by_cases hk : k = canonicalHeaderKey name
    · simp [hk, hold]
    · simp [hk, Ne.symm hk]
  · simp only [hany, Bool.false_eq_true, if_false]
    rw [List.lookup_append]
    by_cases hk : k = canonicalHeaderKey name
    · subst hk
      simp [lookup_eq_none hany]
    · have hne : (k == canonicalHeaderKey name) = false := by simpa using hk
      simp [List.lookup_cons, hne, Ne.symm hk]

/-- Adding all values of a map, whatever its names look like. -/
theorem headerValues_foldl_addHeader (added : List (String × List String))
    (header : List (String × List String)) (k : String) :
    headerValues (added.foldl (fun h kv ↦ kv.2.foldl (fun h v ↦ addHeader h kv.1 v) h) header) k =
      headerValues header k ++ canonicalValues added k := by
  have hvalues (name : String) (values : List String) (h : List (String × List String)) :
      headerValues (values.foldl (fun h v ↦ addHeader h name v) h) k =
        headerValues h k ++ if canonicalHeaderKey name = k then values else [] := by
    induction values generalizing h with
    | nil => simp
    | cons v values ih =>
      rw [List.foldl_cons, ih, headerValues_addHeader]
      split <;> simp
  induction added generalizing header with
  | nil => simp [canonicalValues, valuesBy]
  | cons kv added ih =>
    rw [List.foldl_cons, ih, hvalues]
    simp [canonicalValues, valuesBy]

end Keys

/-! ### Canonical names -/

section Canonical

private theorem forall_ascii (p : Char → Prop) (h : ∀ n < 128, p (Char.ofNat n)) {c : Char}
    (hc : c.toNat < 128) : p c := by
  have := h c.toNat hc
  rwa [Char.ofNat_toNat] at this

private theorem ascii_of_valid {c : Char} (h : validHeaderFieldByte c = true) : c.toNat < 128 := by
  have hpunct : ∀ d ∈ "!#$%&'*+-.^_`|~".toList, d.toNat < 128 :=
    forall_mem_of_all (by decide +kernel)
  simp only [validHeaderFieldByte, decide_eq_true_eq] at h
  rcases h with ⟨-, h⟩ | ⟨-, h⟩ | ⟨-, h⟩ | h
  · exact Nat.lt_of_le_of_lt h (by decide)
  · exact Nat.lt_of_le_of_lt h (by decide)
  · exact Nat.lt_of_le_of_lt h (by decide)
  · exact hpunct c h

/-- One character of a canonical name. -/
private def recased (upper : Bool) (c : Char) : Char :=
  if upper ∧ 'a' ≤ c ∧ c ≤ 'z' then Char.ofNat (c.toNat - 32)
  else if ¬upper ∧ 'A' ≤ c ∧ c ≤ 'Z' then Char.ofNat (c.toNat + 32)
  else c

private theorem valid_recased (upper : Bool) {c : Char} (h : validHeaderFieldByte c = true) :
    validHeaderFieldByte (recased upper c) = true := by
  have key : ∀ n < 128, validHeaderFieldByte (Char.ofNat n) = true →
      validHeaderFieldByte (recased upper (Char.ofNat n)) = true := by
    cases upper <;> decide +kernel
  exact forall_ascii (fun c ↦ validHeaderFieldByte c = true →
    validHeaderFieldByte (recased upper c) = true) key (ascii_of_valid h) h

private theorem asciiLower_recased (upper : Bool) {c : Char} (hc : c.toNat < 128) :
    asciiLower (recased upper c) = asciiLower c := by
  have key : ∀ n < 128, asciiLower (recased upper (Char.ofNat n)) = asciiLower (Char.ofNat n) := by
    cases upper <;> decide +kernel
  exact forall_ascii (fun c ↦ asciiLower (recased upper c) = asciiLower c) key hc

private theorem capitalize_valid (upper : Bool) {cs : List Char}
    (h : cs.all validHeaderFieldByte = true) :
    (capitalize upper cs).all validHeaderFieldByte = true := by
  induction cs generalizing upper with
  | nil => rfl
  | cons c cs ih =>
    simp only [List.all_cons, Bool.and_eq_true] at h
    simp only [capitalize, List.all_cons, Bool.and_eq_true]
    exact ⟨valid_recased upper h.1, ih _ h.2⟩

private theorem capitalize_lower (upper : Bool) {cs : List Char} (h : ∀ c ∈ cs, c.toNat < 128) :
    (capitalize upper cs).map asciiLower = cs.map asciiLower := by
  induction cs generalizing upper with
  | nil => rfl
  | cons c cs ih =>
    rw [List.forall_mem_cons] at h
    simp only [capitalize, List.map_cons]
    rw [ih _ h.2]
    exact congrArg (· :: _) (asciiLower_recased upper h.1)

/-- A prefix that no valid name has is not touched by canonicalisation. -/
theorem prefix_canonicalHeaderKey_iff {pre : List Char}
    (hpre : ∃ c ∈ pre, validHeaderFieldByte c = false) (name : String) :
    pre <+: (canonicalHeaderKey name).toList ↔ pre <+: name.toList := by
  obtain ⟨c, hc, hinvalid⟩ := hpre
  have hnot {cs : List Char} (h : cs.all validHeaderFieldByte = true) : ¬ pre <+: cs := by
    intro hp
    have := List.all_eq_true.mp h c (hp.subset hc)
    rw [hinvalid] at this
    cases this
  unfold canonicalHeaderKey
  split
  · next hvalid =>
    rw [String.toList_ofList]
    exact iff_of_false (hnot (capitalize_valid true hvalid)) (hnot hvalid)
  · exact Iff.rfl

/-- Canonicalisation changes the case of ASCII letters only. -/
theorem toLower_canonicalHeaderKey [GoLib]
    (hlower : ∀ c : Char, c.toNat < 128 → GoLib.toLowerRune c = asciiLower c) (name : String) :
    toLower (canonicalHeaderKey name) = toLower name := by
  unfold canonicalHeaderKey
  split
  · next hvalid =>
    have hascii {cs : List Char} (h : cs.all validHeaderFieldByte = true) :
        ∀ c ∈ cs, c.toNat < 128 := fun c hc ↦ ascii_of_valid (List.all_eq_true.mp h c hc)
    have hname : toLower name = String.ofList (name.toList.map asciiLower) := by
      conv_lhs => rw [← String.ofList_toList (s := name)]
      exact toLower_ofList hlower (hascii hvalid)
    rw [toLower_ofList hlower (hascii (capitalize_valid true hvalid)),
      capitalize_lower true (hascii hvalid), hname]
  · rfl

end Canonical

/-! ### Values by name -/

/-- The pairs of a name and a value in a map. -/
def headerPairs (header : List (String × List String)) : List (String × String) :=
  header.flatMap (fun kv ↦ kv.2.map (kv.1, ·))

section Pairs

variable {f : String → String} {header : List (String × List String)} {key : String}

/-- The values under a name are those of the pairs with that name. -/
theorem valuesBy_eq_pairs (f : String → String) (header : List (String × List String))
    (key : String) :
    valuesBy f header key = ((headerPairs header).filter (fun p ↦ f p.1 = key)).map Prod.snd := by
  induction header with
  | nil => rfl
  | cons kv header ih =>
    have hkv : ((kv.2.map (kv.1, ·)).filter (fun p ↦ decide (f p.1 = key))).map Prod.snd =
        if f kv.1 = key then kv.2 else [] := by
      split
      · next h => simp [List.filter_map, Function.comp_def, h]
      · next h => simp [List.filter_map, Function.comp_def, h]
    change (if f kv.1 = key then kv.2 else []) ++ valuesBy f header key =
      ((kv.2.map (kv.1, ·) ++ headerPairs header).filter _).map Prod.snd
    rw [List.filter_append, List.map_append, hkv, ih]

private theorem length_valuesBy (f : String → String) (header : List (String × List String))
    (key : String) :
    (valuesBy f header key).length = ((headerPairs header).map (fun p ↦ f p.1)).count key := by
  rw [valuesBy_eq_pairs, List.length_map, ← List.countP_eq_length_filter, List.count_eq_countP,
    List.countP_map]
  rfl

/-- No name has two values exactly when the names of the pairs are distinct. -/
theorem nodup_pairs_iff (f : String → String) (header : List (String × List String)) :
    ((headerPairs header).map (fun p ↦ f p.1)).Nodup ↔
      ∀ key, (valuesBy f header key).length ≤ 1 := by
  rw [List.nodup_iff_count_le_one]
  exact forall_congr' fun key ↦ by rw [length_valuesBy]

/-- A value is among those under the name of its key. -/
theorem mem_valuesBy {kv : String × List String} (hkv : kv ∈ header) {v : String} (hv : v ∈ kv.2)
    (hf : f kv.1 = key) : v ∈ valuesBy f header key := by
  rw [valuesBy, List.mem_flatMap]
  exact ⟨kv, hkv, by simpa [hf] using hv⟩

/-- A map in two parts has the values of both. -/
theorem valuesBy_filter_perm (f : String → String) (p : String × List String → Bool)
    (header : List (String × List String)) (key : String) :
    (valuesBy f (header.filter (fun kv ↦ !p kv)) key ++ valuesBy f (header.filter p) key).Perm
      (valuesBy f header key) := by
  induction header with
  | nil => exact .refl _
  | cons kv header ih =>
    have hcons (kv : String × List String) (header : List (String × List String)) :
        valuesBy f (kv :: header) key =
          (if f kv.1 = key then kv.2 else []) ++ valuesBy f header key := rfl
    cases hp : p kv with
    | true =>
      simp only [List.filter_cons, hp, Bool.not_true, Bool.false_eq_true, if_false, if_true, hcons]
      rw [← List.append_assoc]
      refine (List.perm_append_comm.append_right _).trans ?_
      rw [List.append_assoc]
      exact ih.append_left _
    | false =>
      simp only [List.filter_cons, hp, Bool.not_false, Bool.false_eq_true, if_false, if_true, hcons]
      rw [List.append_assoc]
      exact ih.append_left _

end Pairs

/-! ### Assigning one value after another -/

/-- Single values assigned one after another. -/
def assignEach (ps : List (String × String)) : List (String × List String) :=
  ps.foldl (fun header p ↦ assignHeader header p.1 [p.2]) []

/-- The values under one key after `header[CanonicalHeaderKey(name)] = values` for every entry. -/
def promotedValues (header : List (String × List String)) (key : String) : List String :=
  header.foldl (fun values kv ↦ if canonicalHeaderKey kv.1 = key then kv.2 else values) []

section Assign

private theorem assignEach_snoc (ps : List (String × String)) (p : String × String) :
    assignEach (ps ++ [p]) = assignHeader (assignEach ps) p.1 [p.2] := by
  rw [assignEach, List.foldl_append]
  rfl

private theorem mem_assignHeader {header : List (String × List String)} {key : String}
    {values : List String} {kv : String × List String}
    (h : kv ∈ assignHeader header key values) : kv = (key, values) ∨ kv ∈ header := by
  unfold assignHeader at h
  split at h
  · obtain ⟨kv', hkv', heq⟩ := List.mem_map.mp h
    split at heq
    · exact .inl heq.symm
    · exact .inr (heq ▸ hkv')
  · rcases List.mem_append.mp h with h | h
    · exact .inr h
    · exact .inl (List.mem_singleton.mp h)

private theorem single_of_mem_assignEach {ps : List (String × String)}
    {kv : String × List String} (h : kv ∈ assignEach ps) : kv.2.length = 1 := by
  induction ps using List.reverseRecOn with
  | nil => cases h
  | append_singleton ps p ih =>
    rw [assignEach_snoc] at h
    rcases mem_assignHeader h with rfl | h
    · rfl
    · exact ih h

private theorem any_assignHeader (header : List (String × List String)) (key : String)
    (values : List String) (k : String) :
    (assignHeader header key values).any (fun kv ↦ kv.1 == k) =
      (header.any (fun kv ↦ kv.1 == k) || key == k) := by
  unfold assignHeader
  split
  · next hany =>
    rw [List.any_map]
    have hsame : (fun kv : String × List String ↦ kv.1 == k) ∘
        (fun kv ↦ if kv.1 = key then (key, values) else kv) = fun kv ↦ kv.1 == k := by
      funext kv
      simp only [Function.comp_apply]
      split
      · next hk => rw [hk]
      · rfl
    rw [hsame]
    by_cases hk : key = k
    · rw [← hk, hany]
      rfl
    · simp [hk]
  · rw [List.any_append]
    simp

private theorem any_assignEach (ps : List (String × String)) (k : String) :
    (assignEach ps).any (fun kv ↦ kv.1 == k) = true ↔ k ∈ ps.map Prod.fst := by
  induction ps using List.reverseRecOn with
  | nil => simp [assignEach]
  | append_singleton ps p ih =>
    rw [assignEach_snoc, any_assignHeader, Bool.or_eq_true, ih, List.map_append, List.mem_append,
      List.map_singleton, List.mem_singleton, beq_iff_eq]
    exact or_congr_right eq_comm

/-- Only names that occur are assigned to. -/
theorem mem_of_mem_assignEach {ps : List (String × String)} {kv : String × List String}
    (h : kv ∈ assignEach ps) : kv.1 ∈ ps.map Prod.fst := by
  rw [← any_assignEach, List.any_eq_true]
  exact ⟨kv, h, beq_self_eq_true _⟩

/-- A key that was not assigned yet is added at the end. -/
private theorem assignEach_snoc_fresh {ps : List (String × String)} {p : String × String}
    (h : p.1 ∉ ps.map Prod.fst) : assignEach (ps ++ [p]) = assignEach ps ++ [(p.1, [p.2])] := by
  rw [assignEach_snoc, assignHeader, if_neg (by rwa [any_assignEach])]

/-- Distinct names keep all they were assigned. -/
theorem assignEach_of_nodup {ps : List (String × String)} (h : (ps.map Prod.fst).Nodup) :
    assignEach ps = ps.map (fun p ↦ (p.1, [p.2])) := by
  induction ps using List.reverseRecOn with
  | nil => rfl
  | append_singleton ps p ih =>
    rw [List.map_append, List.nodup_append] at h
    have hfresh : p.1 ∉ ps.map Prod.fst := fun hm ↦ h.2.2 _ hm _ (by simp) rfl
    rw [assignEach_snoc_fresh hfresh, ih h.1, List.map_append]
    rfl

private theorem valuesBy_append (f : String → String) (xs ys : List (String × List String))
    (key : String) : valuesBy f (xs ++ ys) key = valuesBy f xs key ++ valuesBy f ys key :=
  List.flatMap_append

private theorem length_valuesBy_map {f : String → String} {header : List (String × List String)}
    (hsingle : ∀ kv ∈ header, kv.2.length = 1) (k v key : String) :
    (valuesBy f (header.map (fun kv ↦ if kv.1 = k then (k, [v]) else kv)) key).length =
      (valuesBy f header key).length := by
  induction header with
  | nil => rfl
  | cons kv header ih =>
    rw [List.forall_mem_cons] at hsingle
    have hhead : (if f (if kv.1 = k then (k, [v]) else kv).1 = key
        then (if kv.1 = k then (k, [v]) else kv).2 else []).length =
        (if f kv.1 = key then kv.2 else []).length := by
      by_cases hk : kv.1 = k
      · rw [if_pos hk, hk]
        split <;> simp [hsingle.1]
      · rw [if_neg hk]
    change ((if f (if kv.1 = k then (k, [v]) else kv).1 = key
        then (if kv.1 = k then (k, [v]) else kv).2 else []) ++ valuesBy f (header.map _) key).length =
      ((if f kv.1 = key then kv.2 else []) ++ valuesBy f header key).length
    rw [List.length_append, List.length_append, hhead, ih hsingle.2]

/-- Assignments never leave more values under a name than were made to it, and as many only when
no name was assigned twice. -/
private theorem length_assignEach (f : String → String) (ps : List (String × String))
    (key : String) :
    (valuesBy f (assignEach ps) key).length ≤ (ps.filter (fun p ↦ f p.1 = key)).length ∧
      ((valuesBy f (assignEach ps) key).length = (ps.filter (fun p ↦ f p.1 = key)).length →
        ((ps.filter (fun p ↦ f p.1 = key)).map Prod.fst).Nodup) := by
  induction ps using List.reverseRecOn with
  | nil => exact ⟨Nat.le_refl _, fun _ ↦ List.nodup_nil⟩
  | append_singleton ps p ih =>
    have hlast : ([p].filter (fun p ↦ decide (f p.1 = key))) = if f p.1 = key then [p] else [] := by
      split <;> simp [*]
    rw [List.filter_append, hlast]
    by_cases hseen : p.1 ∈ ps.map Prod.fst
    · have hlen : (valuesBy f (assignEach (ps ++ [p])) key).length =
          (valuesBy f (assignEach ps) key).length := by
        rw [assignEach_snoc, assignHeader, if_pos ((any_assignEach ps p.1).mpr hseen)]
        exact length_valuesBy_map (fun kv hkv ↦ single_of_mem_assignEach hkv) _ _ _
      rw [hlen, List.length_append]
      by_cases hp : f p.1 = key
      · simp only [hp, if_true, List.length_singleton]
        exact ⟨by omega, fun h ↦ by omega⟩
      · simpa [hp] using ih
    · rw [assignEach_snoc_fresh hseen, valuesBy_append, List.length_append, List.length_append]
      by_cases hp : f p.1 = key
      · have hone : (valuesBy f [(p.1, [p.2])] key).length = 1 := by simp [valuesBy, hp]
        rw [hone, if_pos hp, List.length_singleton]
        refine ⟨by omega, fun h ↦ ?_⟩
        rw [List.map_append, List.nodup_append]
        refine ⟨ih.2 (by omega), by simp, ?_⟩
        intro k hk k' hk' heq
        rw [List.map_singleton, List.mem_singleton] at hk'
        obtain ⟨q, hq, rfl⟩ := List.mem_map.mp hk
        exact hseen (List.mem_map.mpr ⟨q, (List.mem_filter.mp hq).1, heq.trans hk'⟩)
      · have hnone : (valuesBy f [(p.1, [p.2])] key).length = 0 := by simp [valuesBy, hp]
        rw [hnone, if_neg hp, List.append_nil, List.length_nil]
        exact ih

/-- If nothing assigned to a name was lost, no name was assigned twice. -/
theorem nodup_of_length_assignEach {f : String → String} {header : List (String × List String)}
    (h : ∀ key, (valuesBy f (assignEach (headerPairs header)) key).length =
      (valuesBy f header key).length) : ((headerPairs header).map Prod.fst).Nodup := by
  rw [List.nodup_iff_count_le_one]
  intro k
  have hlen := h (f k)
  rw [valuesBy_eq_pairs f header, List.length_map] at hlen
  have hnodup := (length_assignEach f (headerPairs header) (f k)).2 hlen
  rw [List.nodup_iff_count_le_one] at hnodup
  refine Nat.le_trans (Nat.le_of_eq ?_) (hnodup k)
  -- The pairs named `k` are all among those whose name has the same normal form.
  rw [List.count_eq_countP, List.count_eq_countP, List.countP_map, List.countP_map,
    List.countP_filter]
  congr 1
  funext p
  by_cases hp : p.1 = k <;> simp [hp]

/-- Assigning pair by pair loses nothing if no key comes twice. -/
theorem valuesBy_assignEach_of_nodup {f : String → String} {header : List (String × List String)}
    (h : ((headerPairs header).map Prod.fst).Nodup) (key : String) :
    valuesBy f (assignEach (headerPairs header)) key = valuesBy f header key := by
  rw [assignEach_of_nodup h, valuesBy_eq_pairs f header]
  induction headerPairs header with
  | nil => rfl
  | cons p ps ih =>
    change (if f p.1 = key then [p.2] else []) ++ valuesBy f (ps.map _) key = _
    rw [ih]
    by_cases hp : f p.1 = key <;> simp [hp]

/-- An assignment under a canonical name is seen if no later one has that name. -/
private theorem promotedValues_eq_filter (header : List (String × List String)) (key : String) :
    promotedValues header key =
      (((header.filter (fun kv ↦ canonicalHeaderKey kv.1 = key)).getLast?).map Prod.snd).getD [] := by
  unfold promotedValues
  induction header using List.reverseRecOn with
  | nil => rfl
  | append_singleton header kv ih =>
    rw [List.foldl_append, List.filter_append]
    by_cases hkv : canonicalHeaderKey kv.1 = key
    · simp [hkv]
    · simpa [hkv] using ih

private theorem canonicalValues_eq_filter (header : List (String × List String)) (key : String) :
    canonicalValues header key =
      (header.filter (fun kv ↦ canonicalHeaderKey kv.1 = key)).flatMap Prod.snd := by
  unfold canonicalValues valuesBy
  induction header with
  | nil => rfl
  | cons kv header ih =>
    rw [List.flatMap_cons, ih]
    by_cases hkv : canonicalHeaderKey kv.1 = key <;> simp [hkv]

/-- Under a name that no entry has, nothing is assigned. -/
theorem promotedValues_eq_nil {header : List (String × List String)} {key : String}
    (h : ∀ kv ∈ header, canonicalHeaderKey kv.1 ≠ key) : promotedValues header key = [] := by
  have hnone : header.filter (fun kv ↦ canonicalHeaderKey kv.1 = key) = [] := by
    rw [List.filter_eq_nil_iff]
    intro kv hkv
    simp [h kv hkv]
  rw [promotedValues_eq_filter, hnone]
  rfl

/-- Assigned pair by pair, a promoted key has one value at most. -/
theorem length_promotedValues_assignEach (ps : List (String × String)) (key : String) :
    (promotedValues (assignEach ps) key).length ≤ 1 := by
  rw [promotedValues_eq_filter]
  cases hlast : ((assignEach ps).filter (fun kv ↦ canonicalHeaderKey kv.1 = key)).getLast? with
  | none => exact Nat.zero_le _
  | some kv =>
    have hmem := List.mem_of_getLast? hlast
    exact Nat.le_of_eq (single_of_mem_assignEach (List.mem_filter.mp hmem).1)

/-- Keys that do not meet after promotion keep their values. -/
theorem promotedValues_assignEach {ps : List (String × String)} {key : String}
    (h : (canonicalValues (assignEach ps) key).length ≤ 1) :
    promotedValues (assignEach ps) key = canonicalValues (assignEach ps) key := by
  have hsingle : ∀ kv ∈ (assignEach ps).filter (fun kv ↦ canonicalHeaderKey kv.1 = key),
      kv.2.length = 1 := fun kv hkv ↦ single_of_mem_assignEach (List.mem_filter.mp hkv).1
  rw [canonicalValues_eq_filter] at h
  rw [promotedValues_eq_filter, canonicalValues_eq_filter]
  generalize (assignEach ps).filter (fun kv ↦ decide (canonicalHeaderKey kv.1 = key)) = entries
    at h hsingle ⊢
  match entries with
  | [] => rfl
  | [kv] => simp
  | kv :: kv' :: rest =>
    have h₁ := hsingle kv (by simp)
    have h₂ := hsingle kv' (by simp)
    simp only [List.flatMap_cons, List.length_append] at h
    omega

end Assign

/-! ### Keys with a prefix -/

/-- The entries whose key begins with a prefix, without it. -/
def cutKeys (pre : String) (header : List (String × List String)) : List (String × List String) :=
  header.filterMap (fun kv ↦ (cutPrefix kv.1 pre).map (·, kv.2))

section Prefix

variable {pre : String} {header : List (String × List String)}

private theorem cutKeys_append (xs ys : List (String × List String)) :
    cutKeys pre (xs ++ ys) = cutKeys pre xs ++ cutKeys pre ys :=
  List.filterMap_append

/-- An update of a key without the prefix does not show. -/
private theorem cutKeys_map_other {key : String} (h : cutPrefix key pre = none)
    (f : List String → List String) :
    cutKeys pre (header.map (fun kv ↦ if kv.1 = key then (key, f kv.2) else kv)) =
      cutKeys pre header := by
  rw [cutKeys, List.filterMap_map]
  congr 1
  funext kv
  simp only [Function.comp_apply]
  split
  · next hk => simp [hk, h]
  · rfl

/-- Assigning another key adds none with the prefix. -/
theorem cutKeys_assignHeader_other {key : String} (h : cutPrefix key pre = none)
    (values : List String) : cutKeys pre (assignHeader header key values) = cutKeys pre header := by
  unfold assignHeader
  split
  · exact cutKeys_map_other h (fun _ ↦ values)
  · rw [cutKeys_append]
    simp [cutKeys, h]

/-- Adding under another name adds no key with the prefix. -/
theorem cutKeys_addHeader_other {name : String}
    (h : cutPrefix (canonicalHeaderKey name) pre = none) (value : String) :
    cutKeys pre (addHeader header name value) = cutKeys pre header := by
  simp only [addHeader]
  split
  · exact cutKeys_map_other h (fun values ↦ values ++ [value])
  · rw [cutKeys_append]
    simp [cutKeys, h]

private theorem cutPrefix_append (pre key : String) : cutPrefix (pre ++ key) pre = some key := by
  rw [cutPrefix_eq_some_iff, String.toList_append]

private theorem eq_append_of_cutPrefix {s key : String} (h : cutPrefix s pre = some key) :
    s = pre ++ key := by
  rw [cutPrefix_eq_some_iff, ← String.toList_append] at h
  exact String.toList_inj.mp h

/-- An assignment to a key with the prefix is one to the key without it. -/
theorem cutKeys_assignHeader (key : String) (values : List String) :
    cutKeys pre (assignHeader header (pre ++ key) values) =
      assignHeader (cutKeys pre header) key values := by
  have hany : (cutKeys pre header).any (fun kv ↦ kv.1 == key) =
      header.any (fun kv ↦ kv.1 == pre ++ key) := by
    rw [cutKeys, List.any_filterMap]
    congr 1
    funext kv
    cases hcut : cutPrefix kv.1 pre with
    | none =>
      have hne : kv.1 ≠ pre ++ key := by
        intro heq
        rw [heq, cutPrefix_append] at hcut
        cases hcut
      simp [hne]
    | some k =>
      rw [eq_append_of_cutPrefix hcut, Bool.eq_iff_iff]
      simp
  unfold assignHeader
  rw [hany]
  split
  · rw [cutKeys, cutKeys, List.filterMap_map, List.map_filterMap]
    congr 1
    funext kv
    simp only [Function.comp_apply]
    cases hcut : cutPrefix kv.1 pre with
    | none =>
      have hne : kv.1 ≠ pre ++ key := by
        intro heq
        rw [heq, cutPrefix_append] at hcut
        cases hcut
      simp [hne, hcut]
    | some k =>
      have hkv := eq_append_of_cutPrefix hcut
      by_cases hk : k = key
      · subst hk
        simp [hkv, cutPrefix_append]
      · have hne : kv.1 ≠ pre ++ key := by
          rw [hkv]
          simpa using hk
        simp [hne, hcut, hk]
  · rw [cutKeys_append]
    simp [cutKeys, cutPrefix_append]

end Prefix

end PocketAp.Base
