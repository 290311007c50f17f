import PocketAp.Base.Parser

/-!
# JSON

Library `Base`. The values `encoding/json` decodes to when numbers are kept as they are written.
An object is the list of the assignments made to a map, so the last one to a key counts;
`deepEqual` is `reflect.DeepEqual`, and it decides that two values are the same.
-/

namespace PocketAp.Base

/-! ### Values -/

/-- A value without parts; a string is its characters, a number its text. -/
inductive Atom where
  | null
  | bool (b : Bool)
  | number (text : List UInt8)
  | string (s : List Char)
  deriving DecidableEq, Repr

/-- A value; an object keeps its assignments in the order they are made. -/
inductive JSON where
  | atom (a : Atom)
  | array (items : List JSON)
  | object (members : List (List Char × JSON))

namespace JSON

/-- Values are built from the inside. -/
@[elab_as_elim, induction_eliminator]
theorem induct {motive : JSON → Prop} (atom : ∀ a, motive (.atom a))
    (array : ∀ items, (∀ v ∈ items, motive v) → motive (.array items))
    (object : ∀ members, (∀ m ∈ members, motive m.2) → motive (.object members)) (v : JSON) :
    motive v :=
  @JSON.rec motive (fun items ↦ ∀ v ∈ items, motive v) (fun members ↦ ∀ m ∈ members, motive m.2)
    (fun m ↦ motive m.2) atom array object (by simp) (by simp_all) (by simp) (by simp_all)
    (fun _ _ h ↦ h) v

/-- What is under a key: the last value assigned to it. -/
def member? (key : List Char) : List (List Char × JSON) → Option JSON
  | [] => none
  | (k, v) :: members =>
    match member? key members with
    | some w => some w
    | none => if k = key then some v else none

mutual

/-- `reflect.DeepEqual`. -/
def deepEqual : JSON → JSON → Bool
  | atom a, atom b => a == b
  | array vs, array ws => itemsEqual vs ws
  | object ms, object ns =>
    membersEqual ms ns && ns.all (fun n ↦ (member? n.1 ms).isSome)
  | _, _ => false

/-- Slices. -/
def itemsEqual : List JSON → List JSON → Bool
  | [], [] => true
  | v :: vs, w :: ws => deepEqual v w && itemsEqual vs ws
  | _, _ => false

/-- What is under a key of the first map is deeply equal to what is under it in the second. -/
def membersEqual : List (List Char × JSON) → List (List Char × JSON) → Bool
  | [], _ => true
  | (k, v) :: ms, ns =>
    ((member? k ms).isSome ||
      match member? k ns with
      | none => false
      | some w => deepEqual v w) && membersEqual ms ns

end

/-- Equal up to the order of keys, the last of equal keys counting. -/
inductive Same : JSON → JSON → Prop where
  | atom (a : Atom) : Same (.atom a) (.atom a)
  | array {vs ws : List JSON} (hlength : vs.length = ws.length)
      (h : ∀ (i : Nat) v w, vs[i]? = some v → ws[i]? = some w → Same v w) : Same (.array vs) (.array ws)
  | object {ms ns : List (List Char × JSON)}
      (hkeys : ∀ key, (member? key ms).isSome = (member? key ns).isSome)
      (h : ∀ key v w, member? key ms = some v → member? key ns = some w → Same v w) :
      Same (.object ms) (.object ns)

private theorem mem_of_member? {key : List Char} {ms : List (List Char × JSON)} {v : JSON}
    (h : member? key ms = some v) : ∃ m ∈ ms, m.2 = v := by
  induction ms with
  | nil => cases h
  | cons m ms ih =>
    rw [member?] at h
    split at h
    · next w hw =>
      cases h
      obtain ⟨m', hm', hv⟩ := ih hw
      exact ⟨m', List.mem_cons_of_mem _ hm', hv⟩
    · split at h
      · cases h
        exact ⟨m, List.mem_cons_self, rfl⟩
      · cases h

private theorem isSome_member?_iff {key : List Char} {ms : List (List Char × JSON)} :
    (member? key ms).isSome = true ↔ ∃ m ∈ ms, m.1 = key := by
  induction ms with
  | nil => simp [member?]
  | cons m ms ih =>
    simp only [member?, List.mem_cons, exists_eq_or_imp, ← ih]
    cases member? key ms with
    | none => by_cases hk : m.1 = key <;> simp [hk]
    | some w => simp

private theorem itemsEqual_iff {vs ws : List JSON} :
    itemsEqual vs ws = true ↔ vs.length = ws.length ∧
      ∀ (i : Nat) v w, vs[i]? = some v → ws[i]? = some w → deepEqual v w = true := by
  induction vs generalizing ws with
  | nil => cases ws <;> simp [itemsEqual]
  | cons v vs ih =>
    cases ws with
    | nil => simp [itemsEqual]
    | cons w ws =>
      rw [itemsEqual, Bool.and_eq_true, ih, List.length_cons, List.length_cons,
        Nat.add_right_cancel_iff]
      constructor
      · rintro ⟨hhead, hlength, htail⟩
        refine ⟨hlength, fun i v' w' hv' hw' ↦ ?_⟩
        cases i with
        | zero =>
          cases hv'
          cases hw'
          exact hhead
        | succ i => exact htail i v' w' hv' hw'
      · rintro ⟨hlength, h⟩
        exact ⟨h 0 v w rfl rfl, hlength, fun i ↦ h (i + 1)⟩

private theorem membersEqual_iff {ms ns : List (List Char × JSON)} :
    membersEqual ms ns = true ↔ ∀ key v, member? key ms = some v →
      ∃ w, member? key ns = some w ∧ deepEqual v w = true := by
  induction ms with
  | nil => simp [membersEqual, member?]
  | cons m ms ih =>
    obtain ⟨k, v⟩ := m
    have hlast (key : List Char) : member? key ((k, v) :: ms) =
        match member? key ms with
        | some w => some w
        | none => if k = key then some v else none := rfl
    rw [membersEqual, Bool.and_eq_true, ih, Bool.or_eq_true]
    constructor
    · rintro ⟨hhead, htail⟩ key v' hv'
      rw [hlast] at hv'
      split at hv'
      · next w hw =>
        cases hv'
        exact htail key v' hw
      · next hnone =>
        split at hv'
        · next hkey =>
          cases hv'
          subst hkey
          rw [hnone] at hhead
          cases hw : member? k ns with
          | none => simp [hw] at hhead
          | some w => exact ⟨w, rfl, by simpa [hw] using hhead⟩
        · cases hv'
    · intro h
      constructor
      · cases hk : member? k ms with
        | some w => exact .inl rfl
        | none =>
          obtain ⟨w, hw, heq⟩ := h k v (by rw [hlast, hk]; exact if_pos rfl)
          simp [hw, heq]
      · intro key v' hv'
        exact h key v' (by rw [hlast, hv'])

/-- Deep equality is equality up to the order of keys. -/
theorem deepEqual_iff_same (v w : JSON) : deepEqual v w = true ↔ Same v w := by
  induction v generalizing w with
  | atom a =>
    cases w with
    | atom b =>
      rw [deepEqual, beq_iff_eq]
      constructor
      · rintro rfl
        exact .atom a
      · rintro ⟨⟩
        rfl
    | _ => exact iff_of_false (by simp [deepEqual]) (by rintro ⟨⟩)
  | array vs ih =>
    cases w with
    | array ws =>
      rw [deepEqual, itemsEqual_iff]
      constructor
      · rintro ⟨hlength, h⟩
        exact .array hlength fun i v w hv hw ↦
          (ih v (List.mem_of_getElem? hv) w).mp (h i v w hv hw)
      · rintro (_ | ⟨hlength, h⟩)
        exact ⟨hlength, fun i v w hv hw ↦ (ih v (List.mem_of_getElem? hv) w).mpr (h i v w hv hw)⟩
    | _ => exact iff_of_false (by simp [deepEqual]) (by rintro ⟨⟩)
  | object ms ih =>
    have hsame {key : List Char} {v : JSON} (hv : member? key ms = some v) (w : JSON) :
        deepEqual v w = true ↔ Same v w := by
      obtain ⟨m, hm, rfl⟩ := mem_of_member? hv
      exact ih m hm w
    cases w with
    | object ns =>
      rw [deepEqual, Bool.and_eq_true, membersEqual_iff, List.all_eq_true]
      constructor
      · rintro ⟨h, hkeys⟩
        refine .object (fun key ↦ ?_) fun key v w hv hw ↦ ?_
        · rw [Bool.eq_iff_iff]
          constructor
          · intro hsome
            obtain ⟨v, hv⟩ := Option.isSome_iff_exists.mp hsome
            obtain ⟨w, hw, -⟩ := h key v hv
            rw [hw]
            rfl
          · intro hsome
            obtain ⟨n, hn, rfl⟩ := isSome_member?_iff.mp hsome
            exact hkeys n hn
        · obtain ⟨w', hw', heq⟩ := h key v hv
          rw [hw, Option.some.injEq] at hw'
          exact (hsame hv w).mp (hw' ▸ heq)
      · rintro (_ | _ | ⟨hkeys, h⟩)
        refine ⟨fun key v hv ↦ ?_, fun n hn ↦ ?_⟩
        · have hsome : (member? key ns).isSome = true := by
            rw [← hkeys, hv]
            rfl
          obtain ⟨w, hw⟩ := Option.isSome_iff_exists.mp hsome
          exact ⟨w, hw, (hsame hv w).mpr (h key v w hv hw)⟩
        · rw [hkeys]
          exact isSome_member?_iff.mpr ⟨n, hn, rfl⟩
    | _ => exact iff_of_false (by simp [deepEqual]) (by rintro ⟨⟩)

end JSON

end PocketAp.Base
