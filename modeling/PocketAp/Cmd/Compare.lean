import PocketAp.Base.JSONText
import PocketAp.Domain.Domain

/-!
# Comparing bodies

`src/cmd/pocket-ap/call.go:415–481`. `call -compare` labels two bodies: identical, equivalent as
JSON, or different. Against what a JSON document is: one value with nothing but blanks around it.
-/

namespace PocketAp.Cmd

open PocketAp.Base PocketAp.Base.JSON PocketAp.Domain

/-- The limit on nesting of `encoding/json`. -/
def maxNestingDepth : Nat := 10000

/-- `(*json.Decoder).More`: what is left begins, and does not begin with a closing mark. -/
def more (rest : Bytes) : Bool :=
  match rest.dropWhile isBlank with
  | [] => false
  | b :: _ => b ≠ closeBracket ∧ b ≠ closeBrace

/-- `none` is an error. `src/cmd/pocket-ap/call.go:435–445`. -/
def decodeJSONValue (data : Bytes) : Option JSON :=
  match scanValue maxNestingDepth (data.dropWhile isBlank) with
  | none => none
  | some (v, rest) => if more rest then none else some v

/-- `src/cmd/pocket-ap/call.go:425–431`. -/
def jsonEquivalent (a b : Bytes) : Bool :=
  match decodeJSONValue a, decodeJSONValue b with
  | some av, some bv => deepEqual av bv
  | _, _ => false

/-- How two bodies are labelled. -/
inductive Verdict where
  | notCompared
  | identical
  | equivalent
  | differ
  deriving DecidableEq, Repr

/-- `src/cmd/pocket-ap/call.go:472–479`. -/
def verdict (relay direct : Except Err Bytes) : Verdict :=
  match relay, direct with
  | .ok a, .ok b =>
    if a = b then .identical else if jsonEquivalent a b then .equivalent else .differ
  | _, _ => .notCompared

/-- One value, nested at most so deep, with blanks around it. -/
def Document (depth : Nat) (data : Bytes) (v : JSON) : Prop :=
  ∃ w text w', data = w ++ text ++ w' ∧ w.all isBlank = true ∧ w'.all isBlank = true ∧
    ValueText depth text v

/-- Two documents with the same value, up to the order of keys. -/
def SameDocument (a b : Bytes) : Prop :=
  ∃ depth v w, Document depth a v ∧ Document depth b w ∧ Same v w

/-- If the values the texts begin with are the same, neither is followed by a closing mark; and
neither is nested too deep for the decoder. -/
structure Exact (a b : Bytes) : Prop where
  closed : ∀ v w rest rest', Reads maxNestingDepth a v rest → Reads maxNestingDepth b w rest' →
    Same v w → rest = [] ∧ rest' = []
  shallow : SameDocument a b →
    ∃ v w, Document maxNestingDepth a v ∧ Document maxNestingDepth b w

private theorem document_iff_reads {depth : Nat} {data : Bytes} {v : JSON} :
    Document depth data v ↔ Reads depth data v [] := by
  constructor
  · rintro ⟨w, text, w', rfl, hw, hw', hv⟩
    exact ⟨⟨w, text, w', by simp, hw, hw', hv⟩, .inl rfl⟩
  · rintro ⟨⟨w, text, w', hdata, hw, hw', hv⟩, -⟩
    exact ⟨w, text, w', by simpa using hdata, hw, hw', hv⟩

private theorem more_eq_false_iff (rest : Bytes) :
    more rest = false ↔ Closed (rest.dropWhile isBlank) := by
  unfold more Closed
  cases rest.dropWhile isBlank with
  | nil => simp
  | cons b t =>
    simp only [decide_eq_false_iff_not, not_and_or, ne_eq, not_not, reduceCtorEq, List.cons.injEq,
      false_or]
    constructor
    · exact fun hb ↦ ⟨b, t, ⟨rfl, rfl⟩, hb⟩
    · rintro ⟨_, _, ⟨rfl, rfl⟩, hb⟩
      exact hb

/-- What is decoded: a value that nothing follows, or a closing mark. -/
private theorem decodeJSONValue_eq_some_iff {data : Bytes} {v : JSON} :
    decodeJSONValue data = some v ↔ ∃ rest, Reads maxNestingDepth data v rest := by
  constructor
  · intro h
    unfold decodeJSONValue at h
    split at h
    · cases h
    · next v' rest hscan =>
      split at h
      · cases h
      · next hmore =>
        cases h
        exact ⟨_, reads_of_scan hscan ((more_eq_false_iff rest).mp (Bool.eq_false_iff.mpr hmore))⟩
  · rintro ⟨rest, h⟩
    obtain ⟨s, hscan, hs⟩ := h.scan
    have hmore : more s = false := (more_eq_false_iff s).mpr (hs ▸ h.closed)
    simp only [decodeJSONValue, hscan, hmore, Bool.false_eq_true, if_false]

private theorem jsonEquivalent_eq_true_iff {a b : Bytes} :
    jsonEquivalent a b = true ↔ ∃ v w rest rest', Reads maxNestingDepth a v rest ∧
      Reads maxNestingDepth b w rest' ∧ Same v w := by
  constructor
  · intro h
    unfold jsonEquivalent at h
    split at h
    · next v w hv hw =>
      obtain ⟨rest, hv⟩ := decodeJSONValue_eq_some_iff.mp hv
      obtain ⟨rest', hw⟩ := decodeJSONValue_eq_some_iff.mp hw
      exact ⟨v, w, rest, rest', hv, hw, (deepEqual_iff_same v w).mp h⟩
    · cases h
  · rintro ⟨v, w, rest, rest', hv, hw, hsame⟩
    have hv := decodeJSONValue_eq_some_iff.mpr ⟨rest, hv⟩
    have hw := decodeJSONValue_eq_some_iff.mpr ⟨rest', hw⟩
    simp only [jsonEquivalent, hv, hw]
    exact (deepEqual_iff_same v w).mpr hsame

/-- `jsonEquivalent` tells the same documents exactly from all other texts when no closing mark
follows values that are the same, and no such document is nested too deep. -/
theorem jsonEquivalent_iff_sameDocument_iff (a b : Bytes) :
    (jsonEquivalent a b = true ↔ SameDocument a b) ↔ Exact a b := by
  rw [jsonEquivalent_eq_true_iff]
  constructor
  · intro h
    constructor
    · intro v w rest rest' hv hw hsame
      obtain ⟨depth, v', w', hv', hw', -⟩ := h.mp ⟨v, w, rest, rest', hv, hw, hsame⟩
      exact ⟨(hv.unique (document_iff_reads.mp hv')).2, (hw.unique (document_iff_reads.mp hw')).2⟩
    · intro hdoc
      obtain ⟨v, w, rest, rest', hv, hw, -⟩ := h.mpr hdoc
      obtain ⟨depth, v', w', hv', hw', -⟩ := hdoc
      obtain ⟨-, rfl⟩ := hv.unique (document_iff_reads.mp hv')
      obtain ⟨-, rfl⟩ := hw.unique (document_iff_reads.mp hw')
      exact ⟨v, w, document_iff_reads.mpr hv, document_iff_reads.mpr hw⟩
  · intro h
    constructor
    · rintro ⟨v, w, rest, rest', hv, hw, hsame⟩
      obtain ⟨rfl, rfl⟩ := h.closed v w rest rest' hv hw hsame
      exact ⟨_, v, w, document_iff_reads.mpr hv, document_iff_reads.mpr hw, hsame⟩
    · intro hdoc
      obtain ⟨v, w, hv, hw⟩ := h.shallow hdoc
      obtain ⟨depth, v', w', hv', hw', hsame⟩ := hdoc
      rw [document_iff_reads] at hv hw hv' hw'
      obtain ⟨rfl, -⟩ := hv.unique hv'
      obtain ⟨rfl, -⟩ := hw.unique hw'
      exact ⟨v, w, [], [], hv, hw, hsame⟩

example : jsonEquivalent (ascii "\x7b\"a\":[1.0],\"b\":null\x7d")
    (ascii " \x7b\"b\": null, \"a\": 1, \"\\u0061\": [ 1.0 ]\x7d\n") = true := by
  decide +kernel

/-- A closing bracket after a number goes unnoticed. -/
theorem stray_bracket_equivalent :
    jsonEquivalent (ascii "1]") (ascii "1") = true ∧
      verdict (.ok (ascii "1]")) (.ok (ascii "1")) = .equivalent ∧
      ¬ SameDocument (ascii "1]") (ascii "1") := by
  refine ⟨by decide +kernel, by decide +kernel, ?_⟩
  rintro ⟨depth, v, w, hv, -⟩
  have hscan : scanValue maxNestingDepth ((ascii "1]").dropWhile isBlank) =
      some (.atom (.number (ascii "1")), ascii "]") := by
    rfl
  have hreads := reads_of_scan hscan (.inr ⟨closeBracket, [], by decide +kernel, .inl rfl⟩)
  have hrest := (hreads.unique (document_iff_reads.mp hv)).2
  revert hrest
  decide +kernel

end PocketAp.Cmd
