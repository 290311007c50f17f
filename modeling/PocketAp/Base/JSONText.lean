import PocketAp.Base.JSON
import PocketAp.Base.Parser

/-!
# The text of JSON

Library `Base`. The decoder of `encoding/json` and the grammar it reads. Strings are unquoted as
there: bytes that are no UTF-8 and surrogates without a partner become U+FFFD.
-/

namespace PocketAp.Base.JSON

/-- An ASCII text as bytes. -/
def ascii (s : String) : List UInt8 := s.toList.map Char.toUInt8

/-- ASCII quotation mark. -/
def quote : UInt8 := 0x22
/-- ASCII backslash. -/
def backslash : UInt8 := 0x5C
/-- ASCII comma. -/
def comma : UInt8 := 0x2C
/-- ASCII colon. -/
def colon : UInt8 := 0x3A
/-- ASCII `[`. -/
def openBracket : UInt8 := 0x5B
/-- ASCII `]`. -/
def closeBracket : UInt8 := 0x5D
/-- ASCII left brace. -/
def openBrace : UInt8 := 0x7B
/-- ASCII right brace. -/
def closeBrace : UInt8 := 0x7D

/-- `isSpace` of `encoding/json`. -/
def isBlank (b : UInt8) : Bool := b ∈ ascii " \t\r\n"

/-- ASCII digits. -/
def isDigit (b : UInt8) : Bool := 0x30 ≤ b ∧ b ≤ 0x39

/-- The value of a hexadecimal digit. -/
def hexValue? (b : UInt8) : Option Nat :=
  if 0x30 ≤ b ∧ b ≤ 0x39 then some (b.toNat - 0x30)
  else if 0x61 ≤ b ∧ b ≤ 0x66 then some (b.toNat - 0x61 + 10)
  else if 0x41 ≤ b ∧ b ≤ 0x46 then some (b.toNat - 0x41 + 10)
  else none

/-- ASCII hexadecimal digits. -/
def isHex (b : UInt8) : Bool := (hexValue? b).isSome

/-! ### Strings -/

/-- What may follow a backslash, other than a code point. -/
def isEscape (b : UInt8) : Bool := b ∈ ascii "bfnrt\\/\""

/-- The mark of a code point. -/
def unicodeMark : UInt8 := 0x75

/-- Where the scanner is in a string; in a code point, how many digits follow the next one. -/
inductive StringState where
  | plain
  | escape
  | code (left : Nat)

/-- The text of a string up to its closing quote. -/
def scanStringFrom : StringState → Parser UInt8 (List UInt8)
  | _, [] => none
  | .plain, b :: s =>
    if b = quote then some ([], s)
    else if b < 0x20 then none
    else (scanStringFrom (if b = backslash then .escape else .plain) s).map fun (t, rest) ↦
      (b :: t, rest)
  | .escape, b :: s =>
    if isEscape b then (scanStringFrom .plain s).map fun (t, rest) ↦ (b :: t, rest)
    else if b = unicodeMark then (scanStringFrom (.code 3) s).map fun (t, rest) ↦ (b :: t, rest)
    else none
  | .code left, b :: s =>
    if isHex b then
      (scanStringFrom (if left = 0 then .plain else .code (left - 1)) s).map fun (t, rest) ↦
        (b :: t, rest)
    else none

/-- A string after its opening quote. -/
def scanString : Parser UInt8 (List UInt8) := scanStringFrom .plain

/-- The text between the quotes. -/
inductive StringText : List UInt8 → Prop where
  | nil : StringText []
  | plain {b : UInt8} {t : List UInt8} (hquote : b ≠ quote) (hslash : b ≠ backslash)
      (hcontrol : ¬ b < 0x20) (ht : StringText t) : StringText (b :: t)
  | escape {e : UInt8} {t : List UInt8} (he : isEscape e = true) (ht : StringText t) :
      StringText (backslash :: e :: t)
  | code {digits t : List UInt8} (hlength : digits.length = 4) (hhex : digits.all isHex = true)
      (ht : StringText t) : StringText (backslash :: unicodeMark :: (digits ++ t))

/-- What is left of the text of a string. -/
private def StringState.Left : StringState → List UInt8 → Prop
  | .plain, t => StringText t
  | .escape, t => StringText (backslash :: t)
  | .code left, t => ∃ digits t', t = digits ++ t' ∧ digits.length = left + 1 ∧
      digits.all isHex = true ∧ StringText t'

private theorem scanStringFrom_sound {state : StringState} {s t rest : List UInt8}
    (h : scanStringFrom state s = some (t, rest)) : s = t ++ quote :: rest ∧ state.Left t := by
  induction s generalizing state t with
  | nil => cases state <;> cases h
  | cons b s ih =>
    cases state with
    | plain =>
      rw [scanStringFrom] at h
      split at h
      · next hb =>
        cases h
        exact ⟨by rw [hb]; rfl, .nil⟩
      · next hb =>
        split at h
        · cases h
        · next hcontrol =>
          obtain ⟨t', ht', rfl⟩ := exists_of_map_value h
          obtain ⟨rfl, hleft⟩ := ih ht'
          refine ⟨rfl, ?_⟩
          by_cases hslash : b = backslash
          · rw [if_pos hslash] at hleft
            subst hslash
            exact hleft
          · rw [if_neg hslash] at hleft
            exact .plain hb hslash hcontrol hleft
    | escape =>
      rw [scanStringFrom] at h
      split at h
      · next hb =>
        obtain ⟨t', ht', rfl⟩ := exists_of_map_value h
        obtain ⟨rfl, hleft⟩ := ih ht'
        exact ⟨rfl, .escape hb hleft⟩
      · split at h
        · next hb =>
          obtain ⟨t', ht', rfl⟩ := exists_of_map_value h
          obtain ⟨rfl, digits, t', rfl, hlength, hhex, hleft⟩ := ih ht'
          exact ⟨rfl, hb ▸ .code hlength hhex hleft⟩
        · cases h
    | code left =>
      rw [scanStringFrom] at h
      split at h
      · next hb =>
        obtain ⟨t', ht', rfl⟩ := exists_of_map_value h
        obtain ⟨rfl, hleft⟩ := ih ht'
        refine ⟨rfl, ?_⟩
        by_cases hzero : left = 0
        · rw [if_pos hzero] at hleft
          exact ⟨[b], t', rfl, by simp [hzero], by simp [hb], hleft⟩
        · rw [if_neg hzero] at hleft
          obtain ⟨digits, t'', rfl, hlength, hhex, hleft⟩ := hleft
          exact ⟨b :: digits, t'', rfl, by simp only [List.length_cons]; omega,
            by simp [hb, hhex], hleft⟩
      · cases h

private theorem scanStringFrom_code {left : Nat} {digits t rest s : List UInt8}
    (hlength : digits.length = left + 1) (hhex : digits.all isHex = true)
    (h : scanStringFrom .plain s = some (t, rest)) :
    scanStringFrom (.code left) (digits ++ s) = some (digits ++ t, rest) := by
  induction left generalizing digits with
  | zero =>
    obtain ⟨d, rfl⟩ := List.length_eq_one_iff.mp hlength
    rw [List.all_cons, Bool.and_eq_true] at hhex
    simp [scanStringFrom, hhex.1, h]
  | succ left ih =>
    cases digits with
    | nil => cases hlength
    | cons d digits =>
      rw [List.all_cons, Bool.and_eq_true] at hhex
      have hrest := ih (Nat.succ.inj hlength) hhex.2
      simp [scanStringFrom, hhex.1, hrest]

private theorem not_quote_backslash : backslash ≠ quote ∧ ¬ backslash < 0x20 := by decide

private theorem not_isEscape_unicodeMark : isEscape unicodeMark = false := by decide

private theorem scanString_complete {t : List UInt8} (h : StringText t) (rest : List UInt8) :
    scanString (t ++ quote :: rest) = some (t, rest) := by
  unfold scanString
  induction h with
  | nil => simp [scanStringFrom]
  | plain hquote hslash hcontrol ht ih => simp [scanStringFrom, hquote, hslash, hcontrol, ih]
  | escape he ht ih =>
    simp [scanStringFrom, not_quote_backslash.1, not_quote_backslash.2, he, ih]
  | code hlength hhex ht ih =>
    have hcode := scanStringFrom_code hlength hhex ih
    simp [scanStringFrom, not_quote_backslash.1, not_quote_backslash.2, not_isEscape_unicodeMark,
      hcode]

private theorem parses_scanString :
    Parses scanString (fun text t ↦ text = t ++ [quote] ∧ StringText t) (fun _ ↦ True) := by
  constructor
  · intro s t rest h
    obtain ⟨rfl, ht⟩ := scanStringFrom_sound h
    exact ⟨t ++ [quote], by simp, rfl, ht⟩
  · rintro text t rest ⟨rfl, ht⟩ -
    rw [List.append_assoc, List.singleton_append]
    exact scanString_complete ht rest

/-! ### Unquoting -/

/-- `unicode.ReplacementChar`. -/
def replacement : Nat := 0xFFFD

/-- `utf8.DecodeRune` of a text that is not empty: a code point and its width. -/
def decodeRune (s : List UInt8) : Nat × Nat :=
  let byte (i : Nat) : Nat := (s.getD i 0).toNat
  let tail (i : Nat) : Bool := 0x80 ≤ byte i ∧ byte i ≤ 0xBF
  if byte 0 < 0x80 then (byte 0, 1)
  else if 0xC2 ≤ byte 0 ∧ byte 0 ≤ 0xDF ∧ tail 1 then (byte 0 % 32 * 64 + byte 1 % 64, 2)
  else if 0xE0 ≤ byte 0 ∧ byte 0 ≤ 0xEF ∧ tail 1 ∧ tail 2 ∧ (byte 0 = 0xE0 → 0xA0 ≤ byte 1) ∧
      (byte 0 = 0xED → byte 1 ≤ 0x9F) then
    ((byte 0 % 16 * 64 + byte 1 % 64) * 64 + byte 2 % 64, 3)
  else if 0xF0 ≤ byte 0 ∧ byte 0 ≤ 0xF4 ∧ tail 1 ∧ tail 2 ∧ tail 3 ∧
      (byte 0 = 0xF0 → 0x90 ≤ byte 1) ∧ (byte 0 = 0xF4 → byte 1 ≤ 0x8F) then
    (((byte 0 % 8 * 64 + byte 1 % 64) * 64 + byte 2 % 64) * 64 + byte 3 % 64, 4)
  else (replacement, 1)

/-- `getu4`: the number after a backslash and the mark of a code point. -/
def getu4 : List UInt8 → Option Nat
  | b :: u :: digits =>
    if b = backslash ∧ u = unicodeMark ∧ 4 ≤ digits.length ∧ (digits.take 4).all isHex then
      some ((digits.take 4).foldl (fun n d ↦ 16 * n + (hexValue? d).getD 0) 0)
    else none
  | _ => none

/-- `utf16.DecodeRune`; `none` is no pair of surrogates. -/
def surrogatePair (high low : Nat) : Option Nat :=
  if 0xD800 ≤ high ∧ high < 0xDC00 ∧ 0xDC00 ≤ low ∧ low < 0xE000 then
    some ((high - 0xD800) * 0x400 + (low - 0xDC00) + 0x10000)
  else none

/-- A backslash and what belongs to it: a code point and its width. -/
def unescape (s : List UInt8) : Nat × Nat :=
  match getu4 s with
  | some high =>
    if 0xD800 ≤ high ∧ high < 0xE000 then
      match (getu4 (s.drop 6)).bind (surrogatePair high) with
      | some rune => (rune, 12)
      | none => (replacement, 6)
    else (high, 6)
  | none =>
    let e := s.getD 1 0
    (if e = 0x62 then 0x08 else if e = 0x66 then 0x0C else if e = 0x6E then 0x0A
      else if e = 0x72 then 0x0D else if e = 0x74 then 0x09 else e.toNat, 2)

/-- The loop of `unquoteBytes`, for at most so many code points. -/
def unquoteFrom : Nat → List UInt8 → List Char
  | 0, _ => []
  | _, [] => []
  | n + 1, b :: s =>
    let (rune, width) := if b = backslash then unescape (b :: s) else decodeRune (b :: s)
    Char.ofNat rune :: unquoteFrom n ((b :: s).drop width)

/-- The characters of a string. -/
def unquote (t : List UInt8) : List Char := unquoteFrom t.length t

/-! ### Numbers -/

/-- A sign before a number. -/
def isMinus (b : UInt8) : Bool := b = 0x2D
/-- What begins a fraction. -/
def isPoint (b : UInt8) : Bool := b = 0x2E
/-- What begins an exponent. -/
def isExponentMark (b : UInt8) : Bool := b = 0x65 ∨ b = 0x45
/-- Signs of an exponent. -/
def isSign (b : UInt8) : Bool := b = 0x2B ∨ b = 0x2D

/-- A byte that can go on with a number. -/
def isNumberByte (b : UInt8) : Bool := isDigit b || isPoint b || isExponentMark b || isSign b

/-- No zero before other digits. -/
def scanInteger : Parser UInt8 (List UInt8)
  | [] => none
  | b :: s =>
    if b = 0x30 then some ([b], s)
    else if isDigit b then some (b :: s.takeWhile isDigit, s.dropWhile isDigit)
    else none

/-- A number as `encoding/json` scans it. -/
def scanNumber : Parser UInt8 (List UInt8) :=
  both (both (both (marked isMinus nothing) scanInteger (· ++ ·))
    (marked isPoint (many isDigit)) (· ++ ·))
    (marked isExponentMark (both (marked isSign nothing) (many isDigit) (· ++ ·))) (· ++ ·)

/-- One digit or more. -/
def DigitsText (t : List UInt8) : Prop := t ≠ [] ∧ t.all isDigit = true

/-- Digits without a leading zero. -/
def IntegerText (t : List UInt8) : Prop :=
  t = [0x30] ∨ ∃ b ds, t = b :: ds ∧ b ≠ 0x30 ∧ isDigit b = true ∧ ds.all isDigit = true

/-- Sign, integer, fraction, exponent. -/
def NumberText : List UInt8 → Prop :=
  Concat (Concat (Concat (Marked isMinus (· = [])) IntegerText) (Marked isPoint DigitsText))
    (Marked isExponentMark (Concat (Marked isSign (· = [])) DigitsText))

private theorem scans_scanInteger : Scans scanInteger IntegerText (NotAhead isDigit) := by
  constructor
  · intro s a rest h
    cases s with
    | nil => cases h
    | cons b s =>
      rw [scanInteger] at h
      split at h
      · next hb =>
        cases h
        exact ⟨[b], rfl, rfl, .inl (by rw [hb])⟩
      · next hb =>
        split at h
        · next hdigit =>
          cases h
          refine ⟨_, ?_, rfl, .inr ⟨b, _, rfl, hb, hdigit, List.all_takeWhile⟩⟩
          rw [List.cons_append, List.takeWhile_append_dropWhile]
        · cases h
  · rintro text a rest ⟨rfl, rfl | ⟨b, ds, rfl, hb, hdigit, hds⟩⟩ hrest
    · rfl
    · obtain ⟨htake, hdrop⟩ := takeWhile_append_notAhead hds hrest
      simp only [List.cons_append, scanInteger, hb, hdigit, if_true, if_false, htake, hdrop]

private theorem not_isDigit_of_isPoint {b : UInt8} (h : isPoint b = true) : isDigit b = false := by
  obtain rfl : b = 0x2E := by simpa [isPoint] using h
  decide

private theorem not_isDigit_of_isSign {b : UInt8} (h : isSign b = true) : isDigit b = false := by
  rcases (by simpa [isSign] using h : b = 0x2B ∨ b = 0x2D) with rfl | rfl <;> decide

private theorem isSign_of_isMinus {b : UInt8} (h : isMinus b = true) : isSign b = true := by
  obtain rfl : b = 0x2D := by simpa [isMinus] using h
  decide

private theorem isExponentMark_apart {b : UInt8} (h : isExponentMark b = true) :
    isDigit b = false ∧ isPoint b = false := by
  rcases (by simpa [isExponentMark] using h : b = 0x65 ∨ b = 0x45) with rfl | rfl <;> decide

/-- Where digits begin there is no sign. -/
private theorem notAhead_isSign {b : UInt8} (h : isDigit b = true) (t : List UInt8) :
    NotAhead isSign (b :: t) := by
  apply notAhead_cons
  rw [Bool.eq_false_iff]
  intro hsign
  rw [not_isDigit_of_isSign hsign] at h
  cases h

private theorem IntegerText.head {u : List UInt8} (h : IntegerText u) :
    ∃ b t, u = b :: t ∧ isDigit b = true := by
  rcases h with rfl | ⟨b, ds, rfl, -, hdigit, -⟩
  · exact ⟨_, _, rfl, by decide⟩
  · exact ⟨b, ds, rfl, hdigit⟩

private theorem DigitsText.head {u : List UInt8} (h : DigitsText u) :
    ∃ b t, u = b :: t ∧ isDigit b = true := by
  obtain ⟨hne, hall⟩ := h
  obtain ⟨b, t, rfl⟩ := List.exists_cons_of_ne_nil hne
  rw [List.all_cons, Bool.and_eq_true] at hall
  exact ⟨b, t, rfl, hall.1⟩

private theorem scans_exponent :
    Scans (marked isExponentMark (both (marked isSign nothing) (many isDigit) (· ++ ·)))
      (Marked isExponentMark (Concat (Marked isSign (· = [])) DigitsText))
      (NotAhead isNumberByte) := by
  have hsigned := Scans.append (scans_nothing.marked isSign) (scans_many isDigit)
    (fun u rest hu _ ↦ by
      obtain ⟨b, t, rfl, hb⟩ := DigitsText.head hu
      exact ⟨notAhead_isSign hb _, trivial⟩)
  apply Parses.weaken (hsigned.marked isExponentMark)
  intro rest hrest
  exact ⟨hrest.mono (fun b hb ↦ by simp [isNumberByte, hb]),
    hrest.mono (fun b hb ↦ by simp [isNumberByte, hb])⟩

private theorem scans_scanNumber : Scans scanNumber NumberText (NotAhead isNumberByte) := by
  have hinteger := Scans.append (scans_nothing.marked isMinus) scans_scanInteger
    (fun u rest hu _ ↦ by
      obtain ⟨b, t, rfl, hb⟩ := hu.head
      exact ⟨(notAhead_isSign hb _).mono fun _ ↦ isSign_of_isMinus, trivial⟩)
  have hfraction := Scans.append hinteger ((scans_many isDigit).marked isPoint)
    (fun u rest hu hrest ↦ hu.notAhead (fun _ ↦ not_isDigit_of_isPoint) hrest.2)
  refine Scans.append hfraction scans_exponent fun u rest hu hrest ↦ ⟨?_, ?_⟩
  · exact hu.notAhead (fun b hb ↦ (isExponentMark_apart hb).2)
      (hrest.mono fun b hb ↦ by simp [isNumberByte, hb])
  · exact hu.notAhead (fun b hb ↦ (isExponentMark_apart hb).1)
      (hrest.mono fun b hb ↦ by simp [isNumberByte, hb])

private theorem NumberText.head {t : List UInt8} (h : NumberText t) :
    ∃ b u, t = b :: u ∧ (isDigit b = true ∨ isMinus b = true) := by
  obtain ⟨_, _, rfl, ⟨_, _, rfl, ⟨sign, integer, rfl, hsign, hinteger⟩, -⟩, -⟩ := h
  rcases hsign with rfl | ⟨b, _, rfl, hb, rfl⟩
  · obtain ⟨b, u, rfl, hb⟩ := hinteger.head
    exact ⟨b, _, rfl, .inl hb⟩
  · exact ⟨b, _, rfl, .inr hb⟩

/-! ### Atoms -/

/-- A fixed text. -/
def literal (text : List UInt8) (a : Atom) : Parser UInt8 Atom := fun s ↦
  if text.isPrefixOf s then some (a, s.drop text.length) else none

/-- A value without parts. -/
def scanAtom : Parser UInt8 Atom
  | [] => none
  | b :: s =>
    if b = quote then (scanString s).map fun (t, rest) ↦ (.string (unquote t), rest)
    else if b = 0x6E then literal (ascii "null") .null (b :: s)
    else if b = 0x74 then literal (ascii "true") (.bool true) (b :: s)
    else if b = 0x66 then literal (ascii "false") (.bool false) (b :: s)
    else (scanNumber (b :: s)).map fun (t, rest) ↦ (.number t, rest)

/-- The text of a value without parts. -/
inductive AtomText : List UInt8 → Atom → Prop where
  | null : AtomText (ascii "null") .null
  | true : AtomText (ascii "true") (.bool true)
  | false : AtomText (ascii "false") (.bool false)
  | string {t : List UInt8} (h : StringText t) :
      AtomText (quote :: (t ++ [quote])) (.string (unquote t))
  | number {t : List UInt8} (h : NumberText t) : AtomText t (.number t)

private theorem literal_sound {text s rest : List UInt8} {a a' : Atom}
    (h : literal text a s = some (a', rest)) : s = text ++ rest ∧ a' = a := by
  unfold literal at h
  split at h
  · next hstarts =>
    cases h
    obtain ⟨t, rfl⟩ := List.isPrefixOf_iff_prefix.mp hstarts
    rw [List.drop_left]
    exact ⟨rfl, rfl⟩
  · cases h

private theorem literal_complete (text rest : List UInt8) (a : Atom) :
    literal text a (text ++ rest) = some (a, rest) := by
  rw [literal, if_pos (List.isPrefixOf_iff_prefix.mpr (List.prefix_append text rest)),
    List.drop_left]

private theorem parses_scanAtom : Parses scanAtom AtomText (NotAhead isNumberByte) := by
  constructor
  · intro s a rest h
    cases s with
    | nil => cases h
    | cons b s =>
      rw [scanAtom] at h
      split at h
      · next hb =>
        obtain ⟨t, ht, rfl⟩ := exists_of_map_value (f := fun t ↦ Atom.string (unquote t)) h
        obtain ⟨_, rfl, rfl, htext⟩ := parses_scanString.sound ht
        exact ⟨_, by rw [hb]; rfl, .string htext⟩
      · split at h
        · obtain ⟨hs, rfl⟩ := literal_sound h
          exact ⟨_, hs, .null⟩
        · split at h
          · obtain ⟨hs, rfl⟩ := literal_sound h
            exact ⟨_, hs, .true⟩
          · split at h
            · obtain ⟨hs, rfl⟩ := literal_sound h
              exact ⟨_, hs, .false⟩
            · obtain ⟨t, ht, rfl⟩ := exists_of_map_value h
              obtain ⟨_, hs, rfl, htext⟩ := scans_scanNumber.sound ht
              exact ⟨_, hs, .number htext⟩
  · intro text a rest h hrest
    cases h with
    | null => exact literal_complete (ascii "null") rest .null
    | true => exact literal_complete (ascii "true") rest (.bool true)
    | false => exact literal_complete (ascii "false") rest (.bool false)
    | string ht =>
      simp [scanAtom, scanString_complete ht rest]
    | number ht =>
      have hread := scans_scanNumber.complete ⟨rfl, ht⟩ hrest
      obtain ⟨b, u, rfl, hb⟩ := ht.head
      have hmarks : b ≠ quote ∧ b ≠ 0x6E ∧ b ≠ 0x74 ∧ b ≠ 0x66 := by
        refine ⟨?_, ?_, ?_, ?_⟩ <;>
        · rintro rfl
          revert hb
          decide
      rw [List.cons_append] at hread ⊢
      rw [scanAtom, if_neg hmarks.1, if_neg hmarks.2.1, if_neg hmarks.2.2.1, if_neg hmarks.2.2.2,
        hread]
      rfl

/-- How an atom can begin. -/
private def startsAtom (b : UInt8) : Bool := b ∈ ascii "\"ntf" || isDigit b || isMinus b

private theorem startsAtom_of_atomText {text : List UInt8} {a : Atom} (h : AtomText text a) :
    ∃ b t, text = b :: t ∧ startsAtom b = true := by
  cases h with
  | number ht =>
    obtain ⟨b, t, rfl, hb⟩ := ht.head
    refine ⟨b, t, rfl, ?_⟩
    rcases hb with hb | hb <;> simp [startsAtom, hb]
  | _ => exact ⟨_, _, rfl, by decide⟩

private theorem ne_of_startsAtom {b c : UInt8} (hb : startsAtom b = true)
    (hc : startsAtom c = false) : b ≠ c := by
  rintro rfl
  rw [hb] at hc
  cases hc

private theorem not_isBlank_of_startsAtom {b : UInt8} (hb : startsAtom b = true) :
    isBlank b = false := by
  rw [Bool.eq_false_iff]
  intro hblank
  have hall : ∀ c ∈ ascii " \t\r\n", startsAtom c = false := by decide +kernel
  rw [hall b (by simpa [isBlank] using hblank)] at hb
  cases hb

/-! ### Values -/

/-- A key and a value. -/
def scanMember (value : Parser UInt8 JSON) : Parser UInt8 (List Char × JSON)
  | [] => none
  | b :: s =>
    if b = quote then
      match scanString s with
      | none => none
      | some (key, s) =>
        match s.dropWhile isBlank with
        | [] => none
        | c :: s =>
          if c = colon then
            (value (s.dropWhile isBlank)).map fun (v, rest) ↦ ((unquote key, v), rest)
          else none
    else none

/-- A value; arrays and objects may be nested so deep. -/
def scanValue : Nat → Parser UInt8 JSON
  | 0, s => (scanAtom s).map fun (a, rest) ↦ (.atom a, rest)
  | _ + 1, [] => none
  | depth + 1, b :: s =>
    if b = openBracket then
      (bracketed isBlank comma closeBracket (scanValue depth) s).map fun (items, rest) ↦
        (.array items, rest)
    else if b = openBrace then
      (bracketed isBlank comma closeBrace (scanMember (scanValue depth)) s).map
        fun (members, rest) ↦ (.object members, rest)
    else (scanAtom (b :: s)).map fun (a, rest) ↦ (.atom a, rest)

/-- The text of a key and its value. -/
inductive MemberText (value : List UInt8 → JSON → Prop) : List UInt8 → List Char × JSON → Prop where
  | intro {key w w' text : List UInt8} {v : JSON} (hkey : StringText key)
      (hw : w.all isBlank = true) (hw' : w'.all isBlank = true) (hv : value text v) :
      MemberText value (quote :: (key ++ quote :: (w ++ colon :: (w' ++ text)))) (unquote key, v)

/-- The text of a value that is nested at most so deep. -/
def ValueText : Nat → List UInt8 → JSON → Prop
  | 0, text, v => ∃ a, v = .atom a ∧ AtomText text a
  | depth + 1, text, v =>
    (∃ a, v = .atom a ∧ AtomText text a) ∨
      (∃ t items, text = openBracket :: t ∧ v = .array items ∧
        Bracketed isBlank comma closeBracket (ValueText depth) t items) ∨
      ∃ t members, text = openBrace :: t ∧ v = .object members ∧
        Bracketed isBlank comma closeBrace (MemberText (ValueText depth)) t members

/-- How a value begins. -/
private theorem ValueText.head {depth : Nat} {text : List UInt8} {v : JSON}
    (h : ValueText depth text v) :
    ∃ b t, text = b :: t ∧ isBlank b = false ∧ b ≠ closeBracket := by
  have hatom {a : Atom} (ha : AtomText text a) :
      ∃ b t, text = b :: t ∧ isBlank b = false ∧ b ≠ closeBracket := by
    obtain ⟨b, t, rfl, hb⟩ := startsAtom_of_atomText ha
    exact ⟨b, t, rfl, not_isBlank_of_startsAtom hb, ne_of_startsAtom hb (by decide)⟩
  cases depth with
  | zero =>
    obtain ⟨a, -, ha⟩ := h
    exact hatom ha
  | succ depth =>
    rcases h with ⟨a, -, ha⟩ | ⟨t, items, rfl, -, -⟩ | ⟨t, members, rfl, -, -⟩
    · exact hatom ha
    · exact ⟨_, t, rfl, by decide, by decide⟩
    · exact ⟨_, t, rfl, by decide, by decide⟩

private theorem stops_isNumberByte {close b : UInt8}
    (hclose : close = closeBracket ∨ close = closeBrace)
    (h : isBlank b = true ∨ b = comma ∨ b = close) (rest : List UInt8) :
    NotAhead isNumberByte (b :: rest) := by
  apply notAhead_cons
  have hall : ∀ c ∈ comma :: closeBracket :: closeBrace :: ascii " \t\r\n",
      isNumberByte c = false := by
    decide +kernel
  apply hall
  rcases h with h | rfl | rfl
  · have hmem : b ∈ ascii " \t\r\n" := by simpa [isBlank] using h
    simp [hmem]
  · simp
  · rcases hclose with rfl | rfl <;> simp

private theorem separates_items (depth : Nat) :
    Separates isBlank comma closeBracket (ValueText depth) (NotAhead isNumberByte) where
  comma_blank := by decide
  close_blank := by decide
  comma_close := by decide
  stops _ rest h := stops_isNumberByte (.inl rfl) h rest
  starts _ _ h := h.head

private theorem separates_members (value : List UInt8 → JSON → Prop) :
    Separates isBlank comma closeBrace (MemberText value) (NotAhead isNumberByte) where
  comma_blank := by decide
  close_blank := by decide
  comma_close := by decide
  stops _ rest h := stops_isNumberByte (.inr rfl) h rest
  starts := by
    rintro _ _ ⟨hkey, hw, hw', hv⟩
    exact ⟨quote, _, rfl, by decide, by decide⟩

private theorem parses_scanMember {value : Parser UInt8 JSON} {grammar : List UInt8 → JSON → Prop}
    {stop : List UInt8 → Prop} (h : Parses value grammar stop)
    (hhead : ∀ text v, grammar text v → ∃ b t, text = b :: t ∧ isBlank b = false) :
    Parses (scanMember value) (MemberText grammar) stop := by
  constructor
  · intro s m rest hread
    cases s with
    | nil => cases hread
    | cons b s =>
      rw [scanMember] at hread
      split at hread
      · next hb =>
        split at hread
        · cases hread
        · next key s' hkey =>
          obtain ⟨_, rfl, rfl, hkeytext⟩ := parses_scanString.sound hkey
          obtain ⟨w, hw, hs'⟩ := eq_append_dropWhile isBlank s'
          split at hread
          · cases hread
          · next c s'' hdrop =>
            rw [hdrop] at hs'
            split at hread
            · next hc =>
              obtain ⟨v, hv, rfl⟩ := exists_of_map_value hread
              obtain ⟨w', hw', hs''⟩ := eq_append_dropWhile isBlank s''
              obtain ⟨text, htext, hgrammar⟩ := h.sound hv
              refine ⟨_, ?_, .intro hkeytext hw hw' hgrammar⟩
              rw [hb, hs', hc, hs'', htext]
              simp
            · cases hread
      · cases hread
  · rintro _ _ rest ⟨hkey, hw, hw', hv⟩ hrest
    rename_i key w w' text v
    obtain ⟨b, t, rfl, hb⟩ := hhead _ _ hv
    have hread := h.complete hv hrest
    have hshape : quote :: (key ++ quote :: (w ++ colon :: (w' ++ b :: t))) ++ rest =
        quote :: (key ++ quote :: (w ++ colon :: (w' ++ b :: (t ++ rest)))) := by
      simp
    rw [hshape, scanMember, if_pos rfl, scanString_complete hkey]
    dsimp only
    rw [dropWhile_blank isBlank hw (by decide)]
    dsimp only
    rw [if_pos rfl, dropWhile_blank isBlank hw' hb, ← List.cons_append, hread]
    rfl

/-- The decoder reads the grammar. -/
theorem parses_scanValue (depth : Nat) :
    Parses (scanValue depth) (ValueText depth) (NotAhead isNumberByte) := by
  have hatom := parses_scanAtom.map JSON.atom
  induction depth with
  | zero =>
    constructor
    · intro s v rest h
      obtain ⟨text, hs, a, ha, hv⟩ := hatom.sound h
      exact ⟨text, hs, a, hv, ha⟩
    · rintro text v rest ⟨a, hv, ha⟩ hrest
      exact hatom.complete ⟨a, ha, hv⟩ hrest
  | succ depth ih =>
    have hitems := (ih.bracketed (separates_items depth)).map JSON.array
    have hmembers := ((parses_scanMember ih fun _ _ h ↦
      have ⟨b, t, htext, hb, _⟩ := h.head
      ⟨b, t, htext, hb⟩).bracketed (separates_members _)).map JSON.object
    constructor
    · intro s v rest h
      cases s with
      | nil => cases h
      | cons b s =>
        rw [scanValue] at h
        split at h
        · next hb =>
          obtain ⟨t, rfl, items, hgrammar, rfl⟩ := hitems.sound h
          exact ⟨openBracket :: t, by rw [hb]; rfl, .inr (.inl ⟨t, items, rfl, rfl, hgrammar⟩)⟩
        · split at h
          · next hb =>
            obtain ⟨t, rfl, members, hgrammar, rfl⟩ := hmembers.sound h
            exact ⟨openBrace :: t, by rw [hb]; rfl, .inr (.inr ⟨t, members, rfl, rfl, hgrammar⟩)⟩
          · obtain ⟨text, hs, a, ha, rfl⟩ := hatom.sound h
            exact ⟨text, hs, .inl ⟨a, rfl, ha⟩⟩
    · rintro text v rest (⟨a, rfl, ha⟩ | ⟨t, items, rfl, rfl, ht⟩ | ⟨t, members, rfl, rfl, ht⟩) hrest
      · have hread := hatom.complete ⟨a, ha, rfl⟩ hrest
        obtain ⟨b, t, rfl, hb⟩ := startsAtom_of_atomText ha
        rw [List.cons_append] at hread ⊢
        rw [scanValue, if_neg (ne_of_startsAtom hb (by decide)),
          if_neg (ne_of_startsAtom hb (by decide))]
        exact hread
      · rw [List.cons_append, scanValue, if_pos rfl]
        exact hitems.complete ⟨items, ht, rfl⟩ trivial
      · rw [List.cons_append, scanValue, if_neg (by decide), if_pos rfl]
        exact hmembers.complete ⟨members, ht, rfl⟩ trivial

private theorem ValueText.succ {depth : Nat} {text : List UInt8} {v : JSON}
    (h : ValueText depth text v) : ValueText (depth + 1) text v := by
  induction depth generalizing text v with
  | zero => exact .inl h
  | succ depth ih =>
    rcases h with ha | ⟨t, items, htext, hv, ht⟩ | ⟨t, members, htext, hv, ht⟩
    · exact .inl ha
    · exact .inr (.inl ⟨t, items, htext, hv, ht.mono _ _ _ fun _ _ ↦ ih⟩)
    · refine .inr (.inr ⟨t, members, htext, hv, ht.mono _ _ _ ?_⟩)
      rintro _ _ ⟨hkey, hw, hw', hmember⟩
      exact .intro hkey hw hw' (ih hmember)

/-- A bound on nesting can be raised. -/
theorem ValueText.mono {depth depth' : Nat} {text : List UInt8} {v : JSON}
    (h : ValueText depth text v) (hle : depth ≤ depth') : ValueText depth' text v := by
  induction hle with
  | refl => exact h
  | step _ ih => exact ih.succ

/-- What may follow a value that stands alone, or is the last of its array or object. -/
def Closed (rest : List UInt8) : Prop :=
  rest = [] ∨ ∃ b t, rest = b :: t ∧ (b = closeBracket ∨ b = closeBrace)

/-- Blanks, a value nested at most so deep, and more blanks; `rest` is what follows. -/
structure Reads (depth : Nat) (data : List UInt8) (v : JSON) (rest : List UInt8) : Prop where
  parts : ∃ w text w', data = w ++ text ++ (w' ++ rest) ∧ w.all isBlank = true ∧
    w'.all isBlank = true ∧ ValueText depth text v
  closed : Closed rest

private theorem Closed.dropWhile {w rest : List UInt8} (h : Closed rest)
    (hw : w.all isBlank = true) : (w ++ rest).dropWhile isBlank = rest := by
  rcases h with rfl | ⟨b, t, rfl, hb⟩
  · rw [List.dropWhile_append_of_pos (List.all_eq_true.mp hw)]
    rfl
  · refine dropWhile_blank isBlank hw ?_ t
    rcases hb with rfl | rfl <;> decide

private theorem Closed.notAhead {w rest : List UInt8} (h : Closed rest)
    (hw : w.all isBlank = true) : NotAhead isNumberByte (w ++ rest) := by
  cases w with
  | nil =>
    rcases h with rfl | ⟨b, t, rfl, hb⟩
    · nofun
    · exact stops_isNumberByte hb (.inr (.inr rfl)) t
  | cons b w =>
    rw [List.all_cons, Bool.and_eq_true] at hw
    exact stops_isNumberByte (.inl rfl) (.inl hw.1) _

/-- The decoder takes the value and leaves the rest. -/
theorem Reads.scan {depth : Nat} {data rest : List UInt8} {v : JSON} (h : Reads depth data v rest) :
    ∃ s, scanValue depth (data.dropWhile isBlank) = some (v, s) ∧ s.dropWhile isBlank = rest := by
  obtain ⟨⟨w, text, w', rfl, hw, hw', hv⟩, hclosed⟩ := h
  refine ⟨w' ++ rest, ?_, hclosed.dropWhile hw'⟩
  obtain ⟨b, t, htext, hb, -⟩ := hv.head
  have hskip : (w ++ text ++ (w' ++ rest)).dropWhile isBlank = text ++ (w' ++ rest) := by
    rw [htext, List.append_assoc]
    exact dropWhile_blank isBlank hw hb _
  rw [hskip]
  exact (parses_scanValue depth).complete hv (hclosed.notAhead hw')

/-- A value that is scanned up to a closed end is read. -/
theorem reads_of_scan {depth : Nat} {data s : List UInt8} {v : JSON}
    (h : scanValue depth (data.dropWhile isBlank) = some (v, s))
    (hclosed : Closed (s.dropWhile isBlank)) : Reads depth data v (s.dropWhile isBlank) := by
  obtain ⟨w, hw, hdata⟩ := eq_append_dropWhile isBlank data
  obtain ⟨w', hw', hs⟩ := eq_append_dropWhile isBlank s
  obtain ⟨text, htext, hv⟩ := (parses_scanValue depth).sound h
  refine ⟨⟨w, text, w', ?_, hw, hw', hv⟩, hclosed⟩
  rw [← hs, List.append_assoc, ← htext]
  exact hdata

private theorem Reads.mono {depth depth' : Nat} {data rest : List UInt8} {v : JSON}
    (h : Reads depth data v rest) (hle : depth ≤ depth') : Reads depth' data v rest := by
  obtain ⟨⟨w, text, w', hdata, hw, hw', hv⟩, hclosed⟩ := h
  exact ⟨⟨w, text, w', hdata, hw, hw', hv.mono hle⟩, hclosed⟩

/-- There is one way to read a text. -/
theorem Reads.unique {depth depth' : Nat} {data rest rest' : List UInt8} {v v' : JSON}
    (h : Reads depth data v rest) (h' : Reads depth' data v' rest') : v = v' ∧ rest = rest' := by
  obtain ⟨s, hs, rfl⟩ := (h.mono (Nat.le_max_left depth depth')).scan
  obtain ⟨s', hs', rfl⟩ := (h'.mono (Nat.le_max_right depth depth')).scan
  rw [hs] at hs'
  cases hs'
  exact ⟨rfl, rfl⟩

end PocketAp.Base.JSON
