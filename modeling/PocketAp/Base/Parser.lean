import Mathlib.Data.List.TakeWhile

/-!
# Parsers and what they read

Library `Base`. A parser takes a value off the front of a text. `Parses` relates it to a
grammar: what it takes is in the grammar, and a text of the grammar is taken if what follows
may follow. Then: one parser after another, and sequences in brackets.
-/

namespace PocketAp.Base

/-- Takes a value off the front of a text; `none` is a syntax error. -/
abbrev Parser (β α : Type) := List β → Option (α × List β)

/-- A parser reads exactly the texts of a grammar, if what comes after them can stop it. -/
structure Parses {β α : Type} (p : Parser β α) (grammar : List β → α → Prop)
    (stop : List β → Prop) : Prop where
  sound : ∀ {s a rest}, p s = some (a, rest) → ∃ text, s = text ++ rest ∧ grammar text a
  complete : ∀ {text a rest}, grammar text a → stop rest → p (text ++ rest) = some (a, rest)

section Combinators

variable {β α γ δ : Type}

/-- One parser after another. -/
def both (p : Parser β α) (q : Parser β γ) (f : α → γ → δ) : Parser β δ := fun s ↦
  match p s with
  | none => none
  | some (a, s) =>
    match q s with
    | none => none
    | some (c, s) => some (f a c, s)

/-- A text of one grammar and then one of another. -/
def Both (r : List β → α → Prop) (q : List β → γ → Prop) (f : α → γ → δ) (text : List β) (d : δ) :
    Prop :=
  ∃ t u a c, text = t ++ u ∧ r t a ∧ q u c ∧ d = f a c

private theorem Parses.both {p : Parser β α} {q : Parser β γ} {r : List β → α → Prop}
    {r' : List β → γ → Prop} {stop stop' : List β → Prop} (hp : Parses p r stop)
    (hq : Parses q r' stop') (f : α → γ → δ)
    (hstop : ∀ u c rest, r' u c → stop' rest → stop (u ++ rest)) :
    Parses (Base.both p q f) (Both r r' f) stop' where
  sound := by
    intro s d rest h
    unfold Base.both at h
    split at h
    · cases h
    · next a s' ha =>
      split at h
      · cases h
      · next c s'' hc =>
        cases h
        obtain ⟨t, rfl, ht⟩ := hp.sound ha
        obtain ⟨u, rfl, hu⟩ := hq.sound hc
        exact ⟨t ++ u, by simp, t, u, a, c, rfl, ht, hu, rfl⟩
  complete := by
    rintro text d rest ⟨t, u, a, c, rfl, ht, hu, rfl⟩ hrest
    have ha := hp.complete ht (hstop u c rest hu hrest)
    have hc := hq.complete hu hrest
    simp only [Base.both, List.append_assoc, ha, hc]

/-- What a changed value was read as. -/
theorem exists_of_map_value {x : Option (α × List β)} {f : α → γ} {c : γ} {rest : List β}
    (h : (x.map fun (a, rest) ↦ (f a, rest)) = some (c, rest)) :
    ∃ a, x = some (a, rest) ∧ c = f a := by
  obtain ⟨⟨a, rest'⟩, ha, heq⟩ := Option.map_eq_some_iff.mp h
  cases heq
  exact ⟨a, ha, rfl⟩

/-- A change of the value. -/
theorem Parses.map {p : Parser β α} {r : List β → α → Prop} {stop : List β → Prop}
    (hp : Parses p r stop) (f : α → γ) :
    Parses (fun s ↦ (p s).map fun (a, rest) ↦ (f a, rest))
      (fun text c ↦ ∃ a, r text a ∧ c = f a) stop where
  sound := by
    intro s c rest h
    obtain ⟨a, ha, rfl⟩ := exists_of_map_value h
    obtain ⟨text, hs, htext⟩ := hp.sound ha
    exact ⟨text, hs, a, htext, rfl⟩
  complete := by
    rintro text c rest ⟨a, ha, rfl⟩ hrest
    rw [hp.complete ha hrest]
    rfl

/-- What stops a parser may be more than is asked of it. -/
theorem Parses.weaken {p : Parser β α} {r : List β → α → Prop} {stop stop' : List β → Prop}
    (hp : Parses p r stop) (h : ∀ rest, stop' rest → stop rest) : Parses p r stop' :=
  ⟨hp.sound, fun ha hrest ↦ hp.complete ha (h _ hrest)⟩

end Combinators

/-! ### Texts as they are written -/

section Scanning

variable {β : Type}

/-- A parser that returns what it takes. -/
def Scans (p : Parser β (List β)) (language : List β → Prop) (stop : List β → Prop) : Prop :=
  Parses p (fun text a ↦ a = text ∧ language text) stop

/-- What follows does not begin so. -/
def NotAhead (q : β → Bool) (rest : List β) : Prop := ∀ b t, rest = b :: t → q b = false

/-- Another symbol is ahead. -/
theorem notAhead_cons {q : β → Bool} {b : β} (hb : q b = false) (t : List β) :
    NotAhead q (b :: t) := by
  rintro _ _ ⟨⟩
  exact hb

/-- Fewer symbols are not ahead either. -/
theorem NotAhead.mono {q q' : β → Bool} {rest : List β} (h : NotAhead q' rest)
    (hq : ∀ b, q b = true → q' b = true) : NotAhead q rest := by
  intro b t hrest
  have hb := h b t hrest
  rw [Bool.eq_false_iff] at hb ⊢
  exact fun hqb ↦ hb (hq b hqb)

/-- A text of one language and then one of another. -/
def Concat (l m : List β → Prop) (text : List β) : Prop := ∃ t u, text = t ++ u ∧ l t ∧ m u

/-- Scanning one after the other scans the concatenation. -/
theorem Scans.append {p q : Parser β (List β)} {l m stop stop' : List β → Prop}
    (hp : Scans p l stop) (hq : Scans q m stop')
    (hstop : ∀ u rest, m u → stop' rest → stop (u ++ rest)) :
    Scans (both p q (· ++ ·)) (Concat l m) stop' := by
  have hboth := Parses.both hp hq (· ++ ·)
    (fun u c rest hu hrest ↦ hstop u rest hu.2 hrest)
  constructor
  · intro s a rest h
    obtain ⟨text, hs, t, u, _, _, rfl, ⟨rfl, ht⟩, ⟨rfl, hu⟩, rfl⟩ := hboth.sound h
    exact ⟨_, hs, rfl, _, _, rfl, ht, hu⟩
  · rintro text a rest ⟨rfl, t, u, rfl, ht, hu⟩ hrest
    exact hboth.complete ⟨t, u, t, u, rfl, ⟨rfl, ht⟩, ⟨rfl, hu⟩, rfl⟩ hrest

/-- Nothing at all. -/
def nothing : Parser β (List β) := fun s ↦ some ([], s)

/-- Scanning nothing accepts anything. -/
theorem scans_nothing : Scans (@nothing β) (· = []) (fun _ ↦ True) := by
  constructor
  · rintro s a rest ⟨⟩
    exact ⟨[], rfl, rfl, rfl⟩
  · rintro text a rest ⟨rfl, rfl⟩ _
    rfl

/-- One or more. -/
def many (q : β → Bool) : Parser β (List β) := fun s ↦
  if s.takeWhile q = [] then none else some (s.takeWhile q, s.dropWhile q)

/-- A run of symbols ends where none of them is ahead. -/
theorem takeWhile_append_notAhead {q : β → Bool} {text rest : List β} (h : text.all q = true)
    (hrest : NotAhead q rest) :
    (text ++ rest).takeWhile q = text ∧ (text ++ rest).dropWhile q = rest := by
  rw [List.takeWhile_append_of_pos (List.all_eq_true.mp h),
    List.dropWhile_append_of_pos (List.all_eq_true.mp h)]
  cases rest with
  | nil => simp
  | cons b t =>
    have hb := hrest b t rfl
    simp [hb]

/-- Symbols are scanned up to the first other one. -/
theorem scans_many (q : β → Bool) :
    Scans (many q) (fun t ↦ t ≠ [] ∧ t.all q = true) (NotAhead q) := by
  constructor
  · intro s a rest h
    unfold many at h
    split at h
    · cases h
    · next hne =>
      cases h
      exact ⟨_, List.takeWhile_append_dropWhile.symm, rfl, hne, List.all_takeWhile⟩
  · rintro text a rest ⟨rfl, hne, hall⟩ hrest
    obtain ⟨htake, hdrop⟩ := takeWhile_append_notAhead hall hrest
    rw [many, htake, hdrop, if_neg hne]

/-- A part that is there if its mark is. -/
def marked (mark : β → Bool) (p : Parser β (List β)) : Parser β (List β)
  | [] => some ([], [])
  | b :: s =>
    if mark b then
      match p s with
      | none => none
      | some (t, s) => some (b :: t, s)
    else some ([], b :: s)

/-- Nothing, or a mark and what belongs behind it. -/
def Marked (mark : β → Bool) (l : List β → Prop) (text : List β) : Prop :=
  text = [] ∨ ∃ b t, text = b :: t ∧ mark b = true ∧ l t

/-- A symbol that is no mark and not ahead afterwards is not ahead. -/
theorem Marked.notAhead {mark q : β → Bool} {l : List β → Prop} {text rest : List β}
    (h : Marked mark l text) (hq : ∀ b, mark b = true → q b = false) (hrest : NotAhead q rest) :
    NotAhead q (text ++ rest) := by
  rcases h with rfl | ⟨b, t, rfl, hb, -⟩
  · exact hrest
  · exact notAhead_cons (hq b hb) _

/-- An optional part is scanned by its mark. -/
theorem Scans.marked {p : Parser β (List β)} {l stop : List β → Prop} (hp : Scans p l stop)
    (mark : β → Bool) :
    Scans (Base.marked mark p) (Marked mark l) (fun rest ↦ NotAhead mark rest ∧ stop rest) := by
  constructor
  · intro s a rest h
    cases s with
    | nil =>
      cases h
      exact ⟨[], rfl, rfl, .inl rfl⟩
    | cons b s =>
      rw [Base.marked] at h
      split at h
      · next hb =>
        split at h
        · cases h
        · next t s' ht =>
          cases h
          obtain ⟨_, rfl, rfl, hl⟩ := hp.sound ht
          exact ⟨_, rfl, rfl, .inr ⟨b, _, rfl, hb, hl⟩⟩
      · cases h
        exact ⟨[], rfl, rfl, .inl rfl⟩
  · rintro text a rest ⟨rfl, rfl | ⟨b, t, rfl, hb, hl⟩⟩ ⟨hahead, hrest⟩
    · cases rest with
      | nil => rfl
      | cons b rest =>
        have hb := hahead b rest rfl
        simp [Base.marked, hb]
    · have ht := hp.complete ⟨rfl, hl⟩ hrest
      simp only [List.cons_append, Base.marked, hb, if_true, ht]

end Scanning

/-! ### Sequences -/

section Sequences

variable {β α : Type} [DecidableEq β] (blank : β → Bool) (comma close : β)

omit [DecidableEq β] in
/-- Blanks are dropped up to the first other symbol. -/
theorem dropWhile_blank {w : List β} (hw : w.all blank = true) {b : β} (hb : blank b = false)
    (s : List β) : (w ++ b :: s).dropWhile blank = b :: s := by
  rw [List.dropWhile_append_of_pos (List.all_eq_true.mp hw), List.dropWhile_cons_of_neg (by simp [hb])]

omit [DecidableEq β] in
/-- What is dropped are blanks. -/
theorem eq_append_dropWhile (s : List β) :
    ∃ w, w.all blank = true ∧ s = w ++ s.dropWhile blank :=
  ⟨s.takeWhile blank, List.all_takeWhile, List.takeWhile_append_dropWhile.symm⟩

/-- Items with separators between them, up to a closing mark; at most so many. -/
def sequence (item : Parser β α) : Nat → Parser β (List α)
  | 0, _ => none
  | n + 1, s =>
    match item s with
    | none => none
    | some (a, s) =>
      match s.dropWhile blank with
      | [] => none
      | b :: s =>
        if b = close then some ([a], s)
        else if b = comma then
          match sequence item n (s.dropWhile blank) with
          | none => none
          | some (as, s) => some (a :: as, s)
        else none

/-- A sequence that may be empty, up to its closing mark. -/
def bracketed (item : Parser β α) : Parser β (List α) := fun s ↦
  match s.dropWhile blank with
  | [] => none
  | b :: rest =>
    if b = close then some ([], rest) else sequence blank comma close item s.length (b :: rest)

/-- Items, with blanks after each and around the separators. -/
inductive Sequence (item : List β → α → Prop) : List β → List α → Prop where
  | one {text w : List β} {a : α} (ha : item text a) (hw : w.all blank = true) :
      Sequence item (text ++ w) [a]
  | cons {text w w' more : List β} {a : α} {as : List α} (ha : item text a)
      (hw : w.all blank = true) (hw' : w'.all blank = true) (has : Sequence item more as) :
      Sequence item (text ++ w ++ comma :: (w' ++ more)) (a :: as)

/-- Blanks, or blanks and items, and the closing mark. -/
inductive Bracketed (item : List β → α → Prop) : List β → List α → Prop where
  | empty {w : List β} (hw : w.all blank = true) : Bracketed item (w ++ [close]) []
  | items {w text : List β} {as : List α} (hw : w.all blank = true)
      (has : Sequence blank comma item text as) : Bracketed item (w ++ text ++ [close]) as

omit [DecidableEq β] in
private theorem Sequence.mono {item item' : List β → α → Prop}
    (h : ∀ text a, item text a → item' text a) {text : List β} {as : List α}
    (hseq : Sequence blank comma item text as) : Sequence blank comma item' text as := by
  induction hseq with
  | one ha hw => exact .one (h _ _ ha) hw
  | cons ha hw hw' has ih => exact .cons (h _ _ ha) hw hw' ih

omit [DecidableEq β] in
/-- A sequence of weaker items. -/
theorem Bracketed.mono {item item' : List β → α → Prop} (h : ∀ text a, item text a → item' text a)
    {text : List β} {as : List α} (hseq : Bracketed blank comma close item text as) :
    Bracketed blank comma close item' text as := by
  cases hseq with
  | empty hw => exact .empty hw
  | items hw has => exact .items hw (has.mono blank comma h)

variable {blank comma close} {item : Parser β α} {grammar : List β → α → Prop}
  {stop : List β → Prop}

/-- What sequences need of their items and marks. -/
structure Separates (blank : β → Bool) (comma close : β) (grammar : List β → α → Prop)
    (stop : List β → Prop) : Prop where
  comma_blank : blank comma = false
  close_blank : blank close = false
  comma_close : comma ≠ close
  stops : ∀ b rest, blank b = true ∨ b = comma ∨ b = close → stop (b :: rest)
  starts : ∀ text a, grammar text a → ∃ b t, text = b :: t ∧ blank b = false ∧ b ≠ close

omit [DecidableEq β] in
private theorem Separates.stops_append (h : Separates blank comma close grammar stop) {w : List β}
    (hw : w.all blank = true) {b : β} (hb : b = comma ∨ b = close) (rest : List β) :
    stop (w ++ b :: rest) := by
  cases w with
  | nil => exact h.stops b rest (.inr hb)
  | cons x w =>
    rw [List.all_cons, Bool.and_eq_true] at hw
    exact h.stops x _ (.inl hw.1)

private theorem sequence_sound (hitem : Parses item grammar stop) (n : Nat) {s rest : List β}
    {as : List α} (h : sequence blank comma close item n s = some (as, rest)) :
    ∃ text, s = text ++ close :: rest ∧ Sequence blank comma grammar text as := by
  induction n generalizing s as with
  | zero => cases h
  | succ n ih =>
    unfold sequence at h
    split at h
    · cases h
    · next a s' ha =>
      obtain ⟨text, rfl, htext⟩ := hitem.sound ha
      obtain ⟨w, hw, hs'⟩ := eq_append_dropWhile blank s'
      split at h
      · cases h
      · next b s'' hdrop =>
        rw [hdrop] at hs'
        split at h
        · next hclose =>
          cases h
          subst hclose
          exact ⟨text ++ w, by rw [hs', List.append_assoc], .one htext hw⟩
        · split at h
          · next hcomma =>
            split at h
            · cases h
            · next as' rest' has =>
              cases h
              subst hcomma
              obtain ⟨more, hmore, hseq⟩ := ih has
              obtain ⟨w', hw', hs''⟩ := eq_append_dropWhile blank s''
              refine ⟨_, ?_, .cons htext hw hw' hseq⟩
              rw [hs', hs'', hmore]
              simp
          · cases h

omit [DecidableEq β] in
private theorem Sequence.starts (h : Separates blank comma close grammar stop) {text : List β}
    {as : List α} (hseq : Sequence blank comma grammar text as) :
    ∃ b t, text = b :: t ∧ blank b = false ∧ b ≠ close := by
  cases hseq with
  | one ha hw =>
    obtain ⟨b, t, rfl, hb⟩ := h.starts _ _ ha
    exact ⟨b, _, rfl, hb⟩
  | cons ha hw hw' has =>
    obtain ⟨b, t, rfl, hb⟩ := h.starts _ _ ha
    exact ⟨b, _, rfl, hb⟩

omit [DecidableEq β] in
private theorem Sequence.length_le (h : Separates blank comma close grammar stop) {text : List β}
    {as : List α} (hseq : Sequence blank comma grammar text as) : as.length ≤ text.length := by
  induction hseq with
  | one ha hw =>
    obtain ⟨b, t, rfl, -⟩ := h.starts _ _ ha
    simp
  | cons ha hw hw' has ih =>
    simp only [List.length_cons, List.length_append]
    omega

private theorem sequence_complete (hitem : Parses item grammar stop)
    (h : Separates blank comma close grammar stop) {text : List β} {as : List α}
    (hseq : Sequence blank comma grammar text as) {n : Nat} (hn : as.length ≤ n) (rest : List β) :
    sequence blank comma close item n (text ++ close :: rest) = some (as, rest) := by
  induction hseq generalizing n with
  | @one text w a ha hw =>
    cases n with
    | zero => simp at hn
    | succ n =>
      have hread := hitem.complete ha (h.stops_append hw (.inr rfl) rest)
      rw [sequence, List.append_assoc, hread]
      simp only [dropWhile_blank blank hw h.close_blank, if_true]
  | @cons text w w' more a as ha hw hw' has ih =>
    cases n with
    | zero => simp at hn
    | succ n =>
      obtain ⟨b, t, hmore, hb, -⟩ := has.starts h
      have hshape : text ++ w ++ comma :: (w' ++ more) ++ close :: rest =
          text ++ (w ++ comma :: (w' ++ more ++ close :: rest)) := by
        simp
      have hread := hitem.complete ha (h.stops_append hw (.inl rfl) (w' ++ more ++ close :: rest))
      have hrest := ih (Nat.le_of_succ_le_succ hn)
      have hskip : (w' ++ more ++ close :: rest).dropWhile blank = more ++ close :: rest := by
        rw [hmore, List.append_assoc]
        exact dropWhile_blank blank hw' hb _
      rw [hshape, sequence, hread]
      simp only [dropWhile_blank blank hw h.comma_blank, h.comma_close, if_false, if_true, hskip,
        hrest]

/-- Sequences in brackets are read as their items are. -/
theorem Parses.bracketed (hitem : Parses item grammar stop)
    (h : Separates blank comma close grammar stop) :
    Parses (Base.bracketed blank comma close item) (Bracketed blank comma close grammar)
      (fun _ ↦ True) where
  sound := by
    intro s as rest hread
    obtain ⟨w, hw, hs⟩ := eq_append_dropWhile blank s
    unfold Base.bracketed at hread
    split at hread
    · cases hread
    · next b s' hdrop =>
      rw [hdrop] at hs
      split at hread
      · next hclose =>
        cases hread
        subst hclose
        exact ⟨_, by rw [hs]; simp, .empty hw⟩
      · obtain ⟨text, htext, hseq⟩ := sequence_sound hitem _ hread
        exact ⟨_, by rw [hs, htext]; simp, .items hw hseq⟩
  complete := by
    intro text as rest hgrammar _
    cases hgrammar with
    | empty hw =>
      rw [Base.bracketed, List.append_assoc, List.singleton_append,
        dropWhile_blank blank hw h.close_blank]
      simp
    | @items w text as hw hseq =>
      obtain ⟨b, t, hstart, hb, hne⟩ := hseq.starts h
      have hshape : w ++ text ++ [close] ++ rest = w ++ b :: (t ++ close :: rest) := by
        rw [hstart]
        simp
      have hlen : as.length ≤ (w ++ b :: (t ++ close :: rest)).length := by
        have hle := hseq.length_le h
        rw [hstart] at hle
        simp only [List.length_cons, List.length_append] at hle ⊢
        omega
      have hseqread := sequence_complete hitem h hseq hlen rest
      rw [hstart, List.cons_append] at hseqread
      rw [hshape, Base.bracketed, dropWhile_blank blank hw hb]
      simp only [hne, if_false, hseqread]

end Sequences

end PocketAp.Base
