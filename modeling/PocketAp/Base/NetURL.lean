import Mathlib.Data.List.TakeWhile
import PocketAp.Base.HostPort
import PocketAp.Base.Text

/-!
# URLs

Library `Base`. What `net/url.Parse` makes of a text, with path, query and fragment as they are
written. How an authority is read is a parameter. The results are about absolute URLs: what one
is composed of, and that it is parsed into that.
-/

namespace PocketAp.Base

/-! ### Cutting a text -/

/-- The first result of `strings.Cut`. -/
def before (c : Char) (s : List Char) : List Char := s.takeWhile (· ≠ c)

/-- The second result of `strings.Cut`. -/
def after (c : Char) (s : List Char) : List Char := (s.dropWhile (· ≠ c)).tail

section Cut

variable {c : Char} {xs : List Char}

private theorem forall_ne_of_notMem (h : c ∉ xs) : ∀ x ∈ xs, decide (x ≠ c) = true := by
  intro x hx
  exact decide_eq_true fun heq ↦ h (heq ▸ hx)

private theorem before_append_cons (h : c ∉ xs) (ys : List Char) :
    before c (xs ++ c :: ys) = xs := by
  rw [before, List.takeWhile_append_of_pos (forall_ne_of_notMem h),
    List.takeWhile_cons_of_neg (by simp), List.append_nil]

private theorem dropWhile_append_cons (h : c ∉ xs) (ys : List Char) :
    (xs ++ c :: ys).dropWhile (· ≠ c) = c :: ys := by
  rw [List.dropWhile_append_of_pos (forall_ne_of_notMem h), List.dropWhile_cons_of_neg (by simp)]

private theorem after_append_cons (h : c ∉ xs) (ys : List Char) : after c (xs ++ c :: ys) = ys := by
  rw [after, dropWhile_append_cons h, List.tail_cons]

private theorem before_of_notMem (h : c ∉ xs) : before c xs = xs := by
  rw [before, ← List.append_nil xs, List.takeWhile_append_of_pos (forall_ne_of_notMem h)]
  rfl

/-- Nothing comes after a character that is not there. -/
theorem after_of_notMem (h : c ∉ xs) : after c xs = [] := by
  rw [after, ← List.append_nil xs, List.dropWhile_append_of_pos (forall_ne_of_notMem h)]
  rfl

/-- What comes before the first `c` has none. -/
theorem notMem_before (c : Char) (s : List Char) : c ∉ before c s := by
  intro hmem
  have hne := List.mem_takeWhile_imp hmem
  simp at hne

private theorem dropWhile_eq_nil_or_head (c : Char) (s : List Char) :
    s.dropWhile (· ≠ c) = [] ∨ (s.dropWhile (· ≠ c)).head? = some c := by
  have hhead := List.head?_dropWhile_not (· ≠ c) s
  cases hdrop : s.dropWhile (· ≠ c) with
  | nil => exact .inl rfl
  | cons x xs =>
    rw [hdrop] at hhead
    simp only [List.head?_cons, ne_eq, decide_eq_false_iff_not, not_not] at hhead
    exact .inr (by rw [List.head?_cons, hhead])

/-- A text is what stands before the first separator, or that, the separator and the rest. -/
theorem eq_before_or_append (c : Char) (s : List Char) :
    s = before c s ∧ c ∉ s ∨ s = before c s ++ c :: after c s := by
  by_cases h : c ∈ s
  · obtain ⟨pre, post, rfl, hpre⟩ := List.eq_append_cons_of_mem h
    rw [before_append_cons hpre, after_append_cons hpre]
    exact .inr rfl
  · exact .inl ⟨(before_of_notMem h).symm, h⟩

end Cut

/-! ### Percent-escapes -/

/-- A hexadecimal digit. -/
def isHexDigit (c : Char) : Bool := isDigit c ∨ ('a' ≤ c ∧ c ≤ 'f') ∨ ('A' ≤ c ∧ c ≤ 'F')

/-- Two digits follow every percent sign. -/
def validEscapes : List Char → Bool
  | [] => true
  | '%' :: a :: b :: s => isHexDigit a && isHexDigit b && validEscapes s
  | '%' :: _ => false
  | _ :: s => validEscapes s

private theorem validEscapes_cons {c : Char} (hc : c ≠ '%') (s : List Char) :
    validEscapes (c :: s) = validEscapes s := by
  rw [validEscapes]
  · intro a b t heq
    exact absurd heq hc
  · exact hc

private theorem not_isHexDigit_slash : isHexDigit '/' = false := by decide

/-- A slash is in no escape. -/
theorem validEscapes_append_slash (xs ys : List Char) :
    validEscapes (xs ++ '/' :: ys) = (validEscapes xs && validEscapes ys) := by
  induction xs using validEscapes.induct with
  | case1 => rfl
  | case2 a b s ih => simp [validEscapes, ih, Bool.and_assoc]
  | case3 s h =>
    match s, h with
    | [], _ => cases ys <;> simp [validEscapes, not_isHexDigit_slash]
    | [a], _ => simp [validEscapes, not_isHexDigit_slash]
    | a :: b :: t, h => exact absurd rfl (h a b t)
  | case4 c s hpair hpercent ih =>
    rw [List.cons_append, validEscapes_cons hpercent, validEscapes_cons hpercent, ih]

/-! ### Parsing -/

/-- A URL as `net/url` holds it, with path and query as they are written. -/
structure NetURL where
  scheme : List Char := []
  opaquePart : List Char := []
  user : Option (List Char) := none
  host : List Char := []
  path : List Char := []
  forceQuery : Bool := false
  rawQuery : List Char := []
  fragment : List Char := []
  deriving DecidableEq, Repr

/-- How an authority is read under a scheme: userinfo and host, or `none` for an error. No host
is read from nothing. -/
structure AuthorityReader where
  read : List Char → List Char → Option (Option (List Char) × List Char)
  host_empty : ∀ scheme user host, read scheme [] = some (user, host) → host = []

/-- A control byte. -/
def isControl (c : Char) : Bool := c.toNat < 0x20 ∨ c.toNat = 0x7F

/-- ASCII letters. -/
def isLetter (c : Char) : Bool := ('a' ≤ c ∧ c ≤ 'z') ∨ ('A' ≤ c ∧ c ≤ 'Z')

/-- What a scheme consists of after its first letter. -/
def isSchemeChar (c : Char) : Bool := isLetter c ∨ isDigit c ∨ c = '+' ∨ c = '-' ∨ c = '.'

/-- `getScheme`: the scheme, if there is one, and the rest. -/
def getScheme (url : List Char) : Option (List Char × List Char) :=
  match url.dropWhile isSchemeChar with
  | ':' :: rest =>
    match url.takeWhile isSchemeChar with
    | [] => none
    | c :: name => if isLetter c then some (c :: name, rest) else some ([], url)
  | _ => some ([], url)

namespace NetURL

/-- `(*URL).setPath`. -/
def setPath (u : NetURL) (path : List Char) : Option NetURL :=
  if validEscapes path then some { u with path } else none

/-- `(*URL).setFragment`. -/
def setFragment (u : NetURL) (fragment : List Char) : Option NetURL :=
  if validEscapes fragment then some { u with fragment } else none

variable (reader : AuthorityReader)

/-- An authority after two slashes, and a path. -/
def parseRest (u : NetURL) (rest : List Char) : Option NetURL :=
  match rest with
  | '/' :: '/' :: tail =>
    if u.scheme = [] ∧ tail.head? = some '/' then u.setPath rest
    else
      match reader.read u.scheme (before '/' tail) with
      | none => none
      | some (user, host) => { u with user, host }.setPath (tail.dropWhile (· ≠ '/'))
  | _ => u.setPath rest

/-- `net/url.Parse` up to the fragment. -/
def parseReference (url : List Char) : Option NetURL :=
  if url.any isControl then none
  else if url = ['*'] then some { path := ['*'] }
  else
    match getScheme url with
    | none => none
    | some (scheme, rest) =>
      let u : NetURL :=
        { scheme := scheme.map asciiLower
          forceQuery := decide ('?' ∈ rest) && (after '?' rest).isEmpty
          rawQuery := after '?' rest }
      let rest := before '?' rest
      if rest.head? = some '/' then parseRest reader u rest
      else if scheme ≠ [] then some { u with opaquePart := rest }
      else if ':' ∈ before '/' rest then none
      else parseRest reader u rest

/-- `net/url.Parse`; `none` is an error. -/
def parse (url : List Char) : Option NetURL :=
  (parseReference reader (before '#' url)).bind (setFragment · (after '#' url))

end NetURL

/-! ### Absolute URLs -/

/-- The parts of an absolute URL. -/
structure AbsoluteURL where
  scheme : List Char
  authority : List Char
  path : List Char
  query : Option (List Char)
  scheme_head : ∃ c name, scheme = c :: name ∧ isLetter c = true
  scheme_chars : ∀ c ∈ scheme, isSchemeChar c = true
  authority_slash : '/' ∉ authority
  authority_query : '?' ∉ authority
  path_query : '?' ∉ path
  path_head : path = [] ∨ path.head? = some '/'

namespace AbsoluteURL

/-- A query after its mark. -/
def querySuffix : Option (List Char) → List Char
  | none => []
  | some query => '?' :: query

/-- The URL as it is written. -/
def text (u : AbsoluteURL) : List Char :=
  u.scheme ++ ':' :: '/' :: '/' :: (u.authority ++ u.path ++ querySuffix u.query)

section Parts

variable {xs : List Char} (h : '?' ∉ xs) (query : Option (List Char))

include h

private theorem before_querySuffix : before '?' (xs ++ querySuffix query) = xs := by
  cases query with
  | none =>
    rw [querySuffix, List.append_nil]
    exact before_of_notMem h
  | some query => exact before_append_cons h query

private theorem after_querySuffix : after '?' (xs ++ querySuffix query) = query.getD [] := by
  cases query with
  | none =>
    rw [querySuffix, List.append_nil]
    exact after_of_notMem h
  | some query => exact after_append_cons h query

/-- A question mark is written exactly for a query. -/
theorem mem_querySuffix_iff : '?' ∈ xs ++ querySuffix query ↔ query.isSome := by
  cases query <;> simp [querySuffix, h]

end Parts

variable (u : AbsoluteURL)

private theorem before_slash : before '/' (u.authority ++ u.path) = u.authority := by
  rcases u.path_head with hnil | hhead
  · rw [hnil, List.append_nil]
    exact before_of_notMem u.authority_slash
  · obtain ⟨rest, hrest⟩ := List.head?_eq_some_iff.mp hhead
    rw [hrest]
    exact before_append_cons u.authority_slash rest

private theorem dropWhile_slash :
    (u.authority ++ u.path).dropWhile (· ≠ '/') = u.path := by
  rcases u.path_head with hnil | hhead
  · have hsplit := List.takeWhile_append_dropWhile (p := (· ≠ '/')) (l := u.authority ++ u.path)
    have hbefore : (u.authority ++ u.path).takeWhile (· ≠ '/') = u.authority := u.before_slash
    rw [hbefore] at hsplit
    exact List.append_cancel_left hsplit
  · obtain ⟨rest, hrest⟩ := List.head?_eq_some_iff.mp hhead
    rw [hrest]
    exact dropWhile_append_cons u.authority_slash rest

private theorem getScheme_text : getScheme u.text =
    some (u.scheme, '/' :: '/' :: (u.authority ++ u.path ++ querySuffix u.query)) := by
  have hcolon : isSchemeChar ':' = false := by decide
  obtain ⟨c, name, hscheme, hletter⟩ := u.scheme_head
  have hchars := u.scheme_chars
  rw [getScheme, text, List.dropWhile_append_of_pos hchars,
    List.dropWhile_cons_of_neg (by simp [hcolon]), List.takeWhile_append_of_pos hchars,
    List.takeWhile_cons_of_neg (by simp [hcolon]), List.append_nil, hscheme]
  simp only [hletter, if_true]

/-- An absolute URL is parsed into its parts. -/
theorem parse_text (reader : AuthorityReader) (hfragment : '#' ∉ u.text) :
    NetURL.parse reader u.text =
      if u.text.any isControl then none
      else (reader.read (u.scheme.map asciiLower) u.authority).bind fun (user, host) ↦
        if validEscapes u.path then
          some
            { scheme := u.scheme.map asciiLower
              user, host
              path := u.path
              forceQuery := u.query = some []
              rawQuery := u.query.getD [] }
        else none := by
  have hcolon : u.text ≠ ['*'] := by
    intro heq
    have hmem : ':' ∈ u.text := by simp [text]
    rw [heq] at hmem
    exact absurd hmem (by decide)
  have hmark : '?' ∉ '/' :: '/' :: (u.authority ++ u.path) := by
    simp [u.authority_query, u.path_query]
  have hrest : '/' :: '/' :: (u.authority ++ u.path ++ querySuffix u.query) =
      ('/' :: '/' :: (u.authority ++ u.path)) ++ querySuffix u.query := rfl
  have hforce : (decide ('?' ∈ '/' :: '/' :: (u.authority ++ u.path ++ querySuffix u.query)) &&
      (u.query.getD []).isEmpty) = decide (u.query = some []) := by
    rw [hrest]
    simp only [mem_querySuffix_iff hmark]
    rcases u.query with _ | _ | ⟨c, query⟩ <;> simp
  have hscheme : u.scheme.map asciiLower ≠ [] := by
    obtain ⟨c, name, hname, -⟩ := u.scheme_head
    simp [hname]
  rw [NetURL.parse, before_of_notMem hfragment, after_of_notMem hfragment, NetURL.parseReference,
    if_neg hcolon, u.getScheme_text]
  split
  · rfl
  · simp only
    rw [hrest, after_querySuffix hmark, ← hrest, hforce, hrest, before_querySuffix hmark]
    simp only [List.head?_cons, if_true, NetURL.parseRest, hscheme, false_and, if_false,
      u.before_slash, u.dropWhile_slash]
    cases reader.read (u.scheme.map asciiLower) u.authority with
    | none => rfl
    | some parts =>
      simp only [NetURL.setPath]
      split <;> rfl

end AbsoluteURL

section Recognise

variable {reader : AuthorityReader} {url : List Char}

private theorem getScheme_eq_some {scheme rest : List Char}
    (h : getScheme url = some (scheme, rest)) (hne : scheme ≠ []) :
    url = scheme ++ ':' :: rest ∧ (∃ c name, scheme = c :: name ∧ isLetter c = true) ∧
      ∀ c ∈ scheme, isSchemeChar c = true := by
  have hsplit := List.takeWhile_append_dropWhile (p := isSchemeChar) (l := url)
  have hchars : ∀ c ∈ url.takeWhile isSchemeChar, isSchemeChar c = true :=
    fun c hc ↦ List.mem_takeWhile_imp hc
  unfold getScheme at h
  split at h
  · next rest' hdrop =>
    split at h
    · cases h
    · next c name htake =>
      split at h
      · next hletter =>
        cases h
        rw [hdrop, htake] at hsplit
        rw [htake] at hchars
        exact ⟨hsplit.symm, ⟨c, name, rfl, hletter⟩, hchars⟩
      · cases h
        exact absurd rfl hne
  · cases h
    exact absurd rfl hne

private theorem setPath_keeps {u b : NetURL} {path : List Char} (h : u.setPath path = some b) :
    b.scheme = u.scheme ∧ b.host = u.host := by
  unfold NetURL.setPath at h
  split at h
  · cases h
    exact ⟨rfl, rfl⟩
  · cases h

/-- The scheme is kept, and a host comes after two slashes. -/
private theorem parseRest_cases {u b : NetURL} {rest : List Char}
    (h : NetURL.parseRest reader u rest = some b) :
    b.scheme = u.scheme ∧ (b.host = u.host ∨ ∃ tail, rest = '/' :: '/' :: tail) := by
  unfold NetURL.parseRest at h
  split at h
  · next tail =>
    refine ⟨?_, .inr ⟨tail, rfl⟩⟩
    split at h
    · exact (setPath_keeps h).1
    · split at h
      · cases h
      · exact (setPath_keeps h).1
  · exact ⟨(setPath_keeps h).1, .inl (setPath_keeps h).2⟩

/-- The parts of a text after the scheme. -/
private theorem exists_parts {scheme rest tail : List Char}
    (hhead : ∃ c name, scheme = c :: name ∧ isLetter c = true)
    (hchars : ∀ c ∈ scheme, isSchemeChar c = true) (hrest : before '?' rest = '/' :: '/' :: tail) :
    ∃ u : AbsoluteURL, u.text = scheme ++ ':' :: rest := by
  have htail : tail = before '/' tail ++ tail.dropWhile (· ≠ '/') :=
    List.takeWhile_append_dropWhile.symm
  have hmark : '?' ∉ before '/' tail ++ tail.dropWhile (· ≠ '/') := by
    rw [← htail]
    have hnot := notMem_before '?' rest
    rw [hrest] at hnot
    exact fun hmem ↦ hnot (List.mem_cons_of_mem _ (List.mem_cons_of_mem _ hmem))
  rw [List.mem_append, not_or] at hmark
  have hquery : ∃ query, rest = '/' :: '/' :: tail ++ AbsoluteURL.querySuffix query := by
    rw [← hrest]
    rcases eq_before_or_append '?' rest with ⟨hnone, -⟩ | hsome
    · exact ⟨none, by simpa [AbsoluteURL.querySuffix] using hnone⟩
    · exact ⟨some (after '?' rest), hsome⟩
  obtain ⟨query, hquery⟩ := hquery
  refine ⟨⟨scheme, before '/' tail, tail.dropWhile (· ≠ '/'), query, hhead, hchars,
    notMem_before '/' tail, hmark.1, hmark.2, dropWhile_eq_nil_or_head '/' tail⟩, ?_⟩
  rw [AbsoluteURL.text, ← htail, hquery]
  rfl

/-- What has a scheme, a host and no fragment is an absolute URL. -/
theorem exists_absoluteURL {b : NetURL} (h : NetURL.parse reader url = some b)
    (hscheme : b.scheme ≠ []) (hhost : b.host ≠ []) (hfragment : '#' ∉ url) :
    ∃ u : AbsoluteURL, u.text = url := by
  rw [NetURL.parse, before_of_notMem hfragment, after_of_notMem hfragment] at h
  obtain ⟨u, hu, hb⟩ := Option.bind_eq_some_iff.mp h
  cases hb
  have hread {scheme rest : List Char} {u₀ : NetURL} (hget : getScheme url = some (scheme, rest))
      (hu₀ : u₀.scheme = scheme.map asciiLower ∧ u₀.host = [])
      (hrest : NetURL.parseRest reader u₀ (before '?' rest) = some u) :
      ∃ u : AbsoluteURL, u.text = url := by
    obtain ⟨hkept, hnone | ⟨tail, htail⟩⟩ := parseRest_cases hrest
    · exact absurd (hnone.trans hu₀.2) hhost
    · have hne : scheme ≠ [] := by
        rintro rfl
        exact hscheme (hkept.trans hu₀.1)
      obtain ⟨rfl, hhead, hchars⟩ := getScheme_eq_some hget hne
      exact exists_parts hhead hchars htail
  rw [NetURL.parseReference] at hu
  split at hu
  · cases hu
  · split at hu
    · cases hu
      exact absurd rfl hhost
    · split at hu
      · cases hu
      · next scheme rest hget =>
        simp only at hu
        split at hu
        · exact hread hget ⟨rfl, rfl⟩ hu
        · split at hu
          · cases hu
            exact absurd rfl hhost
          · split at hu
            · cases hu
            · exact hread hget ⟨rfl, rfl⟩ hu

end Recognise

end PocketAp.Base
