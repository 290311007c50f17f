import PocketAp.Domain.Hosts

/-!
# Accepted patterns

`src/domain/supplier.go:170–222`. The validator lets every text through that is not empty, no
URL and no operator address; the matcher treats a leading `*` as "ends with". The two agree on
what a wildcard is only where a dot and a name follow the star.
-/

namespace PocketAp.Domain

open PocketAp.Base

section Patterns

variable [GoLib]

/-- The host part of a pattern, as the matcher reads it. -/
def patternHost (pattern : String) : String := (splitHostPort (trimSpace pattern)).1

omit [GoLib] in
/-- One or more labels in front of a domain. -/
def ProperSubdomain (host domain : String) : Prop :=
  ∃ ls, ls ≠ [] ∧ labels host.toList = ls ++ labels domain.toList

/-- A pattern matches no more than its wildcard says: subdomains of the name after `*.`, or
without a star the host itself. -/
def MatchesNarrowly (pattern : String) : Prop :=
  ∀ host port, hostMatches host port pattern = true →
    (hasPrefix (patternHost pattern) "*" = true →
      ∃ domain, domain ≠ "" ∧ patternHost pattern = "*." ++ domain ∧
        ProperSubdomain host domain) ∧
    (hasPrefix (patternHost pattern) "*" = false → host = patternHost pattern)

/-- The two ways to match. -/
theorem hostMatches_iff (host port pattern : String) :
    hostMatches host port pattern = true ↔
      ((splitHostPort (trimSpace pattern)).2 = "" ∨ (splitHostPort (trimSpace pattern)).2 = port) ∧
      ((∃ suffix, cutPrefix (patternHost pattern) "*" = some suffix ∧
          suffix.toList <:+ host.toList) ∨
        cutPrefix (patternHost pattern) "*" = none ∧ host = patternHost pattern) := by
  unfold patternHost
  rw [hostMatches]
  generalize splitHostPort (trimSpace pattern) = p
  by_cases hport : p.2 ≠ "" ∧ p.2 ≠ port
  · simp only [hport, not_false_eq_true, and_self, if_true, ne_eq, Bool.false_eq_true, or_self,
      false_and]
  · have hport' : p.2 = "" ∨ p.2 = port := by
      by_cases he : p.2 = ""
      · exact .inl he
      · exact .inr (not_not.mp (fun hn ↦ hport ⟨he, hn⟩))
    simp only [if_neg hport, hport', true_and]
    cases hcut : cutPrefix p.1 "*" with
    | none => simp
    | some suffix => simp [hasSuffix_iff]

omit [GoLib] in
private theorem properSubdomain_of_suffix {host suffix domain : String}
    (hs : suffix.toList = '.' :: domain.toList) (h : suffix.toList <:+ host.toList) :
    ProperSubdomain host domain := by
  rw [hs] at h
  exact (cons_suffix_iff '.' domain.toList host.toList).mp h

omit [GoLib] in
private theorem hasPrefix_of_cutPrefix {s p t : String} (h : cutPrefix s p = some t) :
    hasPrefix s p = true :=
  (hasPrefix_iff s p).mpr ⟨t.toList, (cutPrefix_eq_some_iff.mp h).symm⟩

omit [GoLib] in
private theorem hasPrefix_of_cutPrefix_none {s p : String} (h : cutPrefix s p = none) :
    hasPrefix s p = false := by
  rw [← Bool.not_eq_true, hasPrefix_iff]
  exact cutPrefix_eq_none_iff.mp h

/-- A pattern is safe when it has no leading star, or one that is followed by a dot and a
name. -/
theorem matchesNarrowly_iff (pattern : String) :
    MatchesNarrowly pattern ↔ hasPrefix (patternHost pattern) "*" = false ∨
      ∃ domain, domain ≠ "" ∧ patternHost pattern = "*." ++ domain := by
  constructor
  · intro h
    cases hcut : cutPrefix (patternHost pattern) "*" with
    | none => exact .inl (hasPrefix_of_cutPrefix_none hcut)
    | some suffix =>
      -- What is left of the pattern without its star is a host it matches.
      have hm : hostMatches suffix (splitHostPort (trimSpace pattern)).2 pattern = true :=
        (hostMatches_iff _ _ _).mpr ⟨.inr rfl, .inl ⟨suffix, hcut, List.suffix_rfl⟩⟩
      obtain ⟨domain, hne, heq, -⟩ := (h _ _ hm).1 (hasPrefix_of_cutPrefix hcut)
      exact .inr ⟨domain, hne, heq⟩
  · intro h host port hm
    obtain ⟨-, ⟨suffix, hcut, hsuffix⟩ | ⟨hcut, hhost⟩⟩ := (hostMatches_iff _ _ _).mp hm
    · have hstar := hasPrefix_of_cutPrefix hcut
      rcases h with hno | ⟨domain, hne, heq⟩
      · rw [hno] at hstar
        cases hstar
      · refine ⟨fun _ ↦ ⟨domain, hne, heq, properSubdomain_of_suffix ?_ hsuffix⟩, fun hno ↦ ?_⟩
        · rw [cutPrefix_eq_some_iff, heq, String.toList_append] at hcut
          exact (List.cons.inj hcut.symm).2
        · rw [hno] at hstar
          cases hstar
    · have hstar := hasPrefix_of_cutPrefix_none hcut
      refine ⟨fun hyes ↦ ?_, fun _ ↦ hhost⟩
      rw [hstar] at hyes
      cases hyes

end Patterns

/-- Without a dot after the star a pattern matches other domains. -/
theorem starName_matches_too_much :
    let _ : GoLib := GoLib.plain
    validateHostPattern "*example.com" = .ok () ∧
    hostMatches "evilexample.com" "443" "*example.com" = true ∧
    ¬ MatchesNarrowly "*example.com" := by
  let _ : GoLib := GoLib.plain
  have hhost : patternHost "*example.com" = "*example.com" := by decide +kernel
  have hm : hostMatches "evilexample.com" "443" "*example.com" = true := by decide +kernel
  refine ⟨by decide +kernel, hm, fun h ↦ ?_⟩
  obtain ⟨domain, -, heq, -⟩ := (h _ _ hm).1 (by decide +kernel)
  rw [hhost] at heq
  have hlist := congrArg String.toList heq
  rw [String.toList_append] at hlist
  have hsecond := congrArg (fun cs : List Char ↦ cs[1]?) hlist
  revert hsecond
  simp

end PocketAp.Domain
