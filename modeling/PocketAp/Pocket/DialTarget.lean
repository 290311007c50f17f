import PocketAp.Domain.Hosts
import PocketAp.Pocket.GRPC

/-!
# What is judged and what is dialled

`src/domain/supplier.go:139–190` against `src/pocket/grpc.go:313–351`. Two packages read an
endpoint's URL: the host policy to judge it, the gRPC sender to dial it. Each has its own table
of schemes and default ports.
-/

namespace PocketAp.Pocket

open PocketAp.Base PocketAp.Domain PocketAp.Relay

/-! ### The port of a URL -/

/-- A host, a colon and a numeral. -/
def PortWritten (host : String) : Prop :=
  ∃ written bare digits, BareHost written bare ∧ digits ≠ [] ∧ digits.all isDigit = true ∧
    host.toList = written ++ ':' :: digits

/-- A host alone. -/
def PortLeftOut (host : String) : Prop := ∃ bare, BareHost host.toList bare

/-- Digits are a plain port. -/
theorem plain_of_digits {ds : List Char} (h : ds.all isDigit = true) : Plain ds := by
  have hnot (c : Char) (hc : isDigit c = false) : c ∉ ds := by
    intro hmem
    rw [List.all_eq_true.mp h c hmem] at hc
    cases hc
  exact ⟨hnot ':' (by decide), hnot '[' (by decide), hnot ']' (by decide)⟩

/-- Digits after the last colon are the port. -/
theorem urlPort_of_digits {host : String} {xs ds : List Char} (hds : ds.all isDigit = true)
    (h : host.toList = xs ++ ':' :: ds) : urlPort host = String.ofList ds := by
  have hdrop : (xs ++ ':' :: ds).drop (xs.length + 1) = ds := by simp
  simp only [urlPort, h, lastIndex_append_cons xs (plain_of_digits hds).1, hdrop, hds, if_true]

private theorem digits_of_urlPort {host : String} (h : urlPort host ≠ "") :
    ∃ xs ds, ds ≠ [] ∧ ds.all isDigit = true ∧ host.toList = xs ++ ':' :: ds := by
  unfold urlPort at h
  have hlast := lastIndex_cases ':' host.toList
  generalize hs : host.toList = s at h hlast
  generalize lastIndex ':' s = i at h hlast
  cases hlast with
  | absent _ => exact absurd rfl h
  | found xs hy =>
    rename_i ys
    have hdrop : (xs ++ ':' :: ys).drop (xs.length + 1) = ys := by simp
    simp only [hdrop] at h
    by_cases hall : ys.all isDigit = true
    · refine ⟨xs, ys, ?_, hall, rfl⟩
      rintro rfl
      exact h rfl
    · simp [hall] at h

/-- A host without a port has none. -/
theorem PortLeftOut.urlPort_eq {host : String} (h : PortLeftOut host) : urlPort host = "" := by
  by_contra hne
  obtain ⟨xs, ds, -, hds, hhost⟩ := digits_of_urlPort hne
  obtain ⟨bare, hbare⟩ := h
  rw [hhost] at hbare
  exact (plain_of_digits hds).2.2 hbare.closes

/-- A port that is written is found. -/
theorem PortWritten.urlPort_ne {host : String} (h : PortWritten host) : urlPort host ≠ "" := by
  obtain ⟨written, bare, ds, -, hne, hds, hhost⟩ := h
  rw [urlPort_of_digits hds hhost]
  intro hempty
  exact hne (by simpa using congrArg String.toList hempty)

/-! ### What a dial target splits into -/

/-- The port that is dialled when none is written. -/
def implicitPort (useTLS : Bool) : String := if useTLS then "443" else "80"

/-- A host with a port splits only if it is well formed. -/
theorem portWritten_of_split {host name port : String} (hport : urlPort host ≠ "")
    (hsplit : splitHostPort? host = some (name, port)) : PortWritten host := by
  obtain ⟨xs, ds, hne, hds, hshape⟩ := digits_of_urlPort hport
  rw [← String.ofList_toList (s := host)] at hsplit
  obtain ⟨written, hbare, hplain, heq⟩ := bareHost_of_splitHostPort? hsplit
  obtain ⟨-, hdigits⟩ := append_cons_inj (heq.symm.trans hshape) hplain.1 (plain_of_digits hds).1
  rw [hdigits] at heq
  exact ⟨written, name.toList, ds, hbare, hne, hds, heq⟩

private theorem append_implicitPort (host : String) (useTLS : Bool) :
    host ++ (":" ++ implicitPort useTLS) =
      String.ofList (host.toList ++ ':' :: (implicitPort useTLS).toList) := by
  apply String.toList_injective
  simp

private theorem plain_implicitPort (useTLS : Bool) : Plain (implicitPort useTLS).toList := by
  cases useTLS <;> decide

/-- A host with the port of its scheme is split there. -/
theorem splitHostPort?_implicitPort {host : String} {bare : List Char}
    (hbare : BareHost host.toList bare) (useTLS : Bool) :
    splitHostPort? (host ++ (":" ++ implicitPort useTLS)) =
      some (String.ofList bare, implicitPort useTLS) := by
  have hsplit := splitHostPort?_of_bareHost hbare (plain_implicitPort useTLS)
  rwa [String.ofList_toList, ← append_implicitPort] at hsplit

/-- A host to which a port is appended splits only if it stands alone. -/
theorem bareHost_of_implicitPort {host name port : String} {useTLS : Bool}
    (hsplit : splitHostPort? (host ++ (":" ++ implicitPort useTLS)) = some (name, port)) :
    BareHost host.toList name.toList ∧ port = implicitPort useTLS := by
  rw [append_implicitPort] at hsplit
  obtain ⟨written, hbare, hplain, heq⟩ := bareHost_of_splitHostPort? hsplit
  obtain ⟨hwritten, hport⟩ := append_cons_inj heq (plain_implicitPort useTLS).1 hplain.1
  rw [← hwritten] at hbare
  exact ⟨hbare, (String.toList_injective hport).symm⟩

/-! ### Two readings of one URL -/

section Target

variable [GoLib]

/-- What a URL with a scheme is dialled as. -/
theorem grpcTarget_eq_ok {parseError : String → Err} {url target : String} {useTLS : Bool}
    (hscheme : contains url "://" = true) (h : grpcTarget parseError url = .ok (target, useTLS)) :
    ∃ u, GoLib.parseURL url = some u ∧ grpcTLS (toLower u.scheme) = some useTLS ∧ u.host ≠ "" ∧
      target = if urlPort u.host = "" then u.host ++ (":" ++ implicitPort useTLS) else u.host := by
  unfold grpcTarget at h
  rw [hscheme] at h
  simp only [Bool.not_true, Bool.false_eq_true, if_false] at h
  split at h
  · cases h
  · next u hu =>
    split at h
    · cases h
    · next tls htls =>
      split at h
      · cases h
      · next hhost =>
        cases h
        refine ⟨u, hu, htls, hhost, ?_⟩
        cases useTLS <;> rfl

omit [GoLib] in
/-- The tables agree on the schemes of the web only. -/
private theorem defaultPort_eq_implicitPort_iff {scheme : String} {useTLS : Bool}
    (h : grpcTLS scheme = some useTLS) :
    defaultPort scheme = implicitPort useTLS ↔ scheme = "http" ∨ scheme = "https" := by
  unfold grpcTLS at h
  split at h
  · next hs =>
    cases h
    rcases hs with rfl | rfl <;> decide
  · split at h
    · next hs =>
      cases h
      rcases hs with rfl | rfl <;> decide
    · cases h

/-- The policy is asked about the host and the port of the dial target. -/
def SameAddress (url target : String) (host port : String) : Prop :=
  splitHostPort? target = some (host, port) ∧ hostPortOfURL url = some (toLower host, port)

private theorem hostPortOfURL_eq {url : String} {u : URL} (hu : GoLib.parseURL url = some u)
    (hhost : u.host ≠ "") :
    hostPortOfURL url = some ((splitHostPort u.host).1,
      if (splitHostPort u.host).2 = "" then defaultPort (toLower u.scheme)
      else (splitHostPort u.host).2) := by
  simp only [hostPortOfURL, hu, hhost, if_false]

/-- A port that is written is the one both take, if the host is well formed. -/
private theorem sameAddress_written {url : String} {u : URL} (hu : GoLib.parseURL url = some u)
    (hhost : u.host ≠ "") (hport : urlPort u.host ≠ "") :
    (∃ host port, SameAddress url u.host host port) ↔ PortWritten u.host := by
  constructor
  · rintro ⟨host, port, hsplit, -⟩
    exact portWritten_of_split hport hsplit
  · rintro ⟨written, bare, ds, hbare, hne, hds, hshape⟩
    have hplain := plain_of_digits hds
    have hsplit := splitHostPort?_of_bareHost hbare hplain
    have hread := splitHostPort_of_bareHost hbare hplain
    rw [← hshape, String.ofList_toList] at hsplit hread
    have hport : String.ofList ds ≠ "" := fun h ↦ hne (by simpa using congrArg String.toList h)
    refine ⟨String.ofList bare, String.ofList ds, hsplit, ?_⟩
    rw [hostPortOfURL_eq hu hhost, hread]
    simp only [hport, if_false]

/-- A port that is left out is dialled by one table and judged by the other. -/
private theorem sameAddress_leftOut {url : String} {u : URL} {useTLS : Bool}
    (hu : GoLib.parseURL url = some u) (hhost : u.host ≠ "")
    (htls : grpcTLS (toLower u.scheme) = some useTLS) :
    (∃ host port, SameAddress url (u.host ++ (":" ++ implicitPort useTLS)) host port) ↔
      PortLeftOut u.host ∧ (toLower u.scheme = "http" ∨ toLower u.scheme = "https") := by
  have hread {bare : List Char} (hbare : BareHost u.host.toList bare) :
      hostPortOfURL url = some (toLower (String.ofList bare), defaultPort (toLower u.scheme)) := by
    have hsplit := splitHostPort_of_bare hbare
    rw [String.ofList_toList] at hsplit
    rw [hostPortOfURL_eq hu hhost, hsplit]
    rfl
  constructor
  · rintro ⟨host, port, hsplit, hjudged⟩
    obtain ⟨hbare, rfl⟩ := bareHost_of_implicitPort hsplit
    refine ⟨⟨host.toList, hbare⟩, (defaultPort_eq_implicitPort_iff htls).mp ?_⟩
    rw [hread hbare] at hjudged
    simp only [Option.some.injEq, Prod.mk.injEq] at hjudged
    exact hjudged.2
  · rintro ⟨⟨bare, hbare⟩, hweb⟩
    refine ⟨String.ofList bare, implicitPort useTLS, splitHostPort?_implicitPort hbare useTLS, ?_⟩
    rw [hread hbare, (defaultPort_eq_implicitPort_iff htls).mpr hweb]

/-! ### The policy's verdict -/

/-- An entry for a host and a port matches them. -/
private theorem hostMatches_self {host port entry : String}
    (h : splitHostPort (trimSpace entry) = (host, port)) : hostMatches host port entry = true := by
  rw [hostMatches, h]
  simp only [ne_eq, not_true_eq_false, and_false, if_false]
  cases hcut : cutPrefix host "*" with
  | none => simp
  | some rest =>
    simp only
    rw [hasSuffix_iff, cutPrefix_eq_some_iff.mp hcut]
    exact List.suffix_append _ _

/-- The policy judges the address that is dialled: it is asked about the same host and port, so
that entries for them decide about the endpoint. -/
def JudgesDialled (url target : String) : Prop :=
  ∃ host port, SameAddress url target host port ∧
    ∀ (p : SupplierPolicy) (ep : Endpoint) (entry : String), ep.url .grpc = some url →
      splitHostPort (trimSpace entry) = (toLower host, port) →
      (entry ∈ p.denyHosts → p.permitsEndpoint ep .grpc = false) ∧
      (entry ∈ p.allowHosts → p.permits ep.supplier = true →
        (∀ e ∈ p.denyHosts, hostMatches (toLower host) port e = false) →
        p.permitsEndpoint ep .grpc = true)

private theorem judgesDialled_iff_sameAddress (url target : String) :
    JudgesDialled url target ↔ ∃ host port, SameAddress url target host port := by
  constructor
  · rintro ⟨host, port, hsame, -⟩
    exact ⟨host, port, hsame⟩
  · rintro ⟨host, port, hsame⟩
    refine ⟨host, port, hsame, fun p ep entry hurl hentry ↦ ⟨fun hdeny ↦ ?_, ?_⟩⟩
    · rw [Bool.eq_false_iff]
      intro hpermits
      obtain ⟨-, hnone | hjudged⟩ := (p.permitsEndpoint_iff ep .grpc).mp hpermits
      · rw [hnone.2] at hdeny
        cases hdeny
      · obtain ⟨host', port', hread, hhost⟩ := hjudged url hurl
        rw [hsame.2] at hread
        cases hread
        exact absurd (hhost.1 entry hdeny) (by simp [hostMatches_self hentry])
    · intro hallow haddr hdeny
      refine (p.permitsEndpoint_iff ep .grpc).mpr ⟨haddr, .inr fun url' hurl' ↦ ?_⟩
      rw [hurl] at hurl'
      cases hurl'
      exact ⟨_, _, hsame.2, hdeny, .inr ⟨entry, hallow, hostMatches_self hentry⟩⟩

/-- The URLs for which both packages read the same: the port is written, or it is left out and
the scheme is one of the web's. -/
def ReadAlike (u : URL) : Prop :=
  PortWritten u.host ∨
    PortLeftOut u.host ∧ (toLower u.scheme = "http" ∨ toLower u.scheme = "https")

/-- For every URL the gRPC sender accepts, the policy judges what is dialled exactly when the
packages read the URL alike. -/
theorem judgesDialled_iff_readAlike (parseError : String → Err) (url target : String)
    (useTLS : Bool) (hscheme : contains url "://" = true)
    (htarget : grpcTarget parseError url = .ok (target, useTLS)) :
    JudgesDialled url target ↔ ∃ u, GoLib.parseURL url = some u ∧ ReadAlike u := by
  obtain ⟨u, hu, htls, hhost, rfl⟩ := grpcTarget_eq_ok hscheme htarget
  have hparsed : (∃ v, GoLib.parseURL url = some v ∧ ReadAlike v) ↔ ReadAlike u := by
    simp [hu]
  rw [judgesDialled_iff_sameAddress, hparsed, ReadAlike]
  by_cases hport : urlPort u.host = ""
  · rw [if_pos hport, sameAddress_leftOut hu hhost htls]
    constructor
    · exact .inr
    · rintro (hwritten | hleft)
      · exact absurd hport hwritten.urlPort_ne
      · exact hleft
  · rw [if_neg hport, sameAddress_written hu hhost hport]
    constructor
    · exact .inl
    · rintro (hwritten | ⟨hleft, -⟩)
      · exact hwritten
      · exact absurd hleft.urlPort_eq hport

end Target

/-- A host policy judges the server that an `https` URL is dialled to. -/
theorem judgesDialled_iff_readAlike_https :
    let _ : GoLib := GoLib.plain
    JudgesDialled "HTTPS://Node/x" "Node:443" := by
  let _ : GoLib := GoLib.plain
  refine (judgesDialled_iff_readAlike (fun _ ↦ .text "") "HTTPS://Node/x" "Node:443" true
    (by decide +kernel) (by rfl)).mpr ⟨⟨"HTTPS", "Node"⟩, by decide +kernel, .inr ⟨?_, ?_⟩⟩
  · exact ⟨"Node".toList, .name (by decide)⟩
  · exact .inr (by decide +kernel)

/-- Dialled at port 80, and not blocked by an entry for port 80. -/
theorem grpc_scheme_judged_without_port :
    let _ : GoLib := GoLib.plain
    grpcTarget (fun _ ↦ .text "") "grpc://h" = .ok ("h:80", false) ∧
      ({ denyHosts := ["h:80"] } : SupplierPolicy).permitsEndpoint
        ⟨"pokt1a", fun _ ↦ some "grpc://h"⟩ .grpc = true ∧
      ¬ JudgesDialled "grpc://h" "h:80" := by
  let _ : GoLib := GoLib.plain
  refine ⟨by rfl, by decide +kernel, ?_⟩
  rintro ⟨host, port, ⟨hsplit, hjudged⟩, -⟩
  rw [show splitHostPort? "h:80" = some ("h", "80") by decide +kernel] at hsplit
  rw [show hostPortOfURL "grpc://h" = some ("h", "") by decide +kernel] at hjudged
  cases hsplit
  exact absurd hjudged (by decide +kernel)

end PocketAp.Pocket
