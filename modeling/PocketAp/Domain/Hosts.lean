import PocketAp.Base.HostPort
import PocketAp.Domain.Supplier

/-!
# What host entries mean

`src/domain/supplier.go:97–190` against the documented meaning of an entry: a name, or `*.`
and a name for all its subdomains, and optionally a port. Names are compared label by label,
ports as numerals. `net/url` and Unicode lower-casing are taken from Go; `ReadsURLs` says
what is relied on.
-/

namespace PocketAp.Domain

open PocketAp.Base

/-- What a DNS name is written with. -/
def nameChars : List Char :=
  "abcdefghijklmnopqrstuvwxyzABCDEFGHIJKLMNOPQRSTUVWXYZ0123456789-_.".toList

/-- A DNS name; labels are what stands between its dots. -/
structure DNSName where
  text : String
  ne : text ≠ ""
  chars : ∀ c ∈ text.toList, c ∈ nameChars

/-- A numeral. -/
structure PortNumber where
  text : String
  ne : text ≠ ""
  digits : ∀ c ∈ text.toList, c ∈ "0123456789".toList

/-- Schemes of a supplier's endpoint. -/
inductive WebScheme where
  | http
  | https
  | ws
  | wss
  deriving DecidableEq, Repr

/-- The scheme as it is written. -/
def WebScheme.text : WebScheme → String
  | .http => "http"
  | .https => "https"
  | .ws => "ws"
  | .wss => "wss"

/-- The port a URL leaves implicit. -/
def WebScheme.port : WebScheme → String
  | .http => "80"
  | .ws => "80"
  | .https => "443"
  | .wss => "443"

/-- A port with its colon. -/
def portSuffix : Option PortNumber → String
  | none => ""
  | some p => ":" ++ p.text

/-- A URL of an endpoint: scheme, maybe userinfo, host, maybe port, and the rest from the path,
the query or the fragment on. -/
structure EndpointURL where
  scheme : WebScheme
  userinfo : Option String
  host : DNSName
  port : Option PortNumber
  rest : String
  userinfo_chars : ∀ info ∈ userinfo, ∀ c ∈ info.toList, c ≠ '/' ∧ c ≠ '?' ∧ c ≠ '#'
  rest_start : ∀ c tail, rest.toList = c :: tail → c = '/' ∨ c = '?' ∨ c = '#'

namespace EndpointURL

/-- Host and port as they are written. -/
def authority (u : EndpointURL) : String := u.host.text ++ portSuffix u.port

/-- The URL as it is written. -/
def text (u : EndpointURL) : String :=
  u.scheme.text ++ "://" ++
    (match u.userinfo with
      | none => ""
      | some info => info ++ "@") ++ u.authority ++ u.rest

/-- The port it stands for. -/
def portText (u : EndpointURL) : String :=
  match u.port with
  | none => u.scheme.port
  | some p => p.text

end EndpointURL

/-- What is relied on: lower case of ASCII, and that a URL of this form, if `url.Parse` accepts
it, has the scheme and the host it is written with. -/
structure ReadsURLs [GoLib] : Prop where
  lower : ∀ c : Char, c.toNat < 128 → GoLib.toLowerRune c = asciiLower c
  parse : ∀ (u : EndpointURL) (parsed : URL), GoLib.parseURL u.text = some parsed →
    parsed = ⟨u.scheme.text, u.authority⟩

/-- An entry of a host list. -/
structure HostEntry where
  wildcard : Bool
  name : DNSName
  port : Option PortNumber

/-- The entry as it is written. -/
def HostEntry.text (e : HostEntry) : String :=
  (if e.wildcard then "*." else "") ++ e.name.text ++ portSuffix e.port

/-- A name up to ASCII case. -/
def DNSName.fold (n : DNSName) : List Char := n.text.toList.map asciiLower

/-- The parts of a name between its dots. -/
def labels (name : List Char) : List (List Char) := name.splitOn '.'

/-- What an entry says: the port is the URL's if there is one, and the name is the host or, for
a wildcard, what follows one or more of the host's labels. -/
def HostEntry.Names (e : HostEntry) (u : EndpointURL) : Prop :=
  (∀ p ∈ e.port, p.text = u.portText) ∧
    if e.wildcard then ∃ ls, ls ≠ [] ∧ labels u.host.fold = ls ++ labels e.name.fold
    else u.host.fold = e.name.fold

/-- A wildcard does not name its own domain. -/
theorem HostEntry.not_names_apex {e : HostEntry} {u : EndpointURL} (hw : e.wildcard = true)
    (hsame : u.host.fold = e.name.fold) : ¬ e.Names u := by
  rintro ⟨-, hname⟩
  rw [if_pos hw, hsame] at hname
  obtain ⟨ls, hls, heq⟩ := hname
  have hlen := congrArg List.length heq
  rw [List.length_append] at hlen
  exact hls (List.eq_nil_of_length_eq_zero (by omega))

/-! ### Characters -/

/-- What the readers of hosts and URLs rely on in the characters of a name. -/
private structure NameChar (c : Char) : Prop where
  ne_colon : c ≠ ':'
  ne_open : c ≠ '['
  ne_close : c ≠ ']'
  ne_at : c ≠ '@'
  ne_rest : c ≠ '/' ∧ c ≠ '?' ∧ c ≠ '#'
  ascii : c.toNat < 128
  not_space : isSpace c = false
  ne_star : asciiLower c ≠ '*'

private theorem nameChar_of_mem {c : Char} (hc : c ∈ nameChars) : NameChar c := by
  have hall : ∀ c ∈ nameChars, c ≠ ':' ∧ c ≠ '[' ∧ c ≠ ']' ∧ c ≠ '@' ∧
      (c ≠ '/' ∧ c ≠ '?' ∧ c ≠ '#') ∧ c.toNat < 128 ∧ isSpace c = false ∧ asciiLower c ≠ '*' :=
    forall_mem_of_all (by decide +kernel)
  obtain ⟨h₁, h₂, h₃, h₄, h₅, h₆, h₇, h₈⟩ := hall c hc
  exact ⟨h₁, h₂, h₃, h₄, h₅, h₆, h₇, h₈⟩

private theorem DNSName.char (n : DNSName) {c : Char} (hc : c ∈ n.text.toList) : NameChar c :=
  nameChar_of_mem (n.chars c hc)

private theorem PortNumber.char (p : PortNumber) {c : Char} (hc : c ∈ p.text.toList) :
    NameChar c := by
  have hdigits : ∀ c ∈ "0123456789".toList, c ∈ nameChars :=
    forall_mem_of_all (by decide +kernel)
  exact nameChar_of_mem (hdigits c (p.digits c hc))

private theorem portSuffix_char {port : Option PortNumber} {c : Char}
    (hc : c ∈ (portSuffix port).toList) : c = ':' ∨ NameChar c := by
  cases port with
  | none => cases hc
  | some p =>
    rw [portSuffix, String.toList_append, List.mem_append] at hc
    rcases hc with hc | hc
    · exact .inl (List.mem_singleton.mp hc)
    · exact .inr (p.char hc)

private theorem plain_of_nameChar {cs : List Char} (h : ∀ c ∈ cs, NameChar c) : Plain cs :=
  ⟨fun hc ↦ (h _ hc).ne_colon rfl, fun hc ↦ (h _ hc).ne_open rfl, fun hc ↦ (h _ hc).ne_close rfl⟩

private theorem DNSName.plain (n : DNSName) : Plain n.text.toList :=
  plain_of_nameChar (fun _ ↦ n.char)

private theorem PortNumber.plain (p : PortNumber) : Plain p.text.toList :=
  plain_of_nameChar (fun _ ↦ p.char)

/-! ### Reading a host and a port -/

section Split

variable [GoLib]

/-- A host without a port. -/
theorem splitHostPort_of_bare {written host : List Char} (h : BareHost written host) :
    splitHostPort (String.ofList written) = (toLower (String.ofList host), "") := by
  simp only [splitHostPort, splitHostPort?_eq_none h, trimSet_of_bareHost h]

private theorem splitHostPort_of_plain {s : String} (h : Plain s.toList) :
    splitHostPort s = (toLower s, "") := by
  have hbare := splitHostPort_of_bare (.name h)
  rwa [String.ofList_toList] at hbare

/-- A host with one. -/
theorem splitHostPort_of_bareHost {written host port : List Char} (hb : BareHost written host)
    (hp : Plain port) :
    splitHostPort (String.ofList (written ++ ':' :: port)) =
      (toLower (String.ofList host), String.ofList port) := by
  simp only [splitHostPort, splitHostPort?_of_bareHost hb hp]

/-- A plain name with or without a port. -/
theorem splitHostPort_portSuffix {name : String} (h : Plain name.toList)
    (port : Option PortNumber) :
    splitHostPort (name ++ portSuffix port) =
      (toLower name, match port with
        | none => ""
        | some p => p.text) := by
  cases port with
  | none =>
    rw [portSuffix, String.append_empty]
    exact splitHostPort_of_plain h
  | some p =>
    have hsplit := splitHostPort_of_bareHost (.name h) p.plain
    have htext : String.ofList (name.toList ++ ':' :: p.text.toList) = name ++ (":" ++ p.text) := by
      apply String.toList_injective
      simp
    rwa [htext, String.ofList_toList, String.ofList_toList] at hsplit

end Split

section Verdict

variable [GoLib]

private theorem toLower_dnsName (hlib : ReadsURLs) (n : DNSName) :
    toLower n.text = String.ofList n.fold := by
  have hlow := toLower_ofList hlib.lower (s := n.text.toList)
    (fun _ hc ↦ (n.char hc).ascii)
  rwa [String.ofList_toList] at hlow

private theorem toLower_scheme (hlib : ReadsURLs) (scheme : WebScheme) :
    toLower scheme.text = scheme.text := by
  have hascii : ∀ c ∈ scheme.text.toList, c.toNat < 128 := by
    cases scheme <;> exact forall_mem_of_all (by decide +kernel)
  have hfold : scheme.text.toList.map asciiLower = scheme.text.toList := by
    cases scheme <;> decide +kernel
  have hlow := toLower_ofList hlib.lower hascii
  rwa [hfold, String.ofList_toList] at hlow

private theorem defaultPort_scheme (hlib : ReadsURLs) (scheme : WebScheme) :
    defaultPort (toLower scheme.text) = scheme.port := by
  rw [toLower_scheme hlib]
  cases scheme <;> decide +kernel

/-- The policy sees the host and the port a URL is written with, and nothing else of it. -/
theorem hostPortOfURL_text (hlib : ReadsURLs) (u : EndpointURL) {parsed : URL}
    (hparse : GoLib.parseURL u.text = some parsed) :
    hostPortOfURL u.text = some (String.ofList u.host.fold, u.portText) := by
  have hne : u.authority ≠ "" := by
    intro h
    have hlen := congrArg String.toList h
    rw [EndpointURL.authority, String.toList_append] at hlen
    exact u.host.ne (String.toList_injective (List.append_eq_nil_iff.mp hlen).1)
  have hsplit := splitHostPort_portSuffix u.host.plain u.port
  rw [← EndpointURL.authority, toLower_dnsName hlib] at hsplit
  rw [hostPortOfURL, hparse, hlib.parse u parsed hparse]
  simp only [hne, if_false, hsplit, defaultPort_scheme hlib]
  cases hport : u.port with
  | none => simp [EndpointURL.portText, hport]
  | some p => simp [EndpointURL.portText, hport, p.ne]

omit [GoLib] in
private theorem HostEntry.trimSpace_text (e : HostEntry) : trimSpace e.text = e.text := by
  apply trimSpace_of_forall
  intro c hc
  simp only [HostEntry.text, String.toList_append, List.mem_append] at hc
  rcases hc with (hc | hc) | hc
  · split at hc
    · revert c
      exact forall_mem_of_all (by decide +kernel)
    · cases hc
  · exact (e.name.char hc).not_space
  · rcases portSuffix_char hc with rfl | hc
    · decide
    · exact hc.not_space

/-- How the matcher reads an entry. -/
private theorem HostEntry.splitHostPort_text (hlib : ReadsURLs) (e : HostEntry) :
    splitHostPort e.text =
      (String.ofList ((if e.wildcard then ['*', '.'] else []) ++ e.name.fold),
        match e.port with
        | none => ""
        | some p => p.text) := by
  have hplain : Plain ((if e.wildcard then "*." else "") ++ e.name.text).toList := by
    obtain ⟨h₁, h₂, h₃⟩ := e.name.plain
    rw [String.toList_append]
    cases e.wildcard
    · exact ⟨h₁, h₂, h₃⟩
    · refine ⟨?_, ?_, ?_⟩ <;> simp [h₁, h₂, h₃]
  have hascii : ∀ c ∈ ((if e.wildcard then "*." else "") ++ e.name.text).toList,
      c.toNat < 128 := by
    intro c hc
    rw [String.toList_append, List.mem_append] at hc
    rcases hc with hc | hc
    · split at hc
      · revert c
        exact forall_mem_of_all (by decide +kernel)
      · cases hc
    · exact (e.name.char hc).ascii
  have hlow := toLower_ofList hlib.lower hascii
  rw [String.ofList_toList] at hlow
  rw [HostEntry.text, splitHostPort_portSuffix hplain, hlow, String.toList_append, List.map_append]
  cases e.wildcard <;> rfl

/-- The matcher's verdict is what the entry says. -/
theorem hostMatches_iff_names (hlib : ReadsURLs) (e : HostEntry) (u : EndpointURL) :
    hostMatches (String.ofList u.host.fold) u.portText e.text = true ↔ e.Names u := by
  have hport : (¬ ((match e.port with
        | none => ""
        | some p => p.text) ≠ "" ∧ (match e.port with
        | none => ""
        | some p => p.text) ≠ u.portText)) ↔ ∀ p ∈ e.port, p.text = u.portText := by
    cases e.port with
    | none => simp
    | some p => simp [p.ne]
  rw [hostMatches, e.trimSpace_text, e.splitHostPort_text hlib]
  simp only
  by_cases hp : ∀ p ∈ e.port, p.text = u.portText
  · rw [if_neg (hport.mpr hp)]
    cases hw : e.wildcard with
    | true =>
      have hcut : cutPrefix (String.ofList (['*', '.'] ++ e.name.fold)) "*" =
          some (String.ofList ('.' :: e.name.fold)) := by
        rw [cutPrefix_eq_some_iff]
        simp
      simp only [if_true, hcut]
      rw [hasSuffix_iff, String.toList_ofList, String.toList_ofList, cons_suffix_iff]
      simp only [HostEntry.Names, hw, if_true, labels]
      exact ⟨fun h ↦ ⟨hp, h⟩, fun h ↦ h.2⟩
    | false =>
      have hcut : cutPrefix (String.ofList e.name.fold) "*" = none := by
        rw [cutPrefix_eq_none_iff]
        simp only [String.toList_ofList]
        intro hstar
        have hmem : '*' ∈ e.name.fold := hstar.mem List.mem_cons_self
        obtain ⟨c, hc, hstar⟩ := List.mem_map.mp hmem
        exact (e.name.char hc).ne_star hstar
      simp only [Bool.false_eq_true, if_false, List.nil_append, hcut, decide_eq_true_eq]
      simp only [HostEntry.Names, hw, Bool.false_eq_true, if_false]
      constructor
      · intro h
        refine ⟨hp, ?_⟩
        have hlist := congrArg String.toList h
        rwa [String.toList_ofList, String.toList_ofList] at hlist
      · intro h
        rw [h.2]
  · rw [if_pos (not_not.mp (fun h ↦ hp (hport.mp h)))]
    exact ⟨nofun, fun h ↦ absurd h.1 hp⟩

/-! ### Policies -/

omit [GoLib] in
private theorem SupplierPolicy.permits_iff (p : SupplierPolicy) (supplier : EndpointAddr) :
    p.permits supplier = true ↔
      supplier ∉ p.deny ∧ (p.allow = [] ∨ supplier ∈ p.allow) := by
  rw [SupplierPolicy.permits]
  by_cases hd : supplier ∈ p.deny
  · simp [hd]
  · by_cases ha : p.allow = []
    · simp [hd, ha]
    · simp [hd, ha]

/-- What a host policy says of a host and a port. -/
def SupplierPolicy.PermitsHost (p : SupplierPolicy) (host port : String) : Prop :=
  (∀ e ∈ p.denyHosts, hostMatches host port e = false) ∧
    (p.allowHosts = [] ∨ ∃ e ∈ p.allowHosts, hostMatches host port e = true)

private theorem SupplierPolicy.permitsHost_iff (p : SupplierPolicy) (host port : String) :
    (if p.denyHosts.any (hostMatches host port ·) then false
      else if p.allowHosts.isEmpty then true
      else p.allowHosts.any (hostMatches host port ·)) = true ↔ p.PermitsHost host port := by
  have hdeny : p.denyHosts.any (hostMatches host port ·) = false ↔
      ∀ e ∈ p.denyHosts, hostMatches host port e = false := by
    simp
  have hallow : (if p.allowHosts.isEmpty = true then true
      else p.allowHosts.any (hostMatches host port ·)) = true ↔
      p.allowHosts = [] ∨ ∃ e ∈ p.allowHosts, hostMatches host port e = true := by
    by_cases ha : p.allowHosts = [] <;> simp [ha]
  rw [SupplierPolicy.PermitsHost, ← hdeny, ← hallow]
  cases p.denyHosts.any (hostMatches host port ·) <;> simp

/-- An endpoint is permitted with its supplier and, if hosts are listed at all, with the host of its
URL. -/
theorem SupplierPolicy.permitsEndpoint_iff (p : SupplierPolicy) (ep : Endpoint)
    (rpcType : RPCType) :
    p.permitsEndpoint ep rpcType = true ↔ p.permits ep.supplier = true ∧
      ((p.allowHosts = [] ∧ p.denyHosts = []) ∨
        ∀ url, ep.url rpcType = some url →
          ∃ host port, hostPortOfURL url = some (host, port) ∧ p.PermitsHost host port) := by
  rw [SupplierPolicy.permitsEndpoint]
  cases hpermits : p.permits ep.supplier with
  | false => simp
  | true =>
    by_cases hnone : p.allowHosts = [] ∧ p.denyHosts = []
    · simp [hnone.1, hnone.2]
    · have hsome : (p.allowHosts.isEmpty && p.denyHosts.isEmpty) = false := by
        rw [Bool.eq_false_iff]
        simpa [List.isEmpty_iff] using hnone
      simp only [hsome, hnone, Bool.not_true, Bool.false_eq_true, if_false, true_and, false_or]
      cases ep.url rpcType with
      | none => simp
      | some url =>
        simp only [Option.some.injEq, forall_eq']
        cases hostPortOfURL url with
        | none => simp
        | some hp =>
          rw [SupplierPolicy.permitsHost_iff]
          constructor
          · exact fun h ↦ ⟨hp.1, hp.2, rfl, h⟩
          · rintro ⟨host, port, ⟨⟩, h⟩
            exact h

omit [GoLib] in
/-- `q` denies what `p` denies, and maybe more. -/
structure SupplierPolicy.DeniesMore (p q : SupplierPolicy) : Prop where
  deny : p.deny ⊆ q.deny
  denyHosts : p.denyHosts ⊆ q.denyHosts
  allow : q.allow = p.allow
  allowHosts : q.allowHosts = p.allowHosts

omit [GoLib] in
/-- `q` allows what `p` allows, and maybe more; a list that was empty stays so. -/
structure SupplierPolicy.AllowsMore (p q : SupplierPolicy) : Prop where
  allow : p.allow ⊆ q.allow
  allowHosts : p.allowHosts ⊆ q.allowHosts
  emptyAllow : p.allow = [] → q.allow = []
  emptyAllowHosts : p.allowHosts = [] → q.allowHosts = []
  deny : q.deny = p.deny
  denyHosts : q.denyHosts = p.denyHosts

private theorem SupplierPolicy.DeniesMore.permitsEndpoint {p q : SupplierPolicy}
    (h : p.DeniesMore q) {ep : Endpoint} {rpcType : RPCType}
    (hq : q.permitsEndpoint ep rpcType = true) : p.permitsEndpoint ep rpcType = true := by
  obtain ⟨haddr, hhost⟩ := (q.permitsEndpoint_iff ep rpcType).mp hq
  rw [SupplierPolicy.permits_iff, h.allow] at haddr
  refine (p.permitsEndpoint_iff ep rpcType).mpr ⟨?_, ?_⟩
  · rw [SupplierPolicy.permits_iff]
    exact ⟨fun hd ↦ haddr.1 (h.deny hd), haddr.2⟩
  · rcases hhost with ⟨hallow, hdeny⟩ | hurl
    · left
      refine ⟨h.allowHosts ▸ hallow, List.eq_nil_iff_forall_not_mem.mpr (fun e he ↦ ?_)⟩
      have hmem := h.denyHosts he
      rw [hdeny] at hmem
      cases hmem
    · right
      intro url hu
      obtain ⟨host, port, hhp, hdeny, hallow⟩ := hurl url hu
      exact ⟨host, port, hhp, fun e he ↦ hdeny e (h.denyHosts he), h.allowHosts ▸ hallow⟩

private theorem SupplierPolicy.AllowsMore.permitsEndpoint {p q : SupplierPolicy}
    (h : p.AllowsMore q) {ep : Endpoint} {rpcType : RPCType}
    (hp : p.permitsEndpoint ep rpcType = true) : q.permitsEndpoint ep rpcType = true := by
  obtain ⟨haddr, hhost⟩ := (p.permitsEndpoint_iff ep rpcType).mp hp
  rw [SupplierPolicy.permits_iff] at haddr
  refine (q.permitsEndpoint_iff ep rpcType).mpr ⟨?_, ?_⟩
  · rw [SupplierPolicy.permits_iff, h.deny]
    refine ⟨haddr.1, ?_⟩
    rcases haddr.2 with hempty | hmem
    · exact .inl (h.emptyAllow hempty)
    · exact .inr (h.allow hmem)
  · rcases hhost with ⟨hallow, hdeny⟩ | hurl
    · exact .inl ⟨h.emptyAllowHosts hallow, h.denyHosts ▸ hdeny⟩
    · right
      intro url hu
      obtain ⟨host, port, hhp, hdeny, hallow⟩ := hurl url hu
      refine ⟨host, port, hhp, h.denyHosts ▸ hdeny, ?_⟩
      rcases hallow with hempty | ⟨e, he, hm⟩
      · exact .inl (h.emptyAllowHosts hempty)
      · exact .inr ⟨e, h.allowHosts he, hm⟩

/-- A host policy refuses what it cannot read. -/
theorem SupplierPolicy.permitsEndpoint_of_unparsed {p : SupplierPolicy} {ep : Endpoint}
    {rpcType : RPCType} {url : String} (hurl : ep.url rpcType = some url)
    (hparse : GoLib.parseURL url = none) (hlists : p.allowHosts ≠ [] ∨ p.denyHosts ≠ []) :
    p.permitsEndpoint ep rpcType = false := by
  rw [Bool.eq_false_iff]
  intro h
  obtain ⟨-, ⟨hallow, hdeny⟩ | hread⟩ := (p.permitsEndpoint_iff ep rpcType).mp h
  · rcases hlists with hne | hne
    · exact hne hallow
    · exact hne hdeny
  · obtain ⟨host, port, hhp, -⟩ := hread url hurl
    rw [hostPortOfURL, hparse] at hhp
    cases hhp

/-- Policies whose host lists are entries as documented. -/
theorem SupplierPolicy.permitsEndpoint_names (hlib : ReadsURLs) {p : SupplierPolicy}
    {allow deny : List HostEntry} (hallow : p.allowHosts = allow.map HostEntry.text)
    (hdeny : p.denyHosts = deny.map HostEntry.text) {ep : Endpoint} {rpcType : RPCType}
    {u : EndpointURL} (hurl : ep.url rpcType = some u.text) {parsed : URL}
    (hparse : GoLib.parseURL u.text = some parsed) :
    p.permitsEndpoint ep rpcType = true ↔ p.permits ep.supplier = true ∧
      (∀ e ∈ deny, ¬ e.Names u) ∧ (allow = [] ∨ ∃ e ∈ allow, e.Names u) := by
  have hhost : p.PermitsHost (String.ofList u.host.fold) u.portText ↔
      (∀ e ∈ deny, ¬ e.Names u) ∧ (allow = [] ∨ ∃ e ∈ allow, e.Names u) := by
    rw [SupplierPolicy.PermitsHost, hallow, hdeny]
    simp only [List.mem_map, forall_exists_index, and_imp, forall_apply_eq_imp_iff₂,
      exists_exists_and_eq_and, List.map_eq_nil_iff, ← Bool.not_eq_true,
      hostMatches_iff_names hlib]
  rw [SupplierPolicy.permitsEndpoint_iff, ← hhost]
  refine and_congr_right (fun _ ↦ ?_)
  constructor
  · rintro (⟨ha, hd⟩ | hread)
    · rw [SupplierPolicy.PermitsHost, ha, hd]
      exact ⟨by simp, .inl rfl⟩
    · obtain ⟨host, port, hhp, hpermits⟩ := hread u.text hurl
      rw [hostPortOfURL_text hlib u hparse] at hhp
      cases hhp
      exact hpermits
  · intro hpermits
    right
    intro url hu
    rw [hurl] at hu
    cases hu
    exact ⟨_, _, hostPortOfURL_text hlib u hparse, hpermits⟩

end Verdict

/-- Host matching means what is documented: of an entry, of a policy, and of a policy with more
entries. -/
theorem host_policy_as_documented [GoLib] (hlib : ReadsURLs) :
    (∀ (u : EndpointURL) (parsed : URL), GoLib.parseURL u.text = some parsed →
      ∃ host port, hostPortOfURL u.text = some (host, port) ∧
        ∀ e : HostEntry, hostMatches host port e.text = true ↔ e.Names u) ∧
    (∀ (u : EndpointURL) (e : HostEntry), e.wildcard = true → u.host.fold = e.name.fold →
      ¬ e.Names u) ∧
    (∀ (u u' : EndpointURL) (parsed parsed' : URL), GoLib.parseURL u.text = some parsed →
      GoLib.parseURL u'.text = some parsed' → u.scheme = u'.scheme → u.host = u'.host →
      u.port = u'.port → ∀ (p : SupplierPolicy) (ep ep' : Endpoint) (rpcType : RPCType),
      ep.supplier = ep'.supplier → ep.url rpcType = some u.text →
      ep'.url rpcType = some u'.text →
      p.permitsEndpoint ep rpcType = p.permitsEndpoint ep' rpcType) ∧
    (∀ (u : EndpointURL) (parsed : URL), GoLib.parseURL u.text = some parsed →
      ∀ (p : SupplierPolicy) (allow deny : List HostEntry),
      p.allowHosts = allow.map HostEntry.text → p.denyHosts = deny.map HostEntry.text →
      ∀ (ep : Endpoint) (rpcType : RPCType), ep.url rpcType = some u.text →
      (p.permitsEndpoint ep rpcType = true ↔ p.permits ep.supplier = true ∧
        (∀ e ∈ deny, ¬ e.Names u) ∧ (allow = [] ∨ ∃ e ∈ allow, e.Names u))) ∧
    (∀ (p q : SupplierPolicy) (ep : Endpoint) (rpcType : RPCType),
      (p.DeniesMore q → q.permitsEndpoint ep rpcType = true →
        p.permitsEndpoint ep rpcType = true) ∧
      (p.AllowsMore q → p.permitsEndpoint ep rpcType = true →
        q.permitsEndpoint ep rpcType = true)) ∧
    ∀ (p : SupplierPolicy) (ep : Endpoint) (rpcType : RPCType) (url : String),
      ep.url rpcType = some url → GoLib.parseURL url = none →
      p.allowHosts ≠ [] ∨ p.denyHosts ≠ [] → p.permitsEndpoint ep rpcType = false := by
  refine ⟨?_, ?_, ?_, ?_, ?_, ?_⟩
  · intro u parsed hparse
    exact ⟨_, _, hostPortOfURL_text hlib u hparse, fun e ↦ hostMatches_iff_names hlib e u⟩
  · exact fun u e ↦ HostEntry.not_names_apex
  · intro u u' parsed parsed' hparse hparse' hscheme hhost hport p ep ep' rpcType haddr hurl hurl'
    have hsame : hostPortOfURL u.text = hostPortOfURL u'.text := by
      rw [hostPortOfURL_text hlib u hparse, hostPortOfURL_text hlib u' hparse', hhost,
        EndpointURL.portText, EndpointURL.portText, hscheme, hport]
    simp only [SupplierPolicy.permitsEndpoint, haddr, hurl, hurl', hsame]
  · intro u parsed hparse p allow deny hallow hdeny ep rpcType hurl
    exact SupplierPolicy.permitsEndpoint_names hlib hallow hdeny hurl hparse
  · intro p q ep rpcType
    exact ⟨fun h ↦ h.permitsEndpoint, fun h ↦ h.permitsEndpoint⟩
  · intro p ep rpcType url
    exact SupplierPolicy.permitsEndpoint_of_unparsed

/-! ### A library that reads URLs -/

/-- Scheme and authority, the latter after its last `@`. -/
def readURL (s : String) : Option URL :=
  let cs := s.toList
  let scheme := cs.takeWhile (· ≠ ':')
  match cs.drop scheme.length with
  | ':' :: '/' :: '/' :: rest =>
    let authority := rest.takeWhile (fun c ↦ c ≠ '/' ∧ c ≠ '?' ∧ c ≠ '#')
    some ⟨String.ofList scheme, String.ofList (match lastIndex '@' authority with
      | none => authority
      | some i => authority.drop (i + 1))⟩
  | _ => none

/-- A library that parses the URLs of this grammar. -/
@[reducible]
def GoLib.web : GoLib := { GoLib.plain with parseURL := readURL }

private theorem takeWhile_append_stop {p : Char → Bool} {xs rest : List Char}
    (hx : ∀ c ∈ xs, p c = true) (hrest : ∀ c tail, rest = c :: tail → p c = false) :
    (xs ++ rest).takeWhile p = xs := by
  rw [List.takeWhile_append_of_pos hx]
  cases rest with
  | nil => simp
  | cons c tail => simp [hrest c tail rfl]

private theorem authority_chars (u : EndpointURL) : ∀ c ∈ u.authority.toList,
    c ≠ '@' ∧ c ≠ '/' ∧ c ≠ '?' ∧ c ≠ '#' := by
  intro c hc
  rw [EndpointURL.authority, String.toList_append, List.mem_append] at hc
  rcases hc with hc | hc
  · exact ⟨(u.host.char hc).ne_at, (u.host.char hc).ne_rest⟩
  · rcases portSuffix_char hc with rfl | hc
    · decide
    · exact ⟨hc.ne_at, hc.ne_rest⟩

private theorem readURL_text (u : EndpointURL) :
    readURL u.text = some ⟨u.scheme.text, u.authority⟩ := by
  obtain ⟨info, hinfo, hchars, hlast⟩ : ∃ info : List Char,
      (match u.userinfo with
        | none => ""
        | some info => info ++ "@").toList = info ∧
      (∀ c ∈ info, c ≠ '/' ∧ c ≠ '?' ∧ c ≠ '#') ∧
      (match lastIndex '@' (info ++ u.authority.toList) with
        | none => info ++ u.authority.toList
        | some i => (info ++ u.authority.toList).drop (i + 1)) = u.authority.toList := by
    have hat : '@' ∉ u.authority.toList := fun h ↦ (authority_chars u '@' h).1 rfl
    cases hu : u.userinfo with
    | none => exact ⟨[], rfl, by simp, by simp [lastIndex_of_notMem hat]⟩
    | some info =>
      refine ⟨info.toList ++ ['@'], by simp, ?_, ?_⟩
      · intro c hc
        rcases List.mem_append.mp hc with hc | hc
        · exact u.userinfo_chars info hu c hc
        · rw [List.mem_singleton.mp hc]
          decide
      · have hlast := lastIndex_append_cons info.toList hat
        simp [hlast]
  have htext : u.text.toList = u.scheme.text.toList ++ ':' :: '/' :: '/' ::
      ((info ++ u.authority.toList) ++ u.rest.toList) := by
    rw [EndpointURL.text]
    simp only [String.toList_append, hinfo]
    simp
  have hscheme : ∀ c ∈ u.scheme.text.toList, decide (c ≠ ':') = true := by
    cases u.scheme <;> exact forall_mem_of_all (by decide +kernel)
  have htake : u.text.toList.takeWhile (fun c ↦ decide (c ≠ ':')) = u.scheme.text.toList := by
    rw [htext]
    refine takeWhile_append_stop hscheme (fun c tail h ↦ ?_)
    cases h
    rfl
  have hauth : ((info ++ u.authority.toList) ++ u.rest.toList).takeWhile
      (fun c ↦ decide (c ≠ '/' ∧ c ≠ '?' ∧ c ≠ '#')) = info ++ u.authority.toList := by
    refine takeWhile_append_stop (fun c hc ↦ ?_) (fun c tail h ↦ ?_)
    · rcases List.mem_append.mp hc with hc | hc
      · simpa using hchars c hc
      · simpa using (authority_chars u c hc).2
    · rcases u.rest_start c tail h with rfl | rfl | rfl <;> rfl
  unfold readURL
  simp only [htake]
  rw [htext, List.drop_left]
  simp only [hauth, hlast, String.ofList_toList]

private theorem readsURLs_web : @ReadsURLs GoLib.web := by
  refine @ReadsURLs.mk GoLib.web (fun _ _ ↦ rfl) (fun u parsed h ↦ ?_)
  have hread := readURL_text u
  exact (Option.some.inj (hread.symm.trans h)).symm

/-- `https://me@RM.Example.com/v1?host=a.b`. -/
def exampleURL : EndpointURL where
  scheme := .https
  userinfo := some "me"
  host := ⟨"RM.Example.com", by decide, forall_mem_of_all (by decide +kernel)⟩
  port := none
  rest := "/v1?host=a.b"
  userinfo_chars := by
    intro info h
    cases h
    exact forall_mem_of_all (by decide +kernel)
  rest_start := by
    intro c tail h
    have hhead : c = '/' := by
      have hlist := (List.cons.inj h).1
      exact hlist.symm
    exact .inl hhead

/-- `*.example.com:443`. -/
def exampleEntry : HostEntry where
  wildcard := true
  name := ⟨"example.com", by decide, forall_mem_of_all (by decide +kernel)⟩
  port := some ⟨"443", by decide, forall_mem_of_all (by decide +kernel)⟩

/-- A host entry with a wildcard and the default port denies the endpoint. -/
theorem host_policy_as_documented_example :
    exampleURL.text = "https://me@RM.Example.com/v1?host=a.b" ∧
    @SupplierPolicy.permitsEndpoint GoLib.web { denyHosts := ["*.example.com:443"] }
      ⟨"pokt1a", fun _ ↦ some exampleURL.text⟩ .jsonRPC = false := by
  have htext : exampleURL.text = "https://me@RM.Example.com/v1?host=a.b" := by decide +kernel
  have hentry : exampleEntry.text = "*.example.com:443" := by decide +kernel
  have hnames : exampleEntry.Names exampleURL := by
    refine ⟨fun p hp ↦ ?_, ?_⟩
    · cases hp
      rfl
    · exact ⟨[['r', 'm']], by simp, by decide +kernel⟩
  obtain ⟨-, -, -, hpolicy, -⟩ := @host_policy_as_documented GoLib.web readsURLs_web
  refine ⟨htext, ?_⟩
  rw [Bool.eq_false_iff]
  intro hpermits
  have hverdict := (hpolicy exampleURL _ (readURL_text exampleURL)
    { denyHosts := ["*.example.com:443"] } [] [exampleEntry] rfl (by rw [List.map_singleton, hentry])
    ⟨"pokt1a", fun _ ↦ some exampleURL.text⟩ .jsonRPC rfl).mp hpermits
  exact hverdict.2.1 exampleEntry List.mem_cons_self hnames

end PocketAp.Domain
