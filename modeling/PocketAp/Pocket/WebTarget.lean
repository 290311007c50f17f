import PocketAp.Pocket.DialTarget

/-!
# Two framings of one endpoint

`src/pocket/grpc.go:305–351` against `src/pocket/grpc.go:378–409`. Auto mode goes from native
gRPC to gRPC-Web, and each has its own reader of an endpoint's URL: one makes a dial target of
host and port, the other a URL for `net/http`. What `net/url` renders is a parameter;
`RendersURLs` says what is relied on. A dial target means what `net.SplitHostPort` reads in it.
-/

namespace PocketAp.Pocket

open PocketAp.Base PocketAp.Domain PocketAp.Relay

/-- A host before its port, if it has one. -/
def cutPort (host : List Char) : List Char :=
  match lastIndex ':' host with
  | none => host
  | some i => if (host.drop (i + 1)).all isDigit then host.take i else host

/-- The address in a pair of brackets. -/
def cutBrackets (host : List Char) : List Char :=
  match host with
  | '[' :: rest => if rest.getLast? = some ']' then rest.dropLast else host
  | _ => host

/-- `(*url.URL).Hostname` of a host. -/
def urlHostname (host : String) : String := String.ofList (cutBrackets (cutPort host.toList))

/-- Where a relay goes. -/
structure Server where
  host : String
  port : String
  useTLS : Bool
  deriving DecidableEq, Repr

/-- The server of a dial target; `none` is an address that cannot be dialled. -/
def dialServer (target : String) (useTLS : Bool) : Option Server :=
  (splitHostPort? target).map fun hp ↦ ⟨hp.1, hp.2, useTLS⟩

/-- The server of a request's URL: `net/http` has a default port for either scheme. -/
def requestServer [GoLib] (url : String) : Option Server :=
  (GoLib.parseURL url).map fun u ↦
    let useTLS := decide (u.scheme = "https")
    ⟨urlHostname u.host, if urlPort u.host = "" then implicitPort useTLS else urlPort u.host, useTLS⟩

/-! ### Names of hosts -/

private theorem cutBrackets_of_bareHost {written bare : List Char} (h : BareHost written bare) :
    cutBrackets written = bare := by
  cases h with
  | name h =>
    unfold cutBrackets
    split
    · exact absurd List.mem_cons_self h.2.1
    · rfl
  | literal ho hc => simp [cutBrackets]

private theorem cutPort_of_digits (written : List Char) {digits : List Char}
    (h : digits.all isDigit = true) : cutPort (written ++ ':' :: digits) = written := by
  have hdrop : (written ++ ':' :: digits).drop (written.length + 1) = digits := by simp
  simp only [cutPort, lastIndex_append_cons written (plain_of_digits h).1, hdrop, h, if_true,
    List.take_left]

private theorem cutPort_of_bareHost {written bare : List Char} (h : BareHost written bare) :
    cutPort written = written := by
  unfold cutPort
  have hlast := lastIndex_cases ':' written
  generalize lastIndex ':' written = i at hlast ⊢
  cases hlast with
  | absent _ => rfl
  | @found xs ys hy =>
    -- The last colon stands inside the brackets, so no numeral follows it.
    have hdrop : (xs ++ ':' :: ys).drop (xs.length + 1) = ys := by simp
    have hclose : ys.all isDigit = false := by
      rw [Bool.eq_false_iff]
      intro hdigits
      exact (plain_of_digits hdigits).2.2 h.closes
    simp only [hdrop, hclose, Bool.false_eq_true, if_false]

/-! ### Dial targets -/

/-- A host with a port is dialled as it is written. -/
private theorem dialServer_written {host : String} (h : PortWritten host) (useTLS : Bool) :
    dialServer host useTLS = some ⟨urlHostname host, urlPort host, useTLS⟩ := by
  obtain ⟨written, bare, digits, hbare, -, hdigits, hhost⟩ := h
  have hsplit := splitHostPort?_of_bareHost hbare (plain_of_digits hdigits)
  rw [← hhost, String.ofList_toList] at hsplit
  rw [dialServer, hsplit, urlPort_of_digits hdigits hhost, urlHostname, hhost,
    cutPort_of_digits written hdigits, cutBrackets_of_bareHost hbare]
  rfl

/-- A host alone is dialled at the implicit port. -/
private theorem dialServer_leftOut {host : String} (h : PortLeftOut host) (useTLS : Bool) :
    dialServer (host ++ (":" ++ implicitPort useTLS)) useTLS =
      some ⟨urlHostname host, implicitPort useTLS, useTLS⟩ := by
  obtain ⟨bare, hbare⟩ := h
  rw [dialServer, splitHostPort?_implicitPort hbare, urlHostname, cutPort_of_bareHost hbare,
    cutBrackets_of_bareHost hbare]
  rfl

/-- What a URL with a scheme is dialled as. -/
private theorem dialServer_target_iff {host : String} (useTLS : Bool) :
    dialServer (if urlPort host = "" then host ++ (":" ++ implicitPort useTLS) else host) useTLS =
        some ⟨urlHostname host, if urlPort host = "" then implicitPort useTLS else urlPort host,
          useTLS⟩ ↔
      PortLeftOut host ∨ PortWritten host := by
  constructor
  · intro hdial
    obtain ⟨⟨name, port⟩, hsplit, -⟩ := Option.map_eq_some_iff.mp hdial
    by_cases hport : urlPort host = ""
    · rw [if_pos hport] at hsplit
      exact .inl ⟨_, (bareHost_of_implicitPort hsplit).1⟩
    · rw [if_neg hport] at hsplit
      exact .inr (portWritten_of_split hport hsplit)
  · rintro (hleft | hwritten)
    · rw [if_pos hleft.urlPort_eq, if_pos hleft.urlPort_eq]
      exact dialServer_leftOut hleft useTLS
    · rw [if_neg hwritten.urlPort_ne, if_neg hwritten.urlPort_ne]
      exact dialServer_written hwritten useTLS

section Framings

variable [GoLib]

/-- A rendered URL has the scheme it was given and the host of the endpoint. -/
structure RendersURLs (withPath : String → String → String) : Prop where
  parse : ∀ url u scheme, GoLib.parseURL url = some u → u.host ≠ "" →
    scheme = "http" ∨ scheme = "https" →
    GoLib.parseURL (withPath url scheme) = some ⟨scheme, u.host⟩

/-- A host and a port, also when `url.Parse` reads them after `http://`. -/
structure BareAddress (url : String) : Prop where
  hostPort : PortWritten url
  parse : GoLib.parseURL ("http://" ++ url ++ relayServiceMethodPath) = some ⟨"http", url⟩

/-- The dial target and the request's URL lead to one server. -/
def SameServer (target : String) (useTLS : Bool) (webURL : String) : Prop :=
  ∃ server, dialServer target useTLS = some server ∧ requestServer webURL = some server

/-- The host of a URL stands alone or has a port, which is not empty. -/
def PortLeftOutOrWritten (url : String) : Prop :=
  contains url "://" = true →
    ∃ u, GoLib.parseURL url = some u ∧ (PortLeftOut u.host ∨ PortWritten u.host)

variable {parseError : String → Err} {withPath : String → String → String} {url : String}

omit [GoLib] in
private theorem contains_empty : contains "" "://" = false := by decide +kernel

/-- Either reader accepts what the other does. -/
private theorem grpcTarget_accepts_iff :
    (∃ target, grpcTarget parseError url = .ok target) ↔
      ∃ webURL, grpcWebURL parseError withPath url = .ok webURL := by
  unfold grpcTarget grpcWebURL
  by_cases hempty : url = ""
  · simp [hempty, contains_empty]
  · cases hscheme : contains url "://" with
    | false => simp [hempty]
    | true =>
      simp only [hempty, Bool.not_true, Bool.false_eq_true, if_false]
      cases GoLib.parseURL url with
      | none => simp
      | some u =>
        cases htls : grpcTLS (toLower u.scheme) with
        | none => simp [htls]
        | some useTLS => by_cases hhost : u.host = "" <;> simp [htls, hhost]

private theorem grpcWebURL_eq {u : URL} {useTLS : Bool} (hscheme : contains url "://" = true)
    (hu : GoLib.parseURL url = some u) (htls : grpcTLS (toLower u.scheme) = some useTLS)
    (hhost : u.host ≠ "") :
    grpcWebURL parseError withPath url =
      .ok (withPath url (if useTLS then "https" else "http")) := by
  have hne : url ≠ "" := by
    rintro rfl
    rw [contains_empty] at hscheme
    cases hscheme
  simp [grpcWebURL, hne, hscheme, hu, htls, hhost]

private theorem requestServer_withPath (hrender : RendersURLs withPath) {u : URL}
    (hu : GoLib.parseURL url = some u) (hhost : u.host ≠ "") (useTLS : Bool) :
    requestServer (withPath url (if useTLS then "https" else "http")) =
      some ⟨urlHostname u.host,
        if urlPort u.host = "" then implicitPort useTLS else urlPort u.host, useTLS⟩ := by
  rw [requestServer, hrender.parse url u _ hu hhost (by cases useTLS <;> simp)]
  cases useTLS <;> rfl

private theorem sameServer_bare (h : BareAddress url) :
    SameServer url false ("http://" ++ url ++ relayServiceMethodPath) := by
  refine ⟨_, dialServer_written h.hostPort false, ?_⟩
  simp [requestServer, h.parse, h.hostPort.urlPort_ne]

/-- The readers accept the same URLs, and what they accept leads to one server exactly when the
URL's port is left out or written, and not an empty one. -/
theorem grpcTarget_grpcWebURL_sameServer_iff (parseError : String → Err)
    (withPath : String → String → String) (hrender : RendersURLs withPath) (url : String)
    (hbare : contains url "://" = false → url ≠ "" → BareAddress url) :
    ((∃ target, grpcTarget parseError url = .ok target) ↔
        ∃ webURL, grpcWebURL parseError withPath url = .ok webURL) ∧
      ∀ target useTLS webURL, grpcTarget parseError url = .ok (target, useTLS) →
        grpcWebURL parseError withPath url = .ok webURL →
        (SameServer target useTLS webURL ↔ PortLeftOutOrWritten url) := by
  refine ⟨grpcTarget_accepts_iff, fun target useTLS webURL htarget hweb ↦ ?_⟩
  cases hscheme : contains url "://" with
  | false =>
    have hne : url ≠ "" := by
      rintro rfl
      simp [grpcTarget, contains_empty] at htarget
    simp only [grpcTarget, hscheme, hne, Bool.not_false, if_true, if_false, Except.ok.injEq,
      Prod.mk.injEq] at htarget
    simp only [grpcWebURL, hscheme, hne, Bool.not_false, if_true, if_false, Except.ok.injEq]
      at hweb
    obtain ⟨rfl, rfl⟩ := htarget
    subst hweb
    constructor
    · intro _ hcontains
      rw [hscheme] at hcontains
      cases hcontains
    · intro _
      exact sameServer_bare (hbare hscheme hne)
  | true =>
    obtain ⟨u, hu, htls, hhost, rfl⟩ := grpcTarget_eq_ok hscheme htarget
    rw [grpcWebURL_eq hscheme hu htls hhost, Except.ok.injEq] at hweb
    subst hweb
    have hregular : PortLeftOutOrWritten url ↔ PortLeftOut u.host ∨ PortWritten u.host := by
      simp [PortLeftOutOrWritten, hscheme, hu]
    rw [hregular, ← dialServer_target_iff useTLS, SameServer,
      requestServer_withPath hrender hu hhost useTLS]
    constructor
    · rintro ⟨server, hdial, hrequest⟩
      rw [hdial, hrequest]
    · intro hdial
      exact ⟨_, hdial, rfl⟩

end Framings

/-- URLs as `GoLib.plain` reads them, rendered. -/
def renderPlain (url scheme : String) : String :=
  match GoLib.plain.parseURL url with
  | none => url
  | some u => scheme ++ "://" ++ u.host ++ relayServiceMethodPath

private theorem rendersURLs_renderPlain : @RendersURLs GoLib.plain renderPlain := by
  let _ : GoLib := GoLib.plain
  constructor
  intro url u scheme hu hhost hscheme
  have hslash : '/' ∉ u.host.toList := by
    simp only [GoLib.parseURL] at hu
    split at hu
    · cases hu
      intro hmem
      rw [String.toList_ofList] at hmem
      simpa using List.all_eq_true.mp List.all_takeWhile _ hmem
    · cases hu
  have hrest : (u.host.toList ++ relayServiceMethodPath.toList).takeWhile (· ≠ '/') =
      u.host.toList := by
    have hpath : relayServiceMethodPath.toList.takeWhile (· ≠ '/') = [] := by decide +kernel
    rw [List.takeWhile_append_of_pos, hpath, List.append_nil]
    intro c hc
    exact decide_eq_true fun heq ↦ hslash (heq ▸ hc)
  have htext : (renderPlain url scheme).toList =
      scheme.toList ++ ':' :: '/' :: '/' :: (u.host.toList ++ relayServiceMethodPath.toList) := by
    simp only [renderPlain, hu]
    simp
  have hcolon : (scheme.toList ++ ':' :: '/' :: '/' :: (u.host.toList ++
      relayServiceMethodPath.toList)).takeWhile (· ≠ ':') = scheme.toList := by
    rcases hscheme with rfl | rfl <;> rfl
  simp only [GoLib.parseURL, htext, hcolon, List.drop_left, hrest, String.ofList_toList]

/-- Both modes reach the same server with an address literal. -/
theorem grpcTarget_grpcWebURL_sameServer_literal :
    let _ : GoLib := GoLib.plain
    SameServer "[::1]:443" true "https://[::1]/pocket.service.RelayService/SendRelay" ∧
      SameServer "127.0.0.1:80" false
        "http://127.0.0.1:80/pocket.service.RelayService/SendRelay" := by
  let _ : GoLib := GoLib.plain
  have hbare : BareAddress "127.0.0.1:80" :=
    ⟨⟨"127.0.0.1".toList, "127.0.0.1".toList, "80".toList, .name (by decide), by decide,
      by decide, by decide⟩, by decide +kernel⟩
  constructor
  · refine ((grpcTarget_grpcWebURL_sameServer_iff (fun _ ↦ .text "") renderPlain
      rendersURLs_renderPlain "HTTPS://[::1]/x" (fun h ↦ absurd h (by decide +kernel))).2 _ _ _ (by rfl)
      (by rfl)).mpr fun _ ↦ ⟨⟨"HTTPS", "[::1]"⟩, by decide +kernel, .inl ⟨"::1".toList, ?_⟩⟩
    exact @BareHost.literal "::1".toList (by decide) (by decide)
  · exact ((grpcTarget_grpcWebURL_sameServer_iff (fun _ ↦ .text "") renderPlain
      rendersURLs_renderPlain "127.0.0.1:80" (fun _ _ ↦ hbare)).2 _ _ _ (by rfl)
      (by rfl)).mpr fun h ↦ absurd h (by decide +kernel)

/-- An empty port is dialled as a part of the host, and requested at port 80. -/
theorem empty_port_dialled_apart :
    let _ : GoLib := GoLib.plain
    grpcTarget (fun _ ↦ .text "") "http://h:/" = .ok ("h::80", false) ∧
      grpcWebURL (fun _ ↦ .text "") renderPlain "http://h:/" =
        .ok "http://h:/pocket.service.RelayService/SendRelay" ∧
      requestServer "http://h:/pocket.service.RelayService/SendRelay" =
        some ⟨"h", "80", false⟩ ∧
      ¬ SameServer "h::80" false "http://h:/pocket.service.RelayService/SendRelay" := by
  let _ : GoLib := GoLib.plain
  refine ⟨by rfl, by rfl, by decide +kernel, ?_⟩
  rintro ⟨server, hdial, -⟩
  rw [show dialServer "h::80" false = none by decide +kernel] at hdial
  cases hdial

end PocketAp.Pocket
