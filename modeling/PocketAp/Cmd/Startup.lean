import PocketAp.Cmd.Wiring

/-!
# Flags

`src/cmd/pocket-ap/main.go:259–314` and `src/cmd/pocket-ap/call.go:272–350`. What the command
line adds to a configuration: `-network` repoints the full node after the file was loaded, and
`call` picks the service and the RPC type of its one relay. The warning for a network whose
relays cost something is left out.
-/

namespace PocketAp.Cmd

open PocketAp.Base PocketAp.Domain PocketAp.Config PocketAp.Pocket

/-- `src/domain/domain.go:34–41`. -/
def stateless : RPCType → Bool
  | .jsonRPC | .rest | .cometBFT | .grpc => true
  | _ => false

/-! ### The network -/

section Network

variable [GoLib]

/-- `src/config/config.go:243–250`. -/
def setNetwork (c : Config) (name : String) : Except Err Config :=
  match lookupNetwork name with
  | .error e => .error e
  | .ok n => .ok (applyNetwork c n)

/-- `src/cmd/pocket-ap/main.go:273–288`. -/
def applyNetworkFlag (cfg : Config) (name : String) : Except Err Config :=
  if name = "" then .ok cfg else setNetwork cfg name

/-- The configuration a command runs with, from a decoded file.
`src/cmd/pocket-ap/main.go:305–311`, `src/cmd/pocket-ap/call.go:105–111`. -/
def startConfig (env : String → String) (file : Config) (network : String) : Except Err Config :=
  match load env file with
  | .error e => .error e
  | .ok cfg => applyNetworkFlag cfg network

/-- The full node is that of a named network, reached over TLS. -/
def OnNetwork (name : String) (node : FullNode) : Prop :=
  ∃ n, networks (toLower (trimSpace name)) = some n ∧ node = ⟨n.grpcHostPort, false, n.rpcURL⟩

private theorem lookupNetwork_ok {name : String} {n : Network} (h : lookupNetwork name = .ok n) :
    networks (toLower (trimSpace name)) = some n := by
  unfold lookupNetwork at h
  split at h
  · cases h
  · next found =>
    cases h
    exact found

private theorem applyNetworkField_fullNode {c c' : Config} (h : applyNetworkField c = .ok c') :
    (c.network = "" ∧ c'.fullNode = c.fullNode) ∨
      (c.network ≠ "" ∧ c.fullNode.grpcHostPort = "" ∧ c.fullNode.rpcURL = "" ∧
        OnNetwork c.network c'.fullNode) := by
  unfold applyNetworkField at h
  split at h
  · next hnone =>
    cases h
    exact .inl ⟨hnone, rfl⟩
  · next hsome =>
    split at h
    · cases h
    · next n hn =>
      split at h
      · cases h
      · next hempty =>
        cases h
        rw [not_or, not_not, not_not] at hempty
        exact .inr ⟨hsome, hempty.1, hempty.2, n, lookupNetwork_ok hn, rfl⟩

omit [GoLib] in
private theorem applyKeyEnv_fullNode (env : String → String) (file : Config) :
    (applyKeyEnv env file).fullNode = file.fullNode ∧
      (applyKeyEnv env file).network = file.network := by
  unfold applyKeyEnv
  split
  · exact ⟨rfl, rfl⟩
  · dsimp only
    split <;> exact ⟨rfl, rfl⟩

private theorem validate_fullNode {c : Config} (h : validate c = .ok ()) :
    c.fullNode.grpcHostPort ≠ "" ∧ c.fullNode.rpcURL ≠ "" := by
  unfold validate at h
  split at h
  · cases h
  · split at h
    · cases h
    · split at h
      · cases h
      · split at h
        · cases h
        · next hgrpc =>
          split at h
          · cases h
          · next hrpc => exact ⟨hgrpc, hrpc⟩

private theorem load_fullNode {env : String → String} {file cfg : Config}
    (h : load env file = .ok cfg) : cfg.fullNode.grpcHostPort ≠ "" ∧ cfg.fullNode.rpcURL ≠ "" ∧
      ((file.network = "" ∧ cfg.fullNode = file.fullNode) ∨
        (file.network ≠ "" ∧ OnNetwork file.network cfg.fullNode)) := by
  unfold load at h
  split at h
  · cases h
  · next c hnet =>
    split at h
    · cases h
    · next hval =>
      cases h
      obtain ⟨hnode, hname⟩ := applyKeyEnv_fullNode env file
      have hfield := applyNetworkField_fullNode hnet
      rw [hnode, hname] at hfield
      refine ⟨(validate_fullNode hval).1, (validate_fullNode hval).2, ?_⟩
      rcases hfield with ⟨hnone, hkept⟩ | ⟨hsome, -, -, hon⟩
      · exact .inl ⟨hnone, hkept⟩
      · exact .inr ⟨hsome, hon⟩

/-- The two endpoints of the full node never come from different places: both are the file's
if neither the file nor the command line names a network, and otherwise both are those of the
network named last, reached over TLS. The flag changes nothing else, and it does not help a
file that could not be loaded without it. -/
theorem network_pair_together {env : String → String} {file cfg : Config} {network : String}
    (h : startConfig env file network = .ok cfg) :
    (network = "" → file.network = "" → cfg.fullNode = file.fullNode ∧
      file.fullNode.grpcHostPort ≠ "" ∧ file.fullNode.rpcURL ≠ "") ∧
    (network = "" → file.network ≠ "" → OnNetwork file.network cfg.fullNode) ∧
    (network ≠ "" → OnNetwork network cfg.fullNode) ∧
    ∃ loaded, load env file = .ok loaded ∧ cfg = { loaded with fullNode := cfg.fullNode } := by
  unfold startConfig at h
  split at h
  · cases h
  · next loaded hload =>
    obtain ⟨hgrpc, hrpc, hfrom⟩ := load_fullNode hload
    unfold applyNetworkFlag at h
    split at h
    · next hnone =>
      cases h
      refine ⟨fun _ hfile ↦ ?_, fun _ hfile ↦ ?_, fun hsome ↦ absurd hnone hsome, cfg, hload, rfl⟩
      · rcases hfrom with ⟨-, heq⟩ | ⟨hne, -⟩
        · exact ⟨heq, heq ▸ hgrpc, heq ▸ hrpc⟩
        · exact absurd hfile hne
      · rcases hfrom with ⟨heq, -⟩ | ⟨-, hon⟩
        · exact absurd heq hfile
        · exact hon
    · next hsome =>
      unfold setNetwork at h
      split at h
      · cases h
      · next n hn =>
        cases h
        exact ⟨fun hnone ↦ absurd hnone hsome, fun hnone ↦ absurd hnone hsome,
          fun _ ↦ ⟨n, lookupNetwork_ok hn, rfl⟩, loaded, hload, rfl⟩

end Network

/-- A file for one network, run on another. -/
theorem network_pair_together_switched :
    let _ : GoLib := GoLib.plain
    ∃ cfg, startConfig (fun _ ↦ "") { app := { privateKeyHex := "aa" }, network := "beta" } " Main" =
        .ok cfg ∧ OnNetwork " Main" cfg.fullNode ∧
      cfg.fullNode.rpcURL = "https://sauron-rpc.infra.pocket.network" := by
  let _ : GoLib := GoLib.plain
  obtain ⟨cfg, hcfg, hurl⟩ : ∃ cfg, startConfig (fun _ ↦ "")
      { app := { privateKeyHex := "aa" }, network := "beta" } " Main" = .ok cfg ∧
        cfg.fullNode.rpcURL = "https://sauron-rpc.infra.pocket.network" :=
    ⟨_, rfl, rfl⟩
  exact ⟨cfg, hcfg, (network_pair_together hcfg).2.2.1 (by decide), hurl⟩

/-! ### The target of a call -/

section Target

variable [Shannon] [GoLib]

/-- The types of the listeners for a service. `src/cmd/pocket-ap/call.go:304–313`. -/
def matchedTypes (serviceID : ServiceID) : List Listener → Except Err (List RPCType)
  | [] => .ok []
  | l :: ls =>
    match l.parsed with
    | .error e => .error e
    | .ok (lServiceID, lRPCType) =>
      match matchedTypes serviceID ls with
      | .error e => .error e
      | .ok matched => .ok (if lServiceID = serviceID then lRPCType :: matched else matched)

/-- `src/cmd/pocket-ap/call.go:279–293`. -/
def targetService (listeners : List Listener) (apps : List ResolvedApp) (service : String) :
    Except Err ServiceID :=
  let serviceID : Except Err ServiceID :=
    if service ≠ "" then .ok service
    else
      match apps, listeners with
      | [a], _ => .ok a.serviceID
      | _, [l] => .ok l.serviceID
      | _, _ => .error (.text ("call: -service is required (" ++ toString apps.length ++
          " apps and " ++ toString listeners.length ++
          " listeners are configured, so there is no unambiguous default)"))
  match serviceID with
  | .error e => .error e
  | .ok "" => .error (.text
      "call: -service is required (the matching listener declares no service_id)")
  | .ok serviceID => .ok serviceID

/-- `src/cmd/pocket-ap/call.go:295–319`. -/
def targetType (listeners : List Listener) (serviceID : ServiceID) (rpcTypeStr : String) :
    Except Err RPCType :=
  if rpcTypeStr ≠ "" then
    match parseRPCType rpcTypeStr with
    | .error e => .error (.errorf "call: " e)
    | .ok t => .ok t
  else
    match matchedTypes serviceID listeners with
    | .error e => .error e
    | .ok [t] => .ok t
    | .ok matched => .error (.text ("call: -rpc-type is required (" ++ toString matched.length ++
        " listeners serve " ++ serviceID ++ ", so there is no unambiguous default)"))

/-- The listeners have been resolved before. `src/cmd/pocket-ap/call.go:278–325`. -/
def resolveTarget (listeners : List Listener) (apps : List ResolvedApp)
    (service rpcTypeStr : String) : Except Err (ServiceID × RPCType) :=
  match targetService listeners apps service with
  | .error e => .error e
  | .ok serviceID =>
    match targetType listeners serviceID rpcTypeStr with
    | .error e => .error e
    | .ok rpcType =>
      if !stateless rpcType then
        .error (.text ("call: " ++ rpcType.string ++
          " is a streaming type, which has no one-shot form"))
      else .ok (serviceID, rpcType)

omit [Shannon] in
/-- Parsing a listener keeps its service. -/
theorem parsed_serviceID {l : Listener} {serviceID : ServiceID} {t : RPCType}
    (h : l.parsed = .ok (serviceID, t)) : serviceID = l.serviceID := by
  unfold Listener.parsed at h
  split at h
  · cases h
  · cases h
    rfl

omit [Shannon] in
/-- One type for each listener of the service, in their order. -/
theorem matchedTypes_ok {serviceID : ServiceID} {ls : List Listener} {matched : List RPCType}
    (h : matchedTypes serviceID ls = .ok matched) :
    List.Forall₂ (fun l t ↦ l.parsed = .ok (serviceID, t))
      (ls.filter fun l ↦ l.serviceID = serviceID) matched := by
  induction ls generalizing matched with
  | nil =>
    cases h
    exact .nil
  | cons l ls ih =>
    unfold matchedTypes at h
    split at h
    · cases h
    · next lServiceID lRPCType hl =>
      have hid := parsed_serviceID hl
      split at h
      · cases h
      · next rest hrest =>
        cases h
        by_cases heq : l.serviceID = serviceID
        · rw [List.filter_cons_of_pos (by simpa using heq), if_pos (hid.trans heq)]
          exact .cons (by rw [hl, hid, heq]) (ih hrest)
        · rw [List.filter_cons_of_neg (by simpa using heq), if_neg (hid ▸ heq)]
          exact ih hrest

omit [GoLib] in
private theorem targetService_ok {listeners : List Listener} {apps : List ResolvedApp}
    {service : String} {serviceID : ServiceID}
    (hl : ∀ l ∈ listeners, ∃ a ∈ apps, a.serviceID = l.serviceID)
    (h : targetService listeners apps service = .ok serviceID) :
    serviceID ≠ "" ∧ (service ≠ "" → serviceID = service) ∧
      (service = "" → serviceID ∈ serviceIDs apps) := by
  unfold targetService at h
  dsimp only at h
  split at h
  · cases h
  · cases h
  · next id hne hid =>
    cases h
    refine ⟨hne, fun hs ↦ ?_, fun hs ↦ ?_⟩
    · rw [if_pos hs] at hid
      cases hid
      rfl
    · rw [if_neg (not_not.mpr hs)] at hid
      split at hid
      · next a =>
        cases hid
        exact List.mem_singleton_self _
      · next l _ =>
        cases hid
        obtain ⟨a, ha, heq⟩ := hl l (List.mem_singleton_self l)
        exact List.mem_map.mpr ⟨a, ha, heq⟩
      · cases hid

omit [Shannon] in
private theorem targetType_ok {listeners : List Listener} {serviceID : ServiceID}
    {rpcTypeStr : String} {rpcType : RPCType}
    (h : targetType listeners serviceID rpcTypeStr = .ok rpcType) :
    (rpcTypeStr ≠ "" → parseRPCType rpcTypeStr = .ok rpcType) ∧
      (rpcTypeStr = "" → ∃ l, listeners.filter (fun l ↦ l.serviceID = serviceID) = [l] ∧
        l.parsed = .ok (serviceID, rpcType)) := by
  unfold targetType at h
  split at h
  · next hs =>
    refine ⟨fun _ ↦ ?_, fun hs' ↦ absurd hs' hs⟩
    split at h
    · cases h
    · next ht =>
      cases h
      exact ht
  · next hs =>
    refine ⟨fun hs' ↦ absurd hs' hs, fun _ ↦ ?_⟩
    split at h
    · cases h
    · next t ht =>
      cases h
      obtain ⟨l, rest, hl, hnil, heq⟩ := List.forall₂_cons_right_iff.mp (matchedTypes_ok ht)
      cases hnil
      exact ⟨l, heq, hl⟩
    · cases h

/-- `call` relays only for types that have a one-shot form. Without `-service` it takes a
service that one of the apps pays for; without `-rpc-type` it takes the type of the one
listener of that service, as `serve` would. -/
theorem call_defaults_as_served {apps : List ResolvedApp} {listeners resolved : List Listener}
    {service rpcTypeStr : String} {serviceID : ServiceID} {rpcType : RPCType}
    (hl : resolveListenerServices apps listeners = .ok resolved)
    (h : resolveTarget resolved apps service rpcTypeStr = .ok (serviceID, rpcType)) :
    stateless rpcType = true ∧ serviceID ≠ "" ∧
      (service ≠ "" → serviceID = service) ∧ (service = "" → serviceID ∈ serviceIDs apps) ∧
      (rpcTypeStr ≠ "" → parseRPCType rpcTypeStr = .ok rpcType) ∧
      (rpcTypeStr = "" → serviceID ∈ serviceIDs apps ∧
        ∃ l, resolved.filter (fun l ↦ l.serviceID = serviceID) = [l] ∧
          l.parsed = .ok (serviceID, rpcType)) := by
  have hserved := (resolveListenerServices_ok hl).1
  unfold resolveTarget at h
  split at h
  · cases h
  · next id hid =>
    split at h
    · cases h
    · next t ht =>
      split at h
      · cases h
      · next hst =>
        cases h
        obtain ⟨hne, hgiven, hdefault⟩ := targetService_ok hserved hid
        obtain ⟨hparsed, hone⟩ := targetType_ok ht
        refine ⟨by simpa using hst, hne, hgiven, hdefault, hparsed, fun hs ↦ ?_⟩
        obtain ⟨l, hfilter, hl⟩ := hone hs
        refine ⟨?_, l, hfilter, hl⟩
        have hmem : l ∈ resolved.filter fun l ↦ l.serviceID = serviceID :=
          hfilter ▸ List.mem_singleton_self l
        obtain ⟨hmem, heq⟩ := List.mem_filter.mp hmem
        obtain ⟨a, ha, hid⟩ := hserved l hmem
        exact List.mem_map.mpr ⟨a, ha, hid.trans (by simpa using heq)⟩

end Target

/-- One app and one listener that names no service. -/
theorem call_defaults_as_served_single :
    let _ : Shannon := Shannon.plain
    let _ : GoLib := GoLib.plain
    ∃ (apps : List ResolvedApp) (resolved : List Listener),
      resolveListenerServices apps [⟨"127.0.0.1:8545", "", "rest"⟩] = .ok resolved ∧
      resolveTarget resolved apps "" "" = .ok ("eth", .rest) ∧ "eth" ∈ serviceIDs apps := by
  let _ : Shannon := Shannon.plain
  let _ : GoLib := GoLib.plain
  let app : ResolvedApp := ⟨⟨"aaaaaaaaaaaaaaaaaaaaaaaaaaaaaaaa",
    "pokt1aaaaaaaaaaaaaaaaaaaaaaaaaaaaaaaa", rfl⟩, "pokt1aaaaaaaaaaaaaaaaaaaaaaaaaaaaaaaa", "eth", {}⟩
  have hl : resolveListenerServices [app] [⟨"127.0.0.1:8545", "", "rest"⟩] =
      .ok [⟨"127.0.0.1:8545", "eth", "rest"⟩] := rfl
  have ht : resolveTarget [⟨"127.0.0.1:8545", "eth", "rest"⟩] [app] "" "" = .ok ("eth", .rest) :=
    rfl
  exact ⟨[app], _, hl, ht, (call_defaults_as_served hl ht).2.2.2.1 rfl⟩

end PocketAp.Cmd
