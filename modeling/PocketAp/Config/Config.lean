import Mathlib.Logic.Function.Basic
import PocketAp.Domain.Supplier

/-!
# Configuration

`src/config/config.go`, `src/config/networks.go`. `load` starts from the decoded file: reading
it and decoding YAML are outside. The environment is a function, the empty string for a
variable that is not set. `load_keeps_iff` says when nothing the file says about an app is
lost on the way to `appList`.
-/

namespace PocketAp

namespace Config

/-- `src/config/config.go:110–124`. -/
structure SupplierPolicy where
  allow : List String := []
  deny : List String := []
  allowHosts : List String := []
  denyHosts : List String := []
  deriving DecidableEq, Repr

/-- `src/config/config.go:60–91`. -/
structure App where
  privateKeyHex : String := ""
  serviceID : String := ""
  suppliers : SupplierPolicy := {}
  deriving DecidableEq, Repr

/-- `src/config/config.go:128–132`. -/
structure FullNode where
  grpcHostPort : String := ""
  grpcInsecure : Bool := false
  rpcURL : String := ""
  deriving DecidableEq, Repr

/-- A front listener, as far as it is checked here. `src/config/config.go:136–174`. -/
structure Listener where
  addr : String := ""
  serviceID : String := ""
  rpcType : String := ""
  deriving DecidableEq, Repr

end Config

/-- `src/config/config.go:16–47`. -/
structure Config where
  app : Config.App := {}
  apps : List Config.App := []
  fullNode : Config.FullNode := {}
  listeners : List Config.Listener := []
  grpcMode : String := ""
  network : String := ""
  deriving DecidableEq, Repr

namespace Config

open PocketAp.Base PocketAp.Domain

/-! ### Named networks -/

/-- `src/config/networks.go:20–34`; only the endpoints are read here. -/
structure Network where
  grpcHostPort : String
  rpcURL : String
  deriving DecidableEq, Repr

/-- `src/config/networks.go:41–53`. -/
def networks (name : String) : Option Network :=
  if name = "beta" then
    some ⟨"sauron-grpc.beta.infra.pocket.network:443", "https://sauron-rpc.beta.infra.pocket.network"⟩
  else if name = "main" then
    some ⟨"sauron-grpc.infra.pocket.network:443", "https://sauron-rpc.infra.pocket.network"⟩
  else none

/-- `src/config/networks.go:56–63`. -/
def networkNames : List String := ["beta", "main"]

/-- `src/config/networks.go:68–74`. -/
def lookupNetwork [GoLib] (name : String) : Except Err Network :=
  match networks (toLower (trimSpace name)) with
  | none => .error (.text ("unknown network " ++ GoLib.quote name ++ ": want one of " ++
      ", ".intercalate networkNames))
  | some n => .ok n

/-- `src/config/networks.go:82–86`. -/
def applyNetwork (c : Config) (n : Network) : Config :=
  { c with fullNode := ⟨n.grpcHostPort, false, n.rpcURL⟩ }

/-- `src/config/config.go:221–235`. -/
def applyNetworkField [GoLib] (c : Config) : Except Err Config :=
  if c.network = "" then .ok c
  else
    match lookupNetwork c.network with
    | .error e => .error (.errorf "config: " e)
    | .ok n =>
      if c.fullNode.grpcHostPort ≠ "" ∨ c.fullNode.rpcURL ≠ "" then
        .error (.text ("config: network: " ++ GoLib.quote c.network ++ " and fullnode endpoints " ++
          "are both set — remove one; network sets fullnode.grpc_host_port and " ++
          "fullnode.rpc_url for you (" ++ n.grpcHostPort ++ ", " ++ n.rpcURL ++ ")"))
      else .ok (applyNetwork c n)

/-! ### Apps -/

/-- The keys in `POCKET_APP_PRIVATE_KEYS`. `src/config/config.go:262–266`. -/
def splitKeys (keys : String) : List String :=
  ((splitAt ',' keys).map trimSpace).filter (· ≠ "")

/-- `src/config/config.go:257–270`. -/
def applyKeyEnv (env : String → String) (c : Config) : Config :=
  if c.apps ≠ [] ∨ c.app.privateKeyHex ≠ "" then c
  else
    let keys := env "POCKET_APP_PRIVATE_KEYS"
    if keys ≠ "" then
      { c with apps := c.apps ++ (splitKeys keys).map fun k ↦ { privateKeyHex := k } }
    else { c with app := { c.app with privateKeyHex := env "POCKET_APP_PRIVATE_KEY" } }

/-- `src/config/config.go:274–282`. -/
def appList (c : Config) : List App :=
  if c.apps ≠ [] then c.apps
  else if c.app.privateKeyHex ≠ "" then [c.app]
  else []

section Validate

variable [GoLib]

/-- `src/config/config.go:177–183`. -/
def Listener.parsed (l : Listener) : Except Err (ServiceID × RPCType) :=
  match parseRPCType l.rpcType with
  | .error e => .error (.errorf ("listener " ++ l.addr ++ ": ") e)
  | .ok t => .ok (l.serviceID, t)

/-- An entry that a check refuses, reported with the app it belongs to. -/
def checkEntry (pre : String) (check : String → Except Err Unit) (entry : String) :
    Except Err Unit :=
  match check entry with
  | .error e => .error (.errorf pre e)
  | .ok () => .ok ()

/-- The lists of one app. `src/config/config.go:343–356`. -/
def validateSuppliers (i : Nat) (p : SupplierPolicy) : Except Err Unit :=
  match firstError (checkEntry ("config: apps[" ++ toString i ++ "] supplier ")
      validateSupplierAddr) (p.allow ++ p.deny) with
  | .error e => .error e
  | .ok () => firstError (checkEntry ("config: apps[" ++ toString i ++ "] supplier host ")
      validateHostPattern) (p.allowHosts ++ p.denyHosts)

/-- The loop over the apps from the `i`-th on. `src/config/config.go:326–357`. -/
def validateAppsFrom (i : Nat) (seenKey : String → Option Nat) : List App → Except Err Unit
  | [] => .ok ()
  | a :: apps =>
    if a.privateKeyHex = "" then
      .error (.text ("config: apps[" ++ toString i ++ "] has no private_key_hex"))
    else
      match seenKey a.privateKeyHex with
      | some prev =>
        .error (.text ("config: apps[" ++ toString i ++ "] repeats the key already used by apps[" ++
          toString prev ++ "]"))
      | none =>
        match validateSuppliers i a.suppliers with
        | .error e => .error e
        | .ok () => validateAppsFrom (i + 1) (Function.update seenKey a.privateKeyHex (some i)) apps

/-- `src/config/config.go:324–359`. -/
def validateApps (c : Config) : Except Err Unit := validateAppsFrom 0 (fun _ ↦ none) c.appList

/-- `src/config/config.go:313–320`. -/
def validateListener (l : Listener) : Except Err Unit :=
  if l.addr = "" then .error (.text "config: listener needs an addr")
  else
    match l.parsed with
    | .error e => .error e
    | .ok _ => .ok ()

/-- `src/config/config.go:284–322`. -/
def validate (c : Config) : Except Err Unit :=
  if c.apps ≠ [] ∧ c.app.privateKeyHex ≠ "" then
    .error (.text ("config: set either app or apps, not both — with both, which key signs a " ++
      "relay would depend on load order"))
  else if c.appList = [] then
    .error (.text ("config: no app key — set app.private_key_hex, apps[].private_key_hex, " ++
      "POCKET_APP_PRIVATE_KEY or POCKET_APP_PRIVATE_KEYS"))
  else
    match c.validateApps with
    | .error e => .error e
    | .ok () =>
      if c.fullNode.grpcHostPort = "" then
        .error (.text "config: fullnode.grpc_host_port required")
      else if c.fullNode.rpcURL = "" then .error (.text "config: fullnode.rpc_url required")
      else if c.grpcMode ∉ ["", "native", "web"] then
        .error (.text ("config: grpc_mode " ++ GoLib.quote c.grpcMode ++
          ": want \"\" (auto), \"native\" or \"web\""))
      else firstError validateListener c.listeners

/-- What becomes of a decoded file. `src/config/config.go:187–211`. -/
def load (env : String → String) (file : Config) : Except Err Config :=
  match applyNetworkField (applyKeyEnv env file) with
  | .error e => .error e
  | .ok cfg =>
    match validate cfg with
    | .error e => .error e
    | .ok () => .ok cfg

end Validate

/-! ### What a loaded configuration keeps -/

/-- A block that says something besides its key. -/
def App.Says (b : App) : Prop := b.serviceID ≠ "" ∨ b.suppliers ≠ {}

instance : DecidablePred App.Says := fun _ ↦ inferInstanceAs (Decidable (_ ∨ _))

/-- Two blocks that say the same besides their keys. -/
def App.Agrees (a b : App) : Prop := a.serviceID = b.serviceID ∧ a.suppliers = b.suppliers

instance (a b : App) : Decidable (a.Agrees b) := inferInstanceAs (Decidable (_ ∧ _))

section Kept

variable [GoLib]

/-- Every entry passes the check of its list. -/
structure SupplierPolicy.Validated (p : SupplierPolicy) : Prop where
  addrs : ∀ addr ∈ p.allow ++ p.deny, validateSupplierAddr addr = .ok ()
  hosts : ∀ pattern ∈ p.allowHosts ++ p.denyHosts, validateHostPattern pattern = .ok ()

/-- Nothing the file says about an app is lost: each block that says something is in the list
of apps, with its lists checked, and each block with a key is there with that key. -/
structure Keeps (file cfg : Config) : Prop where
  said : ∀ b ∈ file.app :: file.apps, b.Says →
    ∃ a ∈ cfg.appList, a.Agrees b ∧ a.suppliers.Validated
  keyed : ∀ b ∈ file.app :: file.apps, b.privateKeyHex ≠ "" → b ∈ cfg.appList

/-- The single app's block has a key in the file, or says nothing, or is the only place to look
for a key, or repeats what an entry of the other form says. -/
def Heeded (env : String → String) (file : Config) : Prop :=
  file.app.privateKeyHex ≠ "" ∨ ¬file.app.Says ∨
    (file.apps = [] ∧ env "POCKET_APP_PRIVATE_KEYS" = "") ∨ ∃ a ∈ file.apps, a.Agrees file.app

private theorem applyNetworkField_appList {c c' : Config} (h : applyNetworkField c = .ok c') :
    c'.appList = c.appList ∧ c'.apps = c.apps ∧ c'.app = c.app := by
  unfold applyNetworkField at h
  split at h
  · cases h
    exact ⟨rfl, rfl, rfl⟩
  · split at h
    · cases h
    · split at h
      · cases h
      · cases h
        exact ⟨rfl, rfl, rfl⟩

omit [GoLib] in
private theorem checkEntry_ok {pre entry : String} {check : String → Except Err Unit}
    (h : checkEntry pre check entry = .ok ()) : check entry = .ok () := by
  unfold checkEntry at h
  split at h
  · cases h
  · assumption

private theorem validateSuppliers_ok {i : Nat} {p : SupplierPolicy}
    (h : validateSuppliers i p = .ok ()) : p.Validated := by
  unfold validateSuppliers at h
  split at h
  · cases h
  · next haddrs =>
    constructor
    · intro addr hmem
      exact checkEntry_ok (firstError_ok haddrs addr hmem)
    · intro pattern hmem
      exact checkEntry_ok (firstError_ok h pattern hmem)

private theorem validateAppsFrom_ok {i : Nat} {seenKey : String → Option Nat} {apps : List App}
    (h : validateAppsFrom i seenKey apps = .ok ()) : ∀ a ∈ apps, a.suppliers.Validated := by
  induction apps generalizing i seenKey with
  | nil => simp
  | cons a apps ih =>
    unfold validateAppsFrom at h
    split at h
    · cases h
    · split at h
      · cases h
      · split at h
        · cases h
        · next ha =>
          intro b hb
          rcases List.mem_cons.mp hb with rfl | hb
          · exact validateSuppliers_ok ha
          · exact ih h b hb

private theorem validate_ok {c : Config} (h : validate c = .ok ()) :
    (c.apps = [] ∨ c.app.privateKeyHex = "") ∧ c.appList ≠ [] ∧
      ∀ a ∈ c.appList, a.suppliers.Validated := by
  unfold validate at h
  split at h
  · cases h
  · next hboth =>
    split at h
    · cases h
    · next hsome =>
      split at h
      · cases h
      · next happs =>
        refine ⟨?_, hsome, validateAppsFrom_ok happs⟩
        by_cases happs : c.apps = []
        · exact .inl happs
        · right
          by_contra hkey
          exact hboth ⟨happs, hkey⟩

/-- What a successful load says about the configuration it started from. -/
theorem load_ok {env : String → String} {file cfg : Config} (h : load env file = .ok cfg) :
    cfg.appList = (applyKeyEnv env file).appList ∧
      ((applyKeyEnv env file).apps = [] ∨ (applyKeyEnv env file).app.privateKeyHex = "") ∧
      cfg.appList ≠ [] ∧ ∀ a ∈ cfg.appList, a.suppliers.Validated := by
  unfold load at h
  split at h
  · cases h
  · next c hnet =>
    split at h
    · cases h
    · next hval =>
      cases h
      obtain ⟨hlist, happs, happ⟩ := applyNetworkField_appList hnet
      rw [← happs, ← happ]
      exact ⟨hlist, validate_ok hval⟩

omit [GoLib] in
/-- Where the list of apps comes from. -/
theorem applyKeyEnv_appList (env : String → String) (file : Config) :
    (file.apps ≠ [] ∧ (applyKeyEnv env file).appList = file.apps) ∨
    (file.apps = [] ∧ file.app.privateKeyHex ≠ "" ∧
      (applyKeyEnv env file).appList = [file.app]) ∨
    (file.apps = [] ∧ file.app.privateKeyHex = "" ∧ env "POCKET_APP_PRIVATE_KEYS" ≠ "" ∧
      ∀ a ∈ (applyKeyEnv env file).appList, ¬a.Says) ∨
    (file.apps = [] ∧ file.app.privateKeyHex = "" ∧ env "POCKET_APP_PRIVATE_KEYS" = "" ∧
      ∀ a ∈ (applyKeyEnv env file).appList, a.Agrees file.app) := by
  by_cases happs : file.apps = []
  · right
    by_cases hkey : file.app.privateKeyHex = ""
    · right
      by_cases henv : env "POCKET_APP_PRIVATE_KEYS" = ""
      · right
        refine ⟨happs, hkey, henv, ?_⟩
        simp only [applyKeyEnv, happs, hkey, henv, ne_eq, not_true_eq_false, or_self, if_false,
          appList]
        intro a ha
        split at ha
        · rw [List.mem_singleton.mp ha]
          exact ⟨rfl, rfl⟩
        · cases ha
      · left
        refine ⟨happs, hkey, henv, ?_⟩
        simp only [applyKeyEnv, happs, hkey, henv, ne_eq, not_true_eq_false, or_self, if_false,
          not_false_eq_true, if_true, List.nil_append, appList]
        intro a ha
        split at ha
        · obtain ⟨k, -, rfl⟩ := List.mem_map.mp ha
          simp [App.Says]
        · cases ha
    · left
      refine ⟨happs, hkey, ?_⟩
      simp [applyKeyEnv, appList, happs, hkey]
  · left
    refine ⟨happs, ?_⟩
    simp [applyKeyEnv, appList, happs]

omit [GoLib] in
private theorem App.Says.of_agrees {a b : App} (h : a.Agrees b) (hb : b.Says) : a.Says := by
  unfold App.Says
  rwa [h.1, h.2]

/-- Loading keeps what the file says about every app exactly when the block of the single app
is heeded. -/
theorem load_keeps_iff {env : String → String} {file cfg : Config}
    (h : load env file = .ok cfg) : Keeps file cfg ↔ Heeded env file := by
  obtain ⟨hlist, hexcl, hne, hvalid⟩ := load_ok h
  have hkeep (hsaid : file.app.Says → ∃ a ∈ cfg.appList, a.Agrees file.app)
      (hkeyed : file.app.privateKeyHex ≠ "" → file.app ∈ cfg.appList)
      (happs : ∀ b ∈ file.apps, b ∈ cfg.appList) : Keeps file cfg := by
    constructor
    · intro b hb hsays
      rcases List.mem_cons.mp hb with rfl | hb
      · obtain ⟨a, ha, hag⟩ := hsaid hsays
        exact ⟨a, ha, hag, hvalid a ha⟩
      · exact ⟨b, happs b hb, ⟨rfl, rfl⟩, hvalid b (happs b hb)⟩
    · intro b hb hkey
      rcases List.mem_cons.mp hb with rfl | hb
      · exact hkeyed hkey
      · exact happs b hb
  rcases applyKeyEnv_appList env file with ⟨happs, hl⟩ | ⟨happs, hkey, hl⟩ |
    ⟨happs, hkey, henv, hl⟩ | ⟨happs, hkey, henv, hl⟩
  · -- Several apps: the single app's block is not looked at, and has no key.
    have hcfg : cfg.appList = file.apps := hlist.trans hl
    have hsame : applyKeyEnv env file = file := by simp [applyKeyEnv, happs]
    rw [hsame] at hexcl
    have hnokey : file.app.privateKeyHex = "" := hexcl.resolve_left happs
    constructor
    · intro hkeeps
      by_cases hsays : file.app.Says
      · obtain ⟨a, ha, hag, -⟩ := hkeeps.said file.app List.mem_cons_self hsays
        rw [hcfg] at ha
        exact .inr (.inr (.inr ⟨a, ha, hag⟩))
      · exact .inr (.inl hsays)
    · intro hheeded
      apply hkeep
      · intro hsays
        rcases hheeded with hk | hs | ⟨he, -⟩ | hag
        · exact absurd hnokey hk
        · exact absurd hsays hs
        · exact absurd he happs
        · rwa [hcfg]
      · exact fun hk ↦ absurd hnokey hk
      · intro b hb
        rwa [hcfg]
  · have hcfg : cfg.appList = [file.app] := hlist.trans hl
    refine iff_of_true (hkeep ?_ ?_ ?_) (.inl hkey)
    · exact fun _ ↦ ⟨file.app, by simp [hcfg], rfl, rfl⟩
    · simp [hcfg]
    · simp [happs]
  · -- Keys from the environment: apps that say nothing.
    rw [← hlist] at hl
    constructor
    · intro hkeeps
      refine .inr (.inl fun hsays ↦ ?_)
      obtain ⟨a, ha, hag, -⟩ := hkeeps.said file.app List.mem_cons_self hsays
      exact hl a ha (App.Says.of_agrees hag hsays)
    · intro hheeded
      refine hkeep ?_ (fun hk ↦ absurd hkey hk) (by simp [happs])
      intro hsays
      rcases hheeded with hk | hs | ⟨-, he⟩ | ⟨a, ha, -⟩
      · exact absurd hkey hk
      · exact absurd hsays hs
      · exact absurd he henv
      · simp [happs] at ha
  · -- One key from the environment goes to the block.
    rw [← hlist] at hl
    refine iff_of_true (hkeep ?_ (fun hk ↦ absurd hkey hk) (by simp [happs]))
      (.inr (.inr (.inl ⟨happs, henv⟩)))
    intro _
    obtain ⟨a, ha⟩ := List.exists_mem_of_ne_nil _ hne
    exact ⟨a, ha, hl a ha⟩

end Kept

section Closed

/-- A block without a key that refuses a supplier. -/
def denying : Config where
  app := { serviceID := "eth", suppliers := { deny := ["pokt1bad"] } }
  fullNode := ⟨"node:9090", false, "http://node"⟩

/-- An environment with one variable set. -/
def envWith (name value : String) : String → String := fun n ↦ if n = name then value else ""

/-- With the key in the environment, the block keeps its service and its list. -/
theorem load_keeps_iff_denying :
    let _ : GoLib := GoLib.plain
    ∃ cfg, load (envWith "POCKET_APP_PRIVATE_KEY" "k") denying = .ok cfg ∧
      Keeps denying cfg := by
  let _ : GoLib := GoLib.plain
  have h : load (envWith "POCKET_APP_PRIVATE_KEY" "k") denying =
      .ok { denying with app := { denying.app with privateKeyHex := "k" } } := by decide +kernel
  exact ⟨_, h, (load_keeps_iff h).mpr (.inr (.inr (.inl ⟨rfl, rfl⟩)))⟩

/-- With the key in the other variable, the block is dropped and its list with it. -/
theorem denied_dropped :
    let _ : GoLib := GoLib.plain
    ∃ cfg, load (envWith "POCKET_APP_PRIVATE_KEYS" "k") denying = .ok cfg ∧
      cfg.appList = [{ privateKeyHex := "k" }] ∧ ¬Keeps denying cfg := by
  let _ : GoLib := GoLib.plain
  refine ⟨{ denying with apps := [{ privateKeyHex := "k" }] }, by decide +kernel, rfl, ?_⟩
  intro hkeeps
  obtain ⟨a, ha, hag, -⟩ := hkeeps.said denying.app List.mem_cons_self (by decide)
  rw [List.mem_singleton.mp ha] at hag
  exact absurd hag (by decide)

end Closed

end Config

end PocketAp
