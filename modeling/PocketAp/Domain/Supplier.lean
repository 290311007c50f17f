import PocketAp.Domain.Domain

/-!
# Supplier policies

`src/domain/supplier.go`. A policy permits a supplier by address and an endpoint by the
host of the URL it serves the RPC type on. The context of a request carries at most one
policy; nothing else of it is read by a selector.
-/

namespace PocketAp.Domain

open PocketAp.Base

/-- `src/domain/supplier.go:15`. -/
def supplierAddrPrefix : String := "pokt1"

/-- Allow and deny lists by address and by host. `src/domain/supplier.go:57–72`. -/
structure SupplierPolicy where
  allow : List EndpointAddr := []
  deny : List EndpointAddr := []
  allowHosts : List String := []
  denyHosts : List String := []
  deriving DecidableEq, Repr

/-- What a request's context carries for the selector. -/
structure Context where
  supplierPolicy : Option SupplierPolicy := none

/-- `src/domain/supplier.go:143–146`, with the keys lower-cased by the caller. -/
def defaultPort (scheme : String) : String :=
  if scheme = "http" ∨ scheme = "ws" then "80"
  else if scheme = "https" ∨ scheme = "wss" then "443"
  else ""

section Hosts

variable [GoLib]

/-- `src/domain/supplier.go:163–168`. -/
def splitHostPort (hostPort : String) : String × String :=
  match splitHostPort? hostPort with
  | some (h, p) => (toLower h, p)
  | none => (toLower (trimSet ['[', ']'] hostPort), "")

/-- `src/domain/supplier.go:149–159`; `none` is the result `ok = false`. -/
def hostPortOfURL (rawURL : String) : Option (String × String) :=
  match GoLib.parseURL rawURL with
  | none => none
  | some u =>
    if u.host = "" then none
    else
      let hp := splitHostPort u.host
      some (hp.1, if hp.2 = "" then defaultPort (toLower u.scheme) else hp.2)

/-- `src/domain/supplier.go:179–191`. -/
def hostMatches (host port pattern : String) : Bool :=
  let p := splitHostPort (trimSpace pattern)
  if p.2 ≠ "" ∧ p.2 ≠ port then false
  else
    match cutPrefix p.1 "*" with
    | some suffix => hasSuffix host suffix
    | none => decide (host = p.1)

namespace SupplierPolicy

omit [GoLib] in
/-- `src/domain/supplier.go:74–77`. -/
def empty (p : SupplierPolicy) : Bool :=
  p.allow.isEmpty && p.deny.isEmpty && p.allowHosts.isEmpty && p.denyHosts.isEmpty

omit [GoLib] in
/-- `src/domain/supplier.go:80–95`. -/
def permits (p : SupplierPolicy) (supplier : EndpointAddr) : Bool :=
  if p.deny.any (· == supplier) then false
  else if p.allow.isEmpty then true
  else p.allow.any (· == supplier)

/-- `src/domain/supplier.go:103–137`. -/
def permitsEndpoint (p : SupplierPolicy) (ep : Endpoint) (rpcType : RPCType) : Bool :=
  if !p.permits ep.supplier then false
  else if p.allowHosts.isEmpty && p.denyHosts.isEmpty then true
  else
    match ep.url rpcType with
    | none => true
    | some rawURL =>
      match hostPortOfURL rawURL with
      | none => false
      | some (host, port) =>
        if p.denyHosts.any (hostMatches host port ·) then false
        else if p.allowHosts.isEmpty then true
        else p.allowHosts.any (hostMatches host port ·)

/-- A policy without entries changes nothing. -/
theorem permitsEndpoint_of_empty (p : SupplierPolicy) (h : p.empty = true) (ep : Endpoint)
    (rpcType : RPCType) : p.permitsEndpoint ep rpcType = true := by
  simp only [empty, Bool.and_eq_true, List.isEmpty_iff] at h
  obtain ⟨⟨⟨ha, hd⟩, hah⟩, hdh⟩ := h
  simp [permitsEndpoint, permits, ha, hd, hah, hdh]

omit [GoLib] in
/-- The same entries in another order. -/
structure Reordered (p q : SupplierPolicy) : Prop where
  allow : p.allow.Perm q.allow
  deny : p.deny.Perm q.deny
  allowHosts : p.allowHosts.Perm q.allowHosts
  denyHosts : p.denyHosts.Perm q.denyHosts

/-- The order of entries does not matter. -/
theorem Reordered.permitsEndpoint_eq {p q : SupplierPolicy} (h : Reordered p q) (ep : Endpoint)
    (rpcType : RPCType) : p.permitsEndpoint ep rpcType = q.permitsEndpoint ep rpcType := by
  have hpermits : p.permits ep.supplier = q.permits ep.supplier := by
    unfold permits
    rw [h.deny.any_eq, h.allow.isEmpty_eq, h.allow.any_eq]
  have hdeny (f : String → Bool) : p.denyHosts.any f = q.denyHosts.any f := h.denyHosts.any_eq
  have hallow (f : String → Bool) : p.allowHosts.any f = q.allowHosts.any f := h.allowHosts.any_eq
  simp only [permitsEndpoint, hpermits, h.allowHosts.isEmpty_eq, h.denyHosts.isEmpty_eq, hdeny,
    hallow]

end SupplierPolicy

/-- `src/domain/supplier.go:198–203`. -/
def validateSupplierAddr (addr : String) : Except Err Unit :=
  if hasPrefix addr supplierAddrPrefix then .ok ()
  else .error (.text (GoLib.quote addr ++ " is not a " ++ supplierAddrPrefix ++
    "… supplier operator address"))

/-- `src/domain/supplier.go:211–222`. -/
def validateHostPattern (pattern : String) : Except Err Unit :=
  let p := trimSpace pattern
  if p = "" then .error (.text "host pattern is empty")
  else if contains p "://" || contains p "/" then
    .error (.text (GoLib.quote pattern ++ " is a URL, not a host — write just the host, " ++
      "optionally with a port (\"rm.example.com\", \"rm.example.com:443\", \"*.example.com\")"))
  else if hasPrefix p supplierAddrPrefix then
    .error (.text (GoLib.quote pattern ++ " is a supplier operator address — it belongs in the " ++
      "address allow/deny list, not the host list"))
  else .ok ()

end Hosts

/-- `src/domain/supplier.go:234–239`. -/
def withSupplierPolicy (ctx : Context) (p : SupplierPolicy) : Context :=
  if p.empty then ctx else { ctx with supplierPolicy := some p }

/-- `src/domain/supplier.go:243–249`. -/
def supplierPolicyFromContext (ctx : Context) : SupplierPolicy := ctx.supplierPolicy.getD {}

/-- Attaching a policy to a bare context and reading it back permits the same endpoints;
an empty policy is dropped on the way. -/
theorem supplierPolicyFromContext_with [GoLib] (p : SupplierPolicy) (ep : Endpoint)
    (rpcType : RPCType) :
    (supplierPolicyFromContext (withSupplierPolicy {} p)).permitsEndpoint ep rpcType =
      p.permitsEndpoint ep rpcType := by
  by_cases h : p.empty = true
  · simp only [withSupplierPolicy, h, if_true, supplierPolicyFromContext, Option.getD_none]
    rw [p.permitsEndpoint_of_empty h, SupplierPolicy.permitsEndpoint_of_empty _ rfl]
  · simp only [withSupplierPolicy, h, supplierPolicyFromContext]
    rfl

end PocketAp.Domain
