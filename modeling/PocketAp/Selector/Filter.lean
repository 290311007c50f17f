import PocketAp.Base.Slices
import PocketAp.Domain.Supplier

/-!
# Endpoint selection

`src/selector/filter.go`, `src/selector/selector.go`. Endpoint lists are slices in memory,
so that what a selector does to the list it was given can be said: both selectors build
the list they return at a fresh address. `Filter.select_outcome` gives the outcome of a
filter over `randomSelect` in terms of the endpoints that are eligible.
-/

namespace PocketAp.Selector

open PocketAp.Base PocketAp.Domain

/-- A selector, from the address of the session's list to the address of the chosen one.
`src/selector/filter.go:20–22`. -/
abbrev Inner :=
  Context → ServiceID → Nat → RPCType → Memory Endpoint → Memory Endpoint × Except Err Nat

/-- Endpoints of the RPC type in random order. `src/selector/selector.go:21–35`. -/
def randomSelect (draw : Draws) : Inner := fun _ _ endpoints rpcType m ↦
  let supported := m.alloc.2
  let m' := Memory.pushAll supported (·.supportsType rpcType) (m.get endpoints) m.alloc.1
  if (m'.get supported).isEmpty then (m', .error errNoEndpoint)
  else (Memory.shuffleAt draw supported ((m'.get supported).length - 1) m', .ok supported)

/-- `src/selector/filter.go:45–48`; a service without an entry has the zero policy. -/
structure Filter where
  inner : Inner
  policies : ServiceID → Option SupplierPolicy

namespace Filter

/-- The operator's policy for a service. -/
def configured (f : Filter) (serviceID : ServiceID) : SupplierPolicy :=
  (f.policies serviceID).getD {}

/-- The error when nothing survives. `src/selector/filter.go:70–78`. -/
def filteredOut (serviceID : ServiceID) (inSession : Nat) (configured requested : SupplierPolicy) :
    Err :=
  .errorf ("selector: every supplier for " ++ serviceID ++ " was filtered out (" ++
    toString inSession ++ " in session; config allow/deny " ++
    toString configured.allow.length ++ "/" ++ toString configured.deny.length ++ ", hosts " ++
    toString configured.allowHosts.length ++ "/" ++ toString configured.denyHosts.length ++
    "; request allow/deny " ++
    toString requested.allow.length ++ "/" ++ toString requested.deny.length ++ ", hosts " ++
    toString requested.allowHosts.length ++ "/" ++ toString requested.denyHosts.length ++
    "): ") errNoEndpoint

variable [GoLib]

/-- The test of the loop. `src/selector/filter.go:60`. -/
def bothPermit (configured requested : SupplierPolicy) (rpcType : RPCType) (ep : Endpoint) :
    Bool :=
  configured.permitsEndpoint ep rpcType && requested.permitsEndpoint ep rpcType

/-- The path that filters. `src/selector/filter.go:58–80`. -/
def selectKept (f : Filter) : Inner := fun ctx serviceID endpoints rpcType m ↦
  let configured := f.configured serviceID
  let requested := supplierPolicyFromContext ctx
  let kept := m.alloc.2
  let m' := Memory.pushAll kept (bothPermit configured requested rpcType) (m.get endpoints)
    m.alloc.1
  if (m'.get kept).isEmpty then
    (m', .error (filteredOut serviceID (m.get endpoints).length configured requested))
  else f.inner ctx serviceID kept rpcType m'

/-- `src/selector/filter.go:51–80`. -/
def select (f : Filter) : Inner := fun ctx serviceID endpoints rpcType m ↦
  if (f.configured serviceID).empty && (supplierPolicyFromContext ctx).empty then
    f.inner ctx serviceID endpoints rpcType m
  else f.selectKept ctx serviceID endpoints rpcType m

/-- What a caller sees of a selection: the chosen list, read from memory. -/
def selected (f : Filter) (ctx : Context) (serviceID : ServiceID) (endpoints : List Endpoint)
    (rpcType : RPCType) : Except Err (List Endpoint) :=
  let r := f.select ctx serviceID 0 rpcType ⟨[endpoints]⟩
  r.2.map r.1.get

/-! ### Outcome of a selection -/

/-- An endpoint may be used: it advertises the RPC type and both policies permit it. -/
def eligible (configured requested : SupplierPolicy) (rpcType : RPCType) (ep : Endpoint) : Bool :=
  ep.supportsType rpcType && bothPermit configured requested rpcType ep

/-- A selection out of `candidates`: it fails with an error that wraps `ErrNoEndpoint` when
there are none, and otherwise returns them shuffled, leaving all older memory as it was. -/
structure Outcome (draw : Draws) (candidates : List Endpoint) (m : Memory Endpoint)
    (r : Memory Endpoint × Except Err Nat) : Prop where
  unchanged : m.Extends r.1
  failed : candidates = [] → ∃ e : Err, r.2 = .error e ∧ e.is .noEndpoint = true
  chosen : candidates ≠ [] → ∃ a, r.2 = .ok a ∧ r.1.get a = shuffle draw candidates

omit [GoLib] in
/-- Collecting into a fresh slice. -/
private theorem collect_spec (p : Endpoint → Bool) (xs : List Endpoint) (m : Memory Endpoint) :
    (Memory.pushAll m.alloc.2 p xs m.alloc.1).get m.alloc.2 = xs.filter p ∧
      m.alloc.2 < (Memory.pushAll m.alloc.2 p xs m.alloc.1).arrays.length ∧
      m.Extends (Memory.pushAll m.alloc.2 p xs m.alloc.1) := by
  have ha : m.alloc.2 < m.alloc.1.arrays.length := by simp [Memory.alloc]
  obtain ⟨h1, h2, h3⟩ := Memory.pushAll_spec m.alloc.2 p xs m.alloc.1 ha
  refine ⟨?_, by rw [h2]; exact ha, ?_⟩
  · rw [h1, m.get_alloc, List.nil_append]
  · refine ⟨by rw [h2]; exact m.extends_alloc.1, ?_⟩
    intro b hb
    have hne : b ≠ m.alloc.2 := Nat.ne_of_lt hb
    rw [h3 b hne, m.extends_alloc.2 b hb]

omit [GoLib] in
/-- `Random.Select` over any list in memory. -/
theorem randomSelect_outcome (draw : Draws) (ctx : Context) (serviceID : ServiceID)
    (endpoints : Nat) (rpcType : RPCType) (m : Memory Endpoint) :
    Outcome draw ((m.get endpoints).filter (·.supportsType rpcType)) m
      (randomSelect draw ctx serviceID endpoints rpcType m) := by
  obtain ⟨hget, hlt, hext⟩ := collect_spec (·.supportsType rpcType) (m.get endpoints) m
  unfold randomSelect
  simp only [hget]
  by_cases he : (m.get endpoints).filter (·.supportsType rpcType) = []
  · simp only [he, List.isEmpty_nil, if_true]
    constructor
    · exact hext
    · intro _
      exact ⟨errNoEndpoint, rfl, by simp [errNoEndpoint]⟩
    · intro h
      exact absurd rfl h
  · have hb : ((m.get endpoints).filter (·.supportsType rpcType)).isEmpty = false := by
      simpa using he
    obtain ⟨h1, h2, h3⟩ := Memory.shuffleAt_spec draw m.alloc.2
      (((m.get endpoints).filter (·.supportsType rpcType)).length - 1) _ hlt
    simp only [hb, Bool.false_eq_true, if_false]
    constructor
    · refine ⟨by rw [h2]; exact hext.1, ?_⟩
      intro b hlb
      rw [h3 b (Nat.ne_of_lt hlb), hext.2 b hlb]
    · intro h
      exact absurd h he
    · intro _
      refine ⟨m.alloc.2, rfl, ?_⟩
      rw [h1, hget]
      rfl

/-- The filtering path over `randomSelect`, whatever the policies. -/
theorem selectKept_outcome (policies : ServiceID → Option SupplierPolicy) (draw : Draws)
    (ctx : Context) (serviceID : ServiceID) (endpoints : Nat) (rpcType : RPCType)
    (m : Memory Endpoint) :
    Outcome draw
      ((m.get endpoints).filter (eligible ((policies serviceID).getD {})
        (supplierPolicyFromContext ctx) rpcType)) m
      (selectKept ⟨randomSelect draw, policies⟩ ctx serviceID endpoints rpcType m) := by
  have hcand : (m.get endpoints).filter (eligible ((policies serviceID).getD {})
        (supplierPolicyFromContext ctx) rpcType) =
      ((m.get endpoints).filter (bothPermit ((policies serviceID).getD {})
        (supplierPolicyFromContext ctx) rpcType)).filter (·.supportsType rpcType) := by
    rw [List.filter_filter]
    rfl
  obtain ⟨hget, -, hext⟩ := collect_spec (bothPermit ((policies serviceID).getD {})
    (supplierPolicyFromContext ctx) rpcType) (m.get endpoints) m
  unfold selectKept configured
  simp only [hget]
  by_cases he : (m.get endpoints).filter (bothPermit ((policies serviceID).getD {})
      (supplierPolicyFromContext ctx) rpcType) = []
  · rw [hcand, he]
    simp only [List.isEmpty_nil, if_true, List.filter_nil]
    constructor
    · exact hext
    · intro _
      exact ⟨_, rfl, by simp [filteredOut, errNoEndpoint]⟩
    · intro h
      exact absurd rfl h
  · have hb : ((m.get endpoints).filter (bothPermit ((policies serviceID).getD {})
        (supplierPolicyFromContext ctx) rpcType)).isEmpty = false := by
      simpa using he
    simp only [hb, Bool.false_eq_true, if_false]
    have hr := randomSelect_outcome draw ctx serviceID m.alloc.2 rpcType
      (Memory.pushAll m.alloc.2 (bothPermit ((policies serviceID).getD {})
        (supplierPolicyFromContext ctx) rpcType) (m.get endpoints) m.alloc.1)
    rw [hget, ← hcand] at hr
    exact ⟨hext.trans hr.unchanged, hr.failed, hr.chosen⟩

/-- A filter over `randomSelect` chooses among the eligible endpoints, on both paths. -/
theorem select_outcome (policies : ServiceID → Option SupplierPolicy) (draw : Draws)
    (ctx : Context) (serviceID : ServiceID) (endpoints : Nat) (rpcType : RPCType)
    (m : Memory Endpoint) :
    Outcome draw
      ((m.get endpoints).filter (eligible ((policies serviceID).getD {})
        (supplierPolicyFromContext ctx) rpcType)) m
      (select ⟨randomSelect draw, policies⟩ ctx serviceID endpoints rpcType m) := by
  unfold select
  split
  · next h =>
    rw [Bool.and_eq_true] at h
    have hconf : ((policies serviceID).getD {}).empty = true := h.1
    have hcand : (m.get endpoints).filter (eligible ((policies serviceID).getD {})
          (supplierPolicyFromContext ctx) rpcType) =
        (m.get endpoints).filter (·.supportsType rpcType) := by
      congr 1
      funext ep
      rw [eligible, bothPermit, SupplierPolicy.permitsEndpoint_of_empty _ hconf,
        SupplierPolicy.permitsEndpoint_of_empty _ h.2, Bool.and_true, Bool.and_true]
    rw [hcand]
    exact randomSelect_outcome draw ctx serviceID endpoints rpcType m
  · exact selectKept_outcome policies draw ctx serviceID endpoints rpcType m

/-! ### What a caller sees -/

/-- Endpoints of a list that may be used under the operator's policy and a context. -/
def candidates (policies : ServiceID → Option SupplierPolicy) (ctx : Context)
    (serviceID : ServiceID) (rpcType : RPCType) (endpoints : List Endpoint) : List Endpoint :=
  endpoints.filter (eligible ((policies serviceID).getD {}) (supplierPolicyFromContext ctx) rpcType)

/-- The candidates are returned in the order drawn. -/
theorem selected_eq_ok (policies : ServiceID → Option SupplierPolicy) (draw : Draws)
    (ctx : Context) (serviceID : ServiceID) (endpoints : List Endpoint) (rpcType : RPCType)
    (h : candidates policies ctx serviceID rpcType endpoints ≠ []) :
    selected ⟨randomSelect draw, policies⟩ ctx serviceID endpoints rpcType =
      .ok (shuffle draw (candidates policies ctx serviceID rpcType endpoints)) := by
  obtain ⟨a, hok, hget⟩ := (select_outcome policies draw ctx serviceID 0 rpcType ⟨[endpoints]⟩).chosen h
  simp only [selected, hok, Except.map, hget]
  rfl

private theorem candidates_ne_nil {policies : ServiceID → Option SupplierPolicy} {draw : Draws}
    {ctx : Context} {serviceID : ServiceID} {endpoints ordered : List Endpoint} {rpcType : RPCType}
    (h : selected ⟨randomSelect draw, policies⟩ ctx serviceID endpoints rpcType = .ok ordered) :
    candidates policies ctx serviceID rpcType endpoints ≠ [] := by
  intro hn
  obtain ⟨e, he, -⟩ := (select_outcome policies draw ctx serviceID 0 rpcType ⟨[endpoints]⟩).failed hn
  simp [selected, he, Except.map] at h

/-- What is selected is a permutation of the candidates. -/
theorem selected_perm {policies : ServiceID → Option SupplierPolicy} {draw : Draws}
    {ctx : Context} {serviceID : ServiceID} {endpoints ordered : List Endpoint} {rpcType : RPCType}
    (h : selected ⟨randomSelect draw, policies⟩ ctx serviceID endpoints rpcType = .ok ordered) :
    ordered.Perm (candidates policies ctx serviceID rpcType endpoints) := by
  rw [selected_eq_ok policies draw ctx serviceID endpoints rpcType (candidates_ne_nil h)] at h
  cases h
  exact shuffle_perm draw _

/-- A request policy only takes candidates away. -/
theorem candidates_narrow (policies : ServiceID → Option SupplierPolicy) (ctx : Context)
    (serviceID : ServiceID) (rpcType : RPCType) (endpoints : List Endpoint) :
    candidates policies ctx serviceID rpcType endpoints =
      (candidates policies {} serviceID rpcType endpoints).filter
        ((supplierPolicyFromContext ctx).permitsEndpoint · rpcType) := by
  have hempty (ep : Endpoint) :
      (supplierPolicyFromContext {}).permitsEndpoint ep rpcType = true :=
    SupplierPolicy.permitsEndpoint_of_empty _ rfl ep rpcType
  rw [candidates, candidates, List.filter_filter]
  congr 1
  funext ep
  simp only [eligible, bothPermit, hempty, Bool.and_true]
  ac_rfl

/-- Whatever a request policy leaves, in the order it was shuffled to, some shuffle puts
first when there is no request policy. -/
theorem exists_selected_append {policies : ServiceID → Option SupplierPolicy} {draw : Draws}
    {ctx : Context} {serviceID : ServiceID} {endpoints ordered : List Endpoint} {rpcType : RPCType}
    (h : selected ⟨randomSelect draw, policies⟩ ctx serviceID endpoints rpcType = .ok ordered) :
    ∃ draw' rest, selected ⟨randomSelect draw', policies⟩ {} serviceID endpoints rpcType =
      .ok (ordered ++ rest) := by
  have hp := selected_perm h
  rw [candidates_narrow] at hp
  obtain ⟨draw', hd⟩ := exists_shuffle_eq (candidates policies {} serviceID rpcType endpoints) _
    ((hp.append_right _).trans (List.filter_append_perm
      ((supplierPolicyFromContext ctx).permitsEndpoint · rpcType) _))
  have hne : candidates policies {} serviceID rpcType endpoints ≠ [] := by
    intro hn
    apply candidates_ne_nil h
    rw [candidates_narrow, hn, List.filter_nil]
  have hsel := selected_eq_ok policies draw' {} serviceID endpoints rpcType hne
  rw [hd] at hsel
  exact ⟨draw', _, hsel⟩

end Filter
end PocketAp.Selector
