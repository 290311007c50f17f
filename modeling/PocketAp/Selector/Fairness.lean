import PocketAp.Base.Uniform
import PocketAp.Selector.Filter

/-!
# Fair selection

`src/selector/selector.go:21–35` behind `src/selector/filter.go:51–80`. The first endpoint of a
selection is the one a relay goes to, and the rest are for failover, so their order decides who
is paid. Policies, the operator's and the caller's, decide who may be chosen; among those the
order is fair: what a policy removed leaves no trace in it, nor does the order in which the
session lists its endpoints.
-/

namespace PocketAp.Selector

open PocketAp.Base PocketAp.Domain

variable [GoLib]

/-- The draws, of all there are for the eligible endpoints, that select `ep` at place `i`. -/
def Filter.placing (policies : ServiceID → Option SupplierPolicy) (ctx : Context)
    (serviceID : ServiceID) (rpcType : RPCType) (endpoints : List Endpoint) (i : Nat)
    (ep : Endpoint) :
    Set (DrawsBelow (candidates policies ctx serviceID rpcType endpoints).length) :=
  {d | ∃ order,
    selected ⟨randomSelect d.extend, policies⟩ ctx serviceID endpoints rpcType = .ok order ∧
      order[i]? = some ep}

private theorem placing_eq {policies : ServiceID → Option SupplierPolicy} {ctx : Context}
    {serviceID : ServiceID} {rpcType : RPCType} {endpoints : List Endpoint}
    (h : Filter.candidates policies ctx serviceID rpcType endpoints ≠ []) (i : Nat)
    (ep : Endpoint) :
    Filter.placing policies ctx serviceID rpcType endpoints i ep =
      {d | (shuffle d.extend
        (Filter.candidates policies ctx serviceID rpcType endpoints))[i]? = some ep} := by
  ext d
  simp only [Filter.placing, Filter.selected_eq_ok _ _ _ _ _ _ h, Except.ok.injEq,
    exists_eq_left', Set.mem_ofPred_eq]

/-- Among the endpoints that both policies permit and that serve the RPC type, every order is
selected by exactly one sequence of draws, and each endpoint has each place, the first one
included, in the same share of them. -/
theorem selection_fair (policies : ServiceID → Option SupplierPolicy) (ctx : Context)
    (serviceID : ServiceID) (rpcType : RPCType) (endpoints : List Endpoint)
    (hn : endpoints.Nodup)
    (hne : Filter.candidates policies ctx serviceID rpcType endpoints ≠ []) :
    (∀ order, order.Perm (Filter.candidates policies ctx serviceID rpcType endpoints) →
      ∃! d : DrawsBelow (Filter.candidates policies ctx serviceID rpcType endpoints).length,
        Filter.selected ⟨randomSelect d.extend, policies⟩ ctx serviceID endpoints rpcType =
          .ok order) ∧
      ∀ ep ∈ Filter.candidates policies ctx serviceID rpcType endpoints,
        ∀ i < (Filter.candidates policies ctx serviceID rpcType endpoints).length,
          (Filter.candidates policies ctx serviceID rpcType endpoints).length *
              (Filter.placing policies ctx serviceID rpcType endpoints i ep).ncard =
            Nat.card (DrawsBelow
              (Filter.candidates policies ctx serviceID rpcType endpoints).length) := by
  have hdistinct : (Filter.candidates policies ctx serviceID rpcType endpoints).Nodup :=
    hn.filter _
  constructor
  · intro order horder
    simp only [Filter.selected_eq_ok _ _ _ _ _ _ hne, Except.ok.injEq]
    exact existsUnique_shuffle hdistinct horder
  · intro ep hep i hi
    rw [placing_eq hne]
    exact length_mul_ncard_shuffle_place hdistinct hep hi

omit [GoLib] in
/-- Three suppliers, of which the operator denies the second. -/
theorem selection_fair_denying :
    let _ : GoLib := GoLib.plain
    let ep (supplier : String) : Endpoint := ⟨supplier, fun _ ↦ some "http://node"⟩
    let policies : ServiceID → Option SupplierPolicy := fun _ ↦ some { deny := ["b"] }
    Filter.candidates policies {} "eth" .jsonRPC [ep "a", ep "b", ep "c"] = [ep "a", ep "c"] ∧
      (Filter.candidates policies {} "eth" .jsonRPC [ep "a", ep "b", ep "c"]).length *
          (Filter.placing policies {} "eth" .jsonRPC [ep "a", ep "b", ep "c"] 0 (ep "c")).ncard =
        Nat.card (DrawsBelow
          (Filter.candidates policies {} "eth" .jsonRPC [ep "a", ep "b", ep "c"]).length) := by
  let _ : GoLib := GoLib.plain
  let ep (supplier : String) : Endpoint := ⟨supplier, fun _ ↦ some "http://node"⟩
  let policies : ServiceID → Option SupplierPolicy := fun _ ↦ some { deny := ["b"] }
  have hcand : Filter.candidates policies {} "eth" .jsonRPC [ep "a", ep "b", ep "c"] =
      [ep "a", ep "c"] := rfl
  have hn : [ep "a", ep "b", ep "c"].Nodup :=
    List.Nodup.of_map Endpoint.supplier (by decide : ["a", "b", "c"].Nodup)
  exact ⟨hcand, (selection_fair policies {} "eth" .jsonRPC _ hn (by rw [hcand]; simp)).2 (ep "c")
    (by rw [hcand]; simp) 0 (by rw [hcand]; simp)⟩

end PocketAp.Selector
