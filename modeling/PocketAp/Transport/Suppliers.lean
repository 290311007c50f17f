import PocketAp.Domain.Supplier

/-!
# Routing headers

`src/transport/suppliers.go`. A request may carry four headers that name suppliers or
hosts; they are taken out of its header map and become a policy. A `range` over a map
visits the entries in any order, and each of the four makes a `range` of its own, so the
orders are inputs.
-/

namespace PocketAp.Transport

open PocketAp.Base PocketAp.Domain

/-- `src/transport/suppliers.go:32–35`. -/
def headerAllowSuppliers : String := "X-Pocket-Allow-Suppliers"

/-- `X-Pocket-Deny-Suppliers`. -/
def headerDenySuppliers : String := "X-Pocket-Deny-Suppliers"

/-- `X-Pocket-Allow-Hosts`. -/
def headerAllowHosts : String := "X-Pocket-Allow-Hosts"

/-- `X-Pocket-Deny-Hosts`. -/
def headerDenyHosts : String := "X-Pocket-Deny-Hosts"

/-- An order in which a `range` may visit the entries of a map. -/
structure RangeOrder where
  visit : Header → Header
  perm : ∀ header, (visit header).Perm header

/-- The entries as they are listed. -/
def RangeOrder.listed : RangeOrder := ⟨id, fun _ ↦ List.Perm.refl _⟩

/-- The values of a header, gathered in some order. `src/transport/suppliers.go:85–91`. -/
def takeRaw (order : RangeOrder) (header : Header) (name : String) : List String :=
  ((order.visit header).filter (fun kv ↦ equalFold kv.1 name)).flatMap Prod.snd

/-- The map without a header. `src/transport/suppliers.go:89`. -/
def deleteFold (header : Header) (name : String) : Header :=
  header.filter (fun kv ↦ !equalFold kv.1 name)

/-- The entries in order; the first invalid one ends the loop.
`src/transport/suppliers.go:97–110`. -/
def parseFields (name : String) (validate : String → Except Err Unit) :
    List String → Except Err (List String)
  | [] => .ok []
  | field :: fields =>
    if trimSpace field = "" then parseFields name validate fields
    else
      match validate (trimSpace field) with
      | .error e => .error (.errorf (name ++ ": ") e)
      | .ok () =>
        match parseFields name validate fields with
        | .error e => .error e
        | .ok out => .ok (trimSpace field :: out)

/-- `src/transport/suppliers.go:84–112`. -/
def takeList (order : RangeOrder) (header : Header) (name : String)
    (validate : String → Except Err Unit) : Header × Except Err (List String) :=
  let raw := takeRaw order header name
  (deleteFold header name,
    if raw.isEmpty then .ok [] else parseFields name validate (raw.flatMap (splitAt ',')))

/-- The lists become a policy unless one of them is an error; the first error is returned.
`src/transport/suppliers.go:62–79`. -/
def policyOfLists (allow deny allowHosts denyHosts : Except Err (List String)) :
    Except Err SupplierPolicy := do
  let allow ← allow
  let deny ← deny
  let allowHosts ← allowHosts
  let denyHosts ← denyHosts
  pure ⟨allow, deny, allowHosts, denyHosts⟩

variable [GoLib]

/-- `src/transport/suppliers.go:49–80`; every header is taken before an error is returned. -/
def takeSupplierPolicy (order : String → RangeOrder) (header : Header) :
    Header × Except Err SupplierPolicy :=
  let allow := takeList (order headerAllowSuppliers) header headerAllowSuppliers
    validateSupplierAddr
  let deny := takeList (order headerDenySuppliers) allow.1 headerDenySuppliers
    validateSupplierAddr
  let allowHosts := takeList (order headerAllowHosts) deny.1 headerAllowHosts validateHostPattern
  let denyHosts := takeList (order headerDenyHosts) allowHosts.1 headerDenyHosts
    validateHostPattern
  (denyHosts.1, policyOfLists allow.2 deny.2 allowHosts.2 denyHosts.2)

/-! ### What is left of the map -/

omit [GoLib] in
/-- One of the four routing headers, in any casing. -/
def isRouting (name : String) : Bool :=
  equalFold name headerAllowSuppliers || equalFold name headerDenySuppliers ||
    equalFold name headerAllowHosts || equalFold name headerDenyHosts

omit [GoLib] in
/-- The map without the routing headers. -/
def stripRouting (header : Header) : Header := header.filter (fun kv ↦ !isRouting kv.1)

/-- Exactly the routing headers are removed, also when one of them is malformed. -/
theorem takeSupplierPolicy_header (order : String → RangeOrder) (header : Header) :
    (takeSupplierPolicy order header).1 = stripRouting header := by
  simp only [takeSupplierPolicy, takeList, deleteFold, stripRouting, List.filter_filter]
  congr 1
  funext kv
  simp only [isRouting, Bool.not_or]
  ac_rfl

omit [GoLib] in
private theorem takeRaw_of_absent (order : RangeOrder) (header : Header) (name : String)
    (h : ∀ kv ∈ header, equalFold kv.1 name = false) : takeRaw order header name = [] := by
  have hn : (order.visit header).filter (fun kv ↦ equalFold kv.1 name) = [] := by
    rw [List.filter_eq_nil_iff]
    intro kv hkv
    simp [h kv ((order.perm header).mem_iff.mp hkv)]
  rw [takeRaw, hn, List.flatMap_nil]

omit [GoLib] in
private theorem takeList_of_absent (order : RangeOrder) (header : Header) (name : String)
    (validate : String → Except Err Unit)
    (h : ∀ kv ∈ header, equalFold kv.1 name = false) :
    takeList order header name validate = (header, .ok []) := by
  have hd : deleteFold header name = header := by
    rw [deleteFold, List.filter_eq_self]
    intro kv hkv
    simp [h kv hkv]
  simp only [takeList, takeRaw_of_absent order header name h, hd, List.isEmpty_nil, if_true]

/-- Without routing headers there is no preference. -/
theorem takeSupplierPolicy_stripped (order : String → RangeOrder) (header : Header) :
    takeSupplierPolicy order (stripRouting header) = (stripRouting header, .ok {}) := by
  have habs (name : String) (hname : ∀ k, equalFold k name = true → isRouting k = true) :
      ∀ kv ∈ stripRouting header, equalFold kv.1 name = false := by
    intro kv hkv
    have hr : isRouting kv.1 = false := by
      simpa [stripRouting] using (List.mem_filter.mp hkv).2
    cases hf : equalFold kv.1 name with
    | false => rfl
    | true => rw [hname _ hf] at hr; cases hr
  unfold takeSupplierPolicy
  rw [takeList_of_absent _ _ headerAllowSuppliers _ (habs _ (by intro k hk; simp [isRouting, hk]))]
  simp only
  rw [takeList_of_absent _ _ headerDenySuppliers _ (habs _ (by intro k hk; simp [isRouting, hk]))]
  simp only
  rw [takeList_of_absent _ _ headerAllowHosts _ (habs _ (by intro k hk; simp [isRouting, hk]))]
  simp only
  rw [takeList_of_absent _ _ headerDenyHosts _ (habs _ (by intro k hk; simp [isRouting, hk]))]
  rfl

/-! ### When the headers are well formed -/

/-- Every entry of the lists with this name passes their check. -/
def ListValid (header : Header) (name : String) (validate : String → Except Err Unit) : Prop :=
  ∀ kv ∈ header, equalFold kv.1 name = true → ∀ v ∈ kv.2, ∀ field ∈ splitAt ',' v,
    trimSpace field ≠ "" → validate (trimSpace field) = .ok ()

/-- Every entry of the four lists is valid. -/
structure ListsValid (header : Header) : Prop where
  allow : ListValid header headerAllowSuppliers validateSupplierAddr
  deny : ListValid header headerDenySuppliers validateSupplierAddr
  allowHosts : ListValid header headerAllowHosts validateHostPattern
  denyHosts : ListValid header headerDenyHosts validateHostPattern

omit [GoLib] in
private theorem parseFields_ok_iff (name : String) (validate : String → Except Err Unit)
    (fields : List String) :
    (∃ out, parseFields name validate fields = .ok out) ↔
      ∀ field ∈ fields, trimSpace field ≠ "" → validate (trimSpace field) = .ok () := by
  induction fields with
  | nil => simp [parseFields]
  | cons field fields ih =>
    rw [List.forall_mem_cons, ← ih, parseFields]
    by_cases he : trimSpace field = ""
    · simp [he]
    · rcases hv : validate (trimSpace field) with e | ⟨⟩
      · simp [he]
      · rcases hp : parseFields name validate fields with e | out <;> simp [he]

omit [GoLib] in
private theorem takeList_ok_iff (order : RangeOrder) (header : Header) (name : String)
    (validate : String → Except Err Unit) :
    (∃ out, (takeList order header name validate).2 = .ok out) ↔
      ListValid header name validate := by
  have hraw : (∃ out, (takeList order header name validate).2 = .ok out) ↔
      ∃ out, parseFields name validate ((takeRaw order header name).flatMap (splitAt ',')) =
        .ok out := by
    simp only [takeList]
    split
    · next h => simp [List.isEmpty_iff.mp h, parseFields]
    · rfl
  rw [hraw, parseFields_ok_iff]
  constructor
  · intro h kv hkv hname v hv field hf hne
    refine h field (List.mem_flatMap.mpr ⟨v, ?_, hf⟩) hne
    refine List.mem_flatMap.mpr ⟨kv, List.mem_filter.mpr ⟨?_, hname⟩, hv⟩
    exact (order.perm header).mem_iff.mpr hkv
  · intro h field hf hne
    obtain ⟨v, hraw, hf⟩ := List.mem_flatMap.mp hf
    obtain ⟨kv, hkv, hv⟩ := List.mem_flatMap.mp hraw
    obtain ⟨hkv, hname⟩ := List.mem_filter.mp hkv
    exact h kv ((order.perm header).mem_iff.mp hkv) hname v hv field hf hne

omit [GoLib] in
/-- Taking one header leaves the entries of another. -/
private theorem listValid_deleteFold (header : Header) {name name' : String}
    (validate : String → Except Err Unit)
    (h : name.toList.map foldRune ≠ name'.toList.map foldRune) :
    ListValid (deleteFold header name) name' validate ↔ ListValid header name' validate := by
  unfold ListValid deleteFold
  constructor
  · intro hvalid kv hkv hname
    refine hvalid kv (List.mem_filter.mpr ⟨hkv, ?_⟩) hname
    simp only [equalFold, decide_eq_true_eq] at hname
    simp only [equalFold, hname, Bool.not_eq_true', decide_eq_false_iff_not]
    exact h.symm
  · intro hvalid kv hkv
    exact hvalid kv (List.mem_filter.mp hkv).1

omit [GoLib] in
private theorem policyOfLists_ok_iff (allow deny allowHosts denyHosts : Except Err (List String)) :
    (∃ p, policyOfLists allow deny allowHosts denyHosts = .ok p) ↔
      (∃ out, allow = .ok out) ∧ (∃ out, deny = .ok out) ∧ (∃ out, allowHosts = .ok out) ∧
        ∃ out, denyHosts = .ok out := by
  rcases allow with e | allow <;> rcases deny with e | deny <;>
    rcases allowHosts with e | allowHosts <;> rcases denyHosts with e | denyHosts <;>
    simp [policyOfLists, bind, Except.bind, pure, Except.pure]

/-- A request is refused for its routing headers exactly when an entry is invalid. -/
theorem takeSupplierPolicy_ok_iff (order : String → RangeOrder) (header : Header) :
    (∃ p, (takeSupplierPolicy order header).2 = .ok p) ↔ ListsValid header := by
  unfold takeSupplierPolicy
  simp only [policyOfLists_ok_iff, takeList_ok_iff]
  simp only [takeList]
  rw [listValid_deleteFold _ _ (by decide), listValid_deleteFold _ _ (by decide),
    listValid_deleteFold _ _ (by decide), listValid_deleteFold _ _ (by decide),
    listValid_deleteFold _ _ (by decide), listValid_deleteFold _ _ (by decide)]
  constructor
  · rintro ⟨ha, hd, hah, hdh⟩
    exact ⟨ha, hd, hah, hdh⟩
  · rintro ⟨ha, hd, hah, hdh⟩
    exact ⟨ha, hd, hah, hdh⟩

/-! ### The order of iteration -/

omit [GoLib] in
/-- The non-empty fields of all variants of a header. -/
def fieldsOf (header : Header) (name : String) : List String :=
  (((header.filter (fun kv ↦ equalFold kv.1 name)).flatMap Prod.snd).flatMap (splitAt ',')).map
    trimSpace |>.filter (· ≠ "")

omit [GoLib] in
private theorem parseFields_ok {name : String} {validate : String → Except Err Unit}
    {fields out : List String} (h : parseFields name validate fields = .ok out) :
    out = (fields.map trimSpace).filter (· ≠ "") := by
  induction fields generalizing out with
  | nil =>
    cases h
    rfl
  | cons field fields ih =>
    rw [parseFields] at h
    by_cases he : trimSpace field = ""
    · rw [if_pos he] at h
      simpa [he] using ih h
    · rw [if_neg he] at h
      rcases hv : validate (trimSpace field) with e | ⟨⟩
      · simp [hv] at h
      · rcases hp : parseFields name validate fields with e | rest
        · simp [hv, hp] at h
        · simp only [hv, hp, Except.ok.injEq] at h
          rw [← h, ih hp]
          simp [he]

omit [GoLib] in
/-- A list that is taken holds the fields of its header. -/
private theorem takeList_perm {order : RangeOrder} {header : Header} {name : String}
    {validate : String → Except Err Unit} {out : List String}
    (h : (takeList order header name validate).2 = .ok out) :
    out.Perm (fieldsOf header name) := by
  have hraw : (takeRaw order header name).Perm
      ((header.filter (fun kv ↦ equalFold kv.1 name)).flatMap Prod.snd) :=
    ((order.perm header).filter _).flatMap_right _
  have hout : out = (((takeRaw order header name).flatMap (splitAt ',')).map trimSpace).filter
      (· ≠ "") := by
    simp only [takeList] at h
    split at h
    · next hempty =>
      cases h
      simp [List.isEmpty_iff.mp hempty]
    · exact parseFields_ok h
  rw [hout]
  exact ((hraw.flatMap_right _).map _).filter _

omit [GoLib] in
/-- Taking one header leaves the fields of another. -/
private theorem fieldsOf_deleteFold (header : Header) {name name' : String}
    (h : name.toList.map foldRune ≠ name'.toList.map foldRune) :
    fieldsOf (deleteFold header name) name' = fieldsOf header name' := by
  have hkeep : (deleteFold header name).filter (fun kv ↦ equalFold kv.1 name') =
      header.filter (fun kv ↦ equalFold kv.1 name') := by
    rw [deleteFold, List.filter_filter]
    congr 1
    funext kv
    cases hname : equalFold kv.1 name' with
    | false => rfl
    | true =>
      simp only [equalFold, decide_eq_true_eq] at hname
      simp [equalFold, hname, h.symm]
  rw [fieldsOf, hkeep, fieldsOf]

omit [GoLib] in
/-- The policy a header map describes, its entries as they are listed. -/
def policyOf (header : Header) : SupplierPolicy :=
  ⟨fieldsOf header headerAllowSuppliers, fieldsOf header headerDenySuppliers,
    fieldsOf header headerAllowHosts, fieldsOf header headerDenyHosts⟩

omit [GoLib] in
private theorem policyOfLists_eq_ok {allow deny allowHosts denyHosts : Except Err (List String)}
    {p : SupplierPolicy} (h : policyOfLists allow deny allowHosts denyHosts = .ok p) :
    allow = .ok p.allow ∧ deny = .ok p.deny ∧ allowHosts = .ok p.allowHosts ∧
      denyHosts = .ok p.denyHosts := by
  rcases allow with e | allow <;> rcases deny with e | deny <;>
    rcases allowHosts with e | allowHosts <;> rcases denyHosts with e | denyHosts <;>
    simp only [policyOfLists, bind, Except.bind, pure, Except.pure, reduceCtorEq,
      Except.ok.injEq] at h
  subst h
  exact ⟨rfl, rfl, rfl, rfl⟩

private theorem takeSupplierPolicy_reordered {order : String → RangeOrder} {header : Header}
    {p : SupplierPolicy} (h : (takeSupplierPolicy order header).2 = .ok p) :
    p.Reordered (policyOf header) := by
  obtain ⟨ha, hd, hah, hdh⟩ := policyOfLists_eq_ok h
  have hd' := takeList_perm hd
  have hah' := takeList_perm hah
  have hdh' := takeList_perm hdh
  simp only [takeList] at hd' hah' hdh'
  rw [fieldsOf_deleteFold _ (by decide)] at hd'
  rw [fieldsOf_deleteFold _ (by decide), fieldsOf_deleteFold _ (by decide)] at hah'
  rw [fieldsOf_deleteFold _ (by decide), fieldsOf_deleteFold _ (by decide),
    fieldsOf_deleteFold _ (by decide)] at hdh'
  exact ⟨takeList_perm ha, hd', hah', hdh'⟩

omit [GoLib] in
private theorem not_listValid_iff (header : Header) (name : String)
    (validate : String → Except Err Unit) :
    ¬ ListValid header name validate ↔ ∃ field ∈ fieldsOf header name,
      ∃ e, validate field = .error e := by
  have hvalid : ListValid header name validate ↔ ∀ field ∈ fieldsOf header name,
      validate field = .ok () := by
    constructor
    · intro h field hf
      obtain ⟨hf, hne⟩ := List.mem_filter.mp hf
      obtain ⟨raw, hraw, rfl⟩ := List.mem_map.mp hf
      obtain ⟨v, hv, hraw⟩ := List.mem_flatMap.mp hraw
      obtain ⟨kv, hkv, hv⟩ := List.mem_flatMap.mp hv
      obtain ⟨hkv, hname⟩ := List.mem_filter.mp hkv
      exact h kv hkv hname v hv raw hraw (by simpa using hne)
    · intro h kv hkv hname v hv raw hraw hne
      refine h _ (List.mem_filter.mpr ⟨List.mem_map.mpr ⟨raw, ?_, rfl⟩, by simpa using hne⟩)
      exact List.mem_flatMap.mpr ⟨v, List.mem_flatMap.mpr
        ⟨kv, List.mem_filter.mpr ⟨hkv, hname⟩, hv⟩, hraw⟩
  rw [hvalid]
  constructor
  · intro h
    by_contra hnone
    refine h (fun field hf ↦ ?_)
    rcases hv : validate field with e | ⟨⟩
    · exact absurd ⟨field, hf, e, hv⟩ hnone
    · rfl
  · rintro ⟨field, hf, e, he⟩ h
    rw [h field hf] at he
    cases he

/-- Routing headers are always stripped, and what they mean is what they hold: not the order in
which a `range` comes upon their variants. -/
theorem routing_headers_taken (order : String → RangeOrder) (header : Header) :
    (takeSupplierPolicy order header).1 = stripRouting header ∧
    ((∃ e, (takeSupplierPolicy order header).2 = .error e) ↔
      (∃ field ∈ fieldsOf header headerAllowSuppliers,
        ∃ e, validateSupplierAddr field = .error e) ∨
      (∃ field ∈ fieldsOf header headerDenySuppliers,
        ∃ e, validateSupplierAddr field = .error e) ∨
      (∃ field ∈ fieldsOf header headerAllowHosts, ∃ e, validateHostPattern field = .error e) ∨
      ∃ field ∈ fieldsOf header headerDenyHosts, ∃ e, validateHostPattern field = .error e) ∧
    (∀ p, (takeSupplierPolicy order header).2 = .ok p →
      p.allow.Perm (fieldsOf header headerAllowSuppliers) ∧
      p.deny.Perm (fieldsOf header headerDenySuppliers) ∧
      p.allowHosts.Perm (fieldsOf header headerAllowHosts) ∧
      p.denyHosts.Perm (fieldsOf header headerDenyHosts)) ∧
    ∀ order' p p', (takeSupplierPolicy order header).2 = .ok p →
      (takeSupplierPolicy order' header).2 = .ok p' →
      ∀ ep rpcType, p.permitsEndpoint ep rpcType = p'.permitsEndpoint ep rpcType := by
  refine ⟨takeSupplierPolicy_header order header, ?_, ?_, ?_⟩
  · have herror : (∃ e, (takeSupplierPolicy order header).2 = .error e) ↔ ¬ ListsValid header := by
      rw [← takeSupplierPolicy_ok_iff order]
      rcases (takeSupplierPolicy order header).2 with e | p <;> simp
    rw [herror, ← not_listValid_iff, ← not_listValid_iff, ← not_listValid_iff,
      ← not_listValid_iff]
    constructor
    · intro h
      by_contra hall
      simp only [not_or, not_not] at hall
      exact h ⟨hall.1, hall.2.1, hall.2.2.1, hall.2.2.2⟩
    · rintro (h | h | h | h) hvalid
      · exact h hvalid.allow
      · exact h hvalid.deny
      · exact h hvalid.allowHosts
      · exact h hvalid.denyHosts
  · intro p hp
    have hre := takeSupplierPolicy_reordered hp
    exact ⟨hre.allow, hre.deny, hre.allowHosts, hre.denyHosts⟩
  · intro order' p p' hp hp' ep rpcType
    have hre := takeSupplierPolicy_reordered hp
    have hre' := takeSupplierPolicy_reordered hp'
    rw [hre.permitsEndpoint_eq, hre'.permitsEndpoint_eq]

/-- The entries from the last to the first. -/
def RangeOrder.reversed : RangeOrder := ⟨List.reverse, fun _ ↦ List.reverse_perm _⟩

/-- Two variants of one header, and an entry of the client's own. -/
def twoVariants : Header :=
  [("X-Pocket-Deny-Hosts", ["a.example, "]), ("Accept", ["*/*"]),
    ("x-pocket-deny-hosts", ["b.example"])]

omit [GoLib] in
/-- Two spellings of one routing header: their order follows the map, the policy does not. -/
theorem routing_headers_taken_twoVariants :
    let _ : GoLib := GoLib.plain
    (takeSupplierPolicy (fun _ ↦ .listed) twoVariants).2 =
      .ok { denyHosts := ["a.example", "b.example"] } ∧
    (takeSupplierPolicy (fun _ ↦ .reversed) twoVariants).2 =
      .ok { denyHosts := ["b.example", "a.example"] } ∧
    ∀ ep rpcType,
      ({ denyHosts := ["a.example", "b.example"] } : SupplierPolicy).permitsEndpoint ep rpcType =
        ({ denyHosts := ["b.example", "a.example"] } : SupplierPolicy).permitsEndpoint ep
          rpcType := by
  let _ : GoLib := GoLib.plain
  have hlisted : (takeSupplierPolicy (fun _ ↦ .listed) twoVariants).2 =
      .ok { denyHosts := ["a.example", "b.example"] } := by decide +kernel
  have hreversed : (takeSupplierPolicy (fun _ ↦ .reversed) twoVariants).2 =
      .ok { denyHosts := ["b.example", "a.example"] } := by decide +kernel
  obtain ⟨-, -, -, hsame⟩ := routing_headers_taken (fun _ ↦ .listed) twoVariants
  exact ⟨hlisted, hreversed, hsame (fun _ ↦ .reversed) _ _ hlisted hreversed⟩

/-- How a request is handed to the core: without its routing headers, which the context
carries as a policy. `src/transport/http.go:159–171`, `src/transport/ws.go:141–156`. -/
def routed (order : String → RangeOrder) (input : RelayInput) :
    Except Err (Context × RelayInput) :=
  let taken := takeSupplierPolicy order input.header
  match taken.2 with
  | .error e => .error (.errorf "invalid supplier header: " e)
  | .ok suppliers =>
    .ok (withSupplierPolicy {} suppliers, { input with header := taken.1 })

omit [GoLib] in
/-- The same request without its routing headers. -/
def unrouted (input : RelayInput) : RelayInput :=
  { input with header := stripRouting input.header }

/-- A request without routing headers is passed on as it is. -/
theorem routed_unrouted (order : String → RangeOrder) (input : RelayInput) :
    routed order (unrouted input) = .ok ({}, unrouted input) := by
  simp only [routed, unrouted, takeSupplierPolicy_stripped]
  rfl

/-- Routing headers change the context only. -/
theorem routed_input (order : String → RangeOrder) (input input' : RelayInput) (ctx : Context)
    (h : routed order input = .ok (ctx, input')) : input' = unrouted input := by
  simp only [routed] at h
  split at h
  · cases h
  · simp only [Except.ok.injEq, Prod.mk.injEq] at h
    rw [← h.2, takeSupplierPolicy_header]
    rfl

end PocketAp.Transport
