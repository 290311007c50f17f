import PocketAp.Base.Memo
import PocketAp.Pocket.GRPC

/-!
# The gRPC sender's connections

`src/pocket/grpc.go:97–98, 127–138, 279–303`. All native relays share one connection per
supplier URL, dialled on first use under a lock; the map is read without the lock first. What
`grpc.NewClient` answers is an input. `Close` goes over the map in some order.
-/

namespace PocketAp.Pocket

open PocketAp.Base PocketAp.Domain PocketAp.Relay

/-- A client connection: the number `grpc.NewClient` gave it, and what it was made with. -/
structure ClientConn where
  id : Nat
  target : String
  insecure : Bool
  deriving DecidableEq, Repr

/-- `src/pocket/fullnode.go:167–183`. -/
def connectGRPC (hostPort : String) (insecureConn : Bool) (answer : Except Err Nat) :
    Except Err ClientConn :=
  match answer with
  | .error e => .error e
  | .ok id => .ok ⟨id, hostPort, insecureConn⟩

section Dial

variable [GoLib] (parseError : String → Err)

/-- The part between the second lookup and the store. `src/pocket/grpc.go:293–300`. -/
def dialConn (endpointURL : String) (answer : Except Err Nat) : Except Err ClientConn :=
  match grpcTarget parseError endpointURL with
  | .error e => .error e
  | .ok (target, useTLS) =>
    match connectGRPC target (!useTLS) answer with
    | .error e => .error (.errorf ("grpc sender: dial " ++ target ++ ": ") e)
    | .ok conn => .ok conn

/-- The sender's map `conns`. -/
abbrev Conns := AList (fun _ : String ↦ ClientConn)

/-- A call that is left alone. `src/pocket/grpc.go:280–303`. -/
def connFor (conns : Conns) (endpointURL : String) (answer : Except Err Nat) :
    Except Err ClientConn × Conns :=
  match conns.lookup endpointURL with
  | some c => (.ok c, conns)
  | none =>
    match dialConn parseError endpointURL answer with
    | .error e => (.error e, conns)
    | .ok conn => (.ok conn, conns.insert endpointURL conn)

/-- Any number of calls: a first lookup, the lock, the second lookup, a dial with its store, and
the unlock are one step each. -/
abbrev connStep : Shared (Memo String ClientConn) (MemoCall String ClientConn Err) →
    Turn String (MemoMove (Except Err Nat)) →
    Option (Shared (Memo String ClientConn) (MemoCall String ClientConn Err)) :=
  memoStep (dialConn parseError)

variable {parseError}

/-- What a dial that succeeds was made with. -/
theorem dialConn_ok {endpointURL : String} {answer : Except Err Nat} {conn : ClientConn}
    (h : dialConn parseError endpointURL answer = .ok conn) :
    ∃ useTLS, grpcTarget parseError endpointURL = .ok (conn.target, useTLS) ∧
      conn.insecure = !useTLS := by
  unfold dialConn at h
  split at h
  · cases h
  · next target useTLS htarget =>
    unfold connectGRPC at h
    cases answer with
    | error e => cases h
    | ok id =>
      cases h
      exact ⟨useTLS, htarget, rfl⟩

/-- Left alone and with the lock free, the steps of a call are `connFor`. -/
theorem connFor_uninterrupted (s : Shared (Memo String ClientConn) (MemoCall String ClientConn Err))
    {i : Nat} {endpointURL : String} (answer : Except Err Nat)
    (here : s.procs[i]? = some { key := endpointURL }) (free : s.cell.held = false) :
    ∃ ts s', runAll (connStep parseError) s ts = some s' ∧
      s'.procs = s.procs.set i
        ⟨endpointURL, .returned (connFor parseError s.cell.table endpointURL answer).1⟩ ∧
      s'.cell.table = (connFor parseError s.cell.table endpointURL answer).2 := by
  obtain ⟨ts, hrun⟩ := memo_uninterrupted here free answer
  have hsame : connFor parseError s.cell.table endpointURL answer =
      ((s.cell.get (dialConn parseError) endpointURL answer).1,
        (s.cell.get (dialConn parseError) endpointURL answer).2.table) := by
    unfold connFor Memo.get
    cases s.cell.table.lookup endpointURL with
    | some c => rfl
    | none =>
      cases dialConn parseError endpointURL answer with
      | error e => rfl
      | ok conn => rfl
  rw [hsame]
  exact ⟨ts, _, hrun, rfl, rfl⟩

/-! ### Close -/

/-- The loop of `Close` over the values of the map. `src/pocket/grpc.go:127–138`. -/
def closeEach {π σ : Type} (close : ClientConn → Seam σ (Option Err)) :
    List ClientConn → Option Err → Exec π σ (ClientConn × Option Err) (Option Err)
  | [], firstErr => pure firstErr
  | conn :: rest, firstErr => do
    let err ← Exec.call (close conn) (conn, ·)
    closeEach close rest (if firstErr = none then err else firstErr)

omit [GoLib] in
/-- Every connection is closed, in order, whatever the ones before it answered; the first error
is returned. -/
theorem closeEach_run {π σ : Type} (close : ClientConn → Seam σ (Option Err))
    (conns : List ClientConn) (firstErr : Option Err) (w : σ) :
    ∃ es w', (closeEach close conns firstErr : Exec π σ _ _) w =
        (es, w', .ok (firstErr.or (es.findSome? Prod.snd))) ∧ es.map Prod.fst = conns := by
  induction conns generalizing firstErr w with
  | nil => exact ⟨[], w, by simp [closeEach, Exec.pure_run], rfl⟩
  | cons conn rest ih =>
    rcases hc : close conn w with ⟨err, w₁⟩
    obtain ⟨es, w', hrun, hes⟩ := ih (if firstErr = none then err else firstErr) w₁
    refine ⟨(conn, err) :: es, w', ?_, by simp [hes]⟩
    unfold closeEach
    rw [Exec.bind_run_ok (Exec.call_run hc _), hrun]
    cases firstErr <;> cases err <;> simp

/-! ### All calls -/

variable (parseError) in
/-- What the sender's callers can rely on after the turns `ts`. -/
structure ConnsKept (ts : List (Turn String (MemoMove (Except Err Nat))))
    (s : Shared (Memo String ClientConn) (MemoCall String ClientConn Err)) : Prop where
  /-- At most one connection was ever made for a URL. -/
  once : s.cell.built.NodupKeys
  /-- A call's connection is the one made for its URL, to the target and with the security
  that URL asks for. -/
  genuine : ∀ p ∈ s.procs, ∀ conn, p.phase = .returned (.ok conn) →
    ⟨p.key, conn⟩ ∈ s.cell.built ∧ ∃ useTLS,
      grpcTarget parseError p.key = .ok (conn.target, useTLS) ∧ conn.insecure = !useTLS
  /-- Calls for one URL get one connection. -/
  agree : ∀ p ∈ s.procs, ∀ q ∈ s.procs, ∀ c₁ c₂, p.key = q.key →
    p.phase = .returned (.ok c₁) → q.phase = .returned (.ok c₂) → c₁ = c₂
  /-- A failure is what the call's own dial was answered. -/
  failed : ∀ (i : Nat) (p : MemoCall String ClientConn Err) (e : Err), s.procs[i]? = some p →
    p.phase = .returned (.error e) →
    ∃ answer, Turn.move i (.build answer) ∈ ts ∧ dialConn parseError p.key answer = .error e

section Runs

variable {s : Shared (Memo String ClientConn) (MemoCall String ClientConn Err)}
  {ts : List (Turn String (MemoMove (Except Err Nat)))}

private theorem returned_sound (h : runAll (connStep parseError) ⟨{}, []⟩ ts = some s)
    {p : MemoCall String ClientConn Err} (hp : p ∈ s.procs) {r : Except Err ClientConn}
    (hr : p.phase = .returned r) : s.cell.Backs (dialConn parseError) p.key r := by
  have hsound := (memo_kept h).each p hp
  simpa only [MemoCall.Sound, hr] using hsound

private theorem connsKept_of_run (h : runAll (connStep parseError) ⟨{}, []⟩ ts = some s) :
    ConnsKept parseError ts s := by
  have hcell := (memo_kept h).cell
  constructor
  · exact hcell.nodupKeys
  · intro p hp conn hr
    have hbuilt := hcell.lookup_iff.mp (returned_sound h hp hr)
    obtain ⟨answer, hdial⟩ := hcell.genuine _ hbuilt
    exact ⟨hbuilt, dialConn_ok hdial⟩
  · intro p hp q hq c₁ c₂ hkey hr₁ hr₂
    have h₁ : s.cell.table.lookup p.key = some c₁ := returned_sound h hp hr₁
    have h₂ : s.cell.table.lookup q.key = some c₂ := returned_sound h hq hr₂
    rw [hkey, h₂] at h₁
    exact (Option.some.inj h₁).symm
  · exact fun i p e here hr ↦ memo_failed h here hr

/-- However the calls for connections interleave, one connection is made for a URL and all calls
for it get that one; a call that fails does so by its own dial. Wherever the calls stand and
whatever dials are answered, each call returns after turns that are all its own or those of the
lock's holder. -/
theorem conns_one_per_url (h : runAll (connStep parseError) ⟨{}, []⟩ ts = some s) :
    ConnsKept parseError ts s ∧
    ∀ (answer : Except Err Nat) (i : Nat) (p : MemoCall String ClientConn Err),
      s.procs[i]? = some p →
      ∃ ts' s' r, runAll (connStep parseError) s ts' = some s' ∧
        (∀ t ∈ ts', s.ByCallOrHolder i answer t) ∧
        s'.procs[i]? = some ⟨p.key, .returned r⟩ :=
  ⟨connsKept_of_run h, fun answer _ _ here ↦ memo_returns h here answer⟩

/-- `Close` reaches every connection that was made, each once, also after one of them failed to
close, and returns the first failure. -/
theorem conns_all_closed {π σ : Type} (h : runAll (connStep parseError) ⟨{}, []⟩ ts = some s)
    {order : List ClientConn} (horder : order.Perm (s.cell.table.entries.map Sigma.snd))
    (close : ClientConn → Seam σ (Option Err)) (w : σ) :
    ∃ es w', (closeEach close order none : Exec π σ _ _) w =
        (es, w', .ok (es.findSome? Prod.snd)) ∧
      (es.map Prod.fst).Perm (s.cell.built.map Sigma.snd) := by
  obtain ⟨es, w', hrun, hes⟩ := closeEach_run close order none w
  refine ⟨es, w', hrun, ?_⟩
  rw [hes]
  refine horder.trans ?_
  rw [(memo_kept h).cell.entries, List.map_reverse]
  exact List.reverse_perm _

end Runs

end Dial

section Race

/-- Two calls for one supplier miss, the first dials, and the second finds the connection under
the lock; a call for another supplier fails to dial. -/
def racingCalls : List (Turn String (MemoMove (Except Err Nat))) :=
  [.arrive "10.0.0.1:9000", .arrive "10.0.0.1:9000", .arrive "10.0.0.2:9000", .move 0 .load,
    .move 1 .load, .move 0 .lock, .move 0 .recheck, .move 2 .load, .move 0 (.build (.ok 7)),
    .move 0 .unlock, .move 1 .lock, .move 1 .recheck, .move 1 .unlock, .move 2 .lock,
    .move 2 .recheck, .move 2 (.build (.error (.text "refused"))), .move 2 .unlock]

/-- Where the three calls end, or where they stand after some of their turns. -/
def racedTo (turns : Nat) :
    Option (Shared (Memo String ClientConn) (MemoCall String ClientConn Err)) :=
  let _ : GoLib := GoLib.plain
  runAll (connStep (fun _ ↦ .text "")) ⟨{}, []⟩ (racingCalls.take turns)

/-- At the end the three calls have what they can rely on; before it, with the lock held by the
first call and the second waiting for it, the second one can return. -/
theorem conns_one_per_url_racing :
    let _ : GoLib := GoLib.plain
    (racedTo 17).map (fun s ↦ s.cell.built) =
      some [⟨"10.0.0.1:9000", ⟨7, "10.0.0.1:9000", true⟩⟩] ∧
    (∃ s, racedTo 17 = some s ∧ ConnsKept (fun _ ↦ .text "") (racingCalls.take 17) s) ∧
    ∃ s, racedTo 8 = some s ∧ s.procs[1]? = some ⟨"10.0.0.1:9000", .waiting⟩ ∧
      s.cell.held = true ∧
      ∃ ts' s' r, runAll (connStep (fun _ ↦ .text "")) s ts' = some s' ∧
        (∀ t ∈ ts', s.ByCallOrHolder 1 (.ok 7) t) ∧
        s'.procs[1]? = some ⟨"10.0.0.1:9000", .returned r⟩ := by
  let _ : GoLib := GoLib.plain
  refine ⟨by decide +kernel, ?_, ?_⟩
  · obtain ⟨s, hs⟩ := Option.isSome_iff_exists.mp (by decide +kernel : (racedTo 17).isSome = true)
    exact ⟨s, hs, (conns_one_per_url hs).1⟩
  · obtain ⟨s, hs, here, held⟩ : ∃ s, racedTo 8 = some s ∧
        s.procs[1]? = some ⟨"10.0.0.1:9000", .waiting⟩ ∧ s.cell.held = true := ⟨_, rfl, rfl, rfl⟩
    exact ⟨s, hs, here, held, (conns_one_per_url hs).2 (.ok 7) 1 _ here⟩

/-- The one connection of the three calls is closed. -/
theorem conns_all_closed_racing :
    ∃ s, racedTo 17 = some s ∧
      ∃ es w', (closeEach (fun _ ↦ fun w ↦ (none, w)) (s.cell.table.entries.map Sigma.snd) none :
          Exec Empty Unit _ _) () = (es, w', .ok (es.findSome? Prod.snd)) ∧
        (es.map Prod.fst).Perm (s.cell.built.map Sigma.snd) := by
  let _ : GoLib := GoLib.plain
  obtain ⟨s, hs⟩ := Option.isSome_iff_exists.mp (by decide +kernel : (racedTo 17).isSome = true)
  exact ⟨s, hs, conns_all_closed hs (.refl _) _ ()⟩

end Race

end PocketAp.Pocket
