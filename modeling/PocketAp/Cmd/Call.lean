import PocketAp.Cmd.Compare
import PocketAp.Relay.Observers
import PocketAp.Relay.StreamSuccess

/-!
# One relay from the command line

`src/cmd/pocket-ap/call.go:150–270, 447–481, 502–625`. `call` relays one request: every batch
goes to stdout as it arrives, a recorder in the seams notes what happened, and with `-compare`
the whole body is set against a direct request. The direct request runs beside the relay and
shares nothing with it, so that its result is given here. Latencies and the texts printed on
stderr are left out.
-/

namespace PocketAp.Cmd

open PocketAp.Base PocketAp.Domain PocketAp.Relay

/-! ### The recorder -/

/-- `src/cmd/pocket-ap/call.go:503–514`. -/
structure Recorder where
  session : Option Session
  ordered : List Endpoint
  attempts : List (EndpointAddr × Option Err)

namespace Recorder

/-- `src/cmd/pocket-ap/call.go:516–520`. -/
def setSession (rec : Recorder) (s : Session) : Recorder := { rec with session := some s }

/-- `src/cmd/pocket-ap/call.go:522–526`. -/
def setOrdered (rec : Recorder) (eps : List Endpoint) : Recorder := { rec with ordered := eps }

/-- `src/cmd/pocket-ap/call.go:528–532`. -/
def addAttempt (rec : Recorder) (a : EndpointAddr × Option Err) : Recorder :=
  { rec with attempts := rec.attempts ++ [a] }

/-- `src/cmd/pocket-ap/call.go:536–544`. -/
def lastAttempt (rec : Recorder) : EndpointAddr :=
  match rec.attempts.getLast? with
  | none => "unknown-supplier"
  | some a => a.1

end Recorder

/-- What the callback of the relay keeps, and what has reached stdout.
`src/cmd/pocket-ap/call.go:217–221`. -/
structure Output where
  first : Option RelayResult
  batches : Nat
  fullBody : Bytes
  stdout : Bytes
  deriving DecidableEq, Repr

/-- The variables of `runCall` that its relay changes. -/
structure CallVars where
  recorder : Recorder
  output : Output

/-- Before the relay. -/
def CallVars.start : CallVars := ⟨⟨none, [], []⟩, ⟨none, 0, [], []⟩⟩

/-! ### The seams -/

section Seams

variable {τ : Type}

/-- `src/cmd/pocket-ap/call.go:586–597`. -/
def recSessions (inner : ServiceID → Seam τ (Except Err Session)) (serviceID : ServiceID) :
    Seam (CallVars × τ) (Except Err Session) := fun s ↦
  match inner serviceID s.2 with
  | (.ok session, w) =>
    (.ok session, { s.1 with recorder := s.1.recorder.setSession session }, w)
  | (.error e, w) => (.error e, s.1, w)

/-- It is told of the outcomes itself. `src/cmd/pocket-ap/call.go:605–625`. -/
def recSelector (inner : Selector τ) : Selector (CallVars × τ) where
  select ctx serviceID endpoints rpcType := fun s ↦
    match inner.select ctx serviceID endpoints rpcType s.2 with
    | (.ok ordered, w) =>
      (.ok ordered, { s.1 with recorder := s.1.recorder.setOrdered ordered }, w)
    | (.error e, w) => (.error e, s.1, w)
  observer := some fun supplier o s ↦
    ({ s.1 with recorder := s.1.recorder.addAttempt (supplier, o.err) }, s.2)

/-- The relayer of `call`. `src/cmd/pocket-ap/call.go:158–175`. -/
def recording (r : Relayer τ) : Relayer (CallVars × τ) :=
  { liftRelayer CallVars r with
    sessions := recSessions r.sessions
    selector := recSelector r.selector }

variable {π γ : Type}

/-- A batch is counted, and kept if it is needed later. `src/cmd/pocket-ap/call.go:225–231`. -/
def Output.take (buffering : Bool) (result : RelayResult) (out : Output) : Output :=
  { out with
    batches := out.batches + 1
    first := out.first.or (some result)
    fullBody := if buffering then out.fullBody ++ result.body else out.fullBody }

/-- Bytes reach stdout. -/
def Output.wrote (bytes : Bytes) (out : Output) : Output := { out with stdout := out.stdout ++ bytes }

/-- A write to stdout: everything is written, or so many bytes and an error. -/
abbrev Writer (τ : Type) := Bytes → Seam τ (Option (Nat × Err))

/-- `src/cmd/pocket-ap/call.go:235`. -/
def print (stdout : Writer τ) (body : Bytes) : Seam (CallVars × τ) (Option Err) := fun s ↦
  match stdout body s.2 with
  | (none, w) => (none, { s.1 with output := s.1.output.wrote body }, w)
  | (some (n, e), w) => (some e, { s.1 with output := s.1.output.wrote (body.take n) }, w)

/-- The callback. `src/cmd/pocket-ap/call.go:224–237`. -/
def onBatch (buffering : Bool) (stdout : Writer τ) (result : RelayResult) :
    Exec π (CallVars × τ) γ (Except Err Unit) := do
  Exec.assign fun s ↦ ({ s.1 with output := s.1.output.take buffering result }, s.2)
  match ← Exec.act (print stdout result.body) with
  | none => pure (.ok ())
  | some e => pure (.error e)

end Seams

/-! ### The command -/

/-- The outcome of the direct request. `src/cmd/pocket-ap/call.go:353–358`. -/
structure Direct where
  status : Int
  body : Bytes
  err : Option Err
  deriving DecidableEq, Repr

/-- What the direct request has left if it panicked. `src/cmd/pocket-ap/call.go:204–207`. -/
def Direct.zero : Direct := ⟨0, [], none⟩

/-- What `-compare` reports: for each side that did not fail its status and its length, for
the relay also the supplier. -/
structure Comparison where
  pocket : Except Err (EndpointAddr × Int × Nat)
  direct : Except Err (Int × Nat)
  verdict : Verdict

/-- The result is read through a pointer, which may be nil: `none` is the panic.
`src/cmd/pocket-ap/call.go:451–490`. -/
def dumpCompare (rec : Recorder) (result : Option RelayResult) (relayErr : Option Err)
    (direct : Direct) : Option Comparison :=
  let viaDirect : Except Err (Int × Nat) :=
    match direct.err with
    | some e => .error e
    | none => .ok (direct.status, direct.body.length)
  let directBody : Except Err Bytes :=
    match direct.err with
    | some e => .error e
    | none => .ok direct.body
  match relayErr, result with
  | some e, _ => some ⟨.error e, viaDirect, verdict (.error e) directBody⟩
  | none, none => none
  | none, some result =>
    some ⟨.ok (rec.lastAttempt, result.statusCode, result.body.length), viaDirect,
      verdict (.ok result.body) directBody⟩

/-- How `call` ends: the comparison if there is one, the error it returns, and the status it
notes on stderr. -/
structure CallEnd where
  comparison : Option Comparison
  err : Option Err
  note : Option Int

/-- The panic of a nil pointer. -/
inductive CallPanic where
  | nilDereference
  deriving DecidableEq, Repr

/-- `src/cmd/pocket-ap/call.go:250–256`. -/
def Output.compared (out : Output) : Option RelayResult :=
  out.first.map fun first ↦ { first with body := out.fullBody }

/-- `src/cmd/pocket-ap/call.go:266–268`. -/
def Output.note (out : Output) : Option Int :=
  match out.first with
  | none => none
  | some first =>
    if first.statusCode ≠ 0 ∧ (first.statusCode < 200 ∨ 300 ≤ first.statusCode) then
      some first.statusCode
    else none

/-- The error of a relay. -/
def relayErr : Except Err Unit → Option Err
  | .error e => some e
  | .ok () => none

/-- After the relay. `src/cmd/pocket-ap/call.go:249–269`. -/
def finishCall (compare : Option Direct) (vars : CallVars) (err : Option Err) :
    Except CallPanic CallEnd :=
  let note := if err.isSome then none else vars.output.note
  match compare with
  | none => .ok ⟨none, err, note⟩
  | some direct =>
    match dumpCompare vars.recorder vars.output.compared err direct with
    | none => .error .nilDereference
    | some c => .ok ⟨some c, err, note⟩

section Command

variable {τ γ : Type} [GoLib]

/-- The relay of `call`. `src/cmd/pocket-ap/call.go:213–237`. -/
def callRelay {π : Type} (r : Relayer τ) (stdout : Writer τ) (buffering : Bool) (ctx : Context)
    (serviceID : ServiceID) (rpcType : RPCType) (input : RelayInput) :
    Exec π (CallVars × τ) (Event γ) (Except Err Unit) :=
  (recording r).relayStream ctx serviceID rpcType input (onBatch buffering stdout)

/-- From the relay on; `compare` is what the direct request gave, if there is one.
`src/cmd/pocket-ap/call.go:195–270`. -/
def runCall (r : Relayer τ) (stdout : Writer τ) (compare : Option Direct) (ctx : Context)
    (serviceID : ServiceID) (rpcType : RPCType) (input : RelayInput) :
    Exec CallPanic (CallVars × τ) (Event γ) CallEnd := do
  let err ← callRelay r stdout compare.isSome ctx serviceID rpcType input
  let vars ← Exec.peek Prod.fst
  match finishCall compare vars (relayErr err) with
  | .error p => Exec.throw p
  | .ok ending => pure ending

end Command

/-! ### What the callback leaves behind -/

/-- The variables after the callback was given some results, the last of which may not have
reached stdout completely. -/
structure Printed (buffering : Bool) (results : List RelayResult) (out : Output) : Prop where
  first : out.first = results.head?
  batches : out.batches = results.length
  fullBody : buffering = true → out.fullBody = results.flatMap RelayResult.body
  stdout : out.stdout <+: results.flatMap RelayResult.body

section Callback

variable {π τ γ : Type} {buffering : Bool} {stdout : Writer τ} {result : RelayResult}
  {s : CallVars × τ} {w : τ}

private theorem onBatch_written (h : stdout result.body s.2 = (none, w)) :
    (onBatch buffering stdout result : Exec π _ γ _) s =
      ([], ({ s.1 with output := (s.1.output.take buffering result).wrote result.body }, w),
        .ok (.ok ())) := by
  have hp : print stdout result.body
      ({ s.1 with output := s.1.output.take buffering result }, s.2) = (none,
        { s.1 with output := (s.1.output.take buffering result).wrote result.body }, w) := by
    simp only [print, h]
  unfold onBatch
  rw [Exec.bind_run_ok (Exec.assign_run _ _), Exec.bind_run_ok (Exec.act_run hp)]
  rfl

private theorem onBatch_failed {n : Nat} {e : Err} (h : stdout result.body s.2 = (some (n, e), w)) :
    (onBatch buffering stdout result : Exec π _ γ _) s =
      ([], ({ s.1 with
        output := (s.1.output.take buffering result).wrote (result.body.take n) }, w),
        .ok (.error e)) := by
  have hp : print stdout result.body
      ({ s.1 with output := s.1.output.take buffering result }, s.2) = (some e,
        { s.1 with output := (s.1.output.take buffering result).wrote (result.body.take n) }, w) := by
    simp only [print, h]
  unfold onBatch
  rw [Exec.bind_run_ok (Exec.assign_run _ _), Exec.bind_run_ok (Exec.act_run hp)]
  rfl

/-- A result that reaches stdout completely continues what was printed completely. -/
theorem Printed.written {results : List RelayResult} {out : Output}
    (h : Printed buffering results out) (hw : out.stdout = results.flatMap RelayResult.body)
    (result : RelayResult) :
    Printed buffering (results ++ [result]) ((out.take buffering result).wrote result.body) ∧
      ((out.take buffering result).wrote result.body).stdout =
        (results ++ [result]).flatMap RelayResult.body := by
  have hall : ((out.take buffering result).wrote result.body).stdout =
      (results ++ [result]).flatMap RelayResult.body := by
    simp [Output.wrote, Output.take, hw]
  refine ⟨⟨?_, ?_, fun hb ↦ ?_, ?_⟩, hall⟩
  · simp only [Output.wrote, Output.take, h.first]
    cases results <;> rfl
  · simp [Output.wrote, Output.take, h.batches]
  · simp [Output.wrote, Output.take, hb, h.fullBody hb]
  · rw [hall]

/-- A result that reaches stdout in part is the last one. -/
theorem Printed.failed {results : List RelayResult} {out : Output}
    (h : Printed buffering results out) (hw : out.stdout = results.flatMap RelayResult.body)
    (result : RelayResult) (n : Nat) : Printed buffering (results ++ [result])
      ((out.take buffering result).wrote (result.body.take n)) := by
  obtain ⟨⟨hfirst, hbatches, hbody, -⟩, -⟩ := h.written hw result
  refine ⟨hfirst, hbatches, hbody, ?_⟩
  simp only [Output.wrote, Output.take, hw, List.flatMap_append, List.flatMap_singleton]
  exact (List.prefix_append_right_inj _).mpr (List.take_prefix n result.body)

end Callback

/-! ### Delivery -/

section Delivery

variable {π τ γ : Type} {r : Relayer τ} {buffering : Bool} {stdout : Writer τ}
  {supplier : EndpointAddr}

/-- The callback does not panic, and what it returns is up to stdout. -/
theorem callOnBatch_onBatch (result : RelayResult) (s : CallVars × τ) {es : List (Event γ)}
    {s' : CallVars × τ} {out : Except π (Except Err Unit)}
    (h : callOnBatch (onBatch buffering stdout) result s = (es, s', out)) :
    es = [.onBatch result] ∧ ((out = .ok (.ok ()) ∧
        s'.1.output = (s.1.output.take buffering result).wrote result.body) ∨
      ∃ n e, out = .ok (.error e) ∧
        s'.1.output = (s.1.output.take buffering result).wrote (result.body.take n)) := by
  rw [callOnBatch_run] at h
  rcases hs : stdout result.body s.2 with ⟨_ | ⟨n, e⟩, w⟩
  · rw [onBatch_written hs] at h
    cases h
    exact ⟨rfl, .inl ⟨rfl, rfl⟩⟩
  · rw [onBatch_failed hs] at h
    cases h
    exact ⟨rfl, .inr ⟨n, e, rfl, rfl⟩⟩

/-- The validator sees none of the variables. -/
private theorem validated_vars {batch : Bytes} {s s' : CallVars × τ}
    {res : Except Err RelayResult} (h : (recording r).validator supplier batch s = (res, s')) :
    s'.1 = s.1 := by
  cases h
  rfl

/-- The batches of one supplier that were accepted have been printed. -/
theorem delivers_printed {s s' : CallVars × τ} {done : List (Bytes × RelayResult)}
    {es : List (Event γ)} {results : List RelayResult}
    (h : Delivers ((recording r).validator supplier) supplier
      (callOnBatch (onBatch buffering stdout : RelayResult → Exec π _ _ _)) s done es s')
    (hp : Printed buffering results s.1.output)
    (hw : s.1.output.stdout = results.flatMap RelayResult.body) :
    es.filterMap Event.batch? = done.map Prod.snd ∧
      Printed buffering (results ++ done.map Prod.snd) s'.1.output ∧
      s'.1.output.stdout = (results ++ done.map Prod.snd).flatMap RelayResult.body ∧
      ∀ p ∈ done, .validate supplier p.1 (.ok p.2) ∈ es := by
  induction h generalizing results with
  | nil s => exact ⟨rfl, by simpa using hp, by simpa using hw, fun _ hm ↦ absurd hm List.not_mem_nil⟩
  | @cons s s₁ s₂ s₃ done es es' batch result valid accepted tail ih =>
    obtain ⟨rfl, hout⟩ := callOnBatch_onBatch result s₁ accepted
    rcases hout with ⟨-, hout⟩ | ⟨n, e, hout, -⟩
    · rw [validated_vars valid] at hout
      obtain ⟨hp', hw'⟩ := hp.written hw result
      rw [← hout] at hp' hw'
      obtain ⟨hes, hp'', hw'', hall⟩ := ih hp' hw'
      refine ⟨congrArg (result :: ·) hes, by simpa using hp'', by simpa using hw'', ?_⟩
      intro p hm
      rcases List.mem_cons.mp hm with rfl | hm
      · exact List.mem_cons_self
      · exact List.mem_cons_of_mem _ (List.mem_append_right _ (hall p hm))
    · cases hout

/-- What was handed to the callback came from one supplier and was found valid. -/
def ValidFor (supplier : EndpointAddr) (results : List RelayResult) (es : List (Event γ)) : Prop :=
  ∀ result ∈ results, ∃ batch, .validate supplier batch (.ok result) ∈ es

/-- What consuming a reply leaves behind, whether or not the reply is taken to its end. -/
theorem deliverRun_printed {s s' : CallVars × τ} {ending : Except Err Unit} {bs : List Bytes}
    {es : List (Event γ)} {out : Except π (Except Err Unit × Bool)}
    (h : DeliverRun ((recording r).validator supplier) supplier
      (callOnBatch (onBatch buffering stdout)) ending false s bs (es, s', out))
    (hs : s.1.output = CallVars.start.output) :
    ∃ res, out = .ok res ∧ Printed buffering (es.filterMap Event.batch?) s'.1.output ∧
      ValidFor supplier (es.filterMap Event.batch?) es ∧ (res.1 = .ok () →
        s'.1.output.stdout = (es.filterMap Event.batch?).flatMap RelayResult.body) := by
  have hp : Printed buffering [] s.1.output := by
    rw [hs]
    exact ⟨rfl, rfl, fun _ ↦ rfl, List.prefix_rfl⟩
  have hw : s.1.output.stdout = ([] : List RelayResult).flatMap RelayResult.body := by
    rw [hs]
    rfl
  have hvalid {done : List (Bytes × RelayResult)} {es : List (Event γ)}
      (hall : ∀ p ∈ done, .validate supplier p.1 (.ok p.2) ∈ es) (es' : List (Event γ)) :
      ValidFor supplier (done.map Prod.snd) (es ++ es') := by
    intro result hm
    obtain ⟨p, hp, rfl⟩ := List.mem_map.mp hm
    exact ⟨p.1, List.mem_append_left _ (hall p hp)⟩
  cases h with
  | complete done es s' all delivers run_eq =>
    cases run_eq
    obtain ⟨hes, hp', hw', hall⟩ := delivers_printed delivers hp hw
    rw [List.nil_append] at hp' hw'
    rw [hes]
    refine ⟨_, rfl, hp', ?_, fun _ ↦ hw'⟩
    have hv := hvalid hall []
    rwa [List.append_nil] at hv
  | invalid done batch rest es s' s'' e split delivers failed run_eq =>
    cases run_eq
    obtain ⟨hes, hp', hw', hall⟩ := delivers_printed delivers hp hw
    have hlast : (es ++ [Event.validate supplier batch (.error e)]).filterMap Event.batch? =
        done.map Prod.snd := by
      rw [List.filterMap_append, hes]
      exact List.append_nil _
    rw [hlast, validated_vars failed]
    exact ⟨_, rfl, hp', hvalid hall _, fun h ↦ by cases h⟩
  | refused done batch result rest es es' s' s₁ s₂ e split delivers valid failed run_eq =>
    cases run_eq
    obtain ⟨hes, hp', hw', hall⟩ := delivers_printed delivers hp hw
    obtain ⟨rfl, hout⟩ := callOnBatch_onBatch result s₁ failed
    have hlast : (es ++ Event.validate supplier batch (.ok result) :: [.onBatch result]).filterMap
        Event.batch? = done.map Prod.snd ++ [result] := by
      rw [List.filterMap_append, hes]
      rfl
    rw [hlast]
    rcases hout with ⟨hout, -⟩ | ⟨n, e', -, hout⟩
    · cases hout
    · rw [validated_vars valid] at hout
      rw [hout]
      refine ⟨_, rfl, hp'.failed hw' result n, ?_, fun h ↦ by cases h⟩
      intro result' hm
      rcases List.mem_append.mp hm with hm | hm
      · exact hvalid hall _ result' hm
      · cases List.mem_singleton.mp hm
        exact ⟨batch, by simp⟩
  | panicked done batch result rest es es' s' s₁ s₂ p split delivers valid failed run_eq =>
    obtain ⟨-, ⟨hout, -⟩ | ⟨n, e, hout, -⟩⟩ := callOnBatch_onBatch result s₁ failed
    · cases hout
    · cases hout

end Delivery

/-! ### A whole relay -/

section Relay

variable {π τ γ : Type} {r : Relayer τ} {buffering : Bool} {stdout : Writer τ}
  {serviceID : ServiceID} {rpcType : RPCType}

/-- Being told of an outcome leaves a note, and the output as it is. -/
private theorem afterObserve_recording (supplier : EndpointAddr) (success : Bool)
    (err : Option Err) (s : CallVars × τ) :
    (recording r).afterObserve serviceID rpcType supplier success err s =
      ({ s.1 with recorder := s.1.recorder.addAttempt (supplier, err) }, s.2) := rfl

private theorem observed_recording (supplier : EndpointAddr) (success : Bool) (err : Option Err) :
    ((recording r).observed serviceID rpcType supplier success err : List (Event γ)) =
      [.observe supplier ⟨serviceID, rpcType, success, err⟩] := rfl

private theorem lastAttempt_addAttempt (rec : Recorder) (supplier : EndpointAddr)
    (err : Option Err) : (rec.addAttempt (supplier, err)).lastAttempt = supplier := by
  simp [Recorder.addAttempt, Recorder.lastAttempt]

/-- The events around a delivery are not the callback's. -/
private theorem batches_around (before es after : List (Event γ))
    (hb : before.filterMap Event.batch? = []) (ha : after.filterMap Event.batch? = []) :
    (before ++ (es ++ after)).filterMap Event.batch? = es.filterMap Event.batch? := by
  rw [List.filterMap_append, List.filterMap_append, hb, ha, List.nil_append, List.append_nil]

variable [GoLib] {input : RelayInput}
  {sendStream : String → Bytes → RPCType → Seam (CallVars × τ) (Except Err Reply)}

/-- The attempt that ends a relay; until then nothing was printed. -/
theorem attempt_printed {session : Session} {ep : Endpoint} {s s' : CallVars × τ}
    {es : List (Event γ)} {out : Except π (Except Err Unit)}
    (hsend : (recording r).streamSender = some sendStream)
    (h : (recording r).AttemptRun serviceID rpcType sendStream input (onBatch buffering stdout)
      session ep s (es, s', out.map .finish))
    (hs : s.1.output = CallVars.start.output) :
    ∃ res, out = .ok res ∧ Printed buffering (es.filterMap Event.batch?) s'.1.output ∧
      ValidFor ep.supplier (es.filterMap Event.batch?) es ∧ (res = .ok () →
        s'.1.output.stdout = (es.filterMap Event.batch?).flatMap RelayResult.body ∧
          s'.1.recorder.lastAttempt = ep.supplier) := by
  have hsigned {relayReq : Except Err Bytes} {s₁ : CallVars × τ}
      (hsign : (recording r).signer session ep rpcType input s = (relayReq, s₁)) : s₁.1 = s.1 := by
    cases hsign
    rfl
  cases h with
  | noURL absent run_eq => cases out <;> simp [Except.map] at run_eq
  | unsigned url e s₁ found signed run_eq =>
    cases out with
    | error p => simp [Except.map] at run_eq
    | ok res =>
      cases run_eq
      have hout : s'.1.output = CallVars.start.output := by rw [hsigned signed, hs]
      refine ⟨_, rfl, ?_, fun _ hm ↦ absurd hm List.not_mem_nil, fun hok ↦ by cases hok⟩
      rw [hout]
      exact ⟨rfl, rfl, fun _ ↦ rfl, List.prefix_rfl⟩
  | unsent url relayReq e s₁ s₂ found signed sent run_eq =>
    cases out <;> simp [Except.map] at run_eq
  | consumed url relayReq reply s₁ s₂ batches found signed sent delivery run_eq =>
    have hsent : s₂.1 = s₁.1 := by
      obtain ⟨f, -, rfl⟩ := Option.map_eq_some_iff.mp hsend
      exact (congrArg (fun p ↦ p.2.1) sent).symm
    rcases batches with ⟨es₀, s₀, o⟩
    obtain ⟨res, rfl, hp, hv, hw⟩ := deliverRun_printed delivery
      (by rw [hsent, hsigned signed, hs])
    have hvalid (before after : List (Event γ)) :
        ValidFor ep.supplier (es₀.filterMap Event.batch?) (before ++ (es₀ ++ after)) := by
      intro result hm
      obtain ⟨batch, hmem⟩ := hv result hm
      exact ⟨batch, List.mem_append_right _ (List.mem_append_left _ hmem)⟩
    cases out with
    | error p => rcases res with ⟨e | u, delivered⟩ <;> simp [Except.map, Relayer.afterDelivery] at run_eq
    | ok out =>
      rcases res with ⟨e | u, delivered⟩
      · simp only [Relayer.afterDelivery, observed_recording, afterObserve_recording, Except.map,
          Prod.mk.injEq, Except.ok.injEq] at run_eq
        obtain ⟨rfl, rfl, hfinish⟩ := run_eq
        rw [batches_around _ _ _ rfl rfl]
        refine ⟨out, rfl, hp, hvalid _ _, fun hok ↦ ?_⟩
        subst hok
        split at hfinish <;> cases hfinish
      · simp only [Relayer.afterDelivery, observed_recording, afterObserve_recording, Except.map,
          Prod.mk.injEq, Except.ok.injEq] at run_eq
        obtain ⟨rfl, rfl, -⟩ := run_eq
        rw [batches_around _ _ _ rfl rfl]
        exact ⟨out, rfl, hp, hvalid _ _, fun _ ↦ ⟨hw rfl, lastAttempt_addAttempt _ _ _⟩⟩

omit [GoLib] in
/-- Until a batch is handed on, the output stays as it was. -/
private theorem keeps_output (out : Output) :
    (recording r).Keeps fun s : CallVars × τ ↦ s.1.output = out := by
  constructor
  · intro serviceID s h
    simp only [recording, recSessions]
    rcases r.sessions serviceID s.2 with ⟨_ | _, w⟩ <;> exact h
  · exact fun _ _ _ _ _ h ↦ h
  · exact fun _ _ _ h ↦ h
  · intro ctx serviceID endpoints rpcType s h
    simp only [recording, recSelector]
    rcases r.selector.select ctx serviceID endpoints rpcType s.2 with ⟨_ | _, w⟩ <;> exact h
  · intro f hf supplier outcome s h
    cases hf
    exact h
  · exact fun _ _ _ _ h ↦ h
  · intro f hf url relayReq rpcType s h
    obtain ⟨g, -, rfl⟩ := Option.map_eq_some_iff.mp hf
    exact h

/-- An attempt the selector is told of. -/
def attempt? : Event γ → Option (EndpointAddr × Option Err)
  | .observe supplier o => some (supplier, o.err)
  | _ => none

omit [GoLib] in
/-- The recorder's attempts change with the reports, and with nothing else. -/
private theorem tracks_attempts :
    (recording r).Tracks (fun s : CallVars × τ ↦ s.1.recorder.attempts)
      (fun v (ev : Event γ) ↦ v ++ (attempt? ev).toList) where
  seams v := by
    constructor
    · intro serviceID s h
      simp only [recording, recSessions]
      rcases r.sessions serviceID s.2 with ⟨_ | _, w⟩ <;> exact h
    · exact fun _ _ _ _ _ h ↦ h
    · exact fun _ _ _ h ↦ h
    · intro ctx serviceID endpoints rpcType s h
      simp only [recording, recSelector]
      rcases r.selector.select ctx serviceID endpoints rpcType s.2 with ⟨_ | _, w⟩ <;> exact h
    · intro f hf
      cases hf
    · exact fun _ _ _ _ h ↦ h
    · intro f hf url relayReq rpcType s h
      obtain ⟨g, -, rfl⟩ := Option.map_eq_some_iff.mp hf
      exact h
  observe f hf supplier outcome s := by
    cases hf
    rfl
  other v ev hev := by
    cases ev with
    | observe supplier outcome => cases hev
    | _ => exact List.append_nil v

omit [GoLib] in
private theorem foldl_attempts (es : List (Event γ)) (v : List (EndpointAddr × Option Err)) :
    es.foldl (fun v ev ↦ v ++ (attempt? ev).toList) v = v ++ es.filterMap attempt? := by
  induction es generalizing v with
  | nil => simp
  | cons ev es ih =>
    rw [List.foldl_cons, ih, List.filterMap_cons]
    cases attempt? ev <;> simp

/-- The recorder notes what the selector is told. -/
private theorem callRelay_attempts (r : Relayer τ) (stdout : Writer τ) (buffering : Bool)
    (ctx : Context) (serviceID : ServiceID) (rpcType : RPCType) (input : RelayInput)
    (s : CallVars × τ) :
    ((callRelay r stdout buffering ctx serviceID rpcType input :
      Exec π (CallVars × τ) (Event γ) _) s).2.1.1.recorder.attempts =
        s.1.recorder.attempts ++ ((callRelay r stdout buffering ctx serviceID rpcType input :
          Exec π (CallVars × τ) (Event γ) _) s).1.filterMap attempt? := by
  rw [← foldl_attempts]
  refine tracks_attempts.follows_relayStream ctx serviceID rpcType input (fun result s ↦ ?_) s
  rcases hs : stdout result.body s.2 with ⟨_ | ⟨n, e⟩, w⟩
  · rw [Exec.after, onBatch_written hs]
  · rw [Exec.after, onBatch_failed hs]

/-- What a relay of `call` leaves behind: the output of what was handed to the callback, all of
it found valid for one supplier, and a note of every attempt. If it succeeded, stdout has all
of it and the last note names that supplier. -/
structure Relayed (buffering : Bool) (es : List (Event γ)) (vars : CallVars)
    (res : Except Err Unit) : Prop where
  printed : Printed buffering (es.filterMap Event.batch?) vars.output
  supplier : ∃ supplier, ValidFor supplier (es.filterMap Event.batch?) es ∧ (res = .ok () →
    vars.output.stdout = (es.filterMap Event.batch?).flatMap RelayResult.body ∧
      vars.recorder.lastAttempt = supplier)
  attempts : vars.recorder.attempts = es.filterMap attempt?

omit [GoLib] in
private theorem filterMap_reads {α : Type} (f : Event γ → Option α) (hf : ∀ c, f (.read c) = none)
    (es : List (Event γ)) : (es.filter fun e ↦ !e.isRead).filterMap f = es.filterMap f := by
  rw [List.filterMap_filter]
  congr 1
  funext e
  cases e with
  | read c => simp [Event.isRead, hf]
  | _ => rfl

/-- Nothing was handed on. -/
private theorem batches_of_noneDelivered {es : List (Event γ)} (h : NoneDelivered es) :
    es.filterMap Event.batch? = [] := by
  rw [List.filterMap_eq_nil_iff]
  intro ev hev
  have hf := h.1 ev hev
  cases ev with
  | onBatch result => cases hf
  | _ => rfl

/-- The run without its reads. -/
private theorem relayed_hidden (ctx : Context) (s : CallVars × τ)
    (hs : s.1.output = CallVars.start.output) {es : List (Event γ)} {s' : CallVars × τ}
    {out : Except π (Except Err Unit)}
    (h : Exec.hide Event.isRead (callRelay r stdout buffering ctx serviceID rpcType input) s =
      (es, s', out)) :
    ∃ res, out = .ok res ∧ Printed buffering (es.filterMap Event.batch?) s'.1.output ∧
      ∃ supplier, ValidFor supplier (es.filterMap Event.batch?) es ∧ (res = .ok () →
        s'.1.output.stdout = (es.filterMap Event.batch?).flatMap RelayResult.body ∧
          s'.1.recorder.lastAttempt = supplier) := by
  unfold callRelay at h
  cases hsend : (recording r).streamSender with
  | none =>
    rw [Relayer.relayStream, hsend] at h
    cases h
    refine ⟨_, rfl, ?_, "", fun _ hm ↦ absurd hm List.not_mem_nil, fun hok ↦ by cases hok⟩
    rw [hs]
    exact ⟨rfl, rfl, fun _ ↦ rfl, List.prefix_rfl⟩
  | some sendStream =>
    have hrun := relayStream_run (recording r) sendStream serviceID rpcType input
      (onBatch buffering stdout : RelayResult → Exec π _ γ _) ctx hsend _
      (keeps_output CallVars.start.output) s hs
    rw [h] at hrun
    cases hrun with
    | failed es₁ s₁ e before kept run_eq =>
      cases run_eq
      rw [batches_of_noneDelivered before, kept]
      exact ⟨_, rfl, ⟨rfl, rfl, fun _ ↦ rfl, List.prefix_rfl⟩, "",
        fun _ hm ↦ absurd hm List.not_mem_nil, fun hok ↦ by cases hok⟩
    | ended session ep es₁ final s₀ s₁ out before kept attempt run_eq =>
      cases run_eq
      obtain ⟨res, rfl, hp, hv, hok⟩ := attempt_printed hsend attempt kept
      rw [List.filterMap_append, batches_of_noneDelivered before, List.nil_append]
      refine ⟨res, rfl, hp, ep.supplier, fun result hm ↦ ?_, hok⟩
      obtain ⟨batch, hmem⟩ := hv result hm
      exact ⟨batch, List.mem_append_right _ hmem⟩

/-- A relay of `call` never panics. -/
theorem callRelay_relayed (r : Relayer τ) (stdout : Writer τ) (buffering : Bool)
    (ctx : Context) (serviceID : ServiceID) (rpcType : RPCType) (input : RelayInput) (s : τ) :
    ∃ es vars s' res,
      (callRelay r stdout buffering ctx serviceID rpcType input :
        Exec π (CallVars × τ) (Event γ) _) (CallVars.start, s) = (es, (vars, s'), .ok res) ∧
      Relayed buffering es vars res := by
  rcases hrun : (callRelay r stdout buffering ctx serviceID rpcType input :
    Exec π (CallVars × τ) (Event γ) _) (CallVars.start, s) with ⟨es, ⟨vars, s'⟩, out⟩
  have hhidden : Exec.hide Event.isRead (callRelay r stdout buffering ctx serviceID rpcType input)
      (CallVars.start, s) = (es.filter fun e ↦ !e.isRead, (vars, s'), out) := by
    rw [Exec.hide, hrun]
  obtain ⟨res, rfl, hp, supplier, hv, hok⟩ := relayed_hidden ctx (CallVars.start, s) rfl hhidden
  rw [filterMap_reads _ (fun _ ↦ rfl)] at hp hv hok
  refine ⟨es, vars, s', res, rfl, hp, ⟨supplier, fun result hm ↦ ?_, hok⟩, ?_⟩
  · obtain ⟨batch, hmem⟩ := hv result hm
    exact ⟨batch, (List.mem_filter.mp hmem).1⟩
  · have hattempts := callRelay_attempts (π := π) (γ := γ) r stdout buffering ctx serviceID rpcType
      input (CallVars.start, s)
    rw [hrun] at hattempts
    exact hattempts

end Relay

/-! ### The comparison -/

section Comparison

variable {τ γ : Type} [GoLib]

/-- A relay that returned nil has handed nothing on iff a reply was blank. -/
theorem undelivered_iff_blank {π σ : Type} (r : Relayer σ) (ctx : Context) (serviceID : ServiceID)
    (rpcType : RPCType) (input : RelayInput)
    (onBatch : RelayResult → Exec π σ γ (Except Err Unit)) {s s' : σ} {es : List (Event γ)}
    (h : r.relayStream ctx serviceID rpcType input onBatch s = (es, s', .ok (.ok ()))) :
    es.filterMap Event.batch? = [] ↔ ∃ url relayReq t reply,
      .sendStream url relayReq t (.ok reply) ∈ es ∧ reply.Blank := by
  cases hsend : r.streamSender with
  | none =>
    rw [Relayer.relayStream, hsend] at h
    cases h
  | some sendStream =>
    have hmem (url relayReq t reply) : (.sendStream url relayReq t (.ok reply) : Event γ) ∈ es ↔
        .sendStream url relayReq t (.ok reply) ∈ es.filter fun e ↦ !e.isRead := by
      simp [List.mem_filter, Event.isRead]
    have hrun := relayStream_run r sendStream serviceID rpcType input onBatch ctx hsend
      (fun _ ↦ True) (Relayer.Keeps.trivial r) s trivial
    rw [Exec.hide, h] at hrun
    rw [← filterMap_reads _ (fun _ ↦ rfl)]
    simp only [hmem]
    generalize es.filter (fun e ↦ !e.isRead) = es at hrun
    cases hrun with
    | failed es₁ s₁ e before kept run_eq => cases run_eq
    | ended session ep es₁ final s₀ s₁ out before kept attempt run_eq =>
      cases run_eq
      rw [List.filterMap_append, batches_of_noneDelivered before, List.nil_append]
      constructor
      · intro hnone
        by_contra hblank
        simp only [not_exists, not_and] at hblank
        obtain ⟨⟨batch, result, -, hr⟩, -⟩ := exists_delivered attempt
          (fun url relayReq t reply hm ↦ hblank url relayReq t reply (List.mem_append_right _ hm))
        have hm : result ∈ final.filterMap Event.batch? := List.mem_filterMap.mpr ⟨_, hr, rfl⟩
        rw [hnone] at hm
        cases hm
      · rintro ⟨url, relayReq, t, reply, hm, hblank⟩
        rcases List.mem_append.mp hm with hm | hm
        · exact absurd hblank (before.2 url relayReq t reply hm)
        · obtain ⟨-, hno⟩ := AttemptRun.of_blank attempt hm hblank
          rw [List.filterMap_eq_nil_iff]
          intro ev hev
          cases ev with
          | onBatch result => exact absurd hev (hno result)
          | _ => rfl

variable {r : Relayer τ} {stdout : Writer τ} {compare : Option Direct} {ctx : Context}
  {serviceID : ServiceID} {rpcType : RPCType} {input : RelayInput}

private theorem runCall_run {s s' : CallVars × τ} {es : List (Event γ)} {res : Except Err Unit}
    (h : (callRelay r stdout compare.isSome ctx serviceID rpcType input : Exec CallPanic _ _ _) s =
      (es, s', .ok res)) :
    runCall r stdout compare ctx serviceID rpcType input s =
      (es, s', finishCall compare s'.1 (relayErr res)) := by
  unfold runCall
  rw [Exec.bind_run_ok h, Exec.bind_run_ok (Exec.peek_run _ _)]
  cases finishCall compare s'.1 (relayErr res) with
  | error p => exact congrArg (·, _) (List.append_nil es)
  | ok ending => exact congrArg (·, _) (List.append_nil es)

omit [GoLib] in
private theorem finishCall_ok {vars : CallVars} {err : Option Err} {ending : CallEnd}
    (h : finishCall compare vars err = .ok ending) : ending.err = err ∧ ending.comparison =
      compare.bind (dumpCompare vars.recorder vars.output.compared err) := by
  unfold finishCall at h
  cases compare with
  | none =>
    cases h
    exact ⟨rfl, rfl⟩
  | some direct =>
    cases hd : dumpCompare vars.recorder vars.output.compared err direct with
    | none => simp [hd] at h
    | some c =>
      simp only [hd, Except.ok.injEq] at h
      subst h
      exact ⟨rfl, hd.symm⟩

omit [GoLib] in
/-- An error of the relay is returned, whatever there is to compare. -/
private theorem finishCall_error_iff {vars : CallVars} {res : Except Err Unit} {e : Err} :
    res = .error e ↔
      ∃ ending, finishCall compare vars (relayErr res) = .ok ending ∧ ending.err = some e := by
  constructor
  · rintro rfl
    cases compare with
    | none => exact ⟨_, rfl, rfl⟩
    | some direct => exact ⟨_, rfl, rfl⟩
  · rintro ⟨ending, hok, herr⟩
    rw [(finishCall_ok hok).1] at herr
    cases res with
    | error e' => exact congrArg _ (Option.some.inj herr)
    | ok u => cases herr

/-- What `call` prints are the bodies of results that one supplier sent and that were found
valid, in order and from the first on; it notes every attempt. It returns an error iff its
relay fails with that error. If the relay succeeds, everything it handed on is printed, and the
last attempt on record is that supplier's. -/
theorem call_prints_one_supplier (r : Relayer τ) (stdout : Writer τ) (compare : Option Direct)
    (ctx : Context) (serviceID : ServiceID) (rpcType : RPCType) (input : RelayInput) (s : τ) :
    ∃ es vars s' res out,
      (callRelay r stdout compare.isSome ctx serviceID rpcType input :
        Exec CallPanic (CallVars × τ) (Event γ) _) (CallVars.start, s) =
          (es, (vars, s'), .ok res) ∧
      (runCall r stdout compare ctx serviceID rpcType input :
        Exec CallPanic (CallVars × τ) (Event γ) _) (CallVars.start, s) = (es, (vars, s'), out) ∧
      Relayed compare.isSome es vars res ∧
      ∀ e, res = .error e ↔ ∃ ending, out = .ok ending ∧ ending.err = some e := by
  obtain ⟨es, vars, s', res, hrun, hrel⟩ := callRelay_relayed (π := CallPanic) (γ := γ)
    r stdout compare.isSome ctx serviceID rpcType input s
  exact ⟨es, vars, s', res, _, hrun, runCall_run hrun, hrel, fun _ ↦ finishCall_error_iff⟩

omit [GoLib] in
private theorem compared_eq_none_iff {out : Output} {buffering : Bool} {results : List RelayResult}
    (h : Printed buffering results out) : out.compared = none ↔ results = [] := by
  rw [Output.compared, Option.map_eq_none_iff, h.first, List.head?_eq_none_iff]

/-- `call -compare` dies of a nil pointer exactly if its relay succeeds with a blank reply:
nothing is printed, and there is no result to compare. Without `-compare` it never panics. -/
theorem compare_panics_iff_blank (r : Relayer τ) (stdout : Writer τ) (compare : Option Direct)
    (ctx : Context) (serviceID : ServiceID) (rpcType : RPCType) (input : RelayInput) (s : τ) :
    (runCall r stdout compare ctx serviceID rpcType input :
        Exec CallPanic (CallVars × τ) (Event γ) _).outcome (CallVars.start, s) =
          .error .nilDereference ↔
      compare.isSome = true ∧
      (callRelay r stdout compare.isSome ctx serviceID rpcType input :
        Exec CallPanic (CallVars × τ) (Event γ) _).outcome (CallVars.start, s) = .ok (.ok ()) ∧
      ∃ url relayReq t reply, .sendStream url relayReq t (.ok reply) ∈
        (callRelay r stdout compare.isSome ctx serviceID rpcType input :
          Exec CallPanic (CallVars × τ) (Event γ) _).events (CallVars.start, s) ∧ reply.Blank := by
  obtain ⟨es, vars, s', res, hrun, hrel⟩ := callRelay_relayed (π := CallPanic) (γ := γ)
    r stdout compare.isSome ctx serviceID rpcType input s
  have hcompared := compared_eq_none_iff hrel.printed
  rw [Exec.outcome, Exec.outcome, Exec.events, runCall_run hrun, hrun]
  cases compare with
  | none => simp [finishCall]
  | some direct =>
    cases res with
    | error e => simp [finishCall, relayErr, dumpCompare]
    | ok u =>
      rw [← undelivered_iff_blank (recording r) ctx serviceID rpcType input _ hrun, ← hcompared]
      cases hc : vars.output.compared with
      | none => simp [finishCall, relayErr, dumpCompare, hc]
      | some result => simp [finishCall, relayErr, dumpCompare, hc]

/-- What the comparison is told of the direct request. -/
def Direct.result (direct : Direct) : Except Err Bytes :=
  match direct.err with
  | some e => .error e
  | none => .ok direct.body

/-- A comparison that `call` reports judges what it printed: if the relay succeeded, the body
it compares is all of stdout, the status is that of the first batch, and the supplier it
names is the one the batches were found valid for. Bodies are left uncompared exactly if the
relay or the direct request failed; a direct request that panicked is not a failed one. -/
theorem compare_judges_printed {direct : Direct} {s : τ} {es : List (Event γ)} {vars : CallVars}
    {s' : τ} {ending : CallEnd} {c : Comparison}
    (h : runCall r stdout (some direct) ctx serviceID rpcType input (CallVars.start, s) =
      (es, (vars, s'), .ok ending)) (hc : ending.comparison = some c) :
    ∃ res, (callRelay r stdout true ctx serviceID rpcType input :
        Exec CallPanic (CallVars × τ) (Event γ) _) (CallVars.start, s) =
          (es, (vars, s'), .ok res) ∧ ending.err = relayErr res ∧
    (res = .ok () → ∃ supplier first, ValidFor supplier (es.filterMap Event.batch?) es ∧
      (es.filterMap Event.batch?).head? = some first ∧
      c.pocket = .ok (supplier, first.statusCode, vars.output.stdout.length) ∧
      c.verdict = verdict (.ok vars.output.stdout) direct.result) ∧
    (c.verdict = .notCompared ↔ (∃ e, res = .error e) ∨ direct.err.isSome = true) := by
  obtain ⟨es', vars', s'', res, hrun, hrel⟩ := callRelay_relayed (π := CallPanic) (γ := γ)
    r stdout (some direct).isSome ctx serviceID rpcType input s
  rw [runCall_run hrun] at h
  simp only [Prod.mk.injEq] at h
  obtain ⟨rfl, ⟨rfl, rfl⟩, hfin⟩ := h
  obtain ⟨herr, hcomp⟩ := finishCall_ok hfin
  refine ⟨res, hrun, herr, ?_⟩
  rw [hc, Option.bind_some] at hcomp
  obtain ⟨supplier, hvalid, hok⟩ := hrel.supplier
  cases res with
  | error e =>
    simp only [relayErr, dumpCompare, Option.some.injEq] at hcomp
    subst hcomp
    refine ⟨(fun h ↦ by cases h), ?_⟩
    simp [verdict]
  | ok u =>
    obtain ⟨hstdout, hlast⟩ := hok rfl
    have hbody : vars'.output.fullBody = vars'.output.stdout :=
      (hrel.printed.fullBody rfl).trans hstdout.symm
    cases hf : vars'.output.first with
    | none =>
      simp only [relayErr, dumpCompare, Output.compared, hf, Option.map_none] at hcomp
      cases hcomp
    | some first =>
      simp only [relayErr, dumpCompare, Output.compared, hf, Option.map_some, hbody, hlast,
        Option.some.injEq] at hcomp
      subst hcomp
      refine ⟨fun _ ↦ ⟨supplier, first, hvalid, hrel.printed.first ▸ hf, rfl, rfl⟩, ?_⟩
      cases direct.err with
      | some e => simp [verdict]
      | none =>
        simp only [verdict, reduceCtorEq, exists_false, Option.isSome_none, Bool.false_eq_true,
          or_self, iff_false]
        split
        · exact fun h ↦ by cases h
        · split <;> exact fun h ↦ by cases h

end Comparison

/-- A plain answer from one supplier, compared with the same body. -/
def comparedCall : Exec CallPanic (CallVars × Unit) (Event Empty) CallEnd :=
  let _ : GoLib := GoLib.plain
  runCall (Relayer.scripted [⟨"pokt1a", fun _ ↦ some "https://a.example"⟩]
    (fun _ ↦ .ok ⟨.final [1, 2] .eof, [], 200⟩)) (fun _ s ↦ (none, s)) (some ⟨200, [1, 2], none⟩)
    {} "eth" .rest ⟨"GET", "/", [], []⟩

/-- The bodies are found identical, and the comparison names the supplier that answered. -/
theorem compare_judges_printed_identical : ∃ es vars ending c supplier first,
    comparedCall (CallVars.start, ()) = (es, (vars, ()), .ok ending) ∧
    ending.comparison = some c ∧ c.verdict = .identical ∧
    ValidFor supplier (es.filterMap Event.batch?) es ∧
    (es.filterMap Event.batch?).head? = some first ∧
    c.pocket = .ok (supplier, first.statusCode, vars.output.stdout.length) := by
  have hout : (comparedCall.outcome (CallVars.start, ())).toOption.bind
      (fun ending ↦ ending.comparison.map Comparison.verdict) = some .identical := by decide +kernel
  rcases hrun : comparedCall (CallVars.start, ()) with ⟨es, ⟨vars, ⟨⟩⟩, out⟩
  rw [Exec.outcome, hrun] at hout
  obtain ⟨ending, hok, hending⟩ := Option.bind_eq_some_iff.mp hout
  obtain ⟨c, hc, hv⟩ := Option.map_eq_some_iff.mp hending
  cases out with
  | error p => cases hok
  | ok ending' =>
    cases hok
    obtain ⟨res, -, -, hjudged, hnot⟩ :=
      @compare_judges_printed Unit Empty GoLib.plain _ _ _ _ _ _ _ _ _ _ _ _ _ hrun hc
    cases res with
    | error e =>
      rw [hnot.mpr (.inl ⟨e, rfl⟩)] at hv
      cases hv
    | ok u =>
      obtain ⟨supplier, first, hvalid, hfirst, hpocket, -⟩ := hjudged rfl
      exact ⟨es, vars, ending, c, supplier, first, rfl, hc, hv, hvalid, hfirst, hpocket⟩

/-- A direct request that panicked passes for an empty answer of status 0. -/
example (rec : Recorder) (result : RelayResult) :
    (dumpCompare rec (some result) none .zero).map (·.direct.toOption) = some (some (0, 0)) := rfl

/-- An event stream that ends before its first batch. -/
def blankCall : Exec CallPanic (CallVars × Unit) (Event Empty) CallEnd :=
  let _ : GoLib := GoLib.plain
  runCall (Relayer.scripted [⟨"pokt1a", fun _ ↦ some "https://a.example"⟩]
    (fun _ ↦ .ok ⟨.final [] .eof, [("Content-Type", ["text/event-stream"])], 200⟩))
    (fun _ s ↦ (none, s)) (some ⟨200, [1, 2], none⟩) {} "eth" .rest ⟨"GET", "/", [], []⟩

example : (blankCall.outcome (CallVars.start, ())).toOption.isNone = true := by decide +kernel

end PocketAp.Cmd
