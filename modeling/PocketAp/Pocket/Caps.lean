import PocketAp.Pocket.GRPCWeb
import PocketAp.Relay.Limits

/-!
# The response cap

`src/pocket/sender.go:32–103`, `src/pocket/grpc.go:231–277, 518–557`. How much of an answer a
send reads into memory, by what the senders leave on record: `HTTPSender` stops one byte over
64 MiB, a web attempt of `GRPCSender` reads the whole body. A native gRPC call reads its message
itself, under grpc-go's own limit.
-/

namespace PocketAp.Pocket

open PocketAp.Base PocketAp.Domain PocketAp.Relay

/-- The senders behind a `MultiSender`; the state holds the gRPC sender's set `webOnly`. -/
structure Senders (σ : Type) where
  http : HTTPSender ((String → Bool) × σ)
  grpc : Option (GRPCSender σ)

/-- What a send has read and what it returns are within the cap, and a longer body is an
error. -/
structure Capped (calls : List SendCall) (result : Except Err Bytes) : Prop where
  held : (heldBytes calls).length ≤ maxResponseBytes + 1
  returned : ∀ m, result = .ok m → m.length ≤ maxResponseBytes
  refused : ∀ reply, .reply reply ∈ calls → maxResponseBytes < reply.body.bytes.length →
    ∃ e, result = .error e

/-- The reads of a body are the bytes they return. -/
theorem heldBytes_reads (chunks : List (Chunk UInt8 Err)) :
    heldBytes (chunks.map .read) = Scanner.bytesRead chunks := by
  simp [heldBytes, Scanner.bytesRead, List.flatMap_map]

/-- Getting a reply reads nothing yet. -/
theorem heldBytes_reply (reply : Reply) (calls : List SendCall) :
    heldBytes (.reply reply :: calls) = heldBytes calls := rfl

/-- A send that gets no reply holds nothing. -/
private theorem capped_nil {result : Except Err Bytes}
    (h : ∀ m, result = .ok m → m.length ≤ maxResponseBytes) : Capped [] result :=
  ⟨Nat.zero_le _, h, fun _ hm ↦ by cases hm⟩

section Sends

variable {σ : Type} [GoLib]

namespace Senders

variable (x : Senders σ)

/-- The `MultiSender` of these senders. `src/pocket/grpc.go:528–531`. -/
def multi : MultiSender ((String → Bool) × σ) := ⟨x.http, x.grpc.map GRPCSender.send⟩

/-- `MultiSender.Send`, with what is read on record. `src/pocket/grpc.go:534–539`. -/
def sending (url : String) (relayReqBz : Bytes) (rpcType : RPCType) :
    Exec Empty ((String → Bool) × σ) SendCall (Except Err Bytes) :=
  match rpcType, x.grpc with
  | .grpc, some g => g.sending url relayReqBz .grpc
  | _, _ => x.http.sending url relayReqBz rpcType

/-- Without its record this is `MultiSender.Send`. -/
theorem multi_send (url : String) (relayReqBz : Bytes) (rpcType : RPCType) :
    x.multi.send url relayReqBz rpcType = (x.sending url relayReqBz rpcType).seam := by
  cases hg : x.grpc with
  | none => cases rpcType <;> simp [MultiSender.send, multi, sending, hg, HTTPSender.send]
  | some g =>
    cases rpcType <;>
      simp [MultiSender.send, multi, sending, hg, HTTPSender.send, GRPCSender.send]

/-- Native answers are within the cap. -/
def NativeBounded : Prop :=
  ∀ g ∈ x.grpc, ∀ target useTLS relayReqBz rpcType s resp,
    (g.stream target useTLS relayReqBz rpcType s).1 = .ok resp → resp.length ≤ maxResponseBytes

/-- What a send reads on the way to what it returns is within the cap. -/
def Within (url : String) (relayReqBz : Bytes) (rpcType : RPCType) (st : (String → Bool) × σ) :
    Prop :=
  Capped ((x.sending url relayReqBz rpcType).events st) (x.multi.send url relayReqBz rpcType st).1

private theorem within_of_run {url : String} {relayReqBz : Bytes} {rpcType : RPCType}
    {st st' : (String → Bool) × σ} {calls : List SendCall} {result : Except Err Bytes}
    (hrun : x.sending url relayReqBz rpcType st = (calls, st', .ok result))
    (h : Capped calls result) : x.Within url relayReqBz rpcType st := by
  rw [Within, multi_send, Exec.seam_run hrun, Exec.events, hrun]
  exact h

end Senders

/-! ### The limited path -/

omit [GoLib] in
/-- A reply that is read under the limit is within the cap. -/
private theorem readResponse_capped (url : String) (reply : Reply) (s : σ) :
    ∃ calls result, HTTPSender.readResponse url reply s = (calls, s, .ok result) ∧
      Capped (.reply reply :: calls) result := by
  have hlen := Scanner.length_readAllLimited (maxResponseBytes + 1) reply.body
  have hheld := Scanner.bytesRead_readAllLimited (maxResponseBytes + 1) reply.body
  unfold HTTPSender.readResponse
  generalize reply.body.readAllLimited (maxResponseBytes + 1) = read at hlen hheld ⊢
  rcases read with ⟨chunks, body, err⟩
  simp only at hlen hheld
  have hbytes : (heldBytes (.reply reply :: chunks.map .read)).length ≤ maxResponseBytes + 1 := by
    rw [heldBytes_reply, heldBytes_reads, hheld, hlen]
    exact Nat.min_le_left _ _
  have hreply (reply' : Reply) (hm : SendCall.reply reply' ∈ .reply reply :: chunks.map .read) :
      reply' = reply := by simpa using hm
  simp only
  rw [Exec.bind_run_ok (Exec.emitAll_run _ _)]
  refine ⟨chunks.map .read, ?_⟩
  cases err with
  | some e =>
    simp only [Exec.pure_run, List.append_nil]
    exact ⟨.error _, rfl, hbytes, nofun, fun _ _ _ ↦ ⟨_, rfl⟩⟩
  | none =>
    simp only
    split
    · simp only [Exec.pure_run, List.append_nil]
      exact ⟨.error _, rfl, hbytes, nofun, fun _ _ _ ↦ ⟨_, rfl⟩⟩
    · next hshort =>
      simp only [Exec.pure_run, List.append_nil]
      refine ⟨.ok body, rfl, hbytes, fun m hm ↦ ?_, fun reply' hm hlong ↦ ?_⟩
      · cases hm
        omega
      · rw [hreply reply' hm] at hlong
        omega

omit [GoLib] in
/-- Every send over HTTP is within the cap. -/
private theorem HTTPSender.sending_capped (h : HTTPSender σ) (url : String) (relayReqBz : Bytes)
    (rpcType : RPCType) (s : σ) :
    ∃ calls s' result, h.sending url relayReqBz rpcType s = (calls, s', .ok result) ∧
      Capped calls result := by
  unfold HTTPSender.sending
  cases h.buildRequest url relayReqBz rpcType with
  | error e => exact ⟨[], s, .error e, rfl, capped_nil nofun⟩
  | ok req =>
    simp only
    rcases hreply : h.client req s with ⟨e | reply, s'⟩
    · rw [Exec.bind_run_ok (Exec.act_run hreply)]
      exact ⟨[], s', .error _, rfl, capped_nil nofun⟩
    · obtain ⟨calls, result, hrun, hcapped⟩ := readResponse_capped url reply s'
      rw [Exec.bind_run_ok (Exec.act_run hreply)]
      simp only
      rw [Exec.bind_run_ok (Exec.emit_run _ _), hrun]
      exact ⟨_, _, result, rfl, hcapped⟩

private theorem within_of_http (x : Senders σ) (url : String) (relayReqBz : Bytes)
    (rpcType : RPCType) (st : (String → Bool) × σ)
    (hroute : rpcType ≠ .grpc ∨ x.grpc = none) : x.Within url relayReqBz rpcType st := by
  have hsending : x.sending url relayReqBz rpcType = x.http.sending url relayReqBz rpcType := by
    unfold Senders.sending
    split
    · next g hg => simp [hg] at hroute
    · rfl
  obtain ⟨calls, st', result, hrun, hcapped⟩ := x.http.sending_capped url relayReqBz rpcType st
  exact x.within_of_run (hsending ▸ hrun) hcapped

/-- Native calls read nothing themselves, and what they answer is within the cap. -/
private theorem sendNative_bounded {x : Senders σ} (hbounded : x.NativeBounded) {g : GRPCSender σ}
    (hg : x.grpc = some g) {url : String} {relayReqBz : Bytes} {rpcType : RPCType} {s s' : σ}
    {m : Bytes} (h : g.sendNative url relayReqBz rpcType s = (.ok m, s')) :
    m.length ≤ maxResponseBytes := by
  unfold GRPCSender.sendNative at h
  cases htarget : grpcTarget g.parseError url with
  | error e => simp [htarget] at h
  | ok target =>
    simp only [htarget] at h
    rcases hstream : g.stream target.1 target.2 relayReqBz rpcType s with ⟨failure | resp, s''⟩
    · simp [hstream] at h
    · simp only [hstream, Prod.mk.injEq, Except.ok.injEq] at h
      rw [← h.1]
      exact hbounded g (by simp [hg]) target.1 target.2 relayReqBz rpcType s resp (by rw [hstream])

/-! ### A web attempt -/

/-- A web attempt that gets a reply reads all of it. -/
private theorem GRPCSender.sendingWeb_run (g : GRPCSender σ) {endpointURL target : String}
    {relayReqBz : Bytes} {rpcType : RPCType} {s s' : σ} {req : PostRequest} {reply : Reply}
    (htarget : grpcWebURL g.parseError g.withPath endpointURL = .ok target)
    (hreq : g.webRequest target relayReqBz rpcType = .ok req)
    (hreply : g.client req s = (.ok reply, s')) :
    g.sendingWeb endpointURL relayReqBz rpcType s =
      (.reply reply :: reply.body.readAll.1.map .read, s',
        .ok (g.webResult target reply reply.body.readAll.2)) := by
  simp only [sendingWeb, htarget, hreq, readWeb]
  rw [Exec.bind_run_ok (Exec.act_run hreply)]
  simp only
  rw [Exec.bind_run_ok (Exec.emit_run _ _), Exec.bind_run_ok (Exec.emitAll_run _ _)]
  simp [Exec.pure_run]

/-- An answer of a web attempt that is within the cap stays so. -/
private theorem webResult_capped {g : GRPCSender σ} {target : String} {reply : Reply}
    (hshort : reply.body.bytes.length ≤ maxResponseBytes) :
    Capped (.reply reply :: reply.body.readAll.1.map .read)
      (g.webResult target reply reply.body.readAll.2) where
  held := by
    rw [heldBytes_reply, heldBytes_reads, Scanner.bytesRead_readAll]
    omega
  returned m hm := (length_le_of_webResult g hm).trans hshort
  refused reply' hm hlong := by
    have hreply : reply' = reply := by simpa using hm
    subst hreply
    omega

/-- What a gRPC send does: it ends without an HTTP answer, or with one that it reads in full,
which no native sender does. -/
private inductive GRPCSender.Sent (g : GRPCSender σ) (url : String) (relayReqBz : Bytes)
    (rpcType : RPCType) : List SendCall → Except Err Bytes → Prop
  | unread (result : Except Err Bytes)
      (hnative : ∀ m, result = .ok m → ∃ s s', g.sendNative url relayReqBz rpcType s = (.ok m, s')) :
      Sent g url relayReqBz rpcType [] result
  | read (target : String) (reply : Reply) (hmode : g.mode ≠ .native) :
      Sent g url relayReqBz rpcType (.reply reply :: reply.body.readAll.1.map .read)
        (g.webResult target reply reply.body.readAll.2)

/-- A web attempt gets no answer and fails, or reads all of its answer. -/
private theorem GRPCSender.sendingWeb_sent (g : GRPCSender σ) (hmode : g.mode ≠ .native)
    (url : String) (relayReqBz : Bytes) (rpcType : RPCType) (st : (String → Bool) × σ) :
    ∃ calls st' result, Exec.lift (g.sendingWeb url relayReqBz rpcType) st =
      (calls, st', .ok result) ∧ g.Sent url relayReqBz rpcType calls result := by
  suffices hrun : ∃ calls s' result, g.sendingWeb url relayReqBz rpcType st.2 =
      (calls, s', .ok result) ∧ g.Sent url relayReqBz rpcType calls result by
    obtain ⟨calls, s', result, hrun, hsent⟩ := hrun
    exact ⟨calls, (st.1, s'), result, by rw [Exec.lift, hrun], hsent⟩
  have hfailed (e : Err) : g.Sent url relayReqBz rpcType [] (.error e) :=
    .unread _ fun m hm ↦ by cases hm
  cases htarget : grpcWebURL g.parseError g.withPath url with
  | error e => exact ⟨[], st.2, .error e, by simp only [sendingWeb, htarget]; rfl, hfailed e⟩
  | ok target =>
    cases hreq : g.webRequest target relayReqBz rpcType with
    | error e => exact ⟨[], st.2, .error e, by simp only [sendingWeb, htarget, hreq]; rfl, hfailed e⟩
    | ok req =>
      rcases hreply : g.client req st.2 with ⟨e | reply, s'⟩
      · simp only [sendingWeb, htarget, hreq]
        rw [Exec.bind_run_ok (Exec.act_run hreply)]
        exact ⟨_, s', _, rfl, hfailed _⟩
      · exact ⟨_, s', _, g.sendingWeb_run htarget hreq hreply, .read target reply hmode⟩

/-- Every gRPC send, in each mode. -/
private theorem GRPCSender.sending_sent (g : GRPCSender σ) (url : String) (relayReqBz : Bytes)
    (rpcType : RPCType) (st : (String → Bool) × σ) :
    ∃ calls st' result, g.sending url relayReqBz rpcType st = (calls, st', .ok result) ∧
      g.Sent url relayReqBz rpcType calls result := by
  have hfailed (e : Err) : g.Sent url relayReqBz rpcType [] (.error e) :=
    .unread _ fun m hm ↦ by cases hm
  have hanswered {s s' : σ} {resp : Bytes}
      (h : g.sendNative url relayReqBz rpcType s = (.ok resp, s')) :
      g.Sent url relayReqBz rpcType [] (.ok resp) :=
    .unread _ fun m hm ↦ by
      cases hm
      exact ⟨s, s', h⟩
  cases htarget : grpcTarget g.parseError url with
  | error e => exact ⟨[], st, .error e, by simp only [sending, htarget]; rfl, hfailed e⟩
  | ok target =>
    cases hmode : g.mode with
    | web =>
      simp only [sending, htarget, hmode]
      exact g.sendingWeb_sent (by simp [hmode]) url relayReqBz rpcType st
    | native =>
      simp only [sending, htarget, hmode]
      rcases hnative : g.sendNative url relayReqBz rpcType st.2 with ⟨e | resp, s'⟩
      · rw [Exec.bind_run_ok (Exec.act_run (liftSeam_run hnative))]
        exact ⟨_, _, _, rfl, hfailed _⟩
      · rw [Exec.bind_run_ok (Exec.act_run (liftSeam_run hnative))]
        exact ⟨_, _, _, rfl, hanswered hnative⟩
    | auto =>
      have hweb := g.sendingWeb_sent (by simp [hmode]) url relayReqBz rpcType
      simp only [sending, htarget, hmode]
      rw [Exec.bind_run_ok (Exec.peek_run _ _)]
      simp only [List.nil_append]
      by_cases hpinned : st.1 target.1 = true
      · simp only [hpinned, if_true]
        exact hweb st
      · simp only [hpinned, if_false, Bool.false_eq_true]
        rcases hnative : g.sendNative url relayReqBz rpcType st.2 with ⟨e | resp, s'⟩
        · rw [Exec.bind_run_ok (Exec.act_run (liftSeam_run hnative))]
          simp only [List.nil_append]
          by_cases hclass : isNotHTTP2 e = true
          · simp only [hclass, if_true]
            rw [Exec.bind_run_ok (Exec.assign_run _ _)]
            exact hweb _
          · simp only [hclass, if_false, Bool.false_eq_true]
            exact ⟨_, _, _, rfl, hfailed _⟩
        · rw [Exec.bind_run_ok (Exec.act_run (liftSeam_run hnative))]
          exact ⟨_, _, _, rfl, hanswered hnative⟩

/-- A gRPC send of a sender that is native, or whose answers are all within the cap. -/
private theorem within_of_grpc (x : Senders σ) (hbounded : x.NativeBounded) {g : GRPCSender σ}
    (hg : x.grpc = some g) (url : String) (relayReqBz : Bytes) (st : (String → Bool) × σ)
    (hshort : g.mode ≠ .native →
      ∀ reply, .reply reply ∈ (x.sending url relayReqBz .grpc).events st →
        reply.body.bytes.length ≤ maxResponseBytes) : x.Within url relayReqBz .grpc st := by
  have hsending : x.sending url relayReqBz .grpc = g.sending url relayReqBz .grpc := by
    simp only [Senders.sending, hg]
  obtain ⟨calls, st', result, hrun, hsent⟩ := g.sending_sent url relayReqBz .grpc st
  refine x.within_of_run (hsending ▸ hrun) ?_
  cases hsent with
  | unread _ hnative =>
    refine capped_nil fun m hm ↦ ?_
    obtain ⟨s, s', hrun⟩ := hnative m hm
    exact sendNative_bounded hbounded hg hrun
  | read target reply hmode =>
    refine webResult_capped (hshort hmode reply ?_)
    rw [hsending, Exec.events, hrun]
    exact List.mem_cons_self

/-- A send whose answers are all within the cap, on every route. -/
private theorem within_of_short (x : Senders σ) (hbounded : x.NativeBounded) (url : String)
    (relayReqBz : Bytes) (rpcType : RPCType) (st : (String → Bool) × σ)
    (hshort : ∀ reply, .reply reply ∈ (x.sending url relayReqBz rpcType).events st →
      reply.body.bytes.length ≤ maxResponseBytes) : x.Within url relayReqBz rpcType st := by
  by_cases htype : rpcType = .grpc
  · subst htype
    cases hg : x.grpc with
    | none => exact within_of_http x url relayReqBz .grpc st (.inr hg)
    | some g => exact within_of_grpc x hbounded hg url relayReqBz st fun _ ↦ hshort
  · exact within_of_http x url relayReqBz rpcType st (.inl htype)

end Sends

/-! ### The unlimited path -/

/-- A message one byte over the cap, in one frame. -/
def oversizedFrame : FlaggedFrame := ⟨0, List.replicate (maxResponseBytes + 1) 0⟩

/-- An answer with a message one byte too long. -/
def oversizedReply : Reply :=
  ⟨.final (encodeGRPCFrame oversizedFrame.flag oversizedFrame.payload) .eof, [], 200⟩

/-- Senders whose clients always get this answer. -/
def Senders.answeredWith (mode : GRPCMode) (reply : Reply) : Senders Unit where
  http := ⟨fun _ ↦ none, fun _ s ↦ (.ok reply, s), fun _ s ↦ (.ok reply, s)⟩
  grpc := some { GRPCSender.answeredWith reply with mode }

/-- A supplier that answers with it. -/
def oversizedSenders (mode : GRPCMode) : Senders Unit := .answeredWith mode oversizedReply

private theorem oversizedFrame_length : oversizedFrame.payload.length = maxResponseBytes + 1 :=
  List.length_replicate

private theorem oversizedReply_length :
    oversizedReply.body.bytes.length = maxResponseBytes + 6 := by
  show oversizedFrame.encode.length = _
  rw [oversizedFrame.length_encode, oversizedFrame_length]
  omega

private theorem oversizedReply_carries : Carries oversizedReply [oversizedFrame] where
  read := rfl
  status := rfl
  fits := by
    rw [List.forall_mem_singleton, oversizedFrame_length]
    simp [maxResponseBytes]
  bytes := by
    rw [List.flatMap_singleton]
    rfl
  data := ⟨oversizedFrame, List.mem_singleton_self _, by simp [isTrailer, oversizedFrame]⟩

section Unlimited

variable [GoLib]

omit [GoLib] in
private theorem oversizedSenders_bounded (mode : GRPCMode) :
    (oversizedSenders mode).NativeBounded := by
  rintro g hg target useTLS relayReqBz rpcType s resp h
  cases hg
  cases h

/-- In web mode, and once the host is in `webOnly`, the whole answer is read. -/
private theorem answeredWith_run {mode : GRPCMode} {webOnly : String → Bool} (reply : Reply)
    (hweb : mode = .web ∨ mode = .auto ∧ webOnly "h:1" = true) :
    (Senders.answeredWith mode reply).sending "h:1" [] .grpc (webOnly, ()) =
      (.reply reply :: reply.body.readAll.1.map .read, (webOnly, ()),
        .ok ((GRPCSender.answeredWith reply).webResult
          ("http://h:1" ++ relayServiceMethodPath) reply reply.body.readAll.2)) := by
  have hbare : contains "h:1" "://" = false := by decide +kernel
  have htarget (parseError : String → Err) : grpcTarget parseError "h:1" = .ok ("h:1", false) := by
    simp [grpcTarget, hbare]
  have hurl (parseError : String → Err) (withPath : String → String → String) :
      grpcWebURL parseError withPath "h:1" = .ok ("http://h:1" ++ relayServiceMethodPath) := by
    simp [grpcWebURL, hbare]
  have hlift : Exec.lift (GRPCSender.sendingWeb { GRPCSender.answeredWith reply with mode } "h:1"
      [] .grpc) (webOnly, ()) = (.reply reply :: reply.body.readAll.1.map .read, (webOnly, ()),
        .ok ((GRPCSender.answeredWith reply).webResult ("http://h:1" ++ relayServiceMethodPath)
          reply reply.body.readAll.2)) := by
    rw [Exec.lift, GRPCSender.sendingWeb_run _ (hurl _ _) rfl rfl]
    rfl
  simp only [Senders.sending, Senders.answeredWith, GRPCSender.sending, htarget]
  rcases hweb with rfl | ⟨rfl, hpinned⟩
  · exact hlift
  · refine (Exec.bind_run_ok (Exec.peek_run _ _) _).trans ?_
    simp only [hpinned, if_true, List.nil_append]
    exact hlift

omit [GoLib] in
private theorem oversizedReply_held :
    (heldBytes (.reply oversizedReply :: oversizedReply.body.readAll.1.map .read)).length =
      maxResponseBytes + 6 := by
  rw [heldBytes_reply, heldBytes_reads, Scanner.bytesRead_readAll, oversizedReply_length]

private theorem oversizedSenders_not_within {mode : GRPCMode} (h : mode ≠ .native) :
    ¬ (oversizedSenders mode).Within "h:1" [] .grpc (fun _ ↦ true, ()) := by
  intro hwithin
  have hweb : mode = .web ∨ mode = .auto ∧ (fun _ : String ↦ true) "h:1" = true := by
    cases mode with
    | native => exact absurd rfl h
    | web => exact .inl rfl
    | auto => exact .inr ⟨rfl, rfl⟩
  have hheld := hwithin.held
  rw [Exec.events, oversizedSenders, answeredWith_run _ hweb, oversizedReply_held] at hheld
  omega

/-- What the senders and the relayer hold of an answer. Whatever a supplier answers, sends are
within the cap exactly on the routes that read under a limit; on the others every send is that
gets no longer answer. A body that is one response and a stream always are. -/
theorem responses_capped_iff :
    (∀ (mode : Option GRPCMode) (rpcType : RPCType),
      (∀ (σ : Type) (x : Senders σ), x.grpc.map GRPCSender.mode = mode → x.NativeBounded →
        ∀ url relayReqBz st, x.Within url relayReqBz rpcType st) ↔
      rpcType ≠ .grpc ∨ mode = none ∨ mode = some .native) ∧
    (∀ (σ : Type) (x : Senders σ), x.NativeBounded → ∀ url relayReqBz rpcType st,
      (∀ reply, .reply reply ∈ (x.sending url relayReqBz rpcType).events st →
        reply.body.bytes.length ≤ 64 * 2 ^ 20) → x.Within url relayReqBz rpcType st) ∧
    (∀ (π σ γ : Type) (r : Relayer σ) (supplier : EndpointAddr)
      (onBatch : RelayResult → Exec π σ γ (Except Err Unit)) (body : Body UInt8 Err)
      (header : Header),
      (isStreamingResponse header = false → ∀ w,
        (bytesOf ((consuming r supplier onBatch body header).events w)).length ≤ 64 * 2 ^ 20 + 1 ∧
        (∀ s b result, .validate s b result ∈ (consuming r supplier onBatch body header).events w →
          b.length ≤ 64 * 2 ^ 20) ∧
        (64 * 2 ^ 20 < body.bytes.length →
          (consuming r supplier onBatch body header).outcome w ≠ .ok (.ok ()))) ∧
      (isStreamingResponse header = true →
        (∀ n, ((scannerAt body n).data ++
          Scanner.bytesRead (scanBatch (scannerAt body n)).reads).length ≤ 256 * 1024) ∧
        ∀ piece ∈ pieces body.bytes, 256 * 1024 < piece.length →
          ∀ w, (consuming r supplier onBatch body header).outcome w ≠ .ok (.ok ()))) := by
  refine ⟨fun mode rpcType ↦ ⟨fun h ↦ ?_, ?_⟩, fun _ ↦ within_of_short,
    fun π σ γ r supplier onBatch body header ↦ ⟨?_, ?_⟩⟩
  · by_contra hroute
    simp only [not_or, not_not] at hroute
    obtain ⟨rfl, hsome, hnative⟩ := hroute
    cases mode with
    | none => exact hsome rfl
    | some mode =>
      exact oversizedSenders_not_within (fun h ↦ hnative (by rw [h]))
        (h Unit (oversizedSenders mode) rfl (oversizedSenders_bounded mode) _ _ _)
  · intro hroute σ x hmode hbounded url relayReqBz st
    rcases hroute with hrpc | hnone | hnative
    · exact within_of_http x url relayReqBz rpcType st (.inl hrpc)
    · rw [hnone, Option.map_eq_none_iff] at hmode
      exact within_of_http x url relayReqBz rpcType st (.inr hmode)
    · by_cases hrpc : rpcType = .grpc
      · subst hrpc
        rw [hnative, Option.map_eq_some_iff] at hmode
        obtain ⟨g, hg, hgmode⟩ := hmode
        exact within_of_grpc x hbounded hg url relayReqBz st fun h ↦ absurd hgmode h
      · exact within_of_http x url relayReqBz rpcType st (.inl hrpc)
  · exact fun h w ↦ whole_limits r supplier onBatch body header h w
  · exact fun h ↦ stream_limits r supplier onBatch body header h

end Unlimited

/-- A web answer of 64 MiB and six bytes is read whole, and its message, one byte over the cap,
is returned. -/
theorem oversized_message_returned :
    let _ : GoLib := GoLib.plain
    (heldBytes (((oversizedSenders .web).sending "h:1" [] .grpc).events
        (fun _ ↦ false, ()))).length = 64 * 2 ^ 20 + 6 ∧
      ((oversizedSenders .web).multi.send "h:1" [] .grpc (fun _ ↦ false, ())).1 =
        .ok oversizedFrame.payload ∧
      oversizedFrame.payload.length = 64 * 2 ^ 20 + 1 := by
  let _ : GoLib := GoLib.plain
  have hrun := @answeredWith_run _ .web (fun _ ↦ false) oversizedReply (.inl rfl)
  have hmessage : firstMessage [oversizedFrame] = some oversizedFrame.payload := by
    simp [firstMessage, isTrailer, oversizedFrame]
  have hresult := webResult_of_carries (GRPCSender.answeredWith oversizedReply)
    ("http://h:1" ++ relayServiceMethodPath) oversizedReply_carries hmessage (by
      simp [statusOf, trailersAfter, isTrailer, oversizedFrame, statusInForce, oversizedReply])
  refine ⟨?_, ?_, oversizedFrame_length⟩
  · rw [Exec.events, oversizedSenders, hrun]
    exact oversizedReply_held
  · rw [Senders.multi_send, oversizedSenders, Exec.seam_run hrun]
    exact hresult

end PocketAp.Pocket
