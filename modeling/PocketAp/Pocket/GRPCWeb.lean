import PocketAp.Pocket.GRPC

/-!
# gRPC-Web replies

`src/pocket/grpc.go:411–473`. The decoder walks over a body by offset; at the offset where a
frame starts it takes exactly that frame. What it returns for frames one after the other is
read off the list of frames, and everything else is an error.
-/

namespace PocketAp.Pocket

open PocketAp.Base PocketAp.Domain PocketAp.Relay

/-- The top bit of the flag is set. -/
def isTrailer (f : FlaggedFrame) : Bool := f.flag &&& grpcTrailerFlag ≠ 0

/-- The payload of the first data frame. -/
def firstMessage (fs : List FlaggedFrame) : Option Bytes :=
  (fs.find? (!isTrailer ·)).map FlaggedFrame.payload

section Decode

variable [GoLib] (text : Bytes → String)

/-- The trailers after some frames: those of the last trailer frame. -/
def trailersAfter (before : Trailers) (fs : List FlaggedFrame) : Trailers :=
  match (fs.filter isTrailer).getLast? with
  | none => before
  | some f => parseGRPCTrailers text f.payload

/-! ### One frame -/

omit [GoLib] in
private theorem slice_append {pre mid post : Bytes} {low high : Nat} (hlow : low = pre.length)
    (hhigh : high = pre.length + mid.length) : slice (pre ++ mid ++ post) low high = some mid := by
  subst hlow hhigh
  rw [slice, if_pos (by simp)]
  rw [← List.length_append, List.take_left, List.drop_left]

/-- At the start of a frame the decoder takes the frame. -/
private theorem decodeFrom_frame (pre : Bytes) {f : FlaggedFrame} (hf : f.Fits) (post : Bytes)
    (message : Option Bytes) (trailers : Trailers) :
    decodeFrom text (pre ++ (f.encode ++ post)) pre.length message trailers =
      decodeFrom text (pre ++ (f.encode ++ post)) (pre ++ f.encode).length
        (if isTrailer f then message else message.or (some f.payload))
        (if isTrailer f then parseGRPCTrailers text f.payload else trailers) := by
  have hlen : (pre ++ (f.encode ++ post)).length =
      pre.length + 5 + f.payload.length + post.length := by
    simp only [List.length_append, f.length_encode]
    omega
  have hflag : (pre ++ (f.encode ++ post))[pre.length]? = some f.flag := by
    simp [FlaggedFrame.encode]
  have hfield : slice (pre ++ (f.encode ++ post)) (pre.length + 1) (pre.length + grpcFrameHeaderLen) =
      some (putUint32 f.payload.length) := by
    have hshape : pre ++ (f.encode ++ post) =
        (pre ++ [f.flag]) ++ putUint32 f.payload.length ++ (f.payload ++ post) := by
      simp [FlaggedFrame.encode]
    rw [hshape]
    exact slice_append (by simp) (by simp [grpcFrameHeaderLen])
  have hpayload : slice (pre ++ (f.encode ++ post)) (pre.length + grpcFrameHeaderLen)
      (pre.length + grpcFrameHeaderLen + f.payload.length) = some f.payload := by
    have hshape : pre ++ (f.encode ++ post) =
        (pre ++ f.flag :: putUint32 f.payload.length) ++ f.payload ++ post := by
      simp [FlaggedFrame.encode]
    rw [hshape]
    exact slice_append (by simp [grpcFrameHeaderLen]) (by simp [grpcFrameHeaderLen])
  have hnext : (pre ++ f.encode).length = pre.length + grpcFrameHeaderLen + f.payload.length := by
    rw [List.length_append, f.length_encode, grpcFrameHeaderLen]
    omega
  rw [decodeFrom, if_pos (by omega), if_neg (by simp only [grpcFrameHeaderLen]; omega), hflag,
    hfield]
  dsimp only
  rw [uint32_putUint32 hf, if_neg (by simp only [grpcFrameHeaderLen]; omega), hpayload, hnext]
  by_cases ht : f.flag &&& grpcTrailerFlag ≠ 0
  · simp [isTrailer, ht]
  · simp [isTrailer, ht]

private theorem decodeFrom_end (body : Bytes) (message : Option Bytes) (trailers : Trailers) :
    decodeFrom text body body.length message trailers = some (.ok (message, trailers)) := by
  rw [decodeFrom, if_neg (by omega)]

/-- Inside a frame that is cut off the decoder fails. -/
private theorem decodeFrom_cutOff (pre : Bytes) {tail : Bytes} (h : CutOff tail)
    (message : Option Bytes) (trailers : Trailers) :
    ∃ e, decodeFrom text (pre ++ tail) pre.length message trailers = some (.error e) := by
  obtain ⟨hne, hlt⟩ := h
  have hpos : 0 < tail.length := List.length_pos_iff.mpr hne
  rw [decodeFrom, if_pos (by rw [List.length_append]; omega)]
  by_cases hshort : tail.length < 5
  · rw [if_pos (by rw [List.length_append, grpcFrameHeaderLen]; omega)]
    exact ⟨_, rfl⟩
  · have hflag : (pre ++ tail)[pre.length]? = some (tail.get ⟨0, hpos⟩) := by
      rw [List.getElem?_append_right (Nat.le_refl _), Nat.sub_self]
      exact List.getElem?_eq_getElem hpos
    have hfield : slice (pre ++ tail) (pre.length + 1) (pre.length + grpcFrameHeaderLen) =
        some ((tail.drop 1).take 4) := by
      have hshape : pre ++ tail = (pre ++ tail.take 1) ++ (tail.drop 1).take 4 ++ tail.drop 5 := by
        have hdrop : tail.drop 5 = (tail.drop 1).drop 4 := by rw [List.drop_drop]
        rw [List.append_assoc, List.append_assoc, hdrop, List.take_append_drop,
          List.take_append_drop]
      rw [hshape]
      exact slice_append (by simp; omega) (by simp [grpcFrameHeaderLen]; omega)
    rw [if_neg (by rw [List.length_append, grpcFrameHeaderLen]; omega), hflag, hfield]
    dsimp only
    rw [if_pos (by rw [List.length_append, grpcFrameHeaderLen]; omega)]
    exact ⟨_, rfl⟩

/-! ### Whole bodies -/

omit [GoLib] in
private theorem firstMessage_cons (f : FlaggedFrame) (fs : List FlaggedFrame)
    (message : Option Bytes) :
    (if isTrailer f then message else message.or (some f.payload)).or (firstMessage fs) =
      message.or (firstMessage (f :: fs)) := by
  cases ht : isTrailer f with
  | true => simp [firstMessage, ht]
  | false => cases message <;> simp [firstMessage, ht]

private theorem trailersAfter_cons (f : FlaggedFrame) (fs : List FlaggedFrame) (before : Trailers) :
    trailersAfter text (if isTrailer f then parseGRPCTrailers text f.payload else before) fs =
      trailersAfter text before (f :: fs) := by
  unfold trailersAfter
  cases ht : isTrailer f with
  | false => simp [ht]
  | true =>
    simp only [ht, if_true, List.filter_cons_of_pos]
    cases hl : fs.filter isTrailer with
    | nil => simp
    | cons g gs =>
      rw [List.getLast?_cons_cons]
      cases hg : (g :: gs).getLast? with
      | none => simp at hg
      | some last => rfl

/-- Frames are taken one after the other, up to the rest. -/
private theorem decodeFrom_frames (pre : Bytes) {fs : List FlaggedFrame}
    (hfs : ∀ f ∈ fs, FlaggedFrame.Fits f) (tail : Bytes) (message : Option Bytes)
    (trailers : Trailers) :
    decodeFrom text (pre ++ (encodeFrames fs ++ tail)) pre.length message trailers =
      decodeFrom text (pre ++ (encodeFrames fs ++ tail)) (pre ++ encodeFrames fs).length
        (message.or (firstMessage fs)) (trailersAfter text trailers fs) := by
  induction fs generalizing pre message trailers with
  | nil => simp [encodeFrames, firstMessage, trailersAfter]
  | cons f fs ih =>
    have hf : f.Fits := hfs f List.mem_cons_self
    have hrest : ∀ f ∈ fs, FlaggedFrame.Fits f := fun g hg ↦ hfs g (List.mem_cons_of_mem f hg)
    rw [encodeFrames_cons, List.append_assoc, decodeFrom_frame text pre hf]
    have hstep := ih (pre ++ f.encode) hrest
      (if isTrailer f then message else message.or (some f.payload))
      (if isTrailer f then parseGRPCTrailers text f.payload else trailers)
    rw [List.append_assoc] at hstep
    rw [hstep, firstMessage_cons, trailersAfter_cons, List.append_assoc]

/-- Whole frames decode to the first message and the last trailers. -/
theorem decode_frames {fs : List FlaggedFrame} (hfs : ∀ f ∈ fs, FlaggedFrame.Fits f) :
    decodeGRPCWebResponse text (encodeFrames fs) =
      some (.ok (firstMessage fs, trailersAfter text (fun _ ↦ none) fs)) := by
  have hrun := decodeFrom_frames text [] hfs [] none (fun _ ↦ none)
  simp only [List.nil_append, List.append_nil, List.length_nil, Option.none_or] at hrun
  rw [decodeGRPCWebResponse, hrun, decodeFrom_end]

/-- Frames that are cut off do not decode. -/
theorem decode_cutOff {fs : List FlaggedFrame} (hfs : ∀ f ∈ fs, FlaggedFrame.Fits f) {tail : Bytes}
    (h : CutOff tail) :
    ∃ e, decodeGRPCWebResponse text (encodeFrames fs ++ tail) = some (.error e) := by
  have hrun := decodeFrom_frames text [] hfs tail none (fun _ ↦ none)
  simp only [List.nil_append, List.length_nil] at hrun
  rw [decodeGRPCWebResponse, hrun]
  exact decodeFrom_cutOff text (encodeFrames fs) h _ _

/-- What the decoder makes of a body: the frames it is made of, or an error. -/
theorem decode_cases (body : Bytes) :
    (∃ fs, (∀ f ∈ fs, FlaggedFrame.Fits f) ∧ body = encodeFrames fs ∧
      decodeGRPCWebResponse text body =
        some (.ok (firstMessage fs, trailersAfter text (fun _ ↦ none) fs))) ∨
    (¬ ∃ fs, (∀ f ∈ fs, FlaggedFrame.Fits f) ∧ body = encodeFrames fs) ∧
      ∃ e, decodeGRPCWebResponse text body = some (.error e) := by
  obtain ⟨fs, tail, hfs, rfl, htail⟩ := exists_frames body
  rcases htail with rfl | hcut
  · left
    rw [List.append_nil]
    exact ⟨fs, hfs, rfl, decode_frames text hfs⟩
  · right
    obtain ⟨e, he⟩ := decode_cutOff text hfs hcut
    refine ⟨?_, e, he⟩
    rintro ⟨gs, hgs, hbody⟩
    rw [hbody, decode_frames text hgs] at he
    cases he

/-- Bodies are read frame by frame: what was framed comes back, byte for byte, no body is read
out of range, and what is not a sequence of whole frames is an error. -/
theorem grpcWeb_decodes_exactly :
    (∀ fs : List FlaggedFrame, (∀ f ∈ fs, f.payload.length < 2 ^ 32) →
      decodeGRPCWebResponse text (fs.flatMap fun f ↦ encodeGRPCFrame f.flag f.payload) =
        some (.ok ((fs.find? (!isTrailer ·)).map FlaggedFrame.payload,
          match (fs.filter isTrailer).getLast? with
          | none => fun _ ↦ none
          | some f => parseGRPCTrailers text f.payload))) ∧
    (∀ body, ∃ r, decodeGRPCWebResponse text body = some r ∧
      ((∃ v, r = .ok v) ↔ ∃ fs : List FlaggedFrame, (∀ f ∈ fs, f.payload.length < 2 ^ 32) ∧
        body = fs.flatMap fun f ↦ encodeGRPCFrame f.flag f.payload)) ∧
    ∀ (fs : List FlaggedFrame) (f : FlaggedFrame) (n : Nat),
      (∀ g ∈ fs, g.payload.length < 2 ^ 32) → f.payload.length < 2 ^ 32 → 0 < n →
      n < (encodeGRPCFrame f.flag f.payload).length →
      ∃ e, decodeGRPCWebResponse text ((fs.flatMap fun f ↦ encodeGRPCFrame f.flag f.payload) ++
        (encodeGRPCFrame f.flag f.payload).take n) = some (.error e) := by
  refine ⟨fun fs hfs ↦ decode_frames text hfs, fun body ↦ ?_, fun fs f n hfs hf hpos hn ↦ ?_⟩
  · rcases decode_cases text body with ⟨fs, hfs, hbody, hok⟩ | ⟨hnone, e, he⟩
    · exact ⟨_, hok, fun _ ↦ ⟨fs, hfs, hbody⟩, fun _ ↦ ⟨_, rfl⟩⟩
    · refine ⟨_, he, ?_, fun hsome ↦ absurd hsome hnone⟩
      rintro ⟨v, hv⟩
      cases hv
  · exact decode_cutOff text hfs (cutOff_take hf hpos hn)

end Decode

/-- Every byte a code point. -/
def latin1 (bs : Bytes) : String := String.ofList (bs.map (fun b ↦ Char.ofNat b.toNat))

/-- An empty message, then trailers, then a message that comes too late. -/
theorem grpcWeb_decodes_exactly_lateMessage :
    let _ : GoLib := GoLib.plain
    decodeGRPCWebResponse latin1
        ([⟨0, []⟩, ⟨0x80, []⟩, ⟨1, [7]⟩].flatMap
          fun f : FlaggedFrame ↦ encodeGRPCFrame f.flag f.payload) =
      some (.ok (some [], parseGRPCTrailers latin1 [])) := by
  let _ : GoLib := GoLib.plain
  exact (grpcWeb_decodes_exactly latin1).1 [⟨0, []⟩, ⟨0x80, []⟩, ⟨1, [7]⟩] (by decide)

/-! ### The status of a reply -/

/-- The status of the trailers if they have one, otherwise the first one of the header. -/
def statusInForce (trailers : Trailers) (header : Header) : Option String :=
  (trailers "grpc-status").or
    (match header.lookup "Grpc-Status" with
      | some (raw :: _) => some raw
      | _ => none)

/-- Only a status that is a number other than zero is one the sender takes for a failure. -/
private theorem grpcStatusFrom_eq_zero_iff (trailers : Trailers) (header : Header) :
    (grpcStatusFrom trailers header).1 = 0 ↔
      ∀ raw, statusInForce trailers header = some raw →
        parseDecimal raw = none ∨ parseDecimal raw = some 0 := by
  have hkey : canonicalHeaderKey "Grpc-Status" = "Grpc-Status" := by decide +kernel
  have hempty : parseDecimal "" = none := by decide +kernel
  unfold grpcStatusFrom statusInForce
  cases trailers "grpc-status" with
  | some raw => simpa using atoi_eq_zero_iff raw
  | none =>
    simp only [getHeader, hkey, Option.none_or]
    cases header.lookup "Grpc-Status" with
    | none => simp
    | some values =>
      cases values with
      | nil => simp
      | cons raw rest =>
        by_cases hraw : raw = ""
        · simp [hraw, hempty]
        · simpa [hraw] using atoi_eq_zero_iff raw

section Status

variable [GoLib] (text : Bytes → String)

/-- The body arrived whole under status 200 and is made of these frames, one of them data. -/
structure Carries (reply : Reply) (fs : List FlaggedFrame) : Prop where
  read : reply.body.stop = .eof
  status : reply.statusCode = 200
  fits : ∀ f ∈ fs, f.payload.length < 2 ^ 32
  bytes : reply.body.bytes = fs.flatMap fun f ↦ encodeGRPCFrame f.flag f.payload
  data : ∃ f ∈ fs, isTrailer f = false

/-- The status in force for the frames of a body. -/
def statusOf (reply : Reply) (fs : List FlaggedFrame) : Option String :=
  statusInForce (trailersAfter text (fun _ ↦ none) fs) reply.header

/-- A message under a status that is absent or zero. -/
def GenuineOK (reply : Reply) : Prop :=
  ∃ fs, Carries reply fs ∧ ∀ raw, statusOf text reply fs = some raw → parseDecimal raw = some 0

/-- A message under a status that is no number. -/
def MalformedStatus (reply : Reply) : Prop :=
  ∃ fs, Carries reply fs ∧ ∃ raw, statusOf text reply fs = some raw ∧ parseDecimal raw = none

omit [GoLib] in
private theorem firstMessage_isSome {fs : List FlaggedFrame} :
    (∃ m, firstMessage fs = some m) ↔ ∃ f ∈ fs, isTrailer f = false := by
  rw [← Option.isSome_iff_exists, firstMessage, Option.isSome_map, List.find?_isSome]
  simp

/-- A body is made of one list of frames only, as far as the status goes. -/
private theorem Carries.statusOf_eq {reply : Reply} {fs gs : List FlaggedFrame}
    (hf : Carries reply fs) (hg : Carries reply gs) : statusOf text reply fs = statusOf text reply gs := by
  have hdecoded := (decode_frames text hf.fits).symm.trans
    ((congrArg (decodeGRPCWebResponse text) (hf.bytes.symm.trans hg.bytes)).trans
      (decode_frames text hg.fits))
  injection hdecoded with hok
  injection hok with hpair
  rw [statusOf, statusOf, (Prod.mk.inj hpair).2]

variable {σ : Type} (g : GRPCSender σ)

/-- What a message is made of that the answer carries with an accepted status. -/
theorem webResult_of_carries (target : String) {reply : Reply} {fs : List FlaggedFrame}
    (hc : Carries reply fs) {m : Bytes} (hm : firstMessage fs = some m)
    (hstatus : ∀ raw, statusOf g.text reply fs = some raw →
      parseDecimal raw = none ∨ parseDecimal raw = some 0) :
    g.webResult target reply reply.body.readAll.2 = .ok m := by
  have hok : decodeGRPCWebResponse g.text reply.body.bytes =
      some (.ok (some m, trailersAfter g.text (fun _ ↦ none) fs)) := by
    rw [← hm, hc.bytes]
    exact decode_frames g.text hc.fits
  simp [GRPCSender.webResult, Body.readAll_snd, hc.read, hc.status, hok,
    (grpcStatusFrom_eq_zero_iff _ _).mpr hstatus]

/-- What the sender accepts: a status that is no number passes for zero. -/
theorem webResult_ok_iff (target : String) (reply : Reply) :
    (∃ m, g.webResult target reply reply.body.readAll.2 = .ok m) ↔
      ∃ fs, Carries reply fs ∧ ∀ raw, statusOf g.text reply fs = some raw →
        parseDecimal raw = none ∨ parseDecimal raw = some 0 := by
  constructor
  · rintro ⟨m, hm⟩
    rw [Body.readAll_snd] at hm
    unfold GRPCSender.webResult at hm
    cases hstop : reply.body.stop with
    | failed e => rw [hstop] at hm; cases hm
    | eof =>
      by_cases hstatus : reply.statusCode = 200
      · rcases decode_cases g.text reply.body.bytes with ⟨fs, hfs, hbody, hok⟩ | ⟨-, e, he⟩
        · simp only [hstop, hstatus, hok, ne_eq, not_true_eq_false, if_false, Option.getD_some] at hm
          by_cases hzero : (grpcStatusFrom (trailersAfter g.text (fun _ ↦ none) fs) reply.header).1 = 0
          · simp only [hzero, not_true_eq_false, if_false] at hm
            have hdata : ∃ m, firstMessage fs = some m := by
              cases hfirst : firstMessage fs with
              | none => rw [hfirst] at hm; cases hm
              | some m => exact ⟨m, rfl⟩
            exact ⟨fs, ⟨hstop, hstatus, hfs, hbody, firstMessage_isSome.mp hdata⟩,
              (grpcStatusFrom_eq_zero_iff _ _).mp hzero⟩
          · simp only [hzero, not_false_eq_true, if_true] at hm
            cases hm
        · simp [hstop, hstatus, he] at hm
      · simp [hstop, hstatus] at hm
  · rintro ⟨fs, hc, hzero⟩
    obtain ⟨m, hm⟩ := firstMessage_isSome.mpr hc.data
    exact ⟨m, webResult_of_carries g target hc hm hzero⟩

/-- A message is no longer than the body it came in. -/
theorem length_le_of_webResult {target : String} {reply : Reply} {m : Bytes}
    (h : g.webResult target reply reply.body.readAll.2 = .ok m) :
    m.length ≤ reply.body.bytes.length := by
  obtain ⟨fs, hc, hstatus⟩ := (webResult_ok_iff g target reply).mp ⟨m, h⟩
  obtain ⟨m', hm'⟩ := firstMessage_isSome.mpr hc.data
  rw [webResult_of_carries g target hc hm' hstatus] at h
  cases h
  obtain ⟨f, hf, rfl⟩ := Option.map_eq_some_iff.mp hm'
  have hsub : (encodeGRPCFrame f.flag f.payload).Sublist reply.body.bytes := by
    rw [hc.bytes, List.flatMap_def]
    exact List.sublist_flatten_of_mem (List.mem_map_of_mem (List.mem_of_find?_eq_some hf))
  have hpayload : f.payload.Sublist (encodeGRPCFrame f.flag f.payload) :=
    List.sublist_append_right _ _
  exact (hpayload.trans hsub).length_le

/-- A send that gets a reply answers what it makes of it. -/
theorem GRPCSender.sendWeb_of_reply {endpointURL target : String} {relayReqBz : Bytes}
    {rpcType : RPCType} {s s' : σ} {req : PostRequest} {reply : Reply}
    (htarget : grpcWebURL g.parseError g.withPath endpointURL = .ok target)
    (hreq : g.webRequest target relayReqBz rpcType = .ok req)
    (hreply : g.client req s = (.ok reply, s')) :
    g.sendWeb endpointURL relayReqBz rpcType s =
      (g.webResult target reply reply.body.readAll.2, s') := by
  simp only [sendWeb, sendingWeb, htarget, hreq, hreply, readWeb, Exec.seam_bind, Exec.seam_act,
    Exec.seam_emit, Exec.seam_emitAll, Exec.seam_pure]

/-- An answer is accepted on a genuine OK status, unless its status is no number. -/
theorem sendWeb_accepts_genuine_iff (endpointURL : String) (relayReqBz : Bytes) (rpcType : RPCType)
    (s s' : σ) (target : String) (req : PostRequest) (reply : Reply)
    (htarget : grpcWebURL g.parseError g.withPath endpointURL = .ok target)
    (hreq : g.webRequest target relayReqBz rpcType = .ok req)
    (hreply : g.client req s = (.ok reply, s')) :
    ((∃ m, (g.sendWeb endpointURL relayReqBz rpcType s).1 = .ok m) ↔ GenuineOK g.text reply) ↔
      ¬ MalformedStatus g.text reply := by
  have hsend := congrArg Prod.fst (g.sendWeb_of_reply htarget hreq hreply)
  rw [hsend, webResult_ok_iff]
  constructor
  · rintro hiff ⟨fs, hc, raw, hraw, hnone⟩
    have haccepted : ∀ raw', statusOf g.text reply fs = some raw' →
        parseDecimal raw' = none ∨ parseDecimal raw' = some 0 := by
      intro raw' hraw'
      rw [hraw] at hraw'
      cases hraw'
      exact .inl hnone
    obtain ⟨gs, hgs, hzero⟩ := hiff.mp ⟨fs, hc, haccepted⟩
    rw [hc.statusOf_eq g.text hgs] at hraw
    rw [hzero raw hraw] at hnone
    cases hnone
  · intro hwell
    constructor
    · rintro ⟨fs, hc, hzero⟩
      refine ⟨fs, hc, fun raw hraw ↦ ?_⟩
      rcases hzero raw hraw with hnone | hzero
      · exact absurd ⟨fs, hc, raw, hraw, hnone⟩ hwell
      · exact hzero
    · rintro ⟨fs, hc, hzero⟩
      exact ⟨fs, hc, fun raw hraw ↦ .inr (hzero raw hraw)⟩

end Status

/-- A sender in web mode whose client always gets this answer. -/
def GRPCSender.answeredWith (reply : Reply) : GRPCSender Unit where
  mode := .web
  parseError _ := .text "no url"
  withPath url _ := url
  newRequest _ := none
  stream _ _ _ _ := fun s ↦ (.error (.dial, ⟨codeUnknown, .text "not dialled"⟩), s)
  client _ := fun s ↦ (.ok reply, s)
  text := latin1

/-- One message and a trailer frame with this text. -/
def messageAndTrailer (trailer : String) : List FlaggedFrame :=
  [⟨0, [7]⟩, ⟨0x80, trailer.toList.map (fun c ↦ UInt8.ofNat c.toNat)⟩]

/-- A reply with a message and this trailer. -/
def replyOf (trailer : String) : Reply :=
  ⟨.final ((messageAndTrailer trailer).flatMap fun f ↦ encodeGRPCFrame f.flag f.payload) .eof,
    [], 200⟩

private theorem carries_replyOf (trailer : String) (h : trailer.toList.length < 2 ^ 32) :
    Carries (replyOf trailer) (messageAndTrailer trailer) where
  read := rfl
  status := rfl
  fits := by simpa [messageAndTrailer] using h
  bytes := rfl
  data := ⟨⟨0, [7]⟩, List.mem_cons_self, by decide⟩

/-- A reply with status zero is accepted. -/
theorem sendWeb_accepts_genuine_iff_zero :
    let _ : GoLib := GoLib.plain
    (∃ m, ((GRPCSender.answeredWith (replyOf "grpc-status: 0\r\n")).sendWeb "h:1" [] .grpc ()).1 =
      .ok m) ↔ GenuineOK latin1 (replyOf "grpc-status: 0\r\n") := by
  let _ : GoLib := GoLib.plain
  have hc := carries_replyOf "grpc-status: 0\r\n" (by decide)
  have hstatus : statusOf latin1 (replyOf "grpc-status: 0\r\n")
      (messageAndTrailer "grpc-status: 0\r\n") = some "0" := by decide +kernel
  refine (sendWeb_accepts_genuine_iff (GRPCSender.answeredWith (replyOf "grpc-status: 0\r\n")) "h:1"
    [] .grpc () () _ _ (replyOf "grpc-status: 0\r\n") rfl rfl rfl).mpr ?_
  rintro ⟨fs, hfs, raw, hraw, hnone⟩
  have hzero := hraw.symm.trans ((hfs.statusOf_eq latin1 hc).trans hstatus)
  cases hzero
  exact absurd hnone (by decide +kernel)

/-- A status that is no number is taken for OK. -/
theorem malformed_status_accepted :
    let _ : GoLib := GoLib.plain
    ((GRPCSender.answeredWith (replyOf "grpc-status: abc\r\n")).sendWeb "h:1" [] .grpc ()).1 =
        .ok [7] ∧
      ¬ GenuineOK latin1 (replyOf "grpc-status: abc\r\n") := by
  let _ : GoLib := GoLib.plain
  have hc := carries_replyOf "grpc-status: abc\r\n" (by decide)
  have hstatus : statusOf latin1 (replyOf "grpc-status: abc\r\n")
      (messageAndTrailer "grpc-status: abc\r\n") = some "abc" := by decide +kernel
  constructor
  · refine webResult_of_carries (GRPCSender.answeredWith (replyOf "grpc-status: abc\r\n")) _ hc rfl ?_
    intro raw hraw
    have habc := hraw.symm.trans hstatus
    cases habc
    exact .inl (by decide +kernel)
  · rintro ⟨fs, hfs, hzero⟩
    have hraw := (hfs.statusOf_eq latin1 hc).trans hstatus
    exact absurd (hzero "abc" hraw) (by decide +kernel)

end PocketAp.Pocket
