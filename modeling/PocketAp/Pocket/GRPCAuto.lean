import PocketAp.Base.Shared
import PocketAp.Pocket.GRPC

/-!
# Auto mode of the gRPC sender

`src/pocket/grpc.go:149–228, 475–503`. The set `webOnly` is shared by all calls of `Send`: a
lookup, the answer to a native attempt, a store and the end of a web attempt are one step
each, and any other call may move between them. What the classifier searches is the rendered
error, which holds the endpoint's URL or the dial target.
-/

namespace PocketAp.Pocket

open PocketAp.Base PocketAp.Domain PocketAp.Relay

/-! ### The classifier -/

/-- A text with one of the markers in it. -/
def carriesMarker (s : String) : Bool := notHTTP2Markers.any (contains s ·)

/-- What a call's error is wrapped with, around a place: the target or the URL. -/
def NativeCall.lead : NativeCall → String
  | .dial => "grpc sender: dial "
  | .openStream => "grpc sender: open stream to "
  | .send => "grpc sender: send to "
  | .closeSend => "grpc sender: close send to "
  | .receive => "grpc sender: receive from "

/-- What the error of a call is prefixed with. -/
def NativeCall.place (endpointURL target : String) : NativeCall → String
  | .dial => target
  | _ => endpointURL

private theorem NativeCall.format_eq (endpointURL target : String) (call : NativeCall) :
    call.format endpointURL target = call.lead ++ call.place endpointURL target ++ ": " := by
  cases call <;> rfl

private theorem colon_notMem_marker : ∀ m ∈ notHTTP2Markers, ':' ∉ m.toList := by decide +kernel

/-- No marker starts in the fixed part of a message. -/
private theorem lead_disjoint (call : NativeCall) : ∀ m ∈ notHTTP2Markers,
    ∀ t ∈ call.lead.toList.tails, t ≠ [] → ¬ t <+: m.toList ∧ ¬ m.toList <+: t := by
  cases call <;> decide +kernel

private theorem space_disjoint : ∀ m ∈ notHTTP2Markers,
    ∀ t ∈ [' '].tails, t ≠ [] → ¬ t <+: m.toList ∧ ¬ m.toList <+: t := by
  decide +kernel

/-- A marker in a wrapped error is in the place or in the error. -/
private theorem contains_wrapped (endpointURL target : String) (call : NativeCall) (text m : String)
    (hm : m ∈ notHTTP2Markers) :
    contains (call.format endpointURL target ++ text) m =
      (contains (call.place endpointURL target) m || contains text m) := by
  rw [Bool.eq_iff_iff, Bool.or_eq_true, contains_iff, contains_iff, contains_iff,
    NativeCall.format_eq]
  have hshape : (call.lead ++ call.place endpointURL target ++ ": " ++ text).toList =
      (call.lead.toList ++ (call.place endpointURL target).toList) ++ ':' :: ([' '] ++ text.toList) := by
    simp
  rw [hshape, infix_append_cons_iff (colon_notMem_marker m hm),
    infix_append_iff_of_disjoint (lead_disjoint call m hm),
    infix_append_iff_of_disjoint (space_disjoint m hm)]

/-- The error a native attempt returns is classified by itself or by the place it names. -/
theorem isNotHTTP2_errorf (endpointURL target : String) (call : NativeCall) (e : StatusErr) :
    isNotHTTP2 (e.errorf (call.format endpointURL target)) =
      (carriesMarker (call.place endpointURL target) || isNotHTTP2 e) := by
  have hany : notHTTP2Markers.any (contains (call.format endpointURL target ++ e.err.message) ·) =
      (notHTTP2Markers.any (contains (call.place endpointURL target) ·) ||
        notHTTP2Markers.any (contains e.err.message ·)) := by
    rw [Bool.eq_iff_iff, Bool.or_eq_true, List.any_eq_true, List.any_eq_true, List.any_eq_true]
    constructor
    · rintro ⟨m, hm, hc⟩
      rw [contains_wrapped _ _ _ _ m hm, Bool.or_eq_true] at hc
      exact hc.imp (⟨m, hm, ·⟩) (⟨m, hm, ·⟩)
    · rintro (⟨m, hm, hc⟩ | ⟨m, hm, hc⟩)
      · exact ⟨m, hm, by rw [contains_wrapped _ _ _ _ m hm, hc, Bool.true_or]⟩
      · exact ⟨m, hm, by rw [contains_wrapped _ _ _ _ m hm, hc, Bool.or_true]⟩
  have hmessage : (e.errorf (call.format endpointURL target)).err.message =
      call.format endpointURL target ++ e.err.message := rfl
  have hcode : (e.errorf (call.format endpointURL target)).code = e.code := rfl
  rw [isNotHTTP2, hmessage, hcode, hany, isNotHTTP2, carriesMarker]
  cases e.code == codeUnimplemented <;> simp

/-- Neither of the texts a native error is wrapped with carries a marker. -/
def Unmarked (endpointURL target : String) : Prop :=
  carriesMarker endpointURL = false ∧ carriesMarker target = false

private theorem Unmarked.place {endpointURL target : String} (h : Unmarked endpointURL target)
    (call : NativeCall) : carriesMarker (call.place endpointURL target) = false := by
  cases call
  · exact h.2
  all_goals exact h.1

/-- An error without evidence. -/
private theorem blank_isNotHTTP2 : isNotHTTP2 ⟨codeUnknown, .text ""⟩ = false := by
  decide +kernel

/-- A marked URL or target is classified whatever the error is. -/
private theorem exists_marked_place {endpointURL target : String}
    (h : ¬ Unmarked endpointURL target) :
    ∃ call : NativeCall, carriesMarker (call.place endpointURL target) = true := by
  by_cases hurl : carriesMarker endpointURL = true
  · exact ⟨.receive, hurl⟩
  · refine ⟨.dial, ?_⟩
    show carriesMarker target = true
    by_contra htarget
    exact h ⟨by simpa using hurl, by simpa using htarget⟩

private theorem classified_by_error_iff (endpointURL target : String) :
    (∀ (call : NativeCall) (e : StatusErr),
      isNotHTTP2 (e.errorf (call.format endpointURL target)) = isNotHTTP2 e) ↔
      Unmarked endpointURL target := by
  constructor
  · intro h
    by_contra hmarked
    obtain ⟨call, hcall⟩ := exists_marked_place hmarked
    have hblank := h call ⟨codeUnknown, .text ""⟩
    rw [isNotHTTP2_errorf, hcall, Bool.true_or, blank_isNotHTTP2] at hblank
    cases hblank
  · intro h call e
    rw [isNotHTTP2_errorf, h.place call, Bool.false_or]

/-! ### Calls of `Send` over the shared set -/

/-- A native attempt that failed, with the error before it was wrapped. -/
structure NativeFailure where
  url : String
  host : String
  call : NativeCall
  err : StatusErr
  deriving DecidableEq, Repr

/-- The set, and the native attempts that failed so far; no code reads the latter. -/
structure Pins where
  webOnly : String → Bool := fun _ ↦ false
  failures : List NativeFailure := []

/-- Where a call is: before its lookup, waiting for a native answer, before the store, waiting
for a web answer, or back. -/
inductive SendPhase where
  | looking
  | native
  | storing
  | web
  | returned (result : Except Err Bytes)

/-- What a call did on its way. -/
inductive SendEvent where
  | native
  | failed (call : NativeCall) (err : StatusErr)
  | web
  deriving DecidableEq, Repr

/-- A call; `known` is whether its host was in the set when it began, `found` what its lookup
gave, and `log` its attempts. No code reads the three. -/
structure Sending where
  url : String
  host : String
  phase : SendPhase
  known : Bool := false
  found : Bool := false
  log : List SendEvent := []

/-- What can happen to a call. -/
inductive SendMove where
  | load
  | answer (answer : Except (NativeCall × StatusErr) Bytes)
  | store
  | web (answer : Except Err Bytes)

section Auto

variable [GoLib] (parseError : String → Err)

/-- `src/pocket/grpc.go:150–153`. -/
def Sending.start (c : Pins) (url : String) : Sending :=
  match grpcTarget parseError url with
  | .error e => { url, host := "", phase := .returned (.error e) }
  | .ok (host, _) => { url, host, phase := .looking, known := c.webOnly host }

omit [GoLib] in
/-- `src/pocket/grpc.go:162–182`. -/
def Sending.move (c : Pins) (p : Sending) : SendMove → Option (Pins × Sending)
  | .load =>
    match p.phase with
    | .looking =>
      if c.webOnly p.host then
        some (c, { p with phase := .web, found := true, log := p.log ++ [.web] })
      else some (c, { p with phase := .native, log := p.log ++ [.native] })
    | _ => none
  | .answer answer =>
    match p.phase, answer with
    | .native, .ok resp => some (c, { p with phase := .returned (.ok resp) })
    | .native, .error (call, e) =>
      let wrapped := e.errorf (call.format p.url p.host)
      some ({ c with failures := c.failures ++ [⟨p.url, p.host, call, e⟩] },
        { p with
          phase := if isNotHTTP2 wrapped then .storing else .returned (.error wrapped.err)
          log := p.log ++ [.failed call e] })
    | _, _ => none
  | .store =>
    match p.phase with
    | .storing =>
      some ({ c with webOnly := Function.update c.webOnly p.host true },
        { p with phase := .web, log := p.log ++ [.web] })
    | _ => none
  | .web answer =>
    match p.phase with
    | .web => some (c, { p with phase := .returned answer })
    | _ => none

/-- One turn of the calls. -/
def sendStep : Shared Pins Sending → Turn String SendMove → Option (Shared Pins Sending) :=
  Shared.step (Sending.start parseError) Sending.move

omit [GoLib] in
/-- The cases of a move. -/
inductive Sending.Moved (c : Pins) (p : Sending) : SendMove → Pins → Sending → Prop where
  | pinned (looking : p.phase = .looking) (here : c.webOnly p.host = true) :
      Moved c p .load c { p with phase := .web, found := true, log := p.log ++ [.web] }
  | attempted (looking : p.phase = .looking) (absent : c.webOnly p.host = false) :
      Moved c p .load c { p with phase := .native, log := p.log ++ [.native] }
  | answered (resp : Bytes) (native : p.phase = .native) :
      Moved c p (.answer (.ok resp)) c { p with phase := .returned (.ok resp) }
  | refused (call : NativeCall) (e : StatusErr) (native : p.phase = .native)
      (real : isNotHTTP2 (e.errorf (call.format p.url p.host)) = false) :
      Moved c p (.answer (.error (call, e)))
        { c with failures := c.failures ++ [⟨p.url, p.host, call, e⟩] }
        { p with
          phase := .returned (.error (e.errorf (call.format p.url p.host)).err)
          log := p.log ++ [.failed call e] }
  | classified (call : NativeCall) (e : StatusErr) (native : p.phase = .native)
      (notHTTP2 : isNotHTTP2 (e.errorf (call.format p.url p.host)) = true) :
      Moved c p (.answer (.error (call, e)))
        { c with failures := c.failures ++ [⟨p.url, p.host, call, e⟩] }
        { p with phase := .storing, log := p.log ++ [.failed call e] }
  | stored (storing : p.phase = .storing) :
      Moved c p .store { c with webOnly := Function.update c.webOnly p.host true }
        { p with phase := .web, log := p.log ++ [.web] }
  | back (answer : Except Err Bytes) (web : p.phase = .web) :
      Moved c p (.web answer) c { p with phase := .returned answer }

section Moves

variable {c c' : Pins} {p p' : Sending} {m : SendMove}

omit [GoLib] in
/-- A call moves in one of these ways. -/
theorem Sending.move_cases (hm : p.move c m = some (c', p')) : p.Moved c m c' p' := by
  cases m with
  | load =>
    simp only [Sending.move] at hm
    split at hm
    · next hp =>
      split at hm
      · next hc =>
        cases hm
        exact .pinned hp hc
      · next hc =>
        cases hm
        exact .attempted hp (by simpa using hc)
    · cases hm
  | answer a =>
    simp only [Sending.move] at hm
    split at hm
    · next resp hp =>
      cases hm
      exact .answered resp hp
    · next call e hp =>
      cases hc : isNotHTTP2 (e.errorf (call.format p.url p.host)) with
      | true =>
        simp only [hc, if_true] at hm
        cases hm
        exact .classified call e hp hc
      | false =>
        simp only [hc, Bool.false_eq_true, if_false] at hm
        cases hm
        exact .refused call e hp hc
    · cases hm
  | store =>
    simp only [Sending.move] at hm
    split at hm
    · next hp =>
      cases hm
      exact .stored hp
    · cases hm
  | web a =>
    simp only [Sending.move] at hm
    split at hm
    · next hp =>
      cases hm
      exact .back a hp
    · cases hm

omit [GoLib] in
/-- Nothing leaves the set. -/
theorem Sending.move_webOnly_mono (hm : p.move c m = some (c', p')) {host : String}
    (h : c.webOnly host = true) : c'.webOnly host = true := by
  cases Sending.move_cases hm with
  | stored storing =>
    simp only [Function.update_apply]
    split
    · rfl
    · exact h
  | _ => exact h

end Moves

/-! ### What a call does -/

/-- A failure the classifier took for a front door without HTTP/2. -/
def Classified (p : Sending) (call : NativeCall) (e : StatusErr) : Prop :=
  isNotHTTP2 (e.errorf (call.format p.url p.host)) = true

omit [GoLib] in
/-- The attempts of a call, by where it is. -/
def Sending.Tried (p : Sending) : Prop :=
  match p.phase with
  | .looking => p.found = false ∧ p.log = []
  | .native => p.found = false ∧ p.log = [.native]
  | .storing => p.found = false ∧ ∃ call e, Classified p call e ∧ p.log = [.native, .failed call e]
  | .web =>
    (p.found = true ∧ p.log = [.web]) ∨
      (p.found = false ∧ ∃ call e, Classified p call e ∧ p.log = [.native, .failed call e, .web])
  | .returned _ =>
    (p.found = true ∧ p.log = [.web]) ∨
      (p.found = false ∧
        (p.log = [] ∨ p.log = [.native] ∨
          (∃ call e, ¬ Classified p call e ∧ p.log = [.native, .failed call e]) ∨
          ∃ call e, Classified p call e ∧ p.log = [.native, .failed call e, .web]))

omit [GoLib] in
/-- What a call knows of the set: its host is in it once the call went to the web, and before
the lookup if it was there when the call began. -/
def Sending.Knows (c : Pins) (p : Sending) : Prop :=
  (.web ∈ p.log → c.webOnly p.host = true) ∧
    (p.known = true → p.phase = .looking → c.webOnly p.host = true) ∧
    (p.known = true → .native ∉ p.log)

/-- A host is in the set only if a native attempt to it was classified. -/
def Pins.Classified (c : Pins) : Prop :=
  ∀ host, c.webOnly host = true →
    ∃ f ∈ c.failures, f.host = host ∧ isNotHTTP2 (f.err.errorf (f.call.format f.url f.host)) = true

omit [GoLib] in
/-- The failure behind a call that is about to store. -/
def Sending.Reported (c : Pins) (p : Sending) : Prop :=
  p.phase = .storing →
    ∃ f ∈ c.failures, f.host = p.host ∧ isNotHTTP2 (f.err.errorf (f.call.format f.url f.host)) = true

private theorem Sending.tried_start (c : Pins) (url : String) :
    (Sending.start parseError c url).Tried := by
  unfold Sending.start
  split
  · exact .inr ⟨rfl, .inl rfl⟩
  · exact ⟨rfl, rfl⟩

private theorem Sending.knows_start (c : Pins) (url : String) :
    (Sending.start parseError c url).Knows c := by
  unfold Sending.start
  split
  · exact ⟨nofun, nofun, nofun⟩
  · exact ⟨nofun, fun h _ ↦ h, fun _ ↦ nofun⟩

omit [GoLib] in
private theorem Sending.tried_move {c c' : Pins} {p p' : Sending} {m : SendMove} (ht : p.Tried)
    (hm : p.move c m = some (c', p')) : p'.Tried := by
  unfold Sending.Tried at ht
  cases Sending.move_cases hm with
  | pinned looking here =>
    simp only [looking] at ht
    exact .inl ⟨rfl, by simp [ht.2]⟩
  | attempted looking absent =>
    simp only [looking] at ht
    exact ⟨ht.1, by simp [ht.2]⟩
  | answered resp native =>
    simp only [native] at ht
    exact .inr ⟨ht.1, .inr (.inl ht.2)⟩
  | refused call e native real =>
    simp only [native] at ht
    refine .inr ⟨ht.1, .inr (.inr (.inl ⟨call, e, ?_, by simp [ht.2]⟩))⟩
    simp [Classified, real]
  | classified call e native notHTTP2 =>
    simp only [native] at ht
    exact ⟨ht.1, call, e, notHTTP2, by simp [ht.2]⟩
  | stored storing =>
    simp only [storing] at ht
    obtain ⟨hfound, call, e, hc, hlog⟩ := ht
    exact .inr ⟨hfound, call, e, hc, by simp [hlog]⟩
  | back answer web =>
    simp only [web] at ht
    exact ht.imp_right (fun h ↦ ⟨h.1, .inr (.inr (.inr h.2))⟩)

omit [GoLib] in
private theorem Sending.knows_move {c c' : Pins} {p p' : Sending} {m : SendMove}
    (hk : p.Knows c) (hm : p.move c m = some (c', p')) : p'.Knows c' := by
  obtain ⟨hweb, hbegin, hnative⟩ := hk
  cases Sending.move_cases hm with
  | pinned looking here => exact ⟨fun _ ↦ here, fun _ ↦ nofun, fun h ↦ by simpa using hnative h⟩
  | attempted looking absent =>
    have hunknown : p.known ≠ true := by
      intro h
      rw [hbegin h looking] at absent
      cases absent
    exact ⟨fun h ↦ hweb (by simpa using h), fun _ ↦ nofun, fun h ↦ absurd h hunknown⟩
  | answered resp native => exact ⟨hweb, fun _ ↦ nofun, hnative⟩
  | refused call e native real =>
    exact ⟨fun h ↦ hweb (by simpa using h), fun _ ↦ nofun, fun h ↦ by simpa using hnative h⟩
  | classified call e native notHTTP2 =>
    exact ⟨fun h ↦ hweb (by simpa using h), fun _ ↦ nofun, fun h ↦ by simpa using hnative h⟩
  | stored storing =>
    exact ⟨fun _ ↦ by simp, fun _ ↦ nofun, fun h ↦ by simpa using hnative h⟩
  | back answer web => exact ⟨hweb, fun _ ↦ nofun, hnative⟩

omit [GoLib] in
private theorem Sending.knows_others {c c' : Pins} {p p' q : Sending} {m : SendMove}
    (hq : q.Knows c) (hm : p.move c m = some (c', p')) : q.Knows c' :=
  ⟨fun h ↦ Sending.move_webOnly_mono hm (hq.1 h),
    fun h hp ↦ Sending.move_webOnly_mono hm (hq.2.1 h hp), hq.2.2⟩

omit [GoLib] in
/-- Failures are kept. -/
private theorem Sending.move_failures {c c' : Pins} {p p' : Sending} {m : SendMove}
    (hm : p.move c m = some (c', p')) {f : NativeFailure} (h : f ∈ c.failures) :
    f ∈ c'.failures := by
  cases Sending.move_cases hm with
  | refused call e native real => exact List.mem_append_left _ h
  | classified call e native notHTTP2 => exact List.mem_append_left _ h
  | _ => exact h

omit [GoLib] in
private theorem Sending.reported_others {c c' : Pins} {p p' q : Sending} {m : SendMove}
    (hq : q.Reported c) (hm : p.move c m = some (c', p')) : q.Reported c' := by
  intro hstoring
  obtain ⟨f, hf, hhost⟩ := hq hstoring
  exact ⟨f, Sending.move_failures hm hf, hhost⟩

omit [GoLib] in
private theorem Sending.reported_move {c c' : Pins} {p p' : Sending} {m : SendMove}
    (hm : p.move c m = some (c', p')) : p'.Reported c' := by
  cases Sending.move_cases hm with
  | classified call e native notHTTP2 =>
    exact fun _ ↦ ⟨_, List.mem_append_right _ List.mem_cons_self, rfl, notHTTP2⟩
  | _ => exact nofun

omit [GoLib] in
private theorem Pins.classified_move {c c' : Pins} {p p' : Sending} {m : SendMove}
    (hc : c.Classified) (hp : p.Reported c) (hm : p.move c m = some (c', p')) : c'.Classified := by
  have hkept (host : String) (h : c.webOnly host = true) :
      ∃ f ∈ c'.failures, f.host = host ∧
        isNotHTTP2 (f.err.errorf (f.call.format f.url f.host)) = true := by
    obtain ⟨f, hf, hhost⟩ := hc host h
    exact ⟨f, Sending.move_failures hm hf, hhost⟩
  cases Sending.move_cases hm with
  | stored storing =>
    intro host hhost
    by_cases hsame : host = p.host
    · subst hsame
      exact hp storing
    · simp only [Function.update_of_ne hsame] at hhost
      exact hkept host hhost
  | _ => exact hkept

private theorem sends_stable : Shared.Stable (Sending.start parseError) Sending.move
    Pins.Classified (fun c p ↦ p.Tried ∧ p.Knows c ∧ p.Reported c) where
  arrives c url _ := by
    refine ⟨Sending.tried_start parseError c url, Sending.knows_start parseError c url, ?_⟩
    unfold Sending.Reported Sending.start
    split <;> exact nofun
  cell _ _ _ _ _ hc hp hm := Pins.classified_move hc hp.2.2 hm
  own _ _ _ _ _ _ hp hm :=
    ⟨Sending.tried_move hp.1 hm, Sending.knows_move hp.2.1 hm, Sending.reported_move hm⟩
  others _ _ _ _ _ _ _ _ hq hm :=
    ⟨hq.1, Sending.knows_others hq.2.1 hm, Sending.reported_others hq.2.2 hm⟩

omit [GoLib] in
/-- What holds of every call: how often it tries each framing, and why. -/
structure Sending.Disciplined (c : Pins) (p : Sending) : Prop where
  native_once : p.log.countP (· = .native) ≤ 1
  web_once : p.log.countP (· = .web) ≤ 1
  web_pinned : .web ∈ p.log → c.webOnly p.host = true
  web_reason : .web ∈ p.log →
    p.found = true ∨ ∃ call e, .failed call e ∈ p.log ∧ Classified p call e
  native_unknown : p.known = true → .native ∉ p.log

omit [GoLib] in
private theorem Sending.disciplined_of_tried {c : Pins} {p : Sending} (ht : p.Tried)
    (hk : p.Knows c) : p.Disciplined c := by
  have hshape : (p.log = [.web] ∧ p.found = true) ∨ p.log = [] ∨ p.log = [.native] ∨
      (∃ call e, p.log = [.native, .failed call e]) ∨
      ∃ call e, Classified p call e ∧ p.log = [.native, .failed call e, .web] := by
    unfold Sending.Tried at ht
    cases hp : p.phase <;> simp only [hp] at ht <;> grind
  rcases hshape with ⟨hlog, hfound⟩ | hlog | hlog | ⟨call, e, hlog⟩ | ⟨call, e, hc, hlog⟩
  · exact ⟨by simp [hlog], by simp [hlog], hk.1, fun _ ↦ .inl hfound, hk.2.2⟩
  · exact ⟨by simp [hlog], by simp [hlog], hk.1, by simp [hlog], hk.2.2⟩
  · exact ⟨by simp [hlog], by simp [hlog], hk.1, by simp [hlog], hk.2.2⟩
  · exact ⟨by simp [hlog], by simp [hlog], hk.1, by simp [hlog], hk.2.2⟩
  · exact ⟨by simp [hlog], by simp [hlog], hk.1, fun _ ↦ .inr ⟨call, e, by simp [hlog], hc⟩, hk.2.2⟩

/-! ### Evidence -/

/-- The URL, and the target it is dialled at, carry no marker. -/
def UnmarkedURL (url : String) : Prop :=
  ∀ host useTLS, grpcTarget parseError url = .ok (host, useTLS) → Unmarked url host

/-- A host is in the set only after a native attempt to it whose own error, without what it is
wrapped with, says so. -/
def Pins.OnEvidence (c : Pins) : Prop :=
  ∀ host, c.webOnly host = true → ∃ f ∈ c.failures, f.host = host ∧ isNotHTTP2 f.err = true

omit [GoLib] in
/-- What a move leaves alone: the URL and the host; a call that is back does not move. -/
private theorem Sending.move_place {c c' : Pins} {p p' : Sending} {m : SendMove}
    (hm : p.move c m = some (c', p')) :
    (p'.url = p.url ∧ p'.host = p.host) ∧ (∀ r, p.phase ≠ .returned r) ∧
      ∀ f ∈ c'.failures, f ∈ c.failures ∨ f.url = p.url ∧ f.host = p.host := by
  have hsame : ∀ f ∈ c.failures, f ∈ c.failures ∨ f.url = p.url ∧ f.host = p.host :=
    fun _ ↦ .inl
  have hmore (call : NativeCall) (e : StatusErr) :
      ∀ f ∈ c.failures ++ [⟨p.url, p.host, call, e⟩],
        f ∈ c.failures ∨ f.url = p.url ∧ f.host = p.host := by
    intro f hf
    rcases List.mem_append.mp hf with hf | hf
    · exact .inl hf
    · rw [List.mem_singleton.mp hf]
      exact .inr ⟨rfl, rfl⟩
  cases Sending.move_cases hm with
  | pinned looking here => exact ⟨⟨rfl, rfl⟩, by simp [looking], hsame⟩
  | attempted looking absent => exact ⟨⟨rfl, rfl⟩, by simp [looking], hsame⟩
  | answered resp native => exact ⟨⟨rfl, rfl⟩, by simp [native], hsame⟩
  | refused call e native real => exact ⟨⟨rfl, rfl⟩, by simp [native], hmore call e⟩
  | classified call e native notHTTP2 => exact ⟨⟨rfl, rfl⟩, by simp [native], hmore call e⟩
  | stored storing => exact ⟨⟨rfl, rfl⟩, by simp [storing], hsame⟩
  | back answer web => exact ⟨⟨rfl, rfl⟩, by simp [web], hsame⟩

/-- The calls that go on and the failures of a run to unmarked URLs. -/
private structure AllUnmarked (s : Shared Pins Sending) : Prop where
  procs : ∀ p ∈ s.procs, (∃ r, p.phase = .returned r) ∨ Unmarked p.url p.host
  failures : ∀ f ∈ s.cell.failures, Unmarked f.url f.host

private theorem AllUnmarked.step {s s' : Shared Pins Sending} {t : Turn String SendMove}
    (hs : AllUnmarked s) (ht : ∀ url, t = .arrive url → UnmarkedURL parseError url)
    (h : sendStep parseError s t = some s') : AllUnmarked s' := by
  cases Shared.step_cases h with
  | arrive url =>
    refine ⟨fun p hp ↦ ?_, hs.failures⟩
    rcases List.mem_append.mp hp with hp | hp
    · exact hs.procs p hp
    · rw [List.mem_singleton.mp hp, Sending.start]
      split
      · exact .inl ⟨_, rfl⟩
      · next host useTLS htarget => exact .inr (ht url rfl host useTLS htarget)
  | move i m p p' c here moved =>
    obtain ⟨⟨hurl, hhost⟩, hgoing, hfailures⟩ := Sending.move_place moved
    have hp : Unmarked p.url p.host := by
      rcases hs.procs p (List.mem_of_getElem? here) with ⟨r, hr⟩ | hp
      · exact absurd hr (hgoing r)
      · exact hp
    refine ⟨fun q hq ↦ ?_, fun f hf ↦ ?_⟩
    · rcases List.mem_or_eq_of_mem_set hq with hq | rfl
      · exact hs.procs q hq
      · rw [hurl, hhost]
        exact .inr hp
    · rcases hfailures f hf with hf | ⟨hurl, hhost⟩
      · exact hs.failures f hf
      · rw [hurl, hhost]
        exact hp

/-- The run of one call whose native attempt fails and is classified. -/
private theorem run_pinning {url host : String} {useTLS : Bool} {call : NativeCall} {e : StatusErr}
    (htarget : grpcTarget parseError url = .ok (host, useTLS))
    (hclass : isNotHTTP2 (e.errorf (call.format url host)) = true) (hreal : isNotHTTP2 e = false) :
    ∃ s, runAll (sendStep parseError) ⟨{}, []⟩ [.arrive url, .move 0 .load,
        .move 0 (.answer (.error (call, e))), .move 0 .store] = some s ∧
      s.cell.webOnly host = true ∧ ¬ s.cell.OnEvidence := by
  refine ⟨⟨⟨Function.update (fun _ ↦ false) host true, [⟨url, host, call, e⟩]⟩,
    [⟨url, host, .web, false, false, [.native, .failed call e, .web]⟩]⟩, ?_, by simp, ?_⟩
  · simp [runAll, sendStep, Shared.step, Sending.start, htarget, Sending.move, hclass]
  · intro hevidence
    obtain ⟨f, hf, -, herr⟩ := hevidence host (by simp)
    rw [List.mem_singleton.mp hf, hreal] at herr
    cases herr

/-- A marked URL pins its host on an error without evidence. -/
private theorem pinned_without_evidence {url host : String} {useTLS : Bool}
    (htarget : grpcTarget parseError url = .ok (host, useTLS)) (hmarked : ¬ Unmarked url host) :
    ∃ ts s, (∀ url', .arrive url' ∈ ts → url' = url) ∧
      runAll (sendStep parseError) ⟨{}, []⟩ ts = some s ∧ ¬ s.cell.OnEvidence := by
  obtain ⟨call, hcall⟩ := exists_marked_place hmarked
  have hclass : isNotHTTP2 (StatusErr.errorf (call.format url host) ⟨codeUnknown, .text ""⟩) =
      true := by
    rw [isNotHTTP2_errorf, hcall, Bool.true_or]
  obtain ⟨s, hrun, -, hnot⟩ := run_pinning parseError htarget hclass blank_isNotHTTP2
  exact ⟨_, s, by simp, hrun, hnot⟩

/-- Auto mode pins hosts on evidence from their transport as long as no URL in use carries a
marker, and only then: a marker in the URL, or in the target it is dialled at, is taken for
one in the error. How often a call tries each framing, and why, does not depend on it. -/
theorem autoMode_on_evidence_iff :
    (∀ url host, (∀ (call : NativeCall) (e : StatusErr),
        isNotHTTP2 (e.errorf (call.format url host)) = isNotHTTP2 e) ↔ Unmarked url host) ∧
    (∀ U : Set String,
      (∀ ts s, (∀ url, .arrive url ∈ ts → url ∈ U) →
        runAll (sendStep parseError) ⟨{}, []⟩ ts = some s → s.cell.OnEvidence) ↔
      ∀ url ∈ U, UnmarkedURL parseError url) ∧
    ∀ ts s, runAll (sendStep parseError) ⟨{}, []⟩ ts = some s →
      ∀ p ∈ s.procs, p.Disciplined s.cell := by
  have hempty : Pins.Classified {} := nofun
  refine ⟨classified_by_error_iff, fun U ↦ ⟨fun h url hurl host useTLS htarget ↦ ?_, ?_⟩, ?_⟩
  · by_contra hmarked
    obtain ⟨ts, s, honly, hrun, hnot⟩ := pinned_without_evidence parseError htarget hmarked
    exact hnot (h ts s (fun url' h' ↦ honly url' h' ▸ hurl) hrun)
  · intro hU ts s hts hrun host hhost
    obtain ⟨hclassified, -⟩ := (sends_stable parseError).run hempty hrun
    have hall : AllSteps (sendStep parseError)
        (fun _ t ↦ ∀ url, t = .arrive url → UnmarkedURL parseError url) ⟨{}, []⟩ ts := by
      refine allSteps_of_forall ?_ _
      rintro t ht - url rfl
      exact hU url (hts url ht)
    have hunmarked : AllUnmarked s :=
      invariant_of_allSteps (fun _ _ _ ↦ AllUnmarked.step parseError) ⟨by simp, by simp⟩ hall hrun
    obtain ⟨f, hf, hf', herr⟩ := hclassified host hhost
    refine ⟨f, hf, hf', ?_⟩
    rwa [isNotHTTP2_errorf, (hunmarked.failures f hf).place, Bool.false_or] at herr
  · intro ts s hrun p hp
    obtain ⟨-, hprocs⟩ := (sends_stable parseError).run hempty hrun
    obtain ⟨htried, hknows, -⟩ := hprocs p hp
    exact Sending.disciplined_of_tried htried hknows

end Auto

/-- A reset connection to port 5050 pins the host: `505` is in the URL. -/
theorem reset_pins_port_5050 :
    let _ : GoLib := GoLib.plain
    let reset : StatusErr := ⟨14, .text "rpc error: code = Unavailable desc = connection reset"⟩
    isNotHTTP2 reset = false ∧
      ∃ s, runAll (sendStep (fun _ ↦ .text "")) ⟨{}, []⟩ [.arrive "http://h:5050", .move 0 .load,
          .move 0 (.answer (.error (.receive, reset))), .move 0 .store] = some s ∧
        s.cell.webOnly "h:5050" = true ∧ ¬ s.cell.OnEvidence := by
  let _ : GoLib := GoLib.plain
  intro _ reset
  have hreal : isNotHTTP2 reset = false := by decide +kernel
  have hmarked : carriesMarker (NativeCall.receive.place "http://h:5050" "h:5050") = true := by
    decide +kernel
  have hclass : isNotHTTP2 (reset.errorf (NativeCall.receive.format "http://h:5050" "h:5050")) =
      true := by
    rw [isNotHTTP2_errorf, hmarked, Bool.true_or]
  have htarget : grpcTarget (fun _ ↦ .text "") "http://h:5050" = .ok ("h:5050", false) := by rfl
  exact ⟨hreal, run_pinning _ htarget hclass hreal⟩

/-! ### One call alone -/

section Alone

variable [GoLib] (parseError : String → Err)

omit [GoLib] in
/-- A call alone comes back with a result, leaving a set. -/
private def ComesBack
    (step : Shared Pins Sending → Turn String SendMove → Option (Shared Pins Sending))
    (s : Shared Pins Sending) (result : Except Err Bytes) (webOnly : String → Bool) : Prop :=
  ∃ turns c p, runAll step s turns = some ⟨c, [p]⟩ ∧ p.phase = .returned result ∧
    c.webOnly = webOnly

private theorem ComesBack.move {c c' : Pins} {p p' : Sending} (m : SendMove)
    {result : Except Err Bytes} {webOnly : String → Bool} (hm : p.move c m = some (c', p'))
    (h : ComesBack (sendStep parseError) ⟨c', [p']⟩ result webOnly) :
    ComesBack (sendStep parseError) ⟨c, [p]⟩ result webOnly := by
  obtain ⟨turns, c₁, p₁, hrun, hback⟩ := h
  refine ⟨.move 0 m :: turns, c₁, p₁, runAll_of_step ?_ hrun, hback⟩
  simp [sendStep, Shared.step, hm]

/-- A call of `Send` in auto mode is a run of the machine with one call in it. -/
theorem GRPCSender.send_auto_run {σ : Type} (g : GRPCSender σ) (hmode : g.mode = .auto)
    (url : String) (relayReqBz : Bytes) (rpcType : RPCType) (c : Pins) (s : σ) :
    ∃ turns c' p, runAll (sendStep g.parseError) ⟨c, []⟩ (.arrive url :: turns) =
        some ⟨c', [p]⟩ ∧
      p.phase = .returned (g.send url relayReqBz rpcType (c.webOnly, s)).1 ∧
      c'.webOnly = (g.send url relayReqBz rpcType (c.webOnly, s)).2.1 := by
  suffices hback : ComesBack (sendStep g.parseError) ⟨c, [Sending.start g.parseError c url]⟩
      (g.send url relayReqBz rpcType (c.webOnly, s)).1
      (g.send url relayReqBz rpcType (c.webOnly, s)).2.1 by
    obtain ⟨turns, c', p, hrun, hp⟩ := hback
    exact ⟨turns, c', p, runAll_of_step rfl hrun, hp⟩
  unfold Sending.start
  cases htarget : grpcTarget g.parseError url with
  | error e =>
    simp only [GRPCSender.send, GRPCSender.sending, htarget, Exec.seam_pure]
    exact ⟨[], _, _, rfl, rfl, rfl⟩
  | ok target =>
    obtain ⟨host, useTLS⟩ := target
    simp only [g.send_of_auto hmode htarget]
    cases hpinned : c.webOnly host with
    | true =>
      have hload : Sending.move c ⟨url, host, .looking, true, false, []⟩ .load =
          some (c, ⟨url, host, .web, true, true, [.web]⟩) := by
        simp [Sending.move, hpinned]
      refine ComesBack.move _ .load hload ?_
      exact ComesBack.move _ (.web (g.sendWeb url relayReqBz rpcType s).1) rfl
        ⟨[], _, _, rfl, rfl, rfl⟩
    | false =>
      have hload : Sending.move c ⟨url, host, .looking, false, false, []⟩ .load =
          some (c, ⟨url, host, .native, false, false, [.native]⟩) := by
        simp [Sending.move, hpinned]
      refine ComesBack.move _ .load hload ?_
      simp only [GRPCSender.sendNative, htarget]
      rcases g.stream host useTLS relayReqBz rpcType s with ⟨⟨call, e⟩ | resp, s'⟩
      · cases hclass : isNotHTTP2 (e.errorf (call.format url host)) with
        | true =>
          have hanswer : Sending.move c ⟨url, host, .native, false, false, [.native]⟩
              (.answer (.error (call, e))) =
                some (⟨c.webOnly, c.failures ++ [⟨url, host, call, e⟩]⟩,
                  ⟨url, host, .storing, false, false, [.native, .failed call e]⟩) := by
            simp [Sending.move, hclass]
          refine ComesBack.move _ _ hanswer (ComesBack.move _ .store rfl ?_)
          simp only [hclass, Bool.false_eq_true, if_false, if_true]
          exact ComesBack.move _ (.web (g.sendWeb url relayReqBz rpcType s').1) rfl
            ⟨[], _, _, rfl, rfl, rfl⟩
        | false =>
          have hanswer : Sending.move c ⟨url, host, .native, false, false, [.native]⟩
              (.answer (.error (call, e))) =
                some (⟨c.webOnly, c.failures ++ [⟨url, host, call, e⟩]⟩,
                  ⟨url, host, .returned (.error (e.errorf (call.format url host)).err), false, false,
                    [.native, .failed call e]⟩) := by
            simp [Sending.move, hclass]
          refine ComesBack.move _ _ hanswer ⟨[], _, _, rfl, ?_, ?_⟩ <;>
            simp only [hclass, Bool.false_eq_true, if_false]
      · exact ComesBack.move _ (.answer (.ok resp)) rfl ⟨[], _, _, rfl, rfl, rfl⟩

end Alone

end PocketAp.Pocket
