import PocketAp.Base.Delimited

/-!
# Readers and the token scanner

Library `Base`. A body is the script of what successive `Read` calls on it return.
`Scanner` follows Go's `bufio.Scanner` when the buffer handed to it already has the
maximum token size, so it never grows: look for a token in the bytes held, otherwise
compact the buffer and read, and fail once the buffer is full.
-/

namespace PocketAp.Base

/-- How a body stops yielding bytes. -/
inductive ReadEnd (ε : Type) where
  | eof
  | failed (e : ε)
  deriving DecidableEq, Repr

/-- Results of successive `Read` calls; `final` returns its bytes together with the end. -/
inductive Body (α ε : Type) where
  | final (bytes : List α) (stop : ReadEnd ε)
  | more (bytes : List α) (rest : Body α ε)
  deriving DecidableEq, Repr

/-- What one `Read` returned. -/
structure Chunk (α ε : Type) where
  bytes : List α
  stop : Option (ReadEnd ε)
  deriving DecidableEq, Repr

namespace Body

variable {α ε : Type}

/-- Every byte the body holds. -/
def bytes : Body α ε → List α
  | final bs _ => bs
  | more bs rest => bs ++ rest.bytes

/-- How the body ends. -/
def stop : Body α ε → ReadEnd ε
  | final _ e => e
  | more _ rest => rest.stop

/-- Bytes and calls left; the termination measure of reading. -/
def weight : Body α ε → Nat
  | final bs _ => bs.length
  | more bs rest => bs.length + 1 + rest.weight

/-- One `Read` into a buffer of `cap` bytes. What does not fit stays for the next call,
and an end is reported only once all bytes before it have been handed over. -/
def read (cap : Nat) : Body α ε → Chunk α ε × Body α ε
  | final bs e =>
    if bs.length ≤ cap then (⟨bs, some e⟩, final [] e)
    else (⟨bs.take cap, none⟩, final (bs.drop cap) e)
  | more bs rest =>
    if bs.length ≤ cap then (⟨bs, none⟩, rest)
    else (⟨bs.take cap, none⟩, more (bs.drop cap) rest)

/-- Read to the end, or to `limit` bytes, whichever comes first: `io.ReadAll` over an
`io.LimitReader`. The error is the body's own; reaching the limit is not one. -/
def readAllLimited : Nat → Body α ε → List (Chunk α ε) × List α × Option ε
  | 0, _ => ([], [], none)
  | limit + 1, final bs e =>
    if bs.length ≤ limit + 1 then
      ([⟨bs, some e⟩], bs, match e with | .eof => none | .failed err => some err)
    else ([⟨bs.take (limit + 1), none⟩], bs.take (limit + 1), none)
  | limit + 1, more bs rest =>
    if bs.length ≤ limit + 1 then
      let r := rest.readAllLimited (limit + 1 - bs.length)
      (⟨bs, none⟩ :: r.1, bs ++ r.2.1, r.2.2)
    else ([⟨bs.take (limit + 1), none⟩], bs.take (limit + 1), none)

/-- `io.ReadAll`: what each read returned, all bytes, and the error the body ended in. -/
def readAll : Body α ε → List (Chunk α ε) × List α × Option ε
  | final bs e => ([⟨bs, some e⟩], bs, match e with | .eof => none | .failed err => some err)
  | more bs rest => (⟨bs, none⟩ :: rest.readAll.1, bs ++ rest.readAll.2.1, rest.readAll.2.2)

/-- A body is read whole, and reports its own end. -/
theorem readAll_snd (body : Body α ε) :
    body.readAll.2 = (body.bytes, match body.stop with | .eof => none | .failed e => some e) := by
  induction body with
  | final bs e => rfl
  | more bs rest ih => simp only [readAll, ih, bytes, stop]

/-- A body that stays under the limit is read whole, and reports its own end. -/
theorem readAllLimited_of_lt {limit : Nat} {body : Body α ε} (h : body.bytes.length < limit) :
    (body.readAllLimited limit).2 =
      (body.bytes, match body.stop with | .eof => none | .failed e => some e) := by
  induction body generalizing limit with
  | final bs e =>
    cases limit with
    | zero => simp at h
    | succ limit =>
      simp only [bytes] at h
      simp only [readAllLimited, if_pos (Nat.le_of_lt h), bytes, stop]
  | more bs rest ih =>
    simp only [bytes, List.length_append] at h
    cases limit with
    | zero => omega
    | succ limit =>
      have hr : rest.bytes.length < limit + 1 - bs.length := by omega
      have hb : bs.length ≤ limit + 1 := by omega
      simp only [readAllLimited, if_pos hb, ih hr, bytes, stop]

end Body

/-- Why a scanner stopped: the body's own end, a full buffer, or a reader that keeps
returning nothing. -/
inductive ScanEnd (ε : Type) where
  | eof
  | failed (e : ε)
  | tooLong
  | noProgress
  deriving DecidableEq, Repr

/-- A body's end as the scanner records it. -/
def ScanEnd.ofRead {ε : Type} : ReadEnd ε → ScanEnd ε
  | .eof => .eof
  | .failed e => .failed e

/-- Empty reads tolerated in a row, `bufio.maxConsecutiveEmptyReads`. -/
def maxConsecutiveEmptyReads : Nat := 100

/-- A split function over captured variables `σ`. It never consumes more than it was
shown and every token it returns consumes something. -/
structure SplitFunc (σ α : Type) where
  run : σ → List α → Bool → σ × Nat × Option (List α)
  advance_le : ∀ v data atEOF, (run v data atEOF).2.1 ≤ data.length
  token_advance : ∀ v data atEOF t, (run v data atEOF).2.2 = some t →
    0 < (run v data atEOF).2.1

/-- Scanner state: offset and content of the unread part of the buffer, the recorded
end, the split function's captured variables and the body still to be read. -/
structure Scanner (σ α ε : Type) where
  start : Nat
  data : List α
  err : Option (ScanEnd ε)
  vars : σ
  body : Body α ε

/-- What one call of `Scan` does: the reads it makes, the token if there is one, and the
scanner afterwards. -/
structure Scanned (σ α ε : Type) where
  reads : List (Chunk α ε)
  token : Option (List α)
  next : Scanner σ α ε

namespace Scanner

variable {σ α ε : Type}

/-- The inner read loop: stop at data, at an end, or after too many empty reads. -/
def fill (cap : Nat) : Nat → Body α ε → List (Chunk α ε) × List α × Option (ScanEnd ε) × Body α ε
  | 0, .more [] rest => ([⟨[], none⟩], [], some .noProgress, rest)
  | budget + 1, .more [] rest =>
    let r := fill cap budget rest
    (⟨[], none⟩ :: r.1, r.2)
  | _, .more (b :: bs) rest =>
    let r := (Body.more (b :: bs) rest).read cap
    ([r.1], r.1.bytes, none, r.2)
  | _, .final bs e =>
    let r := (Body.final bs e).read cap
    ([r.1], r.1.bytes, r.1.stop.map ScanEnd.ofRead, r.2)

/-- The split function is consulted only when there is data or the input has ended. -/
def trySplit (sp : SplitFunc σ α) (s : Scanner σ α ε) : σ × Nat × Option (List α) :=
  if s.data ≠ [] ∨ s.err.isSome then sp.run s.vars s.data s.err.isSome else (s.vars, 0, none)

/-- Move the data to the front of the buffer when it touches the end or starts past the
middle. -/
def compact (bufLen : Nat) (s : Scanner σ α ε) : Scanner σ α ε :=
  if 0 < s.start ∧ (s.start + s.data.length = bufLen ∨ bufLen / 2 < s.start) then
    { s with start := 0 }
  else s

/-- Consume what the split function asked for. -/
def advance (sp : SplitFunc σ α) (s : Scanner σ α ε) : Scanner σ α ε :=
  { s with start := s.start + (s.trySplit sp).2.1, data := s.data.drop (s.trySplit sp).2.1,
           vars := (s.trySplit sp).1 }

/-- Append what a fill read. -/
def absorb (s : Scanner σ α ε) (bs : List α) (e : Option (ScanEnd ε)) (rest : Body α ε) :
    Scanner σ α ε :=
  { s with data := s.data ++ bs, err := e, body := rest }

/-- One more read is owed as long as no end was seen. -/
def owed : Option (ScanEnd ε) → Nat
  | none => 1
  | some _ => 0

/-- Reading left, and whether the end is still to be seen. -/
def pendingInput (s : Scanner σ α ε) : Nat := s.body.weight + owed s.err

/-- Reading takes off the body's weight. -/
theorem weight_fill_le (cap budget : Nat) (b : Body α ε) :
    (fill cap budget b).2.2.2.weight + (fill cap budget b).2.1.length ≤ b.weight := by
  induction b generalizing budget with
  | final bs e =>
    simp only [fill, Body.read]
    split <;> simp [Body.weight]
    omega
  | more bs rest ih =>
    cases bs with
    | nil =>
      cases budget with
      | zero => simp [fill, Body.weight]
      | succ budget =>
        have := ih budget
        simp only [fill, Body.weight, List.length_nil]
        omega
    | cons b bs =>
      simp only [fill, Body.read]
      split
      · simp only [Body.weight]; omega
      · simp only [Body.weight, List.length_take, List.length_drop]
        omega

/-- Filling a buffer with room left always brings the end of the input closer. -/
theorem weight_fill_lt (cap budget : Nat) (hc : 0 < cap) (b : Body α ε) :
    (fill cap budget b).2.2.2.weight + owed (fill cap budget b).2.2.1 < b.weight + 1 := by
  induction b generalizing budget with
  | final bs e =>
    simp only [fill, Body.read]
    split
    · simp [Body.weight, owed]
    · simp only [Body.weight, List.length_drop, Option.map_none, owed]
      omega
  | more bs rest ih =>
    cases bs with
    | nil =>
      cases budget with
      | zero => simp only [fill, Body.weight, owed]; omega
      | succ budget =>
        have := ih budget
        simp only [fill, Body.weight, List.length_nil]
        omega
    | cons b bs =>
      simp only [fill, Body.read]
      split
      · simp only [Body.weight, owed]; omega
      · simp only [Body.weight, List.length_drop, owed]
        omega

/-- One call of `Scan`. -/
def scan (sp : SplitFunc σ α) (bufLen : Nat) (s : Scanner σ α ε) : Scanned σ α ε :=
  match (s.trySplit sp).2.2 with
  | some token => ⟨[], some token, s.advance sp⟩
  | none =>
    match _he : s.err with
    | some _ => ⟨[], none, { s.advance sp with start := 0, data := [] }⟩
    | none =>
      let c := (s.advance sp).compact bufLen
      -- The data now starts the buffer if it touched its end, so a full buffer holds no token.
      if _hf : bufLen ≤ c.start + c.data.length then
        ⟨[], none, { c with err := some .tooLong }⟩
      else
        let f := fill (bufLen - (c.start + c.data.length)) maxConsecutiveEmptyReads c.body
        let r := scan sp bufLen (c.absorb f.2.1 f.2.2.1 f.2.2.2)
        { r with reads := f.1 ++ r.reads }
termination_by s.pendingInput
decreasing_by
  have hb : ((s.advance sp).compact bufLen).body = s.body := by
    unfold compact
    split <;> rfl
  have hw := weight_fill_lt (bufLen - (c.start + c.data.length)) maxConsecutiveEmptyReads
    (by omega) c.body
  have hp : s.pendingInput = c.body.weight + 1 := by
    rw [show c.body = s.body from hb, pendingInput, _he]; rfl
  rw [hp]
  exact hw

end Scanner
end PocketAp.Base
