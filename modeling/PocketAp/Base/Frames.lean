import Mathlib.Algebra.Group.Nat.Defs
import Mathlib.Data.List.Basic

/-!
# Length-prefixed frames

Library `Base`. A frame is a flag byte, the length of its payload as a big-endian 32-bit
number, and the payload. Every byte string is frames and a rest, and the rest is empty or cut
off inside a frame.
-/

namespace PocketAp.Base

/-! ### Big-endian numbers -/

/-- `binary.BigEndian.PutUint32`; higher bits are dropped. -/
def putUint32 (n : Nat) : List UInt8 :=
  [UInt8.ofNat (n / 2 ^ 24), UInt8.ofNat (n / 2 ^ 16), UInt8.ofNat (n / 2 ^ 8), UInt8.ofNat n]

/-- `binary.BigEndian.Uint32` of four bytes. -/
def uint32 (bs : List UInt8) : Nat := bs.foldl (fun n b ↦ 256 * n + b.toNat) 0

/-- What is written is read back. -/
theorem uint32_putUint32 {n : Nat} (h : n < 2 ^ 32) : uint32 (putUint32 n) = n := by
  simp only [uint32, putUint32, List.foldl_cons, List.foldl_nil, UInt8.toNat_ofNat']
  omega

private theorem uint32_lt {bs : List UInt8} (h : bs.length = 4) : uint32 bs < 2 ^ 32 := by
  match bs, h with
  | [a, b, c, d], _ =>
    have ha := a.toNat_lt
    have hb := b.toNat_lt
    have hc := c.toNat_lt
    have hd := d.toNat_lt
    simp only [uint32, List.foldl_cons, List.foldl_nil]
    omega

private theorem putUint32_uint32 {bs : List UInt8} (h : bs.length = 4) :
    putUint32 (uint32 bs) = bs := by
  match bs, h with
  | [a, b, c, d], _ =>
    have ha := a.toNat_lt
    have hb := b.toNat_lt
    have hc := c.toNat_lt
    have hd := d.toNat_lt
    simp only [uint32, putUint32, List.foldl_cons, List.foldl_nil, List.cons.injEq, and_true]
    refine ⟨?_, ?_, ?_, ?_⟩ <;>
    · rw [← UInt8.toNat_inj, UInt8.toNat_ofNat']
      omega

@[simp]
private theorem length_putUint32 (n : Nat) : (putUint32 n).length = 4 := rfl

/-! ### Frames -/

/-- Flag and payload. -/
structure FlaggedFrame where
  flag : UInt8
  payload : List UInt8
  deriving DecidableEq, Repr

namespace FlaggedFrame

/-- The length fits its field. -/
def Fits (f : FlaggedFrame) : Prop := f.payload.length < 2 ^ 32

/-- The flag, the length and the payload. -/
def encode (f : FlaggedFrame) : List UInt8 := f.flag :: putUint32 f.payload.length ++ f.payload

/-- A frame takes five bytes more than its payload. -/
theorem length_encode (f : FlaggedFrame) : f.encode.length = 5 + f.payload.length := by
  simp [encode]
  omega

end FlaggedFrame

/-- Frames one after the other. -/
def encodeFrames (fs : List FlaggedFrame) : List UInt8 := fs.flatMap FlaggedFrame.encode

/-- Frames are written one after the other. -/
theorem encodeFrames_cons (f : FlaggedFrame) (fs : List FlaggedFrame) :
    encodeFrames (f :: fs) = f.encode ++ encodeFrames fs := List.flatMap_cons

/-- A text that is cut off inside a frame: its header is not there, or claims more bytes than
there are. -/
def CutOff (tail : List UInt8) : Prop :=
  tail ≠ [] ∧ tail.length < 5 + uint32 ((tail.drop 1).take 4)

/-- A text that starts with a whole frame. -/
private theorem exists_frame {bs : List UInt8} (hne : bs ≠ []) (h : ¬ CutOff bs) :
    ∃ (f : FlaggedFrame) (rest : List UInt8), f.Fits ∧ bs = f.encode ++ rest := by
  have hlen : 5 + uint32 ((bs.drop 1).take 4) ≤ bs.length := by
    by_contra hlt
    exact h ⟨hne, by omega⟩
  match bs with
  | [] => exact absurd rfl hne
  | [_] | [_, _] | [_, _, _] | [_, _, _, _] =>
    simp only [List.length_cons, List.length_nil] at hlen
    omega
  | flag :: b₁ :: b₂ :: b₃ :: b₄ :: rest =>
    have hsize : uint32 [b₁, b₂, b₃, b₄] ≤ rest.length := by
      simp only [List.drop_succ_cons, List.drop_zero, List.take_succ_cons, List.take_zero,
        List.length_cons] at hlen
      omega
    refine ⟨⟨flag, rest.take (uint32 [b₁, b₂, b₃, b₄])⟩, rest.drop (uint32 [b₁, b₂, b₃, b₄]), ?_, ?_⟩
    · have hlt := @uint32_lt [b₁, b₂, b₃, b₄] rfl
      simp only [FlaggedFrame.Fits, List.length_take]
      omega
    · simp only [FlaggedFrame.encode, List.length_take, Nat.min_eq_left hsize]
      rw [putUint32_uint32 rfl]
      simp

/-- Frames as far as there are whole ones. -/
theorem exists_frames (bs : List UInt8) : ∃ fs tail, (∀ f ∈ fs, FlaggedFrame.Fits f) ∧
    bs = encodeFrames fs ++ tail ∧ (tail = [] ∨ CutOff tail) := by
  by_cases hne : bs = []
  · exact ⟨[], [], by simp, by simp [hne, encodeFrames], .inl rfl⟩
  · by_cases hcut : CutOff bs
    · exact ⟨[], bs, by simp, by simp [encodeFrames], .inr hcut⟩
    · obtain ⟨f, rest, hf, hbs⟩ := exists_frame hne hcut
      have hlt : rest.length < bs.length := by
        rw [hbs, List.length_append, f.length_encode]
        omega
      obtain ⟨fs, tail, hfs, hrest, htail⟩ := exists_frames rest
      refine ⟨f :: fs, tail, ?_, ?_, htail⟩
      · simpa using ⟨hf, hfs⟩
      · rw [hbs, hrest, encodeFrames_cons, List.append_assoc]
termination_by bs.length

/-- A proper part of a frame is cut off. -/
theorem cutOff_take {f : FlaggedFrame} (hf : f.Fits) {n : Nat} (hpos : 0 < n)
    (hn : n < f.encode.length) : CutOff (f.encode.take n) := by
  rw [f.length_encode] at hn
  have hlen : (f.encode.take n).length = n := by
    rw [List.length_take, f.length_encode]
    omega
  refine ⟨fun h ↦ ?_, ?_⟩
  · rw [h] at hlen
    exact absurd hlen (by simp; omega)
  · rw [hlen]
    by_cases hshort : n < 5
    · omega
    · have hfield : ((f.encode.take n).drop 1).take 4 = putUint32 f.payload.length := by
        rw [List.drop_take, List.take_take, Nat.min_eq_left (by omega)]
        rfl
      rw [hfield, uint32_putUint32 hf]
      exact hn

end PocketAp.Base
