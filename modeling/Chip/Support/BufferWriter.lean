import Chip.Data.LittleEndian

/-! The writer of `BufferWriter.cpp`, which counts what is put when the buffer is full, too. -/
namespace Chip

open List

structure BufferWriter where
  mBuf : List UInt8
  mNeeded : Nat

namespace BufferWriter

def init (buf : List UInt8) : BufferWriter := ⟨buf, 0⟩

/-- `Fit`: everything that was put is in the buffer. -/
def fit (w : BufferWriter) : Bool := w.mNeeded ≤ w.mBuf.length

/-- `Put` of a byte. -/
def putByte (w : BufferWriter) (c : UInt8) : BufferWriter :=
  ⟨if w.mNeeded < w.mBuf.length then w.mBuf.set w.mNeeded c else w.mBuf, w.mNeeded + 1⟩

/-- `Put` of a block, of which the part that fits is copied. -/
def put (w : BufferWriter) (bytes : List UInt8) : BufferWriter :=
  let available := w.mBuf.length - w.mNeeded
  ⟨if 0 < available then
      w.mBuf.take w.mNeeded ++ (bytes.take available ++ w.mBuf.drop (w.mNeeded + bytes.length))
    else w.mBuf, w.mNeeded + bytes.length⟩

/-- `EndianPut` of the low `size` bytes. -/
def endianPut (w : BufferWriter) (x : Nat) : (size : Nat) → BufferWriter
  | 0 => w
  | size + 1 => endianPut (w.putByte (UInt8.ofNat x)) (x / 256) size

/-- `EndianPut` of the big-endian writer. -/
def bigEndianPut (w : BufferWriter) (x : Nat) : (size : Nat) → BufferWriter
  | 0 => w
  | size + 1 => bigEndianPut (w.putByte (UInt8.ofNat (x / 256 ^ size))) x size

def bigEndian (x : Nat) : (size : Nat) → List UInt8
  | 0 => []
  | size + 1 => UInt8.ofNat (x / 256 ^ size) :: bigEndian x size

/-- The bytes were put into this buffer. What did not fit is counted only. -/
structure Holds (w : BufferWriter) (buf bytes : List UInt8) : Prop where
  needed : w.mNeeded = bytes.length
  content : w.mBuf = (bytes ++ buf.drop bytes.length).take buf.length

variable {w : BufferWriter} {buf bytes : List UInt8}

theorem holds_init (buf : List UInt8) : (init buf).Holds buf [] where
  needed := rfl
  content := by simp [init]

theorem Holds.length_eq (h : w.Holds buf bytes) : w.mBuf.length = buf.length := by
  rw [h.content, length_take, length_append, length_drop]
  omega

theorem take_of_full (hFull : buf.length ≤ bytes.length) (rest : List UInt8) :
  (bytes ++ rest).take buf.length = bytes.take buf.length :=
  take_append_of_le_length hFull

section

variable (h : w.Holds buf bytes)
include h

theorem Holds.put (block : List UInt8) :
  (w.put block).Holds buf (bytes ++ block) where
  needed := by rw [BufferWriter.put, h.needed, length_append]
  content := by
    have hLength := h.length_eq
    simp only [BufferWriter.put, hLength, h.needed]
    by_cases hRoom : bytes.length < buf.length
    · have hTake : (((bytes ++ buf.drop bytes.length).take buf.length).take bytes.length) = bytes := by
        rw [take_take, Nat.min_eq_left (Nat.le_of_lt hRoom), take_left]
      have hDrop : ((bytes ++ buf.drop bytes.length).take buf.length).drop
          (bytes.length + block.length) = buf.drop (bytes.length + block.length) := by
        rw [take_of_length_le (by simp; omega), ← drop_drop, drop_left,
          drop_drop]
      rw [if_pos (by omega), h.content, hTake, hDrop, append_assoc, take_append,
        take_of_length_le (Nat.le_of_lt hRoom), take_append, length_append]
      congr 2
      rw [take_of_length_le]
      rw [length_drop]
      omega
    · have hFull : buf.length ≤ bytes.length := Nat.le_of_not_lt hRoom
      rw [if_neg (by omega), h.content, take_of_full hFull, append_assoc, take_of_full hFull]

theorem Holds.putByte (c : UInt8) :
  (w.putByte c).Holds buf (bytes ++ [c]) where
  needed := by rw [BufferWriter.putByte, h.needed, length_append, length_singleton]
  content := by
    have hLength := h.length_eq
    simp only [BufferWriter.putByte, hLength, h.needed]
    by_cases hRoom : bytes.length < buf.length
    · have hLeft : bytes.length + (buf.length - bytes.length) ≤ buf.length := by omega
      have hRight : (bytes ++ [c] ++ buf.drop (bytes ++ [c]).length).length ≤ buf.length := by
        simp only [length_append, length_drop, length_singleton]
        omega
      rw [if_pos hRoom, h.content, take_of_length_le (by simpa using hLeft),
        take_of_length_le hRight, set_append_right _ _ (Nat.le_refl _), Nat.sub_self,
        drop_eq_getElem_cons hRoom, set_cons_zero, append_assoc, length_append,
        length_singleton, singleton_append]
    · have hFull : buf.length ≤ bytes.length := Nat.le_of_not_lt hRoom
      rw [if_neg hRoom, h.content, take_of_full hFull, append_assoc, take_of_full hFull]

theorem Holds.endianPut (x size : Nat) :
  (w.endianPut x size).Holds buf (bytes ++ LittleEndian.encode size x) := by
  induction size generalizing w bytes x with
  | zero =>
    rw [LittleEndian.encode, append_nil]
    exact h
  | succ size ih =>
    have hRest := ih (h.putByte (UInt8.ofNat x)) (x / 256)
    rw [append_assoc, singleton_append] at hRest
    exact hRest

theorem Holds.bigEndianPut (x size : Nat) :
  (w.bigEndianPut x size).Holds buf (bytes ++ bigEndian x size) := by
  induction size generalizing w bytes with
  | zero =>
    rw [bigEndian, append_nil]
    exact h
  | succ size ih =>
    have hRest := ih (h.putByte (UInt8.ofNat (x / 256 ^ size)))
    rw [append_assoc, singleton_append] at hRest
    exact hRest

end

theorem holds_self (w : BufferWriter) :
  w.Holds w.mBuf (w.mBuf.take w.mNeeded ++ replicate (w.mNeeded - w.mBuf.length) 0) where
  needed := by
    simp only [length_append, length_take, length_replicate]
    omega
  content := by
    by_cases hFull : w.mBuf.length ≤ w.mNeeded
    · rw [take_of_length_le hFull, append_assoc, take_left]
    · have hNone : w.mNeeded - w.mBuf.length = 0 := by omega
      rw [hNone, replicate_zero, append_nil, length_take,
        Nat.min_eq_left (by omega), take_append_drop, take_length]

theorem Holds.take_eq (h : w.Holds buf bytes) : w.mBuf.take w.mNeeded = bytes.take buf.length := by
  rw [h.content, h.needed, take_take]
  by_cases hFit : bytes.length ≤ buf.length
  · rw [Nat.min_eq_left hFit, take_left, take_of_length_le hFit]
  · rw [Nat.min_eq_right (by omega), take_of_full (by omega)]

theorem Holds.take_needed (h : w.Holds buf bytes) (hFit : bytes.length ≤ buf.length) :
  w.fit = true ∧ w.mBuf.take w.mNeeded = bytes := by
  constructor
  · rw [fit, h.needed, h.length_eq]
    exact decide_eq_true hFit
  · rw [h.content, h.needed, take_take, Nat.min_eq_left hFit, take_left]

end BufferWriter
end Chip
