import Chip.Data.LittleEndian

/-! Packet buffers (`SystemPacketBuffer.cpp`): a block of memory with a window on it, which holds
the data. What lies before the window is reserved for headers. -/
namespace Chip.System

open List

structure PacketBuffer where
  memory : List UInt8
  payload : Nat
  len : Nat
  fits : payload + len ≤ memory.length

namespace PacketBuffer

variable (buf : PacketBuffer)

def data : List UInt8 := (buf.memory.drop buf.payload).take buf.len

theorem length_data : buf.data.length = buf.len := by
  have hFits := buf.fits
  simp only [data, length_take, length_drop]
  omega

/-- `SetStart`: the window begins at an offset from the begin of the memory, and ends where it
ended if it can. -/
def setStart (start : Nat) : PacketBuffer where
  memory := buf.memory
  payload := min start buf.memory.length
  len := buf.payload + buf.len - min start buf.memory.length
  fits := by
    have hFits := buf.fits
    omega

def setDataLength (len : Nat) : PacketBuffer where
  memory := buf.memory
  payload := buf.payload
  len := min len (buf.memory.length - buf.payload)
  fits := by
    have hFits := buf.fits
    omega

def write (index : Nat) (byte : UInt8) : PacketBuffer where
  memory := buf.memory.set (buf.payload + index) byte
  payload := buf.payload
  len := buf.len
  fits := by
    rw [List.length_set]
    exact buf.fits

/-- `EnsureReservedSize`: the data is moved when there is too little room before it. -/
def ensureReservedSize (reserved : Nat) : Option PacketBuffer :=
  if reserved ≤ buf.payload then some buf
  else if h : reserved + buf.len ≤ buf.memory.length then
    some {
      memory := buf.memory.take reserved ++ buf.data ++ buf.memory.drop (reserved + buf.len)
      payload := reserved
      len := buf.len
      fits := by
        simp only [List.length_append, List.length_take, List.length_drop, length_data]
        omega }
  else none

theorem ensureReservedSize_spec (reserved : Nat)
  (hRoom : reserved ≤ buf.payload ∨ reserved + buf.len ≤ buf.memory.length) :
  ∃ moved, buf.ensureReservedSize reserved = some moved ∧ moved.data = buf.data ∧
    moved.len = buf.len ∧ reserved ≤ moved.payload := by
  unfold ensureReservedSize
  split
  · rename_i hEnough
    exact ⟨buf, rfl, rfl, rfl, hEnough⟩
  · rename_i hLittle
    have hFits : reserved + buf.len ≤ buf.memory.length := hRoom.resolve_left hLittle
    rw [dif_pos hFits]
    refine ⟨_, rfl, ?_, rfl, Nat.le_refl _⟩
    have hBefore : (buf.memory.take reserved).length = reserved := by
      rw [length_take]
      omega
    simp only [data, append_assoc]
    rw [drop_append_of_le_length (by omega), drop_of_length_le (by omega),
      nil_append]
    exact take_left' (length_data buf)

theorem ensureReservedSize_room {reserved : Nat} {moved : PacketBuffer}
  (hMoved : buf.ensureReservedSize reserved = some moved) :
  reserved ≤ buf.payload ∨ reserved + buf.len ≤ buf.memory.length := by
  unfold ensureReservedSize at hMoved
  split at hMoved
  · rename_i hEnough
    exact .inl hEnough
  · split at hMoved
    · rename_i hFits
      exact .inr hFits
    · cases hMoved

end PacketBuffer

end Chip.System
