import Chip.Core.Error
import Chip.Data.LittleEndian
import Chip.Data.Ring

/-! The circular buffer for byte sequences. Every sequence stands in the storage behind its
length, and a new one drives out the oldest ones. A call has no value where an assertion of
the buffer fails. -/
namespace Chip

/-- `sizeof(SizeType)`, the bytes of a length field. -/
def sizeOfSizeType : Nat := 2

/-- `std::numeric_limits<SizeType>::max()` -/
def maxSizeType : Nat := 65535

structure BytesCircularBuffer where
  mStorage : List UInt8
  mDataStart : Nat
  mDataEnd : Nat
  capacity : sizeOfSizeType + 1 < mStorage.length
  dataStart : mDataStart < mStorage.length
  dataEnd : mDataEnd < mStorage.length

namespace BytesCircularBuffer

def make (storage : List UInt8) : Option BytesCircularBuffer :=
  if h : sizeOfSizeType + 1 < storage.length then
    some ⟨storage, 0, 0, h, Nat.zero_lt_of_lt h, Nat.zero_lt_of_lt h⟩
  else none

variable (buffer : BytesCircularBuffer)

def mCapacity : Nat := buffer.mStorage.length

def advance (dataLocation amount : Nat) : Nat :=
  let dataLocation := dataLocation + amount
  if dataLocation ≥ buffer.mCapacity then dataLocation - buffer.mCapacity else dataLocation

def storageUsed : Nat :=
  if buffer.mDataStart ≤ buffer.mDataEnd then buffer.mDataEnd - buffer.mDataStart
  else buffer.mCapacity + buffer.mDataEnd - buffer.mDataStart

def storageAvailable : Nat := buffer.mCapacity - buffer.storageUsed

def isEmpty : Bool := buffer.storageUsed = 0

def read (length offset : Nat) : Option (List UInt8) :=
  if buffer.storageUsed ≥ offset + length then
    let start := buffer.advance buffer.mDataStart offset
    let firstPiece := min (buffer.mCapacity - start) length
    let secondPiece := length - firstPiece
    some ((buffer.mStorage.drop start).take firstPiece ++ buffer.mStorage.take secondPiece)
  else none

theorem advance_eq (dataLocation amount : Nat) : buffer.advance dataLocation amount =
  Ring.advance buffer.mStorage.length dataLocation amount := rfl

theorem storageUsed_lt : buffer.storageUsed < buffer.mStorage.length :=
  Ring.distance_lt buffer.dataStart buffer.dataEnd

def write (source : List UInt8) : Option BytesCircularBuffer :=
  -- some place is always unused, so that the subtraction does not wrap
  if h : buffer.storageAvailable - 1 ≥ source.length then
    let firstPiece := min (buffer.mCapacity - buffer.mDataEnd) source.length
    have hSource : source.length < buffer.mStorage.length := by
      have hUsed := buffer.storageUsed_lt
      unfold storageAvailable mCapacity at h
      omega
    have hLength : (Ring.store buffer.mStorage buffer.mDataEnd source).length =
        buffer.mStorage.length := Ring.length_store source buffer.dataEnd (Nat.le_of_lt hSource)
    some {
      mStorage := overwrite
        (overwrite buffer.mStorage buffer.mDataEnd (source.take firstPiece)) 0 (source.drop firstPiece)
      mDataStart := buffer.mDataStart
      mDataEnd := buffer.advance buffer.mDataEnd source.length
      capacity := Nat.lt_of_lt_of_eq buffer.capacity hLength.symm
      dataStart := Nat.lt_of_lt_of_eq buffer.dataStart hLength.symm
      dataEnd := Nat.lt_of_lt_of_eq (Ring.advance_lt buffer.dataEnd (Nat.le_of_lt hSource)) hLength.symm }
  else none

def drop (length : Nat) : Option BytesCircularBuffer :=
  if h : buffer.storageUsed ≥ length then
    have hLength : length ≤ buffer.mStorage.length :=
      Nat.le_of_lt (Nat.lt_of_le_of_lt h buffer.storageUsed_lt)
    some { buffer with
      mDataStart := buffer.advance buffer.mDataStart length
      dataStart := Ring.advance_lt buffer.dataStart hLength }
  else none

def getFrontSize : Option Nat :=
  if buffer.isEmpty then some 0
  else (buffer.read sizeOfSizeType 0).map LittleEndian.value

def pop : Option (Except ChipError Unit × BytesCircularBuffer) :=
  if buffer.isEmpty then some (.error .incorrectState, buffer)
  else do
    let length ← buffer.getFrontSize
    let buffer ← buffer.drop sizeOfSizeType
    let buffer ← buffer.drop length
    some (.ok (), buffer)

/-- The front sequence in the front part of `dest`, which becomes the whole of `dest`. -/
def readFront (dest : List UInt8) : Option (Except ChipError Unit × List UInt8) :=
  if buffer.isEmpty then some (.error .incorrectState, dest)
  else do
    let length ← buffer.getFrontSize
    if dest.length < length then some (.error .invalidArgument, dest)
    else do
      let front ← buffer.read length sizeOfSizeType
      some (.ok (), front)

variable {buffer} {buffer' : BytesCircularBuffer} {length : Nat}

theorem drop_eq_some (h : buffer.drop length = some buffer') :
  length ≤ buffer.storageUsed ∧ buffer'.mStorage = buffer.mStorage ∧
    buffer'.mDataStart = buffer.advance buffer.mDataStart length ∧
    buffer'.storageUsed = buffer.storageUsed - length := by
  unfold drop at h
  split at h
  · next hUsed =>
      obtain rfl := Option.some.inj h
      exact ⟨hUsed, rfl, rfl, Ring.distance_advance_left buffer.dataStart buffer.dataEnd hUsed⟩
  · cases h

theorem pop_storageUsed (h : buffer.pop = some (.ok (), buffer')) :
  buffer'.storageUsed < buffer.storageUsed := by
  unfold pop at h
  split at h
  · cases h
  · next hEmpty =>
      simp only [Option.bind_eq_bind, Option.bind_eq_some_iff] at h
      obtain ⟨length, -, middle, hSize, last, hEntry, hLast⟩ := h
      obtain ⟨hFirst, -, -, hMiddle⟩ := drop_eq_some hSize
      obtain ⟨-, -, -, hUsed⟩ := drop_eq_some hEntry
      cases hLast
      unfold sizeOfSizeType at hFirst hMiddle
      omega

def freeUp (buffer : BytesCircularBuffer) (storageNeed : Nat) : Option BytesCircularBuffer :=
  if storageNeed > buffer.storageAvailable then
    match _h : buffer.pop with
    | some (.ok (), next) => freeUp next storageNeed
    | _ => none
  else some buffer
termination_by buffer.storageUsed
decreasing_by exact pop_storageUsed ‹_›

/-- `Push` of a payload of that many bytes in pieces. -/
def pushPieces (buffer : BytesCircularBuffer) (length : Nat) (pieces : List (List UInt8)) :
  Option (Except ChipError Unit × BytesCircularBuffer) :=
  if length > maxSizeType then some (.error .invalidArgument, buffer)
  else
    let storageNeed := length + sizeOfSizeType + 1
    if storageNeed > buffer.mCapacity then some (.error .invalidArgument, buffer)
    else do
      let buffer ← buffer.freeUp storageNeed
      let buffer ← buffer.write (LittleEndian.encode sizeOfSizeType length)
      let buffer ← pieces.foldlM write buffer
      some (.ok (), buffer)

/-- `Push(payload)` -/
def push (buffer : BytesCircularBuffer) (payload : List UInt8) :
  Option (Except ChipError Unit × BytesCircularBuffer) :=
  buffer.pushPieces payload.length [payload]

/-- `Push(payload1, payload2)` -/
def pushBoth (buffer : BytesCircularBuffer) (payload1 payload2 : List UInt8) :
  Option (Except ChipError Unit × BytesCircularBuffer) :=
  buffer.pushPieces (payload1.length + payload2.length) [payload1, payload2]

end BytesCircularBuffer

end Chip
