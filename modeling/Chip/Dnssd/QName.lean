import Mathlib
import Chip.Data.Looping

/-! The names of DNS messages (`QName.cpp`). The labels of a serialized name are read by an iterator,
which goes on at an earlier place of the message where the name has a pointer. -/
namespace Chip.Dnssd

abbrev Bytes := List UInt8

inductive Fault where
  | assertionFailed
  | outOfRange

/-- A range of memory. Positions count from its start, and only the bytes of `memory` are there
to be read. -/
structure BytesRange where
  memory : Bytes
  size : Nat

namespace BytesRange

/-- `BufferWithSize` for bytes that are all there. -/
def ofBytes (bytes : Bytes) : BytesRange := ⟨bytes, bytes.length⟩

def contains (r : BytesRange) (p : Nat) : Bool := p < r.size

def read (r : BytesRange) (p : Nat) : Looping Fault UInt8 :=
  match r.memory[p]? with
  | some byte => pure byte
  | none => .fail .outOfRange

/-- `memcpy` out of the range. -/
def readBlock (r : BytesRange) (p length : Nat) : Looping Fault Bytes :=
  if p + length ≤ r.memory.length then pure ((r.memory.drop p).take length) else .fail .outOfRange

def bytes (r : BytesRange) : Bytes := r.memory.take r.size

end BytesRange

structure QNamePart where
  chars : Bytes
  noNul : 0 ∉ chars

namespace QNamePart

def strlen (part : QNamePart) : Nat := part.chars.length

/-- The string at the start of a buffer that has a NUL after these bytes. -/
def ofBuffer (buffer : Bytes) : QNamePart where
  chars := buffer.takeWhile (· ≠ 0)
  noNul h := by simpa using List.mem_takeWhile_imp h

end QNamePart

def tolower (c : UInt8) : UInt8 := if 0x41 ≤ c && c ≤ 0x5A then c + 0x20 else c

/-- `strcasecmp` finds no difference. -/
def strcasecmp (a b : QNamePart) : Bool := a.chars.map tolower == b.chars.map tolower

abbrev FullQName := List QNamePart

def kMaxValueSize : Nat := 63

def kPtrMask : UInt8 := 0xC0

structure SerializedQNameIterator where
  mValidData : BytesRange
  /-- Avoids loops by limiting lookbehind. -/
  mLookBehindMax : Nat
  mCurrentPosition : Nat
  mIsValid : Bool
  /-- The bytes before the NUL that the last label got. -/
  mValue : Bytes

namespace SerializedQNameIterator

def init (validData : BytesRange) (position : Nat) : SerializedQNameIterator :=
  ⟨validData, position, position, true, []⟩

def nowhere : SerializedQNameIterator := ⟨⟨[], 0⟩, 0, 0, false, []⟩

def value (it : SerializedQNameIterator) : QNamePart := .ofBuffer it.mValue

def invalid (it : SerializedQNameIterator) : SerializedQNameIterator := { it with mIsValid := false }

/-- One turn of the loop of `Next(bool)`: a pointer that is followed leads to another turn. -/
def nextTurn (followIndirectPointers : Bool) (it : SerializedQNameIterator) :
  Looping Fault (SerializedQNameIterator ⊕ (Bool × SerializedQNameIterator)) :=
  if !it.mValidData.contains it.mCurrentPosition then .fail .assertionFailed
  else do
    let length ← it.mValidData.read it.mCurrentPosition
    -- Done with all items
    if length = 0 then pure (.inr (false, it))
    else if length &&& kPtrMask = kPtrMask then
      if !followIndirectPointers then pure (.inr (false, it))
      else if !it.mValidData.contains (it.mCurrentPosition + 1) then pure (.inr (false, it.invalid))
      else do
        let low ← it.mValidData.read (it.mCurrentPosition + 1)
        let offset := (length &&& 0x3F).toNat * 256 + low.toNat
        if it.mLookBehindMax < offset then pure (.inr (false, it.invalid))
        else if it.mValidData.size < offset then pure (.inr (false, it.invalid))
        -- Look behind has to keep going backwards
        else if it.mCurrentPosition ≤ offset then pure (.inr (false, it.invalid))
        else pure (.inl { it with mLookBehindMax := offset, mCurrentPosition := offset })
    else if kMaxValueSize < length.toNat then pure (.inr (false, it.invalid))
    else if !it.mValidData.contains (it.mCurrentPosition + 1 + length.toNat) then
      pure (.inr (false, it.invalid))
    else do
      let value ← it.mValidData.readBlock (it.mCurrentPosition + 1) length.toNat
      pure (.inr (true, { it with
        mValue := value
        mCurrentPosition := it.mCurrentPosition + length.toNat + 1 }))

/-- `Next(bool)`. -/
def nextItem (followIndirectPointers : Bool) (it : SerializedQNameIterator) :
  Looping Fault (Bool × SerializedQNameIterator) :=
  if !it.mIsValid then pure (false, it) else Looping.loop (nextTurn followIndirectPointers) it

/-- `Next`, with the iterator after it. -/
def next (it : SerializedQNameIterator) : Looping Fault (Bool × SerializedQNameIterator) :=
  if it.mIsValid then nextItem true it else pure (false, it)

/-- The loop `while (it.Next())`, with what the body does with each label. -/
def whileNext {α : Type} (body : α → QNamePart → α) (it : SerializedQNameIterator) (a : α) :
  Looping Fault (SerializedQNameIterator × α) :=
  Looping.loop (fun s => do
    let (has, it) ← next s.1
    pure (if has then .inl (it, body s.2 it.value) else .inr (it, s.2))) (it, a)

/-- The labels of the name, and whether it ends as it should. -/
def labels (it : SerializedQNameIterator) : Looping Fault (FullQName × Bool) := do
  let (it, parts) ← whileNext (fun parts part => parts ++ [part]) it []
  pure (parts, it.mIsValid)

/-- `FindDataEnd`, or nothing for `nullptr`. -/
def findDataEnd (it : SerializedQNameIterator) : Looping Fault (Option Nat) := do
  let it ← Looping.loop (fun it => do
    let (has, it) ← nextItem false it
    pure (if has then .inl it else .inr it)) it
  if !it.mIsValid then pure none
  else do
    let byte ← it.mValidData.read it.mCurrentPosition
    if byte = 0 then pure (some (it.mCurrentPosition + 1))
    else if byte &&& kPtrMask = kPtrMask then
      if !it.mValidData.contains (it.mCurrentPosition + 1) then pure none
      else pure (some (it.mCurrentPosition + 2))
    else pure none

def equalsFull : SerializedQNameIterator → FullQName → Looping Fault Bool
  | self, [] => do
      let (has, _) ← next self
      pure (!has)
  | self, name :: names => do
      let (has, self) ← next self
      if !has then pure false
      else if !strcasecmp self.value name then pure false
      else equalsFull self names

def equalsTurn (s : SerializedQNameIterator × SerializedQNameIterator) :
  Looping Fault ((SerializedQNameIterator × SerializedQNameIterator) ⊕ Bool) := do
  let (hasA, a) ← next s.1
  let (hasB, b) ← next s.2
  pure (
    -- one is longer than the other
    if hasA ^^ hasB then .inr false
    else if !a.mIsValid || !b.mIsValid then .inr false
    else if !hasA || !hasB then .inr (a.mIsValid && b.mIsValid)
    else if !strcasecmp a.value b.value then .inr false
    else .inl (a, b))

def equals (self other : SerializedQNameIterator) : Looping Fault Bool :=
  Looping.loop equalsTurn (self, other)

end SerializedQNameIterator
end Chip.Dnssd
