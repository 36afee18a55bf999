import Chip.Core.Error
import Chip.Data.LittleEndian
import Chip.Data.Memory

/-! The operational dataset of a Thread network: elements of a type byte, a length byte and a value,
in a buffer of fixed size. A pointer to an element is its offset. -/
namespace Chip.Thread

/-- How a call goes wrong: an assertion fails, or an access leaves the element, the buffer of the
dataset or the buffer of the caller. -/
inductive Fault where
  | assertion
  | outside
  deriving DecidableEq

abbrev Checked := Except Fault

def asserts (p : Prop) [Decidable p] : Checked Unit := if p then .ok () else .error .assertion

def within (p : Prop) [Decidable p] : Checked Unit := if p then .ok () else .error .outside

def readByte (data : List UInt8) (offset : Nat) : Checked UInt8 :=
  match data[offset]? with
  | some byte => .ok byte
  | none => .error .outside

namespace ThreadTLV

def kLengthEscape : Nat := 0xff

/-- `sizeof(ThreadTLV)` -/
def headerSize : Nat := 2

def kChannel : UInt8 := 0
def kPanId : UInt8 := 1
def kExtendedPanId : UInt8 := 2
def kNetworkName : UInt8 := 3
def kPSKc : UInt8 := 4
def kMasterKey : UInt8 := 5
def kMeshLocalPrefix : UInt8 := 7
def kActiveTimestamp : UInt8 := 14

section Reading

variable (data : List UInt8) (tlv : Nat)

def getType : Checked UInt8 := readByte data tlv

def getLength : Checked Nat := do
  let mLength ← readByte data (tlv + 1)
  asserts (mLength.toNat ≠ kLengthEscape)
  pure mLength.toNat

def getSize : Checked Nat := do
  let length ← getLength data tlv
  pure ((headerSize + length) % 2 ^ 8)

def getValue : Checked Nat := do
  let mLength ← readByte data (tlv + 1)
  asserts (mLength.toNat ≠ kLengthEscape)
  pure (tlv + headerSize)

def getNext : Checked Nat := do
  let value ← getValue data tlv
  let length ← getLength data tlv
  pure (value + length)

/-- `count` bytes of the value, from an index on. A read that leaves the value is a fault, also
where the bytes behind it are those of the dataset. -/
def readValue (index count : Nat) : Checked (List UInt8) := do
  let value ← getValue data tlv
  let mLength ← readByte data (tlv + 1)
  within (index + count ≤ mLength.toNat ∧ value + index + count ≤ data.length)
  pure ((data.drop (value + index)).take count)

def get64 : Checked UInt64 := do
  let length ← getLength data tlv
  asserts (8 ≤ length)
  let p ← readValue data tlv 0 8
  pure (UInt64.ofNat ((p.getD 0 0).toNat <<< 56 ||| (p.getD 1 0).toNat <<< 48 ||| (p.getD 2 0).toNat <<< 40 |||
    (p.getD 3 0).toNat <<< 32 ||| (p.getD 4 0).toNat <<< 24 ||| (p.getD 5 0).toNat <<< 16 |||
    (p.getD 6 0).toNat <<< 8 ||| (p.getD 7 0).toNat))

def get16 : Checked UInt16 := do
  let length ← getLength data tlv
  asserts (2 ≤ length)
  let p ← readValue data tlv 0 2
  pure (UInt16.ofNat ((p.getD 0 0).toNat <<< 8 ||| (p.getD 1 0).toNat))

end Reading

def bytes64 (aValue : UInt64) : List UInt8 :=
  [56, 48, 40, 32, 24, 16, 8, 0].map fun shift => UInt8.ofNat (aValue.toNat >>> shift &&& 0xff)

def bytes16 (aValue : UInt16) : List UInt8 :=
  [UInt8.ofNat (aValue.toNat >>> 8), UInt8.ofNat (aValue.toNat &&& 0xff)]

def isValidLoop (data : List UInt8) (curr : Nat) : Checked Bool :=
  if curr + headerSize < data.length then do
    let length ← getLength data curr
    if length = kLengthEscape then pure (curr = data.length)
    else isValidLoop data (curr + headerSize + length)
  else pure (curr = data.length)
termination_by data.length - curr
decreasing_by
  simp only [headerSize] at *
  omega

def isValid (aData : List UInt8) : Checked Bool := isValidLoop aData 0

end ThreadTLV

def kSizeOperationalDataset : Nat := 254
def kSizeNetworkName : Nat := 16
def kSizeExtendedPanId : Nat := 8
def kSizeMasterKey : Nat := 16
def kSizeMeshLocalPrefix : Nat := 8
def kSizePSKc : Nat := 16

structure OperationalDataset where
  mData : List UInt8
  mLength : Nat
  hSize : mData.length = kSizeOperationalDataset

namespace OperationalDataset

open ThreadTLV

def store (s : OperationalDataset) (offset : Nat) (bytes : List UInt8) : Checked OperationalDataset :=
  if h : offset + bytes.length ≤ s.mData.length then
    .ok { s with mData := overwrite s.mData offset bytes, hSize := (length_overwrite h).trans s.hSize }
  else .error .outside

def init (s : OperationalDataset) (aData : List UInt8) :
  Checked (Except ChipError Unit × OperationalDataset) :=
  if aData.length > kSizeOperationalDataset then pure (.error .invalidArgument, s)
  else if aData.length > 0 then do
    let valid ← isValid aData
    if !valid then pure (.error .invalidArgument, s)
    else do
      let s ← s.store 0 aData
      pure (.ok (), { s with mLength := aData.length })
  else pure (.ok (), { s with mLength := aData.length })

def locateLoop (data : List UInt8) (aType : UInt8) (finish tlv : Nat) : Checked Nat :=
  if tlv < finish then do
    let type ← getType data tlv
    if type = aType then pure tlv
    else do
      let length ← getLength data tlv
      locateLoop data aType finish (tlv + headerSize + length)
  else pure tlv
termination_by finish - tlv
decreasing_by
  simp only [headerSize]
  omega

def locate (s : OperationalDataset) (aType : UInt8) : Checked (Option Nat) := do
  let tlv ← locateLoop s.mData aType s.mLength 0
  asserts (tlv < kSizeOperationalDataset)
  pure (if tlv ≠ s.mLength then some tlv else none)

/-- `Remove` of an element. -/
def removeAt (s : OperationalDataset) (aThreadTLV : Nat) : Checked OperationalDataset :=
  let offset := aThreadTLV % 2 ^ 8
  if offset < s.mLength then do
    let size ← getSize s.mData aThreadTLV
    if s.mLength ≥ offset + size then do
      let mLength := s.mLength - size
      let next ← getNext s.mData aThreadTLV
      within (next + (mLength - offset) ≤ s.mData.length)
      let s ← s.store aThreadTLV ((s.mData.drop next).take (mLength - offset))
      pure { s with mLength := mLength }
    else pure s
  else pure s

/-- `Remove` of a type. -/
def remove (s : OperationalDataset) (aType : UInt8) : Checked OperationalDataset := do
  let tlv ← s.locate aType
  match tlv with
  | some tlv => s.removeAt tlv
  | none => pure s

def openEnd (s : OperationalDataset) (aType : UInt8) : Checked (Option Nat × OperationalDataset) := do
  let s ← s.store s.mLength [aType]
  pure (some s.mLength, s)

def makeRoom (s : OperationalDataset) (aType : UInt8) (aSize : Nat) :
  Checked (Option Nat × OperationalDataset) := do
  let tlv ← s.locate aType
  let freeSpace := kSizeOperationalDataset - s.mLength
  match tlv with
  | some tlv => do
      let size ← getSize s.mData tlv
      if freeSpace + size < aSize then pure (none, s)
      else do
        let s ← s.removeAt tlv
        s.openEnd aType
  | none => if freeSpace < aSize then pure (none, s) else s.openEnd aType

section Writing

variable (s : OperationalDataset) (tlv : Nat)

/-- The assertion is about the length byte that is overwritten. -/
def setLength (aLength : Nat) : Checked OperationalDataset := do
  let mLength ← readByte s.mData (tlv + 1)
  asserts (mLength.toNat ≠ kLengthEscape)
  s.store (tlv + 1) [UInt8.ofNat aLength]

def setValue (aValue : List UInt8) : Checked OperationalDataset := do
  let s ← s.setLength tlv aValue.length
  let value ← getValue s.mData tlv
  s.store value aValue

/-- `Set64` and `Set16`: the address of the value is taken first. -/
def setNumber (bytes : List UInt8) : Checked OperationalDataset := do
  let value ← getValue s.mData tlv
  let s ← s.setLength tlv bytes.length
  s.store value bytes

end Writing

/-- A setter: room is made, the element is written, and the dataset ends behind it. Some setters
assert that this is still in the buffer. -/
def setElement (s : OperationalDataset) (aType : UInt8) (aSize : Nat)
  (write : OperationalDataset → Nat → Checked OperationalDataset) (asserted : Bool) :
  Checked (Except ChipError Unit × OperationalDataset) := do
  let (tlv, s) ← s.makeRoom aType aSize
  match tlv with
  | none => pure (.error .noMemory, s)
  | some tlv => do
      let s ← write s tlv
      let size ← getSize s.mData tlv
      asserts (asserted → s.mLength + size ≤ kSizeOperationalDataset)
      pure (.ok (), { s with mLength := (s.mLength + size) % 2 ^ 8 })

def getElement {α : Type} (s : OperationalDataset) (aType : UInt8)
  (read : List UInt8 → Nat → Checked (Except ChipError α)) : Checked (Except ChipError α) := do
  let tlv ← s.locate aType
  match tlv with
  | some tlv => read s.mData tlv
  | none => pure (.error .tlvTagNotFound)

section Elements

variable (s : OperationalDataset)

def getActiveTimestamp : Checked (Except ChipError UInt64) :=
  s.getElement kActiveTimestamp fun data tlv => .ok <$> get64 data tlv

def setActiveTimestamp (aActiveTimestamp : UInt64) : Checked (Except ChipError Unit × OperationalDataset) :=
  s.setElement kActiveTimestamp (headerSize + 8) (fun s tlv => s.setNumber tlv (bytes64 aActiveTimestamp)) false

/-- The bytes of the channel follow the one of the channel page. -/
def getChannel : Checked (Except ChipError UInt16) :=
  s.getElement kChannel fun data tlv => do
    let value ← readValue data tlv 1 2
    pure (.ok (UInt16.ofNat ((value.getD 0 0).toNat <<< 8 ||| (value.getD 1 0).toNat)))

def setChannel (aChannel : UInt16) : Checked (Except ChipError Unit × OperationalDataset) :=
  let value := 0 :: bytes16 aChannel
  s.setElement kChannel (headerSize + value.length) (fun s tlv => s.setValue tlv value) false

def getExtendedPanIdAsByteSpan : Checked (Except ChipError (List UInt8)) :=
  s.getElement kExtendedPanId fun data tlv => do
    let length ← getLength data tlv
    if length ≠ kSizeExtendedPanId then pure (.error .invalidTLVElement)
    else .ok <$> readValue data tlv 0 length

/-- The span that `getExtendedPanIdAsByteSpan` gives is copied to the array of the caller. -/
def getExtendedPanId : Checked (Except ChipError (List UInt8)) := do
  let extPanIdSpan ← s.getExtendedPanIdAsByteSpan
  match extPanIdSpan with
  | .error error => pure (.error error)
  | .ok span => do
      within (span.length ≤ kSizeExtendedPanId)
      pure (.ok span)

def setExtendedPanId (aExtendedPanId : Vector UInt8 kSizeExtendedPanId) :
  Checked (Except ChipError Unit × OperationalDataset) :=
  s.setElement kExtendedPanId (headerSize + kSizeExtendedPanId)
    (fun s tlv => s.setValue tlv aExtendedPanId.toList) true

def getMasterKey : Checked (Except ChipError (List UInt8)) :=
  s.getElement kMasterKey fun data tlv => .ok <$> readValue data tlv 0 kSizeMasterKey

def setMasterKey (aMasterKey : Vector UInt8 kSizeMasterKey) :
  Checked (Except ChipError Unit × OperationalDataset) :=
  s.setElement kMasterKey (headerSize + kSizeMasterKey) (fun s tlv => s.setValue tlv aMasterKey.toList) true

def getMeshLocalPrefix : Checked (Except ChipError (List UInt8)) :=
  s.getElement kMeshLocalPrefix fun data tlv => .ok <$> readValue data tlv 0 kSizeMeshLocalPrefix

def setMeshLocalPrefix (aMeshLocalPrefix : Vector UInt8 kSizeMeshLocalPrefix) :
  Checked (Except ChipError Unit × OperationalDataset) :=
  s.setElement kMeshLocalPrefix (headerSize + kSizeMeshLocalPrefix)
    (fun s tlv => s.setValue tlv aMeshLocalPrefix.toList) false

/-- The buffer of the caller has room for the characters of a name and the one that ends it. -/
def getNetworkName : Checked (Except ChipError (List UInt8)) :=
  s.getElement kNetworkName fun data tlv => do
    let length ← getLength data tlv
    let name ← readValue data tlv 0 length
    within (length + 1 ≤ kSizeNetworkName + 1)
    pure (.ok name)

/-- `aNetworkName` are the characters before the one that ends the string. -/
def setNetworkName (aNetworkName : List UInt8) : Checked (Except ChipError Unit × OperationalDataset) :=
  let len := aNetworkName.length
  if len > kSizeNetworkName ∨ len = 0 then pure (.error .invalidStringLength, s)
  else s.setElement kNetworkName (headerSize + len) (fun s tlv => s.setValue tlv aNetworkName) false

def getPanId : Checked (Except ChipError UInt16) :=
  s.getElement kPanId fun data tlv => .ok <$> get16 data tlv

def setPanId (aPanId : UInt16) : Checked (Except ChipError Unit × OperationalDataset) :=
  s.setElement kPanId (headerSize + 2) (fun s tlv => s.setNumber tlv (bytes16 aPanId)) false

def getPSKc : Checked (Except ChipError (List UInt8)) :=
  s.getElement kPSKc fun data tlv => .ok <$> readValue data tlv 0 kSizePSKc

def setPSKc (aPSKc : Vector UInt8 kSizePSKc) : Checked (Except ChipError Unit × OperationalDataset) :=
  s.setElement kPSKc (headerSize + kSizePSKc) (fun s tlv => s.setValue tlv aPSKc.toList) false

def asByteSpan : List UInt8 := s.mData.take s.mLength

def unsetMasterKey : Checked OperationalDataset := s.remove kMasterKey

def unsetPSKc : Checked OperationalDataset := s.remove kPSKc

end Elements

end OperationalDataset

end Chip.Thread
