import Chip.TLV.Reader

/-! The encoder of `TLVWriter.cpp`. The bytes from `mBufStart` to `mWritePoint` are
a list. Lengths are `uint32_t` numbers; the sums and differences that the source
takes modulo `2 ^ 32` are written with `add32` and `sub32`. -/
namespace Chip.TLV

/-- A `TLVBackingStore` that serves one writer: the buffers it has been given
back, the last contents reported for the buffer in use, and its answers to the
coming `GetNewBuffer` calls. -/
structure BackingStore where
  finalized : List Bytes
  current : Option Bytes
  pending : List (Except ChipError Nat)

structure TLVWriter where
  mBackingStore : Option BackingStore
  mBuf : Bytes
  mRemainingLen : Nat
  mLenWritten : Nat
  mMaxLen : Nat
  mContainerType : TLVType
  mContainerOpen : Bool
  mCloseContainerReserved : Bool
  implicitProfileId : BitVec 32

abbrev WriterM := Proc ChipError TLVWriter

namespace TLVWriter

/-- `Init(buf, maxLen)` over a contiguous buffer. -/
def init (maxLen : Nat) : TLVWriter :=
  let actualMaxLen := min maxLen (2 ^ 32 - 1)
  { mBackingStore := none
    mBuf := []
    mRemainingLen := actualMaxLen
    mLenWritten := 0
    mMaxLen := actualMaxLen
    mContainerType := .notSpecified
    mContainerOpen := false
    mCloseContainerReserved := true
    implicitProfileId := profileIdNotSpecified }

/-- `Init(backingStore, maxLen)` with a first buffer of `bufLen` bytes. The
source does not cut it to `maxLen`. -/
def initBackingStore (bufLen : Nat) (pending : List (Except ChipError Nat)) (maxLen : Nat) :
  TLVWriter :=
  { mBackingStore := some ⟨[], none, pending⟩
    mBuf := []
    mRemainingLen := bufLen
    mLenWritten := 0
    mMaxLen := maxLen
    mContainerType := .notSpecified
    mContainerOpen := false
    mCloseContainerReserved := true
    implicitProfileId := profileIdNotSpecified }

def getLengthWritten (w : TLVWriter) : Nat := w.mLenWritten

/-- Copy `bytes` to the write point of the current buffer. -/
def append (bytes : Bytes) (w : TLVWriter) : TLVWriter :=
  { w with
    mBuf := w.mBuf ++ bytes
    mRemainingLen := w.mRemainingLen - bytes.length
    mLenWritten := add32 w.mLenWritten bytes.length }

end TLVWriter

/-- `sizeof(stagingBuf)`: a control byte, eight tag bytes and an eight byte value. -/
def stagingBufSize : Nat := 17

/-- `kEndOfContainerMarkerSize`. -/
def endOfContainerMarkerSize : Nat := 1

/-- `kTLVCopyChunkSize`. -/
def tlvCopyChunkSize : Nat := 16

/-- The part of `WriteData` that trades a full buffer for a new one, cut to what
`mMaxLen` still allows. -/
def newBuffer : WriterM Unit := do
  let w ← Proc.read
  match w.mBackingStore with
  | none => Proc.fail .noMemory
  | some store =>
    match store.pending with
    | [] => do
        Proc.modify fun w => { w with mBackingStore := some { store with current := some w.mBuf } }
        Proc.fail .noMemory
    | .error e :: rest => do
        Proc.modify fun w =>
          { w with mBackingStore := some { store with current := some w.mBuf, pending := rest } }
        Proc.fail e
    | .ok bufLen :: rest =>
      Proc.modify fun w =>
        { w with
          mBackingStore := some ⟨store.finalized ++ [w.mBuf], none, rest⟩
          mBuf := []
          mRemainingLen := min bufLen (sub32 w.mMaxLen w.mLenWritten) }

/-- The loop of `WriteData`. After the first turn every turn takes a buffer from
the store, so the store's answers bound the number of turns. -/
def writeDataLoop : Nat → Bytes → WriterM Unit
  | 0, p => Proc.verify (p = []) .internal
  | fuel + 1, p =>
    if p = [] then pure () else do
      let w ← Proc.read
      if w.mRemainingLen = 0 then newBuffer else pure ()
      let w ← Proc.read
      let writeLen := min p.length w.mRemainingLen
      Proc.modify (TLVWriter.append (p.take writeLen))
      writeDataLoop fuel (p.drop writeLen)

def TLVWriter.pendingBuffers (w : TLVWriter) : Nat :=
  match w.mBackingStore with
  | none => 0
  | some store => store.pending.length

def writeData (p : Bytes) : WriterM Unit := do
  let w ← Proc.read
  Proc.verify (add32 w.mLenWritten p.length ≤ w.mMaxLen) .bufferTooSmall
  writeDataLoop (w.pendingBuffers + 3) p

/-- The tag form and tag bytes that `WriteElementHead` selects, or its error when
the tag is not allowed in the container. -/
def encodeTag (containerType : TLVType) (implicitProfileId : BitVec 32)
  (elemType : TLVElementType) (tag : Tag) : Except ChipError (TLVTagControl × Bytes) :=
  let tagNum := (tagNumFromTag tag).toNat
  if isSpecialTag tag then
    if tagNum ≤ Tag.contextTagMaxNum.toNat then
      if containerType ≠ .struct ∧ containerType ≠ .list then .error .invalidTLVTag
      else .ok (.contextSpecific, LittleEndian.encode 1 tagNum)
    else
      if elemType ≠ .endOfContainer ∧ containerType ≠ .notSpecified ∧ containerType ≠ .array ∧
          containerType ≠ .list then .error .invalidTLVTag
      else .ok (.anonymous, [])
  else
    let profileId := profileIdFromTag tag
    if containerType ≠ .notSpecified ∧ containerType ≠ .struct ∧ containerType ≠ .list then
      .error .invalidTLVTag
    else if profileId = commonProfileId then
      if tagNum < 65536 then .ok (.commonProfile2Bytes, LittleEndian.encode 2 tagNum)
      else .ok (.commonProfile4Bytes, LittleEndian.encode 4 tagNum)
    else if profileId = implicitProfileId then
      if tagNum < 65536 then .ok (.implicitProfile2Bytes, LittleEndian.encode 2 tagNum)
      else .ok (.implicitProfile4Bytes, LittleEndian.encode 4 tagNum)
    else
      let vendorId := LittleEndian.encode 2 (profileId >>> 16).toNat
      let profileNum := LittleEndian.encode 2 profileId.toNat
      if tagNum < 65536 then
        .ok (.fullyQualified6Bytes, vendorId ++ profileNum ++ LittleEndian.encode 2 tagNum)
      else .ok (.fullyQualified8Bytes, vendorId ++ profileNum ++ LittleEndian.encode 4 tagNum)

/-- The bytes `WriteElementHead` produces for an element. -/
def elementHead (containerType : TLVType) (implicitProfileId : BitVec 32)
  (elemType : TLVElementType) (tag : Tag) (lenOrVal : Nat) : Except ChipError Bytes :=
  match encodeTag containerType implicitProfileId elemType tag with
  | .error e => .error e
  | .ok (control, tagBytes) =>
    .ok (controlByte control elemType :: tagBytes ++
      LittleEndian.encode elemType.fieldSize.bytes lenOrVal)

/-- The direct path of `WriteElementHead` is taken when both the buffer and the
length limit could hold the longest head. What has been written already is not
part of the second test. -/
def TLVWriter.writesDirectly (w : TLVWriter) : Prop :=
  stagingBufSize ≤ w.mRemainingLen ∧ stagingBufSize ≤ w.mMaxLen

instance (w : TLVWriter) : Decidable w.writesDirectly := inferInstanceAs (Decidable (_ ∧ _))

def writeElementHead (elemType : TLVElementType) (tag : Tag) (lenOrVal : Nat) : WriterM Unit := do
  let w ← Proc.read
  Proc.verify (w.mContainerOpen = false) .tlvContainerOpen
  match elementHead w.mContainerType w.implicitProfileId elemType tag lenOrVal with
  | .error e => Proc.fail e
  | .ok head =>
    if w.writesDirectly then Proc.modify (TLVWriter.append head) else writeData head

def putBoolean (tag : Tag) (v : Bool) : WriterM Unit :=
  writeElementHead (if v then .booleanTrue else .booleanFalse) tag 0

/-- The element type that `Put(Tag, uint64_t)` selects. -/
def uintElementType (v : UInt64) : TLVElementType :=
  if v.toNat < 2 ^ 8 then .uint8
  else if v.toNat < 2 ^ 16 then .uint16
  else if v.toNat < 2 ^ 32 then .uint32
  else .uint64

def putUInt64 (tag : Tag) (v : UInt64) : WriterM Unit :=
  writeElementHead (uintElementType v) tag v.toNat

/-- The element type that `Put(Tag, int64_t)` selects. -/
def intElementType (v : Int64) : TLVElementType :=
  if -2 ^ 7 ≤ v.toInt ∧ v.toInt < 2 ^ 7 then .int8
  else if -2 ^ 15 ≤ v.toInt ∧ v.toInt < 2 ^ 15 then .int16
  else if -2 ^ 31 ≤ v.toInt ∧ v.toInt < 2 ^ 31 then .int32
  else .int64

def putInt64 (tag : Tag) (v : Int64) : WriterM Unit :=
  writeElementHead (intElementType v) tag v.toUInt64.toNat

/-- The `preserveSize` overloads of `Put`, which write the integer in the field
size of its C++ type. -/
def putUIntPreserveSize (tag : Tag) (size : TLVFieldSize) (v : UInt64) : WriterM Unit :=
  match size with
  | .size1Byte => writeElementHead .uint8 tag (v.toNat % 2 ^ 8)
  | .size2Byte => writeElementHead .uint16 tag (v.toNat % 2 ^ 16)
  | .size4Byte => writeElementHead .uint32 tag (v.toNat % 2 ^ 32)
  | _ => writeElementHead .uint64 tag v.toNat

def putIntPreserveSize (tag : Tag) (size : TLVFieldSize) (v : Int64) : WriterM Unit :=
  match size with
  | .size1Byte => writeElementHead .int8 tag (v.toUInt64.toNat % 2 ^ 8)
  | .size2Byte => writeElementHead .int16 tag (v.toUInt64.toNat % 2 ^ 16)
  | .size4Byte => writeElementHead .int32 tag (v.toUInt64.toNat % 2 ^ 32)
  | _ => writeElementHead .int64 tag v.toUInt64.toNat

/-- `Put(Tag, float)` on the bit pattern of the float. -/
def putFloat (tag : Tag) (bits : UInt32) : WriterM Unit :=
  writeElementHead .floatingPointNumber32 tag bits.toNat

/-- `Put(Tag, double)` on the bit pattern of the double. -/
def putDouble (tag : Tag) (bits : UInt64) : WriterM Unit :=
  writeElementHead .floatingPointNumber64 tag bits.toNat

def putNull (tag : Tag) : WriterM Unit := writeElementHead .null tag 0

/-- The element type of a string of `dataLen` bytes: the type's bits together
with the smallest length field. -/
def byteStringElementType (dataLen : Nat) : TLVElementType :=
  if dataLen < 2 ^ 8 then .byteString1ByteLength
  else if dataLen < 2 ^ 16 then .byteString2ByteLength
  else .byteString4ByteLength

def utf8StringElementType (dataLen : Nat) : TLVElementType :=
  if dataLen < 2 ^ 8 then .utf8String1ByteLength
  else if dataLen < 2 ^ 16 then .utf8String2ByteLength
  else .utf8String4ByteLength

/-- `WriteElementWithData`, which `PutBytes` and `PutString` call with the two
string types. -/
def writeElementWithData (elemType : Nat → TLVElementType) (tag : Tag) (data : Bytes) :
  WriterM Unit := do
  writeElementHead (elemType data.length) tag data.length
  writeData data

def putBytes (tag : Tag) (data : Bytes) : WriterM Unit :=
  writeElementWithData byteStringElementType tag data

def putString (tag : Tag) (data : Bytes) : WriterM Unit :=
  writeElementWithData utf8StringElementType tag data

/-- `PutStringF` once the text is formatted. The limit is tested here without
wrapping, as `dataLen` is a `size_t`. -/
def putStringF (tag : Tag) (formatted : Bytes) : WriterM Unit := do
  Proc.verify (formatted.length < 2 ^ 32) .invalidArgument
  writeElementHead (utf8StringElementType formatted.length) tag formatted.length
  let w ← Proc.read
  Proc.verify (w.mLenWritten + formatted.length ≤ w.mMaxLen) .bufferTooSmall
  writeData formatted

def putPreEncodedContainer (tag : Tag) (containerType : TLVType) (data : Bytes) : WriterM Unit := do
  Proc.verify (containerType.isContainer = true) .invalidArgument
  writeElementHead containerType.toElementType tag 0
  writeData data

/-- Reserve room for the terminator of a container that is about to be opened. -/
def reserveCloseContainer : WriterM Unit := do
  let w ← Proc.read
  if w.mCloseContainerReserved then do
    Proc.verify (endOfContainerMarkerSize ≤ w.mMaxLen) .bufferTooSmall
    Proc.modify fun w => { w with mMaxLen := w.mMaxLen - endOfContainerMarkerSize }
  else pure ()

def releaseCloseContainer : WriterM Unit :=
  Proc.modify fun w =>
    { w with mMaxLen :=
        if w.mCloseContainerReserved then add32 w.mMaxLen endOfContainerMarkerSize else w.mMaxLen }

/-- The head of a container, with the reservation undone when it cannot be
written. `OpenContainer` and `StartContainer` begin this way. -/
def writeContainerHead (tag : Tag) (containerType : TLVType) : WriterM Unit := do
  Proc.verify (containerType.isContainer = true) .wrongTLVType
  reserveCloseContainer
  match ← Proc.attempt (writeElementHead containerType.toElementType tag 0) with
  | .ok () => pure ()
  | .error e => do
      releaseCloseContainer
      Proc.fail e

/-- `StartContainer`, returning the type of the outer container. -/
def startContainer (tag : Tag) (containerType : TLVType) : WriterM TLVType := do
  writeContainerHead tag containerType
  let w ← Proc.read
  Proc.modify fun w => { w with mContainerType := containerType, mContainerOpen := false }
  pure w.mContainerType

def endContainer (outerContainerType : TLVType) : WriterM Unit := do
  let w ← Proc.read
  Proc.verify (w.mContainerType.isContainer = true) .incorrectState
  Proc.modify fun w => { w with mContainerType := outerContainerType }
  releaseCloseContainer
  writeElementHead .endOfContainer anonymousTag 0

/-- `OpenContainer`, returning the writer for the container's members. -/
def openContainer (tag : Tag) (containerType : TLVType) : WriterM TLVWriter := do
  writeContainerHead tag containerType
  let w ← Proc.read
  Proc.modify fun w => { w with mContainerOpen := true }
  pure { w with
    mLenWritten := 0
    mMaxLen := sub32 w.mMaxLen w.mLenWritten
    mContainerType := containerType
    mContainerOpen := false }

def closeContainer (containerWriter : TLVWriter) : WriterM Unit := do
  Proc.verify (containerWriter.mContainerType.isContainer = true) .incorrectState
  Proc.verify (containerWriter.mContainerOpen = false) .tlvContainerOpen
  Proc.modify fun w =>
    { w with
      mBackingStore := containerWriter.mBackingStore
      mBuf := containerWriter.mBuf
      mRemainingLen := containerWriter.mRemainingLen
      mLenWritten := add32 w.mLenWritten containerWriter.mLenWritten }
  releaseCloseContainer
  Proc.modify fun w => { w with mContainerOpen := false }
  writeElementHead .endOfContainer anonymousTag 0

/-- The copying loop of `CopyElement`, sixteen bytes a turn. -/
def copyDataLoop : Nat → Nat → TLVReader → WriterM Unit
  | 0, copyDataLen, _ => Proc.verify (copyDataLen = 0) .internal
  | fuel + 1, copyDataLen, readerHelper =>
    if copyDataLen = 0 then pure () else
      let chunkSize := min copyDataLen tlvCopyChunkSize
      match readData chunkSize readerHelper with
      | (.error e, _) => Proc.fail e
      | (.ok chunk, readerHelper) => do
          writeData chunk
          copyDataLoop fuel (copyDataLen - chunkSize) readerHelper

/-- `CopyElement`. The helper reader is a copy made before the element is
skipped, but both share one backing store, which skipping has advanced. -/
def copyElement (tag : Tag) (reader : TLVReader) : WriterM TLVReader := do
  let elemType := reader.elementType
  Proc.verify (elemType ≠ .notSpecified ∧ elemType ≠ .endOfContainer) .incorrectState
  match skip reader with
  | (.error e, _) => Proc.fail e
  | (.ok (), skipped) => do
      let readerHelper := { reader with mBackingStore := skipped.mBackingStore }
      let copyDataLen := sub32 skipped.getLengthRead readerHelper.getLengthRead
      writeElementHead elemType tag reader.mElemLenOrVal
      copyDataLoop copyDataLen copyDataLen readerHelper
      pure skipped

def finalize : WriterM Unit := do
  let w ← Proc.read
  Proc.verify (w.mContainerOpen = false) .tlvContainerOpen
  match w.mBackingStore with
  | none => pure ()
  | some store =>
    Proc.modify fun w => { w with mBackingStore := some { store with current := some w.mBuf } }

end Chip.TLV
