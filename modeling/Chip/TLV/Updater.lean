import Chip.Data.Memory
import Chip.TLV.Session

/-! The editor of `TLVUpdater.cpp`, a reader and a writer that share one buffer. Addresses are offsets
from `mBufStart` of the writer, where the buffer begins; it ends at `mBufEnd` of the reader. -/
namespace Chip.TLV

/-- The reader and the writer are stored without the bytes before and behind their points, as these are
in the buffer. -/
structure TLVUpdater where
  mBuffer : Bytes
  mUpdaterReader : TLVReader
  mReadPoint : Nat
  mUpdaterWriter : TLVWriter
  mWritePoint : Nat
  mElementStartAddr : Nat

abbrev UpdaterM := Proc ChipError TLVUpdater

def TLVReader.getElementHeadLength (r : TLVReader) : Except ChipError Nat :=
  if r.elementType.isValid then
    .ok (1 + (TLVTagControl.ofControlByte (r.mControlByte.getD 0)).tagSize + r.elementType.fieldSize.bytes)
  else .error .invalidTLVElement

namespace TLVUpdater

/-- The reader, which finds the bytes behind its read point in the buffer. -/
def reader (u : TLVUpdater) : TLVReader := { u.mUpdaterReader with mBuf := u.mBuffer.drop u.mReadPoint }

/-- The writer, which has left the bytes before its write point in the buffer. -/
def writer (u : TLVUpdater) : TLVWriter := { u.mUpdaterWriter with mBuf := u.mBuffer.take u.mWritePoint }

def withReader (r : TLVReader) (u : TLVUpdater) : TLVUpdater :=
  { u with
    mUpdaterReader := { r with mBuf := [] }
    mReadPoint := u.mReadPoint + (u.reader.mBuf.length - r.mBuf.length) }

def withWriter (w : TLVWriter) (u : TLVUpdater) : TLVUpdater :=
  { u with
    mBuffer := overwrite u.mBuffer 0 w.mBuf
    mUpdaterWriter := { w with mBuf := [] }
    mWritePoint := w.mBuf.length }

def onReader {α : Type} (m : ReaderM α) : UpdaterM α := fun u =>
  ((m u.reader).1, u.withReader (m u.reader).2)

def onWriter {α : Type} (m : WriterM α) : UpdaterM α := fun u =>
  ((m u.writer).1, u.withWriter (m u.writer).2)

def output (u : TLVUpdater) : Bytes := u.mBuffer.take u.mWritePoint

/-- `Init(buf, dataLen, maxLen)` once it is known that the data fits. -/
def initBuffer (buf : Bytes) (dataLen freeLen : Nat) : TLVUpdater :=
  { mBuffer := memmove buf freeLen 0 dataLen
    mUpdaterReader := TLVReader.init [] dataLen
    mReadPoint := freeLen
    mUpdaterWriter := { TLVWriter.init freeLen with mCloseContainerReserved := false }
    mWritePoint := 0
    mElementStartAddr := freeLen }

/-- `Init(buf, dataLen, maxLen)`. -/
def init (buf : Bytes) (dataLen maxLen : Nat) : Except ChipError TLVUpdater :=
  if dataLen ≤ maxLen then .ok (initBuffer buf dataLen (maxLen - dataLen)) else .error .bufferTooSmall

/-- `Init(aReader, freeLen)` once the number of bytes in the head of the current element is known, which
is none if the reader is before an element. -/
def initAt (buf : Bytes) (aReader : TLVReader) (freeLen elemHeadLen : Nat) : TLVUpdater :=
  let start := aReader.mLenRead - elemHeadLen
  let remainingDataLen := add32 (sub32 aReader.mMaxLen aReader.mLenRead) elemHeadLen
  let readDataLen := sub32 aReader.mLenRead elemHeadLen
  { mBuffer := (memmove buf (start + freeLen) start remainingDataLen).take (start + freeLen + remainingDataLen)
    mUpdaterReader := { aReader.clearElementState with
      mBackingStore := none, mBuf := [], mLenRead := readDataLen, mContainerOpen := false }
    mReadPoint := start + freeLen
    mUpdaterWriter :=
      { mBackingStore := none
        mBuf := []
        mRemainingLen := freeLen
        mLenWritten := readDataLen
        mMaxLen := add32 readDataLen freeLen
        mContainerType := aReader.mContainerType
        mContainerOpen := false
        mCloseContainerReserved := false
        implicitProfileId := aReader.implicitProfileId }
    mWritePoint := start
    mElementStartAddr := start + freeLen }

/-- `Init(aReader, freeLen)`, where `buf` are the bytes that the reader began with and the free space
behind them. -/
def initReader (buf : Bytes) (aReader : TLVReader) (freeLen : Nat) : Except ChipError TLVUpdater :=
  if aReader.mBackingStore ≠ none then .error .notImplemented
  else if aReader.elementType = .notSpecified then .ok (initAt buf aReader freeLen 0)
  else aReader.getElementHeadLength.map (initAt buf aReader freeLen)

def setImplicitProfileId (profileId : BitVec 32) : UpdaterM Unit :=
  Proc.modify fun u =>
    { u with
      mUpdaterReader := { u.mUpdaterReader with implicitProfileId := profileId }
      mUpdaterWriter := { u.mUpdaterWriter with implicitProfileId := profileId } }

/-- `AdjustInternalWriterFreeSpace`: what has been read since the start of the element is free. -/
def adjustFreeSpace (u : TLVUpdater) : TLVUpdater :=
  if u.mReadPoint = u.mElementStartAddr then u
  else
    let spaceIncrease := (u.mReadPoint - u.mElementStartAddr) % 2 ^ 32
    { u with
      mUpdaterWriter := { u.mUpdaterWriter with
        mRemainingLen := add32 u.mUpdaterWriter.mRemainingLen spaceIncrease
        mMaxLen := add32 u.mUpdaterWriter.mMaxLen spaceIncrease }
      mElementStartAddr := u.mReadPoint }

def next : UpdaterM Unit := do
  onReader TLV.skip
  Proc.modify adjustFreeSpace
  onReader TLV.next

/-- Copy `copyLen` bytes of the input to the output, which `Move` and `MoveUntilEnd` have in common. -/
def moveBytes (copyLen : Nat) (u : TLVUpdater) : TLVUpdater :=
  { u with
    mBuffer := memmove u.mBuffer u.mWritePoint u.mElementStartAddr copyLen
    mElementStartAddr := u.mElementStartAddr + copyLen
    mWritePoint := u.mWritePoint + copyLen
    mUpdaterWriter := { u.mUpdaterWriter with
      mLenWritten := add32 u.mUpdaterWriter.mLenWritten copyLen
      mMaxLen := add32 u.mUpdaterWriter.mMaxLen copyLen } }

def move : UpdaterM Unit := do
  let u ← Proc.read
  Proc.verify (u.mUpdaterReader.elementType ≠ .endOfContainer) .endOfTLV
  Proc.verify (u.mUpdaterReader.getType ≠ .notSpecified) .invalidTLVElement
  onReader TLV.skip
  Proc.modify fun u => u.moveBytes ((u.mReadPoint - u.mElementStartAddr) % 2 ^ 32)

/-- The length that `MoveUntilEnd` copies and adds to the read point: the input from the start of the
element, even if the reader is behind that. -/
def untilEnd (u : TLVUpdater) : Nat :=
  let buffEnd := u.mReadPoint + sub32 u.mUpdaterReader.mMaxLen u.mUpdaterReader.mLenRead
  (buffEnd - u.mElementStartAddr) % 2 ^ 32

def moveUntilEnd : UpdaterM Unit :=
  Proc.modify fun u =>
    let moved := u.moveBytes u.untilEnd
    { moved with
      mUpdaterWriter := { moved.mUpdaterWriter with
        mContainerType := .notSpecified, mContainerOpen := false, mCloseContainerReserved := false }
      mReadPoint := u.mReadPoint + u.untilEnd
      mUpdaterReader := { u.mUpdaterReader.clearElementState with
        mLenRead := add32 u.mUpdaterReader.mLenRead u.untilEnd
        mContainerType := .notSpecified
        mContainerOpen := false } }

def enterContainer : UpdaterM TLVType := do
  let u ← Proc.read
  Proc.verify (u.mUpdaterReader.elementType.isContainer = true) .incorrectState
  Proc.modify adjustFreeSpace
  let _ ← onWriter (TLV.startContainer u.mUpdaterReader.getTag u.mUpdaterReader.getType)
  onReader TLV.enterContainer

def exitContainer (outerContainerType : TLVType) : UpdaterM Unit := do
  onReader (TLV.exitContainer outerContainerType)
  Proc.modify adjustFreeSpace
  onWriter (TLV.endContainer outerContainerType)

end TLVUpdater

/-- The calls an application makes on an updater. `put` is any call that writes a whole element. -/
inductive UpdaterCall where
  | setImplicitProfileId (profileId : BitVec 32)
  | next
  | getBytes (bufSize : Nat)
  | move
  | moveUntilEnd
  | enterContainer
  | exitContainer (outerContainerType : TLVType)
  | put (c : WriterCall)
  | startContainer (tag : Tag) (containerType : TLVType)
  | endContainer (outerContainerType : TLVType)

namespace UpdaterCall

def run : UpdaterCall → TLVUpdater → TLVUpdater
  | setImplicitProfileId profileId, u => (TLVUpdater.setImplicitProfileId profileId u).2
  | next, u => (TLVUpdater.next u).2
  | getBytes bufSize, u => (TLVUpdater.onReader (TLV.getBytes bufSize) u).2
  | move, u => (TLVUpdater.move u).2
  | moveUntilEnd, u => (TLVUpdater.moveUntilEnd u).2
  | enterContainer, u => (TLVUpdater.enterContainer u).2
  | exitContainer outerContainerType, u => (TLVUpdater.exitContainer outerContainerType u).2
  | put c, u => (TLVUpdater.onWriter c.run u).2
  | startContainer tag containerType, u =>
    (TLVUpdater.onWriter (TLV.startContainer tag containerType) u).2
  | endContainer outerContainerType, u =>
    (TLVUpdater.onWriter (TLV.endContainer outerContainerType) u).2

end UpdaterCall

def TLVUpdater.after : List UpdaterCall → TLVUpdater → TLVUpdater
  | [], u => u
  | call :: calls, u => after calls (call.run u)

end Chip.TLV
