import Chip.Data.Proc
import Chip.Data.LittleEndian
import Chip.TLV.Tags

/-! The pull parser of `TLVReader.cpp`. The bytes from `mReadPoint` to `mBufEnd`
are a list, so both pointers advance together when bytes are consumed. A backing
store is the list of chunks it has yet to hand out; once it is empty it reports a
zero length and leaves the read point where it was. -/
namespace Chip.TLV

abbrev Bytes := List UInt8

structure TLVReader where
  mElemTag : Tag
  mElemLenOrVal : Nat
  mBackingStore : Option (List Bytes)
  mBuf : Bytes
  mLenRead : Nat
  mMaxLen : Nat
  mContainerType : TLVType
  /-- `none` is `kTLVControlByte_NotSpecified`. -/
  mControlByte : Option UInt8
  mContainerOpen : Bool
  implicitProfileId : BitVec 32
  deriving DecidableEq

abbrev ReaderM := Proc ChipError TLVReader

namespace TLVReader

/-- `Init(data, dataLen)` over a contiguous buffer of at least `dataLen` bytes. -/
def init (data : Bytes) (dataLen : Nat) : TLVReader :=
  let actualDataLen := min dataLen (2 ^ 32 - 1)
  { mElemTag := anonymousTag
    mElemLenOrVal := 0
    mBackingStore := none
    mBuf := data.take actualDataLen
    mLenRead := 0
    mMaxLen := actualDataLen
    mContainerType := .notSpecified
    mControlByte := none
    mContainerOpen := false
    implicitProfileId := profileIdNotSpecified }

/-- `Init(backingStore, maxLen)`. The first chunk is taken as the store hands it
out; the source does not cut it to `maxLen` here. -/
def initBackingStore (chunks : List Bytes) (maxLen : Nat) : TLVReader :=
  { mElemTag := anonymousTag
    mElemLenOrVal := 0
    mBackingStore := some chunks.tail
    mBuf := chunks.headD []
    mLenRead := 0
    mMaxLen := maxLen
    mContainerType := .notSpecified
    mControlByte := none
    mContainerOpen := false
    implicitProfileId := profileIdNotSpecified }

def elementType (r : TLVReader) : TLVElementType :=
  match r.mControlByte with
  | none => .notSpecified
  | some control => TLVElementType.ofControlByte control

def getType (r : TLVReader) : TLVType := r.elementType.toTLVType

def getTag (r : TLVReader) : Tag := r.mElemTag

def getLength (r : TLVReader) : Nat :=
  if r.elementType.hasLength then r.mElemLenOrVal % 2 ^ 32 else 0

def getLengthRead (r : TLVReader) : Nat := r.mLenRead

/-- Bytes the reader could still be handed, ignoring `mMaxLen`. -/
def available (r : TLVReader) : Nat :=
  r.mBuf.length + ((r.mBackingStore.getD []).map List.length).sum

def clearElementState (r : TLVReader) : TLVReader :=
  { r with mElemTag := anonymousTag, mControlByte := none, mElemLenOrVal := 0 }

/-- Two's complement reading of the low `bits` bits of a length/value field. -/
def castToSigned (bits n : Nat) : Int :=
  if n % 2 ^ bits < 2 ^ (bits - 1) then (n % 2 ^ bits : Nat) else (n % 2 ^ bits : Nat) - 2 ^ bits

/-- `Get(int64_t &)`. -/
def getInt64 (r : TLVReader) : Except ChipError Int64 :=
  match r.elementType with
  | .int8 => .ok (Int64.ofInt (castToSigned 8 r.mElemLenOrVal))
  | .int16 => .ok (Int64.ofInt (castToSigned 16 r.mElemLenOrVal))
  | .int32 => .ok (Int64.ofInt (castToSigned 32 r.mElemLenOrVal))
  | .int64 => .ok (Int64.ofInt (castToSigned 64 r.mElemLenOrVal))
  | _ => .error .wrongTLVType

/-- `Get(uint64_t &)`. -/
def getUInt64 (r : TLVReader) : Except ChipError UInt64 :=
  match r.elementType with
  | .uint8 | .uint16 | .uint32 | .uint64 => .ok (UInt64.ofNat r.mElemLenOrVal)
  | _ => .error .wrongTLVType

/-- `Get(bool &)`. -/
def getBool (r : TLVReader) : Except ChipError Bool :=
  match r.elementType with
  | .booleanFalse => .ok false
  | .booleanTrue => .ok true
  | _ => .error .wrongTLVType

/-- `Get(float &)`, as the bit pattern of the float. -/
def getFloat (r : TLVReader) : Except ChipError UInt32 :=
  match r.elementType with
  | .floatingPointNumber32 => .ok (UInt32.ofNat r.mElemLenOrVal)
  | _ => .error .wrongTLVType

/-- `Get(double &)`, as the bit pattern of the float that is widened or of the
double itself. -/
def getDouble (r : TLVReader) : Except ChipError (UInt32 ⊕ UInt64) :=
  match r.elementType with
  | .floatingPointNumber32 => .ok (.inl (UInt32.ofNat r.mElemLenOrVal))
  | .floatingPointNumber64 => .ok (.inr (UInt64.ofNat r.mElemLenOrVal))
  | _ => .error .wrongTLVType

end TLVReader

open TLVReader

/-- `EnsureData`: fetch the next chunk when the current one is used up, cut to
what `mMaxLen` still allows. -/
def ensureData (noDataErr : ChipError) : ReaderM Unit := do
  let r ← Proc.read
  if r.mBuf = [] then do
    Proc.verify (r.mLenRead ≠ r.mMaxLen) noDataErr
    match r.mBackingStore with
    | none => Proc.fail noDataErr
    | some [] => Proc.fail noDataErr
    | some (chunk :: rest) => do
        Proc.modify fun r => { r with mBackingStore := some rest }
        Proc.verify (chunk ≠ []) noDataErr
        let bufLen := min chunk.length (sub32 r.mMaxLen r.mLenRead)
        Proc.modify fun r => { r with mBuf := chunk.take bufLen }
  else pure ()

/-- Advance the read point over `n` bytes of the current chunk. -/
def consume (n : Nat) : ReaderM Bytes := do
  let r ← Proc.read
  Proc.modify fun r => { r with mBuf := r.mBuf.drop n, mLenRead := add32 r.mLenRead n }
  pure (r.mBuf.take n)

/-- The loop of `ReadData`. Every turn consumes a byte or fails, so `len` turns
are enough. -/
def readDataLoop : Nat → Nat → ReaderM Bytes
  | 0, len => do
      Proc.verify (len = 0) .internal
      pure []
  | fuel + 1, len => do
      if len = 0 then pure [] else do
        ensureData .tlvUnderrun
        let r ← Proc.read
        let readLen := min len r.mBuf.length
        let bytes ← consume readLen
        let rest ← readDataLoop fuel (len - readLen)
        pure (bytes ++ rest)

def readData (len : Nat) : ReaderM Bytes := readDataLoop len len

/-- `ReadTag`. An implicit tag that cannot be resolved returns before its bytes
are read, so the remaining bytes still start with them. -/
def readTag (implicitProfileId : BitVec 32) (tagControl : TLVTagControl) (p : Bytes) :
  Tag × Bytes :=
  let read16 (p : Bytes) : BitVec 16 := BitVec.ofNat 16 (LittleEndian.value (p.take 2))
  let read (size : Nat) (p : Bytes) : BitVec 32 := BitVec.ofNat 32 (LittleEndian.value (p.take size))
  match tagControl with
  | .contextSpecific => (contextTag (BitVec.ofNat 8 (LittleEndian.value (p.take 1))), p.drop 1)
  | .commonProfile2Bytes => (commonTag (read 2 p), p.drop 2)
  | .commonProfile4Bytes => (commonTag (read 4 p), p.drop 4)
  | .implicitProfile2Bytes =>
    if implicitProfileId = profileIdNotSpecified then (unknownImplicitTag, p)
    else (profileTag implicitProfileId (read 2 p), p.drop 2)
  | .implicitProfile4Bytes =>
    if implicitProfileId = profileIdNotSpecified then (unknownImplicitTag, p)
    else (profileTag implicitProfileId (read 4 p), p.drop 4)
  | .fullyQualified6Bytes =>
    (vendorProfileTag (read16 p) (read16 (p.drop 2)) (read 2 (p.drop 4)), p.drop 6)
  | .fullyQualified8Bytes =>
    (vendorProfileTag (read16 p) (read16 (p.drop 2)) (read 4 (p.drop 4)), p.drop 8)
  | .anonymous => (anonymousTag, p)

/-- The tag rules of `VerifyElement` for an element that is not a terminator. -/
def verifyTagInContainer (containerType : TLVType) (tag : Tag) : Except ChipError Unit :=
  match containerType with
  | .notSpecified => if isContextTag tag then .error .invalidTLVTag else .ok ()
  | .struct => if tag = anonymousTag then .error .invalidTLVTag else .ok ()
  | .array => if tag ≠ anonymousTag then .error .invalidTLVTag else .ok ()
  | .unknownContainer | .list => .ok ()
  | _ => .error .incorrectState

def verifyElement : ReaderM Unit := do
  let r ← Proc.read
  if r.elementType = .endOfContainer then do
    Proc.verify (r.mContainerType ≠ .notSpecified) .invalidTLVElement
    Proc.verify (r.mElemTag = anonymousTag) .invalidTLVTag
  else do
    Proc.verify (r.mElemTag ≠ unknownImplicitTag) .unknownImplicitTLVTag
    match verifyTagInContainer r.mContainerType r.mElemTag with
    | .ok () => pure ()
    | .error e => Proc.fail e
  if r.elementType.hasLength then
    Proc.verify (r.mElemLenOrVal % 2 ^ 32 ≤ sub32 r.mMaxLen r.mLenRead) .tlvUnderrun
  else pure ()

/-- The head of an element, through the staging buffer when it straddles the end
of the current chunk and directly from the chunk otherwise. -/
def readHead (elemHeadBytes : Nat) : ReaderM Bytes := do
  let r ← Proc.read
  if elemHeadBytes > r.mBuf.length then readData elemHeadBytes else consume elemHeadBytes

/-- What `ReadElement` stores once the head bytes are at hand. -/
def decodeHead (tagControl : TLVTagControl) (size : TLVFieldSize) (head : Bytes) (r : TLVReader) :
  TLVReader :=
  let (tag, p) := readTag r.implicitProfileId tagControl (head.drop 1)
  { r with mElemTag := tag, mElemLenOrVal := LittleEndian.value (p.take size.bytes) }

def readElement : ReaderM Unit := do
  ensureData .endOfTLV
  let r ← Proc.read
  let control := r.mBuf.headD 0
  Proc.modify fun r => { r with mControlByte := some control }
  let elemType := TLVElementType.ofControlByte control
  Proc.verify (elemType.isValid = true) .invalidTLVElement
  let tagControl := TLVTagControl.ofControlByte control
  let lenOrValFieldSize := elemType.fieldSize
  let head ← readHead (1 + tagControl.tagSize + lenOrValFieldSize.bytes)
  Proc.modify (decodeHead tagControl lenOrValFieldSize head)
  let r ← Proc.read
  Proc.verify (lenOrValFieldSize = .size8Byte → elemType.hasLength = true →
    r.mElemLenOrVal < 2 ^ 32) .notImplemented
  verifyElement

def skipData : ReaderM Unit := do
  let r ← Proc.read
  if r.elementType.hasLength then do
    let _ ← readData (r.mElemLenOrVal % 2 ^ 32)
    pure ()
  else pure ()

/-- One turn's bookkeeping in `SkipToEndOfContainer`: the new nesting level, with
the container type adjusted for the elements that follow. -/
def enterOrLeave (outerContainerType : TLVType) (nestLevel : Nat) : ReaderM Nat := do
  let r ← Proc.read
  if r.elementType = .endOfContainer then do
    Proc.modify fun r =>
      { r with mContainerType := if nestLevel - 1 = 0 then outerContainerType else .unknownContainer }
    pure (nestLevel - 1)
  else if r.elementType.isContainer then do
    Proc.modify fun r => { r with mContainerType := r.elementType.toTLVType }
    pure (nestLevel + 1)
  else pure nestLevel

/-- The loop of `SkipToEndOfContainer`. Every turn reads an element head, so the
number of available bytes bounds the number of turns. -/
def skipLoop (outerContainerType : TLVType) : Nat → Nat → ReaderM Unit
  | 0, _ => Proc.fail .internal
  | fuel + 1, nestLevel => do
      let r ← Proc.read
      if r.elementType = .endOfContainer ∧ nestLevel = 0 then pure () else do
        let nestLevel ← enterOrLeave outerContainerType nestLevel
        skipData
        readElement
        skipLoop outerContainerType fuel nestLevel

def skipToEndOfContainer : ReaderM Unit := do
  let r ← Proc.read
  Proc.modify fun r => { r with mContainerOpen := false }
  skipLoop r.mContainerType (r.available + 1) 0

/-- `EnterContainer`, returning the type of the outer container. -/
def enterContainer : ReaderM TLVType := do
  let r ← Proc.read
  Proc.verify (r.elementType.isContainer = true) .incorrectState
  Proc.modify fun r =>
    { r.clearElementState with mContainerType := r.elementType.toTLVType, mContainerOpen := false }
  pure r.mContainerType

def exitContainer (outerContainerType : TLVType) : ReaderM Unit := do
  skipToEndOfContainer
  Proc.modify fun r => { r.clearElementState with mContainerType := outerContainerType }

def skip : ReaderM Unit := do
  let r ← Proc.read
  Proc.verify (r.elementType ≠ .endOfContainer) .endOfTLV
  if r.elementType.isContainer then do
    let outerContainerType ← enterContainer
    exitContainer outerContainerType
  else do
    skipData
    Proc.modify clearElementState

def next : ReaderM Unit := do
  skip
  readElement
  let r ← Proc.read
  Proc.verify (r.elementType ≠ .endOfContainer) .endOfTLV
  if r.elementType.hasLength ∧ r.getLength ≠ 0 then ensureData .tlvUnderrun else pure ()

/-- `GetBytes` with a destination of `bufSize` bytes. -/
def getBytes (bufSize : Nat) : ReaderM Bytes := do
  let r ← Proc.read
  Proc.verify (r.elementType.hasLength = true) .wrongTLVType
  Proc.verify (r.mElemLenOrVal ≤ bufSize) .bufferTooSmall
  let bytes ← readData (r.mElemLenOrVal % 2 ^ 32)
  Proc.modify fun r => { r with mElemLenOrVal := 0 }
  pure bytes

end Chip.TLV
