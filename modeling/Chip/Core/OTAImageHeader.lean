import Chip.Data.Memory
import Chip.TLV.LocalizedStrings
import Chip.TLV.ReaderErrors

/-! The parser for the header of a software image (`OTAImageHeader.cpp`). It takes the image in
chunks and first collects 16 fixed bytes, then as many bytes of TLV as those announce. -/
namespace Chip

open TLV

/-- The results of a parse. Integers are kept as numbers, and spans as the bytes they show. -/
structure OTAImageHeader where
  mVendorId : Nat
  mProductId : Nat
  mSoftwareVersion : Nat
  mSoftwareVersionString : Bytes
  mPayloadSize : Nat
  mMinApplicableVersion : Option Nat
  mMaxApplicableVersion : Option Nat
  mReleaseNotesURL : Bytes
  mImageDigestType : Nat
  mImageDigest : Bytes

namespace OTAImageHeaderParser

def kOTAImageFileIdentifier : Nat := 0x1BEEF11E

def kFixedHeaderSize : Nat := 16

def kMaxHeaderSize : Nat := 1024

def kMaxSoftwareVersionStringSize : Nat := 64

def kMaxReleaseNotesURLSize : Nat := 256

inductive HeaderTag where
  | kVendorId | kProductId | kSoftwareVersion | kSoftwareVersionString | kPayloadSize
  | kMinApplicableVersion | kMaxApplicableVersion | kReleaseNotesURL | kImageDigestType | kImageDigest

def HeaderTag.number : HeaderTag → BitVec 8
  | kVendorId => 0
  | kProductId => 1
  | kSoftwareVersion => 2
  | kSoftwareVersionString => 3
  | kPayloadSize => 4
  | kMinApplicableVersion => 5
  | kMaxApplicableVersion => 6
  | kReleaseNotesURL => 7
  | kImageDigestType => 8
  | kImageDigest => 9

inductive State where
  | kNotInitialized | kInitialized | kTlv
  deriving DecidableEq

end OTAImageHeaderParser

open OTAImageHeaderParser

/-- `mBuffer` holds what has been stored in the allocated block. -/
structure OTAImageHeaderParser where
  mState : State
  mHeaderTlvSize : Nat
  mBufferOffset : Nat
  mBuffer : Bytes

namespace OTAImageHeaderParser

def init : OTAImageHeaderParser := ⟨.kInitialized, 0, 0, []⟩

def clear : OTAImageHeaderParser := ⟨.kNotInitialized, 0, 0, []⟩

abbrev DecodeM := Proc ChipError (TLVReader × OTAImageHeader)

section Fields

variable {α : Type}

def onReader (m : ReaderM α) : DecodeM α := fun s =>
  let (result, reader) := m s.1
  (result, reader, s.2)

def onField (field : OTAImageHeader → α) (store : α → OTAImageHeader → OTAImageHeader)
  (get : TLVReader → Proc ChipError α Unit) : DecodeM Unit := fun s =>
  let (result, value) := get s.1 (field s.2)
  (result, s.1, store value s.2)

/-- `Get` for an unsigned type of this many bits below 64, which stores zero for an element of
another type. -/
def getNarrow (bits : Nat) (r : TLVReader) : Proc ChipError Nat Unit := fun v =>
  match r.getUInt64 with
  | .error e => (.error e, 0)
  | .ok v64 => if v64.toNat < 2 ^ bits then (.ok (), v64.toNat) else (.error .invalidIntegerValue, v)

def getWide (r : TLVReader) : Proc ChipError Nat Unit := fun v =>
  match r.getUInt64 with
  | .error e => (.error e, v)
  | .ok v64 => (.ok (), v64.toNat)

/-- `Get` for an enumeration, which keeps its value where the number cannot be read. -/
def getEnum (bits : Nat) (r : TLVReader) : Proc ChipError Nat Unit := fun v =>
  match getNarrow bits r 0 with
  | (.ok (), val) => (.ok (), val)
  | (.error e, _) => (.error e, v)

/-- `Get` into the new value of an optional field. -/
def getOptional (bits : Nat) (r : TLVReader) : Proc ChipError (Option Nat) Unit := fun _ =>
  let (result, value) := getNarrow bits r 0
  (result, some value)

def getBytes (r : TLVReader) : Proc ChipError Bytes Unit := do
  match ← Proc.lift (getDataPtr r) with
  | none => Proc.modify fun _ => []
  | some bytes => Proc.modify fun _ => bytes.take r.getLength

end Fields

def nextField (tag : HeaderTag) : DecodeM Unit := onReader (nextTag (contextTag tag.number))

/-- A field that is read, with the element behind it, if the reader is on its tag. -/
def optionalField (tag : HeaderTag) (get : DecodeM Unit) : DecodeM Unit := do
  let s ← Proc.read
  if s.1.getTag = contextTag tag.number then do
    get
    onReader next
  else pure ()

def getReleaseNotesURL : DecodeM Unit := do
  onField (·.mReleaseNotesURL) (fun v header => { header with mReleaseNotesURL := v }) getText
  let s ← Proc.read
  Proc.verify (s.2.mReleaseNotesURL.length ≤ kMaxReleaseNotesURLSize) .invalidStringLength

/-- The members of the header structure, from the first one on. -/
def decodeFields : DecodeM Unit := do
  nextField .kVendorId
  onField (·.mVendorId) (fun v header => { header with mVendorId := v }) (getNarrow 16)
  nextField .kProductId
  onField (·.mProductId) (fun v header => { header with mProductId := v }) (getNarrow 16)
  nextField .kSoftwareVersion
  onField (·.mSoftwareVersion) (fun v header => { header with mSoftwareVersion := v }) (getNarrow 32)
  nextField .kSoftwareVersionString
  onField (·.mSoftwareVersionString) (fun v header => { header with mSoftwareVersionString := v }) getText
  let s ← Proc.read
  Proc.verify (s.2.mSoftwareVersionString.length ≤ kMaxSoftwareVersionStringSize) .invalidStringLength
  nextField .kPayloadSize
  onField (·.mPayloadSize) (fun v header => { header with mPayloadSize := v }) getWide
  onReader next
  optionalField .kMinApplicableVersion
    (onField (·.mMinApplicableVersion) (fun v header => { header with mMinApplicableVersion := v })
      (getOptional 32))
  optionalField .kMaxApplicableVersion
    (onField (·.mMaxApplicableVersion) (fun v header => { header with mMaxApplicableVersion := v })
      (getOptional 32))
  optionalField .kReleaseNotesURL getReleaseNotesURL
  let s ← Proc.read
  Proc.verify (s.1.getTag = contextTag HeaderTag.kImageDigestType.number) .unexpectedTLVElement
  onField (·.mImageDigestType) (fun v header => { header with mImageDigestType := v }) (getEnum 8)
  nextField .kImageDigest
  onField (·.mImageDigest) (fun v header => { header with mImageDigest := v }) getBytes

/-- What `DecodeTlv` does with the complete TLV. -/
def decodeHeader : DecodeM Unit := do
  onReader (nextTypeTag .struct anonymousTag)
  let outerType ← onReader enterContainer
  decodeFields
  onReader (exitContainer outerType)

/-- The result for these bytes of TLV, and the header after it. -/
def headerOf (tlv : Bytes) (header : OTAImageHeader) : Except ChipError Unit × OTAImageHeader :=
  let (result, _, header) := decodeHeader (TLVReader.init tlv tlv.length, header)
  (result, header)

def append (parser : OTAImageHeaderParser) (buffer : Bytes) (numBytes : Nat) : OTAImageHeaderParser × Bytes :=
  let numBytes := min numBytes (buffer.length % 2 ^ 32)
  ({ parser with
      mBuffer := overwrite parser.mBuffer parser.mBufferOffset (buffer.take numBytes)
      mBufferOffset := parser.mBufferOffset + numBytes }, buffer.drop numBytes)

def readField (bytes : Bytes) (offset size : Nat) : Nat :=
  LittleEndian.value ((bytes.drop offset).take size)

/-- `alloc` tells for which sizes there is memory. -/
def decodeFixed (alloc : Nat → Bool) : Proc ChipError OTAImageHeaderParser Unit := do
  let parser ← Proc.read
  Proc.verify (¬parser.mBufferOffset < kFixedHeaderSize) .bufferTooSmall
  let fixed := parser.mBuffer.take parser.mBufferOffset
  -- the total size, in the 8 bytes behind the identifier, is not used
  let mHeaderTlvSize := readField fixed 12 4
  Proc.modify fun parser => { parser with mHeaderTlvSize := mHeaderTlvSize }
  Proc.verify (readField fixed 0 4 = kOTAImageFileIdentifier) .invalidFileIdentifier
  Proc.verify (¬mHeaderTlvSize > kMaxHeaderSize) .noMemory
  Proc.modify fun parser => { parser with mBuffer := [] }
  Proc.verify (alloc mHeaderTlvSize = true) .noMemory
  Proc.modify fun parser => { parser with mState := .kTlv, mBufferOffset := 0 }

def decodeTlv (parser : OTAImageHeaderParser) (header : OTAImageHeader) :
  Except ChipError Unit × OTAImageHeader :=
  if parser.mBufferOffset < parser.mHeaderTlvSize then (.error .bufferTooSmall, header)
  else headerOf (parser.mBuffer.take parser.mBufferOffset) header

/-- The first phase of a call: its error, the parser and what is left of the chunk. -/
def fixedPhase (alloc : Nat → Bool) (parser : OTAImageHeaderParser) (buffer : Bytes) :
  Except ChipError Unit × OTAImageHeaderParser × Bytes :=
  if parser.mState = .kInitialized then
    let (parser, buffer) := parser.append buffer (kFixedHeaderSize - parser.mBufferOffset)
    let (error, parser) := decodeFixed alloc parser
    (error, parser, buffer)
  else (.ok (), parser, buffer)

def bothPhases (alloc : Nat → Bool) (parser : OTAImageHeaderParser) (buffer : Bytes)
  (header : OTAImageHeader) :
  Except ChipError Unit × OTAImageHeaderParser × Bytes × OTAImageHeader :=
  let (error, parser, buffer) := fixedPhase alloc parser buffer
  if parser.mState = .kTlv then
    let (parser, buffer) := parser.append buffer (parser.mHeaderTlvSize - parser.mBufferOffset)
    let (error, header) := parser.decodeTlv header
    (error, parser, buffer, header)
  else (error, parser, buffer, header)

/-- `AccumulateAndDecode`: the error, the parser, what is left of the chunk and the header. -/
def accumulateAndDecode (alloc : Nat → Bool) (parser : OTAImageHeaderParser) (buffer : Bytes)
  (header : OTAImageHeader) :
  Except ChipError Unit × OTAImageHeaderParser × Bytes × OTAImageHeader :=
  let (error, parser, buffer, header) := bothPhases alloc parser buffer header
  match error with
  | .ok () => (error, parser, buffer, header)
  | .error .bufferTooSmall => (error, parser, buffer, header)
  | .error _ => (error, clear, buffer, header)

end OTAImageHeaderParser

end Chip
