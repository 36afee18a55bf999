import Chip.Dnssd.NameWalk
import Chip.Support.BufferWriter

/-! The writer of DNS records (`RecordWriter.cpp`), which puts a pointer where the rest of a name is
in the message already. -/
namespace Chip.Dnssd

def kMaxCachedReferences : Nat := 8

def kInvalidOffset : Nat := 0xFFFF

def kMaxReuseOffset : Nat := 0x3FFF

/-- The first place in the array that is free takes the offset. -/
def rememberIn (offset : Nat) : List Nat → List Nat
  | [] => []
  | previous :: rest =>
    if previous = kInvalidOffset then offset :: rest else previous :: rememberIn offset rest

structure RecordWriter where
  mOutput : BufferWriter
  /-- The offsets of eight names, of which some may be free places. -/
  mPreviousQNames : List Nat

namespace RecordWriter

def init (output : BufferWriter) : RecordWriter :=
  ⟨output, List.replicate kMaxCachedReferences kInvalidOffset⟩

def put8 (w : RecordWriter) (value : UInt8) : RecordWriter :=
  { w with mOutput := w.mOutput.putByte value }

def put16 (w : RecordWriter) (value : Nat) : RecordWriter :=
  { w with mOutput := w.mOutput.bigEndianPut value 2 }

def put32 (w : RecordWriter) (value : Nat) : RecordWriter :=
  { w with mOutput := w.mOutput.bigEndianPut value 4 }

def putString (w : RecordWriter) (value : QNamePart) : RecordWriter :=
  { w with mOutput := w.mOutput.put value.chars }

def put (w : RecordWriter) (range : Bytes) : RecordWriter :=
  { w with mOutput := w.mOutput.put range }

def fit (w : RecordWriter) : Bool := w.mOutput.fit

def validData (w : RecordWriter) : BytesRange := ⟨w.mOutput.mBuf, w.mOutput.mNeeded⟩

/-- `PreviousName`, for the offset in one place of the array. -/
def previousName (w : RecordWriter) (offset : Nat) : SerializedQNameIterator :=
  if offset = kInvalidOffset then .nowhere else .init w.validData offset

/-- The place in a name from which on it is the name that is looked for. Any of the sub-segments
may match. -/
def findIn (isName : SerializedQNameIterator → Looping Fault Bool)
  (previous : SerializedQNameIterator) : Looping Fault (Option Nat) :=
  Looping.loop (fun previous =>
    if !previous.mIsValid then pure (.inr none)
    else do
      let same ← isName previous
      if same then pure (.inr (some previous.mCurrentPosition))
      else do
        let (has, previous) ← previous.next
        pure (if has then .inl previous else .inr none)) previous

def findAmong (w : RecordWriter) (isName : SerializedQNameIterator → Looping Fault Bool) :
  List Nat → Looping Fault (Option Nat)
  | [] => pure none
  | offset :: rest => do
      match ← findIn isName (w.previousName offset) with
      | some position => pure (some position)
      | none => findAmong w isName rest

/-- Where `FindPreviousName` finds the name. -/
def findPreviousPosition (w : RecordWriter) (isName : SerializedQNameIterator → Looping Fault Bool) :
  Looping Fault (Option Nat) :=
  findAmong w isName w.mPreviousQNames

/-- `FindPreviousName`, which has 16 bits for the offset. -/
def findPreviousName (w : RecordWriter) (isName : SerializedQNameIterator → Looping Fault Bool) :
  Looping Fault (Option Nat) := do
  let position ← findPreviousPosition w isName
  pure (position.map (· % 2 ^ 16))

def rememberWrittenQnameOffset (w : RecordWriter) (offset : Nat) : RecordWriter :=
  -- cannot represent this offset properly
  if kMaxReuseOffset < offset then w
  else { w with mPreviousQNames := rememberIn offset w.mPreviousQNames }

def putPart (w : RecordWriter) (part : QNamePart) : RecordWriter :=
  (w.put8 (UInt8.ofNat part.strlen)).putString part

def putPointer (w : RecordWriter) (qNameWriteStart offset : Nat) (isFullyCompressed : Bool) :
  RecordWriter :=
  let w := w.put16 (offset ||| 0xC000)
  if w.fit && !isFullyCompressed then w.rememberWrittenQnameOffset qNameWriteStart else w

def putEnd (w : RecordWriter) (qNameWriteStart : Nat) : RecordWriter :=
  let w := w.put8 0
  if w.fit then w.rememberWrittenQnameOffset qNameWriteStart else w

/-- One turn of the loop of `WriteQName` for a full name, whose labels are counted with 16 bits. -/
def writeFullTurn (w : RecordWriter) (qname : FullQName) :
  Nat × RecordWriter × Bool → Looping Fault ((Nat × RecordWriter × Bool) ⊕ RecordWriter)
  | (i, current, isFullyCompressed) =>
    match qname.drop i with
    | [] => pure (.inr (current.putEnd w.mOutput.mNeeded))
    | part :: rest => do
        match ← current.findPreviousName (·.equalsFull (part :: rest)) with
        | some offset => pure (.inr (current.putPointer w.mOutput.mNeeded offset isFullyCompressed))
        | none => pure (.inl ((i + 1) % 2 ^ 16, current.putPart part, false))

def writeFullQName (w : RecordWriter) (qname : FullQName) : Looping Fault RecordWriter :=
  Looping.loop (writeFullTurn w qname) (0, w, true)

/-- One turn of the loop of `WriteQName` for a serialized name. -/
def writeSerializedTurn (w : RecordWriter) : SerializedQNameIterator × RecordWriter × Bool →
  Looping Fault ((SerializedQNameIterator × RecordWriter × Bool) ⊕ RecordWriter)
  | (copy, current, isFullyCompressed) => do
      match ← current.findPreviousName (·.equals copy) with
      | some offset => pure (.inr (current.putPointer w.mOutput.mNeeded offset isFullyCompressed))
      | none => do
          let (has, copy) ← copy.next
          if !has then pure (.inr (current.putEnd w.mOutput.mNeeded))
          else if !copy.mIsValid then pure (.inr (current.putEnd w.mOutput.mNeeded))
          else pure (.inl (copy, current.putPart copy.value, false))

def writeSerializedQName (w : RecordWriter) (qname : SerializedQNameIterator) :
  Looping Fault RecordWriter :=
  Looping.loop (writeSerializedTurn w) (qname, w, true)

inductive Name where
  | full (qname : FullQName)
  | serialized (qname : SerializedQNameIterator)

def writeQName (w : RecordWriter) : Name → Looping Fault RecordWriter
  | .full qname => w.writeFullQName qname
  | .serialized qname => w.writeSerializedQName qname

end RecordWriter
end Chip.Dnssd
