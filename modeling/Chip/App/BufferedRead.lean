import Chip.TLV.Writer

/-! The adapter that puts chunked lists together for a read callback
(`BufferedReadCallback.cpp`). Memory is granted whenever it is asked for. -/
namespace Chip.App

open TLV

inductive ListOperation where
  | notList
  | replaceAll
  | replaceItem
  | deleteItem
  | appendItem
  deriving DecidableEq

structure ConcreteDataAttributePath where
  mEndpointId : UInt16
  mClusterId : UInt32
  mAttributeId : UInt32
  mExpanded : Bool
  mListIndex : UInt16
  mListOp : ListOperation
  mDataVersion : Option UInt32

namespace ConcreteDataAttributePath

def empty : ConcreteDataAttributePath := ⟨0, 0, 0, false, 0, .notList, none⟩

def isListOperation (path : ConcreteDataAttributePath) : Bool := path.mListOp ≠ .notList

/-- `operator==` of the attribute paths, which does not look at the list operation. -/
def sameAttribute (path other : ConcreteDataAttributePath) : Bool :=
  path.mEndpointId = other.mEndpointId && path.mClusterId = other.mClusterId &&
    path.mAttributeId = other.mAttributeId

end ConcreteDataAttributePath

structure StatusIB where
  mStatus : UInt8
  mClusterStatus : Option UInt8
  deriving DecidableEq

namespace StatusIB

def success : StatusIB := ⟨0, none⟩

def isSuccess (status : StatusIB) : Bool := status.mStatus = 0

end StatusIB

/-- The calls on a `ReadClient::Callback` that deliver a report. -/
inductive ReadCall where
  | reportBegin
  | reportEnd
  | attributeData (path : ConcreteDataAttributePath) (data : Option TLVReader) (status : StatusIB)
  | error (e : ChipError)

/-- The adapter, with the calls that it has made to the wrapped callback. A handle that has been
moved from holds no buffer. -/
structure BufferedReadCallback where
  mBufferedPath : ConcreteDataAttributePath
  mBufferedList : List (Option Bytes)
  calls : List ReadCall

def BufferedReadCallback.initial : BufferedReadCallback := ⟨.empty, [], []⟩

/-- Why a call ends early: with an error code, or at a null pointer. -/
inductive ReadFault where
  | error (e : ChipError)
  | stopped

abbrev Buffering := Proc ReadFault BufferedReadCallback

def deliver (call : ReadCall) : Buffering Unit :=
  Proc.modify fun s => { s with calls := s.calls ++ [call] }

def moveHandle (index : Nat) : Buffering Unit :=
  Proc.modify fun s => { s with mBufferedList := s.mBufferedList.set index none }

/-- The loop that copies the buffered items into the array, from an index on. -/
def copyItems : List Bytes → Nat → TLVWriter → Buffering TLVWriter
  | [], _, writer => pure writer
  | item :: rest, index, writer => do
      moveHandle index
      match next (TLVReader.init item item.length) with
      | (.error e, _) => Proc.fail (.error e)
      | (.ok (), reader) =>
        match copyElement anonymousTag reader writer with
        | (.error e, _) => Proc.fail (.error e)
        | (.ok _, writer) => copyItems rest (index + 1) writer

/-- The size of the buffer, as a `uint32_t`. -/
def totalBufSize (items : List Bytes) : Nat := ((items.map List.length).sum + 4) % 2 ^ 32

/-- `GenerateListTLV`: a reader before the array. The buffer is filled with zeros first. -/
def generateListTLV : Buffering TLVReader := do
  let s ← Proc.read
  match s.mBufferedList.mapM id with
  | none => Proc.fail .stopped
  | some items =>
    let size := totalBufSize items
    match startContainer anonymousTag .array (TLVWriter.init size) with
    | (.error e, _) => Proc.fail (.error e)
    | (.ok outerType, writer) => do
        let writer ← copyItems items 0 writer
        match endContainer outerType writer with
        | (.error e, _) => Proc.fail (.error e)
        | (.ok (), writer) =>
          let buffer := writer.mBuf ++ List.replicate (size - writer.mBuf.length) 0
          pure (TLVReader.init buffer size)

/-- `BufferListItem`, with packet buffers of `kMaxSecureSduLengthBytes`: the reader after the
item. -/
def bufferListItem (maxSecureSduLength : Nat) (reader : TLVReader) : Buffering TLVReader := do
  let writer := TLVWriter.initBackingStore maxSecureSduLength [] (2 ^ 32 - 1)
  match copyElement anonymousTag reader writer with
  | (.error e, _) => Proc.fail (.error e)
  | (.ok reader, writer) =>
    match finalize writer with
    | (.error e, _) => Proc.fail (.error e)
    | (.ok (), writer) => do
        Proc.modify fun s => { s with mBufferedList := s.mBufferedList ++ [some writer.mBuf] }
        pure reader

/-- The loop over the items of an array. Each turn reads an element head, so the number of
available bytes bounds the number of turns. -/
def bufferItems (maxSecureSduLength : Nat) : Nat → TLVReader → Buffering TLVReader
  | 0, _ => Proc.fail (.error .internal)
  | fuel + 1, reader =>
    match next reader with
    | (.ok (), reader) => do
        let reader ← bufferListItem maxSecureSduLength reader
        bufferItems maxSecureSduLength fuel reader
    | (.error e, reader) =>
      if e = .endOfTLV then pure reader else Proc.fail (.error e)

/-- The items of a whole list take the place of what is buffered. -/
def bufferArray (maxSecureSduLength : Nat) (reader : TLVReader) : Buffering Unit := do
  Proc.verify (reader.getType = .array) (.error .invalidTLVElement)
  Proc.modify fun s => { s with mBufferedList := [] }
  match enterContainer reader with
  | (.error e, _) => Proc.fail (.error e)
  | (.ok outerContainer, reader) => do
      let reader ← bufferItems maxSecureSduLength (reader.available + 1) reader
      match exitContainer outerContainer reader with
      | (.error e, _) => Proc.fail (.error e)
      | (.ok (), _) => pure ()

def bufferData (maxSecureSduLength : Nat) (path : ConcreteDataAttributePath)
  (data : Option TLVReader) : Buffering Unit :=
  match path.mListOp, data with
  | .replaceAll, none => Proc.fail .stopped
  | .replaceAll, some reader => bufferArray maxSecureSduLength reader
  | .appendItem, none => Proc.fail .stopped
  | .appendItem, some reader => do
      let _ ← bufferListItem maxSecureSduLength reader
      pure ()
  | _, _ => pure ()

/-- The buffered list goes to the wrapped callback, and the buffer is reset. -/
def dispatchList : Buffering Unit := do
  let reader ← generateListTLV
  Proc.modify fun s => { s with mBufferedPath := { s.mBufferedPath with mListOp := .replaceAll } }
  match next reader with
  | (.error e, _) => Proc.fail (.error e)
  | (.ok (), reader) => do
      let s ← Proc.read
      deliver (.attributeData s.mBufferedPath (some reader) .success)
      Proc.modify fun s => { s with mBufferedList := [], mBufferedPath := .empty }

def dispatchBufferedData (path : ConcreteDataAttributePath) (status : StatusIB)
  (endOfReport : Bool) : Buffering Unit := do
  let s ← Proc.read
  if path.sameAttribute s.mBufferedPath && (!endOfReport || !status.isSuccess) then pure ()
  else if s.mBufferedPath.isListOperation then dispatchList
  else pure ()

/-- The body of `OnAttributeData` up to its exit label. -/
def handleAttributeData (maxSecureSduLength : Nat) (path : ConcreteDataAttributePath)
  (data : Option TLVReader) (status : StatusIB) : Buffering Unit := do
  dispatchBufferedData path status false
  if path.isListOperation && status.isSuccess then bufferData maxSecureSduLength path data
  else deliver (.attributeData path data status)
  Proc.modify fun s => { s with mBufferedPath := path }

/-- The error of a call goes to the wrapped callback. There is no next state after a null
pointer. -/
def reportError : Except ReadFault Unit × BufferedReadCallback → Option BufferedReadCallback
  | (.ok (), s) => some s
  | (.error (.error e), s) => some { s with calls := s.calls ++ [.error e] }
  | (.error .stopped, _) => none

def onAttributeData (maxSecureSduLength : Nat) (path : ConcreteDataAttributePath)
  (data : Option TLVReader) (status : StatusIB) (s : BufferedReadCallback) :
  Option BufferedReadCallback :=
  reportError (handleAttributeData maxSecureSduLength path data status s)

def onReportBegin (s : BufferedReadCallback) : BufferedReadCallback :=
  { s with calls := s.calls ++ [.reportBegin] }

def onReportEnd (s : BufferedReadCallback) : Option BufferedReadCallback := do
  let s ← reportError (dispatchBufferedData s.mBufferedPath .success true s)
  pure { s with calls := s.calls ++ [.reportEnd] }

end Chip.App
