import Chip.Core.Error
import Chip.Data.Proc

/-! The events that a report carries (`EventManagement.cpp`, `EventDataIB.cpp`): how an event is
put together when it is logged, how the stored events that a reader asks for are copied into a
report, and how the client reads them. An event is the list of the fields of its `EventDataIB`,
and a writer has some bytes left for what it still has to hold. -/
namespace Chip.App.EventManagement

/-- `Timestamp::Type`. -/
inductive TimestampType where
  | system
  | epoch
  deriving DecidableEq

structure Timestamp where
  mType : TimestampType := .system
  mValue : UInt64 := 0
  deriving DecidableEq

structure ConcreteEventPath where
  mEndpointId : UInt16 := 0
  mClusterId : UInt32 := 0
  mEventId : UInt32 := 0
  deriving DecidableEq

/-- `EventPathParams`; a wildcard is the invalid identifier, here none. -/
structure EventPathParams where
  mEndpointId : Option UInt16
  mClusterId : Option UInt32
  mEventId : Option UInt32

def EventPathParams.isEventPathSupersetOf (params : EventPathParams) (other : ConcreteEventPath) :
  Bool :=
  (params.mEndpointId = none || params.mEndpointId = some other.mEndpointId) &&
  (params.mClusterId = none || params.mClusterId = some other.mClusterId) &&
  (params.mEventId = none || params.mEventId = some other.mEventId)

/-- The fields of an `EventDataIB`, and the profile-tagged fabric index that an event has in the
event log only. -/
inductive EventField where
  | path (value : ConcreteEventPath)
  | eventNumber (value : UInt64)
  | priority (value : UInt8)
  | epochTimestamp (value : UInt64)
  | systemTimestamp (value : UInt64)
  | deltaEpochTimestamp (value : UInt64)
  | deltaSystemTimestamp (value : UInt64)
  | data (value : List UInt8)
  | fabricIndex (value : UInt8)

/-- An `EventDataIB`. -/
abbrev EventDataIB := List EventField

/-- `EventOptions`, the number the event gets, and what its `WriteEvent` callback writes. -/
structure LoggedEvent where
  mPath : ConcreteEventPath
  mTimestamp : Timestamp
  mPriority : UInt8
  mFabricIndex : UInt8
  mEventNumber : UInt64
  eventData : List UInt8

def kUndefinedFabricIndex : UInt8 := 0

def Timestamp.field (timestamp : Timestamp) : EventField :=
  match timestamp.mType with
  | .system => .systemTimestamp timestamp.mValue
  | .epoch => .epochTimestamp timestamp.mValue

def LoggedEvent.constructEvent (event : LoggedEvent) : EventDataIB :=
  [.path event.mPath, .eventNumber event.mEventNumber, .priority event.mPriority,
    event.mTimestamp.field, .data event.eventData] ++
  if event.mFabricIndex = kUndefinedFabricIndex then [] else [.fabricIndex event.mFabricIndex]

/-- `EventEnvelopeContext`. `mFieldsToRead` has a bit for the path and one for the priority. -/
structure EventEnvelopeContext where
  hasPath : Bool := false
  hasPriority : Bool := false
  mCurrentTime : Timestamp := {}
  mPriority : UInt8 := 0
  mPath : ConcreteEventPath := {}
  mEventNumber : UInt64 := 0
  mFabricIndex : Option UInt8 := none

def EventEnvelopeContext.fetchEventParameters (envelope : EventEnvelopeContext) :
  EventField → EventEnvelopeContext
  | .path path => { envelope with mPath := path, hasPath := true }
  | .priority priority => { envelope with mPriority := priority, hasPriority := true }
  | .eventNumber number => { envelope with mEventNumber := number }
  | .systemTimestamp value => { envelope with mCurrentTime := ⟨.system, value⟩ }
  | .epochTimestamp value => { envelope with mCurrentTime := ⟨.epoch, value⟩ }
  | .fabricIndex fabricIndex => { envelope with mFabricIndex := some fabricIndex }
  | _ => envelope

/-- A `TLVWriter` for reports: what it has written, the fields of the report it is in, and the
bytes it has left. -/
structure EventWriter where
  reports : List EventDataIB := []
  fields : EventDataIB := []
  room : Nat

/-- What a fetch is given: the paths of interest, the subject's fabric and what access control
decides for the subject and the privilege that reading the event requires. -/
structure EventRequest where
  mpInterestedEventPaths : List EventPathParams
  fabricIndex : UInt8
  check : ConcreteEventPath → Except ChipError Unit

structure EventLoadOutContext where
  mWriter : EventWriter
  mStartingEventNumber : UInt64
  mPreviousTime : Timestamp := {}
  mCurrentTime : Timestamp := {}
  mCurrentEventNumber : UInt64 := 0
  mEventCount : Nat := 0
  mFirst : Bool := true

abbrev FetchM := Proc ChipError EventLoadOutContext

/-- The bytes that fields take, and those of the two structures around the fields. -/
structure EventSizes where
  field : EventField → Nat
  framing : Nat

variable (sizes : EventSizes) (request : EventRequest)

/-- The writer of the context after it has taken this many bytes of room. -/
def useRoom (bytes : Nat) (f : EventWriter → EventWriter) : FetchM Unit := do
  let ctx ← Proc.read
  Proc.verify (bytes ≤ ctx.mWriter.room) .noMemory
  Proc.modify fun ctx =>
    { ctx with mWriter := f { ctx.mWriter with room := ctx.mWriter.room - bytes } }

/-- `Put` or `CopyElement` of a field. -/
def putField (field : EventField) : FetchM Unit :=
  useRoom (sizes.field field) fun writer => { writer with fields := writer.fields ++ [field] }

def copyAndAdjustDeltaTime (field : EventField) : FetchM Unit := do
  let ctx ← Proc.read
  match field with
  | .fabricIndex _ => pure ()
  | .systemTimestamp value =>
    if !ctx.mFirst && ctx.mCurrentTime.mType = ctx.mPreviousTime.mType then
      putField sizes (.deltaSystemTimestamp (ctx.mCurrentTime.mValue - ctx.mPreviousTime.mValue))
    else putField sizes (.systemTimestamp value)
  | .epochTimestamp value =>
    if !ctx.mFirst && ctx.mCurrentTime.mType = ctx.mPreviousTime.mType then
      putField sizes (.deltaEpochTimestamp (ctx.mCurrentTime.mValue - ctx.mPreviousTime.mValue))
    else putField sizes (.epochTimestamp value)
  | field => putField sizes field

/-- `TLV::Utilities::Iterate` over the fields of an event. -/
def copyFields : EventDataIB → FetchM Unit
  | [] => pure ()
  | field :: rest => do
    copyAndAdjustDeltaTime sizes field
    copyFields rest

def copyEvent (event : EventDataIB) : FetchM Unit := do
  useRoom sizes.framing fun writer => { writer with fields := [] }
  copyFields sizes event
  Proc.modify fun ctx =>
    { ctx with mWriter := { ctx.mWriter with reports := ctx.mWriter.reports ++ [ctx.mWriter.fields] } }

def checkEventContext (ctx : EventLoadOutContext) (event : EventEnvelopeContext) :
  Except ChipError Unit :=
  if ctx.mCurrentEventNumber < ctx.mStartingEventNumber then .error .unexpectedEvent
  else if event.mFabricIndex.any fun fabricIndex =>
      fabricIndex = kUndefinedFabricIndex || request.fabricIndex ≠ fabricIndex then
    .error .unexpectedEvent
  else if !request.mpInterestedEventPaths.any (·.isEventPathSupersetOf event.mPath) then
    .error .unexpectedEvent
  else match request.check event.mPath with
    | .ok () => .ok ()
    | .error .accessDenied => .error .unexpectedEvent
    | .error e => .error e

/-- `EventIterator`. It reports an event that is to be copied with `CHIP_EVENT_ID_FOUND`. -/
def eventIterator (event : EventDataIB) : FetchM Unit := do
  let envelope := event.foldl EventEnvelopeContext.fetchEventParameters {}
  Proc.verify (envelope.hasPath ∧ envelope.hasPriority) .invalidArgument
  Proc.modify fun ctx =>
    { ctx with mCurrentTime := envelope.mCurrentTime, mCurrentEventNumber := envelope.mEventNumber }
  let ctx ← Proc.read
  match checkEventContext request ctx envelope with
  | .ok () => Proc.fail .eventIdFound
  | .error .unexpectedEvent => pure ()
  | .error e => Proc.fail e

/-- What `CopyEventsSince` notes of an event that it has copied. -/
def noteCopied : FetchM Unit :=
  Proc.modify fun ctx =>
    { ctx with
      mPreviousTime := { ctx.mPreviousTime with mValue := ctx.mCurrentTime.mValue }
      mFirst := false
      mEventCount := ctx.mEventCount + 1 }

def copyEventsSince (event : EventDataIB) : FetchM Unit := do
  match ← Proc.attempt (eventIterator request event) with
  | .error .eventIdFound => do
    let checkpoint ← Proc.read
    match ← Proc.attempt (copyEvent sizes event) with
    | .ok () => noteCopied
    | .error .endOfTLV => do
      noteCopied
      Proc.fail .endOfTLV
    | .error e => do
      Proc.modify fun ctx => { ctx with mWriter := checkpoint.mWriter }
      Proc.fail e
  | result => Proc.lift result

/-- `TLV::Utilities::Iterate` over the stored events. -/
def copyStored : List EventDataIB → FetchM Unit
  | [] => pure ()
  | event :: rest => do
    copyEventsSince sizes request event
    copyStored rest

/-- What a fetch leaves: its result, the event number that the next one starts from, the number
of events it has copied and the writer. -/
structure FetchResult where
  result : Except ChipError Unit
  aEventMin : UInt64
  aEventCount : Nat
  aWriter : EventWriter

/-- `FetchEventsSince` of the events in the log, the oldest first. -/
def fetchEventsSince (stored : List EventDataIB) (aWriter : EventWriter) (aEventMin : UInt64) :
  FetchResult :=
  match copyStored sizes request stored { mWriter := aWriter, mStartingEventNumber := aEventMin } with
  | (.error .bufferTooSmall, ctx) =>
    ⟨.error .bufferTooSmall, ctx.mCurrentEventNumber, ctx.mEventCount, ctx.mWriter⟩
  | (.error .noMemory, ctx) =>
    ⟨.error .noMemory, ctx.mCurrentEventNumber, ctx.mEventCount, ctx.mWriter⟩
  | (.error .endOfTLV, ctx) => ⟨.ok (), ctx.mCurrentEventNumber + 1, ctx.mEventCount, ctx.mWriter⟩
  | (result, ctx) => ⟨result, ctx.mCurrentEventNumber + 1, ctx.mEventCount, ctx.mWriter⟩

structure EventHeader where
  mPath : ConcreteEventPath := {}
  mEventNumber : UInt64 := 0
  mPriorityLevel : UInt8 := 0
  mTimestamp : Timestamp := {}
  deriving DecidableEq

/-- A getter of `EventDataIB::Parser`: the value of the first field of its kind. -/
def EventDataIB.getField {α : Type} (get : EventField → Option α) (event : EventDataIB) :
  Except ChipError α :=
  match event.findSome? get with
  | some value => .ok value
  | none => .error .endOfTLV

namespace EventDataIB

def getPath : EventDataIB → Except ChipError ConcreteEventPath :=
  getField fun | .path value => some value | _ => none

def getEventNumber : EventDataIB → Except ChipError UInt64 :=
  getField fun | .eventNumber value => some value | _ => none

def getPriority : EventDataIB → Except ChipError UInt8 :=
  getField fun | .priority value => some value | _ => none

def getDeltaSystemTimestamp : EventDataIB → Except ChipError UInt64 :=
  getField fun | .deltaSystemTimestamp value => some value | _ => none

def getDeltaEpochTimestamp : EventDataIB → Except ChipError UInt64 :=
  getField fun | .deltaEpochTimestamp value => some value | _ => none

def getSystemTimestamp : EventDataIB → Except ChipError UInt64 :=
  getField fun | .systemTimestamp value => some value | _ => none

def getEpochTimestamp : EventDataIB → Except ChipError UInt64 :=
  getField fun | .epochTimestamp value => some value | _ => none

def getData : EventDataIB → Except ChipError (List UInt8) :=
  getField fun | .data value => some value | _ => none

/-- One of the four parts of `ProcessEventTimestamp`: the timestamp after a field that may be
missing, and how many fields there were. -/
def processField (field : Except ChipError UInt64)
  (process : Timestamp → UInt64 → Except ChipError Timestamp) (state : Timestamp × Nat) :
  Except ChipError (Timestamp × Nat) :=
  match field with
  | .ok value => (process state.1 value).map (·, state.2 + 1)
  | .error .endOfTLV => .ok state
  | .error e => .error e

/-- What a delta of this type does: it is added to a timestamp of its type. -/
def addDelta (type : TimestampType) (timestamp : Timestamp) (value : UInt64) :
  Except ChipError Timestamp :=
  if timestamp.mType = type then .ok { timestamp with mValue := timestamp.mValue + value }
  else .error .imMalformedEventDataIB

/-- `ProcessEventTimestamp`, from the timestamp that the header has. -/
def processEventTimestamp (event : EventDataIB) (mTimestamp : Timestamp) :
  Except ChipError Timestamp := do
  let state ← processField event.getDeltaSystemTimestamp (addDelta .system) (mTimestamp, 0)
  let state ← processField event.getDeltaEpochTimestamp (addDelta .epoch) state
  let state ← processField event.getSystemTimestamp (fun _ value => .ok ⟨.system, value⟩) state
  let state ← processField event.getEpochTimestamp (fun _ value => .ok ⟨.epoch, value⟩) state
  if state.2 = 1 then .ok state.1 else .error .imMalformedEventDataIB

def decodeEventHeader (event : EventDataIB) (aEventHeader : EventHeader) :
  Except ChipError EventHeader := do
  let path ← event.getPath
  let number ← event.getEventNumber
  let priority ← event.getPriority
  let timestamp ← event.processEventTimestamp aEventHeader.mTimestamp
  .ok ⟨path, number, priority, timestamp⟩

end EventDataIB

/-- `ReadClient::ProcessEventReportIBs` on reports that hold events: what is given to
`OnEventData`, from the timestamp that the client has kept. -/
def processEventReportIBs (mEventTimestamp : Timestamp) :
  List EventDataIB → Except ChipError (List (EventHeader × List UInt8))
  | [] => .ok []
  | event :: rest => do
    let header ← event.decodeEventHeader { mTimestamp := mEventTimestamp }
    let data ← event.getData
    let others ← processEventReportIBs header.mTimestamp rest
    .ok ((header, data) :: others)

end Chip.App.EventManagement
