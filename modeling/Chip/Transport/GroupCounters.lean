import Chip.Core.Error
import Chip.Data.Faults

/-! The counters of outgoing group messages (`GroupOutgoingCounters` of
`GroupPeerMessageCounter.cpp`) with their records, and how `PrepareMessage` uses them. -/
namespace Chip.Transport

/-- `GROUP_MSG_COUNTER_MIN_INCREMENT`. -/
def groupMsgCounterMinIncrement : UInt32 := 1000

/-- `kMessageCounterRandomInitMask`. -/
def messageCounterRandomInitMask : UInt32 := 0x0FFFFFFF

structure GroupOutgoingCounters where
  mGroupControlCounter : UInt32
  mGroupDataCounter : UInt32
  /-- Whether `mStorage` is set. -/
  mStorage : Bool

/-- A device with the records of both counters, and whether the `Init` of this boot has
succeeded. -/
structure GroupCounterDevice where
  groupControlCounter : Option UInt32
  groupDataCounter : Option UInt32
  counters : GroupOutgoingCounters
  ready : Bool

abbrev GroupCounterM := Proc (Stop ChipError) GroupCounterDevice

namespace GroupCounterDevice

def stored (st : GroupCounterDevice) (isControl : Bool) : Option UInt32 :=
  if isControl then st.groupControlCounter else st.groupDataCounter

def setStored (isControl : Bool) (value : UInt32) (st : GroupCounterDevice) : GroupCounterDevice :=
  if isControl then { st with groupControlCounter := some value }
  else { st with groupDataCounter := some value }

def getCounter (st : GroupCounterDevice) (isControl : Bool) : UInt32 :=
  if isControl then st.counters.mGroupControlCounter else st.counters.mGroupDataCounter

def setCounter (isControl : Bool) (value : UInt32) (st : GroupCounterDevice) : GroupCounterDevice :=
  if isControl then { st with counters := { st.counters with mGroupControlCounter := value } }
  else { st with counters := { st.counters with mGroupDataCounter := value } }

/-- `SyncGetKeyValue`, where the read may fail. -/
def syncGetKeyValue (isControl : Bool) (readFails : Bool) : GroupCounterM (Option UInt32) := do
  Proc.verify (readFails = false) (.error .persistedStorageFailed)
  let st ← Proc.read
  pure (st.stored isControl)

def syncSetKeyValue (isControl : Bool) (fate : WriteFate) (value : UInt32) : GroupCounterM Unit :=
  fate.perform .persistedStorageFailed (setStored isControl value)

/-- What `Init` does first for each counter: it continues from the record, or from a random
value when there is none. -/
def loadCounter (isControl : Bool) (readFails : Bool) (randU32 : UInt32) : GroupCounterM Unit := do
  match ← syncGetKeyValue isControl readFails with
  | none => Proc.modify (setCounter isControl ((randU32 &&& messageCounterRandomInitMask) + 1))
  | some temp => Proc.modify (setCounter isControl temp)

/-- What `Init` does then for each counter. -/
def persistCounter (isControl : Bool) (fate : WriteFate) : GroupCounterM Unit := do
  let st ← Proc.read
  syncSetKeyValue isControl fate (st.getCounter isControl + groupMsgCounterMinIncrement)

/-- The fates of the storage accesses of `Init`, and the random values it draws. -/
structure InitFates where
  controlReadFails : Bool
  dataReadFails : Bool
  controlWrite : WriteFate
  dataWrite : WriteFate
  controlRandom : UInt32
  dataRandom : UInt32

def init (fates : InitFates) : GroupCounterM Unit := do
  Proc.modify fun st => { st with counters := { st.counters with mStorage := true } }
  loadCounter true fates.controlReadFails fates.controlRandom
  loadCounter false fates.dataReadFails fates.dataRandom
  persistCounter true fates.controlWrite
  persistCounter false fates.dataWrite

def incrementCounter (isControl : Bool) (readFails : Bool) (fate : WriteFate) : GroupCounterM Unit := do
  Proc.modify fun st => setCounter isControl (st.getCounter isControl + 1) st
  let st ← Proc.read
  let value := st.getCounter isControl
  Proc.verify (st.counters.mStorage = true) (.error .persistedStorageValueNotFound)
  match ← syncGetKeyValue isControl readFails with
  | none => Proc.fail (.error .persistedStorageValueNotFound)
  | some temp =>
    if temp = value then syncSetKeyValue isControl fate (value + groupMsgCounterMinIncrement)
    else pure ()

/-- A device whose counters are as their constructor leaves them. -/
def new : GroupCounterDevice := ⟨none, none, ⟨0, 0, false⟩, false⟩

/-- The device after an `Init` with this result. -/
def booted (result : Except (Stop ChipError) Unit × GroupCounterDevice) : GroupCounterDevice :=
  { result.2 with ready := result.1.isOk }

/-- The device after a call with this result, which is gone when the power is. -/
def returned (result : Except (Stop ChipError) Unit × GroupCounterDevice) : GroupCounterDevice :=
  match result.1 with
  | .error .powerLoss => { result.2 with ready := false }
  | _ => result.2

end GroupCounterDevice

open GroupCounterDevice

inductive GroupCounterOp where
  | boot (fates : InitFates)
  | send (isControl : Bool) (readFails : Bool) (fate : WriteFate)

namespace GroupCounterOp

/-- One step of a run. A boot starts with new counters in memory. The error of
`IncrementCounter` is not looked at. -/
def step : GroupCounterOp → GroupCounterDevice → GroupCounterDevice
  | boot fates, st => booted (init fates { st with counters := ⟨0, 0, false⟩ })
  | send isControl readFails fate, st => returned (incrementCounter isControl readFails fate st)

/-- The counter that a message is sent with, unless the power is lost before. -/
def uses : GroupCounterOp → GroupCounterDevice → Option (Bool × UInt32)
  | boot _, _ => none
  | send isControl readFails fate, st =>
    match (incrementCounter isControl readFails fate st).1 with
    | .error .powerLoss => none
    | _ => some (isControl, st.getCounter isControl)

end GroupCounterOp

def usedCounters : List GroupCounterOp → GroupCounterDevice → List (Bool × UInt32)
  | [], _ => []
  | op :: ops, st => (op.uses st).toList ++ usedCounters ops (op.step st)

/-- The values that the records of a run set aside: a record that changes sets aside as many
as the increment says. Every value that is sent or skipped has been set aside. -/
def setAside (isControl : Bool) : List GroupCounterOp → GroupCounterDevice → Nat
  | [], _ => 0
  | op :: ops, st =>
    (if (op.step st).stored isControl = st.stored isControl then 0
      else groupMsgCounterMinIncrement.toNat) + setAside isControl ops (op.step st)

end Chip.Transport
