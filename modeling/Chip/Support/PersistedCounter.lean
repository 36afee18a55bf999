import Chip.Core.Error
import Chip.Data.Faults

/-! `PersistedCounter<T>` of `PersistedCounter.h`, for a type of `w` bits. The record holds
the value that the counter starts from after the next boot. -/
namespace Chip.Support

structure PersistedCounter (w : Nat) where
  /-- Whether `mStorage` and `mKey` are set. -/
  mStorage : Bool
  mEpoch : BitVec w
  mNextEpoch : BitVec w
  mCounterValue : BitVec w

/-- A device with its record, and whether the `Init` of this boot has succeeded. -/
structure CounterDevice (w : Nat) where
  stored : Option (BitVec w)
  counter : PersistedCounter w
  ready : Bool

variable {w : Nat}

def PersistedCounter.fresh : PersistedCounter w := ⟨false, 0, 0, 0⟩

abbrev CounterM (w : Nat) := Proc (Stop ChipError) (CounterDevice w)

namespace CounterDevice

def setCounter (st : CounterDevice w) (f : PersistedCounter w → PersistedCounter w) :
  CounterDevice w :=
  { st with counter := f st.counter }

def persistNextEpochStart (fate : WriteFate) (aStartValue : BitVec w) : CounterM w Unit := do
  Proc.modify fun st => st.setCounter fun c => { c with mNextEpoch := aStartValue }
  fate.perform .persistedStorageFailed fun st => { st with stored := some aStartValue }

/-- `ReadStartValue`, where the read may fail. Without a record the counter starts from 0. -/
def readStartValue (readFails : Bool) : CounterM w (BitVec w) := do
  Proc.verify (readFails = false) (.error .persistedStorageFailed)
  let st ← Proc.read
  pure (st.stored.getD 0)

def init (aEpoch : BitVec w) (readFails : Bool) (fate : WriteFate) : CounterM w Unit := do
  Proc.verify (0 < aEpoch) (.error .invalidIntegerValue)
  Proc.modify fun st => st.setCounter fun c => { c with mStorage := true, mEpoch := aEpoch }
  let startValue ← readStartValue readFails
  persistNextEpochStart fate (startValue + aEpoch)
  Proc.modify fun st => st.setCounter fun c => { c with mCounterValue := startValue }

def advance (fate : WriteFate) : CounterM w Unit := do
  let st ← Proc.read
  Proc.verify (st.counter.mStorage = true) (.error .incorrectState)
  Proc.modify fun st => st.setCounter fun c => { c with mCounterValue := c.mCounterValue + 1 }
  let st ← Proc.read
  if st.counter.mNextEpoch ≤ st.counter.mCounterValue then do
    persistNextEpochStart fate (st.counter.mNextEpoch + st.counter.mEpoch)
    let st ← Proc.read
    Proc.verify (st.counter.mCounterValue < st.counter.mNextEpoch) (.error .internal)
  else pure ()

def getValue (st : CounterDevice w) : BitVec w := st.counter.mCounterValue

end CounterDevice

inductive CounterOp (w : Nat) where
  | boot (aEpoch : BitVec w) (readFails : Bool) (fate : WriteFate)
  | advance (fate : WriteFate)
  | getValue

/-- The device after an `Init` with this result. -/
def CounterDevice.booted (result : Except (Stop ChipError) Unit × CounterDevice w) : CounterDevice w :=
  { result.2 with ready := result.1.isOk }

/-- The device after a call with this result, which is gone when the power is. -/
def CounterDevice.returned (result : Except (Stop ChipError) Unit × CounterDevice w) :
  CounterDevice w :=
  match result.1 with
  | .error .powerLoss => { result.2 with ready := false }
  | _ => result.2

namespace CounterOp

/-- One step of a run. A boot starts with a new counter in memory. -/
def step : CounterOp w → CounterDevice w → CounterDevice w
  | boot aEpoch readFails fate, st =>
    .booted (CounterDevice.init aEpoch readFails fate { st with counter := .fresh })
  | advance fate, st => .returned (CounterDevice.advance fate st)
  | getValue, st => st

def shows : CounterOp w → CounterDevice w → Option (BitVec w)
  | getValue, st => some st.getValue
  | _, _ => none

end CounterOp

def counterRun : List (CounterOp w) → CounterDevice w → CounterDevice w
  | [], st => st
  | op :: ops, st => counterRun ops (op.step st)

def counterValues : List (CounterOp w) → CounterDevice w → List (BitVec w)
  | [], _ => []
  | op :: ops, st => (op.shows st).toList ++ counterValues ops (op.step st)

def CounterDevice.new : CounterDevice w := ⟨none, .fresh, false⟩

end Chip.Support
