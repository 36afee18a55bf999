import Chip.Core.Error
import Chip.Data.Proc
import Mathlib.Logic.Function.Basic

/-! The binding table of `binding-table.cpp`: a singly linked list over a fixed array of
slots, kept in memory and, record by record, in persistent storage. Writes to storage
may fail, and then leave their key as it was. -/
namespace Chip.App

inductive EmberBindingType where
  | unused
  | unicast
  | multicast
  deriving DecidableEq

structure EmberBindingTableEntry where
  type : EmberBindingType
  fabricIndex : UInt8
  localEndpoint : UInt16
  clusterId : Option UInt32
  remote : UInt16
  /-- The union of `nodeId` and `groupId`. -/
  identifier : UInt64

def EmberBindingTableEntry.groupId (entry : EmberBindingTableEntry) : UInt16 :=
  entry.identifier.toUInt16

def EmberBindingTableEntry.cleared : EmberBindingTableEntry := ⟨.unused, 0, 0, none, 0, 0⟩

inductive BindingTarget where
  | unicast (remote : UInt16) (nodeId : UInt64)
  | multicast (groupId : UInt16)

/-- The fields of an entry that are stored. They are the ones its `operator==`
compares. -/
structure Binding where
  fabricIndex : UInt8
  localEndpoint : UInt16
  clusterId : Option UInt32
  target : BindingTarget

def EmberBindingTableEntry.binding (entry : EmberBindingTableEntry) : Binding where
  fabricIndex := entry.fabricIndex
  localEndpoint := entry.localEndpoint
  clusterId := entry.clusterId
  target := if entry.type = .unicast then .unicast entry.remote entry.identifier
    else .multicast entry.groupId

/-- The entry that `LoadEntryFromStorage` builds. -/
def Binding.entry (binding : Binding) : EmberBindingTableEntry :=
  match binding.target with
  | .unicast remote nodeId =>
    ⟨.unicast, binding.fabricIndex, binding.localEndpoint, binding.clusterId, remote, nodeId⟩
  | .multicast groupId =>
    ⟨.multicast, binding.fabricIndex, binding.localEndpoint, binding.clusterId, 0,
      groupId.toUInt64⟩

/-- `kNextNullIndex`. -/
def nextNullIndex : Nat := 255

structure BindingTable where
  mBindingTable : Nat → EmberBindingTableEntry
  mNextIndex : Nat → Nat
  mHead : Nat
  mTail : Nat
  mSize : Nat

def BindingTable.fresh : BindingTable where
  mBindingTable _ := .cleared
  mNextIndex _ := nextNullIndex
  mHead := nextNullIndex
  mTail := nextNullIndex
  mSize := 0

/-- The stored list: the head under the key of the table, and under the key of each
slot its binding and the index of the next one. -/
structure BindingStorage where
  listInfo : Option Nat
  entries : Nat → Option (Binding × Nat)

def BindingStorage.empty : BindingStorage := ⟨none, fun _ => none⟩

def BindingStorage.setEntry (s : BindingStorage) (index : Nat) (value : Option (Binding × Nat)) :
  BindingStorage :=
  { s with entries := Function.update s.entries index value }

structure BindingIterator where
  mPrevIndex : Nat
  mIndex : Nat

/-- The table, its storage, the one iterator in use, and which of the coming storage
operations succeed. Past the end of that list they all do. -/
structure BindingWorld where
  table : BindingTable
  storage : BindingStorage
  iter : BindingIterator
  outcomes : List Bool

abbrev BindingM := Proc ChipError BindingWorld

/-- One storage operation, which changes the storage if it succeeds. -/
def syncStorage (f : BindingStorage → BindingStorage) : BindingM Unit := fun w =>
  if w.outcomes.headD true then
    (.ok (), { w with storage := f w.storage, outcomes := w.outcomes.tail })
  else (.error .persistedStorageFailed, { w with outcomes := w.outcomes.tail })

def modifyTable (f : BindingTable → BindingTable) : BindingM Unit :=
  Proc.modify fun w => { w with table := f w.table }

def saveEntryToStorage (index nextIndex : Nat) : BindingM Unit := do
  let w ← Proc.read
  let binding := (w.table.mBindingTable index).binding
  syncStorage fun s => s.setEntry index (some (binding, nextIndex))

def saveListInfo (head : Nat) : BindingM Unit :=
  syncStorage fun s => { s with listInfo := some head }

def deleteEntryFromStorage (index : Nat) : BindingM Unit :=
  syncStorage fun s => s.setEntry index none

-- `EMBER_BINDING_TABLE_SIZE`, which the build chooses
variable (tableSize : Nat)

/-- `GetNextAvaiableIndex`. -/
def BindingTable.getNextAvailableIndex (t : BindingTable) : Option Nat :=
  (List.range tableSize).find? fun i => (t.mBindingTable i).type = .unused

def BindingTable.setEntry (t : BindingTable) (index : Nat) (entry : EmberBindingTableEntry) :
  BindingTable :=
  { t with mBindingTable := Function.update t.mBindingTable index entry }

def BindingTable.setUnused (t : BindingTable) (index : Nat) : BindingTable :=
  t.setEntry index { t.mBindingTable index with type := .unused }

def BindingTable.setNext (t : BindingTable) (index nextIndex : Nat) : BindingTable :=
  { t with mNextIndex := Function.update t.mNextIndex index nextIndex }

/-- The storage operations of `Add`, with the roll back of the first one. -/
def saveNewEntry (newIndex : Nat) : BindingM Unit := do
  saveEntryToStorage newIndex nextNullIndex
  let w ← Proc.read
  match ← Proc.attempt (if w.table.mTail = nextNullIndex then saveListInfo newIndex
      else saveEntryToStorage w.table.mTail newIndex) with
  | .ok () => pure ()
  | .error e => do
      let _ ← Proc.attempt (deleteEntryFromStorage newIndex)
      Proc.fail e

/-- The end of `Add`, once everything is stored. -/
def BindingTable.append (t : BindingTable) (newIndex : Nat) : BindingTable :=
  if t.mTail = nextNullIndex then
    { t with mTail := newIndex, mHead := newIndex, mSize := t.mSize + 1 }
  else
    { (t.setNext t.mTail newIndex).setNext newIndex nextNullIndex with
      mTail := newIndex, mSize := t.mSize + 1 }

def BindingTable.add (entry : EmberBindingTableEntry) : BindingM Unit := do
  Proc.verify (entry.type ≠ .unused) .invalidArgument
  let w ← Proc.read
  match w.table.getNextAvailableIndex tableSize with
  | none => Proc.fail .noMemory
  | some newIndex => do
      modifyTable fun t => t.setEntry newIndex entry
      match ← Proc.attempt (saveNewEntry newIndex) with
      | .error e => do
          modifyTable fun t => t.setUnused newIndex
          Proc.fail e
      | .ok () => modifyTable fun t => t.append newIndex

/-- The change of the link to an entry that is removed, first stored and then made. -/
def unlink (iter : BindingIterator) (next : Nat) : BindingM Unit := do
  let w ← Proc.read
  if iter.mIndex ≠ w.table.mHead then do
    saveEntryToStorage iter.mPrevIndex next
    modifyTable fun t => t.setNext iter.mPrevIndex next
  else do
    saveListInfo next
    modifyTable fun t => { t with mHead := next }

/-- `RemoveAt`. The tail is moved before anything is stored, and the iterator moves on
whether or not the entry was removed. -/
def BindingTable.removeAt : BindingM Unit := do
  let w ← Proc.read
  let iter := w.iter
  Proc.verify (iter.mIndex ≠ nextNullIndex) .invalidArgument
  if iter.mIndex = w.table.mTail then modifyTable fun t => { t with mTail := iter.mPrevIndex }
  let next := w.table.mNextIndex iter.mIndex
  let result ← Proc.attempt (unlink iter next)
  match result with
  | .ok () => do
      let _ ← Proc.attempt (deleteEntryFromStorage iter.mIndex)
      modifyTable fun t =>
        { (t.setUnused iter.mIndex).setNext iter.mIndex nextNullIndex with mSize := t.mSize - 1 }
  | .error _ => pure ()
  Proc.modify fun w => { w with iter := { w.iter with mIndex := next } }
  Proc.lift result

def BindingTable.begin : BindingM Unit :=
  Proc.modify fun w => { w with iter := ⟨nextNullIndex, w.table.mHead⟩ }

/-- `Iterator::operator++`. -/
def BindingIterator.next : BindingM Unit :=
  Proc.modify fun w =>
    if w.iter.mIndex ≠ nextNullIndex then
      { w with iter := ⟨w.iter.mIndex, w.table.mNextIndex w.iter.mIndex⟩ }
    else w

/-- `LoadEntryFromStorage` into a table, with the index that follows. -/
def BindingTable.loadEntryFromStorage (t : BindingTable) (s : BindingStorage) (index : Nat) :
  Except ChipError (BindingTable × Nat) :=
  match s.entries index with
  | none => .error .persistedStorageValueNotFound
  | some (binding, nextIndex) =>
    .ok ((t.setEntry index binding.entry).setNext index nextIndex, nextIndex)

/-- The loop of `LoadFromStorage`. A list of more slots than there are would make the
source go round forever; the fuel stops it here. -/
def BindingTable.loadLoop (s : BindingStorage) :
  Nat → BindingTable → Nat → Except ChipError Unit × BindingTable
  | 0, t, _ => (.error .internal, t)
  | fuel + 1, t, index =>
    if index = nextNullIndex then (.ok (), t)
    else
      match t.loadEntryFromStorage s index with
      | .error e => (.error e, { t with mHead := nextNullIndex, mTail := nextNullIndex })
      | .ok (t', nextIndex) =>
        loadLoop s fuel { t' with mTail := index, mSize := t'.mSize + 1 } nextIndex

/-- `LoadFromStorage` into a fresh table. -/
def BindingTable.loadFromStorage (s : BindingStorage) : Except ChipError Unit × BindingTable :=
  match s.listInfo with
  | none => (.error .persistedStorageValueNotFound, .fresh)
  | some head => loadLoop s (tableSize + 1) { BindingTable.fresh with mHead := head } head

end Chip.App
