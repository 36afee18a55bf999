import Chip.Access.Entry
import Chip.Data.OwnedPool
import Chip.Data.Proc

/-! The example access control delegate. Entries are kept in one array of slots for all
fabrics. An `Entry` object refers to a slot, or to a copy of its own in a pool, through a
delegate from another pool; an `EntryIterator` object has a delegate that refers to the
slot it returned last. The build chooses the sizes of all arrays. -/
namespace Chip.Access

/-- The setters of `EntryDelegate`, which change a copy of the entry. -/
inductive EntryEdit where
  | setAuthMode (authMode : AuthMode)
  | setFabricIndex (fabricIndex : UInt8)
  | setPrivilege (privilege : Privilege)
  | setSubject (index : Nat) (subject : NodeId)
  | addSubject (subject : NodeId)
  | removeSubject (index : Nat)
  | setTarget (index : Nat) (target : Target)
  | addTarget (target : Target)
  | removeTarget (index : Nat)

/-- The `memmove` of `RemoveSubject` and `RemoveTarget`: the elements after the removed one
move down, with the empty one that follows them. When all elements were in use there is no
such one, and the last is cleared. -/
def removeShift {α : Type} (elements : List α) (count index : Nat) (empty : α) : List α :=
  let n := min count (elements.length - 1) - index
  let moved := elements.take index ++ (elements.drop (index + 1)).take n ++ elements.drop (index + n)
  if count = elements.length then moved.set (elements.length - 1) empty else moved

namespace EntryStorage

def setSubject (storage : EntryStorage) (index : Nat) (subject : NodeId) :
  Except ChipError EntryStorage :=
  match storage.mSubjects[index]? with
  | none => .error .sentinel
  | some old =>
    if old ≠ undefinedNodeId then
      if subject ≠ undefinedNodeId then
        .ok { storage with mSubjects := storage.mSubjects.set index subject }
      else .error .invalidArgument
    else .error .sentinel

def addSubject (storage : EntryStorage) (subject : NodeId) : Except ChipError EntryStorage :=
  if storage.subjects.length < storage.mSubjects.length then
    if subject ≠ undefinedNodeId then
      .ok { storage with mSubjects := storage.mSubjects.set storage.subjects.length subject }
    else .error .invalidArgument
  else .error .bufferTooSmall

def removeSubject (storage : EntryStorage) (index : Nat) : Except ChipError EntryStorage :=
  if index < storage.subjects.length then
    .ok { storage with
      mSubjects := removeShift storage.mSubjects storage.subjects.length index undefinedNodeId }
  else .error .sentinel

def setTarget (storage : EntryStorage) (index : Nat) (target : Target) :
  Except ChipError EntryStorage :=
  match storage.mTargets[index]? with
  | none => .error .sentinel
  | some old =>
    if !old.isEmpty then
      if TargetStorage.isValid target then
        .ok { storage with mTargets := storage.mTargets.set index (.encode target) }
      else .error .invalidArgument
    else .error .sentinel

def addTarget (storage : EntryStorage) (target : Target) : Except ChipError EntryStorage :=
  if storage.targets.length < storage.mTargets.length then
    if TargetStorage.isValid target then
      .ok { storage with mTargets := storage.mTargets.set storage.targets.length (.encode target) }
    else .error .invalidArgument
  else .error .bufferTooSmall

def removeTarget (storage : EntryStorage) (index : Nat) : Except ChipError EntryStorage :=
  if index < storage.targets.length then
    .ok { storage with
      mTargets := removeShift storage.mTargets storage.targets.length index .cleared }
  else .error .sentinel

def edit (storage : EntryStorage) : EntryEdit → Except ChipError EntryStorage
  | .setAuthMode authMode => .ok { storage with mAuthMode := authMode }
  | .setFabricIndex fabricIndex => .ok { storage with mFabricIndex := fabricIndex }
  | .setPrivilege privilege => .ok { storage with mPrivilege := privilege }
  | .setSubject index subject => storage.setSubject index subject
  | .addSubject subject => storage.addSubject subject
  | .removeSubject index => storage.removeSubject index
  | .setTarget index target => storage.setTarget index target
  | .addTarget target => storage.addTarget target
  | .removeTarget index => storage.removeTarget index

end EntryStorage

/-- An `EntryStorage *`. -/
inductive StorageRef where
  | acl (index : Nat)
  | pool (index : Nat)
  deriving DecidableEq

/-- An iterator delegate. Before the first call of `Next` its storage is null; the length
of the list is one past the end. -/
structure EntryIteratorDelegate where
  mFabricIndex : Option UInt8
  mStorage : Option Nat
  deriving DecidableEq

/-- The access control list and the pools. An entry delegate in use belongs to one `Entry`
object and has a storage, an iterator delegate in use belongs to one `EntryIterator`
object; an object that owns no element of a pool has the default delegate. -/
structure AclStore where
  maxSubjects : Nat
  maxTargets : Nat
  maxEntriesPerFabric : Nat
  acl : List EntryStorage
  pool : List EntryStorage
  delegates : OwnedPool StorageRef
  iterators : OwnedPool EntryIteratorDelegate

abbrev AclM := Proc ChipError AclStore

namespace AclStore

/-- The storage that `Clear` leaves. -/
def blank (st : AclStore) : EntryStorage := .cleared st.maxSubjects st.maxTargets

def storageAt (st : AclStore) : StorageRef → EntryStorage
  | .acl index => st.acl.getD index st.blank
  | .pool index => st.pool.getD index st.blank

def setStorage (st : AclStore) (storage : EntryStorage) : StorageRef → AclStore
  | .acl index => { st with acl := st.acl.set index storage }
  | .pool index => { st with pool := st.pool.set index storage }

/-- `EntryStorage::Find`, without a candidate. -/
def findInPool (pool : List EntryStorage) : Option Nat :=
  pool.findIdx? fun storage => !storage.mInUse

/-- `Release` of the delegate of an `Entry` object: the delegate is free again, and so is
its copy in the pool. -/
def release (st : AclStore) (entry : Nat) : AclStore :=
  match st.delegates.lookup entry with
  | some (.pool index) =>
    { st with
      delegates := st.delegates.free entry
      pool := st.pool.modify index fun storage => { storage with mInUse := false } }
  | some (.acl _) => { st with delegates := st.delegates.free entry }
  | none => st

/-- `EntryStorage::Init`. -/
def initStorage (st : AclStore) (ref : StorageRef) : AclStore :=
  if (st.storageAt ref).mInUse then st else st.setStorage { st.blank with mInUse := true } ref

/-- `EntryDelegate::Find` for an `Entry` object, then `Init` with a storage. Setting the
delegate of the object releases the one it had. -/
def initEntry (st : AclStore) (entry : Nat) (ref : StorageRef) : Option AclStore :=
  (st.delegates.claim entry ref).map fun delegates =>
    { (st.release entry).initStorage ref with delegates := delegates }

def findUnusedInAcl (st : AclStore) : Option Nat :=
  st.acl.findIdx? fun storage => !storage.mInUse

/-- `ConvertIndex` from a relative index: the loop over the slots, at an absolute index and
the relative one it has reached. -/
def relativeToAbsolute (fabricIndex : UInt8) (index : Nat) :
  List EntryStorage → Nat → Nat → Option Nat
  | [], _, _ => none
  | storage :: rest, absoluteIndex, relativeIndex =>
    if !storage.mInUse then none
    else if storage.mFabricIndex = fabricIndex then
      if index = relativeIndex then some absoluteIndex
      else relativeToAbsolute fabricIndex index rest (absoluteIndex + 1) (relativeIndex + 1)
    else relativeToAbsolute fabricIndex index rest (absoluteIndex + 1) relativeIndex

/-- `ConvertIndex` from an absolute index. -/
def absoluteToRelative (fabricIndex : UInt8) (index : Nat) :
  List EntryStorage → Nat → Nat → Option Nat
  | [], _, _ => none
  | storage :: rest, absoluteIndex, relativeIndex =>
    if !storage.mInUse then none
    else if storage.mFabricIndex = fabricIndex then
      if index = absoluteIndex then some relativeIndex
      else absoluteToRelative fabricIndex index rest (absoluteIndex + 1) (relativeIndex + 1)
    else absoluteToRelative fabricIndex index rest (absoluteIndex + 1) relativeIndex

/-- `FindUsedInAcl`, for an index that is relative to a fabric, or absolute. -/
def findUsedInAcl (st : AclStore) (fabricIndex : Option UInt8) (index : Nat) : Option Nat :=
  let absolute := match fabricIndex with
    | some f => relativeToAbsolute f index st.acl 0 0
    | none => some index
  absolute.filter fun slot => slot < st.acl.length && (st.storageAt (.acl slot)).mInUse

/-- `GetEntryCount` of a fabric, over slots that may be followed by unused ones. -/
def entryCount (fabricIndex : UInt8) (acl : List EntryStorage) : Nat :=
  (acl.takeWhile EntryStorage.mInUse).countP fun storage => storage.mFabricIndex = fabricIndex

/-- The result of a call that needs a free element of a pool. -/
def orTooSmall : Option AclStore → AclM Unit
  | none => Proc.fail .bufferTooSmall
  | some st => Proc.modify fun _ => st

def prepareEntry (entry : Nat) : AclM Unit := do
  let st ← Proc.read
  let candidate := match st.delegates.lookup entry with
    | some (.pool index) => some index
    | _ => findInPool st.pool
  orTooSmall (candidate.bind fun index => st.initEntry entry (.pool index))

/-- `EnsureStorageInPool`: an entry that refers to a slot of the list gets a copy of its own
before it is changed. -/
def ensureStorageInPool (entry : Nat) : AclM Unit := do
  let st ← Proc.read
  match st.delegates.lookup entry with
  | some (.acl slot) =>
    orTooSmall ((findInPool st.pool).map fun index =>
      { st with
        pool := st.pool.set index (st.storageAt (.acl slot))
        delegates := st.delegates.replace entry (.pool index) })
  | _ => pure ()

/-- What a setter does to the storage of its delegate. The default delegate implements no
setter. -/
def editStorage (entry : Nat) (change : EntryEdit) : AclM Unit := do
  let st ← Proc.read
  match st.delegates.lookup entry with
  | none => Proc.fail .notImplemented
  | some ref => do
      let storage ← Proc.lift ((st.storageAt ref).edit change)
      Proc.modify fun st => st.setStorage storage ref

/-- A setter of an `Entry` object. -/
def editEntry (entry : Nat) (change : EntryEdit) : AclM Unit := do
  ensureStorageInPool entry
  editStorage entry change

/-- The destructor of an `Entry` object. -/
def releaseEntry (entry : Nat) : AclM Unit := Proc.modify fun st => st.release entry

/-- The value of an `Entry` object that has passed `AccessControl::IsValid`. The getters of
the default delegate fail, so it does not pass. -/
def validValue (entry : Nat) : AclM EntryStorage := do
  let st ← Proc.read
  match st.delegates.lookup entry with
  | none => Proc.fail .invalidArgument
  | some ref => do
      Proc.verify (st.storageAt ref).isValid .invalidArgument
      pure (st.storageAt ref)

/-- `AccessControl::CreateEntry`, with that of the delegate. The overload for a fabric
limits the number of its entries, the other does not. -/
def createEntry (fabricIndex : Option UInt8) (entry : Nat) : AclM Unit := do
  let st ← Proc.read
  Proc.verify (fabricIndex.all fun f => entryCount f st.acl + 1 ≤ st.maxEntriesPerFabric)
    .bufferTooSmall
  let storage ← validValue entry
  match st.findUnusedInAcl with
  | none => Proc.fail .bufferTooSmall
  | some slot => Proc.modify fun st => st.setStorage storage (.acl slot)

def readEntry (fabricIndex : Option UInt8) (index entry : Nat) : AclM Unit := do
  let st ← Proc.read
  match st.findUsedInAcl fabricIndex index with
  | none => Proc.fail .sentinel
  | some slot => orTooSmall (st.initEntry entry (.acl slot))

def updateEntry (fabricIndex : Option UInt8) (index entry : Nat) : AclM Unit := do
  let storage ← validValue entry
  let st ← Proc.read
  match st.findUsedInAcl fabricIndex index with
  | none => Proc.fail .sentinel
  | some slot => Proc.modify fun st => st.setStorage storage (.acl slot)

/-- `FixBeforeDelete` of each delegate in turn: one that refers to the slot gets a copy in
the pool, as long as there is room. -/
def fixBeforeDelete (slot : Nat) (storage : EntryStorage) :
  OwnedPool StorageRef → List EntryStorage → OwnedPool StorageRef × List EntryStorage
  | [], pool => ([], pool)
  | some (entry, ref) :: rest, pool =>
    match findInPool pool with
    | some index =>
      if ref = .acl slot then
        let fixed := fixBeforeDelete slot storage rest (pool.set index storage)
        (some (entry, .pool index) :: fixed.1, fixed.2)
      else
        let fixed := fixBeforeDelete slot storage rest pool
        (some (entry, ref) :: fixed.1, fixed.2)
    | none => (some (entry, ref) :: rest, pool)
  | none :: rest, pool =>
    let fixed := fixBeforeDelete slot storage rest pool
    (none :: fixed.1, fixed.2)

/-- The loop of `DeleteEntry` from the deleted slot on: every slot takes the entry of the
next one, and the last that was in use is cleared. -/
def shiftDown (blank : EntryStorage) : List EntryStorage → List EntryStorage
  | [] => []
  | [_] => [blank]
  | _ :: next :: rest =>
    if next.mInUse then next :: shiftDown blank (next :: rest) else blank :: next :: rest

/-- `EntryDelegate::FixAfterDelete`: the object is reset, or its storage follows the shift. -/
def fixEntryAfterDelete (slot : Nat) : StorageRef → Option StorageRef
  | .acl index =>
    if index = slot then none
    else if slot < index then some (.acl (index - 1))
    else some (.acl index)
  | .pool index => some (.pool index)

/-- `EntryIteratorDelegate::FixAfterDelete`, for a list of this length. -/
def fixIteratorAfterDelete (slot length : Nat) (delegate : EntryIteratorDelegate) :
  EntryIteratorDelegate :=
  match delegate.mStorage with
  | some index =>
    if slot ≤ index ∧ index < length then
      { delegate with mStorage := if index = 0 then none else some (index - 1) }
    else delegate
  | none => delegate

/-- The deletion of a slot, after which the delegates are fixed as for `fixedSlot`. -/
def deleteSlot (st : AclStore) (slot fixedSlot : Nat) : AclStore :=
  let fixed := fixBeforeDelete slot (st.storageAt (.acl slot)) st.delegates st.pool
  { st with
    acl := st.acl.take slot ++ shiftDown st.blank (st.acl.drop slot)
    pool := fixed.2
    delegates := fixed.1.update fun _ ref => fixEntryAfterDelete fixedSlot ref
    iterators := st.iterators.update fun _ delegate =>
      some (fixIteratorAfterDelete fixedSlot st.acl.length delegate) }

/-- `DeleteEntry` of the delegate. The slot is found from the index, which may be relative
to a fabric, but the delegates are fixed for the slot at that index itself. A listener
makes `AccessControl::DeleteEntry` read the entry into an object before, and release it
after. -/
def deleteEntry (fabricIndex : Option UInt8) (index : Nat) : AclM Unit := do
  let st ← Proc.read
  match st.findUsedInAcl fabricIndex index with
  | none => Proc.fail .sentinel
  | some slot => Proc.modify fun st => st.deleteSlot slot index

def entries (iterator : Nat) (fabricIndex : Option UInt8) : AclM Unit := do
  let st ← Proc.read
  orTooSmall ((st.iterators.claim iterator ⟨fabricIndex, none⟩).map fun iterators =>
    { st with iterators := iterators })

/-- The search of `Next` over the slots from an index on. -/
def nextSlot (fabricIndex : Option UInt8) : List EntryStorage → Nat → Option Nat
  | [], _ => none
  | storage :: rest, index =>
    if !storage.mInUse then none
    else if fabricIndex.all fun f => storage.mFabricIndex = f then some index
    else nextSlot fabricIndex rest (index + 1)

/-- Where `Next` goes on. -/
def EntryIteratorDelegate.start (delegate : EntryIteratorDelegate) (length : Nat) : Nat :=
  match delegate.mStorage with
  | none => 0
  | some index => if index < length then index + 1 else index

/-- `EntryIterator::Next`. The iterator has moved on even if no delegate is free for the
entry. -/
def next (iterator entry : Nat) : AclM Unit := do
  let st ← Proc.read
  match st.iterators.lookup iterator with
  | none => Proc.fail .sentinel
  | some delegate => do
      let start := EntryIteratorDelegate.start delegate st.acl.length
      let found := nextSlot delegate.mFabricIndex (st.acl.drop start) start
      let moved := { delegate with mStorage := some (found.getD st.acl.length) }
      Proc.modify fun st => { st with iterators := st.iterators.replace iterator moved }
      match found with
      | none => Proc.fail .sentinel
      | some slot => do
          let st ← Proc.read
          orTooSmall (st.initEntry entry (.acl slot))

/-- The destructor of an `EntryIterator` object. -/
def releaseIterator (iterator : Nat) : AclM Unit := Proc.modify fun st =>
  { st with iterators := st.iterators.free iterator }

end AclStore

inductive AclOp where
  | prepare (entry : Nat)
  | edit (entry : Nat) (change : EntryEdit)
  | create (fabricIndex : Option UInt8) (entry : Nat)
  | read (fabricIndex : Option UInt8) (index entry : Nat)
  | update (fabricIndex : Option UInt8) (index entry : Nat)
  | delete (fabricIndex : Option UInt8) (index : Nat)
  | entries (iterator : Nat) (fabricIndex : Option UInt8)
  | next (iterator entry : Nat)
  | releaseEntry (entry : Nat)
  | releaseIterator (iterator : Nat)

def AclOp.call : AclOp → AclM Unit
  | .prepare entry => AclStore.prepareEntry entry
  | .edit entry change => AclStore.editEntry entry change
  | .create fabricIndex entry => AclStore.createEntry fabricIndex entry
  | .read fabricIndex index entry => AclStore.readEntry fabricIndex index entry
  | .update fabricIndex index entry => AclStore.updateEntry fabricIndex index entry
  | .delete fabricIndex index => AclStore.deleteEntry fabricIndex index
  | .entries iterator fabricIndex => AclStore.entries iterator fabricIndex
  | .next iterator entry => AclStore.next iterator entry
  | .releaseEntry entry => AclStore.releaseEntry entry
  | .releaseIterator iterator => AclStore.releaseIterator iterator

/-- The store after a run of calls, whatever each of them returned. -/
def aclRun (ops : List AclOp) (st : AclStore) : AclStore :=
  ops.foldl (fun st op => (op.call st).2) st

structure AclConfig where
  maxSubjects : Nat
  maxTargets : Nat
  maxEntriesPerFabric : Nat
  maxEntries : Nat
  storagePoolSize : Nat
  delegatePoolSize : Nat
  iteratorPoolSize : Nat

/-- The store after `Init`. -/
def AclConfig.init (config : AclConfig) : AclStore where
  maxSubjects := config.maxSubjects
  maxTargets := config.maxTargets
  maxEntriesPerFabric := config.maxEntriesPerFabric
  acl := List.replicate config.maxEntries (.cleared config.maxSubjects config.maxTargets)
  pool := List.replicate config.storagePoolSize (.cleared config.maxSubjects config.maxTargets)
  delegates := List.replicate config.delegatePoolSize none
  iterators := List.replicate config.iteratorPoolSize none

end Chip.Access
