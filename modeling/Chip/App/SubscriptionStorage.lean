import Mathlib.Logic.Function.Basic
import Chip.App.SubscriptionRecord

/-! The storage of subscriptions (`SimpleSubscriptionResumptionStorage.cpp`): records at indices
below a limit, and a record of the limit itself. The limit belongs to the build, so it may be
another one after a restart. Storage operations succeed; memory may be refused. -/
namespace Chip.App

open TLV

/-- The constants of the build: `CHIP_IM_MAX_NUM_SUBSCRIPTIONS` and
`CHIP_IM_SERVER_MAX_NUM_PATH_GROUPS_FOR_SUBSCRIPTIONS`. -/
structure SubscriptionBuild where
  maxNumSubscriptions : UInt16
  maxNumPathGroups : Nat

def SubscriptionBuild.limit (build : SubscriptionBuild) : Nat := build.maxNumSubscriptions.toNat

/-- The keys of the storage: the records by index, and `SubscriptionResumptionMaxCount`. -/
structure SubscriptionRecords where
  record : Nat → Option Bytes
  maxCount : Option UInt16

def SubscriptionRecords.empty : SubscriptionRecords := ⟨fun _ => none, none⟩

/-- `SyncSetKeyValue` and `SyncDeleteKeyValue` of a record. -/
def SubscriptionRecords.set (st : SubscriptionRecords) (index : Nat) (value : Option Bytes) :
  SubscriptionRecords :=
  { st with record := Function.update st.record index value }

/-- `Delete(subscriptionIndex)`. -/
def SubscriptionRecords.delete (st : SubscriptionRecords) (index : Nat) : SubscriptionRecords :=
  st.set index none

def SubscriptionRecords.deleteMaxCount (st : SubscriptionRecords) : SubscriptionRecords :=
  { st with maxCount := none }

/-- The length that `Load` has for a record, as a `uint16_t`. -/
def loadLength (build : SubscriptionBuild) : Nat :=
  maxSubscriptionSize build.maxNumPathGroups % 2 ^ 16

/-- `Load`. -/
def loadSubscription (build : SubscriptionBuild) (memory : LoadMemory) (st : SubscriptionRecords)
  (index : Nat) : Except ChipError SubscriptionInfo :=
  if memory.backingBuffer = false then .error .noMemory
  else match st.record index with
    | none => .error .persistedStorageValueNotFound
    | some bytes =>
      if bytes.length ≤ loadLength build then decodeSubscription memory bytes
      else .error .bufferTooSmall

/-- The memory that is granted to the `Load` of each index. -/
abbrev ScanMemory := Nat → LoadMemory

/-- The deletions of `Init` from one index up to another. -/
def deleteRange (first last : Nat) (st : SubscriptionRecords) : SubscriptionRecords :=
  ((List.range (last - first)).map (first + ·)).foldl SubscriptionRecords.delete st

/-- `Init`. -/
def initSubscriptions (build : SubscriptionBuild) (st : SubscriptionRecords) :
  SubscriptionRecords :=
  let cleaned := match st.maxCount with
    | some countMax =>
      if countMax ≠ build.maxNumSubscriptions then deleteRange build.limit countMax.toNat st
      else st
    | none => st
  { cleaned with maxCount := some build.maxNumSubscriptions }

def SubscriptionInfo.isSame (info other : SubscriptionInfo) : Bool :=
  info.mNodeId = other.mNodeId && info.mFabricIndex = other.mFabricIndex &&
    info.mSubscriptionId = other.mSubscriptionId

/-- The loop of `Save`: duplicates are deleted, and the first index that is empty then is
returned, if there is one. -/
def saveScan (build : SubscriptionBuild) (memory : ScanMemory) (info : SubscriptionInfo) :
  List Nat → Option Nat → SubscriptionRecords → Option Nat × SubscriptionRecords
  | [], firstEmpty, st => (firstEmpty, st)
  | index :: rest, firstEmpty, st =>
    match loadSubscription build (memory index) st index with
    | .error e =>
      saveScan build memory info rest
        (if e = .persistedStorageValueNotFound then firstEmpty <|> some index else firstEmpty) st
    | .ok current =>
      if info.isSame current then
        saveScan build memory info rest (firstEmpty <|> some index) (st.delete index)
      else saveScan build memory info rest firstEmpty st

/-- `Save`, with the memory for the loads and for the buffer of the writer. -/
def saveSubscription (build : SubscriptionBuild) (memory : ScanMemory) (writeBuffer : Bool)
  (info : SubscriptionInfo) : Proc ChipError SubscriptionRecords Unit := fun st =>
  match saveScan build memory info (List.range build.limit) none st with
  | (none, st) => (.error .noMemory, st)
  | (some index, st) =>
    if writeBuffer = false then (.error .noMemory, st)
    else match encodeInto (maxSubscriptionSize build.maxNumPathGroups)
        (serializeSubscription info) with
      | .error e => (.error e, st)
      | .ok bytes =>
        if bytes.length < 2 ^ 16 then (.ok (), st.set index (some bytes))
        else (.error .bufferTooSmall, st)

/-- The loop of `Delete` and `DeleteAll`: what matches is deleted. How many matched, and how many
others there are. -/
def deleteScan (build : SubscriptionBuild) (memory : ScanMemory)
  (matching : SubscriptionInfo → Bool) :
  List Nat → Nat × Nat → SubscriptionRecords → (Nat × Nat) × SubscriptionRecords
  | [], counts, st => (counts, st)
  | index :: rest, (found, remaining), st =>
    match loadSubscription build (memory index) st index with
    | .error _ => deleteScan build memory matching rest (found, remaining) st
    | .ok info =>
      if matching info then
        deleteScan build memory matching rest (found + 1, remaining) (st.delete index)
      else deleteScan build memory matching rest (found, remaining + 1) st

/-- What follows the loop: the record of the limit is deleted when nothing remains. -/
def finishDelete (result : (Nat × Nat) × SubscriptionRecords) : SubscriptionRecords :=
  if result.1.2 = 0 then result.2.deleteMaxCount else result.2

/-- `Delete(nodeId, fabricIndex, subscriptionId)`. -/
def deleteSubscription (build : SubscriptionBuild) (memory : ScanMemory) (nodeId : UInt64)
  (fabricIndex : UInt8) (subscriptionId : UInt32) : Proc ChipError SubscriptionRecords Unit :=
  fun st =>
    let result := deleteScan build memory
      (fun info => nodeId = info.mNodeId && fabricIndex = info.mFabricIndex &&
        subscriptionId = info.mSubscriptionId)
      (List.range build.limit) (0, 0) st
    (if result.1.1 = 0 then .error .persistedStorageValueNotFound else .ok (), finishDelete result)

/-- `DeleteAll(fabricIndex)`. -/
def deleteAllSubscriptions (build : SubscriptionBuild) (memory : ScanMemory) (fabricIndex : UInt8) :
  Proc ChipError SubscriptionRecords Unit := fun st =>
  let result := deleteScan build memory (fun info => fabricIndex = info.mFabricIndex)
    (List.range build.limit) (0, 0) st
  (.ok (), finishDelete result)

/-- The loop of the iterator's `Next`. Records that cannot be loaded are deleted. -/
def nextScan (build : SubscriptionBuild) (memory : ScanMemory) :
  List Nat → SubscriptionRecords → Option (SubscriptionInfo × Nat) × SubscriptionRecords
  | [], st => (none, st)
  | index :: rest, st =>
    match loadSubscription build (memory index) st index with
    | .ok info => (some (info, index + 1), st)
    | .error e =>
      nextScan build memory rest
        (if e = .persistedStorageValueNotFound then st else st.delete index)

/-- `Next` of an iterator that has come to an index: the subscription, and where the iterator
is then. -/
def nextSubscription (build : SubscriptionBuild) (memory : ScanMemory) (nextIndex : Nat)
  (st : SubscriptionRecords) : Option (SubscriptionInfo × Nat) × SubscriptionRecords :=
  nextScan build memory ((List.range (build.limit - nextIndex)).map (nextIndex + ·)) st

/-- `Count`. -/
def countSubscriptions (build : SubscriptionBuild) (st : SubscriptionRecords) : Nat :=
  (List.range build.limit).countP fun index => (st.record index).isSome

/-- A step of a run. An iterator is known by the index it has come to. -/
inductive SubscriptionCall where
  | init (build : SubscriptionBuild)
  | save (memory : ScanMemory) (writeBuffer : Bool) (info : SubscriptionInfo)
  | delete (memory : ScanMemory) (nodeId : UInt64) (fabricIndex : UInt8) (subscriptionId : UInt32)
  | deleteAll (memory : ScanMemory) (fabricIndex : UInt8)
  | next (memory : ScanMemory) (nextIndex : Nat)
  | count

structure SubscriptionState where
  build : SubscriptionBuild
  records : SubscriptionRecords

def SubscriptionState.step (s : SubscriptionState) : SubscriptionCall → SubscriptionState
  | .init build => ⟨build, initSubscriptions build s.records⟩
  | .save memory writeBuffer info =>
    { s with records := (saveSubscription s.build memory writeBuffer info s.records).2 }
  | .delete memory nodeId fabricIndex subscriptionId =>
    { s with records :=
        (deleteSubscription s.build memory nodeId fabricIndex subscriptionId s.records).2 }
  | .deleteAll memory fabricIndex =>
    { s with records := (deleteAllSubscriptions s.build memory fabricIndex s.records).2 }
  | .next memory nextIndex =>
    { s with records := (nextSubscription s.build memory nextIndex s.records).2 }
  | .count => s

/-- The first `Init`, on an empty storage. -/
def SubscriptionState.start (build : SubscriptionBuild) : SubscriptionState :=
  ⟨build, initSubscriptions build .empty⟩

def SubscriptionState.run (calls : List SubscriptionCall) (s : SubscriptionState) :
  SubscriptionState :=
  calls.foldl SubscriptionState.step s

end Chip.App
