import Chip.Data.OwnedPool
import Chip.Scenes.SceneData

/-! The scene table of `SceneTableImpl.cpp` over a key-value storage. Writes of keys succeed;
reading or deleting a key that is not there reports that. The table has been initialized. -/
namespace Chip.Scenes

open TLV

/-- `kInvalidEndpointId`. -/
def invalidEndpointId : UInt16 := 0xFFFF

/-- `kUndefinedFabricIndex`. -/
def undefinedFabricIndex : UInt8 := 0

/-- `kMaxScenesPerFabric`. -/
def maxScenesPerFabric : Nat := 8

/-- `kMaxScenesPerEndpoint`. -/
def maxScenesPerEndpoint : Nat := 16

/-- `kIteratorsMax`. -/
def iteratorsMax : Nat := 2

/-- `kPersistentBufferSceneCountBytes`. -/
def persistentBufferSceneCountBytes : Nat := 8

/-- `kPersistentSceneBufferMax`. -/
def persistentSceneBufferMax : Nat := 256

/-- `kPersistentFabricBufferMax`. -/
def persistentFabricBufferMax : Nat := 128

/-- The keys `g/scc/e/<endpoint>`, `f/<fabric>/e/<endpoint>/sc` and
`f/<fabric>/e/<endpoint>/sc/<index>`. -/
inductive SceneKey where
  | endpointSceneCount (endpoint : UInt16)
  | fabricSceneData (fabric : UInt8) (endpoint : UInt16)
  | fabricScene (fabric : UInt8) (endpoint : UInt16) (index : Nat)
  deriving DecidableEq

/-- The sizes of a table, which `Init` checks. -/
structure TableSizes where
  mMaxScenesPerFabric : Nat
  mMaxScenesPerEndpoint : Nat
  perFabric : mMaxScenesPerFabric ≤ maxScenesPerFabric
  perEndpoint : mMaxScenesPerEndpoint ≤ maxScenesPerEndpoint

structure SceneEntryIterator where
  mFabric : UInt8
  mEndpoint : UInt16
  mSceneIndex : Nat

structure SceneTable where
  storage : SceneKey → Option Bytes
  mEndpointId : UInt16
  mSceneEntryIterators : OwnedPool SceneEntryIterator

abbrev SceneM := Proc ChipError SceneTable

def syncGetKeyValue (key : SceneKey) (size : Nat) : SceneM Bytes := do
  let st ← Proc.read
  match st.storage key with
  | none => Proc.fail .persistedStorageValueNotFound
  | some value => do
      Proc.verify (value.length ≤ size) .bufferTooSmall
      pure value

def syncSetKeyValue (key : SceneKey) (value : Bytes) : SceneM Unit :=
  Proc.modify fun st => { st with storage := Function.update st.storage key (some value) }

def syncDeleteKeyValue (key : SceneKey) : SceneM Unit := do
  let st ← Proc.read
  match st.storage key with
  | none => Proc.fail .persistedStorageValueNotFound
  | some _ => Proc.modify fun st => { st with storage := Function.update st.storage key none }

/-- `PersistentData::Save`. -/
def saveRecord (key : Except ChipError SceneKey) (size : Nat) (elements : Elements) : SceneM Unit := do
  let key ← Proc.lift key
  let value ← Proc.lift (encodeInto size elements)
  syncSetKeyValue key value

/-- The value that `Load` reads. -/
def loadValue (key : Except ChipError SceneKey) (size : Nat) : SceneM Bytes := do
  let key ← Proc.lift key
  match ← Proc.attempt (syncGetKeyValue key size) with
  | .ok value => pure value
  | .error e => Proc.fail (if e = .persistedStorageValueNotFound then .notFound else e)

/-- `PersistentData::Load`. -/
def loadRecord {α : Type} (key : Except ChipError SceneKey) (size : Nat) (deserialize : ReaderM α) :
  SceneM α := do
  let value ← loadValue key size
  Proc.lift (deserialize (TLVReader.init value value.length)).1

def endpointSceneCountKey (endpoint : UInt16) : Except ChipError SceneKey :=
  if endpoint ≠ invalidEndpointId then .ok (.endpointSceneCount endpoint)
  else .error .invalidArgument

/-- `EndpointSceneCount::Load`. -/
def loadCount (endpoint : UInt16) : SceneM UInt8 := do
  match ← Proc.attempt (loadRecord (endpointSceneCountKey endpoint) persistentBufferSceneCountBytes
      deserializeCount) with
  | .ok countValue => pure countValue
  | .error e => if e = .notFound then pure 0 else Proc.fail e

/-- `EndpointSceneCount::Save`. -/
def saveCount (endpoint : UInt16) (countValue : UInt8) : SceneM Unit :=
  saveRecord (endpointSceneCountKey endpoint) persistentBufferSceneCountBytes
    (serializeCount countValue)

/-- The `UpdateKey` that fabric and scene records share. -/
def checkedKey (fabric : UInt8) (endpoint : UInt16) (key : SceneKey) : Except ChipError SceneKey :=
  if fabric = undefinedFabricIndex then .error .invalidFabricIndex
  else if endpoint = invalidEndpointId then .error .invalidArgument
  else .ok key

def sceneKey (fabric : UInt8) (endpoint : UInt16) (index : Nat) : Except ChipError SceneKey :=
  checkedKey fabric endpoint (.fabricScene fabric endpoint index)

/-- `SceneTableData::Load`. -/
def loadScene (fabric : UInt8) (endpoint : UInt16) (index : Nat) : SceneM SceneTableEntry :=
  loadRecord (sceneKey fabric endpoint index) persistentSceneBufferMax deserializeScene

/-- `SceneTableData::Save`. -/
def saveSceneRecord (fabric : UInt8) (endpoint : UInt16) (index : Nat) (entry : SceneTableEntry) :
  SceneM Unit :=
  saveRecord (sceneKey fabric endpoint index) persistentSceneBufferMax (serializeScene entry)

/-- `SceneTableData::Delete`. -/
def deleteSceneRecord (fabric : UInt8) (endpoint : UInt16) (index : Nat) : SceneM Unit := do
  let key ← Proc.lift (sceneKey fabric endpoint index)
  syncDeleteKeyValue key

structure FabricSceneData where
  endpointId : UInt16
  fabricIndex : UInt8
  maxScenesPerFabric : Nat
  maxScenesPerEndpoint : Nat
  sceneCount : UInt8
  sceneMap : List SceneStorageId

namespace FabricSceneData

/-- The data as `Clear` leaves it. -/
def cleared (endpoint : UInt16) (fabric : UInt8) (maxPerFabric maxPerEndpoint : Nat) :
  FabricSceneData :=
  ⟨endpoint, fabric, maxPerFabric, maxPerEndpoint, 0, List.replicate maxPerFabric .cleared⟩

def key (fabric : FabricSceneData) : Except ChipError SceneKey :=
  checkedKey fabric.fabricIndex fabric.endpointId (.fabricSceneData fabric.fabricIndex fabric.endpointId)

def save (fabric : FabricSceneData) : SceneM Unit :=
  saveRecord fabric.key persistentFabricBufferMax (serializeFabric fabric.sceneCount fabric.sceneMap)

/-- The scenes at `index` and after it that `Deserialize` deletes because the table has
become smaller: how many were deleted, and the error that stopped it. -/
def deleteSurplus (fabric : FabricSceneData) : Nat → Nat → SceneM (Nat × Except ChipError Unit)
  | _, 0 => pure (0, .ok ())
  | index, n + 1 => do
      match ← Proc.attempt (deleteSceneRecord fabric.fabricIndex fabric.endpointId index) with
      | .error e => pure (0, .error e)
      | .ok () => do
          let (deleted, result) ← deleteSurplus fabric (index + 1) n
          pure (deleted + 1, result)

/-- The end of `Deserialize`, after the loop. -/
def leaveContainers (fabricSceneContainer sceneMapContainer : TLVType)
  (loop : Except ChipError TLVReader) : Except ChipError Unit :=
  match loop with
  | .error e => .error e
  | .ok r => ((do exitContainer sceneMapContainer; exitContainer fabricSceneContainer) r).1

/-- `FabricSceneData::Load` into cleared data. -/
def load (fabric : FabricSceneData) : SceneM FabricSceneData := do
  let value ← loadValue fabric.key persistentFabricBufferMax
  match deserializeSceneCount (TLVReader.init value value.length) with
  | (.error e, _) => Proc.fail e
  | (.ok (sceneCount, fabricSceneContainer, sceneMapContainer), r) => do
      let (ids, loop) := deserializeMap (value.length + 1) r
      let max := fabric.maxScenesPerFabric
      let loaded := { fabric with
        sceneCount := min sceneCount (UInt8.ofNat max)
        sceneMap := ids.take max ++ List.replicate (max - ids.length) .cleared }
      let (deleted, result) ← deleteSurplus loaded max (ids.length - max)
      if deleted ≠ 0 then do
        let countValue ← loadCount fabric.endpointId
        saveCount fabric.endpointId (countValue - UInt8.ofNat deleted)
        save loaded
      else pure ()
      Proc.lift result
      Proc.lift (leaveContainers fabricSceneContainer sceneMapContainer loop)
      pure loaded

/-- `Load`, with the data left cleared when there is none. -/
def loadOrCleared (fabric : FabricSceneData) : SceneM FabricSceneData := do
  match ← Proc.attempt fabric.load with
  | .ok loaded => pure loaded
  | .error e => if e = .notFound then pure fabric else Proc.fail e

/-- What `Find` reports: the slot of the scene, the first free slot, or that the table is
full. -/
inductive Found where
  | found (index : Nat)
  | notFound (index : Nat)
  | noMemory

/-- The loop of `Find`, at an index and with the first free slot it has passed. -/
def findLoop (target : SceneStorageId) : List SceneStorageId → Nat → Option Nat → Found
  | [], _, some firstFreeIdx => .notFound firstFreeIdx
  | [], _, none => .noMemory
  | id :: rest, index, firstFreeIdx =>
    if id = target then .found index
    else findLoop target rest (index + 1)
      (if !id.isValid && firstFreeIdx.isNone then some index else firstFreeIdx)

def find (fabric : FabricSceneData) (target : SceneStorageId) : Found :=
  findLoop target fabric.sceneMap 0 none

def withScene (fabric : FabricSceneData) (index : Nat) (id : SceneStorageId) : FabricSceneData :=
  { fabric with sceneCount := fabric.sceneCount + 1, sceneMap := fabric.sceneMap.set index id }

def withoutScene (fabric : FabricSceneData) (index : Nat) : FabricSceneData :=
  { fabric with sceneCount := fabric.sceneCount - 1, sceneMap := fabric.sceneMap.set index .cleared }

def saveScene (fabric : FabricSceneData) (entry : SceneTableEntry) : SceneM Unit :=
  match fabric.find entry.mStorageId with
  | .found index => saveSceneRecord fabric.fabricIndex fabric.endpointId index entry
  | .noMemory => Proc.fail .noMemory
  | .notFound index => do
      let countValue ← loadCount fabric.endpointId
      Proc.verify (countValue.toNat < fabric.maxScenesPerEndpoint) .noMemory
      saveCount fabric.endpointId (countValue + 1)
      let updated := fabric.withScene index entry.mStorageId
      match ← Proc.attempt updated.save with
      | .error e => do
          saveCount fabric.endpointId (countValue + 1 - 1)
          Proc.fail e
      | .ok () => do
          match ← Proc.attempt (saveSceneRecord fabric.fabricIndex fabric.endpointId index entry) with
          | .ok () => pure ()
          | .error e => do
              saveCount fabric.endpointId (countValue + 1 - 1)
              (updated.withoutScene index).save
              Proc.fail e

/-- `RemoveScene`, returning the data after it. -/
def removeScene (fabric : FabricSceneData) (id : SceneStorageId) : SceneM FabricSceneData :=
  if 0 < fabric.sceneCount then
    match fabric.find id with
    | .found index => do
        let countValue ← loadCount fabric.endpointId
        saveCount fabric.endpointId (countValue - 1)
        let updated := fabric.withoutScene index
        match ← Proc.attempt updated.save with
        | .error e => do
            saveCount fabric.endpointId (countValue - 1 + 1)
            Proc.fail e
        | .ok () => do
            match ← Proc.attempt (deleteSceneRecord fabric.fabricIndex fabric.endpointId index) with
            | .ok () => pure updated
            | .error e => do
                saveCount fabric.endpointId (countValue - 1 + 1)
                (updated.withScene index id).save
                Proc.fail e
    | _ => pure fabric
  else pure fabric

/-- The loop of `DeleteAllScenesInGroup`, from an index on for `n` slots. A scene that is
removed changes the map that the loop goes over. -/
def deleteGroupLoop (group : UInt16) : Nat → Nat → FabricSceneData → SceneM Unit
  | _, 0, _ => pure ()
  | index, n + 1, fabric =>
    let id := fabric.sceneMap.getD index .cleared
    if id.mGroupId = group then do
      let fabric ← fabric.removeScene id
      deleteGroupLoop group (index + 1) n fabric
    else deleteGroupLoop group (index + 1) n fabric

end FabricSceneData

section Table

variable (sizes : TableSizes)

def fabricData (endpoint : UInt16) (fabric : UInt8) : FabricSceneData :=
  .cleared endpoint fabric sizes.mMaxScenesPerFabric sizes.mMaxScenesPerEndpoint

def defaultFabricData (endpoint : UInt16) (fabric : UInt8) : FabricSceneData :=
  .cleared endpoint fabric maxScenesPerFabric maxScenesPerEndpoint

def getFabricSceneCount (fabric : UInt8) : SceneM UInt8 := do
  let st ← Proc.read
  let data ← (defaultFabricData st.mEndpointId fabric).loadOrCleared
  pure data.sceneCount

def getEndpointSceneCount : SceneM UInt8 := do
  let st ← Proc.read
  loadCount st.mEndpointId

def setSceneTableEntry (fabric : UInt8) (entry : SceneTableEntry) : SceneM Unit := do
  let st ← Proc.read
  let data ← (fabricData sizes st.mEndpointId fabric).loadOrCleared
  data.saveScene entry

def removeSceneTableEntry (fabric : UInt8) (id : SceneStorageId) : SceneM Unit := do
  let st ← Proc.read
  let data ← (fabricData sizes st.mEndpointId fabric).load
  let _ ← data.removeScene id
  pure ()

def getSceneTableEntry (fabric : UInt8) (id : SceneStorageId) : SceneM SceneTableEntry := do
  let st ← Proc.read
  let data ← (fabricData sizes st.mEndpointId fabric).load
  match data.find id with
  | .found index => do
      match ← Proc.attempt (loadScene fabric st.mEndpointId index) with
      | .ok entry => pure entry
      | .error e => do
          if e = .bufferTooSmall then removeSceneTableEntry sizes fabric id else pure ()
          Proc.fail e
  | _ => Proc.fail .notFound

def removeSceneTableEntryAtPosition (endpoint : UInt16) (fabric : UInt8) (index : Nat) :
  SceneM Unit := do
  let data ← (fabricData sizes endpoint fabric).load
  match ← Proc.attempt (loadScene fabric endpoint index) with
  | .error e => if e = .notFound then pure () else Proc.fail e
  | .ok entry => do
      let _ ← data.removeScene entry.mStorageId
      pure ()

def deleteAllScenesInGroup (fabric : UInt8) (group : UInt16) : SceneM Unit := do
  let st ← Proc.read
  let data ← (fabricData sizes st.mEndpointId fabric).load
  data.deleteGroupLoop group 0 sizes.mMaxScenesPerFabric

/-- The search of `SceneEntryIteratorImpl::Next` for a slot in use, from an index on for `n`
slots. -/
def nextSlot (sceneMap : List SceneStorageId) : Nat → Nat → Option Nat
  | _, 0 => none
  | index, n + 1 =>
    if (sceneMap.getD index .cleared).isValid then some index else nextSlot sceneMap (index + 1) n

/-- `SceneEntryIteratorImpl::Next`: the entry, if there is one, and the iterator after it. -/
def iteratorNext (it : SceneEntryIterator) : SceneM (Option SceneTableEntry × SceneEntryIterator) := do
  match ← Proc.attempt (defaultFabricData it.mEndpoint it.mFabric).load with
  | .error _ => pure (none, it)
  | .ok data =>
    match nextSlot data.sceneMap it.mSceneIndex (sizes.mMaxScenesPerFabric - it.mSceneIndex) with
    | none => pure (none, { it with mSceneIndex := max it.mSceneIndex sizes.mMaxScenesPerFabric })
    | some index => do
        match ← Proc.attempt (loadScene it.mFabric it.mEndpoint index) with
        | .error _ => pure (none, { it with mSceneIndex := index })
        | .ok entry => pure (some entry, { it with mSceneIndex := index + 1 })

/-- The constructor of an iterator, which loads the scene count. -/
def newIterator (fabric : UInt8) : SceneM SceneEntryIterator := do
  let st ← Proc.read
  let _ ← Proc.attempt (fabricData sizes st.mEndpointId fabric).load
  pure ⟨fabric, st.mEndpointId, 0⟩

/-- `IterateSceneEntries`, into an iterator of the caller's. There is none when the pool has
no room. -/
def iterateSceneEntries (iterator : Nat) (fabric : UInt8) : SceneM Unit := do
  let it ← newIterator sizes fabric
  let st ← Proc.read
  match st.mSceneEntryIterators.claim iterator it with
  | none => Proc.fail .internal
  | some iterators => Proc.modify fun st => { st with mSceneEntryIterators := iterators }

def nextSceneEntry (iterator : Nat) : SceneM (Option SceneTableEntry) := do
  let st ← Proc.read
  match st.mSceneEntryIterators.lookup iterator with
  | none => Proc.fail .invalidArgument
  | some it => do
      let (entry, it) ← iteratorNext sizes it
      Proc.modify fun st =>
        { st with mSceneEntryIterators := st.mSceneEntryIterators.replace iterator it }
      pure entry

def releaseIterator (iterator : Nat) : SceneM Unit :=
  Proc.modify fun st => { st with mSceneEntryIterators := st.mSceneEntryIterators.free iterator }

/-- The loop of `GetAllSceneIdsInGroup`, with the ids listed so far. An iterator passes every
slot once, so their number bounds the number of turns. -/
def listGroupLoop (group : UInt16) (size : Nat) :
  Nat → SceneEntryIterator → List UInt8 → SceneM (List UInt8)
  | 0, _, _ => Proc.fail .internal
  | fuel + 1, it, ids => do
      match ← iteratorNext sizes it with
      | (none, _) => pure ids
      | (some entry, it) =>
        if entry.mStorageId.mGroupId = group then do
          Proc.verify (ids.length < size) .bufferTooSmall
          listGroupLoop group size fuel it (ids ++ [entry.mStorageId.mSceneId])
        else listGroupLoop group size fuel it ids

/-- `GetAllSceneIdsInGroup`, for a list of this size. Its own iterator needs room in the
pool. -/
def getAllSceneIdsInGroup (fabric : UInt8) (group : UInt16) (size : Nat) : SceneM (List UInt8) := do
  let st ← Proc.read
  Proc.verify (st.mSceneEntryIterators.any Option.isNone) .internal
  let it ← newIterator sizes fabric
  listGroupLoop sizes group size (sizes.mMaxScenesPerFabric + 1) it []

/-- The loop of `RemoveFabric` over the positions of the table. -/
def removePositions (endpoint : UInt16) (fabric : UInt8) : Nat → Nat → SceneM Unit
  | _, 0 => pure ()
  | index, n + 1 => do
      match ← Proc.attempt (removeSceneTableEntryAtPosition sizes endpoint fabric index) with
      | .ok () => removePositions endpoint fabric (index + 1) n
      | .error e =>
        if e = .notFound then removePositions endpoint fabric (index + 1) n else Proc.fail e

/-- `RemoveFabric`, over the enabled endpoints that have the Scenes cluster. -/
def removeFabric (fabric : UInt8) : List UInt16 → SceneM Unit
  | [] => pure ()
  | endpoint :: rest => do
      match ← Proc.attempt (defaultFabricData endpoint fabric).load with
      | .error e => if e = .notFound then removeFabric fabric rest else Proc.fail e
      | .ok data => do
          removePositions sizes endpoint fabric 0 sizes.mMaxScenesPerFabric
          let key ← Proc.lift data.key
          syncDeleteKeyValue key
          removeFabric fabric rest

end Table

inductive SceneOp where
  | setEndpoint (endpoint : UInt16)
  | set (fabric : UInt8) (entry : SceneTableEntry)
  | get (fabric : UInt8) (id : SceneStorageId)
  | remove (fabric : UInt8) (id : SceneStorageId)
  | removeAt (endpoint : UInt16) (fabric : UInt8) (index : Nat)
  | list (fabric : UInt8) (group : UInt16) (size : Nat)
  | deleteAll (fabric : UInt8) (group : UInt16)
  | removeFabric (fabric : UInt8)
  | iterate (iterator : Nat) (fabric : UInt8)
  | next (iterator : Nat)
  | release (iterator : Nat)

inductive SceneValue where
  | done
  | entry (entry : SceneTableEntry)
  | ids (ids : List UInt8)
  | next (entry : Option SceneTableEntry)

def SceneOp.call (sizes : TableSizes) (endpoints : List UInt16) : SceneOp → SceneM SceneValue
  | .setEndpoint endpoint => do
      Proc.modify fun st => { st with mEndpointId := endpoint }
      pure .done
  | .set fabric entry => do
      setSceneTableEntry sizes fabric entry
      pure .done
  | .get fabric id => return .entry (← getSceneTableEntry sizes fabric id)
  | .remove fabric id => do
      removeSceneTableEntry sizes fabric id
      pure .done
  | .removeAt endpoint fabric index => do
      removeSceneTableEntryAtPosition sizes endpoint fabric index
      pure .done
  | .list fabric group size => return .ids (← getAllSceneIdsInGroup sizes fabric group size)
  | .deleteAll fabric group => do
      deleteAllScenesInGroup sizes fabric group
      pure .done
  | .removeFabric fabric => do
      Scenes.removeFabric sizes fabric endpoints
      pure .done
  | .iterate iterator fabric => do
      iterateSceneEntries sizes iterator fabric
      pure .done
  | .next iterator => return .next (← nextSceneEntry sizes iterator)
  | .release iterator => do
      releaseIterator iterator
      pure .done

def sceneRun (sizes : TableSizes) (endpoints : List UInt16) (ops : List SceneOp) (st : SceneTable) :
  SceneTable :=
  ops.foldl (fun st op => (op.call sizes endpoints st).2) st

/-- The table after `Init`, with nothing stored. -/
def SceneTable.init : SceneTable where
  storage := fun _ => none
  mEndpointId := invalidEndpointId
  mSceneEntryIterators := List.replicate iteratorsMax none

end Chip.Scenes
