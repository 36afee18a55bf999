import Chip.Data.Faults
import Chip.Scenes.SceneTable

/-! The scene table over a storage whose operations may fail. A failed operation returns an error
and leaves its key; the calls are those of the table. -/
namespace Chip.Scenes

open TLV

abbrev UnreliableM := Proc ChipError (Faulty ChipError SceneTable)

namespace Unreliable

def syncGetKeyValue (key : SceneKey) (size : Nat) : UnreliableM Bytes :=
  Faulty.access (Scenes.syncGetKeyValue key size)

def syncSetKeyValue (key : SceneKey) (value : Bytes) : UnreliableM Unit :=
  Faulty.access (Scenes.syncSetKeyValue key value)

def syncDeleteKeyValue (key : SceneKey) : UnreliableM Unit :=
  Faulty.access (Scenes.syncDeleteKeyValue key)

/-- `PersistentData::Save`. -/
def saveRecord (key : Except ChipError SceneKey) (size : Nat) (elements : Elements) :
  UnreliableM Unit := do
  let key ← Proc.lift key
  let value ← Proc.lift (encodeInto size elements)
  syncSetKeyValue key value

def loadValue (key : Except ChipError SceneKey) (size : Nat) : UnreliableM Bytes := do
  let key ← Proc.lift key
  match ← Proc.attempt (syncGetKeyValue key size) with
  | .ok value => pure value
  | .error e => Proc.fail (if e = .persistedStorageValueNotFound then .notFound else e)

/-- `PersistentData::Load`. -/
def loadRecord {α : Type} (key : Except ChipError SceneKey) (size : Nat) (deserialize : ReaderM α) :
  UnreliableM α := do
  let value ← loadValue key size
  Proc.lift (deserialize (TLVReader.init value value.length)).1

/-- `EndpointSceneCount::Load`. -/
def loadCount (endpoint : UInt16) : UnreliableM UInt8 := do
  match ← Proc.attempt (loadRecord (endpointSceneCountKey endpoint) persistentBufferSceneCountBytes
      deserializeCount) with
  | .ok countValue => pure countValue
  | .error e => if e = .notFound then pure 0 else Proc.fail e

/-- `EndpointSceneCount::Save`. -/
def saveCount (endpoint : UInt16) (countValue : UInt8) : UnreliableM Unit :=
  saveRecord (endpointSceneCountKey endpoint) persistentBufferSceneCountBytes
    (serializeCount countValue)

/-- `SceneTableData::Load`. -/
def loadScene (fabric : UInt8) (endpoint : UInt16) (index : Nat) : UnreliableM SceneTableEntry :=
  loadRecord (sceneKey fabric endpoint index) persistentSceneBufferMax deserializeScene

/-- `SceneTableData::Save`. -/
def saveSceneRecord (fabric : UInt8) (endpoint : UInt16) (index : Nat) (entry : SceneTableEntry) :
  UnreliableM Unit :=
  saveRecord (sceneKey fabric endpoint index) persistentSceneBufferMax (serializeScene entry)

/-- `SceneTableData::Delete`. -/
def deleteSceneRecord (fabric : UInt8) (endpoint : UInt16) (index : Nat) : UnreliableM Unit := do
  let key ← Proc.lift (sceneKey fabric endpoint index)
  syncDeleteKeyValue key

def save (fabric : FabricSceneData) : UnreliableM Unit :=
  saveRecord fabric.key persistentFabricBufferMax (serializeFabric fabric.sceneCount fabric.sceneMap)

/-- The scenes that `Deserialize` deletes because the table has become smaller. -/
def deleteSurplus (fabric : FabricSceneData) : Nat → Nat → UnreliableM (Nat × Except ChipError Unit)
  | _, 0 => pure (0, .ok ())
  | index, n + 1 => do
      match ← Proc.attempt (deleteSceneRecord fabric.fabricIndex fabric.endpointId index) with
      | .error e => pure (0, .error e)
      | .ok () => do
          let (deleted, result) ← deleteSurplus fabric (index + 1) n
          pure (deleted + 1, result)

/-- `FabricSceneData::Load` into cleared data. -/
def load (fabric : FabricSceneData) : UnreliableM FabricSceneData := do
  let value ← loadValue fabric.key persistentFabricBufferMax
  match deserializeSceneCount (TLVReader.init value value.length) with
  | (.error e, _) => Proc.fail e
  | (.ok (sceneCount, fabricSceneContainer, sceneMapContainer), r) => do
      let (ids, loop) := deserializeMap (value.length + 1) r
      let max := fabric.maxScenesPerFabric
      let loaded := { fabric with
        sceneCount := min sceneCount (UInt8.ofNat max)
        sceneMap := ids.take max ++ List.replicate (max - ids.length) .cleared }
      let (deleted, result) ← deleteSurplus loaded max (ids.length - max)
      if deleted ≠ 0 then do
        let countValue ← loadCount fabric.endpointId
        saveCount fabric.endpointId (countValue - UInt8.ofNat deleted)
        save loaded
      else pure ()
      Proc.lift result
      Proc.lift (FabricSceneData.leaveContainers fabricSceneContainer sceneMapContainer loop)
      pure loaded

/-- `Load`, with the data left cleared when there is none. -/
def loadOrCleared (fabric : FabricSceneData) : UnreliableM FabricSceneData := do
  match ← Proc.attempt (load fabric) with
  | .ok loaded => pure loaded
  | .error e => if e = .notFound then pure fabric else Proc.fail e

def saveScene (fabric : FabricSceneData) (entry : SceneTableEntry) : UnreliableM Unit :=
  match fabric.find entry.mStorageId with
  | .found index => saveSceneRecord fabric.fabricIndex fabric.endpointId index entry
  | .noMemory => Proc.fail .noMemory
  | .notFound index => do
      let countValue ← loadCount fabric.endpointId
      Proc.verify (countValue.toNat < fabric.maxScenesPerEndpoint) .noMemory
      saveCount fabric.endpointId (countValue + 1)
      let updated := fabric.withScene index entry.mStorageId
      match ← Proc.attempt (save updated) with
      | .error e => do
          saveCount fabric.endpointId (countValue + 1 - 1)
          Proc.fail e
      | .ok () => do
          match ← Proc.attempt (saveSceneRecord fabric.fabricIndex fabric.endpointId index entry) with
          | .ok () => pure ()
          | .error e => do
              saveCount fabric.endpointId (countValue + 1 - 1)
              save (updated.withoutScene index)
              Proc.fail e

/-- `RemoveScene`, returning the data after it. -/
def removeScene (fabric : FabricSceneData) (id : SceneStorageId) : UnreliableM FabricSceneData :=
  if 0 < fabric.sceneCount then
    match fabric.find id with
    | .found index => do
        let countValue ← loadCount fabric.endpointId
        saveCount fabric.endpointId (countValue - 1)
        let updated := fabric.withoutScene index
        match ← Proc.attempt (save updated) with
        | .error e => do
            saveCount fabric.endpointId (countValue - 1 + 1)
            Proc.fail e
        | .ok () => do
            match ← Proc.attempt (deleteSceneRecord fabric.fabricIndex fabric.endpointId index) with
            | .ok () => pure updated
            | .error e => do
                saveCount fabric.endpointId (countValue - 1 + 1)
                save (updated.withScene index id)
                Proc.fail e
    | _ => pure fabric
  else pure fabric

/-- The loop of `DeleteAllScenesInGroup`. -/
def deleteGroupLoop (group : UInt16) : Nat → Nat → FabricSceneData → UnreliableM Unit
  | _, 0, _ => pure ()
  | index, n + 1, fabric =>
    let id := fabric.sceneMap.getD index .cleared
    if id.mGroupId = group then do
      let fabric ← removeScene fabric id
      deleteGroupLoop group (index + 1) n fabric
    else deleteGroupLoop group (index + 1) n fabric

section Table

variable (sizes : TableSizes)

def setSceneTableEntry (fabric : UInt8) (entry : SceneTableEntry) : UnreliableM Unit := do
  let s ← Proc.read
  let data ← loadOrCleared (fabricData sizes s.state.mEndpointId fabric)
  saveScene data entry

def removeSceneTableEntry (fabric : UInt8) (id : SceneStorageId) : UnreliableM Unit := do
  let s ← Proc.read
  let data ← load (fabricData sizes s.state.mEndpointId fabric)
  let _ ← removeScene data id
  pure ()

def getSceneTableEntry (fabric : UInt8) (id : SceneStorageId) : UnreliableM SceneTableEntry := do
  let s ← Proc.read
  let data ← load (fabricData sizes s.state.mEndpointId fabric)
  match data.find id with
  | .found index => do
      match ← Proc.attempt (loadScene fabric s.state.mEndpointId index) with
      | .ok entry => pure entry
      | .error e => do
          if e = .bufferTooSmall then removeSceneTableEntry sizes fabric id else pure ()
          Proc.fail e
  | _ => Proc.fail .notFound

def removeSceneTableEntryAtPosition (endpoint : UInt16) (fabric : UInt8) (index : Nat) :
  UnreliableM Unit := do
  let data ← load (fabricData sizes endpoint fabric)
  match ← Proc.attempt (loadScene fabric endpoint index) with
  | .error e => if e = .notFound then pure () else Proc.fail e
  | .ok entry => do
      let _ ← removeScene data entry.mStorageId
      pure ()

def deleteAllScenesInGroup (fabric : UInt8) (group : UInt16) : UnreliableM Unit := do
  let s ← Proc.read
  let data ← load (fabricData sizes s.state.mEndpointId fabric)
  deleteGroupLoop group 0 sizes.mMaxScenesPerFabric data

/-- The loop of `RemoveFabric` over the positions of the table. -/
def removePositions (endpoint : UInt16) (fabric : UInt8) : Nat → Nat → UnreliableM Unit
  | _, 0 => pure ()
  | index, n + 1 => do
      match ← Proc.attempt (removeSceneTableEntryAtPosition sizes endpoint fabric index) with
      | .ok () => removePositions endpoint fabric (index + 1) n
      | .error e =>
        if e = .notFound then removePositions endpoint fabric (index + 1) n else Proc.fail e

/-- `RemoveFabric`, over the enabled endpoints that have the Scenes cluster. -/
def removeFabric (fabric : UInt8) : List UInt16 → UnreliableM Unit
  | [] => pure ()
  | endpoint :: rest => do
      match ← Proc.attempt (load (defaultFabricData endpoint fabric)) with
      | .error e => if e = .notFound then removeFabric fabric rest else Proc.fail e
      | .ok data => do
          removePositions sizes endpoint fabric 0 sizes.mMaxScenesPerFabric
          let key ← Proc.lift data.key
          syncDeleteKeyValue key
          removeFabric fabric rest

end Table

end Unreliable

/-- The calls that may change what is stored. Listing and iterating only read. -/
inductive ChangeOp where
  | setEndpoint (endpoint : UInt16)
  | set (fabric : UInt8) (entry : SceneTableEntry)
  | get (fabric : UInt8) (id : SceneStorageId)
  | remove (fabric : UInt8) (id : SceneStorageId)
  | removeAt (endpoint : UInt16) (fabric : UInt8) (index : Nat)
  | deleteAll (fabric : UInt8) (group : UInt16)
  | removeFabric (fabric : UInt8)

def ChangeOp.call (sizes : TableSizes) (endpoints : List UInt16) : ChangeOp → UnreliableM Unit
  | .setEndpoint endpoint =>
    Proc.modify fun s => { s with state := { s.state with mEndpointId := endpoint } }
  | .set fabric entry => Unreliable.setSceneTableEntry sizes fabric entry
  | .get fabric id => do
      let _ ← Unreliable.getSceneTableEntry sizes fabric id
      pure ()
  | .remove fabric id => Unreliable.removeSceneTableEntry sizes fabric id
  | .removeAt endpoint fabric index =>
    Unreliable.removeSceneTableEntryAtPosition sizes endpoint fabric index
  | .deleteAll fabric group => Unreliable.deleteAllScenesInGroup sizes fabric group
  | .removeFabric fabric => Unreliable.removeFabric sizes fabric endpoints

/-- A run of calls, each with the fates of its storage operations. -/
def unreliableRun (sizes : TableSizes) (endpoints : List UInt16)
  (calls : List (ChangeOp × List (Option ChipError))) (st : SceneTable) : SceneTable :=
  calls.foldl (fun st call => (call.1.call sizes endpoints ⟨st, call.2⟩).2.state) st

end Chip.Scenes
