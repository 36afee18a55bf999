import Chip.TLV.Records

/-! Scenes and the records that keep them in storage: `SceneTable.h`,
`ExtensionFieldSetsImpl` and the `Serialize` and `Deserialize` members of
`SceneTableImpl.cpp`. The sizes are those of `CHIPConfig.h`. -/
namespace Chip.Scenes

open TLV

/-- `kUndefinedSceneId`. -/
def undefinedSceneId : UInt8 := 0xFF

/-- `kGlobalGroupSceneId`. -/
def globalGroupSceneId : UInt16 := 0

/-- `kSceneNameMaxLength`. -/
def sceneNameMaxLength : Nat := 16

/-- `kMaxClustersPerScene`. -/
def maxClustersPerScene : Nat := 3

/-- `kMaxFieldBytesPerCluster`. -/
def maxFieldBytesPerCluster : Nat := 128

structure SceneStorageId where
  mGroupId : UInt16
  mSceneId : UInt8
  deriving DecidableEq

namespace SceneStorageId

def cleared : SceneStorageId := ⟨globalGroupSceneId, undefinedSceneId⟩

def isValid (id : SceneStorageId) : Bool := id.mSceneId ≠ undefinedSceneId

end SceneStorageId

structure ExtensionFieldSet where
  mID : UInt32
  bytes : Bytes
  fits : bytes.length ≤ maxFieldBytesPerCluster
  deriving DecidableEq

structure SceneData where
  mName : Bytes
  nameFits : mName.length ≤ sceneNameMaxLength
  mSceneTransitionTimeMs : UInt32
  mFieldSets : List ExtensionFieldSet
  fieldSetsFit : mFieldSets.length ≤ maxClustersPerScene
  deriving DecidableEq

structure SceneTableEntry where
  mStorageId : SceneStorageId
  mStorageData : SceneData
  deriving DecidableEq

/-- The context tags of `TagScene`. -/
inductive TagScene where
  | endpointSceneCount
  | sceneCount
  | storageIDArray
  | groupID
  | sceneID
  | name
  | transitionTimeMs
  | extensionFieldSetsContainer

def TagScene.tag : TagScene → Tag
  | endpointSceneCount => contextTag 1
  | sceneCount => contextTag 2
  | storageIDArray => contextTag 3
  | groupID => contextTag 4
  | sceneID => contextTag 5
  | name => contextTag 6
  | transitionTimeMs => contextTag 7
  | extensionFieldSetsContainer => contextTag 8

/-- The context tags of `TagEFS`. -/
inductive TagEFS where
  | fieldSetArrayContainer
  | clusterID
  | clusterFieldSetData

def TagEFS.tag : TagEFS → Tag
  | fieldSetArrayContainer => contextTag 1
  | clusterID => contextTag 2
  | clusterFieldSetData => contextTag 3

/-- `ExtensionFieldSet::Serialize` for each field set. -/
def serializeFieldSets : List ExtensionFieldSet → Elements
  | [] => .nil
  | fieldSet :: rest =>
    .container anonymousTag .struct
      (.leaf TagEFS.clusterID.tag (.unsignedInteger fieldSet.mID.toUInt64)
        (.leaf TagEFS.clusterFieldSetData.tag (.byteString fieldSet.bytes) .nil))
      (serializeFieldSets rest)

/-- What follows the ids of a scene: the name if it is not empty, the transition time and
the extension field sets. -/
def serializeData (data : SceneData) : Elements :=
  let rest :=
    .leaf TagScene.transitionTimeMs.tag (.unsignedInteger data.mSceneTransitionTimeMs.toUInt64)
      (.container TagScene.extensionFieldSetsContainer.tag .struct
        (.container TagEFS.fieldSetArrayContainer.tag .array (serializeFieldSets data.mFieldSets) .nil)
        .nil)
  if data.mName = [] then rest else .leaf TagScene.name.tag (.utf8String data.mName) rest

/-- The ids of a scene, before what else its structure holds. -/
def serializeId (id : SceneStorageId) (rest : Elements) : Elements :=
  .leaf TagScene.groupID.tag (.unsignedInteger id.mGroupId.toUInt64)
    (.leaf TagScene.sceneID.tag (.unsignedInteger id.mSceneId.toUInt64) rest)

/-- `SceneTableData::Serialize`. -/
def serializeScene (entry : SceneTableEntry) : Elements :=
  .container anonymousTag .struct (serializeId entry.mStorageId (serializeData entry.mStorageData)) .nil

def serializeMap : List SceneStorageId → Elements
  | [] => .nil
  | id :: rest => .container anonymousTag .struct (serializeId id .nil) (serializeMap rest)

/-- `FabricSceneData::Serialize`. -/
def serializeFabric (sceneCount : UInt8) (sceneMap : List SceneStorageId) : Elements :=
  .container anonymousTag .struct
    (.leaf TagScene.sceneCount.tag (.unsignedInteger sceneCount.toUInt64)
      (.container TagScene.storageIDArray.tag .array (serializeMap sceneMap) .nil))
    .nil

/-- `EndpointSceneCount::Serialize`. -/
def serializeCount (countValue : UInt8) : Elements :=
  .container anonymousTag .struct
    (.leaf TagScene.endpointSceneCount.tag (.unsignedInteger countValue.toUInt64) .nil)
    .nil

/-- `ExtensionFieldSet::Deserialize`. -/
def deserializeFieldSet : ReaderM ExtensionFieldSet := do
  let container ← enterContainer
  nextTag TagEFS.clusterID.tag
  let mID ← liftGet (getUInt 32)
  nextTag TagEFS.clusterFieldSetData.tag
  let buffer ← liftGet getByteSpan
  if h : buffer.length ≤ maxFieldBytesPerCluster then do
    exitContainer container
    pure ⟨UInt32.ofNat mID, buffer, h⟩
  else Proc.fail .bufferTooSmall

/-- The loop of `ExtensionFieldSetsImpl::Deserialize`, with room for `n` more field sets. -/
def fieldSetsLoop : (n : Nat) → ReaderM { fieldSets : List ExtensionFieldSet // fieldSets.length ≤ n }
  | 0 => do
      match ← Proc.attempt (nextTag anonymousTag) with
      | .ok () => Proc.fail .bufferTooSmall
      | .error e => if e = .endOfTLV then pure ⟨[], Nat.le_refl _⟩ else Proc.fail e
  | n + 1 => do
      match ← Proc.attempt (nextTag anonymousTag) with
      | .ok () => do
          let fieldSet ← deserializeFieldSet
          let rest ← fieldSetsLoop n
          pure ⟨fieldSet :: rest.val, Nat.succ_le_succ rest.property⟩
      | .error e => if e = .endOfTLV then pure ⟨[], Nat.zero_le _⟩ else Proc.fail e

/-- `ExtensionFieldSetsImpl::Deserialize`. -/
def deserializeFieldSets :
  ReaderM { fieldSets : List ExtensionFieldSet // fieldSets.length ≤ maxClustersPerScene } := do
  nextTypeTag .struct TagScene.extensionFieldSetsContainer.tag
  let structureContainer ← enterContainer
  nextTypeTag .array TagEFS.fieldSetArrayContainer.tag
  let arrayContainer ← enterContainer
  let fieldSets ← fieldSetsLoop maxClustersPerScene
  exitContainer arrayContainer
  exitContainer structureContainer
  pure fieldSets

/-- `SetName`, which cuts a name that is too long. -/
def setName (name : Bytes) : { name : Bytes // name.length ≤ sceneNameMaxLength } :=
  ⟨name.take sceneNameMaxLength, List.length_take_le _ _⟩

def deserializeId : ReaderM SceneStorageId := do
  nextTag TagScene.groupID.tag
  let mGroupId ← liftGet (getUInt 16)
  nextTag TagScene.sceneID.tag
  let mSceneId ← liftGet (getUInt 8)
  pure ⟨UInt16.ofNat mGroupId, UInt8.ofNat mSceneId⟩

/-- The name, which may or may not have been stored. The reader is then on the transition
time. -/
def deserializeName : ReaderM Bytes := do
  next
  let r ← Proc.read
  Proc.verify (r.getTag = TagScene.name.tag ∨ r.getTag = TagScene.transitionTimeMs.tag) .wrongTLVType
  if r.getTag = TagScene.name.tag then do
    let nameSpan ← liftGet getCharSpan
    nextTag TagScene.transitionTimeMs.tag
    pure nameSpan
  else pure []

/-- `SceneTableData::Deserialize`. -/
def deserializeScene : ReaderM SceneTableEntry := do
  nextTypeTag .struct anonymousTag
  let container ← enterContainer
  let id ← deserializeId
  let nameSpan ← deserializeName
  let time ← liftGet (getUInt 32)
  let fieldSets ← deserializeFieldSets
  exitContainer container
  pure ⟨id, (setName nameSpan).val, (setName nameSpan).property, UInt32.ofNat time, fieldSets.val,
    fieldSets.property⟩

/-- `EndpointSceneCount::Deserialize`. -/
def deserializeCount : ReaderM UInt8 := do
  nextTypeTag .struct anonymousTag
  let container ← enterContainer
  nextTag TagScene.endpointSceneCount.tag
  let countValue ← liftGet (getUInt 8)
  exitContainer container
  pure (UInt8.ofNat countValue)

/-- The part of `FabricSceneData::Deserialize` before its loop: the scene count, with the
types of the two containers to leave. -/
def deserializeSceneCount : ReaderM (UInt8 × TLVType × TLVType) := do
  nextTypeTag .struct anonymousTag
  let fabricSceneContainer ← enterContainer
  nextTag TagScene.sceneCount.tag
  let sceneCount ← liftGet (getUInt 8)
  nextTypeTag .array TagScene.storageIDArray.tag
  let sceneMapContainer ← enterContainer
  pure (UInt8.ofNat sceneCount, fabricSceneContainer, sceneMapContainer)

def deserializeMapEntry : ReaderM SceneStorageId := do
  let sceneIdContainer ← enterContainer
  let id ← deserializeId
  exitContainer sceneIdContainer
  pure id

/-- The loop of `FabricSceneData::Deserialize`: the ids that are read before the end of the
map or an error. Every turn reads an element, so the length of the input bounds the number
of turns. -/
def deserializeMap : Nat → TLVReader → List SceneStorageId × Except ChipError TLVReader
  | 0, _ => ([], .error .internal)
  | fuel + 1, r =>
    match nextTag anonymousTag r with
    | (.error e, r') => ([], if e = .endOfTLV then .ok r' else .error e)
    | (.ok (), r') =>
      match deserializeMapEntry r' with
      | (.error e, _) => ([], .error e)
      | (.ok id, r'') =>
        let rest := deserializeMap fuel r''
        (id :: rest.1, rest.2)

end Chip.Scenes
