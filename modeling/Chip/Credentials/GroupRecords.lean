import Chip.Core.Error
import Chip.Data.Proc
import Mathlib.Logic.Function.Basic

/-! The records that `GroupDataProviderImpl.cpp` keeps in persistent storage, and the objects
through which it reads and writes them. Every record belongs to a fabric, apart from the list
of the fabrics themselves; records of one kind are linked by the identifier of the next one.
The operations of the storage delegate succeed. -/
namespace Chip.Credentials.Groups

abbrev FabricIndex := UInt8
abbrev GroupId := UInt16
abbrev KeysetId := UInt16
abbrev EndpointId := UInt16
abbrev SymmetricKey := Vector UInt8 16

def kUndefinedFabricIndex : FabricIndex := 0
def kUndefinedGroupId : GroupId := 0
def kInvalidKeysetId : KeysetId := 0xFFFF
def kInvalidEndpointId : EndpointId := 0xFFFF
/-- `CHIP_CONFIG_MAX_GROUP_NAME_LENGTH`. -/
def kGroupNameMax : Nat := 16
abbrev kEpochKeysMax : Nat := 3

abbrev noKeysUsed : Fin (kEpochKeysMax + 1) := 0

abbrev oneKeyUsed : Fin (kEpochKeysMax + 1) := 1

def forEachKey {α : Type} (f : Fin kEpochKeysMax → Except ChipError α) :
  Except ChipError (Fin kEpochKeysMax → α) := do
  let key₀ ← f 0
  let key₁ ← f 1
  let key₂ ← f 2
  pure fun
    | 0 => key₀
    | 1 => key₁
    | 2 => key₂

inductive GroupKeySecurityPolicy where
  | trustFirst
  | cacheAndSync

/-- A name is a terminated string: its characters up to the terminator. -/
structure GroupInfo where
  groupId : GroupId := kUndefinedGroupId
  name : List UInt8 := []

/-- `Platform::CopyString` into the array of a name. -/
def copyString (name : List UInt8) : List UInt8 := (name.takeWhile (· ≠ 0)).take kGroupNameMax

structure GroupKey where
  groupId : GroupId := kUndefinedGroupId
  keysetId : KeysetId := 0

structure EpochKey where
  startTime : UInt64
  key : SymmetricKey

/-- The callers of `SetKeySet` use no more keys than the array has. -/
structure KeySet where
  epochKeys : Fin kEpochKeysMax → EpochKey
  keysetId : KeysetId := 0
  policy : GroupKeySecurityPolicy := .cacheAndSync
  numKeysUsed : Fin (kEpochKeysMax + 1) := noKeysUsed

structure GroupOperationalCredentials where
  startTime : UInt64
  hash : UInt16
  encryptionKey : SymmetricKey
  privacyKey : SymmetricKey

def noKey : SymmetricKey := Vector.replicate 16 0

/-- The memory of a key after `memset`. -/
def GroupOperationalCredentials.zero : GroupOperationalCredentials := ⟨0, 0, noKey, noKey⟩

structure GroupCrypto where
  deriveGroupOperationalKey : SymmetricKey → List UInt8 → Except ChipError SymmetricKey
  deriveGroupSessionId : SymmetricKey → Except ChipError UInt16
  deriveGroupPrivacyKey : SymmetricKey → Except ChipError SymmetricKey

/-- `DeriveGroupOperationalCredentials`, which leaves the start time of the key alone. -/
def GroupCrypto.deriveGroupOperationalCredentials (crypto : GroupCrypto) (epochKey : SymmetricKey)
  (compressedFabricId : List UInt8) (credentials : GroupOperationalCredentials) :
  Except ChipError GroupOperationalCredentials := do
  let encryptionKey ← crypto.deriveGroupOperationalKey epochKey compressedFabricId
  let hash ← crypto.deriveGroupSessionId encryptionKey
  let privacyKey ← crypto.deriveGroupPrivacyKey encryptionKey
  pure { credentials with hash, encryptionKey, privacyKey }

structure FabricList where
  firstEntry : FabricIndex := kUndefinedFabricIndex
  entryCount : Nat := 0

structure FabricRecord where
  firstGroup : GroupId := kUndefinedGroupId
  groupCount : Nat := 0
  firstMap : UInt16 := 0
  mapCount : Nat := 0
  firstKeyset : KeysetId := kInvalidKeysetId
  keysetCount : Nat := 0
  next : FabricIndex := kUndefinedFabricIndex

structure GroupRecord where
  name : List UInt8 := []
  firstEndpoint : EndpointId := kInvalidEndpointId
  endpointCount : UInt16 := 0
  next : GroupId := 0

structure KeyMapRecord where
  groupId : GroupId := kUndefinedGroupId
  keysetId : KeysetId := 0
  next : UInt16 := 0

structure EndpointRecord where
  endpointId : EndpointId := kInvalidEndpointId
  next : EndpointId := 0

/-- What is stored of a key. The privacy key is derived again when the key is loaded. -/
structure StoredKey where
  startTime : UInt64
  hash : UInt16
  encryptionKey : SymmetricKey

structure KeySetRecord where
  policy : GroupKeySecurityPolicy
  keysCount : Fin (kEpochKeysMax + 1)
  keys : Fin kEpochKeysMax → StoredKey
  next : KeysetId

structure FabricStore where
  data : Option FabricRecord := none
  groups : GroupId → Option GroupRecord := fun _ => none
  endpoints : GroupId → EndpointId → Option EndpointRecord := fun _ _ => none
  maps : UInt16 → Option KeyMapRecord := fun _ => none
  keysets : KeysetId → Option KeySetRecord := fun _ => none

structure GroupStorage where
  fabricList : Option FabricList := none
  fabric : FabricIndex → FabricStore := fun _ => {}

def GroupStorage.empty : GroupStorage := {}

def GroupStorage.onFabric (storage : GroupStorage) (fabricIndex : FabricIndex)
  (f : FabricStore → FabricStore) : GroupStorage :=
  { storage with
    fabric := Function.update storage.fabric fabricIndex (f (storage.fabric fabricIndex)) }

abbrev StorageM := Proc ChipError GroupStorage

/-- The check of the fabric index with which every `UpdateKey` starts. -/
def fabricKey (fabricIndex : FabricIndex) : Except ChipError Unit :=
  if fabricIndex = kUndefinedFabricIndex then .error .invalidFabricIndex else .ok ()

/-- `PersistentData::Load`. The object is set to its defaults before the record is read. -/
def loadRecord {ρ δ : Type} (key : Except ChipError Unit) (stored : Option ρ) (clear : δ → δ)
  (deserialize : ρ → δ → Except ChipError Unit × δ) (data : δ) : Except ChipError Unit × δ :=
  match key, stored with
  | .error e, _ => (.error e, data)
  | .ok (), none => (.error .notFound, clear data)
  | .ok (), some record => deserialize record (clear data)

/-- `PersistentData::Save`. -/
def saveRecord (key : Except ChipError Unit) (store : GroupStorage → GroupStorage) :
  StorageM Unit := do
  Proc.lift key
  Proc.modify store

/-- `PersistentData::Delete`. -/
def deleteRecord {ρ : Type} (key : Except ChipError Unit) (stored : GroupStorage → Option ρ)
  (erase : GroupStorage → GroupStorage) : StorageM Unit := do
  Proc.lift key
  let storage ← Proc.read
  Proc.verify (stored storage).isSome .persistedStorageValueNotFound
  Proc.modify erase

structure FabricData extends FabricRecord where
  fabricIndex : FabricIndex := kUndefinedFabricIndex

namespace FabricData

/-- `Clear`, which leaves the fields of the key map alone. -/
def clear (fabric : FabricData) : FabricData :=
  { fabric with
    firstGroup := kUndefinedGroupId
    groupCount := 0
    firstKeyset := kInvalidKeysetId
    keysetCount := 0
    next := kUndefinedFabricIndex }

def load (fabric : FabricData) (storage : GroupStorage) : Except ChipError Unit × FabricData :=
  loadRecord (fabricKey fabric.fabricIndex) (storage.fabric fabric.fabricIndex).data clear
    (fun record fabric => (.ok (), { fabric with toFabricRecord := record })) fabric

/-- `fabric.Load` of a new object, with the error returned to the caller. -/
def loaded (fabricIndex : FabricIndex) : StorageM FabricData := do
  let storage ← Proc.read
  match ({ fabricIndex } : FabricData).load storage with
  | (.ok (), fabric) => pure fabric
  | (.error e, _) => Proc.fail e

def loadedOrDefault (fabricIndex : FabricIndex) : StorageM FabricData := do
  let storage ← Proc.read
  match ({ fabricIndex } : FabricData).load storage with
  | (.ok (), fabric) => pure fabric
  | (.error .notFound, fabric) => pure fabric
  | (.error e, _) => Proc.fail e

/-- The search of `Register` for a fabric, with so many entries left. -/
def isRegistered (storage : GroupStorage) (target : FabricIndex) : Nat → FabricData → Bool
  | 0, _ => false
  | left + 1, fabric =>
    match fabric.load storage with
    | (.error _, _) => false
    | (.ok (), fabric) =>
      if fabric.fabricIndex = target then true
      else isRegistered storage target left { fabric with fabricIndex := fabric.next }

def register (this : FabricData) : StorageM FabricData := do
  let storage ← Proc.read
  match storage.fabricList with
  | none =>
    let fabricList : FabricList := { firstEntry := this.fabricIndex, entryCount := 1 }
    Proc.modify fun storage => { storage with fabricList := some fabricList }
    pure this
  | some fabricList =>
    let fabric : FabricData := { fabricIndex := fabricList.firstEntry }
    if isRegistered storage this.fabricIndex fabricList.entryCount fabric then pure this
    else do
      let newList : FabricList :=
        { firstEntry := this.fabricIndex, entryCount := fabricList.entryCount + 1 }
      Proc.modify fun storage => { storage with fabricList := some newList }
      pure { this with next := fabricList.firstEntry }

def save (this : FabricData) : StorageM Unit := do
  let fabric ← this.register
  saveRecord (fabricKey fabric.fabricIndex) fun storage =>
    storage.onFabric fabric.fabricIndex fun store =>
      { store with data := some fabric.toFabricRecord }

/-- The search of `Unregister`, with the fabric before the one it is at. -/
def unregisterLoop (this : FabricData) (fabricList : FabricList) :
  Nat → Option FabricData → FabricData → StorageM Unit
  | 0, _, _ => Proc.fail .notFound
  | left + 1, prev, fabric => do
      let storage ← Proc.read
      match fabric.load storage with
      | (.error _, _) => Proc.fail .notFound
      | (.ok (), fabric) =>
        if fabric.fabricIndex = this.fabricIndex then do
          let firstEntry ← match prev with
            | none => pure this.next
            | some prev => do
                ({ prev with next := this.next } : FabricData).save
                pure fabricList.firstEntry
          Proc.verify (fabricList.entryCount > 0) .internal
          let newList : FabricList := { firstEntry, entryCount := fabricList.entryCount - 1 }
          Proc.modify fun storage => { storage with fabricList := some newList }
        else
          unregisterLoop this fabricList left (some fabric)
            { fabric with fabricIndex := fabric.next }

def unregister (this : FabricData) : StorageM Unit := do
  let storage ← Proc.read
  let fabricList := storage.fabricList.getD {}
  unregisterLoop this fabricList fabricList.entryCount none { fabricIndex := fabricList.firstEntry }

def delete (this : FabricData) : StorageM Unit := do
  this.unregister
  deleteRecord (fabricKey this.fabricIndex)
    (fun storage => (storage.fabric this.fabricIndex).data)
    fun storage => storage.onFabric this.fabricIndex fun store => { store with data := none }

end FabricData

structure GroupData extends GroupRecord where
  groupId : GroupId := kUndefinedGroupId
  fabricIndex : FabricIndex := kUndefinedFabricIndex
  index : Nat := 0
  prev : GroupId := 0
  first : Bool := true

namespace GroupData

def setName (group : GroupData) (name : List UInt8) : GroupData :=
  { group with name := copyString name }

def clear (group : GroupData) : GroupData :=
  { group with name := [], firstEndpoint := kInvalidEndpointId, endpointCount := 0, next := 0 }

def load (group : GroupData) (storage : GroupStorage) : Except ChipError Unit × GroupData :=
  loadRecord (fabricKey group.fabricIndex)
    ((storage.fabric group.fabricIndex).groups group.groupId) clear
    (fun record group => (.ok (), { group with toGroupRecord := record })) group

def save (group : GroupData) : StorageM Unit :=
  saveRecord (fabricKey group.fabricIndex) fun storage =>
    storage.onFabric group.fabricIndex fun store =>
      { store with groups := Function.update store.groups group.groupId group.toGroupRecord }

def delete (group : GroupData) : StorageM Unit :=
  deleteRecord (fabricKey group.fabricIndex)
    (fun storage => (storage.fabric group.fabricIndex).groups group.groupId) fun storage =>
    storage.onFabric group.fabricIndex fun store =>
      { store with groups := Function.update store.groups group.groupId none }

/-- The loop of `Get` and `Find`, with so many groups left. -/
def scan (storage : GroupStorage) (found : GroupData → Bool) : Nat → GroupData → Bool × GroupData
  | 0, group => (false, group)
  | left + 1, group =>
    match group.load storage with
    | (.error _, group) => (false, group)
    | (.ok (), group) =>
      if found group then (true, group)
      else scan storage found left
        { group with
          first := false
          prev := group.groupId
          groupId := group.next
          index := group.index + 1 }

def start (group : GroupData) (fabric : FabricData) : GroupData :=
  { group with
    fabricIndex := fabric.fabricIndex
    groupId := fabric.firstGroup
    index := 0
    first := true }

def get (group : GroupData) (storage : GroupStorage) (fabric : FabricData) (targetIndex : Nat) :
  Bool × GroupData :=
  scan storage (fun group => group.index = targetIndex) fabric.groupCount (group.start fabric)

def find (group : GroupData) (storage : GroupStorage) (fabric : FabricData)
  (targetGroup : GroupId) : Bool × GroupData :=
  scan storage (fun group => group.groupId = targetGroup) fabric.groupCount (group.start fabric)

end GroupData

/-- `LinkedData` with the fields of `KeyMapData`. -/
structure KeyMapData extends KeyMapRecord where
  fabricIndex : FabricIndex := kUndefinedFabricIndex
  id : UInt16 := 0
  index : Nat := 0
  prev : UInt16 := 0
  maxId : UInt16 := 0
  first : Bool := true

namespace KeyMapData

def load (map : KeyMapData) (storage : GroupStorage) : Except ChipError Unit × KeyMapData :=
  loadRecord (fabricKey map.fabricIndex) ((storage.fabric map.fabricIndex).maps map.id)
    (fun map => map) (fun record map => (.ok (), { map with toKeyMapRecord := record })) map

def save (map : KeyMapData) : StorageM Unit :=
  saveRecord (fabricKey map.fabricIndex) fun storage =>
    storage.onFabric map.fabricIndex fun store =>
      { store with maps := Function.update store.maps map.id map.toKeyMapRecord }

def delete (map : KeyMapData) : StorageM Unit :=
  deleteRecord (fabricKey map.fabricIndex)
    (fun storage => (storage.fabric map.fabricIndex).maps map.id) fun storage =>
    storage.onFabric map.fabricIndex fun store =>
      { store with maps := Function.update store.maps map.id none }

/-- The loop of `Get` and of both `Find`s, with so many entries left. An entry that is not
found leaves an identifier that no entry has. -/
def scan (storage : GroupStorage) (found : KeyMapData → Bool) :
  Nat → KeyMapData → Bool × KeyMapData
  | 0, map => (false, { map with id := map.maxId + 1 })
  | left + 1, map =>
    match map.load storage with
    | (.error _, map) => (false, { map with id := map.maxId + 1 })
    | (.ok (), map) =>
      if found map then (true, map)
      else scan storage found left
        { map with
          maxId := max map.id map.maxId
          first := false
          prev := map.id
          id := map.next
          index := map.index + 1 }

def start (map : KeyMapData) (fabric : FabricData) : KeyMapData :=
  { map with
    fabricIndex := fabric.fabricIndex
    id := fabric.firstMap
    maxId := 0
    index := 0
    first := true }

def get (map : KeyMapData) (storage : GroupStorage) (fabric : FabricData) (targetIndex : Nat) :
  Bool × KeyMapData :=
  scan storage (fun map => map.index = targetIndex) fabric.mapCount (map.start fabric)

def find (map : KeyMapData) (storage : GroupStorage) (fabric : FabricData) (target : GroupKey) :
  Bool × KeyMapData :=
  scan storage (fun map => map.groupId = target.groupId ∧ map.keysetId = target.keysetId)
    fabric.mapCount (map.start fabric)

/-- The `Find` of a key set, which returns the index of the entry it finds. -/
def findKeyset (map : KeyMapData) (storage : GroupStorage) (fabric : FabricData)
  (findId : KeysetId) : Option Nat × KeyMapData :=
  match scan storage (fun map => map.keysetId = findId) fabric.mapCount (map.start fabric) with
  | (true, map) => (some map.index, map)
  | (false, map) => (none, map)

end KeyMapData

structure EndpointData extends EndpointRecord where
  fabricIndex : FabricIndex := kUndefinedFabricIndex
  groupId : GroupId := kUndefinedGroupId
  index : Nat := 0
  prev : EndpointId := 0
  first : Bool := true

namespace EndpointData

def clear (endpoint : EndpointData) : EndpointData := { endpoint with next := kInvalidEndpointId }

def load (endpoint : EndpointData) (storage : GroupStorage) :
  Except ChipError Unit × EndpointData :=
  loadRecord (fabricKey endpoint.fabricIndex)
    ((storage.fabric endpoint.fabricIndex).endpoints endpoint.groupId endpoint.endpointId) clear
    (fun record endpoint => (.ok (), { endpoint with toEndpointRecord := record })) endpoint

def save (endpoint : EndpointData) : StorageM Unit :=
  saveRecord (fabricKey endpoint.fabricIndex) fun storage =>
    storage.onFabric endpoint.fabricIndex fun store =>
      { store with
        endpoints := Function.update store.endpoints endpoint.groupId
          (Function.update (store.endpoints endpoint.groupId) endpoint.endpointId
            endpoint.toEndpointRecord) }

def delete (endpoint : EndpointData) : StorageM Unit :=
  deleteRecord (fabricKey endpoint.fabricIndex)
    (fun storage =>
      (storage.fabric endpoint.fabricIndex).endpoints endpoint.groupId endpoint.endpointId)
    fun storage =>
    storage.onFabric endpoint.fabricIndex fun store =>
      { store with
        endpoints := Function.update store.endpoints endpoint.groupId
          (Function.update (store.endpoints endpoint.groupId) endpoint.endpointId none) }

def findLoop (storage : GroupStorage) (targetId : EndpointId) :
  Nat → EndpointData → Bool × EndpointData
  | 0, endpoint => (false, endpoint)
  | left + 1, endpoint =>
    match endpoint.load storage with
    | (.error _, endpoint) => (false, endpoint)
    | (.ok (), endpoint) =>
      if endpoint.endpointId = targetId then (true, endpoint)
      else findLoop storage targetId left
        { endpoint with
          first := false
          prev := endpoint.endpointId
          endpointId := endpoint.next
          index := endpoint.index + 1 }

def find (endpoint : EndpointData) (storage : GroupStorage) (fabric : FabricData)
  (group : GroupData) (targetId : EndpointId) : Bool × EndpointData :=
  findLoop storage targetId group.endpointCount.toNat
    { endpoint with
      fabricIndex := fabric.fabricIndex
      groupId := group.groupId
      endpointId := group.firstEndpoint
      index := 0
      first := true }

end EndpointData

structure KeySetData where
  fabricIndex : FabricIndex := kUndefinedFabricIndex
  next : KeysetId := kInvalidKeysetId
  prev : KeysetId := kInvalidKeysetId
  first : Bool := true
  keysetId : KeysetId := 0
  policy : GroupKeySecurityPolicy := .cacheAndSync
  keysCount : Fin (kEpochKeysMax + 1) := noKeysUsed
  operationalKeys : Fin kEpochKeysMax → GroupOperationalCredentials := fun _ => .zero

namespace KeySetData

def updateKey (keyset : KeySetData) : Except ChipError Unit := do
  fabricKey keyset.fabricIndex
  if keyset.keysetId = kInvalidKeysetId then .error .invalidKeyId else .ok ()

def clear (keyset : KeySetData) : KeySetData :=
  { keyset with
    policy := .cacheAndSync
    keysCount := noKeysUsed
    operationalKeys := fun _ => .zero
    next := kInvalidKeysetId }

def serialize (keyset : KeySetData) : KeySetRecord where
  policy := keyset.policy
  keysCount := keyset.keysCount
  keys i :=
    if i.val < keyset.keysCount.val then
      let key := keyset.operationalKeys i
      ⟨key.startTime, key.hash, key.encryptionKey⟩
    else ⟨0, 0, noKey⟩
  next := keyset.next

variable (crypto : GroupCrypto)

def readKey (key : StoredKey) : Except ChipError GroupOperationalCredentials :=
  (crypto.deriveGroupPrivacyKey key.encryptionKey).map fun privacyKey =>
    ⟨key.startTime, key.hash, key.encryptionKey, privacyKey⟩

/-- The keys are read in their order up to one whose privacy key cannot be derived. -/
def readKeys (keys : Fin kEpochKeysMax → StoredKey) :
  Except ChipError (Fin kEpochKeysMax → GroupOperationalCredentials) :=
  forEachKey fun i => readKey crypto (keys i)

/-- `Deserialize`. The keys of an object whose keys cannot be read are not used. -/
def deserialize (record : KeySetRecord) (keyset : KeySetData) :
  Except ChipError Unit × KeySetData :=
  let keyset := { keyset with policy := record.policy, keysCount := record.keysCount }
  match readKeys crypto record.keys with
  | .error e => (.error e, keyset)
  | .ok operationalKeys => (.ok (), { keyset with operationalKeys, next := record.next })

def load (keyset : KeySetData) (storage : GroupStorage) : Except ChipError Unit × KeySetData :=
  loadRecord keyset.updateKey ((storage.fabric keyset.fabricIndex).keysets keyset.keysetId) clear
    (deserialize crypto) keyset

def save (keyset : KeySetData) : StorageM Unit :=
  saveRecord keyset.updateKey fun storage =>
    storage.onFabric keyset.fabricIndex fun store =>
      { store with keysets := Function.update store.keysets keyset.keysetId keyset.serialize }

def delete (keyset : KeySetData) : StorageM Unit :=
  deleteRecord keyset.updateKey
    (fun storage => (storage.fabric keyset.fabricIndex).keysets keyset.keysetId) fun storage =>
    storage.onFabric keyset.fabricIndex fun store =>
      { store with keysets := Function.update store.keysets keyset.keysetId none }

def findLoop (storage : GroupStorage) (targetId : KeysetId) : Nat → KeySetData → Bool × KeySetData
  | 0, keyset => (false, keyset)
  | left + 1, keyset =>
    match keyset.load crypto storage with
    | (.error _, keyset) => (false, keyset)
    | (.ok (), keyset) =>
      if keyset.keysetId = targetId then (true, keyset)
      else findLoop storage targetId left
        { keyset with first := false, prev := keyset.keysetId, keysetId := keyset.next }

def find (keyset : KeySetData) (storage : GroupStorage) (fabric : FabricData)
  (targetId : KeysetId) : Bool × KeySetData :=
  findLoop crypto storage targetId fabric.keysetCount
    { keyset with
      fabricIndex := fabric.fabricIndex
      keysetId := fabric.firstKeyset
      first := true }

end KeySetData
end Chip.Credentials.Groups
