import Chip.Credentials.GroupRecords

/-! The calls of `GroupDataProviderImpl` on the records in storage. A call that fails half way
leaves what it has stored so far. The listener, which a call tells of the groups that are added
and removed, does not call back. -/
namespace Chip.Credentials.Groups

/-- The limits the provider is built with, and the cryptographic library. -/
structure GroupDataProvider where
  mMaxGroupsPerFabric : UInt16
  mMaxGroupKeysPerFabric : UInt16
  crypto : GroupCrypto

variable (provider : GroupDataProvider)

/-- The loop of `RemoveEndpoints`. -/
def removeEndpointsLoop : Nat → EndpointData → StorageM Unit
  | 0, _ => pure ()
  | left + 1, endpoint => do
      let storage ← Proc.read
      match endpoint.load storage with
      | (.error e, _) => Proc.fail e
      | (.ok (), endpoint) => do
          let _ ← Proc.attempt endpoint.delete
          removeEndpointsLoop left { endpoint with endpointId := endpoint.next }

def removeEndpoints (fabricIndex : FabricIndex) (groupId : GroupId) : StorageM Unit := do
  let storage ← Proc.read
  match ({ fabricIndex } : FabricData).load storage with
  | (.error _, _) => Proc.fail .invalidFabricIndex
  | (.ok (), fabric) => do
      let (found, group) := ({} : GroupData).find storage fabric groupId
      Proc.verify found .keyNotFound
      removeEndpointsLoop group.endpointCount.toNat
        { fabricIndex, groupId := group.groupId, endpointId := group.firstEndpoint }
      ({ group with firstEndpoint := kInvalidEndpointId, endpointCount := 0 } : GroupData).save

/-- Let the group before another one lead to `next`. -/
def relinkGroup (fabricIndex : FabricIndex) (prev next : GroupId) : StorageM Unit := do
  let storage ← Proc.read
  match ({ fabricIndex, groupId := prev } : GroupData).load storage with
  | (.error e, _) => Proc.fail e
  | (.ok (), prev) => ({ prev with next } : GroupData).save

def setGroupInfoAt (fabricIndex : FabricIndex) (index : Nat) (info : GroupInfo) :
  StorageM Unit := do
  let fabric ← FabricData.loadedOrDefault fabricIndex
  let storage ← Proc.read
  -- If the group exists, the index must match
  let (found, group) := ({} : GroupData).find storage fabric info.groupId
  Proc.verify (!found ∨ group.index = index) .duplicateKeyId
  let group := ({ group with groupId := info.groupId, endpointCount := 0 } : GroupData).setName
    info.name
  if found then group.save
  else do
    let (group, fabric) ← if index < fabric.groupCount then do
        -- Replace existing entry with a new group
        let (_, oldGroup) := ({} : GroupData).get storage fabric index
        removeEndpoints fabricIndex oldGroup.groupId
        oldGroup.delete
        pure (({ group with
          first := oldGroup.first
          prev := oldGroup.prev
          next := oldGroup.next } : GroupData), fabric)
      else do
        -- Insert last
        Proc.verify (fabric.groupCount = index) .invalidArgument
        Proc.verify (fabric.groupCount < provider.mMaxGroupsPerFabric.toNat) .invalidListLength
        pure (group, { fabric with groupCount := fabric.groupCount + 1 })
    group.save
    let fabric ← if group.first then pure { fabric with firstGroup := group.groupId }
      else do
        relinkGroup fabricIndex group.prev group.groupId
        pure fabric
    fabric.save

def setGroupInfo (fabricIndex : FabricIndex) (info : GroupInfo) : StorageM Unit := do
  let fabric ← FabricData.loadedOrDefault fabricIndex
  let storage ← Proc.read
  let (found, group) := ({} : GroupData).find storage fabric info.groupId
  if found then (group.setName info.name).save
  else
    setGroupInfoAt provider fabricIndex fabric.groupCount
      { groupId := info.groupId, name := copyString info.name }

/-- The loop of `RemoveGroupInfoAt`, which ends at an endpoint that cannot be loaded. -/
def dropEndpoints : Nat → EndpointData → StorageM Unit
  | 0, _ => pure ()
  | left + 1, endpoint => do
      let storage ← Proc.read
      match endpoint.load storage with
      | (.error _, _) => pure ()
      | (.ok (), endpoint) => do
          let _ ← Proc.attempt endpoint.delete
          dropEndpoints left { endpoint with endpointId := endpoint.next }

def removeGroupInfoAt (fabricIndex : FabricIndex) (index : Nat) : StorageM Unit := do
  let fabric ← FabricData.loaded fabricIndex
  let storage ← Proc.read
  let (found, group) := ({} : GroupData).get storage fabric index
  Proc.verify found .notFound
  dropEndpoints group.endpointCount.toNat
    { fabricIndex, groupId := group.groupId, endpointId := group.firstEndpoint }
  group.delete
  let fabric ← if group.first then pure { fabric with firstGroup := group.next }
    else do
      relinkGroup fabricIndex group.prev group.next
      pure fabric
  ({ fabric with groupCount := fabric.groupCount - 1 } : FabricData).save

def removeGroupInfo (fabricIndex : FabricIndex) (groupId : GroupId) : StorageM Unit := do
  let fabric ← FabricData.loaded fabricIndex
  let storage ← Proc.read
  let (found, group) := ({} : GroupData).find storage fabric groupId
  Proc.verify found .notFound
  removeGroupInfoAt fabricIndex group.index

/-- Let the endpoint before another one lead to `next`. -/
def relinkEndpoint (fabricIndex : FabricIndex) (groupId : GroupId) (prev next : EndpointId) :
  StorageM Unit := do
  let storage ← Proc.read
  match ({ fabricIndex, groupId, endpointId := prev } : EndpointData).load storage with
  | (.error e, _) => Proc.fail e
  | (.ok (), prev) => ({ prev with next } : EndpointData).save

def addEndpoint (fabricIndex : FabricIndex) (groupId : GroupId) (endpointId : EndpointId) :
  StorageM Unit := do
  let fabric ← FabricData.loadedOrDefault fabricIndex
  let storage ← Proc.read
  let (found, group) := ({} : GroupData).find storage fabric groupId
  if !found then do
    -- New group
    Proc.verify (fabric.groupCount < provider.mMaxGroupsPerFabric.toNat) .invalidListLength
    ({ fabricIndex, groupId, endpointId } : EndpointData).save
    ({ group with
      groupId
      name := []
      firstEndpoint := endpointId
      endpointCount := 1
      next := fabric.firstGroup
      prev := kUndefinedGroupId } : GroupData).save
    ({ fabric with
      firstGroup := groupId
      groupCount := fabric.groupCount + 1 } : FabricData).save
  else do
    -- Existing group
    let (found, endpoint) := ({} : EndpointData).find storage fabric group endpointId
    if found then pure ()
    else do
      -- New endpoint, insert last
      let endpoint : EndpointData := { endpoint with endpointId }
      endpoint.save
      let group ← if endpoint.first then pure { group with firstEndpoint := endpointId }
        else do
          endpoint.save
          relinkEndpoint fabricIndex group.groupId endpoint.prev endpointId
          pure group
      ({ group with endpointCount := group.endpointCount + 1 } : GroupData).save

def removeEndpoint (fabricIndex : FabricIndex) (groupId : GroupId) (endpointId : EndpointId) :
  StorageM Unit := do
  let fabric ← FabricData.loaded fabricIndex
  let storage ← Proc.read
  let (found, group) := ({} : GroupData).find storage fabric groupId
  Proc.verify found .notFound
  let (found, endpoint) := ({} : EndpointData).find storage fabric group endpointId
  Proc.verify found .notFound
  let _ ← Proc.attempt endpoint.delete
  let group ← if endpoint.first then pure { group with firstEndpoint := endpoint.next }
    else do
      relinkEndpoint fabricIndex group.groupId endpoint.prev endpoint.next
      pure group
  if group.endpointCount > 1 then
    ({ group with endpointCount := group.endpointCount - 1 } : GroupData).save
  else
    -- No more endpoints, remove the group
    removeGroupInfoAt fabricIndex group.index

/-- The loop over the groups of the `RemoveEndpoint` that is given no group. -/
def removeEndpointLoop (fabric : FabricData) (endpointId : EndpointId) :
  Nat → GroupData → StorageM Unit
  | 0, _ => pure ()
  | left + 1, group => do
      let storage ← Proc.read
      match group.load storage with
      | (.error _, _) => pure ()
      | (.ok (), group) => do
          if (({} : EndpointData).find storage fabric group endpointId).1 then
            removeEndpoint fabric.fabricIndex group.groupId endpointId
          removeEndpointLoop fabric endpointId left { group with groupId := group.next }

def removeEndpointOfFabric (fabricIndex : FabricIndex) (endpointId : EndpointId) :
  StorageM Unit := do
  let fabric ← FabricData.loaded fabricIndex
  removeEndpointLoop fabric endpointId fabric.groupCount
    { fabricIndex, groupId := fabric.firstGroup }

/-- Let the entry before another one lead to `next`. -/
def relinkMap (fabricIndex : FabricIndex) (prev next : UInt16) : StorageM Unit := do
  let storage ← Proc.read
  match ({ fabricIndex, id := prev } : KeyMapData).load storage with
  | (.error e, _) => Proc.fail e
  | (.ok (), prev) => ({ prev with next } : KeyMapData).save

def setGroupKeyAt (fabricIndex : FabricIndex) (index : Nat) (inMap : GroupKey) :
  StorageM Unit := do
  let fabric ← FabricData.loadedOrDefault fabricIndex
  let storage ← Proc.read
  -- If the group exists, the index must match
  let (found, map) := ({ fabricIndex } : KeyMapData).find storage fabric inMap
  Proc.verify (!found ∨ map.index = index) .duplicateKeyId
  let (found, map) := map.get storage fabric index
  let map : KeyMapData := { map with groupId := inMap.groupId, keysetId := inMap.keysetId }
  if found then map.save
  else do
    -- Insert last
    Proc.verify (fabric.mapCount = index) .invalidArgument
    Proc.verify (fabric.mapCount < provider.mMaxGroupsPerFabric.toNat) .invalidListLength
    ({ map with next := 0 } : KeyMapData).save
    let fabric ← if map.first then pure { fabric with firstMap := map.id }
      else do
        relinkMap fabricIndex map.prev map.id
        pure fabric
    ({ fabric with mapCount := fabric.mapCount + 1 } : FabricData).save

def getGroupKeyAt (fabricIndex : FabricIndex) (index : Nat) : StorageM GroupKey := do
  let fabric ← FabricData.loaded fabricIndex
  let storage ← Proc.read
  let (found, map) := ({} : KeyMapData).get storage fabric index
  Proc.verify found .notFound
  pure { groupId := map.groupId, keysetId := map.keysetId }

def removeGroupKeyAt (fabricIndex : FabricIndex) (index : Nat) : StorageM Unit := do
  let fabric ← FabricData.loaded fabricIndex
  let storage ← Proc.read
  let (found, map) := ({} : KeyMapData).get storage fabric index
  Proc.verify found .notFound
  map.delete
  let fabric ← if map.first then pure { fabric with firstMap := map.next }
    else do
      relinkMap fabricIndex map.prev map.next
      pure fabric
  ({ fabric with mapCount := fabric.mapCount - 1 } : FabricData).save

/-- The loop of `RemoveGroupKeys`, which ends at an entry that cannot be loaded. -/
def dropGroupKeys : Nat → KeyMapData → StorageM Unit
  | 0, _ => pure ()
  | left + 1, map => do
      let storage ← Proc.read
      match map.load storage with
      | (.error _, _) => pure ()
      | (.ok (), map) => do
          let _ ← Proc.attempt map.delete
          dropGroupKeys left { map with id := map.next }

def removeGroupKeys (fabricIndex : FabricIndex) : StorageM Unit := do
  let storage ← Proc.read
  match ({ fabricIndex } : FabricData).load storage with
  | (.error _, _) => Proc.fail .invalidFabricIndex
  | (.ok (), fabric) => do
      dropGroupKeys fabric.mapCount { fabricIndex, id := fabric.firstMap }
      ({ fabric with firstMap := 0, mapCount := 0 } : FabricData).save

/-- The key that `SetKeySet` keeps for an epoch key. -/
def operationalKey (compressedFabricId : List UInt8) (keyset : KeySet) (i : Fin kEpochKeysMax) :
  Except ChipError GroupOperationalCredentials :=
  let credentials := { GroupOperationalCredentials.zero with
    startTime := (keyset.epochKeys i).startTime }
  if i.val < keyset.numKeysUsed.val then
    provider.crypto.deriveGroupOperationalCredentials (keyset.epochKeys i).key compressedFabricId
      credentials
  else pure credentials

/-- The keys are derived in their order up to one that cannot be derived. -/
def operationalKeys (compressedFabricId : List UInt8) (keyset : KeySet) :
  Except ChipError (Fin kEpochKeysMax → GroupOperationalCredentials) :=
  forEachKey fun i => operationalKey provider compressedFabricId keyset i

def setKeySet (fabricIndex : FabricIndex) (compressedFabricId : List UInt8) (inKeyset : KeySet) :
  StorageM Unit := do
  let fabric ← FabricData.loadedOrDefault fabricIndex
  let storage ← Proc.read
  -- Search existing keyset
  let (found, keyset) := ({} : KeySetData).find provider.crypto storage fabric inKeyset.keysetId
  let operationalKeys ← Proc.lift (operationalKeys provider compressedFabricId inKeyset)
  let keyset : KeySetData := { keyset with
    keysetId := inKeyset.keysetId
    policy := inKeyset.policy
    keysCount := inKeyset.numKeysUsed
    operationalKeys }
  if found then
    -- Update existing keyset info, keep next
    keyset.save
  else do
    -- New keyset
    Proc.verify (fabric.keysetCount < provider.mMaxGroupKeysPerFabric.toNat) .invalidListLength
    -- Insert first
    ({ keyset with next := fabric.firstKeyset } : KeySetData).save
    ({ fabric with
      keysetCount := fabric.keysetCount + 1
      firstKeyset := inKeyset.keysetId } : FabricData).save

/-- Let the key set before another one lead to `next`. -/
def relinkKeyset (fabricIndex : FabricIndex) (prev next : KeysetId) : StorageM Unit := do
  let storage ← Proc.read
  match ({ fabricIndex, keysetId := prev } : KeySetData).load provider.crypto storage with
  | (.error e, _) => Proc.fail e
  | (.ok (), prev) => ({ prev with next } : KeySetData).save

/-- The loop of `RemoveKeySet` over the entries of the key map that name the key set. The fabric
is read again for each of them; the errors are ignored. -/
def removeMappings (targetId : KeysetId) : Nat → FabricData → KeyMapData → StorageM Unit
  | 0, _, _ => pure ()
  | left + 1, fabric, map => do
      let storage ← Proc.read
      let fabric := (fabric.load storage).2
      match map.findKeyset storage fabric targetId with
      | (none, _) => pure ()
      | (some index, map) => do
          let _ ← Proc.attempt (removeGroupKeyAt fabric.fabricIndex index)
          removeMappings targetId left fabric map

def removeKeySet (fabricIndex : FabricIndex) (targetId : KeysetId) : StorageM Unit := do
  let fabric ← FabricData.loaded fabricIndex
  let storage ← Proc.read
  let (found, keyset) := ({} : KeySetData).find provider.crypto storage fabric targetId
  Proc.verify found .notFound
  keyset.delete
  let fabric ← if keyset.first then pure { fabric with firstKeyset := keyset.next }
    else do
      relinkKeyset provider fabricIndex keyset.prev keyset.next
      pure fabric
  let fabric : FabricData := { fabric with keysetCount := fabric.keysetCount - 1 }
  fabric.save
  -- Removing a key set also removes the associated group mappings
  removeMappings targetId fabric.mapCount fabric { id := 1 }

/-- Remove so many entries by their index, the last one first. The errors are ignored. -/
def removeFromLast (removeAt : Nat → StorageM Unit) : Nat → StorageM Unit
  | 0 => pure ()
  | left + 1 => do
      let _ ← Proc.attempt (removeAt left)
      removeFromLast removeAt left

/-- The loop of `RemoveFabric` over the key sets. -/
def removeKeySets (fabricIndex : FabricIndex) : Nat → KeySetData → StorageM Unit
  | 0, _ => pure ()
  | left + 1, keyset => do
      let storage ← Proc.read
      match keyset.load provider.crypto storage with
      | (.error _, _) => pure ()
      | (.ok (), keyset) => do
          let _ ← Proc.attempt (removeKeySet provider fabricIndex keyset.keysetId)
          removeKeySets fabricIndex left { keyset with keysetId := keyset.next }

def removeFabric (fabricIndex : FabricIndex) : StorageM Unit := do
  let fabric ← FabricData.loadedOrDefault fabricIndex
  removeFromLast (removeGroupKeyAt fabricIndex) fabric.mapCount
  removeFromLast (removeGroupInfoAt fabricIndex) fabric.groupCount
  removeKeySets provider fabricIndex fabric.keysetCount
    { fabricIndex, keysetId := fabric.firstKeyset }
  fabric.delete

inductive GroupCall where
  | setGroupInfo (fabricIndex : FabricIndex) (info : GroupInfo)
  | removeGroupInfo (fabricIndex : FabricIndex) (groupId : GroupId)
  | setGroupInfoAt (fabricIndex : FabricIndex) (index : Nat) (info : GroupInfo)
  | removeGroupInfoAt (fabricIndex : FabricIndex) (index : Nat)
  | addEndpoint (fabricIndex : FabricIndex) (groupId : GroupId) (endpointId : EndpointId)
  | removeEndpoint (fabricIndex : FabricIndex) (groupId : GroupId) (endpointId : EndpointId)
  | removeEndpointOfFabric (fabricIndex : FabricIndex) (endpointId : EndpointId)
  | removeEndpoints (fabricIndex : FabricIndex) (groupId : GroupId)
  | setGroupKeyAt (fabricIndex : FabricIndex) (index : Nat) (map : GroupKey)
  | removeGroupKeyAt (fabricIndex : FabricIndex) (index : Nat)
  | removeGroupKeys (fabricIndex : FabricIndex)
  | setKeySet (fabricIndex : FabricIndex) (compressedFabricId : List UInt8) (keyset : KeySet)
  | removeKeySet (fabricIndex : FabricIndex) (targetId : KeysetId)
  | removeFabric (fabricIndex : FabricIndex)

def GroupCall.call : GroupCall → StorageM Unit
  | .setGroupInfo fabricIndex info => Groups.setGroupInfo provider fabricIndex info
  | .removeGroupInfo fabricIndex groupId => Groups.removeGroupInfo fabricIndex groupId
  | .setGroupInfoAt fabricIndex index info => Groups.setGroupInfoAt provider fabricIndex index info
  | .removeGroupInfoAt fabricIndex index => Groups.removeGroupInfoAt fabricIndex index
  | .addEndpoint fabricIndex groupId endpointId =>
    Groups.addEndpoint provider fabricIndex groupId endpointId
  | .removeEndpoint fabricIndex groupId endpointId =>
    Groups.removeEndpoint fabricIndex groupId endpointId
  | .removeEndpointOfFabric fabricIndex endpointId =>
    Groups.removeEndpointOfFabric fabricIndex endpointId
  | .removeEndpoints fabricIndex groupId => Groups.removeEndpoints fabricIndex groupId
  | .setGroupKeyAt fabricIndex index map => Groups.setGroupKeyAt provider fabricIndex index map
  | .removeGroupKeyAt fabricIndex index => Groups.removeGroupKeyAt fabricIndex index
  | .removeGroupKeys fabricIndex => Groups.removeGroupKeys fabricIndex
  | .setKeySet fabricIndex compressedFabricId keyset =>
    Groups.setKeySet provider fabricIndex compressedFabricId keyset
  | .removeKeySet fabricIndex targetId => Groups.removeKeySet provider fabricIndex targetId
  | .removeFabric fabricIndex => Groups.removeFabric provider fabricIndex

/-- The storage after some calls, whether or not they succeed. -/
def runCalls (storage : GroupStorage) (calls : List GroupCall) : GroupStorage :=
  calls.foldl (fun storage call => (call.call provider storage).2) storage

end Chip.Credentials.Groups
