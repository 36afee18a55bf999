import Chip.Core.Error

/-! Subjects, targets and entries of an access control list, and the storage the example
delegate keeps them in. A subject is one node id, of whose range parts stand for groups
and for CASE authenticated tags. -/
namespace Chip.Access

inductive AuthMode where
  | none
  | pase
  | case
  | group
  deriving DecidableEq

inductive Privilege where
  | view
  | proxyView
  | operate
  | manage
  | administer
  deriving DecidableEq

def checkRequestPrivilegeAgainstEntryPrivilege (requestPrivilege : Privilege) :
  Privilege → Bool
  | .view => requestPrivilege = .view
  | .proxyView => requestPrivilege = .proxyView || requestPrivilege = .view
  | .operate => requestPrivilege = .operate || requestPrivilege = .view
  | .manage => requestPrivilege = .manage || requestPrivilege = .operate || requestPrivilege = .view
  | .administer => requestPrivilege = .administer || requestPrivilege = .manage ||
      requestPrivilege = .operate || requestPrivilege = .view || requestPrivilege = .proxyView

abbrev NodeId := UInt64

def undefinedNodeId : NodeId := 0

def isOperationalNodeId (nodeId : NodeId) : Bool :=
  nodeId ≠ undefinedNodeId && nodeId ≤ 0xFFFFFFEFFFFFFFFF

def isGroupId (nodeId : NodeId) : Bool := 0xFFFFFFFFFFFF0000 ≤ nodeId

def isCASEAuthTag (nodeId : NodeId) : Bool :=
  0xFFFFFFFD00000000 ≤ nodeId && nodeId ≤ 0xFFFFFFFDFFFFFFFF

def caseAuthTagFromNodeId (nodeId : NodeId) : UInt32 := (nodeId &&& 0xFFFFFFFF).toUInt32

def groupIdFromNodeId (nodeId : NodeId) : UInt16 := (nodeId &&& 0xFFFF).toUInt16

def getCASEAuthTagIdentifier (tag : UInt32) : UInt16 := ((tag &&& 0xFFFF0000) >>> 16).toUInt16

def getCASEAuthTagVersion (tag : UInt32) : UInt16 := (tag &&& 0xFFFF).toUInt16

/-- `kUndefinedCAT`, which an unused element of `CATValues` holds. -/
def undefinedCAT : UInt32 := 0

def checkSubjectAgainstCATs (values : List UInt32) (subject : NodeId) : Bool :=
  isCASEAuthTag subject &&
    values.any fun catFromNoc =>
      catFromNoc ≠ undefinedCAT &&
      getCASEAuthTagIdentifier catFromNoc =
        getCASEAuthTagIdentifier (caseAuthTagFromNodeId subject) &&
      0 < getCASEAuthTagVersion (caseAuthTagFromNodeId subject) &&
      getCASEAuthTagVersion (caseAuthTagFromNodeId subject) ≤ getCASEAuthTagVersion catFromNoc

structure SubjectDescriptor where
  fabricIndex : UInt8
  authMode : AuthMode
  subject : NodeId
  cats : List UInt32

structure RequestPath where
  cluster : UInt32
  endpoint : UInt16

def isValidCaseNodeId (nodeId : NodeId) : Bool :=
  isOperationalNodeId nodeId ||
    isCASEAuthTag nodeId && getCASEAuthTagVersion (caseAuthTagFromNodeId nodeId) ≠ 0

def isValidGroupNodeId (nodeId : NodeId) : Bool :=
  isGroupId nodeId && groupIdFromNodeId nodeId ≠ 0

structure Target where
  cluster : Option UInt32
  endpoint : Option UInt16
  deviceType : Option UInt32

def extractIdFromMEI (mei : UInt32) : UInt16 := (mei &&& 0xFFFF).toUInt16

def extractVendorFromMEI (mei : UInt32) : UInt16 := ((mei &&& 0xFFFF0000) >>> 16).toUInt16

def isValidClusterId (clusterId : UInt32) : Bool :=
  extractVendorFromMEI clusterId = 0 && extractIdFromMEI clusterId ≤ 0x7FFF ||
  1 ≤ extractVendorFromMEI clusterId && extractVendorFromMEI clusterId ≤ 0xFFFE &&
    0xFC00 ≤ extractIdFromMEI clusterId && extractIdFromMEI clusterId ≤ 0xFFFE

def isValidEndpointId (endpointId : UInt16) : Bool := endpointId ≠ 0xFFFF

def isValidDeviceTypeId (deviceTypeId : UInt32) : Bool :=
  deviceTypeId &&& 0xFFFF0000 ≤ 0xFFFE0000 && deviceTypeId &&& 0xFFFF ≤ 0xBFFF

/-- The test of one target in `AccessControl::IsValid`. -/
def Target.isValid (target : Target) : Bool :=
  (target.cluster.isSome || target.endpoint.isSome || target.deviceType.isSome) &&
  !(target.endpoint.isSome && target.deviceType.isSome) &&
  target.cluster.all isValidClusterId && target.endpoint.all isValidEndpointId &&
  target.deviceType.all isValidDeviceTypeId

/-- A target in two words: an endpoint takes the place of the device type, marked by a
device type id that no device type has. -/
structure TargetStorage where
  mCluster : UInt32
  mDeviceType : UInt32
  deriving DecidableEq

namespace TargetStorage

def clusterEmpty : UInt32 := 0xFFFFFFFF
def deviceTypeEmpty : UInt32 := 0xFFFFFFFF
def endpointMagic : UInt32 := 0xEEEE

def cleared : TargetStorage := ⟨clusterEmpty, deviceTypeEmpty⟩

def isEmpty (storage : TargetStorage) : Bool :=
  storage.mCluster = clusterEmpty && storage.mDeviceType = deviceTypeEmpty

def isValidCluster (cluster : UInt32) : Bool :=
  (cluster &&& 0xFFFF ≤ 0x7FFF ||
    0xFC00 ≤ cluster &&& 0xFFFF && cluster &&& 0xFFFF ≤ 0xFFFE) &&
  cluster &&& 0xFFFF0000 ≤ 0xFFFE0000

def isValidDeviceType (deviceType : UInt32) : Bool :=
  deviceType &&& 0xFFFF ≤ 0xBFFF && deviceType &&& 0xFFFF0000 ≤ 0xFFFE0000

/-- `TargetStorage::IsValid`, which every endpoint passes. -/
def isValid (target : Target) : Bool :=
  (target.cluster.isSome || target.endpoint.isSome || target.deviceType.isSome) &&
  !(target.endpoint.isSome && target.deviceType.isSome) &&
  target.cluster.all isValidCluster && target.deviceType.all isValidDeviceType

def encode (target : Target) : TargetStorage where
  mCluster := target.cluster.getD clusterEmpty
  mDeviceType :=
    match target.endpoint, target.deviceType with
    | some endpoint, _ => endpoint.toUInt32 <<< 16 ||| endpointMagic
    | none, some deviceType => deviceType
    | none, none => deviceTypeEmpty

def decode (storage : TargetStorage) : Target where
  cluster := if storage.mCluster ≠ clusterEmpty then some storage.mCluster else none
  endpoint :=
    if storage.mDeviceType ≠ deviceTypeEmpty ∧ storage.mDeviceType &&& 0xFFFF = endpointMagic then
      some (storage.mDeviceType >>> 16).toUInt16
    else none
  deviceType :=
    if storage.mDeviceType ≠ deviceTypeEmpty ∧ storage.mDeviceType &&& 0xFFFF ≠ endpointMagic then
      some storage.mDeviceType
    else none

end TargetStorage

/-- The storage of one entry. Its arrays have the length the build chooses; the first
empty element ends the list they hold. -/
structure EntryStorage where
  mInUse : Bool
  mFabricIndex : UInt8
  mAuthMode : AuthMode
  mPrivilege : Privilege
  mSubjects : List NodeId
  mTargets : List TargetStorage
  deriving DecidableEq

namespace EntryStorage

/-- `Clear`, for arrays of these sizes. -/
def cleared (maxSubjects maxTargets : Nat) : EntryStorage :=
  ⟨false, 0, .pase, .view, List.replicate maxSubjects undefinedNodeId,
    List.replicate maxTargets .cleared⟩

/-- What `GetSubjectCount` and `GetSubject` read. -/
def subjects (storage : EntryStorage) : List NodeId :=
  storage.mSubjects.takeWhile (· ≠ undefinedNodeId)

/-- What `GetTargetCount` and `GetTarget` read. -/
def targets (storage : EntryStorage) : List Target :=
  (storage.mTargets.takeWhile fun target => !target.isEmpty).map TargetStorage.decode

def isValid (storage : EntryStorage) : Bool :=
  storage.mFabricIndex ≠ 0 &&
  (storage.mAuthMode = .case || storage.mAuthMode = .group && storage.mPrivilege ≠ .administer) &&
  storage.subjects.all (fun subject =>
    storage.mAuthMode = .case && isValidCaseNodeId subject ||
      storage.mAuthMode = .group && isValidGroupNodeId subject) &&
  storage.targets.all Target.isValid

end EntryStorage
end Chip.Access
