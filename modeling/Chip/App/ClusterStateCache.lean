import Chip.App.BufferedRead
import Mathlib.Data.List.AList
import Mathlib.Data.List.Sort

/-! The cache of a server's attributes (`ClusterStateCache.cpp`), as far as the data versions of
its clusters go: the notifications about changed attributes and the events are left out. Memory
is granted whenever it is asked for. -/
namespace Chip.App

open TLV

structure ConcreteClusterPath where
  mEndpointId : UInt16
  mClusterId : UInt32
  deriving DecidableEq

def invalidEndpointId : UInt16 := 0xFFFF

def invalidClusterId : UInt32 := 0xFFFFFFFF

def invalidAttributeId : UInt32 := 0xFFFFFFFF

namespace ConcreteClusterPath

def invalid : ConcreteClusterPath := ⟨invalidEndpointId, invalidClusterId⟩

def isValid (path : ConcreteClusterPath) : Bool :=
  !(path.mEndpointId = invalidEndpointId || path.mClusterId = invalidClusterId)

end ConcreteClusterPath

namespace ConcreteDataAttributePath

def cluster (path : ConcreteDataAttributePath) : ConcreteClusterPath :=
  ⟨path.mEndpointId, path.mClusterId⟩

def isListItemOperation (path : ConcreteDataAttributePath) : Bool :=
  path.mListOp ≠ .notList && path.mListOp ≠ .replaceAll

end ConcreteDataAttributePath

structure AttributePathParams where
  mEndpointId : UInt16
  mClusterId : UInt32
  mAttributeId : UInt32
  deriving DecidableEq

namespace AttributePathParams

def hasWildcardEndpointId (path : AttributePathParams) : Bool :=
  path.mEndpointId = invalidEndpointId

def hasWildcardClusterId (path : AttributePathParams) : Bool :=
  path.mClusterId = invalidClusterId

def hasWildcardAttributeId (path : AttributePathParams) : Bool :=
  path.mAttributeId = invalidAttributeId

/-- `IsAttributePathSupersetOf` a concrete attribute. -/
def isSupersetOf (path : AttributePathParams) (cluster : ConcreteClusterPath) (attributeId : UInt32) :
  Bool :=
  (path.hasWildcardEndpointId || path.mEndpointId = cluster.mEndpointId) &&
    (path.hasWildcardClusterId || path.mClusterId = cluster.mClusterId) &&
    (path.hasWildcardAttributeId || path.mAttributeId = attributeId)

def intersects (path other : AttributePathParams) : Bool :=
  (path.hasWildcardEndpointId || other.hasWildcardEndpointId ||
      path.mEndpointId = other.mEndpointId) &&
    (path.hasWildcardClusterId || other.hasWildcardClusterId || path.mClusterId = other.mClusterId) &&
    (path.hasWildcardAttributeId || other.hasWildcardAttributeId ||
      path.mAttributeId = other.mAttributeId)

def includesAttributesInCluster (path : AttributePathParams) (cluster : ConcreteClusterPath) : Bool :=
  (path.hasWildcardEndpointId || path.mEndpointId = cluster.mEndpointId) &&
    (path.hasWildcardClusterId || path.mClusterId = cluster.mClusterId)

def includesAllAttributesInCluster (path : AttributePathParams) (cluster : ConcreteClusterPath) :
  Bool :=
  path.includesAttributesInCluster cluster && path.hasWildcardAttributeId

end AttributePathParams

structure DataVersionFilter where
  cluster : ConcreteClusterPath
  mDataVersion : UInt32
  deriving DecidableEq

/-- `AttributeState`: the status, the data, or only the size of the data. -/
inductive AttributeState where
  | status (status : StatusIB)
  | data (data : Bytes)
  | size (size : Nat)
  deriving DecidableEq

structure ClusterState where
  mAttributes : AList fun _ : UInt32 => AttributeState
  mPendingDataVersion : Option UInt32
  mCommittedDataVersion : Option UInt32

def ClusterState.empty : ClusterState := ⟨∅, none, none⟩

structure ClusterStateCache where
  mCacheData : Bool
  mCache : AList fun _ : ConcreteClusterPath => ClusterState
  mRequestPathSet : List AttributePathParams
  mLastReportDataPath : ConcreteClusterPath

namespace ClusterStateCache

def initial (cacheData : Bool) : ClusterStateCache := ⟨cacheData, ∅, [], .invalid⟩

/-- `mCache[endpoint][cluster]`, where a missing entry counts as an empty one. -/
def clusterState (cache : ClusterStateCache) (path : ConcreteClusterPath) : ClusterState :=
  (cache.mCache.lookup path).getD .empty

def modifyCluster (path : ConcreteClusterPath) (f : ClusterState → ClusterState)
  (cache : ClusterStateCache) : ClusterStateCache :=
  { cache with mCache := cache.mCache.insert path (f (cache.clusterState path)) }

/-- A path with wildcards in the request set covers the whole cluster. -/
def covers (cache : ClusterStateCache) (path : ConcreteClusterPath) : Bool :=
  cache.mRequestPathSet.any fun params => params.includesAllAttributesInCluster path

def commitPendingDataVersion (cache : ClusterStateCache) : ClusterStateCache :=
  if cache.mLastReportDataPath.isValid &&
      (cache.clusterState cache.mLastReportDataPath).mPendingDataVersion.isSome then
    cache.modifyCluster cache.mLastReportDataPath fun state =>
      { state with
        mCommittedDataVersion := state.mPendingDataVersion
        mPendingDataVersion := none }
  else cache

def sizeOfStatusIB (status : StatusIB) : Nat :=
  5 + if status.mClusterStatus.isSome then 3 else 0

/-- Copy an element into a new buffer of a size: the bytes written. -/
def copyToBuffer (reader : TLVReader) (size : Nat) : Except ChipError Bytes :=
  match copyElement anonymousTag reader (TLVWriter.init size) with
  | (.error e, _) => .error e
  | (.ok _, writer) => .ok writer.mBuf

def getElementTLVSize (reader : TLVReader) : Except ChipError Nat := do
  let bytes ← copyToBuffer reader reader.mMaxLen
  .ok bytes.length

def dataState (cacheData : Bool) (reader : TLVReader) : Except ChipError AttributeState := do
  let elementSize ← getElementTLVSize reader
  if cacheData then do
    let bytes ← copyToBuffer reader elementSize
    .ok (.data bytes)
  else .ok (.size elementSize)

/-- The data versions when data arrives: the committed version is cleared, the pending version of
the cluster before is committed, and that of this one is set when the request covers it. -/
def updateVersions (path : ConcreteDataAttributePath) (cache : ClusterStateCache) :
  ClusterStateCache :=
  let cache := cache.modifyCluster path.cluster fun state =>
    { state with mCommittedDataVersion := none }
  let cache :=
    if cache.mLastReportDataPath.isValid && cache.mLastReportDataPath ≠ path.cluster then
      cache.commitPendingDataVersion
    else cache
  let cache :=
    if cache.covers path.cluster then
      cache.modifyCluster path.cluster fun state =>
        { state with mPendingDataVersion := path.mDataVersion }
    else cache
  { cache with mLastReportDataPath := path.cluster }

def setAttribute (path : ConcreteDataAttributePath) (value : AttributeState)
  (cache : ClusterStateCache) : ClusterStateCache :=
  cache.modifyCluster path.cluster fun state =>
    { state with mAttributes := state.mAttributes.insert path.mAttributeId value }

def updateCache (path : ConcreteDataAttributePath) (data : Option TLVReader) (status : StatusIB) :
  Proc ChipError ClusterStateCache Unit := do
  let cache ← Proc.read
  match data with
  | some reader =>
    match dataState cache.mCacheData reader with
    | .error e => Proc.fail e
    | .ok state => Proc.modify fun cache => (cache.updateVersions path).setAttribute path state
  | none =>
    let state : AttributeState :=
      if cache.mCacheData then .status status else .size (sizeOfStatusIB status)
    Proc.modify (setAttribute path state)

/-- `OnAttributeData`, which drops the error of `UpdateCache`. A single list item stops the
program. -/
def onAttributeData (path : ConcreteDataAttributePath) (data : Option TLVReader)
  (status : StatusIB) (cache : ClusterStateCache) : Option ClusterStateCache :=
  if path.isListItemOperation then none else some (updateCache path data status cache).2

def onReportBegin (cache : ClusterStateCache) : ClusterStateCache :=
  { cache with mLastReportDataPath := .invalid }

def onReportEnd (cache : ClusterStateCache) : ClusterStateCache :=
  { cache.commitPendingDataVersion with mLastReportDataPath := .invalid }

def onDone (cache : ClusterStateCache) : ClusterStateCache := { cache with mRequestPathSet := [] }

def attributeSize : AttributeState → Option Nat
  | .status status => some (sizeOfStatusIB status)
  | .size size => some size
  | .data data =>
    match next (TLVReader.init data data.length) with
    | (.error _, _) => none
    | (.ok (), reader) =>
      match skip reader with
      | (.error _, _) => none
      | (.ok (), reader) => some reader.getLengthRead

/-- The filters of the clusters with a committed version and some data, with the sizes. The loop
stops at an attribute that cannot be read. -/
def collectFilters : List ((_ : ConcreteClusterPath) × ClusterState) →
  List (DataVersionFilter × Nat) × Bool
  | [] => ([], true)
  | ⟨path, state⟩ :: rest =>
    match state.mCommittedDataVersion with
    | none => collectFilters rest
    | some version =>
      match state.mAttributes.entries.mapM fun entry => attributeSize entry.2 with
      | none => ([], false)
      | some sizes =>
        let (filters, complete) := collectFilters rest
        if sizes.sum = 0 then (filters, complete)
        else ((⟨path, version⟩, sizes.sum) :: filters, complete)

/-- `GetSortedFilters`, which does not sort when it stops early. `std::sort` may give filters of
the same size in any order; here they keep theirs. -/
def getSortedFilters (cache : ClusterStateCache) : List (DataVersionFilter × Nat) :=
  match collectFilters cache.mCache.entries with
  | (filters, true) => filters.insertionSort fun x y => y.2 ≤ x.2
  | (filters, false) => filters

/-- The set of the request paths after a path is inserted. Two paths with the same endpoint and
cluster are equal to its comparator. -/
def insertRequestPath (set : List AttributePathParams) (path : AttributePathParams) :
  List AttributePathParams :=
  if set.any fun other =>
      other.mEndpointId = path.mEndpointId && other.mClusterId = path.mClusterId then set
  else set ++ [path]

/-- The paths that cover clusters as a whole, when no other path asks for one attribute in
them. -/
def wholeClusterPaths (paths : List AttributePathParams) : List AttributePathParams :=
  paths.filter fun path => path.hasWildcardAttributeId &&
    !paths.any fun other => !other.hasWildcardAttributeId && path.intersects other

/-- `OnUpdateDataVersionFilterList`, when the message has room for some number of filters: the
filters that are encoded. -/
def onUpdateDataVersionFilterList (paths : List AttributePathParams) (room : Nat)
  (cache : ClusterStateCache) : List DataVersionFilter × ClusterStateCache :=
  let filters := (cache.getSortedFilters.map Prod.fst).filter fun filter =>
    paths.any fun path => path.includesAttributesInCluster filter.cluster
  (filters.take room,
    { cache with
      mRequestPathSet := (wholeClusterPaths paths).foldl insertRequestPath cache.mRequestPathSet })

end ClusterStateCache

end Chip.App
