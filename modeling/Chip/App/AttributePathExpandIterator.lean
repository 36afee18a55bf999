import Chip.App.ClusterStateCache

/-! The iterator over the attributes that a list of attribute paths selects
(`AttributePathExpandIterator.cpp`), on the metadata of a device. -/
namespace Chip.App.PathExpansion

structure ClusterMetadata where
  clusterId : UInt32
  attributes : List UInt32

structure EndpointMetadata where
  endpointId : UInt16
  isEnabled : Bool
  clusters : List ClusterMetadata

/-- `GlobalAttributesNotInMetadata`; a build may lack the event list. -/
def globalAttributesNotInMetadata (enableEventListAttribute : Bool) : List UInt32 :=
  [0xFFF8, 0xFFF9] ++ (if enableEventListAttribute then [0xFFFA] else []) ++ [0xFFFB]

/-- The endpoints of a device. Enabled endpoints differ in their ids, and so do the clusters of an
endpoint and the attributes of a cluster; the counts fit the indices with a value to spare. -/
structure Metadata where
  endpoints : List EndpointMetadata
  enableEventListAttribute : Bool
  endpoint_count : endpoints.length < 65535
  endpoint_ids : ((endpoints.filter (·.isEnabled)).map (·.endpointId)).Nodup
  cluster_count : ∀ endpoint ∈ endpoints, endpoint.clusters.length < 255
  cluster_ids : ∀ endpoint ∈ endpoints, (endpoint.clusters.map (·.clusterId)).Nodup
  attribute_count : ∀ endpoint ∈ endpoints, ∀ cluster ∈ endpoint.clusters,
    cluster.attributes.length < 65535
  attribute_ids : ∀ endpoint ∈ endpoints, ∀ cluster ∈ endpoint.clusters,
    (cluster.attributes ++ globalAttributesNotInMetadata enableEventListAttribute).Nodup

namespace Metadata

variable (metadata : Metadata)

def globals : List UInt32 := globalAttributesNotInMetadata metadata.enableEventListAttribute

def endpoint (endpointId : UInt16) : Option EndpointMetadata :=
  metadata.endpoints.find? fun endpoint => endpoint.isEnabled && endpoint.endpointId = endpointId

/-- `emberAfFindServerCluster`. -/
def cluster (endpointId : UInt16) (clusterId : UInt32) : Option ClusterMetadata :=
  (metadata.endpoint endpointId).bind fun endpoint =>
    endpoint.clusters.find? fun cluster => cluster.clusterId = clusterId

def emberAfEndpointCount : UInt16 := metadata.endpoints.length.toUInt16

def emberAfEndpointIndexIsEnabled (index : UInt16) : Bool :=
  (metadata.endpoints[index.toNat]?).any (·.isEnabled)

def emberAfEndpointFromIndex (index : UInt16) : UInt16 :=
  (metadata.endpoints[index.toNat]?).elim invalidEndpointId (·.endpointId)

/-- `emberAfIndexFromEndpoint`: the index of an enabled endpoint. -/
def emberAfIndexFromEndpoint (endpointId : UInt16) : UInt16 :=
  (metadata.endpoints.findIdx? fun endpoint =>
    endpoint.isEnabled && endpoint.endpointId = endpointId).elim 0xFFFF Nat.toUInt16

def emberAfClusterCount (endpointId : UInt16) : UInt8 :=
  (metadata.endpoint endpointId).elim 0 (·.clusters.length.toUInt8)

def emberAfClusterIndex (endpointId : UInt16) (clusterId : UInt32) : UInt8 :=
  (metadata.endpoint endpointId).elim 0xFF fun endpoint =>
    (endpoint.clusters.findIdx? fun cluster => cluster.clusterId = clusterId).elim 0xFF Nat.toUInt8

def emberAfGetNthClusterId (endpointId : UInt16) (n : UInt8) : Option UInt32 :=
  (metadata.endpoint endpointId).bind fun endpoint =>
    (endpoint.clusters[n.toNat]?).map (·.clusterId)

def emberAfGetServerAttributeCount (endpointId : UInt16) (clusterId : UInt32) : UInt16 :=
  (metadata.cluster endpointId clusterId).elim 0 (·.attributes.length.toUInt16)

def emberAfGetServerAttributeIndexByAttributeId (endpointId : UInt16) (clusterId attributeId : UInt32) :
  UInt16 :=
  (metadata.cluster endpointId clusterId).elim 0xFFFF fun cluster =>
    (cluster.attributes.findIdx? (· = attributeId)).elim 0xFFFF Nat.toUInt16

def emberAfGetServerAttributeIdByIndex (endpointId : UInt16) (clusterId : UInt32)
  (attributeIndex : UInt16) : Option UInt32 :=
  (metadata.cluster endpointId clusterId).bind (·.attributes[attributeIndex.toNat]?)

end Metadata

def isWildcardPath (path : AttributePathParams) : Bool :=
  path.hasWildcardEndpointId || path.hasWildcardClusterId || path.hasWildcardAttributeId

/-- `ConcreteAttributePath`, as it is without arguments. -/
structure ConcreteAttributePath where
  mEndpointId : UInt16 := 0
  mClusterId : UInt32 := 0
  mAttributeId : UInt32 := 0
  mExpanded : Bool := false

structure AttributePathExpandIterator where
  mpAttributePath : List AttributePathParams
  mOutputPath : ConcreteAttributePath := {}
  mEndpointIndex : UInt16
  mEndEndpointIndex : UInt16
  mAttributeIndex : UInt16
  mEndAttributeIndex : UInt16
  mClusterIndex : UInt8
  mEndClusterIndex : UInt8
  mGlobalAttributeIndex : UInt8
  mGlobalAttributeEndIndex : UInt8

namespace AttributePathExpandIterator

variable (metadata : Metadata)

def prepareEndpointIndexRange (it : AttributePathExpandIterator) (path : AttributePathParams) :
  AttributePathExpandIterator :=
  if path.hasWildcardEndpointId then
    { it with mEndpointIndex := 0, mEndEndpointIndex := metadata.emberAfEndpointCount }
  else
    { it with
      mEndpointIndex := metadata.emberAfIndexFromEndpoint path.mEndpointId
      -- An endpoint that does not exist has the index 0xFFFF, so that the end is 0.
      mEndEndpointIndex := metadata.emberAfIndexFromEndpoint path.mEndpointId + 1 }

def prepareClusterIndexRange (it : AttributePathExpandIterator) (path : AttributePathParams)
  (endpointId : UInt16) : AttributePathExpandIterator :=
  if path.hasWildcardClusterId then
    { it with mClusterIndex := 0, mEndClusterIndex := metadata.emberAfClusterCount endpointId }
  else
    { it with
      mClusterIndex := metadata.emberAfClusterIndex endpointId path.mClusterId
      mEndClusterIndex := metadata.emberAfClusterIndex endpointId path.mClusterId + 1 }

def prepareAttributeIndexRange (it : AttributePathExpandIterator) (path : AttributePathParams)
  (endpointId : UInt16) (clusterId : UInt32) : AttributePathExpandIterator :=
  if path.hasWildcardAttributeId then
    { it with
      mAttributeIndex := 0
      mEndAttributeIndex := metadata.emberAfGetServerAttributeCount endpointId clusterId
      mGlobalAttributeIndex := 0
      mGlobalAttributeEndIndex := metadata.globals.length.toUInt8 }
  else
    let index :=
      metadata.emberAfGetServerAttributeIndexByAttributeId endpointId clusterId path.mAttributeId
    if index = 0xFFFF then
      -- The attribute may be a global one that is not in the metadata.
      let globalIndex :=
        (metadata.globals.findIdx? (· = path.mAttributeId)).elim 0xFF Nat.toUInt8
      { it with
        mAttributeIndex := index
        mEndAttributeIndex := index + 1
        mGlobalAttributeIndex := globalIndex
        mGlobalAttributeEndIndex := globalIndex + 1 }
    else
      { it with
        mAttributeIndex := index
        mEndAttributeIndex := index + 1
        mGlobalAttributeIndex := 0xFF
        mGlobalAttributeEndIndex := 0 }

/-- The iterator with the range of the attributes of a cluster, prepared if it is not. -/
def withAttributeRange (it : AttributePathExpandIterator) (path : AttributePathParams)
  (endpointId : UInt16) (clusterId : UInt32) : AttributePathExpandIterator :=
  if it.mAttributeIndex = 0xFFFF ∧ it.mGlobalAttributeIndex = 0xFF then
    it.prepareAttributeIndexRange metadata path endpointId clusterId
  else it

/-- The next attribute of the prepared range, if there is one left. -/
def emitAttribute (endpointId : UInt16) (clusterId : UInt32) (it : AttributePathExpandIterator) :
  Bool × AttributePathExpandIterator :=
  if it.mAttributeIndex < it.mEndAttributeIndex then
    (true, { it with
      mOutputPath := { it.mOutputPath with
        mAttributeId := (metadata.emberAfGetServerAttributeIdByIndex endpointId clusterId
          it.mAttributeIndex).getD invalidAttributeId
        mClusterId := clusterId
        mEndpointId := endpointId }
      mAttributeIndex := it.mAttributeIndex + 1 })
  else if it.mGlobalAttributeIndex < it.mGlobalAttributeEndIndex then
    (true, { it with
      mOutputPath := { it.mOutputPath with
        mAttributeId := (metadata.globals[it.mGlobalAttributeIndex.toNat]?).getD invalidAttributeId
        mClusterId := clusterId
        mEndpointId := endpointId }
      mGlobalAttributeIndex := it.mGlobalAttributeIndex + 1 })
  else (false, it)

def clusterStep (path : AttributePathParams) (endpointId : UInt16)
  (it : AttributePathExpandIterator) : Bool × AttributePathExpandIterator :=
  let clusterId :=
    (metadata.emberAfGetNthClusterId endpointId it.mClusterIndex).getD invalidClusterId
  emitAttribute metadata endpointId clusterId
    (it.withAttributeRange metadata path endpointId clusterId)

/-- The iterator with the range of the clusters of an endpoint, prepared if it is not. -/
def withClusterRange (it : AttributePathExpandIterator) (path : AttributePathParams)
  (endpointId : UInt16) : AttributePathExpandIterator :=
  if it.mClusterIndex = 0xFF then
    { it.prepareClusterIndexRange metadata path endpointId with
      mAttributeIndex := 0xFFFF
      mGlobalAttributeIndex := 0xFF }
  else it

def nextCluster (it : AttributePathExpandIterator) : AttributePathExpandIterator :=
  { it with
    mClusterIndex := it.mClusterIndex + 1
    mAttributeIndex := 0xFFFF
    mGlobalAttributeIndex := 0xFF }

def nextEndpoint (it : AttributePathExpandIterator) : AttributePathExpandIterator :=
  { it with
    mEndpointIndex := it.mEndpointIndex + 1
    mClusterIndex := 0xFF
    mAttributeIndex := 0xFFFF
    mGlobalAttributeIndex := 0xFF }

/-- What the loops inside the one over the endpoints leave alone. -/
structure SameEndpoint (it it' : AttributePathExpandIterator) : Prop where
  paths : it'.mpAttributePath = it.mpAttributePath
  index : it'.mEndpointIndex = it.mEndpointIndex
  endIndex : it'.mEndEndpointIndex = it.mEndEndpointIndex
  expanded : it'.mOutputPath.mExpanded = it.mOutputPath.mExpanded

/-- What the body of the loop over the clusters leaves alone. -/
structure SameCluster (it it' : AttributePathExpandIterator) : Prop extends SameEndpoint it it' where
  clusterIndex : it'.mClusterIndex = it.mClusterIndex
  endClusterIndex : it'.mEndClusterIndex = it.mEndClusterIndex

theorem withAttributeRange_same (it : AttributePathExpandIterator)
  (path : AttributePathParams) (endpointId : UInt16) (clusterId : UInt32) :
  SameCluster it (it.withAttributeRange metadata path endpointId clusterId) := by
  unfold withAttributeRange prepareAttributeIndexRange
  dsimp only
  split
  · split
    · exact ⟨⟨rfl, rfl, rfl, rfl⟩, rfl, rfl⟩
    · split <;> exact ⟨⟨rfl, rfl, rfl, rfl⟩, rfl, rfl⟩
  · exact ⟨⟨rfl, rfl, rfl, rfl⟩, rfl, rfl⟩

theorem emitAttribute_same (endpointId : UInt16) (clusterId : UInt32)
  (it : AttributePathExpandIterator) :
  SameCluster it (emitAttribute metadata endpointId clusterId it).2 := by
  unfold emitAttribute
  split
  · exact ⟨⟨rfl, rfl, rfl, rfl⟩, rfl, rfl⟩
  · split <;> exact ⟨⟨rfl, rfl, rfl, rfl⟩, rfl, rfl⟩

theorem SameEndpoint.trans {it it' it'' : AttributePathExpandIterator} (h : SameEndpoint it it')
  (h' : SameEndpoint it' it'') : SameEndpoint it it'' :=
  ⟨h'.paths.trans h.paths, h'.index.trans h.index, h'.endIndex.trans h.endIndex,
    h'.expanded.trans h.expanded⟩

theorem clusterStep_same (path : AttributePathParams) (endpointId : UInt16)
  (it : AttributePathExpandIterator) :
  SameCluster it (clusterStep metadata path endpointId it).2 := by
  let clusterId :=
    (metadata.emberAfGetNthClusterId endpointId it.mClusterIndex).getD invalidClusterId
  have hRange := withAttributeRange_same metadata it path endpointId clusterId
  have hEmit := emitAttribute_same metadata endpointId clusterId
    (it.withAttributeRange metadata path endpointId clusterId)
  exact ⟨hRange.toSameEndpoint.trans hEmit.toSameEndpoint,
    hEmit.clusterIndex.trans hRange.clusterIndex,
    hEmit.endClusterIndex.trans hRange.endClusterIndex⟩

theorem sub_succ_lt {index bound next : Nat} (hNext : next = index + 1) (h : index < bound) :
  bound - next < bound - index := by
  omega

theorem toNat_succ8 {index bound : UInt8} (h : index < bound) :
  (index + 1).toNat = index.toNat + 1 := by
  have hIndex : index.toNat < bound.toNat := UInt8.lt_iff_toNat_lt.1 h
  have hBound := bound.toNat_lt
  rw [UInt8.toNat_add]
  change (index.toNat + 1) % 2 ^ 8 = _
  omega

theorem toNat_succ16 {index bound : UInt16} (h : index < bound) :
  (index + 1).toNat = index.toNat + 1 := by
  have hIndex : index.toNat < bound.toNat := UInt16.lt_iff_toNat_lt.1 h
  have hBound := bound.toNat_lt
  rw [UInt16.toNat_add]
  change (index.toNat + 1) % 2 ^ 16 = _
  omega

def clusterLoop (path : AttributePathParams) (endpointId : UInt16)
  (it : AttributePathExpandIterator) : Bool × AttributePathExpandIterator :=
  if it.mClusterIndex < it.mEndClusterIndex then
    let step := clusterStep metadata path endpointId it
    if step.1 then step
    else clusterLoop path endpointId step.2.nextCluster
  else (false, it)
termination_by it.mEndClusterIndex.toNat - it.mClusterIndex.toNat
decreasing_by
  have hSame := clusterStep_same metadata path endpointId it
  simp only [nextCluster, hSame.clusterIndex, hSame.endClusterIndex]
  exact sub_succ_lt (toNat_succ8 ‹_›) (UInt8.lt_iff_toNat_lt.1 ‹_›)

theorem clusterLoop_same (path : AttributePathParams) (endpointId : UInt16)
  (it : AttributePathExpandIterator) :
  SameEndpoint it (clusterLoop metadata path endpointId it).2 := by
  induction it using clusterLoop.induct metadata path endpointId with
  | case1 it hMore step hFound =>
    have hSame := clusterStep_same metadata path endpointId it
    rw [clusterLoop, if_pos hMore]
    dsimp only
    rw [if_pos hFound]
    exact hSame.toSameEndpoint
  | case2 it hMore step hNone ih =>
    have hSame := clusterStep_same metadata path endpointId it
    rw [clusterLoop, if_pos hMore]
    dsimp only
    rw [if_neg hNone]
    exact hSame.toSameEndpoint.trans ⟨ih.paths, ih.index, ih.endIndex, ih.expanded⟩
  | case3 it hDone =>
    rw [clusterLoop, if_neg hDone]
    exact ⟨rfl, rfl, rfl, rfl⟩

def endpointStep (path : AttributePathParams) (it : AttributePathExpandIterator) :
  Bool × AttributePathExpandIterator :=
  if metadata.emberAfEndpointIndexIsEnabled it.mEndpointIndex then
    let endpointId := metadata.emberAfEndpointFromIndex it.mEndpointIndex
    clusterLoop metadata path endpointId (it.withClusterRange metadata path endpointId)
  else (false, it)

theorem withClusterRange_same (it : AttributePathExpandIterator) (path : AttributePathParams)
  (endpointId : UInt16) : SameEndpoint it (it.withClusterRange metadata path endpointId) := by
  unfold withClusterRange prepareClusterIndexRange
  split
  · split <;> exact ⟨rfl, rfl, rfl, rfl⟩
  · exact ⟨rfl, rfl, rfl, rfl⟩

theorem endpointStep_same (path : AttributePathParams) (it : AttributePathExpandIterator) :
  SameEndpoint it (endpointStep metadata path it).2 := by
  unfold endpointStep
  split
  · exact (withClusterRange_same metadata it path _).trans (clusterLoop_same metadata path _ _)
  · exact ⟨rfl, rfl, rfl, rfl⟩

def endpointLoop (path : AttributePathParams) (it : AttributePathExpandIterator) :
  Bool × AttributePathExpandIterator :=
  if it.mEndpointIndex < it.mEndEndpointIndex then
    let step := endpointStep metadata path it
    if step.1 then step
    else endpointLoop path step.2.nextEndpoint
  else (false, it)
termination_by it.mEndEndpointIndex.toNat - it.mEndpointIndex.toNat
decreasing_by
  have hSame := endpointStep_same metadata path it
  simp only [nextEndpoint, hSame.index, hSame.endIndex]
  exact sub_succ_lt (toNat_succ16 ‹_›) (UInt16.lt_iff_toNat_lt.1 ‹_›)

def atEntry (it : AttributePathExpandIterator) (path : AttributePathParams)
  (rest : List AttributePathParams) : AttributePathExpandIterator :=
  { it with
    mpAttributePath := path :: rest
    mOutputPath := { it.mOutputPath with mExpanded := isWildcardPath path } }

/-- The special case of a concrete path, whose value is returned as it is. -/
def emitConcrete (it : AttributePathExpandIterator) (path : AttributePathParams) :
  AttributePathExpandIterator :=
  { it with
    mOutputPath := { it.mOutputPath with
      mEndpointId := path.mEndpointId
      mClusterId := path.mClusterId
      mAttributeId := path.mAttributeId }
    mEndpointIndex := 0
    mEndEndpointIndex := 0 }

/-- The iterator with the range of the endpoints of a path, prepared if it is not. -/
def withEndpointRange (it : AttributePathExpandIterator) (path : AttributePathParams) :
  AttributePathExpandIterator :=
  if it.mEndpointIndex = 0xFFFF then
    { it.prepareEndpointIndexRange metadata path with mClusterIndex := 0xFF }
  else it

/-- The loop of `Next` over what is left of the list of paths. -/
def nextLoop : List AttributePathParams → AttributePathExpandIterator →
  Bool × AttributePathExpandIterator
  | [], it => (false, { it with mpAttributePath := [], mOutputPath := {} })
  | path :: rest, it =>
    if it.mEndpointIndex = 0xFFFF ∧ isWildcardPath path = false then
      (true, (it.atEntry path rest).emitConcrete path)
    else
      let step :=
        endpointLoop metadata path ((it.atEntry path rest).withEndpointRange metadata path)
      if step.1 then step
      else nextLoop rest { step.2 with mEndpointIndex := 0xFFFF }

def next (it : AttributePathExpandIterator) : Bool × AttributePathExpandIterator :=
  nextLoop metadata it.mpAttributePath it

def construct (memory : AttributePathExpandIterator) (aAttributePath : List AttributePathParams) :
  AttributePathExpandIterator :=
  (next metadata { memory with
    mpAttributePath := aAttributePath
    mOutputPath := {}
    mEndpointIndex := 0xFFFF
    mClusterIndex := 0xFF
    mAttributeIndex := 0xFFFF
    mGlobalAttributeIndex := 0xFF }).2

def get (it : AttributePathExpandIterator) : Option ConcreteAttributePath :=
  if it.mpAttributePath.isEmpty then none else some it.mOutputPath

def resetCurrentCluster (it : AttributePathExpandIterator) : AttributePathExpandIterator :=
  match it.mpAttributePath with
  | [] => it
  | path :: _ =>
    if path.hasWildcardAttributeId then
      (next metadata { it with mAttributeIndex := 0xFFFF, mGlobalAttributeIndex := 0xFF }).2
    else it

end AttributePathExpandIterator

end Chip.App.PathExpansion
