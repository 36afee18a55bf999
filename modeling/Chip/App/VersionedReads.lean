import Chip.App.ClusterStateCache
import Chip.TLV.Copying

/-! Reads and subscriptions of one server through a `ClusterStateCache`. The server reports the
clusters that a request asks for one after the other, and a cluster that changes meanwhile again
from its first attribute; a report can be cut off between any two attributes. -/
namespace Chip.App

open List TLV ClusterStateCache

/-- The state of a cluster after its pending version has been committed. -/
def ClusterState.committed (state : ClusterState) : ClusterState :=
  if state.mPendingDataVersion.isSome then
    { state with
      mCommittedDataVersion := state.mPendingDataVersion
      mPendingDataVersion := none }
  else state

namespace ClusterStateCache

def cachedState (cacheData : Bool) (item : Item) : AttributeState :=
  if cacheData then .data item.bytes else .size item.bytes.length

def received (path : ConcreteDataAttributePath) (state : AttributeState)
  (cache : ClusterStateCache) : ClusterStateCache :=
  (cache.updateVersions path).setAttribute path state

section Received

variable {cache : ClusterStateCache} {path : ConcreteDataAttributePath} {state : AttributeState}

theorem clusterState_modifyCluster (cluster other : ConcreteClusterPath)
  (f : ClusterState → ClusterState) :
  (cache.modifyCluster cluster f).clusterState other =
    if other = cluster then f (cache.clusterState cluster) else cache.clusterState other := by
  by_cases hEq : other = cluster
  · subst hEq
    simp [modifyCluster, clusterState]
  · simp [modifyCluster, clusterState, hEq, AList.lookup_insert_ne]

theorem clusterState_commit (other : ConcreteClusterPath) :
  cache.commitPendingDataVersion.clusterState other =
    if cache.mLastReportDataPath.isValid = true ∧ other = cache.mLastReportDataPath then
      (cache.clusterState other).committed
    else cache.clusterState other := by
  unfold commitPendingDataVersion
  split
  next hCommit =>
    obtain ⟨hValid, hPending⟩ := Bool.and_eq_true_iff.mp hCommit
    rw [clusterState_modifyCluster]
    by_cases hEq : other = cache.mLastReportDataPath
    · rw [if_pos hEq, if_pos ⟨hValid, hEq⟩, hEq, ClusterState.committed, if_pos hPending]
    · rw [if_neg hEq, if_neg fun h => hEq h.2]
  next hKept =>
    split
    next hLast =>
      obtain ⟨hValid, rfl⟩ := hLast
      rw [ClusterState.committed, if_neg]
      intro hPending
      exact hKept (by rw [hValid, hPending]; rfl)
    next => rfl

@[simp] theorem mRequestPathSet_commit :
  cache.commitPendingDataVersion.mRequestPathSet = cache.mRequestPathSet := by
  unfold commitPendingDataVersion
  split
  · rfl
  · rfl

@[simp] theorem mCacheData_commit : cache.commitPendingDataVersion.mCacheData = cache.mCacheData := by
  unfold commitPendingDataVersion
  split
  · rfl
  · rfl

theorem updateVersions_eq : cache.updateVersions path =
    let cleared := cache.modifyCluster path.cluster fun state =>
      { state with mCommittedDataVersion := none }
    let settled :=
      if cache.mLastReportDataPath.isValid && cache.mLastReportDataPath ≠ path.cluster then
        cleared.commitPendingDataVersion
      else cleared
    { (if cache.covers path.cluster then
        settled.modifyCluster path.cluster fun state =>
          { state with mPendingDataVersion := path.mDataVersion }
      else settled) with mLastReportDataPath := path.cluster } := by
  have hCovers : ∀ settled : ClusterStateCache, settled.mRequestPathSet = cache.mRequestPathSet →
      settled.covers path.cluster = cache.covers path.cluster := by
    intro settled hSet
    rw [covers, hSet, covers]
  simp only [updateVersions]
  rw [hCovers]
  · rfl
  · split
    · exact mRequestPathSet_commit
    · rfl

theorem clusterState_received (other : ConcreteClusterPath) :
  (cache.received path state).clusterState other =
    if other = path.cluster then
      { mAttributes := (cache.clusterState other).mAttributes.insert path.mAttributeId state
        mPendingDataVersion :=
          if cache.covers path.cluster then path.mDataVersion
          else (cache.clusterState other).mPendingDataVersion
        mCommittedDataVersion := none }
    else if cache.mLastReportDataPath.isValid = true ∧ other = cache.mLastReportDataPath then
      (cache.clusterState other).committed
    else cache.clusterState other := by
  let cleared := cache.modifyCluster path.cluster fun state =>
    { state with mCommittedDataVersion := none }
  let settled :=
    if cache.mLastReportDataPath.isValid && cache.mLastReportDataPath ≠ path.cluster then
      cleared.commitPendingDataVersion
    else cleared
  have hSettled : settled.clusterState other =
      if other = path.cluster then
        { cache.clusterState other with mCommittedDataVersion := none }
      else if cache.mLastReportDataPath.isValid = true ∧ other = cache.mLastReportDataPath then
        (cache.clusterState other).committed
      else cache.clusterState other := by
    have hCleared : cleared.clusterState other =
        if other = path.cluster then { cache.clusterState other with mCommittedDataVersion := none }
        else cache.clusterState other := by
      rw [clusterState_modifyCluster]
      split
      next hEq => rw [hEq]
      next => rfl
    have hLast : cleared.mLastReportDataPath = cache.mLastReportDataPath := rfl
    by_cases hValid : cache.mLastReportDataPath.isValid = true
    · by_cases hSame : cache.mLastReportDataPath = path.cluster
      · simp only [settled, hSame, ne_eq, not_true, decide_false, Bool.and_false,
          Bool.false_eq_true, if_false, hCleared]
        split
        next => rfl
        next hOther => rw [if_neg fun h => hOther h.2]
      · simp only [settled, hValid, ne_eq, hSame, not_false_iff, decide_true, Bool.and_true, if_true,
          clusterState_commit, hLast, hCleared, true_and]
        by_cases hEq : other = path.cluster
        · rw [if_neg (fun h => hSame (h.symm.trans hEq)), if_pos hEq, if_pos hEq]
        · simp only [if_neg hEq]
    · simp [settled, hValid, hCleared]
  have hAttribute : (cache.received path state).clusterState other =
      if other = path.cluster then
        { settled.clusterState other with
          mAttributes := (settled.clusterState other).mAttributes.insert path.mAttributeId state
          mPendingDataVersion :=
            if cache.covers path.cluster then path.mDataVersion
            else (settled.clusterState other).mPendingDataVersion }
      else settled.clusterState other := by
    have hUpdate : cache.updateVersions path =
        { (if cache.covers path.cluster then
            settled.modifyCluster path.cluster fun state =>
              { state with mPendingDataVersion := path.mDataVersion }
          else settled) with mLastReportDataPath := path.cluster } := updateVersions_eq
    have hSame : ∀ (c : ClusterStateCache) (last : ConcreteClusterPath),
        clusterState { c with mLastReportDataPath := last } = clusterState c := fun _ _ => rfl
    rw [received, setAttribute, clusterState_modifyCluster, hUpdate, hSame]
    cases cache.covers path.cluster with
    | true =>
      simp only [if_true, clusterState_modifyCluster]
      split
      next hEq => rw [hEq]
      next => rfl
    | false =>
      simp only [Bool.false_eq_true, if_false]
      split
      next hEq => rw [hEq]
      next => rfl
  rw [hAttribute, hSettled]
  split
  · rfl
  · rfl

@[simp] theorem mLastReportDataPath_received :
  (cache.received path state).mLastReportDataPath = path.cluster :=
  rfl

@[simp] theorem mRequestPathSet_received :
  (cache.received path state).mRequestPathSet = cache.mRequestPathSet := by
  rw [received, updateVersions_eq]
  simp only [setAttribute, modifyCluster]
  split <;> split <;> simp

@[simp] theorem mCacheData_received :
  (cache.received path state).mCacheData = cache.mCacheData := by
  rw [received, updateVersions_eq]
  simp only [setAttribute, modifyCluster]
  split <;> split <;> simp

def Holds (reader : TLVReader) (item : Item) : Prop :=
  item.Legal ∧ item.bytes.length ≤ reader.mMaxLen ∧
    ∃ context limit rest, On context limit item rest reader

theorem copyToBuffer_ok {reader : TLVReader} {item : Item} {size : Nat} (h : Holds reader item)
  (hSize : item.bytes.length ≤ size) (hMax : size ≤ reader.mMaxLen) :
  copyToBuffer reader size = .ok item.bytes := by
  obtain ⟨hLegal, -, context, limit, rest, hOn⟩ := h
  have hLimit := hOn.reads.maxLen
  have hBound := hOn.reads.bound
  have hMin : min size (2 ^ 32 - 1) = size := by omega
  have hBytes : (item.elements anonymousTag .nil).encode profileIdNotSpecified
      (TLVWriter.init size).mContainerType = item.bytes := item.bytes_eq.symm
  have hTag : Tag.LegalIn anonymousTag (TLVWriter.init size).mContainerType := .inl rfl
  have hFits : Fits item.bytes.length (TLVWriter.init size) := by
    refine ⟨rfl, ?_, ?_, ?_⟩
    · change 0 + item.bytes.length ≤ min size (2 ^ 32 - 1)
      omega
    · change min size (2 ^ 32 - 1) < 2 ^ 32
      omega
    · change item.bytes.length ≤ min size (2 ^ 32 - 1)
      omega
  obtain ⟨reader', hCopy, -⟩ := hOn.copyElement hLegal hTag rfl (hBytes.symm ▸ hFits)
  rw [hBytes] at hCopy
  simp only [copyToBuffer, hCopy]
  rfl

theorem onAttributeData_ok {reader : TLVReader} {item : Item} (status : StatusIB)
  (h : Holds reader item) (hPath : path.isListItemOperation = false) :
  onAttributeData path (some reader) status cache =
    some (cache.received path (cachedState cache.mCacheData item)) := by
  have hSize : getElementTLVSize reader = .ok item.bytes.length := by
    rw [getElementTLVSize, copyToBuffer_ok h h.2.1 (Nat.le_refl _)]
    rfl
  have hState : dataState cache.mCacheData reader = .ok (cachedState cache.mCacheData item) := by
    rw [dataState, hSize]
    cases cache.mCacheData with
    | true =>
      change (do
        let bytes ← copyToBuffer reader item.bytes.length
        Except.ok (AttributeState.data bytes)) = _
      rw [copyToBuffer_ok h (Nat.le_refl _) h.2.1]
      rfl
    | false => rfl
  simp only [onAttributeData, hPath, updateCache, Proc.read_bind, hState]
  rfl

end Received

theorem collectFilters_mem {entries : List ((_ : ConcreteClusterPath) × ClusterState)}
  {filter : DataVersionFilter × Nat} (h : filter ∈ (collectFilters entries).1) :
  ∃ state, ⟨filter.1.cluster, state⟩ ∈ entries ∧
    state.mCommittedDataVersion = some filter.1.mDataVersion := by
  induction entries with
  | nil => simp [collectFilters] at h
  | cons entry rest ih =>
    obtain ⟨path, state⟩ := entry
    have hRest : filter ∈ (collectFilters rest).1 →
        ∃ state', (⟨filter.1.cluster, state'⟩ : (_ : ConcreteClusterPath) × ClusterState) ∈
          ⟨path, state⟩ :: rest ∧ state'.mCommittedDataVersion = some filter.1.mDataVersion := by
      intro hMem
      obtain ⟨state', hState, hVersion⟩ := ih hMem
      exact ⟨state', mem_cons_of_mem _ hState, hVersion⟩
    cases hCommitted : state.mCommittedDataVersion with
    | none =>
      simp only [collectFilters, hCommitted] at h
      exact hRest h
    | some version =>
      cases hSizes : state.mAttributes.entries.mapM fun entry => attributeSize entry.2 with
      | none => simp [collectFilters, hCommitted, hSizes] at h
      | some sizes =>
        simp only [collectFilters, hCommitted, hSizes] at h
        split at h
        · exact hRest h
        · rcases mem_cons.mp h with rfl | hMem
          · exact ⟨state, mem_cons_self .., hCommitted⟩
          · exact hRest hMem

theorem filter_committed {cache : ClusterStateCache} {paths : List AttributePathParams} {room : Nat}
  {filter : DataVersionFilter}
  (h : filter ∈ (cache.onUpdateDataVersionFilterList paths room).1) :
  (cache.clusterState filter.cluster).mCommittedDataVersion = some filter.mDataVersion := by
  have hSorted : ∃ size, (filter, size) ∈ cache.getSortedFilters := by
    have hTaken := mem_of_mem_filter (mem_of_mem_take h)
    obtain ⟨⟨filter', size⟩, hMem, rfl⟩ := mem_map.mp hTaken
    exact ⟨size, hMem⟩
  obtain ⟨size, hMem⟩ := hSorted
  have hCollected : (filter, size) ∈ (collectFilters cache.mCache.entries).1 := by
    rw [getSortedFilters] at hMem
    split at hMem
    next filters hFilters =>
      rw [hFilters]
      exact (mem_insertionSort _).mp hMem
    next filters hFilters =>
      rw [hFilters]
      exact hMem
  obtain ⟨state, hEntry, hVersion⟩ := collectFilters_mem hCollected
  have hLookup : cache.mCache.lookup filter.cluster = some state := AList.mem_lookup_iff.mpr hEntry
  rw [clusterState, hLookup]
  exact hVersion

end ClusterStateCache

/-- The attributes of each cluster, and their values at each of its versions. -/
structure Server where
  attributes : ConcreteClusterPath → List UInt32
  value : ConcreteClusterPath → UInt32 → UInt32 → Item

/-- The report of one cluster for one path of the request: the version of the cluster, the
attributes that were sent at this version, and those that were sent at earlier ones, before the
cluster changed. -/
structure ClusterReport where
  path : AttributePathParams
  cluster : ConcreteClusterPath
  version : UInt32
  sent : List UInt32
  outdated : List UInt32

/-- A read or a subscription. For each cluster, `known` is the version up to which it has been
reported. -/
structure Interaction where
  paths : List AttributePathParams
  filters : List DataVersionFilter
  priming : Bool
  reporting : Bool
  known : ConcreteClusterPath → Option UInt32
  current : Option ClusterReport

/-- The cache, the versions of the server's clusters, and what is under way. -/
structure ReadState where
  cache : ClusterStateCache
  version : ConcreteClusterPath → UInt32
  interaction : Option Interaction

def ReadState.initial (cacheData : Bool) (version : ConcreteClusterPath → UInt32) : ReadState :=
  ⟨.initial cacheData, version, none⟩

inductive ReadEvent where
  | change (cluster : ConcreteClusterPath) (version : UInt32)
  | request (paths : List AttributePathParams) (room : Nat)
  | reportBegin
  | skipCluster (cluster : ConcreteClusterPath)
  | enterCluster (path : AttributePathParams) (cluster : ConcreteClusterPath)
  | attributeData (path : ConcreteDataAttributePath) (reader : TLVReader) (item : Item)
  | leaveCluster
  | reportEnd
  | done

/-- The request has a filter with the current version of a cluster. -/
def Interaction.filtered (i : Interaction) (cluster : ConcreteClusterPath) (version : UInt32) : Bool :=
  i.filters.any fun filter => filter.cluster = cluster && filter.mDataVersion = version

/-- The attribute has to be sent before the report of the cluster is complete: it is asked for, and
it was not reported before, has changed since then, or was sent at an earlier version. -/
def ClusterReport.due (server : Server) (known : Option UInt32) (report : ClusterReport)
  (attributeId : UInt32) : Bool :=
  report.path.isSupersetOf report.cluster attributeId &&
    (match known with
      | none => true
      | some version => server.value report.cluster version attributeId ≠
          server.value report.cluster report.version attributeId ||
        report.outdated.contains attributeId)

/-- One more attribute of the cluster is sent. When the cluster has changed since the one before,
its report starts again. -/
def ClusterReport.send (report : ClusterReport) (version attributeId : UInt32) : ClusterReport :=
  if version = report.version then { report with sent := attributeId :: report.sent }
  else { report with
    version := version
    sent := [attributeId]
    outdated := report.sent ++ report.outdated }

def ClusterReport.complete (server : Server) (known : Option UInt32) (report : ClusterReport) : Bool :=
  (server.attributes report.cluster).all fun attributeId =>
    !report.due server known attributeId || report.sent.contains attributeId

theorem ClusterReport.sent_of_complete {server : Server} {known : Option UInt32}
  {report : ClusterReport} (h : report.complete server known = true) {attributeId : UInt32}
  (hAttribute : attributeId ∈ server.attributes report.cluster)
  (hDue : report.due server known attributeId = true) : attributeId ∈ report.sent := by
  have hSent := all_eq_true.mp h attributeId hAttribute
  rw [hDue, Bool.not_true, Bool.false_or] at hSent
  exact contains_iff_mem.mp hSent

namespace ReadEvent

/-- What the server and the client do, as far as it is possible in a state. -/
def step (server : Server) : ReadEvent → ReadState → Option ReadState
  | change cluster version, s =>
    some { s with version := Function.update s.version cluster version }
  | request paths room, s =>
    match s.interaction with
    | some _ => none
    | none =>
      let (filters, cache) := s.cache.onUpdateDataVersionFilterList paths room
      some { s with
        cache := cache
        interaction := some ⟨paths, filters, true, false, fun _ => none, none⟩ }
  | reportBegin, s => do
      let i ← s.interaction
      guard (i.reporting = false)
      some { s with
        cache := s.cache.onReportBegin
        interaction := some { i with reporting := true } }
  | skipCluster cluster, s => do
      let i ← s.interaction
      guard (i.reporting = true ∧ i.priming = true ∧ i.current.isNone = true ∧
        i.filtered cluster (s.version cluster) = true ∧ i.known cluster = none)
      some { s with
        interaction := some { i with
          known := Function.update i.known cluster (some (s.version cluster)) } }
  | enterCluster path cluster, s => do
      let i ← s.interaction
      guard (i.reporting = true ∧ i.current.isNone = true ∧ path ∈ i.paths ∧
        path.includesAttributesInCluster cluster = true ∧
        ¬ (i.priming = true ∧ i.filtered cluster (s.version cluster) = true))
      some { s with
        interaction := some { i with current := some ⟨path, cluster, s.version cluster, [], []⟩ } }
  | attributeData path reader item, s => do
      let i ← s.interaction
      let report ← i.current
      let version := s.version report.cluster
      guard (path.cluster = report.cluster ∧ path.mDataVersion = some version ∧
        path.isListItemOperation = false ∧ path.mAttributeId ∈ server.attributes report.cluster ∧
        report.path.isSupersetOf report.cluster path.mAttributeId = true ∧
        item = server.value report.cluster version path.mAttributeId)
      let cache ← s.cache.onAttributeData path (some reader) .success
      some { s with
        cache := cache
        interaction := some { i with current := some (report.send version path.mAttributeId) } }
  | leaveCluster, s => do
      let i ← s.interaction
      let report ← i.current
      guard (report.complete server (i.known report.cluster) = true)
      some { s with
        interaction := some { i with
          known := Function.update i.known report.cluster (some report.version)
          current := none } }
  | reportEnd, s => do
      let i ← s.interaction
      guard (i.reporting = true ∧ i.current.isNone = true)
      some { s with
        cache := s.cache.onReportEnd
        interaction := some { i with reporting := false, priming := false } }
  | done, s => do
      let _ ← s.interaction
      some { s with cache := s.cache.onDone, interaction := none }

end ReadEvent

def readRun (server : Server) : List ReadEvent → ReadState → Option ReadState
  | [], s => some s
  | event :: events, s => do
      let s ← event.step server s
      readRun server events s

end Chip.App
