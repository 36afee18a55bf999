import Chip.App.VersionedReads

/-! A data version filter stands for a cluster that is cached as a whole, as long as no report
for a cluster comes on top of a pending version that an earlier report, cut off, has left. -/
namespace Chip.App

open AttributePathParams List ClusterReport TLV ClusterStateCache

variable {server : Server}

/-- Every attribute of the cluster is cached with its value at the version. -/
def CompleteAt (server : Server) (cache : ClusterStateCache) (cluster : ConcreteClusterPath)
  (version : UInt32) : Prop :=
  ∀ attributeId ∈ server.attributes cluster,
    (cache.clusterState cluster).mAttributes.lookup attributeId =
      some (cachedState cache.mCacheData (server.value cluster version attributeId))

/-- Attributes of the cluster have been sent, and its report is not complete. -/
def Interaction.Busy (i : Interaction) (cluster : ConcreteClusterPath) : Prop :=
  ∃ report, i.current = some report ∧ report.cluster = cluster ∧ report.sent ≠ []

theorem Interaction.not_busy (i : Interaction) (h : i.current = none) (cluster : ConcreteClusterPath) :
  ¬ i.Busy cluster := by
  rintro ⟨report, hReport, -⟩
  cases h.symm.trans hReport

structure Reporting (server : Server) (cache : ClusterStateCache) (i : Interaction)
    (report : ClusterReport) : Prop where
  path : report.path ∈ i.paths ∧ report.path.includesAttributesInCluster report.cluster = true
  reporting : i.reporting = true
  outdated : report.sent = [] → report.outdated = []
  last : report.sent ≠ [] → cache.mLastReportDataPath = report.cluster ∧
    (cache.clusterState report.cluster).mCommittedDataVersion = none ∧
    (cache.covers report.cluster = true →
      (cache.clusterState report.cluster).mPendingDataVersion = some report.version)
  sent : ∀ attributeId ∈ report.sent,
    (cache.clusterState report.cluster).mAttributes.lookup attributeId =
      some (cachedState cache.mCacheData (server.value report.cluster report.version attributeId))
  kept : cache.covers report.cluster = true → ∀ version, i.known report.cluster = some version →
    ∀ attributeId ∈ server.attributes report.cluster, attributeId ∉ report.sent →
      attributeId ∉ report.outdated →
        (cache.clusterState report.cluster).mAttributes.lookup attributeId =
          some (cachedState cache.mCacheData (server.value report.cluster version attributeId))

structure Active (server : Server) (cache : ClusterStateCache) (i : Interaction) : Prop where
  requested : ∀ path ∈ cache.mRequestPathSet, path ∈ wholeClusterPaths i.paths
  filters : ∀ filter ∈ i.filters, i.known filter.cluster = none → ¬ i.Busy filter.cluster →
    CompleteAt server cache filter.cluster filter.mDataVersion
  known : ∀ cluster version, cache.covers cluster = true → i.known cluster = some version →
    ¬ i.Busy cluster → CompleteAt server cache cluster version
  last : i.reporting = true → cache.mLastReportDataPath.isValid = true →
    cache.covers cache.mLastReportDataPath = true → ¬ i.Busy cache.mLastReportDataPath →
    ∀ version, (cache.clusterState cache.mLastReportDataPath).mPendingDataVersion =
      some version → CompleteAt server cache cache.mLastReportDataPath version
  uncovered : i.reporting = true → cache.mLastReportDataPath.isValid = true →
    cache.covers cache.mLastReportDataPath = false →
      (cache.clusterState cache.mLastReportDataPath).mPendingDataVersion = none
  current : ∀ report, i.current = some report → Reporting server cache i report

structure ReadInv (server : Server) (s : ReadState) : Prop where
  committed : ∀ cluster version,
    (s.cache.clusterState cluster).mCommittedDataVersion = some version →
      CompleteAt server s.cache cluster version
  idle : s.interaction = none → s.cache.mRequestPathSet = []
  active : ∀ i, s.interaction = some i → Active server s.cache i

/-- Data for a cluster that the request does not cover as a whole finds no pending version. -/
def ReadEvent.NothingPending (s : ReadState) : ReadEvent → Prop
  | attributeData path _ _ => s.cache.covers path.cluster = true ∨
      (s.cache.clusterState path.cluster).mPendingDataVersion = none
  | _ => True

instance (s : ReadState) : (event : ReadEvent) → Decidable (event.NothingPending s)
  | .attributeData path _ _ => inferInstanceAs (Decidable (s.cache.covers path.cluster = true ∨
      (s.cache.clusterState path.cluster).mPendingDataVersion = none))
  | .change .. | .request .. | .reportBegin | .skipCluster _ | .enterCluster .. | .leaveCluster
  | .reportEnd | .done => .isTrue trivial

def ReadEvent.WellFormed : ReadEvent → Prop
  | attributeData _ reader item => Holds reader item
  | _ => True

section Steps

variable {cache cache' : ClusterStateCache} {i : Interaction}
variable {cluster : ConcreteClusterPath} {version : UInt32} {report : ClusterReport}
  {path : ConcreteDataAttributePath} {state : AttributeState} {s : ReadState} {i : Interaction}

theorem CompleteAt.congr (h : CompleteAt server cache cluster version)
  (hAttributes : (cache'.clusterState cluster).mAttributes = (cache.clusterState cluster).mAttributes)
  (hData : cache'.mCacheData = cache.mCacheData) : CompleteAt server cache' cluster version := by
  intro attributeId hAttribute
  rw [hAttributes, hData]
  exact h attributeId hAttribute

theorem intersects_of_includes {path other : AttributePathParams}
  (hPath : path.includesAllAttributesInCluster cluster = true)
  (hOther : other.includesAttributesInCluster cluster = true) : path.intersects other = true := by
  simp only [includesAllAttributesInCluster,
    includesAttributesInCluster, Bool.and_eq_true, Bool.or_eq_true,
    decide_eq_true_eq] at hPath hOther
  obtain ⟨⟨hEndpoint, hCluster⟩, hWild⟩ := hPath
  obtain ⟨hEndpoint', hCluster'⟩ := hOther
  simp only [intersects, Bool.and_eq_true, Bool.or_eq_true, decide_eq_true_eq]
  grind

theorem Active.asks_all (h : Active server cache i) (hCovers : cache.covers cluster = true)
  {path : AttributePathParams} (hPath : path ∈ i.paths)
  (hIncludes : path.includesAttributesInCluster cluster = true) (attributeId : UInt32) :
  path.isSupersetOf cluster attributeId = true := by
  obtain ⟨whole, hWhole, hAll⟩ := any_eq_true.mp hCovers
  have hMem := h.requested whole hWhole
  obtain ⟨-, hKept⟩ := mem_filter.mp hMem
  obtain ⟨-, hNone⟩ := Bool.and_eq_true_iff.mp hKept
  have hPathWild : path.hasWildcardAttributeId = true := by
    cases hCase : path.hasWildcardAttributeId with
    | true => rfl
    | false =>
      have hApart := any_eq_false.mp (Bool.not_eq_true' _ ▸ hNone) path hPath
      rw [hCase, intersects_of_includes hAll hIncludes] at hApart
      exact absurd rfl hApart
  have hBoth := Bool.and_eq_true_iff.mp hIncludes
  simp only [isSupersetOf, hPathWild, hBoth.1, hBoth.2, Bool.true_or, Bool.and_true]

theorem Active.commit (h : Active server cache i) (hReporting : i.reporting = true)
  (hCommitted : ∀ cluster version,
    (cache.clusterState cluster).mCommittedDataVersion = some version →
      CompleteAt server cache cluster version) (hValid : cache.mLastReportDataPath.isValid = true)
  (hBusy : ¬ i.Busy cache.mLastReportDataPath)
  (hVersion : (cache.clusterState cache.mLastReportDataPath).committed.mCommittedDataVersion =
    some version) :
  CompleteAt server cache cache.mLastReportDataPath version := by
  rw [ClusterState.committed] at hVersion
  split at hVersion
  next hPending =>
    cases hCovers : cache.covers cache.mLastReportDataPath with
    | true => exact h.last hReporting hValid hCovers hBusy version hVersion
    | false =>
      rw [h.uncovered hReporting hValid hCovers] at hPending
      cases hPending
  next => exact hCommitted _ _ hVersion

@[simp] theorem committed_mAttributes (state : ClusterState) :
  state.committed.mAttributes = state.mAttributes := by
  unfold ClusterState.committed
  split
  · rfl
  · rfl

theorem Reporting.complete (h : Active server cache i) (hReport : Reporting server cache i report)
  (hDue : ∀ attributeId ∈ server.attributes report.cluster,
    report.due server (i.known report.cluster) attributeId = true → attributeId ∈ report.sent)
  (hCovers : cache.covers report.cluster = true) :
  CompleteAt server cache report.cluster report.version := by
  intro attributeId hAttribute
  by_cases hSent : attributeId ∈ report.sent
  · exact hReport.sent attributeId hSent
  · have hAsked := h.asks_all hCovers hReport.path.1 hReport.path.2 attributeId
    have hNotDue : report.due server (i.known report.cluster) attributeId = false :=
      Bool.eq_false_iff.mpr fun hIs => hSent (hDue attributeId hAttribute hIs)
    cases hKnown : i.known report.cluster with
    | none => simp [due, hAsked, hKnown] at hNotDue
    | some version =>
      simp only [due, hAsked, hKnown, Bool.true_and, ne_eq, decide_not, Bool.or_eq_false_iff, Bool.not_eq_false',
        decide_eq_true_eq, contains_eq_mem, decide_eq_false_iff_not] at hNotDue
      rw [← hNotDue.1]
      exact hReport.kept hCovers version hKnown attributeId hAttribute hSent hNotDue.2

theorem mAttributes_received {other : ConcreteClusterPath} (hOther : other ≠ path.cluster) :
  ((cache.received path state).clusterState other).mAttributes =
    (cache.clusterState other).mAttributes := by
  rw [clusterState_received, if_neg hOther]
  split
  · exact committed_mAttributes _
  · rfl

theorem clusterState_received_self :
  (cache.received path state).clusterState path.cluster =
    { mAttributes := (cache.clusterState path.cluster).mAttributes.insert path.mAttributeId state
      mPendingDataVersion :=
        if cache.covers path.cluster then path.mDataVersion
        else (cache.clusterState path.cluster).mPendingDataVersion
      mCommittedDataVersion := none } := by
  rw [clusterState_received, if_pos rfl]

theorem covers_received (cluster : ConcreteClusterPath) :
  (cache.received path state).covers cluster = cache.covers cluster := by
  rw [covers, mRequestPathSet_received, covers]

section Send

variable (report : ClusterReport) (version attributeId : UInt32)

@[simp] theorem send_path : (report.send version attributeId).path = report.path := by
  unfold send
  split
  · rfl
  · rfl

@[simp] theorem send_cluster : (report.send version attributeId).cluster = report.cluster := by
  unfold send
  split
  · rfl
  · rfl

@[simp] theorem send_version : (report.send version attributeId).version = version := by
  unfold send
  split
  next hSame => exact hSame.symm
  next => rfl

theorem send_sent : (report.send version attributeId).sent =
  attributeId :: if version = report.version then report.sent else [] := by
  unfold send
  split
  · rfl
  · rfl

theorem mem_send {report : ClusterReport} {version attributeId other : UInt32}
  (h : other ∈ report.sent ∨ other ∈ report.outdated) :
  other ∈ (report.send version attributeId).sent ∨
    other ∈ (report.send version attributeId).outdated := by
  unfold send
  split
  · exact h.imp_left (mem_cons_of_mem _)
  · exact .inr (mem_append.mpr h)

end Send

theorem Reporting.attributeData (h : Reporting server cache i report)
    (hCluster : path.cluster = report.cluster) (hVersion : path.mDataVersion = some version) :
    let item := server.value report.cluster version path.mAttributeId
    let report' := report.send version path.mAttributeId
    Reporting server (cache.received path (cachedState cache.mCacheData item))
      { i with current := some report' } report' := by
  intro item report'
  let state := cachedState cache.mCacheData item
  have hSelf : (cache.received path state).clusterState report.cluster =
      { mAttributes := (cache.clusterState report.cluster).mAttributes.insert path.mAttributeId state
        mPendingDataVersion :=
          if cache.covers report.cluster then path.mDataVersion
          else (cache.clusterState report.cluster).mPendingDataVersion
        mCommittedDataVersion := none } := by
    rw [← hCluster]
    exact clusterState_received_self
  have hLookup : ∀ attributeId,
      ((cache.received path state).clusterState report.cluster).mAttributes.lookup attributeId =
        if attributeId = path.mAttributeId then some state
        else (cache.clusterState report.cluster).mAttributes.lookup attributeId := by
    intro attributeId
    rw [hSelf]
    by_cases hEq : attributeId = path.mAttributeId
    · rw [if_pos hEq, hEq]
      exact AList.lookup_insert _
    · rw [if_neg hEq]
      exact AList.lookup_insert_ne hEq
  have hSent : report'.sent = path.mAttributeId ::
      if version = report.version then report.sent else [] := send_sent ..
  constructor
  · simpa [report'] using h.path
  · exact h.reporting
  · rw [hSent]
    intro hNil
    cases hNil
  · intro _
    simp only [report', send_cluster, send_version, mLastReportDataPath_received, covers_received]
    rw [hSelf]
    refine ⟨hCluster, rfl, fun hCovers => ?_⟩
    rw [if_pos hCovers, hVersion]
  · intro attributeId hMem
    simp only [report', send_cluster, send_version, mCacheData_received]
    rw [hLookup]
    split
    next hEq => rw [hEq]
    next hNe =>
      rw [hSent] at hMem
      rcases mem_cons.mp hMem with hEq | hEarlier
      · exact absurd hEq hNe
      · split at hEarlier
        next hSame =>
          rw [hSame]
          exact h.sent attributeId hEarlier
        next => cases hEarlier
  · intro hCovers known hKnown attributeId hAttribute hNotSent hNotOutdated
    simp only [report', send_cluster, mCacheData_received, covers_received] at hCovers hKnown hAttribute ⊢
    have hNe : attributeId ≠ path.mAttributeId := by
      rintro rfl
      exact hNotSent (hSent ▸ mem_cons_self ..)
    rw [hLookup, if_neg hNe]
    refine h.kept hCovers known hKnown attributeId hAttribute ?_ ?_
    · exact fun hMem => (mem_send (.inl hMem)).elim hNotSent hNotOutdated
    · exact fun hMem => (mem_send (.inr hMem)).elim hNotSent hNotOutdated

section

variable (h : ReadInv server s) (hInteraction : s.interaction = some i)
include h hInteraction

theorem ReadInv.attributeData (hCurrent : i.current = some report)
  (hCluster : path.cluster = report.cluster)
  (hVersion : path.mDataVersion = some (s.version report.cluster))
  (hPending : s.cache.covers path.cluster = true ∨
      (s.cache.clusterState path.cluster).mPendingDataVersion = none) :
    let item := server.value report.cluster (s.version report.cluster) path.mAttributeId
    ReadInv server { s with
      cache := s.cache.received path (cachedState s.cache.mCacheData item)
      interaction := some { i with
        current := some (report.send (s.version report.cluster) path.mAttributeId) } } := by
  intro item
  let cache' := s.cache.received path (cachedState s.cache.mCacheData item)
  let report' := report.send (s.version report.cluster) path.mAttributeId
  let i' : Interaction := { i with current := some report' }
  have hActive := h.active i hInteraction
  have hReport := hActive.current report hCurrent
  have hBusy' : i'.Busy path.cluster := by
    refine ⟨report', rfl, by rw [hCluster]; exact send_cluster .., ?_⟩
    rw [send_sent]
    exact cons_ne_nil _ _
  have hBusy : ∀ cluster, cluster ≠ path.cluster → ¬ i.Busy cluster := by
    intro cluster hNe hIs
    obtain ⟨other, hOther, hEq, -⟩ := hIs
    cases hCurrent.symm.trans hOther
    exact hNe (hEq.symm.trans hCluster.symm)
  have hFrame : ∀ {cluster version}, cluster ≠ path.cluster →
      CompleteAt server s.cache cluster version → CompleteAt server cache' cluster version :=
    fun hNe hComplete => hComplete.congr (mAttributes_received hNe) mCacheData_received
  constructor
  · intro cluster version hCommitted
    by_cases hSelf : cluster = path.cluster
    · rw [hSelf] at hCommitted
      change (cache'.clusterState path.cluster).mCommittedDataVersion = _ at hCommitted
      rw [clusterState_received_self] at hCommitted
      cases hCommitted
    · refine hFrame hSelf ?_
      change (cache'.clusterState cluster).mCommittedDataVersion = _ at hCommitted
      rw [clusterState_received, if_neg hSelf] at hCommitted
      split at hCommitted
      next hLast =>
        obtain ⟨hValid, rfl⟩ := hLast
        exact hActive.commit hReport.reporting h.committed hValid (hBusy _ hSelf) hCommitted
      next => exact h.committed cluster version hCommitted
  · intro hIdle
    cases hIdle
  · intro j hj
    cases hj
    constructor
    · intro request hRequest
      exact hActive.requested request (by simpa using hRequest)
    · intro filter hFilter hKnown hNotBusy
      have hNe : filter.cluster ≠ path.cluster := fun hEq => hNotBusy (hEq ▸ hBusy')
      exact hFrame hNe (hActive.filters filter hFilter hKnown (hBusy _ hNe))
    · intro cluster version hCovers hKnown hNotBusy
      have hNe : cluster ≠ path.cluster := fun hEq => hNotBusy (hEq ▸ hBusy')
      rw [covers_received] at hCovers
      exact hFrame hNe (hActive.known cluster version hCovers hKnown (hBusy _ hNe))
    · intro _ _ _ hNotBusy
      exact absurd hBusy' hNotBusy
    · intro _ _ hCovers
      rw [mLastReportDataPath_received, covers_received] at hCovers
      rw [mLastReportDataPath_received, clusterState_received_self]
      simp only [hCovers, Bool.false_eq_true, if_false, false_or] at hPending ⊢
      exact hPending
    · intro other hOther
      cases hOther
      exact hReport.attributeData hCluster hVersion

theorem ReadInv.leaveCluster (hCurrent : i.current = some report)
  (hDue : ∀ attributeId ∈ server.attributes report.cluster,
    report.due server (i.known report.cluster) attributeId = true → attributeId ∈ report.sent) :
  ReadInv server { s with
    interaction := some { i with
      known := Function.update i.known report.cluster (some report.version)
      current := none } } := by
  have hActive := h.active i hInteraction
  have hReport := hActive.current report hCurrent
  have hBusy : ∀ cluster, cluster ≠ report.cluster → ¬ i.Busy cluster := by
    intro cluster hNe hIs
    obtain ⟨other, hOther, hEq, -⟩ := hIs
    cases hCurrent.symm.trans hOther
    exact hNe hEq.symm
  have hComplete : s.cache.covers report.cluster = true →
      CompleteAt server s.cache report.cluster report.version :=
    hReport.complete hActive hDue
  constructor
  · exact h.committed
  · intro hIdle
    cases hIdle
  · intro j hj
    cases hj
    constructor
    · exact hActive.requested
    · intro filter hFilter hKnown _
      have hNe : filter.cluster ≠ report.cluster := by
        intro hEq
        simp [hEq] at hKnown
      simp only [Function.update_of_ne hNe] at hKnown
      exact hActive.filters filter hFilter hKnown (hBusy _ hNe)
    · intro cluster version hCovers hKnown _
      by_cases hEq : cluster = report.cluster
      · subst hEq
        simp only [Function.update_self, Option.some.injEq] at hKnown
        subst hKnown
        exact hComplete hCovers
      · simp only [Function.update_of_ne hEq] at hKnown
        exact hActive.known cluster version hCovers hKnown (hBusy _ hEq)
    · intro _ hValid hCovers _ version hPending
      by_cases hIs : i.Busy s.cache.mLastReportDataPath
      · obtain ⟨other, hOther, hEq, hSent⟩ := hIs
        cases hCurrent.symm.trans hOther
        obtain ⟨-, -, hPending'⟩ := hReport.last hSent
        change (s.cache.clusterState s.cache.mLastReportDataPath).mPendingDataVersion = _ at hPending
        change CompleteAt server s.cache s.cache.mLastReportDataPath version
        rw [← hEq] at hPending hCovers ⊢
        cases (hPending' hCovers).symm.trans hPending
        exact hComplete hCovers
      · exact hActive.last hReport.reporting hValid hCovers hIs version hPending
    · exact hActive.uncovered
    · intro other hOther
      cases hOther

theorem ReadInv.skipCluster (hCurrent : i.current = none)
  (hFiltered : i.filtered cluster (s.version cluster) = true) (hUnknown : i.known cluster = none) :
  ReadInv server { s with
    interaction := some { i with
      known := Function.update i.known cluster (some (s.version cluster)) } } := by
  have hActive := h.active i hInteraction
  have hBusy := i.not_busy hCurrent
  constructor
  · exact h.committed
  · intro hIdle
    cases hIdle
  · intro j hj
    cases hj
    constructor
    · exact hActive.requested
    · intro filter hFilter hKnown _
      have hNe : filter.cluster ≠ cluster := by
        intro hEq
        simp [hEq] at hKnown
      simp only [Function.update_of_ne hNe] at hKnown
      exact hActive.filters filter hFilter hKnown (hBusy _)
    · intro other version hCovers hKnown _
      by_cases hEq : other = cluster
      · subst hEq
        simp only [Function.update_self, Option.some.injEq] at hKnown
        obtain ⟨filter, hFilter, hMatch⟩ := any_eq_true.mp hFiltered
        obtain ⟨hSame, hVersion⟩ := Bool.and_eq_true_iff.mp hMatch
        have hComplete := hActive.filters filter hFilter
        rw [of_decide_eq_true hSame, of_decide_eq_true hVersion, hKnown] at hComplete
        exact hComplete hUnknown (hBusy _)
      · simp only [Function.update_of_ne hEq] at hKnown
        exact hActive.known other version hCovers hKnown (hBusy _)
    · exact fun hReporting hValid hCovers _ => hActive.last hReporting hValid hCovers (hBusy _)
    · exact hActive.uncovered
    · intro report hReport
      cases hCurrent.symm.trans hReport

theorem ReadInv.enterCluster {path : AttributePathParams} (hReporting : i.reporting = true)
  (hCurrent : i.current = none) (hPath : path ∈ i.paths)
  (hIncludes : path.includesAttributesInCluster cluster = true) :
  ReadInv server { s with
    interaction := some { i with
      current := some ⟨path, cluster, s.version cluster, [], []⟩ } } := by
  have hActive := h.active i hInteraction
  have hBusy := i.not_busy hCurrent
  constructor
  · exact h.committed
  · intro hIdle
    cases hIdle
  · intro j hj
    cases hj
    constructor
    · exact hActive.requested
    · exact fun filter hFilter hKnown _ => hActive.filters filter hFilter hKnown (hBusy _)
    · exact fun other version hCovers hKnown _ => hActive.known other version hCovers hKnown (hBusy _)
    · exact fun hReporting hValid hCovers _ => hActive.last hReporting hValid hCovers (hBusy _)
    · exact hActive.uncovered
    · intro report hReport
      cases hReport
      exact {
        path := ⟨hPath, hIncludes⟩
        reporting := hReporting
        outdated := fun _ => rfl
        last := fun hSent => absurd rfl hSent
        sent := fun _ hMem => nomatch hMem
        kept := fun hCovers version hKnown attributeId hAttribute _ _ =>
          hActive.known cluster version hCovers hKnown (hBusy _) attributeId hAttribute }

theorem ReadInv.reportBegin (hIdle : i.reporting = false) :
  ReadInv server { s with
    cache := s.cache.onReportBegin
    interaction := some { i with reporting := true } } := by
  have hActive := h.active i hInteraction
  constructor
  · exact h.committed
  · intro hNone
    cases hNone
  · intro j hj
    cases hj
    constructor
    · exact hActive.requested
    · exact hActive.filters
    · exact hActive.known
    · intro _ hValid
      cases hValid
    · intro _ hValid
      cases hValid
    · intro report hReport
      cases (hActive.current report hReport).reporting.symm.trans hIdle

theorem ReadInv.reportEnd (hReporting : i.reporting = true) (hCurrent : i.current = none) :
  ReadInv server { s with
    cache := s.cache.onReportEnd
    interaction := some { i with reporting := false, priming := false } } := by
  have hActive := h.active i hInteraction
  have hBusy := i.not_busy hCurrent
  have hState : ∀ cluster, s.cache.onReportEnd.clusterState cluster =
      if s.cache.mLastReportDataPath.isValid = true ∧ cluster = s.cache.mLastReportDataPath then
        (s.cache.clusterState cluster).committed
      else s.cache.clusterState cluster := clusterState_commit
  have hFrame : ∀ {cluster version}, CompleteAt server s.cache cluster version →
      CompleteAt server s.cache.onReportEnd cluster version := by
    intro cluster version hComplete
    refine hComplete.congr ?_ mCacheData_commit
    rw [hState]
    split
    · exact committed_mAttributes _
    · rfl
  have hCovers : ∀ cluster, s.cache.onReportEnd.covers cluster = s.cache.covers cluster := by
    intro cluster
    change s.cache.commitPendingDataVersion.covers cluster = _
    rw [covers, mRequestPathSet_commit, covers]
  constructor
  · intro cluster version hCommitted
    refine hFrame ?_
    change (s.cache.onReportEnd.clusterState cluster).mCommittedDataVersion = _ at hCommitted
    rw [hState] at hCommitted
    split at hCommitted
    next hLast =>
      obtain ⟨hValid, rfl⟩ := hLast
      exact hActive.commit hReporting h.committed hValid (hBusy _) hCommitted
    next => exact h.committed cluster version hCommitted
  · intro hNone
    cases hNone
  · intro j hj
    cases hj
    constructor
    · intro path hPath
      exact hActive.requested path (mRequestPathSet_commit ▸ hPath)
    · exact fun filter hFilter hKnown _ => hFrame (hActive.filters filter hFilter hKnown (hBusy _))
    · intro cluster version hCovered hKnown _
      rw [hCovers] at hCovered
      exact hFrame (hActive.known cluster version hCovered hKnown (hBusy _))
    · intro hOpen
      cases hOpen
    · intro hOpen
      cases hOpen
    · intro report hReport
      cases hCurrent.symm.trans hReport

end

theorem mem_insertRequestPaths {paths set : List AttributePathParams} {path : AttributePathParams}
  (h : path ∈ paths.foldl insertRequestPath set) : path ∈ paths ∨ path ∈ set := by
  induction paths generalizing set with
  | nil => exact .inr h
  | cons first rest ih =>
    rcases ih h with hRest | hSet
    · exact .inl (mem_cons_of_mem _ hRest)
    · rw [insertRequestPath] at hSet
      split at hSet
      · exact .inr hSet
      · rcases mem_append.mp hSet with hOld | hNew
        · exact .inr hOld
        · exact .inl (mem_singleton.mp hNew ▸ mem_cons_self ..)

theorem ReadInv.request (h : ReadInv server s) (hInteraction : s.interaction = none)
  (paths : List AttributePathParams) (room : Nat) :
  ReadInv server { s with
    cache := (s.cache.onUpdateDataVersionFilterList paths room).2
    interaction := some ⟨paths, (s.cache.onUpdateDataVersionFilterList paths room).1, true, false,
      fun _ => none, none⟩ } := by
  constructor
  · exact h.committed
  · intro hNone
    cases hNone
  · intro j hj
    cases hj
    constructor
    · intro path hPath
      rcases mem_insertRequestPaths hPath with hNew | hOld
      · exact hNew
      · rw [h.idle hInteraction] at hOld
        cases hOld
    · intro filter hFilter _ _
      exact h.committed _ _ (filter_committed hFilter)
    · intro _ _ _ hKnown
      cases hKnown
    · intro hReporting
      cases hReporting
    · intro hReporting
      cases hReporting
    · intro report hReport
      cases hReport

end Steps

theorem guard_bind {p : Prop} [Decidable p] {α : Type} {f : Unit → Option α} {a : α}
  (h : (guard p >>= f : Option α) = some a) : p ∧ f () = some a := by
  by_cases hp : p
  · rw [guard, if_pos hp] at h
    exact ⟨hp, h⟩
  · rw [guard, if_neg hp] at h
    cases h

theorem ReadInv.step {s s' : ReadState} {event : ReadEvent} (h : ReadInv server s)
  (hWell : event.WellFormed) (hPending : event.NothingPending s)
  (hStep : event.step server s = some s') : ReadInv server s' := by
  cases event with
  | change cluster version =>
    cases hStep
    exact ⟨h.committed, h.idle, h.active⟩
  | request paths room =>
    rw [ReadEvent.step] at hStep
    split at hStep
    next => cases hStep
    next hInteraction =>
      cases hStep
      exact h.request hInteraction paths room
  | reportBegin =>
    obtain ⟨i, hInteraction, hRest⟩ := Option.bind_eq_some_iff.mp hStep
    obtain ⟨hIdle, hEq⟩ := guard_bind hRest
    cases hEq
    exact h.reportBegin hInteraction hIdle
  | skipCluster cluster =>
    obtain ⟨i, hInteraction, hRest⟩ := Option.bind_eq_some_iff.mp hStep
    obtain ⟨⟨-, -, hCurrent, hFiltered, hUnknown⟩, hEq⟩ := guard_bind hRest
    cases hEq
    exact h.skipCluster hInteraction (Option.isNone_iff_eq_none.mp hCurrent) hFiltered hUnknown
  | enterCluster path cluster =>
    obtain ⟨i, hInteraction, hRest⟩ := Option.bind_eq_some_iff.mp hStep
    obtain ⟨⟨hReporting, hCurrent, hPath, hIncludes, -⟩, hEq⟩ := guard_bind hRest
    cases hEq
    exact h.enterCluster hInteraction hReporting (Option.isNone_iff_eq_none.mp hCurrent) hPath
      hIncludes
  | attributeData path reader item =>
    obtain ⟨i, hInteraction, hRest⟩ := Option.bind_eq_some_iff.mp hStep
    obtain ⟨report, hCurrent, hRest⟩ := Option.bind_eq_some_iff.mp hRest
    obtain ⟨⟨hCluster, hVersion, hOperation, -, -, hItem⟩, hRest⟩ := guard_bind hRest
    have hData : s.cache.onAttributeData path (some reader) .success =
        some (s.cache.received path (cachedState s.cache.mCacheData item)) :=
      onAttributeData_ok .success hWell hOperation
    rw [hData] at hRest
    cases hRest
    rw [hItem]
    exact h.attributeData hInteraction hCurrent hCluster hVersion hPending
  | leaveCluster =>
    obtain ⟨i, hInteraction, hRest⟩ := Option.bind_eq_some_iff.mp hStep
    obtain ⟨report, hCurrent, hRest⟩ := Option.bind_eq_some_iff.mp hRest
    obtain ⟨hComplete, hEq⟩ := guard_bind hRest
    cases hEq
    exact h.leaveCluster hInteraction hCurrent fun _ hAttribute hDue =>
      sent_of_complete hComplete hAttribute hDue
  | reportEnd =>
    obtain ⟨i, hInteraction, hRest⟩ := Option.bind_eq_some_iff.mp hStep
    obtain ⟨⟨hReporting, hCurrent⟩, hEq⟩ := guard_bind hRest
    cases hEq
    exact h.reportEnd hInteraction hReporting (Option.isNone_iff_eq_none.mp hCurrent)
  | done =>
    obtain ⟨i, hInteraction, hRest⟩ := Option.bind_eq_some_iff.mp hStep
    cases hRest
    exact ⟨h.committed, fun _ => rfl, fun j hj => nomatch hj⟩

/-- Every event of a run finds nothing pending that it would commit. -/
def NothingPendingInRun (server : Server) : List ReadEvent → ReadState → Prop
  | [], _ => True
  | event :: events, s => event.NothingPending s ∧
      ∀ s', event.step server s = some s' → NothingPendingInRun server events s'

instance decidableNothingPending (server : Server) :
    (events : List ReadEvent) → (s : ReadState) → Decidable (NothingPendingInRun server events s)
  | [], _ => .isTrue trivial
  | event :: events, s =>
    match hStep : event.step server s with
    | none => decidable_of_iff (event.NothingPending s) (by simp [NothingPendingInRun, hStep])
    | some s' =>
      have := decidableNothingPending server events s'
      decidable_of_iff (event.NothingPending s ∧ NothingPendingInRun server events s')
        (by simp [NothingPendingInRun, hStep])

theorem ReadInv.run {events : List ReadEvent} {s s' : ReadState} (h : ReadInv server s)
  (hWell : ∀ event ∈ events, event.WellFormed) (hPending : NothingPendingInRun server events s)
  (hRun : readRun server events s = some s') : ReadInv server s' := by
  induction events generalizing s with
  | nil =>
    cases hRun
    exact h
  | cons event events ih =>
    obtain ⟨hEvent, hEvents⟩ := forall_mem_cons.mp hWell
    obtain ⟨s₁, hStep, hRest⟩ := Option.bind_eq_some_iff.mp hRun
    exact ih (h.step hEvent hPending.1 hStep) hEvents (hPending.2 s₁ hStep) hRest

theorem readInv_initial (server : Server) (cacheData : Bool)
  (version : ConcreteClusterPath → UInt32) : ReadInv server (.initial cacheData version) :=
  { committed := fun _ _ hCommitted => (nomatch hCommitted)
    idle := fun _ => rfl
    active := fun _ hActive => (nomatch hActive) }

/-- In every run in which no data for a cluster that the request does not cover as a whole finds a
pending version left, a filter is encoded only for a cluster of which every attribute is cached
with its value at the version of the filter. -/
theorem filters_only_for_complete_clusters (server : Server) (cacheData : Bool)
    (version : ConcreteClusterPath → UInt32) (events : List ReadEvent)
    (hWell : ∀ event ∈ events, event.WellFormed)
    (hPending : NothingPendingInRun server events (.initial cacheData version)) (s : ReadState)
    (hRun : readRun server events (.initial cacheData version) = some s)
    (paths : List AttributePathParams) (room : Nat) :
    ∀ filter ∈ (s.cache.onUpdateDataVersionFilterList paths room).1,
      CompleteAt server s.cache filter.cluster filter.mDataVersion := by
  intro filter hFilter
  have hInv := (readInv_initial server cacheData version).run hWell hPending hRun
  exact hInv.committed _ _ (filter_committed hFilter)

/-- A server with one cluster of three attributes that never change. -/
def threeAttributes : Server := ⟨fun _ => [0, 1, 2], fun _ _ _ => .leaf .null⟩

def onOffCluster : ConcreteClusterPath := ⟨1, 6⟩

def nullAt (attributeId : UInt32) : ReadEvent :=
  let item : Item := .leaf .null
  .attributeData ⟨1, 6, attributeId, false, 0, .notList, some 7⟩ item.reader item

/-- A read of the whole cluster that is cut off after the first attribute. -/
def cutOffRead : List ReadEvent :=
  [.request [⟨1, 6, invalidAttributeId⟩] 10, .reportBegin,
    .enterCluster ⟨1, 6, invalidAttributeId⟩ onOffCluster, nullAt 0, .done]

def wholeRead : List ReadEvent :=
  [.request [⟨1, 6, invalidAttributeId⟩] 10, .reportBegin,
    .enterCluster ⟨1, 6, invalidAttributeId⟩ onOffCluster, nullAt 0, nullAt 1, nullAt 2,
    .leaveCluster, .reportEnd, .done]

def concreteRead : List ReadEvent :=
  [.request [⟨1, 6, 1⟩] 10, .reportBegin, .enterCluster ⟨1, 6, 1⟩ onOffCluster, nullAt 1,
    .leaveCluster, .reportEnd, .done]

theorem nullAt_wellFormed (attributeId : UInt32) : (nullAt attributeId).WellFormed := by
  have hLegal : (Item.leaf .null).Legal := show 0 < 2 ^ 32 by decide
  exact ⟨hLegal, by decide, _, _, _, On.reader hLegal (by decide)⟩

theorem cutOffRead_then_wholeRead :
    (∀ event ∈ cutOffRead ++ wholeRead, event.WellFormed) ∧
      NothingPendingInRun threeAttributes (cutOffRead ++ wholeRead) (.initial true fun _ => 7) ∧
      ∃ s, readRun threeAttributes (cutOffRead ++ wholeRead) (.initial true fun _ => 7) = some s ∧
        (s.cache.onUpdateDataVersionFilterList [⟨1, 6, invalidAttributeId⟩] 10).1 =
          [⟨onOffCluster, 7⟩] ∧
        ∀ filter ∈ (s.cache.onUpdateDataVersionFilterList [⟨1, 6, invalidAttributeId⟩] 10).1,
          CompleteAt threeAttributes s.cache filter.cluster filter.mDataVersion := by
  have hWell : ∀ event ∈ cutOffRead ++ wholeRead, event.WellFormed := by
    simp only [cutOffRead, wholeRead, List.cons_append, List.nil_append, List.forall_mem_cons]
    exact ⟨trivial, trivial, trivial, nullAt_wellFormed 0, trivial, trivial, trivial, trivial,
      nullAt_wellFormed 0, nullAt_wellFormed 1, nullAt_wellFormed 2, trivial, trivial, trivial,
      by simp⟩
  have hPending : NothingPendingInRun threeAttributes (cutOffRead ++ wholeRead)
      (.initial true fun _ => 7) := by
    decide +kernel
  exact ⟨hWell, hPending, _, rfl, by decide +kernel,
    filters_only_for_complete_clusters _ _ _ _ hWell hPending _ rfl _ _⟩

/-- A read that is cut off leaves its version pending; a read of another attribute commits it. The
filter is then sent for a cluster of which an attribute has never been received. -/
theorem filter_for_incomplete_cluster :
    (∀ event ∈ cutOffRead ++ concreteRead, event.WellFormed) ∧
      ∃ s, readRun threeAttributes (cutOffRead ++ concreteRead) (.initial true fun _ => 7) = some s ∧
        (s.cache.onUpdateDataVersionFilterList [⟨1, 6, invalidAttributeId⟩] 10).1 =
          [⟨onOffCluster, 7⟩] ∧
        ¬ CompleteAt threeAttributes s.cache onOffCluster 7 := by
  refine ⟨?_, _, rfl, by decide +kernel, ?_⟩
  · simp only [cutOffRead, concreteRead, List.cons_append, List.nil_append, List.forall_mem_cons]
    exact ⟨trivial, trivial, trivial, nullAt_wellFormed 0, trivial, trivial, trivial, trivial,
      nullAt_wellFormed 1, trivial, trivial, trivial, by simp⟩
  · intro hComplete
    have hThird := hComplete 2 (by decide)
    exact absurd hThird (by decide +kernel)

end Chip.App
