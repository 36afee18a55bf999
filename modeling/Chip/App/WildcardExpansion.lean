import Chip.App.AttributePathExpandIterator
import Mathlib.Data.List.Nodup

/-! The attribute paths that the expansion iterator yields. What is still to come is read off the
indices of a state, level by level; an index that is not started stands for all of its level. -/
namespace Chip.App.PathExpansion

open List Metadata AttributePathExpandIterator ConcreteAttributePath

def between {α : Type} (l : List α) (first last : Nat) : List α := (l.drop first).take (last - first)

/-- All that is to come when the first element has something left and the others all they have. -/
def resume {α β : Type} (left all : α → List β) : List α → List β
  | [] => []
  | a :: rest => left a ++ rest.flatMap all

section Between

variable {α β : Type} {l : List α} {first last : Nat}

theorem between_empty (h : last ≤ first) : between l first last = [] := by
  simp [between, Nat.sub_eq_zero_of_le h]

theorem between_all (l : List α) : between l 0 l.length = l := by simp [between]

theorem between_cons {a : α} (hGet : l[first]? = some a) (h : first < last) :
  between l first last = a :: between l (first + 1) last := by
  obtain ⟨hLength, hValue⟩ := List.getElem?_eq_some_iff.1 hGet
  obtain ⟨count, rfl⟩ : ∃ count, last = first + 1 + count := ⟨last - (first + 1), by omega⟩
  have hFirst : first + 1 + count - first = count + 1 := by omega
  have hRest : first + 1 + count - (first + 1) = count := by omega
  unfold between
  rw [List.drop_eq_getElem_cons hLength, hValue, hFirst, hRest, List.take_succ_cons]

theorem between_single {a : α} (hGet : l[first]? = some a) : between l first (first + 1) = [a] := by
  rw [between_cons hGet (Nat.lt_succ_self _), between_empty (Nat.le_refl _)]

@[simp] theorem resume_same (f : α → List β) (l : List α) : resume f f l = l.flatMap f := by
  cases l <;> simp [resume]

theorem filter_eq_singleton {p : α → Bool} (hUnique : (l.filter p).length ≤ 1) {a : α}
  (hMem : a ∈ l) (hHolds : p a = true) : l.filter p = [a] := by
  have hFiltered : a ∈ l.filter p := mem_filter.2 ⟨hMem, hHolds⟩
  match hFilter : l.filter p with
  | [] => rw [hFilter] at hFiltered; cases hFiltered
  | [b] => rw [hFilter] at hFiltered; rw [mem_singleton.1 hFiltered]
  | _ :: _ :: _ => rw [hFilter] at hUnique; simp at hUnique

theorem findIdx?_filter {p : α → Bool} (hUnique : (l.filter p).length ≤ 1) :
  match l.findIdx? p with
  | none => l.filter p = []
  | some index => ∃ a, l[index]? = some a ∧ p a = true ∧ l.filter p = [a] := by
  cases hFind : l.findIdx? p with
  | none =>
    rw [findIdx?_eq_none_iff] at hFind
    exact filter_eq_nil_iff.2 fun a hMem => by simp [hFind a hMem]
  | some index =>
    obtain ⟨hLength, hHolds, -⟩ := findIdx?_eq_some_iff_getElem.1 hFind
    exact ⟨l[index], getElem?_eq_getElem hLength, hHolds,
      filter_eq_singleton hUnique (getElem_mem hLength) hHolds⟩

theorem filter_length_le_one [DecidableEq β] {f : α → β} (hNodup : (l.map f).Nodup) (b : β) :
  (l.filter (fun a => f a = b)).length ≤ 1 := by
  induction l with
  | nil => simp
  | cons a rest ih =>
    obtain ⟨hFresh, hRest⟩ := nodup_cons.1 hNodup
    by_cases hEq : f a = b
    · have hNone : rest.filter (fun a => f a = b) = [] := by
        refine filter_eq_nil_iff.2 fun c hMem => ?_
        intro hSame
        exact hFresh (mem_map.2 ⟨c, hMem, by simpa [hEq] using hSame⟩)
      simp [hEq, hNone]
    · simpa [filter_cons, hEq] using ih hRest

end Between

variable (metadata : Metadata) (path : AttributePathParams)

def selectsEndpoint (endpoint : EndpointMetadata) : Bool :=
  endpoint.isEnabled && (path.hasWildcardEndpointId || endpoint.endpointId = path.mEndpointId)

def selectsCluster (cluster : ClusterMetadata) : Bool :=
  path.hasWildcardClusterId || cluster.clusterId = path.mClusterId

def selectsAttribute (attributeId : UInt32) : Bool :=
  path.hasWildcardAttributeId || attributeId = path.mAttributeId

/-- The path of an attribute that a wildcard path has been expanded to. -/
def expanded (endpoint : EndpointMetadata) (cluster : ClusterMetadata) (attributeId : UInt32) :
  ConcreteAttributePath :=
  ⟨endpoint.endpointId, cluster.clusterId, attributeId, true⟩

/-- The selected attributes of a cluster, those that are not in the metadata last. -/
def clusterPaths (endpoint : EndpointMetadata) (cluster : ClusterMetadata) :
  List ConcreteAttributePath :=
  ((cluster.attributes ++ metadata.globals).filter (selectsAttribute path)).map
    (expanded endpoint cluster)

def endpointPaths (endpoint : EndpointMetadata) : List ConcreteAttributePath :=
  if endpoint.isEnabled then
    (endpoint.clusters.filter (selectsCluster path)).flatMap (clusterPaths metadata path endpoint)
  else []

/-- What an entry of the list of paths stands for: itself if it is concrete, and otherwise
everything that there is and that matches it. -/
def expand : List ConcreteAttributePath :=
  if isWildcardPath path then
    (metadata.endpoints.filter (selectsEndpoint path)).flatMap (endpointPaths metadata path)
  else [⟨path.mEndpointId, path.mClusterId, path.mAttributeId, false⟩]

/-- The attributes that the prepared range of a cluster still has. -/
def rangePaths (endpoint : EndpointMetadata) (cluster : ClusterMetadata)
  (it : AttributePathExpandIterator) : List ConcreteAttributePath :=
  (between cluster.attributes it.mAttributeIndex.toNat it.mEndAttributeIndex.toNat ++
    between metadata.globals it.mGlobalAttributeIndex.toNat it.mGlobalAttributeEndIndex.toNat).map
      (expanded endpoint cluster)

def clusterLeft (it : AttributePathExpandIterator) (endpoint : EndpointMetadata)
  (cluster : ClusterMetadata) : List ConcreteAttributePath :=
  if it.mAttributeIndex = 0xFFFF ∧ it.mGlobalAttributeIndex = 0xFF then
    clusterPaths metadata path endpoint cluster
  else rangePaths metadata endpoint cluster it

def clustersLeft (it : AttributePathExpandIterator) (endpoint : EndpointMetadata) :
  List ConcreteAttributePath :=
  resume (clusterLeft metadata path it endpoint) (clusterPaths metadata path endpoint)
    (between endpoint.clusters it.mClusterIndex.toNat it.mEndClusterIndex.toNat)

def endpointLeft (it : AttributePathExpandIterator) (endpoint : EndpointMetadata) :
  List ConcreteAttributePath :=
  if it.mClusterIndex = 0xFF then endpointPaths metadata path endpoint
  else clustersLeft metadata path it endpoint

def endpointsLeft (it : AttributePathExpandIterator) : List ConcreteAttributePath :=
  resume (endpointLeft metadata path it) (endpointPaths metadata path)
    (between metadata.endpoints it.mEndpointIndex.toNat it.mEndEndpointIndex.toNat)

/-- What is to come of the entry of the list that the iterator is in. -/
def entryLeft (it : AttributePathExpandIterator) (path : AttributePathParams) :
  List ConcreteAttributePath :=
  if it.mEndpointIndex = 0xFFFF then expand metadata path else endpointsLeft metadata path it

def left (it : AttributePathExpandIterator) : List ConcreteAttributePath :=
  resume (entryLeft metadata it) (expand metadata) it.mpAttributePath

section Lookups

variable {metadata} {path} {endpoint : EndpointMetadata} {cluster : ClusterMetadata}
  (hEndpoint : endpoint ∈ metadata.endpoints) (hEnabled : endpoint.isEnabled = true)
  (hCluster : cluster ∈ endpoint.clusters)

theorem enabled_unique (metadata : Metadata) (endpointId : UInt16) :
  (metadata.endpoints.filter fun endpoint =>
    endpoint.isEnabled && endpoint.endpointId = endpointId).length ≤ 1 := by
  have hOne := filter_length_le_one (f := EndpointMetadata.endpointId) metadata.endpoint_ids endpointId
  rw [filter_filter] at hOne
  simpa only [Bool.and_comm] using hOne

include hEndpoint hEnabled in
theorem endpoint_lookup : metadata.endpoint endpoint.endpointId = some endpoint := by
  unfold Metadata.endpoint
  rw [← List.head?_filter, filter_eq_singleton (enabled_unique metadata _) hEndpoint
    (by simp [hEnabled])]
  rfl

include hEndpoint hEnabled hCluster in
theorem cluster_lookup : metadata.cluster endpoint.endpointId cluster.clusterId = some cluster := by
  unfold Metadata.cluster
  rw [endpoint_lookup hEndpoint hEnabled, Option.bind_some, ← List.head?_filter,
    filter_eq_singleton (filter_length_le_one (f := ClusterMetadata.clusterId)
      (metadata.cluster_ids _ hEndpoint) _) hCluster (by simp)]
  rfl

end Lookups

section Ranges

variable {metadata} {path} {it : AttributePathExpandIterator}

theorem toUInt8_toNat {n : Nat} (h : n < 256) : n.toUInt8.toNat = n := by
  simp [Nat.toUInt8, Nat.mod_eq_of_lt h]

theorem toUInt16_toNat {n : Nat} (h : n < 65536) : n.toUInt16.toNat = n := by
  simp [Nat.toUInt16, Nat.mod_eq_of_lt h]

def Fits (first last length : Nat) : Prop := first < last → last ≤ length

theorem searched_range {α : Type} {l : List α} {p : α → Bool} {first last : Nat}
  (hUnique : (l.filter p).length ≤ 1)
  (hNone : l.findIdx? p = none → last = 0)
  (hSome : ∀ index, l.findIdx? p = some index → first = index ∧ last = index + 1) :
  Fits first last l.length ∧ between l first last = l.filter p := by
  have hFound := findIdx?_filter hUnique
  cases hFind : l.findIdx? p with
  | none =>
    rw [hFind] at hFound
    rw [hNone hFind, hFound]
    exact ⟨fun h => absurd h (Nat.not_lt_zero _), between_empty (Nat.zero_le _)⟩
  | some index =>
    rw [hFind] at hFound
    obtain ⟨a, hGet, -, hFilter⟩ := hFound
    obtain ⟨rfl, rfl⟩ := hSome index hFind
    rw [hFilter]
    exact ⟨fun _ => (List.getElem?_eq_some_iff.1 hGet).1, between_single hGet⟩

theorem searched_range16 {α : Type} {l : List α} {p : α → Bool}
    (hUnique : (l.filter p).length ≤ 1) (hLength : l.length < 65535) :
    let index := (l.findIdx? p).elim (0xFFFF : UInt16) Nat.toUInt16
    Fits index.toNat (index + 1).toNat l.length ∧
      between l index.toNat (index + 1).toNat = l.filter p := by
  refine searched_range hUnique (fun hNone => by rw [hNone]; rfl) fun index hSome => ?_
  have hIndex : index < l.length := (findIdx?_eq_some_iff_getElem.1 hSome).1
  rw [hSome, Option.elim_some, UInt16.toNat_add, toUInt16_toNat (by omega)]
  exact ⟨rfl, Nat.mod_eq_of_lt (by change index + 1 < 65536; omega)⟩

theorem searched_range8 {α : Type} {l : List α} {p : α → Bool}
    (hUnique : (l.filter p).length ≤ 1) (hLength : l.length < 255) :
    let index := (l.findIdx? p).elim (0xFF : UInt8) Nat.toUInt8
    Fits index.toNat (index + 1).toNat l.length ∧
      between l index.toNat (index + 1).toNat = l.filter p := by
  refine searched_range hUnique (fun hNone => by rw [hNone]; rfl) fun index hSome => ?_
  have hIndex : index < l.length := (findIdx?_eq_some_iff_getElem.1 hSome).1
  rw [hSome, Option.elim_some, UInt8.toNat_add, toUInt8_toNat (by omega)]
  exact ⟨rfl, Nat.mod_eq_of_lt (by change index + 1 < 256; omega)⟩

theorem flatMap_filter_of_nil {α β : Type} {f : α → List β} {p : α → Bool} {l : List α}
  (h : ∀ a, p a = false → f a = []) : (l.filter p).flatMap f = l.flatMap f := by
  induction l with
  | nil => rfl
  | cons a rest ih =>
    cases hHolds : p a with
    | true => simp [hHolds, ih]
    | false => simp [hHolds, ih, h a hHolds]

theorem prepareEndpointIndexRange_range (metadata : Metadata) (path : AttributePathParams)
    (it : AttributePathExpandIterator) :
    let prepared := it.prepareEndpointIndexRange metadata path
    Fits prepared.mEndpointIndex.toNat prepared.mEndEndpointIndex.toNat metadata.endpoints.length ∧
      (between metadata.endpoints prepared.mEndpointIndex.toNat
        prepared.mEndEndpointIndex.toNat).flatMap (endpointPaths metadata path) =
      (metadata.endpoints.filter (selectsEndpoint path)).flatMap (endpointPaths metadata path) := by
  have hCount := metadata.endpoint_count
  unfold prepareEndpointIndexRange
  cases hWildcard : path.hasWildcardEndpointId with
  | true =>
    have hLength : metadata.emberAfEndpointCount.toNat = metadata.endpoints.length :=
      toUInt16_toNat (by omega)
    simp only [if_true, hLength, UInt16.toNat_zero, between_all]
    refine ⟨fun _ => Nat.le_refl _, (flatMap_filter_of_nil fun endpoint hNot => ?_).symm⟩
    have hDisabled : endpoint.isEnabled = false := by simpa [selectsEndpoint, hWildcard] using hNot
    simp [endpointPaths, hDisabled]
  | false =>
    have hSelects : selectsEndpoint path = fun endpoint =>
        endpoint.isEnabled && decide (endpoint.endpointId = path.mEndpointId) := by
      funext endpoint
      simp [selectsEndpoint, hWildcard]
    obtain ⟨hFits, hBetween⟩ :=
      searched_range16 (enabled_unique metadata path.mEndpointId) hCount
    simp only [Bool.false_eq_true, if_false, hSelects]
    exact ⟨hFits, congrArg (flatMap (endpointPaths metadata path)) hBetween⟩

theorem prepareClusterIndexRange_range (path : AttributePathParams)
    (it : AttributePathExpandIterator) {endpoint : EndpointMetadata}
    (hEndpoint : endpoint ∈ metadata.endpoints) (hEnabled : endpoint.isEnabled = true) :
    let prepared := it.prepareClusterIndexRange metadata path endpoint.endpointId
    Fits prepared.mClusterIndex.toNat prepared.mEndClusterIndex.toNat endpoint.clusters.length ∧
      between endpoint.clusters prepared.mClusterIndex.toNat prepared.mEndClusterIndex.toNat =
        endpoint.clusters.filter (selectsCluster path) := by
  have hCount := metadata.cluster_count endpoint hEndpoint
  have hLookup := endpoint_lookup hEndpoint hEnabled
  unfold prepareClusterIndexRange
  cases hWildcard : path.hasWildcardClusterId with
  | true =>
    have hLength : (metadata.emberAfClusterCount endpoint.endpointId).toNat =
        endpoint.clusters.length := by
      unfold emberAfClusterCount
      rw [hLookup]
      exact toUInt8_toNat (by omega)
    have hAll : endpoint.clusters.filter (selectsCluster path) = endpoint.clusters :=
      filter_eq_self.2 fun cluster _ => by simp [selectsCluster, hWildcard]
    simp only [if_true, hLength, UInt8.toNat_zero, between_all, hAll]
    exact ⟨fun _ => Nat.le_refl _, trivial⟩
  | false =>
    have hSelects : selectsCluster path = fun cluster =>
        decide (cluster.clusterId = path.mClusterId) := by
      funext cluster
      simp [selectsCluster, hWildcard]
    simp only [Bool.false_eq_true, if_false, hSelects, emberAfClusterIndex, hLookup,
      Option.elim_some]
    exact searched_range8 (filter_length_le_one (f := ClusterMetadata.clusterId)
      (metadata.cluster_ids _ hEndpoint) _) hCount

theorem globals_length (metadata : Metadata) : metadata.globals.length < 255 := by
  unfold globals globalAttributesNotInMetadata
  split <;> decide

/-- Ranges of attributes that do not reach beyond what the cluster has. -/
structure AttributeRanges (metadata : Metadata) (cluster : ClusterMetadata)
    (it : AttributePathExpandIterator) : Prop where
  attributes : Fits it.mAttributeIndex.toNat it.mEndAttributeIndex.toNat cluster.attributes.length
  globals : Fits it.mGlobalAttributeIndex.toNat it.mGlobalAttributeEndIndex.toNat
    metadata.globals.length

theorem prepareAttributeIndexRange_range {endpoint : EndpointMetadata}
    (hEndpoint : endpoint ∈ metadata.endpoints) (hEnabled : endpoint.isEnabled = true)
    {cluster : ClusterMetadata} (hCluster : cluster ∈ endpoint.clusters) :
    let prepared := it.prepareAttributeIndexRange metadata path endpoint.endpointId cluster.clusterId
    AttributeRanges metadata cluster prepared ∧
      rangePaths metadata endpoint cluster prepared = clusterPaths metadata path endpoint cluster := by
  have hCount := metadata.attribute_count endpoint hEndpoint cluster hCluster
  have hLookup := cluster_lookup hEndpoint hEnabled hCluster
  have hNodup := metadata.attribute_ids endpoint hEndpoint cluster hCluster
  have hGlobals : metadata.globals.length < 255 := globals_length metadata
  unfold prepareAttributeIndexRange rangePaths clusterPaths
  cases hWildcard : path.hasWildcardAttributeId with
  | true =>
    have hLength : (metadata.emberAfGetServerAttributeCount endpoint.endpointId
        cluster.clusterId).toNat = cluster.attributes.length := by
      unfold emberAfGetServerAttributeCount
      rw [hLookup]
      exact toUInt16_toNat (by omega)
    have hGlobalLength : metadata.globals.length.toUInt8.toNat = metadata.globals.length :=
      toUInt8_toNat (by omega)
    have hAll : (cluster.attributes ++ metadata.globals).filter (selectsAttribute path) =
        cluster.attributes ++ metadata.globals :=
      filter_eq_self.2 fun attributeId _ => by simp [selectsAttribute, hWildcard]
    simp only [if_true, hLength, hGlobalLength, UInt16.toNat_zero, UInt8.toNat_zero, between_all,
      hAll]
    exact ⟨⟨fun _ => hLength.le, fun _ => hGlobalLength.le⟩, trivial⟩
  | false =>
    have hSelects : selectsAttribute path = fun attributeId =>
        decide (attributeId = path.mAttributeId) := by
      funext attributeId
      simp [selectsAttribute, hWildcard]
    obtain ⟨hAttributes, hOwnGlobals, hApart⟩ := nodup_append.1 hNodup
    have hUnique : (cluster.attributes.filter fun attributeId =>
        decide (attributeId = path.mAttributeId)).length ≤ 1 :=
      filter_length_le_one (f := id) (by simpa using hAttributes) _
    have hGlobalUnique : (metadata.globals.filter fun attributeId =>
        decide (attributeId = path.mAttributeId)).length ≤ 1 :=
      filter_length_le_one (f := id) (by rw [map_id]; exact hOwnGlobals) _
    obtain ⟨hFits, hRange⟩ := searched_range16 hUnique hCount
    obtain ⟨hGlobalFits, hGlobalRange⟩ := searched_range8 hGlobalUnique hGlobals
    simp only [Bool.false_eq_true, if_false, hSelects, filter_append,
      emberAfGetServerAttributeIndexByAttributeId, hLookup, Option.elim_some]
    generalize hIndex : (cluster.attributes.findIdx? fun attributeId =>
      decide (attributeId = path.mAttributeId)).elim (0xFFFF : UInt16) Nat.toUInt16 = index at *
    by_cases hLast : index = 0xFFFF
    · rw [if_pos hLast]
      exact ⟨⟨hFits, hGlobalFits⟩, by rw [hRange, hGlobalRange]⟩
    · have hNoGlobal : metadata.globals.filter (fun attributeId =>
          decide (attributeId = path.mAttributeId)) = [] := by
        refine filter_eq_nil_iff.2 fun other hOther hSame => ?_
        have hFound := findIdx?_filter hUnique
        cases hFind : cluster.attributes.findIdx? fun attributeId =>
            decide (attributeId = path.mAttributeId) with
        | none => exact hLast (by rw [← hIndex, hFind]; rfl)
        | some position =>
          rw [hFind] at hFound
          obtain ⟨attributeId, hGet, hIs, -⟩ := hFound
          exact hApart attributeId (mem_of_getElem? hGet) other hOther
            ((of_decide_eq_true hIs).trans (of_decide_eq_true hSame).symm)
      rw [if_neg hLast]
      refine ⟨⟨hFits, fun h => absurd h (Nat.not_lt_zero _)⟩, ?_⟩
      rw [hRange, hNoGlobal]
      simp [between]

end Ranges

section Steps

open AttributePathExpandIterator

variable {metadata} {path} {it : AttributePathExpandIterator} {endpoint : EndpointMetadata}
  {cluster : ClusterMetadata}

/-- The range of the attributes of a cluster is not prepared. -/
def Unstarted (it : AttributePathExpandIterator) : Prop :=
  it.mAttributeIndex = 0xFFFF ∧ it.mGlobalAttributeIndex = 0xFF

structure InCluster (metadata : Metadata) (path : AttributePathParams)
    (endpoint : EndpointMetadata) (cluster : ClusterMetadata) (it : AttributePathExpandIterator) :
    Prop where
  ranges : ¬ Unstarted it → AttributeRanges metadata cluster it
  suffix : clusterLeft metadata path it endpoint cluster <:+ clusterPaths metadata path endpoint cluster

structure AtCluster (metadata : Metadata) (path : AttributePathParams)
    (endpoint : EndpointMetadata) (cluster : ClusterMetadata) (it : AttributePathExpandIterator) :
    Prop where
  ranges : AttributeRanges metadata cluster it
  started : ¬ Unstarted it
  suffix : it.mOutputPath :: clusterLeft metadata path it endpoint cluster <:+
    clusterPaths metadata path endpoint cluster
  endpointId : it.mOutputPath.mEndpointId = endpoint.endpointId
  clusterId : it.mOutputPath.mClusterId = cluster.clusterId

theorem AtCluster.inCluster (h : AtCluster metadata path endpoint cluster it) :
  InCluster metadata path endpoint cluster it :=
  ⟨fun _ => h.ranges, (suffix_cons _ _).trans h.suffix⟩

theorem Unstarted.inCluster (h : Unstarted it) : InCluster metadata path endpoint cluster it where
  ranges hStarted := absurd h hStarted
  suffix := by
    have hAll : clusterLeft metadata path it endpoint cluster =
      clusterPaths metadata path endpoint cluster := if_pos h
    rw [hAll]

theorem Fits.get {α : Type} {l : List α} {first last : Nat} (h : Fits first last l.length)
  (hMore : first < last) : ∃ a, l[first]? = some a := by
  have hLength : first < l.length := Nat.lt_of_lt_of_le hMore (h hMore)
  exact ⟨l[first], getElem?_eq_getElem hLength⟩

theorem Fits.succ {first last length : Nat} (h : Fits first last length) :
  Fits (first + 1) last length := fun hMore => h (by omega)

variable (hEndpoint : endpoint ∈ metadata.endpoints) (hEnabled : endpoint.isEnabled = true)

include hEndpoint hEnabled in
theorem emitAttribute_spec (hCluster : cluster ∈ endpoint.clusters)
    (hRanges : AttributeRanges metadata cluster it) (hExpanded : it.mOutputPath.mExpanded = true) :
    let step := emitAttribute metadata endpoint.endpointId cluster.clusterId it
    if step.1 then
      rangePaths metadata endpoint cluster it =
        step.2.mOutputPath :: rangePaths metadata endpoint cluster step.2 ∧
      AttributeRanges metadata cluster step.2 ∧ ¬ Unstarted step.2 ∧
      step.2.mOutputPath.mEndpointId = endpoint.endpointId ∧
      step.2.mOutputPath.mClusterId = cluster.clusterId
    else rangePaths metadata endpoint cluster it = [] := by
  have hCount := metadata.attribute_count endpoint hEndpoint cluster hCluster
  unfold emitAttribute rangePaths
  by_cases hMore : it.mAttributeIndex < it.mEndAttributeIndex
  · have hLt := UInt16.lt_iff_toNat_lt.1 hMore
    obtain ⟨attributeId, hGet⟩ := hRanges.attributes.get hLt
    have hNext := toNat_succ16 hMore
    have hEnd := hRanges.attributes hLt
    rw [if_pos hMore]
    simp only [if_true]
    refine ⟨?_, ⟨?_, hRanges.globals⟩, ?_, trivial, trivial⟩
    · rw [between_cons hGet hLt, hNext, emberAfGetServerAttributeIdByIndex,
        cluster_lookup hEndpoint hEnabled hCluster, Option.bind_some, hGet, hExpanded]
      rfl
    · rw [hNext]
      exact hRanges.attributes.succ
    · intro hUnstarted
      have hLast : (it.mAttributeIndex + 1).toNat = 65535 := congrArg UInt16.toNat hUnstarted.1
      omega
  · have hNone : between cluster.attributes it.mAttributeIndex.toNat it.mEndAttributeIndex.toNat = [] :=
      between_empty (UInt16.le_iff_toNat_le.1 (UInt16.not_lt.1 hMore))
    rw [if_neg hMore]
    by_cases hGlobal : it.mGlobalAttributeIndex < it.mGlobalAttributeEndIndex
    · have hLt := UInt8.lt_iff_toNat_lt.1 hGlobal
      obtain ⟨attributeId, hGet⟩ := hRanges.globals.get hLt
      have hNext := toNat_succ8 hGlobal
      have hEnd := hRanges.globals hLt
      have hGlobals := globals_length metadata
      rw [if_pos hGlobal]
      simp only [if_true]
      refine ⟨?_, ⟨hRanges.attributes, ?_⟩, ?_, trivial, trivial⟩
      · rw [hNone, between_cons hGet hLt, hNext, hGet, hExpanded]
        rfl
      · rw [hNext]
        exact hRanges.globals.succ
      · intro hUnstarted
        have hLast : (it.mGlobalAttributeIndex + 1).toNat = 255 :=
          congrArg UInt8.toNat hUnstarted.2
        omega
    · have hNoGlobal : between metadata.globals it.mGlobalAttributeIndex.toNat
          it.mGlobalAttributeEndIndex.toNat = [] :=
        between_empty (UInt8.le_iff_toNat_le.1 (UInt8.not_lt.1 hGlobal))
      rw [if_neg hGlobal]
      simp [hNone, hNoGlobal]

include hEndpoint hEnabled in
theorem clusterStep_spec
    (hGet : endpoint.clusters[it.mClusterIndex.toNat]? = some cluster)
    (hIn : InCluster metadata path endpoint cluster it)
    (hExpanded : it.mOutputPath.mExpanded = true) :
    let step := clusterStep metadata path endpoint.endpointId it
    if step.1 then
      clusterLeft metadata path it endpoint cluster =
        step.2.mOutputPath :: clusterLeft metadata path step.2 endpoint cluster ∧
      AtCluster metadata path endpoint cluster step.2
    else clusterLeft metadata path it endpoint cluster = [] := by
  have hCluster : cluster ∈ endpoint.clusters := mem_of_getElem? hGet
  have hId : (metadata.emberAfGetNthClusterId endpoint.endpointId it.mClusterIndex).getD
      invalidClusterId = cluster.clusterId := by
    rw [emberAfGetNthClusterId, endpoint_lookup hEndpoint hEnabled, Option.bind_some, hGet]
    rfl
  intro step
  have hStep : step = emitAttribute metadata endpoint.endpointId cluster.clusterId
      (it.withAttributeRange metadata path endpoint.endpointId cluster.clusterId) := by
    simp only [step, clusterStep, hId]
  -- The prepared range has what is to come of the cluster.
  have hPrepared : AttributeRanges metadata cluster
        (it.withAttributeRange metadata path endpoint.endpointId cluster.clusterId) ∧
      rangePaths metadata endpoint cluster
        (it.withAttributeRange metadata path endpoint.endpointId cluster.clusterId) =
      clusterLeft metadata path it endpoint cluster := by
    unfold withAttributeRange clusterLeft
    by_cases hUnstarted : it.mAttributeIndex = 0xFFFF ∧ it.mGlobalAttributeIndex = 0xFF
    · rw [if_pos hUnstarted, if_pos hUnstarted]
      exact prepareAttributeIndexRange_range hEndpoint hEnabled hCluster
    · rw [if_neg hUnstarted, if_neg hUnstarted]
      exact ⟨hIn.ranges hUnstarted, rfl⟩
  have hSame := withAttributeRange_same metadata it path endpoint.endpointId cluster.clusterId
  have hEmit := emitAttribute_spec hEndpoint hEnabled hCluster hPrepared.1
    (hSame.expanded.trans hExpanded)
  dsimp only at hEmit
  rw [← hStep, hPrepared.2] at hEmit
  by_cases hFound : step.1 = true
  · rw [if_pos hFound] at hEmit ⊢
    obtain ⟨hLeft, hRanges, hStarted, hEndpointId, hClusterId⟩ := hEmit
    have hNext : clusterLeft metadata path step.2 endpoint cluster =
        rangePaths metadata endpoint cluster step.2 := if_neg hStarted
    refine ⟨by rw [hNext]; exact hLeft, hRanges, hStarted, ?_, hEndpointId, hClusterId⟩
    rw [hNext, ← hLeft]
    exact hIn.suffix
  · rw [if_neg hFound] at hEmit ⊢
    exact hEmit

/-- An iterator in the prepared range of the clusters of an endpoint. -/
structure InClusters (metadata : Metadata) (path : AttributePathParams)
    (endpoint : EndpointMetadata) (it : AttributePathExpandIterator) : Prop where
  fits : Fits it.mClusterIndex.toNat it.mEndClusterIndex.toNat endpoint.clusters.length
  cluster : ∀ cluster, endpoint.clusters[it.mClusterIndex.toNat]? = some cluster →
    InCluster metadata path endpoint cluster it

structure AtEndpoint (metadata : Metadata) (path : AttributePathParams)
    (endpoint : EndpointMetadata) (it : AttributePathExpandIterator) : Prop where
  more : it.mClusterIndex < it.mEndClusterIndex
  fits : Fits it.mClusterIndex.toNat it.mEndClusterIndex.toNat endpoint.clusters.length
  cluster : ∃ cluster, endpoint.clusters[it.mClusterIndex.toNat]? = some cluster ∧
    AtCluster metadata path endpoint cluster it

theorem AtEndpoint.inClusters (h : AtEndpoint metadata path endpoint it) :
  InClusters metadata path endpoint it where
  fits := h.fits
  cluster cluster hGet := by
    obtain ⟨current, hCurrent, hAt⟩ := h.cluster
    cases Option.some.inj (hCurrent.symm.trans hGet)
    exact hAt.inCluster

theorem AtEndpoint.clusterIndex_ne (h : AtEndpoint metadata path endpoint it)
  (hEndpoint : endpoint ∈ metadata.endpoints) : it.mClusterIndex ≠ 0xFF := by
  have hCount := metadata.cluster_count endpoint hEndpoint
  have hMore := UInt8.lt_iff_toNat_lt.1 h.more
  have hEnd := h.fits hMore
  intro hLast
  have hNat : it.mClusterIndex.toNat = 255 := congrArg UInt8.toNat hLast
  omega

theorem clustersLeft_cons (hGet : endpoint.clusters[it.mClusterIndex.toNat]? = some cluster)
  (hMore : it.mClusterIndex < it.mEndClusterIndex) :
  clustersLeft metadata path it endpoint = clusterLeft metadata path it endpoint cluster ++
    (between endpoint.clusters (it.mClusterIndex.toNat + 1) it.mEndClusterIndex.toNat).flatMap
      (clusterPaths metadata path endpoint) := by
  rw [clustersLeft, between_cons hGet (UInt8.lt_iff_toNat_lt.1 hMore)]
  rfl

include hEndpoint hEnabled in
theorem clusterLoop_spec (hIn : InClusters metadata path endpoint it)
    (hExpanded : it.mOutputPath.mExpanded = true) :
    let loop := clusterLoop metadata path endpoint.endpointId it
    if loop.1 then
      clustersLeft metadata path it endpoint =
        loop.2.mOutputPath :: clustersLeft metadata path loop.2 endpoint ∧
      AtEndpoint metadata path endpoint loop.2
    else clustersLeft metadata path it endpoint = [] := by
  induction it using clusterLoop.induct metadata path endpoint.endpointId with
  | case1 it hMore step hFound =>
    obtain ⟨cluster, hGet⟩ := hIn.fits.get (UInt8.lt_iff_toNat_lt.1 hMore)
    have hStep := clusterStep_spec hEndpoint hEnabled hGet (hIn.cluster cluster hGet) hExpanded
    have hSame := clusterStep_same metadata path endpoint.endpointId it
    dsimp only at hStep
    rw [if_pos hFound] at hStep
    obtain ⟨hLeft, hAt⟩ := hStep
    have hGet' : endpoint.clusters[(clusterStep metadata path endpoint.endpointId
        it).2.mClusterIndex.toNat]? = some cluster := by rw [hSame.clusterIndex]; exact hGet
    have hMore' := hMore
    rw [← hSame.clusterIndex, ← hSame.endClusterIndex] at hMore'
    rw [clusterLoop, if_pos hMore]
    dsimp only
    rw [if_pos hFound, if_pos hFound, clustersLeft_cons hGet hMore, hLeft,
      clustersLeft_cons hGet' hMore', hSame.clusterIndex, hSame.endClusterIndex]
    refine ⟨rfl, hMore', ?_, cluster, hGet', hAt⟩
    rw [hSame.clusterIndex, hSame.endClusterIndex]
    exact hIn.fits
  | case2 it hMore step hNone ih =>
    obtain ⟨cluster, hGet⟩ := hIn.fits.get (UInt8.lt_iff_toNat_lt.1 hMore)
    have hStep := clusterStep_spec hEndpoint hEnabled hGet (hIn.cluster cluster hGet) hExpanded
    have hSame := clusterStep_same metadata path endpoint.endpointId it
    dsimp only at hStep
    rw [if_neg hNone] at hStep
    have hNext : step.2.nextCluster.mClusterIndex.toNat = it.mClusterIndex.toNat + 1 := by
      simp only [step, nextCluster, hSame.clusterIndex]
      exact toNat_succ8 hMore
    have hEnd : step.2.nextCluster.mEndClusterIndex = it.mEndClusterIndex := hSame.endClusterIndex
    have hLeft : clustersLeft metadata path step.2.nextCluster endpoint =
        clustersLeft metadata path it endpoint := by
      have hAll : clusterLeft metadata path step.2.nextCluster endpoint =
          clusterPaths metadata path endpoint := by
        funext other
        exact if_pos ⟨rfl, rfl⟩
      rw [clustersLeft_cons hGet hMore, hStep, clustersLeft, hAll, resume_same, hNext, hEnd]
      rfl
    have hInNext : InClusters metadata path endpoint step.2.nextCluster := by
      refine ⟨?_, fun other _ => Unstarted.inCluster ⟨rfl, rfl⟩⟩
      rw [hNext, hEnd]
      exact hIn.fits.succ
    have hRest := ih hInNext (hSame.expanded.trans hExpanded)
    rw [clusterLoop, if_pos hMore]
    dsimp only at hRest ⊢
    rw [if_neg hNone, ← hLeft]
    exact hRest
  | case3 it hDone =>
    rw [clusterLoop, if_neg hDone]
    have hEmpty : between endpoint.clusters it.mClusterIndex.toNat it.mEndClusterIndex.toNat = [] :=
      between_empty (UInt8.le_iff_toNat_le.1 (UInt8.not_lt.1 hDone))
    simp [clustersLeft, hEmpty, resume]

def InEndpoint (metadata : Metadata) (path : AttributePathParams) (endpoint : EndpointMetadata)
  (it : AttributePathExpandIterator) : Prop :=
  it.mClusterIndex ≠ 0xFF → InClusters metadata path endpoint it

section

variable (hGet : metadata.endpoints[it.mEndpointIndex.toNat]? = some endpoint)
include hGet

theorem endpointIndexIsEnabled_eq :
  metadata.emberAfEndpointIndexIsEnabled it.mEndpointIndex = endpoint.isEnabled ∧
    metadata.emberAfEndpointFromIndex it.mEndpointIndex = endpoint.endpointId := by
  unfold emberAfEndpointIndexIsEnabled emberAfEndpointFromIndex
  rw [hGet]
  exact ⟨rfl, rfl⟩

theorem endpointStep_spec (hIn : InEndpoint metadata path endpoint it)
  (hDisabled : endpoint.isEnabled = false → it.mClusterIndex = 0xFF)
  (hExpanded : it.mOutputPath.mExpanded = true) :
    let step := endpointStep metadata path it
    if step.1 then
      endpointLeft metadata path it endpoint =
        step.2.mOutputPath :: endpointLeft metadata path step.2 endpoint ∧
      endpoint.isEnabled = true ∧ AtEndpoint metadata path endpoint step.2
    else endpointLeft metadata path it endpoint = [] := by
  have hEndpoint : endpoint ∈ metadata.endpoints := mem_of_getElem? hGet
  obtain ⟨hIsEnabled, hId⟩ := endpointIndexIsEnabled_eq hGet
  unfold endpointStep
  rw [hIsEnabled]
  cases hEnabled : endpoint.isEnabled with
  | false =>
    simp [endpointLeft, endpointPaths, hDisabled hEnabled, hEnabled]
  | true =>
    -- The prepared range has what is to come of the endpoint.
    have hPrepared : InClusters metadata path endpoint
          (it.withClusterRange metadata path endpoint.endpointId) ∧
        clustersLeft metadata path (it.withClusterRange metadata path endpoint.endpointId)
          endpoint = endpointLeft metadata path it endpoint := by
      unfold withClusterRange endpointLeft
      by_cases hStart : it.mClusterIndex = 0xFF
      · obtain ⟨hFits, hRange⟩ := prepareClusterIndexRange_range path it hEndpoint hEnabled
        rw [if_pos hStart, if_pos hStart]
        refine ⟨⟨hFits, fun cluster _ => Unstarted.inCluster ⟨rfl, rfl⟩⟩, ?_⟩
        have hAll : ∀ other : AttributePathExpandIterator, Unstarted other →
            clusterLeft metadata path other endpoint = clusterPaths metadata path endpoint :=
          fun other hOther => funext fun _ => if_pos hOther
        rw [clustersLeft, hAll _ ⟨rfl, rfl⟩, resume_same, hRange, endpointPaths, if_pos hEnabled]
      · rw [if_neg hStart, if_neg hStart]
        exact ⟨hIn hStart, rfl⟩
    have hSame := withClusterRange_same metadata it path endpoint.endpointId
    have hLoop := clusterLoop_spec hEndpoint hEnabled hPrepared.1 (hSame.expanded.trans hExpanded)
    dsimp only at hLoop
    rw [hPrepared.2] at hLoop
    simp only [if_true, hId]
    generalize clusterLoop metadata path endpoint.endpointId
      (it.withClusterRange metadata path endpoint.endpointId) = loop at hLoop ⊢
    by_cases hFound : loop.1 = true
    · rw [if_pos hFound] at hLoop ⊢
      obtain ⟨hLeft, hAt⟩ := hLoop
      refine ⟨?_, trivial, hAt⟩
      rw [hLeft, endpointLeft, if_neg (hAt.clusterIndex_ne hEndpoint)]
    · rw [if_neg hFound] at hLoop ⊢
      exact hLoop

end

/-- An iterator in the prepared range of the endpoints of a path. -/
structure InEndpoints (metadata : Metadata) (path : AttributePathParams)
    (it : AttributePathExpandIterator) : Prop where
  fits : Fits it.mEndpointIndex.toNat it.mEndEndpointIndex.toNat metadata.endpoints.length
  endpoint : ∀ endpoint, metadata.endpoints[it.mEndpointIndex.toNat]? = some endpoint →
    InEndpoint metadata path endpoint it ∧
      (endpoint.isEnabled = false → it.mClusterIndex = 0xFF)

/-- The iterator has just yielded a path of this entry of the list of paths. -/
structure AtEntry (metadata : Metadata) (path : AttributePathParams)
    (it : AttributePathExpandIterator) : Prop where
  more : it.mEndpointIndex < it.mEndEndpointIndex
  fits : Fits it.mEndpointIndex.toNat it.mEndEndpointIndex.toNat metadata.endpoints.length
  endpoint : ∃ endpoint, metadata.endpoints[it.mEndpointIndex.toNat]? = some endpoint ∧
    endpoint.isEnabled = true ∧ AtEndpoint metadata path endpoint it

theorem AtEntry.inEndpoints (h : AtEntry metadata path it) : InEndpoints metadata path it where
  fits := h.fits
  endpoint endpoint hGet := by
    obtain ⟨current, hCurrent, hEnabled, hAt⟩ := h.endpoint
    cases Option.some.inj (hCurrent.symm.trans hGet)
    exact ⟨fun _ => hAt.inClusters, fun hDisabled => by simp [hDisabled] at hEnabled⟩

theorem endpointsLeft_cons (hGet : metadata.endpoints[it.mEndpointIndex.toNat]? = some endpoint)
  (hMore : it.mEndpointIndex < it.mEndEndpointIndex) :
  endpointsLeft metadata path it = endpointLeft metadata path it endpoint ++
    (between metadata.endpoints (it.mEndpointIndex.toNat + 1) it.mEndEndpointIndex.toNat).flatMap
      (endpointPaths metadata path) := by
  rw [endpointsLeft, between_cons hGet (UInt16.lt_iff_toNat_lt.1 hMore)]
  rfl

theorem endpointLoop_spec (hIn : InEndpoints metadata path it)
    (hExpanded : it.mOutputPath.mExpanded = true) :
    let loop := endpointLoop metadata path it
    if loop.1 then
      endpointsLeft metadata path it =
        loop.2.mOutputPath :: endpointsLeft metadata path loop.2 ∧
      AtEntry metadata path loop.2
    else endpointsLeft metadata path it = [] := by
  induction it using endpointLoop.induct metadata path with
  | case1 it hMore step hFound =>
    obtain ⟨endpoint, hGet⟩ := hIn.fits.get (UInt16.lt_iff_toNat_lt.1 hMore)
    obtain ⟨hInEndpoint, hDisabled⟩ := hIn.endpoint endpoint hGet
    have hStep := endpointStep_spec hGet hInEndpoint hDisabled hExpanded
    have hSame := endpointStep_same metadata path it
    dsimp only at hStep
    rw [if_pos hFound] at hStep
    obtain ⟨hLeft, hEnabled, hAt⟩ := hStep
    have hGet' : metadata.endpoints[(endpointStep metadata path it).2.mEndpointIndex.toNat]? =
        some endpoint := by rw [hSame.index]; exact hGet
    have hMore' := hMore
    rw [← hSame.index, ← hSame.endIndex] at hMore'
    rw [endpointLoop, if_pos hMore]
    dsimp only
    rw [if_pos hFound, if_pos hFound, endpointsLeft_cons hGet hMore, hLeft,
      endpointsLeft_cons hGet' hMore', hSame.index, hSame.endIndex]
    refine ⟨rfl, hMore', ?_, endpoint, hGet', hEnabled, hAt⟩
    rw [hSame.index, hSame.endIndex]
    exact hIn.fits
  | case2 it hMore step hNone ih =>
    obtain ⟨endpoint, hGet⟩ := hIn.fits.get (UInt16.lt_iff_toNat_lt.1 hMore)
    obtain ⟨hInEndpoint, hDisabled⟩ := hIn.endpoint endpoint hGet
    have hStep := endpointStep_spec hGet hInEndpoint hDisabled hExpanded
    have hSame := endpointStep_same metadata path it
    dsimp only at hStep
    rw [if_neg hNone] at hStep
    have hNext : step.2.nextEndpoint.mEndpointIndex.toNat = it.mEndpointIndex.toNat + 1 := by
      simp only [step, nextEndpoint, hSame.index]
      exact toNat_succ16 hMore
    have hEnd : step.2.nextEndpoint.mEndEndpointIndex = it.mEndEndpointIndex := hSame.endIndex
    have hLeft : endpointsLeft metadata path step.2.nextEndpoint =
        endpointsLeft metadata path it := by
      have hAll : endpointLeft metadata path step.2.nextEndpoint = endpointPaths metadata path := by
        funext other
        exact if_pos rfl
      rw [endpointsLeft_cons hGet hMore, hStep, endpointsLeft, hAll, resume_same, hNext, hEnd]
      rfl
    have hInNext : InEndpoints metadata path step.2.nextEndpoint := by
      refine ⟨?_, fun other _ => ⟨fun hNot => absurd rfl hNot, fun _ => rfl⟩⟩
      rw [hNext, hEnd]
      exact hIn.fits.succ
    have hRest := ih hInNext (hSame.expanded.trans hExpanded)
    rw [endpointLoop, if_pos hMore]
    dsimp only at hRest ⊢
    rw [if_neg hNone, ← hLeft]
    exact hRest
  | case3 it hDone =>
    rw [endpointLoop, if_neg hDone]
    have hEmpty : between metadata.endpoints it.mEndpointIndex.toNat
        it.mEndEndpointIndex.toNat = [] :=
      between_empty (UInt16.le_iff_toNat_le.1 (UInt16.not_lt.1 hDone))
    simp [endpointsLeft, hEmpty, resume]

def InEntry (metadata : Metadata) (path : AttributePathParams) (it : AttributePathExpandIterator) :
  Prop :=
  it.mEndpointIndex ≠ 0xFFFF →
    if isWildcardPath path then InEndpoints metadata path it
    else it.mEndpointIndex = it.mEndEndpointIndex

/-- The iterator has just yielded a path of the first entry of what is left of the list. -/
inductive At (metadata : Metadata) (it : AttributePathExpandIterator) : Prop where
  | concrete (path : AttributePathParams) (rest : List AttributePathParams)
      (paths : it.mpAttributePath = path :: rest) (concrete : isWildcardPath path = false)
      (index : it.mEndpointIndex ≠ 0xFFFF) (done : it.mEndpointIndex = it.mEndEndpointIndex)
  | wildcard (path : AttributePathParams) (rest : List AttributePathParams)
      (paths : it.mpAttributePath = path :: rest) (wildcard : isWildcardPath path = true)
      (atEntry : AtEntry metadata path it)

theorem AtEntry.endpointIndex_ne (h : AtEntry metadata path it) : it.mEndpointIndex ≠ 0xFFFF := by
  have hCount := metadata.endpoint_count
  have hMore := UInt16.lt_iff_toNat_lt.1 h.more
  have hEnd := h.fits hMore
  intro hLast
  have hNat : it.mEndpointIndex.toNat = 65535 := congrArg UInt16.toNat hLast
  omega

theorem endpointLoop_paths (metadata : Metadata) (path : AttributePathParams)
  (it : AttributePathExpandIterator) :
  (endpointLoop metadata path it).2.mpAttributePath = it.mpAttributePath := by
  induction it using endpointLoop.induct metadata path with
  | case1 it hMore step hFound =>
    rw [endpointLoop, if_pos hMore]
    dsimp only
    rw [if_pos hFound]
    exact (endpointStep_same metadata path it).paths
  | case2 it hMore step hNone ih =>
    rw [endpointLoop, if_pos hMore]
    dsimp only
    rw [if_neg hNone]
    exact ih.trans (endpointStep_same metadata path it).paths
  | case3 it hDone => rw [endpointLoop, if_neg hDone]

theorem InEndpoints.with_output (h : InEndpoints metadata path it)
  (paths : List AttributePathParams) (output : ConcreteAttributePath) :
  InEndpoints metadata path { it with mpAttributePath := paths, mOutputPath := output } where
  fits := h.fits
  endpoint endpoint hGet := by
    obtain ⟨hIn, hDisabled⟩ := h.endpoint endpoint hGet
    refine ⟨fun hStarted => ⟨(hIn hStarted).fits, fun cluster hCluster => ?_⟩, hDisabled⟩
    have hInCluster := (hIn hStarted).cluster cluster hCluster
    exact ⟨fun hNot => ⟨(hInCluster.ranges hNot).attributes, (hInCluster.ranges hNot).globals⟩,
      hInCluster.suffix⟩

theorem withEndpointRange_spec (hWildcard : isWildcardPath path = true)
    (hIn : InEntry metadata path it) (rest : List AttributePathParams) :
    let prepared := (it.atEntry path rest).withEndpointRange metadata path
    InEndpoints metadata path prepared ∧
      endpointsLeft metadata path prepared = entryLeft metadata it path ∧
      prepared.mpAttributePath = path :: rest ∧ prepared.mOutputPath.mExpanded = true := by
  have hStartIff : (it.atEntry path rest).mEndpointIndex = it.mEndpointIndex := rfl
  unfold entryLeft withEndpointRange
  rw [hStartIff]
  by_cases hStart : it.mEndpointIndex = 0xFFFF
  · obtain ⟨hFits, hRange⟩ := prepareEndpointIndexRange_range metadata path (it.atEntry path rest)
    rw [if_pos hStart, if_pos hStart]
    generalize hPrepared : (it.atEntry path rest).prepareEndpointIndexRange metadata path = prepared
      at hFits hRange ⊢
    have hPaths : prepared.mpAttributePath = path :: rest ∧
        prepared.mOutputPath.mExpanded = true := by
      subst hPrepared
      unfold prepareEndpointIndexRange
      split <;> exact ⟨rfl, hWildcard⟩
    have hAll : endpointLeft metadata path { prepared with mClusterIndex := 0xFF } =
        endpointPaths metadata path := by
      funext endpoint
      exact if_pos rfl
    refine ⟨⟨hFits, fun endpoint _ => ⟨fun hNot => absurd rfl hNot, fun _ => rfl⟩⟩, ?_, hPaths⟩
    rw [endpointsLeft, hAll, resume_same, hRange, expand, if_pos hWildcard]
  · have hRanges := hIn hStart
    rw [if_pos hWildcard] at hRanges
    rw [if_neg hStart, if_neg hStart]
    exact ⟨hRanges.with_output _ _, rfl, rfl, hWildcard⟩

theorem nextLoop_spec (paths : List AttributePathParams) (it : AttributePathExpandIterator)
    (hIn : ∀ path rest, paths = path :: rest → InEntry metadata path it) :
    let loop := nextLoop metadata paths it
    if loop.1 then
      resume (entryLeft metadata it) (expand metadata) paths =
        loop.2.mOutputPath :: left metadata loop.2 ∧ At metadata loop.2
    else resume (entryLeft metadata it) (expand metadata) paths = [] ∧ loop.2.mpAttributePath = [] := by
  induction paths generalizing it with
  | nil => exact ⟨rfl, rfl⟩
  | cons path rest ih =>
    have hEntry := hIn path rest rfl
    -- Going on with the rest of the list, once nothing is left of this entry.
    have hGoOn : ∀ other : AttributePathExpandIterator, entryLeft metadata it path = [] →
        let loop := nextLoop metadata rest { other with mEndpointIndex := 0xFFFF }
        if loop.1 then
          resume (entryLeft metadata it) (expand metadata) (path :: rest) =
            loop.2.mOutputPath :: left metadata loop.2 ∧ At metadata loop.2
        else resume (entryLeft metadata it) (expand metadata) (path :: rest) = [] ∧
          loop.2.mpAttributePath = [] := by
      intro other hNone
      have hAll : entryLeft metadata { other with mEndpointIndex := 0xFFFF } = expand metadata := by
        funext other
        exact if_pos rfl
      have hRest := ih { other with mEndpointIndex := 0xFFFF }
        fun _ _ _ hNot => absurd rfl hNot
      rw [hAll, resume_same] at hRest
      rw [resume, hNone, nil_append]
      exact hRest
    cases hWildcard : isWildcardPath path with
    | false =>
      by_cases hStart : it.mEndpointIndex = 0xFFFF
      · have hNext : nextLoop metadata (path :: rest) it =
            (true, (it.atEntry path rest).emitConcrete path) := by
          rw [nextLoop, if_pos ⟨hStart, hWildcard⟩]
        rw [hNext]
        have hZero : ¬ (0 : UInt16) = 0xFFFF := by decide
        have hLeft : entryLeft metadata ((it.atEntry path rest).emitConcrete path) path = [] := by
          have hDone : between metadata.endpoints 0 0 = [] := between_empty (Nat.le_refl 0)
          simp [entryLeft, emitConcrete, endpointsLeft, hDone, hZero, resume]
        have hPaths : ((it.atEntry path rest).emitConcrete path).mpAttributePath =
          path :: rest := rfl
        refine ⟨?_, .concrete path rest rfl hWildcard hZero rfl⟩
        rw [left, hPaths, resume, resume, hLeft, entryLeft, if_pos hStart, expand, hWildcard]
        simp [emitConcrete, atEntry, hWildcard]
      · have hDone := hEntry hStart
        rw [hWildcard] at hDone
        simp only [Bool.false_eq_true, if_false] at hDone
        have hStill : (it.atEntry path rest).withEndpointRange metadata path =
          it.atEntry path rest := if_neg hStart
        have hOver : endpointLoop metadata path (it.atEntry path rest) =
            (false, it.atEntry path rest) := by
          have hNoMore : ¬ (it.atEntry path rest).mEndpointIndex <
              (it.atEntry path rest).mEndEndpointIndex := by
            change ¬ it.mEndpointIndex < it.mEndEndpointIndex
            rw [hDone]
            exact UInt16.lt_irrefl _
          rw [endpointLoop, if_neg hNoMore]
        have hNext : nextLoop metadata (path :: rest) it =
            nextLoop metadata rest { it.atEntry path rest with mEndpointIndex := 0xFFFF } := by
          rw [nextLoop, if_neg (fun h => hStart h.1), hStill, hOver]
          rfl
        rw [hNext]
        refine hGoOn _ ?_
        have hEmpty : between metadata.endpoints it.mEndpointIndex.toNat
            it.mEndEndpointIndex.toNat = [] := between_empty (by rw [hDone])
        simp [entryLeft, hStart, endpointsLeft, hEmpty, resume]
    | true =>
      have hNext : nextLoop metadata (path :: rest) it =
          let step :=
            endpointLoop metadata path ((it.atEntry path rest).withEndpointRange metadata path)
          if step.1 then step
          else nextLoop metadata rest { step.2 with mEndpointIndex := 0xFFFF } := by
        rw [nextLoop, if_neg (fun h => by rw [hWildcard] at h; cases h.2)]
      rw [hNext]
      obtain ⟨hInPrepared, hLeft, hPaths, hExpanded⟩ :=
        withEndpointRange_spec hWildcard hEntry rest
      have hLoop := endpointLoop_spec hInPrepared hExpanded
      have hSamePaths := endpointLoop_paths metadata path
        ((it.atEntry path rest).withEndpointRange metadata path)
      dsimp only at hLoop
      rw [hLeft] at hLoop
      rw [hPaths] at hSamePaths
      generalize endpointLoop metadata path
        ((it.atEntry path rest).withEndpointRange metadata path) = step at hLoop hSamePaths ⊢
      dsimp only
      by_cases hFound : step.1 = true
      · rw [if_pos hFound] at hLoop
        obtain ⟨hYields, hAt⟩ := hLoop
        rw [if_pos hFound, if_pos hFound]
        refine ⟨?_, .wildcard path rest hSamePaths hWildcard hAt⟩
        rw [resume, hYields, left, hSamePaths, resume, entryLeft, if_neg hAt.endpointIndex_ne]
        rfl
      · rw [if_neg hFound] at hLoop
        rw [if_neg hFound]
        exact hGoOn step.2 hLoop

/-- An iterator on which `Next` may be called. -/
def InState (metadata : Metadata) (it : AttributePathExpandIterator) : Prop :=
  ∀ path rest, it.mpAttributePath = path :: rest → InEntry metadata path it

theorem At.inState (h : At metadata it) : InState metadata it := by
  intro path rest hPaths hStarted
  cases h with
  | concrete path' rest' hPaths' hConcrete hIndex hDone =>
    cases hPaths'.symm.trans hPaths
    rw [hConcrete]
    exact hDone
  | wildcard path' rest' hPaths' hWildcard hAt =>
    cases hPaths'.symm.trans hPaths
    rw [if_pos hWildcard]
    exact hAt.inEndpoints

/-- An iterator that `Next` has left: at a path, or exhausted. -/
def Stopped (metadata : Metadata) (it : AttributePathExpandIterator) : Prop :=
  At metadata it ∨ it.mpAttributePath = []

theorem Stopped.inState (h : Stopped metadata it) : InState metadata it := by
  rcases h with hAt | hDone
  · exact hAt.inState
  · intro path rest hPaths
    rw [hDone] at hPaths
    cases hPaths

theorem next_stopped (hIn : InState metadata it) : Stopped metadata (next metadata it).2 := by
  have hNext := nextLoop_spec it.mpAttributePath it hIn
  dsimp only at hNext
  unfold AttributePathExpandIterator.next
  split at hNext
  · exact .inl hNext.2
  · exact .inr hNext.2

/-- The iterators that a constructor, `Next` and `ResetCurrentCluster` lead to. -/
inductive Reachable (metadata : Metadata) (memory : AttributePathExpandIterator)
    (paths : List AttributePathParams) : AttributePathExpandIterator → Prop where
  | construct : Reachable metadata memory paths (construct metadata memory paths)
  | next {it : AttributePathExpandIterator} (prior : Reachable metadata memory paths it) :
      Reachable metadata memory paths (next metadata it).2
  | resetCurrentCluster {it : AttributePathExpandIterator}
      (prior : Reachable metadata memory paths it) :
      Reachable metadata memory paths (resetCurrentCluster metadata it)

theorem fresh_inState (hIndex : it.mEndpointIndex = 0xFFFF) : InState metadata it :=
  fun _ _ _ hStarted => absurd hIndex hStarted

def restarted (it : AttributePathExpandIterator) : AttributePathExpandIterator :=
  { it with mAttributeIndex := 0xFFFF, mGlobalAttributeIndex := 0xFF }

variable {rest : List AttributePathParams}

theorem restarted_inState (hPaths : it.mpAttributePath = path :: rest)
  (hWildcard : isWildcardPath path = true) (hAt : AtEntry metadata path it) :
  InState metadata (restarted it) := by
  intro path' rest' hPaths' hStarted
  cases hPaths.symm.trans hPaths'
  rw [if_pos hWildcard]
  have hIn := hAt.inEndpoints
  refine ⟨hIn.fits, fun endpoint hGet => ?_⟩
  obtain ⟨hInEndpoint, hDisabled⟩ := hIn.endpoint endpoint hGet
  exact ⟨fun hNot => ⟨(hInEndpoint hNot).fits, fun cluster _ => Unstarted.inCluster ⟨rfl, rfl⟩⟩,
    hDisabled⟩

theorem resetCurrentCluster_done (hDone : it.mpAttributePath = []) :
  resetCurrentCluster metadata it = it := by
  unfold resetCurrentCluster
  split
  · rfl
  · simp_all

theorem resetCurrentCluster_cons (hPaths : it.mpAttributePath = path :: rest) :
  resetCurrentCluster metadata it =
    if path.hasWildcardAttributeId then (next metadata (restarted it)).2 else it := by
  unfold resetCurrentCluster
  split
  · simp_all
  · rename_i hPaths'
    cases hPaths.symm.trans hPaths'
    rfl

theorem At.atEntry (h : At metadata it) (hPaths : it.mpAttributePath = path :: rest)
  (hAttribute : path.hasWildcardAttributeId = true) :
  isWildcardPath path = true ∧ AtEntry metadata path it := by
  cases h with
  | concrete path' rest' hPaths' hConcrete hIndex hDone =>
    cases hPaths'.symm.trans hPaths
    simp [isWildcardPath, hAttribute] at hConcrete
  | wildcard path' rest' hPaths' hWildcard hAt =>
    cases hPaths'.symm.trans hPaths
    exact ⟨hWildcard, hAt⟩

theorem Reachable.stopped {memory : AttributePathExpandIterator} {paths : List AttributePathParams}
  (h : Reachable metadata memory paths it) : Stopped metadata it := by
  induction h with
  | construct => exact next_stopped (fresh_inState rfl)
  | next _ ih => exact next_stopped ih.inState
  | @resetCurrentCluster it _ ih =>
    cases hPaths : it.mpAttributePath with
    | nil => rwa [resetCurrentCluster_done hPaths]
    | cons path rest =>
      rw [resetCurrentCluster_cons hPaths]
      split
      · rename_i hAttribute
        have hAt : At metadata it := ih.resolve_right (by rw [hPaths]; exact cons_ne_nil _ _)
        obtain ⟨hWildcard, hAtEntry⟩ := hAt.atEntry hPaths hAttribute
        exact next_stopped (restarted_inState hPaths hWildcard hAtEntry)
      · exact ih

end Steps

variable {endpoint : EndpointMetadata}

variable (metadata : Metadata) (path : AttributePathParams)

end Chip.App.PathExpansion
