import Chip.TLV.Records
import Chip.TLV.Skipping

/-! The record of a subscription that is to be resumed
(`SimpleSubscriptionResumptionStorage.cpp`): how it is written, how it is loaded, and that it is
loaded as it was written. -/
namespace Chip.App

open Proc TLV

structure AttributePathParamsValues where
  mEndpointId : UInt16
  mClusterId : UInt32
  mAttributeId : UInt32
  deriving DecidableEq

structure EventPathParamsValues where
  mEndpointId : UInt16
  mClusterId : UInt32
  mEventId : UInt32
  mIsUrgentEvent : Bool
  deriving DecidableEq

structure SubscriptionInfo where
  mNodeId : UInt64
  mFabricIndex : UInt8
  mSubscriptionId : UInt32
  mMinInterval : UInt16
  mMaxInterval : UInt16
  mFabricFiltered : Bool
  mAttributePaths : List AttributePathParamsValues
  mEventPaths : List EventPathParamsValues
  deriving DecidableEq

/-- `EstimateStructOverhead` of the sizes of the fields. -/
def estimateStructOverhead (fieldSizes : List Nat) : Nat :=
  (fieldSizes.map (· + 4)).sum + 2

def maxScopedNodeIdSize : Nat := estimateStructOverhead [8, 1]

/-- `MaxSubscriptionPathsSize`, from `CHIP_IM_SERVER_MAX_NUM_PATH_GROUPS_FOR_SUBSCRIPTIONS`. -/
def maxSubscriptionPathsSize (maxNumPathGroups : Nat) : Nat :=
  2 * estimateStructOverhead [estimateStructOverhead [1, 2, 4, 4] * maxNumPathGroups]

def maxSubscriptionSize (maxNumPathGroups : Nat) : Nat :=
  estimateStructOverhead [maxScopedNodeIdSize, 4, 2, 2, 1, maxSubscriptionPathsSize maxNumPathGroups]

inductive SubscriptionTag where
  | peerNodeId
  | fabricIndex
  | subscriptionId
  | minInterval
  | maxInterval
  | fabricFiltered
  | attributePathsList
  | eventPathsList
  | attributePath
  | eventPath
  | endpointId
  | clusterId
  | attributeId
  | eventId
  | eventPathType

def SubscriptionTag.tag : SubscriptionTag → Tag
  | peerNodeId => contextTag 1
  | fabricIndex => contextTag 2
  | subscriptionId => contextTag 3
  | minInterval => contextTag 4
  | maxInterval => contextTag 5
  | fabricFiltered => contextTag 6
  | attributePathsList => contextTag 7
  | eventPathsList => contextTag 8
  | attributePath => contextTag 9
  | eventPath => contextTag 10
  | endpointId => contextTag 11
  | clusterId => contextTag 12
  | attributeId => contextTag 13
  | eventId => contextTag 14
  | eventPathType => contextTag 16

inductive EventPathType where
  | urgent
  | nonUrgent

def EventPathType.code : EventPathType → UInt8
  | urgent => 1
  | nonUrgent => 2

def eventPathTypeOf (isUrgentEvent : Bool) : EventPathType :=
  if isUrgentEvent then .urgent else .nonUrgent

def serializeAttributePaths : List AttributePathParamsValues → Elements
  | [] => .nil
  | path :: rest =>
    .container SubscriptionTag.attributePath.tag .struct
      (.leaf SubscriptionTag.endpointId.tag (.unsignedInteger path.mEndpointId.toUInt64)
        (.leaf SubscriptionTag.clusterId.tag (.unsignedInteger path.mClusterId.toUInt64)
          (.leaf SubscriptionTag.attributeId.tag (.unsignedInteger path.mAttributeId.toUInt64)
            .nil)))
      (serializeAttributePaths rest)

def serializeEventPaths : List EventPathParamsValues → Elements
  | [] => .nil
  | path :: rest =>
    .container SubscriptionTag.eventPath.tag .struct
      (.leaf SubscriptionTag.eventPathType.tag
        (.unsignedInteger (eventPathTypeOf path.mIsUrgentEvent).code.toUInt64)
        (.leaf SubscriptionTag.endpointId.tag (.unsignedInteger path.mEndpointId.toUInt64)
          (.leaf SubscriptionTag.clusterId.tag (.unsignedInteger path.mClusterId.toUInt64)
            (.leaf SubscriptionTag.eventId.tag (.unsignedInteger path.mEventId.toUInt64) .nil))))
      (serializeEventPaths rest)

def serializePaths (info : SubscriptionInfo) : Elements :=
  .container SubscriptionTag.attributePathsList.tag .list
    (serializeAttributePaths info.mAttributePaths)
    (.container SubscriptionTag.eventPathsList.tag .list (serializeEventPaths info.mEventPaths) .nil)

/-- What `Save` writes with a `TLVWriter`. -/
def serializeSubscription (info : SubscriptionInfo) : Elements :=
  .container anonymousTag .struct
    (.leaf SubscriptionTag.peerNodeId.tag (.unsignedInteger info.mNodeId)
      (.leaf SubscriptionTag.fabricIndex.tag (.unsignedInteger info.mFabricIndex.toUInt64)
        (.leaf SubscriptionTag.subscriptionId.tag (.unsignedInteger info.mSubscriptionId.toUInt64)
          (.leaf SubscriptionTag.minInterval.tag (.unsignedInteger info.mMinInterval.toUInt64)
            (.leaf SubscriptionTag.maxInterval.tag (.unsignedInteger info.mMaxInterval.toUInt64)
              (.leaf SubscriptionTag.fabricFiltered.tag (.boolean info.mFabricFiltered)
                (serializePaths info)))))))
    .nil

/-- Which of the allocations of a `Load` are granted: the buffer for the record and those for the
paths. -/
structure LoadMemory where
  backingBuffer : Bool
  attributePaths : Bool
  eventPaths : Bool

def LoadMemory.all : LoadMemory := ⟨true, true, true⟩

def readUInt (tag : SubscriptionTag) (bits : Nat) : ReaderM Nat := do
  nextTag tag.tag
  liftGet (getUInt bits)

def readAttributePath : ReaderM AttributePathParamsValues := do
  nextTypeTag .struct SubscriptionTag.attributePath.tag
  let attributeContainerType ← enterContainer
  let endpointId ← readUInt .endpointId 16
  let clusterId ← readUInt .clusterId 32
  let attributeId ← readUInt .attributeId 32
  exitContainer attributeContainerType
  pure ⟨UInt16.ofNat endpointId, UInt32.ofNat clusterId, UInt32.ofNat attributeId⟩

def readEventPath : ReaderM EventPathParamsValues := do
  nextTypeTag .struct SubscriptionTag.eventPath.tag
  let eventContainerType ← enterContainer
  let eventPathType ← readUInt .eventPathType 8
  let endpointId ← readUInt .endpointId 16
  let clusterId ← readUInt .clusterId 32
  let eventId ← readUInt .eventId 32
  exitContainer eventContainerType
  pure ⟨UInt16.ofNat endpointId, UInt32.ofNat clusterId, UInt32.ofNat eventId,
    UInt8.ofNat eventPathType = EventPathType.urgent.code⟩

def readPaths {α : Type} (readPath : ReaderM α) : Nat → ReaderM (List α)
  | 0 => pure []
  | pathCount + 1 => do
      let path ← readPath
      let rest ← readPaths readPath pathCount
      pure (path :: rest)

/-- A list of paths, for which memory is allocated when there are any. -/
def readPathsList {α : Type} (tag : SubscriptionTag) (readPath : ReaderM α) (granted : Bool) :
  ReaderM (List α) := do
  nextTypeTag .list tag.tag
  let listType ← enterContainer
  let pathCount ← liftGet countRemainingInContainer
  Proc.verify (pathCount ≠ 0 → granted = true) .noMemory
  let paths ← readPaths readPath pathCount
  exitContainer listType
  pure paths

/-- What `Load` reads from the bytes of a record. -/
def deserializeSubscription (memory : LoadMemory) : ReaderM SubscriptionInfo := do
  nextTypeTag .struct anonymousTag
  let subscriptionContainerType ← enterContainer
  let nodeId ← readUInt .peerNodeId 64
  let fabricIndex ← readUInt .fabricIndex 8
  let subscriptionId ← readUInt .subscriptionId 32
  let minInterval ← readUInt .minInterval 16
  let maxInterval ← readUInt .maxInterval 16
  nextTag SubscriptionTag.fabricFiltered.tag
  let fabricFiltered ← liftGet TLVReader.getBool
  let attributePaths ← readPathsList .attributePathsList readAttributePath memory.attributePaths
  let eventPaths ← readPathsList .eventPathsList readEventPath memory.eventPaths
  exitContainer subscriptionContainerType
  pure ⟨UInt64.ofNat nodeId, UInt8.ofNat fabricIndex, UInt32.ofNat subscriptionId,
    UInt16.ofNat minInterval, UInt16.ofNat maxInterval, fabricFiltered, attributePaths, eventPaths⟩

section Reading

variable {profile : BitVec 32} {limit : Nat} {r : TLVReader} {tail : Bytes}

theorem SubscriptionTag.legal (tag : SubscriptionTag) : tag.tag.LegalIn .struct := by
  cases tag <;> exact legal_struct _

theorem SubscriptionTag.legal_list (tag : SubscriptionTag) : tag.tag.LegalIn .list := by
  cases tag <;> exact TLV.legal_list _

theorem readUInt_before {tag : SubscriptionTag} {v : UInt64} {next : Elements} (bits : Nat)
  (hv : v.toNat < 2 ^ bits)
  (h : Before .struct profile limit
    ((Elements.leaf tag.tag (.unsignedInteger v) next).encode profile .struct ++ tail) r) :
  ∃ r', readUInt tag bits r = (.ok v.toNat, r') ∧
    Before .struct profile limit (next.encode profile .struct ++ tail) r' := by
  obtain ⟨r', hNext, hHolds⟩ := h.nextTag_leaf tag.legal (by simp [Value.data])
  refine ⟨r', ?_, hHolds.before⟩
  rw [readUInt, Proc.bind_ok hNext, liftGet, hHolds.getUInt bits hv]

theorem readAttributePath_before {path : AttributePathParamsValues}
  {rest : List AttributePathParamsValues}
  (h : Before .list profile limit
    ((serializeAttributePaths (path :: rest)).encode profile .list ++ tail) r) :
  ∃ r', readAttributePath r = (.ok path, r') ∧
    Before .list profile limit ((serializeAttributePaths rest).encode profile .list ++ tail) r' := by
  obtain ⟨r₁, r₂, hNext, hEnter, hBefore₂⟩ := h.nextTypeTag_container
    (SubscriptionTag.legal_list .attributePath) rfl
  obtain ⟨r₃, hEndpoint, hBefore₃⟩ := readUInt_before 16 (by simpa using path.mEndpointId.toNat_lt)
    hBefore₂
  obtain ⟨r₄, hCluster, hBefore₄⟩ := readUInt_before 32 (by simpa using path.mClusterId.toNat_lt)
    hBefore₃
  obtain ⟨r₅, hAttribute, hBefore₅⟩ := readUInt_before 32
    (by simpa using path.mAttributeId.toNat_lt) hBefore₄
  obtain ⟨r₆, hExit, hBefore₆⟩ := (before_nil hBefore₅).exitContainer .list (by decide)
  refine ⟨r₆, ?_, hBefore₆⟩
  rw [readAttributePath, Proc.bind_ok hNext, Proc.bind_ok hEnter, Proc.bind_ok hEndpoint,
    Proc.bind_ok hCluster, Proc.bind_ok hAttribute, Proc.bind_ok hExit]
  simp

theorem readEventPath_before {path : EventPathParamsValues} {rest : List EventPathParamsValues}
  (h : Before .list profile limit
    ((serializeEventPaths (path :: rest)).encode profile .list ++ tail) r) :
  ∃ r', readEventPath r = (.ok path, r') ∧
    Before .list profile limit ((serializeEventPaths rest).encode profile .list ++ tail) r' := by
  obtain ⟨r₁, r₂, hNext, hEnter, hBefore₂⟩ := h.nextTypeTag_container
    (SubscriptionTag.legal_list .eventPath) rfl
  obtain ⟨r₃, hType, hBefore₃⟩ := readUInt_before 8
    (by simpa using (eventPathTypeOf path.mIsUrgentEvent).code.toNat_lt) hBefore₂
  obtain ⟨r₄, hEndpoint, hBefore₄⟩ := readUInt_before 16 (by simpa using path.mEndpointId.toNat_lt)
    hBefore₃
  obtain ⟨r₅, hCluster, hBefore₅⟩ := readUInt_before 32 (by simpa using path.mClusterId.toNat_lt)
    hBefore₄
  obtain ⟨r₆, hEvent, hBefore₆⟩ := readUInt_before 32 (by simpa using path.mEventId.toNat_lt)
    hBefore₅
  obtain ⟨r₇, hExit, hBefore₇⟩ := (before_nil hBefore₆).exitContainer .list (by decide)
  have hUrgent : decide ((eventPathTypeOf path.mIsUrgentEvent).code = EventPathType.urgent.code) =
      path.mIsUrgentEvent := by
    cases path.mIsUrgentEvent <;> decide
  refine ⟨r₇, ?_, hBefore₇⟩
  rw [readEventPath, Proc.bind_ok hNext, Proc.bind_ok hEnter, Proc.bind_ok hType,
    Proc.bind_ok hEndpoint, Proc.bind_ok hCluster, Proc.bind_ok hEvent, Proc.bind_ok hExit]
  simp [hUrgent]

theorem readPaths_before {α : Type} {readPath : ReaderM α} {serialize : List α → Elements}
  (hPath : ∀ {path rest r},
    Before .list profile limit ((serialize (path :: rest)).encode profile .list ++ tail) r →
    ∃ r', readPath r = (.ok path, r') ∧
      Before .list profile limit ((serialize rest).encode profile .list ++ tail) r')
  (hNil : serialize [] = .nil) (paths : List α)
  (h : Before .list profile limit ((serialize paths).encode profile .list ++ tail) r) :
  ∃ r', readPaths readPath paths.length r = (.ok paths, r') ∧
    Before .list profile limit tail r' := by
  induction paths generalizing r with
  | nil =>
    rw [hNil] at h
    exact ⟨r, rfl, h⟩
  | cons path rest ih =>
    obtain ⟨r₁, hRead, hBefore₁⟩ := hPath h
    obtain ⟨r₂, hRest, hBefore₂⟩ := ih hBefore₁
    refine ⟨r₂, ?_, hBefore₂⟩
    simp only [List.length_cons, readPaths]
    rw [Proc.bind_ok hRead, Proc.bind_ok hRest]
    rfl

theorem serializeAttributePaths_legal (paths : List AttributePathParamsValues) :
  (serializeAttributePaths paths).Legal .list := by
  induction paths with
  | nil => trivial
  | cons path rest ih =>
    exact ⟨SubscriptionTag.legal_list .attributePath, rfl,
      ⟨SubscriptionTag.legal .endpointId, by simp [Value.data],
        SubscriptionTag.legal .clusterId, by simp [Value.data],
        SubscriptionTag.legal .attributeId, by simp [Value.data], trivial⟩, ih⟩

theorem serializeEventPaths_legal (paths : List EventPathParamsValues) :
  (serializeEventPaths paths).Legal .list := by
  induction paths with
  | nil => trivial
  | cons path rest ih =>
    exact ⟨SubscriptionTag.legal_list .eventPath, rfl,
      ⟨SubscriptionTag.legal .eventPathType, by simp [Value.data],
        SubscriptionTag.legal .endpointId, by simp [Value.data],
        SubscriptionTag.legal .clusterId, by simp [Value.data],
        SubscriptionTag.legal .eventId, by simp [Value.data], trivial⟩, ih⟩

theorem siblings_attributePaths (paths : List AttributePathParamsValues) :
  (serializeAttributePaths paths).siblings = paths.length := by
  induction paths with
  | nil => rfl
  | cons path rest ih => simp [serializeAttributePaths, Elements.siblings, ih]

theorem siblings_eventPaths (paths : List EventPathParamsValues) :
  (serializeEventPaths paths).siblings = paths.length := by
  induction paths with
  | nil => rfl
  | cons path rest ih => simp [serializeEventPaths, Elements.siblings, ih]

theorem readPathsList_before {α : Type} {tag : SubscriptionTag} {readPath : ReaderM α}
  {serialize : List α → Elements} {next : Elements} (granted : Bool) (paths : List α)
  (hLegal : (serialize paths).Legal .list) (hSiblings : (serialize paths).siblings = paths.length)
  (hPaths : ∀ r tail, Before .list profile limit ((serialize paths).encode profile .list ++ tail) r →
    ∃ r', readPaths readPath paths.length r = (.ok paths, r') ∧
      Before .list profile limit tail r')
  (h : Before .struct profile limit
    ((Elements.container tag.tag .list (serialize paths) next).encode profile .struct ++ tail) r) :
  ((paths ≠ [] → granted = true) ∧
    ∃ r', readPathsList tag readPath granted r = (.ok paths, r') ∧
      Before .struct profile limit (next.encode profile .struct ++ tail) r') ∨
  (¬ (paths ≠ [] → granted = true) ∧
    ∃ r', readPathsList tag readPath granted r = (.error .noMemory, r')) := by
  obtain ⟨r₁, r₂, hNext, hEnter, hBefore₂⟩ := h.nextTypeTag_container tag.legal rfl
  have hCount := hBefore₂.countRemainingInContainer hLegal (by decide)
  obtain ⟨r₃, hRead, hBefore₃⟩ := hPaths r₂ _ hBefore₂
  obtain ⟨r₄, hExit, hBefore₄⟩ := hBefore₃.exitContainer .struct (by decide)
  have hNonempty : (paths.length ≠ 0 → granted = true) ↔ (paths ≠ [] → granted = true) := by
    simp [List.length_eq_zero_iff]
  rw [hSiblings] at hCount
  simp only [readPathsList]
  rw [Proc.bind_ok hNext, Proc.bind_ok hEnter, liftGet_bind hCount, Proc.verify_bind]
  by_cases hGranted : paths ≠ [] → granted = true
  · refine .inl ⟨hGranted, r₄, ?_, hBefore₄⟩
    rw [if_pos (hNonempty.mpr hGranted), Proc.bind_ok hRead, Proc.bind_ok hExit]
    rfl
  · exact .inr ⟨hGranted, r₂, if_neg fun h => hGranted (hNonempty.mp h)⟩

def LoadMemory.SufficesFor (memory : LoadMemory) (info : SubscriptionInfo) : Prop :=
  (info.mAttributePaths ≠ [] → memory.attributePaths = true) ∧
    (info.mEventPaths ≠ [] → memory.eventPaths = true)

instance (memory : LoadMemory) (info : SubscriptionInfo) : Decidable (memory.SufficesFor info) :=
  inferInstanceAs (Decidable (_ ∧ _))

theorem deserializeSubscription_before (memory : LoadMemory) (info : SubscriptionInfo)
  (h : Before .notSpecified profile limit
    ((serializeSubscription info).encode profile .notSpecified ++ tail) r) :
  (memory.SufficesFor info ∧ ∃ r', deserializeSubscription memory r = (.ok info, r')) ∨
  (¬ memory.SufficesFor info ∧
    ∃ r', deserializeSubscription memory r = (.error .noMemory, r')) := by
  obtain ⟨r₁, r₂, hNext, hEnter, hBefore₂⟩ := h.nextTypeTag_container (.inl rfl) rfl
  obtain ⟨r₃, hNode, hBefore₃⟩ := readUInt_before 64 info.mNodeId.toNat_lt hBefore₂
  obtain ⟨r₄, hFabric, hBefore₄⟩ := readUInt_before 8 (by simpa using info.mFabricIndex.toNat_lt)
    hBefore₃
  obtain ⟨r₅, hId, hBefore₅⟩ := readUInt_before 32 (by simpa using info.mSubscriptionId.toNat_lt)
    hBefore₄
  obtain ⟨r₆, hMin, hBefore₆⟩ := readUInt_before 16 (by simpa using info.mMinInterval.toNat_lt)
    hBefore₅
  obtain ⟨r₇, hMax, hBefore₇⟩ := readUInt_before 16 (by simpa using info.mMaxInterval.toNat_lt)
    hBefore₆
  obtain ⟨r₈, hFiltered, hHolds⟩ := hBefore₇.nextTag_leaf (SubscriptionTag.legal .fabricFiltered)
    (by simp [Value.data])
  have hBool : r₈.getBool = .ok info.mFabricFiltered := by
    have hType := hHolds.type
    cases hValue : info.mFabricFiltered <;> rw [hValue] at hType <;>
      simp [TLVReader.getBool, hType, Value.elementType]
  have hAttributePaths := readPathsList_before memory.attributePaths info.mAttributePaths
    (serializeAttributePaths_legal _) (siblings_attributePaths _)
    (fun r tail hPaths => readPaths_before readAttributePath_before rfl info.mAttributePaths hPaths)
    hHolds.before
  simp only [deserializeSubscription]
  rw [bind_ok hNext, bind_ok hEnter, bind_ok hNode, bind_ok hFabric,
    bind_ok hId, bind_ok hMin, bind_ok hMax, bind_ok hFiltered,
    liftGet_bind hBool]
  obtain ⟨hGranted, r₉, hRead₉, hBefore₉⟩ | ⟨hRefused, r₉, hRead₉⟩ := hAttributePaths
  · have hEventPaths := readPathsList_before memory.eventPaths info.mEventPaths
      (serializeEventPaths_legal _) (siblings_eventPaths _)
      (fun r tail hPaths => readPaths_before readEventPath_before rfl info.mEventPaths hPaths)
      hBefore₉
    rw [bind_ok hRead₉]
    obtain ⟨hGranted', r₁₀, hRead₁₀, hBefore₁₀⟩ | ⟨hRefused, r₁₀, hRead₁₀⟩ := hEventPaths
    · obtain ⟨r₁₁, hExit, -⟩ := (before_nil hBefore₁₀).exitContainer .notSpecified (by decide)
      refine .inl ⟨⟨hGranted, hGranted'⟩, r₁₁, ?_⟩
      rw [bind_ok hRead₁₀, bind_ok hExit]
      simp
    · exact .inr ⟨fun h => hRefused h.2, r₁₀, bind_error hRead₁₀⟩
  · exact .inr ⟨fun h => hRefused h.1, r₉, bind_error hRead₉⟩

end Reading

def subscriptionBytes (info : SubscriptionInfo) : Bytes := (serializeSubscription info).bytes

theorem serializeSubscription_legal (info : SubscriptionInfo) :
  (serializeSubscription info).Legal .notSpecified :=
  ⟨.inl rfl, rfl,
    ⟨SubscriptionTag.legal .peerNodeId, by simp [Value.data],
      SubscriptionTag.legal .fabricIndex, by simp [Value.data],
      SubscriptionTag.legal .subscriptionId, by simp [Value.data],
      SubscriptionTag.legal .minInterval, by simp [Value.data],
      SubscriptionTag.legal .maxInterval, by simp [Value.data],
      SubscriptionTag.legal .fabricFiltered, by simp [Value.data],
      SubscriptionTag.legal .attributePathsList, rfl, serializeAttributePaths_legal _,
      SubscriptionTag.legal .eventPathsList, rfl, serializeEventPaths_legal _, trivial⟩, trivial⟩

/-- What `Load` makes of the bytes of a record. -/
def decodeSubscription (memory : LoadMemory) (bytes : Bytes) : Except ChipError SubscriptionInfo :=
  (deserializeSubscription memory (TLVReader.init bytes bytes.length)).1

theorem decodeSubscription_bytes (memory : LoadMemory) (info : SubscriptionInfo)
  (hLength : (subscriptionBytes info).length < 2 ^ 32) :
  decodeSubscription memory (subscriptionBytes info) =
    if memory.SufficesFor info then .ok info else .error .noMemory := by
  have hBefore := before_init (serializeSubscription info) hLength
  obtain ⟨hSuffices, r', hLoad⟩ | ⟨hRefused, r', hLoad⟩ :=
    deserializeSubscription_before memory info hBefore
  · rw [if_pos hSuffices, decodeSubscription, subscriptionBytes, hLoad]
  · rw [if_neg hRefused, decodeSubscription, subscriptionBytes, hLoad]

section Sizes

def fieldBytes (v : UInt64) : Nat := (uintElementType v).fieldSize.bytes

theorem length_attributePath (profile : BitVec 32) (path : AttributePathParamsValues)
  (rest : List AttributePathParamsValues) :
  ((serializeAttributePaths (path :: rest)).encode profile .list).length =
    9 + fieldBytes path.mEndpointId.toUInt64 + fieldBytes path.mClusterId.toUInt64 +
      fieldBytes path.mAttributeId.toUInt64 +
      ((serializeAttributePaths rest).encode profile .list).length := by
  simp only [serializeAttributePaths, Elements.encode, List.length_append, SubscriptionTag.tag,
    headBytes_context_length, headBytes_context_length_of profile _ _ _ (.inr rfl), terminator,
    List.length_cons, List.length_nil, Value.elementType, Value.data, fieldBytes]
  simp only [struct_fieldBytes]
  omega

theorem length_eventPath (profile : BitVec 32) (path : EventPathParamsValues)
  (rest : List EventPathParamsValues) :
  ((serializeEventPaths (path :: rest)).encode profile .list).length =
    11 + fieldBytes (eventPathTypeOf path.mIsUrgentEvent).code.toUInt64 +
      fieldBytes path.mEndpointId.toUInt64 + fieldBytes path.mClusterId.toUInt64 +
      fieldBytes path.mEventId.toUInt64 +
      ((serializeEventPaths rest).encode profile .list).length := by
  simp only [serializeEventPaths, Elements.encode, List.length_append, SubscriptionTag.tag,
    headBytes_context_length, headBytes_context_length_of profile _ _ _ (.inr rfl), terminator,
    List.length_cons, List.length_nil, Value.elementType, Value.data, fieldBytes]
  simp only [struct_fieldBytes]
  omega

theorem length_subscriptionBytes (info : SubscriptionInfo) :
  (subscriptionBytes info).length =
    20 + fieldBytes info.mNodeId + fieldBytes info.mFabricIndex.toUInt64 +
      fieldBytes info.mSubscriptionId.toUInt64 + fieldBytes info.mMinInterval.toUInt64 +
      fieldBytes info.mMaxInterval.toUInt64 +
      ((serializeAttributePaths info.mAttributePaths).encode profileIdNotSpecified .list).length +
      ((serializeEventPaths info.mEventPaths).encode profileIdNotSpecified .list).length := by
  have hHead := headBytes_anonymous_length profileIdNotSpecified TLVType.struct.toElementType 0
    (.inl rfl)
  have hLeaf : (headBytes .struct profileIdNotSpecified (Value.boolean info.mFabricFiltered).elementType
      (contextTag 6) (Value.boolean info.mFabricFiltered).lenOrVal).length = 2 := by
    rw [headBytes_context_length]
    cases info.mFabricFiltered <;> rfl
  simp only [subscriptionBytes, Elements.bytes, serializeSubscription, serializePaths,
    Elements.encode, List.length_append, hHead, SubscriptionTag.tag, hLeaf]
  simp only [headBytes_context_length, terminator, List.length_cons, Value.elementType, Value.data,
    List.length_nil, fieldBytes]
  simp only [struct_fieldBytes, list_fieldBytes]
  omega

theorem length_attributePaths_le (profile : BitVec 32) (paths : List AttributePathParamsValues) :
  ((serializeAttributePaths paths).encode profile .list).length ≤ 19 * paths.length := by
  induction paths with
  | nil => exact Nat.zero_le _
  | cons path rest ih =>
    have hEndpoint := uintElementType_uint16 path.mEndpointId
    have hCluster := uintElementType_uint32 path.mClusterId
    have hAttribute := uintElementType_uint32 path.mAttributeId
    rw [length_attributePath, fieldBytes, fieldBytes, fieldBytes, List.length_cons]
    omega

theorem length_eventPaths_le (profile : BitVec 32) (paths : List EventPathParamsValues) :
  ((serializeEventPaths paths).encode profile .list).length ≤ 22 * paths.length := by
  induction paths with
  | nil => exact Nat.zero_le _
  | cons path rest ih =>
    have hType := uintElementType_uint8 (eventPathTypeOf path.mIsUrgentEvent).code
    have hEndpoint := uintElementType_uint16 path.mEndpointId
    have hCluster := uintElementType_uint32 path.mClusterId
    have hEvent := uintElementType_uint32 path.mEventId
    rw [length_eventPath, fieldBytes, fieldBytes, fieldBytes, fieldBytes, List.length_cons]
    omega

theorem maxSubscriptionSize_eq (maxNumPathGroups : Nat) :
  maxSubscriptionSize maxNumPathGroups = 66 + 58 * maxNumPathGroups := by
  simp only [maxSubscriptionSize, maxScopedNodeIdSize, maxSubscriptionPathsSize,
    estimateStructOverhead, List.map_cons, List.map_nil, List.sum_cons, List.sum_nil]
  omega

def SubscriptionInfo.WithinPathGroups (info : SubscriptionInfo) (maxNumPathGroups : Nat) : Prop :=
  info.mAttributePaths.length ≤ maxNumPathGroups ∧ info.mEventPaths.length ≤ maxNumPathGroups

theorem length_subscriptionBytes_le {info : SubscriptionInfo} {maxNumPathGroups : Nat}
  (h : info.WithinPathGroups maxNumPathGroups) :
  (subscriptionBytes info).length ≤ maxSubscriptionSize maxNumPathGroups := by
  have hNode := uintElementType_uint64 info.mNodeId
  have hFabric := uintElementType_uint8 info.mFabricIndex
  have hId := uintElementType_uint32 info.mSubscriptionId
  have hMin := uintElementType_uint16 info.mMinInterval
  have hMax := uintElementType_uint16 info.mMaxInterval
  have hAttributes := length_attributePaths_le profileIdNotSpecified info.mAttributePaths
  have hEvents := length_eventPaths_le profileIdNotSpecified info.mEventPaths
  obtain ⟨hAttributePaths, hEventPaths⟩ := h
  rw [length_subscriptionBytes, maxSubscriptionSize_eq]
  simp only [fieldBytes]
  omega

def widestAttributePath : AttributePathParamsValues := ⟨0xFFFF, 0xFFFFFFFF, 0xFFFFFFFF⟩

def widestEventPath : EventPathParamsValues := ⟨0xFFFF, 0xFFFFFFFF, 0xFFFFFFFF, true⟩

def widestSubscription (attributePaths eventPaths : Nat) : SubscriptionInfo where
  mNodeId := 0xFFFFFFFFFFFFFFFF
  mFabricIndex := 1
  mSubscriptionId := 0xFFFFFFFF
  mMinInterval := 0xFFFF
  mMaxInterval := 0xFFFF
  mFabricFiltered := true
  mAttributePaths := List.replicate attributePaths widestAttributePath
  mEventPaths := List.replicate eventPaths widestEventPath

theorem length_widestSubscription (attributePaths eventPaths : Nat) :
  (subscriptionBytes (widestSubscription attributePaths eventPaths)).length =
    37 + 19 * attributePaths + 22 * eventPaths := by
  have hAttributes : ∀ n, ((serializeAttributePaths (List.replicate n widestAttributePath)).encode
      profileIdNotSpecified .list).length = 19 * n := by
    intro n
    induction n with
    | zero => rfl
    | succ n ih =>
      have hEndpoint : fieldBytes widestAttributePath.mEndpointId.toUInt64 = 2 := by decide
      have hCluster : fieldBytes widestAttributePath.mClusterId.toUInt64 = 4 := by decide
      have hAttribute : fieldBytes widestAttributePath.mAttributeId.toUInt64 = 4 := by decide
      rw [List.replicate_succ, length_attributePath, ih]
      omega
  have hEvents : ∀ n, ((serializeEventPaths (List.replicate n widestEventPath)).encode
      profileIdNotSpecified .list).length = 22 * n := by
    intro n
    induction n with
    | zero => rfl
    | succ n ih =>
      have hType : fieldBytes (eventPathTypeOf widestEventPath.mIsUrgentEvent).code.toUInt64 = 1 := by
        decide
      have hEndpoint : fieldBytes widestEventPath.mEndpointId.toUInt64 = 2 := by decide
      have hCluster : fieldBytes widestEventPath.mClusterId.toUInt64 = 4 := by decide
      have hEvent : fieldBytes widestEventPath.mEventId.toUInt64 = 4 := by decide
      rw [List.replicate_succ, length_eventPath, ih]
      omega
  have hFields : fieldBytes 0xFFFFFFFFFFFFFFFF + fieldBytes (1 : UInt8).toUInt64 +
      fieldBytes (0xFFFFFFFF : UInt32).toUInt64 + fieldBytes (0xFFFF : UInt16).toUInt64 +
      fieldBytes (0xFFFF : UInt16).toUInt64 = 17 := by decide
  rw [length_subscriptionBytes]
  simp only [widestSubscription, hAttributes, hEvents]
  omega

end Sizes

end Chip.App
