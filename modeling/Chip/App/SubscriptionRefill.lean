import Chip.App.SubscriptionStorage
import Chip.Data.CompactSlots

/-! `Load` of a subscription into an object that is used again, as an iteration uses it: what the
object was before does not show. -/
namespace Chip.App

open Proc SubscriptionTag TLV

/-- A `Load` under way: the reader, and the object that is filled. -/
structure Loading where
  reader : TLVReader
  info : SubscriptionInfo

abbrev LoadM := Proc ChipError Loading

def onReader {α : Type} (m : ReaderM α) : LoadM α := fun s =>
  ((m s.reader).1, { s with reader := (m s.reader).2 })

def assign (f : SubscriptionInfo → SubscriptionInfo) : LoadM Unit :=
  Proc.modify fun s => { s with info := f s.info }

/-- The next field, an unsigned integer of so many bits, into a member of the object. -/
def getInto (tag : SubscriptionTag) (bits : Nat)
  (member : Nat → SubscriptionInfo → SubscriptionInfo) : LoadM Unit := do
  onReader (nextTag tag.tag)
  let value ← onReader (liftGet (getUInt bits))
  assign (member value)

/-- The array of one kind of paths in an object, and a path of zeros. -/
structure PathArray (α : Type) where
  get : SubscriptionInfo → List α
  put : List α → SubscriptionInfo → SubscriptionInfo
  zero : α
  get_put : ∀ paths info, get (put paths info) = paths
  put_put : ∀ paths paths' info, put paths (put paths' info) = put paths info

def PathArray.modify {α : Type} (array : PathArray α) (pathIndex : Nat) (f : α → α)
  (info : SubscriptionInfo) : SubscriptionInfo :=
  array.put ((array.get info).modify pathIndex f) info

def attributePathArray : PathArray AttributePathParamsValues where
  get := SubscriptionInfo.mAttributePaths
  put := fun paths info => { info with mAttributePaths := paths }
  zero := ⟨0, 0, 0⟩
  get_put := fun _ _ => rfl
  put_put := fun _ _ _ => rfl

def eventPathArray : PathArray EventPathParamsValues where
  get := SubscriptionInfo.mEventPaths
  put := fun paths info => { info with mEventPaths := paths }
  zero := ⟨0, 0, 0, false⟩
  get_put := fun _ _ => rfl
  put_put := fun _ _ _ => rfl

def attributePathInto (pathIndex : Nat) : LoadM Unit := do
  onReader (nextTypeTag .struct SubscriptionTag.attributePath.tag)
  let attributeContainerType ← onReader enterContainer
  getInto .endpointId 16 fun value => attributePathArray.modify pathIndex fun path =>
    { path with mEndpointId := UInt16.ofNat value }
  getInto .clusterId 32 fun value => attributePathArray.modify pathIndex fun path =>
    { path with mClusterId := UInt32.ofNat value }
  getInto .attributeId 32 fun value => attributePathArray.modify pathIndex fun path =>
    { path with mAttributeId := UInt32.ofNat value }
  onReader (exitContainer attributeContainerType)

def eventPathInto (pathIndex : Nat) : LoadM Unit := do
  onReader (nextTypeTag .struct SubscriptionTag.eventPath.tag)
  let eventContainerType ← onReader enterContainer
  getInto .eventPathType 8 fun value => eventPathArray.modify pathIndex fun path =>
    { path with mIsUrgentEvent := UInt8.ofNat value = EventPathType.urgent.code }
  getInto .endpointId 16 fun value => eventPathArray.modify pathIndex fun path =>
    { path with mEndpointId := UInt16.ofNat value }
  getInto .clusterId 32 fun value => eventPathArray.modify pathIndex fun path =>
    { path with mClusterId := UInt32.ofNat value }
  getInto .eventId 32 fun value => eventPathArray.modify pathIndex fun path =>
    { path with mEventId := UInt32.ofNat value }
  onReader (exitContainer eventContainerType)

def pathsInto (pathInto : Nat → LoadM Unit) : Nat → Nat → LoadM Unit
  | 0, _ => pure ()
  | count + 1, pathIndex => do
      pathInto pathIndex
      pathsInto pathInto count (pathIndex + 1)

/-- A list of paths: the array of the object is freed, and a new one is allocated when there are
any. -/
def pathsListInto {α : Type} (tag : SubscriptionTag) (array : PathArray α)
  (pathInto : Nat → LoadM Unit) (granted : Bool) : LoadM Unit := do
  onReader (nextTypeTag .list tag.tag)
  let listType ← onReader enterContainer
  let pathCount ← onReader (liftGet countRemainingInContainer)
  assign (array.put [])
  if pathCount ≠ 0 then do
    Proc.verify (granted = true) .noMemory
    assign (array.put (List.replicate pathCount array.zero))
    pathsInto pathInto pathCount 0
  onReader (exitContainer listType)

/-- What `Load` does with the bytes of a record. -/
def deserializeInto (memory : LoadMemory) : LoadM Unit := do
  onReader (nextTypeTag .struct anonymousTag)
  let subscriptionContainerType ← onReader enterContainer
  getInto .peerNodeId 64 fun value info => { info with mNodeId := UInt64.ofNat value }
  getInto .fabricIndex 8 fun value info => { info with mFabricIndex := UInt8.ofNat value }
  getInto .subscriptionId 32 fun value info => { info with mSubscriptionId := UInt32.ofNat value }
  getInto .minInterval 16 fun value info => { info with mMinInterval := UInt16.ofNat value }
  getInto .maxInterval 16 fun value info => { info with mMaxInterval := UInt16.ofNat value }
  onReader (nextTag SubscriptionTag.fabricFiltered.tag)
  let fabricFiltered ← onReader (liftGet TLVReader.getBool)
  assign fun info => { info with mFabricFiltered := fabricFiltered }
  pathsListInto .attributePathsList attributePathArray attributePathInto memory.attributePaths
  pathsListInto .eventPathsList eventPathArray eventPathInto memory.eventPaths
  onReader (exitContainer subscriptionContainerType)

/-- `Load` into an object: the error, or none, and the object after it. -/
def loadInto (build : SubscriptionBuild) (memory : LoadMemory) (st : SubscriptionRecords)
  (index : Nat) (info : SubscriptionInfo) : Except ChipError Unit × SubscriptionInfo :=
  if memory.backingBuffer = false then (.error .noMemory, info)
  else match st.record index with
    | none => (.error .persistedStorageValueNotFound, info)
    | some bytes =>
      if bytes.length ≤ loadLength build then
        let loaded := deserializeInto memory ⟨TLVReader.init bytes bytes.length, info⟩
        (loaded.1, loaded.2.info)
      else (.error .bufferTooSmall, info)

/-- The loop of `Next`: the index of the subscription that the object then holds, if there is
one. -/
def nextInto (build : SubscriptionBuild) (memory : ScanMemory) :
  List Nat → SubscriptionInfo → SubscriptionRecords →
    Option Nat × SubscriptionInfo × SubscriptionRecords
  | [], output, st => (none, output, st)
  | index :: rest, output, st =>
    match loadInto build (memory index) st index output with
    | (.ok (), output) => (some index, output, st)
    | (.error e, output) =>
      nextInto build memory rest output
        (if e = .persistedStorageValueNotFound then st else st.delete index)

/-- An iteration with one object, from an index on: what the object held after each `Next`, or
`none` when `Next` could still be called after so many calls. -/
def iterate (build : SubscriptionBuild) (memory : ScanMemory) :
  Nat → Nat → SubscriptionInfo → SubscriptionRecords →
    Option (List SubscriptionInfo) × SubscriptionRecords
  | 0, _, _, st => (none, st)
  | calls + 1, nextIndex, output, st =>
    match nextInto build memory ((List.range (build.limit - nextIndex)).map (nextIndex + ·))
        output st with
    | (none, _, st) => (some [], st)
    | (some index, output, st) =>
      let rest := iterate build memory calls (index + 1) output st
      (rest.1.map (output :: ·), rest.2)

section Loading

variable {profile : BitVec 32} {limit : Nat} {r : TLVReader} {tail : Bytes}
  {info : SubscriptionInfo}
variable {α : Type} {tag : SubscriptionTag} {next : Elements} {serialize : List α → Elements}

theorem onReader_ok {m : ReaderM α} {a : α} {r' : TLVReader} (h : m r = (.ok a, r')) :
  onReader m ⟨r, info⟩ = (.ok a, ⟨r', info⟩) := by
  simp only [onReader, h]

theorem onReader_bind {α β : Type} {m : ReaderM α} {a : α} {r' : TLVReader}
  (h : m r = (.ok a, r')) (f : α → LoadM β) :
  (onReader m >>= f) ⟨r, info⟩ = f a ⟨r', info⟩ :=
  bind_ok (onReader_ok h)

theorem assign_ok (f : SubscriptionInfo → SubscriptionInfo) :
  assign f ⟨r, info⟩ = (.ok (), ⟨r, f info⟩) := rfl

theorem liftGet_ok {get : TLVReader → Except ChipError α} {a : α} (h : get r = .ok a) :
  liftGet get r = (.ok a, r) := by
  rw [liftGet, h]

theorem getInto_before {v : UInt64} (bits : Nat) (hv : v.toNat < 2 ^ bits)
  (h : Before .struct profile limit
    ((Elements.leaf tag.tag (.unsignedInteger v) next).encode profile .struct ++ tail) r)
  (info : SubscriptionInfo) (member : Nat → SubscriptionInfo → SubscriptionInfo) :
  ∃ r', getInto tag bits member ⟨r, info⟩ = (.ok (), ⟨r', member v.toNat info⟩) ∧
    Before .struct profile limit (next.encode profile .struct ++ tail) r' := by
  obtain ⟨r', hNext, hHolds⟩ := h.nextTag_leaf tag.legal (by simp [Value.data])
  refine ⟨r', ?_, hHolds.before⟩
  rw [getInto, onReader_bind hNext, onReader_bind (liftGet_ok (hHolds.getUInt bits hv))]
  rfl

theorem getInto_member {v : UInt64} (bits : Nat) (member : Nat → SubscriptionInfo → SubscriptionInfo)
  (object object' : SubscriptionInfo) (hv : v.toNat < 2 ^ bits) (h : Before .struct profile limit
    ((Elements.leaf tag.tag (.unsignedInteger v) next).encode profile .struct ++ tail) r)
  (hMember : member v.toNat object = object') :
  ∃ r', getInto tag bits member ⟨r, object⟩ = (.ok (), ⟨r', object'⟩) ∧
    Before .struct profile limit (next.encode profile .struct ++ tail) r' :=
  hMember ▸ getInto_before bits hv h object member

theorem PathArray.modify_put (array : PathArray α) (done : List α) (path : α) (rest : List α) (f : α → α)
  (info : SubscriptionInfo) :
  array.modify done.length f (array.put (done ++ path :: rest) info) =
    array.put (done ++ f path :: rest) info := by
  rw [PathArray.modify, array.get_put, array.put_put, CompactSlots.modify_append]

theorem attributePathInto_before {path : AttributePathParamsValues}
  {others : List AttributePathParamsValues}
  (h : Before .list profile limit
    ((serializeAttributePaths (path :: others)).encode profile .list ++ tail) r)
  (done : List AttributePathParamsValues) (old : AttributePathParamsValues)
  (rest : List AttributePathParamsValues) (info : SubscriptionInfo) :
  ∃ r', attributePathInto done.length
      ⟨r, attributePathArray.put (done ++ old :: rest) info⟩ =
        (.ok (), ⟨r', attributePathArray.put (done ++ path :: rest) info⟩) ∧
    Before .list profile limit
      ((serializeAttributePaths others).encode profile .list ++ tail) r' := by
  obtain ⟨r₁, r₂, hNext, hEnter, hBefore₂⟩ := h.nextTypeTag_container
    (legal_list .attributePath) rfl
  obtain ⟨r₃, hEndpoint, hBefore₃⟩ := getInto_before 16 (by simpa using path.mEndpointId.toNat_lt)
    hBefore₂ (attributePathArray.put (done ++ old :: rest) info)
    (fun value => attributePathArray.modify done.length fun path =>
      { path with mEndpointId := UInt16.ofNat value })
  rw [attributePathArray.modify_put] at hEndpoint
  obtain ⟨r₄, hCluster, hBefore₄⟩ := getInto_before 32 (by simpa using path.mClusterId.toNat_lt)
    hBefore₃ _ (fun value => attributePathArray.modify done.length fun path =>
      { path with mClusterId := UInt32.ofNat value })
  rw [attributePathArray.modify_put] at hCluster
  obtain ⟨r₅, hAttribute, hBefore₅⟩ := getInto_before 32
    (by simpa using path.mAttributeId.toNat_lt) hBefore₄ _
    (fun value => attributePathArray.modify done.length fun path =>
      { path with mAttributeId := UInt32.ofNat value })
  rw [attributePathArray.modify_put] at hAttribute
  obtain ⟨r₆, hExit, hBefore₆⟩ := (before_nil hBefore₅).exitContainer .list (by decide)
  refine ⟨r₆, ?_, hBefore₆⟩
  rw [attributePathInto, onReader_bind hNext, onReader_bind hEnter, bind_ok hEndpoint,
    bind_ok hCluster, bind_ok hAttribute, onReader_ok hExit]
  simp

theorem eventPathInto_before {path : EventPathParamsValues} {others : List EventPathParamsValues}
  (h : Before .list profile limit
    ((serializeEventPaths (path :: others)).encode profile .list ++ tail) r)
  (done : List EventPathParamsValues) (old : EventPathParamsValues)
  (rest : List EventPathParamsValues) (info : SubscriptionInfo) :
  ∃ r', eventPathInto done.length ⟨r, eventPathArray.put (done ++ old :: rest) info⟩ =
      (.ok (), ⟨r', eventPathArray.put (done ++ path :: rest) info⟩) ∧
    Before .list profile limit ((serializeEventPaths others).encode profile .list ++ tail) r' := by
  obtain ⟨r₁, r₂, hNext, hEnter, hBefore₂⟩ := h.nextTypeTag_container
    (legal_list .eventPath) rfl
  obtain ⟨r₃, hType, hBefore₃⟩ := getInto_before 8
    (by simpa using (eventPathTypeOf path.mIsUrgentEvent).code.toNat_lt) hBefore₂
    (eventPathArray.put (done ++ old :: rest) info)
    (fun value => eventPathArray.modify done.length fun path =>
      { path with mIsUrgentEvent := UInt8.ofNat value = EventPathType.urgent.code })
  rw [eventPathArray.modify_put] at hType
  obtain ⟨r₄, hEndpoint, hBefore₄⟩ := getInto_before 16 (by simpa using path.mEndpointId.toNat_lt)
    hBefore₃ _ (fun value => eventPathArray.modify done.length fun path =>
      { path with mEndpointId := UInt16.ofNat value })
  rw [eventPathArray.modify_put] at hEndpoint
  obtain ⟨r₅, hCluster, hBefore₅⟩ := getInto_before 32 (by simpa using path.mClusterId.toNat_lt)
    hBefore₄ _ (fun value => eventPathArray.modify done.length fun path =>
      { path with mClusterId := UInt32.ofNat value })
  rw [eventPathArray.modify_put] at hCluster
  obtain ⟨r₆, hEvent, hBefore₆⟩ := getInto_before 32 (by simpa using path.mEventId.toNat_lt)
    hBefore₅ _ (fun value => eventPathArray.modify done.length fun path =>
      { path with mEventId := UInt32.ofNat value })
  rw [eventPathArray.modify_put] at hEvent
  obtain ⟨r₇, hExit, hBefore₇⟩ := (before_nil hBefore₆).exitContainer .list (by decide)
  have hUrgent : decide ((eventPathTypeOf path.mIsUrgentEvent).code = EventPathType.urgent.code) =
      path.mIsUrgentEvent := by
    cases path.mIsUrgentEvent <;> decide
  refine ⟨r₇, ?_, hBefore₇⟩
  rw [eventPathInto, onReader_bind hNext, onReader_bind hEnter, bind_ok hType,
    bind_ok hEndpoint, bind_ok hCluster, bind_ok hEvent, onReader_ok hExit]
  simp [hUrgent]

theorem pathsInto_before {array : PathArray α} {pathInto : Nat → LoadM Unit}
  (hPath : ∀ {path : α} {others : List α} {r : TLVReader},
    Before .list profile limit ((serialize (path :: others)).encode profile .list ++ tail) r →
    ∀ (done : List α) (old : α) (rest : List α) (info : SubscriptionInfo),
      ∃ r', pathInto done.length ⟨r, array.put (done ++ old :: rest) info⟩ =
          (.ok (), ⟨r', array.put (done ++ path :: rest) info⟩) ∧
        Before .list profile limit ((serialize others).encode profile .list ++ tail) r')
  (hNil : serialize [] = .nil) (paths done : List α) (info : SubscriptionInfo)
  (h : Before .list profile limit ((serialize paths).encode profile .list ++ tail) r) :
  ∃ r', pathsInto pathInto paths.length done.length
      ⟨r, array.put (done ++ List.replicate paths.length array.zero) info⟩ =
        (.ok (), ⟨r', array.put (done ++ paths) info⟩) ∧
    Before .list profile limit tail r' := by
  induction paths generalizing r done with
  | nil =>
    rw [hNil] at h
    exact ⟨r, rfl, h⟩
  | cons path rest ih =>
    obtain ⟨r₁, hRead, hBefore₁⟩ := hPath h done array.zero
      (List.replicate rest.length array.zero) info
    obtain ⟨r₂, hRest, hBefore₂⟩ := ih (done ++ [path]) hBefore₁
    refine ⟨r₂, ?_, hBefore₂⟩
    rw [List.length_cons, pathsInto, List.replicate_succ, bind_ok hRead]
    simpa using hRest

theorem pathsListInto_before (array : PathArray α) (pathInto : Nat → LoadM Unit) (paths : List α)
  (hLegal : (serialize paths).Legal .list) (hSiblings : (serialize paths).siblings = paths.length)
  (info : SubscriptionInfo) (hPaths : ∀ r tail info,
    Before .list profile limit ((serialize paths).encode profile .list ++ tail) r →
    ∃ r', pathsInto pathInto paths.length 0
        ⟨r, array.put (List.replicate paths.length array.zero) info⟩ =
          (.ok (), ⟨r', array.put paths info⟩) ∧
      Before .list profile limit tail r') (h : Before .struct profile limit
    ((Elements.container tag.tag .list (serialize paths) next).encode profile .struct ++ tail) r) :
  ∃ r', pathsListInto tag array pathInto true ⟨r, info⟩ = (.ok (), ⟨r', array.put paths info⟩) ∧
    Before .struct profile limit (next.encode profile .struct ++ tail) r' := by
  obtain ⟨r₁, r₂, hNext, hEnter, hBefore₂⟩ := h.nextTypeTag_container tag.legal rfl
  have hCount := hBefore₂.countRemainingInContainer hLegal (by decide)
  rw [hSiblings] at hCount
  obtain ⟨r₃, hRead, hBefore₃⟩ := hPaths r₂ _ info hBefore₂
  obtain ⟨r₄, hExit, hBefore₄⟩ := hBefore₃.exitContainer .struct (by decide)
  refine ⟨r₄, ?_, hBefore₄⟩
  rw [pathsListInto, onReader_bind hNext, onReader_bind hEnter, onReader_bind (liftGet_ok hCount),
    bind_ok (assign_ok _)]
  cases paths with
  | nil =>
    have hSame : r₂ = r₃ := by
      simpa [pathsInto] using congrArg (fun result => result.2.reader) hRead
    rw [← hSame] at hExit
    simpa using onReader_ok hExit
  | cons path rest =>
    rw [if_pos (by simp), verify_bind, if_pos rfl, bind_ok (assign_ok _),
      array.put_put, bind_ok hRead]
    exact onReader_ok hExit

theorem deserializeInto_before (info object : SubscriptionInfo)
  (h : Before .notSpecified profile limit
    ((serializeSubscription info).encode profile .notSpecified ++ tail) r) :
  ∃ r', deserializeInto .all ⟨r, object⟩ = (.ok (), ⟨r', info⟩) := by
  obtain ⟨r₁, r₂, hNext, hEnter, hBefore₂⟩ := h.nextTypeTag_container (.inl rfl) rfl
  obtain ⟨r₃, hNode, hBefore₃⟩ := getInto_member 64
    (fun value info => { info with mNodeId := UInt64.ofNat value }) object
    { object with mNodeId := info.mNodeId } info.mNodeId.toNat_lt hBefore₂ (by simp)
  obtain ⟨r₄, hFabric, hBefore₄⟩ := getInto_member 8
    (fun value info => { info with mFabricIndex := UInt8.ofNat value })
    { object with mNodeId := info.mNodeId }
    { object with mNodeId := info.mNodeId, mFabricIndex := info.mFabricIndex }
    (by simpa using info.mFabricIndex.toNat_lt) hBefore₃ (by simp)
  obtain ⟨r₅, hId, hBefore₅⟩ := getInto_member 32
    (fun value info => { info with mSubscriptionId := UInt32.ofNat value })
    { object with mNodeId := info.mNodeId, mFabricIndex := info.mFabricIndex }
    { info with
      mMinInterval := object.mMinInterval, mMaxInterval := object.mMaxInterval,
      mFabricFiltered := object.mFabricFiltered, mAttributePaths := object.mAttributePaths,
      mEventPaths := object.mEventPaths }
    (by simpa using info.mSubscriptionId.toNat_lt) hBefore₄ (by simp)
  obtain ⟨r₆, hMin, hBefore₆⟩ := getInto_member 16
    (fun value info => { info with mMinInterval := UInt16.ofNat value })
    { info with
      mMinInterval := object.mMinInterval, mMaxInterval := object.mMaxInterval,
      mFabricFiltered := object.mFabricFiltered, mAttributePaths := object.mAttributePaths,
      mEventPaths := object.mEventPaths }
    { info with
      mMaxInterval := object.mMaxInterval, mFabricFiltered := object.mFabricFiltered,
      mAttributePaths := object.mAttributePaths, mEventPaths := object.mEventPaths }
    (by simpa using info.mMinInterval.toNat_lt) hBefore₅ (by simp)
  obtain ⟨r₇, hMax, hBefore₇⟩ := getInto_member 16
    (fun value info => { info with mMaxInterval := UInt16.ofNat value })
    { info with
      mMaxInterval := object.mMaxInterval, mFabricFiltered := object.mFabricFiltered,
      mAttributePaths := object.mAttributePaths, mEventPaths := object.mEventPaths }
    { info with
      mFabricFiltered := object.mFabricFiltered, mAttributePaths := object.mAttributePaths,
      mEventPaths := object.mEventPaths }
    (by simpa using info.mMaxInterval.toNat_lt) hBefore₆ (by simp)
  obtain ⟨r₈, hFiltered, hHolds⟩ := hBefore₇.nextTag_leaf (legal .fabricFiltered)
    (by simp [Value.data])
  have hBool : r₈.getBool = .ok info.mFabricFiltered := by
    have hType := hHolds.type
    cases hValue : info.mFabricFiltered <;> rw [hValue] at hType <;>
      simp [TLVReader.getBool, hType, Value.elementType]
  have hAssign : assign (fun object => { object with mFabricFiltered := info.mFabricFiltered })
      ⟨r₈, { info with
        mFabricFiltered := object.mFabricFiltered, mAttributePaths := object.mAttributePaths,
        mEventPaths := object.mEventPaths }⟩ =
      (.ok (), ⟨r₈, { info with
        mAttributePaths := object.mAttributePaths, mEventPaths := object.mEventPaths }⟩) := rfl
  obtain ⟨r₉, hAttributes, hBefore₉⟩ := pathsListInto_before attributePathArray
    attributePathInto info.mAttributePaths (serializeAttributePaths_legal _)
    (siblings_attributePaths _)
    { info with mAttributePaths := object.mAttributePaths, mEventPaths := object.mEventPaths }
    (fun r tail object hPaths => pathsInto_before attributePathInto_before rfl
      info.mAttributePaths [] object hPaths) hHolds.before
  obtain ⟨r₁₀, hEvents, hBefore₁₀⟩ := pathsListInto_before eventPathArray eventPathInto
    info.mEventPaths (serializeEventPaths_legal _) (siblings_eventPaths _)
    (attributePathArray.put info.mAttributePaths
      { info with mAttributePaths := object.mAttributePaths, mEventPaths := object.mEventPaths })
    (fun r tail object hPaths => pathsInto_before eventPathInto_before rfl info.mEventPaths []
      object hPaths) hBefore₉
  obtain ⟨r₁₁, hExit, -⟩ := (before_nil hBefore₁₀).exitContainer .notSpecified (by decide)
  refine ⟨r₁₁, ?_⟩
  rw [deserializeInto, onReader_bind hNext, onReader_bind hEnter, bind_ok hNode,
    bind_ok hFabric, bind_ok hId, bind_ok hMin, bind_ok hMax,
    onReader_bind hFiltered, onReader_bind (liftGet_ok hBool), bind_ok hAssign]
  simp only [LoadMemory.all]
  rw [bind_ok hAttributes, bind_ok hEvents]
  exact onReader_ok hExit

end Loading

theorem loadInto_subscriptionBytes {build : SubscriptionBuild} {st : SubscriptionRecords}
  {index : Nat} {info : SubscriptionInfo} (hRecord : st.record index = some (subscriptionBytes info))
  (hFits : (subscriptionBytes info).length ≤ loadLength build) (object : SubscriptionInfo) :
  loadInto build .all st index object = (.ok (), info) := by
  have hLength : (subscriptionBytes info).length < 2 ^ 32 := by
    have hCast : loadLength build < 2 ^ 16 := Nat.mod_lt _ (by decide)
    omega
  obtain ⟨r', hLoad⟩ := deserializeInto_before info object
    (before_init (serializeSubscription info) hLength)
  rw [loadInto, if_neg (by decide), hRecord]
  rw [subscriptionBytes] at hFits ⊢
  simp only [if_pos hFits, hLoad]

theorem loadInto_none {build : SubscriptionBuild} {st : SubscriptionRecords} {index : Nat}
  (hRecord : st.record index = none) (object : SubscriptionInfo) :
  loadInto build .all st index object = (.error .persistedStorageValueNotFound, object) := by
  rw [loadInto, if_neg (by decide), hRecord]

end Chip.App
