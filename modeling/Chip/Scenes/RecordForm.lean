import Chip.Scenes.SceneStorage
import Chip.Scenes.UnreliableCalls

/-! The form of what is stored for a scene table, whatever operations of the storage fail. -/
namespace Chip.Scenes

open List TLV Faulty

/-- A stored map has the size of the table, its count is at most the number of its scenes, and its
free slots are cleared. -/
structure MapForm (sizes : TableSizes) (sceneCount : UInt8) (sceneMap : List SceneStorageId) :
    Prop where
  length : sceneMap.length = sizes.mMaxScenesPerFabric
  count : sceneCount.toNat ≤ sceneMap.countP SceneStorageId.isValid
  cleared : ∀ id ∈ sceneMap, id.isValid = true ∨ id = .cleared

def RecordOf (sizes : TableSizes) : SceneKey → Bytes → Prop
  | .fabricSceneData _ _, bytes => ∃ sceneCount sceneMap,
      bytes = (serializeFabric sceneCount sceneMap).bytes ∧ MapForm sizes sceneCount sceneMap
  | .fabricScene _ _ _, bytes => ∃ entry,
      bytes = (serializeScene entry).bytes ∧ bytes.length ≤ persistentSceneBufferMax
  | .endpointSceneCount _, bytes => ∃ countValue, bytes = (serializeCount countValue).bytes

def RecordForm (sizes : TableSizes) (st : SceneTable) : Prop :=
  ∀ key bytes, st.storage key = some bytes → RecordOf sizes key bytes

section Maps

variable {sizes : TableSizes} {sceneCount : UInt8} {sceneMap : List SceneStorageId} {i : Nat}
  {id : SceneStorageId}

theorem mapForm_cleared (sizes : TableSizes) :
  MapForm sizes 0 (replicate sizes.mMaxScenesPerFabric .cleared) where
  length := length_replicate
  count := Nat.zero_le _
  cleared := fun _ hMem => .inr (eq_of_mem_replicate hMem)

section

variable (h : MapForm sizes sceneCount sceneMap)
include h

theorem MapForm.length_le : sceneMap.length ≤ maxScenesPerFabric := by
  rw [h.length]
  exact sizes.perFabric

theorem MapForm.count_le : sceneCount.toNat ≤ sizes.mMaxScenesPerFabric := by
  rw [← h.length]
  exact h.count.trans countP_le_length

theorem MapForm.min_count {maxPerFabric : Nat} (hMax : sizes.mMaxScenesPerFabric ≤ maxPerFabric)
  (hLimit : maxPerFabric ≤ maxScenesPerFabric) :
  min sceneCount (UInt8.ofNat maxPerFabric) = sceneCount := by
  have hCount := h.count_le
  simp only [maxScenesPerFabric] at hLimit
  have hNat : (UInt8.ofNat maxPerFabric).toNat = maxPerFabric :=
    UInt8.toNat_ofNat_of_lt' (by simp only [UInt8.size]; omega)
  refine if_pos ?_
  rw [UInt8.le_iff_toNat_le, hNat]
  omega

end

theorem countP_set (h : sceneMap[i]? = some id) (id' : SceneStorageId) :
  (sceneMap.set i id').countP SceneStorageId.isValid + (if id.isValid then 1 else 0) =
    sceneMap.countP SceneStorageId.isValid + (if id'.isValid then 1 else 0) := by
  induction sceneMap generalizing i with
  | nil => cases h
  | cons first rest ih =>
    cases i with
    | zero =>
      obtain rfl : first = id := Option.some.inj h
      rw [set_cons_zero, countP_cons, countP_cons]
      omega
    | succ i =>
      have hRest := ih h
      rw [set_cons_succ, countP_cons, countP_cons]
      omega

theorem MapForm.put (h : MapForm sizes sceneCount sceneMap) {free : SceneStorageId}
  (hAt : sceneMap[i]? = some free) (hFree : free.isValid = false) (hValid : id.isValid = true) :
  MapForm sizes (sceneCount + 1) (sceneMap.set i id) where
  length := by rw [length_set, h.length]
  count := by
    have hCount := h.count
    have hLimit := h.count_le
    have hMax := sizes.perFabric
    have hSet := countP_set hAt id
    simp only [hFree, hValid, if_true, Bool.false_eq_true, if_false, maxScenesPerFabric] at hSet hMax
    rw [UInt8.toNat_add]
    simp only [UInt8.reduceToNat]
    omega
  cleared := fun other hMem => by
    rcases mem_or_eq_of_mem_set hMem with hOld | rfl
    · exact h.cleared other hOld
    · exact .inl hValid

theorem MapForm.clear (h : MapForm sizes sceneCount sceneMap) (hPos : 0 < sceneCount)
  (hAt : sceneMap[i]? = some id) : MapForm sizes (sceneCount - 1) (sceneMap.set i .cleared) where
  length := by rw [length_set, h.length]
  count := by
    have hCount := h.count
    have hSet := countP_set hAt .cleared
    have hCleared : SceneStorageId.cleared.isValid = false := rfl
    have hOne : (1 : UInt8) ≤ sceneCount := by
      rw [UInt8.le_iff_toNat_le]
      exact UInt8.lt_iff_toNat_lt.mp hPos
    rw [UInt8.toNat_sub_of_le _ _ hOne]
    simp only [hCleared, Bool.false_eq_true, if_false] at hSet
    simp only [UInt8.reduceToNat]
    split_ifs at hSet <;> omega
  cleared := fun other hMem => by
    rcases mem_or_eq_of_mem_set hMem with hOld | rfl
    · exact h.cleared other hOld
    · exact .inr rfl

theorem findLoop_found {target : SceneStorageId} (rest done : List SceneStorageId)
  (firstFreeIdx : Option Nat)
  (h : FabricSceneData.findLoop target rest done.length firstFreeIdx = .found i) :
  (done ++ rest)[i]? = some target := by
  induction rest generalizing done firstFreeIdx with
  | nil => cases firstFreeIdx <;> cases h
  | cons id rest ih =>
    rw [FabricSceneData.findLoop] at h
    by_cases hId : id = target
    · rw [if_pos hId] at h
      cases h
      simp [hId]
    · rw [if_neg hId] at h
      have hRest := ih (done ++ [id])
      rw [length_append, length_singleton, append_assoc, singleton_append]
        at hRest
      exact hRest _ h

theorem findLoop_notFound {target : SceneStorageId} (rest done : List SceneStorageId)
  (firstFreeIdx : Option Nat)
  (hFirst : ∀ j, firstFreeIdx = some j → ∃ id, done[j]? = some id ∧ id.isValid = false)
  (h : FabricSceneData.findLoop target rest done.length firstFreeIdx = .notFound i) :
  ∃ id, (done ++ rest)[i]? = some id ∧ id.isValid = false := by
  induction rest generalizing done firstFreeIdx with
  | nil =>
    cases hFree : firstFreeIdx with
    | none =>
      rw [hFree] at h
      cases h
    | some j =>
      rw [hFree] at h
      cases h
      rw [List.append_nil]
      exact hFirst i hFree
  | cons id rest ih =>
    rw [FabricSceneData.findLoop] at h
    split_ifs at h with hId hFree
    · have hRest := ih (done ++ [id]) (some done.length)
      rw [List.length_append, List.length_singleton, List.append_assoc, List.singleton_append]
        at hRest
      refine hRest ?_ h
      rintro j ⟨⟩
      refine ⟨id, by simp, ?_⟩
      simpa using (Bool.and_eq_true_iff.mp hFree).1
    · have hRest := ih (done ++ [id]) firstFreeIdx
      rw [List.length_append, List.length_singleton, List.append_assoc, List.singleton_append]
        at hRest
      refine hRest ?_ h
      intro j hj
      obtain ⟨free, hAt, hInvalid⟩ := hFirst j hj
      have hLt : j < done.length := (List.getElem?_eq_some_iff.mp hAt).1
      exact ⟨free, by rw [List.getElem?_append_left hLt, hAt], hInvalid⟩

end Maps

section Operations

variable {sizes : TableSizes} {s : Faulty ChipError SceneTable} {key : SceneKey} {size : Nat}
  {e : UInt16} {f : UInt8}

theorem saveRecord_run {elements : Elements} {bytes : Bytes}
  (hEncode : encodeInto size elements = .ok bytes) (key : SceneKey)
  (s : Faulty ChipError SceneTable) :
  Unreliable.saveRecord (.ok key) size elements s =
    written s (s.state.write key (some bytes)) := by
  simp only [Unreliable.saveRecord, Proc.bind_apply, Proc.lift_apply, hEncode]
  rfl

theorem loadValue_stored {value : Bytes} (hNext : Faulty.next s.fates = none)
  (hStored : s.state.storage key = some value) (hFits : value.length ≤ size) :
  Unreliable.loadValue (.ok key) size s = (.ok value, ⟨s.state, s.fates.tail⟩) := by
  simp [Unreliable.loadValue, Proc.bind_apply, Unreliable.syncGetKeyValue, access_of_none hNext,
    Scenes.syncGetKeyValue, hStored, hFits]

theorem loadValue_absent (hNext : Faulty.next s.fates = none) (hStored : s.state.storage key = none) :
  Unreliable.loadValue (.ok key) size s = (.error .notFound, ⟨s.state, s.fates.tail⟩) := by
  simp [Unreliable.loadValue, Proc.bind_apply, Unreliable.syncGetKeyValue, access_of_none hNext,
    Scenes.syncGetKeyValue, hStored]

theorem loadValue_fails {err : ChipError} (hNext : Faulty.next s.fates = some err) (key : SceneKey)
  (size : Nat) :
  ∃ err, Unreliable.loadValue (.ok key) size s = (.error err, ⟨s.state, s.fates.tail⟩) := by
  simp [Unreliable.loadValue, Proc.bind_apply, Unreliable.syncGetKeyValue, access_of_some hNext]

def CountIs (st : SceneTable) (e : UInt16) (countValue : UInt8) : Prop :=
  st.storage (.endpointSceneCount e) = some (serializeCount countValue).bytes ∨
    st.storage (.endpointSceneCount e) = none ∧ countValue = 0

theorem RecordForm.countIs {st : SceneTable} (h : RecordForm sizes st) (e : UInt16) :
  ∃ countValue, CountIs st e countValue := by
  cases hStored : st.storage (.endpointSceneCount e) with
  | none => exact ⟨0, .inr ⟨hStored, rfl⟩⟩
  | some bytes =>
    obtain ⟨countValue, hBytes⟩ := h _ bytes hStored
    exact ⟨countValue, .inl (hBytes ▸ hStored)⟩

section

variable (hEndpoint : e ≠ invalidEndpointId)
include hEndpoint

theorem loadCount_run (hNext : Faulty.next s.fates = none) {countValue : UInt8}
  (h : CountIs s.state e countValue) :
  Unreliable.loadCount e s = (.ok countValue, ⟨s.state, s.fates.tail⟩) := by
  unfold Unreliable.loadCount
  rw [endpointSceneCountKey_ok hEndpoint, Proc.attempt_bind, Unreliable.loadRecord]
  rcases h with hStored | ⟨hNone, rfl⟩
  · have hLength := serializeCount_length countValue
    obtain ⟨r', hRead⟩ := deserializeCount_before countValue
      (before_init (serializeCount countValue) (by omega))
    rw [Proc.bind_ok (loadValue_stored hNext hStored
      (by simp only [persistentBufferSceneCountBytes]; omega)), Proc.lift_apply, hRead]
    rfl
  · rw [Proc.bind_error (loadValue_absent hNext hNone)]
    rfl

theorem loadCount_fails {err : ChipError} (hNext : Faulty.next s.fates = some err) :
  ∃ result, Unreliable.loadCount e s = (result, ⟨s.state, s.fates.tail⟩) := by
  obtain ⟨err, hLoad⟩ := loadValue_fails hNext (.endpointSceneCount e)
    persistentBufferSceneCountBytes
  unfold Unreliable.loadCount
  rw [endpointSceneCountKey_ok hEndpoint, Proc.attempt_bind, Unreliable.loadRecord,
    Proc.bind_error hLoad]
  simp only
  split_ifs
  · exact ⟨_, rfl⟩
  · exact ⟨_, rfl⟩

theorem saveCount_run (countValue : UInt8) (s : Faulty ChipError SceneTable) :
  Unreliable.saveCount e countValue s = written s
    (s.state.write (.endpointSceneCount e) (some (serializeCount countValue).bytes)) := by
  have hLength := serializeCount_length countValue
  rw [Unreliable.saveCount, endpointSceneCountKey_ok hEndpoint]
  exact saveRecord_run (encodeInto_of_fits (serializeCount_legal countValue)
    (by simp only [persistentBufferSceneCountBytes]; omega) (by decide)) _ s

end

section

variable (hFabric : f ≠ undefinedFabricIndex) (hEndpoint : e ≠ invalidEndpointId)
include hFabric hEndpoint

theorem save_run {maxPerFabric maxPerEndpoint : Nat} (sceneCount : UInt8)
  {sceneMap : List SceneStorageId} (hSmall : sceneMap.length ≤ maxScenesPerFabric)
  (s : Faulty ChipError SceneTable) :
  Unreliable.save ⟨e, f, maxPerFabric, maxPerEndpoint, sceneCount, sceneMap⟩ s = written s
    (s.state.write (.fabricSceneData f e) (some (serializeFabric sceneCount sceneMap).bytes)) := by
  have hLength := serializeFabric_length sceneCount sceneMap
  simp only [maxScenesPerFabric] at hSmall
  rw [Unreliable.save, FabricSceneData.key, checkedKey_ok hFabric hEndpoint]
  exact saveRecord_run (encodeInto_of_fits (serializeFabric_legal sceneCount sceneMap)
    (by simp only [persistentFabricBufferMax]; omega) (by decide)) _ s

theorem saveSceneRecord_run {entry : SceneTableEntry}
  (hFits : (serializeScene entry).bytes.length ≤ persistentSceneBufferMax) (index : Nat)
  (s : Faulty ChipError SceneTable) :
  Unreliable.saveSceneRecord f e index entry s = written s
    (s.state.write (.fabricScene f e index) (some (serializeScene entry).bytes)) := by
  rw [Unreliable.saveSceneRecord, sceneKey, checkedKey_ok hFabric hEndpoint]
  exact saveRecord_run (encodeInto_of_fits (serializeScene_legal entry) hFits (by decide)) _ s

end

theorem saveSceneRecord_tooLarge {entry : SceneTableEntry}
  (hLarge : ¬ (serializeScene entry).bytes.length ≤ persistentSceneBufferMax) (f : UInt8)
  (e : UInt16) (index : Nat) (s : Faulty ChipError SceneTable) :
  ∃ err, Unreliable.saveSceneRecord f e index entry s = (.error err, s) := by
  have hEncode : ∃ err, encodeInto persistentSceneBufferMax (serializeScene entry) = .error err := by
    cases hBytes : encodeInto persistentSceneBufferMax (serializeScene entry) with
    | error err => exact ⟨err, rfl⟩
    | ok bytes =>
      obtain ⟨hEq, hSize, -⟩ := encodeInto_ok hBytes
      exact absurd (hEq ▸ hSize) hLarge
  obtain ⟨err, hEncode⟩ := hEncode
  simp only [Unreliable.saveSceneRecord, Unreliable.saveRecord, Proc.bind_apply, Proc.lift_apply,
    hEncode]
  cases sceneKey f e index with
  | error err => exact ⟨err, rfl⟩
  | ok key => exact ⟨err, rfl⟩

end Operations

section Loading

variable {sizes : TableSizes} {s : Faulty ChipError SceneTable} {e : UInt16} {f : UInt8}
  {maxPerFabric maxPerEndpoint : Nat}

/-- The data of a stored map, in a map of `maxPerFabric` slots. -/
def dataOfMap (e : UInt16) (f : UInt8) (maxPerFabric maxPerEndpoint : Nat) (sceneCount : UInt8)
  (sceneMap : List SceneStorageId) : FabricSceneData :=
  ⟨e, f, maxPerFabric, maxPerEndpoint, sceneCount,
    sceneMap ++ List.replicate (maxPerFabric - sceneMap.length) .cleared⟩

variable {sceneCount : UInt8} {sceneMap : List SceneStorageId}

theorem dataOfMap_table (h : sceneMap.length = maxPerFabric) :
  dataOfMap e f maxPerFabric maxPerEndpoint sceneCount
    sceneMap = ⟨e, f, maxPerFabric, maxPerEndpoint, sceneCount, sceneMap⟩ := by
  simp [dataOfMap, h]

theorem load_value (h : MapForm sizes sceneCount sceneMap)
  (hMax : sizes.mMaxScenesPerFabric ≤ maxPerFabric) (hLimit : maxPerFabric ≤ maxScenesPerFabric)
  {key : SceneKey} (hKey : checkedKey f e (.fabricSceneData f e) = .ok key)
  {s' : Faulty ChipError SceneTable}
  (hValue : Unreliable.loadValue (.ok key) persistentFabricBufferMax s =
    (.ok (serializeFabric sceneCount sceneMap).bytes, s')) :
  Unreliable.load (.cleared e f maxPerFabric maxPerEndpoint) s =
    (.ok (dataOfMap e f maxPerFabric maxPerEndpoint sceneCount sceneMap), s') := by
  have hSmall := h.length_le
  have hLength : sceneMap.length ≤ maxPerFabric := h.length ▸ hMax
  have hBytes := serializeFabric_length sceneCount sceneMap
  simp only [maxScenesPerFabric] at hSmall
  obtain ⟨r₁, r₂, r₃, r₄, hCount, hMap, hExit₁, hExit₂⟩ := deserializeFabric_before sceneCount
    sceneMap (serializeFabric_fuel sceneCount sceneMap)
    (before_init (serializeFabric sceneCount sceneMap) (by omega))
  have hTake : sceneMap.take maxPerFabric = sceneMap := List.take_of_length_le hLength
  have hLeave : FabricSceneData.leaveContainers .notSpecified .struct (.ok r₂) = .ok () := by
    simp only [FabricSceneData.leaveContainers, Proc.bind_ok hExit₁, hExit₂]
  have hNone : sceneMap.length - maxPerFabric = 0 := by omega
  unfold Unreliable.load
  rw [FabricSceneData.key, FabricSceneData.cleared, hKey, Proc.bind_ok hValue, hCount]
  simp only [hMap]
  change (Unreliable.deleteSurplus _ maxPerFabric (sceneMap.length - maxPerFabric) >>= _) s' = _
  rw [hNone, Unreliable.deleteSurplus, Proc.pure_bind_apply]
  simp only [ne_eq, not_true_eq_false, ↓reduceIte, Proc.bind_apply, Proc.lift_apply, hLeave,
    Proc.pure_apply, dataOfMap, hTake, h.min_count hMax hLimit]

section

variable (hFabric : f ≠ undefinedFabricIndex) (hEndpoint : e ≠ invalidEndpointId)
include hFabric hEndpoint

theorem load_stored (hNext : Faulty.next s.fates = none)
  (hStored : s.state.storage (.fabricSceneData f e) =
    some (serializeFabric sceneCount sceneMap).bytes) (h : MapForm sizes sceneCount sceneMap)
  (hMax : sizes.mMaxScenesPerFabric ≤ maxPerFabric) (hLimit : maxPerFabric ≤ maxScenesPerFabric)
  (maxPerEndpoint : Nat) :
  Unreliable.load (.cleared e f maxPerFabric maxPerEndpoint) s =
    (.ok (dataOfMap e f maxPerFabric maxPerEndpoint sceneCount sceneMap),
      ⟨s.state, s.fates.tail⟩) := by
  have hBytes := serializeFabric_length sceneCount sceneMap
  have hSmall := h.length_le
  simp only [maxScenesPerFabric] at hSmall
  exact load_value h hMax hLimit (checkedKey_ok hFabric hEndpoint) (loadValue_stored hNext hStored
    (by simp only [persistentFabricBufferMax]; omega))

theorem load_absent (hNext : Faulty.next s.fates = none)
  (hStored : s.state.storage (.fabricSceneData f e) = none) (maxPerFabric maxPerEndpoint : Nat) :
  Unreliable.load (.cleared e f maxPerFabric maxPerEndpoint) s =
    (.error .notFound, ⟨s.state, s.fates.tail⟩) := by
  unfold Unreliable.load
  rw [FabricSceneData.key, FabricSceneData.cleared, checkedKey_ok hFabric hEndpoint]
  exact Proc.bind_error (loadValue_absent hNext hStored)

theorem load_fails {err : ChipError} (hNext : Faulty.next s.fates = some err)
  (maxPerFabric maxPerEndpoint : Nat) :
  ∃ err, Unreliable.load (.cleared e f maxPerFabric maxPerEndpoint) s =
    (.error err, ⟨s.state, s.fates.tail⟩) := by
  obtain ⟨err, hLoad⟩ := loadValue_fails hNext (.fabricSceneData f e) persistentFabricBufferMax
  refine ⟨err, ?_⟩
  unfold Unreliable.load
  rw [FabricSceneData.key, FabricSceneData.cleared, checkedKey_ok hFabric hEndpoint]
  exact Proc.bind_error hLoad

end

theorem load_keyless (hKey : ¬ (f ≠ undefinedFabricIndex ∧ e ≠ invalidEndpointId))
  (maxPerFabric maxPerEndpoint : Nat) (s : Faulty ChipError SceneTable) :
  ∃ err, err ≠ .notFound ∧
    Unreliable.load (.cleared e f maxPerFabric maxPerEndpoint) s = (.error err, s) := by
  have hRefused : ∃ err, err ≠ .notFound ∧ checkedKey f e (.fabricSceneData f e) = .error err := by
    unfold checkedKey
    by_cases hFabric : f = undefinedFabricIndex
    · exact ⟨.invalidFabricIndex, by decide, if_pos hFabric⟩
    · have hEndpoint : e = invalidEndpointId := by
        by_contra hNe
        exact hKey ⟨hFabric, hNe⟩
      exact ⟨.invalidArgument, by decide, by rw [if_neg hFabric, if_pos hEndpoint]⟩
  obtain ⟨err, hErr, hRefused⟩ := hRefused
  refine ⟨err, hErr, ?_⟩
  unfold Unreliable.load
  rw [FabricSceneData.key, FabricSceneData.cleared, hRefused]
  rfl

end Loading

end Chip.Scenes
