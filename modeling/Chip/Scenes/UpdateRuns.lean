import Chip.Scenes.SceneAtomicity

/-! Runs in which operations of the storage fail. Every scene of a stored map has its record. -/
namespace Chip.Scenes

open List Proc SceneTable SceneKey Unreliable TLV Faulty

variable {sizes : TableSizes} {st st' : SceneTable} {e : UInt16} {f : UInt8} {sceneCount : UInt8}
  {sceneMap : List SceneStorageId}

def Recorded (st : SceneTable) (f : UInt8) (e : UInt16) (sceneMap : List SceneStorageId) : Prop :=
  ∀ index id, sceneMap[index]? = some id → id.isValid = true →
    st.storage (.fabricScene f e index) ≠ none

def Complete (sizes : TableSizes) (st : SceneTable) : Prop :=
  ∀ f e bytes, st.storage (.fabricSceneData f e) = some bytes → ∃ sceneCount sceneMap,
    bytes = (serializeFabric sceneCount sceneMap).bytes ∧ MapForm sizes sceneCount sceneMap ∧
      Recorded st f e sceneMap

theorem recorded_cleared (st : SceneTable) (f : UInt8) (e : UInt16) (n : Nat) :
  Recorded st f e (replicate n .cleared) := by
  intro index id hAt hValid
  rw [eq_of_mem_replicate (mem_of_getElem? hAt)] at hValid
  cases hValid

theorem Recorded.set (h : Recorded st f e sceneMap) {index : Nat} {id : SceneStorageId}
  (hNew : id.isValid = true → st.storage (.fabricScene f e index) ≠ none) :
  Recorded st f e (sceneMap.set index id) := by
  intro other id' hAt hValid
  by_cases hIndex : index = other
  · subst hIndex
    rw [getElem?_set_self'] at hAt
    cases hOld : sceneMap[index]? with
    | none =>
      rw [hOld] at hAt
      cases hAt
    | some old =>
      rw [hOld] at hAt
      cases hAt
      exact hNew hValid
  · rw [getElem?_set_ne hIndex] at hAt
    exact h other id' hAt hValid

theorem Complete.of_frame (h : Complete sizes st)
  (hScene : ∀ f e index, st.storage (.fabricScene f e index) ≠ none →
    st'.storage (.fabricScene f e index) ≠ none)
  (hMap : ∀ f e bytes, st'.storage (.fabricSceneData f e) = some bytes →
    st.storage (.fabricSceneData f e) = some bytes ∨ ∃ sceneCount sceneMap,
      bytes = (serializeFabric sceneCount sceneMap).bytes ∧
        MapForm sizes sceneCount sceneMap ∧ Recorded st' f e sceneMap) :
  Complete sizes st' := by
  intro f e bytes hStored
  rcases hMap f e bytes hStored with hOld | hNew
  · obtain ⟨sceneCount, sceneMap, hBytes, hForm, hRecorded⟩ := h f e bytes hOld
    exact ⟨sceneCount, sceneMap, hBytes, hForm,
      fun index id hAt hValid => hScene f e index (hRecorded index id hAt hValid)⟩
  · exact hNew

theorem SameRecords.complete (hSame : SameRecords sizes st st') (h : Complete sizes st) :
  Complete sizes st' := by
  refine h.of_frame (fun f e index hOld => by rwa [hSame.scene]) ?_
  intro f e bytes hStored
  rcases hSame.sceneMap f e with hEq | ⟨-, hAbsent⟩
  · rw [hEq] at hStored
    exact .inl hStored
  · rw [hAbsent] at hStored
    cases hStored
    exact .inr ⟨0, _, rfl, mapForm_cleared sizes, recorded_cleared _ _ _ _⟩

namespace Unreliable

variable {s s' : Faulty ChipError SceneTable} {maxPerFabric maxPerEndpoint : Nat} {err : ChipError}

theorem load_cases (h : Complete sizes s.state) (hMax : sizes.mMaxScenesPerFabric ≤ maxPerFabric)
  (hLimit : maxPerFabric ≤ maxScenesPerFabric) (e : UInt16) (f : UInt8) (maxPerEndpoint : Nat) :
  (∃ err fates, load (.cleared e f maxPerFabric maxPerEndpoint) s =
    (.error err, ⟨s.state, fates⟩)) ∨
  (f ≠ undefinedFabricIndex ∧ e ≠ invalidEndpointId) ∧ ∃ sceneCount sceneMap,
    load (.cleared e f maxPerFabric maxPerEndpoint) s =
      (.ok (dataOfMap e f maxPerFabric maxPerEndpoint sceneCount sceneMap),
        ⟨s.state, s.fates.tail⟩) ∧
    MapIs sizes s.state f e sceneCount sceneMap ∧ Recorded s.state f e sceneMap := by
  by_cases hKey : f ≠ undefinedFabricIndex ∧ e ≠ invalidEndpointId
  · cases hNext : Faulty.next s.fates with
    | some err =>
      obtain ⟨err, hLoad⟩ := load_fails hKey.1 hKey.2 hNext maxPerFabric maxPerEndpoint
      exact .inl ⟨err, _, hLoad⟩
    | none =>
      cases hStored : s.state.storage (.fabricSceneData f e) with
      | none => exact .inl ⟨_, _, load_absent hKey.1 hKey.2 hNext hStored _ _⟩
      | some bytes =>
        obtain ⟨sceneCount, sceneMap, rfl, hForm, hRecorded⟩ := h f e bytes hStored
        exact .inr ⟨hKey, sceneCount, sceneMap,
          load_stored hKey.1 hKey.2 hNext hStored hForm hMax hLimit _,
          ⟨hForm, .inl hStored⟩, hRecorded⟩
  · obtain ⟨err, -, hLoad⟩ := load_keyless hKey maxPerFabric maxPerEndpoint s
    exact .inl ⟨err, _, hLoad⟩

theorem fabricData_cases (h : Complete sizes s.state) (e : UInt16) (f : UInt8) :
  (∃ err fates, load (fabricData sizes e f) s = (.error err, ⟨s.state, fates⟩)) ∨
  (f ≠ undefinedFabricIndex ∧ e ≠ invalidEndpointId) ∧ ∃ sceneCount sceneMap,
    load (fabricData sizes e f) s =
      (.ok ⟨e, f, sizes.mMaxScenesPerFabric, sizes.mMaxScenesPerEndpoint, sceneCount, sceneMap⟩,
        ⟨s.state, s.fates.tail⟩) ∧
    MapIs sizes s.state f e sceneCount sceneMap ∧ Recorded s.state f e sceneMap := by
  rcases load_cases h (Nat.le_refl _) sizes.perFabric e f sizes.mMaxScenesPerEndpoint with
    hError | ⟨hKey, sceneCount, sceneMap, hLoad, hMap, hRecorded⟩
  · exact .inl hError
  · rw [dataOfMap_table hMap.form.length] at hLoad
    exact .inr ⟨hKey, sceneCount, sceneMap, hLoad, hMap, hRecorded⟩

theorem loadOrCleared_ok {fabric data : FabricSceneData} (h : load fabric s = (.ok data, s')) :
  loadOrCleared fabric s = (.ok data, s') := by
  rw [loadOrCleared, attempt_bind, h]
  rfl

theorem loadOrCleared_error {fabric : FabricSceneData} (h : load fabric s = (.error err, s')) :
  loadOrCleared fabric s =
    if err = .notFound then (.ok fabric, s') else (.error err, s') := by
  rw [loadOrCleared, attempt_bind, h]
  simp only
  split_ifs <;> rfl

theorem loadOrCleared_cases (h : Complete sizes s.state) (hOne : AtMostOne s.fates) (e : UInt16)
  (f : UInt8) :
  (∃ err fates, loadOrCleared (fabricData sizes e f) s = (.error err, ⟨s.state, fates⟩)) ∨
  (f ≠ undefinedFabricIndex ∧ e ≠ invalidEndpointId) ∧ ∃ sceneCount sceneMap,
    loadOrCleared (fabricData sizes e f) s =
      (.ok ⟨e, f, sizes.mMaxScenesPerFabric, sizes.mMaxScenesPerEndpoint, sceneCount, sceneMap⟩,
        ⟨s.state, s.fates.tail⟩) ∧
    MapForm sizes sceneCount sceneMap ∧ Recorded s.state f e sceneMap ∧
    (MapIs sizes s.state f e sceneCount sceneMap ∨ ¬ Sound s.fates ∧ Sound s.fates.tail) := by
  by_cases hKey : f ≠ undefinedFabricIndex ∧ e ≠ invalidEndpointId
  · cases hNext : Faulty.next s.fates with
    | some err =>
      obtain ⟨err, hLoad⟩ := load_fails hKey.1 hKey.2 hNext sizes.mMaxScenesPerFabric
        sizes.mMaxScenesPerEndpoint
      have hCleared := loadOrCleared_error hLoad
      split_ifs at hCleared
      · exact .inr ⟨hKey, 0, _, hCleared, mapForm_cleared sizes, recorded_cleared _ _ _ _,
          .inr ⟨not_sound hNext, hOne.sound_tail hNext⟩⟩
      · exact .inl ⟨err, _, hCleared⟩
    | none =>
      cases hStored : s.state.storage (.fabricSceneData f e) with
      | none =>
        have hCleared := loadOrCleared_error (load_absent hKey.1 hKey.2 hNext hStored
          sizes.mMaxScenesPerFabric sizes.mMaxScenesPerEndpoint)
        exact .inr ⟨hKey, 0, _, hCleared, mapForm_cleared sizes, recorded_cleared _ _ _ _,
          .inl ⟨mapForm_cleared sizes, .inr ⟨hStored, rfl, rfl⟩⟩⟩
      | some bytes =>
        obtain ⟨sceneCount, sceneMap, rfl, hForm, hRecorded⟩ := h f e bytes hStored
        have hLoad := loadOrCleared_ok (load_stored hKey.1 hKey.2 hNext hStored hForm
          (Nat.le_refl _) sizes.perFabric sizes.mMaxScenesPerEndpoint)
        rw [dataOfMap_table hForm.length] at hLoad
        exact .inr ⟨hKey, sceneCount, sceneMap, hLoad, hForm, hRecorded,
          .inl ⟨hForm, .inl hStored⟩⟩
  · obtain ⟨err, hNotFound, hLoad⟩ := load_keyless hKey sizes.mMaxScenesPerFabric
      sizes.mMaxScenesPerEndpoint s
    have hError := loadOrCleared_error hLoad
    rw [if_neg hNotFound] at hError
    exact .inl ⟨err, _, hError⟩

structure CompleteAs (sizes : TableSizes) (st st' : SceneTable) : Prop where
  complete : Complete sizes st'
  scene : ∀ f e index, st'.storage (.fabricScene f e index) = st.storage (.fabricScene f e index)

theorem CompleteAs.write_count (h : CompleteAs sizes st st') (e : UInt16) (value : Option Bytes) :
  CompleteAs sizes st (st'.write (.endpointSceneCount e) value) where
  complete := by
    refine h.complete.of_frame (fun f e index hOld => ?_) (fun f e bytes hStored => .inl ?_)
    · rwa [write_of_ne (by simp)]
    · rwa [write_of_ne (by simp)] at hStored
  scene := fun f e index => by rw [write_of_ne (by simp), h.scene]

theorem CompleteAs.write_map (h : CompleteAs sizes st st') (hForm : MapForm sizes sceneCount sceneMap)
  (hRecorded : Recorded st f e sceneMap) :
  CompleteAs sizes st
    (st'.write (.fabricSceneData f e) (some (serializeFabric sceneCount sceneMap).bytes)) where
  complete := by
    refine h.complete.of_frame (fun f' e' index hOld => ?_) (fun f' e' bytes hStored => ?_)
    · rwa [write_of_ne (by simp)]
    · by_cases hKey : fabricSceneData f' e' = .fabricSceneData f e
      · cases hKey
        rw [write_self] at hStored
        cases hStored
        refine .inr ⟨sceneCount, sceneMap, rfl, hForm, ?_⟩
        intro index id hAt hValid
        rw [write_of_ne (by simp), h.scene]
        exact hRecorded index id hAt hValid
      · rw [write_of_ne hKey] at hStored
        exact .inl hStored
  scene := fun f e index => by rw [write_of_ne (by simp), h.scene]

theorem written_maintains {P : SceneTable → Prop} {after : SceneTable} {result : Except ChipError Unit}
  (hRun : written s after = (result, s')) (hs : P s.state) (hAfter : P after) : P s'.state := by
  cases hNext : Faulty.next s.fates with
  | none =>
    rw [written_of_none hNext] at hRun
    cases hRun
    exact hAfter
  | some err =>
    rw [written_of_some hNext] at hRun
    cases hRun
    exact hs

theorem transact_complete {α : Type} {before after sceneCount' : UInt8}
  {sceneMap' : List SceneStorageId} {change : UnreliableM Unit} {value : α}
  (hFabric : f ≠ undefinedFabricIndex) (hEndpoint : e ≠ invalidEndpointId)
  (hComplete : Complete sizes s.state) (hForm : MapForm sizes sceneCount sceneMap)
  (hRecorded : Recorded s.state f e sceneMap) (hForm' : MapForm sizes sceneCount' sceneMap')
  (hRecorded' : Recorded s.state f e sceneMap')
  (hChange : ∀ s₁ err s₂, change s₁ = (.error err, s₂) → s₂.state = s₁.state)
  (hRun : transact ⟨e, f, maxPerFabric, maxPerEndpoint, sceneCount, sceneMap⟩
    ⟨e, f, maxPerFabric, maxPerEndpoint, sceneCount', sceneMap'⟩ before after change value s =
      (.error err, s')) : Complete sizes s'.state := by
  have hCount : ∀ v, Proc.Maintains (fun t => CompleteAs sizes s.state t.state) (saveCount e v)
      fun _ => True := by
    intro v t ht
    rw [saveCount_run hEndpoint]
    exact ⟨written_maintains rfl ht (ht.write_count e _), fun _ _ => trivial⟩
  have hSave : ∀ {n ids}, MapForm sizes n ids → Recorded s.state f e ids →
      Proc.Maintains (fun t => CompleteAs sizes s.state t.state)
        (save ⟨e, f, maxPerFabric, maxPerEndpoint, n, ids⟩) fun _ => True := by
    intro n ids hForm hRecorded t ht
    rw [save_run hFabric hEndpoint n hForm.length_le]
    exact ⟨written_maintains rfl ht (ht.write_map hForm hRecorded), fun _ _ => trivial⟩
  rw [transact] at hRun
  rcases bind_eq_error hRun with hFirst | ⟨_, s₁, hFirst, hRest⟩
  · have hKept := (hCount after s ⟨hComplete, fun _ _ _ => rfl⟩).1
    rw [hFirst] at hKept
    exact hKept.complete
  · have hKept := (hCount after s ⟨hComplete, fun _ _ _ => rfl⟩).1
    rw [hFirst] at hKept
    have hKept₂ := (hSave hForm' hRecorded' s₁ hKept).1
    rw [attempt_bind] at hRest
    cases hSecond : save ⟨e, f, maxPerFabric, maxPerEndpoint, sceneCount', sceneMap'⟩ s₁ with
    | mk result s₂ =>
      rw [hSecond] at hRest hKept₂
      cases result with
      | error err₂ =>
        have hUndo := ((hCount before).bind (fun _ _ => .fail (α := α) (Q := fun _ => True)
          err₂) s₂ hKept₂).1
        simp only at hRest
        rw [hRest] at hUndo
        exact hUndo.complete
      | ok _ =>
        simp only [attempt_bind] at hRest
        cases hEnd : change s₂ with
        | mk changed s₃ =>
          rw [hEnd] at hRest
          cases changed with
          | ok _ => cases hRest
          | error err₃ =>
            have hKept₃ : CompleteAs sizes s.state s₃.state := by
              rw [hChange s₂ err₃ s₃ hEnd]
              exact hKept₂
            have hUndo := ((hCount before).bind (fun _ _ => (hSave hForm hRecorded).bind
              fun _ _ => .fail (α := α) (Q := fun _ => True) err₃) s₃ hKept₃).1
            simp only at hRest
            rw [hRest] at hUndo
            exact hUndo.complete

variable {index : Nat}

theorem deleteSceneRecord_error (hRun : deleteSceneRecord f e index s = (.error err, s')) :
  s'.state = s.state := by
  rw [deleteSceneRecord, bind_apply, lift_apply] at hRun
  cases hKey : sceneKey f e index with
  | error err₁ =>
    rw [hKey] at hRun
    cases hRun
    rfl
  | ok key =>
    rw [hKey] at hRun
    change access (Scenes.syncDeleteKeyValue key) s = _ at hRun
    cases hNext : Faulty.next s.fates with
    | some err₁ =>
      rw [access_of_some hNext] at hRun
      cases hRun
      rfl
    | none =>
      rw [access_of_none hNext, Scenes.syncDeleteKeyValue, read_bind] at hRun
      cases hStored : s.state.storage key with
      | some bytes =>
        rw [hStored] at hRun
        cases hRun
      | none =>
        rw [hStored] at hRun
        cases hRun
        rfl

theorem deleteSceneRecord_ok (hRun : deleteSceneRecord f e index s = (.ok (), s')) :
  s'.state = s.state.write (.fabricScene f e index) none := by
  rw [deleteSceneRecord] at hRun
  obtain ⟨key, s₁, hKey, hRest⟩ := bind_eq_ok hRun
  cases (Prod.mk.inj hKey).2
  rw [checkedKey_eq (Prod.mk.inj hKey).1] at hRest
  change access (Scenes.syncDeleteKeyValue (.fabricScene f e index)) s = _ at hRest
  cases hNext : Faulty.next s.fates with
  | some err₁ =>
    rw [access_of_some hNext] at hRest
    cases hRest
  | none =>
    rw [access_of_none hNext, Scenes.syncDeleteKeyValue, read_bind] at hRest
    cases hStored : s.state.storage (.fabricScene f e index) with
    | none =>
      rw [hStored] at hRest
      cases hRest
    | some bytes =>
      rw [hStored] at hRest
      cases hRest
      rfl

theorem loadCount_state {result : Except ChipError UInt8} (hRun : loadCount e s = (result, s')) :
  s'.state = s.state := by
  have hKept := (loadCount_maintains (fun st => st = s.state) e s rfl).1
  rwa [hRun] at hKept

/-- The data of a fabric whose map is in the table, with the records of its scenes. -/
structure DataIs (sizes : TableSizes) (st : SceneTable) (f : UInt8) (e : UInt16)
    (data : FabricSceneData) : Prop where
  eq : data = ⟨e, f, sizes.mMaxScenesPerFabric, sizes.mMaxScenesPerEndpoint, data.sceneCount,
    data.sceneMap⟩
  form : MapForm sizes data.sceneCount data.sceneMap
  recorded : Recorded st f e data.sceneMap

theorem complete_removed (h : Complete sizes st) (after : UInt8)
  (hForm : MapForm sizes sceneCount (sceneMap.set index .cleared))
  (hRecorded : Recorded st f e sceneMap) :
  Complete sizes ((prepared st f e after sceneCount (sceneMap.set index .cleared)).write
    (.fabricScene f e index) none) ∧
  Recorded ((prepared st f e after sceneCount (sceneMap.set index .cleared)).write
    (.fabricScene f e index) none) f e (sceneMap.set index .cleared) := by
  have hKept : Recorded ((prepared st f e after sceneCount (sceneMap.set index .cleared)).write
      (.fabricScene f e index) none) f e (sceneMap.set index .cleared) := by
    intro other id hAt hValid
    by_cases hIndex : index = other
    · subst hIndex
      rw [getElem?_set_self'] at hAt
      cases hOld : sceneMap[index]? with
      | none =>
        rw [hOld] at hAt
        cases hAt
      | some old =>
        rw [hOld] at hAt
        cases hAt
        cases hValid
    · rw [getElem?_set_ne hIndex] at hAt
      rw [write_of_ne (by simpa using fun h => hIndex h.symm), prepared_scene]
      exact hRecorded other id hAt hValid
  refine ⟨?_, hKept⟩
  intro f' e' bytes hStored
  by_cases hKey : fabricSceneData f' e' = .fabricSceneData f e
  · cases hKey
    rw [write_of_ne (by simp), prepared, write_self] at hStored
    cases hStored
    exact ⟨_, _, rfl, hForm, hKept⟩
  · rw [write_of_ne (by simp), prepared, write_of_ne hKey,
      write_of_ne (by simp)] at hStored
    obtain ⟨sceneCount, sceneMap, hBytes, hOldForm, hOldRecorded⟩ := h f' e' bytes hStored
    refine ⟨sceneCount, sceneMap, hBytes, hOldForm, ?_⟩
    intro other id hAt hValid
    have hOther : fabricScene f' e' other ≠ .fabricScene f e index := by
      intro hEq
      cases hEq
      exact hKey rfl
    rw [write_of_ne hOther, prepared_scene]
    exact hOldRecorded other id hAt hValid

theorem complete_stored (h : Complete sizes st) (after : UInt8) {id : SceneStorageId}
  (hForm : MapForm sizes sceneCount (sceneMap.set index id)) (hRecorded : Recorded st f e sceneMap)
  (bytes : Bytes) :
  Complete sizes ((prepared st f e after sceneCount (sceneMap.set index id)).write
    (.fabricScene f e index) (some bytes)) := by
  have hScene : ∀ f' e' i, st.storage (.fabricScene f' e' i) ≠ none →
      ((prepared st f e after sceneCount (sceneMap.set index id)).write
        (.fabricScene f e index) (some bytes)).storage (.fabricScene f' e' i) ≠ none := by
    intro f' e' i hOld
    by_cases hKey : fabricScene f' e' i = .fabricScene f e index
    · rw [hKey, write_self]
      simp
    · rwa [write_of_ne hKey, prepared_scene]
  refine h.of_frame hScene ?_
  intro f' e' other hStored
  by_cases hKey : fabricSceneData f' e' = .fabricSceneData f e
  · cases hKey
    rw [write_of_ne (by simp), prepared, write_self] at hStored
    cases hStored
    refine .inr ⟨_, _, rfl, hForm, Recorded.set ?_ fun _ => ?_⟩
    · intro i id' hAt hValid
      exact hScene f e i (hRecorded i id' hAt hValid)
    · rw [write_self]
      simp
  · rw [write_of_ne (by simp), prepared, write_of_ne hKey,
      write_of_ne (by simp)] at hStored
    exact .inl hStored

section

variable (hFabric : f ≠ undefinedFabricIndex) (hEndpoint : e ≠ invalidEndpointId)
include hFabric hEndpoint

theorem removeScene_complete (hComplete : Complete sizes s.state) {data : FabricSceneData}
  (hData : DataIs sizes s.state f e data) (id : SceneStorageId)
  {result : Except ChipError FabricSceneData} (hRun : removeScene data id s = (result, s')) :
  Complete sizes s'.state ∧ ∀ data', result = .ok data' → DataIs sizes s'.state f e data' := by
  have hSame : ∀ {result : Except ChipError FabricSceneData}, result = .ok data →
      Complete sizes s.state ∧ ∀ data', result = .ok data' → DataIs sizes s.state f e data' := by
    rintro result rfl
    refine ⟨hComplete, ?_⟩
    rintro data' ⟨⟩
    exact hData
  obtain ⟨hEq, hForm, hRecorded⟩ := hData
  by_cases hPos : 0 < data.sceneCount
  · cases hFind : data.find id with
    | noMemory =>
      rw [removeScene, if_pos hPos, hFind] at hRun
      cases hRun
      exact hSame rfl
    | notFound index =>
      rw [removeScene, if_pos hPos, hFind] at hRun
      cases hRun
      exact hSame rfl
    | found index =>
      have hForm' : MapForm sizes (data.sceneCount - 1) (data.sceneMap.set index .cleared) :=
        hForm.clear hPos (find_found hFind)
      have hRecorded' : Recorded s.state f e (data.sceneMap.set index .cleared) :=
        hRecorded.set fun hValid => by cases hValid
      rw [removeScene_found hPos hFind, hEq] at hRun
      cases result with
      | error err =>
        refine ⟨?_, fun data' hOk => by cases hOk⟩
        rcases bind_eq_error hRun with hLoad | ⟨countValue, s₁, hLoad, hRest⟩
        · rw [loadCount_state hLoad]
          exact hComplete
        · have hState := loadCount_state hLoad
          exact transact_complete hFabric hEndpoint (hState ▸ hComplete) hForm
            (hState ▸ hRecorded) hForm' (hState ▸ hRecorded')
            (fun s₁ err s₂ hFails => deleteSceneRecord_error hFails) hRest
      | ok data' =>
        obtain ⟨countValue, s₁, hLoad, hRest⟩ := bind_eq_ok hRun
        have hState := loadCount_state hLoad
        obtain ⟨rfl, fates, hDeleted⟩ := transact_ok hFabric hEndpoint hForm'.length_le hRest
        have hEnd := deleteSceneRecord_ok hDeleted
        rw [hState] at hEnd
        have hRemoved := complete_removed hComplete (countValue - 1) hForm' hRecorded
        rw [hEnd]
        refine ⟨hRemoved.1, ?_⟩
        rintro data' ⟨⟩
        exact ⟨rfl, hForm', hRemoved.2⟩
  · rw [removeScene, if_neg hPos] at hRun
    cases hRun
    exact hSame rfl

theorem deleteGroupLoop_complete (group : UInt16) (index n : Nat) {data : FabricSceneData}
  (hComplete : Complete sizes s.state) (hData : DataIs sizes s.state f e data) :
  Complete sizes (deleteGroupLoop group index n data s).2.state := by
  induction n generalizing index data s with
  | zero => exact hComplete
  | succ n ih =>
    rw [deleteGroupLoop]
    split_ifs
    · rw [bind_apply]
      cases hRun : removeScene data (data.sceneMap.getD index .cleared) s with
      | mk result s₁ =>
        obtain ⟨hKept, hNext⟩ := removeScene_complete hFabric hEndpoint hComplete hData _ hRun
        cases result with
        | error err => exact hKept
        | ok data' => exact ih (index + 1) hKept (hNext data' rfl)
    · exact ih (index + 1) hComplete hData

theorem saveSceneRecord_ok {entry : SceneTableEntry}
  (hRun : saveSceneRecord f e index entry s = (.ok (), s')) :
  s'.state = s.state.write (.fabricScene f e index) (some (serializeScene entry).bytes) := by
  by_cases hFits : (serializeScene entry).bytes.length ≤ persistentSceneBufferMax
  · rw [saveSceneRecord_run hFabric hEndpoint hFits] at hRun
    cases hNext : Faulty.next s.fates with
    | none =>
      rw [written_of_none hNext] at hRun
      cases hRun
      rfl
    | some err =>
      rw [written_of_some hNext] at hRun
      cases hRun
  · obtain ⟨err, hRefused⟩ := saveSceneRecord_tooLarge hFits f e index s
    rw [hRefused] at hRun
    cases hRun

end

theorem complete_overwritten (h : Complete sizes st) (f : UInt8) (e : UInt16) (index : Nat)
  (bytes : Bytes) : Complete sizes (st.write (.fabricScene f e index) (some bytes)) := by
  refine h.of_frame (fun f' e' i hOld => ?_) (fun f' e' other hStored => .inl ?_)
  · by_cases hKey : fabricScene f' e' i = .fabricScene f e index
    · rw [hKey, write_self]
      simp
    · rwa [write_of_ne hKey]
  · rwa [write_of_ne (by simp)] at hStored

theorem saveScene_complete (hFabric : f ≠ undefinedFabricIndex) (hEndpoint : e ≠ invalidEndpointId)
  (hComplete : Complete sizes s.state) (hForm : MapForm sizes sceneCount sceneMap)
  (hRecorded : Recorded s.state f e sceneMap) {entry : SceneTableEntry}
  (hValid : entry.mStorageId.isValid = true)
  (hRun : saveScene ⟨e, f, sizes.mMaxScenesPerFabric, maxPerEndpoint, sceneCount, sceneMap⟩ entry
    s = (.ok (), s')) : Complete sizes s'.state := by
  cases hFind : FabricSceneData.find
      ⟨e, f, sizes.mMaxScenesPerFabric, maxPerEndpoint, sceneCount, sceneMap⟩
      entry.mStorageId with
  | noMemory =>
    rw [saveScene, hFind] at hRun
    cases hRun
  | found index =>
    rw [saveScene, hFind] at hRun
    rw [saveSceneRecord_ok hFabric hEndpoint hRun]
    exact complete_overwritten hComplete f e index _
  | notFound index =>
    obtain ⟨free, hAt, hFree⟩ := find_notFound hFind
    have hForm' : MapForm sizes (sceneCount + 1) (sceneMap.set index entry.mStorageId) :=
      hForm.put hAt hFree hValid
    rw [saveScene_new hFind hAt (hForm.free_eq hAt hFree)] at hRun
    obtain ⟨countValue, s₁, hLoad, hRest⟩ := bind_eq_ok hRun
    obtain ⟨-, hRest⟩ := verify_bind_eq_ok hRest
    obtain ⟨-, fates, hSaved⟩ := transact_ok hFabric hEndpoint hForm'.length_le hRest
    rw [saveSceneRecord_ok hFabric hEndpoint hSaved, loadCount_state hLoad]
    exact complete_stored hComplete (countValue + 1) hForm' hRecorded _

section Table

variable (sizes : TableSizes) (endpoints : List UInt16)

section

variable (hForm : RecordForm sizes s.state) (hComplete : Complete sizes s.state)
  (hOne : AtMostOne s.fates)
include hForm hComplete hOne

theorem setSceneTableEntry_cases (f : UInt8) {entry : SceneTableEntry}
  (hFits : Sound s.fates ∨ (serializeScene entry).bytes.length ≤ persistentSceneBufferMax)
  {result : Except ChipError Unit} (hRun : setSceneTableEntry sizes f entry s = (result, s')) :
  ((∃ err, result = .error err) ∧ SameRecords sizes s.state s'.state) ∨
    result = .ok () ∧ (entry.mStorageId.isValid = true → Complete sizes s'.state) := by
  rw [setSceneTableEntry, read_bind] at hRun
  rcases loadOrCleared_cases hComplete hOne s.state.mEndpointId f with ⟨err, fates, hLoad⟩ |
    ⟨⟨hFabric, hEndpoint⟩, sceneCount, sceneMap, hLoad, hMap, hRecorded, hGiven⟩
  · rw [bind_error hLoad] at hRun
    cases hRun
    exact .inl ⟨⟨err, rfl⟩, .refl sizes _⟩
  · rw [bind_ok hLoad] at hRun
    cases result with
    | error err =>
      refine .inl ⟨⟨err, rfl⟩, ?_⟩
      refine saveScene_atomic (s := ⟨s.state, s.fates.tail⟩) hFabric hEndpoint hForm hMap
        hOne.tail (hFits.imp_left Sound.tail) ?_ hRun
      rcases hGiven with hMapIs | ⟨hNotSound, hRest⟩
      · exact .inl hMapIs
      · exact .inr ⟨hRest, hFits.resolve_left hNotSound⟩
    | ok _ =>
      refine .inr ⟨rfl, fun hValid => ?_⟩
      exact saveScene_complete (s := ⟨s.state, s.fates.tail⟩) hFabric hEndpoint hComplete hMap
        hRecorded hValid hRun

theorem removeSceneTableEntry_atomic (f : UInt8) {id : SceneStorageId} (hValid : id.isValid = true)
  (hRun : removeSceneTableEntry sizes f id s = (.error err, s')) :
  SameRecords sizes s.state s'.state := by
  rw [removeSceneTableEntry, read_bind] at hRun
  rcases fabricData_cases hComplete s.state.mEndpointId f with ⟨err, fates, hLoad⟩ |
    ⟨⟨hFabric, hEndpoint⟩, sceneCount, sceneMap, hLoad, hMap, hRecorded⟩
  · rw [bind_error hLoad] at hRun
    cases hRun
    exact .refl sizes _
  · rw [bind_ok hLoad] at hRun
    rcases bind_eq_error hRun with hFails | ⟨data, s₁, -, hDone⟩
    · exact removeScene_atomic (s := ⟨s.state, s.fates.tail⟩) hFabric hEndpoint hForm hMap hOne.tail
        (fun index hAt => hRecorded index id hAt hValid) hFails
    · cases hDone

end

theorem load_complete {maxPerFabric : Nat} (hMax : sizes.mMaxScenesPerFabric ≤ maxPerFabric)
  (hLimit : maxPerFabric ≤ maxScenesPerFabric) (e : UInt16) (f : UInt8) (maxPerEndpoint : Nat) :
  Proc.Maintains (fun s => Complete sizes s.state)
    (load (.cleared e f maxPerFabric maxPerEndpoint)) fun _ => True := by
  intro s hs
  rcases load_cases hs hMax hLimit e f maxPerEndpoint with ⟨err, fates, hLoad⟩ |
    ⟨-, sceneCount, sceneMap, hLoad, -, -⟩
  · rw [hLoad]
    exact ⟨hs, fun _ _ => trivial⟩
  · rw [hLoad]
    exact ⟨hs, fun _ _ => trivial⟩

theorem fabricData_bind {α : Type} {next : FabricSceneData → UnreliableM α} {e : UInt16} {f : UInt8}
  (hNext : f ≠ undefinedFabricIndex → e ≠ invalidEndpointId → ∀ s : Faulty ChipError SceneTable,
    Complete sizes s.state → ∀ data, DataIs sizes s.state f e data →
      Complete sizes (next data s).2.state) :
  Proc.Maintains (fun s => Complete sizes s.state) (load (fabricData sizes e f) >>= next)
    fun _ => True := by
  intro s hs
  refine ⟨?_, fun _ _ => trivial⟩
  rcases fabricData_cases hs e f with ⟨err, fates, hLoad⟩ |
    ⟨⟨hFabric, hEndpoint⟩, sceneCount, sceneMap, hLoad, hMap, hRecorded⟩
  · rw [bind_error hLoad]
    exact hs
  · rw [bind_ok hLoad]
    exact hNext hFabric hEndpoint ⟨s.state, s.fates.tail⟩ hs _ ⟨rfl, hMap.form, hRecorded⟩

theorem removeSceneTableEntry_complete (f : UInt8) (id : SceneStorageId) :
  Proc.Maintains (fun s => Complete sizes s.state) (removeSceneTableEntry sizes f id)
    fun _ => True := by
  refine .read_bind fun s _ => fabricData_bind sizes fun hFabric hEndpoint s hs data hData => ?_
  rw [bind_apply]
  cases hRun : removeScene data id s with
  | mk result s₁ =>
    have hKept := (removeScene_complete hFabric hEndpoint hs hData id hRun).1
    cases result with
    | error err => exact hKept
    | ok data' => exact hKept

theorem getSceneTableEntry_complete (f : UInt8) (id : SceneStorageId) :
  Proc.Maintains (fun s => Complete sizes s.state) (getSceneTableEntry sizes f id)
    fun _ => True := by
  refine .read_bind fun s _ => .bind (load_complete sizes (Nat.le_refl _) sizes.perFabric _ f _)
    fun data _ => ?_
  cases data.find id with
  | noMemory => exact .fail _
  | notFound index => exact .fail _
  | found index =>
    refine .bind (.attempt (loadRecord_maintains (Complete sizes) _ _ _)) fun result _ => ?_
    cases result with
    | ok entry => exact .pure trivial
    | error err =>
      simp only
      split_ifs
      · exact .bind (removeSceneTableEntry_complete sizes f id) fun _ _ => .fail _
      · exact .fail err

theorem removeSceneTableEntryAtPosition_complete (e : UInt16) (f : UInt8) (index : Nat) :
  Proc.Maintains (fun s => Complete sizes s.state)
    (removeSceneTableEntryAtPosition sizes e f index) fun _ => True := by
  refine fabricData_bind sizes fun hFabric hEndpoint s hs data hData => ?_
  rw [attempt_bind]
  have hState := (loadRecord_maintains (fun st => st = s.state) (sceneKey f e index)
    persistentSceneBufferMax deserializeScene s rfl).1
  change (loadScene f e index s).2.state = s.state at hState
  cases hRun : loadScene f e index s with
  | mk result s₁ =>
    rw [hRun] at hState
    cases result with
    | error err =>
      simp only
      split_ifs
      · exact hState ▸ hs
      · exact hState ▸ hs
    | ok entry =>
      simp only
      rw [bind_apply]
      cases hRemove : removeScene data entry.mStorageId s₁ with
      | mk result s₂ =>
        have hKept := (removeScene_complete hFabric hEndpoint (hState ▸ hs) (hState ▸ hData)
          _ hRemove).1
        cases result with
        | error err => exact hKept
        | ok data' => exact hKept

theorem deleteAllScenesInGroup_complete (f : UInt8) (group : UInt16) :
  Proc.Maintains (fun s => Complete sizes s.state) (deleteAllScenesInGroup sizes f group)
    fun _ => True :=
  .read_bind fun _ _ => fabricData_bind sizes fun hFabric hEndpoint _ hs _ hData =>
    deleteGroupLoop_complete hFabric hEndpoint group 0 _ hs hData

theorem removePositions_complete (e : UInt16) (f : UInt8) (index n : Nat) :
  Proc.Maintains (fun s => Complete sizes s.state) (removePositions sizes e f index n)
    fun _ => True := by
  induction n generalizing index with
  | zero => exact .pure trivial
  | succ n ih =>
    refine .bind (.attempt (removeSceneTableEntryAtPosition_complete sizes e f index))
      fun result _ => ?_
    cases result with
    | ok _ => exact ih (index + 1)
    | error err =>
      simp only
      split_ifs
      · exact ih (index + 1)
      · exact .fail _

theorem syncDeleteKeyValue_complete (f : UInt8) (e : UInt16) :
  Proc.Maintains (fun s => Complete sizes s.state) (syncDeleteKeyValue (.fabricSceneData f e))
    fun _ => True := by
  have hDeleted : ∀ st, Complete sizes st →
      Complete sizes (st.write (.fabricSceneData f e) none) := by
    intro st h
    refine h.of_frame (fun f' e' i hOld => ?_) (fun f' e' bytes hStored => ?_)
    · rwa [write_of_ne (by simp)]
    · by_cases hKey : fabricSceneData f' e' = .fabricSceneData f e
      · rw [hKey, write_self] at hStored
        cases hStored
      · rw [write_of_ne hKey] at hStored
        exact .inl hStored
  refine access_maintains (.read_bind fun st _ => ?_)
  cases st.storage (.fabricSceneData f e) with
  | none => exact .fail _
  | some _ => exact .modify hDeleted

theorem removeFabric_complete (f : UInt8) (endpoints : List UInt16) :
  Proc.Maintains (fun s => Complete sizes s.state) (removeFabric sizes f endpoints)
    fun _ => True := by
  induction endpoints with
  | nil => exact .pure trivial
  | cons endpoint rest ih =>
    refine .bind (.attempt (load_complete sizes sizes.perFabric (Nat.le_refl _) endpoint f _))
      fun result _ => ?_
    cases result with
    | ok data =>
      refine .bind (removePositions_complete sizes endpoint f 0 _) fun _ _ =>
        .bind (.lift fun _ => id) fun key hKey =>
          .bind (Q := fun _ => True) ?_ fun _ _ => ih
      rw [checkedKey_eq hKey]
      exact syncDeleteKeyValue_complete sizes _ _
    | error err =>
      simp only
      split_ifs
      · exact ih
      · exact .fail _

end Table

end Unreliable

/-- The calls that may store scenes do so under a scene id that is not the undefined one, one
operation fails in them at most, and none when the scene is too large. -/
def ChangeOp.StoresWhole : ChangeOp → List (Option ChipError) → Prop
  | .set _ entry, fates => entry.mStorageId.isValid = true ∧ AtMostOne fates ∧
      (Sound fates ∨ (serializeScene entry).bytes.length ≤ persistentSceneBufferMax)
  | _, _ => True

theorem ChangeOp.StoresWhole.storesScene {op : ChangeOp} {fates : List (Option ChipError)}
  (h : op.StoresWhole fates) : op.StoresScene := by
  cases op with
  | set f entry => exact h.1
  | setEndpoint endpoint => trivial
  | get f id => trivial
  | remove f id => trivial
  | removeAt endpoint f index => trivial
  | deleteAll f group => trivial
  | removeFabric f => trivial

theorem ChangeOp.call_complete (sizes : TableSizes) (endpoints : List UInt16) {op : ChangeOp}
  {fates : List (Option ChipError)} (hStores : op.StoresWhole fates) (hForm : RecordForm sizes st)
  (h : Complete sizes st) : Complete sizes (op.call sizes endpoints ⟨st, fates⟩).2.state := by
  cases op with
  | setEndpoint endpoint => exact h
  | set f entry =>
    obtain ⟨hValid, hOne, hFits⟩ := hStores
    rcases setSceneTableEntry_cases (s := ⟨st, fates⟩) sizes hForm h hOne f hFits rfl with
      ⟨-, hSame⟩ | ⟨-, hKept⟩
    · exact hSame.complete h
    · exact hKept hValid
  | get f id =>
    rw [ChangeOp.call, bind_pure_apply]
    exact (getSceneTableEntry_complete sizes f id ⟨st, fates⟩ h).1
  | remove f id => exact (removeSceneTableEntry_complete sizes f id ⟨st, fates⟩ h).1
  | removeAt endpoint f index =>
    exact (removeSceneTableEntryAtPosition_complete sizes endpoint f index
      ⟨st, fates⟩ h).1
  | deleteAll f group =>
    exact (deleteAllScenesInGroup_complete sizes f group ⟨st, fates⟩ h).1
  | removeFabric f =>
    exact (removeFabric_complete sizes f endpoints ⟨st, fates⟩ h).1

theorem complete_init (sizes : TableSizes) : Complete sizes init := by
  intro f e bytes hStored
  cases hStored

theorem Complete.run {endpoints : List UInt16} {calls : List (ChangeOp × List (Option ChipError))}
  (hStores : ∀ call ∈ calls, call.1.StoresWhole call.2) (hForm : RecordForm sizes st)
  (h : Complete sizes st) : Complete sizes (unreliableRun sizes endpoints calls st) := by
  induction calls generalizing st with
  | nil => exact h
  | cons call calls ih =>
    have hCall := hStores call mem_cons_self
    exact ih (fun next hMem => hStores next (mem_cons_of_mem call hMem))
      (call.1.call_maintains sizes endpoints hCall.storesScene ⟨st, call.2⟩ hForm).1
      (call.1.call_complete sizes endpoints hCall hForm h)

end Chip.Scenes
