import Chip.Scenes.SceneRuns
import Chip.Scenes.UpdateRuns

/-! What is read back after a call in which an operation of the storage has failed. -/
namespace Chip.Scenes

open Proc FabricSceneData TLV Faulty

variable {sizes : TableSizes} {st st' : SceneTable} {e : UInt16} {f : UInt8} {sceneCount : UInt8}
  {sceneMap : List SceneStorageId}

/-- Every scene, every scene count of a fabric and of an endpoint read the same. -/
structure ReadsAlike (sizes : TableSizes) (st st' : SceneTable) : Prop where
  scene : ∀ endpoint fabric id, id.isValid = true →
    (getSceneTableEntry sizes fabric id { st' with mEndpointId := endpoint }).1 =
      (getSceneTableEntry sizes fabric id { st with mEndpointId := endpoint }).1
  fabricCount : ∀ endpoint fabric,
    (getFabricSceneCount fabric { st' with mEndpointId := endpoint }).1 =
      (getFabricSceneCount fabric { st with mEndpointId := endpoint }).1
  endpointCount : ∀ endpoint,
    (getEndpointSceneCount { st' with mEndpointId := endpoint }).1 =
      (getEndpointSceneCount { st with mEndpointId := endpoint }).1

theorem soundAs_nil (st : SceneTable) :
  SoundAs (⟨st, []⟩ : Faulty ChipError SceneTable) st :=
  ⟨rfl, fun fate hMem => by cases hMem⟩

theorem RecordForm.mapIs (h : RecordForm sizes st) (f : UInt8) (e : UInt16) :
  ∃ sceneCount sceneMap, MapIs sizes st f e sceneCount sceneMap := by
  cases hStored : st.storage (.fabricSceneData f e) with
  | none => exact ⟨0, _, mapForm_cleared sizes, .inr ⟨hStored, rfl, rfl⟩⟩
  | some bytes =>
    obtain ⟨sceneCount, sceneMap, rfl, hForm⟩ := h _ bytes hStored
    exact ⟨sceneCount, sceneMap, hForm, .inl hStored⟩

theorem loadCount_read (hEndpoint : e ≠ invalidEndpointId) {countValue : UInt8}
  (h : CountIs st e countValue) : (loadCount e st).1 = .ok countValue := by
  rw [← (Unreliable.loadCount_agrees (soundAs_nil st) e).1, loadCount_run hEndpoint rfl h]

theorem loadCount_invalid (st : SceneTable) :
  (loadCount invalidEndpointId st).1 = .error .invalidArgument := rfl

section

variable (hFabric : f ≠ undefinedFabricIndex) (hEndpoint : e ≠ invalidEndpointId)
include hFabric hEndpoint

theorem loadOrCleared_read (h : MapIs sizes st f e sceneCount sceneMap) :
  ((defaultFabricData e f).loadOrCleared st).1.map (·.sceneCount) = .ok sceneCount := by
  rw [← (Unreliable.loadOrCleared_agrees (soundAs_nil st) _).1]
  rcases h.stored with hStored | ⟨hNone, rfl, rfl⟩
  · have hLoad := load_stored (s := ⟨st, []⟩) hFabric hEndpoint rfl hStored h.form sizes.perFabric
      (Nat.le_refl _) maxScenesPerEndpoint
    rw [defaultFabricData, Unreliable.loadOrCleared_ok hLoad]
    rfl
  · have hLoad := load_absent (s := ⟨st, []⟩) hFabric hEndpoint rfl hNone maxScenesPerFabric
      maxScenesPerEndpoint
    rw [defaultFabricData, Unreliable.loadOrCleared_error hLoad]
    rfl

theorem load_read (h : MapIs sizes st f e sceneCount sceneMap) :
  (fabricData sizes e f).load st =
      (.ok ⟨e, f, sizes.mMaxScenesPerFabric, sizes.mMaxScenesPerEndpoint, sceneCount, sceneMap⟩,
        st) ∨
    (fabricData sizes e f).load st = (.error .notFound, st) ∧
      sceneMap = List.replicate sizes.mMaxScenesPerFabric .cleared := by
  obtain ⟨hResult, hState, -⟩ := Unreliable.load_agrees (soundAs_nil st) (fabricData sizes e f)
  rcases h.stored with hStored | ⟨hNone, -, hCleared⟩
  · have hLoad := load_stored (s := ⟨st, []⟩) hFabric hEndpoint rfl hStored h.form (Nat.le_refl _)
      sizes.perFabric sizes.mMaxScenesPerEndpoint
    rw [dataOfMap_table h.form.length] at hLoad
    rw [fabricData, hLoad] at hResult hState
    exact .inl (Prod.ext hResult.symm hState.symm)
  · have hLoad := load_absent (s := ⟨st, []⟩) hFabric hEndpoint rfl hNone sizes.mMaxScenesPerFabric
      sizes.mMaxScenesPerEndpoint
    rw [fabricData, hLoad] at hResult hState
    exact .inr ⟨Prod.ext hResult.symm hState.symm, hCleared⟩

theorem loadScene_read (hForm : RecordForm sizes st) (index : Nat) :
  (∃ entry, st.storage (.fabricScene f e index) = some (serializeScene entry).bytes ∧
    loadScene f e index st =
      (.ok ⟨entry.mStorageId, entry.mStorageData.stored⟩, st)) ∨
    st.storage (.fabricScene f e index) = none ∧
      loadScene f e index st = (.error .notFound, st) := by
  rw [loadScene, sceneKey, checkedKey_ok hFabric hEndpoint]
  cases hStored : st.storage (.fabricScene f e index) with
  | none => exact .inr ⟨rfl, loadRecord_none hStored⟩
  | some bytes =>
    obtain ⟨entry, rfl, hFits⟩ := hForm _ bytes hStored
    exact .inl ⟨entry, rfl, loadRecord_some hStored hFits (by decide)
      fun r hBefore => deserializeScene_before entry hBefore⟩

end

/-- What is read for a scene id, given the map of the fabric. -/
def readScene (data : FabricSceneData) (id : SceneStorageId) (st : SceneTable) :
  Except ChipError SceneTableEntry :=
  match data.find id with
  | .found index => (loadScene data.fabricIndex data.endpointId index st).1
  | _ => .error .notFound

theorem getSceneTableEntry_read (hFabric : f ≠ undefinedFabricIndex)
  (hEndpoint : e ≠ invalidEndpointId) (hAt : st.mEndpointId = e) (hForm : RecordForm sizes st)
  (hMap : MapIs sizes st f e sceneCount sceneMap) {id : SceneStorageId}
  (hValid : id.isValid = true) :
  (getSceneTableEntry sizes f id st).1 =
    readScene ⟨e, f, sizes.mMaxScenesPerFabric, sizes.mMaxScenesPerEndpoint, sceneCount,
      sceneMap⟩ id st := by
  subst hAt
  rw [getSceneTableEntry, read_bind]
  rcases load_read hFabric hEndpoint hMap with hLoad | ⟨hLoad, hCleared⟩
  · rw [bind_ok hLoad, readScene]
    cases find ⟨st.mEndpointId, f, sizes.mMaxScenesPerFabric,
        sizes.mMaxScenesPerEndpoint, sceneCount, sceneMap⟩ id with
    | noMemory => rfl
    | notFound index => rfl
    | found index =>
      simp only [attempt_bind]
      rcases loadScene_read hFabric hEndpoint hForm index with ⟨entry, -, hRead⟩ | ⟨-, hRead⟩
      · rw [hRead]
        rfl
      · rw [hRead]
        rfl
  · rw [bind_error hLoad, readScene]
    cases hFind : find ⟨st.mEndpointId, f, sizes.mMaxScenesPerFabric,
        sizes.mMaxScenesPerEndpoint, sceneCount, sceneMap⟩ id with
    | noMemory => rfl
    | notFound index => rfl
    | found index =>
      have hSlot := find_found hFind
      rw [hCleared] at hSlot
      rw [List.eq_of_mem_replicate (List.mem_of_getElem? hSlot)] at hValid
      cases hValid

theorem load_of_keyless {err : ChipError}
  (hKey : checkedKey f e (.fabricSceneData f e) = .error err) (maxPerFabric maxPerEndpoint : Nat)
  (st : SceneTable) :
  (FabricSceneData.cleared e f maxPerFabric maxPerEndpoint).load st = (.error err, st) := by
  have hRefused : (FabricSceneData.cleared e f maxPerFabric maxPerEndpoint).key = .error err := hKey
  simp only [FabricSceneData.load, loadValue, hRefused, Proc.bind_apply, Proc.lift_apply]

theorem keys_of_ok {key k : SceneKey} (h : checkedKey f e key = .ok k) :
  f ≠ undefinedFabricIndex ∧ e ≠ invalidEndpointId := by
  unfold checkedKey at h
  split_ifs at h with hFabric hEndpoint
  exact ⟨hFabric, hEndpoint⟩

section Same

variable (hSame : SameRecords sizes st st') (hForm : RecordForm sizes st)
include hSame

theorem SameRecords.countIs {countValue : UInt8} (h : CountIs st e countValue) :
  CountIs st' e countValue := by
  rcases hSame.count e with hEq | ⟨hNone, hAbsent⟩
  · rw [CountIs, hEq]
    exact h
  · rcases h with hStored | ⟨-, rfl⟩
    · rw [hNone] at hStored
      cases hStored
    · exact .inl hAbsent

theorem SameRecords.mapIs (h : MapIs sizes st f e sceneCount sceneMap) :
  MapIs sizes st' f e sceneCount sceneMap := by
  refine ⟨h.form, ?_⟩
  rcases hSame.sceneMap f e with hEq | ⟨hNone, hAbsent⟩
  · rw [hEq]
    exact h.stored
  · rcases h.stored with hStored | ⟨-, rfl, rfl⟩
    · rw [hNone] at hStored
      cases hStored
    · exact .inl hAbsent

theorem SameRecords.at_endpoint (e : UInt16) :
  SameRecords sizes { st with mEndpointId := e } { st' with mEndpointId := e } :=
  ⟨rfl, hSame.count, hSame.sceneMap, hSame.scene⟩

include hForm

theorem SameRecords.recordForm : RecordForm sizes st' := by
  intro key bytes hStored
  cases key with
  | endpointSceneCount e =>
    rcases hSame.count e with hEq | ⟨-, hAbsent⟩
    · exact hForm _ bytes (hEq ▸ hStored)
    · rw [hAbsent] at hStored
      cases hStored
      exact ⟨0, rfl⟩
  | fabricSceneData f e =>
    rcases hSame.sceneMap f e with hEq | ⟨-, hAbsent⟩
    · exact hForm _ bytes (hEq ▸ hStored)
    · rw [hAbsent] at hStored
      cases hStored
      exact ⟨0, _, rfl, mapForm_cleared sizes⟩
  | fabricScene f e index => exact hForm _ bytes (hSame.scene f e index ▸ hStored)

theorem SameRecords.readScene_eq (hFabric : f ≠ undefinedFabricIndex)
  (hEndpoint : e ≠ invalidEndpointId) (maxPerFabric maxPerEndpoint : Nat) (sceneCount : UInt8)
  (sceneMap : List SceneStorageId) (id : SceneStorageId) :
  readScene ⟨e, f, maxPerFabric, maxPerEndpoint, sceneCount, sceneMap⟩ id st' =
    readScene ⟨e, f, maxPerFabric, maxPerEndpoint, sceneCount, sceneMap⟩ id st := by
  unfold readScene
  cases find ⟨e, f, maxPerFabric, maxPerEndpoint, sceneCount, sceneMap⟩ id with
  | noMemory => rfl
  | notFound index => rfl
  | found index =>
    have hScene := hSame.scene f e index
    simp only [loadScene, sceneKey, checkedKey_ok hFabric hEndpoint]
    cases hStored : st.storage (.fabricScene f e index) with
    | none =>
      rw [hStored] at hScene
      rw [loadRecord_none hScene, loadRecord_none hStored]
    | some bytes =>
      rw [hStored] at hScene
      obtain ⟨entry, rfl, hFits⟩ := hForm _ bytes hStored
      simp only [loadRecord, bind_ok (loadValue_some hScene hFits),
        bind_ok (loadValue_some hStored hFits), lift_apply]

theorem SameRecords.getSceneTableEntry_eq {id : SceneStorageId} (hValid : id.isValid = true) :
  (getSceneTableEntry sizes f id st').1 = (getSceneTableEntry sizes f id st).1 := by
  cases hKey : checkedKey f st.mEndpointId (.fabricSceneData f st.mEndpointId) with
  | error err =>
    simp only [getSceneTableEntry, read_bind, fabricData, hSame.endpoint]
    rw [bind_error (load_of_keyless hKey _ _ _), bind_error (load_of_keyless hKey _ _ _)]
  | ok key =>
    obtain ⟨hFabric, hEndpoint⟩ := keys_of_ok hKey
    obtain ⟨sceneCount, sceneMap, hMap⟩ := hForm.mapIs f st.mEndpointId
    rw [getSceneTableEntry_read hFabric hEndpoint rfl hForm hMap hValid,
      getSceneTableEntry_read hFabric hEndpoint hSame.endpoint (hSame.recordForm hForm)
        (hSame.mapIs hMap) hValid]
    exact hSame.readScene_eq hForm hFabric hEndpoint _ _ sceneCount sceneMap id

theorem SameRecords.getFabricSceneCount_eq :
  (getFabricSceneCount f st').1 = (getFabricSceneCount f st).1 := by
  simp only [getFabricSceneCount, Proc.read_bind, Proc.bind_pure_apply, hSame.endpoint]
  cases hKey : checkedKey f st.mEndpointId (.fabricSceneData f st.mEndpointId) with
  | error err =>
    simp only [FabricSceneData.loadOrCleared, Proc.attempt_bind, defaultFabricData,
      load_of_keyless hKey]
    split_ifs <;> rfl
  | ok key =>
    obtain ⟨hFabric, hEndpoint⟩ := keys_of_ok hKey
    obtain ⟨sceneCount, sceneMap, hMap⟩ := hForm.mapIs f st.mEndpointId
    exact (loadOrCleared_read hFabric hEndpoint (hSame.mapIs hMap)).trans
      (loadOrCleared_read hFabric hEndpoint hMap).symm

theorem SameRecords.getEndpointSceneCount_eq :
  (getEndpointSceneCount st').1 = (getEndpointSceneCount st).1 := by
  simp only [getEndpointSceneCount, read_bind, hSame.endpoint]
  by_cases hEndpoint : st.mEndpointId = invalidEndpointId
  · rw [hEndpoint, loadCount_invalid, loadCount_invalid]
  · obtain ⟨countValue, hCount⟩ := hForm.countIs st.mEndpointId
    exact (loadCount_read hEndpoint (hSame.countIs hCount)).trans
      (loadCount_read hEndpoint hCount).symm

theorem SameRecords.readsAlike : ReadsAlike sizes st st' where
  scene := fun e _ _ hValid => (hSame.at_endpoint e).getSceneTableEntry_eq hForm hValid
  fabricCount := fun e _ => (hSame.at_endpoint e).getFabricSceneCount_eq hForm
  endpointCount := fun e => (hSame.at_endpoint e).getEndpointSceneCount_eq hForm

end Same

/-- Calls that store or remove a scene while one operation of the storage fails at most, and none
when the scene is too large. -/
def ChangeOp.UpdatesScene : ChangeOp → List (Option ChipError) → Prop
  | .set _ entry, fates => AtMostOne fates ∧
      (Sound fates ∨ (serializeScene entry).bytes.length ≤ persistentSceneBufferMax)
  | .remove _ id, fates => id.isValid = true ∧ AtMostOne fates
  | _, _ => False

/-- After every run a call that fails to store or to remove a scene leaves all that is read as it
was. -/
theorem update_atomic (sizes : TableSizes) (endpoints : List UInt16)
    (calls : List (ChangeOp × List (Option ChipError)))
    (hCalls : ∀ call ∈ calls, call.1.StoresWhole call.2) (op : ChangeOp)
    (fates : List (Option ChipError)) (hUpdates : op.UpdatesScene fates) (err : ChipError)
    (hError : (op.call sizes endpoints
      ⟨unreliableRun sizes endpoints calls SceneTable.init, fates⟩).1 = .error err) :
    ReadsAlike sizes (unreliableRun sizes endpoints calls SceneTable.init)
      (op.call sizes endpoints
        ⟨unreliableRun sizes endpoints calls SceneTable.init, fates⟩).2.state := by
  have hForm : RecordForm sizes (unreliableRun sizes endpoints calls SceneTable.init) :=
    (recordForm_init sizes).run fun call hMem => (hCalls call hMem).storesScene
  have hComplete : Complete sizes (unreliableRun sizes endpoints calls SceneTable.init) :=
    (complete_init sizes).run hCalls (recordForm_init sizes)
  generalize unreliableRun sizes endpoints calls SceneTable.init = st at hError hForm hComplete ⊢
  cases op with
  | set f entry =>
    rcases Unreliable.setSceneTableEntry_cases (s := ⟨st, fates⟩) sizes hForm hComplete
        hUpdates.1 f hUpdates.2 rfl with ⟨-, hSame⟩ | ⟨hOk, -⟩
    · exact hSame.readsAlike hForm
    · cases hError.symm.trans hOk
  | remove f id =>
    have hSame := Unreliable.removeSceneTableEntry_atomic (s := ⟨st, fates⟩) sizes hForm hComplete
      hUpdates.2 f hUpdates.1 (Prod.ext hError rfl)
    exact hSame.readsAlike hForm
  | setEndpoint endpoint => exact absurd hUpdates id
  | get f id => exact absurd hUpdates not_false
  | removeAt endpoint f index => exact absurd hUpdates not_false
  | deleteAll f group => exact absurd hUpdates not_false
  | removeFabric f => exact absurd hUpdates not_false

/-- A scene is stored on endpoint 1. The record of a second one is not written, and its count and
its slot are given back. -/
theorem update_atomic_second_scene :
    ReadsAlike defaultTableSizes
      (unreliableRun defaultTableSizes [1]
        [(.setEndpoint 1, []), (.set 1 (namedScene 1 [0x41] (by decide)), [])] SceneTable.init)
      ((ChangeOp.set 1 (namedScene 2 [0x42] (by decide))).call defaultTableSizes [1]
        ⟨unreliableRun defaultTableSizes [1]
          [(.setEndpoint 1, []), (.set 1 (namedScene 1 [0x41] (by decide)), [])] SceneTable.init,
          [none, none, none, none, some .noMemory]⟩).2.state :=
  update_atomic defaultTableSizes [1]
    [(.setEndpoint 1, []), (.set 1 (namedScene 1 [0x41] (by decide)), [])]
    (by
      intro call hMem
      rcases List.mem_cons.mp hMem with rfl | hMem
      · trivial
      · obtain rfl := List.mem_singleton.mp hMem
        exact ⟨rfl, (by decide : _ ≤ _), .inl fun _ hNone => by cases hNone⟩)
    (.set 1 (namedScene 2 [0x42] (by decide))) [none, none, none, none, some .noMemory]
    ⟨(by decide : _ ≤ _), .inr (by decide +kernel)⟩ .noMemory (by decide +kernel)

/-- A scene with three field sets, whose record is larger than its buffer. -/
def largeScene : SceneTableEntry :=
  ⟨⟨1, 1⟩, ⟨[], Nat.zero_le _, 0,
    [⟨6, List.replicate 120 0, by decide⟩, ⟨8, List.replicate 120 0, by decide⟩,
      ⟨0x300, List.replicate 120 0, by decide⟩], by decide⟩⟩

/-- A scene of the undefined scene id is lost when a second one is not written, the count of an
endpoint is left too high when it cannot be given back after a scene that is too large, and too
low after the removal of the undefined scene id. -/
theorem update_not_atomic :
    (((ChangeOp.set 1 (namedScene 6 [] (by decide))).call defaultTableSizes [1]
        ⟨unreliableRun defaultTableSizes [1] [(.setEndpoint 1, []),
          (.set 1 ⟨⟨5, undefinedSceneId⟩, (namedScene 5 [] (by decide)).mStorageData⟩, [])]
          SceneTable.init, [none, none, none, none, some .noMemory]⟩).1 = .error .noMemory ∧
      (getSceneTableEntry defaultTableSizes 1 ⟨5, undefinedSceneId⟩
        (unreliableRun defaultTableSizes [1] [(.setEndpoint 1, []),
          (.set 1 ⟨⟨5, undefinedSceneId⟩, (namedScene 5 [] (by decide)).mStorageData⟩, [])]
          SceneTable.init)).1.isOk = true ∧
      (getSceneTableEntry defaultTableSizes 1 ⟨5, undefinedSceneId⟩
        ((ChangeOp.set 1 (namedScene 6 [] (by decide))).call defaultTableSizes [1]
          ⟨unreliableRun defaultTableSizes [1] [(.setEndpoint 1, []),
            (.set 1 ⟨⟨5, undefinedSceneId⟩, (namedScene 5 [] (by decide)).mStorageData⟩, [])]
            SceneTable.init, [none, none, none, none, some .noMemory]⟩).2.state).1.isOk = false) ∧
    (((ChangeOp.set 1 largeScene).call defaultTableSizes [1]
        ⟨unreliableRun defaultTableSizes [1] [(.setEndpoint 1, [])] SceneTable.init,
          [none, none, none, none, some .noMemory]⟩).1 = .error .noMemory ∧
      (getEndpointSceneCount
        (unreliableRun defaultTableSizes [1] [(.setEndpoint 1, [])] SceneTable.init)).1 = .ok 0 ∧
      (getEndpointSceneCount ((ChangeOp.set 1 largeScene).call defaultTableSizes [1]
        ⟨unreliableRun defaultTableSizes [1] [(.setEndpoint 1, [])] SceneTable.init,
          [none, none, none, none, some .noMemory]⟩).2.state).1 = .ok 1) ∧
    (((ChangeOp.remove 1 .cleared).call defaultTableSizes [1]
        ⟨unreliableRun defaultTableSizes [1]
          [(.setEndpoint 1, []), (.set 1 (namedScene 1 [] (by decide)), [])] SceneTable.init,
          [none, none, none, none, none, some .noMemory]⟩).1 = .error .noMemory ∧
      (getEndpointSceneCount (unreliableRun defaultTableSizes [1]
        [(.setEndpoint 1, []), (.set 1 (namedScene 1 [] (by decide)), [])]
        SceneTable.init)).1 = .ok 1 ∧
      (getEndpointSceneCount ((ChangeOp.remove 1 .cleared).call defaultTableSizes [1]
        ⟨unreliableRun defaultTableSizes [1]
          [(.setEndpoint 1, []), (.set 1 (namedScene 1 [] (by decide)), [])] SceneTable.init,
          [none, none, none, none, none, some .noMemory]⟩).2.state).1 = .ok 0) := by
  decide +kernel

end Chip.Scenes
