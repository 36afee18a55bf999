import Chip.Scenes.RecordForm

/-! Every call keeps the form of the records, whatever operations of the storage fail in it. -/
namespace Chip.Scenes

open SceneTable Unreliable TLV Faulty

variable {sizes : TableSizes} {st : SceneTable} {e : UInt16} {f : UInt8}

@[simp] theorem SceneTable.write_self (st : SceneTable) (key : SceneKey) (value : Option Bytes) :
  (st.write key value).storage key = value := by
  rw [write]
  exact Function.update_self key value st.storage

theorem SceneTable.write_of_ne {key key' : SceneKey} (h : key' ≠ key) (st : SceneTable)
  (value : Option Bytes) : (st.write key value).storage key' = st.storage key' := by
  rw [write]
  exact Function.update_of_ne h value st.storage

theorem RecordForm.write (h : RecordForm sizes st) {key : SceneKey} {value : Option Bytes}
  (hNew : ∀ bytes, value = some bytes → RecordOf sizes key bytes) :
  RecordForm sizes (st.write key value) := by
  intro key' bytes hStored
  by_cases hKey : key' = key
  · subst hKey
    rw [write_self] at hStored
    exact hNew bytes hStored
  · rw [write_of_ne hKey] at hStored
    exact h key' bytes hStored

section Undo

variable {data : FabricSceneData} {i : Nat}

theorem withoutScene_withScene {free : SceneStorageId} (hAt : data.sceneMap[i]? = some free)
  (hFree : free = .cleared) (id : SceneStorageId) :
  (data.withScene i id).withoutScene i = data := by
  subst hFree
  obtain ⟨hLt, hGet⟩ := List.getElem?_eq_some_iff.mp hAt
  have hMap : data.sceneMap.set i .cleared = data.sceneMap := by
    rw [← hGet, List.set_getElem_self]
  have hCount : data.sceneCount + 1 - 1 = data.sceneCount := UInt8.add_sub_cancel _ _
  simp [FabricSceneData.withScene, FabricSceneData.withoutScene, List.set_set, hMap, hCount]

variable {id : SceneStorageId}

theorem withScene_withoutScene (hAt : data.sceneMap[i]? = some id) :
  (data.withoutScene i).withScene i id = data := by
  obtain ⟨hLt, hGet⟩ := List.getElem?_eq_some_iff.mp hAt
  have hMap : data.sceneMap.set i id = data.sceneMap := by
    rw [← hGet, List.set_getElem_self]
  have hCount : data.sceneCount - 1 + 1 = data.sceneCount := UInt8.sub_add_cancel _ _
  simp [FabricSceneData.withScene, FabricSceneData.withoutScene, List.set_set, hMap, hCount]

theorem find_found (h : data.find id = .found i) :
  data.sceneMap[i]? = some id :=
  findLoop_found data.sceneMap [] none h

theorem find_notFound (h : data.find id = .notFound i) :
  ∃ free, data.sceneMap[i]? = some free ∧ free.isValid = false :=
  findLoop_notFound data.sceneMap [] none (fun j hj => by cases hj) h

theorem MapForm.free_eq {sceneCount : UInt8} {sceneMap : List SceneStorageId}
  {free : SceneStorageId} (h : MapForm sizes sceneCount sceneMap)
  (hAt : sceneMap[i]? = some free) (hFree : free.isValid = false) : free = .cleared := by
  rcases h.cleared free (List.mem_of_getElem? hAt) with hValid | hCleared
  · rw [hFree] at hValid
    cases hValid
  · exact hCleared

end Undo

namespace Unreliable

def Formed (sizes : TableSizes) (s : Faulty ChipError SceneTable) : Prop :=
  RecordForm sizes s.state

theorem saveRecord_maintains {key : Except ChipError SceneKey} {size : Nat} {elements : Elements}
  (hRecord : ∀ k, key = .ok k → elements.bytes.length ≤ size → RecordOf sizes k elements.bytes) :
  Proc.Maintains (Formed sizes) (saveRecord key size elements) fun _ => True := by
  refine .bind (.lift fun _ => id) fun k hk => .bind (.lift fun _ => id) fun value hValue => ?_
  obtain ⟨rfl, hSize, -⟩ := encodeInto_ok hValue
  refine access_maintains (.modify fun st h => h.write ?_)
  rintro bytes ⟨⟩
  exact hRecord k hk hSize

theorem saveCount_maintains (e : UInt16) (countValue : UInt8) :
  Proc.Maintains (Formed sizes) (saveCount e countValue) fun _ => True := by
  refine saveRecord_maintains fun k hk _ => ?_
  unfold endpointSceneCountKey at hk
  split_ifs at hk
  cases hk
  exact ⟨countValue, rfl⟩

theorem checkedKey_eq {key k : SceneKey} (h : checkedKey f e key = .ok k) : k = key := by
  unfold checkedKey at h
  split_ifs at h
  cases h
  rfl

variable {data : FabricSceneData}

theorem save_maintains (hMap : MapForm sizes data.sceneCount data.sceneMap) :
  Proc.Maintains (Formed sizes) (save data) fun _ => True := by
  refine saveRecord_maintains fun k hk _ => ?_
  rw [checkedKey_eq hk]
  exact ⟨data.sceneCount, data.sceneMap, rfl, hMap⟩

theorem saveSceneRecord_maintains (f : UInt8) (e : UInt16) (index : Nat)
  (entry : SceneTableEntry) :
  Proc.Maintains (Formed sizes) (saveSceneRecord f e index entry) fun _ => True := by
  refine saveRecord_maintains fun k hk hFits => ?_
  rw [checkedKey_eq hk]
  exact ⟨entry, rfl, hFits⟩

theorem syncDeleteKeyValue_maintains (key : SceneKey) :
  Proc.Maintains (Formed sizes) (syncDeleteKeyValue key) fun _ => True := by
  refine access_maintains (.read_bind fun st _ => ?_)
  cases st.storage key with
  | none => exact .fail _
  | some _ => exact .modify fun _ h => h.write fun bytes hNone => by cases hNone

theorem deleteSceneRecord_maintains (f : UInt8) (e : UInt16) (index : Nat) :
  Proc.Maintains (Formed sizes) (deleteSceneRecord f e index) fun _ => True :=
  .bind (.lift fun _ => id) fun key _ => syncDeleteKeyValue_maintains key

section Loads

variable (P : SceneTable → Prop)

theorem loadValue_maintains (key : Except ChipError SceneKey) (size : Nat) :
  Proc.Maintains (fun s => P s.state) (loadValue key size) fun _ => True := by
  refine .bind (.lift fun _ => id) fun k _ =>
    .bind (.attempt (Q := fun _ => True) (access_maintains (.read_bind fun st _ => ?_)))
      fun result _ => ?_
  · cases st.storage k with
    | none => exact .fail _
    | some value => exact .bind (.verify _ _) fun _ _ => .pure trivial
  · cases result with
    | ok value => exact .pure trivial
    | error err => exact .fail _

theorem loadRecord_maintains {α : Type} (key : Except ChipError SceneKey) (size : Nat)
  (deserialize : ReaderM α) :
  Proc.Maintains (fun s => P s.state) (loadRecord key size deserialize) fun _ => True :=
  .bind (loadValue_maintains P key size) fun _ _ => .lift fun _ _ => trivial

theorem loadCount_maintains (e : UInt16) :
  Proc.Maintains (fun s => P s.state) (loadCount e) fun _ => True := by
  refine .bind (.attempt (loadRecord_maintains P _ _ _)) fun result _ => ?_
  cases result with
  | ok countValue => exact .pure trivial
  | error err =>
    simp only
    split_ifs
    · exact .pure trivial
    · exact .fail _

end Loads

theorem load_maintains {maxPerFabric : Nat} (hMax : sizes.mMaxScenesPerFabric ≤ maxPerFabric)
  (hLimit : maxPerFabric ≤ maxScenesPerFabric) (e : UInt16) (f : UInt8) (maxPerEndpoint : Nat) :
  Proc.Maintains (Formed sizes) (load (.cleared e f maxPerFabric maxPerEndpoint)) fun data =>
    ∃ sceneCount sceneMap, MapForm sizes sceneCount sceneMap ∧
      data = dataOfMap e f maxPerFabric maxPerEndpoint sceneCount sceneMap := by
  intro s hs
  by_cases hKey : f ≠ undefinedFabricIndex ∧ e ≠ invalidEndpointId
  · cases hNext : next s.fates with
    | some err =>
      obtain ⟨err, hLoad⟩ := load_fails hKey.1 hKey.2 hNext maxPerFabric maxPerEndpoint
      rw [hLoad]
      exact ⟨hs, fun data hData => by cases hData⟩
    | none =>
      cases hStored : s.state.storage (.fabricSceneData f e) with
      | none =>
        rw [load_absent hKey.1 hKey.2 hNext hStored]
        exact ⟨hs, fun data hData => by cases hData⟩
      | some bytes =>
        obtain ⟨sceneCount, sceneMap, rfl, hMap⟩ := hs _ bytes hStored
        rw [load_stored hKey.1 hKey.2 hNext hStored hMap hMax hLimit]
        refine ⟨hs, fun data hData => ?_⟩
        cases hData
        exact ⟨sceneCount, sceneMap, hMap, rfl⟩
  · obtain ⟨err, -, hLoad⟩ := load_keyless hKey maxPerFabric maxPerEndpoint s
    rw [hLoad]
    exact ⟨hs, fun data hData => by cases hData⟩

theorem fabricData_maintains (e : UInt16) (f : UInt8) :
  Proc.Maintains (Formed sizes) (load (fabricData sizes e f)) fun data =>
    MapForm sizes data.sceneCount data.sceneMap := by
  refine (load_maintains (Nat.le_refl _) sizes.perFabric e f _).mono ?_
  rintro data ⟨sceneCount, sceneMap, hMap, rfl⟩
  rw [dataOfMap_table hMap.length]
  exact hMap

theorem loadOrCleared_maintains (e : UInt16) (f : UInt8) :
  Proc.Maintains (Formed sizes) (loadOrCleared (fabricData sizes e f)) fun data =>
    MapForm sizes data.sceneCount data.sceneMap := by
  refine .bind (.attempt (fabricData_maintains e f)) fun result hResult => ?_
  cases result with
  | ok data => exact .pure (hResult data rfl)
  | error err =>
    simp only
    split_ifs
    · exact .pure (mapForm_cleared sizes)
    · exact .fail _

theorem saveScene_maintains {entry : SceneTableEntry} (hMap : MapForm sizes data.sceneCount data.sceneMap)
  (hValid : entry.mStorageId.isValid = true) :
  Proc.Maintains (Formed sizes) (saveScene data entry) fun _ => True := by
  unfold saveScene
  cases hFind : data.find entry.mStorageId with
  | found index => exact saveSceneRecord_maintains _ _ _ _
  | noMemory => exact .fail _
  | notFound index =>
    obtain ⟨free, hAt, hFree⟩ := find_notFound hFind
    have hUpdated : MapForm sizes (data.withScene index entry.mStorageId).sceneCount
        (data.withScene index entry.mStorageId).sceneMap := hMap.put hAt hFree hValid
    refine .bind (loadCount_maintains (RecordForm sizes) _) fun countValue _ => .bind (.verify _ _) fun _ _ =>
      .bind (saveCount_maintains _ _) fun _ _ =>
        .bind (.attempt (save_maintains hUpdated)) fun result _ => ?_
    cases result with
    | error err => exact .bind (saveCount_maintains _ _) fun _ _ => .fail _
    | ok _ =>
      refine .bind (.attempt (saveSceneRecord_maintains _ _ _ _)) fun result _ => ?_
      cases result with
      | ok _ => exact .pure trivial
      | error err =>
        refine .bind (saveCount_maintains _ _) fun _ _ => .bind (save_maintains ?_)
          fun _ _ => .fail _
        rw [withoutScene_withScene hAt (hMap.free_eq hAt hFree)]
        exact hMap

theorem removeScene_maintains (hMap : MapForm sizes data.sceneCount data.sceneMap) (id : SceneStorageId) :
  Proc.Maintains (Formed sizes) (removeScene data id) fun data =>
    MapForm sizes data.sceneCount data.sceneMap := by
  unfold removeScene
  split_ifs with hPos
  · cases hFind : data.find id with
    | noMemory => exact .pure hMap
    | notFound index => exact .pure hMap
    | found index =>
      have hAt := find_found hFind
      have hUpdated : MapForm sizes (data.withoutScene index).sceneCount
          (data.withoutScene index).sceneMap := hMap.clear hPos hAt
      refine .bind (loadCount_maintains (RecordForm sizes) _) fun countValue _ =>
        .bind (saveCount_maintains _ _) fun _ _ =>
          .bind (.attempt (save_maintains hUpdated)) fun result _ => ?_
      cases result with
      | error err => exact .bind (saveCount_maintains _ _) fun _ _ => .fail _
      | ok _ =>
        refine .bind (.attempt (deleteSceneRecord_maintains _ _ _)) fun result _ => ?_
        cases result with
        | ok _ => exact .pure hUpdated
        | error err =>
          refine .bind (saveCount_maintains _ _) fun _ _ => .bind (save_maintains ?_)
            fun _ _ => .fail _
          rw [withScene_withoutScene hAt]
          exact hMap
  · exact .pure hMap

theorem deleteGroupLoop_maintains (group : UInt16) (index n : Nat)
  (hMap : MapForm sizes data.sceneCount data.sceneMap) :
  Proc.Maintains (Formed sizes) (deleteGroupLoop group index n data) fun _ => True := by
  induction n generalizing index data with
  | zero => exact .pure trivial
  | succ n ih =>
    rw [deleteGroupLoop]
    split_ifs
    · exact .bind (removeScene_maintains hMap _) fun data hMap => ih (index + 1) hMap
    · exact ih (index + 1) hMap

section Table

variable (sizes : TableSizes)

theorem setSceneTableEntry_maintains (f : UInt8) {entry : SceneTableEntry}
  (hValid : entry.mStorageId.isValid = true) :
  Proc.Maintains (Formed sizes) (setSceneTableEntry sizes f entry) fun _ => True :=
  .read_bind fun _ _ => .bind (loadOrCleared_maintains _ f) fun _ hMap =>
    saveScene_maintains hMap hValid

theorem removeSceneTableEntry_maintains (f : UInt8) (id : SceneStorageId) :
  Proc.Maintains (Formed sizes) (removeSceneTableEntry sizes f id) fun _ => True :=
  .read_bind fun _ _ => .bind (fabricData_maintains _ f) fun _ hMap =>
    .bind (removeScene_maintains hMap id) fun _ _ => .pure trivial

theorem getSceneTableEntry_maintains (f : UInt8) (id : SceneStorageId) :
  Proc.Maintains (Formed sizes) (getSceneTableEntry sizes f id) fun _ => True := by
  refine .read_bind fun _ _ => .bind (fabricData_maintains _ f) fun data hMap => ?_
  cases data.find id with
  | noMemory => exact .fail _
  | notFound index => exact .fail _
  | found index =>
    refine .bind (.attempt (loadRecord_maintains (RecordForm sizes) _ _ _)) fun result _ => ?_
    cases result with
    | ok entry => exact .pure trivial
    | error err =>
      simp only
      split_ifs
      · exact .bind (removeSceneTableEntry_maintains sizes f id) fun _ _ => .fail _
      · exact .fail err

theorem removeSceneTableEntryAtPosition_maintains (e : UInt16) (f : UInt8) (index : Nat) :
  Proc.Maintains (Formed sizes) (removeSceneTableEntryAtPosition sizes e f index)
    fun _ => True := by
  refine .bind (fabricData_maintains e f) fun data hMap =>
    .bind (.attempt (loadRecord_maintains (RecordForm sizes) _ _ _)) fun result _ => ?_
  cases result with
  | ok entry => exact .bind (removeScene_maintains hMap _) fun _ _ => .pure trivial
  | error err =>
    simp only
    split_ifs
    · exact .pure trivial
    · exact .fail _

theorem deleteAllScenesInGroup_maintains (f : UInt8) (group : UInt16) :
  Proc.Maintains (Formed sizes) (deleteAllScenesInGroup sizes f group) fun _ => True :=
  .read_bind fun _ _ => .bind (fabricData_maintains _ f) fun _ hMap =>
    deleteGroupLoop_maintains group 0 _ hMap

theorem removePositions_maintains (e : UInt16) (f : UInt8) (index n : Nat) :
  Proc.Maintains (Formed sizes) (removePositions sizes e f index n) fun _ => True := by
  induction n generalizing index with
  | zero => exact .pure trivial
  | succ n ih =>
    refine .bind (.attempt (removeSceneTableEntryAtPosition_maintains sizes e f index))
      fun result _ => ?_
    cases result with
    | ok _ => exact ih (index + 1)
    | error err =>
      simp only
      split_ifs
      · exact ih (index + 1)
      · exact .fail _

theorem removeFabric_maintains (f : UInt8) (endpoints : List UInt16) :
  Proc.Maintains (Formed sizes) (removeFabric sizes f endpoints) fun _ => True := by
  induction endpoints with
  | nil => exact .pure trivial
  | cons endpoint rest ih =>
    refine .bind (.attempt (load_maintains sizes.perFabric (Nat.le_refl _) endpoint f _))
      fun result _ => ?_
    cases result with
    | ok data =>
      exact .bind (removePositions_maintains sizes endpoint f 0 _) fun _ _ =>
        .bind (.lift fun _ => id) fun key _ =>
          .bind (syncDeleteKeyValue_maintains key) fun _ _ => ih
    | error err =>
      simp only
      split_ifs
      · exact ih
      · exact .fail _

end Table

end Unreliable

def ChangeOp.StoresScene : ChangeOp → Prop
  | .set _ entry => entry.mStorageId.isValid = true
  | _ => True

theorem ChangeOp.call_maintains (sizes : TableSizes) (endpoints : List UInt16) {op : ChangeOp}
  (hStores : op.StoresScene) :
  Proc.Maintains (Unreliable.Formed sizes) (op.call sizes endpoints) fun _ => True := by
  cases op with
  | setEndpoint endpoint => exact .modify fun s h => h
  | set f entry => exact setSceneTableEntry_maintains sizes f hStores
  | get f id =>
    exact .bind (getSceneTableEntry_maintains sizes f id) fun _ _ => .pure trivial
  | remove f id => exact removeSceneTableEntry_maintains sizes f id
  | removeAt endpoint f index =>
    exact removeSceneTableEntryAtPosition_maintains sizes endpoint f index
  | deleteAll f group => exact deleteAllScenesInGroup_maintains sizes f group
  | removeFabric f => exact removeFabric_maintains sizes f endpoints

theorem recordForm_init (sizes : TableSizes) : RecordForm sizes init := by
  intro key bytes hStored
  cases hStored

theorem RecordForm.run {endpoints : List UInt16}
  {calls : List (ChangeOp × List (Option ChipError))}
  (hStores : ∀ call ∈ calls, call.1.StoresScene) (h : RecordForm sizes st) :
  RecordForm sizes (unreliableRun sizes endpoints calls st) := by
  induction calls generalizing st with
  | nil => exact h
  | cons call calls ih =>
    have hCall := call.1.call_maintains sizes endpoints (hStores call List.mem_cons_self)
    exact ih (fun next hMem => hStores next (List.mem_cons_of_mem call hMem))
      (hCall ⟨st, call.2⟩ h).1

end Chip.Scenes
