import Chip.Scenes.RecordInvariant

/-! Storing and removing a scene. A call in which one operation of the storage fails leaves the
records as they were, or such that they read as before. -/
namespace Chip.Scenes

open Proc SceneTable TLV Faulty

variable {sizes : TableSizes} {st st' : SceneTable} {e : UInt16} {f : UInt8}

/-- A record is as before, or it was absent and has the value that an absent one stands for. -/
def Restored (before after : Option Bytes) (absent : Bytes) : Prop :=
  after = before ∨ before = none ∧ after = some absent

/-- The records of a table after a call that has undone what it did. -/
structure SameRecords (sizes : TableSizes) (st st' : SceneTable) : Prop where
  endpoint : st'.mEndpointId = st.mEndpointId
  count : ∀ e, Restored (st.storage (.endpointSceneCount e)) (st'.storage (.endpointSceneCount e))
    (serializeCount 0).bytes
  sceneMap : ∀ f e, Restored (st.storage (.fabricSceneData f e))
    (st'.storage (.fabricSceneData f e))
    (serializeFabric 0 (List.replicate sizes.mMaxScenesPerFabric .cleared)).bytes
  scene : ∀ f e i, st'.storage (.fabricScene f e i) = st.storage (.fabricScene f e i)

theorem SameRecords.refl (sizes : TableSizes) (st : SceneTable) : SameRecords sizes st st where
  endpoint := rfl
  count := fun _ => .inl rfl
  sceneMap := fun _ _ => .inl rfl
  scene := fun _ _ _ => rfl

theorem CountIs.restored {countValue : UInt8} (h : CountIs st e countValue) :
  Restored (st.storage (.endpointSceneCount e)) (some (serializeCount countValue).bytes)
    (serializeCount 0).bytes := by
  rcases h with hStored | ⟨hNone, rfl⟩
  · exact .inl hStored.symm
  · exact .inr ⟨hNone, rfl⟩

/-- The map of a fabric on an endpoint, cleared when there is no record. -/
structure MapIs (sizes : TableSizes) (st : SceneTable) (f : UInt8) (e : UInt16)
    (sceneCount : UInt8) (sceneMap : List SceneStorageId) : Prop where
  form : MapForm sizes sceneCount sceneMap
  stored : st.storage (.fabricSceneData f e) = some (serializeFabric sceneCount sceneMap).bytes ∨
    st.storage (.fabricSceneData f e) = none ∧ sceneCount = 0 ∧
      sceneMap = List.replicate sizes.mMaxScenesPerFabric .cleared

theorem MapIs.restored {sceneCount : UInt8} {sceneMap : List SceneStorageId}
  (h : MapIs sizes st f e sceneCount sceneMap) :
  Restored (st.storage (.fabricSceneData f e)) (some (serializeFabric sceneCount sceneMap).bytes)
    (serializeFabric 0 (List.replicate sizes.mMaxScenesPerFabric .cleared)).bytes := by
  rcases h.stored with hStored | ⟨hNone, rfl, rfl⟩
  · exact .inl hStored.symm
  · exact .inr ⟨hNone, rfl⟩

theorem sameRecords_of_restored (hEndpoint : st'.mEndpointId = st.mEndpointId)
  (hElse : ∀ key, key ≠ .endpointSceneCount e → key ≠ .fabricSceneData f e →
    st'.storage key = st.storage key)
  (hCount : Restored (st.storage (.endpointSceneCount e)) (st'.storage (.endpointSceneCount e))
    (serializeCount 0).bytes)
  (hMap : Restored (st.storage (.fabricSceneData f e)) (st'.storage (.fabricSceneData f e))
    (serializeFabric 0 (List.replicate sizes.mMaxScenesPerFabric .cleared)).bytes) :
  SameRecords sizes st st' where
  endpoint := hEndpoint
  count := by
    intro e'
    by_cases hKey : e' = e
    · rw [hKey]
      exact hCount
    · exact .inl (hElse _ (fun h => hKey (SceneKey.endpointSceneCount.inj h)) (by simp))
  sceneMap := by
    intro f' e'
    by_cases hKey : f' = f ∧ e' = e
    · rw [hKey.1, hKey.2]
      exact hMap
    · exact .inl (hElse _ (by simp) (fun h => hKey (SceneKey.fabricSceneData.inj h)))
  scene := fun f' e' i => hElse _ (by simp) (by simp)

namespace Unreliable

/-- A new map and a new count of its endpoint are written before a scene record is changed, and
the old ones when this fails. -/
def transact {α : Type} (fabric updated : FabricSceneData) (before after : UInt8)
  (change : UnreliableM Unit) (value : α) : UnreliableM α := do
  saveCount fabric.endpointId after
  match ← Proc.attempt (save updated) with
  | .error err => do
      saveCount fabric.endpointId before
      Proc.fail err
  | .ok () => do
      match ← Proc.attempt change with
      | .ok () => pure value
      | .error err => do
          saveCount fabric.endpointId before
          save fabric
          Proc.fail err

theorem saveScene_new {fabric : FabricSceneData} {entry : SceneTableEntry} {index : Nat}
    (hFind : fabric.find entry.mStorageId = .notFound index) {free : SceneStorageId}
    (hAt : fabric.sceneMap[index]? = some free) (hFree : free = .cleared) :
    saveScene fabric entry = (do
      let countValue ← loadCount fabric.endpointId
      verify (countValue.toNat < fabric.maxScenesPerEndpoint) .noMemory
      transact fabric (fabric.withScene index entry.mStorageId) countValue (countValue + 1)
        (saveSceneRecord fabric.fabricIndex fabric.endpointId index entry) ()) := by
  have hCount : ∀ countValue : UInt8, countValue + 1 - 1 = countValue :=
    fun countValue => UInt8.add_sub_cancel countValue 1
  rw [saveScene, hFind]
  simp only [withoutScene_withScene hAt hFree, hCount]
  rfl

theorem removeScene_found {fabric : FabricSceneData} {id : SceneStorageId} {index : Nat}
    (hPos : 0 < fabric.sceneCount) (hFind : fabric.find id = .found index) :
    removeScene fabric id = (do
      let countValue ← loadCount fabric.endpointId
      transact fabric (fabric.withoutScene index) countValue (countValue - 1)
        (deleteSceneRecord fabric.fabricIndex fabric.endpointId index)
        (fabric.withoutScene index)) := by
  have hCount : ∀ countValue : UInt8, countValue - 1 + 1 = countValue :=
    fun countValue => UInt8.sub_add_cancel countValue 1
  rw [removeScene, if_pos hPos, hFind]
  simp only [withScene_withoutScene (find_found hFind), hCount]
  rfl

section Transact

variable {α : Type} {s s' : Faulty ChipError SceneTable} {maxPerFabric maxPerEndpoint : Nat}
  {sceneCount sceneCount' : UInt8} {sceneMap sceneMap' : List SceneStorageId}
  {before after : UInt8} {change : UnreliableM Unit} {value : α} {err : ChipError}

/-- The table once the new count and the new map are written. -/
def prepared (st : SceneTable) (f : UInt8) (e : UInt16) (after sceneCount' : UInt8)
  (sceneMap' : List SceneStorageId) : SceneTable :=
  (st.write (.endpointSceneCount e) (some (serializeCount after).bytes)).write
    (.fabricSceneData f e) (some (serializeFabric sceneCount' sceneMap').bytes)

theorem transact_undone (hFabric : f ≠ undefinedFabricIndex) (hEndpoint : e ≠ invalidEndpointId)
  (hSmall : sceneMap.length ≤ maxScenesPerFabric)
  (hSmall' : sceneMap'.length ≤ maxScenesPerFabric) (hOne : AtMostOne s.fates)
  (hChange : ∀ fates err s₂, AtMostOne fates → (Sound s.fates → Sound fates) →
    change ⟨prepared s.state f e after sceneCount' sceneMap', fates⟩ = (.error err, s₂) →
    s₂.state = prepared s.state f e after sceneCount' sceneMap' ∧ Sound s₂.fates)
  (hRun : transact ⟨e, f, maxPerFabric, maxPerEndpoint, sceneCount, sceneMap⟩
    ⟨e, f, maxPerFabric, maxPerEndpoint, sceneCount', sceneMap'⟩ before after change value s =
      (.error err, s')) :
  s'.state = s.state ∨
    s'.state = (s.state.write (.endpointSceneCount e) (some (serializeCount after).bytes)).write
      (.endpointSceneCount e) (some (serializeCount before).bytes) ∨
    s'.state = ((prepared s.state f e after sceneCount' sceneMap').write
      (.endpointSceneCount e) (some (serializeCount before).bytes)).write
        (.fabricSceneData f e) (some (serializeFabric sceneCount sceneMap).bytes) := by
  rw [transact] at hRun
  cases hFirst : next s.fates with
  | some err₁ =>
    rw [bind_error ((saveCount_run hEndpoint after s).trans (written_of_some hFirst))] at hRun
    cases hRun
    exact .inl rfl
  | none =>
    rw [bind_ok ((saveCount_run hEndpoint after s).trans (written_of_none hFirst)),
      attempt_bind, save_run hFabric hEndpoint sceneCount' hSmall'] at hRun
    cases hSecond : next s.fates.tail with
    | some err₂ =>
      have hSound : Sound s.fates.tail.tail := hOne.tail.sound_tail hSecond
      rw [written_of_some hSecond] at hRun
      simp only at hRun
      rw [bind_ok ((saveCount_run hEndpoint before _).trans
        (written_of_none hSound.next_eq))] at hRun
      cases hRun
      exact .inr (.inl rfl)
    | none =>
      rw [written_of_none hSecond] at hRun
      simp only [attempt_bind] at hRun
      cases hEnd : change ⟨prepared s.state f e after sceneCount' sceneMap',
          s.fates.tail.tail⟩ with
      | mk result s₂ =>
        rw [prepared] at hEnd
        rw [hEnd] at hRun
        cases result with
        | ok _ => cases hRun
        | error err₃ =>
          obtain ⟨hState, hSound⟩ := hChange _ _ _ hOne.tail.tail
            (fun h => h.tail.tail) hEnd
          simp only at hRun
          rw [bind_ok ((saveCount_run hEndpoint before _).trans
            (written_of_none hSound.next_eq)), bind_ok ((save_run hFabric hEndpoint
              sceneCount hSmall _).trans (written_of_none hSound.tail.next_eq)),
            hState] at hRun
          cases hRun
          exact .inr (.inr rfl)

section

variable (hFabric : f ≠ undefinedFabricIndex) (hEndpoint : e ≠ invalidEndpointId)
  (hSmall' : sceneMap'.length ≤ maxScenesPerFabric)
include hFabric hEndpoint hSmall'

theorem transact_atomic (hOne : AtMostOne s.fates) (hCount : CountIs s.state e before)
  (hMap : MapIs sizes s.state f e sceneCount sceneMap)
  (hChange : ∀ fates err s₂, AtMostOne fates → (Sound s.fates → Sound fates) →
    change ⟨prepared s.state f e after sceneCount' sceneMap', fates⟩ = (.error err, s₂) →
    s₂.state = prepared s.state f e after sceneCount' sceneMap' ∧ Sound s₂.fates)
  (hRun : transact ⟨e, f, maxPerFabric, maxPerEndpoint, sceneCount, sceneMap⟩
    ⟨e, f, maxPerFabric, maxPerEndpoint, sceneCount', sceneMap'⟩ before after change value s =
      (.error err, s')) : SameRecords sizes s.state s'.state := by
  rcases transact_undone hFabric hEndpoint hMap.form.length_le hSmall' hOne hChange hRun with
    hState | hState | hState
  · rw [hState]
    exact .refl sizes s.state
  · rw [hState]
    refine sameRecords_of_restored (e := e) (f := f) rfl ?_ ?_ ?_
    · intro key hNotCount hNotMap
      rw [write_of_ne hNotCount, write_of_ne hNotCount]
    · rw [write_self]
      exact hCount.restored
    · exact .inl rfl
  · rw [hState]
    refine sameRecords_of_restored (e := e) (f := f) rfl ?_ ?_ ?_
    · intro key hNotCount hNotMap
      rw [write_of_ne hNotMap, write_of_ne hNotCount, prepared,
        write_of_ne hNotMap, write_of_ne hNotCount]
    · rw [write_of_ne (by simp), write_self]
      exact hCount.restored
    · rw [write_self]
      exact hMap.restored

theorem transact_ok {result : α}
  (hRun : transact ⟨e, f, maxPerFabric, maxPerEndpoint, sceneCount, sceneMap⟩
    ⟨e, f, maxPerFabric, maxPerEndpoint, sceneCount', sceneMap'⟩ before after change value s =
      (.ok result, s')) :
  result = value ∧
    ∃ fates, change ⟨prepared s.state f e after sceneCount' sceneMap', fates⟩ = (.ok (), s') := by
  rw [transact] at hRun
  obtain ⟨_, s₁, hSaved, hRest⟩ := bind_eq_ok hRun
  rw [saveCount_run hEndpoint] at hSaved
  cases hFirst : next s.fates with
  | some err₁ =>
    rw [written_of_some hFirst] at hSaved
    cases hSaved
  | none =>
    rw [written_of_none hFirst] at hSaved
    cases hSaved
    rw [attempt_bind, save_run hFabric hEndpoint sceneCount' hSmall'] at hRest
    cases hSecond : next s.fates.tail with
    | some err₂ =>
      rw [written_of_some hSecond] at hRest
      obtain ⟨_, _, -, hFail⟩ := bind_eq_ok hRest
      cases hFail
    | none =>
      rw [written_of_none hSecond] at hRest
      simp only [attempt_bind] at hRest
      cases hEnd : change ⟨prepared s.state f e after sceneCount' sceneMap',
          s.fates.tail.tail⟩ with
      | mk changed s₂ =>
        rw [prepared] at hEnd
        rw [hEnd] at hRest
        cases changed with
        | ok _ =>
          cases hRest
          exact ⟨rfl, s.fates.tail.tail, hEnd⟩
        | error err₃ =>
          obtain ⟨_, _, -, hRest⟩ := bind_eq_ok hRest
          obtain ⟨_, _, -, hFail⟩ := bind_eq_ok hRest
          cases hFail

theorem transact_sound (hSound : Sound s.fates)
  (hRun : transact ⟨e, f, maxPerFabric, maxPerEndpoint, sceneCount, sceneMap⟩
    ⟨e, f, maxPerFabric, maxPerEndpoint, sceneCount', sceneMap'⟩ before after change value s =
      (.error err, s')) :
  ∃ fates, Sound fates ∧
    (change ⟨prepared s.state f e after sceneCount' sceneMap', fates⟩).1 ≠ .ok () := by
  refine ⟨s.fates.tail.tail, hSound.tail.tail, ?_⟩
  intro hChanged
  rw [transact, bind_ok ((saveCount_run hEndpoint after s).trans
    (written_of_none hSound.next_eq)), attempt_bind,
    save_run hFabric hEndpoint sceneCount' hSmall', written_of_none hSound.tail.next_eq] at hRun
  simp only [attempt_bind] at hRun
  rw [prepared] at hChanged
  rw [hChanged] at hRun
  cases hRun

end

end Transact

section Scenes

variable {s s' : Faulty ChipError SceneTable} {maxPerEndpoint index : Nat} {sceneCount : UInt8}
  {sceneMap : List SceneStorageId} {entry : SceneTableEntry} {id : SceneStorageId}
  {err : ChipError}

section

variable (hFabric : f ≠ undefinedFabricIndex) (hEndpoint : e ≠ invalidEndpointId)
include hFabric hEndpoint

theorem saveSceneRecord_fails (hOne : AtMostOne s.fates)
  (hFits : Sound s.fates ∨ (serializeScene entry).bytes.length ≤ persistentSceneBufferMax)
  (hRun : saveSceneRecord f e index entry s = (.error err, s')) :
  s'.state = s.state ∧ Sound s'.fates := by
  by_cases hLength : (serializeScene entry).bytes.length ≤ persistentSceneBufferMax
  · rw [saveSceneRecord_run hFabric hEndpoint hLength] at hRun
    cases hNext : next s.fates with
    | none =>
      rw [written_of_none hNext] at hRun
      cases hRun
    | some err₁ =>
      rw [written_of_some hNext] at hRun
      cases hRun
      exact ⟨rfl, hOne.sound_tail hNext⟩
  · obtain ⟨err₁, hRefused⟩ := saveSceneRecord_tooLarge hLength f e index s
    rw [hRefused] at hRun
    cases hRun
    exact ⟨rfl, hFits.resolve_right hLength⟩

theorem saveSceneRecord_sound
  (hLength : (serializeScene entry).bytes.length ≤ persistentSceneBufferMax)
  (hSound : Sound s.fates) : (saveSceneRecord f e index entry s).1 = .ok () := by
  rw [saveSceneRecord_run hFabric hEndpoint hLength, written_of_none hSound.next_eq]

theorem storeNew_sound (hMap : MapForm sizes sceneCount sceneMap) (hSound : Sound s.fates)
  (hLength : (serializeScene entry).bytes.length ≤ persistentSceneBufferMax) {countValue : UInt8}
  (hRun : (do
    verify (countValue.toNat < maxPerEndpoint) .noMemory
    transact ⟨e, f, sizes.mMaxScenesPerFabric, maxPerEndpoint, sceneCount, sceneMap⟩
      ⟨e, f, sizes.mMaxScenesPerFabric, maxPerEndpoint, sceneCount + 1,
        sceneMap.set index entry.mStorageId⟩ countValue (countValue + 1)
      (saveSceneRecord f e index entry) () : UnreliableM Unit) s = (.error err, s')) :
  s'.state = s.state := by
  have hSmall' : (sceneMap.set index entry.mStorageId).length ≤ maxScenesPerFabric := by
    rw [List.length_set]
    exact hMap.length_le
  rw [verify_bind] at hRun
  split_ifs at hRun
  · obtain ⟨fates, hFates, hFails⟩ := transact_sound hFabric hEndpoint hSmall' hSound hRun
    exact absurd (saveSceneRecord_sound hFabric hEndpoint hLength hFates) hFails
  · cases hRun
    rfl

theorem saveScene_atomic (hForm : RecordForm sizes s.state)
  (hMap : MapForm sizes sceneCount sceneMap) (hOne : AtMostOne s.fates)
  (hFits : Sound s.fates ∨ (serializeScene entry).bytes.length ≤ persistentSceneBufferMax)
  (hGiven : MapIs sizes s.state f e sceneCount sceneMap ∨
    Sound s.fates ∧ (serializeScene entry).bytes.length ≤ persistentSceneBufferMax)
  (hRun : saveScene ⟨e, f, sizes.mMaxScenesPerFabric, maxPerEndpoint, sceneCount, sceneMap⟩ entry
    s = (.error err, s')) : SameRecords sizes s.state s'.state := by
  have hSame : ∀ {st}, st = s.state → SameRecords sizes s.state st := by
    rintro st rfl
    exact .refl sizes _
  cases hFind : FabricSceneData.find
      ⟨e, f, sizes.mMaxScenesPerFabric, maxPerEndpoint, sceneCount, sceneMap⟩
      entry.mStorageId with
  | noMemory =>
    rw [saveScene, hFind] at hRun
    cases hRun
    exact .refl sizes _
  | found index =>
    rw [saveScene, hFind] at hRun
    exact hSame (saveSceneRecord_fails hFabric hEndpoint hOne hFits hRun).1
  | notFound index =>
    obtain ⟨free, hAt, hFree⟩ := find_notFound hFind
    rw [saveScene_new hFind hAt (hMap.free_eq hAt hFree)] at hRun
    cases hNext : next s.fates with
    | some err₁ =>
      -- The count could not be loaded. No other operation fails after it.
      obtain ⟨result, hLoad⟩ := loadCount_fails hEndpoint hNext
      cases result with
      | error err₂ =>
        rw [bind_error hLoad] at hRun
        cases hRun
        exact .refl sizes _
      | ok countValue =>
        rw [bind_ok hLoad] at hRun
        have hState := storeNew_sound hFabric hEndpoint hMap (hOne.sound_tail hNext)
          (hFits.resolve_left (not_sound hNext)) hRun
        exact hSame hState
    | none =>
      obtain ⟨countValue, hCount⟩ := hForm.countIs e
      rw [bind_ok (loadCount_run hEndpoint hNext hCount)] at hRun
      rcases hGiven with hMapIs | ⟨hSound, hLength⟩
      · rw [verify_bind] at hRun
        split_ifs at hRun
        · have hSmall' : (sceneMap.set index entry.mStorageId).length ≤ maxScenesPerFabric := by
            rw [List.length_set]
            exact hMap.length_le
          refine transact_atomic (s := ⟨s.state, s.fates.tail⟩) hFabric hEndpoint hSmall'
            hOne.tail hCount hMapIs ?_ hRun
          intro fates err₁ s₂ hFates hSound hFails
          exact saveSceneRecord_fails hFabric hEndpoint hFates
            (hFits.imp_left fun h => hSound h.tail) hFails
        · cases hRun
          exact .refl sizes _
      · have hState := storeNew_sound hFabric hEndpoint hMap hSound.tail hLength hRun
        exact hSame hState

section

variable (hStored : s.state.storage (.fabricScene f e index) ≠ none)
include hStored

theorem deleteSceneRecord_run :
  deleteSceneRecord f e index s = written s (s.state.write (.fabricScene f e index) none) := by
  obtain ⟨bytes, hBytes⟩ := Option.ne_none_iff_exists'.mp hStored
  rw [deleteSceneRecord, sceneKey, checkedKey_ok hFabric hEndpoint]
  change access (Scenes.syncDeleteKeyValue (.fabricScene f e index)) s = _
  rw [access, written, Scenes.syncDeleteKeyValue, read_bind, hBytes]
  rfl

theorem deleteSceneRecord_sound (hSound : Sound s.fates) :
  (deleteSceneRecord f e index s).1 = .ok () := by
  rw [deleteSceneRecord_run hFabric hEndpoint hStored, written_of_none hSound.next_eq]

theorem deleteSceneRecord_fails (hOne : AtMostOne s.fates)
  (hRun : deleteSceneRecord f e index s = (.error err, s')) :
  s'.state = s.state ∧ Sound s'.fates := by
  rw [deleteSceneRecord_run hFabric hEndpoint hStored] at hRun
  cases hNext : next s.fates with
  | none =>
    rw [written_of_none hNext] at hRun
    cases hRun
  | some err₁ =>
    rw [written_of_some hNext] at hRun
    cases hRun
    exact ⟨rfl, hOne.sound_tail hNext⟩

end

end

theorem prepared_scene (st : SceneTable) (f : UInt8) (e : UInt16) (after sceneCount' : UInt8)
  (sceneMap' : List SceneStorageId) (f' : UInt8) (e' : UInt16) (index : Nat) :
  (prepared st f e after sceneCount' sceneMap').storage (.fabricScene f' e' index) =
    st.storage (.fabricScene f' e' index) := by
  rw [prepared, write_of_ne (by simp), write_of_ne (by simp)]

theorem removeScene_atomic (hFabric : f ≠ undefinedFabricIndex) (hEndpoint : e ≠ invalidEndpointId)
  (hForm : RecordForm sizes s.state) (hMap : MapIs sizes s.state f e sceneCount sceneMap)
  (hOne : AtMostOne s.fates)
  (hRecord : ∀ index, sceneMap[index]? = some id →
    s.state.storage (.fabricScene f e index) ≠ none)
  (hRun : removeScene ⟨e, f, sizes.mMaxScenesPerFabric, maxPerEndpoint, sceneCount, sceneMap⟩ id
    s = (.error err, s')) : SameRecords sizes s.state s'.state := by
  by_cases hPos : 0 < sceneCount
  · cases hFind : FabricSceneData.find
        ⟨e, f, sizes.mMaxScenesPerFabric, maxPerEndpoint, sceneCount, sceneMap⟩ id with
    | noMemory =>
      rw [removeScene, if_pos hPos, hFind] at hRun
      cases hRun
    | notFound index =>
      rw [removeScene, if_pos hPos, hFind] at hRun
      cases hRun
    | found index =>
      have hStored := hRecord index (find_found hFind)
      have hSmall' : (sceneMap.set index .cleared).length ≤ maxScenesPerFabric := by
        rw [List.length_set]
        exact hMap.form.length_le
      rw [removeScene_found hPos hFind] at hRun
      cases hNext : next s.fates with
      | some err₁ =>
        -- The count could not be loaded. No other operation fails after it.
        obtain ⟨result, hLoad⟩ := loadCount_fails hEndpoint hNext
        cases result with
        | error err₂ =>
          rw [bind_error hLoad] at hRun
          cases hRun
          exact .refl sizes _
        | ok countValue =>
          rw [bind_ok hLoad] at hRun
          obtain ⟨fates, hFates, hFails⟩ := transact_sound hFabric hEndpoint hSmall'
            (hOne.sound_tail hNext) hRun
          refine absurd (deleteSceneRecord_sound hFabric hEndpoint ?_ hFates) hFails
          rw [prepared_scene]
          exact hStored
      | none =>
        obtain ⟨countValue, hCount⟩ := hForm.countIs e
        rw [bind_ok (loadCount_run hEndpoint hNext hCount)] at hRun
        refine transact_atomic (s := ⟨s.state, s.fates.tail⟩) hFabric hEndpoint hSmall'
          hOne.tail hCount hMap ?_ hRun
        intro fates err₁ s₂ hFates hSound hFails
        refine deleteSceneRecord_fails hFabric hEndpoint ?_ hFates hFails
        rw [prepared_scene]
        exact hStored
  · rw [removeScene, if_neg hPos] at hRun
    cases hRun

end Scenes

end Unreliable

end Chip.Scenes
