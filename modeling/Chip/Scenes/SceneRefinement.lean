import Chip.Scenes.SceneChanges
import Chip.Scenes.SceneSpec

/-! The slots of a table represent a map, and every call on the slots is a step on the map. -/
namespace Chip.Scenes

open List Slots SceneMap TLV

section Represents

variable {sizes : TableSizes} {slots : Slots} {m : SceneMap} {e : UInt16} {f : UInt8}

def Represents (sizes : TableSizes) (slots : Slots) (m : SceneMap) : Prop :=
  ∀ e f id data, m e f id = some data ↔ some (id, data) ∈ slots.listOf sizes e f

theorem mem_set {l : List Slot} {i : Nat} (hLt : i < l.length) (s : Slot)
  (x : SceneStorageId × SceneData) :
  some x ∈ l.set i s ↔ s = some x ∨ ∃ j, j ≠ i ∧ l[j]? = some (some x) := by
  constructor
  · intro hMem
    obtain ⟨j, hj⟩ := List.mem_iff_getElem?.mp hMem
    by_cases hEq : i = j
    · subst hEq
      rw [List.getElem?_set_self hLt] at hj
      exact .inl (Option.some.inj hj)
    · rw [List.getElem?_set_ne hEq] at hj
      exact .inr ⟨j, Ne.symm hEq, hj⟩
  · rintro (rfl | ⟨j, hNe, hj⟩)
    · exact List.mem_set hLt (some x)
    · refine List.mem_of_getElem? (i := j) ?_
      rw [List.getElem?_set_ne (Ne.symm hNe), hj]

@[simp] theorem Slots.listOf_put_self (l : List Slot) :
  (slots.put e f (some l)).listOf sizes e f = l := by
  simp [listOf]

theorem Slots.listOf_put_of_ne {o : Option (List Slot)} {e' : UInt16} {f' : UInt8}
  (h : ¬ (e' = e ∧ f' = f)) :
  (slots.put e f o).listOf sizes e' f' = slots.listOf sizes e' f' := by
  simp [listOf, put_of_ne h]

theorem Represents.put (h : Represents sizes slots m) {i : Nat} {id : SceneStorageId} (data : SceneData)
  (hLt : i < (slots.listOf sizes e f).length)
  (hOthers : ∀ j old, (slots.listOf sizes e f)[j]? = some (some (id, old)) → j = i)
  (hHere : ∀ x, (slots.listOf sizes e f)[i]? = some (some x) → x.1 = id) :
  Represents sizes (slots.put e f (some ((slots.listOf sizes e f).set i (some (id, data)))))
    (m.put e f id data) := by
  intro e' f' id' data'
  by_cases hKey : e' = e ∧ f' = f
  · obtain ⟨rfl, rfl⟩ := hKey
    rw [Slots.listOf_put_self, mem_set hLt]
    by_cases hId : id' = id
    · subst hId
      simp only [SceneMap.put, and_self, ↓reduceIte, Option.some.injEq, Prod.mk.injEq, true_and]
      refine ⟨.inl, ?_⟩
      rintro (hEq | ⟨j, hNe, hj⟩)
      · exact hEq
      · exact absurd (hOthers j data' hj) hNe
    · simp only [SceneMap.put, hId, and_false, ↓reduceIte, h e' f' id' data']
      constructor
      · intro hMem
        obtain ⟨j, hj⟩ := List.mem_iff_getElem?.mp hMem
        refine .inr ⟨j, ?_, hj⟩
        rintro rfl
        exact hId (hHere _ hj)
      · rintro (hEq | ⟨j, -, hj⟩)
        · cases hEq
          exact absurd rfl hId
        · exact List.mem_of_getElem? hj
  · rw [Slots.listOf_put_of_ne hKey, ← h e' f' id' data']
    have hNot : ¬ (e' = e ∧ f' = f ∧ id' = id) := fun hAll => hKey ⟨hAll.1, hAll.2.1⟩
    simp only [SceneMap.put, hNot, ↓reduceIte]

theorem SceneMap.without_eq {P : UInt16 → UInt8 → SceneStorageId → Prop}
  (h : ∀ e f id, P e f id → m e f id = none) : m.without P = m := by
  funext e f id
  unfold without
  split
  · rename_i hP
    exact (h e f id hP).symm
  · rfl

theorem SceneMap.without_without {P Q R : UInt16 → UInt8 → SceneStorageId → Prop}
  (h : ∀ e f id, R e f id ↔ P e f id ∨ Q e f id) : (m.without P).without Q = m.without R := by
  funext e f id
  unfold without
  by_cases hP : P e f id
  · simp [hP, h]
  · by_cases hQ : Q e f id
    · simp [hQ, h]
    · simp [hP, hQ, h]

theorem Represents.remove (h : Represents sizes slots m) {i : Nat} {x : SceneStorageId × SceneData}
  (hForm : WellFormed sizes (slots.listOf sizes e f))
  (hAt : (slots.listOf sizes e f)[i]? = some (some x)) :
  Represents sizes (slots.put e f (some ((slots.listOf sizes e f).set i none)))
    (m.without fun e' f' id' => e' = e ∧ f' = f ∧ id' = x.1) := by
  have hLt : i < (slots.listOf sizes e f).length := (List.getElem?_eq_some_iff.mp hAt).1
  intro e' f' id' data'
  by_cases hKey : e' = e ∧ f' = f
  · obtain ⟨rfl, rfl⟩ := hKey
    rw [Slots.listOf_put_self, mem_set hLt]
    by_cases hId : id' = x.1
    · subst hId
      simp only [SceneMap.without, and_self, ↓reduceIte, reduceCtorEq, false_or, false_iff,
        not_exists, not_and]
      intro j hNe hj
      exact hNe (hForm.unique hj hAt rfl)
    · simp only [SceneMap.without, hId, and_false, ↓reduceIte, h e' f' id' data', reduceCtorEq,
        false_or]
      constructor
      · intro hMem
        obtain ⟨j, hj⟩ := List.mem_iff_getElem?.mp hMem
        refine ⟨j, ?_, hj⟩
        rintro rfl
        rw [hAt] at hj
        cases hj
        exact hId rfl
      · rintro ⟨j, -, hj⟩
        exact List.mem_of_getElem? hj
  · rw [Slots.listOf_put_of_ne hKey, ← h e' f' id' data']
    have hNot : ¬ (e' = e ∧ f' = f ∧ id' = x.1) := fun hAll => hKey ⟨hAll.1, hAll.2.1⟩
    simp only [SceneMap.without, hNot, ↓reduceIte]

theorem Represents.congr {slots' : Slots} (h : Represents sizes slots m)
  (hSame : ∀ e f, slots'.listOf sizes e f = slots.listOf sizes e f) :
  Represents sizes slots' m := by
  intro e f id data
  rw [hSame]
  exact h e f id data

theorem Slots.listOf_put_listOf (slots : Slots) (sizes : TableSizes) (e e' : UInt16) (f f' : UInt8) :
  (slots.put e f (some (slots.listOf sizes e f))).listOf sizes e' f' = slots.listOf sizes e' f' := by
  by_cases hKey : e' = e ∧ f' = f
  · obtain ⟨rfl, rfl⟩ := hKey
    rw [listOf_put_self]
  · rw [listOf_put_of_ne hKey]

theorem Represents.eq_none_iff (h : Represents sizes slots m) {id : SceneStorageId} :
  m e f id = none ↔ ∀ data, some (id, data) ∉ slots.listOf sizes e f := by
  constructor
  · intro hNone data hMem
    rw [← h, hNone] at hMem
    cases hMem
  · intro hAbsent
    cases hGet : m e f id with
    | none => rfl
    | some data => exact absurd ((h e f id data).mp hGet) (hAbsent data)

theorem Represents.eq_none_of_slots (h : Represents sizes slots m) (hNone : slots e f = none)
  (id : SceneStorageId) : m e f id = none := by
  rw [h.eq_none_iff]
  intro data hMem
  rw [listOf, hNone, Option.getD_none] at hMem
  cases eq_of_mem_replicate hMem

def usedSlots (l : List Slot) : List (SceneStorageId × SceneData) := l.filterMap id

theorem mem_usedSlots {l : List Slot} {x : SceneStorageId × SceneData} :
  x ∈ usedSlots l ↔ some x ∈ l := by
  simp [usedSlots]

theorem length_usedSlots (l : List Slot) : (usedSlots l).length = sceneCountOf l := by
  unfold usedSlots sceneCountOf
  rw [length_filterMap_eq_countP]
  rfl

theorem nodup_usedSlots {l : List Slot}
  (h : ∀ {i j : Nat} {x y : SceneStorageId × SceneData}, l[i]? = some (some x) →
    l[j]? = some (some y) → x.1 = y.1 → i = j) : ((usedSlots l).map Prod.fst).Nodup := by
  induction l with
  | nil => exact nodup_nil
  | cons s rest ih =>
    have hRest := ih fun {i j x y} hi hj hId =>
      Nat.succ.inj (h (i := i + 1) (j := j + 1) (x := x) (y := y) hi hj hId)
    cases s with
    | none => exact hRest
    | some x =>
      refine nodup_cons.mpr ⟨?_, hRest⟩
      intro hMem
      obtain ⟨y, hy, hId⟩ := mem_map.mp hMem
      obtain ⟨j, hj⟩ := mem_iff_getElem?.mp (mem_usedSlots.mp hy)
      cases h (i := j + 1) (j := 0) (x := y) (y := x) hj rfl hId

section

variable (h : Represents sizes slots m)
include h

theorem Represents.isSome_iff {id : SceneStorageId} :
  (m e f id).isSome ↔ id ∈ (usedSlots (slots.listOf sizes e f)).map Prod.fst := by
  rw [Option.isSome_iff_exists, mem_map]
  constructor
  · rintro ⟨data, hData⟩
    exact ⟨(id, data), mem_usedSlots.mpr ((h e f id data).mp hData), rfl⟩
  · rintro ⟨⟨id, data⟩, hMem, rfl⟩
    exact ⟨data, (h e f id data).mpr (mem_usedSlots.mp hMem)⟩

theorem Represents.fabricCount_eq (hForm : WellFormed sizes (slots.listOf sizes e f)) :
  m.fabricCount e f = sceneCountOf (slots.listOf sizes e f) := by
  have hSet : {id | (m e f id).isSome} =
      (((usedSlots (slots.listOf sizes e f)).map Prod.fst).toFinset : Set SceneStorageId) := by
    ext id
    rw [Finset.mem_coe, mem_toFinset]
    exact h.isSome_iff
  rw [fabricCount, hSet, Set.ncard_coe_finset,
    toFinset_card_of_nodup (nodup_usedSlots hForm.unique), length_map, length_usedSlots]

theorem Represents.endpointCount_eq {st : SceneTable} (hStored : Stored sizes slots st.storage)
  (e : UInt16) : m.endpointCount e = slots.total e := by
  refine Finset.sum_congr rfl fun f _ => ?_
  rw [h.fabricCount_eq (hStored.wellFormed_listOf e f), ← scenesOf_eq sizes]
  rfl

end

end Represents

/-- The table represents the scenes, and its pool the iterators. -/
structure Refines (sizes : TableSizes) (st : SceneTable) (spec : SceneSpec) : Prop where
  records : ∃ slots, Stored sizes slots st.storage ∧ Represents sizes slots spec.scenes
  endpoint : spec.endpoint = st.mEndpointId
  iterators : ∀ i, spec.iterators i = (st.mSceneEntryIterators.lookup i).map fun it =>
    (it.mEndpoint, it.mFabric, it.mSceneIndex)
  owners : st.mSceneEntryIterators.owners.Nodup
  pool : st.mSceneEntryIterators.length = iteratorsMax

section Calls

variable {sizes : TableSizes} {endpoints : List UInt16} {st : SceneTable} {spec : SceneSpec}
  {slots : Slots} {e : UInt16} {f : UInt8}

theorem Refines.change (h : Refines sizes st spec) {storage : SceneKey → Option Bytes} {m : SceneMap}
  (hStored : Stored sizes slots storage) (hMap : Represents sizes slots m) :
  Refines sizes { st with storage := storage } { spec with scenes := m } :=
  ⟨⟨slots, hStored, hMap⟩, h.endpoint, h.iterators, h.owners, h.pool⟩

/-- What a call with this result and this table afterwards has to show. -/
def Simulates (sizes : TableSizes) (endpoints : List UInt16) (st : SceneTable) (spec : SceneSpec)
  (op : SceneOp) (result : Except ChipError SceneValue × SceneTable) : Prop :=
  ∃ spec', SceneSpec.Step sizes endpoints st.positions spec op result.1 spec' ∧
    Refines sizes result.2 spec'

theorem Simulates.unchanged {op : SceneOp} {result : Except ChipError SceneValue}
  (h : Refines sizes st spec)
  (hStep : SceneSpec.Step sizes endpoints st.positions spec op result spec) :
  Simulates sizes endpoints st spec op (result, st) := ⟨spec, hStep, h⟩

theorem keys_or (e : UInt16) (f : UInt8) :
  (f ≠ undefinedFabricIndex ∧ e ≠ invalidEndpointId) ∨ SceneSpec.NoKey e f := by
  unfold SceneSpec.NoKey
  by_cases hFabric : f = undefinedFabricIndex
  · exact .inr (.inl hFabric)
  · by_cases hEndpoint : e = invalidEndpointId
    · exact .inr (.inr hEndpoint)
    · exact .inl ⟨hFabric, hEndpoint⟩

theorem SceneSpec.NoKey.not (h : SceneSpec.NoKey e f) :
  ¬ (f ≠ undefinedFabricIndex ∧ e ≠ invalidEndpointId) :=
  fun hKeys => h.elim hKeys.1 hKeys.2

theorem load_cases (h : Stored sizes slots st.storage) (e : UInt16) (f : UInt8) {maxPerFabric : Nat}
  (maxPerEndpoint : Nat) (hMax : sizes.mMaxScenesPerFabric ≤ maxPerFabric)
  (hLimit : maxPerFabric ≤ maxScenesPerFabric) :
  (∃ l, slots e f = some l ∧ (FabricSceneData.cleared e f maxPerFabric maxPerEndpoint).load st =
    (.ok (dataOf e f maxPerFabric maxPerEndpoint l), st)) ∨
  slots e f = none ∧ ∃ err, (FabricSceneData.cleared e f maxPerFabric maxPerEndpoint).load st =
    (.error err, st) ∧ (err = .notFound ∨ SceneSpec.NoKey e f ∧ err ≠ .notFound ∧ err ≠ .noMemory) := by
  cases hl : slots e f with
  | some l => exact .inl ⟨l, rfl, load_some h hl hMax hLimit⟩
  | none =>
    refine .inr ⟨rfl, ?_⟩
    rcases keys_or e f with ⟨hFabric, hEndpoint⟩ | hKey
    · exact ⟨.notFound, load_none h hFabric hEndpoint hl _ _, .inl rfl⟩
    · obtain ⟨err, hErr, hNe⟩ := load_refused hKey.not maxPerFabric maxPerEndpoint st
      exact ⟨err, hErr, .inr ⟨hKey, hNe⟩⟩

theorem fabricData_load (h : Stored sizes slots st.storage) (e : UInt16) (f : UInt8) :
  (∃ l, slots e f = some l ∧ (fabricData sizes e f).load st = (.ok (tableData sizes e f l), st)) ∨
  slots e f = none ∧ ∃ err, (fabricData sizes e f).load st = (.error err, st) ∧
    (err = .notFound ∨ SceneSpec.NoKey e f ∧ err ≠ .notFound ∧ err ≠ .noMemory) :=
  load_cases h e f sizes.mMaxScenesPerEndpoint (Nat.le_refl _) sizes.perFabric

theorem dataOf_getD (e : UInt16) (f : UInt8) (maxPerFabric maxPerEndpoint : Nat) {l : List Slot}
  (j : Nat) (s : Slot) (hAt : l[j]? = some s) :
  (dataOf e f maxPerFabric maxPerEndpoint l).sceneMap.getD j .cleared = Slot.id s := by
  have hLt : j < l.length := (List.getElem?_eq_some_iff.mp hAt).1
  change (l.map Slot.id ++ _).getD j .cleared = _
  rw [List.getD_eq_getElem?_getD, List.getElem?_append_left (by rw [List.length_map]; exact hLt),
    List.getElem?_map, hAt]
  rfl

theorem positions_eq (h : Stored sizes slots st.storage) (e : UInt16) (f : UInt8) (i : Nat) :
  st.positions e f i = (slots.at e f i).map Prod.fst := by
  unfold SceneTable.positions
  cases hAt : slots.at e f i with
  | some x =>
    rw [loadScene_some h hAt]
    rfl
  | none =>
    rcases keys_or e f with ⟨hFabric, hEndpoint⟩ | hKey
    · rw [loadScene_none h hFabric hEndpoint hAt]
      rfl
    · have hRefused : ∃ err, sceneKey f e i = .error err := by
        unfold sceneKey checkedKey
        rcases hKey with hFabric | hEndpoint
        · exact ⟨_, if_pos hFabric⟩
        · by_cases hFabric : f = undefinedFabricIndex
          · exact ⟨_, if_pos hFabric⟩
          · exact ⟨.invalidArgument, by rw [if_neg hFabric, if_pos hEndpoint]⟩
      obtain ⟨err, hErr⟩ := hRefused
      simp only [loadScene, loadRecord, loadValue, hErr, Proc.bind_apply, Proc.lift_apply]
      rfl

theorem sceneCountOf_full {l : List Slot} (h : ∀ s ∈ l, s ≠ none) : sceneCountOf l = l.length := by
  refine countP_eq_length.mpr fun s hs => ?_
  exact Option.isSome_iff_ne_none.mpr (h s hs)

theorem Refines.set (h : Refines sizes st spec) (f : UInt8) {entry : SceneTableEntry}
  (hValid : entry.mStorageId.isValid = true) (hPlain : entry.mStorageData.Plain) :
  Simulates sizes endpoints st spec (.set f entry)
    ((SceneOp.set f entry).call sizes endpoints st) := by
  obtain ⟨slots, hStored, hMap⟩ := h.records
  have hCall : ∀ result, setSceneTableEntry sizes f entry st = result →
      (SceneOp.set f entry).call sizes endpoints st =
        (result.1.map fun _ => SceneValue.done, result.2) := by
    rintro result rfl
    exact Proc.bind_pure_apply ..
  rcases keys_or st.mEndpointId f with ⟨hFabric, hEndpoint⟩ | hKey
  · have hSet : setSceneTableEntry sizes f entry st =
        (tableData sizes st.mEndpointId f (slots.listOf sizes st.mEndpointId f)).saveScene entry st :=
      Proc.bind_ok (loadOrCleared_ok hStored hFabric hEndpoint)
    have hForm := hStored.wellFormed_listOf st.mEndpointId f
    rcases find_cases hForm hValid st.mEndpointId f with
      ⟨i, old, hAt, hFind⟩ | ⟨hAbsent, ⟨i, hAt, hFind⟩ | ⟨hFull, hFind⟩⟩
    · have hLt := (List.getElem?_eq_some_iff.mp hAt).1
      obtain ⟨storage', ⟨hSave, hStored'⟩ | ⟨hSave, hLarge⟩⟩ := saveScene_found hStored hPlain hAt hFind
      · rw [hCall _ (hSet.trans hSave)]
        refine ⟨_, .set f entry, h.change hStored' ?_⟩
        rw [h.endpoint]
        refine hMap.put entry.mStorageData hLt (fun j data hj => hForm.unique hj hAt rfl) fun x hx => ?_
        rw [hAt] at hx
        cases hx
        rfl
      · rw [hCall _ (hSet.trans hSave)]
        exact .unchanged h (.setTooLarge hLarge)
    · have hLt := (List.getElem?_eq_some_iff.mp hAt).1
      obtain ⟨storage', ⟨hSave, hStored'⟩ | ⟨hSave, hStored', hLarge⟩ | ⟨hSave, hFull⟩⟩ :=
        saveScene_free hStored hFabric hEndpoint hValid hPlain hAbsent hAt hFind
      · rw [hCall _ (hSet.trans hSave)]
        refine ⟨_, .set f entry, h.change hStored' ?_⟩
        rw [h.endpoint]
        refine hMap.put entry.mStorageData hLt
          (fun j data hj => absurd (List.mem_of_getElem? hj) (hAbsent data)) fun x hx => ?_
        rw [hAt] at hx
        cases hx
      · rw [hCall _ (hSet.trans hSave)]
        exact ⟨spec, .setTooLarge hLarge,
          h.change hStored' (hMap.congr fun e' f' => slots.listOf_put_listOf sizes _ e' f f')⟩
      · rw [hCall _ (hSet.trans hSave)]
        refine .unchanged h (.setFull ?_ (.inr ?_))
        · rw [h.endpoint, hMap.eq_none_iff]
          exact hAbsent
        · rw [h.endpoint, hMap.endpointCount_eq hStored]
          exact hFull
    · have hSave : (tableData sizes st.mEndpointId f
          (slots.listOf sizes st.mEndpointId f)).saveScene entry st = (.error .noMemory, st) := by
        rw [FabricSceneData.saveScene, hFind]
        rfl
      rw [hCall _ (hSet.trans hSave)]
      refine .unchanged h (.setFull ?_ (.inl ?_))
      · rw [h.endpoint, hMap.eq_none_iff]
        exact hAbsent
      · rw [h.endpoint, hMap.fabricCount_eq hForm, sceneCountOf_full hFull, hForm.length]
  · obtain ⟨err, hLoad, hNotFound, hNoMemory⟩ := load_refused hKey.not sizes.mMaxScenesPerFabric
      sizes.mMaxScenesPerEndpoint st
    have hSet : setSceneTableEntry sizes f entry st = (.error err, st) := by
      have hFail : (fabricData sizes st.mEndpointId f).loadOrCleared st = (.error err, st) := by
        unfold FabricSceneData.loadOrCleared fabricData
        rw [Proc.attempt_bind, hLoad]
        simp only [hNotFound, ↓reduceIte, Proc.fail_apply]
      rw [setSceneTableEntry, Proc.read_bind, Proc.bind_error hFail]
    rw [hCall _ hSet]
    exact .unchanged h (.setRefused (by rw [h.endpoint]; exact hKey) hNoMemory)

variable {id : SceneStorageId}

theorem Refines.get (h : Refines sizes st spec) (f : UInt8) (hValid : id.isValid = true) :
  Simulates sizes endpoints st spec (.get f id) ((SceneOp.get f id).call sizes endpoints st) := by
  obtain ⟨slots, hStored, hMap⟩ := h.records
  have hCall : ∀ result, getSceneTableEntry sizes f id st = result →
      (SceneOp.get f id).call sizes endpoints st =
        (result.1.map SceneValue.entry, result.2) := by
    rintro result rfl
    exact Proc.bind_pure_apply ..
  rcases fabricData_load hStored st.mEndpointId f with ⟨l, hl, hLoad⟩ | ⟨hl, err, hLoad, hErr⟩
  · obtain rfl : slots.listOf sizes st.mEndpointId f = l := by simp [Slots.listOf, hl]
    rcases find_cases (hStored.wellFormed hl) hValid st.mEndpointId f with
      ⟨i, data, hAt, hFind⟩ | ⟨hAbsent, hFind⟩
    · have hSlot : slots.at st.mEndpointId f i = some (id, data) := by
        rw [← Slots.getElem?_listOf slots sizes, hAt]
        rfl
      have hGet : getSceneTableEntry sizes f id st = (.ok ⟨id, data⟩, st) := by
        rw [getSceneTableEntry, Proc.read_bind, Proc.bind_ok hLoad]
        simp only [hFind, Proc.attempt_bind, loadScene_some hStored hSlot]
        rfl
      rw [hCall _ hGet]
      refine .unchanged h (.get ?_)
      rw [h.endpoint, hMap]
      exact List.mem_of_getElem? hAt
    · have hGet : getSceneTableEntry sizes f id st = (.error .notFound, st) := by
        rw [getSceneTableEntry, Proc.read_bind, Proc.bind_ok hLoad]
        rcases hFind with ⟨i, -, hFind⟩ | ⟨-, hFind⟩
        · rw [hFind]
          rfl
        · rw [hFind]
          rfl
      rw [hCall _ hGet]
      refine .unchanged h (.getMissing ?_ (.inl rfl))
      rw [h.endpoint, hMap.eq_none_iff]
      exact hAbsent
  · have hGet : getSceneTableEntry sizes f id st = (.error err, st) := by
      rw [getSceneTableEntry, Proc.read_bind, Proc.bind_error hLoad]
    rw [hCall _ hGet]
    refine .unchanged h (.getMissing ?_ ?_)
    · rw [h.endpoint]
      exact hMap.eq_none_of_slots hl id
    · rw [h.endpoint]
      exact hErr.imp_right And.left

theorem removeScene_spec (hStored : Stored sizes slots st.storage) {m : SceneMap}
  (hMap : Represents sizes slots m) {l : List Slot} (hl : slots e f = some l)
  (hValid : id.isValid = true) :
  ∃ storage' slots' data', (tableData sizes e f l).removeScene id st =
      (.ok data', { st with storage := storage' }) ∧
    Stored sizes slots' storage' ∧
    Represents sizes slots' (m.without fun e' f' id' => e' = e ∧ f' = f ∧ id' = id) := by
  have hListOf : slots.listOf sizes e f = l := by simp [listOf, hl]
  have hForm := hStored.wellFormed hl
  rcases find_cases hForm hValid e f with ⟨i, data, hAt, -⟩ | ⟨hAbsent, -⟩
  · obtain ⟨storage', hRemove, hStored'⟩ := removeScene_found hStored hl hAt
    refine ⟨storage', _, _, hRemove, hStored', ?_⟩
    subst hListOf
    exact hMap.remove hForm hAt
  · refine ⟨st.storage, slots, _, removeScene_absent hForm hValid hAbsent e f st, hStored, ?_⟩
    rw [without_eq]
    · exact hMap
    · rintro e' f' id' ⟨rfl, rfl, rfl⟩
      rw [hMap.eq_none_iff, hListOf]
      exact hAbsent

theorem Refines.remove (h : Refines sizes st spec) (f : UInt8) (hValid : id.isValid = true) :
  Simulates sizes endpoints st spec (.remove f id)
    ((SceneOp.remove f id).call sizes endpoints st) := by
  obtain ⟨slots, hStored, hMap⟩ := h.records
  have hCall : ∀ result, removeSceneTableEntry sizes f id st = result →
      (SceneOp.remove f id).call sizes endpoints st =
        (result.1.map fun _ => SceneValue.done, result.2) := by
    rintro result rfl
    exact Proc.bind_pure_apply ..
  rcases fabricData_load hStored st.mEndpointId f with ⟨l, hl, hLoad⟩ | ⟨hl, err, hLoad, hErr⟩
  · obtain ⟨storage', slots', data', hRemove, hStored', hMap'⟩ :=
      removeScene_spec hStored hMap hl hValid
    have hOk : removeSceneTableEntry sizes f id st = (.ok (), { st with storage := storage' }) := by
      rw [removeSceneTableEntry, Proc.read_bind, Proc.bind_ok hLoad, Proc.bind_ok hRemove]
      rfl
    rw [hCall _ hOk]
    refine ⟨_, .remove f id, h.change hStored' ?_⟩
    rw [h.endpoint]
    exact hMap'
  · have hFail : removeSceneTableEntry sizes f id st = (.error err, st) := by
      rw [removeSceneTableEntry, Proc.read_bind, Proc.bind_error hLoad]
    rw [hCall _ hFail]
    refine .unchanged h (.removeMissing ?_ ?_)
    · rw [h.endpoint]
      exact hMap.eq_none_of_slots hl
    · rw [h.endpoint]
      exact hErr.imp_right And.left

theorem removeAt_spec (hStored : Stored sizes slots st.storage) {m : SceneMap}
  (hMap : Represents sizes slots m) {l : List Slot} (hl : slots e f = some l) (index : Nat) :
  ∃ storage' slots' l', removeSceneTableEntryAtPosition sizes e f index st =
      (.ok (), { st with storage := storage' }) ∧
    Stored sizes slots' storage' ∧ slots' e f = some l' ∧
    Represents sizes slots'
      (m.without fun e' f' id' => e' = e ∧ f' = f ∧ st.positions e f index = some id') ∧
    (∀ x, l'[index]? ≠ some (some x)) ∧ ∀ j : Nat, l'[j]? = l[j]? ∨ l'[j]? = some none := by
  obtain ⟨hFabric, hEndpoint⟩ := hStored.keys hl
  have hForm := hStored.wellFormed hl
  have hListOf : slots.listOf sizes e f = l := by simp [Slots.listOf, hl]
  have hLoad : (fabricData sizes e f).load st = (.ok (tableData sizes e f l), st) :=
    load_some hStored hl (Nat.le_refl _) sizes.perFabric
  have hPosition := positions_eq hStored e f index
  have hJoin := Slots.getElem?_listOf slots sizes e f index
  rw [hListOf] at hJoin
  cases hAt : slots.at e f index with
  | none =>
    rw [hAt] at hPosition hJoin
    refine ⟨st.storage, slots, l, ?_, hStored, hl, ?_, ?_, fun j => .inl rfl⟩
    · rw [removeSceneTableEntryAtPosition, Proc.bind_ok hLoad, Proc.attempt_bind,
        loadScene_none hStored hFabric hEndpoint hAt]
      rfl
    · rw [SceneMap.without_eq]
      · exact hMap
      · rintro e' f' id' ⟨-, -, hSome⟩
        rw [hPosition] at hSome
        cases hSome
    · intro x hx
      rw [hx] at hJoin
      cases hJoin
  | some x =>
    rw [hAt] at hPosition hJoin
    have hGet : l[index]? = some (some x) := by
      cases hGet : l[index]? with
      | none =>
        rw [hGet] at hJoin
        cases hJoin
      | some s =>
        rw [hGet] at hJoin
        exact congrArg some hJoin
    obtain ⟨storage', hRemove, hStored'⟩ := removeScene_found hStored hl hGet
    refine ⟨storage', _, l.set index none, ?_, hStored', Slots.put_self, ?_, ?_, ?_⟩
    · rw [removeSceneTableEntryAtPosition, Proc.bind_ok hLoad, Proc.attempt_bind,
        loadScene_some hStored hAt]
      exact Proc.bind_ok hRemove
    · have hSame : (fun (e' : UInt16) (f' : UInt8) (id' : SceneStorageId) => e' = e ∧ f' = f ∧
          st.positions e f index = some id') = fun e' f' id' => e' = e ∧ f' = f ∧ id' = x.1 := by
        funext e' f' id'
        rw [hPosition]
        simp [eq_comm]
      rw [hSame]
      subst hListOf
      exact hMap.remove hForm hGet
    · intro y hy
      rw [List.getElem?_set_self (List.getElem?_eq_some_iff.mp hGet).1] at hy
      cases hy
    · intro j
      by_cases hEq : index = j
      · subst hEq
        exact .inr (List.getElem?_set_self (List.getElem?_eq_some_iff.mp hGet).1)
      · exact .inl (List.getElem?_set_ne hEq)

theorem Refines.removeAt (h : Refines sizes st spec) (e : UInt16) (f : UInt8) (index : Nat) :
  Simulates sizes endpoints st spec (.removeAt e f index)
    ((SceneOp.removeAt e f index).call sizes endpoints st) := by
  obtain ⟨slots, hStored, hMap⟩ := h.records
  have hCall : ∀ result, removeSceneTableEntryAtPosition sizes e f index st = result →
      (SceneOp.removeAt e f index).call sizes endpoints st =
        (result.1.map fun _ => SceneValue.done, result.2) := by
    rintro result rfl
    exact Proc.bind_pure_apply ..
  rcases fabricData_load hStored e f with ⟨l, hl, -⟩ | ⟨hl, err, hLoad, hErr⟩
  · obtain ⟨storage', slots', l', hOk, hStored', -, hMap', -⟩ := removeAt_spec hStored hMap hl index
    rw [hCall _ hOk]
    exact ⟨_, .removeAt e f index, h.change hStored' hMap'⟩
  · have hFail : removeSceneTableEntryAtPosition sizes e f index st = (.error err, st) := by
      rw [removeSceneTableEntryAtPosition, Proc.bind_error hLoad]
    rw [hCall _ hFail]
    exact .unchanged h (.removeAtMissing (hMap.eq_none_of_slots hl) (hErr.imp_right And.left))

end Calls
end Chip.Scenes
