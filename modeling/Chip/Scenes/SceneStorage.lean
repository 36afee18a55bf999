import Mathlib.Algebra.BigOperators.Group.Finset.Basic
import Mathlib.Data.FinEnum
import Chip.Scenes.SceneRecords
import Chip.Scenes.SceneTable

/-! What the three kinds of records hold together: for every endpoint and fabric a list of
slots, each free or with a scene. Every call on one record is described on the slots. -/
namespace Chip.Scenes

open FabricSceneData Proc List TLV

/-- A slot of the scene map with the scene that is stored for it. -/
abbrev Slot := Option (SceneStorageId × SceneData)

def Slot.id : Slot → SceneStorageId
  | none => .cleared
  | some x => x.1

/-- The slots of every fabric that has a record, for each endpoint. -/
abbrev Slots := UInt16 → UInt8 → Option (List Slot)

def sceneCountOf (slots : List Slot) : Nat := slots.countP Option.isSome

def Slots.total (slots : Slots) (endpoint : UInt16) : Nat :=
  ∑ fabric : UInt8, ((slots endpoint fabric).map sceneCountOf).getD 0

def Slots.at (slots : Slots) (endpoint : UInt16) (fabric : UInt8) (index : Nat) : Slot :=
  ((slots endpoint fabric).bind fun l => l[index]?).join

def sceneBytes (x : SceneStorageId × SceneData) : Bytes := (serializeScene ⟨x.1, x.2⟩).bytes

structure WellFormed (sizes : TableSizes) (l : List Slot) : Prop where
  length : l.length = sizes.mMaxScenesPerFabric
  valid : ∀ x, some x ∈ l → x.1.isValid = true
  plain : ∀ x, some x ∈ l → x.2.Plain
  fits : ∀ x, some x ∈ l → (sceneBytes x).length ≤ persistentSceneBufferMax
  unique : ∀ {i j : Nat} {x y : SceneStorageId × SceneData}, l[i]? = some (some x) →
    l[j]? = some (some y) → x.1 = y.1 → i = j

structure Stored (sizes : TableSizes) (slots : Slots) (storage : SceneKey → Option Bytes) : Prop where
  fabric : ∀ f e, storage (.fabricSceneData f e) = (slots e f).map fun l =>
    (serializeFabric (UInt8.ofNat (sceneCountOf l)) (l.map Slot.id)).bytes
  scene : ∀ f e i, storage (.fabricScene f e i) = (slots.at e f i).map sceneBytes
  count : ∀ e, storage (.endpointSceneCount e) =
      some (serializeCount (UInt8.ofNat (slots.total e))).bytes ∨
    storage (.endpointSceneCount e) = none ∧ slots.total e = 0
  wellFormed : ∀ {e f l}, slots e f = some l → WellFormed sizes l
  keys : ∀ {e f l}, slots e f = some l → f ≠ undefinedFabricIndex ∧ e ≠ invalidEndpointId
  total : ∀ e, slots.total e ≤ sizes.mMaxScenesPerEndpoint

section Calls

variable {sizes : TableSizes} {slots : Slots} {st : SceneTable} {e : UInt16} {f : UInt8}

def SceneTable.write (st : SceneTable) (key : SceneKey) (value : Option Bytes) : SceneTable :=
  { st with storage := Function.update st.storage key value }

variable {key : SceneKey} {size : Nat} {l : List Slot}

theorem saveRecord_ok {elements : Elements} (hLegal : elements.Legal .notSpecified)
  (hFits : elements.bytes.length ≤ size) (hSize : size < 2 ^ 32) (st : SceneTable) :
  saveRecord (.ok key) size elements st = (.ok (), st.write key (some elements.bytes)) := by
  simp only [saveRecord, bind_apply, lift_apply, encodeInto_of_fits hLegal hFits hSize]
  rfl

theorem loadValue_some {value : Bytes} (h : st.storage key = some value) (hFits : value.length ≤ size) :
  loadValue (.ok key) size st = (.ok value, st) := by
  simp [loadValue, bind_apply, syncGetKeyValue, h, hFits]

theorem loadValue_none (h : st.storage key = none) :
  loadValue (.ok key) size st = (.error .notFound, st) := by
  simp [loadValue, bind_apply, syncGetKeyValue, h]

theorem loadRecord_some {α : Type} {elements : Elements} {deserialize : ReaderM α} {a : α}
  (h : st.storage key = some elements.bytes) (hFits : elements.bytes.length ≤ size)
  (hSize : size < 2 ^ 32) (hRead : ∀ r, Before .notSpecified profileIdNotSpecified elements.bytes.length
    (elements.bytes ++ []) r → ∃ r', deserialize r = (.ok a, r')) :
  loadRecord (.ok key) size deserialize st = (.ok a, st) := by
  have hBefore := before_init elements (by omega)
  obtain ⟨r', hOk⟩ := hRead _ hBefore
  rw [loadRecord, bind_ok (loadValue_some h hFits), lift_apply, hOk]

theorem loadRecord_none {α : Type} {deserialize : ReaderM α} (h : st.storage key = none) :
  loadRecord (.ok key) size deserialize st = (.error .notFound, st) :=
  bind_error (loadValue_none h)

theorem endpointSceneCountKey_ok (hEndpoint : e ≠ invalidEndpointId) :
  endpointSceneCountKey e = .ok (.endpointSceneCount e) := if_pos hEndpoint

theorem checkedKey_ok (hFabric : f ≠ undefinedFabricIndex) (hEndpoint : e ≠ invalidEndpointId) :
  checkedKey f e key = .ok key := by
  rw [checkedKey, if_neg hFabric, if_neg hEndpoint]

theorem loadCount_ok (h : Stored sizes slots st.storage) (hEndpoint : e ≠ invalidEndpointId) :
  loadCount e st = (.ok (UInt8.ofNat (slots.total e)), st) := by
  unfold loadCount
  rw [endpointSceneCountKey_ok hEndpoint, attempt_bind]
  rcases h.count e with hSome | ⟨hNone, hZero⟩
  · have hLength := serializeCount_length (UInt8.ofNat (slots.total e))
    rw [loadRecord_some hSome (by simp only [persistentBufferSceneCountBytes]; omega) (by decide)
      fun r hBefore => deserializeCount_before _ hBefore]
    rfl
  · rw [loadRecord_none hNone, hZero]
    rfl

theorem saveCount_ok (hEndpoint : e ≠ invalidEndpointId) (n : UInt8) (st : SceneTable) :
  saveCount e n st =
    (.ok (), st.write (.endpointSceneCount e) (some (serializeCount n).bytes)) := by
  have hLength := serializeCount_length n
  rw [saveCount, endpointSceneCountKey_ok hEndpoint]
  exact saveRecord_ok (serializeCount_legal n)
    (by simp only [persistentBufferSceneCountBytes]; omega) (by decide) st

theorem loadScene_some (h : Stored sizes slots st.storage) {index : Nat}
  {x : SceneStorageId × SceneData} (hAt : slots.at e f index = some x) :
  loadScene f e index st = (.ok ⟨x.1, x.2⟩, st) := by
  obtain ⟨l, hl, hMem⟩ : ∃ l, slots e f = some l ∧ some x ∈ l := by
    cases hl : slots e f with
    | none => simp [Slots.at, hl] at hAt
    | some l =>
      refine ⟨l, rfl, ?_⟩
      simp only [Slots.at, hl, Option.bind_some, Option.join_eq_some_iff] at hAt
      exact mem_of_getElem? hAt
  obtain ⟨hFabric, hEndpoint⟩ := h.keys hl
  have hFits := (h.wellFormed hl).fits x hMem
  have hStored : st.storage (.fabricScene f e index) = some (serializeScene ⟨x.1, x.2⟩).bytes := by
    rw [h.scene, hAt]
    rfl
  rw [loadScene, sceneKey, checkedKey_ok hFabric hEndpoint]
  have hPlain := ((h.wellFormed hl).plain x hMem).stored_eq
  refine loadRecord_some hStored hFits (by decide) fun r hBefore => ?_
  obtain ⟨r', hOk⟩ := deserializeScene_before _ hBefore
  rw [hPlain] at hOk
  exact ⟨r', hOk⟩

theorem loadScene_none (h : Stored sizes slots st.storage) {index : Nat}
  (hFabric : f ≠ undefinedFabricIndex) (hEndpoint : e ≠ invalidEndpointId)
  (hAt : slots.at e f index = none) : loadScene f e index st = (.error .notFound, st) := by
  have hStored : st.storage (.fabricScene f e index) = none := by
    rw [h.scene, hAt]
    rfl
  rw [loadScene, sceneKey, checkedKey_ok hFabric hEndpoint]
  exact loadRecord_none hStored

theorem saveSceneRecord_spec (hFabric : f ≠ undefinedFabricIndex) (hEndpoint : e ≠ invalidEndpointId)
  (index : Nat) (entry : SceneTableEntry) (st : SceneTable) :
  (saveSceneRecord f e index entry st =
      (.ok (), st.write (.fabricScene f e index) (some (serializeScene entry).bytes)) ∧
    (serializeScene entry).bytes.length ≤ persistentSceneBufferMax) ∨
  (saveSceneRecord f e index entry st = (.error .bufferTooSmall, st) ∧
    persistentSceneBufferMax < (serializeScene entry).bytes.length) := by
  rw [saveSceneRecord, sceneKey, checkedKey_ok hFabric hEndpoint]
  by_cases hFits : (serializeScene entry).bytes.length ≤ persistentSceneBufferMax
  · exact .inl ⟨saveRecord_ok (serializeScene_legal entry) hFits (by decide) st, hFits⟩
  · refine .inr ⟨?_, Nat.lt_of_not_le hFits⟩
    have hLength := serializeScene_length entry
    cases hEncode : encodeInto persistentSceneBufferMax (serializeScene entry) with
    | ok bytes =>
      obtain ⟨hBytes, hSize, -⟩ := encodeInto_ok hEncode
      exact absurd (hBytes ▸ hSize) hFits
    | error err =>
      have hError := encodeInto_error (serializeScene_legal entry)
        (by simp only [persistentSceneBufferMax]; omega) hEncode
      simp only [saveRecord, bind_apply, lift_apply, hEncode, hError]

theorem deleteSceneRecord_some (h : Stored sizes slots st.storage) {index : Nat}
  {x : SceneStorageId × SceneData} (hFabric : f ≠ undefinedFabricIndex)
  (hEndpoint : e ≠ invalidEndpointId) {st' : SceneTable}
  (hSame : st'.storage (.fabricScene f e index) = st.storage (.fabricScene f e index))
  (hAt : slots.at e f index = some x) :
  deleteSceneRecord f e index st' = (.ok (), st'.write (.fabricScene f e index) none) := by
  have hStored : st'.storage (.fabricScene f e index) = some (sceneBytes x) := by
    rw [hSame, h.scene, hAt]
    rfl
  simp only [deleteSceneRecord, sceneKey, checkedKey_ok hFabric hEndpoint, bind_apply,
    lift_apply, syncDeleteKeyValue, read_apply, hStored]
  rfl

/-- The fabric data for a list of slots, in a map of `maxPerFabric` slots. -/
def dataOf (e : UInt16) (f : UInt8) (maxPerFabric maxPerEndpoint : Nat) (l : List Slot) :
  FabricSceneData :=
  ⟨e, f, maxPerFabric, maxPerEndpoint, UInt8.ofNat (sceneCountOf l),
    l.map Slot.id ++ List.replicate (maxPerFabric - l.length) .cleared⟩

theorem sceneCountOf_le (l : List Slot) : sceneCountOf l ≤ l.length := countP_le_length

theorem WellFormed.length_le (h : WellFormed sizes l) : l.length ≤ maxScenesPerFabric := by
  rw [h.length]
  exact sizes.perFabric

theorem toNat_sceneCount (h : l.length ≤ maxScenesPerFabric) :
  (UInt8.ofNat (sceneCountOf l)).toNat = sceneCountOf l := by
  have hLe := sceneCountOf_le l
  simp only [maxScenesPerFabric] at h
  exact UInt8.toNat_ofNat_of_lt' (by simp only [UInt8.size]; omega)

theorem min_sceneCount {n : Nat} (h : l.length ≤ n) (hn : n ≤ maxScenesPerFabric) :
  min (UInt8.ofNat (sceneCountOf l)) (UInt8.ofNat n) = UInt8.ofNat (sceneCountOf l) := by
  have hCount := toNat_sceneCount (Nat.le_trans h hn)
  have hLe := sceneCountOf_le l
  have hMax : (UInt8.ofNat n).toNat = n := by
    simp only [maxScenesPerFabric] at hn
    exact UInt8.toNat_ofNat_of_lt' (by simp only [UInt8.size]; omega)
  refine if_pos ?_
  rw [UInt8.le_iff_toNat_le, hCount, hMax]
  omega

theorem load_some (h : Stored sizes slots st.storage) (hl : slots e f = some l)
  {maxPerFabric maxPerEndpoint : Nat} (hMax : sizes.mMaxScenesPerFabric ≤ maxPerFabric)
  (hLimit : maxPerFabric ≤ maxScenesPerFabric) :
  (cleared e f maxPerFabric maxPerEndpoint).load st =
    (.ok (dataOf e f maxPerFabric maxPerEndpoint l), st) := by
  obtain ⟨hFabric, hEndpoint⟩ := h.keys hl
  have hForm := h.wellFormed hl
  have hLength : l.length ≤ maxPerFabric := hForm.length ▸ hMax
  have hStored : st.storage (.fabricSceneData f e) =
      some (serializeFabric (UInt8.ofNat (sceneCountOf l)) (l.map Slot.id)).bytes := by
    rw [h.fabric, hl]
    rfl
  have hBytes := serializeFabric_length (UInt8.ofNat (sceneCountOf l)) (l.map Slot.id)
  have hSmall := hForm.length_le
  simp only [maxScenesPerFabric] at hSmall
  rw [length_map] at hBytes
  have hBefore := before_init (serializeFabric (UInt8.ofNat (sceneCountOf l)) (l.map Slot.id))
    (by omega)
  obtain ⟨r₁, r₂, r₃, r₄, hCount, hMap, hExit₁, hExit₂⟩ := deserializeFabric_before _ _
    (serializeFabric_fuel (UInt8.ofNat (sceneCountOf l)) (l.map Slot.id)) hBefore
  have hTake : (l.map Slot.id).take maxPerFabric = l.map Slot.id :=
    take_of_length_le (by rw [length_map]; exact hLength)
  have hLeave : leaveContainers .notSpecified .struct (.ok r₂) = .ok () := by
    simp only [leaveContainers, bind_ok hExit₁, hExit₂]
  have hKey : (cleared e f maxPerFabric maxPerEndpoint).key =
      .ok (.fabricSceneData f e) := checkedKey_ok hFabric hEndpoint
  unfold load
  rw [hKey, bind_ok (loadValue_some hStored
    (by simp only [persistentFabricBufferMax]; omega)), hCount]
  simp only [hMap]
  have hNone : (l.map Slot.id).length - maxPerFabric = 0 := by
    rw [length_map]
    omega
  change (deleteSurplus _ maxPerFabric ((l.map Slot.id).length - maxPerFabric) >>= _)
    st = _
  rw [hNone, deleteSurplus, pure_bind_apply]
  simp only [ne_eq, not_true_eq_false, ↓reduceIte, bind_apply, lift_apply,
    hLeave, pure_apply]
  simp only [cleared, dataOf, hTake, length_map, min_sceneCount hLength hLimit]

theorem load_none (h : Stored sizes slots st.storage) (hFabric : f ≠ undefinedFabricIndex)
  (hEndpoint : e ≠ invalidEndpointId) (hNone : slots e f = none) (maxPerFabric maxPerEndpoint : Nat) :
  (cleared e f maxPerFabric maxPerEndpoint).load st = (.error .notFound, st) := by
  have hStored : st.storage (.fabricSceneData f e) = none := by
    rw [h.fabric, hNone]
    rfl
  have hKey : (cleared e f maxPerFabric maxPerEndpoint).key =
      .ok (.fabricSceneData f e) := checkedKey_ok hFabric hEndpoint
  unfold load
  rw [hKey]
  exact bind_error (loadValue_none hStored)

theorem load_refused (hKey : ¬ (f ≠ undefinedFabricIndex ∧ e ≠ invalidEndpointId))
  (maxPerFabric maxPerEndpoint : Nat) (st : SceneTable) :
  ∃ err, (cleared e f maxPerFabric maxPerEndpoint).load st = (.error err, st) ∧
    err ≠ .notFound ∧ err ≠ .noMemory := by
  have hRefused : ∃ err, checkedKey f e (.fabricSceneData f e) = .error err ∧ err ≠ .notFound ∧
      err ≠ .noMemory := by
    unfold checkedKey
    by_cases hFabric : f = undefinedFabricIndex
    · exact ⟨.invalidFabricIndex, if_pos hFabric, by decide, by decide⟩
    · have hEndpoint : e = invalidEndpointId := by
        by_contra hNe
        exact hKey ⟨hFabric, hNe⟩
      exact ⟨.invalidArgument, by rw [if_neg hFabric, if_pos hEndpoint], by decide, by decide⟩
  obtain ⟨err, hErr, hNe⟩ := hRefused
  refine ⟨err, ?_, hNe⟩
  have hFail : (cleared e f maxPerFabric maxPerEndpoint).key = .error err := hErr
  simp only [load, loadValue, hFail, bind_apply, lift_apply]

def Slots.listOf (slots : Slots) (sizes : TableSizes) (e : UInt16) (f : UInt8) : List Slot :=
  (slots e f).getD (List.replicate sizes.mMaxScenesPerFabric none)

theorem wellFormed_free (sizes : TableSizes) :
  WellFormed sizes (replicate sizes.mMaxScenesPerFabric none) where
  length := length_replicate
  valid := fun x hMem => by cases eq_of_mem_replicate hMem
  plain := fun x hMem => by cases eq_of_mem_replicate hMem
  fits := fun x hMem => by cases eq_of_mem_replicate hMem
  unique := fun hi _ _ => by cases eq_of_mem_replicate (mem_of_getElem? hi)

theorem Stored.wellFormed_listOf (h : Stored sizes slots st.storage) (e : UInt16) (f : UInt8) :
  WellFormed sizes (slots.listOf sizes e f) := by
  unfold Slots.listOf
  cases hl : slots e f with
  | none => exact wellFormed_free sizes
  | some l => exact h.wellFormed hl

theorem dataOf_table (sizes : TableSizes) (h : l.length = sizes.mMaxScenesPerFabric) (e : UInt16)
  (f : UInt8) : dataOf e f sizes.mMaxScenesPerFabric sizes.mMaxScenesPerEndpoint l =
    ⟨e, f, sizes.mMaxScenesPerFabric, sizes.mMaxScenesPerEndpoint, UInt8.ofNat (sceneCountOf l),
      l.map Slot.id⟩ := by
  simp [dataOf, h]

theorem loadOrCleared_ok (h : Stored sizes slots st.storage) (hFabric : f ≠ undefinedFabricIndex)
  (hEndpoint : e ≠ invalidEndpointId) :
  (fabricData sizes e f).loadOrCleared st =
    (.ok (dataOf e f sizes.mMaxScenesPerFabric sizes.mMaxScenesPerEndpoint
      (slots.listOf sizes e f)), st) := by
  unfold loadOrCleared fabricData
  rw [attempt_bind]
  cases hl : slots e f with
  | none =>
    rw [load_none h hFabric hEndpoint hl]
    simp [Slots.listOf, hl, dataOf, cleared, sceneCountOf, Slot.id,
      countP_replicate]
  | some l =>
    rw [load_some h hl (Nat.le_refl _) sizes.perFabric]
    simp [Slots.listOf, hl]

theorem save_ok (hFabric : f ≠ undefinedFabricIndex) (hEndpoint : e ≠ invalidEndpointId)
  (h : l.length = sizes.mMaxScenesPerFabric) {data : FabricSceneData}
  (hData : data = dataOf e f sizes.mMaxScenesPerFabric sizes.mMaxScenesPerEndpoint l) (st : SceneTable) :
  data.save st = (.ok (), st.write (.fabricSceneData f e)
    (some (serializeFabric (UInt8.ofNat (sceneCountOf l)) (l.map Slot.id)).bytes)) := by
  rw [dataOf_table sizes h] at hData
  subst hData
  have hLength := serializeFabric_length (UInt8.ofNat (sceneCountOf l)) (l.map Slot.id)
  have hSmall := sizes.perFabric
  simp only [maxScenesPerFabric] at hSmall
  rw [length_map] at hLength
  have hKey : key ⟨e, f, sizes.mMaxScenesPerFabric, sizes.mMaxScenesPerEndpoint,
      UInt8.ofNat (sceneCountOf l), l.map Slot.id⟩ = .ok (.fabricSceneData f e) :=
    checkedKey_ok hFabric hEndpoint
  rw [save, hKey]
  exact saveRecord_ok (serializeFabric_legal _ _)
    (by simp only [persistentFabricBufferMax]; omega) (by decide) st

end Calls

section Find

variable {l : List Slot} {target : SceneStorageId}

theorem findLoop_some (hTarget : target.isValid = true) (l : List Slot) (index firstFree : Nat) :
  (∃ i data, l[i]? = some (some (target, data)) ∧
    findLoop target (l.map Slot.id) index (some firstFree) = .found (index + i)) ∨
  (∀ data, some (target, data) ∉ l) ∧
    findLoop target (l.map Slot.id) index (some firstFree) =
      .notFound firstFree := by
  induction l generalizing index with
  | nil => exact .inr ⟨by simp, rfl⟩
  | cons s rest ih =>
    have hStep : Slot.id s ≠ target →
        findLoop target ((s :: rest).map Slot.id) index (some firstFree) =
          findLoop target (rest.map Slot.id) (index + 1) (some firstFree) := by
      intro hNe
      simp [findLoop, hNe]
    by_cases hId : Slot.id s = target
    · cases s with
      | none =>
        rw [← hId] at hTarget
        cases hTarget
      | some x =>
        obtain ⟨id, data⟩ := x
        obtain rfl : id = target := hId
        refine .inl ⟨0, data, rfl, ?_⟩
        simp [findLoop, Slot.id]
    · rw [hStep hId]
      rcases ih (index + 1) with ⟨i, data, hAt, hFind⟩ | ⟨hNone, hFind⟩
      · refine .inl ⟨i + 1, data, hAt, ?_⟩
        rw [hFind, Nat.add_right_comm, Nat.add_assoc]
      · refine .inr ⟨?_, hFind⟩
        intro data hMem
        rcases mem_cons.mp hMem with hHead | hRest
        · exact hId (by rw [← hHead]; rfl)
        · exact hNone data hRest

theorem findLoop_none (hTarget : target.isValid = true) (l : List Slot)
  (hValid : ∀ x, some x ∈ l → x.1.isValid = true) (index : Nat) :
  (∃ i data, l[i]? = some (some (target, data)) ∧
    findLoop target (l.map Slot.id) index none = .found (index + i)) ∨
  (∀ data, some (target, data) ∉ l) ∧
    ((∃ i, l[i]? = some none ∧
        findLoop target (l.map Slot.id) index none = .notFound (index + i)) ∨
      (∀ s ∈ l, s ≠ none) ∧
        findLoop target (l.map Slot.id) index none = .noMemory) := by
  induction l generalizing index with
  | nil => exact .inr ⟨by simp, .inr ⟨by simp, rfl⟩⟩
  | cons s rest ih =>
    cases s with
    | none =>
      have hNe : SceneStorageId.cleared ≠ target := by
        rintro rfl
        cases hTarget
      have hFree : SceneStorageId.cleared.isValid = false := rfl
      have hStep : findLoop target ((none :: rest).map Slot.id) index none =
          findLoop target (rest.map Slot.id) (index + 1) (some index) := by
        simp [findLoop, Slot.id, hNe, hFree]
      rw [hStep]
      rcases findLoop_some hTarget rest (index + 1) index with ⟨i, data, hAt, hFind⟩ |
        ⟨hNone, hFind⟩
      · refine .inl ⟨i + 1, data, hAt, ?_⟩
        rw [hFind, Nat.add_right_comm, Nat.add_assoc]
      · exact .inr ⟨by simpa using hNone, .inl ⟨0, rfl, hFind⟩⟩
    | some x =>
      obtain ⟨id, data⟩ := x
      by_cases hId : id = target
      · subst hId
        refine .inl ⟨0, data, rfl, ?_⟩
        simp [findLoop, Slot.id]
      · have hUsed : id.isValid = true := hValid (id, data) mem_cons_self
        have hStep : findLoop target ((some (id, data) :: rest).map Slot.id)
            index none = findLoop target (rest.map Slot.id) (index + 1) none := by
          simp [findLoop, Slot.id, hId, hUsed]
        rw [hStep]
        rcases ih (fun y hy => hValid y (mem_cons_of_mem _ hy)) (index + 1) with
          ⟨i, data', hAt, hFind⟩ | ⟨hNone, ⟨i, hAt, hFind⟩ | ⟨hFull, hFind⟩⟩
        · refine .inl ⟨i + 1, data', hAt, ?_⟩
          rw [hFind, Nat.add_right_comm, Nat.add_assoc]
        · refine .inr ⟨?_, .inl ⟨i + 1, hAt, ?_⟩⟩
          · intro data' hMem
            rcases mem_cons.mp hMem with hHead | hRest
            · cases hHead
              exact hId rfl
            · exact hNone data' hRest
          · rw [hFind, Nat.add_right_comm, Nat.add_assoc]
        · refine .inr ⟨?_, .inr ⟨?_, hFind⟩⟩
          · intro data' hMem
            rcases mem_cons.mp hMem with hHead | hRest
            · cases hHead
              exact hId rfl
            · exact hNone data' hRest
          · intro s hs
            rcases mem_cons.mp hs with rfl | hRest
            · exact Option.some_ne_none _
            · exact hFull s hRest

theorem find_cases {sizes : TableSizes} (h : WellFormed sizes l) (hTarget : target.isValid = true)
  (e : UInt16) (f : UInt8) :
  (∃ i data, l[i]? = some (some (target, data)) ∧
    (dataOf e f sizes.mMaxScenesPerFabric sizes.mMaxScenesPerEndpoint l).find target = .found i) ∨
  (∀ data, some (target, data) ∉ l) ∧
    ((∃ i, l[i]? = some none ∧
        (dataOf e f sizes.mMaxScenesPerFabric sizes.mMaxScenesPerEndpoint l).find target =
          .notFound i) ∨
      (∀ s ∈ l, s ≠ none) ∧
        (dataOf e f sizes.mMaxScenesPerFabric sizes.mMaxScenesPerEndpoint l).find target =
          .noMemory) := by
  have hCases := findLoop_none hTarget l h.valid 0
  simp only [Nat.zero_add] at hCases
  rw [dataOf_table sizes h.length]
  exact hCases

end Find
end Chip.Scenes
