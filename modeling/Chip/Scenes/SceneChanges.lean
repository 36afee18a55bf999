import Mathlib.Algebra.Order.BigOperators.Group.Finset
import Chip.Scenes.SceneStorage

/-! What the calls that change scenes do to the slots. A call replaces the slots of one
fabric on one endpoint, or leaves all of them. -/
namespace Chip.Scenes

open Slots List FabricSceneData TLV

def scenesOf (o : Option (List Slot)) : Nat := (o.map sceneCountOf).getD 0

def Slots.put (slots : Slots) (e : UInt16) (f : UInt8) (o : Option (List Slot)) : Slots :=
  Function.update slots e (Function.update (slots e) f o)

section Put

variable {sizes : TableSizes} {slots : Slots} {e : UInt16} {f : UInt8} {o : Option (List Slot)}

@[simp] theorem Slots.put_self : slots.put e f o e f = o := by
  simp [put]

theorem Slots.put_of_ne {e' : UInt16} {f' : UInt8} (h : ¬ (e' = e ∧ f' = f)) :
  slots.put e f o e' f' = slots e' f' := by
  unfold put
  by_cases he : e' = e
  · subst he
    have hf : f' ≠ f := fun hf => h ⟨rfl, hf⟩
    rw [Function.update_self, Function.update_of_ne hf]
  · rw [Function.update_of_ne he]

theorem Slots.at_put_self (i : Nat) :
  (slots.put e f o).at e f i = (o.bind fun l => l[i]?).join := by
  simp [Slots.at]

theorem Slots.at_put_of_ne {e' : UInt16} {f' : UInt8} (h : ¬ (e' = e ∧ f' = f)) (i : Nat) :
  (slots.put e f o).at e' f' i = slots.at e' f' i := by
  simp [Slots.at, Slots.put_of_ne h]

theorem Slots.total_put_of_ne {e' : UInt16} (h : e' ≠ e) :
  (slots.put e f o).total e' = slots.total e' := by
  refine Finset.sum_congr rfl fun f' _ => ?_
  rw [put_of_ne fun hEq => h hEq.1]

theorem Slots.total_put (slots : Slots) (e : UInt16) (f : UInt8) (o : Option (List Slot)) :
  (slots.put e f o).total e + scenesOf (slots e f) = slots.total e + scenesOf o := by
  have hOld : slots.total e = scenesOf (slots e f) +
      ∑ f' ∈ Finset.univ.erase f, scenesOf (slots e f') :=
    (Finset.add_sum_erase Finset.univ (fun f' => scenesOf (slots e f')) (Finset.mem_univ f)).symm
  have hNew : (slots.put e f o).total e = scenesOf o +
      ∑ f' ∈ Finset.univ.erase f, scenesOf (slots.put e f o e f') := by
    have hSum := Finset.add_sum_erase Finset.univ (fun f' => scenesOf (slots.put e f o e f'))
      (Finset.mem_univ f)
    simp only [put_self] at hSum
    exact hSum.symm
  have hRest : ∑ f' ∈ Finset.univ.erase f, scenesOf (slots.put e f o e f') =
      ∑ f' ∈ Finset.univ.erase f, scenesOf (slots e f') := by
    refine Finset.sum_congr rfl fun f' hf' => ?_
    rw [put_of_ne fun hEq => Finset.ne_of_mem_erase hf' hEq.2]
  omega

theorem Slots.scenesOf_eq (sizes : TableSizes) :
  scenesOf (slots e f) = sceneCountOf (slots.listOf sizes e f) := by
  unfold listOf scenesOf
  cases slots e f with
  | none => simp [sceneCountOf, countP_replicate]
  | some l => rfl

theorem scenesOf_le_total (slots : Slots) (e : UInt16) (f : UInt8) :
  scenesOf (slots e f) ≤ slots.total e :=
  Finset.single_le_sum (f := fun f' => scenesOf (slots e f')) (fun _ _ => Nat.zero_le _)
    (Finset.mem_univ f)

/-- The records of one fabric on one endpoint, and the count of the endpoint. -/
def SceneKey.Of (e : UInt16) (f : UInt8) : SceneKey → Prop
  | .endpointSceneCount e' => e' = e
  | .fabricSceneData f' e' => e' = e ∧ f' = f
  | .fabricScene f' e' _ => e' = e ∧ f' = f

theorem Stored.put {storage storage' : SceneKey → Option Bytes} (h : Stored sizes slots storage)
  (hOther : ∀ key, ¬ key.Of e f → storage' key = storage key)
  (hFabric : storage' (.fabricSceneData f e) = o.map fun l =>
    (serializeFabric (UInt8.ofNat (sceneCountOf l)) (l.map Slot.id)).bytes)
  (hScene : ∀ i, storage' (.fabricScene f e i) =
    ((o.bind fun l => l[i]?).join).map sceneBytes)
  (hCount : storage' (.endpointSceneCount e) =
      some (serializeCount (UInt8.ofNat ((slots.put e f o).total e))).bytes ∨
    storage' (.endpointSceneCount e) = none ∧ (slots.put e f o).total e = 0)
  (hForm : ∀ l, o = some l → WellFormed sizes l)
  (hKeys : ∀ l, o = some l → f ≠ undefinedFabricIndex ∧ e ≠ invalidEndpointId)
  (hTotal : (slots.put e f o).total e ≤ sizes.mMaxScenesPerEndpoint) :
  Stored sizes (slots.put e f o) storage' where
  fabric := by
    intro f' e'
    by_cases hEq : e' = e ∧ f' = f
    · obtain ⟨rfl, rfl⟩ := hEq
      rw [hFabric, Slots.put_self]
    · rw [hOther (.fabricSceneData f' e') hEq, Slots.put_of_ne hEq, h.fabric]
  scene := by
    intro f' e' i
    by_cases hEq : e' = e ∧ f' = f
    · obtain ⟨rfl, rfl⟩ := hEq
      rw [hScene, Slots.at_put_self]
    · rw [hOther (.fabricScene f' e' i) hEq, Slots.at_put_of_ne hEq, h.scene]
  count := by
    intro e'
    by_cases hEq : e' = e
    · subst hEq
      exact hCount
    · rw [hOther (.endpointSceneCount e') hEq, Slots.total_put_of_ne hEq]
      exact h.count e'
  wellFormed := by
    intro e' f' l hl
    by_cases hEq : e' = e ∧ f' = f
    · obtain ⟨rfl, rfl⟩ := hEq
      exact hForm l (Slots.put_self.symm.trans hl)
    · rw [Slots.put_of_ne hEq] at hl
      exact h.wellFormed hl
  keys := by
    intro e' f' l hl
    by_cases hEq : e' = e ∧ f' = f
    · obtain ⟨rfl, rfl⟩ := hEq
      exact hKeys l (Slots.put_self.symm.trans hl)
    · rw [Slots.put_of_ne hEq] at hl
      exact h.keys hl
  total := by
    intro e'
    by_cases hEq : e' = e
    · subst hEq
      exact hTotal
    · rw [Slots.total_put_of_ne hEq]
      exact h.total e'

end Put

section Set

variable {sizes : TableSizes} {l : List Slot} {i : Nat} {s : Slot}

def Slot.count (s : Slot) : Nat := if s.isSome then 1 else 0

theorem sceneCountOf_cons (s : Slot) (l : List Slot) :
  sceneCountOf (s :: l) = sceneCountOf l + s.count := by
  unfold sceneCountOf Slot.count
  rw [List.countP_cons]

theorem sceneCountOf_set (h : l[i]? = some s) (s' : Slot) :
  sceneCountOf (l.set i s') + s.count = sceneCountOf l + s'.count := by
  induction l generalizing i with
  | nil => cases h
  | cons t rest ih =>
    cases i with
    | zero =>
      obtain rfl : t = s := Option.some.inj h
      rw [set_cons_zero, sceneCountOf_cons, sceneCountOf_cons]
      omega
    | succ i =>
      have hRest := ih h
      rw [set_cons_succ, sceneCountOf_cons, sceneCountOf_cons]
      omega

theorem sceneCountOf_pos {x : SceneStorageId × SceneData} (h : l[i]? = some (some x)) :
  0 < sceneCountOf l :=
  countP_pos_iff.mpr ⟨some x, mem_of_getElem? h, rfl⟩

theorem WellFormed.set_none (h : WellFormed sizes l) (i : Nat) : WellFormed sizes (l.set i none) := by
  have hOld : ∀ {j : Nat} {x : SceneStorageId × SceneData}, (l.set i none)[j]? = some (some x) →
      l[j]? = some (some x) := by
    intro j x hj
    by_cases hEq : i = j
    · subst hEq
      rw [getElem?_set_self'] at hj
      cases hGet : l[i]? <;> simp [hGet] at hj
    · rwa [getElem?_set_ne hEq] at hj
  have hMem : ∀ {x : SceneStorageId × SceneData}, some x ∈ l.set i none → some x ∈ l := by
    intro x hx
    obtain ⟨j, hj⟩ := mem_iff_getElem?.mp hx
    exact mem_of_getElem? (hOld hj)
  exact
    { length := by rw [length_set, h.length]
      valid := fun x hx => h.valid x (hMem hx)
      plain := fun x hx => h.plain x (hMem hx)
      fits := fun x hx => h.fits x (hMem hx)
      unique := fun hj hk hId => h.unique (hOld hj) (hOld hk) hId }

theorem WellFormed.set_some (h : WellFormed sizes l) {x : SceneStorageId × SceneData}
  (hValid : x.1.isValid = true) (hPlain : x.2.Plain)
  (hFits : (sceneBytes x).length ≤ persistentSceneBufferMax)
  (hUnique : ∀ {j : Nat} {y : SceneStorageId × SceneData}, l[j]? = some (some y) → y.1 = x.1 →
    j = i) : WellFormed sizes (l.set i (some x)) := by
  have hOld : ∀ {j : Nat} {y : SceneStorageId × SceneData},
      (l.set i (some x))[j]? = some (some y) → (j = i ∧ y = x) ∨ j ≠ i ∧ l[j]? = some (some y) := by
    intro j y hj
    by_cases hEq : i = j
    · subst hEq
      rw [getElem?_set_self'] at hj
      cases hGet : l[i]? with
      | none => simp [hGet] at hj
      | some s => exact .inl ⟨rfl, by simpa [hGet, eq_comm] using hj⟩
    · rw [getElem?_set_ne hEq] at hj
      exact .inr ⟨Ne.symm hEq, hj⟩
  have hAll : ∀ {P : SceneStorageId × SceneData → Prop}, P x → (∀ y, some y ∈ l → P y) →
      ∀ y, some y ∈ l.set i (some x) → P y := by
    intro P hx hRest y hy
    obtain ⟨j, hj⟩ := mem_iff_getElem?.mp hy
    rcases hOld hj with ⟨-, rfl⟩ | ⟨-, hj⟩
    · exact hx
    · exact hRest y (mem_of_getElem? hj)
  refine
    { length := by rw [length_set, h.length]
      valid := hAll (P := fun y => y.1.isValid = true) hValid h.valid
      plain := hAll (P := fun y => y.2.Plain) hPlain h.plain
      fits := hAll (P := fun y => (sceneBytes y).length ≤ persistentSceneBufferMax) hFits h.fits
      unique := ?_ }
  intro j k y z hj hk hId
  rcases hOld hj with ⟨rfl, rfl⟩ | ⟨hjNe, hjOld⟩
  · rcases hOld hk with ⟨rfl, rfl⟩ | ⟨hkNe, hkOld⟩
    · rfl
    · exact absurd (hUnique hkOld hId.symm) hkNe
  · rcases hOld hk with ⟨rfl, rfl⟩ | ⟨hkNe, hkOld⟩
    · exact absurd (hUnique hjOld hId) hjNe
    · exact h.unique hjOld hkOld hId

end Set

section Slot

variable {sizes : TableSizes} {slots : Slots} {e : UInt16} {f : UInt8}
  {storage storage' : SceneKey → Option Bytes}

theorem Slots.getElem?_listOf (slots : Slots) (sizes : TableSizes) (e : UInt16) (f : UInt8) (i : Nat) :
  ((slots.listOf sizes e f)[i]?).join = slots.at e f i := by
  unfold Slots.listOf Slots.at
  cases slots e f with
  | none =>
    rw [Option.getD_none, List.getElem?_replicate]
    split <;> rfl
  | some l => rfl

theorem Slots.eq_listOf {i : Nat} {x : SceneStorageId × SceneData}
  (h : (slots.listOf sizes e f)[i]? = some (some x)) : slots e f = some (slots.listOf sizes e f) := by
  cases hl : slots e f with
  | none =>
    unfold listOf at h
    rw [hl, Option.getD_none] at h
    cases eq_of_mem_replicate (mem_of_getElem? h)
  | some l => simp [listOf, hl]

theorem Stored.set (h : Stored sizes slots storage) (hFabric : f ≠ undefinedFabricIndex)
  (hEndpoint : e ≠ invalidEndpointId) {i : Nat} {s s' : Slot}
  (hAt : (slots.listOf sizes e f)[i]? = some s)
  (hForm : WellFormed sizes ((slots.listOf sizes e f).set i s'))
  (hTotal : slots.total e + s'.count ≤ sizes.mMaxScenesPerEndpoint + s.count)
  (hOther : ∀ key, key ≠ .endpointSceneCount e → key ≠ .fabricSceneData f e →
    key ≠ .fabricScene f e i → storage' key = storage key)
  (hData : storage' (.fabricSceneData f e) =
    some (serializeFabric (UInt8.ofNat (sceneCountOf ((slots.listOf sizes e f).set i s')))
      (((slots.listOf sizes e f).set i s').map Slot.id)).bytes)
  (hScene : storage' (.fabricScene f e i) = s'.map sceneBytes)
  (hCount : storage' (.endpointSceneCount e) =
      some (serializeCount (UInt8.ofNat (slots.total e + s'.count - s.count))).bytes ∨
    storage' (.endpointSceneCount e) = storage (.endpointSceneCount e) ∧ s.count = s'.count) :
  Stored sizes (slots.put e f (some ((slots.listOf sizes e f).set i s'))) storage' := by
  have hLt : i < (slots.listOf sizes e f).length := (List.getElem?_eq_some_iff.mp hAt).1
  have hPut := slots.total_put e f (some ((slots.listOf sizes e f).set i s'))
  have hSet := sceneCountOf_set hAt s'
  have hSum : (slots.put e f (some ((slots.listOf sizes e f).set i s'))).total e + s.count =
      slots.total e + s'.count := by
    rw [Slots.scenesOf_eq sizes] at hPut
    simp only [scenesOf, Option.map_some, Option.getD_some] at hPut
    omega
  refine h.put ?_ hData ?_ ?_ ?_ (fun _ _ => ⟨hFabric, hEndpoint⟩) (by omega)
  · intro key hKey
    refine hOther key ?_ ?_ ?_
    · rintro rfl
      exact hKey rfl
    · rintro rfl
      exact hKey ⟨rfl, rfl⟩
    · rintro rfl
      exact hKey ⟨rfl, rfl⟩
  · intro j
    by_cases hj : i = j
    · subst hj
      rw [hScene, Option.bind_some, List.getElem?_set_self hLt]
      rfl
    · rw [hOther (.fabricScene f e j) (by simp) (by simp) (by simpa using Ne.symm hj), h.scene,
        Option.bind_some, List.getElem?_set_ne hj, Slots.getElem?_listOf]
  · rcases hCount with hNew | ⟨hSame, hEq⟩
    · left
      rw [hNew, ← hSum, Nat.add_sub_cancel]
    · have hTotals : (slots.put e f (some ((slots.listOf sizes e f).set i s'))).total e =
          slots.total e := by omega
      rw [hSame, hTotals]
      exact h.count e
  · intro l hl
    rw [← Option.some.inj hl]
    exact hForm

end Slot

section Calls

variable {sizes : TableSizes} {slots : Slots} {st : SceneTable} {e : UInt16} {f : UInt8}

theorem count_succ (n : Nat) : UInt8.ofNat n + 1 = UInt8.ofNat (n + 1) := (UInt8.ofNat_add n 1).symm

theorem count_pred (n : Nat) : UInt8.ofNat (n + 1) - 1 = UInt8.ofNat n := by
  rw [← count_succ]
  exact UInt8.add_sub_cancel _ _

abbrev tableData (sizes : TableSizes) (e : UInt16) (f : UInt8) (l : List Slot) : FabricSceneData :=
  dataOf e f sizes.mMaxScenesPerFabric sizes.mMaxScenesPerEndpoint l

variable {l : List Slot} {i : Nat} {entry : SceneTableEntry}

theorem withScene_eq (h : l.length = sizes.mMaxScenesPerFabric) (hAt : l[i]? = some none)
  (x : SceneStorageId × SceneData) :
  (tableData sizes e f l).withScene i x.1 = tableData sizes e f (l.set i (some x)) := by
  have hCount : sceneCountOf (l.set i (some x)) = sceneCountOf l + 1 := sceneCountOf_set hAt (some x)
  have hLength : (l.set i (some x)).length = sizes.mMaxScenesPerFabric := by
    rw [length_set, h]
  simp only [tableData, dataOf, h, hLength, withScene, hCount, count_succ,
    Nat.sub_self, replicate_zero, append_nil, map_set]
  rfl

theorem withoutScene_eq (h : l.length = sizes.mMaxScenesPerFabric) {x : SceneStorageId × SceneData}
  (hAt : l[i]? = some (some x)) :
  (tableData sizes e f l).withoutScene i = tableData sizes e f (l.set i none) := by
  have hCount : sceneCountOf (l.set i none) + 1 = sceneCountOf l := sceneCountOf_set hAt none
  have hLength : (l.set i none).length = sizes.mMaxScenesPerFabric := by
    rw [length_set, h]
  simp only [tableData, dataOf, h, hLength, withoutScene, ← hCount, count_pred,
    Nat.sub_self, replicate_zero, append_nil, map_set]
  rfl

section

variable (h : Stored sizes slots st.storage)
include h

theorem saveScene_found (hPlain : entry.mStorageData.Plain) {old : SceneData}
  (hAt : (slots.listOf sizes e f)[i]? = some (some (entry.mStorageId, old)))
  (hFind : (tableData sizes e f (slots.listOf sizes e f)).find entry.mStorageId = .found i) :
  ∃ storage', ((tableData sizes e f (slots.listOf sizes e f)).saveScene entry st =
        (.ok (), { st with storage := storage' }) ∧
      Stored sizes (slots.put e f (some ((slots.listOf sizes e f).set i
        (some (entry.mStorageId, entry.mStorageData))))) storage') ∨
    ((tableData sizes e f (slots.listOf sizes e f)).saveScene entry st =
        (.error .bufferTooSmall, st) ∧
      persistentSceneBufferMax < (serializeScene entry).bytes.length) := by
  have hSlots := Slots.eq_listOf hAt
  obtain ⟨hFabric, hEndpoint⟩ := h.keys hSlots
  have hForm := h.wellFormed hSlots
  have hCall : (tableData sizes e f (slots.listOf sizes e f)).saveScene entry st =
      saveSceneRecord f e i entry st := by
    rw [FabricSceneData.saveScene, hFind]
    rfl
  rw [hCall]
  rcases saveSceneRecord_spec hFabric hEndpoint i entry st with ⟨hSave, hFits⟩ | ⟨hSave, hLarge⟩
  · refine ⟨_, .inl ⟨hSave, ?_⟩⟩
    have hForm' := hForm.set_some (i := i) (x := (entry.mStorageId, entry.mStorageData))
      (hForm.valid (entry.mStorageId, old) (List.mem_of_getElem? hAt)) hPlain hFits
      fun hj hId => hForm.unique hj hAt hId
    have hIds : ((slots.listOf sizes e f).set i
        (some (entry.mStorageId, entry.mStorageData))).map Slot.id =
        (slots.listOf sizes e f).map Slot.id := by
      have hId : ((slots.listOf sizes e f).map Slot.id)[i]? = some entry.mStorageId := by
        rw [List.getElem?_map, hAt]
        rfl
      obtain ⟨hLt, hGet⟩ := List.getElem?_eq_some_iff.mp hId
      rw [List.map_set]
      exact hGet ▸ List.set_getElem_self hLt
    have hCount : sceneCountOf ((slots.listOf sizes e f).set i
        (some (entry.mStorageId, entry.mStorageData))) = sceneCountOf (slots.listOf sizes e f) :=
      Nat.add_right_cancel (sceneCountOf_set hAt (some (entry.mStorageId, entry.mStorageData)))
    refine h.set hFabric hEndpoint hAt hForm' (Nat.add_le_add_right (h.total e) _) ?_ ?_ ?_
      (.inr ⟨?_, rfl⟩)
    · intro key _ _ hKey
      exact Function.update_of_ne hKey _ _
    · rw [Function.update_of_ne (by simp), h.fabric, hSlots, hIds, hCount]
      rfl
    · exact Function.update_self ..
    · exact Function.update_of_ne (by simp) _ _
  · exact ⟨st.storage, .inr ⟨hSave, hLarge⟩⟩

theorem Stored.toNat_total (e : UInt16) : (UInt8.ofNat (slots.total e)).toNat = slots.total e := by
  have hTotal := Nat.le_trans (h.total e) sizes.perEndpoint
  simp only [maxScenesPerEndpoint] at hTotal
  exact UInt8.toNat_ofNat_of_lt' (by simp only [UInt8.size]; omega)

theorem Stored.restore (hFabric : f ≠ undefinedFabricIndex) (hEndpoint : e ≠ invalidEndpointId)
  {storage' : SceneKey → Option Bytes}
  (hOther : ∀ key, key ≠ .endpointSceneCount e → key ≠ .fabricSceneData f e →
    storage' key = st.storage key) (hData : storage' (.fabricSceneData f e) =
    some (serializeFabric (UInt8.ofNat (sceneCountOf (slots.listOf sizes e f)))
      ((slots.listOf sizes e f).map Slot.id)).bytes) (hCount : storage' (.endpointSceneCount e) =
    some (serializeCount (UInt8.ofNat (slots.total e))).bytes) :
  Stored sizes (slots.put e f (some (slots.listOf sizes e f))) storage' := by
  have hTotal : (slots.put e f (some (slots.listOf sizes e f))).total e = slots.total e := by
    have hPut := slots.total_put e f (some (slots.listOf sizes e f))
    rw [Slots.scenesOf_eq sizes] at hPut
    exact Nat.add_right_cancel hPut
  refine h.put ?_ hData ?_ ?_ ?_ (fun _ _ => ⟨hFabric, hEndpoint⟩) ?_
  · intro key hKey
    refine hOther key ?_ ?_
    · rintro rfl
      exact hKey rfl
    · rintro rfl
      exact hKey ⟨rfl, rfl⟩
  · intro i
    rw [hOther (.fabricScene f e i) (by simp) (by simp), h.scene, Option.bind_some,
      Slots.getElem?_listOf]
  · left
    rw [hCount, hTotal]
  · intro l hl
    rw [← Option.some.inj hl]
    exact h.wellFormed_listOf e f
  · rw [hTotal]
    exact h.total e

end

/-- The table while `SaveScene` or `RemoveScene` has written the count and the map. -/
def SceneTable.writeMap (st : SceneTable) (e : UInt16) (f : UInt8) (n : Nat) (l : List Slot) :
  SceneTable :=
  (st.write (.endpointSceneCount e) (some (serializeCount (UInt8.ofNat n)).bytes)).write
    (.fabricSceneData f e)
    (some (serializeFabric (UInt8.ofNat (sceneCountOf l)) (l.map Slot.id)).bytes)

section

variable (h : Stored sizes slots st.storage)
include h

theorem saveScene_refused (hEndpoint : e ≠ invalidEndpointId)
  (hFind : (tableData sizes e f l).find entry.mStorageId = .notFound i)
  (hFull : ¬ slots.total e < sizes.mMaxScenesPerEndpoint) :
  (tableData sizes e f l).saveScene entry st = (.error .noMemory, st) := by
  have hCount : loadCount (tableData sizes e f l).endpointId st =
      (.ok (UInt8.ofNat (slots.total e)), st) := loadCount_ok h hEndpoint
  rw [saveScene, hFind]
  simp only
  rw [Proc.bind_ok hCount, Proc.verify_bind, h.toNat_total]
  exact if_neg hFull

section

variable (hFabric : f ≠ undefinedFabricIndex) (hEndpoint : e ≠ invalidEndpointId)
include hFabric hEndpoint

theorem saveScene_eq (hLength : l.length = sizes.mMaxScenesPerFabric) (hAt : l[i]? = some none)
  (hFind : (tableData sizes e f l).find entry.mStorageId = .notFound i)
  (hRoom : slots.total e < sizes.mMaxScenesPerEndpoint) :
  (tableData sizes e f l).saveScene entry st =
    if (serializeScene entry).bytes.length ≤ persistentSceneBufferMax then
      (.ok (), (st.writeMap e f (slots.total e + 1)
        (l.set i (some (entry.mStorageId, entry.mStorageData)))).write (.fabricScene f e i)
          (some (serializeScene entry).bytes))
    else (.error .bufferTooSmall, (st.writeMap e f (slots.total e + 1)
      (l.set i (some (entry.mStorageId, entry.mStorageData)))).writeMap e f (slots.total e) l) := by
  have hCount : loadCount (tableData sizes e f l).endpointId st =
      (.ok (UInt8.ofNat (slots.total e)), st) := loadCount_ok h hEndpoint
  have hSaveCount : ∀ n (st' : SceneTable), saveCount (tableData sizes e f l).endpointId n st' =
      (.ok (), st'.write (.endpointSceneCount e) (some (serializeCount n).bytes)) :=
    fun n st' => saveCount_ok hEndpoint n st'
  have hRecord : ∀ st' : SceneTable, saveSceneRecord (tableData sizes e f l).fabricIndex
      (tableData sizes e f l).endpointId i entry st' = saveSceneRecord f e i entry st' :=
    fun _ => rfl
  have hLength' : (l.set i (some (entry.mStorageId, entry.mStorageData))).length =
      sizes.mMaxScenesPerFabric := by rw [List.length_set, hLength]
  have hWith := withScene_eq (e := e) (f := f) hLength hAt (entry.mStorageId, entry.mStorageData)
  have hLt : i < l.length := (List.getElem?_eq_some_iff.mp hAt).1
  have hWithout := withoutScene_eq (e := e) (f := f) (i := i) hLength' (List.getElem?_set_self hLt)
  have hBack : (l.set i (some (entry.mStorageId, entry.mStorageData))).set i none = l := by
    rw [List.set_set]
    exact (List.getElem?_eq_some_iff.mp hAt).2 ▸ List.set_getElem_self hLt
  rw [hBack] at hWithout
  have hRoom' : slots.total e < (tableData sizes e f l).maxScenesPerEndpoint := hRoom
  rw [FabricSceneData.saveScene, hFind]
  simp only
  rw [Proc.bind_ok hCount, Proc.verify_bind, h.toNat_total, if_pos hRoom',
    Proc.bind_ok (hSaveCount _ _), hWith, Proc.attempt_bind, save_ok hFabric hEndpoint hLength' rfl]
  simp only [Proc.attempt_bind, count_succ, count_pred, hRecord]
  rcases saveSceneRecord_spec hFabric hEndpoint i entry (st.writeMap e f (slots.total e + 1)
    (l.set i (some (entry.mStorageId, entry.mStorageData)))) with ⟨hSave, hFits⟩ | ⟨hSave, hLarge⟩
  · rw [if_pos hFits]
    simp only [SceneTable.writeMap] at hSave ⊢
    rw [hSave]
    rfl
  · rw [if_neg (Nat.not_le_of_lt hLarge)]
    simp only [SceneTable.writeMap] at hSave ⊢
    rw [hSave]
    simp only
    rw [Proc.bind_ok (hSaveCount _ _), hWithout,
      Proc.bind_ok (save_ok hFabric hEndpoint hLength rfl _)]
    rfl

theorem saveScene_free (hValid : entry.mStorageId.isValid = true)
  (hPlain : entry.mStorageData.Plain)
  (hAbsent : ∀ data, some (entry.mStorageId, data) ∉ slots.listOf sizes e f)
  (hAt : (slots.listOf sizes e f)[i]? = some none)
  (hFind : (tableData sizes e f (slots.listOf sizes e f)).find entry.mStorageId = .notFound i) :
  ∃ storage', ((tableData sizes e f (slots.listOf sizes e f)).saveScene entry st =
        (.ok (), { st with storage := storage' }) ∧
      Stored sizes (slots.put e f (some ((slots.listOf sizes e f).set i
        (some (entry.mStorageId, entry.mStorageData))))) storage') ∨
    ((tableData sizes e f (slots.listOf sizes e f)).saveScene entry st =
        (.error .bufferTooSmall, { st with storage := storage' }) ∧
      Stored sizes (slots.put e f (some (slots.listOf sizes e f))) storage' ∧
      persistentSceneBufferMax < (serializeScene entry).bytes.length) ∨
    ((tableData sizes e f (slots.listOf sizes e f)).saveScene entry st = (.error .noMemory, st) ∧
      sizes.mMaxScenesPerEndpoint ≤ slots.total e) := by
  have hForm := h.wellFormed_listOf e f
  by_cases hRoom : slots.total e < sizes.mMaxScenesPerEndpoint
  case neg =>
    exact ⟨st.storage, .inr (.inr ⟨saveScene_refused h hEndpoint hFind hRoom, Nat.le_of_not_lt hRoom⟩)⟩
  rw [saveScene_eq h hFabric hEndpoint hForm.length hAt hFind hRoom]
  by_cases hFits : (serializeScene entry).bytes.length ≤ persistentSceneBufferMax
  · refine ⟨_, .inl ⟨if_pos hFits, ?_⟩⟩
    have hUnique : ∀ {j : Nat} {y : SceneStorageId × SceneData},
        (slots.listOf sizes e f)[j]? = some (some y) → y.1 = entry.mStorageId → j = i := by
      rintro j ⟨id, data⟩ hj rfl
      exact absurd (List.mem_of_getElem? hj) (hAbsent data)
    have hForm' := hForm.set_some (i := i) (x := (entry.mStorageId, entry.mStorageData)) hValid
      hPlain hFits hUnique
    refine h.set hFabric hEndpoint hAt hForm' ?_ ?_ ?_ ?_ (.inl ?_)
    · exact Nat.succ_le_of_lt hRoom
    · intro key hCount hData hScene
      simp [SceneTable.write, SceneTable.writeMap, hCount, hData, hScene]
    · simp [SceneTable.write, SceneTable.writeMap]
    · simp [sceneBytes]
    · simp [SceneTable.write, SceneTable.writeMap, Slot.count]
  · refine ⟨_, .inr (.inl ⟨if_neg hFits, ?_, Nat.lt_of_not_le hFits⟩)⟩
    refine h.restore hFabric hEndpoint ?_ ?_ ?_
    · intro key hCount hData
      simp [SceneTable.write, SceneTable.writeMap, hCount, hData]
    · simp [SceneTable.write, SceneTable.writeMap]
    · simp [SceneTable.write, SceneTable.writeMap]

end

theorem removeScene_found (hl : slots e f = some l) {x : SceneStorageId × SceneData}
  (hAt : l[i]? = some (some x)) :
  ∃ storage', (tableData sizes e f l).removeScene x.1 st =
      (.ok (tableData sizes e f (l.set i none)), { st with storage := storage' }) ∧
    Stored sizes (slots.put e f (some (l.set i none))) storage' := by
  obtain ⟨hFabric, hEndpoint⟩ := h.keys hl
  have hForm := h.wellFormed hl
  obtain rfl : slots.listOf sizes e f = l := by simp [Slots.listOf, hl]
  have hFind : (tableData sizes e f (slots.listOf sizes e f)).find x.1 = .found i := by
    rcases find_cases hForm (hForm.valid x (List.mem_of_getElem? hAt)) e f with
      ⟨j, data, hj, hFind⟩ | ⟨hAbsent, -⟩
    · rw [hFind, hForm.unique hj hAt rfl]
    · exact absurd (List.mem_of_getElem? hAt) (hAbsent x.2)
  obtain ⟨n, hn⟩ : ∃ n, slots.total e = n + 1 := by
    have hPos := sceneCountOf_pos hAt
    have hLe := scenesOf_le_total slots e f
    rw [Slots.scenesOf_eq sizes] at hLe
    exact Nat.exists_eq_succ_of_ne_zero (by omega)
  have hPositive : 0 < (tableData sizes e f (slots.listOf sizes e f)).sceneCount := by
    rw [UInt8.lt_iff_toNat_lt]
    change 0 < (UInt8.ofNat (sceneCountOf (slots.listOf sizes e f))).toNat
    rw [toNat_sceneCount hForm.length_le]
    exact sceneCountOf_pos hAt
  have hCount : loadCount (tableData sizes e f (slots.listOf sizes e f)).endpointId st =
      (.ok (UInt8.ofNat (n + 1)), st) := hn ▸ loadCount_ok h hEndpoint
  have hSaveCount : ∀ n (st' : SceneTable), saveCount (tableData sizes e f (slots.listOf sizes e f)).endpointId n st' =
      (.ok (), st'.write (.endpointSceneCount e) (some (serializeCount n).bytes)) :=
    fun n st' => saveCount_ok hEndpoint n st'
  have hLength : ((slots.listOf sizes e f).set i none).length = sizes.mMaxScenesPerFabric := by
    rw [List.length_set, hForm.length]
  have hSlot : slots.at e f i = some x := by
    rw [← Slots.getElem?_listOf slots sizes, hAt]
    rfl
  have hDelete : deleteSceneRecord (tableData sizes e f (slots.listOf sizes e f)).fabricIndex
      (tableData sizes e f (slots.listOf sizes e f)).endpointId i (st.writeMap e f n ((slots.listOf sizes e f).set i none)) =
      (.ok (), (st.writeMap e f n ((slots.listOf sizes e f).set i none)).write (.fabricScene f e i) none) :=
    deleteSceneRecord_some h hFabric hEndpoint (by simp [SceneTable.write, SceneTable.writeMap]) hSlot
  refine ⟨((st.writeMap e f n ((slots.listOf sizes e f).set i none)).write (.fabricScene f e i) none).storage, ?_, ?_⟩
  · rw [FabricSceneData.removeScene, if_pos hPositive, hFind]
    simp only
    rw [Proc.bind_ok hCount, Proc.bind_ok (hSaveCount _ _), withoutScene_eq hForm.length hAt,
      Proc.attempt_bind, save_ok hFabric hEndpoint hLength rfl]
    simp only [Proc.attempt_bind, count_pred]
    simp only [SceneTable.writeMap] at hDelete ⊢
    rw [hDelete]
    rfl
  · refine h.set hFabric hEndpoint hAt (hForm.set_none i) ?_ ?_ ?_ ?_ (.inl ?_)
    · have hTotal := h.total e
      change slots.total e + 0 ≤ sizes.mMaxScenesPerEndpoint + 1
      omega
    · intro key hCount hData hScene
      simp [SceneTable.write, SceneTable.writeMap, hCount, hData, hScene]
    · simp [SceneTable.write, SceneTable.writeMap]
    · simp [SceneTable.write]
    · simp [SceneTable.write, SceneTable.writeMap, Slot.count, hn]

end

theorem removeScene_absent (hForm : WellFormed sizes l) {id : SceneStorageId} (hValid : id.isValid = true)
  (hAbsent : ∀ data, some (id, data) ∉ l) (e : UInt16) (f : UInt8) (st : SceneTable) :
  (tableData sizes e f l).removeScene id st = (.ok (tableData sizes e f l), st) := by
  unfold removeScene
  split
  · rcases find_cases hForm hValid e f with ⟨j, data, hj, -⟩ | ⟨-, ⟨j, -, hFind⟩ | ⟨-, hFind⟩⟩
    · exact absurd (mem_of_getElem? hj) (hAbsent data)
    · rw [hFind]
      rfl
    · rw [hFind]
      rfl
  · rfl

theorem removeScene_empty (hEmpty : sceneCountOf l = 0) (id : SceneStorageId) (e : UInt16) (f : UInt8)
  (st : SceneTable) :
  (tableData sizes e f l).removeScene id st = (.ok (tableData sizes e f l), st) := by
  have hZero : (tableData sizes e f l).sceneCount = 0 := by
    change UInt8.ofNat (sceneCountOf l) = 0
    rw [hEmpty]
    rfl
  rw [removeScene, if_neg (by rw [hZero]; decide)]
  rfl

end Calls
end Chip.Scenes
