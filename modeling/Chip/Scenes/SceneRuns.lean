import Chip.Scenes.SceneIteration
import Chip.Scenes.SceneLoops

/-! Runs of the scene table. The slots of a table represent a map at every step of a run. -/
namespace Chip.Scenes

open List TLV

variable {sizes : TableSizes} {endpoints : List UInt16} {st : SceneTable} {spec : SceneSpec}

/-- The scenes that a call names are not of the undefined scene id. -/
def SceneOp.NamesScene : SceneOp → Prop
  | .set _ entry => entry.mStorageId.isValid = true
  | .get _ id => id.isValid = true
  | .remove _ id => id.isValid = true
  | _ => True

/-- The calls after which the table is as the map. A name with the byte that starts the
localized string id of a TLV string is cut off there, and a free slot passes for a scene of
group 0. -/
def SceneTable.Exact (sizes : TableSizes) (st : SceneTable) : SceneOp → Prop
  | .set _ entry => entry.mStorageData.Plain
  | .deleteAll f group => DeletesScenesOnly sizes st f group
  | _ => True

/-- Every call of a run is of this kind in the state it is made in. -/
def SceneTable.Orderly (sizes : TableSizes) (endpoints : List UInt16) : SceneTable → List SceneOp → Prop
  | _, [] => True
  | st, op :: ops => op.NamesScene ∧ st.Exact sizes op ∧
      SceneTable.Orderly sizes endpoints (op.call sizes endpoints st).2 ops

/-- The records, counts and iterations of a table are those of the map. -/
structure Matches (sizes : TableSizes) (st : SceneTable) (spec : SceneSpec) : Prop where
  endpoint : spec.endpoint = st.mEndpointId
  scenes : ∀ e f id data, spec.scenes e f id = some data ↔
    ∃ index, loadScene f e index st = (.ok ⟨id, data⟩, st)
  positions : ∀ e f i j id, st.positions e f i = some id → st.positions e f j = some id → i = j
  sceneMap : ∀ e f data, (fabricData sizes e f).load st = (.ok data, st) →
    data.sceneCount.toNat = spec.scenes.fabricCount e f ∧
    data.sceneMap.countP SceneStorageId.isValid = spec.scenes.fabricCount e f
  noSceneMap : ∀ e f, st.storage (.fabricSceneData f e) = none → spec.scenes.fabricCount e f = 0
  records : ∀ e f, {index | (st.storage (.fabricScene f e index)).isSome}.ncard =
    spec.scenes.fabricCount e f
  endpointCount : ∀ e, e ≠ invalidEndpointId →
    ∃ n, loadCount e st = (.ok n, st) ∧ n.toNat = spec.scenes.endpointCount e
  iteration : ∀ e f, ∃ entries,
    iterateAll sizes (sizes.mMaxScenesPerFabric + 1) ⟨f, e, 0⟩ st = (.ok entries, st) ∧
    (entries.map (·.mStorageId)).Nodup ∧
    ∀ entry, entry ∈ entries ↔ spec.scenes e f entry.mStorageId = some entry.mStorageData

section Matches

variable {slots : Slots} {e : UInt16} {f : UInt8}

theorem Slots.at_eq_some_iff (slots : Slots) (sizes : TableSizes) {i : Nat}
  {x : SceneStorageId × SceneData} :
  slots.at e f i = some x ↔ (slots.listOf sizes e f)[i]? = some (some x) := by
  rw [← Slots.getElem?_listOf slots sizes, Option.join_eq_some_iff]

theorem Represents.scene_iff {m : SceneMap} (hMap : Represents sizes slots m)
  (hStored : Stored sizes slots st.storage) (id : SceneStorageId) (data : SceneData) :
  m e f id = some data ↔ ∃ index, loadScene f e index st = (.ok ⟨id, data⟩, st) := by
  rw [hMap, mem_iff_getElem?]
  constructor
  · rintro ⟨index, hAt⟩
    exact ⟨index, loadScene_some hStored ((slots.at_eq_some_iff sizes).mpr hAt)⟩
  · rintro ⟨index, hLoad⟩
    refine ⟨index, (slots.at_eq_some_iff sizes).mp ?_⟩
    have hPosition := positions_eq hStored e f index
    rw [SceneTable.positions, hLoad] at hPosition
    cases hAt : slots.at e f index with
    | none =>
      rw [hAt] at hPosition
      cases hPosition
    | some x =>
      rw [loadScene_some hStored hAt] at hLoad
      cases hLoad
      rfl

theorem Stored.positions_unique (hStored : Stored sizes slots st.storage) {i j : Nat}
  {id : SceneStorageId} (hi : st.positions e f i = some id) (hj : st.positions e f j = some id) :
  i = j := by
  rw [positions_eq hStored, Option.map_eq_some_iff] at hi hj
  obtain ⟨x, hx, rfl⟩ := hi
  obtain ⟨y, hy, hId⟩ := hj
  exact (hStored.wellFormed_listOf e f).unique ((slots.at_eq_some_iff sizes).mp hx)
    ((slots.at_eq_some_iff sizes).mp hy) hId.symm

theorem countP_ids {l : List Slot} (hForm : WellFormed sizes l) :
  (l.map Slot.id).countP SceneStorageId.isValid = sceneCountOf l := by
  rw [countP_map]
  refine countP_congr fun s hs => ?_
  cases s with
  | none => simp [Slot.id, SceneStorageId.isValid, SceneStorageId.cleared]
  | some x => simp [Slot.id, hForm.valid x hs]

theorem Represents.records_ncard {m : SceneMap} (hMap : Represents sizes slots m)
  (hStored : Stored sizes slots st.storage) (e : UInt16) (f : UInt8) :
  {index | (st.storage (.fabricScene f e index)).isSome}.ncard = m.fabricCount e f := by
  have hForm := hStored.wellFormed_listOf e f
  have hRecord : ∀ {index}, (st.storage (.fabricScene f e index)).isSome →
      ∃ x, (slots.listOf sizes e f)[index]? = some (some x) ∧ Slot.id (slots.at e f index) = x.1 := by
    intro index hSome
    rw [hStored.scene, Option.isSome_map, Option.isSome_iff_exists] at hSome
    obtain ⟨x, hx⟩ := hSome
    exact ⟨x, (slots.at_eq_some_iff sizes).mp hx, by rw [hx]; rfl⟩
  refine Set.ncard_congr (fun index _ => Slot.id (slots.at e f index)) ?_ ?_ ?_
  · intro index hIndex
    obtain ⟨x, hAt, hId⟩ := hRecord hIndex
    rw [hId, Set.mem_setOf_eq, hMap.isSome_iff]
    exact mem_map_of_mem (mem_usedSlots.mpr (mem_of_getElem? hAt))
  · intro i j hi hj hEq
    obtain ⟨x, hx, hxId⟩ := hRecord hi
    obtain ⟨y, hy, hyId⟩ := hRecord hj
    exact hForm.unique hx hy (hxId.symm.trans (hEq.trans hyId))
  · intro id hSome
    rw [Set.mem_setOf_eq, hMap.isSome_iff, mem_map] at hSome
    obtain ⟨x, hx, rfl⟩ := hSome
    obtain ⟨index, hAt⟩ := mem_iff_getElem?.mp (mem_usedSlots.mp hx)
    have hSlot := (slots.at_eq_some_iff sizes).mpr hAt
    refine ⟨index, ?_, ?_⟩
    · rw [Set.mem_setOf_eq, hStored.scene, hSlot]
      rfl
    · simp only [hSlot]
      rfl

theorem Refines.matches (h : Refines sizes st spec) : Matches sizes st spec := by
  obtain ⟨slots, hStored, hMap⟩ := h.records
  have hCount := fun e f => hMap.fabricCount_eq (hStored.wellFormed_listOf e f)
  refine
    { endpoint := h.endpoint
      scenes := fun e f id data => hMap.scene_iff hStored id data
      positions := fun e f i j id => hStored.positions_unique
      sceneMap := ?_
      noSceneMap := ?_
      records := hMap.records_ncard hStored
      endpointCount := ?_
      iteration := ?_ }
  · intro e f data hLoad
    rcases fabricData_load hStored e f with ⟨l, hl, hLoad'⟩ | ⟨-, err, hLoad', -⟩
    · rw [hLoad'] at hLoad
      cases hLoad
      have hForm := hStored.wellFormed hl
      have hListOf : slots.listOf sizes e f = l := by simp [Slots.listOf, hl]
      rw [hCount, hListOf, tableData, dataOf_table sizes hForm.length]
      exact ⟨toNat_sceneCount hForm.length_le, countP_ids hForm⟩
    · rw [hLoad'] at hLoad
      cases hLoad
  · intro e f hNone
    rw [hStored.fabric, Option.map_eq_none_iff] at hNone
    rw [hCount, ← Slots.scenesOf_eq sizes, hNone]
    rfl
  · intro e hEndpoint
    refine ⟨_, loadCount_ok hStored hEndpoint, ?_⟩
    rw [hStored.toNat_total, hMap.endpointCount_eq hStored]
  · intro e f
    have hForm := hStored.wellFormed_listOf e f
    have hFuel : (ahead (slots.listOf sizes e f) 0).length < sizes.mMaxScenesPerFabric + 1 := by
      have hLe := ahead_length_le (slots.listOf sizes e f) 0
      rw [hForm.length] at hLe
      omega
    refine ⟨_, iterateAll_spec hStored _ ⟨f, e, 0⟩ hFuel, ?_, ?_⟩
    · rw [map_map]
      exact nodup_usedSlots hForm.unique
    · intro entry
      rw [hMap, mem_map]
      constructor
      · rintro ⟨x, hx, rfl⟩
        exact mem_usedSlots.mp hx
      · intro hMem
        exact ⟨_, mem_usedSlots.mpr hMem, rfl⟩

end Matches

theorem refines_init (sizes : TableSizes) : Refines sizes SceneTable.init SceneSpec.init where
  records := by
    have hTotal : ∀ e, Slots.total (fun _ _ => none) e = 0 := fun e => Finset.sum_const_zero
    refine ⟨fun _ _ => none, ⟨fun _ _ => rfl, fun _ _ _ => rfl, fun e => .inr ⟨rfl, hTotal e⟩,
      ?_, ?_, ?_⟩, ?_⟩
    · intro e f l hl
      cases hl
    · intro e f l hl
      cases hl
    · intro e
      rw [hTotal]
      exact Nat.zero_le _
    · intro e f id data
      constructor
      · intro hSome
        cases hSome
      · intro hMem
        cases eq_of_mem_replicate hMem
  endpoint := rfl
  iterators := fun _ => rfl
  owners := nodup_nil
  pool := rfl

theorem Refines.call (h : Refines sizes st spec) (endpoints : List UInt16) {op : SceneOp} (hNames : op.NamesScene)
  (hExact : st.Exact sizes op) :
  Simulates sizes endpoints st spec op (op.call sizes endpoints st) := by
  cases op with
  | setEndpoint e => exact ⟨_, .setEndpoint e, h.records, rfl, h.iterators, h.owners, h.pool⟩
  | set f entry => exact h.set f hNames hExact
  | get f id => exact h.get f hNames
  | remove f id => exact h.remove f hNames
  | removeAt e f index => exact h.removeAt e f index
  | list f group size => exact h.list f group size
  | deleteAll f group => exact h.deleteAll hExact
  | removeFabric f => exact h.removeFabric f
  | iterate iterator f => exact h.iterate iterator f
  | next iterator => exact h.next iterator
  | release iterator => exact h.release iterator

theorem Refines.run (h : Refines sizes st spec) {ops : List SceneOp}
  (hOrderly : st.Orderly sizes endpoints ops) :
  ∃ spec', SceneSpec.Run sizes endpoints ops st spec spec' ∧
    Refines sizes (sceneRun sizes endpoints ops st) spec' := by
  induction ops generalizing st spec with
  | nil => exact ⟨spec, rfl, h⟩
  | cons op ops ih =>
    obtain ⟨hNames, hExact, hRest⟩ := hOrderly
    obtain ⟨middle, hStep, hMiddle⟩ := h.call endpoints hNames hExact
    obtain ⟨spec', hRun, hRefines⟩ := ih hMiddle hRest
    exact ⟨spec', ⟨middle, hStep, hRun⟩, hRefines⟩

/-- In an orderly run from an empty table every call is a step on a map of the scenes, which
the records, the counts and the iterations of the table show. -/
theorem sceneTable_refines_map (sizes : TableSizes) (endpoints : List UInt16) (ops : List SceneOp)
    (hOrderly : SceneTable.init.Orderly sizes endpoints ops) :
    ∃ spec, SceneSpec.Run sizes endpoints ops SceneTable.init SceneSpec.init spec ∧
      Matches sizes (sceneRun sizes endpoints ops SceneTable.init) spec := by
  obtain ⟨spec, hRun, hRefines⟩ := (refines_init sizes).run hOrderly
  exact ⟨spec, hRun, hRefines.matches⟩

def defaultTableSizes : TableSizes where
  mMaxScenesPerFabric := maxScenesPerFabric
  mMaxScenesPerEndpoint := maxScenesPerEndpoint
  perFabric := Nat.le_refl _
  perEndpoint := Nat.le_refl _

def namedScene (group : UInt16) (name : Bytes) (hName : name.length ≤ sceneNameMaxLength) :
  SceneTableEntry :=
  ⟨⟨group, 1⟩, ⟨name, hName, 0, [], Nat.zero_le _⟩⟩

/-- A scene of group 1 is stored on endpoint 1, and the group is deleted. -/
theorem sceneTable_refines_map_after_deletion :
    ∃ spec, SceneSpec.Run defaultTableSizes [1]
        [.setEndpoint 1, .set 1 (namedScene 1 [0x41] (by decide)), .deleteAll 1 1]
        SceneTable.init SceneSpec.init spec ∧
      Matches defaultTableSizes (sceneRun defaultTableSizes [1]
        [.setEndpoint 1, .set 1 (namedScene 1 [0x41] (by decide)), .deleteAll 1 1]
        SceneTable.init) spec :=
  sceneTable_refines_map defaultTableSizes [1]
    [.setEndpoint 1, .set 1 (namedScene 1 [0x41] (by decide)), .deleteAll 1 1]
    ⟨trivial, trivial, rfl, (by decide : SceneData.Plain _), trivial,
      fun hZero => absurd hZero (by decide), trivial⟩

/-- The same scene of group 1 is stored. The deletion of group 0, of which there is no
scene, fails on a free slot. A name with the byte 0x1F is not read back. -/
theorem deleteAll_fails_on_free_slot :
    ((SceneOp.deleteAll 1 0).call defaultTableSizes [1] (sceneRun defaultTableSizes [1]
        [.setEndpoint 1, .set 1 (namedScene 1 [0x41] (by decide))] SceneTable.init)).1.isOk = false ∧
    ((fabricData defaultTableSizes 1 1).load (sceneRun defaultTableSizes [1]
        [.setEndpoint 1, .set 1 (namedScene 1 [0x41] (by decide))] SceneTable.init)).1.map
          (·.sceneCount) = .ok 1 ∧
    (getSceneTableEntry defaultTableSizes 1 ⟨1, 1⟩ (sceneRun defaultTableSizes [1]
        [.setEndpoint 1, .set 1 (namedScene 1 [0x41, 0x1F, 0x42] (by decide))]
        SceneTable.init)).1 = .ok (namedScene 1 [0x41] (by decide)) := by
  decide +kernel

end Chip.Scenes
