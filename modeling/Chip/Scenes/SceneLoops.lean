import Chip.Scenes.SceneRefinement

/-! The calls that go over the slots of a fabric: deleting a group, removing a fabric,
iterating and listing a group. -/
namespace Chip.Scenes

open Slots TLV

variable {sizes : TableSizes} {endpoints : List UInt16} {st : SceneTable} {spec : SceneSpec}
  {slots : Slots} {e : UInt16} {f : UInt8}

/-- The slots from `index` on that the deletion of a group comes across are not taken for
scenes of the group: a free slot counts as one of group 0 while the fabric has scenes. -/
def SlotsApart (group : UInt16) (index : Nat) (l : List Slot) : Prop :=
  group = globalGroupSceneId → ∀ j, index ≤ j → l[j]? = some none →
    ∀ k x, l[k]? = some (some x) → x.1.mGroupId = globalGroupSceneId ∧ index ≤ k ∧ k < j

def InGroup (e : UInt16) (f : UInt8) (group : UInt16) (e' : UInt16) (f' : UInt8)
  (id : SceneStorageId) : Prop :=
  e' = e ∧ f' = f ∧ id.mGroupId = group

variable {m : SceneMap} {l : List Slot}

theorem deleteGroupLoop_spec (group : UInt16) (n index : Nat) (hStored : Stored sizes slots st.storage)
  (hMap : Represents sizes slots m) (hl : slots e f = some l)
  (hLength : index + n = sizes.mMaxScenesPerFabric) (hApart : SlotsApart group index l)
  (hDone : ∀ k x, k < index → l[k]? = some (some x) → x.1.mGroupId ≠ group) :
  ∃ storage' slots', (tableData sizes e f l).deleteGroupLoop group index n st =
      (.ok (), { st with storage := storage' }) ∧
    Stored sizes slots' storage' ∧ Represents sizes slots' (m.without (InGroup e f group)) := by
  induction n generalizing index st slots m l with
  | zero =>
    refine ⟨st.storage, slots, rfl, hStored, ?_⟩
    rw [SceneMap.without_eq]
    · exact hMap
    · rintro e' f' id ⟨rfl, rfl, hGroup⟩
      rw [hMap.eq_none_iff]
      intro data hMem
      rw [Slots.listOf, hl, Option.getD_some] at hMem
      obtain ⟨k, hk⟩ := List.mem_iff_getElem?.mp hMem
      have hLt := (List.getElem?_eq_some_iff.mp hk).1
      rw [(hStored.wellFormed hl).length] at hLt
      exact hDone k _ (by omega) hk hGroup
  | succ n ih =>
    have hForm := hStored.wellFormed hl
    have hListOf : slots.listOf sizes e f = l := by simp [Slots.listOf, hl]
    have hLt : index < l.length := by
      rw [hForm.length]
      omega
    obtain ⟨s, hAt⟩ : ∃ s, l[index]? = some s := ⟨_, List.getElem?_eq_getElem hLt⟩
    have hStep : ∀ data : FabricSceneData, data.sceneMap.getD index .cleared = Slot.id s →
        data.deleteGroupLoop group index (n + 1) st =
          if (Slot.id s).mGroupId = group then
            (data.removeScene (Slot.id s) >>= fun data =>
              data.deleteGroupLoop group (index + 1) n) st
          else data.deleteGroupLoop group (index + 1) n st := by
      intro data hId
      rw [FabricSceneData.deleteGroupLoop]
      simp only [hId]
      split <;> rfl
    rw [hStep _ (dataOf_getD e f _ _ index s hAt)]
    cases s with
    | some x =>
      by_cases hGroup : x.1.mGroupId = group
      · -- The scene is removed, and the slot is passed for good.
        obtain ⟨storage', hRemove, hStored'⟩ := removeScene_found hStored hl hAt
        have hMap' : Represents sizes (slots.put e f (some (l.set index none)))
            (m.without fun e' f' id' => e' = e ∧ f' = f ∧ id' = x.1) := by
          subst hListOf
          exact hMap.remove hForm hAt
        have hOld : ∀ {k : Nat} {y : SceneStorageId × SceneData},
            (l.set index none)[k]? = some (some y) → k ≠ index ∧ l[k]? = some (some y) := by
          intro k y hk
          by_cases hEq : index = k
          · subst hEq
            rw [List.getElem?_set_self hLt] at hk
            cases hk
          · rw [List.getElem?_set_ne hEq] at hk
            exact ⟨Ne.symm hEq, hk⟩
        have hApart' : SlotsApart group (index + 1) (l.set index none) := by
          intro hZero j hj hFree k y hk
          obtain ⟨hNe, hk⟩ := hOld hk
          rw [List.getElem?_set_ne (by omega)] at hFree
          obtain ⟨hGlobal, hLe, hLess⟩ := hApart hZero j (by omega) hFree k y hk
          exact ⟨hGlobal, by omega, hLess⟩
        have hDone' : ∀ k y, k < index + 1 → (l.set index none)[k]? = some (some y) →
            y.1.mGroupId ≠ group := by
          intro k y hLess hk
          obtain ⟨hNe, hk⟩ := hOld hk
          exact hDone k y (by omega) hk
        have hStored₁ : Stored sizes (slots.put e f (some (l.set index none)))
            ({ st with storage := storage' } : SceneTable).storage := hStored'
        obtain ⟨storage'', slots'', hLoop, hStored'', hMap''⟩ := ih (index + 1) hStored₁ hMap'
          Slots.put_self (by omega) hApart' hDone'
        refine ⟨storage'', slots'', ?_, hStored'', ?_⟩
        · have hSlot : (Slot.id (some x)).mGroupId = group := hGroup
          rw [if_pos hSlot]
          change ((tableData sizes e f l).removeScene x.1 >>= _) st = _
          rw [Proc.bind_ok hRemove, hLoop]
        · rw [SceneMap.without_without (R := InGroup e f group)] at hMap''
          · exact hMap''
          · intro e' f' id'
            unfold InGroup
            constructor
            · exact .inr
            · rintro (⟨he, hf, rfl⟩ | hIn)
              · exact ⟨he, hf, hGroup⟩
              · exact hIn
      · have hSlot : ¬ (Slot.id (some x)).mGroupId = group := hGroup
        rw [if_neg hSlot]
        refine ih (index + 1) hStored hMap hl (by omega) ?_ ?_
        · intro hZero j hj hFree
          have hScene := hApart hZero j (by omega) hFree index x hAt
          exact absurd (hScene.1.trans hZero.symm) hGroup
        · intro k y hLess hk
          by_cases hEq : k = index
          · subst hEq
            rw [hAt] at hk
            cases hk
            exact hGroup
          · exact hDone k y (by omega) hk
    | none =>
      have hDone' : ∀ k y, k < index + 1 → l[k]? = some (some y) → y.1.mGroupId ≠ group := by
        intro k y hLess hk
        by_cases hEq : k = index
        · subst hEq
          rw [hAt] at hk
          cases hk
        · exact hDone k y (by omega) hk
      by_cases hGroup : globalGroupSceneId = group
      · -- A free slot of group 0: there is no scene left, so that nothing is removed.
        have hNone : ∀ (k : Nat) x, l[k]? ≠ some (some x) := by
          intro k x hk
          obtain ⟨-, hLe, hLess⟩ := hApart hGroup.symm index (Nat.le_refl _) hAt k x hk
          omega
        have hEmpty : sceneCountOf l = 0 := by
          refine List.countP_eq_zero.mpr fun s hs => ?_
          obtain ⟨k, hk⟩ := List.mem_iff_getElem?.mp hs
          cases s with
          | none => exact Bool.false_ne_true
          | some x => exact absurd hk (hNone k x)
        have hSlot : (Slot.id none).mGroupId = group := hGroup
        rw [if_pos hSlot, Proc.bind_ok (removeScene_empty hEmpty _ e f st)]
        exact ih (index + 1) hStored hMap hl (by omega)
          (fun _ _ _ _ k x hk => absurd hk (hNone k x)) hDone'
      · have hSlot : ¬ (Slot.id none).mGroupId = group := hGroup
        rw [if_neg hSlot]
        exact ih (index + 1) hStored hMap hl (by omega)
          (fun hZero => absurd hZero.symm hGroup) hDone'

/-- The deletion of a group finds scenes only: of group 0 when the map of the fabric has no
free slot, or all scenes are of this group and before the free slots. -/
def DeletesScenesOnly (sizes : TableSizes) (st : SceneTable) (f : UInt8) (group : UInt16) : Prop :=
  group = globalGroupSceneId → ∀ data, (fabricData sizes st.mEndpointId f).load st = (.ok data, st) →
    ∀ (j : Nat) (free : SceneStorageId), data.sceneMap[j]? = some free → free.isValid = false →
      ∀ (k : Nat) (id : SceneStorageId), data.sceneMap[k]? = some id → id.isValid = true →
        id.mGroupId = globalGroupSceneId ∧ k < j

theorem Refines.deleteAll (h : Refines sizes st spec) {f : UInt8} {group : UInt16}
  (hExact : DeletesScenesOnly sizes st f group) :
  Simulates sizes endpoints st spec (.deleteAll f group)
    ((SceneOp.deleteAll f group).call sizes endpoints st) := by
  obtain ⟨slots, hStored, hMap⟩ := h.records
  have hCall : ∀ result, deleteAllScenesInGroup sizes f group st = result →
      (SceneOp.deleteAll f group).call sizes endpoints st =
        (result.1.map fun _ => SceneValue.done, result.2) := by
    rintro result rfl
    exact Proc.bind_pure_apply ..
  rcases fabricData_load hStored st.mEndpointId f with ⟨l, hl, hLoad⟩ | ⟨hl, err, hLoad, hErr⟩
  · have hForm := hStored.wellFormed hl
    have hIds : ∀ (j : Nat) (s : Slot), l[j]? = some s →
        (tableData sizes st.mEndpointId f l).sceneMap[j]? = some (Slot.id s) := by
      intro j s hj
      rw [tableData, dataOf_table sizes hForm.length, List.getElem?_map, hj]
      rfl
    have hApart : SlotsApart group 0 l := by
      intro hZero j hj hFree k x hk
      obtain ⟨hGlobal, hLess⟩ := hExact hZero _ hLoad j _ (hIds j none hFree) rfl k _
        (hIds k (some x) hk) (hForm.valid x (List.mem_of_getElem? hk))
      exact ⟨hGlobal, Nat.zero_le k, hLess⟩
    obtain ⟨storage', slots', hLoop, hStored', hMap'⟩ := deleteGroupLoop_spec group
      sizes.mMaxScenesPerFabric 0 hStored hMap hl (Nat.zero_add _) hApart
      fun k x hLess => absurd hLess (Nat.not_lt_zero k)
    have hOk : deleteAllScenesInGroup sizes f group st =
        (.ok (), { st with storage := storage' }) := by
      rw [deleteAllScenesInGroup, Proc.read_bind, Proc.bind_ok hLoad, hLoop]
    rw [hCall _ hOk]
    refine ⟨_, .deleteAll f group, h.change hStored' ?_⟩
    rw [h.endpoint]
    exact hMap'
  · have hFail : deleteAllScenesInGroup sizes f group st = (.error err, st) := by
      rw [deleteAllScenesInGroup, Proc.read_bind, Proc.bind_error hLoad]
    rw [hCall _ hFail]
    refine .unchanged h (.deleteAllMissing ?_ ?_)
    · rw [h.endpoint]
      exact hMap.eq_none_of_slots hl
    · rw [h.endpoint]
      exact hErr.imp_right And.left

def OnEndpoints (es : List UInt16) (f : UInt8) (e' : UInt16) (f' : UInt8) (_ : SceneStorageId) : Prop :=
  e' ∈ es ∧ f' = f

theorem removePositions_spec (n index : Nat) (hStored : Stored sizes slots st.storage)
  (hMap : Represents sizes slots m) (hl : slots e f = some l)
  (hLength : index + n = sizes.mMaxScenesPerFabric) (hDone : ∀ k x, k < index → l[k]? ≠ some (some x)) :
  ∃ storage' slots' l', removePositions sizes e f index n st =
      (.ok (), { st with storage := storage' }) ∧
    Stored sizes slots' storage' ∧ slots' e f = some l' ∧ (∀ x, some x ∉ l') ∧
    Represents sizes slots' (m.without (OnEndpoints [e] f)) := by
  induction n generalizing index st slots m l with
  | zero =>
    have hNone : ∀ x, some x ∉ l := by
      intro x hMem
      obtain ⟨k, hk⟩ := List.mem_iff_getElem?.mp hMem
      have hLt := (List.getElem?_eq_some_iff.mp hk).1
      rw [(hStored.wellFormed hl).length] at hLt
      exact hDone k x (by omega) hk
    refine ⟨st.storage, slots, l, rfl, hStored, hl, hNone, ?_⟩
    rw [SceneMap.without_eq]
    · exact hMap
    · rintro e' f' id ⟨hMem, rfl⟩
      obtain rfl := List.mem_singleton.mp hMem
      rw [hMap.eq_none_iff]
      intro data hIn
      rw [Slots.listOf, hl, Option.getD_some] at hIn
      exact hNone _ hIn
  | succ n ih =>
    obtain ⟨storage₁, slots₁, l₁, hOk, hStored₁, hl₁, hMap₁, hFree, hOthers⟩ :=
      removeAt_spec hStored hMap hl index
    have hDone₁ : ∀ k x, k < index + 1 → l₁[k]? ≠ some (some x) := by
      intro k x hLess hk
      by_cases hEq : k = index
      · subst hEq
        exact hFree x hk
      · rcases hOthers k with hSame | hNone
        · exact hDone k x (by omega) (hSame ▸ hk)
        · rw [hNone] at hk
          cases hk
    have hStored₂ : Stored sizes slots₁ ({ st with storage := storage₁ } : SceneTable).storage :=
      hStored₁
    obtain ⟨storage', slots', l', hLoop, hStored', hl', hNone, hMap'⟩ := ih (index + 1) hStored₂
      hMap₁ hl₁ (by omega) hDone₁
    refine ⟨storage', slots', l', ?_, hStored', hl', hNone, ?_⟩
    · rw [removePositions, Proc.attempt_bind, hOk]
      exact hLoop
    · rw [SceneMap.without_without (R := OnEndpoints [e] f)] at hMap'
      · exact hMap'
      · intro e' f' id'
        unfold OnEndpoints
        constructor
        · exact .inr
        · rintro (⟨rfl, hf, -⟩ | hIn)
          · exact ⟨List.mem_singleton_self _, hf⟩
          · exact hIn

theorem Stored.remove (hStored : Stored sizes slots st.storage) (hl : slots e f = some l)
  (hNone : ∀ x, some x ∉ l) :
  Stored sizes (slots.put e f none)
    (Function.update st.storage (.fabricSceneData f e) none) := by
  have hListOf : slots.listOf sizes e f = l := by simp [listOf, hl]
  have hZero : sceneCountOf l = 0 := by
    refine List.countP_eq_zero.mpr fun s hs => ?_
    cases s with
    | none => exact Bool.false_ne_true
    | some x => exact absurd hs (hNone x)
  have hTotal : (slots.put e f none).total e = slots.total e := by
    have hPut := slots.total_put e f none
    rw [scenesOf_eq sizes, hListOf, hZero] at hPut
    have hNoScenes : scenesOf none = 0 := rfl
    omega
  have hAt : ∀ i, slots.at e f i = none := by
    intro i
    rw [← getElem?_listOf slots sizes, hListOf]
    cases hGet : l[i]? with
    | none => rfl
    | some s =>
      cases s with
      | none => rfl
      | some x => exact absurd (List.mem_of_getElem? hGet) (hNone x)
  refine hStored.put ?_ ?_ ?_ ?_ ?_ ?_ ?_
  · intro key hKey
    refine Function.update_of_ne ?_ _ _
    rintro rfl
    exact hKey ⟨rfl, rfl⟩
  · exact Function.update_self ..
  · intro i
    rw [Function.update_of_ne (by simp), hStored.scene, hAt]
    rfl
  · rw [Function.update_of_ne (by simp), hTotal]
    exact hStored.count e
  · intro l' hl'
    cases hl'
  · intro l' hl'
    cases hl'
  · rw [hTotal]
    exact hStored.total e

theorem Represents.removeRecord (hMap : Represents sizes slots m) (hl : slots e f = some l)
  (hNone : ∀ x, some x ∉ l) :
  Represents sizes (slots.put e f none) m := by
  intro e' f' id data
  by_cases hKey : e' = e ∧ f' = f
  · obtain ⟨rfl, rfl⟩ := hKey
    rw [hMap e' f' id data]
    simp only [listOf, hl, put_self, Option.getD_some, Option.getD_none]
    constructor
    · intro hMem
      exact absurd hMem (hNone _)
    · intro hMem
      cases List.eq_of_mem_replicate hMem
  · rw [listOf_put_of_ne hKey]
    exact hMap e' f' id data

theorem removeFabric_spec (f : UInt8) (es : List UInt16) (hStored : Stored sizes slots st.storage)
  (hMap : Represents sizes slots m) :
  ∃ storage' slots', Stored sizes slots' storage' ∧
    ((removeFabric sizes f es st = (.ok (), { st with storage := storage' }) ∧
        Represents sizes slots' (m.without (OnEndpoints es f))) ∨
      ∃ err done e, removeFabric sizes f es st = (.error err, { st with storage := storage' }) ∧
        done ++ [e] <+: es ∧ SceneSpec.NoKey e f ∧
        Represents sizes slots' (m.without (OnEndpoints done f))) := by
  induction es generalizing st slots m with
  | nil =>
    refine ⟨st.storage, slots, hStored, .inl ⟨rfl, ?_⟩⟩
    rw [SceneMap.without_eq]
    · exact hMap
    · rintro e' f' id ⟨hMem, -⟩
      cases hMem
  | cons e rest ih =>
    -- What is done on the first endpoint is part of what is done on all of them.
    have hCompose : ∀ (es : List UInt16),
        (m.without (OnEndpoints [e] f)).without (OnEndpoints es f) =
          m.without (OnEndpoints (e :: es) f) := by
      intro es
      refine SceneMap.without_without fun e' f' id' => ?_
      simp only [OnEndpoints, List.mem_cons, List.not_mem_nil, or_false]
      tauto
    have hRest : ∀ {storage₁ : SceneKey → Option Bytes} {slots₁ : Slots},
        Stored sizes slots₁ storage₁ → Represents sizes slots₁ (m.without (OnEndpoints [e] f)) →
        removeFabric sizes f (e :: rest) st =
          removeFabric sizes f rest { st with storage := storage₁ } →
        ∃ storage' slots', Stored sizes slots' storage' ∧
          ((removeFabric sizes f (e :: rest) st = (.ok (), { st with storage := storage' }) ∧
              Represents sizes slots' (m.without (OnEndpoints (e :: rest) f))) ∨
            ∃ err done e', removeFabric sizes f (e :: rest) st =
                (.error err, { st with storage := storage' }) ∧
              done ++ [e'] <+: e :: rest ∧ SceneSpec.NoKey e' f ∧
              Represents sizes slots' (m.without (OnEndpoints done f))) := by
      intro storage₁ slots₁ hStored₁ hMap₁ hCall
      have hStored₂ : Stored sizes slots₁ ({ st with storage := storage₁ } : SceneTable).storage :=
        hStored₁
      obtain ⟨storage', slots', hStored', ⟨hOk, hMap'⟩ | ⟨err, done, e', hErr, hDone, hKey, hMap'⟩⟩ :=
        ih hStored₂ hMap₁
      · refine ⟨storage', slots', hStored', .inl ⟨hCall.trans hOk, ?_⟩⟩
        rw [← hCompose]
        exact hMap'
      · refine ⟨storage', slots', hStored', .inr ⟨err, e :: done, e', hCall.trans hErr, ?_, hKey, ?_⟩⟩
        · exact (List.prefix_cons_inj e).mpr hDone
        · rw [← hCompose]
          exact hMap'
    rcases load_cases hStored e f maxScenesPerEndpoint sizes.perFabric (Nat.le_refl _) with
      ⟨l, hl, hLoad⟩ | ⟨hl, err, hLoad, hErr⟩
    · obtain ⟨storage₁, slots₁, l₁, hLoop, hStored₁, hl₁, hNone, hMap₁⟩ := removePositions_spec
        sizes.mMaxScenesPerFabric 0 hStored hMap hl (Nat.zero_add _)
        fun k x hLess => absurd hLess (Nat.not_lt_zero k)
      obtain ⟨hFabric, hEndpoint⟩ := hStored.keys hl
      have hStored₂ : Stored sizes slots₁ ({ st with storage := storage₁ } : SceneTable).storage :=
        hStored₁
      refine hRest (hStored₂.remove hl₁ hNone) (hMap₁.removeRecord hl₁ hNone) ?_
      have hKey : (dataOf e f maxScenesPerFabric maxScenesPerEndpoint l).key =
          .ok (.fabricSceneData f e) := checkedKey_ok hFabric hEndpoint
      have hRecord : storage₁ (.fabricSceneData f e) = some
          (serializeFabric (UInt8.ofNat (sceneCountOf l₁)) (l₁.map Slot.id)).bytes := by
        rw [hStored₁.fabric, hl₁]
        rfl
      rw [removeFabric, Proc.attempt_bind, defaultFabricData, hLoad]
      simp only [Proc.bind_ok hLoop, hKey, Proc.bind_apply, Proc.lift_apply, syncDeleteKeyValue,
        Proc.read_apply, hRecord, Proc.modify_apply]
    · have hEmpty : ∀ id, m e f id = none := hMap.eq_none_of_slots hl
      rcases hErr with rfl | ⟨hKey, hNotFound, -⟩
      · refine hRest hStored ?_ ?_
        · rw [SceneMap.without_eq]
          · exact hMap
          · rintro e' f' id ⟨hMem, rfl⟩
            obtain rfl := List.mem_singleton.mp hMem
            exact hEmpty id
        · rw [removeFabric, Proc.attempt_bind, defaultFabricData, hLoad]
          rfl
      · refine ⟨st.storage, slots, hStored, .inr ⟨err, [], e, ?_, ?_, hKey, ?_⟩⟩
        · rw [removeFabric, Proc.attempt_bind, defaultFabricData, hLoad]
          simp only [hNotFound, ↓reduceIte, Proc.fail_apply]
        · exact ⟨rest, rfl⟩
        · rw [SceneMap.without_eq]
          · exact hMap
          · rintro e' f' id ⟨hMem, -⟩
            cases hMem

theorem Refines.removeFabric (h : Refines sizes st spec) (f : UInt8) :
  Simulates sizes endpoints st spec (.removeFabric f)
    ((SceneOp.removeFabric f).call sizes endpoints st) := by
  obtain ⟨slots, hStored, hMap⟩ := h.records
  have hCall : ∀ result, Scenes.removeFabric sizes f endpoints st = result →
      (SceneOp.removeFabric f).call sizes endpoints st =
        (result.1.map fun _ => SceneValue.done, result.2) := by
    rintro result rfl
    exact Proc.bind_pure_apply ..
  obtain ⟨storage', slots', hStored', ⟨hOk, hMap'⟩ | ⟨err, done, e, hErr, hDone, hKey, hMap'⟩⟩ :=
    removeFabric_spec f endpoints hStored hMap
  · rw [hCall _ hOk]
    exact ⟨_, .removeFabric f, h.change hStored' hMap'⟩
  · rw [hCall _ hErr]
    exact ⟨_, .removeFabricRefused hDone hKey, h.change hStored' hMap'⟩

end Chip.Scenes
