import Chip.Scenes.SceneRefinement

/-! Iterating over the scenes of a fabric. An iterator goes from slot to slot, so that what
it has yet to return are the scenes in the slots from its position on. -/
namespace Chip.Scenes

open List Proc TLV

variable {sizes : TableSizes} {endpoints : List UInt16} {st : SceneTable} {spec : SceneSpec}
  {slots : Slots}

def ahead (l : List Slot) (index : Nat) : List (SceneStorageId × SceneData) :=
  usedSlots (l.drop index)

variable {l : List Slot}

theorem ahead_none {i : Nat} (h : l[i]? = some none) : ahead l i = ahead l (i + 1) := by
  obtain ⟨hLt, hGet⟩ := List.getElem?_eq_some_iff.mp h
  unfold ahead
  rw [List.drop_eq_getElem_cons hLt, hGet]
  rfl

theorem ahead_some {i : Nat} {x : SceneStorageId × SceneData} (h : l[i]? = some (some x)) :
  ahead l i = x :: ahead l (i + 1) := by
  obtain ⟨hLt, hGet⟩ := List.getElem?_eq_some_iff.mp h
  unfold ahead
  rw [List.drop_eq_getElem_cons hLt, hGet]
  rfl

theorem ahead_end {i : Nat} (h : l.length ≤ i) : ahead l i = [] := by
  unfold ahead
  rw [drop_eq_nil_of_le h]
  rfl

theorem nextSlot_spec (hForm : WellFormed sizes l) {sceneMap : List SceneStorageId}
  (hIds : ∀ (j : Nat) (s : Slot), l[j]? = some s → sceneMap.getD j .cleared = Slot.id s) (n start : Nat)
  (hLength : start + n = l.length) :
  (nextSlot sceneMap start n = none ∧ ahead l start = [] ∧
      ∀ j, start ≤ j → (l[j]?).join = none) ∨
  ∃ index x, nextSlot sceneMap start n = some index ∧ l[index]? = some (some x) ∧
    ahead l start = x :: ahead l (index + 1) ∧ start ≤ index ∧
    ∀ j, start ≤ j → j < index → (l[j]?).join = none := by
  induction n generalizing start with
  | zero =>
    refine .inl ⟨rfl, ahead_end (by omega), ?_⟩
    intro j hj
    rw [getElem?_eq_none (by omega)]
    rfl
  | succ n ih =>
    obtain ⟨s, hAt⟩ : ∃ s, l[start]? = some s := ⟨_, getElem?_eq_getElem (by omega)⟩
    cases s with
    | some x =>
      have hValid := hForm.valid x (mem_of_getElem? hAt)
      refine .inr ⟨start, x, ?_, hAt, ahead_some hAt, Nat.le_refl _, ?_⟩
      · rw [nextSlot, hIds start _ hAt]
        exact if_pos hValid
      · intro j hj hLess
        omega
    | none =>
      have hSkip : nextSlot sceneMap start (n + 1) = nextSlot sceneMap (start + 1) n := by
        rw [nextSlot, hIds start _ hAt]
        rfl
      have hHere : ∀ j, start ≤ j → j < start + 1 → (l[j]?).join = none := by
        intro j hj hLess
        obtain rfl : j = start := by omega
        rw [hAt]
        rfl
      rw [hSkip, ahead_none hAt]
      rcases ih (start + 1) (by omega) with ⟨hNone, hEnd, hLast⟩ |
        ⟨index, x, hSome, hGet, hAhead, hLe, hFirst⟩
      · refine .inl ⟨hNone, hEnd, fun j hj => ?_⟩
        by_cases hLess : j < start + 1
        · exact hHere j hj hLess
        · exact hLast j (by omega)
      · refine .inr ⟨index, x, hSome, hGet, hAhead, by omega, fun j hj hLess => ?_⟩
        by_cases hNext : j < start + 1
        · exact hHere j hj hNext
        · exact hFirst j (by omega) hLess

theorem iteratorNext_spec (hStored : Stored sizes slots st.storage) (it : SceneEntryIterator) :
  (∃ stop, iteratorNext sizes it st = (.ok (none, { it with mSceneIndex := stop }), st) ∧
    ahead (slots.listOf sizes it.mEndpoint it.mFabric) it.mSceneIndex = [] ∧
    (∀ j, it.mSceneIndex ≤ j → slots.at it.mEndpoint it.mFabric j = none) ∧
    (stop = it.mSceneIndex ∨ stop = max it.mSceneIndex sizes.mMaxScenesPerFabric)) ∨
  ∃ index x, iteratorNext sizes it st =
      (.ok (some ⟨x.1, x.2⟩, { it with mSceneIndex := index + 1 }), st) ∧
    ahead (slots.listOf sizes it.mEndpoint it.mFabric) it.mSceneIndex =
      x :: ahead (slots.listOf sizes it.mEndpoint it.mFabric) (index + 1) ∧
    slots.at it.mEndpoint it.mFabric index = some x ∧ it.mSceneIndex ≤ index ∧
    ∀ j, it.mSceneIndex ≤ j → j < index → slots.at it.mEndpoint it.mFabric j = none := by
  rcases load_cases hStored it.mEndpoint it.mFabric maxScenesPerEndpoint sizes.perFabric
    (Nat.le_refl _) with ⟨l, hl, hLoad⟩ | ⟨hl, err, hLoad, -⟩
  · obtain rfl : slots.listOf sizes it.mEndpoint it.mFabric = l := by simp [Slots.listOf, hl]
    have hForm := hStored.wellFormed hl
    have hAll : ∀ j, ((slots.listOf sizes it.mEndpoint it.mFabric)[j]?).join =
        slots.at it.mEndpoint it.mFabric j := Slots.getElem?_listOf slots sizes _ _
    by_cases hEnd : it.mSceneIndex ≤ sizes.mMaxScenesPerFabric
    · rcases nextSlot_spec hForm
        (dataOf_getD it.mEndpoint it.mFabric maxScenesPerFabric maxScenesPerEndpoint)
        (sizes.mMaxScenesPerFabric - it.mSceneIndex) it.mSceneIndex (by rw [hForm.length]; omega) with
        ⟨hNone, hAhead, hLast⟩ | ⟨index, x, hSome, hGet, hAhead, hLe, hFirst⟩
      · refine .inl ⟨max it.mSceneIndex sizes.mMaxScenesPerFabric, ?_, hAhead, ?_, .inr rfl⟩
        · rw [iteratorNext, attempt_bind, defaultFabricData, hLoad]
          simp only [hNone]
          rfl
        · intro j hj
          rw [← hAll]
          exact hLast j hj
      · have hSlot : slots.at it.mEndpoint it.mFabric index = some x := by
          rw [← hAll, hGet]
          rfl
        refine .inr ⟨index, x, ?_, hAhead, hSlot, hLe, ?_⟩
        · rw [iteratorNext, attempt_bind, defaultFabricData, hLoad]
          simp only [hSome, attempt_bind, loadScene_some hStored hSlot]
          rfl
        · intro j hj hLess
          rw [← hAll]
          exact hFirst j hj hLess
    · have hZero : sizes.mMaxScenesPerFabric - it.mSceneIndex = 0 := by omega
      refine .inl ⟨max it.mSceneIndex sizes.mMaxScenesPerFabric, ?_, ?_, ?_, .inr rfl⟩
      · rw [iteratorNext, attempt_bind, defaultFabricData, hLoad, hZero]
        rfl
      · exact ahead_end (by rw [hForm.length]; omega)
      · intro j hj
        rw [← hAll, getElem?_eq_none (by rw [hForm.length]; omega)]
        rfl
  · refine .inl ⟨it.mSceneIndex, ?_, ?_, ?_, .inl rfl⟩
    · rw [iteratorNext, attempt_bind, defaultFabricData, hLoad]
      rfl
    · have hFree : ∀ x, x ∉ ahead (slots.listOf sizes it.mEndpoint it.mFabric) it.mSceneIndex := by
        intro x hx
        have hMem := mem_of_mem_drop (mem_usedSlots.mp hx)
        rw [Slots.listOf, hl, Option.getD_none] at hMem
        cases eq_of_mem_replicate hMem
      exact eq_nil_iff_forall_not_mem.mpr hFree
    · intro j _
      simp [Slots.at, hl]

theorem listGroupLoop_spec (hStored : Stored sizes slots st.storage) (group : UInt16) (size fuel : Nat)
  (it : SceneEntryIterator) (ids : List UInt8)
  (hFuel : (ahead (slots.listOf sizes it.mEndpoint it.mFabric) it.mSceneIndex).length < fuel)
  (hSize : ids.length ≤ size) :
  listGroupLoop sizes group size fuel it ids st =
    if (ids ++ ((ahead (slots.listOf sizes it.mEndpoint it.mFabric) it.mSceneIndex).filter
        (·.1.mGroupId = group)).map (·.1.mSceneId)).length ≤ size then
      (.ok (ids ++ ((ahead (slots.listOf sizes it.mEndpoint it.mFabric) it.mSceneIndex).filter
        (·.1.mGroupId = group)).map (·.1.mSceneId)), st)
    else (.error .bufferTooSmall, st) := by
  induction fuel generalizing it ids with
  | zero => omega
  | succ fuel ih =>
    rcases iteratorNext_spec hStored it with ⟨stop, hNext, hAhead, -, -⟩ |
      ⟨index, x, hNext, hAhead, -, -, -⟩
    · rw [listGroupLoop, bind_ok hNext, hAhead]
      simp [hSize]
    · rw [hAhead] at hFuel ⊢
      have hRest := fun ids hSize => ih { it with mSceneIndex := index + 1 } ids
        (Nat.lt_of_succ_lt_succ hFuel) hSize
      rw [listGroupLoop, bind_ok hNext]
      by_cases hGroup : x.1.mGroupId = group
      · rw [filter_cons_of_pos (by simpa using hGroup), map_cons]
        by_cases hRoom : ids.length < size
        · have hLoop := hRest (ids ++ [x.1.mSceneId]) (by simpa using hRoom)
          simp only [append_assoc, singleton_append] at hLoop
          rw [← hLoop]
          simp only [hGroup, ↓reduceIte, verify_bind, hRoom]
        · have hLong : ¬ (ids ++ x.1.mSceneId :: ((ahead (slots.listOf sizes it.mEndpoint it.mFabric)
              (index + 1)).filter (·.1.mGroupId = group)).map (·.1.mSceneId)).length ≤ size := by
            rw [length_append, length_cons]
            omega
          rw [if_neg hLong]
          simp only [hGroup, ↓reduceIte, verify_bind, hRoom]
      · rw [filter_cons_of_neg (by simpa using hGroup), ← hRest ids hSize]
        simp only [hGroup, ↓reduceIte]

/-- The loop of a caller that goes through all scenes of an iterator. -/
def iterateAll (sizes : TableSizes) : Nat → SceneEntryIterator → SceneM (List SceneTableEntry)
  | 0, _ => Proc.fail .internal
  | fuel + 1, it => do
      match ← iteratorNext sizes it with
      | (none, _) => pure []
      | (some entry, it) => do
          let entries ← iterateAll sizes fuel it
          pure (entry :: entries)

theorem iterateAll_spec (hStored : Stored sizes slots st.storage) (fuel : Nat) (it : SceneEntryIterator)
  (hFuel : (ahead (slots.listOf sizes it.mEndpoint it.mFabric) it.mSceneIndex).length < fuel) :
  iterateAll sizes fuel it st =
    (.ok ((ahead (slots.listOf sizes it.mEndpoint it.mFabric) it.mSceneIndex).map
      fun x => ⟨x.1, x.2⟩), st) := by
  induction fuel generalizing it with
  | zero => omega
  | succ fuel ih =>
    rcases iteratorNext_spec hStored it with ⟨stop, hNext, hAhead, -, -⟩ |
      ⟨index, x, hNext, hAhead, -, -, -⟩
    · rw [iterateAll, bind_ok hNext, hAhead]
      rfl
    · rw [hAhead] at hFuel ⊢
      have hRest := ih { it with mSceneIndex := index + 1 } (Nat.lt_of_succ_lt_succ hFuel)
      rw [iterateAll, bind_ok hNext]
      exact bind_ok hRest

theorem ahead_length_le (l : List Slot) (index : Nat) : (ahead l index).length ≤ l.length := by
  unfold ahead
  rw [length_usedSlots]
  refine Nat.le_trans (sceneCountOf_le _) ?_
  rw [length_drop]
  omega

theorem newIterator_ok (hStored : Stored sizes slots st.storage) (f : UInt8) :
  newIterator sizes f st = (.ok ⟨f, st.mEndpointId, 0⟩, st) := by
  rw [newIterator, read_bind, attempt_bind]
  rcases fabricData_load hStored st.mEndpointId f with ⟨l, -, hLoad⟩ | ⟨-, err, hLoad, -⟩
  · rw [hLoad]
    rfl
  · rw [hLoad]
    rfl

theorem Refines.poolUsed (h : Refines sizes st spec) (hFull : none ∉ st.mSceneEntryIterators) :
  spec.PoolUsed := by
  have hSet : {iterator | (spec.iterators iterator).isSome} =
      (st.mSceneEntryIterators.owners.toFinset : Set Nat) := by
    ext iterator
    rw [Finset.mem_coe, mem_toFinset, ← OwnedPool.isSome_lookup, Set.mem_setOf_eq, h.iterators,
      Option.isSome_map]
  rw [SceneSpec.PoolUsed, hSet, Set.ncard_coe_finset, toFinset_card_of_nodup h.owners,
    OwnedPool.length_owners hFull, h.pool]

def groupIds (group : UInt16) (l : List Slot) : List UInt8 :=
  ((usedSlots l).filter (·.1.mGroupId = group)).map (·.1.mSceneId)

theorem nodup_groupIds (hForm : WellFormed sizes l) (group : UInt16) :
  (groupIds group l).Nodup := by
  have hNodup := nodup_usedSlots hForm.unique
  refine List.Nodup.map_on ?_ (hNodup.of_map.filter _)
  intro x hx y hy hScene
  obtain ⟨hx, hxGroup⟩ := mem_filter.mp hx
  obtain ⟨hy, hyGroup⟩ := mem_filter.mp hy
  have hId : x.1 = y.1 := by
    obtain ⟨⟨xGroup, xScene⟩, xData⟩ := x
    obtain ⟨⟨yGroup, yScene⟩, yData⟩ := y
    simp only [decide_eq_true_eq] at hxGroup hyGroup hScene
    rw [hxGroup, hyGroup, hScene]
  exact inj_on_of_nodup_map hNodup hx hy hId

theorem Represents.mem_groupIds {m : SceneMap} (hMap : Represents sizes slots m) {e : UInt16}
  {f : UInt8} {group : UInt16} {scene : UInt8} :
  scene ∈ groupIds group (slots.listOf sizes e f) ↔ (m e f ⟨group, scene⟩).isSome := by
  rw [hMap.isSome_iff, groupIds, mem_map, mem_map]
  constructor
  · rintro ⟨x, hx, rfl⟩
    obtain ⟨hx, hGroup⟩ := mem_filter.mp hx
    refine ⟨x, hx, ?_⟩
    rw [← of_decide_eq_true hGroup]
  · rintro ⟨x, hx, hId⟩
    refine ⟨x, mem_filter.mpr ⟨hx, ?_⟩, ?_⟩
    · rw [hId]
      exact decide_eq_true rfl
    · rw [hId]

section

variable (h : Refines sizes st spec)
include h

theorem Refines.list (f : UInt8) (group : UInt16) (size : Nat) :
  Simulates sizes endpoints st spec (.list f group size)
    ((SceneOp.list f group size).call sizes endpoints st) := by
  obtain ⟨slots, hStored, hMap⟩ := h.records
  have hForm := hStored.wellFormed_listOf st.mEndpointId f
  have hCall : ∀ result, getAllSceneIdsInGroup sizes f group size st = result →
      (SceneOp.list f group size).call sizes endpoints st =
        (result.1.map SceneValue.ids, result.2) := by
    rintro result rfl
    exact Proc.bind_pure_apply ..
  by_cases hRoom : st.mSceneEntryIterators.any Option.isNone = true
  · have hFuel : (ahead (slots.listOf sizes st.mEndpointId f) 0).length <
        sizes.mMaxScenesPerFabric + 1 := by
      have hLe := ahead_length_le (slots.listOf sizes st.mEndpointId f) 0
      rw [hForm.length] at hLe
      omega
    have hLoop := listGroupLoop_spec hStored group size (sizes.mMaxScenesPerFabric + 1)
      ⟨f, st.mEndpointId, 0⟩ [] hFuel (Nat.zero_le _)
    have hList : getAllSceneIdsInGroup sizes f group size st =
        if (groupIds group (slots.listOf sizes st.mEndpointId f)).length ≤ size then
          (.ok (groupIds group (slots.listOf sizes st.mEndpointId f)), st)
        else (.error .bufferTooSmall, st) := by
      rw [getAllSceneIdsInGroup, Proc.read_bind, Proc.verify_bind, if_pos hRoom,
        Proc.bind_ok (newIterator_ok hStored f), hLoop]
      rfl
    by_cases hFits : (groupIds group (slots.listOf sizes st.mEndpointId f)).length ≤ size
    · rw [if_pos hFits] at hList
      rw [hCall _ hList]
      refine .unchanged h (.list (nodup_groupIds hForm group) fun scene => ?_)
      rw [h.endpoint]
      exact hMap.mem_groupIds
    · rw [if_neg hFits] at hList
      rw [hCall _ hList]
      refine .unchanged h (.listTooLong ?_)
      have hSet : {scene | (spec.scenes st.mEndpointId f ⟨group, scene⟩).isSome} =
          ((groupIds group (slots.listOf sizes st.mEndpointId f)).toFinset : Set UInt8) := by
        ext scene
        rw [Finset.mem_coe, List.mem_toFinset]
        exact hMap.mem_groupIds.symm
      rw [h.endpoint, SceneMap.groupCount, hSet, Set.ncard_coe_finset,
        List.toFinset_card_of_nodup (nodup_groupIds hForm group)]
      omega
  · have hFail : getAllSceneIdsInGroup sizes f group size st = (.error .internal, st) := by
      rw [getAllSceneIdsInGroup, Proc.read_bind, Proc.verify_bind, if_neg hRoom]
    rw [hCall _ hFail]
    refine .unchanged h (.listFails (h.poolUsed fun hNone => hRoom ?_))
    exact List.any_eq_true.mpr ⟨none, hNone, rfl⟩

theorem Refines.iterate (iterator : Nat) (f : UInt8) :
  Simulates sizes endpoints st spec (.iterate iterator f)
    ((SceneOp.iterate iterator f).call sizes endpoints st) := by
  obtain ⟨slots, hStored, hMap⟩ := h.records
  have hCall : ∀ result, iterateSceneEntries sizes iterator f st = result →
      (SceneOp.iterate iterator f).call sizes endpoints st =
        (result.1.map fun _ => SceneValue.done, result.2) := by
    rintro result rfl
    exact Proc.bind_pure_apply ..
  cases hClaim : st.mSceneEntryIterators.claim iterator ⟨f, st.mEndpointId, 0⟩ with
  | none =>
    have hFail : iterateSceneEntries sizes iterator f st = (.error .internal, st) := by
      rw [iterateSceneEntries, Proc.bind_ok (newIterator_ok hStored f), Proc.read_bind, hClaim]
      rfl
    rw [hCall _ hFail]
    exact .unchanged h (.iterateFails (h.poolUsed fun hNone =>
      OwnedPool.claim_ne_none _ (.inr hNone) hClaim))
  | some iterators =>
    have hOk : iterateSceneEntries sizes iterator f st =
        (.ok (), { st with mSceneEntryIterators := iterators }) := by
      rw [iterateSceneEntries, Proc.bind_ok (newIterator_ok hStored f), Proc.read_bind, hClaim]
      rfl
    rw [hCall _ hOk]
    refine ⟨_, .iterate iterator f, h.records, h.endpoint, ?_, OwnedPool.nodup_claim h.owners hClaim,
      (OwnedPool.length_claim hClaim).trans h.pool⟩
    intro i
    rw [OwnedPool.lookup_claim hClaim]
    by_cases hEq : i = iterator
    · subst hEq
      simp [SceneSpec.setIterator, h.endpoint]
    · simp [SceneSpec.setIterator, hEq, h.iterators i]

theorem Refines.setIterator {iterator : Nat} {it it' : SceneEntryIterator}
  (hIt : st.mSceneEntryIterators.lookup iterator = some it) :
  Refines sizes { st with mSceneEntryIterators := st.mSceneEntryIterators.replace iterator it' }
    (spec.setIterator iterator (some (it'.mEndpoint, it'.mFabric, it'.mSceneIndex))) := by
  refine ⟨h.records, h.endpoint, ?_, ?_, ?_⟩
  · intro i
    rw [OwnedPool.lookup_replace]
    by_cases hEq : i = iterator
    · subst hEq
      simp [SceneSpec.setIterator, hIt]
    · simp [SceneSpec.setIterator, hEq, h.iterators i]
  · rw [OwnedPool.owners_replace]
    exact h.owners
  · rw [OwnedPool.length_replace]
    exact h.pool

theorem Refines.next (iterator : Nat) :
  Simulates sizes endpoints st spec (.next iterator)
    ((SceneOp.next iterator).call sizes endpoints st) := by
  obtain ⟨slots, hStored, hMap⟩ := h.records
  have hCall : ∀ result, nextSceneEntry sizes iterator st = result →
      (SceneOp.next iterator).call sizes endpoints st =
        (result.1.map SceneValue.next, result.2) := by
    rintro result rfl
    exact Proc.bind_pure_apply ..
  have hIterator := h.iterators iterator
  cases hIt : st.mSceneEntryIterators.lookup iterator with
  | none =>
    have hFail : nextSceneEntry sizes iterator st = (.error .invalidArgument, st) := by
      rw [nextSceneEntry, Proc.read_bind, hIt]
      rfl
    rw [hCall _ hFail]
    rw [hIt] at hIterator
    exact .unchanged h (.nextUnused hIterator)
  | some it =>
    rw [hIt] at hIterator
    have hNextCall : ∀ entry it', iteratorNext sizes it st = (.ok (entry, it'), st) →
        nextSceneEntry sizes iterator st = (.ok entry,
          { st with mSceneEntryIterators := st.mSceneEntryIterators.replace iterator it' }) := by
      intro entry it' hNext
      rw [nextSceneEntry, Proc.read_bind, hIt]
      simp only
      rw [Proc.bind_ok hNext]
      rfl
    rcases iteratorNext_spec hStored it with ⟨stop, hNext, -, hLast, hStop⟩ |
      ⟨index, x, hNext, -, hSlot, hLe, hFirst⟩
    · rw [hCall _ (hNextCall _ _ hNext)]
      refine ⟨_, .nextEnd hIterator ?_ hStop, h.setIterator hIt⟩
      intro j hj
      rw [positions_eq hStored, hLast j hj]
      rfl
    · rw [hCall _ (hNextCall _ _ hNext)]
      have hAt : st.positions it.mEndpoint it.mFabric index = some x.1 := by
        rw [positions_eq hStored, hSlot]
        rfl
      have hScene : spec.scenes it.mEndpoint it.mFabric x.1 = some x.2 := by
        have hJoin := Slots.getElem?_listOf slots sizes it.mEndpoint it.mFabric index
        rw [hSlot, Option.join_eq_some_iff] at hJoin
        exact (hMap ..).mpr (List.mem_of_getElem? hJoin)
      refine ⟨_, .next hIterator hLe hAt ?_ hScene, h.setIterator hIt⟩
      intro j hj hLess
      rw [positions_eq hStored, hFirst j hj hLess]
      rfl

theorem Refines.release (iterator : Nat) :
  Simulates sizes endpoints st spec (.release iterator)
    ((SceneOp.release iterator).call sizes endpoints st) := by
  refine ⟨_, .release iterator, h.records, h.endpoint, ?_, OwnedPool.nodup_free h.owners,
    OwnedPool.length_free.trans h.pool⟩
  intro i
  change _ = ((st.mSceneEntryIterators.free iterator).lookup i).map _
  rw [OwnedPool.lookup_free h.owners]
  by_cases hEq : i = iterator
  · subst hEq
    simp [SceneSpec.setIterator]
  · simp [SceneSpec.setIterator, hEq, h.iterators i]

end

end Chip.Scenes
