import Chip.Access.AclRefinement

/-! The example delegate refines its specification, in runs in which the delegates are
fixed after a deletion as they should be. -/
namespace Chip.Access

open AclStore List OwnedPool AclStore.EntryIteratorDelegate

/-- The delegates that `DeleteEntry` fixes for the slot at the relative index are those it
should fix for the deleted slot: no object refers to a slot before that one, the pool has a
copy for every object that refers to the slot itself, and no iterator is between the two. -/
structure AclStore.FixupApart (st : AclStore) (slot index : Nat) : Prop where
  objects : ∀ entry place, st.delegates.lookup entry = some (.acl place) →
    ¬ (index ≤ place ∧ place < slot)
  copies : st.delegates.countP (fun delegate => delegate.any fun x => x.2 = .acl slot) ≤
    st.pool.countP fun storage => !storage.mInUse
  iterators : ∀ iterator delegate place, st.iterators.lookup iterator = some delegate →
    delegate.mStorage = some place → ¬ (index ≤ place ∧ place < slot)

def AclStore.FixupExact (st : AclStore) (slot index : Nat) : Prop :=
  index = slot ∨ st.FixupApart slot index

theorem countP_set_copy {pool : List EntryStorage} {index : Nat} {storage : EntryStorage}
  (hFind : findInPool pool = some index) (hUse : storage.mInUse = true) :
  (pool.set index storage).countP (fun s => !s.mInUse) + 1 =
    pool.countP fun s => !s.mInUse := by
  induction pool generalizing index with
  | nil => cases hFind
  | cons s pool ih =>
    unfold findInPool at hFind ih
    rw [findIdx?_cons] at hFind
    cases hs : s.mInUse with
    | false =>
      rw [hs] at hFind
      cases hFind
      simp [hs, hUse]
    | true =>
      rw [hs] at hFind
      obtain ⟨i, hi, rfl⟩ := Option.map_eq_some_iff.mp hFind
      have hRest := ih hi
      simp only [set_cons_succ, countP_cons, hs]
      omega

theorem fixBeforeDelete_leaves_none {slot : Nat} {storage : EntryStorage}
  (hUse : storage.mInUse = true) {delegates : OwnedPool StorageRef} {pool : List EntryStorage}
  (hRoom : delegates.countP (fun delegate => delegate.any fun x => x.2 = .acl slot) ≤
    pool.countP fun s => !s.mInUse) (entry : Nat) :
  (fixBeforeDelete slot storage delegates pool).1.lookup entry ≠ some (.acl slot) := by
  induction delegates generalizing pool with
  | nil =>
    intro hAt
    cases hAt
  | cons delegate rest ih =>
    cases delegate with
    | none => exact ih (by simpa using hRoom)
    | some x =>
      obtain ⟨owner, ref⟩ := x
      simp only [countP_cons, Option.any_some] at hRoom
      unfold fixBeforeDelete
      cases hFind : findInPool pool with
      | none =>
        -- a full pool: no object is at the slot
        have hFull : pool.countP (fun s => !s.mInUse) = 0 := by
          rw [countP_eq_zero]
          intro s hs
          have hIn := findIdx?_eq_none_iff.mp hFind s hs
          simpa using hIn
        have hAll : (some (owner, ref) :: rest).countP
            (fun delegate => delegate.any fun x => x.2 = .acl slot) = 0 := by
          simp only [countP_cons, Option.any_some]
          omega
        intro hAt
        have hMem := mem_of_lookup hAt
        have hNot := countP_eq_zero.mp hAll _ hMem
        simp at hNot
      | some index =>
        by_cases hRef : ref = .acl slot
        · have hSet := countP_set_copy hFind hUse
          simp only [hRef, ↓reduceIte, lookup_cons]
          simp only [hRef, decide_true, ↓reduceIte] at hRoom
          by_cases hOwner : owner = entry
          · rw [if_pos hOwner]
            intro hAt
            cases hAt
          · rw [if_neg hOwner]
            exact ih (by omega)
        · simp only [hRef, ↓reduceIte, lookup_cons]
          simp only [hRef, decide_false, Bool.false_eq_true, ↓reduceIte, Nat.add_zero] at hRoom
          by_cases hOwner : owner = entry
          · rw [if_pos hOwner]
            exact fun hEq => hRef (Option.some.inj hEq)
          · rw [if_neg hOwner]
            exact ih hRoom

theorem AclStore.FixupApart.not_between {st : AclStore} {slot index entry place : Nat}
  (h : st.FixupApart slot index) (hUse : (st.storageAt (.acl slot)).mInUse = true)
  (hRef : st.delegates.lookup entry = some (.acl place))
  (hFixed : (fixBeforeDelete slot (st.storageAt (.acl slot)) st.delegates st.pool).1.lookup entry =
    some (.acl place)) : ¬ (index ≤ place ∧ place ≤ slot) := by
  rintro ⟨hLe, hPlace⟩
  rcases Nat.lt_or_eq_of_le hPlace with hLt | rfl
  · exact h.objects entry place hRef ⟨hLe, hLt⟩
  · exact fixBeforeDelete_leaves_none hUse h.copies entry hFixed

section Removal

variable {before after : List (Nat × EntryStorage)} {id : Nat} {value : EntryStorage}
  (hNodup : ((before ++ (id, value) :: after).map Prod.fst).Nodup)

include hNodup

theorem id_notMem : id ∉ before.map Prod.fst ∧ id ∉ after.map Prod.fst := by
  rw [map_append, map_cons] at hNodup
  have hAbsent := (nodup_middle.mp hNodup).notMem
  exact not_or.mp (by simpa [mem_append] using hAbsent)

theorem filter_ids_of_sublist {l : List (Nat × EntryStorage)}
  (hSub : l.Sublist before ∨ l.Sublist after) :
  (l.map Prod.fst).filter (· ≠ id) = l.map Prod.fst := by
  refine filter_eq_self.mpr fun i hi => ?_
  have hNe : i ≠ id := by
    rintro rfl
    rcases hSub with hSub | hSub
    · exact (id_notMem hNodup).1 ((hSub.map Prod.fst).mem hi)
    · exact (id_notMem hNodup).2 ((hSub.map Prod.fst).mem hi)
  simpa using hNe

theorem idsAfter_remove_ahead (fabricIndex : Option UInt8) {k : Nat} (hk : k ≤ before.length) :
  idsAfter (before ++ after) fabricIndex k =
    (idsAfter (before ++ (id, value) :: after) fabricIndex k).filter (· ≠ id) := by
  unfold idsAfter
  rw [drop_append_of_le_length hk, drop_append_of_le_length hk, filter_append,
    filter_append, map_append, map_append, filter_append]
  have hBefore := filter_ids_of_sublist hNodup (l := (before.drop k).filter fun x =>
    matchesFabric fabricIndex x.2) (.inl (filter_sublist.trans (drop_sublist ..)))
  have hAfter := filter_ids_of_sublist hNodup (l := after.filter fun x =>
    matchesFabric fabricIndex x.2) (.inr filter_sublist)
  rw [hBefore]
  congr 1
  by_cases hMatch : matchesFabric fabricIndex value = true
  · rw [filter_cons_of_pos (by simpa using hMatch), map_cons,
      filter_cons_of_neg (by simp), hAfter]
  · rw [filter_cons_of_neg (by simpa using hMatch), hAfter]

theorem idsAfter_remove_passed (fabricIndex : Option UInt8) {k : Nat} (hk : before.length < k) :
  idsAfter (before ++ after) fabricIndex (k - 1) =
    (idsAfter (before ++ (id, value) :: after) fabricIndex k).filter (· ≠ id) := by
  obtain ⟨j, rfl⟩ : ∃ j, k = before.length + 1 + j := ⟨k - (before.length + 1), by omega⟩
  have hLeft : (before ++ after).drop (before.length + 1 + j - 1) = after.drop j := by
    rw [show before.length + 1 + j - 1 = before.length + j by omega, drop_append]
    simp
  have hRight : (before ++ (id, value) :: after).drop (before.length + 1 + j) = after.drop j := by
    rw [show before.length + 1 + j = before.length + (j + 1) by omega, drop_append]
    simp
  unfold idsAfter
  rw [hLeft, hRight]
  exact (filter_ids_of_sublist hNodup
    (.inr (filter_sublist.trans (drop_sublist ..)))).symm

theorem ids_remove {place i : Nat}
  (hId : ((before ++ (id, value) :: after).map Prod.fst)[place]? = some i) :
  (place = before.length ∧ i = id) ∨
  i ≠ id ∧ (place < before.length ∧ ((before ++ after).map Prod.fst)[place]? = some i ∨
    before.length < place ∧ ((before ++ after).map Prod.fst)[place - 1]? = some i) := by
  have hSelf : ((before ++ (id, value) :: after).map Prod.fst)[before.length]? = some id := by simp
  have hNe : place ≠ before.length → i ≠ id := by
    rintro hPlace rfl
    obtain ⟨hLt, -⟩ := List.getElem?_eq_some_iff.mp hId
    exact hPlace ((List.getElem?_inj hLt hNodup).mp (hId.trans hSelf.symm))
  rcases Nat.lt_trichotomy place before.length with hLt | rfl | hGt
  · refine .inr ⟨hNe (Nat.ne_of_lt hLt), .inl ⟨hLt, ?_⟩⟩
    rw [List.map_append, List.getElem?_append_left (by simpa using hLt)] at hId ⊢
    exact hId
  · rw [hSelf] at hId
    exact .inl ⟨rfl, (Option.some.inj hId).symm⟩
  · refine .inr ⟨hNe (Nat.ne_of_gt hGt), .inr ⟨hGt, ?_⟩⟩
    obtain ⟨j, rfl⟩ : ∃ j, place = before.length + 1 + j := ⟨place - (before.length + 1), by omega⟩
    rw [show before.length + 1 + j = (before.map Prod.fst).length + (j + 1) by
        rw [List.length_map]; omega,
      List.map_append, List.getElem?_append_right (Nat.le_add_right ..), Nat.add_sub_cancel_left,
      List.map_cons, List.getElem?_cons_succ] at hId
    rw [show before.length + 1 + j - 1 = (before.map Prod.fst).length + j by
        rw [List.length_map]; omega,
      List.map_append, List.getElem?_append_right (Nat.le_add_right ..), Nat.add_sub_cancel_left]
    exact hId

end Removal

namespace Refines

variable {config : AclConfig} {st st' : AclStore} {spec : AclSpec}
  {before after : List (Nat × EntryStorage)} {id index : Nat} {value : EntryStorage}

def handlesAfter (spec : AclSpec) (st : AclStore) (id : Nat) (value : EntryStorage) (entry : Nat) :
  Handle :=
  match spec.handles entry with
  | .live i =>
    if i = id then (if (st.delegates.lookup entry).isSome then .own value else .default)
    else .live i
  | handle => handle

theorem survive_handlesAfter (spec : AclSpec) (st : AclStore) (id : Nat) (value : EntryStorage) :
  AclSpec.Survive id value spec.handles (handlesAfter spec st id value) := by
  intro entry
  unfold handlesAfter
  cases spec.handles entry with
  | default => exact .inr ⟨nofun, rfl⟩
  | own v => exact .inr ⟨nofun, rfl⟩
  | live i =>
    by_cases hi : i = id
    · subst hi
      refine .inl ⟨rfl, ?_⟩
      simp only [↓reduceIte]
      split_ifs
      · exact .inl rfl
      · exact .inr rfl
    · refine .inr ⟨?_, if_neg hi⟩
      intro hEq
      cases hEq
      exact hi rfl

theorem fixEntryAfterDelete_exact {slot place : Nat} (hLe : index ≤ slot)
  (hExact : index = slot ∨ ¬ (index ≤ place ∧ place ≤ slot)) :
  fixEntryAfterDelete index (.acl place) =
    if place = slot then none
    else if slot < place then some (.acl (place - 1))
    else some (.acl place) := by
  rw [fixEntryAfterDelete_acl]
  rcases hExact with rfl | hNot
  · rfl
  · split_ifs <;> first | rfl | omega

theorem delete_handle (h : Refines config st spec (before ++ (id, value) :: after))
  (hLe : index ≤ before.length) (hExact : st.FixupExact before.length index) (entry : Nat) :
  HandleRel (st.deleteSlot before.length index) (before ++ after)
    ((st.deleteSlot before.length index).delegates.lookup entry)
    (handlesAfter spec (st.deleteSlot before.length index) id value entry) := by
  have hSlot : before.length < st.used.length := by
    rw [h.length_used]
    simp
  have hUse := used_inUse st (storageAt_acl h.sound hSlot).2
  have hValue : st.storageAt (.acl before.length) = value := by
    have hStored := (storageAt_acl h.sound hSlot).1
    rw [← h.values] at hStored
    simpa using hStored.symm
  have hSaved := fixBeforeDelete_saved before.length hUse st.delegates st.pool
  have hLookup := deleteSlot_lookup h.sound hSlot index entry
  have hRel := h.handles entry
  unfold handlesAfter
  rcases hSaved.moved entry with hSame | ⟨hAt, copy, hCopy, hGet, -⟩
  · rw [hSame] at hLookup
    cases hRef : st.delegates.lookup entry with
    | none =>
      rw [hRef] at hRel hLookup
      rw [hLookup]
      cases hHandle : spec.handles entry with
      | default => trivial
      | live i =>
        rw [hHandle] at hRel
        exact hRel.elim
      | own v =>
        rw [hHandle] at hRel
        exact hRel.elim
    | some ref =>
      rw [hRef] at hRel hLookup
      cases ref with
      | pool copy =>
        rw [hLookup]
        cases hHandle : spec.handles entry with
        | default =>
          rw [hHandle] at hRel
          exact hRel.elim
        | live i =>
          rw [hHandle] at hRel
          exact hRel.elim
        | own v =>
          rw [hHandle] at hRel
          obtain ⟨v', hGet, hIn⟩ := h.sound.inUse hRef
          have hEq : v' = v := Option.some.inj (hGet.symm.trans hRel)
          subst hEq
          exact hSaved.copies hGet hIn
      | acl place =>
        have hFixed := hSame.trans hRef
        rw [Option.bind_some, fixEntryAfterDelete_exact hLe (hExact.imp_right fun hApart =>
          hApart.not_between hUse hRef hFixed)] at hLookup
        cases hHandle : spec.handles entry with
        | default =>
          rw [hHandle] at hRel
          exact hRel.elim
        | own v =>
          rw [hHandle] at hRel
          exact hRel.elim
        | live i =>
          rw [hHandle] at hRel
          rcases ids_remove h.nodup hRel with ⟨rfl, rfl⟩ | ⟨hNe, ⟨hLt, hId⟩ | ⟨hGt, hId⟩⟩
          · rw [if_pos rfl] at hLookup
            simp only [hLookup, ↓reduceIte]
            trivial
          · rw [if_neg (Nat.ne_of_lt hLt), if_neg (by omega)] at hLookup
            simp only [hLookup, hNe, ↓reduceIte]
            exact hId
          · rw [if_neg (Nat.ne_of_gt hGt), if_pos hGt] at hLookup
            simp only [hLookup, hNe, ↓reduceIte]
            exact hId
  · rw [hAt] at hRel
    rw [hCopy] at hLookup
    have hLookup : (st.deleteSlot before.length index).delegates.lookup entry =
        some (.pool copy) := hLookup
    cases hHandle : spec.handles entry with
    | default =>
      rw [hHandle] at hRel
      exact hRel.elim
    | own v =>
      rw [hHandle] at hRel
      exact hRel.elim
    | live i =>
      rw [hHandle] at hRel
      have hId : i = id := by
        have hSelf : ((before ++ (id, value) :: after).map Prod.fst)[before.length]? = some id := by
          simp
        exact Option.some.inj (hRel.symm.trans hSelf)
      simp only [hLookup, hId, ↓reduceIte, Option.isSome_some]
      exact hGet.trans (congrArg some hValue)

variable {fabricIndex : Option UInt8}

theorem fixIteratorAfterDelete_exact {slot length k : Nat} (hLe : index ≤ slot) (hk : k ≤ length)
  (hExact : index = slot ∨ ∀ place, placeAfter k = some place → ¬ (index ≤ place ∧ place < slot)) :
  fixIteratorAfterDelete index length ⟨fabricIndex, placeAfter k⟩ =
    ⟨fabricIndex, placeAfter (if slot < k then k - 1 else k)⟩ := by
  cases k with
  | zero => rfl
  | succ k =>
    have hPlace : placeAfter (k + 1) = some k := rfl
    rw [hPlace]
    change (if index ≤ k ∧ k < length then _ else _) = _
    by_cases hPassed : slot < k + 1
    · rw [if_pos (by omega), if_pos hPassed, Nat.add_sub_cancel]
      rfl
    · rw [if_neg hPassed, if_neg]
      · rw [hPlace]
      · rcases hExact with rfl | hApart
        · omega
        · have hNot := hApart k hPlace
          omega

theorem delete_iterator (h : Refines config st spec (before ++ (id, value) :: after))
  (hLe : index ≤ before.length) (hExact : st.FixupExact before.length index) (iterator : Nat) :
  IteratorRel st.acl.length (before ++ after)
    ((st.deleteSlot before.length index).iterators.lookup iterator)
    ((spec.iterators iterator).map fun it =>
      { it with ahead := it.ahead.map (filter (· ≠ id)) }) := by
  have hRel := h.iterators iterator
  rw [deleteSlot_iterators, lookup_update h.sound.iteratorOwners]
  cases hDelegate : st.iterators.lookup iterator with
  | none =>
    cases hIt : spec.iterators iterator with
    | none => trivial
    | some it =>
      rw [hDelegate, hIt] at hRel
      exact hRel.elim
  | some delegate =>
    cases hIt : spec.iterators iterator with
    | none =>
      rw [hDelegate, hIt] at hRel
      exact hRel.elim
    | some it =>
      rw [hDelegate, hIt] at hRel
      obtain ⟨fabricIndex, ahead⟩ := it
      obtain ⟨delegateFabric, place⟩ := delegate
      obtain ⟨hFilter, hAhead⟩ := hRel
      change IteratorRel _ _ (some (fixIteratorAfterDelete index st.acl.length
        ⟨delegateFabric, place⟩)) (some ⟨fabricIndex, ahead.map (filter (· ≠ id))⟩)
      cases ahead with
      | none =>
        obtain rfl : place = some st.acl.length := hAhead
        have hEnd : fixIteratorAfterDelete index st.acl.length
            ⟨delegateFabric, some st.acl.length⟩ = ⟨delegateFabric, some st.acl.length⟩ := by
          change (if _ ∧ st.acl.length < st.acl.length then _ else _) = _
          rw [if_neg (by omega)]
        rw [hEnd]
        exact ⟨hFilter, rfl⟩
      | some ahead =>
        obtain ⟨k, hk, hPlace, hIds⟩ := hAhead
        obtain rfl : place = placeAfter k := hPlace
        have hLength : k ≤ st.acl.length := by
          rw [← h.length_used] at hk
          exact Nat.le_trans hk (used_le st)
        rw [fixIteratorAfterDelete_exact hLe hLength (hExact.imp_right fun hApart place hPlace =>
          hApart.iterators iterator _ place hDelegate hPlace)]
        refine ⟨hFilter, _, ?_, rfl, ?_⟩
        · simp only [length_append, length_cons] at hk ⊢
          split_ifs <;> omega
        · change filter (· ≠ id) ahead = _
          rw [hIds]
          split_ifs with hPassed
          · exact (idsAfter_remove_passed h.nodup fabricIndex hPassed).symm
          · exact (idsAfter_remove_ahead h.nodup fabricIndex (Nat.le_of_not_lt hPassed)).symm

theorem delete {entries : List (Nat × EntryStorage)} (h : Refines config st spec entries) (f : UInt8)
  (index : Nat)
  (hExact : ∀ slot, st.findUsedInAcl (some f) index = some slot → st.FixupExact slot index) :
  ∃ spec' entries', AclSpec.Step config spec (.delete (some f) index)
      (AclStore.deleteEntry (some f) index st).1.isOk spec' ∧
    Refines config (AclStore.deleteEntry (some f) index st).2 spec' entries' := by
  rcases AclStore.deleteEntry_spec (some f) index st with ⟨hRun, hNone⟩ | ⟨slot, hFind, hRun⟩
  · rw [hRun]
    exact ⟨spec, entries, .deleteFails (h.locate_none hNone), h⟩
  · have hLe := AclStore.findUsedInAcl_le hFind
    have hLt := AclStore.findUsedInAcl_lt h.sound hFind
    obtain ⟨k, -, hLength⟩ := AclStore.deleteSlot_acl h.sound hLt index
    have hUsed := AclStore.deleteSlot_used h.sound hLt index
    have hFix := hExact slot hFind
    obtain ⟨before, id, value, after, rfl, hFabric, rfl, hIndex, hEntry⟩ := h.locate hFind
    rw [hRun]
    refine ⟨spec.remove f index id (handlesAfter spec (st.deleteSlot before.length index) id value),
      before ++ after, .delete hEntry (survive_handlesAfter spec _ id value),
      AclStore.deleteSlot_sound h.sound hLt hLe, h.blank, h.maxEntriesPerFabric,
      hLength.trans h.length, ?_, ?_, ?_, ?_, ?_, h.delete_handle hLe hFix, ?_⟩
    · rw [hUsed, ← h.values]
      simp [List.eraseIdx_append_of_length_le]
    · change spec.order.filter (· ≠ id) = _
      rw [h.order, List.map_append, List.filter_append,
        filter_ids_of_sublist h.nodup (.inl (List.Sublist.refl _)), List.map_cons,
        List.filter_cons_of_neg (by simp),
        filter_ids_of_sublist h.nodup (.inr (List.Sublist.refl _)), List.map_append]
    · intro g
      change Function.update spec.lists f _ g = _
      by_cases hg : g = f
      · rw [hg, Function.update_self, h.lists, hIndex]
        simp [hFabric, List.eraseIdx_append_of_length_le]
      · have hNe : value.mFabricIndex ≠ g := fun hEq => hg (hEq.symm.trans hFabric)
        rw [Function.update_of_ne hg, h.lists]
        simp [hNe]
    · intro x hx
      refine h.fresh x ?_
      rcases List.mem_append.mp hx with hx | hx
      · exact List.mem_append_left _ hx
      · exact List.mem_append_right _ (List.mem_cons_of_mem _ hx)
    · refine h.nodup.sublist (List.Sublist.map _ ?_)
      exact List.Sublist.append_left (List.sublist_cons_self ..) before
    · intro iterator
      rw [hLength]
      exact h.delete_iterator hLe hFix iterator

variable {entries : List (Nat × EntryStorage)}

section

variable (h : Refines config st spec entries)
include h

theorem with_iterator {iterators : OwnedPool EntryIteratorDelegate} {iterator : Nat}
  {it : Option IteratorSpec} (hSound : ({ st with iterators := iterators } : AclStore).Sound)
  (hOthers : ∀ other, other ≠ iterator → iterators.lookup other = st.iterators.lookup other)
  (hIterator : IteratorRel st.acl.length entries (iterators.lookup iterator) it) :
  Refines config { st with iterators := iterators } (spec.setIterator iterator it) entries where
  sound := hSound
  blank := h.blank
  maxEntriesPerFabric := h.maxEntriesPerFabric
  length := h.length
  values := h.values
  order := h.order
  lists := h.lists
  fresh := h.fresh
  nodup := h.nodup
  handles := fun entry => (h.handles entry).congr (fun _ _ => rfl) fun _ _ _ hId => hId
  iterators := by
    intro other
    change IteratorRel _ _ (iterators.lookup other)
      (Function.update spec.iterators iterator it other)
    by_cases hOther : other = iterator
    · rw [hOther, Function.update_self]
      exact hIterator
    · rw [Function.update_of_ne hOther, hOthers other hOther]
      exact h.iterators other

theorem ids_eq (fabricIndex : Option UInt8) :
  spec.ids fabricIndex = idsAfter entries fabricIndex 0 := by
  cases fabricIndex with
  | none =>
    change spec.order = (entries.filter fun _ => true).map Prod.fst
    rw [filter_true, h.order]
  | some f =>
    change (spec.lists f).map Prod.fst = _
    rw [h.lists]
    rfl

theorem entries_call (iterator : Nat) (fabricIndex : Option UInt8) :
  ∃ spec', AclSpec.Step config spec (.entries iterator fabricIndex)
      (AclStore.entries iterator fabricIndex st).1.isOk spec' ∧
    Refines config (AclStore.entries iterator fabricIndex st).2 spec' entries := by
  rcases AclStore.entries_spec h.sound iterator fabricIndex with ⟨hRun, -⟩ |
    ⟨iterators, hClaim, hRun, hSound⟩
  · rw [hRun]
    exact ⟨spec, .entriesFails iterator fabricIndex, h⟩
  · rw [hRun]
    refine ⟨_, .entries iterator fabricIndex, h.with_iterator hSound ?_ ?_⟩
    · intro other hOther
      rw [OwnedPool.lookup_claim hClaim, if_neg hOther]
    · rw [OwnedPool.lookup_claim hClaim, if_pos rfl]
      exact ⟨rfl, 0, Nat.zero_le _, rfl, h.ids_eq fabricIndex⟩

theorem releaseIterator (iterator : Nat) :
  ∃ spec', AclSpec.Step config spec (.releaseIterator iterator) true spec' ∧
    Refines config { st with iterators := st.iterators.free iterator } spec' entries := by
  refine ⟨_, .releaseIterator iterator, h.with_iterator
    (h.sound.with_iterators (nodup_free h.sound.iteratorOwners)) ?_ ?_⟩
  · intro other hOther
    rw [lookup_free h.sound.iteratorOwners, if_neg hOther]
  · rw [lookup_free h.sound.iteratorOwners, if_pos rfl]
    trivial

end

theorem idsAfter_cases {used : List EntryStorage} (hValues : entries.map Prod.snd = used)
  (fabricIndex : Option UInt8) (k : Nat) :
  ((used.drop k).findIdx? (matchesFabric fabricIndex) = none ∧
    idsAfter entries fabricIndex k = []) ∨
  ∃ i id, (used.drop k).findIdx? (matchesFabric fabricIndex) = some i ∧
    (entries.map Prod.fst)[k + i]? = some id ∧
    idsAfter entries fabricIndex k = id :: idsAfter entries fabricIndex (k + i + 1) := by
  subst hValues
  unfold idsAfter
  have hNext : ∀ i, entries.drop (k + i + 1) = (entries.drop k).drop (i + 1) := by
    intro i
    rw [drop_drop, Nat.add_assoc]
  have hAt : ∀ i, (entries.map Prod.fst)[k + i]? = ((entries.drop k).map Prod.fst)[i]? := by
    intro i
    rw [map_drop, getElem?_drop]
  simp only [← map_drop, hNext, hAt]
  generalize entries.drop k = l
  clear hNext hAt
  induction l with
  | nil => exact .inl ⟨rfl, rfl⟩
  | cons x l ih =>
    by_cases hMatch : matchesFabric fabricIndex x.2 = true
    · refine .inr ⟨0, x.1, ?_, rfl, ?_⟩
      · simp [findIdx?_cons, hMatch]
      · rw [filter_cons, if_pos hMatch]
        rfl
    · rw [filter_cons, if_neg hMatch, map_cons, findIdx?_cons, if_neg hMatch]
      rcases ih with ⟨hFind, hIds⟩ | ⟨i, id, hFind, hId, hIds⟩
      · exact .inl ⟨by rw [hFind]; rfl, hIds⟩
      · exact .inr ⟨i + 1, id, by rw [hFind]; rfl, hId, hIds⟩

theorem start_placeAfter {k length : Nat} (hk : k ≤ length) :
  start ⟨fabricIndex, placeAfter k⟩ length = k := by
  cases k with
  | zero => rfl
  | succ k =>
    change (if k < length then k + 1 else k) = k + 1
    exact if_pos hk

theorem found_placeAfter (h : Refines config st spec entries) {k : Nat} (hk : k ≤ entries.length) :
  (found ⟨fabricIndex, placeAfter k⟩ st = none ∧
    idsAfter entries fabricIndex k = []) ∨
  ∃ slot id, found ⟨fabricIndex, placeAfter k⟩ st = some slot ∧
    (entries.map Prod.fst)[slot]? = some id ∧
    idsAfter entries fabricIndex k = id :: idsAfter entries fabricIndex (slot + 1) := by
  have hLength : k ≤ st.acl.length := by
    rw [← h.length_used] at hk
    exact Nat.le_trans hk (used_le st)
  unfold found
  rw [start_placeAfter hLength]
  rcases idsAfter_cases h.values fabricIndex k with ⟨hFind, hIds⟩ | ⟨i, id, hFind, hId, hIds⟩
  · exact .inl ⟨by rw [hFind]; rfl, hIds⟩
  · refine .inr ⟨k + i, id, ?_, hId, hIds⟩
    rw [hFind, Option.map_some, Nat.add_comm]

theorem moveIterator (h : Refines config st spec entries) {iterator : Nat}
  {delegate : EntryIteratorDelegate} (it : Option IteratorSpec)
  (hIterator : st.iterators.lookup iterator = some delegate)
  (hSound : (st.moveIterator iterator delegate).Sound)
  (hMoved : IteratorRel st.acl.length entries
    (some (moved delegate st)) it) :
  Refines config (st.moveIterator iterator delegate) (spec.setIterator iterator it) entries := by
  refine h.with_iterator hSound ?_ ?_
  · intro other hOther
    rw [lookup_replace, if_neg hOther]
  · rw [lookup_replace, if_pos rfl, hIterator]
    exact hMoved

theorem found_end (length : st.used.length ≤ st.acl.length) (fabricIndex : Option UInt8) :
  found ⟨fabricIndex, some st.acl.length⟩ st = none := by
  unfold found
  have hStart : start ⟨fabricIndex, some st.acl.length⟩
      st.acl.length = st.acl.length := if_neg (Nat.lt_irrefl _)
  rw [hStart, drop_eq_nil_of_le length]
  rfl

theorem next (h : Refines config st spec entries) (iterator entry : Nat) :
  ∃ spec', AclSpec.Step config spec (.next iterator entry)
      (AclStore.next iterator entry st).1.isOk spec' ∧
    Refines config (AclStore.next iterator entry st).2 spec' entries := by
  have hRel := h.iterators iterator
  rcases AclStore.next_spec h.sound iterator entry with ⟨hRun, hNone⟩ |
    ⟨⟨fabricIndex, place⟩, hIterator, hSound, hRun⟩
  · rw [hNone] at hRel
    cases hIt : spec.iterators iterator with
    | none =>
      rw [hRun]
      refine ⟨spec, .nextEnded ?_, h⟩
      rw [hIt]
      exact nofun
    | some it =>
      rw [hIt] at hRel
      exact hRel.elim
  · rw [hIterator] at hRel
    cases hIt : spec.iterators iterator with
    | none =>
      rw [hIt] at hRel
      exact hRel.elim
    | some it =>
      obtain ⟨specFabric, ahead⟩ := it
      rw [hIt] at hRel
      obtain ⟨hFilter, hAhead⟩ := hRel
      obtain rfl : fabricIndex = specFabric := hFilter
      cases ahead with
      | none =>
        obtain rfl : place = some st.acl.length := hAhead
        have hFound := found_end (used_le st) fabricIndex
        rcases hRun with ⟨hRun, -⟩ | ⟨slot, hSome, -⟩
        · rw [hRun]
          refine ⟨spec, .nextEnded ?_, ?_⟩
          · rw [hIt]
            rintro it ⟨⟩
            rfl
          · have hMoved := h.moveIterator (some ⟨fabricIndex, none⟩) hIterator hSound
              ⟨rfl, by rw [AclStore.EntryIteratorDelegate.moved, hFound]; rfl⟩
            have hSame : spec.setIterator iterator (some ⟨fabricIndex, none⟩) = spec := by
              unfold AclSpec.setIterator
              rw [← hIt, Function.update_eq_self]
            rw [hSame] at hMoved
            exact hMoved
        · rw [hFound] at hSome
          cases hSome
      | some ahead =>
        obtain ⟨k, hk, hPlace, hIds⟩ := hAhead
        obtain rfl : place = placeAfter k := hPlace
        rcases h.found_placeAfter hk with ⟨hFound, hEnd⟩ | ⟨slot, id, hFound, hId, hNext⟩
        · rw [hEnd] at hIds
          rcases hRun with ⟨hRun, -⟩ | ⟨slot, hSome, -⟩
          · rw [hRun]
            refine ⟨_, .nextEnd (hIds ▸ hIt), h.moveIterator _ hIterator hSound ⟨rfl, ?_⟩⟩
            rw [AclStore.EntryIteratorDelegate.moved, hFound]
            rfl
          · rw [hFound] at hSome
            cases hSome
        · rw [hNext] at hIds
          have hMoved := h.moveIterator
            (some ⟨fabricIndex, some (idsAfter entries fabricIndex (slot + 1))⟩)
            hIterator hSound (by
              refine ⟨rfl, slot + 1, ?_, ?_, rfl⟩
              · have hLt := (List.getElem?_eq_some_iff.mp hId).1
                rw [List.length_map] at hLt
                exact hLt
              · rw [AclStore.EntryIteratorDelegate.moved, hFound]
                rfl)
          rcases hRun with ⟨-, hNone⟩ | ⟨slot', hSome, ⟨hRun, -⟩ |
            ⟨st', hRun, hFrame, hSound', hRef⟩⟩
          · rw [hFound] at hNone
            cases hNone
          · rw [hRun]
            exact ⟨_, .nextFails (hIds ▸ hIt), hMoved⟩
          · rw [hFound] at hSome
            obtain rfl : slot = slot' := Option.some.inj hSome
            rw [hRun]
            refine ⟨_, .next (hIds ▸ hIt), hMoved.frame hFrame hSound' ?_⟩
            rw [hRef]
            exact hId

end Refines
def AclOp.fabric : AclOp → Option UInt8
  | .create fabricIndex _ => fabricIndex
  | .update fabricIndex _ _ => fabricIndex
  | .delete fabricIndex _ => fabricIndex
  | _ => none

/-- A call through the interface that is relative to a fabric: an entry carries the fabric
index that it is created or updated under. -/
def AclStore.FabricRelative (st : AclStore) : AclOp → Prop
  | .create fabricIndex entry => ∃ f, fabricIndex = some f ∧
      ∀ ref, st.delegates.lookup entry = some ref → (st.storageAt ref).mFabricIndex = f
  | .update fabricIndex _ entry => ∃ f, fabricIndex = some f ∧
      ∀ ref, st.delegates.lookup entry = some ref → (st.storageAt ref).mFabricIndex = f
  | .delete fabricIndex _ => fabricIndex.isSome
  | _ => True

def AclStore.Exact (st : AclStore) : AclOp → Prop
  | .delete fabricIndex index =>
    ∀ slot, st.findUsedInAcl fabricIndex index = some slot → st.FixupExact slot index
  | _ => True

/-- A run of calls that all are relative to a fabric and fix the right delegates. -/
def AclStore.Orderly : List AclOp → AclStore → Prop
  | [], _ => True
  | op :: ops, st => st.FabricRelative op ∧ st.Exact op ∧ Orderly ops (op.call st).2

def AclStore.entriesOf (st : AclStore) (f : UInt8) : List EntryStorage :=
  st.used.filter fun storage => storage.mFabricIndex = f

namespace Refines

variable {config : AclConfig} {st : AclStore} {spec : AclSpec} {entries : List (Nat × EntryStorage)}

theorem init (config : AclConfig) : Refines config config.init AclSpec.init [] where
  sound := config.init_sound
  blank := rfl
  maxEntriesPerFabric := rfl
  length := length_replicate
  values := by
    have hUsed : config.init.used = [] := used_eq (k := config.maxEntries) rfl nofun
    rw [hUsed]
    rfl
  order := rfl
  lists := fun _ => rfl
  fresh := nofun
  nodup := nodup_nil
  handles := by
    intro entry
    have hNone : config.init.delegates.lookup entry = none := by
      rw [lookup_eq_none_iff]
      simp [AclConfig.init, owners]
    rw [hNone]
    trivial
  iterators := by
    intro iterator
    have hNone : config.init.iterators.lookup iterator = none := by
      rw [lookup_eq_none_iff]
      simp [AclConfig.init, owners]
    rw [hNone]
    trivial

section

variable (h : Refines config st spec entries)
include h

theorem call {op : AclOp} (hRelative : st.FabricRelative op) (hExact : st.Exact op) :
  ∃ spec' entries', AclSpec.Step config spec op (op.call st).1.isOk spec' ∧
    Refines config (op.call st).2 spec' entries' := by
  have hOf : ∀ {entry : Nat} {f : UInt8},
      (∀ ref, st.delegates.lookup entry = some ref → (st.storageAt ref).mFabricIndex = f) →
      ∀ value, spec.Denotes (spec.handles entry) value → value.mFabricIndex = f := by
    intro entry f hValue value hDenotes
    obtain ⟨ref, hRef, rfl⟩ := h.denoted hDenotes
    exact hValue ref hRef
  cases op with
  | prepare entry =>
    obtain ⟨spec', hStep, hRefines⟩ := h.prepare entry
    exact ⟨spec', entries, hStep, hRefines⟩
  | edit entry change' =>
    obtain ⟨spec', hStep, hRefines⟩ := h.edit entry change'
    exact ⟨spec', entries, hStep, hRefines⟩
  | create fabricIndex entry =>
    obtain ⟨f, rfl, hFabric⟩ := hRelative
    exact h.create f entry (hOf hFabric)
  | read fabricIndex index entry =>
    obtain ⟨spec', hStep, hRefines⟩ := h.read fabricIndex index entry
    exact ⟨spec', entries, hStep, hRefines⟩
  | update fabricIndex index entry =>
    obtain ⟨f, rfl, hFabric⟩ := hRelative
    exact h.update f index entry (hOf hFabric)
  | delete fabricIndex index =>
    obtain ⟨f, rfl⟩ := Option.isSome_iff_exists.mp hRelative
    exact h.delete f index hExact
  | entries iterator fabricIndex =>
    obtain ⟨spec', hStep, hRefines⟩ := h.entries_call iterator fabricIndex
    exact ⟨spec', entries, hStep, hRefines⟩
  | next iterator entry =>
    obtain ⟨spec', hStep, hRefines⟩ := h.next iterator entry
    exact ⟨spec', entries, hStep, hRefines⟩
  | releaseEntry entry =>
    obtain ⟨spec', hStep, hRefines⟩ := h.releaseEntry entry
    exact ⟨spec', entries, hStep, hRefines⟩
  | releaseIterator iterator =>
    obtain ⟨spec', hStep, hRefines⟩ := h.releaseIterator iterator
    exact ⟨spec', entries, hStep, hRefines⟩

theorem run {ops : List AclOp} (hOrderly : st.Orderly ops) :
  ∃ spec' entries', AclSpec.Run config ops st spec spec' ∧
    Refines config (aclRun ops st) spec' entries' := by
  induction ops generalizing st spec entries with
  | nil => exact ⟨spec, entries, rfl, h⟩
  | cons op ops ih =>
    obtain ⟨hRelative, hExact, hRest⟩ := hOrderly
    obtain ⟨middle, entries₁, hStep, hRefines₁⟩ := h.call hRelative hExact
    obtain ⟨spec', entries', hRun, hRefines⟩ := ih hRefines₁ hRest
    exact ⟨spec', entries', ⟨middle, hStep, hRun⟩, hRefines⟩

end

end Refines

/-- `ConvertIndex` is a bijection between the indices in the list of a fabric and the slots
that the fabric uses. -/
structure AclStore.ConvertsIndices (st : AclStore) (f : UInt8) : Prop where
  inverse : ∀ index slot, relativeToAbsolute f index st.acl 0 0 = some slot ↔
    absoluteToRelative f slot st.acl 0 0 = some index
  relative : ∀ index, (∃ slot, relativeToAbsolute f index st.acl 0 0 = some slot) ↔
    index < (st.entriesOf f).length
  absolute : ∀ slot, (∃ index, absoluteToRelative f slot st.acl 0 0 = some index) ↔
    ∃ storage, st.acl[slot]? = some storage ∧ storage.mInUse = true ∧ storage.mFabricIndex = f

theorem AclStore.Sound.convertsIndices {st : AclStore} (h : st.Sound) (f : UInt8) :
  st.ConvertsIndices f := by
  obtain ⟨k, hAcl⟩ := h.rest
  have hUse : ∀ s ∈ st.used, s.mInUse = true := fun s hs => AclStore.used_inUse st hs
  have hRelative : ∀ index slot, AclStore.relativeToAbsolute f index st.acl 0 0 = some slot ↔
      Located f st.used index slot := by
    intro index slot
    rw [hAcl, relativeToAbsolute_iff rfl hUse]
    simp
  have hAbsolute : ∀ index slot, AclStore.absoluteToRelative f slot st.acl 0 0 = some index ↔
      Located f st.used index slot := by
    intro index slot
    rw [hAcl, absoluteToRelative_iff rfl hUse]
    simp
  refine ⟨fun index slot => (hRelative index slot).trans (hAbsolute index slot).symm, ?_, ?_⟩
  · intro index
    simp only [hRelative]
    constructor
    · rintro ⟨slot, before, x, after, hUsed, hFabric, -, rfl⟩
      rw [entriesOf, hUsed]
      simp [hFabric]
    · intro hLt
      obtain ⟨before, after, hUsed, hFabric, rfl⟩ := split_of_filter (List.getElem?_eq_getElem hLt)
      exact ⟨_, before, _, after, hUsed, by simpa using hFabric, rfl, rfl⟩
  · intro slot
    simp only [hAbsolute]
    constructor
    · rintro ⟨index, before, x, after, hUsed, hFabric, rfl, -⟩
      refine ⟨x, ?_, hUse x (by rw [hUsed]; simp), hFabric⟩
      rw [hAcl, hUsed]
      simp
    · rintro ⟨x, hGet, hIn, hFabric⟩
      have hLt := h.lt_used hGet hIn
      rw [hAcl, List.getElem?_append_left hLt] at hGet
      obtain ⟨hSlot, rfl⟩ := List.getElem?_eq_some_iff.mp hGet
      refine ⟨_, st.used.take slot, _, st.used.drop (slot + 1), ?_, hFabric, ?_, rfl⟩
      · rw [List.getElem_cons_drop, List.take_append_drop]
      · rw [List.length_take, Nat.min_eq_left (Nat.le_of_lt hSlot)]

theorem AclStore.carries {st : AclStore} {entry : Nat} (ref : StorageRef) {f : UInt8}
  (hRef : st.delegates.lookup entry = some ref) (hFabric : (st.storageAt ref).mFabricIndex = f) :
  ∀ ref', st.delegates.lookup entry = some ref' → (st.storageAt ref').mFabricIndex = f := by
  intro ref' hRef'
  rw [hRef] at hRef'
  rw [← Option.some.inj hRef']
  exact hFabric

end Chip.Access
