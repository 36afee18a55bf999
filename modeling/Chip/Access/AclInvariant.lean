import Chip.Access.EntryObjects

/-! Calls on the access control list and on its iterators, and what every run of calls keeps
true: the store stays sound. -/
namespace Chip.Access

open List Proc OwnedPool

namespace AclStore

variable {st st' : AclStore} {entry : Nat}
variable {slot : Nat} {fabricIndex : Option UInt8}

theorem Sound.lt_used (h : st.Sound) {storage : EntryStorage} (hGet : st.acl[slot]? = some storage)
  (hUse : storage.mInUse = true) :
  slot < st.used.length := by
  by_contra hNot
  obtain ⟨k, hAcl⟩ := h.rest
  rw [hAcl, getElem?_append_right (Nat.le_of_not_lt hNot)] at hGet
  have hBlank := eq_of_mem_replicate (mem_of_getElem? hGet)
  rw [hBlank] at hUse
  cases hUse

theorem findUnusedInAcl_spec (h : st.Sound) (hFind : st.findUnusedInAcl = some slot) :
  slot = st.used.length ∧
    ∃ k, st.acl = st.used ++ List.replicate (k + 1) st.blank := by
  obtain ⟨k, hAcl⟩ := h.rest
  obtain ⟨hLt, hNot, hBefore⟩ := List.findIdx?_eq_some_iff_getElem.mp hFind
  have hGe : st.used.length ≤ slot := by
    by_contra hIn
    have hUse := used_inUse st (storageAt_acl h (Nat.lt_of_not_le hIn)).2
    have hAt : st.storageAt (.acl slot) = st.acl[slot] := by
      change st.acl.getD slot st.blank = _
      rw [List.getD_eq_getElem?_getD, List.getElem?_eq_getElem hLt]
      rfl
    rw [hAt] at hUse
    simp [hUse] at hNot
  obtain ⟨k', rfl⟩ : ∃ k', k = k' + 1 := by
    refine ⟨k - 1, ?_⟩
    have hLength : slot < st.used.length + k := by
      rw [hAcl] at hLt
      simpa using hLt
    omega
  refine ⟨?_, k', hAcl⟩
  by_contra hNe
  have hFirst := hBefore st.used.length (by omega)
  have hBlank : st.acl[st.used.length]? = some st.blank := by
    rw [hAcl, List.getElem?_append_right (Nat.le_refl _), Nat.sub_self]
    rfl
  obtain ⟨hLt', hEq⟩ := List.getElem?_eq_some_iff.mp hBlank
  rw [hEq] at hFirst
  exact hFirst rfl

theorem Sound.with_acl (h : st.Sound) (slots : List EntryStorage) (k : Nat)
  (hValid : ∀ storage ∈ slots, storage.mInUse = true ∧ storage.isValid = true)
  (hLength : st.used.length ≤ slots.length) :
  ({ st with acl := slots ++ replicate k st.blank } : AclStore).Sound ∧
    ({ st with acl := slots ++ replicate k st.blank } : AclStore).used = slots := by
  have hUsed : ({ st with acl := slots ++ replicate k st.blank } : AclStore).used = slots :=
    used_eq rfl fun storage hMem => (hValid storage hMem).1
  refine ⟨⟨⟨k, ?_⟩, ?_, h.entryOwners, h.iteratorOwners, ?_, h.own⟩, hUsed⟩
  · rw [hUsed]
    rfl
  · rw [hUsed]
    exact fun storage hMem => (hValid storage hMem).2
  · intro entry ref hRef
    have hUse := h.inUse hRef
    cases ref with
    | acl slot =>
      change slot < _
      rw [hUsed]
      exact Nat.lt_of_lt_of_le hUse hLength
    | pool index => exact hUse

theorem validValue_spec (entry : Nat) (st : AclStore) :
  (∃ e, validValue entry st = (.error e, st)) ∨
  ∃ ref, st.delegates.lookup entry = some ref ∧ (st.storageAt ref).isValid = true ∧
    validValue entry st = (.ok (st.storageAt ref), st) := by
  unfold validValue
  cases hRef : st.delegates.lookup entry with
  | none =>
    simp only [read_bind, hRef]
    exact .inl ⟨_, rfl⟩
  | some ref =>
    simp only [read_bind, hRef, verify_bind]
    cases hValid : (st.storageAt ref).isValid with
    | false => exact .inl ⟨_, rfl⟩
    | true => exact .inr ⟨ref, rfl, hValid, rfl⟩

section

variable (h : st.Sound)
include h

theorem Sound.value_inUse {ref : StorageRef} (hRef : st.delegates.lookup entry = some ref) :
  (st.storageAt ref).mInUse = true := by
  have hUse := h.inUse hRef
  cases ref with
  | acl slot => exact used_inUse st (storageAt_acl h hUse).2
  | pool index =>
    obtain ⟨storage, hGet, hIn⟩ := hUse
    change (st.pool.getD index st.blank).mInUse = true
    rw [getD_eq_getElem?_getD, hGet]
    exact hIn

theorem createEntry_spec (fabricIndex : Option UInt8) (entry : Nat) :
  (∃ e, createEntry fabricIndex entry st = (.error e, st)) ∨
  ∃ ref k, st.delegates.lookup entry = some ref ∧
    createEntry fabricIndex entry st = (.ok (), { st with
      acl := st.used ++ [st.storageAt ref] ++ replicate k st.blank }) ∧
    ({ st with acl := st.used ++ [st.storageAt ref] ++ replicate k st.blank } :
      AclStore).Sound ∧
    ({ st with acl := st.used ++ [st.storageAt ref] ++ replicate k st.blank } :
      AclStore).used = st.used ++ [st.storageAt ref] ∧
    (st.used ++ [st.storageAt ref] ++ replicate k st.blank).length = st.acl.length := by
  unfold createEntry
  rw [read_bind, verify_bind]
  split_ifs with hCount
  · rcases validValue_spec entry st with ⟨e, hRun⟩ | ⟨ref, hRef, hValid, hRun⟩
    · rw [bind_error hRun]
      exact .inl ⟨e, rfl⟩
    · rw [bind_ok hRun]
      cases hFind : st.findUnusedInAcl with
      | none => exact .inl ⟨_, rfl⟩
      | some slot =>
        obtain ⟨rfl, k, hAcl⟩ := findUnusedInAcl_spec h hFind
        have hSet : st.acl.set st.used.length (st.storageAt ref) =
            st.used ++ [st.storageAt ref] ++ replicate k st.blank := by
          conv_lhs => rw [hAcl]
          rw [set_append_right _ _ (Nat.le_refl _), Nat.sub_self, append_assoc]
          rfl
        obtain ⟨hSound, hUsed⟩ := h.with_acl (st.used ++ [st.storageAt ref]) k
          (by
            intro storage hMem
            rcases mem_append.mp hMem with hOld | hNew
            · exact ⟨used_inUse st hOld, h.valid storage hOld⟩
            · rw [mem_singleton.mp hNew]
              exact ⟨h.value_inUse hRef, hValid⟩)
          (by simp)
        refine .inr ⟨ref, k, hRef, ?_, hSound, hUsed, by rw [← hSet, length_set]⟩
        change (Except.ok (), { st with acl := st.acl.set st.used.length (st.storageAt ref) }) = _
        rw [hSet]
  · exact .inl ⟨_, rfl⟩

theorem createEntry_fails {f : UInt8} {entry : Nat} {e : ChipError}
  (hRun : createEntry (some f) entry st = (.error e, st)) :
  (¬ ∃ ref, st.delegates.lookup entry = some ref ∧ (st.storageAt ref).isValid = true) ∨
    st.maxEntriesPerFabric ≤ entryCount f st.acl ∨ st.acl.length ≤ st.used.length := by
  by_contra hNot
  obtain ⟨hValue, hRoom⟩ := not_or.mp hNot
  obtain ⟨hCount, hSlot⟩ := not_or.mp hRoom
  obtain ⟨ref, hRef, hValid⟩ := not_not.mp hValue
  have hValueRun : validValue entry st = (.ok (st.storageAt ref), st) := by
    rcases validValue_spec entry st with ⟨e', hFail⟩ | ⟨ref', hRef', -, hOk⟩
    · unfold validValue at hFail
      simp only [read_bind, hRef, verify_bind, hValid, ↓reduceIte] at hFail
      cases hFail
    · rw [hRef] at hRef'
      cases hRef'
      exact hOk
  obtain ⟨k, hAcl⟩ := h.rest
  have hFind : st.findUnusedInAcl ≠ none := by
    intro hNone
    obtain ⟨k, rfl⟩ : ∃ k', k = k' + 1 := by
      refine ⟨k - 1, ?_⟩
      rw [hAcl] at hSlot
      simp only [length_append, length_replicate] at hSlot
      omega
    have hAll := findIdx?_eq_none_iff.mp hNone st.blank (by
      rw [hAcl]
      simp)
    simp [blank, EntryStorage.cleared] at hAll
  obtain ⟨slot, hSome⟩ := Option.ne_none_iff_exists'.mp hFind
  have hTest : ((some f).all fun g => entryCount g st.acl + 1 ≤ st.maxEntriesPerFabric) = true := by
    simp only [Option.all_some, decide_eq_true_eq]
    omega
  unfold createEntry at hRun
  rw [read_bind, verify_bind, if_pos hTest, bind_ok hValueRun, hSome] at hRun
  cases hRun

theorem findUsedInAcl_lt {index slot : Nat}
  (hFind : st.findUsedInAcl fabricIndex index = some slot) : slot < st.used.length := by
  obtain ⟨-, hTest⟩ := Option.filter_eq_some_iff.mp hFind
  obtain ⟨hLt, hUse⟩ : slot < st.acl.length ∧ (st.storageAt (.acl slot)).mInUse = true := by
    simpa using hTest
  have hAt : st.storageAt (.acl slot) = st.acl[slot] := by
    change st.acl.getD slot st.blank = _
    rw [getD_eq_getElem?_getD, getElem?_eq_getElem hLt]
    rfl
  rw [hAt] at hUse
  exact h.lt_used (getElem?_eq_getElem hLt) hUse

theorem updateEntry_spec (fabricIndex : Option UInt8) (index entry : Nat) :
  (∃ e, updateEntry fabricIndex index entry st = (.error e, st)) ∨
  ∃ ref k slot, st.delegates.lookup entry = some ref ∧
    st.findUsedInAcl fabricIndex index = some slot ∧ slot < st.used.length ∧
    updateEntry fabricIndex index entry st = (.ok (), { st with
      acl := st.used.set slot (st.storageAt ref) ++ replicate k st.blank }) ∧
    ({ st with acl := st.used.set slot (st.storageAt ref) ++ replicate k st.blank } :
      AclStore).Sound ∧
    ({ st with acl := st.used.set slot (st.storageAt ref) ++ replicate k st.blank } :
      AclStore).used = st.used.set slot (st.storageAt ref) ∧
    (st.used.set slot (st.storageAt ref) ++ replicate k st.blank).length =
      st.acl.length := by
  unfold updateEntry
  rcases validValue_spec entry st with ⟨e, hRun⟩ | ⟨ref, hRef, hValid, hRun⟩
  · rw [bind_error hRun]
    exact .inl ⟨e, rfl⟩
  · rw [bind_ok hRun, read_bind]
    cases hFind : st.findUsedInAcl fabricIndex index with
    | none => exact .inl ⟨_, rfl⟩
    | some slot =>
      have hLt := findUsedInAcl_lt h hFind
      obtain ⟨k, hAcl⟩ := h.rest
      have hSet : st.acl.set slot (st.storageAt ref) =
          st.used.set slot (st.storageAt ref) ++ replicate k st.blank := by
        conv_lhs => rw [hAcl]
        exact set_append_left _ _ hLt
      obtain ⟨hSound, hUsed⟩ := h.with_acl (st.used.set slot (st.storageAt ref)) k
        (by
          intro storage hMem
          rcases mem_or_eq_of_mem_set hMem with hOld | rfl
          · exact ⟨used_inUse st hOld, h.valid storage hOld⟩
          · exact ⟨h.value_inUse hRef, hValid⟩)
        (by simp)
      refine .inr ⟨ref, k, slot, hRef, rfl, hLt, ?_, hSound, hUsed, by rw [← hSet, length_set]⟩
      change (Except.ok (), { st with acl := st.acl.set slot (st.storageAt ref) }) = _
      rw [hSet]

end

theorem updateEntry_fails {index entry : Nat} {e : ChipError}
  (hRun : updateEntry fabricIndex index entry st = (.error e, st)) :
  (¬ ∃ ref, st.delegates.lookup entry = some ref ∧ (st.storageAt ref).isValid = true) ∨
    st.findUsedInAcl fabricIndex index = none := by
  by_contra hNot
  obtain ⟨hValue, hSlot⟩ := not_or.mp hNot
  obtain ⟨ref, hRef, hValid⟩ := not_not.mp hValue
  obtain ⟨slot, hFind⟩ := Option.ne_none_iff_exists'.mp hSlot
  unfold updateEntry validValue at hRun
  simp only [bind_apply, read_apply, hRef, verify_apply, hValid, ↓reduceIte,
    pure_apply, hFind] at hRun
  cases hRun

theorem shiftDown_eq {blank first : EntryStorage} {rest : List EntryStorage} {k : Nat}
  (hBlank : blank.mInUse = false) (hUse : ∀ storage ∈ rest, storage.mInUse = true) :
  shiftDown blank (first :: (rest ++ replicate k blank)) =
    rest ++ replicate (k + 1) blank := by
  induction rest generalizing first with
  | nil =>
    cases k with
    | zero => rfl
    | succ k => simp [replicate_succ, shiftDown, hBlank]
  | cons next rest ih =>
    have hNext := hUse next mem_cons_self
    have hRest := @ih next fun storage hMem => hUse storage (mem_cons_of_mem _ hMem)
    simp only [cons_append, shiftDown, hNext, ↓reduceIte, hRest]

theorem deleteSlot_acl (h : st.Sound) (hSlot : slot < st.used.length) (fixedSlot : Nat) :
  ∃ k, (st.deleteSlot slot fixedSlot).acl = st.used.eraseIdx slot ++ replicate k st.blank ∧
    (st.deleteSlot slot fixedSlot).acl.length = st.acl.length := by
  obtain ⟨k, hAcl⟩ := h.rest
  have hLength : (st.used.eraseIdx slot ++ replicate (k + 1) st.blank).length =
      st.acl.length := by
    conv_rhs => rw [hAcl]
    simp only [length_append, length_replicate, length_eraseIdx, hSlot, ↓reduceIte]
    omega
  suffices hEq : (st.deleteSlot slot fixedSlot).acl =
      st.used.eraseIdx slot ++ replicate (k + 1) st.blank from
    ⟨k + 1, hEq, by rw [hEq, hLength]⟩
  have hDrop : st.acl.drop slot =
      st.used[slot] :: (st.used.drop (slot + 1) ++ replicate k st.blank) := by
    conv_lhs => rw [hAcl]
    rw [drop_append_of_le_length (Nat.le_of_lt hSlot), drop_eq_getElem_cons hSlot]
    rfl
  have hTake : st.acl.take slot = st.used.take slot := by
    conv_lhs => rw [hAcl]
    rw [take_append_of_le_length (Nat.le_of_lt hSlot)]
  change st.acl.take slot ++ shiftDown st.blank (st.acl.drop slot) = _
  rw [hDrop, hTake, shiftDown_eq rfl fun storage hMem => used_inUse st (mem_of_mem_drop hMem),
    eraseIdx_eq_take_drop_succ, append_assoc]

/-- What `FixBeforeDelete` does to the delegates and to the pool. An object that refers to
the slot keeps doing so, or gets a copy in an element of the pool that was not in use. -/
structure Saved (slot : Nat) (storage : EntryStorage) (delegates fixed : OwnedPool StorageRef)
    (pool pool' : List EntryStorage) : Prop where
  owners : fixed.owners = delegates.owners
  copies : ∀ {index : Nat} {old : EntryStorage}, pool[index]? = some old → old.mInUse = true →
    pool'[index]? = some old
  moved : ∀ entry, fixed.lookup entry = delegates.lookup entry ∨
    delegates.lookup entry = some (.acl slot) ∧ ∃ index, fixed.lookup entry = some (.pool index) ∧
      pool'[index]? = some storage ∧ ∃ old, pool[index]? = some old ∧ old.mInUse = false
  own : ∀ {entry other index}, delegates.lookup entry = some (.acl slot) →
    delegates.lookup other = some (.acl slot) → fixed.lookup entry = some (.pool index) →
    fixed.lookup other = some (.pool index) → entry = other

theorem Saved.refl (slot : Nat) (storage : EntryStorage) (delegates : OwnedPool StorageRef)
  (pool : List EntryStorage) : Saved slot storage delegates delegates pool pool :=
  ⟨rfl, fun hGet _ => hGet, fun _ => .inl rfl, fun hEntry _ hFixed _ => by
    rw [hEntry] at hFixed
    cases hFixed⟩

theorem lookup_cons (entry owner : Nat) (ref : StorageRef) (rest : OwnedPool StorageRef) :
  lookup (some (owner, ref) :: rest) entry =
    if owner = entry then some ref else lookup rest entry := rfl

theorem fixBeforeDelete_saved (slot : Nat) {storage : EntryStorage} (hUse : storage.mInUse = true)
  (delegates : OwnedPool StorageRef) (pool : List EntryStorage) :
  Saved slot storage delegates (fixBeforeDelete slot storage delegates pool).1 pool
    (fixBeforeDelete slot storage delegates pool).2 := by
  induction delegates generalizing pool with
  | nil => exact Saved.refl slot storage [] pool
  | cons delegate rest ih =>
    cases delegate with
    | none =>
      have hRest := ih pool
      exact ⟨hRest.owners, hRest.copies, hRest.moved, hRest.own⟩
    | some delegate =>
      obtain ⟨owner, ref⟩ := delegate
      unfold fixBeforeDelete
      cases hFind : findInPool pool with
      | none => exact Saved.refl slot storage _ pool
      | some index =>
        obtain ⟨old, hOld, hUnused⟩ := findInPool_spec hFind
        by_cases hRef : ref = .acl slot
        · simp only [hRef, ↓reduceIte]
          have hRest := ih (pool.set index storage)
          have hLt : index < pool.length := (List.getElem?_eq_some_iff.mp hOld).1
          have hSelf : (fixBeforeDelete slot storage rest (pool.set index storage)).2[index]? =
              some storage := hRest.copies (List.getElem?_set_self hLt) hUse
          -- The elements handed out to the rest were not in use either, and differ.
          have hLater : ∀ {copy : Nat} {old' : EntryStorage}, (pool.set index storage)[copy]? = some old' →
              old'.mInUse = false → copy ≠ index ∧ pool[copy]? = some old' := by
            intro copy old' hGet hNot
            have hNe : copy ≠ index := by
              rintro rfl
              rw [List.getElem?_set_self hLt] at hGet
              cases hGet
              rw [hUse] at hNot
              cases hNot
            exact ⟨hNe, by rwa [List.getElem?_set_ne hNe.symm] at hGet⟩
          have hAway : ∀ {other}, OwnedPool.lookup rest other = some (.acl slot) →
              (fixBeforeDelete slot storage rest (pool.set index storage)).1.lookup other ≠
                some (.pool index) := by
            intro other hOther hFixed
            rcases hRest.moved other with hSame | ⟨-, copy, hCopy, -, old', hGet, hNot⟩
            · rw [hSame, hOther] at hFixed
              cases hFixed
            · rw [hCopy] at hFixed
              cases hFixed
              exact (hLater hGet hNot).1 rfl
          refine ⟨?_, ?_, ?_, ?_⟩
          · exact congrArg (owner :: ·) hRest.owners
          · intro copy old' hGet hIn
            have hNe : copy ≠ index := by
              rintro rfl
              rw [hOld] at hGet
              cases hGet
              rw [hUnused] at hIn
              cases hIn
            exact hRest.copies ((List.getElem?_set_ne hNe.symm).trans hGet) hIn
          · intro entry
            rw [lookup_cons, lookup_cons]
            by_cases hOwner : owner = entry
            · rw [if_pos hOwner, if_pos hOwner]
              exact .inr ⟨rfl, index, rfl, hSelf, old, hOld, hUnused⟩
            · rw [if_neg hOwner, if_neg hOwner]
              rcases hRest.moved entry with hSame | ⟨hSlot, copy, hCopy, hGet, old', hOld', hNot⟩
              · exact .inl hSame
              · exact .inr ⟨hSlot, copy, hCopy, hGet, old', (hLater hOld' hNot).2, hNot⟩
          · intro entry other copy hEntry hOther hFixed hFixed'
            rw [lookup_cons] at hEntry hOther hFixed hFixed'
            split_ifs at hEntry hOther hFixed hFixed' with hE hO hO
            · exact hE.symm.trans hO
            · cases hFixed
              exact absurd hFixed' (hAway hOther)
            · cases hFixed'
              exact absurd hFixed (hAway hEntry)
            · exact hRest.own hEntry hOther hFixed hFixed'
        · simp only [hRef, ↓reduceIte]
          have hRest := ih pool
          refine ⟨congrArg (owner :: ·) hRest.owners, hRest.copies, ?_, ?_⟩
          · intro entry
            rw [lookup_cons, lookup_cons]
            split_ifs with hOwner
            · exact .inl rfl
            · exact hRest.moved entry
          · intro entry other copy hEntry hOther hFixed hFixed'
            rw [lookup_cons] at hEntry hOther hFixed hFixed'
            split_ifs at hEntry hOther hFixed hFixed' with hE hO hO
            · exact hE.symm.trans hO
            · exact absurd (Option.some.inj hEntry) hRef
            · exact absurd (Option.some.inj hOther) hRef
            · exact hRest.own hEntry hOther hFixed hFixed'

theorem relativeToAbsolute_le {fabricIndex : UInt8} {index slot absolute relative : Nat}
  {acl : List EntryStorage}
  (h : relativeToAbsolute fabricIndex index acl absolute relative = some slot) :
  index + absolute ≤ slot + relative := by
  induction acl generalizing absolute relative with
  | nil => cases h
  | cons storage rest ih =>
    unfold relativeToAbsolute at h
    split_ifs at h with hUse hFabric hIndex
    · cases h
      omega
    · have hRest := ih h
      omega
    · have hRest := ih h
      omega

theorem findUsedInAcl_le {index slot : Nat} (hFind : st.findUsedInAcl fabricIndex index = some slot) :
  index ≤ slot := by
  obtain ⟨hFind, -⟩ := Option.filter_eq_some_iff.mp hFind
  cases fabricIndex with
  | none =>
    cases hFind
    exact Nat.le_refl _
  | some f => simpa using relativeToAbsolute_le hFind

theorem deleteSlot_delegates (st : AclStore) (slot fixedSlot : Nat) :
  (st.deleteSlot slot fixedSlot).delegates =
    (fixBeforeDelete slot (st.storageAt (.acl slot)) st.delegates st.pool).1.update
      fun _ ref => fixEntryAfterDelete fixedSlot ref := rfl

theorem deleteSlot_iterators (st : AclStore) (slot fixedSlot : Nat) :
  (st.deleteSlot slot fixedSlot).iterators = st.iterators.update fun _ delegate =>
    some (fixIteratorAfterDelete fixedSlot st.acl.length delegate) := rfl

theorem fixEntryAfterDelete_acl (slot index : Nat) :
  fixEntryAfterDelete slot (.acl index) =
    if index = slot then none
    else if slot < index then some (.acl (index - 1))
    else some (.acl index) := rfl

theorem deleteSlot_lookup (h : st.Sound) (hSlot : slot < st.used.length) (fixedSlot entry : Nat) :
  (st.deleteSlot slot fixedSlot).delegates.lookup entry =
    ((fixBeforeDelete slot (st.storageAt (.acl slot)) st.delegates st.pool).1.lookup entry).bind
      (fixEntryAfterDelete fixedSlot) := by
  have hSaved := fixBeforeDelete_saved slot
    (used_inUse st (storageAt_acl h hSlot).2) st.delegates st.pool
  rw [deleteSlot_delegates, lookup_update]
  rw [hSaved.owners]
  exact h.entryOwners

theorem fixEntryAfterDelete_pool {fixedSlot index : Nat} {ref : StorageRef}
  (h : fixEntryAfterDelete fixedSlot ref = some (.pool index)) : ref = .pool index := by
  cases ref with
  | acl slot =>
    rw [fixEntryAfterDelete_acl] at h
    split_ifs at h
    · cases h
    · cases h
  | pool copy =>
    cases h
    rfl

theorem deleteSlot_used (h : st.Sound) (hSlot : slot < st.used.length) (fixedSlot : Nat) :
  (st.deleteSlot slot fixedSlot).used = st.used.eraseIdx slot := by
  obtain ⟨k, hAcl, -⟩ := deleteSlot_acl h hSlot fixedSlot
  refine used_eq (k := k) hAcl fun storage hMem => ?_
  exact used_inUse st ((eraseIdx_sublist ..).mem hMem)

theorem deleteSlot_sound (h : st.Sound) {slot fixedSlot : Nat} (hSlot : slot < st.used.length)
  (hFixed : fixedSlot ≤ slot) : (st.deleteSlot slot fixedSlot).Sound := by
  have hSaved := fixBeforeDelete_saved slot
    (used_inUse st (storageAt_acl h hSlot).2) st.delegates st.pool
  have hUsed := deleteSlot_used h hSlot fixedSlot
  have hUse := used_inUse st (storageAt_acl h hSlot).2
  refine ⟨?_, ?_, ?_, ?_, ?_, ?_⟩
  · obtain ⟨k, hAcl, -⟩ := deleteSlot_acl h hSlot fixedSlot
    refine ⟨k, ?_⟩
    rw [hUsed]
    exact hAcl
  · rw [hUsed]
    exact fun storage hMem => h.valid storage ((eraseIdx_sublist ..).mem hMem)
  · rw [deleteSlot_delegates]
    refine owners_update.nodup ?_
    rw [hSaved.owners]
    exact h.entryOwners
  · rw [deleteSlot_iterators]
    exact owners_update.nodup h.iteratorOwners
  · intro entry ref hRef
    rw [deleteSlot_lookup h hSlot, Option.bind_eq_some_iff] at hRef
    obtain ⟨before, hBefore, hAfter⟩ := hRef
    cases ref with
    | acl index =>
      change index < (st.deleteSlot slot fixedSlot).used.length
      rw [hUsed, length_eraseIdx, if_pos hSlot]
      cases before with
      | pool copy => cases hAfter
      | acl old =>
        have hOld : old < st.used.length := by
          rcases hSaved.moved entry with hSame | ⟨-, copy, hCopy, -⟩
          · rw [hSame] at hBefore
            exact h.inUse hBefore
          · rw [hCopy] at hBefore
            cases hBefore
        rw [fixEntryAfterDelete_acl] at hAfter
        split_ifs at hAfter
        · cases hAfter
          omega
        · cases hAfter
          omega
    | pool index =>
      rw [fixEntryAfterDelete_pool hAfter] at hBefore
      rcases hSaved.moved entry with hSame | ⟨-, copy, hCopy, hGet, -⟩
      · rw [hSame] at hBefore
        obtain ⟨storage, hGet, hIn⟩ := h.inUse hBefore
        exact ⟨storage, hSaved.copies hGet hIn, hIn⟩
      · rw [hCopy] at hBefore
        cases hBefore
        exact ⟨_, hGet, hUse⟩
  · intro entry other index hEntry hOther
    rw [deleteSlot_lookup h hSlot, Option.bind_eq_some_iff] at hEntry hOther
    obtain ⟨ref, hEntry, hRef⟩ := hEntry
    obtain ⟨ref', hOther, hRef'⟩ := hOther
    rw [fixEntryAfterDelete_pool hRef] at hEntry
    rw [fixEntryAfterDelete_pool hRef'] at hOther
    -- A copy that was in use before is not one that has just been made.
    have hApart : ∀ {e e'}, st.delegates.lookup e = some (.pool index) → ∀ {old : EntryStorage},
        st.pool[index]? = some old → old.mInUse = false → e = e' := by
      intro e e' hOwn old hGet hNot
      obtain ⟨old', hGet', hIn⟩ := h.inUse hOwn
      rw [hGet] at hGet'
      cases hGet'
      rw [hNot] at hIn
      cases hIn
    rcases hSaved.moved entry with hSame | ⟨hAt, copy, hCopy, -, old, hGet, hNot⟩
    · rcases hSaved.moved other with hSame' | ⟨-, copy, hCopy, -, old, hGet, hNot⟩
      · rw [hSame] at hEntry
        rw [hSame'] at hOther
        exact h.own hEntry hOther
      · rw [hSame] at hEntry
        rw [hCopy] at hOther
        cases hOther
        exact hApart hEntry hGet hNot
    · rcases hSaved.moved other with hSame' | ⟨hAt', -⟩
      · rw [hSame'] at hOther
        rw [hCopy] at hEntry
        cases hEntry
        exact (hApart hOther hGet hNot).symm
      · exact hSaved.own hAt hAt' hEntry hOther

theorem deleteEntry_spec (fabricIndex : Option UInt8) (index : Nat) (st : AclStore) :
  deleteEntry fabricIndex index st = (.error .sentinel, st) ∧
    st.findUsedInAcl fabricIndex index = none ∨
  ∃ slot, st.findUsedInAcl fabricIndex index = some slot ∧
    deleteEntry fabricIndex index st = (.ok (), st.deleteSlot slot index) := by
  unfold deleteEntry
  rw [read_bind]
  cases hFind : st.findUsedInAcl fabricIndex index with
  | none => exact .inl ⟨rfl, rfl⟩
  | some slot => exact .inr ⟨slot, rfl, rfl⟩

theorem readEntry_spec (h : st.Sound) (fabricIndex : Option UInt8) (index entry : Nat) :
  (∃ e, readEntry fabricIndex index entry st = (.error e, st)) ∨
  ∃ slot st', st.findUsedInAcl fabricIndex index = some slot ∧
    readEntry fabricIndex index entry st = (.ok (), st') ∧ Frame st st' entry ∧ st'.Sound ∧
    st'.delegates.lookup entry = some (.acl slot) := by
  unfold readEntry
  rw [read_bind]
  cases hFind : st.findUsedInAcl fabricIndex index with
  | none => exact .inl ⟨_, rfl⟩
  | some slot =>
    simp only
    cases hInit : st.initEntry entry (.acl slot) with
    | none => exact .inl ⟨_, rfl⟩
    | some st' =>
      have hLt := findUsedInAcl_lt h hFind
      obtain ⟨hFrame, hRef⟩ := initEntry_acl h hLt hInit
      exact .inr ⟨slot, st', rfl, rfl, hFrame, initEntry_acl_sound h hLt hInit, hRef⟩

theorem Sound.with_iterators (h : st.Sound) {iterators : OwnedPool EntryIteratorDelegate}
  (hOwners : iterators.owners.Nodup) : ({ st with iterators := iterators } : AclStore).Sound :=
  ⟨h.rest, h.valid, h.entryOwners, hOwners, h.inUse, h.own⟩

theorem entries_spec (h : st.Sound) (iterator : Nat) (fabricIndex : Option UInt8) :
  (entries iterator fabricIndex st = (.error .bufferTooSmall, st) ∧
    st.iterators.claim iterator ⟨fabricIndex, none⟩ = none) ∨
  ∃ iterators, st.iterators.claim iterator ⟨fabricIndex, none⟩ = some iterators ∧
    entries iterator fabricIndex st = (.ok (), { st with iterators := iterators }) ∧
    ({ st with iterators := iterators } : AclStore).Sound := by
  unfold entries
  rw [read_bind]
  cases hClaim : st.iterators.claim iterator ⟨fabricIndex, none⟩ with
  | none => exact .inl ⟨rfl, rfl⟩
  | some iterators =>
    exact .inr ⟨iterators, rfl, rfl, h.with_iterators (nodup_claim h.iteratorOwners hClaim)⟩

/-- The slots in use from an index on that are of the iterator's fabric. -/
def matchesFabric (fabricIndex : Option UInt8) (storage : EntryStorage) : Bool :=
  fabricIndex.all fun f => storage.mFabricIndex = f

theorem nextSlot_spec {slots : List EntryStorage} {k start : Nat} {blank : EntryStorage}
  (hBlank : blank.mInUse = false) (hUse : ∀ storage ∈ slots, storage.mInUse = true) :
  nextSlot fabricIndex (slots ++ replicate k blank) start =
    (slots.findIdx? (matchesFabric fabricIndex)).map (· + start) := by
  induction slots generalizing start with
  | nil =>
    cases k with
    | zero => rfl
    | succ k => simp [replicate_succ, nextSlot, hBlank]
  | cons storage rest ih =>
    have hStorage := hUse storage mem_cons_self
    have hRest := @ih (start + 1) fun s hMem => hUse s (mem_cons_of_mem _ hMem)
    by_cases hMatch : matchesFabric fabricIndex storage = true
    · have hTest : (fabricIndex.all fun f => storage.mFabricIndex = f) = true := hMatch
      simp [nextSlot, hStorage, hTest, findIdx?_cons, hMatch]
    · have hTest : ¬ (fabricIndex.all fun f => storage.mFabricIndex = f) = true := hMatch
      simp only [cons_append, nextSlot, hStorage, Bool.not_true, Bool.false_eq_true, ↓reduceIte,
        hTest, hRest, findIdx?_cons, hMatch, Option.map_map]
      refine congrArg (Option.map · _) (funext fun i => ?_)
      simp only [Function.comp_apply]
      omega

/-- The slot that `Next` finds, if there is one. -/
def EntryIteratorDelegate.found (delegate : EntryIteratorDelegate) (st : AclStore) : Option Nat :=
  ((st.used.drop (EntryIteratorDelegate.start delegate st.acl.length)).findIdx?
    (matchesFabric delegate.mFabricIndex)).map
      (· + EntryIteratorDelegate.start delegate st.acl.length)

theorem nextSlot_found (h : st.Sound) (delegate : EntryIteratorDelegate) :
  nextSlot delegate.mFabricIndex
      (st.acl.drop (EntryIteratorDelegate.start delegate st.acl.length))
      (EntryIteratorDelegate.start delegate st.acl.length) =
    EntryIteratorDelegate.found delegate st := by
  obtain ⟨k, hAcl⟩ := h.rest
  have hDrop : ∀ n, st.acl.drop n =
      st.used.drop n ++ List.replicate (k - (n - st.used.length)) st.blank := by
    intro n
    conv_lhs => rw [hAcl]
    rw [List.drop_append, List.drop_replicate]
  rw [hDrop]
  exact nextSlot_spec rfl fun storage hMem => used_inUse st (List.mem_of_mem_drop hMem)

theorem found_lt {delegate : EntryIteratorDelegate}
  (hFound : EntryIteratorDelegate.found delegate st = some slot) : slot < st.used.length := by
  obtain ⟨i, hIdx, rfl⟩ := Option.map_eq_some_iff.mp hFound
  obtain ⟨hLt, -⟩ := List.findIdx?_eq_some_iff_getElem.mp hIdx
  rw [List.length_drop] at hLt
  omega

/-- Where the iterator is after `Next`. -/
def EntryIteratorDelegate.moved (delegate : EntryIteratorDelegate) (st : AclStore) :
  EntryIteratorDelegate :=
  { delegate with mStorage := some ((found delegate st).getD st.acl.length) }

/-- The store after `Next` has moved the iterator. -/
def moveIterator (st : AclStore) (iterator : Nat) (delegate : EntryIteratorDelegate) : AclStore :=
  { st with
    iterators := st.iterators.replace iterator (EntryIteratorDelegate.moved delegate st) }

theorem next_spec (h : st.Sound) (iterator entry : Nat) :
  (next iterator entry st = (.error .sentinel, st) ∧ st.iterators.lookup iterator = none) ∨
  ∃ delegate, st.iterators.lookup iterator = some delegate ∧
    (st.moveIterator iterator delegate).Sound ∧
    (next iterator entry st = (.error .sentinel, st.moveIterator iterator delegate) ∧
        EntryIteratorDelegate.found delegate st = none ∨
      ∃ slot, EntryIteratorDelegate.found delegate st = some slot ∧
        (next iterator entry st = (.error .bufferTooSmall, st.moveIterator iterator delegate) ∧
            st.delegates.claim entry (.acl slot) = none ∨
          ∃ st', next iterator entry st = (.ok (), st') ∧
            Frame (st.moveIterator iterator delegate) st' entry ∧ st'.Sound ∧
            st'.delegates.lookup entry = some (.acl slot))) := by
  unfold next
  rw [Proc.read_bind]
  cases hIterator : st.iterators.lookup iterator with
  | none => exact .inl ⟨rfl, rfl⟩
  | some delegate =>
    have hMoved : (st.moveIterator iterator delegate).Sound := by
      refine h.with_iterators ?_
      rw [OwnedPool.owners_replace]
      exact h.iteratorOwners
    refine .inr ⟨delegate, rfl, hMoved, ?_⟩
    simp only [nextSlot_found h, Proc.modify_bind]
    cases hFound : EntryIteratorDelegate.found delegate st with
    | none =>
      left
      simp only [moveIterator, EntryIteratorDelegate.moved, hFound]
      exact ⟨rfl, trivial⟩
    | some slot =>
      right
      have hLt : slot < (st.moveIterator iterator delegate).used.length := found_lt hFound
      have hMove : ({ delegate with mStorage := some ((some slot).getD st.acl.length) } :
          EntryIteratorDelegate) = EntryIteratorDelegate.moved delegate st := by
        unfold EntryIteratorDelegate.moved
        rw [hFound]
      simp only [Proc.read_bind, hMove]
      change ∃ slot', _ ∧ (orTooSmall ((st.moveIterator iterator delegate).initEntry entry
        (.acl slot)) (st.moveIterator iterator delegate) = _ ∧ _ ∨ ∃ st', orTooSmall
        ((st.moveIterator iterator delegate).initEntry entry (.acl slot))
        (st.moveIterator iterator delegate) = _ ∧ _)
      refine ⟨slot, rfl, ?_⟩
      cases hInit : (st.moveIterator iterator delegate).initEntry entry (.acl slot) with
      | none => exact .inl ⟨rfl, Option.map_eq_none_iff.mp hInit⟩
      | some st' =>
        obtain ⟨hFrame, hRef⟩ := initEntry_acl hMoved hLt hInit
        exact .inr ⟨st', rfl, hFrame, initEntry_acl_sound hMoved hLt hInit, hRef⟩

theorem call_sound (h : st.Sound) (op : AclOp) : (op.call st).2.Sound := by
  cases op with
  | prepare entry =>
    change (prepareEntry entry st).2.Sound
    rcases prepareEntry_spec h entry with hRun | ⟨st', index, hRun, -, hSound, -⟩
    · rw [hRun]
      exact h
    · rw [hRun]
      exact hSound
  | edit entry change' =>
    change (editEntry entry change' st).2.Sound
    rcases editEntry_spec h entry change' with ⟨e, hRun⟩ |
      ⟨storage, st₁, index, -, hSound₁, -, -, -, -, hRun⟩
    · rw [hRun]
      exact h
    · rcases hRun with ⟨e, -, hRun⟩ | ⟨storage', st', -, hRun, -, hSound, -⟩
      · rw [hRun]
        exact hSound₁
      · rw [hRun]
        exact hSound
  | create fabricIndex entry =>
    change (createEntry fabricIndex entry st).2.Sound
    rcases createEntry_spec h fabricIndex entry with ⟨e, hRun⟩ | ⟨ref, k, -, hRun, hSound, -⟩
    · rw [hRun]
      exact h
    · rw [hRun]
      exact hSound
  | read fabricIndex index entry =>
    change (readEntry fabricIndex index entry st).2.Sound
    rcases readEntry_spec h fabricIndex index entry with ⟨e, hRun⟩ | ⟨slot, st', -, hRun, -, hSound, -⟩
    · rw [hRun]
      exact h
    · rw [hRun]
      exact hSound
  | update fabricIndex index entry =>
    change (updateEntry fabricIndex index entry st).2.Sound
    rcases updateEntry_spec h fabricIndex index entry with ⟨e, hRun⟩ |
      ⟨ref, k, slot, -, -, -, hRun, hSound, -⟩
    · rw [hRun]
      exact h
    · rw [hRun]
      exact hSound
  | delete fabricIndex index =>
    change (deleteEntry fabricIndex index st).2.Sound
    rcases deleteEntry_spec fabricIndex index st with ⟨hRun, -⟩ | ⟨slot, hFind, hRun⟩
    · rw [hRun]
      exact h
    · rw [hRun]
      exact deleteSlot_sound h (findUsedInAcl_lt h hFind) (findUsedInAcl_le hFind)
  | entries iterator fabricIndex =>
    change (entries iterator fabricIndex st).2.Sound
    rcases entries_spec h iterator fabricIndex with ⟨hRun, -⟩ | ⟨iterators, -, hRun, hSound⟩
    · rw [hRun]
      exact h
    · rw [hRun]
      exact hSound
  | next iterator entry =>
    change (next iterator entry st).2.Sound
    rcases next_spec h iterator entry with ⟨hRun, -⟩ | ⟨delegate, -, hMoved, hRun⟩
    · rw [hRun]
      exact h
    · rcases hRun with ⟨hRun, -⟩ | ⟨slot, -, ⟨hRun, -⟩ | ⟨st', hRun, -, hSound, -⟩⟩
      · rw [hRun]
        exact hMoved
      · rw [hRun]
        exact hMoved
      · rw [hRun]
        exact hSound
  | releaseEntry entry => exact release_sound h entry
  | releaseIterator iterator => exact h.with_iterators (OwnedPool.nodup_free h.iteratorOwners)

end AclStore

theorem AclConfig.init_sound (config : AclConfig) : config.init.Sound := by
  have hUsed : config.init.used = [] :=
    AclStore.used_eq (k := config.maxEntries) rfl nofun
  have hEmpty : ∀ {α : Type} (n : Nat),
      owners (replicate n (none : Option (Nat × α))) = [] := by
    intro α n
    simp [owners]
  have hNone : ∀ entry, config.init.delegates.lookup entry = none := by
    intro entry
    rw [lookup_eq_none_iff]
    change entry ∉ owners (replicate _ none)
    rw [hEmpty]
    exact not_mem_nil
  refine ⟨⟨config.maxEntries, ?_⟩, ?_, ?_, ?_, ?_, ?_⟩
  · rw [hUsed]
    rfl
  · rw [hUsed]
    exact nofun
  · change (owners (replicate _ none)).Nodup
    rw [hEmpty]
    exact nodup_nil
  · change (owners (replicate _ none)).Nodup
    rw [hEmpty]
    exact nodup_nil
  · intro entry ref hRef
    rw [hNone] at hRef
    cases hRef
  · intro entry other index hRef
    rw [hNone] at hRef
    cases hRef

theorem aclRun_sound {st : AclStore} (h : st.Sound) (ops : List AclOp) : (aclRun ops st).Sound := by
  induction ops generalizing st with
  | nil => exact h
  | cons op ops ih => exact ih (AclStore.call_sound h op)

end Chip.Access
