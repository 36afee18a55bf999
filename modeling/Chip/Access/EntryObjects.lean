import Chip.Access.AclStore
import Mathlib.Data.List.TakeWhile

/-! `Entry` objects of a sound store. In a sound store the slots in use come first and hold
valid entries, and every delegate in use refers to a storage in use. A call on an object
changes nothing that the other objects refer to. -/
namespace Chip.Access

open List OwnedPool Proc

namespace AclStore

def used (st : AclStore) : List EntryStorage := st.acl.takeWhile EntryStorage.mInUse

def InUse (st : AclStore) : StorageRef → Prop
  | .acl index => index < st.used.length
  | .pool index => ∃ storage, st.pool[index]? = some storage ∧ storage.mInUse = true

structure Sound (st : AclStore) : Prop where
  rest : ∃ k, st.acl = st.used ++ List.replicate k st.blank
  valid : ∀ storage ∈ st.used, storage.isValid = true
  entryOwners : st.delegates.owners.Nodup
  iteratorOwners : st.iterators.owners.Nodup
  inUse : ∀ {entry ref}, st.delegates.lookup entry = some ref → st.InUse ref
  own : ∀ {entry other index}, st.delegates.lookup entry = some (.pool index) →
    st.delegates.lookup other = some (.pool index) → entry = other

variable {storage : EntryStorage} {slot : Nat} {index : Nat}

theorem used_inUse (st : AclStore) (h : storage ∈ st.used) :
  storage.mInUse = true := by
  simpa using mem_takeWhile_imp h

theorem used_eq {st : AclStore} {slots : List EntryStorage} {k : Nat}
  (hAcl : st.acl = slots ++ replicate k st.blank)
  (hUse : ∀ storage ∈ slots, storage.mInUse = true) : st.used = slots := by
  unfold used
  rw [hAcl, takeWhile_append_of_pos hUse]
  cases k with
  | zero => simp
  | succ k => simp [replicate_succ, blank, EntryStorage.cleared]

theorem storageAt_acl {st : AclStore} (h : st.Sound) (hSlot : slot < st.used.length) :
  st.used[slot]? = some (st.storageAt (.acl slot)) ∧ st.storageAt (.acl slot) ∈ st.used := by
  obtain ⟨k, hAcl⟩ := h.rest
  have hGet : st.storageAt (.acl slot) = st.used[slot] := by
    change st.acl.getD slot st.blank = _
    rw [hAcl, getD_eq_getElem?_getD, getElem?_append_left hSlot,
      getElem?_eq_getElem hSlot]
    rfl
  rw [hGet, getElem?_eq_getElem hSlot]
  exact ⟨rfl, getElem_mem hSlot⟩

/-- A change that concerns the delegate and the copy of one `Entry` object only. -/
structure Frame (st st' : AclStore) (entry : Nat) : Prop where
  acl : st'.acl = st.acl
  iterators : st'.iterators = st.iterators
  maxSubjects : st'.maxSubjects = st.maxSubjects
  maxTargets : st'.maxTargets = st.maxTargets
  maxEntriesPerFabric : st'.maxEntriesPerFabric = st.maxEntriesPerFabric
  owners : st'.delegates.owners.Nodup
  others : ∀ {other}, other ≠ entry → st'.delegates.lookup other = st.delegates.lookup other
  copies : ∀ {other index}, other ≠ entry → st.delegates.lookup other = some (.pool index) →
    st'.pool[index]? = st.pool[index]?

namespace Frame

variable {st st' st'' : AclStore} {entry : Nat}

theorem blank (h : Frame st st' entry) : st'.blank = st.blank := by
  unfold AclStore.blank
  rw [h.maxSubjects, h.maxTargets]

theorem used (h : Frame st st' entry) : st'.used = st.used := by
  unfold AclStore.used
  rw [h.acl]

theorem refl (h : st.Sound) (entry : Nat) : Frame st st entry :=
  ⟨rfl, rfl, rfl, rfl, rfl, h.entryOwners, fun _ => rfl, fun _ _ => rfl⟩

theorem trans (h : Frame st st' entry) (h' : Frame st' st'' entry) : Frame st st'' entry where
  acl := h'.acl.trans h.acl
  iterators := h'.iterators.trans h.iterators
  maxSubjects := h'.maxSubjects.trans h.maxSubjects
  maxTargets := h'.maxTargets.trans h.maxTargets
  maxEntriesPerFabric := h'.maxEntriesPerFabric.trans h.maxEntriesPerFabric
  owners := h'.owners
  others hOther := (h'.others hOther).trans (h.others hOther)
  copies hOther hCopy := by
    rw [h'.copies hOther ((h.others hOther).trans hCopy), h.copies hOther hCopy]

theorem sound (h : Frame st st' entry) (hSound : st.Sound)
  (hEntry : ∀ {ref}, st'.delegates.lookup entry = some ref → st'.InUse ref)
  (hOwn : ∀ {other index}, st'.delegates.lookup entry = some (.pool index) → other ≠ entry →
    st.delegates.lookup other ≠ some (.pool index)) : st'.Sound where
  rest := by
    rw [h.acl, h.used, h.blank]
    exact hSound.rest
  valid := by
    rw [h.used]
    exact hSound.valid
  entryOwners := h.owners
  iteratorOwners := by
    rw [h.iterators]
    exact hSound.iteratorOwners
  inUse := by
    intro other ref hRef
    by_cases hOther : other = entry
    · subst hOther
      exact hEntry hRef
    · rw [h.others hOther] at hRef
      have hUse := hSound.inUse hRef
      cases ref with
      | acl index =>
        change index < st'.used.length
        rw [h.used]
        exact hUse
      | pool index =>
        obtain ⟨storage, hGet, hIn⟩ := hUse
        exact ⟨storage, (h.copies hOther hRef).trans hGet, hIn⟩
  own := by
    intro first second index hFirst hSecond
    by_cases hF : first = entry
    · by_cases hS : second = entry
      · rw [hF, hS]
      · subst hF
        rw [h.others hS] at hSecond
        exact absurd hSecond (hOwn hFirst hS)
    · rw [h.others hF] at hFirst
      by_cases hS : second = entry
      · subst hS
        exact absurd hFirst (hOwn hSecond hF)
      · rw [h.others hS] at hSecond
        exact hSound.own hFirst hSecond

end Frame

variable {st st' : AclStore} {entry : Nat}

theorem findInPool_spec {pool : List EntryStorage} (h : findInPool pool = some index) :
  ∃ storage, pool[index]? = some storage ∧ storage.mInUse = false := by
  obtain ⟨hLt, hNot, -⟩ := findIdx?_eq_some_iff_getElem.mp h
  exact ⟨pool[index], getElem?_eq_getElem hLt, by simpa using hNot⟩

theorem Sound.unused (h : st.Sound) (hFind : findInPool st.pool = some index) (other : Nat) :
  st.delegates.lookup other ≠ some (.pool index) := by
  intro hOther
  obtain ⟨storage, hGet, hNot⟩ := findInPool_spec hFind
  obtain ⟨storage', hGet', hUse⟩ := h.inUse hOther
  rw [hGet] at hGet'
  cases hGet'
  rw [hNot] at hUse
  cases hUse

theorem release_frame (h : st.Sound) (entry : Nat) :
  Frame st (st.release entry) entry ∧ (st.release entry).delegates.lookup entry = none := by
  have hFree : ∀ {other}, other ≠ entry →
      (st.delegates.free entry).lookup other = st.delegates.lookup other := by
    intro other hOther
    rw [lookup_free h.entryOwners, if_neg hOther]
  have hGone : (st.delegates.free entry).lookup entry = none := by
    rw [lookup_free h.entryOwners, if_pos rfl]
  have hOwners : (st.delegates.free entry).owners.Nodup := nodup_free h.entryOwners
  unfold release
  cases hRef : st.delegates.lookup entry with
  | none => exact ⟨Frame.refl h entry, hRef⟩
  | some ref =>
    cases ref with
    | acl slot => exact ⟨⟨rfl, rfl, rfl, rfl, rfl, hOwners, hFree, fun _ _ => rfl⟩, hGone⟩
    | pool index =>
      refine ⟨⟨rfl, rfl, rfl, rfl, rfl, hOwners, hFree, ?_⟩, hGone⟩
      intro other copy hOther hCopy
      have hNe : index ≠ copy := by
        rintro rfl
        exact hOther (h.own hCopy hRef)
      simp [hNe]

theorem release_sound (h : st.Sound) (entry : Nat) : (st.release entry).Sound := by
  obtain ⟨hFrame, hNone⟩ := release_frame h entry
  refine hFrame.sound h ?_ ?_
  · intro ref hRef
    rw [hNone] at hRef
    cases hRef
  · intro other index hRef
    rw [hNone] at hRef
    cases hRef

theorem claim_frame {delegates : OwnedPool StorageRef} {ref : StorageRef} (h : st.Sound)
  (hClaim : st.delegates.claim entry ref = some delegates) (hFrame : Frame st st' entry) :
  Frame st { st' with delegates := delegates } entry ∧ delegates.lookup entry = some ref := by
  refine ⟨{ hFrame with owners := ?_, others := ?_, copies := hFrame.copies }, ?_⟩
  · exact nodup_claim h.entryOwners hClaim
  · intro other hOther
    rw [lookup_claim hClaim, if_neg hOther]
  · rw [lookup_claim hClaim, if_pos rfl]

section

variable (h : st.Sound) (hSlot : slot < st.used.length)
  (hInit : st.initEntry entry (.acl slot) = some st')
include h hSlot hInit

theorem initEntry_acl : Frame st st' entry ∧ st'.delegates.lookup entry = some (.acl slot) := by
  obtain ⟨delegates, hClaim, rfl⟩ := Option.map_eq_some_iff.mp hInit
  obtain ⟨hFrame, -⟩ := release_frame h entry
  have hReady : (st.release entry).initStorage (.acl slot) = st.release entry := by
    have hSlot' : slot < (st.release entry).used.length := by
      rw [hFrame.used]
      exact hSlot
    have hMem := (storageAt_acl (release_sound h entry) hSlot').2
    unfold initStorage
    rw [if_pos (used_inUse _ hMem)]
  rw [hReady]
  exact claim_frame h hClaim hFrame

theorem initEntry_acl_sound : st'.Sound := by
  obtain ⟨hFrame, hRef⟩ := initEntry_acl h hSlot hInit
  refine hFrame.sound h ?_ ?_
  · intro ref hRef'
    rw [hRef] at hRef'
    cases hRef'
    change slot < st'.used.length
    rw [hFrame.used]
    exact hSlot
  · intro other index hRef'
    rw [hRef] at hRef'
    cases hRef'

end

/-- The element of the pool that `PrepareEntry` uses. -/
def Candidate (st : AclStore) (entry index : Nat) : Prop :=
  st.delegates.lookup entry = some (.pool index) ∨ findInPool st.pool = some index

theorem initEntry_pool (h : st.Sound) (hCandidate : st.Candidate entry index)
  (hInit : st.initEntry entry (.pool index) = some st') :
  Frame st st' entry ∧ st'.delegates.lookup entry = some (.pool index) ∧
    st'.pool[index]? = some { st.blank with mInUse := true } ∧
    ∀ other ≠ entry, st.delegates.lookup other ≠ some (.pool index) := by
  obtain ⟨delegates, hClaim, rfl⟩ := Option.map_eq_some_iff.mp hInit
  obtain ⟨hFrame, hNone⟩ := release_frame h entry
  have hOther : ∀ other ≠ entry, st.delegates.lookup other ≠ some (.pool index) := by
    intro other hNe hRef
    rcases hCandidate with hOwn | hFind
    · exact hNe (h.own hRef hOwn)
    · exact h.unused hFind other hRef
  -- Releasing the object leaves this element of the pool unused.
  have hUnused : ∃ storage, (st.release entry).pool[index]? = some storage ∧
      storage.mInUse = false := by
    rcases hCandidate with hOwn | hFind
    · obtain ⟨storage, hGet, -⟩ := h.inUse hOwn
      refine ⟨{ storage with mInUse := false }, ?_, rfl⟩
      unfold release
      rw [hOwn]
      simp [hGet]
    · obtain ⟨storage, hGet, hNot⟩ := findInPool_spec hFind
      unfold release
      cases hRef : st.delegates.lookup entry with
      | none => exact ⟨storage, hGet, hNot⟩
      | some ref =>
        cases ref with
        | acl slot => exact ⟨storage, hGet, hNot⟩
        | pool copy =>
          have hNe : copy ≠ index := by
            rintro rfl
            exact h.unused hFind entry hRef
          exact ⟨storage, by simp [hNe, hGet], hNot⟩
  obtain ⟨storage, hGet, hNot⟩ := hUnused
  have hReady : (st.release entry).initStorage (.pool index) =
      (st.release entry).setStorage { st.blank with mInUse := true } (.pool index) := by
    have hAt : ((st.release entry).storageAt (.pool index)).mInUse = false := by
      change ((st.release entry).pool.getD index _).mInUse = false
      rw [List.getD_eq_getElem?_getD, hGet]
      exact hNot
    unfold initStorage
    rw [if_neg (by simp [hAt]), hFrame.blank]
  have hLt : index < (st.release entry).pool.length := (List.getElem?_eq_some_iff.mp hGet).1
  have hSet : Frame st ((st.release entry).setStorage { st.blank with mInUse := true }
      (.pool index)) entry := by
    refine ⟨hFrame.acl, hFrame.iterators, hFrame.maxSubjects, hFrame.maxTargets,
      hFrame.maxEntriesPerFabric, hFrame.owners, hFrame.others, ?_⟩
    intro other copy hNe hCopy
    have hIndex : index ≠ copy := by
      rintro rfl
      exact hOther other hNe hCopy
    change ((st.release entry).pool.set index _)[copy]? = _
    rw [List.getElem?_set_ne hIndex, hFrame.copies hNe hCopy]
  rw [hReady]
  obtain ⟨hAll, hRef⟩ := claim_frame h hClaim hSet
  refine ⟨hAll, hRef, ?_, hOther⟩
  change ((st.release entry).pool.set index _)[index]? = _
  rw [List.getElem?_set_self hLt]

theorem Frame.sound_of_copy (hFrame : Frame st st' entry) (h : st.Sound)
  (hRef : st'.delegates.lookup entry = some (.pool index)) (hGet : st'.pool[index]? = some storage)
  (hUse : storage.mInUse = true)
  (hOther : ∀ other ≠ entry, st.delegates.lookup other ≠ some (.pool index)) : st'.Sound := by
  refine hFrame.sound h ?_ ?_
  · intro ref hRef'
    rw [hRef] at hRef'
    cases hRef'
    exact ⟨storage, hGet, hUse⟩
  · intro other copy hRef' hNe
    rw [hRef] at hRef'
    cases hRef'
    exact hOther other hNe

def Prepares (st : AclStore) (entry : Nat) : Prop :=
  prepareEntry entry st = (.error .bufferTooSmall, st) ∨
  ∃ st' index, prepareEntry entry st = (.ok (), st') ∧ Frame st st' entry ∧ st'.Sound ∧
    st'.delegates.lookup entry = some (.pool index) ∧
    st'.pool[index]? = some { st.blank with mInUse := true }

theorem prepareEntry_spec (h : st.Sound) (entry : Nat) : st.Prepares entry := by
  have hCopy : ∀ index, st.Candidate entry index →
      prepareEntry entry st = orTooSmall (st.initEntry entry (.pool index)) st → st.Prepares entry := by
    intro index hCandidate hRun
    rw [Prepares, hRun]
    cases hInit : st.initEntry entry (.pool index) with
    | none => exact .inl rfl
    | some st' =>
      obtain ⟨hFrame, hRef, hGet, hOther⟩ := initEntry_pool h hCandidate hInit
      exact .inr ⟨st', index, rfl, hFrame, hFrame.sound_of_copy h hRef hGet rfl hOther, hRef, hGet⟩
  have hFree : prepareEntry entry st =
      orTooSmall ((findInPool st.pool).bind fun index => st.initEntry entry (.pool index)) st → st.Prepares entry := by
    intro hRun
    cases hFind : findInPool st.pool with
    | none =>
      rw [Prepares, hRun, hFind]
      exact .inl rfl
    | some index =>
      refine hCopy index (.inr hFind) (hRun.trans ?_)
      rw [hFind]
      rfl
  cases hRef : st.delegates.lookup entry with
  | none =>
    refine hFree ?_
    unfold prepareEntry
    simp only [read_bind, hRef]
  | some ref =>
    cases ref with
    | acl slot =>
      refine hFree ?_
      unfold prepareEntry
      simp only [read_bind, hRef]
    | pool index =>
      refine hCopy index (.inl hRef) ?_
      unfold prepareEntry
      simp only [read_bind, hRef, Option.bind_some]

theorem ensureStorageInPool_spec (h : st.Sound) (hRef : st.delegates.lookup entry = some (.acl slot)) :
  ensureStorageInPool entry st = (.error .bufferTooSmall, st) ∨
  ∃ st' index, ensureStorageInPool entry st = (.ok (), st') ∧ Frame st st' entry ∧ st'.Sound ∧
    st'.delegates.lookup entry = some (.pool index) ∧
    st'.pool[index]? = some (st.storageAt (.acl slot)) := by
  have hRun : ensureStorageInPool entry st =
      orTooSmall ((findInPool st.pool).map fun index =>
        { st with
          pool := st.pool.set index (st.storageAt (.acl slot))
          delegates := st.delegates.replace entry (.pool index) }) st := by
    unfold ensureStorageInPool
    simp only [Proc.read_bind, hRef]
  rw [hRun]
  cases hFind : findInPool st.pool with
  | none => exact .inl rfl
  | some index =>
    right
    have hLt : index < st.pool.length := by
      obtain ⟨storage, hGet, -⟩ := findInPool_spec hFind
      exact (List.getElem?_eq_some_iff.mp hGet).1
    have hLookup : ∀ other, (st.delegates.replace entry (.pool index)).lookup other =
        if other = entry then some (.pool index) else st.delegates.lookup other := by
      intro other
      rw [OwnedPool.lookup_replace, hRef]
      rfl
    have hGet : (st.pool.set index (st.storageAt (.acl slot)))[index]? =
        some (st.storageAt (.acl slot)) := List.getElem?_set_self hLt
    have hSelf := (hLookup entry).trans (if_pos rfl)
    have hFrame : Frame st { st with
        pool := st.pool.set index (st.storageAt (.acl slot))
        delegates := st.delegates.replace entry (.pool index) } entry := by
      refine ⟨rfl, rfl, rfl, rfl, rfl, ?_, ?_, ?_⟩
      · rw [OwnedPool.owners_replace]
        exact h.entryOwners
      · intro other hOther
        exact (hLookup other).trans (if_neg hOther)
      · intro other copy hOther hCopy
        refine List.getElem?_set_ne ?_
        rintro rfl
        exact h.unused hFind other hCopy
    have hUse := used_inUse _ (storageAt_acl h (h.inUse hRef)).2
    exact ⟨_, index, rfl, hFrame,
      hFrame.sound_of_copy h hSelf hGet hUse fun other _ => h.unused hFind other, hSelf, hGet⟩

theorem setCopy_frame (h : st.Sound) (hRef : st.delegates.lookup entry = some (.pool index))
  (hUse : storage.mInUse = true) :
  Frame st (st.setStorage storage (.pool index)) entry ∧
    (st.setStorage storage (.pool index)).Sound ∧
    (st.setStorage storage (.pool index)).pool[index]? = some storage := by
  have hLt : index < st.pool.length := by
    obtain ⟨old, hGet, -⟩ := h.inUse hRef
    exact (List.getElem?_eq_some_iff.mp hGet).1
  have hOther : ∀ other ≠ entry, st.delegates.lookup other ≠ some (.pool index) :=
    fun other hNe hCopy => hNe (h.own hCopy hRef)
  have hGet : (st.pool.set index storage)[index]? = some storage := List.getElem?_set_self hLt
  have hFrame : Frame st (st.setStorage storage (.pool index)) entry := by
    refine ⟨rfl, rfl, rfl, rfl, rfl, h.entryOwners, fun _ => rfl, ?_⟩
    intro other copy hNe hCopy
    refine List.getElem?_set_ne ?_
    rintro rfl
    exact hOther other hNe hCopy
  exact ⟨hFrame, hFrame.sound_of_copy h hRef hGet hUse hOther, hGet⟩

end AclStore

theorem EntryStorage.edit_inUse {storage storage' : EntryStorage} {change : EntryEdit}
  (h : storage.edit change = .ok storage') : storage'.mInUse = storage.mInUse := by
  cases change with
  | setAuthMode | setFabricIndex | setPrivilege =>
    cases h
    rfl
  | setSubject index subject =>
    change storage.setSubject index subject = .ok storage' at h
    unfold setSubject at h
    split at h
    · cases h
    · split_ifs at h
      cases h
      rfl
  | addSubject subject =>
    change storage.addSubject subject = .ok storage' at h
    unfold addSubject at h
    split_ifs at h
    cases h
    rfl
  | removeSubject index =>
    change storage.removeSubject index = .ok storage' at h
    unfold removeSubject at h
    split_ifs at h
    cases h
    rfl
  | setTarget index target =>
    change storage.setTarget index target = .ok storage' at h
    unfold setTarget at h
    split at h
    · cases h
    · split_ifs at h
      cases h
      rfl
  | addTarget target =>
    change storage.addTarget target = .ok storage' at h
    unfold addTarget at h
    split_ifs at h
    cases h
    rfl
  | removeTarget index =>
    change storage.removeTarget index = .ok storage' at h
    unfold removeTarget at h
    split_ifs at h
    cases h
    rfl

namespace AclStore

variable {st st' : AclStore} {entry : Nat}

theorem editStorage_spec (h : st.Sound) {index : Nat} {storage : EntryStorage}
  (hRef : st.delegates.lookup entry = some (.pool index))
  (hGet : st.pool[index]? = some storage) (change : EntryEdit) :
  (∃ e, storage.edit change = .error e ∧ editStorage entry change st = (.error e, st)) ∨
  ∃ storage' st', storage.edit change = .ok storage' ∧
    editStorage entry change st = (.ok (), st') ∧ Frame st st' entry ∧ st'.Sound ∧
    st'.delegates.lookup entry = some (.pool index) ∧ st'.pool[index]? = some storage' := by
  have hAt : st.storageAt (.pool index) = storage := by
    change st.pool.getD index st.blank = storage
    rw [getD_eq_getElem?_getD, hGet]
    rfl
  have hUse : storage.mInUse = true := by
    obtain ⟨storage', hGet', hUse⟩ := h.inUse hRef
    rw [hGet] at hGet'
    cases hGet'
    exact hUse
  unfold editStorage
  simp only [read_bind, hRef, hAt]
  cases hEdit : storage.edit change with
  | error e => exact .inl ⟨e, rfl, rfl⟩
  | ok storage' =>
    obtain ⟨hFrame, hSound, hGet'⟩ :=
      setCopy_frame h hRef ((EntryStorage.edit_inUse hEdit).trans hUse)
    exact .inr ⟨storage', _, rfl, rfl, hFrame, hSound, hRef, hGet'⟩

theorem editEntry_spec (h : st.Sound) (entry : Nat) (change : EntryEdit) :
  (∃ e, editEntry entry change st = (.error e, st)) ∨
  ∃ storage st₁ index, Frame st st₁ entry ∧ st₁.Sound ∧
    st₁.delegates.lookup entry = some (.pool index) ∧ st₁.pool[index]? = some storage ∧
    (∀ ref, st.delegates.lookup entry = some ref → storage = st.storageAt ref) ∧
    (st.delegates.lookup entry).isSome ∧
    ((∃ e, storage.edit change = .error e ∧ editEntry entry change st = (.error e, st₁)) ∨
      ∃ storage' st', storage.edit change = .ok storage' ∧
        editEntry entry change st = (.ok (), st') ∧ Frame st st' entry ∧ st'.Sound ∧
        st'.delegates.lookup entry = some (.pool index) ∧ st'.pool[index]? = some storage') := by
  unfold editEntry
  cases hRef : st.delegates.lookup entry with
  | none =>
    left
    refine ⟨.notImplemented, ?_⟩
    have hRun : ensureStorageInPool entry st = (.ok (), st) := by
      unfold ensureStorageInPool
      simp only [read_bind, hRef]
      rfl
    rw [bind_ok hRun]
    unfold editStorage
    simp only [read_bind, hRef]
    rfl
  | some ref =>
    cases ref with
    | pool index =>
      have hRun : ensureStorageInPool entry st = (.ok (), st) := by
        unfold ensureStorageInPool
        simp only [read_bind, hRef]
        rfl
      rw [bind_ok hRun]
      obtain ⟨storage, hGet, hUse⟩ := h.inUse hRef
      refine .inr ⟨storage, st, index, Frame.refl h entry, h, hRef, hGet, ?_, rfl,
        editStorage_spec h hRef hGet change⟩
      intro ref hEq
      cases hEq
      change _ = st.pool.getD index st.blank
      rw [getD_eq_getElem?_getD, hGet]
      rfl
    | acl slot =>
      rcases ensureStorageInPool_spec h hRef with hRun | ⟨st₁, index, hRun, hFrame, hSound, hRef₁, hGet⟩
      · rw [bind_error hRun]
        exact .inl ⟨_, rfl⟩
      · rw [bind_ok hRun]
        refine .inr ⟨_, st₁, index, hFrame, hSound, hRef₁, hGet, ?_, rfl, ?_⟩
        · intro ref hEq
          cases hEq
          rfl
        · rcases editStorage_spec hSound hRef₁ hGet change with hError |
            ⟨storage', st', hEdit, hRun', hFrame', hRest⟩
          · exact .inl hError
          · exact .inr ⟨storage', st', hEdit, hRun', hFrame.trans hFrame', hRest⟩

end AclStore
end Chip.Access
