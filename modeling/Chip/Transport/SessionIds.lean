import Chip.Transport.SecureSessionTable

/-! The ids of secure sessions. The search finds the first id that no session uses, in the
order that starts at the hint and wraps around, so that no two sessions share one. -/
namespace Chip.Transport

open List SecureSession SessionEntries SecureSessionTable

open SecureChannel (ScopedNodeId)

theorem setBit_getLsbD (base id : UInt16) (mask : BitVec 64) {j : Nat} (hj : j < 64) :
  (setBit base mask id).getLsbD j ↔ mask.getLsbD j ∨ (id - base).toNat = j := by
  unfold setBit
  by_cases hShift : id - base ≤ 63
  · have hSmall : (id - base).toNat ≤ 63 := by simpa [UInt16.le_iff_toNat_le] using hShift
    rw [if_pos hShift, BitVec.getLsbD_or, BitVec.getLsbD_shiftLeft, BitVec.getLsbD_one]
    simp only [hj, decide_true, Bool.true_and, Bool.or_eq_true, Bool.and_eq_true,
      Bool.not_eq_true', decide_eq_false_iff_not, decide_eq_true_eq]
    apply or_congr_right
    omega
  · have hLarge : 63 < (id - base).toNat := by
      have h := UInt16.not_le.mp hShift
      simpa [UInt16.lt_iff_toNat_lt] using h
    rw [if_neg hShift]
    constructor
    · exact Or.inl
    · rintro (h | h)
      · exact h
      · omega

theorem setBits_getLsbD (base : UInt16) (ids : List UInt16) (mask : BitVec 64) {j : Nat}
  (hj : j < 64) :
  (setBits base ids mask).getLsbD j ↔ mask.getLsbD j ∨ ∃ id ∈ ids, (id - base).toNat = j := by
  induction ids generalizing mask with
  | nil => simp [setBits]
  | cons id rest ih =>
    have hBit := setBit_getLsbD base id mask hj
    rw [setBits]
    by_cases hFull : setBit base mask id = BitVec.allOnes 64
    · have hOne : (setBit base mask id).getLsbD j = true := by
        rw [hFull, BitVec.getLsbD_allOnes]
        exact decide_eq_true hj
      rw [if_pos hFull]
      refine ⟨fun _ => ?_, fun _ => hOne⟩
      rcases hBit.mp hOne with h | h
      · exact Or.inl h
      · exact Or.inr ⟨id, mem_cons_self, h⟩
    · rw [if_neg hFull, ih, hBit]
      simp [or_assoc]

def taken (ids : List UInt16) : List UInt16 := kUnsecuredSessionId :: ids

theorem candidateMask_getLsbD (ids : List UInt16) (base : UInt16) {j : Nat} (hj : j < 64) :
  (candidateMask ids base).getLsbD j ↔ ∃ id ∈ taken ids, (id - base).toNat = j := by
  rw [candidateMask, setBits_getLsbD base ids _ hj, setBit_getLsbD base _ _ hj]
  simp [taken]

theorem trailingOnes_spec (mask : BitVec 64) :
  mask.getLsbD (trailingOnes mask) = false ∧ ∀ j < trailingOnes mask, mask.getLsbD j := by
  induction mask using trailingOnes.induct with
  | case1 mask hBit ih =>
    obtain ⟨hClear, hSet⟩ := ih
    rw [trailingOnes, if_pos hBit]
    constructor
    · simpa [BitVec.getLsbD_ushiftRight, Nat.add_comm] using hClear
    · intro j hj
      cases j with
      | zero => exact hBit
      | succ j =>
        have h := hSet j (by omega)
        simpa [BitVec.getLsbD_ushiftRight, Nat.add_comm] using h
  | case2 mask hBit =>
    rw [trailingOnes, if_neg hBit]
    exact ⟨by simpa using hBit, by simp⟩

theorem trailingOnes_lt {mask : BitVec 64} (h : mask ≠ BitVec.allOnes 64) :
  trailingOnes mask < 64 := by
  by_contra hLarge
  apply h
  apply BitVec.eq_of_getLsbD_eq
  intro j hj
  rw [(trailingOnes_spec mask).2 j (by omega), BitVec.getLsbD_allOnes]
  exact (decide_eq_true hj).symm

variable {next id : UInt16} {ids : List UInt16}

theorem sub_candidateBase {n j : Nat} (hn : n < 1024) (hj : j < 64) :
  (id - candidateBase next n).toNat = j ↔ (id - next).toNat = 64 * n + j := by
  have hBase : (candidateBase next n).toNat = (64 * n + next.toNat) % 65536 := UInt16.toNat_ofNat
  have hId := id.toNat_lt
  have hNext := next.toNat_lt
  rw [UInt16.toNat_sub, UInt16.toNat_sub, hBase]
  omega

theorem eq_of_distance_eq {next id other : UInt16} (h : (id - next).toNat = (other - next).toNat) :
  id = other := by
  have hId := id.toNat_lt
  have hOther := other.toNat_lt
  have hNext := next.toNat_lt
  rw [UInt16.toNat_sub, UInt16.toNat_sub] at h
  apply UInt16.toNat_inj.mp
  omega

theorem free_bit (hFree : id ∉ taken ids) {n j : Nat} (hn : n < 1024) (hj : j < 64)
  (hId : (id - next).toNat = 64 * n + j) :
  (candidateMask ids (candidateBase next n)).getLsbD j = false := by
  apply Bool.eq_false_iff.mpr
  intro hBit
  obtain ⟨other, hMem, hOther⟩ := (candidateMask_getLsbD ids _ hj).mp hBit
  have hSame : other = id := eq_of_distance_eq (((sub_candidateBase hn hj).mp hOther).trans hId.symm)
  exact hFree (hSame ▸ hMem)

theorem findUnusedSessionId_some (h : findUnusedSessionId ids next = some id) :
  id ∉ taken ids ∧
    ∀ other, other ∉ taken ids → (id - next).toNat ≤ (other - next).toNat := by
  rw [findUnusedSessionId, Option.map_eq_some_iff] at h
  obtain ⟨n, hFind, rfl⟩ := h
  obtain ⟨hOpen, hRange, hBefore⟩ := find?_range_eq_some.mp hFind
  have hn : n < 1024 := mem_range.mp hRange
  let mask := candidateMask ids (candidateBase next n)
  have hOpen : mask ≠ BitVec.allOnes 64 := of_decide_eq_true hOpen
  have hOffset : trailingOnes mask < 64 := trailingOnes_lt hOpen
  obtain ⟨hClear, hSet⟩ := trailingOnes_spec mask
  have hFromBase : (candidateBase next n + UInt16.ofNat (trailingOnes mask) -
      candidateBase next n).toNat = trailingOnes mask := by
    have hBase := (candidateBase next n).toNat_lt
    have hAdded : (UInt16.ofNat (trailingOnes mask)).toNat = trailingOnes mask % 65536 :=
      UInt16.toNat_ofNat'
    rw [UInt16.toNat_sub, UInt16.toNat_add, hAdded]
    omega
  have hDistance := (sub_candidateBase hn hOffset).mp hFromBase
  constructor
  · intro hTaken
    have hBit := (candidateMask_getLsbD ids _ hOffset).mpr ⟨_, hTaken, hFromBase⟩
    exact Bool.false_ne_true (hClear.symm.trans hBit)
  · intro other hOther
    have hRangeOther := (other - next).toNat_lt
    have hBucket : (other - next).toNat / 64 < 1024 := by omega
    have hBit : (other - next).toNat % 64 < 64 := by omega
    have hSplit : (other - next).toNat =
        64 * ((other - next).toNat / 64) + (other - next).toNat % 64 := by omega
    have hFree := free_bit hOther hBucket hBit hSplit
    have hNotBefore : ¬(other - next).toNat / 64 < n := by
      intro hLess
      have hFull : candidateMask ids (candidateBase next ((other - next).toNat / 64)) =
          BitVec.allOnes 64 := by simpa using hBefore _ hLess
      rw [hFull, BitVec.getLsbD_allOnes] at hFree
      simp [hBit] at hFree
    have hNotInBucket : (other - next).toNat / 64 = n →
        trailingOnes mask ≤ (other - next).toNat % 64 := by
      intro hSame
      by_contra hLess
      rw [hSame] at hFree
      exact Bool.false_ne_true (hFree.symm.trans (hSet _ (by omega)))
    change (candidateBase next n + UInt16.ofNat (trailingOnes mask) - next).toNat ≤ _
    omega

theorem findUnusedSessionId_none {next : UInt16} (h : findUnusedSessionId ids next = none) (id : UInt16) :
  id ∈ taken ids := by
  by_contra hFree
  rw [findUnusedSessionId, Option.map_eq_none_iff] at h
  have hRange := (id - next).toNat_lt
  have hBit : (id - next).toNat % 64 < 64 := by omega
  have hBucket : (id - next).toNat / 64 < 1024 := by omega
  have hSplit : (id - next).toNat = 64 * ((id - next).toNat / 64) + (id - next).toNat % 64 := by
    omega
  have hClear := free_bit hFree hBucket hBit hSplit
  have hNone := find?_eq_none.mp h _ (mem_range.mpr hBucket)
  have hFull : candidateMask ids (candidateBase next ((id - next).toNat / 64)) =
      BitVec.allOnes 64 := by simpa using hNone
  rw [hFull, BitVec.getLsbD_allOnes] at hClear
  simp [hBit] at hClear

namespace SessionEntries

variable {pool : SessionPool} {entries entries' entries'' : SessionEntries}

theorem localSessionIds_eq (pool : SessionPool) (entries : SessionEntries) :
  entries.localSessionIds pool =
    SlotTable.items (fun i => (entries i).map mLocalSessionId) pool.size := by
  rw [localSessionIds, sessions, SlotTable.items, map_filterMap]
  simp only [Option.map_map]
  rfl

/-- Every session is one that was there before in the same element, under the same id. -/
def Remains (entries' entries : SessionEntries) : Prop :=
  ∀ i, (entries' i).map SecureSession.mLocalSessionId = none ∨
    (entries' i).map SecureSession.mLocalSessionId = (entries i).map SecureSession.mLocalSessionId

theorem Remains.refl (entries : SessionEntries) : Remains entries entries := fun _ => Or.inr rfl

theorem Remains.trans (h' : Remains entries'' entries') (h : Remains entries' entries) :
  Remains entries'' entries := by
  intro i
  rcases h' i with hNone | hSame
  · exact Or.inl hNone
  · rw [hSame]
    exact h i

theorem Remains.sublist (h : Remains entries' entries) :
  (entries'.localSessionIds pool).Sublist (entries.localSessionIds pool) := by
  rw [localSessionIds_eq, localSessionIds_eq]
  exact SlotTable.items_sublist h

theorem change_remains (entries : SessionEntries) (changes : SessionChange) :
  Remains (entries.change changes) entries := by
  intro i
  rw [change]
  cases entries i with
  | none => exact Or.inl rfl
  | some session =>
    cases hChange : changes i session with
    | none => exact Or.inl (by simp [hChange])
    | some changed => exact Or.inr (by simp [hChange])

theorem releaseObject_remains (entries : SessionEntries) (element : Nat) :
  Remains (entries.releaseObject element) entries := by
  intro i
  by_cases hElement : i = element
  · exact Or.inl (by simp [releaseObject, hElement])
  · exact Or.inr (by simp [releaseObject, hElement])

theorem markForEviction_remains (entries : SessionEntries) (changes : SessionChange)
  (element : Nat) : Remains (entries.markForEviction changes element) entries := by
  unfold markForEviction
  cases hSession : entries element with
  | none => exact Remains.refl entries
  | some session =>
    by_cases hPending : session.isPendingEviction
    · simp only [hPending, if_true]
      exact Remains.refl entries
    · simp only [hPending, Bool.false_eq_true, if_false]
      refine Remains.trans (change_remains _ changes) fun i => Or.inr ?_
      by_cases hElement : i = element
      · simp [hElement, hSession]
      · simp [hElement]

theorem tryCandidates_remains (candidates : List SortableSession) (delegates : Nat → SessionChange)
  {room : SessionEntries} (h : (tryCandidates pool candidates delegates entries).room = some room) :
  Remains room entries := by
  induction candidates generalizing delegates entries with
  | nil => cases h
  | cons candidate rest ih =>
    rw [tryCandidates] at h
    by_cases hPending : (entries candidate.element).any isPendingEviction
    · rw [if_pos hPending] at h
      exact ih delegates h
    · rw [if_neg hPending] at h
      have hMarked := markForEviction_remains entries (delegates 0) candidate.element
      by_cases hLess : (entries.markForEviction (delegates 0) candidate.element).allocated pool <
          entries.allocated pool
      · simp only [hLess, if_true, Option.some.injEq] at h
        rw [← h]
        exact hMarked
      · simp only [hLess, if_false] at h
        exact (ih _ h).trans hMarked

theorem createObject_ids {session : SecureSession} {element : Nat}
  (h : entries.createObject pool session = some (element, entries')) :
  (entries'.localSessionIds pool).Perm (session.mLocalSessionId :: entries.localSessionIds pool) := by
  rw [createObject, Option.map_eq_some_iff] at h
  obtain ⟨i, hFind, hEntries⟩ := h
  obtain ⟨rfl, rfl⟩ := Prod.mk.inj hEntries
  obtain ⟨hFree, hRange, _⟩ := find?_range_eq_some.mp hFind
  have hUpdate : (fun j => (Function.update entries i (some session) j).map
      mLocalSessionId) =
      Function.update (fun j => (entries j).map mLocalSessionId) i
        (some session.mLocalSessionId) := by
    funext j
    by_cases hSame : j = i
    · simp [hSame]
    · simp [hSame]
  have hEmpty : (entries i).map mLocalSessionId = none := by
    simpa using hFree
  rw [localSessionIds_eq, localSessionIds_eq, hUpdate]
  exact SlotTable.items_update_perm (mem_range.mp hRange) hEmpty _

end SessionEntries

inductive SessionTableCall where
  | createNewSecureSession (secureSessionType : SecureSessionType)
      (sessionEvictionHint : ScopedNodeId) (now : UInt64) (delegates : Nat → SessionChange)
  | releaseSession (element : Nat)
  | change (changes : SessionChange)

def SessionTableCall.run (pool : SessionPool) (table : SecureSessionTable) :
  SessionTableCall → Option SecureSessionTable
  | .createNewSecureSession secureSessionType hint now delegates =>
    (table.createNewSecureSession pool secureSessionType hint now delegates).map Prod.snd
  | .releaseSession element => some { table with mEntries := table.mEntries.releaseObject element }
  | .change changes => some { table with mEntries := table.mEntries.change changes }

def runTableCalls (pool : SessionPool) (calls : List SessionTableCall) (table : SecureSessionTable) :
  Option SecureSessionTable :=
  calls.foldlM (SessionTableCall.run pool) table

/-- Live sessions have ids of their own, none of which is the id of unsecured sessions. -/
def DistinctIds (pool : SessionPool) (entries : SessionEntries) : Prop :=
  (taken (entries.localSessionIds pool)).Nodup

section

variable {pool : SessionPool} {entries entries' : SessionEntries} {table table' : SecureSessionTable}

theorem DistinctIds.of_remains (h : entries'.Remains entries) (hDistinct : DistinctIds pool entries) :
  DistinctIds pool entries' :=
  (h.sublist.cons_cons kUnsecuredSessionId).nodup hDistinct

theorem DistinctIds.createObject {session : SecureSession} {element : Nat}
  {room : SessionEntries} (hDistinct : DistinctIds pool entries) (hRoom : room.Remains entries)
  (hFree : session.mLocalSessionId ∉ taken (entries.localSessionIds pool))
  (h : room.createObject pool session = some (element, entries')) : DistinctIds pool entries' := by
  have hUnused : session.mLocalSessionId ∉ taken (room.localSessionIds pool) := fun hMem =>
    hFree ((hRoom.sublist.cons_cons kUnsecuredSessionId).subset hMem)
  have hPerm := (createObject_ids h).cons kUnsecuredSessionId
  unfold DistinctIds taken
  rw [hPerm.nodup_iff, (List.Perm.swap _ _ _).nodup_iff]
  exact nodup_cons.mpr ⟨hUnused, hDistinct.of_remains hRoom⟩

theorem createNewSecureSession_distinct {secureSessionType : SecureSessionType} {hint : ScopedNodeId}
  {now : UInt64} {delegates : Nat → SessionChange} {result : Option Nat}
  (hDistinct : DistinctIds pool table.mEntries)
  (h : table.createNewSecureSession pool secureSessionType hint now delegates =
    some (result, table')) : DistinctIds pool table'.mEntries := by
  unfold createNewSecureSession at h
  cases hFind : findUnusedSessionId (table.mEntries.localSessionIds pool) table.mNextSessionId with
  | none =>
    simp only [hFind, Option.some.injEq, Prod.mk.injEq] at h
    exact h.2 ▸ hDistinct
  | some sessionId =>
    have hFree := (findUnusedSessionId_some hFind).1
    simp only [hFind] at h
    by_cases hRoom : table.mEntries.allocated pool < pool.size
    · rw [if_pos hRoom] at h
      cases hCreate : table.mEntries.createObject pool (.new secureSessionType sessionId now) with
      | none =>
        simp only [hCreate, Option.some.injEq, Prod.mk.injEq] at h
        exact h.2 ▸ hDistinct
      | some created =>
        simp only [hCreate, Option.some.injEq, Prod.mk.injEq] at h
        rw [← h.2]
        exact hDistinct.createObject (.refl _) hFree hCreate
    · rw [if_neg hRoom, evictAndAllocate] at h
      rw [Option.map_eq_some_iff] at h
      obtain ⟨created, hCreate, hTable⟩ := h
      rw [Option.bind_eq_some_iff] at hCreate
      obtain ⟨room, hEvict, hCreate⟩ := hCreate
      rw [← (Prod.mk.inj hTable).2]
      exact hDistinct.createObject (tryCandidates_remains _ _ hEvict) hFree hCreate

theorem SessionTableCall.run_distinct (call : SessionTableCall)
  (hDistinct : DistinctIds pool table.mEntries) (h : call.run pool table = some table') :
  DistinctIds pool table'.mEntries := by
  cases call with
  | createNewSecureSession secureSessionType hint now delegates =>
    rw [run, Option.map_eq_some_iff] at h
    obtain ⟨created, hCreate, rfl⟩ := h
    exact createNewSecureSession_distinct hDistinct hCreate
  | releaseSession element =>
    cases h
    exact hDistinct.of_remains (releaseObject_remains _ element)
  | change changes =>
    cases h
    exact hDistinct.of_remains (change_remains _ changes)

theorem runTableCalls_distinct (calls : List SessionTableCall)
  (hDistinct : DistinctIds pool table.mEntries) (h : runTableCalls pool calls table = some table') :
  DistinctIds pool table'.mEntries := by
  induction calls generalizing table with
  | nil =>
    cases h
    exact hDistinct
  | cons call rest ih =>
    rw [runTableCalls, foldlM_cons] at h
    obtain ⟨next, hCall, hRest⟩ := Option.bind_eq_some_iff.mp h
    exact ih (call.run_distinct hDistinct hCall) hRest

theorem init_distinct (pool : SessionPool) (random : UInt16) :
  DistinctIds pool (init random).mEntries := by
  have hNone : (init random).mEntries.localSessionIds pool = [] := by
    rw [localSessionIds_eq]
    exact filterMap_eq_nil_iff.mpr fun _ _ => rfl
  unfold DistinctIds
  rw [hNone]
  exact nodup_singleton _

end

/-- A session gets the first id, from the hint on and around, that is not 0 and that no live
session has. There is none only when all are in use, and over the life of a table the ids of
its sessions are distinct and not 0. -/
theorem session_ids_are_unused_and_distinct (pool : SessionPool) :
    (∀ (entries : SessionEntries) (mNextSessionId : UInt16),
      let ids := entries.localSessionIds pool
      (∀ id, findUnusedSessionId ids mNextSessionId = some id →
        id ≠ 0 ∧ id ∉ ids ∧ ∀ other, other ≠ 0 → other ∉ ids →
          (id - mNextSessionId).toNat ≤ (other - mNextSessionId).toNat) ∧
      (findUnusedSessionId ids mNextSessionId = none → ∀ id, id ≠ 0 → id ∈ ids)) ∧
    ∀ random calls table,
      runTableCalls pool calls (SecureSessionTable.init random) = some table →
        (table.mEntries.localSessionIds pool).Nodup ∧ 0 ∉ table.mEntries.localSessionIds pool := by
  refine ⟨fun entries mNextSessionId => ⟨fun id hFind => ?_, fun hNone id hId => ?_⟩, ?_⟩
  · obtain ⟨hFree, hFirst⟩ := findUnusedSessionId_some hFind
    obtain ⟨hNonzero, hUnused⟩ := not_or.mp (mt List.mem_cons.mpr hFree)
    exact ⟨hNonzero, hUnused, fun other hOther hAbsent =>
      hFirst other fun hMem => (List.mem_cons.mp hMem).elim hOther hAbsent⟩
  · exact (List.mem_cons.mp (findUnusedSessionId_none hNone id)).resolve_left hId
  · intro random calls table hRun
    have hDistinct := runTableCalls_distinct calls (init_distinct pool random) hRun
    obtain ⟨hNonzero, hNodup⟩ := List.nodup_cons.mp hDistinct
    exact ⟨hNodup, hNonzero⟩

end Chip.Transport
