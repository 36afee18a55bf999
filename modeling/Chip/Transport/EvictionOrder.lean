import Mathlib.Data.Prod.Lex
import Mathlib.Order.RelClasses
import Chip.Transport.SessionIds

/-! The session that makes room in a full table. The comparison of the eviction policy is a
lexicographic one, so that the sort puts the sessions in its order and the first of them that
can be evicted is the best of those. -/
namespace Chip.Transport

open List SessionEntries

open OrderDual (toDual)
open SecureChannel (ScopedNodeId)

/-- The keys of a session, most significant first: the sessions on its fabric and whether that
is the fabric of the hint, the sessions to its peer and whether that is the peer of the hint, its
state, and when it was last active. -/
abbrev EvictionRank := ℕᵒᵈ ×ₗ Boolᵒᵈ ×ₗ ℕᵒᵈ ×ₗ Boolᵒᵈ ×ₗ ℕᵒᵈ ×ₗ ℕ

def rank (hint : ScopedNodeId) (session : SecureSession) (onFabric onPeer : Nat) : EvictionRank :=
  toLex (toDual onFabric, toLex (toDual (decide (session.getPeer.mFabricIndex = hint.mFabricIndex)),
    toLex (toDual onPeer, toLex (toDual (decide (session.getPeer = hint)),
      toLex (toDual (stateScore session), session.mLastActivityTime.toNat)))))

def SortableSession.rank (hint : ScopedNodeId) (a : SortableSession) : EvictionRank :=
  Transport.rank hint a.mSession a.mNumMatchingOnFabric.toNat a.mNumMatchingOnPeer.toNat

theorem compare_key {κ : Type*} [DecidableEq κ] [LT κ] [DecidableLT κ] (hIrrefl : ∀ x : κ, ¬x < x)
  (x y : κ) (rest : Bool) :
  (if x ≠ y then decide (x > y) else rest) = true ↔ y < x ∨ x = y ∧ rest = true := by
  by_cases hSame : x = y
  · subst hSame
    simp [hIrrefl]
  · simp [hSame]

theorem evictsBefore_iff (hint : ScopedNodeId) (a b : SortableSession) :
  evictsBefore hint a b ↔ a.rank hint < b.rank hint := by
  simp only [evictsBefore]
  rw [compare_key UInt16.lt_irrefl, compare_key (κ := Bool) lt_irrefl,
    compare_key UInt16.lt_irrefl, compare_key (κ := Bool) lt_irrefl, compare_key Nat.lt_irrefl]
  simp only [SortableSession.rank, rank, Prod.Lex.toLex_lt_toLex, OrderDual.toDual_lt_toDual,
    OrderDual.toDual_inj, UInt16.lt_iff_toNat_lt, UInt64.lt_iff_toNat_lt, UInt16.toNat_inj,
    decide_eq_true_eq]

instance (hint : ScopedNodeId) :
    IsStrictWeakOrder SortableSession fun a b => evictsBefore hint a b = true := by
  have hRank : (fun a b => evictsBefore hint a b = true) =
      Order.Preimage (SortableSession.rank hint) (· < ·) := by
    funext a b
    exact propext (evictsBefore_iff hint a b)
  have hLinear : IsStrictWeakOrder EvictionRank (· < ·) := isStrictWeakOrder_of_isOrderConnected
  rw [hRank]
  infer_instance

namespace SessionEntries

variable (pool : SessionPool) (entries : SessionEntries)

def fabricSessions (fabricIndex : UInt8) : Nat :=
  (entries.sessions pool).countP fun other => other.2.mFabricIndex = fabricIndex

def peerSessions (peer : ScopedNodeId) : Nat :=
  (entries.sessions pool).countP fun other => other.2.getPeer = peer

def evictionRank (hint : ScopedNodeId) (session : SecureSession) : EvictionRank :=
  rank hint session (entries.fabricSessions pool session.mFabricIndex)
    (entries.peerSessions pool session.getPeer)

end SessionEntries

theorem countP_others {α β : Type*} [DecidableEq α] {items : List (α × β)} {a : α} {b : β}
  {p : α × β → Bool} (hNodup : (items.map Prod.fst).Nodup) (hMem : (a, b) ∈ items) (hp : p (a, b)) :
  items.countP p = (items.countP fun other => !decide (a = other.1) && p other) + 1 := by
  induction items with
  | nil => cases hMem
  | cons item rest ih =>
    obtain ⟨hNew, hNodup⟩ := nodup_cons.mp hNodup
    rcases mem_cons.mp hMem with rfl | hMem
    · have hRest : (rest.countP fun other => !decide (a = other.1) && p other) = rest.countP p := by
        apply countP_congr
        intro other hOther
        have hDifferent : a ≠ other.1 := fun hSame =>
          hNew (mem_map.mpr ⟨other, hOther, hSame.symm⟩)
        simp [hDifferent]
      rw [countP_cons_of_pos hp, countP_cons_of_neg (by simp), hRest]
    · have hDifferent : a ≠ item.1 := fun hSame =>
        hNew (mem_map.mpr ⟨(a, b), hMem, hSame⟩)
      have hRest := ih hNodup hMem
      by_cases hItem : p item
      · rw [countP_cons_of_pos hItem, countP_cons_of_pos (by simp [hDifferent, hItem]),
          hRest]
      · rw [countP_cons_of_neg hItem, countP_cons_of_neg (by simp [hItem]), hRest]

theorem countMatching_eq (element : Nat) (session : SecureSession)
  (others : List (Nat × SecureSession)) :
  countMatching element session others =
    (UInt16.ofNat (others.countP fun other =>
      !decide (element = other.1) && decide (other.2.mFabricIndex = session.mFabricIndex)),
     UInt16.ofNat (others.countP fun other =>
      !decide (element = other.1) && decide (other.2.getPeer = session.getPeer))) := by
  unfold countMatching
  induction others using reverseRecOn with
  | nil => rfl
  | append_singleton others other ih =>
    obtain ⟨otherElement, other⟩ := other
    rw [foldl_append, ih]
    simp only [foldl_cons, foldl_nil, countP_append, countP_singleton,
      SecureSession.getPeer, ScopedNodeId.mk.injEq]
    by_cases hElement : element = otherElement
    · simp [hElement]
    · by_cases hFabric : session.mFabricIndex = other.mFabricIndex
      · by_cases hNode : session.mPeerNodeId = other.mPeerNodeId
        · simp [hElement, hFabric, hNode, UInt16.ofNat_add]
        · simp [hElement, hFabric, hNode, Ne.symm hNode, UInt16.ofNat_add]
      · simp [hElement, hFabric, Ne.symm hFabric]

namespace SessionEntries

variable {pool : SessionPool} {entries : SessionEntries} {element : Nat} {session : SecureSession}

theorem mem_sessions :
  (element, session) ∈ entries.sessions pool ↔
    element < pool.size ∧ entries element = some session := by
  simp [sessions, SlotTable.mem_items]

theorem sessions_nodup : ((entries.sessions pool).map Prod.fst).Nodup := by
  unfold sessions SlotTable.items
  rw [map_filterMap]
  apply List.Nodup.filterMap _ nodup_range
  intro i j k hi hj
  have hElement : ∀ {i}, k ∈ ((entries i).map (i, ·)).map Prod.fst → i = k := by
    intro i h
    cases hEntry : entries i with
    | none => simp [hEntry] at h
    | some session => simpa [hEntry] using h
  exact (hElement hi).trans (hElement hj).symm

theorem length_sessions_le (pool : SessionPool) (entries : SessionEntries) :
  (entries.sessions pool).length ≤ pool.size :=
  SlotTable.length_items_le

end SessionEntries

variable {pool : SessionPool} {entries : SessionEntries}

theorem countMatching_toNat {element : Nat} {session : SecureSession}
    (hMem : (element, session) ∈ entries.sessions pool) :
    let counts := countMatching element session (entries.sessions pool)
    counts.1.toNat + 1 = entries.fabricSessions pool session.mFabricIndex ∧
      counts.2.toNat + 1 = entries.peerSessions pool session.getPeer := by
  have hFabric := countP_others (p := fun other => decide (other.2.mFabricIndex = session.mFabricIndex))
    sessions_nodup hMem (by simp)
  have hPeer := countP_others (p := fun other => decide (other.2.getPeer = session.getPeer))
    sessions_nodup hMem (by simp)
  have hSize := length_sessions_le pool entries
  have hPool := pool.size_le
  have hFabricLe := countP_le_length (l := entries.sessions pool)
    (p := fun other => decide (other.2.mFabricIndex = session.mFabricIndex))
  have hPeerLe := countP_le_length (l := entries.sessions pool)
    (p := fun other => decide (other.2.getPeer = session.getPeer))
  simp only [countMatching_eq, fabricSessions, peerSessions,
    UInt16.toNat_ofNat']
  omega

theorem rank_le_iff {hint : ScopedNodeId} {a b : SortableSession} (ha : a ∈ sortableSessions pool entries)
  (hb : b ∈ sortableSessions pool entries) :
  a.rank hint ≤ b.rank hint ↔
    entries.evictionRank pool hint a.mSession ≤ entries.evictionRank pool hint b.mSession := by
  obtain ⟨⟨elementA, sessionA⟩, hMemA, rfl⟩ := List.mem_map.mp ha
  obtain ⟨⟨elementB, sessionB⟩, hMemB, rfl⟩ := List.mem_map.mp hb
  obtain ⟨hFabricA, hPeerA⟩ := countMatching_toNat hMemA
  obtain ⟨hFabricB, hPeerB⟩ := countMatching_toNat hMemB
  simp only [SortableSession.rank, SessionEntries.evictionRank, rank, Prod.Lex.toLex_le_toLex,
    OrderDual.toDual_lt_toDual, OrderDual.toDual_inj, ← hFabricA,
    ← hPeerA, ← hFabricB, ← hPeerB, Nat.add_lt_add_iff_right, Nat.add_right_cancel_iff]

namespace SessionEntries

variable {pool : SessionPool} {entries entries' : SessionEntries} {element : Nat}

theorem allocated_lt {session : SecureSession} (hRemains : entries'.Remains entries)
  (hElement : element < pool.size) (hBefore : entries element = some session)
  (hAfter : entries' element = none) : entries'.allocated pool < entries.allocated pool := by
  have hIds : ∀ entries : SessionEntries,
      entries.allocated pool = (entries.localSessionIds pool).length := fun entries =>
    (length_map _).symm
  rw [hIds, hIds, localSessionIds_eq, localSessionIds_eq]
  exact SlotTable.length_items_lt hRemains hElement (by rw [hBefore]; rfl) (by rw [hAfter]; rfl)

end SessionEntries

theorem tryCandidates_sublist (pool : SessionPool) (candidates : List SortableSession)
  (delegates : Nat → SessionChange) (entries : SessionEntries) :
  (tryCandidates pool candidates delegates entries).tried.Sublist
    (candidates.map SortableSession.element) := by
  induction candidates generalizing delegates entries with
  | nil => exact List.Sublist.refl _
  | cons candidate rest ih =>
    rw [tryCandidates]
    by_cases hPending : (entries candidate.element).any SecureSession.isPendingEviction
    · rw [if_pos hPending]
      exact (ih delegates entries).cons _
    · rw [if_neg hPending]
      by_cases hLess : (entries.markForEviction (delegates 0) candidate.element).allocated pool <
          entries.allocated pool
      · simp only [hLess, if_true]
        exact (nil_sublist _).cons_cons _
      · simp only [hLess, if_false]
        exact (ih _ _).cons_cons _

theorem tryCandidates_first {candidates : List SortableSession} {delegates : Nat → SessionChange}
  {first : SortableSession} (hIn : ∀ candidate ∈ candidates, candidate.element < pool.size ∧
    entries candidate.element = some candidate.mSession)
  (hFirst : candidates.find? (fun candidate => !candidate.mSession.isPendingEviction) = some first)
  (hReleased : entries.markForEviction (delegates 0) first.element first.element = none) :
  tryCandidates pool candidates delegates entries =
    ⟨[first.element], some (entries.markForEviction (delegates 0) first.element)⟩ := by
  induction candidates with
  | nil => cases hFirst
  | cons candidate rest ih =>
    obtain ⟨⟨hElement, hEntry⟩, hRest⟩ := forall_mem_cons.mp hIn
    rw [tryCandidates, hEntry, Option.any_some]
    cases hPending : candidate.mSession.isPendingEviction with
    | true =>
      rw [find?_cons_of_neg (by simp [hPending])] at hFirst
      exact ih hRest hFirst
    | false =>
      rw [find?_cons_of_pos (by simp [hPending]), Option.some.injEq] at hFirst
      subst hFirst
      have hFewer := allocated_lt
        (markForEviction_remains entries (delegates 0) candidate.element)
        hElement hEntry hReleased
      simp [hFewer]

theorem mem_sortableSessions {candidate : SortableSession} (h : candidate ∈ sortableSessions pool entries) :
  candidate.element < pool.size ∧ entries candidate.element = some candidate.mSession := by
  obtain ⟨⟨element, session⟩, hMem, rfl⟩ := mem_map.mp h
  exact mem_sessions.mp hMem

theorem exists_sortable {element : Nat} {session : SecureSession}
  (h : (element, session) ∈ entries.sessions pool) :
  ∃ candidate ∈ sortableSessions pool entries, candidate.mSession = session :=
  ⟨_, mem_map.mpr ⟨_, h, rfl⟩, rfl⟩

theorem first_ordered {α : Type*} {f : α → α → Bool} [IsStrictWeakOrder α fun a b => f a b = true]
  {items : List α} {p : α → Bool} {first : α} (hOrdered : Sorting.Ordered f items)
  (hFirst : items.find? p = some first) {a : α} (hMem : a ∈ items) (ha : p a) :
  ¬f a first := by
  induction items with
  | nil => cases hMem
  | cons item rest ih =>
    obtain ⟨hItem, hRest⟩ := pairwise_cons.mp hOrdered
    cases hp : p item with
    | true =>
      rw [find?_cons_of_pos hp, Option.some.injEq] at hFirst
      subst hFirst
      rcases mem_cons.mp hMem with rfl | hMem
      · exact fun hSelf => Sorting.not_before_of_before hSelf hSelf
      · exact hItem a hMem
    | false =>
      rw [find?_cons_of_neg (by simp [hp])] at hFirst
      rcases mem_cons.mp hMem with rfl | hMem
      · rw [hp] at ha
        cases ha
      · exact ih hRest hFirst hMem

theorem createObject_isSome {element : Nat} (hElement : element < pool.size)
  (hFree : entries element = none) (session : SecureSession) :
  (entries.createObject pool session).isSome := by
  rw [createObject, Option.isSome_map, find?_isSome]
  exact ⟨element, mem_range.mpr hElement, by simp [hFree]⟩

/-- The comparison is a strict weak order, and candidates are tried in its order. When the first
that is not to be evicted already is released, it makes room, and it ranks no lower than any
session that is not to be evicted already. -/
theorem evicts_best_candidate (pool : SessionPool) (entries : SessionEntries) (hint : ScopedNodeId) :
    let order := defaultEvictionPolicy hint (sortableSessions pool entries)
    IsStrictWeakOrder SortableSession (fun a b => evictsBefore hint a b = true) ∧
      order.Perm (sortableSessions pool entries) ∧ Sorting.Ordered (evictsBefore hint) order ∧
      ∀ delegates,
        (evict pool hint delegates entries).tried.Sublist (order.map SortableSession.element) ∧
        ∀ first, order.find? (fun candidate => !candidate.mSession.isPendingEviction) = some first →
          entries.markForEviction (delegates 0) first.element first.element = none →
          (evict pool hint delegates entries).tried = [first.element] ∧
            entries first.element = some first.mSession ∧
            (∀ session, (evictAndAllocate pool session hint delegates entries).isSome) ∧
            ∀ element session, (element, session) ∈ entries.sessions pool →
              ¬session.isPendingEviction →
              entries.fabricSessions pool session.mFabricIndex ≤
                  entries.fabricSessions pool first.mSession.mFabricIndex ∧
                entries.evictionRank pool hint first.mSession ≤
                  entries.evictionRank pool hint session := by
  intro order
  have hPerm : order.Perm (sortableSessions pool entries) := Sorting.bubbleSort_perm _
  have hOrdered : Sorting.Ordered (evictsBefore hint) order := Sorting.bubbleSort_ordered _
  refine ⟨inferInstance, hPerm, hOrdered, fun delegates => ⟨tryCandidates_sublist .., ?_⟩⟩
  intro first hFirst hReleased
  have hIn : ∀ candidate ∈ order, candidate.element < pool.size ∧
      entries candidate.element = some candidate.mSession := fun candidate hMem =>
    mem_sortableSessions (hPerm.mem_iff.mp hMem)
  have hMemFirst := List.mem_of_find?_eq_some hFirst
  have hEvict : evict pool hint delegates entries =
      ⟨[first.element], some (entries.markForEviction (delegates 0) first.element)⟩ :=
    tryCandidates_first hIn hFirst hReleased
  refine ⟨by rw [hEvict], (hIn first hMemFirst).2, fun session => ?_, ?_⟩
  · rw [evictAndAllocate, hEvict]
    exact createObject_isSome (hIn first hMemFirst).1 hReleased session
  · intro element session hMem hPending
    obtain ⟨other, hOther, rfl⟩ := exists_sortable hMem
    have hNotBefore := first_ordered hOrdered hFirst (hPerm.mem_iff.mpr hOther) (by simpa using hPending)
    have hRank : entries.evictionRank pool hint first.mSession ≤
        entries.evictionRank pool hint other.mSession := by
      rw [evictsBefore_iff, not_lt] at hNotBefore
      exact (rank_le_iff (hPerm.mem_iff.mp hMemFirst) hOther).mp hNotBefore
    exact ⟨OrderDual.toDual_le_toDual.mp (Prod.Lex.monotone_fst _ _ hRank), hRank⟩

/-- A fabric whose sessions are all to be evicted already can have more of them than the fabric
that loses one. -/
theorem larger_fabric_is_passed_over :
    ¬∀ (pool : SessionPool) (entries : SessionEntries) (hint : ScopedNodeId)
        (delegates : Nat → SessionChange) (first : SortableSession),
      (defaultEvictionPolicy hint (sortableSessions pool entries)).find?
          (fun candidate => !candidate.mSession.isPendingEviction) = some first →
        entries.markForEviction (delegates 0) first.element first.element = none →
        ∀ candidate ∈ sortableSessions pool entries,
          entries.fabricSessions pool candidate.mSession.mFabricIndex ≤
            entries.fabricSessions pool first.mSession.mFabricIndex := by
  intro hClaim
  let pool : SessionPool := ⟨3, by decide, by decide⟩
  let leaving : SecureSession := ⟨.pendingEviction, .case, 1, 10, 1, 0⟩
  let active : SecureSession := ⟨.active, .case, 3, 30, 2, 0⟩
  let entries : SessionEntries := fun element =>
    if element = 0 then some leaving else if element = 1 then some { leaving with mLocalSessionId := 2 }
    else if element = 2 then some active else none
  let delegates : Nat → SessionChange := fun _ element session =>
    if element = 2 then none else some session
  have hMore := hClaim pool entries ⟨0, 0⟩ delegates ⟨2, active, 0, 0⟩ (by decide +kernel)
    (by decide +kernel) ⟨0, leaving, 1, 1⟩ (by decide +kernel)
  exact absurd hMore (by decide +kernel)

end Chip.Transport
