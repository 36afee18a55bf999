import Chip.SecureChannel.ResumptionRefinement

/-! What session resumption is for: a queue of nodes with the state that was last saved for each.
Every call does to the stored keys what it does to the queue. -/
namespace Chip.SecureChannel

open ResumptionWrite List Proc Journal

def ResumptionCall.queue (cacheSize : Nat) : ResumptionCall → List ScopedNodeId → List ScopedNodeId
  | .save node _, nodes =>
    if node ∈ nodes then nodes
    else (if nodes.length = cacheSize then nodes.tail else nodes) ++ [node]
  | .delete node, nodes => nodes.filter (· ≠ node)
  | .deleteAll fabricIndex, nodes => nodes.filter (·.mFabricIndex ≠ fabricIndex)

def ResumptionCall.saveLast :
  ResumptionCall → (ScopedNodeId → Option SessionState) → ScopedNodeId → Option SessionState
  | .save node state, last => Function.update last node (some state)
  | .delete _, last => last
  | .deleteAll _, last => last

def ResumptionCall.savedId : ResumptionCall → Option ResumptionId
  | .save _ state => some state.resumptionId
  | .delete _ => none
  | .deleteAll _ => none

variable {cacheSize : Nat} {keys : ResumptionKeys} {nodes : List ScopedNodeId}
  {last : ScopedNodeId → Option SessionState} {node : ScopedNodeId} {state : SessionState}
  {j : Journal ResumptionKeys ResumptionWrite}

def Linked (keys : ResumptionKeys) : Prop :=
  ∀ resumptionId node, keys.link resumptionId = some node ↔
    ∃ state, keys.state node = some state ∧ state.resumptionId = resumptionId

def putRecord (node : ScopedNodeId) (state : SessionState) (keys : ResumptionKeys) :
  ResumptionKeys :=
  ResumptionWrite.apply (.saveLink state.resumptionId node)
    (ResumptionWrite.apply (.saveState node state) keys)

theorem Linked.removeWrites (h : Linked keys) (node : ScopedNodeId) :
  Linked (replay apply (removeWrites keys node) keys) := by
  intro resumptionId other
  rw [replay_removeWrites_state, SecureChannel.removeWrites]
  cases hState : keys.state node with
  | none =>
    have hSame : Function.update keys.state node none = keys.state := by
      rw [← hState, Function.update_eq_self]
    rw [hSame]
    exact h resumptionId other
  | some state =>
    have hOwn : keys.link state.resumptionId = some node := (h _ _).mpr ⟨state, hState, rfl⟩
    simp only [replay_cons, replay_nil, apply, Function.update_apply]
    by_cases hId : resumptionId = state.resumptionId
    · subst hId
      simp only [if_true, reduceCtorEq, false_iff]
      rintro ⟨found, hFound, hSameId⟩
      split at hFound
      · cases hFound
      · rename_i hOther
        have hLink := (h _ _).mpr ⟨found, hFound, hSameId⟩
        rw [hOwn] at hLink
        exact hOther (Option.some.inj hLink).symm
    · rw [if_neg hId, h resumptionId other]
      by_cases hOther : other = node
      · subst hOther
        simp only [hState, if_true, Option.some.injEq, exists_eq_left', reduceCtorEq, false_and,
          exists_false, iff_false]
        exact fun hSame => hId hSame.symm
      · rw [if_neg hOther]

theorem Linked.put (h : Linked keys) (hNone : keys.state node = none)
  (hFresh : keys.link state.resumptionId = none) : Linked (putRecord node state keys) := by
  intro resumptionId other
  simp only [putRecord, apply, Function.update_apply]
  by_cases hId : resumptionId = state.resumptionId
  · subst hId
    rw [if_pos rfl]
    by_cases hOther : other = node
    · subst hOther
      simp
    · rw [if_neg hOther]
      apply iff_of_false
      · exact fun hSame => hOther (Option.some.inj hSame).symm
      · intro hFound
        have hLink := (h _ _).mpr hFound
        rw [hFresh] at hLink
        cases hLink
  · rw [if_neg hId, h resumptionId other]
    by_cases hOther : other = node
    · subst hOther
      rw [hNone, if_pos rfl]
      apply iff_of_false
      · rintro ⟨_, hFound, -⟩
        cases hFound
      · rintro ⟨_, hFound, hSame⟩
        cases hFound
        exact hId hSame.symm
    · rw [if_neg hOther]

theorem Linked.deleteAllWrites (h : Linked keys) (fabricIndex : UInt8) (nodes : List ScopedNodeId) :
  Linked (replay apply (deleteAllWrites fabricIndex keys nodes) keys) := by
  induction nodes generalizing keys with
  | nil => exact h
  | cons node rest ih =>
    unfold SecureChannel.deleteAllWrites
    by_cases hOther : node.mFabricIndex ≠ fabricIndex
    · rw [if_pos hOther]
      exact ih h
    · rw [if_neg hOther, replay_append]
      exact ih (h.removeWrites node)

/-- The keys hold the nodes of a queue with what was last saved for them. -/
structure IsQueue (cacheSize : Nat) (keys : ResumptionKeys) (nodes : List ScopedNodeId)
    (last : ScopedNodeId → Option SessionState) : Prop where
  index : keys.nodes = nodes
  nodup : nodes.Nodup
  size : nodes.length ≤ cacheSize
  state : ∀ node, keys.state node = if node ∈ nodes then last node else none
  saved : ∀ node ∈ nodes, (last node).isSome
  linked : Linked keys

theorem IsQueue.empty : IsQueue cacheSize .empty [] fun _ => none where
  index := rfl
  nodup := nodup_nil
  size := Nat.zero_le _
  state := fun _ => rfl
  saved := by simp
  linked := by
    intro resumptionId node
    simp [ResumptionKeys.empty]

namespace IsQueue

section

variable (h : IsQueue cacheSize keys nodes last)
include h

theorem mem (hState : keys.state node = some state) : node ∈ nodes ∧ last node = some state := by
  rw [h.state] at hState
  split at hState
  · rename_i hMem
    exact ⟨hMem, hState⟩
  · cases hState

theorem indexed : Indexed cacheSize keys where
  size := by
    rw [h.index]
    exact h.size
  mem := by
    intro node state hState
    rw [h.index]
    exact (h.mem hState).1
  link := fun hState => (h.linked _ _).mpr ⟨_, hState, rfl⟩

theorem isSome_state (hMem : node ∈ nodes) : (keys.state node).isSome := by
  rw [h.state, if_pos hMem]
  exact h.saved node hMem

theorem remove (node : ScopedNodeId) :
  IsQueue cacheSize (replay apply (deleteWrites keys node) keys)
    (nodes.filter (· ≠ node)) last := by
  have hNodes : (replay apply (deleteWrites keys node) keys).nodes =
      nodes.filter (· ≠ node) := by
    by_cases hMem : node ∈ keys.nodes
    · rw [replay_deleteWrites_nodes hMem, h.index, h.nodup.erase_eq_filter]
      congr 1
      funext other
      simp [bne, Bool.beq_eq_decide_eq]
    · rw [h.index] at hMem
      have hSame : nodes.filter (· ≠ node) = nodes := by
        rw [filter_eq_self]
        intro other hOther
        exact decide_eq_true fun hEq => hMem (hEq ▸ hOther)
      rw [hSame, deleteWrites, h.index, if_neg hMem, append_nil, replay_removeWrites_nodes,
        h.index]
  have hRest : (replay apply (deleteWrites keys node) keys).state =
      Function.update keys.state node none := by
    rw [deleteWrites, replay_append]
    split <;> exact replay_removeWrites_state keys node
  refine ⟨hNodes, h.nodup.filter _, (length_filter_le _ _).trans h.size, ?_, ?_, ?_⟩
  · intro other
    rw [hRest, Function.update_apply, h.state]
    by_cases hOther : other = node
    · simp [hOther]
    · simp [hOther]
  · exact fun other hMem => h.saved other (mem_of_mem_filter hMem)
  · intro resumptionId other
    rw [replay_deleteWrites_link, hRest, ← replay_removeWrites_state]
    exact h.linked.removeWrites node resumptionId other

theorem put (hMem : node ∈ nodes) (hFresh : keys.link state.resumptionId = none) :
  IsQueue cacheSize
    (putRecord node state (replay apply (removeWrites keys node) keys)) nodes
    (Function.update last node (some state)) := by
  have hGone := h.linked.removeWrites node
  have hNone : (replay apply (removeWrites keys node) keys).state node = none := by
    rw [replay_removeWrites_state, Function.update_self]
  have hUnlinked : (replay apply (removeWrites keys node) keys).link
      state.resumptionId = none := by
    have hFree : LinkFree keys node state := .inl hFresh
    rcases (hFree.removeWrites : LinkFree (replay apply (removeWrites keys node) keys)
      node state) with hUnused | hOwn
    · exact hUnused
    · obtain ⟨old, hOld, -⟩ := (hGone _ _).mp hOwn
      rw [hNone] at hOld
      cases hOld
  have hIndex := (replay_removeWrites_nodes keys node).trans h.index
  refine ⟨hIndex, h.nodup, h.size, ?_, ?_, hGone.put hNone hUnlinked⟩
  · intro other
    simp only [putRecord, apply, replay_removeWrites_state, Function.update_idem,
      Function.update_apply, h.state]
    by_cases hOther : other = node
    · subst hOther
      rw [if_pos rfl, if_pos hMem, if_pos rfl]
    · rw [if_neg hOther, if_neg hOther]
  · intro other hOther
    rw [Function.update_apply]
    split
    · rfl
    · exact h.saved other hOther

theorem join (hNew : node ∉ nodes) (hRoom : nodes.length < cacheSize)
  (hFresh : keys.link state.resumptionId = none) :
  IsQueue cacheSize
    (apply (.saveIndex (keys.nodes ++ [node])) (putRecord node state keys))
    (nodes ++ [node]) (Function.update last node (some state)) := by
  have hNone : keys.state node = none := by rw [h.state, if_neg hNew]
  refine ⟨?_, ?_, ?_, ?_, ?_, h.linked.put hNone hFresh⟩
  · rw [h.index]
    rfl
  · rw [nodup_append]
    refine ⟨h.nodup, by simp, ?_⟩
    intro a ha b hb
    rw [mem_singleton.mp hb]
    exact fun hSame => hNew (hSame ▸ ha)
  · rw [length_append]
    exact hRoom
  · intro other
    have hState : (apply (.saveIndex (keys.nodes ++ [node]))
        (putRecord node state keys)).state = Function.update keys.state node (some state) := rfl
    rw [hState, Function.update_apply, Function.update_apply]
    by_cases hOther : other = node
    · rw [if_pos hOther, if_pos (by simp [hOther]), if_pos hOther]
    · have hMem : other ∈ nodes ++ [node] ↔ other ∈ nodes := by simp [hOther]
      rw [if_neg hOther, if_neg hOther, h.state]
      simp only [hMem]
  · intro other hOther
    rw [Function.update_apply]
    split
    · rfl
    · rename_i hNe
      exact h.saved other (by simpa [hNe] using hOther)

end

end IsQueue

theorem delete_isQueue (h : IsQueue cacheSize j.contents nodes last) (node : ScopedNodeId) :
  IsQueue cacheSize (delete cacheSize node j).2.contents (nodes.filter (· ≠ node)) last := by
  obtain ⟨j', hDelete, hLogs⟩ := delete_logs h.indexed node
  rw [hDelete, hLogs.contents]
  exact h.remove node

theorem save_isQueue (hPos : 0 < cacheSize) (h : IsQueue cacheSize j.contents nodes last)
  (node : ScopedNodeId) (hFresh : j.contents.link state.resumptionId = none) :
  IsQueue cacheSize (save cacheSize node state j).2.contents
    (if node ∈ nodes then nodes
      else (if nodes.length = cacheSize then nodes.tail else nodes) ++ [node])
    (Function.update last node (some state)) := by
  unfold save
  rw [bind_ok (loadIndex_eq h.indexed), h.index]
  by_cases hMem : node ∈ nodes
  · have hPut := h.put hMem hFresh
    rw [if_pos hMem, if_pos hMem, attempt_bind]
    obtain ⟨old, hOld⟩ := Option.isSome_iff_exists.mp (h.isSome_state hMem)
    rw [loadState_some hOld]
    simp only [attempt_bind, deleteLink_some (h.indexed.link hOld)]
    simp only [putRecord, removeWrites, hOld, replay_cons, replay_nil, apply,
      Function.update_idem] at hPut
    exact hPut
  · rw [if_neg hMem, if_neg hMem]
    cases nodes with
    | nil =>
      have hNotFull : ([] : List ScopedNodeId).length ≠ cacheSize := hPos.ne
      have hJoin := h.join hMem hPos hFresh
      rw [h.index] at hJoin
      rw [if_neg hNotFull]
      exact hJoin
    | cons first rest =>
      by_cases hFull : (first :: rest).length = cacheSize
      · obtain ⟨j₁, hDelete, hLogs⟩ := delete_logs h.indexed first
        have hLeft := h.remove first
        rw [← hLogs.contents] at hLeft
        have hRest : (first :: rest).filter (· ≠ first) = rest := by
          have hOther := (nodup_cons.mp h.nodup).1
          rw [filter_cons_of_neg (by simp), filter_eq_self]
          exact fun other hMem => decide_eq_true fun hSame => hOther (hSame ▸ hMem)
        rw [hRest] at hLeft
        have hUnlinked : j₁.contents.link state.resumptionId = none := by
          have hFree : LinkFree j.contents first state := .inl hFresh
          rw [hLogs.contents, replay_deleteWrites_link]
          rcases (hFree.removeWrites : LinkFree (replay apply
            (removeWrites j.contents first) j.contents) first state) with hUnused | hOwn
          · exact hUnused
          · obtain ⟨old, hOld, -⟩ := (h.linked.removeWrites first _ _).mp hOwn
            rw [replay_removeWrites_state, Function.update_self] at hOld
            cases hOld
        have hJoin := hLeft.join (fun hOld => hMem (mem_cons_of_mem first hOld))
          (by rw [← hFull]; exact Nat.lt_succ_self _) hUnlinked
        rw [if_pos hFull]
        simp only [if_pos hFull]
        rw [bind_ok hDelete, bind_ok (loadIndex_eq hLeft.indexed)]
        exact hJoin
      · have hSize := h.size
        have hJoin := h.join hMem (by omega) hFresh
        rw [h.index] at hJoin
        rw [if_neg hFull]
        simp only [if_neg hFull]
        exact hJoin

theorem deleteAllLoop_removes (h : Indexed cacheSize j.contents) (fabricIndex : UInt8)
  (nodes : List ScopedNodeId) (hNodup : nodes.Nodup)
  (hState : ∀ node ∈ nodes, (j.contents.state node).isSome) :
  ∃ j', deleteAllLoop fabricIndex nodes j =
      (.ok (nodes.filter (·.mFabricIndex ≠ fabricIndex),
        nodes.countP (·.mFabricIndex = fabricIndex), none), j') ∧
    Logs apply j (deleteAllWrites fabricIndex j.contents nodes) j' := by
  induction nodes generalizing j with
  | nil => exact ⟨j, rfl, .none j⟩
  | cons node rest ih =>
    obtain ⟨hNew, hNodup⟩ := nodup_cons.mp hNodup
    have hRest : ∀ other ∈ rest, (j.contents.state other).isSome :=
      fun other hMem => hState other (mem_cons_of_mem node hMem)
    unfold deleteAllLoop deleteAllWrites
    by_cases hOther : node.mFabricIndex ≠ fabricIndex
    · obtain ⟨j', hLoop, hLogs⟩ := ih h hNodup hRest
      rw [if_pos hOther, if_pos hOther, bind_ok hLoop]
      refine ⟨j', ?_, hLogs⟩
      have hKept : (node :: rest).filter (·.mFabricIndex ≠ fabricIndex) =
          node :: rest.filter (·.mFabricIndex ≠ fabricIndex) := by simp [hOther]
      have hFound : (node :: rest).countP (·.mFabricIndex = fabricIndex) =
          rest.countP (·.mFabricIndex = fabricIndex) := by simp [hOther]
      rw [hKept, hFound]
      rfl
    · obtain ⟨j₁, hRemove, hFirst⟩ := removeRecord_logs h node
      rw [if_pos (hState node mem_cons_self)] at hRemove
      have hGone : Indexed cacheSize j₁.contents := by
        rw [hFirst.contents]
        exact (removeWrites_survives j.contents h node).2
      have hRest₁ : ∀ other ∈ rest, (j₁.contents.state other).isSome := by
        intro other hMem
        have hNe : other ≠ node := fun hSame => hNew (hSame ▸ hMem)
        rw [hFirst.contents, replay_removeWrites_state, Function.update_of_ne hNe]
        exact hRest other hMem
      obtain ⟨j', hLoop, hLogs⟩ := ih hGone hNodup hRest₁
      rw [if_neg hOther, if_neg hOther, attempt_bind, hRemove, bind_ok hLoop]
      refine ⟨j', ?_, ?_⟩
      · have hFabric : node.mFabricIndex = fabricIndex := not_ne_iff.mp hOther
        have hKept : (node :: rest).filter (·.mFabricIndex ≠ fabricIndex) =
            rest.filter (·.mFabricIndex ≠ fabricIndex) := by simp [hFabric]
        have hFound : (node :: rest).countP (·.mFabricIndex = fabricIndex) =
            rest.countP (·.mFabricIndex = fabricIndex) + 1 := by simp [hFabric]
        rw [hKept, hFound]
        rfl
      · rw [← hFirst.contents]
        exact hFirst.trans hLogs

theorem deleteAll_isQueue (h : IsQueue cacheSize j.contents nodes last) (fabricIndex : UInt8) :
  IsQueue cacheSize (deleteAll cacheSize fabricIndex j).2.contents
    (nodes.filter (·.mFabricIndex ≠ fabricIndex)) last := by
  obtain ⟨j', hLoop, hLogs⟩ := deleteAllLoop_removes h.indexed fabricIndex nodes h.nodup
    fun node hMem => h.isSome_state hMem
  have hState : ∀ node, j'.contents.state node =
      if node ∈ nodes.filter (·.mFabricIndex ≠ fabricIndex) then last node else none := by
    intro node
    rw [hLogs.contents, deleteAllWrites_state, h.state]
    by_cases hMem : node ∈ nodes
    · by_cases hFabric : node.mFabricIndex = fabricIndex <;> simp [hMem, hFabric]
    · simp [hMem]
  have hLinked : Linked j'.contents := by
    rw [hLogs.contents]
    exact h.linked.deleteAllWrites fabricIndex nodes
  have hIndex : j'.contents.nodes = nodes := by
    rw [hLogs.contents, deleteAllWrites_nodes, h.index]
  have hRest : ∀ keys : ResumptionKeys,
      keys.nodes = nodes.filter (·.mFabricIndex ≠ fabricIndex) → keys.state = j'.contents.state →
      keys.link = j'.contents.link →
      IsQueue cacheSize keys (nodes.filter (·.mFabricIndex ≠ fabricIndex)) last := by
    intro keys hKeys hStates hLinks
    refine ⟨hKeys, h.nodup.filter _, (length_filter_le _ _).trans h.size, ?_, ?_, ?_⟩
    · rw [hStates]
      exact hState
    · exact fun node hMem => h.saved node (mem_of_mem_filter hMem)
    · intro resumptionId node
      rw [hStates, hLinks]
      exact hLinked resumptionId node
  unfold deleteAll
  rw [bind_ok (loadIndex_eq h.indexed), h.index, bind_ok hLoop]
  by_cases hFound : nodes.countP (·.mFabricIndex = fabricIndex) > 0
  · simp only [if_pos hFound]
    exact hRest _ rfl rfl rfl
  · simp only [if_neg hFound]
    have hAll : nodes.filter (·.mFabricIndex ≠ fabricIndex) = nodes := by
      rw [filter_eq_self]
      intro node hMem
      have hNone := countP_eq_zero.mp (Nat.eq_zero_of_not_pos hFound) node hMem
      simpa using hNone
    exact hRest _ (hIndex.trans hAll.symm) rfl rfl

def ResumptionCall.Fits : ResumptionCall → Prop
  | .save _ state => state.Fits
  | .delete _ => True
  | .deleteAll _ => True

structure TypedCall where
  call : ResumptionCall
  fits : call.Fits

/-- The size of the cache, for which the index fits the length of a value. -/
structure ResumptionBuild where
  cacheSize : Nat
  pos : 0 < cacheSize
  indexFits : maxIndexSize cacheSize < 2 ^ 16

def storeAfter (build : ResumptionBuild) (calls : List TypedCall) (st : ResumptionStore) :
  ResumptionStore :=
  calls.foldl (fun st call => (call.call.run build.cacheSize st).2) st

def queueAfter (build : ResumptionBuild) (calls : List TypedCall) (nodes : List ScopedNodeId) :
  List ScopedNodeId :=
  calls.foldl (fun nodes call => call.call.queue build.cacheSize nodes) nodes

def lastSaved (calls : List TypedCall) (last : ScopedNodeId → Option SessionState) :
  ScopedNodeId → Option SessionState :=
  calls.foldl (fun last call => call.call.saveLast last) last

def savedIds (calls : List TypedCall) : List ResumptionId :=
  calls.filterMap fun call => call.call.savedId

theorem savedIds_cons (call : TypedCall) (calls : List TypedCall) :
  savedIds (call :: calls) = call.call.savedId.toList ++ savedIds calls := by
  cases hId : call.call.savedId <;> simp [savedIds, hId]

def Stores (build : ResumptionBuild) (st : ResumptionStore) (nodes : List ScopedNodeId)
  (last : ScopedNodeId → Option SessionState) : Prop :=
  ∃ keys, Encodes build.cacheSize st keys ∧ IsQueue build.cacheSize keys nodes last

theorem Stores.call {build : ResumptionBuild} {st : ResumptionStore}
  (h : Stores build st nodes last) (call : TypedCall)
  (hFresh : ∀ node state, last node = some state → call.call.savedId ≠ some state.resumptionId) :
  Stores build (call.call.run build.cacheSize st).2 (call.call.queue build.cacheSize nodes)
    (call.call.saveLast last) := by
  obtain ⟨keys, hEncodes, hQueue⟩ := h
  have hStored : StoredAs build.cacheSize st (start keys) := hEncodes
  have hHere : IsQueue build.cacheSize
      (start keys : Journal ResumptionKeys ResumptionWrite).contents nodes last := hQueue
  obtain ⟨call, hFits⟩ := call
  cases call with
  | save node state =>
    have hUnlinked : keys.link state.resumptionId = none := by
      cases hLink : keys.link state.resumptionId with
      | none => rfl
      | some other =>
        obtain ⟨old, hOld, hId⟩ := (hQueue.linked _ _).mp hLink
        exact absurd (congrArg some hId.symm) (hFresh other old (hQueue.mem hOld).2)
    exact ⟨_, (hStored.save build.indexFits build.pos hHere.indexed node hFits).2,
      save_isQueue build.pos hHere node hUnlinked⟩
  | delete node =>
    exact ⟨_, (hStored.delete build.indexFits node).2, delete_isQueue hHere node⟩
  | deleteAll fabricIndex =>
    exact ⟨_, (hStored.deleteAll build.indexFits fabricIndex).2,
      deleteAll_isQueue hHere fabricIndex⟩

theorem ResumptionCall.saveLast_cases (call : ResumptionCall)
  (h : call.saveLast last node = some state) :
  last node = some state ∨ call.savedId = some state.resumptionId := by
  cases call with
  | save other saved =>
    rw [ResumptionCall.saveLast, Function.update_apply] at h
    split at h
    · rw [← Option.some.inj h]
      exact .inr rfl
    · exact .inl h
  | delete other => exact .inl h
  | deleteAll fabricIndex => exact .inl h

theorem Stores.calls {build : ResumptionBuild} {st : ResumptionStore} (calls : List TypedCall)
  (h : Stores build st nodes last) (hDistinct : (savedIds calls).Nodup)
  (hFresh : ∀ node state, last node = some state → state.resumptionId ∉ savedIds calls) :
  Stores build (storeAfter build calls st) (queueAfter build calls nodes)
    (lastSaved calls last) := by
  induction calls generalizing st nodes last with
  | nil => exact h
  | cons call calls ih =>
    rw [savedIds_cons, nodup_append] at hDistinct
    obtain ⟨-, hDistinct, hOnce⟩ := hDistinct
    simp only [savedIds_cons, mem_append, Option.mem_toList, not_or] at hFresh
    apply ih (h.call call fun node state hLast => (hFresh node state hLast).1) hDistinct
    intro node state hLast hLater
    rcases call.call.saveLast_cases hLast with hOld | hNew
    · exact (hFresh node state hOld).2 hLater
    · exact hOnce _ (Option.mem_toList.mpr hNew) _ hLater rfl

section Reading

variable {build : ResumptionBuild} {st : ResumptionStore}

section

variable (h : Stores build st nodes last)
include h

theorem Stores.findByScopedNodeId (node : ScopedNodeId) (state : SessionState) :
  (ResumptionStore.findByScopedNodeId node st).1 = .ok state ↔
    node ∈ nodes ∧ last node = some state := by
  obtain ⟨keys, hEncodes, hQueue⟩ := h
  have hStored : StoredAs build.cacheSize st (start keys) := hEncodes
  rw [ResumptionStore.findByScopedNodeId, (hStored.loadState node).1]
  constructor
  · intro hFound
    cases hState : keys.state node with
    | none =>
      rw [loadState_none (show (start keys : Journal ResumptionKeys ResumptionWrite).contents.state
        node = none from hState)] at hFound
      cases hFound
    | some old =>
      rw [loadState_some (show (start keys : Journal ResumptionKeys ResumptionWrite).contents.state
        node = some old from hState)] at hFound
      cases hFound
      exact hQueue.mem hState
  · rintro ⟨hMem, hLast⟩
    have hState : (start keys : Journal ResumptionKeys ResumptionWrite).contents.state node =
        some state := (hQueue.state node).trans ((if_pos hMem).trans hLast)
    rw [loadState_some hState]

theorem Stores.findByResumptionId (resumptionId : ResumptionId) (node : ScopedNodeId)
  (state : SessionState) :
  (ResumptionStore.findByResumptionId resumptionId st).1 = .ok (node, state) ↔
    node ∈ nodes ∧ last node = some state ∧ state.resumptionId = resumptionId := by
  obtain ⟨keys, hEncodes, hQueue⟩ := h
  have hLink := congrFun hEncodes.link resumptionId
  have hLoad : ∀ other, keys.link resumptionId = some other →
      ResumptionStore.loadLink resumptionId st = (.ok other, st) := by
    intro other hOther
    rw [ResumptionStore.loadLink, Proc.read_bind, hLink, hOther, Option.map_some, getRecord_link,
      Proc.bind_ok (Proc.lift_apply _ _), Proc.lift_apply, readRecord_link]
  have hLoadState : ∀ other old, keys.state other = some old →
      ResumptionStore.findByScopedNodeId other st = (.ok old, st) := by
    intro other old hOld
    have hFits := hEncodes.fits hOld
    rw [ResumptionStore.findByScopedNodeId, ResumptionStore.loadState, Proc.read_bind,
      congrFun hEncodes.state other, hOld, Option.map_some, getRecord_state hFits,
      Proc.bind_ok (Proc.lift_apply _ _), Proc.lift_apply, readRecord_state hFits]
  rw [ResumptionStore.findByResumptionId]
  constructor
  · intro hFound
    cases hOther : keys.link resumptionId with
    | none =>
      have hNone : ResumptionStore.loadLink resumptionId st =
          (.error .persistedStorageValueNotFound, st) := by
        rw [ResumptionStore.loadLink, Proc.read_bind, hLink, hOther]
        rfl
      rw [Proc.bind_error hNone] at hFound
      cases hFound
    | some other =>
      obtain ⟨old, hOld, hId⟩ := (hQueue.linked _ _).mp hOther
      rw [Proc.bind_ok (hLoad other hOther), Proc.bind_ok (hLoadState other old hOld),
        Proc.verify_bind, if_pos hId] at hFound
      cases hFound
      exact ⟨(hQueue.mem hOld).1, (hQueue.mem hOld).2, hId⟩
  · rintro ⟨hMem, hLast, hId⟩
    have hState : keys.state node = some state :=
      (hQueue.state node).trans ((if_pos hMem).trans hLast)
    have hOther := (hQueue.linked resumptionId node).mpr ⟨state, hState, hId⟩
    rw [Proc.bind_ok (hLoad node hOther), Proc.bind_ok (hLoadState node state hState),
      Proc.verify_bind, if_pos hId]
    rfl

theorem Stores.isSome_state (node : ScopedNodeId) : (st.state node).isSome ↔ node ∈ nodes := by
  obtain ⟨keys, hEncodes, hQueue⟩ := h
  rw [congrFun hEncodes.state node, Option.isSome_map]
  constructor
  · intro hSome
    obtain ⟨state, hState⟩ := Option.isSome_iff_exists.mp hSome
    exact (hQueue.mem hState).1
  · exact hQueue.isSome_state

theorem Stores.isSome_link (resumptionId : ResumptionId) :
  (st.link resumptionId).isSome ↔
    ∃ node ∈ nodes, ∃ state, last node = some state ∧ state.resumptionId = resumptionId := by
  obtain ⟨keys, hEncodes, hQueue⟩ := h
  rw [congrFun hEncodes.link resumptionId, Option.isSome_map]
  constructor
  · intro hSome
    obtain ⟨node, hNode⟩ := Option.isSome_iff_exists.mp hSome
    obtain ⟨state, hState, hId⟩ := (hQueue.linked _ _).mp hNode
    exact ⟨node, (hQueue.mem hState).1, state, (hQueue.mem hState).2, hId⟩
  · rintro ⟨node, hMem, state, hLast, hId⟩
    have hState : keys.state node = some state :=
      (hQueue.state node).trans ((if_pos hMem).trans hLast)
    rw [(hQueue.linked resumptionId node).mpr ⟨state, hState, hId⟩]
    rfl

theorem Stores.loadIndex (index : SessionIndex) :
  (ResumptionStore.loadIndex build.cacheSize index st).1.map SessionIndex.nodes = .ok nodes := by
  obtain ⟨keys, hEncodes, hQueue⟩ := h
  rw [hEncodes.loadIndex build.indexFits]
  exact congrArg Except.ok ((SessionIndex.nodes_append _ _).trans hQueue.index)

end

end Reading

/-- After any calls with distinct resumption ids, the storage answers as the queue does, and it
holds no record of any node that is not in the queue. -/
theorem storage_is_queue (build : ResumptionBuild) (calls : List TypedCall)
    (hDistinct : (savedIds calls).Nodup) :
    let st := storeAfter build calls .empty
    let nodes := queueAfter build calls []
    let last := lastSaved calls fun _ => none
    (∀ node ∈ nodes, (last node).isSome) ∧
    (∀ node state, (ResumptionStore.findByScopedNodeId node st).1 = .ok state ↔
      node ∈ nodes ∧ last node = some state) ∧
    (∀ resumptionId node state,
      (ResumptionStore.findByResumptionId resumptionId st).1 = .ok (node, state) ↔
        node ∈ nodes ∧ last node = some state ∧ state.resumptionId = resumptionId) ∧
    (∀ node, (st.state node).isSome ↔ node ∈ nodes) ∧
    (∀ resumptionId, (st.link resumptionId).isSome ↔
      ∃ node ∈ nodes, ∃ state, last node = some state ∧ state.resumptionId = resumptionId) ∧
    ∀ index, (ResumptionStore.loadIndex build.cacheSize index st).1.map SessionIndex.nodes =
      .ok nodes := by
  intro st nodes last
  have hStores : Stores build st nodes last :=
    Stores.calls calls ⟨.empty, .empty, .empty⟩ hDistinct fun _ _ h => by cases h
  have hSaved : ∀ node ∈ nodes, (last node).isSome := by
    obtain ⟨keys, -, hQueue⟩ := hStores
    exact hQueue.saved
  exact ⟨hSaved, hStores.findByScopedNodeId, hStores.findByResumptionId, hStores.isSome_state,
    hStores.isSome_link, hStores.loadIndex⟩

def defaultBuild : ResumptionBuild where
  cacheSize := 48
  pos := by decide
  indexFits := by decide

theorem sampleState_fits : sampleState.Fits := by decide

/-- A node is saved, deleted and looked for. -/
theorem storage_is_queue_deleted :
    (ResumptionStore.findByScopedNodeId sampleNode (storeAfter defaultBuild
      [⟨.save sampleNode sampleState, sampleState_fits⟩, ⟨.delete sampleNode, trivial⟩] .empty)).1 =
        .ok sampleState ↔
      sampleNode ∈ queueAfter defaultBuild
          [⟨.save sampleNode sampleState, sampleState_fits⟩, ⟨.delete sampleNode, trivial⟩] [] ∧
        lastSaved [⟨.save sampleNode sampleState, sampleState_fits⟩, ⟨.delete sampleNode, trivial⟩]
          (fun _ => none) sampleNode = some sampleState :=
  (storage_is_queue defaultBuild
    [⟨.save sampleNode sampleState, sampleState_fits⟩, ⟨.delete sampleNode, trivial⟩]
    (List.nodup_singleton _)).2.1 sampleNode sampleState

end Chip.SecureChannel
