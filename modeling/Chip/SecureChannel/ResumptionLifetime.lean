import Chip.SecureChannel.SessionResumption

/-! How long resumption records live. Deletion finds a record only through the index
and stops at a record whose link is missing, so both must be there whenever a state is. -/
namespace Chip.SecureChannel

open ResumptionWrite Proc List Journal

variable {cacheSize : Nat}

namespace ResumptionKeys

def nodes (keys : ResumptionKeys) : List ScopedNodeId := keys.index.getD []

end ResumptionKeys

/-- Every stored state is indexed, and the link of its resumption id leads to it. -/
structure Indexed (cacheSize : Nat) (keys : ResumptionKeys) : Prop where
  size : keys.nodes.length ≤ cacheSize
  mem : ∀ {node state}, keys.state node = some state → node ∈ keys.nodes
  link : ∀ {node state}, keys.state node = some state →
    keys.link state.resumptionId = some node

theorem Indexed.empty : Indexed cacheSize .empty :=
  ⟨Nat.zero_le _, (fun h => by cases h), (fun h => by cases h)⟩

variable {keys : ResumptionKeys} {node : ScopedNodeId} {state : SessionState}
  {j : Journal ResumptionKeys ResumptionWrite}

section

variable (h : Indexed cacheSize keys)
include h

theorem Indexed.remove (hState : keys.state node = some state) :
  Indexed cacheSize (apply (.deleteState node)
    (apply (.deleteLink state.resumptionId) keys)) := by
  refine ⟨h.size, ?_, ?_⟩
  · intro other otherState hOther
    by_cases hSame : other = node
    · simp [apply, hSame] at hOther
    · simp only [apply, ne_eq, hSame, not_false_eq_true, Function.update_of_ne] at hOther
      exact h.mem hOther
  · intro other otherState hOther
    by_cases hSame : other = node
    · simp [apply, hSame] at hOther
    · simp only [apply, ne_eq, hSame, not_false_eq_true, Function.update_of_ne] at hOther ⊢
      have hLink := h.link hOther
      have hDistinct : otherState.resumptionId ≠ state.resumptionId := by
        intro hId
        rw [hId, h.link hState] at hLink
        exact hSame (Option.some.inj hLink).symm
      rw [Function.update_of_ne hDistinct]
      exact hLink

theorem Indexed.reindex {index : List ScopedNodeId} (hSize : index.length ≤ cacheSize)
  (hMem : ∀ {node state}, keys.state node = some state → node ∈ index) :
  Indexed cacheSize (apply (.saveIndex index) keys) :=
  ⟨hSize, hMem, h.link⟩

theorem Indexed.put (state : SessionState) (hNode : node ∈ keys.nodes)
  (hLink : keys.link state.resumptionId = none ∨ keys.link state.resumptionId = some node) :
  Indexed cacheSize (apply (.saveLink state.resumptionId node)
    (apply (.saveState node state) keys)) := by
  refine ⟨h.size, ?_, ?_⟩
  · intro other otherState hOther
    by_cases hSame : other = node
    · rw [hSame]
      exact hNode
    · simp only [apply, ne_eq, hSame, not_false_eq_true, Function.update_of_ne] at hOther
      exact h.mem hOther
  · intro other otherState hOther
    by_cases hSame : other = node
    · subst hSame
      simp only [apply, Function.update_self, Option.some.injEq] at hOther
      subst hOther
      simp [apply]
    · simp only [apply, ne_eq, hSame, not_false_eq_true, Function.update_of_ne] at hOther ⊢
      have hOtherLink := h.link hOther
      have hDistinct : otherState.resumptionId ≠ state.resumptionId := by
        intro hId
        rw [hId] at hOtherLink
        rcases hLink with hNone | hOwn
        · rw [hNone] at hOtherLink
          cases hOtherLink
        · rw [hOwn] at hOtherLink
          exact hSame (Option.some.inj hOtherLink).symm
      rw [Function.update_of_ne hDistinct]
      exact hOtherLink

end

section Primitives

variable {j : Journal ResumptionKeys ResumptionWrite} {node : ScopedNodeId} {state : SessionState}

theorem loadIndex_eq (h : Indexed cacheSize j.contents) :
  loadIndex cacheSize j = (.ok j.contents.nodes, j) := by
  have hSize : (j.contents.index.getD []).length ≤ cacheSize := h.size
  simp [loadIndex, hSize, ResumptionKeys.nodes]

theorem loadState_some (h : j.contents.state node = some state) :
  loadState node j = (.ok state, j) := by
  simp [loadState, h]

theorem loadState_none (h : j.contents.state node = none) :
  loadState node j = (.error .persistedStorageValueNotFound, j) := by
  simp [loadState, h]

theorem deleteLink_some {resumptionId : ResumptionId}
  (h : j.contents.link resumptionId = some node) :
  deleteLink resumptionId j = (.ok (), write apply (.deleteLink resumptionId) j) := by
  simp [deleteLink, sync, h]

theorem deleteState_some (h : j.contents.state node = some state) :
  deleteState node j = (.ok (), write apply (.deleteState node) j) := by
  simp [deleteState, sync, h]

theorem deleteState_none (h : j.contents.state node = none) :
  deleteState node j = (.error .persistedStorageValueNotFound, j) := by
  simp [deleteState, h]

end Primitives

def removeWrites (keys : ResumptionKeys) (node : ScopedNodeId) : List ResumptionWrite :=
  match keys.state node with
  | some state => [.deleteLink state.resumptionId, .deleteState node]
  | none => []

/-- What `Delete` writes. -/
def deleteWrites (keys : ResumptionKeys) (node : ScopedNodeId) : List ResumptionWrite :=
  removeWrites keys node ++
    if node ∈ keys.nodes then [.saveIndex (keys.nodes.erase node)] else []

theorem delete_logs (h : Indexed cacheSize j.contents) (node : ScopedNodeId) :
  ∃ j', delete cacheSize node j = (.ok (), j') ∧
    Logs apply j (deleteWrites j.contents node) j' := by
  unfold delete deleteWrites removeWrites
  rw [bind_ok (loadIndex_eq h), attempt_bind]
  cases hState : j.contents.state node with
  | none =>
    rw [loadState_none hState]
    simp only [attempt_bind, deleteState_none hState]
    by_cases hMem : node ∈ j.contents.nodes
    · simp only [hMem, ↓reduceIte, nil_append]
      exact ⟨_, rfl, .write _ j⟩
    · simp only [hMem, ↓reduceIte, nil_append]
      exact ⟨_, rfl, .none j⟩
  | some state =>
    have hState₁ : (write apply (.deleteLink state.resumptionId) j).contents.state
        node = some state := hState
    have hLogs : Logs apply j [.deleteLink state.resumptionId, .deleteState node]
        (write apply (.deleteState node)
          (write apply (.deleteLink state.resumptionId) j)) :=
      (Logs.write _ j).trans (.write _ _)
    rw [loadState_some hState]
    simp only [attempt_bind, deleteLink_some (h.link hState), deleteState_some hState₁]
    by_cases hMem : node ∈ j.contents.nodes
    · simp only [hMem, ↓reduceIte]
      exact ⟨_, rfl, hLogs.trans (.write _ _)⟩
    · simp only [hMem, ↓reduceIte, append_nil]
      exact ⟨_, rfl, hLogs⟩

/-- Where power may be lost: not after the first half of a removal, and not before a
new record is complete. -/
def mayStop (keys : ResumptionKeys) : ResumptionWrite → Prop
  | .saveIndex _ => True
  | .saveLink _ node => node ∈ keys.nodes
  | .deleteLink _ => False
  | .saveState _ _ => False
  | .deleteState _ => True

theorem removeWrites_survives (start : ResumptionKeys) (h : Indexed cacheSize keys) (node : ScopedNodeId) :
  Survives apply (mayStop start) (Indexed cacheSize) keys
      (removeWrites keys node) ∧
    Indexed cacheSize (replay apply (removeWrites keys node) keys) := by
  unfold removeWrites
  cases hState : keys.state node with
  | none => exact ⟨trivial, h⟩
  | some state =>
    have hGone := h.remove hState
    exact ⟨⟨False.elim, fun _ => hGone, trivial⟩, hGone⟩

@[simp] theorem replay_removeWrites_nodes (keys : ResumptionKeys) (node : ScopedNodeId) :
  (replay apply (removeWrites keys node) keys).nodes = keys.nodes := by
  unfold removeWrites
  cases keys.state node <;> rfl

theorem replay_removeWrites_state (keys : ResumptionKeys) (node : ScopedNodeId) :
  (replay apply (removeWrites keys node) keys).state =
    Function.update keys.state node none := by
  unfold removeWrites
  cases hState : keys.state node with
  | none =>
    funext other
    by_cases hSame : other = node
    · simp [hSame, hState]
    · simp [hSame]
  | some state => rfl

theorem deleteWrites_survives (start : ResumptionKeys) (h : Indexed cacheSize keys) (node : ScopedNodeId) :
  Survives apply (mayStop start) (Indexed cacheSize) keys
      (deleteWrites keys node) ∧
    Indexed cacheSize (replay apply (deleteWrites keys node) keys) := by
  obtain ⟨hSurvives, hGone⟩ := removeWrites_survives start h node
  unfold deleteWrites
  rw [survives_append, replay_append]
  by_cases hMem : node ∈ keys.nodes
  · have hIndexed : Indexed cacheSize (apply (.saveIndex (keys.nodes.erase node))
        (replay apply (removeWrites keys node) keys)) := by
      refine hGone.reindex ?_ ?_
      · exact length_erase_le.trans h.size
      · intro other state hOther
        have hNe : other ≠ node := by
          rintro rfl
          rw [replay_removeWrites_state, Function.update_self] at hOther
          cases hOther
        have hOld := hGone.mem hOther
        rw [replay_removeWrites_nodes] at hOld
        exact (mem_erase_of_ne hNe).mpr hOld
    simp only [hMem, ↓reduceIte]
    exact ⟨⟨hSurvives, fun _ => hIndexed, trivial⟩, hIndexed⟩
  · simp only [hMem, ↓reduceIte]
    exact ⟨⟨hSurvives, trivial⟩, hGone⟩

/-- What the loop of `DeleteAll` writes. -/
def deleteAllWrites (fabricIndex : UInt8) : ResumptionKeys → List ScopedNodeId → List ResumptionWrite
  | _, [] => []
  | keys, node :: rest =>
    if node.mFabricIndex ≠ fabricIndex then deleteAllWrites fabricIndex keys rest
    else removeWrites keys node ++ deleteAllWrites fabricIndex
      (replay ResumptionWrite.apply (removeWrites keys node) keys) rest

theorem removeRecord_logs (h : Indexed cacheSize j.contents) (node : ScopedNodeId) :
    ∃ j', ((do
        let state ← loadState node
        deleteLink state.resumptionId
        deleteState node) : ResumptionM Unit) j =
        (if (j.contents.state node).isSome then .ok () else .error .persistedStorageValueNotFound, j') ∧
      Logs apply j (removeWrites j.contents node) j' := by
  unfold removeWrites
  cases hState : j.contents.state node with
  | none =>
    rw [bind_error (loadState_none hState)]
    exact ⟨j, rfl, .none j⟩
  | some state =>
    have hState₁ : (write apply (.deleteLink state.resumptionId) j).contents.state
        node = some state := hState
    rw [bind_ok (loadState_some hState), bind_ok (deleteLink_some (h.link hState)),
      deleteState_some hState₁]
    exact ⟨_, rfl, (Logs.write _ j).trans (.write _ _)⟩

theorem deleteAllWrites_survives (start : ResumptionKeys) (h : Indexed cacheSize keys)
  (fabricIndex : UInt8) (nodes : List ScopedNodeId) :
  Survives apply (mayStop start) (Indexed cacheSize) keys
      (deleteAllWrites fabricIndex keys nodes) ∧
    Indexed cacheSize (replay apply (deleteAllWrites fabricIndex keys nodes) keys) := by
  induction nodes generalizing keys with
  | nil => exact ⟨trivial, h⟩
  | cons node rest ih =>
    unfold deleteAllWrites
    by_cases hOther : node.mFabricIndex ≠ fabricIndex
    · rw [if_pos hOther]
      exact ih h
    · rw [if_neg hOther, survives_append, replay_append]
      obtain ⟨hSurvives, hGone⟩ := removeWrites_survives start h node
      exact ⟨⟨hSurvives, (ih hGone).1⟩, (ih hGone).2⟩

theorem deleteAllWrites_nodes (fabricIndex : UInt8) (keys : ResumptionKeys)
  (nodes : List ScopedNodeId) :
  (replay apply (deleteAllWrites fabricIndex keys nodes) keys).nodes =
    keys.nodes := by
  induction nodes generalizing keys with
  | nil => rfl
  | cons node rest ih =>
    unfold deleteAllWrites
    by_cases hOther : node.mFabricIndex ≠ fabricIndex
    · rw [if_pos hOther]
      exact ih keys
    · rw [if_neg hOther, replay_append, ih, replay_removeWrites_nodes]

theorem deleteAllWrites_state (fabricIndex : UInt8) (keys : ResumptionKeys)
  (nodes : List ScopedNodeId) (node : ScopedNodeId) :
  (replay apply (deleteAllWrites fabricIndex keys nodes) keys).state node =
    if node ∈ nodes ∧ node.mFabricIndex = fabricIndex then none else keys.state node := by
  induction nodes generalizing keys with
  | nil => simp [deleteAllWrites]
  | cons first rest ih =>
    unfold deleteAllWrites
    by_cases hOther : first.mFabricIndex ≠ fabricIndex
    · rw [if_pos hOther, ih]
      by_cases hSame : node = first
      · subst hSame
        simp [hOther]
      · simp [hSame]
    · rw [if_neg hOther, replay_append, ih, replay_removeWrites_state]
      rw [not_ne_iff] at hOther
      by_cases hSame : node = first
      · subst hSame
        simp [hOther]
      · simp [hSame]

theorem deleteAllLoop_logs (h : Indexed cacheSize j.contents) (fabricIndex : UInt8)
  (nodes : List ScopedNodeId) :
  ∃ kept found stickyErr j',
    deleteAllLoop fabricIndex nodes j = (.ok (kept, found, stickyErr), j') ∧
    Logs apply j (deleteAllWrites fabricIndex j.contents nodes) j' ∧
    kept.length ≤ nodes.length ∧
    ∀ node ∈ nodes, node.mFabricIndex ≠ fabricIndex → node ∈ kept := by
  induction nodes generalizing j with
  | nil => exact ⟨[], 0, none, j, rfl, .none j, le_rfl, by simp⟩
  | cons node rest ih =>
    unfold deleteAllLoop deleteAllWrites
    by_cases hOther : node.mFabricIndex ≠ fabricIndex
    · obtain ⟨kept, found, stickyErr, j', hLoop, hLogs, hLength, hKept⟩ := ih h
      rw [if_pos hOther, if_pos hOther, bind_ok hLoop]
      refine ⟨node :: kept, found, stickyErr, j', rfl, hLogs, by simpa using hLength, ?_⟩
      intro other hMem hFabric
      rcases mem_cons.mp hMem with rfl | hRest
      · exact mem_cons_self
      · exact mem_cons_of_mem _ (hKept other hRest hFabric)
    · obtain ⟨j₁, hRemove, hFirst⟩ := removeRecord_logs h node
      have hGone : Indexed cacheSize j₁.contents := by
        rw [hFirst.contents]
        exact (removeWrites_survives j.contents h node).2
      obtain ⟨kept, found, stickyErr, j', hLoop, hLogs, hLength, hKept⟩ := ih hGone
      have hAll : Logs apply j (removeWrites j.contents node ++
          deleteAllWrites fabricIndex
            (replay apply (removeWrites j.contents node) j.contents) rest) j' := by
        rw [← hFirst.contents]
        exact hFirst.trans hLogs
      have hMem : ∀ other ∈ node :: rest, other.mFabricIndex ≠ fabricIndex → other ∈ kept := by
        intro other hMem hFabric
        rcases mem_cons.mp hMem with rfl | hRest
        · exact absurd hFabric hOther
        · exact hKept other hRest hFabric
      rw [if_neg hOther, if_neg hOther, attempt_bind, hRemove, bind_ok hLoop]
      by_cases hState : (j.contents.state node).isSome
      · simp only [hState, ↓reduceIte]
        exact ⟨kept, found + 1, stickyErr, j', rfl, hAll, by simp; omega, hMem⟩
      · simp only [hState, Bool.false_eq_true, ↓reduceIte]
        refine ⟨node :: kept, found, _, j', rfl, hAll, by simpa using hLength, ?_⟩
        intro other hOld hFabric
        exact mem_cons_of_mem _ (hMem other hOld hFabric)

/-- A call keeps records whole, wherever power may be lost during it. -/
structure Keeps (cacheSize : Nat) (j j' : Journal ResumptionKeys ResumptionWrite)
    (writes : List ResumptionWrite) : Prop where
  logs : Logs ResumptionWrite.apply j writes j'
  survives : Survives ResumptionWrite.apply (mayStop j.contents) (Indexed cacheSize) j.contents writes
  indexed : Indexed cacheSize j'.contents

theorem delete_keeps (h : Indexed cacheSize j.contents) (node : ScopedNodeId) :
  ∃ writes, Keeps cacheSize j (delete cacheSize node j).2 writes := by
  obtain ⟨j', hDelete, hLogs⟩ := delete_logs h node
  obtain ⟨hSurvives, hGone⟩ := deleteWrites_survives j.contents h node
  rw [hDelete]
  refine ⟨_, hLogs, hSurvives, ?_⟩
  rw [hLogs.contents]
  exact hGone

theorem deleteAll_keeps (h : Indexed cacheSize j.contents) (fabricIndex : UInt8) :
  (∃ writes, Keeps cacheSize j (deleteAll cacheSize fabricIndex j).2 writes) ∧
    ∀ node, node.mFabricIndex = fabricIndex →
      (deleteAll cacheSize fabricIndex j).2.contents.state node = none := by
  obtain ⟨kept, found, stickyErr, j', hLoop, hLogs, hLength, hKept⟩ :=
    deleteAllLoop_logs h fabricIndex j.contents.nodes
  obtain ⟨hSurvives, hGone⟩ :=
    deleteAllWrites_survives j.contents h fabricIndex j.contents.nodes
  have hContents := hLogs.contents
  have hState : ∀ node, node.mFabricIndex = fabricIndex → j'.contents.state node = none := by
    intro node hFabric
    rw [hContents, deleteAllWrites_state]
    by_cases hMem : node ∈ j.contents.nodes
    · rw [if_pos ⟨hMem, hFabric⟩]
    · rw [if_neg fun hBoth => hMem hBoth.1]
      by_contra hSome
      obtain ⟨state, hState⟩ := Option.ne_none_iff_exists'.mp hSome
      exact hMem (h.mem hState)
  -- Whatever the sticky error, the index is rewritten if anything was removed.
  have hEnd : (deleteAll cacheSize fabricIndex j).2 =
      if found > 0 then write apply (.saveIndex kept) j' else j' := by
    unfold deleteAll
    rw [bind_ok (loadIndex_eq h), bind_ok hLoop]
    by_cases hFound : found > 0
    · simp only [hFound, ↓reduceIte]
      cases stickyErr <;> rfl
    · simp only [hFound, ↓reduceIte]
      cases stickyErr <;> rfl
  rw [hEnd]
  by_cases hFound : found > 0
  · rw [if_pos hFound]
    have hIndexed : Indexed cacheSize (apply (.saveIndex kept) j'.contents) := by
      rw [hContents]
      refine hGone.reindex (hLength.trans h.size) ?_
      intro node state hSome
      have hMem := hGone.mem hSome
      rw [deleteAllWrites_nodes] at hMem
      refine hKept node hMem fun hFabric => ?_
      rw [← hContents, hState node hFabric] at hSome
      cases hSome
    refine ⟨⟨_, hLogs.trans (.write _ j'), ?_, hIndexed⟩, hState⟩
    rw [survives_append, ← hContents]
    exact ⟨hSurvives, fun _ => hIndexed, trivial⟩
  · rw [if_neg hFound]
    refine ⟨⟨_, hLogs, hSurvives, ?_⟩, hState⟩
    rw [hContents]
    exact hGone

/-- The precondition of `Save`: the resumption id is not in use by another node. -/
def LinkFree (keys : ResumptionKeys) (node : ScopedNodeId) (state : SessionState) : Prop :=
  keys.link state.resumptionId = none ∨ keys.link state.resumptionId = some node

theorem replay_deleteWrites_link (keys : ResumptionKeys) (node : ScopedNodeId) :
  (replay apply (deleteWrites keys node) keys).link =
    (replay apply (removeWrites keys node) keys).link := by
  unfold deleteWrites
  rw [replay_append]
  by_cases hMem : node ∈ keys.nodes
  · rw [if_pos hMem]
    rfl
  · rw [if_neg hMem]
    rfl

theorem replay_deleteWrites_nodes (hMem : node ∈ keys.nodes) :
  (replay apply (deleteWrites keys node) keys).nodes = keys.nodes.erase node := by
  unfold deleteWrites
  rw [replay_append, if_pos hMem]
  rfl

theorem LinkFree.removeWrites {node other : ScopedNodeId} (h : LinkFree keys node state) :
  LinkFree (replay apply (removeWrites keys other) keys) node state := by
  unfold SecureChannel.removeWrites LinkFree
  cases keys.state other with
  | none => exact h
  | some old =>
    by_cases hSame : state.resumptionId = old.resumptionId
    · left
      simp [apply, hSame]
    · simpa [LinkFree, apply, Function.update_of_ne hSame] using h

section

variable (h : Indexed cacheSize j.contents) (hFree : LinkFree j.contents node state)
include h hFree

theorem saveInPlace_keeps (hMem : node ∈ j.contents.nodes) :
  ∃ writes, Keeps cacheSize j (save cacheSize node state j).2 writes := by
  have hGone := (removeWrites_survives j.contents h node).2
  have hPut := hGone.put state
    (by rw [replay_removeWrites_nodes]; exact hMem) hFree.removeWrites
  unfold save
  rw [bind_ok (loadIndex_eq h), if_pos hMem, attempt_bind]
  cases hState : j.contents.state node with
  | none =>
    rw [loadState_none hState]
    simp only [removeWrites, hState, replay_nil] at hPut
    exact ⟨[.saveState node state, .saveLink state.resumptionId node],
      (Logs.write _ j).trans (.write _ _), ⟨False.elim, fun _ => hPut, trivial⟩, hPut⟩
  | some old =>
    rw [loadState_some hState]
    simp only [attempt_bind, deleteLink_some (h.link hState)]
    simp only [removeWrites, hState, replay_cons, replay_nil, apply,
      Function.update_idem] at hPut
    exact ⟨[.deleteLink old.resumptionId, .saveState node state, .saveLink state.resumptionId node],
      ((Logs.write _ j).trans (.write _ _)).trans (.write _ _),
      ⟨False.elim, False.elim, fun _ => hPut, trivial⟩, hPut⟩

theorem saveNew_keeps {start : ResumptionKeys} (hNew : node ∉ start.nodes)
  (hRoom : j.contents.nodes.length < cacheSize) :
  Survives apply (mayStop start) (Indexed cacheSize) j.contents
      [.saveState node state, .saveLink state.resumptionId node,
        .saveIndex (j.contents.nodes ++ [node])] ∧
    Indexed cacheSize (replay apply [.saveState node state,
      .saveLink state.resumptionId node, .saveIndex (j.contents.nodes ++ [node])] j.contents) := by
  have hIndex : Indexed cacheSize
      (apply (.saveIndex (j.contents.nodes ++ [node])) j.contents) := by
    refine h.reindex ?_ ?_
    · rw [length_append]
      exact hRoom
    · intro other otherState hOther
      exact mem_append_left _ (h.mem hOther)
  have hMem : node ∈ (apply (.saveIndex (j.contents.nodes ++ [node]))
      j.contents).nodes := mem_append_right _ (mem_singleton.mpr rfl)
  have hPut := hIndex.put state hMem hFree
  exact ⟨⟨False.elim, fun hStop => absurd hStop hNew, fun _ => hPut, trivial⟩, hPut⟩

theorem save_keeps [NeZero cacheSize] :
  ∃ writes, Keeps cacheSize j (save cacheSize node state j).2 writes := by
  by_cases hMem : node ∈ j.contents.nodes
  · exact saveInPlace_keeps h hFree hMem
  have hSize := h.size
  have hPos : 0 < cacheSize := Nat.pos_of_neZero cacheSize
  -- What is left once there is room for the node.
  have hTail : ∀ {writes j₁}, Keeps cacheSize j j₁ writes → LinkFree j₁.contents node state →
      j₁.contents.nodes.length < cacheSize →
      ∃ writes', Keeps cacheSize j (((do
        saveState node state
        saveLink state.resumptionId node
        saveIndex (j₁.contents.nodes ++ [node])) : ResumptionM Unit) j₁).2 writes' := by
    intro writes j₁ hKeeps hFree₁ hRoom
    obtain ⟨hSurvives, hDone⟩ := saveNew_keeps hKeeps.indexed hFree₁ hMem hRoom
    refine ⟨_, hKeeps.logs.trans
      (((Logs.write _ j₁).trans (.write _ _)).trans (.write _ _)), ?_, hDone⟩
    rw [survives_append, ← hKeeps.logs.contents]
    exact ⟨hKeeps.survives, hSurvives⟩
  unfold save
  rw [bind_ok (loadIndex_eq h), if_neg hMem]
  cases hNodes : j.contents.nodes with
  | nil =>
    have hSame : Keeps cacheSize j j [] := ⟨.none j, trivial, h⟩
    have hRoom : j.contents.nodes.length < cacheSize := by
      rw [hNodes]
      exact hPos
    simpa [hNodes] using hTail hSame hFree hRoom
  | cons first rest =>
    have hFirst : first ∈ j.contents.nodes := by
      rw [hNodes]
      exact mem_cons_self
    by_cases hFull : (first :: rest).length = cacheSize
    · obtain ⟨j₁, hDelete, hLogs⟩ := delete_logs h first
      obtain ⟨hSurvives, hGone⟩ := deleteWrites_survives j.contents h first
      rw [← hLogs.contents] at hGone
      have hNodes₁ : j₁.contents.nodes = rest := by
        rw [hLogs.contents, replay_deleteWrites_nodes hFirst, hNodes, erase_cons_head]
      have hFree₁ : LinkFree j₁.contents node state := by
        have hRemoved : LinkFree (replay apply
          (removeWrites j.contents first) j.contents) node state := hFree.removeWrites
        unfold LinkFree at hRemoved ⊢
        rw [hLogs.contents, replay_deleteWrites_link]
        exact hRemoved
      have hRoom : j₁.contents.nodes.length < cacheSize := by
        rw [hNodes₁, ← hFull]
        exact Nat.lt_succ_self _
      simp only [hFull, ↓reduceIte]
      rw [bind_ok hDelete, bind_ok (loadIndex_eq hGone)]
      exact hTail ⟨hLogs, hSurvives, hGone⟩ hFree₁ hRoom
    · have hSame : Keeps cacheSize j j [] := ⟨.none j, trivial, h⟩
      have hRoom : j.contents.nodes.length < cacheSize := by
        rw [hNodes] at hSize ⊢
        omega
      simp only [hFull, ↓reduceIte]
      have hEnd := hTail hSame hFree hRoom
      rw [hNodes] at hEnd
      exact hEnd

end

/-- A call does not save a record under the resumption id of another one. -/
def ResumptionCall.Fresh (keys : ResumptionKeys) : ResumptionCall → Prop
  | .save node state => LinkFree keys node state
  | .delete _ => True
  | .deleteAll _ => True

/-- What a step must respect for records to stay whole. Power may not be lost right
after a link was deleted or a state was written, nor right after the link of a node
that is not yet in the index was written; and a record may not be saved under the
resumption id of another one. -/
def ResumptionStep.Orderly (cacheSize : Nat) (keys : ResumptionKeys) (step : ResumptionStep) : Prop :=
  step.call.Fresh keys ∧
  ∀ k, step.powerLossAfter = some k →
    ∀ w, ((step.call.exec cacheSize (start keys)).2.journal.take k).getLast? = some w →
      mayStop keys w

/-- Every step of a run is orderly in the state it is taken in. -/
def OrderlyRun (cacheSize : Nat) : ResumptionKeys → List ResumptionStep → Prop
  | _, [] => True
  | keys, step :: steps =>
    step.Orderly cacheSize keys ∧ OrderlyRun cacheSize (step.next cacheSize keys) steps

section

variable (h : Indexed cacheSize keys)
include h

theorem ResumptionCall.exec_keeps [NeZero cacheSize] (call : ResumptionCall)
  (hCall : call.Fresh keys) :
  ∃ writes, Keeps cacheSize (start keys) (call.exec cacheSize (start keys)).2 writes := by
  cases call with
  | save node state => exact save_keeps (j := start keys) h hCall
  | delete node => exact delete_keeps (j := start keys) h node
  | deleteAll fabricIndex => exact (deleteAll_keeps (j := start keys) h fabricIndex).1

theorem ResumptionStep.next_indexed [NeZero cacheSize] {step : ResumptionStep}
  (hStep : step.Orderly cacheSize keys) : Indexed cacheSize (step.next cacheSize keys) := by
  obtain ⟨hCall, hPower⟩ := hStep
  obtain ⟨writes, hKeeps⟩ := step.call.exec_keeps h hCall
  unfold ResumptionStep.next
  cases hCut : step.powerLossAfter with
  | none => exact hKeeps.indexed
  | some k =>
    have hJournal : (step.call.exec cacheSize (start keys)).2.journal = writes :=
      hKeeps.logs.journal
    have hStop := hPower k hCut
    rw [hJournal] at hStop
    simp only [hJournal]
    exact hKeeps.survives.powerLoss h k hStop

theorem runSteps_indexed [NeZero cacheSize] {steps : List ResumptionStep}
  (hRun : OrderlyRun cacheSize keys steps) : Indexed cacheSize (runSteps cacheSize steps keys) := by
  induction steps generalizing keys with
  | nil => exact h
  | cons step steps ih => exact ih (ResumptionStep.next_indexed h hRun.1) hRun.2

end

/-- After any orderly run, a `DeleteAll` that runs to its end leaves nothing by which a
session of the fabric could be resumed. -/
theorem deleteAll_forgets_fabric (cacheSize : Nat) [NeZero cacheSize] (steps : List ResumptionStep)
    (hRun : OrderlyRun cacheSize .empty steps) (fabricIndex : UInt8) :
    let j := (deleteAll cacheSize fabricIndex (start (runSteps cacheSize steps .empty))).2
    (∀ node state, node.mFabricIndex = fabricIndex →
      (findByScopedNodeId node j).1 ≠ .ok state) ∧
    ∀ resumptionId node state, (findByResumptionId resumptionId j).1 = .ok (node, state) →
      node.mFabricIndex ≠ fabricIndex := by
  intro j
  have hIndexed := runSteps_indexed Indexed.empty hRun
  have hGone : ∀ node, node.mFabricIndex = fabricIndex → j.contents.state node = none :=
    (deleteAll_keeps (j := start _) hIndexed fabricIndex).2
  refine ⟨?_, ?_⟩
  · intro node state hFabric hFound
    unfold findByScopedNodeId at hFound
    rw [loadState_none (hGone node hFabric)] at hFound
    cases hFound
  · intro resumptionId node state hFound hFabric
    have hRunFind : findByResumptionId resumptionId j =
        (.ok (node, state), (findByResumptionId resumptionId j).2) := Prod.ext hFound rfl
    obtain ⟨linked, j₁, hLink, hRest⟩ := Proc.bind_eq_ok hRunFind
    obtain ⟨found, j₂, hState, hVerify⟩ := Proc.bind_eq_ok hRest
    obtain ⟨-, hPure⟩ := Proc.verify_bind_eq_ok hVerify
    cases hPure
    have hJ : j₁ = j := by
      unfold loadLink at hLink
      cases hKey : j.contents.link resumptionId with
      | none => simp [hKey] at hLink
      | some n =>
        simp only [Proc.read_bind, hKey] at hLink
        exact (congrArg Prod.snd hLink).symm
    rw [hJ] at hState
    unfold findByScopedNodeId at hState
    rw [loadState_none (hGone node hFabric)] at hState
    cases hState

def sampleNode : ScopedNodeId := ⟨0x1122334455667788, 1⟩

def sampleState : SessionState := ⟨Vector.replicate 16 7, List.replicate 32 9, [0, 0, 0]⟩

/-- A record that was saved, and whose removal lost power before the index was
rewritten. -/
theorem deleteAll_forgets_interrupted_delete :
    let steps : List ResumptionStep :=
      [⟨.save sampleNode sampleState, none⟩, ⟨.delete sampleNode, some 2⟩]
    let j := (deleteAll 48 1 (start (runSteps 48 steps .empty))).2
    (∀ node state, node.mFabricIndex = 1 → (findByScopedNodeId node j).1 ≠ .ok state) ∧
    ∀ resumptionId node state, (findByResumptionId resumptionId j).1 = .ok (node, state) →
      node.mFabricIndex ≠ 1 := by
  intro steps
  refine deleteAll_forgets_fabric 48 steps ⟨⟨.inl rfl, by simp⟩, ⟨trivial, ?_⟩, trivial⟩ 1
  intro k hk w hw
  cases hk
  cases hw
  trivial

/-- A new record whose index entry was not written before power was lost outlives the
removal of its fabric. -/
theorem unindexed_record_survives_deleteAll :
    let j := (deleteAll 48 1 (start
      (runSteps 48 [⟨.save sampleNode sampleState, some 2⟩] .empty))).2
    (findByScopedNodeId sampleNode j).1 = .ok sampleState ∧
      (findByResumptionId sampleState.resumptionId j).1 = .ok (sampleNode, sampleState) :=
  ⟨rfl, rfl⟩

end Chip.SecureChannel
