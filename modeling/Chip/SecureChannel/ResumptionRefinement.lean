import Chip.SecureChannel.ResumptionStore

/-! The calls on the stored bytes do what the calls on the keys do. -/
namespace Chip.SecureChannel

open Proc.Agrees List SessionIndex ResumptionWrite TLV Journal

variable {cacheSize : Nat} {st : ResumptionStore} {keys : ResumptionKeys}
  {j : Journal ResumptionKeys ResumptionWrite}

structure Encodes (cacheSize : Nat) (st : ResumptionStore) (keys : ResumptionKeys) : Prop where
  index : st.index = keys.index.map fun nodes => (serializeIndex nodes).bytes
  link : st.link = fun resumptionId =>
    (keys.link resumptionId).map fun node => (serializeLink node).bytes
  state : st.state = fun node => (keys.state node).map fun state => (serializeState state).bytes
  size : keys.nodes.length ≤ cacheSize
  fits : ∀ {node state}, keys.state node = some state → state.Fits

theorem Encodes.empty : Encodes cacheSize .empty .empty where
  index := rfl
  link := rfl
  state := rfl
  size := Nat.zero_le _
  fits := fun h => by cases h

/-- The keys that a call has come to, whatever it has written. -/
def StoredAs (cacheSize : Nat) (st : ResumptionStore) (j : Journal ResumptionKeys ResumptionWrite) :
  Prop :=
  Encodes cacheSize st j.contents

section Primitives

variable {node : ScopedNodeId} {state : SessionState} {resumptionId : ResumptionId}

theorem Encodes.loadIndex (h : Encodes cacheSize st keys) (hBuild : maxIndexSize cacheSize < 2 ^ 16)
  (index : SessionIndex) :
  ResumptionStore.loadIndex cacheSize index st =
    (.ok ⟨keys.nodes.length, keys.nodes ++ index.mNodes.drop keys.nodes.length⟩, st) := by
  have hSize := h.size
  rw [ResumptionStore.loadIndex, Proc.read_bind, h.index, Nat.mod_eq_of_lt hBuild]
  unfold ResumptionKeys.nodes at hSize ⊢
  cases hIndex : keys.index with
  | none => rfl
  | some nodes =>
    rw [hIndex, Option.getD_some] at hSize
    rw [Option.map_some, getRecord_index hSize, Option.getD_some]
    dsimp only
    rw [readRecord_index hBuild hSize]
    rfl

section

variable (h : StoredAs cacheSize st j)
include h

theorem StoredAs.loadState (node : ScopedNodeId) :
  Proc.Agrees (StoredAs cacheSize) (ResumptionStore.loadState node)
    (SecureChannel.loadState node) st j := by
  have hValue := congrFun h.state node
  unfold Proc.Agrees ResumptionStore.loadState SecureChannel.loadState
  rw [Proc.read_bind, Proc.read_bind, hValue]
  cases hState : j.contents.state node with
  | none => exact ⟨rfl, h⟩
  | some state =>
    have hFits := h.fits hState
    rw [Option.map_some, getRecord_state hFits, Proc.bind_ok (Proc.lift_apply _ _),
      readRecord_state hFits]
    exact ⟨rfl, h⟩

theorem StoredAs.deleteLink (resumptionId : ResumptionId) :
  Proc.Agrees (StoredAs cacheSize) (ResumptionStore.deleteLink resumptionId)
    (SecureChannel.deleteLink resumptionId) st j := by
  have hValue := congrFun h.link resumptionId
  unfold ResumptionStore.deleteLink ResumptionStore.deleteKey SecureChannel.deleteLink
  apply Proc.Agrees.read_bind
  apply Proc.Agrees.bind
  · exact .verify _ (by dsimp only; rw [hValue, Option.isSome_map]) h
  · intro _ st' j' hOk hRel
    apply Proc.Agrees.modify
    refine ⟨hRel.index, ?_, hRel.state, hRel.size, hRel.fits⟩
    funext other
    have hOther := congrFun hRel.link other
    simp only [apply, Function.update_apply, hOther, write_contents]
    split <;> rfl

theorem StoredAs.deleteState (node : ScopedNodeId) :
  Proc.Agrees (StoredAs cacheSize) (ResumptionStore.deleteState node)
    (SecureChannel.deleteState node) st j := by
  have hValue := congrFun h.state node
  unfold ResumptionStore.deleteState ResumptionStore.deleteKey SecureChannel.deleteState
  apply Proc.Agrees.read_bind
  apply Proc.Agrees.bind
  · exact .verify _ (by dsimp only; rw [hValue, Option.isSome_map]) h
  · intro _ st' j' hOk hRel
    apply Proc.Agrees.modify
    refine ⟨hRel.index, hRel.link, ?_, hRel.size, ?_⟩
    · funext other
      have hOther := congrFun hRel.state other
      simp only [apply, Function.update_apply, hOther, write_contents]
      split <;> rfl
    · intro other state hState
      simp only [apply, Function.update_apply, write_contents] at hState
      split at hState
      · cases hState
      · exact hRel.fits hState

theorem StoredAs.saveLink (resumptionId : ResumptionId) (node : ScopedNodeId) :
  Proc.Agrees (StoredAs cacheSize) (ResumptionStore.saveLink resumptionId node)
    (SecureChannel.saveLink resumptionId node) st j := by
  have hRun : ResumptionStore.saveLink resumptionId node st = (.ok (), { st with
      link := Function.update st.link resumptionId (some (serializeLink node).bytes) }) := by
    rw [ResumptionStore.saveLink, encodeInto_link, Proc.bind_ok (Proc.lift_apply _ _)]
    rfl
  refine ⟨by rw [hRun]; rfl, ?_⟩
  rw [hRun]
  refine ⟨h.index, ?_, h.state, h.size, h.fits⟩
  funext other
  have hOther := congrFun h.link other
  simp only [SecureChannel.saveLink, sync, Proc.modify_apply, apply,
    Function.update_apply, hOther, write_contents]
  split <;> rfl

theorem StoredAs.saveState (node : ScopedNodeId) (hFits : state.Fits) :
  Proc.Agrees (StoredAs cacheSize) (ResumptionStore.saveState node state)
    (SecureChannel.saveState node state) st j := by
  have hRun : ResumptionStore.saveState node state st = (.ok (), { st with
      state := Function.update st.state node (some (serializeState state).bytes) }) := by
    rw [ResumptionStore.saveState, encodeInto_state hFits, Proc.bind_ok (Proc.lift_apply _ _)]
    rfl
  refine ⟨by rw [hRun]; rfl, ?_⟩
  rw [hRun]
  refine ⟨h.index, h.link, ?_, h.size, ?_⟩
  · funext other
    have hOther := congrFun h.state other
    simp only [SecureChannel.saveState, sync, Proc.modify_apply, apply,
      Function.update_apply, hOther, write_contents]
    split <;> rfl
  · intro other old hState
    simp only [SecureChannel.saveState, sync, Proc.modify_apply, apply,
      Function.update_apply, write_contents] at hState
    split at hState
    · cases hState
      exact hFits
    · exact h.fits hState

theorem StoredAs.saveIndex (hBuild : maxIndexSize cacheSize < 2 ^ 16) {index : SessionIndex}
  (hSize : index.nodes.length ≤ cacheSize) :
  Proc.Agrees (StoredAs cacheSize) (ResumptionStore.saveIndex cacheSize index)
    (SecureChannel.saveIndex index.nodes) st j := by
  have hLength := (serializeIndex_length hSize).trans_lt hBuild
  have hRun : ResumptionStore.saveIndex cacheSize index st =
      (.ok (), { st with index := some (serializeIndex index.nodes).bytes }) := by
    rw [ResumptionStore.saveIndex, encodeInto_index hBuild hSize,
      Proc.bind_ok (Proc.lift_apply _ _), Proc.verify_bind, if_pos hLength]
    rfl
  refine ⟨by rw [hRun]; rfl, ?_⟩
  rw [hRun]
  exact ⟨rfl, h.link, h.state, hSize, h.fits⟩

end

end Primitives

section Calls

variable {node : ScopedNodeId} {state : SessionState}

section

variable (h : StoredAs cacheSize st j)
include h

theorem Encodes.loadIndex_keys :
  SecureChannel.loadIndex cacheSize j = (.ok j.contents.nodes, j) := by
  have hSize : (j.contents.index.getD []).length ≤ cacheSize := h.size
  simp [SecureChannel.loadIndex, hSize, ResumptionKeys.nodes]

theorem StoredAs.delete (hBuild : maxIndexSize cacheSize < 2 ^ 16) (node : ScopedNodeId) :
  Proc.Agrees (StoredAs cacheSize) (ResumptionStore.delete cacheSize node)
    (SecureChannel.delete cacheSize node) st j := by
  unfold ResumptionStore.delete SecureChannel.delete
  apply bind_ok (Encodes.loadIndex h hBuild _) (Encodes.loadIndex_keys h)
  obtain ⟨rest', hRemoved⟩ := removeLoop_nodes node j.contents.nodes
    ((declared cacheSize).mNodes.drop j.contents.nodes.length)
  -- what follows the removal of the link
  have hEnd : ∀ st₁ j₁, StoredAs cacheSize st₁ j₁ → Proc.Agrees (StoredAs cacheSize)
      (do
        let _ ← Proc.attempt (ResumptionStore.deleteState node)
        if decide (node ∈ j.contents.nodes) = true then do
          let _ ← Proc.attempt (ResumptionStore.saveIndex cacheSize
            ⟨(j.contents.nodes.erase node).length, j.contents.nodes.erase node ++ rest'⟩)
          pure ()
        else pure ())
      (do
        let _ ← Proc.attempt (SecureChannel.deleteState node)
        if node ∈ j.contents.nodes then do
          let _ ← Proc.attempt (SecureChannel.saveIndex (j.contents.nodes.erase node))
          pure ()
        else pure ()) st₁ j₁ := by
    intro st₁ j₁ h₁
    apply bind (attempt (h₁.deleteState node))
    intro _ st₂ j₂ _ h₂
    by_cases hMem : node ∈ j.contents.nodes
    · rw [if_pos (decide_eq_true hMem), if_pos hMem]
      have hSize : (nodes ⟨(j.contents.nodes.erase node).length,
          j.contents.nodes.erase node ++ rest'⟩).length ≤ cacheSize := by
        rw [nodes_append]
        exact length_erase_le.trans h.size
      have hSave := h₂.saveIndex hBuild hSize
      rw [nodes_append] at hSave
      apply bind (attempt hSave)
      intro _ st₃ j₃ _ h₃
      exact .pure () h₃
    · rw [if_neg (by simpa using hMem), if_neg hMem]
      exact .pure () h₂
  apply bind (attempt (h.loadState node))
  intro loaded st₁ j₁ _ h₁
  dsimp only
  rw [hRemoved]
  cases loaded with
  | error e => exact hEnd st₁ j₁ h₁
  | ok state =>
    apply bind (attempt (h₁.deleteLink state.resumptionId))
    intro _ st₂ j₂ _ h₂
    exact hEnd st₂ j₂ h₂

theorem StoredAs.removeRecord (node : ScopedNodeId) :
    Proc.Agrees (StoredAs cacheSize)
      (do
        let state ← ResumptionStore.loadState node
        ResumptionStore.deleteLink state.resumptionId
        ResumptionStore.deleteState node)
      (do
        let state ← SecureChannel.loadState node
        SecureChannel.deleteLink state.resumptionId
        SecureChannel.deleteState node) st j := by
  apply bind (h.loadState node)
  intro state st₁ j₁ _ h₁
  apply bind (h₁.deleteLink state.resumptionId)
  intro _ st₂ j₂ _ h₂
  exact h₂.deleteState node

end

theorem StoredAs.deleteAllLoop (fabricIndex : UInt8) (initialSize : Nat)
  (rest kept : List ScopedNodeId) (found : Nat) (stickyErr : Option ChipError)
  (tail : List ScopedNodeId) (h : StoredAs cacheSize st j)
  (hSize : kept.length + found + rest.length = initialSize) :
  ∃ kept' found' stickyErr' tail' st' j',
    ResumptionStore.deleteAllLoop fabricIndex initialSize rest.length found stickyErr
        (kept ++ rest ++ tail) st =
      (.ok (kept ++ kept' ++ tail', found + found', stickyErr <|> stickyErr'), st') ∧
    SecureChannel.deleteAllLoop fabricIndex rest j = (.ok (kept', found', stickyErr'), j') ∧
    StoredAs cacheSize st' j' ∧ kept'.length + found' = rest.length := by
  induction rest generalizing st j kept found stickyErr tail with
  | nil => exact ⟨[], 0, none, tail, st, j, by simp [ResumptionStore.deleteAllLoop], rfl, h, rfl⟩
  | cons node rest ih =>
    rw [length_cons] at hSize
    have hTurn : initialSize - (rest.length + 1) = kept.length + found := by omega
    have hNode : (kept ++ node :: rest ++ tail).getD kept.length undefinedNode = node := by simp
    have hRemain : initialSize - (kept.length + found) - 1 = rest.length := by omega
    rw [length_cons, ResumptionStore.deleteAllLoop, SecureChannel.deleteAllLoop]
    simp only [hTurn, Nat.add_sub_cancel_right, hNode, hRemain]
    by_cases hOther : node.mFabricIndex ≠ fabricIndex
    · obtain ⟨kept', found', stickyErr', tail', st', j', hLoop, hKeys, hRel, hLength⟩ :=
        ih (kept ++ [node]) found stickyErr tail h (by simp; omega)
      rw [if_pos hOther, if_pos hOther, Proc.bind_ok hKeys]
      refine ⟨node :: kept', found', stickyErr', tail', st', j', ?_, rfl, hRel, ?_⟩
      · simpa using hLoop
      · rw [length_cons]
        omega
    · rw [if_neg hOther, if_neg hOther, Proc.attempt_bind, Proc.attempt_bind]
      obtain ⟨hResult, hRel₁⟩ := h.removeRecord node
      rw [hResult]
      cases hRemoved : ((do
          let state ← SecureChannel.loadState node
          SecureChannel.deleteLink state.resumptionId
          SecureChannel.deleteState node) j).1 with
      | ok _ =>
        obtain ⟨tail₁, hMove⟩ := moveDown_append kept node rest tail
        obtain ⟨kept', found', stickyErr', tail', st', j', hLoop, hKeys, hRel, hLength⟩ :=
          ih kept (found + 1) stickyErr tail₁ hRel₁ (by omega)
        dsimp only
        rw [Proc.bind_ok hKeys, show kept ++ node :: rest ++ tail = kept ++ node :: (rest ++ tail)
          by simp, hMove, hLoop]
        refine ⟨kept', found' + 1, stickyErr', tail', st', j', ?_, rfl, hRel, ?_⟩
        · rw [Nat.add_assoc, Nat.add_comm 1]
        · omega
      | error err =>
        obtain ⟨kept', found', stickyErr', tail', st', j', hLoop, hKeys, hRel, hLength⟩ :=
          ih (kept ++ [node]) found (stickyErr <|> some err) tail hRel₁ (by simp; omega)
        dsimp only
        rw [Proc.bind_ok hKeys]
        refine ⟨node :: kept', found', some err, tail', st', j', ?_, rfl, hRel, ?_⟩
        · cases stickyErr <;> simpa using hLoop
        · rw [length_cons]
          omega

section

variable (h : StoredAs cacheSize st j) (hBuild : maxIndexSize cacheSize < 2 ^ 16)
include h hBuild

theorem StoredAs.deleteAll (fabricIndex : UInt8) :
  Proc.Agrees (StoredAs cacheSize) (ResumptionStore.deleteAll cacheSize fabricIndex)
    (SecureChannel.deleteAll cacheSize fabricIndex) st j := by
  unfold ResumptionStore.deleteAll SecureChannel.deleteAll
  apply bind_ok (Encodes.loadIndex h hBuild _) (Encodes.loadIndex_keys h)
  obtain ⟨kept, found, stickyErr, tail', st', j', hLoop, hKeys, hRel, hLength⟩ :=
    h.deleteAllLoop fabricIndex j.contents.nodes.length j.contents.nodes [] 0 none
      ((declared cacheSize).mNodes.drop j.contents.nodes.length) (by simp)
  rw [nil_append, Nat.zero_add] at hLoop
  apply bind_ok hLoop hKeys
  have hSize : j.contents.nodes.length - found = kept.length := by omega
  have hFits : kept.length ≤ cacheSize := by
    have hNodes := h.size
    omega
  dsimp only
  rw [nil_append, hSize]
  by_cases hFound : found > 0
  · simp only [hFound, if_true]
    have hNodes := nodes_append kept tail'
    obtain ⟨hOk, hSaved⟩ := hRel.saveIndex hBuild (hNodes.symm ▸ hFits)
    rw [hNodes] at hOk hSaved
    have hAttempt : Proc.attempt (ResumptionStore.saveIndex cacheSize ⟨kept.length, kept ++ tail'⟩) st' =
        (.ok (.ok ()), (ResumptionStore.saveIndex cacheSize ⟨kept.length, kept ++ tail'⟩ st').2) := by
      rw [Proc.attempt_apply, hOk]
      rfl
    apply bind_ok hAttempt
      (show SecureChannel.saveIndex kept j' = (.ok (), (SecureChannel.saveIndex kept j').2) from rfl)
    cases stickyErr with
    | none => exact .pure () hSaved
    | some err => exact .fail err hSaved
  · simp only [hFound, if_false]
    cases stickyErr with
    | none => exact .pure () hRel
    | some err => exact .fail err hRel

theorem StoredAs.save (hPos : 0 < cacheSize) (hIndexed : Indexed cacheSize j.contents)
  (node : ScopedNodeId) (hFits : state.Fits) :
  Proc.Agrees (StoredAs cacheSize) (ResumptionStore.save cacheSize node state)
    (SecureChannel.save cacheSize node state) st j := by
  unfold ResumptionStore.save SecureChannel.save
  apply bind_ok (Encodes.loadIndex h hBuild _) (Encodes.loadIndex_keys h)
  rw [SessionIndex.nodes_append]
  by_cases hMem : node ∈ j.contents.nodes
  · rw [if_pos hMem, if_pos hMem]
    have hEnd : ∀ st₁ j₁, StoredAs cacheSize st₁ j₁ → Proc.Agrees (StoredAs cacheSize)
        (do
          ResumptionStore.saveState node state
          ResumptionStore.saveLink state.resumptionId node)
        (do
          SecureChannel.saveState node state
          SecureChannel.saveLink state.resumptionId node) st₁ j₁ := by
      intro st₁ j₁ h₁
      apply bind (h₁.saveState node hFits)
      intro _ st₂ j₂ _ h₂
      exact h₂.saveLink state.resumptionId node
    apply bind (attempt (h.loadState node))
    intro loaded st₁ j₁ _ h₁
    cases loaded with
    | error e => exact hEnd st₁ j₁ h₁
    | ok old =>
      apply bind (attempt (h₁.deleteLink old.resumptionId))
      intro _ st₂ j₂ _ h₂
      exact hEnd st₂ j₂ h₂
  · rw [if_neg hMem, if_neg hMem]
    -- what follows once there is room in the array
    have hEnd : ∀ nodes rest st₁ j₁, StoredAs cacheSize st₁ j₁ → nodes.length < cacheSize →
        nodes.length + rest.length = cacheSize → Proc.Agrees (StoredAs cacheSize)
          (do
            ResumptionStore.saveState node state
            ResumptionStore.saveLink state.resumptionId node
            ResumptionStore.saveIndex cacheSize
              ⟨nodes.length + 1, (nodes ++ rest).set nodes.length node⟩)
          (do
            SecureChannel.saveState node state
            SecureChannel.saveLink state.resumptionId node
            SecureChannel.saveIndex (nodes ++ [node])) st₁ j₁ := by
      intro nodes rest st₁ j₁ h₁ hRoom hSize
      cases rest with
      | nil =>
        rw [length_nil] at hSize
        omega
      | cons x rest =>
        apply bind (h₁.saveState node hFits)
        intro _ st₂ j₂ _ h₂
        apply bind (h₂.saveLink state.resumptionId node)
        intro _ st₃ j₃ _ h₃
        have hNodes := SessionIndex.nodes_append (nodes ++ [node]) rest
        rw [length_append, length_singleton, append_assoc, singleton_append]
          at hNodes
        rw [set_append_length]
        have hLe : (SessionIndex.nodes ⟨nodes.length + 1, nodes ++ node :: rest⟩).length ≤
            cacheSize := by
          rw [hNodes, length_append]
          exact hRoom
        have hSave := h₃.saveIndex hBuild hLe
        rw [hNodes] at hSave
        exact hSave
    have hSize := h.size
    cases hNodes : j.contents.nodes with
    | nil =>
      have hNotFull : (0 : Nat) ≠ cacheSize := hPos.ne
      simp only [length_nil, if_neg hNotFull]
      exact hEnd [] _ st j h hPos (by simp [SessionIndex.declared])
    | cons first others =>
      rw [hNodes] at hSize
      by_cases hFull : (first :: others).length = cacheSize
      · simp only [if_pos hFull]
        obtain ⟨hResult, hRel⟩ := h.delete hBuild first
        obtain ⟨j₁, hKeys, hLogs⟩ := delete_logs hIndexed first
        have hNodes₁ : j₁.contents.nodes = others := by
          rw [hLogs.contents, replay_deleteWrites_nodes (by rw [hNodes]; exact mem_cons_self),
            hNodes, erase_cons_head]
        rw [hKeys] at hResult hRel
        have hRun : ResumptionStore.delete cacheSize first st =
            (.ok (), (ResumptionStore.delete cacheSize first st).2) := Prod.ext hResult rfl
        have hFirst : SessionIndex.node ⟨(first :: others).length, first :: others ++
            (SessionIndex.declared cacheSize).mNodes.drop (first :: others).length⟩ 0 = first := rfl
        rw [hFirst]
        apply bind_ok hRun hKeys
        apply bind_ok (Encodes.loadIndex hRel hBuild _) (Encodes.loadIndex_keys hRel)
        rw [hNodes₁]
        rw [length_cons] at hFull
        exact hEnd others _ _ j₁ hRel (by omega) (by simp [SessionIndex.declared]; omega)
      · simp only [if_neg hFull]
        exact hEnd (first :: others) _ st j h (by omega) (by simp [SessionIndex.declared]; simp at hSize; omega)

end

end Calls

end Chip.SecureChannel
