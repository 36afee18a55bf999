import Chip.SecureChannel.ResumptionRecords
import Chip.SecureChannel.ResumptionLifetime

/-! Session resumption over the bytes that are stored, with the loops of
`DefaultSessionResumptionStorage.cpp` over the array of the index. Storage operations succeed. The
keys that are read from the bytes go through the calls of `SessionResumption`. -/
namespace Chip.SecureChannel

open TLV Journal
open App (maxScopedNodeIdSize)

/-- A `ScopedNodeId` as its constructor leaves it. -/
def undefinedNode : ScopedNodeId := ⟨0, 0⟩

/-- `SessionIndex`: an array of nodes, of which the first `mSize` are in use. -/
structure SessionIndex where
  mSize : Nat
  mNodes : List ScopedNodeId

namespace SessionIndex

def nodes (index : SessionIndex) : List ScopedNodeId := index.mNodes.take index.mSize

def node (index : SessionIndex) (i : Nat) : ScopedNodeId := index.mNodes.getD i undefinedNode

/-- The array that a call declares, before the index is loaded into it. -/
def declared (cacheSize : Nat) : SessionIndex := ⟨0, List.replicate cacheSize undefinedNode⟩

/-- The loop of `Delete` over the index. It stops after `mSize` turns at the latest. -/
def removeLoop (node : ScopedNodeId) : Nat → Nat → Bool → SessionIndex → Bool × SessionIndex
  | 0, _, found, index => (found, index)
  | turns + 1, i, found, index =>
    if i < index.mSize then
      if found then
        removeLoop node turns (i + 1) true
          { index with mNodes := index.mNodes.set i (index.node (i + 1)) }
      else if index.node i = node then
        removeLoop node turns (i + 1) true
          { mSize := index.mSize - 1
            mNodes := if i + 1 < index.mSize then index.mNodes.set i (index.node (i + 1))
              else index.mNodes }
      else removeLoop node turns (i + 1) false index
    else (found, index)

/-- The `memmove` of `DeleteAll`, of so many nodes to the place before them. -/
def moveDown (mNodes : List ScopedNodeId) (cur remain : Nat) : List ScopedNodeId :=
  if remain = 0 then mNodes
  else mNodes.take cur ++ (mNodes.drop (cur + 1)).take remain ++ mNodes.drop (cur + remain)

end SessionIndex

/-- The keys of session resumption with the bytes under them. -/
structure ResumptionStore where
  index : Option Bytes
  link : ResumptionId → Option Bytes
  state : ScopedNodeId → Option Bytes

abbrev StoreM := Proc ChipError ResumptionStore

namespace ResumptionStore

def empty : ResumptionStore := ⟨none, fun _ => none, fun _ => none⟩

/-- `SyncDeleteKeyValue` of a key that has this value. -/
def deleteKey (value : ResumptionStore → Option Bytes) (clear : ResumptionStore → ResumptionStore) :
  StoreM Unit := do
  let st ← Proc.read
  Proc.verify (value st).isSome .persistedStorageValueNotFound
  Proc.modify clear

variable (cacheSize : Nat)

/-- `LoadIndex`, into an array. -/
def loadIndex (index : SessionIndex) : StoreM SessionIndex := do
  let st ← Proc.read
  match getRecord (maxIndexSize cacheSize % 2 ^ 16) st.index with
  | .error _ => pure { index with mSize := 0 }
  | .ok bytes => do
      let nodes ← Proc.lift (readRecord (deserializeIndex cacheSize) bytes)
      pure ⟨nodes.length, nodes ++ index.mNodes.drop nodes.length⟩

def saveIndex (index : SessionIndex) : StoreM Unit := do
  let bytes ← Proc.lift (encodeInto (maxIndexSize cacheSize) (serializeIndex index.nodes))
  Proc.verify (bytes.length < 2 ^ 16) .bufferTooSmall
  Proc.modify fun st => { st with index := some bytes }

def saveLink (resumptionId : ResumptionId) (node : ScopedNodeId) : StoreM Unit := do
  let bytes ← Proc.lift (encodeInto maxScopedNodeIdSize (serializeLink node))
  Proc.modify fun st => { st with link := Function.update st.link resumptionId (some bytes) }

def loadLink (resumptionId : ResumptionId) : StoreM ScopedNodeId := do
  let st ← Proc.read
  let bytes ← Proc.lift (getRecord maxScopedNodeIdSize (st.link resumptionId))
  Proc.lift (readRecord deserializeLink bytes)

def deleteLink (resumptionId : ResumptionId) : StoreM Unit :=
  deleteKey (·.link resumptionId) fun st =>
    { st with link := Function.update st.link resumptionId none }

def saveState (node : ScopedNodeId) (state : SessionState) : StoreM Unit := do
  let bytes ← Proc.lift (encodeInto maxStateSize (serializeState state))
  Proc.modify fun st => { st with state := Function.update st.state node (some bytes) }

def loadState (node : ScopedNodeId) : StoreM SessionState := do
  let st ← Proc.read
  let bytes ← Proc.lift (getRecord maxStateSize (st.state node))
  Proc.lift (readRecord deserializeState bytes)

def deleteState (node : ScopedNodeId) : StoreM Unit :=
  deleteKey (·.state node) fun st => { st with state := Function.update st.state node none }

def findByScopedNodeId (node : ScopedNodeId) : StoreM SessionState := loadState node

def findByResumptionId (resumptionId : ResumptionId) : StoreM (ScopedNodeId × SessionState) := do
  let node ← loadLink resumptionId
  let state ← findByScopedNodeId node
  Proc.verify (state.resumptionId = resumptionId) .keyNotFound
  pure (node, state)

def delete (node : ScopedNodeId) : StoreM Unit := do
  let index ← loadIndex cacheSize (.declared cacheSize)
  match ← Proc.attempt (loadState node) with
  | .ok state => let _ ← Proc.attempt (deleteLink state.resumptionId)
  | .error _ => pure ()
  let _ ← Proc.attempt (deleteState node)
  let removed := index.removeLoop node index.mSize 0 false
  if removed.1 then
    let _ ← Proc.attempt (saveIndex cacheSize removed.2)

def save (node : ScopedNodeId) (state : SessionState) : StoreM Unit := do
  let index ← loadIndex cacheSize (.declared cacheSize)
  if node ∈ index.nodes then
    match ← Proc.attempt (loadState node) with
    | .ok old => let _ ← Proc.attempt (deleteLink old.resumptionId)
    | .error _ => pure ()
    saveState node state
    saveLink state.resumptionId node
  else
    let index ← if index.mSize = cacheSize then do
        delete cacheSize (index.node 0)
        loadIndex cacheSize index
      else pure index
    saveState node state
    saveLink state.resumptionId node
    saveIndex cacheSize ⟨index.mSize + 1, index.mNodes.set index.mSize node⟩

/-- The loop of `DeleteAll`, with so many turns to go: the array after it, how many nodes were
removed, and the first error. -/
def deleteAllLoop (fabricIndex : UInt8) (initialSize : Nat) :
  Nat → Nat → Option ChipError → List ScopedNodeId →
    StoreM (List ScopedNodeId × Nat × Option ChipError)
  | 0, found, stickyErr, mNodes => pure (mNodes, found, stickyErr)
  | turns + 1, found, stickyErr, mNodes => do
      let i := initialSize - (turns + 1)
      let cur := i - found
      let remain := initialSize - i
      let node := mNodes.getD cur undefinedNode
      if node.mFabricIndex ≠ fabricIndex then
        deleteAllLoop fabricIndex initialSize turns found stickyErr mNodes
      else
        let removed ← Proc.attempt do
          let state ← loadState node
          deleteLink state.resumptionId
          deleteState node
        match removed with
        | .ok () =>
          deleteAllLoop fabricIndex initialSize turns (found + 1) stickyErr
            (SessionIndex.moveDown mNodes cur (remain - 1))
        | .error err =>
          deleteAllLoop fabricIndex initialSize turns found (stickyErr <|> some err) mNodes

def deleteAll (fabricIndex : UInt8) : StoreM Unit := do
  let index ← loadIndex cacheSize (.declared cacheSize)
  let (mNodes, found, stickyErr) ← deleteAllLoop fabricIndex index.mSize index.mSize 0 none index.mNodes
  let saved ← if found > 0 then Proc.attempt (saveIndex cacheSize ⟨index.mSize - found, mNodes⟩)
    else pure (.ok ())
  match stickyErr, saved with
  | some err, _ => Proc.fail err
  | none, .error err => Proc.fail err
  | none, .ok () => pure ()

end ResumptionStore

def ResumptionCall.run (cacheSize : Nat) : ResumptionCall → StoreM Unit
  | .save node state => ResumptionStore.save cacheSize node state
  | .delete node => ResumptionStore.delete cacheSize node
  | .deleteAll fabricIndex => ResumptionStore.deleteAll cacheSize fabricIndex

section Loops

variable {node x : ScopedNodeId} {a b rest : List ScopedNodeId}

theorem set_append_length (a : List ScopedNodeId) (x y : ScopedNodeId) (rest : List ScopedNodeId) :
  (a ++ x :: rest).set a.length y = a ++ y :: rest := by
  simp

theorem removeLoop_found (node : ScopedNodeId) (b : List ScopedNodeId) :
  ∀ (turns : Nat) (a : List ScopedNodeId) (x : ScopedNodeId) (rest : List ScopedNodeId),
    b.length ≤ turns →
    ∃ rest', SessionIndex.removeLoop node turns a.length true
        ⟨a.length + b.length, a ++ x :: (b ++ rest)⟩ =
      (true, ⟨a.length + b.length, a ++ b ++ rest'⟩) := by
  induction b with
  | nil =>
    intro turns a x rest _
    refine ⟨x :: rest, ?_⟩
    cases turns with
    | zero => simp [SessionIndex.removeLoop]
    | succ turns => simp [SessionIndex.removeLoop]
  | cons y b ih =>
    intro turns a x rest hTurns
    obtain ⟨turns, rfl⟩ : ∃ k, turns = k + 1 := ⟨turns - 1, by simp at hTurns; omega⟩
    obtain ⟨rest', hLoop⟩ := ih turns (a ++ [y]) y rest (Nat.le_of_succ_le_succ hTurns)
    have hNext : (a ++ x :: (y :: b ++ rest)).getD (a.length + 1) undefinedNode = y := by
      simp
    have hSet := set_append_length a x y (y :: b ++ rest)
    have hSize : (a ++ [y]).length + b.length = a.length + (y :: b).length := by
      simp
      omega
    refine ⟨rest', ?_⟩
    rw [SessionIndex.removeLoop, if_pos (by simp), if_pos rfl, SessionIndex.node, hNext, hSet]
    rw [List.append_assoc, List.singleton_append, hSize, List.length_append,
      List.length_singleton] at hLoop
    simpa using hLoop

theorem removeLoop_eq (node : ScopedNodeId) (b : List ScopedNodeId) :
  ∀ (turns : Nat) (a : List ScopedNodeId) (rest : List ScopedNodeId), node ∉ a →
    b.length ≤ turns →
    ∃ rest', SessionIndex.removeLoop node turns a.length false
        ⟨a.length + b.length, a ++ b ++ rest⟩ =
      (decide (node ∈ b), ⟨a.length + (b.erase node).length, a ++ b.erase node ++ rest'⟩) := by
  induction b with
  | nil =>
    intro turns a rest _ _
    refine ⟨rest, ?_⟩
    cases turns with
    | zero => simp [SessionIndex.removeLoop]
    | succ turns => simp [SessionIndex.removeLoop]
  | cons y b ih =>
    intro turns a rest hBefore hTurns
    obtain ⟨turns, rfl⟩ : ∃ k, turns = k + 1 := ⟨turns - 1, by simp at hTurns; omega⟩
    have hHere : (a ++ y :: b ++ rest).getD a.length undefinedNode = y := by
      simp
    rw [SessionIndex.removeLoop, if_pos (by simp), if_neg Bool.false_ne_true, SessionIndex.node,
      hHere]
    by_cases hNode : y = node
    · subst hNode
      rw [if_pos rfl]
      cases b with
      | nil =>
        refine ⟨y :: rest, ?_⟩
        cases turns <;> simp [SessionIndex.removeLoop]
      | cons z b =>
        -- the next node is moved to the place of the one that goes
        obtain ⟨rest', hLoop⟩ := removeLoop_found y b turns (a ++ [z]) z rest
          (by simp at hTurns; omega)
        refine ⟨rest', ?_⟩
        have hNext : (a ++ y :: z :: b ++ rest).getD (a.length + 1) undefinedNode = z := by
          simp
        have hSet : (a ++ y :: z :: b ++ rest).set a.length z = a ++ [z] ++ z :: (b ++ rest) := by
          simp
        have hSize : a.length + (y :: z :: b).length - 1 = (a ++ [z]).length + b.length := by
          simp
          omega
        rw [if_pos (by simp), SessionIndex.node, hNext, hSet, hSize,
          show a.length + 1 = (a ++ [z]).length by simp, hLoop]
        simp
        omega
    · rw [if_neg hNode]
      obtain ⟨rest', hLoop⟩ := ih turns (a ++ [y]) rest
        (by simpa [hBefore] using fun h : node = y => hNode h.symm)
        (Nat.le_of_succ_le_succ hTurns)
      refine ⟨rest', ?_⟩
      have hErase : (y :: b).erase node = y :: b.erase node := List.erase_cons_tail (by simpa using hNode)
      have hMem : decide (node ∈ y :: b) = decide (node ∈ b) := by
        simp [Ne.symm hNode]
      rw [hErase, hMem]
      simpa [Nat.add_assoc, Nat.add_comm 1] using hLoop

theorem removeLoop_nodes (node : ScopedNodeId) (nodes rest : List ScopedNodeId) :
  ∃ rest', SessionIndex.removeLoop node nodes.length 0 false ⟨nodes.length, nodes ++ rest⟩ =
    (decide (node ∈ nodes), ⟨(nodes.erase node).length, nodes.erase node ++ rest'⟩) := by
  obtain ⟨rest', hLoop⟩ := removeLoop_eq node nodes nodes.length [] rest List.not_mem_nil le_rfl
  refine ⟨rest', ?_⟩
  simpa using hLoop

@[simp] theorem SessionIndex.nodes_append (nodes rest : List ScopedNodeId) :
  SessionIndex.nodes ⟨nodes.length, nodes ++ rest⟩ = nodes := by
  simp [SessionIndex.nodes]

theorem moveDown_append (kept : List ScopedNodeId) (node : ScopedNodeId)
  (rest tail : List ScopedNodeId) :
  ∃ tail', SessionIndex.moveDown (kept ++ node :: (rest ++ tail)) kept.length rest.length =
    kept ++ rest ++ tail' := by
  cases rest with
  | nil => exact ⟨node :: tail, by simp [SessionIndex.moveDown]⟩
  | cons next rest =>
    refine ⟨(kept ++ node :: (next :: rest ++ tail)).drop (kept.length + (next :: rest).length), ?_⟩
    rw [SessionIndex.moveDown, if_neg (by simp), List.take_left, List.drop_append,
      List.drop_eq_nil_of_le (Nat.le_succ _), Nat.add_sub_cancel_left, List.drop_one, List.tail_cons,
      List.nil_append, List.take_left]

end Loops

end Chip.SecureChannel
