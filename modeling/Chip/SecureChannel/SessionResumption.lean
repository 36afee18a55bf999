import Chip.Core.Error
import Chip.Data.Journal
import Chip.Data.Proc

/-! The stored assets of CASE session resumption (`DefaultSessionResumptionStorage.cpp`
over the keys of `SimpleSessionResumptionStorage.cpp`). A record is spread over a state
key, a link key and the entry of its node in a shared index. Reads and writes of keys
succeed; reading or deleting a key that is not there reports that. -/
namespace Chip.SecureChannel

structure ScopedNodeId where
  mNodeId : UInt64
  mFabricIndex : UInt8
  deriving DecidableEq

/-- `kResumptionIdSize` bytes. -/
abbrev ResumptionId := Vector UInt8 16

structure SessionState where
  resumptionId : ResumptionId
  sharedSecret : List UInt8
  peerCATs : List UInt32

/-- The keys of session resumption: `g/sri`, `g/s/<resumption id>` and
`f/<fabric>/s/<node>`. -/
structure ResumptionKeys where
  index : Option (List ScopedNodeId)
  link : ResumptionId → Option ScopedNodeId
  state : ScopedNodeId → Option SessionState

def ResumptionKeys.empty : ResumptionKeys := ⟨none, fun _ => none, fun _ => none⟩

inductive ResumptionWrite where
  | saveIndex (index : List ScopedNodeId)
  | saveLink (resumptionId : ResumptionId) (node : ScopedNodeId)
  | deleteLink (resumptionId : ResumptionId)
  | saveState (node : ScopedNodeId) (state : SessionState)
  | deleteState (node : ScopedNodeId)

def ResumptionWrite.apply : ResumptionWrite → ResumptionKeys → ResumptionKeys
  | .saveIndex index, keys => { keys with index := some index }
  | .saveLink resumptionId node, keys =>
    { keys with link := Function.update keys.link resumptionId (some node) }
  | .deleteLink resumptionId, keys =>
    { keys with link := Function.update keys.link resumptionId none }
  | .saveState node state, keys => { keys with state := Function.update keys.state node (some state) }
  | .deleteState node, keys => { keys with state := Function.update keys.state node none }

abbrev ResumptionM := Proc ChipError (Journal ResumptionKeys ResumptionWrite)

def sync (w : ResumptionWrite) : ResumptionM Unit := Proc.modify (Journal.write ResumptionWrite.apply w)

-- `CHIP_CONFIG_CASE_SESSION_RESUME_CACHE_SIZE`, which the build chooses
variable (cacheSize : Nat)

/-- `LoadIndex`. A missing index is an empty one. -/
def loadIndex : ResumptionM (List ScopedNodeId) := do
  let j ← Proc.read
  let index := j.contents.index.getD []
  Proc.verify (index.length ≤ cacheSize) .noMemory
  pure index

def saveIndex (index : List ScopedNodeId) : ResumptionM Unit := sync (.saveIndex index)

def saveLink (resumptionId : ResumptionId) (node : ScopedNodeId) : ResumptionM Unit :=
  sync (.saveLink resumptionId node)

def loadLink (resumptionId : ResumptionId) : ResumptionM ScopedNodeId := do
  let j ← Proc.read
  match j.contents.link resumptionId with
  | some node => pure node
  | none => Proc.fail .persistedStorageValueNotFound

def deleteLink (resumptionId : ResumptionId) : ResumptionM Unit := do
  let j ← Proc.read
  Proc.verify (j.contents.link resumptionId).isSome .persistedStorageValueNotFound
  sync (.deleteLink resumptionId)

def saveState (node : ScopedNodeId) (state : SessionState) : ResumptionM Unit :=
  sync (.saveState node state)

def loadState (node : ScopedNodeId) : ResumptionM SessionState := do
  let j ← Proc.read
  match j.contents.state node with
  | some state => pure state
  | none => Proc.fail .persistedStorageValueNotFound

def deleteState (node : ScopedNodeId) : ResumptionM Unit := do
  let j ← Proc.read
  Proc.verify (j.contents.state node).isSome .persistedStorageValueNotFound
  sync (.deleteState node)

def findByScopedNodeId (node : ScopedNodeId) : ResumptionM SessionState := loadState node

def findByResumptionId (resumptionId : ResumptionId) : ResumptionM (ScopedNodeId × SessionState) := do
  let node ← loadLink resumptionId
  let state ← findByScopedNodeId node
  Proc.verify (state.resumptionId = resumptionId) .keyNotFound
  pure (node, state)

/-- `Delete`. The removal of the link and of the state is best effort. -/
def delete (node : ScopedNodeId) : ResumptionM Unit := do
  let index ← loadIndex cacheSize
  match ← Proc.attempt (loadState node) with
  | .ok state => let _ ← Proc.attempt (deleteLink state.resumptionId)
  | .error _ => pure ()
  let _ ← Proc.attempt (deleteState node)
  if node ∈ index then
    let _ ← Proc.attempt (saveIndex (index.erase node))

def save (node : ScopedNodeId) (state : SessionState) : ResumptionM Unit := do
  let index ← loadIndex cacheSize
  if node ∈ index then
    -- The node is in the index already and is saved in place.
    match ← Proc.attempt (loadState node) with
    | .ok old => let _ ← Proc.attempt (deleteLink old.resumptionId)
    | .error _ => pure ()
    saveState node state
    saveLink state.resumptionId node
  else
    let index ← match index with
      | first :: _ =>
        if index.length = cacheSize then do
          delete cacheSize first
          loadIndex cacheSize
        else pure index
      | [] => pure index
    saveState node state
    saveLink state.resumptionId node
    saveIndex (index ++ [node])

/-- The loop of `DeleteAll` over the nodes from one position on. The result is the
nodes that stay in the index, how many were removed, and the first error. -/
def deleteAllLoop (fabricIndex : UInt8) :
  List ScopedNodeId → ResumptionM (List ScopedNodeId × Nat × Option ChipError)
  | [] => pure ([], 0, none)
  | node :: rest => do
      if node.mFabricIndex ≠ fabricIndex then
        let (kept, found, stickyErr) ← deleteAllLoop fabricIndex rest
        pure (node :: kept, found, stickyErr)
      else
        let removed ← Proc.attempt do
          let state ← loadState node
          deleteLink state.resumptionId
          deleteState node
        let (kept, found, stickyErr) ← deleteAllLoop fabricIndex rest
        match removed with
        | .ok () => pure (kept, found + 1, stickyErr)
        | .error err => pure (node :: kept, found, some err)

def deleteAll (fabricIndex : UInt8) : ResumptionM Unit := do
  let index ← loadIndex cacheSize
  let (kept, found, stickyErr) ← deleteAllLoop fabricIndex index
  if found > 0 then saveIndex kept
  match stickyErr with
  | none => pure ()
  | some err => Proc.fail err

inductive ResumptionCall where
  | save (node : ScopedNodeId) (state : SessionState)
  | delete (node : ScopedNodeId)
  | deleteAll (fabricIndex : UInt8)

def ResumptionCall.exec : ResumptionCall → ResumptionM Unit
  | .save node state => SecureChannel.save cacheSize node state
  | .delete node => SecureChannel.delete cacheSize node
  | .deleteAll fabricIndex => SecureChannel.deleteAll cacheSize fabricIndex

/-- A call that runs to its end, or that is cut short by a power loss after some of
its writes. -/
structure ResumptionStep where
  call : ResumptionCall
  powerLossAfter : Option Nat

def ResumptionStep.next (step : ResumptionStep) (keys : ResumptionKeys) : ResumptionKeys :=
  let j := (step.call.exec cacheSize (Journal.start keys)).2
  match step.powerLossAfter with
  | none => j.contents
  | some k => Journal.replay ResumptionWrite.apply (j.journal.take k) keys

def runSteps (steps : List ResumptionStep) (keys : ResumptionKeys) : ResumptionKeys :=
  steps.foldl (fun keys step => step.next cacheSize keys) keys

end Chip.SecureChannel
