import Chip.Data.CompactSlots
import Chip.Transport.GroupPeerTable

/-! Taking peers and fabrics out of a `GroupPeerTable` (`GroupPeerMessageCounter.cpp`). The
searches stop at the first empty place, so what is taken out is filled up from the end. -/
namespace Chip.Transport

open CompactSlots

/-- The sizes of the arrays, which the build chooses. The counts of the peers are `uint8_t`. -/
structure PeerLimits where
  fabrics : Nat
  dataPeers : Nat
  controlPeers : Nat
  dataPeers_pos : 0 < dataPeers
  controlPeers_pos : 0 < controlPeers
  dataPeers_lt : dataPeers < 256
  controlPeers_lt : controlPeers < 256

def PeerLimits.peers (limits : PeerLimits) (isControl : Bool) : Nat :=
  if isControl then limits.controlPeers else limits.dataPeers

variable {windowSize : Nat}

def GroupSender.empty : GroupSender windowSize := ⟨undefinedNodeId, .notSynced⟩

def GroupSender.inUse (sender : GroupSender windowSize) : Bool := sender.mNodeId ≠ undefinedNodeId

namespace GroupFabric

def empty (limits : PeerLimits) : GroupFabric windowSize where
  mFabricIndex := undefinedFabricIndex
  mControlPeerCount := 0
  mDataPeerCount := 0
  mDataGroupSenders := List.replicate limits.dataPeers .empty
  mControlGroupSenders := List.replicate limits.controlPeers .empty

def inUse (fabric : GroupFabric windowSize) : Bool := fabric.mFabricIndex ≠ undefinedFabricIndex

def peerCount (fabric : GroupFabric windowSize) (isControl : Bool) : UInt8 :=
  if isControl then fabric.mControlPeerCount else fabric.mDataPeerCount

def uncountPeer (fabric : GroupFabric windowSize) (isControl : Bool) : GroupFabric windowSize :=
  if isControl then { fabric with mControlPeerCount := fabric.mControlPeerCount - 1 }
  else { fabric with mDataPeerCount := fabric.mDataPeerCount - 1 }

end GroupFabric

def GroupPeerTable.empty (limits : PeerLimits) : GroupPeerTable windowSize :=
  List.replicate limits.fabrics (GroupFabric.empty limits)

/-- The loop of `RemoveSpecificPeer`, which clears the first sender with the node. -/
def clearSender (nodeId : UInt64) :
  List (GroupSender windowSize) → Option (List (GroupSender windowSize))
  | [] => none
  | sender :: rest =>
    if sender.mNodeId = nodeId then some (⟨undefinedNodeId, .notSynced⟩ :: rest)
    else (clearSender nodeId rest).map (sender :: ·)

/-- `RemoveSpecificPeer`: the senders without the node, or `none` where it is not among them. -/
def removeSpecificPeer (nodeId : UInt64) (size : Nat) (senders : List (GroupSender windowSize)) :
  Option (List (GroupSender windowSize)) :=
  (clearSender nodeId senders).map (compact GroupSender.inUse .empty size)

def removeAndCompactFabric (limits : PeerLimits) (table : GroupPeerTable windowSize)
  (tableIndex : Nat) : GroupPeerTable windowSize :=
  if table.length ≤ tableIndex then table
  else
    table.take tableIndex ++
      closeHole GroupFabric.inUse (.empty limits) (table.drop (tableIndex + 1))

/-- The loops of `RemovePeer` and `FabricRemoved` over the fabrics, up to the one with the
index. -/
def findFabric (fabricIndex : UInt8) (table : GroupPeerTable windowSize) :
  Option (Nat × GroupFabric windowSize) :=
  match table.findIdx? fun fabric => decide (fabricIndex = fabric.mFabricIndex) with
  | none => none
  | some index => table[index]?.map (index, ·)

def removePeer (limits : PeerLimits) (fabricIndex : UInt8) (nodeId : UInt64) (isControl : Bool)
  (table : GroupPeerTable windowSize) : Except ChipError Unit × GroupPeerTable windowSize :=
  if fabricIndex = undefinedFabricIndex ∨ nodeId = undefinedNodeId then
    (.error .invalidArgument, table)
  else
    match findFabric fabricIndex table with
    | none => (.error .notFound, table)
    | some (index, fabric) =>
      match removeSpecificPeer nodeId (limits.peers isControl) (fabric.senders isControl) with
      | none => (.error .notFound, table)
      | some senders =>
        let fabric := (fabric.setSenders isControl senders).uncountPeer isControl
        let table := table.set index fabric
        if fabric.mDataPeerCount = 0 ∧ fabric.mControlPeerCount = 0 then
          (.ok (), removeAndCompactFabric limits table index)
        else (.ok (), table)

def fabricRemoved (limits : PeerLimits) (fabricIndex : UInt8) (table : GroupPeerTable windowSize) :
  Except ChipError Unit × GroupPeerTable windowSize :=
  if fabricIndex = undefinedFabricIndex then (.error .invalidArgument, table)
  else
    match findFabric fabricIndex table with
    | none => (.error .notFound, table)
    | some (index, _) => (.ok (), removeAndCompactFabric limits table index)

end Chip.Transport
