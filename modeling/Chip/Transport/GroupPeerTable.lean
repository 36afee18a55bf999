import Chip.Transport.PeerMessageCounter

/-! The message counters of the senders of group messages (`GroupPeerTable` of
`GroupPeerMessageCounter.cpp`), by fabric and node. -/
namespace Chip.Transport

/-- `kUndefinedNodeId`. -/
def undefinedNodeId : UInt64 := 0

/-- `kUndefinedFabricIndex`. -/
def undefinedFabricIndex : UInt8 := 0

structure GroupSender (windowSize : Nat) where
  mNodeId : UInt64
  msgCounter : PeerMessageCounter windowSize

structure GroupFabric (windowSize : Nat) where
  mFabricIndex : UInt8
  mControlPeerCount : UInt8
  mDataPeerCount : UInt8
  mDataGroupSenders : List (GroupSender windowSize)
  mControlGroupSenders : List (GroupSender windowSize)

/-- The array of fabrics. The build chooses its length and those of the senders. -/
abbrev GroupPeerTable (windowSize : Nat) := List (GroupFabric windowSize)

variable {windowSize : Nat}

namespace GroupFabric

def senders (fabric : GroupFabric windowSize) (isControl : Bool) : List (GroupSender windowSize) :=
  if isControl then fabric.mControlGroupSenders else fabric.mDataGroupSenders

def setSenders (fabric : GroupFabric windowSize) (isControl : Bool)
  (senders : List (GroupSender windowSize)) : GroupFabric windowSize :=
  if isControl then { fabric with mControlGroupSenders := senders }
  else { fabric with mDataGroupSenders := senders }

def countPeer (fabric : GroupFabric windowSize) (isControl : Bool) : GroupFabric windowSize :=
  if isControl then { fabric with mControlPeerCount := fabric.mControlPeerCount + 1 }
  else { fabric with mDataPeerCount := fabric.mDataPeerCount + 1 }

end GroupFabric

/-- The node's place among the senders, which are searched up to the first unused place; and
whether it is new there. -/
def findSender (nodeId : UInt64) : List (GroupSender windowSize) → Nat → Option (Nat × Bool)
  | [], _ => none
  | sender :: rest, index =>
    if sender.mNodeId = undefinedNodeId then some (index, true)
    else if sender.mNodeId = nodeId then some (index, false)
    else findSender nodeId rest (index + 1)

def placeSender (nodeId : UInt64) (index : Nat) (senders : List (GroupSender windowSize)) :
  List (GroupSender windowSize) :=
  senders.modify index fun sender => { sender with mNodeId := nodeId }

/-- The loop of `FindOrAddPeer` over the fabrics: the table after it, and where the counter
is. -/
def findOrAddPeerLoop (fabricIndex : UInt8) (nodeId : UInt64) (isControl : Bool) :
  GroupPeerTable windowSize → Nat →
    Except ChipError (Nat × Nat) × GroupPeerTable windowSize
  | [], _ => (.error .tooManyPeerNodes, [])
  | groupFabric :: rest, index =>
    if groupFabric.mFabricIndex = undefinedFabricIndex then
      let added := ({ groupFabric with mFabricIndex := fabricIndex }.setSenders isControl
        (placeSender nodeId 0 (groupFabric.senders isControl))).countPeer isControl
      (.ok (index, 0), added :: rest)
    else if fabricIndex = groupFabric.mFabricIndex then
      match findSender nodeId (groupFabric.senders isControl) 0 with
      | none => (.error .tooManyPeerNodes, groupFabric :: rest)
      | some (place, false) => (.ok (index, place), groupFabric :: rest)
      | some (place, true) =>
        let added := (groupFabric.setSenders isControl
          (placeSender nodeId place (groupFabric.senders isControl))).countPeer isControl
        (.ok (index, place), added :: rest)
    else
      let result := findOrAddPeerLoop fabricIndex nodeId isControl rest (index + 1)
      (result.1, groupFabric :: result.2)

/-- `FindOrAddPeer`, which points to the counter of the sender. -/
def findOrAddPeer (fabricIndex : UInt8) (nodeId : UInt64) (isControl : Bool)
  (table : GroupPeerTable windowSize) :
  Except ChipError (Nat × Nat) × GroupPeerTable windowSize :=
  if fabricIndex = undefinedFabricIndex ∨ nodeId = undefinedNodeId then (.error .invalidArgument, table)
  else findOrAddPeerLoop fabricIndex nodeId isControl table 0

/-- The counter that `FindOrAddPeer` has pointed to. -/
def counterAt (table : GroupPeerTable windowSize) (isControl : Bool) (place : Nat × Nat) :
  PeerMessageCounter windowSize :=
  match table[place.1]? with
  | none => .notSynced
  | some fabric => match (fabric.senders isControl)[place.2]? with
    | none => .notSynced
    | some sender => sender.msgCounter

def setCounterAt (table : GroupPeerTable windowSize) (isControl : Bool) (place : Nat × Nat)
  (counter : PeerMessageCounter windowSize) : GroupPeerTable windowSize :=
  table.modify place.1 fun fabric => fabric.setSenders isControl
    ((fabric.senders isControl).modify place.2 fun sender => { sender with msgCounter := counter })

end Chip.Transport
