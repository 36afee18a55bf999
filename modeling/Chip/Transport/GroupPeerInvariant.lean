import Chip.Transport.GroupPeerRemoval

/-! The table of group peers keeps its shape: used places before unused ones, no fabric twice and
no node twice in a list. A lookup then finds what is there, and nothing that is done for one
peer changes another. -/
namespace Chip.Transport

open GroupSender List GroupFabric CompactSlots

variable {windowSize : Nat} {limits : PeerLimits} {table table' : GroupPeerTable windowSize}
  {fabric : GroupFabric windowSize} {fabricIndex : UInt8} {nodeId : UInt64} {isControl : Bool}
  {counter : PeerMessageCounter windowSize}

def Holds (table : GroupPeerTable windowSize) (fabricIndex : UInt8) (nodeId : UInt64)
  (isControl : Bool) (counter : PeerMessageCounter windowSize) : Prop :=
  ∃ fabric ∈ table, fabric.mFabricIndex = fabricIndex ∧
    (⟨nodeId, counter⟩ : GroupSender windowSize) ∈ fabric.senders isControl

/-- Two tables have the same peers in the same state, but for one of them. -/
def SameButPeer (fabricIndex : UInt8) (nodeId : UInt64) (isControl : Bool)
  (table table' : GroupPeerTable windowSize) : Prop :=
  ∀ otherFabric otherNode otherControl counter,
    otherFabric ≠ undefinedFabricIndex → otherNode ≠ undefinedNodeId →
    (otherFabric, otherNode, otherControl) ≠ (fabricIndex, nodeId, isControl) →
    (Holds table' otherFabric otherNode otherControl counter ↔
      Holds table otherFabric otherNode otherControl counter)

/-- Two tables have the same peers in the same state, but for those of one fabric. -/
def SameButFabric (fabricIndex : UInt8) (table table' : GroupPeerTable windowSize) : Prop :=
  ∀ otherFabric otherNode otherControl counter,
    otherFabric ≠ undefinedFabricIndex → otherFabric ≠ fabricIndex →
    (Holds table' otherFabric otherNode otherControl counter ↔
      Holds table otherFabric otherNode otherControl counter)

structure WellFormed (table : GroupPeerTable windowSize) : Prop where
  fabric_once : table.Pairwise fun a b =>
    a.mFabricIndex ≠ undefinedFabricIndex → a.mFabricIndex ≠ b.mFabricIndex
  fabrics_first : table.Pairwise fun a b =>
    b.mFabricIndex ≠ undefinedFabricIndex → a.mFabricIndex ≠ undefinedFabricIndex
  node_once : ∀ fabric ∈ table, ∀ isControl, (fabric.senders isControl).Pairwise fun a b =>
    a.mNodeId ≠ undefinedNodeId → a.mNodeId ≠ b.mNodeId
  nodes_first : ∀ fabric ∈ table, ∀ isControl, (fabric.senders isControl).Pairwise fun a b =>
    b.mNodeId ≠ undefinedNodeId → a.mNodeId ≠ undefinedNodeId
  counted : ∀ fabric ∈ table, ∀ isControl, (fabric.peerCount isControl).toNat =
    (fabric.senders isControl).countP GroupSender.inUse

/-- There is no room for the peer: its list is full, or it is of a fabric that is not in the
table, and the table is full. -/
def NoRoom (table : GroupPeerTable windowSize) (fabricIndex : UInt8) (isControl : Bool) : Prop :=
  (∃ fabric ∈ table, fabric.mFabricIndex = fabricIndex ∧
    ∀ sender ∈ fabric.senders isControl, sender.mNodeId ≠ undefinedNodeId) ∨
  ((∀ fabric ∈ table, fabric.mFabricIndex ≠ fabricIndex) ∧
    ∀ fabric ∈ table, fabric.mFabricIndex ≠ undefinedFabricIndex)

section Senders

variable {size : Nat} {senders items : List (GroupSender windowSize)}

/-- The senders that are in use, and how the array holds them. -/
structure SendersAre (size : Nat) (senders items : List (GroupSender windowSize)) : Prop where
  eq : senders = slots .empty size items
  le : items.length ≤ size
  inUse : ∀ sender ∈ items, sender.inUse = true
  nodup : (items.map GroupSender.mNodeId).Nodup

theorem GroupSender.empty_mNodeId :
  (empty : GroupSender windowSize).mNodeId = undefinedNodeId := rfl

variable {sender : GroupSender windowSize} {before after : List (GroupSender windowSize)}

theorem GroupSender.inUse_iff :
  sender.inUse = true ↔ sender.mNodeId ≠ undefinedNodeId := by
  simp [inUse]

theorem SendersAre.nil (size : Nat) :
  SendersAre size (replicate size (empty : GroupSender windowSize)) [] where
  eq := rfl
  le := Nat.zero_le size
  inUse := by simp
  nodup := nodup_nil

theorem SendersAre.mem_iff (h : SendersAre size senders items) (hNode : nodeId ≠ undefinedNodeId) :
  (⟨nodeId, counter⟩ : GroupSender windowSize) ∈ senders ↔ ⟨nodeId, counter⟩ ∈ items := by
  rw [h.eq, slots, mem_append, mem_replicate]
  constructor
  · rintro (hItem | ⟨-, hEmpty⟩)
    · exact hItem
    · exact absurd (congrArg mNodeId hEmpty) hNode
  · exact .inl

theorem findSender_append (hUse : ∀ sender ∈ items, sender.inUse = true)
  (hOther : ∀ sender ∈ items, sender.mNodeId ≠ nodeId) (rest : List (GroupSender windowSize))
  (index : Nat) :
  findSender nodeId (items ++ rest) index = findSender nodeId rest (index + items.length) := by
  induction items generalizing index with
  | nil => rfl
  | cons sender items ih =>
    have hSender := inUse_iff.mp (hUse sender mem_cons_self)
    rw [cons_append, findSender, if_neg hSender, if_neg (hOther sender mem_cons_self),
      ih (fun s h => hUse s (mem_cons_of_mem sender h))
        (fun s h => hOther s (mem_cons_of_mem sender h)), length_cons, Nat.add_assoc,
      Nat.add_comm 1]

theorem SendersAre.find_absent (h : SendersAre size senders items)
  (hAbsent : ∀ sender ∈ items, sender.mNodeId ≠ nodeId) :
  findSender nodeId senders 0 =
    if items.length < size then some (items.length, true) else none := by
  rw [h.eq, slots, findSender_append h.inUse hAbsent, Nat.zero_add]
  cases hRoom : size - items.length with
  | zero => rw [if_neg (by omega), replicate_zero, findSender]
  | succ room =>
    rw [if_pos (by omega), replicate_succ, findSender]
    exact if_pos rfl

theorem SendersAre.find_present (h : SendersAre size senders (before ++ sender :: after))
  (hBefore : ∀ other ∈ before, other.mNodeId ≠ sender.mNodeId) :
  findSender sender.mNodeId senders 0 = some (before.length, false) := by
  have hUse := inUse_iff.mp (h.inUse sender (by simp))
  rw [h.eq, slots, append_assoc, findSender_append
    (fun other hOther => h.inUse other (by simp [hOther])) hBefore, cons_append, findSender,
    if_neg hUse, if_pos rfl, Nat.zero_add]

theorem SendersAre.place (h : SendersAre size senders items) (hRoom : items.length < size)
  (hNode : nodeId ≠ undefinedNodeId) (hAbsent : ∀ sender ∈ items, sender.mNodeId ≠ nodeId) :
  SendersAre size (placeSender nodeId items.length senders) (items ++ [⟨nodeId, .notSynced⟩]) where
  eq := by
    obtain ⟨room, hSize⟩ : ∃ room, size - items.length = room + 1 := ⟨size - items.length - 1, by omega⟩
    rw [h.eq, placeSender, slots, slots, hSize, length_append, length_singleton,
      ← Nat.sub_sub, hSize, replicate_succ, modify_append, append_assoc]
    rfl
  le := by
    rw [length_append]
    exact hRoom
  inUse := by
    intro sender hMem
    rcases mem_append.mp hMem with hItem | hNew
    · exact h.inUse sender hItem
    · rw [mem_singleton.mp hNew]
      exact inUse_iff.mpr hNode
  nodup := by
    rw [map_append, nodup_append]
    refine ⟨h.nodup, by simp, ?_⟩
    intro other hOther new hNew
    obtain ⟨sender, hMem, rfl⟩ := mem_map.mp hOther
    rw [mem_singleton.mp hNew]
    exact hAbsent sender hMem

theorem clearSender_append {before : List (GroupSender windowSize)}
  (hBefore : ∀ other ∈ before, other.mNodeId ≠ nodeId) (rest : List (GroupSender windowSize)) :
  clearSender nodeId (before ++ rest) = (clearSender nodeId rest).map (before ++ ·) := by
  induction before with
  | nil => simp
  | cons sender before ih =>
    rw [cons_append, clearSender, if_neg (hBefore sender mem_cons_self),
      ih fun other h => hBefore other (mem_cons_of_mem sender h), Option.map_map]
    rfl

theorem clearSender_replicate (hNode : nodeId ≠ undefinedNodeId) (k : Nat) :
  clearSender nodeId (replicate k (empty : GroupSender windowSize)) = none := by
  induction k with
  | zero => rfl
  | succ k ih =>
    have hEmpty : (empty : GroupSender windowSize).mNodeId ≠ nodeId := hNode.symm
    rw [replicate_succ, clearSender, if_neg hEmpty, ih]
    rfl

theorem SendersAre.remove_absent (h : SendersAre size senders items)
  (hNode : nodeId ≠ undefinedNodeId) (hAbsent : ∀ sender ∈ items, sender.mNodeId ≠ nodeId) :
  removeSpecificPeer nodeId size senders = none := by
  rw [removeSpecificPeer, h.eq, slots, clearSender_append hAbsent, clearSender_replicate hNode]
  rfl

theorem SendersAre.remove_present (h : SendersAre size senders (before ++ sender :: after))
  (hBefore : ∀ other ∈ before, other.mNodeId ≠ sender.mNodeId) :
  ∃ senders', removeSpecificPeer sender.mNodeId size senders = some senders' ∧
    SendersAre size senders' (before ++ fillHole after) := by
  have hLe := h.le
  rw [List.length_append, List.length_cons] at hLe
  have hClear : clearSender sender.mNodeId senders = some (before ++ GroupSender.empty ::
      (after ++ List.replicate (size - (before.length + after.length + 1)) GroupSender.empty)) := by
    rw [h.eq, slots, List.append_assoc, clearSender_append hBefore, List.cons_append, clearSender,
      if_pos rfl, List.length_append, List.length_cons]
    rfl
  have hPerm := (fillHole_perm after).append_left before
  have hRest : ∀ other ∈ before ++ after, other ∈ before ++ sender :: after := by
    intro other hMem
    rcases List.mem_append.mp hMem with hMem | hMem <;> simp [hMem]
  refine ⟨slots .empty size (before ++ fillHole after), ?_, ?_⟩
  · rw [removeSpecificPeer, hClear, Option.map_some, compact_slots]
    · rfl
    · exact fun other hOther => h.inUse other (by simp [hOther])
    · exact fun other hOther => h.inUse other (by simp [hOther])
    · omega
  · constructor
    · rfl
    · rw [hPerm.length_eq, List.length_append]
      omega
    · exact fun other hMem => h.inUse other (hRest other (hPerm.mem_iff.mp hMem))
    · rw [(hPerm.map _).nodup_iff]
      have hNodup := h.nodup
      rw [(List.perm_middle.map _).nodup_iff, List.map_cons, List.nodup_cons] at hNodup
      exact hNodup.2

end Senders

section Fabrics

namespace GroupFabric

variable (fabric : GroupFabric windowSize) (isControl other : Bool)
  (senders : List (GroupSender windowSize))

@[simp] theorem setSenders_mFabricIndex :
  (fabric.setSenders isControl senders).mFabricIndex = fabric.mFabricIndex := by
  cases isControl <;> rfl

@[simp] theorem countPeer_mFabricIndex :
  (fabric.countPeer isControl).mFabricIndex = fabric.mFabricIndex := by
  cases isControl <;> rfl

@[simp] theorem uncountPeer_mFabricIndex :
  (fabric.uncountPeer isControl).mFabricIndex = fabric.mFabricIndex := by
  cases isControl <;> rfl

@[simp] theorem setSenders_senders :
  (fabric.setSenders isControl senders).senders other =
    if other = isControl then senders else fabric.senders other := by
  cases isControl <;> cases other <;> rfl

@[simp] theorem countPeer_senders :
  (fabric.countPeer isControl).senders other = fabric.senders other := by
  cases isControl <;> cases other <;> rfl

@[simp] theorem uncountPeer_senders :
  (fabric.uncountPeer isControl).senders other = fabric.senders other := by
  cases isControl <;> cases other <;> rfl

@[simp] theorem setSenders_peerCount :
  (fabric.setSenders isControl senders).peerCount other = fabric.peerCount other := by
  cases isControl <;> cases other <;> rfl

@[simp] theorem countPeer_peerCount :
  (fabric.countPeer isControl).peerCount other =
    if other = isControl then fabric.peerCount other + 1 else fabric.peerCount other := by
  cases isControl <;> cases other <;> rfl

@[simp] theorem uncountPeer_peerCount :
  (fabric.uncountPeer isControl).peerCount other =
    if other = isControl then fabric.peerCount other - 1 else fabric.peerCount other := by
  cases isControl <;> cases other <;> rfl

end GroupFabric

variable {peers : Bool → List (GroupSender windowSize)}

structure FabricIs (limits : PeerLimits) (fabric : GroupFabric windowSize)
    (peers : Bool → List (GroupSender windowSize)) : Prop where
  senders : ∀ isControl, SendersAre (limits.peers isControl) (fabric.senders isControl)
    (peers isControl)
  counted : ∀ isControl, (fabric.peerCount isControl).toNat = (peers isControl).length

theorem PeerLimits.peers_lt (limits : PeerLimits) (isControl : Bool) :
  limits.peers isControl < 256 := by
  cases isControl with
  | false => exact limits.dataPeers_lt
  | true => exact limits.controlPeers_lt

theorem PeerLimits.peers_pos (limits : PeerLimits) (isControl : Bool) :
  0 < limits.peers isControl := by
  cases isControl with
  | false => exact limits.dataPeers_pos
  | true => exact limits.controlPeers_pos

theorem FabricIs.empty (limits : PeerLimits) (fabricIndex : UInt8) :
  FabricIs limits
    { (empty limits : GroupFabric windowSize) with mFabricIndex := fabricIndex }
    fun _ => [] where
  senders := by
    intro isControl
    cases isControl with
    | false => exact SendersAre.nil limits.dataPeers
    | true => exact SendersAre.nil limits.controlPeers
  counted := by
    intro isControl
    cases isControl <;> rfl

/-- Two states of a fabric have the same peers in the same state, but for one. -/
def SameSendersBut (nodeId : UInt64) (isControl : Bool)
  (fabric fabric' : GroupFabric windowSize) : Prop :=
  ∀ otherNode otherControl counter, otherNode ≠ undefinedNodeId →
    (otherNode, otherControl) ≠ (nodeId, isControl) →
    ((⟨otherNode, counter⟩ : GroupSender windowSize) ∈ fabric'.senders otherControl ↔
      ⟨otherNode, counter⟩ ∈ fabric.senders otherControl)

def withPeers (peers : Bool → List (GroupSender windowSize)) (isControl : Bool)
  (senders : List (GroupSender windowSize)) : Bool → List (GroupSender windowSize) :=
  fun other => if other = isControl then senders else peers other

section

variable (h : FabricIs limits fabric peers)
include h

theorem FabricIs.sameSendersBut {fabric' : GroupFabric windowSize}
  {senders : List (GroupSender windowSize)}
  (h' : FabricIs limits fabric' (withPeers peers isControl senders))
  (hSame : ∀ other : GroupSender windowSize, other.mNodeId ≠ nodeId →
    (other ∈ senders ↔ other ∈ peers isControl)) :
  SameSendersBut nodeId isControl fabric fabric' := by
  intro otherNode otherControl counter hNode hOther
  rw [(h.senders otherControl).mem_iff hNode, (h'.senders otherControl).mem_iff hNode, withPeers]
  by_cases hControl : otherControl = isControl
  · subst hControl
    rw [if_pos rfl]
    exact hSame _ fun hSameNode => hOther (Prod.ext hSameNode rfl)
  · rw [if_neg hControl]

theorem FabricIs.add (hNode : nodeId ≠ undefinedNodeId)
  (hRoom : (peers isControl).length < limits.peers isControl)
  (hAbsent : ∀ sender ∈ peers isControl, sender.mNodeId ≠ nodeId) :
  FabricIs limits ((fabric.setSenders isControl (placeSender nodeId (peers isControl).length
      (fabric.senders isControl))).countPeer isControl)
    (withPeers peers isControl (peers isControl ++ [⟨nodeId, .notSynced⟩])) where
  senders := by
    intro other
    rw [countPeer_senders, setSenders_senders, withPeers]
    by_cases hOther : other = isControl
    · subst hOther
      rw [if_pos rfl, if_pos rfl]
      exact (h.senders other).place hRoom hNode hAbsent
    · rw [if_neg hOther, if_neg hOther]
      exact h.senders other
  counted := by
    intro other
    rw [countPeer_peerCount, setSenders_peerCount, withPeers]
    by_cases hOther : other = isControl
    · subst hOther
      have hCount := h.counted other
      have hLt := limits.peers_lt other
      rw [if_pos rfl, if_pos rfl, UInt8.toNat_add, hCount, length_append]
      exact Nat.mod_eq_of_lt (by simp; omega)
    · rw [if_neg hOther, if_neg hOther]
      exact h.counted other

theorem FabricIs.remove {senders items : List (GroupSender windowSize)}
  (hSenders : SendersAre (limits.peers isControl) senders items)
  (hLength : items.length + 1 = (peers isControl).length) :
  FabricIs limits ((fabric.setSenders isControl senders).uncountPeer isControl)
    (withPeers peers isControl items) where
  senders := by
    intro other
    rw [uncountPeer_senders, setSenders_senders, withPeers]
    by_cases hOther : other = isControl
    · subst hOther
      rw [if_pos rfl, if_pos rfl]
      exact hSenders
    · rw [if_neg hOther, if_neg hOther]
      exact h.senders other
  counted := by
    intro other
    rw [uncountPeer_peerCount, setSenders_peerCount, withPeers]
    by_cases hOther : other = isControl
    · subst hOther
      have hCount := h.counted other
      have hPos : (1 : UInt8) ≤ fabric.peerCount other := by
        rw [UInt8.le_iff_toNat_le, hCount, UInt8.toNat_one]
        omega
      rw [if_pos rfl, if_pos rfl, UInt8.toNat_sub_of_le _ _ hPos, hCount, UInt8.toNat_one]
      omega
    · rw [if_neg hOther, if_neg hOther]
      exact h.counted other

end

end Fabrics

section Table

variable {items : List (GroupFabric windowSize)}

theorem GroupFabric.empty_mFabricIndex (limits : PeerLimits) :
  (empty limits : GroupFabric windowSize).mFabricIndex = undefinedFabricIndex := rfl

theorem GroupFabric.inUse_iff : fabric.inUse = true ↔ fabric.mFabricIndex ≠ undefinedFabricIndex := by
  simp [inUse]

/-- The fabrics that are in use, and how the table holds them. -/
structure TableIs (limits : PeerLimits) (table items : GroupPeerTable windowSize) : Prop where
  eq : table = slots (.empty limits) limits.fabrics items
  le : items.length ≤ limits.fabrics
  inUse : ∀ fabric ∈ items, fabric.inUse = true
  nodup : (items.map GroupFabric.mFabricIndex).Nodup
  fabric : ∀ fabric ∈ items, ∃ peers, FabricIs limits fabric peers

theorem TableIs.empty (limits : PeerLimits) :
  TableIs limits (GroupPeerTable.empty limits : GroupPeerTable windowSize) [] where
  eq := rfl
  le := Nat.zero_le _
  inUse := by simp
  nodup := nodup_nil
  fabric := by simp

section

variable (h : TableIs limits table items)
include h

theorem TableIs.mem (hMem : fabric ∈ table) : ∃ peers, FabricIs limits fabric peers := by
  rw [h.eq, slots, mem_append] at hMem
  rcases hMem with hItem | hEmpty
  · exact h.fabric fabric hItem
  · rw [eq_of_mem_replicate hEmpty]
    exact ⟨_, FabricIs.empty limits undefinedFabricIndex⟩

theorem TableIs.wellFormed : WellFormed table where
  fabric_once := by
    rw [h.eq]
    exact slots_once (empty_mFabricIndex limits)
      (fun fabric hMem => inUse_iff.mp (h.inUse fabric hMem)) h.nodup _
  fabrics_first := by
    rw [h.eq]
    exact slots_first (empty_mFabricIndex limits)
      (fun fabric hMem => inUse_iff.mp (h.inUse fabric hMem)) _
  node_once := by
    intro fabric hMem isControl
    obtain ⟨peers, hPeers⟩ := h.mem hMem
    have hSenders := hPeers.senders isControl
    rw [hSenders.eq]
    exact slots_once empty_mNodeId
      (fun sender hMem => inUse_iff.mp (hSenders.inUse sender hMem))
      hSenders.nodup _
  nodes_first := by
    intro fabric hMem isControl
    obtain ⟨peers, hPeers⟩ := h.mem hMem
    have hSenders := hPeers.senders isControl
    rw [hSenders.eq]
    exact slots_first empty_mNodeId
      (fun sender hMem => inUse_iff.mp (hSenders.inUse sender hMem)) _
  counted := by
    intro fabric hMem isControl
    obtain ⟨peers, hPeers⟩ := h.mem hMem
    have hSenders := hPeers.senders isControl
    rw [hPeers.counted, hSenders.eq]
    exact (countP_slots rfl hSenders.inUse _).symm

theorem TableIs.holds_iff (hFabric : fabricIndex ≠ undefinedFabricIndex) :
  Holds table fabricIndex nodeId isControl counter ↔
    ∃ fabric ∈ items, fabric.mFabricIndex = fabricIndex ∧
      (⟨nodeId, counter⟩ : GroupSender windowSize) ∈ fabric.senders isControl := by
  constructor
  · rintro ⟨fabric, hMem, rfl, hSender⟩
    rw [h.eq, slots, mem_append] at hMem
    rcases hMem with hItem | hEmpty
    · exact ⟨fabric, hItem, rfl, hSender⟩
    · rw [eq_of_mem_replicate hEmpty] at hFabric
      exact absurd rfl hFabric
  · rintro ⟨fabric, hItem, hIndex, hSender⟩
    exact ⟨fabric, by rw [h.eq]; exact mem_append_left _ hItem, hIndex, hSender⟩

end

variable {before after : List (GroupFabric windowSize)}

theorem TableIs.replace {fabric' : GroupFabric windowSize}
  (h : TableIs limits table (before ++ fabric :: after))
  (hIndex : fabric'.mFabricIndex = fabric.mFabricIndex) (hIs : FabricIs limits fabric' peers)
  (hSame : SameSendersBut nodeId isControl fabric fabric') :
  TableIs limits (slots (.empty limits) limits.fabrics (before ++ fabric' :: after))
      (before ++ fabric' :: after) ∧
    SameButPeer fabric.mFabricIndex nodeId isControl table
      (slots (.empty limits) limits.fabrics (before ++ fabric' :: after)) := by
  have hTable : TableIs limits (slots (.empty limits) limits.fabrics (before ++ fabric' :: after))
      (before ++ fabric' :: after) := by
    constructor
    · rfl
    · have hLe := h.le
      simpa using hLe
    · intro other hMem
      rcases mem_append.mp hMem with hBefore | hRest
      · exact h.inUse other (by simp [hBefore])
      · rcases mem_cons.mp hRest with rfl | hAfter
        · have hUse := inUse_iff.mp (h.inUse fabric (by simp))
          exact inUse_iff.mpr (hIndex ▸ hUse)
        · exact h.inUse other (by simp [hAfter])
    · have hNodup := h.nodup
      simpa [hIndex] using hNodup
    · intro other hMem
      rcases mem_append.mp hMem with hBefore | hRest
      · exact h.fabric other (by simp [hBefore])
      · rcases mem_cons.mp hRest with rfl | hAfter
        · exact ⟨_, hIs⟩
        · exact h.fabric other (by simp [hAfter])
  refine ⟨hTable, ?_⟩
  intro otherFabric otherNode otherControl counter hFabric hNode hOther
  rw [hTable.holds_iff hFabric, h.holds_iff hFabric]
  have hHere : (fabric'.mFabricIndex = otherFabric ∧
      (⟨otherNode, counter⟩ : GroupSender windowSize) ∈ fabric'.senders otherControl) ↔
        (fabric.mFabricIndex = otherFabric ∧
          (⟨otherNode, counter⟩ : GroupSender windowSize) ∈ fabric.senders otherControl) := by
    rw [hIndex]
    apply and_congr_right
    rintro rfl
    exact hSame otherNode otherControl counter hNode fun hPeer => hOther (by rw [hPeer])
  simp only [mem_append, mem_cons, or_and_right, exists_or, exists_eq_left, hHere]

theorem TableIs.add (h : TableIs limits table items) (hRoom : items.length < limits.fabrics)
  (hAbsent : ∀ other ∈ items, other.mFabricIndex ≠ fabric.mFabricIndex)
  (hUse : fabric.inUse = true) (hIs : FabricIs limits fabric peers)
  (hOnly : ∀ otherNode otherControl counter, otherNode ≠ undefinedNodeId →
    (⟨otherNode, counter⟩ : GroupSender windowSize) ∈ fabric.senders otherControl →
      (otherNode, otherControl) = (nodeId, isControl)) :
  TableIs limits (slots (.empty limits) limits.fabrics (items ++ [fabric])) (items ++ [fabric]) ∧
    SameButPeer fabric.mFabricIndex nodeId isControl table
      (slots (.empty limits) limits.fabrics (items ++ [fabric])) := by
  have hTable : TableIs limits (slots (.empty limits) limits.fabrics (items ++ [fabric]))
      (items ++ [fabric]) := by
    constructor
    · rfl
    · rw [length_append]
      exact hRoom
    · intro other hMem
      rcases mem_append.mp hMem with hItem | hNew
      · exact h.inUse other hItem
      · rw [mem_singleton.mp hNew]
        exact hUse
    · rw [map_append, nodup_append]
      refine ⟨h.nodup, by simp, ?_⟩
      intro index hIndex new hNew
      obtain ⟨other, hOther, rfl⟩ := mem_map.mp hIndex
      rw [map_singleton, mem_singleton] at hNew
      rw [hNew]
      exact hAbsent other hOther
    · intro other hMem
      rcases mem_append.mp hMem with hItem | hNew
      · exact h.fabric other hItem
      · rw [mem_singleton.mp hNew]
        exact ⟨_, hIs⟩
  refine ⟨hTable, ?_⟩
  intro otherFabric otherNode otherControl counter hFabric hNode hOther
  rw [hTable.holds_iff hFabric, h.holds_iff hFabric]
  constructor
  · rintro ⟨other, hMem, hIndex, hSender⟩
    rcases mem_append.mp hMem with hItem | hNew
    · exact ⟨other, hItem, hIndex, hSender⟩
    · rw [mem_singleton.mp hNew] at hIndex hSender
      rw [hOnly otherNode otherControl counter hNode hSender] at hOther
      exact absurd (congrArg (·, nodeId, isControl) hIndex.symm) hOther
  · rintro ⟨other, hItem, hRest⟩
    exact ⟨other, mem_append_left _ hItem, hRest⟩

theorem TableIs.remove (h : TableIs limits table (before ++ fabric :: after)) :
  removeAndCompactFabric limits table before.length =
      slots (.empty limits) limits.fabrics (before ++ fillHole after) ∧
    TableIs limits (slots (.empty limits) limits.fabrics (before ++ fillHole after))
      (before ++ fillHole after) ∧
    SameButFabric fabric.mFabricIndex table
      (slots (.empty limits) limits.fabrics (before ++ fillHole after)) := by
  have hPerm := (fillHole_perm after).append_left before
  have hLe := h.le
  rw [length_append, length_cons] at hLe
  have hRest : ∀ other ∈ before ++ after, other ∈ before ++ fabric :: after := by
    intro other hMem
    rcases mem_append.mp hMem with hMem | hMem <;> simp [hMem]
  have hNodup := h.nodup
  rw [(perm_middle.map _).nodup_iff, map_cons, nodup_cons] at hNodup
  have hTable : TableIs limits (slots (.empty limits) limits.fabrics (before ++ fillHole after))
      (before ++ fillHole after) := by
    constructor
    · rfl
    · rw [hPerm.length_eq, length_append]
      omega
    · exact fun other hMem => h.inUse other (hRest other (hPerm.mem_iff.mp hMem))
    · rw [(hPerm.map _).nodup_iff]
      exact hNodup.2
    · exact fun other hMem => h.fabric other (hRest other (hPerm.mem_iff.mp hMem))
  refine ⟨?_, hTable, ?_⟩
  · have hSplit : table = before ++ fabric ::
        (after ++ replicate (limits.fabrics - (before.length + after.length + 1))
          (.empty limits)) := by
      rw [h.eq, slots, append_assoc, length_append, length_cons]
      rfl
    have hAfter : ∀ other ∈ after, other.inUse = true := fun other hOther =>
      h.inUse other (by simp [hOther])
    rw [removeAndCompactFabric, if_neg (by rw [hSplit]; simp), hSplit, take_left,
      drop_append, drop_eq_nil_of_le (Nat.le_succ _), nil_append,
      Nat.add_sub_cancel_left, drop_one, tail_cons, closeHole_append rfl hAfter, slots,
      hPerm.length_eq, length_append, append_assoc]
    congr 3
    omega
  · intro otherFabric otherNode otherControl counter hFabric hOther
    rw [hTable.holds_iff hFabric, h.holds_iff hFabric]
    simp only [hPerm.mem_iff]
    constructor
    · rintro ⟨other, hMem, hIndex, hSender⟩
      exact ⟨other, hRest other hMem, hIndex, hSender⟩
    · rintro ⟨other, hMem, hIndex, hSender⟩
      have hNe : other ≠ fabric := fun hSame => hOther (by rw [← hIndex, hSame])
      refine ⟨other, ?_, hIndex, hSender⟩
      simpa [hNe] using hMem

end Table

end Chip.Transport
