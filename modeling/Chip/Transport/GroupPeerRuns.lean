import Chip.Transport.GroupPeerInvariant

/-! Runs of the operations on a `GroupPeerTable`, with any use of the counters that they point
to. -/
namespace Chip.Transport

open List GroupFabric Transport CompactSlots

variable {windowSize : Nat} {limits : PeerLimits} {table table' items : GroupPeerTable windowSize}
  {fabricIndex : UInt8} {nodeId : UInt64} {isControl : Bool}
  {counter : PeerMessageCounter windowSize}

theorem SameButPeer.refl (table : GroupPeerTable windowSize) :
  SameButPeer fabricIndex nodeId isControl table table :=
  fun _ _ _ _ _ _ _ => Iff.rfl

theorem SameButPeer.trans {table'' : GroupPeerTable windowSize}
  (h : SameButPeer fabricIndex nodeId isControl table table')
  (h' : SameButPeer fabricIndex nodeId isControl table' table'') :
  SameButPeer fabricIndex nodeId isControl table table'' :=
  fun otherFabric otherNode otherControl counter hFabric hNode hOther =>
    (h' otherFabric otherNode otherControl counter hFabric hNode hOther).trans
      (h otherFabric otherNode otherControl counter hFabric hNode hOther)

/-- A place of the table where the peer stands, among the fabrics and the senders in use. -/
structure PointsTo (limits : PeerLimits) (table : GroupPeerTable windowSize) (fabricIndex : UInt8)
    (nodeId : UInt64) (isControl : Bool) (place : Nat × Nat) : Prop where
  intro ::
  stands : ∃ before fabric after peers first sender last,
    TableIs limits table (before ++ fabric :: after) ∧ fabric.mFabricIndex = fabricIndex ∧
      FabricIs limits fabric peers ∧ peers isControl = first ++ sender :: last ∧
      sender.mNodeId = nodeId ∧ place = (before.length, first.length)

theorem slots_replace {α : Type} (empty : α) (size : Nat) (before after : List α) (a b : α) :
  slots empty size (before ++ b :: after) =
    before ++ b :: (after ++ replicate (size - (before ++ a :: after).length) empty) := by
  simp [slots]

theorem TableIs.split {before after : GroupPeerTable windowSize} {fabric : GroupFabric windowSize}
  (h : TableIs limits table (before ++ fabric :: after)) :
  table = before ++ fabric :: (after ++ List.replicate (limits.fabrics -
    (before ++ fabric :: after).length) (GroupFabric.empty limits)) := by
  rw [← List.cons_append, ← List.append_assoc]
  exact h.eq

section FindOrAdd

variable {before rest : GroupPeerTable windowSize}

theorem findOrAddPeerLoop_append (hUse : ∀ fabric ∈ before, fabric.inUse = true)
  (hOther : ∀ fabric ∈ before, fabric.mFabricIndex ≠ fabricIndex) (index : Nat) :
  findOrAddPeerLoop fabricIndex nodeId isControl (before ++ rest) index =
    ((findOrAddPeerLoop fabricIndex nodeId isControl rest (index + before.length)).1,
      before ++ (findOrAddPeerLoop fabricIndex nodeId isControl rest
        (index + before.length)).2) := by
  induction before generalizing index with
  | nil => rfl
  | cons fabric before ih =>
    have hFabric := inUse_iff.mp (hUse fabric mem_cons_self)
    have hIndex := Ne.symm (hOther fabric mem_cons_self)
    have hRest := ih (fun g h => hUse g (mem_cons_of_mem fabric h))
      (fun g h => hOther g (mem_cons_of_mem fabric h)) (index + 1)
    rw [cons_append, findOrAddPeerLoop, if_neg hFabric, if_neg hIndex, hRest,
      length_cons, Nat.add_assoc, Nat.add_comm 1]
    rfl

theorem findOrAddPeerLoop_split (hSplit : table = before ++ rest)
  (hUse : ∀ fabric ∈ before, fabric.inUse = true)
  (hOther : ∀ fabric ∈ before, fabric.mFabricIndex ≠ fabricIndex) :
  findOrAddPeerLoop fabricIndex nodeId isControl table 0 =
    ((findOrAddPeerLoop fabricIndex nodeId isControl rest before.length).1,
      before ++ (findOrAddPeerLoop fabricIndex nodeId isControl rest before.length).2) := by
  rw [hSplit, findOrAddPeerLoop_append hUse hOther, Nat.zero_add]

/-- What a call of `FindOrAddPeer` can do: it finds or adds the peer and changes no other, or
it fails, there being no room for a peer that is not there. -/
inductive FoundOrAdded (limits : PeerLimits) (table : GroupPeerTable windowSize)
    (fabricIndex : UInt8) (nodeId : UInt64) (isControl : Bool) :
    Except ChipError (Nat × Nat) × GroupPeerTable windowSize → Prop
  | ok {place : Nat × Nat} {table' : GroupPeerTable windowSize} : PointsTo limits table' fabricIndex nodeId isControl place →
      SameButPeer fabricIndex nodeId isControl table table' →
      FoundOrAdded limits table fabricIndex nodeId isControl (.ok place, table')
  | error : (∀ counter, ¬ Holds table fabricIndex nodeId isControl counter) →
      NoRoom table fabricIndex isControl →
      FoundOrAdded limits table fabricIndex nodeId isControl (.error .tooManyPeerNodes, table)

/-- The unused place that a new fabric is put in, with its first peer. -/
def newFabric (limits : PeerLimits) (fabricIndex : UInt8) (nodeId : UInt64) (isControl : Bool) :
  GroupFabric windowSize :=
  ({ (GroupFabric.empty limits : GroupFabric windowSize) with
      mFabricIndex := fabricIndex }.setSenders isControl
    (placeSender nodeId 0 ((GroupFabric.empty limits).senders isControl))).countPeer isControl

theorem newFabric_mFabricIndex :
  (newFabric limits fabricIndex nodeId isControl : GroupFabric windowSize).mFabricIndex =
    fabricIndex := by
  simp [newFabric]

theorem newFabric_is (hNode : nodeId ≠ undefinedNodeId) :
  FabricIs limits (newFabric limits fabricIndex nodeId isControl : GroupFabric windowSize)
    (withPeers (fun _ => []) isControl [⟨nodeId, .notSynced⟩]) :=
  (FabricIs.empty limits fabricIndex).add hNode (limits.peers_pos isControl) (by simp)

theorem TableIs.findOrAdd_absent (h : TableIs limits table items)
  (hFabric : fabricIndex ≠ undefinedFabricIndex) (hNode : nodeId ≠ undefinedNodeId)
  (hAbsent : ∀ fabric ∈ items, fabric.mFabricIndex ≠ fabricIndex) :
  FoundOrAdded limits table fabricIndex nodeId isControl
    (findOrAddPeerLoop fabricIndex nodeId isControl table 0) := by
  rw [findOrAddPeerLoop_split h.eq h.inUse hAbsent]
  cases hRoom : limits.fabrics - items.length with
  | zero =>
    have hTable : table = items := by rw [h.eq, slots, hRoom, replicate_zero, append_nil]
    rw [replicate_zero, findOrAddPeerLoop, append_nil, ← hTable]
    apply FoundOrAdded.error
    · intro counter hHolds
      obtain ⟨fabric, hMem, hIndex, -⟩ := (h.holds_iff hFabric).mp hHolds
      exact hAbsent fabric hMem hIndex
    · rw [← hTable] at hAbsent
      exact .inr ⟨hAbsent, fun fabric hMem =>
        inUse_iff.mp (h.inUse fabric (hTable ▸ hMem))⟩
  | succ room =>
    have hIs : FabricIs limits (newFabric limits fabricIndex nodeId isControl :
        GroupFabric windowSize) (withPeers (fun _ => []) isControl [⟨nodeId, .notSynced⟩]) :=
      newFabric_is hNode
    have hUse : (newFabric limits fabricIndex nodeId isControl :
        GroupFabric windowSize).inUse = true :=
      inUse_iff.mpr (newFabric_mFabricIndex.trans_ne hFabric)
    have hOnly : ∀ otherNode otherControl counter, otherNode ≠ undefinedNodeId →
        (⟨otherNode, counter⟩ : GroupSender windowSize) ∈
          (newFabric limits fabricIndex nodeId isControl).senders otherControl →
        (otherNode, otherControl) = (nodeId, isControl) := by
      intro otherNode otherControl counter hOther hMem
      rw [(hIs.senders otherControl).mem_iff hOther, withPeers] at hMem
      split at hMem
      · rename_i hControl
        have hSame : otherNode = nodeId := congrArg GroupSender.mNodeId (mem_singleton.mp hMem)
        rw [hControl, hSame]
      · cases hMem
    obtain ⟨hTable, hSame⟩ := h.add (by omega)
      (fun other hOther => (hAbsent other hOther).trans_eq newFabric_mFabricIndex.symm) hUse hIs
      hOnly
    have hSlots : slots (.empty limits) limits.fabrics
        (items ++ [newFabric limits fabricIndex nodeId isControl]) =
          items ++ newFabric limits fabricIndex nodeId isControl ::
            replicate room (.empty limits) := by
      rw [slots, length_append, length_singleton, ← Nat.sub_sub, hRoom]
      simp
    rw [hSlots] at hTable hSame
    rw [newFabric_mFabricIndex] at hSame
    rw [replicate_succ, findOrAddPeerLoop, if_pos (empty_mFabricIndex limits)]
    have hPeers : withPeers (fun _ => []) isControl
        [(⟨nodeId, .notSynced⟩ : GroupSender windowSize)] isControl = [⟨nodeId, .notSynced⟩] :=
      if_pos rfl
    exact .ok ⟨items, _, [], _, [], ⟨nodeId, .notSynced⟩, [], hTable, newFabric_mFabricIndex, hIs,
      hPeers, rfl, rfl⟩ hSame

theorem TableIs.findOrAdd_present {before after : GroupPeerTable windowSize}
  {fabric : GroupFabric windowSize} (h : TableIs limits table (before ++ fabric :: after))
  (hNode : nodeId ≠ undefinedNodeId)
  (hBefore : ∀ other ∈ before, other.mFabricIndex ≠ fabric.mFabricIndex)
  (hAfter : ∀ other ∈ after, other.mFabricIndex ≠ fabric.mFabricIndex) :
  FoundOrAdded limits table fabric.mFabricIndex nodeId isControl
    (findOrAddPeerLoop fabric.mFabricIndex nodeId isControl table 0) := by
  have hFabric := GroupFabric.inUse_iff.mp (h.inUse fabric (by simp))
  have hSplit := h.split
  obtain ⟨peers, hIs⟩ := h.fabric fabric (by simp)
  have hSenders := hIs.senders isControl
  rw [findOrAddPeerLoop_split hSplit (fun other hOther => h.inUse other (by simp [hOther])) hBefore,
    findOrAddPeerLoop, if_neg hFabric, if_pos rfl]
  obtain hAbsent | ⟨first, sender, last, hPeers, rfl, hFirst, -⟩ := split_key hSenders.nodup nodeId
  · rw [hSenders.find_absent hAbsent]
    by_cases hRoom : (peers isControl).length < limits.peers isControl
    · -- one peer more in the fabric
      rw [if_pos hRoom]
      have hAdd := hIs.add hNode hRoom hAbsent
      have hOthers : SameSendersBut nodeId isControl fabric _ := hIs.sameSendersBut hAdd (by
        intro other hOther
        rw [List.mem_append, List.mem_singleton]
        exact or_iff_left fun hNew => hOther (congrArg GroupSender.mNodeId hNew))
      obtain ⟨hTable, hSame⟩ := h.replace (by simp) hAdd hOthers
      have hSlots := slots_replace (GroupFabric.empty limits) limits.fabrics before after fabric
        ((fabric.setSenders isControl (placeSender nodeId
          (peers isControl).length (fabric.senders isControl))).countPeer isControl)
      rw [hSlots] at hTable hSame
      have hPeers : withPeers peers isControl (peers isControl ++ [⟨nodeId, .notSynced⟩]) isControl =
          peers isControl ++ [⟨nodeId, .notSynced⟩] := if_pos rfl
      exact .ok ⟨before, _, after, _, peers isControl, ⟨nodeId, .notSynced⟩, [], hTable, by simp, hAdd,
        hPeers, rfl, rfl⟩ hSame
    · -- its list is full
      rw [if_neg hRoom]
      dsimp only
      rw [← hSplit]
      apply FoundOrAdded.error
      · intro counter hHolds
        obtain ⟨other, hMem, hIndex, hSender⟩ := (h.holds_iff hFabric).mp hHolds
        have hOnly : other = fabric := by
          rcases List.mem_append.mp hMem with hMem | hMem
          · exact absurd hIndex (hBefore other hMem)
          · rcases List.mem_cons.mp hMem with hSame | hMem
            · exact hSame
            · exact absurd hIndex (hAfter other hMem)
        rw [hOnly, hSenders.mem_iff hNode] at hSender
        exact hAbsent _ hSender rfl
      · refine .inl ⟨fabric, by rw [hSplit]; simp, rfl, fun sender hSender => ?_⟩
        rw [hSenders.eq, slots, Nat.sub_eq_zero_of_le (Nat.le_of_not_lt hRoom), List.replicate_zero,
          List.append_nil] at hSender
        exact GroupSender.inUse_iff.mp (hSenders.inUse sender hSender)
  · rw [hPeers] at hSenders
    rw [hSenders.find_present hFirst]
    dsimp only
    rw [← hSplit]
    exact .ok ⟨before, fabric, after, peers, first, sender, last, h, rfl, hIs, hPeers, rfl, rfl⟩
      (.refl table)

theorem TableIs.findOrAddPeer (h : TableIs limits table items)
  (hFabric : fabricIndex ≠ undefinedFabricIndex) (hNode : nodeId ≠ undefinedNodeId) :
  FoundOrAdded limits table fabricIndex nodeId isControl
    (Transport.findOrAddPeer fabricIndex nodeId isControl table) := by
  rw [Transport.findOrAddPeer, if_neg (not_or.mpr ⟨hFabric, hNode⟩)]
  obtain hAbsent | ⟨before, fabric, after, rfl, rfl, hBefore, hAfter⟩ :=
    split_key h.nodup fabricIndex
  · exact h.findOrAdd_absent hFabric hNode hAbsent
  · exact h.findOrAdd_present hNode hBefore hAfter

end FindOrAdd

section Counter

variable {place : Nat × Nat}

theorem SendersAre.setCounter {size : Nat} {senders first last : List (GroupSender windowSize)}
  {sender : GroupSender windowSize} (h : SendersAre size senders (first ++ sender :: last))
  (counter : PeerMessageCounter windowSize) :
  SendersAre size
    (senders.modify first.length fun sender => { sender with msgCounter := counter })
    (first ++ { sender with msgCounter := counter } :: last) where
  eq := by
    rw [h.eq, slots, slots, append_assoc, cons_append, modify_append]
    simp
  le := by
    have hLe := h.le
    simpa using hLe
  inUse := by
    intro other hMem
    rcases mem_append.mp hMem with hFirst | hRest
    · exact h.inUse other (by simp [hFirst])
    · rcases mem_cons.mp hRest with rfl | hLast
      · exact GroupSender.inUse_iff.mpr (GroupSender.inUse_iff.mp (h.inUse sender (by simp)))
      · exact h.inUse other (by simp [hLast])
  nodup := by
    have hNodup := h.nodup
    simpa using hNodup

theorem FabricIs.setCounter {fabric : GroupFabric windowSize}
  {peers : Bool → List (GroupSender windowSize)} {first last : List (GroupSender windowSize)}
  {sender : GroupSender windowSize} (h : FabricIs limits fabric peers)
  (hPeers : peers isControl = first ++ sender :: last)
  (counter : PeerMessageCounter windowSize) :
  FabricIs limits (fabric.setSenders isControl ((fabric.senders isControl).modify first.length
      fun sender => { sender with msgCounter := counter }))
    (withPeers peers isControl (first ++ { sender with msgCounter := counter } :: last)) where
  senders := by
    intro other
    rw [setSenders_senders, withPeers]
    by_cases hOther : other = isControl
    · subst hOther
      have hSenders := h.senders other
      rw [hPeers] at hSenders
      rw [if_pos rfl, if_pos rfl]
      exact hSenders.setCounter counter
    · rw [if_neg hOther, if_neg hOther]
      exact h.senders other
  counted := by
    intro other
    rw [setSenders_peerCount, h.counted, withPeers]
    by_cases hOther : other = isControl
    · subst hOther
      rw [if_pos rfl, hPeers]
      simp
    · rw [if_neg hOther]

theorem PointsTo.setCounterAt (h : PointsTo limits table fabricIndex nodeId isControl place)
  (counter : PeerMessageCounter windowSize) :
  (∃ items, TableIs limits (setCounterAt table isControl place counter) items) ∧
    SameButPeer fabricIndex nodeId isControl table
      (setCounterAt table isControl place counter) := by
  obtain ⟨before, fabric, after, peers, first, sender, last, hTable, rfl, hIs, hPeers, rfl, rfl⟩ :=
    h.stands
  have hSet := hIs.setCounter hPeers counter
  have hOthers : SameSendersBut sender.mNodeId isControl fabric _ := hIs.sameSendersBut hSet (by
    intro other hOther
    have hOld : other ≠ sender := fun hSame => hOther (congrArg GroupSender.mNodeId hSame)
    have hNew : other ≠ { sender with msgCounter := counter } := fun hSame => hOther (by rw [hSame])
    simp [hPeers, hOld, hNew])
  obtain ⟨hAfter, hSame⟩ := hTable.replace
    (setSenders_mFabricIndex fabric isControl _) hSet hOthers
  have hModify : setCounterAt table isControl (before.length, first.length) counter =
      slots (.empty limits) limits.fabrics (before ++ fabric.setSenders isControl
        ((fabric.senders isControl).modify first.length
          fun sender => { sender with msgCounter := counter }) :: after) := by
    rw [setCounterAt, hTable.eq, slots, slots, append_assoc, cons_append,
      modify_append]
    simp
  rw [hModify]
  exact ⟨⟨_, hAfter⟩, hSame⟩

end Counter

section Remove

theorem findFabric_present {before rest : GroupPeerTable windowSize}
  {fabric : GroupFabric windowSize} (hSplit : table = before ++ fabric :: rest)
  (hBefore : ∀ other ∈ before, other.mFabricIndex ≠ fabric.mFabricIndex) :
  findFabric fabric.mFabricIndex table = some (before.length, fabric) := by
  have hIndex : table.findIdx? (fun other => decide (fabric.mFabricIndex = other.mFabricIndex)) =
      some before.length := by
    rw [hSplit, findIdx?_append, findIdx?_eq_none_iff.mpr, findIdx?_cons]
    · simp
    · exact fun other hMem => decide_eq_false (hBefore other hMem).symm
  rw [findFabric, hIndex, hSplit]
  simp

theorem TableIs.findFabric_absent (h : TableIs limits table items)
  (hFabric : fabricIndex ≠ undefinedFabricIndex)
  (hAbsent : ∀ fabric ∈ items, fabric.mFabricIndex ≠ fabricIndex) :
  findFabric fabricIndex table = none := by
  have hIndex : table.findIdx? (fun other => decide (fabricIndex = other.mFabricIndex)) = none := by
    rw [findIdx?_eq_none_iff, h.eq]
    intro other hMem
    rcases mem_append.mp hMem with hItem | hEmpty
    · exact decide_eq_false (hAbsent other hItem).symm
    · rw [eq_of_mem_replicate hEmpty]
      exact decide_eq_false hFabric
  rw [findFabric, hIndex]

theorem TableIs.fabricRemoved (h : TableIs limits table items) (fabricIndex : UInt8) :
  (∃ items, TableIs limits (Transport.fabricRemoved limits fabricIndex table).2 items) ∧
    SameButFabric fabricIndex table (Transport.fabricRemoved limits fabricIndex table).2 := by
  by_cases hFabric : fabricIndex = undefinedFabricIndex
  · rw [Transport.fabricRemoved, if_pos hFabric]
    exact ⟨⟨items, h⟩, fun _ _ _ _ _ _ => Iff.rfl⟩
  · rw [Transport.fabricRemoved, if_neg hFabric]
    obtain hAbsent | ⟨before, fabric, after, rfl, rfl, hBefore, -⟩ := split_key h.nodup fabricIndex
    · rw [h.findFabric_absent hFabric hAbsent]
      exact ⟨⟨items, h⟩, fun _ _ _ _ _ _ => Iff.rfl⟩
    · rw [findFabric_present h.split hBefore]
      obtain ⟨hEq, hTable, hSame⟩ := h.remove
      dsimp only
      rw [hEq]
      exact ⟨⟨_, hTable⟩, hSame⟩

theorem TableIs.sameButPeer_of_remove {before after : GroupPeerTable windowSize}
  {fabric : GroupFabric windowSize} {peers : Bool → List (GroupSender windowSize)}
  (h : TableIs limits table (before ++ fabric :: after))
  (hBefore : ∀ other ∈ before, other.mFabricIndex ≠ fabric.mFabricIndex)
  (hAfter : ∀ other ∈ after, other.mFabricIndex ≠ fabric.mFabricIndex)
  (hIs : FabricIs limits fabric peers) (hNone : ∀ isControl, peers isControl = [])
  (nodeId : UInt64) (isControl : Bool) :
  SameButPeer fabric.mFabricIndex nodeId isControl table
    (removeAndCompactFabric limits table before.length) := by
  obtain ⟨hEq, hTable, hSame⟩ := h.remove
  rw [hEq]
  intro otherFabric otherNode otherControl counter hFabric hNode _
  by_cases hOther : otherFabric = fabric.mFabricIndex
  · -- the fabric has no peer before, and is not there after
    subst hOther
    apply iff_of_false
    · intro hHolds
      obtain ⟨other, hMem, hIndex, -⟩ := (hTable.holds_iff hFabric).mp hHolds
      rcases mem_append.mp hMem with hMem | hMem
      · exact hBefore other hMem hIndex
      · exact hAfter other ((fillHole_perm after).mem_iff.mp hMem) hIndex
    · intro hHolds
      obtain ⟨other, hMem, hIndex, hSender⟩ := (h.holds_iff hFabric).mp hHolds
      rcases mem_append.mp hMem with hMem | hMem
      · exact hBefore other hMem hIndex
      · rcases mem_cons.mp hMem with rfl | hMem
        · rw [(hIs.senders otherControl).mem_iff hNode, hNone] at hSender
          exact not_mem_nil hSender
        · exact hAfter other hMem hIndex
  · exact hSame otherFabric otherNode otherControl counter hFabric hOther

theorem TableIs.removePeer (h : TableIs limits table items) (fabricIndex : UInt8)
  (nodeId : UInt64) (isControl : Bool) :
  (∃ items, TableIs limits (Transport.removePeer limits fabricIndex nodeId isControl table).2 items) ∧
    SameButPeer fabricIndex nodeId isControl table
      (Transport.removePeer limits fabricIndex nodeId isControl table).2 := by
  by_cases hUndefined : fabricIndex = undefinedFabricIndex ∨ nodeId = undefinedNodeId
  · rw [Transport.removePeer, if_pos hUndefined]
    exact ⟨⟨items, h⟩, .refl table⟩
  obtain ⟨hFabric, hNode⟩ := not_or.mp hUndefined
  rw [Transport.removePeer, if_neg hUndefined]
  obtain hAbsent | ⟨before, fabric, after, rfl, rfl, hBefore, hAfter⟩ :=
    split_key h.nodup fabricIndex
  · rw [h.findFabric_absent hFabric hAbsent]
    exact ⟨⟨items, h⟩, .refl table⟩
  rw [findFabric_present h.split hBefore]
  obtain ⟨peers, hIs⟩ := h.fabric fabric (by simp)
  have hSenders := hIs.senders isControl
  dsimp only
  obtain hAbsent | ⟨first, sender, last, hPeers, rfl, hFirst, hLast⟩ :=
    split_key hSenders.nodup nodeId
  · rw [hSenders.remove_absent hNode hAbsent]
    exact ⟨⟨_, h⟩, .refl table⟩
  rw [hPeers] at hSenders
  obtain ⟨senders, hRemove, hRemoved⟩ := hSenders.remove_present hFirst
  have hPerm := fillHole_perm last
  have hLess := hIs.remove hRemoved (by
    rw [hPeers, List.length_append, hPerm.length_eq, List.length_append, List.length_cons]
    omega)
  have hOthers : SameSendersBut sender.mNodeId isControl fabric _ := hIs.sameSendersBut hLess (by
    intro other hOther
    have hOld : other ≠ sender := fun hSame => hOther (congrArg GroupSender.mNodeId hSame)
    simp [hPeers, hPerm.mem_iff, hOld])
  obtain ⟨hTable, hSame⟩ := h.replace (by simp) hLess hOthers
  have hSet : table.set before.length ((fabric.setSenders isControl senders).uncountPeer isControl) =
      slots (.empty limits) limits.fabrics
        (before ++ (fabric.setSenders isControl senders).uncountPeer isControl :: after) := by
    rw [slots_replace _ _ _ _ fabric, h.split]
    simp
  rw [← hSet] at hTable hSame
  rw [hRemove]
  dsimp only
  split
  · rename_i hCounts
    have hNone : ∀ other, withPeers peers isControl (first ++ fillHole last) other = [] := by
      intro other
      rw [← List.length_eq_zero_iff, ← hLess.counted other]
      cases other with
      | false => exact congrArg UInt8.toNat hCounts.1
      | true => exact congrArg UInt8.toNat hCounts.2
    have hIndex : ((fabric.setSenders isControl senders).uncountPeer isControl).mFabricIndex =
        fabric.mFabricIndex := by simp
    have hNothing := hTable.sameButPeer_of_remove (by simpa using hBefore) (by simpa using hAfter)
      hLess hNone sender.mNodeId isControl
    rw [hIndex] at hNothing
    obtain ⟨hEq, hShape, -⟩ := hTable.remove
    refine ⟨?_, hSame.trans hNothing⟩
    rw [hEq]
    exact ⟨_, hShape⟩
  · exact ⟨⟨_, hTable⟩, hSame⟩

end Remove

/-- The tables that calls lead to, and uses of the counters that calls have pointed to. -/
inductive Reachable (limits : PeerLimits) : GroupPeerTable windowSize → Prop
  | empty : Reachable limits (.empty limits)
  | findOrAddPeer {table : GroupPeerTable windowSize} (fabricIndex : UInt8) (nodeId : UInt64)
      (isControl : Bool) : Reachable limits table →
      Reachable limits (findOrAddPeer fabricIndex nodeId isControl table).2
  | useCounter {table table' : GroupPeerTable windowSize} {fabricIndex : UInt8} {nodeId : UInt64}
      {isControl : Bool} {place : Nat × Nat} (counter : PeerMessageCounter windowSize) :
      Reachable limits table →
      findOrAddPeer fabricIndex nodeId isControl table = (.ok place, table') →
      Reachable limits (setCounterAt table' isControl place counter)
  | removePeer {table : GroupPeerTable windowSize} (fabricIndex : UInt8) (nodeId : UInt64)
      (isControl : Bool) : Reachable limits table →
      Reachable limits (removePeer limits fabricIndex nodeId isControl table).2
  | fabricRemoved {table : GroupPeerTable windowSize} (fabricIndex : UInt8) :
      Reachable limits table →
      Reachable limits (fabricRemoved limits fabricIndex table).2

theorem TableIs.findOrAddPeer_cases (h : TableIs limits table items) (fabricIndex : UInt8)
  (nodeId : UInt64) (isControl : Bool) :
  ((fabricIndex = undefinedFabricIndex ∨ nodeId = undefinedNodeId) ∧
      Transport.findOrAddPeer fabricIndex nodeId isControl table = (.error .invalidArgument, table)) ∨
    FoundOrAdded limits table fabricIndex nodeId isControl
      (Transport.findOrAddPeer fabricIndex nodeId isControl table) := by
  by_cases hUndefined : fabricIndex = undefinedFabricIndex ∨ nodeId = undefinedNodeId
  · exact .inl ⟨hUndefined, if_pos hUndefined⟩
  · obtain ⟨hFabric, hNode⟩ := not_or.mp hUndefined
    exact .inr (h.findOrAddPeer hFabric hNode)

variable {result : Except ChipError (Nat × Nat) × GroupPeerTable windowSize}

section

variable (h : FoundOrAdded limits table fabricIndex nodeId isControl result)
include h

theorem FoundOrAdded.tableIs (hItems : TableIs limits table items) :
  ∃ items, TableIs limits result.2 items := by
  cases h with
  | ok hPoints _ =>
    obtain ⟨_, _, _, _, _, _, _, hTable, -⟩ := hPoints.stands
    exact ⟨_, hTable⟩
  | error _ _ => exact ⟨items, hItems⟩

theorem FoundOrAdded.sameButPeer : SameButPeer fabricIndex nodeId isControl table result.2 := by
  cases h with
  | ok _ hSame => exact hSame
  | error _ _ => exact .refl table

theorem FoundOrAdded.of_error {error : ChipError} (hError : result.1 = .error error) :
  (∀ counter, ¬ Holds table fabricIndex nodeId isControl counter) ∧
    NoRoom table fabricIndex isControl := by
  cases h with
  | ok _ _ => cases hError
  | error hAbsent hRoom => exact ⟨hAbsent, hRoom⟩

end

theorem TableIs.pointsTo {place : Nat × Nat} (h : TableIs limits table items)
  (hCall : Transport.findOrAddPeer fabricIndex nodeId isControl table = (.ok place, table')) :
  PointsTo limits table' fabricIndex nodeId isControl place ∧
    SameButPeer fabricIndex nodeId isControl table table' := by
  have hFound := h.findOrAddPeer_cases fabricIndex nodeId isControl
  rw [hCall] at hFound
  rcases hFound with ⟨-, hEq⟩ | hFound
  · cases hEq
  · cases hFound with
    | ok hPoints hSame => exact ⟨hPoints, hSame⟩

theorem Reachable.tableIs (h : Reachable limits table) : ∃ items, TableIs limits table items := by
  induction h with
  | empty => exact ⟨[], .empty limits⟩
  | findOrAddPeer fabricIndex nodeId isControl _ ih =>
    obtain ⟨items, hItems⟩ := ih
    rcases hItems.findOrAddPeer_cases fabricIndex nodeId isControl with ⟨-, hEq⟩ | hFound
    · rw [hEq]
      exact ⟨items, hItems⟩
    · exact hFound.tableIs hItems
  | useCounter counter _ hCall ih =>
    obtain ⟨items, hItems⟩ := ih
    exact ((hItems.pointsTo hCall).1.setCounterAt counter).1
  | removePeer fabricIndex nodeId isControl _ ih =>
    obtain ⟨items, hItems⟩ := ih
    exact (hItems.removePeer fabricIndex nodeId isControl).1
  | fabricRemoved fabricIndex _ ih =>
    obtain ⟨items, hItems⟩ := ih
    exact (hItems.fabricRemoved fabricIndex).1

/-- In every table that calls lead to, no fabric and no node stands twice, used places stand first
and the counts are right; what is done for a peer changes no other peer; and a peer with
proper ids is refused only when it is not there and there is no room for it. -/
theorem peerTable_of_reachable (h : Reachable limits table) :
    WellFormed table ∧
    (∀ fabricIndex nodeId isControl,
      SameButPeer fabricIndex nodeId isControl table
          (findOrAddPeer fabricIndex nodeId isControl table).2 ∧
        SameButPeer fabricIndex nodeId isControl table
          (removePeer limits fabricIndex nodeId isControl table).2 ∧
        ∀ place table', findOrAddPeer fabricIndex nodeId isControl table = (.ok place, table') →
          ∀ counter, SameButPeer fabricIndex nodeId isControl table
            (setCounterAt table' isControl place counter)) ∧
    (∀ fabricIndex, SameButFabric fabricIndex table (fabricRemoved limits fabricIndex table).2) ∧
    ∀ fabricIndex nodeId isControl error,
      (findOrAddPeer fabricIndex nodeId isControl table).1 = .error error →
      fabricIndex = undefinedFabricIndex ∨ nodeId = undefinedNodeId ∨
        (∀ counter, ¬ Holds table fabricIndex nodeId isControl counter) ∧
          NoRoom table fabricIndex isControl := by
  obtain ⟨items, hItems⟩ := h.tableIs
  refine ⟨hItems.wellFormed, ?_, ?_, ?_⟩
  · intro fabricIndex nodeId isControl
    refine ⟨?_, (hItems.removePeer fabricIndex nodeId isControl).2, ?_⟩
    · rcases hItems.findOrAddPeer_cases fabricIndex nodeId isControl with ⟨-, hEq⟩ | hFound
      · rw [hEq]
        exact .refl table
      · exact hFound.sameButPeer
    · intro place table' hCall counter
      obtain ⟨hPoints, hSame⟩ := hItems.pointsTo hCall
      exact hSame.trans (hPoints.setCounterAt counter).2
  · exact fun fabricIndex => (hItems.fabricRemoved fabricIndex).2
  · intro fabricIndex nodeId isControl error hError
    rcases hItems.findOrAddPeer_cases fabricIndex nodeId isControl with ⟨hIds, -⟩ | hFound
    · exact hIds.imp_right .inl
    · exact .inr (.inr (hFound.of_error hError))

/-- A build with room for two fabrics of two peers of each kind. -/
def twoByTwo : PeerLimits where
  fabrics := 2
  dataPeers := 2
  controlPeers := 2
  dataPeers_pos := by decide
  controlPeers_pos := by decide
  dataPeers_lt := by decide
  controlPeers_lt := by decide

/-- Two fabrics are added, and the first one goes with its only peer: the second one is
found in its place. -/
theorem peerTable_of_reachable_compacted :
    WellFormed (removePeer twoByTwo 1 10 false (findOrAddPeer 2 20 false
      (findOrAddPeer 1 10 false (.empty twoByTwo : GroupPeerTable 32)).2).2).2 :=
  (peerTable_of_reachable (.removePeer 1 10 false (.findOrAddPeer 2 20 false
    (.findOrAddPeer 1 10 false .empty)))).1

/-- With an undefined id, a peer is refused although the table is empty. -/
theorem not_refused_only_full :
    ¬ ∀ (limits : PeerLimits) (table : GroupPeerTable 32), Reachable limits table →
      ∀ fabricIndex nodeId isControl error,
        (findOrAddPeer fabricIndex nodeId isControl table).1 = .error error →
        (∀ counter, ¬ Holds table fabricIndex nodeId isControl counter) ∧
          NoRoom table fabricIndex isControl := by
  intro h
  have hRoom := (h twoByTwo _ .empty 1 0 false .invalidArgument rfl).2
  rcases hRoom with ⟨fabric, hMem, hIndex, -⟩ | ⟨-, hFull⟩
  · rw [List.eq_of_mem_replicate hMem] at hIndex
    exact absurd hIndex (by decide)
  · exact hFull _ List.mem_cons_self rfl

end Chip.Transport
