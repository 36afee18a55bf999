import Chip.Support.BitMapObjectPool

/-! A pool of objects from the heap: a list of nodes that point to the objects. The node of an
object that is released during an iteration stays in the list until all iterations are over. -/
namespace Chip.ObjectPool

open List VisitedPool

structure HeapObjectListNode where
  address : Nat
  mObject : Option Nat

/-- The nodes are in the order of `mNext`, from the one after the list itself on. -/
structure HeapObjectList where
  nodes : List HeapObjectListNode
  mIterationDepth : Nat
  mHaveDeferredNodeRemovals : Bool

def objects (nodes : List HeapObjectListNode) : List Nat := nodes.filterMap (·.mObject)

namespace HeapObjectList

def append (s : HeapObjectList) (node : HeapObjectListNode) : HeapObjectList :=
  { s with nodes := s.nodes ++ [node] }

def remove (s : HeapObjectList) (address : Nat) : HeapObjectList :=
  { s with nodes := s.nodes.filter (·.address ≠ address) }

def findNode (s : HeapObjectList) (object : Nat) : Option HeapObjectListNode :=
  s.nodes.find? (·.mObject = some object)

def clear (s : HeapObjectList) (address : Nat) : HeapObjectList :=
  { s with nodes := s.nodes.map fun node => if node.address = address then { node with mObject := none } else node }

/-- The loop of an iteration, over the rest of the list, up to a node that has an object. -/
def seek (nodes : List HeapObjectListNode) : Option Nat :=
  (nodes.find? (·.mObject.isSome)).map (·.address)

/-- The loop goes on behind the node that it stands on, if that is in the list. -/
def next (s : HeapObjectList) (address : Nat) : Option (Option Nat) :=
  match s.nodes.dropWhile (·.address ≠ address) with
  | [] => none
  | _ :: rest => some (seek rest)

def leave (s : HeapObjectList) : HeapObjectList :=
  let mIterationDepth := s.mIterationDepth - 1
  if mIterationDepth = 0 ∧ s.mHaveDeferredNodeRemovals then
    ⟨s.nodes.filter (·.mObject.isSome), mIterationDepth, false⟩
  else { s with mIterationDepth := mIterationDepth }

end HeapObjectList

section Objects

variable {nodes before after : List HeapObjectListNode} {node : HeapObjectListNode} {object : Nat}

theorem mem_objects : object ∈ objects nodes ↔ ∃ node ∈ nodes, node.mObject = some object := by
  unfold objects
  exact mem_filterMap

theorem objects_append : objects (before ++ after) = objects before ++ objects after :=
  filterMap_append

theorem objects_cons_some (hObject : node.mObject = some object) :
  objects (node :: nodes) = object :: objects nodes := by
  unfold objects
  rw [filterMap_cons_some hObject]

theorem objects_of_isNone (hNone : ∀ node ∈ nodes, node.mObject = none) : objects nodes = [] := by
  unfold objects
  exact filterMap_eq_nil_iff.2 hNone

theorem objects_filter_isSome : objects (nodes.filter (·.mObject.isSome)) = objects nodes := by
  induction nodes with
  | nil => rfl
  | cons node nodes ih =>
    unfold objects at ih ⊢
    cases hObject : node.mObject with
    | none => rw [filter_cons_of_neg (by simp [hObject]), ih, filterMap_cons_none hObject]
    | some object =>
      rw [filter_cons_of_pos (by simp [hObject]), filterMap_cons_some hObject,
        filterMap_cons_some hObject, ih]

variable {other : HeapObjectListNode}

section

variable (hAddresses : ((before ++ node :: after).map (·.address)).Nodup)
include hAddresses

theorem address_ne_of_before (hOther : other ∈ before) : other.address ≠ node.address := by
  rw [map_append, map_cons, nodup_append] at hAddresses
  exact hAddresses.2.2 _ (mem_map_of_mem hOther) _ mem_cons_self

theorem find?_address : (before ++ node :: after).find? (·.address = node.address) = some node := by
  have hBefore : before.find? (fun other => decide (other.address = node.address)) = none := by
    rw [find?_eq_none]
    intro other hOther
    simpa using address_ne_of_before hAddresses hOther
  rw [find?_append, hBefore, Option.none_or, find?_cons_of_pos (by simp)]

theorem dropWhile_address :
  (before ++ node :: after).dropWhile (·.address ≠ node.address) = node :: after := by
  rw [dropWhile_append_of_pos fun other hOther => decide_eq_true (address_ne_of_before hAddresses hOther),
    dropWhile_cons_of_neg (by simp)]

end

theorem eq_of_address (hAddresses : (nodes.map (·.address)).Nodup) (hNode : node ∈ nodes)
  (hOther : other ∈ nodes) (hSame : other.address = node.address) : other = node :=
  inj_on_of_nodup_map hAddresses hOther hNode hSame

theorem eq_of_mObject (hObjects : (objects nodes).Nodup) (hNode : node ∈ nodes) (hOther : other ∈ nodes)
  (hObject : node.mObject = some object) (hSame : other.mObject = some object) :
  other = node := by
  obtain ⟨before, after, rfl⟩ := append_of_mem hNode
  rw [objects_append, objects_cons_some hObject, nodup_append, nodup_cons] at hObjects
  obtain ⟨-, ⟨hAfter, -⟩, hBefore⟩ := hObjects
  rcases mem_append.1 hOther with hMem | hMem
  · exact absurd rfl (hBefore object (mem_objects.2 ⟨other, hMem, hSame⟩) object mem_cons_self)
  · rcases mem_cons.1 hMem with rfl | hMem
    · rfl
    · exact absurd (mem_objects.2 ⟨other, hMem, hSame⟩) hAfter

end Objects

namespace HeapObjectList

variable {s : HeapObjectList} {address object : Nat}
variable {nodes : List HeapObjectListNode}

theorem mem_objects_clear :
  object ∈ objects (nodes.map fun node => if node.address = address then { node with mObject := none } else node) ↔
    ∃ node ∈ nodes, node.address ≠ address ∧ node.mObject = some object := by
  simp only [mem_objects, mem_map, exists_exists_and_eq_and]
  refine exists_congr fun node => and_congr_right fun _ => ?_
  by_cases hAddress : node.address = address
  · simp [hAddress]
  · simp [hAddress]

theorem mem_objects_remove_clear : object ∈ objects ((s.clear address).remove address).nodes ↔
  ∃ node ∈ s.nodes, node.address ≠ address ∧ node.mObject = some object := by
  rw [← mem_objects_clear, mem_objects, mem_objects]
  unfold remove clear
  dsimp only
  constructor
  · rintro ⟨node, hNode, hObject⟩
    exact ⟨node, mem_of_mem_filter hNode, hObject⟩
  · rintro ⟨node, hNode, hObject⟩
    refine ⟨node, mem_filter.2 ⟨hNode, decide_eq_true fun hAddress => ?_⟩, hObject⟩
    obtain ⟨before, -, rfl⟩ := mem_map.1 hNode
    by_cases hBefore : before.address = address
    · rw [if_pos hBefore] at hObject
      cases hObject
    · rw [if_neg hBefore] at hAddress
      exact hBefore hAddress

theorem clear_addresses : (s.clear address).nodes.map (·.address) = s.nodes.map (·.address) := by
  unfold clear
  rw [map_map]
  refine map_congr_left fun node _ => ?_
  rw [Function.comp_apply]
  split <;> rfl

theorem objects_clear_sublist : (objects (s.clear address).nodes).Sublist (objects s.nodes) := by
  unfold clear
  dsimp only
  induction s.nodes with
  | nil => exact List.Sublist.refl _
  | cons node nodes ih =>
    unfold objects at ih ⊢
    rw [map_cons]
    by_cases hAddress : node.address = address
    · rw [if_pos hAddress, filterMap_cons_none rfl]
      exact ih.trans ((sublist_cons_self node nodes).filterMap _)
    · rw [if_neg hAddress]
      cases hObject : node.mObject with
      | none => rwa [filterMap_cons_none hObject, filterMap_cons_none hObject]
      | some object =>
        rw [filterMap_cons_some hObject, filterMap_cons_some hObject]
        exact ih.cons_cons object

theorem seek_none (hNone : seek nodes = none) : objects nodes = [] := by
  rw [seek, Option.map_eq_none_iff, find?_eq_none] at hNone
  exact objects_of_isNone fun node hNode => Option.not_isSome_iff_eq_none.1 (hNone node hNode)

theorem seek_some {found : Nat} (hSome : seek nodes = some found) :
  ∃ before node object after, nodes = before ++ node :: after ∧ node.address = found ∧
    node.mObject = some object ∧ objects nodes = object :: objects after := by
  obtain ⟨node, hFind, hAddress⟩ := Option.map_eq_some_iff.1 hSome
  obtain ⟨hObject, before, after, rfl, hBefore⟩ := find?_eq_some_iff_append.1 hFind
  obtain ⟨object, hObject⟩ := Option.isSome_iff_exists.1 hObject
  refine ⟨before, node, object, after, rfl, hAddress, hObject, ?_⟩
  have hNone : objects before = [] := objects_of_isNone fun other hOther => by
    simpa using hBefore other hOther
  rw [objects_append, hNone, nil_append, objects_cons_some hObject]

theorem objects_leave : objects s.leave.nodes = objects s.nodes := by
  unfold leave
  dsimp only
  split
  · exact objects_filter_isSome
  · rfl

theorem leave_nodes_sublist : s.leave.nodes.Sublist s.nodes := by
  unfold leave
  dsimp only
  split
  · exact filter_sublist
  · exact List.Sublist.refl _

theorem leave_mIterationDepth : s.leave.mIterationDepth = s.mIterationDepth - 1 := by
  unfold leave
  dsimp only
  split <;> rfl

theorem leave_nodes (hDepth : s.mIterationDepth - 1 ≠ 0) : s.leave.nodes = s.nodes := by
  unfold leave
  dsimp only
  rw [if_neg fun h => hDepth h.1]

end HeapObjectList

structure HeapObjectPool extends Statistics where
  mObjects : HeapObjectList

/-- What the heap has to offer for an object and for its node. -/
structure Place where
  object : Option Nat
  node : Option Nat

namespace HeapObjectPool

def start : HeapObjectPool := ⟨⟨0, 0⟩, ⟨[], 0, false⟩⟩

/-- Without memory for the node, the new object is not in the pool, and is not deleted either. -/
def createObject (s : HeapObjectPool) (place : Place) : Option Nat × HeapObjectPool :=
  match place.object, place.node with
  | some object, some address =>
    (some object, ⟨s.increaseUsage, s.mObjects.append ⟨address, some object⟩⟩)
  | _, _ => (none, s)

def releaseObject (s : HeapObjectPool) (object : Nat) : Option HeapObjectPool := do
  let node ← s.mObjects.findNode object
  let cleared := s.mObjects.clear node.address
  let mObjects :=
    if cleared.mIterationDepth = 0 then cleared.remove node.address
    else { cleared with mHaveDeferredNodeRemovals := true }
  some ⟨s.decreaseUsage, mObjects⟩

def live (s : HeapObjectPool) : List Nat := objects s.mObjects.nodes

end HeapObjectPool

/-- `HeapObjectPool`; an iteration stands on the node of an address. -/
def heapObjectPool : Pool Place HeapObjectPool Nat where
  create := HeapObjectPool.createObject
  release := HeapObjectPool.releaseObject
  enter := fun s => { s with mObjects := { s.mObjects with mIterationDepth := s.mObjects.mIterationDepth + 1 } }
  first := fun s => HeapObjectList.seek s.mObjects.nodes
  next := fun s address => s.mObjects.next address
  leave := fun s => { s with mObjects := s.mObjects.leave }
  object := fun s address => (s.mObjects.nodes.find? (·.address = address)).bind (·.mObject)
  live := HeapObjectPool.live
  allocated := fun s => s.mAllocated

namespace HeapObjectPool

/-- What the heap promises: memory that it offers is not in use. -/
def Fresh (s : State HeapObjectPool Nat) : Call Place → Prop
  | .create place => (∀ object ∈ place.object, object ∉ s.pool.live) ∧
      ∀ address ∈ place.node, address ∉ s.pool.mObjects.nodes.map (·.address)
  | _ => True

def Allowed (s : State HeapObjectPool Nat) (call : Call Place) : Prop :=
  heapObjectPool.Legal s call ∧ Fresh s call

def Full (_ : State HeapObjectPool Nat) : Call Place → Prop
  | .create place => place.object = none ∨ place.node = none
  | _ => False

/-- What holds of an iteration while its visitor is called: its node is in the list, and the objects
that were live all the time and that it has not visited are those of the nodes behind. -/
structure Underway (s : HeapObjectPool) (iteration : Iteration Nat) : Prop where
  steady_live : ∀ object ∈ iteration.steady, object ∈ s.live
  stands : ∃ before node after, s.mObjects.nodes = before ++ node :: after ∧
    node.address = iteration.cursor ∧ iteration.toHistory.Counted (· ∉ objects after)

structure Good (s : State HeapObjectPool Nat) : Prop where
  accounted : heapObjectPool.Accounted s.pool
  addresses : (s.pool.mObjects.nodes.map (·.address)).Nodup
  depth : s.pool.mObjects.mIterationDepth = s.iterations.length
  underway : ∀ iteration ∈ s.iterations, Underway s.pool iteration

section Iterations

variable {s s' : HeapObjectPool} {iteration : Iteration Nat}

theorem Underway.congr (h : Underway s iteration) (hNodes : s'.mObjects.nodes = s.mObjects.nodes) :
  Underway s' iteration := by
  obtain ⟨hLive, hStands⟩ := h
  refine ⟨?_, ?_⟩
  · unfold live
    rwa [hNodes]
  · rwa [hNodes]

theorem Underway.create (h : Underway s iteration) {node : HeapObjectListNode} {object : Nat}
  (hObject : node.mObject = some object) (hNew : object ∉ s.live)
  (hNodes : s'.mObjects.nodes = s.mObjects.nodes ++ [node]) : Underway s' iteration := by
  obtain ⟨before, here, after, hSplit, hCursor, hCounted⟩ := h.stands
  refine ⟨fun other hSteady => ?_, before, here, after ++ [node], ?_, hCursor, ?_⟩
  · unfold live
    rw [hNodes, objects_append]
    exact mem_append_left _ (h.steady_live other hSteady)
  · rw [hNodes, hSplit, append_assoc, cons_append]
  · refine hCounted.congr fun other hSteady => ?_
    have hOther : other ≠ object := by
      rintro rfl
      exact hNew (h.steady_live other hSteady)
    rw [objects_append, objects_cons_some hObject, mem_append, not_or]
    refine and_iff_left ?_
    rintro (_ | ⟨_, hMem⟩)
    · exact hOther rfl
    · exact not_mem_nil hMem

theorem Underway.release (h : Underway s iteration) {node : HeapObjectListNode} {object : Nat}
  (hOnly : ∀ other ∈ s.mObjects.nodes, other.address = node.address → other.mObject = some object)
  (hMem : ∀ other, other ∈ s'.live ↔ other ≠ object ∧ other ∈ s.live)
  (hNodes : s'.mObjects.nodes = (s.mObjects.clear node.address).nodes) :
  Underway s' (iteration.forget object) := by
  obtain ⟨before, here, after, hSplit, hCursor, hCounted⟩ := h.stands
  refine ⟨fun other hSteady => ?_, ?_⟩
  · obtain ⟨hSteady, hOther⟩ := mem_filter.1 hSteady
    exact (hMem other).2 ⟨of_decide_eq_true hOther, h.steady_live other hSteady⟩
  · rw [hNodes, HeapObjectList.clear, hSplit]
    dsimp only
    rw [map_append, map_cons]
    refine ⟨_, _, _, rfl, ?_, ?_⟩
    · refine Eq.trans ?_ hCursor
      split <;> rfl
    · refine (hCounted.forget object).congr fun other hSteady => not_congr ?_
      have hOther : other ≠ object := of_decide_eq_true (mem_filter.1 hSteady).2
      rw [HeapObjectList.mem_objects_clear, mem_objects]
      refine exists_congr fun later => and_congr_right fun hLater => and_iff_right_of_imp fun hLaterObject => ?_
      intro hAddress
      have hSame := hOnly later (hSplit ▸ mem_append_right _ (mem_cons_of_mem _ hLater)) hAddress
      rw [hLaterObject] at hSame
      exact hOther (Option.some.inj hSame)

end Iterations

theorem releaseObject_eq {s : HeapObjectPool} {object : Nat} (hAddresses : (s.mObjects.nodes.map (·.address)).Nodup)
  (hNodup : s.live.Nodup) (hLive : object ∈ s.live) :
  ∃ (node : HeapObjectListNode) (s' : HeapObjectPool), s.releaseObject object = some s' ∧
    (∀ other ∈ s.mObjects.nodes, other.address = node.address → other.mObject = some object) ∧
    (∀ other, other ∈ s'.live ↔ other ≠ object ∧ other ∈ s.live) ∧
    s'.live.Nodup ∧ (s'.mObjects.nodes.map (·.address)).Nodup ∧
    s'.mAllocated = s.mAllocated - 1 ∧ s'.mObjects.mIterationDepth = s.mObjects.mIterationDepth ∧
    (s.mObjects.mIterationDepth ≠ 0 → s'.mObjects.nodes = (s.mObjects.clear node.address).nodes) := by
  obtain ⟨owner, hOwner, hOwns⟩ := mem_objects.1 hLive
  obtain ⟨node, hFind⟩ : ∃ node, s.mObjects.findNode object = some node :=
    Option.isSome_iff_exists.1 (find?_isSome.2 ⟨owner, hOwner, decide_eq_true hOwns⟩)
  have hNode : node ∈ s.mObjects.nodes := mem_of_find?_eq_some hFind
  have hObject : node.mObject = some object := by
    unfold HeapObjectList.findNode at hFind
    simpa using find?_some hFind
  have hOnly : ∀ other ∈ s.mObjects.nodes, other.address = node.address → other.mObject = some object := by
    intro other hOther hSame
    rw [eq_of_address hAddresses hNode hOther hSame, hObject]
  -- The objects of the nodes of other addresses are the other objects.
  have hOthers : ∀ other, (∃ later ∈ s.mObjects.nodes, later.address ≠ node.address ∧
      later.mObject = some other) ↔ other ≠ object ∧ other ∈ s.live := by
    intro other
    constructor
    · rintro ⟨later, hLater, hAddress, hLaterObject⟩
      refine ⟨?_, mem_objects.2 ⟨later, hLater, hLaterObject⟩⟩
      rintro rfl
      exact hAddress (congrArg _ (eq_of_mObject hNodup hNode hLater hObject hLaterObject))
    · rintro ⟨hOther, hOtherLive⟩
      obtain ⟨later, hLater, hLaterObject⟩ := mem_objects.1 hOtherLive
      refine ⟨later, hLater, fun hAddress => hOther ?_, hLaterObject⟩
      have hSame := hOnly later hLater hAddress
      rw [hLaterObject] at hSame
      exact Option.some.inj hSame
  have hClearNodup : (objects (s.mObjects.clear node.address).nodes).Nodup :=
    hNodup.sublist HeapObjectList.objects_clear_sublist
  have hClearAddresses : ((s.mObjects.clear node.address).nodes.map (·.address)).Nodup := by
    rwa [HeapObjectList.clear_addresses]
  unfold releaseObject
  rw [hFind, Option.bind_eq_bind, Option.bind_some]
  by_cases hDepth : s.mObjects.mIterationDepth = 0
  · have hDepth' : (s.mObjects.clear node.address).mIterationDepth = 0 := hDepth
    dsimp only
    rw [if_pos hDepth']
    refine ⟨node, _, rfl, hOnly, fun other => ?_, ?_, ?_, rfl, rfl, fun h => absurd hDepth h⟩
    · rw [← hOthers]
      exact HeapObjectList.mem_objects_remove_clear
    · exact hClearNodup.sublist (filter_sublist.filterMap _)
    · exact hClearAddresses.sublist (filter_sublist.map _)
  · have hDepth' : (s.mObjects.clear node.address).mIterationDepth ≠ 0 := hDepth
    dsimp only
    rw [if_neg hDepth']
    refine ⟨node, _, rfl, hOnly, fun other => ?_, hClearNodup, hClearAddresses, rfl, rfl, fun _ => rfl⟩
    rw [← hOthers]
    exact HeapObjectList.mem_objects_clear

theorem good_start : Good ⟨start, []⟩ :=
  ⟨⟨nodup_nil, rfl⟩, nodup_nil, rfl, fun _ h => (not_mem_nil h).elim⟩

theorem Good.left {s : State HeapObjectPool Nat} {outer : List (Iteration Nat)}
  (hAccounted : heapObjectPool.Accounted s.pool) (hAddresses : (s.pool.mObjects.nodes.map (·.address)).Nodup)
  (hDepth : s.pool.mObjects.mIterationDepth = outer.length + 1)
  (hOuter : ∀ iteration ∈ outer, Underway s.pool iteration) :
  Good ⟨heapObjectPool.leave s.pool, outer⟩ ∧ (heapObjectPool.leave s.pool).live = s.pool.live := by
  have hLive : (heapObjectPool.leave s.pool).live = s.pool.live := HeapObjectList.objects_leave
  refine ⟨⟨⟨?_, ?_⟩, ?_, ?_, fun iteration hIteration => ?_⟩, hLive⟩
  · show (heapObjectPool.leave s.pool).live.Nodup
    rw [hLive]
    exact hAccounted.nodup
  · exact hAccounted.allocated.trans (congrArg length hLive.symm)
  · exact hAddresses.sublist (HeapObjectList.leave_nodes_sublist.map _)
  · exact HeapObjectList.leave_mIterationDepth.trans (by rw [hDepth, Nat.add_sub_cancel])
  · refine (hOuter iteration hIteration).congr (HeapObjectList.leave_nodes ?_)
    have hPos : 0 < outer.length := length_pos_of_mem hIteration
    omega

theorem resume_serves (s : State HeapObjectPool Nat) (Reason : Prop) {pool : HeapObjectPool}
  {history : History} {outer : List (Iteration Nat)} {before rest : List HeapObjectListNode}
  (hBefore : s.pool.live = pool.live) (hAccounted : heapObjectPool.Accounted pool)
  (hAddresses : (pool.mObjects.nodes.map (·.address)).Nodup)
  (hDepth : pool.mObjects.mIterationDepth = outer.length + 1)
  (hOuter : ∀ iteration ∈ outer, Underway pool iteration)
  (hNodes : pool.mObjects.nodes = before ++ rest)
  (hLive : ∀ object ∈ history.steady, object ∈ pool.live)
  (hCounted : history.Counted (· ∉ objects rest)) :
  ∃ outcome s', heapObjectPool.resume pool (HeapObjectList.seek rest) history outer = some (outcome, s') ∧
    heapObjectPool.Sound Reason s s' outcome ∧ Good s' := by
  cases hSeek : HeapObjectList.seek rest with
  | none =>
    obtain ⟨hGood, hLeft⟩ := Good.left (s := ⟨pool, outer⟩) hAccounted hAddresses hDepth hOuter
    refine ⟨_, _, rfl, ⟨hCounted.finished fun object _ => ?_, hLeft.trans hBefore.symm⟩, hGood⟩
    rw [HeapObjectList.seek_none hSeek]
    exact not_mem_nil
  | some found =>
    obtain ⟨skipped, node, object, after, hSplit, rfl, hObject, hObjects⟩ := HeapObjectList.seek_some hSeek
    have hAll : pool.mObjects.nodes = (before ++ skipped) ++ node :: after := by
      rw [hNodes, hSplit, append_assoc]
    have hNode : heapObjectPool.object pool node.address = some object := by
      have hFind : pool.mObjects.nodes.find? (·.address = node.address) = some node := by
        rw [hAll] at hAddresses ⊢
        exact find?_address hAddresses
      show (pool.mObjects.nodes.find? (·.address = node.address)).bind (·.mObject) = some object
      rw [hFind, Option.bind_some, hObject]
    have hMember : object ∈ pool.live :=
      mem_objects.2 ⟨node, hAll ▸ mem_append_right _ mem_cons_self, hObject⟩
    have hOnce : object ∉ objects after := by
      have hNodup : (objects pool.mObjects.nodes).Nodup := hAccounted.nodup
      rw [hNodes, objects_append, hObjects] at hNodup
      exact (nodup_cons.1 (nodup_append.1 hNodup).2.1).1
    refine ⟨.visited object,
      ⟨pool, ⟨⟨history.visited ++ [object], history.steady⟩, node.address⟩ :: outer⟩, ?_, ⟨?_, ?_⟩, ?_⟩
    · unfold Pool.resume
      dsimp only
      rw [hNode]
      rfl
    · show object ∈ s.pool.live
      rw [hBefore]
      exact hMember
    · exact hBefore.symm
    · refine ⟨hAccounted, hAddresses, hDepth, ?_⟩
      rintro iteration (_ | ⟨_, hMem⟩)
      · refine ⟨hLive, _, node, after, hAll, rfl, ?_⟩
        refine hCounted.visit (fun _ hPassed => ?_) fun other _ => ?_
        · rw [hObjects] at hPassed
          exact hPassed mem_cons_self
        · rw [hObjects, mem_cons, not_or]
          by_cases hSame : other = object
          · simp only [hSame, hOnce, not_false_eq_true, or_true]
          · simp only [hSame, not_false_eq_true, true_and, or_false]
      · exact hOuter iteration hMem

section Calls

variable {s : State HeapObjectPool Nat} (h : Good s)
include h

theorem create_serves (place : Place) (hFresh : Fresh s (.create place)) : ∃ outcome s',
  heapObjectPool.step s (.create place) = some (outcome, s') ∧
    heapObjectPool.Sound (place.object = none ∨ place.node = none) s s' outcome ∧ Good s' := by
  obtain ⟨offered, node⟩ := place
  cases offered with
  | none => exact ⟨.created none, s, rfl, ⟨Or.inl rfl, rfl⟩, h⟩
  | some object =>
    cases node with
    | none => exact ⟨.created none, s, rfl, ⟨Or.inr rfl, rfl⟩, h⟩
    | some address =>
      have hNew : object ∉ s.pool.live := hFresh.1 object rfl
      have hNewNode := hFresh.2 address rfl
      let pool : HeapObjectPool := ⟨s.pool.increaseUsage, s.pool.mObjects.append ⟨address, some object⟩⟩
      have hLive : pool.live = s.pool.live ++ [object] := by
        show objects (s.pool.mObjects.nodes ++ [⟨address, some object⟩]) = _
        rw [objects_append]
        rfl
      refine ⟨.created (some object), ⟨pool, s.iterations⟩, rfl, ⟨hNew, fun other => ?_⟩, ⟨⟨?_, ?_⟩, ?_, ?_, ?_⟩⟩
      · show other ∈ pool.live ↔ _
        rw [hLive, mem_append, mem_singleton, or_comm]
        exact Iff.rfl
      · show pool.live.Nodup
        rw [hLive]
        exact nodup_append.2 ⟨h.accounted.nodup, nodup_singleton object, by grind⟩
      · show s.pool.mAllocated + 1 = pool.live.length
        rw [hLive, length_append]
        exact congrArg (· + 1) h.accounted.allocated
      · show ((s.pool.mObjects.nodes ++ [(⟨address, some object⟩ : HeapObjectListNode)]).map (·.address)).Nodup
        rw [map_append]
        exact nodup_append.2 ⟨h.addresses, nodup_singleton address, by grind⟩
      · exact h.depth
      · exact fun iteration hIteration => (h.underway iteration hIteration).create rfl hNew rfl

theorem release_serves {object : Nat} (hLive : object ∈ s.pool.live) {Reason : Prop} : ∃ outcome s',
  heapObjectPool.step s (.release (some object)) = some (outcome, s') ∧
    heapObjectPool.Sound Reason s s' outcome ∧ Good s' := by
  obtain ⟨node, pool, hRelease, hOnly, hMem, hNodup, hAddresses, hCount, hDepth, hNodes⟩ :=
    releaseObject_eq h.addresses h.accounted.nodup hLive
  have hGained : ∀ other, other ∈ s.pool.live ↔ other = object ∨ other ∈ pool.live := by
    intro other
    rw [hMem]
    by_cases hSame : other = object
    · simp only [hSame, hLive, true_or]
    · simp only [hSame, ne_eq, not_false_eq_true, true_and, false_or]
  have hLength : s.pool.live.length = pool.live.length + 1 :=
    length_gained hNodup h.accounted.nodup (fun hStill => ((hMem _).1 hStill).1 rfl) hGained
  have hAllocated : pool.mAllocated = pool.live.length := by
    have hBefore : s.pool.mAllocated = s.pool.live.length := h.accounted.allocated
    omega
  refine ⟨.released (some object), ⟨pool, s.iterations.map (·.forget object)⟩, ?_, hMem,
    ⟨⟨hNodup, hAllocated⟩, hAddresses, ?_, fun iteration hIteration => ?_⟩⟩
  · exact congrArg (fun released : Option _ => released.bind fun pool => some (Outcome.released (some object),
      (⟨pool, s.iterations.map (·.forget object)⟩ : State _ _))) hRelease
  · rw [length_map]
    exact hDepth.trans h.depth
  · obtain ⟨before, hMember, rfl⟩ := mem_map.1 hIteration
    refine (h.underway before hMember).release hOnly hMem (hNodes ?_)
    rw [h.depth]
    exact Nat.ne_of_gt (length_pos_of_mem hMember)

theorem forEach_serves {Reason : Prop} : ∃ outcome s', heapObjectPool.step s .forEach = some (outcome, s') ∧
  heapObjectPool.Sound Reason s s' outcome ∧ Good s' := by
  have hAccounted : heapObjectPool.Accounted (heapObjectPool.enter s.pool) :=
    ⟨h.accounted.nodup, h.accounted.allocated⟩
  have hCounted : (⟨[], s.pool.live⟩ : History).Counted (· ∉ objects s.pool.mObjects.nodes) :=
    History.Counted.start _ fun object hLive hPassed => hPassed hLive
  have hNodes : (heapObjectPool.enter s.pool).mObjects.nodes = [] ++ s.pool.mObjects.nodes := rfl
  exact resume_serves s Reason rfl hAccounted h.addresses (congrArg (· + 1) h.depth)
    (fun iteration hIteration => (h.underway iteration hIteration).congr rfl) hNodes
    (fun object hLive => hLive) hCounted

theorem returns_serves (result : Loop) (hIterations : s.iterations ≠ []) {Reason : Prop} : ∃ outcome s',
  heapObjectPool.step s (.returns result) = some (outcome, s') ∧
    heapObjectPool.Sound Reason s s' outcome ∧ Good s' := by
  obtain ⟨pool, iterations⟩ := s
  cases iterations with
  | nil => exact absurd rfl hIterations
  | cons iteration outer =>
    have hOuter : ∀ other ∈ outer, Underway pool other := fun other hOther =>
      h.underway other (mem_cons_of_mem _ hOther)
    cases result with
    | kBreak =>
      obtain ⟨hGood, hLeft⟩ :=
        Good.left (s := ⟨pool, iteration :: outer⟩) h.accounted h.addresses h.depth hOuter
      exact ⟨.broken, _, rfl, hLeft, hGood⟩
    | kContinue =>
      obtain ⟨hLive, before, node, after, hSplit, hCursor, hCounted⟩ := h.underway iteration mem_cons_self
      have hAddresses : ((before ++ node :: after).map (·.address)).Nodup := hSplit ▸ h.addresses
      have hNext : heapObjectPool.next pool iteration.cursor = some (HeapObjectList.seek after) := by
        show pool.mObjects.next iteration.cursor = _
        unfold HeapObjectList.next
        rw [hSplit, ← hCursor, dropWhile_address hAddresses]
      have hNodes : pool.mObjects.nodes = (before ++ [node]) ++ after := by
        rw [hSplit, append_assoc]
        rfl
      obtain ⟨outcome, s', hResume, hServed⟩ := resume_serves ⟨pool, iteration :: outer⟩ Reason rfl
        h.accounted h.addresses h.depth hOuter hNodes hLive hCounted
      refine ⟨outcome, s', ?_, hServed⟩
      unfold Pool.step
      dsimp only
      rw [hNext]
      exact hResume

theorem serves (call : Call Place) (hAllowed : Allowed s call) : ∃ outcome s',
  heapObjectPool.step s call = some (outcome, s') ∧
    heapObjectPool.Sound (Full s call) s s' outcome ∧ Good s' := by
  obtain ⟨hLegal, hFresh⟩ := hAllowed
  cases call with
  | create place => exact create_serves h place hFresh
  | release object =>
    cases object with
    | none => exact ⟨.released none, s, rfl, rfl, h⟩
    | some object => exact release_serves h hLegal
  | forEach => exact forEach_serves h
  | returns result => exact returns_serves h result hLegal

end Calls

end HeapObjectPool

end Chip.ObjectPool
