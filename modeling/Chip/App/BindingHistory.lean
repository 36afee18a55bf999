import Chip.App.BindingList

/-! Whole runs of the binding table. A list of bindings with a cursor says what a run
should have built; the table follows it, in memory and through reloads. -/
namespace Chip.App

open List BindingTable

variable {tableSize : Nat}

@[simp] theorem Binding.binding_entry (binding : Binding) : binding.entry.binding = binding := by
  obtain ⟨fabricIndex, localEndpoint, clusterId, target⟩ := binding
  cases target with
  | unicast remote nodeId => rfl
  | multicast groupId =>
    simp [Binding.entry, EmberBindingTableEntry.binding, EmberBindingTableEntry.groupId]

theorem Binding.entry_type (binding : Binding) : binding.entry.type ≠ .unused := by
  unfold Binding.entry
  split
  · exact nofun
  · exact nofun

variable {s : BindingStorage} {slots : List Nat}

theorem loadLoop_spec {next : Nat → Nat} {binding : Nat → Binding} {first : Nat} (fuel : Nat)
  (t : BindingTable) (hLinked : LinkedSlots next first slots nextNullIndex) (hNodup : slots.Nodup)
  (hNull : ∀ i ∈ slots, i ≠ nextNullIndex)
  (hStored : ∀ i ∈ slots, s.entries i = some (binding i, next i)) (hFuel : slots.length < fuel) :
  ∃ t', loadLoop s fuel t first = (.ok (), t') ∧ t'.mHead = t.mHead ∧
    t'.mTail = slots.getLastD t.mTail ∧ t'.mSize = t.mSize + slots.length ∧
    (∀ i ∈ slots, t'.mBindingTable i = (binding i).entry ∧ t'.mNextIndex i = next i) ∧
    ∀ i ∉ slots, t'.mBindingTable i = t.mBindingTable i ∧ t'.mNextIndex i = t.mNextIndex i := by
  induction slots generalizing first fuel t with
  | nil =>
    obtain ⟨fuel, rfl⟩ : ∃ n, fuel = n + 1 := ⟨fuel - 1, by simp at hFuel; omega⟩
    refine ⟨t, ?_, rfl, rfl, rfl, nofun, fun _ _ => ⟨rfl, rfl⟩⟩
    exact if_pos hLinked
  | cons slot slots ih =>
    obtain ⟨fuel, rfl⟩ : ∃ n, fuel = n + 1 := ⟨fuel - 1, by simp at hFuel; omega⟩
    obtain ⟨rfl, hRest⟩ := hLinked
    obtain ⟨hAbsent, hNodup⟩ := nodup_cons.mp hNodup
    obtain ⟨t', hRun, hHead, hTail, hSize, hIn, hOut⟩ := ih fuel
      { (t.setEntry first (binding first).entry).setNext first (next first) with
        mTail := first, mSize := t.mSize + 1 }
      hRest hNodup (fun i hi => hNull i (mem_cons_of_mem _ hi))
      (fun i hi => hStored i (mem_cons_of_mem _ hi))
      (Nat.lt_of_succ_lt_succ (by simpa using hFuel))
    refine ⟨t', ?_, hHead, ?_, ?_, ?_, ?_⟩
    · unfold loadLoop loadEntryFromStorage
      rw [if_neg (hNull first mem_cons_self), hStored first mem_cons_self]
      exact hRun
    · rw [hTail]
      exact (getLastD_cons ..).symm
    · rw [hSize, length_cons]
      simp only
      omega
    · intro i hi
      rcases mem_cons.mp hi with rfl | hi
      · have hSelf := hOut i hAbsent
        simpa [setEntry, setNext] using hSelf
      · exact hIn i hi
    · intro i hi
      obtain ⟨hNe, hNot⟩ := ne_and_not_mem_of_not_mem_cons hi
      have hSame := hOut i hNot
      simpa [setEntry, setNext, hNe] using hSame

theorem Represents.length_le {t : BindingTable} (h : Represents tableSize t s slots) :
  slots.length ≤ tableSize := by
  have hSub : slots ⊆ range tableSize := fun i hi =>
    mem_range.mpr ((h.used i).mp hi).1
  simpa using (h.nodup.subperm hSub).length_le

theorem Represents.reload {t : BindingTable} (h : Represents tableSize t s slots)
  (hSize : tableSize ≤ nextNullIndex) :
  Represents tableSize (BindingTable.loadFromStorage tableSize s).2 s slots ∧
  (BindingTable.loadFromStorage tableSize s).2.bindings slots = t.bindings slots := by
  unfold BindingTable.loadFromStorage
  have hInfo := h.info
  cases hHead : s.listInfo with
  | none =>
    rw [hHead] at hInfo
    have hNil : slots = [] := by
      have hFirst := h.linked.first_eq
      cases slots with
      | nil => rfl
      | cons slot slots =>
        exact absurd (hFirst.symm.trans hInfo.symm) (h.ne_null hSize mem_cons_self)
    subst hNil
    refine ⟨{ Represents.fresh with info := ?_, stored := nofun }, rfl⟩
    rw [hHead]
    rfl
  | some head =>
    rw [hHead] at hInfo
    obtain rfl : head = t.mHead := hInfo
    obtain ⟨t', hRun, hHead', hTail, hCount, hIn, hOut⟩ := loadLoop_spec
      (tableSize + 1) { BindingTable.fresh with mHead := t.mHead } h.linked h.nodup (fun i hi => h.ne_null hSize hi) h.stored
      (Nat.lt_succ_of_le h.length_le)
    simp only [hRun]
    refine ⟨⟨?_, h.nodup, ?_, ?_, ?_, ?_, ?_, ?_⟩, ?_⟩
    · rw [hHead']
      exact h.linked.congr fun i hi => (hIn i hi).2
    · intro i
      by_cases hi : i ∈ slots
      · simp [hi, (hIn i hi).1, ((h.used i).mp hi).1, Binding.entry_type]
      · simp [hi, (hOut i hi).1, BindingTable.fresh, EmberBindingTableEntry.cleared]
    · rw [hTail]
      rfl
    · rw [hCount]
      simp [BindingTable.fresh]
    · intro i hi
      exact (hOut i hi).2
    · rw [hHead, hHead']
      rfl
    · intro i hi
      rw [h.stored i hi, (hIn i hi).1, (hIn i hi).2, Binding.binding_entry]
    · refine map_congr_left fun i hi => ?_
      rw [(hIn i hi).1, Binding.binding_entry]

inductive BindingOp where
  | add (entry : EmberBindingTableEntry)
  | begin
  | next
  | removeAt
  | reload

/-- A list of bindings and the position of the iterator in it, if it is not at the end. -/
structure BindingSpec where
  bindings : List Binding
  cursor : Option Nat

/-- A cursor at a position, or at the end when the list is not that long. -/
def BindingSpec.seek (bindings : List Binding) (position : Nat) : BindingSpec where
  bindings := bindings
  cursor := if position < bindings.length then some position else none

/-- What a call does to the list, given whether it succeeded. A call that failed leaves
the bindings as they are. -/
def BindingSpec.step (spec : BindingSpec) : BindingOp → Bool → BindingSpec
  | .add entry, true => { spec with bindings := spec.bindings ++ [entry.binding] }
  | .add _, false => spec
  | .begin, _ => .seek spec.bindings 0
  | .next, _ => spec.cursor.elim spec fun position => .seek spec.bindings (position + 1)
  | .removeAt, true =>
    spec.cursor.elim spec fun position => .seek (spec.bindings.eraseIdx position) position
  | .removeAt, false => spec.cursor.elim spec fun position => .seek spec.bindings (position + 1)
  | .reload, _ => { spec with cursor := none }

/-- A new table takes the place of the old one, of which the iterator was. -/
def BindingTable.reload (tableSize : Nat) : BindingM Unit := fun w =>
  ((loadFromStorage tableSize w.storage).1, { w with
    table := (loadFromStorage tableSize w.storage).2
    iter := ⟨nextNullIndex, nextNullIndex⟩ })

def BindingOp.call (tableSize : Nat) : BindingOp → BindingM Unit
  | .add entry => BindingTable.add tableSize entry
  | .begin => BindingTable.begin
  | .next => BindingIterator.next
  | .removeAt => BindingTable.removeAt
  | .reload => BindingTable.reload tableSize

/-- The table and its specification after a run of calls, whatever each of them returned. -/
def bindingRun (tableSize : Nat) : List BindingOp → BindingWorld → BindingSpec →
  BindingWorld × BindingSpec
  | [], w, spec => (w, spec)
  | op :: ops, w, spec =>
    bindingRun tableSize ops (op.call tableSize w).2
      (spec.step op (op.call tableSize w).1.isOk)

/-- A removal that the table survives: if it is stored, the iterator knows which slot leads
to the removed one, and if it is not, that one is not the last and the iterator was not at
the head before an earlier failure. -/
def BindingWorld.RemovalOrderly (w : BindingWorld) : Prop :=
  w.iter.mIndex = nextNullIndex ∨
  (if w.outcomes.headD true then w.Fresh
    else w.iter.mIndex ≠ w.table.mTail ∧
      (w.iter.mIndex = w.table.mHead ∨ w.iter.mPrevIndex ≠ nextNullIndex))

instance (w : BindingWorld) : Decidable w.RemovalOrderly := inferInstanceAs (Decidable (_ ∨ _))

def OrderlyRun (tableSize : Nat) : List BindingOp → BindingWorld → Prop
  | [], _ => True
  | op :: ops, w =>
    (match op with | .removeAt => w.RemovalOrderly | _ => True) ∧
      OrderlyRun tableSize ops (op.call tableSize w).2

/-- The iterator is at a position of the list, or at its end. At the first position no
slot comes before it. -/
def CursorAt (slots : List Nat) (iter : BindingIterator) : Option Nat → Prop
  | none => iter.mIndex = nextNullIndex
  | some position => slots[position]? = some iter.mIndex ∧
      (position = 0 → iter.mPrevIndex = nextNullIndex)

/-- The table is in the state that its specification describes. -/
structure Implements (tableSize : Nat) (w : BindingWorld) (spec : BindingSpec) (slots : List Nat) :
    Prop where
  represents : Represents tableSize w.table w.storage slots
  bindings : w.table.bindings slots = spec.bindings
  cursor : CursorAt slots w.iter spec.cursor

namespace Implements

variable {w w' : BindingWorld} {spec : BindingSpec} {slots : List Nat}

theorem length_bindings (h : Implements tableSize w spec slots) :
  spec.bindings.length = slots.length := by
  rw [← h.bindings]
  exact length_map ..

theorem seek_cursor {bindings : List Binding} (hLength : bindings.length = slots.length)
  {iter : BindingIterator} {position : Nat}
  (hIndex : iter.mIndex = slots[position]?.getD nextNullIndex)
  (hPrev : position = 0 → iter.mPrevIndex = nextNullIndex) :
  CursorAt slots iter (BindingSpec.seek bindings position).cursor := by
  unfold BindingSpec.seek
  by_cases hLt : position < slots.length
  · simp only [hLength, hLt, ↓reduceIte]
    refine ⟨?_, hPrev⟩
    rw [hIndex, getElem?_eq_getElem hLt]
    rfl
  · simp only [hLength, hLt, ↓reduceIte]
    rw [CursorAt, hIndex, getElem?_eq_none (Nat.le_of_not_lt hLt)]
    rfl

theorem add (hSize : tableSize ≤ nextNullIndex) (h : Implements tableSize w spec slots)
  (entry : EmberBindingTableEntry) :
  ∃ slots', Implements tableSize (add tableSize entry w).2
    (spec.step (.add entry) (add tableSize entry w).1.isOk) slots' := by
  rcases add_spec hSize h.represents entry with ⟨e, w', hRun, hIter, hRep, hBindings⟩ |
    ⟨newIndex, w', hRun, hIter, hRep, hBindings⟩
  · rw [hRun]
    refine ⟨slots, hRep, hBindings.trans h.bindings, ?_⟩
    rw [hIter]
    exact h.cursor
  · rw [hRun]
    refine ⟨slots ++ [newIndex], hRep, ?_, ?_⟩
    · rw [hBindings, h.bindings]
      rfl
    · rw [hIter]
      have hCursor := h.cursor
      change CursorAt _ _ spec.cursor
      cases hAt : spec.cursor with
      | none =>
        rw [hAt] at hCursor
        exact hCursor
      | some position =>
        rw [hAt] at hCursor
        obtain ⟨hSlot, hPrev⟩ := hCursor
        obtain ⟨hLt, -⟩ := List.getElem?_eq_some_iff.mp hSlot
        refine ⟨?_, hPrev⟩
        rw [List.getElem?_append_left hLt]
        exact hSlot

theorem advance (h : Implements tableSize w spec slots) {position : Nat}
  (hSlot : slots[position]? = some w.iter.mIndex) {iter : BindingIterator}
  (hIndex : iter.mIndex = w.table.mNextIndex w.iter.mIndex) :
  CursorAt slots iter (BindingSpec.seek spec.bindings (position + 1)).cursor := by
  refine seek_cursor h.length_bindings ?_ nofun
  rw [hIndex]
  exact h.represents.linked.next_eq hSlot

theorem begin (h : Implements tableSize w spec slots) :
  Implements tableSize (begin w).2 (spec.step .begin true) slots := by
  refine ⟨h.represents, h.bindings, seek_cursor h.length_bindings ?_ fun _ => rfl⟩
  change w.table.mHead = _
  rw [h.represents.linked.first_eq, headD_eq_head?_getD, head?_eq_getElem?]

theorem ne_null_of_cursor (hSize : tableSize ≤ nextNullIndex) (h : Implements tableSize w spec slots)
  {position : Nat} (hAt : spec.cursor = some position) :
  slots[position]? = some w.iter.mIndex ∧ w.iter.mIndex ∈ slots ∧
    w.iter.mIndex ≠ nextNullIndex ∧ (position = 0 → w.iter.mPrevIndex = nextNullIndex) := by
  have hCursor := h.cursor
  rw [hAt] at hCursor
  have hMem := mem_of_getElem? hCursor.1
  exact ⟨hCursor.1, hMem, h.represents.ne_null hSize hMem, hCursor.2⟩

theorem null_of_cursor (h : Implements tableSize w spec slots) (hAt : spec.cursor = none) :
  w.iter.mIndex = nextNullIndex := by
  have hCursor := h.cursor
  rw [hAt] at hCursor
  exact hCursor

theorem next (hSize : tableSize ≤ nextNullIndex) (h : Implements tableSize w spec slots) :
  Implements tableSize (BindingIterator.next w).2 (spec.step .next true) slots := by
  unfold BindingIterator.next BindingSpec.step
  rw [Proc.modify_apply]
  cases hAt : spec.cursor with
  | none =>
    simp only [h.null_of_cursor hAt, ne_eq, not_true_eq_false, ↓reduceIte]
    exact h
  | some position =>
    obtain ⟨hSlot, -, hNe, -⟩ := h.ne_null_of_cursor hSize hAt
    simp only [hNe, ne_eq, not_false_eq_true, ↓reduceIte]
    exact ⟨h.represents, h.bindings, h.advance hSlot rfl⟩

theorem reload (hSize : tableSize ≤ nextNullIndex) (h : Implements tableSize w spec slots)
  (ok : Bool) :
  Implements tableSize (reload tableSize w).2 (spec.step .reload ok) slots := by
  obtain ⟨hRep, hBindings⟩ := h.represents.reload hSize
  exact ⟨hRep, hBindings.trans h.bindings, rfl⟩

section

variable (hSize : tableSize ≤ nextNullIndex) (h : Implements tableSize w spec slots)
include hSize h

theorem removeAt (hOrderly : w.RemovalOrderly) :
  ∃ slots', Implements tableSize (BindingTable.removeAt w).2
    (spec.step .removeAt (BindingTable.removeAt w).1.isOk) slots' := by
  cases hAt : spec.cursor with
  | none =>
    have hNull := h.null_of_cursor hAt
    have hRun : BindingTable.removeAt w = (.error .invalidArgument, w) := by
      unfold BindingTable.removeAt
      rw [Proc.read_bind, Proc.verify_bind, if_neg (not_not.mpr hNull)]
    rw [hRun]
    refine ⟨slots, ?_⟩
    simp only [BindingSpec.step, hAt, Except.isOk, Except.toBool, Option.elim_none]
    exact h
  | some position =>
    obtain ⟨hSlot, hMem, hNe, hPrev⟩ := h.ne_null_of_cursor hSize hAt
    obtain hNull | hOrderly := hOrderly
    · exact absurd hNull hNe
    cases hWrite : w.outcomes.headD true with
    | false =>
      simp only [hWrite, Bool.false_eq_true, ↓reduceIte] at hOrderly
      rw [removeAt_failed hNe hWrite hOrderly.1]
      refine ⟨slots, ?_⟩
      simp only [BindingSpec.step, hAt, Except.isOk, Except.toBool, Option.elim_some]
      exact ⟨h.represents, h.bindings, h.advance hSlot rfl⟩
    | true =>
      simp only [hWrite, ↓reduceIte] at hOrderly
      obtain ⟨hLt, -⟩ := List.getElem?_eq_some_iff.mp hSlot
      have hUnique : ∀ {p}, slots[p]? = some w.iter.mIndex → position = p := fun hp =>
        (List.getElem?_inj hLt h.represents.nodup).mp (hSlot.trans hp.symm)
      have hStart : w.iter.mIndex = w.table.mHead → w.iter.mPrevIndex = nextNullIndex := by
        intro hHead
        refine hPrev (hUnique ?_)
        rw [hHead, h.represents.linked.first_eq, List.headD_eq_head?_getD, List.head?_eq_getElem?,
          List.getElem?_eq_getElem (Nat.zero_lt_of_lt hLt)]
        rfl
      obtain ⟨before, after, w', hSlots, hRun, hIter, hRep, hBindings⟩ :=
        removeAt_spec hSize h.represents hMem hStart hOrderly hWrite
      have hPosition : position = before.length := hUnique (by simp [hSlots])
      have hNext := h.represents.linked.next_eq hSlot
      rw [hRun]
      refine ⟨before ++ after, ?_⟩
      simp only [BindingSpec.step, hAt, Except.isOk, Except.toBool, Option.elim_some]
      refine ⟨hRep, ?_, seek_cursor ?_ ?_ ?_⟩
      · rw [hBindings, h.bindings, hPosition]
        rfl
      · rw [List.length_eraseIdx, h.length_bindings, if_pos hLt, hSlots]
        simp
      · rw [hIter, hNext, hPosition, hSlots, List.getElem?_append_right (Nat.le_succ _),
          List.getElem?_append_right (Nat.le_refl _)]
        simp
      · intro hZero
        rw [hIter]
        exact hPrev hZero

theorem call (op : BindingOp)
  (hOrderly : match op with | .removeAt => w.RemovalOrderly | _ => True) :
  ∃ slots', Implements tableSize (op.call tableSize w).2
    (spec.step op (op.call tableSize w).1.isOk) slots' := by
  cases op with
  | add entry => exact h.add hSize entry
  | begin => exact ⟨slots, h.begin⟩
  | next => exact ⟨slots, h.next hSize⟩
  | removeAt => exact h.removeAt hSize hOrderly
  | reload => exact ⟨slots, h.reload hSize _⟩

theorem run {ops : List BindingOp} (hOrderly : OrderlyRun tableSize ops w) :
  ∃ slots', Implements tableSize (bindingRun tableSize ops w spec).1
    (bindingRun tableSize ops w spec).2 slots' := by
  induction ops generalizing w spec slots with
  | nil => exact ⟨slots, h⟩
  | cons op ops ih =>
    obtain ⟨hOp, hOps⟩ := hOrderly
    obtain ⟨slots', h'⟩ := h.call hSize op hOp
    exact ih h' hOps

end

end Implements

/-- A table that nothing was added to, over empty storage, and what will happen to the
storage operations of a run. -/
def BindingWorld.start (outcomes : List Bool) : BindingWorld :=
  ⟨.fresh, .empty, ⟨nextNullIndex, nextNullIndex⟩, outcomes⟩

theorem Implements.start (outcomes : List Bool) :
  Implements tableSize (.start outcomes) ⟨[], none⟩ [] :=
  ⟨.fresh, rfl, rfl⟩

/-- The binding table is a persistent list. After every orderly run the chain of slots in
memory and the one in storage agree, hold the bindings that successful calls have added
and not removed, and are found again by a reload. -/
theorem bindingTable_persistent (hSize : tableSize ≤ nextNullIndex) (ops : List BindingOp)
    (outcomes : List Bool) (hOrderly : OrderlyRun tableSize ops (.start outcomes)) :
    let final := bindingRun tableSize ops (.start outcomes) ⟨[], none⟩
    let reloaded := (BindingTable.loadFromStorage tableSize final.1.storage).2
    ∃ slots, Represents tableSize final.1.table final.1.storage slots ∧
      final.1.table.bindings slots = final.2.bindings ∧
      Represents tableSize reloaded final.1.storage slots ∧
      reloaded.bindings slots = final.2.bindings := by
  obtain ⟨slots, h⟩ := (Implements.start outcomes).run hSize hOrderly
  obtain ⟨hRep, hBindings⟩ := h.represents.reload hSize
  exact ⟨slots, h.represents, h.bindings, hRep, hBindings.trans h.bindings⟩

def groupBinding (fabricIndex : UInt8) : EmberBindingTableEntry :=
  ⟨.multicast, fabricIndex, 1, none, 0, 7⟩

/-- A removal at the head that fails, and then one that succeeds. -/
theorem bindingTable_persistent_after_failed_removal :
    ∃ slots, Represents 2
      (bindingRun 2 [.add (groupBinding 1), .add (groupBinding 2), .begin, .removeAt, .begin,
        .removeAt] (.start [true, true, true, true, false]) ⟨[], none⟩).1.table
      (bindingRun 2 [.add (groupBinding 1), .add (groupBinding 2), .begin, .removeAt, .begin,
        .removeAt] (.start [true, true, true, true, false]) ⟨[], none⟩).1.storage slots := by
  obtain ⟨slots, h, -⟩ := @bindingTable_persistent 2 (by decide)
    [.add (groupBinding 1), .add (groupBinding 2), .begin, .removeAt, .begin, .removeAt]
    [true, true, true, true, false]
    ⟨trivial, trivial, trivial, by decide, trivial, by decide, trivial⟩
  exact ⟨slots, h⟩

/-- The removal of the last of two bindings fails: the chain still ends with it, and the
tail is the slot before. -/
theorem failed_removal_moves_tail :
    ¬ ∀ (ops : List BindingOp) (outcomes : List Bool),
      ∃ slots, Represents 2 (bindingRun 2 ops (.start outcomes) ⟨[], none⟩).1.table
        (bindingRun 2 ops (.start outcomes) ⟨[], none⟩).1.storage slots := by
  intro hAll
  obtain ⟨slots, h⟩ := hAll
    [.add (groupBinding 1), .add (groupBinding 2), .begin, .next, .removeAt]
    [true, true, true, true, false]
  have hTail := h.tail
  have hLinked := h.linked
  rcases List.eq_nil_or_concat slots with rfl | ⟨start, last, rfl⟩
  · revert hTail
    decide
  · rw [List.concat_eq_append, List.getLastD_concat] at hTail
    rw [List.concat_eq_append, LinkedSlots.concat_iff, ← hTail] at hLinked
    exact absurd hLinked.2 (by decide)

end Chip.App
