import Chip.App.BindingTable
import Chip.Data.LinkedSlots

/-! The binding table as a list. Memory and storage hold the same chain of slots, and the
bindings along it are the list that additions and removals build. -/
namespace Chip.App

open List BindingTable LinkedSlots Proc

variable {tableSize : Nat}

/-- The chain from `mHead` visits exactly the slots in use, once each, and ends at
`mTail`; storage holds the same chain. Slots that are not in use lead nowhere. -/
structure Represents (tableSize : Nat) (t : BindingTable) (s : BindingStorage)
    (slots : List Nat) : Prop where
  linked : LinkedSlots t.mNextIndex t.mHead slots nextNullIndex
  nodup : slots.Nodup
  used : ∀ i, i ∈ slots ↔ i < tableSize ∧ (t.mBindingTable i).type ≠ .unused
  tail : t.mTail = slots.getLastD nextNullIndex
  size : t.mSize = slots.length
  free : ∀ i, i ∉ slots → t.mNextIndex i = nextNullIndex
  info : s.listInfo.getD nextNullIndex = t.mHead
  stored : ∀ i ∈ slots, s.entries i = some ((t.mBindingTable i).binding, t.mNextIndex i)

def BindingTable.bindings (t : BindingTable) (slots : List Nat) : List Binding :=
  slots.map fun i => (t.mBindingTable i).binding

theorem Represents.fresh : Represents tableSize .fresh .empty [] where
  linked := rfl
  nodup := List.nodup_nil
  used i := by simp [BindingTable.fresh, EmberBindingTableEntry.cleared]
  tail := rfl
  size := rfl
  free _ _ := rfl
  info := rfl
  stored _ hi := by cases hi

namespace Represents

variable {t : BindingTable} {s : BindingStorage} {slots : List Nat}

section

variable (h : Represents tableSize t s slots)
include h

theorem ne_null (hSize : tableSize ≤ nextNullIndex) {i : Nat} (hi : i ∈ slots) :
  i ≠ nextNullIndex := by
  have hLt := ((h.used i).mp hi).1
  omega

theorem tail_eq_null_iff (hSize : tableSize ≤ nextNullIndex) :
  t.mTail = nextNullIndex ↔ slots = [] := by
  rw [h.tail]
  rcases eq_nil_or_concat slots with rfl | ⟨before, last, rfl⟩
  · simp
  · rw [concat_eq_append, getLastD_concat]
    have hLast : last ≠ nextNullIndex := h.ne_null hSize (by simp)
    simp [hLast]

theorem storage_congr {s' : BindingStorage} (hInfo : s'.listInfo = s.listInfo)
  (hEntries : ∀ i ∈ slots, s'.entries i = s.entries i) : Represents tableSize t s' slots :=
  { h with
    info := by rw [hInfo, h.info]
    stored := fun i hi => by rw [hEntries i hi, h.stored i hi] }

theorem available {newIndex : Nat} (hNew : t.getNextAvailableIndex tableSize = some newIndex) :
  newIndex < tableSize ∧ newIndex ∉ slots := by
  have hFound := find?_some hNew
  have hMem := mem_of_find?_eq_some hNew
  have hUnused : (t.mBindingTable newIndex).type = .unused := by simpa using hFound
  refine ⟨mem_range.mp hMem, fun hIn => ?_⟩
  exact ((h.used newIndex).mp hIn).2 hUnused

theorem setEntry {newIndex : Nat} (hNew : newIndex ∉ slots) {entry : EmberBindingTableEntry}
  (hUnused : entry.type = .unused) : Represents tableSize (t.setEntry newIndex entry) s slots := by
  have hSame : ∀ i ∈ slots, (t.setEntry newIndex entry).mBindingTable i = t.mBindingTable i := by
    intro i hi
    refine Function.update_of_ne ?_ ..
    rintro rfl
    exact hNew hi
  refine { h with used := ?_, stored := ?_ }
  · intro i
    by_cases hi : i = newIndex
    · subst hi
      simp [BindingTable.setEntry, hUnused, hNew]
    · rw [h.used i]
      simp [BindingTable.setEntry, hi]
  · intro i hi
    rw [hSame i hi]
    exact h.stored i hi

end

variable {newIndex : Nat} {entry : EmberBindingTableEntry}

theorem append (h : Represents tableSize t s slots) (hSize : tableSize ≤ nextNullIndex)
  (hLt : newIndex < tableSize) (hNew : newIndex ∉ slots) (hUsed : entry.type ≠ .unused)
  {s' : BindingStorage}
  (hEntry : s'.entries newIndex = some (entry.binding, nextNullIndex))
  (hFirst : slots = [] → s'.listInfo = some newIndex)
  (hLater : slots ≠ [] → s'.listInfo = s.listInfo ∧
    s'.entries t.mTail = some ((t.mBindingTable t.mTail).binding, newIndex) ∧
    ∀ i ∈ slots, i ≠ t.mTail → s'.entries i = s.entries i) :
  Represents tableSize ((t.setEntry newIndex entry).append newIndex) s' (slots ++ [newIndex]) := by
  have hTable : ∀ i ∈ slots, (t.setEntry newIndex entry).mBindingTable i = t.mBindingTable i := by
    intro i hi
    refine Function.update_of_ne ?_ ..
    rintro rfl
    exact hNew hi
  have hAppended : ((t.setEntry newIndex entry).append newIndex).mBindingTable =
      Function.update t.mBindingTable newIndex entry := by
    unfold BindingTable.append
    split <;> rfl
  have hUsedIff : ∀ i, i ∈ slots ++ [newIndex] ↔ i < tableSize ∧
      (((t.setEntry newIndex entry).append newIndex).mBindingTable i).type ≠ .unused := by
    intro i
    rw [hAppended, List.mem_append, List.mem_singleton, h.used i]
    by_cases hi : i = newIndex
    · subst hi
      simp [hLt, hUsed]
    · simp [hi]
  have hNodup : (slots ++ [newIndex]).Nodup :=
    List.nodup_append.mpr ⟨h.nodup, List.nodup_singleton _, by
      intro a ha b hb
      rw [List.mem_singleton.mp hb]
      rintro rfl
      exact hNew ha⟩
  by_cases hEmpty : slots = []
  · subst hEmpty
    have hTail : t.mTail = nextNullIndex := h.tail
    have hEq : (t.setEntry newIndex entry).append newIndex =
        { t.setEntry newIndex entry with
          mTail := newIndex, mHead := newIndex, mSize := t.mSize + 1 } := if_pos hTail
    have hNext : t.mNextIndex newIndex = nextNullIndex := h.free newIndex hNew
    refine ⟨?_, hNodup, hUsedIff, ?_, ?_, ?_, ?_, ?_⟩
    · rw [hEq]
      exact ⟨rfl, hNext⟩
    · rw [hEq]
      rfl
    · rw [hEq]
      simp [h.size]
    · intro i _
      rw [hEq]
      exact h.free i (by simp)
    · rw [hEq, hFirst rfl]
      rfl
    · intro i hi
      rw [List.mem_singleton.mp hi, hEntry, hAppended, Function.update_self, hEq]
      simp only [BindingTable.setEntry, hNext]
  · obtain ⟨before, last, rfl⟩ : ∃ before last, slots = before ++ [last] := by
      rcases List.eq_nil_or_concat slots with hNil | ⟨before, last, hConcat⟩
      · exact absurd hNil hEmpty
      · exact ⟨before, last, by rw [hConcat, List.concat_eq_append]⟩
    have hTail : t.mTail = last := by rw [h.tail, List.getLastD_concat]
    have hLast : last ≠ nextNullIndex := h.ne_null hSize (by simp)
    obtain ⟨hInfo, hStoredTail, hStoredRest⟩ := hLater hEmpty
    rw [hTail] at hStoredTail hStoredRest
    have hEq : (t.setEntry newIndex entry).append newIndex =
        { ((t.setEntry newIndex entry).setNext last newIndex).setNext newIndex nextNullIndex with
          mTail := newIndex, mSize := t.mSize + 1 } := by
      have hNot : (t.setEntry newIndex entry).mTail ≠ nextNullIndex := by
        change t.mTail ≠ nextNullIndex
        rw [hTail]
        exact hLast
      unfold BindingTable.append
      rw [if_neg hNot]
      change { ((t.setEntry newIndex entry).setNext t.mTail newIndex).setNext newIndex
        nextNullIndex with mTail := newIndex, mSize := t.mSize + 1 } = _
      rw [hTail]
    have hNotNew : last ≠ newIndex := by
      rintro rfl
      exact hNew (by simp)
    have hBefore : last ∉ before := by
      have hDisjoint := (List.nodup_append.mp h.nodup).2.2
      intro hIn
      exact hDisjoint last hIn last (by simp) rfl
    have hNext : ((t.setEntry newIndex entry).append newIndex).mNextIndex =
        Function.update (Function.update t.mNextIndex last newIndex) newIndex nextNullIndex := by
      rw [hEq]
      rfl
    refine ⟨?_, hNodup, hUsedIff, ?_, ?_, ?_, ?_, ?_⟩
    · rw [hNext, LinkedSlots.concat_iff]
      refine ⟨?_, Function.update_self ..⟩
      refine LinkedSlots.update_of_notMem ?_ hNew
      rw [hEq]
      exact LinkedSlots.redirect h.linked hBefore
    · rw [hEq, List.getLastD_concat]
    · rw [hEq]
      simp [h.size]
    · intro i hi
      rw [List.mem_append, List.mem_singleton, not_or] at hi
      have hiLast : i ≠ last := by
        rintro rfl
        exact hi.1 (by simp)
      rw [hNext, Function.update_of_ne hi.2, Function.update_of_ne hiLast]
      exact h.free i hi.1
    · rw [hEq, hInfo]
      exact h.info
    · intro i hi
      rw [hAppended, hNext]
      rcases List.mem_append.mp hi with hOld | hSelf
      · have hiNew : i ≠ newIndex := by
          rintro rfl
          exact hNew hOld
        rw [Function.update_of_ne hiNew, Function.update_of_ne hiNew]
        by_cases hiLast : i = last
        · subst hiLast
          rw [hStoredTail, Function.update_self]
        · rw [hStoredRest i hOld hiLast, h.stored i hOld, Function.update_of_ne hiLast]
      · rw [List.mem_singleton.mp hSelf, hEntry, Function.update_self, Function.update_self]

end Represents

theorem syncStorage_apply (f : BindingStorage → BindingStorage) (w : BindingWorld) :
  syncStorage f w = if w.outcomes.headD true then
      (.ok (), { w with storage := f w.storage, outcomes := w.outcomes.tail })
    else (.error .persistedStorageFailed, { w with outcomes := w.outcomes.tail }) := rfl

theorem saveEntryToStorage_apply (index nextIndex : Nat) (w : BindingWorld) :
  saveEntryToStorage index nextIndex w =
    syncStorage (fun s => s.setEntry index
      (some ((w.table.mBindingTable index).binding, nextIndex))) w := rfl

/-- A call that fails leaves the table, and what is stored of its chain, as they were. -/
structure Unchanged (slots : List Nat) (w w' : BindingWorld) : Prop where
  table : w'.table = w.table
  iter : w'.iter = w.iter
  info : w'.storage.listInfo = w.storage.listInfo
  entries : ∀ i ∈ slots, w'.storage.entries i = w.storage.entries i

variable {w : BindingWorld} {slots : List Nat}

theorem saveNewEntry_spec {newIndex : Nat} (hTail : w.table.mTail = nextNullIndex ↔ slots = [])
  (hTailMem : slots ≠ [] → w.table.mTail ∈ slots) (hNew : newIndex ∉ slots) :
  (∃ e w', saveNewEntry newIndex w = (.error e, w') ∧ Unchanged slots w w') ∨
  ∃ w', saveNewEntry newIndex w = (.ok (), w') ∧ w'.table = w.table ∧ w'.iter = w.iter ∧
    w'.storage.entries newIndex =
      some ((w.table.mBindingTable newIndex).binding, nextNullIndex) ∧
    (slots = [] → w'.storage.listInfo = some newIndex) ∧
    (slots ≠ [] → w'.storage.listInfo = w.storage.listInfo ∧
      w'.storage.entries w.table.mTail =
        some ((w.table.mBindingTable w.table.mTail).binding, newIndex) ∧
      ∀ i ∈ slots, i ≠ w.table.mTail → w'.storage.entries i = w.storage.entries i) := by
  have hOther : ∀ {i}, i ∈ slots → i ≠ newIndex := by
    rintro i hi rfl
    exact hNew hi
  unfold saveNewEntry
  cases hFirst : w.outcomes.headD true with
  | false =>
    left
    have hRun : saveEntryToStorage newIndex nextNullIndex w =
        (.error .persistedStorageFailed, { w with outcomes := w.outcomes.tail }) := by
      simp only [saveEntryToStorage, read_bind, syncStorage_apply, hFirst,
        Bool.false_eq_true, ↓reduceIte]
    exact ⟨_, _, bind_error hRun, rfl, rfl, rfl, fun _ _ => rfl⟩
  | true =>
    have hRun : saveEntryToStorage newIndex nextNullIndex w =
        (.ok (), { w with
          storage := w.storage.setEntry newIndex
            (some ((w.table.mBindingTable newIndex).binding, nextNullIndex))
          outcomes := w.outcomes.tail }) := by
      simp only [saveEntryToStorage, read_bind, syncStorage_apply, hFirst, ↓reduceIte]
    rw [bind_ok hRun, read_bind]
    -- The record of the new entry, which no slot of the chain shares.
    have hRollBack : ∀ w₁ : BindingWorld, Unchanged slots w w₁ →
        Unchanged slots w (deleteEntryFromStorage newIndex w₁).2 := by
      intro w₁ hSame
      unfold deleteEntryFromStorage
      rw [syncStorage_apply]
      cases hDelete : w₁.outcomes.headD true with
      | false => exact ⟨hSame.table, hSame.iter, hSame.info, hSame.entries⟩
      | true =>
        refine ⟨hSame.table, hSame.iter, hSame.info, fun i hi => ?_⟩
        exact (Function.update_of_ne (hOther hi) ..).trans (hSame.entries i hi)
    have hSaved : ∀ i ∈ slots, Function.update w.storage.entries newIndex
        (some ((w.table.mBindingTable newIndex).binding, nextNullIndex)) i =
        w.storage.entries i := fun i hi => Function.update_of_ne (hOther hi) ..
    cases hSecond : w.outcomes.tail.headD true with
    | false =>
      left
      by_cases hEmpty : w.table.mTail = nextNullIndex
      · simp only [hEmpty, ↓reduceIte, saveListInfo, attempt_bind, syncStorage_apply, hSecond,
          Bool.false_eq_true]
        exact ⟨_, _, rfl, hRollBack _ ⟨rfl, rfl, rfl, hSaved⟩⟩
      · simp only [hEmpty, ↓reduceIte, saveEntryToStorage, attempt_bind, read_bind,
          syncStorage_apply, hSecond, Bool.false_eq_true]
        exact ⟨_, _, rfl, hRollBack _ ⟨rfl, rfl, rfl, hSaved⟩⟩
    | true =>
      right
      by_cases hEmpty : w.table.mTail = nextNullIndex
      · have hNil := hTail.mp hEmpty
        simp only [hEmpty, ↓reduceIte, saveListInfo, attempt_bind, syncStorage_apply, hSecond]
        exact ⟨_, rfl, rfl, rfl, Function.update_self .., fun _ => rfl, fun hNe => absurd hNil hNe⟩
      · have hNe : slots ≠ [] := fun hNil => hEmpty (hTail.mpr hNil)
        have hTailNew := hOther (hTailMem hNe)
        simp only [hEmpty, ↓reduceIte, saveEntryToStorage, attempt_bind, read_bind,
          syncStorage_apply, hSecond]
        refine ⟨_, rfl, rfl, rfl, ?_, fun hNil => absurd hNil hNe, fun _ => ⟨rfl, ?_, ?_⟩⟩
        · exact (Function.update_of_ne hTailNew.symm ..).trans (Function.update_self ..)
        · exact Function.update_self ..
        · intro i hi hiTail
          exact (Function.update_of_ne hiTail ..).trans (hSaved i hi)

theorem Represents.tail_mem {t : BindingTable} {s : BindingStorage} (h : Represents tableSize t s slots)
  (hNe : slots ≠ []) : t.mTail ∈ slots := by
  rw [h.tail, getLastD_eq_getLast?, getLast?_eq_some_getLast hNe]
  exact getLast_mem hNe

theorem add_spec (hSize : tableSize ≤ nextNullIndex) (h : Represents tableSize w.table w.storage slots)
  (entry : EmberBindingTableEntry) :
  (∃ e w', add tableSize entry w = (.error e, w') ∧ w'.iter = w.iter ∧
    Represents tableSize w'.table w'.storage slots ∧
    w'.table.bindings slots = w.table.bindings slots) ∨
  ∃ newIndex w', add tableSize entry w = (.ok (), w') ∧ w'.iter = w.iter ∧
    Represents tableSize w'.table w'.storage (slots ++ [newIndex]) ∧
    w'.table.bindings (slots ++ [newIndex]) = w.table.bindings slots ++ [entry.binding] := by
  unfold add
  by_cases hType : entry.type ≠ .unused
  · rw [verify_bind, if_pos hType, read_bind]
    cases hFind : w.table.getNextAvailableIndex tableSize with
    | none => exact .inl ⟨_, w, rfl, rfl, h, rfl⟩
    | some newIndex =>
      obtain ⟨hLt, hNew⟩ := h.available hFind
      have hKept : ∀ (t' : BindingTable) (value : EmberBindingTableEntry),
          t'.mBindingTable = Function.update w.table.mBindingTable newIndex value →
          t'.bindings slots = w.table.bindings slots := by
        intro t' value hTable
        refine map_congr_left fun i hi => ?_
        rw [hTable, Function.update_of_ne]
        rintro rfl
        exact hNew hi
      have hTail : (w.table.setEntry newIndex entry).mTail = nextNullIndex ↔ slots = [] :=
        h.tail_eq_null_iff hSize
      simp only [modifyTable, modify_bind, attempt_bind]
      rcases saveNewEntry_spec (w := { w with table := w.table.setEntry newIndex entry })
          hTail h.tail_mem hNew with ⟨e, w', hRun, hSame⟩ | ⟨w', hRun, hTable, hIter, hStored⟩
      · left
        rw [hRun]
        refine ⟨e, _, rfl, hSame.iter, ?_, ?_⟩
        · have hUndo : w'.table.setUnused newIndex =
              w.table.setEntry newIndex { entry with type := .unused } := by
            rw [hSame.table]
            simp [setUnused, setEntry]
          change Represents tableSize (w'.table.setUnused newIndex) w'.storage slots
          rw [hUndo]
          exact (h.setEntry hNew rfl).storage_congr hSame.info hSame.entries
        · refine hKept _ { entry with type := .unused } ?_
          change (w'.table.setUnused newIndex).mBindingTable = _
          rw [hSame.table]
          simp [setUnused, setEntry]
      · right
        obtain ⟨hEntry, hFirst, hLater⟩ := hStored
        rw [hRun]
        have hTableEq : (w'.table.append newIndex).mBindingTable =
            Function.update w.table.mBindingTable newIndex entry := by
          rw [hTable]
          unfold append
          split <;> rfl
        refine ⟨newIndex, _, rfl, hIter, ?_, ?_⟩
        · change Represents tableSize (w'.table.append newIndex) w'.storage _
          rw [hTable]
          refine h.append hSize hLt hNew hType ?_ hFirst ?_
          · rw [hEntry]
            simp [setEntry]
          · intro hNe
            obtain ⟨hInfo, hTailEntry, hRest⟩ := hLater hNe
            have hTailNew : w.table.mTail ≠ newIndex := by
              intro hEq
              exact hNew (hEq ▸ h.tail_mem hNe)
            refine ⟨hInfo, ?_, hRest⟩
            rw [show w.table.mTail = (w.table.setEntry newIndex entry).mTail from rfl]
            refine hTailEntry.trans ?_
            simp [setEntry, Function.update_of_ne hTailNew]
        · change (w'.table.append newIndex).bindings (slots ++ [newIndex]) = _
          have hOld : (w'.table.append newIndex).bindings slots = w.table.bindings slots :=
            hKept _ entry hTableEq
          unfold bindings at hOld ⊢
          rw [map_append, hOld, map_singleton, hTableEq, Function.update_self]
  · rw [verify_bind, if_neg hType]
    exact .inl ⟨_, w, rfl, rfl, h, rfl⟩

theorem Represents.remove {t t' : BindingTable} {s s' : BindingStorage} {before after : List Nat}
  {index : Nat} (h : Represents tableSize t s (before ++ index :: after))
  (hTable : t'.mBindingTable =
    Function.update t.mBindingTable index { t.mBindingTable index with type := .unused })
  (hTail : t'.mTail = if index = t.mTail then before.getLastD nextNullIndex else t.mTail)
  (hSize : t'.mSize = t.mSize - 1)
  (hFirst : before = [] → t'.mHead = t.mNextIndex index ∧
    t'.mNextIndex = Function.update t.mNextIndex index nextNullIndex ∧
    s'.listInfo = some (t.mNextIndex index) ∧ ∀ i ∈ after, s'.entries i = s.entries i)
  (hLater : ∀ start prev, before = start ++ [prev] → t'.mHead = t.mHead ∧
    t'.mNextIndex = Function.update (Function.update t.mNextIndex prev (t.mNextIndex index))
      index nextNullIndex ∧
    s'.listInfo = s.listInfo ∧
    s'.entries prev = some ((t.mBindingTable prev).binding, t.mNextIndex index) ∧
    ∀ i ∈ before ++ after, i ≠ prev → s'.entries i = s.entries i) :
  Represents tableSize t' s' (before ++ after) := by
  have hNodup := h.nodup
  have hAbsent : index ∉ before ++ after := (nodup_middle.mp hNodup).notMem
  have hNodup' : (before ++ after).Nodup := (nodup_cons.mp (nodup_middle.mp hNodup)).2
  have hMem : ∀ i, i ∈ before ++ after ↔ i ∈ before ++ index :: after ∧ i ≠ index := by
    intro i
    by_cases hi : i = index
    · subst hi
      simp [hAbsent]
    · simp [hi]
  have hUsed : ∀ i, i ∈ before ++ after ↔
      i < tableSize ∧ (t'.mBindingTable i).type ≠ .unused := by
    intro i
    rw [hMem, h.used i, hTable]
    by_cases hi : i = index
    · subst hi
      simp
    · simp [hi]
  have hKept : ∀ i ∈ before ++ after, t'.mBindingTable i = t.mBindingTable i := by
    intro i hi
    rw [hTable, Function.update_of_ne ((hMem i).mp hi).2]
  obtain ⟨middle, hBefore, hMiddle, hAfter⟩ := append_iff.mp h.linked
  rw [hMiddle] at hBefore
  have hAfterNot : index ∉ after := fun hIn => hAbsent (mem_append_right _ hIn)
  have hTailEq : t'.mTail = (before ++ after).getLastD nextNullIndex := by
    rw [hTail, h.tail]
    rcases eq_nil_or_concat after with rfl | ⟨rest, last, rfl⟩
    · rw [getLastD_concat, if_pos rfl, append_nil]
    · rw [concat_eq_append, ← append_assoc, getLastD_concat, ← cons_append,
        ← append_assoc, getLastD_concat, if_neg]
      rintro rfl
      exact hAfterNot (by simp)
  have hSizeEq : t'.mSize = (before ++ after).length := by
    rw [hSize, h.size]
    simp
  rcases eq_nil_or_concat before with rfl | ⟨start, prev, hConcat⟩
  · obtain ⟨hHead, hNext, hInfo, hEntries⟩ := hFirst rfl
    refine ⟨?_, hNodup', hUsed, hTailEq, hSizeEq, ?_, ?_, ?_⟩
    · rw [hHead, hNext]
      exact hAfter.update_of_notMem hAfterNot
    · intro i hi
      rw [hNext]
      by_cases hIndex : i = index
      · rw [hIndex, Function.update_self]
      · rw [Function.update_of_ne hIndex]
        exact h.free i fun hOld => hi ((hMem i).mpr ⟨hOld, hIndex⟩)
    · rw [hInfo, hHead]
      rfl
    · intro i hi
      have hIndex := ((hMem i).mp hi).2
      rw [hEntries i hi, hKept i hi, hNext, Function.update_of_ne hIndex]
      exact h.stored i ((hMem i).mp hi).1
  · rw [concat_eq_append] at hConcat
    obtain ⟨hHead, hNext, hInfo, hPrev, hEntries⟩ := hLater start prev hConcat
    have hPrevMem : prev ∈ before := by
      rw [hConcat]
      simp
    have hPrevNe : prev ≠ index := ((hMem prev).mp (mem_append_left _ hPrevMem)).2
    have hPrevAfter : prev ∉ after := by
      intro hIn
      exact (nodup_append.mp hNodup').2.2 prev hPrevMem prev hIn rfl
    have hPrevStart : prev ∉ start := by
      have hBeforeNodup : before.Nodup := (nodup_append.mp hNodup').1
      rw [hConcat] at hBeforeNodup
      intro hIn
      exact (nodup_append.mp hBeforeNodup).2.2 prev hIn prev (by simp) rfl
    refine ⟨?_, hNodup', hUsed, hTailEq, hSizeEq, ?_, ?_, ?_⟩
    · rw [hHead, hNext]
      refine update_of_notMem ?_ hAbsent
      rw [append_iff]
      refine ⟨t.mNextIndex index, ?_, hAfter.update_of_notMem hPrevAfter⟩
      rw [hConcat] at hBefore ⊢
      exact hBefore.redirect hPrevStart
    · intro i hi
      rw [hNext]
      by_cases hIndex : i = index
      · rw [hIndex, Function.update_self]
      · have hiPrev : i ≠ prev := by
          rintro rfl
          exact hi (mem_append_left _ hPrevMem)
        rw [Function.update_of_ne hIndex, Function.update_of_ne hiPrev]
        exact h.free i fun hOld => hi ((hMem i).mpr ⟨hOld, hIndex⟩)
    · rw [hInfo, hHead]
      exact h.info
    · intro i hi
      have hIndex := ((hMem i).mp hi).2
      rw [hKept i hi, hNext, Function.update_of_ne hIndex]
      by_cases hiPrev : i = prev
      · rw [hiPrev, Function.update_self, hPrev]
      · rw [Function.update_of_ne hiPrev, hEntries i hi hiPrev]
        exact h.stored i ((hMem i).mp hi).1

/-- The iterator knows which slot leads to the one it is at. A removal that failed
leaves it without that knowledge, until it moves on. -/
def BindingWorld.Fresh (w : BindingWorld) : Prop :=
  w.iter.mIndex = w.table.mHead ∨
    w.iter.mPrevIndex ≠ nextNullIndex ∧ w.table.mNextIndex w.iter.mPrevIndex = w.iter.mIndex

instance (w : BindingWorld) : Decidable w.Fresh := inferInstanceAs (Decidable (_ ∨ _))

theorem Represents.split_fresh (h : Represents tableSize w.table w.storage slots)
  (hSize : tableSize ≤ nextNullIndex) (hIndex : w.iter.mIndex ∈ slots) (hFresh : w.Fresh) :
  ∃ before after, slots = before ++ w.iter.mIndex :: after ∧
    (w.iter.mIndex = w.table.mHead ∧ before = [] ∨
      w.iter.mIndex ≠ w.table.mHead ∧ ∃ start, before = start ++ [w.iter.mPrevIndex]) := by
  have hFirst := h.linked.first_eq
  by_cases hHead : w.iter.mIndex = w.table.mHead
  · cases slots with
    | nil => cases hIndex
    | cons slot slots =>
      refine ⟨[], slots, ?_, .inl ⟨hHead, rfl⟩⟩
      rw [hHead, hFirst]
      rfl
  · obtain hEq | ⟨hPrevNe, hNext⟩ := hFresh
    · exact absurd hEq hHead
    have hPrev : w.iter.mPrevIndex ∈ slots := by
      by_contra hNot
      exact h.ne_null hSize hIndex (hNext.symm.trans (h.free _ hNot))
    obtain ⟨start, rest, hSlots, hRest⟩ := h.linked.split_at hPrev
    rw [hNext] at hRest
    cases rest with
    | nil => exact absurd hRest (h.ne_null hSize hIndex)
    | cons slot after =>
      refine ⟨start ++ [w.iter.mPrevIndex], after, ?_, .inr ⟨hHead, start, rfl⟩⟩
      rw [hSlots, hRest.1]
      simp

theorem BindingTable.bindings_remove {t t' : BindingTable} {before after : List Nat} {index : Nat}
  (hNodup : (before ++ index :: after).Nodup)
  (hTable : t'.mBindingTable =
    Function.update t.mBindingTable index { t.mBindingTable index with type := .unused }) :
  t'.bindings (before ++ after) =
    (t.bindings (before ++ index :: after)).eraseIdx before.length := by
  have hAbsent : index ∉ before ++ after := (nodup_middle.mp hNodup).notMem
  have hKept : t'.bindings (before ++ after) = t.bindings (before ++ after) := by
    refine map_congr_left fun i hi => ?_
    rw [hTable, Function.update_of_ne]
    rintro rfl
    exact hAbsent hi
  rw [hKept]
  simp [bindings, eraseIdx_append_of_length_le]

/-- The table in which `RemoveAt` stores its change: the tail has moved already. -/
def BindingTable.retreatTail (t : BindingTable) (iter : BindingIterator) : BindingTable :=
  if iter.mIndex = t.mTail then { t with mTail := iter.mPrevIndex } else t

/-- The table after a removal, from the one in which the link has been changed. -/
def BindingTable.discard (t : BindingTable) (index : Nat) : BindingTable :=
  { (t.setUnused index).setNext index nextNullIndex with mSize := t.mSize - 1 }

theorem removeAt_eq (hNe : w.iter.mIndex ≠ nextNullIndex) :
  removeAt w =
    match unlink w.iter (w.table.mNextIndex w.iter.mIndex)
        { w with table := w.table.retreatTail w.iter } with
    | (.ok (), w') =>
      (.ok (), { (deleteEntryFromStorage w.iter.mIndex w').2 with
        table := (deleteEntryFromStorage w.iter.mIndex w').2.table.discard w.iter.mIndex
        iter := { (deleteEntryFromStorage w.iter.mIndex w').2.iter with
          mIndex := w.table.mNextIndex w.iter.mIndex } })
    | (.error e, w') =>
      (.error e, { w' with
        iter := { w'.iter with mIndex := w.table.mNextIndex w.iter.mIndex } }) := by
  have hTail : { w with table := w.table.retreatTail w.iter } =
      if w.iter.mIndex = w.table.mTail then
        { w with table := { w.table with mTail := w.iter.mPrevIndex } } else w := by
    unfold retreatTail
    split <;> rfl
  unfold removeAt
  rw [hTail, read_bind, verify_bind, if_pos hNe]
  split
  · simp only [modifyTable, modify_bind, attempt_bind]
    rcases unlink w.iter (w.table.mNextIndex w.iter.mIndex)
      { w with table := { w.table with mTail := w.iter.mPrevIndex } } with ⟨r | r, w'⟩
    · rfl
    · rfl
  · simp only [modifyTable, attempt_bind]
    rcases unlink w.iter (w.table.mNextIndex w.iter.mIndex) w with ⟨r | r, w'⟩
    · rfl
    · rfl

theorem deleteEntryFromStorage_snd (index : Nat) (w : BindingWorld) :
  (deleteEntryFromStorage index w).2.table = w.table ∧
  (deleteEntryFromStorage index w).2.iter = w.iter ∧
  (deleteEntryFromStorage index w).2.storage.listInfo = w.storage.listInfo ∧
  ∀ i ≠ index, (deleteEntryFromStorage index w).2.storage.entries i = w.storage.entries i := by
  unfold deleteEntryFromStorage
  rw [syncStorage_apply]
  split
  · exact ⟨rfl, rfl, rfl, fun i hi => Function.update_of_ne hi ..⟩
  · exact ⟨rfl, rfl, rfl, fun _ _ => rfl⟩

theorem removeAt_ok {w w₁ : BindingWorld} (hNe : w.iter.mIndex ≠ nextNullIndex)
  (hUnlink : unlink w.iter (w.table.mNextIndex w.iter.mIndex)
    { w with table := w.table.retreatTail w.iter } = (.ok (), w₁)) :
  ∃ w', removeAt w = (.ok (), w') ∧
    w'.iter = { w₁.iter with mIndex := w.table.mNextIndex w.iter.mIndex } ∧
    w'.table = w₁.table.discard w.iter.mIndex ∧ w'.storage.listInfo = w₁.storage.listInfo ∧
    ∀ i ≠ w.iter.mIndex, w'.storage.entries i = w₁.storage.entries i := by
  obtain ⟨hTable, hIter, hInfo, hEntries⟩ := deleteEntryFromStorage_snd w.iter.mIndex w₁
  rw [removeAt_eq hNe, hUnlink]
  simp only [hTable, hIter]
  exact ⟨_, rfl, rfl, rfl, hInfo, hEntries⟩

theorem unlink_eq (iter : BindingIterator) (next : Nat) (w : BindingWorld) :
  unlink iter next w =
    if w.outcomes.headD true = false then
      (.error .persistedStorageFailed, { w with outcomes := w.outcomes.tail })
    else if iter.mIndex ≠ w.table.mHead then
      (.ok (), { w with
        table := w.table.setNext iter.mPrevIndex next
        storage := w.storage.setEntry iter.mPrevIndex
          (some ((w.table.mBindingTable iter.mPrevIndex).binding, next))
        outcomes := w.outcomes.tail })
    else
      (.ok (), { w with
        table := { w.table with mHead := next }
        storage := { w.storage with listInfo := some next }
        outcomes := w.outcomes.tail }) := by
  unfold unlink saveListInfo
  rw [read_bind]
  cases hFirst : w.outcomes.headD true with
  | false =>
    have hStore : ∀ f, syncStorage f w =
        (.error .persistedStorageFailed, { w with outcomes := w.outcomes.tail }) := by
      intro f
      rw [syncStorage_apply, hFirst]
      rfl
    split
    · exact bind_error ((saveEntryToStorage_apply ..).trans (hStore _))
    · exact bind_error (hStore _)
  | true =>
    have hStore : ∀ f, syncStorage f w =
        (.ok (), { w with storage := f w.storage, outcomes := w.outcomes.tail }) := by
      intro f
      rw [syncStorage_apply, hFirst]
      rfl
    by_cases hHead : iter.mIndex ≠ w.table.mHead
    · simp only [hHead, ↓reduceIte, Bool.true_eq_false, ne_eq, not_false_eq_true]
      exact bind_ok ((saveEntryToStorage_apply ..).trans (hStore _))
    · simp only [hHead, ↓reduceIte, Bool.true_eq_false]
      exact bind_ok (hStore _)

theorem removeAt_spec (hSize : tableSize ≤ nextNullIndex)
  (h : Represents tableSize w.table w.storage slots) (hIndex : w.iter.mIndex ∈ slots)
  (hStart : w.iter.mIndex = w.table.mHead → w.iter.mPrevIndex = nextNullIndex) (hFresh : w.Fresh)
  (hWrite : w.outcomes.headD true = true) :
  ∃ before after w', slots = before ++ w.iter.mIndex :: after ∧
    removeAt w = (.ok (), w') ∧
    w'.iter = { w.iter with mIndex := w.table.mNextIndex w.iter.mIndex } ∧
    Represents tableSize w'.table w'.storage (before ++ after) ∧
    w'.table.bindings (before ++ after) = (w.table.bindings slots).eraseIdx before.length := by
  obtain ⟨before, after, hSlots, hPlace⟩ := h.split_fresh hSize hIndex hFresh
  rw [hSlots] at h hIndex ⊢
  have hNe := h.ne_null hSize hIndex
  have hAbsent : w.iter.mIndex ∉ before ++ after := (nodup_middle.mp h.nodup).notMem
  have hRetreat : w.table.retreatTail w.iter = { w.table with
      mTail := if w.iter.mIndex = w.table.mTail then w.iter.mPrevIndex else w.table.mTail } := by
    unfold retreatTail
    split <;> rfl
  have hUnlink := unlink_eq w.iter (w.table.mNextIndex w.iter.mIndex)
    { w with table := w.table.retreatTail w.iter }
  conv at hUnlink => rhs; rw [hRetreat]
  simp only [hWrite, Bool.true_eq_false, ↓reduceIte] at hUnlink
  rcases hPlace with ⟨hHead, rfl⟩ | ⟨hHead, start, rfl⟩
  · simp only [hHead, ne_eq, not_true_eq_false, ↓reduceIte] at hUnlink
    rw [← hHead] at hUnlink
    obtain ⟨w', hRun, hIter, hTable, hInfo, hEntries⟩ := removeAt_ok hNe hUnlink
    have hUnused : w'.table.mBindingTable = Function.update w.table.mBindingTable w.iter.mIndex
        { w.table.mBindingTable w.iter.mIndex with type := .unused } := by
      rw [hTable]
      rfl
    refine ⟨[], after, w', rfl, hRun, hIter, h.remove hUnused ?_ ?_ ?_ ?_,
      bindings_remove h.nodup hUnused⟩
    · rw [hTable]
      exact congrArg (if w.iter.mIndex = w.table.mTail then · else w.table.mTail) (hStart hHead)
    · rw [hTable]
      rfl
    · intro _
      refine ⟨by rw [hTable]; rfl, by rw [hTable]; rfl, hInfo, fun i hi => hEntries i ?_⟩
      rintro rfl
      exact hAbsent hi
    · intro start prev hEmpty
      simp at hEmpty
  · simp only [hHead, ne_eq, not_false_eq_true, ↓reduceIte] at hUnlink
    obtain ⟨w', hRun, hIter, hTable, hInfo, hEntries⟩ := removeAt_ok hNe hUnlink
    have hUnused : w'.table.mBindingTable = Function.update w.table.mBindingTable w.iter.mIndex
        { w.table.mBindingTable w.iter.mIndex with type := .unused } := by
      rw [hTable]
      rfl
    refine ⟨start ++ [w.iter.mPrevIndex], after, w', rfl, hRun, hIter,
      h.remove hUnused ?_ ?_ ?_ ?_, bindings_remove h.nodup hUnused⟩
    · rw [hTable, getLastD_concat]
      rfl
    · rw [hTable]
      rfl
    · intro hEmpty
      simp at hEmpty
    · intro start' prev hBefore
      obtain ⟨-, rfl⟩ := append_inj' hBefore rfl |>.imp id fun h => singleton_inj.mp h
      have hOther : ∀ i ∈ start ++ [w.iter.mPrevIndex] ++ after, i ≠ w.iter.mIndex := by
        rintro i hi rfl
        exact hAbsent hi
      refine ⟨by rw [hTable]; rfl, by rw [hTable]; rfl, hInfo, ?_, fun i hi hiPrev => ?_⟩
      · rw [hEntries _ (hOther _ (by simp))]
        exact Function.update_self ..
      · rw [hEntries i (hOther i hi)]
        exact Function.update_of_ne hiPrev ..

theorem removeAt_failed (hNe : w.iter.mIndex ≠ nextNullIndex) (hWrite : w.outcomes.headD true = false)
  (hTail : w.iter.mIndex ≠ w.table.mTail) :
  removeAt w = (.error .persistedStorageFailed, { w with
    iter := { w.iter with mIndex := w.table.mNextIndex w.iter.mIndex }
    outcomes := w.outcomes.tail }) := by
  rw [removeAt_eq hNe, unlink_eq]
  simp only [hWrite, ↓reduceIte, retreatTail, hTail]

end Chip.App
