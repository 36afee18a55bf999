import Chip.Data.VisitedPool

/-! A pool of a fixed number of slots, with a bit of usage for each of them. The bits are in words,
and an iteration looks at each word once, when it comes to it. -/
namespace Chip.ObjectPool

open List VisitedPool

structure Statistics where
  mAllocated : Nat
  mHighWaterMark : Nat

def Statistics.increaseUsage (s : Statistics) : Statistics :=
  ⟨s.mAllocated + 1, if s.mAllocated + 1 > s.mHighWaterMark then s.mAllocated + 1 else s.mHighWaterMark⟩

def Statistics.decreaseUsage (s : Statistics) : Statistics :=
  { s with mAllocated := s.mAllocated - 1 }

/-- What is fixed for a pool: where its slots are and how large they are, and the number of bits in
a word. -/
structure Storage where
  capacity : Nat
  mElements : Nat
  mElementSize : Nat
  kBitChunkSize : Nat
  hElementSize : 0 < mElementSize
  hBitChunkSize : 0 < kBitChunkSize

namespace Storage

def elementAt (storage : Storage) (index : Nat) : Nat :=
  storage.mElements + storage.mElementSize * index

def indexOf (storage : Storage) (element : Nat) : Option Nat :=
  if element < storage.mElements then none
  else if (element - storage.mElements) % storage.mElementSize ≠ 0 then none
  else
    let index := (element - storage.mElements) / storage.mElementSize
    if index < storage.capacity then some index else none

def words (storage : Storage) : Nat :=
  (storage.capacity + storage.kBitChunkSize - 1) / storage.kBitChunkSize

def offsets (storage : Storage) (word : Nat) : Nat :=
  min storage.kBitChunkSize (storage.capacity - word * storage.kBitChunkSize)

variable {storage : Storage}

theorem elementAt_le {index index' : Nat} :
  storage.elementAt index ≤ storage.elementAt index' ↔ index ≤ index' := by
  unfold elementAt
  rw [Nat.add_le_add_iff_left, Nat.mul_le_mul_left_iff storage.hElementSize]

theorem elementAt_inj {index index' : Nat} :
  storage.elementAt index = storage.elementAt index' ↔ index = index' := by
  rw [Nat.le_antisymm_iff, Nat.le_antisymm_iff, elementAt_le, elementAt_le]

theorem indexOf_elementAt {index : Nat} (hIndex : index < storage.capacity) :
  storage.indexOf (storage.elementAt index) = some index := by
  have hOffset : storage.elementAt index - storage.mElements = storage.mElementSize * index :=
    Nat.add_sub_cancel_left _ _
  have hLow : ¬storage.elementAt index < storage.mElements := Nat.not_lt.2 (Nat.le_add_right _ _)
  unfold indexOf
  rw [if_neg hLow, hOffset, Nat.mul_mod_right, if_neg (fun h => h rfl)]
  simp only [Nat.mul_div_cancel_left index storage.hElementSize, hIndex, if_true]

theorem word_offset {index : Nat} (hIndex : index < storage.capacity) :
  index / storage.kBitChunkSize < storage.words ∧
    index % storage.kBitChunkSize < storage.offsets (index / storage.kBitChunkSize) := by
  have hSplit : index / storage.kBitChunkSize * storage.kBitChunkSize + index % storage.kBitChunkSize = index :=
    Nat.div_add_mod' index storage.kBitChunkSize
  have hMod := Nat.mod_lt index storage.hBitChunkSize
  constructor
  · unfold words
    rw [← Nat.succ_le_iff, Nat.le_div_iff_mul_le storage.hBitChunkSize, Nat.succ_mul]
    omega
  · unfold offsets
    omega

variable {word offset : Nat}

theorem index_lt (hOffset : offset < storage.offsets word) :
  word * storage.kBitChunkSize + offset < storage.capacity := by
  unfold offsets at hOffset
  omega

theorem index_div (hOffset : offset < storage.kBitChunkSize) :
  (word * storage.kBitChunkSize + offset) / storage.kBitChunkSize = word := by
  rw [Nat.mul_comm, Nat.mul_add_div storage.hBitChunkSize, Nat.div_eq_of_lt hOffset, Nat.add_zero]

theorem index_mod (hOffset : offset < storage.kBitChunkSize) :
  (word * storage.kBitChunkSize + offset) % storage.kBitChunkSize = offset := by
  rw [Nat.mul_comm, Nat.mul_add_mod, Nat.mod_eq_of_lt hOffset]

theorem index_eq_iff {word offset index : Nat} (hOffset : offset < storage.kBitChunkSize) :
  index = word * storage.kBitChunkSize + offset ↔
    index / storage.kBitChunkSize = word ∧ index % storage.kBitChunkSize = offset := by
  constructor
  · intro h
    rw [h]
    exact ⟨index_div hOffset, index_mod hOffset⟩
  · rintro ⟨hWord, hMod⟩
    rw [← hWord, ← hMod]
    exact (Nat.div_add_mod' _ _).symm

theorem lt_iff {index other : Nat} :
  index < other ↔ index / storage.kBitChunkSize < other / storage.kBitChunkSize ∨
    index / storage.kBitChunkSize = other / storage.kBitChunkSize ∧
      index % storage.kBitChunkSize < other % storage.kBitChunkSize := by
  have hIndex := Nat.div_add_mod' index storage.kBitChunkSize
  have hOther := Nat.div_add_mod' other storage.kBitChunkSize
  have hMod := Nat.mod_lt index storage.hBitChunkSize
  rcases Nat.lt_trichotomy (index / storage.kBitChunkSize) (other / storage.kBitChunkSize) with hLt | hEq | hGt
  · have hWord : (index / storage.kBitChunkSize + 1) * storage.kBitChunkSize ≤
        other / storage.kBitChunkSize * storage.kBitChunkSize := Nat.mul_le_mul_right _ hLt
    rw [Nat.succ_mul] at hWord
    omega
  · rw [hEq] at hIndex ⊢
    omega
  · have hLe : ¬index < other := Nat.not_lt.2 (Nat.le_of_lt (Nat.lt_of_div_lt_div hGt))
    omega

theorem offset_lt (hOffset : offset < storage.offsets word) :
  offset < storage.kBitChunkSize :=
  Nat.lt_of_lt_of_le hOffset (Nat.min_le_left _ _)

end Storage

/-- `kBit1 << offset` -/
def bit {w : Nat} (offset : Nat) : BitVec w := BitVec.twoPow w offset

section Bits

variable {w : Nat} {value : BitVec w} {offset : Nat}

theorem and_bit_eq_zero (hOffset : offset < w) : value &&& bit offset = 0#w ↔ value.getLsbD offset = false := by
  unfold bit
  rw [BitVec.and_twoPow]
  by_cases hBit : value.getLsbD offset
  · simp only [hBit, if_true, Bool.true_eq_false, iff_false]
    intro hZero
    have hSet : (BitVec.twoPow w offset).getLsbD offset = true := by
      simp [hOffset]
    rw [hZero, BitVec.getLsbD_zero] at hSet
    exact Bool.false_ne_true hSet
  · simp [hBit]

theorem getLsbD_or_bit (hOffset : offset < w) (other : Nat) :
  (value ||| bit offset).getLsbD other = true ↔ other = offset ∨ value.getLsbD other = true := by
  unfold bit
  rw [BitVec.getLsbD_or, BitVec.getLsbD_twoPow, Bool.or_eq_true, Bool.and_eq_true, decide_eq_true_eq,
    decide_eq_true_eq]
  grind

theorem getLsbD_and_not_bit {other : Nat} (hOther : other < w) :
  (value &&& ~~~bit offset).getLsbD other = true ↔ other ≠ offset ∧ value.getLsbD other = true := by
  unfold bit
  rw [BitVec.getLsbD_and, BitVec.getLsbD_not, BitVec.getLsbD_twoPow]
  grind

end Bits

/-- The array `mUsage` is a function of the index of a word. -/
structure StaticAllocatorBitmap (storage : Storage) extends Statistics where
  mUsage : Nat → BitVec storage.kBitChunkSize

namespace StaticAllocatorBitmap

variable {storage : Storage}

def start : StaticAllocatorBitmap storage := ⟨⟨0, 0⟩, fun _ => 0#(storage.kBitChunkSize)⟩

def store (s : StaticAllocatorBitmap storage) (word : Nat) (value : BitVec storage.kBitChunkSize) :
  StaticAllocatorBitmap storage :=
  { s with mUsage := fun other => if other = word then value else s.mUsage other }

def freeIn (s : StaticAllocatorBitmap storage) (word : Nat) : Option (Nat × Nat) :=
  ((List.range' 0 (storage.offsets word)).find? fun offset =>
    s.mUsage word &&& bit offset == 0#(storage.kBitChunkSize)).map (word, ·)

def allocate (s : StaticAllocatorBitmap storage) : Option Nat × StaticAllocatorBitmap storage :=
  match (List.range storage.words).findSome? s.freeIn with
  | none => (none, s)
  | some (word, offset) =>
    let taken := s.store word (s.mUsage word ||| bit offset)
    (some (storage.elementAt (word * storage.kBitChunkSize + offset)),
      { taken with toStatistics := taken.increaseUsage })

def deallocate (s : StaticAllocatorBitmap storage) (element : Nat) : Option (StaticAllocatorBitmap storage) := do
  let index ← storage.indexOf element
  let word := index / storage.kBitChunkSize
  let offset := index - word * storage.kBitChunkSize
  let value := s.mUsage word
  let freed := s.store word (value &&& ~~~bit offset)
  if value &&& bit offset ≠ 0#(storage.kBitChunkSize) then
    some { freed with toStatistics := freed.decreaseUsage }
  else none

/-- The loops of an iteration stand at an offset of a word, with the `value` that the word had. -/
structure Position (storage : Storage) where
  word : Nat
  offset : Nat
  value : BitVec storage.kBitChunkSize

def Position.index (position : Position storage) : Nat :=
  position.word * storage.kBitChunkSize + position.offset

def seekOffset (word : Nat) (value : BitVec storage.kBitChunkSize) (offset : Nat) : Option (Position storage) :=
  ((List.range' offset (storage.offsets word - offset)).find? fun offset =>
    value &&& bit offset != 0#(storage.kBitChunkSize)).map (⟨word, ·, value⟩)

def seekWord (s : StaticAllocatorBitmap storage) (word : Nat) : Option (Position storage) :=
  (List.range' word (storage.words - word)).findSome? fun word => seekOffset word (s.mUsage word) 0

def next (s : StaticAllocatorBitmap storage) (position : Position storage) : Option (Position storage) :=
  seekOffset position.word position.value (position.offset + 1) <|> s.seekWord (position.word + 1)

def Used (s : StaticAllocatorBitmap storage) (index : Nat) : Prop :=
  (s.mUsage (index / storage.kBitChunkSize)).getLsbD (index % storage.kBitChunkSize) = true

instance (s : StaticAllocatorBitmap storage) : DecidablePred s.Used := fun _ =>
  inferInstanceAs (Decidable (_ = true))

def live (s : StaticAllocatorBitmap storage) : List Nat :=
  ((List.range storage.capacity).filter fun index => s.Used index).map storage.elementAt

@[simp] theorem store_mUsage (s : StaticAllocatorBitmap storage) (word : Nat)
  (value : BitVec storage.kBitChunkSize) (other : Nat) :
  (s.store word value).mUsage other = if other = word then value else s.mUsage other := rfl

variable {s : StaticAllocatorBitmap storage} {word offset : Nat} {index : Nat}
  {value : BitVec storage.kBitChunkSize} {found : Position storage}

theorem used_taken (hOffset : offset < storage.kBitChunkSize) (index : Nat) :
  (s.store word (s.mUsage word ||| bit offset)).Used index ↔
    index = word * storage.kBitChunkSize + offset ∨ s.Used index := by
  rw [Storage.index_eq_iff hOffset]
  unfold Used
  rw [store_mUsage]
  by_cases hWord : index / storage.kBitChunkSize = word
  · rw [if_pos hWord, getLsbD_or_bit hOffset, hWord]
    simp only [true_and]
  · rw [if_neg hWord]
    simp only [hWord, false_and, false_or]

theorem used_freed (hOffset : offset < storage.kBitChunkSize) (index : Nat) :
  (s.store word (s.mUsage word &&& ~~~bit offset)).Used index ↔
    index ≠ word * storage.kBitChunkSize + offset ∧ s.Used index := by
  rw [ne_eq, Storage.index_eq_iff hOffset]
  unfold Used
  rw [store_mUsage]
  by_cases hWord : index / storage.kBitChunkSize = word
  · rw [if_pos hWord, getLsbD_and_not_bit (Nat.mod_lt _ storage.hBitChunkSize), hWord]
    simp only [true_and]
  · rw [if_neg hWord]
    simp only [hWord, false_and, not_false_eq_true, true_and]

theorem mem_live {object : Nat} :
  object ∈ s.live ↔ ∃ index < storage.capacity, s.Used index ∧ object = storage.elementAt index := by
  unfold live
  simp only [mem_map, mem_filter, mem_range, decide_eq_true_eq, and_assoc]
  exact exists_congr fun index => and_congr_right fun _ => and_congr_right fun _ => eq_comm

theorem elementAt_mem_live (hIndex : index < storage.capacity) :
  storage.elementAt index ∈ s.live ↔ s.Used index := by
  rw [mem_live]
  constructor
  · rintro ⟨other, _, hUsed, hSame⟩
    rwa [Storage.elementAt_inj.1 hSame]
  · exact fun hUsed => ⟨index, hIndex, hUsed, rfl⟩

theorem nodup_live (s : StaticAllocatorBitmap storage) : s.live.Nodup :=
  (nodup_range.filter _).map fun _ _ h => Storage.elementAt_inj.1 h

theorem allocate_cases (s : StaticAllocatorBitmap storage) :
  (s.allocate = (none, s) ∧ ∀ index < storage.capacity, s.Used index) ∨
  ∃ index s', s.allocate = (some (storage.elementAt index), s') ∧ index < storage.capacity ∧
    ¬s.Used index ∧ (∀ other, s'.Used other ↔ other = index ∨ s.Used other) ∧
    s'.mAllocated = s.mAllocated + 1 := by
  unfold allocate
  cases hFree : (range storage.words).findSome? s.freeIn with
  | none =>
    refine Or.inl ⟨rfl, fun index hIndex => ?_⟩
    obtain ⟨hWord, hOffset⟩ := Storage.word_offset hIndex
    have hFull := findSome?_eq_none_iff.1 hFree _ (mem_range.2 hWord)
    rw [freeIn, Option.map_eq_none_iff, find?_range'_eq_none] at hFull
    have hBit := hFull _ (Nat.zero_le _) (by rwa [Nat.zero_add])
    rw [Bool.not_eq_true', beq_eq_false_iff_ne, ne_eq,
      and_bit_eq_zero (Nat.mod_lt _ storage.hBitChunkSize), Bool.not_eq_false] at hBit
    exact hBit
  | some found =>
    obtain ⟨word, -, hFound⟩ := exists_of_findSome?_eq_some hFree
    obtain ⟨offset, hOffset, rfl⟩ := Option.map_eq_some_iff.1 hFound
    obtain ⟨hBit, hMem, _⟩ := find?_range'_eq_some.1 hOffset
    have hLt : offset < storage.offsets word := by
      rw [mem_range'_1] at hMem
      omega
    rw [beq_iff_eq, and_bit_eq_zero (Storage.offset_lt hLt)] at hBit
    refine Or.inr ⟨_, _, rfl, Storage.index_lt hLt, ?_, fun other => ?_, rfl⟩
    · unfold Used
      rw [Storage.index_div (Storage.offset_lt hLt), Storage.index_mod (Storage.offset_lt hLt), hBit]
      exact Bool.false_ne_true
    · exact used_taken (Storage.offset_lt hLt) other

theorem deallocate_eq (hIndex : index < storage.capacity) (hUsed : s.Used index) :
  ∃ s', s.deallocate (storage.elementAt index) = some s' ∧
    (∀ other, s'.Used other ↔ other ≠ index ∧ s.Used other) ∧ s'.mAllocated = s.mAllocated - 1 := by
  have hMod := Nat.mod_lt index storage.hBitChunkSize
  have hOffset : index - index / storage.kBitChunkSize * storage.kBitChunkSize = index % storage.kBitChunkSize := by
    have hSplit := Nat.div_add_mod' index storage.kBitChunkSize
    omega
  have hBit : s.mUsage (index / storage.kBitChunkSize) &&& bit (index % storage.kBitChunkSize) ≠ 0#_ := by
    rw [ne_eq, and_bit_eq_zero hMod, Bool.not_eq_false]
    exact hUsed
  unfold deallocate
  rw [Storage.indexOf_elementAt hIndex, Option.bind_eq_bind, Option.bind_some]
  dsimp only
  rw [hOffset, if_pos hBit]
  refine ⟨_, rfl, fun other => ?_, rfl⟩
  have hFreed := @used_freed _ s (index / storage.kBitChunkSize) _ hMod other
  rw [Nat.div_add_mod'] at hFreed
  exact hFreed

/-- The slots that an iteration has still to visit: in its own word, those of the value that it
has loaded, and after it those in use. -/
def Due (s : StaticAllocatorBitmap storage) (position : Position storage) (index : Nat) : Prop :=
  position.index < index ∧
    if index / storage.kBitChunkSize = position.word then
      position.value.getLsbD (index % storage.kBitChunkSize) = true
    else s.Used index

/-- The slots of its own word that an iteration has still to visit. -/
def Position.Ahead (position : Position storage) (index : Nat) : Prop :=
  position.index < index ∧ index / storage.kBitChunkSize = position.word ∧
    position.value.getLsbD (index % storage.kBitChunkSize) = true

def Position.InRange (position : Position storage) : Prop :=
  position.offset < storage.offsets position.word

theorem seekOffset_none (hNone : seekOffset word value offset = none) (hIndex : index < storage.capacity)
  (hWord : index / storage.kBitChunkSize = word) (hFrom : offset ≤ index % storage.kBitChunkSize) :
  value.getLsbD (index % storage.kBitChunkSize) = false := by
  have hOffset := (Storage.word_offset hIndex).2
  rw [hWord] at hOffset
  rw [seekOffset, Option.map_eq_none_iff, find?_range'_eq_none] at hNone
  have hBit := hNone _ hFrom (by omega)
  rwa [Bool.not_eq_true', bne_eq_false_iff_eq, and_bit_eq_zero (Nat.mod_lt _ storage.hBitChunkSize)] at hBit

theorem seekOffset_some (hSome : seekOffset word value offset = some found) :
  found.word = word ∧ found.value = value ∧ offset ≤ found.offset ∧ found.InRange ∧
    value.getLsbD found.offset = true ∧
    ∀ other, offset ≤ other → other < found.offset → value.getLsbD other = false := by
  obtain ⟨position, hFind, rfl⟩ := Option.map_eq_some_iff.1 hSome
  obtain ⟨hBit, hMem, hBefore⟩ := find?_range'_eq_some.1 hFind
  rw [mem_range'_1] at hMem
  have hLt : position < storage.offsets word := by omega
  have hChunk := Storage.offset_lt hLt
  rw [bne_iff_ne, ne_eq, and_bit_eq_zero hChunk, Bool.not_eq_false] at hBit
  refine ⟨rfl, rfl, hMem.1, hLt, hBit, fun other hFrom hOther => ?_⟩
  have hClear := hBefore other hFrom hOther
  rwa [Bool.not_eq_true', bne_eq_false_iff_eq, and_bit_eq_zero (Nat.lt_trans hOther hChunk)] at hClear

namespace Position.InRange

variable {position : Position storage} (h : position.InRange)
include h

theorem index_lt : position.index < storage.capacity := Storage.index_lt h

theorem index_div : position.index / storage.kBitChunkSize = position.word :=
  Storage.index_div (Storage.offset_lt h)

theorem index_mod : position.index % storage.kBitChunkSize = position.offset :=
  Storage.index_mod (Storage.offset_lt h)

end Position.InRange

theorem seekWord_none {word : Nat} (hNone : s.seekWord word = none) (hIndex : index < storage.capacity)
  (hWord : word ≤ index / storage.kBitChunkSize) :
  ¬s.Used index := by
  have hMem : index / storage.kBitChunkSize ∈ range' word (storage.words - word) := by
    have hLt := (Storage.word_offset hIndex).1
    rw [mem_range'_1]
    omega
  have hSeek := findSome?_eq_none_iff.1 hNone _ hMem
  unfold Used
  rw [seekOffset_none hSeek hIndex rfl (Nat.zero_le _)]
  exact Bool.false_ne_true

theorem seekWord_some {word : Nat} (hSome : s.seekWord word = some found) :
  found.InRange ∧ word ≤ found.word ∧ found.value = s.mUsage found.word ∧ s.Used found.index ∧
    ∀ index < storage.capacity, word ≤ index / storage.kBitChunkSize → index < found.index → ¬s.Used index := by
  obtain ⟨before, here, after, hSplit, hSeek, hBefore⟩ := findSome?_eq_some_iff.1 hSome
  obtain ⟨count, hCount, hEarlier, hLater⟩ := range'_eq_append_iff.1 hSplit
  obtain ⟨hHere, hValue, -, hRange, hBit, hClear⟩ := seekOffset_some hSeek
  subst hHere
  have hStart : found.word = word + count := by
    have hHead := congrArg head? hLater
    rw [head?_cons, head?_range'] at hHead
    split at hHead
    · cases hHead
    · rwa [Option.some.injEq, Nat.mul_one] at hHead
  refine ⟨hRange, by omega, hValue, ?_, fun index hIndex hFrom hLt => ?_⟩
  · unfold Used
    rw [hRange.index_div, hRange.index_mod]
    exact hBit
  · unfold Used
    rw [Storage.lt_iff, hRange.index_div, hRange.index_mod] at hLt
    rcases hLt with hWord | ⟨hWord, hOffset⟩
    · have hMem : index / storage.kBitChunkSize ∈ before := by
        rw [hEarlier, mem_range'_1]
        omega
      rw [seekOffset_none (hBefore _ hMem) hIndex rfl (Nat.zero_le _)]
      exact Bool.false_ne_true
    · rw [hWord, hClear _ (Nat.zero_le _) hOffset]
      exact Bool.false_ne_true

/-- The position found is that of the first of the `due` slots, and leaves the other ones due. -/
structure Finds (s : StaticAllocatorBitmap storage) (due : Nat → Prop) (found : Position storage) : Prop where
  inRange : found.InRange
  due_index : due found.index
  before : ∀ index < storage.capacity, index < found.index → ¬due index
  after : ∀ index < storage.capacity, found.index < index → (s.Due found index ↔ due index)

theorem due_of_loaded {position : Position storage} (hValue : position.value = s.mUsage position.word)
  (hAfter : position.index < index) :
  s.Due position index ↔ s.Used index := by
  unfold Due
  rw [and_iff_right hAfter]
  by_cases hWord : index / storage.kBitChunkSize = position.word
  · rw [if_pos hWord, hValue, ← hWord]
    exact Iff.rfl
  · rw [if_neg hWord]

theorem first_finds (hFirst : s.seekWord 0 = some found) : s.Finds s.Used found := by
  obtain ⟨hRange, -, hValue, hUsed, hBefore⟩ := seekWord_some hFirst
  exact ⟨hRange, hUsed, fun index hIndex hLt => hBefore index hIndex (Nat.zero_le _) hLt,
    fun index _ hAfter => due_of_loaded hValue hAfter⟩

section Next

variable {s : StaticAllocatorBitmap storage} {position : Position storage} (hRange : position.InRange)
include hRange

theorem Position.InRange.lt_index {index : Nat} (hAfter : position.index < index) :
  position.word < index / storage.kBitChunkSize ∨
    index / storage.kBitChunkSize = position.word ∧ position.offset < index % storage.kBitChunkSize := by
  rw [Storage.lt_iff, hRange.index_div, hRange.index_mod] at hAfter
  exact hAfter.imp id fun h => ⟨h.1.symm, h.2⟩

theorem due_later (hNone : seekOffset position.word position.value (position.offset + 1) = none)
  {index : Nat} (hIndex : index < storage.capacity) :
  s.Due position index ↔ position.word < index / storage.kBitChunkSize ∧ s.Used index := by
  unfold Due
  constructor
  · rintro ⟨hAfter, hDue⟩
    rcases hRange.lt_index hAfter with hLater | ⟨hWord, hOffset⟩
    · rw [if_neg (Nat.ne_of_gt hLater)] at hDue
      exact ⟨hLater, hDue⟩
    · rw [if_pos hWord, seekOffset_none hNone hIndex hWord hOffset] at hDue
      exact absurd hDue Bool.false_ne_true
  · rintro ⟨hLater, hUsed⟩
    refine ⟨?_, ?_⟩
    · rw [Storage.lt_iff, hRange.index_div]
      exact Or.inl hLater
    · rwa [if_neg (Nat.ne_of_gt hLater)]

theorem next_none (hNext : s.next position = none) : ∀ index < storage.capacity, ¬s.Due position index := by
  unfold next at hNext
  cases hOwn : seekOffset position.word position.value (position.offset + 1) with
  | some own =>
    rw [hOwn] at hNext
    cases hNext
  | none =>
    rw [hOwn] at hNext
    intro index hIndex hDue
    rw [due_later hRange hOwn hIndex] at hDue
    exact seekWord_none hNext hIndex hDue.1 hDue.2

theorem next_finds {found : Position storage} (hNext : s.next position = some found) :
  s.Finds (s.Due position) found := by
  unfold next at hNext
  cases hOwn : seekOffset position.word position.value (position.offset + 1) with
  | some own =>
    rw [hOwn] at hNext
    cases hNext
    obtain ⟨hWord, hValue, hFrom, hFound, hBit, hClear⟩ := seekOffset_some hOwn
    have hLater : position.index < found.index := by
      unfold Position.index
      rw [hWord]
      omega
    have hDue : ∀ index, found.index < index → (s.Due found index ↔ s.Due position index) := by
      intro index hAfter
      unfold Due
      rw [and_iff_right hAfter, and_iff_right (Nat.lt_trans hLater hAfter), hWord, hValue]
    refine ⟨hFound, ⟨hLater, ?_⟩, ?_, fun index _ => hDue index⟩
    · rw [hFound.index_div, if_pos hWord, hFound.index_mod]
      exact hBit
    · rintro index hIndex hBefore ⟨hAfter, hLoaded⟩
      rw [Storage.lt_iff, hFound.index_div, hFound.index_mod, hWord] at hBefore
      rcases hRange.lt_index hAfter with hWord' | ⟨hWord', hOffset⟩
      · omega
      · rw [if_pos hWord', hClear _ hOffset (by omega)] at hLoaded
        exact Bool.false_ne_true hLoaded
  | none =>
    rw [hOwn] at hNext
    obtain ⟨hFound, hLater, hValue, hUsed, hClear⟩ := seekWord_some hNext
    refine ⟨hFound, ?_, ?_, ?_⟩
    · rw [due_later hRange hOwn hFound.index_lt, hFound.index_div]
      exact ⟨hLater, hUsed⟩
    · intro index hIndex hBefore hDue
      rw [due_later hRange hOwn hIndex] at hDue
      exact hClear index hIndex hDue.1 hBefore hDue.2
    · intro index hIndex hAfter
      rw [due_of_loaded hValue hAfter, due_later hRange hOwn hIndex]
      have hWord : found.word ≤ index / storage.kBitChunkSize := by
        rcases hFound.lt_index hAfter with h | h <;> omega
      exact (and_iff_right (Nat.lt_of_lt_of_le hLater hWord)).symm

end Next

end StaticAllocatorBitmap

/-- `BitMapObjectPool`; its objects are the addresses of their slots. -/
def bitMapObjectPool (storage : Storage) :
  Pool Unit (StaticAllocatorBitmap storage) (StaticAllocatorBitmap.Position storage) where
  create := fun s _ => s.allocate
  release := fun s object => s.deallocate object
  enter := id
  first := fun s => s.seekWord 0
  next := fun s position => some (s.next position)
  leave := id
  object := fun _ position => some (storage.elementAt position.index)
  live := fun s => s.live
  allocated := fun s => s.mAllocated

namespace BitMapObjectPool

open StaticAllocatorBitmap

variable {storage : Storage}

/-- What holds of an iteration while its visitor is called: the slots ahead of it in the value that
it has loaded are in use, and those of the objects that were live all the time are among them. -/
structure Underway (s : StaticAllocatorBitmap storage) (iteration : Iteration (Position storage)) : Prop where
  inRange : iteration.cursor.InRange
  used_of_ahead : ∀ index < storage.capacity, iteration.cursor.Ahead index → s.Used index
  ahead_of_steady : ∀ index < storage.capacity, storage.elementAt index ∈ iteration.steady →
    iteration.cursor.index < index → index / storage.kBitChunkSize = iteration.cursor.word →
    iteration.cursor.Ahead index
  steady_live : ∀ object ∈ iteration.steady, object ∈ s.live
  counted : iteration.toHistory.Counted (· < storage.elementAt (iteration.cursor.index + 1))

structure Good (s : State (StaticAllocatorBitmap storage) (Position storage)) : Prop where
  accounted : (bitMapObjectPool storage).Accounted s.pool
  underway : ∀ iteration ∈ s.iterations, Underway s.pool iteration

/-- No iteration that is under way has the slot of a released object ahead of it in the value of
usage bits that it has loaded. -/
def Undisturbed (s : State (StaticAllocatorBitmap storage) (Position storage)) : Call Unit → Prop
  | .release (some object) => ∀ index, storage.indexOf object = some index →
      ∀ iteration ∈ s.iterations, ¬iteration.cursor.Ahead index
  | _ => True

def Allowed (s : State (StaticAllocatorBitmap storage) (Position storage)) (call : Call Unit) : Prop :=
  (bitMapObjectPool storage).Legal s call ∧ Undisturbed s call

def Full (s : State (StaticAllocatorBitmap storage) (Position storage)) (_ : Call Unit) : Prop :=
  s.pool.live.length = storage.capacity

theorem elementAt_lt {index index' : Nat} :
  storage.elementAt index < storage.elementAt index' ↔ index < index' := by
  rw [← Nat.not_le, Storage.elementAt_le, Nat.not_le]

section Iterations

variable {s s' : StaticAllocatorBitmap storage} {iteration : Iteration (Position storage)}

section

variable (h : Underway s iteration)
include h

theorem Underway.due_of_steady {index : Nat} (hIndex : index < storage.capacity)
  (hSteady : storage.elementAt index ∈ iteration.steady) (hAfter : iteration.cursor.index < index) :
  s.Due iteration.cursor index := by
  refine ⟨hAfter, ?_⟩
  by_cases hWord : index / storage.kBitChunkSize = iteration.cursor.word
  · rw [if_pos hWord]
    exact (h.ahead_of_steady index hIndex hSteady hAfter hWord).2.2
  · rw [if_neg hWord]
    exact (elementAt_mem_live hIndex).1 (h.steady_live _ hSteady)

theorem Underway.used_of_due {index : Nat} (hIndex : index < storage.capacity)
  (hDue : s.Due iteration.cursor index) : s.Used index := by
  obtain ⟨hAfter, hDue⟩ := hDue
  by_cases hWord : index / storage.kBitChunkSize = iteration.cursor.word
  · rw [if_pos hWord] at hDue
    exact h.used_of_ahead index hIndex ⟨hAfter, hWord, hDue⟩
  · rwa [if_neg hWord] at hDue

theorem Underway.create (hUsed : ∀ index, s.Used index → s'.Used index) :
  Underway s' iteration where
  inRange := h.inRange
  used_of_ahead := fun index hIndex hAhead => hUsed index (h.used_of_ahead index hIndex hAhead)
  ahead_of_steady := h.ahead_of_steady
  steady_live := by
    intro object hSteady
    obtain ⟨index, hIndex, hBefore, hObject⟩ := mem_live.1 (h.steady_live object hSteady)
    exact mem_live.2 ⟨index, hIndex, hUsed index hBefore, hObject⟩
  counted := h.counted

theorem Underway.release {index : Nat} (hAhead : ¬iteration.cursor.Ahead index)
  (hUsed : ∀ other, s'.Used other ↔ other ≠ index ∧ s.Used other) :
  Underway s' (iteration.forget (storage.elementAt index)) where
  inRange := h.inRange
  used_of_ahead := by
    intro other hOther hAheadOther
    refine (hUsed other).2 ⟨?_, h.used_of_ahead other hOther hAheadOther⟩
    rintro rfl
    exact hAhead hAheadOther
  ahead_of_steady := fun other hOther hSteady =>
    h.ahead_of_steady other hOther (mem_of_mem_filter hSteady)
  steady_live := by
    intro object hSteady
    obtain ⟨hSteady, hOther⟩ := mem_filter.1 hSteady
    obtain ⟨other, hRange, hBefore, rfl⟩ := mem_live.1 (h.steady_live object hSteady)
    refine mem_live.2 ⟨other, hRange, (hUsed other).2 ⟨?_, hBefore⟩, rfl⟩
    rintro rfl
    exact of_decide_eq_true hOther rfl
  counted := h.counted.forget _

end

theorem Finds.underway {due : Nat → Prop} {found : Position storage} {history : History} {passed : Nat}
  (hFinds : s.Finds due found) (hUsed : ∀ index < storage.capacity, due index → s.Used index)
  (hPassed : ∀ index, due index → passed ≤ index)
  (hSteady : ∀ index < storage.capacity, storage.elementAt index ∈ history.steady → passed ≤ index → due index)
  (hLive : ∀ object ∈ history.steady, object ∈ s.live)
  (hCounted : history.Counted (· < storage.elementAt passed)) :
  Underway s ⟨⟨history.visited ++ [storage.elementAt found.index], history.steady⟩, found⟩ where
  inRange := hFinds.inRange
  used_of_ahead := by
    intro index hIndex hAhead
    refine hUsed index hIndex ((hFinds.after index hIndex hAhead.1).1 ⟨hAhead.1, ?_⟩)
    rw [if_pos hAhead.2.1]
    exact hAhead.2.2
  ahead_of_steady := by
    intro index hIndex hMem hAfter hWord
    have hFrom : passed ≤ index :=
      Nat.le_trans (hPassed _ hFinds.due_index) (Nat.le_of_lt hAfter)
    have hDue := (hFinds.after index hIndex hAfter).2 (hSteady index hIndex hMem hFrom)
    refine ⟨hAfter, hWord, ?_⟩
    have hLoaded := hDue.2
    rwa [if_pos hWord] at hLoaded
  steady_live := hLive
  counted := by
    refine hCounted.visit (fun _ hBefore => ?_) fun other hOther => ?_
    · exact absurd (hPassed _ hFinds.due_index) (Nat.not_le.2 (elementAt_lt.1 hBefore))
    · obtain ⟨index, hIndex, -, rfl⟩ := mem_live.1 (hLive other hOther)
      rw [elementAt_lt, elementAt_lt, Storage.elementAt_inj]
      have hFrom := hPassed _ hFinds.due_index
      show index < found.index + 1 ↔ index < passed ∨ index = found.index
      constructor
      · intro hLe
        by_contra hNot
        have hBefore : index < found.index := by omega
        exact hFinds.before index hIndex hBefore (hSteady index hIndex hOther (by omega))
      · omega

end Iterations

theorem resume_serves {s : State (StaticAllocatorBitmap storage) (Position storage)} {Reason : Prop}
  {found : Option (Position storage)} {history : History} (due : Nat → Prop) (passed : Nat)
  {outer : List (Iteration (Position storage))}
  (hAccounted : (bitMapObjectPool storage).Accounted s.pool)
  (hOuter : ∀ iteration ∈ outer, Underway s.pool iteration)
  (hNone : found = none → ∀ index < storage.capacity, ¬due index)
  (hSome : ∀ position, found = some position → s.pool.Finds due position)
  (hUsed : ∀ index < storage.capacity, due index → s.pool.Used index)
  (hPassed : ∀ index, due index → passed ≤ index)
  (hSteady : ∀ index < storage.capacity, storage.elementAt index ∈ history.steady → passed ≤ index → due index)
  (hLive : ∀ object ∈ history.steady, object ∈ s.pool.live)
  (hCounted : history.Counted (· < storage.elementAt passed)) :
  ∃ outcome s', (bitMapObjectPool storage).resume s.pool found history outer = some (outcome, s') ∧
    (bitMapObjectPool storage).Sound Reason s s' outcome ∧ Good s' := by
  cases hFound : found with
  | none =>
    refine ⟨_, _, rfl, ⟨hCounted.finished fun object hObject => ?_, rfl⟩, ⟨hAccounted, hOuter⟩⟩
    obtain ⟨index, hIndex, -, rfl⟩ := mem_live.1 (hLive object hObject)
    rw [elementAt_lt]
    by_contra hFrom
    exact hNone hFound index hIndex (hSteady index hIndex hObject (Nat.not_lt.1 hFrom))
  | some position =>
    have hFinds := hSome position hFound
    have hIndex := hFinds.inRange.index_lt
    have hUnderway := Finds.underway hFinds hUsed hPassed hSteady hLive hCounted
    refine ⟨_, _, rfl, ⟨?_, rfl⟩, ⟨hAccounted, ?_⟩⟩
    · exact (elementAt_mem_live hIndex).2 (hUsed _ hIndex hFinds.due_index)
    · rintro iteration (_ | ⟨_, hMem⟩)
      · exact hUnderway
      · exact hOuter iteration hMem

section Calls

variable {s : State (StaticAllocatorBitmap storage) (Position storage)} (h : Good s)
include h

theorem create_serves (place : Unit) : ∃ outcome s', (bitMapObjectPool storage).step s (.create place) =
  some (outcome, s') ∧
  (bitMapObjectPool storage).Sound (s.pool.live.length = storage.capacity) s s' outcome ∧ Good s' := by
  rcases allocate_cases s.pool with ⟨hAllocate, hFull⟩ | ⟨index, pool, hAllocate, hIndex, hFree, hUsed, hCount⟩
  · refine ⟨.created none, s, ?_, ⟨?_, rfl⟩, h⟩
    · exact congrArg (fun created => some (Outcome.created created.1, { s with pool := created.2 })) hAllocate
    · have hAll : (range storage.capacity).filter (fun index => s.pool.Used index) =
          range storage.capacity := by
        rw [filter_eq_self]
        exact fun index hIndex => decide_eq_true (hFull index (mem_range.1 hIndex))
      rw [live, hAll, length_map, length_range]
  · have hNew : storage.elementAt index ∉ s.pool.live := fun hLive => hFree ((elementAt_mem_live hIndex).1 hLive)
    have hMem : ∀ other, other ∈ pool.live ↔ other = storage.elementAt index ∨ other ∈ s.pool.live := by
      intro other
      simp only [mem_live, hUsed]
      grind
    refine ⟨.created (some (storage.elementAt index)), { s with pool := pool }, ?_, ⟨hNew, hMem⟩, ⟨⟨?_, ?_⟩, ?_⟩⟩
    · exact congrArg (fun created => some (Outcome.created created.1, { s with pool := created.2 })) hAllocate
    · exact nodup_live pool
    · have hLength : pool.live.length = s.pool.live.length + 1 :=
        length_gained (nodup_live s.pool) (nodup_live pool) hNew hMem
      exact hCount.trans ((congrArg (· + 1) h.accounted.allocated).trans hLength.symm)
    · exact fun iteration hIteration => (h.underway iteration hIteration).create fun other hBefore =>
        (hUsed other).2 (Or.inr hBefore)

theorem release_serves {object : Nat} (hLive : object ∈ s.pool.live)
  (hUndisturbed : Undisturbed s (.release (some object))) {Reason : Prop} :
  ∃ outcome s', (bitMapObjectPool storage).step s (.release (some object)) = some (outcome, s') ∧
    (bitMapObjectPool storage).Sound Reason s s' outcome ∧ Good s' := by
  obtain ⟨index, hIndex, hBefore, rfl⟩ := mem_live.1 hLive
  obtain ⟨pool, hDeallocate, hUsed, hCount⟩ := deallocate_eq hIndex hBefore
  have hMem : ∀ other, other ∈ pool.live ↔ other ≠ storage.elementAt index ∧ other ∈ s.pool.live := by
    intro other
    simp only [mem_live, hUsed]
    constructor
    · rintro ⟨slot, hSlot, ⟨hOther, hSlotUsed⟩, rfl⟩
      exact ⟨fun hSame => hOther (Storage.elementAt_inj.1 hSame), slot, hSlot, hSlotUsed, rfl⟩
    · rintro ⟨hOther, slot, hSlot, hSlotUsed, rfl⟩
      exact ⟨slot, hSlot, ⟨fun hSame => hOther (congrArg _ hSame), hSlotUsed⟩, rfl⟩
  have hGained : ∀ other, other ∈ s.pool.live ↔ other = storage.elementAt index ∨ other ∈ pool.live := by
    intro other
    rw [hMem]
    by_cases hSame : other = storage.elementAt index
    · simp only [hSame, hLive, true_or]
    · simp only [hSame, ne_eq, not_false_eq_true, true_and, false_or]
  have hLength : s.pool.live.length = pool.live.length + 1 :=
    length_gained (nodup_live pool) (nodup_live s.pool) (fun hStill => ((hMem _).1 hStill).1 rfl) hGained
  have hAllocated : pool.mAllocated = pool.live.length := by
    have hBefore : s.pool.mAllocated = s.pool.live.length := h.accounted.allocated
    omega
  refine ⟨.released (some (storage.elementAt index)),
    ⟨pool, s.iterations.map (·.forget (storage.elementAt index))⟩, ?_, hMem,
    ⟨⟨nodup_live pool, hAllocated⟩, ?_⟩⟩
  · exact congrArg (fun released : Option _ => released.bind fun pool => some (Outcome.released
      (some (storage.elementAt index)),
      (⟨pool, s.iterations.map (·.forget (storage.elementAt index))⟩ : State _ _))) hDeallocate
  · intro iteration hIteration
    obtain ⟨before, hMember, rfl⟩ := mem_map.1 hIteration
    exact (h.underway before hMember).release
      (hUndisturbed index (Storage.indexOf_elementAt hIndex) before hMember) hUsed

theorem forEach_serves {Reason : Prop} : ∃ outcome s', (bitMapObjectPool storage).step s .forEach =
  some (outcome, s') ∧ (bitMapObjectPool storage).Sound Reason s s' outcome ∧ Good s' := by
  refine resume_serves s.pool.Used 0 h.accounted h.underway ?_ ?_ ?_ ?_ ?_ ?_ ?_
  · exact fun hNone index hIndex => seekWord_none hNone hIndex (Nat.zero_le _)
  · exact fun position hSome => first_finds hSome
  · exact fun index _ hUsed => hUsed
  · exact fun index _ => Nat.zero_le index
  · exact fun index hIndex hLive _ => (elementAt_mem_live hIndex).1 hLive
  · exact fun object hLive => hLive
  · refine History.Counted.start _ fun object hLive => ?_
    obtain ⟨index, -, -, rfl⟩ := mem_live.1 hLive
    rw [elementAt_lt]
    exact Nat.not_lt_zero index

theorem returns_serves (result : Loop) (hIterations : s.iterations ≠ []) {Reason : Prop} :
  ∃ outcome s', (bitMapObjectPool storage).step s (.returns result) = some (outcome, s') ∧
    (bitMapObjectPool storage).Sound Reason s s' outcome ∧ Good s' := by
  obtain ⟨pool, iterations⟩ := s
  cases iterations with
  | nil => exact absurd rfl hIterations
  | cons iteration outer =>
    have hOuter : ∀ other ∈ outer, Underway pool other := fun other hOther =>
      h.underway other (mem_cons_of_mem _ hOther)
    have hUnderway := h.underway iteration mem_cons_self
    cases result with
    | kBreak => exact ⟨.broken, ⟨pool, outer⟩, rfl, rfl, ⟨h.accounted, hOuter⟩⟩
    | kContinue =>
      refine resume_serves (s := ⟨pool, iteration :: outer⟩) (pool.Due iteration.cursor)
        (iteration.cursor.index + 1) h.accounted hOuter ?_ ?_ ?_ ?_ ?_ ?_ ?_
      · exact fun hNone => next_none hUnderway.inRange hNone
      · exact fun position hSome => next_finds hUnderway.inRange hSome
      · exact fun index hIndex hDue => hUnderway.used_of_due hIndex hDue
      · exact fun index hDue => hDue.1
      · exact fun index hIndex hSteady hAfter => hUnderway.due_of_steady hIndex hSteady hAfter
      · exact hUnderway.steady_live
      · exact hUnderway.counted

theorem serves (call : Call Unit) (hAllowed : Allowed s call) :
  ∃ outcome s', (bitMapObjectPool storage).step s call = some (outcome, s') ∧
    (bitMapObjectPool storage).Sound (Full s call) s s' outcome ∧ Good s' := by
  obtain ⟨hLegal, hUndisturbed⟩ := hAllowed
  cases call with
  | create place => exact create_serves h place
  | release object =>
    cases object with
    | none => exact ⟨.released none, s, rfl, rfl, h⟩
    | some object => exact release_serves h hLegal hUndisturbed
  | forEach => exact forEach_serves h
  | returns result => exact returns_serves h result hLegal

end Calls

theorem good_start : Good (⟨start, []⟩ : State (StaticAllocatorBitmap storage) (Position storage)) := by
  have hNone : (start : StaticAllocatorBitmap storage).live = [] := by
    rw [eq_nil_iff_forall_not_mem]
    intro object hLive
    obtain ⟨index, -, hUsed, -⟩ := mem_live.1 hLive
    unfold Used start at hUsed
    rw [BitVec.getLsbD_zero] at hUsed
    exact Bool.false_ne_true hUsed
  exact ⟨⟨nodup_live _, (congrArg length hNone).symm⟩, fun _ h => (not_mem_nil h).elim⟩

end BitMapObjectPool

end Chip.ObjectPool
