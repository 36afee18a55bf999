import Chip.Data.Memory

/-! A queue in a memory of fixed size whose last place is followed by its first one. What
stands in the queue is given by a place and a number of items. -/
namespace Chip

open List

variable {α : Type} {memory bytes : List α} {dst n : Nat}

theorem getElem?_overwrite (h : dst + bytes.length ≤ memory.length) (j : Nat) :
  (overwrite memory dst bytes)[j]? =
    if dst ≤ j ∧ j < dst + bytes.length then bytes[j - dst]? else memory[j]? := by
  have hFront : (memory.take dst).length = dst := length_take_of_le (by omega)
  rw [overwrite, append_assoc]
  by_cases hBefore : j < dst
  · rw [getElem?_append_left (by omega), getElem?_take_of_lt hBefore, if_neg (by omega)]
  · rw [getElem?_append_right (by omega), hFront]
    by_cases hInside : j < dst + bytes.length
    · rw [getElem?_append_left (by omega), if_pos (by omega)]
    · rw [getElem?_append_right (by omega), getElem?_drop, if_neg (by omega)]
      congr 1
      omega

namespace Ring

variable {start length amount : Nat}

def advance (capacity place amount : Nat) : Nat :=
  if capacity ≤ place + amount then place + amount - capacity else place + amount

/-- The items in that many places, from `start` on. -/
def slice (memory : List α) (start length : Nat) : List α :=
  (memory.drop start ++ memory).take length

/-- The memory with these items stored from `start` on. -/
def store (memory : List α) (start : Nat) (bytes : List α) : List α :=
  let firstPiece := min (memory.length - start) bytes.length
  overwrite (overwrite memory start (bytes.take firstPiece)) 0 (bytes.drop firstPiece)

/-- The number of places from one place to another, less than the capacity. -/
def distance (capacity start finish : Nat) : Nat :=
  if start ≤ finish then finish - start else capacity + finish - start

section Places

variable {capacity place finish : Nat}

theorem advance_lt (hPlace : place < capacity) (hAmount : amount ≤ capacity) :
  advance capacity place amount < capacity := by
  unfold advance
  split <;> omega

theorem advance_advance (hPlace : place < capacity) (hAmount : amount + n ≤ capacity) :
  advance capacity (advance capacity place amount) n = advance capacity place (amount + n) := by
  unfold advance
  split <;> split <;> split <;> omega

section

variable (hStart : start < capacity) (hFinish : finish < capacity)
include hStart hFinish

theorem distance_lt : distance capacity start finish < capacity := by
  unfold distance
  split <;> omega

theorem advance_distance : advance capacity start (distance capacity start finish) = finish := by
  unfold distance advance
  split <;> split <;> omega

theorem distance_advance_left (hAmount : amount ≤ distance capacity start finish) :
  distance capacity (advance capacity start amount) finish =
    distance capacity start finish - amount := by
  unfold distance at hAmount
  unfold distance advance
  split at hAmount <;> split <;> split <;> omega

theorem distance_advance_right (hAmount : distance capacity start finish + amount < capacity) :
  distance capacity start (advance capacity finish amount) =
    distance capacity start finish + amount := by
  unfold distance at hAmount
  unfold distance advance
  split at hAmount <;> split <;> split <;> omega

end

end Places

theorem length_store (bytes : List α) (hStart : start < memory.length) (hFits : bytes.length ≤ memory.length) :
  (store memory start bytes).length = memory.length := by
  unfold store
  have hFirst : (overwrite memory start
      (bytes.take (min (memory.length - start) bytes.length))).length = memory.length := by
    refine length_overwrite ?_
    rw [length_take]
    omega
  rw [length_overwrite, hFirst]
  rw [hFirst, length_drop]
  omega

theorem length_slice (hFits : length ≤ memory.length) :
  (slice memory start length).length = length := by
  rw [slice, length_take, length_append, length_drop]
  omega

theorem slice_pieces : slice memory start length =
  (memory.drop start).take (min (memory.length - start) length) ++
    memory.take (length - min (memory.length - start) length) := by
  have hBack : (memory.drop start).length = memory.length - start := length_drop
  rw [slice, take_append, hBack]
  by_cases hOne : length ≤ memory.length - start
  · rw [Nat.min_eq_right hOne, Nat.sub_self, Nat.sub_eq_zero_of_le hOne]
  · have hLess : memory.length - start ≤ length := by omega
    rw [Nat.min_eq_left hLess, take_of_length_le (l := memory.drop start) (by omega),
      take_of_length_le (l := memory.drop start) (by omega)]

theorem getElem?_slice (hStart : start < memory.length) {i : Nat} (hi : i < length) : (slice memory start length)[i]? = memory[advance memory.length start i]? := by
  have hBack : (memory.drop start).length = memory.length - start := length_drop
  rw [slice, getElem?_take_of_lt hi]
  unfold advance
  by_cases hOne : i < memory.length - start
  · rw [getElem?_append_left (by omega), getElem?_drop, if_neg (by omega)]
  · rw [getElem?_append_right (by omega), hBack, if_pos (by omega)]
    congr 1
    omega

theorem take_slice (hLess : n ≤ length) : (slice memory start length).take n = slice memory start n := by
  rw [slice, take_take, Nat.min_eq_left hLess, slice]

theorem drop_slice (hStart : start < memory.length) (hFits : length ≤ memory.length)
  (hLess : n ≤ length) :
  (slice memory start length).drop n = slice memory (advance memory.length start n) (length - n) := by
  have hNext : advance memory.length start n < memory.length := advance_lt hStart (by omega)
  apply ext_getElem?
  intro i
  rw [getElem?_drop]
  by_cases hi : n + i < length
  · rw [getElem?_slice hStart hi, getElem?_slice hNext (by omega),
      advance_advance hStart (by omega)]
  · rw [getElem?_eq_none, getElem?_eq_none]
    · rw [length_slice (by omega)]
      omega
    · rw [length_slice hFits]
      omega

theorem getElem?_store (hStart : start < memory.length) (hFits : bytes.length ≤ memory.length) {i : Nat}
  (hi : i < memory.length) :
  (store memory start bytes)[advance memory.length start i]? =
    if i < bytes.length then bytes[i]? else memory[advance memory.length start i]? := by
  unfold store
  have hFirstLength : (bytes.take (min (memory.length - start) bytes.length)).length =
      min (memory.length - start) bytes.length := by
    rw [length_take]
    omega
  have hSecondLength : (bytes.drop (min (memory.length - start) bytes.length)).length =
      bytes.length - min (memory.length - start) bytes.length := length_drop
  have hFirst : start + (bytes.take (min (memory.length - start) bytes.length)).length ≤
      memory.length := by omega
  dsimp only
  rw [getElem?_overwrite (by rw [length_overwrite hFirst]; omega), getElem?_overwrite hFirst,
    hFirstLength, hSecondLength]
  unfold advance
  by_cases hBytes : i < bytes.length
  · rw [if_pos hBytes]
    by_cases hWrap : memory.length ≤ start + i
    · rw [if_pos hWrap, if_pos (by omega), getElem?_drop]
      congr 1
      omega
    · rw [if_neg hWrap, if_neg (by omega), if_pos (by omega), getElem?_take_of_lt (by omega)]
      congr 1
      omega
  · rw [if_neg hBytes]
    by_cases hWrap : memory.length ≤ start + i
    · rw [if_pos hWrap, if_neg (by omega), if_neg (by omega)]
    · rw [if_neg hWrap, if_neg (by omega), if_neg (by omega)]

theorem slice_store (bytes : List α) (hStart : start < memory.length) (hFits : length + bytes.length ≤ memory.length)
  (hLess : length < memory.length) :
  slice (store memory (advance memory.length start length) bytes) start (length + bytes.length) =
    slice memory start length ++ bytes := by
  have hBehind : advance memory.length start length < memory.length := advance_lt hStart (by omega)
  have hLength := length_store bytes hBehind (by omega)
  have hSlice : (slice memory start length).length = length := length_slice (by omega)
  apply ext_getElem?
  intro i
  by_cases hi : i < length + bytes.length
  · rw [getElem?_slice (by omega) hi, hLength]
    by_cases hOld : i < length
    · -- counted from the place behind the slice, the old items stand at the far end
      have hPlace : advance memory.length start i = advance memory.length
          (advance memory.length start length) (memory.length - length + i) := by
        unfold advance
        split <;> split <;> split <;> omega
      rw [getElem?_append_left (by omega), getElem?_slice hStart hOld, hPlace,
        getElem?_store hBehind (by omega) (by omega), if_neg (by omega)]
    · have hPlace : advance memory.length start i = advance memory.length
          (advance memory.length start length) (i - length) := by
        rw [advance_advance hStart (by omega)]
        congr 1
        omega
      rw [getElem?_append_right (by omega), hSlice, hPlace,
        getElem?_store hBehind (by omega) (by omega), if_pos (by omega)]
  · rw [getElem?_eq_none, getElem?_eq_none]
    · rw [length_append, hSlice]
      omega
    · rw [length_slice (by omega)]
      omega

end Ring

end Chip
