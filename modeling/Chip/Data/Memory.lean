import Mathlib.Data.List.Basic

/-! Bytes that lie in one block of memory, and the copies that are made inside it. -/
namespace Chip

open List

variable {α : Type} {memory bytes : List α} {dst src n m : Nat}

/-- The memory with these bytes stored from `dst` on. -/
def overwrite (memory : List α) (dst : Nat) (bytes : List α) : List α :=
  memory.take dst ++ bytes ++ memory.drop (dst + bytes.length)

/-- `memmove` of `n` bytes, whose source and destination may overlap. -/
def memmove (memory : List α) (dst src n : Nat) : List α :=
  overwrite memory dst ((memory.drop src).take n)

theorem overwrite_at_end (memory bytes : List α) :
  overwrite memory memory.length bytes = memory ++ bytes := by
  rw [overwrite, take_length, drop_of_length_le (by omega), append_nil]

theorem length_overwrite (h : dst + bytes.length ≤ memory.length) :
  (overwrite memory dst bytes).length = memory.length := by
  simp only [overwrite, length_append, length_take, length_drop]
  omega

theorem drop_overwrite (h : dst ≤ memory.length) (hBehind : dst + bytes.length ≤ n) :
  (overwrite memory dst bytes).drop n = memory.drop n := by
  have hLength : (memory.take dst ++ bytes).length = dst + bytes.length := by
    rw [length_append, length_take_of_le h]
  rw [overwrite, drop_append, hLength, drop_drop, drop_of_length_le (by omega),
    nil_append]
  congr 1
  omega

theorem take_overwrite (h : dst ≤ memory.length) :
  (overwrite memory dst bytes).take (dst + bytes.length) = memory.take dst ++ bytes := by
  have hLength : (memory.take dst ++ bytes).length = dst + bytes.length := by
    rw [length_append, length_take_of_le h]
  rw [overwrite, ← hLength, take_left]

theorem length_drop_take (h : src + n ≤ memory.length) : ((memory.drop src).take n).length = n := by
  rw [length_take, length_drop]
  omega

theorem length_memmove (hSrc : src + n ≤ memory.length) (hDst : dst + n ≤ memory.length) :
  (memmove memory dst src n).length = memory.length :=
  length_overwrite (by rwa [length_drop_take hSrc])

end Chip
