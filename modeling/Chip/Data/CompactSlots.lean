import Mathlib.Data.List.Nodup
import Mathlib.Data.List.Perm.Basic

/-! Arrays of a fixed size whose elements in use stand before the empty ones. An element that is
taken out leaves a hole, and the last element in use fills it. -/
namespace Chip

open List

namespace CompactSlots

variable {α : Type} (inUse : α → Bool) (empty : α)

def slots (size : Nat) (items : List α) : List α :=
  items ++ List.replicate (size - items.length) empty

def takeLast : List α → Option (α × List α)
  | [] => none
  | a :: rest =>
    match takeLast rest with
    | some (last, rest) => some (last, a :: rest)
    | none => if inUse a then some (a, empty :: rest) else none

/-- What stands at an empty place and behind it once the last element in use has moved there. -/
def closeHole (rest : List α) : List α :=
  match takeLast inUse empty rest with
  | some (last, rest) => last :: rest
  | none => empty :: rest

/-- Fill every hole with the last element in use behind it, in the first `size` places. -/
def compact : Nat → List α → List α
  | 0, l => l
  | _ + 1, [] => []
  | size + 1, a :: rest =>
    if inUse a then a :: compact size rest
    else
      match takeLast inUse empty rest with
      | some (last, rest) => last :: compact size rest
      | none => a :: compact size rest

/-- The elements behind a hole once the last of them has filled it. -/
def fillHole (items : List α) : List α :=
  match items.getLast? with
  | none => []
  | some last => last :: items.dropLast

variable {inUse empty} {items l : List α} {a : α} {size k : Nat}

@[simp] theorem fillHole_nil : fillHole ([] : List α) = [] := rfl

@[simp] theorem fillHole_concat (items : List α) (a : α) : fillHole (items ++ [a]) = a :: items := by
  simp [fillHole]

theorem fillHole_perm (items : List α) : (fillHole items).Perm items := by
  cases eq_nil_or_concat items with
  | inl h => simp [h]
  | inr h =>
    obtain ⟨before, last, rfl⟩ := h
    rw [concat_eq_append, fillHole_concat]
    exact (perm_append_singleton last before).symm

theorem modify_append (items : List α) (a : α) (rest : List α) (f : α → α) :
  (items ++ a :: rest).modify items.length f = items ++ f a :: rest := by
  induction items with
  | nil => rfl
  | cons b items ih => exact congrArg (b :: ·) ih

section

variable (hEmpty : inUse empty = false)
include hEmpty

theorem takeLast_replicate (k : Nat) : takeLast inUse empty (replicate k empty) = none := by
  induction k with
  | zero => rfl
  | succ k ih => simp [replicate_succ, takeLast, ih, hEmpty]

theorem takeLast_append (ha : inUse a = true) (items : List α) (k : Nat) :
  takeLast inUse empty (items ++ a :: replicate k empty) =
    some (a, items ++ replicate (k + 1) empty) := by
  induction items with
  | nil => simp [takeLast, takeLast_replicate hEmpty, ha, replicate_succ]
  | cons b items ih => simp [takeLast, ih]

theorem closeHole_append (hItems : ∀ a ∈ items, inUse a = true) (k : Nat) :
  closeHole inUse empty (items ++ replicate k empty) =
    fillHole items ++ replicate (k + 1) empty := by
  obtain rfl | ⟨before, last, rfl⟩ := eq_nil_or_concat items
  · simp [closeHole, takeLast_replicate hEmpty, replicate_succ]
  · rw [concat_eq_append] at hItems ⊢
    have hLast : inUse last = true := hItems last (by simp)
    rw [closeHole, append_assoc, singleton_append, takeLast_append hEmpty hLast]
    simp

theorem compact_replicate (size k : Nat) :
  compact inUse empty size (replicate k empty) = replicate k empty := by
  induction k generalizing size with
  | zero => cases size <;> rfl
  | succ k ih =>
    cases size with
    | zero => rfl
    | succ size =>
      simp [replicate_succ, compact, hEmpty, takeLast_replicate hEmpty, ih]

end

theorem compact_append (hItems : ∀ a ∈ items, inUse a = true) (size : Nat) (l : List α) :
  compact inUse empty (items.length + size) (items ++ l) =
    items ++ compact inUse empty size l := by
  induction items with
  | nil => simp
  | cons a items ih =>
    have hA := hItems a mem_cons_self
    have hRest := ih fun b hb => hItems b (mem_cons_of_mem a hb)
    rw [length_cons, Nat.add_right_comm, cons_append, compact, if_pos hA, hRest]
    rfl

theorem compact_hole (hEmpty : inUse empty = false) {before after : List α}
  (hBefore : ∀ a ∈ before, inUse a = true) (hAfter : ∀ a ∈ after, inUse a = true) (k : Nat) :
  compact inUse empty (before.length + 1 + after.length + k)
      (before ++ empty :: (after ++ replicate k empty)) =
    before ++ fillHole after ++ replicate (k + 1) empty := by
  rw [Nat.add_assoc, Nat.add_assoc, compact_append hBefore, append_assoc, Nat.add_comm 1,
    compact, if_neg (by simp [hEmpty])]
  obtain rfl | ⟨after, last, rfl⟩ := eq_nil_or_concat after
  · simp only [nil_append, takeLast_replicate hEmpty, compact_replicate hEmpty, fillHole_nil]
    rfl
  · rw [concat_eq_append] at hAfter ⊢
    have hLast : inUse last = true := hAfter last (by simp)
    have hRest : ∀ a ∈ after, inUse a = true := fun a ha => hAfter a (by simp [ha])
    have hSize : (after ++ [last]).length + k = after.length + (k + 1) := by
      simp
      omega
    rw [append_assoc, singleton_append, takeLast_append hEmpty hLast]
    dsimp only
    rw [hSize, compact_append hRest, compact_replicate hEmpty, fillHole_concat]
    simp

theorem compact_slots (hEmpty : inUse empty = false) {before after : List α}
  (hBefore : ∀ a ∈ before, inUse a = true) (hAfter : ∀ a ∈ after, inUse a = true)
  (hSize : before.length + after.length < size) :
  compact inUse empty size (before ++ empty ::
      (after ++ replicate (size - (before.length + after.length + 1)) empty)) =
    slots empty size (before ++ fillHole after) := by
  have hLength := (fillHole_perm after).length_eq
  have hCompact := compact_hole hEmpty hBefore hAfter
    (size - (before.length + after.length + 1))
  rw [show before.length + 1 + after.length + (size - (before.length + after.length + 1)) = size
    from by omega] at hCompact
  rw [hCompact, slots, length_append, hLength]
  congr 2
  omega

section Keys

variable {κ : Type} {key : α → κ} {unused : κ}

section

variable (hKey : key empty = unused) (hItems : ∀ a ∈ items, key a ≠ unused)
include hKey hItems

theorem slots_first (size : Nat) :
  (slots empty size items).Pairwise fun a b => key b ≠ unused → key a ≠ unused := by
  rw [slots, pairwise_append]
  refine ⟨pairwise_of_forall_mem_list fun a ha _ _ _ => hItems a ha, ?_, ?_⟩
  · exact pairwise_replicate.mpr (.inr fun h => absurd hKey h)
  · exact fun a ha _ _ _ => hItems a ha

theorem slots_once (hNodup : (items.map key).Nodup) (size : Nat) :
  (slots empty size items).Pairwise fun a b => key a ≠ unused → key a ≠ key b := by
  rw [slots, pairwise_append]
  refine ⟨?_, ?_, ?_⟩
  · apply (pairwise_map.mp hNodup).imp
    intro a b hNe _
    exact hNe
  · exact pairwise_replicate.mpr (.inr fun h => absurd hKey h)
  · intro a ha b hb _
    rw [eq_of_mem_replicate hb, hKey]
    exact hItems a ha

end

theorem split_key (hNodup : (items.map key).Nodup) (k : κ) :
  (∀ a ∈ items, key a ≠ k) ∨
    ∃ before a after, items = before ++ a :: after ∧ key a = k ∧
      (∀ b ∈ before, key b ≠ k) ∧ ∀ b ∈ after, key b ≠ k := by
  by_cases hMem : ∃ a ∈ items, key a = k
  · obtain ⟨a, hMem, rfl⟩ := hMem
    obtain ⟨before, after, rfl⟩ := append_of_mem hMem
    rw [map_append, map_cons, nodup_append] at hNodup
    obtain ⟨-, hAfter, hBefore⟩ := hNodup
    refine .inr ⟨before, a, after, rfl, rfl, fun b hb => ?_, fun b hb => ?_⟩
    · exact hBefore _ (mem_map_of_mem hb) _ mem_cons_self
    · exact fun hSame => (nodup_cons.mp hAfter).1 (hSame ▸ mem_map_of_mem hb)
  · exact .inl fun a h hSame => hMem ⟨a, h, hSame⟩

theorem countP_slots (hEmpty : inUse empty = false) (hItems : ∀ a ∈ items, inUse a = true)
  (size : Nat) : (slots empty size items).countP inUse = items.length := by
  rw [slots, countP_append, countP_eq_length.mpr hItems, countP_replicate]
  simp [hEmpty]

end Keys

end CompactSlots

end Chip
