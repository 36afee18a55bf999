import Mathlib.Data.List.Perm.Basic
import Mathlib.Data.List.Range
import Mathlib.Logic.Function.Basic

/-! A table with a fixed number of places, each of which is empty or holds one item. What it
holds is a finite collection, whatever the places are. -/
namespace Chip

open List

namespace SlotTable

variable {α : Type} (slots : Nat → Option α) (limit : Nat)

def items : List α := (List.range limit).filterMap slots

def without (matching : α → Bool) : Nat → Option α :=
  fun i => (slots i).filter fun a => !matching a

variable {slots limit} {i : Nat} {a : α}

theorem mem_items : a ∈ items slots limit ↔ ∃ i < limit, slots i = some a := by
  simp [items, mem_filterMap]

theorem items_sublist {slots' : Nat → Option α} (h : ∀ i, slots' i = none ∨ slots' i = slots i) :
  (items slots' limit).Sublist (items slots limit) := by
  unfold items
  induction range limit with
  | nil => exact List.Sublist.refl _
  | cons index rest ih =>
    rcases h index with hEmpty | hSame
    · rw [filterMap_cons_none hEmpty]
      cases hSlot : slots index with
      | none =>
        rw [filterMap_cons_none hSlot]
        exact ih
      | some a =>
        rw [filterMap_cons_some hSlot]
        exact ih.cons a
    · cases hSlot : slots index with
      | none =>
        rw [filterMap_cons_none (hSame.trans hSlot), filterMap_cons_none hSlot]
        exact ih
      | some a =>
        rw [filterMap_cons_some (hSame.trans hSlot), filterMap_cons_some hSlot]
        exact ih.cons_cons a

theorem filterMap_without (matching : α → Bool) (indices : List Nat) :
  indices.filterMap (without slots matching) =
    (indices.filterMap slots).filter fun a => !matching a := by
  rw [filter_filterMap]
  rfl

theorem items_without (matching : α → Bool) :
  items (without slots matching) limit = (items slots limit).filter fun a => !matching a :=
  filterMap_without matching _

theorem filterMap_update_perm (indices : List Nat) (hOnce : indices.Nodup) (hMem : i ∈ indices)
  (hEmpty : slots i = none) (a : α) :
  (indices.filterMap (Function.update slots i (some a))).Perm (a :: indices.filterMap slots) := by
  induction indices with
  | nil => cases hMem
  | cons index rest ih =>
    obtain ⟨hNew, hOnce⟩ := nodup_cons.mp hOnce
    by_cases hIndex : index = i
    · subst hIndex
      have hRest : rest.filterMap (Function.update slots index (some a)) = rest.filterMap slots := by
        apply filterMap_congr
        intro j hj
        apply Function.update_of_ne
        rintro rfl
        exact hNew hj
      rw [filterMap_cons_some (Function.update_self index (some a) slots),
        filterMap_cons_none hEmpty, hRest]
    · have hRest := ih hOnce ((mem_cons.mp hMem).resolve_left (Ne.symm hIndex))
      have hSame : Function.update slots i (some a) index = slots index :=
        Function.update_of_ne hIndex _ _
      cases hSlot : slots index with
      | none =>
        rw [filterMap_cons_none (hSame.trans hSlot), filterMap_cons_none hSlot]
        exact hRest
      | some b =>
        rw [filterMap_cons_some (hSame.trans hSlot), filterMap_cons_some hSlot]
        exact (hRest.cons b).trans (List.Perm.swap a b _)

theorem items_update_perm (hi : i < limit) (hEmpty : slots i = none) (a : α) :
  (items (Function.update slots i (some a)) limit).Perm (a :: items slots limit) :=
  filterMap_update_perm _ nodup_range (mem_range.mpr hi) hEmpty a

theorem length_items_lt {slots' : Nat → Option α} (h : ∀ j, slots' j = none ∨ slots' j = slots j)
  (hi : i < limit) (hBefore : slots i = some a) (hAfter : slots' i = none) :
  (items slots' limit).length < (items slots limit).length := by
  have hRest : ∀ j, slots' j = none ∨ slots' j = Function.update slots i none j := by
    intro j
    by_cases hSame : j = i
    · exact Or.inl (hSame ▸ hAfter)
    · rw [Function.update_of_ne hSame]
      exact h j
  have hAdded := items_update_perm hi (Function.update_self i none slots) a
  rw [Function.update_idem, ← hBefore, Function.update_eq_self] at hAdded
  calc (items slots' limit).length
      ≤ (items (Function.update slots i none) limit).length := (items_sublist hRest).length_le
    _ < (items slots limit).length := by rw [hAdded.length_eq]; exact Nat.lt_succ_self _

theorem length_filterMap_eq_countP (indices : List Nat) :
  (indices.filterMap slots).length = indices.countP fun i => (slots i).isSome := by
  induction indices with
  | nil => rfl
  | cons index rest ih =>
    cases hSlot : slots index with
    | none => simp [hSlot, ih]
    | some a => simp [hSlot, ih]

theorem length_items :
  (items slots limit).length = (range limit).countP fun i => (slots i).isSome :=
  length_filterMap_eq_countP _

theorem length_items_le : (items slots limit).length ≤ limit := by
  rw [length_items]
  exact countP_le_length.trans_eq length_range

theorem length_items_eq_iff : (items slots limit).length = limit ↔ ∀ i < limit, slots i ≠ none := by
  have hFull := countP_eq_length (p := fun i => (slots i).isSome) (l := range limit)
  rw [length_range] at hFull
  rw [length_items, hFull]
  simp [Option.isSome_iff_ne_none]

end SlotTable

end Chip
