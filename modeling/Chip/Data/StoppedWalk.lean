import Mathlib.Algebra.GroupWithZero.Nat
import Mathlib.Data.List.ReduceOption

/-! Walks over the items of a list that end at the first item that is missing. -/
namespace Chip

open List

variable {α : Type}

def reached : List (Option α) → List α
  | some item :: rest => item :: reached rest
  | none :: _ => []
  | [] => []

def NothingSkipped (cells : List (Option α)) : Prop :=
  ∀ before after, cells = before ++ none :: after → ∀ item, some item ∉ after

namespace NothingSkipped

variable {cells more : List (Option α)} {item : α}

theorem nil : NothingSkipped ([] : List (Option α)) := by
  intro before after h
  cases before <;> cases h

theorem cons_some_iff : NothingSkipped (some item :: cells) ↔ NothingSkipped cells := by
  constructor
  · intro h before after hCells
    exact h (some item :: before) after (by rw [hCells, cons_append])
  · intro h before after hCells
    cases before with
    | nil => cases hCells
    | cons head before =>
      obtain ⟨-, hCells⟩ := cons.inj hCells
      exact h before after hCells

theorem cons_none_iff : NothingSkipped (none :: cells) ↔ ∀ item : α, some item ∉ cells := by
  constructor
  · exact fun h => h [] cells rfl
  · intro h before after hCells item hItem
    cases before with
    | nil =>
      cases hCells
      exact h item hItem
    | cons head before =>
      obtain ⟨-, rfl⟩ := cons.inj hCells
      exact h item (by simp [hItem])

end NothingSkipped

theorem reached_length_le (cells : List (Option α)) :
  (reached cells).length ≤ cells.reduceOption.length := by
  induction cells with
  | nil => simp [reached]
  | cons cell cells ih =>
    cases cell with
    | none => simp [reached]
    | some item => simpa [reached] using ih

variable {cells : List (Option α)}

theorem reduceOption_eq_nil_iff :
  cells.reduceOption = [] ↔ ∀ item, some item ∉ cells := by
  simp [eq_nil_iff_forall_not_mem, reduceOption_mem_iff]

theorem reached_eq_reduceOption (h : NothingSkipped cells) :
  reached cells = cells.reduceOption := by
  induction cells with
  | nil => rfl
  | cons cell cells ih =>
    cases cell with
    | none =>
      rw [NothingSkipped.cons_none_iff] at h
      rw [reduceOption_cons_of_none, reduceOption_eq_nil_iff.mpr h, reached]
    | some item =>
      rw [NothingSkipped.cons_some_iff] at h
      rw [reduceOption_cons_of_some, reached, ih h]

theorem reached_length_eq_iff :
  (reached cells).length = cells.reduceOption.length ↔ NothingSkipped cells := by
  refine ⟨fun h => ?_, fun h => by rw [reached_eq_reduceOption h]⟩
  induction cells with
  | nil => exact .nil
  | cons cell cells ih =>
    cases cell with
    | none =>
      rw [reduceOption_cons_of_none, reached, length_nil] at h
      rw [NothingSkipped.cons_none_iff, ← reduceOption_eq_nil_iff]
      exact eq_nil_of_length_eq_zero h.symm
    | some item =>
      rw [reduceOption_cons_of_some, reached, length_cons, length_cons] at h
      rw [NothingSkipped.cons_some_iff]
      exact ih (Nat.succ.inj h)

theorem reached_map_some_append (items : List α) (cells : List (Option α)) :
  reached (items.map some ++ cells) = items ++ reached cells := by
  induction items with
  | nil => rfl
  | cons item items ih => rw [map_cons, cons_append, reached, ih, cons_append]

theorem sum_reached_length {groups : List (List (Option α))} (h : NothingSkipped groups.flatten) :
  (groups.map fun cells => (reached cells).length).sum = (reached groups.flatten).length := by
  induction groups with
  | nil => rfl
  | cons cells groups ih =>
    rw [map_cons, sum_cons, flatten_cons]
    rw [flatten_cons] at h
    induction cells with
    | nil =>
      rw [reached, length_nil, Nat.zero_add]
      exact ih h
    | cons cell cells ihCells =>
      cases cell with
      | some item =>
        rw [cons_append, NothingSkipped.cons_some_iff] at h
        rw [cons_append, reached, reached, length_cons, length_cons, ← ihCells h]
        omega
      | none =>
        rw [cons_append, NothingSkipped.cons_none_iff] at h
        have hRest : ∀ item : α, some item ∉ groups.flatten := fun item hItem =>
          h item (mem_append_right _ hItem)
        have hNothing : NothingSkipped groups.flatten := by
          intro before after hCells item hItem
          exact hRest item (by rw [hCells]; simp [hItem])
        have hZero : (reached groups.flatten).length = 0 := by
          have hLe := reached_length_le groups.flatten
          rw [reduceOption_eq_nil_iff.mpr hRest, length_nil] at hLe
          omega
        rw [cons_append, reached, reached, ih hNothing, hZero, length_nil]

end Chip
