import Mathlib.Logic.Function.Basic
import Mathlib.Data.List.Nodup

/-! Singly linked lists over numbered slots. The links are a function from a slot to the
one after it. -/
namespace Chip

variable {ι : Type}

/-- Following the links from `first` visits exactly these slots and then is at `last`. -/
def LinkedSlots (next : ι → ι) : ι → List ι → ι → Prop
  | first, [], last => first = last
  | first, slot :: slots, last => first = slot ∧ LinkedSlots next (next slot) slots last

namespace LinkedSlots

variable {next : ι → ι} {first last : ι} {slot : ι} {slots more : List ι}

theorem append_iff : LinkedSlots next first (slots ++ more) last ↔
  ∃ middle, LinkedSlots next first slots middle ∧ LinkedSlots next middle more last := by
  induction slots generalizing first with
  | nil => simp [LinkedSlots]
  | cons slot slots ih => simp [LinkedSlots, ih, and_assoc]

theorem concat_iff : LinkedSlots next first (slots ++ [slot]) last ↔
  LinkedSlots next first slots slot ∧ next slot = last := by
  simp [append_iff, LinkedSlots]

section

variable (h : LinkedSlots next first slots last)
include h

theorem congr {next' : ι → ι} (hSame : ∀ s ∈ slots, next' s = next s) :
  LinkedSlots next' first slots last := by
  induction slots generalizing first with
  | nil => exact h
  | cons s slots ih =>
    obtain ⟨hFirst, hRest⟩ := h
    refine ⟨hFirst, ?_⟩
    rw [hSame s List.mem_cons_self]
    exact ih hRest fun t ht => hSame t (List.mem_cons_of_mem s ht)

theorem split_at (hSlot : slot ∈ slots) :
  ∃ before after, slots = before ++ slot :: after ∧ LinkedSlots next (next slot) after last := by
  obtain ⟨before, after, rfl⟩ := List.append_of_mem hSlot
  rw [append_iff] at h
  obtain ⟨middle, -, -, hAfter⟩ := h
  exact ⟨before, after, rfl, hAfter⟩

theorem first_eq : first = slots.headD last := by
  cases slots with
  | nil => exact h
  | cons slot slots => exact h.1

theorem next_eq {p : Nat} (hSlot : slots[p]? = some slot) :
  next slot = slots[p + 1]?.getD last := by
  induction slots generalizing first p with
  | nil => simp at hSlot
  | cons s slots ih =>
    cases p with
    | zero =>
      obtain rfl : s = slot := by simpa using hSlot
      rw [h.2.first_eq, List.getElem?_cons_succ, List.headD_eq_head?_getD, List.head?_eq_getElem?]
    | succ p =>
      rw [List.getElem?_cons_succ] at hSlot ⊢
      exact ih h.2 hSlot

end

variable [DecidableEq ι] {value : ι}

theorem update_of_notMem (h : LinkedSlots next first slots last) (hSlot : slot ∉ slots) :
  LinkedSlots (Function.update next slot value) first slots last := by
  refine h.congr fun s hs => Function.update_of_ne ?_ ..
  rintro rfl
  exact hSlot hs

theorem redirect (h : LinkedSlots next first (slots ++ [slot]) last) (hSlot : slot ∉ slots) :
  LinkedSlots (Function.update next slot value) first (slots ++ [slot]) value := by
  rw [concat_iff] at h ⊢
  exact ⟨h.1.update_of_notMem hSlot, Function.update_self ..⟩

end LinkedSlots
end Chip
