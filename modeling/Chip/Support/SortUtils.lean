import Mathlib.Order.Defs.Unbundled
import Mathlib.Data.List.Perm.Basic

/-! The bubble sort of the support library. Its comparison function says whether the first
item goes before the second one. -/
namespace Chip.Sorting

open List

variable {α : Type*}

/-- The inner loop, for a number of neighbours to compare. An item that goes before its left
neighbour changes places with it. -/
def bubble (f : α → α → Bool) : Nat → List α → List α
  | count + 1, b :: a :: rest =>
    if f a b then a :: bubble f count (b :: rest) else b :: bubble f count (a :: rest)
  | _, items => items

def bubbleSort (f : α → α → Bool) (items : List α) : List α :=
  (List.range (items.length - 1)).foldl (fun list i => bubble f (items.length - i - 1) list) items

/-- The items are in the order of the comparison function: none goes before an earlier one. -/
def Ordered (f : α → α → Bool) (items : List α) : Prop := items.Pairwise fun a b => ¬f b a

variable {f : α → α → Bool}

section

variable [IsStrictWeakOrder α fun a b => f a b = true]

theorem not_before_trans {a b c : α} (hab : ¬f a b) (hbc : ¬f b c) : ¬f a c := by
  let before : α → α → Prop := fun a b => f a b = true
  intro hac
  have hba : ¬f b a := fun h => hbc (IsTrans.trans (r := before) b a c h hac)
  have hcb : ¬f c b := fun h => hab (IsTrans.trans (r := before) a c b hac h)
  exact (@IsStrictWeakOrder.incomp_trans α before _ a b c ⟨hab, hba⟩ ⟨hbc, hcb⟩).1 hac

theorem not_before_of_before {a b : α} (h : f a b) : ¬f b a := fun hBack =>
  let before : α → α → Prop := fun a b => f a b = true
  Std.Irrefl.irrefl (r := before) a (IsTrans.trans (r := before) a b a h hBack)

theorem last_not_before {front : List α} {x last : α} (hLast : ∀ z ∈ front, ¬f last z)
  (hMem : x ∈ front ++ [last]) : ¬f last x := by
  rcases mem_append.mp hMem with h | h
  · exact hLast x h
  · rw [mem_singleton.mp h]
    exact fun hSelf => not_before_of_before hSelf hSelf

theorem bubble_spec (x : α) (xs tail : List α) :
  ∃ front last, bubble f xs.length (x :: xs ++ tail) = front ++ last :: tail ∧
    (front ++ [last]).Perm (x :: xs) ∧ ∀ z ∈ front, ¬f last z := by
  induction xs generalizing x with
  | nil => exact ⟨[], x, rfl, List.Perm.refl _, by simp⟩
  | cons y ys ih =>
    by_cases hSwap : f y x
    · obtain ⟨front, last, hPass, hPerm, hLast⟩ := ih x
      have hx : ¬f last x :=
        last_not_before hLast (hPerm.mem_iff.mpr mem_cons_self)
      refine ⟨y :: front, last, ?_, ?_, ?_⟩
      · simpa [bubble, hSwap] using hPass
      · exact (hPerm.cons y).trans (List.Perm.swap x y ys)
      · intro z hz
        rcases mem_cons.mp hz with rfl | hz
        · exact not_before_trans hx (not_before_of_before hSwap)
        · exact hLast z hz
    · obtain ⟨front, last, hPass, hPerm, hLast⟩ := ih y
      have hy : ¬f last y :=
        last_not_before hLast (hPerm.mem_iff.mpr mem_cons_self)
      refine ⟨x :: front, last, ?_, hPerm.cons x, ?_⟩
      · simpa [bubble, hSwap] using hPass
      · intro z hz
        rcases mem_cons.mp hz with rfl | hz
        · exact not_before_trans hy hSwap
        · exact hLast z hz

theorem passes_spec (items : List α) (passes : Nat) (hPasses : passes ≤ items.length - 1) :
  ∃ front sorted,
    (range passes).foldl (fun list i => bubble f (items.length - i - 1) list) items =
      front ++ sorted ∧
    (front ++ sorted).Perm items ∧ sorted.length = passes ∧ Ordered f sorted ∧
    ∀ a ∈ front, ∀ b ∈ sorted, ¬f b a := by
  induction passes with
  | zero => exact ⟨items, [], by simp, by simp, rfl, List.Pairwise.nil, by simp⟩
  | succ passes ih =>
    obtain ⟨front, sorted, hRun, hPerm, hLength, hSorted, hCross⟩ := ih (by omega)
    have hFront : front.length = items.length - passes := by
      have h := hPerm.length_eq
      rw [length_append] at h
      omega
    cases front with
    | nil =>
      rw [length_nil] at hFront
      omega
    | cons x xs =>
      obtain ⟨front, last, hPass, hPassPerm, hLast⟩ := bubble_spec (f := f) x xs sorted
      have hIn : ∀ a ∈ front ++ [last], a ∈ x :: xs := fun a h => hPassPerm.mem_iff.mp h
      have hCount : xs.length = items.length - passes - 1 := by
        rw [length_cons] at hFront
        omega
      refine ⟨front, last :: sorted, ?_, ?_, ?_, ?_, ?_⟩
      · rw [range_succ, foldl_append, hRun, foldl_cons, foldl_nil, ← hCount]
        exact hPass
      · have hFrontPerm := hPassPerm.append_right sorted
        rw [append_assoc] at hFrontPerm
        exact hFrontPerm.trans hPerm
      · rw [length_cons, hLength]
      · exact List.Pairwise.cons (fun b hb => hCross last (hIn last (by simp)) b hb) hSorted
      · intro a ha b hb
        rcases mem_cons.mp hb with rfl | hb
        · exact hLast a ha
        · exact hCross a (hIn a (mem_append_left _ ha)) b hb

theorem bubbleSort_perm (items : List α) : (bubbleSort f items).Perm items := by
  obtain ⟨front, sorted, hRun, hPerm, _⟩ := passes_spec (f := f) items _ (Nat.le_refl _)
  rw [bubbleSort, hRun]
  exact hPerm

theorem bubbleSort_ordered (items : List α) : Ordered f (bubbleSort f items) := by
  obtain ⟨front, sorted, hRun, hPerm, hLength, hSorted, hCross⟩ := passes_spec (f := f) items _ (Nat.le_refl _)
  have hFront : front.length ≤ 1 := by
    have h := hPerm.length_eq
    rw [length_append] at h
    omega
  have hAlone : Ordered f front := by
    match front, hFront with
    | [], _ => exact List.Pairwise.nil
    | [_], _ => exact pairwise_singleton ..
  rw [bubbleSort, hRun]
  exact pairwise_append.mpr ⟨hAlone, hSorted, hCross⟩

end

end Chip.Sorting
