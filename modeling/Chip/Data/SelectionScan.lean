import Mathlib.Order.Lattice

/-! Choosing one element of a list in one pass. The elements of a marked class come before the
others, and within a class the one of least rank is chosen. The pass carries its candidate and
what it believes about the candidate's class. -/
namespace Chip

open List

namespace SelectionScan

variable {α β : Type} [LinearOrder β] (marked : α → Bool) (rank : α → β)

/-- The candidate, and whether the pass takes it for a marked element. -/
structure Held (α : Type) where
  candidate : α
  marked : Bool

def step (held : Held α) (a : α) : Held α :=
  if marked a && !held.marked then ⟨a, true⟩
  else if decide (rank a < rank held.candidate) && (marked a == held.marked) then ⟨a, held.marked⟩
  else held

/-- The element that should be chosen: a marked one if there is any, and of least rank among
those of its class. -/
structure IsChoice (l : List α) (a : α) : Prop where
  mem : a ∈ l
  preferred : (∃ b ∈ l, marked b = true) → marked a = true
  least : ∀ b ∈ l, marked b = marked a → rank a ≤ rank b

variable {marked rank} {held : Held α} {l : List α} {a : α}

theorem isChoice_singleton (a : α) : IsChoice marked rank [a] a where
  mem := mem_singleton_self a
  preferred := fun ⟨_, hMem, hMarked⟩ => mem_singleton.mp hMem ▸ hMarked
  least := fun _ hMem _ => mem_singleton.mp hMem ▸ le_rfl

theorem step_marked (h : held.marked = marked held.candidate) :
  (step marked rank held a).marked = marked (step marked rank held a).candidate := by
  grind [step]

theorem isChoice_step (h : held.marked = marked held.candidate) :
  IsChoice marked rank [held.candidate, a] (step marked rank held a).candidate := by
  constructor <;> grind [step]

theorem IsChoice.cons {b c : α} (hFirst : IsChoice marked rank [b, c] a) {d : α}
  (h : IsChoice marked rank (a :: l) d) : IsChoice marked rank (b :: c :: l) d := by
  obtain ⟨hMem, hPreferred, hLeast⟩ := h
  obtain ⟨hMem', hPreferred', hLeast'⟩ := hFirst
  constructor
  · grind
  · grind
  · intro e he hSame
    -- an element of the first two is beaten by their choice, which is not of a lesser class
    by_cases hTwo : e ∈ [b, c]
    · have hClass : marked e = marked a := by
        cases hE : marked e with
        | true => exact (hPreferred' ⟨e, hTwo, hE⟩).symm
        | false =>
          cases hA : marked a with
          | true => simp [← hSame, hE] at hPreferred; grind
          | false => rfl
      exact (hLeast a mem_cons_self (hClass.symm.trans hSame)).trans (hLeast' e hTwo hClass)
    · exact hLeast e (by grind) hSame

theorem isChoice_foldl (held : Held α) (h : held.marked = marked held.candidate) (l : List α) :
  IsChoice marked rank (held.candidate :: l) (l.foldl (step marked rank) held).candidate := by
  induction l generalizing held with
  | nil => exact isChoice_singleton held.candidate
  | cons a l ih => exact (isChoice_step h).cons (ih _ (step_marked h))

theorem foldl_candidate_mem (held : Held α) (l : List α) :
  (l.foldl (step marked rank) held).candidate ∈ held.candidate :: l := by
  induction l generalizing held with
  | nil => exact mem_singleton_self held.candidate
  | cons a l ih =>
    have hStep : (step marked rank held a).candidate ∈ [held.candidate, a] := by grind [step]
    have hRest := ih (step marked rank held a)
    rw [foldl_cons]
    rcases mem_cons.mp hRest with h | h
    · rw [h]
      exact (sublist_append_left [held.candidate, a] l).mem hStep
    · exact mem_cons_of_mem _ (mem_cons_of_mem _ h)

theorem isChoice_foldl_of_marked (held : Held α) (h : held.marked = false) (hMarked : ∃ a ∈ l, marked a = true) :
  IsChoice marked rank l (l.foldl (step marked rank) held).candidate := by
  induction l generalizing held with
  | nil => grind
  | cons a l ih =>
    cases hA : marked a with
    | true =>
      have hStep : step marked rank held a = ⟨a, true⟩ := by simp [step, hA, h]
      rw [foldl_cons, hStep]
      exact isChoice_foldl ⟨a, true⟩ hA.symm l
    | false =>
      have hStep : (step marked rank held a).marked = false := by grind [step]
      have hRest : ∃ b ∈ l, marked b = true := by grind
      have hChoice := ih _ hStep hRest
      have hChosen := hChoice.preferred hRest
      constructor
      · exact mem_cons_of_mem a hChoice.mem
      · exact fun _ => hChosen
      · intro b hMem hSame
        rcases mem_cons.mp hMem with rfl | hMem
        · simp [hA, hChosen] at hSame
        · exact hChoice.least b hMem hSame

theorem least_foldl_of_not_marked (held : Held α) (h : held.marked = false) (hMarked : ∀ a ∈ l, marked a = false) :
  IsChoice (fun _ => false) rank (held.candidate :: l)
    (l.foldl (step marked rank) held).candidate := by
  have hSame : ∀ (l : List α) (held : Held α), (∀ a ∈ l, marked a = false) →
      l.foldl (step marked rank) held = l.foldl (step (fun _ => false) rank) held := by
    intro l
    induction l with
    | nil => intro held _; rfl
    | cons a l ih =>
      intro held hAll
      have hStep : step marked rank held a = step (fun _ => false) rank held a := by
        simp [step, hAll a mem_cons_self]
      rw [foldl_cons, foldl_cons, hStep]
      exact ih _ fun b hb => hAll b (mem_cons_of_mem a hb)
  rw [hSame l held hMarked]
  exact isChoice_foldl held h l

theorem foldl_of_least (held : Held α) (h : held.marked = false)
  (hLeast : ∀ a ∈ l, marked a = false ∧ rank held.candidate ≤ rank a) :
  l.foldl (step marked rank) held = held := by
  induction l with
  | nil => rfl
  | cons a l ih =>
    obtain ⟨hA, hRank⟩ := hLeast a mem_cons_self
    have hStep : step marked rank held a = held := by
      simp [step, hA, h, not_lt.mpr hRank]
    rw [foldl_cons, hStep]
    exact ih fun b hb => hLeast b (mem_cons_of_mem a hb)

theorem isChoice_foldl_misjudged_iff (hFirst : marked a = true) (l : List α) :
  IsChoice marked rank (a :: l) (l.foldl (step marked rank) ⟨a, false⟩).candidate ↔
    (∃ b ∈ l, marked b = true ∧ rank b ≤ rank a) ∨
      ∀ b ∈ l, marked b = false ∧ rank a ≤ rank b := by
  by_cases hMarked : ∃ b ∈ l, marked b = true
  · have hChoice : IsChoice marked rank l _ := isChoice_foldl_of_marked ⟨a, false⟩ rfl hMarked
    generalize (l.foldl (step marked rank) ⟨a, false⟩).candidate = c at hChoice ⊢
    obtain ⟨hMem, hPreferred, hLeast⟩ := hChoice
    have hC : marked c = true := hPreferred hMarked
    constructor
    · intro hRight
      exact .inl ⟨c, hMem, hC, hRight.least a mem_cons_self (hFirst.trans hC.symm)⟩
    · intro hCases
      obtain ⟨b, hb, hbMarked, hLe⟩ | hNone := hCases
      · constructor
        · exact mem_cons_of_mem a hMem
        · exact fun _ => hC
        · intro d hd hSame
          rcases mem_cons.mp hd with rfl | hd
          · exact (hLeast b hb (hbMarked.trans hC.symm)).trans hLe
          · exact hLeast d hd hSame
      · obtain ⟨b, hb, hbMarked⟩ := hMarked
        simp [(hNone b hb).1] at hbMarked
  · have hMarked : ∀ b ∈ l, marked b = false := by simpa using hMarked
    constructor
    · intro hRight
      have hChoice : IsChoice (fun _ => false) rank (a :: l) _ :=
        least_foldl_of_not_marked ⟨a, false⟩ rfl hMarked
      generalize (l.foldl (step marked rank) ⟨a, false⟩).candidate = c at hChoice hRight
      obtain ⟨hMem, -, hLeast⟩ := hChoice
      have hC : marked c = true := hRight.preferred ⟨a, mem_cons_self, hFirst⟩
      have hSelf : c = a := by
        rcases mem_cons.mp hMem with h | h
        · exact h
        · simp [hMarked c h] at hC
      exact .inr fun b hb => ⟨hMarked b hb, hSelf ▸ hLeast b (mem_cons_of_mem a hb) rfl⟩
    · intro hCases
      obtain ⟨b, hb, hbMarked, -⟩ | hLeast := hCases
      · simp [hMarked b hb] at hbMarked
      · rw [foldl_of_least ⟨a, false⟩ rfl hLeast]
        constructor
        · exact mem_cons_self
        · exact fun _ => hFirst
        · intro b hb _
          rcases mem_cons.mp hb with rfl | hb
          · exact le_rfl
          · exact (hLeast b hb).2

end SelectionScan

end Chip
