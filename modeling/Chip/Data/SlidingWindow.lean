import Mathlib.Data.BitVec

/-! A bitset that remembers which of the last values below a moving front were
seen. Bit `i` stands for the value `i + 1` below the front, so that moving the front
by `shift` shifts the bits and puts the old front at `shift`. -/
namespace Chip.SlidingWindow

variable {size : Nat}

/-- The bitset holds exactly the offsets below the front that satisfy `seen`. -/
def Represents (window : BitVec size) (seen : Nat → Prop) : Prop :=
  ∀ i, i < size → (window.getLsbD i = true ↔ seen (i + 1))

/-- The bitset after the front moved up by `shift` values. The old front stays
marked as long as the window reaches it. -/
def advance (shift : Nat) (window : BitVec size) : BitVec size :=
  if shift > size then 0 else window <<< shift ||| BitVec.twoPow size (shift - 1)

variable {window : BitVec size} {seen : Nat → Prop}

theorem Represents.test (h : Represents window seen) {offset : Nat} (hPos : 0 < offset)
  (hIn : offset ≤ size) :
  window.getLsbD (offset - 1) = true ↔ seen offset := by
  have hBit := h (offset - 1) (by omega)
  rwa [Nat.sub_add_cancel hPos] at hBit

theorem Represents.empty (h : ∀ offset, 0 < offset → ¬ seen offset) :
  Represents (0 : BitVec size) seen := by
  intro i _
  constructor
  · intro hBit
    simp at hBit
  · intro hSeen
    exact absurd hSeen (h (i + 1) (Nat.succ_pos i))

theorem Represents.mark (h : Represents window seen) {offset : Nat} (hPos : 0 < offset) :
  Represents (window ||| BitVec.twoPow size (offset - 1)) fun k => k = offset ∨ seen k := by
  intro i hi
  rw [BitVec.getLsbD_or, BitVec.getLsbD_twoPow, Bool.or_eq_true, h i hi]
  simp only [Bool.and_eq_true, decide_eq_true_eq]
  constructor
  · rintro (hSeen | ⟨_, hEq⟩)
    · exact .inr hSeen
    · exact .inl (by omega)
  · rintro (hEq | hSeen)
    · exact .inr ⟨by omega, by omega⟩
    · exact .inl hSeen

theorem Represents.advance (h : Represents window seen) {shift : Nat} (hPos : 0 < shift) :
  Represents (SlidingWindow.advance shift window) fun k => k = shift ∨ shift < k ∧ seen (k - shift) := by
  intro i hi
  by_cases hFar : shift > size
  · rw [SlidingWindow.advance, if_pos hFar]
    constructor
    · intro hBit
      simp at hBit
    · rintro (hEq | ⟨hLt, _⟩) <;> omega
  rw [SlidingWindow.advance, if_neg hFar, BitVec.getLsbD_or, BitVec.getLsbD_twoPow,
    BitVec.getLsbD_shiftLeft, Bool.or_eq_true]
  simp only [Bool.and_eq_true, decide_eq_true_eq, Bool.not_eq_true', decide_eq_false_iff_not, hi,
    true_and]
  by_cases hShifted : i < shift
  · constructor
    · rintro (⟨hNot, _⟩ | ⟨_, hEq⟩)
      · exact absurd hShifted hNot
      · exact .inl (by omega)
    · rintro (hEq | ⟨hLt, _⟩)
      · exact .inr ⟨by omega, by omega⟩
      · omega
  · have hBit := h (i - shift) (by omega)
    rw [show i - shift + 1 = i + 1 - shift by omega] at hBit
    rw [hBit]
    constructor
    · rintro (⟨_, hSeen⟩ | ⟨_, hEq⟩)
      · exact .inr ⟨by omega, hSeen⟩
      · exact .inl (by omega)
    · rintro (hEq | ⟨_, hSeen⟩)
      · omega
      · exact .inl ⟨hShifted, hSeen⟩

end Chip.SlidingWindow
