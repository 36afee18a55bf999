import Mathlib.Data.List.Basic

/-! Sequence numbers of eight bits that follow each other and start again at zero after 255. -/
namespace Chip

/-- The `n` sequence numbers from a first one on. -/
def cyclicSequence (first : UInt8) : Nat → List UInt8
  | 0 => []
  | n + 1 => first :: cyclicSequence (first + 1) n

namespace CyclicSequence

variable {first a : UInt8} {n : Nat}

@[simp] theorem length (first : UInt8) (n : Nat) : (cyclicSequence first n).length = n := by
  induction n generalizing first with
  | zero => rfl
  | succ n ih => simp [cyclicSequence, ih]

theorem concat (first : UInt8) (n : Nat) :
  cyclicSequence first n ++ [first + UInt8.ofNat n] = cyclicSequence first (n + 1) := by
  induction n generalizing first with
  | zero => simp [cyclicSequence]
  | succ n ih =>
    have hNext : first + UInt8.ofNat (n + 1) = first + 1 + UInt8.ofNat n := by
      rw [UInt8.ofNat_add, UInt8.add_comm (UInt8.ofNat n), UInt8.add_assoc]
      rfl
    rw [hNext, cyclicSequence, List.cons_append, ih]
    rfl

theorem take {m : Nat} (h : m ≤ n) : (cyclicSequence first n).take m = cyclicSequence first m := by
  induction m generalizing first n with
  | zero => rfl
  | succ m ih =>
    obtain ⟨k, rfl⟩ := Nat.exists_eq_succ_of_ne_zero (Nat.ne_of_gt (Nat.lt_of_lt_of_le m.succ_pos h))
    rw [cyclicSequence, cyclicSequence, List.take_succ_cons, ih (Nat.le_of_succ_le_succ h)]

theorem toNat_sub (a b : UInt8) : (a - b).toNat = (a.toNat + 256 - b.toNat) % 256 := by
  have hb := b.toNat_lt
  rw [UInt8.toNat_sub]
  congr 1
  omega

theorem mem_iff (hn : n ≤ 256) : a ∈ cyclicSequence first n ↔ (a - first).toNat < n := by
  induction n generalizing first with
  | zero => simp [cyclicSequence]
  | succ n ih =>
    have ha := a.toNat_lt
    have hf := first.toNat_lt
    have hSucc : (first + 1).toNat = (first.toNat + 1) % 256 := by simp [UInt8.toNat_add]
    rw [cyclicSequence, List.mem_cons, ih (by omega), toNat_sub, toNat_sub, hSucc,
      ← UInt8.toNat_inj]
    omega

theorem split (h : (a - first).toNat < n) :
  cyclicSequence first n = cyclicSequence first (a - first).toNat ++
    a :: cyclicSequence (a + 1) (n - (a - first).toNat - 1) := by
  induction n generalizing first with
  | zero => omega
  | succ n ih =>
    by_cases hFirst : a = first
    · subst hFirst
      simp [cyclicSequence]
    · have ha := a.toNat_lt
      have hf := first.toNat_lt
      have hSucc : (first + 1).toNat = (first.toNat + 1) % 256 := by simp [UInt8.toNat_add]
      have hDistance : (a - first).toNat = (a - (first + 1)).toNat + 1 := by
        have hNe : a.toNat ≠ first.toNat := fun hEq => hFirst (UInt8.toNat_inj.mp hEq)
        rw [toNat_sub, toNat_sub, hSucc]
        omega
      have hRest : n + 1 - ((a - (first + 1)).toNat + 1) - 1 =
          n - (a - (first + 1)).toNat - 1 := by
        omega
      rw [hDistance, cyclicSequence, cyclicSequence, List.cons_append, hRest,
        ih (show (a - (first + 1)).toNat < n by omega)]

theorem notMem_before (h : (a - first).toNat < 256) :
  a ∉ cyclicSequence first (a - first).toNat := by
  rw [mem_iff (by omega)]
  exact Nat.lt_irrefl _

theorem nodup (hn : n ≤ 256) : (cyclicSequence first n).Nodup := by
  induction n generalizing first with
  | zero => exact List.nodup_nil
  | succ n ih =>
    have hf := first.toNat_lt
    have hSucc : (first + 1).toNat = (first.toNat + 1) % 256 := by simp [UInt8.toNat_add]
    refine List.nodup_cons.mpr ⟨?_, ih (by omega)⟩
    rw [mem_iff (by omega), toNat_sub, hSucc]
    omega

end CyclicSequence

end Chip
