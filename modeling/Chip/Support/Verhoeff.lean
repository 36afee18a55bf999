import Chip.Data.CheckDigits
import Mathlib

/-! The check digits of `Verhoeff.cpp` and `Verhoeff10.cpp`. The digits below `2 n` stand for the
symmetries of a polygon with `n` corners, and the digit at a position is permuted as often as the
position says. -/
namespace Chip.Verhoeff

def dihedralMultiply (x y n : Nat) : Nat :=
  let n2 := n * 2
  let x := x % n2
  let y := y % n2
  if x < n then
    if y < n then (x + y) % n else (x + (y - n)) % n + n
  else if y < n then (n + (x - n) - y) % n + n
  else (n + (x - n) - (y - n)) % n

def dihedralInvert (val n : Nat) : Nat := if 0 < val ∧ val < n then n - val else val

def permute (permTable : List Nat) (permTableLen : Nat) : Nat → Nat → Nat
  | 0, val => val % permTableLen
  | iterCount + 1, val =>
    permute permTable permTableLen iterCount (permTable.getD (val % permTableLen) 0)

/-- The symmetry that a digit stands for: the rotations come first, then the reflections. -/
def symmetry (n x : Nat) : DihedralGroup n := if x < n then .r x else .sr (-x)

variable {n x y : Nat}

theorem symmetry_rotation (h : x < n) : symmetry n x = .r x := if_pos h

theorem symmetry_reflection (h : n ≤ x) : symmetry n x = .sr (-x) := if_neg (Nat.not_lt.mpr h)

theorem symmetry_dihedralMultiply (hPos : 0 < n) (hx : x < n * 2) (hy : y < n * 2) :
  symmetry n (dihedralMultiply x y n) = symmetry n x * symmetry n y := by
  rw [dihedralMultiply]
  simp only [Nat.mod_eq_of_lt hx, Nat.mod_eq_of_lt hy]
  have hMod (z : Nat) : symmetry n (z % n) = .r z := by
    rw [symmetry_rotation (Nat.mod_lt z hPos), ZMod.natCast_mod]
  have hModAdd (z : Nat) : symmetry n (z % n + n) = .sr (-z) := by
    rw [symmetry_reflection (Nat.le_add_left n _)]
    simp
  by_cases hRotX : x < n <;> by_cases hRotY : y < n
  · rw [if_pos hRotX, if_pos hRotY, hMod, symmetry_rotation hRotX, symmetry_rotation hRotY]
    simp
  · have hRefY := Nat.not_lt.mp hRotY
    rw [if_pos hRotX, if_neg hRotY, hModAdd, symmetry_rotation hRotX, symmetry_reflection hRefY]
    simp [Nat.cast_sub hRefY, sub_eq_add_neg]
  · have hRefX := Nat.not_lt.mp hRotX
    rw [if_neg hRotX, if_pos hRotY, hModAdd, symmetry_reflection hRefX, symmetry_rotation hRotY,
      Nat.add_sub_cancel' hRefX, Nat.cast_sub (hRotY.le.trans hRefX)]
    simp [sub_eq_neg_add]
  · have hRefX := Nat.not_lt.mp hRotX
    have hRefY := Nat.not_lt.mp hRotY
    rw [if_neg hRotX, if_neg hRotY, hMod, symmetry_reflection hRefX, symmetry_reflection hRefY,
      Nat.add_sub_cancel' hRefX, Nat.cast_sub (by omega)]
    simpa [Nat.cast_sub hRefY] using sub_eq_neg_add _ _

theorem symmetry_dihedralInvert (h : x < n * 2) :
  symmetry n (dihedralInvert x n) = (symmetry n x)⁻¹ := by
  rw [dihedralInvert]
  by_cases hRot : x < n
  · by_cases hZero : x = 0
    · subst hZero
      simp [symmetry_rotation hRot]
    · rw [if_pos ⟨Nat.pos_of_ne_zero hZero, hRot⟩, symmetry_rotation (by omega),
        symmetry_rotation hRot, Nat.cast_sub hRot.le]
      simp
  · rw [if_neg fun h => hRot h.2, symmetry_reflection (Nat.not_lt.mp hRot)]
    simp

theorem symmetry_injOn (n : Nat) : Set.InjOn (symmetry n) {x | x < n * 2} := by
  intro x hx y hy hSame
  by_cases hRotX : x < n <;> by_cases hRotY : y < n
  · rw [symmetry_rotation hRotX, symmetry_rotation hRotY] at hSame
    have hCast := (ZMod.natCast_eq_natCast_iff' x y n).mp (DihedralGroup.r.inj hSame)
    rwa [Nat.mod_eq_of_lt hRotX, Nat.mod_eq_of_lt hRotY] at hCast
  · rw [symmetry_rotation hRotX, symmetry_reflection (Nat.not_lt.mp hRotY)] at hSame
    cases hSame
  · rw [symmetry_reflection (Nat.not_lt.mp hRotX), symmetry_rotation hRotY] at hSame
    cases hSame
  · have hRefX := Nat.not_lt.mp hRotX
    have hRefY := Nat.not_lt.mp hRotY
    rw [symmetry_reflection hRefX, symmetry_reflection hRefY] at hSame
    have hCast := (ZMod.natCast_eq_natCast_iff' x y n).mp (neg_inj.mp (DihedralGroup.sr.inj hSame))
    rw [Nat.mod_eq_sub_mod hRefX, Nat.mod_eq_sub_mod hRefY] at hCast
    rw [Set.mem_ofPred_eq] at hx hy
    rw [Nat.mod_eq_of_lt (by omega), Nat.mod_eq_of_lt (by omega)] at hCast
    omega

end Chip.Verhoeff

namespace Chip.Verhoeff10

open Verhoeff

def base : Nat := 10

def polygonSize : Nat := 5

def sMultiplyTable : List Nat :=
  [0, 1, 2, 3, 4, 5, 6, 7, 8, 9, 1, 2, 3, 4, 0, 6, 7, 8, 9, 5, 2, 3, 4, 0, 1, 7, 8, 9, 5, 6, 3, 4, 0, 1,
   2, 8, 9, 5, 6, 7, 4, 0, 1, 2, 3, 9, 5, 6, 7, 8, 5, 9, 8, 7, 6, 0, 4, 3, 2, 1, 6, 5, 9, 8, 7, 1, 0, 4,
   3, 2, 7, 6, 5, 9, 8, 2, 1, 0, 4, 3, 8, 7, 6, 5, 9, 3, 2, 1, 0, 4, 9, 8, 7, 6, 5, 4, 3, 2, 1, 0]

def sPermTable : List Nat := [1, 5, 7, 6, 2, 8, 3, 0, 9, 4]

def charToVal (ch : UInt8) : Option Nat :=
  if 48 ≤ ch ∧ ch ≤ 57 then some (ch.toNat - 48) else none

def valToChar (val : Nat) : UInt8 := if val ≤ base then UInt8.ofNat (48 + val) else 0

/-- The loop of `ComputeCheckChar`, over the characters from the last one on. -/
def computeLoop : Nat → Nat → List UInt8 → Option Nat
  | c, _, [] => some c
  | c, i, ch :: rest =>
    match charToVal ch with
    | none => none
    | some val => computeLoop (sMultiplyTable.getD (c * base + permute sPermTable base i val) 0) (i + 1) rest

def computeCheckChar (str : List UInt8) : UInt8 :=
  match computeLoop 0 1 str.reverse with
  | none => 0
  | some c => valToChar (dihedralInvert c polygonSize)

def validateCheckChar (checkChar : UInt8) (str : List UInt8) : Bool := computeCheckChar str == checkChar

/-- `ValidateCheckChar` of a string that ends in its check character. -/
def validateString (str : List UInt8) : Bool :=
  match str.getLast? with
  | none => false
  | some checkChar => validateCheckChar checkChar str.dropLast

/-- The characters that `strlen` counts. -/
def cString (str : List UInt8) : List UInt8 := str.takeWhile (· ≠ 0)

def IsDigit (ch : UInt8) : Prop := 48 ≤ ch ∧ ch ≤ 57

instance (ch : UInt8) : Decidable (IsDigit ch) := inferInstanceAs (Decidable (_ ∧ _))

def value (ch : UInt8) : Nat := ch.toNat - 48

def weight (k : Nat) (d : Nat) : DihedralGroup polygonSize := symmetry polygonSize (permute sPermTable base k d)

theorem sMultiplyTable_eq : ∀ c < base, ∀ p < base,
  sMultiplyTable.getD (c * base + p) 0 = dihedralMultiply c p polygonSize := by
  decide

theorem dihedralMultiply_lt : ∀ c < base, ∀ p < base, dihedralMultiply c p polygonSize < base := by
  decide

theorem sPermTable_lt : ∀ d < base, sPermTable.getD d 0 < base := by decide

theorem sPermTable_inj : ∀ a < base, ∀ b < base,
  sPermTable.getD a 0 = sPermTable.getD b 0 → a = b := by
  decide

theorem sPermTable_twist : ∀ a < base, ∀ b < base,
  dihedralMultiply a (sPermTable.getD b 0) polygonSize =
    dihedralMultiply b (sPermTable.getD a 0) polygonSize → a = b := by
  decide

theorem permute_lt (k d : Nat) : permute sPermTable base k d < base := by
  induction k generalizing d with
  | zero => exact Nat.mod_lt d (by decide)
  | succ k ih => exact ih _

theorem permute_eq_iterate {d : Nat} (h : d < base) (k : Nat) :
  permute sPermTable base k d = (fun d => sPermTable.getD d 0)^[k] d := by
  induction k generalizing d with
  | zero => exact Nat.mod_eq_of_lt h
  | succ k ih =>
    rw [permute, Nat.mod_eq_of_lt h, Function.iterate_succ_apply, ih (sPermTable_lt d h)]

theorem symmetry_mul {x y : Nat} (hx : x < base) (hy : y < base) :
  symmetry polygonSize (dihedralMultiply x y polygonSize) =
    symmetry polygonSize x * symmetry polygonSize y :=
  symmetry_dihedralMultiply (by decide) hx hy

theorem symmetry_inj {x y : Nat} (hx : x < base) (hy : y < base)
  (h : symmetry polygonSize x = symmetry polygonSize y) : x = y :=
  symmetry_injOn polygonSize hx hy h

theorem weight_detects : CheckDigits.Detects weight {d | d < base} := by
  refine (CheckDigits.detects_iterate (symmetry polygonSize) (fun d => sPermTable.getD d 0)
    sPermTable_lt (fun a ha b hb => sPermTable_inj a ha b hb) (symmetry_injOn polygonSize)
    fun a ha b hb hSame => ?_).congr fun k d hd => ?_
  · rw [← symmetry_mul ha (sPermTable_lt b hb), ← symmetry_mul hb (sPermTable_lt a ha)] at hSame
    exact sPermTable_twist a ha b hb
      (symmetry_inj (dihedralMultiply_lt a ha _ (sPermTable_lt b hb))
        (dihedralMultiply_lt b hb _ (sPermTable_lt a ha)) hSame)
  · rw [weight, permute_eq_iterate hd]

section

variable {str s pre post : List UInt8} {ch a b : UInt8} {c i : Nat}

theorem value_lt (h : IsDigit ch) : value ch < base := by
  have hHigh : ch.toNat ≤ 57 := UInt8.le_iff_toNat_le.mp h.2
  rw [value, base]
  omega

theorem value_inj (ha : IsDigit a) (hb : IsDigit b) (h : value a = value b) : a = b := by
  have hLowA : 48 ≤ a.toNat := UInt8.le_iff_toNat_le.mp ha.1
  have hLowB : 48 ≤ b.toNat := UInt8.le_iff_toNat_le.mp hb.1
  rw [value, value] at h
  exact UInt8.toNat_inj.mp (by omega)

theorem charToVal_digit (h : IsDigit ch) : charToVal ch = some (value ch) := if_pos h

theorem valToChar_digit {val : Nat} (h : val < base) :
  IsDigit (valToChar val) ∧ value (valToChar val) = val := by
  have hTen : val < 10 := h
  interval_cases val <;> decide

theorem computeLoop_digits (h : ∀ ch ∈ str, IsDigit ch) (hc : c < base) :
  ∃ r < base, computeLoop c i str = some r ∧
    symmetry polygonSize r = symmetry polygonSize c * CheckDigits.product weight i (str.map value) := by
  induction str generalizing c i with
  | nil => exact ⟨c, hc, rfl, by simp⟩
  | cons ch rest ih =>
    obtain ⟨hDigit, hRest⟩ := List.forall_mem_cons.mp h
    have hPermuted := permute_lt i (value ch)
    obtain ⟨r, hr, hLoop, hSymmetry⟩ :=
      ih hRest (c := sMultiplyTable.getD (c * base + permute sPermTable base i (value ch)) 0)
        (by rw [sMultiplyTable_eq c hc _ hPermuted]; exact dihedralMultiply_lt c hc _ hPermuted)
    refine ⟨r, hr, ?_, ?_⟩
    · rw [computeLoop, charToVal_digit hDigit]
      exact hLoop
    · rw [hSymmetry, sMultiplyTable_eq c hc _ hPermuted, symmetry_mul hc hPermuted, List.map_cons,
        CheckDigits.product_cons, mul_assoc, weight]

theorem computeCheckChar_digits (h : ∀ ch ∈ str, IsDigit ch) :
  IsDigit (computeCheckChar str) ∧
    ∀ ch, IsDigit ch → (computeCheckChar str = ch ↔
      CheckDigits.Accepted weight ((str ++ [ch]).reverse.map value)) := by
  obtain ⟨r, hr, hLoop, hSymmetry⟩ :=
    @computeLoop_digits str.reverse 0 1 (by simpa using h) (by decide)
  have hInvert : dihedralInvert r polygonSize < base := by
    rw [dihedralInvert, base, polygonSize] at *
    split <;> omega
  obtain ⟨hDigit, hValue⟩ := valToChar_digit hInvert
  have hCompute : computeCheckChar str = valToChar (dihedralInvert r polygonSize) := by
    rw [computeCheckChar, hLoop]
  refine ⟨hCompute ▸ hDigit, fun ch hCh => ?_⟩
  have hOne : symmetry polygonSize 0 = 1 := rfl
  have hProduct : CheckDigits.product weight 0 ((str ++ [ch]).reverse.map value) =
      symmetry polygonSize (value ch) * symmetry polygonSize r := by
    rw [hSymmetry, hOne, one_mul]
    simp [weight, permute, Nat.mod_eq_of_lt (value_lt hCh)]
  rw [CheckDigits.Accepted, hProduct, mul_eq_one_iff_eq_inv,
    ← symmetry_dihedralInvert (n := polygonSize) hr, hCompute]
  constructor
  · rintro rfl
    rw [hValue]
  · intro hSame
    exact value_inj hDigit hCh (hValue.trans (symmetry_inj (value_lt hCh) hInvert hSame).symm)

theorem validateString_append (str : List UInt8) (ch : UInt8) :
  validateString (str ++ [ch]) = validateCheckChar ch str := by
  rw [validateString, List.getLast?_concat, List.dropLast_concat]

theorem validateString_digits (h : ∀ ch ∈ str, IsDigit ch) (hNonempty : str ≠ []) :
  validateString str = true ↔ CheckDigits.Accepted weight (str.reverse.map value) := by
  obtain ⟨body, ch, rfl⟩ := List.eq_nil_or_concat str |>.resolve_left hNonempty
  rw [List.concat_eq_append] at h ⊢
  rw [validateString_append, validateCheckChar, beq_iff_eq]
  exact (computeCheckChar_digits fun c hMem => h c (List.mem_append_left _ hMem)).2 ch
    (h ch (List.mem_append_right _ List.mem_cons_self))

theorem cString_digits (h : ∀ ch ∈ str, IsDigit ch) : cString str = str := by
  refine List.takeWhile_eq_self_iff.mpr fun ch hMem => ?_
  have hDigit := (h ch hMem).1
  exact decide_eq_true (by rintro rfl; revert hDigit; decide)

/-- What the overloads for a length and for a C string say of a string that ends in its check
character. -/
def Says (answer : Bool) (str : List UInt8) : Prop :=
  validateString str = answer ∧ validateString (cString str) = answer

theorem says_digits {answer : Bool} (h : ∀ ch ∈ str, IsDigit ch)
  (hAnswer : validateString str = answer) : Says answer str :=
  ⟨hAnswer, by rwa [cString_digits h]⟩

/-- The check character of a string of digits is a digit, the string with it is accepted, and none
is accepted in which one digit is another one or two neighbours that differ are exchanged. -/
theorem typing_errors_are_detected (hDigits : ∀ ch ∈ s, IsDigit ch) :
    computeCheckChar (cString s) = computeCheckChar s ∧ IsDigit (computeCheckChar s) ∧
    Says true (s ++ [computeCheckChar s]) ∧
    (∀ pre a b post, s ++ [computeCheckChar s] = pre ++ a :: post → IsDigit b → b ≠ a →
      Says false (pre ++ b :: post)) ∧
    ∀ pre a b post, s ++ [computeCheckChar s] = pre ++ a :: b :: post → a ≠ b →
      Says false (pre ++ b :: a :: post) := by
  obtain ⟨hCheck, hAccepted⟩ := computeCheckChar_digits hDigits
  have hCode : ∀ ch ∈ s ++ [computeCheckChar s], IsDigit ch := by
    rintro ch hMem
    rcases List.mem_append.mp hMem with hBody | hLast
    · exact hDigits ch hBody
    · exact List.mem_singleton.mp hLast ▸ hCheck
  have hValid := (hAccepted _ hCheck).mp rfl
  refine ⟨by rw [cString_digits hDigits], hCheck, says_digits hCode ?_, ?_, ?_⟩
  · exact (validateString_digits hCode (by simp)).mpr hValid
  · intro pre a b post hSplit hDigit hNe
    rw [hSplit] at hCode hValid
    have hDigitA := hCode a (by simp)
    have hOther : ∀ ch ∈ pre ++ b :: post, IsDigit ch := by
      intro ch hMem
      rcases List.mem_append.mp hMem with hPre | hRest
      · exact hCode ch (List.mem_append_left _ hPre)
      · rcases List.mem_cons.mp hRest with rfl | hPost
        · exact hDigit
        · exact hCode ch (by simp [hPost])
    refine says_digits hOther (Bool.eq_false_iff.mpr fun hTrue => ?_)
    have hBad := (validateString_digits hOther (by simp)).mp hTrue
    simp only [List.reverse_append, List.reverse_cons, List.map_append, List.map_cons,
      List.append_assoc, List.singleton_append] at hValid hBad
    exact weight_detects.substitution (value_lt hDigitA) (value_lt hDigit)
      (fun h => hNe (value_inj hDigitA hDigit h).symm) hValid hBad
  · intro pre a b post hSplit hNe
    rw [hSplit] at hCode hValid
    have hDigitA := hCode a (by simp)
    have hDigitB := hCode b (by simp)
    have hOther : ∀ ch ∈ pre ++ b :: a :: post, IsDigit ch := fun ch hMem =>
      hCode ch (((List.Perm.swap a b post).append_left pre).mem_iff.mp hMem)
    refine says_digits hOther (Bool.eq_false_iff.mpr fun hTrue => ?_)
    have hBad := (validateString_digits hOther (by simp)).mp hTrue
    simp only [List.reverse_append, List.reverse_cons, List.map_append, List.map_cons, List.map_nil,
      List.append_assoc, List.singleton_append] at hValid hBad
    exact weight_detects.transposition (value_lt hDigitB) (value_lt hDigitA)
      (fun h => hNe (value_inj hDigitA hDigitB h.symm)) hValid hBad

/-- The digits 2, 3, 6. -/
theorem typing_errors_in_236_are_detected :
    Says true [50, 51, 54, 51] ∧ Says false [50, 51, 55, 51] ∧ Says false [50, 54, 51, 51] ∧
      Says false [50, 51, 51, 54] := by
  have h := typing_errors_are_detected (s := [50, 51, 54]) (by decide +kernel)
  have hChar : computeCheckChar [50, 51, 54] = 51 := by decide +kernel
  rw [hChar] at h
  exact ⟨h.2.2.1, h.2.2.2.1 [50, 51] 54 55 [51] rfl (by decide +kernel) (by decide +kernel),
    h.2.2.2.2 [50] 51 54 [51] rfl (by decide +kernel), h.2.2.2.2 [50, 51] 54 51 [] rfl (by decide +kernel)⟩

end

end Chip.Verhoeff10
