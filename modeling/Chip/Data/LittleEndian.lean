import Mathlib.Data.BitVec

/-! Fixed-width little-endian byte strings. Writing truncates to the width, as
a narrowing cast does; reading is exact. -/
namespace Chip.LittleEndian

/-- The low `width` bytes of `n`, least significant first. -/
def encode : Nat → Nat → List UInt8
  | 0, _ => []
  | width + 1, n => UInt8.ofNat n :: encode width (n / 256)

def value : List UInt8 → Nat
  | [] => 0
  | byte :: rest => byte.toNat + 256 * value rest

@[simp] theorem encode_length (width n : Nat) : (encode width n).length = width := by
  induction width generalizing n with
  | zero => rfl
  | succ width ih => simp [encode, ih]

theorem value_lt (bytes : List UInt8) : value bytes < 256 ^ bytes.length := by
  induction bytes with
  | nil => simp [value]
  | cons byte rest ih =>
    have hByte := byte.toNat_lt
    simp only [value, List.length_cons, Nat.pow_succ]
    omega

theorem value_encode (width n : Nat) : value (encode width n) = n % 256 ^ width := by
  induction width generalizing n with
  | zero => simp [encode, value, Nat.mod_one]
  | succ width ih =>
    have hPow : 256 ^ (width + 1) = 256 * 256 ^ width := by rw [Nat.pow_succ, Nat.mul_comm]
    simp only [encode, value, ih, UInt8.toNat_ofNat', hPow, Nat.mod_mul]

theorem value_encode_of_lt {width n : Nat} (h : n < 256 ^ width) :
  value (encode width n) = n := by
  rw [value_encode, Nat.mod_eq_of_lt h]

theorem encode_value (bytes : List UInt8) : encode bytes.length (value bytes) = bytes := by
  induction bytes with
  | nil => rfl
  | cons byte rest ih =>
    have hByte := byte.toNat_lt
    have hDiv : (byte.toNat + 256 * value rest) / 256 = value rest := by omega
    have hHead : UInt8.ofNat (byte.toNat + 256 * value rest) = byte := by
      apply UInt8.toNat_inj.mp
      simp only [UInt8.toNat_ofNat']
      omega
    simp only [List.length_cons, encode, value, hDiv, hHead, ih]

end Chip.LittleEndian
