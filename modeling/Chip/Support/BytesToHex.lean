import Mathlib

/-! Reading hexadecimal text (`BytesToHex.cpp`). -/
namespace Chip.BytesToHex

open List

abbrev Bytes := List UInt8

/-- One turn of the loop of `MakeU8FromAsciiHex`: the digit is shifted in at the low end. -/
def addAsciiHexDigit (uppercase : Bool) (ret c : UInt8) : Option UInt8 :=
  if 48 ≤ c ∧ c ≤ 57 then some ((ret <<< 4) + c - 48)
  else if 65 ≤ c ∧ c ≤ 70 then some ((ret <<< 4) + c - 65 + 0xA)
  -- Without the flag lowercase digits are also allowed.
  else if uppercase = false ∧ 97 ≤ c ∧ c ≤ 102 then some ((ret <<< 4) + c - 97 + 0xA)
  else none

def makeU8FromAsciiHex (uppercase : Bool) (high low : UInt8) : Option UInt8 := do
  let ret ← addAsciiHexDigit uppercase 0 high
  addAsciiHexDigit uppercase ret low

/-- The loop of `HexToBytes`, over an even number of characters. -/
def hexToBytesLoop (uppercase : Bool) : Bytes → Option Bytes
  | high :: low :: rest => do
      let byte ← makeU8FromAsciiHex uppercase high low
      let bytes ← hexToBytesLoop uppercase rest
      pure (byte :: bytes)
  | _ => some []

/-- A string that is refused leaves zero bytes filled, which `[]` stands for. -/
def hexToBytes (uppercase : Bool) (src : Bytes) (destSizeMax : Nat) : Bytes :=
  if src.length % 2 ≠ 0 ∨ src.length > destSizeMax * 2 then []
  else (hexToBytesLoop uppercase src).getD []

/-- `UppercaseHexToUint16`: the number of bytes decoded, and `dest` after the call. -/
def uppercaseHexToUint16 (src : Bytes) (dest : UInt16) : Nat × UInt16 :=
  match hexToBytes true src 2 with
  | [high, low] => (2, UInt16.ofNat (high.toNat * 256 + low.toNat))
  | _ => (0, dest)

def IsUppercaseHexDigit (c : UInt8) : Prop := (48 ≤ c ∧ c ≤ 57) ∨ (65 ≤ c ∧ c ≤ 70)

instance (c : UInt8) : Decidable (IsUppercaseHexDigit c) := inferInstanceAs (Decidable (_ ∨ _))

def hexDigitValue (c : UInt8) : Nat := if c ≤ 57 then c.toNat - 48 else c.toNat - 55

/-- The number that a string of digits denotes, the first digit being the most significant one. -/
def hexValue (digits : Bytes) : Nat := digits.foldl (fun n c => 16 * n + hexDigitValue c) 0

variable {c high low ret byte : UInt8}

theorem hexDigitValue_lt (h : IsUppercaseHexDigit c) : hexDigitValue c < 16 := by
  rw [hexDigitValue]
  rcases h with ⟨hLow, hHigh⟩ | ⟨hLow, hHigh⟩
  · rw [if_pos hHigh]
    have hHigh : c.toNat ≤ 57 := UInt8.le_iff_toNat_le.mp hHigh
    omega
  · have hLow : 65 ≤ c.toNat := UInt8.le_iff_toNat_le.mp hLow
    have hHigh : c.toNat ≤ 70 := UInt8.le_iff_toNat_le.mp hHigh
    rw [if_neg (by rw [UInt8.le_iff_toNat_le]; change ¬c.toNat ≤ 57; omega)]
    omega

theorem addAsciiHexDigit_eq (hRet : ret.toNat < 16) : addAsciiHexDigit true ret c =
  if IsUppercaseHexDigit c then some (UInt8.ofNat (16 * ret.toNat + hexDigitValue c)) else none := by
  have hShift : (ret <<< 4).toNat = 16 * ret.toNat := by
    rw [UInt8.toNat_shiftLeft]
    change ret.toNat <<< 4 % 256 = _
    rw [Nat.shiftLeft_eq]
    omega
  have hByte := c.toNat_lt
  rw [addAsciiHexDigit]
  by_cases hDecimal : 48 ≤ c ∧ c ≤ 57
  · rw [if_pos hDecimal, if_pos (show IsUppercaseHexDigit c from Or.inl hDecimal), hexDigitValue, if_pos hDecimal.2]
    have hLow : 48 ≤ c.toNat := UInt8.le_iff_toNat_le.mp hDecimal.1
    refine congrArg some (UInt8.toNat_inj.mp ?_)
    rw [UInt8.toNat_sub, UInt8.toNat_add, hShift, UInt8.toNat_ofNat']
    change (256 - 48 + (16 * ret.toNat + c.toNat) % 256) % 256 = (16 * ret.toNat + (c.toNat - 48)) % 256
    omega
  by_cases hLetter : 65 ≤ c ∧ c ≤ 70
  · have hLow : 65 ≤ c.toNat := UInt8.le_iff_toNat_le.mp hLetter.1
    have hNotDecimal : ¬c ≤ 57 := by
      rw [UInt8.le_iff_toNat_le]
      change ¬c.toNat ≤ 57
      omega
    rw [if_neg hDecimal, if_pos hLetter, if_pos (show IsUppercaseHexDigit c from Or.inr hLetter), hexDigitValue,
      if_neg hNotDecimal]
    refine congrArg some (UInt8.toNat_inj.mp ?_)
    rw [UInt8.toNat_add, UInt8.toNat_sub, UInt8.toNat_add, hShift, UInt8.toNat_ofNat']
    change ((256 - 65 + (16 * ret.toNat + c.toNat) % 256) % 256 + 10) % 256 =
      (16 * ret.toNat + (c.toNat - 55)) % 256
    omega
  · rw [if_neg hDecimal, if_neg hLetter, if_neg (by simp),
      if_neg (show ¬IsUppercaseHexDigit c from not_or.mpr ⟨hDecimal, hLetter⟩)]

theorem makeU8FromAsciiHex_eq : makeU8FromAsciiHex true high low =
  if IsUppercaseHexDigit high ∧ IsUppercaseHexDigit low then
    some (UInt8.ofNat (16 * hexDigitValue high + hexDigitValue low)) else none := by
  have hZero : (0 : UInt8).toNat < 16 := by decide
  rw [makeU8FromAsciiHex, addAsciiHexDigit_eq hZero]
  by_cases hHigh : IsUppercaseHexDigit high
  · have hLess := hexDigitValue_lt hHigh
    have hFirst : (UInt8.ofNat (16 * (0 : UInt8).toNat + hexDigitValue high)).toNat = hexDigitValue high := by
      rw [UInt8.toNat_ofNat']
      change (16 * 0 + hexDigitValue high) % 256 = hexDigitValue high
      omega
    rw [if_pos hHigh, Option.bind_eq_bind, Option.bind_some, addAsciiHexDigit_eq (hFirst.trans_lt hLess), hFirst]
    by_cases hLow : IsUppercaseHexDigit low
    · rw [if_pos hLow, if_pos ⟨hHigh, hLow⟩]
    · rw [if_neg hLow, if_neg fun hBoth => hLow hBoth.2]
  · rw [if_neg hHigh, if_neg fun hBoth => hHigh hBoth.1]
    rfl

theorem uppercaseHexToUint16_eq {src : Bytes} (hLength : src.length = 4) (dest : UInt16) :
  uppercaseHexToUint16 src dest = if ∀ ch ∈ src, IsUppercaseHexDigit ch then (2, UInt16.ofNat (hexValue src))
    else (0, dest) := by
  match src, hLength with
  | [a, b, c, d], _ =>
    have hAll : (∀ ch ∈ [a, b, c, d], IsUppercaseHexDigit ch) ↔
        (IsUppercaseHexDigit a ∧ IsUppercaseHexDigit b) ∧ IsUppercaseHexDigit c ∧ IsUppercaseHexDigit d := by
      simp [and_assoc]
    have hEven : ¬([a, b, c, d].length % 2 ≠ 0 ∨ [a, b, c, d].length > 2 * 2) := by simp
    rw [uppercaseHexToUint16, hexToBytes, if_neg hEven, hexToBytesLoop, makeU8FromAsciiHex_eq, hexToBytesLoop,
      makeU8FromAsciiHex_eq, hexToBytesLoop]
    · by_cases hFirst : IsUppercaseHexDigit a ∧ IsUppercaseHexDigit b
      · by_cases hSecond : IsUppercaseHexDigit c ∧ IsUppercaseHexDigit d
        · have hA := hexDigitValue_lt hFirst.1
          have hB := hexDigitValue_lt hFirst.2
          have hC := hexDigitValue_lt hSecond.1
          have hD := hexDigitValue_lt hSecond.2
          rw [if_pos hFirst, if_pos hSecond, if_pos (hAll.mpr ⟨hFirst, hSecond⟩)]
          refine congrArg (fun n => (2, UInt16.ofNat n)) ?_
          simp only [hexValue, foldl_cons, foldl_nil, UInt8.toNat_ofNat']
          omega
        · rw [if_pos hFirst, if_neg hSecond, if_neg fun h => hSecond (hAll.mp h).2]
          rfl
      · rw [if_neg hFirst, if_neg fun h => hFirst (hAll.mp h).1]
        rfl
    · simp

theorem hexValue_lt {digits : Bytes} (h : ∀ c ∈ digits, IsUppercaseHexDigit c) :
  hexValue digits < 16 ^ digits.length := by
  induction digits using reverseRecOn with
  | nil => exact Nat.one_pos
  | append_singleton digits c ih =>
    have hFront := ih fun ch hMem => h ch (mem_append_left _ hMem)
    have hLast := hexDigitValue_lt (h c (by simp))
    rw [hexValue] at hFront
    rw [hexValue, foldl_append, foldl_cons, foldl_nil, length_append, length_singleton,
      Nat.pow_succ]
    omega

theorem hexValue_replicate (count : Nat) (digits : Bytes) :
  hexValue (replicate count 48 ++ digits) = hexValue digits := by
  induction count with
  | zero => rfl
  | succ count ih =>
    rw [replicate_succ, cons_append, hexValue, foldl_cons]
    exact ih

end Chip.BytesToHex
