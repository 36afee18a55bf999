import Chip.Support.Base64

/-! The encoding of RFC 4648 for a whole string, which both encoders give and which the decoder
reads back. -/
namespace Chip.Base64

open List

/-- The characters of a group of 24 bits. A group that is filled up with zero bits has pad
characters for the digits that hold none of its bytes. -/
def rfcEncode (chars : Bytes) : Bytes → Bytes
  | a :: b :: c :: rest =>
    let group := a.toNat * 2 ^ 16 + b.toNat * 2 ^ 8 + c.toNat
    [chars.getD (group / 2 ^ 18) padChar, chars.getD (group / 2 ^ 12 % 64) padChar,
      chars.getD (group / 2 ^ 6 % 64) padChar, chars.getD (group % 64) padChar] ++ rfcEncode chars rest
  | [a, b] =>
    let group := a.toNat * 2 ^ 16 + b.toNat * 2 ^ 8
    [chars.getD (group / 2 ^ 18) padChar, chars.getD (group / 2 ^ 12 % 64) padChar,
      chars.getD (group / 2 ^ 6 % 64) padChar, padChar]
  | [a] =>
    let group := a.toNat * 2 ^ 16
    [chars.getD (group / 2 ^ 18) padChar, chars.getD (group / 2 ^ 12 % 64) padChar, padChar, padChar]
  | [] => []

section Bits

variable {x y : UInt8} {k m : Nat}

theorem toNat_or (hHigh : x.toNat = 2 ^ k * m) (hLow : y.toNat < 2 ^ k) :
  (x ||| y).toNat = x.toNat + y.toNat := by
  rw [UInt8.toNat_or, hHigh]
  exact (Nat.two_pow_add_eq_or_of_lt hLow m).symm

theorem toNat_low (x : UInt8) : (x &&& 0x3F).toNat = x.toNat % 64 := by
  rw [UInt8.toNat_and]
  exact Nat.and_two_pow_sub_one_eq_mod x.toNat 6

theorem toNat_shl2 (x : UInt8) : (x <<< 2).toNat = x.toNat * 4 % 256 := by
  simp [UInt8.toNat_shiftLeft, Nat.shiftLeft_eq]

theorem toNat_shl4 (x : UInt8) : (x <<< 4).toNat = x.toNat * 16 % 256 := by
  simp [UInt8.toNat_shiftLeft, Nat.shiftLeft_eq]

theorem toNat_shl6 (x : UInt8) : (x <<< 6).toNat = x.toNat * 64 % 256 := by
  simp [UInt8.toNat_shiftLeft, Nat.shiftLeft_eq]

theorem toNat_shr2 (x : UInt8) : (x >>> 2).toNat = x.toNat / 4 := by
  simp [UInt8.toNat_shiftRight, Nat.shiftRight_eq_div_pow]

theorem toNat_shr4 (x : UInt8) : (x >>> 4).toNat = x.toNat / 16 := by
  simp [UInt8.toNat_shiftRight, Nat.shiftRight_eq_div_pow]

theorem toNat_shr6 (x : UInt8) : (x >>> 6).toNat = x.toNat / 64 := by
  simp [UInt8.toNat_shiftRight, Nat.shiftRight_eq_div_pow]

end Bits

section Digits

variable (a b c : UInt8)

theorem toNat_val2_alone : ((a <<< 4) &&& 0x3F).toNat = a.toNat % 4 * 16 := by
  rw [toNat_low, toNat_shl4]
  omega

theorem toNat_val2 : (((a <<< 4) &&& (0x3F : UInt8)) ||| (b >>> 4)).toNat = a.toNat % 4 * 16 + b.toNat / 16 := by
  have hb := b.toNat_lt
  have hHigh : ((a <<< 4) &&& 0x3F).toNat = 2 ^ 4 * (a.toNat % 4) := by
    rw [toNat_val2_alone]
    omega
  rw [toNat_or hHigh (by rw [toNat_shr4]; omega), toNat_val2_alone, toNat_shr4]

theorem toNat_val3_alone : ((b <<< 2) &&& 0x3F).toNat = b.toNat % 16 * 4 := by
  rw [toNat_low, toNat_shl2]
  omega

theorem toNat_val3 : (((b <<< 2) &&& (0x3F : UInt8)) ||| (c >>> 6)).toNat = b.toNat % 16 * 4 + c.toNat / 64 := by
  have hc := c.toNat_lt
  have hHigh : ((b <<< 2) &&& 0x3F).toNat = 2 ^ 2 * (b.toNat % 16) := by
    rw [toNat_val3_alone]
    omega
  rw [toNat_or hHigh (by rw [toNat_shr6]; omega), toNat_val3_alone, toNat_shr6]

end Digits

section Bytes

variable {val1 val2 val3 val4 : UInt8}

theorem out1_eq (byte : UInt8) (h1 : val1.toNat = byte.toNat / 4) (h2 : val2.toNat / 16 = byte.toNat % 4) :
  (val1 <<< 2) ||| (val2 >>> 4) = byte := by
  have hByte := byte.toNat_lt
  have hHigh : (val1 <<< 2).toNat = 2 ^ 2 * val1.toNat := by
    rw [toNat_shl2]
    omega
  apply UInt8.toNat_inj.mp
  rw [toNat_or hHigh (by rw [toNat_shr4]; omega), hHigh, toNat_shr4]
  omega

theorem out2_eq (byte : UInt8) (h2 : val2.toNat % 16 = byte.toNat / 16) (h3 : val3.toNat / 4 = byte.toNat % 16) :
  (val2 <<< 4) ||| (val3 >>> 2) = byte := by
  have hHigh : (val2 <<< 4).toNat = 2 ^ 4 * (val2.toNat % 16) := by
    rw [toNat_shl4]
    omega
  apply UInt8.toNat_inj.mp
  rw [toNat_or hHigh (by rw [toNat_shr2]; omega), hHigh, toNat_shr2]
  omega

theorem out3_eq (byte : UInt8) (h3 : val3.toNat % 4 = byte.toNat / 64) (h4 : val4.toNat = byte.toNat % 64) :
  (val3 <<< 6) ||| val4 = byte := by
  have hHigh : (val3 <<< 6).toNat = 2 ^ 6 * (val3.toNat % 4) := by
    rw [toNat_shl6]
    omega
  apply UInt8.toNat_inj.mp
  rw [toNat_or hHigh (by omega), hHigh]
  omega

end Bytes

variable (alphabet : Alphabet)
variable {val : UInt8}

theorem Alphabet.valToChar_eq (h : val.toNat < 64) :
  alphabet.valToChar val = alphabet.chars.getD val.toNat padChar := by
  have hListed := alphabet.listed ⟨val.toNat, h⟩
  rwa [UInt8.ofNat_toNat] at hListed

theorem Alphabet.charToVal_valToChar (h : val.toNat < 64) :
  alphabet.charToVal (alphabet.valToChar val) = val := by
  have hBack := alphabet.back ⟨val.toNat, h⟩
  rwa [UInt8.ofNat_toNat] at hBack

theorem Alphabet.isgraph_of_valid {c : UInt8} (h : alphabet.charToVal c ≠ 255) :
  isgraph c = true := by
  have hGraphic := alphabet.graphic ⟨c.toNat, c.toNat_lt⟩
  rw [UInt8.ofNat_toNat] at hGraphic
  exact hGraphic h

theorem Alphabet.ne_padChar {c : UInt8} (h : alphabet.charToVal c ≠ 255) : c ≠ padChar := by
  rintro rfl
  exact h alphabet.unpadded

theorem digit_eq {n : Nat} (h : val.toNat = n) (hn : n < 64) :
  alphabet.valToChar val = alphabet.chars.getD n padChar := by
  rw [alphabet.valToChar_eq (h ▸ hn), h]

theorem encodeLoop_eq (input : Bytes) :
  encodeLoop alphabet.valToChar input = rfcEncode alphabet.chars input := by
  fun_induction rfcEncode alphabet.chars input with
  | case1 a b c rest group ih =>
    have ha := a.toNat_lt
    have hb := b.toNat_lt
    have hc := c.toNat_lt
    have h1 : (a >>> 2).toNat = group / 2 ^ 18 := by
      rw [toNat_shr2]
      omega
    have h2 : (((a <<< 4) &&& (0x3F : UInt8)) ||| (b >>> 4)).toNat = group / 2 ^ 12 % 64 := by
      rw [toNat_val2]
      omega
    have h3 : (((b <<< 2) &&& (0x3F : UInt8)) ||| (c >>> 6)).toNat = group / 2 ^ 6 % 64 := by
      rw [toNat_val3]
      omega
    have h4 : (c &&& 0x3F).toNat = group % 64 := by
      rw [toNat_low]
      omega
    simp only [encodeLoop]
    rw [digit_eq alphabet h1 (by omega), digit_eq alphabet h2 (by omega),
      digit_eq alphabet h3 (by omega), digit_eq alphabet h4 (by omega), ih]
  | case2 a b group =>
    have ha := a.toNat_lt
    have hb := b.toNat_lt
    have h1 : (a >>> 2).toNat = group / 2 ^ 18 := by
      rw [toNat_shr2]
      omega
    have h2 : (((a <<< 4) &&& (0x3F : UInt8)) ||| (b >>> 4)).toNat = group / 2 ^ 12 % 64 := by
      rw [toNat_val2]
      omega
    have h3 : ((b <<< 2) &&& 0x3F).toNat = group / 2 ^ 6 % 64 := by
      rw [toNat_val3_alone]
      omega
    simp only [encodeLoop]
    rw [digit_eq alphabet h1 (by omega), digit_eq alphabet h2 (by omega),
      digit_eq alphabet h3 (by omega), alphabet.pads]
  | case3 a group =>
    have ha := a.toNat_lt
    have h1 : (a >>> 2).toNat = group / 2 ^ 18 := by
      rw [toNat_shr2]
      omega
    have h2 : ((a <<< 4) &&& 0x3F).toNat = group / 2 ^ 12 % 64 := by
      rw [toNat_val2_alone]
      omega
    simp only [encodeLoop]
    rw [digit_eq alphabet h1 (by omega), digit_eq alphabet h2 (by omega), alphabet.pads]
  | case4 => rfl

section Groups

variable {c1 c2 c3 c4 : UInt8}

def groupBytes (charToVal : UInt8 → UInt8) (c1 c2 c3 c4 : UInt8) : Bytes :=
  [(charToVal c1 <<< 2) ||| (charToVal c2 >>> 4), (charToVal c2 <<< 4) ||| (charToVal c3 >>> 2),
    (charToVal c3 <<< 6) ||| charToVal c4]

section

variable (h1 : alphabet.charToVal c1 ≠ 255) (h2 : alphabet.charToVal c2 ≠ 255)
include h1 h2

theorem decode_group (h3 : alphabet.charToVal c3 ≠ 255) (h4 : alphabet.charToVal c4 ≠ 255)
  (rest : Bytes) :
  base64Decode alphabet.charToVal (c1 :: c2 :: c3 :: c4 :: rest) =
    (base64Decode alphabet.charToVal rest).map (groupBytes alphabet.charToVal c1 c2 c3 c4 ++ ·) := by
  rw [base64Decode.eq_def]
  simp [alphabet.isgraph_of_valid h1, h1, h2, alphabet.ne_padChar h3, h3, alphabet.ne_padChar h4, h4,
    groupBytes]

theorem decode_pad3 (rest : Bytes) : base64Decode alphabet.charToVal (c1 :: c2 :: padChar :: rest) =
    some [(alphabet.charToVal c1 <<< 2) ||| (alphabet.charToVal c2 >>> 4)] := by
  rw [base64Decode.eq_def]
  simp [alphabet.isgraph_of_valid h1, h1, h2]

theorem decode_pad4 (h3 : alphabet.charToVal c3 ≠ 255) (rest : Bytes) :
  base64Decode alphabet.charToVal (c1 :: c2 :: c3 :: padChar :: rest) =
    some [(alphabet.charToVal c1 <<< 2) ||| (alphabet.charToVal c2 >>> 4),
      (alphabet.charToVal c2 <<< 4) ||| (alphabet.charToVal c3 >>> 2)] := by
  rw [base64Decode.eq_def]
  simp [alphabet.isgraph_of_valid h1, h1, h2, alphabet.ne_padChar h3, h3]

end

end Groups

theorem valToChar_valid (h : val.toNat < 64) :
  alphabet.charToVal (alphabet.valToChar val) ≠ 255 := by
  rw [alphabet.charToVal_valToChar h]
  rintro rfl
  exact absurd h (by decide)

theorem base64Decode_encodeLoop (input : Bytes) :
  base64Decode alphabet.charToVal (encodeLoop alphabet.valToChar input) = some input := by
  fun_induction rfcEncode alphabet.chars input with
  | case1 a b c rest group ih =>
    have ha := a.toNat_lt
    have hb := b.toNat_lt
    have hc := c.toNat_lt
    have h1 := toNat_shr2 a
    have h2 := toNat_val2 a b
    have h3 := toNat_val3 b c
    have h4 := toNat_low c
    simp only [encodeLoop, cons_append, nil_append]
    rw [decode_group alphabet (valToChar_valid alphabet (by omega))
      (valToChar_valid alphabet (by omega)) (valToChar_valid alphabet (by omega))
      (valToChar_valid alphabet (by omega)), ih, groupBytes,
      alphabet.charToVal_valToChar (by omega), alphabet.charToVal_valToChar (by omega),
      alphabet.charToVal_valToChar (by omega), alphabet.charToVal_valToChar (by omega),
      out1_eq a (by omega) (by omega), out2_eq b (by omega) (by omega),
      out3_eq c (by omega) (by omega)]
    rfl
  | case2 a b group =>
    have ha := a.toNat_lt
    have hb := b.toNat_lt
    have h1 := toNat_shr2 a
    have h2 := toNat_val2 a b
    have h3 := toNat_val3_alone b
    simp only [encodeLoop, alphabet.pads]
    rw [decode_pad4 alphabet (valToChar_valid alphabet (by omega))
      (valToChar_valid alphabet (by omega)) (valToChar_valid alphabet (by omega)),
      alphabet.charToVal_valToChar (by omega), alphabet.charToVal_valToChar (by omega),
      alphabet.charToVal_valToChar (by omega), out1_eq a (by omega) (by omega),
      out2_eq b (by omega) (by omega)]
  | case3 a group =>
    have ha := a.toNat_lt
    have h1 := toNat_shr2 a
    have h2 := toNat_val2_alone a
    simp only [encodeLoop, alphabet.pads]
    rw [decode_pad3 alphabet (valToChar_valid alphabet (by omega))
      (valToChar_valid alphabet (by omega)), alphabet.charToVal_valToChar (by omega),
      alphabet.charToVal_valToChar (by omega), out1_eq a (by omega) (by omega)]
  | case4 => rfl

theorem rfcEncode_append (chars front back : Bytes) (hGroups : front.length % 3 = 0) :
  rfcEncode chars (front ++ back) = rfcEncode chars front ++ rfcEncode chars back := by
  fun_induction rfcEncode chars front with
  | case1 a b c rest group ih =>
    have hRest : rest.length % 3 = 0 := by
      simp only [length_cons] at hGroups
      omega
    simp only [cons_append, rfcEncode, ih hRest, append_assoc]
    rfl
  | case2 a b group => simp at hGroups
  | case3 a group => simp at hGroups
  | case4 => rfl

theorem rfcEncode_length (chars input : Bytes) :
  (rfcEncode chars input).length = (input.length + 2) / 3 * 4 := by
  fun_induction rfcEncode chars input with
  | case1 a b c rest group ih =>
    simp only [length_append, length_cons, length_nil, ih]
    omega
  | _ => simp

theorem encode32Loop_eq (input out : Bytes) (outLen : Nat) :
  encode32Loop alphabet.valToChar input out out.length outLen =
    (out ++ rfcEncode alphabet.chars input,
      (outLen + (rfcEncode alphabet.chars input).length) % 2 ^ 32) := by
  induction hSize : input.length using Nat.strong_induction_on generalizing input out outLen with
  | _ size ih =>
    have hLength := rfcEncode_length alphabet.chars (input.take (chunkLen kMaxEncode input.length))
    have hChunk : chunkLen kMaxEncode input.length = min kMaxEncode input.length := by
      unfold chunkLen
      split <;> omega
    have hMax : kMaxEncode = 49149 := rfl
    rw [encode32Loop]
    simp only [base64Encode, encodeLoop_eq, overwrite_at_end]
    rw [length_take] at hLength
    rw [Nat.mod_eq_of_lt (by omega : (rfcEncode alphabet.chars
      (input.take (chunkLen kMaxEncode input.length))).length < 2 ^ 16)]
    by_cases hLast : input.length - chunkLen kMaxEncode input.length = 0
    · rw [if_pos hLast, take_of_length_le (by omega)]
    · rw [if_neg hLast, ← length_append, ih _ _ _ _ _ rfl, append_assoc,
        ← rfcEncode_append, take_append_drop]
      · have hWhole := rfcEncode_append alphabet.chars
          (input.take (chunkLen kMaxEncode input.length))
          (input.drop (chunkLen kMaxEncode input.length)) (by
            rw [length_take]
            omega)
        rw [take_append_drop] at hWhole
        rw [hWhole, length_append]
        congr 1
        omega
      · rw [length_take]
        omega
      · rw [length_drop]
        omega

theorem base64Encode32_eq (input : Bytes) :
  base64Encode32 alphabet.valToChar input = (rfcEncode alphabet.chars input,
    (rfcEncode alphabet.chars input).length % 2 ^ 32) := by
  have hLoop := encode32Loop_eq alphabet input [] 0
  simpa [base64Encode32] using hLoop

theorem base64Decode_rfcEncode (input : Bytes) :
  base64Decode alphabet.charToVal (rfcEncode alphabet.chars input) = some input := by
  rw [← encodeLoop_eq, base64Decode_encodeLoop]

theorem base64Decode32_short {charToVal : UInt8 → UInt8} {input : Bytes}
  (hShort : input.length ≤ 65532) :
  base64Decode32 charToVal input = base64Decode charToVal input := by
  have hMax : kMaxDecode = 65532 := rfl
  have hChunk : chunkLen kMaxDecode input.length = input.length := by
    rw [chunkLen, if_neg (by omega)]
  rw [base64Decode32, hChunk, take_length, Nat.sub_self]
  cases base64Decode charToVal input <;> rfl

theorem base64Decode32_append {charToVal : UInt8 → UInt8} {front back : Bytes}
  (hFull : front.length = 65532) (hMore : back ≠ []) :
  base64Decode32 charToVal (front ++ back) = (base64Decode charToVal front).bind fun outChunk =>
    (base64Decode32 charToVal back).map (outChunk ++ ·) := by
  have hMax : kMaxDecode = 65532 := rfl
  have hBack := length_pos_iff.mpr hMore
  have hLength : (front ++ back).length = 65532 + back.length := by
    rw [length_append, hFull]
  have hChunk : chunkLen kMaxDecode (front ++ back).length = 65532 := by
    rw [chunkLen, if_pos (by omega), hMax]
  rw [base64Decode32, hChunk, take_left' hFull, drop_left' hFull, hLength]
  simp only [if_neg (by omega : ¬65532 + back.length - 65532 = 0)]
  cases base64Decode charToVal front <;> rfl

theorem base64Decode32_rfcEncode (input : Bytes) :
  base64Decode32 alphabet.charToVal (rfcEncode alphabet.chars input) = some input := by
  induction hSize : input.length using Nat.strong_induction_on generalizing input with
  | _ size ih =>
    have hLength := rfcEncode_length alphabet.chars input
    by_cases hShort : input.length ≤ 49149
    · rw [base64Decode32_short (by omega), base64Decode_rfcEncode]
    · have hFront : (rfcEncode alphabet.chars (input.take 49149)).length = 65532 := by
        rw [rfcEncode_length, length_take]
        omega
      have hBack : rfcEncode alphabet.chars (input.drop 49149) ≠ [] := by
        rw [← length_pos_iff, rfcEncode_length, length_drop]
        omega
      have hParts : rfcEncode alphabet.chars input = rfcEncode alphabet.chars (input.take 49149) ++
          rfcEncode alphabet.chars (input.drop 49149) := by
        rw [← rfcEncode_append alphabet.chars _ _ (by rw [length_take]; omega),
          take_append_drop]
      have hRest := ih _ (by rw [length_drop]; omega) (input.drop 49149) rfl
      rw [hParts, base64Decode32_append hFront hBack, base64Decode_rfcEncode, hRest,
        Option.bind_some, Option.map_some, take_append_drop]

end Chip.Base64
