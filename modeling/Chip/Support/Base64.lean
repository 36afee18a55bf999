import Mathlib
import Chip.Data.Memory

/-! The base 64 conversions of the support library (`Base64.cpp`). Three bytes are a group of
four characters. The conversions with 32 bit lengths take their input in chunks. -/
namespace Chip.Base64

abbrev Bytes := List UInt8

def padChar : UInt8 := 61

/-- A value of 64 or more has the pad character. `kPlus` and `kSlash` are the characters of the
last two values. -/
def valToChar (kPlus kSlash : UInt8) (val : UInt8) : UInt8 :=
  if val < 26 then 65 + val
  else
    let val := val - 26
    if val < 26 then 97 + val
    else
      let val := val - 26
      if val < 10 then 48 + val
      else if val = 10 then kPlus
      else if val = 11 then kSlash
      else padChar

/-- `UINT8_MAX` for every other character. -/
def charToVal (kPlus kSlash : UInt8) (c : UInt8) : UInt8 :=
  if c = kPlus then 62
  else if c = kSlash then 63
  else
    let c := c - 48
    if c < 10 then c + 52
    else
      let c := c - 17
      if c < 26 then c
      else
        let c := c - 32
        if c < 26 then c + 26 else 255

def base64ValToChar : UInt8 → UInt8 := valToChar 43 47

def base64CharToVal : UInt8 → UInt8 := charToVal 43 47

def base64URLValToChar : UInt8 → UInt8 := valToChar 45 95

def base64URLCharToVal : UInt8 → UInt8 := charToVal 45 95

/-- `isgraph` of the C locale. -/
def isgraph (c : UInt8) : Bool := 33 ≤ c ∧ c ≤ 126

structure Alphabet where
  valToChar : UInt8 → UInt8
  charToVal : UInt8 → UInt8
  /-- The 64 characters, in the order of their values. -/
  chars : Bytes
  listed : ∀ val : Fin 64, valToChar (UInt8.ofNat val) = chars.getD val padChar
  pads : valToChar 255 = padChar
  back : ∀ val : Fin 64, charToVal (valToChar (UInt8.ofNat val)) = UInt8.ofNat val
  unpadded : charToVal padChar = 255
  graphic : ∀ c : Fin 256, charToVal (UInt8.ofNat c) ≠ 255 → isgraph (UInt8.ofNat c) = true

/-- The upper case letters, the lower case letters and the digits. -/
def lettersAndDigits : Bytes :=
  (List.range 26).map (fun i => UInt8.ofNat (65 + i)) ++ (List.range 26).map (fun i => UInt8.ofNat (97 + i)) ++
    (List.range 10).map fun i => UInt8.ofNat (48 + i)

def standard : Alphabet where
  valToChar := base64ValToChar
  charToVal := base64CharToVal
  chars := lettersAndDigits ++ [43, 47]
  listed := by decide +kernel
  pads := by decide
  back := by decide +kernel
  unpadded := by decide
  graphic := by decide +kernel

def url : Alphabet where
  valToChar := base64URLValToChar
  charToVal := base64URLCharToVal
  chars := lettersAndDigits ++ [45, 95]
  listed := by decide +kernel
  pads := by decide
  back := by decide +kernel
  unpadded := by decide
  graphic := by decide +kernel

/-- The loop of `Base64Encode`. -/
def encodeLoop (valToChar : UInt8 → UInt8) : Bytes → Bytes
  | [] => []
  | in1 :: rest =>
    let val1 := in1 >>> 2
    let val2 := (in1 <<< 4) &&& 0x3F
    match rest with
    | [] => [valToChar val1, valToChar val2, valToChar 255, valToChar 255]
    | in2 :: rest =>
      let val2 := val2 ||| in2 >>> 4
      let val3 := (in2 <<< 2) &&& 0x3F
      match rest with
      | [] => [valToChar val1, valToChar val2, valToChar val3, valToChar 255]
      | in3 :: rest =>
        let val3 := val3 ||| in3 >>> 6
        let val4 := in3 &&& 0x3F
        [valToChar val1, valToChar val2, valToChar val3, valToChar val4] ++ encodeLoop valToChar rest

/-- `Base64Encode`: the characters it writes, and the length it returns in 16 bits. -/
def base64Encode (valToChar : UInt8 → UInt8) (input : Bytes) : Bytes × Nat :=
  let out := encodeLoop valToChar input
  (out, out.length % 2 ^ 16)

/-- `inChunkLen` of both loops. -/
def chunkLen (kMaxConvert inLen : Nat) : Nat := if inLen > kMaxConvert then kMaxConvert else inLen

theorem sub_chunkLen_lt {kMaxConvert inLen : Nat} (hMax : 0 < kMaxConvert)
  (hLeft : inLen - chunkLen kMaxConvert inLen ≠ 0) : inLen - chunkLen kMaxConvert inLen < inLen := by
  have hSome : 0 < chunkLen kMaxConvert inLen ∨ inLen = 0 := by
    unfold chunkLen
    split <;> omega
  omega

def kMaxEncode : Nat := 65535 / 4 * 3

/-- The loop of `Base64Encode32`. `out` holds the characters written so far, of which the next
ones go to `place`. -/
def encode32Loop (valToChar : UInt8 → UInt8) (input out : Bytes) (place outLen : Nat) : Bytes × Nat :=
  let inChunkLen := chunkLen kMaxEncode input.length
  let (written, outChunkLen) := base64Encode valToChar (input.take inChunkLen)
  let out := overwrite out place written
  let outLen := (outLen + outChunkLen) % 2 ^ 32
  if input.length - inChunkLen = 0 then (out, outLen)
  else encode32Loop valToChar (input.drop inChunkLen) out (place + outChunkLen) outLen
termination_by input.length
decreasing_by
  rw [List.length_drop]
  exact sub_chunkLen_lt (by decide) ‹_›

def base64Encode32 (valToChar : UInt8 → UInt8) (input : Bytes) : Bytes × Nat :=
  encode32Loop valToChar input [] 0 0

/-- `Base64Decode`. It has no value where the function returns `UINT16_MAX`. -/
def base64Decode (charToVal : UInt8 → UInt8) : Bytes → Option Bytes
  | [] => some []
  | in1 :: rest =>
    if !isgraph in1 then some []
    else match rest with
    | [] => none
    | in2 :: rest =>
      let a := charToVal in1
      let b := charToVal in2
      if a = 255 || b = 255 then none
      else match rest with
      | [] => some [(a <<< 2) ||| (b >>> 4)]
      | in3 :: rest =>
        if in3 = padChar then some [(a <<< 2) ||| (b >>> 4)]
        else
          let c := charToVal in3
          if c = 255 then none
          else match rest with
          | [] => some [(a <<< 2) ||| (b >>> 4), (b <<< 4) ||| (c >>> 2)]
          | in4 :: rest =>
            if in4 = padChar then some [(a <<< 2) ||| (b >>> 4), (b <<< 4) ||| (c >>> 2)]
            else
              let d := charToVal in4
              if d = 255 then none
              else (base64Decode charToVal rest).map
                ([(a <<< 2) ||| (b >>> 4), (b <<< 4) ||| (c >>> 2), (c <<< 6) ||| d] ++ ·)

def kMaxDecode : Nat := 65535 / 4 * 4

/-- `Base64Decode32`. It has no value where the function returns `UINT32_MAX`. -/
def base64Decode32 (charToVal : UInt8 → UInt8) (input : Bytes) : Option Bytes :=
  let inChunkLen := chunkLen kMaxDecode input.length
  match base64Decode charToVal (input.take inChunkLen) with
  | none => none
  | some outChunk =>
    if input.length - inChunkLen = 0 then some outChunk
    else (base64Decode32 charToVal (input.drop inChunkLen)).map (outChunk ++ ·)
termination_by input.length
decreasing_by
  rw [List.length_drop]
  exact sub_chunkLen_lt (by decide) ‹_›

end Chip.Base64
