import Chip.Core.Error
import Mathlib

/-! The base 38 encoding of setup payloads (`Base38Encode.cpp`, `Base38Decode.cpp`). Three bytes are
five characters, and two bytes or one byte at the end are four characters or two. -/
namespace Chip.SetupPayload

open List

abbrev Bytes := List UInt8

def kCodes : List UInt8 :=
  ['0', '1', '2', '3', '4', '5', '6', '7', '8', '9', 'A', 'B', 'C', 'D', 'E', 'F', 'G', 'H', 'I',
   'J', 'K', 'L', 'M', 'N', 'O', 'P', 'Q', 'R', 'S', 'T', 'U', 'V', 'W', 'X', 'Y', 'Z', '-', '.'].map
    fun c => c.toNat.toUInt8

def kBase38CharactersNeededInNBytesChunk : List Nat := [2, 4, 5]

def kRadix : Nat := 38

/-- The value of the bytes of a chunk, of which the first one is shifted this far. -/
def chunkValue : Nat → Bytes → Nat
  | _, [] => 0
  | shift, b :: bs => (b.toNat <<< shift) + chunkValue (shift + 8) bs

def encodeChars : Nat → Nat → Bytes
  | 0, _ => []
  | n + 1, value => kCodes.getD (value % kRadix) 0 :: encodeChars n (value / kRadix)

/-- The characters of a chunk, if they and a terminator fit in what is left of the buffer. -/
def encodeChunk (outSize : Nat) (chunk out : Bytes) : Option Bytes :=
  let base38CharactersNeeded := kBase38CharactersNeededInNBytesChunk.getD (chunk.length - 1) 0
  if out.length + base38CharactersNeeded ≥ outSize then none
  else some (out ++ encodeChars base38CharactersNeeded (chunkValue 0 chunk))

def encodeLoop (outSize : Nat) : Bytes → Bytes → Option ChipError × Bytes
  | [], out => (none, out)
  | a :: b :: c :: rest, out =>
    match encodeChunk outSize [a, b, c] out with
    | none => (some .bufferTooSmall, out)
    | some out => encodeLoop outSize rest out
  | chunk, out =>
    match encodeChunk outSize chunk out with
    | none => (some .bufferTooSmall, out)
    | some out => (none, out)

/-- The error, if there is one, and what the output span is left with. -/
def base38Encode (in_buf : Bytes) (outSize : Nat) : Option ChipError × Bytes :=
  let (err, out) := encodeLoop outSize in_buf []
  if out.length < outSize then (err, out) else (some .bufferTooSmall, out)

def base38EncodedLength (num_bytes : Nat) : Nat := num_bytes / 3 * 5 + num_bytes % 3 * 2 + 1

def kBogus : UInt8 := 255

/-- The values of the characters from `'-'` to `'Z'`. -/
def decodes : List UInt8 :=
  [36, 37, kBogus, 0, 1, 2, 3, 4, 5, 6, 7, 8, 9, kBogus, kBogus, kBogus, kBogus, kBogus, kBogus, kBogus,
   10, 11, 12, 13, 14, 15, 16, 17, 18, 19, 20, 21, 22, 23, 24, 25, 26, 27, 28, 29, 30, 31, 32, 33, 34, 35]

def decodeChar (c : UInt8) : Except ChipError Nat :=
  if c < 45 ∨ c > 90 then .error .invalidIntegerValue
  else
    let v := decodes.getD (c.toNat - 45) kBogus
    if v = kBogus then .error .invalidIntegerValue else .ok v.toNat

def charsValue : Bytes → Except ChipError Nat
  | [] => .ok 0
  | c :: cs => do
      let value ← charsValue cs
      let v ← decodeChar c
      pure (value * kRadix + v)

def lowBytes : Nat → Nat → Bytes
  | 0, _ => []
  | n + 1, value => UInt8.ofNat value :: lowBytes n (value >>> 8)

def decodeChunk (bytesInDecodedChunk : Nat) (chunk : Bytes) : Except ChipError Bytes := do
  let value ← charsValue chunk
  if value >>> (8 * bytesInDecodedChunk) > 0 then throw .invalidArgument
  pure (lowBytes bytesInDecodedChunk value)

def base38Decode : Bytes → Except ChipError Bytes
  | [] => .ok []
  | a :: b :: c :: d :: e :: rest => do
      let bytes ← decodeChunk 3 [a, b, c, d, e]
      let more ← base38Decode rest
      pure (bytes ++ more)
  | [a, b, c, d] => decodeChunk 2 [a, b, c, d]
  | [a, b] => decodeChunk 1 [a, b]
  | _ => .error .invalidStringLength

theorem decodeChar_code : ∀ v < kRadix, decodeChar (kCodes.getD v 0) = .ok v := by decide +kernel

theorem decodeChar_all : ∀ c < 256, (decodeChar (UInt8.ofNat c)).toOption.all
  fun v => v < kRadix ∧ kCodes.getD v 0 = UInt8.ofNat c := by
  decide +kernel

theorem decodeChar_eq_ok {c : UInt8} {v : Nat} (h : decodeChar c = .ok v) :
  v < kRadix ∧ kCodes.getD v 0 = c := by
  have hAll := decodeChar_all c.toNat c.toNat_lt
  rw [UInt8.ofNat_toNat, h] at hAll
  exact of_decide_eq_true hAll

variable {n value shift : Nat} {bytes chunk cs out s : Bytes}

theorem encodeChars_length (n value : Nat) : (encodeChars n value).length = n := by
  induction n generalizing value with
  | zero => rfl
  | succ n ih => rw [encodeChars, length_cons, ih]

theorem charsValue_encodeChars (n value : Nat) :
  charsValue (encodeChars n value) = .ok (value % kRadix ^ n) := by
  induction n generalizing value with
  | zero => rw [pow_zero, Nat.mod_one]; rfl
  | succ n ih =>
    have hDigit := decodeChar_code (value % kRadix) (Nat.mod_lt _ (by decide))
    rw [encodeChars, charsValue, ih, hDigit, pow_succ', Nat.mod_mul, Nat.add_comm, Nat.mul_comm kRadix]
    rfl

theorem encodeChars_of_charsValue (h : charsValue cs = .ok value) :
  value < kRadix ^ cs.length ∧ encodeChars cs.length value = cs := by
  induction cs generalizing value with
  | nil =>
    cases h
    exact ⟨Nat.one_pos, rfl⟩
  | cons c cs ih =>
    rw [charsValue] at h
    cases hRest : charsValue cs with
    | error e => simp [hRest, bind, Except.bind] at h
    | ok high =>
      cases hChar : decodeChar c with
      | error e => simp [hRest, hChar, bind, Except.bind] at h
      | ok v =>
        obtain rfl : high * kRadix + v = value := by
          simpa [hRest, hChar, bind, Except.bind, pure, Except.pure] using h
        obtain ⟨hHigh, hChars⟩ := ih hRest
        obtain ⟨hDigit, hCode⟩ := decodeChar_eq_ok hChar
        have hMod : (high * kRadix + v) % kRadix = v := by
          rw [Nat.mul_comm, Nat.mul_add_mod, Nat.mod_eq_of_lt hDigit]
        have hDiv : (high * kRadix + v) / kRadix = high := by
          rw [Nat.mul_comm, Nat.mul_add_div (by decide), Nat.div_eq_of_lt hDigit, Nat.add_zero]
        refine ⟨?_, by rw [length_cons, encodeChars, hMod, hDiv, hChars, hCode]⟩
        have hNext : (high + 1) * kRadix ≤ kRadix ^ cs.length * kRadix := Nat.mul_le_mul_right _ hHigh
        rw [length_cons, pow_succ]
        rw [Nat.add_mul] at hNext
        omega

theorem lowBytes_length (n value : Nat) : (lowBytes n value).length = n := by
  induction n generalizing value with
  | zero => rfl
  | succ n ih => rw [lowBytes, length_cons, ih]

theorem chunkValue_shift (shift : Nat) (bytes : Bytes) :
  chunkValue shift bytes = chunkValue 0 bytes * 2 ^ shift := by
  induction bytes generalizing shift with
  | nil => simp [chunkValue]
  | cons b bs ih =>
    rw [chunkValue, chunkValue, ih (shift + 8), ih (0 + 8), Nat.shiftLeft_eq, Nat.shiftLeft_eq]
    ring

theorem chunkValue_cons (b : UInt8) (bytes : Bytes) :
  chunkValue 0 (b :: bytes) = b.toNat + 256 * chunkValue 0 bytes := by
  rw [chunkValue, chunkValue_shift, Nat.shiftLeft_zero]
  ring

theorem chunkValue_lt (bytes : Bytes) : chunkValue 0 bytes < 256 ^ bytes.length := by
  induction bytes with
  | nil => exact Nat.one_pos
  | cons b bs ih =>
    have hByte := b.toNat_lt
    rw [chunkValue_cons, length_cons, pow_succ]
    omega

theorem lowBytes_chunkValue (bytes : Bytes) : lowBytes bytes.length (chunkValue 0 bytes) = bytes := by
  induction bytes with
  | nil => rfl
  | cons b bs ih =>
    have hByte := b.toNat_lt
    have hShift : chunkValue 0 (b :: bs) >>> 8 = chunkValue 0 bs := by
      rw [chunkValue_cons, Nat.shiftRight_eq_div_pow]
      omega
    have hLow : UInt8.ofNat (chunkValue 0 (b :: bs)) = b := by
      refine UInt8.toNat_inj.mp ?_
      rw [UInt8.toNat_ofNat', chunkValue_cons]
      omega
    rw [length_cons, lowBytes, hShift, ih, hLow]

theorem chunkValue_lowBytes (h : value < 256 ^ n) : chunkValue 0 (lowBytes n value) = value := by
  induction n generalizing value with
  | zero =>
    rw [pow_zero, Nat.lt_one_iff] at h
    rw [h]
    rfl
  | succ n ih =>
    rw [pow_succ] at h
    rw [lowBytes, chunkValue_cons, Nat.shiftRight_eq_div_pow, ih (by omega), UInt8.toNat_ofNat']
    omega

theorem shiftRight_pos : ¬value >>> (8 * n) > 0 ↔ value < 256 ^ n := by
  rw [Nat.shiftRight_eq_div_pow, pow_mul, gt_iff_lt, Nat.div_pos_iff]
  have hPos : 0 < (2 ^ 8) ^ n := by positivity
  constructor
  · intro h
    exact Nat.lt_of_not_le fun hLe => h ⟨hPos, hLe⟩
  · intro h hDiv
    exact absurd h (Nat.not_lt.mpr hDiv.2)

theorem decodeChunk_eq (h : charsValue chunk = .ok value) : decodeChunk n chunk =
  if value < 256 ^ n then .ok (lowBytes n value) else .error .invalidArgument := by
  rw [decodeChunk, h]
  by_cases hFits : value < 256 ^ n
  · rw [if_pos hFits]
    simp [bind, Except.bind, pure, Except.pure, if_neg (shiftRight_pos.mpr hFits)]
  · rw [if_neg hFits]
    have hHigh : value >>> (8 * n) > 0 := not_not.mp fun h => hFits (shiftRight_pos.mp h)
    simp [bind, Except.bind, throw, throwThe, MonadExceptOf.throw, if_pos hHigh]

theorem decodeChunk_encodeChars (bytes : Bytes) (n : Nat) (hFits : 256 ^ bytes.length ≤ kRadix ^ n) :
  decodeChunk bytes.length (encodeChars n (chunkValue 0 bytes)) = .ok bytes := by
  have hValue := chunkValue_lt bytes
  have hChars := charsValue_encodeChars n (chunkValue 0 bytes)
  rw [Nat.mod_eq_of_lt (hValue.trans_le hFits)] at hChars
  rw [decodeChunk_eq hChars, if_pos hValue, lowBytes_chunkValue]

theorem encodeChars_of_decodeChunk (h : decodeChunk n chunk = .ok bytes) :
  bytes.length = n ∧ encodeChars chunk.length (chunkValue 0 bytes) = chunk := by
  cases hChars : charsValue chunk with
  | error e => simp [decodeChunk, hChars, bind, Except.bind] at h
  | ok value =>
    rw [decodeChunk_eq hChars] at h
    split at h
    case isTrue hValue =>
      cases h
      exact ⟨lowBytes_length n value, by
        rw [chunkValue_lowBytes hValue, (encodeChars_of_charsValue hChars).2]⟩
    case isFalse => cases h

theorem encodeChunk_eq {outSize : Nat} (chunk : Bytes) (h : out.length +
  kBase38CharactersNeededInNBytesChunk.getD (chunk.length - 1) 0 < outSize) :
  encodeChunk outSize chunk out = some (out ++
    encodeChars (kBase38CharactersNeededInNBytesChunk.getD (chunk.length - 1) 0) (chunkValue 0 chunk)) := by
  rw [encodeChunk, if_neg (Nat.not_le.mpr h)]

def encoded : Bytes → Bytes
  | [] => []
  | a :: b :: c :: rest => encodeChars 5 (chunkValue 0 [a, b, c]) ++ encoded rest
  | [a, b] => encodeChars 4 (chunkValue 0 [a, b])
  | [a] => encodeChars 2 (chunkValue 0 [a])

theorem encoded_length (bytes : Bytes) : (encoded bytes).length + 1 = base38EncodedLength bytes.length := by
  fun_induction encoded bytes with
  | case1 => rfl
  | case2 a b c rest ih =>
    rw [length_append, encodeChars_length]
    simp only [length_cons, base38EncodedLength] at ih ⊢
    omega
  | case3 a b => simp [encodeChars_length, base38EncodedLength]
  | case4 a => simp [encodeChars_length, base38EncodedLength]

theorem encodeLoop_eq {outSize : Nat} (h : out.length + (encoded bytes).length < outSize) :
  encodeLoop outSize bytes out = (none, out ++ encoded bytes) := by
  fun_induction encoded bytes generalizing out with
  | case1 => rw [encodeLoop, append_nil]
  | case2 a b c rest ih =>
    rw [length_append, encodeChars_length] at h
    rw [encodeLoop, encodeChunk_eq [a, b, c] (show out.length + 5 < outSize by omega)]
    have hRest := @ih (out ++ encodeChars 5 (chunkValue 0 [a, b, c]))
      (by rw [length_append, encodeChars_length]; omega)
    rw [← append_assoc, ← hRest]
    rfl
  | case3 a b =>
    rw [encodeChars_length] at h
    rw [encodeLoop, encodeChunk_eq [a, b] h] <;> simp
    rfl
  | case4 a =>
    rw [encodeChars_length] at h
    rw [encodeLoop, encodeChunk_eq [a] h] <;> simp
    rfl

theorem base38Encode_eq (bytes : Bytes) :
  base38Encode bytes (base38EncodedLength bytes.length) = (none, encoded bytes) := by
  have hLength := encoded_length bytes
  have hLoop : encodeLoop (base38EncodedLength bytes.length) bytes [] = (none, encoded bytes) :=
    encodeLoop_eq (by rw [length_nil]; omega)
  rw [base38Encode, hLoop]
  exact if_pos (by omega)

theorem base38Decode_encoded (bytes : Bytes) : base38Decode (encoded bytes) = .ok bytes := by
  fun_induction encoded bytes with
  | case1 => rfl
  | case2 a b c rest ih =>
    have hChunk : decodeChunk 3 (encodeChars 5 (chunkValue 0 [a, b, c])) = .ok [a, b, c] :=
      decodeChunk_encodeChars [a, b, c] 5 (by simp [kRadix])
    have hFive (value : Nat) (rest : Bytes) : base38Decode (encodeChars 5 value ++ rest) =
        decodeChunk 3 (encodeChars 5 value) >>= fun bytes =>
          base38Decode rest >>= fun more => Except.ok (bytes ++ more) := rfl
    rw [hFive, hChunk, ih]
    rfl
  | case3 a b => exact decodeChunk_encodeChars [a, b] 4 (by simp [kRadix])
  | case4 a => exact decodeChunk_encodeChars [a] 2 (by simp [kRadix])

theorem encoded_of_base38Decode (h : base38Decode s = .ok bytes) : encoded bytes = s := by
  fun_induction base38Decode s generalizing bytes with
  | case1 =>
    cases h
    rfl
  | case2 a b c d e rest ih =>
    cases hChunk : decodeChunk 3 [a, b, c, d, e] with
    | error err => simp [hChunk, bind, Except.bind] at h
    | ok first =>
      cases hRest : base38Decode rest with
      | error err => simp [hChunk, hRest, bind, Except.bind] at h
      | ok more =>
        obtain rfl : first ++ more = bytes := by
          simpa [hChunk, hRest, bind, Except.bind, pure, Except.pure] using h
        obtain ⟨hLength, hChars⟩ := encodeChars_of_decodeChunk hChunk
        obtain ⟨x, y, z, rfl⟩ := length_eq_three.mp hLength
        rw [cons_append, cons_append, cons_append, nil_append, encoded, ih hRest]
        exact congrArg (· ++ rest) hChars
  | case3 a b c d =>
    obtain ⟨hLength, hChars⟩ := encodeChars_of_decodeChunk h
    obtain ⟨x, y, rfl⟩ := length_eq_two.mp hLength
    exact hChars
  | case4 a b =>
    obtain ⟨hLength, hChars⟩ := encodeChars_of_decodeChunk h
    obtain ⟨x, rfl⟩ := length_eq_one_iff.mp hLength
    exact hChars
  | case5 => cases h

/-- Encoding into a buffer of the announced length succeeds and is undone by decoding, and a string
that can be decoded is the encoding of the result. -/
theorem base38_bijective :
    (∀ bytes, ∃ s, base38Encode bytes (base38EncodedLength bytes.length) = (none, s) ∧
      base38Decode s = .ok bytes) ∧
    (∀ s bytes, base38Decode s = .ok bytes →
      base38Encode bytes (base38EncodedLength bytes.length) = (none, s)) ∧
    ∀ s s' bytes, base38Decode s = .ok bytes → base38Decode s' = .ok bytes → s = s' := by
  refine ⟨fun bytes => ⟨encoded bytes, base38Encode_eq bytes, base38Decode_encoded bytes⟩,
    fun s bytes h => ?_, fun s s' bytes h h' => ?_⟩
  · rw [base38Encode_eq, encoded_of_base38Decode h]
  · rw [← encoded_of_base38Decode h, encoded_of_base38Decode h']

/-- Three bytes of ones are `"PLS18"`. -/
theorem base38_bijective_sample : base38Encode [255, 255, 255, 1] (base38EncodedLength 4) =
    (none, ['P', 'L', 'S', '1', '8', '1', '0'].map fun c => c.toNat.toUInt8) :=
  base38_bijective.2.1 _ _ (by decide +kernel)

end Chip.SetupPayload
