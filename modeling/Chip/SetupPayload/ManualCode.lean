import Chip.Data.Proc
import Chip.SetupPayload.SetupPayload
import Chip.Support.Verhoeff

/-! Manual pairing codes (`ManualSetupPayloadGenerator.cpp`, `ManualSetupPayloadParser.cpp`): decimal
chunks that share the bits of the discriminator and of the PIN among them, and a check digit. -/
namespace Chip.SetupPayload

open Verhoeff10

def kManualSetupChunk1DiscriminatorMsbitsPos : Nat := 0

def kManualSetupChunk1DiscriminatorMsbitsLength : Nat := 2

def kManualSetupChunk1VidPidPresentBitPos : Nat := 2

def kManualSetupChunk2PINCodeLsbitsPos : Nat := 0

def kManualSetupChunk2PINCodeLsbitsLength : Nat := 14

def kManualSetupChunk2DiscriminatorLsbitsPos : Nat := 14

def kManualSetupChunk2DiscriminatorLsbitsLength : Nat := 2

def kManualSetupChunk3PINCodeMsbitsPos : Nat := 0

def kManualSetupChunk3PINCodeMsbitsLength : Nat := 13

def kManualSetupShortCodeCharLength : Nat := 10

def kManualSetupLongCodeCharLength : Nat := 20

def kManualSetupCodeChunk1CharLength : Nat := 1

def kManualSetupCodeChunk2CharLength : Nat := 5

def kManualSetupCodeChunk3CharLength : Nat := 4

def kManualSetupVendorIdCharLength : Nat := 5

def kManualSetupProductIdCharLength : Nat := 5

def lowBits (length : Nat) (n : Nat) : Nat := n &&& ((1 <<< length) - 1)

def chunk1PayloadRepresentation (payload : PayloadContents) : Nat :=
  let discriminatorChunk := lowBits kManualSetupChunk1DiscriminatorMsbitsLength
    (payload.discriminator.getShortValue >>> (kShortBits - kManualSetupChunk1DiscriminatorMsbitsLength))
  let vidPidPresentFlag := if payload.commissioningFlow ≠ .kStandard then 1 else 0
  (discriminatorChunk <<< kManualSetupChunk1DiscriminatorMsbitsPos) |||
    (vidPidPresentFlag <<< kManualSetupChunk1VidPidPresentBitPos)

def chunk2PayloadRepresentation (payload : PayloadContents) : Nat :=
  let discriminatorChunk :=
    lowBits kManualSetupChunk2DiscriminatorLsbitsLength payload.discriminator.getShortValue
  (lowBits kManualSetupChunk2PINCodeLsbitsLength payload.setUpPINCode.toNat <<<
      kManualSetupChunk2PINCodeLsbitsPos) |||
    (discriminatorChunk <<< kManualSetupChunk2DiscriminatorLsbitsPos)

def chunk3PayloadRepresentation (payload : PayloadContents) : Nat :=
  lowBits kManualSetupChunk3PINCodeMsbitsLength (payload.setUpPINCode.toNat >>>
    (kSetupPINCodeFieldLengthInBits - kManualSetupChunk3PINCodeMsbitsLength)) <<<
      kManualSetupChunk3PINCodeMsbitsPos

/-- The decimal digits of a number, padded with zeros or cut in front. -/
def decimalDigits : Nat → Nat → Bytes
  | 0, _ => []
  | len + 1, number => decimalDigits len (number / 10) ++ [UInt8.ofNat (48 + number % 10)]

/-- `snprintf` pads the number with zeros, and needs more room if it has more digits. -/
def decimalStringWithPadding (len number : Nat) : Except ChipError Bytes :=
  if number < 10 ^ len then .ok (decimalDigits len number) else .error .bufferTooSmall

def check (p : Prop) [Decidable p] (e : ChipError) : Except ChipError Unit := if p then .ok () else .error e

structure ManualSetupPayloadGenerator where
  mPayloadContents : PayloadContents
  mAllowInvalidPayload : Bool := false
  mForceShortCode : Bool := false

namespace ManualSetupPayloadGenerator

/-- The vendor and the product, which a short code leaves out. -/
def vidPidRepresentation (payload : PayloadContents) (useLongCode : Bool) : Except ChipError Bytes :=
  if useLongCode then do
    let vendorID ← decimalStringWithPadding kManualSetupVendorIdCharLength payload.vendorID.toNat
    let productID ← decimalStringWithPadding kManualSetupProductIdCharLength payload.productID.toNat
    pure (vendorID ++ productID)
  else .ok []

/-- The overload for a buffer of this size, and the characters before the terminator. -/
def payloadDecimalStringRepresentation (g : ManualSetupPayloadGenerator) (outSize : Nat) :
  Except ChipError Bytes := do
  check (g.mAllowInvalidPayload ∨ g.mPayloadContents.isValidManualCode) .invalidArgument
  let useLongCode : Bool := g.mPayloadContents.commissioningFlow ≠ .kStandard ∧ ¬g.mForceShortCode
  check (¬((useLongCode ∧ outSize < kManualSetupLongCodeCharLength + 2) ∨
    (¬useLongCode ∧ outSize < kManualSetupShortCodeCharLength + 2))) .bufferTooSmall
  let chunk1 ← decimalStringWithPadding kManualSetupCodeChunk1CharLength
    (chunk1PayloadRepresentation g.mPayloadContents)
  let chunk2 ← decimalStringWithPadding kManualSetupCodeChunk2CharLength
    (chunk2PayloadRepresentation g.mPayloadContents)
  let chunk3 ← decimalStringWithPadding kManualSetupCodeChunk3CharLength
    (chunk3PayloadRepresentation g.mPayloadContents)
  let ids ← vidPidRepresentation g.mPayloadContents useLongCode
  let out := chunk1 ++ chunk2 ++ chunk3 ++ ids
  -- The value of a character that is no digit is -1.
  let checkDigit := (charToVal (computeCheckChar (cString out))).getD (2 ^ 32 - 1)
  let last ← decimalStringWithPadding 1 checkDigit
  pure (out ++ last)

/-- The overload for a string has a buffer for the long code. -/
def toDecimalString (g : ManualSetupPayloadGenerator) : Except ChipError Bytes :=
  g.payloadDecimalStringRepresentation (kManualSetupLongCodeCharLength + 1 + 1)

end ManualSetupPayloadGenerator

namespace ManualSetupPayloadParser

/-- The constructor removes the dashes that separate groups of digits. -/
def init (decimalRepresentation : Bytes) : Bytes := decimalRepresentation.filter (· ≠ 45)

def checkDecimalStringValidity (decimalString : Bytes) : Except ChipError Bytes :=
  if decimalString.length < 2 then .error .invalidStringLength
  else
    let repWithoutCheckChar := decimalString.take (decimalString.length - 1)
    let checkChar := decimalString.getLastD 0
    if validateCheckChar checkChar (cString repWithoutCheckChar) then .ok repWithoutCheckChar
    else .error .integrityCheckFailed

def checkCodeLengthValidity (decimalString : Bytes) (isLongCode : Bool) : Except ChipError Unit :=
  let expectedCharLength :=
    if isLongCode then kManualSetupLongCodeCharLength else kManualSetupShortCodeCharLength
  if decimalString.length ≠ expectedCharLength then .error .invalidStringLength else .ok ()

def toNumberLoop : Nat → Bytes → Except ChipError Nat
  | number, [] => .ok number
  | number, c :: rest =>
    if ¬IsDigit c then .error .invalidIntegerValue
    else toNumberLoop ((number * 10 + (c.toNat - 48)) % 2 ^ 32) rest

def toNumber (decimalString : Bytes) : Except ChipError Nat := toNumberLoop 0 decimalString

def readDigitsFromDecimalString (decimalString : Bytes) (index numberOfCharsToRead : Nat) :
  Except ChipError (Nat × Nat) :=
  if decimalString.length < numberOfCharsToRead ∨ numberOfCharsToRead + index > decimalString.length then
    .error .invalidStringLength
  else (toNumber ((decimalString.drop index).take numberOfCharsToRead)).map
    fun dest => (dest, index + numberOfCharsToRead)

def discriminatorOf (chunk1 chunk2 : Nat) : Nat :=
  lowBits kManualSetupChunk2DiscriminatorLsbitsLength (chunk2 >>> kManualSetupChunk2DiscriminatorLsbitsPos) |||
    (lowBits kManualSetupChunk1DiscriminatorMsbitsLength (chunk1 >>> kManualSetupChunk1DiscriminatorMsbitsPos) <<<
      kManualSetupChunk2DiscriminatorLsbitsLength)

def setUpPINCodeOf (chunk2 chunk3 : Nat) : Nat :=
  lowBits kManualSetupChunk2PINCodeLsbitsLength (chunk2 >>> kManualSetupChunk2PINCodeLsbitsPos) |||
    (lowBits kManualSetupChunk3PINCodeMsbitsLength (chunk3 >>> kManualSetupChunk3PINCodeMsbitsPos) <<<
      kManualSetupChunk2PINCodeLsbitsLength)

theorem lowBits_eq (length n : Nat) : lowBits length n = n % 2 ^ length := by
  rw [lowBits, Nat.one_shiftLeft, Nat.and_two_pow_sub_one_eq_mod]

theorem shiftLeft_or (high : Nat) {low length : Nat} (h : low < 2 ^ length) :
  low ||| (high <<< length) = high * 2 ^ length + low := by
  rw [Nat.or_comm, ← Nat.shiftLeft_add_eq_or_of_lt h, Nat.shiftLeft_eq]

theorem discriminatorOf_eq (chunk1 chunk2 : Nat) :
  discriminatorOf chunk1 chunk2 = chunk1 % 4 * 4 + chunk2 / 2 ^ 14 % 4 := by
  have hLow : chunk2 >>> 14 % 2 ^ 2 < 2 ^ 2 := Nat.mod_lt _ (by decide)
  have hShift : chunk2 >>> 14 = chunk2 / 2 ^ 14 := Nat.shiftRight_eq_div_pow _ _
  rw [discriminatorOf, lowBits_eq, lowBits_eq, ← hShift]
  exact shiftLeft_or _ hLow

theorem setUpPINCodeOf_eq (chunk2 chunk3 : Nat) :
  setUpPINCodeOf chunk2 chunk3 = chunk3 % 2 ^ 13 * 2 ^ 14 + chunk2 % 2 ^ 14 := by
  have hLow : chunk2 >>> 0 % 2 ^ 14 < 2 ^ 14 := Nat.mod_lt _ (by decide)
  rw [setUpPINCodeOf, lowBits_eq, lowBits_eq]
  exact shiftLeft_or _ hLow

theorem discriminatorOf_lt (chunk1 chunk2 : Nat) : discriminatorOf chunk1 chunk2 < 2 ^ kShortBits := by
  rw [discriminatorOf_eq, kShortBits]
  omega

/-- The fields are stored when they have been read, and the vendor before the product is tested. -/
def populatePayload (mDecimalStringRepresentation : Bytes) : Proc ChipError SetupPayload Unit := do
  let rep ← Proc.lift (checkDecimalStringValidity mDecimalStringRepresentation)
  let (chunk1, stringOffset) ← Proc.lift (readDigitsFromDecimalString rep 0 kManualSetupCodeChunk1CharLength)
  let (chunk2, stringOffset) ←
    Proc.lift (readDigitsFromDecimalString rep stringOffset kManualSetupCodeChunk2CharLength)
  let (chunk3, stringOffset) ←
    Proc.lift (readDigitsFromDecimalString rep stringOffset kManualSetupCodeChunk3CharLength)
  Proc.verify (¬(chunk1 = 8 ∨ chunk1 = 9)) .invalidArgument
  let isLongCode : Bool := (chunk1 >>> kManualSetupChunk1VidPidPresentBitPos) &&& 1 = 1
  Proc.lift (checkCodeLengthValidity rep isLongCode)
  Proc.verify (setUpPINCodeOf chunk2 chunk3 ≠ 0) .invalidArgument
  if isLongCode then do
    let (vendorID, stringOffset) ←
      Proc.lift (readDigitsFromDecimalString rep stringOffset kManualSetupVendorIdCharLength)
    let (productID, _) ←
      Proc.lift (readDigitsFromDecimalString rep stringOffset kManualSetupProductIdCharLength)
    Proc.verify (vendorID < 2 ^ 16) .invalidIntegerValue
    Proc.modify fun out => { out with vendorID := UInt16.ofNat vendorID }
    Proc.verify (productID < 2 ^ 16) .invalidIntegerValue
    Proc.modify fun out => { out with productID := UInt16.ofNat productID }
  Proc.modify fun out =>
    { out with
      commissioningFlow := if isLongCode then .kCustom else .kStandard
      setUpPINCode := UInt32.ofNat (setUpPINCodeOf chunk2 chunk3)
      discriminator := .shortValue (discriminatorOf chunk1 chunk2) (discriminatorOf_lt chunk1 chunk2) }

end ManualSetupPayloadParser

end Chip.SetupPayload
