import Chip.SetupPayload.Base38

/-! The contents of a setup payload (`SetupPayload.h`, `SetupDiscriminator.h`). -/
namespace Chip.SetupPayload

def kLongBits : Nat := 12

def kShortBits : Nat := 4

structure SetupDiscriminator where
  mDiscriminator : Nat
  mIsShortDiscriminator : Bool
  inRange : mDiscriminator < 2 ^ if mIsShortDiscriminator then kShortBits else kLongBits

namespace SetupDiscriminator

def unset : SetupDiscriminator := ⟨0, false, by decide⟩

def shortValue (discriminator : Nat) (h : discriminator < 2 ^ kShortBits) : SetupDiscriminator :=
  ⟨discriminator, true, h⟩

def longToShortValue (longValue : Nat) : Nat := longValue >>> (kLongBits - kShortBits)

def getShortValue (d : SetupDiscriminator) : Nat :=
  if d.mIsShortDiscriminator then d.mDiscriminator else longToShortValue d.mDiscriminator

theorem getShortValue_lt (d : SetupDiscriminator) : d.getShortValue < 2 ^ kShortBits := by
  obtain ⟨value, isShort, hRange⟩ := d
  rw [getShortValue]
  cases isShort with
  | false =>
    have hLong : value < 2 ^ 12 := hRange
    change value >>> 8 < 2 ^ 4
    rw [Nat.shiftRight_eq_div_pow]
    omega
  | true => exact hRange

@[simp] theorem getShortValue_shortValue (value : Nat) (h : value < 2 ^ kShortBits) :
  (shortValue value h).getShortValue = value := rfl

end SetupDiscriminator

def kSetupPINCodeFieldLengthInBits : Nat := 27

def kSetupPINCodeMaximumValue : UInt32 := 99999998

def kSetupPINCodeUndefinedValue : UInt32 := 0

inductive CommissioningFlow where
  | kStandard
  | kUserActionRequired
  | kCustom
  | unnamed (value : UInt8)
  deriving DecidableEq

structure PayloadContents where
  version : UInt8 := 0
  vendorID : UInt16 := 0
  productID : UInt16 := 0
  commissioningFlow : CommissioningFlow := .kStandard
  /-- A payload of a manual code has none. -/
  rendezvousInformation : Option UInt8 := none
  discriminator : SetupDiscriminator := .unset
  setUpPINCode : UInt32 := 0

def vendorIdUnspecified : UInt16 := 0

def vendorIdTestVendor4 : UInt16 := 0xFFF4

def isVendorIdValidOperationally (vendorId : UInt16) : Bool :=
  vendorId ≠ 0 ∧ vendorId ≤ vendorIdTestVendor4

namespace PayloadContents

def isValidSetupPIN (setupPIN : UInt32) : Bool :=
  !(setupPIN = kSetupPINCodeUndefinedValue ∨ setupPIN > kSetupPINCodeMaximumValue ∨
    setupPIN ∈ ([11111111, 22222222, 33333333, 44444444, 55555555, 66666666, 77777777, 88888888,
      12345678, 87654321] : List UInt32))

def checkPayloadCommonConstraints (payload : PayloadContents) : Bool :=
  payload.version = 0 ∧ isValidSetupPIN payload.setUpPINCode ∧
    (isVendorIdValidOperationally payload.vendorID ∨ payload.vendorID = vendorIdUnspecified) ∧
    ¬(payload.productID = 0 ∧ payload.vendorID ≠ vendorIdUnspecified)

def isValidManualCode (payload : PayloadContents) : Bool :=
  payload.setUpPINCode.toNat < 1 <<< kSetupPINCodeFieldLengthInBits ∧
    payload.checkPayloadCommonConstraints

end PayloadContents

inductive OptionalQRCodeInfoType where
  | unknown
  | string
  | int32
  | int64
  | uint32
  | uint64

structure OptionalQRCodeInfo where
  tag : UInt8
  type : OptionalQRCodeInfoType
  data : Bytes := []
  int32 : Int := 0

structure OptionalQRCodeInfoExtension extends OptionalQRCodeInfo where
  int64 : Int := 0
  uint32 : Nat := 0
  uint64 : Nat := 0

/-- The maps of optional data have at most one entry for a tag. -/
structure SetupPayload extends PayloadContents where
  optionalVendorData : UInt8 → Option OptionalQRCodeInfo := fun _ => none
  optionalExtensionData : UInt8 → Option OptionalQRCodeInfoExtension := fun _ => none

end Chip.SetupPayload
