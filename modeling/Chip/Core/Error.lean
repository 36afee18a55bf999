import Mathlib.Data.BitVec

namespace Chip

/-- The error codes of `CHIPError.h` that the modelled calls return.
`CHIP_NO_ERROR` is the successful branch of a call and has no constructor. -/
inductive ChipError where
  | endOfTLV
  | tlvUnderrun
  | invalidTLVElement
  | invalidTLVTag
  | unknownImplicitTLVTag
  | wrongTLVType
  | tlvContainerOpen
  | bufferTooSmall
  | noMemory
  | incorrectState
  | invalidArgument
  | messageTooLong
  | notImplemented
  | unexpectedTLVElement
  | invalidIntegerValue
  | internal
  | duplicateMessageReceived
  | notFound
  | keyNotFound
  | persistedStorageValueNotFound
  | persistedStorageFailed
  | versionMismatch
  | wrongCertDN
  | wrongNodeId
  | wrongCertType
  | certUsageNotAllowed
  | certPathLenConstraintExceeded
  | certNotTrusted
  | certPathTooLong
  | caCertNotFound
  | certNotFound
  | certNotValidYet
  | certExpired
  | unsupportedCertFormat
  | unsupportedSignatureType
  | fabricMismatchOnICA
  | accessDenied
  | invalidFabricIndex
  | invalidKeyId
  | duplicateKeyId
  | invalidListLength
  | tooManyPeerNodes
  | sentinel
  | invalidMessageType
  | messageIncomplete
  | outboundMessageTooBig
  | retransTableFull
  | connectionAborted
  | messageCounterExhausted
  | missingSecureSession
  | posixENOBUFS
  | unexpectedEvent
  | eventIdFound
  | imMalformedEventDataIB
  | invalidStringLength
  | integrityCheckFailed
  | recursionDepthLimit
  | invalidFileIdentifier
  | tlvTagNotFound
  deriving DecidableEq

/-- Addition of two `uint32_t` values. -/
def add32 (a b : Nat) : Nat := (a + b) % 2 ^ 32

/-- Subtraction of two `uint32_t` values. -/
def sub32 (a b : Nat) : Nat := (a + (2 ^ 32 - b % 2 ^ 32)) % 2 ^ 32

theorem add32_of_lt {a b : Nat} (h : a + b < 2 ^ 32) : add32 a b = a + b :=
  Nat.mod_eq_of_lt h

theorem sub32_of_le {a b : Nat} (ha : a < 2 ^ 32) (h : b ≤ a) : sub32 a b = a - b := by
  have hb : b % 2 ^ 32 = b := Nat.mod_eq_of_lt (by omega)
  unfold sub32
  rw [hb]
  omega

end Chip
