import Chip.Core.Error
import Chip.Data.LittleEndian
import Chip.Data.Proc

/-! The message headers of `MessageHeader.h` and `MessageHeader.cpp`, as they are decoded from
a received message. -/
namespace Chip.Transport

open LittleEndian

abbrev Bytes := List UInt8

/-- `kMsgHeaderVersion`. -/
def msgHeaderVersion : UInt8 := 0

/-- `CHIP_CRYPTO_AEAD_MIC_LENGTH_BYTES`. -/
def aeadMicLengthBytes : Nat := 16

/-- `kPrivacyHeaderOffset`. -/
def privacyHeaderOffset : Nat := 4

/-- `kPrivacyHeaderMinLength`. -/
def privacyHeaderMinLength : Nat := 4

inductive MsgFlagValues where
  | sourceNodeIdPresent
  | destinationNodeIdPresent
  | destinationGroupIdPresent

def MsgFlagValues.bit : MsgFlagValues → UInt8
  | sourceNodeIdPresent => 0b00000100
  | destinationNodeIdPresent => 0b00000001
  | destinationGroupIdPresent => 0b00000010

inductive SecFlagValues where
  | privacyFlag
  | controlMsgFlag
  | msgExtensionFlag

def SecFlagValues.bit : SecFlagValues → UInt8
  | privacyFlag => 0b10000000
  | controlMsgFlag => 0b01000000
  | msgExtensionFlag => 0b00100000

/-- `kUnicastSession`. -/
def unicastSession : UInt8 := 0

/-- `kGroupSession`. -/
def groupSession : UInt8 := 1

/-- A header. The session type is the two bits of the security flags, of which two values are
reserved. -/
structure PacketHeader where
  mMessageCounter : UInt32
  mSourceNodeId : Option UInt64
  mDestinationNodeId : Option UInt64
  mDestinationGroupId : Option UInt16
  mSessionId : UInt16
  mSessionType : UInt8
  mMsgFlags : UInt8
  mSecFlags : UInt8

namespace PacketHeader

def empty : PacketHeader := ⟨0, none, none, none, 0, unicastSession, 0, 0⟩

def hasMsgFlag (header : PacketHeader) (flag : MsgFlagValues) : Bool :=
  header.mMsgFlags &&& flag.bit ≠ 0

def hasSecFlag (header : PacketHeader) (flag : SecFlagValues) : Bool :=
  header.mSecFlags &&& flag.bit ≠ 0

def hasSourceNodeId (header : PacketHeader) : Bool := header.hasMsgFlag .sourceNodeIdPresent

def hasDestinationNodeId (header : PacketHeader) : Bool := header.hasMsgFlag .destinationNodeIdPresent

def hasDestinationGroupId (header : PacketHeader) : Bool :=
  header.hasMsgFlag .destinationGroupIdPresent

def hasPrivacyFlag (header : PacketHeader) : Bool := header.hasSecFlag .privacyFlag

def isSecureSessionControlMsg (header : PacketHeader) : Bool := header.hasSecFlag .controlMsgFlag

def isGroupSession (header : PacketHeader) : Bool := header.mSessionType = groupSession

def isUnicastSession (header : PacketHeader) : Bool := header.mSessionType = unicastSession

def isSessionTypeValid (header : PacketHeader) : Bool :=
  header.isUnicastSession || header.isGroupSession

def isValidGroupMsg (header : PacketHeader) : Bool :=
  header.isGroupSession && header.hasSourceNodeId && header.hasDestinationGroupId &&
    !header.isSecureSessionControlMsg

def isValidMCSPMsg (header : PacketHeader) : Bool :=
  header.isGroupSession && header.hasSourceNodeId && header.hasDestinationNodeId &&
    header.isSecureSessionControlMsg

def isEncrypted (header : PacketHeader) : Bool :=
  !(header.mSessionId = 0 && header.isUnicastSession)

def micTagLength (header : PacketHeader) : Nat :=
  if header.isEncrypted then aeadMicLengthBytes else 0

def privacyHeaderLength (header : PacketHeader) : Nat :=
  privacyHeaderMinLength + (if header.hasSourceNodeId then 8 else 0) +
    (if header.hasDestinationNodeId then 8
      else if header.hasDestinationGroupId then 2 else 0)

end PacketHeader

/-- A read of the little-endian reader: a number of so many bytes. -/
def readBytes (width : Nat) : Proc ChipError Bytes Nat := do
  let bytes ← Proc.read
  Proc.verify (width ≤ bytes.length) .bufferTooSmall
  Proc.modify (List.drop width)
  pure (LittleEndian.value (bytes.take width))

theorem readBytes_encode (width n : Nat) (rest : Bytes) :
  readBytes width (encode width n ++ rest) = (.ok (n % 256 ^ width), rest) := by
  have hLength : (encode width n).length = width := encode_length width n
  rw [readBytes, Proc.read_bind, Proc.verify_bind, if_pos (by simp), Proc.modify_bind,
    List.take_left' hLength, List.drop_left' hLength, value_encode]
  rfl

theorem readBytes_bind {α : Type} (width n : Nat) (rest : Bytes)
  (f : Nat → Proc ChipError Bytes α) :
  (readBytes width >>= f) (encode width n ++ rest) = f (n % 256 ^ width) rest :=
  Proc.bind_ok (readBytes_encode width n rest)

theorem readBytes_eq_ok {width n : Nat} {bytes rest : Bytes}
  (h : readBytes width bytes = (.ok n, rest)) :
  bytes = encode width n ++ rest ∧ n < 256 ^ width := by
  rw [readBytes, Proc.read_bind] at h
  obtain ⟨hWidth, h⟩ := Proc.verify_bind_eq_ok h
  rw [Proc.modify_bind] at h
  obtain ⟨hValue, hRest⟩ := Prod.mk.inj h
  have hTaken : (bytes.take width).length = width := List.length_take_of_le hWidth
  have hLess := value_lt (bytes.take width)
  have hBytes := encode_value (bytes.take width)
  rw [hTaken] at hLess hBytes
  rw [← Except.ok.inj hValue, ← hRest, hBytes]
  exact ⟨(List.take_append_drop width bytes).symm, hLess⟩

def decodeFixedCommon (header : PacketHeader) : Proc ChipError Bytes PacketHeader := do
  let msgFlags := UInt8.ofNat (← readBytes 1)
  Proc.verify ((msgFlags &&& 0xF0) >>> 4 = msgHeaderVersion) .versionMismatch
  let sessionId := UInt16.ofNat (← readBytes 2)
  let securityFlags := UInt8.ofNat (← readBytes 1)
  pure { header with
    mMsgFlags := msgFlags
    mSessionId := sessionId
    mSecFlags := securityFlags
    mSessionType := securityFlags &&& 0b00000011 }

def PacketHeader.decodeFixed (bytes : Bytes) : Except ChipError PacketHeader :=
  (decodeFixedCommon .empty bytes).1

def decodeSourceNodeId (header : PacketHeader) : Proc ChipError Bytes (Option UInt64) :=
  if header.hasSourceNodeId then do
    let sourceNodeId ← readBytes 8
    pure (some (UInt64.ofNat sourceNodeId))
  else pure none

def decodeDestination (header : PacketHeader) :
  Proc ChipError Bytes (Option UInt64 × Option UInt16) :=
  if header.hasDestinationNodeId && header.hasDestinationGroupId then Proc.fail .internal
  else if header.hasDestinationNodeId then do
    let destinationNodeId ← readBytes 8
    pure (some (UInt64.ofNat destinationNodeId), none)
  else if header.hasDestinationGroupId then do
    Proc.verify (header.isGroupSession = true) .internal
    let destinationGroupId ← readBytes 2
    pure (none, some (UInt16.ofNat destinationGroupId))
  else pure (none, none)

def skipExtension (present : Bool) : Proc ChipError Bytes Unit :=
  if present then do
    let length ← readBytes 2
    let bytes ← Proc.read
    Proc.verify (length ≤ bytes.length) .internal
    Proc.modify (List.drop length)
  else pure ()

/-- `PacketHeader::DecodeAndConsume`: the header and the bytes after it. -/
def PacketHeader.decodeAndConsume : Proc ChipError Bytes PacketHeader := do
  let header ← decodeFixedCommon .empty
  let messageCounter ← readBytes 4
  let sourceNodeId ← decodeSourceNodeId header
  Proc.verify (header.isSessionTypeValid = true) .internal
  let (destinationNodeId, destinationGroupId) ← decodeDestination header
  skipExtension (header.hasSecFlag .msgExtensionFlag)
  pure { header with
    mMessageCounter := UInt32.ofNat messageCounter
    mSourceNodeId := sourceNodeId
    mDestinationNodeId := destinationNodeId
    mDestinationGroupId := destinationGroupId }

inductive ExFlagValues where
  | initiator
  | ackMsg
  | needsAck
  | securedExtension
  | vendorIdPresent

def ExFlagValues.bit : ExFlagValues → UInt8
  | initiator => 0x01
  | ackMsg => 0x02
  | needsAck => 0x04
  | securedExtension => 0x08
  | vendorIdPresent => 0x10

structure PayloadHeader where
  mExchangeFlags : UInt8
  mMessageType : UInt8
  mExchangeID : UInt16
  mVendorId : UInt16
  mProtocolID : UInt16
  mAckMessageCounter : Option UInt32

namespace PayloadHeader

def hasFlag (flags : UInt8) (flag : ExFlagValues) : Bool := flags &&& flag.bit ≠ 0

def needsAck (header : PayloadHeader) : Bool := hasFlag header.mExchangeFlags .needsAck

def decodeAndConsume : Proc ChipError Bytes PayloadHeader := do
  let flags := UInt8.ofNat (← readBytes 1)
  let messageType := UInt8.ofNat (← readBytes 1)
  let exchangeID := UInt16.ofNat (← readBytes 2)
  let vendorId ← if hasFlag flags .vendorIdPresent then readBytes 2 else pure 0
  let protocolID ← readBytes 2
  let ackMessageCounter ← if hasFlag flags .ackMsg then some <$> readBytes 4 else pure none
  skipExtension (hasFlag flags .securedExtension)
  pure ⟨flags, messageType, exchangeID, UInt16.ofNat vendorId, UInt16.ofNat protocolID,
    ackMessageCounter.map UInt32.ofNat⟩

end PayloadHeader
end Chip.Transport
