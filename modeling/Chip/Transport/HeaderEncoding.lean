import Mathlib.Data.FinEnum
import Chip.Transport.MessageHeader

/-! How message headers are built and encoded (`MessageHeader.h` and `MessageHeader.cpp`), and
what is decoded from them. -/
namespace Chip.Transport

open Proc

/-- `BitFlags::Set` with a condition. -/
def setFlag (flags bit : UInt8) (isSet : Bool) : UInt8 :=
  if isSet then flags ||| bit else flags &&& ~~~bit

inductive SessionType where
  | unicast | group
  deriving DecidableEq

def SessionType.value : SessionType → UInt8
  | unicast => unicastSession
  | group => groupSession

/-- `kSessionTypeMask`. -/
def sessionTypeMask : UInt8 := 0b00000011

/-- `kMsgFlagsMask`. -/
def msgFlagsMask : UInt8 := 0x07

deriving instance DecidableEq for MsgFlagValues, SecFlagValues, ExFlagValues

theorem setFlag_msgFlag (flags : UInt8) (flag other : MsgFlagValues) (isSet : Bool) :
  decide (setFlag flags flag.bit isSet &&& other.bit ≠ 0) =
    if other = flag then isSet else decide (flags &&& other.bit ≠ 0) := by
  revert flags isSet
  cases flag <;> cases other <;> decide +kernel

theorem setFlag_reserved (flags : UInt8) (flag : MsgFlagValues) (isSet : Bool) :
  setFlag flags flag.bit isSet &&& ~~~msgFlagsMask = flags &&& ~~~msgFlagsMask := by
  revert flags isSet
  cases flag <;> decide +kernel

theorem setFlag_self (flags : UInt8) (flag : MsgFlagValues) :
  setFlag flags flag.bit (decide (flags &&& flag.bit ≠ 0)) = flags := by
  revert flags
  cases flag <;> decide +kernel

def optional (width : Nat) : Option Nat → Bytes
  | none => []
  | some n => LittleEndian.encode width n

namespace PacketHeader

def setMsgFlag (flag : MsgFlagValues) (isSet : Bool) (header : PacketHeader) : PacketHeader :=
  { header with mMsgFlags := setFlag header.mMsgFlags flag.bit isSet }

def setSecureSessionControlMsg (value : Bool) (header : PacketHeader) : PacketHeader :=
  { header with mSecFlags := setFlag header.mSecFlags SecFlagValues.controlMsgFlag.bit value }

def setSourceNodeId (id : Option UInt64) (header : PacketHeader) : PacketHeader :=
  { header with mSourceNodeId := id }.setMsgFlag .sourceNodeIdPresent id.isSome

def clearSourceNodeId (header : PacketHeader) : PacketHeader :=
  { header with mSourceNodeId := none }.setMsgFlag .sourceNodeIdPresent false

def setDestinationNodeId (id : Option UInt64) (header : PacketHeader) : PacketHeader :=
  { header with mDestinationNodeId := id }.setMsgFlag .destinationNodeIdPresent id.isSome

def clearDestinationNodeId (header : PacketHeader) : PacketHeader :=
  { header with mDestinationNodeId := none }.setMsgFlag .destinationNodeIdPresent false

def setDestinationGroupId (id : Option UInt16) (header : PacketHeader) : PacketHeader :=
  { header with mDestinationGroupId := id }.setMsgFlag .destinationGroupIdPresent id.isSome

def clearDestinationGroupId (header : PacketHeader) : PacketHeader :=
  { header with mDestinationGroupId := none }.setMsgFlag .destinationGroupIdPresent false

def setSessionType (type : SessionType) (header : PacketHeader) : PacketHeader :=
  { header with
    mSessionType := type.value
    mSecFlags := header.mSecFlags &&& ~~~sessionTypeMask ||| type.value &&& sessionTypeMask }

def setSessionId (id : UInt16) (header : PacketHeader) : PacketHeader :=
  { header with mSessionId := id }

def setMessageCounter (id : UInt32) (header : PacketHeader) : PacketHeader :=
  { header with mMessageCounter := id }

/-- `SetUnsecured`, which leaves the security flags as they are. -/
def setUnsecured (header : PacketHeader) : PacketHeader :=
  { header with mSessionId := 0, mSessionType := unicastSession }

def encodeSizeBytes (header : PacketHeader) : Nat :=
  8 + (if header.mSourceNodeId.isSome then 8 else 0) +
    (if header.mDestinationNodeId.isSome then 8
      else if header.mDestinationGroupId.isSome then 2 else 0)

def destination (header : PacketHeader) : Bytes :=
  match header.mDestinationNodeId with
  | some id => LittleEndian.encode 8 id.toNat
  | none => optional 2 (header.mDestinationGroupId.map UInt16.toNat)

def fields (header : PacketHeader) : Bytes :=
  LittleEndian.encode 1 header.mMsgFlags.toNat ++ (LittleEndian.encode 2 header.mSessionId.toNat ++
    (LittleEndian.encode 1 header.mSecFlags.toNat ++
      (LittleEndian.encode 4 header.mMessageCounter.toNat ++
        (optional 8 (header.mSourceNodeId.map UInt64.toNat) ++ header.destination))))

def withEncodedFlags (header : PacketHeader) : PacketHeader :=
  let messageFlags := ((header.setMsgFlag .sourceNodeIdPresent header.mSourceNodeId.isSome).setMsgFlag
    .destinationNodeIdPresent header.mDestinationNodeId.isSome).setMsgFlag
    .destinationGroupIdPresent header.mDestinationGroupId.isSome
  { header with mMsgFlags := msgHeaderVersion <<< 4 ||| messageFlags.mMsgFlags &&& msgFlagsMask }

/-- `PacketHeader::Encode` into a buffer of a size. -/
def encode (header : PacketHeader) (size : Nat) : Except ChipError Bytes :=
  if ¬header.encodeSizeBytes ≤ size then .error .invalidArgument
  else if header.mDestinationNodeId.isSome ∧ header.mDestinationGroupId.isSome then .error .internal
  else if ¬header.isSessionTypeValid then .error .internal
  else
    let bytes := header.withEncodedFlags.fields
    if bytes.length ≠ header.encodeSizeBytes then .error .internal else .ok bytes

structure FlagsMatch (header : PacketHeader) : Prop where
  source : header.hasSourceNodeId = header.mSourceNodeId.isSome
  destinationNode : header.hasDestinationNodeId = header.mDestinationNodeId.isSome
  destinationGroup : header.hasDestinationGroupId = header.mDestinationGroupId.isSome

variable {header : PacketHeader}

theorem FlagsMatch.withEncodedFlags (h : header.FlagsMatch) :
  header.withEncodedFlags = { header with mMsgFlags := header.mMsgFlags &&& msgFlagsMask } := by
  have hSource : setFlag header.mMsgFlags MsgFlagValues.sourceNodeIdPresent.bit
      header.mSourceNodeId.isSome = header.mMsgFlags := h.source ▸ setFlag_self ..
  have hNode : setFlag header.mMsgFlags MsgFlagValues.destinationNodeIdPresent.bit
      header.mDestinationNodeId.isSome = header.mMsgFlags := h.destinationNode ▸ setFlag_self ..
  have hGroup : setFlag header.mMsgFlags MsgFlagValues.destinationGroupIdPresent.bit
      header.mDestinationGroupId.isSome = header.mMsgFlags := h.destinationGroup ▸ setFlag_self ..
  simp only [PacketHeader.withEncodedFlags, setMsgFlag, hSource, hNode, hGroup]
  simp [msgHeaderVersion]

theorem optional_length (width : Nat) (n : Option Nat) :
  (optional width n).length = if n.isSome then width else 0 := by
  cases n with
  | none => rfl
  | some n => exact LittleEndian.encode_length width n

theorem fields_length (header : PacketHeader) : header.fields.length = header.encodeSizeBytes := by
  have hDestination : header.destination.length = if header.mDestinationNodeId.isSome then 8
      else if header.mDestinationGroupId.isSome then 2 else 0 := by
    unfold destination
    cases header.mDestinationNodeId with
    | none => simp [optional_length]
    | some id => simp
  simp only [fields, encodeSizeBytes, List.length_append, LittleEndian.encode_length,
    optional_length, Option.isSome_map, hDestination]
  omega

theorem encode_eq (header : PacketHeader) (size : Nat) :
  header.encode size =
    if ¬header.encodeSizeBytes ≤ size then .error .invalidArgument
    else if header.mDestinationNodeId.isSome ∧ header.mDestinationGroupId.isSome then
      .error .internal
    else if ¬header.isSessionTypeValid then .error .internal
    else .ok header.withEncodedFlags.fields := by
  have hLength : header.withEncodedFlags.fields.length = header.encodeSizeBytes :=
    fields_length header.withEncodedFlags
  simp [encode, hLength]

theorem decodeFixedCommon_fields (start : PacketHeader) {msgFlags secFlags : UInt8}
  (sessionId : UInt16) (rest : Bytes) (hVersion : (msgFlags &&& 0xF0) >>> 4 = msgHeaderVersion) :
  decodeFixedCommon start (LittleEndian.encode 1 msgFlags.toNat ++
      (LittleEndian.encode 2 sessionId.toNat ++ (LittleEndian.encode 1 secFlags.toNat ++ rest))) =
    (.ok { start with
      mMsgFlags := msgFlags
      mSessionId := sessionId
      mSecFlags := secFlags
      mSessionType := secFlags &&& 0b00000011 }, rest) := by
  have hMsg : UInt8.ofNat (msgFlags.toNat % 256 ^ 1) = msgFlags := by simp
  have hId : UInt16.ofNat (sessionId.toNat % 256 ^ 2) = sessionId := by simp
  have hSec : UInt8.ofNat (secFlags.toNat % 256 ^ 1) = secFlags := by simp
  rw [decodeFixedCommon, readBytes_bind, hMsg, Proc.verify_bind, if_pos hVersion, readBytes_bind, hId,
    readBytes_bind, hSec]
  rfl

theorem decodeSourceNodeId_optional (id : Option UInt64) (rest : Bytes)
  (hSource : header.hasSourceNodeId = id.isSome) :
  decodeSourceNodeId header (optional 8 (id.map UInt64.toNat) ++ rest) = (.ok id, rest) := by
  rw [decodeSourceNodeId, hSource]
  cases id with
  | none => rfl
  | some id =>
    have hId : UInt64.ofNat (id.toNat % 256 ^ 8) = id := by simp
    change (readBytes 8 >>= _) (LittleEndian.encode 8 id.toNat ++ rest) = _
    rw [readBytes_bind, hId]
    rfl

theorem decodeDestination_destination (fixed : PacketHeader) (rest : Bytes)
  (hNode : fixed.hasDestinationNodeId = header.mDestinationNodeId.isSome)
  (hGroup : fixed.hasDestinationGroupId = header.mDestinationGroupId.isSome)
  (hOne : ¬(header.mDestinationNodeId.isSome ∧ header.mDestinationGroupId.isSome))
  (hSession : header.mDestinationGroupId.isSome → fixed.isGroupSession) :
  decodeDestination fixed (header.destination ++ rest) =
    (.ok (header.mDestinationNodeId, header.mDestinationGroupId), rest) := by
  rw [decodeDestination, hNode, hGroup, destination]
  cases hNodeId : header.mDestinationNodeId with
  | none =>
    cases hGroupId : header.mDestinationGroupId with
    | none => rfl
    | some id =>
      have hId : UInt16.ofNat (id.toNat % 256 ^ 2) = id := by simp
      change (Proc.verify (fixed.isGroupSession = true) ChipError.internal >>= fun _ =>
        readBytes 2 >>= _) (LittleEndian.encode 2 id.toNat ++ rest) = _
      rw [Proc.verify_bind, if_pos (hSession (by rw [hGroupId]; rfl)), readBytes_bind, hId]
      rfl
  | some id =>
    cases hGroupId : header.mDestinationGroupId with
    | some groupId => exact absurd (by rw [hNodeId, hGroupId]; exact ⟨rfl, rfl⟩) hOne
    | none =>
      have hId : UInt64.ofNat (id.toNat % 256 ^ 8) = id := by simp
      change (readBytes 8 >>= _) (LittleEndian.encode 8 id.toNat ++ rest) = _
      rw [readBytes_bind, hId]
      rfl

theorem decodeAndConsume_fields (rest : Bytes) (hMatch : header.FlagsMatch)
  (hVersion : (header.mMsgFlags &&& 0xF0) >>> 4 = msgHeaderVersion)
  (hOne : ¬(header.mDestinationNodeId.isSome ∧ header.mDestinationGroupId.isSome))
  (hValid : { header with mSessionType := header.mSecFlags &&& sessionTypeMask }.isSessionTypeValid)
  (hGroup : header.mDestinationGroupId.isSome → header.mSecFlags &&& sessionTypeMask = groupSession)
  (hExtension : header.hasSecFlag .msgExtensionFlag = false) :
  decodeAndConsume (header.fields ++ rest) =
    (.ok { header with mSessionType := header.mSecFlags &&& sessionTypeMask }, rest) := by
  have hCounter : UInt32.ofNat (header.mMessageCounter.toNat % 256 ^ 4) = header.mMessageCounter := by
    simp
  simp only [fields, List.append_assoc]
  have hSkip : skipExtension (header.hasSecFlag .msgExtensionFlag) rest = (.ok (), rest) := by
    rw [hExtension]
    rfl
  refine (bind_ok (decodeFixedCommon_fields .empty _ _ hVersion)).trans ?_
  refine (readBytes_bind 4 _ _ _).trans ?_
  rw [hCounter]
  refine (bind_ok (decodeSourceNodeId_optional _ _ hMatch.source)).trans ?_
  refine (verify_bind ..).trans ?_
  refine (if_pos hValid).trans ?_
  refine Eq.trans (bind_ok (decodeDestination_destination _ _ (by exact hMatch.destinationNode)
    (by exact hMatch.destinationGroup) hOne fun hIs => by exact decide_eq_true (hGroup hIs))) ?_
  exact bind_ok hSkip

variable {bytes rest : Bytes}

theorem decodeFixedCommon_eq_ok {start fixed : PacketHeader}
  (h : decodeFixedCommon start bytes = (.ok fixed, rest)) :
  (fixed.mMsgFlags &&& 0xF0) >>> 4 = msgHeaderVersion ∧
    bytes = LittleEndian.encode 1 fixed.mMsgFlags.toNat ++
      (LittleEndian.encode 2 fixed.mSessionId.toNat ++
        (LittleEndian.encode 1 fixed.mSecFlags.toNat ++ rest)) := by
  rw [decodeFixedCommon] at h
  obtain ⟨msgFlags, rest₁, hMsg, h⟩ := Proc.bind_eq_ok h
  obtain ⟨hVersion, h⟩ := Proc.verify_bind_eq_ok h
  obtain ⟨sessionId, rest₂, hId, h⟩ := Proc.bind_eq_ok h
  obtain ⟨secFlags, rest₃, hSec, h⟩ := Proc.bind_eq_ok h
  obtain ⟨hMsg, hMsgLt⟩ := readBytes_eq_ok hMsg
  obtain ⟨hId, hIdLt⟩ := readBytes_eq_ok hId
  obtain ⟨hSec, hSecLt⟩ := readBytes_eq_ok hSec
  obtain ⟨hFixed, hRest⟩ := Prod.mk.inj h
  cases hFixed
  cases hRest
  refine ⟨hVersion, ?_⟩
  rw [hMsg, hId, hSec, UInt8.toNat_ofNat_of_lt' hMsgLt, UInt16.toNat_ofNat_of_lt' hIdLt,
    UInt8.toNat_ofNat_of_lt' hSecLt]

theorem decodeSourceNodeId_eq_ok {fixed : PacketHeader} {id : Option UInt64}
  (h : decodeSourceNodeId fixed bytes = (.ok id, rest)) :
  fixed.hasSourceNodeId = id.isSome ∧ bytes = optional 8 (id.map UInt64.toNat) ++ rest := by
  rw [decodeSourceNodeId] at h
  cases hSource : fixed.hasSourceNodeId with
  | false =>
    rw [hSource] at h
    cases h
    exact ⟨rfl, rfl⟩
  | true =>
    rw [hSource] at h
    obtain ⟨n, rest', hRead, h⟩ := bind_eq_ok h
    obtain ⟨hRead, hLt⟩ := readBytes_eq_ok hRead
    cases h
    refine ⟨rfl, ?_⟩
    rw [hRead, Option.map_some, optional, UInt64.toNat_ofNat_of_lt' hLt]

theorem decodeDestination_eq_ok {fixed : PacketHeader} {node : Option UInt64} {group : Option UInt16}
  (h : decodeDestination fixed bytes = (.ok (node, group), rest)) :
  fixed.hasDestinationNodeId = node.isSome ∧ fixed.hasDestinationGroupId = group.isSome ∧
    ¬(node.isSome ∧ group.isSome) ∧
    bytes = destination { fixed with mDestinationNodeId := node, mDestinationGroupId := group } ++
      rest := by
  rw [decodeDestination] at h
  cases hNode : fixed.hasDestinationNodeId with
  | true =>
    cases hGroup : fixed.hasDestinationGroupId with
    | true =>
      rw [hNode, hGroup] at h
      cases h
    | false =>
      rw [hNode, hGroup] at h
      obtain ⟨n, rest', hRead, h⟩ := bind_eq_ok h
      obtain ⟨hRead, hLt⟩ := readBytes_eq_ok hRead
      cases h
      refine ⟨rfl, rfl, by simp, ?_⟩
      simp only [hRead, destination, UInt64.toNat_ofNat_of_lt' hLt]
  | false =>
    cases hGroup : fixed.hasDestinationGroupId with
    | true =>
      rw [hNode, hGroup] at h
      obtain ⟨_, h⟩ := verify_bind_eq_ok h
      obtain ⟨n, rest', hRead, h⟩ := bind_eq_ok h
      obtain ⟨hRead, hLt⟩ := readBytes_eq_ok hRead
      cases h
      refine ⟨rfl, rfl, by simp, ?_⟩
      simp only [hRead, destination, Option.map_some, optional, UInt16.toNat_ofNat_of_lt' hLt]
    | false =>
      rw [hNode, hGroup] at h
      cases h
      exact ⟨rfl, rfl, by simp, rfl⟩

theorem skipExtension_eq_ok {isPresent : Bool} (h : skipExtension isPresent bytes = (.ok (), rest)) :
  ∃ extension, bytes = extension ++ rest ∧ if isPresent then 2 ≤ extension.length else extension = [] := by
  cases isPresent with
  | false =>
    cases h
    exact ⟨[], rfl, rfl⟩
  | true =>
    obtain ⟨length, rest', hRead, h⟩ := Proc.bind_eq_ok h
    obtain ⟨hRead, _⟩ := readBytes_eq_ok hRead
    rw [Proc.read_bind] at h
    obtain ⟨_, h⟩ := Proc.verify_bind_eq_ok h
    cases h
    refine ⟨LittleEndian.encode 2 length ++ rest'.take length, ?_, by simp⟩
    rw [hRead, List.append_assoc, List.take_append_drop]

structure Accepted (header : PacketHeader) : Prop where
  flags : header.FlagsMatch
  version : (header.mMsgFlags &&& 0xF0) >>> 4 = msgHeaderVersion
  valid : header.isSessionTypeValid
  oneDestination : ¬(header.mDestinationNodeId.isSome ∧ header.mDestinationGroupId.isSome)

theorem decodeAndConsume_eq_ok (h : decodeAndConsume bytes = (.ok header, rest)) :
  header.Accepted ∧ ∃ extension, bytes = header.fields ++ (extension ++ rest) ∧
    if header.hasSecFlag .msgExtensionFlag then 2 ≤ extension.length else extension = [] := by
  rw [decodeAndConsume] at h
  obtain ⟨fixed, rest₁, hFixed, h⟩ := bind_eq_ok h
  obtain ⟨messageCounter, rest₂, hCounter, h⟩ := bind_eq_ok h
  obtain ⟨sourceNodeId, rest₃, hSource, h⟩ := bind_eq_ok h
  obtain ⟨hValid, h⟩ := verify_bind_eq_ok h
  obtain ⟨⟨node, group⟩, rest₄, hDestination, h⟩ := bind_eq_ok h
  obtain ⟨_, rest₅, hExtension, h⟩ := bind_eq_ok h
  obtain ⟨hVersion, hFixed⟩ := decodeFixedCommon_eq_ok hFixed
  obtain ⟨hCounter, hCounterLt⟩ := readBytes_eq_ok hCounter
  obtain ⟨hHasSource, hSource⟩ := decodeSourceNodeId_eq_ok hSource
  obtain ⟨hHasNode, hHasGroup, hOne, hDestination⟩ := decodeDestination_eq_ok hDestination
  obtain ⟨extension, hBlock, hPresent⟩ := skipExtension_eq_ok hExtension
  cases h
  refine ⟨⟨⟨hHasSource, hHasNode, hHasGroup⟩, hVersion, hValid, hOne⟩, extension, ?_, hPresent⟩
  simp only [fields, List.append_assoc, UInt32.toNat_ofNat_of_lt' hCounterLt]
  rw [hFixed, hCounter, hSource, hDestination, hBlock]
  rfl

end PacketHeader

end Chip.Transport
