import Chip.Transport.HeaderEncoding

/-! Headers that are built by their setters, encoded and decoded again. The session type of a
packet header is kept twice, and one of its setters changes only one of the two. -/
namespace Chip.Transport

open SecFlagValues MsgFlagValues

inductive PacketHeaderCall where
  | setSessionId (id : UInt16)
  | setSessionType (type : SessionType)
  | setUnsecured
  | setMessageCounter (id : UInt32)
  | setSourceNodeId (id : Option UInt64)
  | clearSourceNodeId
  | setDestinationNodeId (id : Option UInt64)
  | clearDestinationNodeId
  | setDestinationGroupId (id : Option UInt16)
  | clearDestinationGroupId
  | setSecureSessionControlMsg (value : Bool)
  deriving DecidableEq

namespace PacketHeaderCall

def run (header : PacketHeader) : PacketHeaderCall → PacketHeader
  | setSessionId id => header.setSessionId id
  | setSessionType type => header.setSessionType type
  | setUnsecured => header.setUnsecured
  | setMessageCounter id => header.setMessageCounter id
  | setSourceNodeId id => header.setSourceNodeId id
  | clearSourceNodeId => header.clearSourceNodeId
  | setDestinationNodeId id => header.setDestinationNodeId id
  | clearDestinationNodeId => header.clearDestinationNodeId
  | setDestinationGroupId id => header.setDestinationGroupId id
  | clearDestinationGroupId => header.clearDestinationGroupId
  | setSecureSessionControlMsg value => header.setSecureSessionControlMsg value

def sessionType? : PacketHeaderCall → Option SessionType
  | setSessionType type => some type
  | _ => none

end PacketHeaderCall

def buildPacketHeader (calls : List PacketHeaderCall) : PacketHeader :=
  calls.foldl PacketHeaderCall.run .empty

def lastSessionType (calls : List PacketHeaderCall) : Option SessionType :=
  calls.reverse.findSome? PacketHeaderCall.sessionType?

def callsSinceSessionType (calls : List PacketHeaderCall) : List PacketHeaderCall :=
  calls.reverse.takeWhile fun call => call.sessionType?.isNone

/-- The header of a group session is made unsecured, and its session type is not set again. -/
def UnsecuresGroup (calls : List PacketHeaderCall) : Prop :=
  lastSessionType calls = some .group ∧ .setUnsecured ∈ callsSinceSessionType calls

namespace PacketHeader

structure Built (header : PacketHeader) : Prop where
  flags : header.FlagsMatch
  reserved : header.mMsgFlags &&& ~~~msgFlagsMask = 0
  valid : header.isSessionTypeValid
  plain : header.hasSecFlag .msgExtensionFlag = false

variable {header : PacketHeader}

theorem hasMsgFlag_setMsgFlag (header : PacketHeader) (flag other : MsgFlagValues) (isSet : Bool) :
  (header.setMsgFlag flag isSet).hasMsgFlag other =
    if other = flag then isSet else header.hasMsgFlag other :=
  setFlag_msgFlag header.mMsgFlags flag other isSet

theorem setFlag_control (flags : UInt8) (isSet : Bool) :
  setFlag flags controlMsgFlag.bit isSet &&& sessionTypeMask =
      flags &&& sessionTypeMask ∧
    setFlag flags controlMsgFlag.bit isSet &&& msgExtensionFlag.bit =
      flags &&& msgExtensionFlag.bit := by
  revert flags isSet
  decide +kernel

theorem setSessionType_bits (flags : UInt8) (type : SessionType) :
  (flags &&& ~~~sessionTypeMask ||| type.value &&& sessionTypeMask) &&& sessionTypeMask =
      type.value ∧
    (flags &&& ~~~sessionTypeMask ||| type.value &&& sessionTypeMask) &&&
        msgExtensionFlag.bit =
      flags &&& msgExtensionFlag.bit := by
  revert flags
  cases type <;> decide +kernel

theorem Built.setMsgFlag {changed : PacketHeader} (h : header.Built) (flag : MsgFlagValues)
  (isSet : Bool) (hChanged : changed = { header with
    mSourceNodeId := changed.mSourceNodeId
    mDestinationNodeId := changed.mDestinationNodeId
    mDestinationGroupId := changed.mDestinationGroupId })
  (hSource : changed.mSourceNodeId.isSome =
    if sourceNodeIdPresent = flag then isSet else header.mSourceNodeId.isSome)
  (hNode : changed.mDestinationNodeId.isSome =
    if destinationNodeIdPresent = flag then isSet else header.mDestinationNodeId.isSome)
  (hGroup : changed.mDestinationGroupId.isSome =
    if destinationGroupIdPresent = flag then isSet
    else header.mDestinationGroupId.isSome) :
  (changed.setMsgFlag flag isSet).Built := by
  have hFlags : changed.mMsgFlags = header.mMsgFlags := by rw [hChanged]
  have hHas : ∀ other, changed.hasMsgFlag other = header.hasMsgFlag other := fun other => by
    rw [hasMsgFlag, hFlags, hasMsgFlag]
  refine ⟨⟨?_, ?_, ?_⟩, ?_, ?_, ?_⟩
  · rw [hasSourceNodeId, hasMsgFlag_setMsgFlag, hHas]
    exact (congrArg (fun old => if sourceNodeIdPresent = flag then isSet else old)
      h.flags.source).trans hSource.symm
  · rw [hasDestinationNodeId, hasMsgFlag_setMsgFlag, hHas]
    exact (congrArg (fun old => if destinationNodeIdPresent = flag then isSet else old)
      h.flags.destinationNode).trans hNode.symm
  · rw [hasDestinationGroupId, hasMsgFlag_setMsgFlag, hHas]
    exact (congrArg (fun old => if destinationGroupIdPresent = flag then isSet else old)
      h.flags.destinationGroup).trans hGroup.symm
  · exact (setFlag_reserved ..).trans (hFlags ▸ h.reserved)
  · have hValid := h.valid
    rw [hChanged]
    exact hValid
  · have hPlain := h.plain
    rw [hChanged]
    exact hPlain

theorem built_empty : PacketHeader.empty.Built :=
  ⟨⟨rfl, rfl, rfl⟩, rfl, rfl, rfl⟩

theorem Built.run (h : header.Built) (call : PacketHeaderCall) : (call.run header).Built := by
  cases call with
  | setSessionId id => exact ⟨⟨h.flags.source, h.flags.destinationNode, h.flags.destinationGroup⟩,
      h.reserved, h.valid, h.plain⟩
  | setMessageCounter id => exact ⟨⟨h.flags.source, h.flags.destinationNode,
      h.flags.destinationGroup⟩, h.reserved, h.valid, h.plain⟩
  | setUnsecured => exact ⟨⟨h.flags.source, h.flags.destinationNode, h.flags.destinationGroup⟩,
      h.reserved, rfl, h.plain⟩
  | setSessionType type =>
    refine ⟨⟨h.flags.source, h.flags.destinationNode, h.flags.destinationGroup⟩, h.reserved, ?_, ?_⟩
    · cases type <;> rfl
    · have hBits := (setSessionType_bits header.mSecFlags type).2
      have hPlain := h.plain
      simp only [hasSecFlag, PacketHeaderCall.run, PacketHeader.setSessionType, hBits] at hPlain ⊢
      exact hPlain
  | setSecureSessionControlMsg value =>
    refine ⟨⟨h.flags.source, h.flags.destinationNode, h.flags.destinationGroup⟩, h.reserved,
      h.valid, ?_⟩
    have hBits := (setFlag_control header.mSecFlags value).2
    have hPlain := h.plain
    simp only [hasSecFlag, PacketHeaderCall.run, PacketHeader.setSecureSessionControlMsg,
      hBits] at hPlain ⊢
    exact hPlain
  | setSourceNodeId id => exact h.setMsgFlag .sourceNodeIdPresent id.isSome rfl rfl rfl rfl
  | clearSourceNodeId => exact h.setMsgFlag .sourceNodeIdPresent false rfl rfl rfl rfl
  | setDestinationNodeId id => exact h.setMsgFlag .destinationNodeIdPresent id.isSome rfl rfl rfl rfl
  | clearDestinationNodeId => exact h.setMsgFlag .destinationNodeIdPresent false rfl rfl rfl rfl
  | setDestinationGroupId id => exact h.setMsgFlag .destinationGroupIdPresent id.isSome rfl rfl rfl rfl
  | clearDestinationGroupId => exact h.setMsgFlag .destinationGroupIdPresent false rfl rfl rfl rfl

section

variable (calls : List PacketHeaderCall)

theorem built_calls : (buildPacketHeader calls).Built := by
  induction calls using List.reverseRecOn with
  | nil => exact built_empty
  | append_singleton calls call ih =>
    rw [buildPacketHeader, List.foldl_append]
    exact ih.run call

theorem buildPacketHeader_append (call : PacketHeaderCall) :
  buildPacketHeader (calls ++ [call]) = call.run (buildPacketHeader calls) := by
  rw [buildPacketHeader, List.foldl_append]
  rfl

theorem lastSessionType_append (call : PacketHeaderCall) :
  lastSessionType (calls ++ [call]) = call.sessionType?.or (lastSessionType calls) := by
  rw [lastSessionType, List.reverse_append]
  cases hType : call.sessionType? with
  | none => simp [lastSessionType, hType]
  | some type => simp [hType]

theorem callsSinceSessionType_append (call : PacketHeaderCall) :
  callsSinceSessionType (calls ++ [call]) =
    if call.sessionType?.isNone then call :: callsSinceSessionType calls else [] := by
  rw [callsSinceSessionType, List.reverse_append]
  exact List.takeWhile_cons

theorem typeBits_calls :
  (buildPacketHeader calls).mSecFlags &&& sessionTypeMask =
    ((lastSessionType calls).getD .unicast).value := by
  induction calls using List.reverseRecOn with
  | nil => rfl
  | append_singleton calls call ih =>
    rw [buildPacketHeader_append, lastSessionType_append]
    cases call with
    | setSessionType type => exact (setSessionType_bits ..).1
    | setSecureSessionControlMsg value => exact (setFlag_control ..).1.trans ih
    | _ => exact ih

theorem sessionType_calls :
  (buildPacketHeader calls).mSessionType =
    if .setUnsecured ∈ callsSinceSessionType calls then unicastSession
    else ((lastSessionType calls).getD .unicast).value := by
  induction calls using List.reverseRecOn with
  | nil => rfl
  | append_singleton calls call ih =>
    rw [buildPacketHeader_append, lastSessionType_append, callsSinceSessionType_append]
    cases call with
    | setSessionType type => rfl
    | setUnsecured => simp [PacketHeaderCall.run, setUnsecured, PacketHeaderCall.sessionType?]
    | _ =>
      simp only [PacketHeaderCall.sessionType?, Option.isNone_none, if_true, List.mem_cons,
        reduceCtorEq, false_or, Option.none_or]
      exact ih

theorem sessionType_eq_iff :
  (buildPacketHeader calls).mSecFlags &&& sessionTypeMask =
    (buildPacketHeader calls).mSessionType ↔ ¬UnsecuresGroup calls := by
  rw [typeBits_calls, sessionType_calls, UnsecuresGroup]
  by_cases hUnsecured : .setUnsecured ∈ callsSinceSessionType calls
  · simp only [hUnsecured, if_true, and_true]
    cases lastSessionType calls with
    | none => simp [SessionType.value]
    | some type => cases type <;> simp [SessionType.value, groupSession, unicastSession]
  · simp [hUnsecured]

end

theorem and_msgFlagsMask_of_reserved {flags : UInt8} (h : flags &&& ~~~msgFlagsMask = 0) :
  flags &&& msgFlagsMask = flags ∧ (flags &&& 0xF0) >>> 4 = msgHeaderVersion := by
  revert flags
  decide +kernel

theorem Built.encode {size : Nat} {bytes : Bytes} (h : header.Built)
  (hEncode : header.encode size = .ok bytes) :
  bytes = header.fields ∧
    ¬(header.mDestinationNodeId.isSome ∧ header.mDestinationGroupId.isSome) := by
  have hFlags : header.withEncodedFlags = header := by
    rw [h.flags.withEncodedFlags, (and_msgFlagsMask_of_reserved h.reserved).1]
  rw [encode_eq, hFlags] at hEncode
  split_ifs at hEncode with hSize hBoth hValid
  exact ⟨(Except.ok.inj hEncode).symm, hBoth⟩

theorem decode_built {calls : List PacketHeaderCall} {size : Nat} {bytes : Bytes} (rest : Bytes)
  (hGroup : (buildPacketHeader calls).mDestinationGroupId.isSome →
    (buildPacketHeader calls).isGroupSession)
  (hEncode : (buildPacketHeader calls).encode size = .ok bytes) :
  decodeAndConsume (bytes ++ rest) =
    (.ok { buildPacketHeader calls with
      mSessionType := (buildPacketHeader calls).mSecFlags &&& sessionTypeMask }, rest) := by
  have hBuilt := built_calls calls
  obtain ⟨rfl, hOne⟩ := hBuilt.encode hEncode
  apply decodeAndConsume_fields rest hBuilt.flags (and_msgFlagsMask_of_reserved hBuilt.reserved).2
    hOne _ _ hBuilt.plain
  · rw [typeBits_calls]
    cases (lastSessionType calls).getD .unicast <;> rfl
  · intro hIs
    have hSession : (buildPacketHeader calls).mSessionType = groupSession :=
      of_decide_eq_true (hGroup hIs)
    have hNot : ¬UnsecuresGroup calls := by
      rintro ⟨_, hUnsecured⟩
      rw [sessionType_calls, if_pos hUnsecured] at hSession
      exact absurd hSession (by decide)
    exact ((sessionType_eq_iff calls).mpr hNot).trans hSession

end PacketHeader

namespace PayloadHeader

/-- A header as its constructor leaves it: `Protocols::NotSpecified` has a vendor. -/
def empty : PayloadHeader :=
  ⟨setFlag 0 ExFlagValues.vendorIdPresent.bit true, 0, 0, 0xFFFF, 0xFFFF, none⟩

/-- `VendorId::Common`. -/
def commonVendor : UInt16 := 0

def setMessageType (vendor protocol : UInt16) (type : UInt8) (header : PayloadHeader) :
  PayloadHeader :=
  { header with
    mExchangeFlags := setFlag header.mExchangeFlags ExFlagValues.vendorIdPresent.bit
      (vendor ≠ commonVendor)
    mVendorId := vendor
    mProtocolID := protocol
    mMessageType := type }

def setExchangeID (id : UInt16) (header : PayloadHeader) : PayloadHeader :=
  { header with mExchangeID := id }

def setInitiator (inInitiator : Bool) (header : PayloadHeader) : PayloadHeader :=
  { header with
    mExchangeFlags := setFlag header.mExchangeFlags ExFlagValues.initiator.bit inInitiator }

def setAckMessageCounter (id : Option UInt32) (header : PayloadHeader) : PayloadHeader :=
  { header with
    mAckMessageCounter := id
    mExchangeFlags := setFlag header.mExchangeFlags ExFlagValues.ackMsg.bit id.isSome }

def setNeedsAck (inNeedsAck : Bool) (header : PayloadHeader) : PayloadHeader :=
  { header with
    mExchangeFlags := setFlag header.mExchangeFlags ExFlagValues.needsAck.bit inNeedsAck }

def haveVendorId (header : PayloadHeader) : Bool := hasFlag header.mExchangeFlags .vendorIdPresent

def encodeSizeBytes (header : PayloadHeader) : Nat :=
  6 + (if header.haveVendorId then 2 else 0) + (if header.mAckMessageCounter.isSome then 4 else 0)

def fields (header : PayloadHeader) : Bytes :=
  LittleEndian.encode 1 header.mExchangeFlags.toNat ++
    (LittleEndian.encode 1 header.mMessageType.toNat ++
      (LittleEndian.encode 2 header.mExchangeID.toNat ++
        (optional 2 (if header.haveVendorId then some header.mVendorId.toNat else none) ++
          (LittleEndian.encode 2 header.mProtocolID.toNat ++
            optional 4 (header.mAckMessageCounter.map UInt32.toNat)))))

/-- `PayloadHeader::Encode` into a buffer of a size. -/
def encode (header : PayloadHeader) (size : Nat) : Except ChipError Bytes :=
  if ¬header.encodeSizeBytes ≤ size then .error .invalidArgument
  else if header.fields.length ≠ header.encodeSizeBytes then .error .internal
  else .ok header.fields

end PayloadHeader

inductive PayloadHeaderCall where
  | setMessageType (vendor protocol : UInt16) (type : UInt8)
  | setExchangeID (id : UInt16)
  | setInitiator (inInitiator : Bool)
  | setAckMessageCounter (id : Option UInt32)
  | setNeedsAck (inNeedsAck : Bool)

def PayloadHeaderCall.run (header : PayloadHeader) : PayloadHeaderCall → PayloadHeader
  | setMessageType vendor protocol type => header.setMessageType vendor protocol type
  | setExchangeID id => header.setExchangeID id
  | setInitiator inInitiator => header.setInitiator inInitiator
  | setAckMessageCounter id => header.setAckMessageCounter id
  | setNeedsAck inNeedsAck => header.setNeedsAck inNeedsAck

def buildPayloadHeader (calls : List PayloadHeaderCall) : PayloadHeader :=
  calls.foldl PayloadHeaderCall.run .empty

namespace PayloadHeader

structure Built (header : PayloadHeader) : Prop where
  vendor : header.haveVendorId = decide (header.mVendorId ≠ commonVendor)
  ack : hasFlag header.mExchangeFlags .ackMsg = header.mAckMessageCounter.isSome
  plain : hasFlag header.mExchangeFlags .securedExtension = false

variable {header : PayloadHeader}

theorem hasFlag_setFlag (flags : UInt8) (flag other : ExFlagValues) (isSet : Bool) :
  hasFlag (setFlag flags flag.bit isSet) other =
    if other = flag then isSet else hasFlag flags other := by
  revert flags isSet
  cases flag <;> cases other <;> decide +kernel

theorem Built.run (h : header.Built) (call : PayloadHeaderCall) : (call.run header).Built := by
  obtain ⟨hVendor, hAck, hPlain⟩ := h
  cases call with
  | setExchangeID id => exact ⟨hVendor, hAck, hPlain⟩
  | setMessageType vendor protocol type =>
    exact ⟨hasFlag_setFlag .., (hasFlag_setFlag ..).trans hAck, (hasFlag_setFlag ..).trans hPlain⟩
  | setInitiator inInitiator =>
    exact ⟨(hasFlag_setFlag ..).trans hVendor, (hasFlag_setFlag ..).trans hAck,
      (hasFlag_setFlag ..).trans hPlain⟩
  | setAckMessageCounter id =>
    exact ⟨(hasFlag_setFlag ..).trans hVendor, hasFlag_setFlag .., (hasFlag_setFlag ..).trans hPlain⟩
  | setNeedsAck inNeedsAck =>
    exact ⟨(hasFlag_setFlag ..).trans hVendor, (hasFlag_setFlag ..).trans hAck,
      (hasFlag_setFlag ..).trans hPlain⟩

theorem built_calls (calls : List PayloadHeaderCall) : (buildPayloadHeader calls).Built := by
  induction calls using List.reverseRecOn with
  | nil => exact ⟨rfl, rfl, rfl⟩
  | append_singleton calls call ih =>
    rw [buildPayloadHeader, List.foldl_append]
    exact ih.run call

def decodeAfterVendor (flags messageType : UInt8) (exchangeID : UInt16) (vendorId : Nat) :
  Proc ChipError Bytes PayloadHeader := do
  let protocolID ← readBytes 2
  let ackMessageCounter ← if hasFlag flags .ackMsg then some <$> readBytes 4 else pure none
  skipExtension (hasFlag flags .securedExtension)
  pure ⟨flags, messageType, exchangeID, UInt16.ofNat vendorId, UInt16.ofNat protocolID,
    ackMessageCounter.map UInt32.ofNat⟩

theorem Built.decodeAfterVendor (h : header.Built) (rest : Bytes) {vendorId : Nat}
  (hVendor : UInt16.ofNat vendorId = header.mVendorId) :
  PayloadHeader.decodeAfterVendor header.mExchangeFlags header.mMessageType header.mExchangeID vendorId
      (LittleEndian.encode 2 header.mProtocolID.toNat ++
        (optional 4 (header.mAckMessageCounter.map UInt32.toNat) ++ rest)) = (.ok header, rest) := by
  have hProtocol : UInt16.ofNat (header.mProtocolID.toNat % 256 ^ 2) = header.mProtocolID := by simp
  have hSkip : skipExtension (hasFlag header.mExchangeFlags .securedExtension) rest = (.ok (), rest) := by
    rw [h.plain]
    rfl
  rw [PayloadHeader.decodeAfterVendor, readBytes_bind, hProtocol, h.ack, hVendor]
  cases hAck : header.mAckMessageCounter with
  | none =>
    refine (Proc.bind_ok hSkip).trans ?_
    exact congrArg (fun ack => (Except.ok { header with mAckMessageCounter := ack }, rest)) hAck.symm
  | some counter =>
    have hCounter : UInt32.ofNat (counter.toNat % 256 ^ 4) = counter := by simp
    refine Eq.trans (Proc.bind_ok (Proc.bind_ok (readBytes_encode 4 counter.toNat rest))) ?_
    refine (Proc.bind_ok hSkip).trans ?_
    exact congrArg (fun ack => (Except.ok { header with mAckMessageCounter := ack }, rest))
      ((congrArg some hCounter).trans hAck.symm)

theorem Built.decode {size : Nat} {bytes : Bytes} (h : header.Built) (rest : Bytes)
  (hEncode : header.encode size = .ok bytes) :
  bytes.length = header.encodeSizeBytes ∧
    decodeAndConsume (bytes ++ rest) = (.ok header, rest) := by
  rw [PayloadHeader.encode] at hEncode
  split_ifs at hEncode with hSize hLength
  obtain rfl := Except.ok.inj hEncode
  refine ⟨not_not.mp hLength, ?_⟩
  have hFlags : UInt8.ofNat (header.mExchangeFlags.toNat % 256 ^ 1) = header.mExchangeFlags := by simp
  have hType : UInt8.ofNat (header.mMessageType.toNat % 256 ^ 1) = header.mMessageType := by simp
  have hExchange : UInt16.ofNat (header.mExchangeID.toNat % 256 ^ 2) = header.mExchangeID := by simp
  simp only [fields, List.append_assoc]
  rw [decodeAndConsume, readBytes_bind, hFlags, readBytes_bind, hType, readBytes_bind, hExchange]
  change (if header.haveVendorId = true then
      readBytes 2 >>= PayloadHeader.decodeAfterVendor header.mExchangeFlags header.mMessageType
        header.mExchangeID
    else PayloadHeader.decodeAfterVendor header.mExchangeFlags header.mMessageType
      header.mExchangeID 0) _ = _
  cases hVendor : header.haveVendorId with
  | true =>
    refine (readBytes_bind 2 _ _ _).trans ?_
    exact h.decodeAfterVendor rest (by simp)
  | false =>
    have hCommon : header.mVendorId = commonVendor := by
      simpa [hVendor] using h.vendor
    exact h.decodeAfterVendor rest hCommon.symm

end PayloadHeader

open PacketHeader in
/-- Headers that setters have built come back from their bytes, whatever follows these, with all
of their fields, exactly if no group session was made unsecured for good. -/
theorem message_headers_round_trip_iff {packetCalls : List PacketHeaderCall}
    {payloadCalls : List PayloadHeaderCall} {size payloadSize : Nat} {bytes payloadBytes : Bytes}
    (rest : Bytes)
    (hGroup : (buildPacketHeader packetCalls).mDestinationGroupId.isSome →
      (buildPacketHeader packetCalls).isGroupSession)
    (hEncode : (buildPacketHeader packetCalls).encode size = .ok bytes)
    (hPayload : (buildPayloadHeader payloadCalls).encode payloadSize = .ok payloadBytes) :
    (bytes.length = (buildPacketHeader packetCalls).encodeSizeBytes ∧
        decodeAndConsume (bytes ++ rest) = (.ok (buildPacketHeader packetCalls), rest) ∧
      payloadBytes.length = (buildPayloadHeader payloadCalls).encodeSizeBytes ∧
        PayloadHeader.decodeAndConsume (payloadBytes ++ rest) =
          (.ok (buildPayloadHeader payloadCalls), rest)) ↔
      ¬UnsecuresGroup packetCalls := by
  obtain ⟨hPayloadLength, hPayloadDecode⟩ :=
    (PayloadHeader.built_calls payloadCalls).decode rest hPayload
  have hLength : bytes.length = (buildPacketHeader packetCalls).encodeSizeBytes := by
    rw [((built_calls packetCalls).encode hEncode).1]
    exact fields_length _
  rw [← sessionType_eq_iff, decode_built rest hGroup hEncode]
  constructor
  · rintro ⟨_, hDecode, _⟩
    exact congrArg mSessionType (Except.ok.inj (Prod.mk.inj hDecode).1)
  · intro hType
    refine ⟨hLength, ?_, hPayloadLength, hPayloadDecode⟩
    rw [hType]

/-- A header that is made unsecured says unicast, and is received as one of a group session. -/
theorem unsecured_header_comes_back_as_group :
    (buildPacketHeader [.setSessionType .group, .setUnsecured]).isUnicastSession = true ∧
      ∃ bytes, (buildPacketHeader [.setSessionType .group, .setUnsecured]).encode 8 = .ok bytes ∧
        ∃ decoded, PacketHeader.decodeAndConsume bytes = (.ok decoded, []) ∧
          decoded.isUnicastSession = false :=
  ⟨rfl, _, rfl, _, rfl, rfl⟩

def groupMessageCalls : List PacketHeaderCall :=
  [.setSessionId 7, .setSessionType .group, .setMessageCounter 5, .setSourceNodeId (some 1),
    .setDestinationGroupId (some 2)]

def acknowledgementCalls : List PayloadHeaderCall :=
  [.setMessageType 0 1 8, .setExchangeID 3, .setAckMessageCounter (some 9)]

theorem message_headers_round_trip_group :
    ∃ bytes payloadBytes, (buildPacketHeader groupMessageCalls).encode 18 = .ok bytes ∧
      (buildPayloadHeader acknowledgementCalls).encode 10 = .ok payloadBytes ∧
      bytes.length = (buildPacketHeader groupMessageCalls).encodeSizeBytes ∧
      PacketHeader.decodeAndConsume (bytes ++ [0xAA]) =
        (.ok (buildPacketHeader groupMessageCalls), [0xAA]) ∧
      payloadBytes.length = (buildPayloadHeader acknowledgementCalls).encodeSizeBytes ∧
      PayloadHeader.decodeAndConsume (payloadBytes ++ [0xAA]) =
        (.ok (buildPayloadHeader acknowledgementCalls), [0xAA]) := by
  have hType : ¬UnsecuresGroup groupMessageCalls := by
    unfold UnsecuresGroup
    decide
  have hPacket : (buildPacketHeader groupMessageCalls).encode 18 =
      .ok (buildPacketHeader groupMessageCalls).fields := rfl
  have hPayload : (buildPayloadHeader acknowledgementCalls).encode 10 =
      .ok (buildPayloadHeader acknowledgementCalls).fields := rfl
  exact ⟨_, _, hPacket, hPayload,
    (message_headers_round_trip_iff [0xAA] (fun _ => rfl) hPacket hPayload).mpr hType⟩

end Chip.Transport
