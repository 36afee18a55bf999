import Chip.Transport.GroupPeerTable
import Chip.Transport.MessageHeader

/-! The dispatch of a received group message (`SecureGroupMessageDispatch` of
`SessionManager.cpp`). The group data provider lends an iterator over the sessions that may
have sealed the message; the message is opened with each of them in turn on a copy. -/
namespace Chip.Transport

inductive SecurityPolicy where
  | trustFirst
  | cacheAndSync
  deriving DecidableEq

/-- What the iterator fills in for one session, the key context apart. -/
structure GroupSession where
  groupId : UInt16
  fabricIndex : UInt8
  securityPolicy : SecurityPolicy

/-- The cryptography under the key of a session: the deobfuscation of the privacy header and
the opening of a message, with the authentication code. Both may fail. -/
structure GroupCrypto where
  privacyDecrypt : GroupSession → PacketHeader → Bytes → Bytes → Option Bytes
  decrypt : GroupSession → PacketHeader → Bytes → Bytes → Option Bytes

/-- What a call of the dispatch finds: the message, the group data provider if there is one and
whether it is initialized, the sessions that its iterator returns, and the copies of the message
that cannot be made, by the order in which they are asked for. -/
structure Datagram where
  bytes : Bytes
  groups : Option Bool
  sessions : List GroupSession
  cloneFails : Nat → Bool
  crypto : GroupCrypto

/-- The build: `kIteratorsMax` and `CHIP_CONFIG_PRIVACY_ACCEPT_NONSPEC_SVE2`; and whether there
is a delegate for the messages. -/
structure DispatchConfig where
  iteratorsMax : Nat
  privacyAcceptNonspecSVE2 : Bool
  hasDelegate : Bool

structure OpenedMessage where
  session : GroupSession
  packetHeader : PacketHeader
  payloadHeader : PayloadHeader
  payload : Bytes

/-- The objects in use in the pool of group session iterators, the counters of the senders and
what the delegate has been handed. -/
structure DispatchState (windowSize : Nat) where
  liveIterators : Nat
  mGroupPeerMsgCounter : GroupPeerTable windowSize
  delivered : List OpenedMessage

inductive DispatchExit where
  | headerNotDecoded
  | otherDispatch
  | noGroupDataProvider
  | noDestinationGroup
  | invalidHeader
  | noIterator
  | shorterThanFooter
  | macNotDecoded
  | cloneFailed
  | notDecrypted
  | controlMessage
  | ackRequested
  | noCounter
  | cacheAndSync
  | counterRejected
  | stopped
  deriving DecidableEq

abbrev Dispatch (windowSize : Nat) := Proc DispatchExit (DispatchState windowSize)

variable {windowSize : Nat}

def macOf (header : PacketHeader) (bytes : Bytes) : Bytes :=
  bytes.drop (bytes.length - header.micTagLength)

/-- `MessageAuthenticationCode::Decode` from so many bytes. -/
def macDecode (header : PacketHeader) (size : Nat) : Option Nat :=
  if header.micTagLength ≠ 0 ∧ header.micTagLength ≤ size then some header.micTagLength else none

def deobfuscate (crypto : GroupCrypto) (session : GroupSession) (header : PacketHeader)
  (mac bytes : Bytes) : Option Bytes := do
  let privacyHeader := (bytes.drop privacyHeaderOffset).take header.privacyHeaderLength
  let clear ← crypto.privacyDecrypt session header mac privacyHeader
  pure (bytes.take privacyHeaderOffset ++ clear ++
    bytes.drop (privacyHeaderOffset + header.privacyHeaderLength))

/-- `SecureMessageCodec::Decrypt`. -/
def codecDecrypt (crypto : GroupCrypto) (session : GroupSession) (header : PacketHeader)
  (bytes : Bytes) : Option (PayloadHeader × Bytes) := do
  guard (header.micTagLength ≤ bytes.length)
  let taglen ← macDecode header header.micTagLength
  guard (taglen = header.micTagLength)
  let plainText ← crypto.decrypt session header (macOf header bytes)
    (bytes.take (bytes.length - taglen))
  match PayloadHeader.decodeAndConsume plainText with
  | (.ok payloadHeader, payload) => some (payloadHeader, payload)
  | (.error _, _) => none

def groupKeyDecryptAttempt (crypto : GroupCrypto) (partialPacketHeader : PacketHeader)
  (applyPrivacy : Bool) (mac msgCopy : Bytes) (session : GroupSession) :
  Option OpenedMessage := do
  let message ← if applyPrivacy then
      deobfuscate crypto session partialPacketHeader mac msgCopy
    else some msgCopy
  match PacketHeader.decodeAndConsume message with
  | (.error _, _) => none
  | (.ok packetHeader, sealed) =>
    guard (packetHeader.mDestinationGroupId = some session.groupId)
    let (payloadHeader, payload) ← codecDecrypt crypto session packetHeader sealed
    pure ⟨session, packetHeader, payloadHeader, payload⟩

def retriesWithoutPrivacy (config : DispatchConfig) (header : PacketHeader) : Bool :=
  header.hasPrivacyFlag && config.privacyAcceptNonspecSVE2

/-- The loop over the sessions. `clones` copies have been asked for. -/
def trialDecryption (config : DispatchConfig) (datagram : Datagram) (header : PacketHeader) :
  List GroupSession → Nat → Dispatch windowSize (Option OpenedMessage)
  | [], _ => pure none
  | session :: rest, clones => do
      let mac := macOf header datagram.bytes
      let attempt := fun privacy =>
        groupKeyDecryptAttempt datagram.crypto header privacy mac datagram.bytes session
      Proc.verify (datagram.cloneFails clones = false) .cloneFailed
      match attempt header.hasPrivacyFlag with
      | some opened => pure (some opened)
      | none =>
        if retriesWithoutPrivacy config header then do
          Proc.verify (datagram.cloneFails (clones + 1) = false) .cloneFailed
          match attempt false with
          | some opened => pure (some opened)
          | none => trialDecryption config datagram header rest (clones + 2)
        else trialDecryption config datagram header rest (clones + 1)

/-- `IterateGroupSessions`: an object of the pool, if the provider is initialized and one is
free. -/
def iterateGroupSessions (config : DispatchConfig) (isInitialized : Bool) :
  Dispatch windowSize Unit := do
  Proc.verify (isInitialized = true) .noIterator
  let state ← Proc.read
  Proc.verify (state.liveIterators < config.iteratorsMax) .noIterator
  Proc.modify fun state => { state with liveIterators := state.liveIterators + 1 }

/-- `GroupSessionIteratorImpl::Release`. -/
def releaseIterator : Dispatch windowSize Unit :=
  Proc.modify fun state => { state with liveIterators := state.liveIterators - 1 }

/-- The search for the session that opens the message, from the first use of the iterator to
its release. -/
def searchSessions (config : DispatchConfig) (datagram : Datagram) (header : PacketHeader) :
  Dispatch windowSize (Option OpenedMessage) := do
  let footerLen := header.micTagLength
  Proc.verify (footerLen ≤ datagram.bytes.length) .shorterThanFooter
  let taglen := macDecode header footerLen
  Proc.verify (taglen.isSome = true) .macNotDecoded
  Proc.verify (taglen = some footerLen) .macNotDecoded
  let opened ← trialDecryption config datagram header datagram.sessions 0
  releaseIterator
  pure opened

def setGroupPeers (table : GroupPeerTable windowSize) : Dispatch windowSize Unit :=
  Proc.modify fun state => { state with mGroupPeerMsgCounter := table }

def verifyGroupCounter (opened : OpenedMessage) : Dispatch windowSize Unit := do
  let header := opened.packetHeader
  let isControl := header.isSecureSessionControlMsg
  let state ← Proc.read
  let (found, table) := findOrAddPeer opened.session.fabricIndex (header.mSourceNodeId.getD 0)
    isControl state.mGroupPeerMsgCounter
  setGroupPeers table
  match found with
  | .error _ => Proc.fail .noCounter
  | .ok place => do
      Proc.verify (opened.session.securityPolicy = .trustFirst) .cacheAndSync
      match (counterAt table isControl place).verifyOrTrustFirstGroup header.mMessageCounter with
      | none => Proc.fail .stopped
      | some (result, counter) => do
          setGroupPeers (setCounterAt table isControl place counter)
          Proc.verify (result = .ok ()) .counterRejected
          setGroupPeers (setCounterAt table isControl place
            (counter.commitWithRollover header.mMessageCounter))

def deliver (config : DispatchConfig) (opened : Option OpenedMessage) :
  Dispatch windowSize Unit :=
  match opened with
  | none => Proc.fail .notDecrypted
  | some opened => do
      Proc.verify (opened.packetHeader.isValidMCSPMsg = false) .controlMessage
      Proc.verify (opened.payloadHeader.needsAck = false) .ackRequested
      verifyGroupCounter opened
      if config.hasDelegate then
        Proc.modify fun state => { state with delivered := state.delivered ++ [opened] }
      else pure ()

def secureGroupMessageDispatch (config : DispatchConfig) (datagram : Datagram)
  (header : PacketHeader) : Dispatch windowSize Unit := do
  match datagram.groups with
  | none => Proc.fail .noGroupDataProvider
  | some isInitialized => do
      Proc.verify (header.hasDestinationGroupId = true) .noDestinationGroup
      Proc.verify ((header.isValidMCSPMsg || header.isValidGroupMsg) = true) .invalidHeader
      iterateGroupSessions config isInitialized
      let opened ← searchSessions config datagram header
      deliver config opened

/-- `SessionManager::OnMessageReceived`, as far as it leads to the dispatch of group
messages. -/
def onMessageReceived (config : DispatchConfig) (datagram : Datagram) :
  Dispatch windowSize Unit :=
  match PacketHeader.decodeFixed datagram.bytes with
  | .error _ => Proc.fail .headerNotDecoded
  | .ok header =>
    if header.isEncrypted && header.isGroupSession then
      secureGroupMessageDispatch config datagram header
    else Proc.fail .otherDispatch

def receiveAll (config : DispatchConfig) :
  List Datagram → DispatchState windowSize → DispatchState windowSize
  | [], state => state
  | datagram :: rest, state => receiveAll config rest (onMessageReceived config datagram state).2

end Chip.Transport
