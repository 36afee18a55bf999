import Chip.Bdx.BdxMessages

/-! A transfer of bulk data (`BdxTransferSession.cpp`), at the sender or at the receiver. The
application makes calls, hands over the messages that arrive, and polls for what there is to do. -/
namespace Chip.Bdx

open Chip.Transport (Bytes readBytes)

inductive TransferRole where
  | receiver
  | sender
  deriving DecidableEq

inductive TransferState where
  | unitialized
  | awaitingInitMsg
  | awaitingAccept
  | negotiateTransferParams
  | transferInProgress
  | awaitingEOFAck
  | receivedEOF
  | transferDone
  | errorState
  deriving DecidableEq

inductive OutputEventType where
  | none
  | msgToSend
  | initReceived
  | acceptReceived
  | blockReceived
  | queryReceived
  | queryWithSkipReceived
  | ackReceived
  | ackEOFReceived
  | statusReceived
  | internalError
  deriving DecidableEq

/-- The status codes that a session reports. A peer may report others. -/
inductive StatusCode where
  | lengthMismatch
  | badMessageContents
  | badBlockCounter
  | unexpectedMessage
  | transferMethodNotSupported
  | other (code : UInt16)
  deriving DecidableEq

def StatusCode.code : StatusCode → UInt16
  | lengthMismatch => 0x0014
  | badMessageContents => 0x0016
  | badBlockCounter => 0x0017
  | unexpectedMessage => 0x0018
  | transferMethodNotSupported => 0x0050
  | other code => code

inductive MsgType where
  | bdx (type : MessageType)
  | unknownBdx
  | statusReport
  | other
  deriving DecidableEq

structure Message where
  type : MsgType
  payload : Bytes

structure TransferInitData where
  transferCtlFlags : UInt8
  maxBlockSize : UInt16
  startOffset : UInt64
  length : UInt64
  /-- The length is a `uint16_t`. -/
  fileDesignator : Bytes
  metadata : Bytes

structure TransferAcceptData where
  controlMode : UInt8
  maxBlockSize : UInt16
  startOffset : UInt64
  length : UInt64
  metadata : Bytes

/-- A block that is handed to `PrepareBlock`. There may be no data at all. -/
structure BlockData where
  data : Option Bytes
  isEof : Bool

structure ReceivedBlock where
  data : Bytes
  isEof : Bool
  blockCounter : UInt32

structure TransferSession where
  mPendingOutput : OutputEventType
  mState : TransferState
  mRole : TransferRole
  mSuppportedXferOpts : UInt8
  mMaxSupportedBlockSize : UInt16
  mControlMode : UInt8
  mTransferVersion : UInt8
  mStartOffset : UInt64
  mTransferLength : UInt64
  mTransferMaxBlockSize : UInt16
  mPendingMsg : Bytes
  mStatusReportData : StatusCode
  mTransferRequestData : TransferInitData
  mTransferAcceptData : TransferAcceptData
  mBlockEventData : ReceivedBlock
  mMsgTypeData : MsgType
  mBytesToSkip : UInt64
  /-- `size_t`, of 64 bits. -/
  mNumBytesProcessed : UInt64
  mLastBlockNum : UInt32
  mNextBlockNum : UInt32
  mLastQueryNum : UInt32
  mNextQueryNum : UInt32
  mTimeout : UInt32
  mTimeoutStartTime : UInt64
  mShouldInitTimeoutStart : Bool
  mAwaitingResponse : Bool

/-- `kBdxVersion`. -/
def bdxVersion : UInt8 := 0

namespace TransferSession

open TransferControlFlags

/-- A session as its constructor or `Reset` leaves it. Neither of them sets the control mode. -/
def fresh (role : TransferRole) (controlMode : UInt8) : TransferSession where
  mPendingOutput := .none
  mState := .unitialized
  mRole := role
  mSuppportedXferOpts := 0
  mMaxSupportedBlockSize := 0
  mControlMode := controlMode
  mTransferVersion := 0
  mStartOffset := 0
  mTransferLength := 0
  mTransferMaxBlockSize := 0
  mPendingMsg := []
  mStatusReportData := .other 0x005F
  mTransferRequestData := ⟨0, 0, 0, 0, [], []⟩
  mTransferAcceptData := ⟨0, 0, 0, 0, []⟩
  mBlockEventData := ⟨[], false, 0⟩
  mMsgTypeData := .other
  mBytesToSkip := 0
  mNumBytesProcessed := 0
  mLastBlockNum := 0
  mNextBlockNum := 0
  mLastQueryNum := 0
  mNextQueryNum := 0
  mTimeout := 0
  mTimeoutStartTime := 0
  mShouldInitTimeoutStart := true
  mAwaitingResponse := false

inductive OutputEvent where
  | none
  | msgToSend (msg : Message)
  | initReceived (data : TransferInitData)
  | acceptReceived (data : TransferAcceptData)
  | blockReceived (block : ReceivedBlock)
  | queryReceived
  | queryWithSkipReceived (bytesToSkip : UInt64)
  | ackReceived
  | ackEOFReceived
  | statusReceived (code : StatusCode)
  | internalError (code : StatusCode)
  | transferTimeout

def pendingEvent (s : TransferSession) : OutputEvent :=
  match s.mPendingOutput with
  | .none => .none
  | .internalError => .internalError s.mStatusReportData
  | .statusReceived => .statusReceived s.mStatusReportData
  | .msgToSend => .msgToSend ⟨s.mMsgTypeData, s.mPendingMsg⟩
  | .initReceived => .initReceived s.mTransferRequestData
  | .acceptReceived => .acceptReceived s.mTransferAcceptData
  | .queryReceived => .queryReceived
  | .queryWithSkipReceived => .queryWithSkipReceived s.mBytesToSkip
  | .blockReceived => .blockReceived s.mBlockEventData
  | .ackReceived => .ackReceived
  | .ackEOFReceived => .ackEOFReceived

def startTime (s : TransferSession) (curTime : UInt64) : TransferSession :=
  if s.mShouldInitTimeoutStart then
    { s with mTimeoutStartTime := curTime, mShouldInitTimeoutStart := false }
  else s

def timedOut (s : TransferSession) (curTime : UInt64) : Bool :=
  s.mAwaitingResponse && s.mTimeout.toUInt64 ≤ curTime - s.mTimeoutStartTime

def pollOutput (s : TransferSession) (curTime : UInt64) : OutputEvent × TransferSession :=
  let s := s.startTime curTime
  if s.timedOut curTime then
    (.transferTimeout, { s with mState := .errorState, mAwaitingResponse := false })
  else
    let event :=
      if s.mPendingOutput = .none && s.mState = .errorState then
        .internalError s.mStatusReportData
      else s.pendingEvent
    (event, { s with
      mPendingOutput := .none
      mTimeoutStartTime :=
        if s.mPendingOutput = .msgToSend then curTime else s.mTimeoutStartTime })

/-- `WriteToPacketBuffer` into the pending message; memory may not be granted. -/
def writeToPacketBuffer (granted : Bool) (msg : Bytes) : Proc ChipError TransferSession Unit :=
  if granted then Proc.modify fun s => { s with mPendingMsg := msg } else Proc.fail .noMemory

def prepareOutgoingMessageEvent (type : MsgType) (s : TransferSession) : TransferSession :=
  { s with mPendingOutput := .msgToSend, mMsgTypeData := type }

/-- The report that `PrepareStatusReport` writes: a failure of the protocol with a code. -/
def statusReport (code : StatusCode) : Bytes :=
  LittleEndian.encode 2 1 ++ (LittleEndian.encode 4 2 ++ LittleEndian.encode 2 code.code.toNat)

def prepareStatusReport (granted : Bool) (code : StatusCode) (s : TransferSession) :
  TransferSession :=
  let reported :=
    if granted then
      { s with mPendingMsg := statusReport code }.prepareOutgoingMessageEvent .statusReport
    else { s with mPendingOutput := .internalError }
  { reported with
    mStatusReportData := code
    mState := .errorState
    mAwaitingResponse := false }

def startTransfer (granted : Bool) (role : TransferRole) (initData : TransferInitData)
  (timeout : UInt32) : Proc ChipError TransferSession Unit := do
  let s ← Proc.read
  Proc.verify (s.mState = .unitialized) .incorrectState
  Proc.modify fun s => { s with
    mRole := role
    mTimeout := timeout
    mSuppportedXferOpts := initData.transferCtlFlags
    mMaxSupportedBlockSize := initData.maxBlockSize
    mStartOffset := initData.startOffset
    mTransferLength := initData.length }
  writeToPacketBuffer granted (TransferInit.writeToBuffer {
    transferCtlOptions := initData.transferCtlFlags
    version := bdxVersion
    maxBlockSize := initData.maxBlockSize
    startOffset := initData.startOffset
    maxLength := initData.length
    fileDesignator := initData.fileDesignator
    metadata := initData.metadata })
  Proc.modify fun s => { s with mState := .awaitingAccept, mAwaitingResponse := true }
  Proc.modify (prepareOutgoingMessageEvent
    (.bdx (if role = .sender then .sendInit else .receiveInit)))

def waitForTransfer (role : TransferRole) (xferControlOpts : UInt8) (maxBlockSize : UInt16)
  (timeout : UInt32) : Proc ChipError TransferSession Unit := do
  let s ← Proc.read
  Proc.verify (s.mState = .unitialized) .incorrectState
  Proc.modify fun s => { s with
    mRole := role
    mTimeout := timeout
    mSuppportedXferOpts := xferControlOpts
    mMaxSupportedBlockSize := maxBlockSize
    mState := .awaitingInitMsg }

def resolveTransferControlOptions (granted : Bool) (proposed : UInt8) (s : TransferSession) :
  TransferSession :=
  let commonOpts := proposed &&& s.mSuppportedXferOpts
  if !has proposed (senderDrive ||| receiverDrive) then
    s.prepareStatusReport granted .transferMethodNotSupported
  else if commonOpts = 0 then s.prepareStatusReport granted .transferMethodNotSupported
  else if hasOnly commonOpts async then { s with mControlMode := async }
  else if hasOnly commonOpts receiverDrive then { s with mControlMode := receiverDrive }
  else if hasOnly commonOpts senderDrive then { s with mControlMode := senderDrive }
  else s

/-- The end of `HandleTransferInit`. It follows a failed resolution, too. -/
def initReceived (transferInit : TransferInit) (msg : Bytes) (s : TransferSession) :
  TransferSession :=
  { s with
    mTransferVersion := min bdxVersion transferInit.version
    mTransferMaxBlockSize := min s.mMaxSupportedBlockSize transferInit.maxBlockSize
    mStartOffset := transferInit.startOffset
    mTransferLength := transferInit.maxLength
    mTransferRequestData :=
      { transferCtlFlags := transferInit.transferCtlOptions
        maxBlockSize := transferInit.maxBlockSize
        startOffset := transferInit.startOffset
        length := transferInit.maxLength
        fileDesignator := transferInit.fileDesignator
        metadata := transferInit.metadata }
    mPendingMsg := msg
    mPendingOutput := .initReceived
    mState := .negotiateTransferParams }

def handleTransferInit (granted : Bool) (msgType : MessageType) (msg : Bytes)
  (s : TransferSession) : TransferSession :=
  if s.mState ≠ .awaitingInitMsg then s.prepareStatusReport granted .unexpectedMessage
  else if msgType ≠ (if s.mRole = .sender then .receiveInit else .sendInit) then
    s.prepareStatusReport granted .unexpectedMessage
  else
    match (TransferInit.parse msg).1 with
    | .error _ => s.prepareStatusReport granted .badMessageContents
    | .ok transferInit =>
      (s.resolveTransferControlOptions granted transferInit.transferCtlOptions).initReceived
        transferInit msg

def acceptTransfer (granted : Bool) (acceptData : TransferAcceptData) :
  Proc ChipError TransferSession Unit := do
  let s ← Proc.read
  Proc.verify (s.mState = .negotiateTransferParams) .incorrectState
  Proc.verify (s.mPendingOutput = .none) .incorrectState
  Proc.verify (has s.mTransferRequestData.transferCtlFlags acceptData.controlMode = true)
    .invalidArgument
  Proc.verify (acceptData.maxBlockSize ≤ s.mTransferRequestData.maxBlockSize) .invalidArgument
  Proc.modify fun s => { s with mTransferMaxBlockSize := acceptData.maxBlockSize }
  if s.mRole = .sender then do
    Proc.modify fun s => { s with
      mStartOffset := acceptData.startOffset
      mTransferLength := acceptData.length }
    writeToPacketBuffer granted (ReceiveAccept.writeToBuffer {
      transferCtlFlags := acceptData.controlMode
      version := s.mTransferVersion
      maxBlockSize := acceptData.maxBlockSize
      startOffset := acceptData.startOffset
      length := acceptData.length
      metadata := acceptData.metadata })
  else
    writeToPacketBuffer granted (SendAccept.writeToBuffer {
      transferCtlFlags := acceptData.controlMode
      version := s.mTransferVersion
      maxBlockSize := acceptData.maxBlockSize
      metadata := acceptData.metadata })
  Proc.modify fun s => { s with
    mState := .transferInProgress
    mAwaitingResponse := s.mAwaitingResponse ||
      (s.mRole = .receiver && s.mControlMode = senderDrive) ||
        (s.mRole = .sender && s.mControlMode = receiverDrive) }
  Proc.modify (prepareOutgoingMessageEvent
    (.bdx (if s.mRole = .sender then .receiveAccept else .sendAccept)))

/-- The mode that an Accept message specifies. No flag at all counts as asynchronous. -/
def singleMode (proposed : UInt8) : Option UInt8 :=
  if hasOnly proposed async then some async
  else if hasOnly proposed receiverDrive then some receiverDrive
  else if hasOnly proposed senderDrive then some senderDrive
  else none

/-- `VerifyProposedMode`: whether the mode is taken. -/
def verifyProposedMode (granted : Bool) (proposed : UInt8) (s : TransferSession) :
  Bool × TransferSession :=
  match singleMode proposed with
  | none => (false, s.prepareStatusReport granted .badMessageContents)
  | some mode =>
    if has s.mSuppportedXferOpts mode then (true, { s with mControlMode := mode })
    else (false, s.prepareStatusReport granted .transferMethodNotSupported)

/-- The end of `HandleReceiveAccept` and of `HandleSendAccept`. -/
def acceptReceived (acceptData : TransferAcceptData) (awaitingResponse : Bool) (msg : Bytes)
  (s : TransferSession) : TransferSession :=
  { s with
    mTransferMaxBlockSize := acceptData.maxBlockSize
    mStartOffset := acceptData.startOffset
    mTransferLength := acceptData.length
    mTransferAcceptData := acceptData
    mPendingMsg := msg
    mPendingOutput := .acceptReceived
    mAwaitingResponse := awaitingResponse
    mState := .transferInProgress }

def handleReceiveAccept (granted : Bool) (msg : Bytes) (s : TransferSession) : TransferSession :=
  if s.mRole ≠ .receiver then s.prepareStatusReport granted .unexpectedMessage
  else if s.mState ≠ .awaitingAccept then s.prepareStatusReport granted .unexpectedMessage
  else
    match (ReceiveAccept.parse msg).1 with
    | .error _ => s.prepareStatusReport granted .badMessageContents
    | .ok rcvAcceptMsg =>
      let verified := s.verifyProposedMode granted rcvAcceptMsg.transferCtlFlags
      if !verified.1 then verified.2
      else verified.2.acceptReceived
        { controlMode := verified.2.mControlMode
          maxBlockSize := rcvAcceptMsg.maxBlockSize
          startOffset := rcvAcceptMsg.startOffset
          length := rcvAcceptMsg.length
          metadata := rcvAcceptMsg.metadata }
        (verified.2.mControlMode = senderDrive) msg

def handleSendAccept (granted : Bool) (msg : Bytes) (s : TransferSession) : TransferSession :=
  if s.mRole ≠ .sender then s.prepareStatusReport granted .unexpectedMessage
  else if s.mState ≠ .awaitingAccept then s.prepareStatusReport granted .unexpectedMessage
  else
    match (SendAccept.parse msg).1 with
    | .error _ => s.prepareStatusReport granted .badMessageContents
    | .ok sendAcceptMsg =>
      let verified := s.verifyProposedMode granted sendAcceptMsg.transferCtlFlags
      if !verified.1 then verified.2
      else verified.2.acceptReceived
        { controlMode := verified.2.mControlMode
          maxBlockSize := sendAcceptMsg.maxBlockSize
          startOffset := verified.2.mStartOffset
          length := verified.2.mTransferLength
          metadata := sendAcceptMsg.metadata }
        (verified.2.mControlMode = receiverDrive) msg

/-- What `PrepareBlockQuery` and `PrepareBlockQueryWithSkip` have in common. -/
def prepareQuery (granted : Bool) (type : MessageType) (msg : UInt32 → Bytes) :
  Proc ChipError TransferSession Unit := do
  let s ← Proc.read
  Proc.verify (s.mState = .transferInProgress) .incorrectState
  Proc.verify (s.mRole = .receiver) .incorrectState
  Proc.verify (s.mPendingOutput = .none) .incorrectState
  Proc.verify (s.mAwaitingResponse = false) .incorrectState
  writeToPacketBuffer granted (msg s.mNextQueryNum)
  Proc.modify fun s => { s with
    mAwaitingResponse := true
    mLastQueryNum := s.mNextQueryNum
    mNextQueryNum := s.mNextQueryNum + 1 }
  Proc.modify (prepareOutgoingMessageEvent (.bdx type))

def prepareBlockQuery (granted : Bool) : Proc ChipError TransferSession Unit :=
  prepareQuery granted .blockQuery fun blockCounter => CounterMessage.writeToBuffer ⟨blockCounter⟩

def prepareBlockQueryWithSkip (granted : Bool) (bytesToSkip : UInt64) :
  Proc ChipError TransferSession Unit :=
  prepareQuery granted .blockQueryWithSkip fun blockCounter =>
    BlockQueryWithSkip.writeToBuffer ⟨blockCounter, bytesToSkip⟩

def prepareBlock (granted : Bool) (inData : BlockData) : Proc ChipError TransferSession Unit := do
  let s ← Proc.read
  Proc.verify (s.mState = .transferInProgress) .incorrectState
  Proc.verify (s.mRole = .sender) .incorrectState
  Proc.verify (s.mPendingOutput = .none) .incorrectState
  Proc.verify (s.mAwaitingResponse = false) .incorrectState
  Proc.verify (inData.data.isSome = true) .invalidArgument
  Proc.verify ((inData.data.getD []).length ≤ s.mTransferMaxBlockSize.toNat) .invalidArgument
  writeToPacketBuffer granted
    (DataBlock.writeToBuffer ⟨s.mNextBlockNum, inData.data.getD []⟩)
  Proc.modify fun s => { s with
    mState := if inData.isEof then .awaitingEOFAck else s.mState
    mAwaitingResponse := true
    mLastBlockNum := s.mNextBlockNum
    mNextBlockNum := s.mNextBlockNum + 1 }
  Proc.modify (prepareOutgoingMessageEvent (.bdx (if inData.isEof then .blockEOF else .block)))

/-- An acknowledgement in sender drive is a query for the next block, too. -/
def prepareBlockAck (granted : Bool) : Proc ChipError TransferSession Unit := do
  let s ← Proc.read
  Proc.verify (s.mRole = .receiver) .incorrectState
  Proc.verify (s.mState = .transferInProgress ∨ s.mState = .receivedEOF) .incorrectState
  Proc.verify (s.mPendingOutput = .none) .incorrectState
  writeToPacketBuffer granted (CounterMessage.writeToBuffer ⟨s.mLastBlockNum⟩)
  Proc.modify fun s =>
    if s.mState = .receivedEOF then
      { s with mState := .transferDone, mAwaitingResponse := false }
    else if s.mControlMode = senderDrive then
      { s with mLastQueryNum := s.mLastBlockNum + 1, mAwaitingResponse := true }
    else s
  Proc.modify (prepareOutgoingMessageEvent
    (.bdx (if s.mState = .receivedEOF then .blockAckEOF else .blockAck)))

/-- What the handlers of the sender check before they parse a message, and those of the receiver. -/
def expects (role : TransferRole) (state : TransferState) (s : TransferSession) : Bool :=
  s.mRole = role && s.mState = state && s.mAwaitingResponse

def handleBlockQuery (granted : Bool) (msg : Bytes) (s : TransferSession) : TransferSession :=
  if !s.expects .sender .transferInProgress then s.prepareStatusReport granted .unexpectedMessage
  else
    match (CounterMessage.parse msg).1 with
    | .error _ => s.prepareStatusReport granted .badMessageContents
    | .ok query =>
      if query.blockCounter ≠ s.mNextBlockNum then s.prepareStatusReport granted .badBlockCounter
      else { s with
        mPendingOutput := .queryReceived
        mAwaitingResponse := false
        mLastQueryNum := query.blockCounter }

def handleBlockQueryWithSkip (granted : Bool) (msg : Bytes) (s : TransferSession) :
  TransferSession :=
  if !s.expects .sender .transferInProgress then s.prepareStatusReport granted .unexpectedMessage
  else
    match (BlockQueryWithSkip.parse msg).1 with
    | .error _ => s.prepareStatusReport granted .badMessageContents
    | .ok query =>
      if query.blockCounter ≠ s.mNextBlockNum then s.prepareStatusReport granted .badBlockCounter
      else { s with
        mPendingOutput := .queryWithSkipReceived
        mAwaitingResponse := false
        mLastQueryNum := query.blockCounter
        mBytesToSkip := query.bytesToSkip }

def isTransferLengthDefinite (s : TransferSession) : Bool := 0 < s.mTransferLength

/-- The end of `HandleBlock` and of `HandleBlockEOF`. -/
def blockReceived (block : DataBlock) (isEof : Bool) (msg : Bytes) (s : TransferSession) :
  TransferSession :=
  { s with
    mBlockEventData := ⟨block.data, isEof, block.blockCounter⟩
    mPendingMsg := msg
    mPendingOutput := .blockReceived
    mNumBytesProcessed := s.mNumBytesProcessed + UInt64.ofNat block.data.length
    mLastBlockNum := block.blockCounter
    mAwaitingResponse := false
    mState := if isEof then .receivedEOF else s.mState }

def handleBlock (granted : Bool) (msg : Bytes) (s : TransferSession) : TransferSession :=
  if !s.expects .receiver .transferInProgress then
    s.prepareStatusReport granted .unexpectedMessage
  else
    match (DataBlock.parse msg).1 with
    | .error _ => s.prepareStatusReport granted .badMessageContents
    | .ok blockMsg =>
      if blockMsg.blockCounter ≠ s.mLastQueryNum then
        s.prepareStatusReport granted .badBlockCounter
      else if !(0 < blockMsg.data.length &&
          blockMsg.data.length ≤ s.mTransferMaxBlockSize.toNat) then
        s.prepareStatusReport granted .badMessageContents
      else if s.isTransferLengthDefinite &&
          s.mTransferLength < s.mNumBytesProcessed + UInt64.ofNat blockMsg.data.length then
        s.prepareStatusReport granted .lengthMismatch
      else s.blockReceived blockMsg false msg

def handleBlockEOF (granted : Bool) (msg : Bytes) (s : TransferSession) : TransferSession :=
  if !s.expects .receiver .transferInProgress then
    s.prepareStatusReport granted .unexpectedMessage
  else
    match (DataBlock.parse msg).1 with
    | .error _ => s.prepareStatusReport granted .badMessageContents
    | .ok blockEOFMsg =>
      if blockEOFMsg.blockCounter ≠ s.mLastQueryNum then
        s.prepareStatusReport granted .badBlockCounter
      else if s.mTransferMaxBlockSize.toNat < blockEOFMsg.data.length then
        s.prepareStatusReport granted .badMessageContents
      else s.blockReceived blockEOFMsg true msg

/-- In receiver drive the sender goes on to wait for a query. -/
def handleBlockAck (granted : Bool) (msg : Bytes) (s : TransferSession) : TransferSession :=
  if !s.expects .sender .transferInProgress then s.prepareStatusReport granted .unexpectedMessage
  else
    match (CounterMessage.parse msg).1 with
    | .error _ => s.prepareStatusReport granted .badMessageContents
    | .ok ackMsg =>
      if ackMsg.blockCounter ≠ s.mLastBlockNum then s.prepareStatusReport granted .badBlockCounter
      else { s with
        mPendingOutput := .ackReceived
        mAwaitingResponse := s.mControlMode = receiverDrive }

def handleBlockAckEOF (granted : Bool) (msg : Bytes) (s : TransferSession) : TransferSession :=
  if !s.expects .sender .awaitingEOFAck then s.prepareStatusReport granted .unexpectedMessage
  else
    match (CounterMessage.parse msg).1 with
    | .error _ => s.prepareStatusReport granted .badMessageContents
    | .ok ackMsg =>
      if ackMsg.blockCounter ≠ s.mLastBlockNum then s.prepareStatusReport granted .badBlockCounter
      else { s with
        mPendingOutput := .ackEOFReceived
        mAwaitingResponse := false
        mState := .transferDone }

/-- `HandleBdxMessage`, for a message of the protocol. -/
def handleBdxMessage (granted : Bool) (type : MessageType) (msg : Bytes) (s : TransferSession) :
  TransferSession :=
  match type with
  | .sendInit => s.handleTransferInit granted .sendInit msg
  | .receiveInit => s.handleTransferInit granted .receiveInit msg
  | .sendAccept => s.handleSendAccept granted msg
  | .receiveAccept => s.handleReceiveAccept granted msg
  | .blockQuery => s.handleBlockQuery granted msg
  | .blockQueryWithSkip => s.handleBlockQueryWithSkip granted msg
  | .block => s.handleBlock granted msg
  | .blockEOF => s.handleBlockEOF granted msg
  | .blockAck => s.handleBlockAck granted msg
  | .blockAckEOF => s.handleBlockAckEOF granted msg

/-- `StatusReport::Parse`: the protocol and its code. What follows is copied if there is memory. -/
def parseStatusReport (granted : Bool) (msg : Bytes) : Except ChipError (Nat × UInt16) :=
  (do
    let _ ← readBytes 2
    let protocolId ← readBytes 4
    let protocolCode := UInt16.ofNat (← readBytes 2)
    let rest ← Proc.read
    Proc.verify (rest = [] ∨ granted = true) .noMemory
    return (protocolId, protocolCode) : Proc ChipError Bytes (Nat × UInt16)) msg |>.1

def handleStatusReportMessage (granted : Bool) (msg : Bytes) :
  Proc ChipError TransferSession Unit := do
  Proc.modify fun s => { s with mState := .errorState, mAwaitingResponse := false }
  let report ← Proc.lift (parseStatusReport granted msg)
  Proc.verify (report.1 = 2) .invalidMessageType
  Proc.modify fun s => { s with
    mStatusReportData := .other report.2
    mPendingOutput := .statusReceived }

def handleMessageReceived (granted : Bool) (msg : Message) (curTime : UInt64) :
  Proc ChipError TransferSession Unit :=
  match msg.type with
  | .bdx type => do
      let s ← Proc.read
      Proc.verify (s.mPendingOutput = .none) .incorrectState
      Proc.modify (handleBdxMessage granted type msg.payload)
      Proc.modify fun s => { s with mTimeoutStartTime := curTime }
  | .unknownBdx => do
      let s ← Proc.read
      Proc.verify (s.mPendingOutput = .none) .incorrectState
      Proc.fail .invalidMessageType
  | .statusReport => handleStatusReportMessage granted msg.payload
  | .other => Proc.fail .invalidMessageType

end TransferSession

end Chip.Bdx
