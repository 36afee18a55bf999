import Chip.Bdx.TransferSession

/-! What the calls of a session do when they are accepted. -/
namespace Chip.Bdx

open Proc CounterMessage

open Chip.Transport (Bytes)

namespace TransferSession

open TransferControlFlags

variable {s s' : TransferSession} {granted : Bool}

theorem writeToPacketBuffer_bind {α : Type} {msg : Bytes}
  {f : Unit → Proc ChipError TransferSession α} {a : α}
  (hOk : (writeToPacketBuffer granted msg >>= f) s = (.ok a, s')) :
  f () { s with mPendingMsg := msg } = (.ok a, s') := by
  cases granted with
  | true => exact hOk
  | false => cases hOk

def initMessage (role : TransferRole) (initData : TransferInitData) : Message where
  type := .bdx (if role = .sender then .sendInit else .receiveInit)
  payload := TransferInit.writeToBuffer {
    transferCtlOptions := initData.transferCtlFlags
    version := bdxVersion
    maxBlockSize := initData.maxBlockSize
    startOffset := initData.startOffset
    maxLength := initData.length
    fileDesignator := initData.fileDesignator
    metadata := initData.metadata }

def started (role : TransferRole) (initData : TransferInitData) (timeout : UInt32)
  (s : TransferSession) : TransferSession :=
  { s with
    mRole := role
    mTimeout := timeout
    mSuppportedXferOpts := initData.transferCtlFlags
    mMaxSupportedBlockSize := initData.maxBlockSize
    mStartOffset := initData.startOffset
    mTransferLength := initData.length
    mPendingMsg := (initMessage role initData).payload
    mState := .awaitingAccept
    mAwaitingResponse := true
    mPendingOutput := .msgToSend
    mMsgTypeData := (initMessage role initData).type }

variable {role : TransferRole} {type : MessageType} {blockCounter : UInt32} {curTime : UInt64}

theorem startTransfer_ok {initData : TransferInitData} {timeout : UInt32}
  (hOk : startTransfer granted role initData timeout s = (.ok (), s')) :
  s.mState = .unitialized ∧ s' = s.started role initData timeout := by
  rw [startTransfer, read_bind] at hOk
  obtain ⟨hState, hOk⟩ := verify_bind_eq_ok hOk
  rw [modify_bind] at hOk
  have hRest := writeToPacketBuffer_bind hOk
  rw [modify_bind, modify_apply] at hRest
  injection hRest with _ hRest
  exact ⟨hState, hRest.symm⟩

def waiting (role : TransferRole) (xferControlOpts : UInt8) (maxBlockSize : UInt16)
  (timeout : UInt32) (s : TransferSession) : TransferSession :=
  { s with
    mRole := role
    mTimeout := timeout
    mSuppportedXferOpts := xferControlOpts
    mMaxSupportedBlockSize := maxBlockSize
    mState := .awaitingInitMsg }

theorem waitForTransfer_ok {xferControlOpts : UInt8} {maxBlockSize : UInt16} {timeout : UInt32}
  (hOk : waitForTransfer role xferControlOpts maxBlockSize timeout s = (.ok (), s')) :
  s.mState = .unitialized ∧ s' = s.waiting role xferControlOpts maxBlockSize timeout := by
  rw [waitForTransfer, read_bind] at hOk
  obtain ⟨hState, hOk⟩ := verify_bind_eq_ok hOk
  rw [modify_apply] at hOk
  injection hOk with _ hOk
  exact ⟨hState, hOk.symm⟩

def acceptMessage (role : TransferRole) (version : UInt8) (acceptData : TransferAcceptData) :
  Message :=
  match role with
  | .sender =>
    ⟨.bdx .receiveAccept, ReceiveAccept.writeToBuffer {
      transferCtlFlags := acceptData.controlMode
      version := version
      maxBlockSize := acceptData.maxBlockSize
      startOffset := acceptData.startOffset
      length := acceptData.length
      metadata := acceptData.metadata }⟩
  | .receiver =>
    ⟨.bdx .sendAccept, SendAccept.writeToBuffer {
      transferCtlFlags := acceptData.controlMode
      version := version
      maxBlockSize := acceptData.maxBlockSize
      metadata := acceptData.metadata }⟩

/-- What `AcceptTransfer` checks. -/
structure MayAccept (acceptData : TransferAcceptData) (s : TransferSession) : Prop where
  state : s.mState = .negotiateTransferParams
  pending : s.mPendingOutput = .none
  mode : has s.mTransferRequestData.transferCtlFlags acceptData.controlMode = true
  maxBlockSize : acceptData.maxBlockSize ≤ s.mTransferRequestData.maxBlockSize

/-- A session that has accepted a transfer. Only the sender chooses the offset and the length. -/
def accepted (acceptData : TransferAcceptData) (s : TransferSession) : TransferSession :=
  { s with
    mTransferMaxBlockSize := acceptData.maxBlockSize
    mStartOffset := if s.mRole = .sender then acceptData.startOffset else s.mStartOffset
    mTransferLength := if s.mRole = .sender then acceptData.length else s.mTransferLength
    mPendingMsg := (acceptMessage s.mRole s.mTransferVersion acceptData).payload
    mState := .transferInProgress
    mAwaitingResponse := s.mAwaitingResponse ||
      (s.mRole = .receiver && s.mControlMode = senderDrive) ||
        (s.mRole = .sender && s.mControlMode = receiverDrive)
    mPendingOutput := .msgToSend
    mMsgTypeData := (acceptMessage s.mRole s.mTransferVersion acceptData).type }

theorem acceptTransfer_ok {acceptData : TransferAcceptData}
  (hOk : acceptTransfer granted acceptData s = (.ok (), s')) :
  MayAccept acceptData s ∧ s' = s.accepted acceptData := by
  rw [acceptTransfer, read_bind] at hOk
  obtain ⟨hState, hOk⟩ := verify_bind_eq_ok hOk
  obtain ⟨hPending, hOk⟩ := verify_bind_eq_ok hOk
  obtain ⟨hMode, hOk⟩ := verify_bind_eq_ok hOk
  obtain ⟨hSize, hOk⟩ := verify_bind_eq_ok hOk
  refine ⟨⟨hState, hPending, hMode, hSize⟩, ?_⟩
  rw [modify_bind] at hOk
  cases hRole : s.mRole with
  | sender =>
    rw [if_pos hRole, modify_bind] at hOk
    have hRest := writeToPacketBuffer_bind hOk
    dsimp only at hRest
    rw [modify_bind, modify_apply, if_pos hRole] at hRest
    injection hRest with _ hRest
    rw [← hRest]
    simp [accepted, acceptMessage, prepareOutgoingMessageEvent, hRole]
  | receiver =>
    have hNot : ¬ s.mRole = .sender := by simp [hRole]
    rw [if_neg hNot] at hOk
    have hRest := writeToPacketBuffer_bind hOk
    dsimp only at hRest
    rw [modify_bind, modify_apply, if_neg hNot] at hRest
    injection hRest with _ hRest
    rw [← hRest]
    simp [accepted, acceptMessage, prepareOutgoingMessageEvent, hRole]

structure MayPrepare (role : TransferRole) (s : TransferSession) : Prop where
  state : s.mState = .transferInProgress
  role : s.mRole = role
  pending : s.mPendingOutput = .none
  free : s.mAwaitingResponse = false

def queried (type : MessageType) (payload : Bytes) (s : TransferSession) : TransferSession :=
  { s with
    mPendingMsg := payload
    mAwaitingResponse := true
    mLastQueryNum := s.mNextQueryNum
    mNextQueryNum := s.mNextQueryNum + 1
    mPendingOutput := .msgToSend
    mMsgTypeData := .bdx type }

theorem prepareQuery_ok {msg : UInt32 → Bytes} (hOk : prepareQuery granted type msg s = (.ok (), s')) :
  MayPrepare .receiver s ∧ s' = s.queried type (msg s.mNextQueryNum) := by
  rw [prepareQuery, read_bind] at hOk
  obtain ⟨hState, hOk⟩ := verify_bind_eq_ok hOk
  obtain ⟨hRole, hOk⟩ := verify_bind_eq_ok hOk
  obtain ⟨hPending, hOk⟩ := verify_bind_eq_ok hOk
  obtain ⟨hFree, hOk⟩ := verify_bind_eq_ok hOk
  have hRest := writeToPacketBuffer_bind hOk
  rw [modify_bind, modify_apply] at hRest
  injection hRest with _ hRest
  exact ⟨⟨hState, hRole, hPending, hFree⟩, hRest.symm⟩

def blockMessage (blockCounter : UInt32) (data : Bytes) (isEof : Bool) : Message :=
  ⟨.bdx (if isEof then .blockEOF else .block), DataBlock.writeToBuffer ⟨blockCounter, data⟩⟩

def blockPrepared (data : Bytes) (isEof : Bool) (s : TransferSession) : TransferSession :=
  { s with
    mPendingMsg := (blockMessage s.mNextBlockNum data isEof).payload
    mState := if isEof then .awaitingEOFAck else s.mState
    mAwaitingResponse := true
    mLastBlockNum := s.mNextBlockNum
    mNextBlockNum := s.mNextBlockNum + 1
    mPendingOutput := .msgToSend
    mMsgTypeData := (blockMessage s.mNextBlockNum data isEof).type }

theorem prepareBlock_ok {inData : BlockData}
  (hOk : prepareBlock granted inData s = (.ok (), s')) :
  MayPrepare .sender s ∧ ∃ data, inData.data = some data ∧
    data.length ≤ s.mTransferMaxBlockSize.toNat ∧ s' = s.blockPrepared data inData.isEof := by
  rw [prepareBlock, read_bind] at hOk
  obtain ⟨hState, hOk⟩ := verify_bind_eq_ok hOk
  obtain ⟨hRole, hOk⟩ := verify_bind_eq_ok hOk
  obtain ⟨hPending, hOk⟩ := verify_bind_eq_ok hOk
  obtain ⟨hFree, hOk⟩ := verify_bind_eq_ok hOk
  obtain ⟨hSome, hOk⟩ := verify_bind_eq_ok hOk
  obtain ⟨hLength, hOk⟩ := verify_bind_eq_ok hOk
  obtain ⟨data, hData⟩ := Option.isSome_iff_exists.mp hSome
  rw [hData] at hLength hOk
  have hRest := writeToPacketBuffer_bind hOk
  rw [modify_bind, modify_apply] at hRest
  injection hRest with _ hRest
  exact ⟨⟨hState, hRole, hPending, hFree⟩, data, hData, hLength, hRest.symm⟩

/-- What `PrepareBlockAck` checks. It does not look at `mAwaitingResponse`. -/
structure MayAck (s : TransferSession) : Prop where
  role : s.mRole = .receiver
  state : s.mState = .transferInProgress ∨ s.mState = .receivedEOF
  pending : s.mPendingOutput = .none

def ackMessage (blockCounter : UInt32) (isEof : Bool) : Message :=
  ⟨.bdx (if isEof then .blockAckEOF else .blockAck), CounterMessage.writeToBuffer ⟨blockCounter⟩⟩

def ackPrepared (s : TransferSession) : TransferSession :=
  let acked :=
    if s.mState = .receivedEOF then
      { s with mState := .transferDone, mAwaitingResponse := false }
    else if s.mControlMode = senderDrive then
      { s with mLastQueryNum := s.mLastBlockNum + 1, mAwaitingResponse := true }
    else s
  { acked with
    mPendingMsg := (ackMessage s.mLastBlockNum (s.mState = .receivedEOF)).payload
    mPendingOutput := .msgToSend
    mMsgTypeData := (ackMessage s.mLastBlockNum (s.mState = .receivedEOF)).type }

theorem prepareBlockAck_ok (hOk : prepareBlockAck granted s = (.ok (), s')) :
  MayAck s ∧ s' = s.ackPrepared := by
  rw [prepareBlockAck, read_bind] at hOk
  obtain ⟨hRole, hOk⟩ := verify_bind_eq_ok hOk
  obtain ⟨hState, hOk⟩ := verify_bind_eq_ok hOk
  obtain ⟨hPending, hOk⟩ := verify_bind_eq_ok hOk
  have hRest := writeToPacketBuffer_bind hOk
  rw [modify_bind, modify_apply] at hRest
  injection hRest with _ hRest
  refine ⟨⟨hRole, hState, hPending⟩, ?_⟩
  rw [← hRest, ackPrepared]
  dsimp only
  by_cases hEof : s.mState = .receivedEOF
  · simp [hEof, prepareOutgoingMessageEvent, ackMessage]
  · by_cases hMode : s.mControlMode = senderDrive
    · simp [hEof, hMode, prepareOutgoingMessageEvent, ackMessage]
    · simp [hEof, hMode, prepareOutgoingMessageEvent, ackMessage]

def queryMessage (blockCounter : UInt32) : Option UInt64 → Message
  | none => ⟨.bdx .blockQuery, CounterMessage.writeToBuffer ⟨blockCounter⟩⟩
  | some bytesToSkip =>
    ⟨.bdx .blockQueryWithSkip, BlockQueryWithSkip.writeToBuffer ⟨blockCounter, bytesToSkip⟩⟩

theorem expects_of {state : TransferState} (hRole : s.mRole = role) (hState : s.mState = state)
  (hAwaits : s.mAwaitingResponse = true) :
  s.expects role state = true := by
  simp [expects, hRole, hState, hAwaits]

theorem handleQuery {skip : Option UInt64} {payload : Bytes} (granted : Bool)
  (hExpects : s.expects .sender .transferInProgress = true)
  (hMessage : queryMessage blockCounter skip = ⟨.bdx type, payload⟩)
  (hCounter : s.mNextBlockNum = blockCounter) :
  s.handleBdxMessage granted type payload = { s with
    mPendingOutput := if skip = none then .queryReceived else .queryWithSkipReceived
    mAwaitingResponse := false
    mLastQueryNum := blockCounter
    mBytesToSkip := skip.getD s.mBytesToSkip } := by
  subst hCounter
  cases skip with
  | none =>
    injection hMessage with hType hPayload
    injection hType with hType
    subst hType hPayload
    rw [handleBdxMessage, handleBlockQuery, hExpects, parse_writeToBuffer]
    simp
  | some bytesToSkip =>
    injection hMessage with hType hPayload
    injection hType with hType
    subst hType hPayload
    rw [handleBdxMessage, handleBlockQueryWithSkip, hExpects, BlockQueryWithSkip.parse_writeToBuffer]
    simp

theorem handleAck (granted : Bool) (hExpects : s.expects .sender .transferInProgress = true)
  (hCounter : s.mLastBlockNum = blockCounter) :
  s.handleBdxMessage granted .blockAck (ackMessage blockCounter false).payload = { s with
    mPendingOutput := .ackReceived
    mAwaitingResponse := s.mControlMode = receiverDrive } := by
  subst hCounter
  change s.handleBlockAck granted (writeToBuffer _) = _
  rw [handleBlockAck, hExpects, parse_writeToBuffer]
  simp

theorem handleAckEOF (granted : Bool) (hExpects : s.expects .sender .awaitingEOFAck = true)
  (hCounter : s.mLastBlockNum = blockCounter) :
  s.handleBdxMessage granted .blockAckEOF (ackMessage blockCounter true).payload = { s with
    mPendingOutput := .ackEOFReceived
    mAwaitingResponse := false
    mState := .transferDone } := by
  subst hCounter
  change s.handleBlockAckEOF granted (writeToBuffer _) = _
  rw [handleBlockAckEOF, hExpects, parse_writeToBuffer]
  simp

structure MayReceive (data : Bytes) (isEof : Bool) (s : TransferSession) : Prop where
  size : data.length ≤ s.mTransferMaxBlockSize.toNat
  some : isEof = false → 0 < data.length
  length : isEof = false → s.isTransferLengthDefinite = true →
    s.mNumBytesProcessed + UInt64.ofNat data.length ≤ s.mTransferLength

theorem handleData {data : Bytes} {isEof : Bool} (granted : Bool)
  (hExpects : s.expects .receiver .transferInProgress = true) (hMay : MayReceive data isEof s)
  (hCounter : s.mLastQueryNum = blockCounter) :
  s.handleBdxMessage granted (if isEof then .blockEOF else .block)
      (blockMessage blockCounter data isEof).payload =
    s.blockReceived ⟨blockCounter, data⟩ isEof (blockMessage blockCounter data isEof).payload := by
  subst hCounter
  cases isEof with
  | true =>
    change s.handleBlockEOF granted (DataBlock.writeToBuffer _) = _
    rw [handleBlockEOF, hExpects, DataBlock.parse_writeToBuffer]
    simp only [Bool.not_true, Bool.false_eq_true, if_false, ne_eq, not_true_eq_false]
    rw [if_neg (Nat.not_lt.mpr hMay.size)]
    rfl
  | false =>
    have hSome := hMay.some rfl
    have hSize := hMay.size
    have hLength : (s.isTransferLengthDefinite && decide (s.mTransferLength <
        s.mNumBytesProcessed + UInt64.ofNat data.length)) = false := by
      cases hDefinite : s.isTransferLengthDefinite with
      | false => rfl
      | true =>
        have hLe := hMay.length rfl hDefinite
        simpa using hLe
    change s.handleBlock granted (DataBlock.writeToBuffer _) = _
    rw [handleBlock, hExpects, DataBlock.parse_writeToBuffer]
    simp only [Bool.not_true, Bool.false_eq_true, if_false, ne_eq, not_true_eq_false, hLength]
    rw [if_neg (by simp [hSome, hSize])]
    rfl

theorem handleMessageReceived_ok {payload : Bytes}
  (hOk : handleMessageReceived granted ⟨.bdx type, payload⟩ curTime s = (.ok (), s')) :
  s.mPendingOutput = .none ∧
    s' = { s.handleBdxMessage granted type payload with mTimeoutStartTime := curTime } := by
  change (read >>= fun s => _) s = _ at hOk
  rw [read_bind] at hOk
  obtain ⟨hPending, hOk⟩ := verify_bind_eq_ok hOk
  rw [modify_bind, modify_apply] at hOk
  injection hOk with _ hOk
  exact ⟨hPending, hOk.symm⟩

def polled (curTime : UInt64) (s : TransferSession) : TransferSession :=
  { s with
    mPendingOutput := .none
    mShouldInitTimeoutStart := false
    mTimeoutStartTime :=
      if s.mPendingOutput = .msgToSend || s.mShouldInitTimeoutStart then curTime
      else s.mTimeoutStartTime }

theorem pollOutput_inTime (hInTime : (s.startTime curTime).timedOut curTime = false) :
  s.pollOutput curTime =
    (if s.mPendingOutput = .none && s.mState = .errorState then
        .internalError s.mStatusReportData else s.pendingEvent, s.polled curTime) := by
  rw [pollOutput]
  dsimp only
  rw [hInTime, if_neg (by decide)]
  unfold startTime
  cases hStart : s.mShouldInitTimeoutStart with
  | true =>
    simp only [if_true, polled, hStart, Bool.or_true]
    refine Prod.ext rfl ?_
    simp only
    split
    · rfl
    · rfl
  | false =>
    simp only [Bool.false_eq_true, if_false, polled, hStart, Bool.or_false, decide_eq_true_eq]

theorem pollOutput_eq {event : OutputEvent} (hPoll : s.pollOutput curTime = (event, s'))
  (hEvent : event ≠ .transferTimeout) :
  event = (if s.mPendingOutput = .none && s.mState = .errorState then
    .internalError s.mStatusReportData else s.pendingEvent) ∧ s' = s.polled curTime := by
  cases hTime : (s.startTime curTime).timedOut curTime with
  | false =>
    rw [pollOutput_inTime hTime] at hPoll
    injection hPoll with hFirst hSecond
    exact ⟨hFirst.symm, hSecond.symm⟩
  | true =>
    rw [pollOutput] at hPoll
    dsimp only at hPoll
    rw [hTime, if_pos rfl] at hPoll
    injection hPoll with hFirst _
    exact absurd hFirst.symm hEvent

end TransferSession

end Chip.Bdx
