import Chip.Bdx.SessionCalls

/-! The status reports of a session: which of them a message or a call leads to, and what the session
does otherwise. -/
namespace Chip.Bdx

open Proc.Ensures

open Chip.Transport (Bytes)

def TransferState.isEarly : TransferState → Bool
  | .unitialized | .awaitingInitMsg | .awaitingAccept | .negotiateTransferParams => true
  | _ => false

namespace TransferSession

open TransferControlFlags

variable {s : TransferSession} {granted : Bool}

def abortTransfer (granted : Bool) (reason : StatusCode) : Proc ChipError TransferSession Unit := do
  let s ← Proc.read
  Proc.verify (s.mState ≠ .unitialized ∧ s.mState ≠ .transferDone ∧ s.mState ≠ .errorState)
    .incorrectState
  Proc.modify (prepareStatusReport granted reason)

/-- `Reset` leaves the role, the mode and the data of the last events as they are. -/
def reset (s : TransferSession) : TransferSession :=
  { s with
    mPendingOutput := .none
    mState := .unitialized
    mSuppportedXferOpts := 0
    mTransferVersion := 0
    mMaxSupportedBlockSize := 0
    mStartOffset := 0
    mTransferLength := 0
    mTransferMaxBlockSize := 0
    mPendingMsg := []
    mNumBytesProcessed := 0
    mLastBlockNum := 0
    mNextBlockNum := 0
    mLastQueryNum := 0
    mNextQueryNum := 0
    mTimeout := 0
    mTimeoutStartTime := 0
    mShouldInitTimeoutStart := true
    mAwaitingResponse := false }

/-- The code that `ResolveTransferControlOptions` calls `PrepareStatusReport` with, if it does. The
definitions below are alike. -/
def resolveReports (proposed : UInt8) (s : TransferSession) : Option StatusCode :=
  if !has proposed (senderDrive ||| receiverDrive) then some .transferMethodNotSupported
  else if proposed &&& s.mSuppportedXferOpts = 0 then some .transferMethodNotSupported
  else none

/-- The Init message whose options `HandleTransferInit` resolves. -/
def resolvedInit (msgType : MessageType) (msg : Bytes) (s : TransferSession) :
  Except StatusCode TransferInit :=
  if s.mState ≠ .awaitingInitMsg then .error .unexpectedMessage
  else if msgType ≠ (if s.mRole = .sender then .receiveInit else .sendInit) then
    .error .unexpectedMessage
  else
    match (TransferInit.parse msg).1 with
    | .error _ => .error .badMessageContents
    | .ok transferInit => .ok transferInit

def initReports (msgType : MessageType) (msg : Bytes) (s : TransferSession) : Option StatusCode :=
  match s.resolvedInit msgType msg with
  | .error code => some code
  | .ok transferInit => s.resolveReports transferInit.transferCtlOptions

/-- For `VerifyProposedMode`. -/
def modeReports (proposed : UInt8) (s : TransferSession) : Option StatusCode :=
  match singleMode proposed with
  | none => some .badMessageContents
  | some mode =>
    if has s.mSuppportedXferOpts mode then none else some .transferMethodNotSupported

/-- For the Accept messages, with the options that were parsed. -/
def acceptReports (role : TransferRole) (proposed : Except ChipError UInt8) (s : TransferSession) :
  Option StatusCode :=
  if s.mRole ≠ role then some .unexpectedMessage
  else if s.mState ≠ .awaitingAccept then some .unexpectedMessage
  else
    match proposed with
    | .error _ => some .badMessageContents
    | .ok proposed => s.modeReports proposed

/-- For the messages to the sender, with the counter that was parsed. -/
def counterReports (state : TransferState) (expected : UInt32) (parsed : Except ChipError UInt32)
  (s : TransferSession) : Option StatusCode :=
  if !s.expects .sender state then some .unexpectedMessage
  else
    match parsed with
    | .error _ => some .badMessageContents
    | .ok blockCounter => if blockCounter ≠ expected then some .badBlockCounter else none

def blockReports (msg : Bytes) (s : TransferSession) : Option StatusCode :=
  if !s.expects .receiver .transferInProgress then some .unexpectedMessage
  else
    match (DataBlock.parse msg).1 with
    | .error _ => some .badMessageContents
    | .ok blockMsg =>
      if blockMsg.blockCounter ≠ s.mLastQueryNum then some .badBlockCounter
      else if !(0 < blockMsg.data.length &&
          blockMsg.data.length ≤ s.mTransferMaxBlockSize.toNat) then some .badMessageContents
      else if s.isTransferLengthDefinite &&
          s.mTransferLength < s.mNumBytesProcessed + UInt64.ofNat blockMsg.data.length then
        some .lengthMismatch
      else none

def blockEOFReports (msg : Bytes) (s : TransferSession) : Option StatusCode :=
  if !s.expects .receiver .transferInProgress then some .unexpectedMessage
  else
    match (DataBlock.parse msg).1 with
    | .error _ => some .badMessageContents
    | .ok blockEOFMsg =>
      if blockEOFMsg.blockCounter ≠ s.mLastQueryNum then some .badBlockCounter
      else if s.mTransferMaxBlockSize.toNat < blockEOFMsg.data.length then
        some .badMessageContents
      else none

def bdxReports (type : MessageType) (msg : Bytes) (s : TransferSession) : Option StatusCode :=
  match type with
  | .sendInit => s.initReports .sendInit msg
  | .receiveInit => s.initReports .receiveInit msg
  | .sendAccept => s.acceptReports .sender ((SendAccept.parse msg).1.map (·.transferCtlFlags))
  | .receiveAccept =>
    s.acceptReports .receiver ((ReceiveAccept.parse msg).1.map (·.transferCtlFlags))
  | .blockQuery => s.counterReports .transferInProgress s.mNextBlockNum
      ((CounterMessage.parse msg).1.map (·.blockCounter))
  | .blockQueryWithSkip => s.counterReports .transferInProgress s.mNextBlockNum
      ((BlockQueryWithSkip.parse msg).1.map (·.blockCounter))
  | .block => s.blockReports msg
  | .blockEOF => s.blockEOFReports msg
  | .blockAck => s.counterReports .transferInProgress s.mLastBlockNum
      ((CounterMessage.parse msg).1.map (·.blockCounter))
  | .blockAckEOF => s.counterReports .awaitingEOFAck s.mLastBlockNum
      ((CounterMessage.parse msg).1.map (·.blockCounter))

/-- A step that delivers no block. The length of a transfer that is under way stays. -/
structure Moves (s s' : TransferSession) : Prop where
  early : s'.mState.isEarly = true → s.mState.isEarly = true
  processed : s'.mNumBytesProcessed = s.mNumBytesProcessed
  length : s'.mTransferLength = s.mTransferLength ∨ s.mState.isEarly = true
  block : s'.mPendingOutput = .blockReceived →
    s.mPendingOutput = .blockReceived ∧ s'.mBlockEventData = s.mBlockEventData

theorem Moves.refl (s : TransferSession) : Moves s s where
  early hEarly := hEarly
  processed := rfl
  length := .inl rfl
  block hBlock := ⟨hBlock, rfl⟩

theorem Moves.mode (s : TransferSession) (mode : UInt8) : Moves s { s with mControlMode := mode } where
  early hEarly := hEarly
  processed := rfl
  length := .inl rfl
  block hBlock := ⟨hBlock, rfl⟩

theorem Moves.prepareStatusReport (granted : Bool) (code : StatusCode) (s : TransferSession) :
  Moves s (s.prepareStatusReport granted code) := by
  have hEarly : (s.prepareStatusReport granted code).mState.isEarly = true →
      s.mState.isEarly = true := fun hEarly => nomatch hEarly
  cases granted with
  | true => exact ⟨hEarly, rfl, .inl rfl, fun hBlock => nomatch hBlock⟩
  | false => exact ⟨hEarly, rfl, .inl rfl, fun hBlock => nomatch hBlock⟩

structure IsReported (code : StatusCode) (s : TransferSession) : Prop where
  state : s.mState = .errorState
  quiet : s.mAwaitingResponse = false
  pending : s.pendingEvent = .msgToSend ⟨.statusReport, statusReport code⟩

theorem isReported_prepareStatusReport (code : StatusCode) (s : TransferSession) :
  IsReported code (s.prepareStatusReport true code) := ⟨rfl, rfl, rfl⟩

variable {msgType : MessageType} {msg : Bytes} {code : StatusCode} {reports : Option StatusCode}
  {goesOn : TransferSession → Prop} {s' : TransferSession}

theorem handleTransferInit_error (granted : Bool) (hInit : s.resolvedInit msgType msg = .error code) :
  s.handleTransferInit granted msgType msg = s.prepareStatusReport granted code := by
  rw [resolvedInit] at hInit
  rw [handleTransferInit]
  by_cases hState : s.mState ≠ .awaitingInitMsg
  · rw [if_pos hState] at hInit ⊢
    cases hInit
    rfl
  · rw [if_neg hState] at hInit ⊢
    by_cases hType : msgType ≠ (if s.mRole = .sender then .receiveInit else .sendInit)
    · rw [if_pos hType] at hInit ⊢
      cases hInit
      rfl
    · rw [if_neg hType] at hInit ⊢
      cases hParse : (TransferInit.parse msg).1 with
      | error e =>
        rw [hParse] at hInit
        cases hInit
        rfl
      | ok transferInit =>
        rw [hParse] at hInit
        cases hInit

theorem handleTransferInit_ok {transferInit : TransferInit} (granted : Bool)
  (hInit : s.resolvedInit msgType msg = .ok transferInit) :
  s.mState = .awaitingInitMsg ∧ s.handleTransferInit granted msgType msg =
    (s.resolveTransferControlOptions granted transferInit.transferCtlOptions).initReceived
      transferInit msg := by
  rw [resolvedInit] at hInit
  rw [handleTransferInit]
  by_cases hState : s.mState ≠ .awaitingInitMsg
  · rw [if_pos hState] at hInit
    cases hInit
  · rw [if_neg hState] at hInit ⊢
    by_cases hType : msgType ≠ (if s.mRole = .sender then .receiveInit else .sendInit)
    · rw [if_pos hType] at hInit
      cases hInit
    · rw [if_neg hType] at hInit ⊢
      refine ⟨not_not.mp hState, ?_⟩
      cases hParse : (TransferInit.parse msg).1 with
      | error e =>
        rw [hParse] at hInit
        cases hInit
      | ok parsed =>
        rw [hParse] at hInit
        cases hInit
        rfl

theorem resolveTransferControlOptions_moves (granted : Bool) (proposed : UInt8)
  (s : TransferSession) : Moves s (s.resolveTransferControlOptions granted proposed) := by
  rw [resolveTransferControlOptions]
  split_ifs
  · exact Moves.prepareStatusReport granted _ s
  · exact Moves.prepareStatusReport granted _ s
  · exact Moves.mode s _
  · exact Moves.mode s _
  · exact Moves.mode s _
  · exact Moves.refl s

theorem handleTransferInit_moves (granted : Bool) (msgType : MessageType) (msg : Bytes)
  (s : TransferSession) : Moves s (s.handleTransferInit granted msgType msg) := by
  cases hInit : s.resolvedInit msgType msg with
  | error code =>
    rw [handleTransferInit_error granted hInit]
    exact Moves.prepareStatusReport granted code s
  | ok transferInit =>
    obtain ⟨hState, hHandled⟩ := handleTransferInit_ok granted hInit
    have hResolved := resolveTransferControlOptions_moves granted
      transferInit.transferCtlOptions s
    have hEarly : s.mState.isEarly = true := by rw [hState]; rfl
    rw [hHandled]
    exact ⟨fun _ => hEarly, hResolved.processed, .inr hEarly, fun hBlock => nomatch hBlock⟩

def Handles (granted : Bool) (reports : Option StatusCode) (s : TransferSession)
  (goesOn : TransferSession → Prop) (s' : TransferSession) : Prop :=
  match reports with
  | some code => s' = s.prepareStatusReport granted code
  | none => goesOn s'

theorem Handles.guard {p : Prop} [Decidable p] (hRest : ¬ p → Handles granted reports s goesOn s') :
  Handles granted (if p then some code else reports) s goesOn
    (if p then s.prepareStatusReport granted code else s') := by
  by_cases hGuard : p
  · rw [if_pos hGuard, if_pos hGuard]
    rfl
  · rw [if_neg hGuard, if_neg hGuard]
    exact hRest hGuard

theorem acceptReceived_moves {acceptData : TransferAcceptData} {awaitingResponse : Bool}
  (hMoves : Moves s s') (hState : s.mState = .awaitingAccept) :
  Moves s (s'.acceptReceived acceptData awaitingResponse msg) where
  early hEarly := nomatch hEarly
  processed := hMoves.processed
  length := .inr (by rw [hState]; rfl)
  block hBlock := nomatch hBlock

theorem verifyProposedMode_some {proposed : UInt8} (granted : Bool)
  (hReports : s.modeReports proposed = some code) :
  s.verifyProposedMode granted proposed = (false, s.prepareStatusReport granted code) := by
  rw [modeReports] at hReports
  rw [verifyProposedMode]
  cases hMode : singleMode proposed with
  | none =>
    rw [hMode] at hReports
    cases hReports
    rfl
  | some mode =>
    rw [hMode] at hReports
    dsimp only at hReports ⊢
    by_cases hHas : has s.mSuppportedXferOpts mode = true
    · rw [if_pos hHas] at hReports
      cases hReports
    · rw [if_neg hHas] at hReports ⊢
      cases hReports
      rfl

theorem verifyProposedMode_none {proposed : UInt8} (granted : Bool)
  (hReports : s.modeReports proposed = none) :
  ∃ mode, s.verifyProposedMode granted proposed = (true, { s with mControlMode := mode }) := by
  rw [modeReports] at hReports
  rw [verifyProposedMode]
  cases hMode : singleMode proposed with
  | none =>
    rw [hMode] at hReports
    cases hReports
  | some mode =>
    rw [hMode] at hReports
    dsimp only at hReports ⊢
    by_cases hHas : has s.mSuppportedXferOpts mode = true
    · exact ⟨mode, if_pos hHas⟩
    · rw [if_neg hHas] at hReports
      cases hReports

section

variable (granted : Bool) (msg : Bytes) (s : TransferSession)

theorem handleReceiveAccept_handles :
  Handles granted (s.bdxReports .receiveAccept msg) s (Moves s)
    (s.handleReceiveAccept granted msg) := by
  unfold bdxReports acceptReports handleReceiveAccept
  apply Handles.guard
  intro _
  apply Handles.guard
  intro hState
  cases (ReceiveAccept.parse msg).1 with
  | error e => rfl
  | ok accept =>
    change Handles granted (s.modeReports accept.transferCtlFlags) s _ _
    cases hReports : s.modeReports accept.transferCtlFlags with
    | some code =>
      dsimp only
      rw [verifyProposedMode_some granted hReports]
      rfl
    | none =>
      obtain ⟨mode, hVerified⟩ := verifyProposedMode_none granted hReports
      dsimp only
      rw [hVerified]
      exact acceptReceived_moves (Moves.mode s mode) (not_not.mp hState)

theorem handleSendAccept_handles :
  Handles granted (s.bdxReports .sendAccept msg) s (Moves s)
    (s.handleSendAccept granted msg) := by
  unfold bdxReports acceptReports handleSendAccept
  apply Handles.guard
  intro _
  apply Handles.guard
  intro hState
  cases (SendAccept.parse msg).1 with
  | error e => rfl
  | ok accept =>
    change Handles granted (s.modeReports accept.transferCtlFlags) s _ _
    cases hReports : s.modeReports accept.transferCtlFlags with
    | some code =>
      dsimp only
      rw [verifyProposedMode_some granted hReports]
      rfl
    | none =>
      obtain ⟨mode, hVerified⟩ := verifyProposedMode_none granted hReports
      dsimp only
      rw [hVerified]
      exact acceptReceived_moves (Moves.mode s mode) (not_not.mp hState)

theorem handleBlockQuery_handles :
  Handles granted (s.bdxReports .blockQuery msg) s (Moves s) (s.handleBlockQuery granted msg) := by
  unfold bdxReports counterReports handleBlockQuery
  apply Handles.guard
  intro _
  cases (CounterMessage.parse msg).1 with
  | error e => rfl
  | ok query =>
    apply Handles.guard
    intro _
    exact ⟨fun hEarly => hEarly, rfl, .inl rfl, fun hBlock => nomatch hBlock⟩

theorem handleBlockQueryWithSkip_handles :
  Handles granted (s.bdxReports .blockQueryWithSkip msg) s (Moves s)
    (s.handleBlockQueryWithSkip granted msg) := by
  unfold bdxReports counterReports handleBlockQueryWithSkip
  apply Handles.guard
  intro _
  cases (BlockQueryWithSkip.parse msg).1 with
  | error e => rfl
  | ok query =>
    apply Handles.guard
    intro _
    exact ⟨fun hEarly => hEarly, rfl, .inl rfl, fun hBlock => nomatch hBlock⟩

theorem handleBlockAck_handles :
  Handles granted (s.bdxReports .blockAck msg) s (Moves s) (s.handleBlockAck granted msg) := by
  unfold bdxReports counterReports handleBlockAck
  apply Handles.guard
  intro _
  cases (CounterMessage.parse msg).1 with
  | error e => rfl
  | ok ackMsg =>
    apply Handles.guard
    intro _
    exact ⟨fun hEarly => hEarly, rfl, .inl rfl, fun hBlock => nomatch hBlock⟩

theorem handleBlockAckEOF_handles :
  Handles granted (s.bdxReports .blockAckEOF msg) s (Moves s)
    (s.handleBlockAckEOF granted msg) := by
  unfold bdxReports counterReports handleBlockAckEOF
  apply Handles.guard
  intro _
  cases (CounterMessage.parse msg).1 with
  | error e => rfl
  | ok ackMsg =>
    apply Handles.guard
    intro _
    have hEarly : TransferState.transferDone.isEarly = true → s.mState.isEarly = true :=
      fun hEarly => nomatch hEarly
    exact ⟨hEarly, rfl, .inl rfl, fun hBlock => nomatch hBlock⟩

end

structure Takes (msg : Bytes) (s : TransferSession) (blockMsg : DataBlock) (isEof : Bool) : Prop where
  state : s.mState = .transferInProgress
  parsed : (DataBlock.parse msg).1 = .ok blockMsg
  size : blockMsg.data.length ≤ s.mTransferMaxBlockSize.toNat
  length : isEof = false → s.isTransferLengthDefinite = true →
    s.mNumBytesProcessed + UInt64.ofNat blockMsg.data.length ≤ s.mTransferLength

theorem state_of_expects {role : TransferRole} {state : TransferState}
  (hExpects : s.expects role state = true) : s.mState = state := by
  rw [expects, Bool.and_eq_true, Bool.and_eq_true, decide_eq_true_eq, decide_eq_true_eq] at hExpects
  exact hExpects.1.2

theorem handleBlock_handles (granted : Bool) (msg : Bytes) (s : TransferSession) :
  Handles granted (s.blockReports msg) s
    (fun s' => ∃ blockMsg, Takes msg s blockMsg false ∧ s' = s.blockReceived blockMsg false msg)
    (s.handleBlock granted msg) := by
  unfold blockReports handleBlock
  apply Handles.guard
  intro hExpects
  have hState := state_of_expects (by simpa using hExpects)
  cases hParse : (DataBlock.parse msg).1 with
  | error e => rfl
  | ok blockMsg =>
    apply Handles.guard
    intro _
    apply Handles.guard
    intro hSize
    apply Handles.guard
    intro hLength
    refine ⟨blockMsg, ⟨hState, hParse, ?_, ?_⟩, rfl⟩
    · simp only [Bool.not_eq_true, Bool.not_eq_false', Bool.and_eq_true, decide_eq_true_eq] at hSize
      exact hSize.2
    · intro _ hDefinite
      rw [hDefinite, Bool.true_and, decide_eq_true_eq] at hLength
      exact UInt64.not_lt.mp hLength

theorem handleBlockEOF_handles (granted : Bool) (msg : Bytes) (s : TransferSession) :
  Handles granted (s.blockEOFReports msg) s
    (fun s' => ∃ blockMsg, Takes msg s blockMsg true ∧ s' = s.blockReceived blockMsg true msg)
    (s.handleBlockEOF granted msg) := by
  unfold blockEOFReports handleBlockEOF
  apply Handles.guard
  intro hExpects
  have hState := state_of_expects (by simpa using hExpects)
  cases hParse : (DataBlock.parse msg).1 with
  | error e => rfl
  | ok blockEOFMsg =>
    apply Handles.guard
    intro _
    apply Handles.guard
    intro hSize
    refine ⟨blockEOFMsg, ⟨hState, hParse, Nat.not_lt.mp hSize, ?_⟩, rfl⟩
    intro hFalse
    cases hFalse

/-- An Init message whose options are resolved offers one that is supported. -/
def OptionsAgree (type : MessageType) (msg : Bytes) (s : TransferSession) : Prop :=
  type = .sendInit ∨ type = .receiveInit → ∀ transferInit,
    s.resolvedInit type msg = .ok transferInit →
      s.resolveReports transferInit.transferCtlOptions = none

theorem handleTransferInit_some (granted : Bool) (hInit : msgType = .sendInit ∨ msgType = .receiveInit)
  (hAgree : OptionsAgree msgType msg s) (hReports : s.initReports msgType msg = some code) :
  s.handleTransferInit granted msgType msg = s.prepareStatusReport granted code := by
  rw [initReports] at hReports
  cases hResolved : s.resolvedInit msgType msg with
  | error code' =>
    rw [hResolved] at hReports
    cases hReports
    exact handleTransferInit_error granted hResolved
  | ok transferInit =>
    rw [hResolved] at hReports
    exact nomatch (hAgree hInit transferInit hResolved).symm.trans hReports

theorem Handles.some (hReports : reports = .some code) (hHandles : Handles granted reports s goesOn s') :
  s' = s.prepareStatusReport granted code := by
  subst hReports
  exact hHandles

theorem Handles.none (hReports : reports = .none) (hHandles : Handles granted reports s goesOn s') :
  goesOn s' := by
  subst hReports
  exact hHandles

theorem handleBdxMessage_some {type : MessageType} (granted : Bool) (hAgree : OptionsAgree type msg s)
  (hReports : s.bdxReports type msg = some code) :
  s.handleBdxMessage granted type msg = s.prepareStatusReport granted code := by
  cases type with
  | sendInit => exact handleTransferInit_some granted (.inl rfl) hAgree hReports
  | receiveInit => exact handleTransferInit_some granted (.inr rfl) hAgree hReports
  | sendAccept => exact (handleSendAccept_handles granted msg s).some hReports
  | receiveAccept => exact (handleReceiveAccept_handles granted msg s).some hReports
  | blockQuery => exact (handleBlockQuery_handles granted msg s).some hReports
  | blockQueryWithSkip => exact (handleBlockQueryWithSkip_handles granted msg s).some hReports
  | block => exact (handleBlock_handles granted msg s).some hReports
  | blockEOF => exact (handleBlockEOF_handles granted msg s).some hReports
  | blockAck => exact (handleBlockAck_handles granted msg s).some hReports
  | blockAckEOF => exact (handleBlockAckEOF_handles granted msg s).some hReports

theorem handleBdxMessage_none {type : MessageType} (granted : Bool)
  (hReports : s.bdxReports type msg = none) :
  Moves s (s.handleBdxMessage granted type msg) ∨
    ∃ blockMsg isEof, type = (if isEof then .blockEOF else .block) ∧
      Takes msg s blockMsg isEof ∧
        s.handleBdxMessage granted type msg = s.blockReceived blockMsg isEof msg := by
  cases type with
  | sendInit => exact .inl (handleTransferInit_moves granted .sendInit msg s)
  | receiveInit => exact .inl (handleTransferInit_moves granted .receiveInit msg s)
  | sendAccept => exact .inl ((handleSendAccept_handles granted msg s).none hReports)
  | receiveAccept => exact .inl ((handleReceiveAccept_handles granted msg s).none hReports)
  | blockQuery => exact .inl ((handleBlockQuery_handles granted msg s).none hReports)
  | blockQueryWithSkip => exact .inl ((handleBlockQueryWithSkip_handles granted msg s).none hReports)
  | block =>
    obtain ⟨blockMsg, hTakes⟩ := (handleBlock_handles granted msg s).none hReports
    exact .inr ⟨blockMsg, false, rfl, hTakes⟩
  | blockEOF =>
    obtain ⟨blockEOFMsg, hTakes⟩ := (handleBlockEOF_handles granted msg s).none hReports
    exact .inr ⟨blockEOFMsg, true, rfl, hTakes⟩
  | blockAck => exact .inl ((handleBlockAck_handles granted msg s).none hReports)
  | blockAckEOF => exact .inl ((handleBlockAckEOF_handles granted msg s).none hReports)

theorem bdxReports_errorState (type : MessageType) (msg : Bytes) (hError : s.mState = .errorState) :
  ∃ code, s.bdxReports type msg = some code := by
  have hExpects (role : TransferRole) {state : TransferState} (hState : state ≠ .errorState) :
      (!s.expects role state) = true := by
    rw [Bool.not_eq_true']
    exact Bool.eq_false_iff.mpr fun hExpects =>
      hState ((state_of_expects hExpects).symm.trans hError)
  have hInit (msgType : MessageType) : s.initReports msgType msg = some .unexpectedMessage := by
    rw [initReports, resolvedInit, if_pos (by rw [hError]; decide)]
  have hAccept (role : TransferRole) (proposed : Except ChipError UInt8) :
      s.acceptReports role proposed = some .unexpectedMessage := by
    unfold acceptReports
    by_cases hRole : s.mRole ≠ role
    · rw [if_pos hRole]
    · rw [if_neg hRole, if_pos (by rw [hError]; decide)]
  have hCounter {state : TransferState} (hState : state ≠ .errorState) (expected : UInt32)
      (parsed : Except ChipError UInt32) :
      s.counterReports state expected parsed = some .unexpectedMessage := by
    unfold counterReports
    rw [if_pos (hExpects .sender hState)]
  refine ⟨.unexpectedMessage, ?_⟩
  cases type with
  | sendInit => exact hInit .sendInit
  | receiveInit => exact hInit .receiveInit
  | sendAccept => exact hAccept .sender _
  | receiveAccept => exact hAccept .receiver _
  | blockQuery => exact hCounter (by decide) _ _
  | blockQueryWithSkip => exact hCounter (by decide) _ _
  | block => exact if_pos (hExpects .receiver (by decide))
  | blockEOF => exact if_pos (hExpects .receiver (by decide))
  | blockAck => exact hCounter (by decide) _ _
  | blockAckEOF => exact hCounter (by decide) _ _

/-- What is left after a call that does not report: nothing happens in the error state. -/
def Left {α : Type} (s : TransferSession) (_ : α) (s' : TransferSession) : Prop :=
  Moves s s' ∧ (s.mState = .errorState → s' = s)

theorem Left.refl {α : Type} (a : α) : Left s a s := ⟨Moves.refl s, fun _ => rfl⟩

theorem ensures_writeToPacketBuffer {f : Unit → Proc ChipError TransferSession Unit}
  {Q : Except ChipError Unit → TransferSession → Prop} (hFail : Q (.error .noMemory) s)
  (hRest : Proc.Ensures (f ()) { s with mPendingMsg := msg } Q) :
  Proc.Ensures (writeToPacketBuffer granted msg >>= f) s Q := by
  cases granted with
  | true => exact hRest
  | false => exact hFail

theorem startTransfer_left (granted : Bool) (role : TransferRole) (initData : TransferInitData)
  (timeout : UInt32) (s : TransferSession) :
  Proc.Ensures (startTransfer granted role initData timeout) s (Left s) := by
  apply verify_bind (Left.refl _)
  intro hState
  have hEarly : s.mState.isEarly = true := by rw [hState]; rfl
  have hNot : s.mState ≠ .errorState := by rw [hState]; decide
  apply ensures_writeToPacketBuffer
  · exact ⟨⟨fun _ => hEarly, rfl, .inr hEarly, fun hBlock => ⟨hBlock, rfl⟩⟩,
      fun hError => absurd hError hNot⟩
  · exact ⟨⟨fun _ => hEarly, rfl, .inr hEarly, fun hBlock => nomatch hBlock⟩,
      fun hError => absurd hError hNot⟩

theorem waitForTransfer_left (role : TransferRole) (xferControlOpts : UInt8) (maxBlockSize : UInt16)
  (timeout : UInt32) (s : TransferSession) :
  Proc.Ensures (waitForTransfer role xferControlOpts maxBlockSize timeout) s (Left s) := by
  apply verify_bind (Left.refl _)
  intro hState
  have hEarly : s.mState.isEarly = true := by rw [hState]; rfl
  have hNot : s.mState ≠ .errorState := by rw [hState]; decide
  exact ⟨⟨fun _ => hEarly, rfl, .inl rfl, fun hBlock => ⟨hBlock, rfl⟩⟩,
    fun hError => absurd hError hNot⟩

theorem acceptTransfer_left (granted : Bool) (acceptData : TransferAcceptData)
  (s : TransferSession) : Proc.Ensures (acceptTransfer granted acceptData) s (Left s) := by
  apply verify_bind (Left.refl _)
  intro hState
  apply verify_bind (Left.refl _)
  intro _
  apply verify_bind (Left.refl _)
  intro _
  apply verify_bind (Left.refl _)
  intro _
  have hEarly : s.mState.isEarly = true := by rw [hState]; rfl
  have hNot : s.mState ≠ .errorState := by rw [hState]; decide
  unfold Proc.Ensures
  rw [Proc.modify_bind]
  by_cases hRole : s.mRole = .sender
  · rw [if_pos hRole, Proc.modify_bind]
    cases granted with
    | true =>
      exact ⟨⟨fun _ => hEarly, rfl, .inr hEarly, fun hBlock => nomatch hBlock⟩,
        fun hError => absurd hError hNot⟩
    | false =>
      exact ⟨⟨fun _ => hEarly, rfl, .inr hEarly, fun hBlock => ⟨hBlock, rfl⟩⟩,
        fun hError => absurd hError hNot⟩
  · rw [if_neg hRole]
    cases granted with
    | true =>
      exact ⟨⟨fun _ => hEarly, rfl, .inr hEarly, fun hBlock => nomatch hBlock⟩,
        fun hError => absurd hError hNot⟩
    | false =>
      exact ⟨⟨fun _ => hEarly, rfl, .inr hEarly, fun hBlock => ⟨hBlock, rfl⟩⟩,
        fun hError => absurd hError hNot⟩

theorem prepareQuery_left (granted : Bool) (type : MessageType) (msg : UInt32 → Bytes)
  (s : TransferSession) : Proc.Ensures (prepareQuery granted type msg) s (Left s) := by
  apply verify_bind (Left.refl _)
  intro hState
  apply verify_bind (Left.refl _)
  intro _
  apply verify_bind (Left.refl _)
  intro _
  apply verify_bind (Left.refl _)
  intro _
  apply ensures_writeToPacketBuffer (Left.refl _)
  have hNot : s.mState ≠ .errorState := by rw [hState]; decide
  exact ⟨⟨fun hEarly => hEarly, rfl, .inl rfl, fun hBlock => nomatch hBlock⟩,
    fun hError => absurd hError hNot⟩

theorem prepareBlock_left (granted : Bool) (inData : BlockData) (s : TransferSession) :
  Proc.Ensures (prepareBlock granted inData) s (Left s) := by
  apply verify_bind (Left.refl _)
  intro hState
  apply verify_bind (Left.refl _)
  intro _
  apply verify_bind (Left.refl _)
  intro _
  apply verify_bind (Left.refl _)
  intro _
  apply verify_bind (Left.refl _)
  intro _
  apply verify_bind (Left.refl _)
  intro _
  apply ensures_writeToPacketBuffer (Left.refl _)
  have hNot : s.mState ≠ .errorState := by rw [hState]; decide
  refine ⟨⟨fun hEarly => ?_, rfl, .inl rfl, fun hBlock => nomatch hBlock⟩,
    fun hError => absurd hError hNot⟩
  change (if inData.isEof then TransferState.awaitingEOFAck else s.mState).isEarly = true at hEarly
  cases hEof : inData.isEof with
  | true =>
    rw [hEof] at hEarly
    cases hEarly
  | false =>
    rw [hEof] at hEarly
    exact hEarly

theorem prepareBlockAck_left (granted : Bool) (s : TransferSession) :
  Proc.Ensures (prepareBlockAck granted) s (Left s) := by
  apply verify_bind (Left.refl _)
  intro _
  apply verify_bind (Left.refl _)
  intro hState
  apply verify_bind (Left.refl _)
  intro _
  apply ensures_writeToPacketBuffer (Left.refl _)
  have hNot : s.mState ≠ .errorState := by
    rintro hError
    rw [hError] at hState
    cases hState with
    | inl hProgress => cases hProgress
    | inr hEof => cases hEof
  unfold Proc.Ensures
  rw [Proc.modify_bind]
  dsimp only
  by_cases hEof : s.mState = .receivedEOF
  · rw [if_pos hEof, if_pos hEof]
    have hEarly : TransferState.transferDone.isEarly = true → s.mState.isEarly = true :=
      fun hEarly => nomatch hEarly
    exact ⟨⟨hEarly, rfl, .inl rfl, fun hBlock => nomatch hBlock⟩,
      fun hError => absurd hError hNot⟩
  · rw [if_neg hEof, if_neg hEof]
    split_ifs
    · exact ⟨⟨fun hEarly => hEarly, rfl, .inl rfl, fun hBlock => nomatch hBlock⟩,
        fun hError => absurd hError hNot⟩
    · exact ⟨⟨fun hEarly => hEarly, rfl, .inl rfl, fun hBlock => nomatch hBlock⟩,
        fun hError => absurd hError hNot⟩

end TransferSession

end Chip.Bdx
