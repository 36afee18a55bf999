import Chip.Bdx.SessionCalls

/-! The negotiation of a transfer. The responder resolves the control mode when the Init message
arrives, and `AcceptTransfer` does not set it to the mode that the application accepts. -/
namespace Chip.Bdx

open Chip.Transport (Bytes)

def TransferRole.other : TransferRole → TransferRole
  | .sender => .receiver
  | .receiver => .sender

namespace TransferSession

open TransferControlFlags

variable {s s' : TransferSession} {granted : Bool}

/-- The control mode of a responder after the Init message. It is the one before, unless there is a
single common option. -/
def resolvedMode (supported proposed before : UInt8) : UInt8 :=
  if !has proposed (senderDrive ||| receiverDrive) then before
  else if proposed &&& supported = 0 then before
  else if hasOnly (proposed &&& supported) async then async
  else if hasOnly (proposed &&& supported) receiverDrive then receiverDrive
  else if hasOnly (proposed &&& supported) senderDrive then senderDrive
  else before

theorem resolveTransferControlOptions_eq (granted : Bool) (proposed : UInt8)
  (hFree : s.mAwaitingResponse = false) :
  ∃ output msg status type state, s.resolveTransferControlOptions granted proposed = { s with
    mControlMode := resolvedMode s.mSuppportedXferOpts proposed s.mControlMode
    mPendingOutput := output
    mPendingMsg := msg
    mStatusReportData := status
    mMsgTypeData := type
    mState := state } := by
  have hReport : ∃ output msg status type state,
      s.prepareStatusReport granted .transferMethodNotSupported = { s with
        mPendingOutput := output
        mPendingMsg := msg
        mStatusReportData := status
        mMsgTypeData := type
        mState := state } := by
    rw [prepareStatusReport]
    cases granted with
    | true =>
      exact ⟨.msgToSend, statusReport .transferMethodNotSupported, .transferMethodNotSupported,
        .statusReport, .errorState, by simp [prepareOutgoingMessageEvent, hFree]⟩
    | false =>
      exact ⟨.internalError, s.mPendingMsg, .transferMethodNotSupported, s.mMsgTypeData,
        .errorState, by simp [hFree]⟩
  have hSame : ∀ mode, ∃ output msg status type state, { s with mControlMode := mode } = { s with
      mControlMode := mode
      mPendingOutput := output
      mPendingMsg := msg
      mStatusReportData := status
      mMsgTypeData := type
      mState := state } :=
    fun mode => ⟨s.mPendingOutput, s.mPendingMsg, s.mStatusReportData, s.mMsgTypeData, s.mState, rfl⟩
  rw [resolveTransferControlOptions, resolvedMode]
  split
  · exact hReport
  · split
    · exact hReport
    · split
      · exact hSame _
      · split
        · exact hSame _
        · split
          · exact hSame _
          · exact hSame _

def requestOf (initData : TransferInitData) : TransferInitData :=
  { initData with transferCtlFlags := initData.transferCtlFlags &&& ~~~versionMask }

def asked (initData : TransferInitData) (s : TransferSession) : TransferSession :=
  { s with
    mControlMode := resolvedMode s.mSuppportedXferOpts (requestOf initData).transferCtlFlags
      s.mControlMode
    mTransferVersion := bdxVersion
    mTransferMaxBlockSize := min s.mMaxSupportedBlockSize initData.maxBlockSize
    mStartOffset := initData.startOffset
    mTransferLength := initData.length
    mTransferRequestData := requestOf initData
    mPendingMsg := (initMessage s.mRole.other initData).payload
    mPendingOutput := .initReceived
    mState := .negotiateTransferParams }

theorem min_bdxVersion (version : UInt8) : min bdxVersion version = bdxVersion := by
  change (if bdxVersion ≤ version then bdxVersion else version) = bdxVersion
  exact if_pos (UInt8.le_iff_toNat_le.mpr (Nat.zero_le _))

theorem handleInit {initData : TransferInitData} {type : MessageType} {payload : Bytes}
  (granted : Bool) (hState : s.mState = .awaitingInitMsg) (hFree : s.mAwaitingResponse = false)
  (hFits : initData.fileDesignator.length < 256 ^ 2)
  (hMessage : initMessage s.mRole.other initData = ⟨.bdx type, payload⟩) :
  ∃ status msgType, s.handleBdxMessage granted type payload =
    { s.asked initData with mStatusReportData := status, mMsgTypeData := msgType } := by
  injection hMessage with hType hPayload
  have hKind : type = if s.mRole = .sender then .receiveInit else .sendInit := by
    injection hType with hType
    rw [← hType]
    cases s.mRole with
    | sender => rfl
    | receiver => rfl
  have hHandle : s.handleBdxMessage granted type payload =
      s.handleTransferInit granted type payload := by
    rw [hKind]
    cases s.mRole with
    | sender => rfl
    | receiver => rfl
  have hParse := TransferInit.parse_writeToBuffer {
    transferCtlOptions := initData.transferCtlFlags
    version := bdxVersion
    maxBlockSize := initData.maxBlockSize
    startOffset := initData.startOffset
    maxLength := initData.length
    fileDesignator := initData.fileDesignator
    metadata := initData.metadata } hFits
  have hFlags : ((bdxVersion &&& versionMask) ||| initData.transferCtlFlags) &&& ~~~versionMask =
      (requestOf initData).transferCtlFlags := control_flags rfl
  have hPayload' : payload = TransferInit.writeToBuffer _ := hPayload.symm
  rw [hHandle, handleTransferInit, if_neg (by simp [hState]), if_neg (by simp [hKind]), hPayload',
    hParse]
  dsimp only
  rw [hFlags]
  obtain ⟨output, msg, status, msgType, state, hResolved⟩ :=
    resolveTransferControlOptions_eq granted (requestOf initData).transferCtlFlags hFree
  refine ⟨status, msgType, ?_⟩
  rw [hResolved]
  simp only [initReceived, min_bdxVersion]
  rfl

def acceptedMode (acceptData : TransferAcceptData) : UInt8 := acceptData.controlMode &&& ~~~versionMask

/-- An initiator that has received an Accept message with a mode. -/
def agreed (mode : UInt8) (acceptData : TransferAcceptData) (s : TransferSession) :
  TransferSession :=
  { s with
    mControlMode := mode
    mTransferMaxBlockSize := acceptData.maxBlockSize
    mStartOffset := if s.mRole = .sender then s.mStartOffset else acceptData.startOffset
    mTransferLength := if s.mRole = .sender then s.mTransferLength else acceptData.length
    mTransferAcceptData :=
      { controlMode := mode
        maxBlockSize := acceptData.maxBlockSize
        startOffset := if s.mRole = .sender then s.mStartOffset else acceptData.startOffset
        length := if s.mRole = .sender then s.mTransferLength else acceptData.length
        metadata := acceptData.metadata }
    mPendingMsg := (acceptMessage s.mRole.other bdxVersion acceptData).payload
    mPendingOutput := .acceptReceived
    mAwaitingResponse := mode = if s.mRole = .sender then receiverDrive else senderDrive
    mState := .transferInProgress }

theorem verifyProposedMode_cases (proposed : UInt8) (s : TransferSession) (granted : Bool) :
  (∃ mode, singleMode proposed = some mode ∧ has s.mSuppportedXferOpts mode = true ∧
      s.verifyProposedMode granted proposed = (true, { s with mControlMode := mode })) ∨
    ((∀ mode, singleMode proposed = some mode → has s.mSuppportedXferOpts mode ≠ true) ∧
      (s.verifyProposedMode granted proposed).1 = false ∧
      (s.verifyProposedMode granted proposed).2.mState = .errorState) := by
  rw [verifyProposedMode]
  cases hMode : singleMode proposed with
  | none => exact .inr ⟨fun mode hNone => absurd hNone (by simp), rfl, rfl⟩
  | some mode =>
    dsimp only
    split
    · rename_i hHas
      exact .inl ⟨mode, rfl, hHas, rfl⟩
    · rename_i hNot
      refine .inr ⟨fun mode' hMode' => ?_, rfl, rfl⟩
      injection hMode' with hMode'
      rw [← hMode']
      exact hNot

theorem handleAccept {acceptData : TransferAcceptData} {type : MessageType} {payload : Bytes}
  (granted : Bool) (hState : s.mState = .awaitingAccept)
  (hMessage : acceptMessage s.mRole.other bdxVersion acceptData = ⟨.bdx type, payload⟩) :
  (∃ mode, singleMode (acceptedMode acceptData) = some mode ∧
      has s.mSuppportedXferOpts mode = true ∧
      s.handleBdxMessage granted type payload = s.agreed mode acceptData) ∨
    ((∀ mode, singleMode (acceptedMode acceptData) = some mode →
        has s.mSuppportedXferOpts mode ≠ true) ∧
      (s.handleBdxMessage granted type payload).mState = .errorState) := by
  have hFlags : ((bdxVersion &&& versionMask) ||| acceptData.controlMode) &&& ~~~versionMask =
      acceptedMode acceptData := control_flags rfl
  cases hRole : s.mRole with
  | sender =>
    rw [hRole] at hMessage
    injection hMessage with hType hPayload
    injection hType with hType
    subst hType
    have hParse := SendAccept.parse_writeToBuffer {
      transferCtlFlags := acceptData.controlMode
      version := bdxVersion
      maxBlockSize := acceptData.maxBlockSize
      metadata := acceptData.metadata }
    have hPayload' : payload = SendAccept.writeToBuffer _ := hPayload.symm
    change (∃ mode, _ ∧ _ ∧ s.handleSendAccept granted payload = _) ∨
      (_ ∧ (s.handleSendAccept granted payload).mState = _)
    rw [handleSendAccept, if_neg (by simp [hRole]), if_neg (by simp [hState]), hPayload', hParse]
    dsimp only
    rw [hFlags]
    rcases verifyProposedMode_cases (acceptedMode acceptData) s granted with
      ⟨mode, hMode, hHas, hVerified⟩ | ⟨hNone, hFailed, hError⟩
    · refine .inl ⟨mode, hMode, hHas, ?_⟩
      rw [hVerified]
      simp only [Bool.not_true, Bool.false_eq_true, if_false, acceptReceived, agreed, hRole,
        if_true]
      rfl
    · refine .inr ⟨hNone, ?_⟩
      rw [hFailed]
      exact hError
  | receiver =>
    rw [hRole] at hMessage
    injection hMessage with hType hPayload
    injection hType with hType
    subst hType
    have hParse := ReceiveAccept.parse_writeToBuffer {
      transferCtlFlags := acceptData.controlMode
      version := bdxVersion
      maxBlockSize := acceptData.maxBlockSize
      startOffset := acceptData.startOffset
      length := acceptData.length
      metadata := acceptData.metadata }
    have hPayload' : payload = ReceiveAccept.writeToBuffer _ := hPayload.symm
    change (∃ mode, _ ∧ _ ∧ s.handleReceiveAccept granted payload = _) ∨
      (_ ∧ (s.handleReceiveAccept granted payload).mState = _)
    rw [handleReceiveAccept, if_neg (by simp [hRole]), if_neg (by simp [hState]), hPayload',
      hParse]
    dsimp only
    rw [hFlags]
    rcases verifyProposedMode_cases (acceptedMode acceptData) s granted with
      ⟨mode, hMode, hHas, hVerified⟩ | ⟨hNone, hFailed, hError⟩
    · refine .inl ⟨mode, hMode, hHas, ?_⟩
      rw [hVerified]
      simp only [Bool.not_true, Bool.false_eq_true, if_false, acceptReceived, agreed, hRole,
        reduceCtorEq]
      rfl
    · refine .inr ⟨hNone, ?_⟩
      rw [hFailed]
      exact hError

inductive Waits : TransferSession → TransferSession → Prop
  | refl (s : TransferSession) : Waits s s
  | poll {s s' s'' : TransferSession} (curTime : UInt64) (waits : Waits s s')
      (nothing : s'.pollOutput curTime = (.none, s'')) : Waits s s''

def timeless (s : TransferSession) : TransferSession :=
  { s with mTimeoutStartTime := 0, mShouldInitTimeoutStart := false }

theorem timeless_polled (curTime : UInt64) :
  (s.polled curTime).timeless = { s with mPendingOutput := .none }.timeless := rfl

variable {curTime : UInt64}

theorem pending_none_of_event (hPoll : s.pollOutput curTime = (.none, s')) :
  s.mPendingOutput = .none ∧ s' = s.polled curTime := by
  obtain ⟨hEvent, hState⟩ := pollOutput_eq hPoll (by simp)
  refine ⟨?_, hState⟩
  split at hEvent
  · cases hEvent
  · cases hOutput : s.mPendingOutput with
    | none => rfl
    | _ => simp [pendingEvent, hOutput] at hEvent

theorem timeless_waits (hWaits : Waits s s') : s'.timeless = s.timeless := by
  induction hWaits with
  | refl => rfl
  | poll curTime _ hNothing ih =>
    obtain ⟨hNone, hState⟩ := pending_none_of_event hNothing
    rw [hState, timeless_polled, ← ih, ← hNone]

theorem pollOutput_msgToSend {msg : Message} (hPoll : s.pollOutput curTime = (.msgToSend msg, s'))
  (hOutput : s.mPendingOutput = .msgToSend) :
  msg = ⟨s.mMsgTypeData, s.mPendingMsg⟩ ∧ s' = s.polled curTime := by
  obtain ⟨hEvent, hState⟩ := pollOutput_eq hPoll (by simp)
  rw [if_neg (by simp [hOutput]), pendingEvent, hOutput] at hEvent
  injection hEvent with hEvent
  exact ⟨hEvent, hState⟩

/-- A negotiation from `StartTransfer` and `WaitForTransfer` on, until the initiator has handled the
Accept message without an error. `mode` is what the responder has for a control mode before. -/
inductive Negotiated (role : TransferRole) (initData : TransferInitData) (xferControlOpts : UInt8)
    (maxBlockSize : UInt16) (mode : UInt8) (acceptData : TransferAcceptData) :
    TransferSession → TransferSession → Prop
  | intro {i₀ i₁ i₂ i₃ r₀ r₁ r₂ r₃ r₄ r₅ r₆ : TransferSession} {init accept : Message}
      {request : TransferInitData} (garbage : UInt8) (timeout timeout' : UInt32)
      (t₁ t₂ t₃ t₄ t₅ : UInt64) (g₁ g₂ g₃ g₄ : Bool)
      (start : startTransfer g₁ role initData timeout (fresh role garbage) = (.ok (), i₀))
      (wait : waitForTransfer role.other xferControlOpts maxBlockSize timeout'
        (fresh role.other mode) = (.ok (), r₀))
      (sends : i₀.pollOutput t₁ = (.msgToSend init, i₁)) (waits : Waits r₀ r₁)
      (receives : handleMessageReceived g₂ init t₂ r₁ = (.ok (), r₂))
      (reports : r₂.pollOutput t₃ = (.initReceived request, r₃)) (waits' : Waits r₃ r₄)
      (accepts : acceptTransfer g₃ acceptData r₄ = (.ok (), r₅))
      (answers : r₅.pollOutput t₄ = (.msgToSend accept, r₆)) (waits'' : Waits i₁ i₂)
      (handles : handleMessageReceived g₄ accept t₅ i₂ = (.ok (), i₃))
      (noError : i₃.mState ≠ .errorState) :
      Negotiated role initData xferControlOpts maxBlockSize mode acceptData i₃ r₆

/-- The sessions agree on the terms of the transfer, and the terms are what both have offered. -/
structure Agree (initData : TransferInitData) (supportedBlockSize : UInt16)
    (initiator responder : TransferSession) : Prop where
  inProgress : initiator.mState = .transferInProgress ∧ responder.mState = .transferInProgress
  controlMode : initiator.mControlMode = responder.mControlMode
  single : initiator.mControlMode = async ∨ initiator.mControlMode = receiverDrive ∨
    initiator.mControlMode = senderDrive
  proposed : has initData.transferCtlFlags initiator.mControlMode = true
  maxBlockSize : initiator.mTransferMaxBlockSize = responder.mTransferMaxBlockSize
  declared : initiator.mTransferMaxBlockSize ≤ initData.maxBlockSize ∧
    initiator.mTransferMaxBlockSize ≤ supportedBlockSize
  startOffset : initiator.mStartOffset = responder.mStartOffset
  length : initiator.mTransferLength = responder.mTransferLength

theorem eq_of_hasOnly : ∀ n < 256, ∀ flag ∈ [async, receiverDrive, senderDrive],
  hasOnly (UInt8.ofNat n) flag = true → UInt8.ofNat n = 0 ∨ UInt8.ofNat n = flag := by
  simp only [List.forall_mem_cons, List.not_mem_nil, false_implies, implies_true, and_true]
  decide +kernel

theorem eq_of_singleMode {proposed mode : UInt8} (hMode : singleMode proposed = some mode)
  (hSome : proposed ≠ 0) :
  proposed = mode ∧ (mode = async ∨ mode = receiverDrive ∨ mode = senderDrive) := by
  have hOnly : ∀ flag ∈ [async, receiverDrive, senderDrive], hasOnly proposed flag = true →
      proposed = flag := by
    intro flag hFlag hHas
    have hAll := eq_of_hasOnly proposed.toNat proposed.toNat_lt flag hFlag
    rw [UInt8.ofNat_toNat] at hAll
    exact (hAll hHas).resolve_left hSome
  rw [singleMode] at hMode
  split at hMode
  · rename_i hHas
    injection hMode with hMode
    exact ⟨hMode ▸ hOnly async (by simp) hHas, .inl hMode.symm⟩
  · split at hMode
    · rename_i hHas
      injection hMode with hMode
      exact ⟨hMode ▸ hOnly receiverDrive (by simp) hHas, .inr (.inl hMode.symm)⟩
    · split at hMode
      · rename_i hHas
        injection hMode with hMode
        exact ⟨hMode ▸ hOnly senderDrive (by simp) hHas, .inr (.inr hMode.symm)⟩
      · cases hMode

theorem acceptedMode_ne_zero {flags : UInt8} {acceptData : TransferAcceptData}
  (hHas : has (flags &&& ~~~versionMask) acceptData.controlMode = true) :
  acceptedMode acceptData ≠ 0 := by
  intro hZero
  rw [has, decide_eq_true_eq] at hHas
  refine hHas ?_
  rw [UInt8.and_assoc, UInt8.and_comm (~~~versionMask)]
  change flags &&& acceptedMode acceptData = 0
  rw [hZero, UInt8.and_zero]

theorem other_other (role : TransferRole) : role.other.other = role := by
  cases role with
  | sender => rfl
  | receiver => rfl

structure Outcome (role : TransferRole) (initData : TransferInitData) (xferControlOpts mode : UInt8)
    (acceptData : TransferAcceptData) (initiator responder : TransferSession) : Prop where
  inProgress : initiator.mState = .transferInProgress ∧ responder.mState = .transferInProgress
  initiatorMode : singleMode (acceptedMode acceptData) = some initiator.mControlMode
  proposed : has initData.transferCtlFlags initiator.mControlMode = true
  responderMode : responder.mControlMode =
    resolvedMode xferControlOpts (initData.transferCtlFlags &&& ~~~versionMask) mode
  accepted : has (initData.transferCtlFlags &&& ~~~versionMask) acceptData.controlMode = true
  maxBlockSize : initiator.mTransferMaxBlockSize = acceptData.maxBlockSize ∧
    responder.mTransferMaxBlockSize = acceptData.maxBlockSize ∧
    acceptData.maxBlockSize ≤ initData.maxBlockSize
  startOffset : initiator.mStartOffset = responder.mStartOffset
  length : initiator.mTransferLength = responder.mTransferLength

variable {role : TransferRole} {initData : TransferInitData} {xferControlOpts mode : UInt8}
  {maxBlockSize : UInt16} {acceptData : TransferAcceptData} {initiator responder : TransferSession}

theorem receiveInit_ok (hState : s.mState = .awaitingInitMsg) (hFree : s.mAwaitingResponse = false)
  (hFits : initData.fileDesignator.length < 256 ^ 2)
  (hOk : handleMessageReceived granted (initMessage s.mRole.other initData) curTime s = (.ok (), s')) :
  ∃ status msgType, s'.timeless =
    { s.asked initData with mStatusReportData := status, mMsgTypeData := msgType }.timeless := by
  have hMessage : initMessage s.mRole.other initData =
      ⟨.bdx (if s.mRole.other = .sender then .sendInit else .receiveInit), _⟩ := rfl
  obtain ⟨status, msgType, hAsked⟩ := handleInit granted hState hFree hFits hMessage
  obtain ⟨-, hEq⟩ := handleMessageReceived_ok hOk
  refine ⟨status, msgType, ?_⟩
  rw [hEq, hAsked]
  rfl

theorem receiveAccept_ok (hState : s.mState = .awaitingAccept)
  (hOk : handleMessageReceived granted (acceptMessage s.mRole.other bdxVersion acceptData) curTime
    s = (.ok (), s')) (hNoError : s'.mState ≠ .errorState) :
  ∃ mode, singleMode (acceptedMode acceptData) = some mode ∧
    has s.mSuppportedXferOpts mode = true ∧ s'.timeless = (s.agreed mode acceptData).timeless := by
  have hType : ∃ type payload, acceptMessage s.mRole.other bdxVersion acceptData =
      ⟨.bdx type, payload⟩ := by
    cases s.mRole with
    | sender => exact ⟨_, _, rfl⟩
    | receiver => exact ⟨_, _, rfl⟩
  obtain ⟨type, payload, hMessage⟩ := hType
  rw [hMessage] at hOk
  obtain ⟨-, hEq⟩ := handleMessageReceived_ok hOk
  rcases handleAccept granted hState hMessage with
    ⟨mode, hMode, hHas, hAgreed⟩ | ⟨-, hError⟩
  · refine ⟨mode, hMode, hHas, ?_⟩
    rw [hEq, hAgreed]
    rfl
  · rw [hEq] at hNoError
    exact absurd hError hNoError

theorem outcome_of_negotiated (hFits : initData.fileDesignator.length < 256 ^ 2)
  (hNegotiated : Negotiated role initData xferControlOpts maxBlockSize mode acceptData initiator
    responder) :
  Outcome role initData xferControlOpts mode acceptData initiator responder := by
  obtain ⟨garbage, timeout, timeout', t₁, t₂, t₃, t₄, t₅, g₁, g₂, g₃, g₄, hStart, hWait, hSends,
    hWaits, hReceives, hReports, hWaits', hAccepts, hAnswers, hWaits'', hHandles, hNoError⟩ :=
    hNegotiated
  rename_i i₀ i₁ i₂ r₀ r₁ r₂ r₃ r₄ r₅ init accept request
  obtain ⟨-, hi₀⟩ := startTransfer_ok hStart
  obtain ⟨-, hr₀⟩ := waitForTransfer_ok hWait
  have hi₁ := pollOutput_msgToSend hSends (by rw [hi₀]; rfl)
  -- The Init message at the responder.
  have hr₁ := timeless_waits hWaits
  rw [hr₀] at hr₁
  have hRole₁ : r₁.mRole = role.other := (congrArg mRole hr₁ :)
  have hInit : init = initMessage r₁.mRole.other initData := by
    rw [hi₁.1, hi₀, hRole₁, other_other]
    rfl
  rw [hInit] at hReceives
  obtain ⟨status, msgType, hr₂⟩ := receiveInit_ok (s := r₁) (congrArg mState hr₁ :)
    (congrArg mAwaitingResponse hr₁ :) hFits hReceives
  obtain ⟨-, hr₃⟩ := pollOutput_eq hReports (by simp)
  have hr₄ := timeless_waits hWaits'
  rw [hr₃, timeless_polled] at hr₄
  -- The Accept message at the initiator.
  obtain ⟨hMay, hr₅⟩ := acceptTransfer_ok hAccepts
  obtain ⟨hAccept, hResponder⟩ := pollOutput_msgToSend hAnswers (by rw [hr₅]; rfl)
  have hi₂ := timeless_waits hWaits''
  rw [hi₁.2, timeless_polled, hi₀] at hi₂
  have hRole₂ : i₂.mRole = role := (congrArg mRole hi₂ :)
  have hRole₄ : r₄.mRole = role.other :=
    (congrArg mRole hr₄ :).trans ((congrArg mRole hr₂ :).trans hRole₁)
  have hVersion : r₄.mTransferVersion = bdxVersion :=
    (congrArg mTransferVersion hr₄ :).trans (congrArg mTransferVersion hr₂ :)
  have hAcceptEq : accept = acceptMessage i₂.mRole.other bdxVersion acceptData := by
    rw [hAccept, hr₅, hRole₂, ← hRole₄, ← hVersion]
    rfl
  rw [hAcceptEq] at hHandles
  obtain ⟨mode', hMode, hHas, hi₃⟩ := receiveAccept_ok (s := i₂) (congrArg mState hi₂ :) hHandles
    hNoError
  -- The terms at both ends.
  have hRequest : r₄.mTransferRequestData = requestOf initData :=
    (congrArg mTransferRequestData hr₄ :).trans (congrArg mTransferRequestData hr₂ :)
  have hSupported : i₂.mSuppportedXferOpts = initData.transferCtlFlags :=
    (congrArg mSuppportedXferOpts hi₂ :)
  have hResponderMode : r₄.mControlMode =
      resolvedMode r₁.mSuppportedXferOpts (requestOf initData).transferCtlFlags r₁.mControlMode :=
    (congrArg mControlMode hr₄ :).trans (congrArg mControlMode hr₂ :)
  have hOpts : r₁.mSuppportedXferOpts = xferControlOpts := (congrArg mSuppportedXferOpts hr₁ :)
  have hBefore : r₁.mControlMode = mode := (congrArg mControlMode hr₁ :)
  have hOffset : r₄.mStartOffset = i₂.mStartOffset :=
    (congrArg mStartOffset hr₄ :).trans ((congrArg mStartOffset hr₂ :).trans
      (congrArg mStartOffset hi₂ :).symm)
  have hLength : r₄.mTransferLength = i₂.mTransferLength :=
    (congrArg mTransferLength hr₄ :).trans ((congrArg mTransferLength hr₂ :).trans
      (congrArg mTransferLength hi₂ :).symm)
  have hInitiatorMode : initiator.mControlMode = mode' := (congrArg mControlMode hi₃ :)
  have hMayMode := hMay.mode
  have hMaySize := hMay.maxBlockSize
  rw [hRequest] at hMayMode hMaySize
  refine ⟨⟨(congrArg mState hi₃ :), ?_⟩, ?_, ?_, ?_, hMayMode, ⟨?_, ?_, hMaySize⟩, ?_, ?_⟩
  · rw [hResponder, hr₅]
    rfl
  · rw [hInitiatorMode]
    exact hMode
  · rw [hInitiatorMode, ← hSupported]
    exact hHas
  · rw [hResponder, hr₅, ← hOpts, ← hBefore]
    exact hResponderMode
  · exact (congrArg mTransferMaxBlockSize hi₃ :)
  · rw [hResponder, hr₅]
    rfl
  · have hInitiator : initiator.mStartOffset =
        if i₂.mRole = .sender then i₂.mStartOffset else acceptData.startOffset :=
      (congrArg mStartOffset hi₃ :)
    have hOther : responder.mStartOffset =
        if r₄.mRole = .sender then acceptData.startOffset else r₄.mStartOffset := by
      rw [hResponder, hr₅]
      rfl
    rw [hInitiator, hOther, hRole₂, hRole₄, hOffset]
    cases role with
    | sender => rfl
    | receiver => rfl
  · have hInitiator : initiator.mTransferLength =
        if i₂.mRole = .sender then i₂.mTransferLength else acceptData.length :=
      (congrArg mTransferLength hi₃ :)
    have hOther : responder.mTransferLength =
        if r₄.mRole = .sender then acceptData.length else r₄.mTransferLength := by
      rw [hResponder, hr₅]
      rfl
    rw [hInitiator, hOther, hRole₂, hRole₄, hLength]
    cases role with
    | sender => rfl
    | receiver => rfl

/-- After a negotiation the sessions agree exactly if the mode that was accepted is the one that the
responder has resolved, or that it has kept from before when there is not a single common option, and
the accepted block size is one that the responder supports. -/
theorem negotiated_agree_iff (hFits : initData.fileDesignator.length < 256 ^ 2)
    (hNegotiated : Negotiated role initData xferControlOpts maxBlockSize mode acceptData initiator
      responder) :
    Agree initData maxBlockSize initiator responder ↔
      resolvedMode xferControlOpts (initData.transferCtlFlags &&& ~~~versionMask) mode =
          acceptData.controlMode &&& ~~~versionMask ∧
        acceptData.maxBlockSize ≤ maxBlockSize := by
  have hOutcome := outcome_of_negotiated hFits hNegotiated
  obtain ⟨hEq, hSingle⟩ := eq_of_singleMode hOutcome.initiatorMode
    (acceptedMode_ne_zero hOutcome.accepted)
  obtain ⟨hSize, hSize', hLess⟩ := hOutcome.maxBlockSize
  refine ⟨fun hAgree => ⟨?_, ?_⟩, fun ⟨hMode, hSupported⟩ => ?_⟩
  · rw [← hOutcome.responderMode, ← hAgree.controlMode]
    exact hEq.symm
  · rw [← hSize]
    exact hAgree.declared.2
  · exact {
      inProgress := hOutcome.inProgress
      controlMode := by
        rw [hOutcome.responderMode, hMode]
        exact hEq.symm
      single := hSingle
      proposed := hOutcome.proposed
      maxBlockSize := hSize.trans hSize'.symm
      declared := by
        rw [hSize]
        exact ⟨hLess, hSupported⟩
      startOffset := hOutcome.startOffset
      length := hOutcome.length }

/-- A receiver proposes to drive, and the sender accepts smaller blocks. -/
theorem negotiated_agree_iff_receiverDrive : ∃ initiator responder,
    Negotiated .receiver ⟨receiverDrive, 100, 0, 0, [1], []⟩ (senderDrive ||| receiverDrive) 100 0
        ⟨receiverDrive, 64, 0, 0, []⟩ initiator responder ∧
      Agree ⟨receiverDrive, 100, 0, 0, [1], []⟩ 100 initiator responder := by
  have hNegotiated : Negotiated .receiver ⟨receiverDrive, 100, 0, 0, [1], []⟩
      (senderDrive ||| receiverDrive) 100 0 ⟨receiverDrive, 64, 0, 0, []⟩ _ _ :=
    .intro 0 1000 1000 0 0 0 0 0 true true true true rfl rfl rfl (.refl _) rfl rfl (.refl _) rfl rfl
      (.refl _) rfl (by decide)
  exact ⟨_, _, hNegotiated, (negotiated_agree_iff (by decide) hNegotiated).mpr (by decide)⟩

/-- A receiver proposes both drives, and the sender supports both. The receiver goes on in receiver
drive, which the application of the sender has accepted, and the sender in none. -/
theorem negotiated_disagree : ¬ ∀ (role : TransferRole) (initData : TransferInitData)
    (xferControlOpts : UInt8) (maxBlockSize : UInt16) (mode : UInt8)
    (acceptData : TransferAcceptData) (initiator responder : TransferSession),
    initData.fileDesignator.length < 256 ^ 2 →
    Negotiated role initData xferControlOpts maxBlockSize mode acceptData initiator responder →
    Agree initData maxBlockSize initiator responder := by
  intro hAll
  have hNegotiated : Negotiated .receiver ⟨senderDrive ||| receiverDrive, 100, 0, 0, [1], []⟩
      (senderDrive ||| receiverDrive) 100 0 ⟨receiverDrive, 64, 0, 0, []⟩ _ _ :=
    .intro 0 1000 1000 0 0 0 0 0 true true true true rfl rfl rfl (.refl _) rfl rfl (.refl _) rfl rfl
      (.refl _) rfl (by decide)
  have hAgree := hAll _ _ _ _ _ _ _ _ (by decide) hNegotiated
  exact absurd hAgree.controlMode (by decide)

end TransferSession

end Chip.Bdx
