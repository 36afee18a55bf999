import Chip.Bdx.TransferStages

/-! The negotiation and the transfer as one run: in every state the sessions are in a phase of it. -/
namespace Chip.Bdx

open TransferSession

open Chip.Transport (Bytes)

open TransferControlFlags TransferSession

namespace Exchange

def received (x : Exchange) : List BlockData := x.delivered ++ pendingBlocks x.receiver

/-- What the phases are about: a poll does not change it. -/
@[ext]
structure View where
  session : TransferRole → TransferSession
  line : TransferRole → List Message
  prepared : List BlockData
  received : List BlockData

def view (x : Exchange) : View where
  session role := core (x.session role)
  line := x.line
  prepared := x.prepared
  received := x.received

def ProgressFrom (mode : UInt8) (initiator : TransferRole) (i r : TransferSession)
  (toInitiator toResponder : List Message) (prepared received : List BlockData) : Prop :=
  match initiator with
  | .sender => Progress mode i r toResponder toInitiator prepared received
  | .receiver => Progress mode r i toInitiator toResponder prepared received

structure Untouched (initiator : TransferRole) (initData : TransferInitData) (v : View) : Prop where
  asks : ∃ timeout mode, v.session initiator =
    core ((fresh initiator mode).started initiator initData timeout)
  silent : v.line initiator = []
  none : v.prepared = [] ∧ v.received = []

/-- The Init message is on the way, the application of the responder has to accept, the Accept message
is on the way, and the transfer is under way. The responder goes on as soon as it has accepted, and
what it sends comes after the Accept message. -/
inductive Phase (initiator : TransferRole) (initData : TransferInitData) (v : View) : Prop
  | asking (untouched : Untouched initiator initData v) {opts : UInt8} {size : UInt16}
      {timeout : UInt32} {mode : UInt8}
      (waits : v.session initiator.other =
        core ((fresh initiator.other mode).waiting initiator.other opts size timeout))
      (asks : v.line initiator.other = [initMessage initiator initData])
  | negotiating (untouched : Untouched initiator initData v) {opts : UInt8} {size : UInt16}
      {timeout : UInt32} {mode : UInt8}
      (negotiates : v.session initiator.other = core (asked initData
        ((fresh initiator.other mode).waiting initiator.other opts size timeout)))
      (silent : v.line initiator.other = [])
  | accepting (rest : List Message) {i : TransferSession} {acceptData : TransferAcceptData}
      (initiates : v.session initiator = core i) (asks : i.mState = .awaitingAccept)
      (role : i.mRole = initiator) (supports : has i.mSuppportedXferOpts acceptData.controlMode = true)
      (accepts : v.line initiator = acceptMessage initiator.other bdxVersion acceptData :: rest)
      (silent : v.line initiator.other = [])
      (progress : ProgressFrom acceptData.controlMode initiator
        (core (i.agreed acceptData.controlMode acceptData)) (v.session initiator.other) rest []
        v.prepared v.received)
  | underWay {mode : UInt8}
      (progress : Progress mode (v.session .sender) (v.session .receiver) (v.line .receiver)
        (v.line .sender) v.prepared v.received)

structure Ordered (initiator : TransferRole) (initData : TransferInitData) (x : Exchange) : Prop where
  phase : Phase initiator initData x.view
  /-- Only a receiver receives blocks. -/
  sends : x.sender.mPendingOutput ≠ .blockReceived
  settled : x.receiver.mState = .transferDone → x.receiver.mPendingOutput ≠ .blockReceived

variable {initiator : TransferRole} {initData : TransferInitData} {x y : Exchange}
  {s s' : TransferSession} {granted : Bool}

theorem outbox_eq_nil (hPending : s.mPendingOutput ≠ .msgToSend) : outbox s = [] := if_neg hPending

theorem pendingBlocks_eq_nil (hPending : s.mPendingOutput ≠ .blockReceived) : pendingBlocks s = [] :=
  if_neg hPending

theorem withInbox_inbox (x : Exchange) (role : TransferRole) :
  x.withInbox role (x.inbox role) = x := by
  cases role with
  | sender => rfl
  | receiver => rfl

def deliver (x : Exchange) (blocks : List BlockData) : Exchange :=
  { x with delivered := x.delivered ++ blocks }

theorem deliver_nil (x : Exchange) : x.deliver [] = x := by
  rw [deliver, List.append_nil]

theorem output_poll (role : TransferRole) (x : Exchange) :
  x.output role (if s.mPendingOutput = .none && s.mState = .errorState then
      .internalError s.mStatusReportData else s.pendingEvent) =
    (x.withInbox role.other (x.inbox role.other ++ outbox s)).deliver (pendingBlocks s) := by
  cases hOutput : s.mPendingOutput with
  | msgToSend => simp [output, pendingEvent, outbox, pendingBlocks, hOutput, deliver_nil]
  | blockReceived =>
    simp [output, pendingEvent, outbox, pendingBlocks, hOutput, withInbox_inbox, deliver]
  | none =>
    have hSilent : (x.withInbox role.other (x.inbox role.other ++ outbox s)).deliver
        (pendingBlocks s) = x := by
      simp [outbox, pendingBlocks, hOutput, withInbox_inbox, deliver_nil]
    rw [hSilent, pendingEvent, hOutput]
    split
    · rfl
    · rfl
  | _ => simp [output, pendingEvent, outbox, pendingBlocks, hOutput, withInbox_inbox, deliver_nil]

variable {role : TransferRole} {mode : UInt8} {i r : TransferSession}
  {toInitiator toResponder : List Message} {prepared received : List BlockData}
  {sender receiver : TransferSession} {acceptData : TransferAcceptData} {rest : List Message}

theorem perform_poll {curTime : UInt64}
  (hPerforms : x.perform initiator (.pollOutput role curTime) = some y)
  (hInTime : ((x.session role).startTime curTime).timedOut curTime = false) :
  y = ((x.withSession role ((x.session role).polled curTime)).withInbox role.other
    (x.inbox role.other ++ outbox (x.session role))).deliver (pendingBlocks (x.session role)) := by
  have hInbox : (x.withSession role ((x.session role).polled curTime)).inbox role.other =
      x.inbox role.other := by
    cases role with
    | sender => rfl
    | receiver => rfl
  change some ((x.withSession role ((x.session role).pollOutput curTime).2).output role
    ((x.session role).pollOutput curTime).1) = some y at hPerforms
  injection hPerforms with hPerforms
  rw [← hPerforms, pollOutput_inTime hInTime, output_poll, hInbox]

theorem ordered_poll {curTime : UInt64} (hOrdered : Ordered initiator initData x)
  (hInTime : ((x.session role).startTime curTime).timedOut curTime = false)
  (hPerforms : x.perform initiator (.pollOutput role curTime) = some y) :
  Ordered initiator initData y := by
  rw [perform_poll hPerforms hInTime]
  have hView : (((x.withSession role ((x.session role).polled curTime)).withInbox role.other
      (x.inbox role.other ++ outbox (x.session role))).deliver
        (pendingBlocks (x.session role))).view = x.view := by
    refine View.ext (funext fun side => ?_) (funext fun side => ?_) ?_ ?_
    · cases role with
      | sender => cases side with
        | sender => rfl
        | receiver => rfl
      | receiver => cases side with
        | sender => rfl
        | receiver => rfl
    · cases role with
      | sender => cases side with
        | sender => rfl
        | receiver => exact List.append_nil _
      | receiver => cases side with
        | sender => exact List.append_nil _
        | receiver => rfl
    · cases role with
      | sender => rfl
      | receiver => rfl
    · cases role with
      | sender =>
        change (x.delivered ++ pendingBlocks x.sender) ++ pendingBlocks x.receiver = _
        rw [pendingBlocks_eq_nil hOrdered.sends, List.append_nil]
        rfl
      | receiver => exact List.append_nil _
  refine ⟨?_, ?_, ?_⟩
  · rw [hView]
    exact hOrdered.phase
  · cases role with
    | sender => exact OutputEventType.noConfusion
    | receiver => exact hOrdered.sends
  · cases role with
    | sender => exact hOrdered.settled
    | receiver =>
      intro _
      exact OutputEventType.noConfusion

theorem call_ok {run : Proc ChipError TransferSession Unit} (hCall : x.call role run = some y) :
  ∃ s', run (x.session role) = (.ok (), s') ∧ y = x.withSession role s' := by
  rw [call] at hCall
  split at hCall
  · rename_i s' hRun
    injection hCall with hCall
    exact ⟨s', hRun, hCall.symm⟩
  · cases hCall

/-- A session has a message to send, and all else is as it was. -/
structure Sends (role : TransferRole) (s' : TransferSession) (v v' : View) : Prop where
  session : v'.session role = core s'
  other : v'.session role.other = v.session role.other
  line : v'.line role = v.line role
  sent : v'.line role.other = v.line role.other ++ [⟨s'.mMsgTypeData, s'.mPendingMsg⟩]
  received : v'.received = v.received

theorem sends_call (prepared : List BlockData) (hPending : (x.session role).mPendingOutput = .none)
  (hOutput : s'.mPendingOutput = .msgToSend) :
  Sends role s' x.view { x.withSession role s' with prepared := prepared }.view := by
  have hEmpty : outbox (x.session role) = [] := outbox_eq_nil (by simp [hPending])
  have hFull : outbox s' = [⟨s'.mMsgTypeData, s'.mPendingMsg⟩] := if_pos hOutput
  have hNone : pendingBlocks (x.session role) = [] := pendingBlocks_eq_nil (by simp [hPending])
  have hNone' : pendingBlocks s' = [] := pendingBlocks_eq_nil (by simp [hOutput])
  cases role with
  | sender =>
    refine ⟨rfl, rfl, rfl, ?_, rfl⟩
    change x.toReceiver ++ outbox s' = (x.toReceiver ++ outbox x.sender) ++ _
    rw [hFull, show outbox x.sender = [] from hEmpty, List.append_nil]
  | receiver =>
    refine ⟨rfl, rfl, rfl, ?_, ?_⟩
    · change x.toSender ++ outbox s' = (x.toSender ++ outbox x.receiver) ++ _
      rw [hFull, show outbox x.receiver = [] from hEmpty, List.append_nil]
    · change x.delivered ++ pendingBlocks s' = x.delivered ++ pendingBlocks x.receiver
      rw [hNone', show pendingBlocks x.receiver = [] from hNone]

variable {v v' : View}

theorem Untouched.state (hUntouched : Untouched initiator initData v) :
  (v.session initiator).mState = .awaitingAccept := by
  obtain ⟨timeout, mode, hAsks⟩ := hUntouched.asks
  rw [hAsks]
  rfl

theorem progressFrom_other :
  ProgressFrom mode role.other i r toInitiator toResponder prepared received ↔
    ProgressFrom mode role r i toResponder toInitiator prepared received := by
  cases role with
  | sender => exact Iff.rfl
  | receiver => exact Iff.rfl

theorem progressFrom_iff (role : TransferRole) (v : View) :
  ProgressFrom mode role (v.session role) (v.session role.other) (v.line role) (v.line role.other)
      v.prepared v.received ↔
    Progress mode (v.session .sender) (v.session .receiver) (v.line .receiver) (v.line .sender)
      v.prepared v.received := by
  cases role with
  | sender => exact Iff.rfl
  | receiver => exact Iff.rfl

theorem other_eq_of_ne (hNot : role ≠ initiator) : role = initiator.other := by
  cases role with
  | sender => cases initiator with
    | sender => exact absurd rfl hNot
    | receiver => rfl
  | receiver => cases initiator with
    | sender => rfl
    | receiver => exact absurd rfl hNot

theorem Phase.at_role (role : TransferRole) (hPhase : Phase initiator initData v)
  (hState : (v.session role).mState = .transferInProgress ∨
    (v.session role).mState = .receivedEOF) :
  ∃ mode other toRole toOther,
    ProgressFrom mode role (v.session role) other toRole toOther v.prepared v.received ∧
    ∀ v' s', Sends role s' v v' →
      ProgressFrom mode role (core s') other toRole
        (toOther ++ [⟨s'.mMsgTypeData, s'.mPendingMsg⟩]) v'.prepared v'.received →
      Phase initiator initData v' := by
  have hWaits : (v.session role).mState ≠ .awaitingAccept ∧
      (v.session role).mState ≠ .awaitingInitMsg ∧
      (v.session role).mState ≠ .negotiateTransferParams := by
    rcases hState with hState | hState
    · simp [hState]
    · simp [hState]
  cases hPhase with
  | asking untouched waits =>
    by_cases hRole : role = initiator
    · exact absurd untouched.state (hRole ▸ hWaits.1)
    · rw [other_eq_of_ne hRole] at hWaits
      exact absurd (congrArg mState waits :) hWaits.2.1
  | negotiating untouched negotiates =>
    by_cases hRole : role = initiator
    · exact absurd untouched.state (hRole ▸ hWaits.1)
    · rw [other_eq_of_ne hRole] at hWaits
      exact absurd (congrArg mState negotiates :) hWaits.2.2
  | @accepting rest i acceptData initiates asks isRole supports accepts silent progress =>
    by_cases hRole : role = initiator
    · rw [hRole, initiates] at hWaits
      exact absurd asks hWaits.1
    · have hOther := other_eq_of_ne hRole
      subst hOther
      refine ⟨_, _, _, _, progressFrom_other.mpr progress, fun v' s' hSends hProgress => ?_⟩
      have hSent := hSends.sent
      have hSame := hSends.other
      rw [other_other] at hSent hSame
      refine .accepting (rest ++ [⟨s'.mMsgTypeData, s'.mPendingMsg⟩]) (hSame.trans initiates) asks
        isRole supports (hSent.trans (congrArg (· ++ _) accepts)) (hSends.line.trans silent) ?_
      rw [hSends.session]
      exact progressFrom_other.mp hProgress
  | underWay progress =>
    refine ⟨_, _, _, _, (progressFrom_iff role v).mpr progress, fun v' s' hSends hProgress => ?_⟩
    rw [← hSends.session, ← hSends.other, ← hSends.line, ← hSends.sent] at hProgress
    exact .underWay ((progressFrom_iff role v').mp hProgress)

theorem ordered_receiver (hOrdered : Ordered initiator initData x)
  (hPending : x.receiver.mPendingOutput = .none) (hOutput : s'.mPendingOutput = .msgToSend)
  (hState : x.receiver.mState = .transferInProgress ∨ x.receiver.mState = .receivedEOF)
  (hMove : ∀ mode sender toReceiver toSender,
    Progress mode sender (core x.receiver) toReceiver toSender x.prepared x.received →
    Progress mode sender (core s') toReceiver
      (toSender ++ [⟨s'.mMsgTypeData, s'.mPendingMsg⟩]) x.prepared x.received) :
  Ordered initiator initData (x.withSession .receiver s') := by
  have hSends : Sends .receiver s' x.view (x.withSession .receiver s').view :=
    sends_call x.prepared hPending hOutput
  obtain ⟨mode, other, toRole, toOther, hProgress, hNext⟩ := hOrdered.phase.at_role .receiver hState
  refine ⟨hNext _ s' hSends ?_, hOrdered.sends, fun _ => ?_⟩
  · rw [hSends.received]
    exact hMove mode other toRole toOther hProgress
  · rw [show (x.withSession .receiver s').receiver = s' from rfl, hOutput]
    exact OutputEventType.noConfusion

theorem ordered_query (skip : Option UInt64) {type : MessageType} {msg : UInt32 → Bytes}
  (hOrdered : Ordered initiator initData x) (hMode : x.receiver.mControlMode = receiverDrive)
  (hMsg : ∀ blockCounter, queryMessage blockCounter skip = ⟨.bdx type, msg blockCounter⟩)
  (hCall : x.call .receiver (prepareQuery granted type msg) = some y) :
  Ordered initiator initData y := by
  obtain ⟨s', hRun, rfl⟩ := call_ok hCall
  obtain ⟨hMay, rfl⟩ := prepareQuery_ok hRun
  refine ordered_receiver hOrdered hMay.pending rfl (.inl hMay.state) ?_
  intro mode sender toReceiver toSender hProgress
  have hDriven : mode = receiverDrive := hProgress.accounts.modes.2.symm.trans hMode
  have hQueried := Progress.query (s := x.receiver) skip type (msg x.receiver.mNextQueryNum)
    hProgress hMay hDriven
  rw [hMsg] at hQueried
  exact hQueried

theorem ordered_ack (hOrdered : Ordered initiator initData x)
  (hFree : x.receiver.mState = .transferInProgress → x.receiver.mAwaitingResponse = false)
  (hCall : x.call .receiver (prepareBlockAck granted) = some y) :
  Ordered initiator initData y := by
  obtain ⟨s', hRun, rfl⟩ := call_ok hCall
  obtain ⟨hMay, rfl⟩ := prepareBlockAck_ok hRun
  refine ordered_receiver hOrdered hMay.pending rfl hMay.state ?_
  intro mode sender toReceiver toSender hProgress
  exact hProgress.ack hMay hFree

theorem ordered_block {inData : BlockData} (hOrdered : Ordered initiator initData x)
  (hOrderly : inData.isEof = true ∨ (inData.data ≠ some [] ∧
    (x.sender.isTransferLengthDefinite = true →
      bytes (x.prepared ++ [inData]) ≤ x.sender.mTransferLength.toNat)))
  (hPerforms : x.perform initiator (.prepareBlock granted inData) = some y) :
  Ordered initiator initData y := by
  obtain ⟨x', hCall, rfl⟩ := Option.map_eq_some_iff.mp hPerforms
  obtain ⟨s', hRun, rfl⟩ := call_ok hCall
  obtain ⟨hMay, data, hData, hSize, rfl⟩ := prepareBlock_ok hRun
  have hSends : Sends .sender (x.sender.blockPrepared data inData.isEof) x.view
      { x.withSession .sender (x.sender.blockPrepared data inData.isEof) with
        prepared := x.prepared ++ [inData] }.view := sends_call _ hMay.pending rfl
  obtain ⟨mode, other, toRole, toOther, hProgress, hNext⟩ :=
    hOrdered.phase.at_role .sender (.inl hMay.state)
  refine ⟨hNext _ _ hSends ?_, ?_, hOrdered.settled⟩
  · exact Progress.block (s := x.sender) hProgress hMay hData hSize hOrderly
  · exact OutputEventType.noConfusion

structure Unused (s : TransferSession) : Prop where
  blocks : s.mNextBlockNum = 0 ∧ s.mLastBlockNum = 0
  queries : s.mNextQueryNum = 0 ∧ s.mLastQueryNum = 0
  processed : s.mNumBytesProcessed = 0

theorem accounts_unused (hDrive : mode = senderDrive ∨ mode = receiverDrive) (hSender : Unused sender)
  (hReceiver : Unused receiver) (hRoles : sender.mRole = .sender ∧ receiver.mRole = .receiver)
  (hModes : sender.mControlMode = mode ∧ receiver.mControlMode = mode)
  (hSize : sender.mTransferMaxBlockSize = receiver.mTransferMaxBlockSize)
  (hLength : sender.mTransferLength = receiver.mTransferLength) :
  Accounts mode sender receiver [] [] :=
  ⟨hDrive, hRoles, hModes, hSize, hLength, hSender.blocks.1, hSender.blocks.2, hReceiver.blocks.2,
    hReceiver.processed⟩

theorem progress_unused (hAccounts : Accounts mode sender receiver [] []) (hSender : Unused sender)
  (hReceiver : Unused receiver) (hSends : Stands sender .transferInProgress (mode = receiverDrive))
  (hReceives : Stands receiver .transferInProgress (mode = senderDrive)) :
  Progress mode sender receiver [] [] [] [] := by
  refine ⟨hAccounts, ?_⟩
  rcases hAccounts.drive with hDrive | hDrive
  · subst hDrive
    exact .senderTurn rfl hSends hReceives ⟨hReceiver.queries.2, fun hOther => absurd hOther (by decide),
      fun hOther => absurd hOther (by decide)⟩ rfl rfl
  · subst hDrive
    exact .receiverTurn 0 rfl hSends hReceives
      ⟨hReceiver.queries.2, fun _ => hReceiver.queries.1, fun _ => hSender.queries.2⟩ rfl rfl
      fun hOther => absurd hOther (by decide)

theorem progressFrom_accepted (hInitiator : Unused i) (hResponder : Unused r)
  (hRole : i.mRole = initiator) (hRole' : r.mRole = initiator.other)
  (hFree : r.mAwaitingResponse = false)
  (hDrive : acceptData.controlMode = senderDrive ∨ acceptData.controlMode = receiverDrive)
  (hMode : r.mControlMode = acceptData.controlMode) (hLength : i.mTransferLength = r.mTransferLength) :
  ProgressFrom acceptData.controlMode initiator (core (i.agreed acceptData.controlMode acceptData))
    (core (r.accepted acceptData)) [] [] [] [] := by
  have hAgreed : Unused (core (i.agreed acceptData.controlMode acceptData)) := { hInitiator with }
  have hAccepted : Unused (core (r.accepted acceptData)) := { hResponder with }
  cases initiator with
  | sender =>
    refine progress_unused (accounts_unused hDrive hAgreed hAccepted ⟨hRole, hRole'⟩ ⟨rfl, hMode⟩ rfl
      ?_) hAgreed hAccepted ⟨rfl, ?_⟩ ⟨rfl, ?_⟩
    · simp [core, agreed, accepted, hRole, hRole', hLength, TransferRole.other]
    · simp [core, agreed, hRole]
    · simp [core, accepted, hRole', hFree, hMode, TransferRole.other]
  | receiver =>
    refine progress_unused (accounts_unused hDrive hAccepted hAgreed ⟨hRole', hRole⟩ ⟨hMode, rfl⟩ rfl
      ?_) hAccepted hAgreed ⟨rfl, ?_⟩ ⟨rfl, ?_⟩
    · simp [core, agreed, accepted, hRole, hRole', TransferRole.other]
    · simp [core, accepted, hRole', hFree, hMode, TransferRole.other]
    · simp [core, agreed, hRole]

theorem progress_states {toReceiver toSender : List Message}
  (hProgress : Progress mode sender receiver toReceiver toSender prepared received) :
  (sender.mState ≠ .negotiateTransferParams ∧ sender.mState ≠ .errorState) ∧
    (receiver.mState ≠ .negotiateTransferParams ∧ receiver.mState ≠ .errorState) := by
  refine ⟨?_, ?_⟩
  · rcases hProgress.stage.sender_state with hState | hState | hState
    · simp [hState]
    · simp [hState]
    · simp [hState]
  · rcases hProgress.stage.receiver_state with hState | hState | hState
    · simp [hState]
    · simp [hState]
    · simp [hState]

theorem progressFrom_states
  (hProgress : ProgressFrom mode initiator i r toInitiator toResponder prepared received) :
  r.mState ≠ .negotiateTransferParams ∧ r.mState ≠ .errorState := by
  cases initiator with
  | sender => exact (progress_states hProgress).2
  | receiver => exact (progress_states hProgress).1

theorem has_of_requested {flags mode : UInt8} (hDrive : mode = senderDrive ∨ mode = receiverDrive)
  (hHas : has (flags &&& ~~~versionMask) mode = true) : has flags mode = true := by
  have hMask : ~~~versionMask &&& mode = mode := by
    rcases hDrive with rfl | rfl
    · rfl
    · rfl
  rw [has, UInt8.and_assoc, hMask] at hHas
  exact hHas

theorem ordered_accept (hOrdered : Ordered initiator initData x)
  (hDrive : acceptData.controlMode = senderDrive ∨ acceptData.controlMode = receiverDrive)
  (hMode : (x.session initiator.other).mControlMode = acceptData.controlMode)
  (hCall : x.call initiator.other (TransferSession.acceptTransfer granted acceptData) = some y) :
  Ordered initiator initData y := by
  obtain ⟨s', hRun, rfl⟩ := call_ok hCall
  obtain ⟨hMay, rfl⟩ := acceptTransfer_ok hRun
  have hSends : Sends initiator.other ((x.session initiator.other).accepted acceptData) x.view
      (x.withSession initiator.other ((x.session initiator.other).accepted acceptData)).view := by
    have hOutput : ((x.session initiator.other).accepted acceptData).mPendingOutput = .msgToSend := rfl
    have hCalled := sends_call x.prepared hMay.pending hOutput
    cases initiator with
    | sender => exact hCalled
    | receiver => exact hCalled
  have hState : (x.view.session initiator.other).mState = .negotiateTransferParams := hMay.state
  refine ⟨?_, ?_, ?_⟩
  · cases hOrdered.phase with
    | asking _ waits =>
      have hWaits : (x.view.session initiator.other).mState = .awaitingInitMsg :=
        (congrArg mState waits :)
      exact absurd (hWaits.symm.trans hState) (by decide)
    | accepting _ _ _ _ _ _ _ progress => exact absurd hState (progressFrom_states progress).1
    | underWay progress =>
      have hStates := progressFrom_states ((progressFrom_iff initiator x.view).mpr progress)
      exact absurd hState hStates.1
    | negotiating untouched negotiates silent =>
      obtain ⟨timeout, mode, hAsks⟩ := untouched.asks
      have hSent := hSends.sent
      have hSame := hSends.other
      rw [other_other] at hSent hSame
      have hRole : (x.session initiator.other).mRole = initiator.other :=
        (congrArg mRole negotiates :)
      have hVersion : (x.session initiator.other).mTransferVersion = bdxVersion :=
        (congrArg mTransferVersion negotiates :)
      have hRequest : (x.session initiator.other).mTransferRequestData = requestOf initData :=
        (congrArg mTransferRequestData negotiates :)
      have hHas := hMay.mode
      rw [hRequest] at hHas
      refine .accepting [] (hSame.trans hAsks) rfl rfl (has_of_requested hDrive hHas) ?_
        (hSends.line.trans silent) ?_
      · have hMessage : acceptMessage (x.session initiator.other).mRole
            (x.session initiator.other).mTransferVersion acceptData =
            acceptMessage initiator.other bdxVersion acceptData := by rw [hRole, hVersion]
        rw [hSent, untouched.silent, ← hMessage]
        rfl
      · rw [hSends.session, hSends.received, untouched.none.2]
        have hPrepared : (x.withSession initiator.other
            ((x.session initiator.other).accepted acceptData)).view.prepared = [] := by
          rw [← untouched.none.1]
          cases initiator with
          | sender => rfl
          | receiver => rfl
        rw [hPrepared]
        exact progressFrom_accepted ⟨⟨rfl, rfl⟩, ⟨rfl, rfl⟩, rfl⟩
          ⟨⟨(congrArg mNextBlockNum negotiates :), (congrArg mLastBlockNum negotiates :)⟩,
            ⟨(congrArg mNextQueryNum negotiates :), (congrArg mLastQueryNum negotiates :)⟩,
            (congrArg mNumBytesProcessed negotiates :)⟩ rfl hRole
          (congrArg mAwaitingResponse negotiates :) hDrive hMode
          (congrArg mTransferLength negotiates :).symm
  · cases initiator with
    | sender => exact hOrdered.sends
    | receiver => exact OutputEventType.noConfusion
  · cases initiator with
    | sender =>
      intro _
      exact OutputEventType.noConfusion
    | receiver => exact hOrdered.settled

/-- A session has handled the first message on its line, and all else is as it was. -/
structure Receives (role : TransferRole) (msg : Message) (s' : TransferSession) (v v' : View) :
    Prop where
  session : v'.session role = core s'
  other : v'.session role.other = v.session role.other
  line : v.line role = msg :: v'.line role
  sent : v'.line role.other = v.line role.other
  prepared : v'.prepared = v.prepared
  received : v'.received = v.received ++ if role = .receiver then pendingBlocks s' else []

theorem receives_message {msg : Message} (hInbox : x.inbox role = msg :: rest)
  (hPending : (x.session role).mPendingOutput = .none) (hOutput : s'.mPendingOutput ≠ .msgToSend) :
  Receives role msg s' x.view ((x.withSession role s').withInbox role rest).view := by
  have hEmpty : outbox (x.session role) = [] := outbox_eq_nil (by simp [hPending])
  have hEmpty' : outbox s' = [] := outbox_eq_nil hOutput
  have hNone : pendingBlocks (x.session role) = [] := pendingBlocks_eq_nil (by simp [hPending])
  cases role with
  | sender =>
    refine ⟨rfl, rfl, congrArg (· ++ _) hInbox, ?_, rfl, (List.append_nil _).symm⟩
    change x.toReceiver ++ outbox s' = x.toReceiver ++ outbox x.sender
    rw [hEmpty', show outbox x.sender = [] from hEmpty]
  | receiver =>
    refine ⟨rfl, rfl, congrArg (· ++ _) hInbox, ?_, rfl, ?_⟩
    · change x.toSender ++ outbox s' = x.toSender ++ outbox x.receiver
      rw [hEmpty', show outbox x.receiver = [] from hEmpty]
    · change x.delivered ++ pendingBlocks s' =
        (x.delivered ++ pendingBlocks x.receiver) ++ pendingBlocks s'
      rw [show pendingBlocks x.receiver = [] from hNone, List.append_nil]

theorem Receives.received_eq {msg : Message} (hReceives : Receives role msg s' v v')
  (hBlocks : s'.mPendingOutput ≠ .blockReceived) :
  v'.received = v.received := by
  rw [hReceives.received, pendingBlocks_eq_nil hBlocks, ite_self, List.append_nil]

theorem core_asked (initData : TransferInitData) (s : TransferSession) :
  core (asked initData (core s)) = core (asked initData s) := rfl

theorem core_agreed (mode : UInt8) (acceptData : TransferAcceptData) (s : TransferSession) :
  core ((core s).agreed mode acceptData) = core (s.agreed mode acceptData) := rfl

theorem phase_init {r : TransferSession} {opts : UInt8} {size : UInt16} {timeout : UInt32}
  (hUntouched : Untouched initiator initData v)
  (hWaits : core r = core ((fresh initiator.other mode).waiting initiator.other opts size timeout))
  (hAsks : v.line initiator.other = [initMessage initiator initData])
  (hReceives : Receives initiator.other (initMessage initiator initData) s' v v')
  (hOutput : s'.mPendingOutput = .initReceived) (hAsked : core s' = core (r.asked initData)) :
  Phase initiator initData v' := by
  have hSent := hReceives.sent
  have hSame := hReceives.other
  have hLine := hReceives.line
  rw [other_other] at hSent hSame
  rw [hAsks] at hLine
  have hUntouched' : Untouched initiator initData v' := by
    refine ⟨?_, hSent.trans hUntouched.silent, hReceives.prepared.trans hUntouched.none.1, ?_⟩
    · obtain ⟨timeout, mode, hStarted⟩ := hUntouched.asks
      exact ⟨timeout, mode, hSame.trans hStarted⟩
    · exact (hReceives.received_eq (by simp [hOutput])).trans hUntouched.none.2
  have hNegotiates : v'.session initiator.other = core (asked initData
      ((fresh initiator.other mode).waiting initiator.other opts size timeout)) := by
    rw [hReceives.session, hAsked, ← core_asked, hWaits, core_asked]
  exact .negotiating hUntouched' hNegotiates (List.cons.inj hLine).2.symm

theorem phase_accept {i : TransferSession}
  (hAccepts : v.line initiator = acceptMessage initiator.other bdxVersion acceptData :: rest)
  (hSilent : v.line initiator.other = []) (hProgress : ProgressFrom acceptData.controlMode initiator
    (core (i.agreed acceptData.controlMode acceptData)) (v.session initiator.other) rest []
    v.prepared v.received)
  (hReceives : Receives initiator (acceptMessage initiator.other bdxVersion acceptData) s' v v')
  (hOutput : s'.mPendingOutput = .acceptReceived)
  (hAgreed : core s' = core (i.agreed acceptData.controlMode acceptData)) :
  Phase initiator initData v' := by
  have hLine := hReceives.line
  rw [hAccepts] at hLine
  rw [← hAgreed, ← hReceives.session, ← hReceives.other, (List.cons.inj hLine).2, ← hSilent,
    ← hReceives.sent, ← hReceives.prepared, ← hReceives.received_eq (by simp [hOutput])] at hProgress
  exact .underWay ((progressFrom_iff initiator v').mp hProgress)

theorem singleMode_drive (hDrive : mode = senderDrive ∨ mode = receiverDrive) :
  singleMode (mode &&& ~~~versionMask) = some mode := by
  rcases hDrive with rfl | rfl
  · rfl
  · rfl

theorem progressFrom_drive
  (hProgress : ProgressFrom mode initiator i r toInitiator toResponder prepared received) :
  mode = senderDrive ∨ mode = receiverDrive := by
  cases initiator with
  | sender => exact hProgress.accounts.drive
  | receiver => exact hProgress.accounts.drive

theorem handleAccept_agreed {type : MessageType} {payload : Bytes} (granted : Bool)
  (hState : s.mState = .awaitingAccept) (hRole : s.mRole = initiator)
  (hDrive : acceptData.controlMode = senderDrive ∨ acceptData.controlMode = receiverDrive)
  (hSupports : has s.mSuppportedXferOpts acceptData.controlMode = true)
  (hMessage : acceptMessage initiator.other bdxVersion acceptData = ⟨.bdx type, payload⟩) :
  s.handleBdxMessage granted type payload = s.agreed acceptData.controlMode acceptData := by
  have hSingle : singleMode (acceptedMode acceptData) = some acceptData.controlMode :=
    singleMode_drive hDrive
  rw [← hRole] at hMessage
  rcases handleAccept granted hState hMessage with ⟨mode, hMode, -, hAgreed⟩ | ⟨hNone, -⟩
  · rw [hSingle] at hMode
    injection hMode with hMode
    rw [hMode]
    exact hAgreed
  · exact absurd hSupports (hNone _ hSingle)

theorem initMessage_type (role : TransferRole) (initData : TransferInitData) :
  ∃ type payload, initMessage role initData = ⟨.bdx type, payload⟩ := ⟨_, _, rfl⟩

theorem acceptMessage_type (role : TransferRole) (version : UInt8) (acceptData : TransferAcceptData) :
  ∃ type payload, acceptMessage role version acceptData = ⟨.bdx type, payload⟩ := by
  cases role with
  | sender => exact ⟨_, _, rfl⟩
  | receiver => exact ⟨_, _, rfl⟩

section Receiving

variable {role : TransferRole} {msg : Message} {rest : List Message} {curTime : UInt64}

/-- A message has been handled. The output is a block only at a receiver, before it is done. -/
structure Handled (initiator : TransferRole) (initData : TransferInitData) (role : TransferRole)
    (s' : TransferSession) (v' : View) : Prop where
  phase : Phase initiator initData v'
  output : s'.mPendingOutput = .blockReceived → role = .receiver ∧ s'.mState ≠ .transferDone

theorem handled_init {opts : UInt8} {size : UInt16} {timeout : UInt32} {mode : UInt8}
  (hFits : initData.fileDesignator.length < 256 ^ 2)
  (hUntouched : Untouched initiator initData x.view)
  (hWaits : x.view.session initiator.other =
    core ((fresh initiator.other mode).waiting initiator.other opts size timeout))
  (hAsks : x.view.line initiator.other = [initMessage initiator initData])
  (hInbox : x.inbox initiator.other = initMessage initiator initData :: rest)
  (hOk : handleMessageReceived granted (initMessage initiator initData) curTime
    (x.session initiator.other) = (.ok (), s')) :
  Handled initiator initData initiator.other s'
    ((x.withSession initiator.other s').withInbox initiator.other rest).view := by
  obtain ⟨type, payload, hMessage⟩ := initMessage_type initiator initData
  have hRole : (x.session initiator.other).mRole = initiator.other := (congrArg mRole hWaits :)
  have hMessage' : initMessage (x.session initiator.other).mRole.other initData =
      ⟨.bdx type, payload⟩ := by rw [hRole, other_other, hMessage]
  rw [hMessage] at hOk
  obtain ⟨hPending, hEq⟩ := handleMessageReceived_ok hOk
  obtain ⟨status, msgType, hAsked⟩ := handleInit (s := x.session initiator.other) granted
    (congrArg mState hWaits :) (congrArg mAwaitingResponse hWaits :) hFits hMessage'
  rw [hAsked] at hEq
  have hOutput : s'.mPendingOutput = .initReceived := hEq ▸ rfl
  have hCore : core s' = core ((x.session initiator.other).asked initData) := hEq ▸ rfl
  have hReceives := receives_message hInbox hPending (show s'.mPendingOutput ≠ _ by simp [hOutput])
  exact ⟨phase_init hUntouched hWaits hAsks hReceives hOutput hCore, by simp [hOutput]⟩

theorem handled_accept {i : TransferSession} {acceptData : TransferAcceptData} {line : List Message}
  (hInitiates : x.view.session initiator = core i) (hAsks : i.mState = .awaitingAccept)
  (hRole : i.mRole = initiator)
  (hSupports : has i.mSuppportedXferOpts acceptData.controlMode = true)
  (hAccepts : x.view.line initiator =
    acceptMessage initiator.other bdxVersion acceptData :: line)
  (hSilent : x.view.line initiator.other = [])
  (hProgress : ProgressFrom acceptData.controlMode initiator
    (core (i.agreed acceptData.controlMode acceptData)) (x.view.session initiator.other) line []
    x.view.prepared x.view.received)
  (hInbox : x.inbox initiator = acceptMessage initiator.other bdxVersion acceptData :: rest)
  (hOk : handleMessageReceived granted
    (acceptMessage initiator.other bdxVersion acceptData) curTime (x.session initiator) =
      (.ok (), s')) :
  Handled initiator initData initiator s'
    ((x.withSession initiator s').withInbox initiator rest).view := by
  obtain ⟨type, payload, hMessage⟩ := acceptMessage_type initiator.other bdxVersion acceptData
  have hSame : (x.session initiator).mSuppportedXferOpts = i.mSuppportedXferOpts :=
    (congrArg mSuppportedXferOpts hInitiates :)
  rw [hMessage] at hOk
  obtain ⟨hPending, hEq⟩ := handleMessageReceived_ok hOk
  have hHandle := handleAccept_agreed (s := x.session initiator) granted
    ((congrArg mState hInitiates :).trans hAsks) ((congrArg mRole hInitiates :).trans hRole)
    (progressFrom_drive hProgress) (hSame ▸ hSupports) hMessage
  rw [hHandle] at hEq
  have hOutput : s'.mPendingOutput = .acceptReceived := hEq ▸ rfl
  have hCore : core s' = core (i.agreed acceptData.controlMode acceptData) := by
    rw [← core_agreed, ← hInitiates, hEq]
    rfl
  have hReceives := receives_message hInbox hPending (show s'.mPendingOutput ≠ _ by simp [hOutput])
  exact ⟨phase_accept hAccepts hSilent hProgress hReceives hOutput hCore, by simp [hOutput]⟩

theorem handled_transfer {mode : UInt8}
  (hProgress : Progress mode (x.view.session .sender) (x.view.session .receiver)
    (x.view.line .receiver) (x.view.line .sender) x.view.prepared x.view.received)
  (hInbox : x.inbox role = msg :: rest)
  (hOk : TransferSession.handleMessageReceived granted msg curTime (x.session role) =
    (.ok (), s')) :
  Handled initiator initData role s' ((x.withSession role s').withInbox role rest).view := by
  have hHead : x.view.line role = msg :: (rest ++ outbox (x.session role.other)) :=
    congrArg (· ++ _) hInbox
  cases role with
  | sender =>
    rw [hHead] at hProgress
    obtain ⟨type, payload, rfl, hSilent, hNoBlock, hAnswered⟩ :=
      Progress.answer (s := x.sender) granted hProgress
    obtain ⟨hPending, hEq⟩ := handleMessageReceived_ok hOk
    have hCore : core s' = core (x.sender.handleBdxMessage granted type payload) := hEq ▸ rfl
    have hOutput : s'.mPendingOutput =
      (x.sender.handleBdxMessage granted type payload).mPendingOutput := hEq ▸ rfl
    rw [← hOutput] at hSilent hNoBlock
    have hReceives := receives_message hInbox hPending hSilent
    have hLine := hReceives.line
    rw [hHead] at hLine
    rw [(List.cons.inj hLine).2, ← hCore, ← hReceives.session, ← hReceives.prepared,
      ← hReceives.received_eq hNoBlock, ← show _ = x.view.session .receiver from hReceives.other,
      ← show _ = x.view.line .receiver from hReceives.sent] at hAnswered
    exact ⟨.underWay hAnswered, fun hBlock => absurd hBlock hNoBlock⟩
  | receiver =>
    rw [hHead] at hProgress
    obtain ⟨type, payload, rfl, hBlock, hNotDone, hReceived⟩ :=
      Progress.receive (s := x.receiver) granted hProgress
    obtain ⟨hPending, hEq⟩ := handleMessageReceived_ok hOk
    have hCore : core s' = core (x.receiver.handleBdxMessage granted type payload) := hEq ▸ rfl
    have hBlocks : pendingBlocks s' =
      pendingBlocks (x.receiver.handleBdxMessage granted type payload) := hEq ▸ rfl
    have hOutput : s'.mPendingOutput = .blockReceived := hEq ▸ hBlock
    have hState : s'.mState ≠ .transferDone := hEq ▸ hNotDone
    have hReceives := receives_message hInbox hPending
      (show s'.mPendingOutput ≠ _ by simp [hOutput])
    have hLine := hReceives.line
    have hGrown := hReceives.received
    rw [hHead] at hLine
    rw [if_pos rfl, hBlocks] at hGrown
    rw [(List.cons.inj hLine).2, ← hCore, ← hReceives.session, ← hReceives.prepared,
      ← hGrown, ← show _ = x.view.session .sender from hReceives.other,
      ← show _ = x.view.line .sender from hReceives.sent] at hReceived
    exact ⟨.underWay hReceived, fun _ => ⟨rfl, hState⟩⟩

theorem handled_message (hFits : initData.fileDesignator.length < 256 ^ 2)
  (hPhase : Phase initiator initData x.view) (hInbox : x.inbox role = msg :: rest)
  (hOk : TransferSession.handleMessageReceived granted msg curTime (x.session role) =
    (.ok (), s')) :
  Handled initiator initData role s' ((x.withSession role s').withInbox role rest).view := by
  have hHead : x.view.line role = msg :: (rest ++ outbox (x.session role.other)) :=
    congrArg (· ++ _) hInbox
  have hSome : x.view.line role ≠ [] := hHead ▸ List.cons_ne_nil _ _
  cases hPhase with
  | asking hUntouched hWaits hAsks =>
    by_cases hRole : role = initiator
    · exact absurd hUntouched.silent (hRole ▸ hSome)
    · obtain rfl := other_eq_of_ne hRole
      rw [hAsks] at hHead
      obtain ⟨rfl, -⟩ := List.cons.inj hHead
      exact handled_init hFits hUntouched hWaits hAsks hInbox hOk
  | negotiating hUntouched _ hSilent =>
    by_cases hRole : role = initiator
    · exact absurd hUntouched.silent (hRole ▸ hSome)
    · exact absurd hSilent (other_eq_of_ne hRole ▸ hSome)
  | accepting line hInitiates hAsks hIsRole hSupports hAccepts hSilent hProgress =>
    by_cases hRole : role = initiator
    · subst hRole
      rw [hAccepts] at hHead
      obtain ⟨rfl, -⟩ := List.cons.inj hHead
      exact handled_accept hInitiates hAsks hIsRole hSupports hAccepts hSilent hProgress hInbox hOk
    · exact absurd hSilent (other_eq_of_ne hRole ▸ hSome)
  | underWay hProgress => exact handled_transfer hProgress hInbox hOk

theorem ordered_receive (hFits : initData.fileDesignator.length < 256 ^ 2)
  (hOrdered : Ordered initiator initData x)
  (hPerforms : x.perform initiator (.handleMessageReceived role granted curTime) = some y) :
  Ordered initiator initData y := by
  rw [perform] at hPerforms
  split at hPerforms
  · cases hPerforms
  · rename_i msg rest hInbox
    obtain ⟨x', hCall, rfl⟩ := Option.map_eq_some_iff.mp hPerforms
    obtain ⟨s', hOk, rfl⟩ := call_ok hCall
    have hHandled := handled_message hFits hOrdered.phase hInbox hOk
    refine ⟨hHandled.phase, ?_, ?_⟩
    · cases role with
      | sender => exact fun hBlock => absurd (hHandled.output hBlock).1 (by decide)
      | receiver => exact hOrdered.sends
    · cases role with
      | sender => exact hOrdered.settled
      | receiver => exact fun hDone hBlock => (hHandled.output hBlock).2 hDone

end Receiving

theorem ordered_step {action : Action} (hFits : initData.fileDesignator.length < 256 ^ 2)
  (hOrdered : Ordered initiator initData x) (hOrderly : x.Orderly initiator action)
  (hPerforms : x.perform initiator action = some y) : Ordered initiator initData y := by
  cases action with
  | acceptTransfer granted acceptData =>
    exact ordered_accept hOrdered hOrderly.1.1 hOrderly.1.2 hPerforms
  | prepareBlock granted inData => exact ordered_block hOrdered hOrderly.2 hPerforms
  | prepareBlockQuery granted =>
    exact ordered_query none hOrdered hOrderly.2 (fun _ => rfl) hPerforms
  | prepareBlockQueryWithSkip granted bytesToSkip =>
    exact ordered_query (some bytesToSkip) hOrdered hOrderly.2 (fun _ => rfl) hPerforms
  | prepareBlockAck granted => exact ordered_ack hOrdered hOrderly.2 hPerforms
  | pollOutput role curTime => exact ordered_poll hOrdered hOrderly.1 hPerforms
  | handleMessageReceived role granted curTime => exact ordered_receive hFits hOrdered hPerforms

theorem ordered_start (hStart : Start initiator initData x) : Ordered initiator initData x := by
  obtain ⟨granted, timeout, mode, hStarted⟩ := hStart.started
  obtain ⟨opts, size, timeout', mode', hWaiting⟩ := hStart.waiting
  obtain ⟨-, hInitiator⟩ := startTransfer_ok hStarted
  obtain ⟨-, hResponder⟩ := waitForTransfer_ok hWaiting
  obtain ⟨hToSender, hToReceiver, hPrepared, hDelivered⟩ := hStart.nothing
  have hInbox : ∀ role, x.inbox role = [] := by
    intro role
    cases role with
    | sender => exact hToSender
    | receiver => exact hToReceiver
  have hNoBlock : ∀ role, (x.session role).mPendingOutput ≠ .blockReceived := by
    intro role
    by_cases hRole : role = initiator
    · rw [hRole, hInitiator]
      exact OutputEventType.noConfusion
    · rw [other_eq_of_ne hRole, hResponder]
      exact OutputEventType.noConfusion
  have hReceived : x.received = [] := by
    rw [received, hDelivered]
    exact pendingBlocks_eq_nil (hNoBlock .receiver)
  refine ⟨.asking ⟨⟨timeout, mode, congrArg core hInitiator⟩, ?_, hPrepared, hReceived⟩
    (congrArg core hResponder) ?_, hNoBlock .sender, fun _ => hNoBlock .receiver⟩
  · change x.inbox initiator ++ outbox (x.session initiator.other) = []
    rw [hInbox, hResponder]
    rfl
  · change x.inbox initiator.other ++ outbox (x.session initiator.other.other) = _
    rw [hInbox, other_other, hInitiator]
    rfl

theorem ordered_run (hStart : Start initiator initData x)
  (hRun : Run (Orderly initiator) initiator x y) : Ordered initiator initData y := by
  induction hRun with
  | start => exact ordered_start hStart
  | step _ action hAllows hPerforms ih => exact ordered_step hStart.fits ih hAllows hPerforms

theorem Unused.counters (hSender : Unused sender) (hReceiver : Unused receiver)
  (toReceiver toSender : List Message) :
  CountersClose sender receiver toReceiver toSender :=
  ⟨.inl (hSender.blocks.2.trans hReceiver.blocks.2.symm),
    fun _ _ => .inl (hReceiver.queries.2.trans hSender.queries.2.symm),
    .inl (hReceiver.queries.2.trans hSender.blocks.2.symm)⟩

theorem Untouched.unused (hUntouched : Untouched initiator initData v) :
  Unused (v.session initiator) := by
  obtain ⟨timeout, mode, hAsks⟩ := hUntouched.asks
  rw [hAsks]
  exact ⟨⟨rfl, rfl⟩, ⟨rfl, rfl⟩, rfl⟩

structure Sure (v : View) : Prop where
  inOrder : v.received <+: v.prepared
  counters : CountersClose (v.session .sender) (v.session .receiver) (v.line .receiver)
    (v.line .sender)
  noError : ∀ role, (v.session role).mState ≠ .errorState
  complete : (v.session .sender).mState = .transferDone →
    (v.session .receiver).mState = .transferDone ∧ v.received = v.prepared ∧
      ∃ blocks last, v.prepared = blocks ++ [last] ∧ last.isEof = true

theorem sure_untouched (hUntouched : Untouched initiator initData v)
  (hUnused : Unused (v.session initiator.other))
  (hState : (v.session initiator.other).mState = .awaitingInitMsg ∨
    (v.session initiator.other).mState = .negotiateTransferParams) : Sure v := by
  have hStates : ∀ role, (v.session role).mState ≠ .errorState ∧
      (v.session role).mState ≠ .transferDone := by
    intro role
    by_cases hRole : role = initiator
    · simp [hRole, hUntouched.state]
    · rw [other_eq_of_ne hRole]
      rcases hState with hState | hState
      · simp [hState]
      · simp [hState]
  have hAll : ∀ role, Unused (v.session role) := by
    intro role
    by_cases hRole : role = initiator
    · exact hRole ▸ hUntouched.unused
    · exact other_eq_of_ne hRole ▸ hUnused
  refine ⟨?_, (hAll .sender).counters (hAll .receiver) _ _, fun role => (hStates role).1,
    fun hDone => absurd hDone (hStates .sender).2⟩
  rw [hUntouched.none.1, hUntouched.none.2]

theorem sure_progress
  (hProgress : Progress mode (v.session .sender) (v.session .receiver) (v.line .receiver)
    (v.line .sender) v.prepared v.received) : Sure v := by
  refine ⟨hProgress.stage.inOrder, hProgress.counters, fun role => ?_, hProgress.stage.complete⟩
  cases role with
  | sender => exact (progress_states hProgress).1.2
  | receiver => exact (progress_states hProgress).2.2

theorem filter_accept (role : TransferRole) (version : UInt8) (acceptData : TransferAcceptData)
  (rest : List Message) :
  (acceptMessage role version acceptData :: rest).filter isQuery = rest.filter isQuery ∧
    (acceptMessage role version acceptData :: rest).filter isBlock = rest.filter isBlock := by
  cases role with
  | sender => exact ⟨rfl, rfl⟩
  | receiver => exact ⟨rfl, rfl⟩

theorem sure_accepting {i : TransferSession} (hInitiates : v.session initiator = core i)
  (hAsks : i.mState = .awaitingAccept)
  (hAccepts : v.line initiator = acceptMessage initiator.other bdxVersion acceptData :: rest)
  (hSilent : v.line initiator.other = []) (hProgress : ProgressFrom acceptData.controlMode initiator
    (core (i.agreed acceptData.controlMode acceptData)) (v.session initiator.other) rest []
    v.prepared v.received) : Sure v := by
  obtain ⟨hQuery, hBlock⟩ := filter_accept initiator.other bdxVersion acceptData rest
  have hNoError : ∀ role, (v.session role).mState ≠ .errorState := by
    intro role
    by_cases hRole : role = initiator
    · rw [hRole, hInitiates]
      simp [core, hAsks]
    · exact other_eq_of_ne hRole ▸ (progressFrom_states hProgress).2
  cases initiator with
  | sender =>
    have hCounters := Progress.counters hProgress
    refine ⟨hProgress.stage.inOrder, ?_, hNoError, fun hDone => ?_⟩
    · rw [hInitiates, hAccepts, show v.line .receiver = [] from hSilent]
      refine ⟨hCounters.blocks, fun _ hReceiver => ?_, hCounters.expected⟩
      rw [hQuery]
      exact hCounters.queries (hProgress.accounts.modes.2.symm.trans hReceiver) hReceiver
    · rw [hInitiates] at hDone
      exact absurd (hAsks.symm.trans hDone) (by decide)
  | receiver =>
    have hCounters := Progress.counters hProgress
    refine ⟨hProgress.stage.inOrder, ?_, hNoError, fun hDone => ?_⟩
    · rw [hInitiates, hAccepts, show v.line .sender = [] from hSilent]
      refine ⟨?_, fun hReceiver _ => ?_, hCounters.expected⟩
      · rw [hBlock]
        exact hCounters.blocks
      · exact hCounters.queries hReceiver (hProgress.accounts.modes.1.symm.trans hReceiver)
    · exact absurd (hProgress.stage.complete hDone).1 TransferState.noConfusion

theorem Phase.sure (hPhase : Phase initiator initData v) : Sure v := by
  cases hPhase with
  | asking hUntouched hWaits =>
    have hUnused : Unused (v.session initiator.other) := by
      rw [hWaits]
      exact ⟨⟨rfl, rfl⟩, ⟨rfl, rfl⟩, rfl⟩
    exact sure_untouched hUntouched hUnused (.inl (congrArg mState hWaits :))
  | negotiating hUntouched hNegotiates =>
    have hUnused : Unused (v.session initiator.other) := by
      rw [hNegotiates]
      exact ⟨⟨rfl, rfl⟩, ⟨rfl, rfl⟩, rfl⟩
    exact sure_untouched hUntouched hUnused (.inr (congrArg mState hNegotiates :))
  | accepting _ hInitiates hAsks _ _ hAccepts hSilent hProgress =>
    exact sure_accepting hInitiates hAsks hAccepts hSilent hProgress
  | underWay hProgress => exact sure_progress hProgress

/-- In a run in which the applications see to what the sessions do not check, the blocks are delivered
in order, the counters stay together and no session fails. When the sender is done, the receiver is
done and all blocks are delivered. -/
theorem delivers_of_orderly_run (hStart : Start initiator initData x)
    (hRun : Run (Orderly initiator) initiator x y) : y.Delivers := by
  have hOrdered := ordered_run hStart hRun
  have hSure := hOrdered.phase.sure
  refine ⟨?_, { hSure.counters with }, ?_, fun hDone => ?_⟩
  · exact (List.prefix_append y.delivered (pendingBlocks y.receiver)).trans hSure.inOrder
  · intro role
    exact hSure.noError role
  · obtain ⟨hReceiver, hReceived, hEof⟩ := hSure.complete hDone
    refine ⟨hReceiver, ?_, hEof⟩
    have hDelivered : y.received = y.delivered := by
      rw [received, pendingBlocks_eq_nil (hOrdered.settled hReceiver), List.append_nil]
    exact hDelivered.symm.trans hReceived

/-- A receiver that drives has started a transfer, and the sender waits. -/
def readyToTransfer : Exchange where
  sender := (fresh .sender 0).waiting .sender receiverDrive 100 1000
  receiver := (fresh .receiver 0).started .receiver ⟨receiverDrive, 100, 0, 0, [1], []⟩ 1000
  toSender := []
  toReceiver := []
  prepared := []
  delivered := []

theorem start_readyToTransfer : Start .receiver ⟨receiverDrive, 100, 0, 0, [1], []⟩ readyToTransfer :=
  ⟨by decide, ⟨true, 1000, 0, rfl⟩, ⟨receiverDrive, 100, 1000, 0, rfl⟩, rfl, rfl, rfl, rfl⟩

/-- A file of one byte. -/
theorem delivers_of_orderly_run_oneByte : ∃ y, Run (Orderly .receiver) .receiver readyToTransfer y ∧
    y.sender.mState = .transferDone ∧ y.Delivers := by
  have hNegotiated : Run (Orderly .receiver) .receiver readyToTransfer _ :=
    .step (.step (.step (.step (.step (.step (.step (.start _)
      (.pollOutput .receiver 0) ⟨rfl, trivial⟩ rfl)
      (.handleMessageReceived .sender true 0) ⟨trivial, trivial⟩ rfl)
      (.pollOutput .sender 0) ⟨rfl, trivial⟩ rfl)
      (.acceptTransfer true ⟨receiverDrive, 100, 0, 0, []⟩) ⟨⟨.inr rfl, rfl⟩, trivial⟩ rfl)
      (.pollOutput .sender 0) ⟨rfl, trivial⟩ rfl)
      (.handleMessageReceived .receiver true 0) ⟨trivial, trivial⟩ rfl)
      (.pollOutput .receiver 0) ⟨rfl, trivial⟩ rfl
  have hAsked : Run (Orderly .receiver) .receiver readyToTransfer _ :=
    .step (.step (.step (.step hNegotiated
      (.prepareBlockQuery true) ⟨trivial, rfl⟩ rfl)
      (.pollOutput .receiver 0) ⟨rfl, trivial⟩ rfl)
      (.handleMessageReceived .sender true 0) ⟨trivial, trivial⟩ rfl)
      (.pollOutput .sender 0) ⟨rfl, trivial⟩ rfl
  have hSent : Run (Orderly .receiver) .receiver readyToTransfer _ :=
    .step (.step (.step (.step hAsked
      (.prepareBlock true ⟨some [7], true⟩) ⟨trivial, .inl rfl⟩ rfl)
      (.pollOutput .sender 0) ⟨rfl, trivial⟩ rfl)
      (.handleMessageReceived .receiver true 0) ⟨trivial, trivial⟩ rfl)
      (.pollOutput .receiver 0) ⟨rfl, trivial⟩ rfl
  have hDone : Run (Orderly .receiver) .receiver readyToTransfer _ :=
    .step (.step (.step hSent
      (.prepareBlockAck true) ⟨trivial, fun _ => rfl⟩ rfl)
      (.pollOutput .receiver 0) ⟨rfl, trivial⟩ rfl)
      (.handleMessageReceived .sender true 0) ⟨trivial, trivial⟩ rfl
  exact ⟨_, hDone, rfl, delivers_of_orderly_run start_readyToTransfer hDone⟩

/-- A block without data that is not the last one is accepted at the sender, and the receiver gives
up. -/
theorem delivers_not_every_run : ¬ ∀ (initiator : TransferRole) (initData : TransferInitData)
    (x y : Exchange), Start initiator initData x → Run (Driven initiator) initiator x y →
    y.Delivers := by
  intro hAll
  have hNegotiated : Run (Driven .receiver) .receiver readyToTransfer _ :=
    .step (.step (.step (.step (.step (.step (.step (.start _)
      (.pollOutput .receiver 0) rfl rfl)
      (.handleMessageReceived .sender true 0) trivial rfl)
      (.pollOutput .sender 0) rfl rfl)
      (.acceptTransfer true ⟨receiverDrive, 100, 0, 0, []⟩) ⟨.inr rfl, rfl⟩ rfl)
      (.pollOutput .sender 0) rfl rfl)
      (.handleMessageReceived .receiver true 0) trivial rfl)
      (.pollOutput .receiver 0) rfl rfl
  have hAsked : Run (Driven .receiver) .receiver readyToTransfer _ :=
    .step (.step (.step (.step hNegotiated
      (.prepareBlockQuery true) trivial rfl)
      (.pollOutput .receiver 0) rfl rfl)
      (.handleMessageReceived .sender true 0) trivial rfl)
      (.pollOutput .sender 0) rfl rfl
  have hEmpty : Run (Driven .receiver) .receiver readyToTransfer _ :=
    .step (.step (.step hAsked
      (.prepareBlock true ⟨some [], false⟩) trivial rfl)
      (.pollOutput .sender 0) rfl rfl)
      (.handleMessageReceived .receiver true 0) trivial rfl
  have hDelivers := hAll _ _ _ _ start_readyToTransfer hEmpty
  exact absurd rfl (hDelivers.noError .receiver)

end Exchange

end Chip.Bdx
