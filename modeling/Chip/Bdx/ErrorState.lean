import Chip.Bdx.StatusReports

/-! A session that has reported an error keeps reporting it, and no more is delivered than was agreed.
Two handlers do not see to this: `HandleTransferInit` goes on after a report, and `HandleBlockEOF`
does not look at the length of the transfer. -/
namespace Chip.Bdx

open Proc

open Chip.Transport (Bytes)

open TransferControlFlags

/-- A session, and what has happened since its constructor or `Reset`: the code of the last call of
`PrepareStatusReport`, whether the output has been polled after it, the data of the blocks that
`PollOutput` has delivered, and of those that it has delivered after a report. -/
structure Watched where
  session : TransferSession
  reported : Option StatusCode
  polled : Bool
  delivered : List Bytes
  deliveredLate : List Bytes

inductive Input where
  | startTransfer (granted : Bool) (role : TransferRole) (initData : TransferInitData)
      (timeout : UInt32)
  | waitForTransfer (role : TransferRole) (xferControlOpts : UInt8) (maxBlockSize : UInt16)
      (timeout : UInt32)
  | acceptTransfer (granted : Bool) (acceptData : TransferAcceptData)
  | prepareBlockQuery (granted : Bool)
  | prepareBlockQueryWithSkip (granted : Bool) (bytesToSkip : UInt64)
  | prepareBlock (granted : Bool) (inData : BlockData)
  | prepareBlockAck (granted : Bool)
  | abortTransfer (granted : Bool) (reason : StatusCode)
  | reset
  | pollOutput (curTime : UInt64)
  | handleMessageReceived (granted : Bool) (msg : Message) (curTime : UInt64)

namespace TransferSession

/-- The report that a message leads to. One is only handled when nothing is pending. -/
def messageReports (msg : Message) (s : TransferSession) : Option StatusCode :=
  match msg.type with
  | .bdx type => if s.mPendingOutput = .none then s.bdxReports type msg.payload else none
  | _ => none

def abortReports (reason : StatusCode) (s : TransferSession) : Option StatusCode :=
  if s.mState ≠ .unitialized ∧ s.mState ≠ .transferDone ∧ s.mState ≠ .errorState then some reason
  else none

end TransferSession

namespace Watched

open TransferSession

def start (role : TransferRole) (controlMode : UInt8) : Watched :=
  ⟨fresh role controlMode, none, false, [], []⟩

def call (w : Watched) (run : Proc ChipError TransferSession Unit) : Watched :=
  { w with session := (run w.session).2 }

def callReporting (w : Watched) (reports : Option StatusCode)
  (run : Proc ChipError TransferSession Unit) : Watched :=
  match reports with
  | none => w.call run
  | some code => { w.call run with reported := some code, polled := false }

def blockOf : OutputEvent → List Bytes
  | .blockReceived block => [block.data]
  | _ => []

def poll (w : Watched) (curTime : UInt64) : Watched :=
  let polled := w.session.pollOutput curTime
  { session := polled.2
    reported := w.reported
    polled := true
    delivered := w.delivered ++ blockOf polled.1
    deliveredLate :=
      if w.reported.isSome then w.deliveredLate ++ blockOf polled.1 else w.deliveredLate }

def perform (w : Watched) : Input → Watched
  | .startTransfer granted role initData timeout =>
    w.call (startTransfer granted role initData timeout)
  | .waitForTransfer role xferControlOpts maxBlockSize timeout =>
    w.call (waitForTransfer role xferControlOpts maxBlockSize timeout)
  | .acceptTransfer granted acceptData => w.call (acceptTransfer granted acceptData)
  | .prepareBlockQuery granted => w.call (prepareBlockQuery granted)
  | .prepareBlockQueryWithSkip granted bytesToSkip =>
    w.call (prepareBlockQueryWithSkip granted bytesToSkip)
  | .prepareBlock granted inData => w.call (prepareBlock granted inData)
  | .prepareBlockAck granted => w.call (prepareBlockAck granted)
  | .abortTransfer granted reason =>
    w.callReporting (w.session.abortReports reason) (abortTransfer granted reason)
  | .reset => ⟨w.session.reset, none, false, [], []⟩
  | .pollOutput curTime => w.poll curTime
  | .handleMessageReceived granted msg curTime =>
    w.callReporting (w.session.messageReports msg) (handleMessageReceived granted msg curTime)

/-- The runs whose inputs are allowed in the states where they are given. -/
inductive Run (allowed : TransferSession → Input → Prop) : Watched → Watched → Prop
  | start (w : Watched) : Run allowed w w
  | step {w w' : Watched} (run : Run allowed w w') (input : Input)
      (allows : allowed w'.session input) : Run allowed w (w'.perform input)

def deliveredBytes (w : Watched) : Nat := (w.delivered.map List.length).sum

/-- After a report the session is in the error state, the report is pending until it is polled, and
nothing is delivered any more. Not more is delivered than the length that was agreed. -/
structure Promised (w : Watched) : Prop where
  final : w.reported ≠ none → w.session.mState = .errorState
  pending : ∀ code, w.reported = some code → w.polled = false →
    w.session.pendingEvent = .msgToSend ⟨.statusReport, statusReport code⟩
  silent : w.deliveredLate = []
  bounded : w.session.mTransferLength ≠ 0 → w.deliveredBytes ≤ w.session.mTransferLength.toNat

structure TakesBlock (msg : Message) (s : TransferSession) (blockMsg : DataBlock) (isEof : Bool) :
    Prop where
  type : msg.type = .bdx (if isEof then .blockEOF else .block)
  free : s.mPendingOutput = .none
  noReport : s.messageReports msg = none
  parsed : (DataBlock.parse msg.payload).1 = .ok blockMsg

/-- There is memory for a report, an Init message whose options are resolved offers one that is
supported, a block that is taken does not go beyond the definite length of the transfer (the sum is
not larger than a `size_t`, and `HandleBlock` makes sure of the rest), and no status report arrives
while one is pending. -/
structure Harmless (granted : Bool) (msg : Message) (s : TransferSession) : Prop where
  memory : s.messageReports msg ≠ none → granted = true
  options : ∀ type, msg.type = .bdx type → s.mPendingOutput = .none →
    OptionsAgree type msg.payload s
  sum : ∀ blockMsg, TakesBlock msg s blockMsg false → s.isTransferLengthDefinite = true →
    s.mNumBytesProcessed.toNat + blockMsg.data.length < 2 ^ 64
  length : ∀ blockMsg, TakesBlock msg s blockMsg true → s.isTransferLengthDefinite = true →
    s.mNumBytesProcessed.toNat + blockMsg.data.length ≤ s.mTransferLength.toNat
  unread : msg.type = .statusReport →
    (∃ code, parseStatusReport granted msg.payload = .ok (2, code)) →
      ¬ (s.mPendingOutput = .msgToSend ∧ s.mMsgTypeData = .statusReport)

def Careful (s : TransferSession) : Input → Prop
  | .abortTransfer granted reason => s.abortReports reason ≠ none → granted = true
  | .handleMessageReceived granted msg _ => Harmless granted msg s
  | _ => True

variable {granted : Bool} {code : StatusCode}

theorem Harmless.fits {msg : Message} {s : TransferSession} {blockMsg : DataBlock} {isEof : Bool}
  (hHarmless : Harmless granted msg s) (hTakes : Takes msg.payload s blockMsg isEof)
  (hTaken : TakesBlock msg s blockMsg isEof) (hDefinite : s.mTransferLength ≠ 0) :
  s.mNumBytesProcessed.toNat + blockMsg.data.length ≤ s.mTransferLength.toNat := by
  have hPositive : s.isTransferLengthDefinite = true :=
    decide_eq_true (UInt64.pos_iff_ne_zero.mpr hDefinite)
  cases isEof with
  | true => exact hHarmless.length blockMsg hTaken hPositive
  | false =>
    have hSum := hHarmless.sum blockMsg hTaken hPositive
    have hLe := hTakes.length rfl hPositive
    have hFits : blockMsg.data.length < 2 ^ 64 := by omega
    have hData : (UInt64.ofNat blockMsg.data.length).toNat = blockMsg.data.length :=
      UInt64.toNat_ofNat_of_lt' hFits
    rw [UInt64.le_iff_toNat_le, UInt64.toNat_add, hData, Nat.mod_eq_of_lt hSum] at hLe
    exact hLe

def pendingBytes (s : TransferSession) : Nat :=
  if s.mPendingOutput = .blockReceived then s.mBlockEventData.data.length else 0

theorem pendingBytes_of_ne (s : TransferSession) (hPending : s.mPendingOutput ≠ .blockReceived) :
  pendingBytes s = 0 := if_neg hPending

/-- Nothing is processed before the transfer, and what has been delivered or is pending has been
processed. -/
structure Counted (delivered : Nat) (s : TransferSession) : Prop where
  early : s.mState.isEarly = true →
    s.mNumBytesProcessed = 0 ∧ delivered = 0 ∧ s.mPendingOutput ≠ .blockReceived
  definite : s.mTransferLength ≠ 0 →
    delivered + pendingBytes s ≤ s.mNumBytesProcessed.toNat ∧
      s.mNumBytesProcessed ≤ s.mTransferLength

variable {s s' : TransferSession} {delivered : Nat}

theorem Counted.moves (hCounted : Counted delivered s) (hMoves : Moves s s') :
  Counted delivered s' := by
  refine ⟨?_, ?_⟩
  · intro hEarly
    obtain ⟨hNone, hZero, hPending⟩ := hCounted.early (hMoves.early hEarly)
    rw [hMoves.processed]
    exact ⟨hNone, hZero, fun hBlock => hPending (hMoves.block hBlock).1⟩
  · intro hLength
    have hPending : pendingBytes s' ≤ pendingBytes s := by
      by_cases hBlock : s'.mPendingOutput = .blockReceived
      · obtain ⟨hBefore, hSame⟩ := hMoves.block hBlock
        rw [pendingBytes, pendingBytes, if_pos hBlock, if_pos hBefore, hSame]
      · rw [pendingBytes_of_ne s' hBlock]
        exact Nat.zero_le _
    rw [hMoves.processed]
    cases hMoves.length with
    | inl hSame =>
      rw [hSame] at hLength ⊢
      obtain ⟨hSum, hLe⟩ := hCounted.definite hLength
      exact ⟨by omega, hLe⟩
    | inr hEarly =>
      obtain ⟨hNone, hZero, hNotBlock⟩ := hCounted.early hEarly
      rw [pendingBytes_of_ne s hNotBlock] at hPending
      rw [hNone, hZero]
      exact ⟨by omega, UInt64.zero_le⟩

theorem Counted.blockReceived {blockMsg : DataBlock} (hCounted : Counted delivered s)
  (isEof : Bool) (msg : Bytes) (hState : s.mState = .transferInProgress)
  (hFree : s.mPendingOutput = .none)
  (hLength : s.mTransferLength ≠ 0 →
    s.mNumBytesProcessed.toNat + blockMsg.data.length ≤ s.mTransferLength.toNat) :
  Counted delivered (s.blockReceived blockMsg isEof msg) := by
  refine ⟨?_, ?_⟩
  · intro hEarly
    cases isEof with
    | true => cases hEarly
    | false =>
      change s.mState.isEarly = true at hEarly
      rw [hState] at hEarly
      cases hEarly
  · intro hDefinite
    obtain ⟨hSum, hLe⟩ := hCounted.definite hDefinite
    have hTotal := hLength hDefinite
    have hBound := s.mTransferLength.toNat_lt
    have hFits : blockMsg.data.length < 2 ^ 64 := by omega
    have hData : (UInt64.ofNat blockMsg.data.length).toNat = blockMsg.data.length :=
      UInt64.toNat_ofNat_of_lt' hFits
    have hProcessed : (s.mNumBytesProcessed + UInt64.ofNat blockMsg.data.length).toNat =
        s.mNumBytesProcessed.toNat + blockMsg.data.length := by
      rw [UInt64.toNat_add, hData]
      exact Nat.mod_eq_of_lt (by omega)
    rw [pendingBytes_of_ne s (by rw [hFree]; decide)] at hSum
    change delivered + blockMsg.data.length ≤
      (s.mNumBytesProcessed + UInt64.ofNat blockMsg.data.length).toNat ∧
        s.mNumBytesProcessed + UInt64.ofNat blockMsg.data.length ≤ s.mTransferLength
    rw [UInt64.le_iff_toNat_le, hProcessed]
    exact ⟨by omega, hTotal⟩

/-- The error state is not left, and what is pending in it is no block. -/
structure Settled (s : TransferSession) : Prop where
  state : s.mState = .errorState
  quiet : s.mAwaitingResponse = false
  noBlock : s.mPendingOutput ≠ .blockReceived

structure Sound (w : Watched) : Prop where
  settled : w.reported ≠ none → Settled w.session
  pending : ∀ code, w.reported = some code → w.polled = false → IsReported code w.session
  silent : w.deliveredLate = []
  counted : Counted w.deliveredBytes w.session

theorem Sound.promised {w : Watched} (hSound : Sound w) : Promised w where
  final hReported := (hSound.settled hReported).state
  pending code hReported hPolled := (hSound.pending code hReported hPolled).pending
  silent := hSound.silent
  bounded hLength := by
    obtain ⟨hSum, hLe⟩ := hSound.counted.definite hLength
    rw [UInt64.le_iff_toNat_le] at hLe
    omega

theorem sound_start (role : TransferRole) (controlMode : UInt8) : Sound (start role controlMode) where
  settled hReported := absurd rfl hReported
  pending _ hReported := nomatch hReported
  silent := rfl
  counted := ⟨fun _ => ⟨rfl, rfl, fun hBlock => nomatch hBlock⟩, fun hLength => absurd rfl hLength⟩

theorem settled_of_reported (hReported : IsReported code s) : Settled s where
  state := hReported.state
  quiet := hReported.quiet
  noBlock hBlock := by
    have hPending := hReported.pending
    rw [pendingEvent, hBlock] at hPending
    cases hPending

variable {w : Watched}

section

variable (hSound : Sound w)
include hSound

theorem Sound.moves (hMoves : Moves w.session s') (hSettled : w.reported ≠ none → Settled s')
  (hPending : ∀ code, w.reported = some code → w.polled = false → IsReported code s') :
  Sound { w with session := s' } where
  settled := hSettled
  pending := hPending
  silent := hSound.silent
  counted := hSound.counted.moves hMoves

theorem Sound.call {run : Proc ChipError TransferSession Unit}
  (hLeft : Proc.Ensures run w.session (Left w.session)) : Sound (w.call run) := by
  have hSame (hReported : w.reported ≠ none) : (run w.session).2 = w.session :=
    hLeft.2 (hSound.settled hReported).state
  apply hSound.moves hLeft.1
  · intro hReported
    rw [hSame hReported]
    exact hSound.settled hReported
  · intro code hReported hPolled
    rw [hSame (by rw [hReported]; exact nofun)]
    exact hSound.pending code hReported hPolled

theorem Sound.unreported (hNone : w.reported = none) (hCounted : Counted w.deliveredBytes s') :
  Sound { w with session := s' } where
  settled hReported := absurd hNone hReported
  pending _ hReported := nomatch hNone.symm.trans hReported
  silent := hSound.silent
  counted := hCounted

theorem Sound.report (hMoves : Moves w.session s') (hReported : IsReported code s') :
  Sound { w with session := s', reported := some code, polled := false } where
  settled _ := settled_of_reported hReported
  pending code' hCode _ := by
    cases hCode
    exact hReported
  silent := hSound.silent
  counted := hSound.counted.moves hMoves

theorem Sound.abortTransfer {reason : StatusCode}
  (hGranted : w.session.abortReports reason ≠ none → granted = true) :
  Sound (w.callReporting (w.session.abortReports reason) (abortTransfer granted reason)) := by
  by_cases hState : w.session.mState ≠ .unitialized ∧ w.session.mState ≠ .transferDone ∧
      w.session.mState ≠ .errorState
  · have hReports : w.session.abortReports reason = some reason := if_pos hState
    rw [hReports] at hGranted ⊢
    have hCall : (TransferSession.abortTransfer granted reason w.session).2 =
        w.session.prepareStatusReport granted reason := by
      rw [TransferSession.abortTransfer, read_bind, verify_bind, if_pos hState]
      rfl
    rw [hGranted (by exact nofun)] at hCall ⊢
    rw [callReporting, Watched.call, hCall]
    exact hSound.report (Moves.prepareStatusReport true reason w.session)
      (isReported_prepareStatusReport reason w.session)
  · have hReports : w.session.abortReports reason = none := if_neg hState
    have hCall : (TransferSession.abortTransfer granted reason w.session).2 = w.session := by
      rw [TransferSession.abortTransfer, read_bind, verify_bind, if_neg hState]
    rw [hReports, callReporting, Watched.call, hCall]
    exact hSound

end

theorem isReported_output (hReported : IsReported code s) :
  s.mPendingOutput = .msgToSend ∧ s.mMsgTypeData = .statusReport := by
  have hPending := hReported.pending
  rw [pendingEvent] at hPending
  cases hOutput : s.mPendingOutput with
  | msgToSend =>
    rw [hOutput] at hPending
    injection hPending with hMessage
    injection hMessage with hType
    exact ⟨rfl, hType⟩
  | none | initReceived | acceptReceived | blockReceived | queryReceived | queryWithSkipReceived
  | ackReceived | ackEOFReceived | statusReceived | internalError =>
    rw [hOutput] at hPending
    cases hPending

theorem Sound.statusReport (hSound : Sound w) {payload : Bytes}
  (hUnread : (∃ code, parseStatusReport granted payload = .ok (2, code)) →
    ¬ (w.session.mPendingOutput = .msgToSend ∧ w.session.mMsgTypeData = .statusReport)) :
  Sound (w.call (handleStatusReportMessage granted payload)) := by
  let s := { w.session with mState := .errorState, mAwaitingResponse := false }
  have hMoves : Moves w.session s :=
    ⟨nofun, rfl, .inl rfl, fun hBlock => ⟨hBlock, rfl⟩⟩
  have hIgnored : Sound { w with session := s } := by
    apply hSound.moves hMoves
    · intro hReported
      exact ⟨rfl, rfl, (hSound.settled hReported).noBlock⟩
    · intro code hReported hPolled
      exact ⟨rfl, rfl, (hSound.pending code hReported hPolled).pending⟩
  rw [Watched.call, handleStatusReportMessage, modify_bind]
  cases hParse : parseStatusReport granted payload with
  | error e => exact hIgnored
  | ok report =>
    rw [bind_ok (lift_apply _ _), verify_bind]
    by_cases hProtocol : report.1 = 2
    · rw [if_pos hProtocol]
      have hShown : ∃ code, parseStatusReport granted payload = .ok (2, code) :=
        ⟨report.2, by rw [hParse, ← hProtocol]⟩
      let s' : TransferSession := { s with
        mStatusReportData := .other report.2
        mPendingOutput := .statusReceived }
      have hReports : Moves w.session s' := ⟨nofun, rfl, .inl rfl, nofun⟩
      apply hSound.moves hReports
      · intro _
        exact ⟨rfl, rfl, nofun⟩
      · intro code hReported hPolled
        exact absurd (isReported_output (hSound.pending code hReported hPolled)) (hUnread hShown)
    · rw [if_neg hProtocol]
      exact hIgnored

theorem Sound.bdxMessage (hSound : Sound w) {type : MessageType} {payload : Bytes} {curTime : UInt64}
  (hFree : w.session.mPendingOutput = .none)
  (hHarmless : Harmless granted ⟨.bdx type, payload⟩ w.session) :
  Sound (w.callReporting (w.session.bdxReports type payload)
    (handleMessageReceived granted ⟨.bdx type, payload⟩ curTime)) := by
  have hCall : (handleMessageReceived granted ⟨.bdx type, payload⟩ curTime w.session).2 =
      { w.session.handleBdxMessage granted type payload with mTimeoutStartTime := curTime } := by
    change ((read >>= fun s => _) w.session).2 = _
    rw [read_bind, verify_bind, if_pos hFree]
    rfl
  have hMessage : w.session.messageReports ⟨.bdx type, payload⟩ =
      w.session.bdxReports type payload := if_pos hFree
  have hTime {s' : TransferSession} (hMoves : Moves w.session s') :
      Moves w.session { s' with mTimeoutStartTime := curTime } :=
    ⟨hMoves.early, hMoves.processed, hMoves.length, hMoves.block⟩
  cases hReports : w.session.bdxReports type payload with
  | some code =>
    have hGranted : granted = true :=
      hHarmless.memory (by rw [hMessage, hReports]; exact nofun)
    have hHandled := handleBdxMessage_some granted (hHarmless.options type rfl hFree) hReports
    rw [callReporting, Watched.call, hCall, hHandled, hGranted]
    exact hSound.report (hTime (Moves.prepareStatusReport true code w.session)) ⟨rfl, rfl, rfl⟩
  | none =>
    have hNone : w.reported = none := by
      by_contra hReported
      obtain ⟨code, hCode⟩ := bdxReports_errorState type payload (hSound.settled hReported).state
      rw [hReports] at hCode
      cases hCode
    rw [callReporting, Watched.call, hCall]
    cases handleBdxMessage_none granted hReports with
    | inl hMoves => exact hSound.unreported hNone (hSound.counted.moves (hTime hMoves))
    | inr hBlock =>
      obtain ⟨blockMsg, isEof, hType, hTakes, hHandled⟩ := hBlock
      have hTaken : TakesBlock ⟨.bdx type, payload⟩ w.session blockMsg isEof :=
        ⟨congrArg MsgType.bdx hType, hFree, hMessage.trans hReports, hTakes.parsed⟩
      have hCounted := hSound.counted.blockReceived isEof payload
        hTakes.state hFree (hHarmless.fits hTakes hTaken)
      rw [hHandled]
      exact hSound.unreported hNone ⟨hCounted.early, hCounted.definite⟩

theorem Sound.handleMessageReceived (hSound : Sound w) {msg : Message} {curTime : UInt64}
  (hHarmless : Harmless granted msg w.session) :
  Sound (w.callReporting (w.session.messageReports msg)
    (handleMessageReceived granted msg curTime)) := by
  obtain ⟨type, payload⟩ := msg
  cases type with
  | bdx type =>
    by_cases hFree : w.session.mPendingOutput = .none
    · have hReports : w.session.messageReports ⟨.bdx type, payload⟩ =
          w.session.bdxReports type payload := if_pos hFree
      rw [hReports]
      exact hSound.bdxMessage hFree hHarmless
    · have hReports : w.session.messageReports ⟨.bdx type, payload⟩ = none := if_neg hFree
      have hCall : (TransferSession.handleMessageReceived granted ⟨.bdx type, payload⟩ curTime
          w.session).2 = w.session := by
        change ((read >>= fun s => _) w.session).2 = _
        rw [read_bind, verify_bind, if_neg hFree]
      rw [hReports, callReporting, Watched.call, hCall]
      exact hSound
  | unknownBdx =>
    apply hSound.call
    apply Proc.Ensures.verify_bind (Left.refl _)
    intro _
    exact Left.refl _
  | statusReport => exact hSound.statusReport (hHarmless.unread rfl)
  | other => exact hSound.call (Left.refl _)

theorem blockOf_pendingEvent (s : TransferSession) :
  ((blockOf s.pendingEvent).map List.length).sum = pendingBytes s := by
  unfold pendingEvent pendingBytes
  cases s.mPendingOutput with
  | blockReceived => exact Nat.add_zero _
  | none | initReceived | acceptReceived | msgToSend | queryReceived | queryWithSkipReceived
  | ackReceived | ackEOFReceived | statusReceived | internalError => rfl

theorem blockOf_pendingEvent_of_ne (hNoBlock : s.mPendingOutput ≠ .blockReceived) :
  blockOf s.pendingEvent = [] := by
  unfold pendingEvent
  cases hOutput : s.mPendingOutput with
  | blockReceived => exact absurd hOutput hNoBlock
  | none | initReceived | acceptReceived | msgToSend | queryReceived | queryWithSkipReceived
  | ackReceived | ackEOFReceived | statusReceived | internalError => rfl

theorem pollOutput_cases (s : TransferSession) (curTime : UInt64) :
  (s.mAwaitingResponse = true ∧ s.pollOutput curTime = (.transferTimeout, { s.startTime curTime with
    mState := .errorState, mAwaitingResponse := false })) ∨
  (s.pollOutput curTime).2 = s.polled curTime ∧ ((s.pollOutput curTime).1 = s.pendingEvent ∨
    s.mPendingOutput = .none ∧ (s.pollOutput curTime).1 = .internalError s.mStatusReportData) := by
  cases hTime : (s.startTime curTime).timedOut curTime with
  | true =>
    left
    have hAwaits : (s.startTime curTime).mAwaitingResponse = true := by
      rw [timedOut, Bool.and_eq_true] at hTime
      exact hTime.1
    refine ⟨?_, ?_⟩
    · rw [startTime] at hAwaits
      split at hAwaits
      · exact hAwaits
      · exact hAwaits
    · rw [pollOutput]
      dsimp only
      rw [hTime, if_pos rfl]
  | false =>
    right
    rw [pollOutput_inTime hTime]
    refine ⟨rfl, ?_⟩
    dsimp only
    by_cases hError : (decide (s.mPendingOutput = .none) && decide (s.mState = .errorState)) = true
    · rw [if_pos hError]
      rw [Bool.and_eq_true, decide_eq_true_eq] at hError
      exact .inr ⟨hError.1, rfl⟩
    · rw [if_neg hError]
      exact .inl rfl

theorem blockOf_polled {event : OutputEvent} (hEvent : event = s.pendingEvent ∨
  s.mPendingOutput = .none ∧ event = .internalError s.mStatusReportData) :
  blockOf event = blockOf s.pendingEvent := by
  cases hEvent with
  | inl hSame => rw [hSame]
  | inr hError =>
    rw [hError.2, pendingEvent, hError.1]
    rfl

theorem Sound.poll (hSound : Sound w) (curTime : UInt64) : Sound (w.poll curTime) := by
  cases pollOutput_cases w.session curTime with
  | inl hTimeout =>
    obtain ⟨hAwaits, hPoll⟩ := hTimeout
    have hNone : w.reported = none := by
      by_contra hReported
      rw [(hSound.settled hReported).quiet] at hAwaits
      cases hAwaits
    have hMoves : Moves w.session { w.session.startTime curTime with
        mState := .errorState, mAwaitingResponse := false } := by
      unfold startTime
      split
      · exact ⟨nofun, rfl, .inl rfl, fun hBlock => ⟨hBlock, rfl⟩⟩
      · exact ⟨nofun, rfl, .inl rfl, fun hBlock => ⟨hBlock, rfl⟩⟩
    rw [Watched.poll, hPoll, hNone]
    refine ⟨fun hReported => absurd rfl hReported, nofun, hSound.silent, ?_⟩
    change Counted ((w.delivered ++ []).map List.length).sum _
    rw [List.append_nil]
    exact hSound.counted.moves hMoves
  | inr hInTime =>
    obtain ⟨hPolled, hEvent⟩ := hInTime
    have hBlock := blockOf_polled hEvent
    refine ⟨?_, nofun, ?_, ?_⟩
    · intro hReported
      obtain ⟨hState, hQuiet, -⟩ := hSound.settled hReported
      change Settled (w.session.pollOutput curTime).2
      rw [hPolled]
      exact ⟨hState, hQuiet, nofun⟩
    · change (if w.reported.isSome then
        w.deliveredLate ++ blockOf (w.session.pollOutput curTime).1 else w.deliveredLate) = []
      rw [hBlock, hSound.silent]
      by_cases hReported : w.reported = none
      · rw [hReported]
        rfl
      · rw [blockOf_pendingEvent_of_ne (hSound.settled hReported).noBlock]
        exact ite_self _
    · have hBytes : (w.poll curTime).deliveredBytes = w.deliveredBytes + pendingBytes w.session := by
        change ((w.delivered ++ blockOf (w.session.pollOutput curTime).1).map List.length).sum = _
        rw [List.map_append, List.sum_append, hBlock, blockOf_pendingEvent]
        rfl
      change Counted _ (w.session.pollOutput curTime).2
      rw [hBytes, hPolled]
      refine ⟨?_, ?_⟩
      · intro hEarly
        obtain ⟨hProcessed, hZero, hNoBlock⟩ := hSound.counted.early hEarly
        rw [pendingBytes_of_ne w.session hNoBlock]
        exact ⟨hProcessed, hZero, nofun⟩
      · intro hLength
        exact hSound.counted.definite hLength

theorem Sound.perform (hSound : Sound w) {input : Input} (hCareful : Careful w.session input) :
  Sound (w.perform input) := by
  cases input with
  | startTransfer granted role initData timeout =>
    exact hSound.call (startTransfer_left granted role initData timeout w.session)
  | waitForTransfer role xferControlOpts maxBlockSize timeout =>
    exact hSound.call (waitForTransfer_left role xferControlOpts maxBlockSize timeout w.session)
  | acceptTransfer granted acceptData =>
    exact hSound.call (acceptTransfer_left granted acceptData w.session)
  | prepareBlockQuery granted => exact hSound.call (prepareQuery_left granted _ _ w.session)
  | prepareBlockQueryWithSkip granted bytesToSkip =>
    exact hSound.call (prepareQuery_left granted _ _ w.session)
  | prepareBlock granted inData => exact hSound.call (prepareBlock_left granted inData w.session)
  | prepareBlockAck granted => exact hSound.call (prepareBlockAck_left granted w.session)
  | abortTransfer granted reason => exact hSound.abortTransfer hCareful
  | reset =>
    exact ⟨fun hReported => absurd rfl hReported, nofun, rfl,
      ⟨fun _ => ⟨rfl, rfl, nofun⟩, fun hLength => absurd rfl hLength⟩⟩
  | pollOutput curTime => exact hSound.poll curTime
  | handleMessageReceived granted msg curTime => exact hSound.handleMessageReceived hCareful

theorem Run.sound {w w' : Watched} (hRun : Run Careful w w') (hSound : Sound w) : Sound w' := by
  induction hRun with
  | start => exact hSound
  | step run input allows ih => exact ih.perform allows

/-- A session that is only given careful inputs keeps its promise in every state. -/
theorem errors_are_final (role : TransferRole) (controlMode : UInt8) (w : Watched)
    (hRun : Run Careful (start role controlMode) w) : Promised w :=
  (hRun.sound (sound_start role controlMode)).promised

def Along (allowed : TransferSession → Input → Prop) : Watched → List Input → Prop
  | _, [] => True
  | w, input :: rest => allowed w.session input ∧ Along allowed (w.perform input) rest

theorem Along.run {allowed : TransferSession → Input → Prop} {inputs : List Input}
  (hAlong : Along allowed w inputs) : Run allowed w (inputs.foldl perform w) := by
  have hFrom (w₀ : Watched) (hRun : Run allowed w₀ w) :
      Run allowed w₀ (inputs.foldl perform w) := by
    induction inputs generalizing w with
    | nil => exact hRun
    | cons input rest ih => exact ih hAlong.2 (hRun.step input hAlong.1)
  exact hFrom w (.start w)

/-- A receiver waits for a transfer that it drives, and is offered other modes. -/
def offerModes (modes : UInt8) : List Input :=
  [.waitForTransfer .receiver receiverDrive 16 10,
    .handleMessageReceived true (initMessage .sender ⟨modes, 16, 0, 1, [], []⟩) 0]

/-- A receiver asks for a byte, is promised one, and gets the block at the end of the file. -/
def askForByte (data : Bytes) : List Input :=
  [.startTransfer true .receiver ⟨receiverDrive, 16, 0, 1, [], []⟩ 10,
    .pollOutput 0,
    .handleMessageReceived true (acceptMessage .sender 0 ⟨receiverDrive, 16, 0, 1, []⟩) 0,
    .pollOutput 0,
    .prepareBlockQuery true,
    .pollOutput 0,
    .handleMessageReceived true (blockMessage 0 data true) 0,
    .pollOutput 0,
    .handleMessageReceived true (blockMessage 0 data true) 0]

theorem harmless_accept (s : TransferSession) : Harmless true
  (acceptMessage .sender 0 ⟨receiverDrive, 16, 0, 1, []⟩) s where
  memory _ := rfl
  options type hType _ := by
    injection hType with hType
    rintro (hInit | hInit)
    · exact nomatch hType.trans hInit
    · exact nomatch hType.trans hInit
  sum _ hTaken := nomatch hTaken.type
  length _ hTaken := nomatch hTaken.type
  unread hType := nomatch hType

theorem harmless_blockEOF {data : Bytes}
  (hLength : s.messageReports (blockMessage 0 data true) = none →
    s.mNumBytesProcessed.toNat + data.length ≤ s.mTransferLength.toNat) :
  Harmless true (blockMessage 0 data true) s where
  memory _ := rfl
  options type hType _ := by
    injection hType with hType
    rintro (hInit | hInit)
    · exact nomatch hType.trans hInit
    · exact nomatch hType.trans hInit
  sum _ hTaken := nomatch hTaken.type
  length blockMsg hTaken _ := by
    have hParsed := hTaken.parsed
    rw [blockMessage, DataBlock.parse_writeToBuffer] at hParsed
    cases hParsed
    exact hLength hTaken.noReport
  unread hType := nomatch hType

/-- The byte is delivered, and the block is reported when it comes again. -/
theorem errors_are_final_byte :
    Promised ((askForByte [7]).foldl perform (start .receiver 0)) ∧
      ((askForByte [7]).foldl perform (start .receiver 0)).delivered = [[7]] ∧
        ((askForByte [7]).foldl perform (start .receiver 0)).reported =
          some .unexpectedMessage := by
  have hCareful : Along Careful (start .receiver 0) (askForByte [7]) :=
    ⟨trivial, trivial, harmless_accept _, trivial, trivial, trivial,
      harmless_blockEOF (by decide +kernel), trivial, harmless_blockEOF (by decide +kernel), trivial⟩
  exact ⟨errors_are_final .receiver 0 _ hCareful.run, by decide +kernel, by decide +kernel⟩

/-- Two bytes are delivered where one was agreed, and an Init message without a synchronous mode is
negotiated after it has been reported. -/
theorem errors_not_final :
    (∃ w, Run (fun _ _ => True) (start .receiver 0) w ∧
      ¬ (w.session.mTransferLength ≠ 0 → w.deliveredBytes ≤ w.session.mTransferLength.toNat)) ∧
    ∃ w, Run (fun _ _ => True) (start .receiver 0) w ∧
      ¬ (w.reported ≠ none → w.session.mState = .errorState) := by
  refine ⟨⟨(askForByte [7, 8]).foldl perform (start .receiver 0), Along.run ?_, ?_⟩,
    ⟨(offerModes async).foldl perform (start .receiver 0), Along.run ?_, ?_⟩⟩
  · exact ⟨trivial, trivial, trivial, trivial, trivial, trivial, trivial, trivial, trivial, trivial⟩
  · decide +kernel
  · exact ⟨trivial, trivial, trivial⟩
  · decide +kernel

end Watched

end Chip.Bdx
