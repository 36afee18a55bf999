import Chip.Bdx.Exchange

/-! The stages of a transfer in sender drive and in receiver drive: whose turn it is, what is on the
way and what the counters are. Each call and each message takes one stage to another. -/
namespace Chip.Bdx

open List

open Chip.Transport (Bytes)

open TransferControlFlags TransferSession

namespace Exchange

def pendingBlocks (s : TransferSession) : List BlockData :=
  if s.mPendingOutput = .blockReceived then
    [⟨some s.mBlockEventData.data, s.mBlockEventData.isEof⟩]
  else []

def core (s : TransferSession) : TransferSession :=
  { s with
    mPendingOutput := .none
    mPendingMsg := []
    mMsgTypeData := .other
    mStatusReportData := .other 0
    mBlockEventData := ⟨[], false, 0⟩
    mTransferAcceptData := ⟨0, 0, 0, 0, []⟩
    mBytesToSkip := 0
    mTimeoutStartTime := 0
    mShouldInitTimeoutStart := false }

/-- The state of a session, and whether it waits for the other side. -/
structure Stands (s : TransferSession) (state : TransferState) (awaits : Bool) : Prop where
  state : s.mState = state
  awaits : s.mAwaitingResponse = awaits

/-- The terms of the transfer and the counters of the blocks, with the blocks that the sender has
prepared and those that the receiver has received. -/
structure Accounts (mode : UInt8) (sender receiver : TransferSession)
    (prepared received : List BlockData) : Prop where
  drive : mode = senderDrive ∨ mode = receiverDrive
  roles : sender.mRole = .sender ∧ receiver.mRole = .receiver
  modes : sender.mControlMode = mode ∧ receiver.mControlMode = mode
  size : sender.mTransferMaxBlockSize = receiver.mTransferMaxBlockSize
  length : sender.mTransferLength = receiver.mTransferLength
  next : sender.mNextBlockNum = UInt32.ofNat prepared.length
  last : sender.mLastBlockNum = UInt32.ofNat (prepared.length - 1)
  lastReceived : receiver.mLastBlockNum = UInt32.ofNat (received.length - 1)
  processed : receiver.mNumBytesProcessed = UInt64.ofNat (bytes received)

/-- The counters of the queries. The sender has seen `seen` for the last one, in receiver drive. -/
structure Queries (mode : UInt8) (sender receiver : TransferSession) (last next seen : Nat) :
    Prop where
  last : receiver.mLastQueryNum = UInt32.ofNat last
  next : mode = receiverDrive → receiver.mNextQueryNum = UInt32.ofNat next
  seen : mode = receiverDrive → sender.mLastQueryNum = UInt32.ofNat seen

/-- Acknowledgements of the last of `n` blocks. -/
def acks (k n : Nat) : List Message :=
  List.replicate k (ackMessage (UInt32.ofNat (n - 1)) false)

/-- Messages that ask for the block after `n` blocks. -/
inductive Request (mode : UInt8) (n : Nat) : List Message → Prop
  | query (k : Nat) (skip : Option UInt64) (driven : mode = receiverDrive) :
      Request mode n (acks k n ++ [queryMessage (UInt32.ofNat n) skip])
  | ack (driven : mode = senderDrive) (some : 0 < n) : Request mode n (acks 1 n)

structure Sound (block : BlockData) (data : Bytes) (sender : TransferSession)
    (prepared : List BlockData) : Prop where
  carries : block.data = some data
  size : data.length ≤ sender.mTransferMaxBlockSize.toNat
  some : block.isEof = false → 0 < data.length
  length : block.isEof = false → sender.isTransferLengthDefinite = true →
    bytes prepared ≤ sender.mTransferLength.toNat

inductive Stage (mode : UInt8) (sender receiver : TransferSession)
    (toReceiver toSender : List Message) (prepared received : List BlockData) : Prop
  | receiverTurn (k : Nat) (all : prepared = received)
      (sends : Stands sender .transferInProgress true)
      (receives : Stands receiver .transferInProgress false)
      (queries : Queries mode sender receiver (received.length - 1) received.length
        (received.length - 1))
      (down : toReceiver = []) (up : toSender = acks k received.length)
      (driven : mode = senderDrive → k = 0 ∧ 0 < received.length)
  | requested (all : prepared = received)
      (sends : Stands sender .transferInProgress true)
      (receives : Stands receiver .transferInProgress true)
      (queries : Queries mode sender receiver received.length (received.length + 1)
        (received.length - 1))
      (down : toReceiver = []) (up : Request mode received.length toSender)
  | senderTurn (all : prepared = received)
      (sends : Stands sender .transferInProgress false)
      (receives : Stands receiver .transferInProgress true)
      (queries : Queries mode sender receiver received.length (received.length + 1)
        received.length)
      (down : toReceiver = []) (up : toSender = [])
  | blockSent (block : BlockData) (data : Bytes) (all : prepared = received ++ [block])
      (sound : Sound block data sender prepared)
      (sends : Stands sender (if block.isEof then .awaitingEOFAck else .transferInProgress) true)
      (receives : Stands receiver .transferInProgress true)
      (queries : Queries mode sender receiver received.length (received.length + 1)
        received.length)
      (down : toReceiver = [blockMessage (UInt32.ofNat received.length) data block.isEof])
      (up : toSender = [])
  | receivedEOF (blocks : List BlockData) (last : BlockData) (all : prepared = received)
      (ends : prepared = blocks ++ [last]) (eof : last.isEof = true)
      (sends : Stands sender .awaitingEOFAck true) (receives : Stands receiver .receivedEOF false)
      (queries : Queries mode sender receiver (received.length - 1) received.length
        (received.length - 1))
      (down : toReceiver = []) (up : toSender = [])
  | acknowledgedEOF (blocks : List BlockData) (last : BlockData) (all : prepared = received)
      (ends : prepared = blocks ++ [last]) (eof : last.isEof = true)
      (sends : Stands sender .awaitingEOFAck true) (receives : Stands receiver .transferDone false)
      (queries : Queries mode sender receiver (received.length - 1) received.length
        (received.length - 1))
      (down : toReceiver = [])
      (up : toSender = [ackMessage (UInt32.ofNat (received.length - 1)) true])
  | done (blocks : List BlockData) (last : BlockData) (all : prepared = received)
      (ends : prepared = blocks ++ [last]) (eof : last.isEof = true)
      (sends : Stands sender .transferDone false) (receives : Stands receiver .transferDone false)
      (queries : Queries mode sender receiver (received.length - 1) received.length
        (received.length - 1))
      (down : toReceiver = []) (up : toSender = [])

structure Progress (mode : UInt8) (sender receiver : TransferSession)
    (toReceiver toSender : List Message) (prepared received : List BlockData) : Prop where
  accounts : Accounts mode sender receiver prepared received
  stage : Stage mode sender receiver toReceiver toSender prepared received

variable {mode : UInt8} {s s' sender receiver : TransferSession} {granted : Bool}
  {toReceiver toSender : List Message} {prepared received : List BlockData}

theorem acks_append (k n : Nat) :
  acks k n ++ [ackMessage (UInt32.ofNat (n - 1)) false] = acks (k + 1) n :=
  replicate_succ'.symm

theorem Progress.query (skip : Option UInt64) (type : MessageType) (payload : Bytes)
  (hProgress : Progress mode sender (core s) toReceiver toSender prepared received)
  (hMay : MayPrepare .receiver s) (hDriven : mode = receiverDrive) :
  Progress mode sender (core (s.queried type payload)) toReceiver
    (toSender ++ [queryMessage s.mNextQueryNum skip]) prepared received := by
  obtain ⟨hAccounts, hStage⟩ := hProgress
  cases hStage with
  | receiverTurn k all sends receives queries down up driven =>
    have hNext : s.mNextQueryNum = UInt32.ofNat received.length := queries.next hDriven
    refine ⟨{ hAccounts with }, ?_⟩
    refine .requested all sends ⟨hMay.state, rfl⟩ ⟨hNext, fun _ => ?_, queries.seen⟩ down ?_
    · change s.mNextQueryNum + 1 = _
      rw [hNext, UInt32.ofNat_add]
      rfl
    · rw [up, hNext]
      exact .query k skip hDriven
  | requested _ _ receives => exact absurd (receives.awaits.symm.trans hMay.free) (by decide)
  | senderTurn _ _ receives => exact absurd (receives.awaits.symm.trans hMay.free) (by decide)
  | blockSent _ _ _ _ _ receives =>
    exact absurd (receives.awaits.symm.trans hMay.free) (by decide)
  | receivedEOF _ _ _ _ _ _ receives =>
    exact absurd (receives.state.symm.trans hMay.state) (by decide)
  | acknowledgedEOF _ _ _ _ _ _ receives =>
    exact absurd (receives.state.symm.trans hMay.state) (by decide)
  | done _ _ _ _ _ _ receives => exact absurd (receives.state.symm.trans hMay.state) (by decide)

theorem Progress.ack
  (hProgress : Progress mode sender (core s) toReceiver toSender prepared received)
  (hMay : MayAck s) (hFree : s.mState = .transferInProgress → s.mAwaitingResponse = false) :
  Progress mode sender (core s.ackPrepared) toReceiver
    (toSender ++ [ackMessage s.mLastBlockNum (s.mState = .receivedEOF)]) prepared received := by
  obtain ⟨hAccounts, hStage⟩ := hProgress
  have hLast : s.mLastBlockNum = UInt32.ofNat (received.length - 1) := hAccounts.lastReceived
  have hMode : s.mControlMode = mode := hAccounts.modes.2
  cases hStage with
  | receiverTurn k all sends receives queries down up driven =>
    have hState : s.mState = .transferInProgress := receives.state
    have hEof : decide (s.mState = .receivedEOF) = false := by simp [hState]
    rw [hEof, hLast]
    rcases hAccounts.drive with hSender | hReceiver
    · -- The acknowledgement asks for the next block.
      obtain ⟨rfl, hSome⟩ := driven hSender
      have hPrepared : core s.ackPrepared = core { s with
          mLastQueryNum := s.mLastBlockNum + 1, mAwaitingResponse := true } := by
        simp [ackPrepared, hState, hMode, hSender, core]
      rw [hPrepared]
      refine ⟨{ hAccounts with }, ?_⟩
      refine .requested all sends ⟨hState, rfl⟩ ⟨?_, ?_, ?_⟩ down ?_
      · change s.mLastBlockNum + 1 = _
        rw [hLast]
        have hLength : received.length = received.length - 1 + 1 := by omega
        rw [hLength, UInt32.ofNat_add]
        rfl
      · intro hReceiver
        exact absurd (hSender.symm.trans hReceiver) (by decide)
      · intro hReceiver
        exact absurd (hSender.symm.trans hReceiver) (by decide)
      · rw [up, acks_append]
        exact .ack hSender hSome
    · have hPrepared : core s.ackPrepared = core s := by
        simp [ackPrepared, hState, hMode, hReceiver, core, senderDrive, receiverDrive]
      rw [hPrepared]
      refine ⟨hAccounts, .receiverTurn (k + 1) all sends receives queries down ?_ ?_⟩
      · rw [up, acks_append]
      · intro hSender
        exact absurd (hSender.symm.trans hReceiver) (by decide)
  | requested _ _ receives =>
    exact absurd (receives.awaits.symm.trans (hFree receives.state)) (by decide)
  | senderTurn _ _ receives =>
    exact absurd (receives.awaits.symm.trans (hFree receives.state)) (by decide)
  | blockSent _ _ _ _ _ receives =>
    exact absurd (receives.awaits.symm.trans (hFree receives.state)) (by decide)
  | receivedEOF blocks last all ends eof sends receives queries down up =>
    have hState : s.mState = .receivedEOF := receives.state
    have hPrepared : core s.ackPrepared = core { s with
        mState := .transferDone, mAwaitingResponse := false } := by
      simp [ackPrepared, hState, core]
    rw [up, hLast, decide_eq_true hState, hPrepared]
    exact ⟨{ hAccounts with }, .acknowledgedEOF blocks last all ends eof sends ⟨rfl, rfl⟩
      ⟨queries.last, queries.next, queries.seen⟩ down rfl⟩
  | acknowledgedEOF _ _ _ _ _ _ receives =>
    rcases hMay.state with hState | hState
    · exact absurd (receives.state.symm.trans hState) (by decide)
    · exact absurd (receives.state.symm.trans hState) (by decide)
  | done _ _ _ _ _ _ receives =>
    rcases hMay.state with hState | hState
    · exact absurd (receives.state.symm.trans hState) (by decide)
    · exact absurd (receives.state.symm.trans hState) (by decide)

theorem bytes_append (blocks : List BlockData) (block : BlockData) :
  bytes (blocks ++ [block]) = bytes blocks + (block.data.getD []).length := by
  simp [bytes]

theorem Progress.block {block : BlockData} {data : Bytes}
  (hProgress : Progress mode (core s) receiver toReceiver toSender prepared received)
  (hMay : MayPrepare .sender s) (hData : block.data = some data)
  (hSize : data.length ≤ s.mTransferMaxBlockSize.toNat)
  (hOrderly : block.isEof = true ∨ (block.data ≠ some [] ∧ (s.isTransferLengthDefinite = true →
    bytes (prepared ++ [block]) ≤ s.mTransferLength.toNat))) :
  Progress mode (core (s.blockPrepared data block.isEof)) receiver
    (toReceiver ++ [blockMessage s.mNextBlockNum data block.isEof]) toSender
    (prepared ++ [block]) received := by
  obtain ⟨hAccounts, hStage⟩ := hProgress
  cases hStage with
  | receiverTurn _ _ sends => exact absurd (sends.awaits.symm.trans hMay.free) (by decide)
  | requested _ sends => exact absurd (sends.awaits.symm.trans hMay.free) (by decide)
  | senderTurn all sends receives queries down up =>
    have hNext : s.mNextBlockNum = UInt32.ofNat prepared.length := hAccounts.next
    refine ⟨{ hAccounts with next := ?_, last := ?_ }, ?_⟩
    · change s.mNextBlockNum + 1 = _
      rw [hNext, length_append, UInt32.ofNat_add]
      rfl
    · rw [length_append]
      exact hNext
    · refine .blockSent block data (all ▸ rfl) ⟨hData, hSize, ?_, ?_⟩ ⟨?_, rfl⟩ receives
        ⟨queries.last, queries.next, queries.seen⟩ ?_ up
      · intro hNot
        rcases hOrderly with hEof | ⟨hSome, -⟩
        · exact absurd (hEof.symm.trans hNot) (by decide)
        · rw [hData] at hSome
          exact length_pos_iff.mpr fun hEmpty => hSome (congrArg some hEmpty)
      · intro hNot
        rcases hOrderly with hEof | ⟨-, hLength⟩
        · exact absurd (hEof.symm.trans hNot) (by decide)
        · exact hLength
      · have hState : s.mState = .transferInProgress := hMay.state
        change (if block.isEof = true then _ else s.mState) = _
        rw [hState]
      · rw [down, hNext, all]
        rfl
  | blockSent _ _ _ _ sends => exact absurd (sends.awaits.symm.trans hMay.free) (by decide)
  | receivedEOF _ _ _ _ _ sends => exact absurd (sends.awaits.symm.trans hMay.free) (by decide)
  | acknowledgedEOF _ _ _ _ _ sends =>
    exact absurd (sends.awaits.symm.trans hMay.free) (by decide)
  | done _ _ _ _ _ sends => exact absurd (sends.state.symm.trans hMay.state) (by decide)

theorem Sound.bytes_append {block : BlockData} {data : Bytes}
  (hSound : Sound block data sender prepared) (blocks : List BlockData) :
  bytes (blocks ++ [block]) = bytes blocks + data.length := by
  rw [Exchange.bytes_append, hSound.carries]
  rfl

theorem Sound.mayReceive {block : BlockData} {data : Bytes}
  (hSound : Sound block data sender prepared)
  (hAccounts : Accounts mode sender (core s) prepared received)
  (hAll : prepared = received ++ [block]) : MayReceive data block.isEof s := by
  have hProcessed : s.mNumBytesProcessed = UInt64.ofNat (bytes received) := hAccounts.processed
  have hSize : sender.mTransferMaxBlockSize = s.mTransferMaxBlockSize := hAccounts.size
  have hTransfer : sender.mTransferLength = s.mTransferLength := hAccounts.length
  refine ⟨hSize ▸ hSound.size, hSound.some, fun hNot hDefinite => ?_⟩
  have hDefinite' : sender.isTransferLengthDefinite = true := by
    rw [isTransferLengthDefinite, hTransfer]
    exact hDefinite
  have hLength := hSound.length hNot hDefinite'
  rw [hAll, hSound.bytes_append, hTransfer] at hLength
  rw [hProcessed, ← UInt64.ofNat_add, UInt64.le_iff_toNat_le, UInt64.toNat_ofNat']
  exact Nat.le_trans (Nat.mod_le _ _) hLength

theorem Progress.receive {msg : Message} {rest : List Message} (granted : Bool)
  (hProgress : Progress mode sender (core s) (msg :: rest) toSender prepared received) :
  ∃ type payload, msg = ⟨.bdx type, payload⟩ ∧
    (s.handleBdxMessage granted type payload).mPendingOutput = .blockReceived ∧
    (s.handleBdxMessage granted type payload).mState ≠ .transferDone ∧
    Progress mode sender (core (s.handleBdxMessage granted type payload)) rest toSender prepared
      (received ++ pendingBlocks (s.handleBdxMessage granted type payload)) := by
  obtain ⟨hAccounts, hStage⟩ := hProgress
  cases hStage with
  | blockSent block data all sound sends receives queries down up =>
    obtain ⟨rfl, rfl⟩ := cons.inj down
    have hExpects := expects_of (s := s) hAccounts.roles.2 receives.state receives.awaits
    have hLast : s.mLastQueryNum = UInt32.ofNat received.length := queries.last
    have hMay := sound.mayReceive hAccounts all
    have hHandle := handleData granted hExpects hMay hLast
    have hBlock : (⟨some data, block.isEof⟩ : BlockData) = block := by rw [← sound.carries]
    have hPending : pendingBlocks (s.blockReceived ⟨UInt32.ofNat received.length, data⟩ block.isEof
        (blockMessage (UInt32.ofNat received.length) data block.isEof).payload) = [block] :=
      congrArg (fun block => [block]) hBlock
    refine ⟨_, (blockMessage (UInt32.ofNat received.length) data block.isEof).payload, rfl, ?_,
      ?_, ?_⟩
    · rw [hHandle]
      rfl
    · have hState : s.mState = .transferInProgress := receives.state
      rw [hHandle]
      cases hEof : block.isEof with
      | true => simp [blockReceived]
      | false => simp [blockReceived, hState]
    rw [hHandle, hPending]
    have hCount : received.length = (received ++ [block]).length - 1 := by simp
    refine ⟨{ hAccounts with lastReceived := ?_, processed := ?_ }, ?_⟩
    · rw [← hCount]
      rfl
    · have hProcessed : s.mNumBytesProcessed = UInt64.ofNat (bytes received) := hAccounts.processed
      change s.mNumBytesProcessed + UInt64.ofNat data.length = _
      rw [hProcessed, sound.bytes_append, UInt64.ofNat_add]
    · have hQueries : Queries mode sender
          (core (s.blockReceived ⟨UInt32.ofNat received.length, data⟩ block.isEof
            (blockMessage (UInt32.ofNat received.length) data block.isEof).payload))
          ((received ++ [block]).length - 1) (received ++ [block]).length
          ((received ++ [block]).length - 1) := by
        rw [← hCount, length_append]
        exact ⟨queries.last, queries.next, queries.seen⟩
      cases hEof : block.isEof with
      | true =>
        rw [hEof] at sends hQueries
        exact .receivedEOF received block all all hEof sends ⟨rfl, rfl⟩ hQueries rfl up
      | false =>
        rw [hEof] at sends hQueries
        exact .receiverTurn 0 all sends ⟨receives.state, rfl⟩ hQueries rfl up
          fun _ => ⟨rfl, by simp⟩
  | receiverTurn _ _ _ _ _ down => cases down
  | requested _ _ _ _ down => cases down
  | senderTurn _ _ _ _ down => cases down
  | receivedEOF _ _ _ _ _ _ _ _ down => cases down
  | acknowledgedEOF _ _ _ _ _ _ _ _ down => cases down
  | done _ _ _ _ _ _ _ _ down => cases down

theorem Accounts.handleAck (granted : Bool)
  (hAccounts : Accounts mode (core s) receiver prepared received) (hAll : prepared = received)
  (hSends : Stands (core s) .transferInProgress true) :
  s.handleBdxMessage granted .blockAck
      (ackMessage (UInt32.ofNat (received.length - 1)) false).payload = { s with
    mPendingOutput := .ackReceived
    mAwaitingResponse := mode = receiverDrive } := by
  have hMode : s.mControlMode = mode := hAccounts.modes.1
  have hExpects := expects_of (s := s) hAccounts.roles.1 hSends.state hSends.awaits
  rw [TransferSession.handleAck granted hExpects (hAll ▸ hAccounts.last), hMode]

theorem Progress.answer {msg : Message} {rest : List Message} (granted : Bool)
  (hProgress : Progress mode (core s) receiver toReceiver (msg :: rest) prepared received) :
  ∃ type payload, msg = ⟨.bdx type, payload⟩ ∧
    (s.handleBdxMessage granted type payload).mPendingOutput ≠ .msgToSend ∧
    (s.handleBdxMessage granted type payload).mPendingOutput ≠ .blockReceived ∧
    Progress mode (core (s.handleBdxMessage granted type payload)) receiver toReceiver rest prepared
      received := by
  obtain ⟨hAccounts, hStage⟩ := hProgress
  cases hStage with
  | receiverTurn k all sends receives queries down up driven =>
    cases k with
    | zero => cases up
    | succ k =>
      obtain ⟨rfl, rfl⟩ := cons.inj up
      have hReceiver : mode = receiverDrive :=
        hAccounts.drive.resolve_left fun hSender => absurd (driven hSender).1 (by omega)
      have hHandle := hAccounts.handleAck granted all sends
      rw [decide_eq_true hReceiver] at hHandle
      refine ⟨.blockAck, (ackMessage (UInt32.ofNat (received.length - 1)) false).payload, rfl, ?_,
        ?_, ?_⟩
      · simp [hHandle]
      · simp [hHandle]
      rw [hHandle]
      refine ⟨{ hAccounts with }, .receiverTurn k all ⟨sends.state, rfl⟩ receives
        ⟨queries.last, queries.next, queries.seen⟩ down rfl fun hSender => ?_⟩
      exact absurd (hSender.symm.trans hReceiver) (by decide)
  | requested all sends receives queries down up =>
    have hMessages : ∃ messages, Request mode received.length messages ∧
      messages = msg :: rest := ⟨_, up, rfl⟩
    obtain ⟨messages, hRequest, hCons⟩ := hMessages
    cases hRequest with
    | query k skip hReceiver =>
      cases k with
      | zero =>
        obtain ⟨rfl, rfl⟩ := cons.inj hCons
        have hExpects := expects_of (s := s) hAccounts.roles.1 sends.state sends.awaits
        have hType : ∃ type payload, queryMessage (UInt32.ofNat received.length) skip =
            ⟨.bdx type, payload⟩ := by
          cases skip with
          | none => exact ⟨_, _, rfl⟩
          | some bytesToSkip => exact ⟨_, _, rfl⟩
        obtain ⟨type, payload, hMessage⟩ := hType
        have hHandle := handleQuery granted hExpects hMessage (all ▸ hAccounts.next)
        refine ⟨type, payload, hMessage, ?_, ?_, ?_⟩
        · rw [hHandle]
          cases skip with
          | none => simp
          | some bytesToSkip => simp
        · rw [hHandle]
          cases skip with
          | none => simp
          | some bytesToSkip => simp
        rw [hHandle]
        exact ⟨{ hAccounts with }, .senderTurn all ⟨sends.state, rfl⟩ receives
          ⟨queries.last, queries.next, fun _ => rfl⟩ down rfl⟩
      | succ k =>
        obtain ⟨rfl, rfl⟩ := cons.inj hCons
        have hHandle := hAccounts.handleAck granted all sends
        rw [decide_eq_true hReceiver] at hHandle
        refine ⟨.blockAck, (ackMessage (UInt32.ofNat (received.length - 1)) false).payload, rfl,
          ?_, ?_, ?_⟩
        · simp [hHandle]
        · simp [hHandle]
        rw [hHandle]
        exact ⟨{ hAccounts with }, .requested all ⟨sends.state, rfl⟩ receives
          ⟨queries.last, queries.next, queries.seen⟩ down (.query k skip hReceiver)⟩
    | ack hSender hSome =>
      obtain ⟨rfl, rfl⟩ := cons.inj hCons
      have hNot : mode ≠ receiverDrive := hSender ▸ (by decide)
      have hHandle := hAccounts.handleAck granted all sends
      rw [decide_eq_false hNot] at hHandle
      refine ⟨.blockAck, (ackMessage (UInt32.ofNat (received.length - 1)) false).payload, rfl,
        ?_, ?_, ?_⟩
      · simp [hHandle]
      · simp [hHandle]
      rw [hHandle]
      exact ⟨{ hAccounts with }, .senderTurn all ⟨sends.state, rfl⟩ receives
        ⟨queries.last, queries.next, fun hReceiver => absurd hReceiver hNot⟩ down rfl⟩
  | acknowledgedEOF blocks last all ends eof sends receives queries down up =>
    obtain ⟨rfl, rfl⟩ := cons.inj up
    have hExpects := expects_of (s := s) hAccounts.roles.1 sends.state sends.awaits
    have hHandle := handleAckEOF granted hExpects (all ▸ hAccounts.last)
    refine ⟨.blockAckEOF, (ackMessage (UInt32.ofNat (received.length - 1)) true).payload, rfl, ?_,
      ?_, ?_⟩
    · simp [hHandle]
    · simp [hHandle]
    rw [hHandle]
    exact ⟨{ hAccounts with }, .done blocks last all ends eof ⟨rfl, rfl⟩ receives
      ⟨queries.last, queries.next, queries.seen⟩ down rfl⟩
  | senderTurn _ _ _ _ _ up => cases up
  | blockSent _ _ _ _ _ _ _ _ up => cases up
  | receivedEOF _ _ _ _ _ _ _ _ _ up => cases up
  | done _ _ _ _ _ _ _ _ _ up => cases up

section

variable (hStage : Stage mode sender receiver toReceiver toSender prepared received)
include hStage

theorem Stage.inOrder : received <+: prepared := by
  cases hStage with
  | blockSent block _ all => exact all ▸ prefix_append received [block]
  | receiverTurn _ all => exact all ▸ prefix_rfl
  | requested all => exact all ▸ prefix_rfl
  | senderTurn all => exact all ▸ prefix_rfl
  | receivedEOF _ _ all => exact all ▸ prefix_rfl
  | acknowledgedEOF _ _ all => exact all ▸ prefix_rfl
  | done _ _ all => exact all ▸ prefix_rfl

theorem Stage.sender_state :
  sender.mState = .transferInProgress ∨ sender.mState = .awaitingEOFAck ∨
    sender.mState = .transferDone := by
  cases hStage with
  | receiverTurn _ _ sends => exact .inl sends.state
  | requested _ sends => exact .inl sends.state
  | senderTurn _ sends => exact .inl sends.state
  | blockSent block _ _ _ sends =>
    have hState := sends.state
    cases hEof : block.isEof with
    | true => exact .inr (.inl (by simpa [hEof] using hState))
    | false => exact .inl (by simpa [hEof] using hState)
  | receivedEOF _ _ _ _ _ sends => exact .inr (.inl sends.state)
  | acknowledgedEOF _ _ _ _ _ sends => exact .inr (.inl sends.state)
  | done _ _ _ _ _ sends => exact .inr (.inr sends.state)

theorem Stage.receiver_state :
  receiver.mState = .transferInProgress ∨ receiver.mState = .receivedEOF ∨
    receiver.mState = .transferDone := by
  cases hStage with
  | receiverTurn _ _ _ receives => exact .inl receives.state
  | requested _ _ receives => exact .inl receives.state
  | senderTurn _ _ receives => exact .inl receives.state
  | blockSent _ _ _ _ _ receives => exact .inl receives.state
  | receivedEOF _ _ _ _ _ _ receives => exact .inr (.inl receives.state)
  | acknowledgedEOF _ _ _ _ _ _ receives => exact .inr (.inr receives.state)
  | done _ _ _ _ _ _ receives => exact .inr (.inr receives.state)

theorem Stage.complete (hDone : sender.mState = .transferDone) :
  receiver.mState = .transferDone ∧ received = prepared ∧
    ∃ blocks last, prepared = blocks ++ [last] ∧ last.isEof = true := by
  cases hStage with
  | receiverTurn _ _ sends => exact absurd (sends.state.symm.trans hDone) (by decide)
  | requested _ sends => exact absurd (sends.state.symm.trans hDone) (by decide)
  | senderTurn _ sends => exact absurd (sends.state.symm.trans hDone) (by decide)
  | blockSent block _ _ _ sends =>
    have hState := sends.state.symm.trans hDone
    cases hEof : block.isEof with
    | true => exact absurd hState (by simp [hEof])
    | false => exact absurd hState (by simp [hEof])
  | receivedEOF _ _ _ _ _ sends => exact absurd (sends.state.symm.trans hDone) (by decide)
  | acknowledgedEOF _ _ _ _ _ sends => exact absurd (sends.state.symm.trans hDone) (by decide)
  | done blocks last all ends eof sends receives =>
    exact ⟨receives.state, all.symm, blocks, last, ends, eof⟩

end

theorem ofNat_pred (n : Nat) : UInt32.ofNat n = UInt32.ofNat (n - 1) ∨
  UInt32.ofNat n = UInt32.ofNat (n - 1) + 1 := by
  cases n with
  | zero => exact .inl rfl
  | succ n => exact .inr (UInt32.ofNat_add n 1)

theorem filter_acks (k n : Nat) : (acks k n).filter isQuery = [] := by
  rw [filter_eq_nil_iff]
  intro msg hMsg
  rw [eq_of_mem_replicate hMsg]
  exact Bool.false_ne_true

theorem Progress.counters
  (hProgress : Progress mode sender receiver toReceiver toSender prepared received) :
  CountersClose sender receiver toReceiver toSender := by
  obtain ⟨hAccounts, hStage⟩ := hProgress
  have hMode : sender.mControlMode = receiverDrive → mode = receiverDrive :=
    fun hReceiver => hAccounts.modes.1.symm.trans hReceiver
  have hEven : prepared = received →
      Queries mode sender receiver (received.length - 1) received.length (received.length - 1) →
      CountersClose sender receiver toReceiver toSender := by
    intro hAll hQueries
    refine ⟨.inl ?_, fun hReceiver _ => .inl ?_, .inl ?_⟩
    · rw [hAccounts.last, hAccounts.lastReceived, hAll]
    · rw [hQueries.last, hQueries.seen (hMode hReceiver)]
    · rw [hQueries.last, hAccounts.last, hAll]
  cases hStage with
  | receiverTurn _ all _ _ queries => exact hEven all queries
  | receivedEOF _ _ all _ _ _ _ queries => exact hEven all queries
  | acknowledgedEOF _ _ all _ _ _ _ queries => exact hEven all queries
  | done _ _ all _ _ _ _ queries => exact hEven all queries
  | requested all _ _ queries _ up =>
    refine ⟨.inl ?_, fun hReceiver _ => ?_, .inr ?_⟩
    · rw [hAccounts.last, hAccounts.lastReceived, all]
    · rw [queries.last, queries.seen (hMode hReceiver)]
      refine (ofNat_pred received.length).imp_right fun hAhead => ⟨hAhead, ?_⟩
      cases up with
      | query k skip =>
        rw [filter_append, filter_acks]
        cases skip with
        | none => rfl
        | some bytesToSkip => rfl
      | ack hSender =>
        exact absurd (hSender.symm.trans (hMode hReceiver)) (by decide)
    · rw [queries.last, hAccounts.next, all]
  | senderTurn all _ _ queries =>
    refine ⟨.inl ?_, fun hReceiver _ => .inl ?_, .inr ?_⟩
    · rw [hAccounts.last, hAccounts.lastReceived, all]
    · rw [queries.last, queries.seen (hMode hReceiver)]
    · rw [queries.last, hAccounts.next, all]
  | blockSent block data all _ _ _ queries down =>
    have hCount : prepared.length - 1 = received.length := by simp [all]
    refine ⟨?_, fun hReceiver _ => .inl ?_, .inl ?_⟩
    · rw [hAccounts.last, hAccounts.lastReceived, hCount]
      refine (ofNat_pred received.length).imp_right fun hAhead => ⟨hAhead, ?_⟩
      rw [down]
      cases hEof : block.isEof with
      | true => rfl
      | false => rfl
    · rw [queries.last, queries.seen (hMode hReceiver)]
    · rw [queries.last, hAccounts.last, hCount]

end Exchange

end Chip.Bdx
