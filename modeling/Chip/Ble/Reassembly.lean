import Chip.Ble.Fragments
import Chip.Ble.Receiving

/-! Two engines, of which the first sends a message to the second: each fragment is handed to the
peer as soon as it is made. Both may acknowledge what they have received, with the fragments or on
their own, and the second may send messages back. -/
namespace Chip.Ble

open List

open Chip.System (PacketBuffer)
open BtpEngine

/-- The two engines, the fragments of the message, and whether one was refused. -/
structure Link where
  sender : BtpEngine
  receiver : BtpEngine
  fragments : List (List UInt8)
  refused : Bool

inductive LinkEvent where
  | next (sendAck : Bool)
  | standAloneAck
  | reply (allocSize : Nat) (data : Option PacketBuffer) (sendAck : Bool)
  | replyStandAloneAck (allocSize : Nat)
  | replySent
  | replyTaken

namespace Link

def feed (allocSize : Nat) (l : Link) (sent : BtpEngine) (fragment : List UInt8) : Link :=
  let fed := l.receiver.handleCharacteristicReceived allocSize fragment
  { l with sender := sent, receiver := fed.2.2, refused := l.refused || !fed.2.1.isOk }

def feedBack (allocSize : Nat) (l : Link) (sent : BtpEngine) (fragment : List UInt8) : Link :=
  { l with
    receiver := sent
    sender := (l.sender.handleCharacteristicReceived allocSize fragment).2.2 }

def transmit (allocSize : Nat) (l : Link) (data : Option PacketBuffer) (sendAck : Bool) : Link :=
  let sent := l.sender.handleCharacteristicSend data sendAck
  if sent.1 then
    { feed allocSize l sent.2 sent.2.txFragment with
      fragments := l.fragments ++ [sent.2.txFragment] }
  else { l with sender := sent.2 }

/-- Stand-alone acknowledgements are sent only when there is something to acknowledge. -/
def step (allocSize : Nat) (l : Link) : LinkEvent → Link
  | .next sendAck => transmit allocSize l none sendAck
  | .standAloneAck =>
    if l.sender.hasUnackedData then
      feed allocSize l l.sender.encodeStandAloneAck.2 l.sender.encodeStandAloneAck.1
    else l
  | .reply backSize data sendAck =>
    let sent := l.receiver.handleCharacteristicSend data sendAck
    if sent.1 then feedBack backSize l sent.2 sent.2.txFragment else { l with receiver := sent.2 }
  | .replyStandAloneAck backSize =>
    if l.receiver.hasUnackedData then
      feedBack backSize l l.receiver.encodeStandAloneAck.2 l.receiver.encodeStandAloneAck.1
    else l
  | .replySent =>
    if l.receiver.mTxState = .complete then { l with receiver := l.receiver.takeTxPacket } else l
  | .replyTaken => { l with sender := l.sender.takeRxPacket.2 }

/-- The message is handed to the sender, and then the events follow. -/
def run (allocSize : Nat) (a b : BtpEngine) (msg : PacketBuffer) (sendAck : Bool)
  (events : List LinkEvent) : Link :=
  events.foldl (step allocSize) (transmit allocSize ⟨a, b, [], false⟩ (some msg) sendAck)

end Link

/-- The engine `y` expects the next fragment of `x`, and what it can acknowledge is the newest
fragment of `x`. -/
structure Synced (x y : BtpEngine) : Prop where
  seq : x.mTxNextSeqNum = y.mRxNextSeqNum
  size : x.mTxFragmentSize = y.mRxFragmentSize
  enough : 20 ≤ x.mTxFragmentSize
  newest : y.hasUnackedData = true →
    x.mExpectingAck = true ∧ y.mRxNewestUnackedSeqNum = x.mTxNewestUnackedSeqNum
  sending : x.mTxState = .inProgress → ∃ left, x.Sending left

variable {x y sent got : BtpEngine} {sendAck : Bool}

theorem BtpEngine.handleAckReceived_newest {e : BtpEngine} (hExpecting : e.mExpectingAck = true) :
  e.handleAckReceived e.mTxNewestUnackedSeqNum =
    .ok { e with mTxOldestUnackedSeqNum := e.mTxNewestUnackedSeqNum, mExpectingAck := false } := by
  have hValid : e.isValidAck e.mTxNewestUnackedSeqNum = true := by
    simp only [isValidAck, hExpecting, Bool.not_true, Bool.false_eq_true, if_false]
    split
    · rename_i hOrder
      simp [hOrder]
    · simp
  simp [handleAckReceived, hValid]

/-- The peer's engine after an acknowledgement of its newest fragment, or without one. -/
def BtpEngine.ackedBy (y : BtpEngine) (sendAck : Bool) : BtpEngine :=
  { y with
    mTxOldestUnackedSeqNum := if sendAck then y.mTxNewestUnackedSeqNum
      else y.mTxOldestUnackedSeqNum
    mExpectingAck := if sendAck then false else y.mExpectingAck }

def BtpEngine.fed (y : BtpEngine) (sendAck : Bool) : BtpEngine := (y.ackedBy sendAck).received

theorem acknowledges_newest (hBack : Synced y x)
  (hAck : sendAck = true → x.hasUnackedData = true) :
  y.Acknowledges (x.ackWith sendAck) (y.ackedBy sendAck) := by
  cases sendAck with
  | false => rfl
  | true =>
    obtain ⟨hExpecting, hNewest⟩ := hBack.newest (hAck rfl)
    have hAccepted := handleAckReceived_newest hExpecting
    rw [← hNewest] at hAccepted
    change y.handleAckReceived x.mRxNewestUnackedSeqNum = _
    rw [hAccepted, hNewest]
    rfl

def BtpEngine.txMessage (e : BtpEngine) : BtpState × Nat × Option PacketBuffer × Nat :=
  (e.mTxState, e.mTxLength, e.mTxBuf, e.mTxFragmentSize)

/-- What an engine holds of the message that it is receiving. -/
def BtpEngine.rxMessage (e : BtpEngine) : BtpState × Nat × List (List UInt8) :=
  (e.mRxState, e.mRxLength, e.mRxBuf)

theorem BtpEngine.Sending.congr {e e' : BtpEngine} {left : List UInt8} (hSending : e.Sending left)
  (hSame : e'.txMessage = e.txMessage) : e'.Sending left := by
  injection hSame with hState hRest
  injection hRest with hLength hRest
  injection hRest with hBuf hSize
  exact {
    inProgress := hState.trans hSending.inProgress
    some_left := hSending.some_left
    length := hLength.trans hSending.length
    in_place := by
      rw [hBuf, hSize]
      exact hSending.in_place }

theorem BtpEngine.hasUnackedData_eq {e e' : BtpEngine}
  (hOldest : e'.mRxOldestUnackedSeqNum = e.mRxOldestUnackedSeqNum)
  (hNext : e'.mRxNextSeqNum = e.mRxNextSeqNum) : e'.hasUnackedData = e.hasUnackedData := by
  rw [hasUnackedData, hasUnackedData, hOldest, hNext]

theorem synced_transmitted (hForth : Synced x y) (hBack : Synced y x)
  (hSent : sent.session = (x.counted sendAck).session)
  (hSending : sent.mTxState = .inProgress → ∃ left, sent.Sending left)
  (hGot : got.rxSession = (y.fed sendAck).rxSession) :
  Synced sent got ∧ Synced got sent := by
  have hTxNext : sent.mTxNextSeqNum = x.mTxNextSeqNum + 1 :=
    (congrArg mTxNextSeqNum hSent).trans counted_mTxNextSeqNum
  have hTxNewest : sent.mTxNewestUnackedSeqNum = x.mTxNextSeqNum :=
    (congrArg mTxNewestUnackedSeqNum hSent).trans counted_mTxNewestUnackedSeqNum
  have hSize : sent.mTxFragmentSize = x.mTxFragmentSize :=
    (congrArg mTxFragmentSize hSent).trans counted_mTxFragmentSize
  have hRxNext : got.mRxNextSeqNum = y.mRxNextSeqNum + 1 := congrArg mRxNextSeqNum hGot
  have hNewest : got.mRxNewestUnackedSeqNum = y.mRxNextSeqNum :=
    congrArg mRxNewestUnackedSeqNum hGot
  refine ⟨?_, ?_⟩
  · exact {
      seq := by rw [hTxNext, hRxNext, hForth.seq]
      size := hSize.trans (hForth.size.trans (congrArg mRxFragmentSize hGot).symm)
      enough := hSize ▸ hForth.enough
      newest := fun _ =>
        ⟨congrArg mExpectingAck hSent, hNewest.trans (hForth.seq.symm.trans hTxNewest.symm)⟩
      sending := hSending }
  · exact {
      seq := by
        have hRx : sent.mRxNextSeqNum = x.mRxNextSeqNum :=
          (congrArg mRxNextSeqNum hSent).trans counted_mRxNextSeqNum
        rw [hRx, ← hBack.seq]
        exact (congrArg mTxNextSeqNum hGot :)
      size := by
        have hRx : sent.mRxFragmentSize = x.mRxFragmentSize :=
          (congrArg mRxFragmentSize hSent).trans counted_mRxFragmentSize
        rw [hRx, ← hBack.size]
        exact (congrArg mTxFragmentSize hGot :)
      enough := by
        have hTx : got.mTxFragmentSize = y.mTxFragmentSize := (congrArg mTxFragmentSize hGot :)
        rw [hTx]
        exact hBack.enough
      newest := by
        intro hUnacked
        cases sendAck with
        | true =>
          -- What has come was acknowledged, so that nothing is left to acknowledge.
          have hSame : sent.hasUnackedData = x.recordRxAckSeqNum.hasUnackedData :=
            hasUnackedData_eq (congrArg mRxOldestUnackedSeqNum hSent :)
              (congrArg mRxNextSeqNum hSent :)
          have hNone : x.recordRxAckSeqNum.hasUnackedData = false := by
            simp [hasUnackedData, recordRxAckSeqNum]
          rw [hSame, hNone] at hUnacked
          cases hUnacked
        | false =>
          have hSame : sent.hasUnackedData = x.hasUnackedData :=
            hasUnackedData_eq (congrArg mRxOldestUnackedSeqNum hSent :)
              (congrArg mRxNextSeqNum hSent :)
          obtain ⟨hExpecting, hEq⟩ := hBack.newest (hSame ▸ hUnacked)
          exact ⟨(congrArg mExpectingAck hGot).trans hExpecting,
            ((congrArg mRxNewestUnackedSeqNum hSent).trans hEq).trans
              (congrArg mTxNewestUnackedSeqNum hGot).symm⟩
      sending := by
        intro hState
        have hSameState : got.mTxState = y.mTxState := (congrArg mTxState hGot :)
        obtain ⟨left, hLeft⟩ := hBack.sending (hSameState ▸ hState)
        exact ⟨left, hLeft.congr (congrArg txMessage hGot :)⟩ }

/-- A fragment with data: what an engine has made, and the header of it. -/
structure DataFragment (x : BtpEngine) (sendAck : Bool) (sent : BtpEngine) (flags : UInt8)
    (data : List UInt8) : Prop where
  bytes : sent.txFragment =
    flags :: headerBytes (x.ackWith sendAck) x.mTxNextSeqNum ++ data
  fits : 1 + (headerBytes (x.ackWith sendAck) x.mTxNextSeqNum).length + data.length ≤
    x.mTxFragmentSize
  ackFlag : hasFlag flags fragmentAck = sendAck
  carries : carriesData flags = true
  session : sent.session = (x.counted sendAck).session
  sending : sent.mTxState = .inProgress → ∃ left, sent.Sending left

theorem ackWith_isSome : (x.ackWith sendAck).isSome = sendAck := by
  cases sendAck with
  | true => rfl
  | false => rfl

theorem headerRest_eq (lengthField : List UInt8) :
  x.headerRest sendAck lengthField =
    headerBytes (x.ackWith sendAck) x.mTxNextSeqNum ++ lengthField := by
  cases sendAck with
  | true => rfl
  | false => rfl

theorem headerBytes_length_le (ack : Option UInt8) (seq : UInt8) :
  (headerBytes ack seq).length ≤ 2 := by
  cases ack with
  | none => exact Nat.le_succ 1
  | some _ => exact Nat.le_refl 2

variable {flags : UInt8} {data : List UInt8} {msg : PacketBuffer}

theorem received_data (allocSize : Nat) (hForth : Synced x y) (hBack : Synced y x)
  (hAck : sendAck = true → x.hasUnackedData = true) (hFragment : DataFragment x sendAck sent flags data) :
  (y.handleCharacteristicReceived allocSize sent.txFragment).2 =
    reassemble allocSize flags data (y.fed sendAck) := by
  have hFlag : hasFlag flags fragmentAck = (x.ackWith sendAck).isSome :=
    hFragment.ackFlag.trans ackWith_isSome.symm
  have hHeader : 1 + (headerBytes (x.ackWith sendAck) y.mRxNextSeqNum).length ≤
      (y.ackedBy sendAck).mRxFragmentSize := by
    have hEnough := hForth.enough
    have hLength := headerBytes_length_le (x.ackWith sendAck) y.mRxNextSeqNum
    rw [hForth.size] at hEnough
    change _ ≤ y.mRxFragmentSize
    omega
  have hFits := hFragment.fits
  rw [hForth.seq, hForth.size] at hFits
  have hWhole : data.take ((y.ackedBy sendAck).mRxFragmentSize -
      (1 + (headerBytes (x.ackWith sendAck) y.mRxNextSeqNum).length)) = data :=
    take_of_length_le (by
      change data.length ≤ y.mRxFragmentSize - _
      omega)
  rw [hFragment.bytes, received_eq hFlag (acknowledges_newest hBack hAck)]
  dsimp only
  rw [hForth.seq]
  refine (receiveSequence_data _ hFragment.carries hHeader).trans ?_
  rw [hWhole]
  rfl

def fragmentFlags (first sendAck last : Bool) : UInt8 :=
  let flags := (if first then startMessage else continueMessage) |||
    if sendAck then fragmentAck else 0
  if last then flags ||| endMessage else flags

theorem fragmentFlags_ack (first sendAck last : Bool) :
  hasFlag (fragmentFlags first sendAck last) fragmentAck = sendAck := by
  revert first sendAck last
  decide

theorem fragmentFlags_start (first sendAck last : Bool) :
  hasFlag (fragmentFlags first sendAck last) startMessage = first := by
  revert first sendAck last
  decide

theorem fragmentFlags_continue (first sendAck last : Bool) :
  hasFlag (fragmentFlags first sendAck last) continueMessage = !first := by
  revert first sendAck last
  decide

theorem fragmentFlags_end (first sendAck last : Bool) :
  hasFlag (fragmentFlags first sendAck last) endMessage = last := by
  revert first sendAck last
  decide

theorem fragmentFlags_carriesData (first sendAck last : Bool) :
  carriesData (fragmentFlags first sendAck last) = true := by
  revert first sendAck last
  decide

/-- A fragment of a message: the last one, or one that leaves something. -/
inductive MessageFragment (x : BtpEngine) (first sendAck : Bool) (lengthField left : List UInt8)
    (sent : BtpEngine) : Prop
  | last (fragment : DataFragment x sendAck sent (fragmentFlags first sendAck true)
        (lengthField ++ left))
      (complete : sent.mTxState = .complete) : MessageFragment x first sendAck lengthField left sent
  | more {chunk rest : List UInt8} (split : left = chunk ++ rest) (some_sent : chunk ≠ [])
      (fragment : DataFragment x sendAck sent (fragmentFlags first sendAck false)
        (lengthField ++ chunk))
      (sending : sent.Sending rest) : MessageFragment x first sendAck lengthField left sent

variable {first : Bool} {lengthField left : List UInt8}

section

variable (hEnough : 20 ≤ x.mTxFragmentSize)
include hEnough

theorem messageFragment_of_makes (hField : lengthField.length ≤ 2)
  (hMakes : Makes x.mTxFragmentSize (fragmentFlags first sendAck false)
    (x.headerRest sendAck lengthField) left sent)
  (hSession : sent.session = (x.counted sendAck).session) :
  MessageFragment x first sendAck lengthField left sent := by
  have hHeader : (x.headerRest sendAck lengthField).length ≤ 4 := by
    rw [headerRest_length]
    cases sendAck with
    | true =>
      simp only [if_true]
      omega
    | false =>
      simp only [Bool.false_eq_true, if_false]
      omega
  cases hMakes with
  | last hFits hFragment hComplete =>
    refine .last ⟨?_, ?_, fragmentFlags_ack .., fragmentFlags_carriesData .., hSession, ?_⟩
      hComplete
    · rw [hFragment, headerRest_eq]
      simp [fragmentFlags]
    · rw [headerRest_eq, length_append] at hFits
      rw [length_append]
      omega
    · intro hState
      rw [hComplete] at hState
      cases hState
  | more hLess hFragment hSending =>
    refine .more (take_append_drop _ left).symm ?_
      ⟨?_, ?_, fragmentFlags_ack .., fragmentFlags_carriesData .., hSession,
        fun _ => ⟨_, hSending⟩⟩
      hSending
    · rw [← length_pos_iff, length_take]
      omega
    · rw [hFragment, headerRest_eq]
      simp
    · rw [headerRest_eq, length_append] at hHeader ⊢
      rw [length_append, length_take]
      omega

theorem messageFragment_first (hIdle : x.mTxState = .idle) (hRoom : HasRoom msg sendAck)
  (hAck : sendAck = true → x.hasUnackedData = true) :
  ∃ sent, x.handleCharacteristicSend (some msg) sendAck = (true, sent) ∧
    MessageFragment x true sendAck (lengthOf msg) msg.data sent := by
  have hSize : maxHeaderSize ≤ x.mTxFragmentSize := Nat.le_trans (by decide) hEnough
  obtain ⟨sent, hEq, hMakes, hSession⟩ := send_first hIdle hSize hRoom hAck
  have hField : (lengthOf msg).length ≤ 2 := Nat.le_refl 2
  exact ⟨sent, hEq, messageFragment_of_makes hEnough hField hMakes hSession⟩

theorem messageFragment_next (hLeft : x.Sending left)
  (hAck : sendAck = true → x.hasUnackedData = true) :
  ∃ sent, x.handleCharacteristicSend none sendAck = (true, sent) ∧
    MessageFragment x false sendAck [] left sent := by
  have hSize : maxHeaderSize ≤ x.mTxFragmentSize := Nat.le_trans (by decide) hEnough
  obtain ⟨sent, hEq, hMakes, hSession⟩ := send_next hLeft hSize hAck
  have hField : ([] : List UInt8).length ≤ 2 := Nat.zero_le 2
  exact ⟨sent, hEq, messageFragment_of_makes hEnough hField hMakes hSession⟩

theorem dataFragment_of_send {data : Option PacketBuffer}
  (hSending : x.mTxState = .inProgress → ∃ left, x.Sending left)
  (hSent : (x.handleCharacteristicSend data sendAck).1 = true) :
  (sendAck = true → x.hasUnackedData = true) ∧
    ∃ flags bytes, DataFragment x sendAck (x.handleCharacteristicSend data sendAck).2
      flags bytes := by
  rcases send_cases x data sendAck with hRefused | ⟨msg, -, hNoRoom⟩ | ⟨hAck, hMakes⟩
  · rw [hRefused] at hSent
    cases hSent
  · rw [hNoRoom] at hSent
    cases hSent
  · refine ⟨hAck, ?_⟩
    rcases hMakes with ⟨msg, rfl, hIdle, hRoom⟩ | ⟨rfl, hState⟩
    · obtain ⟨sent, hEq, hMessage⟩ := messageFragment_first hEnough hIdle hRoom hAck
      rw [hEq]
      cases hMessage with
      | last hFragment _ => exact ⟨_, _, hFragment⟩
      | more _ _ hFragment _ => exact ⟨_, _, hFragment⟩
    · obtain ⟨left, hLeft⟩ := hSending hState
      obtain ⟨sent, hEq, hMessage⟩ := messageFragment_next hEnough hLeft hAck
      rw [hEq]
      cases hMessage with
      | last hFragment _ => exact ⟨_, _, hFragment⟩
      | more _ _ hFragment _ => exact ⟨_, _, hFragment⟩

end

inductive Progress (message : List UInt8) (l : Link) : Prop
  | underway {got left : List UInt8} (split : message = got ++ left)
      (sending : l.sender.Sending left) (receiving : l.receiver.Receiving message.length got)
      (count : l.fragments.length + left.length ≤ message.length) : Progress message l
  | done (complete : l.sender.mTxState = .complete) (received : l.receiver.HasReceived message)
      (count : l.fragments.length ≤ message.length + 1) : Progress message l

structure Linked (message : List UInt8) (size : Nat) (l : Link) : Prop where
  forth : Synced l.sender l.receiver
  back : Synced l.receiver l.sender
  fragmentSize : l.sender.mTxFragmentSize = size
  accepted : l.refused = false
  small : ∀ fragment ∈ l.fragments, fragment.length ≤ size
  progress : Progress message l

variable {l : Link} {message : List UInt8} {size allocSize : Nat}

theorem DataFragment.length_le (hFragment : DataFragment x sendAck sent flags data) :
  sent.txFragment.length ≤ x.mTxFragmentSize := by
  have hFits := hFragment.fits
  rw [hFragment.bytes]
  simp only [cons_append, length_cons, length_append]
  omega

theorem synced_data (allocSize : Nat) (hForth : Synced x y) (hBack : Synced y x)
  (hAck : sendAck = true → x.hasUnackedData = true) (hFragment : DataFragment x sendAck sent flags data) :
  Synced sent (y.handleCharacteristicReceived allocSize sent.txFragment).2.2 ∧
    Synced (y.handleCharacteristicReceived allocSize sent.txFragment).2.2 sent := by
  refine synced_transmitted hForth hBack hFragment.session hFragment.sending ?_
  rw [received_data allocSize hForth hBack hAck hFragment]
  exact reassemble_keeps allocSize flags data (y.fed sendAck)

section

variable (hForth : Synced x y) (hBack : Synced y x)
  (hAck : sendAck = true → x.hasUnackedData = true)
include hForth hBack hAck

theorem received_last {got : List UInt8}
  (hFragment : DataFragment x sendAck sent (fragmentFlags false sendAck true) left)
  (hReceiving : y.Receiving (got ++ left).length got) (hSome : left ≠ [])
  (hFits : (got ++ left).length ≤ allocSize) :
  (y.handleCharacteristicReceived allocSize sent.txFragment).2.1 = .ok () ∧
    (y.handleCharacteristicReceived allocSize sent.txFragment).2.2.HasReceived (got ++ left) := by
  have hFed : (y.fed sendAck).Receiving (got ++ left).length got :=
    ⟨hReceiving.inProgress, hReceiving.length, hReceiving.buf⟩
  have hLeft := length_pos_iff.mpr hSome
  rw [length_append] at hFits
  obtain ⟨added, hAdded, hReassemble⟩ := reassemble_next hFed (fragmentFlags_start false sendAck true)
    (fragmentFlags_continue false sendAck true) hFits (by omega)
  rw [received_data allocSize hForth hBack hAck hFragment, hReassemble]
  exact finishFragment_last hAdded (fragmentFlags_end false sendAck true)

theorem received_more {got chunk : List UInt8} {n : Nat}
  (hFragment : DataFragment x sendAck sent (fragmentFlags false sendAck false) chunk)
  (hReceiving : y.Receiving n got) (hSome : chunk ≠ [])
  (hFits : got.length + chunk.length ≤ allocSize) :
  (y.handleCharacteristicReceived allocSize sent.txFragment).2.1 = .ok () ∧
    (y.handleCharacteristicReceived allocSize sent.txFragment).2.2.Receiving n (got ++ chunk) := by
  have hFed : (y.fed sendAck).Receiving n got :=
    ⟨hReceiving.inProgress, hReceiving.length, hReceiving.buf⟩
  have hChunk := length_pos_iff.mpr hSome
  obtain ⟨added, hAdded, hReassemble⟩ := reassemble_next hFed
    (fragmentFlags_start false sendAck false) (fragmentFlags_continue false sendAck false) hFits
    (by omega)
  rw [received_data allocSize hForth hBack hAck hFragment, hReassemble,
    finishFragment_more hAdded (fragmentFlags_end false sendAck false)]
  exact ⟨rfl, hAdded⟩

theorem received_first {chunk : List UInt8} {last : Bool}
  (hFragment : DataFragment x sendAck sent (fragmentFlags true sendAck last) (lengthOf msg ++ chunk))
  (hIdle : y.mRxState = .idle) (hShort : msg.len ≤ 65535) (hSome : 0 < allocSize)
  (hFits : chunk.length ≤ allocSize) :
  ∃ begun : BtpEngine, begun.Receiving msg.data.length chunk ∧
    (y.handleCharacteristicReceived allocSize sent.txFragment).2 =
      finishFragment (fragmentFlags true sendAck last) begun := by
  have hLength : (UInt8.ofNat (msg.len % 256)).toNat + 256 * (UInt8.ofNat (msg.len / 256)).toNat =
      msg.data.length := by
    rw [PacketBuffer.length_data]
    simp only [UInt8.toNat_ofNat']
    omega
  have hFed : (y.fed sendAck).mRxState = .idle := hIdle
  obtain ⟨begun, hBegun, hReassemble⟩ := reassemble_first hFed
    (fragmentFlags_start true sendAck last) hFits hSome hLength
  exact ⟨begun, hBegun, (received_data allocSize hForth hBack hAck hFragment).trans hReassemble⟩

end

theorem Progress.congr {l' : Link} (hProgress : Progress message l)
  (hTx : l'.sender.txMessage = l.sender.txMessage)
  (hRx : l'.receiver.rxMessage = l.receiver.rxMessage) (hFragments : l'.fragments = l.fragments) :
  Progress message l' := by
  injection hRx with hState hRest
  injection hRest with hLength hBuf
  cases hProgress with
  | underway hSplit hSending hReceiving hCount =>
    exact .underway hSplit (hSending.congr hTx)
      ⟨hState.trans hReceiving.inProgress, hLength.trans hReceiving.length,
        hBuf.trans hReceiving.buf⟩
      (hFragments ▸ hCount)
  | done hComplete hReceived hCount =>
    exact .done ((congrArg Prod.fst hTx).trans hComplete)
      ⟨hState.trans hReceived.complete, hBuf.trans hReceived.buf⟩ (hFragments ▸ hCount)

variable {data : Option PacketBuffer}

theorem transmit_sent (allocSize : Nat)
  (hSent : l.sender.handleCharacteristicSend data sendAck = (true, sent)) :
  l.transmit allocSize data sendAck =
    { l.feed allocSize sent sent.txFragment with
      fragments := l.fragments ++ [sent.txFragment] } := by
  simp [Link.transmit, hSent]

theorem transmit_refused (allocSize : Nat)
  (hRefused : l.sender.handleCharacteristicSend data sendAck = (false, l.sender)) :
  l.transmit allocSize data sendAck = l := by
  simp [Link.transmit, hRefused]

theorem linked_transmitted {bytes : List UInt8} (hForth : Synced l.sender l.receiver)
  (hBack : Synced l.receiver l.sender) (hSize : l.sender.mTxFragmentSize = size)
  (hAccepted : l.refused = false) (hSmall : ∀ fragment ∈ l.fragments, fragment.length ≤ size)
  (hAck : sendAck = true → l.sender.hasUnackedData = true)
  (hSent : l.sender.handleCharacteristicSend data sendAck = (true, sent))
  (hFragment : DataFragment l.sender sendAck sent flags bytes)
  (hOk : (l.receiver.handleCharacteristicReceived allocSize sent.txFragment).2.1 = .ok ())
  (hProgress : Progress message (l.transmit allocSize data sendAck)) :
  Linked message size (l.transmit allocSize data sendAck) := by
  have hSynced := synced_data allocSize hForth hBack hAck hFragment
  rw [transmit_sent allocSize hSent] at hProgress ⊢
  exact {
    forth := hSynced.1
    back := hSynced.2
    fragmentSize := by
      have hSame : sent.mTxFragmentSize = l.sender.mTxFragmentSize :=
        (congrArg mTxFragmentSize hFragment.session).trans counted_mTxFragmentSize
      exact hSame.trans hSize
    accepted := by simp [Link.feed, hAccepted, hOk, Except.isOk, Except.toBool]
    small := by
      intro fragment hMem
      rcases mem_append.mp hMem with hOld | hNew
      · exact hSmall fragment hOld
      · rw [mem_singleton.mp hNew, ← hSize]
        exact hFragment.length_le
    progress := hProgress }

theorem linked_next (hLinked : Linked message size l) (hFits : message.length ≤ allocSize)
  (sendAck : Bool) : Linked message size (l.step allocSize (.next sendAck)) := by
  change Linked message size (l.transmit allocSize none sendAck)
  rcases send_cases l.sender none sendAck with hRefused | ⟨msg, hIdle, -⟩ | ⟨hAck, hMakes⟩
  · rw [transmit_refused allocSize hRefused]
    exact hLinked
  · cases hLinked.progress with
    | underway _ hSending _ _ =>
      rw [hSending.inProgress] at hIdle
      cases hIdle
    | done hComplete _ _ =>
      rw [hComplete] at hIdle
      cases hIdle
  · rcases hMakes with ⟨msg, hNone, -⟩ | ⟨-, hState⟩
    · cases hNone
    · cases hLinked.progress with
      | done hComplete _ _ =>
        rw [hComplete] at hState
        cases hState
      | @underway got left hSplit hSending hReceiving hCount =>
        obtain ⟨sent, hSent, hMessage⟩ := messageFragment_next hLinked.forth.enough hSending hAck
        subst hSplit
        cases hMessage with
        | last hFragment hComplete =>
          obtain ⟨hOk, hReceived⟩ := received_last hLinked.forth hLinked.back hAck hFragment
            hReceiving hSending.some_left hFits
          refine linked_transmitted hLinked.forth hLinked.back hLinked.fragmentSize
            hLinked.accepted hLinked.small hAck hSent hFragment hOk ?_
          rw [transmit_sent allocSize hSent]
          refine .done hComplete hReceived ?_
          simp only [length_append, length_singleton] at hCount ⊢
          omega
        | @more chunk rest hLeft hSome hFragment hRest =>
          subst hLeft
          simp only [length_append] at hFits
          have hChunkFragment : DataFragment l.sender sendAck sent
              (fragmentFlags false sendAck false) chunk := hFragment
          obtain ⟨hOk, hGot⟩ := received_more hLinked.forth hLinked.back hAck hChunkFragment
            hReceiving hSome (show got.length + chunk.length ≤ allocSize by omega)
          refine linked_transmitted hLinked.forth hLinked.back hLinked.fragmentSize
            hLinked.accepted hLinked.small hAck hSent hFragment hOk ?_
          rw [transmit_sent allocSize hSent]
          refine .underway (append_assoc got chunk rest).symm hRest hGot ?_
          have hChunk := length_pos_iff.mpr hSome
          simp only [length_append, length_singleton] at hCount ⊢
          omega

theorem linked_first {a b : BtpEngine} (hForth : Synced a b) (hBack : Synced b a)
  (hTx : a.mTxState = .idle) (hRx : b.mRxState = .idle) (hRoom : HasRoom msg sendAck)
  (hShort : msg.len ≤ 65535) (hFits : msg.len ≤ allocSize) (hSome : 0 < allocSize)
  (hAck : sendAck = true → a.hasUnackedData = true) :
  Linked msg.data a.mTxFragmentSize
    (Link.transmit allocSize ⟨a, b, [], false⟩ (some msg) sendAck) := by
  let l : Link := ⟨a, b, [], false⟩
  change Linked msg.data a.mTxFragmentSize (l.transmit allocSize (some msg) sendAck)
  obtain ⟨sent, hSent, hMessage⟩ := messageFragment_first hForth.enough hTx hRoom hAck
  have hNone : ∀ fragment ∈ l.fragments, fragment.length ≤ a.mTxFragmentSize := by
    intro fragment hMem
    cases hMem
  have hData : msg.data.length ≤ allocSize := by rwa [PacketBuffer.length_data]
  cases hMessage with
  | last hFragment hComplete =>
    obtain ⟨begun, hBegun, hReceived⟩ := received_first hForth hBack hAck hFragment hRx hShort
      hSome hData
    obtain ⟨hOk, hWhole⟩ := finishFragment_last hBegun (fragmentFlags_end true sendAck true)
    rw [← hReceived] at hOk hWhole
    refine linked_transmitted (l := l) hForth hBack rfl rfl hNone hAck hSent hFragment hOk ?_
    rw [transmit_sent allocSize hSent]
    exact .done hComplete hWhole (by simp [l])
  | @more chunk rest hSplit hChunk hFragment hRest =>
    have hLength := congrArg length hSplit
    rw [length_append] at hLength
    obtain ⟨begun, hBegun, hReceived⟩ := received_first hForth hBack hAck hFragment hRx hShort
      hSome (by omega)
    rw [finishFragment_more hBegun (fragmentFlags_end true sendAck false)] at hReceived
    have hOk : (b.handleCharacteristicReceived allocSize sent.txFragment).2.1 = .ok () :=
      congrArg Prod.fst hReceived
    have hGot : (b.handleCharacteristicReceived allocSize sent.txFragment).2.2.Receiving
        msg.data.length chunk := by
      rw [hReceived]
      exact hBegun
    refine linked_transmitted (l := l) hForth hBack rfl rfl hNone hAck hSent hFragment hOk ?_
    rw [transmit_sent allocSize hSent]
    refine .underway hSplit hRest hGot ?_
    have hSomeSent := length_pos_iff.mpr hChunk
    simp only [l, length_append, length_singleton, length_nil]
    omega

theorem received_standAloneAck (allocSize : Nat) (hForth : Synced x y) (hBack : Synced y x)
  (hAck : x.hasUnackedData = true) :
  (y.handleCharacteristicReceived allocSize x.encodeStandAloneAck.1).2 = (.ok (), y.fed true) := by
  have hBytes : x.encodeStandAloneAck.1 =
      fragmentAck :: headerBytes (x.ackWith true) x.mTxNextSeqNum ++ [] := rfl
  have hFlag : hasFlag fragmentAck fragmentAck = (x.ackWith true).isSome := by
    rw [ackWith_isSome]
    decide
  have hNoData : carriesData fragmentAck = false := by decide
  rw [hBytes, received_eq hFlag (acknowledges_newest hBack fun _ => hAck)]
  dsimp only
  rw [hForth.seq]
  exact receiveSequence_standAlone (e := y.ackedBy true) _ hNoData

theorem synced_standAloneAck (hForth : Synced x y) (hBack : Synced y x) :
  Synced x.encodeStandAloneAck.2 (y.fed true) ∧ Synced (y.fed true) x.encodeStandAloneAck.2 := by
  have hSent : x.encodeStandAloneAck.2.session = (x.counted true).session := rfl
  refine synced_transmitted hForth hBack hSent ?_ rfl
  intro hState
  obtain ⟨left, hLeft⟩ := hForth.sending hState
  exact ⟨left, hLeft.congr rfl⟩

theorem synced_session {x' : BtpEngine} (hForth : Synced x y) (hBack : Synced y x)
  (hSame : x'.session = x.session) (hSending : x'.mTxState ≠ .inProgress) :
  Synced x' y ∧ Synced y x' := by
  have hUnacked : x'.hasUnackedData = x.hasUnackedData :=
    hasUnackedData_eq (congrArg mRxOldestUnackedSeqNum hSame :) (congrArg mRxNextSeqNum hSame :)
  have hSize : x'.mTxFragmentSize = x.mTxFragmentSize := (congrArg mTxFragmentSize hSame :)
  refine ⟨?_, ?_⟩
  · exact {
      seq := (congrArg mTxNextSeqNum hSame :).trans hForth.seq
      size := hSize.trans hForth.size
      enough := hSize ▸ hForth.enough
      newest := by
        intro hData
        obtain ⟨hExpecting, hNewest⟩ := hForth.newest hData
        exact ⟨(congrArg mExpectingAck hSame :).trans hExpecting,
          hNewest.trans (congrArg mTxNewestUnackedSeqNum hSame :).symm⟩
      sending := fun hState => absurd hState hSending }
  · exact {
      seq := hBack.seq.trans (congrArg mRxNextSeqNum hSame :).symm
      size := hBack.size.trans (congrArg mRxFragmentSize hSame :).symm
      enough := hBack.enough
      newest := by
        intro hData
        obtain ⟨hExpecting, hNewest⟩ := hBack.newest (hUnacked ▸ hData)
        exact ⟨hExpecting, (congrArg mRxNewestUnackedSeqNum hSame :).trans hNewest⟩
      sending := hBack.sending }

section

variable (hLinked : Linked message size l)
include hLinked

theorem linked_congr {l' : Link}
  (hSynced : Synced l'.sender l'.receiver ∧ Synced l'.receiver l'.sender)
  (hTx : l'.sender.txMessage = l.sender.txMessage)
  (hRx : l'.receiver.rxMessage = l.receiver.rxMessage) (hFragments : l'.fragments = l.fragments)
  (hRefused : l'.refused = l.refused) : Linked message size l' where
  forth := hSynced.1
  back := hSynced.2
  fragmentSize := by
    injection hTx with _ hRest
    injection hRest with _ hRest
    injection hRest with _ hSize
    exact hSize.trans hLinked.fragmentSize
  accepted := hRefused.trans hLinked.accepted
  small := hFragments ▸ hLinked.small
  progress := hLinked.progress.congr hTx hRx hFragments

theorem linked_standAloneAck : Linked message size (l.step allocSize .standAloneAck) := by
  rw [Link.step]
  split
  · rename_i hAck
    have hReceived := received_standAloneAck allocSize hLinked.forth hLinked.back hAck
    rw [Link.feed, hReceived]
    refine linked_congr hLinked (synced_standAloneAck hLinked.forth hLinked.back) rfl rfl rfl ?_
    simp [Except.isOk, Except.toBool]
  · exact hLinked

theorem linked_reply (backSize : Nat) (data : Option PacketBuffer) (sendAck : Bool) :
  Linked message size (l.step allocSize (.reply backSize data sendAck)) := by
  rw [Link.step]
  split
  · rename_i hSent
    obtain ⟨hAck, flags, bytes, hFragment⟩ :=
      dataFragment_of_send hLinked.back.enough hLinked.back.sending hSent
    have hSynced := synced_data backSize hLinked.back hLinked.forth hAck hFragment
    refine linked_congr hLinked hSynced.symm ?_ ?_ rfl rfl
    · have hKept := reassemble_keeps backSize flags bytes (l.sender.fed sendAck)
      rw [← received_data backSize hLinked.back hLinked.forth hAck hFragment] at hKept
      exact (congrArg txMessage hKept :)
    · have hSession : (l.receiver.handleCharacteristicSend data sendAck).2.rxMessage =
          (l.receiver.counted sendAck).rxMessage := (congrArg rxMessage hFragment.session :)
      refine hSession.trans ?_
      cases sendAck with
      | true => rfl
      | false => rfl
  · rename_i hSent
    rcases send_cases l.receiver data sendAck with hRefused | ⟨msg, hIdle, hNoRoom⟩ | ⟨hAck, hMakes⟩
    · rw [hRefused]
      exact hLinked
    · have hSame : (l.receiver.handleCharacteristicSend data sendAck).2.session =
          l.receiver.session := by
        rw [hNoRoom]
        rfl
      refine linked_congr hLinked (synced_session hLinked.back hLinked.forth hSame ?_).symm rfl ?_
        rfl rfl
      · rw [hNoRoom]
        intro hState
        cases hState
      · exact (congrArg rxMessage hSame :)
    · rcases hMakes with ⟨msg, rfl, hIdle, hRoom⟩ | ⟨rfl, hState⟩
      · obtain ⟨sent, hEq, -⟩ := messageFragment_first hLinked.back.enough hIdle hRoom hAck
        rw [hEq] at hSent
        exact absurd rfl hSent
      · obtain ⟨left, hLeft⟩ := hLinked.back.sending hState
        obtain ⟨sent, hEq, -⟩ := messageFragment_next hLinked.back.enough hLeft hAck
        rw [hEq] at hSent
        exact absurd rfl hSent

theorem linked_replyStandAloneAck (backSize : Nat) :
  Linked message size (l.step allocSize (.replyStandAloneAck backSize)) := by
  rw [Link.step]
  split
  · rename_i hAck
    have hReceived := received_standAloneAck backSize hLinked.back hLinked.forth hAck
    rw [Link.feedBack, hReceived]
    exact linked_congr hLinked (synced_standAloneAck hLinked.back hLinked.forth).symm rfl rfl rfl rfl
  · exact hLinked

theorem linked_replySent : Linked message size (l.step allocSize .replySent) := by
  rw [Link.step]
  split
  · rename_i hComplete
    have hSame : l.receiver.takeTxPacket.session = l.receiver.session := rfl
    refine linked_congr hLinked (synced_session hLinked.back hLinked.forth hSame ?_).symm rfl rfl
      rfl rfl
    simp [takeTxPacket, hComplete]
  · exact hLinked

theorem linked_replyTaken : Linked message size (l.step allocSize .replyTaken) := by
  refine linked_congr hLinked ⟨?_, ?_⟩ rfl rfl rfl rfl
  · obtain ⟨hSeq, hSize, hEnough, hNewest, hSending⟩ := hLinked.forth
    refine ⟨hSeq, hSize, hEnough, hNewest, ?_⟩
    intro hState
    obtain ⟨left, hLeft⟩ := hSending hState
    exact ⟨left, hLeft.congr rfl⟩
  · obtain ⟨hSeq, hSize, hEnough, hNewest, hSending⟩ := hLinked.back
    exact ⟨hSeq, hSize, hEnough, hNewest, hSending⟩

theorem linked_step (hFits : message.length ≤ allocSize) (event : LinkEvent) :
  Linked message size (l.step allocSize event) := by
  cases event with
  | next sendAck => exact linked_next hLinked hFits sendAck
  | standAloneAck => exact linked_standAloneAck hLinked
  | reply backSize data sendAck => exact linked_reply hLinked backSize data sendAck
  | replyStandAloneAck backSize => exact linked_replyStandAloneAck hLinked backSize
  | replySent => exact linked_replySent hLinked
  | replyTaken => exact linked_replyTaken hLinked

theorem linked_run (hFits : message.length ≤ allocSize) (events : List LinkEvent) :
  Linked message size (events.foldl (Link.step allocSize) l) := by
  induction events generalizing l with
  | nil => exact hLinked
  | cons event events ih => exact ih (linked_step hLinked hFits event)

end

/-- A message that fits into one packet buffer is cut into fragments of at most the fragment size,
and put together by the peer: from any state in which the engines are in step, and whatever
acknowledgements and replies come between its fragments, no fragment is refused, the peer has the
whole message exactly when the last fragment has been sent, and it is the message. As long as the
message is not complete a further fragment can be made, and there are not more of them than the
message has bytes, and one. -/
theorem message_reassembled {a b : BtpEngine} {msg : PacketBuffer} {sendAck : Bool}
    {allocSize : Nat} (hForth : Synced a b) (hBack : Synced b a) (hTx : a.mTxState = .idle)
    (hRx : b.mRxState = .idle) (hRoom : HasRoom msg sendAck) (hShort : msg.len ≤ 65535)
    (hFits : msg.len ≤ allocSize) (hSome : 0 < allocSize)
    (hAck : sendAck = true → a.hasUnackedData = true) (events : List LinkEvent) :
    let l := Link.run allocSize a b msg sendAck events
    l.refused = false ∧ (∀ fragment ∈ l.fragments, fragment.length ≤ a.mTxFragmentSize) ∧
      (l.receiver.mRxState = .complete ↔ l.sender.mTxState = .complete) ∧
      (l.sender.mTxState = .complete → l.receiver.takeRxPacket.1 = [msg.data]) ∧
      (l.sender.mTxState ≠ .complete →
        (l.step allocSize (.next false)).fragments.length = l.fragments.length + 1) ∧
      l.fragments.length ≤ msg.len + 1 := by
  intro l
  have hLinked : Linked msg.data a.mTxFragmentSize l :=
    linked_run (linked_first hForth hBack hTx hRx hRoom hShort hFits hSome hAck)
      (by rwa [PacketBuffer.length_data]) events
  refine ⟨hLinked.accepted, hLinked.small, ?_⟩
  cases hLinked.progress with
  | underway hSplit hSending hReceiving hCount =>
    rw [PacketBuffer.length_data] at hCount
    have hTxState : l.sender.mTxState ≠ .complete := by
      rw [hSending.inProgress]
      decide
    have hRxState : l.receiver.mRxState ≠ .complete := by
      rw [hReceiving.inProgress]
      decide
    have hNext : l.sender.mTxState ≠ .complete →
        (l.step allocSize (.next false)).fragments.length = l.fragments.length + 1 := by
      intro _
      have hNoAck : false = true → l.sender.hasUnackedData = true := fun h => absurd h (by decide)
      obtain ⟨sent, hSent, -⟩ := messageFragment_next hLinked.forth.enough hSending hNoAck
      change (l.transmit allocSize none false).fragments.length = _
      rw [transmit_sent allocSize hSent]
      simp
    exact ⟨⟨fun h => absurd h hRxState, fun h => absurd h hTxState⟩,
      fun h => absurd h hTxState, hNext, by omega⟩
  | done hComplete hReceived hCount =>
    rw [PacketBuffer.length_data] at hCount
    exact ⟨⟨fun _ => hComplete, fun _ => hReceived.complete⟩, fun _ => hReceived.buf,
      fun h => absurd hComplete h, hCount⟩

/-- A message of forty bytes, with room for a header before it. -/
def fortyBytes : PacketBuffer where
  memory := List.replicate 45 7
  payload := 5
  len := 40
  fits := by decide

/-- The central sends forty bytes to the peripheral in three fragments, right after the handshake. -/
theorem fortyBytes_reassembled :
    Synced (BtpEngine.init false) (BtpEngine.init true) ∧
      Synced (BtpEngine.init true) (BtpEngine.init false) ∧
      (Link.run 64 (BtpEngine.init false) (BtpEngine.init true) fortyBytes true
        [.replyStandAloneAck 64, .next true, .next false]).receiver.takeRxPacket.1 =
          [List.replicate 40 7] := by
  have hForth : Synced (BtpEngine.init false) (BtpEngine.init true) :=
    ⟨rfl, rfl, by decide, fun h => absurd h (by decide), fun h => absurd h (by decide)⟩
  have hBack : Synced (BtpEngine.init true) (BtpEngine.init false) :=
    ⟨rfl, rfl, by decide, fun _ => ⟨rfl, rfl⟩, fun h => absurd h (by decide)⟩
  exact ⟨hForth, hBack, (message_reassembled hForth hBack rfl rfl (.inl (by decide)) (by decide)
    (by decide) (by decide) (fun _ => by decide) _).2.2.2.1 (by decide +kernel)⟩

end Chip.Ble
