import Chip.Ble.AckDiscipline
import Chip.Ble.Reassembly

/-! Two connected end points. The acknowledgements of one reach the other in the order in which they
were sent, and each of them is one of a fragment that is still outstanding there. -/
namespace Chip.Ble

open List BtpEngine BtpError EndPointCore

variable {role role' : BleRole} {window : UInt8} {wire wire' before after : List Wire}
  {entry : Wire} {settled n : Nat}

def isSent : Wire → Bool
  | .sent .. => true
  | .received _ => false

/-- How many fragments have been sent, with the handshake response of the peripheral. -/
def sentCount (role : BleRole) (wire : List Wire) : Nat :=
  (if role = .peripheral then 1 else 0) + wire.countP isSent

/-- How many fragments have been received, with the handshake response for the central. -/
def receivedCount (role : BleRole) (wire : List Wire) : Nat := (receivedOn role wire).length

/-- How many of the sent fragments are no longer outstanding. -/
def settledCount (role : BleRole) (wire : List Wire) : Nat :=
  sentCount role wire - (outstandingOn role wire).length

theorem sentCount_append (role : BleRole) (wire more : List Wire) :
  sentCount role (wire ++ more) = sentCount role wire + more.countP isSent := by
  rw [sentCount, sentCount, countP_append, Nat.add_assoc]

theorem sentCount_sent (role : BleRole) (wire : List Wire) (seq : UInt8) (ack : Option UInt8)
  (fragment : List UInt8) :
  sentCount role (wire ++ [.sent seq ack fragment]) = sentCount role wire + 1 :=
  sentCount_append ..

theorem sentCount_received (role : BleRole) (wire : List Wire) (fragment : List UInt8) :
  sentCount role (wire ++ [.received fragment]) = sentCount role wire :=
  sentCount_append ..

theorem receivedCount_append_le (role : BleRole) (wire more : List Wire) :
  receivedCount role wire ≤ receivedCount role (wire ++ more) := by
  simp only [receivedCount, receivedOn, filterMap_append, length_append]
  omega

theorem receivedCount_sent (role : BleRole) (wire : List Wire) (seq : UInt8) (ack : Option UInt8)
  (fragment : List UInt8) :
  receivedCount role (wire ++ [.sent seq ack fragment]) = receivedCount role wire := by
  rw [receivedCount, receivedOn_concat]
  simp [receivedSeq, receivedCount]

theorem acknowledge_length_le (outstanding : List UInt8) (ackNum : UInt8) :
  (acknowledge outstanding ackNum).length ≤ outstanding.length := by
  unfold acknowledge
  split
  · have hTail : (outstanding.dropWhile (· != ackNum)).tail.length ≤
        (outstanding.dropWhile (· != ackNum)).length := by
      rw [length_tail]
      exact Nat.sub_le ..
    exact Nat.le_trans hTail (dropWhile_sublist _).length_le
  · exact Nat.le_refl _

theorem outstandingOn_le (role : BleRole) (wire : List Wire) :
  (outstandingOn role wire).length ≤ sentCount role wire := by
  induction wire using reverseRecOn with
  | nil =>
    cases role with
    | central => exact Nat.le_refl 0
    | peripheral => exact Nat.le_refl 1
  | append_singleton wire entry ih =>
    rw [outstandingOn_concat]
    cases entry with
    | sent seq ack fragment =>
      rw [sentCount_sent, noteOutstanding, length_append]
      exact Nat.add_le_add_right ih 1
    | received fragment =>
      rw [sentCount_received]
      cases hAck : ackOf fragment with
      | none =>
        rw [noteOutstanding, hAck]
        exact ih
      | some ackNum =>
        rw [noteOutstanding, hAck]
        exact Nat.le_trans (acknowledge_length_le _ _) ih

theorem settledCount_sent (role : BleRole) (wire : List Wire) (seq : UInt8) (ack : Option UInt8)
  (fragment : List UInt8) :
  settledCount role (wire ++ [.sent seq ack fragment]) = settledCount role wire := by
  rw [settledCount, settledCount, sentCount_sent, outstandingOn_concat, noteOutstanding,
    length_append]
  exact Nat.add_sub_add_right ..

theorem split_cases {before' after' : List Wire} {entry' : Wire}
  (hSplit : wire = before ++ entry :: after) (hSplit' : wire = before' ++ entry' :: after') :
  (before' = before ∧ entry' = entry) ∨ (∃ middle, before' = before ++ entry :: middle) ∨
    ∃ middle, before = before' ++ entry' :: middle := by
  rw [hSplit] at hSplit'
  rcases append_eq_append_iff.mp hSplit' with ⟨middle, hBefore, hRest⟩ | ⟨middle, hBefore, hRest⟩
  · cases middle with
    | nil =>
      injection hRest with hEntry
      exact .inl ⟨by simpa using hBefore, hEntry.symm⟩
    | cons head middle =>
      injection hRest with hEntry
      exact .inr (.inl ⟨middle, hEntry ▸ hBefore⟩)
  · cases middle with
    | nil =>
      injection hRest with hEntry
      exact .inl ⟨by simpa using hBefore.symm, hEntry⟩
    | cons head middle =>
      injection hRest with hEntry
      exact .inr (.inr ⟨middle, hEntry ▸ hBefore⟩)

theorem sentCount_lt (role : BleRole) (before middle : List Wire) (seq : UInt8) (ack : Option UInt8)
  (fragment : List UInt8) :
  sentCount role before < sentCount role (before ++ .sent seq ack fragment :: middle) := by
  rw [sentCount_append, countP_cons_of_pos rfl]
  omega

/-- The acknowledgements among the first `n` fragments were of at most the settled ones; every
further one is of more. -/
structure Delivered (role : BleRole) (wire : List Wire) (settled n : Nat) : Prop where
  earlier : ∀ before seq ack fragment after, wire = before ++ .sent seq (some ack) fragment :: after →
    sentCount role before < n → receivedCount role before ≤ settled
  later : ∀ before seq ack fragment after, wire = before ++ .sent seq (some ack) fragment :: after →
    n ≤ sentCount role before → settled < receivedCount role before
  source : settled = 0 ∨ ∃ before seq ack fragment after,
    wire = before ++ .sent seq (some ack) fragment :: after ∧ receivedCount role before = settled

theorem delivered_grow (hDelivered : Delivered role wire settled n) (hSent : n ≤ sentCount role wire)
  (hSound : AcksSound role (wire ++ [entry])) : Delivered role (wire ++ [entry]) settled n where
  earlier := by
    intro before seq ack fragment after hSplit hLess
    rcases append_singleton_cases hSplit with ⟨rfl, -, -⟩ | ⟨rest, -, hWire⟩
    · omega
    · exact hDelivered.earlier before seq ack fragment rest hWire hLess
  later := by
    intro before seq ack fragment after hSplit hMore
    obtain ⟨hLast, hGreater⟩ := hSound before seq ack fragment after hSplit
    rcases append_singleton_cases hSplit with ⟨rfl, -, -⟩ | ⟨rest, -, hWire⟩
    · -- The new acknowledgement is of more than the one that has settled the fragments.
      rcases hDelivered.source with hZero | ⟨before', seq', ack', fragment', after', hSplit', hEq⟩
      · rw [hZero]
        refine length_pos_iff.mpr fun hNil => ?_
        rw [hNil] at hLast
        cases hLast
      · rw [← hEq]
        exact hGreater before' seq' ack' fragment' after' hSplit'
    · exact hDelivered.later before seq ack fragment rest hWire hMore
  source := by
    rcases hDelivered.source with hZero | ⟨before, seq, ack, fragment, after, hSplit, hEq⟩
    · exact .inl hZero
    · exact .inr ⟨before, seq, ack, fragment, after ++ [entry], by rw [hSplit]; simp, hEq⟩

variable {fragment : List UInt8} {seq ack : UInt8}

theorem delivered_plain {seq : UInt8} (hDelivered : Delivered role wire settled n)
  (hSplit : wire = before ++ .sent seq none fragment :: after) (hNext : sentCount role before = n) :
  Delivered role wire settled (n + 1) where
  earlier := by
    intro before' seq' ack' fragment' after' hSplit' hLess
    rcases split_cases hSplit hSplit' with ⟨-, hEntry⟩ | ⟨middle, rfl⟩ | ⟨middle, rfl⟩
    · injection hEntry with _ hAck _
      cases hAck
    · have hLt := sentCount_lt role before middle seq none fragment
      omega
    · have hLt := sentCount_lt role before' middle seq' (some ack') fragment'
      exact hDelivered.earlier before' seq' ack' fragment' after' hSplit' (by omega)
  later := by
    intro before' seq' ack' fragment' after' hSplit' hMore
    exact hDelivered.later before' seq' ack' fragment' after' hSplit' (by omega)
  source := hDelivered.source

theorem delivered_ack (hSound : AcksSound role wire)
  (hSplit : wire = before ++ .sent seq (some ack) fragment :: after) (hNext : sentCount role before = n) :
  Delivered role wire (receivedCount role before) (n + 1) where
  earlier := by
    intro before' seq' ack' fragment' after' hSplit' hLess
    rcases split_cases hSplit hSplit' with ⟨rfl, -⟩ | ⟨middle, rfl⟩ | ⟨middle, hBefore⟩
    · exact Nat.le_refl _
    · have hLt := sentCount_lt role before middle seq (some ack) fragment
      omega
    · exact Nat.le_of_lt ((hSound before seq ack fragment after hSplit).2
        before' seq' ack' fragment' middle hBefore)
  later := by
    intro before' seq' ack' fragment' after' hSplit' hMore
    rcases split_cases hSplit hSplit' with ⟨rfl, -⟩ | ⟨middle, hBefore⟩ | ⟨middle, rfl⟩
    · omega
    · exact (hSound before' seq' ack' fragment' after' hSplit').2
        before seq ack fragment middle hBefore
    · have hLt := sentCount_lt role before' middle seq' (some ack') fragment'
      omega
  source := .inr ⟨before, seq, ack, fragment, after, hSplit, rfl⟩

namespace BtpEngine

variable {e acked : BtpEngine} {ackNum : UInt8} {allocSize : Nat} {fragment : List UInt8}

theorem handleAckReceived_txMessage (hAcked : e.handleAckReceived ackNum = .ok acked) :
  acked.txMessage = e.txMessage ∧ acked.mTxNextSeqNum = e.mTxNextSeqNum := by
  unfold handleAckReceived at hAcked
  split at hAcked
  · cases hAcked
  · split at hAcked
    · cases hAcked
      exact ⟨rfl, rfl⟩
    · cases hAcked
      exact ⟨rfl, rfl⟩

theorem acknowledged_txMessage (e : BtpEngine) (ack : Option UInt8) :
  (e.acknowledged ack).txMessage = e.txMessage ∧
    (e.acknowledged ack).mTxNextSeqNum = e.mTxNextSeqNum := by
  cases ack with
  | none => exact ⟨rfl, rfl⟩
  | some ackNum =>
    change ((e.handleAckReceived ackNum).toOption.getD e).txMessage = _ ∧
      ((e.handleAckReceived ackNum).toOption.getD e).mTxNextSeqNum = _
    cases hHandle : e.handleAckReceived ackNum with
    | error err => exact ⟨rfl, rfl⟩
    | ok acked => exact handleAckReceived_txMessage hHandle

theorem received_txMessage (allocSize : Nat) (fragment : List UInt8) :
  (e.handleCharacteristicReceived allocSize fragment).2.2.txMessage = e.txMessage ∧
    (e.handleCharacteristicReceived allocSize fragment).2.2.mTxNextSeqNum = e.mTxNextSeqNum := by
  have hSide := txSide_received (e := e) allocSize fragment
  obtain ⟨hMessage, hNext⟩ := acknowledged_txMessage e (ackOf fragment)
  exact ⟨(congrArg txMessage hSide :).trans hMessage, (congrArg mTxNextSeqNum hSide :).trans hNext⟩

theorem exitWith_avoids {err : BtpError} (data : Option (List UInt8)) (hOther : err ≠ .invalidAck) :
  Proc.Avoids .invalidAck (exitWith err data) :=
  .bind (.modify _) fun _ => .fail hOther

theorem endOfMessage_avoids : Proc.Avoids .invalidAck endOfMessage := by
  refine .bind (.modify _) fun _ => .read_bind fun e => ?_
  split
  · exact exitWith_avoids _ noConfusion
  · exact .modify _

theorem finishFragment_avoids (flags : UInt8) : Proc.Avoids .invalidAck (finishFragment flags) := by
  refine .read_bind fun e => ?_
  split
  · exact exitWith_avoids _ noConfusion
  · split
    · exact endOfMessage_avoids
    · exact .pure ()

theorem reassemble_avoids (allocSize : Nat) (flags : UInt8) (data : List UInt8) :
  Proc.Avoids .invalidAck (reassemble allocSize flags data) := by
  refine .read_bind fun e => ?_
  split
  · split
    · exact exitWith_avoids _ noConfusion
    · split
      · exact .bind (.modify _) fun _ => finishFragment_avoids flags
      · exact exitWith_avoids _ noConfusion
  · split
    · exact exitWith_avoids _ noConfusion
    · split
      · exact exitWith_avoids _ noConfusion
      · exact .bind (.modify _) fun _ => finishFragment_avoids flags
  · exact exitWith_avoids _ noConfusion

theorem receiveSequence_avoids (allocSize : Nat) (fragment : List UInt8) (flags : UInt8)
  (headerSize : Nat) (rest : List UInt8) :
  Proc.Avoids .invalidAck (receiveSequence allocSize fragment flags headerSize rest) := by
  cases rest with
  | nil => exact exitWith_avoids _ noConfusion
  | cons seq data =>
    refine .bind (.modify _) fun _ => .read_bind fun e => ?_
    split
    · exact exitWith_avoids _ noConfusion
    · refine .bind (.modify _) fun _ => ?_
      split
      · exact .pure ()
      · split
        · exact exitWith_avoids _ noConfusion
        · exact reassemble_avoids _ _ _

theorem received_noInvalidAck
  (hValid : ∀ ackNum, ackOf fragment = some ackNum → ∃ acked, e.handleAckReceived ackNum = .ok acked) :
  (e.handleCharacteristicReceived allocSize fragment).2.1 ≠ .error .invalidAck := by
  cases fragment with
  | nil => exact exitWith_avoids _ noConfusion _
  | cons flags rest =>
    rw [handleCharacteristicReceived.eq_def]
    by_cases hFlag : hasFlag flags fragmentAck = true
    · dsimp only
      rw [if_pos hFlag]
      cases rest with
      | nil => exact exitWith_avoids _ noConfusion _
      | cons ackNum rest =>
        obtain ⟨acked, hAcked⟩ := hValid ackNum (by rw [ackOf, if_pos hFlag])
        dsimp only
        rw [hAcked]
        exact receiveSequence_avoids _ _ _ _ _ _
    · dsimp only
      rw [if_neg hFlag]
      exact receiveSequence_avoids _ _ _ _ _ _

end BtpEngine

/-- The fragments on the air carry the acknowledgements that the engine gave them. -/
structure Encoded (c : EndPointCore) : Prop where
  enough : 20 ≤ c.engine.mTxFragmentSize
  sending : c.engine.mTxState = .inProgress → ∃ left, c.engine.Sending left
  acks : ∀ seq ack fragment, .sent seq ack fragment ∈ c.wire → BtpEngine.ackOf fragment = ack

variable {c c' : EndPointCore} {event : BLEEndPoint.Event} {begun : EndPointCore}

theorem Encoded.congr (hEncoded : Encoded c) (hMessage : c'.engine.txMessage = c.engine.txMessage)
  (hWire : ∀ seq ack fragment, .sent seq ack fragment ∈ c'.wire →
    .sent seq ack fragment ∈ c.wire) : Encoded c' where
  enough := by
    have hSize : c'.engine.mTxFragmentSize = c.engine.mTxFragmentSize :=
      congrArg (fun message => message.2.2.2) hMessage
    rw [hSize]
    exact hEncoded.enough
  sending := by
    intro hState
    have hSame : c'.engine.mTxState = c.engine.mTxState := congrArg (fun message => message.1) hMessage
    obtain ⟨left, hLeft⟩ := hEncoded.sending (hSame ▸ hState)
    exact ⟨left, hLeft.congr hMessage⟩
  acks := fun seq ack fragment hMem => hEncoded.acks seq ack fragment (hWire seq ack fragment hMem)

theorem ackOf_dataFragment {e sent : BtpEngine} {sendAck : Bool} {flags : UInt8} {data : List UInt8}
  (hFragment : DataFragment e sendAck sent flags data) :
  ackOf sent.txFragment = e.ackWith sendAck := by
  rw [hFragment.bytes]
  cases sendAck with
  | true =>
    change ackOf (flags :: e.mRxNewestUnackedSeqNum :: _) = _
    rw [ackOf, if_pos hFragment.ackFlag]
    rfl
  | false =>
    change ackOf (flags :: e.mTxNextSeqNum :: _) = _
    rw [ackOf, if_neg (by simp [hFragment.ackFlag])]
    rfl

theorem encoded_move {asks : BtpEngine → Prop} (hEncoded : Encoded c) (hMove : Move asks c c') :
  Encoded c' := by
  cases hMove with
  | takeTx hComplete =>
    exact ⟨hEncoded.enough, fun hState => absurd hState (by simp [takeTxPacket, hComplete]),
      hEncoded.acks⟩
  | takeRx => exact hEncoded.congr rfl fun _ _ _ h => h
  | ask _ => exact hEncoded.congr rfl fun _ _ _ h => h
  | fragment data sentAck engine hMade _ _ _ =>
    have hSent : (c.engine.handleCharacteristicSend data sentAck).1 = true := by rw [hMade]
    obtain ⟨-, flags, bytes, hFragment⟩ :=
      dataFragment_of_send hEncoded.enough hEncoded.sending hSent
    rw [hMade] at hFragment
    have hSize : engine.mTxFragmentSize = c.engine.mTxFragmentSize :=
      (congrArg mTxFragmentSize hFragment.session :).trans
        counted_mTxFragmentSize
    refine ⟨?_, hFragment.sending, ?_⟩
    · change 20 ≤ engine.mTxFragmentSize
      rw [hSize]
      exact hEncoded.enough
    · intro seq ack fragment hMem
      rcases mem_append.mp hMem with hOld | hNew
      · exact hEncoded.acks seq ack fragment hOld
      · cases mem_singleton.mp hNew
        exact ackOf_dataFragment hFragment
  | standAloneAck _ _ _ =>
    refine ⟨hEncoded.enough, ?_, ?_⟩
    · intro hState
      obtain ⟨left, hLeft⟩ := hEncoded.sending hState
      exact ⟨left, hLeft.congr rfl⟩
    · intro seq ack fragment hMem
      rcases mem_append.mp hMem with hOld | hNew
      · exact hEncoded.acks seq ack fragment hOld
      · cases mem_singleton.mp hNew
        rfl
  | close freed operationInFlight hIdle _ =>
    cases freed with
    | true =>
      exact ⟨hEncoded.enough,
        fun hState => absurd hState (by simp [takeTxPacket, takeRxPacket, hIdle]),
        hEncoded.acks⟩
    | false => exact hEncoded.congr rfl fun _ _ _ h => h

theorem encoded_begins (hEncoded : Encoded c) (hBegins : Begins event c begun) : Encoded begun := by
  cases hBegins with
  | same _ _ _ => exact hEncoded
  | fragmentConfirmed _ _ => exact hEncoded.congr rfl fun _ _ _ h => h
  | handshakeConfirmed _ _ => exact hEncoded.congr rfl fun _ _ _ h => h
  | subscribes _ _ => exact hEncoded.congr rfl fun _ _ _ h => h
  | subscribed => exact hEncoded.congr rfl fun _ _ _ h => h
  | received _ allocSize fragment ack engine hAccepted =>
    have hMessage : engine.txMessage = c.engine.txMessage := by
      have hSame := (received_txMessage (e := c.engine) allocSize fragment).1
      rwa [hAccepted] at hSame
    refine hEncoded.congr hMessage fun seq ack' fragment' hMem => ?_
    rcases mem_append.mp hMem with hOld | hNew
    · exact hOld
    · cases mem_singleton.mp hNew

structure Side (role : BleRole) (window : UInt8) (c : EndPointCore) : Prop where
  orderly : Orderly role window c
  encoded : Encoded c
  flow : ∃ excess, excess ≤ 1 ∧ Flow role window excess c
  next : c.engine.mTxNextSeqNum = UInt8.ofNat (sentCount role c.wire)

theorem move_wire {asks : BtpEngine → Prop} (hMove : Move asks c c') :
  (c'.wire = c.wire ∧ c'.engine.mTxNextSeqNum = c.engine.mTxNextSeqNum) ∨
    ∃ seq ack fragment, c'.wire = c.wire ++ [.sent seq ack fragment] ∧
      c'.engine.mTxNextSeqNum = c.engine.mTxNextSeqNum + 1 := by
  cases hMove with
  | takeTx _ => exact .inl ⟨rfl, rfl⟩
  | takeRx => exact .inl ⟨rfl, rfl⟩
  | ask _ => exact .inl ⟨rfl, rfl⟩
  | fragment data sentAck engine hMade _ _ _ =>
    obtain ⟨hSession, -⟩ := session_send hMade
    exact .inr ⟨_, _, _, rfl, (congrArg mTxNextSeqNum hSession :).trans
      counted_mTxNextSeqNum⟩
  | standAloneAck _ _ _ => exact .inr ⟨_, _, _, rfl, rfl⟩
  | close freed operationInFlight _ _ =>
    cases freed with
    | true => exact .inl ⟨rfl, rfl⟩
    | false => exact .inl ⟨rfl, rfl⟩

theorem side_move (hSide : Side role window c) (hMove : Move hasUnacked c c') :
  Side role window c' := by
  obtain ⟨excess, hExcess, hFlow⟩ := hSide.flow
  refine ⟨orderly_move hSide.orderly hMove, encoded_move hSide.encoded hMove,
    ⟨excess, hExcess, flow_move hFlow hMove⟩, ?_⟩
  rcases move_wire hMove with ⟨hWire, hNext⟩ | ⟨seq, ack, fragment, hWire, hNext⟩
  · rw [hWire, hNext]
    exact hSide.next
  · rw [hWire, hNext, hSide.next, sentCount_sent, UInt8.ofNat_add]
    rfl

theorem begins_wire (hBegins : Begins event c begun) (hOther : event.isReceive = false) :
  begun.wire = c.wire := by
  cases hBegins with
  | same _ _ _ => rfl
  | fragmentConfirmed _ _ => rfl
  | handshakeConfirmed _ _ => rfl
  | subscribes _ _ => rfl
  | subscribed => rfl
  | received _ allocSize fragment ack engine _ => cases hOther

theorem begins_sent (role : BleRole) (hBegins : Begins event c begun) :
  sentCount role begun.wire = sentCount role c.wire ∧
    begun.engine.mTxNextSeqNum = c.engine.mTxNextSeqNum := by
  cases hBegins with
  | same _ _ _ => exact ⟨rfl, rfl⟩
  | fragmentConfirmed _ _ => exact ⟨rfl, rfl⟩
  | handshakeConfirmed _ _ => exact ⟨rfl, rfl⟩
  | subscribes _ _ => exact ⟨rfl, rfl⟩
  | subscribed => exact ⟨rfl, rfl⟩
  | received _ allocSize fragment ack engine hAccepted =>
    have hNext := (received_txMessage (e := c.engine) allocSize fragment).2
    rw [hAccepted] at hNext
    exact ⟨sentCount_received .., hNext⟩

theorem side_begins (hSide : Side role window c)
  (hConfirms : BLEEndPoint.confirms c.subscribing event = true) (hBegins : Begins event c begun) :
  Side role window begun := by
  obtain ⟨excess, hExcess, hFlow⟩ := hSide.flow
  obtain ⟨excess', hExcess', hFlow', -⟩ := BLEEndPoint.flow_begins hFlow hExcess hBegins
  obtain ⟨hCount, hNext⟩ := begins_sent role hBegins
  refine ⟨BLEEndPoint.orderly_begins hSide.orderly hConfirms hBegins,
    encoded_begins hSide.encoded hBegins, ⟨excess', hExcess', hFlow'⟩, ?_⟩
  rw [hCount, hNext]
  exact hSide.next

/-- The fragment is the next one on its way from one end point to the other. -/
def OnItsWay (role role' : BleRole) (wire wire' : List Wire) (fragment : List UInt8) : Prop :=
  ∃ before seq ack after, wire = before ++ .sent seq ack fragment :: after ∧
    sentCount role before = receivedCount role' wire'

structure Heard (role role' : BleRole) (wire wire' : List Wire) : Prop where
  received : receivedCount role' wire' ≤ sentCount role wire
  delivered : Delivered role wire (settledCount role' wire') (receivedCount role' wire')

structure Joint (role role' : BleRole) (window : UInt8) (c c' : EndPointCore) : Prop where
  side : Side role window c
  side' : Side role' window c'
  forth : Heard role role' c.wire c'.wire
  back : Heard role' role c'.wire c.wire

theorem Joint.symm (hJoint : Joint role role' window c c') : Joint role' role window c' c :=
  ⟨hJoint.side', hJoint.side, hJoint.back, hJoint.forth⟩

theorem Side.sound (hSide : Side role window c) : AcksSound role c.wire := by
  obtain ⟨⟨acked, hAcked⟩, -⟩ := hSide.orderly
  exact hAcked.sound

theorem Side.ack_eq (hSide : Side role window c)
  (hSplit : c.wire = before ++ .sent seq (some ack) fragment :: after) :
  0 < receivedCount role before ∧ ack = UInt8.ofNat (receivedCount role before - 1) := by
  obtain ⟨⟨acked, hAcked⟩, -⟩ := hSide.orderly
  obtain ⟨hLast, -⟩ := hAcked.sound before seq ack fragment after hSplit
  have hNumbers : receivedOn role before = cyclicSequence 0 (receivedCount role before) := by
    have hAll := hAcked.numbers
    have hLess := receivedCount_append_le role before (.sent seq (some ack) fragment :: after)
    rw [← hSplit] at hLess
    have hTake : (receivedOn role c.wire).take (receivedCount role before) = receivedOn role before := by
      rw [hSplit]
      simp [receivedOn, receivedCount, List.take_append]
    rw [← hTake, hAll]
    exact CyclicSequence.take hLess
  cases hCount : receivedCount role before with
  | zero =>
    rw [hNumbers, hCount] at hLast
    cases hLast
  | succ m =>
    refine ⟨m.succ_pos, ?_⟩
    rw [hNumbers, hCount, ← CyclicSequence.concat, List.getLast?_concat, UInt8.zero_add] at hLast
    rw [Nat.succ_sub_one]
    injection hLast with hLast
    exact hLast.symm

theorem Side.outstanding (hSide : Side role window c) :
  (outstandingOn role c.wire).length ≤ 256 ∧
    sentCount role c.wire = settledCount role c.wire + (outstandingOn role c.wire).length ∧
    outstandingOn role c.wire =
      cyclicSequence (UInt8.ofNat (settledCount role c.wire)) (outstandingOn role c.wire).length := by
  obtain ⟨excess, hExcess, hFlow⟩ := hSide.flow
  have hSum := hFlow.sum
  have hWindow := window.toNat_lt
  have hLe := outstandingOn_le role c.wire
  have hCount : sentCount role c.wire =
      settledCount role c.wire + (outstandingOn role c.wire).length := by
    rw [settledCount]
    omega
  refine ⟨by omega, hCount, ?_⟩
  obtain ⟨first, hNumbers, hStands⟩ := hFlow.tracks
  have hNext : c.engine.mTxNextSeqNum = first + UInt8.ofNat (outstandingOn role c.wire).length :=
    hStands.next
  have hFirst : first = UInt8.ofNat (settledCount role c.wire) := by
    have hLess := first.toNat_lt
    rw [hSide.next, hCount, ← UInt8.toNat_inj] at hNext
    rw [← UInt8.toNat_inj]
    simp only [UInt8.toNat_add, UInt8.toNat_ofNat'] at hNext ⊢
    omega
  rw [← hFirst]
  exact hNumbers

section

variable (hJoint : Joint role role' window c c')
include hJoint

theorem joint_ack (hSplit : c'.wire = before ++ .sent seq (some ack) fragment :: after)
  (hNext : sentCount role' before = receivedCount role c.wire) :
  (∃ acked, c.engine.handleAckReceived ack = .ok acked) ∧
    settledCount role (c.wire ++ [.received fragment]) = receivedCount role' before := by
  obtain ⟨hFew, hCount, hNumbers⟩ := hJoint.side.outstanding
  obtain ⟨hSome, hAck⟩ := hJoint.side'.ack_eq hSplit
  obtain ⟨excess, hExcess, hFlow⟩ := hJoint.side.flow
  have hMore : settledCount role c.wire < receivedCount role' before :=
    hJoint.back.delivered.later before seq ack fragment after hSplit (Nat.le_of_eq hNext.symm)
  have hReceived : receivedCount role' before ≤ sentCount role c.wire := by
    have hLess := receivedCount_append_le role' before (.sent seq (some ack) fragment :: after)
    rw [← hSplit] at hLess
    exact Nat.le_trans hLess hJoint.forth.received
  have hDistance : (ack - UInt8.ofNat (settledCount role c.wire)).toNat =
      receivedCount role' before - 1 - settledCount role c.wire := by
    rw [hAck, CyclicSequence.toNat_sub, UInt8.toNat_ofNat', UInt8.toNat_ofNat']
    omega
  have hMem : ack ∈ outstandingOn role c.wire := by
    rw [hNumbers, CyclicSequence.mem_iff hFew, hDistance]
    omega
  have hAckOf : BtpEngine.ackOf fragment = some ack :=
    hJoint.side'.encoded.acks seq (some ack) fragment (by rw [hSplit]; simp)
  refine ⟨(TrackedEngine.handleAckReceived_iff hFlow.tracks hFew).mpr hMem, ?_⟩
  have hLeft : (acknowledge (outstandingOn role c.wire) ack).length =
      (outstandingOn role c.wire).length - (ack - UInt8.ofNat (settledCount role c.wire)).toNat - 1 := by
    have hSplitAt := hNumbers.trans (CyclicSequence.split (a := ack) (by rw [hDistance]; omega))
    conv_lhs => rw [hSplitAt, acknowledge_split (CyclicSequence.notMem_before (by omega)),
      CyclicSequence.length]
  rw [settledCount, sentCount_received, outstandingOn_concat, noteOutstanding, hAckOf]
  change sentCount role c.wire - (acknowledge (outstandingOn role c.wire) ack).length = _
  rw [hLeft, hDistance]
  omega

theorem joint_valid (hNext : OnItsWay role' role c'.wire c.wire fragment) (allocSize : Nat) :
  (c.engine.handleCharacteristicReceived allocSize fragment).2.1 ≠ .error .invalidAck := by
  obtain ⟨before, seq, ack, after, hSplit, hCount⟩ := hNext
  have hAck := hJoint.side'.encoded.acks seq ack fragment (by rw [hSplit]; simp)
  refine received_noInvalidAck fun ackNum hSome => ?_
  rw [hAck] at hSome
  rw [hSome] at hSplit
  exact (joint_ack hJoint hSplit hCount).1

theorem joint_move {d : EndPointCore} (hMove : Move hasUnacked c d) :
  Joint role role' window d c' := by
  have hSide := side_move hJoint.side hMove
  rcases move_wire hMove with ⟨hWire, -⟩ | ⟨seq, ack, fragment, hWire, -⟩
  · exact ⟨hSide, hJoint.side', hWire ▸ hJoint.forth, hWire ▸ hJoint.back⟩
  · have hSound := hSide.sound
    have hReceived := hJoint.forth.received
    refine ⟨hSide, hJoint.side', ⟨?_, ?_⟩, ⟨?_, ?_⟩⟩
    · rw [hWire, sentCount_sent]
      omega
    · rw [hWire] at hSound ⊢
      exact delivered_grow hJoint.forth.delivered hReceived hSound
    · rw [hWire, receivedCount_sent]
      exact hJoint.back.received
    · rw [hWire, receivedCount_sent, settledCount_sent]
      exact hJoint.back.delivered

theorem joint_moves {d : EndPointCore} (hMoves : Moves hasUnacked c d) :
  Joint role role' window d c' := by
  induction hMoves with
  | refl => exact hJoint
  | tail _ hMove ih => exact joint_move ih hMove

end

theorem receivedCount_received {seq : UInt8} (hSeq : seqOf fragment = some seq) (role : BleRole)
  (wire : List Wire) :
  receivedCount role (wire ++ [.received fragment]) = receivedCount role wire + 1 := by
  rw [receivedCount, receivedOn_concat, receivedSeq, hSeq, length_append]
  rfl

theorem joint_received (hJoint : Joint role role' window c c') {allocSize : Nat} {ack : Option UInt8}
  {engine : BtpEngine} (hNext : OnItsWay role' role c'.wire c.wire fragment)
  (hAccepted : c.engine.handleCharacteristicReceived allocSize fragment = (ack, .ok (), engine)) :
  Joint role role' window (c.withReceived engine ack fragment) c' := by
  have hSide : Side role window (c.withReceived engine ack fragment) :=
    side_begins hJoint.side rfl (.received c allocSize fragment ack engine hAccepted)
  obtain ⟨hSeq, -⟩ := received_counters hAccepted
  have hCount : receivedCount role (c.wire ++ [.received fragment]) = receivedCount role c.wire + 1 :=
    receivedCount_received hSeq role c.wire
  obtain ⟨before, seq, ack', after, hSplit, hIndex⟩ := hNext
  have hAckOf := hJoint.side'.encoded.acks seq ack' fragment (by rw [hSplit]; simp)
  refine ⟨hSide, hJoint.side', ⟨?_, ?_⟩, ⟨?_, ?_⟩⟩
  · change _ ≤ sentCount role (c.wire ++ [.received fragment])
    rw [sentCount_received]
    exact hJoint.forth.received
  · exact delivered_grow hJoint.forth.delivered hJoint.forth.received hSide.sound
  · change receivedCount role (c.wire ++ [.received fragment]) ≤ _
    have hLt := sentCount_lt role' before after seq ack' fragment
    rw [← hSplit] at hLt
    omega
  · change Delivered role' c'.wire (settledCount role (c.wire ++ [.received fragment]))
      (receivedCount role (c.wire ++ [.received fragment]))
    rw [hCount]
    cases ack' with
    | none =>
      have hSettled : settledCount role (c.wire ++ [.received fragment]) = settledCount role c.wire := by
        rw [settledCount, sentCount_received, outstandingOn_concat, noteOutstanding, hAckOf]
        rfl
      rw [hSettled]
      exact delivered_plain hJoint.back.delivered hSplit hIndex
    | some ackNum =>
      rw [(joint_ack hJoint hSplit hIndex).2]
      exact delivered_ack hJoint.side'.sound hSplit hIndex

namespace BLEEndPoint

variable {e central peripheral : BLEEndPoint} {p : BlePlatform}

/-- The runs of two connected end points, as long as the events of both meet a condition. Each is
handed the fragments of the other one by one. The MTU of the connection is at least 23 bytes, which
leaves 20 for a fragment. -/
inductive Connection (window : UInt8) (meets : BLEEndPoint → Event → Prop) :
    BLEEndPoint → BLEEndPoint → Prop
  | handshake (fragmentSize : Nat) (subscribing : Bool) (response : System.PacketBuffer)
      (enough : 20 ≤ fragmentSize) :
      Connection window meets (connectedCentral window fragmentSize subscribing)
        (connectedPeripheral window fragmentSize response)
  | atCentral {central peripheral : BLEEndPoint} (p : BlePlatform) (event : Event)
      (connection : Connection window meets central peripheral)
      (isOpen : central.mState ≠ .closed) (own : event.isReceive = false)
      (met : meets central event) : Connection window meets (central.step p event) peripheral
  | atPeripheral {central peripheral : BLEEndPoint} (p : BlePlatform) (event : Event)
      (connection : Connection window meets central peripheral)
      (isOpen : peripheral.mState ≠ .closed) (own : event.isReceive = false)
      (met : meets peripheral event) : Connection window meets central (peripheral.step p event)
  | toCentral {central peripheral : BLEEndPoint} (p : BlePlatform) (allocSize : Nat)
      (fragment : List UInt8) (connection : Connection window meets central peripheral)
      (isOpen : central.mState ≠ .closed)
      (next : OnItsWay .peripheral .central peripheral.wire central.wire fragment)
      (met : meets central (.receive allocSize fragment)) :
      Connection window meets (central.step p (.receive allocSize fragment)) peripheral
  | toPeripheral {central peripheral : BLEEndPoint} (p : BlePlatform) (allocSize : Nat)
      (fragment : List UInt8) (connection : Connection window meets central peripheral)
      (isOpen : peripheral.mState ≠ .closed)
      (next : OnItsWay .central .peripheral central.wire peripheral.wire fragment)
      (met : meets peripheral (.receive allocSize fragment)) :
      Connection window meets central (peripheral.step p (.receive allocSize fragment))

/-- The core of an end point; of a closed one, the core that it had. -/
def HasCore (e : BLEEndPoint) (c : EndPointCore) : Prop :=
  e.wire = c.wire ∧ (e.mState = .closed ∨ e.core = c)

theorem HasCore.of_open (hCore : HasCore e c) (hOpen : e.mState ≠ .closed) : e.core = c :=
  hCore.2.resolve_left hOpen

theorem joint_step (hWindow : 2 ≤ window.toNat) (p : BlePlatform) (event : Event)
  (hJoint : Joint role role' window e.core c') (hOpen : e.mState ≠ .closed)
  (hTimely : e.Timely event)
  (hNext : ∀ allocSize fragment, event = .receive allocSize fragment →
    OnItsWay role' role c'.wire e.wire fragment) :
  ∃ c, Joint role role' window c c' ∧ HasCore (e.step p event) c := by
  rcases orderly_step hWindow p event hJoint.side.orderly hOpen hTimely with
    ⟨hSame, hClosed⟩ | ⟨begun, hBegins, c, hMoves, hWire, hAfter⟩
  · exact ⟨e.core, hJoint, hSame, .inl hClosed⟩
  · have hBegun : Joint role role' window begun c' := by
      cases hOther : event.isReceive with
      | false =>
        have hSame := begins_wire hBegins hOther
        exact ⟨side_begins hJoint.side hTimely.1 hBegins, hJoint.side', hSame ▸ hJoint.forth,
          hSame ▸ hJoint.back⟩
      | true =>
        generalize hCore : e.core = core at hBegins hJoint
        have hWireEq : e.wire = core.wire := by
          rw [← hCore]
          rfl
        cases event with
        | receive allocSize fragment =>
          have hWay := hNext allocSize fragment rfl
          rw [hWireEq] at hWay
          cases hBegins with
          | same _ _ hNot => cases hNot
          | received _ _ _ ack engine hAccepted => exact joint_received hJoint hWay hAccepted
        | send _ => cases hOther
        | gattSendConfirmation => cases hOther
        | subscribeComplete => cases hOther
        | sendAckTimeout => cases hOther
        | ackReceivedTimeout => cases hOther
        | close _ _ => cases hOther
    exact ⟨c, joint_moves hBegun hMoves, hWire, hAfter⟩

theorem encoded_initial {engine : BtpEngine} (hEngine : c.engine = engine)
  (hEnough : 20 ≤ engine.mTxFragmentSize) (hIdle : engine.mTxState = .idle) (hWire : c.wire = []) :
  Encoded c := by
  subst hEngine
  refine ⟨hEnough, fun hState => ?_, fun seq ack fragment hMem => ?_⟩
  · rw [hIdle] at hState
    cases hState
  · rw [hWire] at hMem
    cases hMem

theorem delivered_nil : Delivered role [] 0 n := by
  refine ⟨?_, ?_, .inl rfl⟩
  · intro before seq ack fragment after hSplit
    simp at hSplit
  · intro before seq ack fragment after hSplit
    simp at hSplit

theorem joint_handshake (hWindow : 2 ≤ window.toNat) (subscribing : Bool)
  (response : System.PacketBuffer) {fragmentSize : Nat} (hEnough : 20 ≤ fragmentSize) :
  Joint .central .peripheral window (connectedCentral window fragmentSize subscribing).core
    (connectedPeripheral window fragmentSize response).core where
  side := ⟨orderly_central fragmentSize subscribing, encoded_initial rfl hEnough rfl rfl,
    ⟨0, Nat.zero_le 1, flow_central window fragmentSize subscribing⟩, rfl⟩
  side' := ⟨orderly_peripheral fragmentSize response, encoded_initial rfl hEnough rfl rfl,
    ⟨0, Nat.zero_le 1, flow_peripheral hWindow fragmentSize response⟩, rfl⟩
  forth := ⟨Nat.le_refl 0, delivered_nil⟩
  back := ⟨Nat.le_refl 1, delivered_nil⟩

theorem joint_connection (hWindow : 2 ≤ window.toNat)
  (hConnection : Connection window Timely central peripheral) :
  ∃ c c', Joint .central .peripheral window c c' ∧ HasCore central c ∧ HasCore peripheral c' := by
  induction hConnection with
  | handshake fragmentSize subscribing response hEnough =>
    exact ⟨_, _, joint_handshake hWindow subscribing response hEnough, ⟨rfl, .inr rfl⟩,
      ⟨rfl, .inr rfl⟩⟩
  | atCentral p event _ hOpen hOwn hTimely ih =>
    obtain ⟨c, c', hJoint, hCentral, hPeripheral⟩ := ih
    rw [← hCentral.of_open hOpen] at hJoint
    obtain ⟨d, hJoint', hCore⟩ := joint_step hWindow p event hJoint hOpen hTimely
      fun _ _ hEvent => by rw [hEvent] at hOwn; cases hOwn
    exact ⟨d, c', hJoint', hCore, hPeripheral⟩
  | atPeripheral p event _ hOpen hOwn hTimely ih =>
    obtain ⟨c, c', hJoint, hCentral, hPeripheral⟩ := ih
    rw [← hPeripheral.of_open hOpen] at hJoint
    obtain ⟨d, hJoint', hCore⟩ := joint_step hWindow p event hJoint.symm hOpen hTimely
      fun _ _ hEvent => by rw [hEvent] at hOwn; cases hOwn
    exact ⟨c, d, hJoint'.symm, hCentral, hCore⟩
  | toCentral p allocSize fragment _ hOpen hNext hTimely ih =>
    obtain ⟨c, c', hJoint, hCentral, hPeripheral⟩ := ih
    rw [← hCentral.of_open hOpen] at hJoint
    rw [hPeripheral.1] at hNext
    obtain ⟨d, hJoint', hCore⟩ := joint_step hWindow p (.receive allocSize fragment) hJoint hOpen
      hTimely fun _ _ hEvent => by cases hEvent; exact hNext
    exact ⟨d, c', hJoint', hCore, hPeripheral⟩
  | toPeripheral p allocSize fragment _ hOpen hNext hTimely ih =>
    obtain ⟨c, c', hJoint, hCentral, hPeripheral⟩ := ih
    rw [← hPeripheral.of_open hOpen] at hJoint
    rw [hCentral.1] at hNext
    obtain ⟨d, hJoint', hCore⟩ := joint_step hWindow p (.receive allocSize fragment) hJoint.symm
      hOpen hTimely fun _ _ hEvent => by cases hEvent; exact hNext
    exact ⟨c, d, hJoint'.symm, hCentral, hCore⟩

/-- In every run in which the send-ack timer expires only while something is unacknowledged, every
acknowledgement is the number of the fragment that was received last, and of a later fragment than
every one before it. When this holds at both ends of a connection, neither rejects an
acknowledgement of the other. -/
theorem acksSound_timely (hWindow : 2 ≤ window.toNat) :
    (∀ role e, Reachable window Timely role e → AcksSound role e.wire) ∧
      ∀ central peripheral, Connection window Timely central peripheral →
        (∀ allocSize fragment, central.mState ≠ .closed →
          OnItsWay .peripheral .central peripheral.wire central.wire fragment →
            (central.mBtpEngine.handleCharacteristicReceived allocSize fragment).2.1 ≠
              .error .invalidAck) ∧
        ∀ allocSize fragment, peripheral.mState ≠ .closed →
          OnItsWay .central .peripheral central.wire peripheral.wire fragment →
            (peripheral.mBtpEngine.handleCharacteristicReceived allocSize fragment).2.1 ≠
              .error .invalidAck := by
  refine ⟨?_, ?_⟩
  · intro role e hReachable
    obtain ⟨c, ⟨⟨acked, hAcked⟩, -⟩, hWire, -⟩ := orderly_reachable hWindow hReachable
    rw [hWire]
    exact hAcked.sound
  · intro central peripheral hConnection
    obtain ⟨c, c', hJoint, hCentral, hPeripheral⟩ := joint_connection hWindow hConnection
    refine ⟨?_, ?_⟩
    · intro allocSize fragment hOpen hNext
      rw [hCentral.1, hPeripheral.1] at hNext
      have hValid := joint_valid hJoint hNext allocSize
      rwa [← hCentral.of_open hOpen] at hValid
    · intro allocSize fragment hOpen hNext
      rw [hCentral.1, hPeripheral.1] at hNext
      have hValid := joint_valid hJoint.symm hNext allocSize
      rwa [← hPeripheral.of_open hOpen] at hValid

/-- The first message of the central acknowledges the handshake response. -/
theorem acksSound_first :
    ((connectedCentral 6 20 false).step willing (.send oneByte)).wire =
        [.sent 0 (some 0) [13, 0, 0, 1, 0, 7]] ∧
      AcksSound .central ((connectedCentral 6 20 false).step willing (.send oneByte)).wire := by
  have hTimely : (connectedCentral 6 20 false).Timely (.send oneByte) :=
    ⟨rfl, fun hEvent => by cases hEvent⟩
  have hReachable : Reachable 6 Timely .central
      ((connectedCentral 6 20 false).step willing (.send oneByte)) :=
    .step willing (.send oneByte) (.central 20 false) (by decide) hTimely
  exact ⟨by decide +kernel, (acksSound_timely (by decide)).1 .central _ hReachable⟩

/-- Events one after the other, where every confirmation is one of what is in flight. -/
def confirmedRun (p : BlePlatform) : List Event → BLEEndPoint → Option BLEEndPoint
  | [], e => some e
  | event :: events, e =>
    if e.mState = .closed then none
    else if confirms e.subscribing event then confirmedRun p events (e.step p event)
    else none

theorem reachable_confirmedRun {e e' : BLEEndPoint} {events : List Event}
  (hReachable : Reachable window (fun e event => confirms e.subscribing event = true) role e)
  (hRun : confirmedRun p events e = some e') :
  Reachable window (fun e event => confirms e.subscribing event = true) role e' := by
  induction events generalizing e with
  | nil =>
    cases hRun
    exact hReachable
  | cons event events ih =>
    rw [confirmedRun] at hRun
    split at hRun
    · cases hRun
    · rename_i hOpen
      split at hRun
      · rename_i hConfirms
        exact ih (.step p event hReachable hOpen hConfirms) hRun
      · cases hRun

/-- The timer expires while a message is in flight, so that an acknowledgement is pending, and a
fragment that is received starts the timer anew. The pending acknowledgement is sent with the
confirmation of the message, but the timer goes on. -/
def staleTimerRun : List Event :=
  [.send oneByte, .receive 64 [BtpEngine.fragmentAck, 0, 1], .sendAckTimeout,
    .receive 64 [5, 2, 1, 0, 7], .gattSendConfirmation, .gattSendConfirmation, .sendAckTimeout]

/-- The number 3 is acknowledged when fragment 2 was received last. -/
theorem acksSound_fails :
    ¬ ∀ (role : BleRole) (window : UInt8) (e : BLEEndPoint), 2 ≤ window.toNat →
      Reachable window (fun e event => confirms e.subscribing event = true) role e →
        AcksSound role e.wire := by
  intro hAlways
  have hRun : (confirmedRun willing staleTimerRun (connectedCentral 6 20 false)).map (fun e =>
      (e.wire, receivedOn .central e.wire)) =
        some ([.sent 0 (some 0) [13, 0, 0, 1, 0, 7], .received [8, 0, 1], .received [5, 2, 1, 0, 7],
          .sent 1 (some 2) [8, 2, 1], .sent 2 (some 3) [8, 3, 2]], [0, 1, 2]) := by
    decide +kernel
  obtain ⟨e, hEnd, hEq⟩ := Option.map_eq_some_iff.mp hRun
  injection hEq with hWire _
  have hSound := hAlways .central 6 e (by decide) (reachable_confirmedRun (.central 20 false) hEnd)
  have hLast := (hSound [.sent 0 (some 0) [13, 0, 0, 1, 0, 7], .received [8, 0, 1],
    .received [5, 2, 1, 0, 7], .sent 1 (some 2) [8, 2, 1]] 2 3 [8, 3, 2] [] hWire).1
  exact absurd hLast (by decide)

end BLEEndPoint

end Chip.Ble
