import Chip.Ble.FlowControl
import Chip.Ble.Fragments

/-! Which acknowledgements an end point sends. The engine piggybacks an acknowledgement only if there
is something to acknowledge, but a stand-alone acknowledgement is sent whenever it has been asked
for, and `DoSendStandAloneAck` leaves the send-ack timer running. -/
namespace Chip.Ble

open BtpEngine

open Chip.System (PacketBuffer)
open EndPointCore

def seqOf : List UInt8 → Option UInt8
  | flags :: rest => (if BtpEngine.hasFlag flags BtpEngine.fragmentAck then rest.tail else rest).head?
  | [] => none

def receivedSeq : Wire → Option UInt8
  | .sent .. => none
  | .received fragment => seqOf fragment

/-- The numbers of the received fragments, in their order. The handshake response is the first one
of the central. -/
def receivedOn (role : BleRole) (wire : List Wire) : List UInt8 :=
  (if role = .central then [0] else []) ++ wire.filterMap receivedSeq

/-- Every acknowledgement is the number of the fragment that was received last, and of a later
fragment than every acknowledgement before it. -/
def AcksSound (role : BleRole) (wire : List Wire) : Prop :=
  ∀ before seq ack fragment after, wire = before ++ .sent seq (some ack) fragment :: after →
    (receivedOn role before).getLast? = some ack ∧
      ∀ before' seq' ack' fragment' after',
        before = before' ++ .sent seq' (some ack') fragment' :: after' →
          (receivedOn role before').length < (receivedOn role before).length

/-- No acknowledgement was sent for more than a number of fragments. -/
def AcksWithin (role : BleRole) (acked : Nat) (wire : List Wire) : Prop :=
  ∀ before seq ack fragment after, wire = before ++ .sent seq (some ack) fragment :: after →
    (receivedOn role before).length ≤ acked

variable {role : BleRole} {window : UInt8} {acked : Nat} {wire : List Wire} {entry : Wire}

theorem receivedOn_concat (role : BleRole) (wire : List Wire) (entry : Wire) :
  receivedOn role (wire ++ [entry]) = receivedOn role wire ++ (receivedSeq entry).toList := by
  cases entry with
  | sent seq ack fragment => simp [receivedOn, receivedSeq]
  | received fragment =>
    cases hSeq : seqOf fragment with
    | none => simp [receivedOn, receivedSeq, hSeq]
    | some seq => simp [receivedOn, receivedSeq, hSeq]

theorem append_singleton_cases {before after : List Wire} {old : Wire}
  (hSplit : wire ++ [entry] = before ++ old :: after) :
  (before = wire ∧ old = entry ∧ after = []) ∨
    ∃ rest, after = rest ++ [entry] ∧ wire = before ++ old :: rest := by
  rcases List.eq_nil_or_concat after with rfl | ⟨rest, last, rfl⟩
  · obtain ⟨hBefore, hOld⟩ := List.append_inj' hSplit rfl
    injection hOld with hOld
    exact .inl ⟨hBefore.symm, hOld.symm, rfl⟩
  · have hMoved : wire ++ [entry] = (before ++ old :: rest) ++ [last] := by simpa using hSplit
    obtain ⟨hWire, hLast⟩ := List.append_inj' hMoved rfl
    injection hLast with hLast
    exact .inr ⟨rest, by simp [hLast], hWire⟩

theorem acksSound_nil : AcksSound role [] := by
  intro before seq ack fragment after hSplit
  simp at hSplit

theorem acksWithin_nil : AcksWithin role acked [] := by
  intro before seq ack fragment after hSplit
  simp at hSplit

theorem acks_other (entry : Wire) (hSound : AcksSound role wire) (hWithin : AcksWithin role acked wire)
  (hOther : ∀ seq ack fragment, entry ≠ .sent seq (some ack) fragment) :
  AcksSound role (wire ++ [entry]) ∧ AcksWithin role acked (wire ++ [entry]) := by
  refine ⟨?_, ?_⟩
  · intro before seq ack fragment after hSplit
    rcases append_singleton_cases hSplit with ⟨-, hOld, -⟩ | ⟨rest, -, hWire⟩
    · exact absurd hOld.symm (hOther seq ack fragment)
    · exact hSound before seq ack fragment rest hWire
  · intro before seq ack fragment after hSplit
    rcases append_singleton_cases hSplit with ⟨-, hOld, -⟩ | ⟨rest, -, hWire⟩
    · exact absurd hOld.symm (hOther seq ack fragment)
    · exact hWithin before seq ack fragment rest hWire

theorem acks_sent (seq : UInt8) (fragment : List UInt8) {ack : UInt8} (hSound : AcksSound role wire)
  (hWithin : AcksWithin role acked wire) (hLast : (receivedOn role wire).getLast? = some ack)
  (hLess : acked < (receivedOn role wire).length) :
  AcksSound role (wire ++ [.sent seq (some ack) fragment]) ∧
    AcksWithin role (receivedOn role wire).length (wire ++ [.sent seq (some ack) fragment]) := by
  refine ⟨?_, ?_⟩
  · intro before seq' ack' fragment' after hSplit
    rcases append_singleton_cases hSplit with ⟨rfl, hOld, -⟩ | ⟨rest, -, hWire⟩
    · injection hOld with _ hAck _
      injection hAck with hAck
      refine ⟨hAck ▸ hLast, ?_⟩
      intro before' seq'' ack'' fragment'' after' hBefore
      exact Nat.lt_of_le_of_lt (hWithin before' seq'' ack'' fragment'' after' hBefore) hLess
    · exact hSound before seq' ack' fragment' rest hWire
  · intro before seq' ack' fragment' after hSplit
    rcases append_singleton_cases hSplit with ⟨rfl, -, -⟩ | ⟨rest, -, hWire⟩
    · exact Nat.le_refl _
    · exact Nat.le_trans (hWithin before seq' ack' fragment' rest hWire) (Nat.le_of_lt hLess)

namespace BtpEngine

variable {e engine : BtpEngine}

/-- What the receiver's counters become with an accepted fragment. -/
structure Counts (e engine : BtpEngine) : Prop where
  next : engine.mRxNextSeqNum = e.mRxNextSeqNum + 1
  newest : engine.mRxNewestUnackedSeqNum = e.mRxNextSeqNum
  oldest : engine.mRxOldestUnackedSeqNum = e.mRxOldestUnackedSeqNum

theorem counts_of_rxSession (hSame : engine.rxSession = e.received.rxSession) : Counts e engine :=
  ⟨(congrArg mRxNextSeqNum hSame :), (congrArg mRxNewestUnackedSeqNum hSame :),
    (congrArg mRxOldestUnackedSeqNum hSame :)⟩

theorem receiveSequence_counts {allocSize headerSize : Nat} {fragment rest : List UInt8}
  {flags : UInt8}
  (hOk : receiveSequence allocSize fragment flags headerSize rest e = (.ok (), engine)) :
  rest.head? = some e.mRxNextSeqNum ∧ Counts e engine := by
  cases rest with
  | nil => cases hOk
  | cons seq data =>
    by_cases hSeq : seq = e.mRxNextSeqNum
    · subst hSeq
      refine ⟨rfl, ?_⟩
      cases hData : carriesData flags with
      | false =>
        rw [receiveSequence_standAlone headerSize hData] at hOk
        cases hOk
        exact ⟨rfl, rfl, rfl⟩
      | true =>
        by_cases hSize : headerSize ≤ e.mRxFragmentSize
        · rw [receiveSequence_data headerSize hData hSize] at hOk
          have hKept := reassemble_keeps allocSize flags
            (data.take (e.mRxFragmentSize - headerSize)) e.received
          rw [hOk] at hKept
          exact counts_of_rxSession hKept
        · unfold carriesData at hData
          rw [receiveSequence, Proc.modify_bind, Proc.read_bind, if_neg (by simp),
            Proc.modify_bind, if_neg (by simp [hData]),
            if_pos (Nat.lt_of_not_le hSize)] at hOk
          cases hOk
    · rw [receiveSequence, Proc.modify_bind, Proc.read_bind, if_pos hSeq] at hOk
      cases hOk

theorem acknowledged_rx {ackNum : UInt8} {acked : BtpEngine}
  (hAcked : e.handleAckReceived ackNum = .ok acked) :
  acked.mRxNextSeqNum = e.mRxNextSeqNum ∧
    acked.mRxOldestUnackedSeqNum = e.mRxOldestUnackedSeqNum := by
  unfold handleAckReceived at hAcked
  split at hAcked
  · cases hAcked
  · split at hAcked
    · cases hAcked
      exact ⟨rfl, rfl⟩
    · cases hAcked
      exact ⟨rfl, rfl⟩

theorem received_counters {allocSize : Nat} {fragment : List UInt8} {ack : Option UInt8}
  (hAccepted : e.handleCharacteristicReceived allocSize fragment = (ack, .ok (), engine)) :
  seqOf fragment = some e.mRxNextSeqNum ∧ Counts e engine := by
  cases fragment with
  | nil => cases hAccepted
  | cons flags rest =>
    rw [handleCharacteristicReceived.eq_def] at hAccepted
    by_cases hFlag : hasFlag flags fragmentAck = true
    · cases rest with
      | nil =>
        dsimp only at hAccepted
        rw [if_pos hFlag] at hAccepted
        cases hAccepted
      | cons ackNum rest =>
        dsimp only at hAccepted
        rw [if_pos hFlag] at hAccepted
        cases hHandle : e.handleAckReceived ackNum with
        | error err =>
          rw [hHandle] at hAccepted
          cases hAccepted
        | ok acked =>
          rw [hHandle] at hAccepted
          injection hAccepted with _ hRest
          obtain ⟨hHead, hCounts⟩ := receiveSequence_counts hRest
          obtain ⟨hNext, hOldest⟩ := acknowledged_rx hHandle
          rw [hNext] at hHead
          refine ⟨?_, ?_⟩
          · rw [seqOf, if_pos hFlag]
            exact hHead
          · exact ⟨hCounts.next.trans (by rw [hNext]), hCounts.newest.trans hNext,
              hCounts.oldest.trans hOldest⟩
    · dsimp only at hAccepted
      rw [if_neg hFlag] at hAccepted
      injection hAccepted with _ hRest
      obtain ⟨hHead, hCounts⟩ := receiveSequence_counts hRest
      refine ⟨?_, hCounts⟩
      rw [seqOf, if_neg hFlag]
      exact hHead

end BtpEngine

/-- The state of the acknowledgements: how many of the received fragments have been acknowledged,
and that a stand-alone acknowledgement is pending only if not all have. -/
structure Acked (role : BleRole) (window : UInt8) (acked : Nat) (c : EndPointCore) : Prop where
  within : acked ≤ (receivedOn role c.wire).length
  numbers : receivedOn role c.wire = cyclicSequence 0 (receivedOn role c.wire).length
  next : c.engine.mRxNextSeqNum = UInt8.ofNat (receivedOn role c.wire).length
  oldest : c.engine.mRxOldestUnackedSeqNum = UInt8.ofNat acked
  newest : acked < (receivedOn role c.wire).length →
    c.engine.mRxNewestUnackedSeqNum = UInt8.ofNat ((receivedOn role c.wire).length - 1)
  sound : AcksSound role c.wire
  acksWithin : AcksWithin role acked c.wire
  pending : c.ackToSend = true → c.ackInFlight = false → acked < (receivedOn role c.wire).length
  localWindow : c.localWindow =
    window - (c.engine.mRxNextSeqNum - c.engine.mRxOldestUnackedSeqNum)
  max : c.maxWindow = window

structure InFlight (c : EndPointCore) : Prop where
  ack : c.ackInFlight = true → c.operationInFlight = true ∧ c.subscribing = false
  handshake : c.handshakeConfirmed = false →
    c.operationInFlight = true ∧ c.ackInFlight = false ∧ c.subscribing = false
  subscription : c.subscribing = true → c.operationInFlight = true
  unsubscribing : c.unsubscribing = true → c.closed = true

variable {c c' : EndPointCore}

section

variable (hAcked : Acked role window acked c)
include hAcked

theorem Acked.last (hLess : acked < (receivedOn role c.wire).length) :
  (receivedOn role c.wire).getLast? = some c.engine.mRxNewestUnackedSeqNum := by
  have hNumbers := hAcked.numbers
  rw [hAcked.newest hLess]
  generalize (receivedOn role c.wire).length = n at hNumbers hLess
  obtain ⟨m, rfl⟩ := Nat.exists_eq_succ_of_ne_zero (Nat.ne_of_gt (Nat.lt_of_le_of_lt (Nat.zero_le _) hLess))
  rw [hNumbers, Nat.succ_eq_add_one, ← CyclicSequence.concat, List.getLast?_concat,
    UInt8.zero_add, Nat.add_sub_cancel]

theorem Acked.less (hUnacked : c.engine.hasUnackedData = true) :
  acked < (receivedOn role c.wire).length := by
  refine Nat.lt_of_le_of_ne hAcked.within fun hEq => ?_
  have hOldest := hAcked.oldest
  rw [hEq, ← hAcked.next] at hOldest
  simp [hasUnackedData, hOldest] at hUnacked

theorem Acked.congr (hNext : c'.engine.mRxNextSeqNum = c.engine.mRxNextSeqNum)
  (hOldest : c'.engine.mRxOldestUnackedSeqNum = c.engine.mRxOldestUnackedSeqNum)
  (hNewest : c'.engine.mRxNewestUnackedSeqNum = c.engine.mRxNewestUnackedSeqNum)
  (hWire : c'.wire = c.wire) (hLocal : c'.localWindow = c.localWindow)
  (hMax : c'.maxWindow = c.maxWindow) (hPending : c'.ackToSend = true → c'.ackInFlight = false →
    acked < (receivedOn role c.wire).length) : Acked role window acked c' := by
  obtain ⟨within, numbers, next, oldest, newest, sound, acksWithin, -, localWindow, max⟩ := hAcked
  refine ⟨?_, ?_, ?_, ?_, ?_, ?_, ?_, ?_, ?_, ?_⟩
  · rwa [hWire]
  · rwa [hWire]
  · rw [hWire, hNext]
    exact next
  · rw [hOldest]
    exact oldest
  · rw [hWire, hNewest]
    exact newest
  · rwa [hWire]
  · rwa [hWire]
  · rwa [hWire]
  · rw [hLocal, hNext, hOldest]
    exact localWindow
  · exact hMax.trans max

end

variable {fragment : List UInt8}

section

variable (hAcked : Acked role window acked c)
include hAcked

theorem Acked.sentAck {seq : UInt8} (hLess : acked < (receivedOn role c.wire).length)
  (hNext : c'.engine.mRxNextSeqNum = c.engine.mRxNextSeqNum)
  (hOldest : c'.engine.mRxOldestUnackedSeqNum = c.engine.mRxNextSeqNum)
  (hWire : c'.wire = c.wire ++ [.sent seq (some c.engine.mRxNewestUnackedSeqNum) fragment])
  (hLocal : c'.localWindow = c.maxWindow) (hMax : c'.maxWindow = c.maxWindow)
  (hPending : c'.ackToSend = true → c'.ackInFlight = true) :
  Acked role window (receivedOn role c.wire).length c' := by
  have hReceived : receivedOn role c'.wire = receivedOn role c.wire := by
    rw [hWire, receivedOn_concat]
    exact List.append_nil _
  obtain ⟨hSound, hWithin⟩ := acks_sent seq fragment hAcked.sound
    hAcked.acksWithin (hAcked.last hLess) hLess
  refine ⟨?_, ?_, ?_, ?_, ?_, ?_, ?_, ?_, ?_, ?_⟩
  · rw [hReceived]
  · rw [hReceived]
    exact hAcked.numbers
  · rw [hReceived, hNext]
    exact hAcked.next
  · rw [hOldest]
    exact hAcked.next
  · rw [hReceived]
    exact fun h => absurd h (Nat.lt_irrefl _)
  · rw [hWire]
    exact hSound
  · rw [hWire]
    exact hWithin
  · intro hAsked hNone
    rw [hPending hAsked] at hNone
    cases hNone
  · rw [hLocal, hNext, hOldest, UInt8.sub_self, UInt8.sub_zero]
    exact hAcked.max
  · exact hMax.trans hAcked.max

theorem Acked.sentPlain {seq : UInt8} (hNext : c'.engine.mRxNextSeqNum = c.engine.mRxNextSeqNum)
  (hOldest : c'.engine.mRxOldestUnackedSeqNum = c.engine.mRxOldestUnackedSeqNum)
  (hNewest : c'.engine.mRxNewestUnackedSeqNum = c.engine.mRxNewestUnackedSeqNum)
  (hWire : c'.wire = c.wire ++ [.sent seq none fragment]) (hLocal : c'.localWindow = c.localWindow)
  (hMax : c'.maxWindow = c.maxWindow) (hPending : c'.ackToSend = false) :
  Acked role window acked c' := by
  have hReceived : receivedOn role c'.wire = receivedOn role c.wire := by
    rw [hWire, receivedOn_concat]
    exact List.append_nil _
  have hOther : ∀ seq' ack fragment', Wire.sent seq none fragment ≠ .sent seq' (some ack) fragment' := by
    intro seq' ack fragment' hEq
    injection hEq with _ hAck _
    cases hAck
  obtain ⟨hSound, hWithin⟩ := acks_other _ hAcked.sound hAcked.acksWithin hOther
  refine ⟨?_, ?_, ?_, ?_, ?_, ?_, ?_, ?_, ?_, ?_⟩
  · rw [hReceived]
    exact hAcked.within
  · rw [hReceived]
    exact hAcked.numbers
  · rw [hReceived, hNext]
    exact hAcked.next
  · rw [hOldest]
    exact hAcked.oldest
  · rw [hReceived, hNewest]
    exact hAcked.newest
  · rw [hWire]
    exact hSound
  · rw [hWire]
    exact hWithin
  · intro hAsked
    rw [hPending] at hAsked
    cases hAsked
  · rw [hLocal, hNext, hOldest]
    exact hAcked.localWindow
  · exact hMax.trans hAcked.max

theorem Acked.received {allocSize : Nat} {ack : Option UInt8} {engine : BtpEngine}
  (hAccepted : c.engine.handleCharacteristicReceived allocSize fragment = (ack, .ok (), engine)) :
  Acked role window acked (c.withReceived engine ack fragment) := by
  obtain ⟨hSeq, hCounts⟩ := received_counters hAccepted
  have hReceived : receivedOn role (c.wire ++ [.received fragment]) =
      receivedOn role c.wire ++ [c.engine.mRxNextSeqNum] := by
    rw [receivedOn_concat, receivedSeq, hSeq]
    rfl
  have hLength : (receivedOn role (c.wire ++ [.received fragment])).length =
      (receivedOn role c.wire).length + 1 := by
    rw [hReceived]
    exact List.length_append
  have hWithin := hAcked.within
  have hSucc : UInt8.ofNat ((receivedOn role c.wire).length + 1) =
      UInt8.ofNat (receivedOn role c.wire).length + 1 := UInt8.ofNat_add ..
  obtain ⟨hSound, hAcksWithin⟩ := acks_other (.received fragment) hAcked.sound
    hAcked.acksWithin (fun _ _ _ hEq => by cases hEq)
  refine ⟨?_, ?_, ?_, ?_, ?_, hSound, hAcksWithin, ?_, ?_, hAcked.max⟩
  · change acked ≤ (receivedOn role (c.wire ++ [.received fragment])).length
    omega
  · change receivedOn role (c.wire ++ [.received fragment]) =
      cyclicSequence 0 (receivedOn role (c.wire ++ [.received fragment])).length
    rw [hLength, ← CyclicSequence.concat, ← hAcked.numbers, hReceived, hAcked.next, UInt8.zero_add]
  · change engine.mRxNextSeqNum =
      UInt8.ofNat (receivedOn role (c.wire ++ [.received fragment])).length
    rw [hLength, hSucc, hCounts.next, hAcked.next]
  · exact hCounts.oldest.trans hAcked.oldest
  · intro _
    change engine.mRxNewestUnackedSeqNum =
      UInt8.ofNat ((receivedOn role (c.wire ++ [.received fragment])).length - 1)
    rw [hLength, Nat.add_sub_cancel, hCounts.newest, hAcked.next]
  · intro _ _
    change acked < (receivedOn role (c.wire ++ [.received fragment])).length
    omega
  · change c.localWindow - 1 = window - (engine.mRxNextSeqNum - engine.mRxOldestUnackedSeqNum)
    rw [hCounts.next, hCounts.oldest, hAcked.localWindow, ← UInt8.toNat_inj]
    have hNextLess := c.engine.mRxNextSeqNum.toNat_lt
    have hOldestLess := c.engine.mRxOldestUnackedSeqNum.toNat_lt
    have hWindowLess := window.toNat_lt
    simp only [CyclicSequence.toNat_sub, UInt8.toNat_add, UInt8.toNat_one]
    omega

end

/-- Asking for an acknowledgement when there is something to acknowledge. -/
def hasUnacked (engine : BtpEngine) : Prop := engine.hasUnackedData = true

theorem InFlight.free (hFlight : InFlight c) (hFree : c.operationInFlight = false) :
  c.handshakeConfirmed = true ∧ c.subscribing = false := by
  constructor
  · cases hHandshake : c.handshakeConfirmed with
    | true => rfl
    | false => exact absurd (hFlight.handshake hHandshake).1 (by simp [hFree])
  · cases hSubscribing : c.subscribing with
    | false => rfl
    | true => exact absurd (hFlight.subscription hSubscribing) (by simp [hFree])

def Orderly (role : BleRole) (window : UInt8) (c : EndPointCore) : Prop :=
  (∃ acked, Acked role window acked c) ∧ InFlight c

theorem orderly_move (hOrderly : Orderly role window c) (hMove : Move hasUnacked c c') :
  Orderly role window c' := by
  obtain ⟨⟨acked, hAcked⟩, hFlight⟩ := hOrderly
  cases hMove with
  | takeTx _ =>
    exact ⟨⟨acked, hAcked.congr rfl rfl rfl rfl rfl rfl hAcked.pending⟩,
      ⟨hFlight.ack, hFlight.handshake, hFlight.subscription, hFlight.unsubscribing⟩⟩
  | takeRx =>
    exact ⟨⟨acked, hAcked.congr rfl rfl rfl rfl rfl rfl hAcked.pending⟩,
      ⟨hFlight.ack, hFlight.handshake, hFlight.subscription, hFlight.unsubscribing⟩⟩
  | ask hDue =>
    have hLess := hAcked.less hDue
    exact ⟨⟨acked, hAcked.congr rfl rfl rfl rfl rfl rfl fun _ _ => hLess⟩,
      ⟨hFlight.ack, hFlight.handshake, hFlight.subscription, hFlight.unsubscribing⟩⟩
  | fragment data sentAck engine hMade hNoAck hRoom hFree =>
    obtain ⟨hSession, hUnacked⟩ := session_send hMade
    obtain ⟨hConfirmed, hNotSubscribing⟩ := hFlight.free hFree
    have hFlight' : InFlight (c.withFragment sentAck engine) :=
      ⟨fun _ => ⟨rfl, hNotSubscribing⟩, fun h => absurd h (by simp [withFragment, hConfirmed]),
        fun _ => rfl, hFlight.unsubscribing⟩
    refine ⟨?_, hFlight'⟩
    cases sentAck with
    | true =>
      refine ⟨_, hAcked.sentAck (hAcked.less (hUnacked rfl))
        (congrArg mRxNextSeqNum hSession :)
        (congrArg mRxOldestUnackedSeqNum hSession :) rfl rfl rfl ?_⟩
      intro hAsked
      exact absurd hAsked (by simp [withFragment, hNoAck])
    | false =>
      exact ⟨acked, hAcked.sentPlain (congrArg mRxNextSeqNum hSession :)
        (congrArg mRxOldestUnackedSeqNum hSession :)
        (congrArg mRxNewestUnackedSeqNum hSession :) rfl rfl rfl hNoAck⟩
  | standAloneAck hPending hRoom hFree =>
    have hNone : c.ackInFlight = false := by
      cases hInFlight : c.ackInFlight with
      | false => rfl
      | true => exact absurd (hFlight.ack hInFlight).1 (by simp [hFree])
    obtain ⟨hConfirmed, hNotSubscribing⟩ := hFlight.free hFree
    refine ⟨⟨_, hAcked.sentAck (hAcked.pending hPending hNone) rfl rfl rfl rfl rfl fun _ => rfl⟩, ?_⟩
    exact ⟨fun _ => ⟨rfl, hNotSubscribing⟩,
      fun h => absurd h (by simp [withStandAloneAck, hConfirmed]), fun _ => rfl,
      hFlight.unsubscribing⟩
  | close freed operationInFlight hIdle hKept =>
    refine ⟨⟨acked, ?_⟩, ?_⟩
    · cases freed with
      | true => exact hAcked.congr rfl rfl rfl rfl rfl rfl fun h => Bool.noConfusion h
      | false => exact hAcked.congr rfl rfl rfl rfl rfl rfl hAcked.pending
    · exact ⟨fun h => ⟨hKept (hFlight.ack h).1, (hFlight.ack h).2⟩,
        fun h => ⟨hKept (hFlight.handshake h).1, (hFlight.handshake h).2⟩,
        fun h => hKept (hFlight.subscription h), fun _ => rfl⟩

theorem orderly_moves (hOrderly : Orderly role window c) (hMoves : Moves hasUnacked c c') :
  Orderly role window c' := by
  induction hMoves with
  | refl => exact hOrderly
  | tail _ hMove ih => exact orderly_move ih hMove

namespace BLEEndPoint

variable {e : BLEEndPoint} {p : BlePlatform} {event : Event}

/-- A confirmation is one of the operation that is in flight. -/
def confirms (subscribing : Bool) : Event → Bool
  | .gattSendConfirmation => !subscribing
  | .subscribeComplete => subscribing
  | _ => true

/-- The send-ack timer does not expire when there is nothing to acknowledge. -/
def Timely (e : BLEEndPoint) (event : Event) : Prop :=
  confirms e.subscribing event = true ∧
    (event = .sendAckTimeout → e.sendAckTimerRunning = true → e.standAloneAckInFlight = false →
      e.mBtpEngine.hasUnackedData = true)

theorem orderly_begins {begun : EndPointCore} (hOrderly : Orderly role window c)
  (hConfirms : confirms c.subscribing event = true) (hBegins : Begins event c begun) :
  Orderly role window begun := by
  obtain ⟨⟨acked, hAcked⟩, hFlight⟩ := hOrderly
  cases hBegins with
  | same _ _ _ => exact ⟨⟨acked, hAcked⟩, hFlight⟩
  | fragmentConfirmed _ hConfirmed =>
    have hNotSubscribing : c.subscribing = false := by simpa [confirms] using hConfirms
    refine ⟨⟨acked, hAcked.congr rfl rfl rfl rfl rfl rfl ?_⟩, ?_⟩
    · intro hAsked _
      obtain ⟨hAsked, hNone⟩ := Bool.and_eq_true_iff.mp hAsked
      exact hAcked.pending hAsked (by simpa using hNone)
    · exact ⟨fun h => Bool.noConfusion h, fun h => absurd h (by simp [fragmentConfirmed, hConfirmed]),
        fun h => absurd h (by simp [fragmentConfirmed, hNotSubscribing]), hFlight.unsubscribing⟩
  | handshakeConfirmed _ hUnconfirmed =>
    obtain ⟨-, hNone, hNotSubscribing⟩ := hFlight.handshake hUnconfirmed
    refine ⟨⟨acked, hAcked.congr rfl rfl rfl rfl rfl rfl hAcked.pending⟩, ?_⟩
    exact ⟨fun h => absurd h (by simp [withHandshakeConfirmed, hNone]),
      fun h => Bool.noConfusion h,
      fun h => absurd h (by simp [withHandshakeConfirmed, hNotSubscribing]),
      hFlight.unsubscribing⟩
  | subscribes _ hUnconfirmed =>
    obtain ⟨-, hNone, -⟩ := hFlight.handshake hUnconfirmed
    refine ⟨⟨acked, hAcked.congr rfl rfl rfl rfl rfl rfl hAcked.pending⟩, ?_⟩
    exact ⟨fun h => absurd h (by simp [withSubscription, hNone]), fun h => Bool.noConfusion h,
      fun _ => rfl, hFlight.unsubscribing⟩
  | subscribed =>
    -- The operation in flight is the subscription, so that no acknowledgement is.
    have hSubscribing : c.subscribing = true := hConfirms
    refine ⟨⟨acked, hAcked.congr rfl rfl rfl rfl rfl rfl hAcked.pending⟩, ?_⟩
    exact ⟨fun h => absurd (hFlight.ack h).2 (by simp [hSubscribing]),
      fun h => absurd (hFlight.handshake h).2.2 (by simp [hSubscribing]),
      fun h => Bool.noConfusion h, hFlight.unsubscribing⟩
  | received _ allocSize fragment ack engine hAccepted =>
    exact ⟨⟨acked, hAcked.received hAccepted⟩,
      ⟨hFlight.ack, hFlight.handshake, hFlight.subscription, hFlight.unsubscribing⟩⟩

theorem open_of_orderly (hOrderly : Orderly role window e.core) (hOpen : e.mState ≠ .closed) :
  e.unsubscribeTimerRunning = false := by
  rw [← Bool.not_eq_true]
  intro hUnsubscribing
  have hClosed : e.core.closed = true := hOrderly.2.unsubscribing hUnsubscribing
  exact hOpen (by simpa [core] using hClosed)

theorem hasUnacked_of_immediate (hWindow : 2 ≤ window.toNat) (hOrderly : Orderly role window e.core)
  (hImmediate : e.mLocalReceiveWindowSize ≤ immediateAckWindowThreshold) :
  hasUnacked e.mBtpEngine := by
  obtain ⟨⟨acked, hAcked⟩, -⟩ := hOrderly
  have hLocal : e.mLocalReceiveWindowSize =
      window - (e.mBtpEngine.mRxNextSeqNum - e.mBtpEngine.mRxOldestUnackedSeqNum) :=
    hAcked.localWindow
  rw [hasUnacked, hasUnackedData, decide_eq_true_eq]
  intro hEqual
  rw [hLocal, hEqual, UInt8.sub_self, UInt8.sub_zero, UInt8.le_iff_toNat_le] at hImmediate
  change window.toNat ≤ 1 at hImmediate
  omega

theorem orderly_step (hWindow : 2 ≤ window.toNat) (p : BlePlatform) (event : Event)
  (hOrderly : Orderly role window e.core) (hOpen : e.mState ≠ .closed)
  (hTimely : e.Timely event) :
  StepsTo hasUnacked e event (e.step p event) :=
  stepsTo_step event (open_of_orderly hOrderly hOpen) (fun _ hUnacked => hUnacked)
    (hasUnacked_of_immediate hWindow hOrderly) hTimely.2

theorem orderly_central (fragmentSize : Nat) (subscribing : Bool) :
  Orderly .central window (connectedCentral window fragmentSize subscribing).core := by
  refine ⟨⟨0, ?_⟩, ?_⟩
  · exact {
      within := Nat.zero_le _
      numbers := rfl
      next := rfl
      oldest := rfl
      newest := fun _ => rfl
      sound := acksSound_nil
      acksWithin := acksWithin_nil
      pending := fun h => Bool.noConfusion h
      localWindow := by
        change window - 1 = window - (1 - 0)
        rw [UInt8.sub_zero]
      max := rfl }
  · exact ⟨fun h => Bool.noConfusion h, fun h => Bool.noConfusion h, fun h => h,
      fun h => Bool.noConfusion h⟩

theorem orderly_peripheral (fragmentSize : Nat) (response : PacketBuffer) :
  Orderly .peripheral window (connectedPeripheral window fragmentSize response).core := by
  refine ⟨⟨0, ?_⟩, ?_⟩
  · exact {
      within := Nat.zero_le _
      numbers := rfl
      next := rfl
      oldest := rfl
      newest := fun h => absurd h (Nat.lt_irrefl 0)
      sound := acksSound_nil
      acksWithin := acksWithin_nil
      pending := fun h => Bool.noConfusion h
      localWindow := by
        change window = window - (0 - 0)
        rw [UInt8.sub_self, UInt8.sub_zero]
      max := rfl }
  · exact ⟨fun h => Bool.noConfusion h, fun _ => ⟨rfl, rfl, rfl⟩, fun h => Bool.noConfusion h,
      fun h => Bool.noConfusion h⟩

theorem orderly_reachable (hWindow : 2 ≤ window.toNat) (hReachable : Reachable window Timely role e) :
  ∃ c, Orderly role window c ∧ e.wire = c.wire ∧ (e.mState = .closed ∨ e.core = c) := by
  induction hReachable with
  | central fragmentSize subscribing =>
    exact ⟨_, orderly_central fragmentSize subscribing, rfl, .inr rfl⟩
  | peripheral fragmentSize response =>
    exact ⟨_, orderly_peripheral fragmentSize response, rfl, .inr rfl⟩
  | @step role e p event hReachable hOpen hTimely ih =>
    obtain ⟨c, hOrderly, hWire, hWhich⟩ := ih
    have hCore := hWhich.resolve_left hOpen
    rw [← hCore] at hOrderly
    rcases orderly_step hWindow p event hOrderly hOpen hTimely with
      ⟨hSame, hClosed⟩ | ⟨begun, hBegins, c', hMoves, hWire', hAfter⟩
    · exact ⟨e.core, hOrderly, hSame, .inl hClosed⟩
    · exact ⟨c', orderly_moves (orderly_begins hOrderly hTimely.1 hBegins) hMoves, hWire', hAfter⟩

end BLEEndPoint

end Chip.Ble
