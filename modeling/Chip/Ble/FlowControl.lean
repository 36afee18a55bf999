import Chip.Ble.AckTracking
import Chip.Ble.EndPointMoves

/-! The remote receive window against the fragments that are outstanding. `AdjustRemoteReceiveWindow`
adds 255 and not 256 when the sequence numbers have wrapped, so that the window is one too large
after such an acknowledgement. -/
namespace Chip.Ble

open CyclicSequence TrackedEngine BtpEngine EndPointCore

namespace BLEEndPoint

/-- The runs of a role from the end of the handshake with a window, as long as every event meets a
condition in the state before it. A closed end point is freed or only waits to be freed. -/
inductive Reachable (window : UInt8) (meets : BLEEndPoint → Event → Prop) :
    BleRole → BLEEndPoint → Prop
  | central (fragmentSize : Nat) (subscribing : Bool) :
      Reachable window meets .central (connectedCentral window fragmentSize subscribing)
  | peripheral (fragmentSize : Nat) (response : System.PacketBuffer) :
      Reachable window meets .peripheral (connectedPeripheral window fragmentSize response)
  | step {role : BleRole} {e : BLEEndPoint} (p : BlePlatform) (event : Event)
      (reachable : Reachable window meets role e) (isOpen : e.mState ≠ .closed)
      (met : meets e event) : Reachable window meets role (e.step p event)

end BLEEndPoint

/-- The outstanding fragments after one more is sent or received. -/
def noteOutstanding (outstanding : List UInt8) : Wire → List UInt8
  | .sent seq _ _ => outstanding ++ [seq]
  | .received fragment =>
    (BtpEngine.ackOf fragment).elim outstanding (acknowledge outstanding)

/-- The numbers of the fragments that have been sent and are not acknowledged. The handshake
response of the peripheral is one. -/
def outstandingOn (role : BleRole) (wire : List Wire) : List UInt8 :=
  wire.foldl noteOutstanding (if role = .peripheral then [0] else [])

theorem outstandingOn_concat (role : BleRole) (wire : List Wire) (entry : Wire) :
  outstandingOn role (wire ++ [entry]) = noteOutstanding (outstandingOn role wire) entry := by
  simp [outstandingOn]

open BLEEndPoint (adjustRemoteReceiveWindow)

theorem adjust_wrapped {ackNum window newest : UInt8} (hBoundary : 255 < ackNum.toNat + window.toNat)
  (hWrapped : newest < ackNum) :
  (adjustRemoteReceiveWindow ackNum window newest).toNat =
    (ackNum.toNat + window.toNat + 257 - newest.toNat) % 256 := by
  have hNewest := newest.toNat_lt
  have hInt : (ackNum.toNat : Int) + window.toNat > 255 := by omega
  simp only [adjustRemoteReceiveWindow, hWrapped, hInt, decide_true, Bool.and_self, if_true,
    UInt8.ofInt, UInt8.toNat_ofNat']
  omega

theorem adjust_straight {ackNum window newest : UInt8}
  (hStraight : ¬ (255 < ackNum.toNat + window.toNat ∧ newest < ackNum)) :
  (adjustRemoteReceiveWindow ackNum window newest).toNat =
    (ackNum.toNat + window.toNat + 256 - newest.toNat) % 256 := by
  have hNewest := newest.toNat_lt
  have hNot : (decide ((ackNum.toNat : Int) + window.toNat > 255) &&
      decide (newest < ackNum)) = false := by
    rw [← Bool.not_eq_true, Bool.and_eq_true, decide_eq_true_eq, decide_eq_true_eq]
    intro hBoth
    exact hStraight ⟨by omega, hBoth.2⟩
  simp only [adjustRemoteReceiveWindow, hNot, Bool.false_eq_true, if_false, UInt8.ofInt,
    UInt8.toNat_ofNat']
  omega

theorem adjustRemoteReceiveWindow_toNat (ackNum window newest : UInt8)
  (hLess : (newest - ackNum).toNat ≤ window.toNat) :
  (adjustRemoteReceiveWindow ackNum window newest).toNat + (newest - ackNum).toNat =
    window.toNat + if newest < ackNum then 1 else 0 := by
  have hAck := ackNum.toNat_lt
  have hWindow := window.toNat_lt
  have hNewest := newest.toNat_lt
  rw [toNat_sub] at hLess ⊢
  by_cases hWrapped : newest < ackNum
  · rw [if_pos hWrapped]
    have hLt := UInt8.lt_iff_toNat_lt.mp hWrapped
    rw [adjust_wrapped (by omega) hWrapped]
    omega
  · rw [if_neg hWrapped, adjust_straight fun hBoth => hWrapped hBoth.2]
    rw [UInt8.lt_iff_toNat_lt] at hWrapped
    omega

namespace BtpEngine

variable {e engine : BtpEngine} {allocSize : Nat} {fragment : List UInt8} {ack : Option UInt8}

theorem received_ack
  (hAccepted : e.handleCharacteristicReceived allocSize fragment = (ack, .ok (), engine)) :
  ack = ackOf fragment ∧ ∀ ackNum, ack = some ackNum → ∃ acked,
    e.handleAckReceived ackNum = .ok acked := by
  cases fragment with
  | nil => cases hAccepted
  | cons flags rest =>
    rw [handleCharacteristicReceived.eq_def] at hAccepted
    cases rest with
    | nil =>
      dsimp only at hAccepted
      split at hAccepted
      · cases hAccepted
      · cases hAccepted
    | cons ackNum rest =>
      dsimp only at hAccepted
      split at hAccepted
      · rename_i hFlag
        cases hHandle : e.handleAckReceived ackNum with
        | error err =>
          rw [hHandle] at hAccepted
          cases hAccepted
        | ok acked =>
          rw [hHandle] at hAccepted
          have hAck : ack = some ackNum := (congrArg Prod.fst hAccepted).symm
          refine ⟨by rw [hAck, ackOf, if_pos hFlag], ?_⟩
          intro num hNum
          rw [hAck] at hNum
          cases hNum
          exact ⟨acked, hHandle⟩
      · rename_i hFlag
        have hAck : ack = none := (congrArg Prod.fst hAccepted).symm
        refine ⟨by rw [hAck, ackOf, if_neg hFlag], ?_⟩
        intro num hNum
        rw [hAck] at hNum
        cases hNum

theorem acknowledged_newest (e : BtpEngine) (ack : Option UInt8) :
  (e.acknowledged ack).mTxNewestUnackedSeqNum = e.mTxNewestUnackedSeqNum := by
  cases ack with
  | none => rfl
  | some ackNum =>
    change ((e.handleAckReceived ackNum).toOption.getD e).mTxNewestUnackedSeqNum = _
    unfold handleAckReceived
    split
    · rfl
    · split
      · rfl
      · rfl

theorem received_newest (allocSize : Nat) (fragment : List UInt8) :
  (e.handleCharacteristicReceived allocSize fragment).2.2.mTxNewestUnackedSeqNum =
    e.mTxNewestUnackedSeqNum :=
  (congrArg TxCounters.newest (txCounters_received allocSize fragment)).trans
    (acknowledged_newest e _)

end BtpEngine

/-- The window and the outstanding fragments add up to the negotiated window, or to more. -/
structure Flow (role : BleRole) (window : UInt8) (excess : Nat) (c : EndPointCore) : Prop where
  tracks : TrackedEngine.Tracks ⟨c.engine, outstandingOn role c.wire⟩
  sum : c.remoteWindow.toNat + (outstandingOn role c.wire).length = window.toNat + excess
  max : c.maxWindow = window
  unsubscribing : c.unsubscribing = true → c.closed = true

variable {role : BleRole} {window : UInt8} {excess : Nat} {c c' : EndPointCore}
  {asks : BtpEngine → Prop}

section

variable (hFlow : Flow role window excess c)
include hFlow

theorem Flow.congr (hCounters : c'.engine.txCounters = c.engine.txCounters)
  (hWire : c'.wire = c.wire) (hRemote : c'.remoteWindow = c.remoteWindow)
  (hMax : c'.maxWindow = c.maxWindow)
  (hUnsubscribing : c'.unsubscribing = true → c'.closed = true) : Flow role window excess c' where
  tracks := by
    rw [hWire]
    exact tracks_same hFlow.tracks hCounters
  sum := by
    rw [hRemote, hWire]
    exact hFlow.sum
  max := hMax.trans hFlow.max
  unsubscribing := hUnsubscribing

theorem Flow.sent {ack : Option UInt8} {fragment : List UInt8}
  (hCounters : c'.engine.txCounters = c.engine.incrementNextTxSeqNum.txCounters)
  (hRoom : c.remoteWindow ≠ 0)
  (hWire : c'.wire = c.wire ++ [.sent c.engine.mTxNextSeqNum ack fragment])
  (hRemote : c'.remoteWindow = c.remoteWindow - 1) (hMax : c'.maxWindow = c.maxWindow)
  (hUnsubscribing : c'.unsubscribing = true → c'.closed = true) :
  Flow role window excess c' where
  tracks := by
    rw [hWire, outstandingOn_concat]
    exact tracks_sent hFlow.tracks hCounters
  sum := by
    have hSum := hFlow.sum
    have hPositive : 0 < c.remoteWindow.toNat :=
      Nat.pos_of_ne_zero fun hZero => hRoom (UInt8.toNat_inj.mp hZero)
    have hOne : (c.remoteWindow - 1).toNat = c.remoteWindow.toNat - 1 := by
      have hLess := c.remoteWindow.toNat_lt
      rw [toNat_sub, UInt8.toNat_one]
      omega
    rw [hRemote, hWire, outstandingOn_concat, hOne]
    simp only [noteOutstanding, List.length_append, List.length_singleton]
    omega
  max := hMax.trans hFlow.max
  unsubscribing := hUnsubscribing

theorem flow_move (hMove : Move asks c c') : Flow role window excess c' := by
  cases hMove with
  | takeTx _ => exact hFlow.congr rfl rfl rfl rfl hFlow.unsubscribing
  | takeRx => exact hFlow.congr rfl rfl rfl rfl hFlow.unsubscribing
  | ask _ => exact hFlow.congr rfl rfl rfl rfl hFlow.unsubscribing
  | fragment data sentAck engine hMade _ hRoom _ =>
    have hCounted := counted_send (e := c.engine) data sentAck
    unfold BtpEngine.Counted at hCounted
    rw [hMade] at hCounted
    exact hFlow.sent hCounted hRoom rfl rfl rfl hFlow.unsubscribing
  | standAloneAck _ hRoom _ =>
    exact hFlow.sent rfl hRoom rfl rfl rfl hFlow.unsubscribing
  | close freed operationInFlight _ _ =>
    refine hFlow.congr ?_ rfl rfl rfl fun _ => rfl
    cases freed with
    | true => rfl
    | false => rfl

end

theorem acknowledge_length {engine acked : BtpEngine} {outstanding : List UInt8} {ackNum : UInt8}
  (hTracks : TrackedEngine.Tracks ⟨engine, outstanding⟩) (hFew : outstanding.length ≤ 256)
  (hHandled : engine.handleAckReceived ackNum = .ok acked) :
  (acknowledge outstanding ackNum).length =
      (engine.mTxNewestUnackedSeqNum - ackNum).toNat ∧
    (acknowledge outstanding ackNum).length < outstanding.length := by
  obtain ⟨first, hNumbers, hStands⟩ := hTracks
  have hNumbers' : outstanding = cyclicSequence first outstanding.length := hNumbers
  have hMem := (isValidAck_iff hStands hFew).mp
    (handleAckReceived_ok_iff.mp ⟨acked, hHandled⟩)
  have hDistance : (ackNum - first).toNat < outstanding.length :=
    (mem_iff hFew).mp hMem
  have hLength : (acknowledge outstanding ackNum).length =
      outstanding.length - (ackNum - first).toNat - 1 := by
    have hSplit := hNumbers'.trans (split hDistance)
    have hNew := notMem_before (show (ackNum - first).toNat < 256 by omega)
    conv_lhs => rw [hSplit, acknowledge_split hNew, length]
  have hNewest : engine.mTxNewestUnackedSeqNum = first + UInt8.ofNat (outstanding.length - 1) :=
    hStands.newest (show 0 < outstanding.length by omega)
  have hFirst := first.toNat_lt
  have hAck := ackNum.toNat_lt
  refine ⟨?_, by omega⟩
  rw [hLength, hNewest]
  rw [toNat_sub] at hDistance
  rw [toNat_sub, toNat_sub, UInt8.toNat_add, UInt8.toNat_ofNat']
  omega

theorem flow_received {allocSize : Nat} {fragment : List UInt8} {ack : Option UInt8}
  {engine : BtpEngine} (hFlow : Flow role window excess c) (hExcess : excess ≤ 1)
  (hAccepted : c.engine.handleCharacteristicReceived allocSize fragment = (ack, .ok (), engine)) :
  Flow role window
    (ack.elim excess fun ackNum => if c.engine.mTxNewestUnackedSeqNum < ackNum then 1 else 0)
    (c.withReceived engine ack fragment) := by
  have hWindow := window.toNat_lt
  have hSum := hFlow.sum
  have hFew : (outstandingOn role c.wire).length ≤ 256 := by omega
  have hEngine : (c.engine.handleCharacteristicReceived allocSize fragment).2.2 = engine := by
    rw [hAccepted]
  have hOutstanding : outstandingOn role (c.wire ++ [.received fragment]) =
      (ackOf fragment).elim (outstandingOn role c.wire)
        (acknowledge (outstandingOn role c.wire)) := outstandingOn_concat ..
  have hTracks := tracks_received hFlow.tracks hFew allocSize fragment
  rw [step, hEngine] at hTracks
  obtain ⟨hAck, hValid⟩ := received_ack hAccepted
  refine ⟨?_, ?_, hFlow.max, hFlow.unsubscribing⟩
  · change TrackedEngine.Tracks ⟨engine, outstandingOn role (c.wire ++ [.received fragment])⟩
    rw [hOutstanding]
    exact hTracks
  · change (c.withReceived engine ack fragment).remoteWindow.toNat +
      (outstandingOn role (c.wire ++ [.received fragment])).length = _
    rw [hOutstanding, ← hAck]
    cases ack with
    | none => exact hSum
    | some ackNum =>
      obtain ⟨acked, hHandled⟩ := hValid ackNum rfl
      obtain ⟨hLeft, hLess⟩ := acknowledge_length hFlow.tracks hFew hHandled
      have hNewest : engine.mTxNewestUnackedSeqNum = c.engine.mTxNewestUnackedSeqNum := by
        rw [← hEngine]
        exact received_newest allocSize fragment
      change (adjustRemoteReceiveWindow ackNum c.maxWindow engine.mTxNewestUnackedSeqNum).toNat +
        (acknowledge (outstandingOn role c.wire) ackNum).length = _
      rw [hLeft, hFlow.max, hNewest]
      exact adjustRemoteReceiveWindow_toNat ackNum window _ (by omega)

namespace BLEEndPoint

variable {e : BLEEndPoint} {p : BlePlatform} {event : Event}

theorem flow_begins {begun : EndPointCore} (hFlow : Flow role window excess c) (hExcess : excess ≤ 1)
  (hBegins : Begins event c begun) :
  ∃ excess', excess' ≤ 1 ∧ Flow role window excess' begun ∧
    ((event.isReceive = false ∧ excess' = excess) ∨
      ∃ allocSize fragment ack engine, event = .receive allocSize fragment ∧
        c.engine.handleCharacteristicReceived allocSize fragment = (ack, .ok (), engine) ∧
        excess' = ack.elim excess fun ackNum =>
          if c.engine.mTxNewestUnackedSeqNum < ackNum then 1 else 0) := by
  cases hBegins with
  | same _ _ hOther => exact ⟨excess, hExcess, hFlow, .inl ⟨hOther, rfl⟩⟩
  | fragmentConfirmed _ =>
    exact ⟨excess, hExcess, hFlow.congr rfl rfl rfl rfl hFlow.unsubscribing, .inl ⟨rfl, rfl⟩⟩
  | handshakeConfirmed _ =>
    exact ⟨excess, hExcess, hFlow.congr rfl rfl rfl rfl hFlow.unsubscribing, .inl ⟨rfl, rfl⟩⟩
  | subscribes _ =>
    exact ⟨excess, hExcess, hFlow.congr rfl rfl rfl rfl hFlow.unsubscribing, .inl ⟨rfl, rfl⟩⟩
  | subscribed =>
    exact ⟨excess, hExcess, hFlow.congr rfl rfl rfl rfl hFlow.unsubscribing, .inl ⟨rfl, rfl⟩⟩
  | received _ allocSize fragment ack engine hAccepted =>
    refine ⟨_, ?_, flow_received hFlow hExcess hAccepted,
      .inr ⟨allocSize, fragment, ack, engine, rfl, hAccepted, rfl⟩⟩
    cases ack with
    | none => exact hExcess
    | some ackNum =>
      change (if _ then 1 else 0) ≤ 1
      split
      · exact Nat.le_refl 1
      · exact Nat.zero_le 1

theorem flow_central (window : UInt8) (fragmentSize : Nat) (subscribing : Bool) :
  Flow .central window 0 (connectedCentral window fragmentSize subscribing).core :=
  ⟨tracks_same (tracks_init false) rfl, rfl, rfl,
    fun h => Bool.noConfusion h⟩

theorem flow_peripheral (hWindow : 2 ≤ window.toNat) (fragmentSize : Nat)
  (response : System.PacketBuffer) :
  Flow .peripheral window 0 (connectedPeripheral window fragmentSize response).core := by
  refine ⟨tracks_same (tracks_init true) rfl, ?_, rfl,
    fun h => Bool.noConfusion h⟩
  have hLess := window.toNat_lt
  have hOne : (window - 1).toNat = window.toNat - 1 := by
    rw [toNat_sub, UInt8.toNat_one]
    omega
  change (window - 1).toNat + 1 = window.toNat + 0
  omega

def willing : BlePlatform := ⟨true, true, true, true, true, true, true⟩

def oneByte : System.PacketBuffer where
  memory := [0, 0, 0, 0, 0, 7]
  payload := 5
  len := 1
  fits := by decide

end BLEEndPoint

end Chip.Ble
