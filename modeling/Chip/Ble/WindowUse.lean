import Chip.Ble.AckTracking
import Chip.Ble.EndPointMoves
import Chip.Ble.Handshake

/-! What an end point takes from its receive windows. The remote window is only used while it is open.
The local window is used by the peer, and nothing makes sure that it is open. -/
namespace Chip.Ble

open Proc

open Chip.System (PacketBuffer)
open EndPointCore

namespace BLEEndPoint

/-- A call sends nothing, or one fragment while the peer has room. -/
inductive Spent (e after : BLEEndPoint) : Prop
  | nothing (wire : after.wire = e.wire)
      (remote : after.mRemoteReceiveWindowSize = e.mRemoteReceiveWindowSize)
      (busy : e.gattOperationInFlight = true → after.gattOperationInFlight = true)
  | fragment (room : e.mRemoteReceiveWindowSize ≠ 0) (free : e.gattOperationInFlight = false)
      (seq : UInt8) (ack : Option UInt8) (fragment : List UInt8)
      (wire : after.wire = e.wire ++ [.sent seq ack fragment])
      (remote : after.mRemoteReceiveWindowSize = e.mRemoteReceiveWindowSize - 1)
      (busy : after.gattOperationInFlight = true)

theorem Spent.refl (e : BLEEndPoint) : Spent e e := .nothing rfl rfl id

theorem Spent.trans {e mid after : BLEEndPoint} (hFirst : Spent e mid) (hSecond : Spent mid after) :
  Spent e after := by
  cases hFirst with
  | nothing hWire hRemote hBusy =>
    cases hSecond with
    | nothing hWire' hRemote' hBusy' =>
      exact .nothing (hWire'.trans hWire) (hRemote'.trans hRemote) fun h => hBusy' (hBusy h)
    | fragment hRoom hFree seq ack fragment hWire' hRemote' hBusy' =>
      have hFree' : e.gattOperationInFlight = false := by
        rw [← Bool.not_eq_true]
        intro hInFlight
        rw [hBusy hInFlight] at hFree
        cases hFree
      exact .fragment (hRemote ▸ hRoom) hFree' seq ack fragment (hWire ▸ hWire')
        (hRemote ▸ hRemote') hBusy'
  | fragment hRoom hFree seq ack fragment hWire hRemote hBusy =>
    cases hSecond with
    | nothing hWire' hRemote' hBusy' =>
      exact .fragment hRoom hFree seq ack fragment (hWire'.trans hWire) (hRemote'.trans hRemote)
        (hBusy' hBusy)
    | fragment _ hFree' =>
      rw [hBusy] at hFree'
      cases hFree'

/-- A call that spends at most one place of the window, whether it succeeds or fails. -/
def Spends {α : Type} (e : BLEEndPoint) (m : Proc BleError BLEEndPoint α) : Prop :=
  Spent e (m e).2

namespace Spends

variable {e : BLEEndPoint} {p : BlePlatform} {α β : Type}

theorem pure (a : α) : Spends e (Pure.pure a) := Spent.refl e

theorem fail (err : BleError) : Spends e (fail err : Proc BleError BLEEndPoint α) :=
  Spent.refl e

theorem quiet {f : BLEEndPoint → BLEEndPoint} (hSpent : Spent e (f e)) :
  Spends e (modify f : Proc BleError BLEEndPoint Unit) := hSpent

theorem bind {m : Proc BleError BLEEndPoint α} {f : α → Proc BleError BLEEndPoint β}
  (hFirst : Spends e m) (hRest : ∀ a after, m e = (.ok a, after) → Spends after (f a)) :
  Spends e (m >>= f) := by
  unfold Spends at hFirst ⊢
  rw [bind_apply]
  cases hm : m e with
  | mk result after =>
    rw [hm] at hFirst
    cases result with
    | error err => exact hFirst
    | ok a => exact hFirst.trans (hRest a after hm)

theorem read_bind {f : BLEEndPoint → Proc BleError BLEEndPoint β} (hRest : Spends e (f e)) :
  Spends e (read >>= f) := hRest

theorem ite {c : Prop} [Decidable c] {m n : Proc BleError BLEEndPoint α}
  (hThen : c → Spends e m) (hElse : ¬ c → Spends e n) : Spends e (if c then m else n) := by
  by_cases hc : c
  · rw [if_pos hc]
    exact hThen hc
  · rw [if_neg hc]
    exact hElse hc

end Spends

variable {e : BLEEndPoint} {p : BlePlatform}

theorem spends_stopSendAckTimer : Spends e stopSendAckTimer := .quiet (.nothing rfl rfl id)

theorem spends_startSendAckTimer : Spends e (startSendAckTimer p) := by
  apply Spends.read_bind
  apply Spends.ite (fun _ => .pure ())
  intro _
  apply Spends.ite (fun _ => .fail _)
  intro _
  exact .quiet (.nothing rfl rfl id)

theorem spends_startAckReceivedTimer : Spends e (startAckReceivedTimer p) := by
  apply Spends.read_bind
  apply Spends.ite (fun _ => .pure ())
  intro _
  apply Spends.ite (fun _ => .fail _)
  intro _
  exact .quiet (.nothing rfl rfl id)

theorem spent_sendCharacteristic (hMay : e.MaySend) (seq : UInt8) (ack : Option UInt8)
  (fragment : List UInt8) : Spends e (sendCharacteristic p seq ack fragment) := by
  unfold Spends
  rcases sendCharacteristic_cases p e seq ack fragment with ⟨err, hRefused⟩ | hTaken
  · rw [hRefused]
    exact .nothing rfl rfl fun _ => rfl
  · rw [hTaken]
    exact .fragment hMay.room hMay.free seq ack fragment rfl rfl rfl

theorem prepareNextFragment_snd (data : Option PacketBuffer) (e : BLEEndPoint) :
  (prepareNextFragment data e).2 = e.fragmentMade e.sendAckTimerRunning
    (e.mBtpEngine.handleCharacteristicSend data e.sendAckTimerRunning).2 := by
  cases hSent : e.mBtpEngine.handleCharacteristicSend data e.sendAckTimerRunning with
  | mk made engine => rw [prepareNextFragment_apply hSent]

theorem spends_sendFragment (data : Option PacketBuffer) (hMay : e.MaySend) :
  Spends e (sendFragment p data) := by
  have hPrepared := prepareNextFragment_snd data e
  apply Spends.read_bind
  apply Spends.bind
  · unfold Spends
    rw [hPrepared]
    exact .nothing rfl rfl id
  · intro sentAck after hAfter
    rw [hAfter] at hPrepared
    change after = _ at hPrepared
    have hMay' : after.MaySend := by
      rw [hPrepared]
      exact ⟨hMay.room, hMay.free⟩
    apply Spends.read_bind
    apply Spends.bind (spent_sendCharacteristic hMay' _ _ _)
    intro _ sent _
    apply Spends.ite
    · intro _
      apply Spends.bind spends_stopSendAckTimer
      intro _ stopped _
      exact spends_startAckReceivedTimer
    · intro _
      exact spends_startAckReceivedTimer

theorem spends_sendNextMessage (hMay : e.MaySend) : Spends e (sendNextMessage p) := by
  apply Spends.read_bind
  apply Spends.bind (.quiet (.nothing rfl rfl id))
  intro _ after hAfter
  cases hAfter
  exact spends_sendFragment _ ⟨hMay.room, hMay.free⟩

theorem spends_doSendStandAloneAck (hMay : e.MaySend) : Spends e (doSendStandAloneAck p) := by
  apply Spends.read_bind
  apply Spends.bind (.quiet (.nothing rfl rfl id))
  intro _ after hAfter
  cases hAfter
  apply Spends.bind
  · apply spent_sendCharacteristic
    exact ⟨hMay.room, hMay.free⟩
  · intro _ sent _
    apply Spends.bind (.quiet (.nothing rfl rfl id))
    intro _ after' _
    exact spends_startAckReceivedTimer

theorem spent_finalizeClose (p : BlePlatform) (e : BLEEndPoint) (lost : Bool) :
  Spent e (e.finalizeClose p lost) := by
  unfold finalizeClose
  dsimp only
  split_ifs
  · exact .nothing rfl rfl id
  · exact .nothing rfl rfl fun _ => rfl
  · exact .nothing rfl rfl fun _ => rfl
  · exact .nothing rfl rfl id

theorem spent_doClose (p : BlePlatform) (e : BLEEndPoint) (abortTransmission lost : Bool) :
  Spent e (e.doClose p abortTransmission lost) := by
  unfold doClose
  split_ifs
  · exact spent_finalizeClose p e lost
  · exact .nothing rfl rfl id
  · exact Spent.refl e

theorem spends_driveSending : Spends e (driveSending p) := by
  apply Spends.read_bind
  apply Spends.ite (fun _ => .pure ())
  intro hCan
  have hMay := maySend_of_not_cannotSend hCan
  apply Spends.ite (fun _ => spends_doSendStandAloneAck hMay)
  intro _
  cases e.mBtpEngine.mTxState with
  | idle => exact Spends.ite (fun _ => .pure ()) fun _ => spends_sendNextMessage hMay
  | inProgress => exact spends_sendFragment none hMay
  | complete =>
    apply Spends.bind (.quiet (.nothing rfl rfl id))
    intro _ after hAfter
    cases hAfter
    apply Spends.ite
    · intro _
      apply spends_sendNextMessage
      exact ⟨hMay.room, hMay.free⟩
    · intro _
      exact Spends.ite (fun _ => spent_finalizeClose p _ false) fun _ => .pure ()
  | error => exact .pure ()

theorem spends_driveStandAloneAck : Spends e (driveStandAloneAck p) := by
  apply Spends.bind spends_stopSendAckTimer
  intro _ after _
  apply Spends.read_bind
  apply Spends.ite (fun _ => .fail _)
  intro _
  apply Spends.bind (.quiet (.nothing rfl rfl id))
  intro _ after' _
  exact spends_driveSending

theorem spends_prepareAck : Spends e (prepareAck p) := by
  apply Spends.read_bind
  apply Spends.ite
  · intro _
    exact Spends.ite (fun _ => spends_driveStandAloneAck) fun _ => spends_startSendAckTimer
  · intro _
    exact .pure ()

theorem spends_takeMessage : Spends e takeMessage := by
  apply Spends.read_bind
  apply Spends.ite
  · intro _
    apply Spends.bind (.quiet (.nothing rfl rfl id))
    intro _ after _
    exact .pure _
  · intro _
    exact .pure _

theorem spends_afterAck (goOn : Bool) : Spends e (afterAck p goOn) := by
  apply Spends.ite
  · intro _
    apply Spends.bind spends_prepareAck
    intro _ after _
    exact spends_takeMessage
  · intro _
    exact .pure _

theorem Spends.orClose {α : Type} {m : Proc BleError BLEEndPoint α} (hSpends : Spends e m) :
  Spent e (e.orClose p m) := by
  unfold Spends at hSpends
  unfold BLEEndPoint.orClose
  cases hm : m e with
  | mk result after =>
    rw [hm] at hSpends
    cases result with
    | ok a => exact hSpends
    | error err => exact hSpends.trans (spent_doClose p after true false)

/-- An acknowledgement opens the window before something is sent. -/
def Begins {α : Type} (e : BLEEndPoint) (m : Proc BleError BLEEndPoint α) : Prop :=
  ∃ begun : BLEEndPoint, begun.wire = e.wire ∧ Spent begun (m e).2

theorem Spends.begins {α : Type} {m : Proc BleError BLEEndPoint α} (hSpends : Spends e m) :
  Begins e m := ⟨e, rfl, hSpends⟩

theorem begins_adjust (receivedAck : UInt8) :
  Begins e (handleReceivedAck.adjust p receivedAck >>= afterAck p) := by
  let adjusted := { e with
    mRemoteReceiveWindowSize := adjustRemoteReceiveWindow receivedAck e.mReceiveWindowMaxSize
      e.mBtpEngine.mTxNewestUnackedSeqNum }
  have hSpends : Spends adjusted ((driveSending p >>= fun _ => return true) >>= afterAck p) := by
    apply Spends.bind
    · exact Spends.bind spends_driveSending fun _ _ _ => .pure true
    · intro goOn after _
      exact spends_afterAck goOn
  exact ⟨adjusted, rfl, hSpends⟩

theorem begins_receivedAck (receivedAck : UInt8) :
  Begins e (handleReceivedAck p receivedAck >>= afterAck p) := by
  unfold Begins
  rw [handleReceivedAck, bind_apply, read_bind]
  cases hExpecting : e.mBtpEngine.mExpectingAck with
  | false =>
    rw [if_pos (by decide), stopAckReceivedTimer, modify_bind]
    by_cases hLast : (e.mState = .closing && e.mSendQueue.isEmpty &&
        e.mBtpEngine.mTxState = .idle) = true
    · rw [if_pos hLast]
      exact ⟨{ e with ackReceivedTimerRunning := false }, rfl, spent_finalizeClose p _ false⟩
    · rw [if_neg hLast, ← bind_apply]
      exact begins_adjust (e := { e with ackReceivedTimerRunning := false }) receivedAck
  | true =>
    rw [if_neg (by decide)]
    rcases restartAckReceivedTimer_cases p e with ⟨err, after, hFailed, hWire⟩ | hRestarted
    · rw [bind_error hFailed]
      exact ⟨after, hWire, Spent.refl after⟩
    · rw [bind_ok hRestarted, ← bind_apply]
      exact begins_adjust (e := { e with ackReceivedTimerRunning := true }) receivedAck

theorem Begins.orClose {α : Type} {m : Proc BleError BLEEndPoint α} (hBegins : Begins e m) :
  ∃ begun : BLEEndPoint, begun.wire = e.wire ∧ Spent begun (e.orClose p m) := by
  obtain ⟨begun, hWire, hSpent⟩ := hBegins
  refine ⟨begun, hWire, ?_⟩
  unfold BLEEndPoint.orClose
  cases hm : m e with
  | mk result after =>
    rw [hm] at hSpent
    cases result with
    | ok a => exact hSpent
    | error err => exact hSpent.trans (spent_doClose p after true false)

def Accepts (e : BLEEndPoint) (event : Event) (fragment : List UInt8) : Prop :=
  ∃ allocSize ack engine, event = .receive allocSize fragment ∧ e.unsubscribeTimerRunning = false ∧
    e.isConnected = true ∧
    e.mBtpEngine.handleCharacteristicReceived allocSize fragment = (ack, .ok (), engine)

/-- An event brings a fragment or none, and then at most one fragment is sent. -/
structure Exchanges (e : BLEEndPoint) (event : Event) (after : BLEEndPoint) : Prop where
  begun : ∃ begun : BLEEndPoint, Spent begun after ∧
    ((begun.wire = e.wire ∧ ∀ fragment, ¬ Accepts e event fragment) ∨
      ∃ fragment, Accepts e event fragment ∧ begun.wire = e.wire ++ [.received fragment])

theorem exchanges_of_begins {event : Event} {after begun : BLEEndPoint}
  (hOther : ∀ fragment, ¬ Accepts e event fragment) (hWire : begun.wire = e.wire)
  (hSpent : Spent begun after) : Exchanges e event after :=
  ⟨begun, hSpent, .inl ⟨hWire, hOther⟩⟩

theorem exchanges_receive (allocSize : Nat) (fragment : List UInt8) :
  Exchanges e (.receive allocSize fragment) (e.orClose p (receive p allocSize fragment)) := by
  cases hOpen : e.unsubscribeTimerRunning with
  | true =>
    have hReceive : receive p allocSize fragment e = (.ok none, e) := by
      rw [receive, read_bind, if_pos hOpen]
      rfl
    rw [BLEEndPoint.orClose, hReceive]
    refine exchanges_of_begins ?_ rfl (Spent.refl e)
    rintro _ ⟨_, _, _, -, hNot, -⟩
    rw [hOpen] at hNot
    cases hNot
  | false =>
    cases hConnected : e.isConnected with
    | false =>
      rw [BLEEndPoint.orClose, receive_unconnected hOpen allocSize fragment hConnected]
      refine exchanges_of_begins ?_ rfl (spent_doClose p e true false)
      rintro _ ⟨_, _, _, -, -, hNot, -⟩
      rw [hConnected] at hNot
      cases hNot
    | true =>
      have hReceive := receive_connected (p := p) hOpen allocSize fragment hConnected
      cases hHandled : e.mBtpEngine.handleCharacteristicReceived allocSize fragment with
      | mk ack rest =>
        obtain ⟨result, engine⟩ := rest
        cases result with
        | error err =>
          rw [BLEEndPoint.orClose,
            hReceive.trans (bind_error (acceptFragment_error hHandled))]
          have hSpent := spent_doClose p { e with mBtpEngine := engine } true false
          refine exchanges_of_begins ?_ ?_ hSpent
          swap
          · rfl
          rintro _ ⟨_, _, _, hEvent, -, -, hAccepted⟩
          cases hEvent
          rw [hHandled] at hAccepted
          cases hAccepted
        | ok =>
          have hSame := hReceive.trans (bind_ok (acceptFragment_ok hHandled))
          have hBegins : Begins (e.accepted engine fragment)
              (ack.elim (pure true) (handleReceivedAck p) >>= afterAck p) := by
            cases ack with
            | none => exact Spends.begins (spends_afterAck true)
            | some receivedAck => exact begins_receivedAck receivedAck
          obtain ⟨begun, hWire, hSpent⟩ := hBegins.orClose
          rw [orClose_congr hSame]
          exact ⟨begun, hSpent, .inr ⟨fragment,
            ⟨allocSize, ack, engine, rfl, hOpen, hConnected, hHandled⟩, hWire⟩⟩

theorem not_accepts_of_other {event : Event} (hOther : event.isReceive = false) (fragment : List UInt8) :
  ¬ Accepts e event fragment := by
  rintro ⟨allocSize, ack, engine, rfl, -⟩
  cases hOther

theorem spends_handshakeConfirmation : Spends e (handleHandshakeConfirmationReceived p) := by
  apply Spends.bind (.quiet (.nothing rfl rfl id))
  intro _ after _
  apply Spends.read_bind
  apply Spends.ite
  · intro _
    apply Spends.ite (fun _ => .fail _)
    intro _
    exact .quiet (.nothing rfl rfl fun _ => rfl)
  · intro _
    cases after.mState with
    | connected =>
      exact Spends.ite (fun _ => spends_driveStandAloneAck) fun _ => spends_driveSending
    | aborting => exact .fail _
    | ready | connecting | closing | closed => exact .pure ()

theorem spends_fragmentConfirmation : Spends e (handleFragmentConfirmationReceived p) := by
  apply Spends.read_bind
  apply Spends.ite (fun _ => .pure ())
  intro _
  apply Spends.ite (fun _ => .fail _)
  intro _
  apply Spends.bind (.quiet (.nothing rfl rfl id))
  intro _ after _
  apply Spends.read_bind
  exact Spends.ite (fun _ => spends_driveStandAloneAck) fun _ => spends_driveSending

theorem spends_gattSendConfirmation :
  Spends { e with gattOperationInFlight := false } (handleGattSendConfirmationReceived p) := by
  have hSpends : Spends { e with gattOperationInFlight := false } (do
      let e ← read
      if !e.capabilitiesConfReceived then do
        modify fun e => { e with capabilitiesConfReceived := true }
        handleHandshakeConfirmationReceived p
      else handleFragmentConfirmationReceived p) := by
    apply Spends.read_bind
    apply Spends.ite
    · intro _
      apply Spends.bind (.quiet (.nothing rfl rfl id))
      intro _ after _
      exact spends_handshakeConfirmation
    · intro _
      exact spends_fragmentConfirmation
  exact hSpends

theorem exchanges_step (p : BlePlatform) (e : BLEEndPoint) (event : Event) :
  Exchanges e event (e.step p event) := by
  cases event with
  | send data =>
    have hSpends : Spends e (send p data) := by
      apply Spends.read_bind
      apply Spends.ite (fun _ => .fail _)
      intro _
      apply Spends.bind (.quiet (.nothing rfl rfl id))
      intro _ after _
      exact spends_driveSending
    exact exchanges_of_begins (not_accepts_of_other rfl) rfl hSpends.orClose
  | gattSendConfirmation =>
    have hSpends : Spends { e with gattOperationInFlight := false }
        (handleGattSendConfirmationReceived p) := spends_gattSendConfirmation
    refine exchanges_of_begins (not_accepts_of_other rfl) ?_ hSpends.orClose
    rfl
  | subscribeComplete =>
    have hSpends : Spends { e with gattOperationInFlight := false, subscribing := false }
        (driveSending p) := spends_driveSending
    refine exchanges_of_begins (not_accepts_of_other rfl) ?_ hSpends.orClose
    rfl
  | receive allocSize fragment => exact exchanges_receive allocSize fragment
  | sendAckTimeout =>
    have hSpent : Spent e (e.handleSendAckTimeout p) := by
      unfold handleSendAckTimeout
      have hExpired : Spent e { e with sendAckTimerRunning := false } := .nothing rfl rfl id
      by_cases hRunning : e.sendAckTimerRunning = true
      · rw [if_pos hRunning]
        by_cases hInFlight : e.standAloneAckInFlight = true
        · rw [if_pos hInFlight]
          exact hExpired
        · rw [if_neg hInFlight]
          exact hExpired.trans spends_driveStandAloneAck.orClose
      · rw [if_neg hRunning]
        exact Spent.refl e
    exact exchanges_of_begins (not_accepts_of_other rfl) rfl hSpent
  | ackReceivedTimeout =>
    have hSpent : Spent e (e.handleAckReceivedTimeout p) := by
      unfold handleAckReceivedTimeout
      by_cases hRunning : e.ackReceivedTimerRunning = true
      · rw [if_pos hRunning]
        have hExpired : Spent e { e with ackReceivedTimerRunning := false } := .nothing rfl rfl id
        exact hExpired.trans (spent_doClose p _ true false)
      · rw [if_neg hRunning]
        exact Spent.refl e
    exact exchanges_of_begins (not_accepts_of_other rfl) rfl hSpent
  | close abortTransmission lost =>
    exact exchanges_of_begins (not_accepts_of_other rfl) rfl
      (spent_doClose p e abortTransmission lost)

end BLEEndPoint

end Chip.Ble
