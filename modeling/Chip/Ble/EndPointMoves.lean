import Chip.Ble.BLEEndPoint
import Mathlib.Logic.Relation

/-! What an end point can do between two events, seen without its timers and its queue: the moves
from which all that `DriveSending` and its callers do is made up. -/
namespace Chip.Ble

open Proc

open Chip.System (PacketBuffer)
open Relation (ReflTransGen)

/-- An end point without its timers, its queue and what is specific to its role. -/
structure EndPointCore where
  engine : BtpEngine
  ackToSend : Bool
  ackInFlight : Bool
  operationInFlight : Bool
  subscribing : Bool
  handshakeConfirmed : Bool
  localWindow : UInt8
  remoteWindow : UInt8
  maxWindow : UInt8
  closed : Bool
  unsubscribing : Bool
  wire : List Wire

namespace EndPointCore

def withFragment (c : EndPointCore) (sentAck : Bool) (engine : BtpEngine) : EndPointCore :=
  { c with
    engine := engine
    operationInFlight := true
    localWindow := if sentAck then c.maxWindow else c.localWindow
    remoteWindow := c.remoteWindow - 1
    wire := c.wire ++
      [.sent c.engine.mTxNextSeqNum (c.engine.ackWith sentAck) engine.txFragment] }

def withStandAloneAck (c : EndPointCore) : EndPointCore :=
  { c with
    engine := c.engine.encodeStandAloneAck.2
    ackInFlight := true
    operationInFlight := true
    localWindow := c.maxWindow
    remoteWindow := c.remoteWindow - 1
    wire := c.wire ++ [.sent c.engine.mTxNextSeqNum (c.engine.ackWith true)
      c.engine.encodeStandAloneAck.1] }

/-- The moves. A stand-alone acknowledgement is asked for under a condition on the engine. -/
inductive Move (asks : BtpEngine → Prop) : EndPointCore → EndPointCore → Prop
  | takeTx (c : EndPointCore) (complete : c.engine.mTxState = .complete) :
      Move asks c { c with engine := c.engine.takeTxPacket }
  | takeRx (c : EndPointCore) : Move asks c { c with engine := c.engine.takeRxPacket.2 }
  | ask (c : EndPointCore) (due : asks c.engine) : Move asks c { c with ackToSend := true }
  | fragment (c : EndPointCore) (data : Option PacketBuffer) (sentAck : Bool) (engine : BtpEngine)
      (made : c.engine.handleCharacteristicSend data sentAck = (true, engine))
      (noAck : c.ackToSend = false) (room : c.remoteWindow ≠ 0)
      (free : c.operationInFlight = false) : Move asks c (c.withFragment sentAck engine)
  | standAloneAck (c : EndPointCore) (pending : c.ackToSend = true) (room : c.remoteWindow ≠ 0)
      (free : c.operationInFlight = false) : Move asks c c.withStandAloneAck
  | close (c : EndPointCore) (freed : Bool) (operationInFlight : Bool)
      (idle : c.engine.mTxState = .idle)
      (inFlight : c.operationInFlight = true → operationInFlight = true) :
      Move asks c { c with
        closed := true
        engine := if freed then c.engine.takeTxPacket.takeRxPacket.2 else c.engine
        ackToSend := if freed then false else c.ackToSend
        unsubscribing := !freed
        operationInFlight := operationInFlight }

/-- The confirmation of a fragment: a stand-alone acknowledgement that was in flight is done. -/
def fragmentConfirmed (c : EndPointCore) : EndPointCore :=
  { c with
    operationInFlight := false
    ackToSend := c.ackToSend && !c.ackInFlight
    ackInFlight := false }

def withHandshakeConfirmed (c : EndPointCore) : EndPointCore :=
  { c with operationInFlight := false, handshakeConfirmed := true }

/-- The subscription of a central whose handshake is confirmed. -/
def withSubscription (c : EndPointCore) : EndPointCore :=
  { c with operationInFlight := true, handshakeConfirmed := true, subscribing := true }

def subscribed (c : EndPointCore) : EndPointCore :=
  { c with operationInFlight := false, subscribing := false }

/-- A fragment is accepted: the engine has handled it, and its acknowledgement opens the window. -/
def withReceived (c : EndPointCore) (engine : BtpEngine) (ack : Option UInt8)
  (fragment : List UInt8) : EndPointCore :=
  { c with
    engine := engine
    localWindow := c.localWindow - 1
    remoteWindow := ack.elim c.remoteWindow fun receivedAck =>
      BLEEndPoint.adjustRemoteReceiveWindow receivedAck c.maxWindow engine.mTxNewestUnackedSeqNum
    wire := c.wire ++ [.received fragment] }

inductive Begins : BLEEndPoint.Event → EndPointCore → EndPointCore → Prop
  | same (event : BLEEndPoint.Event) (c : EndPointCore) (other : event.isReceive = false) :
      Begins event c c
  | fragmentConfirmed (c : EndPointCore) (confirmed : c.handshakeConfirmed = true) :
      Begins .gattSendConfirmation c c.fragmentConfirmed
  | handshakeConfirmed (c : EndPointCore) (unconfirmed : c.handshakeConfirmed = false) :
      Begins .gattSendConfirmation c c.withHandshakeConfirmed
  | subscribes (c : EndPointCore) (unconfirmed : c.handshakeConfirmed = false) :
      Begins .gattSendConfirmation c c.withSubscription
  | subscribed (c : EndPointCore) : Begins .subscribeComplete c c.subscribed
  | received (c : EndPointCore) (allocSize : Nat) (fragment : List UInt8) (ack : Option UInt8)
      (engine : BtpEngine)
      (accepted : c.engine.handleCharacteristicReceived allocSize fragment =
        (ack, .ok (), engine)) :
      Begins (.receive allocSize fragment) c (c.withReceived engine ack fragment)

abbrev Moves (asks : BtpEngine → Prop) : EndPointCore → EndPointCore → Prop :=
  ReflTransGen (Move asks)

end EndPointCore

namespace BLEEndPoint

open EndPointCore

variable {asks : BtpEngine → Prop} {p : BlePlatform} {e : BLEEndPoint} {α β : Type}

def core (e : BLEEndPoint) : EndPointCore where
  engine := e.mBtpEngine
  ackToSend := e.mAckToSend
  ackInFlight := e.standAloneAckInFlight
  operationInFlight := e.gattOperationInFlight
  subscribing := e.subscribing
  handshakeConfirmed := e.capabilitiesConfReceived
  localWindow := e.mLocalReceiveWindowSize
  remoteWindow := e.mRemoteReceiveWindowSize
  maxWindow := e.mReceiveWindowMaxSize
  closed := e.mState = .closed
  unsubscribing := e.unsubscribeTimerRunning
  wire := e.wire

/-- A call makes moves. When it fails, what is on the air is still what moves have put there. -/
def Drives (asks : BtpEngine → Prop) (e : BLEEndPoint) (m : Proc BleError BLEEndPoint α) : Prop :=
  ∃ c, Moves asks e.core c ∧ (m e).2.wire = c.wire ∧
    ∀ a after, m e = (.ok a, after) → after.core = c

namespace Drives

theorem pure (a : α) : Drives asks e (Pure.pure a) :=
  ⟨e.core, .refl, rfl, fun _ _ h => by cases h; rfl⟩

theorem fail (err : BleError) : Drives asks e (fail err : Proc BleError BLEEndPoint α) :=
  ⟨e.core, .refl, rfl, fun _ _ h => by cases h⟩

theorem quiet {f : BLEEndPoint → BLEEndPoint} (hSame : (f e).core = e.core) :
  Drives asks e (modify f : Proc BleError BLEEndPoint Unit) :=
  ⟨e.core, .refl, congrArg EndPointCore.wire hSame, fun _ _ h => by cases h; exact hSame⟩

theorem move {f : BLEEndPoint → BLEEndPoint} (hMove : Move asks e.core (f e).core) :
  Drives asks e (modify f : Proc BleError BLEEndPoint Unit) :=
  ⟨(f e).core, .single hMove, rfl, fun _ _ h => by cases h; rfl⟩

theorem bind {m : Proc BleError BLEEndPoint α} {f : α → Proc BleError BLEEndPoint β}
  (hFirst : Drives asks e m)
  (hRest : ∀ a after, m e = (.ok a, after) → Drives asks after (f a)) :
  Drives asks e (m >>= f) := by
  obtain ⟨c, hMoves, hWire, hCore⟩ := hFirst
  unfold Drives
  rw [bind_apply]
  cases hm : m e with
  | mk result after =>
    rw [hm] at hWire
    cases result with
    | error err => exact ⟨c, hMoves, hWire, fun _ _ h => by cases h⟩
    | ok a =>
      obtain ⟨c', hMoves', hWire', hCore'⟩ := hRest a after hm
      rw [hCore a after hm] at hMoves'
      exact ⟨c', hMoves.trans hMoves', hWire', hCore'⟩

theorem read_bind {f : BLEEndPoint → Proc BleError BLEEndPoint β} (hRest : Drives asks e (f e)) :
  Drives asks e (read >>= f) := hRest

theorem modify_bind {g : BLEEndPoint → BLEEndPoint} {f : Unit → Proc BleError BLEEndPoint β}
  (hSame : (g e).core = e.core) (hRest : Drives asks (g e) (f ())) :
  Drives asks e (modify g >>= f) :=
  .bind (.quiet hSame) fun _ _ h => by cases h; exact hRest

theorem ite {c : Prop} [Decidable c] {m n : Proc BleError BLEEndPoint α}
  (hThen : c → Drives asks e m) (hElse : ¬ c → Drives asks e n) :
  Drives asks e (if c then m else n) := by
  split
  · rename_i hTrue
    exact hThen hTrue
  · rename_i hFalse
    exact hElse hFalse

end Drives

theorem drives_stopSendAckTimer : Drives asks e stopSendAckTimer := .quiet rfl

theorem drives_startSendAckTimer : Drives asks e (startSendAckTimer p) :=
  .read_bind (.ite (fun _ => .pure ()) fun _ => .ite (fun _ => .fail _) fun _ => .quiet rfl)

theorem drives_startAckReceivedTimer : Drives asks e (startAckReceivedTimer p) :=
  .read_bind (.ite (fun _ => .pure ()) fun _ => .ite (fun _ => .fail _) fun _ => .quiet rfl)

/-- What is left to do once a fragment has been handed to the platform. -/
def afterSend (p : BlePlatform) (sentAck : Bool) : Proc BleError BLEEndPoint Unit :=
  if sentAck then do
    stopSendAckTimer
    startAckReceivedTimer p
  else startAckReceivedTimer p

theorem drives_afterSend (sentAck : Bool) : Drives asks e (afterSend p sentAck) :=
  .ite (fun _ => .bind drives_stopSendAckTimer fun _ _ _ => drives_startAckReceivedTimer)
    fun _ => drives_startAckReceivedTimer

def fragmentSent (e : BLEEndPoint) (sentAck : Bool) (engine : BtpEngine) : BLEEndPoint :=
  { e with
    mBtpEngine := engine
    gattOperationInFlight := true
    mLocalReceiveWindowSize := if sentAck then e.mReceiveWindowMaxSize
      else e.mLocalReceiveWindowSize
    mRemoteReceiveWindowSize := e.mRemoteReceiveWindowSize - 1
    wire := e.wire ++ [.sent e.mBtpEngine.mTxNextSeqNum (e.mBtpEngine.ackWith sentAck)
      engine.txFragment] }

def fragmentMade (e : BLEEndPoint) (sentAck : Bool) (engine : BtpEngine) : BLEEndPoint :=
  { e with
    mBtpEngine := engine
    mLocalReceiveWindowSize := if sentAck then e.mReceiveWindowMaxSize
      else e.mLocalReceiveWindowSize }

variable {engine : BtpEngine} {m : Proc BleError BLEEndPoint α} {after : BLEEndPoint}

theorem prepareNextFragment_apply {data : Option PacketBuffer} {made : Bool}
  (hSent : e.mBtpEngine.handleCharacteristicSend data e.sendAckTimerRunning = (made, engine)) :
  prepareNextFragment data e =
    (if made then .ok e.sendAckTimerRunning else .error .chipobleProtocolAbort,
      e.fragmentMade e.sendAckTimerRunning engine) := by
  rw [prepareNextFragment, read_bind, modify_bind, hSent]
  cases made with
  | true => rfl
  | false => rfl

theorem sendCharacteristic_cases (p : BlePlatform) (e : BLEEndPoint) (seq : UInt8)
  (ack : Option UInt8) (fragment : List UInt8) :
  (∃ err, sendCharacteristic p seq ack fragment e =
      (.error err, { e with gattOperationInFlight := true })) ∨
    sendCharacteristic p seq ack fragment e = (.ok (), { e with
      gattOperationInFlight := true
      mRemoteReceiveWindowSize := e.mRemoteReceiveWindowSize - 1
      wire := e.wire ++ [.sent seq ack fragment] }) := by
  rw [sendCharacteristic, modify_bind, read_bind]
  cases p.gattSend with
  | false => exact .inl ⟨_, rfl⟩
  | true => exact .inr rfl

theorem sendFragment_cases (p : BlePlatform) (e : BLEEndPoint) (data : Option PacketBuffer) :
  (∃ err after, sendFragment p data e = (.error err, after) ∧ after.wire = e.wire) ∨
    ∃ engine, e.mBtpEngine.handleCharacteristicSend data e.sendAckTimerRunning = (true, engine) ∧
      sendFragment p data e =
        afterSend p e.sendAckTimerRunning (e.fragmentSent e.sendAckTimerRunning engine) := by
  rw [sendFragment, read_bind]
  cases hSent : e.mBtpEngine.handleCharacteristicSend data e.sendAckTimerRunning with
  | mk made engine =>
    have hPrepared := prepareNextFragment_apply hSent
    cases made with
    | false => exact .inl ⟨_, _, bind_error hPrepared, rfl⟩
    | true =>
      rw [bind_ok hPrepared, read_bind]
      rcases sendCharacteristic_cases p (e.fragmentMade e.sendAckTimerRunning engine)
        e.mBtpEngine.mTxNextSeqNum (e.mBtpEngine.ackWith e.sendAckTimerRunning)
        engine.txFragment with ⟨err, hRefused⟩ | hTaken
      · exact .inl ⟨err, _, bind_error hRefused, rfl⟩
      · exact .inr ⟨engine, rfl, bind_ok hTaken⟩

/-- The end point may send: nothing is in flight and the peer has room. -/
structure MaySend (e : BLEEndPoint) : Prop where
  room : e.mRemoteReceiveWindowSize ≠ 0
  free : e.gattOperationInFlight = false

theorem maySend_of_not_cannotSend (hCan : ¬ e.cannotSend = true) : e.MaySend := by
  simp only [cannotSend, Bool.or_eq_true, decide_eq_true_eq, not_or] at hCan
  exact ⟨hCan.1.2, by simpa using hCan.2⟩

theorem drives_sendFragment (data : Option PacketBuffer) (hMay : e.MaySend)
  (hNoAck : e.mAckToSend = false) : Drives asks e (sendFragment p data) := by
  rcases sendFragment_cases p e data with ⟨err, after, hRefused, hWire⟩ | ⟨engine, hMade, hSent⟩
  · unfold Drives
    rw [hRefused]
    exact ⟨e.core, .refl, hWire, fun _ _ h => by cases h⟩
  · have hMove : Move asks e.core (e.fragmentSent e.sendAckTimerRunning engine).core :=
      .fragment e.core data e.sendAckTimerRunning engine hMade hNoAck hMay.room hMay.free
    have hRest : Drives asks (e.fragmentSent e.sendAckTimerRunning engine)
        (afterSend p e.sendAckTimerRunning) := drives_afterSend _
    obtain ⟨c, hMoves, hWire, hCore⟩ := hRest
    unfold Drives
    rw [hSent]
    exact ⟨c, .head hMove hMoves, hWire, hCore⟩

theorem drives_sendNextMessage (hMay : e.MaySend) (hNoAck : e.mAckToSend = false) :
  Drives asks e (sendNextMessage p) :=
  .read_bind (.modify_bind rfl (drives_sendFragment _ ⟨hMay.room, hMay.free⟩ hNoAck))

theorem drives_doSendStandAloneAck (hMay : e.MaySend) (hPending : e.mAckToSend = true) :
  Drives asks e (doSendStandAloneAck p) := by
  rw [doSendStandAloneAck]
  refine .read_bind ?_
  unfold Drives
  rw [modify_bind]
  rcases sendCharacteristic_cases p { e with mBtpEngine := e.mBtpEngine.encodeStandAloneAck.2 }
    e.mBtpEngine.mTxNextSeqNum (e.mBtpEngine.ackWith true) e.mBtpEngine.encodeStandAloneAck.1
    with ⟨err, hRefused⟩ | hTaken
  · rw [bind_error hRefused]
    exact ⟨e.core, .refl, rfl, fun _ _ h => by cases h⟩
  · rw [bind_ok hTaken, modify_bind]
    have hMove : Move asks e.core e.core.withStandAloneAck :=
      .standAloneAck e.core hPending hMay.room hMay.free
    have hRest : Drives asks { e with
        mBtpEngine := e.mBtpEngine.encodeStandAloneAck.2
        gattOperationInFlight := true
        mRemoteReceiveWindowSize := e.mRemoteReceiveWindowSize - 1
        mLocalReceiveWindowSize := e.mReceiveWindowMaxSize
        standAloneAckInFlight := true
        wire := e.wire ++ [.sent e.mBtpEngine.mTxNextSeqNum (e.mBtpEngine.ackWith true)
          e.mBtpEngine.encodeStandAloneAck.1] } (startAckReceivedTimer p) :=
      drives_startAckReceivedTimer
    obtain ⟨c, hMoves, hWire, hCore⟩ := hRest
    exact ⟨c, .head hMove hMoves, hWire, hCore⟩

theorem move_finalizeClose (lost : Bool) (hIdle : e.mBtpEngine.mTxState = .idle) :
  Move asks e.core (e.finalizeClose p lost).core := by
  unfold finalizeClose
  dsimp only
  split
  · split
    · exact .close e.core true e.gattOperationInFlight hIdle fun h => h
    · split
      · exact .close e.core true true hIdle fun _ => rfl
      · exact .close e.core false true hIdle fun _ => rfl
  · exact .close e.core true e.gattOperationInFlight hIdle fun h => h

theorem drives_driveSending : Drives asks e (driveSending p) := by
  refine .read_bind (.ite (fun _ => .pure ()) fun hCan => ?_)
  have hMay := maySend_of_not_cannotSend hCan
  refine .ite (fun hPending => drives_doSendStandAloneAck hMay hPending) fun hNone => ?_
  have hNoAck : e.mAckToSend = false := by simpa using hNone
  cases hState : e.mBtpEngine.mTxState with
  | idle => exact .ite (fun _ => .pure ()) fun _ => drives_sendNextMessage hMay hNoAck
  | inProgress => exact drives_sendFragment none hMay hNoAck
  | complete =>
    refine .bind (.move (.takeTx e.core hState)) fun _ after hAfter => ?_
    cases hAfter
    refine .ite (fun _ => drives_sendNextMessage ⟨hMay.room, hMay.free⟩ hNoAck) fun _ => ?_
    refine .ite (fun _ => .move (move_finalizeClose false ?_)) fun _ => .pure ()
    simp [BtpEngine.takeTxPacket, hState]
  | error => exact .pure ()

theorem drives_driveStandAloneAck (hAsks : asks e.mBtpEngine) :
  Drives asks e (driveStandAloneAck p) := by
  refine .bind drives_stopSendAckTimer fun _ after hAfter => ?_
  cases hAfter
  refine .read_bind (.ite (fun _ => .fail _) fun _ => ?_)
  refine .bind (.move (.ask _ hAsks)) fun _ after hAfter => ?_
  cases hAfter
  exact drives_driveSending

theorem drives_send (data : PacketBuffer) : Drives asks e (send p data) :=
  .read_bind (.ite (fun _ => .fail _) fun _ => .modify_bind rfl drives_driveSending)

theorem drives_prepareAck (hAsks : e.mBtpEngine.hasUnackedData = true → asks e.mBtpEngine) :
  Drives asks e (prepareAck p) :=
  .read_bind (.ite (fun hUnacked => .ite (fun _ => drives_driveStandAloneAck (hAsks hUnacked))
    fun _ => drives_startSendAckTimer) fun _ => .pure ())

theorem drives_takeMessage : Drives asks e takeMessage := by
  refine .read_bind (.ite (fun _ => ?_) fun _ => .pure _)
  refine .bind (.move (.takeRx e.core)) fun _ after hAfter => ?_
  exact .pure _

/-- An event is handled: it begins with a change of its own, and moves follow. A handler that fails
closes the end point. -/
def Handled (asks : BtpEngine → Prop) (begun : EndPointCore) (after : BLEEndPoint) : Prop :=
  ∃ c, Moves asks begun c ∧ after.wire = c.wire ∧ (after.mState = .closed ∨ after.core = c)

theorem finalizeClose_mState (lost : Bool) : (e.finalizeClose p lost).mState = .closed := by
  unfold finalizeClose
  dsimp only
  split
  · split
    · rfl
    · split
      · rfl
      · rfl
  · rfl

theorem finalizeClose_wire (lost : Bool) : (e.finalizeClose p lost).wire = e.wire := by
  unfold finalizeClose
  dsimp only
  split
  · split
    · rfl
    · split
      · rfl
      · rfl
  · rfl

theorem doClose_wire (abortTransmission lost : Bool) :
  (e.doClose p abortTransmission lost).wire = e.wire := by
  unfold doClose
  split
  · split
    · exact finalizeClose_wire lost
    · rfl
  · rfl

theorem doClose_abort : (e.doClose p true false).mState = .closed := by
  unfold doClose
  cases hState : e.mState with
  | closed => exact hState
  | closing => simp [finalizeClose_mState]
  | ready => simp [finalizeClose_mState]
  | connecting => simp [finalizeClose_mState]
  | aborting => simp [finalizeClose_mState]
  | connected => simp [finalizeClose_mState]

theorem Drives.handled (hDrives : Drives asks e m) :
  Handled asks e.core (e.orClose p m) := by
  obtain ⟨c, hMoves, hWire, hCore⟩ := hDrives
  unfold orClose
  cases hm : m e with
  | mk result after =>
    rw [hm] at hWire
    cases result with
    | ok a => exact ⟨c, hMoves, hWire, .inr (hCore a after hm)⟩
    | error err => exact ⟨c, hMoves, (doClose_wire _ _).trans hWire, .inl doClose_abort⟩

theorem Handled.of_closed {begun : EndPointCore} (hWire : after.wire = begun.wire)
  (hClosed : after.mState = .closed) :
  Handled asks begun after := ⟨begun, .refl, hWire, .inl hClosed⟩

theorem Handled.of_same {begun : EndPointCore} (hSame : after.core = begun) :
  Handled asks begun after := ⟨begun, .refl, congrArg EndPointCore.wire hSame, .inr hSame⟩

/-- What an event does: it closes the end point, or it begins with a change and moves follow. -/
def StepsTo (asks : BtpEngine → Prop) (e : BLEEndPoint) (event : Event) (after : BLEEndPoint) :
  Prop :=
  (after.wire = e.wire ∧ after.mState = .closed) ∨
    ∃ begun, Begins event e.core begun ∧ Handled asks begun after

theorem orClose_fail {err : BleError} (hFail : m e = (.error err, after)) :
  e.orClose p m = after.doClose p true false := by
  rw [orClose, hFail]

theorem stepsTo_fail {event : Event} {err : BleError} (hFail : m e = (.error err, after))
  (hWire : after.wire = e.wire) :
  StepsTo asks e event (e.orClose p m) := by
  rw [orClose_fail hFail]
  exact .inl ⟨(doClose_wire _ _).trans hWire, doClose_abort⟩

theorem handled_handshakeConfirmation (confirmed : BLEEndPoint)
  (hImmediate : confirmed.mLocalReceiveWindowSize ≤ immediateAckWindowThreshold →
    asks confirmed.mBtpEngine) (hRole : confirmed.mRole ≠ .central) :
  Handled asks confirmed.core (confirmed.orClose p (handleHandshakeConfirmationReceived p)) := by
  refine Drives.handled (.modify_bind rfl (.read_bind ?_))
  rw [if_neg hRole]
  cases hState : confirmed.mState with
  | connected =>
    simp only
    refine .ite (fun hDue => drives_driveStandAloneAck ?_) fun _ => drives_driveSending
    simp only [immediateAckDue, Bool.and_eq_true, decide_eq_true_eq] at hDue
    exact hImmediate hDue.1
  | aborting => exact .fail _
  | ready => exact .pure _
  | connecting => exact .pure _
  | closing => exact .pure _
  | closed => exact .pure _

theorem orClose_congr {e' : BLEEndPoint} {m n : Proc BleError BLEEndPoint α} (hSame : m e = n e') :
  e.orClose p m = e'.orClose p n := by
  rw [orClose, orClose, hSame]

/-- The rest of `HandleFragmentConfirmationReceived`, once its checks have passed. -/
def afterConfirmation (p : BlePlatform) : Proc BleError BLEEndPoint Unit := do
  let e ← Proc.read
  if e.immediateAckDue && e.mBtpEngine.mTxState ≠ .inProgress then driveStandAloneAck p
  else driveSending p

theorem drives_afterConfirmation
  (hImmediate : e.mLocalReceiveWindowSize ≤ immediateAckWindowThreshold → asks e.mBtpEngine) :
  Drives asks e (afterConfirmation p) := by
  refine .read_bind (.ite (fun hDue => drives_driveStandAloneAck ?_) fun _ => drives_driveSending)
  simp only [immediateAckDue, Bool.and_eq_true, decide_eq_true_eq] at hDue
  exact hImmediate hDue.1.1

section

variable (hOpen : e.unsubscribeTimerRunning = false)
include hOpen

theorem fragmentConfirmation_connected (hConnected : e.isConnected = true) :
  handleFragmentConfirmationReceived p e = afterConfirmation p { e with
    mAckToSend := e.mAckToSend && !e.standAloneAckInFlight
    standAloneAckInFlight := false } := by
  rw [handleFragmentConfirmationReceived, read_bind, if_neg (by simp [hOpen]),
    if_neg (by simp [hConnected]), modify_bind]
  rfl

theorem fragmentConfirmation_other (hConnected : e.isConnected = false) :
  handleFragmentConfirmationReceived p e = (.error .incorrectState, e) := by
  rw [handleFragmentConfirmationReceived, read_bind, if_neg (by simp [hOpen]),
    if_pos (by simp [hConnected])]
  rfl

theorem stepsTo_gattSendConfirmation
  (hImmediate : e.mLocalReceiveWindowSize ≤ immediateAckWindowThreshold → asks e.mBtpEngine) :
  StepsTo asks e .gattSendConfirmation (e.step p .gattSendConfirmation) := by
  change StepsTo asks e .gattSendConfirmation (e.orClose p (handleGattSendConfirmationReceived p))
  cases hConfirmed : e.capabilitiesConfReceived with
  | false =>
    let confirmed := { e with gattOperationInFlight := false, capabilitiesConfReceived := true }
    have hSame : handleGattSendConfirmationReceived p e =
        handleHandshakeConfirmationReceived p confirmed := by
      rw [handleGattSendConfirmationReceived, modify_bind, read_bind]
      simp only [hConfirmed, Bool.not_false, if_true]
      rw [modify_bind]
    rw [orClose_congr hSame]
    by_cases hRole : e.mRole = .central
    · cases hSubscribe : p.subscribe with
      | false =>
        refine .inl ⟨?_, ?_⟩
        · rw [orClose, handleHandshakeConfirmationReceived, modify_bind, read_bind]
          simp only [confirmed, hRole, if_true, hSubscribe, Bool.not_false, fail_apply]
          exact doClose_wire _ _
        · rw [orClose, handleHandshakeConfirmationReceived, modify_bind, read_bind]
          simp only [confirmed, hRole, if_true, hSubscribe, Bool.not_false, fail_apply]
          exact doClose_abort
      | true =>
        refine .inr ⟨_, .subscribes e.core hConfirmed, .of_same ?_⟩
        rw [orClose, handleHandshakeConfirmationReceived, modify_bind, read_bind]
        simp only [confirmed, hRole, if_true, hSubscribe, Bool.not_true, Bool.false_eq_true,
          if_false, modify_apply]
        rfl
    · exact .inr ⟨_, .handshakeConfirmed e.core hConfirmed,
        handled_handshakeConfirmation confirmed hImmediate hRole⟩
  | true =>
    let confirmed := { e with gattOperationInFlight := false }
    have hFirst : handleGattSendConfirmationReceived p e =
        handleFragmentConfirmationReceived p confirmed := by
      rw [handleGattSendConfirmationReceived, modify_bind, read_bind,
        if_neg (by simp [hConfirmed])]
    have hOpen' : confirmed.unsubscribeTimerRunning = false := hOpen
    cases hConnected : confirmed.isConnected with
    | true =>
      rw [orClose_congr (hFirst.trans (fragmentConfirmation_connected hOpen' hConnected))]
      exact .inr ⟨_, .fragmentConfirmed e.core hConfirmed,
        (drives_afterConfirmation (e := { confirmed with
          mAckToSend := e.mAckToSend && !e.standAloneAckInFlight
          standAloneAckInFlight := false }) hImmediate).handled⟩
    | false =>
      exact stepsTo_fail (hFirst.trans (fragmentConfirmation_other hOpen' hConnected)) rfl

end

/-- The end of `Receive`. -/
def afterAck (p : BlePlatform) (goOn : Bool) :
  Proc BleError BLEEndPoint (Option (List (List UInt8))) :=
  if goOn then do
    prepareAck p
    takeMessage
  else return none

section

variable (hAsks : ∀ engine : BtpEngine, engine.hasUnackedData = true → asks engine)
include hAsks

theorem drives_afterAck (goOn : Bool) : Drives asks e (afterAck p goOn) :=
  .ite (fun _ => .bind (drives_prepareAck (hAsks _)) fun _ _ _ => drives_takeMessage)
    fun _ => .pure _

theorem handled_adjust {receivedAck : UInt8} :
  Handled asks
    { e.core with
      remoteWindow := adjustRemoteReceiveWindow receivedAck e.mReceiveWindowMaxSize
        e.mBtpEngine.mTxNewestUnackedSeqNum }
    (e.orClose p (handleReceivedAck.adjust p receivedAck >>= afterAck p)) := by
  let adjusted := { e with
    mRemoteReceiveWindowSize := adjustRemoteReceiveWindow receivedAck e.mReceiveWindowMaxSize
      e.mBtpEngine.mTxNewestUnackedSeqNum }
  have hSame : (handleReceivedAck.adjust p receivedAck >>= afterAck p) e =
      ((do driveSending p; return true) >>= afterAck p) adjusted := by
    rw [handleReceivedAck.adjust, bind_apply, modify_bind, ← bind_apply]
  rw [orClose_congr hSame]
  change Handled asks adjusted.core _
  refine Drives.handled (.bind (.bind drives_driveSending fun _ _ _ => .pure true) ?_)
  intro goOn _ _
  exact drives_afterAck hAsks goOn

end

theorem restartAckReceivedTimer_cases (p : BlePlatform) (e : BLEEndPoint) :
  (∃ err after, restartAckReceivedTimer p e = (.error err, after) ∧ after.wire = e.wire) ∨
    restartAckReceivedTimer p e = (.ok (), { e with ackReceivedTimerRunning := true }) := by
  rw [restartAckReceivedTimer, read_bind]
  cases e.ackReceivedTimerRunning with
  | false => exact .inl ⟨_, e, rfl, rfl⟩
  | true =>
    rw [if_neg (by decide), stopAckReceivedTimer, modify_bind, startAckReceivedTimer,
      read_bind, if_neg (by simp)]
    cases p.ackReceivedTimer with
    | false => exact .inl ⟨_, _, rfl, rfl⟩
    | true => exact .inr rfl

theorem handled_receivedAck {receivedAck : UInt8}
  (hAsks : ∀ engine : BtpEngine, engine.hasUnackedData = true → asks engine) :
  Handled asks
    { e.core with
      remoteWindow := adjustRemoteReceiveWindow receivedAck e.mReceiveWindowMaxSize
        e.mBtpEngine.mTxNewestUnackedSeqNum }
    (e.orClose p (handleReceivedAck p receivedAck >>= afterAck p)) := by
  cases hExpecting : e.mBtpEngine.mExpectingAck with
  | false =>
    let stopped := { e with ackReceivedTimerRunning := false }
    by_cases hLast : (e.mState = .closing && e.mSendQueue.isEmpty &&
        e.mBtpEngine.mTxState = .idle) = true
    · have hResult : (handleReceivedAck p receivedAck >>= afterAck p) e =
          (.ok none, stopped.finalizeClose p false) := by
        rw [handleReceivedAck, bind_apply, read_bind, if_pos (by simp [hExpecting]),
          stopAckReceivedTimer, modify_bind, if_pos hLast, modify_bind]
        rfl
      rw [orClose, hResult]
      exact .of_closed (finalizeClose_wire false) (finalizeClose_mState false)
    · have hSame : (handleReceivedAck p receivedAck >>= afterAck p) e =
          (handleReceivedAck.adjust p receivedAck >>= afterAck p) stopped := by
        rw [handleReceivedAck, bind_apply, read_bind, if_pos (by simp [hExpecting]),
          stopAckReceivedTimer, modify_bind, if_neg hLast, ← bind_apply]
      rw [orClose_congr hSame]
      exact handled_adjust (e := stopped) hAsks
  | true =>
    have hResult : (handleReceivedAck p receivedAck >>= afterAck p) e =
        ((restartAckReceivedTimer p >>= fun _ => handleReceivedAck.adjust p receivedAck) >>=
          afterAck p) e := by
      rw [handleReceivedAck, bind_apply, read_bind, if_neg (by simp [hExpecting]),
        ← bind_apply]
    rcases restartAckReceivedTimer_cases p e with ⟨err, after, hFailed, hWire⟩ | hRestarted
    · rw [orClose_fail (hResult.trans (bind_error (bind_error hFailed)))]
      exact .of_closed ((doClose_wire _ _).trans hWire) doClose_abort
    · let restarted := { e with ackReceivedTimerRunning := true }
      have hSame : (handleReceivedAck p receivedAck >>= afterAck p) e =
          (handleReceivedAck.adjust p receivedAck >>= afterAck p) restarted := by
        rw [hResult, bind_apply, bind_ok hRestarted, ← bind_apply]
      rw [orClose_congr hSame]
      exact handled_adjust (e := restarted) hAsks

def accepted (e : BLEEndPoint) (engine : BtpEngine) (fragment : List UInt8) : BLEEndPoint :=
  { e with
    mBtpEngine := engine
    mLocalReceiveWindowSize := e.mLocalReceiveWindowSize - 1
    wire := e.wire ++ [.received fragment] }

theorem acceptFragment_error {allocSize : Nat} {fragment : List UInt8} {ack : Option UInt8}
  {err : BtpError} (hHandled : e.mBtpEngine.handleCharacteristicReceived allocSize fragment =
    (ack, .error err, engine)) :
  acceptFragment allocSize fragment e = (.error (.btp err), { e with mBtpEngine := engine }) := by
  rw [acceptFragment, read_bind, modify_bind, hHandled]
  rfl

theorem acceptFragment_ok {allocSize : Nat} {fragment : List UInt8} {ack : Option UInt8}
  (hHandled : e.mBtpEngine.handleCharacteristicReceived allocSize fragment = (ack, .ok (), engine)) :
  acceptFragment allocSize fragment e = (.ok ack, e.accepted engine fragment) := by
  rw [acceptFragment, read_bind, modify_bind, hHandled]
  rfl

section

variable (hOpen : e.unsubscribeTimerRunning = false) (allocSize : Nat) (fragment : List UInt8)
include hOpen

theorem receive_unconnected (hConnected : e.isConnected = false) :
  receive p allocSize fragment e = (.error .incorrectState, e) := by
  rw [receive, read_bind, if_neg (by simp [hOpen]), if_pos (by simp [hConnected])]
  rfl

theorem receive_connected (hConnected : e.isConnected = true) :
  receive p allocSize fragment e = (acceptFragment allocSize fragment >>=
    fun ack => (ack.elim (pure true) (handleReceivedAck p) >>= afterAck p)) e := by
  rw [receive, read_bind, if_neg (by simp [hOpen]), if_neg (by simp [hConnected])]
  refine bind_congr fun ack after _ => ?_
  cases ack with
  | none => rfl
  | some receivedAck => rfl

end

theorem stepsTo_receive (hOpen : e.unsubscribeTimerRunning = false)
  (hAsks : ∀ engine : BtpEngine, engine.hasUnackedData = true → asks engine) (allocSize : Nat)
  (fragment : List UInt8) :
  StepsTo asks e (.receive allocSize fragment) (e.step p (.receive allocSize fragment)) := by
  change StepsTo asks e _ (e.orClose p (receive p allocSize fragment))
  cases hConnected : e.isConnected with
  | false => exact stepsTo_fail (receive_unconnected hOpen allocSize fragment hConnected) rfl
  | true =>
    have hReceive := receive_connected (p := p) hOpen allocSize fragment hConnected
    cases hHandled : e.mBtpEngine.handleCharacteristicReceived allocSize fragment with
    | mk ack rest =>
      obtain ⟨result, engine⟩ := rest
      cases result with
      | error err =>
        exact stepsTo_fail
          (hReceive.trans (bind_error (acceptFragment_error hHandled))) rfl
      | ok =>
        refine .inr ⟨_, .received e.core allocSize fragment ack engine hHandled, ?_⟩
        rw [orClose_congr (hReceive.trans (bind_ok (acceptFragment_ok hHandled)))]
        cases ack with
        | none =>
          have hDrives : Drives asks (e.accepted engine fragment)
              (pure true >>= afterAck p) :=
            .bind (.pure true) fun goOn _ _ => drives_afterAck hAsks goOn
          exact hDrives.handled
        | some receivedAck =>
          exact handled_receivedAck (e := e.accepted engine fragment) hAsks

theorem stepsTo_sendAckTimeout
  (hTimeout : e.sendAckTimerRunning = true → e.standAloneAckInFlight = false →
    asks e.mBtpEngine) :
  StepsTo asks e .sendAckTimeout (e.step p .sendAckTimeout) := by
  refine .inr ⟨e.core, .same _ _ rfl, ?_⟩
  change Handled asks e.core (e.handleSendAckTimeout p)
  unfold handleSendAckTimeout
  split
  · rename_i hRunning
    dsimp only
    split
    · exact .of_same rfl
    · rename_i hNone
      exact Drives.handled (e := { e with sendAckTimerRunning := false })
        (drives_driveStandAloneAck (hTimeout hRunning (by simpa using hNone)))
  · exact .of_same rfl

theorem stepsTo_close (abortTransmission lost : Bool) :
  StepsTo asks e (.close abortTransmission lost) (e.doClose p abortTransmission lost) := by
  unfold doClose
  split
  · rename_i hOpen
    split
    · exact .inl ⟨finalizeClose_wire lost, finalizeClose_mState lost⟩
    · refine .inr ⟨e.core, .same _ _ rfl, .of_same ?_⟩
      have hClosed : e.mState ≠ .closed := by
        intro hState
        simp [hState] at hOpen
      simp [core, hClosed]
  · exact .inr ⟨e.core, .same _ _ rfl, .of_same rfl⟩

theorem stepsTo_step (event : Event) (hOpen : e.unsubscribeTimerRunning = false)
  (hAsks : ∀ engine : BtpEngine, engine.hasUnackedData = true → asks engine)
  (hImmediate : e.mLocalReceiveWindowSize ≤ immediateAckWindowThreshold → asks e.mBtpEngine)
  (hTimeout : event = .sendAckTimeout → e.sendAckTimerRunning = true →
    e.standAloneAckInFlight = false → asks e.mBtpEngine) :
  StepsTo asks e event (e.step p event) := by
  cases event with
  | send data => exact .inr ⟨e.core, .same _ _ rfl, (drives_send data).handled⟩
  | gattSendConfirmation => exact stepsTo_gattSendConfirmation hOpen hImmediate
  | subscribeComplete =>
    refine .inr ⟨_, .subscribed e.core, ?_⟩
    exact Drives.handled (e := { e with gattOperationInFlight := false, subscribing := false })
      drives_driveSending
  | receive allocSize fragment => exact stepsTo_receive hOpen hAsks allocSize fragment
  | sendAckTimeout => exact stepsTo_sendAckTimeout (hTimeout rfl)
  | ackReceivedTimeout =>
    change StepsTo asks e _ (e.handleAckReceivedTimeout p)
    unfold handleAckReceivedTimeout
    split
    · exact .inl ⟨doClose_wire _ _, doClose_abort⟩
    · exact .inr ⟨e.core, .same _ _ rfl, .of_same rfl⟩
  | close abortTransmission lost => exact stepsTo_close abortTransmission lost

end BLEEndPoint

end Chip.Ble
