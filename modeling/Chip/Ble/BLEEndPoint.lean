import Chip.Ble.BtpEngine

/-! A BLE end point (`BLEEndPoint.cpp`) from the end of the handshake on: it decides when fragments
and acknowledgements are sent, and keeps the receive windows of both sides. -/
namespace Chip.Ble

open Chip.System (PacketBuffer)

inductive BleRole where
  | central
  | peripheral
  deriving DecidableEq

inductive EndPointState where
  | ready
  | connecting
  | aborting
  | connected
  | closing
  | closed
  deriving DecidableEq

inductive BleError where
  | gattWriteFailed
  | gattIndicateFailed
  | gattSubscribeFailed
  | chipobleProtocolAbort
  | incompatibleProtocolVersions
  | noMemory
  | incorrectState
  | timerFailed
  | btp (err : BtpError)

/-- What goes over the air: a fragment that is sent, with the sequence number and the
acknowledgement that the engine gave it, or a fragment that is received and accepted. -/
inductive Wire where
  | sent (seq : UInt8) (ack : Option UInt8) (fragment : List UInt8)
  | received (fragment : List UInt8)
  deriving DecidableEq

structure BLEEndPoint where
  mRole : BleRole
  mState : EndPointState
  mBtpEngine : BtpEngine
  /-- The messages to send, each in one buffer. -/
  mSendQueue : List PacketBuffer
  /-- Whether a stand-alone acknowledgement is pending. -/
  mAckToSend : Bool
  mLocalReceiveWindowSize : UInt8
  mRemoteReceiveWindowSize : UInt8
  mReceiveWindowMaxSize : UInt8
  sendAckTimerRunning : Bool
  ackReceivedTimerRunning : Bool
  unsubscribeTimerRunning : Bool
  capabilitiesConfReceived : Bool
  didBeginSubscribe : Bool
  standAloneAckInFlight : Bool
  gattOperationInFlight : Bool
  /-- The operation in flight is the subscription. -/
  subscribing : Bool
  /-- What has gone over the air since the handshake, the oldest first. -/
  wire : List Wire

/-- What the platform answers while an event is handled. It is asked for each of these at most
once in an event. -/
structure BlePlatform where
  gattSend : Bool
  subscribe : Bool
  unsubscribe : Bool
  ackBuffer : Bool
  sendAckTimer : Bool
  ackReceivedTimer : Bool
  unsubscribeTimer : Bool

/-- `BLE_CONFIG_IMMEDIATE_ACK_WINDOW_THRESHOLD`. -/
def immediateAckWindowThreshold : UInt8 := 1

/-- `BTP_WINDOW_NO_ACK_SEND_THRESHOLD`. -/
def windowNoAckSendThreshold : UInt8 := 1

namespace BLEEndPoint

/-- The end of `HandleCapabilitiesResponseReceived`. The subscription may be in flight. -/
def connectedCentral (window : UInt8) (fragmentSize : Nat) (subscribing : Bool) : BLEEndPoint where
  mRole := .central
  mState := .connected
  mBtpEngine :=
    { BtpEngine.init false with mRxFragmentSize := fragmentSize, mTxFragmentSize := fragmentSize }
  mSendQueue := []
  mAckToSend := false
  mLocalReceiveWindowSize := window - 1
  mRemoteReceiveWindowSize := window
  mReceiveWindowMaxSize := window
  sendAckTimerRunning := true
  ackReceivedTimerRunning := false
  unsubscribeTimerRunning := false
  capabilitiesConfReceived := true
  didBeginSubscribe := true
  standAloneAckInFlight := false
  gattOperationInFlight := subscribing
  subscribing := subscribing
  wire := []

/-- The end of `HandleSubscribeReceived`. The indication of the response is in flight, and the
response is kept until it is confirmed. -/
def connectedPeripheral (window : UInt8) (fragmentSize : Nat) (response : PacketBuffer) :
  BLEEndPoint where
  mRole := .peripheral
  mState := .connected
  mBtpEngine :=
    { BtpEngine.init true with mRxFragmentSize := fragmentSize, mTxFragmentSize := fragmentSize }
  mSendQueue := [response]
  mAckToSend := false
  mLocalReceiveWindowSize := window
  mRemoteReceiveWindowSize := window - 1
  mReceiveWindowMaxSize := window
  sendAckTimerRunning := false
  ackReceivedTimerRunning := true
  unsubscribeTimerRunning := false
  capabilitiesConfReceived := false
  didBeginSubscribe := false
  standAloneAckInFlight := false
  gattOperationInFlight := true
  subscribing := false
  wire := []

variable (p : BlePlatform) (e : BLEEndPoint)

def isConnected : Bool := e.mState = .connected || e.mState = .closing

def free : BLEEndPoint :=
  { e with
    mBtpEngine := e.mBtpEngine.takeTxPacket.takeRxPacket.2
    mAckToSend := false
    ackReceivedTimerRunning := false
    sendAckTimerRunning := false
    unsubscribeTimerRunning := false }

/-- `FinalizeClose`. The connection may be lost. -/
def finalizeClose (lost : Bool) : BLEEndPoint :=
  let closed := { e with mState := .closed, mSendQueue := [] }
  if !lost && e.mRole = .central && e.didBeginSubscribe then
    let stopped := { closed with ackReceivedTimerRunning := false, sendAckTimerRunning := false }
    if !p.unsubscribe then stopped.free
    else if !p.unsubscribeTimer then { stopped.free with gattOperationInFlight := true }
    else { stopped with unsubscribeTimerRunning := true, gattOperationInFlight := true }
  else closed.free

def doClose (abortTransmission lost : Bool) : BLEEndPoint :=
  if (e.mState ≠ .closed && e.mState ≠ .closing) || (e.mState = .closing && abortTransmission) then
    if e.mBtpEngine.mTxState = .idle || abortTransmission then e.finalizeClose p lost
    else { e with mState := .closing }
  else e

def stopSendAckTimer : Proc BleError BLEEndPoint Unit :=
  Proc.modify fun e => { e with sendAckTimerRunning := false }

def startSendAckTimer : Proc BleError BLEEndPoint Unit := do
  let e ← Proc.read
  if e.sendAckTimerRunning then pure ()
  else if !p.sendAckTimer then Proc.fail .timerFailed
  else Proc.modify fun e => { e with sendAckTimerRunning := true }

def startAckReceivedTimer : Proc BleError BLEEndPoint Unit := do
  let e ← Proc.read
  if e.ackReceivedTimerRunning then pure ()
  else if !p.ackReceivedTimer then Proc.fail .timerFailed
  else Proc.modify fun e => { e with ackReceivedTimerRunning := true }

def stopAckReceivedTimer : Proc BleError BLEEndPoint Unit :=
  Proc.modify fun e => { e with ackReceivedTimerRunning := false }

def restartAckReceivedTimer : Proc BleError BLEEndPoint Unit := do
  let e ← Proc.read
  if !e.ackReceivedTimerRunning then Proc.fail .incorrectState
  else do
    stopAckReceivedTimer
    startAckReceivedTimer p

/-- `SendCharacteristic`, with the numbers of the fragment for the record. -/
def sendCharacteristic (seq : UInt8) (ack : Option UInt8) (fragment : List UInt8) :
  Proc BleError BLEEndPoint Unit := do
  Proc.modify fun e => { e with gattOperationInFlight := true }
  let e ← Proc.read
  if !p.gattSend then
    Proc.fail (if e.mRole = .central then .gattWriteFailed else .gattIndicateFailed)
  else Proc.modify fun e => { e with
    mRemoteReceiveWindowSize := e.mRemoteReceiveWindowSize - 1
    wire := e.wire ++ [.sent seq ack fragment] }

/-- `PrepareNextFragment`: whether an acknowledgement is piggybacked. -/
def prepareNextFragment (data : Option PacketBuffer) : Proc BleError BLEEndPoint Bool := do
  let e ← Proc.read
  let sentAck := e.sendAckTimerRunning
  let sent := e.mBtpEngine.handleCharacteristicSend data sentAck
  Proc.modify fun e => { e with
    mLocalReceiveWindowSize := if sentAck then e.mReceiveWindowMaxSize
      else e.mLocalReceiveWindowSize
    mBtpEngine := sent.2 }
  if !sent.1 then Proc.fail .chipobleProtocolAbort else pure sentAck

/-- What `SendNextMessage` and `ContinueMessageSend` have in common. -/
def sendFragment (data : Option PacketBuffer) : Proc BleError BLEEndPoint Unit := do
  let before ← Proc.read
  let sentAck ← prepareNextFragment data
  let e ← Proc.read
  sendCharacteristic p before.mBtpEngine.mTxNextSeqNum (before.mBtpEngine.ackWith sentAck)
    e.mBtpEngine.txFragment
  if sentAck then do
    stopSendAckTimer
    startAckReceivedTimer p
  else startAckReceivedTimer p

def sendNextMessage : Proc BleError BLEEndPoint Unit := do
  let e ← Proc.read
  Proc.modify fun e => { e with mSendQueue := e.mSendQueue.tail }
  sendFragment p e.mSendQueue.head?

def continueMessageSend : Proc BleError BLEEndPoint Unit := sendFragment p none

def doSendStandAloneAck : Proc BleError BLEEndPoint Unit := do
  let before ← Proc.read
  Proc.modify fun e => { e with mBtpEngine := e.mBtpEngine.encodeStandAloneAck.2 }
  sendCharacteristic p before.mBtpEngine.mTxNextSeqNum (before.mBtpEngine.ackWith true)
    before.mBtpEngine.encodeStandAloneAck.1
  Proc.modify fun e => { e with
    mLocalReceiveWindowSize := e.mReceiveWindowMaxSize
    standAloneAckInFlight := true }
  startAckReceivedTimer p

/-- Whether `DriveSending` may not send anything. -/
def cannotSend : Bool :=
  (e.mRemoteReceiveWindowSize ≤ windowNoAckSendThreshold && !e.sendAckTimerRunning &&
    !e.mAckToSend) || e.mRemoteReceiveWindowSize = 0 || e.gattOperationInFlight

def driveSending : Proc BleError BLEEndPoint Unit := do
  let e ← Proc.read
  if e.cannotSend then pure ()
  else if e.mAckToSend then doSendStandAloneAck p
  else
    match e.mBtpEngine.mTxState with
    | .idle => if e.mSendQueue.isEmpty then pure () else sendNextMessage p
    | .inProgress => continueMessageSend p
    | .complete => do
        Proc.modify fun e => { e with mBtpEngine := e.mBtpEngine.takeTxPacket }
        if !e.mSendQueue.isEmpty then sendNextMessage p
        else if e.mState = .closing && !e.mBtpEngine.mExpectingAck then
          Proc.modify fun e => e.finalizeClose p false
        else pure ()
    | .error => pure ()

def driveStandAloneAck : Proc BleError BLEEndPoint Unit := do
  stopSendAckTimer
  let e ← Proc.read
  if !e.mAckToSend && !p.ackBuffer then Proc.fail .noMemory
  else do
    Proc.modify fun e => { e with mAckToSend := true }
    driveSending p

/-- `Send`, of a message in one buffer. -/
def send (data : PacketBuffer) : Proc BleError BLEEndPoint Unit := do
  let e ← Proc.read
  if !e.isConnected then Proc.fail .incorrectState
  else do
    Proc.modify fun e => { e with mSendQueue := e.mSendQueue ++ [data] }
    driveSending p

def immediateAckDue : Bool :=
  e.mLocalReceiveWindowSize ≤ immediateAckWindowThreshold && e.mSendQueue.isEmpty

def handleHandshakeConfirmationReceived : Proc BleError BLEEndPoint Unit := do
  Proc.modify fun e => { e with mSendQueue := e.mSendQueue.tail }
  let e ← Proc.read
  if e.mRole = .central then
    if !p.subscribe then Proc.fail .gattSubscribeFailed
    else Proc.modify fun e => { e with
      didBeginSubscribe := true
      gattOperationInFlight := true
      subscribing := true }
  else
    match e.mState with
    | .connected => if e.immediateAckDue then driveStandAloneAck p else driveSending p
    | .aborting => Proc.fail .incompatibleProtocolVersions
    | _ => pure ()

def handleFragmentConfirmationReceived : Proc BleError BLEEndPoint Unit := do
  let e ← Proc.read
  if e.unsubscribeTimerRunning then pure ()
  else if !e.isConnected then Proc.fail .incorrectState
  else do
    Proc.modify fun e => { e with
      mAckToSend := e.mAckToSend && !e.standAloneAckInFlight
      standAloneAckInFlight := false }
    let e ← Proc.read
    if e.immediateAckDue && e.mBtpEngine.mTxState ≠ .inProgress then driveStandAloneAck p
    else driveSending p

def handleGattSendConfirmationReceived : Proc BleError BLEEndPoint Unit := do
  Proc.modify fun e => { e with gattOperationInFlight := false }
  let e ← Proc.read
  if !e.capabilitiesConfReceived then do
    Proc.modify fun e => { e with capabilitiesConfReceived := true }
    handleHandshakeConfirmationReceived p
  else handleFragmentConfirmationReceived p

def handleSubscribeComplete : Proc BleError BLEEndPoint Unit := do
  Proc.modify fun e => { e with gattOperationInFlight := false, subscribing := false }
  driveSending p

/-- `AdjustRemoteReceiveWindow`, with the arithmetic of `int` and the conversion of the result. -/
def adjustRemoteReceiveWindow (lastReceivedAck maxRemoteWindowSize newestUnackedSentSeqNum : UInt8) :
  UInt8 :=
  let newRemoteWindowBoundary : Int := lastReceivedAck.toNat + maxRemoteWindowSize.toNat
  if newRemoteWindowBoundary > 255 && newestUnackedSentSeqNum < lastReceivedAck then
    UInt8.ofInt (newRemoteWindowBoundary - (newestUnackedSentSeqNum.toNat + 255))
  else UInt8.ofInt (newRemoteWindowBoundary - newestUnackedSentSeqNum.toNat)

/-- The acknowledgement of a received fragment; `false` if the end point has closed. -/
def handleReceivedAck (receivedAck : UInt8) : Proc BleError BLEEndPoint Bool := do
  let e ← Proc.read
  if !e.mBtpEngine.mExpectingAck then do
    stopAckReceivedTimer
    if e.mState = .closing && e.mSendQueue.isEmpty && e.mBtpEngine.mTxState = .idle then do
      Proc.modify fun e => e.finalizeClose p false
      return false
    else adjust
  else do
    restartAckReceivedTimer p
    adjust
where
  /-- The window is adjusted, and what waited for it is sent. -/
  adjust : Proc BleError BLEEndPoint Bool := do
    Proc.modify fun e => { e with
      mRemoteReceiveWindowSize := adjustRemoteReceiveWindow receivedAck e.mReceiveWindowMaxSize
        e.mBtpEngine.mTxNewestUnackedSeqNum }
    driveSending p
    return true

/-- The end of `Receive`: a stand-alone acknowledgement is sent at once or later. -/
def prepareAck : Proc BleError BLEEndPoint Unit := do
  let e ← Proc.read
  if e.mBtpEngine.hasUnackedData then
    if e.mLocalReceiveWindowSize ≤ immediateAckWindowThreshold && !e.gattOperationInFlight then
      driveStandAloneAck p
    else startSendAckTimer p
  else pure ()

/-- A message that is complete is taken from the engine. It is passed up unless the end point is
closing. -/
def takeMessage : Proc BleError BLEEndPoint (Option (List (List UInt8))) := do
  let e ← Proc.read
  if e.mBtpEngine.mRxState = .complete then do
    Proc.modify fun e => { e with mBtpEngine := e.mBtpEngine.takeRxPacket.2 }
    return if e.mState = .closing then none else some e.mBtpEngine.takeRxPacket.1
  else return none

def acceptFragment (allocSize : Nat) (fragment : List UInt8) :
  Proc BleError BLEEndPoint (Option UInt8) := do
  let e ← Proc.read
  let handled := e.mBtpEngine.handleCharacteristicReceived allocSize fragment
  Proc.modify fun e => { e with mBtpEngine := handled.2.2 }
  match handled.2.1 with
  | .error err => Proc.fail (.btp err)
  | .ok () => do
      Proc.modify fun e => { e with
        mLocalReceiveWindowSize := e.mLocalReceiveWindowSize - 1
        wire := e.wire ++ [.received fragment] }
      return handled.1

/-- `Receive` after the handshake: the message that is passed up, if any. -/
def receive (allocSize : Nat) (fragment : List UInt8) :
  Proc BleError BLEEndPoint (Option (List (List UInt8))) := do
  let e ← Proc.read
  if e.unsubscribeTimerRunning then return none
  else if !e.isConnected then Proc.fail .incorrectState
  else do
    let ack ← acceptFragment allocSize fragment
    let goOn ← match ack with
      | none => pure true
      | some receivedAck => handleReceivedAck p receivedAck
    if goOn then do
      prepareAck p
      takeMessage
    else return none

def orClose {α : Type} (handler : Proc BleError BLEEndPoint α) : BLEEndPoint :=
  match handler e with
  | (.ok _, after) => after
  | (.error _, after) => after.doClose p true false

def handleSendAckTimeout : BLEEndPoint :=
  if e.sendAckTimerRunning then
    let expired := { e with sendAckTimerRunning := false }
    if expired.standAloneAckInFlight then expired else expired.orClose p (driveStandAloneAck p)
  else e

def handleAckReceivedTimeout : BLEEndPoint :=
  if e.ackReceivedTimerRunning then
    { e with ackReceivedTimerRunning := false }.doClose p true false
  else e

inductive Event where
  | send (data : PacketBuffer)
  | gattSendConfirmation
  | subscribeComplete
  | receive (allocSize : Nat) (fragment : List UInt8)
  | sendAckTimeout
  | ackReceivedTimeout
  | close (abortTransmission lost : Bool)

def Event.isReceive : Event → Bool
  | .receive .. => true
  | _ => false

def step : Event → BLEEndPoint
  | .send data => e.orClose p (send p data)
  | .gattSendConfirmation => e.orClose p (handleGattSendConfirmationReceived p)
  | .subscribeComplete => e.orClose p (handleSubscribeComplete p)
  | .receive allocSize fragment => e.orClose p (receive p allocSize fragment)
  | .sendAckTimeout => e.handleSendAckTimeout p
  | .ackReceivedTimeout => e.handleAckReceivedTimeout p
  | .close abortTransmission lost => e.doClose p abortTransmission lost

end BLEEndPoint

end Chip.Ble
