import Chip.Ble.BLEEndPoint

/-! The handshake of a BLE end point: the peripheral answers the capabilities request of the central,
and both sides take the fragment size and the receive window from the two messages. -/
namespace Chip.Ble

open Chip.System (PacketBuffer)

inductive HandshakeError where
  | messageIncomplete
  | invalidMessage
  | noMemory
  | timerFailed
  | invalidFragmentSize
  | incompatibleProtocolVersions
  | incorrectState
  | gattIndicateFailed
  | noConnectCompleteCallback
  | connectionRefused

def capabilitiesMsgCheckByte1 : UInt8 := 0x65
def capabilitiesMsgCheckByte2 : UInt8 := 0x6C

/-- `BleTransportCapabilitiesRequestMessage`. -/
structure CapabilitiesRequest where
  /-- Four bytes with two versions each. -/
  mSupportedProtocolVersions : List UInt8
  mMtu : UInt16
  mWindowSize : UInt8

/-- `BleTransportCapabilitiesResponseMessage`. -/
structure CapabilitiesResponse where
  mSelectedProtocolVersion : UInt8
  mFragmentSize : UInt16
  mWindowSize : UInt8

def uint16Of (low high : UInt8) : UInt16 := UInt16.ofNat (low.toNat + 256 * high.toNat)

def CapabilitiesRequest.decode : List UInt8 → Except HandshakeError CapabilitiesRequest
  | check1 :: check2 :: v0 :: v1 :: v2 :: v3 :: low :: high :: window :: _ =>
    if check1 ≠ capabilitiesMsgCheckByte1 then .error .invalidMessage
    else if check2 ≠ capabilitiesMsgCheckByte2 then .error .invalidMessage
    else .ok ⟨[v0, v1, v2, v3], uint16Of low high, window⟩
  | _ => .error .messageIncomplete

def CapabilitiesResponse.decode : List UInt8 → Except HandshakeError CapabilitiesResponse
  | check1 :: check2 :: version :: low :: high :: window :: _ =>
    if check1 ≠ capabilitiesMsgCheckByte1 then .error .invalidMessage
    else if check2 ≠ capabilitiesMsgCheckByte2 then .error .invalidMessage
    else .ok ⟨version, uint16Of low high, window⟩
  | _ => .error .messageIncomplete

def CapabilitiesResponse.encode (resp : CapabilitiesResponse) : List UInt8 :=
  [capabilitiesMsgCheckByte1, capabilitiesMsgCheckByte2, resp.mSelectedProtocolVersion,
    UInt8.ofNat (resp.mFragmentSize.toNat % 256), UInt8.ofNat (resp.mFragmentSize.toNat / 256),
    resp.mWindowSize]

/-- `kBleTransportProtocolVersion_None`. -/
def protocolVersionNone : UInt8 := 0

/-- `CHIP_BLE_TRANSPORT_PROTOCOL_MIN_SUPPORTED_VERSION`. -/
def minSupportedVersion : UInt8 := 4

/-- `CHIP_BLE_TRANSPORT_PROTOCOL_MAX_SUPPORTED_VERSION`. -/
def maxSupportedVersion : UInt8 := 4

/-- The versions of a request, the lower four bits of a byte before the higher ones. -/
def CapabilitiesRequest.versions (req : CapabilitiesRequest) : List UInt8 :=
  req.mSupportedProtocolVersions.flatMap fun byte => [byte &&& 0x0F, (byte >>> 4) &&& 0x0F]

/-- The loop of `GetHighestSupportedProtocolVersion`. It ends at the version zero. -/
def highestVersion : UInt8 → List UInt8 → UInt8
  | best, [] => best
  | best, version :: rest =>
    if minSupportedVersion ≤ version && version ≤ maxSupportedVersion && best < version then
      highestVersion version rest
    else if version = protocolVersionNone then best
    else highestVersion best rest

/-- `GetHighestSupportedProtocolVersion`. -/
def CapabilitiesRequest.highestSupportedProtocolVersion (req : CapabilitiesRequest) : UInt8 :=
  highestVersion protocolVersionNone req.versions

def sMaxFragmentSize : UInt16 := 244

def sDefaultFragmentSize : UInt16 := 20

/-- `BLE_MAX_RECEIVE_WINDOW_SIZE`. -/
def maxReceiveWindowSize : UInt8 := 6

namespace BLEEndPoint

def init (role : BleRole) : BLEEndPoint where
  mRole := role
  mState := .ready
  mBtpEngine := BtpEngine.init (role = .peripheral)
  mSendQueue := []
  mAckToSend := false
  mLocalReceiveWindowSize := 0
  mRemoteReceiveWindowSize := 0
  mReceiveWindowMaxSize := 0
  sendAckTimerRunning := false
  ackReceivedTimerRunning := false
  unsubscribeTimerRunning := false
  capabilitiesConfReceived := false
  didBeginSubscribe := false
  standAloneAckInFlight := false
  gattOperationInFlight := false
  subscribing := false
  wire := []

/-- The MTU that the central has seen, or else that of the platform. -/
def mtuOf (req : CapabilitiesRequest) (platformMtu : UInt16) : UInt16 :=
  if 0 < req.mMtu then req.mMtu else platformMtu

/-- The fragment size that the peripheral selects. Three bytes are taken off for the header of ATT,
in the arithmetic of `uint16_t`. -/
def selectFragmentSize (mtu : UInt16) : UInt16 :=
  if 0 < mtu then min (mtu - 3) sMaxFragmentSize else sDefaultFragmentSize

def responseTo (req : CapabilitiesRequest) (platformMtu : UInt16) : CapabilitiesResponse where
  mSelectedProtocolVersion := req.highestSupportedProtocolVersion
  mFragmentSize := selectFragmentSize (mtuOf req platformMtu)
  mWindowSize := min req.mWindowSize maxReceiveWindowSize

def bufferOf (data : List UInt8) : PacketBuffer where
  memory := data
  payload := 0
  len := data.length
  fits := by rw [Nat.zero_add]

/-- `HandleCapabilitiesRequestReceived`. Memory and the timer may not be granted. -/
def handleCapabilitiesRequestReceived (granted timer : Bool) (platformMtu : UInt16)
  (data : List UInt8) : Proc HandshakeError BLEEndPoint Unit := do
  Proc.modify fun e => { e with mState := .connecting }
  let req ← Proc.lift (CapabilitiesRequest.decode data)
  Proc.verify (granted = true) .noMemory
  let resp := responseTo req platformMtu
  Proc.modify fun e => { e with
    mRemoteReceiveWindowSize := resp.mWindowSize
    mLocalReceiveWindowSize := resp.mWindowSize
    mReceiveWindowMaxSize := resp.mWindowSize }
  if resp.mSelectedProtocolVersion = protocolVersionNone then
    Proc.modify fun e => { e with mState := .aborting }
  else
    Proc.modify fun e => { e with mBtpEngine := { e.mBtpEngine with
      mRxFragmentSize := resp.mFragmentSize.toNat
      mTxFragmentSize := resp.mFragmentSize.toNat } }
  Proc.modify fun e => { e with mSendQueue := e.mSendQueue ++ [bufferOf resp.encode] }
  Proc.verify (timer = true) .timerFailed

/-- `HandleSubscribeReceived` up to its errors: the response is sent as an indication. The transport
may refuse the connection. -/
def handleSubscribeReceived (p : BlePlatform) (accepts : Bool) :
  Proc HandshakeError BLEEndPoint Unit := do
  let e ← Proc.read
  Proc.verify (e.mState = .connecting ∨ e.mState = .aborting) .incorrectState
  Proc.verify (e.mSendQueue ≠ []) .incorrectState
  Proc.modify fun e => { e with gattOperationInFlight := true }
  if !p.gattSend then do
    Proc.modify fun e => { e with mSendQueue := [] }
    Proc.fail .gattIndicateFailed
  else do
    Proc.modify fun e => { e with mRemoteReceiveWindowSize := e.mRemoteReceiveWindowSize - 1 }
    Proc.verify (p.ackReceivedTimer = true) .timerFailed
    Proc.modify fun e => { e with ackReceivedTimerRunning := true }
    if e.mState = .aborting then pure ()
    else do
      Proc.modify fun e => { e with mState := .connected }
      Proc.verify (accepts = true) .connectionRefused

/-- A central that has written its request and has begun to subscribe. -/
def awaitingResponse (subscribing : Bool) : BLEEndPoint :=
  { init .central with
    mState := .connecting
    capabilitiesConfReceived := true
    didBeginSubscribe := true
    gattOperationInFlight := subscribing
    subscribing := subscribing }

/-- `HandleCapabilitiesResponseReceived`. The application may have set no callback. -/
def handleCapabilitiesResponseReceived (p : BlePlatform) (callback : Bool) (data : List UInt8) :
  Proc HandshakeError BLEEndPoint Unit := do
  let resp ← Proc.lift (CapabilitiesResponse.decode data)
  Proc.verify (0 < resp.mFragmentSize) .invalidFragmentSize
  Proc.verify (minSupportedVersion ≤ resp.mSelectedProtocolVersion ∧
    resp.mSelectedProtocolVersion ≤ maxSupportedVersion) .incompatibleProtocolVersions
  Proc.modify fun e => { e with
    mBtpEngine := { e.mBtpEngine with
      mRxFragmentSize := (min resp.mFragmentSize sMaxFragmentSize).toNat
      mTxFragmentSize := (min resp.mFragmentSize sMaxFragmentSize).toNat }
    mRemoteReceiveWindowSize := resp.mWindowSize
    mLocalReceiveWindowSize := resp.mWindowSize
    mReceiveWindowMaxSize := resp.mWindowSize }
  Proc.modify fun e => { e with mLocalReceiveWindowSize := e.mLocalReceiveWindowSize - 1 }
  Proc.verify (p.sendAckTimer = true) .timerFailed
  Proc.modify fun e => { e with sendAckTimerRunning := true, mState := .connected }
  Proc.verify (callback = true) .noConnectCompleteCallback

end BLEEndPoint

end Chip.Ble
