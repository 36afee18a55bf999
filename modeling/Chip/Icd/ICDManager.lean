import Mathlib.Data.List.Basic

/-! The operating mode of an intermittently connected device (`ICDManager.cpp`) and the device
events that drive it (`ICDEventManager.cpp`). A timer of the system layer is armed or not;
starting one succeeds. -/
namespace Chip.Icd

inductive OperationalState where
  | idleMode
  | activeMode
  deriving DecidableEq, Repr

inductive KeepActiveFlags where
  | kCommissioningWindowOpen
  | kFailSafeArmed
  | kExpectingMsgResponse
  | kAwaitingMsgAck
  deriving DecidableEq, Repr

/-- The bits of a flag. Those of the third one are the bits of the first two. -/
def KeepActiveFlags.bits : KeepActiveFlags → UInt8
  | .kCommissioningWindowOpen => 0x01
  | .kFailSafeArmed => 0x02
  | .kExpectingMsgResponse => 0x03
  | .kAwaitingMsgAck => 0x04

/-- The manager, with the timers it has in the system layer. `mStateObserver` tells whether the
pointer is set, and `activeModeThreshold` is what the server's configuration returns. -/
structure ICDManager where
  mKeepActiveFlags : UInt8 := 0
  mOperationalState : OperationalState := .idleMode
  mStateObserver : Bool := false
  idleModeTimer : Bool := false
  activeModeTimer : Bool := false
  activeModeThreshold : UInt16

namespace ICDManager

/-- `UpdateOperationState`; `none` where it calls the observer and there is none. -/
def updateOperationState (manager : ICDManager) (state : OperationalState) : Option ICDManager :=
  if manager.mOperationalState = state ∧ state ≠ .activeMode then some manager
  else
    match state with
    | .idleMode => some { manager with mOperationalState := .idleMode, idleModeTimer := true }
    | .activeMode =>
      if manager.mOperationalState = .idleMode then
        if manager.mStateObserver then
          some { manager with
            idleModeTimer := false, mOperationalState := .activeMode, activeModeTimer := true }
        else none
      else
        -- the timer is pushed back, or started again if it has run out, unless the time is zero
        some { manager with
          activeModeTimer := manager.activeModeTimer || decide (0 < manager.activeModeThreshold) }

def hasAnyRequirement (manager : ICDManager) : Bool := manager.mKeepActiveFlags ≠ 0

/-- `BitFlags::Set`, which sets or clears. -/
def setFlags (flags : UInt8) (flag : KeepActiveFlags) (isSet : Bool) : UInt8 :=
  if isSet then flags ||| flag.bits else flags &&& ~~~flag.bits

def setKeepActiveModeRequirements (manager : ICDManager) (flag : KeepActiveFlags) (state : Bool) :
  Option ICDManager :=
  let manager := { manager with mKeepActiveFlags := setFlags manager.mKeepActiveFlags flag state }
  if manager.mOperationalState = .idleMode ∧ manager.hasAnyRequirement = true then
    manager.updateOperationState .activeMode
  else if manager.mOperationalState = .activeMode ∧ manager.hasAnyRequirement = false ∧
      manager.activeModeTimer = false then
    manager.updateOperationState .idleMode
  else some manager

def onIdleModeDone (manager : ICDManager) : Option ICDManager :=
  manager.updateOperationState .activeMode

def onActiveModeDone (manager : ICDManager) : Option ICDManager :=
  if manager.hasAnyRequirement = false then manager.updateOperationState .idleMode else some manager

/-- `Init`, which does not touch the flags. -/
def init (manager : ICDManager) : Option ICDManager :=
  { manager with mStateObserver := true }.updateOperationState .activeMode

/-- `Shutdown`, which does not touch the flags or the observer either. -/
def shutdown (manager : ICDManager) : ICDManager :=
  { manager with
    idleModeTimer := false, activeModeTimer := false, mOperationalState := .idleMode }

end ICDManager

inductive ChipDeviceEvent where
  | kCommissioningWindowStatusChanged (opened : Bool)
  | kFailSafeStateChanged (armed : Bool)
  | kChipMsgSentEvent (expectResponse : Bool)
  | kChipMsgRxEventHandled (wasReceived clearsExpectedResponse : Bool)
  | kICDMsgAckSyncEvent (awaitingAck : Bool)
  | kAppWakeUpEvent
  | other
  deriving Repr

inductive HandlerArg where
  | icdManager
  | nullptr
  deriving DecidableEq

/-- The manager, the static counters of `ICDEventManager`, and the arguments with which its
handler is registered at the platform manager. -/
structure Device where
  manager : ICDManager
  expectedMsgCount : UInt8 := 0
  awaitingAckCount : UInt8 := 0
  eventHandlers : List HandlerArg := []

namespace Device

def addEventHandler (device : Device) (arg : HandlerArg) : Device :=
  if arg ∈ device.eventHandlers then device
  else { device with eventHandlers := arg :: device.eventHandlers }

def removeEventHandler (device : Device) (arg : HandlerArg) : Device :=
  { device with eventHandlers := device.eventHandlers.filter (· ≠ arg) }

def callManager (device : Device) (call : ICDManager → Option ICDManager) : Option Device :=
  (call device.manager).map fun manager => { device with manager }

def icdEventHandler (event : ChipDeviceEvent) (device : Device) : HandlerArg → Option Device
  | .nullptr => some device
  | .icdManager =>
    match event with
    | .kCommissioningWindowStatusChanged opened =>
      device.callManager (·.setKeepActiveModeRequirements .kCommissioningWindowOpen opened)
    | .kFailSafeStateChanged armed =>
      device.callManager (·.setKeepActiveModeRequirements .kFailSafeArmed armed)
    | .kChipMsgSentEvent true =>
      { device with expectedMsgCount := device.expectedMsgCount + 1 }.callManager
        (·.setKeepActiveModeRequirements .kExpectingMsgResponse true)
    | .kChipMsgSentEvent false => device.callManager (·.updateOperationState .activeMode)
    | .kChipMsgRxEventHandled _ true =>
      let device := if device.expectedMsgCount > 0 then
        { device with expectedMsgCount := device.expectedMsgCount - 1 } else device
      if device.expectedMsgCount = 0 then
        device.callManager (·.setKeepActiveModeRequirements .kExpectingMsgResponse false)
      else some device
    | .kChipMsgRxEventHandled true false => device.callManager (·.updateOperationState .activeMode)
    | .kChipMsgRxEventHandled false false => some device
    | .kICDMsgAckSyncEvent awaitingAck =>
      let device := if awaitingAck then
          { device with awaitingAckCount := device.awaitingAckCount + 1 }
        else if device.awaitingAckCount > 0 then
          { device with awaitingAckCount := device.awaitingAckCount - 1 }
        else device
      device.callManager
        (·.setKeepActiveModeRequirements .kAwaitingMsgAck (device.awaitingAckCount ≠ 0))
    | .kAppWakeUpEvent => device.callManager (·.updateOperationState .activeMode)
    | .other => some device

/-- The platform manager hands the event to every registered handler. -/
def dispatchEvent (device : Device) (event : ChipDeviceEvent) : Option Device :=
  device.eventHandlers.foldlM (icdEventHandler event) device

/-- `Server::Init`: the manager first, then the event manager. -/
def init (device : Device) : Option Device :=
  (device.callManager ICDManager.init).map (addEventHandler · .icdManager)

/-- `Server::Shutdown`. The handler was registered with the manager as its argument. -/
def shutdown (device : Device) : Device :=
  let device := device.removeEventHandler .nullptr
  { device with manager := device.manager.shutdown }

end Device

inductive Action where
  | init
  | shutdown
  | setKeepActiveModeRequirements (flag : KeepActiveFlags) (state : Bool)
  | updateOperationState (state : OperationalState)
  | event (event : ChipDeviceEvent)
  | idleModeTimerExpires
  | activeModeTimerExpires

/-- One action; `none` where it cannot happen, a timer not being armed, or calls an observer
that is not there. -/
def Device.step (device : Device) : Action → Option Device
  | .init => device.init
  | .shutdown => some device.shutdown
  | .setKeepActiveModeRequirements flag state =>
    device.callManager (·.setKeepActiveModeRequirements flag state)
  | .updateOperationState state => device.callManager (·.updateOperationState state)
  | .event event => device.dispatchEvent event
  | .idleModeTimerExpires =>
    if device.manager.idleModeTimer then
      device.callManager fun manager => { manager with idleModeTimer := false }.onIdleModeDone
    else none
  | .activeModeTimerExpires =>
    if device.manager.activeModeTimer then
      device.callManager fun manager => { manager with activeModeTimer := false }.onActiveModeDone
    else none

end Chip.Icd
