import Chip.Icd.ICDManager

/-! When the device may sleep. The requirements that were set since the last start are kept
beside the device; the manager's flags stand for them as long as no flag is cleared whose bits
another requirement needs, and the device is started with no flag left from before. -/
namespace Chip.Icd

open ICDManager Device

structure Requirements where
  running : Bool := false
  outstanding : KeepActiveFlags → Bool := fun _ => false
  expectedMsgs : Nat := 0
  awaitedAcks : Nat := 0

namespace Requirements

variable (requirements : Requirements)

def set (flag : KeepActiveFlags) (state : Bool) : Requirements :=
  { requirements with
    outstanding := fun other => if other = flag then state else requirements.outstanding other }

/-- The requirements after an event of a running device. A response is required until as many
responses have come as messages were sent, and acknowledgements likewise. -/
def followEvent : ChipDeviceEvent → Requirements
  | .kCommissioningWindowStatusChanged opened => requirements.set .kCommissioningWindowOpen opened
  | .kFailSafeStateChanged armed => requirements.set .kFailSafeArmed armed
  | .kChipMsgSentEvent expectResponse =>
    if expectResponse then
      { requirements with expectedMsgs := requirements.expectedMsgs + 1 }.set
        .kExpectingMsgResponse true
    else requirements
  | .kChipMsgRxEventHandled _ clearsExpectedResponse =>
    if clearsExpectedResponse then
      let requirements := { requirements with expectedMsgs := requirements.expectedMsgs - 1 }
      if requirements.expectedMsgs = 0 then requirements.set .kExpectingMsgResponse false
      else requirements
    else requirements
  | .kICDMsgAckSyncEvent awaitingAck =>
    let requirements := { requirements with
      awaitedAcks := if awaitingAck then requirements.awaitedAcks + 1
        else requirements.awaitedAcks - 1 }
    requirements.set .kAwaitingMsgAck (requirements.awaitedAcks ≠ 0)
  | .kAppWakeUpEvent | .other => requirements

/-- The requirements after an action. Those of a device that is shut down are forgotten. -/
def follow : Action → Requirements
  | .init => { running := true }
  | .shutdown => {}
  | .setKeepActiveModeRequirements flag state =>
    if requirements.running then requirements.set flag state else requirements
  | .event event => if requirements.running then requirements.followEvent event else requirements
  | .updateOperationState _ | .idleModeTimerExpires | .activeModeTimerExpires => requirements

/-- Clearing a flag leaves another bit set, or no other requirement is outstanding. -/
def MayClear (device : Device) (flag : KeepActiveFlags) : Prop :=
  ICDManager.setFlags device.manager.mKeepActiveFlags flag false = 0 →
    ∀ other, other ≠ flag → requirements.outstanding other = false

/-- An event that does not confuse the requirements of a running device. -/
def OrderlyEvent (device : Device) : ChipDeviceEvent → Prop
  | .kCommissioningWindowStatusChanged opened =>
    opened = false → requirements.MayClear device .kCommissioningWindowOpen
  | .kFailSafeStateChanged armed => armed = false → requirements.MayClear device .kFailSafeArmed
  | .kChipMsgSentEvent expectResponse =>
    expectResponse = true → device.expectedMsgCount ≠ 255
  | .kChipMsgRxEventHandled _ clearsExpectedResponse =>
    clearsExpectedResponse = true → device.expectedMsgCount ≤ 1 →
      requirements.MayClear device .kExpectingMsgResponse
  | .kICDMsgAckSyncEvent true => device.awaitingAckCount ≠ 255
  | .kICDMsgAckSyncEvent false =>
    device.awaitingAckCount ≤ 1 → requirements.MayClear device .kAwaitingMsgAck
  | .kAppWakeUpEvent | .other => True

end Requirements

def Device.Ignores (device : Device) : ChipDeviceEvent → Prop
  | .kCommissioningWindowStatusChanged opened =>
    opened = false ∧ device.manager.mKeepActiveFlags = 0
  | .kFailSafeStateChanged armed => armed = false ∧ device.manager.mKeepActiveFlags = 0
  | .kChipMsgRxEventHandled wasReceived clearsExpectedResponse =>
    if clearsExpectedResponse then
      device.expectedMsgCount = 0 ∧ device.manager.mKeepActiveFlags = 0
    else wasReceived = false
  | .kICDMsgAckSyncEvent awaitingAck =>
    awaitingAck = false ∧ device.awaitingAckCount = 0 ∧ device.manager.mKeepActiveFlags = 0
  | .kChipMsgSentEvent _ | .kAppWakeUpEvent => False
  | .other => True

/-- The actions after which the manager's flags still stand for the requirements: a start finds
no flag and no count left from before, a flag is cleared only when no other requirement loses
its last bit, a count does not run over, the device is not told to sleep while a flag is set,
and between shutdown and start only events come for which there is nothing to do. -/
def Orderly (requirements : Requirements) (device : Device) : Action → Prop
  | .init => device.manager.mKeepActiveFlags = 0 ∧ device.expectedMsgCount = 0 ∧
      device.awaitingAckCount = 0
  | .setKeepActiveModeRequirements flag state =>
    requirements.running = true → state = false → requirements.MayClear device flag
  | .updateOperationState state =>
    requirements.running = true → state = .idleMode → device.manager.mKeepActiveFlags = 0
  | .event event =>
    if requirements.running then requirements.OrderlyEvent device event
    else device.eventHandlers = [] ∨ device.Ignores event
  | .shutdown | .idleModeTimerExpires | .activeModeTimerExpires => True

/-- The device and its requirements after a run from power-up, each of its actions one that is
allowed where it happens. -/
inductive Run (Allowed : Requirements → Device → Action → Prop) (activeModeThreshold : UInt16) :
    Device → Requirements → Prop
  | start : Run Allowed activeModeThreshold { manager := { activeModeThreshold } } {}
  | step {device device' requirements} (action : Action) :
      Run Allowed activeModeThreshold device requirements → Allowed requirements device action →
      device.step action = some device' → Run Allowed activeModeThreshold device' (requirements.follow action)

/-- The device sleeps only with nothing outstanding and the idle timer armed, and stays awake
only with the active timer armed or something outstanding. -/
structure SleepsRightly (device : Device) (requirements : Requirements) : Prop where
  idle : device.manager.mOperationalState = .idleMode →
    (∀ flag, requirements.outstanding flag = false) ∧ device.manager.idleModeTimer = true
  active : device.manager.mOperationalState = .activeMode →
    device.manager.activeModeTimer = true ∨ ∃ flag, requirements.outstanding flag = true

namespace ICDManager

variable {manager manager' : ICDManager} {flag : KeepActiveFlags} {state : Bool}

/-- An active manager has its timer or a flag. This holds at any time. -/
def HasReason (manager : ICDManager) : Prop :=
  manager.mOperationalState = .activeMode →
    manager.activeModeTimer = true ∨ manager.mKeepActiveFlags ≠ 0

/-- An idle manager has its timer and no flag. This holds while the device is running. -/
def AtRest (manager : ICDManager) : Prop :=
  manager.mOperationalState = .idleMode →
    manager.idleModeTimer = true ∧ manager.mKeepActiveFlags = 0

theorem hasAnyRequirement_eq_true_iff :
  manager.hasAnyRequirement = true ↔ manager.mKeepActiveFlags ≠ 0 := by
  simp [hasAnyRequirement]

theorem hasAnyRequirement_eq_false_iff :
  manager.hasAnyRequirement = false ↔ manager.mKeepActiveFlags = 0 := by
  simp [hasAnyRequirement]

theorem updateOperationState_active (h : manager.updateOperationState .activeMode = some manager') :
  manager'.mKeepActiveFlags = manager.mKeepActiveFlags ∧ manager'.AtRest ∧
    (manager.HasReason → manager'.HasReason) := by
  rw [updateOperationState, if_neg (by simp)] at h
  split at h
  · split at h
    · cases h
      exact ⟨rfl, fun hIdle => (by cases hIdle), fun _ _ => .inl rfl⟩
    · cases h
  · rename_i hActive
    cases h
    refine ⟨rfl, fun hIdle => absurd hIdle hActive, fun hReason hMode => ?_⟩
    exact (hReason hMode).imp_left fun hTimer => by simp [hTimer]

theorem updateOperationState_idle (h : manager.updateOperationState .idleMode = some manager') :
  manager'.mKeepActiveFlags = manager.mKeepActiveFlags ∧ manager'.HasReason ∧
    (manager.mKeepActiveFlags = 0 → manager.AtRest → manager'.AtRest) := by
  rw [updateOperationState] at h
  split at h
  · rename_i hIdle
    cases h
    exact ⟨rfl, fun hMode => by simp [hIdle.1] at hMode, fun _ => id⟩
  · cases h
    exact ⟨rfl, fun hMode => (by cases hMode), fun hFlags _ _ => ⟨rfl, hFlags⟩⟩

theorem setKeepActiveModeRequirements_spec
  (h : manager.setKeepActiveModeRequirements flag state = some manager') :
  manager'.mKeepActiveFlags = setFlags manager.mKeepActiveFlags flag state ∧
    manager'.HasReason ∧ (manager.AtRest → manager'.AtRest) := by
  rw [setKeepActiveModeRequirements] at h
  dsimp only at h
  simp only [hasAnyRequirement_eq_true_iff, hasAnyRequirement_eq_false_iff] at h
  split at h
  · rename_i hWake
    obtain ⟨hFlags, hRest, hReason'⟩ := updateOperationState_active h
    exact ⟨hFlags, hReason' fun hMode => by simp [hWake.1] at hMode, fun _ => hRest⟩
  · rename_i hNoWake
    split at h
    · rename_i hSleep
      obtain ⟨hFlags, hReason', hRest⟩ := updateOperationState_idle h
      refine ⟨hFlags, hReason', fun _ => hRest hSleep.2.1 fun hMode => ?_⟩
      simp [hSleep.1] at hMode
    · rename_i hNoSleep
      cases h
      refine ⟨rfl, fun hMode => ?_, fun hRest hMode => ⟨(hRest hMode).1, ?_⟩⟩
      · -- an active manager without a flag and without its timer would have gone to sleep
        by_cases hNone : setFlags manager.mKeepActiveFlags flag state = 0
        · left
          by_contra hTimer
          exact hNoSleep ⟨hMode, hNone, Bool.not_eq_true _ ▸ hTimer⟩
        · exact .inr hNone
      · by_contra hAny
        exact hNoWake ⟨hMode, hAny⟩

theorem onActiveModeDone_spec
  (h : { manager with activeModeTimer := false }.onActiveModeDone = some manager') :
  manager'.mKeepActiveFlags = manager.mKeepActiveFlags ∧ manager'.HasReason ∧
    (manager.AtRest → manager'.AtRest) := by
  rw [onActiveModeDone] at h
  split at h
  · rename_i hNone
    have hFlags : { manager with activeModeTimer := false }.mKeepActiveFlags = 0 :=
      hasAnyRequirement_eq_false_iff.mp hNone
    obtain ⟨hFlags', hReason, hRest⟩ := updateOperationState_idle h
    exact ⟨hFlags', hReason, hRest hFlags⟩
  · rename_i hAny
    cases h
    exact ⟨rfl, fun _ => .inr (by simpa [hasAnyRequirement] using hAny), id⟩

end ICDManager

namespace Requirements

variable {requirements : Requirements} {flags : UInt8} {flag : KeepActiveFlags} {state : Bool}

def Covers (requirements : Requirements) (flags : UInt8) : Prop :=
  ∀ i, flags.toBitVec.getLsbD i = true →
    ∃ flag, requirements.outstanding flag = true ∧ flag.bits.toBitVec.getLsbD i = true

theorem Covers.set (h : requirements.Covers flags) :
  (requirements.set flag state).Covers (setFlags flags flag state) := by
  intro i hBit
  cases state with
  | true =>
    simp only [setFlags, if_true, UInt8.toBitVec_or, BitVec.getLsbD_or,
      Bool.or_eq_true] at hBit
    rcases hBit with hBit | hBit
    · obtain ⟨other, hOther, hBits⟩ := h i hBit
      refine ⟨other, ?_, hBits⟩
      rw [Requirements.set]
      dsimp only
      split
      · rfl
      · exact hOther
    · exact ⟨flag, by simp [Requirements.set], hBit⟩
  | false =>
    simp only [setFlags, Bool.false_eq_true, if_false, UInt8.toBitVec_and,
      UInt8.toBitVec_not, BitVec.getLsbD_and, BitVec.getLsbD_not, Bool.and_eq_true,
      Bool.not_eq_true'] at hBit
    obtain ⟨other, hOther, hBits⟩ := h i hBit.1
    -- the bit is still set, so it is not one of the flag that was cleared
    have hNe : other ≠ flag := fun hSame => by simp [hSame, hBit.2.2] at hBits
    exact ⟨other, by simp [Requirements.set, hNe, hOther], hBits⟩

theorem Covers.exists_outstanding (h : requirements.Covers flags) (hFlags : flags ≠ 0) :
  ∃ flag, requirements.outstanding flag = true := by
  by_contra hNone
  apply hFlags
  apply UInt8.eq_of_toBitVec_eq
  apply BitVec.eq_of_getLsbD_eq
  intro i _
  cases hBit : flags.toBitVec.getLsbD i with
  | false => simp
  | true =>
    obtain ⟨flag, hFlag, -⟩ := h i hBit
    exact absurd ⟨flag, hFlag⟩ hNone

theorem setFlags_true_ne_zero (flags : UInt8) (flag : KeepActiveFlags) :
  setFlags flags flag true ≠ 0 := by
  intro hNone
  have hBits : flag.bits = 0 := (UInt8.or_eq_zero_iff.mp hNone).2
  cases flag <;> exact absurd hBits (by decide)

theorem kept_set {device : Device}
  (hClear : state = false → requirements.MayClear device flag) :
  (∃ other, (requirements.set flag state).outstanding other = true) →
    setFlags device.manager.mKeepActiveFlags flag state ≠ 0 := by
  intro ⟨other, hOther⟩
  cases state with
  | true => exact setFlags_true_ne_zero _ flag
  | false =>
    intro hNone
    have hNotOther := hClear rfl hNone other
    by_cases hSame : other = flag
    · simp [Requirements.set, hSame] at hOther
    · simp [Requirements.set, hSame, hNotOther hSame] at hOther

end Requirements

/-- What holds while the device is running: the flags stand for the requirements and the
counters are right. -/
structure Tracks (device : Device) (requirements : Requirements) : Prop where
  registered : device.eventHandlers = [.icdManager]
  rest : device.manager.AtRest
  covers : requirements.Covers device.manager.mKeepActiveFlags
  kept : (∃ flag, requirements.outstanding flag = true) → device.manager.mKeepActiveFlags ≠ 0
  expected : device.expectedMsgCount.toNat = requirements.expectedMsgs
  awaited : device.awaitingAckCount.toNat = requirements.awaitedAcks

structure Sound (device : Device) (requirements : Requirements) : Prop where
  reason : device.manager.HasReason
  handlers : device.eventHandlers = [] ∨ device.eventHandlers = [.icdManager]
  tracks : requirements.running = true → Tracks device requirements

variable {device device' : Device} {requirements : Requirements} {flag : KeepActiveFlags}
  {state : Bool}

theorem Tracks.sleepsRightly (hReason : device.manager.HasReason) (h : Tracks device requirements) :
  SleepsRightly device requirements where
  idle := by
    intro hIdle
    obtain ⟨hTimer, hFlags⟩ := h.rest hIdle
    refine ⟨fun flag => ?_, hTimer⟩
    by_contra hFlag
    exact h.kept ⟨flag, Bool.not_eq_false _ ▸ hFlag⟩ hFlags
  active := fun hActive => (hReason hActive).imp_right h.covers.exists_outstanding

theorem callManager_eq_some {call : ICDManager → Option ICDManager}
  (h : device.callManager call = some device') :
  ∃ manager, call device.manager = some manager ∧ device' = { device with manager } := by
  obtain ⟨manager, hCall, hDevice⟩ := Option.map_eq_some_iff.mp h
  exact ⟨manager, hCall, hDevice.symm⟩

theorem Sound.withManager {manager : ICDManager} (h : Sound device requirements)
  (hReason : manager.HasReason) (hRest : requirements.running = true → manager.AtRest)
  (hFlags : manager.mKeepActiveFlags = device.manager.mKeepActiveFlags) :
  Sound { device with manager } requirements where
  reason := hReason
  handlers := h.handlers
  tracks := fun hRunning =>
    { h.tracks hRunning with
      rest := hRest hRunning
      covers := by
        rw [hFlags]
        exact (h.tracks hRunning).covers
      kept := by
        rw [hFlags]
        exact (h.tracks hRunning).kept }

theorem Tracks.set (h : Tracks device requirements)
  (hClear : state = false → requirements.MayClear device flag)
  (hCall : device.callManager (·.setKeepActiveModeRequirements flag state) = some device') :
  Tracks device' (requirements.set flag state) ∧ device'.manager.HasReason := by
  obtain ⟨manager, hManager, rfl⟩ := callManager_eq_some hCall
  obtain ⟨hFlags, hReason, hRest⟩ := setKeepActiveModeRequirements_spec hManager
  have hTracks : Tracks { device with manager } (requirements.set flag state) :=
    { registered := h.registered
      rest := hRest h.rest
      covers := by
        rw [hFlags]
        exact h.covers.set
      kept := by
        rw [hFlags]
        exact Requirements.kept_set hClear
      expected := h.expected
      awaited := h.awaited }
  exact ⟨hTracks, hReason⟩

theorem Sound.wake (h : Sound device requirements)
  (hCall : device.callManager (·.updateOperationState .activeMode) = some device') :
  Sound device' requirements := by
  obtain ⟨manager, hManager, rfl⟩ := callManager_eq_some hCall
  obtain ⟨hFlags, hRest, hReason⟩ := updateOperationState_active hManager
  exact h.withManager (hReason h.reason) (fun _ => hRest) hFlags

theorem Tracks.wake (hReason : device.manager.HasReason) (h : Tracks device requirements)
  (hCall : device.callManager (·.updateOperationState .activeMode) = some device') :
  Tracks device' requirements ∧ device'.manager.HasReason := by
  have hSound : Sound device { requirements with running := true } :=
    ⟨hReason, .inr h.registered, fun _ => { h with }⟩
  have hWoken := hSound.wake hCall
  exact ⟨{ hWoken.tracks rfl with }, hWoken.reason⟩

theorem toNat_succ {count : UInt8} (h : count ≠ 255) : (count + 1).toNat = count.toNat + 1 := by
  have hNe : count.toNat ≠ 255 := fun hSame => h (UInt8.toNat_inj.mp hSame)
  have hLt := count.toNat_lt
  rw [UInt8.toNat_add]
  exact Nat.mod_eq_of_lt (by simp; omega)

def countDown (count : UInt8) : UInt8 := if count > 0 then count - 1 else count

theorem toNat_countDown (count : UInt8) : (countDown count).toNat = count.toNat - 1 := by
  rw [countDown]
  split
  · rename_i hPos
    exact UInt8.toNat_sub_of_le count 1 (UInt8.le_iff_toNat_le.mpr (UInt8.lt_iff_toNat_lt.mp hPos))
  · rename_i hPos
    have hZero : count.toNat = 0 := by
      have := mt UInt8.lt_iff_toNat_lt.mpr hPos
      simpa using this
    rw [hZero]

theorem countDown_eq_zero_iff {count : UInt8} : countDown count = 0 ↔ count.toNat - 1 = 0 := by
  rw [← UInt8.toNat_inj, toNat_countDown]
  rfl

theorem le_one_of_countDown {count : UInt8} (h : countDown count = 0) : count ≤ 1 := by
  rw [countDown_eq_zero_iff] at h
  rw [UInt8.le_iff_toNat_le, UInt8.toNat_one]
  omega

theorem Tracks.event {event : ChipDeviceEvent} (hReason : device.manager.HasReason)
  (h : Tracks device requirements) (hOrderly : requirements.OrderlyEvent device event)
  (hStep : device.icdEventHandler event .icdManager = some device') :
  Tracks device' (requirements.followEvent event) ∧ device'.manager.HasReason := by
  cases event with
  | kCommissioningWindowStatusChanged opened => exact h.set hOrderly hStep
  | kFailSafeStateChanged armed => exact h.set hOrderly hStep
  | kChipMsgSentEvent expectResponse =>
    cases expectResponse with
    | false => exact h.wake hReason hStep
    | true =>
      have hCounted : Tracks { device with expectedMsgCount := device.expectedMsgCount + 1 }
          { requirements with expectedMsgs := requirements.expectedMsgs + 1 } :=
        { h with expected := (toNat_succ (hOrderly rfl)).trans (congrArg (· + 1) h.expected) }
      exact hCounted.set (fun hState => by cases hState) hStep
  | kChipMsgRxEventHandled wasReceived clearsExpectedResponse =>
    cases clearsExpectedResponse with
    | false =>
      cases wasReceived with
      | false =>
        cases hStep
        exact ⟨h, hReason⟩
      | true => exact h.wake hReason hStep
    | true =>
      have hCounted : Tracks
          { device with expectedMsgCount := countDown device.expectedMsgCount }
          { requirements with expectedMsgs := requirements.expectedMsgs - 1 } :=
        { h with expected := (toNat_countDown _).trans (congrArg (· - 1) h.expected) }
      have hDevice : (if device.expectedMsgCount > 0 then
          { device with expectedMsgCount := device.expectedMsgCount - 1 } else device) =
            { device with expectedMsgCount := countDown device.expectedMsgCount } := by
        rw [countDown]
        split <;> rfl
      have hZero : countDown device.expectedMsgCount = 0 ↔ requirements.expectedMsgs - 1 = 0 := by
        rw [countDown_eq_zero_iff, h.expected]
      rw [icdEventHandler, hDevice] at hStep
      rw [Requirements.followEvent, if_pos rfl]
      dsimp only at hStep ⊢
      by_cases hLast : countDown device.expectedMsgCount = 0
      · rw [if_pos hLast] at hStep
        rw [if_pos (hZero.mp hLast)]
        exact hCounted.set (fun _ => hOrderly rfl (le_one_of_countDown hLast)) hStep
      · rw [if_neg hLast] at hStep
        rw [if_neg (mt hZero.mpr hLast)]
        cases hStep
        exact ⟨hCounted, hReason⟩
  | kICDMsgAckSyncEvent awaitingAck =>
    cases awaitingAck with
    | true =>
      have hCounted : Tracks { device with awaitingAckCount := device.awaitingAckCount + 1 }
          { requirements with awaitedAcks := requirements.awaitedAcks + 1 } :=
        { h with awaited := (toNat_succ hOrderly).trans (congrArg (· + 1) h.awaited) }
      have hSome : decide (device.awaitingAckCount + 1 ≠ 0) = true := by
        have hNat : (device.awaitingAckCount + 1).toNat = requirements.awaitedAcks + 1 :=
          hCounted.awaited
        rw [decide_eq_true_eq]
        intro hZero
        simp [hZero] at hNat
      have hCall : callManager
          { device with awaitingAckCount := device.awaitingAckCount + 1 }
          (·.setKeepActiveModeRequirements .kAwaitingMsgAck true) = some device' := hSome ▸ hStep
      exact hCounted.set (fun hState => by cases hState) hCall
    | false =>
      have hCounted : Tracks
          { device with awaitingAckCount := countDown device.awaitingAckCount }
          { requirements with awaitedAcks := requirements.awaitedAcks - 1 } :=
        { h with awaited := (toNat_countDown _).trans (congrArg (· - 1) h.awaited) }
      have hDevice : (if device.awaitingAckCount > 0 then
          { device with awaitingAckCount := device.awaitingAckCount - 1 } else device) =
            { device with awaitingAckCount := countDown device.awaitingAckCount } := by
        rw [countDown]
        split <;> rfl
      have hSame : decide (countDown device.awaitingAckCount ≠ 0) =
          decide (requirements.awaitedAcks - 1 ≠ 0) := by
        rw [decide_eq_decide, ne_eq, ne_eq, countDown_eq_zero_iff, h.awaited]
      rw [icdEventHandler, if_neg (by simp), hDevice] at hStep
      rw [Requirements.followEvent]
      dsimp only at hStep ⊢
      rw [if_neg (by simp), ← hSame]
      apply hCounted.set _ hStep
      intro hState
      have hLast : countDown device.awaitingAckCount = 0 := by simpa using hState
      exact hOrderly (le_one_of_countDown hLast)
  | kAppWakeUpEvent => exact h.wake hReason hStep
  | other =>
    cases hStep
    exact ⟨h, hReason⟩

variable {event : ChipDeviceEvent}

theorem dispatchEvent_nil (h : device.eventHandlers = []) :
  device.dispatchEvent event = some device := by
  rw [dispatchEvent, h]
  rfl

theorem dispatchEvent_single (h : device.eventHandlers = [.icdManager]) :
  device.dispatchEvent event = device.icdEventHandler event .icdManager := by
  rw [dispatchEvent, h, List.foldlM_cons]
  exact bind_pure _

theorem setKeepActive_ignored (hReason : device.manager.HasReason)
  (hFlags : device.manager.mKeepActiveFlags = 0) (flag : KeepActiveFlags) :
  device.callManager (·.setKeepActiveModeRequirements flag false) = some device := by
  have hCleared : setFlags device.manager.mKeepActiveFlags flag false =
      device.manager.mKeepActiveFlags := by
    rw [hFlags, setFlags, if_neg (by simp), UInt8.zero_and]
  have hManager : device.manager.setKeepActiveModeRequirements flag false = some device.manager := by
    rw [setKeepActiveModeRequirements, hCleared]
    simp only [hasAnyRequirement_eq_true_iff, hasAnyRequirement_eq_false_iff]
    rw [if_neg (by simp [hFlags])]
    rw [if_neg]
    rintro ⟨hActive, -, hTimer⟩
    have hAwake := hReason hActive
    simp [hTimer, hFlags] at hAwake
  rw [callManager, hManager]
  rfl

theorem dispatchEvent_of_ignores (hReason : device.manager.HasReason)
  (hHandlers : device.eventHandlers = [] ∨ device.eventHandlers = [.icdManager])
  (h : device.eventHandlers = [] ∨ device.Ignores event) :
  device.dispatchEvent event = some device := by
  rcases hHandlers with hNone | hSingle
  · exact dispatchEvent_nil hNone
  · have hIgnores := h.resolve_left (by simp [hSingle])
    rw [dispatchEvent_single hSingle]
    cases event with
    | kCommissioningWindowStatusChanged opened =>
      obtain ⟨rfl, hFlags⟩ := hIgnores
      exact setKeepActive_ignored hReason hFlags _
    | kFailSafeStateChanged armed =>
      obtain ⟨rfl, hFlags⟩ := hIgnores
      exact setKeepActive_ignored hReason hFlags _
    | kChipMsgSentEvent expectResponse => exact hIgnores.elim
    | kChipMsgRxEventHandled wasReceived clearsExpectedResponse =>
      cases clearsExpectedResponse with
      | false =>
        obtain rfl : wasReceived = false := hIgnores
        rfl
      | true =>
        obtain ⟨hCount, hFlags⟩ := hIgnores
        have hDevice : (if device.expectedMsgCount > 0 then
            { device with expectedMsgCount := device.expectedMsgCount - 1 } else device) =
              device := if_neg (by simp [hCount])
        rw [icdEventHandler, hDevice, if_pos hCount]
        exact setKeepActive_ignored hReason hFlags _
    | kICDMsgAckSyncEvent awaitingAck =>
      obtain ⟨rfl, hCount, hFlags⟩ := hIgnores
      rw [icdEventHandler, if_neg (by simp), if_neg (by simp [hCount])]
      simp only [hCount, ne_eq, not_true_eq_false, decide_false]
      exact setKeepActive_ignored hReason hFlags _
    | kAppWakeUpEvent => exact hIgnores.elim
    | other => rfl

theorem Sound.step {action : Action} (h : Sound device requirements)
  (hOrderly : Orderly requirements device action) (hStep : device.step action = some device') :
  Sound device' (requirements.follow action) := by
  cases action with
  | init =>
    obtain ⟨hFlags, hExpected, hAwaited⟩ := hOrderly
    obtain ⟨started, hCall, rfl⟩ := Option.map_eq_some_iff.mp hStep
    obtain ⟨manager, hManager, rfl⟩ := callManager_eq_some hCall
    obtain ⟨hFlags', hRest, hReason⟩ := updateOperationState_active hManager
    have hNone : manager.mKeepActiveFlags = 0 := hFlags'.trans hFlags
    have hRegistered : (Device.addEventHandler { device with manager } .icdManager) =
        { device with manager, eventHandlers := [.icdManager] } := by
      rcases h.handlers with hHandlers | hHandlers <;>
        simp [Device.addEventHandler, hHandlers]
    rw [hRegistered]
    constructor
    · exact hReason h.reason
    · exact .inr rfl
    · intro _
      constructor
      · rfl
      · exact hRest
      · intro i hBit
        simp [hNone] at hBit
      · rintro ⟨flag, hFlag⟩
        cases hFlag
      · exact congrArg UInt8.toNat hExpected
      · exact congrArg UInt8.toNat hAwaited
  | shutdown =>
    cases hStep
    constructor
    · intro hActive
      cases hActive
    · rcases h.handlers with hHandlers | hHandlers <;>
        simp [Device.shutdown, Device.removeEventHandler, hHandlers]
    · intro hRunning
      cases hRunning
  | setKeepActiveModeRequirements flag state =>
    have hCall : device.callManager (·.setKeepActiveModeRequirements flag state) = some device' :=
      hStep
    rw [Requirements.follow]
    cases hRunning : requirements.running with
    | true =>
      obtain ⟨hTracks, hReason⟩ := (h.tracks hRunning).set (hOrderly hRunning) hCall
      exact ⟨hReason, .inr hTracks.registered, fun _ => hTracks⟩
    | false =>
      obtain ⟨manager, hManager, rfl⟩ := callManager_eq_some hCall
      have hReason := (setKeepActiveModeRequirements_spec hManager).2.1
      exact ⟨hReason, h.handlers, fun hTrue => by simp [hRunning] at hTrue⟩
  | updateOperationState state =>
    cases state with
    | activeMode => exact h.wake hStep
    | idleMode =>
      have hCall : device.callManager (·.updateOperationState .idleMode) = some device' := hStep
      obtain ⟨manager, hManager, rfl⟩ := callManager_eq_some hCall
      obtain ⟨hFlags, hReason, hRest⟩ := updateOperationState_idle hManager
      exact h.withManager hReason
        (fun hRunning => hRest (hOrderly hRunning rfl) (h.tracks hRunning).rest) hFlags
  | event event =>
    rw [Orderly] at hOrderly
    rw [Requirements.follow]
    cases hRunning : requirements.running with
    | true =>
      rw [hRunning, if_pos rfl] at hOrderly
      have hCall : device.icdEventHandler event .icdManager = some device' := by
        rw [← dispatchEvent_single (h.tracks hRunning).registered]
        exact hStep
      obtain ⟨hTracks, hReason⟩ := (h.tracks hRunning).event h.reason hOrderly hCall
      exact ⟨hReason, .inr hTracks.registered, fun _ => hTracks⟩
    | false =>
      rw [hRunning, if_neg (by simp)] at hOrderly
      have hSame : device.dispatchEvent event = some device' := hStep
      rw [dispatchEvent_of_ignores h.reason h.handlers hOrderly] at hSame
      cases hSame
      exact h
  | idleModeTimerExpires =>
    rw [Device.step] at hStep
    split at hStep
    · obtain ⟨manager, hManager, rfl⟩ := callManager_eq_some hStep
      obtain ⟨hFlags, hRest, hReason⟩ := updateOperationState_active hManager
      exact h.withManager (hReason h.reason) (fun _ => hRest) hFlags
    · cases hStep
  | activeModeTimerExpires =>
    rw [Device.step] at hStep
    split at hStep
    · obtain ⟨manager, hManager, rfl⟩ := callManager_eq_some hStep
      obtain ⟨hFlags, hReason, hRest⟩ := onActiveModeDone_spec hManager
      exact h.withManager hReason (fun hRunning => hRest (h.tracks hRunning).rest) hFlags
    · cases hStep

theorem Sound.of_run {activeModeThreshold : UInt16}
  (h : Run Orderly activeModeThreshold device requirements) : Sound device requirements := by
  induction h with
  | start =>
    constructor
    · intro hActive
      cases hActive
    · exact .inl rfl
    · intro hRunning
      cases hRunning
  | step _ _ hOrderly hStep ih => exact ih.step hOrderly hStep

/-- In every orderly run a started device sleeps and wakes rightly, and an event that comes
between shutdown and start changes nothing. -/
theorem sleepsRightly_of_orderly_run {activeModeThreshold : UInt16}
    (h : Run Orderly activeModeThreshold device requirements) :
    (requirements.running = true → SleepsRightly device requirements) ∧
      (requirements.running = false → ∀ event, Orderly requirements device (.event event) →
        device.step (.event event) = some device) := by
  have hSound := Sound.of_run h
  constructor
  · intro hRunning
    exact (hSound.tracks hRunning).sleepsRightly hSound.reason
  · intro hRunning event hOrderly
    rw [Orderly, hRunning, if_neg (by simp)] at hOrderly
    exact dispatchEvent_of_ignores hSound.reason hSound.handlers hOrderly

/-- The device after its start, after the commissioning window was opened, and after the active
timer has run out. -/
def awake (flags : UInt8) (timer : Bool) : Device where
  manager :=
    { mKeepActiveFlags := flags
      mOperationalState := .activeMode
      mStateObserver := true
      activeModeTimer := timer
      activeModeThreshold := 300 }
  eventHandlers := [.icdManager]

theorem sleepsRightly_of_orderly_run_window :
    SleepsRightly (awake 1 false) (Requirements.set { running := true } .kCommissioningWindowOpen
      true) := by
  have hStarted : Run Orderly 300 (awake 0 true) { running := true } :=
    .step .init .start ⟨rfl, rfl, rfl⟩ rfl
  have hOpened : Run Orderly 300 (awake 1 true) (Requirements.follow { running := true }
      (.event (.kCommissioningWindowStatusChanged true))) :=
    .step (.event (.kCommissioningWindowStatusChanged true)) hStarted (fun hClosed => by cases hClosed) rfl
  have hExpired : Run Orderly 300 (awake 1 false) (Requirements.follow (Requirements.follow
      { running := true } (.event (.kCommissioningWindowStatusChanged true)))
        .activeModeTimerExpires) :=
    .step .activeModeTimerExpires hOpened trivial rfl
  exact (sleepsRightly_of_orderly_run hExpired).1 rfl

def Unrestricted (_ : Requirements) (_ : Device) (_ : Action) : Prop := True

/-- Not every run keeps the device awake: with the commissioning window open a message is sent
and answered, and when the active timer runs out the device goes to sleep. -/
theorem not_sleepsRightly_of_run :
    ¬ ∀ (activeModeThreshold : UInt16) (device : Device) (requirements : Requirements),
      Run Unrestricted activeModeThreshold device requirements →
        requirements.running = true → SleepsRightly device requirements := by
  intro h
  have hStarted : Run Unrestricted 300 (awake 0 true) { running := true } :=
    .step .init .start trivial rfl
  have hOpened : Run Unrestricted 300 (awake 1 true) _ :=
    .step (.event (.kCommissioningWindowStatusChanged true)) hStarted trivial rfl
  have hSent : Run Unrestricted 300 { awake 3 true with expectedMsgCount := 1 } _ :=
    .step (.event (.kChipMsgSentEvent true)) hOpened trivial rfl
  have hAnswered : Run Unrestricted 300 (awake 0 true) _ :=
    .step (.event (.kChipMsgRxEventHandled true true)) hSent trivial rfl
  have hExpired : Run Unrestricted 300 _ _ :=
    .step .activeModeTimerExpires hAnswered trivial rfl
  have hAsleep := (h _ _ _ hExpired rfl).idle rfl
  exact absurd (hAsleep.1 .kCommissioningWindowOpen) (by decide)

end Chip.Icd
