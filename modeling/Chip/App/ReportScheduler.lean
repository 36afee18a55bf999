import Mathlib

/-! The two report schedulers (`ReportSchedulerImpl.cpp`, `SynchronizedReportSchedulerImpl.cpp`):
when the next report of a read handler is due. Timestamps are milliseconds in 64 bits, and a
timeout is narrowed to 32 bits. Each reading of the clock is one of its own, so that time may
pass between any two readings. -/
namespace Chip.App.Reporting

/-- What `GetCurrentMonotonicTimestamp` returns, reading by reading: a clock that does not go back
and that stays the longest interval away from the end of its range. -/
structure MonotonicClock where
  reading : Nat → Nat
  monotone : Monotone reading
  inRange : ∀ n, reading n + 1000 * 65535 < 2 ^ 64

/-- The sum of two `Milliseconds64`. -/
def add64 (a b : Nat) : Nat := (a + b) % 2 ^ 64

/-- A difference of two `Milliseconds64` as `Milliseconds32`. -/
def timeoutBetween (later now : Nat) : Nat := (later + (2 ^ 64 - now)) % 2 ^ 64 % 2 ^ 32

inductive HandlerState where
  | idle
  | generatingReports
  | awaitingReportResponse
  | awaitingDestruction
  deriving DecidableEq

/-- What the scheduler asks of a `ReadHandler`. -/
structure ReadHandler where
  mState : HandlerState
  isDirty : Bool
  mMinIntervalFloorSeconds : UInt16
  mMaxInterval : UInt16
  min_le_max : mMinIntervalFloorSeconds ≤ mMaxInterval

def ReadHandler.isGeneratingReports (handler : ReadHandler) : Bool :=
  handler.mState = .generatingReports

def ReadHandler.isReportable (handler : ReadHandler) : Bool :=
  handler.isGeneratingReports && handler.isDirty

/-- `ReadHandlerNode`; the handlers have numbers. -/
structure ReadHandlerNode where
  mReadHandler : Nat
  mMinTimestamp : Nat
  mMaxTimestamp : Nat
  mSyncTimestamp : Nat
  mEngineRunScheduled : Bool := false

namespace ReadHandlerNode

/-- `IsReportableNow`, at this reading of the clock. -/
def isReportableNow (node : ReadHandlerNode) (handler : ReadHandler) (now : Nat) : Bool :=
  handler.isGeneratingReports && (decide (node.mMinTimestamp ≤ now) &&
    (handler.isDirty || decide (node.mMaxTimestamp ≤ now) || decide (node.mSyncTimestamp ≤ now)))

/-- `SetIntervalTimeStamps`, at this reading of the clock. -/
def setIntervalTimeStamps (node : ReadHandlerNode) (handler : ReadHandler) (now : Nat) :
  ReadHandlerNode :=
  { node with
    mMinTimestamp := add64 now (1000 * handler.mMinIntervalFloorSeconds.toNat)
    mMaxTimestamp := add64 now (1000 * handler.mMaxInterval.toNat)
    mSyncTimestamp := add64 now (1000 * handler.mMaxInterval.toNat) }

def setSyncTimestamp (node : ReadHandlerNode) (aSyncTimestamp : Nat) : ReadHandlerNode :=
  if node.mMinTimestamp ≤ aSyncTimestamp then { node with mSyncTimestamp := aSyncTimestamp } else node

def setEngineRunScheduled (node : ReadHandlerNode) (aEngineRunScheduled : Bool) :
  ReadHandlerNode :=
  { node with mEngineRunScheduled := aEngineRunScheduled }

end ReadHandlerNode

/-- One run of `CalculateNextReportTimeout`: the readings that its result depends on, what it was
given and what it has computed. -/
inductive Computation where
  | plain (now check : Nat) (node : ReadHandlerNode) (handler : ReadHandler) (timeout : Nat)
  | synchronized (first now : Nat) (nodes : List ReadHandlerNode)
      (mNextMaxTimestamp mNextMinTimestamp : Nat) (reportableNow reportableAtMin : Bool)
      (timeout : Nat)

/-- What a timer calls when it fires: a node, or the synchronized scheduler. -/
inductive TimerContext where
  | node (mReadHandler : Nat)
  | scheduler
  deriving DecidableEq

/-- A scheduler with its handlers, the timers that are armed, the number of engine runs that it
has asked for, how often the clock has been read, and the timeouts computed so far. -/
structure Scheduler where
  handlers : Nat → ReadHandler
  mNodesPool : List ReadHandlerNode := []
  timers : TimerContext → Option Nat := fun _ => none
  mNextMaxTimestamp : Nat := 0
  mNextMinTimestamp : Nat := 0
  engineRuns : Nat := 0
  readings : Nat := 0
  computed : List Computation := []

/-- `ReportSchedulerImpl` or `SynchronizedReportSchedulerImpl`. -/
inductive Implementation where
  | plain
  | synchronized

namespace Scheduler

variable (clock : MonotonicClock)

def now (s : Scheduler) : Nat := clock.reading s.readings

def afterReadings (s : Scheduler) (count : Nat) : Scheduler :=
  { s with readings := s.readings + count }

def handlerOf (s : Scheduler) (node : ReadHandlerNode) : ReadHandler := s.handlers node.mReadHandler

def findReadHandlerNode (s : Scheduler) (aReadHandler : Nat) : Option ReadHandlerNode :=
  s.mNodesPool.find? fun node => node.mReadHandler = aReadHandler

def updateNode (s : Scheduler) (aReadHandler : Nat) (f : ReadHandlerNode → ReadHandlerNode) :
  Scheduler :=
  { s with mNodesPool := s.mNodesPool.map fun node =>
      if node.mReadHandler = aReadHandler then f node else node }

def setTimer (s : Scheduler) (context : TimerContext) (timeout : Option Nat) : Scheduler :=
  { s with timers := fun other => if other = context then timeout else s.timers other }

def reportTimerCallback (s : Scheduler) : Scheduler := { s with engineRuns := s.engineRuns + 1 }

/-- `ReportSchedulerImpl::CalculateNextReportTimeout`. -/
def calculatePlain (s : Scheduler) (aNode : ReadHandlerNode) : Nat × Scheduler :=
  let now := s.now clock
  let check := (s.afterReadings 1).now clock
  let handler := s.handlerOf aNode
  let timeout :=
    if aNode.isReportableNow handler check then 0
    else if handler.isReportable && decide (now < aNode.mMinTimestamp) then
      timeoutBetween aNode.mMinTimestamp now
    else timeoutBetween aNode.mMaxTimestamp now
  (timeout, { s.afterReadings 2 with
    computed := s.computed ++ [.plain now check aNode handler timeout] })

/-- `FindNextMaxInterval`, at this reading of the clock. -/
def findNextMaxInterval (nodes : List ReadHandlerNode) (now : Nat) : Nat :=
  nodes.foldl (fun earliest node =>
    if node.mMaxTimestamp < earliest ∧ now < node.mMaxTimestamp then node.mMaxTimestamp
    else earliest) (add64 now (1000 * 65535))

/-- `FindNextMinInterval`, at this reading of the clock. -/
def findNextMinInterval (handlers : Nat → ReadHandler) (nodes : List ReadHandlerNode)
  (mNextMaxTimestamp now : Nat) : Nat :=
  nodes.foldl (fun latest node =>
    if latest < node.mMinTimestamp ∧ (handlers node.mReadHandler).isReportable = true ∧
        node.mMinTimestamp ≤ mNextMaxTimestamp then node.mMinTimestamp
    else latest) now

/-- The loop that looks for a handler that is reportable now, and for one that is at the common
minimum; it leaves the number of readings. -/
def scanReportable (handlers : Nat → ReadHandler) (mNextMaxTimestamp : Nat) :
  List ReadHandlerNode → Bool → Nat → Bool × Bool × Nat
  | [], reportableAtMin, readings => (false, reportableAtMin, readings)
  | node :: rest, reportableAtMin, readings =>
    let handler := handlers node.mReadHandler
    if node.mEngineRunScheduled then
      scanReportable handlers mNextMaxTimestamp rest reportableAtMin readings
    else if node.isReportableNow handler (clock.reading readings) then
      (true, reportableAtMin, readings + 1)
    else scanReportable handlers mNextMaxTimestamp rest
      (reportableAtMin ||
        (handler.isReportable && decide (node.mMinTimestamp ≤ mNextMaxTimestamp)))
      (readings + 1)

/-- The loop that updates the sync timestamps of the handlers that are not reportable. -/
def updateSyncTimestamps (handlers : Nat → ReadHandler) (aSyncTimestamp : Nat) :
  List ReadHandlerNode → Nat → List ReadHandlerNode
  | [], _ => []
  | node :: rest, readings =>
    (if node.isReportableNow (handlers node.mReadHandler) (clock.reading readings) then node
      else node.setSyncTimestamp aSyncTimestamp) ::
      updateSyncTimestamps handlers aSyncTimestamp rest (readings + 1)

/-- `SynchronizedReportSchedulerImpl::CalculateNextReportTimeout`, with a handler in the pool. -/
def calculateSynchronized (s : Scheduler) : Nat × Scheduler :=
  let nextMax := findNextMaxInterval s.mNodesPool (s.now clock)
  let nextMin := findNextMinInterval s.handlers s.mNodesPool nextMax ((s.afterReadings 1).now clock)
  let now := (s.afterReadings 2).now clock
  let scan := scanReportable clock s.handlers nextMax s.mNodesPool false (s.readings + 3)
  let timeout :=
    if scan.1 then 0
    else if scan.2.1 then timeoutBetween nextMin now
    else timeoutBetween nextMax now
  let nodes :=
    updateSyncTimestamps clock s.handlers (add64 now timeout) s.mNodesPool scan.2.2
  (timeout, { s with
    mNodesPool := nodes
    mNextMaxTimestamp := nextMax
    mNextMinTimestamp := nextMin
    readings := scan.2.2 + s.mNodesPool.length
    computed := s.computed ++
      [.synchronized (s.now clock) now s.mNodesPool nextMax nextMin scan.1 scan.2.1 timeout] })

def calculateNextReportTimeout (impl : Implementation) (s : Scheduler) (aNode : ReadHandlerNode) :
  Nat × Scheduler :=
  match impl with
  | .plain => s.calculatePlain clock aNode
  | .synchronized => s.calculateSynchronized clock

/-- `ScheduleReport`; starting the timer may fail. -/
def scheduleReport (impl : Implementation) (s : Scheduler) (timeout aReadHandler : Nat)
  (startTimerFails : Bool) : Scheduler :=
  match impl with
  | .plain =>
    let s := s.setTimer (.node aReadHandler) none
    if timeout = 0 then
      s.reportTimerCallback.updateNode aReadHandler (·.setEngineRunScheduled true)
    else if startTimerFails then s
    else s.setTimer (.node aReadHandler) (some timeout)
  | .synchronized =>
    let s := s.setTimer .scheduler none
    if timeout = 0 then s.reportTimerCallback
    else if startTimerFails then s
    -- The clock is read again for the timestamp that the tests look at.
    else (s.setTimer .scheduler (some timeout)).afterReadings 1

def reschedule (impl : Implementation) (s : Scheduler) (node : ReadHandlerNode)
  (startTimerFails : Bool) : Scheduler :=
  let result := s.calculateNextReportTimeout clock impl node
  result.2.scheduleReport impl result.1 node.mReadHandler startTimerFails

def onReadHandlerCreated (impl : Implementation) (s : Scheduler) (aReadHandler : Nat)
  (startTimerFails : Bool) : Scheduler :=
  match s.findReadHandlerNode aReadHandler with
  | some _ => s
  | none =>
    let node := (ReadHandlerNode.mk aReadHandler 0 0 0 false).setIntervalTimeStamps
      (s.handlers aReadHandler) (s.now clock)
    reschedule clock impl { s.afterReadings 1 with mNodesPool := s.mNodesPool ++ [node] } node
      startTimerFails

def onBecameReportable (impl : Implementation) (s : Scheduler) (aReadHandler : Nat)
  (startTimerFails : Bool) : Scheduler :=
  match s.findReadHandlerNode aReadHandler with
  | none => s
  | some node => s.reschedule clock impl node startTimerFails

def onSubscriptionAction (impl : Implementation) (s : Scheduler) (aReadHandler : Nat)
  (startTimerFails : Bool) : Scheduler :=
  match s.findReadHandlerNode aReadHandler with
  | none => s
  | some node =>
    let handler := s.handlers aReadHandler
    let now := s.now clock
    let s := (s.afterReadings 1).updateNode aReadHandler (·.setIntervalTimeStamps handler now)
    (s.reschedule clock impl (node.setIntervalTimeStamps handler now) startTimerFails).updateNode
      aReadHandler (·.setEngineRunScheduled false)

def onReadHandlerDestroyed (impl : Implementation) (s : Scheduler) (aReadHandler : Nat) : Scheduler :=
  match s.findReadHandlerNode aReadHandler with
  | none => s
  | some _ =>
    let released :=
      { s with mNodesPool := s.mNodesPool.filter fun node => node.mReadHandler ≠ aReadHandler }
    match impl with
    | .plain => released.setTimer (.node aReadHandler) none
    | .synchronized =>
      if released.mNodesPool.isEmpty then released.setTimer .scheduler none else released

/-- `TimerFired`, of a node or of the synchronized scheduler. -/
def timerFired (s : Scheduler) : TimerContext → Scheduler
  | .node aReadHandler =>
    ((s.setTimer (.node aReadHandler) none).reportTimerCallback).updateNode aReadHandler
      (·.setEngineRunScheduled true)
  | .scheduler =>
    let s := (s.setTimer .scheduler none).reportTimerCallback
    { s.afterReadings s.mNodesPool.length with
      mNodesPool := s.mNodesPool.mapIdx fun index node =>
        if node.isReportableNow (s.handlerOf node) (clock.reading (s.readings + index)) then
          node.setEngineRunScheduled true
        else node }

/-- `ForceDirtyState` of a handler, which notifies the scheduler if it has become reportable. -/
def handlerForceDirtyState (impl : Implementation) (s : Scheduler) (aReadHandler : Nat)
  (startTimerFails : Bool) : Scheduler :=
  let handler := s.handlers aReadHandler
  let dirty := { s with handlers := fun other =>
    if other = aReadHandler then { handler with isDirty := true } else s.handlers other }
  if handler.isGeneratingReports && !handler.isDirty then
    dirty.onBecameReportable clock impl aReadHandler startTimerFails
  else dirty

def onEnterActiveMode (impl : Implementation) (s : Scheduler) (startTimerFails : Bool) : Scheduler :=
  let now := s.now clock
  s.mNodesPool.foldl (fun s node =>
    if node.mMinTimestamp ≤ now then
      s.handlerForceDirtyState clock impl node.mReadHandler startTimerFails
    else s) (s.afterReadings 1)

end Scheduler

/-- Something that happens to a scheduler or to one of its handlers. A handler may change in any
way without the scheduler being told. -/
inductive Event where
  | readHandlerCreated (aReadHandler : Nat) (startTimerFails : Bool)
  | becameReportable (aReadHandler : Nat) (startTimerFails : Bool)
  | subscriptionAction (aReadHandler : Nat) (startTimerFails : Bool)
  | readHandlerDestroyed (aReadHandler : Nat)
  | enterActiveMode (startTimerFails : Bool)
  | timerFired (context : TimerContext)
  | handlerChanges (aReadHandler : Nat) (handler : ReadHandler)

variable (clock : MonotonicClock) (impl : Implementation)

def Event.step (s : Scheduler) : Event → Scheduler
  | .readHandlerCreated aReadHandler fails => s.onReadHandlerCreated clock impl aReadHandler fails
  | .becameReportable aReadHandler fails => s.onBecameReportable clock impl aReadHandler fails
  | .subscriptionAction aReadHandler fails => s.onSubscriptionAction clock impl aReadHandler fails
  | .readHandlerDestroyed aReadHandler => s.onReadHandlerDestroyed impl aReadHandler
  | .enterActiveMode fails => s.onEnterActiveMode clock impl fails
  | .timerFired context => s.timerFired clock context
  | .handlerChanges aReadHandler handler =>
    { s with handlers := fun other => if other = aReadHandler then handler else s.handlers other }

/-- The scheduler after events, from one that has no handler. -/
def runEvents (handlers : Nat → ReadHandler) (events : List Event) : Scheduler :=
  events.foldl (Event.step clock impl) { handlers := handlers }

end Chip.App.Reporting
