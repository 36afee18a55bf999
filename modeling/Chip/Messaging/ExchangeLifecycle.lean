import Chip.Core.Error
import Chip.Data.Proc

/-! The life of an exchange (`ExchangeContext.cpp`) between its creation and the release of its last
reference. A call that has called its delegate, or others that are told of the session, waits on a
stack of tasks until these return; whoever is called may call the exchange in turn. The event loop
delivers messages and timeouts only when no call is under way. -/
namespace Chip.Messaging.Lifecycle

structure Session where
  isGroupSession : Bool
  requireMRP : Bool

inductive Callback where
  | onMessageReceived
  | onResponseTimeout
  | onExchangeClosing
  deriving DecidableEq

/-- `ExchangeContext` with its `ReliableMessageContext` and the dispatch it uses. -/
structure ExchangeContext where
  mResponseTimeout : Nat := 0
  /-- Whether there is a delegate. -/
  mDelegate : Bool
  mSession : Option Session
  reliableTransmissionAllowed : Bool
  initiator : Bool
  responseExpected : Bool := false
  autoRequestAck : Bool
  /-- Exactly then the retransmission table has an entry of the exchange, which refers to it. -/
  messageNotAcked : Bool := false
  ackPending : Bool := false
  ackMessageCounterIsValid : Bool := false
  willSendMessage : Bool
  closed : Bool := false
  ephemeralExchange : Bool
  ignoreSessionRelease : Bool := false
  mPendingPeerAckMessageCounter : UInt32 := 0
  mRefCount : Nat := 1
  /-- Whether `HandleResponseTimeout` is armed. -/
  responseTimer : Bool := false
  /-- The response timeout when the response that is expected was asked for. -/
  awaitedTimeout : Nat := 0
  /-- The calls of the delegate so far. -/
  callbacks : List Callback := []
  /-- Whether a `VerifyOrDie` has failed. -/
  died : Bool := false

abbrev ExchangeM := Proc ChipError ExchangeContext

structure SendMessageFlags where
  expectResponse : Bool
  noAutoRequestAck : Bool

/-- What the layers below answer to one `SendMessage`: whether the dispatch permits the message, the
result of starting the response timer, and that of all that the dispatch does to send the message. -/
structure Answers where
  permitted : Bool
  timer : Except ChipError Unit
  sent : Except ChipError Unit

namespace ExchangeContext

def isGroupExchangeContext (c : ExchangeContext) : Bool := c.mSession.any Session.isGroupSession

def retain (c : ExchangeContext) : ExchangeContext := { c with mRefCount := c.mRefCount + 1 }

/-- The entry of the exchange leaves the retransmission table, if there is one. -/
def releaseEntry (c : ExchangeContext) : ExchangeContext :=
  if c.messageNotAcked then { c with messageNotAcked := false, mRefCount := c.mRefCount - 1 }
  else c

def setPendingPeerAckMessageCounter (messageCounter : UInt32) (c : ExchangeContext) :
  ExchangeContext :=
  { c with
    mPendingPeerAckMessageCounter := messageCounter
    ackPending := true
    ackMessageCounterIsValid := true }

end ExchangeContext

/-- `ExchangeMessageDispatch::SendMessage`. An entry that was made for a message that is then not
sent is taken out of the table again. -/
def dispatchMessage (permitted : Bool) (sent : Except ChipError Unit) (reliable : Bool) :
  ExchangeM Unit := do
  Proc.verify (permitted = true) .invalidArgument
  Proc.modify fun c => if c.ackMessageCounterIsValid then { c with ackPending := false } else c
  let c ← Proc.read
  if c.reliableTransmissionAllowed && c.autoRequestAck && reliable then
    if c.messageNotAcked then
      Proc.modify fun c => { c with died := true }
      Proc.fail .incorrectState
    Proc.lift sent
    Proc.modify fun c => { c.retain with messageNotAcked := true }
  else Proc.lift sent

/-- A response is expected from now on; the result is whether its timer has been started. -/
def expectResponse (timer : Except ChipError Unit) : ExchangeM Bool := do
  let c ← Proc.read
  Proc.verify (c.responseExpected = false) .incorrectState
  Proc.modify fun c =>
    { c with responseExpected := true, awaitedTimeout := c.mResponseTimeout }
  if c.mResponseTimeout > 0 then
    match timer with
    | .error err => do
        Proc.modify fun c => { c with responseExpected := false }
        Proc.fail err
    | .ok () => do
        Proc.modify fun c => { c with responseTimer := true }
        pure true
  else pure false

/-- `SendMessage` after the response timer has been seen to. -/
def sendOnSession (isStandaloneAck : Bool) (session : Session) (reliable startedResponseTimer : Bool)
  (answers : Answers) : ExchangeM Unit := do
  let c ← Proc.read
  Proc.verify (session.isGroupSession = true → c.initiator = true) .internal
  match ← Proc.attempt (dispatchMessage answers.permitted answers.sent reliable) with
  | .error err => do
      -- Only the message that started the response timer cancels it.
      if startedResponseTimer then
        Proc.modify fun c => { c with responseTimer := false, responseExpected := false }
      Proc.fail err
  | .ok () => if !isStandaloneAck then Proc.modify fun c => { c with willSendMessage := false }

/-- `SendMessage` up to the call of `MessageHandled`. -/
def sendMessage (isStandaloneAck : Bool) (flags : SendMessageFlags) (answers : Answers) :
  ExchangeM Unit := do
  let c ← Proc.read
  match c.mSession with
  | none => Proc.fail .connectionAborted
  | some session => do
      let reliable := session.requireMRP && !flags.noAutoRequestAck && !session.isGroupSession
      let startedResponseTimer ← if flags.expectResponse && !session.isGroupSession then
          expectResponse answers.timer
        else pure false
      sendOnSession isStandaloneAck session reliable startedResponseTimer answers

/-- What the layers below answer to the sending of an acknowledgement. -/
structure AckAnswers where
  buffer : Bool
  sent : Except ChipError Unit

def isSendErrorNonCritical (err : ChipError) : Bool :=
  err = .notImplemented || err = .outboundMessageTooBig || err = .messageTooLong || err = .noMemory

def sendStandaloneAckMessage (ack : AckAnswers) : ExchangeM Unit := do
  Proc.verify (ack.buffer = true) .noMemory
  match ← Proc.attempt (sendMessage true ⟨false, true⟩ ⟨true, .ok (), ack.sent⟩) with
  | .ok () => pure ()
  | .error err => if isSendErrorNonCritical err then pure () else Proc.fail err

def flushAcks (ack : AckAnswers) : ExchangeM Unit := do
  let c ← Proc.read
  if c.ackPending then sendStandaloneAckMessage ack

/-- The acknowledgement of a duplicate is sent at once. The one that was pending is put back. -/
def handleDuplicate (ack : AckAnswers) (messageCounter : UInt32) : ExchangeM Unit := do
  let c ← Proc.read
  Proc.modify (ExchangeContext.setPendingPeerAckMessageCounter messageCounter)
  let _ ← Proc.attempt (sendStandaloneAckMessage ack)
  if c.ackPending && c.mPendingPeerAckMessageCounter ≠ messageCounter then
    Proc.modify
      (ExchangeContext.setPendingPeerAckMessageCounter c.mPendingPeerAckMessageCounter)
  else if c.ackMessageCounterIsValid then
    Proc.modify fun c' =>
      { c' with mPendingPeerAckMessageCounter := c.mPendingPeerAckMessageCounter }

/-- `HandleNeedsAckInner`. -/
def handleNeedsAck (ack : AckAnswers) (messageCounter : UInt32) (isDuplicate : Bool) :
  ExchangeM Unit := do
  if isDuplicate then handleDuplicate ack messageCounter
  else do
    let c ← Proc.read
    if c.ackPending then sendStandaloneAckMessage ack
    Proc.modify (ExchangeContext.setPendingPeerAckMessageCounter messageCounter)

/-- A message that the session layer passes on. `acks` says that it acknowledges the message of the
exchange that is in the retransmission table. -/
structure Incoming where
  messageCounter : UInt32
  standaloneAck : Bool
  needsAck : Bool
  acks : Bool
  isDuplicate : Bool
  permitted : Bool
  deriving DecidableEq

/-- What the reliable message protocol does with a message. Its result does not matter. -/
def handleReliability (ack : AckAnswers) (msg : Incoming) : ExchangeM Unit := do
  if !msg.isDuplicate && msg.acks then Proc.modify ExchangeContext.releaseEntry
  if msg.needsAck then
    let _ ← Proc.attempt (handleNeedsAck ack msg.messageCounter msg.isDuplicate)

/-- The end of `HandleMessage` up to the call of the delegate. The result is whether it is called. -/
def deliverMessage (msg : Incoming) : ExchangeM Bool := do
  let c ← Proc.read
  if msg.standaloneAck || msg.isDuplicate || c.ephemeralExchange then pure false
  else do
    Proc.verify (c.messageNotAcked = false) .incorrectState
    if c.responseExpected then
      Proc.modify fun c => { c with responseTimer := false, responseExpected := false }
    if c.mDelegate && msg.permitted then do
      Proc.modify fun c => { c with callbacks := c.callbacks ++ [.onMessageReceived] }
      pure true
    else pure false

/-- `HandleMessage` up to the call of the delegate. Without a delegate there will be no response that
could carry the acknowledgement. -/
def receiveMessage (msg : Incoming) (ack flush : AckAnswers) : ExchangeM Bool := do
  let c ← Proc.read
  if c.reliableTransmissionAllowed && !c.isGroupExchangeContext then handleReliability ack msg
  let c ← Proc.read
  if c.ackPending && !c.mDelegate then flushAcks flush
  deliverMessage msg

inductive Task where
  /-- Wait until the delegate, or those that are told of the session, return. -/
  | callback
  /-- The part of `NotifyResponseTimeout` that calls the delegate. -/
  | notifyDelegate
  | messageHandled
  /-- The end of `HandleMessage`. -/
  | finishMessage (msg : Incoming)
  | doClose (clearRetransTable : Bool)
  /-- `DoClose` after the delegate has been told. -/
  | finishClose (clearRetransTable : Bool)
  /-- `Close`, or `Abort` if the retransmission table is to be cleared. -/
  | close (clearRetransTable : Bool)
  | release
  deriving DecidableEq

namespace ExchangeContext

def doClose (clearRetransTable : Bool) (c : ExchangeContext) : ExchangeContext × List Task :=
  if c.closed then (c, [])
  else if c.mDelegate then
    ({ c with closed := true, callbacks := c.callbacks ++ [.onExchangeClosing] },
      [.callback, .finishClose clearRetransTable])
  else ({ c with closed := true }, [.finishClose clearRetransTable])

/-- The rest of `DoClose`. The response timer is cancelled, and the flag is left. -/
def finishClose (clearRetransTable : Bool) (ack : AckAnswers) (c : ExchangeContext) :
  ExchangeContext :=
  let c := (flushAcks ack { c with mDelegate := false }).2
  let c := if clearRetransTable then c.releaseEntry else c
  if c.responseExpected then { c with responseTimer := false } else c

/-- An exchange that waits neither for a response nor for a call to send is closed. -/
def messageHandled (c : ExchangeContext) : List Task :=
  if c.closed || c.responseExpected || c.willSendMessage then [] else [.close false]

def runTask (ack : AckAnswers) (c : ExchangeContext) : Task → ExchangeContext × List Task
  | .callback => (c, [])
  | .notifyDelegate =>
    if c.mDelegate then
      ({ c with callbacks := c.callbacks ++ [.onResponseTimeout] }, [.callback])
    else (c, [])
  | .messageHandled => (c, c.messageHandled)
  | .finishMessage msg =>
    if (msg.standaloneAck || msg.isDuplicate) && c.mDelegate then (c, [])
    else (c, c.messageHandled)
  | .doClose clearRetransTable => c.doClose clearRetransTable
  | .finishClose clearRetransTable => (c.finishClose clearRetransTable ack, [])
  | .close clearRetransTable =>
    ((c.doClose clearRetransTable).1, (c.doClose clearRetransTable).2 ++ [.release])
  | .release => ({ c with mRefCount := c.mRefCount - 1 }, [])

/-- `OnSessionReleased`, with the session gone from its holder. -/
def onSessionReleased (c : ExchangeContext) : ExchangeContext × List Task :=
  let c := { c with mSession := none }
  if c.ignoreSessionRelease then (c, [])
  else if c.closed then (c.releaseEntry, [])
  else if c.willSendMessage then (c.retain, [.doClose true, .release])
  else if c.responseExpected then
    -- The delegate hears of the timeout before the exchange is aborted.
    ({ c.retain.retain with responseTimer := false, responseExpected := false },
      [.notifyDelegate, .release, .close true, .release])
  else (c.retain, [.close true, .release])

/-- `HandleResponseTimeout`: the timer has fired. The users of the session are told first. -/
def handleResponseTimeout (c : ExchangeContext) : ExchangeContext × List Task :=
  ({ c.retain with responseTimer := false, responseExpected := false },
    (if c.mSession.isSome then [.callback] else []) ++
      [.notifyDelegate, .messageHandled, .release])

end ExchangeContext

/-- An exchange and the tasks that are left, the innermost call first. -/
structure Running where
  exchange : ExchangeContext
  tasks : List Task

inductive Event where
  | sendMessage (flags : SendMessageFlags) (answers : Answers)
  | willSendMessage
  | setResponseTimeout (timeout : Nat)
  | close (abort : Bool)
  | setIgnoreSessionRelease (ignore : Bool)
  | grabExpiredSession (session : Session)
  | sessionReleased
  /-- The retransmission table gives up the message of the exchange. -/
  | entryReleased
  | handleMessage (msg : Incoming) (ack flush : AckAnswers)
  | responseTimeout
  | callbackReturns
  /-- The call that is under way goes on. -/
  | proceed (ack : AckAnswers)

namespace Running

/-- The exchange can be called while nothing or a callback is under way. -/
def canCall (s : Running) : Bool :=
  match s.tasks with
  | [] => true
  | .callback :: _ => true
  | _ => false

def push (s : Running) (pushed : ExchangeContext × List Task) : Running where
  exchange := pushed.1
  tasks := pushed.2 ++ s.tasks

/-- `SendMessage`, with the reference it holds if the exchange may be closed at its end. -/
def sendMessage (s : Running) (flags : SendMessageFlags) (answers : Answers) : Running :=
  match Lifecycle.sendMessage false flags answers s.exchange with
  | (.error _, c) => { s with exchange := c }
  | (.ok (), c) => s.push (c.retain, [.messageHandled, .release])

def handleMessage (s : Running) (msg : Incoming) (ack flush : AckAnswers) : Running :=
  match receiveMessage msg ack flush s.exchange.retain with
  | (.ok true, c) => s.push (c, [.callback, .finishMessage msg, .release])
  | (_, c) => s.push (c, [.finishMessage msg, .release])

def call (s : Running) : Event → Option Running
  | .sendMessage flags answers => some (s.sendMessage flags answers)
  | .willSendMessage => some { s with exchange := { s.exchange with willSendMessage := true } }
  | .setResponseTimeout timeout =>
    some { s with exchange := { s.exchange with mResponseTimeout := timeout } }
  | .close abort => some (s.push (s.exchange, [.close abort]))
  | .setIgnoreSessionRelease ignore =>
    some { s with exchange := { s.exchange with ignoreSessionRelease := ignore } }
  | .grabExpiredSession session =>
    some { s with exchange := { s.exchange with mSession := some session } }
  | .sessionReleased =>
    if s.exchange.mSession.isSome then some (s.push s.exchange.onSessionReleased) else none
  | .entryReleased => some { s with exchange := s.exchange.releaseEntry }
  | .handleMessage msg ack flush =>
    if s.tasks = [] then some (s.handleMessage msg ack flush) else none
  | .responseTimeout =>
    if s.tasks = [] ∧ s.exchange.responseTimer = true then
      some (s.push s.exchange.handleResponseTimeout)
    else none
  | .callbackReturns => none
  | .proceed _ => none

/-- One step. Nothing happens to an exchange that has been freed. -/
def step (s : Running) (event : Event) : Option Running :=
  if s.exchange.mRefCount = 0 ∨ s.exchange.died = true then none
  else match event, s.tasks with
    | .callbackReturns, .callback :: tasks => some { s with tasks }
    | .proceed ack, task :: tasks =>
      if task = .callback then none
      else some ({ s with tasks }.push (s.exchange.runTask ack task))
    | event, _ => if s.canCall then s.call event else none

def run (s : Running) (events : List Event) : Option Running := events.foldlM step s

end Running
end Chip.Messaging.Lifecycle
