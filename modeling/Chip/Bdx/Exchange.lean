import Chip.Bdx.Negotiation

/-! A transfer between a sender and a receiver. Each application makes calls and polls in any order,
and the messages that the polls report arrive in order. -/
namespace Chip.Bdx

open Chip.Transport (Bytes)

open TransferControlFlags

/-- The two sessions with the messages between them, the blocks that were handed to `PrepareBlock` at
the sender, and those that `PollOutput` has reported at the receiver. -/
structure Exchange where
  sender : TransferSession
  receiver : TransferSession
  toSender : List Message
  toReceiver : List Message
  prepared : List BlockData
  delivered : List BlockData

inductive Action where
  | acceptTransfer (granted : Bool) (acceptData : TransferAcceptData)
  | prepareBlock (granted : Bool) (inData : BlockData)
  | prepareBlockQuery (granted : Bool)
  | prepareBlockQueryWithSkip (granted : Bool) (bytesToSkip : UInt64)
  | prepareBlockAck (granted : Bool)
  | pollOutput (role : TransferRole) (curTime : UInt64)
  | handleMessageReceived (role : TransferRole) (granted : Bool) (curTime : UInt64)

namespace Exchange

def session (x : Exchange) : TransferRole → TransferSession
  | .sender => x.sender
  | .receiver => x.receiver

def inbox (x : Exchange) : TransferRole → List Message
  | .sender => x.toSender
  | .receiver => x.toReceiver

def withSession (x : Exchange) (role : TransferRole) (s : TransferSession) : Exchange :=
  match role with
  | .sender => { x with sender := s }
  | .receiver => { x with receiver := s }

def withInbox (x : Exchange) (role : TransferRole) (messages : List Message) : Exchange :=
  match role with
  | .sender => { x with toSender := messages }
  | .receiver => { x with toReceiver := messages }

/-- A call at a session. A call that is not accepted is not taken. -/
def call (x : Exchange) (role : TransferRole) (run : Proc ChipError TransferSession Unit) :
  Option Exchange :=
  match run (x.session role) with
  | (.ok (), s) => some (x.withSession role s)
  | (.error _, _) => none

/-- The application sends what it is told to send, and takes the blocks. -/
def output (x : Exchange) (role : TransferRole) : TransferSession.OutputEvent → Exchange
  | .msgToSend msg => x.withInbox role.other (x.inbox role.other ++ [msg])
  | .blockReceived block =>
    { x with delivered := x.delivered ++ [⟨some block.data, block.isEof⟩] }
  | _ => x

def perform (initiator : TransferRole) (x : Exchange) : Action → Option Exchange
  | .acceptTransfer granted acceptData =>
    x.call initiator.other (TransferSession.acceptTransfer granted acceptData)
  | .prepareBlock granted inData =>
    (x.call .sender (TransferSession.prepareBlock granted inData)).map fun x' =>
      { x' with prepared := x.prepared ++ [inData] }
  | .prepareBlockQuery granted => x.call .receiver (TransferSession.prepareBlockQuery granted)
  | .prepareBlockQueryWithSkip granted bytesToSkip =>
    x.call .receiver (TransferSession.prepareBlockQueryWithSkip granted bytesToSkip)
  | .prepareBlockAck granted => x.call .receiver (TransferSession.prepareBlockAck granted)
  | .pollOutput role curTime =>
    let polled := (x.session role).pollOutput curTime
    some ((x.withSession role polled.2).output role polled.1)
  | .handleMessageReceived role granted curTime =>
    match x.inbox role with
    | [] => none
    | msg :: rest =>
      (x.call role (TransferSession.handleMessageReceived granted msg curTime)).map fun x' =>
        x'.withInbox role rest

/-- One side has called `StartTransfer`, and the other `WaitForTransfer`. -/
structure Start (initiator : TransferRole) (initData : TransferInitData) (x : Exchange) : Prop where
  /-- The length of a file designator is a `uint16_t`. -/
  fits : initData.fileDesignator.length < 256 ^ 2
  started : ∃ granted timeout mode, TransferSession.startTransfer granted initiator initData timeout
    (.fresh initiator mode) = (.ok (), x.session initiator)
  waiting : ∃ xferControlOpts maxBlockSize timeout mode, TransferSession.waitForTransfer
    initiator.other xferControlOpts maxBlockSize timeout (.fresh initiator.other mode) =
      (.ok (), x.session initiator.other)
  nothing : x.toSender = [] ∧ x.toReceiver = [] ∧ x.prepared = [] ∧ x.delivered = []

/-- The runs whose actions are allowed in the states where they are taken. -/
inductive Run (allowed : Exchange → Action → Prop) (initiator : TransferRole) :
    Exchange → Exchange → Prop
  | start (x : Exchange) : Run allowed initiator x x
  | step {x y z : Exchange} (run : Run allowed initiator x y) (action : Action)
      (allows : allowed y action) (performs : y.perform initiator action = some z) :
      Run allowed initiator x z

/-- The transfer is driven by one side, both sessions are in that mode, and nobody polls too late. -/
def Driven (initiator : TransferRole) (x : Exchange) : Action → Prop
  | .acceptTransfer _ acceptData =>
    (acceptData.controlMode = senderDrive ∨ acceptData.controlMode = receiverDrive) ∧
      (x.session initiator.other).mControlMode = acceptData.controlMode
  | .pollOutput role curTime =>
    ((x.session role).startTime curTime).timedOut curTime = false
  | _ => True

def bytes (blocks : List BlockData) : Nat :=
  (blocks.map fun block => (block.data.getD []).length).sum

/-- What the applications have to see to, since the sessions accept more: a block is not empty and
within the length of the transfer unless it is the last, queries are made in receiver drive, and
blocks are not acknowledged while another one is expected. -/
def Orderly (initiator : TransferRole) (x : Exchange) (action : Action) : Prop :=
  x.Driven initiator action ∧
    match action with
    | .prepareBlock _ inData => inData.isEof = true ∨ (inData.data ≠ some [] ∧
        (x.sender.isTransferLengthDefinite = true →
          bytes (x.prepared ++ [inData]) ≤ x.sender.mTransferLength.toNat))
    | .prepareBlockQuery _ => x.receiver.mControlMode = receiverDrive
    | .prepareBlockQueryWithSkip _ _ => x.receiver.mControlMode = receiverDrive
    | .prepareBlockAck _ => x.receiver.mState = .transferInProgress →
        x.receiver.mAwaitingResponse = false
    | _ => True

def outbox (s : TransferSession) : List Message :=
  if s.mPendingOutput = .msgToSend then [⟨s.mMsgTypeData, s.mPendingMsg⟩] else []

def line (x : Exchange) (role : TransferRole) : List Message :=
  x.inbox role ++ outbox (x.session role.other)

def isBlock (msg : Message) : Bool := msg.type = .bdx .block || msg.type = .bdx .blockEOF

def isQuery (msg : Message) : Bool :=
  msg.type = .bdx .blockQuery || msg.type = .bdx .blockQueryWithSkip

/-- The counters of the two sides differ at most by the message on the way. In sender drive there are
no queries, and the receiver expects the block that the sender has sent last or sends next. -/
structure CountersClose (sender receiver : TransferSession) (toReceiver toSender : List Message) :
    Prop where
  blocks : sender.mLastBlockNum = receiver.mLastBlockNum ∨
    (sender.mLastBlockNum = receiver.mLastBlockNum + 1 ∧ (toReceiver.filter isBlock).length = 1)
  queries : sender.mControlMode = receiverDrive → receiver.mControlMode = receiverDrive →
    receiver.mLastQueryNum = sender.mLastQueryNum ∨
      (receiver.mLastQueryNum = sender.mLastQueryNum + 1 ∧ (toSender.filter isQuery).length = 1)
  expected : receiver.mLastQueryNum = sender.mLastBlockNum ∨
    receiver.mLastQueryNum = sender.mNextBlockNum

structure Delivers (x : Exchange) : Prop where
  inOrder : x.delivered <+: x.prepared
  counters : CountersClose x.sender x.receiver (x.line .receiver) (x.line .sender)
  noError : ∀ role, (x.session role).mState ≠ .errorState
  complete : x.sender.mState = .transferDone → x.receiver.mState = .transferDone ∧
    x.delivered = x.prepared ∧ ∃ blocks last, x.prepared = blocks ++ [last] ∧ last.isEof = true

end Exchange

end Chip.Bdx
