import Chip.System.PacketBuffer
import Chip.Data.Proc

/-! The Bluetooth transport protocol engine (`BtpEngine.cpp`): it cuts messages into fragments,
puts received fragments together, and keeps track of what has been acknowledged. Memory is granted
whenever it is asked for. -/
namespace Chip.Ble

open Chip.System (PacketBuffer)

inductive BtpState where
  | idle
  | inProgress
  | complete
  | error
  deriving DecidableEq

/-- The errors of `HandleCharacteristicReceived`. -/
inductive BtpError where
  | bufferTooSmall
  | invalidAck
  | invalidSequenceNumber
  | reassemblerIncorrectState
  | invalidHeaderFlags
  | inboundMessageTooBig
  | missingData

structure BtpEngine where
  mRxState : BtpState
  mRxLength : Nat
  /-- The chain of buffers in which a message is put together. -/
  mRxBuf : List (List UInt8)
  mRxNextSeqNum : UInt8
  mRxNewestUnackedSeqNum : UInt8
  mRxOldestUnackedSeqNum : UInt8
  mRxFragmentSize : Nat
  mTxState : BtpState
  mTxLength : Nat
  mTxBuf : Option PacketBuffer
  mTxNextSeqNum : UInt8
  mTxNewestUnackedSeqNum : UInt8
  mTxOldestUnackedSeqNum : UInt8
  mExpectingAck : Bool
  mTxFragmentSize : Nat

def defaultFragmentSize : Nat := 20

namespace BtpEngine

/-- `Init`. The peripheral expects an acknowledgement of the handshake, which counts as its
fragment zero. -/
def init (expectFirstAck : Bool) : BtpEngine where
  mRxState := .idle
  mRxLength := 0
  mRxBuf := []
  mRxNextSeqNum := if expectFirstAck then 0 else 1
  mRxNewestUnackedSeqNum := 0
  mRxOldestUnackedSeqNum := 0
  mRxFragmentSize := defaultFragmentSize
  mTxState := .idle
  mTxLength := 0
  mTxBuf := none
  mTxNextSeqNum := if expectFirstAck then 1 else 0
  mTxNewestUnackedSeqNum := 0
  mTxOldestUnackedSeqNum := 0
  mExpectingAck := expectFirstAck
  mTxFragmentSize := defaultFragmentSize

variable (e : BtpEngine)

/-- `GetAndIncrementNextTxSeqNum`, without the number, which is `mTxNextSeqNum`. -/
def incrementNextTxSeqNum : BtpEngine :=
  { e with
    mExpectingAck := true
    mTxOldestUnackedSeqNum := if e.mExpectingAck then e.mTxOldestUnackedSeqNum else e.mTxNextSeqNum
    mTxNewestUnackedSeqNum := e.mTxNextSeqNum
    mTxNextSeqNum := e.mTxNextSeqNum + 1 }

/-- `GetAndRecordRxAckSeqNum`, without the number, which is `mRxNewestUnackedSeqNum`. -/
def recordRxAckSeqNum : BtpEngine :=
  { e with
    mRxNewestUnackedSeqNum := e.mRxNextSeqNum
    mRxOldestUnackedSeqNum := e.mRxNextSeqNum }

def hasUnackedData : Bool := e.mRxOldestUnackedSeqNum ≠ e.mRxNextSeqNum

def isValidAck (ackNum : UInt8) : Bool :=
  if !e.mExpectingAck then false
  else if e.mTxNewestUnackedSeqNum ≥ e.mTxOldestUnackedSeqNum then
    ackNum ≤ e.mTxNewestUnackedSeqNum && ackNum ≥ e.mTxOldestUnackedSeqNum
  else ackNum ≤ e.mTxNewestUnackedSeqNum || ackNum ≥ e.mTxOldestUnackedSeqNum

def handleAckReceived (ackNum : UInt8) : Except BtpError BtpEngine :=
  if !e.isValidAck ackNum then .error .invalidAck
  else if e.mTxNewestUnackedSeqNum = ackNum then
    .ok { e with mTxOldestUnackedSeqNum := ackNum, mExpectingAck := false }
  else .ok { e with mTxOldestUnackedSeqNum := ackNum + 1 }

/-- The number that `GetAndRecordRxAckSeqNum` gives to a fragment that carries an
acknowledgement. -/
def ackWith (sendAck : Bool) : Option UInt8 :=
  if sendAck then some e.mRxNewestUnackedSeqNum else none

def startMessage : UInt8 := 0x01
def continueMessage : UInt8 := 0x02
def endMessage : UInt8 := 0x04
def fragmentAck : UInt8 := 0x08

def hasFlag (flags flag : UInt8) : Bool := flags &&& flag ≠ 0

/-- `EncodeStandAloneAck`, where the buffer has the room: the fragment. -/
def encodeStandAloneAck : List UInt8 × BtpEngine :=
  let recorded := e.recordRxAckSeqNum
  ([fragmentAck, e.mRxNewestUnackedSeqNum, recorded.mTxNextSeqNum], recorded.incrementNextTxSeqNum)

/-- `CHIP_CONFIG_BLE_PKT_RESERVED_SIZE`. -/
def blePktReservedSize : Nat := 0

def maxHeaderSize : Nat := 5
def midFragmentMaxHeaderSize : Nat := 3
def ackSize : Nat := 1

/-- The bytes are written one after the other from an index of the window on. -/
def writeHeader (buf : PacketBuffer) (index : Nat) : List UInt8 → PacketBuffer
  | [] => buf
  | byte :: rest => writeHeader (buf.write index byte) (index + 1) rest

/-- The rest of `HandleCharacteristicSend` in both states, with the window at the begin of the
header: the header, which ends with the length of the message in the first fragment, the length of
the fragment and what remains. -/
def writeFragment (sendAck : Bool) (kind : UInt8) (lengthField : List UInt8) (buf : PacketBuffer) :
  BtpEngine :=
  let acked := if sendAck then e.recordRxAckSeqNum else e
  let ack := if sendAck then [e.mRxNewestUnackedSeqNum] else []
  let flags := kind ||| if sendAck then fragmentAck else 0
  let rest := ack ++ [acked.mTxNextSeqNum] ++ lengthField
  let counted := acked.incrementNextTxSeqNum
  let cursor := 1 + rest.length
  let buf := writeHeader buf 1 rest
  if e.mTxLength + cursor ≤ e.mTxFragmentSize then
    { counted with
      mTxBuf := some ((buf.setDataLength (e.mTxLength + cursor)).write 0 (flags ||| endMessage))
      mTxLength := 0
      mTxState := .complete }
  else
    { counted with
      mTxBuf := some ((buf.setDataLength e.mTxFragmentSize).write 0 flags)
      mTxLength := e.mTxLength + cursor - e.mTxFragmentSize }

/-- `HandleCharacteristicSend`: `false` is an error. -/
def handleCharacteristicSend (data : Option PacketBuffer) (sendAck : Bool) : Bool × BtpEngine :=
  if sendAck && !e.hasUnackedData then (false, e)
  else
    match e.mTxState, data with
    | .idle, none => (false, e)
    | .idle, some buf =>
      let headerSize := if sendAck then maxHeaderSize else maxHeaderSize - ackSize
      match buf.ensureReservedSize (headerSize + blePktReservedSize) with
      | none =>
        (false, { e with mTxState := .error, mTxBuf := none, mTxLength := buf.len })
      | some buf =>
        let started := { e with mTxState := .inProgress, mTxLength := buf.len }
        (true, started.writeFragment sendAck startMessage
          [UInt8.ofNat (buf.len % 256), UInt8.ofNat (buf.len / 256)]
          (buf.setStart (buf.payload - headerSize)))
    | .inProgress, none =>
      match e.mTxBuf with
      | none => (false, e)
      | some buf =>
        let headerSize :=
          if sendAck then midFragmentMaxHeaderSize else midFragmentMaxHeaderSize - ackSize
        (true, e.writeFragment sendAck continueMessage []
          (buf.setStart (buf.payload + e.mTxFragmentSize - headerSize)))
    | _, _ => (false, e)

/-- The fragment to transmit, `BorrowTxPacket`. -/
def txFragment : List UInt8 := (e.mTxBuf.map PacketBuffer.data).getD []

def takeTxPacket : BtpEngine :=
  { e with mTxState := if e.mTxState = .complete then .idle else e.mTxState, mTxBuf := none }

/-- The end of `CompactHead`: the head of the chain takes what it has room for from the buffers
behind it. -/
def compactHead (allocSize : Nat) : List UInt8 → List (List UInt8) → List (List UInt8)
  | head, [] => [head]
  | head, next :: rest =>
    let available := allocSize - head.length
    if available = 0 then head :: next :: rest
    else if next.length ≤ available then compactHead allocSize (head ++ next) rest
    else (head ++ next.take available) :: next.drop available :: rest

def addToEnd (allocSize : Nat) (data : List UInt8) : BtpEngine :=
  { e with
    mRxBuf :=
      match e.mRxBuf with
      | [] => compactHead allocSize [] [data]
      | head :: rest => compactHead allocSize head (rest ++ [data]) }

/-- The way out of `HandleCharacteristicReceived` with an error: the buffer that has come, if it
has not been moved, is tacked onto the others, to be freed with them. -/
def exitWith (err : BtpError) (data : Option (List UInt8)) : Proc BtpError BtpEngine Unit := do
  Proc.modify fun e => { e with mRxState := .error, mRxBuf := e.mRxBuf ++ data.toList }
  Proc.fail err

def endOfMessage : Proc BtpError BtpEngine Unit := do
  Proc.modify fun e => { e with mRxBuf := [(e.mRxBuf.headD []).take e.mRxLength] }
  let e ← Proc.read
  if (e.mRxBuf.headD []).length ≠ e.mRxLength then exitWith .missingData none
  else Proc.modify fun e => { e with mRxState := .complete }

def finishFragment (flags : UInt8) : Proc BtpError BtpEngine Unit := do
  let e ← Proc.read
  if 1 < e.mRxBuf.length then exitWith .inboundMessageTooBig none
  else if hasFlag flags endMessage then endOfMessage
  else pure ()

/-- The reassembly of `HandleCharacteristicReceived`, with buffers of a size. -/
def reassemble (allocSize : Nat) (flags : UInt8) (data : List UInt8) :
  Proc BtpError BtpEngine Unit := do
  let e ← Proc.read
  match e.mRxState with
  | .idle =>
    if !hasFlag flags startMessage then exitWith .invalidHeaderFlags (some data)
    else
      match data with
      | low :: high :: payload => do
          Proc.modify fun e => addToEnd { e with
            mRxLength := low.toNat + 256 * high.toNat
            mRxState := .inProgress
            mRxBuf := [] } allocSize payload
          finishFragment flags
      | _ => exitWith .bufferTooSmall (some data)
  | .inProgress =>
    if hasFlag flags startMessage then exitWith .invalidHeaderFlags (some data)
    else if !(hasFlag flags continueMessage || hasFlag flags endMessage) then
      exitWith .invalidHeaderFlags (some data)
    else do
      Proc.modify fun e => e.addToEnd allocSize data
      finishFragment flags
  | _ => exitWith .reassemblerIncorrectState (some data)

/-- `HandleCharacteristicReceived` from the sequence number on, where the header has a size. -/
def receiveSequence (allocSize : Nat) (fragment : List UInt8) (flags : UInt8) (headerSize : Nat) :
  List UInt8 → Proc BtpError BtpEngine Unit
  | [] => exitWith .bufferTooSmall (some fragment)
  | seq :: data => do
      Proc.modify fun e => { e with mRxNewestUnackedSeqNum := seq }
      let e ← Proc.read
      if seq ≠ e.mRxNextSeqNum then exitWith .invalidSequenceNumber (some fragment)
      else do
        Proc.modify fun e => { e with mRxNextSeqNum := e.mRxNextSeqNum + 1 }
        if !(hasFlag flags startMessage || hasFlag flags continueMessage ||
            hasFlag flags endMessage) then pure ()
        else if e.mRxFragmentSize < headerSize then
          exitWith .reassemblerIncorrectState (some fragment)
        else reassemble allocSize flags (data.take (e.mRxFragmentSize - headerSize))

/-- `HandleCharacteristicReceived`, with the acknowledgement that came with the fragment. -/
def handleCharacteristicReceived (allocSize : Nat) (fragment : List UInt8) :
  Option UInt8 × Except BtpError Unit × BtpEngine :=
  match fragment with
  | [] => (none, exitWith .bufferTooSmall (some fragment) e)
  | flags :: rest =>
    if hasFlag flags fragmentAck then
      match rest with
      | [] => (none, exitWith .bufferTooSmall (some fragment) e)
      | ackNum :: rest =>
        match e.handleAckReceived ackNum with
        | .error err => (some ackNum, exitWith err (some fragment) e)
        | .ok acked => (some ackNum, receiveSequence allocSize fragment flags 3 rest acked)
    else (none, receiveSequence allocSize fragment flags 2 rest e)

/-- `TakeRxPacket`: the message. -/
def takeRxPacket : List (List UInt8) × BtpEngine :=
  (e.mRxBuf,
    { e with mRxState := if e.mRxState = .complete then .idle else e.mRxState, mRxBuf := [] })

end BtpEngine

end Chip.Ble
