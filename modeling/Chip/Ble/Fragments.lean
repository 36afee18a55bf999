import Chip.Ble.BtpEngine
import Mathlib.Data.List.Basic

/-! The fragments that `HandleCharacteristicSend` makes of a message. The header of each fragment
is written over the end of the data that has been sent before, so that what remains of the message
is left in place. -/
namespace Chip.Ble

open List

open Chip.System (PacketBuffer)

namespace BtpEngine

variable {buf : PacketBuffer} {bytes rest : List UInt8} {flags : UInt8} {len : Nat}

@[simp] theorem writeHeader_payload (buf : PacketBuffer) (index : Nat) (bytes : List UInt8) :
  (writeHeader buf index bytes).payload = buf.payload := by
  induction bytes generalizing buf index with
  | nil => rfl
  | cons byte rest ih => exact ih _ _

theorem writeHeader_memory (buf : PacketBuffer) (index : Nat) (bytes : List UInt8)
  (hRoom : buf.payload + index + bytes.length ≤ buf.memory.length) :
  (writeHeader buf index bytes).memory = buf.memory.take (buf.payload + index) ++ bytes ++
    buf.memory.drop (buf.payload + index + bytes.length) := by
  induction bytes generalizing buf index with
  | nil => simp [writeHeader]
  | cons byte rest ih =>
    rw [length_cons] at hRoom
    have hLength : (buf.write index byte).memory.length = buf.memory.length := length_set
    have hWritten := ih (buf.write index byte) (index + 1) (by
      rw [hLength]
      change buf.payload + (index + 1) + rest.length ≤ buf.memory.length
      omega)
    have hTake : (buf.memory.set (buf.payload + index) byte).take (buf.payload + (index + 1)) =
        buf.memory.take (buf.payload + index) ++ [byte] := by
      rw [set_eq_take_append_cons_drop, if_pos (by omega)]
      rw [take_append, length_take, Nat.min_eq_left (by omega)]
      have hOne : buf.payload + (index + 1) - (buf.payload + index) = 1 := by omega
      rw [hOne, take_of_length_le (by rw [length_take]; omega)]
      rfl
    have hDrop : (buf.memory.set (buf.payload + index) byte).drop
        (buf.payload + (index + 1) + rest.length) =
          buf.memory.drop (buf.payload + index + (rest.length + 1)) := by
      rw [drop_set_of_lt (by omega)]
      congr 1
      omega
    rw [writeHeader, hWritten]
    change (buf.memory.set (buf.payload + index) byte).take (buf.payload + (index + 1)) ++ rest ++
      (buf.memory.set (buf.payload + index) byte).drop
        (buf.payload + (index + 1) + rest.length) = _
    rw [hTake, hDrop, length_cons]
    simp

/-- The buffer of a fragment: the flags come last, with the length of the fragment. -/
def fragmentBuffer (buf : PacketBuffer) (flags : UInt8) (rest : List UInt8) (len : Nat) :
  PacketBuffer :=
  ((writeHeader buf 1 rest).setDataLength len).write 0 flags

@[simp] theorem fragmentBuffer_payload (buf : PacketBuffer) (flags : UInt8) (rest : List UInt8)
  (len : Nat) : (fragmentBuffer buf flags rest len).payload = buf.payload :=
  writeHeader_payload buf 1 rest

theorem fragmentBuffer_memory (flags : UInt8) (len : Nat)
  (hRoom : buf.payload + 1 + rest.length ≤ buf.memory.length) :
  (fragmentBuffer buf flags rest len).memory = buf.memory.take buf.payload ++ flags :: rest ++
    buf.memory.drop (buf.payload + 1 + rest.length) := by
  have hPayload : (fragmentBuffer buf flags rest len).memory =
      (writeHeader buf 1 rest).memory.set buf.payload flags := by
    change (writeHeader buf 1 rest).memory.set ((writeHeader buf 1 rest).payload + 0) flags = _
    rw [writeHeader_payload]
    rfl
  have hCut : buf.memory.take (buf.payload + 1) =
      buf.memory.take buf.payload ++ [buf.memory.get ⟨buf.payload, by omega⟩] := by
    simp
  rw [hPayload, writeHeader_memory buf 1 rest hRoom, hCut]
  simp only [append_assoc, cons_append, nil_append]
  rw [set_append_right _ _ (by rw [length_take]; omega)]
  rw [length_take, Nat.min_eq_left (by omega), Nat.sub_self]
  rfl

theorem fragmentBuffer_drop (flags : UInt8) (len : Nat) {index : Nat}
  (hRoom : buf.payload + 1 + rest.length ≤ buf.memory.length) (hIndex : 1 + rest.length ≤ index) :
  (fragmentBuffer buf flags rest len).memory.drop (buf.payload + index) =
    buf.memory.drop (buf.payload + index) := by
  have hBefore : (buf.memory.take buf.payload ++ flags :: rest).length =
      buf.payload + 1 + rest.length := by
    simp only [length_append, length_take, length_cons]
    omega
  rw [fragmentBuffer_memory flags len hRoom, drop_append, hBefore,
    drop_of_length_le (by omega), nil_append, drop_drop]
  congr 1
  omega

theorem fragmentBuffer_data (hRoom : buf.payload + len ≤ buf.memory.length)
  (hHeader : 1 + rest.length ≤ len) :
  (fragmentBuffer buf flags rest len).data = flags :: rest ++
    (buf.memory.drop (buf.payload + 1 + rest.length)).take (len - (1 + rest.length)) := by
  have hMemory := fragmentBuffer_memory flags len
    (show buf.payload + 1 + rest.length ≤ buf.memory.length by omega)
  have hMemoryLength : (writeHeader buf 1 rest).memory.length = buf.memory.length := by
    rw [writeHeader_memory buf 1 rest (by omega)]
    simp only [length_append, length_take, length_drop]
    omega
  have hLen : (fragmentBuffer buf flags rest len).len = len := by
    change min len ((writeHeader buf 1 rest).memory.length - (writeHeader buf 1 rest).payload) = len
    rw [hMemoryLength, writeHeader_payload]
    omega
  have hBefore : (buf.memory.take buf.payload).length = buf.payload := by
    rw [length_take]
    omega
  rw [PacketBuffer.data, hLen, hMemory, fragmentBuffer_payload, append_assoc,
    drop_append_of_le_length (by omega), drop_of_length_le (by omega), nil_append,
    take_append, take_of_length_le (by simpa [Nat.add_comm] using hHeader)]
  simp only [length_cons, Nat.add_comm rest.length 1]

variable {e sent : BtpEngine} {message left : List UInt8} {sendAck : Bool} {kind : UInt8}
  {lengthField : List UInt8}

def headerRest (e : BtpEngine) (sendAck : Bool) (lengthField : List UInt8) : List UInt8 :=
  (if sendAck then [e.mRxNewestUnackedSeqNum] else []) ++ [e.mTxNextSeqNum] ++ lengthField

/-- The engine is sending a message, of which something is left behind the last fragment. -/
structure Sending (e : BtpEngine) (left : List UInt8) : Prop where
  inProgress : e.mTxState = .inProgress
  some_left : left ≠ []
  length : e.mTxLength = left.length
  in_place : ∃ buf, e.mTxBuf = some buf ∧
    buf.payload + e.mTxFragmentSize + left.length ≤ buf.memory.length ∧
      (buf.memory.drop (buf.payload + e.mTxFragmentSize)).take left.length = left

/-- A fragment of at most a size has been made, with a header and the data that fits behind it. -/
inductive Makes (size : Nat) (flags : UInt8) (rest left : List UInt8) (sent : BtpEngine) : Prop
  | last (fits : 1 + rest.length + left.length ≤ size)
      (fragment : sent.txFragment = (flags ||| endMessage) :: rest ++ left)
      (complete : sent.mTxState = .complete) : Makes size flags rest left sent
  | more (less : size < 1 + rest.length + left.length)
      (fragment : sent.txFragment = flags :: rest ++ left.take (size - (1 + rest.length)))
      (sending : sent.Sending (left.drop (size - (1 + rest.length)))) :
        Makes size flags rest left sent

/-- The engine with a fragment counted, and with an acknowledgement that goes with it. -/
def counted (e : BtpEngine) (sendAck : Bool) : BtpEngine :=
  (if sendAck then e.recordRxAckSeqNum else e).incrementNextTxSeqNum

theorem writeFragment_eq (e : BtpEngine) (sendAck : Bool) (kind : UInt8) (lengthField : List UInt8)
    (buf : PacketBuffer) :
    e.writeFragment sendAck kind lengthField buf =
      let flags := kind ||| if sendAck then fragmentAck else 0
      let rest := e.headerRest sendAck lengthField
      let size := e.mTxLength + (1 + rest.length)
      if size ≤ e.mTxFragmentSize then
        { e.counted sendAck with
          mTxBuf := some (fragmentBuffer buf (flags ||| endMessage) rest size)
          mTxLength := 0
          mTxState := .complete }
      else
        { e.counted sendAck with
          mTxBuf := some (fragmentBuffer buf flags rest e.mTxFragmentSize)
          mTxLength := size - e.mTxFragmentSize } := by
  cases sendAck with
  | true => rfl
  | false => rfl

theorem counted_mTxState : (e.counted sendAck).mTxState = e.mTxState := by
  cases sendAck with
  | true => rfl
  | false => rfl

theorem counted_mTxFragmentSize : (e.counted sendAck).mTxFragmentSize = e.mTxFragmentSize := by
  cases sendAck with
  | true => rfl
  | false => rfl

theorem counted_mTxNextSeqNum : (e.counted sendAck).mTxNextSeqNum = e.mTxNextSeqNum + 1 := by
  cases sendAck with
  | true => rfl
  | false => rfl

theorem counted_mTxNewestUnackedSeqNum :
  (e.counted sendAck).mTxNewestUnackedSeqNum = e.mTxNextSeqNum := by
  cases sendAck with
  | true => rfl
  | false => rfl

theorem counted_mRxNextSeqNum : (e.counted sendAck).mRxNextSeqNum = e.mRxNextSeqNum := by
  cases sendAck with
  | true => rfl
  | false => rfl

theorem counted_mRxFragmentSize : (e.counted sendAck).mRxFragmentSize = e.mRxFragmentSize := by
  cases sendAck with
  | true => rfl
  | false => rfl

theorem writeFragment_makes (kind : UInt8) (hState : e.mTxState = .inProgress)
  (hLength : e.mTxLength = left.length)
  (hHeader : 1 + (e.headerRest sendAck lengthField).length ≤ e.mTxFragmentSize)
  (hRoom : buf.payload + (1 + (e.headerRest sendAck lengthField).length) + left.length ≤
    buf.memory.length)
  (hPlace : (buf.memory.drop (buf.payload + (1 + (e.headerRest sendAck lengthField).length))).take
    left.length = left) :
  Makes e.mTxFragmentSize (kind ||| if sendAck then fragmentAck else 0)
    (e.headerRest sendAck lengthField) left (e.writeFragment sendAck kind lengthField buf) := by
  have hIndex : buf.payload + 1 + (e.headerRest sendAck lengthField).length =
      buf.payload + (1 + (e.headerRest sendAck lengthField).length) := Nat.add_assoc ..
  have hEq := writeFragment_eq e sendAck kind lengthField buf
  generalize e.headerRest sendAck lengthField = rest at *
  generalize (kind ||| if sendAck then fragmentAck else 0) = flags at *
  by_cases hFits : e.mTxLength + (1 + rest.length) ≤ e.mTxFragmentSize
  · rw [hEq]
    simp only [hFits, if_true]
    refine .last (by omega) ?_ rfl
    change (fragmentBuffer buf (flags ||| endMessage) rest (e.mTxLength + (1 + rest.length))).data = _
    rw [fragmentBuffer_data (by omega) (by omega), hIndex, Nat.add_sub_cancel, hLength, hPlace]
  · rw [hEq]
    simp only [hFits, if_false]
    have hSize : ∀ buf : Option PacketBuffer, ∀ len, ({ e.counted sendAck with
        mTxBuf := buf
        mTxLength := len } : BtpEngine).mTxFragmentSize = e.mTxFragmentSize :=
      fun _ _ => counted_mTxFragmentSize
    refine .more (by omega) ?_ ?_
    · change (fragmentBuffer buf flags rest e.mTxFragmentSize).data = _
      rw [fragmentBuffer_data (by omega) (by omega), hIndex]
      conv_rhs => rw [← hPlace]
      rw [take_take, Nat.min_eq_left (by omega)]
    · exact {
        inProgress := counted_mTxState.trans hState
        some_left := by
          rw [← length_pos_iff, length_drop]
          omega
        length := by
          rw [length_drop]
          change e.mTxLength + (1 + rest.length) - e.mTxFragmentSize = _
          omega
        in_place := by
          refine ⟨_, rfl, ?_, ?_⟩
          · rw [hSize, fragmentBuffer_memory _ _ (by omega), fragmentBuffer_payload]
            simp only [length_append, length_take, length_cons, length_drop]
            omega
          · have hLeft : left.drop (e.mTxFragmentSize - (1 + rest.length)) =
                (buf.memory.drop (buf.payload + e.mTxFragmentSize)).take
                  (left.length - (e.mTxFragmentSize - (1 + rest.length))) := by
              conv_lhs => rw [← hPlace, drop_take, drop_drop]
              congr 2
              omega
            rw [hSize, fragmentBuffer_payload, fragmentBuffer_drop _ _ (by omega) hHeader,
              length_drop]
            exact hLeft.symm }

def session (e : BtpEngine) : BtpEngine :=
  { e with mTxState := .idle, mTxLength := 0, mTxBuf := none }

theorem session_writeFragment (e : BtpEngine) (sendAck : Bool) (kind : UInt8)
  (lengthField : List UInt8) (buf : PacketBuffer) :
  (e.writeFragment sendAck kind lengthField buf).session = (e.counted sendAck).session := by
  rw [writeFragment_eq]
  dsimp only
  split
  · rfl
  · rfl

def firstHeaderSize (sendAck : Bool) : Nat :=
  if sendAck then maxHeaderSize else maxHeaderSize - ackSize

def HasRoom (msg : PacketBuffer) (sendAck : Bool) : Prop :=
  firstHeaderSize sendAck ≤ msg.payload ∨ firstHeaderSize sendAck + msg.len ≤ msg.memory.length

def lengthOf (msg : PacketBuffer) : List UInt8 :=
  [UInt8.ofNat (msg.len % 256), UInt8.ofNat (msg.len / 256)]

variable {msg : PacketBuffer}

theorem headerRest_length (e : BtpEngine) (sendAck : Bool) (lengthField : List UInt8) :
  (e.headerRest sendAck lengthField).length =
    (if sendAck then 2 else 1) + lengthField.length := by
  cases sendAck with
  | true => simp [headerRest]; omega
  | false => simp [headerRest]; omega

theorem ackGuard (hAck : sendAck = true → e.hasUnackedData = true) :
  (sendAck && !e.hasUnackedData) = false := by
  cases sendAck with
  | false => rfl
  | true => simp [hAck rfl]

theorem send_first (hIdle : e.mTxState = .idle) (hSize : maxHeaderSize ≤ e.mTxFragmentSize)
  (hRoom : HasRoom msg sendAck) (hAck : sendAck = true → e.hasUnackedData = true) :
  ∃ sent, e.handleCharacteristicSend (some msg) sendAck = (true, sent) ∧
    Makes e.mTxFragmentSize (startMessage ||| if sendAck then fragmentAck else 0)
      (e.headerRest sendAck (lengthOf msg)) msg.data sent ∧
    sent.session = (e.counted sendAck).session := by
  let headerSize := firstHeaderSize sendAck
  have hHeader : 1 + (e.headerRest sendAck (lengthOf msg)).length = headerSize := by
    rw [headerRest_length]
    cases sendAck with
    | true => rfl
    | false => rfl
  have hLess : headerSize ≤ maxHeaderSize := by
    cases sendAck with
    | true => exact Nat.le_refl _
    | false => decide
  obtain ⟨moved, hMoved, hData, hLen, hReserved⟩ :=
    msg.ensureReservedSize_spec (headerSize + blePktReservedSize) hRoom
  have hReservedSize : headerSize ≤ moved.payload := hReserved
  have hFits := moved.fits
  let started := { e with mTxState := BtpState.inProgress, mTxLength := moved.len }
  let window := moved.setStart (moved.payload - headerSize)
  have hPayload : window.payload = moved.payload - headerSize := by
    change min (moved.payload - headerSize) moved.memory.length = _
    omega
  have hSent : e.handleCharacteristicSend (some msg) sendAck =
      (true, started.writeFragment sendAck startMessage (lengthOf moved) window) := by
    rw [handleCharacteristicSend.eq_def, ackGuard hAck, hIdle]
    simp only [Bool.false_eq_true, if_false]
    rw [← firstHeaderSize, hMoved]
    rfl
  have hField : lengthOf moved = lengthOf msg := by
    rw [lengthOf, hLen]
    rfl
  have hDataLength : moved.len = msg.data.length := by rw [← hData, PacketBuffer.length_data]
  have hMakes : Makes started.mTxFragmentSize (startMessage ||| if sendAck then fragmentAck else 0)
      (started.headerRest sendAck (lengthOf msg)) msg.data
      (started.writeFragment sendAck startMessage (lengthOf msg) window) := by
    refine writeFragment_makes startMessage rfl hDataLength ?_ ?_ ?_
    · change 1 + (e.headerRest sendAck (lengthOf msg)).length ≤ e.mTxFragmentSize
      omega
    · change window.payload + (1 + (e.headerRest sendAck (lengthOf msg)).length) +
        msg.data.length ≤ moved.memory.length
      omega
    · change (moved.memory.drop
        (window.payload + (1 + (e.headerRest sendAck (lengthOf msg)).length))).take _ = _
      have hBack : window.payload + (1 + (e.headerRest sendAck (lengthOf msg)).length) =
          moved.payload := by
        omega
      rw [hBack, ← hDataLength]
      exact hData
  refine ⟨_, hSent, hField ▸ hMakes, ?_⟩
  rw [session_writeFragment]
  cases sendAck with
  | true => rfl
  | false => rfl

theorem send_next (hSending : e.Sending left) (hSize : maxHeaderSize ≤ e.mTxFragmentSize)
  (hAck : sendAck = true → e.hasUnackedData = true) :
  ∃ sent, e.handleCharacteristicSend none sendAck = (true, sent) ∧
    Makes e.mTxFragmentSize (continueMessage ||| if sendAck then fragmentAck else 0)
      (e.headerRest sendAck []) left sent ∧
    sent.session = (e.counted sendAck).session := by
  obtain ⟨buf, hBuf, hRoom, hPlace⟩ := hSending.in_place
  let headerSize := if sendAck then midFragmentMaxHeaderSize else midFragmentMaxHeaderSize - ackSize
  have hHeader : 1 + (e.headerRest sendAck []).length = headerSize := by
    rw [headerRest_length]
    cases sendAck with
    | true => rfl
    | false => rfl
  have hLess : headerSize ≤ maxHeaderSize := by
    cases sendAck with
    | true => decide
    | false => decide
  let window := buf.setStart (buf.payload + e.mTxFragmentSize - headerSize)
  have hPayload : window.payload = buf.payload + e.mTxFragmentSize - headerSize := by
    change min (buf.payload + e.mTxFragmentSize - headerSize) buf.memory.length = _
    omega
  have hBack : window.payload + (1 + (e.headerRest sendAck []).length) =
      buf.payload + e.mTxFragmentSize := by
    omega
  have hSent : e.handleCharacteristicSend none sendAck =
      (true, e.writeFragment sendAck continueMessage [] window) := by
    rw [handleCharacteristicSend.eq_def, ackGuard hAck, hSending.inProgress]
    simp only [Bool.false_eq_true, if_false]
    rw [hBuf]
  refine ⟨_, hSent, ?_, session_writeFragment ..⟩
  refine writeFragment_makes continueMessage hSending.inProgress hSending.length ?_ ?_ ?_
  · omega
  · rw [hBack]
    exact hRoom
  · rw [hBack]
    exact hPlace

theorem send_cases (e : BtpEngine) (data : Option PacketBuffer) (sendAck : Bool) :
  e.handleCharacteristicSend data sendAck = (false, e) ∨
    (∃ msg : PacketBuffer, e.mTxState = .idle ∧ e.handleCharacteristicSend data sendAck =
      (false, { e with mTxState := .error, mTxBuf := none, mTxLength := msg.len })) ∨
    ((sendAck = true → e.hasUnackedData = true) ∧
      ((∃ msg, data = some msg ∧ e.mTxState = .idle ∧ HasRoom msg sendAck) ∨
        (data = none ∧ e.mTxState = .inProgress))) := by
  by_cases hGuard : (sendAck && !e.hasUnackedData) = true
  · refine .inl ?_
    rw [handleCharacteristicSend.eq_def, if_pos hGuard]
  · have hAck : sendAck = true → e.hasUnackedData = true := by
      intro hAck
      simpa [hAck] using hGuard
    cases hState : e.mTxState with
    | idle =>
      cases data with
      | none =>
        refine .inl ?_
        rw [handleCharacteristicSend.eq_def, if_neg hGuard, hState]
      | some msg =>
        cases hMoved : msg.ensureReservedSize (firstHeaderSize sendAck + blePktReservedSize) with
        | none =>
          refine .inr (.inl ⟨msg, rfl, ?_⟩)
          rw [handleCharacteristicSend.eq_def, if_neg hGuard, hState]
          dsimp only
          rw [← firstHeaderSize, hMoved]
        | some moved =>
          exact .inr (.inr ⟨hAck, .inl ⟨msg, rfl, rfl, msg.ensureReservedSize_room hMoved⟩⟩)
    | inProgress =>
      cases data with
      | none => exact .inr (.inr ⟨hAck, .inr ⟨rfl, rfl⟩⟩)
      | some _ =>
        refine .inl ?_
        rw [handleCharacteristicSend.eq_def, if_neg hGuard, hState]
    | complete =>
      refine .inl ?_
      rw [handleCharacteristicSend.eq_def, if_neg hGuard, hState]
    | error =>
      refine .inl ?_
      rw [handleCharacteristicSend.eq_def, if_neg hGuard, hState]

theorem session_send {data : Option PacketBuffer} {sendAck : Bool}
  (hSent : e.handleCharacteristicSend data sendAck = (true, sent)) :
  sent.session = (e.counted sendAck).session ∧ (sendAck = true → e.hasUnackedData = true) := by
  rcases send_cases e data sendAck with hRefused | ⟨msg, -, hNoRoom⟩ | ⟨hAck, hMakes⟩
  · rw [hRefused] at hSent
    cases hSent
  · rw [hNoRoom] at hSent
    cases hSent
  · refine ⟨?_, hAck⟩
    rw [handleCharacteristicSend.eq_def, ackGuard hAck, if_neg (by decide)] at hSent
    rcases hMakes with ⟨msg, rfl, hIdle, hRoom⟩ | ⟨rfl, hState⟩
    · obtain ⟨moved, hMoved, -⟩ :=
        msg.ensureReservedSize_spec (firstHeaderSize sendAck + blePktReservedSize) hRoom
      rw [hIdle] at hSent
      dsimp only at hSent
      rw [← firstHeaderSize, hMoved] at hSent
      injection hSent with _ hEq
      rw [← hEq, session_writeFragment]
      cases sendAck with
      | true => rfl
      | false => rfl
    · rw [hState] at hSent
      dsimp only at hSent
      cases hBuf : e.mTxBuf with
      | none =>
        rw [hBuf] at hSent
        cases hSent
      | some buf =>
        rw [hBuf] at hSent
        injection hSent with _ hEq
        rw [← hEq, session_writeFragment]

end BtpEngine

end Chip.Ble
