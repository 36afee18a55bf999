import Chip.Ble.BtpEngine

/-! What `HandleCharacteristicReceived` does with a fragment: first its acknowledgement, then its
sequence number, then its data. -/
namespace Chip.Ble

open Proc

namespace BtpEngine

variable {e acked : BtpEngine} {allocSize : Nat} {flags ackNum seq : UInt8}
  {data chunk got fragment : List UInt8} {n : Nat}

def rxSession (e : BtpEngine) : BtpEngine :=
  { e with mRxState := .idle, mRxLength := 0, mRxBuf := [] }

theorem exitWith_keeps (err : BtpError) (data : Option (List UInt8)) :
  Proc.Keeps rxSession (exitWith err data) :=
  .bind (.modify fun _ => rfl) fun _ => .fail err

theorem endOfMessage_keeps : Proc.Keeps rxSession endOfMessage := by
  refine .bind (.modify fun _ => rfl) fun _ => .read_bind fun e => ?_
  split
  · exact exitWith_keeps _ _
  · exact .modify fun _ => rfl

theorem finishFragment_keeps (flags : UInt8) : Proc.Keeps rxSession (finishFragment flags) := by
  refine .read_bind fun e => ?_
  split
  · exact exitWith_keeps _ _
  · split
    · exact endOfMessage_keeps
    · exact .pure ()

theorem reassemble_keeps (allocSize : Nat) (flags : UInt8) (data : List UInt8) :
  Proc.Keeps rxSession (reassemble allocSize flags data) := by
  refine .read_bind fun e => ?_
  split
  · split
    · exact exitWith_keeps _ _
    · split
      · exact .bind (.modify fun _ => rfl) fun _ => finishFragment_keeps flags
      · exact exitWith_keeps _ _
  · split
    · exact exitWith_keeps _ _
    · split
      · exact exitWith_keeps _ _
      · exact .bind (.modify fun _ => rfl) fun _ => finishFragment_keeps flags
  · exact exitWith_keeps _ _

def carriesData (flags : UInt8) : Bool :=
  hasFlag flags startMessage || hasFlag flags continueMessage || hasFlag flags endMessage

/-- The engine after the sequence number of a fragment, if it is the next one. -/
def received (e : BtpEngine) : BtpEngine :=
  { e with mRxNewestUnackedSeqNum := e.mRxNextSeqNum, mRxNextSeqNum := e.mRxNextSeqNum + 1 }

theorem receiveSequence_data (headerSize : Nat) (hData : carriesData flags = true)
  (hSize : headerSize ≤ e.mRxFragmentSize) :
  receiveSequence allocSize fragment flags headerSize (e.mRxNextSeqNum :: data) e =
    reassemble allocSize flags (data.take (e.mRxFragmentSize - headerSize)) e.received := by
  unfold carriesData at hData
  rw [receiveSequence, modify_bind, read_bind]
  simp only [ne_eq, not_true_eq_false, if_false, modify_bind, hData, Bool.not_true,
    Bool.false_eq_true, Nat.not_lt.mpr hSize]
  rfl

theorem receiveSequence_standAlone (headerSize : Nat) (hData : carriesData flags = false) :
  receiveSequence allocSize fragment flags headerSize (e.mRxNextSeqNum :: data) e =
    (.ok (), e.received) := by
  unfold carriesData at hData
  rw [receiveSequence, modify_bind, read_bind]
  simp only [ne_eq, not_true_eq_false, if_false, modify_bind, hData, Bool.not_false, if_true]
  rfl

/-- The header behind the flags, with an acknowledgement or without. -/
def headerBytes (ack : Option UInt8) (seq : UInt8) : List UInt8 := ack.toList ++ [seq]

def Acknowledges (e : BtpEngine) (ack : Option UInt8) (acked : BtpEngine) : Prop :=
  ack.elim (acked = e) fun ackNum => e.handleAckReceived ackNum = .ok acked

theorem received_eq {ack : Option UInt8} (hFlag : hasFlag flags fragmentAck = ack.isSome)
  (hAck : e.Acknowledges ack acked) :
  e.handleCharacteristicReceived allocSize (flags :: headerBytes ack seq ++ data) =
    (ack, receiveSequence allocSize (flags :: headerBytes ack seq ++ data) flags
      (1 + (headerBytes ack seq).length) (seq :: data) acked) := by
  cases ack with
  | none =>
    cases hAck
    change handleCharacteristicReceived e allocSize (flags :: seq :: data) = _
    rw [handleCharacteristicReceived.eq_def]
    simp only [hFlag, Option.isSome_none, Bool.false_eq_true, if_false]
    rfl
  | some ackNum =>
    have hOk : e.handleAckReceived ackNum = .ok acked := hAck
    change handleCharacteristicReceived e allocSize (flags :: ackNum :: seq :: data) = _
    rw [handleCharacteristicReceived.eq_def]
    simp only [hFlag, Option.isSome_some, if_true, hOk]
    rfl

structure Receiving (e : BtpEngine) (n : Nat) (got : List UInt8) : Prop where
  inProgress : e.mRxState = .inProgress
  length : e.mRxLength = n
  buf : e.mRxBuf = [got]

structure HasReceived (e : BtpEngine) (message : List UInt8) : Prop where
  complete : e.mRxState = .complete
  buf : e.mRxBuf = [message]

theorem compactHead_fits (hFits : got.length + chunk.length ≤ allocSize)
  (hSome : got.length < allocSize) : compactHead allocSize got [chunk] = [got ++ chunk] := by
  have hAvailable : allocSize - got.length ≠ 0 := by omega
  simp only [compactHead, hAvailable, if_false]
  rw [if_pos (by omega)]

theorem finishFragment_last (hReceiving : e.Receiving got.length got)
  (hEnd : hasFlag flags endMessage = true) :
  (finishFragment flags e).1 = .ok () ∧ (finishFragment flags e).2.HasReceived got := by
  have hFinish : finishFragment flags e =
      (.ok (), { e with mRxBuf := [got], mRxState := .complete }) := by
    rw [finishFragment, read_bind]
    simp only [hReceiving.buf, List.length_singleton, Nat.lt_irrefl, if_false, hEnd, if_true]
    rw [endOfMessage, modify_bind, read_bind]
    simp [hReceiving.buf, hReceiving.length]
  rw [hFinish]
  exact ⟨rfl, rfl, rfl⟩

theorem finishFragment_more (hReceiving : e.Receiving n got)
  (hEnd : hasFlag flags endMessage = false) : finishFragment flags e = (.ok (), e) := by
  rw [finishFragment, read_bind]
  simp [hReceiving.buf, hEnd]

theorem reassemble_first {low high : UInt8} (hIdle : e.mRxState = .idle)
  (hStart : hasFlag flags startMessage = true) (hFits : chunk.length ≤ allocSize)
  (hSome : 0 < allocSize) (hLength : low.toNat + 256 * high.toNat = n) :
  ∃ begun : BtpEngine, begun.Receiving n chunk ∧
    reassemble allocSize flags (low :: high :: chunk) e = finishFragment flags begun := by
  refine ⟨addToEnd { e with
      mRxLength := low.toNat + 256 * high.toNat
      mRxState := .inProgress
      mRxBuf := [] } allocSize chunk, ⟨rfl, hLength, ?_⟩, ?_⟩
  · exact (compactHead_fits (by simpa using hFits) hSome).trans (by simp)
  · rw [reassemble, read_bind]
    simp only [hIdle, hStart, Bool.not_true, Bool.false_eq_true, if_false]
    rw [modify_bind]

theorem reassemble_next (hReceiving : e.Receiving n got)
  (hStart : hasFlag flags startMessage = false) (hContinue : hasFlag flags continueMessage = true)
  (hFits : got.length + chunk.length ≤ allocSize) (hSome : got.length < allocSize) :
  ∃ added : BtpEngine, added.Receiving n (got ++ chunk) ∧
    reassemble allocSize flags chunk e = finishFragment flags added := by
  refine ⟨e.addToEnd allocSize chunk, ⟨hReceiving.inProgress, hReceiving.length, ?_⟩, ?_⟩
  · simp only [addToEnd, hReceiving.buf, List.nil_append]
    exact compactHead_fits hFits hSome
  · rw [reassemble.eq_def, read_bind]
    simp only [hReceiving.inProgress, hStart, hContinue, Bool.false_eq_true, if_false,
      Bool.true_or, Bool.not_true]
    rw [modify_bind]

end BtpEngine

end Chip.Ble
