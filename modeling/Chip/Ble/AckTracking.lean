import Chip.Ble.Receiving
import Chip.Data.CyclicSequence

/-! What the engine knows of the fragments it has sent: the interval from the oldest to the newest
unacknowledged number stands for the fragments that are outstanding, as long as they are fewer
than 256. -/
namespace Chip.Ble

open CyclicSequence BtpEngine

open Chip.System (PacketBuffer)

/-- The part of the engine that keeps track of the sent fragments. -/
structure TxCounters where
  next : UInt8
  oldest : UInt8
  newest : UInt8
  expectingAck : Bool

namespace BtpEngine

variable {e : BtpEngine}

def txCounters (e : BtpEngine) : TxCounters :=
  ⟨e.mTxNextSeqNum, e.mTxOldestUnackedSeqNum, e.mTxNewestUnackedSeqNum, e.mExpectingAck⟩

def txSide (e : BtpEngine) : BtpEngine :=
  { e.rxSession with mRxNextSeqNum := 0, mRxNewestUnackedSeqNum := 0 }

theorem receiveSequence_keeps (allocSize : Nat) (fragment : List UInt8) (flags : UInt8)
  (headerSize : Nat) (rest : List UInt8) :
  Proc.Keeps txSide (receiveSequence allocSize fragment flags headerSize rest) := by
  have hExit : ∀ err data, Proc.Keeps txSide (exitWith err data) :=
    fun err data => (exitWith_keeps err data).map txSide
  cases rest with
  | nil => exact hExit _ _
  | cons seq data =>
    refine .bind (.modify fun _ => rfl) fun _ => .read_bind fun e => ?_
    split
    · exact hExit _ _
    · refine .bind (.modify fun _ => rfl) fun _ => ?_
      split
      · exact .pure ()
      · split
        · exact hExit _ _
        · exact (reassemble_keeps _ _ _).map txSide

def ackOf : List UInt8 → Option UInt8
  | flags :: ackNum :: _ => if hasFlag flags fragmentAck then some ackNum else none
  | _ => none

/-- The engine after a fragment with an acknowledgement, or without. -/
def acknowledged (e : BtpEngine) (ack : Option UInt8) : BtpEngine :=
  ack.elim e fun ackNum => (e.handleAckReceived ackNum).toOption.getD e

theorem txSide_received (allocSize : Nat) (fragment : List UInt8) :
  (e.handleCharacteristicReceived allocSize fragment).2.2.txSide =
    (e.acknowledged (ackOf fragment)).txSide := by
  have hExit : ∀ err data, Proc.Keeps txSide (exitWith err data) :=
    fun err data => (exitWith_keeps err data).map txSide
  cases fragment with
  | nil => exact hExit _ _ e
  | cons flags rest =>
    rw [handleCharacteristicReceived.eq_def]
    cases rest with
    | nil =>
      dsimp only
      split
      · exact hExit _ _ e
      · exact receiveSequence_keeps _ _ _ _ _ e
    | cons ackNum rest =>
      dsimp only [ackOf]
      split
      · cases hHandle : e.handleAckReceived ackNum with
        | error err =>
          have hAcked : e.acknowledged (some ackNum) = e := by
            simp [acknowledged, hHandle, Except.toOption]
          rw [hAcked]
          exact hExit _ _ e
        | ok acked =>
          have hAcked : e.acknowledged (some ackNum) = acked := by
            simp [acknowledged, hHandle, Except.toOption]
          rw [hAcked]
          exact receiveSequence_keeps _ _ _ _ _ acked
      · exact receiveSequence_keeps _ _ _ _ _ e

theorem txCounters_received (allocSize : Nat) (fragment : List UInt8) :
  (e.handleCharacteristicReceived allocSize fragment).2.2.txCounters =
    (e.acknowledged (ackOf fragment)).txCounters :=
  (congrArg txCounters (txSide_received allocSize fragment) :)

theorem txCounters_writeFragment (sendAck : Bool) (kind : UInt8) (lengthField : List UInt8)
  (buf : PacketBuffer) :
  (e.writeFragment sendAck kind lengthField buf).txCounters = e.incrementNextTxSeqNum.txCounters := by
  cases sendAck with
  | true =>
    simp only [writeFragment, if_true]
    split
    · rfl
    · rfl
  | false =>
    simp only [writeFragment, Bool.false_eq_true, if_false]
    split
    · rfl
    · rfl

/-- What a send does to the sender's counters: nothing if it fails. -/
def Counted (e : BtpEngine) (sent : Bool × BtpEngine) : Prop :=
  sent.2.txCounters = (bif sent.1 then e.incrementNextTxSeqNum else e).txCounters

theorem counted_send (data : Option PacketBuffer) (sendAck : Bool) :
  e.Counted (e.handleCharacteristicSend data sendAck) := by
  unfold handleCharacteristicSend
  split
  · rfl
  · cases hState : e.mTxState with
    | idle =>
      cases data with
      | none => rfl
      | some buf =>
        dsimp only
        cases buf.ensureReservedSize
            ((if sendAck then maxHeaderSize else maxHeaderSize - ackSize) +
              blePktReservedSize) with
        | none => rfl
        | some moved => exact txCounters_writeFragment ..
    | inProgress =>
      cases data with
      | none =>
        dsimp only
        cases e.mTxBuf with
        | none => rfl
        | some buf => exact txCounters_writeFragment ..
      | some => rfl
    | complete => cases data <;> rfl
    | error => cases data <;> rfl

end BtpEngine

/-- The counters stand for `n` outstanding fragments, numbered from `first` on. -/
structure TxCounters.Stands (c : TxCounters) (first : UInt8) (n : Nat) : Prop where
  next : c.next = first + UInt8.ofNat n
  expectingAck : c.expectingAck = true ↔ 0 < n
  oldest : 0 < n → c.oldest = first
  newest : 0 < n → c.newest = first + UInt8.ofNat (n - 1)

namespace BtpEngine

variable {e acked : BtpEngine} {first ackNum : UInt8} {n : Nat}

theorem isValidAck_iff (hStands : e.txCounters.Stands first n) (hFew : n ≤ 256) :
  e.isValidAck ackNum = true ↔ ackNum ∈ cyclicSequence first n := by
  have hExpecting : e.mExpectingAck = true ↔ 0 < n := hStands.expectingAck
  rw [mem_iff hFew]
  by_cases hNone : n = 0
  · have hNot : e.mExpectingAck = false := by
      rw [← Bool.not_eq_true, hExpecting]
      omega
    simp [isValidAck, hNot, hNone]
  · have hSome : e.mExpectingAck = true := hExpecting.mpr (by omega)
    have hOldest : e.mTxOldestUnackedSeqNum = first := hStands.oldest (by omega)
    have hNewest : e.mTxNewestUnackedSeqNum = first + UInt8.ofNat (n - 1) :=
      hStands.newest (by omega)
    have hFirst := first.toNat_lt
    have hAck := ackNum.toNat_lt
    simp only [isValidAck, hSome, hOldest, hNewest, Bool.not_true, Bool.false_eq_true, if_false,
      ge_iff_le, UInt8.le_iff_toNat_le, UInt8.toNat_add, UInt8.toNat_ofNat',
      toNat_sub]
    split
    · simp only [Bool.and_eq_true, decide_eq_true_eq]
      omega
    · simp only [Bool.or_eq_true, decide_eq_true_eq]
      omega

theorem handleAckReceived_ok_iff :
  (∃ acked, e.handleAckReceived ackNum = .ok acked) ↔ e.isValidAck ackNum = true := by
  unfold handleAckReceived
  cases e.isValidAck ackNum with
  | false => simp
  | true =>
    simp only [Bool.not_true, Bool.false_eq_true, if_false, iff_true]
    split
    · exact ⟨_, rfl⟩
    · exact ⟨_, rfl⟩

theorem stands_acknowledged (hStands : e.txCounters.Stands first n) (hFew : n ≤ 256)
  (hAcked : e.handleAckReceived ackNum = .ok acked) :
  acked.txCounters.Stands (ackNum + 1) (n - (ackNum - first).toNat - 1) := by
  have hValid := handleAckReceived_ok_iff.mp ⟨acked, hAcked⟩
  have hMem : (ackNum - first).toNat < n :=
    (mem_iff hFew).mp ((isValidAck_iff hStands hFew).mp hValid)
  have hNext : e.mTxNextSeqNum = first + UInt8.ofNat n := hStands.next
  have hNewest : e.mTxNewestUnackedSeqNum = first + UInt8.ofNat (n - 1) :=
    hStands.newest (by omega)
  have hExpecting : e.mExpectingAck = true := hStands.expectingAck.mpr (by omega)
  have hFirst := first.toNat_lt
  have hAck := ackNum.toNat_lt
  have hRest : first + UInt8.ofNat n =
      ackNum + 1 + UInt8.ofNat (n - (ackNum - first).toNat - 1) := by
    rw [← UInt8.toNat_inj]
    simp only [UInt8.toNat_add, UInt8.toNat_ofNat', UInt8.toNat_one]
    rw [toNat_sub] at hMem ⊢
    omega
  unfold handleAckReceived at hAcked
  simp only [hValid, Bool.not_true, Bool.false_eq_true, if_false] at hAcked
  split at hAcked
  · rename_i hLast
    -- The newest fragment is acknowledged, so that none is left.
    have hNone : n - (ackNum - first).toNat - 1 = 0 := by
      rw [hNewest, ← UInt8.toNat_inj] at hLast
      simp only [UInt8.toNat_add, UInt8.toNat_ofNat'] at hLast
      rw [toNat_sub] at hMem ⊢
      omega
    injection hAcked with hEq
    subst hEq
    rw [hNone] at hRest ⊢
    exact {
      next := hNext.trans hRest
      expectingAck := by simp [txCounters]
      oldest := fun h => absurd h (Nat.lt_irrefl 0)
      newest := fun h => absurd h (Nat.lt_irrefl 0) }
  · rename_i hNotLast
    have hSome : 0 < n - (ackNum - first).toNat - 1 := by
      rw [hNewest, ← UInt8.toNat_inj] at hNotLast
      simp only [UInt8.toNat_add, UInt8.toNat_ofNat'] at hNotLast
      rw [toNat_sub] at hMem ⊢
      omega
    have hNewestRest : first + UInt8.ofNat (n - 1) =
        ackNum + 1 + UInt8.ofNat (n - (ackNum - first).toNat - 1 - 1) := by
      rw [← UInt8.toNat_inj]
      simp only [UInt8.toNat_add, UInt8.toNat_ofNat', UInt8.toNat_one]
      rw [toNat_sub] at hMem hSome ⊢
      omega
    injection hAcked with hEq
    subst hEq
    exact {
      next := hNext.trans hRest
      expectingAck := by simp [txCounters, hExpecting, hSome]
      oldest := fun _ => rfl
      newest := fun _ => hNewest.trans hNewestRest }

theorem stands_incremented (hStands : e.txCounters.Stands first n) :
  e.incrementNextTxSeqNum.txCounters.Stands first (n + 1) where
  next := by
    have hNext : e.mTxNextSeqNum = first + UInt8.ofNat n := hStands.next
    change e.mTxNextSeqNum + 1 = first + UInt8.ofNat (n + 1)
    rw [hNext, UInt8.ofNat_add, UInt8.add_assoc]
    rfl
  expectingAck := by simp [txCounters, incrementNextTxSeqNum]
  oldest := by
    intro _
    have hExpecting : e.mExpectingAck = true ↔ 0 < n := hStands.expectingAck
    change (if e.mExpectingAck then e.mTxOldestUnackedSeqNum else e.mTxNextSeqNum) = first
    split
    · rename_i hSome
      exact hStands.oldest (hExpecting.mp hSome)
    · rename_i hNot
      have hNone : n = 0 := by
        rw [hExpecting] at hNot
        omega
      have hNext : e.mTxNextSeqNum = first + UInt8.ofNat n := hStands.next
      rw [hNext, hNone]
      exact UInt8.add_zero first
  newest := fun _ => hStands.next

end BtpEngine

inductive BtpEvent where
  | send (data : Option PacketBuffer) (sendAck : Bool)
  | sendStandAloneAck
  | receive (allocSize : Nat) (fragment : List UInt8)
  | takeTxPacket
  | takeRxPacket
  | setFragmentSizes (rx tx : Nat)

/-- An engine, and the numbers of the fragments that it has sent and that have not been
acknowledged, the oldest first. -/
structure TrackedEngine where
  engine : BtpEngine
  outstanding : List UInt8

/-- What an acknowledgement of an outstanding fragment leaves: the fragments behind it. -/
def acknowledge (outstanding : List UInt8) (ackNum : UInt8) : List UInt8 :=
  if outstanding.contains ackNum then (outstanding.dropWhile (· != ackNum)).tail else outstanding

theorem acknowledge_split {earlier later : List UInt8} {ackNum : UInt8} (hNew : ackNum ∉ earlier) :
  acknowledge (earlier ++ ackNum :: later) ackNum = later := by
  have hContains : (earlier ++ ackNum :: later).contains ackNum = true := by simp
  have hEarlier : ∀ seq ∈ earlier, (seq != ackNum) = true := by
    intro seq hSeq
    rw [bne_iff_ne]
    exact fun hEq => hNew (hEq ▸ hSeq)
  rw [acknowledge, if_pos hContains, List.dropWhile_append_of_pos hEarlier]
  simp

theorem acknowledge_other {outstanding : List UInt8} {ackNum : UInt8}
  (hOther : ackNum ∉ outstanding) : acknowledge outstanding ackNum = outstanding := by
  simp [acknowledge, hOther]

namespace TrackedEngine

/-- After `Init`. The peripheral's handshake response is its first fragment. -/
def init (expectFirstAck : Bool) : TrackedEngine :=
  ⟨BtpEngine.init expectFirstAck, if expectFirstAck then [0] else []⟩

def step (t : TrackedEngine) : BtpEvent → TrackedEngine
  | .send data sendAck =>
    let sent := t.engine.handleCharacteristicSend data sendAck
    ⟨sent.2, if sent.1 then t.outstanding ++ [t.engine.mTxNextSeqNum] else t.outstanding⟩
  | .sendStandAloneAck =>
    ⟨t.engine.encodeStandAloneAck.2, t.outstanding ++ [t.engine.mTxNextSeqNum]⟩
  | .receive allocSize fragment =>
    ⟨(t.engine.handleCharacteristicReceived allocSize fragment).2.2,
      (BtpEngine.ackOf fragment).elim t.outstanding (acknowledge t.outstanding)⟩
  | .takeTxPacket => ⟨t.engine.takeTxPacket, t.outstanding⟩
  | .takeRxPacket => ⟨t.engine.takeRxPacket.2, t.outstanding⟩
  | .setFragmentSizes rx tx =>
    ⟨{ t.engine with mRxFragmentSize := rx, mTxFragmentSize := tx }, t.outstanding⟩

/-- The states of the runs in which fewer than 256 fragments are outstanding at any time. -/
inductive Reachable (expectFirstAck : Bool) : TrackedEngine → Prop where
  | init : Reachable expectFirstAck (init expectFirstAck)
  | step {t : TrackedEngine} (event : BtpEvent) (reachable : Reachable expectFirstAck t)
      (few : (t.step event).outstanding.length < 256) : Reachable expectFirstAck (t.step event)

def Tracks (t : TrackedEngine) : Prop :=
  ∃ first, t.outstanding = cyclicSequence first t.outstanding.length ∧
    t.engine.txCounters.Stands first t.outstanding.length

variable {t : TrackedEngine} {engine : BtpEngine} {ackNum : UInt8}

section

variable (hTracks : t.Tracks)
include hTracks

theorem tracks_same (hSame : engine.txCounters = t.engine.txCounters) :
  Tracks ⟨engine, t.outstanding⟩ := by
  obtain ⟨first, hNumbers, hStands⟩ := hTracks
  exact ⟨first, hNumbers, hSame ▸ hStands⟩

theorem tracks_sent (hSent : engine.txCounters = t.engine.incrementNextTxSeqNum.txCounters) :
  Tracks ⟨engine, t.outstanding ++ [t.engine.mTxNextSeqNum]⟩ := by
  obtain ⟨first, hNumbers, hStands⟩ := hTracks
  have hLength : (t.outstanding ++ [t.engine.mTxNextSeqNum]).length = t.outstanding.length + 1 :=
    List.length_append
  have hNext : t.engine.mTxNextSeqNum = first + UInt8.ofNat t.outstanding.length := hStands.next
  refine ⟨first, ?_, ?_⟩
  · change t.outstanding ++ [t.engine.mTxNextSeqNum] = _
    rw [hLength, ← concat, ← hNumbers, hNext]
  · rw [hSent, hLength]
    exact stands_incremented hStands

theorem tracks_acknowledged (hFew : t.outstanding.length ≤ 256)
  (hAcked : t.engine.handleAckReceived ackNum = .ok engine) :
  Tracks ⟨engine, acknowledge t.outstanding ackNum⟩ := by
  obtain ⟨first, hNumbers, hStands⟩ := hTracks
  have hValid := handleAckReceived_ok_iff.mp ⟨engine, hAcked⟩
  have hMem := (isValidAck_iff hStands hFew).mp hValid
  have hDistance := (mem_iff hFew).mp hMem
  have hLeft : acknowledge t.outstanding ackNum =
      cyclicSequence (ackNum + 1) (t.outstanding.length - (ackNum - first).toNat - 1) := by
    have hSplit := hNumbers.trans (split hDistance)
    exact (congrArg (acknowledge · ackNum) hSplit).trans
      (acknowledge_split (notMem_before (by omega)))
  refine ⟨ackNum + 1, ?_, ?_⟩
  · rw [hLeft, length]
  · rw [hLeft, length]
    exact stands_acknowledged hStands hFew hAcked

theorem handleAckReceived_iff (hFew : t.outstanding.length ≤ 256) :
  (∃ acked, t.engine.handleAckReceived ackNum = .ok acked) ↔ ackNum ∈ t.outstanding := by
  obtain ⟨first, hNumbers, hStands⟩ := hTracks
  rw [handleAckReceived_ok_iff, isValidAck_iff hStands hFew, ← hNumbers]

theorem expectingAck_iff : t.engine.mExpectingAck = true ↔ t.outstanding ≠ [] := by
  obtain ⟨first, -, hStands⟩ := hTracks
  rw [← List.length_pos_iff]
  exact hStands.expectingAck

theorem tracks_received (hFew : t.outstanding.length ≤ 256) (allocSize : Nat)
  (fragment : List UInt8) : (t.step (.receive allocSize fragment)).Tracks := by
  have hCounters := txCounters_received (e := t.engine) allocSize fragment
  cases hAck : ackOf fragment with
  | none =>
    rw [hAck] at hCounters
    have hSame : t.step (.receive allocSize fragment) =
        ⟨(t.engine.handleCharacteristicReceived allocSize fragment).2.2, t.outstanding⟩ := by
      rw [step, hAck]
      rfl
    rw [hSame]
    exact tracks_same hTracks hCounters
  | some ackNum =>
    rw [hAck] at hCounters
    have hStep : t.step (.receive allocSize fragment) =
        ⟨(t.engine.handleCharacteristicReceived allocSize fragment).2.2,
          acknowledge t.outstanding ackNum⟩ := by
      rw [step, hAck]
      rfl
    rw [hStep]
    cases hHandle : t.engine.handleAckReceived ackNum with
    | ok acked =>
      have hAcked : t.engine.acknowledged (some ackNum) = acked := by
        simp [acknowledged, hHandle, Except.toOption]
      rw [hAcked] at hCounters
      have hTracksAcked := tracks_acknowledged hTracks hFew hHandle
      exact tracks_same hTracksAcked hCounters
    | error err =>
      have hSame : t.engine.acknowledged (some ackNum) = t.engine := by
        simp [acknowledged, hHandle, Except.toOption]
      have hOther : ackNum ∉ t.outstanding := by
        rw [← handleAckReceived_iff hTracks hFew, hHandle]
        exact fun ⟨_, hOk⟩ => by cases hOk
      rw [hSame] at hCounters
      rw [acknowledge_other hOther]
      exact tracks_same hTracks hCounters

end

theorem tracks_init (expectFirstAck : Bool) : (init expectFirstAck).Tracks := by
  refine ⟨0, ?_⟩
  cases expectFirstAck with
  | true => exact ⟨rfl, ⟨rfl, by decide, fun _ => rfl, fun _ => rfl⟩⟩
  | false => exact ⟨rfl, ⟨rfl, by decide, fun h => absurd h (by decide), fun h => absurd h (by decide)⟩⟩

theorem tracks_step (hTracks : t.Tracks) (hFew : t.outstanding.length ≤ 256) (event : BtpEvent) :
  (t.step event).Tracks := by
  cases event with
  | send data sendAck =>
    have hCounted := counted_send (e := t.engine) data sendAck
    unfold BtpEngine.Counted at hCounted
    rw [step]
    cases hSent : (t.engine.handleCharacteristicSend data sendAck).1 with
    | true =>
      rw [hSent] at hCounted
      exact tracks_sent hTracks hCounted
    | false =>
      rw [hSent] at hCounted
      exact tracks_same hTracks hCounted
  | sendStandAloneAck => exact tracks_sent hTracks rfl
  | receive allocSize fragment => exact tracks_received hTracks hFew allocSize fragment
  | takeTxPacket => exact tracks_same hTracks rfl
  | takeRxPacket => exact tracks_same hTracks rfl
  | setFragmentSizes rx tx => exact tracks_same hTracks rfl

theorem reachable_tracks {expectFirstAck : Bool} (hReachable : Reachable expectFirstAck t) :
  t.Tracks ∧ t.outstanding.length < 256 := by
  induction hReachable with
  | init =>
    refine ⟨tracks_init expectFirstAck, ?_⟩
    cases expectFirstAck with
    | true => decide
    | false => decide
  | step event _ hFew ih => exact ⟨tracks_step ih.1 (by omega) event, hFew⟩

/-- In every run with fewer than 256 outstanding fragments, an acknowledgement is accepted exactly
if its fragment is outstanding. Then the fragments up to it, and no others, are no longer
outstanding for the engine, and it expects an acknowledgement as long as any is. -/
theorem handleAckReceived_tracks_outstanding {expectFirstAck : Bool}
    (hReachable : Reachable expectFirstAck t) :
    t.outstanding.Nodup ∧ (t.engine.mExpectingAck = true ↔ t.outstanding ≠ []) ∧
      (∀ ackNum, (∃ acked, t.engine.handleAckReceived ackNum = .ok acked) ↔
        ackNum ∈ t.outstanding) ∧
      ∀ ackNum acked, t.engine.handleAckReceived ackNum = .ok acked →
        ∃ earlier later, t.outstanding = earlier ++ ackNum :: later ∧
          (∀ seq, (∃ again, acked.handleAckReceived seq = .ok again) ↔ seq ∈ later) ∧
          (acked.mExpectingAck = true ↔ later ≠ []) := by
  obtain ⟨hTracks, hLess⟩ := reachable_tracks hReachable
  have hFew : t.outstanding.length ≤ 256 := by omega
  have hNodup : t.outstanding.Nodup := by
    obtain ⟨first, hNumbers, -⟩ := hTracks
    exact hNumbers ▸ CyclicSequence.nodup hFew
  refine ⟨hNodup, expectingAck_iff hTracks, fun _ => handleAckReceived_iff hTracks hFew, ?_⟩
  intro ackNum acked hAcked
  have hMem := (handleAckReceived_iff hTracks hFew).mp ⟨acked, hAcked⟩
  obtain ⟨earlier, later, hSplit, hNew⟩ := List.eq_append_cons_of_mem hMem
  have hTracksAcked := tracks_acknowledged hTracks hFew hAcked
  rw [hSplit, acknowledge_split hNew] at hTracksAcked
  have hLaterFew : later.length ≤ 256 := by
    have hLength := congrArg List.length hSplit
    rw [List.length_append, List.length_cons] at hLength
    omega
  exact ⟨earlier, later, hSplit, fun _ => handleAckReceived_iff hTracksAcked hLaterFew,
    expectingAck_iff hTracksAcked⟩

/-- The central sends two stand-alone acknowledgements, and the first of them is acknowledged. -/
theorem handleAckReceived_tracks_two :
    let run : TrackedEngine :=
      ((init false).step .sendStandAloneAck).step .sendStandAloneAck
    Reachable false run ∧ run.outstanding = [0, 1] ∧
      ((∃ acked, run.engine.handleAckReceived 0 = .ok acked) ↔ (0 : UInt8) ∈ run.outstanding) :=
  have hReachable : Reachable false
      (((init false).step .sendStandAloneAck).step .sendStandAloneAck) :=
    .step _ (.step _ .init (by decide)) (by decide)
  ⟨hReachable, by decide, (handleAckReceived_tracks_outstanding hReachable).2.2.1 0⟩

end TrackedEngine

end Chip.Ble
