import Chip.Data.SlidingWindow
import Chip.Transport.PeerMessageCounter

/-! Replay protection for group messages, whose counters may roll over. After a counter has
been accepted it is followed on its way down from the maximum: how far it is below says
where the window has its bit, and how far the maximum has moved since. -/
namespace Chip.Transport

open SlidingWindow

variable {windowSize : Nat}

namespace PeerMessageCounter

def acceptsGroup (counter : UInt32) (p : PeerMessageCounter windowSize) : Bool :=
  match p.verifyOrTrustFirstGroup counter with
  | some (.ok (), _) => true
  | _ => false

/-- A received group message: its counter is verified and, exactly when accepted,
committed. Where the source stops the program, nothing is received any more. -/
def receiveGroup (counter : UInt32) (p : PeerMessageCounter windowSize) :
  PeerMessageCounter windowSize :=
  match p.verifyOrTrustFirstGroup counter with
  | some (.ok (), q) => q.commitWithRollover counter
  | some (.error _, q) => q
  | none => p

def runGroup : List UInt32 → PeerMessageCounter windowSize → PeerMessageCounter windowSize
  | [], p => p
  | counter :: counters, p => runGroup counters (p.receiveGroup counter)

/-- The step of the maximum from one state to the next, modulo 2^32. -/
def advanceOf : PeerMessageCounter windowSize → PeerMessageCounter windowSize → Nat
  | synced s, synced t => (t.mMaxCounter - s.mMaxCounter).toNat
  | _, _ => 0

def groupAdvance : List UInt32 → PeerMessageCounter windowSize → Nat
  | [], _ => 0
  | counter :: counters, p =>
    p.advanceOf (p.receiveGroup counter) + groupAdvance counters (p.receiveGroup counter)

end PeerMessageCounter

open PeerMessageCounter

section Step

variable {s : Synced windowSize} {counter : UInt32}

theorem verifyGroup_ok (h : verifyGroup counter (synced s) = .ok ()) :
  (1 ≤ (counter - s.mMaxCounter).toNat ∧ (counter - s.mMaxCounter).toNat ≤ 2 ^ 31 - 1 ∧
    s.classifyWithRollover counter = .futureCounter) ∨
  (1 ≤ (s.mMaxCounter - counter).toNat ∧ (s.mMaxCounter - counter).toNat ≤ windowSize ∧
    s.seenInWindow counter = false ∧ s.classifyWithRollover counter = .inWindow) := by
  simp only [verifyGroup] at h
  by_cases hFuture : counter - s.mMaxCounter ≥ 1 ∧ counter - s.mMaxCounter ≤ 0x7FFFFFFF
  · have hClass : s.classifyWithRollover counter = .futureCounter := if_pos hFuture
    have hLow := UInt32.le_iff_toNat_le.mp hFuture.1
    have hHigh := UInt32.le_iff_toNat_le.mp hFuture.2
    exact .inl ⟨hLow, hHigh, hClass⟩
  · have hClass : s.classifyWithRollover counter = s.classifyNonFutureCounter counter :=
      if_neg hFuture
    rw [hClass] at h ⊢
    unfold Synced.classifyNonFutureCounter at h ⊢
    by_cases hMax : counter = s.mMaxCounter
    · rw [if_pos hMax] at h
      cases h
    · rw [if_neg hMax] at h ⊢
      by_cases hIn : (s.mMaxCounter - counter).toNat ≤ windowSize
      · rw [if_pos hIn] at h ⊢
        have hClear : s.seenInWindow counter = false := by
          by_contra hSeen
          rw [Bool.not_eq_false] at hSeen
          simp [Synced.verifyPositionEncrypted, hSeen] at h
        refine .inr ⟨?_, hIn, hClear, rfl⟩
        have hNe : counter.toNat ≠ s.mMaxCounter.toNat := fun hEq => hMax (UInt32.toNat_inj.mp hEq)
        have hLt := counter.toNat_lt
        have hLt' := s.mMaxCounter.toNat_lt
        rw [UInt32.toNat_sub]
        omega
      · rw [if_neg hIn] at h
        cases h

/-- A counter that was accepted lies `depth` below the maximum, counted without rollover,
and the window still has it marked while it reaches that far. -/
structure Below (counter : UInt32) (depth : Nat) (s : Synced windowSize) : Prop where
  place : (counter.toNat + depth) % 2 ^ 32 = s.mMaxCounter.toNat
  marked : 0 < depth → depth ≤ windowSize → s.mWindow.getLsbD (depth - 1) = true

def Marked (window : BitVec windowSize) (offset : Nat) : Prop :=
  0 < offset ∧ window.getLsbD (offset - 1) = true

theorem represents_marked (window : BitVec windowSize) : Represents window (Marked window) := by
  intro i _
  simp [Marked]

theorem mark_keeps {window : BitVec windowSize} {offset depth : Nat} (hPos : 0 < offset)
  (hDepth : 0 < depth) (hIn : depth ≤ windowSize)
  (h : depth = offset ∨ window.getLsbD (depth - 1) = true) :
  (window ||| BitVec.twoPow windowSize (offset - 1)).getLsbD (depth - 1) = true := by
  rw [((represents_marked window).mark hPos).test hDepth hIn]
  exact h.imp_right fun hBit => ⟨hDepth, hBit⟩

theorem Below.commit (h : verifyGroup counter (synced s) = .ok ()) :
  ∃ depth, depth ≤ windowSize ∧ Below counter depth (s.commitWithRollover counter) := by
  rcases verifyGroup_ok h with ⟨-, -, hClass⟩ | ⟨hPos, hIn, -, hClass⟩
  · refine ⟨0, Nat.zero_le _, ?_, fun hPos => absurd hPos (Nat.lt_irrefl 0)⟩
    rw [Synced.commitWithRollover, hClass]
    exact Nat.mod_eq_of_lt counter.toNat_lt
  · refine ⟨(s.mMaxCounter - counter).toNat, hIn, ?_, ?_⟩
    · rw [Synced.commitWithRollover, hClass]
      have hLt := counter.toNat_lt
      have hLt' := s.mMaxCounter.toNat_lt
      change (counter.toNat + (s.mMaxCounter - counter).toNat) % 2 ^ 32 = s.mMaxCounter.toNat
      rw [UInt32.toNat_sub]
      omega
    · intro hDepth hReach
      rw [Synced.commitWithRollover, hClass]
      exact mark_keeps hPos hDepth hReach (.inl rfl)

theorem Below.step {depth : Nat} {c : UInt32} (hBelow : Below c depth s)
  (h : verifyGroup counter (synced s) = .ok ()) :
  Below c (depth + ((s.commitWithRollover counter).mMaxCounter - s.mMaxCounter).toNat)
    (s.commitWithRollover counter) := by
  have hLt := c.toNat_lt
  have hLt' := s.mMaxCounter.toNat_lt
  have hPlace := hBelow.place
  rcases verifyGroup_ok h with ⟨hPos, -, hClass⟩ | ⟨hPos, hIn, -, hClass⟩
  · -- A new maximum: the window moves on with it.
    have hCommit : s.commitWithRollover counter =
        ⟨counter, SlidingWindow.advance (counter - s.mMaxCounter).toNat s.mWindow⟩ := by
      rw [Synced.commitWithRollover, hClass]
      rfl
    rw [hCommit]
    refine ⟨?_, ?_⟩
    · change (c.toNat + (depth + (counter - s.mMaxCounter).toNat)) % 2 ^ 32 = counter.toNat
      have hCounter := counter.toNat_lt
      rw [UInt32.toNat_sub]
      omega
    · intro hDepth hReach
      refine (((represents_marked s.mWindow).advance hPos).test hDepth hReach).mpr ?_
      by_cases hZero : depth = 0
      · exact .inl (by simp only [hZero, Nat.zero_add])
      · refine .inr ⟨by simp only; omega, ?_⟩
        have hShift : depth + (counter - s.mMaxCounter).toNat - (counter - s.mMaxCounter).toNat =
            depth := by omega
        simp only [hShift]
        exact ⟨by omega, hBelow.marked (by omega) (by simp only at hReach; omega)⟩
  · have hCommit : s.commitWithRollover counter =
        { s with mWindow := s.mWindow |||
          BitVec.twoPow windowSize ((s.mMaxCounter - counter).toNat - 1) } := by
      rw [Synced.commitWithRollover, hClass]
      rfl
    rw [hCommit]
    simp only [UInt32.sub_self, UInt32.toNat_zero, Nat.add_zero]
    refine ⟨hPlace, ?_⟩
    intro hDepth hReach
    exact mark_keeps hPos hDepth hReach (.inr (hBelow.marked hDepth hReach))

theorem Below.again {depth : Nat} (hBelow : Below counter depth s)
  (h : verifyGroup counter (synced s) = .ok ()) : 2 ^ 31 ≤ depth := by
  have hLt := counter.toNat_lt
  have hLt' := s.mMaxCounter.toNat_lt
  have hPlace := hBelow.place
  rcases verifyGroup_ok h with ⟨hPos, hHigh, -⟩ | ⟨hPos, hIn, hClear, -⟩
  · rw [UInt32.toNat_sub] at hPos hHigh
    omega
  · by_contra hShort
    have hDepth : (s.mMaxCounter - counter).toNat = depth := by
      rw [UInt32.toNat_sub]
      omega
    have hMarked := hBelow.marked (by omega) (by omega)
    rw [Synced.seenInWindow, hDepth, hMarked] at hClear
    cases hClear

end Step

theorem receiveGroup_synced (counter : UInt32) (s : Synced windowSize) :
  (verifyGroup counter (synced s) = .ok () ∧ acceptsGroup counter (synced s) = true ∧
    receiveGroup counter (synced s) = synced (s.commitWithRollover counter)) ∨
  (acceptsGroup counter (synced s) = false ∧ receiveGroup counter (synced s) = synced s) := by
  unfold acceptsGroup receiveGroup
  rw [verifyOrTrustFirstGroup]
  cases hVerify : verifyGroup counter (synced s) with
  | ok value => exact .inl ⟨rfl, rfl, rfl⟩
  | error e => exact .inr ⟨rfl, rfl⟩

theorem acceptsGroup_synced {counter : UInt32} {s : Synced windowSize}
  (h : acceptsGroup counter (synced s) = true) : verifyGroup counter (synced s) = .ok () := by
  rcases receiveGroup_synced counter s with ⟨hOk, -, -⟩ | ⟨hNot, -⟩
  · exact hOk
  · rw [hNot] at h
    cases h

theorem receiveGroup_first (counter : UInt32) :
  receiveGroup counter (notSynced : PeerMessageCounter windowSize) = synced ⟨counter, 0⟩ := by
  have hClass : Synced.classifyWithRollover (⟨counter, 0⟩ : Synced windowSize) counter =
      .maxCounter := by
    have hZero : ¬ (counter - counter ≥ 1 ∧ counter - counter ≤ 0x7FFFFFFF) := by
      rw [UInt32.sub_self]
      decide
    rw [Synced.classifyWithRollover]
    simp only
    rw [if_neg hZero, Synced.classifyNonFutureCounter, if_pos rfl]
  change synced (Synced.commitWithRollover ⟨counter, 0⟩ counter) = _
  rw [Synced.commitWithRollover, hClass]
  rfl

theorem Below.of_accepted {counter : UInt32} {p : PeerMessageCounter windowSize}
  (h : p.acceptsGroup counter = true) :
  ∃ depth s, p.receiveGroup counter = synced s ∧ depth ≤ windowSize ∧ Below counter depth s := by
  cases p with
  | notSynced =>
    refine ⟨0, ⟨counter, 0⟩, receiveGroup_first counter, Nat.zero_le _, ?_, ?_⟩
    · exact Nat.mod_eq_of_lt counter.toNat_lt
    · intro hPos
      exact absurd hPos (Nat.lt_irrefl 0)
  | syncInProcess challenge => cases h
  | synced s =>
    rcases receiveGroup_synced counter s with ⟨hOk, -, hReceive⟩ | ⟨hNot, -⟩
    · obtain ⟨depth, hDepth, hBelow⟩ := Below.commit hOk
      exact ⟨depth, _, hReceive, hDepth, hBelow⟩
    · rw [hNot] at h
      cases h

theorem Below.run {c : UInt32} {depth : Nat} {s : Synced windowSize} (counters : List UInt32)
  (h : Below c depth s) :
  ∃ t, runGroup counters (synced s) = synced t ∧
    Below c (depth + groupAdvance counters (synced s)) t := by
  induction counters generalizing depth s with
  | nil => exact ⟨s, rfl, h⟩
  | cons counter counters ih =>
    rcases receiveGroup_synced counter s with ⟨hOk, -, hReceive⟩ | ⟨-, hReceive⟩
    · obtain ⟨t, hRun, hBelow⟩ := ih (h.step hOk)
      refine ⟨t, ?_, ?_⟩
      · rw [runGroup, hReceive, hRun]
      · rw [groupAdvance, hReceive, ← Nat.add_assoc]
        exact hBelow
    · obtain ⟨t, hRun, hBelow⟩ := ih h
      refine ⟨t, ?_, ?_⟩
      · rw [runGroup, hReceive, hRun]
      · have hStay : advanceOf (synced s) (synced s) = 0 := by
          simp [advanceOf]
        rw [groupAdvance, hReceive, hStay, Nat.zero_add]
        exact hBelow

/-- Replay protection for group messages. A counter that is accepted again finds the maximum
at least 2^31 less the window further on, and in every synced state an accepted counter is
within the window or among the next 2^31 - 1 counters. -/
theorem group_replay_protection (p : PeerMessageCounter windowSize) (received : List UInt32) :
    (∀ c between, (p.runGroup received).acceptsGroup c = true →
      (((p.runGroup received).receiveGroup c).runGroup between).acceptsGroup c = true →
      2 ^ 31 - windowSize ≤ ((p.runGroup received).receiveGroup c).groupAdvance between) ∧
    ∀ c max, (p.runGroup received).getCounter = some max →
      (p.runGroup received).acceptsGroup c = true → c ≠ max →
      windowSize < (max - c).toNat → 1 ≤ (c - max).toNat ∧ (c - max).toNat ≤ 2 ^ 31 - 1 := by
  constructor
  · intro c between hFirst hAgain
    obtain ⟨depth, s, hReceive, hDepth, hBelow⟩ := Below.of_accepted hFirst
    rw [hReceive] at hAgain ⊢
    obtain ⟨t, hRun, hBelow'⟩ := hBelow.run between
    rw [hRun] at hAgain
    have hFar := hBelow'.again (acceptsGroup_synced hAgain)
    omega
  · intro c max hMax hAccept _ hOutside
    cases hState : p.runGroup received with
    | notSynced =>
      rw [hState] at hMax
      cases hMax
    | syncInProcess challenge =>
      rw [hState] at hMax
      cases hMax
    | synced s =>
      rw [hState] at hMax hAccept
      obtain rfl : s.mMaxCounter = max := Option.some.inj hMax
      rcases verifyGroup_ok (acceptsGroup_synced hAccept) with ⟨hLow, hHigh, -⟩ | ⟨-, hIn, -⟩
      · exact ⟨hLow, hHigh⟩
      · omega

/-- The maximum goes once around in three steps before the first counter is accepted again. -/
theorem group_replay_protection_around :
    2 ^ 31 - 32 ≤ groupAdvance [0x70000000, 0xE0000000]
      ((notSynced : PeerMessageCounter 32).receiveGroup 0) :=
  (group_replay_protection (notSynced : PeerMessageCounter 32) []).1 0 [0x70000000, 0xE0000000]
    (by decide +kernel) (by decide +kernel)

end Chip.Transport
