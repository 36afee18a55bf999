import Chip.Data.SlidingWindow
import Chip.Transport.PeerMessageCounter

/-! Replay protection for encrypted unicast messages. The window and the maximum of
a synced counter are tied to the history of accepted counters: over every run of
received counters a bit is set exactly when its counter was accepted or is the
initial one. -/
namespace Chip.Transport

open PeerMessageCounter Synced SlidingWindow

variable {windowSize : Nat}

namespace PeerMessageCounter

/-- A received message: its counter is verified and, exactly when accepted,
committed. -/
def receive (counter : UInt32) (p : PeerMessageCounter windowSize) : PeerMessageCounter windowSize :=
  match p.verifyEncryptedUnicast counter with
  | .ok () => p.commitEncryptedUnicast counter
  | .error _ => p

def run : List UInt32 → PeerMessageCounter windowSize → PeerMessageCounter windowSize
  | [], p => p
  | counter :: counters, p => run counters (p.receive counter)

/-- The counters of a run that were accepted, in order of arrival. -/
def accepted : List UInt32 → PeerMessageCounter windowSize → List UInt32
  | [], _ => []
  | counter :: counters, p =>
    match p.verifyEncryptedUnicast counter with
    | .ok () => counter :: accepted counters (p.receive counter)
    | .error _ => accepted counters (p.receive counter)

/-- The two ways in which a counter becomes synced at `v`. -/
inductive SyncedAt (v : UInt32) : PeerMessageCounter windowSize → Prop where
  | setCounter (p : PeerMessageCounter windowSize) : SyncedAt v (p.setCounter v)
  | verifyChallenge {p q : PeerMessageCounter windowSize} (challenge : Challenge)
      (hOk : p.verifyChallenge v challenge = (.ok (), q)) : SyncedAt v q

theorem SyncedAt.eq {v : UInt32} {p : PeerMessageCounter windowSize} (h : SyncedAt v p) :
  p = synced ⟨v, 0⟩ := by
  cases h with
  | setCounter => rfl
  | @verifyChallenge p q challenge hOk =>
    cases p with
    | notSynced => cases hOk
    | synced s => cases hOk
    | syncInProcess mChallenge =>
      simp only [PeerMessageCounter.verifyChallenge] at hOk
      split at hOk <;> cases hOk
      rfl

end PeerMessageCounter

/-- What the counter has to remember: `seen` are the initial value and the accepted
counters. -/
structure Remembers (seen : UInt32 → Prop) (s : Synced windowSize) : Prop where
  max_seen : seen s.mMaxCounter
  le_max : ∀ c, seen c → c.toNat ≤ s.mMaxCounter.toNat
  window : Represents s.mWindow fun offset =>
    ∃ c, seen c ∧ c.toNat + offset = s.mMaxCounter.toNat

def Acceptable (windowSize : Nat) (seen : UInt32 → Prop) (max counter : UInt32) : Prop :=
  max < counter ∨
    counter < max ∧ max.toNat - counter.toNat ≤ windowSize ∧ ¬ seen counter

section Step

variable {seen : UInt32 → Prop} {s : Synced windowSize} {counter : UInt32}

theorem toNat_sub_of_lt {a b : UInt32} (h : a < b) : (b - a).toNat = b.toNat - a.toNat :=
  UInt32.toNat_sub_of_le b a (UInt32.le_of_lt h)

theorem classify_past (h : counter < s.mMaxCounter) :
  s.classifyWithoutRollover counter =
    if s.mMaxCounter.toNat - counter.toNat ≤ windowSize then .inWindow else .beforeWindow := by
  have hNotFuture : ¬ counter > s.mMaxCounter := UInt32.lt_asymm h
  have hNe : counter ≠ s.mMaxCounter := UInt32.ne_of_lt h
  rw [classifyWithoutRollover, if_neg hNotFuture, classifyNonFutureCounter, if_neg hNe,
    toNat_sub_of_lt h]

section

variable (h : Remembers seen s)
include h

theorem Remembers.seenInWindow (hPast : counter < s.mMaxCounter)
  (hIn : s.mMaxCounter.toNat - counter.toNat ≤ windowSize) :
  s.seenInWindow counter = true ↔ seen counter := by
  have hLt : counter.toNat < s.mMaxCounter.toNat := UInt32.lt_iff_toNat_lt.mp hPast
  rw [Synced.seenInWindow, toNat_sub_of_lt hPast, h.window.test (by omega) hIn]
  constructor
  · rintro ⟨c, hSeen, hOffset⟩
    have hSame : c = counter := UInt32.toNat_inj.mp (by omega)
    exact hSame ▸ hSeen
  · intro hSeen
    exact ⟨counter, hSeen, by omega⟩

theorem Remembers.verify_iff :
  (synced s).verifyEncryptedUnicast counter = .ok () ↔
    Acceptable windowSize seen s.mMaxCounter counter := by
  simp only [verifyEncryptedUnicast, Acceptable]
  rcases Nat.lt_trichotomy counter.toNat s.mMaxCounter.toNat with hLt | hEq | hGt
  · have hPast : counter < s.mMaxCounter := UInt32.lt_iff_toNat_lt.mpr hLt
    have hNotFuture : ¬ s.mMaxCounter < counter := UInt32.lt_asymm hPast
    rw [classify_past hPast]
    by_cases hIn : s.mMaxCounter.toNat - counter.toNat ≤ windowSize
    · rw [if_pos hIn, verifyPositionEncrypted]
      have hBit := h.seenInWindow hPast hIn
      by_cases hSeen : seen counter
      · simp [hBit.mpr hSeen, hNotFuture, hSeen]
      · have hClear : s.seenInWindow counter = false := by
          rw [← Bool.not_eq_true, hBit]
          exact hSeen
        simp [hClear, hPast, hIn, hSeen]
    · rw [if_neg hIn, verifyPositionEncrypted]
      simp [hNotFuture, hIn]
  · obtain rfl : counter = s.mMaxCounter := UInt32.toNat_inj.mp hEq
    have hClass : s.classifyWithoutRollover s.mMaxCounter = .maxCounter := by
      simp [classifyWithoutRollover, classifyNonFutureCounter]
    rw [hClass]
    simp [verifyPositionEncrypted]
  · have hFuture : s.mMaxCounter < counter := UInt32.lt_iff_toNat_lt.mpr hGt
    have hClass : s.classifyWithoutRollover counter = .futureCounter := if_pos hFuture
    rw [hClass]
    simp [verifyPositionEncrypted, hFuture]

theorem Remembers.commit (hAccept : Acceptable windowSize seen s.mMaxCounter counter) :
  Remembers (fun c => c = counter ∨ seen c) (s.commitWithoutRollover counter) ∧
    s.mMaxCounter ≤ (s.commitWithoutRollover counter).mMaxCounter := by
  rcases hAccept with hFuture | ⟨hPast, hIn, _⟩
  · -- A new maximum: the window moves up to it.
    have hLt : s.mMaxCounter.toNat < counter.toNat := UInt32.lt_iff_toNat_lt.mp hFuture
    have hShift : (counter - s.mMaxCounter).toNat = counter.toNat - s.mMaxCounter.toNat :=
      toNat_sub_of_lt hFuture
    have hClass : s.classifyWithoutRollover counter = .futureCounter := if_pos hFuture
    have hCommit : s.commitWithoutRollover counter =
        ⟨counter, SlidingWindow.advance (counter.toNat - s.mMaxCounter.toNat) s.mWindow⟩ := by
      rw [commitWithoutRollover, hClass, commitWithPosition, hShift]
      rfl
    rw [hCommit]
    refine ⟨⟨.inl rfl, ?_, ?_⟩, UInt32.le_of_lt hFuture⟩
    · rintro c (rfl | hSeen)
      · exact Nat.le_refl _
      · exact Nat.le_of_lt (Nat.lt_of_le_of_lt (h.le_max c hSeen) hLt)
    · intro i hi
      rw [h.window.advance (by omega) i hi]
      constructor
      · rintro (hOld | ⟨hOlder, c, hSeen, hOffset⟩)
        · exact ⟨s.mMaxCounter, .inr h.max_seen, by simp only; omega⟩
        · exact ⟨c, .inr hSeen, by simp only; omega⟩
      · rintro ⟨c, hSeen, hOffset⟩
        rcases hSeen with rfl | hSeen
        · simp only at hOffset
          omega
        · have hLe := h.le_max c hSeen
          simp only at hOffset
          by_cases hOld : i + 1 = counter.toNat - s.mMaxCounter.toNat
          · exact .inl hOld
          · exact .inr ⟨by omega, c, hSeen, by omega⟩
  · have hLt : counter.toNat < s.mMaxCounter.toNat := UInt32.lt_iff_toNat_lt.mp hPast
    have hCommit : s.commitWithoutRollover counter =
        { s with mWindow := s.mWindow |||
          BitVec.twoPow windowSize (s.mMaxCounter.toNat - counter.toNat - 1) } := by
      rw [commitWithoutRollover, classify_past hPast, if_pos hIn, commitWithPosition,
        toNat_sub_of_lt hPast]
    rw [hCommit]
    refine ⟨⟨.inr h.max_seen, ?_, ?_⟩, UInt32.le_refl _⟩
    · rintro c (rfl | hSeen)
      · exact Nat.le_of_lt hLt
      · exact h.le_max c hSeen
    · intro i hi
      rw [h.window.mark (by omega) i hi]
      constructor
      · rintro (hEq | ⟨c, hSeen, hOffset⟩)
        · exact ⟨counter, .inl rfl, by simp only; omega⟩
        · exact ⟨c, .inr hSeen, hOffset⟩
      · rintro ⟨c, hSeen, hOffset⟩
        rcases hSeen with rfl | hSeen
        · simp only at hOffset
          exact .inl (by omega)
        · exact .inr ⟨c, hSeen, hOffset⟩

theorem Remembers.not_seen (hAccept : Acceptable windowSize seen s.mMaxCounter counter) :
  ¬ seen counter := by
  rcases hAccept with hFuture | ⟨_, _, hNew⟩
  · intro hSeen
    have hLt : s.mMaxCounter.toNat < counter.toNat := UInt32.lt_iff_toNat_lt.mp hFuture
    exact absurd (h.le_max counter hSeen) (Nat.not_le.mpr hLt)
  · exact hNew

theorem Remembers.receive (counter : UInt32) :
  ∃ t, (PeerMessageCounter.synced s).receive counter = .synced t ∧
    s.mMaxCounter ≤ t.mMaxCounter ∧
    (((PeerMessageCounter.synced s).verifyEncryptedUnicast counter = .ok () ∧
        ¬ seen counter ∧ Remembers (fun c => c = counter ∨ seen c) t) ∨
      (∃ e, (PeerMessageCounter.synced s).verifyEncryptedUnicast counter = .error e) ∧
        Remembers seen t) := by
  cases hVerdict : (PeerMessageCounter.synced s).verifyEncryptedUnicast counter with
  | ok value =>
    have hAccept := h.verify_iff.mp hVerdict
    obtain ⟨hRemembers, hMax⟩ := h.commit hAccept
    refine ⟨s.commitWithoutRollover counter, ?_, hMax, .inl ⟨rfl, h.not_seen hAccept, hRemembers⟩⟩
    simp only [PeerMessageCounter.receive, hVerdict]
    rfl
  | error e =>
    refine ⟨s, ?_, UInt32.le_refl _, .inr ⟨⟨e, rfl⟩, h⟩⟩
    simp only [PeerMessageCounter.receive, hVerdict]

end

theorem Remembers.run (counters : List UInt32) (h : Remembers seen s) :
  ∃ t, run counters (.synced s) = .synced t ∧
    s.mMaxCounter ≤ t.mMaxCounter ∧
    Remembers (fun c => seen c ∨ c ∈ accepted counters (.synced s)) t ∧
    (accepted counters (.synced s)).Nodup ∧
    ∀ c ∈ accepted counters (.synced s), ¬ seen c := by
  induction counters generalizing s seen with
  | nil =>
    refine ⟨s, rfl, UInt32.le_refl _, ?_, List.nodup_nil, by simp [accepted]⟩
    simpa [accepted] using h
  | cons counter counters ih =>
    obtain ⟨s₁, hReceive, hMax, hCases⟩ := h.receive counter
    rcases hCases with ⟨hOk, hNew, hRemembers⟩ | ⟨⟨e, hError⟩, hRemembers⟩
    · obtain ⟨t, hRun, hMax', hAfter, hNodup, hFresh⟩ := ih hRemembers
      have hAccepted : accepted (counter :: counters) (.synced s) =
          counter :: accepted counters (.synced s₁) := by
        simp only [accepted, hOk, hReceive]
      rw [hAccepted]
      refine ⟨t, ?_, UInt32.le_trans hMax hMax', ?_, ?_, ?_⟩
      · simp only [run, hReceive, hRun]
      · have hSame : (fun c => (c = counter ∨ seen c) ∨
            c ∈ accepted counters (.synced s₁)) =
            fun c => seen c ∨ c ∈ counter :: accepted counters (.synced s₁) := by
          funext c
          simp only [List.mem_cons, eq_iff_iff]
          tauto
        rwa [hSame] at hAfter
      · rw [List.nodup_cons]
        exact ⟨fun hMem => hFresh counter hMem (.inl rfl), hNodup⟩
      · intro c hMem
        rcases List.mem_cons.mp hMem with rfl | hMem
        · exact hNew
        · exact fun hSeen => hFresh c hMem (.inr hSeen)
    · obtain ⟨t, hRun, hMax', hAfter, hNodup, hFresh⟩ := ih hRemembers
      have hAccepted : accepted (counter :: counters) (.synced s) =
          accepted counters (.synced s₁) := by
        simp only [accepted, hError, hReceive]
      rw [hAccepted]
      refine ⟨t, ?_, UInt32.le_trans hMax hMax', hAfter, hNodup, hFresh⟩
      simp only [run, hReceive, hRun]

end Step

theorem remembers_init (v : UInt32) : Remembers (fun c => c = v) (⟨v, 0⟩ : Synced windowSize) := by
  refine ⟨rfl, ?_, ?_⟩
  · rintro c rfl
    exact Nat.le_refl _
  · apply Represents.empty
    rintro offset hPos ⟨c, rfl, hOffset⟩
    simp only at hOffset
    omega

/-- Replay protection for encrypted unicast. At every point of every run from a
counter synced at `v`, no counter was accepted twice, nor was `v`; the next counter
is accepted exactly when it is above the maximum, or within the window below it and
not accepted before; and receiving it does not lower the maximum. -/
theorem unicast_replay_protection {v : UInt32} {p : PeerMessageCounter windowSize}
    (hSynced : p.SyncedAt v) (received : List UInt32) (counter : UInt32) :
    (p.accepted received).Nodup ∧ v ∉ p.accepted received ∧
      ∃ max max', (p.run received).getCounter = some max ∧
        ((p.run received).receive counter).getCounter = some max' ∧ v ≤ max ∧ max ≤ max' ∧
        ((p.run received).verifyEncryptedUnicast counter = .ok () ↔
          max < counter ∨ counter < max ∧ max.toNat - counter.toNat ≤ windowSize ∧
            counter ≠ v ∧ counter ∉ p.accepted received) := by
  obtain rfl := hSynced.eq
  obtain ⟨t, hRun, hMax, hRemembers, hNodup, hFresh⟩ := (remembers_init v).run received
  obtain ⟨t', hReceive, hMax', _⟩ := hRemembers.receive counter
  refine ⟨hNodup, fun hMem => hFresh v hMem rfl, t.mMaxCounter, t'.mMaxCounter, ?_, ?_, hMax, hMax',
    ?_⟩
  · rw [hRun]
    rfl
  · rw [hRun, hReceive]
    rfl
  · rw [hRun, hRemembers.verify_iff, Acceptable, not_or]

theorem unicast_replay_protection_sample :
    let p : PeerMessageCounter 32 := PeerMessageCounter.notSynced.setCounter 10
    (p.accepted [12, 11, 12, 5]).Nodup ∧ 10 ∉ p.accepted [12, 11, 12, 5] ∧
      ∃ max max', (p.run [12, 11, 12, 5]).getCounter = some max ∧
        ((p.run [12, 11, 12, 5]).receive 44).getCounter = some max' ∧ 10 ≤ max ∧ max ≤ max' ∧
        ((p.run [12, 11, 12, 5]).verifyEncryptedUnicast 44 = .ok () ↔
          max < 44 ∨ 44 < max ∧ max.toNat - (44 : UInt32).toNat ≤ 32 ∧
            (44 : UInt32) ≠ 10 ∧ 44 ∉ p.accepted [12, 11, 12, 5]) :=
  unicast_replay_protection (.setCounter .notSynced) [12, 11, 12, 5] 44

end Chip.Transport
