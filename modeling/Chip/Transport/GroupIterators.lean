import Chip.Transport.GroupDispatch

/-! The iterators that the dispatch of group messages borrows. It returns one on every path
that comes to the end of the search, and on no path that leaves it early. -/
namespace Chip.Transport

open Proc PacketHeader Proc.Keeps

variable {windowSize : Nat}

section Search

variable (config : DispatchConfig) (datagram : Datagram) (header : PacketHeader)

def attemptAt (privacy : Bool) (session : GroupSession) : Option OpenedMessage :=
  groupKeyDecryptAttempt datagram.crypto header privacy (macOf header datagram.bytes)
    datagram.bytes session

/-- The session opens the message, at the first attempt or when it is repeated. -/
def opens (session : GroupSession) : Bool :=
  (attemptAt datagram header header.hasPrivacyFlag session).isSome ||
    (retriesWithoutPrivacy config header && (attemptAt datagram header false session).isSome)

/-- The copies that are asked for at a session that does not open the message. -/
def clonesPerSession : Nat := if retriesWithoutPrivacy config header then 2 else 1

/-- The copies for a session can be made: one for the first attempt, and one more when it fails
and is repeated. -/
def CopiesMade (clones : Nat) (session : GroupSession) : Prop :=
  datagram.cloneFails clones = false ∧
    (retriesWithoutPrivacy config header = true →
      attemptAt datagram header header.hasPrivacyFlag session = none →
        datagram.cloneFails (clones + 1) = false)

/-- Every copy that is asked for until a session opens the message can be made. -/
def AllCopiesMade (sessions : List GroupSession) (clones : Nat) : Prop :=
  ∀ (i : Nat) (session : GroupSession), sessions[i]? = some session →
    (∀ earlier ∈ sessions.take i, opens config datagram header earlier = false) →
      CopiesMade config datagram header (clones + i * clonesPerSession config header) session

end Search

/-- The header of a message for which the dispatch gets an iterator. -/
def iteratorHeader (config : DispatchConfig) (datagram : Datagram) (liveIterators : Nat) :
  Option PacketHeader :=
  match PacketHeader.decodeFixed datagram.bytes with
  | .error _ => none
  | .ok header =>
    if header.isEncrypted && header.isGroupSession && header.hasDestinationGroupId &&
        (header.isValidMCSPMsg || header.isValidGroupMsg) && (datagram.groups == some true) &&
        decide (liveIterators < config.iteratorsMax) then some header
    else none

/-- A message for which no iterator is had, or which is as long as its authentication code and
can be copied as often as the search needs. -/
def Searchable (config : DispatchConfig) (datagram : Datagram) (liveIterators : Nat) : Prop :=
  ∀ header, iteratorHeader config datagram liveIterators = some header →
    aeadMicLengthBytes ≤ datagram.bytes.length ∧
      AllCopiesMade config datagram header datagram.sessions 0

section Loop

variable {config : DispatchConfig} {datagram : Datagram} {header : PacketHeader}

theorem allCopiesMade_cons (session : GroupSession) (rest : List GroupSession) (clones : Nat) :
  AllCopiesMade config datagram header (session :: rest) clones ↔
    CopiesMade config datagram header clones session ∧
      (opens config datagram header session = false →
        AllCopiesMade config datagram header rest
          (clones + clonesPerSession config header)) := by
  constructor
  · intro h
    refine ⟨by simpa using h 0 session rfl (by simp), ?_⟩
    intro hClosed i later hLater hEarlier
    have hNext := h (i + 1) later hLater (by simpa [hClosed] using hEarlier)
    rw [Nat.add_mul, Nat.one_mul, Nat.add_comm (i * _), ← Nat.add_assoc] at hNext
    exact hNext
  · rintro ⟨hFirst, hRest⟩ i later hLater hEarlier
    cases i with
    | zero =>
      cases hLater
      simpa using hFirst
    | succ i =>
      have hBoth : opens config datagram header session = false ∧
          ∀ earlier ∈ rest.take i, opens config datagram header earlier = false := by
        simpa using hEarlier
      have hNext := hRest hBoth.1 i later hLater hBoth.2
      rw [Nat.add_mul, Nat.one_mul, Nat.add_comm (i * _), ← Nat.add_assoc]
      exact hNext

variable (config datagram header) in
theorem trialDecryption_spec (sessions : List GroupSession) (clones : Nat)
  (s : DispatchState windowSize) :
  (AllCopiesMade config datagram header sessions clones ∧
    ∃ opened, trialDecryption config datagram header sessions clones s = (.ok opened, s)) ∨
  (¬ AllCopiesMade config datagram header sessions clones ∧
    trialDecryption config datagram header sessions clones s = (.error .cloneFailed, s)) := by
  induction sessions generalizing clones with
  | nil =>
    refine .inl ⟨?_, none, rfl⟩
    intro i session hSession
    cases hSession
  | cons session rest ih =>
    rw [allCopiesMade_cons]
    simp only [trialDecryption, verify_bind, CopiesMade, opens, clonesPerSession, attemptAt]
    cases datagram.cloneFails clones with
    | true => exact .inr ⟨by simp, by simp⟩
    | false =>
      cases groupKeyDecryptAttempt datagram.crypto header header.hasPrivacyFlag
          (macOf header datagram.bytes) datagram.bytes session with
      | some opened => exact .inl ⟨by simp, opened, rfl⟩
      | none =>
        cases retriesWithoutPrivacy config header with
        | false => simpa using ih (clones + 1)
        | true =>
          simp only [if_true, verify_bind]
          cases datagram.cloneFails (clones + 1) with
          | true => exact .inr ⟨by simp, by simp⟩
          | false =>
            cases groupKeyDecryptAttempt datagram.crypto header false
                (macOf header datagram.bytes) datagram.bytes session with
            | some opened => exact .inl ⟨by simp, opened, rfl⟩
            | none => simpa using ih (clones + 2)

theorem micTagLength_group (hGroup : header.isGroupSession = true) :
  header.micTagLength = aeadMicLengthBytes := by
  have hType : header.mSessionType = groupSession := of_decide_eq_true hGroup
  have hEncrypted : header.isEncrypted = true := by
    simp [isEncrypted, isUnicastSession, hType, groupSession,
      unicastSession]
  rw [micTagLength, if_pos hEncrypted]

variable (config datagram) in
theorem searchSessions_spec (hGroup : header.isGroupSession = true)
  (s : DispatchState windowSize) :
  ((aeadMicLengthBytes ≤ datagram.bytes.length ∧
      AllCopiesMade config datagram header datagram.sessions 0) ∧
    ∃ opened, searchSessions config datagram header s =
      (.ok opened, { s with liveIterators := s.liveIterators - 1 })) ∨
  (¬ (aeadMicLengthBytes ≤ datagram.bytes.length ∧
      AllCopiesMade config datagram header datagram.sessions 0) ∧
    ∃ exit, searchSessions config datagram header s = (.error exit, s)) := by
  have hMic := micTagLength_group hGroup
  have hDecode : macDecode header aeadMicLengthBytes = some aeadMicLengthBytes := by
    rw [macDecode, hMic]
    rfl
  simp only [searchSessions, verify_bind, hMic, hDecode, Option.isSome_some, if_true]
  by_cases hLength : aeadMicLengthBytes ≤ datagram.bytes.length
  · rw [if_pos hLength]
    obtain ⟨hCopies, opened, hSearch⟩ | ⟨hCopies, hSearch⟩ :=
      trialDecryption_spec config datagram header datagram.sessions 0 s
    · refine .inl ⟨⟨hLength, hCopies⟩, opened, ?_⟩
      rw [bind_ok hSearch]
      rfl
    · refine .inr ⟨fun h => hCopies h.2, .cloneFailed, ?_⟩
      rw [bind_error hSearch]
  · rw [if_neg hLength]
    exact .inr ⟨fun h => hLength h.1, .shorterThanFooter, rfl⟩

end Loop

theorem verifyGroupCounter_keeps (opened : OpenedMessage) :
  Proc.Keeps DispatchState.liveIterators
    (verifyGroupCounter opened : Dispatch windowSize Unit) := by
  refine read_bind fun s => ?_
  refine bind (modify fun _ => rfl) fun _ => ?_
  split
  · exact fail _
  · refine bind (verify _ _) fun _ => ?_
    split
    · exact fail _
    · refine bind (modify fun _ => rfl) fun _ => ?_
      exact bind (verify _ _) fun _ => modify fun _ => rfl

section

variable (config : DispatchConfig)

theorem deliver_keeps (opened : Option OpenedMessage) :
  Proc.Keeps DispatchState.liveIterators
    (deliver config opened : Dispatch windowSize Unit) := by
  cases opened with
  | none => exact fail _
  | some opened =>
    refine bind (verify _ _) fun _ => ?_
    refine bind (verify _ _) fun _ => ?_
    refine bind (verifyGroupCounter_keeps opened) fun _ => ?_
    split
    · exact modify fun _ => rfl
    · exact pure _

theorem search_and_deliver_liveIterators (datagram : Datagram) {header : PacketHeader}
  (hGroup : header.isGroupSession = true) (s : DispatchState windowSize) :
  ((searchSessions config datagram header >>= deliver config)
      { s with liveIterators := s.liveIterators + 1 }).2.liveIterators = s.liveIterators ↔
    aeadMicLengthBytes ≤ datagram.bytes.length ∧
      AllCopiesMade config datagram header datagram.sessions 0 := by
  obtain ⟨hEnds, opened, hSearch⟩ | ⟨hEarly, exit, hSearch⟩ :=
    searchSessions_spec config datagram hGroup { s with liveIterators := s.liveIterators + 1 }
  · rw [bind_ok hSearch, deliver_keeps config opened]
    simp [hEnds]
  · rw [bind_error hSearch]
    simp [hEarly]

theorem iterateGroupSessions_apply (isInitialized : Bool) (s : DispatchState windowSize) :
  iterateGroupSessions config isInitialized s =
    if isInitialized = true ∧ s.liveIterators < config.iteratorsMax then
      (.ok (), { s with liveIterators := s.liveIterators + 1 })
    else (.error .noIterator, s) := by
  cases isInitialized <;> simp [iterateGroupSessions]

theorem dispatch_liveIterators (datagram : Datagram) {header : PacketHeader}
  (hGroup : header.isGroupSession = true) (s : DispatchState windowSize) :
  (secureGroupMessageDispatch config datagram header s).2.liveIterators = s.liveIterators ↔
    (header.hasDestinationGroupId = true →
      (header.isValidMCSPMsg || header.isValidGroupMsg) = true →
      datagram.groups = some true → s.liveIterators < config.iteratorsMax →
      aeadMicLengthBytes ≤ datagram.bytes.length ∧
        AllCopiesMade config datagram header datagram.sessions 0) := by
  have hSearch := search_and_deliver_liveIterators config datagram hGroup s
  unfold secureGroupMessageDispatch
  cases datagram.groups with
  | none => simp
  | some isInitialized =>
    simp only [verify_bind]
    cases header.hasDestinationGroupId with
    | false => simp
    | true =>
      cases header.isValidMCSPMsg || header.isValidGroupMsg with
      | false => simp
      | true =>
        have hIterate := iterateGroupSessions_apply config isInitialized s
        by_cases hFree : isInitialized = true ∧ s.liveIterators < config.iteratorsMax
        · rw [if_pos hFree] at hIterate
          simp only [if_true, bind_ok hIterate]
          rw [hSearch]
          simp [hFree]
        · rw [if_neg hFree] at hIterate
          simp only [if_true, bind_error hIterate, true_iff]
          intro _ _ hInitialized hLive
          exact absurd ⟨by simpa using hInitialized, hLive⟩ hFree

theorem onMessageReceived_liveIterators (datagram : Datagram) (s : DispatchState windowSize) :
  (onMessageReceived config datagram s).2.liveIterators = s.liveIterators ↔
    Searchable config datagram s.liveIterators := by
  unfold onMessageReceived Searchable iteratorHeader
  cases decodeFixed datagram.bytes with
  | error e => simp
  | ok header =>
    simp only
    by_cases hGroup : (header.isEncrypted && header.isGroupSession) = true
    · rw [if_pos hGroup]
      rw [dispatch_liveIterators config datagram (Bool.and_eq_true_iff.mp hGroup).2 s]
      simp only [hGroup, Bool.true_and]
      constructor
      · intro h taken hTaken
        obtain ⟨hIterator, hHeader⟩ := Option.ite_none_right_eq_some.mp hTaken
        cases hHeader
        simp only [Bool.and_eq_true, beq_iff_eq, decide_eq_true_eq] at hIterator
        exact h hIterator.1.1.1 hIterator.1.1.2 hIterator.1.2 hIterator.2
      · intro h hDestination hValid hGroups hLive
        refine h header (if_pos ?_)
        simp [hDestination, hValid, hGroups, hLive]
    · rw [if_neg hGroup]
      simp only [Bool.not_eq_true] at hGroup
      simp [hGroup]

end

/-- Over every run of received messages: the number of iterators in use stays what it was, after
each of them, exactly if each comes without an iterator or can be searched for to the end. -/
theorem groupDispatch_leaks_no_iterator (config : DispatchConfig) (datagrams : List Datagram)
    (s : DispatchState windowSize) :
    (∀ n : Nat, (receiveAll config (datagrams.take n) s).liveIterators = s.liveIterators) ↔
      ∀ datagram ∈ datagrams, Searchable config datagram s.liveIterators := by
  induction datagrams generalizing s with
  | nil => simp [receiveAll]
  | cons datagram rest ih =>
    have hStep := onMessageReceived_liveIterators config datagram s
    constructor
    · intro h
      have hFirst : (onMessageReceived config datagram s).2.liveIterators = s.liveIterators :=
        h 1
      have hRest := (ih (onMessageReceived config datagram s).2).mp fun n =>
        (h (n + 1)).trans hFirst.symm
      rw [hFirst] at hRest
      exact List.forall_mem_cons.mpr ⟨hStep.mp hFirst, hRest⟩
    · intro h n
      obtain ⟨hDatagram, hRest⟩ := List.forall_mem_cons.mp h
      have hFirst := hStep.mpr hDatagram
      cases n with
      | zero => rfl
      | succ n =>
        rw [← hFirst] at hRest
        exact ((ih (onMessageReceived config datagram s).2).mpr hRest n).trans hFirst

/-- A message of nothing but the fixed part of the header of a group message. -/
def headerOnly : Datagram where
  bytes := [0x06, 0x01, 0x00, 0x01]
  groups := some true
  sessions := []
  cloneFails := fun _ => false
  crypto := ⟨fun _ _ _ _ => none, fun _ _ _ _ => none⟩

/-- Two such messages use up a pool of two iterators, and no later message is given one. -/
theorem short_messages_use_up_iterators :
    4 ≤ headerOnly.bytes.length ∧
      (receiveAll ⟨2, true, true⟩ [headerOnly, headerOnly]
        (⟨0, [], []⟩ : DispatchState 32)).liveIterators = 2 ∧
      (onMessageReceived ⟨2, true, true⟩ headerOnly
        (receiveAll ⟨2, true, true⟩ [headerOnly, headerOnly]
          (⟨0, [], []⟩ : DispatchState 32))).1 = .error .noIterator := by
  decide +kernel

end Chip.Transport
