import Chip.Transport.GroupIterators
import Chip.Transport.HeaderEncoding

/-! The part of a group message that is deobfuscated. How long it is follows from flags that
anyone can set, and nothing on the way compares it with the length of the message. -/
namespace Chip.Transport

open Proc PacketHeader

variable {windowSize : Nat}

/-- The calls in the loop over the sessions, each with the offset and the length of the bytes
that it deobfuscates in its copy of the message. -/
def trialPrivacyCalls (config : DispatchConfig) (datagram : Datagram) (header : PacketHeader) :
  List GroupSession → Nat → List (Nat × Nat)
  | [], _ => []
  | session :: rest, clones =>
    let attempt := fun privacy => groupKeyDecryptAttempt datagram.crypto header privacy
      (macOf header datagram.bytes) datagram.bytes session
    if datagram.cloneFails clones then []
    else (if header.hasPrivacyFlag then [(privacyHeaderOffset, header.privacyHeaderLength)] else []) ++
      match attempt header.hasPrivacyFlag with
      | some _ => []
      | none =>
        if retriesWithoutPrivacy config header then
          if datagram.cloneFails (clones + 1) then []
          else match attempt false with
            | some _ => []
            | none => trialPrivacyCalls config datagram header rest (clones + 2)
        else trialPrivacyCalls config datagram header rest (clones + 1)

def privacyDecryptCalls (config : DispatchConfig) (datagram : Datagram)
  (state : DispatchState windowSize) : List (Nat × Nat) :=
  match iteratorHeader config datagram state.liveIterators with
  | none => []
  | some header =>
    if header.micTagLength ≤ datagram.bytes.length then
      trialPrivacyCalls config datagram header datagram.sessions 0
    else []

section

variable {config : DispatchConfig} {datagram : Datagram} {header : PacketHeader}

variable {state : DispatchState windowSize}

end

/-- A message long enough for the fields that its flags ask for: those of a group message, or of
one that has the flags of both destinations. -/
def LongEnough (bytes : Bytes) : Prop :=
  34 ≤ bytes.length ∧
    (bytes.getD 0 0 &&& MsgFlagValues.destinationNodeIdPresent.bit ≠ 0 → 40 ≤ bytes.length)

instance (bytes : Bytes) : Decidable (LongEnough bytes) :=
  inferInstanceAs (Decidable (_ ∧ _))

variable {header : PacketHeader}

theorem trialPrivacyCalls_eq {config : DispatchConfig} {datagram : Datagram}
  {sessions : List GroupSession} {clones : Nat} {call : Nat × Nat}
  (h : call ∈ trialPrivacyCalls config datagram header sessions clones) :
  call = (privacyHeaderOffset, header.privacyHeaderLength) := by
  induction sessions generalizing clones with
  | nil => cases h
  | cons session rest ih =>
    rw [trialPrivacyCalls] at h
    cases hClone : datagram.cloneFails clones with
    | true => simp [hClone] at h
    | false =>
      simp only [hClone, Bool.false_eq_true, if_false] at h
      rcases List.mem_append.mp h with hFirst | hLater
      · cases hPrivacy : header.hasPrivacyFlag with
        | true => simpa [hPrivacy] using hFirst
        | false => simp [hPrivacy] at hFirst
      · split at hLater
        · cases hLater
        · split at hLater
          · split at hLater
            · cases hLater
            · split at hLater
              · cases hLater
              · exact ih hLater
          · exact ih hLater

theorem decodeFixed_msgFlags {bytes : Bytes} (h : decodeFixed bytes = .ok header) :
  bytes.getD 0 0 = header.mMsgFlags := by
  rw [decodeFixed] at h
  obtain ⟨_, hBytes⟩ := decodeFixedCommon_eq_ok (Prod.ext h rfl)
  rw [hBytes]
  simp [LittleEndian.encode]

theorem iteratorHeader_length {config : DispatchConfig} {datagram : Datagram} {live : Nat}
  (h : iteratorHeader config datagram live = some header) :
  header.privacyHeaderLength =
    if datagram.bytes.getD 0 0 &&& MsgFlagValues.destinationNodeIdPresent.bit ≠ 0 then 20 else 14 := by
  rw [iteratorHeader] at h
  cases hFixed : decodeFixed datagram.bytes with
  | error e => simp [hFixed] at h
  | ok fixed =>
    simp only [hFixed] at h
    obtain ⟨hTests, hHeader⟩ := Option.ite_none_right_eq_some.mp h
    cases hHeader
    simp only [Bool.and_eq_true] at hTests
    obtain ⟨⟨⟨⟨⟨_, _⟩, hGroup⟩, hValid⟩, _⟩, _⟩ := hTests
    have hSource : header.hasSourceNodeId = true := by
      rcases Bool.or_eq_true_iff.mp hValid with hControl | hMessage
      · simp only [isValidMCSPMsg, Bool.and_eq_true] at hControl
        exact hControl.1.1.2
      · simp only [isValidGroupMsg, Bool.and_eq_true] at hMessage
        exact hMessage.1.1.2
    rw [privacyHeaderLength, hSource, hGroup, decodeFixed_msgFlags hFixed]
    cases hNode : header.hasDestinationNodeId with
    | true =>
      rw [if_pos (of_decide_eq_true hNode)]
      rfl
    | false =>
      rw [if_neg (of_decide_eq_false hNode)]
      rfl

/-- Whenever a privacy header is deobfuscated, it ends before the authentication code exactly if
the message is long enough. -/
theorem privacy_header_inside_iff {config : DispatchConfig} {datagram : Datagram}
    {state : DispatchState windowSize} {offset length : Nat}
    (h : (offset, length) ∈ privacyDecryptCalls config datagram state) :
    offset + length + aeadMicLengthBytes ≤ datagram.bytes.length ↔ LongEnough datagram.bytes := by
  rw [privacyDecryptCalls] at h
  cases hHeader : iteratorHeader config datagram state.liveIterators with
  | none => simp [hHeader] at h
  | some header =>
    simp only [hHeader] at h
    obtain ⟨_, h⟩ := List.mem_ite_nil_right.mp h
    have hLength := iteratorHeader_length hHeader
    cases trialPrivacyCalls_eq h
    rw [hLength, LongEnough, privacyHeaderOffset, aeadMicLengthBytes]
    by_cases hNode : datagram.bytes.getD 0 0 &&& MsgFlagValues.destinationNodeIdPresent.bit ≠ 0
    · rw [if_pos hNode]
      exact ⟨fun h => ⟨by omega, fun _ => h⟩, fun h => h.2 hNode⟩
    · rw [if_neg hNode]
      exact ⟨fun h => ⟨h, fun hIs => absurd hIs hNode⟩, fun h => h.1⟩

/-- A group message of 16 bytes, with its privacy flag set and a session to try it with. -/
def shortPrivateMessage : Datagram where
  bytes := [0x06, 0x01, 0x00, 0x81] ++ List.replicate 12 0
  groups := some true
  sessions := [⟨1, 1, .trustFirst⟩]
  cloneFails := fun _ => false
  crypto := ⟨fun _ _ _ _ => none, fun _ _ _ _ => none⟩

/-- The deobfuscation goes on for two bytes after the end of the message. -/
theorem short_message_is_overrun :
    ∃ offset length, (offset, length) ∈ privacyDecryptCalls ⟨2, true, true⟩ shortPrivateMessage
        (⟨0, [], []⟩ : DispatchState 32) ∧
      ¬offset + length + aeadMicLengthBytes ≤ shortPrivateMessage.bytes.length ∧
      offset + length = shortPrivateMessage.bytes.length + 2 := by
  refine ⟨4, 14, ?_, by decide, by decide⟩
  decide +kernel

def longPrivateMessage : Datagram :=
  { shortPrivateMessage with bytes := shortPrivateMessage.bytes ++ List.replicate 18 0 }

theorem long_message_is_not_overrun :
    (4, 14) ∈ privacyDecryptCalls ⟨2, true, true⟩ longPrivateMessage
        (⟨0, [], []⟩ : DispatchState 32) ∧
      4 + 14 + aeadMicLengthBytes ≤ longPrivateMessage.bytes.length := by
  have hCall : (4, 14) ∈ privacyDecryptCalls ⟨2, true, true⟩ longPrivateMessage
      (⟨0, [], []⟩ : DispatchState 32) := by decide +kernel
  exact ⟨hCall, (privacy_header_inside_iff hCall).mpr (by decide)⟩

end Chip.Transport
