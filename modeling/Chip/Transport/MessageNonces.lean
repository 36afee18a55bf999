import Chip.Data.LittleEndian
import Chip.Transport.GroupCounterUniqueness
import Chip.Transport.MessageHeader

/-! The nonces that a node encrypts its messages with. -/
namespace Chip.Transport

open List

/-- `BuildNonce`. All of it fits the 13 bytes of a nonce. -/
def buildNonce (securityFlags : UInt8) (messageCounter : UInt32) (nodeId : UInt64) : List UInt8 :=
  securityFlags :: (LittleEndian.encode 4 messageCounter.toNat ++ LittleEndian.encode 8 nodeId.toNat)

theorem buildNonce_counter {flags flags' : UInt8} {counter counter' : UInt32}
  {nodeId nodeId' : UInt64} (h : buildNonce flags counter nodeId = buildNonce flags' counter' nodeId') :
  flags = flags' ∧ counter = counter' := by
  obtain ⟨rfl, hRest⟩ := cons_eq_cons.mp h
  have hCounter := (append_inj hRest (by simp)).1
  have hValue := congrArg LittleEndian.value hCounter
  rw [LittleEndian.value_encode_of_lt counter.toNat_lt,
    LittleEndian.value_encode_of_lt counter'.toNat_lt] at hValue
  exact ⟨rfl, UInt32.toNat_inj.mp hValue⟩

def kMessageCounterMax : UInt32 := 0xFFFFFFFF

/-- `LocalSessionMessageCounter::AdvanceAndConsume`. The state is `mLastUsedValue`. -/
def advanceAndConsume : Proc ChipError UInt32 UInt32 := do
  let mLastUsedValue ← Proc.read
  Proc.verify (mLastUsedValue ≠ kMessageCounterMax) .messageCounterExhausted
  Proc.modify fun value => value + 1
  Proc.read

/-- The nonces of the messages that `PrepareMessage` gets for one secure session, with the security
flags of each. A message that finds the counter exhausted is not encrypted. -/
def sessionNonces (nodeId : UInt64) : List UInt8 → UInt32 → List (List UInt8)
  | [], _ => []
  | securityFlags :: rest, mLastUsedValue =>
    match advanceAndConsume mLastUsedValue with
    | (.ok messageCounter, next) =>
      buildNonce securityFlags messageCounter nodeId :: sessionNonces nodeId rest next
    | (.error _, next) => sessionNonces nodeId rest next

section

variable {nodeId : UInt64} {last : UInt32} {messages : List UInt8}

theorem sessionNonces_exhausted :
  sessionNonces nodeId messages kMessageCounterMax = [] := by
  induction messages with
  | nil => rfl
  | cons flags rest ih => exact ih

theorem sessionNonces_cons (flags : UInt8) (h : last ≠ kMessageCounterMax) :
  sessionNonces nodeId (flags :: messages) last =
    buildNonce flags (last + 1) nodeId :: sessionNonces nodeId messages (last + 1) := by
  have hNext : advanceAndConsume last = (.ok (last + 1), last + 1) := by
    rw [advanceAndConsume, Proc.read_bind, Proc.verify_bind, if_pos h]
    rfl
  rw [sessionNonces, hNext]

theorem toNat_next (h : last ≠ kMessageCounterMax) : (last + 1).toNat = last.toNat + 1 := by
  have hNe : last.toNat ≠ 2 ^ 32 - 1 := fun hEq => h (UInt32.toNat_inj.mp hEq)
  have hLt := last.toNat_lt
  rw [UInt32.toNat_add, UInt32.toNat_one]
  omega

theorem sessionNonces_later {nonce : List UInt8} (h : nonce ∈ sessionNonces nodeId messages last) :
  ∃ flags counter, nonce = buildNonce flags counter nodeId ∧ last.toNat < counter.toNat := by
  induction messages generalizing last with
  | nil => cases h
  | cons flags rest ih =>
    by_cases hLast : last = kMessageCounterMax
    · rw [hLast, sessionNonces_exhausted] at h
      cases h
    · have hNext := toNat_next hLast
      rw [sessionNonces_cons flags hLast] at h
      rcases mem_cons.mp h with rfl | hRest
      · exact ⟨flags, last + 1, rfl, by omega⟩
      · obtain ⟨flags', counter, rfl, hLater⟩ := ih hRest
        exact ⟨flags', counter, rfl, by omega⟩

end

/-- No two messages of a session are encrypted with one nonce, whatever their flags. As many are
encrypted as there are values left, and none when they are used up. -/
theorem session_nonces_unique (nodeId : UInt64) (messages : List UInt8) (last : UInt32) :
    (sessionNonces nodeId messages last).Nodup ∧
      (sessionNonces nodeId messages last).length =
        min messages.length (kMessageCounterMax.toNat - last.toNat) := by
  induction messages generalizing last with
  | nil => exact ⟨nodup_nil, (Nat.zero_min _).symm⟩
  | cons flags rest ih =>
    by_cases hLast : last = kMessageCounterMax
    · rw [hLast, sessionNonces_exhausted, Nat.sub_self, Nat.min_zero]
      exact ⟨nodup_nil, rfl⟩
    · obtain ⟨hNodup, hLength⟩ := ih (last + 1)
      have hNext := toNat_next hLast
      have hLt : (last + 1).toNat ≤ kMessageCounterMax.toNat := Nat.le_of_lt_succ (last + 1).toNat_lt
      rw [sessionNonces_cons flags hLast, nodup_cons, length_cons, hLength, length_cons]
      refine ⟨⟨fun hMem => ?_, hNodup⟩, by omega⟩
      obtain ⟨flags', counter, hSame, hLater⟩ := sessionNonces_later hMem
      rw [(buildNonce_counter hSame).2] at hLater
      exact Nat.lt_irrefl _ hLater

/-- An outgoing group message, whose flags say whether it is a control message. -/
structure GroupMessage where
  securityFlags : UInt8
  messageCounter : UInt32
  sourceNodeId : UInt64

def GroupMessage.counter (message : GroupMessage) : Bool × UInt32 :=
  (message.securityFlags &&& SecFlagValues.controlMsgFlag.bit ≠ 0, message.messageCounter)

/-- No two group messages of an orderly run are encrypted with one nonce, over all reboots. -/
theorem group_nonces_unique (ops : List GroupCounterOp) (messages : List GroupMessage)
    (hMessages : messages.map GroupMessage.counter = usedCounters ops GroupCounterDevice.new)
    (hOrderly : GroupCounterDevice.new.Orderly ops)
    (hConsumed : ∀ isControl, setAside isControl ops GroupCounterDevice.new ≤ 2 ^ 32) :
    (messages.map fun message => buildNonce message.securityFlags message.messageCounter
      message.sourceNodeId).Nodup := by
  have hNew : CountersAhead [] (fun _ => 0) GroupCounterDevice.new := by
    refine ⟨fun k => .inl ⟨?_, rfl, rfl, fun v hv => by cases hv⟩, fun hReady => by cases hReady⟩
    cases k <;> rfl
  have hUsed := hNew.run nodup_nil hOrderly fun k => by rw [Nat.zero_add]; exact hConsumed k
  rw [nil_append, ← hMessages] at hUsed
  refine pairwise_map.mpr ((pairwise_map.mp hUsed).imp fun hNe hNonce => hNe ?_)
  obtain ⟨hFlags, hCounter⟩ := buildNonce_counter hNonce
  rw [GroupMessage.counter, GroupMessage.counter, hFlags, hCounter]

/-- A data and a control message with the same counter, and another after a reboot. -/
theorem group_nonces_unique_over_reboot :
    (([⟨1, 1, 7⟩, ⟨65, 1, 7⟩, ⟨1, 1001, 7⟩] : List GroupMessage).map fun message =>
      buildNonce message.securityFlags message.messageCounter message.sourceNodeId).Nodup :=
  group_nonces_unique [.boot .smooth, .send false false .done, .send true false .done,
    .boot .smooth, .send false false .done] _ (by decide +kernel) (by decide +kernel)
    (by decide +kernel)

end Chip.Transport
