import Chip.Core.Error
import Chip.Data.LittleEndian
import Chip.Data.Looping
import Chip.Transport.MessageHeader

/-! The messages on a TCP connection, each behind its size, in buffers that are cut anywhere. -/
namespace Chip.Transport

open List

def kPacketSizeBytes : Nat := 2

/-- `kMaxSizeWithoutReserve` less the bytes of a size. -/
def kMaxMessageSize : Nat := 1583 - kPacketSizeBytes

/-- What `SendMessage` writes for a message that is short enough. -/
def packet (message : Bytes) : Bytes :=
  LittleEndian.encode kPacketSizeBytes message.length ++ message

def packets (messages : List Bytes) : Bytes := (messages.map packet).flatten

inductive TcpFault where
  | bufferChainTooLarge
  | nullBuffer

/-- The chain of buffers of a connection, which is empty for a null handle, and the messages that
`HandleMessageReceived` has got. -/
structure ActiveConnectionState where
  mReceived : List Bytes
  handled : List Bytes

namespace PacketBuffer

/-- The loop of `Read`. -/
def readLoop (aReadLength : Nat) : List Bytes → Except ChipError Bytes
  | [] => if aReadLength = 0 then .ok [] else .error .internal
  | buffer :: rest =>
    if aReadLength = 0 then .ok []
    else (readLoop (aReadLength - buffer.length) rest).map (buffer.take aReadLength ++ ·)

def read (aReadLength : Nat) (chain : List Bytes) : Except ChipError Bytes :=
  if chain.flatten.length < aReadLength then .error .bufferTooSmall
  else readLoop aReadLength chain

def consume (aConsumeLength : Nat) : List Bytes → List Bytes
  | [] => []
  | buffer :: rest =>
    if aConsumeLength = 0 then buffer :: rest
    else if buffer.length ≤ aConsumeLength then consume (aConsumeLength - buffer.length) rest
    else buffer.drop aConsumeLength :: rest

theorem readLoop_eq {n : Nat} {chain : List Bytes} (h : n ≤ chain.flatten.length) :
  readLoop n chain = .ok (chain.flatten.take n) := by
  induction chain generalizing n with
  | nil =>
    obtain rfl : n = 0 := Nat.le_zero.mp h
    rfl
  | cons buffer rest ih =>
    rw [flatten_cons, length_append] at h
    rw [readLoop, flatten_cons, take_append, ih (by omega)]
    split_ifs with hZero
    · simp [hZero]
    · rfl

theorem read_eq {n : Nat} {chain : List Bytes} (h : n ≤ chain.flatten.length) :
  read n chain = .ok (chain.flatten.take n) := by
  rw [read, if_neg (Nat.not_lt.mpr h), readLoop_eq h]

theorem consume_flatten (n : Nat) (chain : List Bytes) :
  (consume n chain).flatten = chain.flatten.drop n := by
  induction chain generalizing n with
  | nil => simp [consume]
  | cons buffer rest ih =>
    rw [consume, flatten_cons, drop_append]
    split_ifs with hZero hShort
    · simp [hZero]
    · rw [ih, drop_eq_nil_of_le hShort, nil_append]
    · rw [flatten_cons, Nat.sub_eq_zero_of_le (Nat.le_of_not_le hShort), drop_zero]

end PacketBuffer

open PacketBuffer

/-- Whether there is memory for a message, by the messages before it. -/
abbrev Allocates := Nat → Bool

abbrev Receiving := Looping TcpFault (Except ChipError Unit × ActiveConnectionState)

def processSingleMessage (allocates : Allocates) (messageSize : Nat)
  (state : ActiveConnectionState) : Receiving :=
  match state.mReceived with
  | [] => Looping.fail .nullBuffer
  | head :: rest =>
    if head.length = messageSize then pure (.ok (), ⟨rest, state.handled ++ [head]⟩)
    else if !allocates state.handled.length then pure (.error .noMemory, state)
    else
      let mReceived := consume messageSize state.mReceived
      match read messageSize state.mReceived with
      | .error err => pure (.error err, ⟨mReceived, state.handled⟩)
      | .ok message => pure (.ok (), ⟨mReceived, state.handled ++ [message]⟩)

/-- A turn of the loop of `ProcessReceivedBuffer`. -/
def receiveTurn (allocates : Allocates) (state : ActiveConnectionState) :
  Looping TcpFault (ActiveConnectionState ⊕ Except ChipError Unit × ActiveConnectionState) :=
  if state.mReceived = [] then pure (.inr (.ok (), state))
  else match read kPacketSizeBytes state.mReceived with
    | .error .bufferTooSmall => pure (.inr (.ok (), state))
    | .error err => pure (.inr (.error err, state))
    | .ok messageSizeBuf =>
      let messageSize := LittleEndian.value messageSizeBuf
      if kMaxMessageSize ≤ messageSize then pure (.inr (.error .messageTooLong, state))
      else if state.mReceived.flatten.length - kPacketSizeBytes < messageSize then
        pure (.inr (.ok (), state))
      else do
        let (err, state) ← processSingleMessage allocates messageSize
          { state with mReceived := consume kPacketSizeBytes state.mReceived }
        match err with
        | .ok () => pure (.inl state)
        | .error err => pure (.inr (.error err, state))

/-- `ProcessReceivedBuffer`, with the assertion of `AddToEnd`. -/
def processReceivedBuffer (allocates : Allocates) (buffer : List Bytes)
  (state : ActiveConnectionState) : Receiving :=
  if state.mReceived ≠ [] ∧ 2 ^ 16 ≤ (state.mReceived ++ buffer).flatten.length then
    Looping.fail .bufferChainTooLarge
  else Looping.loop (receiveTurn allocates) { state with mReceived := state.mReceived ++ buffer }

/-- What becomes of the buffers of a connection, which is closed at the first error. -/
def receive (allocates : Allocates) : List (List Bytes) → ActiveConnectionState → Receiving
  | [], state => pure (.ok (), state)
  | buffer :: rest, state => do
    let (err, state) ← processReceivedBuffer allocates buffer state
    match err with
    | .ok () => receive allocates rest state
    | .error err => pure (.error err, state)

section

variable {allocates : Allocates} {messages : List Bytes} {bytes : Bytes}
  {state : ActiveConnectionState}

/-- The first messages have been handed on, and the bytes after them are kept. -/
structure Keeps (messages : List Bytes) (bytes : Bytes) (state : ActiveConnectionState) : Prop where
  handled : state.handled <+: messages
  bytes_eq : packets state.handled ++ state.mReceived.flatten = bytes

/-- What becomes of some first bytes of the messages: each message that is complete is handed on,
unless there is no memory for it. -/
inductive Delivers (allocates : Allocates) (messages : List Bytes) (bytes : Bytes) :
    Except ChipError Unit × ActiveConnectionState → Prop where
  | upToDate {state : ActiveConnectionState} (hKeeps : Keeps messages bytes state)
      (hWaits : ∀ next, state.handled ++ [next] <+: messages →
        state.mReceived.flatten.length < (packet next).length) :
      Delivers allocates messages bytes (.ok (), state)
  | noMemory {state : ActiveConnectionState} (hHandled : state.handled <+: messages)
      (hFails : allocates state.handled.length = false) :
      Delivers allocates messages bytes (.error .noMemory, state)

theorem packet_length (message : Bytes) : (packet message).length = 2 + message.length := by
  rw [packet, length_append, LittleEndian.encode_length, kPacketSizeBytes]

theorem packets_append (l l' : List Bytes) : packets (l ++ l') = packets l ++ packets l' := by
  rw [packets, map_append, flatten_append, packets, packets]

theorem processSingleMessage_yields {message more : Bytes} (hMessage : message ≠ [])
  (h : state.mReceived.flatten = message ++ more) :
  (processSingleMessage allocates message.length state).Yields fun r =>
    (r.1 = .ok () ∧ r.2.mReceived.flatten = more ∧ r.2.handled = state.handled ++ [message]) ∨
    (r.1 = .error .noMemory ∧ r.2 = state ∧ allocates state.handled.length = false) := by
  rw [processSingleMessage]
  cases hChain : state.mReceived with
  | nil =>
    rw [hChain] at h
    exact absurd (append_eq_nil_iff.mp h.symm).1 hMessage
  | cons head rest =>
    rw [hChain] at h
    dsimp only
    split_ifs with hHead hNone
    · obtain ⟨rfl, rfl⟩ := append_inj h hHead
      exact .pure (.inl ⟨rfl, rfl, rfl⟩)
    · exact .pure (.inr ⟨rfl, rfl, by simpa using hNone⟩)
    · have hLe : message.length ≤ (head :: rest).flatten.length := by
        rw [h, length_append]
        omega
      rw [read_eq hLe, h, take_left]
      exact .pure (.inl ⟨rfl, by rw [consume_flatten, h, drop_left], rfl⟩)

variable (hSizes : ∀ m ∈ messages, m ≠ [] ∧ m.length < kMaxMessageSize)
include hSizes

theorem Keeps.turn (h : Keeps messages bytes state) (hStream : bytes <+: packets messages) :
  (receiveTurn allocates state).Yields fun turn => match turn with
    | .inl s => Keeps messages bytes s ∧ s.mReceived.flatten.length < state.mReceived.flatten.length
    | .inr r => Delivers allocates messages bytes r := by
  have hKeeps := h
  obtain ⟨⟨rest, rfl⟩, rfl⟩ := h
  rw [packets_append, prefix_append_right_inj] at hStream
  rw [receiveTurn]
  split_ifs with hNull
  · refine .pure (.upToDate hKeeps fun next _ => ?_)
    rw [hNull, packet_length]
    exact Nat.lt_add_right _ Nat.two_pos
  by_cases hShort : state.mReceived.flatten.length < kPacketSizeBytes
  · rw [PacketBuffer.read, if_pos hShort]
    refine .pure (.upToDate hKeeps fun next _ => ?_)
    rw [packet_length]
    exact Nat.lt_add_right _ hShort
  cases rest with
  | nil => exact absurd (Nat.lt_of_le_of_lt hStream.length_le Nat.two_pos) hShort
  | cons m rest =>
    obtain ⟨hNe, hLt⟩ := hSizes m (by simp)
    have hFirst : packet m <+: packets (m :: rest) := prefix_append ..
    have hSize : LittleEndian.encode kPacketSizeBytes m.length <+: state.mReceived.flatten :=
      prefix_of_prefix_length_le ((prefix_append ..).trans hFirst) hStream (by simpa using hShort)
    rw [read_eq (Nat.not_lt.mp hShort)]
    rw [prefix_iff_eq_take, LittleEndian.encode_length] at hSize
    dsimp only
    rw [← hSize, LittleEndian.value_encode_of_lt (hLt.trans (by decide)), if_neg (Nat.not_le.mpr hLt)]
    split_ifs with hPart
    · refine .pure (.upToDate hKeeps fun next hNext => ?_)
      rw [prefix_append_right_inj, cons_prefix_cons] at hNext
      rw [hNext.1, packet_length]
      exact (Nat.sub_lt_iff_lt_add' (Nat.not_lt.mp hShort)).mp hPart
    · have hLe : (packet m).length ≤ state.mReceived.flatten.length := by
        rw [packet_length]
        rw [kPacketSizeBytes] at hShort hPart
        omega
      obtain ⟨more, hMore⟩ := prefix_of_prefix_length_le hFirst hStream hLe
      have hRest : (consume kPacketSizeBytes state.mReceived).flatten = m ++ more := by
        rw [consume_flatten, ← hMore, packet, append_assoc]
        exact drop_left' (LittleEndian.encode_length ..)
      refine (processSingleMessage_yields hNe hRest).bind fun r hDone => ?_
      obtain ⟨err, s⟩ := r
      rcases hDone with ⟨rfl, hKept, hHandled⟩ | ⟨rfl, rfl, hFails⟩
      · dsimp only at hKept hHandled
        refine .pure ⟨⟨⟨rest, ?_⟩, ?_⟩, ?_⟩
        · rw [hHandled, append_assoc, singleton_append]
        · rw [hHandled, hKept, packets_append, ← hMore, append_assoc]
          simp [packets]
        · rw [hKept, ← hMore, length_append, packet_length]
          omega
      · exact .pure (.noMemory hKeeps.handled hFails)

variable (h : Delivers allocates messages bytes (.ok (), state))
include h

theorem processReceivedBuffer_yields {buffer : List Bytes}
  (hStream : bytes ++ buffer.flatten <+: packets messages)
  (hBuffer : buffer.flatten.length + kMaxMessageSize + 1 < 2 ^ 16) :
  (processReceivedBuffer allocates buffer state).Yields
    (Delivers allocates messages (bytes ++ buffer.flatten)) := by
  cases h with
  | upToDate hKeeps hWaits =>
    obtain ⟨⟨rest, rfl⟩, rfl⟩ := hKeeps
    have hShort : state.mReceived.flatten.length ≤ kMaxMessageSize + 1 := by
      cases rest with
      | nil =>
        rw [append_nil, append_assoc] at hStream
        have hLe := hStream.length_le
        rw [length_append, length_append] at hLe
        omega
      | cons m rest =>
        have hLt := hWaits m (by simp)
        have hSize := (hSizes m (by simp)).2
        rw [packet_length] at hLt
        omega
    rw [processReceivedBuffer, if_neg]
    · refine .loop (I := Keeps _ _)
        (measure fun s : ActiveConnectionState => s.mReceived.flatten.length).wf
        (fun s hs => (hs.turn hSizes hStream).mono fun turn => by cases turn <;> exact id)
        ⟨prefix_append .., ?_⟩
      rw [flatten_append, append_assoc]
    · rw [flatten_append, length_append]
      omega

theorem receive_yields {buffers : List (List Bytes)}
  (hStream : bytes ++ buffers.flatten.flatten <+: packets messages)
  (hBuffers : ∀ buffer ∈ buffers, buffer.flatten.length + kMaxMessageSize + 1 < 2 ^ 16) :
  (receive allocates buffers state).Yields
    (Delivers allocates messages (bytes ++ buffers.flatten.flatten)) := by
  induction buffers generalizing bytes state with
  | nil => exact .pure (by simpa using h)
  | cons buffer rest ih =>
    rw [flatten_cons, flatten_append, ← append_assoc] at hStream ⊢
    obtain ⟨hBuffer, hRest⟩ := forall_mem_cons.mp hBuffers
    have hFirst := (prefix_append _ _).trans hStream
    refine (processReceivedBuffer_yields hSizes h hFirst hBuffer).bind fun r hr => ?_
    cases hr with
    | upToDate hKeeps hWaits => exact ih (.upToDate hKeeps hWaits) hStream hRest
    | noMemory hHandled hFails => exact .pure (.noMemory hHandled hFails)

end

/-- However the bytes of some messages are cut into buffers, the messages are handed on whole, once
and in order, up to one for which there is no memory. -/
theorem tcp_messages_delivered (allocates : Allocates) (messages : List Bytes)
    (buffers : List (List Bytes)) (hStream : buffers.flatten.flatten <+: packets messages)
    (hSizes : ∀ m ∈ messages, m ≠ [] ∧ m.length < kMaxMessageSize)
    (hBuffers : ∀ buffer ∈ buffers, buffer.flatten.length + kMaxMessageSize + 1 < 2 ^ 16) :
    (receive allocates buffers ⟨[], []⟩).Yields
      (Delivers allocates messages buffers.flatten.flatten) := by
  have hStart : Delivers allocates messages [] (.ok (), ⟨[], []⟩) :=
    .upToDate ⟨⟨messages, rfl⟩, rfl⟩ fun next _ => by
      rw [packet_length]
      exact Nat.lt_add_right _ Nat.two_pos
  exact receive_yields hSizes hStart hStream hBuffers

/-- Two messages, with a cut in the first one's size and in the second one. -/
theorem tcp_messages_delivered_cut :
    (receive (fun _ => true) [[[1]], [[0], [7, 2, 0, 8]], [[9]]] ⟨[], []⟩).Yields
      (Delivers (fun _ => true) [[7], [8, 9]] [1, 0, 7, 2, 0, 8, 9]) :=
  tcp_messages_delivered _ _ _ (by decide) (by decide) (by decide)

end Chip.Transport
