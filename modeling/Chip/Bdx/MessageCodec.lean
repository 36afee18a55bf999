import Chip.Bdx.BdxMessages
import Chip.Support.BufferWriter

/-! Messages of the bulk data exchange protocol in a buffer: their size, and what is parsed from
all of their bytes and from a part of them. -/
namespace Chip.Bdx

open LittleEndian List BufferWriter Proc RangeControlFlags

open Chip.Transport (Bytes readBytes readBytes_bind)

/-- The offset or the length, which is left out if it is zero. -/
def putRange (wide : Bool) (n : UInt64) (w : BufferWriter) : BufferWriter :=
  if 0 < n.toNat then
    if wide then w.endianPut n.toNat 8 else w.endianPut (n.toNat % 2 ^ 32) 4
  else w

def TransferInit.writeTo (m : TransferInit) (w : BufferWriter) : BufferWriter :=
  let wide := isWide m.startOffset m.maxLength
  let w := w.putByte ((m.version &&& versionMask) ||| m.transferCtlOptions)
  let w := w.putByte (rangeCtlFlags m.startOffset m.maxLength)
  let w := w.endianPut m.maxBlockSize.toNat 2
  let w := putRange wide m.startOffset w
  let w := putRange wide m.maxLength w
  let w := w.endianPut m.fileDesignator.length 2
  (w.put m.fileDesignator).put m.metadata

def SendAccept.writeTo (m : SendAccept) (w : BufferWriter) : BufferWriter :=
  let w := w.putByte ((m.version &&& versionMask) ||| m.transferCtlFlags)
  let w := w.endianPut m.maxBlockSize.toNat 2
  w.put m.metadata

def ReceiveAccept.writeTo (m : ReceiveAccept) (w : BufferWriter) : BufferWriter :=
  let wide := isWide m.startOffset m.length
  let w := w.putByte ((m.version &&& versionMask) ||| m.transferCtlFlags)
  let w := w.putByte (rangeCtlFlags m.startOffset m.length)
  let w := w.endianPut m.maxBlockSize.toNat 2
  let w := putRange wide m.startOffset w
  let w := putRange wide m.length w
  w.put m.metadata

def CounterMessage.writeTo (m : CounterMessage) (w : BufferWriter) : BufferWriter :=
  w.endianPut m.blockCounter.toNat 4

def DataBlock.writeTo (m : DataBlock) (w : BufferWriter) : BufferWriter :=
  (w.endianPut m.blockCounter.toNat 4).put m.data

def BlockQueryWithSkip.writeTo (m : BlockQueryWithSkip) (w : BufferWriter) : BufferWriter :=
  (w.endianPut m.blockCounter.toNat 4).endianPut m.bytesToSkip.toNat 8

/-- `operator==`, which compares the lengths before the bytes. -/
def TransferInit.isEqual (m another : TransferInit) : Bool :=
  if m.metadata.length ≠ another.metadata.length ∨
      m.fileDesignator.length ≠ another.fileDesignator.length then false
  else m.version = another.version ∧ m.transferCtlOptions = another.transferCtlOptions ∧
    m.startOffset = another.startOffset ∧ m.maxLength = another.maxLength ∧
    m.maxBlockSize = another.maxBlockSize ∧ m.fileDesignator = another.fileDesignator ∧
    m.metadata = another.metadata

def SendAccept.isEqual (m another : SendAccept) : Bool :=
  if m.metadata.length ≠ another.metadata.length then false
  else m.version = another.version ∧ m.transferCtlFlags = another.transferCtlFlags ∧
    m.maxBlockSize = another.maxBlockSize ∧ m.metadata = another.metadata

def ReceiveAccept.isEqual (m another : ReceiveAccept) : Bool :=
  if m.metadata.length ≠ another.metadata.length then false
  else m.version = another.version ∧ m.transferCtlFlags = another.transferCtlFlags ∧
    m.startOffset = another.startOffset ∧ m.maxBlockSize = another.maxBlockSize ∧
    m.length = another.length ∧ m.metadata = another.metadata

def CounterMessage.isEqual (m another : CounterMessage) : Bool :=
  m.blockCounter = another.blockCounter

def DataBlock.isEqual (m another : DataBlock) : Bool :=
  if m.data.length ≠ another.data.length then false
  else m.blockCounter = another.blockCounter ∧ m.data = another.data

def BlockQueryWithSkip.isEqual (m another : BlockQueryWithSkip) : Bool :=
  m.blockCounter = another.blockCounter ∧ m.bytesToSkip = another.bytesToSkip

inductive BdxMessage where
  | transferInit (m : TransferInit)
  | sendAccept (m : SendAccept)
  | receiveAccept (m : ReceiveAccept)
  | counter (m : CounterMessage)
  | dataBlock (m : DataBlock)
  | blockQueryWithSkip (m : BlockQueryWithSkip)

namespace BdxMessage

def writeTo : BdxMessage → BufferWriter → BufferWriter
  | transferInit m => m.writeTo
  | sendAccept m => m.writeTo
  | receiveAccept m => m.writeTo
  | counter m => m.writeTo
  | dataBlock m => m.writeTo
  | blockQueryWithSkip m => m.writeTo

/-- `MessageSize`: what a writer without a buffer would need. -/
def messageSize (m : BdxMessage) : Nat := (m.writeTo (.init [])).mNeeded

/-- `Parse` into a message of the same kind. -/
def parseLike : BdxMessage → Bytes → Except ChipError BdxMessage
  | transferInit _, bytes => (TransferInit.parse bytes).1.map transferInit
  | sendAccept _, bytes => (SendAccept.parse bytes).1.map sendAccept
  | receiveAccept _, bytes => (ReceiveAccept.parse bytes).1.map receiveAccept
  | counter _, bytes => (CounterMessage.parse bytes).1.map counter
  | dataBlock _, bytes => (DataBlock.parse bytes).1.map dataBlock
  | blockQueryWithSkip _, bytes => (BlockQueryWithSkip.parse bytes).1.map blockQueryWithSkip

def isEqual : BdxMessage → BdxMessage → Bool
  | transferInit m, transferInit another => m.isEqual another
  | sendAccept m, sendAccept another => m.isEqual another
  | receiveAccept m, receiveAccept another => m.isEqual another
  | counter m, counter another => m.isEqual another
  | dataBlock m, dataBlock another => m.isEqual another
  | blockQueryWithSkip m, blockQueryWithSkip another => m.isEqual another
  | _, _ => false

def encoded : BdxMessage → Bytes
  | transferInit m => m.writeToBuffer
  | sendAccept m => m.writeToBuffer
  | receiveAccept m => m.writeToBuffer
  | counter m => m.writeToBuffer
  | dataBlock m => m.writeToBuffer
  | blockQueryWithSkip m => m.writeToBuffer

def rest : BdxMessage → Bytes
  | transferInit m => m.metadata
  | sendAccept m => m.metadata
  | receiveAccept m => m.metadata
  | counter _ => []
  | dataBlock m => m.data
  | blockQueryWithSkip _ => []

/-- A version and transfer control flags that share a byte: the first four bits are reserved for
the version. -/
def ControlFits (version flags : UInt8) : Prop := version.toNat ≤ 15 ∧ flags &&& versionMask = 0

/-- The version is at most 15, and the message fits a packet. -/
def Fits (m : BdxMessage) : Prop :=
  (match m with
    | transferInit m => ControlFits m.version m.transferCtlOptions
    | sendAccept m => ControlFits m.version m.transferCtlFlags
    | receiveAccept m => ControlFits m.version m.transferCtlFlags
    | _ => True) ∧ m.messageSize < 2 ^ 16

end BdxMessage

section Holds

variable {w : BufferWriter} {buf bytes : Bytes}

theorem encode_mod (width n : Nat) :
  encode width (n % 256 ^ width) = encode width n := by
  induction width generalizing n with
  | zero => rfl
  | succ width ih =>
    have hByte : UInt8.ofNat (n % 256 ^ (width + 1)) = UInt8.ofNat n := by
      apply UInt8.toNat_inj.mp
      rw [UInt8.toNat_ofNat', UInt8.toNat_ofNat', Nat.pow_succ, Nat.mul_comm, Nat.mod_mul_right_mod]
    have hRest : n % 256 ^ (width + 1) / 256 = n / 256 % 256 ^ width := by
      rw [Nat.pow_succ, Nat.mul_comm, Nat.mod_mul_right_div_self]
    rw [encode, encode, hByte, hRest, ih]

theorem holds_putRange (h : w.Holds buf bytes) (wide : Bool) (n : UInt64) :
  (putRange wide n w).Holds buf (bytes ++ writeRange wide n) := by
  unfold putRange writeRange
  by_cases hPositive : 0 < n.toNat
  · rw [if_pos hPositive, if_pos hPositive]
    cases wide with
    | true => exact h.endianPut n.toNat 8
    | false =>
      have hPut := h.endianPut (n.toNat % 2 ^ 32) 4
      have hMod := encode_mod 4 n.toNat
      rw [show (256 ^ 4 : Nat) = 2 ^ 32 from rfl] at hMod
      rwa [hMod] at hPut
  · rw [if_neg hPositive, if_neg hPositive, append_nil]
    exact h

theorem holds_putByte (h : w.Holds buf bytes) (c : UInt8) :
  (w.putByte c).Holds buf (bytes ++ encode 1 c.toNat) := by
  have hByte : encode 1 c.toNat = [c] := by
    rw [encode, encode, UInt8.ofNat_toNat]
  rw [hByte]
  exact h.putByte c

theorem TransferInit.holds_writeTo (m : TransferInit) (buf : Bytes) :
  (m.writeTo (.init buf)).Holds buf m.writeToBuffer := by
  have hRange := holds_putRange (holds_putRange ((holds_putByte (holds_putByte
    (holds_init buf) ((m.version &&& versionMask) ||| m.transferCtlOptions))
    (rangeCtlFlags m.startOffset m.maxLength)).endianPut m.maxBlockSize.toNat 2)
    (isWide m.startOffset m.maxLength) m.startOffset) (isWide m.startOffset m.maxLength) m.maxLength
  have hAll := ((hRange.endianPut m.fileDesignator.length 2).put m.fileDesignator).put m.metadata
  simp only [nil_append, append_assoc] at hAll
  exact hAll

theorem SendAccept.holds_writeTo (m : SendAccept) (buf : Bytes) :
  (m.writeTo (.init buf)).Holds buf m.writeToBuffer := by
  have hAll := ((holds_putByte (holds_init buf)
    ((m.version &&& versionMask) ||| m.transferCtlFlags)).endianPut m.maxBlockSize.toNat 2).put
      m.metadata
  simp only [nil_append, append_assoc] at hAll
  exact hAll

theorem ReceiveAccept.holds_writeTo (m : ReceiveAccept) (buf : Bytes) :
  (m.writeTo (.init buf)).Holds buf m.writeToBuffer := by
  have hAll := (holds_putRange (holds_putRange ((holds_putByte (holds_putByte
    (holds_init buf) ((m.version &&& versionMask) ||| m.transferCtlFlags))
    (rangeCtlFlags m.startOffset m.length)).endianPut m.maxBlockSize.toNat 2)
    (isWide m.startOffset m.length) m.startOffset) (isWide m.startOffset m.length) m.length).put
      m.metadata
  simp only [nil_append, append_assoc] at hAll
  exact hAll

theorem CounterMessage.holds_writeTo (m : CounterMessage) (buf : Bytes) :
  (m.writeTo (.init buf)).Holds buf m.writeToBuffer :=
  (holds_init buf).endianPut m.blockCounter.toNat 4

theorem DataBlock.holds_writeTo (m : DataBlock) (buf : Bytes) :
  (m.writeTo (.init buf)).Holds buf m.writeToBuffer :=
  ((holds_init buf).endianPut m.blockCounter.toNat 4).put m.data

theorem BlockQueryWithSkip.holds_writeTo (m : BlockQueryWithSkip) (buf : Bytes) :
  (m.writeTo (.init buf)).Holds buf m.writeToBuffer :=
  ((holds_init buf).endianPut m.blockCounter.toNat 4).endianPut m.bytesToSkip.toNat 8

theorem BdxMessage.holds_writeTo (m : BdxMessage) (buf : Bytes) :
  (m.writeTo (.init buf)).Holds buf m.encoded := by
  cases m with
  | transferInit m => exact m.holds_writeTo buf
  | sendAccept m => exact m.holds_writeTo buf
  | receiveAccept m => exact m.holds_writeTo buf
  | counter m => exact m.holds_writeTo buf
  | dataBlock m => exact m.holds_writeTo buf
  | blockQueryWithSkip m => exact m.holds_writeTo buf

theorem BdxMessage.messageSize_eq (m : BdxMessage) : m.messageSize = m.encoded.length :=
  (m.holds_writeTo []).needed

end Holds

section Parsing

theorem BdxMessage.ControlFits.split {version flags : UInt8}
  (h : BdxMessage.ControlFits version flags) :
  ((version &&& versionMask) ||| flags) &&& ~~~versionMask = flags ∧
    ((version &&& versionMask) ||| flags) &&& versionMask = version := by
  obtain ⟨hVersion, hFlags⟩ := h
  have hKept : version &&& versionMask = version := by
    apply UInt8.toNat_inj.mp
    rw [UInt8.toNat_and, versionMask]
    exact Nat.and_two_pow_sub_one_of_lt_two_pow (n := 4) (by omega)
  have hOr : ∀ a b c : UInt8, (a ||| b) &&& c = (a &&& c) ||| (b &&& c) := by
    intro a b c
    apply UInt8.toBitVec_inj.mp
    simp only [UInt8.toBitVec_and, UInt8.toBitVec_or]
    ext i
    simp [Bool.and_or_distrib_right]
  have hHigh : flags &&& ~~~versionMask = flags := by
    have hParts : flags = (flags &&& versionMask) ||| (flags &&& ~~~versionMask) := by
      apply UInt8.toBitVec_inj.mp
      simp only [UInt8.toBitVec_and, UInt8.toBitVec_or, UInt8.toBitVec_not]
      ext i
      simp
      cases flags.toBitVec[i] <;> cases versionMask.toBitVec[i] <;> rfl
    rw [hFlags, UInt8.zero_or] at hParts
    exact hParts.symm
  have hLow : (version &&& versionMask) &&& ~~~versionMask = 0 := by
    rw [UInt8.and_assoc, UInt8.and_not_self, UInt8.and_zero]
  constructor
  · rw [hOr, hLow, hHigh, UInt8.zero_or]
  · rw [hOr, hFlags, UInt8.or_zero, UInt8.and_assoc, UInt8.and_self, hKept]

theorem BdxMessage.parseLike_encoded (m : BdxMessage) (h : m.Fits) :
  m.parseLike m.encoded = .ok m := by
  obtain ⟨hControl, hSize⟩ := h
  cases m with
  | transferInit m =>
    have hName : m.fileDesignator.length < 256 ^ 2 := by
      rw [messageSize_eq, encoded, TransferInit.writeToBuffer] at hSize
      simp only [List.length_append] at hSize
      omega
    rw [parseLike, encoded, TransferInit.parse_writeToBuffer m hName, hControl.split.1,
      hControl.split.2]
    rfl
  | sendAccept m =>
    rw [parseLike, encoded, SendAccept.parse_writeToBuffer, hControl.split.1, hControl.split.2]
    rfl
  | receiveAccept m =>
    rw [parseLike, encoded, ReceiveAccept.parse_writeToBuffer, hControl.split.1, hControl.split.2]
    rfl
  | counter m =>
    rw [parseLike, encoded, CounterMessage.parse_writeToBuffer]
    rfl
  | dataBlock m =>
    rw [parseLike, encoded, DataBlock.parse_writeToBuffer]
    rfl
  | blockQueryWithSkip m =>
    rw [parseLike, encoded, BlockQueryWithSkip.parse_writeToBuffer]
    rfl

theorem BdxMessage.isEqual_self (m : BdxMessage) : m.isEqual m = true := by
  cases m with
  | transferInit m => simp [isEqual, TransferInit.isEqual]
  | sendAccept m => simp [isEqual, SendAccept.isEqual]
  | receiveAccept m => simp [isEqual, ReceiveAccept.isEqual]
  | counter m => simp [isEqual, CounterMessage.isEqual]
  | dataBlock m => simp [isEqual, DataBlock.isEqual]
  | blockQueryWithSkip m => simp [isEqual, BlockQueryWithSkip.isEqual]

end Parsing

section Prefix

variable {α : Type} {f : Nat → Proc ChipError Bytes α} {g : UInt64 → Proc ChipError Bytes α}
  {n : Nat} {rest : Bytes}

def Fails (m : Proc ChipError Bytes α) (bytes : Bytes) : Prop := ∃ e, (m bytes).1 = .error e

theorem fails_readBytes (width v : Nat)
  (h : width ≤ n → Fails (f (v % 256 ^ width)) (rest.take (n - width))) :
  Fails (readBytes width >>= f) ((encode width v ++ rest).take n) := by
  have hLength := encode_length width v
  by_cases hCut : width ≤ n
  · rw [take_append, hLength, take_of_length_le (by omega), Fails, readBytes_bind]
    exact h hCut
  · refine ⟨.bufferTooSmall, ?_⟩
    rw [bind_apply, readBytes, read_bind, verify_bind, if_neg]
    rw [length_take, length_append]
    omega

theorem fails_readRange {wide : Bool} {v : UInt64} (hWide : wide = false → v.toNat ≤ 0xFFFFFFFF)
  (h : (writeRange wide v).length ≤ n → Fails (g v) (rest.take (n - (writeRange wide v).length))) :
  Fails (readRange (0 < v.toNat) wide >>= g) ((writeRange wide v ++ rest).take n) := by
  by_cases hCut : (writeRange wide v).length ≤ n
  · rw [take_append, take_of_length_le hCut, Fails, readRange_bind _ _ hWide]
    exact h hCut
  · have hPositive : 0 < v.toNat := by
      by_contra hZero
      rw [writeRange, if_neg hZero] at hCut
      exact hCut (Nat.zero_le n)
    rw [writeRange, if_pos hPositive] at hCut ⊢
    rw [encode_length] at hCut
    refine ⟨.bufferTooSmall, ?_⟩
    rw [readRange, if_pos (decide_eq_true hPositive), bind_apply, bind_apply, readBytes,
      read_bind, verify_bind, if_neg]
    rw [length_take, length_append, encode_length]
    omega

theorem TransferInit.parse_prefix (m : TransferInit) (hName : m.fileDesignator.length < 256 ^ 2)
  (hCut : n + m.metadata.length < m.writeToBuffer.length) :
  Fails TransferInit.parse (m.writeToBuffer.take n) := by
  have hWide := @le_of_not_isWide m.startOffset m.maxLength
  rw [writeToBuffer] at hCut
  simp only [length_append, encode_length] at hCut
  rw [TransferInit.parse, writeToBuffer]
  refine fails_readBytes _ _ fun h₁ => fails_readBytes _ _ fun h₂ => fails_readBytes _ _ fun h₃ => ?_
  simp only [ofNat_toNat_mod8, rangeCtlFlags, has_widerange,
    has_startOffset, has_defLen]
  refine fails_readRange (fun h => (hWide h).1) fun h₄ =>
    fails_readRange (fun h => (hWide h).2) fun h₅ => fails_readBytes _ _ fun h₆ => ?_
  refine ⟨.messageIncomplete, ?_⟩
  rw [Nat.mod_eq_of_lt hName, read_bind, verify_bind, if_neg]
  rw [length_take, length_append]
  omega

theorem SendAccept.parse_prefix (m : SendAccept)
  (hCut : n + m.metadata.length < m.writeToBuffer.length) :
  Fails SendAccept.parse (m.writeToBuffer.take n) := by
  rw [writeToBuffer] at hCut
  simp only [length_append, encode_length] at hCut
  rw [SendAccept.parse, writeToBuffer]
  refine fails_readBytes _ _ fun h₁ => fails_readBytes _ _ fun h₂ => ?_
  omega

theorem ReceiveAccept.parse_prefix (m : ReceiveAccept)
  (hCut : n + m.metadata.length < m.writeToBuffer.length) :
  Fails ReceiveAccept.parse (m.writeToBuffer.take n) := by
  have hWide := @le_of_not_isWide m.startOffset m.length
  rw [writeToBuffer] at hCut
  simp only [length_append, encode_length] at hCut
  rw [ReceiveAccept.parse, writeToBuffer]
  refine fails_readBytes _ _ fun h₁ => fails_readBytes _ _ fun h₂ => fails_readBytes _ _ fun h₃ => ?_
  simp only [ofNat_toNat_mod8, rangeCtlFlags, has_widerange,
    has_startOffset, has_defLen]
  refine fails_readRange (fun h => (hWide h).1) fun h₄ =>
    fails_readRange (fun h => (hWide h).2) fun h₅ => ?_
  omega

theorem CounterMessage.parse_prefix (m : CounterMessage) (hCut : n < m.writeToBuffer.length) :
  Fails CounterMessage.parse (m.writeToBuffer.take n) := by
  rw [writeToBuffer, encode_length] at hCut
  rw [CounterMessage.parse, writeToBuffer, ← append_nil (encode _ _)]
  refine fails_readBytes _ _ fun h₁ => ?_
  omega

theorem DataBlock.parse_prefix (m : DataBlock) (hCut : n + m.data.length < m.writeToBuffer.length) :
  Fails DataBlock.parse (m.writeToBuffer.take n) := by
  rw [writeToBuffer, length_append, encode_length] at hCut
  rw [DataBlock.parse, writeToBuffer]
  refine fails_readBytes _ _ fun h₁ => ?_
  omega

theorem BlockQueryWithSkip.parse_prefix (m : BlockQueryWithSkip)
  (hCut : n < m.writeToBuffer.length) :
  Fails BlockQueryWithSkip.parse (m.writeToBuffer.take n) := by
  rw [writeToBuffer, length_append, encode_length, encode_length]
    at hCut
  rw [BlockQueryWithSkip.parse, writeToBuffer, ← append_nil (encode 8 _)]
  refine fails_readBytes _ _ fun h₁ => fails_readBytes _ _ fun h₂ => ?_
  omega

theorem Fails.map {m : Proc ChipError Bytes α} {bytes : Bytes} (h : Fails m bytes) {β : Type}
  (wrap : α → β) : ∃ e, (m bytes).1.map wrap = .error e := by
  obtain ⟨e, hFails⟩ := h
  exact ⟨e, by rw [hFails]; rfl⟩

theorem BdxMessage.parseLike_prefix (m : BdxMessage) (h : m.Fits)
  (hCut : n + m.rest.length < m.messageSize) : ∃ e, m.parseLike (m.encoded.take n) = .error e := by
  rw [messageSize_eq] at hCut
  cases m with
  | transferInit m =>
    have hSize := h.2
    have hName : m.fileDesignator.length < 256 ^ 2 := by
      rw [messageSize_eq, encoded, TransferInit.writeToBuffer] at hSize
      simp only [List.length_append] at hSize
      omega
    exact (m.parse_prefix hName hCut).map transferInit
  | sendAccept m => exact (m.parse_prefix hCut).map sendAccept
  | receiveAccept m => exact (m.parse_prefix hCut).map receiveAccept
  | counter m => exact (m.parse_prefix hCut).map counter
  | dataBlock m => exact (m.parse_prefix hCut).map dataBlock
  | blockQueryWithSkip m => exact (m.parse_prefix hCut).map blockQueryWithSkip

end Prefix

/-- A message that fits a packet is written to every buffer of its size. What is parsed from its
bytes is equal to it, and a prefix that cuts into a fixed field or one of a declared length is
refused. -/
theorem message_roundTrip (m : BdxMessage) (h : m.Fits) (buf : Bytes)
    (hBuffer : m.messageSize ≤ buf.length) :
    (m.writeTo (.init buf)).fit = true ∧ (m.writeTo (.init buf)).mNeeded = m.messageSize ∧
    (∃ parsed, m.parseLike ((m.writeTo (.init buf)).mBuf.take m.messageSize) = .ok parsed ∧
      parsed.isEqual m = true) ∧
    ∀ n, n + m.rest.length < m.messageSize →
      ∃ e, m.parseLike ((m.writeTo (.init buf)).mBuf.take n) = .error e := by
  have hHolds := m.holds_writeTo buf
  have hNeeded : (m.writeTo (.init buf)).mNeeded = m.messageSize := by
    rw [hHolds.needed, m.messageSize_eq]
  obtain ⟨hFit, hBytes⟩ := hHolds.take_needed (m.messageSize_eq ▸ hBuffer)
  rw [hNeeded] at hBytes
  refine ⟨hFit, hNeeded, ⟨m, ?_, m.isEqual_self⟩, ?_⟩
  · rw [hBytes]
    exact m.parseLike_encoded h
  · intro n hCut
    have hLess : n ≤ m.messageSize := by omega
    rw [← Nat.min_eq_left hLess, ← List.take_take, hBytes]
    exact m.parseLike_prefix h hCut

/-- A `SendInit` with a length of 2^32 bytes. -/
def wideInit : BdxMessage := .transferInit ⟨0x10, 1, 256, 42, 0x100000000, [0x41], [7, 6]⟩

theorem message_roundTrip_wide :
    (wideInit.writeTo (.init (List.replicate 40 0))).fit = true ∧
    (wideInit.writeTo (.init (List.replicate 40 0))).mNeeded = wideInit.messageSize ∧
    (∃ parsed, wideInit.parseLike
        ((wideInit.writeTo (.init (List.replicate 40 0))).mBuf.take wideInit.messageSize) =
        .ok parsed ∧ parsed.isEqual wideInit = true) ∧
    ∀ n, n + wideInit.rest.length < wideInit.messageSize →
      ∃ e, wideInit.parseLike ((wideInit.writeTo (.init (List.replicate 40 0))).mBuf.take n) =
        .error e :=
  message_roundTrip wideInit ⟨⟨by decide, by decide⟩, by decide⟩ (List.replicate 40 0) (by decide)

end Chip.Bdx
