import Chip.Transport.MessageHeader

/-! The messages of the bulk data exchange protocol (`BdxMessages.cpp`), as they are written to a
buffer and parsed from it. -/
namespace Chip.Bdx

open Chip.Transport (Bytes readBytes readBytes_encode readBytes_bind)

inductive MessageType where
  | sendInit
  | sendAccept
  | receiveInit
  | receiveAccept
  | blockQuery
  | block
  | blockEOF
  | blockAck
  | blockAckEOF
  | blockQueryWithSkip
  deriving DecidableEq, Repr

def has (flags flag : UInt8) : Bool := flags &&& flag ≠ 0

/-- `BitFlags::HasOnly`: no other flag is set. -/
def hasOnly (flags flag : UInt8) : Bool := flags &&& flag = flags

namespace TransferControlFlags

def senderDrive : UInt8 := 0x10
def receiverDrive : UInt8 := 0x20
def async : UInt8 := 0x40

end TransferControlFlags

def versionMask : UInt8 := 0x0F

namespace RangeControlFlags

def defLen : UInt8 := 0x01
def startOffset : UInt8 := 0x02
def widerange : UInt8 := 0x10

def set (definite offset wide : Bool) : UInt8 :=
  (if definite then defLen else 0) ||| (if offset then startOffset else 0) |||
    if wide then widerange else 0

variable (definite offset wide : Bool)

theorem has_defLen : has (set definite offset wide) defLen = definite := by
  revert definite offset wide
  decide

theorem has_startOffset : has (set definite offset wide) startOffset = offset := by
  revert definite offset wide
  decide

theorem has_widerange : has (set definite offset wide) widerange = wide := by
  revert definite offset wide
  decide

end RangeControlFlags

/-- Whether the offset or the length needs more than 32 bits. -/
def isWide (startOffset length : UInt64) : Bool :=
  0xFFFFFFFF < startOffset.toNat || 0xFFFFFFFF < length.toNat

def rangeCtlFlags (startOffset length : UInt64) : UInt8 :=
  RangeControlFlags.set (0 < length.toNat) (0 < startOffset.toNat) (isWide startOffset length)

/-- The offset or the length, which is left out if it is zero. -/
def writeRange (wide : Bool) (n : UInt64) : Bytes :=
  if 0 < n.toNat then LittleEndian.encode (if wide then 8 else 4) n.toNat else []

def readRange (present wide : Bool) : Proc ChipError Bytes UInt64 :=
  if present then do
    let n ← readBytes (if wide then 8 else 4)
    return UInt64.ofNat n
  else return 0

theorem readRange_writeRange {wide : Bool} {n : UInt64} (rest : Bytes)
  (hWide : wide = false → n.toNat ≤ 0xFFFFFFFF) :
  readRange (0 < n.toNat) wide (writeRange wide n ++ rest) = (.ok n, rest) := by
  have hLess := n.toNat_lt
  by_cases hPositive : 0 < n.toNat
  · rw [readRange, writeRange, if_pos hPositive, if_pos (by simpa using hPositive), readBytes_bind]
    have hFits : n.toNat < 256 ^ (if wide then 8 else 4) := by
      cases wide with
      | true => exact hLess
      | false =>
        have hNarrow := hWide rfl
        simp only [Bool.false_eq_true, if_false]
        omega
    rw [Nat.mod_eq_of_lt hFits, UInt64.ofNat_toNat]
    rfl
  · have hZero : n = 0 := UInt64.toNat_inj.mp (Nat.eq_zero_of_not_pos hPositive)
    rw [readRange, writeRange, if_neg hPositive, if_neg (by simpa using hPositive), hZero]
    rfl

theorem readRange_bind {α : Type} {wide : Bool} {n : UInt64} (rest : Bytes)
  (f : UInt64 → Proc ChipError Bytes α) (hWide : wide = false → n.toNat ≤ 0xFFFFFFFF) :
  (readRange (0 < n.toNat) wide >>= f) (writeRange wide n ++ rest) = f n rest :=
  Proc.bind_ok (readRange_writeRange rest hWide)

theorem le_of_not_isWide {startOffset length : UInt64} (hNarrow : isWide startOffset length = false) :
  startOffset.toNat ≤ 0xFFFFFFFF ∧ length.toNat ≤ 0xFFFFFFFF := by
  simpa [isWide] using hNarrow

/-- A `SendInit` or a `ReceiveInit`. -/
structure TransferInit where
  transferCtlOptions : UInt8
  version : UInt8
  maxBlockSize : UInt16
  startOffset : UInt64
  maxLength : UInt64
  fileDesignator : Bytes
  metadata : Bytes

def TransferInit.writeToBuffer (m : TransferInit) : Bytes :=
  let wide := isWide m.startOffset m.maxLength
  LittleEndian.encode 1 ((m.version &&& versionMask) ||| m.transferCtlOptions).toNat ++
    (LittleEndian.encode 1 (rangeCtlFlags m.startOffset m.maxLength).toNat ++
      (LittleEndian.encode 2 m.maxBlockSize.toNat ++ (writeRange wide m.startOffset ++
        (writeRange wide m.maxLength ++
          (LittleEndian.encode 2 m.fileDesignator.length ++ (m.fileDesignator ++ m.metadata))))))

def TransferInit.parse : Proc ChipError Bytes TransferInit := do
  let proposedTransferCtl := UInt8.ofNat (← readBytes 1)
  let rangeCtlFlags := UInt8.ofNat (← readBytes 1)
  let maxBlockSize := UInt16.ofNat (← readBytes 2)
  let wide := has rangeCtlFlags RangeControlFlags.widerange
  let startOffset ← readRange (has rangeCtlFlags RangeControlFlags.startOffset) wide
  let maxLength ← readRange (has rangeCtlFlags RangeControlFlags.defLen) wide
  let fileDesLength ← readBytes 2
  let rest ← Proc.read
  Proc.verify (fileDesLength ≤ rest.length) .messageIncomplete
  return {
    transferCtlOptions := proposedTransferCtl &&& ~~~versionMask
    version := proposedTransferCtl &&& versionMask
    maxBlockSize := maxBlockSize
    startOffset := startOffset
    maxLength := maxLength
    fileDesignator := rest.take fileDesLength
    metadata := rest.drop fileDesLength }

structure SendAccept where
  transferCtlFlags : UInt8
  version : UInt8
  maxBlockSize : UInt16
  metadata : Bytes

def SendAccept.writeToBuffer (m : SendAccept) : Bytes :=
  LittleEndian.encode 1 ((m.version &&& versionMask) ||| m.transferCtlFlags).toNat ++
    (LittleEndian.encode 2 m.maxBlockSize.toNat ++ m.metadata)

def SendAccept.parse : Proc ChipError Bytes SendAccept := do
  let transferCtl := UInt8.ofNat (← readBytes 1)
  let maxBlockSize := UInt16.ofNat (← readBytes 2)
  let metadata ← Proc.read
  return {
    transferCtlFlags := transferCtl &&& ~~~versionMask
    version := transferCtl &&& versionMask
    maxBlockSize := maxBlockSize
    metadata := metadata }

structure ReceiveAccept where
  transferCtlFlags : UInt8
  version : UInt8
  maxBlockSize : UInt16
  startOffset : UInt64
  length : UInt64
  metadata : Bytes

def ReceiveAccept.writeToBuffer (m : ReceiveAccept) : Bytes :=
  let wide := isWide m.startOffset m.length
  LittleEndian.encode 1 ((m.version &&& versionMask) ||| m.transferCtlFlags).toNat ++
    (LittleEndian.encode 1 (rangeCtlFlags m.startOffset m.length).toNat ++
      (LittleEndian.encode 2 m.maxBlockSize.toNat ++
        (writeRange wide m.startOffset ++ (writeRange wide m.length ++ m.metadata))))

def ReceiveAccept.parse : Proc ChipError Bytes ReceiveAccept := do
  let transferCtl := UInt8.ofNat (← readBytes 1)
  let rangeCtlFlags := UInt8.ofNat (← readBytes 1)
  let maxBlockSize := UInt16.ofNat (← readBytes 2)
  let wide := has rangeCtlFlags RangeControlFlags.widerange
  let startOffset ← readRange (has rangeCtlFlags RangeControlFlags.startOffset) wide
  let length ← readRange (has rangeCtlFlags RangeControlFlags.defLen) wide
  let metadata ← Proc.read
  return {
    transferCtlFlags := transferCtl &&& ~~~versionMask
    version := transferCtl &&& versionMask
    maxBlockSize := maxBlockSize
    startOffset := startOffset
    length := length
    metadata := metadata }

/-- A `BlockQuery`, a `BlockAck` or a `BlockAckEOF`. -/
structure CounterMessage where
  blockCounter : UInt32

def CounterMessage.writeToBuffer (m : CounterMessage) : Bytes :=
  LittleEndian.encode 4 m.blockCounter.toNat

def CounterMessage.parse : Proc ChipError Bytes CounterMessage := do
  let blockCounter ← readBytes 4
  return ⟨UInt32.ofNat blockCounter⟩

/-- A `Block` or a `BlockEOF`. -/
structure DataBlock where
  blockCounter : UInt32
  data : Bytes

def DataBlock.writeToBuffer (m : DataBlock) : Bytes :=
  LittleEndian.encode 4 m.blockCounter.toNat ++ m.data

def DataBlock.parse : Proc ChipError Bytes DataBlock := do
  let blockCounter ← readBytes 4
  let data ← Proc.read
  return ⟨UInt32.ofNat blockCounter, data⟩

structure BlockQueryWithSkip where
  blockCounter : UInt32
  bytesToSkip : UInt64

def BlockQueryWithSkip.writeToBuffer (m : BlockQueryWithSkip) : Bytes :=
  LittleEndian.encode 4 m.blockCounter.toNat ++ LittleEndian.encode 8 m.bytesToSkip.toNat

def BlockQueryWithSkip.parse : Proc ChipError Bytes BlockQueryWithSkip := do
  let blockCounter ← readBytes 4
  let bytesToSkip ← readBytes 8
  return ⟨UInt32.ofNat blockCounter, UInt64.ofNat bytesToSkip⟩

theorem ofNat_toNat_mod8 (a : UInt8) : UInt8.ofNat (a.toNat % 256 ^ 1) = a := by
  have hLess : a.toNat < 256 ^ 1 := a.toNat_lt
  rw [Nat.mod_eq_of_lt hLess, UInt8.ofNat_toNat]

theorem ofNat_toNat_mod16 (a : UInt16) : UInt16.ofNat (a.toNat % 256 ^ 2) = a := by
  have hLess : a.toNat < 256 ^ 2 := a.toNat_lt
  rw [Nat.mod_eq_of_lt hLess, UInt16.ofNat_toNat]

theorem ofNat_toNat_mod32 (a : UInt32) : UInt32.ofNat (a.toNat % 256 ^ 4) = a := by
  have hLess : a.toNat < 256 ^ 4 := a.toNat_lt
  rw [Nat.mod_eq_of_lt hLess, UInt32.ofNat_toNat]

theorem ofNat_toNat_mod64 (a : UInt64) : UInt64.ofNat (a.toNat % 256 ^ 8) = a := by
  have hLess : a.toNat < 256 ^ 8 := a.toNat_lt
  rw [Nat.mod_eq_of_lt hLess, UInt64.ofNat_toNat]

theorem control_flags {version flags : UInt8} (hVersion : version = 0) :
  ((version &&& versionMask) ||| flags) &&& ~~~versionMask = flags &&& ~~~versionMask := by
  subst hVersion
  simp

theorem TransferInit.parse_writeToBuffer (m : TransferInit)
  (hFits : m.fileDesignator.length < 256 ^ 2) :
  TransferInit.parse m.writeToBuffer = (.ok { m with
    transferCtlOptions := ((m.version &&& versionMask) ||| m.transferCtlOptions) &&& ~~~versionMask
    version := ((m.version &&& versionMask) ||| m.transferCtlOptions) &&& versionMask },
    m.fileDesignator ++ m.metadata) := by
  have hWide := @le_of_not_isWide m.startOffset m.maxLength
  rw [TransferInit.parse, TransferInit.writeToBuffer, readBytes_bind, readBytes_bind,
    readBytes_bind, ofNat_toNat_mod8, ofNat_toNat_mod8, ofNat_toNat_mod16]
  simp only [rangeCtlFlags, RangeControlFlags.has_widerange, RangeControlFlags.has_startOffset,
    RangeControlFlags.has_defLen]
  rw [readRange_bind _ _ fun h => (hWide h).1, readRange_bind _ _ fun h => (hWide h).2,
    readBytes_bind, Nat.mod_eq_of_lt hFits, Proc.read_bind, Proc.verify_bind, if_pos (by simp),
    List.take_left, List.drop_left]
  rfl

theorem SendAccept.parse_writeToBuffer (m : SendAccept) :
  SendAccept.parse m.writeToBuffer = (.ok { m with
    transferCtlFlags := ((m.version &&& versionMask) ||| m.transferCtlFlags) &&& ~~~versionMask
    version := ((m.version &&& versionMask) ||| m.transferCtlFlags) &&& versionMask },
    m.metadata) := by
  rw [SendAccept.parse, SendAccept.writeToBuffer, readBytes_bind, readBytes_bind,
    ofNat_toNat_mod8, ofNat_toNat_mod16]
  rfl

theorem ReceiveAccept.parse_writeToBuffer (m : ReceiveAccept) :
  ReceiveAccept.parse m.writeToBuffer = (.ok { m with
    transferCtlFlags := ((m.version &&& versionMask) ||| m.transferCtlFlags) &&& ~~~versionMask
    version := ((m.version &&& versionMask) ||| m.transferCtlFlags) &&& versionMask },
    m.metadata) := by
  have hWide := @le_of_not_isWide m.startOffset m.length
  rw [ReceiveAccept.parse, ReceiveAccept.writeToBuffer, readBytes_bind, readBytes_bind,
    readBytes_bind, ofNat_toNat_mod8, ofNat_toNat_mod8, ofNat_toNat_mod16]
  simp only [rangeCtlFlags, RangeControlFlags.has_widerange, RangeControlFlags.has_startOffset,
    RangeControlFlags.has_defLen]
  rw [readRange_bind _ _ fun h => (hWide h).1, readRange_bind _ _ fun h => (hWide h).2,
    Proc.read_bind]
  rfl

theorem CounterMessage.parse_writeToBuffer (m : CounterMessage) :
  CounterMessage.parse m.writeToBuffer = (.ok m, []) := by
  have hRead := readBytes_bind 4 m.blockCounter.toNat []
    (fun blockCounter => (return ⟨UInt32.ofNat blockCounter⟩ : Proc ChipError Bytes CounterMessage))
  rw [List.append_nil] at hRead
  rw [CounterMessage.parse, CounterMessage.writeToBuffer, hRead, ofNat_toNat_mod32]
  rfl

theorem DataBlock.parse_writeToBuffer (m : DataBlock) :
  DataBlock.parse m.writeToBuffer = (.ok m, m.data) := by
  rw [DataBlock.parse, DataBlock.writeToBuffer, readBytes_bind, ofNat_toNat_mod32, Proc.read_bind]
  rfl

theorem BlockQueryWithSkip.parse_writeToBuffer (m : BlockQueryWithSkip) :
  BlockQueryWithSkip.parse m.writeToBuffer = (.ok m, []) := by
  have hRead := readBytes_bind 8 m.bytesToSkip.toNat [] (fun bytesToSkip =>
    (return ⟨m.blockCounter, UInt64.ofNat bytesToSkip⟩ : Proc ChipError Bytes BlockQueryWithSkip))
  rw [List.append_nil] at hRead
  rw [BlockQueryWithSkip.parse, BlockQueryWithSkip.writeToBuffer, readBytes_bind,
    ofNat_toNat_mod32, hRead, ofNat_toNat_mod64]
  rfl

end Chip.Bdx
