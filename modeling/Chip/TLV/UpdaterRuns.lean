import Chip.TLV.Containment
import Chip.TLV.Updater

/-! The account that an updater keeps of its buffer: output, free space and the input that has not been
consumed lie one behind the other, and together they are the buffer. -/
namespace Chip.TLV

open TLVUpdater TLVReader TLVWriter

def Appends {α : Type} (m : WriterM α) : Prop :=
  ∀ w, w.mLenWritten < 2 ^ 32 → w.mMaxLen < 2 ^ 32 → w.mCloseContainerReserved = false →
    ∃ q, Emits q w (m w).2 ∧ (m w).2.mMaxLen = w.mMaxLen

section Appends

variable {α β : Type} {m : WriterM α}

theorem Appends.of_wrote (h : ∀ w, w.mLenWritten < 2 ^ 32 → ∃ q, Wrote q w (m w).2) : Appends m := by
  intro w hLt _ _
  obtain ⟨q, hWrote⟩ := h w hLt
  exact ⟨q, hWrote.toEmits, hWrote.maxLen⟩

theorem Appends.pure (a : α) : Appends (pure a) := .of_wrote fun _ hLt => ⟨[], Wrote.nil hLt⟩

theorem Appends.fail (e : ChipError) : Appends (Proc.fail e : WriterM α) :=
  .of_wrote fun _ hLt => ⟨[], Wrote.nil hLt⟩

theorem Appends.verify (p : Prop) [Decidable p] (e : ChipError) : Appends (Proc.verify p e) := by
  refine .of_wrote fun w hLt => ⟨[], ?_⟩
  rw [Proc.verify_apply]
  split_ifs <;> exact Wrote.nil hLt

theorem Appends.bind {f : α → WriterM β} (hm : Appends m) (hf : ∀ a, Appends (f a)) : Appends (m >>= f) := by
  intro w hLt hMax hReserved
  obtain ⟨p, hEmits, hSame⟩ := hm w hLt hMax hReserved
  rw [Proc.bind_apply]
  cases hResult : m w with
  | mk result w₁ =>
    rw [hResult] at hEmits hSame
    cases result with
    | error e => exact ⟨p, hEmits, hSame⟩
    | ok a =>
      obtain ⟨q, hEmits', hSame'⟩ := hf a w₁ hEmits.lt (hSame ▸ hMax) (hEmits.reserved.trans hReserved)
      exact ⟨p ++ q, hEmits.trans hEmits', hSame'.trans hSame⟩

theorem Appends.read_bind {f : TLVWriter → WriterM β} (hf : ∀ w, Appends (f w)) : Appends (Proc.read >>= f) :=
  fun w => hf w w

theorem writeElementHead_appends (elemType : TLVElementType) (tag : Tag) (lenOrVal : Nat) :
  Appends (writeElementHead elemType tag lenOrVal) :=
  .of_wrote fun w hLt => (writeElementHead_spec elemType tag lenOrVal w hLt).imp fun _ h => h.1

theorem writeData_appends (p : Bytes) : Appends (writeData p) :=
  .of_wrote fun w hLt => (writeData_spec p w hLt).imp fun _ h => h.2.1

theorem copyDataLoop_appends (fuel copyDataLen : Nat) (r : TLVReader) :
  Appends (copyDataLoop fuel copyDataLen r) := by
  induction fuel generalizing copyDataLen r with
  | zero => exact .verify _ _
  | succ fuel ih =>
    unfold copyDataLoop
    split_ifs
    · exact .pure _
    dsimp only
    split
    · exact .fail _
    · exact (writeData_appends _).bind fun _ => ih _ _

theorem copyElement_appends (tag : Tag) (r : TLVReader) : Appends (copyElement tag r) := by
  refine (Appends.verify _ _).bind fun _ => ?_
  split
  · exact .fail _
  · exact (writeElementHead_appends _ _ _).bind fun _ => (copyDataLoop_appends _ _ _).bind fun _ => .pure _

theorem writerCall_appends (c : WriterCall) : Appends c.run := by
  have hSized : ∀ (t : TLVElementType) (tag : Tag) (n : Nat), Appends (writeElementHead t tag n) :=
    writeElementHead_appends
  cases c with
  | putUIntPreserveSize tag size v => cases size <;> exact hSized _ _ _
  | putIntPreserveSize tag size v => cases size <;> exact hSized _ _ _
  | putBytes tag data => exact (hSized _ _ _).bind fun _ => writeData_appends _
  | putString tag data => exact (hSized _ _ _).bind fun _ => writeData_appends _
  | putStringF tag formatted =>
    exact (Appends.verify _ _).bind fun _ => (hSized _ _ _).bind fun _ => .read_bind fun w =>
      (Appends.verify _ _).bind fun _ => writeData_appends _
  | putPreEncodedContainer tag containerType data =>
    exact (Appends.verify _ _).bind fun _ => (hSized _ _ _).bind fun _ => writeData_appends _
  | copyElement tag reader => exact (copyElement_appends tag reader).bind fun _ => .pure _
  | _ => exact hSized _ _ _

theorem startContainer_appends (tag : Tag) (type : TLVType) : Appends (startContainer tag type) := by
  intro w hLt hMax hReserved
  have hSame : w.reservedMaxLen = w.mMaxLen := by simp [reservedMaxLen, hReserved]
  rcases writeContainerHead_spec tag type w hLt hMax with
    ⟨e, w', hHead, q, hWrote, -⟩ | ⟨w', head, hHead, -, -, -, -, hWrote, -⟩
  · rw [startContainer, Proc.bind_error hHead]
    exact ⟨q, hWrote.toEmits, hWrote.maxLen⟩
  · rw [hSame] at hWrote
    rw [startContainer, Proc.bind_ok hHead]
    exact ⟨head, { hWrote.toEmits with }, hWrote.maxLen⟩

theorem endContainer_appends (outer : TLVType) : Appends (endContainer outer) := by
  intro w hLt hMax hReserved
  have hLimit : (if w.mCloseContainerReserved then add32 w.mMaxLen endOfContainerMarkerSize else w.mMaxLen) =
      w.mMaxLen := if_neg (by simp [hReserved])
  rw [endContainer, Proc.read_bind, Proc.verify_bind]
  split_ifs
  · rw [Proc.modify_bind, releaseCloseContainer, Proc.modify_bind]
    dsimp only
    rw [hLimit]
    obtain ⟨q, hEmits, hSame⟩ := writeElementHead_appends .endOfContainer anonymousTag 0
      { w with mContainerType := outer } hLt hMax hReserved
    exact ⟨q, { hEmits with }, hSame⟩
  · exact ⟨[], (Wrote.nil hLt).toEmits, rfl⟩

end Appends

namespace TLVUpdater

/-- The free space lies between the output and the input, and no pointer is behind the buffer. -/
structure InStep (u : TLVUpdater) : Prop where
  freeSpace : u.mWritePoint + u.mUpdaterWriter.mRemainingLen = u.mElementStartAddr
  maxLen : u.mUpdaterWriter.mMaxLen = u.mUpdaterWriter.mLenWritten + u.mUpdaterWriter.mRemainingLen
  readPoint : u.mReadPoint ≤ u.mBuffer.length

structure Accounts (u : TLVUpdater) : Prop where
  size : u.mBuffer.length < 2 ^ 32
  writerStore : u.mUpdaterWriter.mBackingStore = none
  reserved : u.mUpdaterWriter.mCloseContainerReserved = false
  lenWritten : u.mUpdaterWriter.mLenWritten = u.mWritePoint
  freeSpace : u.mWritePoint + u.mUpdaterWriter.mRemainingLen = u.mElementStartAddr
  maxLen : u.mUpdaterWriter.mMaxLen = u.mElementStartAddr
  elementStart : u.mElementStartAddr ≤ u.mReadPoint
  readerStore : u.mUpdaterReader.mBackingStore = none
  input : u.mUpdaterReader.mMaxLen ≤ u.mBuffer.length
  lenRead : u.mUpdaterReader.mLenRead ≤ u.mUpdaterReader.mMaxLen
  readPoint : u.mReadPoint + u.mUpdaterReader.mMaxLen = u.mUpdaterReader.mLenRead + u.mBuffer.length

variable {u : TLVUpdater} {α : Type}

section

variable (h : Accounts u)
include h

theorem Accounts.readPoint_le : u.mReadPoint ≤ u.mBuffer.length := by
  have hLenRead := h.lenRead
  have hReadPoint := h.readPoint
  omega

theorem Accounts.inStep : InStep u := by
  refine ⟨h.freeSpace, ?_, h.readPoint_le⟩
  rw [h.maxLen, h.lenWritten, h.freeSpace]

theorem Accounts.within :
  Within (u.mBuffer.drop (u.mBuffer.length - u.mUpdaterReader.mMaxLen)) u.reader := by
  have hInput := h.input
  have hLenRead := h.lenRead
  have hReadPoint := h.readPoint
  have hLength : (u.mBuffer.drop (u.mBuffer.length - u.mUpdaterReader.mMaxLen)).length =
      u.mUpdaterReader.mMaxLen := by
    rw [List.length_drop]
    omega
  refine ⟨h.readerStore, hLength.symm, hLength.symm ▸ hLenRead, ?_⟩
  rw [List.drop_drop]
  change u.mBuffer.drop u.mReadPoint = u.mBuffer.drop
    (u.mBuffer.length - u.mUpdaterReader.mMaxLen + u.mUpdaterReader.mLenRead)
  congr 1
  omega

theorem Accounts.onReader {m : ReaderM α}
  (hm : ∀ {data r}, data.length < 2 ^ 32 → Within data r → Contained data m r)
  (hShrinks : Shrinks m) :
  Accounts (onReader m u).2 ∧ u.mReadPoint ≤ (onReader m u).2.mReadPoint := by
  have hInput := h.input
  have hSize := h.size
  have hReadPoint := h.readPoint
  have hElementStart := h.elementStart
  have hLenRead := h.lenRead
  have hWithin := h.within
  have hLength : (u.mBuffer.drop (u.mBuffer.length - u.mUpdaterReader.mMaxLen)).length =
      u.mUpdaterReader.mMaxLen := by
    rw [List.length_drop]
    omega
  have hAfter := (hm (by rw [hLength]; omega) hWithin).1
  have hShrink := hShrinks u.reader
  rw [hWithin.available, hAfter.available] at hShrink
  have hBefore := hWithin.length
  have hBehind := hAfter.length
  have hMaxLen := hAfter.maxLen
  have hLenRead' := hAfter.lenRead
  have hSame : u.reader.mLenRead = u.mUpdaterReader.mLenRead := rfl
  rw [hLength] at hBefore hBehind hMaxLen hLenRead'
  rw [hSame] at hBefore
  refine ⟨?_, Nat.le_add_right _ _⟩
  exact {
    size := hSize
    writerStore := h.writerStore
    reserved := h.reserved
    lenWritten := h.lenWritten
    freeSpace := h.freeSpace
    maxLen := h.maxLen
    elementStart := hElementStart.trans (Nat.le_add_right _ _)
    readerStore := hAfter.store
    input := hMaxLen.le.trans hInput
    lenRead := hLenRead'.trans hMaxLen.ge
    readPoint := by
      change u.mReadPoint + (u.reader.mBuf.length - (m u.reader).2.mBuf.length) + (m u.reader).2.mMaxLen =
        (m u.reader).2.mLenRead + u.mBuffer.length
      omega }

theorem Accounts.onWriter {m : WriterM α} (hm : Appends m) :
  Accounts (TLVUpdater.onWriter m u).2 := by
  have hSize := h.size
  have hFreeSpace := h.freeSpace
  have hElementStart := h.elementStart
  have hReadPoint := h.readPoint_le
  have hLenWritten := h.lenWritten
  have hMaxLen := h.maxLen
  obtain ⟨q, hEmits, hSame⟩ := hm u.writer (by change u.mUpdaterWriter.mLenWritten < _; omega)
    (by change u.mUpdaterWriter.mMaxLen < _; omega) h.reserved
  obtain ⟨hStore, hRemaining⟩ := hEmits.contiguous h.writerStore
  have hBytes : (m u.writer).2.mBuf = u.mBuffer.take u.mWritePoint ++ q := by
    have hEmitted := hEmits.emitted
    simp only [TLVWriter.emitted, hStore, show u.writer.mBackingStore = none from h.writerStore] at hEmitted
    exact hEmitted
  have hLength : (m u.writer).2.mBuf.length = u.mWritePoint + q.length := by
    rw [hBytes, List.length_append, List.length_take_of_le (by omega)]
  have hRoom : (m u.writer).2.mRemainingLen + q.length = u.mUpdaterWriter.mRemainingLen := hRemaining
  have hSum : add32 u.mUpdaterWriter.mLenWritten q.length = u.mUpdaterWriter.mLenWritten + q.length :=
    add32_of_lt (by omega)
  have hBuffer : (overwrite u.mBuffer 0 (m u.writer).2.mBuf).length = u.mBuffer.length :=
    length_overwrite (by omega)
  exact {
    size := hBuffer.trans_lt hSize
    writerStore := hStore
    reserved := hEmits.reserved.trans h.reserved
    lenWritten := by
      change (m u.writer).2.mLenWritten = (m u.writer).2.mBuf.length
      rw [hEmits.lenWritten, hLength, ← hLenWritten]
      exact hSum
    freeSpace := by
      change (m u.writer).2.mBuf.length + (m u.writer).2.mRemainingLen = u.mElementStartAddr
      omega
    maxLen := hSame.trans hMaxLen
    elementStart := hElementStart
    readerStore := h.readerStore
    input := hBuffer.symm ▸ h.input
    lenRead := h.lenRead
    readPoint := by
      change u.mReadPoint + _ = u.mUpdaterReader.mLenRead + (overwrite u.mBuffer 0 (m u.writer).2.mBuf).length
      rw [hBuffer]
      exact h.readPoint }

theorem Accounts.adjustFreeSpace :
  Accounts u.adjustFreeSpace ∧ u.adjustFreeSpace.mElementStartAddr = u.adjustFreeSpace.mReadPoint := by
  rw [TLVUpdater.adjustFreeSpace]
  split_ifs with hSame
  · exact ⟨h, hSame.symm⟩
  · have hSize := h.size
    have hFreeSpace := h.freeSpace
    have hMaxLen := h.maxLen
    have hElementStart := h.elementStart
    have hReadPoint := h.readPoint_le
    have hIncrease : (u.mReadPoint - u.mElementStartAddr) % 2 ^ 32 = u.mReadPoint - u.mElementStartAddr :=
      Nat.mod_eq_of_lt (by omega)
    dsimp only
    rw [hIncrease, add32_of_lt (by omega), add32_of_lt (by omega)]
    exact ⟨{ h with
      freeSpace := by change u.mWritePoint + (u.mUpdaterWriter.mRemainingLen + _) = u.mReadPoint; omega
      maxLen := by change u.mUpdaterWriter.mMaxLen + _ = u.mReadPoint; omega
      elementStart := Nat.le_refl _ }, rfl⟩

theorem Accounts.moveBytes {copyLen : Nat} (hCopy : u.mElementStartAddr + copyLen ≤ u.mReadPoint) :
  Accounts (u.moveBytes copyLen) := by
  have hSize := h.size
  have hFreeSpace := h.freeSpace
  have hReadPoint := h.readPoint_le
  have hLenWritten := h.lenWritten
  have hMaxLen := h.maxLen
  have hBuffer : (memmove u.mBuffer u.mWritePoint u.mElementStartAddr copyLen).length = u.mBuffer.length :=
    length_memmove (by omega) (by omega)
  exact {
    size := hBuffer.trans_lt hSize
    writerStore := h.writerStore
    reserved := h.reserved
    lenWritten := by
      change add32 u.mUpdaterWriter.mLenWritten copyLen = u.mWritePoint + copyLen
      rw [add32_of_lt (by omega), hLenWritten]
    freeSpace := by
      change u.mWritePoint + copyLen + u.mUpdaterWriter.mRemainingLen = u.mElementStartAddr + copyLen
      omega
    maxLen := by
      change add32 u.mUpdaterWriter.mMaxLen copyLen = u.mElementStartAddr + copyLen
      rw [add32_of_lt (by omega), hMaxLen]
    elementStart := hCopy
    readerStore := h.readerStore
    input := hBuffer.symm ▸ h.input
    lenRead := h.lenRead
    readPoint := by
      change u.mReadPoint + _ = u.mUpdaterReader.mLenRead +
        (memmove u.mBuffer u.mWritePoint u.mElementStartAddr copyLen).length
      rw [hBuffer]
      exact h.readPoint }

end

theorem getBytes_contained {data : Bytes} {r : TLVReader} (hSize : data.length < 2 ^ 32) (h : Within data r)
  (bufSize : Nat) : Contained data (TLV.getBytes bufSize) r := by
  refine .read_bind (.verify_bind (by decide) h fun _ => .verify_bind (by decide) h fun _ => ?_)
  exact (readData_stays hSize h (by decide) _).bind fun _ _ _ h' =>
    .modify_bind (.pure _ (h'.of_position rfl rfl rfl rfl))

theorem getBytes_shrinks (bufSize : Nat) : Shrinks (TLV.getBytes bufSize) := by
  refine Shrinks.read_bind fun r => (Shrinks.verify _ _).bind fun _ => (Shrinks.verify _ _).bind fun _ => ?_
  exact (readDataLoop_shrinks _ _).bind fun bytes _ => Nat.le_refl _

theorem maintains_onReader {m : ReaderM α}
  (hm : ∀ {data r}, data.length < 2 ^ 32 → Within data r → Contained data m r) (hShrinks : Shrinks m) :
  Proc.Maintains Accounts (onReader m) fun _ => True :=
  fun _ h => ⟨(h.onReader hm hShrinks).1, fun _ _ => trivial⟩

theorem maintains_onWriter {m : WriterM α} (hm : Appends m) :
  Proc.Maintains Accounts (onWriter m) fun _ => True :=
  fun _ h => ⟨h.onWriter hm, fun _ _ => trivial⟩

theorem maintains_adjustFreeSpace :
  Proc.Maintains Accounts (Proc.modify adjustFreeSpace : UpdaterM Unit) fun _ => True :=
  .modify fun _ h => h.adjustFreeSpace.1

theorem maintains_next : Proc.Maintains Accounts next fun _ => True :=
  (maintains_onReader skip_contained skip_shrinks).bind fun _ _ => maintains_adjustFreeSpace.bind fun _ _ =>
    maintains_onReader next_contained Utilities.next_shrinks

theorem maintains_move : Proc.Maintains Accounts move fun _ => True := by
  refine .read_bind fun _ _ => (Proc.Maintains.verify _ _).bind fun _ _ => (Proc.Maintains.verify _ _).bind fun _ _ =>
    (maintains_onReader skip_contained skip_shrinks).bind fun _ _ => .modify fun u h => ?_
  have hElementStart := h.elementStart
  have hMod := Nat.mod_le (u.mReadPoint - u.mElementStartAddr) (2 ^ 32)
  exact h.moveBytes (by omega)

theorem maintains_enterContainer : Proc.Maintains Accounts enterContainer fun _ => True :=
  .read_bind fun _ _ => (Proc.Maintains.verify _ _).bind fun _ _ => maintains_adjustFreeSpace.bind fun _ _ =>
    (maintains_onWriter (startContainer_appends _ _)).bind fun _ _ =>
      maintains_onReader (fun _ h => enterContainer_contained h) enterContainer_shrinks

theorem maintains_exitContainer (outer : TLVType) :
  Proc.Maintains Accounts (exitContainer outer) fun _ => True :=
  (maintains_onReader (fun hSize h => exitContainer_contained hSize h outer) (exitContainer_shrinks outer)).bind
    fun _ _ => maintains_adjustFreeSpace.bind fun _ _ => maintains_onWriter (endContainer_appends outer)

theorem Accounts.untilEnd (h : Accounts u) : u.untilEnd = u.mBuffer.length - u.mElementStartAddr := by
  have hSize := h.size
  have hInput := h.input
  have hLenRead := h.lenRead
  have hReadPoint := h.readPoint
  have hRemaining : sub32 u.mUpdaterReader.mMaxLen u.mUpdaterReader.mLenRead =
      u.mUpdaterReader.mMaxLen - u.mUpdaterReader.mLenRead := sub32_of_le (by omega) hLenRead
  have hEnd : u.mReadPoint + (u.mUpdaterReader.mMaxLen - u.mUpdaterReader.mLenRead) = u.mBuffer.length := by
    omega
  rw [TLVUpdater.untilEnd, hRemaining, hEnd, Nat.mod_eq_of_lt (by omega)]

/-- The reader has passed the end of the input, where no element is left to be read. -/
structure AtEnd (u : TLVUpdater) : Prop where
  accounts : Accounts u
  readPoint : u.mReadPoint = u.mBuffer.length
  control : u.mUpdaterReader.mControlByte = none

theorem Accounts.moveUntilEnd (h : Accounts u) (hBefore : u.mReadPoint = u.mElementStartAddr) :
  AtEnd (moveUntilEnd u).2 := by
  have hSize := h.size
  have hInput := h.input
  have hLenRead := h.lenRead
  have hReadPoint := h.readPoint
  have hFreeSpace := h.freeSpace
  have hLenWritten := h.lenWritten
  have hMaxLen := h.maxLen
  have hUntilEnd := h.untilEnd
  have hBuffer : (memmove u.mBuffer u.mWritePoint u.mElementStartAddr u.untilEnd).length = u.mBuffer.length :=
    length_memmove (by omega) (by omega)
  have hRead : add32 u.mUpdaterReader.mLenRead u.untilEnd = u.mUpdaterReader.mMaxLen := by
    rw [add32_of_lt (by omega)]
    omega
  refine ⟨?_, ?_, rfl⟩
  · exact {
      size := hBuffer.trans_lt hSize
      writerStore := h.writerStore
      reserved := rfl
      lenWritten := by
        change add32 u.mUpdaterWriter.mLenWritten u.untilEnd = u.mWritePoint + u.untilEnd
        rw [add32_of_lt (by omega), hLenWritten]
      freeSpace := by
        change u.mWritePoint + u.untilEnd + u.mUpdaterWriter.mRemainingLen = u.mElementStartAddr + u.untilEnd
        omega
      maxLen := by
        change add32 u.mUpdaterWriter.mMaxLen u.untilEnd = u.mElementStartAddr + u.untilEnd
        rw [add32_of_lt (by omega), hMaxLen]
      elementStart := by
        change u.mElementStartAddr + u.untilEnd ≤ u.mReadPoint + u.untilEnd
        omega
      readerStore := h.readerStore
      input := hBuffer.symm ▸ hInput
      lenRead := hRead.le
      readPoint := by
        change u.mReadPoint + u.untilEnd + u.mUpdaterReader.mMaxLen = add32 u.mUpdaterReader.mLenRead u.untilEnd +
          (memmove u.mBuffer u.mWritePoint u.mElementStartAddr u.untilEnd).length
        rw [hBuffer, hRead]
        omega }
  · change u.mReadPoint + u.untilEnd = (memmove u.mBuffer u.mWritePoint u.mElementStartAddr u.untilEnd).length
    rw [hBuffer]
    omega

section Ended

variable {r : TLVReader}

theorem elementType_of_control (hControl : r.mControlByte = none) : r.elementType = .notSpecified := by
  rw [TLVReader.elementType, hControl]

theorem skip_ended (hControl : r.mControlByte = none) : TLV.skip r = (.ok (), r.clearElementState) := by
  have hType := elementType_of_control hControl
  exact skip_settled ⟨by rw [hType]; decide, by rw [hType]; rfl, by rw [hType]; rintro ⟨⟩⟩

section

variable (hStore : r.mBackingStore = none) (hBuf : r.mBuf = [])
include hStore hBuf

theorem readElement_ended : readElement r = (.error .endOfTLV, r) := by
  have hEnsure := ensureData_plain hStore .endOfTLV
  rw [if_pos hBuf] at hEnsure
  exact Proc.bind_error hEnsure

theorem next_ended (hControl : r.mControlByte = none) :
  TLV.next r = (.error .endOfTLV, r.clearElementState) := by
  rw [TLV.next, Proc.bind_ok (skip_ended hControl)]
  exact Proc.bind_error (readElement_ended hStore hBuf)

theorem exitContainer_ended (hControl : r.mControlByte = none) (outer : TLVType) :
  TLV.exitContainer outer r = (.error .endOfTLV, { r with mContainerOpen := false }) := by
  have hType : TLVReader.elementType { r with mContainerOpen := false } = .notSpecified := elementType_of_control hControl
  have hRead := readElement_ended (r := { r with mContainerOpen := false }) hStore hBuf
  have hLoop : skipLoop r.mContainerType (r.available + 1) 0 { r with mContainerOpen := false } =
      (.error .endOfTLV, { r with mContainerOpen := false }) := by
    rw [skipLoop, Proc.read_bind, if_neg (by rw [hType]; rintro ⟨⟨⟩, -⟩)]
    have hEnter : enterOrLeave r.mContainerType 0 { r with mContainerOpen := false } =
        (.ok 0, { r with mContainerOpen := false }) := by
      rw [enterOrLeave, Proc.read_bind, if_neg (by rw [hType]; decide), if_neg (by rw [hType]; decide)]
      rfl
    have hSkip : skipData { r with mContainerOpen := false } = (.ok (), { r with mContainerOpen := false }) := by
      rw [skipData, Proc.read_bind, if_neg (by rw [hType]; decide)]
      rfl
    rw [Proc.bind_ok hEnter, Proc.bind_ok hSkip]
    exact Proc.bind_error hRead
  have hSkipped : skipToEndOfContainer r = (.error .endOfTLV, { r with mContainerOpen := false }) := by
    rw [skipToEndOfContainer, Proc.read_bind, Proc.modify_bind]
    exact hLoop
  exact Proc.bind_error hSkipped

end

end Ended

section

variable (h : AtEnd u)
include h

theorem AtEnd.store : u.reader.mBackingStore = none := h.accounts.readerStore

theorem AtEnd.buffer : u.reader.mBuf = [] :=
  List.drop_of_length_le h.readPoint.ge

theorem AtEnd.onReader {m : ReaderM α}
  (hm : ∀ {data r}, data.length < 2 ^ 32 → Within data r → Contained data m r)
  (hShrinks : Shrinks m) (hControl : (m u.reader).2.mControlByte = none) :
  AtEnd (onReader m u).2 := by
  obtain ⟨hAccounts, hForward⟩ := h.accounts.onReader hm hShrinks
  refine ⟨hAccounts, Nat.le_antisymm hAccounts.readPoint_le ?_, hControl⟩
  exact h.readPoint.ge.trans hForward

theorem AtEnd.onWriter {m : WriterM α} (hm : Appends m) : AtEnd (onWriter m u).2 := by
  have hAccounts := h.accounts.onWriter hm
  have hReadPoint := hAccounts.readPoint
  have hBefore := h.accounts.readPoint
  have hSame := h.readPoint
  refine ⟨hAccounts, ?_, h.control⟩
  change u.mReadPoint + u.mUpdaterReader.mMaxLen = u.mUpdaterReader.mLenRead + _ at hReadPoint
  change u.mReadPoint = _
  omega

theorem AtEnd.adjustFreeSpace : AtEnd u.adjustFreeSpace := by
  refine ⟨h.accounts.adjustFreeSpace.1, ?_, ?_⟩
  · rw [TLVUpdater.adjustFreeSpace]
    split_ifs <;> exact h.readPoint
  · rw [TLVUpdater.adjustFreeSpace]
    split_ifs <;> exact h.control

end

theorem output_adjustFreeSpace : u.adjustFreeSpace.output = u.output := by
  rw [adjustFreeSpace]
  split_ifs <;> rfl

theorem AtEnd.next (h : AtEnd u) :
  (TLVUpdater.next u).1 = .error .endOfTLV ∧ (TLVUpdater.next u).2.output = u.output ∧
    AtEnd (TLVUpdater.next u).2 := by
  have hSkip := skip_ended (r := u.reader) h.control
  have hFirst : TLVUpdater.onReader TLV.skip u = (.ok (), (TLVUpdater.onReader TLV.skip u).2) :=
    Prod.ext (show (TLV.skip u.reader).1 = _ from congrArg Prod.fst hSkip) rfl
  have hSkipped : AtEnd (TLVUpdater.onReader TLV.skip u).2 :=
    h.onReader skip_contained skip_shrinks (by rw [hSkip]; rfl)
  have hAdjusted := hSkipped.adjustFreeSpace
  have hNext := next_ended hAdjusted.store hAdjusted.buffer hAdjusted.control
  have hCall : TLVUpdater.next u =
      TLVUpdater.onReader TLV.next (TLVUpdater.onReader TLV.skip u).2.adjustFreeSpace := by
    rw [TLVUpdater.next, Proc.bind_ok hFirst, Proc.modify_bind]
  rw [hCall]
  refine ⟨congrArg Prod.fst hNext, ?_, ?_⟩
  · exact output_adjustFreeSpace
  · exact hAdjusted.onReader next_contained Utilities.next_shrinks (by rw [hNext]; rfl)

theorem AtEnd.run (h : AtEnd u) (call : UpdaterCall) (hOther : call ≠ .moveUntilEnd) : AtEnd (call.run u) := by
  have hType : u.reader.elementType = .notSpecified := elementType_of_control h.control
  cases call with
  | setImplicitProfileId profileId => exact ⟨{ h.accounts with }, h.readPoint, h.control⟩
  | next => exact h.next.2.2
  | getBytes bufSize =>
    have hGet : TLV.getBytes bufSize u.reader = (.error .wrongTLVType, u.reader) := by
      rw [TLV.getBytes, Proc.read_bind, Proc.verify_bind, if_neg (by rw [hType]; decide)]
    exact h.onReader (fun hSize hWithin => getBytes_contained hSize hWithin bufSize) (getBytes_shrinks bufSize)
      (by rw [hGet]; exact h.control)
  | move =>
    have hMove : TLVUpdater.move u = (.error .invalidTLVElement, u) := by
      have hReader : u.mUpdaterReader.elementType = .notSpecified := hType
      rw [TLVUpdater.move, Proc.read_bind, Proc.verify_bind, if_pos (by rw [hReader]; decide), Proc.verify_bind,
        if_neg (by rw [TLVReader.getType, hReader]; decide)]
    change AtEnd (TLVUpdater.move u).2
    rw [hMove]
    exact h
  | moveUntilEnd => exact absurd rfl hOther
  | enterContainer =>
    have hEnter : TLVUpdater.enterContainer u = (.error .incorrectState, u) := by
      have hReader : u.mUpdaterReader.elementType = .notSpecified := hType
      rw [TLVUpdater.enterContainer, Proc.read_bind, Proc.verify_bind, if_neg (by rw [hReader]; decide)]
    change AtEnd (TLVUpdater.enterContainer u).2
    rw [hEnter]
    exact h
  | exitContainer outer =>
    have hExit := exitContainer_ended h.store h.buffer h.control outer
    have hLeft : AtEnd (TLVUpdater.onReader (TLV.exitContainer outer) u).2 :=
      h.onReader (fun hSize hWithin => exitContainer_contained hSize hWithin outer) (exitContainer_shrinks outer)
        (by rw [hExit]; exact h.control)
    have hFirst : TLVUpdater.onReader (TLV.exitContainer outer) u =
        (.error .endOfTLV, (TLVUpdater.onReader (TLV.exitContainer outer) u).2) :=
      Prod.ext (show (TLV.exitContainer outer u.reader).1 = _ from congrArg Prod.fst hExit) rfl
    change AtEnd (TLVUpdater.exitContainer outer u).2
    rw [TLVUpdater.exitContainer, Proc.bind_error hFirst]
    exact hLeft
  | put c => exact h.onWriter (writerCall_appends c)
  | startContainer tag type => exact h.onWriter (startContainer_appends tag type)
  | endContainer outer => exact h.onWriter (endContainer_appends outer)

end TLVUpdater

/-- `MoveUntilEnd` is called before an element: the input has been moved, skipped or entered up to the
read point. -/
def UpdaterCall.Checked (u : TLVUpdater) : UpdaterCall → Prop
  | .moveUntilEnd => u.mReadPoint = u.mElementStartAddr
  | _ => True

instance (u : TLVUpdater) : (call : UpdaterCall) → Decidable (call.Checked u)
  | .moveUntilEnd => inferInstanceAs (Decidable (_ = _))
  | .setImplicitProfileId _ | .next | .getBytes _ | .move | .enterContainer | .exitContainer _ | .put _
  | .startContainer _ _ | .endContainer _ => isTrue trivial

namespace TLVUpdater

variable {u : TLVUpdater}

/-- Every call of a run is made in a state where it may be made. -/
def Checked : List UpdaterCall → TLVUpdater → Prop
  | [], _ => True
  | call :: calls, u => call.Checked u ∧ Checked calls (call.run u)

instance decidableChecked : (calls : List UpdaterCall) → (u : TLVUpdater) → Decidable (Checked calls u)
  | [], _ => isTrue trivial
  | call :: calls, u =>
    haveI := decidableChecked calls (call.run u)
    inferInstanceAs (Decidable (call.Checked u ∧ Checked calls (call.run u)))

theorem Accounts.run (h : Accounts u) (call : UpdaterCall) (hChecked : call.Checked u) : Accounts (call.run u) := by
  cases call with
  | setImplicitProfileId profileId => exact { h with }
  | next => exact (maintains_next u h).1
  | getBytes bufSize =>
    exact (h.onReader (fun hSize hWithin => getBytes_contained hSize hWithin bufSize) (getBytes_shrinks bufSize)).1
  | move => exact (maintains_move u h).1
  | moveUntilEnd => exact (h.moveUntilEnd hChecked).accounts
  | enterContainer => exact (maintains_enterContainer u h).1
  | exitContainer outer => exact (maintains_exitContainer outer u h).1
  | put c => exact h.onWriter (writerCall_appends c)
  | startContainer tag type => exact h.onWriter (startContainer_appends tag type)
  | endContainer outer => exact h.onWriter (endContainer_appends outer)

theorem Accounts.after (h : Accounts u) (calls : List UpdaterCall) (hChecked : Checked calls u) :
  Accounts (after calls u) := by
  induction calls generalizing u with
  | nil => exact h
  | cons call calls ih => exact ih (h.run call hChecked.1) hChecked.2

theorem AtEnd.after (h : AtEnd u) (calls : List UpdaterCall) (hChecked : Checked calls u) :
  AtEnd (after calls u) := by
  induction calls generalizing u with
  | nil => exact h
  | cons call calls ih =>
    refine ih ?_ hChecked.2
    by_cases hMove : call = .moveUntilEnd
    · subst hMove
      exact h.accounts.moveUntilEnd hChecked.1
    · exact h.run call hMove

theorem Accounts.atEnd_after (h : Accounts u) (calls : List UpdaterCall) (hChecked : Checked calls u)
  (hMoved : UpdaterCall.moveUntilEnd ∈ calls) : AtEnd (TLVUpdater.after calls u) := by
  induction calls generalizing u with
  | nil => cases hMoved
  | cons call calls ih =>
    by_cases hMove : call = .moveUntilEnd
    · subst hMove
      exact (h.moveUntilEnd hChecked.1).after calls hChecked.2
    · exact ih (h.run call hChecked.1) hChecked.2 ((List.mem_cons.mp hMoved).resolve_left (Ne.symm hMove))

/-- The reader has read the whole head of the element that it is on. -/
def HeadRead (r : TLVReader) : Prop := ∀ n, r.getElementHeadLength = .ok n → n ≤ r.mLenRead

/-- The two ways in which an updater is initialised, on input with free space behind it. -/
inductive Initialised : TLVUpdater → Prop where
  | buffer (data free : Bytes) {u : TLVUpdater} (hSize : (data ++ free).length < 2 ^ 32)
      (hInit : init (data ++ free) data.length (data ++ free).length = .ok u) : Initialised u
  | reader (data free : Bytes) {aReader : TLVReader} {u : TLVUpdater} (hSize : (data ++ free).length < 2 ^ 32)
      (hWithin : Within data aReader) (hHead : HeadRead aReader)
      (hInit : initReader (data ++ free) aReader free.length = .ok u) : Initialised u

theorem accounts_initBuffer {data free : Bytes} (hSize : (data ++ free).length < 2 ^ 32) :
  Accounts (initBuffer (data ++ free) data.length free.length) := by
  rw [List.length_append] at hSize
  have hBuffer : (memmove (data ++ free) free.length 0 data.length).length = free.length + data.length := by
    rw [length_memmove (by simp) (by simp [Nat.add_comm]), List.length_append, Nat.add_comm]
  have hRead : min data.length (2 ^ 32 - 1) = data.length := Nat.min_eq_left (by omega)
  have hFree : min free.length (2 ^ 32 - 1) = free.length := Nat.min_eq_left (by omega)
  exact {
    size := by
      change (memmove (data ++ free) free.length 0 data.length).length < 2 ^ 32
      omega
    writerStore := rfl
    reserved := rfl
    lenWritten := rfl
    freeSpace := (Nat.zero_add _).trans hFree
    maxLen := hFree
    elementStart := Nat.le_refl _
    readerStore := rfl
    input := by
      change min data.length (2 ^ 32 - 1) ≤ (memmove (data ++ free) free.length 0 data.length).length
      omega
    lenRead := Nat.zero_le _
    readPoint := by
      change free.length + min data.length (2 ^ 32 - 1) =
        0 + (memmove (data ++ free) free.length 0 data.length).length
      omega }

theorem accounts_initAt {data free : Bytes} {aReader : TLVReader} (hSize : (data ++ free).length < 2 ^ 32)
  (hWithin : Within data aReader) {elemHeadLen : Nat} (hHead : elemHeadLen ≤ aReader.mLenRead) :
  Accounts (initAt (data ++ free) aReader free.length elemHeadLen) := by
  rw [List.length_append] at hSize
  have hMaxLen := hWithin.maxLen
  have hLenRead := hWithin.lenRead
  have hRead : sub32 aReader.mLenRead elemHeadLen = aReader.mLenRead - elemHeadLen := sub32_of_le (by omega) hHead
  have hRemaining : add32 (sub32 aReader.mMaxLen aReader.mLenRead) elemHeadLen =
      data.length - (aReader.mLenRead - elemHeadLen) := by
    rw [sub32_of_le (by omega) (by omega), add32_of_lt (by omega), hMaxLen]
    omega
  have hWritten : add32 (aReader.mLenRead - elemHeadLen) free.length =
      aReader.mLenRead - elemHeadLen + free.length := add32_of_lt (by omega)
  have hBuffer : (initAt (data ++ free) aReader free.length elemHeadLen).mBuffer.length =
      data.length + free.length := by
    rw [initAt, hRemaining]
    dsimp only
    rw [List.length_take, length_memmove (by rw [List.length_append]; omega) (by rw [List.length_append]; omega),
      List.length_append]
    omega
  exact {
    size := by omega
    writerStore := rfl
    reserved := rfl
    lenWritten := hRead
    freeSpace := rfl
    maxLen := (congrArg (fun n => add32 n free.length) hRead).trans hWritten
    elementStart := Nat.le_refl _
    readerStore := rfl
    input := by
      rw [hBuffer]
      change aReader.mMaxLen ≤ _
      omega
    lenRead := by
      change sub32 aReader.mLenRead elemHeadLen ≤ aReader.mMaxLen
      omega
    readPoint := by
      rw [hBuffer]
      change aReader.mLenRead - elemHeadLen + free.length + aReader.mMaxLen = sub32 aReader.mLenRead elemHeadLen + _
      omega }

theorem Initialised.accounts (h : Initialised u) : Accounts u := by
  cases h with
  | buffer data free hSize hInit =>
    rw [List.length_append, init, if_pos (Nat.le_add_right _ _), Nat.add_sub_cancel_left] at hInit
    cases hInit
    exact accounts_initBuffer hSize
  | reader data free hSize hWithin hHead hInit =>
    rename_i aReader
    rw [initReader, if_neg (by rw [hWithin.store]; simp)] at hInit
    split_ifs at hInit
    · cases hInit
      exact accounts_initAt hSize hWithin (Nat.zero_le _)
    · cases hLength : aReader.getElementHeadLength with
      | error e =>
        rw [hLength] at hInit
        cases hInit
      | ok elemHeadLen =>
        rw [hLength] at hInit
        cases hInit
        exact accounts_initAt hSize hWithin (hHead _ hLength)

/-- An updater that calls `MoveUntilEnd` before elements only keeps its account of the buffer in every
state, and finds no element after that call. -/
theorem after_inStep (hInit : Initialised u) (calls : List UpdaterCall) (hChecked : Checked calls u) :
    InStep (after calls u) ∧ (UpdaterCall.moveUntilEnd ∈ calls →
      (TLVUpdater.next (after calls u)).1 = .error .endOfTLV ∧
      (TLVUpdater.next (after calls u)).2.output = (after calls u).output) := by
  refine ⟨(hInit.accounts.after calls hChecked).inStep, fun hMoved => ?_⟩
  obtain ⟨hEnd, hOutput, -⟩ := (hInit.accounts.atEnd_after calls hChecked hMoved).next
  exact ⟨hEnd, hOutput⟩

/-- A structure of one number, to which another number is added before the rest is moved. -/
def twoNumbers : TLVUpdater := initBuffer ([0x15, 0x24, 0x01, 0x05, 0x18] ++ [0, 0, 0]) 5 3

def addNumber : List UpdaterCall :=
  [.next, .enterContainer, .put (.putUInt64 (contextTag 2) 7), .moveUntilEnd]

theorem after_inStep_twoNumbers : Checked addNumber twoNumbers ∧
    InStep (after addNumber twoNumbers) ∧ (UpdaterCall.moveUntilEnd ∈ addNumber →
      (TLVUpdater.next (after addNumber twoNumbers)).1 = .error .endOfTLV ∧
      (TLVUpdater.next (after addNumber twoNumbers)).2.output = (after addNumber twoNumbers).output) :=
  have hChecked : Checked addNumber twoNumbers := by decide
  ⟨hChecked, after_inStep (.buffer [0x15, 0x24, 0x01, 0x05, 0x18] [0, 0, 0] (by decide) rfl) addNumber hChecked⟩

example : (after addNumber twoNumbers).output = [0x15, 0x24, 0x02, 0x07, 0x24, 0x01, 0x05, 0x18] := by decide

/-- `MoveUntilEnd` on the first of two elements adds the length of both to a read point that is behind the
head of the first. -/
theorem moveUntilEnd_overrun : ∃ u, init [0x08, 0x09] 2 2 = .ok u ∧
    (after [.next, .moveUntilEnd] u).mReadPoint = 3 ∧ (after [.next, .moveUntilEnd] u).mBuffer = [0x08, 0x09] ∧
    ¬ InStep (after [.next, .moveUntilEnd] u) := by
  refine ⟨_, rfl, by decide, by decide, fun hInStep => ?_⟩
  exact absurd hInStep.readPoint (by decide)

end TLVUpdater

end Chip.TLV
