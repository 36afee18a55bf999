import Chip.TLV.ReaderSpec
import Chip.TLV.Session
import Chip.TLV.Writing

/-! The room reserved for container terminators. While every write stays in what
the limit test covers, the bytes written and the terminators still owed fit the
limit the writer was given. -/
namespace Chip.TLV

open Proc Session TLVWriter TLVWriter

def Bounded (w w' : TLVWriter) : Prop :=
  ∃ q, Wrote q w w' ∧ w.mLenWritten + q.length ≤ w.mMaxLen

/-- The writer has not passed its limit, which is a `uint32_t`. -/
structure UnderLimit (w : TLVWriter) : Prop where
  limit : w.mLenWritten ≤ w.mMaxLen
  bound : w.mMaxLen < 2 ^ 32

variable {w : TLVWriter} {elemType : TLVElementType} {tag : Tag} {lenOrVal dataLen pieceLen : Nat}
  {w₀ : TLVWriter} {s : Session}

theorem UnderLimit.lt (h : UnderLimit w) : w.mLenWritten < 2 ^ 32 :=
  Nat.lt_of_le_of_lt h.limit h.bound

theorem Bounded.refl (h : UnderLimit w) : Bounded w w :=
  ⟨[], Wrote.nil h.lt, by simpa using h.limit⟩

theorem Bounded.lenWritten {w w' : TLVWriter} {q : Bytes} (hLimit : UnderLimit w)
  (hWrote : Wrote q w w') (h : w.mLenWritten + q.length ≤ w.mMaxLen) :
  w'.mLenWritten = w.mLenWritten + q.length := by
  have := hLimit.bound
  rw [hWrote.lenWritten, add32_of_lt (by omega)]

theorem Bounded.underLimit {w w' : TLVWriter} (hLimit : UnderLimit w) (h : Bounded w w') :
  UnderLimit w' := by
  obtain ⟨q, hWrote, hq⟩ := h
  have hLen := Bounded.lenWritten hLimit hWrote hq
  exact ⟨by rw [hLen, hWrote.maxLen]; exact hq, hWrote.maxLen ▸ hLimit.bound⟩

theorem Bounded.trans {w w' w'' : TLVWriter} (hLimit : UnderLimit w) (first : Bounded w w')
  (second : Bounded w' w'') : Bounded w w'' := by
  obtain ⟨p, hp, hpLen⟩ := first
  obtain ⟨q, hq, hqLen⟩ := second
  refine ⟨p ++ q, hp.trans hq, ?_⟩
  rw [Bounded.lenWritten hLimit hp hpLen, hp.maxLen] at hqLen
  rw [List.length_append]
  omega

theorem Bounded.bind {α β : Type} {m : WriterM α} {f : α → WriterM β} (hLimit : UnderLimit w)
  (hm : Bounded w (m w).2) (hf : ∀ a w', m w = (.ok a, w') → Bounded w' (f a w').2) :
  Bounded w ((m >>= f) w).2 := by
  cases hmw : m w with
  | mk result w' =>
    rw [hmw] at hm
    cases result with
    | error e =>
      rw [bind_error hmw]
      exact hm
    | ok a =>
      rw [bind_ok hmw]
      exact hm.trans hLimit (hf a w' hmw)

theorem writeData_bounded {p : Bytes} (hLimit : UnderLimit w) (hSum : w.mLenWritten + p.length < 2 ^ 32) :
  Bounded w (writeData p w).2 := by
  obtain ⟨q, hPrefix, hWrote, _, hTest⟩ := writeData_spec p w hLimit.lt
  refine ⟨q, hWrote, ?_⟩
  by_cases hq : q = []
  · simpa [hq] using hLimit.limit
  · have hSum' := hTest hq
    rw [add32_of_lt hSum] at hSum'
    have := hPrefix.length_le
    omega

theorem writeElementHead_bounded (hLimit : UnderLimit w)
  (h : WritesChecked w w.mMaxLen (elemType, tag, lenOrVal) dataLen pieceLen) :
  Bounded w (writeElementHead elemType tag lenOrVal w).2 := by
  obtain ⟨q, hWrote, _, hPart⟩ := writeElementHead_spec elemType tag lenOrVal w hLimit.lt
  refine ⟨q, hWrote, ?_⟩
  by_cases hq : q = []
  · simpa [hq] using hLimit.limit
  · obtain ⟨head, hHead, hPrefix, hPath⟩ := hPart hq
    obtain ⟨hDirect, hSum, _⟩ := h head hHead
    have hLength := hPrefix.length_le
    rcases hPath with hPath | hPath
    · have := hDirect hPath.1 hPath.2
      omega
    · rw [add32_of_lt (by omega)] at hPath
      omega

theorem writeElementHead_fits {w w' : TLVWriter} (hLimit : UnderLimit w)
  (h : WritesChecked w w.mMaxLen (elemType, tag, lenOrVal) dataLen pieceLen)
  (hOk : writeElementHead elemType tag lenOrVal w = (.ok (), w')) :
  ∃ head, elementHead w.mContainerType w.implicitProfileId elemType tag lenOrVal = .ok head ∧
    Wrote head w w' ∧ w.mLenWritten + head.length ≤ w.mMaxLen := by
  have hBounded := writeElementHead_bounded hLimit h
  rw [hOk] at hBounded
  have hUnder := (hBounded.underLimit hLimit).limit
  obtain ⟨q, hWrote, hHead, _⟩ := writeElementHead_spec elemType tag lenOrVal w hLimit.lt
  rw [hOk] at hWrote hHead
  obtain ⟨_, hSum, _⟩ := h q (hHead rfl).2
  rw [hWrote.lenWritten, hWrote.maxLen, add32_of_lt hSum] at hUnder
  exact ⟨q, (hHead rfl).2, hWrote, hUnder⟩

theorem writeElementHead_sum {w w' : TLVWriter} (hLimit : UnderLimit w)
  (h : WritesChecked w w.mMaxLen (elemType, tag, lenOrVal) dataLen pieceLen)
  (hOk : writeElementHead elemType tag lenOrVal w = (.ok (), w')) :
  min (w'.mMaxLen + pieceLen) (w'.mLenWritten + dataLen) < 2 ^ 32 := by
  obtain ⟨head, hHead, hWrote, hFits⟩ := writeElementHead_fits hLimit h hOk
  obtain ⟨_, hSum, hData⟩ := h head hHead
  rw [hWrote.lenWritten, hWrote.maxLen, add32_of_lt hSum]
  exact hData hFits

theorem headThenData_bounded {lenOrVal : Nat} {data : Bytes} (hLimit : UnderLimit w)
  (h : WritesChecked w w.mMaxLen (elemType, tag, lenOrVal) data.length data.length) :
  Bounded w ((writeElementHead elemType tag lenOrVal >>= fun _ => writeData data) w).2 := by
  have hHead := writeElementHead_bounded hLimit h
  refine hHead.bind hLimit fun _ w' hOk => ?_
  rw [hOk] at hHead
  have hLimit' := hHead.underLimit hLimit
  have hSum := writeElementHead_sum hLimit h hOk
  have hUnder : w'.mLenWritten ≤ w'.mMaxLen := hLimit'.limit
  exact writeData_bounded hLimit' (by omega)

theorem copyDataLoop_bounded (fuel copyDataLen : Nat) (reader : TLVReader) (hLimit : UnderLimit w)
  (hSum : min (w.mMaxLen + tlvCopyChunkSize) (w.mLenWritten + copyDataLen) < 2 ^ 32) :
  Bounded w (copyDataLoop fuel copyDataLen reader w).2 := by
  induction fuel generalizing copyDataLen reader w with
  | zero =>
    by_cases hZero : copyDataLen = 0 <;> simpa [copyDataLoop, hZero] using Bounded.refl hLimit
  | succ fuel ih =>
    by_cases hZero : copyDataLen = 0
    · simpa [copyDataLoop, hZero] using Bounded.refl hLimit
    simp only [copyDataLoop, if_neg hZero]
    cases hRead : readData (min copyDataLen tlvCopyChunkSize) reader with
    | mk result reader' =>
      cases result with
      | error e => exact Bounded.refl hLimit
      | ok chunk =>
        have hChunk : chunk.length = min copyDataLen tlvCopyChunkSize :=
          readDataLoop_length _ _ hRead
        have hUnder := hLimit.limit
        have hPiece : w.mLenWritten + chunk.length < 2 ^ 32 := by omega
        have hWrite := writeData_bounded hLimit hPiece
        refine hWrite.bind hLimit fun _ w' hOk => ?_
        rw [hOk] at hWrite
        have hWrote := writeData_wrote hLimit.lt hOk
        refine ih _ reader' (hWrite.underLimit hLimit) ?_
        rw [hWrote.lenWritten, hWrote.maxLen, add32_of_lt hPiece, hChunk]
        omega

theorem copyElement_bounded {reader : TLVReader} (hLimit : UnderLimit w)
  (h : WritesChecked w w.mMaxLen (WriterCall.copyElement tag reader).head
    (WriterCall.copyElement tag reader).dataLen tlvCopyChunkSize) :
  Bounded w (copyElement tag reader w).2 := by
  unfold copyElement
  by_cases hState : reader.elementType ≠ .notSpecified ∧ reader.elementType ≠ .endOfContainer
  swap
  · rw [verify_bind, if_neg hState]
    exact Bounded.refl hLimit
  rw [verify_bind, if_pos hState]
  cases hSkip : skip reader with
  | mk result skipped =>
    cases result with
    | error e => exact Bounded.refl hLimit
    | ok value =>
      simp only [WriterCall.dataLen, hSkip] at h
      have hHead := writeElementHead_bounded hLimit h
      refine hHead.bind hLimit fun _ w' hOk => ?_
      rw [hOk] at hHead
      have hLimit' := hHead.underLimit hLimit
      have hCopy := copyDataLoop_bounded
        (sub32 skipped.getLengthRead reader.getLengthRead) _
        { reader with mBackingStore := skipped.mBackingStore } hLimit'
        (writeElementHead_sum hLimit h hOk)
      refine hCopy.bind hLimit' fun _ w'' hCopyOk => ?_
      have hBounded : Bounded w' w'' := by
        rw [show w'' = _ from (congrArg Prod.snd hCopyOk).symm]
        exact hCopy
      exact Bounded.refl (hBounded.underLimit hLimit')

theorem WriterCall.run_bounded (c : WriterCall) (hLimit : UnderLimit w)
  (h : WritesChecked w w.mMaxLen c.head c.dataLen c.pieceLen) : Bounded w (c.run w).2 := by
  cases c with
  | putUIntPreserveSize tag size v => cases size <;> exact writeElementHead_bounded hLimit h
  | putIntPreserveSize tag size v => cases size <;> exact writeElementHead_bounded hLimit h
  | putBytes tag data => exact headThenData_bounded hLimit h
  | putString tag data => exact headThenData_bounded hLimit h
  | putStringF tag formatted =>
    simp only [WriterCall.run, TLV.putStringF, verify_bind]
    split_ifs
    · have hHead := writeElementHead_bounded hLimit h
      refine hHead.bind hLimit fun _ w' hOk => ?_
      rw [hOk] at hHead
      have hLimit' := hHead.underLimit hLimit
      simp only [read_bind, verify_bind]
      split_ifs with hTest
      · exact writeData_bounded hLimit' (Nat.lt_of_le_of_lt hTest hLimit'.bound)
      · exact Bounded.refl hLimit'
    · exact Bounded.refl hLimit
  | putPreEncodedContainer tag containerType data =>
    simp only [WriterCall.run, TLV.putPreEncodedContainer, verify_bind]
    split_ifs
    · exact headThenData_bounded hLimit h
    · exact Bounded.refl hLimit
  | copyElement tag reader =>
    have hCopy := copyElement_bounded hLimit h
    refine hCopy.bind hLimit fun _ w' hOk => ?_
    rw [hOk] at hCopy
    exact Bounded.refl (hCopy.underLimit hLimit)
  | _ => exact writeElementHead_bounded hLimit h

/-- `w` writes to the same kind of output as the fresh writer `w₀`: to a store, or
to the rest of one contiguous buffer. -/
structure OnBuffer (w₀ w : TLVWriter) : Prop where
  store : w.mBackingStore = none ↔ w₀.mBackingStore = none
  room : w.mBackingStore = none → w.emitted.length + w.mRemainingLen = w₀.mMaxLen

theorem OnBuffer.emits {w₀ w w' : TLVWriter} {q : Bytes} (h : OnBuffer w₀ w)
  (hEmits : Emits q w w') : OnBuffer w₀ w' := by
  have hStore : w'.mBackingStore = none ↔ w.mBackingStore = none :=
    ⟨fun hNone => by_contra fun hSome => hEmits.chunked hSome hNone,
      fun hNone => (hEmits.contiguous hNone).1⟩
  refine ⟨hStore.trans h.store, fun hNone => ?_⟩
  have hRoom := h.room (hStore.mp hNone)
  obtain ⟨_, hRemaining⟩ := hEmits.contiguous (hStore.mp hNone)
  rw [hEmits.emitted, List.length_append]
  omega

/-- A writer with `owed` terminators to come, its own and those of the writers
around it: what is written, what its limit still allows and what is owed add up to
the limit `w₀` that the outermost writer was given. -/
structure Limits (w₀ : TLVWriter) (owed : Nat) (w : TLVWriter) : Prop where
  buffer : OnBuffer w₀ w
  reserved : w.mCloseContainerReserved = true
  containerOpen : w.mContainerOpen = false
  under : UnderLimit w
  total : w.emitted.length + w.mMaxLen + owed = w₀.mMaxLen + w.mLenWritten

theorem Limits.bounded {owed : Nat} {w w' : TLVWriter} (h : Limits w₀ owed w) (hBounded : Bounded w w') :
  Limits w₀ owed w' := by
  have hUnder := hBounded.underLimit h.under
  obtain ⟨q, hWrote, hq⟩ := hBounded
  have hLen := Bounded.lenWritten h.under hWrote hq
  have hTotal := h.total
  exact {
    buffer := h.buffer.emits hWrote.toEmits
    reserved := hWrote.reserved.trans h.reserved
    containerOpen := hWrote.containerOpen.trans h.containerOpen
    under := hUnder
    total := by
      rw [hWrote.emitted, List.length_append, hWrote.maxLen, hLen]
      omega }

/-- What the open containers need to be closed: the limit and the container type
of the writer in use, and for each waiting parent a limit that agrees with the
limit handed to its container writer. -/
def Chain : List Frame → Nat → TLVType → Prop
  | [], _, type => type = .notSpecified
  | .started outer :: rest, maxLen, type =>
    type.isContainer = true ∧ maxLen + 1 < 2 ^ 32 ∧ Chain rest (maxLen + 1) outer
  | .opened parent :: rest, maxLen, type =>
    type.isContainer = true ∧ parent.mCloseContainerReserved = true ∧
      parent.mLenWritten + maxLen = parent.mMaxLen ∧ parent.mMaxLen + 1 < 2 ^ 32 ∧
      Chain rest (parent.mMaxLen + 1) parent.mContainerType

structure SessionInv (w₀ : TLVWriter) (s : Session) : Prop where
  limits : Limits w₀ s.frames.length s.writer
  chain : Chain s.frames s.writer.mMaxLen s.writer.mContainerType

theorem SessionInv.fits (h : SessionInv w₀ s) :
  s.bytesWritten + s.openContainers ≤ w₀.mMaxLen := by
  have hTotal := h.limits.total
  have hLimit := h.limits.under.limit
  simp only [bytesWritten, openContainers]
  omega

theorem SessionInv.bounded (h : SessionInv w₀ s) (hBounded : Bounded s.writer w) :
  SessionInv w₀ { s with writer := w } := by
  refine ⟨h.limits.bounded hBounded, ?_⟩
  obtain ⟨q, hWrote, _⟩ := hBounded
  show Chain s.frames w.mMaxLen w.mContainerType
  rw [hWrote.maxLen, hWrote.containerType]
  exact h.chain

theorem writeContainerHead_checked {type : TLVType} (hLimit : UnderLimit w)
  (hReserved : w.mCloseContainerReserved = true)
  (h : WritesChecked w (w.mMaxLen - endOfContainerMarkerSize) (type.toElementType, tag, 0) 0 0) :
  (∃ e w', writeContainerHead tag type w = (.error e, w') ∧ Bounded w w') ∨
  (∃ w' head, writeContainerHead tag type w = (.ok (), w') ∧ type.isContainer = true ∧
    1 ≤ w.mMaxLen ∧
    elementHead w.mContainerType w.implicitProfileId type.toElementType tag 0 = .ok head ∧
    Wrote head { w with mMaxLen := w.mMaxLen - 1 } w' ∧
    w.mLenWritten + head.length ≤ w.mMaxLen - 1) := by
  have hLess : w.reservedMaxLen = w.mMaxLen - 1 := by
    simp [reservedMaxLen, hReserved, endOfContainerMarkerSize]
  have hFits : ∀ head, elementHead w.mContainerType w.implicitProfileId type.toElementType tag 0 =
      .ok head → ({ w with mMaxLen := w.reservedMaxLen }.writesDirectly ∨
        add32 w.mLenWritten head.length ≤ w.reservedMaxLen) →
      w.mLenWritten + head.length ≤ w.mMaxLen - 1 := by
    intro head hHead hPath
    obtain ⟨hDirect, hSum, _⟩ := h head hHead
    rw [hLess] at hPath
    rcases hPath with hPath | hPath
    · exact hDirect hPath.1 hPath.2
    · rwa [add32_of_lt (by omega)] at hPath
  rcases writeContainerHead_spec tag type w hLimit.lt hLimit.bound with
    ⟨e, w', hCall, q, hWrote, hPart⟩ | ⟨w', head, hCall, hType, hMarker, _, hHead, hWrote, hPath⟩
  · refine .inl ⟨e, w', hCall, q, hWrote, ?_⟩
    by_cases hq : q = []
    · simpa [hq] using hLimit.limit
    · obtain ⟨_, _, head, hHead, hPrefix, hPath⟩ := hPart hq
      have hHeadFits := hFits head hHead hPath
      have hLength := hPrefix.length_le
      omega
  · rw [hLess] at hWrote
    exact .inr ⟨w', head, hCall, hType, hMarker hReserved, hHead, hWrote, hFits head hHead hPath⟩

theorem SessionInv.startContainer (h : SessionInv w₀ s) {type : TLVType}
  (hChecked : (SessionOp.startContainer tag type).Checked s) :
  SessionInv w₀ ((SessionOp.startContainer tag type).run s).2 := by
  have hUnder := h.limits.under
  rcases writeContainerHead_checked hUnder h.limits.reserved hChecked with
    ⟨e, w', hCall, hBounded⟩ | ⟨w', head, hCall, hType, hMarker, _, hWrote, hFits⟩
  · rw [SessionOp.startContainer_run, hCall]
    exact h.bounded hBounded
  · rw [SessionOp.startContainer_run, hCall]
    have hBound := hUnder.bound
    have hTotal := h.limits.total
    have hLen : w'.mLenWritten = s.writer.mLenWritten + head.length := by
      rw [hWrote.lenWritten]
      exact add32_of_lt (by simp only; omega)
    have hMax : w'.mMaxLen = s.writer.mMaxLen - 1 := hWrote.maxLen
    have hEmitted : w'.emitted = s.writer.emitted ++ head := hWrote.emitted
    have hReservedBuffer : OnBuffer w₀ { s.writer with mMaxLen := s.writer.mMaxLen - 1 } :=
      ⟨h.limits.buffer.store, h.limits.buffer.room⟩
    have hBuffer := hReservedBuffer.emits hWrote.toEmits
    refine ⟨⟨⟨hBuffer.store, hBuffer.room⟩, hWrote.reserved.trans h.limits.reserved, rfl, ⟨?_, ?_⟩, ?_⟩, hType, ?_, ?_⟩
    · show w'.mLenWritten ≤ w'.mMaxLen
      omega
    · show w'.mMaxLen < 2 ^ 32
      omega
    · show w'.emitted.length + w'.mMaxLen + (s.frames.length + 1) = w₀.mMaxLen + w'.mLenWritten
      rw [hEmitted, List.length_append]
      omega
    · show w'.mMaxLen + 1 < 2 ^ 32
      omega
    · show Chain s.frames (w'.mMaxLen + 1) w'.mContainerType
      have hOuter : w'.mContainerType = s.writer.mContainerType := hWrote.containerType
      rw [hOuter, show w'.mMaxLen + 1 = s.writer.mMaxLen by omega]
      exact h.chain

theorem SessionInv.openContainer (h : SessionInv w₀ s) {type : TLVType}
  (hChecked : (SessionOp.openContainer tag type).Checked s) :
  SessionInv w₀ ((SessionOp.openContainer tag type).run s).2 := by
  have hUnder := h.limits.under
  rcases writeContainerHead_checked hUnder h.limits.reserved hChecked with
    ⟨e, w', hCall, hBounded⟩ | ⟨w', head, hCall, hType, hMarker, _, hWrote, hFits⟩
  · rw [SessionOp.openContainer_run, hCall]
    exact h.bounded hBounded
  · rw [SessionOp.openContainer_run, hCall]
    have hBound := hUnder.bound
    have hTotal := h.limits.total
    have hLen : w'.mLenWritten = s.writer.mLenWritten + head.length := by
      rw [hWrote.lenWritten]
      exact add32_of_lt (by simp only; omega)
    have hMax : w'.mMaxLen = s.writer.mMaxLen - 1 := hWrote.maxLen
    have hSub : sub32 w'.mMaxLen w'.mLenWritten = w'.mMaxLen - w'.mLenWritten :=
      sub32_of_le (by omega) (by omega)
    have hEmitted : w'.emitted = s.writer.emitted ++ head := hWrote.emitted
    have hReserved : w'.mCloseContainerReserved = true := hWrote.reserved.trans h.limits.reserved
    have hReservedBuffer : OnBuffer w₀ { s.writer with mMaxLen := s.writer.mMaxLen - 1 } :=
      ⟨h.limits.buffer.store, h.limits.buffer.room⟩
    have hBuffer := hReservedBuffer.emits hWrote.toEmits
    refine ⟨⟨⟨hBuffer.store, hBuffer.room⟩, hReserved, rfl, ⟨Nat.zero_le _, ?_⟩, ?_⟩, hType, hReserved, ?_, ?_, ?_⟩
    · show sub32 w'.mMaxLen w'.mLenWritten < 2 ^ 32
      omega
    · show w'.emitted.length + sub32 w'.mMaxLen w'.mLenWritten + (s.frames.length + 1) = w₀.mMaxLen + 0
      rw [hEmitted, List.length_append]
      omega
    · show w'.mLenWritten + sub32 w'.mMaxLen w'.mLenWritten = w'.mMaxLen
      omega
    · show w'.mMaxLen + 1 < 2 ^ 32
      omega
    · show Chain s.frames (w'.mMaxLen + 1) w'.mContainerType
      have hOuter : w'.mContainerType = s.writer.mContainerType := hWrote.containerType
      rw [hOuter, show w'.mMaxLen + 1 = s.writer.mMaxLen by omega]
      exact h.chain

/-- The writer that writes a container's terminator, from the one that wrote its
members: the reserved byte is released, and a waiting parent takes over the buffer. -/
def Frame.resume : Frame → TLVWriter → TLVWriter
  | .started outer, w => { w with mMaxLen := w.mMaxLen + 1, mContainerType := outer }
  | .opened parent, w =>
    { parent with
      mBackingStore := w.mBackingStore
      mBuf := w.mBuf
      mRemainingLen := w.mRemainingLen
      mLenWritten := parent.mLenWritten + w.mLenWritten
      mMaxLen := parent.mMaxLen + 1
      mContainerOpen := false }

theorem Frame.resume_store (frame : Frame) (w : TLVWriter) :
  (frame.resume w).mBackingStore = w.mBackingStore := by
  cases frame <;> rfl

theorem closeInnermost_spec (h : SessionInv w₀ s) {frame : Frame} {rest : List Frame}
  (hFrames : s.frames = frame :: rest) :
  closeInnermost s =
      ((writeElementHead .endOfContainer anonymousTag 0 (frame.resume s.writer)).1,
        ⟨(writeElementHead .endOfContainer anonymousTag 0 (frame.resume s.writer)).2, rest⟩) ∧
    SessionInv w₀ ⟨frame.resume s.writer, rest⟩ ∧
    (frame.resume s.writer).mLenWritten + 1 ≤ (frame.resume s.writer).mMaxLen := by
  have hUnder := h.limits.under
  have hLimit := hUnder.limit
  have hBound := hUnder.bound
  have hTotal := h.limits.total
  have hChain := h.chain
  rw [hFrames] at hChain hTotal
  rw [List.length_cons] at hTotal
  cases frame with
  | started outer =>
    obtain ⟨hType, hNoWrap, hRest⟩ := hChain
    have hEnd : endContainer outer s.writer =
        writeElementHead .endOfContainer anonymousTag 0 (Frame.resume (.started outer) s.writer) := by
      simp only [endContainer, read_bind, verify_bind, if_pos hType, modify_bind,
        releaseCloseContainer, h.limits.reserved, if_true, endOfContainerMarkerSize,
        add32_of_lt hNoWrap, Frame.resume]
    refine ⟨?_, ⟨⟨⟨h.limits.buffer.store, h.limits.buffer.room⟩, h.limits.reserved,
      h.limits.containerOpen, ⟨?_, ?_⟩, ?_⟩, hRest⟩, ?_⟩
    · simp only [closeInnermost, hFrames, hEnd]
    · show s.writer.mLenWritten ≤ s.writer.mMaxLen + 1
      omega
    · show s.writer.mMaxLen + 1 < 2 ^ 32
      omega
    · show s.writer.emitted.length + (s.writer.mMaxLen + 1) + rest.length =
        w₀.mMaxLen + s.writer.mLenWritten
      omega
    · show s.writer.mLenWritten + 1 ≤ s.writer.mMaxLen + 1
      omega
  | opened parent =>
    obtain ⟨hType, hReserved, hSplit, hNoWrap, hRest⟩ := hChain
    have hSum : add32 parent.mLenWritten s.writer.mLenWritten =
        parent.mLenWritten + s.writer.mLenWritten := add32_of_lt (by omega)
    have hClose : closeContainer s.writer parent =
        writeElementHead .endOfContainer anonymousTag 0 (Frame.resume (.opened parent) s.writer) := by
      simp only [closeContainer, verify_bind, if_pos hType, if_pos h.limits.containerOpen,
        modify_bind, releaseCloseContainer, hReserved, if_true, endOfContainerMarkerSize,
        add32_of_lt hNoWrap, hSum, Frame.resume]
    refine ⟨?_, ⟨⟨⟨h.limits.buffer.store, h.limits.buffer.room⟩, hReserved, rfl, ⟨?_, ?_⟩, ?_⟩,
      hRest⟩, ?_⟩
    · simp only [closeInnermost, hFrames, hClose]
    · show parent.mLenWritten + s.writer.mLenWritten ≤ parent.mMaxLen + 1
      omega
    · exact hNoWrap
    · show s.writer.emitted.length + (parent.mMaxLen + 1) + rest.length =
        w₀.mMaxLen + (parent.mLenWritten + s.writer.mLenWritten)
      omega
    · show parent.mLenWritten + s.writer.mLenWritten + 1 ≤ parent.mMaxLen + 1
      omega

theorem closeInnermost_nil (h : SessionInv w₀ s) (hFrames : s.frames = []) :
  closeInnermost s = (.error .incorrectState, s) := by
  have hType := h.chain
  rw [hFrames] at hType
  simp only [closeInnermost, hFrames, onWriter, endContainer, read_bind, verify_bind,
    show s.writer.mContainerType = .notSpecified from hType]
  cases s
  simp_all [TLVType.isContainer]

theorem terminator_checked (hLimit : UnderLimit w) (hSpare : w.mLenWritten + 1 ≤ w.mMaxLen) :
  WritesChecked w w.mMaxLen (.endOfContainer, anonymousTag, 0) 0 0 := by
  intro bytes hBytes
  rw [elementHead_terminator] at hBytes
  cases hBytes
  have := hLimit.bound
  simp only [terminator, List.length_cons, List.length_nil]
  exact ⟨fun _ _ => by omega, by omega, fun _ => by omega⟩

theorem terminator_bounded (hLimit : UnderLimit w) (hSpare : w.mLenWritten + 1 ≤ w.mMaxLen) :
  Bounded w (writeElementHead .endOfContainer anonymousTag 0 w).2 :=
  writeElementHead_bounded hLimit (terminator_checked hLimit hSpare)

theorem SessionInv.step (h : SessionInv w₀ s) (op : SessionOp) (hChecked : op.Checked s) :
  SessionInv w₀ (op.run s).2 := by
  cases op with
  | call c => exact h.bounded (c.run_bounded h.limits.under hChecked)
  | startContainer tag type => exact h.startContainer hChecked
  | openContainer tag type => exact h.openContainer hChecked
  | close =>
    cases hFrames : s.frames with
    | nil =>
      rw [SessionOp.run, closeInnermost_nil h hFrames]
      exact h
    | cons frame rest =>
      obtain ⟨hClose, hInv, hSpare⟩ := closeInnermost_spec h hFrames
      rw [SessionOp.run, hClose]
      exact hInv.bounded (terminator_bounded hInv.limits.under hSpare)

theorem SessionInv.after (ops : List SessionOp) (h : SessionInv w₀ s) (hChecked : Session.Checked ops s) :
  SessionInv w₀ (after ops s) := by
  induction ops generalizing s with
  | nil => exact h
  | cons op ops ih => exact ih (h.step op hChecked.1) hChecked.2

theorem SessionInv.closeAll (h : SessionInv w₀ s) (hStore : s.writer.mBackingStore = none) :
  (TLV.closeAll s.openContainers s).1 = .ok () := by
  unfold openContainers
  induction hFrames : s.frames generalizing s with
  | nil => rfl
  | cons frame rest ih =>
    obtain ⟨hClose, hInv, hSpare⟩ := closeInnermost_spec h hFrames
    generalize hResume : frame.resume s.writer = w at hClose hInv hSpare
    have hNone : w.mBackingStore = none := by rw [← hResume, frame.resume_store, hStore]
    have hUnder := hInv.limits.under
    have hTotal := hInv.limits.total
    have hBuffer := hInv.limits.buffer.room hNone
    have hBound := hUnder.bound
    have hRoom : HasRoom terminator.length w :=
      { store := hNone
        containerOpen := hInv.limits.containerOpen
        limit := hSpare
        bound := hBound
        buffer := by
          simp only [terminator, List.length_cons, List.length_nil]
          simp only at hTotal hBuffer
          omega }
    obtain ⟨w', hWrite⟩ := HasRoom.writeElementHead (elementHead_terminator _ _) hRoom
    have hNext : closeInnermost s = (.ok (), ⟨w', rest⟩) := by rw [hClose, hWrite]
    have hBounded := terminator_bounded hUnder hSpare
    rw [hWrite] at hBounded
    have hWrote := writeElementHead_wrote hUnder.lt hWrite
    rw [List.length_cons, TLV.closeAll, bind_ok hNext]
    exact ih (s := ⟨w', rest⟩) (hInv.bounded hBounded) (hWrote.contiguous hNone).1 rfl

theorem sessionInv_init (maxLen : Nat) :
  SessionInv (init maxLen) (start (init maxLen)) :=
  { limits :=
      { buffer := ⟨Iff.rfl, fun _ => by simp [start, init, emitted]⟩
        reserved := rfl
        containerOpen := rfl
        under := ⟨Nat.zero_le _, by simp only [start, init]; omega⟩
        total := by simp [start, init, emitted] }
    chain := rfl }

theorem sessionInv_initBackingStore (bufLen : Nat) (pending : List (Except ChipError Nat))
  {maxLen : Nat} (hMaxLen : maxLen < 2 ^ 32) :
  SessionInv (initBackingStore bufLen pending maxLen)
    (start (initBackingStore bufLen pending maxLen)) :=
  { limits :=
      { buffer := ⟨Iff.rfl, by simp [start, initBackingStore]⟩
        reserved := rfl
        containerOpen := rfl
        under := ⟨Nat.zero_le _, hMaxLen⟩
        total := by simp [start, initBackingStore, emitted] }
    chain := rfl }

/-- An eight byte tag and an eight byte value, the longest head there is. -/
def longestHead : SessionOp := .call (.putUInt64 (profileTag 0xFFF10001 0x10000) 0x8000000000000000)

/-- Close-container reservation over whole runs. While no call writes a head on the
direct path past the limit and no tested sum wraps, the bytes written and the open
containers fit the limit, and everything open can be closed. -/
theorem openContainers_closable (maxLen : Nat) (ops : List SessionOp)
    (hChecked : Session.Checked ops (Session.start (TLVWriter.init maxLen))) :
    let s := Session.after ops (Session.start (TLVWriter.init maxLen))
    s.bytesWritten + s.openContainers ≤ maxLen ∧ (closeAll s.openContainers s).1 = .ok () := by
  intro s
  have hInv : SessionInv (TLVWriter.init maxLen) s :=
    (sessionInv_init maxLen).after ops hChecked
  have hCapacity : (TLVWriter.init maxLen).mMaxLen ≤ maxLen := Nat.min_le_left _ _
  have hStore : s.writer.mBackingStore = none := hInv.limits.buffer.store.mpr rfl
  exact ⟨hInv.fits.trans hCapacity, hInv.closeAll hStore⟩

theorem openContainers_closable_twenty :
    let s := Session.after [.startContainer anonymousTag .struct, longestHead]
      (Session.start (TLVWriter.init 20))
    s.bytesWritten + s.openContainers ≤ 20 ∧ (closeAll s.openContainers s).1 = .ok () :=
  openContainers_closable 20 [.startContainer anonymousTag .struct, longestHead]
    (by decide +kernel)

/-- In eighteen bytes one container is open when the longest head has been written,
and the direct path has taken the byte kept for its terminator. -/
theorem reservation_overrun :
    let s := Session.after [.startContainer anonymousTag .struct, longestHead]
      (Session.start (TLVWriter.init 18))
    ¬ (s.bytesWritten + s.openContainers ≤ 18 ∧ (closeAll s.openContainers s).1 = .ok ()) := by
  decide +kernel

end Chip.TLV
