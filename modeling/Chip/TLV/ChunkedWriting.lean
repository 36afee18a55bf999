import Chip.TLV.Reservation

/-! Writing through a backing store against writing to one contiguous buffer. Every
call that succeeds on the chunked writer, within what the limit test covers, also
succeeds on a contiguous twin, and both have written the same bytes. -/
namespace Chip.TLV

open Proc.Follows Session TLVWriter

structure SameConfig (w v : TLVWriter) : Prop where
  lenWritten : v.mLenWritten = w.mLenWritten
  maxLen : v.mMaxLen = w.mMaxLen
  containerType : v.mContainerType = w.mContainerType
  containerOpen : v.mContainerOpen = w.mContainerOpen
  reserved : v.mCloseContainerReserved = w.mCloseContainerReserved
  profile : v.implicitProfileId = w.implicitProfileId

/-- `v` is the contiguous twin of `w`, in a buffer as long as the limit `w₀` was
given. -/
structure Twin (w₀ w v : TLVWriter) : Prop extends SameConfig w v where
  store : v.mBackingStore = none
  emitted : v.emitted = w.emitted
  room : v.emitted.length + v.mRemainingLen = w₀.mMaxLen

section Calls

variable {w₀ w v : TLVWriter} {owed : Nat}

theorem Twin.wrote {w' v' : TLVWriter} {q : Bytes} (h : Twin w₀ w v) (hw : Wrote q w w')
  (hv : Wrote q v v') : Twin w₀ w' v' := by
  obtain ⟨hStore, hRemaining⟩ := hv.contiguous h.store
  have hRoom := h.room
  exact {
    lenWritten := by rw [hv.lenWritten, hw.lenWritten, h.lenWritten]
    maxLen := hv.maxLen.trans (h.maxLen.trans hw.maxLen.symm)
    containerType := hv.containerType.trans (h.containerType.trans hw.containerType.symm)
    containerOpen := hv.containerOpen.trans (h.containerOpen.trans hw.containerOpen.symm)
    reserved := hv.reserved.trans (h.reserved.trans hw.reserved.symm)
    profile := hv.profile.trans (h.profile.trans hw.profile.symm)
    store := hStore
    emitted := by rw [hv.emitted, hw.emitted, h.emitted]
    room := by
      rw [hv.emitted, List.length_append]
      omega }

theorem Twin.hasRoom {n : Nat} (h : Twin w₀ w v) (hLimits : Limits w₀ owed w)
  (hFits : w.mLenWritten + n ≤ w.mMaxLen) : HasRoom n v := by
  have hTotal := hLimits.total
  have hRoom := h.room
  rw [h.emitted] at hRoom
  exact {
    store := h.store
    containerOpen := h.containerOpen.trans hLimits.containerOpen
    limit := by rw [h.lenWritten, h.maxLen]; exact hFits
    bound := h.maxLen ▸ hLimits.under.bound
    buffer := by omega }

variable {tag : Tag}

section

variable (h : Twin w₀ w v) (hLimits : Limits w₀ owed w)
include h hLimits

theorem writeElementHead_follows {elemType : TLVElementType} {lenOrVal dataLen pieceLen : Nat}
  (hChecked : WritesChecked w w.mMaxLen (elemType, tag, lenOrVal) dataLen pieceLen) :
  Proc.Follows (Twin w₀) (writeElementHead elemType tag lenOrVal)
    (writeElementHead elemType tag lenOrVal) w v := by
  intro _ w' hOk
  obtain ⟨head, hHead, hWrote, hFits⟩ := writeElementHead_fits hLimits.under hChecked hOk
  have hRoom := h.hasRoom hLimits hFits
  rw [← h.containerType, ← h.profile] at hHead
  obtain ⟨v', hOk'⟩ := HasRoom.writeElementHead hHead hRoom
  have hWrote' := writeElementHead_wrote hRoom.lt hOk'
  rw [headBytes_of_ok hHead] at hWrote'
  exact ⟨v', hOk', h.wrote hWrote hWrote'⟩

theorem writeData_follows {p : Bytes} (hSum : w.mLenWritten + p.length < 2 ^ 32) :
  Proc.Follows (Twin w₀) (writeData p) (writeData p) w v := by
  intro _ w' hOk
  have hWrote := writeData_wrote hLimits.under.lt hOk
  have hBounded := writeData_bounded hLimits.under hSum
  rw [hOk] at hBounded
  have hFits : w.mLenWritten + p.length ≤ w.mMaxLen := by
    have hUnder := (hBounded.underLimit hLimits.under).limit
    rwa [hWrote.lenWritten, hWrote.maxLen, add32_of_lt hSum] at hUnder
  have hRoom := h.hasRoom hLimits hFits
  obtain ⟨v', hOk'⟩ := hRoom.writeData
  exact ⟨v', hOk', h.wrote hWrote (writeData_wrote hRoom.lt hOk')⟩

theorem headThenData_follows {elemType : TLVElementType} {lenOrVal : Nat} {data : Bytes}
  (hChecked : WritesChecked w w.mMaxLen (elemType, tag, lenOrVal) data.length data.length) :
  Proc.Follows (Twin w₀) (writeElementHead elemType tag lenOrVal >>= fun _ => writeData data)
    (writeElementHead elemType tag lenOrVal >>= fun _ => writeData data) w v := by
  refine (writeElementHead_follows h hLimits hChecked).bind fun _ w' v' hOk hTwin => ?_
  have hHead := writeElementHead_bounded hLimits.under hChecked
  rw [hOk] at hHead
  have hLimits' : Limits w₀ owed w' := hLimits.bounded hHead
  have hUnder := hLimits'.under.limit
  have hSum := writeElementHead_sum hLimits.under hChecked hOk
  exact writeData_follows hTwin hLimits' (by omega)

end

theorem copyDataLoop_follows (fuel copyDataLen : Nat) (reader : TLVReader) (h : Twin w₀ w v)
  (hLimits : Limits w₀ owed w)
  (hSum : min (w.mMaxLen + tlvCopyChunkSize) (w.mLenWritten + copyDataLen) < 2 ^ 32) :
  Proc.Follows (Twin w₀) (copyDataLoop fuel copyDataLen reader)
    (copyDataLoop fuel copyDataLen reader) w v := by
  induction fuel generalizing copyDataLen reader w v with
  | zero =>
    intro _ w' hOk
    by_cases hZero : copyDataLen = 0 <;> simp [copyDataLoop, hZero] at hOk ⊢
    exact hOk ▸ h
  | succ fuel ih =>
    unfold copyDataLoop
    by_cases hZero : copyDataLen = 0
    · simp only [if_pos hZero]
      exact pure () h
    simp only [if_neg hZero]
    cases hRead : readData (min copyDataLen tlvCopyChunkSize) reader with
    | mk result reader' =>
      cases result with
      | error e => exact fail e _
      | ok chunk =>
        have hChunk : chunk.length = min copyDataLen tlvCopyChunkSize :=
          readDataLoop_length _ _ hRead
        have hUnder := hLimits.under.limit
        have hPiece : w.mLenWritten + chunk.length < 2 ^ 32 := by omega
        refine (writeData_follows h hLimits hPiece).bind fun _ w' v' hOk hTwin => ?_
        have hWrite := writeData_bounded hLimits.under hPiece
        rw [hOk] at hWrite
        have hWrote := writeData_wrote hLimits.under.lt hOk
        refine ih _ reader' hTwin (hLimits.bounded hWrite) ?_
        rw [hWrote.lenWritten, hWrote.maxLen, add32_of_lt hPiece, hChunk]
        omega

theorem copyElement_follows {reader : TLVReader} (h : Twin w₀ w v) (hLimits : Limits w₀ owed w)
  (hChecked : WritesChecked w w.mMaxLen (WriterCall.copyElement tag reader).head
    (WriterCall.copyElement tag reader).dataLen tlvCopyChunkSize) :
  Proc.Follows (Twin w₀) (copyElement tag reader) (copyElement tag reader) w v := by
  unfold copyElement
  refine Proc.Follows.verify_bind id fun _ => ?_
  cases hSkip : skip reader with
  | mk result skipped =>
    cases result with
    | error e => exact Proc.Follows.fail e _
    | ok value =>
      simp only [WriterCall.dataLen, hSkip] at hChecked
      refine (writeElementHead_follows h hLimits hChecked).bind fun _ w' v' hOk hTwin => ?_
      have hHead := writeElementHead_bounded hLimits.under hChecked
      rw [hOk] at hHead
      have hCopy := copyDataLoop_follows (sub32 skipped.getLengthRead reader.getLengthRead) _
        { reader with mBackingStore := skipped.mBackingStore } hTwin (hLimits.bounded hHead)
        (writeElementHead_sum hLimits.under hChecked hOk)
      exact hCopy.bind fun _ w'' v'' _ hTwin' => Proc.Follows.pure skipped hTwin'

theorem WriterCall.run_follows (c : WriterCall) (h : Twin w₀ w v) (hLimits : Limits w₀ owed w)
  (hChecked : WritesChecked w w.mMaxLen c.head c.dataLen c.pieceLen) :
  Proc.Follows (Twin w₀) c.run c.run w v := by
  cases c with
  | putUIntPreserveSize tag size value =>
    cases size <;> exact writeElementHead_follows h hLimits hChecked
  | putIntPreserveSize tag size value =>
    cases size <;> exact writeElementHead_follows h hLimits hChecked
  | putBytes tag data => exact headThenData_follows h hLimits hChecked
  | putString tag data => exact headThenData_follows h hLimits hChecked
  | putStringF tag formatted =>
    refine verify_bind id fun _ => ?_
    refine (writeElementHead_follows h hLimits hChecked).bind fun _ w' v' hOk hTwin => ?_
    have hHead := writeElementHead_bounded hLimits.under hChecked
    rw [hOk] at hHead
    have hLimits' : Limits w₀ owed w' := hLimits.bounded hHead
    have hBound := hLimits'.under.bound
    intro a w'' hRest
    rw [Proc.read_bind] at hRest ⊢
    rw [hTwin.lenWritten, hTwin.maxLen]
    revert a w''
    refine verify_bind id fun hTest => ?_
    exact writeData_follows hTwin hLimits' (Nat.lt_of_le_of_lt hTest hBound)
  | putPreEncodedContainer tag containerType data =>
    exact verify_bind id fun _ => headThenData_follows h hLimits hChecked
  | copyElement tag reader =>
    exact (copyElement_follows h hLimits hChecked).bind fun _ w' v' _ hTwin =>
      pure () hTwin
  | _ => exact writeElementHead_follows h hLimits hChecked

theorem writeContainerHead_follows {type : TLVType} (h : Twin w₀ w v) (hLimits : Limits w₀ owed w)
  (hChecked : WritesChecked w (w.mMaxLen - endOfContainerMarkerSize)
    (type.toElementType, tag, 0) 0 0) :
  Proc.Follows (Twin w₀) (writeContainerHead tag type) (writeContainerHead tag type) w v := by
  intro _ w' hOk
  rcases writeContainerHead_checked hLimits.under hLimits.reserved hChecked with
    ⟨e, w₁, hCall, _⟩ | ⟨w₁, head, hCall, hType, hMarker, hHead, hWrote, hFits⟩
  · rw [hCall] at hOk
    cases hOk
  · rw [hCall] at hOk
    cases hOk
    have hRoom : HasRoom (head.length + 1) v := h.hasRoom hLimits (by omega)
    rw [← h.containerType, ← h.profile] at hHead
    obtain ⟨v', hCall', hWrote'⟩ := HasRoom.writeContainerHead hType hHead hRoom
    have hReserved : v.reservedMaxLen = w.mMaxLen - 1 := by
      rw [reservedMaxLen, h.reserved, hLimits.reserved, if_pos rfl, h.maxLen,
        endOfContainerMarkerSize]
    rw [hReserved] at hWrote'
    have hTwin : Twin w₀ { w with mMaxLen := w.mMaxLen - 1 }
        { v with mMaxLen := w.mMaxLen - 1 } :=
      { h with maxLen := rfl, emitted := h.emitted, room := h.room }
    exact ⟨v', hCall', hTwin.wrote hWrote hWrote'⟩

end Calls

/-- Open containers on both sides: the waiting parents differ in their buffers only,
which they get back from their container writers. -/
inductive FrameTwin : Frame → Frame → Prop where
  | started (outer : TLVType) : FrameTwin (.started outer) (.started outer)
  | opened {parent parent' : TLVWriter} (h : SameConfig parent parent') :
      FrameTwin (.opened parent) (.opened parent')

structure SessionTwin (w₀ : TLVWriter) (s t : Session) : Prop where
  writer : Twin w₀ s.writer t.writer
  frames : List.Forall₂ FrameTwin s.frames t.frames

section Sessions

variable {w₀ : TLVWriter} {s t : Session}

theorem onWriter_follows {α : Type} {m : WriterM α} (h : SessionTwin w₀ s t)
  (hm : Proc.Follows (Twin w₀) m m s.writer t.writer) :
  Proc.Follows (SessionTwin w₀) (onWriter m) (onWriter m) s t := by
  intro a s' hOk
  simp only [onWriter, Prod.mk.injEq] at hOk
  obtain ⟨hResult, rfl⟩ := hOk
  obtain ⟨v', hOk', hTwin⟩ := hm a _ (Prod.ext hResult rfl)
  refine ⟨{ t with writer := v' }, ?_, hTwin, h.frames⟩
  simp only [onWriter, hOk']

theorem startContainer_follows {tag : Tag} {type : TLVType} (h : SessionTwin w₀ s t)
  (hInv : SessionInv w₀ s) (hChecked : (SessionOp.startContainer tag type).Checked s) :
  Proc.Follows (SessionTwin w₀) (SessionOp.startContainer tag type).run
    (SessionOp.startContainer tag type).run s t := by
  intro _ s' hOk
  have hFollows := writeContainerHead_follows h.writer hInv.limits hChecked
  rw [SessionOp.startContainer_run] at hOk ⊢
  cases hHead : writeContainerHead tag type s.writer with
  | mk result w =>
    rw [hHead] at hOk
    cases result with
    | error e => cases hOk
    | ok value =>
      obtain ⟨v, hHead', hTwin⟩ := hFollows value w hHead
      cases hOk
      rw [hHead']
      have hFrame : FrameTwin (.started w.mContainerType) (.started v.mContainerType) := by
        rw [hTwin.containerType]
        exact .started _
      refine ⟨_, rfl, ?_, .cons hFrame h.frames⟩
      exact { hTwin with
        containerType := rfl, containerOpen := rfl, emitted := hTwin.emitted, room := hTwin.room }

theorem openContainer_follows {tag : Tag} {type : TLVType} (h : SessionTwin w₀ s t)
  (hInv : SessionInv w₀ s) (hChecked : (SessionOp.openContainer tag type).Checked s) :
  Proc.Follows (SessionTwin w₀) (SessionOp.openContainer tag type).run
    (SessionOp.openContainer tag type).run s t := by
  intro _ s' hOk
  have hFollows := writeContainerHead_follows h.writer hInv.limits hChecked
  rw [SessionOp.openContainer_run] at hOk ⊢
  cases hHead : writeContainerHead tag type s.writer with
  | mk result w =>
    rw [hHead] at hOk
    cases result with
    | error e => cases hOk
    | ok value =>
      obtain ⟨v, hHead', hTwin⟩ := hFollows value w hHead
      cases hOk
      rw [hHead']
      refine ⟨_, rfl, ?_, .cons (.opened { hTwin with containerOpen := rfl }) h.frames⟩
      exact { hTwin with
        lenWritten := rfl
        maxLen := by simp only [hTwin.maxLen, hTwin.lenWritten]
        containerType := rfl
        containerOpen := rfl
        emitted := hTwin.emitted
        room := hTwin.room }

theorem Twin.resume {w v : TLVWriter} {frame frame' : Frame} (h : Twin w₀ w v)
  (hFrame : FrameTwin frame frame') : Twin w₀ (frame.resume w) (frame'.resume v) := by
  cases hFrame with
  | started outer =>
    exact { h with
      maxLen := congrArg (· + 1) h.maxLen, containerType := rfl
      emitted := h.emitted, room := h.room }
  | opened hParent =>
    exact { hParent with
      lenWritten := by simp only [Frame.resume, hParent.lenWritten, h.lenWritten]
      maxLen := congrArg (· + 1) hParent.maxLen
      containerOpen := rfl
      store := h.store
      emitted := h.emitted
      room := h.room }

theorem Chain.twin {frames frames' : List Frame} (hFrames : List.Forall₂ FrameTwin frames frames')
  {maxLen : Nat} {type : TLVType} (h : Chain frames maxLen type) : Chain frames' maxLen type := by
  induction hFrames generalizing maxLen type with
  | nil => exact h
  | cons hFrame hRest ih =>
    cases hFrame with
    | started outer =>
      obtain ⟨hType, hNoWrap, hChain⟩ := h
      exact ⟨hType, hNoWrap, ih hChain⟩
    | opened hParent =>
      obtain ⟨hType, hReserved, hSplit, hNoWrap, hChain⟩ := h
      refine ⟨hType, hParent.reserved.trans hReserved, ?_, ?_, ?_⟩
      · rw [hParent.lenWritten, hParent.maxLen]
        exact hSplit
      · rw [hParent.maxLen]
        exact hNoWrap
      · rw [hParent.maxLen, hParent.containerType]
        exact ih hChain

variable {v₀ : TLVWriter}

section

variable (h : SessionTwin w₀ s t) (hInv : SessionInv w₀ s) (hStore : v₀.mBackingStore = none)
  (hMax : v₀.mMaxLen = w₀.mMaxLen)
include h hInv hStore hMax

theorem SessionTwin.inv : SessionInv v₀ t := by
  have hWriter := h.writer
  have hTotal := hInv.limits.total
  have hUnder := hInv.limits.under
  refine ⟨⟨⟨?_, ?_⟩, hWriter.reserved.trans hInv.limits.reserved,
    hWriter.containerOpen.trans hInv.limits.containerOpen, ⟨?_, ?_⟩, ?_⟩, ?_⟩
  · simp only [hWriter.store, hStore]
  · intro _
    rw [hMax]
    exact hWriter.room
  · rw [hWriter.lenWritten, hWriter.maxLen]
    exact hUnder.limit
  · rw [hWriter.maxLen]
    exact hUnder.bound
  · rw [hWriter.emitted, hWriter.maxLen, hWriter.lenWritten, ← h.frames.length_eq, hMax]
    exact hTotal
  · rw [hWriter.maxLen, hWriter.containerType]
    exact hInv.chain.twin h.frames

theorem closeInnermost_follows :
  Proc.Follows (SessionTwin w₀) closeInnermost closeInnermost s t := by
  intro _ s' hOk
  have hInv' := h.inv hInv hStore hMax
  have hFrames := h.frames
  cases hs : s.frames with
  | nil =>
    rw [closeInnermost_nil hInv hs] at hOk
    cases hOk
  | cons frame rest =>
    cases ht : t.frames with
    | nil =>
      rw [hs, ht] at hFrames
      cases hFrames
    | cons frame' rest' =>
      rw [hs, ht] at hFrames
      obtain ⟨hFrame, hRest⟩ := List.forall₂_cons.mp hFrames
      obtain ⟨hClose, hResumed, hSpare⟩ := closeInnermost_spec hInv hs
      obtain ⟨hClose', _, _⟩ := closeInnermost_spec hInv' ht
      have hWrite := writeElementHead_follows (h.writer.resume hFrame) hResumed.limits
        (terminator_checked hResumed.limits.under hSpare)
      rw [hClose] at hOk
      rw [hClose']
      simp only [Prod.mk.injEq] at hOk
      obtain ⟨hResult, rfl⟩ := hOk
      obtain ⟨v, hOk', hTwin⟩ := hWrite _ _ (Prod.ext hResult rfl)
      exact ⟨⟨v, rest'⟩, by rw [hOk'], hTwin, hRest⟩

end

theorem SessionOp.run_follows (op : SessionOp) (h : SessionTwin w₀ s t) (hInv : SessionInv w₀ s)
  (hChecked : op.Checked s) (hStore : v₀.mBackingStore = none) (hMax : v₀.mMaxLen = w₀.mMaxLen) :
  Proc.Follows (SessionTwin w₀) op.run op.run s t := by
  cases op with
  | call c => exact onWriter_follows h (c.run_follows h.writer hInv.limits hChecked)
  | startContainer tag type => exact startContainer_follows h hInv hChecked
  | openContainer tag type => exact openContainer_follows h hInv hChecked
  | close => exact closeInnermost_follows h hInv hStore hMax

theorem SessionTwin.after (ops : List SessionOp) (h : SessionTwin w₀ s t) (hInv : SessionInv w₀ s)
  (hChecked : Session.Checked ops s) (hStore : v₀.mBackingStore = none) (hMax : v₀.mMaxLen = w₀.mMaxLen)
  (hOk : Session.Succeeds ops s) :
  Session.Succeeds ops t ∧ SessionTwin w₀ (after ops s) (after ops t) := by
  induction ops generalizing s t with
  | nil => exact ⟨trivial, h⟩
  | cons op ops ih =>
    obtain ⟨hFirst, hRest⟩ := hOk
    have hFollows := op.run_follows h hInv hChecked.1 hStore hMax
    obtain ⟨t', hRun, hTwin⟩ := hFollows () _ (Prod.ext hFirst rfl)
    obtain ⟨hRest', hAfter⟩ := ih hTwin (hInv.step op hChecked.1) hChecked.2 hRest
    simp only [Session.Succeeds, after, hRun]
    exact ⟨⟨trivial, hRest'⟩, hAfter⟩

end Sessions

/-- The buffers that a store has been given, the one in use last. -/
def TLVWriter.finalizedBuffers (w : TLVWriter) : List Bytes :=
  match w.mBackingStore with
  | none => []
  | some store => store.finalized ++ store.current.toList

theorem finalize_emitted {w : TLVWriter} (hOpen : w.mContainerOpen = false)
  (hStore : w.mBackingStore ≠ none) :
  (finalize w).1 = .ok () ∧ (finalize w).2.finalizedBuffers.flatten = w.emitted := by
  cases hw : w.mBackingStore with
  | none => exact absurd hw hStore
  | some store =>
    simp only [finalize, Proc.read_bind, Proc.verify_bind, if_pos hOpen, hw, Proc.modify_apply,
      finalizedBuffers, emitted, Option.toList_some, List.flatten_append, List.flatten_singleton,
      and_self]

theorem sessionTwin_init (bufLen : Nat) (pending : List (Except ChipError Nat)) {maxLen : Nat}
  (hMaxLen : maxLen < 2 ^ 32) :
  SessionTwin (TLVWriter.initBackingStore bufLen pending maxLen)
    (start (TLVWriter.initBackingStore bufLen pending maxLen))
    (start (TLVWriter.init maxLen)) := by
  have hLimit : min maxLen (2 ^ 32 - 1) = maxLen := by omega
  refine ⟨?_, .nil⟩
  exact {
    lenWritten := rfl
    maxLen := hLimit
    containerType := rfl
    containerOpen := rfl
    reserved := rfl
    profile := rfl
    store := rfl
    emitted := rfl
    room := by
      show 0 + min maxLen (2 ^ 32 - 1) = maxLen
      omega }

/-- Chunked writing refines contiguous writing, over whole runs in which no call
writes a head on the direct path past the limit and no tested sum wraps. -/
theorem chunked_refines_contiguous (bufLen : Nat) (pending : List (Except ChipError Nat))
    (maxLen : Nat) (hMaxLen : maxLen < 2 ^ 32) (ops : List SessionOp)
    (hChecked : Session.Checked ops
      (Session.start (TLVWriter.initBackingStore bufLen pending maxLen))) :
    let s := Session.after ops (Session.start (TLVWriter.initBackingStore bufLen pending maxLen))
    let t := Session.after ops (Session.start (TLVWriter.init maxLen))
    s.bytesWritten ≤ maxLen ∧
      (Session.Succeeds ops (Session.start (TLVWriter.initBackingStore bufLen pending maxLen)) →
        Session.Succeeds ops (Session.start (TLVWriter.init maxLen)) ∧
        (finalize s.writer).1 = .ok () ∧
        (finalize s.writer).2.finalizedBuffers.flatten = t.writer.mBuf) := by
  intro s t
  have hInit := sessionInv_initBackingStore bufLen pending hMaxLen
  have hInv := hInit.after ops hChecked
  have hFits := hInv.fits
  refine ⟨Nat.le_trans (Nat.le_add_right _ _) hFits, fun hOk => ?_⟩
  have hMax : (TLVWriter.init maxLen).mMaxLen = maxLen := by simp only [init]; omega
  have hNone : (TLVWriter.init maxLen).mBackingStore = none := rfl
  obtain ⟨hOk', hTwin⟩ := (sessionTwin_init bufLen pending hMaxLen).after ops hInit hChecked hNone
    hMax hOk
  have hStore : s.writer.mBackingStore ≠ none := by
    intro hNone
    cases hInv.limits.buffer.store.mp hNone
  obtain ⟨hFinal, hBytes⟩ := finalize_emitted hInv.limits.containerOpen hStore
  refine ⟨hOk', hFinal, hBytes.trans ?_⟩
  have hEmitted : t.writer.emitted = s.writer.emitted := hTwin.writer.emitted
  rw [← hEmitted, emitted, show t.writer.mBackingStore = none from hTwin.writer.store]

/-- A structure with a long head and a string, through buffers of five bytes. -/
def chunkedSample : List SessionOp :=
  [.startContainer anonymousTag .struct, longestHead,
    .call (.putBytes (contextTag 1) [1, 2, 3, 4]), .close]

theorem chunked_refines_contiguous_sample :
    let s := Session.after chunkedSample
      (Session.start (TLVWriter.initBackingStore 5 (List.replicate 5 (.ok 5)) 27))
    let t := Session.after chunkedSample (Session.start (TLVWriter.init 27))
    s.bytesWritten ≤ 27 ∧ Session.Succeeds chunkedSample (Session.start (TLVWriter.init 27)) ∧
      (finalize s.writer).1 = .ok () ∧
      (finalize s.writer).2.finalizedBuffers.flatten = t.writer.mBuf := by
  have hSample := chunked_refines_contiguous 5 (List.replicate 5 (.ok 5)) 27 (by decide)
    chunkedSample (by decide +kernel)
  exact ⟨hSample.1, hSample.2 (by decide +kernel)⟩

/-- With a limit of seventeen and a first buffer of a hundred bytes, the direct path
writes eighteen bytes. -/
theorem chunked_overrun :
    ¬ (Session.after [.call (.putNull anonymousTag), longestHead]
      (Session.start (TLVWriter.initBackingStore 100 [] 17))).bytesWritten ≤ 17 := by
  decide +kernel

end Chip.TLV
