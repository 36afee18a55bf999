import Chip.TLV.Head

/-! What the encoder's primitive calls do to the output. Every call appends a
prefix of the bytes it was asked to write, all of them when it succeeds, and leaves
the writer's configuration alone. -/
namespace Chip.TLV

open Proc List TLVWriter

namespace TLVWriter

/-- All bytes written so far, over the buffers already handed back and the one in
use. -/
def emitted (w : TLVWriter) : Bytes :=
  match w.mBackingStore with
  | none => w.mBuf
  | some store => store.finalized.flatten ++ w.mBuf

/-- `w'` is `w` after `q` was appended to its output. In a contiguous buffer the
free space shrinks by exactly that much. -/
structure Emits (q : Bytes) (w w' : TLVWriter) : Prop where
  emitted : w'.emitted = w.emitted ++ q
  lenWritten : w'.mLenWritten = add32 w.mLenWritten q.length
  reserved : w'.mCloseContainerReserved = w.mCloseContainerReserved
  profile : w'.implicitProfileId = w.implicitProfileId
  contiguous : w.mBackingStore = none →
    w'.mBackingStore = none ∧ w'.mRemainingLen + q.length = w.mRemainingLen
  chunked : w.mBackingStore ≠ none → w'.mBackingStore ≠ none

/-- The same, with the limit and the container state untouched. -/
structure Wrote (q : Bytes) (w w' : TLVWriter) : Prop extends Emits q w w' where
  maxLen : w'.mMaxLen = w.mMaxLen
  containerType : w'.mContainerType = w.mContainerType
  containerOpen : w'.mContainerOpen = w.mContainerOpen

theorem add32_add32 (a b c : Nat) : add32 (add32 a b) c = add32 a (b + c) := by
  simp only [add32]
  omega

theorem Wrote.nil {w : TLVWriter} (h : w.mLenWritten < 2 ^ 32) : Wrote [] w w :=
  { emitted := by simp
    lenWritten := by simp only [add32, length_nil]; omega
    reserved := rfl
    profile := rfl
    contiguous := fun h => ⟨h, by simp⟩
    chunked := id
    maxLen := rfl
    containerType := rfl
    containerOpen := rfl }

theorem Emits.trans {p q : Bytes} {w w' w'' : TLVWriter} (first : Emits p w w')
  (second : Emits q w' w'') : Emits (p ++ q) w w'' :=
  { emitted := by rw [second.emitted, first.emitted, append_assoc]
    lenWritten := by
      rw [second.lenWritten, first.lenWritten, add32_add32, length_append]
    reserved := second.reserved.trans first.reserved
    profile := second.profile.trans first.profile
    contiguous := by
      intro hNone
      obtain ⟨hFirst, hRemaining⟩ := first.contiguous hNone
      obtain ⟨hSecond, hRemaining'⟩ := second.contiguous hFirst
      refine ⟨hSecond, ?_⟩
      rw [length_append]
      omega
    chunked := second.chunked ∘ first.chunked }

theorem Wrote.trans {p q : Bytes} {w w' w'' : TLVWriter} (first : Wrote p w w')
  (second : Wrote q w' w'') : Wrote (p ++ q) w w'' :=
  { first.toEmits.trans second.toEmits with
    maxLen := second.maxLen.trans first.maxLen
    containerType := second.containerType.trans first.containerType
    containerOpen := second.containerOpen.trans first.containerOpen }

theorem Emits.lt {q : Bytes} {w w' : TLVWriter} (h : Emits q w w') : w'.mLenWritten < 2 ^ 32 := by
  rw [h.lenWritten]
  exact Nat.mod_lt _ (by decide)

theorem wrote_append {bytes : Bytes} {w : TLVWriter} (h : bytes.length ≤ w.mRemainingLen) :
  Wrote bytes w (w.append bytes) :=
  { emitted := by
      unfold emitted append
      cases w.mBackingStore <;> simp
    lenWritten := rfl
    maxLen := rfl
    containerType := rfl
    containerOpen := rfl
    reserved := rfl
    profile := rfl
    contiguous := fun hNone => ⟨hNone, by simp only [append]; omega⟩
    chunked := id }

end TLVWriter

open TLVWriter

theorem newBuffer_spec (w : TLVWriter) (h : w.mLenWritten < 2 ^ 32) :
  Wrote [] w (newBuffer w).2 ∧
    ((newBuffer w).1 = .ok () →
      (newBuffer w).2.pendingBuffers + 1 = w.pendingBuffers ∧ w.mBackingStore ≠ none) := by
  have hNil := Wrote.nil h
  cases hStore : w.mBackingStore with
  | none => simp [newBuffer, hStore, hNil]
  | some store =>
    cases hPending : store.pending with
    | nil =>
      simp only [newBuffer, read_bind, hStore, hPending, modify_bind, fail_apply]
      refine ⟨?_, by simp⟩
      exact { hNil with
        emitted := by simp [emitted, hStore]
        contiguous := by simp [hStore]
        chunked := by simp }
    | cons answer rest =>
      cases answer with
      | error e =>
        simp only [newBuffer, read_bind, hStore, hPending, modify_bind,
          fail_apply]
        refine ⟨?_, by simp⟩
        exact { hNil with
          emitted := by simp [emitted, hStore]
          contiguous := by simp [hStore]
          chunked := by simp }
      | ok bufLen =>
        simp only [newBuffer, read_bind, hStore, hPending, modify_apply]
        refine ⟨?_, ?_⟩
        · exact { hNil with
            emitted := by simp [emitted, hStore]
            contiguous := by simp [hStore]
            chunked := by simp }
        · intro _
          simp [pendingBuffers, hStore, hPending]

/-- The end of a turn of the loop, once there is room in the buffer. -/
def writeTurn (fuel : Nat) (p : Bytes) (w : TLVWriter) : Except ChipError Unit × TLVWriter :=
  writeDataLoop fuel (p.drop (min p.length w.mRemainingLen))
    (w.append (p.take (min p.length w.mRemainingLen)))

variable {p : Bytes} {w : TLVWriter}

theorem writeDataLoop_room {fuel : Nat} (hp : p ≠ []) (hRoom : w.mRemainingLen ≠ 0) :
  writeDataLoop (fuel + 1) p w = writeTurn fuel p w := by
  simp only [writeDataLoop, if_neg hp, read_bind, if_neg hRoom, modify_bind, writeTurn]

theorem writeDataLoop_full {fuel : Nat} {w w₁ : TLVWriter} (hp : p ≠ []) (hFull : w.mRemainingLen = 0)
  (hNew : newBuffer w = (.ok (), w₁)) :
  writeDataLoop (fuel + 1) p w = writeTurn fuel p w₁ := by
  simp only [writeDataLoop, if_neg hp, read_bind, if_pos hFull]
  exact bind_ok hNew

theorem writeDataLoop_refused {fuel : Nat} {w w₁ : TLVWriter} {e : ChipError} (hp : p ≠ [])
  (hFull : w.mRemainingLen = 0) (hNew : newBuffer w = (.error e, w₁)) :
  writeDataLoop (fuel + 1) p w = (.error e, w₁) := by
  simp only [writeDataLoop, if_neg hp, read_bind, if_pos hFull]
  exact bind_error hNew

theorem writeDataLoop_spec (fuel : Nat) (p : Bytes) (w : TLVWriter) (h : w.mLenWritten < 2 ^ 32) :
  ∃ q, q <+: p ∧ Wrote q w (writeDataLoop fuel p w).2 ∧
    ((writeDataLoop fuel p w).1 = .ok () → q = p) := by
  induction fuel generalizing p w with
  | zero =>
    refine ⟨[], nil_prefix, ?_, ?_⟩
    · by_cases hp : p = [] <;> simpa [writeDataLoop, hp] using Wrote.nil h
    · by_cases hp : p = [] <;> simp [writeDataLoop, hp]
  | succ fuel ih =>
    by_cases hp : p = []
    · subst hp
      exact ⟨[], nil_prefix, by simpa [writeDataLoop] using Wrote.nil h, fun _ => rfl⟩
    -- The turn proper, from the state after a possible change of buffer.
    have hTurn : ∀ w₁ : TLVWriter, Wrote [] w w₁ →
        ∃ q, q <+: p ∧ Wrote q w (writeTurn fuel p w₁).2 ∧
          ((writeTurn fuel p w₁).1 = .ok () → q = p) := by
      intro w₁ hWrote
      let n := min p.length w₁.mRemainingLen
      have hAppend : Wrote (p.take n) w₁ (w₁.append (p.take n)) :=
        wrote_append (by rw [length_take]; omega)
      obtain ⟨q, hPrefix, hRest, hAll⟩ := ih (p.drop n) (w₁.append (p.take n)) hAppend.lt
      refine ⟨p.take n ++ q, ?_, ?_, ?_⟩
      · have hJoin := (prefix_append_right_inj (p.take n)).mpr hPrefix
        rwa [take_append_drop] at hJoin
      · have hAll := (hWrote.trans hAppend).trans hRest
        rwa [nil_append] at hAll
      · intro hOk
        rw [hAll hOk, take_append_drop]
    by_cases hFull : w.mRemainingLen = 0
    · obtain ⟨hWrote, _⟩ := newBuffer_spec w h
      cases hNew : newBuffer w with
      | mk result w₁ =>
        rw [hNew] at hWrote
        cases result with
        | error e =>
          rw [writeDataLoop_refused hp hFull hNew]
          refine ⟨[], nil_prefix, hWrote, ?_⟩
          intro hOk
          cases hOk
        | ok value =>
          rw [writeDataLoop_full hp hFull hNew]
          exact hTurn w₁ hWrote
    · rw [writeDataLoop_room hp hFull]
      exact hTurn w (Wrote.nil h)

theorem writeData_spec (p : Bytes) (w : TLVWriter) (h : w.mLenWritten < 2 ^ 32) :
  ∃ q, q <+: p ∧ Wrote q w (writeData p w).2 ∧
    ((writeData p w).1 = .ok () → q = p) ∧
    (q ≠ [] → add32 w.mLenWritten p.length ≤ w.mMaxLen) := by
  by_cases hLimit : add32 w.mLenWritten p.length ≤ w.mMaxLen
  · obtain ⟨q, hPrefix, hWrote, hAll⟩ := writeDataLoop_spec (w.pendingBuffers + 3) p w h
    refine ⟨q, hPrefix, ?_, ?_, fun _ => hLimit⟩ <;> simpa [writeData, hLimit]
  · refine ⟨[], nil_prefix, ?_, ?_, ?_⟩
    · simpa [writeData, hLimit] using Wrote.nil h
    · simp [writeData, hLimit]
    · simp

theorem writeData_contiguous (hStore : w.mBackingStore = none)
  (hLimit : add32 w.mLenWritten p.length ≤ w.mMaxLen) (hRoom : p.length ≤ w.mRemainingLen) :
  (writeData p w).1 = .ok () := by
  simp only [writeData, read_bind, verify_bind, if_pos hLimit, pendingBuffers, hStore]
  by_cases hp : p = []
  · simp [writeDataLoop, hp]
  · have hFull : w.mRemainingLen ≠ 0 := by
      have := length_pos_of_ne_nil hp
      omega
    simp [writeDataLoop, hp, hFull, hRoom]

theorem writeElementHead_spec (elemType : TLVElementType) (tag : Tag) (lenOrVal : Nat)
  (w : TLVWriter) (h : w.mLenWritten < 2 ^ 32) :
  ∃ q, Wrote q w (writeElementHead elemType tag lenOrVal w).2 ∧
    ((writeElementHead elemType tag lenOrVal w).1 = .ok () →
      w.mContainerOpen = false ∧
      elementHead w.mContainerType w.implicitProfileId elemType tag lenOrVal = .ok q) ∧
    (q ≠ [] → ∃ head,
      elementHead w.mContainerType w.implicitProfileId elemType tag lenOrVal = .ok head ∧
      q <+: head ∧
      (w.writesDirectly ∨ add32 w.mLenWritten head.length ≤ w.mMaxLen)) := by
  cases hOpen : w.mContainerOpen with
  | true =>
    refine ⟨[], ?_, ?_, by simp⟩
    · simpa [writeElementHead, hOpen] using Wrote.nil h
    · simp [writeElementHead, hOpen]
  | false =>
    cases hHead : elementHead w.mContainerType w.implicitProfileId elemType tag lenOrVal with
    | error e =>
      refine ⟨[], ?_, ?_, by simp⟩
      · simpa [writeElementHead, hOpen, hHead] using Wrote.nil h
      · simp [writeElementHead, hOpen, hHead]
    | ok head =>
      obtain ⟨_, hSize⟩ := elementHead_length hHead
      by_cases hDirect : w.writesDirectly
      · have hRoom : head.length ≤ w.mRemainingLen := hSize.trans hDirect.1
        refine ⟨head, ?_, fun _ => ⟨rfl, rfl⟩, fun _ => ⟨head, rfl, prefix_rfl, .inl hDirect⟩⟩
        simpa [writeElementHead, hOpen, hHead, hDirect] using wrote_append hRoom
      · have hCall : writeElementHead elemType tag lenOrVal w = writeData head w := by
          simp [writeElementHead, hOpen, hHead, hDirect]
        obtain ⟨q, hPrefix, hWrote, hAll, hLimit⟩ := writeData_spec head w h
        rw [hCall]
        refine ⟨q, hWrote, fun hOk => ⟨rfl, ?_⟩, fun hq => ⟨head, rfl, hPrefix, .inr (hLimit hq)⟩⟩
        rw [hAll hOk]

theorem writeElementHead_contiguous {elemType : TLVElementType} {tag : Tag} {lenOrVal : Nat}
  {head : Bytes} (hStore : w.mBackingStore = none) (hOpen : w.mContainerOpen = false)
  (hHead : elementHead w.mContainerType w.implicitProfileId elemType tag lenOrVal = .ok head)
  (hLimit : add32 w.mLenWritten head.length ≤ w.mMaxLen) (hRoom : head.length ≤ w.mRemainingLen) :
  (writeElementHead elemType tag lenOrVal w).1 = .ok () := by
  by_cases hDirect : w.writesDirectly
  · simp [writeElementHead, hOpen, hHead, hDirect]
  · simpa [writeElementHead, hOpen, hHead, hDirect] using writeData_contiguous hStore hLimit hRoom

def TLVWriter.reservedMaxLen (w : TLVWriter) : Nat :=
  if w.mCloseContainerReserved then w.mMaxLen - endOfContainerMarkerSize else w.mMaxLen

theorem reserveCloseContainer_ok (hMarker : w.mCloseContainerReserved = true → 1 ≤ w.mMaxLen) :
  reserveCloseContainer w = (.ok (), { w with mMaxLen := w.reservedMaxLen }) := by
  cases hReserved : w.mCloseContainerReserved with
  | false =>
    have hSame : w.reservedMaxLen = w.mMaxLen := by simp [reservedMaxLen, hReserved]
    rw [hSame]
    simp only [reserveCloseContainer, read_bind, hReserved, Bool.false_eq_true, if_false,
      pure_apply]
    rw [← hReserved]
  | true =>
    have hLess : w.reservedMaxLen = w.mMaxLen - endOfContainerMarkerSize := by
      simp [reservedMaxLen, hReserved]
    simp only [reserveCloseContainer, read_bind, if_pos hReserved, verify_bind,
      modify_apply, hLess]
    rw [if_pos (show endOfContainerMarkerSize ≤ w.mMaxLen from hMarker hReserved), hReserved]

theorem writeContainerHead_spec (tag : Tag) (type : TLVType) (w : TLVWriter)
  (h : w.mLenWritten < 2 ^ 32) (hMax : w.mMaxLen < 2 ^ 32) :
  (∃ e w', writeContainerHead tag type w = (.error e, w') ∧
    ∃ q, Wrote q w w' ∧ (q ≠ [] → type.isContainer = true ∧
      (w.mCloseContainerReserved = true → 1 ≤ w.mMaxLen) ∧ ∃ head,
      elementHead w.mContainerType w.implicitProfileId type.toElementType tag 0 = .ok head ∧
      q <+: head ∧ ({ w with mMaxLen := w.reservedMaxLen }.writesDirectly ∨
        add32 w.mLenWritten head.length ≤ w.reservedMaxLen))) ∨
  (∃ w' head, writeContainerHead tag type w = (.ok (), w') ∧ type.isContainer = true ∧
    (w.mCloseContainerReserved = true → 1 ≤ w.mMaxLen) ∧
    w.mContainerOpen = false ∧
    elementHead w.mContainerType w.implicitProfileId type.toElementType tag 0 = .ok head ∧
    Wrote head { w with mMaxLen := w.reservedMaxLen } w' ∧
    ({ w with mMaxLen := w.reservedMaxLen }.writesDirectly ∨
      add32 w.mLenWritten head.length ≤ w.reservedMaxLen)) := by
  have hNil := Wrote.nil h
  by_cases hType : type.isContainer = true
  swap
  · exact .inl ⟨.wrongTLVType, w, by simp [writeContainerHead, hType], [], hNil, by simp⟩
  by_cases hSmall : w.mCloseContainerReserved = true ∧ ¬ endOfContainerMarkerSize ≤ w.mMaxLen
  · refine .inl ⟨.bufferTooSmall, w, ?_, [], hNil, by simp⟩
    have hReserve : reserveCloseContainer w = (.error .bufferTooSmall, w) := by
      simp [reserveCloseContainer, hSmall.1, hSmall.2]
    simp only [writeContainerHead, verify_bind, if_pos hType]
    exact bind_error hReserve
  have hMarker : w.mCloseContainerReserved = true → 1 ≤ w.mMaxLen := by
    intro hReserved
    by_contra hLt
    exact hSmall ⟨hReserved, hLt⟩
  let w₁ : TLVWriter := { w with mMaxLen := w.reservedMaxLen }
  have hReserve : reserveCloseContainer w = (.ok (), w₁) := reserveCloseContainer_ok hMarker
  obtain ⟨q, hWrote, hOk, hPart⟩ := writeElementHead_spec type.toElementType tag 0 w₁ h
  cases hHead : writeElementHead type.toElementType tag 0 w₁ with
  | mk result w₂ =>
    rw [hHead] at hWrote hOk
    cases result with
    | ok value =>
      obtain ⟨hOpen, hBytes⟩ := hOk rfl
      refine .inr ⟨w₂, q, ?_, hType, hMarker, hOpen, hBytes, hWrote, ?_⟩
      · simp only [writeContainerHead, verify_bind, if_pos hType]
        rw [bind_ok hReserve, attempt_bind, hHead]
        rfl
      · have hNe : q ≠ [] := by
          intro hEmpty
          have := (elementHead_length hBytes).1
          simp [hEmpty] at this
        obtain ⟨head, hBytes', _, hPath⟩ := hPart hNe
        rw [hBytes] at hBytes'
        cases hBytes'
        exact hPath
    | error e =>
      refine .inl ⟨e, (releaseCloseContainer w₂).2, ?_, q, ?_,
        fun hq => ⟨hType, hMarker, hPart hq⟩⟩
      · simp only [writeContainerHead, verify_bind, if_pos hType]
        rw [bind_ok hReserve, attempt_bind, hHead]
        rfl
      · have hLimit : (if w₂.mCloseContainerReserved then
            add32 w₂.mMaxLen endOfContainerMarkerSize else w₂.mMaxLen) = w.mMaxLen := by
          rw [hWrote.reserved, hWrote.maxLen]
          cases hReserved : w.mCloseContainerReserved with
          | false => simp [w₁, hReserved, reservedMaxLen]
          | true =>
            have := hMarker hReserved
            simp only [w₁, hReserved, reservedMaxLen, if_true, add32,
              endOfContainerMarkerSize]
            omega
        exact { hWrote with maxLen := hLimit }

end Chip.TLV
