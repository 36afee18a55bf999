import Chip.TLV.WriterSpec

/-! Writing a sequence of elements. A run that succeeds has appended exactly the
sequence's encoding, and a run with enough room succeeds. -/
namespace Chip.TLV

open Proc TLVWriter

variable {elemType : TLVElementType} {tag : Tag} {head : Bytes} {w w' : TLVWriter}

theorem headBytes_of_ok {context : TLVType} {profile : BitVec 32} {lenOrVal : Nat}
  (h : elementHead context profile elemType tag lenOrVal = .ok head) :
  headBytes context profile elemType tag lenOrVal = head := by
  simp [headBytes, h, Except.toOption]

theorem elementHead_terminator (context : TLVType) (profile : BitVec 32) :
  elementHead context profile .endOfContainer anonymousTag 0 = .ok terminator := by
  have hSpecial : isSpecialTag anonymousTag = true := by decide
  have hNum : ¬ (tagNumFromTag anonymousTag).toNat ≤ Tag.contextTagMaxNum.toNat := by decide
  simp [elementHead, encodeTag, hSpecial, hNum, terminator, TLVElementType.fieldSize,
    TLVFieldSize.bytes, LittleEndian.encode]

section

variable (h : w.mLenWritten < 2 ^ 32)
include h

theorem writeElementHead_wrote {lenOrVal : Nat}
  (hOk : writeElementHead elemType tag lenOrVal w = (.ok (), w')) :
  Wrote (headBytes w.mContainerType w.implicitProfileId elemType tag lenOrVal) w w' := by
  obtain ⟨q, hWrote, hHead, _⟩ := writeElementHead_spec elemType tag lenOrVal w h
  rw [hOk] at hWrote hHead
  rw [headBytes_of_ok (hHead rfl).2]
  exact hWrote

theorem writeData_wrote {p : Bytes} (hOk : writeData p w = (.ok (), w')) : Wrote p w w' := by
  obtain ⟨q, _, hWrote, hAll, _⟩ := writeData_spec p w h
  rw [hOk] at hWrote hAll
  rwa [hAll rfl] at hWrote

theorem writeElementWithData_wrote {elemType : Nat → TLVElementType} {data : Bytes}
  (hOk : writeElementWithData elemType tag data w = (.ok (), w')) :
  Wrote (headBytes w.mContainerType w.implicitProfileId (elemType data.length) tag data.length ++
    data) w w' := by
  obtain ⟨_, w₁, hHead, hData⟩ := bind_eq_ok hOk
  have hFirst := writeElementHead_wrote h hHead
  exact hFirst.trans (writeData_wrote hFirst.lt hData)

theorem putValue_wrote {value : Value} (hOk : putValue tag value w = (.ok (), w')) :
  Wrote (headBytes w.mContainerType w.implicitProfileId value.elementType tag value.lenOrVal ++
    value.data) w w' := by
  cases value with
  | utf8String s =>
    have hData : writeElementWithData utf8StringElementType tag s w = (.ok (), w') := hOk
    have hWrote := writeElementWithData_wrote h hData
    exact hWrote
  | byteString s =>
    have hData : writeElementWithData byteStringElementType tag s w = (.ok (), w') := hOk
    have hWrote := writeElementWithData_wrote h hData
    exact hWrote
  | _ =>
    simp only [Value.data, List.append_nil]
    exact writeElementHead_wrote h hOk

theorem startContainer_ok {type outer : TLVType} (hMax : w.mMaxLen < 2 ^ 32)
  (hOk : startContainer tag type w = (.ok outer, w')) :
  outer = w.mContainerType ∧ type.isContainer = true ∧
    (w.mCloseContainerReserved = true → 1 ≤ w.mMaxLen) ∧
    Emits (headBytes w.mContainerType w.implicitProfileId type.toElementType tag 0) w w' ∧
    w'.mMaxLen = w.reservedMaxLen ∧ w'.mContainerType = type ∧ w'.mContainerOpen = false ∧
    w.mContainerOpen = false := by
  obtain ⟨_, w₁, hHead, hRest⟩ := bind_eq_ok hOk
  rcases writeContainerHead_spec tag type w h hMax with ⟨e, _, hError, _⟩ |
    ⟨w₂, head, hSuccess, hType, hMarker, hOpen, hBytes, hWrote, _⟩
  · rw [hHead] at hError
    cases hError
  · rw [hHead] at hSuccess
    cases hSuccess
    simp only [read_bind, modify_bind, pure_apply, Prod.mk.injEq,
      Except.ok.injEq] at hRest
    obtain ⟨rfl, rfl⟩ := hRest
    rw [headBytes_of_ok hBytes]
    refine ⟨hWrote.containerType, hType, hMarker, ?_, hWrote.maxLen, rfl, rfl, hOpen⟩
    exact ⟨hWrote.emitted, hWrote.lenWritten, hWrote.reserved, hWrote.profile, hWrote.contiguous,
      hWrote.chunked⟩

theorem endContainer_ok {outer : TLVType} (hOk : endContainer outer w = (.ok (), w')) :
  w.mContainerOpen = false ∧ Emits terminator w w' ∧ w'.mContainerType = outer ∧
    w'.mContainerOpen = false ∧
    w'.mMaxLen = if w.mCloseContainerReserved then add32 w.mMaxLen endOfContainerMarkerSize
      else w.mMaxLen := by
  by_cases hType : w.mContainerType.isContainer = true
  swap
  · simp [endContainer, hType] at hOk
  · simp only [endContainer, read_bind, verify_bind, if_pos hType, modify_bind,
      releaseCloseContainer] at hOk
    set w₁ : TLVWriter := { w with
      mMaxLen := if w.mCloseContainerReserved then add32 w.mMaxLen endOfContainerMarkerSize
        else w.mMaxLen
      mContainerType := outer } with hw₁
    obtain ⟨_, _, hHead, _⟩ := writeElementHead_spec .endOfContainer anonymousTag 0 w₁ h
    rw [hOk] at hHead
    have hWrote := writeElementHead_wrote (w := w₁) h hOk
    rw [headBytes_of_ok (elementHead_terminator _ _)] at hWrote
    have hOpen := (hHead rfl).1
    refine ⟨hOpen, ?_, hWrote.containerType, hWrote.containerOpen.trans hOpen, hWrote.maxLen⟩
    exact ⟨hWrote.emitted, hWrote.lenWritten, hWrote.reserved, hWrote.profile, hWrote.contiguous,
      hWrote.chunked⟩

end

theorem putElements_wrote (elements : Elements) (h : w.mLenWritten < 2 ^ 32) (hMax : w.mMaxLen < 2 ^ 32)
  (hOk : putElements elements w = (.ok (), w')) :
  Wrote (elements.encode w.implicitProfileId w.mContainerType) w w' := by
  induction elements generalizing w w' with
  | nil =>
    cases hOk
    exact Wrote.nil h
  | leaf tag value next ih =>
    obtain ⟨_, w₁, hValue, hNext⟩ := bind_eq_ok hOk
    have hFirst := putValue_wrote h hValue
    have hSecond := ih hFirst.lt (hFirst.maxLen ▸ hMax) hNext
    rw [hFirst.profile, hFirst.containerType] at hSecond
    exact hFirst.trans hSecond
  | container tag type members next ihMembers ihNext =>
    obtain ⟨outer, w₁, hStart, hRest⟩ := bind_eq_ok hOk
    obtain ⟨_, w₂, hMembers, hRest⟩ := bind_eq_ok hRest
    obtain ⟨_, w₃, hEnd, hNext⟩ := bind_eq_ok hRest
    obtain ⟨rfl, _, hMarker, hHead, hMaxLen, hType, hOpen, hOuterOpen⟩ :=
      startContainer_ok h hMax hStart
    have hMax₁ : w₁.mMaxLen < 2 ^ 32 := by
      rw [hMaxLen, reservedMaxLen]
      split <;> omega
    have hInner := ihMembers hHead.lt hMax₁ hMembers
    rw [hHead.profile, hType] at hInner
    obtain ⟨_, hTerminator, hType₃, hOpen₃, hMaxLen₃⟩ := endContainer_ok hInner.lt hEnd
    have hAll := (hHead.trans hInner.toEmits).trans hTerminator
    -- The terminator's byte goes back to the limit that the head had taken it from.
    have hMax₃ : w₃.mMaxLen = w.mMaxLen := by
      rw [hMaxLen₃, hInner.maxLen, hMaxLen, hInner.reserved, hHead.reserved, reservedMaxLen]
      cases hReserved : w.mCloseContainerReserved with
      | false => simp
      | true =>
        have := hMarker hReserved
        simp only [if_true, add32, endOfContainerMarkerSize]
        omega
    have hSelf : Wrote _ w w₃ :=
      { hAll with
        maxLen := hMax₃
        containerType := hType₃
        containerOpen := hOpen₃.trans hOuterOpen.symm }
    have hSecond := ihNext hSelf.lt (hMax₃ ▸ hMax) hNext
    rw [hSelf.profile, hType₃] at hSecond
    exact hSelf.trans hSecond

/-- A contiguous writer, not waiting for a container writer, with room for `n`
more bytes in its buffer and under its limit. -/
structure HasRoom (n : Nat) (w : TLVWriter) : Prop where
  store : w.mBackingStore = none
  containerOpen : w.mContainerOpen = false
  limit : w.mLenWritten + n ≤ w.mMaxLen
  bound : w.mMaxLen < 2 ^ 32
  buffer : n ≤ w.mRemainingLen

theorem HasRoom.lt {n : Nat} {w : TLVWriter} (h : HasRoom n w) : w.mLenWritten < 2 ^ 32 := by
  have := h.limit
  have := h.bound
  omega

theorem HasRoom.mono {m n : Nat} {w : TLVWriter} (h : HasRoom n w) (hLe : m ≤ n) : HasRoom m w :=
  { h with
    limit := by have := h.limit; omega
    buffer := hLe.trans h.buffer }

theorem HasRoom.after {m n : Nat} {q : Bytes} (h : HasRoom m w) (hEmits : Emits q w w')
  (hOpen : w'.mContainerOpen = false) (hBound : w'.mMaxLen < 2 ^ 32)
  (hLimit : w.mLenWritten + q.length + n ≤ w'.mMaxLen) (hSum : q.length + n ≤ m) :
  HasRoom n w' := by
  obtain ⟨hStore, hRemaining⟩ := hEmits.contiguous h.store
  have hLen : w'.mLenWritten = w.mLenWritten + q.length := by
    rw [hEmits.lenWritten, add32_of_lt]
    omega
  have hBuffer := h.buffer
  exact {
    store := hStore
    containerOpen := hOpen
    limit := by omega
    bound := hBound
    buffer := by omega }

theorem HasRoom.wrote {m n : Nat} {q : Bytes} (h : HasRoom m w) (hWrote : Wrote q w w')
  (hSum : q.length + n ≤ m) : HasRoom n w' := by
  have hLimit := h.limit
  exact h.after hWrote.toEmits (hWrote.containerOpen.trans h.containerOpen)
    (hWrote.maxLen ▸ h.bound) (by rw [hWrote.maxLen]; omega) hSum

theorem HasRoom.writeData {p : Bytes} {w : TLVWriter} (h : HasRoom p.length w) :
  ∃ w', writeData p w = (.ok (), w') := by
  have hLimit := h.limit
  have hBound := h.bound
  have hOk := writeData_contiguous h.store (by rw [add32_of_lt (by omega)]; exact h.limit) h.buffer
  exact ⟨_, Prod.ext hOk rfl⟩

theorem HasRoom.writeElementHead {lenOrVal : Nat} {w : TLVWriter}
  (hHead : elementHead w.mContainerType w.implicitProfileId elemType tag lenOrVal = .ok head)
  (h : HasRoom head.length w) : ∃ w', writeElementHead elemType tag lenOrVal w = (.ok (), w') := by
  have hLimit := h.limit
  have hBound := h.bound
  have hOk := writeElementHead_contiguous h.store h.containerOpen hHead
    (by rw [add32_of_lt (by omega)]; exact h.limit) h.buffer
  exact ⟨_, Prod.ext hOk rfl⟩

theorem HasRoom.putValue {value : Value} {w : TLVWriter}
  (hHead : elementHead w.mContainerType w.implicitProfileId value.elementType tag
    value.lenOrVal = .ok head) (h : HasRoom (head ++ value.data).length w) :
  ∃ w', putValue tag value w = (.ok (), w') := by
  rw [List.length_append] at h
  obtain ⟨w₁, hFirst⟩ := HasRoom.writeElementHead hHead (h.mono (Nat.le_add_right _ _))
  have hWrote := writeElementHead_wrote h.lt hFirst
  rw [headBytes_of_ok hHead] at hWrote
  obtain ⟨w₂, hSecond⟩ := (h.wrote hWrote (Nat.le_refl _)).writeData
  cases value with
  | utf8String s => exact ⟨w₂, (bind_ok hFirst).trans hSecond⟩
  | byteString s => exact ⟨w₂, (bind_ok hFirst).trans hSecond⟩
  | _ => exact ⟨w₁, hFirst⟩

theorem HasRoom.writeContainerHead {type : TLVType} {w : TLVWriter} (hType : type.isContainer = true)
  (hHead : elementHead w.mContainerType w.implicitProfileId type.toElementType tag 0 = .ok head)
  (h : HasRoom (head.length + 1) w) :
  ∃ w', writeContainerHead tag type w = (.ok (), w') ∧
    Wrote head { w with mMaxLen := w.reservedMaxLen } w' := by
  have hLimit := h.limit
  have hBound := h.bound
  have hBuffer := h.buffer
  have hReserved : w.reservedMaxLen ≤ w.mMaxLen ∧ w.mMaxLen ≤ w.reservedMaxLen + 1 := by
    simp only [reservedMaxLen, endOfContainerMarkerSize]
    split <;> omega
  -- The reservation itself cannot fail and leaves room for the head.
  have hRoom : HasRoom head.length { w with mMaxLen := w.reservedMaxLen } :=
    { store := h.store
      containerOpen := h.containerOpen
      limit := by simp only; omega
      bound := by simp only; omega
      buffer := by simp only; omega }
  obtain ⟨w₁, hWrite⟩ := HasRoom.writeElementHead
    (w := { w with mMaxLen := w.reservedMaxLen }) hHead hRoom
  have hWrote := writeElementHead_wrote hRoom.lt hWrite
  have hReserve := reserveCloseContainer_ok (w := w) (fun _ => by omega)
  refine ⟨w₁, ?_, by rwa [headBytes_of_ok hHead] at hWrote⟩
  simp only [TLV.writeContainerHead, verify_bind, if_pos hType]
  rw [bind_ok hReserve, attempt_bind, hWrite]
  rfl

theorem HasRoom.startContainer {type : TLVType} {w : TLVWriter} (hType : type.isContainer = true)
  (hHead : elementHead w.mContainerType w.implicitProfileId type.toElementType tag 0 = .ok head)
  (h : HasRoom (head.length + 1) w) : ∃ outer w', startContainer tag type w = (.ok outer, w') := by
  obtain ⟨w₁, hContainerHead, _⟩ := HasRoom.writeContainerHead hType hHead h
  exact ⟨_, _, bind_ok hContainerHead⟩

theorem HasRoom.endContainer (outer : TLVType) {w : TLVWriter}
  (hType : w.mContainerType.isContainer = true) (hStore : w.mBackingStore = none)
  (hOpen : w.mContainerOpen = false)
  (hLimit : w.mLenWritten + 1 ≤
    if w.mCloseContainerReserved then w.mMaxLen + endOfContainerMarkerSize else w.mMaxLen)
  (hBound : (if w.mCloseContainerReserved then w.mMaxLen + endOfContainerMarkerSize
    else w.mMaxLen) < 2 ^ 32)
  (hBuffer : 1 ≤ w.mRemainingLen) : ∃ w', endContainer outer w = (.ok (), w') := by
  have hRelease : (if w.mCloseContainerReserved then add32 w.mMaxLen endOfContainerMarkerSize
      else w.mMaxLen) =
      if w.mCloseContainerReserved then w.mMaxLen + endOfContainerMarkerSize else w.mMaxLen := by
    split at hBound
    · simp only [if_pos, *, add32_of_lt hBound]
    · simp [*]
  let w₁ : TLVWriter := { w with
    mMaxLen := if w.mCloseContainerReserved then add32 w.mMaxLen endOfContainerMarkerSize
      else w.mMaxLen
    mContainerType := outer }
  have hRoom : HasRoom terminator.length w₁ :=
    { store := hStore
      containerOpen := hOpen
      limit := by simp only [w₁, hRelease]; exact hLimit
      bound := by simp only [w₁, hRelease]; exact hBound
      buffer := hBuffer }
  obtain ⟨w₂, hWrite⟩ := HasRoom.writeElementHead (w := w₁) (elementHead_terminator _ _) hRoom
  refine ⟨w₂, ?_⟩
  simp only [TLV.endContainer, read_bind, verify_bind, if_pos hType, modify_bind,
    releaseCloseContainer]
  exact hWrite

theorem elementHead_of_legal {context : TLVType} (h : tag.LegalIn context) (profile : BitVec 32)
  (elemType : TLVElementType) (lenOrVal : Nat) :
  elementHead context profile elemType tag lenOrVal =
    .ok (headBytes context profile elemType tag lenOrVal) := by
  obtain ⟨control, tagBytes, hHead, _, _⟩ := elementHead_legal profile
    (h.roundTrips profile elemType) lenOrVal
  rw [headBytes_of_ok hHead, hHead]

theorem putElements_ok (elements : Elements) {w : TLVWriter}
  (hLegal : elements.Legal w.mContainerType)
  (h : HasRoom (elements.encode w.implicitProfileId w.mContainerType).length w) :
  ∃ w', putElements elements w = (.ok (), w') := by
  induction elements generalizing w with
  | nil => exact ⟨w, rfl⟩
  | leaf tag value next ih =>
    obtain ⟨hTag, _, hNext⟩ := hLegal
    simp only [Elements.encode] at h
    rw [List.length_append] at h
    obtain ⟨w₁, hValue⟩ := HasRoom.putValue (elementHead_of_legal hTag _ _ _)
      (h.mono (Nat.le_add_right _ _))
    have hWrote := putValue_wrote h.lt hValue
    have hRoom := h.wrote hWrote (Nat.le_refl _)
    rw [← hWrote.profile, ← hWrote.containerType] at hRoom
    obtain ⟨w₂, hRest⟩ := ih (hWrote.containerType ▸ hNext) hRoom
    exact ⟨w₂, (bind_ok hValue).trans hRest⟩
  | container tag type members next ihMembers ihNext =>
    obtain ⟨hTag, hType, hMembers, hNext⟩ := hLegal
    have hLt := h.lt
    have hBound := h.bound
    have hLimit := h.limit
    simp only [Elements.encode, List.length_append, terminator, List.length_cons,
      List.length_nil] at h hLimit
    obtain ⟨outer, w₁, hStart⟩ := HasRoom.startContainer hType (elementHead_of_legal hTag _ _ _)
      (h.mono (by omega))
    obtain ⟨rfl, _, hMarker, hHead, hMaxLen, hType₁, hOpen₁, _⟩ := startContainer_ok hLt hBound hStart
    have hReserved : w₁.mMaxLen < 2 ^ 32 ∧ w.mMaxLen ≤ w₁.mMaxLen + 1 := by
      rw [hMaxLen, reservedMaxLen, endOfContainerMarkerSize]
      split <;> omega
    have hRoom₁ : HasRoom (members.encode w.implicitProfileId type).length w₁ :=
      h.after hHead hOpen₁ hReserved.1 (by omega) (by omega)
    rw [← hHead.profile, ← hType₁] at hRoom₁
    obtain ⟨w₂, hInner⟩ := ihMembers (hType₁ ▸ hMembers) hRoom₁
    have hWrote₂ := putElements_wrote members hHead.lt hReserved.1 hInner
    rw [hHead.profile, hType₁] at hWrote₂
    have hRoom₂ := hRoom₁
    rw [hHead.profile, hType₁] at hRoom₂
    obtain ⟨hStore₁, hRemaining₁⟩ := hHead.contiguous h.store
    obtain ⟨hStore₂, hRemaining₂⟩ := hWrote₂.contiguous hStore₁
    have hBuffer := h.buffer
    have hReleased : (if w₂.mCloseContainerReserved then w₂.mMaxLen + endOfContainerMarkerSize
        else w₂.mMaxLen) = w.mMaxLen := by
      rw [hWrote₂.reserved, hHead.reserved, hWrote₂.maxLen, hMaxLen, reservedMaxLen]
      cases hFlag : w.mCloseContainerReserved with
      | false => simp
      | true =>
        have := hMarker hFlag
        simp only [if_true, endOfContainerMarkerSize]
        omega
    have hLen₂ : w₂.mLenWritten = w.mLenWritten +
        (headBytes w.mContainerType w.implicitProfileId type.toElementType tag 0).length +
        (members.encode w.implicitProfileId type).length := by
      rw [(hHead.trans hWrote₂.toEmits).lenWritten, List.length_append, add32_of_lt (by omega)]
      omega
    obtain ⟨w₃, hEnd⟩ := HasRoom.endContainer w.mContainerType (w := w₂)
      (by rw [hWrote₂.containerType, hType₁]; exact hType) hStore₂
      (hWrote₂.containerOpen.trans hOpen₁) (by rw [hReleased]; omega) (by rw [hReleased]; exact hBound)
      (by omega)
    obtain ⟨_, hTerminator, hType₃, hOpen₃, hMaxLen₃⟩ := endContainer_ok hWrote₂.lt hEnd
    have hAll := (hHead.trans hWrote₂.toEmits).trans hTerminator
    have hMax₃ : w₃.mMaxLen = w.mMaxLen := by
      rw [hMaxLen₃, ← hReleased]
      split
      · rw [add32_of_lt]
        rw [if_pos ‹_›] at hReleased
        omega
      · rfl
    have hRoom₃ : HasRoom (next.encode w.implicitProfileId w.mContainerType).length w₃ := by
      refine h.after hAll hOpen₃ (hMax₃ ▸ hBound) ?_ ?_ <;>
        simp only [List.length_append, terminator, List.length_cons, List.length_nil] <;> omega
    rw [← hAll.profile, ← hType₃] at hRoom₃
    obtain ⟨w₄, hRest⟩ := ihNext (hType₃ ▸ hNext) hRoom₃
    refine ⟨w₄, ?_⟩
    exact (bind_ok hStart).trans ((bind_ok hInner).trans ((bind_ok hEnd).trans hRest))

end Chip.TLV
