import Chip.TLV.Fields

/-! Records of a fixed size: a structure is written into a buffer, its bytes are stored and
later read back. A record that does not fit is refused with one error only. -/
namespace Chip.TLV

open Proc List TLVFieldSize TLVWriter

/-- A contiguous writer that is inside `owed` containers. -/
structure Roomy (owed : Nat) (w : TLVWriter) : Prop where
  store : w.mBackingStore = none
  containerOpen : w.mContainerOpen = false
  reserved : w.mCloseContainerReserved = true
  limit : w.mMaxLen + owed ≤ w.mLenWritten + w.mRemainingLen
  bound : w.mLenWritten + w.mRemainingLen < 2 ^ 32

namespace Roomy

variable {owed : Nat} {w w' : TLVWriter}

theorem emits {q : Bytes} (h : Roomy owed w) (hEmits : Emits q w w') :
  w'.mBackingStore = none ∧ w'.mCloseContainerReserved = true ∧
    w'.mLenWritten + w'.mRemainingLen = w.mLenWritten + w.mRemainingLen := by
  obtain ⟨hStore, hRemaining⟩ := hEmits.contiguous h.store
  have hBound := h.bound
  refine ⟨hStore, hEmits.reserved.trans h.reserved, ?_⟩
  rw [hEmits.lenWritten, add32_of_lt (by omega)]
  omega

theorem wrote {q : Bytes} (h : Roomy owed w) (hWrote : Wrote q w w') :
  Roomy owed w' ∧ w'.mLenWritten + w'.mRemainingLen = w.mLenWritten + w.mRemainingLen := by
  obtain ⟨hStore, hReserved, hSum⟩ := h.emits hWrote.toEmits
  refine ⟨⟨hStore, hWrote.containerOpen.trans h.containerOpen, hReserved, ?_, ?_⟩, hSum⟩
  · rw [hWrote.maxLen, hSum]
    exact h.limit
  · rw [hSum]
    exact h.bound

theorem lt (h : Roomy owed w) : w.mLenWritten < 2 ^ 32 := by
  have hBound := h.bound
  omega

variable {e : ChipError}

section

variable (h : Roomy owed w)
include h

theorem writeData_error {p : Bytes} (hLength : w.mLenWritten + w.mRemainingLen + p.length < 2 ^ 32)
  (hRun : writeData p w = (.error e, w')) : e = .bufferTooSmall := by
  by_cases hLimit : add32 w.mLenWritten p.length ≤ w.mMaxLen
  · have hRoom : p.length ≤ w.mRemainingLen := by
      have hMax := h.limit
      rw [add32_of_lt (by omega)] at hLimit
      omega
    have hOk := writeData_contiguous h.store hLimit hRoom
    rw [hRun] at hOk
    cases hOk
  · simp only [writeData, read_bind, verify_bind, if_neg hLimit] at hRun
    cases hRun
    rfl

theorem writeElementHead_error {elemType : TLVElementType} {tag : Tag} {lenOrVal : Nat}
  {head : Bytes}
  (hHead : elementHead w.mContainerType w.implicitProfileId elemType tag lenOrVal = .ok head)
  (hLength : w.mLenWritten + w.mRemainingLen + head.length < 2 ^ 32)
  (hRun : writeElementHead elemType tag lenOrVal w = (.error e, w')) : e = .bufferTooSmall := by
  simp only [writeElementHead, read_bind, verify_bind, h.containerOpen, if_true,
    hHead] at hRun
  split_ifs at hRun with hDirect
  · cases hRun
  · exact h.writeData_error hLength hRun

theorem putValue_error {tag : Tag} {value : Value} {head : Bytes}
  (hHead : elementHead w.mContainerType w.implicitProfileId value.elementType tag
    value.lenOrVal = .ok head)
  (hLength : w.mLenWritten + w.mRemainingLen + (head ++ value.data).length < 2 ^ 32)
  (hRun : putValue tag value w = (.error e, w')) : e = .bufferTooSmall := by
  rw [length_append] at hLength
  have hData : ∀ data, value.data = data →
      ((do writeElementHead value.elementType tag value.lenOrVal; writeData data) : WriterM Unit) w =
        (.error e, w') → e = .bufferTooSmall := by
    rintro data rfl hBoth
    rcases bind_eq_error hBoth with hFirst | ⟨u, w₁, hFirst, hRest⟩
    · exact h.writeElementHead_error hHead (by omega) hFirst
    · obtain ⟨hRoomy, hSum⟩ := h.wrote (writeElementHead_wrote h.lt hFirst)
      exact hRoomy.writeData_error (by omega) hRest
  cases value with
  | utf8String s => exact hData s rfl hRun
  | byteString s => exact hData s rfl hRun
  | _ => exact h.writeElementHead_error hHead (by omega) hRun

theorem startContainer_error {tag : Tag} {type : TLVType} {head : Bytes}
  (hType : type.isContainer = true)
  (hHead : elementHead w.mContainerType w.implicitProfileId type.toElementType tag 0 = .ok head)
  (hLength : w.mLenWritten + w.mRemainingLen + head.length < 2 ^ 32)
  (hRun : startContainer tag type w = (.error e, w')) : e = .bufferTooSmall := by
  have hContainerHead : writeContainerHead tag type w = (.error e, w') := by
    rcases bind_eq_error hRun with hFail | ⟨u, w₁, -, hRest⟩
    · exact hFail
    · cases hRest
  by_cases hSmall : endOfContainerMarkerSize ≤ w.mMaxLen
  · let w₁ : TLVWriter := { w with mMaxLen := w.mMaxLen - endOfContainerMarkerSize }
    have hReserve : reserveCloseContainer w = (.ok (), w₁) := by
      simp only [reserveCloseContainer, read_bind, h.reserved, if_true, verify_bind,
        if_pos hSmall]
      rfl
    have hRoomy : Roomy owed w₁ := by
      have hLimit := h.limit
      refine ⟨h.store, h.containerOpen, h.reserved, ?_, h.bound⟩
      change w.mMaxLen - endOfContainerMarkerSize + owed ≤ w.mLenWritten + w.mRemainingLen
      omega
    simp only [writeContainerHead, verify_bind, if_pos hType] at hContainerHead
    rw [bind_ok hReserve, attempt_bind] at hContainerHead
    cases hWrite : writeElementHead type.toElementType tag 0 w₁ with
    | mk result w₂ =>
      rw [hWrite] at hContainerHead
      cases result with
      | ok u => cases hContainerHead
      | error e' =>
        cases hContainerHead
        exact hRoomy.writeElementHead_error hHead hLength hWrite
  · have hReserve : reserveCloseContainer w = (.error .bufferTooSmall, w) := by
      simp only [reserveCloseContainer, read_bind, h.reserved, if_true, verify_bind,
        if_neg hSmall]
    simp only [writeContainerHead, verify_bind, if_pos hType] at hContainerHead
    rw [bind_error hReserve] at hContainerHead
    cases hContainerHead
    rfl

end

theorem endContainer_error {outer : TLVType} (h : Roomy (owed + 1) w)
  (hType : w.mContainerType.isContainer = true) (hLength : w.mLenWritten + w.mRemainingLen + 1 < 2 ^ 32)
  (hRun : endContainer outer w = (.error e, w')) : e = .bufferTooSmall := by
  have hLimit := h.limit
  have hBound := h.bound
  let w₁ : TLVWriter := { w with
    mMaxLen := if w.mCloseContainerReserved then add32 w.mMaxLen endOfContainerMarkerSize
      else w.mMaxLen
    mContainerType := outer }
  have hMax : w₁.mMaxLen = w.mMaxLen + 1 := by
    simp only [w₁, h.reserved, if_true]
    rw [add32_of_lt (by simp only [endOfContainerMarkerSize]; omega)]
    rfl
  have hRoomy : Roomy owed w₁ := by
    refine ⟨h.store, h.containerOpen, h.reserved, ?_, h.bound⟩
    rw [hMax]
    change w.mMaxLen + 1 + owed ≤ w.mLenWritten + w.mRemainingLen
    omega
  simp only [endContainer, read_bind, verify_bind, if_pos hType, modify_bind,
    releaseCloseContainer] at hRun
  exact hRoomy.writeElementHead_error (elementHead_terminator _ _) hLength hRun

theorem putElements_error (elements : Elements) (h : Roomy owed w)
  (hLegal : elements.Legal w.mContainerType) (hLength : w.mLenWritten + w.mRemainingLen +
    (elements.encode w.implicitProfileId w.mContainerType).length < 2 ^ 32)
  (hRun : putElements elements w = (.error e, w')) : e = .bufferTooSmall := by
  have hBound := h.bound
  have hLimit := h.limit
  induction elements generalizing owed w w' with
  | nil => cases hRun
  | leaf tag value next ih =>
    obtain ⟨hTag, -, hNext⟩ := hLegal
    simp only [Elements.encode, length_append] at hLength
    rcases bind_eq_error hRun with hValue | ⟨u, w₁, hValue, hRest⟩
    · refine h.putValue_error (elementHead_of_legal hTag _ _ _) ?_ hValue
      rw [length_append]
      omega
    · have hWrote := putValue_wrote h.lt hValue
      obtain ⟨hRoomy, hSum⟩ := h.wrote hWrote
      refine ih hRoomy (hWrote.containerType ▸ hNext) ?_ hRest hRoomy.bound hRoomy.limit
      rw [hWrote.profile, hWrote.containerType, hSum]
      omega
  | container tag type members next ihMembers ihNext =>
    obtain ⟨hTag, hType, hMembers, hNext⟩ := hLegal
    simp only [Elements.encode, length_append, terminator, length_cons,
      length_nil] at hLength
    rcases bind_eq_error hRun with hStart | ⟨outer, w₁, hStart, hRest⟩
    · exact h.startContainer_error hType (elementHead_of_legal hTag _ _ _) (by omega) hStart
    obtain ⟨rfl, -, hMarker, hHead, hMaxLen, hType₁, hOpen₁, -⟩ :=
      startContainer_ok h.lt (by omega) hStart
    obtain ⟨hStore₁, hReserved₁, hSum₁⟩ := h.emits hHead
    have hMarker := hMarker h.reserved
    have hMaxLen₁ : w₁.mMaxLen + 1 = w.mMaxLen := by
      rw [hMaxLen, reservedMaxLen, h.reserved]
      simp only [if_true, endOfContainerMarkerSize]
      omega
    have hRoomy₁ : Roomy (owed + 1) w₁ := ⟨hStore₁, hOpen₁, hReserved₁, by omega, by omega⟩
    rcases bind_eq_error hRest with hInner | ⟨u, w₂, hInner, hRest⟩
    · refine ihMembers hRoomy₁ (hType₁ ▸ hMembers) ?_ hInner hRoomy₁.bound hRoomy₁.limit
      rw [hHead.profile, hType₁, hSum₁]
      omega
    have hWrote₂ := putElements_wrote members hHead.lt (by omega) hInner
    obtain ⟨hRoomy₂, hSum₂⟩ := hRoomy₁.wrote hWrote₂
    have hType₂ : w₂.mContainerType = type := hWrote₂.containerType.trans hType₁
    rcases bind_eq_error hRest with hEnd | ⟨u', w₃, hEnd, hRest⟩
    · exact hRoomy₂.endContainer_error (hType₂ ▸ hType) (by omega) hEnd
    obtain ⟨-, hTerminator, hType₃, hOpen₃, hMaxLen₃⟩ := endContainer_ok hRoomy₂.lt hEnd
    obtain ⟨hStore₃, hReserved₃, hSum₃⟩ := hRoomy₂.emits hTerminator
    -- the byte reserved for the terminator is given back
    have hMax₃ : w₃.mMaxLen = w.mMaxLen := by
      have hLimit₂ := hRoomy₂.limit
      rw [hMaxLen₃, hRoomy₂.reserved, if_pos rfl, hWrote₂.maxLen, add32_of_lt]
      · exact hMaxLen₁
      · simp only [endOfContainerMarkerSize]
        omega
    have hRoomy₃ : Roomy owed w₃ := ⟨hStore₃, hOpen₃, hReserved₃, by omega, by omega⟩
    refine ihNext hRoomy₃ (hType₃ ▸ hNext) ?_ hRest hRoomy₃.bound hRoomy₃.limit
    rw [hTerminator.profile, hWrote₂.profile, hHead.profile, hType₃]
    omega

end Roomy

/-- The bytes of a sequence that is written into a buffer of this size. -/
def encodeInto (size : Nat) (elements : Elements) : Except ChipError Bytes :=
  match putElements elements (TLVWriter.init size) with
  | (.ok (), w) => .ok w.mBuf
  | (.error e, _) => .error e

def Elements.bytes (elements : Elements) : Bytes :=
  elements.encode profileIdNotSpecified .notSpecified

section EncodeInto

variable {size : Nat} {elements : Elements} {bytes : Bytes}

theorem encodeInto_ok (h : encodeInto size elements = .ok bytes) :
  bytes = elements.bytes ∧ bytes.length ≤ size ∧ bytes.length < 2 ^ 32 := by
  unfold encodeInto at h
  split at h
  · rename_i w hOk
    cases h
    have hMax : (TLVWriter.init size).mMaxLen < 2 ^ 32 := by
      simp only [TLVWriter.init]
      omega
    have hWrote := putElements_wrote elements (show 0 < 2 ^ 32 by decide) hMax hOk
    obtain ⟨hStore, hRemaining⟩ := hWrote.contiguous rfl
    have hBytes : w.mBuf = elements.bytes := by
      have hEmitted := hWrote.emitted
      simpa [TLVWriter.emitted, hStore, TLVWriter.init, Elements.bytes] using hEmitted
    have hSum : elements.bytes.length ≤ min size (2 ^ 32 - 1) := by
      change w.mRemainingLen + elements.bytes.length = min size (2 ^ 32 - 1) at hRemaining
      omega
    rw [hBytes]
    exact ⟨rfl, by omega, by omega⟩
  · cases h

theorem encodeInto_of_fits (hLegal : elements.Legal .notSpecified)
  (hFits : elements.bytes.length ≤ size) (hSize : size < 2 ^ 32) :
  encodeInto size elements = .ok elements.bytes := by
  have hRoom : HasRoom (elements.encode (TLVWriter.init size).implicitProfileId
      (TLVWriter.init size).mContainerType).length (TLVWriter.init size) := by
    have hMin : min size (2 ^ 32 - 1) = size := by omega
    exact {
      store := rfl
      containerOpen := rfl
      limit := by
        change 0 + elements.bytes.length ≤ min size (2 ^ 32 - 1)
        omega
      bound := by
        change min size (2 ^ 32 - 1) < 2 ^ 32
        omega
      buffer := by
        change elements.bytes.length ≤ min size (2 ^ 32 - 1)
        omega }
  obtain ⟨w, hOk⟩ := putElements_ok elements hLegal hRoom
  have hEncode : encodeInto size elements = .ok w.mBuf := by
    unfold encodeInto
    rw [hOk]
  rw [hEncode, (encodeInto_ok hEncode).1]

theorem encodeInto_error {e : ChipError} (hLegal : elements.Legal .notSpecified)
  (hLength : size + elements.bytes.length < 2 ^ 32) (h : encodeInto size elements = .error e) :
  e = .bufferTooSmall := by
  unfold encodeInto at h
  split at h
  · cases h
  · rename_i e' w hRun
    cases h
    have hRoomy : Roomy 0 (TLVWriter.init size) := by
      refine ⟨rfl, rfl, rfl, ?_, ?_⟩
      · simp [TLVWriter.init]
      · simp only [TLVWriter.init]
        omega
    refine hRoomy.putElements_error elements hLegal ?_ hRun
    change 0 + min size (2 ^ 32 - 1) + elements.bytes.length < 2 ^ 32
    omega

theorem before_init (elements : Elements) (hLength : elements.bytes.length < 2 ^ 32) :
  Before .notSpecified profileIdNotSpecified elements.bytes.length (elements.bytes ++ [])
    (TLVReader.init elements.bytes elements.bytes.length) := by
  have hMin : min elements.bytes.length (2 ^ 32 - 1) = elements.bytes.length := by omega
  refine Settled.before ⟨by simp [TLVReader.init, TLVReader.elementType], rfl,
    by simp [TLVReader.init]⟩ ?_
  exact {
    store := rfl
    buffer := by simp only [TLVReader.init, hMin, List.take_length, List.append_nil]
    maxLen := by simp only [TLVReader.init, hMin]
    length := by simp [TLVReader.init]
    bound := hLength
    context := rfl
    profile := rfl }

end EncodeInto

theorem headBytes_context_length_of {context : TLVType} (profile : BitVec 32)
  (elemType : TLVElementType) (tagNum : BitVec 8) (lenOrVal : Nat)
  (h : context = .struct ∨ context = .list) :
  (headBytes context profile elemType (contextTag tagNum) lenOrVal).length =
    2 + elemType.fieldSize.bytes := by
  obtain ⟨hSpecial, hNum⟩ := contextTag_special tagNum
  have hEncode : encodeTag context profile elemType (contextTag tagNum) =
      .ok (.contextSpecific, LittleEndian.encode 1 (tagNumFromTag (contextTag tagNum)).toNat) := by
    rcases h with rfl | rfl <;> simp [encodeTag, hSpecial, hNum]
  simp only [headBytes, elementHead, hEncode, Except.toOption, Option.getD_some, cons_append,
    length_cons, length_append, LittleEndian.encode_length]
  omega

theorem headBytes_context_length (profile : BitVec 32) (elemType : TLVElementType) (tagNum : BitVec 8)
  (lenOrVal : Nat) :
  (headBytes .struct profile elemType (contextTag tagNum) lenOrVal).length =
    2 + elemType.fieldSize.bytes :=
  headBytes_context_length_of profile elemType tagNum lenOrVal (.inl rfl)

theorem headBytes_anonymous_length {context : TLVType} (profile : BitVec 32)
  (elemType : TLVElementType) (lenOrVal : Nat) (h : context = .notSpecified ∨ context = .array) :
  (headBytes context profile elemType anonymousTag lenOrVal).length =
    1 + elemType.fieldSize.bytes := by
  have hSpecial : isSpecialTag anonymousTag = true := by decide
  have hNum : ¬ (tagNumFromTag anonymousTag).toNat ≤ Tag.contextTagMaxNum.toNat := by decide
  have hEncode : encodeTag context profile elemType anonymousTag = .ok (.anonymous, []) := by
    rcases h with rfl | rfl <;> simp [encodeTag, hSpecial, hNum]
  simp only [headBytes, elementHead, hEncode, Except.toOption, Option.getD_some, cons_append,
    length_cons, length_append, LittleEndian.encode_length, length_nil]
  omega

theorem uintElementType_bytes {v : UInt64} (size : TLVFieldSize) (h : v.toNat < 256 ^ size.bytes)
  (hSize : size = .size1Byte ∨ size = .size2Byte ∨ size = .size4Byte) :
  (uintElementType v).fieldSize.bytes ≤ size.bytes := by
  unfold uintElementType
  rcases hSize with rfl | rfl | rfl <;> simp only [bytes] at h ⊢ <;>
    split_ifs <;> simp only [TLVElementType.fieldSize, bytes] <;> omega

theorem uintElementType_uint64 (n : UInt64) : (uintElementType n).fieldSize.bytes ≤ 8 := by
  unfold uintElementType
  split_ifs <;> decide

theorem struct_fieldBytes : TLVType.struct.toElementType.fieldSize.bytes = 0 := rfl

theorem array_fieldBytes : TLVType.array.toElementType.fieldSize.bytes = 0 := rfl

theorem list_fieldBytes : TLVType.list.toElementType.fieldSize.bytes = 0 := rfl

theorem uintElementType_uint8 (n : UInt8) : (uintElementType n.toUInt64).fieldSize.bytes ≤ 1 :=
  uintElementType_bytes .size1Byte (by simpa [bytes] using n.toNat_lt) (.inl rfl)

theorem uintElementType_uint16 (n : UInt16) : (uintElementType n.toUInt64).fieldSize.bytes ≤ 2 :=
  uintElementType_bytes .size2Byte (by simpa [bytes] using n.toNat_lt) (.inr (.inl rfl))

theorem uintElementType_uint32 (n : UInt32) : (uintElementType n.toUInt64).fieldSize.bytes ≤ 4 :=
  uintElementType_bytes .size4Byte (by simpa [bytes] using n.toNat_lt) (.inr (.inr rfl))

end Chip.TLV
