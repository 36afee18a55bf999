import Chip.TLV.ReaderSpec
import Chip.TLV.Writing

/-! Walking a written sequence. The parser recovers every element of the encoding,
in order and with its nesting, and stops exactly at the end of the input. -/
namespace Chip.TLV

open Proc TLVElementType Elements TLVReader

/-- A contiguous reader positioned before the bytes `buf`, which end at its limit. -/
structure Reads (context : TLVType) (profile : BitVec 32) (limit : Nat) (buf : Bytes)
    (r : TLVReader) : Prop where
  store : r.mBackingStore = none
  buffer : r.mBuf = buf
  maxLen : r.mMaxLen = limit
  length : r.mLenRead + buf.length = limit
  bound : limit < 2 ^ 32
  context : r.mContainerType = context
  profile : r.implicitProfileId = profile

variable {limit : Nat}
variable {context : TLVType} {profile : BitVec 32} {r : TLVReader} {elemType : TLVElementType}
  {rest : Bytes}

theorem Reads.advance {p rest : Bytes} (h : Reads context profile limit (p ++ rest) r) :
  Reads context profile limit rest (r.advance p.length) := by
  have hLength := h.length
  have hBound := h.bound
  rw [List.length_append] at hLength
  exact {
    store := h.store
    buffer := by simp [TLVReader.advance, h.buffer]
    maxLen := h.maxLen
    length := by
      simp only [TLVReader.advance, add32_of_lt (show r.mLenRead + p.length < 2 ^ 32 by omega)]
      omega
    bound := h.bound
    context := h.context
    profile := h.profile }

theorem readData_buffered {p rest : Bytes} (h : r.mBuf = p ++ rest) (hLen : r.mLenRead < 2 ^ 32) :
  readData p.length r = (.ok p, r.advance p.length) := by
  unfold readData
  cases hp : p.length with
  | zero =>
    have hNil : p = [] := List.length_eq_zero_iff.mp hp
    have hSame : r.advance 0 = r := by
      simp only [TLVReader.advance, List.drop_zero, add32, Nat.add_zero, Nat.mod_eq_of_lt hLen]
    simp [readDataLoop, hNil, hSame]
  | succ n =>
    have hNe : r.mBuf ≠ [] := by
      rw [h]
      intro hEmpty
      simp [List.append_eq_nil_iff.mp hEmpty] at hp
    have hMin : min (n + 1) r.mBuf.length = n + 1 := by
      rw [h, List.length_append]
      omega
    have hTake : r.mBuf.take (n + 1) = p := by rw [h, ← hp, List.take_left']; rfl
    have hRest : readDataLoop n 0 (r.advance (n + 1)) = (.ok [], r.advance (n + 1)) := by
      cases n <;> simp [readDataLoop]
    simp only [readDataLoop, Nat.add_one_ne_zero, if_false]
    rw [bind_ok (ensureData_nonempty hNe _), read_bind, hMin,
      bind_ok (consume_apply _ _), Nat.sub_self, bind_ok hRest, hTake]
    simp

theorem readElement_decode {control : TLVTagControl} {tag : Tag} {tagBytes rest : Bytes} {lenOrVal : Nat}
  (hNamed : elemType ≠ .notSpecified) (hValid : elemType.isValid = true)
  (hTagSize : tagBytes.length = control.tagSize)
  (hTag : ∀ rest, readTag profile control (tagBytes ++ rest) = (tag, rest))
  (hLong : elemType.hasLength = true → lenOrVal % 256 ^ elemType.fieldSize.bytes < 2 ^ 32)
  (h : Reads context profile limit ((controlByte control elemType :: tagBytes ++
    LittleEndian.encode elemType.fieldSize.bytes lenOrVal) ++ rest) r) :
  ∃ r', readElement r = verifyElement r' ∧ Reads context profile limit rest r' ∧
    r'.elementType = elemType ∧ r'.mElemTag = tag ∧
    r'.mElemLenOrVal = lenOrVal % 256 ^ elemType.fieldSize.bytes := by
  refine ⟨_, readElement_buffered hNamed hValid hTagSize (h.profile ▸ hTag) hLong h.buffer, ?_,
    elementType_controlByte control hNamed, rfl, rfl⟩
  exact { h.advance with buffer := h.advance.buffer }

theorem readElement_written {context current : TLVType} {tag : Tag} {lenOrVal : Nat}
  (hTag : tag.LegalIn context) (hVerify : verifyTagInContainer current tag = .ok ())
  (hNamed : elemType ≠ .notSpecified) (hNotEnd : elemType ≠ .endOfContainer)
  (hValid : elemType.isValid = true)
  (hData : elemType.hasLength = true → lenOrVal % 256 ^ elemType.fieldSize.bytes ≤ rest.length)
  (h : Reads current profile limit (headBytes context profile elemType tag lenOrVal ++ rest) r) :
  ∃ r', readElement r = (.ok (), r') ∧ Reads current profile limit rest r' ∧
    r'.elementType = elemType ∧ r'.mElemTag = tag ∧
    r'.mElemLenOrVal = lenOrVal % 256 ^ elemType.fieldSize.bytes := by
  obtain ⟨control, tagBytes, hHead, hTagSize, hRead⟩ := elementHead_legal profile
    (hTag.roundTrips profile elemType) lenOrVal
  rw [headBytes_of_ok hHead] at h
  have hBound := h.bound
  have hLength := h.length
  rw [List.length_append] at hLength
  obtain ⟨r', hElement, hReads, hType, hElemTag, hValue⟩ := readElement_decode hNamed hValid
    hTagSize hRead (fun hHas => by have := hData hHas; omega) h
  refine ⟨r', ?_, hReads, hType, hElemTag, hValue⟩
  have hUnderrun : elemType.hasLength = true →
      r'.mElemLenOrVal % 2 ^ 32 ≤ sub32 r'.mMaxLen r'.mLenRead := by
    intro hHas
    have := hData hHas
    have hLength' := hReads.length
    have hBound' := hReads.bound
    rw [hReads.maxLen, sub32_of_le hBound' (by omega), hValue, Nat.mod_eq_of_lt (by omega)]
    omega
  rw [hElement]
  simp only [verifyElement, read_bind, hType, if_neg hNotEnd, hElemTag, hReads.context,
    hVerify, verify_bind, if_pos hTag.ne_unknownImplicitTag]
  by_cases hHas : elemType.hasLength = true
  · simp only [hHas, if_true, verify_apply]
    exact if_pos (hUnderrun hHas)
  · simp [hHas]

theorem readElement_legal {tag : Tag} {lenOrVal : Nat} (hTag : tag.LegalIn context)
  (hNamed : elemType ≠ .notSpecified) (hNotEnd : elemType ≠ .endOfContainer)
  (hValid : elemType.isValid = true)
  (hData : elemType.hasLength = true → lenOrVal % 256 ^ elemType.fieldSize.bytes ≤ rest.length)
  (h : Reads context profile limit (headBytes context profile elemType tag lenOrVal ++ rest) r) :
  ∃ r', readElement r = (.ok (), r') ∧ Reads context profile limit rest r' ∧
    r'.elementType = elemType ∧ r'.mElemTag = tag ∧
    r'.mElemLenOrVal = lenOrVal % 256 ^ elemType.fieldSize.bytes :=
  readElement_written hTag hTag.verify hNamed hNotEnd hValid hData h

theorem readElement_terminator (hContext : context ≠ .notSpecified)
  (h : Reads context profile limit (terminator ++ rest) r) :
  ∃ r', readElement r = (.ok (), r') ∧ Reads context profile limit rest r' ∧
    r'.elementType = .endOfContainer := by
  have hHead : Reads context profile limit ((controlByte .anonymous .endOfContainer :: [] ++
      LittleEndian.encode endOfContainer.fieldSize.bytes 0) ++ rest) r := h
  have hTagRead : ∀ rest, readTag profile .anonymous ([] ++ rest) = (anonymousTag, rest) :=
    fun _ => rfl
  obtain ⟨r', hElement, hReads, hType, hTag, _⟩ := readElement_decode (by decide) rfl rfl hTagRead
    (by decide) hHead
  refine ⟨r', ?_, hReads, hType⟩
  rw [hElement]
  simp [verifyElement, hType, hReads.context, hContext, hTag, hasLength]

theorem next_settled {r r' : TLVReader} (hSettled : Settled r)
  (hRead : readElement r.clearElementState = (.ok (), r'))
  (hNotEnd : r'.elementType ≠ .endOfContainer)
  (hData : r'.elementType.hasLength = true → r'.getLength ≠ 0 → r'.mBuf ≠ []) :
  next r = (.ok (), r') := by
  unfold next
  rw [bind_ok (skip_settled hSettled), bind_ok hRead, read_bind, verify_bind,
    if_pos hNotEnd]
  by_cases hString : r'.elementType.hasLength = true ∧ r'.getLength ≠ 0
  · rw [if_pos hString]
    exact ensureData_nonempty (hData hString.1 hString.2) _
  · rw [if_neg hString]
    rfl

theorem next_terminator (hContext : context ≠ .notSpecified) (hSettled : Settled r)
  (h : Reads context profile limit (terminator ++ rest) r) :
  ∃ r', next r = (.error .endOfTLV, r') ∧ Reads context profile limit rest r' ∧
    r'.elementType = .endOfContainer := by
  obtain ⟨r', hRead, hReads, hType⟩ := readElement_terminator hContext
    (r := r.clearElementState) { h with buffer := h.buffer }
  refine ⟨r', ?_, hReads, hType⟩
  unfold next
  rw [bind_ok (skip_settled hSettled), bind_ok hRead, read_bind, verify_bind,
    if_neg (by simp [hType])]

theorem next_end (hSettled : Settled r) (h : Reads .notSpecified profile limit [] r) :
  next r = (.error .endOfTLV, r.clearElementState) := by
  have hLength := h.length
  have hEnsure : ensureData .endOfTLV r.clearElementState =
      (.error .endOfTLV, r.clearElementState) := by
    have hBuf : r.clearElementState.mBuf = [] := h.buffer
    have hRead : r.clearElementState.mLenRead = r.clearElementState.mMaxLen := by
      simpa [clearElementState, h.maxLen] using hLength
    simp [ensureData, hBuf, hRead]
  unfold next
  rw [bind_ok (skip_settled hSettled)]
  exact bind_error (bind_error hEnsure)

theorem toInt_cases (v : Int64) :
  v.toInt = v.toUInt64.toNat ∧ v.toUInt64.toNat < 2 ^ 63 ∨
    v.toInt = v.toUInt64.toNat - 2 ^ 64 ∧ 2 ^ 63 ≤ v.toUInt64.toNat := by
  have hInt : v.toInt = v.toUInt64.toBitVec.toInt := rfl
  have hNat : v.toUInt64.toNat = v.toUInt64.toBitVec.toNat := rfl
  rw [hInt, hNat, BitVec.toInt_eq_toNat_cond]
  split_ifs <;> omega

theorem getInt64_of_field {v : Int64} (hType : r.elementType = intElementType v)
  (hField : r.mElemLenOrVal = v.toUInt64.toNat % 256 ^ (intElementType v).fieldSize.bytes) :
  r.getInt64 = .ok v := by
  have hCases := toInt_cases v
  have hLt := v.toUInt64.toNat_lt
  have hBack : ∀ n : Int, n = v.toInt → Int64.ofInt n = v := by
    rintro _ rfl
    exact Int64.ofInt_toInt v
  unfold getInt64
  unfold intElementType at hType hField
  split_ifs at hType hField <;>
    simp only [fieldSize, TLVFieldSize.bytes] at hField <;>
    simp only [hType, hField, Except.ok.injEq] <;>
    apply hBack <;> simp only [castToSigned] <;> split_ifs <;> omega

theorem getUInt64_of_field {v : UInt64} (hType : r.elementType = uintElementType v)
  (hField : r.mElemLenOrVal = v.toNat % 256 ^ (uintElementType v).fieldSize.bytes) :
  r.getUInt64 = .ok v := by
  have hLt := v.toNat_lt
  have hSame : r.mElemLenOrVal = v.toNat := by
    rw [hField]
    unfold uintElementType
    split_ifs <;> simp only [fieldSize, TLVFieldSize.bytes] <;> omega
  unfold getUInt64
  unfold uintElementType at hType
  split_ifs at hType <;> simp [hType, hSame]

theorem lenOrVal_spec (value : Value) (hData : value.data.length < 2 ^ 32) :
  value.elementType ≠ .notSpecified ∧ value.elementType ≠ .endOfContainer ∧
    value.elementType.isValid = true ∧ value.elementType.isContainer = false ∧
    (value.elementType.hasLength = true →
      value.lenOrVal % 256 ^ value.elementType.fieldSize.bytes = value.data.length) := by
  cases value with
  | signedInteger v =>
    simp only [Value.elementType, intElementType]
    split_ifs <;> simp [TLVElementType.isValid, TLVElementType.isContainer, TLVElementType.hasLength]
  | unsignedInteger v =>
    simp only [Value.elementType, uintElementType]
    split_ifs <;> simp [TLVElementType.isValid, TLVElementType.isContainer, TLVElementType.hasLength]
  | boolean v =>
    cases v <;> simp [Value.elementType, TLVElementType.isValid, TLVElementType.isContainer,
      TLVElementType.hasLength]
  | utf8String s =>
    simp only [Value.data] at hData
    simp only [Value.elementType, utf8StringElementType, Value.lenOrVal, Value.data]
    split_ifs <;> simp [TLVElementType.isValid, TLVElementType.isContainer,
      TLVElementType.fieldSize, TLVFieldSize.bytes] <;> omega
  | byteString s =>
    simp only [Value.data] at hData
    simp only [Value.elementType, byteStringElementType, Value.lenOrVal, Value.data]
    split_ifs <;> simp [TLVElementType.isValid, TLVElementType.isContainer,
      TLVElementType.fieldSize, TLVFieldSize.bytes] <;> omega
  | _ =>
    simp [Value.elementType, TLVElementType.isValid, TLVElementType.isContainer,
      TLVElementType.hasLength]

theorem getBytes_string {s rest : Bytes} (hHas : r.elementType.hasLength = true)
  (hLen : r.mElemLenOrVal = s.length) (h : Reads context profile limit (s ++ rest) r)
  (hContainer : r.elementType.isContainer = false) (hEnd : r.elementType ≠ .endOfContainer) :
  ∃ r', getBytes r.getLength r = (.ok s, r') ∧ Reads context profile limit rest r' ∧ Settled r' := by
  have hBound := h.bound
  have hLength := h.length
  rw [List.length_append] at hLength
  have hMod : r.mElemLenOrVal % 2 ^ 32 = s.length := by
    rw [hLen, Nat.mod_eq_of_lt]
    omega
  have hFits : r.mElemLenOrVal ≤ r.getLength := by
    rw [getLength, if_pos hHas, hMod, hLen]
  have hRead := readData_buffered h.buffer (by omega)
  refine ⟨{ r.advance s.length with mElemLenOrVal := 0 }, ?_, ?_, ?_⟩
  · unfold getBytes
    rw [read_bind, verify_bind, if_pos hHas, verify_bind, if_pos hFits, hMod,
      bind_ok hRead, modify_bind, pure_apply]
  · exact { h.advance with buffer := h.advance.buffer }
  · exact ⟨hEnd, hContainer, fun _ => rfl⟩

theorem getValue_legal {value : Value} (hData : value.data.length < 2 ^ 32)
  (hType : r.elementType = value.elementType)
  (hField : r.mElemLenOrVal = value.lenOrVal % 256 ^ value.elementType.fieldSize.bytes)
  (h : Reads context profile limit (value.data ++ rest) r) :
  ∃ r', getValue r = (.ok value, r') ∧ Reads context profile limit rest r' ∧ Settled r' := by
  obtain ⟨_, hNotEnd, _, hNotContainer, hString⟩ := lenOrVal_spec value hData
  have hScalar : value.elementType.hasLength = false → Settled r := fun hNo =>
    ⟨hType ▸ hNotEnd, hType ▸ hNotContainer, by simp [hType, hNo]⟩
  cases value with
  | signedInteger v =>
    have hKind : r.getType = .signedInteger := by
      simp only [getType, hType, Value.elementType, intElementType]
      split_ifs <;> rfl
    have hGet := getInt64_of_field hType hField
    refine ⟨r, ?_, h, hScalar ?_⟩
    · simp [getValue, hKind, liftGet, hGet, Proc.bind_apply]
    · simp only [Value.elementType, intElementType]
      split_ifs <;> rfl
  | unsignedInteger v =>
    have hKind : r.getType = .unsignedInteger := by
      simp only [getType, hType, Value.elementType, uintElementType]
      split_ifs <;> rfl
    have hGet := getUInt64_of_field hType hField
    refine ⟨r, ?_, h, hScalar ?_⟩
    · simp [getValue, hKind, liftGet, hGet, Proc.bind_apply]
    · simp only [Value.elementType, uintElementType]
      split_ifs <;> rfl
  | boolean v =>
    refine ⟨r, ?_, h, hScalar ?_⟩ <;> cases v <;>
      simp [getValue, getType, hType, Value.elementType, TLVElementType.toTLVType,
        TLVElementType.hasLength, liftGet, getBool, Proc.bind_apply]
  | null =>
    refine ⟨r, ?_, h, hScalar rfl⟩
    simp [getValue, getType, hType, Value.elementType, TLVElementType.toTLVType]
  | float bits =>
    have hBits : r.mElemLenOrVal = bits.toNat := by
      have hLt := bits.toNat_lt
      simp only [Value.elementType, Value.lenOrVal, TLVElementType.fieldSize,
        TLVFieldSize.bytes] at hField
      omega
    refine ⟨r, ?_, h, hScalar rfl⟩
    simp [getValue, getType, hType, Value.elementType, TLVElementType.toTLVType, liftGet,
      getFloat, hBits, Proc.bind_apply]
  | double bits =>
    have hBits : r.mElemLenOrVal = bits.toNat := by
      have hLt := bits.toNat_lt
      simp only [Value.elementType, Value.lenOrVal, TLVElementType.fieldSize,
        TLVFieldSize.bytes] at hField
      omega
    refine ⟨r, ?_, h, hScalar rfl⟩
    simp [getValue, getType, hType, Value.elementType, TLVElementType.toTLVType, liftGet,
      getDouble, hBits, Proc.bind_apply]
  | utf8String s =>
    have hHas : (Value.utf8String s).elementType.hasLength = true := by
      simp only [Value.elementType, utf8StringElementType]
      split_ifs <;> rfl
    have hKind : r.getType = .utf8String := by
      simp only [getType, hType, Value.elementType, utf8StringElementType]
      split_ifs <;> rfl
    obtain ⟨r', hGet, hReads, hSettled⟩ := getBytes_string (hType ▸ hHas)
      (hField.trans (hString hHas)) h (hType ▸ hNotContainer) (hType ▸ hNotEnd)
    refine ⟨r', ?_, hReads, hSettled⟩
    simp only [getValue, Proc.read_bind, hKind]
    exact Proc.bind_ok hGet
  | byteString s =>
    have hHas : (Value.byteString s).elementType.hasLength = true := by
      simp only [Value.elementType, byteStringElementType]
      split_ifs <;> rfl
    have hKind : r.getType = .byteString := by
      simp only [getType, hType, Value.elementType, byteStringElementType]
      split_ifs <;> rfl
    obtain ⟨r', hGet, hReads, hSettled⟩ := getBytes_string (hType ▸ hHas)
      (hField.trans (hString hHas)) h (hType ▸ hNotContainer) (hType ▸ hNotEnd)
    refine ⟨r', ?_, hReads, hSettled⟩
    simp only [getValue, Proc.read_bind, hKind]
    exact Proc.bind_ok hGet

theorem TLVType.isContainer_cases {type : TLVType} (h : type.isContainer = true) :
  type ≠ .notSpecified ∧ type.toElementType.isContainer = true ∧
    type.toElementType.toTLVType = type ∧ type.toElementType.hasLength = false ∧
    type.toElementType ≠ .notSpecified ∧ type.toElementType ≠ .endOfContainer ∧
    type.toElementType.isValid = true := by
  cases type <;> simp_all [TLVType.isContainer, TLVType.toElementType, TLVElementType.isContainer,
    TLVElementType.toTLVType, TLVElementType.hasLength, TLVElementType.isValid]

theorem exitContainer_terminator (context : TLVType) {inner : TLVType}
  (hEnd : r.elementType = .endOfContainer) (h : Reads inner profile limit rest r) :
  ∃ r', exitContainer context r = (.ok (), r') ∧ Reads context profile limit rest r' ∧ Settled r' := by
  let r₁ : TLVReader := { r with mContainerOpen := false }
  have hEnd₁ : r₁.elementType = .endOfContainer := hEnd
  have hSkip : skipToEndOfContainer r = (.ok (), r₁) := by
    unfold skipToEndOfContainer
    rw [read_bind, modify_bind, skipLoop, read_bind, if_pos ⟨hEnd₁, rfl⟩]
    rfl
  refine ⟨{ r₁.clearElementState with mContainerType := context }, bind_ok hSkip, ?_, ?_⟩
  · exact { h with buffer := h.buffer, context := rfl }
  · exact ⟨(settled_clear r₁).notEnd, (settled_clear r₁).notContainer, (settled_clear r₁).noData⟩

theorem walk_legal (elements : Elements) {tail : Bytes} {fuel : Nat} {Done : TLVReader → Prop}
  (hLegal : elements.Legal context) (hSettled : Settled r) (hFuel : elements.size < fuel)
  (h : Reads context profile limit (elements.encode profile context ++ tail) r)
  (hTail : ∀ r', Settled r' → Reads context profile limit tail r' →
    ∃ r'', next r' = (.error .endOfTLV, r'') ∧ Done r'') :
  ∃ r', walk fuel r = (.ok elements, r') ∧ Done r' := by
  induction elements generalizing context tail r fuel Done with
  | nil =>
    obtain ⟨fuel, rfl⟩ : ∃ n, fuel = n + 1 := ⟨fuel - 1, by omega⟩
    obtain ⟨r', hNext, hDone⟩ := hTail r hSettled h
    refine ⟨r', ?_, hDone⟩
    simp [walk, hNext]
  | leaf tag value next ih =>
    obtain ⟨fuel, rfl⟩ : ∃ n, fuel = n + 1 := ⟨fuel - 1, by omega⟩
    obtain ⟨hTag, hData, hLegalNext⟩ := hLegal
    obtain ⟨hNamed, hNotEnd, hValid, hNotContainer, hString⟩ := lenOrVal_spec value hData
    simp only [encode, List.append_assoc] at h
    simp only [size] at hFuel
    obtain ⟨r₁, hRead, hReads₁, hType, hElemTag, hField⟩ := readElement_legal
      (r := r.clearElementState) hTag hNamed hNotEnd hValid
      (fun hHas => by rw [hString hHas, List.length_append]; omega) { h with buffer := h.buffer }
    have hNext : TLV.next r = (.ok (), r₁) := by
      refine next_settled hSettled hRead (hType ▸ hNotEnd) ?_
      intro hHas hLength hEmpty
      have hBuffer := hReads₁.buffer
      rw [hEmpty] at hBuffer
      have hNil := (List.append_eq_nil_iff.mp hBuffer.symm).1
      rw [getLength, if_pos hHas, hField, hString (hType ▸ hHas), hNil] at hLength
      simp at hLength
    obtain ⟨r₂, hGet, hReads₂, hSettled₂⟩ := getValue_legal hData hType hField hReads₁
    obtain ⟨r₃, hWalk, hDone⟩ := ih hLegalNext hSettled₂ (show next.size < fuel by omega) hReads₂ hTail
    refine ⟨r₃, ?_, hDone⟩
    simp only [walk, attempt_bind, hNext, read_bind, hType, hNotContainer,
      Bool.false_eq_true, if_false]
    rw [bind_ok hGet, bind_ok hWalk]
    simp [getTag, hElemTag]
  | container tag type members next ihMembers ihNext =>
    obtain ⟨fuel, rfl⟩ : ∃ n, fuel = n + 1 := ⟨fuel - 1, by omega⟩
    obtain ⟨hTag, hIsContainer, hLegalMembers, hLegalNext⟩ := hLegal
    obtain ⟨hNotTop, hContainer, hBack, hNoLength, hNamed, hNotEnd, hValid⟩ :=
      TLVType.isContainer_cases hIsContainer
    simp only [encode, List.append_assoc] at h
    simp only [size] at hFuel
    obtain ⟨r₁, hRead, hReads₁, hType, hElemTag, _⟩ := readElement_legal
      (r := r.clearElementState) hTag hNamed hNotEnd hValid
      (fun hHas => by simp [hNoLength] at hHas) { h with buffer := h.buffer }
    have hNext : TLV.next r = (.ok (), r₁) :=
      next_settled hSettled hRead (hType ▸ hNotEnd) (by simp [hType, hNoLength])
    let r₂ : TLVReader := { r₁.clearElementState with
      mContainerType := r₁.elementType.toTLVType, mContainerOpen := false }
    have hEnter : enterContainer r₁ = (.ok context, r₂) := by
      simp [enterContainer, hType, hContainer, r₂, hReads₁.context]
    have hReads₂ : Reads type profile limit (members.encode profile type ++
        (terminator ++ (next.encode profile context ++ tail))) r₂ :=
      { hReads₁ with buffer := hReads₁.buffer, context := by simp [r₂, hType, hBack] }
    have hSettled₂ : Settled r₂ := ⟨(settled_clear r₁).notEnd, (settled_clear r₁).notContainer,
      (settled_clear r₁).noData⟩
    have hTerminator : ∀ r', Settled r' → Reads type profile limit
        (terminator ++ (next.encode profile context ++ tail)) r' →
        ∃ r'', TLV.next r' = (.error .endOfTLV, r'') ∧
          (Reads type profile limit (next.encode profile context ++ tail) r'' ∧
            r''.elementType = .endOfContainer) :=
      fun r' hs hr => next_terminator hNotTop hs hr
    obtain ⟨r₃, hWalkMembers, hReads₃, hEnd₃⟩ := ihMembers hLegalMembers hSettled₂
      (show members.size < fuel by omega) hReads₂ hTerminator
    obtain ⟨r₄, hExit, hReads₄, hSettled₄⟩ := exitContainer_terminator context hEnd₃ hReads₃
    obtain ⟨r₅, hWalkNext, hDone⟩ := ihNext hLegalNext hSettled₄ (show next.size < fuel by omega)
      hReads₄ hTail
    refine ⟨r₅, ?_, hDone⟩
    simp only [walk, attempt_bind, hNext, read_bind, hType, hContainer, if_true]
    rw [bind_ok hEnter, bind_ok hWalkMembers, bind_ok hExit,
      bind_ok hWalkNext]
    simp [getTag, getType, hElemTag, hType, hBack]

theorem Elements.size_le_encode (elements : Elements) (profile : BitVec 32)
  (hLegal : elements.Legal context) : elements.size ≤ (elements.encode profile context).length := by
  induction elements generalizing context with
  | nil => simp [size]
  | leaf tag value next ih =>
    have hHead := (elementHead_length (elementHead_of_legal hLegal.1 profile value.elementType
      value.lenOrVal)).1
    have hNext := ih hLegal.2.2
    simp only [size, encode, List.length_append]
    omega
  | container tag type members next ihMembers ihNext =>
    have hHead := (elementHead_length (elementHead_of_legal hLegal.1 profile type.toElementType 0)).1
    have hMembers := ihMembers hLegal.2.2.1
    have hNext := ihNext hLegal.2.2.2
    simp only [size, encode, List.length_append]
    omega

/-- A writer on a contiguous buffer of `maxLen` bytes with the given implicit profile. -/
def writerFor (maxLen : Nat) (profile : BitVec 32) : TLVWriter :=
  { TLVWriter.init maxLen with implicitProfileId := profile }

/-- A reader over what a writer has written, with the same implicit profile. -/
def readerOf (w : TLVWriter) : TLVReader :=
  { TLVReader.init w.mBuf w.getLengthWritten with implicitProfileId := w.implicitProfileId }

/-- Writing and walking are inverse. A buffer that can hold the encoding makes the
writer succeed; whenever the writer succeeds, walking its output gives back the
same elements, ends with `CHIP_END_OF_TLV` and has consumed every byte. -/
theorem walkAll_putElements (elements : Elements) (profile : BitVec 32) (maxLen : Nat)
    (hLegal : elements.Legal .notSpecified) :
    ((elements.encode profile .notSpecified).length ≤ min maxLen (2 ^ 32 - 1) →
      ∃ w, putElements elements (writerFor maxLen profile) = (.ok (), w)) ∧
    ∀ w, putElements elements (writerFor maxLen profile) = (.ok (), w) →
      ∃ r, walkAll (readerOf w) = (.ok elements, r) ∧
        next r = (.error .endOfTLV, r) ∧
        r.getLengthRead = w.getLengthWritten := by
  have hMax : (writerFor maxLen profile).mMaxLen < 2 ^ 32 := by
    simp only [writerFor, TLVWriter.init]
    omega
  refine ⟨fun hFits => putElements_ok elements hLegal ?_, ?_⟩
  · exact {
      store := rfl
      containerOpen := rfl
      limit := by simpa [writerFor, TLVWriter.init] using hFits
      bound := hMax
      buffer := hFits }
  intro w hOk
  have hWrote := putElements_wrote elements (show 0 < 2 ^ 32 by decide) hMax hOk
  obtain ⟨hStore, hRemaining⟩ := hWrote.contiguous rfl
  set bytes := elements.encode profile .notSpecified with hBytes
  have hBytesEq : elements.encode (writerFor maxLen profile).implicitProfileId
      (writerFor maxLen profile).mContainerType = bytes := rfl
  rw [hBytesEq] at hWrote hRemaining
  have hRoom : bytes.length < 2 ^ 32 := by
    have hInit : (writerFor maxLen profile).mRemainingLen < 2 ^ 32 := hMax
    omega
  have hBuf : w.mBuf = bytes := by
    have hEmitted := hWrote.emitted
    simpa [TLVWriter.emitted, hStore, writerFor, TLVWriter.init] using hEmitted
  have hWritten : w.getLengthWritten = bytes.length := by
    have hLen := hWrote.lenWritten
    rw [show (writerFor maxLen profile).mLenWritten = 0 from rfl,
      add32_of_lt (by omega)] at hLen
    simpa [TLVWriter.getLengthWritten] using hLen
  have hMin : min bytes.length (2 ^ 32 - 1) = bytes.length := by omega
  have hReads : Reads .notSpecified profile bytes.length (bytes ++ []) (readerOf w) :=
    { store := rfl
      buffer := by simp only [readerOf, TLVReader.init, hBuf, hWritten, hMin, List.take_length, List.append_nil]
      maxLen := by simp only [readerOf, TLVReader.init, hWritten, hMin]
      length := by simp [readerOf, TLVReader.init]
      bound := hRoom
      context := rfl
      profile := hWrote.profile }
  have hSettled : Settled (readerOf w) := ⟨by simp [readerOf, TLVReader.init, elementType], rfl,
    by simp [readerOf, TLVReader.init]⟩
  have hFuel : elements.size < (readerOf w).mMaxLen + 1 := by
    rw [hReads.maxLen]
    exact Nat.lt_succ_of_le (elements.size_le_encode profile hLegal)
  have hTail : ∀ r', Settled r' → Reads .notSpecified profile bytes.length [] r' →
      ∃ r'', next r' = (.error .endOfTLV, r'') ∧
        (Reads .notSpecified profile bytes.length [] r'' ∧ next r'' = (.error .endOfTLV, r'')) := by
    intro r' hs hr
    have hReadsClear : Reads .notSpecified profile bytes.length [] r'.clearElementState :=
      { hr with buffer := hr.buffer }
    exact ⟨_, next_end hs hr, hReadsClear, next_end (settled_clear r') hReadsClear⟩
  obtain ⟨r, hWalk, hReadsEnd, hNextEnd⟩ := walk_legal elements hLegal hSettled hFuel hReads hTail
  refine ⟨r, hWalk, hNextEnd, ?_⟩
  rw [hWritten, ← hReadsEnd.length]
  rfl

/-- A structure holding an integer, an array under an implicit tag and a string. -/
def sampleElements : Elements :=
  .container anonymousTag .struct
    (.leaf (contextTag 1) (.unsignedInteger 300)
      (.container (profileTag 0x10 70000) .array (.leaf anonymousTag (.signedInteger (-5)) .nil)
        (.leaf (commonTag 7) (.utf8String [0x68, 0x69]) .nil)))
    .nil

theorem sampleElements_legal : sampleElements.Legal .notSpecified :=
  ⟨.inl rfl, rfl, ⟨.inl ⟨1, rfl⟩, by decide, .inr (by unfold Tag.IsProfile; decide), rfl,
    ⟨rfl, by decide, trivial⟩, .inr (by unfold Tag.IsProfile; decide), by decide, trivial⟩, trivial⟩

theorem walkAll_putElements_sample :
    ∃ w r, putElements sampleElements (writerFor 64 0x10) = (.ok (), w) ∧
      walkAll (readerOf w) = (.ok sampleElements, r) ∧ r.getLengthRead = w.getLengthWritten := by
  obtain ⟨hWrites, hReads⟩ := walkAll_putElements sampleElements 0x10 64 sampleElements_legal
  obtain ⟨w, hOk⟩ := hWrites (by decide)
  obtain ⟨r, hWalk, _, hLength⟩ := hReads w hOk
  exact ⟨w, r, hOk, hWalk, hLength⟩

end Chip.TLV
