import Chip.TLV.RoundTrip

/-! Reading the fields of a known structure: the overloads of `Next` that expect a tag, the
getters that return a narrower integer or a span, and what they do on an encoding. A reader
that has used a getter for a span is still before the bytes of the string; it skips them
with the next call. -/
namespace Chip.TLV

open Proc TLVReader

/-- `Next(expectedTag)`. -/
def nextTag (expectedTag : Tag) : ReaderM Unit := do
  next
  let r ← Proc.read
  Proc.verify (r.mElemTag = expectedTag) .unexpectedTLVElement

/-- `Next(expectedType, expectedTag)`. -/
def nextTypeTag (expectedType : TLVType) (expectedTag : Tag) : ReaderM Unit := do
  nextTag expectedTag
  let r ← Proc.read
  Proc.verify (r.getType = expectedType) .wrongTLVType

/-- `Get` for an unsigned integer type of this many bits. -/
def getUInt (bits : Nat) (r : TLVReader) : Except ChipError Nat :=
  match r.getUInt64 with
  | .error e => .error e
  | .ok v => if v.toNat < 2 ^ bits then .ok v.toNat else .error .invalidIntegerValue

/-- `Get(ByteSpan &)`: the bytes at `GetDataPtr`. -/
def getByteSpan (r : TLVReader) : Except ChipError Bytes :=
  if r.elementType.hasLength then
    if r.getLength = 0 then .ok []
    else if r.mElemLenOrVal % 2 ^ 32 ≤ r.mBuf.length then .ok (r.mBuf.take r.getLength)
    else .error .tlvUnderrun
  else .error .wrongTLVType

/-- `kUnicodeInformationSeparator1`. -/
def unicodeInformationSeparator1 : UInt8 := 0x1F

/-- `Get(CharSpan &)`: the text up to the first information separator. -/
def getCharSpan (r : TLVReader) : Except ChipError Bytes :=
  if r.elementType.isUTF8String then
    (getByteSpan r).map (List.takeWhile (· ≠ unicodeInformationSeparator1))
  else .error .wrongTLVType

/-- A reader that has nothing but the data of the current element to skip before `buf`. -/
structure Before (context : TLVType) (profile : BitVec 32) (limit : Nat) (buf : Bytes)
    (r : TLVReader) : Prop where
  notEnd : r.elementType ≠ .endOfContainer
  notContainer : r.elementType.isContainer = false
  data : ∃ data, Reads context profile limit (data ++ buf) r ∧
    (r.elementType.hasLength = true → r.mElemLenOrVal % 2 ^ 32 = data.length) ∧
    (r.elementType.hasLength = false → data = [])

structure Holds (context : TLVType) (profile : BitVec 32) (limit : Nat) (tag : Tag)
    (value : Value) (rest : Bytes) (r : TLVReader) : Prop where
  tag : r.mElemTag = tag
  type : r.elementType = value.elementType
  field : r.mElemLenOrVal = value.lenOrVal % 256 ^ value.elementType.fieldSize.bytes
  length : value.data.length < 2 ^ 32
  reads : Reads context profile limit (value.data ++ rest) r

variable {context : TLVType} {profile : BitVec 32} {limit : Nat} {r : TLVReader}

theorem Reads.clearElementState {buf : Bytes} (h : Reads context profile limit buf r) :
  Reads context profile limit buf r.clearElementState :=
  { h with buffer := h.buffer }

theorem Settled.before {buf : Bytes} (hSettled : Settled r)
  (h : Reads context profile limit buf r) : Before context profile limit buf r := by
  refine ⟨hSettled.notEnd, hSettled.notContainer, [], h, ?_, fun _ => rfl⟩
  intro hLength
  rw [hSettled.noData hLength]
  rfl

theorem Before.skips {buf : Bytes} (h : Before context profile limit buf r) :
  ∃ r', skipData r = (.ok (), r') ∧ Reads context profile limit buf r' := by
  obtain ⟨data, hReads, hLength, hNone⟩ := h.data
  cases hHas : r.elementType.hasLength with
  | true =>
    have hSum := hReads.length
    have hBound := hReads.bound
    rw [List.length_append] at hSum
    have hRead := readData_buffered hReads.buffer (by omega)
    refine ⟨r.advance data.length, ?_, hReads.advance⟩
    simp only [skipData, read_bind, hHas, ↓reduceIte, hLength hHas]
    rw [bind_ok hRead]
    rfl
  | false =>
    refine ⟨r, by simp [skipData, hHas], ?_⟩
    simpa [hNone hHas] using hReads

theorem next_before {r₀ r' : TLVReader} (hEnd : r.elementType ≠ .endOfContainer)
  (hContainer : r.elementType.isContainer = false) (hSkip : skipData r = (.ok (), r₀))
  (hRead : readElement r₀.clearElementState = (.ok (), r'))
  (hNotEnd : r'.elementType ≠ .endOfContainer)
  (hData : r'.elementType.hasLength = true → r'.getLength ≠ 0 → r'.mBuf ≠ []) :
  next r = (.ok (), r') := by
  have hSkipAll : skip r = (.ok (), r₀.clearElementState) := by
    simp only [skip, read_bind, verify_bind, if_pos hEnd, hContainer,
      Bool.false_eq_true, if_false]
    exact bind_ok hSkip
  unfold next
  rw [bind_ok hSkipAll, bind_ok hRead, read_bind, verify_bind, if_pos hNotEnd]
  by_cases hString : r'.elementType.hasLength = true ∧ r'.getLength ≠ 0
  · rw [if_pos hString]
    exact ensureData_nonempty (hData hString.1 hString.2) _
  · rw [if_neg hString]
    rfl

variable {tag : Tag} {value : Value} {tail : Bytes} {rest : Bytes} {type : TLVType}

theorem Before.next_leaf {next : Elements} (h : Before context profile limit
    ((Elements.leaf tag value next).encode profile context ++ tail) r) (hTag : tag.LegalIn context)
  (hLength : value.data.length < 2 ^ 32) :
  ∃ r', TLV.next r = (.ok (), r') ∧
    Holds context profile limit tag value (next.encode profile context ++ tail) r' := by
  obtain ⟨hNamed, hNotEnd, hValid, -, hString⟩ := lenOrVal_spec value hLength
  obtain ⟨r₀, hSkip, hReads⟩ := h.skips
  simp only [Elements.encode, List.append_assoc] at hReads
  obtain ⟨r₁, hRead, hReads₁, hType, hElemTag, hField⟩ := readElement_legal
    hTag hNamed hNotEnd hValid
    (fun hHas => by rw [hString hHas, List.length_append]; omega) hReads.clearElementState
  refine ⟨r₁, ?_, hElemTag, hType, hField, hLength, hReads₁⟩
  refine next_before h.notEnd h.notContainer hSkip hRead (hType ▸ hNotEnd) ?_
  intro hHas hNonzero hEmpty
  have hBuffer := hReads₁.buffer
  rw [hEmpty] at hBuffer
  have hNil := (List.append_eq_nil_iff.mp hBuffer.symm).1
  rw [getLength, if_pos hHas, hField, hString (hType ▸ hHas), hNil] at hNonzero
  simp at hNonzero

theorem Before.nextTag_leaf {next : Elements} (h : Before context profile limit
    ((Elements.leaf tag value next).encode profile context ++ tail) r) (hTag : tag.LegalIn context)
  (hLength : value.data.length < 2 ^ 32) :
  ∃ r', nextTag tag r = (.ok (), r') ∧
    Holds context profile limit tag value (next.encode profile context ++ tail) r' := by
  obtain ⟨r', hNext, hHolds⟩ := h.next_leaf hTag hLength
  refine ⟨r', ?_, hHolds⟩
  rw [nextTag, bind_ok hNext, read_bind, verify_apply, if_pos hHolds.tag]

theorem Value.data_eq_nil (value : Value) (h : value.elementType.hasLength = false) : value.data = [] := by
  cases value with
  | utf8String s =>
    simp only [Value.elementType, utf8StringElementType] at h
    split_ifs at h <;> simp [TLVElementType.hasLength] at h
  | byteString s =>
    simp only [Value.elementType, byteStringElementType] at h
    split_ifs at h <;> simp [TLVElementType.hasLength] at h
  | _ => rfl

theorem Holds.before (h : Holds context profile limit tag value rest r) :
  Before context profile limit rest r := by
  obtain ⟨-, hNotEnd, -, hNotContainer, hString⟩ := lenOrVal_spec value h.length
  refine ⟨h.type ▸ hNotEnd, h.type ▸ hNotContainer, value.data, h.reads, ?_, ?_⟩
  · intro hHas
    rw [h.field, hString (h.type ▸ hHas), Nat.mod_eq_of_lt h.length]
  · intro hNot
    rw [h.type] at hNot
    exact value.data_eq_nil hNot

theorem liftGet_bind {α β : Type} {get : TLVReader → Except ChipError α} {a : α}
  (h : get r = .ok a) (f : α → ReaderM β) : (liftGet get >>= f) r = f a r := by
  refine bind_ok ?_
  rw [liftGet, h]

theorem Holds.getUInt {v : UInt64} (bits : Nat)
  (h : Holds context profile limit tag (.unsignedInteger v) rest r) (hv : v.toNat < 2 ^ bits) :
  TLV.getUInt bits r = .ok v.toNat := by
  rw [TLV.getUInt, getUInt64_of_field h.type h.field]
  exact if_pos hv

theorem Holds.getByteSpan_data (h : Holds context profile limit tag value rest r)
  (hHas : value.elementType.hasLength = true) : getByteSpan r = .ok value.data := by
  obtain ⟨-, -, -, -, hString⟩ := lenOrVal_spec value h.length
  have hField : r.mElemLenOrVal % 2 ^ 32 = value.data.length := by
    rw [h.field, hString hHas, Nat.mod_eq_of_lt h.length]
  have hLength : r.getLength = value.data.length := by
    rw [getLength, h.type, if_pos hHas, hField]
  unfold getByteSpan
  rw [h.type, if_pos hHas, hLength]
  by_cases hEmpty : value.data.length = 0
  · rw [if_pos hEmpty, List.length_eq_zero_iff.mp hEmpty]
  · rw [if_neg hEmpty, if_pos, h.reads.buffer, List.take_left' rfl]
    rw [hField, h.reads.buffer, List.length_append]
    omega

theorem Holds.getByteSpan {s rest : Bytes} (h : Holds context profile limit tag (.byteString s) rest r) :
  TLV.getByteSpan r = .ok s := by
  refine h.getByteSpan_data ?_
  simp only [Value.elementType, byteStringElementType]
  split_ifs <;> rfl

theorem Holds.getCharSpan {s rest : Bytes} (h : Holds context profile limit tag (.utf8String s) rest r) :
  TLV.getCharSpan r = .ok (s.takeWhile (· ≠ unicodeInformationSeparator1)) := by
  have hUtf8 : r.elementType.isUTF8String = true ∧
      (Value.utf8String s).elementType.hasLength = true := by
    rw [h.type]
    simp only [Value.elementType, utf8StringElementType]
    split_ifs <;> exact ⟨rfl, rfl⟩
  rw [TLV.getCharSpan, if_pos hUtf8.1, h.getByteSpan_data hUtf8.2]
  rfl

theorem Before.next_container {members next : Elements} (h : Before context profile limit
    ((Elements.container tag type members next).encode profile context ++ tail) r)
  (hTag : tag.LegalIn context) (hIsContainer : type.isContainer = true) :
  ∃ r' r'', TLV.next r = (.ok (), r') ∧ r'.mElemTag = tag ∧ r'.getType = type ∧
    enterContainer r' = (.ok context, r'') ∧
    Before type profile limit
      (members.encode profile type ++ (terminator ++ (next.encode profile context ++ tail))) r'' := by
  obtain ⟨-, hContainer, hBack, hNoLength, hNamed, hNotEnd, hValid⟩ :=
    TLVType.isContainer_cases hIsContainer
  obtain ⟨r₀, hSkip, hReads⟩ := h.skips
  simp only [Elements.encode, List.append_assoc] at hReads
  obtain ⟨r₁, hRead, hReads₁, hType, hElemTag, -⟩ := readElement_legal hTag hNamed hNotEnd hValid
    (fun hHas => by simp [hNoLength] at hHas) hReads.clearElementState
  let r₂ : TLVReader := { r₁.clearElementState with
    mContainerType := r₁.elementType.toTLVType, mContainerOpen := false }
  have hSettled : Settled r₂ := ⟨(settled_clear r₁).notEnd, (settled_clear r₁).notContainer,
    (settled_clear r₁).noData⟩
  refine ⟨r₁, r₂, ?_, hElemTag, ?_, ?_, hSettled.before ?_⟩
  · exact next_before h.notEnd h.notContainer hSkip hRead (hType ▸ hNotEnd)
      (by simp [hType, hNoLength])
  · rw [getType, hType, hBack]
  · simp [enterContainer, hType, hContainer, r₂, hReads₁.context]
  · exact { hReads₁ with buffer := hReads₁.buffer, context := by simp [r₂, hType, hBack] }

theorem Before.nextTypeTag_container {members next : Elements} (h : Before context profile limit
    ((Elements.container tag type members next).encode profile context ++ tail) r)
  (hTag : tag.LegalIn context) (hIsContainer : type.isContainer = true) :
  ∃ r' r'', nextTypeTag type tag r = (.ok (), r') ∧ enterContainer r' = (.ok context, r'') ∧
    Before type profile limit
      (members.encode profile type ++ (terminator ++ (next.encode profile context ++ tail))) r'' := by
  obtain ⟨r', r'', hNext, hElemTag, hType, hEnter, hBefore⟩ := h.next_container hTag hIsContainer
  have hNextTag : nextTag tag r = (.ok (), r') := by
    rw [nextTag, Proc.bind_ok hNext, Proc.read_bind, Proc.verify_apply, if_pos hElemTag]
  refine ⟨r', r'', ?_, hEnter, hBefore⟩
  rw [nextTypeTag, Proc.bind_ok hNextTag, Proc.read_bind, Proc.verify_apply, if_pos hType]

theorem Before.next_end (h : Before context profile limit (terminator ++ rest) r)
  (hContext : context ≠ .notSpecified) :
  ∃ r', TLV.next r = (.error .endOfTLV, r') ∧ Reads context profile limit rest r' ∧
    r'.elementType = .endOfContainer := by
  obtain ⟨r₀, hSkip, hReads⟩ := h.skips
  obtain ⟨r', hRead, hReads', hType⟩ := readElement_terminator hContext hReads.clearElementState
  refine ⟨r', ?_, hReads', hType⟩
  have hSkipAll : skip r = (.ok (), r₀.clearElementState) := by
    simp only [skip, read_bind, verify_bind, if_pos h.notEnd, h.notContainer,
      Bool.false_eq_true, if_false]
    exact bind_ok hSkip
  unfold TLV.next
  rw [bind_ok hSkipAll, bind_ok hRead, read_bind, verify_bind,
    if_neg (by simp [hType])]

theorem exitContainer_before {inner : TLVType} (context : TLVType)
  (hEnd : r.elementType = .endOfContainer) (h : Reads inner profile limit rest r) :
  ∃ r', exitContainer context r = (.ok (), r') ∧ Before context profile limit rest r' := by
  obtain ⟨r', hExit, hReads, hSettled⟩ := exitContainer_terminator context hEnd h
  exact ⟨r', hExit, hSettled.before hReads⟩

theorem Before.exitContainer {inner : TLVType} (context : TLVType)
  (h : Before inner profile limit (terminator ++ rest) r) (hInner : inner ≠ .notSpecified) :
  ∃ r', TLV.exitContainer context r = (.ok (), r') ∧ Before context profile limit rest r' := by
  -- The loop of `SkipToEndOfContainer` skips the data of the last member, reads the
  -- terminator and stops.
  let r₁ : TLVReader := { r with mContainerOpen := false }
  have hBefore₁ : Before inner profile limit (terminator ++ rest) r₁ := by
    obtain ⟨data, hReads, hData⟩ := h.data
    exact ⟨h.notEnd, h.notContainer, data, { hReads with buffer := hReads.buffer }, hData⟩
  obtain ⟨r₂, hSkip, hReads₂⟩ := hBefore₁.skips
  obtain ⟨r₃, hRead, hReads₃, hEnd⟩ := readElement_terminator hInner hReads₂
  have hLoop : skipToEndOfContainer r = (.ok (), r₃) := by
    have hPositive : ∃ fuel, r₁.available = fuel + 1 := by
      refine ⟨r₁.available - 1, ?_⟩
      have hUsed := readElement_available hRead
      have hShrink := skipData_shrinks r₁
      rw [hSkip] at hShrink
      simp only at hShrink
      omega
    obtain ⟨fuel, hFuel⟩ := hPositive
    have hAvailable : r.available = fuel + 1 := hFuel
    have hFirst : ¬ (r₁.elementType = .endOfContainer ∧ (0 : Nat) = 0) := fun hBoth => h.notEnd hBoth.1
    have hEnter : enterOrLeave r.mContainerType 0 r₁ = (.ok 0, r₁) := by
      simp [enterOrLeave, hBefore₁.notEnd, hBefore₁.notContainer]
    unfold skipToEndOfContainer
    rw [read_bind, modify_bind, hAvailable]
    change skipLoop r.mContainerType (fuel + 1 + 1) 0 r₁ = _
    rw [skipLoop, read_bind, if_neg hFirst, bind_ok hEnter, bind_ok hSkip,
      bind_ok hRead, skipLoop, read_bind, if_pos ⟨hEnd, rfl⟩]
    rfl
  refine ⟨{ r₃.clearElementState with mContainerType := context }, bind_ok hLoop,
    Settled.before ?_ ?_⟩
  · exact ⟨(settled_clear r₃).notEnd, (settled_clear r₃).notContainer, (settled_clear r₃).noData⟩
  · exact { hReads₃ with buffer := hReads₃.buffer, context := rfl }

theorem legal_struct (n : BitVec 8) : (contextTag n).LegalIn .struct := .inl ⟨n, rfl⟩

theorem legal_list (n : BitVec 8) : (contextTag n).LegalIn .list := .inr (.inl ⟨n, rfl⟩)

theorem before_nil (h : Before type profile limit (Elements.nil.encode profile type ++ rest) r) :
  Before type profile limit rest r := h

theorem nextTag_end (tag : Tag) (h : Before type profile limit (terminator ++ rest) r)
  (hType : type ≠ .notSpecified) :
  ∃ r', nextTag tag r = (.error .endOfTLV, r') ∧ Reads type profile limit rest r' ∧
    r'.elementType = .endOfContainer := by
  obtain ⟨r', hNext, hReads, hEnd⟩ := h.next_end hType
  exact ⟨r', bind_error hNext, hReads, hEnd⟩

end Chip.TLV
