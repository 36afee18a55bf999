import Chip.TLV.Reader

/-! What the parser's primitive calls do to the read position. -/
namespace Chip.TLV

open Proc LittleEndian TLVReader

/-- The reader after `n` more bytes of its buffer. -/
def TLVReader.advance (n : Nat) (r : TLVReader) : TLVReader :=
  { r with mBuf := r.mBuf.drop n, mLenRead := add32 r.mLenRead n }

variable {r : TLVReader}

theorem ensureData_nonempty (h : r.mBuf ≠ []) (e : ChipError) :
  ensureData e r = (.ok (), r) := by
  simp [ensureData, h]

theorem consume_apply (n : Nat) (r : TLVReader) : consume n r = (.ok (r.mBuf.take n), r.advance n) := rfl

theorem readDataLoop_length (fuel len : Nat) {r r' : TLVReader} {bytes : Bytes}
  (h : readDataLoop fuel len r = (.ok bytes, r')) : bytes.length = len := by
  induction fuel generalizing len r r' bytes with
  | zero =>
    by_cases hZero : len = 0
    · simp only [readDataLoop, verify_bind, if_pos hZero, pure_apply, Prod.mk.injEq,
        Except.ok.injEq] at h
      simp [← h.1, hZero]
    · simp [readDataLoop, hZero] at h
  | succ fuel ih =>
    by_cases hZero : len = 0
    · simp only [readDataLoop, if_pos hZero, pure_apply, Prod.mk.injEq,
        Except.ok.injEq] at h
      simp [← h.1, hZero]
    · simp only [readDataLoop, if_neg hZero] at h
      obtain ⟨_, r₁, _, h⟩ := bind_eq_ok h
      rw [read_bind, bind_ok (consume_apply _ _)] at h
      obtain ⟨rest, r₂, hRest, h⟩ := bind_eq_ok h
      simp only [pure_apply, Prod.mk.injEq, Except.ok.injEq] at h
      rw [← h.1, List.length_append, ih _ hRest, List.length_take]
      omega

/-- The current element, if any, needs no more bytes to be skipped. -/
structure Settled (r : TLVReader) : Prop where
  notEnd : r.elementType ≠ .endOfContainer
  notContainer : r.elementType.isContainer = false
  noData : r.elementType.hasLength = true → r.mElemLenOrVal = 0

theorem settled_clear (r : TLVReader) : Settled r.clearElementState :=
  ⟨by simp [elementType, clearElementState], rfl, by simp [elementType, clearElementState,
    TLVElementType.hasLength]⟩

theorem readHead_buffered {p rest : Bytes} (h : r.mBuf = p ++ rest) :
  readHead p.length r = (.ok p, r.advance p.length) := by
  have hLe : ¬ p.length > r.mBuf.length := by
    rw [h, List.length_append]
    omega
  simp only [readHead, read_bind, if_neg hLe, consume_apply]
  rw [h, List.take_left' rfl]

theorem skip_settled (h : Settled r) :
  skip r = (.ok (), r.clearElementState) := by
  have hData : skipData r = (.ok (), r) := by
    by_cases hLength : r.elementType.hasLength = true
    · have hZero := h.noData hLength
      simp [skipData, hLength, hZero, readData, readDataLoop, bind_apply]
    · simp [skipData, hLength]
  simp only [skip, read_bind, verify_bind, if_pos h.notEnd, h.notContainer,
    Bool.false_eq_true, if_false]
  exact bind_ok hData

theorem readElement_buffered {control : TLVTagControl} {elemType : TLVElementType} {tag : Tag}
  {tagBytes rest : Bytes} {lenOrVal : Nat} (hNamed : elemType ≠ .notSpecified)
  (hValid : elemType.isValid = true) (hTagSize : tagBytes.length = control.tagSize)
  (hTag : ∀ rest, readTag r.implicitProfileId control (tagBytes ++ rest) = (tag, rest))
  (hLong : elemType.hasLength = true → lenOrVal % 256 ^ elemType.fieldSize.bytes < 2 ^ 32)
  (hBuf : r.mBuf = (controlByte control elemType :: tagBytes ++
    encode elemType.fieldSize.bytes lenOrVal) ++ rest) :
  readElement r = verifyElement
    { r.advance (controlByte control elemType :: tagBytes ++
        encode elemType.fieldSize.bytes lenOrVal).length with
      mControlByte := some (controlByte control elemType)
      mElemTag := tag
      mElemLenOrVal := lenOrVal % 256 ^ elemType.fieldSize.bytes } := by
  set head := controlByte control elemType :: tagBytes ++
    encode elemType.fieldSize.bytes lenOrVal with hHead
  have hNe : r.mBuf ≠ [] := by simp [hBuf, hHead]
  have hFirst : r.mBuf.headD 0 = controlByte control elemType := by simp [hBuf, hHead]
  have hHeadLength : 1 + control.tagSize + elemType.fieldSize.bytes = head.length := by
    simp only [hHead, List.cons_append, List.length_cons, List.length_append,
      encode_length, hTagSize]
    omega
  let r₁ : TLVReader := { r with mControlByte := some (controlByte control elemType) }
  have hRead : readHead head.length r₁ = (.ok head, r₁.advance head.length) :=
    readHead_buffered (r := r₁) hBuf
  have hDecode : decodeHead control elemType.fieldSize head (r₁.advance head.length) =
      { r₁.advance head.length with
        mElemTag := tag
        mElemLenOrVal := lenOrVal % 256 ^ elemType.fieldSize.bytes } := by
    have hProfile : (r₁.advance head.length).implicitProfileId = r.implicitProfileId := rfl
    have hTail : head.drop 1 =
        tagBytes ++ encode elemType.fieldSize.bytes lenOrVal := by simp [hHead]
    have hField : (encode elemType.fieldSize.bytes lenOrVal).take
        elemType.fieldSize.bytes = encode elemType.fieldSize.bytes lenOrVal :=
      List.take_of_length_le (by simp)
    simp only [decodeHead, hProfile, hTail, hTag, hField, value_encode]
  unfold readElement
  rw [bind_ok (ensureData_nonempty hNe _), read_bind, hFirst, modify_bind,
    elementType_controlByte control hNamed, tagControl_controlByte control hNamed,
    verify_bind, if_pos hValid, hHeadLength, bind_ok hRead, modify_bind, hDecode,
    read_bind, verify_bind, if_pos (fun _ => hLong)]
  rfl

/-- Whatever the call returns, it does not make more bytes available. -/
def Shrinks {α : Type} (m : ReaderM α) : Prop := ∀ r, (m r).2.available ≤ r.available

theorem Shrinks.bind {α β : Type} {m : ReaderM α} {f : α → ReaderM β} (hm : Shrinks m)
  (hf : ∀ a, Shrinks (f a)) : Shrinks (m >>= f) := by
  intro r
  have hFirst := hm r
  rw [bind_apply]
  cases hmr : m r with
  | mk result r' =>
    rw [hmr] at hFirst
    cases result with
    | error e => exact hFirst
    | ok a => exact (hf a r').trans hFirst

theorem Shrinks.read_bind {α : Type} {f : TLVReader → ReaderM α} (hf : ∀ r, Shrinks (f r)) :
  Shrinks (read >>= f) := fun r => hf r r

theorem Shrinks.pure {α : Type} (a : α) : Shrinks (pure a) := fun _ => Nat.le_refl _

theorem Shrinks.verify (p : Prop) [Decidable p] (e : ChipError) : Shrinks (verify p e) := by
  intro r
  rw [verify_apply]
  split <;> exact Nat.le_refl _

theorem ensureData_shrinks (e : ChipError) : Shrinks (ensureData e) := by
  intro r
  by_cases hBuf : r.mBuf = []
  swap
  · rw [ensureData_nonempty hBuf]
  by_cases hEnd : r.mLenRead = r.mMaxLen
  · simp [ensureData, hBuf, hEnd]
  cases hStore : r.mBackingStore with
  | none => simp [ensureData, hBuf, hEnd, hStore]
  | some chunks =>
    cases chunks with
    | nil => simp [ensureData, hBuf, hEnd, hStore]
    | cons chunk rest =>
      by_cases hChunk : chunk = []
      · simp [ensureData, hBuf, hEnd, hStore, hChunk, available]
      · simp [ensureData, hBuf, hEnd, hStore, hChunk, available]

theorem consume_shrinks (n : Nat) : Shrinks (consume n) := by
  intro r
  simp [consume_apply, available, TLVReader.advance]

theorem readDataLoop_shrinks (fuel len : Nat) : Shrinks (readDataLoop fuel len) := by
  induction fuel generalizing len with
  | zero => exact (Shrinks.verify _ _).bind fun _ => Shrinks.pure _
  | succ fuel ih =>
    unfold readDataLoop
    split_ifs
    · exact Shrinks.pure _
    · refine (ensureData_shrinks _).bind fun _ r => ?_
      exact ((consume_shrinks _).bind fun bytes => (ih _).bind fun rest => Shrinks.pure _) r

theorem readHead_shrinks (n : Nat) : Shrinks (readHead n) := by
  intro r
  by_cases hLong : n > r.mBuf.length
  · simpa only [readHead, read_bind, if_pos hLong, readData] using readDataLoop_shrinks n n r
  · simpa only [readHead, read_bind, if_neg hLong] using consume_shrinks n r

theorem verifyElement_shrinks : Shrinks verifyElement := by
  refine Shrinks.read_bind fun r => ?_
  have hLength : Shrinks (if r.elementType.hasLength then
      verify (r.mElemLenOrVal % 2 ^ 32 ≤ sub32 r.mMaxLen r.mLenRead) .tlvUnderrun
      else pure ()) := by
    split_ifs
    · exact Shrinks.verify _ _
    · exact Shrinks.pure _
  by_cases hEnd : r.elementType = .endOfContainer
  · simp only [if_pos hEnd]
    exact (Shrinks.verify _ _).bind fun _ => (Shrinks.verify _ _).bind fun _ => hLength
  · simp only [if_neg hEnd]
    refine (Shrinks.verify _ _).bind fun _ => ?_
    cases verifyTagInContainer r.mContainerType r.mElemTag with
    | ok value => exact hLength
    | error e => exact fun _ => Nat.le_refl _

theorem skipData_shrinks : Shrinks skipData := by
  refine Shrinks.read_bind fun r => ?_
  split_ifs
  · exact (readDataLoop_shrinks _ _).bind fun _ => Shrinks.pure _
  · exact Shrinks.pure _

theorem readDataLoop_available (fuel len : Nat) {r r' : TLVReader} {bytes : Bytes}
  (hOk : readDataLoop fuel len r = (.ok bytes, r')) : r'.available + len ≤ r.available := by
  induction fuel generalizing len r r' bytes with
  | zero =>
    by_cases hZero : len = 0
    · simp only [readDataLoop, verify_bind, if_pos hZero, pure_apply] at hOk
      cases hOk
      omega
    · simp [readDataLoop, hZero] at hOk
  | succ fuel ih =>
    by_cases hZero : len = 0
    · simp only [readDataLoop, if_pos hZero, pure_apply] at hOk
      cases hOk
      omega
    · simp only [readDataLoop, if_neg hZero] at hOk
      obtain ⟨_, r₁, hEnsure, hOk⟩ := bind_eq_ok hOk
      rw [read_bind, bind_ok (consume_apply _ _)] at hOk
      obtain ⟨rest, r₂, hRest, hPure⟩ := bind_eq_ok hOk
      cases hPure
      have hShrinks := ensureData_shrinks .tlvUnderrun r
      rw [hEnsure] at hShrinks
      have hLoop := ih _ hRest
      simp only [available, TLVReader.advance, List.length_drop] at hShrinks hLoop ⊢
      omega

theorem readHead_available {n : Nat} {r r' : TLVReader} {head : Bytes}
  (hOk : readHead n r = (.ok head, r')) : r'.available + n ≤ r.available := by
  by_cases hLong : n > r.mBuf.length
  · simp only [readHead, read_bind, if_pos hLong, readData] at hOk
    exact readDataLoop_available n n hOk
  · simp only [readHead, read_bind, if_neg hLong, consume_apply] at hOk
    cases hOk
    simp only [available, TLVReader.advance, List.length_drop]
    omega

theorem readElement_available {r r' : TLVReader} (hOk : readElement r = (.ok (), r')) :
  r'.available < r.available := by
  obtain ⟨_, r₁, hEnsure, hOk⟩ := bind_eq_ok hOk
  simp only [read_bind, modify_bind] at hOk
  generalize r₁.mBuf.headD 0 = control at hOk
  obtain ⟨_, hOk⟩ := verify_bind_eq_ok hOk
  obtain ⟨head, r₂, hHead, hOk⟩ := bind_eq_ok hOk
  simp only [read_bind, modify_bind] at hOk
  obtain ⟨_, hOk⟩ := verify_bind_eq_ok hOk
  have hShrinks : r₁.available ≤ r.available := by
    have h := ensureData_shrinks .endOfTLV r
    rwa [hEnsure] at h
  have hVerify : r'.available ≤ r₂.available := by
    have h := verifyElement_shrinks (decodeHead (TLVTagControl.ofControlByte control)
      (TLVElementType.ofControlByte control).fieldSize head r₂)
    rwa [hOk] at h
  have hUsed := readHead_available hHead
  have hControl : ({ r₁ with mControlByte := some control } : TLVReader).available =
      r₁.available := rfl
  rw [hControl] at hUsed
  omega

theorem enterOrLeave_available (outer : TLVType) (nestLevel : Nat) (r : TLVReader) :
  ((enterOrLeave outer nestLevel) r).2.available = r.available := by
  simp only [enterOrLeave, read_bind]
  split_ifs <;> rfl

theorem skipLoop_fuel (outer : TLVType) (fuel nestLevel : Nat) (hFuel : r.available < fuel) :
  skipLoop outer (fuel + 1) nestLevel r = skipLoop outer fuel nestLevel r := by
  induction fuel generalizing nestLevel r with
  | zero => omega
  | succ fuel ih =>
    rw [skipLoop, skipLoop]
    simp only [read_bind]
    by_cases hDone : r.elementType = .endOfContainer ∧ nestLevel = 0
    · simp only [if_pos hDone]
    simp only [if_neg hDone]
    refine bind_congr fun level r₁ hLevel => ?_
    refine bind_congr fun _ r₂ hData => ?_
    refine bind_congr fun _ r₃ hElement => ?_
    have hEnter := enterOrLeave_available outer nestLevel r
    have hSkip := skipData_shrinks r₁
    have hRead := readElement_available hElement
    rw [hLevel] at hEnter
    rw [hData] at hSkip
    simp only at hEnter hSkip
    exact ih level (by omega)

theorem skipLoop_turns (outer : TLVType) (nestLevel : Nat) (r : TLVReader) (more : Nat) :
  skipLoop outer (r.available + 1 + more) nestLevel r =
    skipLoop outer (r.available + 1) nestLevel r := by
  induction more with
  | zero => rfl
  | succ more ih => rw [← Nat.add_assoc, skipLoop_fuel _ _ _ (by omega), ih]

end Chip.TLV
