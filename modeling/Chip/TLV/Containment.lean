import Chip.TLV.ChunkedReading
import Chip.TLV.ReaderCalls

/-! Malformed input does not take a reader out of its buffer. Whatever the bytes are, each call leaves
the read point inside them and counts what was read, and each loop comes to an end. -/
namespace Chip.TLV

open Proc TLVReader

/-- A reader over these bytes, which has read as many of them as it says. -/
structure Within (data : Bytes) (r : TLVReader) : Prop where
  store : r.mBackingStore = none
  maxLen : r.mMaxLen = data.length
  lenRead : r.mLenRead ≤ data.length
  buffer : r.mBuf = data.drop r.mLenRead

/-- A call ends inside the bytes, and none of its loops runs out of turns. -/
abbrev Contained {α : Type} (data : Bytes) (m : ReaderM α) (r : TLVReader) : Prop :=
  Proc.Stays (Within data) .internal m r

section Contained

variable {data : Bytes} {r : TLVReader}

theorem Within.length (h : Within data r) : r.mBuf.length = data.length - r.mLenRead := by
  rw [h.buffer, List.length_drop]

theorem Within.available (h : Within data r) : r.available = r.mBuf.length := by
  simp [TLVReader.available, h.store]

variable {r' : TLVReader} {e : ChipError}

theorem Within.of_position (h : Within data r) (hStore : r'.mBackingStore = r.mBackingStore)
  (hMaxLen : r'.mMaxLen = r.mMaxLen) (hLenRead : r'.mLenRead = r.mLenRead) (hBuf : r'.mBuf = r.mBuf) :
  Within data r' :=
  ⟨hStore.trans h.store, hMaxLen.trans h.maxLen, hLenRead.trans_le h.lenRead,
    by rw [hBuf, hLenRead, h.buffer]⟩

theorem Within.clearElementState (h : Within data r) : Within data r.clearElementState :=
  h.of_position rfl rfl rfl rfl

theorem Within.advance (hSize : data.length < 2 ^ 32) (h : Within data r) {n : Nat}
  (hn : n ≤ r.mBuf.length) : Within data (r.advance n) := by
  have hLength := h.length
  have hLenRead := h.lenRead
  have hAdd : add32 r.mLenRead n = r.mLenRead + n := add32_of_lt (by omega)
  refine ⟨h.store, h.maxLen, ?_, ?_⟩
  · change add32 r.mLenRead n ≤ _
    omega
  · change r.mBuf.drop n = data.drop (add32 r.mLenRead n)
    rw [hAdd, h.buffer, List.drop_drop]

theorem ensureData_contained (h : Within data r) (hOther : e ≠ .internal) :
  Contained data (ensureData e) r := by
  rw [Contained, Proc.Stays, ensureData_plain h.store]
  refine ⟨h, ?_⟩
  split
  · simpa using hOther
  · simp

section

variable (hSize : data.length < 2 ^ 32) (h : Within data r)
include hSize h

theorem readData_stays (hOther : e ≠ .tlvUnderrun) (len : Nat) :
  Proc.Stays (Within data) e (readData len) r := by
  have hLenRead := h.lenRead
  rw [Proc.Stays, readData, readDataLoop_contiguous len len h.store (by omega) (Nat.le_refl len), readPlain]
  split
  case isTrue hFits => exact ⟨h.advance hSize hFits, by simp⟩
  case isFalse => exact ⟨h.advance hSize (Nat.le_refl _), fun hError => hOther (Except.error.inj hError).symm⟩

theorem readHead_stays (hOther : e ≠ .tlvUnderrun) (len : Nat) :
  Proc.Stays (Within data) e (readHead len) r := by
  refine .read_bind ?_
  split_ifs with hLong
  · exact readData_stays hSize h hOther len
  · exact ⟨h.advance hSize (Nat.le_of_not_lt hLong), by rintro ⟨⟩⟩

theorem readHead_eq_ok {n : Nat} {head : Bytes} (hOk : readHead n r = (.ok head, r')) :
  n ≤ r.mBuf.length ∧ head = r.mBuf.take n ∧ r' = r.advance n := by
  have hLenRead := h.lenRead
  by_cases hLong : n > r.mBuf.length
  · simp only [readHead, read_bind, if_pos hLong, readData,
      readDataLoop_contiguous n n h.store (by omega) (Nat.le_refl n), readPlain,
      if_neg (Nat.not_le.mpr hLong)] at hOk
    cases hOk
  · simp only [readHead, read_bind, if_neg hLong, consume_apply] at hOk
    cases hOk
    exact ⟨Nat.le_of_not_lt hLong, rfl, rfl⟩

end

theorem verifyElement_stays (h : Within data r) (hOther : e = .internal ∨ e = .endOfTLV) :
  Proc.Stays (Within data) e verifyElement r := by
  refine .read_bind ?_
  have hNot : ∀ {e'}, e' ≠ ChipError.internal → e' ≠ .endOfTLV → e' ≠ e := by
    rintro e' hInternal hEnd rfl
    exact hOther.elim hInternal hEnd
  have hLength : Proc.Stays (Within data) e (if r.elementType.hasLength then
      verify (r.mElemLenOrVal % 2 ^ 32 ≤ sub32 r.mMaxLen r.mLenRead) .tlvUnderrun
      else pure ()) r := by
    split_ifs
    · exact .verify (hNot (by decide) (by decide)) h
    · exact .pure _ h
  by_cases hEnd : r.elementType = .endOfContainer
  · simp only [if_pos hEnd]
    exact .verify_bind (hNot (by decide) (by decide)) h fun _ =>
      .verify_bind (hNot (by decide) (by decide)) h fun _ => hLength
  · simp only [if_neg hEnd]
    refine .verify_bind (hNot (by decide) (by decide)) h fun _ => ?_
    cases hTag : verifyTagInContainer r.mContainerType r.mElemTag with
    | ok value => exact hLength
    | error e' =>
      have hKind : e' = .invalidTLVTag ∨ e' = .incorrectState := by
        unfold verifyTagInContainer at hTag
        split at hTag <;> (try split_ifs at hTag) <;> cases hTag <;> simp
      have hSame : e' ≠ e := by
        rcases hKind with rfl | rfl <;> exact hNot (by decide) (by decide)
      exact ⟨h, fun hError => hSame (Except.error.inj hError)⟩

section

variable (hSize : data.length < 2 ^ 32) (h : Within data r)
include hSize h

theorem readElement_stays (hOther : e = .internal ∨ e = .endOfTLV ∧ r.mBuf ≠ []) :
  Proc.Stays (Within data) e readElement r := by
  have hKind : e = .internal ∨ e = .endOfTLV := hOther.imp_right And.left
  have hNot : ∀ {e'}, e' ≠ ChipError.internal → e' ≠ .endOfTLV → e' ≠ e := by
    rintro e' hInternal hEnd rfl
    exact hKind.elim hInternal hEnd
  have hEnsure : Proc.Stays (Within data) e (ensureData .endOfTLV) r := by
    rw [Proc.Stays, ensureData_plain h.store]
    refine ⟨h, ?_⟩
    rcases hOther with rfl | ⟨rfl, hNonempty⟩
    · split <;> simp
    · simp [hNonempty]
  refine hEnsure.bind fun _ r₁ _ h₁ => .read_bind (.modify_bind ?_)
  generalize r₁.mBuf.headD 0 = control
  have h₂ : Within data { r₁ with mControlByte := some control } := h₁.of_position rfl rfl rfl rfl
  refine .verify_bind (hNot (by decide) (by decide)) h₂ fun _ => ?_
  refine (readHead_stays hSize h₂ (hNot (by decide) (by decide)).symm _).bind fun head r₃ _ h₃ =>
    .modify_bind (.read_bind ?_)
  have h₄ : Within data (decodeHead (TLVTagControl.ofControlByte control)
      (TLVElementType.ofControlByte control).fieldSize head r₃) := h₃.of_position rfl rfl rfl rfl
  exact .verify_bind (hNot (by decide) (by decide)) h₄ fun _ => verifyElement_stays h₄ hKind

theorem readElement_contained : Contained data readElement r :=
  readElement_stays hSize h (.inl rfl)

theorem skipData_contained : Contained data skipData r := by
  refine .read_bind ?_
  split_ifs
  · exact (readData_stays hSize h (by decide) _).bind fun _ _ _ h' => .pure _ h'
  · exact .pure _ h

end

theorem enterOrLeave_contained (h : Within data r) (outer : TLVType) (nestLevel : Nat) :
  Contained data (enterOrLeave outer nestLevel) r := by
  refine .read_bind ?_
  split_ifs
  · exact .modify_bind (.pure _ (h.of_position rfl rfl rfl rfl))
  · exact .modify_bind (.pure _ (h.of_position rfl rfl rfl rfl))
  · exact .modify_bind (.pure _ (h.of_position rfl rfl rfl rfl))
  · exact .pure _ h

theorem skipLoop_contained (hSize : data.length < 2 ^ 32) (outer : TLVType) (fuel nestLevel : Nat)
  (h : Within data r) (hFuel : r.available < fuel) : Contained data (skipLoop outer fuel nestLevel) r := by
  induction fuel generalizing nestLevel r with
  | zero => omega
  | succ fuel ih =>
    refine .read_bind ?_
    split_ifs
    · exact .pure _ h
    refine (enterOrLeave_contained h outer nestLevel).bind fun level r₁ hEnter h₁ => ?_
    refine (skipData_contained hSize h₁).bind fun _ r₂ hSkip h₂ => ?_
    refine (readElement_contained hSize h₂).bind fun _ r₃ hRead h₃ => ?_
    have hSame := enterOrLeave_available outer nestLevel r
    have hShrink := skipData_shrinks r₁
    have hLess := readElement_available hRead
    rw [hEnter] at hSame
    rw [hSkip] at hShrink
    simp only at hSame hShrink
    exact ih level h₃ (by omega)

theorem skipToEndOfContainer_contained (hSize : data.length < 2 ^ 32) (h : Within data r) :
  Contained data skipToEndOfContainer r :=
  .read_bind (.modify_bind (skipLoop_contained hSize _ _ _ (h.of_position rfl rfl rfl rfl) (Nat.lt_succ_self _)))

theorem enterContainer_contained (h : Within data r) : Contained data enterContainer r :=
  .read_bind (.verify_bind (by decide) h fun _ => .modify_bind (.pure _ (h.of_position rfl rfl rfl rfl)))

section

variable (hSize : data.length < 2 ^ 32) (h : Within data r)
include hSize h

theorem exitContainer_contained (outer : TLVType) : Contained data (exitContainer outer) r :=
  (skipToEndOfContainer_contained hSize h).bind fun _ _ _ h' => .modify (h'.of_position rfl rfl rfl rfl)

theorem skip_contained : Contained data skip r := by
  refine .read_bind (.verify_bind (by decide) h fun _ => ?_)
  split_ifs
  · exact (enterContainer_contained h).bind fun outer _ _ h' => exitContainer_contained hSize h' outer
  · exact (skipData_contained hSize h).bind fun _ _ _ h' => .modify h'.clearElementState

theorem next_contained : Contained data next r := by
  refine (skip_contained hSize h).bind fun _ r₁ _ h₁ => ?_
  refine (readElement_contained hSize h₁).bind fun _ r₂ _ h₂ => ?_
  refine .read_bind (.verify_bind (by decide) h₂ fun _ => ?_)
  split_ifs
  · exact ensureData_contained h₂ (by decide)
  · exact .pure _ h₂

end

theorem verifyElement_eq_ok (hOk : verifyElement r = (.ok (), r')) :
  r' = r ∧ (r.elementType ≠ .endOfContainer → r.mElemTag ≠ unknownImplicitTag) ∧
    (r.elementType.hasLength = true → r.mElemLenOrVal % 2 ^ 32 ≤ sub32 r.mMaxLen r.mLenRead) := by
  have hLast : ∀ {s s' : TLVReader}, (if r.elementType.hasLength then
      verify (r.mElemLenOrVal % 2 ^ 32 ≤ sub32 r.mMaxLen r.mLenRead) ChipError.tlvUnderrun
      else pure () : ReaderM Unit) s = (.ok (), s') → s' = s ∧
        (r.elementType.hasLength = true → r.mElemLenOrVal % 2 ^ 32 ≤ sub32 r.mMaxLen r.mLenRead) := by
    intro s s' hPass
    split_ifs at hPass with hHas
    · obtain ⟨hLength, hSame⟩ := verify_eq_ok hPass
      exact ⟨hSame, fun _ => hLength⟩
    · exact ⟨(Prod.mk.inj hPass).2.symm, fun hNot => absurd hNot hHas⟩
  rw [verifyElement, read_bind] at hOk
  by_cases hEnd : r.elementType = .endOfContainer
  · simp only [if_pos hEnd] at hOk
    obtain ⟨-, hOk⟩ := verify_bind_eq_ok hOk
    obtain ⟨-, hOk⟩ := verify_bind_eq_ok hOk
    exact ⟨(hLast hOk).1, fun hNot => absurd hEnd hNot, (hLast hOk).2⟩
  · simp only [if_neg hEnd] at hOk
    obtain ⟨hTag, hOk⟩ := verify_bind_eq_ok hOk
    cases hVerify : verifyTagInContainer r.mContainerType r.mElemTag with
    | ok value =>
      rw [hVerify] at hOk
      exact ⟨(hLast hOk).1, fun _ => hTag, (hLast hOk).2⟩
    | error e =>
      rw [hVerify] at hOk
      cases hOk

theorem next_after_read {r₁ r₂ : TLVReader} (hSkip : skip r = (.ok (), r₁)) (hStore : r₂.mBackingStore = none)
  (hRead : readElement r₁ = (.ok (), r₂)) : (next r).2 = r₂ := by
  rw [next, bind_ok hSkip, bind_ok hRead, read_bind, verify_bind]
  split_ifs
  · rw [ensureData_plain hStore]
  · rfl
  · rfl

theorem readElement_shrinks : Shrinks readElement := by
  refine (ensureData_shrinks _).bind fun _ => Shrinks.read_bind fun r₁ => ?_
  refine Shrinks.bind (fun _ => Nat.le_refl _) fun _ => (Shrinks.verify _ _).bind fun _ => ?_
  refine (readHead_shrinks _).bind fun head => Shrinks.bind (fun _ => Nat.le_refl _) fun _ => ?_
  exact Shrinks.read_bind fun _ => (Shrinks.verify _ _).bind fun _ => verifyElement_shrinks

theorem skipToEndOfContainer_shrinks : Shrinks skipToEndOfContainer := by
  have hLoop : ∀ (outer : TLVType) (fuel nestLevel : Nat), Shrinks (skipLoop outer fuel nestLevel) := by
    intro outer fuel
    induction fuel with
    | zero => exact fun nestLevel r => Nat.le_refl _
    | succ fuel ih =>
      intro nestLevel
      refine Shrinks.read_bind fun r => ?_
      split_ifs
      · exact Shrinks.pure _
      · refine Shrinks.bind (fun r' => (enterOrLeave_available outer nestLevel r').le) fun level => ?_
        exact skipData_shrinks.bind fun _ => readElement_shrinks.bind fun _ => ih level
  exact fun r => hLoop r.mContainerType _ _ { r with mContainerOpen := false }

theorem enterContainer_shrinks : Shrinks enterContainer :=
  Shrinks.read_bind fun _ => (Shrinks.verify _ _).bind fun _ _ => Nat.le_refl _

theorem exitContainer_shrinks (outer : TLVType) : Shrinks (exitContainer outer) :=
  skipToEndOfContainer_shrinks.bind fun _ _ => Nat.le_refl _

theorem skip_shrinks : Shrinks skip := by
  refine Shrinks.read_bind fun r => (Shrinks.verify _ _).bind fun _ => ?_
  split_ifs
  · exact enterContainer_shrinks.bind fun outer => exitContainer_shrinks outer
  · exact skipData_shrinks.bind fun _ _ => Nat.le_refl _

end Contained

namespace Utilities

variable {σ α : Type} {data : Bytes} {P : σ → Prop} {handler : IterateHandler σ} {n : Nat}

/-- A handler that keeps a property of the context, whenever it is given a reader inside the bytes. -/
def Handles (data : Bytes) (P : σ → Prop) (handler : IterateHandler σ) : Prop :=
  ∀ r depth context, Within data r → P context → P (handler r depth context).2

variable {s : TLVReader × σ}

theorem next_shrinks : Shrinks next := by
  refine skip_shrinks.bind fun _ => readElement_shrinks.bind fun _ => Shrinks.read_bind fun r =>
    (Shrinks.verify _ _).bind fun _ => ?_
  split_ifs
  · exact ensureData_shrinks _
  · exact Shrinks.pure _

section

variable (hSize : data.length < 2 ^ 32)
include hSize

end

end Utilities

namespace ReaderCall

open Utilities

variable {σ α : Type} {data : Bytes} {P : σ → Prop}

abbrev AllWithin (data : Bytes) (readers : Readers) : Prop := ∀ i, Within data (readers i)

variable {readers : Readers} {s : Readers × σ}

section

variable (h : AllWithin data readers)
include h

theorem AllWithin.update {r : TLVReader} (i : Nat) (hr : Within data r) :
  AllWithin data (Function.update readers i r) := by
  intro j
  by_cases hSame : j = i
  · subst hSame
    rwa [Function.update_self]
  · rw [Function.update_of_ne hSame]
    exact h j

end

section

variable (hSize : data.length < 2 ^ 32)
include hSize

end

def Handles (data : Bytes) (P : σ → Prop) : ReaderCall σ → Prop
  | iterate _ handler _ => Utilities.Handles data P handler
  | _ => True

end ReaderCall

end Chip.TLV
