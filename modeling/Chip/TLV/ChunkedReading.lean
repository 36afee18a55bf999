import Chip.TLV.ReaderSpec

/-! Reading through a backing store against reading one contiguous buffer. A reader
over chunks whose current chunk stays within the limit answers every call as the
reader over the joined bytes does. -/
namespace Chip.TLV

open List Proc.Agrees TLVReader TLVReader

/-- The reader over the bytes that the limit still allows, joined in one buffer. -/
def TLVReader.contiguous (r : TLVReader) : TLVReader :=
  { r with
    mBackingStore := none
    mBuf := (r.mBuf ++ (r.mBackingStore.getD []).flatten).take (r.mMaxLen - r.mLenRead) }

/-- A reader over chunks whose current chunk stays within the limit and whose
store has enough to reach it. -/
structure Capped (maxLen : Nat) (r : TLVReader) : Prop where
  max : r.mMaxLen = maxLen
  bound : maxLen < 2 ^ 32
  lenRead : r.mLenRead ≤ maxLen
  buf : r.mLenRead + r.mBuf.length ≤ maxLen
  store : ∃ chunks, r.mBackingStore = some chunks ∧ (∀ chunk ∈ chunks, chunk ≠ []) ∧
    maxLen ≤ r.mLenRead + r.mBuf.length + chunks.flatten.length

/-- The two readers compared: one over chunks and the one over the joined bytes. -/
def Joined (maxLen : Nat) (r s : TLVReader) : Prop := s = r.contiguous ∧ Capped maxLen r

abbrev Lockstep {α : Type} (maxLen : Nat) (m : ReaderM α) (r : TLVReader) : Prop :=
  Proc.Agrees (Joined maxLen) m m r r.contiguous

section Lockstep

variable {α β : Type} {maxLen : Nat} {r : TLVReader}

theorem Capped.joined (h : Capped maxLen r) : Joined maxLen r r.contiguous := ⟨rfl, h⟩

theorem Lockstep.bind {m : ReaderM α} {f : α → ReaderM β} (hm : Lockstep maxLen m r)
  (hf : ∀ a r', m r = (.ok a, r') → Capped maxLen r' → Lockstep maxLen (f a) r') :
  Lockstep maxLen (m >>= f) r :=
  Proc.Agrees.bind hm fun a r' s' hOk hJoined => by
    obtain ⟨rfl, hCapped⟩ := hJoined
    exact hf a r' hOk hCapped

section

variable (h : Capped maxLen r)
include h

theorem Lockstep.verify (p : Prop) [Decidable p] (e : ChipError) :
  Lockstep maxLen (Proc.verify p e) r :=
  Proc.Agrees.verify e Iff.rfl h.joined

theorem Capped.contiguous_length : r.contiguous.mBuf.length = maxLen - r.mLenRead := by
  obtain ⟨chunks, hStore, _, hEnough⟩ := h.store
  simp only [contiguous, hStore, Option.getD_some, length_take, length_append, h.max]
  omega

theorem Capped.take_contiguous {n : Nat} (hn : n ≤ r.mBuf.length) :
  r.contiguous.mBuf.take n = r.mBuf.take n := by
  have hBuf := h.buf
  simp only [contiguous, h.max, take_take, Nat.min_eq_left (show n ≤ maxLen - r.mLenRead by omega)]
  rw [take_append_of_le_length hn]

theorem Capped.advance {n : Nat} (hn : n ≤ r.mBuf.length) :
  Capped maxLen (r.advance n) ∧ (r.advance n).contiguous = r.contiguous.advance n := by
  have hBuf := h.buf
  have hBound := h.bound
  have hLen : add32 r.mLenRead n = r.mLenRead + n := add32_of_lt (by omega)
  obtain ⟨chunks, hStore, hNonempty, hEnough⟩ := h.store
  constructor
  · exact {
      max := h.max
      bound := hBound
      lenRead := by simp only [TLVReader.advance, hLen]; omega
      buf := by simp only [TLVReader.advance, hLen, length_drop]; omega
      store := ⟨chunks, hStore, hNonempty, by
        simp only [TLVReader.advance, hLen, length_drop]; omega⟩ }
  · simp only [contiguous, TLVReader.advance, hLen, drop_take,
      drop_append_of_le_length hn, Nat.sub_sub]

theorem Capped.ensureData (e : ChipError) :
  (∃ r', ensureData e r = (.ok (), r') ∧ r'.mBuf ≠ [] ∧ r'.contiguous = r.contiguous ∧
    Capped maxLen r') ∨
  (ensureData e r = (.error e, r) ∧ r.contiguous.mBuf = []) := by
  by_cases hBuf : r.mBuf ≠ []
  · exact .inl ⟨r, ensureData_nonempty hBuf e, hBuf, rfl, h⟩
  rw [not_not] at hBuf
  have hLenRead := h.lenRead
  have hBound := h.bound
  obtain ⟨chunks, hStore, hNonempty, hEnough⟩ := h.store
  by_cases hEnd : r.mLenRead = r.mMaxLen
  · refine .inr ⟨by simp [TLV.ensureData, hBuf, hEnd], ?_⟩
    simp [contiguous, hEnd]
  rw [h.max] at hEnd
  cases chunks with
  | nil =>
    simp only [hBuf, length_nil, flatten_nil] at hEnough
    omega
  | cons chunk rest =>
    have hChunk : chunk ≠ [] := hNonempty chunk (by simp)
    have hPos := length_pos_of_ne_nil hChunk
    have hLeft : sub32 r.mMaxLen r.mLenRead = maxLen - r.mLenRead := by
      rw [h.max]
      exact sub32_of_le hBound hLenRead
    let n := min chunk.length (maxLen - r.mLenRead)
    let r' : TLVReader := { r with mBackingStore := some rest, mBuf := chunk.take n }
    have hOk : TLV.ensureData e r = (.ok (), r') := by
      simp only [TLV.ensureData, Proc.read_bind, hBuf, if_true, Proc.verify_bind, h.max, ne_eq,
        hEnd, not_false_eq_true, hStore, Proc.modify_bind, hChunk, Proc.modify_apply, r', n]
      rw [← h.max, hLeft, h.max]
    have hLength : (chunk.take n).length = n := by
      rw [length_take]
      omega
    rw [hBuf, length_nil, flatten_cons, length_append] at hEnough
    refine .inl ⟨r', hOk, ?_, ?_, ?_⟩
    · intro hEmpty
      have hZero : (chunk.take n).length = 0 := by rw [show chunk.take n = [] from hEmpty]; rfl
      omega
    · -- Cutting the chunk to the limit before or after joining makes no difference.
      have hJoin : (chunk.take n ++ rest.flatten).take (maxLen - r.mLenRead) =
          (chunk ++ rest.flatten).take (maxLen - r.mLenRead) := by
        by_cases hFits : chunk.length ≤ maxLen - r.mLenRead
        · rw [take_of_length_le (show chunk.length ≤ n by omega)]
        · rw [take_append_of_le_length (by omega), take_append_of_le_length (by omega),
            take_take, Nat.min_eq_left (by omega)]
      simp only [contiguous, r', hBuf, hStore, Option.getD_some, nil_append,
        flatten_cons, h.max]
      rw [hJoin]
    · exact {
        max := h.max
        bound := hBound
        lenRead := hLenRead
        buf := by simp only [r', hLength]; omega
        store := ⟨rest, rfl, fun c hc => hNonempty c (by simp [hc]), by
          simp only [r', hLength]; omega⟩ }

end

variable {s : TLVReader}

theorem ensureData_plain (hStore : s.mBackingStore = none) (e : ChipError) :
  ensureData e s = (if s.mBuf = [] then .error e else .ok (), s) := by
  by_cases hBuf : s.mBuf = []
  · by_cases hEnd : s.mLenRead = s.mMaxLen <;> simp [TLV.ensureData, hBuf, hEnd, hStore]
  · rw [ensureData_nonempty hBuf, if_neg hBuf]

theorem ensureData_lockstep (h : Capped maxLen r) (e : ChipError) :
  Lockstep maxLen (ensureData e) r := by
  unfold Lockstep Proc.Agrees
  rw [ensureData_plain (show r.contiguous.mBackingStore = none from rfl)]
  rcases h.ensureData e with ⟨r', hOk, hBuf, hSame, hCapped⟩ | ⟨hError, hBuf⟩
  · have hNonempty : r.contiguous.mBuf ≠ [] := by
      intro hEmpty
      have hLength := hCapped.contiguous_length
      have hCap := hCapped.buf
      have hPos := length_pos_of_ne_nil hBuf
      rw [hSame, hEmpty, length_nil] at hLength
      omega
    rw [hOk, if_neg hNonempty, ← hSame]
    exact ⟨rfl, hCapped.joined⟩
  · rw [hError, if_pos hBuf]
    exact ⟨rfl, h.joined⟩

/-- What `ReadData` does on one buffer: it takes what it was asked for, or runs
over everything that is left and reports the underrun. -/
def readPlain (len : Nat) : ReaderM Bytes := fun r =>
  if len ≤ r.mBuf.length then (.ok (r.mBuf.take len), r.advance len)
  else (.error .tlvUnderrun, r.advance r.mBuf.length)

theorem readPlain_split {n len : Nat} (hn : n ≤ len) (hBuf : n ≤ s.mBuf.length) :
  readPlain len s = match readPlain (len - n) (s.advance n) with
    | (.ok rest, s') => (.ok (s.mBuf.take n ++ rest), s')
    | (.error e, s') => (.error e, s') := by
  have hAdvance : ∀ m, (s.advance n).advance m = s.advance (n + m) := by
    intro m
    simp only [advance, drop_drop, add32, mk.injEq, true_and, and_true]
    omega
  have hLength : (s.advance n).mBuf.length = s.mBuf.length - n := by
    simp [advance]
  by_cases hFits : len ≤ s.mBuf.length
  · have hRest : len - n ≤ (s.advance n).mBuf.length := by omega
    have hTake : s.mBuf.take n ++ (s.advance n).mBuf.take (len - n) = s.mBuf.take len := by
      simp only [advance]
      rw [← take_add, Nat.add_sub_cancel' hn]
    simp only [readPlain, if_pos hFits, if_pos hRest, hAdvance, hTake, Nat.add_sub_cancel' hn]
  · have hRest : ¬ len - n ≤ (s.advance n).mBuf.length := by omega
    rw [hLength] at hRest
    simp only [readPlain, if_neg hFits, hLength, if_neg hRest, hAdvance, Nat.add_sub_cancel' hBuf]

theorem readPlain_zero (h : s.mLenRead < 2 ^ 32) : readPlain 0 s = (.ok [], s) := by
  have hLen : add32 s.mLenRead 0 = s.mLenRead := add32_of_lt (by omega)
  simp [readPlain, advance, hLen]

theorem readDataLoop_plain (fuel len : Nat) (h : Capped maxLen r) (hFuel : len ≤ fuel) :
  Proc.Agrees (Joined maxLen) (readDataLoop fuel len) (readPlain len) r r.contiguous := by
  have hLt : r.contiguous.mLenRead < 2 ^ 32 := Nat.lt_of_le_of_lt h.lenRead h.bound
  induction fuel generalizing len r with
  | zero =>
    have hZero : len = 0 := by omega
    subst hZero
    unfold Proc.Agrees
    rw [readPlain_zero hLt]
    exact ⟨rfl, h.joined⟩
  | succ fuel ih =>
    by_cases hZero : len = 0
    · subst hZero
      unfold Proc.Agrees
      rw [readPlain_zero hLt]
      exact ⟨rfl, h.joined⟩
    simp only [readDataLoop, if_neg hZero]
    rcases h.ensureData .tlvUnderrun with ⟨r₁, hOk, hBuf, hSame, hCapped⟩ | ⟨hError, hEmpty⟩
    · have hPos := length_pos_of_ne_nil hBuf
      let n := min len r₁.mBuf.length
      have hn : n ≤ r₁.mBuf.length := Nat.min_le_right _ _
      obtain ⟨hAdvanced, hContiguous⟩ := hCapped.advance hn
      have hTake := hCapped.take_contiguous hn
      have hRoom : n ≤ r₁.contiguous.mBuf.length := by
        have hCap := hCapped.buf
        rw [hCapped.contiguous_length]
        omega
      have hRest := ih (len - n) hAdvanced (by omega)
        (Nat.lt_of_le_of_lt hAdvanced.lenRead hAdvanced.bound)
      unfold Proc.Agrees at hRest ⊢
      rw [← hSame, readPlain_split (Nat.min_le_left _ _) hRoom, ← hContiguous, hTake,
        Proc.bind_ok hOk, Proc.read_bind, Proc.bind_ok (consume_apply n r₁), Proc.bind_apply]
      obtain ⟨hResult, hState⟩ := hRest
      cases hLoop : readDataLoop fuel (len - n) (r₁.advance n) with
      | mk result r₂ =>
        cases hPlain : readPlain (len - n) (r₁.advance n).contiguous with
        | mk result' s₂ =>
          rw [hLoop, hPlain] at hResult hState
          simp only at hResult
          subst hResult
          cases result with
          | ok rest => exact ⟨rfl, hState⟩
          | error e => exact ⟨rfl, hState⟩
    · unfold Proc.Agrees
      have hAdvance : r.contiguous.advance 0 = r.contiguous := congrArg Prod.snd (readPlain_zero hLt)
      rw [Proc.bind_error hError]
      simp only [readPlain, hEmpty, length_nil, Nat.le_zero, if_neg hZero, hAdvance]
      exact ⟨trivial, h.joined⟩

theorem readDataLoop_contiguous (fuel len : Nat) (hStore : s.mBackingStore = none)
  (hLt : s.mLenRead < 2 ^ 32) (hFuel : len ≤ fuel) : readDataLoop fuel len s = readPlain len s := by
  induction fuel generalizing len s with
  | zero =>
    have hZero : len = 0 := by omega
    subst hZero
    rw [readPlain_zero hLt]
    rfl
  | succ fuel ih =>
    by_cases hZero : len = 0
    · subst hZero
      rw [readPlain_zero hLt]
      rfl
    simp only [readDataLoop, if_neg hZero]
    have hEnsure := ensureData_plain hStore .tlvUnderrun
    by_cases hBuf : s.mBuf = []
    · rw [if_pos hBuf] at hEnsure
      have hAdvance : s.advance 0 = s := congrArg Prod.snd (readPlain_zero hLt)
      rw [Proc.bind_error hEnsure]
      simp only [readPlain, hBuf, length_nil, Nat.le_zero, if_neg hZero, hAdvance]
    · rw [if_neg hBuf] at hEnsure
      have hPos := length_pos_of_ne_nil hBuf
      have hRest := ih (len - min len s.mBuf.length) (s := s.advance (min len s.mBuf.length))
        hStore (Nat.mod_lt _ (by decide)) (by omega)
      rw [Proc.bind_ok hEnsure, Proc.read_bind, Proc.bind_ok (consume_apply _ s), Proc.bind_apply,
        hRest, readPlain_split (Nat.min_le_left _ _) (Nat.min_le_right len s.mBuf.length)]
      cases readPlain (len - min len s.mBuf.length) (s.advance (min len s.mBuf.length)) with
      | mk result s' => cases result <;> rfl

section

variable (h : Capped maxLen r)
include h

theorem Capped.lt_contiguous : r.contiguous.mLenRead < 2 ^ 32 :=
  Nat.lt_of_le_of_lt h.lenRead h.bound

theorem readData_lockstep (len : Nat) : Lockstep maxLen (readData len) r := by
  have hPlain := readDataLoop_plain len len h (Nat.le_refl _)
  unfold Lockstep Proc.Agrees at *
  rw [readData, readDataLoop_contiguous len len rfl h.lt_contiguous (Nat.le_refl _)]
  exact hPlain

theorem readHead_lockstep (len : Nat) : Lockstep maxLen (readHead len) r := by
  have hRead := readData_lockstep h len
  have hCap := h.buf
  have hLength := h.contiguous_length
  have hPlain : readData len r.contiguous = readPlain len r.contiguous :=
    readDataLoop_contiguous len len rfl h.lt_contiguous (Nat.le_refl _)
  have hHead : readHead len r.contiguous = readPlain len r.contiguous := by
    by_cases hLong : len > r.contiguous.mBuf.length
    · simp only [readHead, Proc.read_bind, if_pos hLong, hPlain]
    · simp only [readHead, Proc.read_bind, if_neg hLong, consume_apply, readPlain,
        if_pos (Nat.le_of_not_lt hLong)]
  unfold Lockstep Proc.Agrees at *
  rw [hHead]
  by_cases hLong : len > r.mBuf.length
  · simp only [readHead, Proc.read_bind, if_pos hLong]
    rwa [hPlain] at hRead
  · have hFits : len ≤ r.contiguous.mBuf.length := by omega
    obtain ⟨hAdvanced, hContiguous⟩ := h.advance (Nat.le_of_not_lt hLong)
    simp only [readHead, Proc.read_bind, if_neg hLong, consume_apply, readPlain, if_pos hFits,
      h.take_contiguous (Nat.le_of_not_lt hLong)]
    exact ⟨trivial, hContiguous.symm, hAdvanced⟩

theorem Capped.of_position {r' : TLVReader} (hStore : r'.mBackingStore = r.mBackingStore)
  (hBuf : r'.mBuf = r.mBuf) (hLen : r'.mLenRead = r.mLenRead) (hMax : r'.mMaxLen = r.mMaxLen) :
  Capped maxLen r' :=
  { max := hMax.trans h.max
    bound := h.bound
    lenRead := hLen ▸ h.lenRead
    buf := by rw [hLen, hBuf]; exact h.buf
    store := by rw [hStore, hLen, hBuf]; exact h.store }

theorem verifyElement_lockstep : Lockstep maxLen verifyElement r := by
  have hTag : ∀ r', Capped maxLen r' → Lockstep maxLen (if r.elementType.hasLength then
      Proc.verify (r.mElemLenOrVal % 2 ^ 32 ≤ sub32 r.mMaxLen r.mLenRead) .tlvUnderrun
      else pure ()) r' := by
    intro r' h'
    split_ifs
    · exact Lockstep.verify h' _ _
    · exact pure () h'.joined
  refine read_bind ?_
  by_cases hEnd : r.elementType = .endOfContainer
  · have hEnd' : r.contiguous.elementType = .endOfContainer := hEnd
    simp only [if_pos hEnd, if_pos hEnd']
    exact (Lockstep.verify h _ _).bind fun _ r₁ _ h₁ =>
      (Lockstep.verify h₁ _ _).bind fun _ r₂ _ h₂ => hTag r₂ h₂
  · have hEnd' : ¬ r.contiguous.elementType = .endOfContainer := hEnd
    simp only [if_neg hEnd, if_neg hEnd']
    refine (Lockstep.verify h _ _).bind fun _ r₁ _ h₁ => ?_
    cases verifyTagInContainer r.mContainerType r.mElemTag with
    | ok _ => exact hTag r₁ h₁
    | error e => exact fail _ h₁.joined

theorem readElement_lockstep : Lockstep maxLen readElement r := by
  refine (ensureData_lockstep h .endOfTLV).bind fun _ r₁ hEnsure h₁ => ?_
  have hBuf : r₁.mBuf ≠ [] := by
    rcases h.ensureData .endOfTLV with ⟨r', hOk, hBuf, _⟩ | ⟨hError, _⟩
    · rw [hEnsure] at hOk
      cases hOk
      exact hBuf
    · rw [hEnsure] at hError
      cases hError
  have hControl : r₁.contiguous.mBuf.headD 0 = r₁.mBuf.headD 0 := by
    have hTake := h₁.take_contiguous (n := 1) (length_pos_of_ne_nil hBuf)
    cases hr : r₁.mBuf with
    | nil => exact absurd hr hBuf
    | cons byte rest =>
      cases hs : r₁.contiguous.mBuf with
      | nil => simp [hr, hs] at hTake
      | cons byte' rest' => simpa [hr, hs] using hTake
  refine read_bind ?_
  rw [hControl]
  generalize r₁.mBuf.headD 0 = control
  refine modify_bind ?_
  have h₂ : Capped maxLen { r₁ with mControlByte := some control } :=
    h₁.of_position rfl rfl rfl rfl
  refine Lockstep.bind (r := { r₁ with mControlByte := some control }) (Lockstep.verify h₂ _ _)
    fun _ r₃ _ h₃ => ?_
  refine (readHead_lockstep h₃ _).bind fun head r₄ _ h₄ => ?_
  refine modify_bind ?_
  have h₅ : ∀ tagControl size, Capped maxLen (decodeHead tagControl size head r₄) :=
    fun _ _ => h₄.of_position rfl rfl rfl rfl
  refine read_bind ?_
  refine Lockstep.bind (r := decodeHead _ _ head r₄) (Lockstep.verify (h₅ _ _) _ _)
    fun _ r₆ _ h₆ => ?_
  exact verifyElement_lockstep h₆

theorem skipData_lockstep : Lockstep maxLen skipData r := by
  refine read_bind ?_
  show Lockstep maxLen (if r.elementType.hasLength then _ else _) r
  split_ifs
  · exact (readData_lockstep h _).bind fun _ r' _ h' => pure () h'.joined
  · exact pure () h.joined

theorem enterOrLeave_lockstep (outer : TLVType) (nestLevel : Nat) :
  Lockstep maxLen (enterOrLeave outer nestLevel) r := by
  refine read_bind ?_
  show Lockstep maxLen (if r.elementType = .endOfContainer then _
    else if r.elementType.isContainer then _ else _) r
  split
  · exact modify_bind (pure _ ⟨rfl, h.of_position rfl rfl rfl rfl⟩)
  split
  · exact modify_bind (pure _ ⟨rfl, h.of_position rfl rfl rfl rfl⟩)
  · exact pure _ h.joined

end

theorem skipLoop_lockstep (outer : TLVType) (fuel nestLevel : Nat) (h : Capped maxLen r) :
  Lockstep maxLen (skipLoop outer fuel nestLevel) r := by
  induction fuel generalizing nestLevel r with
  | zero => exact fail _ h.joined
  | succ fuel ih =>
    refine read_bind ?_
    show Lockstep maxLen (if r.elementType = .endOfContainer ∧ nestLevel = 0 then _ else _) r
    split_ifs
    · exact pure () h.joined
    · refine (enterOrLeave_lockstep h outer nestLevel).bind fun level r₁ _ h₁ => ?_
      refine (skipData_lockstep h₁).bind fun _ r₂ _ h₂ => ?_
      exact (readElement_lockstep h₂).bind fun _ r₃ _ h₃ => ih level h₃

section

variable (h : Capped maxLen r)
include h

theorem contiguous_available : r.contiguous.available ≤ r.available := by
  obtain ⟨chunks, hStore, _, _⟩ := h.store
  simp only [available, contiguous, hStore, Option.getD_some, Option.getD_none, map_nil,
    sum_nil, length_take, length_append, length_flatten]
  omega

theorem skipToEndOfContainer_lockstep : Lockstep maxLen skipToEndOfContainer r := by
  refine read_bind (modify_bind ?_)
  let r₁ : TLVReader := { r with mContainerOpen := false }
  have h₁ : Capped maxLen r₁ := h.of_position rfl rfl rfl rfl
  have hLoop := skipLoop_lockstep r.mContainerType (r.available + 1) 0 h₁
  -- Both sides have turns to spare, so the same number may be given to each.
  have hTurns : skipLoop r.mContainerType (r.contiguous.available + 1) 0 r₁.contiguous =
      skipLoop r.mContainerType (r.available + 1) 0 r₁.contiguous := by
    obtain ⟨more, hMore⟩ := Nat.exists_eq_add_of_le (contiguous_available h)
    have hSame : r₁.contiguous.available = r.contiguous.available := rfl
    rw [show r.available + 1 = r₁.contiguous.available + 1 + more by omega,
      skipLoop_turns, hSame]
  unfold Proc.Agrees
  show (skipLoop r.mContainerType (r.available + 1) 0 r₁).1 =
      (skipLoop r.mContainerType (r.contiguous.available + 1) 0 r₁.contiguous).1 ∧ Joined maxLen
        (skipLoop r.mContainerType (r.available + 1) 0 r₁).2
        (skipLoop r.mContainerType (r.contiguous.available + 1) 0 r₁.contiguous).2
  rw [hTurns]
  exact hLoop

theorem enterContainer_lockstep : Lockstep maxLen enterContainer r := by
  refine read_bind ((Lockstep.verify h _ _).bind fun _ r₁ _ h₁ => ?_)
  exact modify_bind (pure _ ⟨rfl, h₁.of_position rfl rfl rfl rfl⟩)

theorem exitContainer_lockstep (outer : TLVType) : Lockstep maxLen (exitContainer outer) r :=
  (skipToEndOfContainer_lockstep h).bind fun _ _ _ h₁ =>
    modify ⟨rfl, h₁.of_position rfl rfl rfl rfl⟩

theorem skip_lockstep : Lockstep maxLen skip r := by
  refine read_bind ((Lockstep.verify h _ _).bind fun _ r₁ _ h₁ => ?_)
  show Lockstep maxLen (if r.elementType.isContainer then _ else _) r₁
  split_ifs
  · exact (enterContainer_lockstep h₁).bind fun outer r₂ _ h₂ => exitContainer_lockstep h₂ outer
  · refine (skipData_lockstep h₁).bind fun _ r₂ _ h₂ => ?_
    exact modify ⟨rfl, h₂.of_position rfl rfl rfl rfl⟩

theorem next_lockstep : Lockstep maxLen next r := by
  refine (skip_lockstep h).bind fun _ r₁ _ h₁ => ?_
  refine (readElement_lockstep h₁).bind fun _ r₂ _ h₂ => ?_
  refine read_bind ((Lockstep.verify h₂ _ _).bind fun _ r₃ _ h₃ => ?_)
  show Lockstep maxLen (if r₂.elementType.hasLength ∧ r₂.getLength ≠ 0 then _ else _) r₃
  split_ifs
  · exact ensureData_lockstep h₃ _
  · exact pure () h₃.joined

theorem getBytes_lockstep (bufSize : Nat) : Lockstep maxLen (getBytes bufSize) r := by
  refine read_bind ((Lockstep.verify h _ _).bind fun _ r₁ _ h₁ => ?_)
  refine (Lockstep.verify h₁ _ _).bind fun _ r₂ _ h₂ => ?_
  refine (readData_lockstep h₂ _).bind fun bytes r₃ _ h₃ => ?_
  exact modify_bind (pure _ ⟨rfl, h₃.of_position rfl rfl rfl rfl⟩)

end

end Lockstep

inductive ReaderOp where
  | next
  | enterContainer
  | exitContainer (outerContainerType : TLVType)
  | skip
  | getBytes (bufSize : Nat)

inductive ReaderAnswer where
  | done
  | outerContainerType (type : TLVType)
  | bytes (data : Bytes)
  deriving DecidableEq

def ReaderOp.run : ReaderOp → ReaderM ReaderAnswer
  | next => do
      TLV.next
      pure .done
  | enterContainer => do
      let type ← TLV.enterContainer
      pure (.outerContainerType type)
  | exitContainer outerContainerType => do
      TLV.exitContainer outerContainerType
      pure .done
  | skip => do
      TLV.skip
      pure .done
  | getBytes bufSize => do
      let data ← TLV.getBytes bufSize
      pure (.bytes data)

structure ElementView where
  tag : Tag
  type : TLVType
  length : Nat
  int64 : Except ChipError Int64
  uint64 : Except ChipError UInt64
  bool : Except ChipError Bool
  float : Except ChipError UInt32
  double : Except ChipError (UInt32 ⊕ UInt64)
  deriving DecidableEq

def TLVReader.view (r : TLVReader) : ElementView :=
  { tag := r.getTag
    type := r.getType
    length := r.getLength
    int64 := r.getInt64
    uint64 := r.getUInt64
    bool := r.getBool
    float := r.getFloat
    double := r.getDouble }

/-- The answers to a sequence of calls, each made whatever the earlier ones
returned, with the element shown after each. -/
def observe : List ReaderOp → TLVReader → List (Except ChipError ReaderAnswer × ElementView)
  | [], _ => []
  | op :: ops, r => ((op.run r).1, (op.run r).2.view) :: observe ops (op.run r).2

def TLVReader.after : List ReaderOp → TLVReader → TLVReader
  | [], r => r
  | op :: ops, r => after ops (op.run r).2

variable {r : TLVReader}

theorem ReaderOp.run_lockstep {maxLen : Nat} (op : ReaderOp) (h : Capped maxLen r) :
  Lockstep maxLen op.run r := by
  cases op with
  | next => exact (next_lockstep h).bind fun _ _ _ h' => pure _ h'.joined
  | enterContainer =>
    exact (enterContainer_lockstep h).bind fun _ _ _ h' => pure _ h'.joined
  | exitContainer outer =>
    exact (exitContainer_lockstep h outer).bind fun _ _ _ h' => pure _ h'.joined
  | skip => exact (skip_lockstep h).bind fun _ _ _ h' => pure _ h'.joined
  | getBytes bufSize =>
    exact (getBytes_lockstep h bufSize).bind fun _ _ _ h' => pure _ h'.joined

theorem observe_contiguous {maxLen : Nat} (ops : List ReaderOp) (h : Capped maxLen r) :
  observe ops r = observe ops r.contiguous ∧ Capped maxLen (after ops r) := by
  induction ops generalizing r with
  | nil => exact ⟨rfl, h⟩
  | cons op ops ih =>
    obtain ⟨hResult, hJoined, hCapped⟩ := op.run_lockstep h
    obtain ⟨hRest, hAfter⟩ := ih hCapped
    refine ⟨?_, hAfter⟩
    have hView : (op.run r.contiguous).2.view = (op.run r).2.view := by
      rw [hJoined]
      rfl
    simp only [observe]
    rw [hResult, hView, hRest, hJoined]

theorem capped_init {maxLen : Nat} (hMaxLen : maxLen < 2 ^ 32) {chunks : List Bytes}
  (hNonempty : ∀ chunk ∈ chunks, chunk ≠ []) (hEnough : maxLen ≤ chunks.flatten.length)
  (hFirst : (chunks.headD []).length ≤ maxLen) :
  Capped maxLen (initBackingStore chunks maxLen) ∧
    (initBackingStore chunks maxLen).contiguous =
      init chunks.flatten maxLen := by
  have hJoin : chunks.headD [] ++ chunks.tail.flatten = chunks.flatten := by
    cases chunks <;> rfl
  constructor
  · exact {
      max := rfl
      bound := hMaxLen
      lenRead := Nat.zero_le _
      buf := by simpa [initBackingStore] using hFirst
      store := ⟨chunks.tail, rfl, fun chunk hMem => hNonempty chunk (mem_of_mem_tail hMem), by
        have hLength := congrArg length hJoin
        rw [length_append] at hLength
        simp only [initBackingStore]
        omega⟩ }
  · have hLimit : min maxLen (2 ^ 32 - 1) = maxLen := by omega
    simp only [contiguous, initBackingStore, init, Option.getD_some, hJoin, hLimit,
      Nat.sub_zero]

def nullByte : UInt8 := controlByte .anonymous .null

/-- A reader on a chunk that still holds `k` anonymous nulls. -/
structure NullRun (k lenRead : Nat) (r : TLVReader) : Prop where
  buf : r.mBuf = List.replicate k nullByte
  lenRead : r.mLenRead = lenRead
  containerType : r.mContainerType = .notSpecified
  settled : Settled r

theorem NullRun.next {k lenRead : Nat} (h : NullRun (k + 1) lenRead r) (hLt : lenRead + 1 < 2 ^ 32) :
  NullRun k (lenRead + 1) (ReaderOp.next.run r).2 := by
  let r' : TLVReader := { r.clearElementState.advance 1 with mControlByte := some nullByte }
  have hNamed : TLVElementType.null ≠ .notSpecified := by decide
  have hType : r'.elementType = .null := elementType_controlByte .anonymous hNamed
  have hBuf : r.clearElementState.mBuf = (controlByte .anonymous .null :: [] ++
      LittleEndian.encode TLVElementType.null.fieldSize.bytes 0) ++ replicate k nullByte := by
    show r.mBuf = _
    rw [h.buf, replicate_succ]
    rfl
  have hTagRead : ∀ rest, readTag r.clearElementState.implicitProfileId .anonymous ([] ++ rest) =
      (anonymousTag, rest) := fun _ => rfl
  have hRead : readElement r.clearElementState = verifyElement r' :=
    readElement_buffered hNamed rfl rfl hTagRead (by decide) hBuf
  have hVerify : verifyElement r' = (.ok (), r') := by
    have hContainer : r'.mContainerType = .notSpecified := h.containerType
    have hTag : r'.mElemTag = anonymousTag := rfl
    have hUnknown : anonymousTag ≠ unknownImplicitTag := by decide
    have hContext : isContextTag anonymousTag = false := by decide
    simp [verifyElement, hType, hContainer, hTag, hUnknown, verifyTagInContainer, hContext,
      TLVElementType.hasLength]
  have hNext : TLV.next r = (.ok (), r') := by
    unfold TLV.next
    rw [Proc.bind_ok (skip_settled h.settled), Proc.bind_ok (hRead.trans hVerify)]
    simp [hType, TLVElementType.hasLength]
  have hRun : ReaderOp.next.run r = (.ok .done, r') := Proc.bind_ok hNext
  rw [hRun]
  refine ⟨?_, ?_, h.containerType, ?_⟩
  · show r.mBuf.drop 1 = _
    rw [h.buf, replicate_succ]
    rfl
  · show add32 r.mLenRead 1 = _
    rw [h.lenRead, add32_of_lt hLt]
  · exact ⟨by simp [hType], by rw [hType]; rfl, by simp [hType, TLVElementType.hasLength]⟩

theorem NullRun.after {k lenRead : Nat} (n : Nat) (h : NullRun (k + n) lenRead r)
  (hLt : lenRead + n < 2 ^ 32) :
  NullRun k (lenRead + n) (after (replicate n .next) r) := by
  induction n generalizing lenRead r with
  | zero => exact h
  | succ n ih =>
    have hNext := h.next (by omega)
    have hRest := ih hNext (by omega)
    rwa [show lenRead + 1 + n = lenRead + (n + 1) by omega] at hRest

theorem nullRun_init {n : Nat} {rest : List Bytes} (maxLen : Nat) :
  NullRun n 0 (initBackingStore (replicate n nullByte :: rest) maxLen) :=
  ⟨rfl, rfl, rfl, settled_clear (initBackingStore _ maxLen)⟩

/-- Reading through a backing store refines contiguous reading, for every input
split this way and every sequence of calls, exactly when the first chunk is not
longer than the limit: `EnsureData` cuts every later chunk to the limit, `Init` does
not cut the first. -/
theorem chunked_refines_iff (maxLen : Nat) (hMaxLen : maxLen < 2 ^ 32) (lengths : List Nat)
    (hLengths : ∀ n ∈ lengths, 0 < n ∧ n < 2 ^ 32) (hEnough : maxLen ≤ lengths.sum) :
    (∀ chunks : List Bytes, chunks.map List.length = lengths → ∀ ops : List ReaderOp,
      observe ops (TLVReader.initBackingStore chunks maxLen) =
        observe ops (TLVReader.init chunks.flatten maxLen) ∧
      (TLVReader.after ops (TLVReader.initBackingStore chunks maxLen)).mLenRead ≤ maxLen) ↔
    lengths.headD 0 ≤ maxLen := by
  constructor
  · intro hAll
    by_contra hLong
    rw [Nat.not_le] at hLong
    cases lengths with
    | nil => simp at hLong
    | cons first rest =>
      rw [List.headD_cons] at hLong
      have hFirst := (hLengths first (by simp)).2
      have hMap : ((first :: rest).map fun n => List.replicate n nullByte).map List.length =
          first :: rest := by simp [List.map_map, Function.comp_def]
      obtain ⟨_, hLenRead⟩ := hAll _ hMap (List.replicate (maxLen + 1) .next)
      obtain ⟨more, hMore⟩ := Nat.exists_eq_add_of_le' hLong
      have hInit : NullRun (more + (maxLen + 1)) 0 (TLVReader.initBackingStore
          ((first :: rest).map fun n => List.replicate n nullByte) maxLen) := by
        rw [← show first = more + (maxLen + 1) from hMore]
        exact nullRun_init maxLen
      rw [(hInit.after (maxLen + 1) (by omega)).lenRead] at hLenRead
      omega
  · rintro hFirst chunks rfl ops
    have hNonempty : ∀ chunk ∈ chunks, chunk ≠ [] := by
      intro chunk hMem hEmpty
      have hPos := (hLengths chunk.length (List.mem_map_of_mem hMem)).1
      simp [hEmpty] at hPos
    have hHead : (chunks.headD []).length ≤ maxLen := by
      cases chunks with
      | nil => exact Nat.zero_le _
      | cons chunk rest => exact hFirst
    rw [← List.length_flatten] at hEnough
    obtain ⟨hCapped, hContiguous⟩ := capped_init hMaxLen hNonempty hEnough hHead
    obtain ⟨hObserve, hAfter⟩ := observe_contiguous ops hCapped
    rw [← hContiguous]
    exact ⟨hObserve, hAfter.lenRead⟩

/-- Two chunks of two bytes under a limit of three. -/
theorem chunked_refines_iff_two :
    (∀ chunks : List Bytes, chunks.map List.length = [2, 2] → ∀ ops : List ReaderOp,
      observe ops (TLVReader.initBackingStore chunks 3) =
        observe ops (TLVReader.init chunks.flatten 3) ∧
      (TLVReader.after ops (TLVReader.initBackingStore chunks 3)).mLenRead ≤ 3) ↔
    [2, 2].headD 0 ≤ 3 :=
  chunked_refines_iff 3 (by decide) [2, 2] (by decide) (by decide)

/-- With a first chunk of two bytes and a limit of one, the second `Next` reads past
the limit. -/
theorem chunked_reads_past_limit :
    ¬ (observe [.next, .next] (TLVReader.initBackingStore [[nullByte, nullByte]] 1) =
        observe [.next, .next] (TLVReader.init [nullByte, nullByte] 1) ∧
      (TLVReader.after [.next, .next]
        (TLVReader.initBackingStore [[nullByte, nullByte]] 1)).mLenRead ≤ 1) := by
  decide +kernel

end Chip.TLV
