import Chip.Dnssd.QName
import Mathlib.Data.List.Infix

/-! Where the iterator over a serialized name goes. What it does at a place follows from the bytes
there, so the place after a call is a function of the message and not of the calls before. -/
namespace Chip.Dnssd

open List BytesRange Looping

/-- What the bytes of a message are at a place where the next part of a name is expected. -/
inductive Item where
  | stop
  | label (bytes : Bytes)
  | pointer (offset : Nat)
  | malformed
  deriving DecidableEq

def itemAt (bytes : Bytes) (p : Nat) : Item :=
  match bytes[p]? with
  | none => .malformed
  | some length =>
    if length = 0 then .stop
    else if length &&& kPtrMask = kPtrMask then
      match bytes[p + 1]? with
      | none => .malformed
      | some low => .pointer ((length &&& 0x3F).toNat * 256 + low.toNat)
    else if kMaxValueSize < length.toNat ∨ bytes.length ≤ p + 1 + length.toNat then .malformed
    else .label ((bytes.drop (p + 1)).take length.toNat)

section Items

variable {bytes more label : Bytes} {p offset : Nat}

theorem itemAt_eq_stop : itemAt bytes p = .stop ↔ bytes[p]? = some 0 := by
  rw [itemAt]
  cases hByte : bytes[p]? with
  | none => simp
  | some length =>
    simp only [Option.some.injEq]
    by_cases hZero : length = 0
    · simp [hZero]
    · rw [if_neg hZero]
      constructor
      · intro h
        split at h
        · split at h <;> cases h
        · split at h <;> cases h
      · exact fun h => absurd h hZero

theorem itemAt_eq_label : itemAt bytes p = .label label ↔ ∃ length : UInt8, bytes[p]? = some length ∧
  length ≠ 0 ∧ length &&& kPtrMask ≠ kPtrMask ∧ length.toNat ≤ kMaxValueSize ∧
    p + 1 + length.toNat < bytes.length ∧ label = (bytes.drop (p + 1)).take length.toNat := by
  rw [itemAt]
  cases hByte : bytes[p]? with
  | none => simp
  | some length =>
    simp only [Option.some.injEq, exists_eq_left']
    by_cases hZero : length = 0
    · simp [hZero]
    · by_cases hPointer : length &&& kPtrMask = kPtrMask
      · rw [if_neg hZero, if_pos hPointer]
        constructor
        · intro h
          split at h <;> cases h
        · exact fun h => absurd hPointer h.2.1
      · rw [if_neg hZero, if_neg hPointer]
        by_cases hBad : kMaxValueSize < length.toNat ∨ bytes.length ≤ p + 1 + length.toNat
        · rw [if_pos hBad]
          constructor
          · exact fun h => nomatch h
          · rintro ⟨-, -, hSize, hInside, -⟩
            omega
        · rw [if_neg hBad, Item.label.injEq]
          constructor
          · intro h
            exact ⟨hZero, hPointer, by omega, by omega, h.symm⟩
          · exact fun h => h.2.2.2.2.symm

theorem itemAt_eq_pointer : itemAt bytes p = .pointer offset ↔ ∃ length low : UInt8,
  bytes[p]? = some length ∧ length ≠ 0 ∧ length &&& kPtrMask = kPtrMask ∧
    bytes[p + 1]? = some low ∧ offset = (length &&& 0x3F).toNat * 256 + low.toNat := by
  rw [itemAt]
  cases hByte : bytes[p]? with
  | none => simp
  | some length =>
    simp only [Option.some.injEq, exists_and_left, exists_eq_left']
    by_cases hZero : length = 0
    · simp [hZero]
    · by_cases hPointer : length &&& kPtrMask = kPtrMask
      · rw [if_neg hZero, if_pos hPointer]
        cases hLow : bytes[p + 1]? with
        | none => simp
        | some low => simp [hZero, hPointer, eq_comm]
      · rw [if_neg hZero, if_neg hPointer]
        constructor
        · intro h
          split at h <;> cases h
        · exact fun h => absurd h.2.1 hPointer

theorem itemAt_label_length (h : itemAt bytes p = .label label) :
  (0 < label.length ∧ label.length ≤ kMaxValueSize) ∧ p + label.length + 1 < bytes.length := by
  obtain ⟨length, _, hZero, _, hSize, hInside, rfl⟩ := itemAt_eq_label.mp h
  have hPositive : 0 < length.toNat := Nat.pos_of_ne_zero fun h => hZero (UInt8.toNat_inj.mp h)
  rw [length_take, length_drop, Nat.min_eq_left (by omega)]
  omega

theorem itemAt_append (h : itemAt bytes p ≠ .malformed) (more : Bytes) :
  itemAt (bytes ++ more) p = itemAt bytes p := by
  have hByte : ∀ {q : Nat} {b : UInt8}, bytes[q]? = some b → (bytes ++ more)[q]? = some b := by
    intro q b hAt
    rw [List.getElem?_append_left (List.getElem?_eq_some_iff.mp hAt).1, hAt]
  cases hItem : itemAt bytes p with
  | stop => exact itemAt_eq_stop.mpr (hByte (itemAt_eq_stop.mp hItem))
  | label label =>
    obtain ⟨length, hLength, hZero, hPointer, hSize, hInside, rfl⟩ := itemAt_eq_label.mp hItem
    refine itemAt_eq_label.mpr ⟨length, hByte hLength, hZero, hPointer, hSize, ?_, ?_⟩
    · rw [List.length_append]
      omega
    · rw [List.drop_append_of_le_length (by omega), List.take_append_of_le_length]
      rw [List.length_drop]
      omega
  | pointer offset =>
    obtain ⟨length, low, hLength, hZero, hPointer, hLow, rfl⟩ := itemAt_eq_pointer.mp hItem
    exact itemAt_eq_pointer.mpr ⟨length, low, hByte hLength, hZero, hPointer, hByte hLow, rfl⟩
  | malformed => exact absurd hItem h

end Items

namespace BytesRange

variable {r : BytesRange} {p : Nat} {byte : UInt8}

theorem read_eq (h : r.bytes[p]? = some byte) : r.contains p = true ∧ r.read p = pure byte := by
  rw [bytes, getElem?_take] at h
  obtain ⟨hInside, hByte⟩ := Option.ite_none_right_eq_some.mp h
  exact ⟨decide_eq_true hInside, by rw [read, hByte]⟩

theorem readBlock_eq {length : Nat} (h : p + length ≤ r.bytes.length) :
  r.readBlock p length = pure ((r.bytes.drop p).take length) := by
  rw [bytes, length_take] at h
  rw [readBlock, if_pos (by omega), bytes, drop_take, take_take, Nat.min_eq_left (by omega)]

def Readable (r : BytesRange) : Prop := r.size ≤ r.memory.length

theorem readable_ofBytes (bytes : Bytes) : (ofBytes bytes).Readable := Nat.le_refl _

theorem Readable.bytes_length (h : r.Readable) : r.bytes.length = r.size :=
  length_take_of_le h

theorem Readable.contains_iff (h : r.Readable) : r.contains p = true ↔ p < r.bytes.length := by
  rw [h.bytes_length, contains, decide_eq_true_iff]

@[simp] theorem bytes_ofBytes (bytes : Bytes) : (ofBytes bytes).bytes = bytes :=
  take_length

end BytesRange

namespace SerializedQNameIterator

variable {it : SerializedQNameIterator} {follow : Bool} {label : Bytes} {offset : Nat}

def bytes (it : SerializedQNameIterator) : Bytes := it.mValidData.bytes

def item (it : SerializedQNameIterator) : Item := itemAt it.bytes it.mCurrentPosition

def past (it : SerializedQNameIterator) (label : Bytes) : SerializedQNameIterator :=
  { it with mValue := label, mCurrentPosition := it.mCurrentPosition + label.length + 1 }

def jump (it : SerializedQNameIterator) (offset : Nat) : SerializedQNameIterator :=
  { it with mLookBehindMax := offset, mCurrentPosition := offset }

theorem nextTurn_stop (h : it.item = .stop) : nextTurn follow it = pure (.inr (false, it)) := by
  obtain ⟨hInside, hRead⟩ := read_eq (itemAt_eq_stop.mp h)
  simp [nextTurn, hInside, hRead]

theorem nextTurn_label (h : it.item = .label label) :
  nextTurn follow it = pure (.inr (true, it.past label)) := by
  obtain ⟨length, hLength, hZero, hPointer, hSize, hEnd, rfl⟩ := itemAt_eq_label.mp h
  obtain ⟨hInside, hRead⟩ := BytesRange.read_eq hLength
  have hNext : it.mValidData.contains (it.mCurrentPosition + 1 + length.toNat) = true := by
    rw [bytes, BytesRange.bytes, List.length_take] at hEnd
    exact decide_eq_true (by omega)
  have hBlock := BytesRange.readBlock_eq (Nat.le_of_lt hEnd)
  have hCopied : (List.take length.toNat (List.drop (it.mCurrentPosition + 1) it.bytes)).length =
      length.toNat := by
    rw [List.length_take, List.length_drop, Nat.min_eq_left (by omega)]
  simp only [nextTurn, hInside, hRead, hZero, hPointer, Nat.not_lt.mpr hSize, hNext, Bool.not_true,
    Bool.false_eq_true, if_false, Looping.pure_bind, past, hCopied]
  rw [hBlock]
  rfl

theorem nextTurn_stays (h : it.item = .pointer offset) :
  nextTurn false it = pure (.inr (false, it)) := by
  obtain ⟨length, low, hLength, hZero, hPointer, -, -⟩ := itemAt_eq_pointer.mp h
  obtain ⟨hInside, hRead⟩ := read_eq hLength
  simp [nextTurn, hInside, hRead, hZero, hPointer]

theorem nextTurn_pointer (h : it.item = .pointer offset) :
  nextTurn true it = pure (if offset ≤ it.mLookBehindMax ∧ offset < it.mCurrentPosition then
    .inl (it.jump offset) else .inr (false, it.invalid)) := by
  obtain ⟨length, low, hLength, hZero, hPointer, hLow, rfl⟩ := itemAt_eq_pointer.mp h
  obtain ⟨hInside, hRead⟩ := read_eq hLength
  obtain ⟨hLowInside, hLowRead⟩ := read_eq hLow
  simp only [nextTurn, hInside, hRead, hZero, hPointer, hLowInside, hLowRead, Bool.not_true,
    Bool.false_eq_true, if_false, if_true, pure_bind]
  have hSize : it.mCurrentPosition < it.mValidData.size := of_decide_eq_true hInside
  split
  · rw [if_neg (by omega)]
  · split
    · rw [if_neg (by omega)]
    · split
      · rw [if_neg (by omega)]
      · rw [if_pos (by omega), jump]

theorem nextTurn_malformed (follow : Bool) (hReadable : it.mValidData.Readable)
  (hInside : it.mValidData.contains it.mCurrentPosition = true) (h : it.item = .malformed) :
  (follow = false ∧ nextTurn follow it = pure (.inr (false, it))) ∨
    nextTurn follow it = pure (.inr (false, it.invalid)) := by
  obtain ⟨length, hLength⟩ : ∃ length, it.bytes[it.mCurrentPosition]? = some length :=
    ⟨_, getElem?_eq_getElem (hReadable.contains_iff.mp hInside)⟩
  obtain ⟨-, hRead⟩ := read_eq hLength
  rw [item, itemAt, hLength] at h
  simp only [nextTurn, hInside, hRead, Bool.not_true, Bool.false_eq_true, if_false,
    pure_bind]
  simp only at h
  by_cases hZero : length = 0
  · simp [hZero] at h
  · rw [if_neg hZero] at h ⊢
    by_cases hPointer : length &&& kPtrMask = kPtrMask
    · rw [if_pos hPointer] at h ⊢
      cases follow with
      | false => exact .inl ⟨rfl, rfl⟩
      | true =>
        have hEnd : it.mValidData.contains (it.mCurrentPosition + 1) = false := by
          rw [Bool.eq_false_iff]
          intro hLow
          have hLess : it.mCurrentPosition + 1 < it.bytes.length := hReadable.contains_iff.mp hLow
          rw [getElem?_eq_getElem hLess] at h
          cases h
        exact .inr (by simp [hEnd])
    · rw [if_neg hPointer] at h ⊢
      right
      by_cases hSize : kMaxValueSize < length.toNat
      · rw [if_pos hSize]
      · have hEnd : it.mValidData.contains (it.mCurrentPosition + 1 + length.toNat) = false := by
          rw [Bool.eq_false_iff]
          intro hNext
          have hLess : it.mCurrentPosition + 1 + length.toNat < it.bytes.length :=
            hReadable.contains_iff.mp hNext
          rw [if_neg (not_or.mpr ⟨hSize, Nat.not_le.mpr hLess⟩)] at h
          cases h
        simp [hSize, hEnd]

theorem loop_nextTurn {I : SerializedQNameIterator → Prop}
  {P : Bool × SerializedQNameIterator → Prop}
  (hTurn : ∀ it, I it → match it.item with
    | .stop => P (false, it)
    | .label label => P (true, it.past label)
    | .pointer offset =>
      if offset ≤ it.mLookBehindMax ∧ offset < it.mCurrentPosition then I (it.jump offset)
      else P (false, it.invalid)
    | .malformed => it.mValidData.Readable ∧
        it.mValidData.contains it.mCurrentPosition = true ∧ P (false, it.invalid))
  (hStart : I it) : (loop (nextTurn true) it).Yields P := by
  refine .loop (I := I) (measure (·.mCurrentPosition)).wf (fun it hInv => ?_) hStart
  have h := hTurn it hInv
  cases hItem : it.item with
  | stop =>
    rw [hItem] at h
    rw [nextTurn_stop hItem]
    exact .pure h
  | label label =>
    rw [hItem] at h
    rw [nextTurn_label hItem]
    exact .pure h
  | pointer offset =>
    simp only [hItem] at h
    rw [nextTurn_pointer hItem]
    by_cases hBack : offset ≤ it.mLookBehindMax ∧ offset < it.mCurrentPosition
    · rw [if_pos hBack] at h ⊢
      exact .pure ⟨h, hBack.2⟩
    · rw [if_neg hBack] at h ⊢
      exact .pure h
  | malformed =>
    simp only [hItem] at h
    obtain ⟨hReadable, hInside, hP⟩ := h
    rcases nextTurn_malformed true hReadable hInside hItem with ⟨hFollow, -⟩ | hInvalid
    · cases hFollow
    · rw [hInvalid]
      exact .pure hP

theorem next_valid (h : it.mIsValid = true) : it.next = loop (nextTurn true) it := by
  simp [next, nextItem, h]

theorem next_invalid (h : it.mIsValid = false) : it.next = pure (false, it) := by
  simp [next, h]

/-- No read can go wrong: the bytes are there, and the iterator is at one of them. The label that it
has is one that fits. -/
structure Safe (it : SerializedQNameIterator) : Prop where
  readable : it.mValidData.Readable
  inside : it.mIsValid = true → it.mValidData.contains it.mCurrentPosition = true
  bounded : it.mLookBehindMax ≤ it.mCurrentPosition
  fits : it.mValue.length ≤ kMaxValueSize

theorem safe_init {bytes : Bytes} {start : Nat} (h : start < bytes.length) :
  (init (.ofBytes bytes) start).Safe :=
  ⟨readable_ofBytes bytes, fun _ => decide_eq_true h, Nat.le_refl start, Nat.zero_le _⟩

theorem Safe.invalid (h : it.Safe) : it.invalid.Safe :=
  ⟨h.readable, fun h => (Bool.false_ne_true h).elim, h.bounded, h.fits⟩

theorem Safe.past (h : it.Safe) (hItem : it.item = .label label) : (it.past label).Safe where
  readable := h.readable
  inside _ := h.readable.contains_iff.mpr (itemAt_label_length hItem).2
  bounded := by
    have hBounded := h.bounded
    simp only [SerializedQNameIterator.past]
    omega
  fits := (itemAt_label_length hItem).1.2

theorem Safe.jump (h : it.Safe) (hValid : it.mIsValid = true) (hBack : offset < it.mCurrentPosition) :
  (it.jump offset).Safe where
  readable := h.readable
  inside _ := by
    have hInside : it.mCurrentPosition < it.mValidData.size := of_decide_eq_true (h.inside hValid)
    exact decide_eq_true (hBack.trans hInside)
  bounded := Nat.le_refl offset
  fits := h.fits

theorem Safe.next (h : it.Safe) : it.next.Yields fun r => r.2.Safe := by
  cases hValid : it.mIsValid with
  | false =>
    rw [next_invalid hValid]
    exact .pure h
  | true =>
    rw [next_valid hValid]
    refine loop_nextTurn (I := fun it => it.Safe ∧ it.mIsValid = true) (fun it hInv => ?_) ⟨h, hValid⟩
    obtain ⟨hSafe, hValid⟩ := hInv
    cases hItem : it.item with
    | stop => exact hSafe
    | label label => exact hSafe.past hItem
    | pointer offset =>
      simp only
      by_cases hBack : offset ≤ it.mLookBehindMax ∧ offset < it.mCurrentPosition
      · rw [if_pos hBack]
        exact ⟨hSafe.jump hValid hBack.2, hValid⟩
      · rw [if_neg hBack]
        exact hSafe.invalid
    | malformed => exact ⟨hSafe.readable, hSafe.inside hValid, hSafe.invalid⟩

end SerializedQNameIterator

/-- From this place a name with these labels is read to its end, within this bound on the first
pointer. Each label comes with the place after it. -/
inductive NameAt (bytes : Bytes) : Nat → Nat → List (Bytes × Nat) → Prop where
  | stop {bound p : Nat} (item : itemAt bytes p = .stop) : NameAt bytes bound p []
  | label {bound p : Nat} {label : Bytes} {rest : List (Bytes × Nat)}
      (item : itemAt bytes p = .label label)
      (next : NameAt bytes bound (p + label.length + 1) rest) :
      NameAt bytes bound p ((label, p + label.length + 1) :: rest)
  | pointer {bound p offset : Nat} {rest : List (Bytes × Nat)}
      (item : itemAt bytes p = .pointer offset) (bounded : offset ≤ bound) (back : offset < p)
      (next : NameAt bytes offset offset rest) : NameAt bytes bound p rest

namespace NameAt

variable {bytes : Bytes} {bound bound' p : Nat} {rest rest' : List (Bytes × Nat)}

section

variable (h : NameAt bytes bound p rest)
include h

theorem mono (hBound : bound ≤ bound') : NameAt bytes bound' p rest := by
  induction h generalizing bound' with
  | stop item => exact .stop item
  | label item _ ih => exact .label item (ih hBound)
  | pointer item bounded back next => exact .pointer item (bounded.trans hBound) back next

theorem append (more : Bytes) : NameAt (bytes ++ more) bound p rest := by
  induction h with
  | stop item => exact .stop ((itemAt_append (by rw [item]; nofun) more).trans item)
  | label item _ ih => exact .label ((itemAt_append (by rw [item]; nofun) more).trans item) ih
  | pointer item bounded back _ ih =>
    exact .pointer ((itemAt_append (by rw [item]; nofun) more).trans item) bounded back ih

theorem lt_length : p < bytes.length := by
  have hInside : itemAt bytes p ≠ .malformed → p < bytes.length := by
    intro hItem
    by_contra hOut
    exact hItem (by rw [itemAt, getElem?_eq_none (Nat.le_of_not_lt hOut)])
  cases h with
  | stop item => exact hInside (by rw [item]; nofun)
  | label item => exact hInside (by rw [item]; nofun)
  | pointer item => exact hInside (by rw [item]; nofun)

theorem unique (h' : NameAt bytes bound' p rest') : rest = rest' := by
  induction h generalizing bound' rest' with
  | stop item =>
    cases h' with
    | stop => rfl
    | label item' => cases item.symm.trans item'
    | pointer item' => cases item.symm.trans item'
  | label item _ ih =>
    cases h' with
    | stop item' => cases item.symm.trans item'
    | label item' next' =>
      cases item.symm.trans item'
      rw [ih next']
    | pointer item' => cases item.symm.trans item'
  | pointer item _ _ _ ih =>
    cases h' with
    | stop item' => cases item.symm.trans item'
    | label item' => cases item.symm.trans item'
    | pointer item' _ _ next' =>
      cases item.symm.trans item'
      exact ih next'

end

end NameAt

def labelsOf (rest : List (Bytes × Nat)) : FullQName := rest.map fun label => .ofBuffer label.1

namespace SerializedQNameIterator

variable {it : SerializedQNameIterator} {label : Bytes} {p : Nat} {rest : List (Bytes × Nat)}

/-- The iterator has these labels before it, and then the end of the name. -/
structure Reads (it : SerializedQNameIterator) (rest : List (Bytes × Nat)) : Prop where
  valid : it.mIsValid = true
  bounded : it.mLookBehindMax ≤ it.mCurrentPosition
  name : NameAt it.bytes it.mLookBehindMax it.mCurrentPosition rest

/-- What `Next` does where a name goes on. -/
def AfterNext (it : SerializedQNameIterator) :
  List (Bytes × Nat) → Bool × SerializedQNameIterator → Prop
  | [], (has, after) => has = false ∧ after.Reads [] ∧ after.mValidData = it.mValidData
  | (label, p) :: rest, (has, after) => has = true ∧ after.mValue = label ∧
      after.mCurrentPosition = p ∧ after.Reads rest ∧ after.mValidData = it.mValidData

theorem Reads.next (h : it.Reads rest) : it.next.Yields (it.AfterNext rest) := by
  rw [next_valid h.valid]
  refine loop_nextTurn (I := fun it' => it'.Reads rest ∧ it'.mValidData = it.mValidData)
    (fun it' hInv => ?_) ⟨h, rfl⟩
  obtain ⟨⟨hValid, hBounded, hName⟩, hSame⟩ := hInv
  cases hName with
  | stop item =>
    have hItem : it'.item = .stop := item
    rw [hItem]
    exact ⟨rfl, ⟨hValid, hBounded, .stop item⟩, hSame⟩
  | @label _ _ label rest item next =>
    have hItem : it'.item = .label label := item
    rw [hItem]
    refine ⟨rfl, rfl, rfl, ⟨hValid, ?_, next⟩, hSame⟩
    change it'.mLookBehindMax ≤ it'.mCurrentPosition + label.length + 1
    omega
  | @pointer _ _ offset _ item bounded back next =>
    have hItem : it'.item = .pointer offset := item
    simp only [hItem]
    rw [if_pos ⟨bounded, back⟩]
    exact ⟨⟨hValid, Nat.le_refl offset, next⟩, hSame⟩

theorem Safe.next_reads (h : it.Safe) : it.next.Yields fun r => r.2.Safe ∧
  (r.1 = true → ∀ rest, r.2.Reads rest → it.Reads ((r.2.mValue, r.2.mCurrentPosition) :: rest)) ∧
  (r.1 = false → r.2.mIsValid = true → it.Reads []) := by
  cases hValid : it.mIsValid with
  | false =>
    rw [next_invalid hValid]
    exact .pure ⟨h, nofun, fun _ hOther => absurd (hValid.symm.trans hOther) Bool.false_ne_true⟩
  | true =>
    rw [next_valid hValid]
    refine loop_nextTurn (I := fun it' => it'.Safe ∧ it'.mIsValid = true ∧
      ∀ rest, it'.Reads rest → it.Reads rest) (fun it' hInv => ?_) ⟨h, hValid, fun _ => id⟩
    obtain ⟨hSafe, hValid', hReads⟩ := hInv
    have hInvalid : it'.invalid.Safe ∧ (false = true → ∀ rest, it'.invalid.Reads rest →
        it.Reads ((it'.invalid.mValue, it'.invalid.mCurrentPosition) :: rest)) ∧
        (false = false → it'.invalid.mIsValid = true → it.Reads []) :=
      ⟨hSafe.invalid, nofun, fun _ hOther => (Bool.false_ne_true hOther).elim⟩
    cases hItem : it'.item with
    | stop => exact ⟨hSafe, nofun, fun _ _ => hReads [] ⟨hValid', hSafe.bounded, .stop hItem⟩⟩
    | label label =>
      refine ⟨hSafe.past hItem, fun _ rest hRest => hReads _ ?_, nofun⟩
      exact ⟨hValid', hSafe.bounded, .label hItem hRest.name⟩
    | pointer offset =>
      dsimp only
      by_cases hBack : offset ≤ it'.mLookBehindMax ∧ offset < it'.mCurrentPosition
      · rw [if_pos hBack]
        refine ⟨hSafe.jump hValid' hBack.2, hValid', fun rest hRest => hReads rest ?_⟩
        exact ⟨hValid', hSafe.bounded, .pointer hItem hBack.1 hBack.2 hRest.name⟩
      · rw [if_neg hBack]
        exact hInvalid
    | malformed => exact ⟨hSafe.readable, hSafe.inside hValid', hInvalid⟩

theorem Reads.labels (h : it.Reads rest) : it.labels.Yields (· = (labelsOf rest, true)) := by
  have hWhile : ∀ parts : FullQName, (it.whileNext (fun parts part => parts ++ [part]) parts).Yields
      fun r => r.1.mIsValid = true ∧ r.2 = parts ++ labelsOf rest := by
    induction rest generalizing it with
    | nil =>
      intro parts
      refine Looping.Yields.loop_turn (h.next.bind fun ⟨has, after⟩ hAfter => ?_)
      obtain ⟨rfl, hReads, -⟩ := hAfter
      exact .pure ⟨hReads.valid, (append_nil parts).symm⟩
    | cons first rest ih =>
      intro parts
      refine Looping.Yields.loop_turn (h.next.bind fun ⟨has, after⟩ hAfter => ?_)
      obtain ⟨rfl, hValue, -, hReads, -⟩ := hAfter
      refine .pure ((ih hReads _).mono fun r hParts => ⟨hParts.1, ?_⟩)
      rw [hParts.2, value, hValue, append_assoc]
      rfl
  refine (hWhile []).bind fun ⟨after, parts⟩ hAfter => .pure ?_
  exact Prod.ext hAfter.2 hAfter.1

theorem Safe.reads_of_labels {qname : FullQName} (h : it.Safe)
  (hLabels : it.labels.Gives (.ok (qname, true))) : ∃ rest, it.Reads rest ∧ labelsOf rest = qname := by
  have hWhile : (it.whileNext (fun parts part => parts ++ [part]) []).Secures fun r =>
      r.1.mIsValid = true → ∃ rest, it.Reads rest ∧ r.2 = labelsOf rest := by
    refine secures_loop (I := fun s => s.1.Safe ∧ ∃ first, s.2 = labelsOf first ∧
      ∀ rest, s.1.Reads rest → it.Reads (first ++ rest)) (fun ⟨it', parts⟩ hInv => ?_)
      ⟨h, [], rfl, fun _ => id⟩
    obtain ⟨hSafe, first, rfl, hReads⟩ := hInv
    refine hSafe.next_reads.bind fun ⟨has, after⟩ hAfter => .pure ?_
    obtain ⟨hSafe', hLabel, hStop⟩ := hAfter
    cases has with
    | true =>
      refine ⟨hSafe', first ++ [(after.mValue, after.mCurrentPosition)], ?_, fun rest hRest => ?_⟩
      · rw [labelsOf, labelsOf, map_append]
        rfl
      · rw [append_assoc]
        exact hReads _ (hLabel rfl rest hRest)
    | false =>
      intro hValid
      exact ⟨first, append_nil first ▸ hReads [] (hStop rfl hValid), rfl⟩
  rw [labels, gives_bind] at hLabels
  obtain ⟨⟨after, parts⟩, hGives, hResult⟩ | ⟨e, -, hError⟩ := hLabels
  · obtain ⟨_, hOk, hEnd⟩ := hWhile _ hGives
    cases hOk
    have hBoth := gives_pure.mp hResult
    simp only [Except.ok.injEq, Prod.mk.injEq] at hBoth
    obtain ⟨rest, hReads, hRest⟩ := hEnd hBoth.2.symm
    exact ⟨rest, hReads, hRest.symm.trans hBoth.1.symm⟩
  · cases hError

end SerializedQNameIterator
end Chip.Dnssd
