import Chip.Support.BytesToHex
import Chip.TLV.Containment

/-! The getters for localized strings (`TLVReader.cpp`). The text of such a string ends at the first
information separator, and an identifier of the text may follow up to the next one. -/
namespace Chip.TLV

open List Proc TLVReader BytesToHex

abbrev LocalizedStringIdentifier := UInt16

def kMaxLocalizedStringIdentifierLen : Nat := 2 * 2

/-- The index of the first of these characters among the first `len` ones. -/
def memchr (bytes : Bytes) (ch : UInt8) (len : Nat) : Option Nat := (bytes.take len).findIdx? (· == ch)

def getDataPtr (r : TLVReader) : Except ChipError (Option Bytes) :=
  if r.elementType.hasLength then
    if r.getLength = 0 then .ok none
    else if r.mElemLenOrVal % 2 ^ 32 ≤ r.mBuf.length % 2 ^ 32 then .ok (some r.mBuf)
    else .error .tlvUnderrun
  else .error .wrongTLVType

/-- `Get(CharSpan &)`, on the output `v`. -/
def getText (r : TLVReader) : Proc ChipError Bytes Unit := do
  Proc.verify (r.elementType.isUTF8String = true) .wrongTLVType
  match ← Proc.lift (getDataPtr r) with
  | none => pure ()
  | some bytes =>
    let len := (memchr bytes unicodeInformationSeparator1 r.getLength).getD r.getLength
    Proc.modify fun _ => bytes.take len

/-- What `Get(Optional<LocalizedStringIdentifier> &)` does with a text of `len` characters. -/
def setIdentifier (lsidPtr : Bytes) (len : Nat) : Proc ChipError (Option LocalizedStringIdentifier) Unit := do
  Proc.verify (len ≤ kMaxLocalizedStringIdentifierLen) .invalidTLVElement
  -- Leading zeroes are not allowed.
  Proc.verify (lsidPtr.headD 0 ≠ 48) .invalidTLVElement
  let idStr := List.replicate (kMaxLocalizedStringIdentifierLen - len) 48 ++ lsidPtr.take len
  let (decoded, id) := uppercaseHexToUint16 idStr 0
  Proc.verify (decoded = 2) .invalidTLVElement
  Proc.modify fun _ => some id

/-- `Get(Optional<LocalizedStringIdentifier> &)`, on the output `lsid`. -/
def getLocalizedStringIdentifier (r : TLVReader) : Proc ChipError (Option LocalizedStringIdentifier) Unit := do
  Proc.modify fun _ => none
  Proc.verify (r.elementType.isUTF8String = true) .wrongTLVType
  match ← Proc.lift (getDataPtr r) with
  | none => pure ()
  | some bytes =>
    match memchr bytes unicodeInformationSeparator1 r.getLength with
    | none => pure ()
    | some infoSeparator1 =>
      let lsidPtr := bytes.drop (infoSeparator1 + 1)
      let rest := r.getLength - (infoSeparator1 + 1)
      let len := (memchr lsidPtr unicodeInformationSeparator1 rest).getD rest
      if len = 0 then pure () else setIdentifier lsidPtr len

structure StringElement (r : TLVReader) (s : Bytes) : Prop where
  type : r.elementType.isUTF8String = true
  length : r.getLength = s.length
  buffered : s <+: r.mBuf
  bound : r.mBuf.length < 2 ^ 32

def localizedText (s : Bytes) : Bytes := s.takeWhile (· ≠ unicodeInformationSeparator1)

/-- The part from the first separator to the next one or the end. -/
def identifierText (s : Bytes) : Option Bytes :=
  match s.dropWhile (· ≠ unicodeInformationSeparator1) with
  | [] => none
  | _ :: rest => some (rest.takeWhile (· ≠ unicodeInformationSeparator1))

/-- One to four uppercase digits, the first of which is not a zero. -/
def IsIdentifier (t : Bytes) : Prop :=
  1 ≤ t.length ∧ t.length ≤ 4 ∧ (∀ c ∈ t, IsUppercaseHexDigit c) ∧ t.head? ≠ some 48

instance (t : Bytes) : Decidable (IsIdentifier t) := inferInstanceAs (Decidable (_ ∧ _ ∧ _ ∧ _))

variable {r : TLVReader} {s t rest : Bytes}

theorem memchr_cases (s rest : Bytes) (ch : UInt8) :
  (memchr (s ++ rest) ch s.length = none ∧ s.takeWhile (· ≠ ch) = s ∧ s.dropWhile (· ≠ ch) = []) ∨
  ∃ pre post, s = pre ++ ch :: post ∧ memchr (s ++ rest) ch s.length = some pre.length ∧
    s.takeWhile (· ≠ ch) = pre ∧ s.dropWhile (· ≠ ch) = ch :: post := by
  rw [memchr, take_left' rfl]
  induction s with
  | nil => exact .inl ⟨rfl, rfl, rfl⟩
  | cons c s ih =>
    by_cases hFound : c = ch
    · subst hFound
      exact .inr ⟨[], s, rfl, by simp [findIdx?_cons], by simp, by simp⟩
    · rw [findIdx?_cons, if_neg (by simpa using hFound), takeWhile_cons_of_pos (by simpa using hFound),
        dropWhile_cons_of_pos (by simpa using hFound)]
      rcases ih with ⟨hNone, hAll, hNothing⟩ | ⟨pre, post, rfl, hSome, hPre, hPost⟩
      · exact .inl ⟨by rw [hNone]; rfl, by rw [hAll], hNothing⟩
      · exact .inr ⟨c :: pre, post, rfl, by rw [hSome]; rfl, by rw [hPre], hPost⟩

theorem memchr_take (s rest : Bytes) (ch : UInt8) :
  (s ++ rest).take ((memchr (s ++ rest) ch s.length).getD s.length) = s.takeWhile (· ≠ ch) := by
  rcases memchr_cases s rest ch with ⟨hNone, hAll, -⟩ | ⟨pre, post, hSplit, hSome, hPre, -⟩
  · rw [hNone, hAll]
    exact take_left' rfl
  · rw [hSome, hPre, hSplit, append_assoc]
    exact take_left' rfl

theorem memchr_length (s rest : Bytes) (ch : UInt8) :
  (memchr (s ++ rest) ch s.length).getD s.length = (s.takeWhile (· ≠ ch)).length := by
  rcases memchr_cases s rest ch with ⟨hNone, hAll, -⟩ | ⟨pre, post, -, hSome, hPre, -⟩
  · rw [hNone, hAll]
    rfl
  · rw [hSome, hPre]
    rfl

theorem isUTF8String_hasLength {elemType : TLVElementType} (h : elemType.isUTF8String = true) :
  elemType.hasLength = true := by
  cases elemType <;> first | rfl | cases h

theorem StringElement.getDataPtr (h : StringElement r s) :
  getDataPtr r = .ok (if s = [] then none else some r.mBuf) := by
  have hLength := h.length
  have hBound := h.bound
  have hPrefix := h.buffered.length_le
  rw [getLength, if_pos (isUTF8String_hasLength h.type)] at hLength
  rw [TLV.getDataPtr, if_pos (isUTF8String_hasLength h.type), h.length, hLength, Nat.mod_eq_of_lt hBound,
    if_pos hPrefix]
  by_cases hEmpty : s = []
  · rw [if_pos hEmpty, if_pos (length_eq_zero_iff.mpr hEmpty)]
  · rw [if_neg hEmpty, if_neg (mt length_eq_zero_iff.mp hEmpty)]

theorem StringElement.getText (h : StringElement r s) (v : Bytes) :
  getText r v = (.ok (), if s = [] then v else localizedText s) := by
  obtain ⟨rest, hBuffer⟩ := h.buffered
  rw [TLV.getText, verify_bind, if_pos h.type, bind_ok (by rw [lift_apply, h.getDataPtr])]
  by_cases hEmpty : s = []
  · rw [if_pos hEmpty, if_pos hEmpty]
    rfl
  · rw [if_neg hEmpty, if_neg hEmpty, ← hBuffer, h.length]
    dsimp only
    rw [memchr_take]
    rfl

theorem setIdentifier_eq (rest : Bytes) (hNonempty : t ≠ []) (lsid : Option LocalizedStringIdentifier) :
  setIdentifier (t ++ rest) t.length lsid =
    if IsIdentifier t then (.ok (), some (UInt16.ofNat (hexValue t))) else (.error .invalidTLVElement, lsid) := by
  have hPos := length_pos_iff.mpr hNonempty
  have hHead : (t ++ rest).headD 0 ≠ 48 ↔ t.head? ≠ some 48 := by
    obtain ⟨c, t, rfl⟩ := exists_cons_of_ne_nil hNonempty
    simp
  rw [setIdentifier, verify_bind, verify_bind]
  by_cases hShort : t.length ≤ kMaxLocalizedStringIdentifierLen
  swap
  · rw [if_neg hShort, if_neg fun h => hShort h.2.1]
  by_cases hZero : (t ++ rest).headD 0 ≠ 48
  swap
  · rw [if_pos hShort, if_neg hZero, if_neg fun h => hZero (hHead.mpr h.2.2.2)]
  have hLength : (replicate (kMaxLocalizedStringIdentifierLen - t.length) 48 ++ t).length = 4 := by
    rw [length_append, length_replicate]
    exact Nat.sub_add_cancel hShort
  have hDigits : (∀ c ∈ replicate (kMaxLocalizedStringIdentifierLen - t.length) 48 ++ t,
      IsUppercaseHexDigit c) ↔ ∀ c ∈ t, IsUppercaseHexDigit c := by
    refine ⟨fun h c hMem => h c (mem_append_right _ hMem), fun h c hMem => ?_⟩
    rcases mem_append.mp hMem with hPadding | hText
    · rw [eq_of_mem_replicate hPadding]
      decide
    · exact h c hText
  rw [if_pos hShort, if_pos hZero, take_left' rfl, uppercaseHexToUint16_eq hLength, hexValue_replicate]
  by_cases hAll : ∀ c ∈ t, IsUppercaseHexDigit c
  · rw [if_pos (hDigits.mpr hAll), if_pos ⟨hPos, hShort, hAll, hHead.mp hZero⟩]
    rfl
  · rw [if_neg (mt hDigits.mp hAll), if_neg fun h => hAll h.2.2.1]
    rfl

theorem StringElement.getLocalizedStringIdentifier (h : StringElement r s)
  (lsid : Option LocalizedStringIdentifier) :
  getLocalizedStringIdentifier r lsid = match identifierText s with
    | none => (.ok (), none)
    | some t => if t = [] then (.ok (), none)
        else if IsIdentifier t then (.ok (), some (UInt16.ofNat (hexValue t)))
        else (.error .invalidTLVElement, none) := by
  obtain ⟨rest, hBuffer⟩ := h.buffered
  rw [TLV.getLocalizedStringIdentifier, modify_bind, verify_bind, if_pos h.type,
    bind_ok (by rw [lift_apply, h.getDataPtr]), h.length]
  by_cases hEmpty : s = []
  · subst hEmpty
    rfl
  rw [if_neg hEmpty, ← hBuffer]
  dsimp only
  rcases memchr_cases s rest unicodeInformationSeparator1 with
    ⟨hNone, -, hNothing⟩ | ⟨pre, post, hSplit, hSome, -, hPost⟩
  · rw [hNone, identifierText, hNothing]
    rfl
  have hAfter : (s ++ rest).drop (pre.length + 1) = post ++ rest := by
    rw [hSplit, append_assoc, cons_append, ← drop_drop, drop_left' rfl]
    rfl
  have hLeft : s.length - (pre.length + 1) = post.length := by
    rw [hSplit, length_append, length_cons]
    omega
  rw [hSome, identifierText, hPost]
  dsimp only
  rw [hAfter, hLeft, memchr_length]
  obtain ⟨tail, hTail⟩ := takeWhile_prefix (· ≠ unicodeInformationSeparator1) (l := post)
  generalize post.takeWhile (· ≠ unicodeInformationSeparator1) = t at *
  by_cases hText : t = []
  · rw [if_pos hText, if_pos (length_eq_zero_iff.mpr hText)]
    rfl
  · rw [if_neg hText, if_neg (mt length_eq_zero_iff.mp hText), ← hTail, append_assoc,
      setIdentifier_eq _ hText]

theorem IsIdentifier.hexValue_lt (h : IsIdentifier t) : hexValue t < 2 ^ 16 := by
  calc hexValue t < 16 ^ t.length := BytesToHex.hexValue_lt h.2.2.1
    _ ≤ 16 ^ 4 := Nat.pow_le_pow_right (by decide) h.2.1
    _ = 2 ^ 16 := by decide

/-- What the getters promise of a string, when their outputs hold these values before. -/
structure GettersCorrect (r : TLVReader) (s v : Bytes) (lsid : Option LocalizedStringIdentifier) : Prop where
  text : ∀ v', getText r v = (.ok (), v') → v' = localizedText s
  identifier : ∀ id, getLocalizedStringIdentifier r lsid = (.ok (), some id) ↔
    ∃ t, identifierText s = some t ∧ IsIdentifier t ∧ id.toNat = hexValue t
  noIdentifier : getLocalizedStringIdentifier r lsid = (.ok (), none) ↔
    identifierText s = none ∨ identifierText s = some []
  error : (∃ e, (getLocalizedStringIdentifier r lsid).1 = .error e) ↔
    ∃ t, identifierText s = some t ∧ t ≠ [] ∧ ¬IsIdentifier t

theorem StringElement.gettersCorrect (h : StringElement r s) {v : Bytes}
  (lsid : Option LocalizedStringIdentifier)
  (hText : ∀ v', TLV.getText r v = (.ok (), v') → v' = localizedText s) : GettersCorrect r s v lsid := by
  have hGet := h.getLocalizedStringIdentifier lsid
  have hNot : ¬IsIdentifier [] := fun hEmpty => absurd hEmpty.1 (by decide)
  cases hIdentifier : identifierText s with
  | none =>
    rw [hIdentifier] at hGet
    exact { text := hText, identifier := by simp [hIdentifier, hGet], noIdentifier := by simp [hIdentifier, hGet],
            error := by simp [hIdentifier, hGet] }
  | some t =>
    simp only [hIdentifier] at hGet
    by_cases hEmpty : t = []
    · subst hEmpty
      rw [if_pos rfl] at hGet
      exact { text := hText, identifier := by simp [hIdentifier, hGet, hNot], noIdentifier := by simp [hIdentifier, hGet],
              error := by simp [hIdentifier, hGet] }
    rw [if_neg hEmpty] at hGet
    by_cases hForm : IsIdentifier t
    · rw [if_pos hForm] at hGet
      refine { text := hText, identifier := fun id => ?_, noIdentifier := by simp [hIdentifier, hGet, hEmpty],
               error := by simp [hIdentifier, hGet, hForm] }
      have hValue : (UInt16.ofNat (hexValue t)).toNat = hexValue t := by
        rw [UInt16.toNat_ofNat', Nat.mod_eq_of_lt hForm.hexValue_lt]
      have hSame : UInt16.ofNat (hexValue t) = id ↔ id.toNat = hexValue t := by
        rw [← UInt16.toNat_inj, hValue, eq_comm]
      rw [hGet, hIdentifier]
      simp only [Prod.mk.injEq, true_and, Option.some.injEq, hSame, exists_eq_left', hForm]
    · rw [if_neg hForm] at hGet
      exact { text := hText, identifier := by simp [hIdentifier, hGet, hForm], noIdentifier := by simp [hIdentifier, hGet, hEmpty],
              error := by simp [hIdentifier, hGet, hEmpty, hForm] }

/-- The getters are correct exactly when the string is not empty or the text was empty before. -/
theorem localized_string_iff {v : Bytes} (h : StringElement r s) :
    (∀ lsid, GettersCorrect r s v lsid) ↔ s ≠ [] ∨ v = [] := by
  constructor
  · intro hCorrect
    by_cases hEmpty : s = []
    · have hText := (hCorrect none).text v (by rw [h.getText, if_pos hEmpty])
      rw [hEmpty] at hText
      exact .inr hText
    · exact .inl hEmpty
  · rintro hCase lsid
    refine h.gettersCorrect lsid fun v' hGet => ?_
    rw [h.getText, Prod.mk.injEq] at hGet
    rw [← hGet.2]
    split
    case isTrue hEmpty => rw [hCase.resolve_left (fun h => h hEmpty), hEmpty]; rfl
    case isFalse => rfl

/-- A reader on `"Hi"` with the identifier 1A, which `Next` reads from its encoding. -/
def localizedReader : TLVReader := (next (init [0x0C, 5, 0x48, 0x69, 0x1F, 0x31, 0x41] 7)).2

theorem localized_string_sample :
    GettersCorrect localizedReader [0x48, 0x69, 0x1F, 0x31, 0x41] [0x58] none :=
  (localized_string_iff ⟨by decide +kernel, by decide +kernel, by decide +kernel, by decide +kernel⟩).mpr
    (.inl (by decide)) none

def emptyStringReader : TLVReader := (next (init [0x0C, 0] 2)).2

/-- The getter succeeds on the empty string and leaves the text of the string before it. -/
theorem empty_string_keeps_the_text :
    StringElement emptyStringReader [] ∧ getText emptyStringReader [0x58] = (.ok (), [0x58]) ∧
      ¬∀ r s v lsid, StringElement r s → GettersCorrect r s v lsid := by
  have hElement : StringElement emptyStringReader [] :=
    ⟨by decide +kernel, by decide +kernel, by decide +kernel, by decide +kernel⟩
  have hGet : getText emptyStringReader [0x58] = (.ok (), [0x58]) := by decide +kernel
  refine ⟨hElement, hGet, fun hAll => ?_⟩
  exact absurd ((hAll _ _ _ none hElement).text _ hGet) (by decide)

end Chip.TLV
