import Chip.Data.TypedRecords
import Chip.Support.ThreadOperationalDataset

/-! The elements of a dataset as records: what the functions on pointers do to them. -/
namespace Chip.Thread

open ThreadTLV

@[simp] theorem Checked.ok_bind {α β : Type} (a : α) (f : α → Checked β) : (Except.ok a : Checked α) >>= f = f a :=
  rfl

@[simp] theorem Checked.pure_eq {α : Type} (a : α) : (pure a : Checked α) = .ok a := rfl

@[simp] theorem Checked.map_ok {α β : Type} (f : α → β) (a : α) : f <$> (Except.ok a : Checked α) = .ok (f a) := rfl

theorem asserts_of {p : Prop} [Decidable p] (h : p) : asserts p = .ok () := if_pos h

theorem within_of {p : Prop} [Decidable p] (h : p) : within p = .ok () := if_pos h

section Reading

variable {data before after : List UInt8} {byte : UInt8} {r : TypedRecord} {tlv : Nat}

theorem getElem?_of_prefix (h : before ++ byte :: after <+: data) : data[before.length]? = some byte := by
  obtain ⟨rest, rfl⟩ := h
  rw [List.append_assoc, List.getElem?_append_right (Nat.le_refl _), Nat.sub_self]
  rfl

theorem readByte_of_prefix (h : before ++ byte :: after <+: data) : readByte data before.length = .ok byte := by
  rw [readByte, getElem?_of_prefix h]

structure Stands (data : List UInt8) (tlv : Nat) (r : TypedRecord) : Prop where
  short : r.value.length < 255
  placed : ∃ before, before ++ r.bytes <+: data ∧ tlv = before.length

namespace Stands

variable (h : Stands data tlv r)
include h

theorem getType_eq : getType data tlv = .ok r.type := by
  obtain ⟨_, before, hPrefix, rfl⟩ := h
  exact readByte_of_prefix hPrefix

theorem readLength_eq : readByte data (tlv + 1) = .ok (UInt8.ofNat r.value.length) := by
  obtain ⟨_, before, hPrefix, rfl⟩ := h
  have hNext : (before ++ [r.type]) ++ UInt8.ofNat r.value.length :: r.value <+: data := by
    rwa [List.append_assoc]
  have hRead := readByte_of_prefix hNext
  rwa [List.length_append] at hRead

theorem length_ne : (UInt8.ofNat r.value.length).toNat ≠ kLengthEscape := by
  rw [TypedRecord.toNat_length h.short]
  exact Nat.ne_of_lt h.short

theorem getLength_eq : getLength data tlv = .ok r.value.length := by
  rw [getLength, h.readLength_eq, Checked.ok_bind, asserts_of h.length_ne, Checked.ok_bind,
    TypedRecord.toNat_length h.short, Checked.pure_eq]

theorem getValue_eq : getValue data tlv = .ok (tlv + 2) := by
  rw [getValue, h.readLength_eq, Checked.ok_bind, asserts_of h.length_ne]
  rfl

theorem getNext_eq : getNext data tlv = .ok (tlv + (2 + r.value.length)) := by
  rw [getNext, h.getValue_eq, Checked.ok_bind, h.getLength_eq, Checked.ok_bind, Nat.add_assoc,
    Checked.pure_eq]

theorem getSize_eq (hData : data.length ≤ 254) : getSize data tlv = .ok (2 + r.value.length) := by
  have hLength := h.getLength_eq
  obtain ⟨_, before, hPrefix, rfl⟩ := h
  have hFits := hPrefix.length_le
  rw [List.length_append, TypedRecord.length_bytes] at hFits
  have hMod : (2 + r.value.length) % 2 ^ 8 = 2 + r.value.length := Nat.mod_eq_of_lt (by omega)
  rw [getSize, hLength, Checked.ok_bind, headerSize, hMod, Checked.pure_eq]

theorem readValue_eq {index count : Nat} (hRange : index + count ≤ r.value.length) :
  readValue data tlv index count = .ok ((r.value.drop index).take count) := by
  have hValue := h.getValue_eq
  have hLength := h.readLength_eq
  have hShort := h.short
  obtain ⟨_, before, ⟨rest, rfl⟩, rfl⟩ := h
  have hFits : before.length + 2 + index + count ≤ (before ++ r.bytes ++ rest).length := by
    rw [List.length_append, List.length_append, TypedRecord.length_bytes]
    omega
  have hDrop : (before ++ r.bytes ++ rest).drop (before.length + 2 + index) = (r.value ++ rest).drop index := by
    rw [List.append_assoc, Nat.add_assoc, ← List.drop_drop, List.drop_left, ← List.drop_drop]
    rfl
  have hTake : (r.value.drop index ++ rest).take count = (r.value.drop index).take count :=
    List.take_append_of_le_length (by rw [List.length_drop]; omega)
  rw [readValue, hValue, Checked.ok_bind, hLength, Checked.ok_bind, TypedRecord.toNat_length hShort,
    within_of ⟨hRange, hFits⟩, Checked.ok_bind, hDrop,
    List.drop_append_of_le_length (by omega), hTake, Checked.pure_eq]

end Stands

end Reading

namespace OperationalDataset

open TypedRecord ThreadTLV

structure Holds (s : OperationalDataset) (records : List TypedRecord) : Prop where
  short : Short records
  contents : encode records <+: s.mData
  length : s.mLength = (encode records).length

section Locating

variable {s : OperationalDataset} {records pre post : List TypedRecord} {r : TypedRecord} {aType : UInt8}

theorem Holds.fits (h : s.Holds records) : (encode records).length ≤ 254 := by
  have hLength := h.contents.length_le
  rwa [s.hSize] at hLength

theorem Holds.stands (h : s.Holds (pre ++ r :: post)) : Stands s.mData (encode pre).length r where
  short := (short_cons.1 (short_append.1 h.short).2).1
  placed := by
    refine ⟨encode pre, List.IsPrefix.trans ⟨encode post, ?_⟩ h.contents, rfl⟩
    rw [encode_append, encode_cons, List.append_assoc]

theorem locateLoop_skip (finish : Nat) {data before : List UInt8} (hShort : Short pre)
  (hData : before ++ encode pre <+: data) (hFinish : before.length + (encode pre).length ≤ finish)
  (hOther : ∀ r ∈ pre, r.type ≠ aType) : locateLoop data aType finish before.length =
    locateLoop data aType finish (before.length + (encode pre).length) := by
  induction pre generalizing before with
  | nil => rfl
  | cons r pre ih =>
    rw [encode_cons] at hData hFinish ⊢
    have hStands : Stands data before.length r :=
      ⟨(short_cons.1 hShort).1, before,
        List.IsPrefix.trans ⟨encode pre, List.append_assoc _ _ _⟩ hData, rfl⟩
    have hAfter := @ih (before ++ r.bytes) (short_cons.1 hShort).2 (by rwa [List.append_assoc])
      (by simpa only [List.length_append, Nat.add_assoc] using hFinish)
      fun other hMem => hOther other (List.mem_cons_of_mem r hMem)
    have hLt : before.length < finish := by
      rw [List.length_append, length_bytes] at hFinish
      omega
    rw [locateLoop, if_pos hLt, hStands.getType_eq, Checked.ok_bind,
      if_neg (hOther r List.mem_cons_self), hStands.getLength_eq, Checked.ok_bind]
    rw [List.length_append, length_bytes] at hAfter
    rw [headerSize, Nat.add_assoc, hAfter, List.length_append, length_bytes, Nat.add_assoc]

theorem Holds.locate_found (h : s.Holds (pre ++ r :: post)) (hOther : ∀ other ∈ pre, other.type ≠ aType)
  (hType : r.type = aType) : s.locate aType = .ok (some (encode pre).length) := by
  have hFits := h.fits
  have hLength := h.length
  simp only [encode_append, encode_cons, List.length_append, length_bytes] at hFits hLength
  have hPrefix : [] ++ encode pre <+: s.mData :=
    List.IsPrefix.trans ⟨encode (r :: post), encode_append.symm⟩ h.contents
  have hSkip := locateLoop_skip s.mLength (short_append.1 h.short).1 hPrefix (by
    rw [List.length_nil]
    omega) hOther
  have hLoop : locateLoop s.mData aType s.mLength 0 = .ok (encode pre).length := by
    rw [← List.length_nil, hSkip, List.length_nil, Nat.zero_add, locateLoop, if_pos (by omega),
      h.stands.getType_eq, Checked.ok_bind, if_pos hType, Checked.pure_eq]
  have hIn : (encode pre).length < kSizeOperationalDataset := by
    show _ < 254
    omega
  rw [locate, hLoop, Checked.ok_bind, asserts_of hIn, Checked.ok_bind, if_pos (by omega), Checked.pure_eq]

theorem Holds.locate_missing (h : s.Holds records) (hOther : ∀ r ∈ records, r.type ≠ aType)
  (hRoom : s.mLength < 254) : s.locate aType = .ok none := by
  have hPrefix : [] ++ encode records <+: s.mData := h.contents
  have hSkip := locateLoop_skip s.mLength h.short hPrefix (by
    rw [List.length_nil, h.length]
    omega) hOther
  have hLoop : locateLoop s.mData aType s.mLength 0 = .ok s.mLength := by
    rw [← List.length_nil, hSkip, List.length_nil, Nat.zero_add, ← h.length, locateLoop,
      if_neg (Nat.lt_irrefl _), Checked.pure_eq]
  have hIn : s.mLength < kSizeOperationalDataset := hRoom
  rw [locate, hLoop, Checked.ok_bind, asserts_of hIn, Checked.ok_bind, if_neg (fun h => h rfl), Checked.pure_eq]

end Locating

section Storing

variable {s : OperationalDataset} {records pre post : List TypedRecord} {r : TypedRecord} {aType : UInt8}
  {bytes : List UInt8}

theorem store_eq (new : List UInt8) (hPrefix : bytes <+: s.mData) (hRoom : bytes.length + new.length ≤ 254) :
  ∃ s', s.store bytes.length new = .ok s' ∧ bytes ++ new <+: s'.mData ∧ s'.mLength = s.mLength ∧
    ∀ index, bytes.length + new.length ≤ index → s'.mData[index]? = s.mData[index]? := by
  have hFits : bytes.length + new.length ≤ s.mData.length := by
    rw [s.hSize]
    exact hRoom
  refine ⟨_, dif_pos hFits, ?_, rfl, fun index hIndex => ?_⟩
  · have hTake : (overwrite s.mData bytes.length new).take (bytes.length + new.length) =
        s.mData.take bytes.length ++ new := take_overwrite hPrefix.length_le
    rw [← List.prefix_iff_eq_take.1 hPrefix] at hTake
    show bytes ++ new <+: overwrite s.mData bytes.length new
    rw [← hTake]
    exact List.take_prefix _ _
  · have hDrop : (overwrite s.mData bytes.length new).drop index = s.mData.drop index :=
      drop_overwrite hPrefix.length_le hIndex
    show (overwrite s.mData bytes.length new)[index]? = s.mData[index]?
    rw [← List.head?_drop, ← List.head?_drop, hDrop]

theorem removeAt_eq (h : s.Holds (pre ++ r :: post)) :
  ∃ s', s.removeAt (encode pre).length = .ok s' ∧ s'.Holds (pre ++ post) ∧
    ∀ index, s'.mLength ≤ index → s'.mData[index]? = s.mData[index]? := by
  have hFits := h.fits
  have hLength := h.length
  have hStands := h.stands
  have hSize := s.hSize
  have hShort := short_append.1 h.short
  obtain ⟨rest, hData⟩ := h.contents
  simp only [encode_append, encode_cons, List.length_append, length_bytes, List.append_assoc] at hFits hLength hData
  have hOffset : (encode pre).length % 2 ^ 8 = (encode pre).length := Nat.mod_eq_of_lt (by omega)
  have hCount : s.mLength - (2 + r.value.length) - (encode pre).length = (encode post).length := by omega
  have hMoved : (s.mData.drop ((encode pre).length + (2 + r.value.length))).take (encode post).length =
      encode post := by
    rw [← hData, ← List.drop_drop, List.drop_left, ← length_bytes, List.drop_left, List.take_left]
  have hPrefix : encode pre <+: s.mData := ⟨_, hData⟩
  obtain ⟨s', hStore, hContents, _, hBehind⟩ := store_eq (encode post) hPrefix (by omega)
  refine ⟨{ s' with mLength := s.mLength - (2 + r.value.length) }, ?_, ⟨?_, ?_, ?_⟩, ?_⟩
  · have hIn : (encode pre).length + (2 + r.value.length) + (encode post).length ≤ s.mData.length := by
      rw [hSize]
      show _ ≤ 254
      omega
    unfold removeAt
    dsimp only
    rw [hOffset, if_pos (by omega), hStands.getSize_eq (by rw [hSize]; rfl), Checked.ok_bind, if_pos (by omega),
      hStands.getNext_eq, Checked.ok_bind, hCount, within_of hIn, Checked.ok_bind, hMoved, hStore,
      Checked.ok_bind, Checked.pure_eq]
  · exact short_append.2 ⟨hShort.1, (short_cons.1 hShort.2).2⟩
  · rw [encode_append]
    exact hContents
  · rw [encode_append, List.length_append]
    show s.mLength - (2 + r.value.length) = _
    omega
  · intro index hIndex
    refine hBehind index ?_
    have hIndex : s.mLength - (2 + r.value.length) ≤ index := hIndex
    omega

/-- A type can be looked for: the dataset is not full, or has an element of this type. -/
def Locatable (s : OperationalDataset) (records : List TypedRecord) (aType : UInt8) : Prop :=
  s.mLength < 254 ∨ ∃ r ∈ records, r.type = aType

theorem locate_cases (h : s.Holds records) (hLocatable : s.Locatable records aType) :
  ((∀ r ∈ records, r.type ≠ aType) ∧ s.locate aType = .ok none) ∨
  ∃ pre r post, records = pre ++ r :: post ∧ r.type = aType ∧ (∀ other ∈ pre, other.type ≠ aType) ∧
    s.locate aType = .ok (some (encode pre).length) := by
  cases hFind : records.find? (·.type = aType) with
  | none =>
    have hOther : ∀ r ∈ records, r.type ≠ aType := fun r hMem hType =>
      List.find?_eq_none.1 hFind r hMem (decide_eq_true hType)
    refine Or.inl ⟨hOther, h.locate_missing hOther (hLocatable.resolve_right ?_)⟩
    rintro ⟨r, hMem, hType⟩
    exact hOther r hMem hType
  | some r =>
    obtain ⟨hType, pre, post, rfl, hOther⟩ := List.find?_eq_some_iff_append.1 hFind
    have hOther : ∀ other ∈ pre, other.type ≠ aType := fun other hMem => by
      simpa using hOther other hMem
    have hType : r.type = aType := by simpa using hType
    exact Or.inr ⟨pre, r, post, rfl, hType, hOther, h.locate_found hOther hType⟩

theorem eraseP_found (hOther : ∀ other ∈ pre, other.type ≠ aType) (hType : r.type = aType) :
  (pre ++ r :: post).eraseP (·.type = aType) = pre ++ post := by
  rw [List.eraseP_append_right _ fun other hMem => by simpa using hOther other hMem,
    List.eraseP_cons_of_pos (by simpa using hType)]

theorem eraseP_missing (hOther : ∀ r ∈ records, r.type ≠ aType) : records.eraseP (·.type = aType) = records :=
  List.eraseP_of_forall_not fun r hMem => by simpa using hOther r hMem

theorem remove_eq (h : s.Holds records) (hLocatable : s.Locatable records aType) :
  ∃ s', s.remove aType = .ok s' ∧ s'.Holds (records.eraseP (·.type = aType)) := by
  rcases locate_cases h hLocatable with ⟨hOther, hLocate⟩ | ⟨pre, r, post, rfl, hType, hOther, hLocate⟩
  · refine ⟨s, ?_, ?_⟩
    · rw [remove, hLocate, Checked.ok_bind]
      rfl
    · rwa [eraseP_missing hOther]
  · obtain ⟨s', hRemove, hHolds, _⟩ := removeAt_eq h
    refine ⟨s', ?_, ?_⟩
    · rw [remove, hLocate, Checked.ok_bind]
      exact hRemove
    · rwa [eraseP_found hOther hType]

/-- There is room for an element of this size in the place of the first one of its type. -/
def HasRoom (records : List TypedRecord) (aType : UInt8) (aSize : Nat) : Prop :=
  (encode (records.eraseP (·.type = aType))).length + aSize ≤ 254

theorem openEnd_eq (aType : UInt8) (h : s.Holds records) (hRoom : (encode records).length + 1 ≤ 254) :
  ∃ s', s.openEnd aType = .ok (some (encode records).length, s') ∧ encode records ++ [aType] <+: s'.mData ∧
    s'.mLength = s.mLength ∧ ∀ index, (encode records).length + 1 ≤ index → s'.mData[index]? = s.mData[index]? := by
  obtain ⟨s', hStore, hPrefix, hLength, hBehind⟩ := store_eq [aType] h.contents hRoom
  refine ⟨s', ?_, hPrefix, hLength, hBehind⟩
  rw [openEnd, h.length, hStore, Checked.ok_bind, hLength, h.length, Checked.pure_eq]

theorem makeRoom_full {aSize : Nat} (h : s.Holds records) (hLocatable : s.Locatable records aType)
  (hFull : ¬HasRoom records aType aSize) : s.makeRoom aType aSize = .ok (none, s) := by
  have hLength := h.length
  have hFits := h.fits
  unfold HasRoom at hFull
  rcases locate_cases h hLocatable with ⟨hOther, hLocate⟩ | ⟨pre, r, post, rfl, hType, hOther, hLocate⟩
  · rw [eraseP_missing hOther] at hFull
    have hLess : kSizeOperationalDataset - s.mLength < aSize := by
      show 254 - s.mLength < aSize
      omega
    rw [makeRoom, hLocate, Checked.ok_bind]
    dsimp only
    rw [if_pos hLess, Checked.pure_eq]
  · rw [eraseP_found hOther hType] at hFull
    simp only [encode_append, encode_cons, List.length_append, length_bytes] at hFull hLength hFits
    have hLess : kSizeOperationalDataset - s.mLength + (2 + r.value.length) < aSize := by
      show 254 - s.mLength + _ < aSize
      omega
    rw [makeRoom, hLocate, Checked.ok_bind]
    dsimp only
    rw [h.stands.getSize_eq (by rw [s.hSize]; rfl), Checked.ok_bind, if_pos hLess, Checked.pure_eq]

theorem makeRoom_eq {aSize : Nat} (h : s.Holds records) (hLocatable : s.Locatable records aType)
  (hRoom : HasRoom records aType aSize) (hSize : 1 ≤ aSize) :
  ∃ s', s.makeRoom aType aSize = .ok (some (encode (records.eraseP (·.type = aType))).length, s') ∧
    encode (records.eraseP (·.type = aType)) ++ [aType] <+: s'.mData ∧
    s'.mLength = (encode (records.eraseP (·.type = aType))).length ∧
    ∀ index, s'.mLength + 1 ≤ index → s'.mData[index]? = s.mData[index]? := by
  have hLength := h.length
  have hFits := h.fits
  unfold HasRoom at hRoom
  rcases locate_cases h hLocatable with ⟨hOther, hLocate⟩ | ⟨pre, r, post, rfl, hType, hOther, hLocate⟩
  · rw [eraseP_missing hOther] at hRoom ⊢
    obtain ⟨s', hOpen, hPrefix, hLength', hBehind⟩ := openEnd_eq aType h (by omega)
    refine ⟨s', ?_, hPrefix, hLength'.trans hLength, fun index hIndex => hBehind index (by omega)⟩
    have hEnough : ¬kSizeOperationalDataset - s.mLength < aSize := by
      show ¬254 - s.mLength < aSize
      omega
    rw [makeRoom, hLocate, Checked.ok_bind]
    dsimp only
    rw [if_neg hEnough, hOpen]
  · rw [eraseP_found hOther hType] at hRoom ⊢
    obtain ⟨middle, hRemove, hHolds, hBehind⟩ := removeAt_eq h
    obtain ⟨s', hOpen, hPrefix, hLength', hBehind'⟩ := openEnd_eq aType hHolds (by omega)
    have hMiddle := hHolds.length
    refine ⟨s', ?_, hPrefix, hLength'.trans hMiddle, fun index hIndex => ?_⟩
    · simp only [encode_append, encode_cons, List.length_append, length_bytes] at hRoom hLength hFits
      have hEnough : ¬kSizeOperationalDataset - s.mLength + (2 + r.value.length) < aSize := by
        show ¬254 - s.mLength + _ < aSize
        omega
      rw [makeRoom, hLocate, Checked.ok_bind]
      dsimp only
      rw [h.stands.getSize_eq (by rw [s.hSize]; rfl), Checked.ok_bind, if_neg hEnough, hRemove, Checked.ok_bind, hOpen]
    · rw [hBehind' index (by omega), hBehind index (by omega)]

end Storing

section Setting

variable {s : OperationalDataset} {bytes value : List UInt8} {aType : UInt8}

/-- The byte behind the end that the assertion of `SetLength` is about. -/
def Writable (s : OperationalDataset) (tlv : Nat) : Prop := s.mData[tlv + 1]? ≠ some 0xff

theorem Writable.readByte_eq {tlv : Nat} (h : s.Writable tlv) (hRoom : tlv + 2 ≤ 254) :
  ∃ byte, readByte s.mData (tlv + 1) = .ok byte ∧ byte.toNat ≠ kLengthEscape := by
  have hIn : tlv + 1 < s.mData.length := by
    rw [s.hSize]
    exact hRoom
  refine ⟨s.mData[tlv + 1], ?_, fun hSame => h ?_⟩
  · rw [readByte, List.getElem?_eq_getElem hIn]
  · rw [List.getElem?_eq_getElem hIn, Option.some.injEq, ← UInt8.toNat_inj]
    exact hSame

theorem setLength_eq (hPrefix : bytes ++ [aType] <+: s.mData) (hWritable : s.Writable bytes.length) (length : Nat)
  (hRoom : bytes.length + 2 ≤ 254) : ∃ s', s.setLength bytes.length length = .ok s' ∧
    bytes ++ [aType, UInt8.ofNat length] <+: s'.mData ∧ s'.mLength = s.mLength := by
  obtain ⟨byte, hRead, hByte⟩ := hWritable.readByte_eq (by omega)
  obtain ⟨s', hStore, hNew, hLength, _⟩ := store_eq [UInt8.ofNat length] hPrefix (by
    rw [List.length_append]
    exact hRoom)
  rw [List.length_append] at hStore
  refine ⟨s', ?_, by rwa [List.append_assoc] at hNew, hLength⟩
  rw [setLength, hRead, Checked.ok_bind, asserts_of hByte, Checked.ok_bind]
  exact hStore

/-- What writes the value of an element whose type is there already. -/
def Writes (write : OperationalDataset → Nat → Checked OperationalDataset) (value : List UInt8) : Prop :=
  ∀ (s : OperationalDataset) (bytes : List UInt8) (aType : UInt8), bytes ++ [aType] <+: s.mData →
    s.Writable bytes.length → bytes.length + (2 + value.length) ≤ 254 →
    ∃ s', write s bytes.length = .ok s' ∧ bytes ++ (⟨aType, value⟩ : TypedRecord).bytes <+: s'.mData ∧
      s'.mLength = s.mLength

theorem store_value (hPrefix : bytes ++ [aType, UInt8.ofNat value.length] <+: s.mData)
  (hRoom : bytes.length + (2 + value.length) ≤ 254) : ∃ s', s.store (bytes.length + 2) value = .ok s' ∧
    bytes ++ (⟨aType, value⟩ : TypedRecord).bytes <+: s'.mData ∧ s'.mLength = s.mLength := by
  obtain ⟨s', hStore, hNew, hLength, _⟩ := store_eq value hPrefix (by
    rw [List.length_append]
    show bytes.length + 2 + value.length ≤ 254
    omega)
  rw [List.length_append] at hStore
  rw [List.append_assoc] at hNew
  exact ⟨s', hStore, hNew, hLength⟩

theorem setValue_writes (value : List UInt8) : Writes (fun s tlv => s.setValue tlv value) value := by
  intro s bytes aType hPrefix hWritable hRoom
  obtain ⟨middle, hSet, hMiddle, hLength⟩ := setLength_eq hPrefix hWritable value.length (by omega)
  have hShort : (UInt8.ofNat value.length).toNat = value.length := by
    rw [UInt8.toNat_ofNat']
    omega
  have hRead : readByte middle.mData (bytes.length + 1) = .ok (UInt8.ofNat value.length) := by
    have hNext : (bytes ++ [aType]) ++ UInt8.ofNat value.length :: [] <+: middle.mData := by
      rwa [List.append_assoc]
    have hByte := readByte_of_prefix hNext
    rwa [List.length_append] at hByte
  have hByte : (UInt8.ofNat value.length).toNat ≠ kLengthEscape := by
    rw [hShort, kLengthEscape]
    omega
  have hValue : getValue middle.mData bytes.length = .ok (bytes.length + 2) := by
    rw [getValue, hRead, Checked.ok_bind, asserts_of hByte]
    rfl
  obtain ⟨s', hStore, hNew, hLength'⟩ := store_value hMiddle hRoom
  refine ⟨s', ?_, hNew, hLength'.trans hLength⟩
  dsimp only
  rw [setValue, hSet, Checked.ok_bind, hValue, Checked.ok_bind, hStore]

theorem setNumber_writes (value : List UInt8) : Writes (fun s tlv => s.setNumber tlv value) value := by
  intro s bytes aType hPrefix hWritable hRoom
  obtain ⟨byte, hRead, hByte⟩ := hWritable.readByte_eq (by omega)
  have hValue : getValue s.mData bytes.length = .ok (bytes.length + 2) := by
    rw [getValue, hRead, Checked.ok_bind, asserts_of hByte]
    rfl
  obtain ⟨middle, hSet, hMiddle, hLength⟩ := setLength_eq hPrefix hWritable value.length (by omega)
  obtain ⟨s', hStore, hNew, hLength'⟩ := store_value hMiddle hRoom
  refine ⟨s', ?_, hNew, hLength'.trans hLength⟩
  dsimp only
  rw [setNumber, hValue, Checked.ok_bind, hSet, Checked.ok_bind, hStore]

variable {records : List TypedRecord} {write : OperationalDataset → Nat → Checked OperationalDataset}

theorem setElement_eq (h : s.Holds records) (hLocatable : s.Locatable records aType)
  (hRoom : HasRoom records aType (2 + value.length)) (hWrites : Writes write value)
  (hWritable : s.Writable (encode (records.eraseP (·.type = aType))).length) (asserted : Bool) :
  ∃ s', s.setElement aType (2 + value.length) write asserted = .ok (.ok (), s') ∧
    s'.Holds (replace records ⟨aType, value⟩) := by
  have hShort : Short (records.eraseP (·.type = aType)) := fun r hMem =>
    h.short r (List.mem_of_mem_eraseP hMem)
  unfold HasRoom at hRoom
  obtain ⟨made, hMake, hPrefix, hLength, hBehind⟩ := makeRoom_eq h hLocatable hRoom (by omega)
  have hMadeWritable : made.Writable (encode (records.eraseP (·.type = aType))).length := by
    unfold Writable
    rw [hBehind _ (by omega)]
    exact hWritable
  obtain ⟨written, hWrite, hNew, hWritten⟩ := hWrites made _ aType hPrefix hMadeWritable hRoom
  have hStands : Stands written.mData (encode (records.eraseP (·.type = aType))).length ⟨aType, value⟩ :=
    ⟨by dsimp only; omega, _, hNew, rfl⟩
  have hMod : (written.mLength + (2 + value.length)) % 2 ^ 8 = written.mLength + (2 + value.length) :=
    Nat.mod_eq_of_lt (by omega)
  have hAssert : asserted → written.mLength + (2 + value.length) ≤ kSizeOperationalDataset := fun _ => by
    show _ ≤ 254
    omega
  refine ⟨{ written with mLength := written.mLength + (2 + value.length) }, ?_, ⟨?_, ?_, ?_⟩⟩
  · rw [setElement, hMake, Checked.ok_bind]
    dsimp only
    rw [hWrite, Checked.ok_bind, hStands.getSize_eq (by rw [written.hSize]; rfl), Checked.ok_bind,
      asserts_of hAssert, Checked.ok_bind, hMod, Checked.pure_eq]
  · exact short_replace h.short (by dsimp only; omega)
  · rw [replace, encode_append, encode_cons, encode_nil, List.append_nil]
    exact hNew
  · rw [replace, encode_append, encode_cons, encode_nil, List.append_nil, List.length_append, length_bytes]
    show written.mLength + _ = _
    rw [hWritten, hLength]

theorem setElement_full (h : s.Holds records) (hLocatable : s.Locatable records aType)
  (hFull : ¬HasRoom records aType (2 + value.length)) (asserted : Bool) :
  s.setElement aType (2 + value.length) write asserted = .ok (.error .noMemory, s) := by
  rw [setElement, makeRoom_full h hLocatable hFull, Checked.ok_bind]
  rfl

end Setting

section Getting

variable {s : OperationalDataset} {records : List TypedRecord} {aType : UInt8} {α : Type}
  {read : List UInt8 → Nat → Checked (Except ChipError α)}

theorem getElement_missing (h : s.Holds records) (hLocatable : s.Locatable records aType)
  (hFind : records.find? (·.type = aType) = none) : s.getElement aType read = .ok (.error .tlvTagNotFound) := by
  rcases locate_cases h hLocatable with ⟨_, hLocate⟩ | ⟨pre, r, post, rfl, hType, _, _⟩
  · rw [getElement, hLocate, Checked.ok_bind]
    rfl
  · refine absurd (decide_eq_true hType) (List.find?_eq_none.1 hFind r ?_)
    exact List.mem_append_right _ List.mem_cons_self

theorem getElement_found {r : TypedRecord} (h : s.Holds records) (hFind : records.find? (·.type = aType) = some r) :
  ∃ tlv, Stands s.mData tlv r ∧ s.getElement aType read = read s.mData tlv := by
  obtain ⟨hType, pre, post, rfl, hOther⟩ := List.find?_eq_some_iff_append.1 hFind
  have hOther : ∀ other ∈ pre, other.type ≠ aType := fun other hMem => by
    simpa using hOther other hMem
  refine ⟨(encode pre).length, h.stands, ?_⟩
  rw [getElement, h.locate_found hOther (of_decide_eq_true hType), Checked.ok_bind]

end Getting

end OperationalDataset

end Chip.Thread
