import Chip.Dnssd.PreviousNames

/-! The bytes that the writer puts for a name, and how they are read. -/
namespace Chip.Dnssd

open QNamePart List

/-- Where the bytes of a name end, without what its pointer leads to. -/
inductive DataEnd (bytes : Bytes) : Nat → Nat → Prop where
  | stop {p : Nat} (item : itemAt bytes p = .stop) : DataEnd bytes p (p + 1)
  | pointer {p offset : Nat} (item : itemAt bytes p = .pointer offset) : DataEnd bytes p (p + 2)
  | label {p dataEnd : Nat} {label : Bytes} (item : itemAt bytes p = .label label)
      (next : DataEnd bytes (p + label.length + 1) dataEnd) : DataEnd bytes p dataEnd

theorem DataEnd.append {bytes : Bytes} {p dataEnd : Nat} (h : DataEnd bytes p dataEnd)
  (more : Bytes) : DataEnd (bytes ++ more) p dataEnd := by
  induction h with
  | stop item => exact .stop ((itemAt_append (by rw [item]; nofun) more).trans item)
  | pointer item => exact .pointer ((itemAt_append (by rw [item]; nofun) more).trans item)
  | label item _ ih => exact .label ((itemAt_append (by rw [item]; nofun) more).trans item) ih

def encodePart (part : QNamePart) : Bytes := UInt8.ofNat part.strlen :: part.chars

def encodeParts (parts : FullQName) : Bytes := parts.flatMap encodePart

def encodePointer (offset : Nat) : Bytes := BufferWriter.bigEndian (offset ||| 0xC000) 2

section Read

variable {pre tail more : Bytes} {part : QNamePart} {offset bound dataEnd : Nat}
  {rest : List (Bytes × Nat)} {parts : FullQName}

theorem ofBuffer_chars (part : QNamePart) : ofBuffer part.chars = part := by
  obtain ⟨chars, noNul⟩ := part
  rw [ofBuffer, mk.injEq, takeWhile_eq_self_iff]
  intro c hMem
  rw [decide_eq_true_iff]
  rintro rfl
  exact noNul hMem

theorem itemAt_zero (pre more : Bytes) : itemAt (pre ++ 0 :: more) pre.length = .stop := by
  rw [itemAt_eq_stop]
  simp

theorem partLength {n : Nat} (h : n ≤ kMaxValueSize) :
  (UInt8.ofNat n).toNat = n ∧ UInt8.ofNat n &&& kPtrMask ≠ kPtrMask := by
  have hAll : ∀ n ≤ kMaxValueSize, (UInt8.ofNat n).toNat = n ∧ UInt8.ofNat n &&& kPtrMask ≠ kPtrMask := by
    decide
  exact hAll n h

theorem itemAt_part (hSize : part.strlen ≤ kMaxValueSize) (hPositive : 0 < part.strlen)
  (hMore : more ≠ []) :
  itemAt (pre ++ (encodePart part ++ more)) pre.length = .label part.chars := by
  obtain ⟨hLength, hMask⟩ := partLength hSize
  refine itemAt_eq_label.mpr ⟨UInt8.ofNat part.strlen, ?_, ?_, hMask, ?_, ?_, ?_⟩
  · simp [encodePart]
  · intro hZero
    rw [hZero] at hLength
    exact hPositive.ne hLength
  · rwa [hLength]
  · have hLess : 0 < more.length := length_pos_iff.mpr hMore
    rw [hLength]
    simp only [encodePart, length_append, length_cons, strlen]
    omega
  · rw [hLength, strlen, drop_length_add_append, encodePart, cons_append,
      drop_succ_cons, drop_zero, take_left]

theorem pointerBytes {offset : Nat} (h : offset ≤ kMaxReuseOffset) :
  encodePointer offset = [UInt8.ofNat (0xC0 + offset / 256), UInt8.ofNat (offset % 256)] := by
  have hOr : offset ||| 0xC000 = 0xC000 + offset := by
    rw [Nat.or_comm]
    exact (Nat.two_pow_add_eq_or_of_lt (i := 14) (Nat.lt_succ_of_le h) 3).symm
  have hHigh : (0xC000 + offset) / 256 = 0xC0 + offset / 256 := by omega
  simp only [encodePointer, BufferWriter.bigEndian, hOr, Nat.pow_one, Nat.pow_zero, Nat.div_one, hHigh]
  rw [cons.injEq, cons.injEq]
  refine ⟨rfl, ?_, rfl⟩
  rw [← UInt8.toNat_inj, UInt8.toNat_ofNat', UInt8.toNat_ofNat']
  omega

theorem pointerHigh {n : Nat} (h : n < 64) : UInt8.ofNat (0xC0 + n) ≠ 0 ∧
  UInt8.ofNat (0xC0 + n) &&& kPtrMask = kPtrMask ∧ (UInt8.ofNat (0xC0 + n) &&& 0x3F).toNat = n := by
  have hAll : ∀ n < 64, UInt8.ofNat (0xC0 + n) ≠ 0 ∧
      UInt8.ofNat (0xC0 + n) &&& kPtrMask = kPtrMask ∧ (UInt8.ofNat (0xC0 + n) &&& 0x3F).toNat = n := by
    decide
  exact hAll n h

theorem itemAt_pointer (h : offset ≤ kMaxReuseOffset) :
  itemAt (pre ++ (encodePointer offset ++ more)) pre.length = .pointer offset := by
  have hHigh : offset / 256 < 64 := by
    rw [kMaxReuseOffset] at h
    omega
  obtain ⟨hZero, hMask, hValue⟩ := pointerHigh hHigh
  rw [pointerBytes h]
  refine itemAt_eq_pointer.mpr ⟨_, _, by simp, hZero, hMask, by simp; rfl, ?_⟩
  rw [hValue, UInt8.toNat_ofNat']
  omega

section

variable (hSize : ∀ part ∈ parts, part.strlen ≤ kMaxValueSize)
include hSize

theorem nameAt_parts (hTail : tail ≠ [])
  (hName : NameAt (pre ++ (encodeParts parts ++ tail)) bound (pre.length + (encodeParts parts).length) rest)
  (hEnd : DataEnd (pre ++ (encodeParts parts ++ tail)) (pre.length + (encodeParts parts).length) dataEnd) :
  ∃ rest', NameAt (pre ++ (encodeParts parts ++ tail)) bound pre.length rest' ∧
    ((∀ part ∈ parts, 0 < part.strlen) → labelsOf rest' = parts ++ labelsOf rest ∧
      DataEnd (pre ++ (encodeParts parts ++ tail)) pre.length dataEnd) := by
  induction parts generalizing pre with
  | nil => exact ⟨rest, by simpa [encodeParts] using hName, fun _ => ⟨rfl, by simpa [encodeParts] using hEnd⟩⟩
  | cons part parts ih =>
    have hBytes : pre ++ (encodeParts (part :: parts) ++ tail) =
        pre ++ (encodePart part ++ (encodeParts parts ++ tail)) := by
      simp [encodeParts]
    have hSplit : pre ++ (encodeParts (part :: parts) ++ tail) =
        (pre ++ encodePart part) ++ (encodeParts parts ++ tail) := by
      rw [hBytes, append_assoc]
    have hNext : pre.length + part.chars.length + 1 = (pre ++ encodePart part).length := by
      simp [encodePart, Nat.add_assoc]
    have hPlace : pre.length + (encodeParts (part :: parts)).length =
        (pre ++ encodePart part).length + (encodeParts parts).length := by
      simp [encodeParts, Nat.add_assoc]
    rw [hPlace, hSplit] at hName hEnd
    obtain ⟨rest', hRest, hSame⟩ := ih (fun p hMem => hSize p (mem_cons_of_mem part hMem)) hName hEnd
    rw [← hNext, ← hSplit] at hRest hSame
    have hMore : encodeParts parts ++ tail ≠ [] := fun h => hTail (append_eq_nil_iff.mp h).2
    by_cases hPositive : 0 < part.strlen
    · have hItem := @itemAt_part pre _ part (hSize part mem_cons_self) hPositive hMore
      rw [← hBytes] at hItem
      refine ⟨_, .label hItem hRest, fun hAll => ?_⟩
      obtain ⟨hLabels, hDataEnd⟩ := hSame fun p hMem => hAll p (mem_cons_of_mem part hMem)
      refine ⟨?_, .label hItem hDataEnd⟩
      rw [cons_append, ← hLabels, labelsOf, map_cons, ofBuffer_chars, labelsOf]
    · have hNone : encodePart part = 0 :: part.chars := by
        rw [encodePart, Nat.eq_zero_of_not_pos hPositive]
        rfl
      refine ⟨[], .stop ?_, fun hAll => absurd (hAll part mem_cons_self) hPositive⟩
      rw [hBytes, hNone, cons_append]
      exact itemAt_zero pre _

theorem nameAt_ended :
  ∃ rest, NameAt (pre ++ (encodeParts parts ++ [0])) pre.length pre.length rest ∧
    ((∀ part ∈ parts, 0 < part.strlen) → labelsOf rest = parts ∧
      DataEnd (pre ++ (encodeParts parts ++ [0])) pre.length
        (pre ++ (encodeParts parts ++ [0])).length) := by
  have hStop : itemAt (pre ++ (encodeParts parts ++ [0])) (pre.length + (encodeParts parts).length) = .stop := by
    have hItem := itemAt_zero (pre ++ encodeParts parts) []
    rwa [append_assoc, length_append] at hItem
  obtain ⟨rest, hName, hSame⟩ := nameAt_parts hSize (by simp) (.stop hStop) (.stop hStop)
  refine ⟨rest, hName, fun hAll => ?_⟩
  obtain ⟨hLabels, hEnd⟩ := hSame hAll
  refine ⟨hLabels.trans (append_nil parts), ?_⟩
  simpa [Nat.add_assoc] using hEnd

theorem nameAt_pointed (hOffset : offset ≤ kMaxReuseOffset)
  (hName : NameAt pre offset offset rest) :
  ∃ rest', NameAt (pre ++ (encodeParts parts ++ encodePointer offset)) pre.length pre.length rest' ∧
    ((∀ part ∈ parts, 0 < part.strlen) → labelsOf rest' = parts ++ labelsOf rest ∧
      DataEnd (pre ++ (encodeParts parts ++ encodePointer offset)) pre.length
        (pre ++ (encodeParts parts ++ encodePointer offset)).length) := by
  have hItem : itemAt (pre ++ (encodeParts parts ++ encodePointer offset))
      (pre.length + (encodeParts parts).length) = .pointer offset := by
    have hPointer := @itemAt_pointer (pre ++ encodeParts parts) [] offset hOffset
    rwa [append_nil, append_assoc, length_append] at hPointer
  have hBefore := hName.lt_length
  obtain ⟨rest', hRead, hSame⟩ := nameAt_parts hSize (by rw [pointerBytes hOffset]; simp)
    (.pointer hItem (Nat.le_of_lt hBefore) (by omega) (hName.append _)) (.pointer hItem)
  refine ⟨rest', hRead, fun hAll => ?_⟩
  obtain ⟨hLabels, hEnd⟩ := hSame hAll
  refine ⟨hLabels, ?_⟩
  rw [pointerBytes hOffset] at hEnd ⊢
  simpa [Nat.add_assoc] using hEnd

end

end Read

namespace RecordWriter

variable {w w' current : RecordWriter} {buf bytes all block : Bytes} {parts : FullQName}
  {R : List (Bytes × Nat) → Bool → Prop} {p : Nat} {r : Option Nat}

/-- These bytes were put, and the remembered offsets are those of names in the buffer. -/
structure Sound (w : RecordWriter) (buf bytes : Bytes) : Prop where
  holds : w.mOutput.Holds buf bytes
  names : NamesAt (bytes.take buf.length) w.mPreviousQNames

theorem sound_init (output : BufferWriter) : ∃ bytes, (init output).Sound output.mBuf bytes := by
  refine ⟨_, output.holds_self, fun offset hMem hUsed => ?_⟩
  exact absurd (eq_of_mem_replicate hMem) hUsed

theorem Sound.validData_bytes (h : w.Sound buf bytes) : w.validData.bytes = bytes.take buf.length :=
  h.holds.take_eq

theorem Sound.of_append (h : w.Sound buf bytes) (hHolds : w'.mOutput.Holds buf (bytes ++ block))
  (hSlots : w'.mPreviousQNames = w.mPreviousQNames) : w'.Sound buf (bytes ++ block) where
  holds := hHolds
  names := by
    rw [hSlots, take_append]
    exact h.names.append _

theorem Sound.put (h : w.Sound buf bytes) (range : Bytes) :
  (w.put range).Sound buf (bytes ++ range) :=
  h.of_append (h.holds.put range) rfl

theorem fit_iff (h : w.mOutput.Holds buf bytes) : w.fit = true ↔ bytes.length ≤ buf.length := by
  rw [fit, BufferWriter.fit, decide_eq_true_iff, h.needed, h.length_eq]

theorem mem_rememberIn {offset o : Nat} {slots : List Nat} (h : o ∈ rememberIn offset slots) :
  o = offset ∨ o ∈ slots := by
  induction slots with
  | nil => cases h
  | cons previous rest ih =>
    rw [rememberIn] at h
    split at h
    · rcases mem_cons.mp h with hNew | hOld
      · exact .inl hNew
      · exact .inr (mem_cons_of_mem previous hOld)
    · rcases mem_cons.mp h with hFirst | hLater
      · exact .inr (hFirst ▸ mem_cons_self)
      · exact (ih hLater).imp_right (mem_cons_of_mem previous)

theorem Sound.remember {start : Nat} (h : w.Sound buf bytes) (hFit : w.fit = true)
  (hName : start ≤ kMaxReuseOffset → ∃ rest, NameAt bytes start start rest) :
  (w.rememberWrittenQnameOffset start).Sound buf bytes := by
  rw [rememberWrittenQnameOffset]
  split
  · exact h
  · rename_i hLow
    refine ⟨h.holds, fun offset hMem hUsed => ?_⟩
    rcases mem_rememberIn hMem with rfl | hOld
    · rw [take_of_length_le ((fit_iff h.holds).mp hFit)]
      exact hName (Nat.le_of_not_lt hLow)
    · exact h.names offset hOld hUsed

structure Writing (w : RecordWriter) (buf bytes : Bytes) (parts : FullQName)
    (current : RecordWriter) : Prop where
  holds : current.mOutput.Holds buf (bytes ++ encodeParts parts)
  slots : current.mPreviousQNames = w.mPreviousQNames
  sizes : ∀ part ∈ parts, part.strlen ≤ kMaxValueSize

theorem Sound.writing (h : w.Sound buf bytes) : Writing w buf bytes [] w where
  holds := by simpa [encodeParts] using h.holds
  slots := rfl
  sizes := nofun

theorem Writing.putPart (h : Writing w buf bytes parts current) (part : QNamePart)
  (hSize : part.strlen ≤ kMaxValueSize) :
  Writing w buf bytes (parts ++ [part]) (current.putPart part) where
  holds := by
    have hBytes : bytes ++ encodeParts (parts ++ [part]) =
        bytes ++ encodeParts parts ++ [UInt8.ofNat part.strlen] ++ part.chars := by
      simp [encodeParts, encodePart]
    rw [hBytes]
    exact (h.holds.putByte (UInt8.ofNat part.strlen)).put part.chars
  slots := h.slots
  sizes q hMem := by
    rcases mem_append.mp hMem with hOld | hNew
    · exact h.sizes q hOld
    · rw [mem_singleton.mp hNew]
      exact hSize

/-- The name from this place on has these labels and this end. -/
def ReadsBack (bytes : Bytes) (start dataEnd : Nat) (qname : FullQName) : Prop :=
  ∃ rest, NameAt bytes start start rest ∧ sameName (labelsOf rest) qname = true ∧
    DataEnd bytes start dataEnd

theorem ReadsBack.append {start dataEnd : Nat} {qname : FullQName}
  (h : ReadsBack bytes start dataEnd qname) (more : Bytes) :
  ReadsBack (bytes ++ more) start dataEnd qname := by
  obtain ⟨rest, hName, hSame, hEnd⟩ := h
  exact ⟨rest, hName.append more, hSame, hEnd.append more⟩

theorem sameName_refl (qname : FullQName) : sameName qname qname = true := beq_self_eq_true _

theorem sameName_append_left {a b : FullQName} (h : sameName a b = true) (first : FullQName) :
  sameName (first ++ a) (first ++ b) = true := by
  have hFold : a.map fold = b.map fold := beq_iff_eq.mp h
  simp [sameName, hFold]

section

variable (hSound : w.Sound buf bytes) (h : Writing w buf bytes parts current)
include hSound h

theorem Writing.putEnd :
  (current.putEnd w.mOutput.mNeeded).Sound buf (bytes ++ (encodeParts parts ++ [0])) ∧
    ((∀ part ∈ parts, 0 < part.strlen) → ReadsBack (bytes ++ (encodeParts parts ++ [0]))
      bytes.length (bytes ++ (encodeParts parts ++ [0])).length parts) := by
  obtain ⟨rest, hName, hSame⟩ := @nameAt_ended bytes parts h.sizes
  have hHolds : (current.put8 0).mOutput.Holds buf (bytes ++ (encodeParts parts ++ [0])) := by
    rw [← append_assoc]
    exact h.holds.putByte 0
  have hPut : (current.put8 0).Sound buf (bytes ++ (encodeParts parts ++ [0])) :=
    hSound.of_append hHolds h.slots
  constructor
  · rw [RecordWriter.putEnd, hSound.holds.needed]
    split
    · rename_i hFit
      exact hPut.remember hFit fun _ => ⟨rest, hName⟩
    · exact hPut
  · intro hAll
    obtain ⟨hLabels, hEnd⟩ := hSame hAll
    exact ⟨rest, hName, hLabels ▸ sameName_refl _, hEnd⟩

theorem Writing.putPointer {rest : List (Bytes × Nat)}
  (hFound : NameAt (bytes.take buf.length) p p rest) (isFullyCompressed : Bool) :
  (current.putPointer w.mOutput.mNeeded (p % 2 ^ 16) isFullyCompressed).Sound buf
      (bytes ++ (encodeParts parts ++ encodePointer (p % 2 ^ 16))) ∧
    (p ≤ kMaxReuseOffset → (∀ part ∈ parts, 0 < part.strlen) →
      ReadsBack (bytes ++ (encodeParts parts ++ encodePointer (p % 2 ^ 16))) bytes.length
        (bytes ++ (encodeParts parts ++ encodePointer (p % 2 ^ 16))).length
        (parts ++ labelsOf rest)) := by
  have hName : NameAt bytes p p rest := by
    have hAll := hFound.append (bytes.drop buf.length)
    rwa [take_append_drop] at hAll
  have hLow : p ≤ kMaxReuseOffset → p % 2 ^ 16 = p := fun hLow =>
    Nat.mod_eq_of_lt (Nat.lt_of_le_of_lt hLow (by decide))
  have hHolds : (current.put16 (p % 2 ^ 16 ||| 0xC000)).mOutput.Holds buf
      (bytes ++ (encodeParts parts ++ encodePointer (p % 2 ^ 16))) := by
    rw [← append_assoc]
    exact h.holds.bigEndianPut _ 2
  have hPut : (current.put16 (p % 2 ^ 16 ||| 0xC000)).Sound buf
      (bytes ++ (encodeParts parts ++ encodePointer (p % 2 ^ 16))) :=
    hSound.of_append hHolds h.slots
  constructor
  · rw [RecordWriter.putPointer, hSound.holds.needed]
    split
    · rename_i hFit
      refine hPut.remember (Bool.and_eq_true_iff.mp hFit).1 fun hStart => ?_
      have hSmall : p ≤ kMaxReuseOffset := (Nat.le_of_lt hName.lt_length).trans hStart
      obtain ⟨rest', hRead, -⟩ := nameAt_pointed h.sizes hSmall hName
      rw [hLow hSmall]
      exact ⟨rest', hRead⟩
    · exact hPut
  · intro hSmall hAll
    obtain ⟨rest', hRead, hSame⟩ := nameAt_pointed h.sizes hSmall hName
    obtain ⟨hLabels, hEnd⟩ := hSame hAll
    rw [hLow hSmall]
    exact ⟨rest', hRead, hLabels ▸ sameName_refl _, hEnd⟩

end

theorem Writing.findPreviousPosition {isName : SerializedQNameIterator → Looping Fault Bool}
  (hName : Compares isName R) (hSound : w.Sound buf bytes)
  (h : Writing w buf bytes parts current) : (current.findPreviousPosition isName).Yields
    (Finds R (bytes.take buf.length) w.mPreviousQNames) := by
  have hNames : NamesAt current.validData.bytes current.mPreviousQNames := by
    rw [validData, BytesRange.bytes, h.holds.take_eq, h.slots, take_append]
    exact hSound.names.append _
  refine (findPreviousPosition_yields hName hNames).mono fun r hFinds => ?_
  rw [validData, BytesRange.bytes, h.holds.take_eq, h.slots, take_append] at hFinds
  exact (Finds.append_iff hSound.names).mp hFinds

theorem Sound.finds_iff (h : w.Sound buf bytes) (qname : FullQName) :
  (w.findPreviousPosition (·.equalsFull qname)).Gives (.ok r) ↔
    Finds (fun rest answer => answer = sameName (labelsOf rest) qname) (bytes.take buf.length)
      w.mPreviousQNames r := by
  obtain ⟨r', hGives, hFinds⟩ :=
    h.writing.findPreviousPosition (SerializedQNameIterator.equalsFull_compares qname) h
  constructor
  · intro hOther
    cases hGives.unique hOther
    exact hFinds
  · intro hOther
    cases hFinds.unique hOther
    exact hGives

end RecordWriter
end Chip.Dnssd
