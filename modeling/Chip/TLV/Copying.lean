import Chip.TLV.Records
import Chip.TLV.Skipping

/-! Copying single elements. `CopyElement` writes a new head and copies the bytes between the
head and the end of the element, without looking into them. -/
namespace Chip.TLV

open List Proc TLVReader TLVWriter

inductive Item where
  | leaf (value : Value)
  | container (type : TLVType) (members : Elements)
  deriving DecidableEq

namespace Item

def elementType : Item → TLVElementType
  | leaf value => value.elementType
  | container type _ => type.toElementType

def lenOrVal : Item → Nat
  | leaf value => value.lenOrVal
  | container _ _ => 0

def data : Item → Bytes
  | leaf value => value.data
  | container type members => members.encode profileIdNotSpecified type ++ terminator

def Legal : Item → Prop
  | leaf value => value.data.length < 2 ^ 32
  | container type members => type.isContainer = true ∧ members.Legal type

def elements (tag : Tag) (next : Elements) : Item → Elements
  | leaf value => .leaf tag value next
  | container type members => .container tag type members next

def bytes (item : Item) : Bytes :=
  headBytes .notSpecified profileIdNotSpecified item.elementType anonymousTag item.lenOrVal ++ item.data

theorem encode_elements (item : Item) (context : TLVType) (tag : Tag) (next : Elements) :
  (item.elements tag next).encode profileIdNotSpecified context =
    headBytes context profileIdNotSpecified item.elementType tag item.lenOrVal ++
      (item.data ++ next.encode profileIdNotSpecified context) := by
  cases item with
  | leaf value => simp [elements, Elements.encode, elementType, lenOrVal, data]
  | container type members => simp [elements, Elements.encode, elementType, lenOrVal, data]

theorem legal_elements {item : Item} {context : TLVType} {tag : Tag} {next : Elements}
  (h : item.Legal) (hTag : tag.LegalIn context) (hNext : next.Legal context) :
  (item.elements tag next).Legal context := by
  cases item with
  | leaf value => exact ⟨hTag, h, hNext⟩
  | container type members => exact ⟨hTag, h.1, h.2, hNext⟩

theorem bytes_eq (item : Item) : item.bytes = (item.elements anonymousTag .nil).bytes := by
  rw [bytes, Elements.bytes, encode_elements]
  simp [Elements.encode]

end Item

def arrayElements : List Item → Elements
  | [] => .nil
  | item :: rest => item.elements anonymousTag (arrayElements rest)

theorem arrayElements_legal {items : List Item} (h : ∀ item ∈ items, item.Legal) :
  (arrayElements items).Legal .array := by
  induction items with
  | nil => trivial
  | cons item rest ih =>
    obtain ⟨hItem, hRest⟩ := forall_mem_cons.mp h
    exact Item.legal_elements hItem rfl (ih hRest)

theorem headBytes_array (elemType : TLVElementType) (lenOrVal : Nat) :
  headBytes .array profileIdNotSpecified elemType anonymousTag lenOrVal =
    headBytes .notSpecified profileIdNotSpecified elemType anonymousTag lenOrVal := by
  have hSpecial : isSpecialTag anonymousTag = true := by decide
  have hNum : ¬ (tagNumFromTag anonymousTag).toNat ≤ Tag.contextTagMaxNum.toNat := by decide
  simp [headBytes, elementHead, encodeTag, hSpecial, hNum]

theorem encode_arrayElements (items : List Item) :
  (arrayElements items).encode profileIdNotSpecified .array = (items.map Item.bytes).flatten := by
  induction items with
  | nil => rfl
  | cons item rest ih =>
    rw [arrayElements, Item.encode_elements, ih, headBytes_array]
    simp [Item.bytes]

structure On (context : TLVType) (limit : Nat) (item : Item) (rest : Bytes) (r : TLVReader) : Prop where
  type : r.elementType = item.elementType
  field : r.mElemLenOrVal = item.lenOrVal % 256 ^ item.elementType.fieldSize.bytes
  reads : Reads context profileIdNotSpecified limit (item.data ++ rest) r
  past : Past context profileIdNotSpecified limit rest r

section On

variable {context : TLVType} {limit : Nat} {item : Item} {rest : Bytes} {r : TLVReader}

theorem Item.Legal.spec (h : item.Legal) :
  item.elementType ≠ .notSpecified ∧ item.elementType ≠ .endOfContainer ∧
    item.elementType.isValid = true ∧
    (item.elementType.hasLength = true →
      item.lenOrVal % 256 ^ item.elementType.fieldSize.bytes = item.data.length) := by
  cases item with
  | leaf value =>
    obtain ⟨hNamed, hNotEnd, hValid, -, hString⟩ := lenOrVal_spec value h
    exact ⟨hNamed, hNotEnd, hValid, hString⟩
  | container type members =>
    obtain ⟨-, -, -, hNoLength, hNamed, hNotEnd, hValid⟩ := TLVType.isContainer_cases h.1
    exact ⟨hNamed, hNotEnd, hValid, fun hHas => by simp [Item.elementType, hNoLength] at hHas⟩

variable {members : Elements}

theorem past_container {type : TLVType} (hIsContainer : type.isContainer = true)
  (hMembers : members.Legal type) (hType : r.elementType = type.toElementType)
  (h : Reads context profileIdNotSpecified limit
    (members.encode profileIdNotSpecified type ++ (terminator ++ rest)) r) :
  Past context profileIdNotSpecified limit rest r := by
  obtain ⟨nodes, hNodes, -, hBytes⟩ := members.exists_accepted profileIdNotSpecified hMembers
  exact past_nodes hIsContainer hNodes hType (hBytes.symm ▸ h)

theorem Past.next_item {tag : Tag} {next : Elements} {tail : Bytes}
  (h : Past context profileIdNotSpecified limit
    ((item.elements tag next).encode profileIdNotSpecified context ++ tail) r)
  (hTag : tag.LegalIn context) (hLegal : item.Legal) :
  ∃ r', TLV.next r = (.ok (), r') ∧ r'.mElemTag = tag ∧
    On context limit item (next.encode profileIdNotSpecified context ++ tail) r' := by
  obtain ⟨r₀, hNext, hBefore⟩ := h.next_eq
  obtain ⟨r₁, hSkip, hReads⟩ := hBefore.skips
  obtain ⟨hNamed, hNotEnd, hValid, hString⟩ := hLegal.spec
  rw [Item.encode_elements, append_assoc, append_assoc] at hReads
  obtain ⟨r₂, hRead, hReads₂, hType, hElemTag, hField⟩ := readElement_legal hTag hNamed hNotEnd hValid
    (fun hHas => by rw [hString hHas, length_append]; omega) hReads.clearElementState
  have hNext₂ : TLV.next r₀ = (.ok (), r₂) := by
    refine next_before hBefore.notEnd hBefore.notContainer hSkip hRead (hType ▸ hNotEnd) ?_
    intro hHas hNonzero hEmpty
    have hBuffer := hReads₂.buffer
    rw [hEmpty] at hBuffer
    have hNil := (append_eq_nil_iff.mp hBuffer.symm).1
    rw [getLength, if_pos hHas, hField, hString (hType ▸ hHas), hNil] at hNonzero
    simp at hNonzero
  refine ⟨r₂, hNext.trans hNext₂, hElemTag, hType, hField, hReads₂, ?_⟩
  cases item with
  | leaf value => exact (Holds.before ⟨rfl, hType, hField, hLegal, hReads₂⟩).past
  | container type members =>
    refine past_container hLegal.1 hLegal.2 hType ?_
    simpa [Item.data] using hReads₂

theorem On.enterContainer (hOn : On context limit (.container .array members) rest r) :
  ∃ r', r.getType = .array ∧ TLV.enterContainer r = (.ok context, r') ∧ Settled r' ∧
    Reads .array profileIdNotSpecified limit
      (members.encode profileIdNotSpecified .array ++ (terminator ++ rest)) r' := by
  have hType : r.elementType = TLVType.array.toElementType := hOn.type
  have hReads := hOn.reads
  simp only [Item.data, append_assoc] at hReads
  let r₁ : TLVReader := { r.clearElementState with
    mContainerType := r.elementType.toTLVType, mContainerOpen := false }
  have hContainer : r.elementType.isContainer = true := by
    rw [hType]
    rfl
  have hEnter : TLV.enterContainer r = (.ok context, r₁) := by
    simp [TLV.enterContainer, hContainer, r₁, hReads.context]
  have hSettled : Settled r₁ := ⟨(settled_clear r).notEnd, (settled_clear r).notContainer,
    (settled_clear r).noData⟩
  refine ⟨r₁, ?_, hEnter, hSettled, ?_⟩
  · rw [TLVReader.getType, hType]
    rfl
  · exact { hReads with buffer := hReads.buffer, context := by simp [r₁, hType]; rfl }

theorem available_of_reads {buf tail : Bytes}
  (h : Reads context profileIdNotSpecified limit (buf ++ tail) r) : buf.length ≤ r.available := by
  rw [TLVReader.available, h.buffer, length_append]
  omega

theorem arrayElements_siblings (items : List Item) : (arrayElements items).siblings = items.length := by
  induction items with
  | nil => rfl
  | cons item rest ih => cases item <;> simp [arrayElements, Item.elements, Elements.siblings, ih]

/-- What a reader finds in an array: it enters the array and walks over its members. -/
def readArray (r : TLVReader) : Except ChipError Elements :=
  ((do
    let _ ← TLV.enterContainer
    let r ← Proc.read
    walk (r.available + 1) : ReaderM Elements) r).1

theorem On.readArray (hLegal : members.Legal .array)
  (hOn : On context limit (.container .array members) rest r) :
  r.getType = .array ∧ TLV.readArray r = .ok members := by
  obtain ⟨r₁, hArray, hEnter, hSettled, hReads⟩ := hOn.enterContainer
  have hSize := members.size_le_encode profileIdNotSpecified hLegal
  have hAvailable := available_of_reads hReads
  obtain ⟨r₂, hWalk, -⟩ := walk_legal members hLegal hSettled
    (show members.size < r₁.available + 1 by omega) hReads
    fun r' hSettled' hReads' => next_terminator (by decide) hSettled' hReads'
  refine ⟨hArray, ?_⟩
  rw [TLV.readArray, bind_ok hEnter, read_bind, hWalk]

end On

/-- A writer whose current buffer has room for so many bytes, within its limit. -/
structure Fits (n : Nat) (w : TLVWriter) : Prop where
  containerOpen : w.mContainerOpen = false
  limit : w.mLenWritten + n ≤ w.mMaxLen
  bound : w.mMaxLen < 2 ^ 32
  buffer : n ≤ w.mRemainingLen

section Fits

variable {n m : Nat} {w : TLVWriter}

theorem Fits.mono (h : Fits n w) (hLe : m ≤ n) : Fits m w :=
  ⟨h.containerOpen, by have := h.limit; omega, h.bound, hLe.trans h.buffer⟩

theorem Fits.append {bytes : Bytes} (h : Fits (bytes.length + n) w) : Fits n (w.append bytes) := by
  have hLimit := h.limit
  have hBound := h.bound
  have hBuffer := h.buffer
  refine ⟨h.containerOpen, ?_, h.bound, ?_⟩
  · simp only [TLVWriter.append, add32_of_lt (show w.mLenWritten + bytes.length < 2 ^ 32 by omega)]
    omega
  · simp only [TLVWriter.append]
    omega

theorem Fits.add32_le {bytes : Bytes} (h : Fits bytes.length w) :
  add32 w.mLenWritten bytes.length ≤ w.mMaxLen := by
  have hLimit := h.limit
  have hBound := h.bound
  rw [add32_of_lt (by omega)]
  exact hLimit

theorem append_nil (h : w.mLenWritten < 2 ^ 32) : w.append [] = w := by
  have hLen : add32 w.mLenWritten 0 = w.mLenWritten := add32_of_lt h
  simp [TLVWriter.append, hLen]

theorem append_append (p q : Bytes) : (w.append p).append q = w.append (p ++ q) := by
  simp only [TLVWriter.append, add32_add32, append_assoc, length_append]
  congr 1
  omega

theorem Fits.writeData {p : Bytes} (h : Fits p.length w) : writeData p w = (.ok (), w.append p) := by
  have hBound := h.bound
  have hLimit := h.limit
  have hRoom := h.buffer
  simp only [TLV.writeData, read_bind, verify_bind, if_pos h.add32_le]
  by_cases hp : p = []
  · subst hp
    rw [append_nil (by omega)]
    rfl
  · have hPos := length_pos_of_ne_nil hp
    rw [writeDataLoop_room hp (by omega), writeTurn, Nat.min_eq_left hRoom, drop_length,
      take_length]
    rfl

theorem Fits.writeElementHead {elemType : TLVElementType} {tag : Tag} {lenOrVal : Nat} {head : Bytes}
  (h : Fits head.length w)
  (hHead : elementHead w.mContainerType w.implicitProfileId elemType tag lenOrVal = .ok head) :
  writeElementHead elemType tag lenOrVal w = (.ok (), w.append head) := by
  simp only [TLV.writeElementHead, read_bind, verify_bind, h.containerOpen, if_true, hHead]
  split_ifs
  · rfl
  · exact h.writeData

theorem Fits.copyDataLoop {fuel : Nat} {data rest : Bytes} {r : TLVReader} (h : Fits data.length w)
  (hFuel : data.length ≤ fuel) (hBuffer : r.mBuf = data ++ rest)
  (hRead : r.mLenRead + data.length < 2 ^ 32) :
  copyDataLoop fuel data.length r w = (.ok (), w.append data) := by
  have hLt : w.mLenWritten < 2 ^ 32 := by
    have hLimit := h.limit
    have hBound := h.bound
    omega
  induction fuel generalizing data r w with
  | zero =>
    have hNil : data = [] := length_eq_zero_iff.mp (by omega)
    subst hNil
    rw [append_nil hLt]
    rfl
  | succ fuel ih =>
    by_cases hData : data = []
    · subst hData
      rw [append_nil hLt]
      rfl
    have hPos := length_pos_of_ne_nil hData
    let size := min data.length tlvCopyChunkSize
    have hSize : size ≤ data.length ∧ 0 < size := by
      simp only [size, tlvCopyChunkSize]
      omega
    have hChunkLength : (data.take size).length = size := length_take_of_le hSize.1
    have hDropLength : (data.drop size).length = data.length - size := length_drop
    have hSplit : r.mBuf = data.take size ++ (data.drop size ++ rest) := by
      rw [← append_assoc, take_append_drop, hBuffer]
    have hReadChunk := readData_buffered hSplit (by omega)
    rw [hChunkLength] at hReadChunk
    have hFits : Fits ((data.take size).length + (data.drop size).length) w := by
      rw [hChunkLength, hDropLength]
      exact h.mono (by omega)
    have hAppend := hFits.append
    have hAdvance : (r.advance size).mBuf = data.drop size ++ rest := by
      rw [TLVReader.advance, hSplit]
      exact drop_left' hChunkLength
    have hLenRead : (r.advance size).mLenRead = r.mLenRead + size :=
      add32_of_lt (by omega)
    have hLoop := ih hAppend (by omega) hAdvance (by rw [hLenRead]; omega)
      (Nat.mod_lt _ (by decide))
    rw [hDropLength] at hLoop
    simp only [TLV.copyDataLoop, if_neg (show ¬ data.length = 0 by omega)]
    rw [show min data.length tlvCopyChunkSize = size from rfl, hReadChunk]
    simp only
    rw [bind_ok (hFits.mono (by omega)).writeData, hLoop, append_append,
      take_append_drop]

def afterStart (type : TLVType) (head : Bytes) (w : TLVWriter) : TLVWriter :=
  { TLVWriter.append head { w with mMaxLen := w.mMaxLen - endOfContainerMarkerSize } with
    mContainerType := type
    mContainerOpen := false }

theorem Fits.startContainer {type : TLVType} {tag : Tag} {head : Bytes}
  (h : Fits (head.length + 1) w) (hType : type.isContainer = true)
  (hHead : elementHead w.mContainerType w.implicitProfileId type.toElementType tag 0 = .ok head)
  (hReserved : w.mCloseContainerReserved = true) :
  startContainer tag type w = (.ok w.mContainerType, afterStart type head w) := by
  have hLimit := h.limit
  have hBound := h.bound
  let w₁ : TLVWriter := { w with mMaxLen := w.mMaxLen - endOfContainerMarkerSize }
  have hReserve : reserveCloseContainer w = (.ok (), w₁) := by
    simp only [reserveCloseContainer, read_bind, hReserved, if_true, verify_bind]
    exact if_pos (show 1 ≤ w.mMaxLen by omega)
  have hFits : Fits head.length w₁ := by
    refine ⟨h.containerOpen, ?_, ?_, (Nat.le_succ _).trans h.buffer⟩
    · change w.mLenWritten + head.length ≤ w.mMaxLen - 1
      omega
    · change w.mMaxLen - 1 < 2 ^ 32
      omega
  have hWrite : TLV.writeElementHead type.toElementType tag 0 w₁ = (.ok (), w₁.append head) :=
    hFits.writeElementHead hHead
  simp only [TLV.startContainer, writeContainerHead]
  have hContainerHead : writeContainerHead tag type w = (.ok (), w₁.append head) := by
    simp only [writeContainerHead, verify_bind, if_pos hType]
    rw [bind_ok hReserve, attempt_bind, hWrite]
    rfl
  exact bind_ok hContainerHead

def afterEnd (outer : TLVType) (w : TLVWriter) : TLVWriter :=
  TLVWriter.append terminator
    { w with mMaxLen := w.mMaxLen + endOfContainerMarkerSize, mContainerType := outer }

theorem Fits.endContainer (outer : TLVType) (hType : w.mContainerType.isContainer = true)
  (hOpen : w.mContainerOpen = false) (hReserved : w.mCloseContainerReserved = true)
  (hLimit : w.mLenWritten ≤ w.mMaxLen) (hBound : w.mMaxLen + 1 < 2 ^ 32)
  (hBuffer : 1 ≤ w.mRemainingLen) :
  endContainer outer w = (.ok (), afterEnd outer w) := by
  let w₁ : TLVWriter :=
    { w with mMaxLen := w.mMaxLen + endOfContainerMarkerSize, mContainerType := outer }
  have hFits : Fits terminator.length w₁ := by
    refine ⟨hOpen, ?_, hBound, hBuffer⟩
    change w.mLenWritten + 1 ≤ w.mMaxLen + 1
    omega
  have hRelease : (if w.mCloseContainerReserved then add32 w.mMaxLen endOfContainerMarkerSize
      else w.mMaxLen) = w.mMaxLen + endOfContainerMarkerSize := by
    rw [if_pos hReserved]
    exact add32_of_lt hBound
  simp only [TLV.endContainer, read_bind, verify_bind, if_pos hType, modify_bind,
    releaseCloseContainer, hRelease]
  exact hFits.writeElementHead (elementHead_terminator _ _)

end Fits

theorem headBytes_mod (context : TLVType) (profile : BitVec 32) (elemType : TLVElementType) (tag : Tag)
  (lenOrVal : Nat) :
  headBytes context profile elemType tag (lenOrVal % 256 ^ elemType.fieldSize.bytes) =
    headBytes context profile elemType tag lenOrVal := by
  simp only [headBytes, elementHead, encode_mod]

theorem On.copyElement {context : TLVType} {limit : Nat} {item : Item} {rest : Bytes} {r : TLVReader}
  {w : TLVWriter} {tag : Tag} (h : On context limit item rest r) (hLegal : item.Legal)
  (hTag : tag.LegalIn w.mContainerType) (hProfile : w.implicitProfileId = profileIdNotSpecified)
  (hFits : Fits ((item.elements tag .nil).encode profileIdNotSpecified w.mContainerType).length w) :
  ∃ r', copyElement tag r w =
      (.ok r', w.append ((item.elements tag .nil).encode profileIdNotSpecified w.mContainerType)) ∧
    r'.clearElementState = r' ∧ Reads context profileIdNotSpecified limit rest r' := by
  obtain ⟨r', hSkip, hClear, hReads'⟩ := h.past
  obtain ⟨hNamed, hNotEnd, -, -⟩ := hLegal.spec
  have hLength := h.reads.length
  have hLength' := hReads'.length
  have hBound := h.reads.bound
  rw [length_append] at hLength
  have hCopy : sub32 r'.mLenRead r.mLenRead = item.data.length := by
    rw [sub32_of_le (by omega) (by omega)]
    omega
  let head := headBytes w.mContainerType profileIdNotSpecified item.elementType tag item.lenOrVal
  have hBytes : (item.elements tag .nil).encode profileIdNotSpecified w.mContainerType =
      head ++ item.data := by
    rw [Item.encode_elements]
    simp [Elements.encode, head]
  have hHead : elementHead w.mContainerType w.implicitProfileId item.elementType tag r.mElemLenOrVal =
      .ok head := by
    rw [elementHead_of_legal hTag, hProfile, h.field, headBytes_mod]
  refine ⟨r', ?_, hClear, hReads'⟩
  rw [hBytes] at hFits ⊢
  rw [length_append] at hFits
  have hFitsHead := hFits.mono (Nat.le_add_right head.length item.data.length)
  let helper : TLVReader := { r with mBackingStore := r'.mBackingStore }
  have hLoop := hFits.append.copyDataLoop (r := helper) (Nat.le_refl _) h.reads.buffer (show r.mLenRead + item.data.length < 2 ^ 32 by omega)
  simp only [TLV.copyElement, verify_bind, h.type, if_pos (And.intro hNamed hNotEnd), hSkip]
  rw [bind_ok (hFitsHead.writeElementHead hHead)]
  simp only [TLVReader.getLengthRead, hCopy]
  rw [bind_ok hLoop, append_append]
  rfl

theorem next_itemBytes {item : Item} (hLegal : item.Legal) (hLength : item.bytes.length < 2 ^ 32) :
  ∃ r, next (TLVReader.init item.bytes item.bytes.length) = (.ok (), r) ∧
    On .notSpecified item.bytes.length item [] r := by
  have hBytes := item.bytes_eq
  have hBefore := before_init (item.elements anonymousTag .nil) (hBytes ▸ hLength)
  rw [← hBytes] at hBefore
  have hPast := hBefore.past
  rw [hBytes, Elements.bytes] at hPast
  obtain ⟨r, hNext, -, hOn⟩ := hPast.next_item (.inl rfl) hLegal
  refine ⟨r, ?_, ?_⟩
  · rw [hBytes]
    exact hNext
  · rw [hBytes]
    exact hOn

def Item.reader (item : Item) : TLVReader := (next (TLVReader.init item.bytes item.bytes.length)).2

theorem On.reader {item : Item} (hLegal : item.Legal) (hLength : item.bytes.length < 2 ^ 32) :
  On .notSpecified item.bytes.length item [] item.reader := by
  obtain ⟨r, hNext, hOn⟩ := next_itemBytes hLegal hLength
  have hReader : item.reader = r := by rw [Item.reader, hNext]
  exact hReader ▸ hOn

end Chip.TLV
