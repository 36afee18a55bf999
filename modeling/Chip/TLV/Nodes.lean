import Chip.TLV.Fields

/-! Encodings in any form that a reader accepts. The writer chooses one form of each tag and of each
length; a reader takes them all. -/
namespace Chip.TLV

open List LittleEndian TLVReader

/-- The head of an element in any form that a reader can meet: the tag may be written in any of its
forms, and a length in more bytes than it needs. -/
structure ElementHead where
  control : TLVTagControl
  elemType : TLVElementType
  tagBytes : Bytes
  field : Bytes

namespace ElementHead

def bytes (head : ElementHead) : Bytes :=
  controlByte head.control head.elemType :: head.tagBytes ++ head.field

structure WellFormed (head : ElementHead) : Prop where
  named : head.elemType ≠ .notSpecified
  tagBytes : head.tagBytes.length = head.control.tagSize
  field : head.field.length = head.elemType.fieldSize.bytes

def endOfContainer : ElementHead := ⟨.anonymous, .endOfContainer, [], []⟩

theorem wellFormed_endOfContainer : endOfContainer.WellFormed := ⟨by decide, rfl, rfl⟩

theorem bytes_length {head : ElementHead} (h : head.WellFormed) :
  head.bytes.length = 1 + head.control.tagSize + head.elemType.fieldSize.bytes := by
  rw [bytes, length_append, length_cons, h.tagBytes, h.field]
  omega

end ElementHead

inductive Nodes where
  | nil
  | leaf (head : ElementHead) (data : Bytes) (next : Nodes)
  | container (head : ElementHead) (members next : Nodes)

namespace Nodes

def bytes : Nodes → Bytes
  | nil => []
  | leaf head data next => head.bytes ++ (data ++ next.bytes)
  | container head members next => head.bytes ++ (members.bytes ++ (terminator ++ next.bytes))

def WellFormed : Nodes → Prop
  | nil => True
  | leaf head data next => head.WellFormed ∧ head.elemType ≠ .endOfContainer ∧
      head.elemType.isContainer = false ∧
      data.length = (if head.elemType.hasLength then LittleEndian.value head.field else 0) ∧ next.WellFormed
  | container head members next => head.WellFormed ∧ head.elemType.isContainer = true ∧
      members.WellFormed ∧ next.WellFormed

end Nodes

/-- The tag that a reader with this implicit profile finds in the head. -/
def ElementHead.tag (profile : BitVec 32) (head : ElementHead) : Tag :=
  (readTag profile head.control head.tagBytes).1

structure ElementHead.Accepted (profile : BitVec 32) (context : TLVType) (head : ElementHead) : Prop
    extends head.WellFormed where
  notEnd : head.elemType ≠ .endOfContainer
  valid : head.elemType.isValid = true
  resolved : head.tag profile ≠ unknownImplicitTag
  admitted : verifyTagInContainer context (head.tag profile) = .ok ()
  length : head.elemType.hasLength = true → LittleEndian.value head.field < 2 ^ 32

/-- An encoding that is accepted in a container of this type. -/
def Nodes.Accepted (profile : BitVec 32) : TLVType → Nodes → Prop
  | _, .nil => True
  | context, .leaf head data next => head.Accepted profile context ∧ head.elemType.isContainer = false ∧
      data.length = (if head.elemType.hasLength then LittleEndian.value head.field else 0) ∧
      next.Accepted profile context
  | context, .container head members next => head.Accepted profile context ∧
      head.elemType.isContainer = true ∧ members.Accepted profile head.elemType.toTLVType ∧
      next.Accepted profile context

/-- The heads are those that the writer writes for the tags and fields they hold. -/
def Nodes.Canonical (profile : BitVec 32) : TLVType → Nodes → Prop
  | _, .nil => True
  | context, .leaf head _ next =>
    elementHead context profile head.elemType (head.tag profile) (LittleEndian.value head.field) = .ok head.bytes ∧
      next.Canonical profile context
  | context, .container head members next =>
    elementHead context profile head.elemType (head.tag profile) (LittleEndian.value head.field) = .ok head.bytes ∧
      members.Canonical profile head.elemType.toTLVType ∧ next.Canonical profile context

theorem encode_mod (width n : Nat) :
  encode width (n % 256 ^ width) = encode width n := by
  have hRound := encode_value (encode width n)
  rwa [encode_length, value_encode] at hRound

theorem headBytes_accepted {context : TLVType} {tag : Tag} {elemType : TLVElementType}
  (profile : BitVec 32) (lenOrVal : Nat) (hTag : tag.LegalIn context) (hNamed : elemType ≠ .notSpecified)
  (hNotEnd : elemType ≠ .endOfContainer) (hValid : elemType.isValid = true)
  (hLength : elemType.hasLength = true → lenOrVal % 256 ^ elemType.fieldSize.bytes < 2 ^ 32) :
  ∃ head : ElementHead, head.Accepted profile context ∧ head.elemType = elemType ∧ head.tag profile = tag ∧
    value head.field = lenOrVal % 256 ^ elemType.fieldSize.bytes ∧
    elementHead context profile elemType tag lenOrVal = .ok head.bytes := by
  obtain ⟨control, tagBytes, hHead, hTagSize, hRead⟩ :=
    elementHead_legal profile (hTag.roundTrips profile elemType) lenOrVal
  have hField := value_encode elemType.fieldSize.bytes lenOrVal
  have hElemTag : (readTag profile control tagBytes).1 = tag := by
    have hBytes := hRead []
    rw [append_nil] at hBytes
    rw [hBytes]
  refine ⟨⟨control, elemType, tagBytes, encode elemType.fieldSize.bytes lenOrVal⟩, ?_, rfl, hElemTag,
    hField, hHead⟩
  exact {
    named := hNamed
    tagBytes := hTagSize
    field := encode_length _ _
    notEnd := hNotEnd
    valid := hValid
    resolved := by
      change (readTag profile control tagBytes).1 ≠ _
      rw [hElemTag]
      exact hTag.ne_unknownImplicitTag
    admitted := by
      change verifyTagInContainer context (readTag profile control tagBytes).1 = _
      rw [hElemTag]
      exact hTag.verify
    length := fun hHas => hField.symm ▸ hLength hHas }

theorem elementHead_mod (context : TLVType) (profile : BitVec 32) (elemType : TLVElementType) (tag : Tag)
  (lenOrVal : Nat) :
  elementHead context profile elemType tag (lenOrVal % 256 ^ elemType.fieldSize.bytes) =
    elementHead context profile elemType tag lenOrVal := by
  simp only [elementHead, encode_mod]

theorem Elements.exists_accepted (elements : Elements) {context : TLVType} (profile : BitVec 32)
  (hLegal : elements.Legal context) :
  ∃ nodes : Nodes, nodes.Accepted profile context ∧ nodes.Canonical profile context ∧
    nodes.bytes = elements.encode profile context := by
  induction elements generalizing context with
  | nil => exact ⟨.nil, trivial, trivial, rfl⟩
  | leaf tag value next ih =>
    obtain ⟨hTag, hLength, hNext⟩ := hLegal
    obtain ⟨hNamed, hNotEnd, hValid, hNotContainer, hString⟩ := lenOrVal_spec value hLength
    obtain ⟨head, hHead, hType, hElemTag, hField, hBytes⟩ := headBytes_accepted profile _ hTag hNamed hNotEnd hValid
      (fun hHas => hString hHas ▸ hLength)
    obtain ⟨nodes, hNodes, hCanonical, hRest⟩ := ih hNext
    refine ⟨.leaf head value.data nodes, ⟨hHead, hType ▸ hNotContainer, ?_, hNodes⟩, ⟨?_, hCanonical⟩, ?_⟩
    · rw [hType, hField]
      split_ifs with hHas
      · exact (hString hHas).symm
      · exact length_eq_zero_iff.mpr (value.data_eq_nil (by simpa using hHas))
    · rw [hType, hElemTag, hField, elementHead_mod, hBytes]
    · rw [Nodes.bytes, Elements.encode, headBytes_of_ok hBytes, hRest, append_assoc]
  | container tag type members next ihMembers ihNext =>
    obtain ⟨hTag, hIsContainer, hMembers, hNext⟩ := hLegal
    obtain ⟨-, hContainer, hBack, hNoLength, hNamed, hNotEnd, hValid⟩ := TLVType.isContainer_cases hIsContainer
    obtain ⟨head, hHead, hType, hElemTag, hField, hBytes⟩ := headBytes_accepted profile 0 hTag hNamed hNotEnd
      hValid (fun hHas => by simp [hNoLength] at hHas)
    obtain ⟨inner, hInner, hInnerCanonical, hInnerBytes⟩ := ihMembers hMembers
    obtain ⟨nodes, hNodes, hCanonical, hRest⟩ := ihNext hNext
    have hBackHead : head.elemType.toTLVType = type := hType ▸ hBack
    refine ⟨.container head inner nodes, ⟨hHead, hType ▸ hContainer, hBackHead.symm ▸ hInner, hNodes⟩,
      ⟨?_, hBackHead.symm ▸ hInnerCanonical, hCanonical⟩, ?_⟩
    · rw [hType, hElemTag, hField, elementHead_mod, hBytes]
    · rw [Nodes.bytes, Elements.encode, headBytes_of_ok hBytes, hInnerBytes, hRest, append_assoc, append_assoc]

theorem readTag_append {profile : BitVec 32} {control : TLVTagControl} {tagBytes : Bytes}
  (hLength : tagBytes.length = control.tagSize)
  (hResolved : (readTag profile control tagBytes).1 ≠ unknownImplicitTag) (rest : Bytes) :
  readTag profile control (tagBytes ++ rest) = ((readTag profile control tagBytes).1, rest) := by
  have hDrop : (tagBytes ++ rest).drop control.tagSize = rest := drop_left' hLength
  cases control with
  | anonymous =>
    obtain rfl : tagBytes = [] := length_eq_zero_iff.mp hLength
    rfl
  | implicitProfile2Bytes =>
    have hTake : (tagBytes ++ rest).take 2 = tagBytes.take 2 := take_append_of_le_length hLength.ge
    rw [readTag] at hResolved ⊢
    split_ifs at hResolved ⊢ with hProfile
    · exact absurd rfl hResolved
    · simp only [readTag, if_neg hProfile, hTake]
      exact Prod.ext rfl hDrop
  | implicitProfile4Bytes =>
    have hTake : (tagBytes ++ rest).take 4 = tagBytes.take 4 := take_append_of_le_length hLength.ge
    rw [readTag] at hResolved ⊢
    split_ifs at hResolved ⊢ with hProfile
    · exact absurd rfl hResolved
    · simp only [readTag, if_neg hProfile, hTake]
      exact Prod.ext rfl hDrop
  | fullyQualified6Bytes =>
    have hLength : tagBytes.length = 6 := hLength
    have hTake : (tagBytes ++ rest).take 2 = tagBytes.take 2 := take_append_of_le_length (by omega)
    have hTake₂ : ((tagBytes ++ rest).drop 2).take 2 = (tagBytes.drop 2).take 2 := by
      rw [drop_append_of_le_length (by omega), take_append_of_le_length (by rw [length_drop]; omega)]
    have hTake₄ : ((tagBytes ++ rest).drop 4).take 2 = (tagBytes.drop 4).take 2 := by
      rw [drop_append_of_le_length (by omega), take_append_of_le_length (by rw [length_drop]; omega)]
    simp only [readTag, hTake, hTake₂, hTake₄]
    exact Prod.ext rfl hDrop
  | fullyQualified8Bytes =>
    have hLength : tagBytes.length = 8 := hLength
    have hTake : (tagBytes ++ rest).take 2 = tagBytes.take 2 := take_append_of_le_length (by omega)
    have hTake₂ : ((tagBytes ++ rest).drop 2).take 2 = (tagBytes.drop 2).take 2 := by
      rw [drop_append_of_le_length (by omega), take_append_of_le_length (by rw [length_drop]; omega)]
    have hTake₄ : ((tagBytes ++ rest).drop 4).take 4 = (tagBytes.drop 4).take 4 := by
      rw [drop_append_of_le_length (by omega), take_append_of_le_length (by rw [length_drop]; omega)]
    simp only [readTag, hTake, hTake₂, hTake₄]
    exact Prod.ext rfl hDrop
  | contextSpecific =>
    have hTake : (tagBytes ++ rest).take 1 = tagBytes.take 1 := take_append_of_le_length hLength.ge
    simp only [readTag, hTake]
    exact Prod.ext rfl hDrop
  | commonProfile2Bytes =>
    have hTake : (tagBytes ++ rest).take 2 = tagBytes.take 2 := take_append_of_le_length hLength.ge
    simp only [readTag, hTake]
    exact Prod.ext rfl hDrop
  | commonProfile4Bytes =>
    have hTake : (tagBytes ++ rest).take 4 = tagBytes.take 4 := take_append_of_le_length hLength.ge
    simp only [readTag, hTake]
    exact Prod.ext rfl hDrop

section Reading

variable {profile : BitVec 32} {context : TLVType} {limit : Nat} {head : ElementHead} {rest : Bytes} {r : TLVReader}

section

variable (hHead : head.Accepted profile context)
include hHead

theorem readElement_accepted
  (hData : head.elemType.hasLength = true → value head.field ≤ rest.length)
  (h : Reads context profile limit (head.bytes ++ rest) r) :
  ∃ r', readElement r = (.ok (), r') ∧ Reads context profile limit rest r' ∧
    r'.elementType = head.elemType ∧ r'.mElemTag = head.tag profile ∧
    r'.mElemLenOrVal = value head.field := by
  have hField : value head.field < 256 ^ head.elemType.fieldSize.bytes :=
    hHead.field ▸ value_lt head.field
  have hEncode : encode head.elemType.fieldSize.bytes (value head.field) = head.field := by
    rw [← hHead.field, encode_value]
  have hMod := Nat.mod_eq_of_lt hField
  have hBytes : head.bytes = controlByte head.control head.elemType :: head.tagBytes ++
      encode head.elemType.fieldSize.bytes (value head.field) := by
    rw [hEncode, ElementHead.bytes]
  rw [hBytes] at h
  obtain ⟨r', hElement, hReads, hType, hElemTag, hValue⟩ := readElement_decode hHead.named hHead.valid
    hHead.tagBytes (readTag_append hHead.tagBytes hHead.resolved) (fun hHas => hMod.symm ▸ hHead.length hHas) h
  rw [hMod] at hValue
  have hElemTag : r'.mElemTag = head.tag profile := hElemTag
  refine ⟨r', ?_, hReads, hType, hElemTag, hValue⟩
  have hUnderrun : head.elemType.hasLength = true →
      r'.mElemLenOrVal % 2 ^ 32 ≤ sub32 r'.mMaxLen r'.mLenRead := by
    intro hHas
    have hLess := hData hHas
    have hLength := hReads.length
    have hBound := hReads.bound
    rw [hReads.maxLen, sub32_of_le hBound (by omega), hValue, Nat.mod_eq_of_lt (hHead.length hHas)]
    omega
  rw [hElement]
  simp only [verifyElement, Proc.read_bind, hType, if_neg hHead.notEnd, hElemTag, hReads.context, Proc.verify_bind,
    if_pos hHead.resolved, hHead.admitted]
  by_cases hHas : head.elemType.hasLength = true
  · simp only [hHas, if_true, Proc.verify_apply]
    exact if_pos (hUnderrun hHas)
  · simp [hHas]

theorem ElementHead.Accepted.container (hContainer : head.elemType.isContainer = true) :
  head.elemType.toTLVType.isContainer = true ∧ head.elemType.toTLVType.toElementType = head.elemType ∧
    head.elemType.toTLVType ≠ .notSpecified ∧ head.elemType.hasLength = false ∧ head.field = [] := by
  have hField := hHead.field
  cases hType : head.elemType with
  | struct | array | list =>
    rw [hType] at hField
    exact ⟨rfl, rfl, by decide, rfl, length_eq_zero_iff.mp hField⟩
  | _ =>
    rw [hType] at hContainer
    cases hContainer

theorem before_leaf {data : Bytes} (hNotContainer : head.elemType.isContainer = false)
  (hData : data.length = if head.elemType.hasLength then value head.field else 0)
  (hType : r.elementType = head.elemType) (hField : r.mElemLenOrVal = value head.field)
  {current : TLVType} (h : Reads current profile limit (data ++ rest) r) :
  Before current profile limit rest r := by
  refine ⟨hType ▸ hHead.notEnd, hType ▸ hNotContainer, data, h, fun hHas => ?_, fun hNone => ?_⟩
  · rw [hType] at hHas
    rw [hField, hData, if_pos hHas, Nat.mod_eq_of_lt (hHead.length hHas)]
  · rw [hType] at hNone
    rw [hNone] at hData
    exact length_eq_zero_iff.mp hData

end

end Reading

end Chip.TLV
