import Chip.TLV.Elements

/-! Element heads. A tag that is legal in its container is written in a form from
which the parser recovers it, and the parser's own tag check accepts it. -/
namespace Chip.TLV

open LittleEndian List TLVTagControl

theorem tagNumFromTag_contextTag (n : BitVec 8) :
  (tagNumFromTag (contextTag n)).toNat = n.toNat := by
  simp only [contextTag, tagNumFromTag_profileTag, BitVec.toNat_setWidth]
  omega

theorem value_take_encode (width n : Nat) (rest : Bytes) :
  value ((encode width n ++ rest).take width) = n % 256 ^ width := by
  rw [take_left' (encode_length width n), value_encode]

theorem drop_encode (width n : Nat) (rest : Bytes) :
  (encode width n ++ rest).drop width = rest :=
  drop_left' (encode_length width n)

theorem readNum_encode {width : Nat} {n : BitVec 32} (rest : Bytes)
  (h : n.toNat < 256 ^ width) :
  BitVec.ofNat 32 (value ((encode width n.toNat ++ rest).take width)) =
    n := by
  rw [value_take_encode, Nat.mod_eq_of_lt h]
  simp

theorem readHalf_encode (n : BitVec 32) (rest : Bytes) :
  BitVec.ofNat 16 (value ((encode 2 n.toNat ++ rest).take 2)) =
    n.setWidth 16 := by
  rw [value_take_encode]
  apply BitVec.eq_of_toNat_eq
  simp only [BitVec.toNat_ofNat, BitVec.toNat_setWidth]
  omega

theorem fullyQualified_encode {width : Nat} (profileId : BitVec 32) {tagNum : BitVec 32} (rest : Bytes)
    (h : tagNum.toNat < 256 ^ width) :
    let p := encode 2 (profileId >>> 16).toNat ++ encode 2 profileId.toNat ++
      encode width tagNum.toNat ++ rest
    vendorProfileTag (BitVec.ofNat 16 (value (p.take 2)))
      (BitVec.ofNat 16 (value ((p.drop 2).take 2)))
      (BitVec.ofNat 32 (value ((p.drop 4).take width))) = profileTag profileId tagNum ∧
    p.drop (4 + width) = rest := by
  intro p
  have hFirst : p.drop 2 = encode 2 profileId.toNat ++
      (encode width tagNum.toNat ++ rest) := by
    simp only [p, append_assoc, drop_encode]
  have hSecond : p.drop 4 = encode width tagNum.toNat ++ rest := by
    rw [show 4 = 2 + 2 from rfl, ← drop_drop, hFirst, drop_encode]
  refine ⟨?_, ?_⟩
  · rw [hFirst, hSecond, readNum_encode rest h, readHalf_encode]
    simp only [p, append_assoc, readHalf_encode]
    exact vendorProfileTag_halves profileId tagNum
  · rw [← drop_drop, hSecond, drop_encode]

variable {tag : Tag} {context : TLVType}

theorem isSpecialTag_of_isProfile (h : tag.IsProfile) : isSpecialTag tag = false := by
  simpa [isSpecialTag, Tag.IsProfile] using h

/-- The encoder accepts the tag here and the parser recovers it. -/
def TagRoundTrips (context : TLVType) (profile : BitVec 32) (elemType : TLVElementType)
  (tag : Tag) : Prop :=
  ∃ control bytes, encodeTag context profile elemType tag = .ok (control, bytes) ∧
    bytes.length = control.tagSize ∧
    ∀ rest, readTag profile control (bytes ++ rest) = (tag, rest)

theorem anonymousTag_roundTrips (profile : BitVec 32) (elemType : TLVElementType)
  (h : elemType = .endOfContainer ∨ context = .notSpecified ∨ context = .array ∨ context = .list) :
  TagRoundTrips context profile elemType anonymousTag := by
  have hSpecial : isSpecialTag anonymousTag = true := by decide
  have hNum : ¬ (tagNumFromTag anonymousTag).toNat ≤ Tag.contextTagMaxNum.toNat := by decide
  refine ⟨.anonymous, [], ?_, rfl, fun rest => rfl⟩
  simp only [encodeTag, hSpecial, if_true, hNum, if_false]
  rw [if_neg]
  rintro ⟨hType, hTop, hArray, hList⟩
  tauto

theorem contextTag_special (tagNum : BitVec 8) : isSpecialTag (contextTag tagNum) = true ∧
  (tagNumFromTag (contextTag tagNum)).toNat ≤ Tag.contextTagMaxNum.toNat := by
  refine ⟨by simp [contextTag, isSpecialTag_profileTag], ?_⟩
  rw [tagNumFromTag_contextTag]
  have hLt := tagNum.isLt
  simp only [Tag.contextTagMaxNum, BitVec.ofNat_eq_ofNat, BitVec.toNat_ofNat]
  omega

theorem contextTag_roundTrips (profile : BitVec 32) (elemType : TLVElementType) (tagNum : BitVec 8)
  (h : context = .struct ∨ context = .list) :
  TagRoundTrips context profile elemType (contextTag tagNum) := by
  obtain ⟨hSpecial, hNum⟩ := contextTag_special tagNum
  refine ⟨.contextSpecific, encode 1 tagNum.toNat, ?_, by simp [tagSize], ?_⟩
  · simp only [encodeTag, hSpecial, if_true, hNum]
    rw [if_neg (by tauto), tagNumFromTag_contextTag]
  · intro rest
    simp only [readTag, value_take_encode, drop_encode]
    rw [Nat.mod_eq_of_lt (by have := tagNum.isLt; omega)]
    simp

theorem profileTag_roundTrips (profile : BitVec 32) (elemType : TLVElementType) (hProfile : tag.IsProfile)
  (h : context = .notSpecified ∨ context = .struct ∨ context = .list) :
  TagRoundTrips context profile elemType tag := by
  have hLong : (tagNumFromTag tag).toNat < 256 ^ 4 := (tagNumFromTag tag).isLt
  have hContext : ¬ (context ≠ .notSpecified ∧ context ≠ .struct ∧ context ≠ .list) := by tauto
  unfold TagRoundTrips
  simp only [encodeTag, isSpecialTag_of_isProfile hProfile, Bool.false_eq_true, if_false,
    if_neg hContext]
  have hEta := profileTag_eta tag
  by_cases hCommon : profileIdFromTag tag = commonProfileId
  · simp only [hCommon, if_true]
    rw [hCommon] at hEta
    by_cases hShort : (tagNumFromTag tag).toNat < 65536
    · refine ⟨_, _, if_pos hShort, by simp [tagSize], fun rest => ?_⟩
      simp only [readTag, drop_encode, readNum_encode rest (show _ < 256 ^ 2 from hShort),
        commonTag, hEta]
    · refine ⟨_, _, if_neg hShort, by simp [tagSize], fun rest => ?_⟩
      simp only [readTag, drop_encode, readNum_encode rest hLong, commonTag, hEta]
  by_cases hImplicit : profileIdFromTag tag = profile
  · have hKnown : profile ≠ profileIdNotSpecified := hImplicit ▸ hProfile
    simp only [if_neg hCommon, if_pos hImplicit]
    rw [hImplicit] at hEta
    by_cases hShort : (tagNumFromTag tag).toNat < 65536
    · refine ⟨_, _, if_pos hShort, by simp [tagSize], fun rest => ?_⟩
      simp only [readTag, if_neg hKnown, drop_encode,
        readNum_encode rest (show _ < 256 ^ 2 from hShort), hEta]
    · refine ⟨_, _, if_neg hShort, by simp [tagSize], fun rest => ?_⟩
      simp only [readTag, if_neg hKnown, drop_encode, readNum_encode rest hLong, hEta]
  · simp only [if_neg hCommon, if_neg hImplicit]
    by_cases hShort : (tagNumFromTag tag).toNat < 65536
    · refine ⟨_, _, if_pos hShort, by simp [tagSize], fun rest => ?_⟩
      obtain ⟨hTag, hRest⟩ := fullyQualified_encode (profileIdFromTag tag) rest
        (show _ < 256 ^ 2 from hShort)
      exact Prod.ext (hTag.trans hEta) hRest
    · refine ⟨_, _, if_neg hShort, by simp [tagSize], fun rest => ?_⟩
      obtain ⟨hTag, hRest⟩ := fullyQualified_encode (profileIdFromTag tag) rest hLong
      exact Prod.ext (hTag.trans hEta) hRest

theorem Tag.LegalIn.roundTrips (h : tag.LegalIn context) (profile : BitVec 32) (elemType : TLVElementType) :
  TagRoundTrips context profile elemType tag := by
  cases context <;> simp only [Tag.LegalIn] at h
  case notSpecified =>
    rcases h with hAnonymous | hProfile
    · rw [show tag = anonymousTag from hAnonymous]
      exact anonymousTag_roundTrips profile elemType (by simp)
    · exact profileTag_roundTrips profile elemType hProfile (by simp)
  case struct =>
    rcases h with ⟨tagNum, rfl⟩ | hProfile
    · exact contextTag_roundTrips profile elemType tagNum (by simp)
    · exact profileTag_roundTrips profile elemType hProfile (by simp)
  case array =>
    rw [show tag = anonymousTag from h]
    exact anonymousTag_roundTrips profile elemType (by simp)
  case list =>
    rcases h with hAnonymous | ⟨tagNum, rfl⟩ | hProfile
    · rw [show tag = anonymousTag from hAnonymous]
      exact anonymousTag_roundTrips profile elemType (by simp)
    · exact contextTag_roundTrips profile elemType tagNum (by simp)
    · exact profileTag_roundTrips profile elemType hProfile (by simp)

theorem Tag.LegalIn.verify (h : tag.LegalIn context) :
  verifyTagInContainer context tag = .ok () := by
  have hProfileNe (other : BitVec 32) (hProfile : tag.IsProfile) :
      tag ≠ profileTag Tag.specialTagProfileId other := by
    rintro rfl
    simp [Tag.IsProfile] at hProfile
  have hContextNe (tagNum : BitVec 8) : contextTag tagNum ≠ anonymousTag := by
    intro hEq
    have hNum := (profileTag_injective hEq).2
    have hVal := congrArg BitVec.toNat hNum
    have hLt := tagNum.isLt
    simp [Tag.anonymousTagNum] at hVal
    omega
  cases context <;> simp only [Tag.LegalIn] at h
  case notSpecified =>
    rcases h with hAnonymous | hProfile
    · rw [show tag = anonymousTag from hAnonymous]
      decide
    · have hContext : isContextTag tag = false := by
        simp [isContextTag, show profileIdFromTag tag ≠ Tag.specialTagProfileId from hProfile]
      simp [verifyTagInContainer, hContext]
  case struct =>
    rcases h with ⟨tagNum, rfl⟩ | hProfile
    · simp [verifyTagInContainer, hContextNe tagNum]
    · simp [verifyTagInContainer, show tag ≠ anonymousTag from hProfileNe _ hProfile]
  case array => simp [verifyTagInContainer, show tag = anonymousTag from h]
  case list => rfl

theorem Tag.LegalIn.ne_unknownImplicitTag (h : tag.LegalIn context) :
  tag ≠ unknownImplicitTag := by
  have hForms : tag.IsAnonymous ∨ tag.IsContext ∨ tag.IsProfile := by
    cases context <;> simp only [Tag.LegalIn] at h <;> tauto
  rintro rfl
  rcases hForms with hAnonymous | ⟨tagNum, hContext⟩ | hProfile
  · exact absurd (show unknownImplicitTag = anonymousTag from hAnonymous) (by decide)
  · have hVal := congrArg BitVec.toNat (profileTag_injective hContext).2
    have hLt := tagNum.isLt
    simp [Tag.unknownImplicitTagNum] at hVal
    omega
  · exact absurd hProfile (by simp [Tag.IsProfile, unknownImplicitTag])

theorem elementHead_legal {elemType : TLVElementType} (profile : BitVec 32)
  (hTag : TagRoundTrips context profile elemType tag) (lenOrVal : Nat) :
  ∃ control tagBytes,
    elementHead context profile elemType tag lenOrVal = .ok (controlByte control elemType ::
      tagBytes ++ encode elemType.fieldSize.bytes lenOrVal) ∧
    tagBytes.length = control.tagSize ∧
    ∀ rest, readTag profile control (tagBytes ++ rest) = (tag, rest) := by
  obtain ⟨control, tagBytes, hEncode, hLength, hRead⟩ := hTag
  exact ⟨control, tagBytes, by simp [elementHead, hEncode], hLength, hRead⟩

theorem elementHead_length {profile : BitVec 32} {elemType : TLVElementType} {lenOrVal : Nat}
  {head : Bytes} (h : elementHead context profile elemType tag lenOrVal = .ok head) :
  1 ≤ head.length ∧ head.length ≤ stagingBufSize := by
  have hTagBytes : ∀ control bytes, encodeTag context profile elemType tag = .ok (control, bytes) →
      bytes.length ≤ 8 := by
    intro control bytes hEncode
    simp only [encodeTag] at hEncode
    split_ifs at hEncode <;> cases hEncode <;> simp
  have hField := elemType.fieldSize.bytes_le
  unfold elementHead at h
  cases hEncode : encodeTag context profile elemType tag with
  | error e => simp [hEncode] at h
  | ok result =>
    obtain ⟨control, bytes⟩ := result
    have hBytes := hTagBytes control bytes hEncode
    simp only [hEncode, Except.ok.injEq] at h
    subst h
    simp only [stagingBufSize, cons_append, length_cons, length_append,
      encode_length]
    omega

end Chip.TLV
