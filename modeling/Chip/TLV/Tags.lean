import Chip.TLV.Types

/-! TLV tags (`TLVTags.h`). A tag is one 64-bit word: the bitwise negated
profile id above the tag number. -/
namespace Chip.TLV

structure Tag where
  mVal : BitVec 64
  deriving DecidableEq

namespace Tag

def contextTagMaxNum : BitVec 32 := 0xFF

def anonymousTagNum : BitVec 32 := 0x100

def unknownImplicitTagNum : BitVec 32 := 0x101

def specialTagProfileId : BitVec 32 := 0xFFFFFFFF

end Tag

/-- `kProfileIdNotSpecified`: the same number as the special profile id. -/
def profileIdNotSpecified : BitVec 32 := 0xFFFFFFFF

def commonProfileId : BitVec 32 := 0

def profileTag (profileId tagNum : BitVec 32) : Tag :=
  ⟨((~~~profileId).setWidth 64 <<< 32) ||| tagNum.setWidth 64⟩

/-- The three-argument `ProfileTag`. -/
def vendorProfileTag (vendorId profileNum : BitVec 16) (tagNum : BitVec 32) : Tag :=
  profileTag ((vendorId.setWidth 32 <<< 16) ||| profileNum.setWidth 32) tagNum

def contextTag (tagNum : BitVec 8) : Tag :=
  profileTag Tag.specialTagProfileId (tagNum.setWidth 32)

def commonTag (tagNum : BitVec 32) : Tag := profileTag commonProfileId tagNum

def anonymousTag : Tag := profileTag Tag.specialTagProfileId Tag.anonymousTagNum

def unknownImplicitTag : Tag := profileTag Tag.specialTagProfileId Tag.unknownImplicitTagNum

def profileIdFromTag (tag : Tag) : BitVec 32 := ~~~((tag.mVal >>> 32).setWidth 32)

def tagNumFromTag (tag : Tag) : BitVec 32 := tag.mVal.setWidth 32

def isSpecialTag (tag : Tag) : Bool := profileIdFromTag tag = Tag.specialTagProfileId

def isContextTag (tag : Tag) : Bool :=
  profileIdFromTag tag = Tag.specialTagProfileId ∧ tagNumFromTag tag ≤ Tag.contextTagMaxNum

@[simp] theorem profileIdFromTag_profileTag (profileId tagNum : BitVec 32) :
  profileIdFromTag (profileTag profileId tagNum) = profileId := by
  ext i hi
  have hHigh : 32 + i < 64 := by omega
  have hLow : i < 64 := by omega
  simp [profileIdFromTag, profileTag, hi, hHigh, hLow]

@[simp] theorem tagNumFromTag_profileTag (profileId tagNum : BitVec 32) :
  tagNumFromTag (profileTag profileId tagNum) = tagNum := by
  ext i hi
  simp [tagNumFromTag, profileTag]

theorem profileTag_eta (tag : Tag) : profileTag (profileIdFromTag tag) (tagNumFromTag tag) = tag := by
  cases tag with
  | mk word =>
    simp only [profileTag, profileIdFromTag, tagNumFromTag, Tag.mk.injEq, BitVec.not_not]
    ext i hi
    by_cases h : i < 32
    · simp [h, BitVec.getLsbD_eq_getElem hi]
    · have hSub : i - 32 < 32 := by omega
      simp [h, hSub, show 32 + (i - 32) = i by omega,
        BitVec.getLsbD_eq_getElem hi]

theorem profileTag_injective {p q n m : BitVec 32} (h : profileTag p n = profileTag q m) :
  p = q ∧ n = m := by
  have hProfile := congrArg profileIdFromTag h
  have hNum := congrArg tagNumFromTag h
  simp only [profileIdFromTag_profileTag, tagNumFromTag_profileTag] at hProfile hNum
  exact ⟨hProfile, hNum⟩

theorem vendorProfileTag_halves (profileId tagNum : BitVec 32) :
  vendorProfileTag ((profileId >>> 16).setWidth 16) (profileId.setWidth 16) tagNum =
    profileTag profileId tagNum := by
  unfold vendorProfileTag
  congr 1
  ext i hi
  by_cases h : i < 16
  · simp [h, BitVec.getLsbD_eq_getElem hi]
  · simp [h, show i - 16 < 16 by omega, show 16 + (i - 16) = i by omega,
      BitVec.getLsbD_eq_getElem hi]

theorem isSpecialTag_profileTag (profileId tagNum : BitVec 32) :
  isSpecialTag (profileTag profileId tagNum) = decide (profileId = Tag.specialTagProfileId) := by
  simp [isSpecialTag]

end Chip.TLV
