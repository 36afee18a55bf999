import Chip.ASN1.Oid
import Chip.Core.Error

/-! Distinguished names of CHIP certificates (`ChipRDN` and `ChipDN` of
`CHIPCert.h`). -/
namespace Chip.Credentials

open ASN1

abbrev NodeId := UInt64
abbrev FabricId := UInt64

def isOperationalNodeId (nodeId : NodeId) : Bool :=
  nodeId ≠ 0 && nodeId ≤ 0xFFFFFFEFFFFFFFFF

def isValidFabricId (fabricId : FabricId) : Bool := fabricId ≠ 0

/-- The version half of a CASE authenticated tag may not be zero. -/
def isValidCASEAuthTag (cat : UInt32) : Bool := cat &&& 0xFFFF > 0

def isChip64bitDNAttr (oid : OID) : Bool :=
  oid = oidAttributeTypeMatterNodeId || oid = oidAttributeTypeMatterFirmwareSigningId ||
    oid = oidAttributeTypeMatterICACId || oid = oidAttributeTypeMatterRCACId ||
    oid = oidAttributeTypeMatterFabricId

def isChip32bitDNAttr (oid : OID) : Bool := oid = oidAttributeTypeMatterCASEAuthTag

def isChipDNAttr (oid : OID) : Bool := isChip64bitDNAttr oid || isChip32bitDNAttr oid

structure ChipRDN where
  mString : List UInt8
  mChipVal : UInt64
  mAttrOID : OID
  mAttrIsPrintableString : Bool

namespace ChipRDN

def isEmpty (rdn : ChipRDN) : Bool := rdn.mAttrOID = oidNotSpecified

def isEqual (rdn other : ChipRDN) : Bool :=
  if rdn.mAttrOID = oidUnknown || rdn.mAttrOID = oidNotSpecified ||
      rdn.mAttrOID ≠ other.mAttrOID ||
      rdn.mAttrIsPrintableString ≠ other.mAttrIsPrintableString then false
  else if isChipDNAttr rdn.mAttrOID then rdn.mChipVal = other.mChipVal
  else rdn.mString = other.mString

theorem isEqual_iff {r o : ChipRDN} :
  r.isEqual o ↔ r.mAttrOID ≠ oidUnknown ∧ r.mAttrOID ≠ oidNotSpecified ∧
    r.mAttrOID = o.mAttrOID ∧ r.mAttrIsPrintableString = o.mAttrIsPrintableString ∧
    if isChipDNAttr r.mAttrOID then r.mChipVal = o.mChipVal else r.mString = o.mString := by
  unfold isEqual
  by_cases hUnknown : r.mAttrOID = oidUnknown
  · simp [hUnknown]
  by_cases hNone : r.mAttrOID = oidNotSpecified
  · simp [hNone]
  by_cases hOID : r.mAttrOID = o.mAttrOID
  · by_cases hString : r.mAttrIsPrintableString = o.mAttrIsPrintableString
    · by_cases hChip : isChipDNAttr r.mAttrOID <;> simp_all
    · simp [hString]
  · simp [hOID]

theorem isEqual_symm {r o : ChipRDN} (h : r.isEqual o) : o.isEqual r := by
  rw [isEqual_iff] at h ⊢
  obtain ⟨hUnknown, hNone, hOID, hString, hValue⟩ := h
  rw [← hOID]
  refine ⟨hUnknown, hNone, rfl, hString.symm, ?_⟩
  by_cases hChip : isChipDNAttr r.mAttrOID
  · rw [if_pos hChip] at hValue ⊢
    exact hValue.symm
  · rw [if_neg hChip] at hValue ⊢
    exact hValue.symm

theorem isEqual_trans {r o p : ChipRDN} (h : r.isEqual o) (h' : o.isEqual p) : r.isEqual p := by
  rw [isEqual_iff] at h h' ⊢
  obtain ⟨hUnknown, hNone, hOID, hString, hValue⟩ := h
  obtain ⟨-, -, hOID', hString', hValue'⟩ := h'
  rw [← hOID] at hOID' hValue'
  refine ⟨hUnknown, hNone, hOID', hString.trans hString', ?_⟩
  by_cases hChip : isChipDNAttr r.mAttrOID
  · rw [if_pos hChip] at hValue hValue' ⊢
    exact hValue.trans hValue'
  · rw [if_neg hChip] at hValue hValue' ⊢
    exact hValue.trans hValue'

end ChipRDN

/-- `CHIP_CONFIG_CERT_MAX_RDN_ATTRIBUTES`. -/
def maxRDNAttributes : Nat := 5

/-- The attributes in use. The source keeps them in a fixed array that ends at its
first empty slot, so no attribute in use is empty and the array's size bounds them. -/
structure ChipDN where
  rdn : List ChipRDN
  rdnCount_le : rdn.length ≤ maxRDNAttributes
  inUse : ∀ r ∈ rdn, r.isEmpty = false

/-- `kCertType_*`. -/
inductive CertType where
  | notSpecified
  | root
  | ica
  | node
  | firmwareSigning
  deriving DecidableEq

namespace ChipDN

def empty : ChipDN := ⟨[], Nat.zero_le _, by simp⟩

def rdnCount (dn : ChipDN) : Nat := dn.rdn.length

def isEmpty (dn : ChipDN) : Bool := dn.rdnCount = 0

/-- `IsEqual`. The empty name equals nothing, not even itself. -/
def isEqual (dn other : ChipDN) : Bool :=
  dn.rdnCount > 0 && dn.rdnCount = other.rdnCount &&
    (dn.rdn.zip other.rdn).all fun (r, o) => r.isEqual o

variable {dn other : ChipDN}

theorem isEqual_iff :
  dn.isEqual other ↔
    dn.rdn ≠ [] ∧ List.Forall₂ (fun r o => r.isEqual o = true) dn.rdn other.rdn := by
  unfold isEqual rdnCount
  rw [List.forall₂_iff_zip]
  simp only [gt_iff_lt, List.length_pos_iff, Bool.and_eq_true, decide_eq_true_eq, List.all_eq_true,
    Prod.forall, ne_eq, and_assoc]

theorem isEqual_symm (h : dn.isEqual other) : other.isEqual dn := by
  rw [isEqual_iff] at h ⊢
  obtain ⟨hNonempty, hEqual⟩ := h
  refine ⟨?_, (hEqual.imp fun _ _ => ChipRDN.isEqual_symm).flip⟩
  intro hNil
  rw [hNil, List.forall₂_nil_right_iff] at hEqual
  exact hNonempty hEqual

theorem isEqual_trans {dn other third : ChipDN} (h : dn.isEqual other)
  (h' : other.isEqual third) : dn.isEqual third := by
  rw [isEqual_iff] at h h' ⊢
  refine ⟨h.1, ?_⟩
  have hTrans : ∀ {l₁ l₂ l₃ : List ChipRDN},
      List.Forall₂ (fun r o => r.isEqual o = true) l₁ l₂ →
      List.Forall₂ (fun r o => r.isEqual o = true) l₂ l₃ →
      List.Forall₂ (fun r o => r.isEqual o = true) l₁ l₃ := by
    intro l₁ l₂ l₃ h₁₂
    induction h₁₂ generalizing l₃ with
    | nil => exact id
    | cons hHead _ ih =>
      intro h₂₃
      cases h₂₃ with
      | cons hHead' hTail' => exact .cons (ChipRDN.isEqual_trans hHead hHead') (ih hTail')
  exact hTrans h.2 h'.2

theorem isEmpty_of_isEqual (h : dn.isEqual other) : dn.isEmpty = false := by
  have hNonempty := (isEqual_iff.mp h).1
  simpa [isEmpty, rdnCount] using hNonempty

/-- What the loop of `GetCertType` has found so far. -/
structure CertTypeScan where
  lCertType : CertType
  fabricIdPresent : Bool
  catsPresent : Bool

def setCertType (scan : CertTypeScan) (certType : CertType) : Except ChipError CertTypeScan :=
  if scan.lCertType = .notSpecified then .ok { scan with lCertType := certType }
  else .error .wrongCertDN

def certTypeStep (scan : CertTypeScan) (r : ChipRDN) : Except ChipError CertTypeScan :=
  if r.mAttrOID = oidAttributeTypeMatterRCACId then setCertType scan .root
  else if r.mAttrOID = oidAttributeTypeMatterICACId then setCertType scan .ica
  else if r.mAttrOID = oidAttributeTypeMatterNodeId then
    if scan.lCertType ≠ .notSpecified then .error .wrongCertDN
    else if isOperationalNodeId r.mChipVal then setCertType scan .node
    else .error .wrongNodeId
  else if r.mAttrOID = oidAttributeTypeMatterFirmwareSigningId then
    setCertType scan .firmwareSigning
  else if r.mAttrOID = oidAttributeTypeMatterFabricId then
    if scan.fabricIdPresent then .error .wrongCertDN
    else if isValidFabricId r.mChipVal then .ok { scan with fabricIdPresent := true }
    else .error .wrongCertDN
  else if r.mAttrOID = oidAttributeTypeMatterCASEAuthTag then
    if r.mChipVal ≤ 0xFFFFFFFF && isValidCASEAuthTag r.mChipVal.toUInt32 then
      .ok { scan with catsPresent := true }
    else .error .wrongCertDN
  else .ok scan

def getCertType (dn : ChipDN) : Except ChipError CertType := do
  let scan ← dn.rdn.foldlM certTypeStep ⟨.notSpecified, false, false⟩
  if scan.lCertType = .node then
    if scan.fabricIdPresent then .ok scan.lCertType else .error .wrongCertDN
  else if scan.catsPresent then .error .wrongCertDN
  else .ok scan.lCertType

end ChipDN

end Chip.Credentials
