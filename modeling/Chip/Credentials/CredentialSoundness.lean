import Chip.Credentials.ChainOfTrust

/-! Which certificate `VerifyCredentials` vouches for. The search stops at the first
certificate with the name and key id it looks for, and the peer chooses both for the
certificates it sends. -/
namespace Chip.Credentials

open ChipCertificateSet List ASN1

variable {S : CertServices}

theorem decodeCert_eq_ok {chipCert : List UInt8} {decodeFlags : CertDecodeFlags}
  {cert : ChipCertificateData} (h : decodeCert S chipCert decodeFlags = .ok cert) :
  cert.isTrustAnchor = decodeFlags.isTrustAnchor := by
  unfold decodeCert at h
  cases hDecode : S.decodeConvertTBSCert chipCert decodeFlags.generateTBSHash with
  | error e =>
    rw [hDecode] at h
    cases h
  | ok decoded =>
    rw [hDecode] at h
    simp only [bind, Except.bind] at h
    split at h
    · cases h
    · split at h
      · cases h
      · cases hSignature : S.decodeECDSASignature chipCert with
        | error e =>
          rw [hSignature] at h
          cases h
        | ok signature =>
          rw [hSignature] at h
          cases h
          rfl

theorem loadCert_eq_ok {set set' : ChipCertificateSet} {chipCert : List UInt8}
  {decodeFlags : CertDecodeFlags} (h : set.loadCert S chipCert decodeFlags = .ok set') :
  ∃ cert, decodeCert S chipCert decodeFlags = .ok cert ∧
    (set' = set ∧ (∃ c ∈ set.mCerts, cert.isEqual c) ∨ set'.mCerts = set.mCerts ++ [cert]) := by
  unfold loadCert at h
  cases hDecode : decodeCert S chipCert decodeFlags with
  | error e =>
    rw [hDecode] at h
    cases h
  | ok cert =>
    rw [hDecode] at h
    refine ⟨cert, rfl, ?_⟩
    simp only [bind, Except.bind] at h
    split at h
    · rename_i hAny
      cases h
      exact .inl ⟨rfl, any_eq_true.mp hAny⟩
    · split at h
      · cases h
        exact .inr rfl
      · cases h

variable {cert other : ChipCertificateData} {found : Nat × ChipCertificateData}

theorem isTrustAnchor_of_isEqual (h : cert.isEqual other) :
  cert.isTrustAnchor = other.isTrustAnchor := by
  simp only [ChipCertificateData.isEqual, Bool.and_eq_true, decide_eq_true_eq] at h
  tauto

/-- A set that was loaded for a verification: the root, which alone is trusted, then
what the peer sent. The certificate loaded last is the one decoded from `noc`, or
equals it. -/
structure OpCreds (S : CertServices) (noc rcac : List UInt8) (set : ChipCertificateSet)
    (rcacCert nocCert last : ChipCertificateData) (earlier : List ChipCertificateData) : Prop where
  decodeRcac : decodeCert S rcac ⟨false, true⟩ = .ok rcacCert
  decodeNoc : decodeCert S noc ⟨true, false⟩ = .ok nocCert
  certs : set.mCerts = (rcacCert :: earlier) ++ [last]
  sent : ∀ c ∈ earlier ++ [last], c.isTrustAnchor = false
  noc : nocCert = last ∨ nocCert.isEqual last

theorem loadNoc_opCreds {noc rcac : List UInt8} {set set' : ChipCertificateSet}
  {rcacCert : ChipCertificateData} {earlier : List ChipCertificateData}
  (hRcac : decodeCert S rcac ⟨false, true⟩ = .ok rcacCert)
  (hCerts : set.mCerts = rcacCert :: earlier) (hCount : earlier.length ≤ 1)
  (hSent : ∀ c ∈ earlier, c.isTrustAnchor = false)
  (h : set.loadCert S noc ⟨true, false⟩ = .ok set') :
  ∃ nocCert last before, OpCreds S noc rcac set' rcacCert nocCert last before := by
  obtain ⟨nocCert, hNoc, ⟨rfl, c, hMem, hEqual⟩ | hAppend⟩ := loadCert_eq_ok h
  · have hUntrusted : c.isTrustAnchor = false := by
      rw [← isTrustAnchor_of_isEqual hEqual]
      exact decodeCert_eq_ok hNoc
    rw [hCerts] at hMem
    rcases mem_cons.mp hMem with rfl | hMem
    · have hTrusted : c.isTrustAnchor = true := decodeCert_eq_ok hRcac
      rw [hTrusted] at hUntrusted
      cases hUntrusted
    · have hEarlier : earlier = [c] := by
        cases earlier with
        | nil => cases hMem
        | cons first rest =>
          have hRest : rest = [] := length_eq_zero_iff.mp (by simpa using hCount)
          subst hRest
          rw [mem_singleton.mp hMem]
      refine ⟨nocCert, c, [], hRcac, hNoc, by rw [hCerts, hEarlier]; rfl, ?_, .inr hEqual⟩
      rw [← hEarlier]
      exact hSent
  · refine ⟨nocCert, nocCert, earlier, hRcac, hNoc, by rw [hAppend, hCerts], ?_, .inl rfl⟩
    intro c hMem
    rcases mem_append.mp hMem with hOld | hNew
    · exact hSent c hOld
    · rw [mem_singleton.mp hNew]
      exact decodeCert_eq_ok hNoc

theorem loadOpCreds_eq_ok {noc icac rcac : List UInt8} {set : ChipCertificateSet}
  (h : loadOpCreds S noc icac rcac = .ok set) :
  ∃ rcacCert nocCert last earlier, OpCreds S noc rcac set rcacCert nocCert last earlier := by
  unfold loadOpCreds at h
  simp only [init, maxNumCertsInOpCreds, bind, Except.bind] at h
  cases hRoot : loadCert S ⟨[], 3, Nat.zero_le _⟩ rcac ⟨false, true⟩ with
  | error e => simp [hRoot] at h
  | ok rootSet =>
    obtain ⟨rcacCert, hRcac, ⟨-, c, hMem, -⟩ | hCerts⟩ := loadCert_eq_ok hRoot
    · cases hMem
    · simp only [gt_iff_lt, Nat.zero_lt_succ, ↓reduceIte, hRoot] at h
      by_cases hIcac : icac = []
      · simp only [hIcac, ne_eq, not_true_eq_false, ↓reduceIte] at h
        exact ⟨rcacCert, loadNoc_opCreds hRcac hCerts (by simp) (by simp) h⟩
      · simp only [hIcac, ne_eq, not_false_eq_true, ↓reduceIte] at h
        cases hSecond : rootSet.loadCert S icac ⟨true, false⟩ with
        | error e => simp [hSecond] at h
        | ok both =>
          rw [hSecond] at h
          obtain ⟨icacCert, hDecode, ⟨rfl, c, hMem, hEqual⟩ | hBoth⟩ := loadCert_eq_ok hSecond
          · exact ⟨rcacCert, loadNoc_opCreds hRcac hCerts (by simp) (by simp) h⟩
          · rw [hCerts] at hBoth
            refine ⟨rcacCert, loadNoc_opCreds hRcac hBoth (by simp) ?_ h⟩
            intro c hMem
            rw [mem_singleton.mp hMem]
            exact decodeCert_eq_ok hDecode

theorem lastChipVal_of_isEqual {dn other : ChipDN} (h : dn.isEqual other) {oid : OID}
  (hChip : isChipDNAttr oid) : dn.lastChipVal oid = other.lastChipVal oid := by
  have hEqual := (ChipDN.isEqual_iff.mp h).2
  have hFold : ∀ {rs os : List ChipRDN} (found : Option UInt64),
      List.Forall₂ (fun r o => r.isEqual o = true) rs os →
      rs.foldl (fun found r => if r.mAttrOID = oid then some r.mChipVal else found) found =
        os.foldl (fun found r => if r.mAttrOID = oid then some r.mChipVal else found) found := by
    intro rs os found hAll
    induction hAll generalizing found with
    | nil => rfl
    | @cons r o rs os hHead _ ih =>
      obtain ⟨-, -, hOID, -, hValue⟩ := ChipRDN.isEqual_iff.mp hHead
      rw [foldl_cons, foldl_cons, ← hOID]
      by_cases hThis : r.mAttrOID = oid
      · rw [hThis, if_pos hChip] at hValue
        rw [if_pos hThis, if_pos hThis, hValue]
        exact ih _
      · rw [if_neg hThis, if_neg hThis]
        exact ih _
  exact hFold none hEqual

theorem extractNodeIdFabricId_of_isEqual (h : cert.isEqual other) :
  extractNodeIdFabricIdFromOpCert cert = extractNodeIdFabricIdFromOpCert other := by
  simp only [ChipCertificateData.isEqual, Bool.and_eq_true, decide_eq_true_eq] at h
  have hName : cert.mSubjectDN.isEqual other.mSubjectDN := by tauto
  unfold extractNodeIdFabricIdFromOpCert
  rw [lastChipVal_of_isEqual hName (by decide), lastChipVal_of_isEqual hName (by decide)]

theorem verifyCredentials_eq_ok {noc icac rcac : List UInt8} {context : ValidationContext}
  {out : VerifiedCredentials} (h : verifyCredentials S noc icac rcac context = .ok out) :
  ∃ certificates found, loadOpCreds S noc icac rcac = .ok certificates ∧
    findOpCert S certificates context = .ok found ∧
    extractNodeIdFabricIdFromOpCert certificates.getLastCert =
      .ok (out.outNodeId, out.outFabricId) ∧
    out.outNocPubkey = certificates.getLastCert.mPublicKey := by
  unfold verifyCredentials at h
  simp only [bind, Except.bind] at h
  split at h
  · cases h
  rename_i certificates hLoad
  split at h
  · cases h
  rename_i found hFind
  split at h
  · cases h
  rename_i ids hIds
  refine ⟨certificates, found, hLoad, hFind, ?_⟩
  have hOut : out.outNodeId = ids.1 ∧ out.outFabricId = ids.2 ∧
      out.outNocPubkey = certificates.getLastCert.mPublicKey := by
    repeat' split at h
    all_goals cases h
    all_goals exact ⟨rfl, rfl, rfl⟩
  obtain ⟨hNode, hFabric, hKey⟩ := hOut
  exact ⟨by rw [hIds, hNode, hFabric], hKey⟩

/-- `VerifyCredentials` validated the certificate decoded from `noc`: the ids and the
key it returned are those of that certificate, its search ended there, and a chain of
issuers in the set joins it to the root. -/
def NocValidated (S : CertServices) (noc icac rcac : List UInt8) (context : ValidationContext)
  (out : VerifiedCredentials) : Prop :=
  ∃ certificates rcacCert nocCert,
    loadOpCreds S noc icac rcac = .ok certificates ∧
    decodeCert S rcac ⟨false, true⟩ = .ok rcacCert ∧
    decodeCert S noc ⟨true, false⟩ = .ok nocCert ∧
    out.outNocPubkey = nocCert.mPublicKey ∧
    extractNodeIdFabricIdFromOpCert nocCert = .ok (out.outNodeId, out.outFabricId) ∧
    findOpCert S certificates context =
      .ok (certificates.mCerts.length - 1, certificates.getLastCert) ∧
    Linked S certificates nocCert rcacCert

/-- A certificate loaded before the one of `noc` has its name and key id, and
`ValidateCert` accepts it. -/
def nocShadowed (S : CertServices) (noc icac rcac : List UInt8) (context : ValidationContext) :
  Bool :=
  match loadOpCreds S noc icac rcac with
  | .error _ => false
  | .ok certificates =>
    certificates.mCerts.dropLast.any fun cert =>
      matchesCriteria certificates.getLastCert.mSubjectDN
        certificates.getLastCert.mSubjectKeyId cert &&
      (certificates.validateCert S context cert).1.isOk

theorem findOpCert_first {certificates : ChipCertificateSet} {context : ValidationContext}
  (h : findOpCert S certificates context = .ok found) :
  ∃ before after, certificates.mCerts = before ++ found.2 :: after ∧ found.1 = before.length ∧
    matchesCriteria certificates.getLastCert.mSubjectDN
      certificates.getLastCert.mSubjectKeyId found.2 ∧
    (certificates.validateCert S context found.2).1 = .ok () ∧
    ∀ cert ∈ before, matchesCriteria certificates.getLastCert.mSubjectDN
      certificates.getLastCert.mSubjectKeyId cert →
      (certificates.validateCert S context cert).1 ≠ .ok () := by
  have hFree := fun cert =>
    validateCertAt_stateFree (S := S) certificates context certificates.fuel cert 0
  exact (findValidCertAt_first hFree (Prod.ext h rfl)).2

variable {noc icac rcac : List UInt8} {context : ValidationContext} {certificates : ChipCertificateSet}
  {rcacCert nocCert last : ChipCertificateData} {earlier : List ChipCertificateData}

section

variable (h : OpCreds S noc rcac certificates rcacCert nocCert last earlier)
include h

theorem OpCreds.getLastCert_eq : certificates.getLastCert = last := by
  unfold getLastCert
  rw [h.certs, getLastD_concat]

theorem OpCreds.eq_rcac {anchor : ChipCertificateData} (hMem : anchor ∈ certificates.mCerts)
  (hAnchor : anchor.isTrustAnchor) : anchor = rcacCert := by
  rw [h.certs, cons_append] at hMem
  rcases mem_cons.mp hMem with hRoot | hSent
  · exact hRoot
  · rw [h.sent anchor hSent] at hAnchor
    cases hAnchor

theorem OpCreds.linked (hValid : (certificates.validateCert S context last).1 = .ok ()) :
  Linked S certificates nocCert rcacCert := by
  have hLast : last.isTrustAnchor = false := h.sent last (by simp)
  have hRun : certificates.validateCertAt S context certificates.fuel last 0 none =
      (.ok (), (certificates.validateCert S context last).2) := Prod.ext hValid rfl
  rcases validateCertAt_linked hRun with hTrusted | ⟨anchor, hMem, hAnchor, hLinked⟩
  · rw [hLast] at hTrusted
    cases hTrusted
  · rw [h.eq_rcac hMem hAnchor] at hLinked
    rcases h.noc with rfl | hEqual
    · exact hLinked
    · exact hLinked.of_isEqual hEqual

theorem OpCreds.found_last_iff (hFind : findOpCert S certificates context = .ok found) :
  found = (certificates.mCerts.length - 1, last) ↔
    ∀ cert ∈ certificates.mCerts.dropLast, matchesCriteria last.mSubjectDN last.mSubjectKeyId cert →
      (certificates.validateCert S context cert).1 ≠ .ok () := by
  obtain ⟨before, after, hSplit, hIndex, hMatch, hValid, hBefore⟩ := findOpCert_first hFind
  rw [h.getLastCert_eq] at hMatch hBefore
  have hCount : certificates.mCerts.length = before.length + (after.length + 1) := by
    rw [hSplit, length_append, length_cons]
  constructor
  · intro hFound
    have hAfter : after = [] := by
      rw [hFound] at hIndex
      exact length_eq_zero_iff.mp (by omega)
    intro cert hMem
    rw [hSplit, hAfter, dropLast_concat] at hMem
    exact hBefore cert hMem
  · intro hNone
    rcases eq_nil_or_concat after with rfl | ⟨rest, tail, rfl⟩
    · have hLast : found.2 = last := by
        have hSame := h.certs.symm.trans hSplit
        exact (append_inj' hSame rfl).2 |> head_eq_of_cons_eq |>.symm
      refine Prod.ext ?_ hLast
      rw [hIndex, hCount]
      rfl
    · have hMem : found.2 ∈ certificates.mCerts.dropLast := by
        rw [hSplit, concat_eq_append, ← cons_append, ← append_assoc,
          dropLast_concat]
        exact mem_append_right before mem_cons_self
      exact absurd hValid (hNone found.2 hMem hMatch)

theorem nocShadowed_eq_false_iff (hLoad : loadOpCreds S noc icac rcac = .ok certificates) :
  nocShadowed S noc icac rcac context = false ↔
    ∀ cert ∈ certificates.mCerts.dropLast, matchesCriteria last.mSubjectDN last.mSubjectKeyId cert →
      (certificates.validateCert S context cert).1 ≠ .ok () := by
  unfold nocShadowed
  rw [hLoad]
  simp only [h.getLastCert_eq, any_eq_false, Bool.and_eq_true, not_and]
  refine forall₃_congr fun cert _ _ => ?_
  cases (certificates.validateCert S context cert).1 with
  | ok u => simp [Except.isOk, Except.toBool]
  | error e => simp [Except.isOk, Except.toBool]

end

/-- Whenever `VerifyCredentials` succeeds, the certificate of `noc` was validated and is
linked to the root exactly if no valid certificate loaded before it has its name and
key id. -/
theorem verifyCredentials_validates_iff (S : CertServices) (noc icac rcac : List UInt8)
    (context : ValidationContext) (out : VerifiedCredentials)
    (h : verifyCredentials S noc icac rcac context = .ok out) :
    NocValidated S noc icac rcac context out ↔ nocShadowed S noc icac rcac context = false := by
  obtain ⟨certificates, found, hLoad, hFind, hIds, hKey⟩ := verifyCredentials_eq_ok h
  obtain ⟨rcacCert, nocCert, last, earlier, hCreds⟩ := loadOpCreds_eq_ok hLoad
  rw [nocShadowed_eq_false_iff hCreds hLoad, ← hCreds.found_last_iff hFind]
  rw [hCreds.getLastCert_eq] at hIds hKey
  constructor
  · rintro ⟨certificates', rcacCert', nocCert', hLoad', -, -, -, -, hFind', -⟩
    rw [hLoad] at hLoad'
    cases hLoad'
    rw [hFind, hCreds.getLastCert_eq] at hFind'
    cases hFind'
    rfl
  · intro hFound
    have hValid : (certificates.validateCert S context last).1 = .ok () := by
      obtain ⟨before, after, -, -, -, hValid, -⟩ := findOpCert_first hFind
      rwa [hFound] at hValid
    refine ⟨certificates, rcacCert, nocCert, hLoad, hCreds.decodeRcac, hCreds.decodeNoc, ?_, ?_, ?_,
      hCreds.linked hValid⟩
    · rcases hCreds.noc with rfl | hEqual
      · exact hKey
      · simp only [ChipCertificateData.isEqual, Bool.and_eq_true, decide_eq_true_eq] at hEqual
        have hSame : nocCert.mPublicKey = last.mPublicKey := by tauto
        rw [hKey, hSame]
    · rcases hCreds.noc with rfl | hEqual
      · exact hIds
      · rw [extractNodeIdFabricId_of_isEqual hEqual, hIds]
    · rw [hFind, hFound, hCreds.getLastCert_eq]

namespace Forgery

def rootDN : ChipDN :=
  ⟨[⟨[], 1, oidAttributeTypeMatterRCACId, false⟩], by decide, by decide⟩

def nodeDN : ChipDN :=
  ⟨[⟨[], 5, oidAttributeTypeMatterNodeId, false⟩, ⟨[], 7, oidAttributeTypeMatterFabricId, false⟩],
    by decide, by decide⟩

def publicKey (n : UInt8) : List UInt8 := 4 :: List.replicate 64 n

def leaf (key : List UInt8) : TBSCertData :=
  { TBSCertData.cleared with
    mSubjectDN := nodeDN
    mIssuerDN := rootDN
    mSubjectKeyId := List.replicate 20 2
    mAuthKeyId := List.replicate 20 1
    mPublicKey := key
    mSigAlgoOID := oidSigAlgoECDSAWithSHA256
    mCertFlags := { CertFlags.none with
      extPresentKeyUsage := true, extPresentSubjectKeyId := true, extPresentAuthKeyId := true }
    mKeyUsageFlags := keyUsageDigitalSignature }

def root : TBSCertData :=
  { leaf (publicKey 1) with
    mSubjectDN := rootDN
    mSubjectKeyId := List.replicate 20 1
    mCertFlags := { (leaf []).mCertFlags with extPresentBasicConstraints := true, isCA := true }
    mKeyUsageFlags := keyUsageKeyCertSign }

def rcacBytes : List UInt8 := [1]
def nocBytes : List UInt8 := [2]
def forgedBytes : List UInt8 := [3]

/-- Only the signature on the genuine node certificate verifies, under the root's key. -/
def services : CertServices where
  decodeConvertTBSCert chipCert _ :=
    if chipCert = rcacBytes then .ok (root, [1])
    else if chipCert = nocBytes then .ok (leaf (publicKey 2), [2])
    else if chipCert = forgedBytes then .ok (leaf (publicKey 3), [3])
    else .error .invalidTLVElement
  decodeECDSASignature chipCert := .ok (List.replicate 64 (chipCert.headD 0))
  hashSHA256 tbs := List.replicate 32 (tbs.headD 0)
  ecdsaValidateHashSignature key hash signature :=
    if key = publicKey 1 ∧ hash = List.replicate 32 2 ∧ signature = List.replicate 64 2 then .ok ()
    else .error .internal
  generateCompressedFabricId _ fabricId := .ok fabricId

def forgeryContext : ValidationContext :=
  { ValidationContext.reset with mRequiredKeyUsages := keyUsageDigitalSignature }

end Forgery

open Forgery

theorem genuine_noc_validated :
    NocValidated services nocBytes [] rcacBytes forgeryContext
      ⟨7, 7, 5, publicKey 2, publicKey 1⟩ :=
  (verifyCredentials_validates_iff services nocBytes [] rcacBytes forgeryContext _ rfl).mpr
    (by decide +kernel)

/-- With the genuine certificate sent as the intermediate, the forged one is accepted,
and its key is returned as that of the node. Nobody in the set issued it. -/
theorem forged_noc_accepted :
    verifyCredentials services forgedBytes nocBytes rcacBytes forgeryContext =
        .ok ⟨7, 7, 5, publicKey 3, publicKey 1⟩ ∧
      ∀ certificates nocCert anchor, loadOpCreds services forgedBytes nocBytes rcacBytes =
        .ok certificates → decodeCert services forgedBytes ⟨true, false⟩ = .ok nocCert →
        ¬ Linked services certificates nocCert anchor := by
  refine ⟨rfl, ?_⟩
  intro certificates nocCert anchor _ hDecode hLinked
  cases hDecode
  obtain ⟨ca, hIssued, -⟩ := Relation.TransGen.head'_iff.mp hLinked
  have hSignature := hIssued.signature
  simp [verifySignature, services, forgedBytes] at hSignature

end Chip.Credentials
