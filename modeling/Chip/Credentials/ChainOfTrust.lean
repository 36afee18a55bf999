import Mathlib.Logic.Relation
import Chip.Credentials.OperationalCredentials

/-! What a successful validation says about signatures. A valid certificate that is
not itself the trust anchor is joined to one by a chain of issuers in the set. -/
namespace Chip.Credentials

open Relation.TransGen ChipCertificateSet Proc

variable (S : CertServices)

/-- `ca` is a certificate of the set that may sign others, is named as the issuer of
`cert`, and verifies its signature. -/
structure IssuedBy (set : ChipCertificateSet) (cert ca : ChipCertificateData) : Prop where
  mem : ca ∈ set.mCerts
  criterion : ¬ (cert.mIssuerDN.isEmpty ∧ cert.mAuthKeyId = [])
  issuer : matchesCriteria cert.mIssuerDN cert.mAuthKeyId ca
  isCA : ca.mCertFlags.isCA
  extPresentKeyUsage : ca.mCertFlags.extPresentKeyUsage
  keyCertSign : ca.mKeyUsageFlags &&& keyUsageKeyCertSign ≠ 0
  hashPresent : cert.mTBSHash.isSome
  signature : verifySignature S cert ca = .ok ()

def Linked (set : ChipCertificateSet) : ChipCertificateData → ChipCertificateData → Prop :=
  Relation.TransGen (IssuedBy S set)

variable {S}
variable {set : ChipCertificateSet} {validate : ChipCertificateData → ValidateM Unit}
  {s s' : Option ChipCertificateData} {found : Nat × ChipCertificateData} {depth : Nat}
  {cert : ChipCertificateData}

theorem IssuedBy.of_isEqual {cert other ca : ChipCertificateData} (h : IssuedBy S set other ca)
  (hEqual : cert.isEqual other) : IssuedBy S set cert ca := by
  simp only [ChipCertificateData.isEqual, Bool.and_eq_true, decide_eq_true_eq] at hEqual
  have hName : cert.mIssuerDN.isEqual other.mIssuerDN := by tauto
  have hKeyId : cert.mAuthKeyId = other.mAuthKeyId := by tauto
  have hSignature : cert.mSignature = other.mSignature := by tauto
  have hHash : cert.mTBSHash = other.mTBSHash := by tauto
  have hSame := ChipDN.isEmpty_of_isEqual hName
  have hSame' := ChipDN.isEmpty_of_isEqual (ChipDN.isEqual_symm hName)
  have hIssuer := h.issuer
  simp only [matchesCriteria, hSame', Bool.false_or, Bool.and_eq_true] at hIssuer
  refine ⟨h.mem, by simp [hSame], ?_, h.isCA, h.extPresentKeyUsage, h.keyCertSign,
    hHash ▸ h.hashPresent, ?_⟩
  · simp only [matchesCriteria, hSame, Bool.false_or, Bool.and_eq_true]
    exact ⟨ChipDN.isEqual_trans hIssuer.1 (ChipDN.isEqual_symm hName), hKeyId ▸ hIssuer.2⟩
  · have hVerify := h.signature
    unfold verifySignature at hVerify ⊢
    rwa [hHash, hSignature]

theorem Linked.of_isEqual {cert other anchor : ChipCertificateData} (h : Linked S set other anchor)
  (hEqual : cert.isEqual other) : Linked S set cert anchor := by
  rcases head'_iff.mp h with ⟨ca, hFirst, hRest⟩
  exact head' (hFirst.of_isEqual hEqual) hRest

/-- The trust anchor recorded so far does not influence any result. -/
def StateFree {α : Type} (m : ValidateM α) : Prop :=
  ∀ s t, Proc.Agrees (fun _ _ => True) m m s t

theorem findValidCertLoop_stateFree (hValidate : ∀ cert, StateFree (validate cert)) (subjectDN : ChipDN)
  (subjectKeyId : List UInt8) (certs : List ChipCertificateData) (i : Nat) (err : ChipError) :
  StateFree (findValidCertLoop validate subjectDN subjectKeyId certs i err) := by
  induction certs generalizing i err with
  | nil =>
    intro s t
    exact .fail err trivial
  | cons candidate rest ih =>
    intro s t
    unfold findValidCertLoop
    by_cases hMatch : matchesCriteria subjectDN subjectKeyId candidate
    · simp only [hMatch, Bool.not_true, Bool.false_eq_true, ↓reduceIte]
      refine .bind (.attempt (hValidate candidate s t)) ?_
      intro result s' t' _ _
      cases result with
      | ok _ => exact .pure _ trivial
      | error e => exact ih (i + 1) e s' t'
    · simp only [hMatch, Bool.not_false, ↓reduceIte]
      exact ih (i + 1) err s t

theorem findValidCertAt_stateFree (set : ChipCertificateSet)
  (hValidate : ∀ cert, StateFree (validate cert)) (subjectDN : ChipDN) (subjectKeyId : List UInt8)
  (depth : Nat) :
  StateFree (set.findValidCertAt validate subjectDN subjectKeyId depth) := by
  intro s t
  unfold findValidCertAt
  by_cases hNone : subjectDN.isEmpty && subjectKeyId = []
  · simp only [hNone, ↓reduceIte]
    exact .fail _ trivial
  · simp only [hNone, Bool.false_eq_true, ↓reduceIte]
    exact findValidCertLoop_stateFree hValidate _ _ _ _ _ s t

theorem validateCertAt_stateFree (set : ChipCertificateSet) (context : ValidationContext)
  (fuel : Nat) (cert : ChipCertificateData) (depth : Nat) :
  StateFree (set.validateCertAt S context fuel cert depth) := by
  induction fuel generalizing cert depth with
  | zero =>
    intro s t
    exact .fail _ trivial
  | succ fuel ih =>
    intro s t
    unfold validateCertAt
    refine .bind (.lift _ trivial) fun certType s t _ _ => ?_
    refine .bind (.verify _ Iff.rfl trivial) fun _ s t _ _ => ?_
    refine .bind (.lift _ trivial) fun _ s t _ _ => ?_
    refine .bind (.lift _ trivial) fun _ s t _ _ => ?_
    by_cases hAnchor : cert.isTrustAnchor
    · simp only [hAnchor, ↓reduceIte]
      exact .modify trivial
    · simp only [hAnchor, Bool.false_eq_true, ↓reduceIte]
      refine .bind (.verify _ Iff.rfl trivial) fun _ s t _ _ => ?_
      refine .bind (.verify _ Iff.rfl trivial) fun _ s t _ _ => ?_
      refine .bind (.verify _ Iff.rfl trivial) fun _ s t _ _ => ?_
      have hSearch := findValidCertAt_stateFree set (fun ca => ih ca (depth + 1))
        cert.mIssuerDN cert.mAuthKeyId (depth + 1)
      refine .bind (.attempt (hSearch s t)) fun result s t _ _ => ?_
      cases result with
      | ok found => exact .lift _ trivial
      | error e => exact .fail _ trivial

theorem findValidCertLoop_first (hValidate : ∀ cert, StateFree (validate cert)) {subjectDN : ChipDN}
  {subjectKeyId : List UInt8} {certs : List ChipCertificateData} {i : Nat} {err : ChipError}
  (h : findValidCertLoop validate subjectDN subjectKeyId certs i err s = (.ok found, s')) :
  ∃ before after, certs = before ++ found.2 :: after ∧ found.1 = i + before.length ∧
    matchesCriteria subjectDN subjectKeyId found.2 ∧ (validate found.2 none).1 = .ok () ∧
    ∀ cert ∈ before, matchesCriteria subjectDN subjectKeyId cert →
      (validate cert none).1 ≠ .ok () := by
  induction certs generalizing i err s with
  | nil => cases h
  | cons candidate rest ih =>
    unfold findValidCertLoop at h
    by_cases hMatch : matchesCriteria subjectDN subjectKeyId candidate
    · simp only [hMatch, Bool.not_true, Bool.false_eq_true, ↓reduceIte, attempt_bind] at h
      have hFree := (hValidate candidate s none).1
      cases hResult : (validate candidate s).1 with
      | ok u =>
        rw [hResult] at h hFree
        cases h
        exact ⟨[], rest, rfl, rfl, hMatch, hFree.symm, by simp⟩
      | error e =>
        rw [hResult] at h hFree
        obtain ⟨before, after, hCerts, hIndex, hFound, hValid, hBefore⟩ := ih h
        refine ⟨candidate :: before, after, by rw [hCerts]; rfl, ?_, hFound, hValid, ?_⟩
        · rw [hIndex, List.length_cons]
          omega
        · intro cert hMem hCert
          rcases List.mem_cons.mp hMem with rfl | hMem
          · rw [← hFree]
            simp
          · exact hBefore cert hMem hCert
    · simp only [hMatch, Bool.not_false, ↓reduceIte] at h
      obtain ⟨before, after, hCerts, hIndex, hFound, hValid, hBefore⟩ := ih h
      refine ⟨candidate :: before, after, by rw [hCerts]; rfl, ?_, hFound, hValid, ?_⟩
      · rw [hIndex, List.length_cons]
        omega
      · intro cert hMem hCert
        rcases List.mem_cons.mp hMem with rfl | hMem
        · exact absurd hCert hMatch
        · exact hBefore cert hMem hCert

theorem findValidCertAt_first (hValidate : ∀ cert, StateFree (validate cert)) {subjectDN : ChipDN}
  {subjectKeyId : List UInt8}
  (h : set.findValidCertAt validate subjectDN subjectKeyId depth s = (.ok found, s')) :
  ¬ (subjectDN.isEmpty ∧ subjectKeyId = []) ∧
  ∃ before after, set.mCerts = before ++ found.2 :: after ∧ found.1 = before.length ∧
    matchesCriteria subjectDN subjectKeyId found.2 ∧ (validate found.2 none).1 = .ok () ∧
    ∀ cert ∈ before, matchesCriteria subjectDN subjectKeyId cert →
      (validate cert none).1 ≠ .ok () := by
  unfold findValidCertAt at h
  by_cases hNone : subjectDN.isEmpty && subjectKeyId = []
  · simp only [hNone, ↓reduceIte] at h
    cases h
  · simp only [hNone, Bool.false_eq_true, ↓reduceIte] at h
    refine ⟨by simpa using hNone, ?_⟩
    obtain ⟨before, after, hCerts, hIndex, hRest⟩ := findValidCertLoop_first hValidate h
    exact ⟨before, after, hCerts, by omega, hRest⟩

theorem checkCA_eq_ok {certType : CertType} (h : checkCA cert certType depth = .ok ()) :
  cert.mCertFlags.isCA ∧ cert.mCertFlags.extPresentKeyUsage ∧
    cert.mKeyUsageFlags &&& keyUsageKeyCertSign ≠ 0 := by
  unfold checkCA at h
  by_cases hCA : cert.mCertFlags.isCA
  · by_cases hUsage : cert.mCertFlags.extPresentKeyUsage &&
        cert.mKeyUsageFlags &&& keyUsageKeyCertSign ≠ 0
    · have hParts := hUsage
      rw [Bool.and_eq_true, decide_eq_true_eq] at hParts
      exact ⟨hCA, hParts⟩
    · rw [Bool.not_eq_true] at hUsage
      rw [if_neg (by simp [hCA]), if_pos (by rw [hUsage]; rfl)] at h
      cases h
  · rw [if_pos (by simp [hCA])] at h
    cases h

theorem validateCertAt_eq_ok {context : ValidationContext} {fuel : Nat}
  (h : set.validateCertAt S context (fuel + 1) cert depth s = (.ok (), s')) :
  (0 < depth → cert.mCertFlags.isCA ∧ cert.mCertFlags.extPresentKeyUsage ∧
    cert.mKeyUsageFlags &&& keyUsageKeyCertSign ≠ 0) ∧
  (cert.isTrustAnchor ∨ cert.mTBSHash.isSome ∧ ∃ found t t',
    set.findValidCertAt (fun ca => set.validateCertAt S context fuel ca (depth + 1))
      cert.mIssuerDN cert.mAuthKeyId (depth + 1) t = (.ok found, t') ∧
    verifySignature S cert found.2 = .ok ()) := by
  unfold validateCertAt at h
  obtain ⟨certType, -, h⟩ := lift_bind_eq_ok h
  obtain ⟨-, h⟩ := verify_bind_eq_ok h
  obtain ⟨_, hCheck, h⟩ := lift_bind_eq_ok h
  obtain ⟨_, -, h⟩ := lift_bind_eq_ok h
  refine ⟨?_, ?_⟩
  · intro hDepth
    rw [if_pos hDepth] at hCheck
    exact checkCA_eq_ok hCheck
  · by_cases hAnchor : cert.isTrustAnchor
    · exact .inl hAnchor
    · simp only [hAnchor, Bool.false_eq_true, ↓reduceIte] at h
      obtain ⟨-, h⟩ := verify_bind_eq_ok h
      obtain ⟨-, h⟩ := verify_bind_eq_ok h
      obtain ⟨hHash, h⟩ := verify_bind_eq_ok h
      rw [attempt_bind] at h
      refine .inr ⟨hHash, ?_⟩
      cases hSearch : set.findValidCertAt (fun ca => set.validateCertAt S context fuel ca (depth + 1))
          cert.mIssuerDN cert.mAuthKeyId (depth + 1) s with
      | mk result t =>
        rw [hSearch] at h
        cases result with
        | error e => cases h
        | ok found =>
          have hVerify := congrArg Prod.fst h
          exact ⟨found, s, t, hSearch, hVerify⟩

theorem validateCertAt_linked {context : ValidationContext} {fuel : Nat}
  (h : set.validateCertAt S context fuel cert depth s = (.ok (), s')) :
  cert.isTrustAnchor ∨
    ∃ anchor ∈ set.mCerts, anchor.isTrustAnchor ∧ Linked S set cert anchor := by
  induction fuel generalizing cert depth s s' with
  | zero => cases h
  | succ fuel ih =>
    obtain ⟨-, hAnchor | ⟨hHash, found, t, t', hSearch, hVerify⟩⟩ := validateCertAt_eq_ok h
    · exact .inl hAnchor
    · have hFree := fun ca => validateCertAt_stateFree (S := S) set context fuel ca (depth + 1)
      obtain ⟨hCriterion, before, after, hCerts, -, hMatch, hValid, -⟩ :=
        findValidCertAt_first hFree hSearch
      have hMem : found.2 ∈ set.mCerts := by
        rw [hCerts]
        exact List.mem_append_right before List.mem_cons_self
      have hIssuer : set.validateCertAt S context fuel found.2 (depth + 1) none =
          (.ok (), (set.validateCertAt S context fuel found.2 (depth + 1) none).2) :=
        Prod.ext hValid rfl
      have hLink : IssuedBy S set cert found.2 := by
        cases fuel with
        | zero => cases hIssuer
        | succ fuel =>
          obtain ⟨hCA, hUsage, hSign⟩ := (validateCertAt_eq_ok hIssuer).1 (Nat.succ_pos depth)
          exact ⟨hMem, hCriterion, hMatch, hCA, hUsage, hSign, hHash, hVerify⟩
      refine .inr ?_
      rcases ih hIssuer with hTrusted | ⟨anchor, hAnchorMem, hTrusted, hLinked⟩
      · exact ⟨found.2, hMem, hTrusted, single hLink⟩
      · exact ⟨anchor, hAnchorMem, hTrusted, head hLink hLinked⟩

end Chip.Credentials
