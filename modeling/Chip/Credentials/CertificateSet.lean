import Chip.Credentials.Certificate
import Chip.Data.Proc

/-! The certificate set of `CHIPCert.cpp`: loading certificates into it and the
search for a valid one. Certificates are looked up by name and key id, so the
search is over positions of the set. -/
namespace Chip.Credentials

open ASN1

/-- What the set takes from the TLV and crypto code. Decoding is given the whole
certificate; the flag tells it whether the DER form goes to the decode buffer, which
may be too small for it, or to a writer that stores nothing. -/
structure CertServices where
  decodeConvertTBSCert : List UInt8 → Bool → Except ChipError (TBSCertData × List UInt8)
  /-- The signature and the end of the certificate structure. -/
  decodeECDSASignature : List UInt8 → Except ChipError (List UInt8)
  hashSHA256 : List UInt8 → List UInt8
  /-- Public key, hash and signature. -/
  ecdsaValidateHashSignature : List UInt8 → List UInt8 → List UInt8 → Except ChipError Unit
  generateCompressedFabricId : List UInt8 → FabricId → Except ChipError UInt64

structure CertDecodeFlags where
  generateTBSHash : Bool
  isTrustAnchor : Bool

structure ChipCertificateSet where
  mCerts : List ChipCertificateData
  mMaxCerts : Nat
  certCount_le : mCerts.length ≤ mMaxCerts

variable (S : CertServices)

/-- The certificate that `LoadCert` builds before it looks at the set. -/
def decodeCert (chipCert : List UInt8) (decodeFlags : CertDecodeFlags) :
  Except ChipError ChipCertificateData := do
  let (data, tbs) ← S.decodeConvertTBSCert chipCert decodeFlags.generateTBSHash
  if !(data.mCertFlags.extPresentSubjectKeyId && data.mCertFlags.extPresentAuthKeyId) then
    .error .unsupportedCertFormat
  else if data.mSigAlgoOID ≠ oidSigAlgoECDSAWithSHA256 then .error .unsupportedSignatureType
  else
    let signature ← S.decodeECDSASignature chipCert
    return { toTBSCertData := data
             mSignature := signature
             isTrustAnchor := decodeFlags.isTrustAnchor
             mTBSHash := if decodeFlags.generateTBSHash then some (S.hashSHA256 tbs) else none }

/-- `VerifySignature`. A certificate without a TBS hash has an all-zero one. -/
def verifySignature (cert caCert : ChipCertificateData) : Except ChipError Unit :=
  S.ecdsaValidateHashSignature caCert.mPublicKey (cert.mTBSHash.getD (List.replicate 32 0))
    cert.mSignature

/-- The checks that `ValidateCert` makes of a certificate that issued another. -/
def checkCA (cert : ChipCertificateData) (certType : CertType) (depth : Nat) :
  Except ChipError Unit :=
  if !cert.mCertFlags.isCA then .error .certUsageNotAllowed
  else if !(cert.mCertFlags.extPresentKeyUsage &&
      cert.mKeyUsageFlags &&& keyUsageKeyCertSign ≠ 0) then .error .certUsageNotAllowed
  else if !(certType = .ica || certType = .root) then .error .wrongCertType
  else if cert.mCertFlags.pathLenConstraintPresent &&
      depth - 1 > cert.mPathLenConstraint.toNat then .error .certPathLenConstraintExceeded
  else .ok ()

/-- The checks that `ValidateCert` makes of the certificate it was asked about. -/
def checkLeaf (context : ValidationContext) (cert : ChipCertificateData) (certType : CertType) :
  Except ChipError Unit :=
  if context.mRequiredKeyUsages ≠ 0 && !(cert.mCertFlags.extPresentKeyUsage &&
      cert.mKeyUsageFlags &&& context.mRequiredKeyUsages = context.mRequiredKeyUsages) then
    .error .certUsageNotAllowed
  else if context.mRequiredKeyPurposes ≠ 0 && !(cert.mCertFlags.extPresentExtendedKeyUsage &&
      cert.mKeyPurposeFlags &&& context.mRequiredKeyPurposes = context.mRequiredKeyPurposes) then
    .error .certUsageNotAllowed
  else if context.mRequiredCertType ≠ .notSpecified &&
      certType ≠ context.mRequiredCertType then .error .wrongCertType
  else .ok ()

/-- The state of a validation is `context.mTrustAnchor`. -/
abbrev ValidateM := Proc ChipError (Option ChipCertificateData)

/-- The criteria of a search. An empty name or key id is no criterion. -/
def matchesCriteria (subjectDN : ChipDN) (subjectKeyId : List UInt8)
  (candidate : ChipCertificateData) : Bool :=
  (subjectDN.isEmpty || candidate.mSubjectDN.isEqual subjectDN) &&
    (subjectKeyId = [] || candidate.mSubjectKeyId = subjectKeyId)

/-- The loop of `FindValidCert` from one position on, with the error it would return
if nothing more were found. The result is the position and its certificate. -/
def findValidCertLoop (validate : ChipCertificateData → ValidateM Unit) (subjectDN : ChipDN)
  (subjectKeyId : List UInt8) :
  List ChipCertificateData → Nat → ChipError → ValidateM (Nat × ChipCertificateData)
  | [], _, err => Proc.fail err
  | candidate :: rest, i, err =>
    if !matchesCriteria subjectDN subjectKeyId candidate then
      findValidCertLoop validate subjectDN subjectKeyId rest (i + 1) err
    else do
      match ← Proc.attempt (validate candidate) with
      | .ok () => pure (i, candidate)
      | .error e => findValidCertLoop validate subjectDN subjectKeyId rest (i + 1) e

namespace ChipCertificateSet

/-- `Init(maxCertsArraySize)`. -/
def init (maxCertsArraySize : Nat) : Except ChipError ChipCertificateSet :=
  if maxCertsArraySize > 0 then .ok ⟨[], maxCertsArraySize, Nat.zero_le _⟩
  else .error .invalidArgument

/-- `LoadCert`. A certificate equal to one in the set is not added again. -/
def loadCert (set : ChipCertificateSet) (chipCert : List UInt8) (decodeFlags : CertDecodeFlags) :
  Except ChipError ChipCertificateSet := do
  let cert ← decodeCert S chipCert decodeFlags
  if set.mCerts.any cert.isEqual then .ok set
  else if hRoom : set.mCerts.length < set.mMaxCerts then
    .ok { mCerts := set.mCerts ++ [cert]
          mMaxCerts := set.mMaxCerts
          certCount_le := by
            rw [List.length_append]
            exact hRoom }
  else .error .noMemory

/-- `GetLastCert()` of a set that is not empty. -/
def getLastCert (set : ChipCertificateSet) : ChipCertificateData :=
  set.mCerts.getLastD .cleared

/-- `GetCertSet()[i]`; a slot that nothing was loaded into is cleared. -/
def getCertSet (set : ChipCertificateSet) (i : Nat) : ChipCertificateData :=
  set.mCerts.getD i .cleared

/-- `FindValidCert` at a depth, given how candidates are validated there. -/
def findValidCertAt (set : ChipCertificateSet) (validate : ChipCertificateData → ValidateM Unit)
  (subjectDN : ChipDN) (subjectKeyId : List UInt8) (depth : Nat) :
  ValidateM (Nat × ChipCertificateData) :=
  let err := if depth > 0 then ChipError.caCertNotFound else ChipError.certNotFound
  if subjectDN.isEmpty && subjectKeyId = [] then Proc.fail err
  else findValidCertLoop validate subjectDN subjectKeyId set.mCerts 0 err

/-- `ValidateCert` at a depth. The depth is checked against the number of
certificates before the search for the issuer, so `fuel` beyond that number is
never used up. -/
def validateCertAt (set : ChipCertificateSet) (context : ValidationContext) :
  Nat → ChipCertificateData → Nat → ValidateM Unit
  | 0, _, _ => Proc.fail .certPathTooLong
  | fuel + 1, cert, depth => do
      let certType ← Proc.lift cert.mSubjectDN.getCertType
      Proc.verify (cert.mCertFlags.extPresentFutureIsCritical = false) .certUsageNotAllowed
      Proc.lift (if depth > 0 then checkCA cert certType depth else checkLeaf context cert certType)
      Proc.lift (context.applyPolicy cert depth)
      if cert.isTrustAnchor then Proc.modify fun _ => some cert
      else
        Proc.verify (¬ (cert.mIssuerDN.isEqual cert.mSubjectDN &&
          cert.mAuthKeyId = cert.mSubjectKeyId)) .certNotTrusted
        Proc.verify (depth < set.mCerts.length) .certPathTooLong
        Proc.verify (cert.mTBSHash.isSome) .invalidArgument
        match ← Proc.attempt (set.findValidCertAt
            (fun ca => set.validateCertAt context fuel ca (depth + 1))
            cert.mIssuerDN cert.mAuthKeyId (depth + 1)) with
        | .ok (_, caCert) => Proc.lift (verifySignature S cert caCert)
        | .error _ => Proc.fail .caCertNotFound

/-- Enough fuel for every depth that `ValidateCert` reaches. -/
def fuel (set : ChipCertificateSet) : Nat := set.mCerts.length + 1

/-- `ValidateCert(cert, context)` of a certificate of the set, with the trust anchor
it leaves in the context. -/
def validateCert (set : ChipCertificateSet) (context : ValidationContext)
  (cert : ChipCertificateData) : Except ChipError Unit × Option ChipCertificateData :=
  set.validateCertAt S context set.fuel cert 0 none

/-- `FindValidCert(subjectDN, subjectKeyId, context, certData)`, with the trust anchor
it leaves in the context. -/
def findValidCert (set : ChipCertificateSet) (context : ValidationContext) (subjectDN : ChipDN)
  (subjectKeyId : List UInt8) :
  Except ChipError (Nat × ChipCertificateData) × Option ChipCertificateData :=
  set.findValidCertAt (fun cert => set.validateCertAt S context set.fuel cert 0)
    subjectDN subjectKeyId 0 none

end ChipCertificateSet

end Chip.Credentials
