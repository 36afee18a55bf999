import Chip.Credentials.DistinguishedName

/-! Decoded certificates (`ChipCertificateData`) and the context they are validated
in. Key ids, public keys and signatures are fixed-size spans in the source; the
empty list is the span without data. -/
namespace Chip.Credentials

open ASN1

/-- `KeyUsageFlags`, as the raw bits. -/
abbrev KeyUsageFlags := UInt16

def keyUsageDigitalSignature : KeyUsageFlags := 0x0001
def keyUsageKeyCertSign : KeyUsageFlags := 0x0020

/-- `KeyPurposeFlags`, as the raw bits. -/
abbrev KeyPurposeFlags := UInt8

/-- The `CertFlags` that decoding a certificate can set. -/
structure CertFlags where
  extPresentBasicConstraints : Bool
  extPresentKeyUsage : Bool
  extPresentExtendedKeyUsage : Bool
  extPresentSubjectKeyId : Bool
  extPresentAuthKeyId : Bool
  extPresentFutureIsCritical : Bool
  pathLenConstraintPresent : Bool
  isCA : Bool
  deriving DecidableEq

def CertFlags.none : CertFlags := ⟨false, false, false, false, false, false, false, false⟩

/-- The part of `ChipCertificateData` that `DecodeConvertTBSCert` fills in. -/
structure TBSCertData where
  mSubjectDN : ChipDN
  mIssuerDN : ChipDN
  mSubjectKeyId : List UInt8
  mAuthKeyId : List UInt8
  mNotBeforeTime : UInt32
  mNotAfterTime : UInt32
  mPublicKey : List UInt8
  mPubKeyCurveOID : OID
  mPubKeyAlgoOID : OID
  mSigAlgoOID : OID
  mCertFlags : CertFlags
  mKeyUsageFlags : KeyUsageFlags
  mKeyPurposeFlags : KeyPurposeFlags
  mPathLenConstraint : UInt8

/-- `Clear()` on the decoded part. -/
def TBSCertData.cleared : TBSCertData where
  mSubjectDN := .empty
  mIssuerDN := .empty
  mSubjectKeyId := []
  mAuthKeyId := []
  mNotBeforeTime := 0
  mNotAfterTime := 0
  mPublicKey := []
  mPubKeyCurveOID := 0
  mPubKeyAlgoOID := 0
  mSigAlgoOID := 0
  mCertFlags := .none
  mKeyUsageFlags := 0
  mKeyPurposeFlags := 0
  mPathLenConstraint := 0

/-- A loaded certificate: what was decoded, and what `LoadCert` itself adds. -/
structure ChipCertificateData extends TBSCertData where
  mSignature : List UInt8
  /-- `CertFlags::kIsTrustAnchor`. -/
  isTrustAnchor : Bool
  /-- `mTBSHash`, with `CertFlags::kTBSHashPresent` when there is one. -/
  mTBSHash : Option (List UInt8)

def ChipCertificateData.cleared : ChipCertificateData where
  toTBSCertData := .cleared
  mSignature := []
  isTrustAnchor := false
  mTBSHash := none

/-- `IsEqual`. Names are compared by `ChipDN::IsEqual`, everything else bit for bit. -/
def ChipCertificateData.isEqual (cert other : ChipCertificateData) : Bool :=
  cert.mSubjectDN.isEqual other.mSubjectDN && cert.mIssuerDN.isEqual other.mIssuerDN &&
    cert.mSubjectKeyId = other.mSubjectKeyId && cert.mAuthKeyId = other.mAuthKeyId &&
    cert.mNotBeforeTime = other.mNotBeforeTime && cert.mNotAfterTime = other.mNotAfterTime &&
    cert.mPublicKey = other.mPublicKey && cert.mPubKeyCurveOID = other.mPubKeyCurveOID &&
    cert.mPubKeyAlgoOID = other.mPubKeyAlgoOID && cert.mSigAlgoOID = other.mSigAlgoOID &&
    cert.mCertFlags = other.mCertFlags && cert.isTrustAnchor = other.isTrustAnchor &&
    cert.mKeyUsageFlags = other.mKeyUsageFlags &&
    cert.mKeyPurposeFlags = other.mKeyPurposeFlags &&
    cert.mPathLenConstraint = other.mPathLenConstraint &&
    cert.mSignature = other.mSignature && cert.mTBSHash = other.mTBSHash

inductive CertificateValidityResult where
  | valid
  | notYetValid
  | expired
  | notExpiredAtLastKnownGoodTime
  | expiredAtLastKnownGoodTime
  | timeUnknown

/-- `EffectiveTime`, the clock the validity period is compared with, if any. -/
inductive EffectiveTime where
  | none
  | currentChipEpochTime (seconds : UInt32)
  | lastKnownGoodChipEpochTime (seconds : UInt32)

/-- The inputs of a validation. A policy, where the caller installs one, is any
function of the certificate, its depth and the validity result. -/
structure ValidationContext where
  mEffectiveTime : EffectiveTime
  mRequiredKeyUsages : KeyUsageFlags
  mRequiredKeyPurposes : KeyPurposeFlags
  mRequiredCertType : CertType
  mValidityPolicy : Option (ChipCertificateData → Nat → CertificateValidityResult → Except ChipError Unit)

def ValidationContext.reset : ValidationContext where
  mEffectiveTime := .none
  mRequiredKeyUsages := 0
  mRequiredKeyPurposes := 0
  mRequiredCertType := .notSpecified
  mValidityPolicy := none

/-- `ApplyDefaultPolicy`, which ignores the certificate and its depth. -/
def applyDefaultPolicy : CertificateValidityResult → Except ChipError Unit
  | .valid | .notExpiredAtLastKnownGoodTime | .expiredAtLastKnownGoodTime | .timeUnknown => .ok ()
  | .notYetValid => .error .certNotValidYet
  | .expired => .error .certExpired

/-- `kNullCertTime`, no well-defined expiration date. -/
def nullCertTime : UInt32 := 0

/-- The comparison of `ValidateCert` with the validity period of a certificate. -/
def validityResult (time : EffectiveTime) (cert : ChipCertificateData) :
  CertificateValidityResult :=
  match time with
  | .none => .timeUnknown
  | .currentChipEpochTime now =>
    if now < cert.mNotBeforeTime then .notYetValid
    else if cert.mNotAfterTime ≠ nullCertTime && now > cert.mNotAfterTime then .expired
    else .valid
  | .lastKnownGoodChipEpochTime now =>
    if cert.mNotAfterTime ≠ 0 && now > cert.mNotAfterTime then .expiredAtLastKnownGoodTime
    else .notExpiredAtLastKnownGoodTime

def ValidationContext.applyPolicy (context : ValidationContext) (cert : ChipCertificateData)
  (depth : Nat) : Except ChipError Unit :=
  let result := validityResult context.mEffectiveTime cert
  match context.mValidityPolicy with
  | some policy => policy cert depth result
  | none => applyDefaultPolicy result

end Chip.Credentials
