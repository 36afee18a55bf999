import Chip.Credentials.CertificateSet

/-! `FabricTable::VerifyCredentials` and the extraction of ids from certificates. -/
namespace Chip.Credentials

open ASN1

/-- The value of the last attribute of one kind, as a loop that keeps overwriting it
finds it. -/
def ChipDN.lastChipVal (dn : ChipDN) (oid : OID) : Option UInt64 :=
  dn.rdn.foldl (fun found r => if r.mAttrOID = oid then some r.mChipVal else found) none

def extractNodeIdFabricIdFromOpCert (opcert : ChipCertificateData) :
  Except ChipError (NodeId × FabricId) :=
  match opcert.mSubjectDN.lastChipVal oidAttributeTypeMatterNodeId,
      opcert.mSubjectDN.lastChipVal oidAttributeTypeMatterFabricId with
  | some nodeId, some fabricId => .ok (nodeId, fabricId)
  | _, _ => .error .notFound

/-- `ExtractFabricIdFromCert`, which stops at the first fabric id. -/
def extractFabricIdFromCert (cert : ChipCertificateData) : Except ChipError FabricId :=
  match cert.mSubjectDN.rdn.find? fun r => r.mAttrOID = oidAttributeTypeMatterFabricId with
  | some r => .ok r.mChipVal
  | none => .error .notFound

/-- What `VerifyCredentials` hands back when it succeeds. -/
structure VerifiedCredentials where
  outCompressedFabricId : UInt64
  outFabricId : FabricId
  outNodeId : NodeId
  outNocPubkey : List UInt8
  outRootPublicKey : List UInt8

/-- An issuer need not name a fabric, but may not name another one. -/
def checkIssuerFabric (issuer : ChipCertificateData) (fabricId : FabricId) (mismatch : ChipError) :
  Except ChipError Unit :=
  match extractFabricIdFromCert issuer with
  | .ok issuerFabricId => if issuerFabricId ≠ fabricId then .error mismatch else .ok ()
  | .error err => if err ≠ .notFound then .error err else .ok ()

variable (S : CertServices)

/-- `kMaxNumCertsInOpCreds`. -/
def maxNumCertsInOpCreds : Nat := 3

/-- The certificates that `VerifyCredentials` loads, the root as the trust anchor. -/
def loadOpCreds (noc icac rcac : List UInt8) : Except ChipError ChipCertificateSet := do
  let certificates ← ChipCertificateSet.init maxNumCertsInOpCreds
  let certificates ← certificates.loadCert S rcac ⟨false, true⟩
  let certificates ← if icac ≠ [] then certificates.loadCert S icac ⟨true, false⟩
    else .ok certificates
  certificates.loadCert S noc ⟨true, false⟩

/-- The search of `VerifyCredentials`: by the name and key id of the certificate that
was loaded last. -/
def findOpCert (certificates : ChipCertificateSet) (context : ValidationContext) :
  Except ChipError (Nat × ChipCertificateData) :=
  (certificates.findValidCert S context certificates.getLastCert.mSubjectDN
    certificates.getLastCert.mSubjectKeyId).1

/-- `FabricTable::VerifyCredentials`. The certificate that the search finds is not
looked at again; every output comes from the one loaded last. -/
def verifyCredentials (noc icac rcac : List UInt8) (context : ValidationContext) :
  Except ChipError VerifiedCredentials := do
  let certificates ← loadOpCreds S noc icac rcac
  let _ ← findOpCert S certificates context
  let (nodeId, fabricId) ← extractNodeIdFabricIdFromOpCert certificates.getLastCert
  if icac ≠ [] then checkIssuerFabric (certificates.getCertSet 1) fabricId .fabricMismatchOnICA
  checkIssuerFabric (certificates.getCertSet 0) fabricId .wrongCertDN
  let rootPubkey := (certificates.getCertSet 0).mPublicKey
  let compressedFabricId ← S.generateCompressedFabricId rootPubkey fabricId
  return { outCompressedFabricId := compressedFabricId
           outFabricId := fabricId
           outNodeId := nodeId
           outNocPubkey := certificates.getLastCert.mPublicKey
           outRootPublicKey := rootPubkey }

end Chip.Credentials
