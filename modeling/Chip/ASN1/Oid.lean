import Mathlib.Data.BitVec

/-! The object ids of `gen_asn1oid.py`. An id is a category in the high byte and
the enumerated value that TLV certificates carry in the low byte. -/
namespace Chip.ASN1

abbrev OID := UInt16

def oidNotSpecified : OID := 0x0000
def oidUnknown : OID := 0xFFFF

def oidSigAlgoECDSAWithSHA256 : OID := 0x0201
def oidAttributeTypeMatterNodeId : OID := 0x0311
def oidAttributeTypeMatterFirmwareSigningId : OID := 0x0312
def oidAttributeTypeMatterICACId : OID := 0x0313
def oidAttributeTypeMatterRCACId : OID := 0x0314
def oidAttributeTypeMatterFabricId : OID := 0x0315
def oidAttributeTypeMatterCASEAuthTag : OID := 0x0316

end Chip.ASN1
