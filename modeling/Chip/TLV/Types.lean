import Chip.Core.Error

/-! Element types and field sizes of the TLV control byte (`TLVTypes.h`). The
low five bits of a control byte may hold a code that names no element type; the
reader keeps such a code until the next element is read, so it is a value here. -/
namespace Chip.TLV

inductive TLVType where
  | notSpecified
  | unknownContainer
  | signedInteger
  | unsignedInteger
  | boolean
  | floatingPointNumber
  | utf8String
  | byteString
  | null
  | struct
  | array
  | list
  | unnamed (offset : Fin 7)
  deriving DecidableEq

/-- `unnamed offset` is the code `0x19 + offset`, which no enumerator has. -/
inductive TLVElementType where
  | notSpecified
  | int8 | int16 | int32 | int64
  | uint8 | uint16 | uint32 | uint64
  | booleanFalse | booleanTrue
  | floatingPointNumber32 | floatingPointNumber64
  | utf8String1ByteLength | utf8String2ByteLength | utf8String4ByteLength | utf8String8ByteLength
  | byteString1ByteLength | byteString2ByteLength | byteString4ByteLength | byteString8ByteLength
  | null
  | struct | array | list
  | endOfContainer
  | unnamed (offset : Fin 7)
  deriving DecidableEq

inductive TLVFieldSize where
  | size0Byte | size1Byte | size2Byte | size4Byte | size8Byte
  deriving DecidableEq

inductive TLVTagControl where
  | anonymous
  | contextSpecific
  | commonProfile2Bytes
  | commonProfile4Bytes
  | implicitProfile2Bytes
  | implicitProfile4Bytes
  | fullyQualified6Bytes
  | fullyQualified8Bytes
  deriving DecidableEq

namespace TLVElementType

/-- The enumerator's value. `NotSpecified` is `-1` in the source and is never
written; its bits are those of the cast to `uint8_t`. -/
def code : TLVElementType → Nat
  | notSpecified => 0xFF
  | int8 => 0x00 | int16 => 0x01 | int32 => 0x02 | int64 => 0x03
  | uint8 => 0x04 | uint16 => 0x05 | uint32 => 0x06 | uint64 => 0x07
  | booleanFalse => 0x08 | booleanTrue => 0x09
  | floatingPointNumber32 => 0x0A | floatingPointNumber64 => 0x0B
  | utf8String1ByteLength => 0x0C | utf8String2ByteLength => 0x0D
  | utf8String4ByteLength => 0x0E | utf8String8ByteLength => 0x0F
  | byteString1ByteLength => 0x10 | byteString2ByteLength => 0x11
  | byteString4ByteLength => 0x12 | byteString8ByteLength => 0x13
  | null => 0x14
  | struct => 0x15 | array => 0x16 | list => 0x17
  | endOfContainer => 0x18
  | unnamed offset => 0x19 + offset

/-- `static_cast<TLVElementType>(mControlByte & kTLVTypeMask)`. -/
def ofControlByte (b : UInt8) : TLVElementType :=
  match (b &&& 0x1F).toNat with
  | 0x00 => int8 | 0x01 => int16 | 0x02 => int32 | 0x03 => int64
  | 0x04 => uint8 | 0x05 => uint16 | 0x06 => uint32 | 0x07 => uint64
  | 0x08 => booleanFalse | 0x09 => booleanTrue
  | 0x0A => floatingPointNumber32 | 0x0B => floatingPointNumber64
  | 0x0C => utf8String1ByteLength | 0x0D => utf8String2ByteLength
  | 0x0E => utf8String4ByteLength | 0x0F => utf8String8ByteLength
  | 0x10 => byteString1ByteLength | 0x11 => byteString2ByteLength
  | 0x12 => byteString4ByteLength | 0x13 => byteString8ByteLength
  | 0x14 => null
  | 0x15 => struct | 0x16 => array | 0x17 => list
  | 0x18 => endOfContainer
  | 0x19 => unnamed 0 | 0x1A => unnamed 1 | 0x1B => unnamed 2 | 0x1C => unnamed 3
  | 0x1D => unnamed 4 | 0x1E => unnamed 5
  | _ => unnamed 6

/-- `IsValidTLVType`. -/
def isValid : TLVElementType → Bool
  | unnamed _ => false
  | _ => true

/-- `TLVTypeHasLength`, which the source also states as `TLVTypeIsString`. -/
def hasLength : TLVElementType → Bool
  | utf8String1ByteLength | utf8String2ByteLength | utf8String4ByteLength | utf8String8ByteLength
  | byteString1ByteLength | byteString2ByteLength | byteString4ByteLength
  | byteString8ByteLength => true
  | _ => false

def isUTF8String : TLVElementType → Bool
  | utf8String1ByteLength | utf8String2ByteLength | utf8String4ByteLength
  | utf8String8ByteLength => true
  | _ => false

def isContainer : TLVElementType → Bool
  | struct | array | list => true
  | _ => false

/-- `GetTLVFieldSize`. The comparison `type <= UInt64` also holds of
`NotSpecified`, whose low bits then select eight bytes. -/
def fieldSize : TLVElementType → TLVFieldSize
  | int8 | uint8 | utf8String1ByteLength | byteString1ByteLength => .size1Byte
  | int16 | uint16 | utf8String2ByteLength | byteString2ByteLength => .size2Byte
  | int32 | uint32 | utf8String4ByteLength | byteString4ByteLength
  | floatingPointNumber32 => .size4Byte
  | int64 | uint64 | utf8String8ByteLength | byteString8ByteLength
  | floatingPointNumber64 | notSpecified => .size8Byte
  | booleanFalse | booleanTrue | null | struct | array | list | endOfContainer
  | unnamed _ => .size0Byte

/-- `static_cast<TLVType>` of a container's element type. -/
def toTLVType : TLVElementType → TLVType
  | notSpecified => .notSpecified
  | int8 | int16 | int32 | int64 => .signedInteger
  | uint8 | uint16 | uint32 | uint64 => .unsignedInteger
  | booleanFalse | booleanTrue => .boolean
  | floatingPointNumber32 | floatingPointNumber64 => .floatingPointNumber
  | utf8String1ByteLength | utf8String2ByteLength | utf8String4ByteLength
  | utf8String8ByteLength => .utf8String
  | byteString1ByteLength | byteString2ByteLength | byteString4ByteLength
  | byteString8ByteLength => .byteString
  | null => .null
  | struct => .struct
  | array => .array
  | list => .list
  | endOfContainer => .notSpecified
  | unnamed offset => .unnamed offset

end TLVElementType

namespace TLVType

def isContainer : TLVType → Bool
  | struct | array | list => true
  | _ => false

/-- `static_cast<TLVElementType>(containerType)`, used for containers only. -/
def toElementType : TLVType → TLVElementType
  | struct => .struct
  | array => .array
  | list => .list
  | null => .null
  | notSpecified | unknownContainer => .notSpecified
  | signedInteger => .int8
  | unsignedInteger => .uint8
  | boolean => .booleanFalse
  | floatingPointNumber => .floatingPointNumber32
  | utf8String => .utf8String1ByteLength
  | byteString => .byteString1ByteLength
  | unnamed offset => .unnamed offset

end TLVType

/-- `TLVFieldSizeToBytes`. -/
def TLVFieldSize.bytes : TLVFieldSize → Nat
  | size0Byte => 0
  | size1Byte => 1
  | size2Byte => 2
  | size4Byte => 4
  | size8Byte => 8

namespace TLVTagControl

def code : TLVTagControl → Nat
  | anonymous => 0x00
  | contextSpecific => 0x20
  | commonProfile2Bytes => 0x40
  | commonProfile4Bytes => 0x60
  | implicitProfile2Bytes => 0x80
  | implicitProfile4Bytes => 0xA0
  | fullyQualified6Bytes => 0xC0
  | fullyQualified8Bytes => 0xE0

/-- `static_cast<TLVTagControl>(mControlByte & kTLVTagControlMask)`. -/
def ofControlByte (b : UInt8) : TLVTagControl :=
  match (b >>> 5).toNat with
  | 0 => anonymous
  | 1 => contextSpecific
  | 2 => commonProfile2Bytes
  | 3 => commonProfile4Bytes
  | 4 => implicitProfile2Bytes
  | 5 => implicitProfile4Bytes
  | 6 => fullyQualified6Bytes
  | _ => fullyQualified8Bytes

/-- `sTagSizes`. -/
def tagSize : TLVTagControl → Nat
  | anonymous => 0
  | contextSpecific => 1
  | commonProfile2Bytes => 2
  | commonProfile4Bytes => 4
  | implicitProfile2Bytes => 2
  | implicitProfile4Bytes => 4
  | fullyQualified6Bytes => 6
  | fullyQualified8Bytes => 8

end TLVTagControl

theorem TLVFieldSize.bytes_le (size : TLVFieldSize) : size.bytes ≤ 8 := by
  cases size <;> decide

/-- The control byte of an element head: the tag form and the element type
have no bits in common. -/
def controlByte (control : TLVTagControl) (type : TLVElementType) : UInt8 :=
  UInt8.ofNat control.code ||| UInt8.ofNat type.code

theorem tagControl_controlByte (control : TLVTagControl) {type : TLVElementType}
  (h : type ≠ .notSpecified) :
  TLVTagControl.ofControlByte (controlByte control type) = control := by
  cases type with
  | notSpecified => exact absurd rfl h
  | unnamed offset => revert offset; cases control <;> decide
  | _ => cases control <;> rfl

theorem elementType_controlByte (control : TLVTagControl) {type : TLVElementType}
  (h : type ≠ .notSpecified) :
  TLVElementType.ofControlByte (controlByte control type) = type := by
  cases type with
  | notSpecified => exact absurd rfl h
  | unnamed offset => revert offset; cases control <;> decide
  | _ => cases control <;> rfl

end Chip.TLV
