import Chip.TLV.Writer

/-! Sequences of TLV elements, how an application writes one with the encoder and
how it walks one with the parser. -/
namespace Chip.TLV

/-- The values of elements that are not containers. Floating point numbers are
bit patterns. -/
inductive Value where
  | signedInteger (v : Int64)
  | unsignedInteger (v : UInt64)
  | boolean (v : Bool)
  | null
  | float (bits : UInt32)
  | double (bits : UInt64)
  | utf8String (s : Bytes)
  | byteString (s : Bytes)
  deriving DecidableEq

/-- Sibling elements in order. A container holds a sequence of its own, so a
sequence is a finite forest of any depth. -/
inductive Elements where
  | nil
  | leaf (tag : Tag) (value : Value) (next : Elements)
  | container (tag : Tag) (type : TLVType) (members next : Elements)
  deriving DecidableEq

namespace Value

/-- The element type that the `Put` overload for this value selects. -/
def elementType : Value → TLVElementType
  | signedInteger v => intElementType v
  | unsignedInteger v => uintElementType v
  | boolean v => if v then .booleanTrue else .booleanFalse
  | null => .null
  | float _ => .floatingPointNumber32
  | double _ => .floatingPointNumber64
  | utf8String s => utf8StringElementType s.length
  | byteString s => byteStringElementType s.length

def lenOrVal : Value → Nat
  | signedInteger v => v.toUInt64.toNat
  | unsignedInteger v => v.toNat
  | boolean _ | null => 0
  | float bits => bits.toNat
  | double bits => bits.toNat
  | utf8String s | byteString s => s.length

def data : Value → Bytes
  | utf8String s | byteString s => s
  | _ => []

end Value

/-- Write one value with the `Put` overload for its type. -/
def putValue (tag : Tag) : Value → WriterM Unit
  | .signedInteger v => putInt64 tag v
  | .unsignedInteger v => putUInt64 tag v
  | .boolean v => putBoolean tag v
  | .null => putNull tag
  | .float bits => putFloat tag bits
  | .double bits => putDouble tag bits
  | .utf8String s => putString tag s
  | .byteString s => putBytes tag s

def putElements : Elements → WriterM Unit
  | .nil => pure ()
  | .leaf tag value next => do
      putValue tag value
      putElements next
  | .container tag type members next => do
      let outerContainerType ← startContainer tag type
      putElements members
      endContainer outerContainerType
      putElements next

def liftGet {α : Type} (get : TLVReader → Except ChipError α) : ReaderM α := fun r => (get r, r)

/-- Read the value of the current element with the `Get` overload for its type. -/
def getValue : ReaderM Value := do
  let r ← Proc.read
  match r.getType with
  | .signedInteger => do return .signedInteger (← liftGet TLVReader.getInt64)
  | .unsignedInteger => do return .unsignedInteger (← liftGet TLVReader.getUInt64)
  | .boolean => do return .boolean (← liftGet TLVReader.getBool)
  | .null => return .null
  | .floatingPointNumber =>
    if r.elementType = .floatingPointNumber64 then do
      match ← liftGet TLVReader.getDouble with
      | .inl bits => return .float bits
      | .inr bits => return .double bits
    else do return .float (← liftGet TLVReader.getFloat)
  | .utf8String => do return .utf8String (← getBytes r.getLength)
  | .byteString => do return .byteString (← getBytes r.getLength)
  | _ => Proc.fail .wrongTLVType

/-- Walk a sequence to `CHIP_END_OF_TLV`, entering every container. Each turn
consumes an element head, so the input length bounds the number of turns. -/
def walk : Nat → ReaderM Elements
  | 0 => Proc.fail .internal
  | fuel + 1 => do
      match ← Proc.attempt next with
      | .error e => if e = .endOfTLV then pure .nil else Proc.fail e
      | .ok () => do
          let r ← Proc.read
          if r.elementType.isContainer then do
            let outerContainerType ← enterContainer
            let members ← walk fuel
            exitContainer outerContainerType
            let rest ← walk fuel
            pure (.container r.getTag r.getType members rest)
          else do
            let value ← getValue
            let rest ← walk fuel
            pure (.leaf r.getTag value rest)

def walkAll : ReaderM Elements := do
  let r ← Proc.read
  walk (r.mMaxLen + 1)

namespace Tag

/-- The tag forms an application can write: anonymous, context-specific or
profile-specific. -/
def IsAnonymous (tag : Tag) : Prop := tag = anonymousTag

def IsContext (tag : Tag) : Prop := ∃ tagNum, tag = contextTag tagNum

def IsProfile (tag : Tag) : Prop := profileIdFromTag tag ≠ specialTagProfileId

/-- Which tag forms may stand in which container; `notSpecified` is the top level. -/
def LegalIn (tag : Tag) : TLVType → Prop
  | .notSpecified => tag.IsAnonymous ∨ tag.IsProfile
  | .struct => tag.IsContext ∨ tag.IsProfile
  | .array => tag.IsAnonymous
  | .list => tag.IsAnonymous ∨ tag.IsContext ∨ tag.IsProfile
  | _ => False

end Tag

namespace Elements

/-- Every tag is legal in its container, containers have container types and
strings have a length that fits `uint32_t`. -/
def Legal : TLVType → Elements → Prop
  | _, nil => True
  | context, leaf tag value next =>
    tag.LegalIn context ∧ value.data.length < 2 ^ 32 ∧ Legal context next
  | context, container tag type members next =>
    tag.LegalIn context ∧ type.isContainer = true ∧ Legal type members ∧ Legal context next

def size : Elements → Nat
  | nil => 0
  | leaf _ _ next => 1 + next.size
  | container _ _ members next => 1 + members.size + next.size

end Elements

def headBytes (context : TLVType) (profile : BitVec 32) (elemType : TLVElementType) (tag : Tag)
  (lenOrVal : Nat) : Bytes :=
  (elementHead context profile elemType tag lenOrVal).toOption.getD []

/-- The terminator that `EndContainer` writes. -/
def terminator : Bytes := [controlByte .anonymous .endOfContainer]

def Elements.encode (profile : BitVec 32) : TLVType → Elements → Bytes
  | _, .nil => []
  | context, .leaf tag value next =>
    headBytes context profile value.elementType tag value.lenOrVal ++ value.data ++
      next.encode profile context
  | context, .container tag type members next =>
    headBytes context profile type.toElementType tag 0 ++ members.encode profile type ++
      terminator ++ next.encode profile context

end Chip.TLV
