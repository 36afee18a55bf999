import Chip.TLV.WriterSpec

/-! Runs of encoder calls. A session is the writer in use together with the
containers opened around it: those started on the writer itself and those whose
members are written by a container writer, whose parent waits to be resumed. Calls
go to the innermost writer, and containers are closed in the order the interface
asks for. -/
namespace Chip.TLV

inductive WriterCall where
  | putBoolean (tag : Tag) (v : Bool)
  | putUInt64 (tag : Tag) (v : UInt64)
  | putInt64 (tag : Tag) (v : Int64)
  | putUIntPreserveSize (tag : Tag) (size : TLVFieldSize) (v : UInt64)
  | putIntPreserveSize (tag : Tag) (size : TLVFieldSize) (v : Int64)
  | putFloat (tag : Tag) (bits : UInt32)
  | putDouble (tag : Tag) (bits : UInt64)
  | putNull (tag : Tag)
  | putBytes (tag : Tag) (data : Bytes)
  | putString (tag : Tag) (data : Bytes)
  | putStringF (tag : Tag) (formatted : Bytes)
  | putPreEncodedContainer (tag : Tag) (containerType : TLVType) (data : Bytes)
  | copyElement (tag : Tag) (reader : TLVReader)

namespace WriterCall

def run : WriterCall → WriterM Unit
  | putBoolean tag v => TLV.putBoolean tag v
  | putUInt64 tag v => TLV.putUInt64 tag v
  | putInt64 tag v => TLV.putInt64 tag v
  | putUIntPreserveSize tag size v => TLV.putUIntPreserveSize tag size v
  | putIntPreserveSize tag size v => TLV.putIntPreserveSize tag size v
  | putFloat tag bits => TLV.putFloat tag bits
  | putDouble tag bits => TLV.putDouble tag bits
  | putNull tag => TLV.putNull tag
  | putBytes tag data => TLV.putBytes tag data
  | putString tag data => TLV.putString tag data
  | putStringF tag formatted => TLV.putStringF tag formatted
  | putPreEncodedContainer tag containerType data =>
    TLV.putPreEncodedContainer tag containerType data
  | copyElement tag reader => do
      let _ ← TLV.copyElement tag reader
      pure ()

/-- The element type, tag and value field of the head that the call writes. -/
def head : WriterCall → TLVElementType × Tag × Nat
  | putBoolean tag v => (if v then .booleanTrue else .booleanFalse, tag, 0)
  | putUInt64 tag v => (uintElementType v, tag, v.toNat)
  | putInt64 tag v => (intElementType v, tag, v.toUInt64.toNat)
  | putUIntPreserveSize tag size v =>
    match size with
    | .size1Byte => (.uint8, tag, v.toNat % 2 ^ 8)
    | .size2Byte => (.uint16, tag, v.toNat % 2 ^ 16)
    | .size4Byte => (.uint32, tag, v.toNat % 2 ^ 32)
    | _ => (.uint64, tag, v.toNat)
  | putIntPreserveSize tag size v =>
    match size with
    | .size1Byte => (.int8, tag, v.toUInt64.toNat % 2 ^ 8)
    | .size2Byte => (.int16, tag, v.toUInt64.toNat % 2 ^ 16)
    | .size4Byte => (.int32, tag, v.toUInt64.toNat % 2 ^ 32)
    | _ => (.int64, tag, v.toUInt64.toNat)
  | putFloat tag bits => (.floatingPointNumber32, tag, bits.toNat)
  | putDouble tag bits => (.floatingPointNumber64, tag, bits.toNat)
  | putNull tag => (.null, tag, 0)
  | putBytes tag data => (byteStringElementType data.length, tag, data.length)
  | putString tag data => (utf8StringElementType data.length, tag, data.length)
  | putStringF tag formatted => (utf8StringElementType formatted.length, tag, formatted.length)
  | putPreEncodedContainer tag containerType _ => (containerType.toElementType, tag, 0)
  | copyElement tag reader => (reader.elementType, tag, reader.mElemLenOrVal)

/-- The number of bytes that the call passes to `WriteData` after the head.
`PutStringF` makes a limit test of its own that cannot wrap, so nothing is left for
`WriteData` to test. -/
def dataLen : WriterCall → Nat
  | putBytes _ data | putString _ data | putPreEncodedContainer _ _ data => data.length
  | copyElement _ reader => sub32 (skip reader).2.getLengthRead reader.getLengthRead
  | _ => 0

/-- The most bytes that the call passes to `WriteData` at once. -/
def pieceLen : WriterCall → Nat
  | copyElement _ _ => tlvCopyChunkSize
  | c => c.dataLen

end WriterCall

/-- An open container: started on the writer in use, with the outer container's
type to be restored, or opened with a container writer, with the parent to be
resumed. -/
inductive Frame where
  | started (outerContainerType : TLVType)
  | opened (parent : TLVWriter)

structure Session where
  writer : TLVWriter
  frames : List Frame

inductive SessionOp where
  | call (c : WriterCall)
  | startContainer (tag : Tag) (containerType : TLVType)
  | openContainer (tag : Tag) (containerType : TLVType)
  | close

abbrev SessionM := Proc ChipError Session

def onWriter {α : Type} (m : WriterM α) : SessionM α := fun s =>
  ((m s.writer).1, { s with writer := (m s.writer).2 })

/-- `EndContainer` or `CloseContainer`, whichever matches the innermost open
container. With none open `EndContainer` is refused. -/
def closeInnermost : SessionM Unit := fun s =>
  match s.frames with
  | [] => onWriter (endContainer .notSpecified) s
  | .started outerContainerType :: rest =>
    ((endContainer outerContainerType s.writer).1,
      ⟨(endContainer outerContainerType s.writer).2, rest⟩)
  | .opened parent :: rest =>
    ((closeContainer s.writer parent).1, ⟨(closeContainer s.writer parent).2, rest⟩)

def closeAll : Nat → SessionM Unit
  | 0 => pure ()
  | count + 1 => do
      closeInnermost
      closeAll count

namespace SessionOp

def run : SessionOp → SessionM Unit
  | call c => onWriter c.run
  | startContainer tag containerType => do
      let outerContainerType ← onWriter (TLV.startContainer tag containerType)
      Proc.modify fun s => { s with frames := .started outerContainerType :: s.frames }
  | openContainer tag containerType => do
      let containerWriter ← onWriter (TLV.openContainer tag containerType)
      Proc.modify fun s => ⟨containerWriter, .opened s.writer :: s.frames⟩
  | close => closeInnermost

theorem startContainer_run (tag : Tag) (type : TLVType) (s : Session) :
  (startContainer tag type).run s = match writeContainerHead tag type s.writer with
    | (.error e, w) => (.error e, { s with writer := w })
    | (.ok (), w) => (.ok (), ⟨{ w with mContainerType := type, mContainerOpen := false },
        .started w.mContainerType :: s.frames⟩) := by
  simp only [run, TLV.startContainer, onWriter, Proc.bind_apply]
  cases hHead : writeContainerHead tag type s.writer with
  | mk result w => cases result <;> rfl

theorem openContainer_run (tag : Tag) (type : TLVType) (s : Session) :
  (openContainer tag type).run s = match writeContainerHead tag type s.writer with
    | (.error e, w) => (.error e, { s with writer := w })
    | (.ok (), w) =>
      (.ok (), ⟨{ w with
          mLenWritten := 0
          mMaxLen := sub32 w.mMaxLen w.mLenWritten
          mContainerType := type
          mContainerOpen := false }, .opened { w with mContainerOpen := true } :: s.frames⟩) := by
  simp only [run, TLV.openContainer, onWriter, Proc.bind_apply]
  cases hHead : writeContainerHead tag type s.writer with
  | mk result w => cases result <;> rfl

end SessionOp

namespace Session

def start (w : TLVWriter) : Session := ⟨w, []⟩

/-- The state after a sequence of calls, each made whatever the earlier ones
returned. -/
def after : List SessionOp → Session → Session
  | [], s => s
  | op :: ops, s => after ops (op.run s).2

/-- All calls of a sequence return `CHIP_NO_ERROR`. -/
def Succeeds : List SessionOp → Session → Prop
  | [], _ => True
  | op :: ops, s => (op.run s).1 = .ok () ∧ Succeeds ops (op.run s).2

instance decidableSucceeds : (ops : List SessionOp) → (s : Session) → Decidable (Succeeds ops s)
  | [], _ => isTrue trivial
  | op :: ops, s =>
    haveI := decidableSucceeds ops (op.run s).2
    inferInstanceAs (Decidable ((op.run s).1 = .ok () ∧ Succeeds ops (op.run s).2))

def openContainers (s : Session) : Nat := s.frames.length

/-- The number of bytes written since the session began, by all its writers. -/
def bytesWritten (s : Session) : Nat := s.writer.emitted.length

end Session

/-- The write of a head and `dataLen` bytes, at most `pieceLen` at once, stays in
what the limit test covers: the direct path, which does not test `mLenWritten`
against the limit, is taken only when the head fits, and no sum of lengths that is
tested reaches `2 ^ 32`. -/
def WritesChecked (w : TLVWriter) (limit : Nat) (head : TLVElementType × Tag × Nat)
  (dataLen pieceLen : Nat) : Prop :=
  ∀ bytes, elementHead w.mContainerType w.implicitProfileId head.1 head.2.1 head.2.2 = .ok bytes →
    (stagingBufSize ≤ w.mRemainingLen → stagingBufSize ≤ limit →
      w.mLenWritten + bytes.length ≤ limit) ∧
    w.mLenWritten + bytes.length < 2 ^ 32 ∧
    (w.mLenWritten + bytes.length ≤ limit →
      min (limit + pieceLen) (w.mLenWritten + bytes.length + dataLen) < 2 ^ 32)

instance (w : TLVWriter) (limit : Nat) (head : TLVElementType × Tag × Nat)
    (dataLen pieceLen : Nat) : Decidable (WritesChecked w limit head dataLen pieceLen) :=
  match hHead : elementHead w.mContainerType w.implicitProfileId head.1 head.2.1 head.2.2 with
  | .error _ => isTrue fun bytes hBytes => by rw [hHead] at hBytes; cases hBytes
  | .ok bytes =>
    decidable_of_iff
      ((stagingBufSize ≤ w.mRemainingLen → stagingBufSize ≤ limit →
          w.mLenWritten + bytes.length ≤ limit) ∧
        w.mLenWritten + bytes.length < 2 ^ 32 ∧
        (w.mLenWritten + bytes.length ≤ limit →
          min (limit + pieceLen) (w.mLenWritten + bytes.length + dataLen) < 2 ^ 32))
      (by simp [WritesChecked, hHead])

def SessionOp.Checked (s : Session) : SessionOp → Prop
  | .call c => WritesChecked s.writer s.writer.mMaxLen c.head c.dataLen c.pieceLen
  | .startContainer tag containerType | .openContainer tag containerType =>
    WritesChecked s.writer (s.writer.mMaxLen - endOfContainerMarkerSize)
      (containerType.toElementType, tag, 0) 0 0
  | .close => True

instance (s : Session) (op : SessionOp) : Decidable (op.Checked s) :=
  match op with
  | .call _ | .startContainer .. | .openContainer .. =>
    inferInstanceAs (Decidable (WritesChecked ..))
  | .close => isTrue trivial

/-- Every call of a sequence meets the condition in the state it is made in. -/
def Session.Checked : List SessionOp → Session → Prop
  | [], _ => True
  | op :: ops, s => op.Checked s ∧ Session.Checked ops (op.run s).2

instance Session.decidableChecked : (ops : List SessionOp) → (s : Session) →
    Decidable (Session.Checked ops s)
  | [], _ => isTrue trivial
  | op :: ops, s =>
    haveI := Session.decidableChecked ops (op.run s).2
    inferInstanceAs (Decidable (op.Checked s ∧ Session.Checked ops (op.run s).2))

end Chip.TLV
