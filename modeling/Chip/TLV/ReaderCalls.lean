import Chip.TLV.Skipping

/-! The calls of `TLVReader.cpp` that work on two readers or on a copy of a reader, and the iteration
of `TLVUtilities.cpp`. The readers of a program are numbered, and two of a call may be the same. -/
namespace Chip.TLV

open TLVReader

abbrev Readers := Nat → TLVReader

namespace Readers

variable {α : Type}

def onReader (i : Nat) (m : ReaderM α) : Proc ChipError Readers α := fun readers =>
  ((m (readers i)).1, Function.update readers i (m (readers i)).2)

def openContainer (i containerReader : Nat) : Proc ChipError Readers Unit := do
  let readers ← Proc.read
  let elemType := (readers i).elementType
  Proc.verify (elemType.isContainer = true) .incorrectState
  Proc.modify fun readers => Function.update readers containerReader
    { (readers i).clearElementState with mContainerType := elemType.toTLVType, mContainerOpen := false }
  Proc.modify fun readers => Function.update readers i { readers i with mContainerOpen := true }

/-- What `CloseContainer` takes over from the reader of the container. -/
def takePosition (r containerReader : TLVReader) : TLVReader :=
  { r with
    mBackingStore := containerReader.mBackingStore
    mBuf := containerReader.mBuf
    mLenRead := containerReader.mLenRead
    mMaxLen := containerReader.mMaxLen }.clearElementState

def closeContainer (i containerReader : Nat) : Proc ChipError Readers Unit := do
  let readers ← Proc.read
  Proc.verify ((readers i).mContainerOpen = true) .incorrectState
  -- No element type has the value of an unknown container.
  Proc.verify ((readers containerReader).mContainerType ≠ .unknownContainer ∧
    (readers containerReader).mContainerType.toElementType = (readers i).elementType) .incorrectState
  onReader containerReader skipToEndOfContainer
  Proc.modify fun readers => Function.update readers i (takePosition (readers i) (readers containerReader))

end Readers

/-- The loop of `FindElementWithTag`. Each turn reads an element head, so the number of available
bytes bounds the number of turns. -/
def findLoop (tag : Tag) : Nat → ReaderM Unit
  | 0 => Proc.fail .internal
  | fuel + 1 => do
      next
      let r ← Proc.read
      Proc.verify (r.getType ≠ .notSpecified) .invalidTLVElement
      if tag = r.getTag then pure () else findLoop tag fuel

/-- `FindElementWithTag` on a copy of the reader, which the destination becomes. -/
def findElementWithTag (tag : Tag) (r : TLVReader) : Except ChipError TLVReader :=
  (findLoop tag (r.available + 1) r).1.map fun _ => (findLoop tag (r.available + 1) r).2

def kMaxRecursionDepth : Nat := 10

/-- What is called for each element, with the reader on it, the depth and the context. -/
abbrev IterateHandler (σ : Type) := TLVReader → Nat → σ → Except ChipError Unit × σ

/-- `none` marks a loop that has run out of turns, which the reader's own loops mark as `internal`. -/
abbrev IterateM (σ : Type) := Proc (Option ChipError) (TLVReader × σ)

def turnsError (e : ChipError) : Option ChipError := if e = .internal then none else some e

namespace Utilities

variable {σ α : Type}

def onReader (m : ReaderM α) : IterateM σ α := fun s =>
  ((m s.1).1.mapError turnsError, (m s.1).2, s.2)

def callHandler (handler : IterateHandler σ) (depth : Nat) : IterateM σ Unit := fun s =>
  ((handler s.1 depth s.2).1.mapError some, s.1, (handler s.1 depth s.2).2)

/-- What `Iterate` does before its loop. -/
def enter (depth : Nat) : IterateM σ Unit := do
  Proc.verify (depth < kMaxRecursionDepth) (some .recursionDepthLimit)
  let s ← Proc.read
  if s.1.getType = .notSpecified then onReader next else pure ()

/-- The members of a container have been iterated over, up to their end. -/
def reachesEnd : Except (Option ChipError) Unit → IterateM σ Unit
  | .error (some .endOfTLV) => pure ()
  | .error e => Proc.fail e
  | .ok () => pure ()

def iterateMembers (members : IterateM σ Unit) : IterateM σ Unit := do
  let containerType ← onReader enterContainer
  let retval ← Proc.attempt members
  reachesEnd retval
  onReader (exitContainer containerType)

/-- The loop of `Iterate`. A turn reads at least the head of the element after its own one. -/
def iterateLoop (handler : IterateHandler σ) (recurse : Bool) : Nat → Nat → IterateM σ Unit
  | 0, _ => Proc.fail none
  | fuel + 1, depth => do
      let s ← Proc.read
      let theType := s.1.getType
      callHandler handler depth
      let members : IterateM σ Unit := do
        enter (depth + 1)
        iterateLoop handler recurse fuel (depth + 1)
      if recurse = true ∧ theType.isContainer = true then iterateMembers members else pure ()
      onReader next
      iterateLoop handler recurse fuel depth

/-- `Iterate` over a copy of the reader, with the context after it. -/
def iterate (handler : IterateHandler σ) (recurse : Bool) (r : TLVReader) (context : σ) :
  Except (Option ChipError) Unit × σ :=
  let result := (do enter 0; iterateLoop handler recurse (r.available + 1) 0 : IterateM σ Unit) (r, context)
  (result.1, result.2.2)

end Utilities

/-- A call on the readers of a program. The types of outer containers may be any that the program
has at hand. -/
inductive ReaderCall (σ : Type) where
  | next (i : Nat)
  | skip (i : Nat)
  | enterContainer (i : Nat)
  | exitContainer (i : Nat) (outerContainerType : TLVType)
  | openContainer (i containerReader : Nat)
  | closeContainer (i containerReader : Nat)
  | findElementWithTag (i : Nat) (tag : Tag) (destReader : Nat)
  | countRemainingInContainer (i : Nat)
  | iterate (i : Nat) (handler : IterateHandler σ) (recurse : Bool)

namespace ReaderCall

variable {σ α : Type}

abbrev ProgramM (σ : Type) := Proc (Option ChipError) (Readers × σ)

def onReaders (m : Proc ChipError Readers α) : ProgramM σ Unit := fun s =>
  (((m s.1).1.mapError turnsError).map fun _ => (), (m s.1).2, s.2)

def onCopy (i : Nat) (answer : TLVReader → Except ChipError α) (store : α → Readers → Readers) :
  Proc ChipError Readers Unit := do
  let readers ← Proc.read
  let a ← Proc.lift (answer (readers i))
  Proc.modify (store a)

def run : ReaderCall σ → ProgramM σ Unit
  | next i => onReaders (Readers.onReader i TLV.next)
  | skip i => onReaders (Readers.onReader i TLV.skip)
  | enterContainer i => onReaders (Readers.onReader i TLV.enterContainer)
  | exitContainer i outer => onReaders (Readers.onReader i (TLV.exitContainer outer))
  | openContainer i containerReader => onReaders (Readers.openContainer i containerReader)
  | closeContainer i containerReader => onReaders (Readers.closeContainer i containerReader)
  | findElementWithTag i tag destReader =>
    onReaders (onCopy i (TLV.findElementWithTag tag) fun r readers => Function.update readers destReader r)
  | countRemainingInContainer i => onReaders (onCopy i TLV.countRemainingInContainer fun _ => id)
  | iterate i handler recurse => fun s =>
    let result := Utilities.iterate handler recurse (s.1 i) s.2
    (result.1, s.1, result.2)

/-- The readers and the context after these calls, whatever each of them returns. -/
def after : List (ReaderCall σ) → Readers × σ → Readers × σ
  | [], s => s
  | call :: calls, s => after calls (call.run s).2

end ReaderCall

end Chip.TLV
