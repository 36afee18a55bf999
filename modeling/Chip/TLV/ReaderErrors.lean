import Chip.TLV.Fields

/-! An error that reading does not give: no call but `GetBytes` asks for a larger buffer. -/
namespace Chip.TLV

open Proc.Avoids TLVReader

theorem ensureData_avoids {e : ChipError} (hOther : e ≠ .bufferTooSmall) :
  Proc.Avoids .bufferTooSmall (ensureData e) := by
  refine .read_bind fun r => ?_
  split
  · refine (verify hOther).bind fun _ => ?_
    split
    · exact .fail hOther
    · exact .fail hOther
    · exact (modify _).bind fun _ => (verify hOther).bind fun _ => .modify _
  · exact .pure _

theorem consume_avoids (n : Nat) : Proc.Avoids .bufferTooSmall (consume n) :=
  .read_bind fun _ => (modify _).bind fun _ => .pure _

theorem readDataLoop_avoids (fuel len : Nat) : Proc.Avoids .bufferTooSmall (readDataLoop fuel len) := by
  induction fuel generalizing len with
  | zero => exact (verify (by decide)).bind fun _ => .pure _
  | succ fuel ih =>
    unfold readDataLoop
    split
    · exact .pure _
    · refine (ensureData_avoids (by decide)).bind fun _ => .read_bind fun r => ?_
      exact (consume_avoids _).bind fun _ => (ih _).bind fun _ => .pure _

theorem readHead_avoids (elemHeadBytes : Nat) : Proc.Avoids .bufferTooSmall (readHead elemHeadBytes) := by
  refine .read_bind fun r => ?_
  split
  · exact readDataLoop_avoids _ _
  · exact consume_avoids _

theorem verifyTagInContainer_avoids (containerType : TLVType) (tag : Tag) :
  verifyTagInContainer containerType tag ≠ .error .bufferTooSmall := by
  unfold verifyTagInContainer
  split
  all_goals first | split_ifs <;> simp | simp

theorem verifyElement_avoids : Proc.Avoids .bufferTooSmall verifyElement := by
  refine .read_bind fun r => ?_
  have hTag : ∀ {e}, verifyTagInContainer r.mContainerType r.mElemTag = .error e →
      e ≠ .bufferTooSmall := by
    rintro e hRefused rfl
    exact verifyTagInContainer_avoids _ _ hRefused
  split <;> split
  · exact (verify (by decide)).bind fun _ => (verify (by decide)).bind fun _ => verify (by decide)
  · refine (verify (by decide)).bind fun _ => ?_
    split
    · exact verify (by decide)
    · exact (fail (hTag ‹_›)).bind fun _ => verify (by decide)
  · exact (verify (by decide)).bind fun _ => (verify (by decide)).bind fun _ => .pure _
  · refine (verify (by decide)).bind fun _ => ?_
    split
    · exact .pure _
    · exact (fail (hTag ‹_›)).bind fun _ => .pure _

theorem readElement_avoids : Proc.Avoids .bufferTooSmall readElement := by
  refine (ensureData_avoids (by decide)).bind fun _ => .read_bind fun r => ?_
  refine (modify _).bind fun _ => (verify (by decide)).bind fun _ => ?_
  refine (readHead_avoids _).bind fun _ => (modify _).bind fun _ => ?_
  exact .read_bind fun _ => (verify (by decide)).bind fun _ => verifyElement_avoids

theorem skipData_avoids : Proc.Avoids .bufferTooSmall skipData := by
  refine .read_bind fun r => ?_
  split
  · exact (readDataLoop_avoids _ _).bind fun _ => .pure _
  · exact .pure _

theorem enterOrLeave_avoids (outer : TLVType) (nestLevel : Nat) :
  Proc.Avoids .bufferTooSmall (enterOrLeave outer nestLevel) := by
  refine .read_bind fun r => ?_
  split
  · exact (modify _).bind fun _ => .pure _
  · split
    · exact (modify _).bind fun _ => .pure _
    · exact .pure _

theorem skipLoop_avoids (outer : TLVType) (fuel nestLevel : Nat) :
  Proc.Avoids .bufferTooSmall (skipLoop outer fuel nestLevel) := by
  induction fuel generalizing nestLevel with
  | zero => exact .fail (by decide)
  | succ fuel ih =>
    refine .read_bind fun r => ?_
    split
    · exact .pure _
    · refine (enterOrLeave_avoids _ _).bind fun level => skipData_avoids.bind fun _ => ?_
      exact readElement_avoids.bind fun _ => ih level

theorem enterContainer_avoids : Proc.Avoids .bufferTooSmall enterContainer :=
  .read_bind fun _ => (verify (by decide)).bind fun _ =>
    (modify _).bind fun _ => .pure _

theorem exitContainer_avoids (outer : TLVType) : Proc.Avoids .bufferTooSmall (exitContainer outer) := by
  refine bind (.read_bind fun r => ?_) fun _ => .modify _
  exact (modify _).bind fun _ => skipLoop_avoids _ _ _

theorem next_avoids : Proc.Avoids .bufferTooSmall next := by
  have hSkip : Proc.Avoids .bufferTooSmall skip := by
    refine .read_bind fun r => (verify (by decide)).bind fun _ => ?_
    split
    · exact enterContainer_avoids.bind fun outer => exitContainer_avoids outer
    · exact skipData_avoids.bind fun _ => .modify _
  refine hSkip.bind fun _ => readElement_avoids.bind fun _ => .read_bind fun r => ?_
  refine (verify (by decide)).bind fun _ => ?_
  split
  · exact ensureData_avoids (by decide)
  · exact .pure _

theorem nextTag_avoids (tag : Tag) : Proc.Avoids .bufferTooSmall (nextTag tag) :=
  next_avoids.bind fun _ => .read_bind fun _ => .verify (by decide)

theorem nextTypeTag_avoids (type : TLVType) (tag : Tag) :
  Proc.Avoids .bufferTooSmall (nextTypeTag type tag) :=
  (nextTag_avoids tag).bind fun _ => .read_bind fun _ => .verify (by decide)

end Chip.TLV
