import Chip.Dnssd.WrittenNames

/-! Names are read from a message as they were written to it, whichever pointers the writer put. -/
namespace Chip.Dnssd

open List SerializedQNameIterator

namespace SerializedQNameIterator

variable {it : SerializedQNameIterator} {label : Bytes} {dataEnd : Nat}

theorem nextItem_stays (hValid : it.mIsValid = true) (h : nextTurn false it = pure (.inr (false, it))) :
  (it.nextItem false).Yields (· = (false, it)) := by
  rw [nextItem, hValid]
  refine Looping.Yields.loop_turn ?_
  rw [h]
  exact .pure rfl

theorem nextItem_label (hValid : it.mIsValid = true) (h : it.item = .label label) :
  (it.nextItem false).Yields (· = (true, it.past label)) := by
  rw [nextItem, hValid]
  refine Looping.Yields.loop_turn ?_
  rw [nextTurn_label h]
  exact .pure rfl

theorem findDataEnd_yields (hValid : it.mIsValid = true)
  (h : DataEnd it.bytes it.mCurrentPosition dataEnd) : it.findDataEnd.Yields (· = some dataEnd) := by
  have hLoop : (Looping.loop (fun it : SerializedQNameIterator => do
      let next ← nextItem false it
      pure (if next.1 then .inl next.2 else .inr next.2)) it).Yields fun it' => it'.mIsValid = true ∧
        ((it'.item = .stop ∧ dataEnd = it'.mCurrentPosition + 1) ∨
          ∃ offset, it'.item = .pointer offset ∧ dataEnd = it'.mCurrentPosition + 2) := by
    generalize hPlace : it.mCurrentPosition = p at h
    generalize hBytes : it.bytes = bytes at h
    induction h generalizing it with
    | stop item =>
      subst hPlace hBytes
      refine Looping.Yields.loop_turn ((nextItem_stays hValid (nextTurn_stop item)).bind ?_)
      rintro _ rfl
      exact .pure ⟨hValid, .inl ⟨item, rfl⟩⟩
    | @pointer _ offset item =>
      subst hPlace hBytes
      refine Looping.Yields.loop_turn ((nextItem_stays hValid (nextTurn_stays item)).bind ?_)
      rintro _ rfl
      exact .pure ⟨hValid, .inr ⟨offset, item, rfl⟩⟩
    | label item next ih =>
      subst hPlace hBytes
      refine Looping.Yields.loop_turn ((nextItem_label hValid item).bind ?_)
      rintro _ rfl
      exact .pure (ih hValid rfl rfl)
  refine hLoop.bind fun it' hEnd => ?_
  obtain ⟨hValid', ⟨hItem, rfl⟩ | ⟨offset, hItem, rfl⟩⟩ := hEnd
  · obtain ⟨-, hRead⟩ := BytesRange.read_eq (itemAt_eq_stop.mp hItem)
    simp only [hValid', hRead, Bool.not_true, Bool.false_eq_true, if_false, Looping.pure_bind, if_true]
    exact .pure rfl
  · obtain ⟨length, low, hLength, hZero, hMask, hLow, -⟩ := itemAt_eq_pointer.mp hItem
    obtain ⟨-, hRead⟩ := BytesRange.read_eq hLength
    obtain ⟨hInside, -⟩ := BytesRange.read_eq hLow
    simp only [hValid', hRead, hZero, hMask, hInside, Bool.not_true, Bool.false_eq_true, if_false,
      Looping.pure_bind, if_true]
    exact .pure rfl

end SerializedQNameIterator

namespace RecordWriter

variable {w w' current : RecordWriter} {buf bytes : Bytes} {qname : FullQName} {i : Nat}

/-- The first part of a name that was written before, if there is one among the first parts, is at
a place that a pointer can name. -/
def FoundLow (w : RecordWriter) (qname : FullQName) (count : Nat) : Prop :=
  ∀ k < count, (∀ j < k, (w.findPreviousPosition (·.equalsFull (qname.drop j))).Gives (.ok none)) →
    ∀ p, (w.findPreviousPosition (·.equalsFull (qname.drop k))).Gives (.ok (some p)) →
      p ≤ kMaxReuseOffset

/-- The writer after a name: what was there before is followed by the name. -/
def Wrote (w : RecordWriter) (buf bytes : Bytes) (qname : FullQName) (count : Nat)
  (w' : RecordWriter) : Prop :=
  ∃ more, w'.Sound buf (bytes ++ more) ∧
    (FoundLow w qname count → (∀ part ∈ qname, 0 < part.strlen) →
      ReadsBack (bytes ++ more) bytes.length (bytes ++ more).length qname)

def NotFound (w : RecordWriter) (buf bytes : Bytes) (qname : FullQName) (j : Nat) : Prop :=
  Finds (fun rest answer => answer = sameName (labelsOf rest) (qname.drop j))
    (bytes.take buf.length) w.mPreviousQNames none

theorem ReadsBack.congr {start dataEnd : Nat} {a b : FullQName} (h : ReadsBack bytes start dataEnd a)
  (hSame : sameName a b = true) : ReadsBack bytes start dataEnd b := by
  obtain ⟨rest, hName, hRead, hEnd⟩ := h
  refine ⟨rest, hName, ?_, hEnd⟩
  have hFold : (labelsOf rest).map QNamePart.fold = a.map QNamePart.fold := beq_iff_eq.mp hRead
  rw [sameName, hFold]
  exact hSame

theorem Writing.wrote_end (hSound : w.Sound buf bytes) (h : Writing w buf bytes qname current)
  (count : Nat) : Wrote w buf bytes qname count (current.putEnd w.mOutput.mNeeded) := by
  obtain ⟨hPut, hRead⟩ := h.putEnd hSound
  exact ⟨_, hPut, fun _ => hRead⟩

theorem Writing.wrote_pointer {count p : Nat} (hSound : w.Sound buf bytes)
  (h : Writing w buf bytes (qname.take i) current) (hCount : i < count)
  (hBefore : ∀ j < i, NotFound w buf bytes qname j)
  (hFinds : Finds (fun rest answer => answer = sameName (labelsOf rest) (qname.drop i))
    (bytes.take buf.length) w.mPreviousQNames (some p)) (isFullyCompressed : Bool) :
  Wrote w buf bytes qname count
    (current.putPointer w.mOutput.mNeeded (p % 2 ^ 16) isFullyCompressed) := by
  obtain ⟨rest, hName, hSame⟩ := hFinds.place
  obtain ⟨hPut, hRead⟩ := h.putPointer hSound hName isFullyCompressed
  refine ⟨_, hPut, fun hLow hParts => ?_⟩
  have hSmall : p ≤ kMaxReuseOffset := hLow i hCount
    (fun j hj => (hSound.finds_iff _).mpr (hBefore j hj)) p ((hSound.finds_iff _).mpr hFinds)
  have hAll := hRead hSmall fun part hMem => hParts part (mem_of_mem_take hMem)
  refine hAll.congr ?_
  have hJoined := sameName_append_left hSame.symm (qname.take i)
  rwa [take_append_drop] at hJoined

theorem findPreviousName_bind {γ : Type} {isName : SerializedQNameIterator → Looping Fault Bool}
  {R : List (Bytes × Nat) → Bool → Prop} {f : Option Nat → Looping Fault γ} {P : γ → Prop}
  (hName : Compares isName R) (hSound : w.Sound buf bytes) {parts : FullQName}
  (h : Writing w buf bytes parts current)
  (hf : ∀ place, Finds R (bytes.take buf.length) w.mPreviousQNames place →
    (f (place.map (· % 2 ^ 16))).Yields P) : (current.findPreviousName isName >>= f).Yields P := by
  refine Looping.Yields.bind (P := fun r => ∃ place, r = Option.map (· % 2 ^ 16) place ∧
    Finds R (bytes.take buf.length) w.mPreviousQNames place) ?_ ?_
  · exact (h.findPreviousPosition hName hSound).bind fun place hFinds => .pure ⟨place, rfl, hFinds⟩
  · rintro r ⟨place, rfl, hFinds⟩
    exact hf place hFinds

/-- The state of the loop of `WriteQName` after some of the labels. -/
structure InFull (w : RecordWriter) (buf bytes : Bytes) (qname : FullQName) (i : Nat)
    (current : RecordWriter) : Prop where
  bounded : i ≤ qname.length
  writing : Writing w buf bytes (qname.take i) current
  notFound : ∀ j < i, NotFound w buf bytes qname j

theorem InFull.turn (hSound : w.Sound buf bytes) (hSizes : ∀ part ∈ qname, part.strlen ≤ kMaxValueSize)
  (h : InFull w buf bytes qname i current) (isFullyCompressed : Bool) :
  (writeFullTurn w qname (i, current, isFullyCompressed)).Yields fun turn => match turn with
    | .inl (i', current', _) => i < qname.length ∧ i' = (i + 1) % 2 ^ 16 ∧
        InFull w buf bytes qname (i + 1) current'
    | .inr w' => Wrote w buf bytes qname qname.length w' := by
  rw [writeFullTurn]
  cases hDrop : qname.drop i with
  | nil =>
    have hWriting := h.writing
    rw [take_of_length_le (drop_eq_nil_iff.mp hDrop)] at hWriting
    exact .pure (hWriting.wrote_end hSound qname.length)
  | cons part rest =>
    have hLess : i < qname.length := by
      by_contra hEnd
      rw [drop_eq_nil_of_le (Nat.le_of_not_lt hEnd)] at hDrop
      cases hDrop
    refine findPreviousName_bind (equalsFull_compares _) hSound h.writing
      fun place hFinds => ?_
    rw [← hDrop] at hFinds
    cases place with
    | some p => exact .pure (h.writing.wrote_pointer hSound hLess h.notFound hFinds _)
    | none =>
      have hPart : qname[i] = part := by
        rw [drop_eq_getElem_cons hLess] at hDrop
        exact (cons.inj hDrop).1
      have hTake : qname.take (i + 1) = qname.take i ++ [part] := by
        rw [take_succ_eq_append_getElem hLess, hPart]
      refine .pure ⟨hLess, rfl, hLess, ?_, fun j hj => ?_⟩
      · rw [hTake]
        exact h.writing.putPart _ (hSizes part (hPart ▸ getElem_mem hLess))
      · rcases Nat.lt_succ_iff_lt_or_eq.mp hj with hBefore | rfl
        · exact h.notFound j hBefore
        · exact hFinds

theorem Sound.inFull (h : w.Sound buf bytes) : InFull w buf bytes qname 0 w where
  bounded := Nat.zero_le _
  writing := h.writing
  notFound := nofun

section

variable (hSound : w.Sound buf bytes) (hSizes : ∀ part ∈ qname, part.strlen ≤ kMaxValueSize)
include hSound hSizes

theorem writeFullQName_yields (hCount : qname.length < 2 ^ 16) :
  (w.writeFullQName qname).Yields (Wrote w buf bytes qname qname.length) := by
  refine .loop (I := fun s => InFull w buf bytes qname s.1 s.2.1)
    (measure fun s : Nat × RecordWriter × Bool => qname.length - s.1).wf
    (fun ⟨i, current, isFullyCompressed⟩ hInv => ?_) hSound.inFull
  refine (hInv.turn hSound hSizes isFullyCompressed).mono fun turn hTurn => ?_
  match turn with
  | .inl (i', current', isFullyCompressed') =>
    obtain ⟨hLess, rfl, hNext⟩ := hTurn
    have hIndex : (i + 1) % 2 ^ 16 = i + 1 := Nat.mod_eq_of_lt (by omega)
    rw [hIndex]
    exact ⟨hNext, by change qname.length - (i + 1) < qname.length - i; omega⟩
  | .inr w' => exact hTurn

theorem writeFullTurn_again (hCount : 2 ^ 16 ≤ qname.length)
  (hNone : ∀ j < 2 ^ 16, NotFound w buf bytes qname j) (hIndex : i < 2 ^ 16) {parts : FullQName}
  (h : Writing w buf bytes parts current) (isFullyCompressed : Bool) :
  (writeFullTurn w qname (i, current, isFullyCompressed)).Yields fun turn =>
    ∃ current' parts', turn = .inl ((i + 1) % 2 ^ 16, current', false) ∧
      Writing w buf bytes parts' current' := by
  have hLess : i < qname.length := hIndex.trans_le hCount
  have hDrop := drop_eq_getElem_cons hLess
  rw [writeFullTurn, hDrop]
  refine findPreviousName_bind (equalsFull_compares _) hSound h
    fun place hFinds => ?_
  rw [← hDrop] at hFinds
  cases hFinds.unique (hNone i hIndex)
  exact .pure ⟨_, _, rfl, h.putPart _ (hSizes _ (getElem_mem hLess))⟩

theorem writeFullQName_secures :
  (w.writeFullQName qname).Secures (Wrote w buf bytes qname qname.length) := by
  by_cases hCount : qname.length < 2 ^ 16
  · exact (writeFullQName_yields hSound hSizes hCount).secures
  · refine Looping.secures_loop (I := fun s => s.1 < 2 ^ 16 ∧ (InFull w buf bytes qname s.1 s.2.1 ∨
      ((∀ j < 2 ^ 16, NotFound w buf bytes qname j) ∧ ∃ parts, Writing w buf bytes parts s.2.1)))
      (fun ⟨i, current, isFullyCompressed⟩ hInv => ?_) ⟨Nat.two_pow_pos 16, .inl hSound.inFull⟩
    have hNextIndex : (i + 1) % 2 ^ 16 < 2 ^ 16 := Nat.mod_lt _ (by decide)
    obtain ⟨hIndex, hInFull | ⟨hNone, parts, hWriting⟩⟩ := hInv
    · refine (hInFull.turn hSound hSizes isFullyCompressed).mono fun turn hTurn => ?_
      match turn with
      | .inl (i', current', isFullyCompressed') =>
        obtain ⟨-, rfl, hNext⟩ := hTurn
        refine ⟨hNextIndex, ?_⟩
        by_cases hWraps : i + 1 < 2 ^ 16
        · left
          rwa [Nat.mod_eq_of_lt hWraps]
        · have hAll : i + 1 = 2 ^ 16 := Nat.le_antisymm hIndex (Nat.le_of_not_lt hWraps)
          exact .inr ⟨hAll ▸ hNext.notFound, _, hNext.writing⟩
      | .inr w' => exact hTurn
    · refine (writeFullTurn_again hSound hSizes (Nat.le_of_not_lt hCount) hNone hIndex hWriting
        isFullyCompressed).mono fun turn hTurn => ?_
      obtain ⟨current', parts', rfl, hNext⟩ := hTurn
      exact ⟨hNextIndex, .inr ⟨hNone, parts', hNext⟩⟩

end

theorem writeSerialized_rest {it : SerializedQNameIterator} {rest : List (Bytes × Nat)}
  {parts : FullQName} (hSound : w.Sound buf bytes) (hSizes : ∀ part ∈ labelsOf rest, part.strlen ≤ kMaxValueSize)
  (h : it.Reads rest) (hWriting : Writing w buf bytes parts current)
  (hBefore : ∀ j < parts.length, NotFound w buf bytes (parts ++ labelsOf rest) j)
  (isFullyCompressed : Bool) :
  (Looping.loop (writeSerializedTurn w) (it, current, isFullyCompressed)).Yields
    (Wrote w buf bytes (parts ++ labelsOf rest) (parts.length + rest.length + 1)) := by
  have hTake : (parts ++ labelsOf rest).take parts.length = parts := take_left
  have hDrop : (parts ++ labelsOf rest).drop parts.length = labelsOf rest := drop_left
  induction rest generalizing it parts current isFullyCompressed with
  | nil =>
    refine Looping.Yields.loop_turn (findPreviousName_bind
      (equals_compares h) hSound hWriting fun place hFinds => ?_)
    cases place with
    | some p =>
      refine .pure (Writing.wrote_pointer hSound (hTake.symm ▸ hWriting) (by simp) hBefore ?_ _)
      rw [hDrop]
      exact hFinds
    | none =>
      refine h.next.bind ?_
      rintro ⟨has, after⟩ hAfter
      obtain ⟨rfl, -, -⟩ := hAfter
      rw [labelsOf, map_nil, append_nil]
      exact .pure (hWriting.wrote_end hSound _)
  | cons first rest ih =>
    refine Looping.Yields.loop_turn (findPreviousName_bind
      (equals_compares h) hSound hWriting fun place hFinds => ?_)
    cases place with
    | some p =>
      refine .pure (Writing.wrote_pointer hSound (hTake.symm ▸ hWriting) (by omega) hBefore ?_ _)
      rw [hDrop]
      exact hFinds
    | none =>
      refine h.next.bind ?_
      rintro ⟨has, after⟩ hAfter
      obtain ⟨rfl, hValue, -, hReads, -⟩ := hAfter
      have hLabel : after.value = .ofBuffer first.1 := congrArg QNamePart.ofBuffer hValue
      have hJoined : parts ++ labelsOf (first :: rest) = parts ++ [after.value] ++ labelsOf rest := by
        rw [hLabel, append_assoc]
        rfl
      have hCount : parts.length + (first :: rest).length + 1 =
          (parts ++ [after.value]).length + rest.length + 1 := by
        simp only [length_append, length_cons, length_nil]
        omega
      have hNotHere : NotFound w buf bytes (parts ++ labelsOf (first :: rest)) parts.length := by
        rw [NotFound, hDrop]
        exact hFinds
      simp only [hReads.valid, Bool.not_true, Bool.false_eq_true, if_false]
      rw [hJoined, hCount]
      rw [hJoined] at hBefore hNotHere
      refine .pure (ih (fun part hMem => hSizes part (mem_cons_of_mem _ hMem)) hReads
        (hWriting.putPart _ ?_) (fun j hj => ?_) false take_left drop_left)
      · rw [hLabel]
        exact hSizes _ mem_cons_self
      · rw [length_append, length_singleton] at hj
        rcases Nat.lt_succ_iff_lt_or_eq.mp hj with hLess | rfl
        · exact hBefore j hLess
        · exact hNotHere

theorem writeSerializedQName_yields {it : SerializedQNameIterator} {rest : List (Bytes × Nat)}
  (hSound : w.Sound buf bytes) (hSizes : ∀ part ∈ labelsOf rest, part.strlen ≤ kMaxValueSize)
  (h : it.Reads rest) :
  (w.writeSerializedQName it).Yields (Wrote w buf bytes (labelsOf rest) (rest.length + 1)) := by
  have hAll := writeSerialized_rest hSound hSizes h hSound.writing nofun true
  rwa [nil_append, length_nil, Nat.zero_add] at hAll

end RecordWriter
end Chip.Dnssd
