import Chip.Dnssd.RecordWriter

/-! The search for a name among those that were written before. -/
namespace Chip.Dnssd

open Looping.Yields

/-- What a search of one name gives. The relation says what the comparison may answer where the
name has these labels before it. -/
def FoundIn (R : List (Bytes × Nat) → Bool → Prop) : Nat → List (Bytes × Nat) → Option Nat → Prop
  | p, [], r => (R [] true ∧ r = some p) ∨ (R [] false ∧ r = none)
  | p, (label, next) :: rest, r =>
    (R ((label, next) :: rest) true ∧ r = some p) ∨
      (R ((label, next) :: rest) false ∧ FoundIn R next rest r)

def Finds (R : List (Bytes × Nat) → Bool → Prop) (bytes : Bytes) : List Nat → Option Nat → Prop
  | [], r => r = none
  | offset :: slots, r =>
    if offset = kInvalidOffset then Finds R bytes slots r
    else ∃ rest first, NameAt bytes offset offset rest ∧ FoundIn R offset rest first ∧
      if first.isSome then r = first else Finds R bytes slots r

section Search

variable {R : List (Bytes × Nat) → Bool → Prop} {bytes : Bytes} {p q : Nat} {r r' : Option Nat}
  {rest : List (Bytes × Nat)} {slots : List Nat}

theorem FoundIn.place {bound : Nat} (hName : NameAt bytes bound p rest) (hBound : bound ≤ p)
  (h : FoundIn R p rest (some q)) : ∃ rest', NameAt bytes q q rest' ∧ R rest' true := by
  induction hName with
  | stop item =>
    obtain ⟨hR, hPlace⟩ | ⟨-, hPlace⟩ := h
    · cases hPlace
      exact ⟨[], .stop item, hR⟩
    · cases hPlace
  | label item next ih =>
    obtain ⟨hR, hPlace⟩ | ⟨-, hLater⟩ := h
    · cases hPlace
      exact ⟨_, (NameAt.label item next).mono hBound, hR⟩
    · exact ih (by omega) hLater
  | @pointer bound p offset rest item bounded back next ih =>
    have hHere : R rest true → some q = some p → ∃ rest', NameAt bytes q q rest' ∧ R rest' true := by
      intro hR hPlace
      cases hPlace
      exact ⟨rest, .pointer item (Nat.le_of_lt back) back next, hR⟩
    cases rest with
    | nil =>
      obtain ⟨hR, hPlace⟩ | ⟨-, hPlace⟩ := h
      · exact hHere hR hPlace
      · cases hPlace
    | cons first rest =>
      obtain ⟨hR, hPlace⟩ | hLater := h
      · exact hHere hR hPlace
      · exact ih (Nat.le_refl offset) (.inr hLater)

theorem Finds.place (h : Finds R bytes slots (some q)) :
  ∃ rest, NameAt bytes q q rest ∧ R rest true := by
  induction slots with
  | nil => cases h
  | cons offset slots ih =>
    rw [Finds] at h
    by_cases hFree : offset = kInvalidOffset
    · exact ih (by rwa [if_pos hFree] at h)
    · rw [if_neg hFree] at h
      obtain ⟨rest, first, hName, hFirst, hResult⟩ := h
      cases first with
      | none => exact ih hResult
      | some place =>
        cases hResult
        exact hFirst.place hName (Nat.le_refl offset)

theorem Finds.append (h : Finds R bytes slots r) (more : Bytes) : Finds R (bytes ++ more) slots r := by
  induction slots with
  | nil => exact h
  | cons offset slots ih =>
    rw [Finds] at h ⊢
    by_cases hFree : offset = kInvalidOffset
    · rw [if_pos hFree] at h ⊢
      exact ih h
    · rw [if_neg hFree] at h ⊢
      obtain ⟨rest, first, hName, hFirst, hResult⟩ := h
      refine ⟨rest, first, hName.append more, hFirst, ?_⟩
      cases first with
      | none => exact ih hResult
      | some place => exact hResult

def NamesAt (bytes : Bytes) (slots : List Nat) : Prop :=
  ∀ offset ∈ slots, offset ≠ kInvalidOffset → ∃ rest, NameAt bytes offset offset rest

theorem NamesAt.append (h : NamesAt bytes slots) (more : Bytes) : NamesAt (bytes ++ more) slots := by
  intro offset hMem hUsed
  obtain ⟨rest, hName⟩ := h offset hMem hUsed
  exact ⟨rest, hName.append more⟩

theorem Finds.append_iff {more : Bytes} (hNames : NamesAt bytes slots) :
  Finds R (bytes ++ more) slots r ↔ Finds R bytes slots r := by
  constructor
  · intro h
    induction slots with
    | nil => exact h
    | cons offset slots ih =>
      have hRest := ih fun o hMem => hNames o (List.mem_cons_of_mem offset hMem)
      rw [Finds] at h ⊢
      by_cases hFree : offset = kInvalidOffset
      · rw [if_pos hFree] at h ⊢
        exact hRest h
      · rw [if_neg hFree] at h ⊢
        obtain ⟨rest, first, hName, hFirst, hResult⟩ := h
        obtain ⟨rest', hName'⟩ := hNames offset List.mem_cons_self hFree
        cases hName.unique (hName'.append more)
        refine ⟨rest, first, hName', hFirst, ?_⟩
        cases first with
        | none => exact hRest hResult
        | some place => exact hResult
  · exact fun h => h.append more

variable {same : List (Bytes × Nat) → Bool}

theorem FoundIn.unique (h : FoundIn (fun rest answer => answer = same rest) p rest r)
  (h' : FoundIn (fun rest answer => answer = same rest) p rest r') : r = r' := by
  induction rest generalizing p with
  | nil =>
    obtain ⟨hSame, rfl⟩ | ⟨hSame, rfl⟩ := h <;> obtain ⟨hSame', rfl⟩ | ⟨hSame', rfl⟩ := h'
    · rfl
    · cases hSame.trans hSame'.symm
    · cases hSame.trans hSame'.symm
    · rfl
  | cons first rest ih =>
    obtain ⟨hSame, rfl⟩ | ⟨hSame, h⟩ := h <;> obtain ⟨hSame', rfl⟩ | ⟨hSame', h'⟩ := h'
    · rfl
    · cases hSame.trans hSame'.symm
    · cases hSame.trans hSame'.symm
    · exact ih h h'

theorem Finds.unique (h : Finds (fun rest answer => answer = same rest) bytes slots r)
  (h' : Finds (fun rest answer => answer = same rest) bytes slots r') : r = r' := by
  induction slots with
  | nil => exact h.trans h'.symm
  | cons offset slots ih =>
    rw [Finds] at h h'
    by_cases hFree : offset = kInvalidOffset
    · rw [if_pos hFree] at h h'
      exact ih h h'
    · rw [if_neg hFree] at h h'
      obtain ⟨rest, first, hName, hFirst, hResult⟩ := h
      obtain ⟨rest', first', hName', hFirst', hResult'⟩ := h'
      cases hName.unique hName'
      cases hFirst.unique hFirst'
      cases first with
      | none => exact ih hResult hResult'
      | some place => exact hResult.trans hResult'.symm

end Search

namespace RecordWriter

variable {R : List (Bytes × Nat) → Bool → Prop} {w : RecordWriter}
  {isName : SerializedQNameIterator → Looping Fault Bool}

/-- The comparison with a name ends, and answers as the relation says. -/
def Compares (isName : SerializedQNameIterator → Looping Fault Bool)
  (R : List (Bytes × Nat) → Bool → Prop) : Prop :=
  ∀ previous rest, previous.Reads rest → (isName previous).Yields (R rest)

theorem findIn_yields {previous : SerializedQNameIterator} {rest : List (Bytes × Nat)}
  (hName : Compares isName R) (h : previous.Reads rest) :
  (findIn isName previous).Yields (FoundIn R previous.mCurrentPosition rest) := by
  induction rest generalizing previous with
  | nil =>
    refine loop_turn ?_
    simp only [h.valid, Bool.not_true, Bool.false_eq_true, if_false]
    refine (hName previous [] h).bind fun same hSame => ?_
    cases same with
    | true => exact .pure (.inl ⟨hSame, rfl⟩)
    | false =>
      refine h.next.bind fun ⟨has, after⟩ hAfter => ?_
      obtain ⟨rfl, -, -⟩ := hAfter
      exact .pure (.inr ⟨hSame, rfl⟩)
  | cons first rest ih =>
    obtain ⟨label, next⟩ := first
    refine loop_turn ?_
    simp only [h.valid, Bool.not_true, Bool.false_eq_true, if_false]
    refine (hName previous _ h).bind fun same hSame => ?_
    cases same with
    | true => exact .pure (.inl ⟨hSame, rfl⟩)
    | false =>
      refine h.next.bind fun ⟨has, after⟩ hAfter => ?_
      obtain ⟨rfl, -, hPlace, hReads, -⟩ := hAfter
      refine .pure ((ih hReads).mono fun r hFound => .inr ⟨hSame, ?_⟩)
      rwa [← hPlace]

theorem findAmong_yields {slots : List Nat} (hName : Compares isName R)
  (hSlots : NamesAt w.validData.bytes slots) :
  (w.findAmong isName slots).Yields (Finds R w.validData.bytes slots) := by
  induction slots with
  | nil => exact .pure rfl
  | cons offset slots ih =>
    have hRest := ih fun o hMem => hSlots o (List.mem_cons_of_mem offset hMem)
    by_cases hFree : offset = kInvalidOffset
    · have hNowhere : (findIn isName (w.previousName offset)).Yields fun r => r = none := by
        rw [previousName, if_pos hFree]
        exact loop_turn (.pure rfl)
      refine hNowhere.bind fun r hNone => ?_
      cases hNone
      exact hRest.mono fun r hFinds => by rwa [Finds, if_pos hFree]
    · obtain ⟨rest, hRead⟩ := hSlots offset List.mem_cons_self hFree
      have hReads : (w.previousName offset).Reads rest := by
        rw [previousName, if_neg hFree]
        exact ⟨rfl, Nat.le_refl offset, hRead⟩
      have hPlace : (w.previousName offset).mCurrentPosition = offset := by
        rw [previousName, if_neg hFree]
        rfl
      refine (findIn_yields hName hReads).bind fun first hFirst => ?_
      rw [hPlace] at hFirst
      cases first with
      | some place =>
        refine .pure ?_
        rw [Finds, if_neg hFree]
        exact ⟨rest, some place, hRead, hFirst, rfl⟩
      | none =>
        refine hRest.mono fun r hFinds => ?_
        rw [Finds, if_neg hFree]
        exact ⟨rest, none, hRead, hFirst, hFinds⟩

theorem findPreviousPosition_yields (hName : Compares isName R)
  (hSlots : NamesAt w.validData.bytes w.mPreviousQNames) :
  (w.findPreviousPosition isName).Yields (Finds R w.validData.bytes w.mPreviousQNames) :=
  findAmong_yields hName hSlots

end RecordWriter

def QNamePart.fold (part : QNamePart) : Bytes := part.chars.map tolower

def sameName (a b : FullQName) : Bool := a.map QNamePart.fold == b.map QNamePart.fold

theorem sameName_cons (a b : QNamePart) (as bs : FullQName) :
  sameName (a :: as) (b :: bs) = (strcasecmp a b && sameName as bs) := by
  simp [sameName, strcasecmp, QNamePart.fold, Bool.and_comm, List.cons_beq_cons]

namespace SerializedQNameIterator

theorem equalsFull_compares (names : FullQName) :
  RecordWriter.Compares (·.equalsFull names)
    fun rest answer => answer = sameName (labelsOf rest) names := by
  intro previous rest h
  induction names generalizing previous rest with
  | nil =>
    refine h.next.bind fun ⟨has, after⟩ hAfter => ?_
    cases rest with
    | nil =>
      obtain ⟨rfl, -, -⟩ := hAfter
      exact .pure rfl
    | cons first rest =>
      obtain ⟨rfl, -⟩ := hAfter
      exact .pure rfl
  | cons name names ih =>
    refine h.next.bind fun ⟨has, after⟩ hAfter => ?_
    cases rest with
    | nil =>
      obtain ⟨rfl, -, -⟩ := hAfter
      exact .pure rfl
    | cons first rest =>
      obtain ⟨rfl, hValue, -, hReads, -⟩ := hAfter
      have hLabel : after.value = .ofBuffer first.1 := congrArg QNamePart.ofBuffer hValue
      simp only [labelsOf, List.map_cons, sameName_cons, Bool.not_true, Bool.false_eq_true,
        if_false, hLabel]
      cases strcasecmp (.ofBuffer first.1) name with
      | false => exact .pure rfl
      | true => exact ih after rest hReads

theorem equals_compares {copy : SerializedQNameIterator} {other : List (Bytes × Nat)}
  (hCopy : copy.Reads other) : RecordWriter.Compares (·.equals copy)
    fun rest answer => answer = sameName (labelsOf rest) (labelsOf other) := by
  intro previous rest h
  induction rest generalizing previous copy other with
  | nil =>
    refine loop_turn ?_
    refine h.next.bind fun ⟨has, after⟩ hAfter => ?_
    obtain ⟨rfl, hReads, -⟩ := hAfter
    refine hCopy.next.bind fun ⟨hasB, afterB⟩ hAfterB => ?_
    cases other with
    | nil =>
      obtain ⟨rfl, hReadsB, -⟩ := hAfterB
      simp only [hReads.valid, hReadsB.valid]
      exact .pure rfl
    | cons first other =>
      obtain ⟨rfl, -⟩ := hAfterB
      exact .pure rfl
  | cons first rest ih =>
    refine loop_turn ?_
    refine h.next.bind fun ⟨has, after⟩ hAfter => ?_
    obtain ⟨rfl, hValue, -, hReads, -⟩ := hAfter
    refine hCopy.next.bind fun ⟨hasB, afterB⟩ hAfterB => ?_
    cases other with
    | nil =>
      obtain ⟨rfl, -⟩ := hAfterB
      exact .pure rfl
    | cons firstB other =>
      obtain ⟨rfl, hValueB, -, hReadsB, -⟩ := hAfterB
      have hLabel : after.value = .ofBuffer first.1 := congrArg QNamePart.ofBuffer hValue
      have hLabelB : afterB.value = .ofBuffer firstB.1 := congrArg QNamePart.ofBuffer hValueB
      simp only [hReads.valid, hReadsB.valid, hLabel, hLabelB, labelsOf, List.map_cons,
        sameName_cons]
      cases strcasecmp (.ofBuffer first.1) (.ofBuffer firstB.1) with
      | false => exact .pure rfl
      | true => exact .pure (ih hReadsB after hReads)

theorem equals_ends {copy : SerializedQNameIterator} (hCopy : copy.Safe) :
  RecordWriter.Compares (·.equals copy) fun _ _ => True := by
  intro previous rest h
  induction rest generalizing previous copy with
  | nil =>
    refine loop_turn ?_
    refine h.next.bind fun ⟨has, after⟩ hAfter => ?_
    obtain ⟨rfl, hReads, -⟩ := hAfter
    refine hCopy.next.bind fun ⟨hasB, afterB⟩ _ => .pure ?_
    cases hasB with
    | true => trivial
    | false => cases hValid : afterB.mIsValid <;> simp [hReads.valid, hValid]
  | cons first rest ih =>
    refine loop_turn ?_
    refine h.next.bind fun ⟨has, after⟩ hAfter => ?_
    obtain ⟨rfl, -, -, hReads, -⟩ := hAfter
    refine hCopy.next.bind fun ⟨hasB, afterB⟩ hSafe => .pure ?_
    cases hasB with
    | false => trivial
    | true =>
      cases hValid : afterB.mIsValid with
      | false => simp [hReads.valid, hValid]
      | true =>
        cases hSame : strcasecmp after.value afterB.value with
        | false => simp [hReads.valid, hValid, hSame]
        | true =>
          simp only [hReads.valid, hValid, hSame]
          exact ih hSafe after hReads

end SerializedQNameIterator
end Chip.Dnssd
