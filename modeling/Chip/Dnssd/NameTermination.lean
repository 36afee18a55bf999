import Chip.Dnssd.NameWalk
import Mathlib.Logic.Relation
import Mathlib.Data.Prod.Lex

/-! When reading a name comes to an end. A pointer must not lead further back than the bound, which
is where the last pointer led to; it may lead there again. -/
namespace Chip.Dnssd

open Relation

def LabelStep (bytes : Bytes) (p q : Nat) : Prop :=
  ∃ label, itemAt bytes p = .label label ∧ q = p + label.length + 1

/-- The labels from a place on lead to a pointer that is followed when they begin a name, or are
where a pointer led to. -/
def Jump (bytes : Bytes) (p offset : Nat) : Prop :=
  ∃ q, ReflTransGen (LabelStep bytes) p q ∧ itemAt bytes q = .pointer offset ∧ offset ≤ p ∧ offset < q

/-- Among the places that the name comes to from its start by following pointers, none has labels
that lead back to it. -/
def NeverLeadsBack (bytes : Bytes) (start : Nat) : Prop :=
  ∀ p, ReflTransGen (Jump bytes) start p → ¬Jump bytes p p

section Steps

variable {bytes : Bytes} {p q r offset : Nat}

theorem labelStep_rightUnique (bytes : Bytes) : Relator.RightUnique (LabelStep bytes) := by
  rintro p q r ⟨label, hItem, rfl⟩ ⟨label', hItem', rfl⟩
  cases hItem.symm.trans hItem'
  rfl

theorem item_before_pointer (hPlace : ReflTransGen (LabelStep bytes) p q)
  (hPointer : ReflTransGen (LabelStep bytes) p r) (hItem : itemAt bytes r = .pointer offset) :
  (∃ label, itemAt bytes q = .label label) ∨ q = r := by
  rcases hPlace.total_of_right_unique (labelStep_rightUnique bytes) hPointer with hBefore | hAfter
  · rcases hBefore.cases_head with rfl | ⟨_, ⟨label, hLabel, _⟩, _⟩
    · exact .inr rfl
    · exact .inl ⟨label, hLabel⟩
  · rcases hAfter.cases_head with rfl | ⟨_, ⟨label, hLabel, _⟩, _⟩
    · exact .inr rfl
    · cases hItem.symm.trans hLabel

end Steps

namespace SerializedQNameIterator

variable {it it' : SerializedQNameIterator} {start : Nat}

/-- The iterator is past some of the labels that begin where its bound is. -/
structure OnName (it : SerializedQNameIterator) : Prop where
  safe : it.Safe
  valid : it.mIsValid = true
  place : ReflTransGen (LabelStep it.bytes) it.mLookBehindMax it.mCurrentPosition

theorem onName_init {packet : Bytes} (h : start < packet.length) :
  (init (.ofBytes packet) start).OnName :=
  ⟨safe_init h, rfl, .refl⟩

theorem OnName.past {label : Bytes} (h : it.OnName) (hItem : it.item = .label label) :
  (it.past label).OnName :=
  ⟨h.safe.past hItem, h.valid, h.place.tail ⟨label, hItem, rfl⟩⟩

theorem OnName.jump {offset : Nat} (h : it.OnName) (hBack : offset < it.mCurrentPosition) :
  (it.jump offset).OnName :=
  ⟨h.safe.jump h.valid hBack, h.valid, .refl⟩

/-- One iterator is what another one is after a call of `Next` that gave a label. -/
def After (it' it : SerializedQNameIterator) : Prop := it.next.Gives (.ok (true, it'))

/-- The pointers left to follow, and the bytes left to read before the next one. -/
def left (it : SerializedQNameIterator) : Nat ×ₗ Nat :=
  toLex (it.mLookBehindMax, it.bytes.length - it.mCurrentPosition)

theorem left_past_lt {label : Bytes} (h : it.OnName) (hItem : it.item = .label label) :
  (it.past label).left < it.left := by
  refine Prod.Lex.toLex_lt_toLex.mpr (.inr ⟨rfl, ?_⟩)
  have hInside := (itemAt_label_length hItem).2
  change it.bytes.length - (it.mCurrentPosition + label.length + 1) <
    it.bytes.length - it.mCurrentPosition
  omega

theorem OnName.next (h : it.OnName) (hEnds : NeverLeadsBack it.bytes it.mLookBehindMax) :
  it.next.Yields fun r => r.1 = true → r.2.OnName ∧
    NeverLeadsBack r.2.bytes r.2.mLookBehindMax ∧ r.2.left < it.left := by
  rw [next_valid h.valid]
  refine loop_nextTurn (I := fun it' => it'.OnName ∧
    NeverLeadsBack it'.bytes it'.mLookBehindMax ∧ it'.left ≤ it.left) (fun it' hInv => ?_)
    ⟨h, hEnds, le_refl _⟩
  obtain ⟨hOn, hEnds', hLeft⟩ := hInv
  cases hItem : it'.item with
  | stop => nofun
  | label label => exact fun _ => ⟨hOn.past hItem, hEnds', (left_past_lt hOn hItem).trans_le hLeft⟩
  | pointer offset =>
    dsimp only
    by_cases hBack : offset ≤ it'.mLookBehindMax ∧ offset < it'.mCurrentPosition
    · rw [if_pos hBack]
      have hJump : Jump it'.bytes it'.mLookBehindMax offset :=
        ⟨it'.mCurrentPosition, hOn.place, hItem, hBack.1, hBack.2⟩
      have hLess : offset < it'.mLookBehindMax := by
        refine lt_of_le_of_ne hBack.1 ?_
        rintro rfl
        exact hEnds' _ .refl hJump
      refine ⟨hOn.jump hBack.2, fun p hPath => hEnds' p (.head hJump hPath), le_trans ?_ hLeft⟩
      exact le_of_lt (Prod.Lex.toLex_lt_toLex.mpr (.inl hLess))
    · rw [if_neg hBack]
      nofun
  | malformed => exact ⟨hOn.safe.readable, hOn.safe.inside hOn.valid, nofun⟩

theorem OnName.acc (h : it.OnName) (hEnds : NeverLeadsBack it.bytes it.mLookBehindMax) :
  Acc After it := by
  induction hLeft : it.left using WellFoundedLT.induction generalizing it with
  | ind left ih =>
    subst hLeft
    refine .intro it fun it' hAfter => ?_
    obtain ⟨_, hOk, hNext⟩ := (h.next hEnds).of_gives hAfter
    cases hOk
    obtain ⟨hOn, hEnds', hLess⟩ := hNext rfl
    exact ih _ hLess hOn hEnds' rfl

/-- Some place that the labels from the bound on lead to has labels that lead back to it. -/
def LeadsBack (bytes : Bytes) (p : Nat) : Prop :=
  ∃ q, ReflTransGen (Jump bytes) p q ∧ Jump bytes q q

theorem LeadsBack.jump {bytes : Bytes} {p : Nat} (h : LeadsBack bytes p) :
  ∃ offset, Jump bytes p offset ∧ LeadsBack bytes offset := by
  obtain ⟨q, hPath, hBack⟩ := h
  rcases hPath.cases_head with rfl | ⟨offset, hJump, hRest⟩
  · exact ⟨p, hBack, p, .refl, hBack⟩
  · exact ⟨offset, hJump, q, hRest, hBack⟩

theorem OnName.next_leadsBack (h : it.OnName) (hBack : LeadsBack it.bytes it.mLookBehindMax) :
  it.next.Yields fun r => r.1 = true ∧ r.2.OnName ∧ LeadsBack r.2.bytes r.2.mLookBehindMax := by
  rw [next_valid h.valid]
  refine loop_nextTurn (I := fun it' => it'.OnName ∧ LeadsBack it'.bytes it'.mLookBehindMax)
    (fun it' hInv => ?_) ⟨h, hBack⟩
  obtain ⟨hOn, hBack'⟩ := hInv
  obtain ⟨offset, ⟨q, hPath, hPointer, hBound, hLess⟩, hRest⟩ := hBack'.jump
  rcases item_before_pointer hOn.place hPath hPointer with ⟨label, hLabel⟩ | rfl
  · have hItem : it'.item = .label label := hLabel
    rw [hItem]
    exact ⟨rfl, hOn.past hItem, hBack'⟩
  · have hItem : it'.item = .pointer offset := hPointer
    simp only [hItem]
    rw [if_pos ⟨hBound, hLess⟩]
    exact ⟨hOn.jump hLess, hRest⟩

theorem OnName.not_ends {α : Type} {body : α → QNamePart → α} {a : α} (h : it.OnName)
  (hBack : LeadsBack it.bytes it.mLookBehindMax) : ¬(it.whileNext body a).Ends := by
  refine Looping.not_ends_loop (I := fun s => s.1.OnName ∧ LeadsBack s.1.bytes s.1.mLookBehindMax)
    (fun ⟨it', a⟩ hInv => ?_) ⟨h, hBack⟩
  refine (hInv.1.next_leadsBack hInv.2).bind fun ⟨has, after⟩ hAfter => .pure ?_
  obtain ⟨rfl, hOn, hBack'⟩ := hAfter
  exact ⟨(after, body a after.value), rfl, hOn, hBack'⟩

end SerializedQNameIterator
end Chip.Dnssd
