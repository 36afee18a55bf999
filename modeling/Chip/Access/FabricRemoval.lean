import Chip.Access.AclRuns
import Chip.Access.Check

/-! What is left on the access control list when a fabric is removed. -/
namespace Chip.Access

open List AclStore

/-- The loop of `DeleteAllEntriesForFabric`, from the last entry of the fabric to the first. Its
first error is the result. -/
def deleteEntries (fabricIndex : UInt8) : Nat → Except ChipError Unit → AclM Unit
  | 0, stickyError => Proc.lift stickyError
  | aclCount + 1, stickyError => do
    let err ← Proc.attempt (deleteEntry (some fabricIndex) aclCount)
    deleteEntries fabricIndex aclCount (match stickyError with
      | .ok () => err
      | .error e => .error e)

section

variable {st : AclStore} {f : UInt8}

/-- Nothing is left of one fabric, and all of the others. -/
structure AclStore.Without (st st' : AclStore) (f : UInt8) (n : Nat) : Prop where
  sound : st'.Sound
  left : (st'.entriesOf f).length = n
  others : ∀ g, g ≠ f → st'.entriesOf g = st.entriesOf g

theorem AclStore.Sound.deleteEntry_last (h : st.Sound) {n : Nat}
  (hCount : (st.entriesOf f).length = n + 1) :
  ∃ st', deleteEntry (some f) n st = (.ok (), st') ∧ st.Without st' f n := by
  obtain ⟨slot, hSlot⟩ := ((h.convertsIndices f).relative n).mpr (by omega)
  obtain ⟨k, hAcl⟩ := h.rest
  have hLocated := hSlot
  rw [hAcl, relativeToAbsolute_iff rfl fun s hs => used_inUse st hs] at hLocated
  obtain ⟨before, x, after, hUsed, hFabric, rfl, -⟩ : Located f st.used n slot := by
    simpa using hLocated
  have hLt : before.length < st.used.length := by simp [hUsed]
  have hLength : st.used.length ≤ st.acl.length := (takeWhile_sublist _).length_le
  have hFind : st.findUsedInAcl (some f) n = some before.length := by
    refine Option.filter_eq_some_iff.mpr ⟨hSlot, ?_⟩
    simp [used_inUse st (storageAt_acl h hLt).2, hLt.trans_le hLength]
  rcases deleteEntry_spec (some f) n st with ⟨-, hNone⟩ | ⟨slot, hSome, hRun⟩
  · rw [hFind] at hNone
    cases hNone
  · cases hFind.symm.trans hSome
    have hNew : (st.deleteSlot before.length n).used = before ++ after := by
      rw [deleteSlot_used h hLt, hUsed, eraseIdx_append_of_length_le (Nat.le_refl _), Nat.sub_self]
      rfl
    refine ⟨_, hRun, deleteSlot_sound h hLt (findUsedInAcl_le hFind), ?_, fun g hNe => ?_⟩
    · rw [entriesOf, hUsed] at hCount
      rw [entriesOf, hNew]
      simp only [filter_append, filter_cons, hFabric, decide_true, if_true, length_append,
        length_cons] at hCount ⊢
      omega
    · have hOther : x.mFabricIndex ≠ g := hFabric ▸ hNe.symm
      simp [entriesOf, hNew, hUsed, hOther]

theorem AclStore.Sound.deleteEntries (h : st.Sound) {n : Nat}
  (hCount : (st.entriesOf f).length = n) :
  ∃ st', deleteEntries f n (.ok ()) st = (.ok (), st') ∧ st.Without st' f 0 := by
  induction n generalizing st with
  | zero => exact ⟨st, rfl, h, hCount, fun _ _ => rfl⟩
  | succ n ih =>
    obtain ⟨st₁, hRun, hFirst⟩ := h.deleteEntry_last hCount
    obtain ⟨st₂, hRest, hLast⟩ := ih hFirst.sound hFirst.left
    refine ⟨st₂, ?_, hLast.sound, hLast.left, fun g hNe =>
      (hLast.others g hNe).trans (hFirst.others g hNe)⟩
    rw [Access.deleteEntries, Proc.attempt_bind, hRun]
    exact hRest

end

end Chip.Access
