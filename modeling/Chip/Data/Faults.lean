import Chip.Data.Proc

/-! Storage accesses that may fail and power that may be lost at any of them. -/
namespace Chip

/-- How a call ends early: with an error code, or because the power is lost. -/
inductive Stop (ε : Type) where
  | powerLoss
  | error (e : ε)

/-- What becomes of one write. A failed write leaves the storage as it was. -/
inductive WriteFate where
  | done
  | fails
  | lostBefore
  | lostAfter
  deriving DecidableEq

namespace WriteFate

variable {ε σ : Type}

def perform (fate : WriteFate) (e : ε) (write : σ → σ) : Proc (Stop ε) σ Unit :=
  match fate with
  | done => Proc.modify write
  | fails => Proc.fail (.error e)
  | lostBefore => Proc.fail .powerLoss
  | lostAfter => do
      Proc.modify write
      Proc.fail .powerLoss

end WriteFate

/-- A state with the fates of the accesses to it that are still to come: the error of each that
fails. -/
structure Faulty (ε σ : Type) where
  state : σ
  fates : List (Option ε)

namespace Faulty

variable {ε σ α : Type} {s : Faulty ε σ} {m : Proc ε σ α}

def next (fates : List (Option ε)) : Option ε := fates.head?.join

/-- One access, which takes the next fate. When it fails it leaves the state. -/
def access (m : Proc ε σ α) : Proc ε (Faulty ε σ) α := fun s =>
  match next s.fates with
  | some e => (.error e, ⟨s.state, s.fates.tail⟩)
  | none => ((m s.state).1, ⟨(m s.state).2, s.fates.tail⟩)

def Sound (fates : List (Option ε)) : Prop := ∀ fate ∈ fates, fate = none

def AtMostOne (fates : List (Option ε)) : Prop := fates.countP Option.isSome ≤ 1

section Fates

variable {fates : List (Option ε)}

theorem sound_iff : Sound fates ↔ fates.countP Option.isSome = 0 := by
  rw [List.countP_eq_zero]
  exact forall₂_congr fun fate _ => by simp

theorem Sound.tail (h : Sound fates) : Sound fates.tail :=
  fun fate hMem => h fate (List.mem_of_mem_tail hMem)

theorem Sound.next_eq (h : Sound fates) : next fates = none := by
  cases fates with
  | nil => rfl
  | cons fate rest => exact h fate List.mem_cons_self

theorem AtMostOne.tail (h : AtMostOne fates) : AtMostOne fates.tail :=
  Nat.le_trans fates.tail_sublist.countP_le h

theorem AtMostOne.sound_tail (h : AtMostOne fates) {e : ε} (hNext : next fates = some e) :
  Sound fates.tail := by
  cases fates with
  | nil => cases hNext
  | cons fate rest =>
    obtain rfl : fate = some e := hNext
    rw [AtMostOne] at h
    exact sound_iff.mpr (by simpa using h)

theorem not_sound {e : ε} (hNext : next fates = some e) : ¬ Sound fates := by
  intro h
  rw [h.next_eq] at hNext
  cases hNext

end Fates

/-- What a write leaves: the state after it, unless it fails. -/
def written (s : Faulty ε σ) (after : σ) : Except ε Unit × Faulty ε σ :=
  match next s.fates with
  | some e => (.error e, ⟨s.state, s.fates.tail⟩)
  | none => (.ok (), ⟨after, s.fates.tail⟩)

theorem written_of_none {after : σ} (h : next s.fates = none) :
  written s after = (.ok (), ⟨after, s.fates.tail⟩) := by
  rw [written, h]

theorem written_of_some {after : σ} {e : ε} (h : next s.fates = some e) :
  written s after = (.error e, ⟨s.state, s.fates.tail⟩) := by
  rw [written, h]

theorem access_of_none (h : next s.fates = none) :
  access m s = ((m s.state).1, ⟨(m s.state).2, s.fates.tail⟩) := by
  rw [access, h]

theorem access_of_some {e : ε} (h : next s.fates = some e) :
  access m s = (.error e, ⟨s.state, s.fates.tail⟩) := by
  rw [access, h]

theorem access_sound (h : Sound s.fates) :
  access m s = ((m s.state).1, ⟨(m s.state).2, s.fates.tail⟩) :=
  access_of_none h.next_eq

/-- A faulty state whose accesses do not fail stands for its state. -/
def SoundAs (s : Faulty ε σ) (t : σ) : Prop := s.state = t ∧ Sound s.fates

theorem access_agrees {t : σ} (h : SoundAs s t) : Proc.Agrees SoundAs (access m) m s t := by
  obtain ⟨rfl, hSound⟩ := h
  rw [Proc.Agrees, access_sound hSound]
  exact ⟨rfl, rfl, hSound.tail⟩

theorem access_maintains {P : σ → Prop} {Q : α → Prop} (hm : Proc.Maintains P m Q) :
  Proc.Maintains (fun s : Faulty ε σ => P s.state) (access m) Q := by
  intro s hs
  rw [access]
  cases next s.fates with
  | some e => exact ⟨hs, fun a h => by cases h⟩
  | none => exact hm s.state hs

end Faulty
end Chip
