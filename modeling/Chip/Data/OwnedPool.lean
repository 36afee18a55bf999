import Mathlib.Data.List.Nodup
import Mathlib.Data.List.Basic

/-! Fixed pools of objects that are handed out to owners. An owner has at most one element
of the pool at a time, and keeps its place when it asks again. -/
namespace Chip

open List

/-- Each element is free, or belongs to the owner with a number and holds a value. -/
abbrev OwnedPool (α : Type) := List (Option (Nat × α))

namespace OwnedPool

variable {α : Type} {pool pool' : OwnedPool α} {owner other : Nat} {a b : α}

def lookup : OwnedPool α → Nat → Option α
  | [], _ => none
  | none :: rest, owner => lookup rest owner
  | some (o, a) :: rest, owner => if o = owner then some a else lookup rest owner

def replace (owner : Nat) (a : α) (pool : OwnedPool α) : OwnedPool α :=
  pool.map (Option.map fun x => if x.1 = owner then (owner, a) else x)

def claimFree (owner : Nat) (a : α) : OwnedPool α → Option (OwnedPool α)
  | [] => none
  | none :: rest => some (some (owner, a) :: rest)
  | some x :: rest => (claimFree owner a rest).map (some x :: ·)

/-- Put a value into the element that an owner has, or else into the first free one. -/
def claim (owner : Nat) (a : α) (pool : OwnedPool α) : Option (OwnedPool α) :=
  if (pool.lookup owner).isSome then some (pool.replace owner a) else pool.claimFree owner a

/-- Change the value of every element, or take the element back. -/
def update (f : Nat → α → Option α) (pool : OwnedPool α) : OwnedPool α :=
  pool.map fun x => x.bind fun y => (f y.1 y.2).map (y.1, ·)

def free (owner : Nat) (pool : OwnedPool α) : OwnedPool α :=
  pool.update fun o a => if o = owner then none else some a

def owners (pool : OwnedPool α) : List Nat := pool.filterMap (Option.map Prod.fst)

theorem lookup_eq_none_iff : pool.lookup owner = none ↔ owner ∉ pool.owners := by
  induction pool with
  | nil => simp [lookup, owners]
  | cons x rest ih =>
    cases x with
    | none => simpa [lookup, owners] using ih
    | some x =>
      obtain ⟨o, a⟩ := x
      by_cases h : o = owner
      · simp [lookup, owners, h]
      · simpa [lookup, owners, h, Ne.symm h] using ih

theorem mem_of_lookup (h : pool.lookup owner = some a) : some (owner, a) ∈ pool := by
  induction pool with
  | nil => cases h
  | cons x rest ih =>
    cases x with
    | none => exact mem_cons_of_mem _ (ih h)
    | some x =>
      obtain ⟨o, b⟩ := x
      change (if o = owner then some b else lookup rest owner) = some a at h
      split_ifs at h with hOwner
      · rw [hOwner, Option.some.inj h]
        exact mem_cons_self
      · exact mem_cons_of_mem _ (ih h)

theorem lookup_replace : (pool.replace owner a).lookup other =
  if other = owner then (pool.lookup owner).map fun _ => a else pool.lookup other := by
  induction pool with
  | nil => simp [lookup, replace]
  | cons x rest ih =>
    cases x with
    | none => exact ih
    | some x =>
      obtain ⟨o, b⟩ := x
      by_cases hOwner : o = owner
      · by_cases hOther : other = owner
        · simp [replace, lookup, hOwner, hOther]
        · simp only [hOther, ↓reduceIte] at ih ⊢
          simpa [replace, lookup, hOwner, Ne.symm hOther] using ih
      · by_cases hOther : o = other
        · have hNe : other ≠ owner := fun h => hOwner (hOther.trans h)
          simp [replace, lookup, hOther, hNe]
        · simpa [replace, lookup, hOwner, hOther] using ih

@[simp] theorem owners_replace : (pool.replace owner a).owners = pool.owners := by
  unfold replace owners
  rw [filterMap_map]
  refine filterMap_congr fun x _ => ?_
  cases x with
  | none => rfl
  | some x =>
    by_cases h : x.1 = owner
    · simp [h]
    · simp [h]

theorem lookup_claimFree (hFree : pool.lookup owner = none)
  (h : pool.claimFree owner a = some pool') :
  pool'.lookup other = if other = owner then some a else pool.lookup other := by
  induction pool generalizing pool' with
  | nil => cases h
  | cons x rest ih =>
    cases x with
    | none =>
      cases h
      by_cases hOther : other = owner
      · simp [lookup, hOther]
      · simp [lookup, hOther, Ne.symm hOther]
    | some x =>
      obtain ⟨o, b⟩ := x
      obtain ⟨rest', hRest, rfl⟩ := Option.map_eq_some_iff.mp h
      have hOwner : o ≠ owner := by
        rintro rfl
        simp [lookup] at hFree
      have hFree' : lookup rest owner = none := by simpa [lookup, hOwner] using hFree
      by_cases hOther : o = other
      · have hNe : other ≠ owner := fun h => hOwner (hOther.trans h)
        simp [lookup, hOther, hNe]
      · simpa [lookup, hOther] using ih hFree' hRest

theorem owners_claimFree (h : pool.claimFree owner a = some pool') :
  pool'.owners.Perm (owner :: pool.owners) := by
  induction pool generalizing pool' with
  | nil => cases h
  | cons x rest ih =>
    cases x with
    | none =>
      cases h
      exact List.Perm.refl _
    | some x =>
      obtain ⟨rest', hRest, rfl⟩ := Option.map_eq_some_iff.mp h
      exact ((ih hRest).cons x.1).trans (List.Perm.swap ..)

theorem lookup_claim (h : pool.claim owner a = some pool') :
  pool'.lookup other = if other = owner then some a else pool.lookup other := by
  unfold claim at h
  cases hOwn : pool.lookup owner with
  | none =>
    rw [hOwn] at h
    exact lookup_claimFree hOwn h
  | some b =>
    rw [hOwn] at h
    obtain rfl : pool.replace owner a = pool' := by simpa using h
    rw [lookup_replace, hOwn]
    rfl

theorem claim_ne_none (a : α) (h : (pool.lookup owner).isSome ∨ none ∈ pool) :
  pool.claim owner a ≠ none := by
  unfold claim
  split
  · exact Option.some_ne_none _
  · rename_i hOwn
    have hFree := h.resolve_left hOwn
    clear h hOwn
    induction pool with
    | nil => cases hFree
    | cons x rest ih =>
      cases x with
      | none => exact Option.some_ne_none _
      | some x =>
        have hRest := ih (by simpa using hFree)
        simpa [claimFree] using hRest

theorem nodup_claim (hNodup : pool.owners.Nodup) (h : pool.claim owner a = some pool') :
  pool'.owners.Nodup := by
  unfold claim at h
  cases hOwn : pool.lookup owner with
  | none =>
    rw [hOwn] at h
    rw [(owners_claimFree h).nodup_iff]
    exact nodup_cons.mpr ⟨lookup_eq_none_iff.mp hOwn, hNodup⟩
  | some b =>
    rw [hOwn] at h
    obtain rfl : pool.replace owner a = pool' := by simpa using h
    rw [owners_replace]
    exact hNodup

theorem lookup_update {f : Nat → α → Option α} (hNodup : pool.owners.Nodup) :
  (pool.update f).lookup owner = (pool.lookup owner).bind (f owner) := by
  induction pool with
  | nil => rfl
  | cons x rest ih =>
    cases x with
    | none => exact ih hNodup
    | some x =>
      obtain ⟨o, b⟩ := x
      obtain ⟨hAbsent, hNodup⟩ := nodup_cons.mp (show (o :: owners rest).Nodup from hNodup)
      have hRest : lookup (some (o, b) :: rest) owner =
          if o = owner then some b else lookup rest owner := rfl
      rw [hRest]
      by_cases hOwner : o = owner
      · subst hOwner
        cases hf : f o b with
        | none =>
          have hNone : lookup rest o = none := lookup_eq_none_iff.mpr hAbsent
          have hTail := ih hNodup
          rw [hNone] at hTail
          simpa [update, lookup, hf] using hTail
        | some c => simp [update, lookup, hf]
      · rw [if_neg hOwner, ← ih hNodup]
        cases hf : f o b with
        | none => simp [update, lookup, hf]
        | some c => simp [update, lookup, hf, hOwner]

theorem owners_update {f : Nat → α → Option α} : (pool.update f).owners.Sublist pool.owners := by
  induction pool with
  | nil => exact List.Sublist.refl _
  | cons x rest ih =>
    cases x with
    | none => exact ih
    | some x =>
      obtain ⟨o, b⟩ := x
      cases hf : f o b with
      | none => simpa [update, owners, hf] using ih.cons o
      | some c => simpa [update, owners, hf] using ih

theorem lookup_free (hNodup : pool.owners.Nodup) :
  (pool.free owner).lookup other = if other = owner then none else pool.lookup other := by
  unfold free
  rw [lookup_update hNodup]
  split
  · cases pool.lookup other <;> rfl
  · cases pool.lookup other <;> rfl

theorem nodup_free (hNodup : pool.owners.Nodup) : (pool.free owner).owners.Nodup :=
  owners_update.nodup hNodup

theorem isSome_lookup : (pool.lookup owner).isSome ↔ owner ∈ pool.owners := by
  rw [Option.isSome_iff_ne_none, ne_eq, lookup_eq_none_iff, not_not]

theorem length_owners (h : none ∉ pool) : pool.owners.length = pool.length := by
  induction pool with
  | nil => rfl
  | cons x rest ih =>
    cases x with
    | none => exact absurd mem_cons_self h
    | some x => exact congrArg (· + 1) (ih fun hRest => h (mem_cons_of_mem _ hRest))

theorem length_claimFree (h : pool.claimFree owner a = some pool') : pool'.length = pool.length := by
  induction pool generalizing pool' with
  | nil => cases h
  | cons x rest ih =>
    cases x with
    | none =>
      cases h
      rfl
    | some x =>
      obtain ⟨rest', hRest, rfl⟩ := Option.map_eq_some_iff.mp h
      exact congrArg (· + 1) (ih hRest)

@[simp] theorem length_replace : (pool.replace owner a).length = pool.length := length_map ..

@[simp] theorem length_free : (pool.free owner).length = pool.length := length_map ..

theorem length_claim (h : pool.claim owner a = some pool') : pool'.length = pool.length := by
  unfold claim at h
  split at h
  · rw [← Option.some.inj h]
    exact length_replace
  · exact length_claimFree h

end OwnedPool
end Chip
