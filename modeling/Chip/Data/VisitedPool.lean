import Mathlib.Data.List.Basic
import Mathlib.Data.List.Count
import Mathlib.Data.List.Nodup

/-! Pools of objects whose users iterate over them, with a visitor that may create and release
objects and start iterations of its own. An iteration stands still while its visitor is called, so
that a run is a sequence of calls, with the iterations that are under way as a stack. -/
namespace Chip.VisitedPool

inductive Loop where
  | kContinue
  | kBreak

/-- `create` carries what the allocator of the pool has to offer. `returns` is the end of the
innermost visitor. -/
inductive Call (π : Type) where
  | create (place : π)
  | release (object : Option Nat)
  | forEach
  | returns (result : Loop)

/-- The objects visited by an iteration, and those that were live at its start and have not been
released since. -/
structure History where
  visited : List Nat
  steady : List Nat

inductive Outcome where
  | created (object : Option Nat)
  | released (object : Option Nat)
  | visited (object : Nat)
  | finished (history : History)
  | broken

structure Iteration (κ : Type) extends History where
  cursor : κ

/-- A pool, and the iterations under way, from the innermost one to the outermost one. -/
structure State (σ κ : Type) where
  pool : σ
  iterations : List (Iteration κ)

/-- The code of a pool. A release fails where the pool asserts, and `next` where the iteration
stands on memory that is no longer its own. -/
structure Pool (π σ κ : Type) where
  create : σ → π → Option Nat × σ
  release : σ → Nat → Option σ
  enter : σ → σ
  first : σ → Option κ
  next : σ → κ → Option (Option κ)
  leave : σ → σ
  object : σ → κ → Option Nat
  live : σ → List Nat
  allocated : σ → Nat

variable {π σ κ : Type}

def History.forget (object : Nat) (history : History) : History :=
  { history with steady := history.steady.filter (· ≠ object) }

def Iteration.forget (object : Nat) (iteration : Iteration κ) : Iteration κ :=
  { iteration with toHistory := iteration.toHistory.forget object }

namespace Pool

/-- An iteration goes on to the object that has been found, or ends. -/
def resume (P : Pool π σ κ) (pool : σ) (found : Option κ) (history : History)
  (outer : List (Iteration κ)) : Option (Outcome × State σ κ) :=
  match found with
  | none => some (.finished history, ⟨P.leave pool, outer⟩)
  | some cursor => do
      let object ← P.object pool cursor
      some (.visited object, ⟨pool, ⟨⟨history.visited ++ [object], history.steady⟩, cursor⟩ :: outer⟩)

def step (P : Pool π σ κ) (s : State σ κ) : Call π → Option (Outcome × State σ κ)
  | .create place =>
    let (object, pool) := P.create s.pool place
    some (.created object, { s with pool := pool })
  | .release none => some (.released none, s)
  | .release (some object) => do
      let pool ← P.release s.pool object
      some (.released (some object), ⟨pool, s.iterations.map (·.forget object)⟩)
  | .forEach =>
    let pool := P.enter s.pool
    P.resume pool (P.first pool) ⟨[], P.live s.pool⟩ s.iterations
  | .returns result =>
    match s.iterations, result with
    | [], _ => none
    | _ :: outer, .kBreak => some (.broken, ⟨P.leave s.pool, outer⟩)
    | iteration :: outer, .kContinue => do
        let found ← P.next s.pool iteration.cursor
        P.resume s.pool found iteration.toHistory outer

/-- The states that calls lead to, as long as every call is allowed. -/
inductive Reached (P : Pool π σ κ) (Allowed : State σ κ → Call π → Prop) (start : σ) :
    State σ κ → Prop where
  | start : Reached P Allowed start ⟨start, []⟩
  | step {s s' : State σ κ} {call : Call π} {outcome : Outcome} (prior : Reached P Allowed start s)
      (hAllowed : Allowed s call) (hStep : P.step s call = some (outcome, s')) :
      Reached P Allowed start s'

/-- What an outcome has to say about the live objects: only live ones are visited, an iteration
that ends has visited once each object that was live all the time, and an object is created in a
place that no live one has. `Full` is the reason for which none is created. -/
def Sound (P : Pool π σ κ) (Full : Prop) (s s' : State σ κ) : Outcome → Prop
  | .created (some object) => object ∉ P.live s.pool ∧
      ∀ other, other ∈ P.live s'.pool ↔ other = object ∨ other ∈ P.live s.pool
  | .created none => Full ∧ P.live s'.pool = P.live s.pool
  | .released none => P.live s'.pool = P.live s.pool
  | .released (some object) => ∀ other, other ∈ P.live s'.pool ↔ other ≠ object ∧ other ∈ P.live s.pool
  | .visited object => object ∈ P.live s.pool ∧ P.live s'.pool = P.live s.pool
  | .finished history => (∀ object ∈ history.steady, history.visited.count object = 1) ∧
      P.live s'.pool = P.live s.pool
  | .broken => P.live s'.pool = P.live s.pool

/-- Users release only what is live, and a visitor returns only when there is one. -/
def Legal (P : Pool π σ κ) (s : State σ κ) : Call π → Prop
  | .create _ => True
  | .release none => True
  | .release (some object) => object ∈ P.live s.pool
  | .forEach => True
  | .returns _ => s.iterations ≠ []

/-- What `Allocated` counts, and that no object is counted twice. -/
structure Accounted (P : Pool π σ κ) (pool : σ) : Prop where
  nodup : (P.live pool).Nodup
  allocated : P.allocated pool = (P.live pool).length

def Serves (P : Pool π σ κ) (Allowed : State σ κ → Call π → Prop) (Full : State σ κ → Call π → Prop)
  (s : State σ κ) : Prop :=
  ∀ call, Allowed s call → ∃ outcome s', P.step s call = some (outcome, s') ∧
    P.Sound (Full s call) s s' outcome

theorem Reached.invariant {P : Pool π σ κ} {Allowed Full : State σ κ → Call π → Prop} {start : σ}
  {Good : State σ κ → Prop} (hStart : Good ⟨start, []⟩)
  (hStep : ∀ s call, Good s → Allowed s call → ∃ outcome s', P.step s call = some (outcome, s') ∧
    P.Sound (Full s call) s s' outcome ∧ Good s')
  {s : State σ κ} (reached : P.Reached Allowed start s) : Good s ∧ P.Serves Allowed Full s := by
  have hGood : Good s := by
    induction reached with
    | start => exact hStart
    | step prior hAllowed hCall ih =>
      obtain ⟨outcome, s', hSame, _, hKept⟩ := hStep _ _ ih hAllowed
      rw [hCall, Option.some.injEq, Prod.mk.injEq] at hSame
      rw [hSame.2]
      exact hKept
  refine ⟨hGood, fun call hAllowed => ?_⟩
  obtain ⟨outcome, s', hCall, hSound, _⟩ := hStep s call hGood hAllowed
  exact ⟨outcome, s', hCall, hSound⟩

end Pool

theorem length_gained {live live' : List Nat} {object : Nat} (hNodup : live.Nodup) (hNodup' : live'.Nodup)
  (hNew : object ∉ live) (hGained : ∀ other, other ∈ live' ↔ other = object ∨ other ∈ live) :
  live'.length = live.length + 1 := by
  have hPerm : live'.Perm (object :: live) := by
    rw [List.perm_ext_iff_of_nodup hNodup' (List.nodup_cons.2 ⟨hNew, hNodup⟩)]
    intro other
    rw [hGained, List.mem_cons]
  rw [hPerm.length_eq, List.length_cons]

/-- The objects that were live all the time have been visited once, or not yet. -/
def History.Counted (history : History) (Passed : Nat → Prop) : Prop :=
  ∀ object ∈ history.steady, (Passed object → history.visited.count object = 1) ∧
    (¬Passed object → history.visited.count object = 0)

namespace History.Counted

variable {history : History} {Passed Passed' : Nat → Prop} {object : Nat}

theorem start (live : List Nat) (hNone : ∀ object ∈ live, ¬Passed object) :
  (⟨[], live⟩ : History).Counted Passed := fun object hLive =>
  ⟨fun hPassed => absurd hPassed (hNone object hLive), fun _ => rfl⟩

section

variable (h : history.Counted Passed)
include h

theorem forget (object : Nat) : (history.forget object).Counted Passed :=
  fun other hOther => h other (List.mem_of_mem_filter hOther)

theorem congr (hSame : ∀ object ∈ history.steady, Passed' object ↔ Passed object) :
  history.Counted Passed' := by
  intro object hSteady
  rw [hSame object hSteady]
  exact h object hSteady

theorem visit (hNew : object ∈ history.steady → ¬Passed object)
  (hPassed : ∀ other ∈ history.steady, Passed' other ↔ Passed other ∨ other = object) :
  (⟨history.visited ++ [object], history.steady⟩ : History).Counted Passed' := by
  intro other hOther
  obtain ⟨hOne, hZero⟩ := h other hOther
  rw [hPassed other hOther, List.count_append, List.count_singleton]
  by_cases hSame : other = object
  · subst hSame
    simp [hZero (hNew hOther)]
  · have hDiffers : (object == other) = false := by
      rw [beq_eq_false_iff_ne]
      exact fun h => hSame h.symm
    simp only [hSame, or_false, hDiffers]
    exact ⟨hOne, hZero⟩

theorem finished (hAll : ∀ object ∈ history.steady, Passed object) :
  ∀ object ∈ history.steady, history.visited.count object = 1 := fun object hSteady =>
  (h object hSteady).1 (hAll object hSteady)

end

end History.Counted

end Chip.VisitedPool
