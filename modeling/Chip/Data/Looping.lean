import Mathlib.Order.Basic
import Mathlib.Order.WellFounded

/-! Programs with loops that may go on for ever. A bound on the turns that a loop may take makes a
function of such a program, and what it gives within one bound it gives within every larger one. -/
namespace Chip

/-- What a program gives when each of its loops may take so many turns, if it gets that far. -/
structure Looping (ε α : Type) where
  run : Nat → Option (Except ε α)
  run_succ : ∀ {turns : Nat} {r : Except ε α}, run turns = some r → run (turns + 1) = some r

namespace Looping

variable {ε α β σ : Type} {m : Looping ε α} {f : α → Looping ε β} {r : Except ε α} {a : α} {e : ε}

def Gives (m : Looping ε α) (r : Except ε α) : Prop := ∃ turns, m.run turns = some r

def Ends (m : Looping ε α) : Prop := ∃ r, m.Gives r

theorem run_mono {turns more : Nat} (h : m.run turns = some r) (hMore : turns ≤ more) :
  m.run more = some r := by
  induction more, hMore using Nat.le_induction with
  | base => exact h
  | succ more _ ih => exact m.run_succ ih

theorem Gives.unique {t : Except ε α} (h : m.Gives r) (h' : m.Gives t) : r = t := by
  obtain ⟨turns, h⟩ := h
  obtain ⟨turns', h'⟩ := h'
  have hBoth := run_mono h (Nat.le_max_left turns turns')
  rw [run_mono h' (Nat.le_max_right turns turns')] at hBoth
  exact (Option.some.inj hBoth).symm

def bindRun (m : Looping ε α) (f : α → Looping ε β) (turns : Nat) : Option (Except ε β) :=
  match m.run turns with
  | some (.ok a) => (f a).run turns
  | some (.error e) => some (.error e)
  | none => none

theorem bindRun_succ {r : Except ε β} {turns : Nat} (h : bindRun m f turns = some r) :
  bindRun m f (turns + 1) = some r := by
  rw [bindRun] at h ⊢
  cases hRun : m.run turns with
  | none => simp [hRun] at h
  | some first =>
    rw [m.run_succ hRun]
    cases first with
    | ok a => exact (f a).run_succ (by simpa only [hRun] using h)
    | error e => simpa only [hRun] using h

instance : Monad (Looping ε) where
  pure a := ⟨fun _ => some (.ok a), id⟩
  bind m f := ⟨bindRun m f, bindRun_succ⟩

def fail (e : ε) : Looping ε α := ⟨fun _ => some (.error e), id⟩

@[simp] theorem pure_bind : (pure a >>= f : Looping ε β) = f a := rfl

theorem gives_pure : (pure a : Looping ε α).Gives r ↔ r = .ok a :=
  ⟨fun ⟨_, h⟩ => (Option.some.inj h).symm, fun h => ⟨0, h ▸ rfl⟩⟩

theorem Gives.bind {r : Except ε β} (h : m.Gives (.ok a)) (hRest : (f a).Gives r) :
  (m >>= f).Gives r := by
  obtain ⟨turns, h⟩ := h
  obtain ⟨turns', hRest⟩ := hRest
  refine ⟨max turns turns', ?_⟩
  change bindRun m f _ = _
  rw [bindRun, run_mono h (Nat.le_max_left ..)]
  exact run_mono hRest (Nat.le_max_right ..)

theorem gives_bind {r : Except ε β} : (m >>= f).Gives r ↔
  (∃ a, m.Gives (.ok a) ∧ (f a).Gives r) ∨ ∃ e, m.Gives (.error e) ∧ r = .error e := by
  constructor
  · rintro ⟨turns, h⟩
    change bindRun m f turns = some r at h
    rw [bindRun] at h
    cases hRun : m.run turns with
    | none => simp [hRun] at h
    | some first =>
      cases first with
      | ok a => exact .inl ⟨a, ⟨turns, hRun⟩, turns, by simpa only [hRun] using h⟩
      | error e =>
        rw [hRun] at h
        exact .inr ⟨e, ⟨turns, hRun⟩, (Option.some.inj h).symm⟩
  · rintro (⟨a, h, hRest⟩ | ⟨e, ⟨turns, h⟩, rfl⟩)
    · exact h.bind hRest
    · refine ⟨turns, ?_⟩
      change bindRun m f turns = _
      rw [bindRun, h]

/-- The turns of a loop, each of which either goes on with another state or leaves the loop. -/
def loopRun (body : σ → Looping ε (σ ⊕ α)) : Nat → σ → Option (Except ε α)
  | 0, _ => none
  | turns + 1, s =>
    match (body s).run turns with
    | some (.ok (.inl s')) => loopRun body turns s'
    | some (.ok (.inr a)) => some (.ok a)
    | some (.error e) => some (.error e)
    | none => none

variable {body : σ → Looping ε (σ ⊕ α)} {s s' : σ}

theorem loopRun_succ {turns : Nat} (h : loopRun body turns s = some r) :
  loopRun body (turns + 1) s = some r := by
  induction turns generalizing s with
  | zero => cases h
  | succ turns ih =>
    rw [loopRun] at h ⊢
    cases hRun : (body s).run turns with
    | none => simp [hRun] at h
    | some first =>
      rw [(body s).run_succ hRun]
      rw [hRun] at h
      match first with
      | .ok (.inl s') => exact ih h
      | .ok (.inr a) => exact h
      | .error e => exact h

/-- `while (true)`, with the state at the start of each turn. -/
def loop (body : σ → Looping ε (σ ⊕ α)) (s : σ) : Looping ε α :=
  ⟨fun turns => loopRun body turns s, loopRun_succ⟩

theorem gives_loop : (loop body s).Gives r ↔
  (∃ s', (body s).Gives (.ok (.inl s')) ∧ (loop body s').Gives r) ∨
    (∃ a, (body s).Gives (.ok (.inr a)) ∧ r = .ok a) ∨
    ∃ e, (body s).Gives (.error e) ∧ r = .error e := by
  constructor
  · rintro ⟨turns, h⟩
    change loopRun body turns s = some r at h
    cases turns with
    | zero => cases h
    | succ turns =>
      rw [loopRun] at h
      cases hRun : (body s).run turns with
      | none => simp [hRun] at h
      | some first =>
        rw [hRun] at h
        match first with
        | .ok (.inl s') => exact .inl ⟨s', ⟨turns, hRun⟩, turns, h⟩
        | .ok (.inr a) => exact .inr (.inl ⟨a, ⟨turns, hRun⟩, (Option.some.inj h).symm⟩)
        | .error e => exact .inr (.inr ⟨e, ⟨turns, hRun⟩, (Option.some.inj h).symm⟩)
  · rintro (⟨s', ⟨turns, h⟩, turns', hRest⟩ | ⟨a, ⟨turns, h⟩, rfl⟩ | ⟨e, ⟨turns, h⟩, rfl⟩)
    · refine ⟨max turns turns' + 1, ?_⟩
      change loopRun body _ s = _
      rw [loopRun, run_mono h (Nat.le_max_left ..)]
      exact run_mono (m := loop body s') hRest (Nat.le_max_right ..)
    · refine ⟨turns + 1, ?_⟩
      change loopRun body _ s = _
      rw [loopRun, h]
    · refine ⟨turns + 1, ?_⟩
      change loopRun body _ s = _
      rw [loopRun, h]

theorem Gives.loop_next (h : (body s).Gives (.ok (.inl s'))) (hRest : (loop body s').Gives r) :
  (loop body s).Gives r :=
  gives_loop.mpr (.inl ⟨s', h, hRest⟩)

theorem Gives.loop_last (h : (body s).Gives (.ok (.inr a))) : (loop body s).Gives (.ok a) :=
  gives_loop.mpr (.inr (.inl ⟨a, h, rfl⟩))

variable {P Q : α → Prop}

/-- The program ends without an error and its result is of this kind. -/
def Yields (m : Looping ε α) (P : α → Prop) : Prop := ∃ a, m.Gives (.ok a) ∧ P a

namespace Yields

theorem pure (h : P a) : (Pure.pure a : Looping ε α).Yields P := ⟨a, gives_pure.mpr rfl, h⟩

theorem mono (hm : m.Yields P) (h : ∀ a, P a → Q a) : m.Yields Q := by
  obtain ⟨a, hGives, hP⟩ := hm
  exact ⟨a, hGives, h a hP⟩

theorem bind {Q : β → Prop} (hm : m.Yields P) (hf : ∀ a, P a → (f a).Yields Q) :
  (m >>= f).Yields Q := by
  obtain ⟨a, hGives, hP⟩ := hm
  obtain ⟨b, hRest, hQ⟩ := hf a hP
  exact ⟨b, hGives.bind hRest, hQ⟩

theorem ends (h : m.Yields P) : m.Ends := by
  obtain ⟨a, hGives, -⟩ := h
  exact ⟨.ok a, hGives⟩

theorem of_gives (h : m.Yields P) (hGives : m.Gives r) : ∃ a, r = .ok a ∧ P a := by
  obtain ⟨a, hOk, hP⟩ := h
  exact ⟨a, hGives.unique hOk, hP⟩

theorem loop_turn (h : (body s).Yields fun turn => match turn with
  | .inl s' => (loop body s').Yields P
  | .inr a => P a) : (loop body s).Yields P := by
  obtain ⟨turn, hTurn, hRest⟩ := h
  match turn with
  | .inl s' =>
    obtain ⟨a, hGives, hP⟩ := hRest
    exact ⟨a, hTurn.loop_next hGives, hP⟩
  | .inr a => exact ⟨a, hTurn.loop_last, hRest⟩

theorem loop_acc {I : σ → Prop} {R : σ → σ → Prop} (hAcc : Acc R s)
  (hBody : ∀ s, I s → (body s).Yields fun turn => match turn with
    | .inl s' => I s' ∧ R s' s
    | .inr a => P a) (hStart : I s) : (Looping.loop body s).Yields P := by
  induction hAcc with
  | intro s _ ih =>
    refine loop_turn ((hBody s hStart).mono fun turn hKept => ?_)
    match turn with
    | .inl s' => exact ih s' hKept.2 hKept.1
    | .inr a => exact hKept

theorem loop {I : σ → Prop} {R : σ → σ → Prop} (hOrder : WellFounded R)
  (hBody : ∀ s, I s → (body s).Yields fun turn => match turn with
    | .inl s' => I s' ∧ R s' s
    | .inr a => P a) (hStart : I s) : (Looping.loop body s).Yields P :=
  loop_acc (hOrder.apply s) hBody hStart

end Yields

/-- If the program ends, it ends without an error and its result is of this kind. -/
def Secures (m : Looping ε α) (P : α → Prop) : Prop := ∀ r, m.Gives r → ∃ a, r = .ok a ∧ P a

theorem Yields.secures (h : m.Yields P) : m.Secures P := fun _ => h.of_gives

theorem secures_loop {I : σ → Prop}
  (hBody : ∀ s, I s → (body s).Yields fun turn => match turn with
    | .inl s' => I s'
    | .inr a => P a) (hStart : I s) : (loop body s).Secures P := by
  rintro r ⟨turns, h⟩
  change loopRun body turns s = some r at h
  induction turns generalizing s with
  | zero => cases h
  | succ turns ih =>
    obtain ⟨turn, hTurn, hKept⟩ := hBody s hStart
    rw [loopRun] at h
    cases hRun : (body s).run turns with
    | none => simp [hRun] at h
    | some first =>
      cases Gives.unique ⟨turns, hRun⟩ hTurn
      rw [hRun] at h
      match turn with
      | .inl s' => exact ih hKept h
      | .inr a => exact ⟨a, (Option.some.inj h).symm, hKept⟩

theorem not_ends_loop {I : σ → Prop}
  (hBody : ∀ s, I s → (body s).Yields fun turn => ∃ s', turn = .inl s' ∧ I s')
  (hStart : I s) : ¬(loop body s).Ends := by
  rintro ⟨r, h⟩
  have hNever : (loop body s).Secures fun _ => False := by
    refine secures_loop (fun s hInv => (hBody s hInv).mono fun turn hGoesOn => ?_) hStart
    obtain ⟨s', rfl, hNext⟩ := hGoesOn
    exact hNext
  obtain ⟨-, -, hFalse⟩ := hNever r h
  exact hFalse

end Looping
end Chip
