import Mathlib.Logic.Basic
import Mathlib.Tactic.SplitIfs

/-! Stateful calls that report an error code. A failed call keeps the state it
had reached when it failed, as a C++ method that returns early does; nothing is
rolled back. The rules below are the only way later modules reason about
sequencing. -/
namespace Chip

/-- A call on a state `σ` that returns either an error `ε` or a value `α`,
together with the state it leaves behind in both cases. -/
def Proc (ε σ α : Type) : Type := σ → Except ε α × σ

namespace Proc

variable {ε σ τ α β : Type}

protected def pure (a : α) : Proc ε σ α := fun s => (.ok a, s)

protected def bind (m : Proc ε σ α) (f : α → Proc ε σ β) : Proc ε σ β := fun s =>
  match m s with
  | (.ok a, s') => f a s'
  | (.error e, s') => (.error e, s')

instance : Monad (Proc ε σ) where
  pure := Proc.pure
  bind := Proc.bind

/-- Return early with an error code, keeping every change made so far. -/
def fail (e : ε) : Proc ε σ α := fun s => (.error e, s)

def read : Proc ε σ σ := fun s => (.ok s, s)

def modify (f : σ → σ) : Proc ε σ Unit := fun s => (.ok (), f s)

/-- The `VerifyOrReturnError` pattern. -/
def verify (p : Prop) [Decidable p] (e : ε) : Proc ε σ Unit := fun s =>
  if p then (.ok (), s) else (.error e, s)

def lift (r : Except ε α) : Proc ε σ α := fun s => (r, s)

/-- Run a call and hand its error code to the caller instead of returning. -/
def attempt (m : Proc ε σ α) : Proc ε σ (Except ε α) := fun s => (.ok (m s).1, (m s).2)

@[simp] theorem pure_apply (a : α) (s : σ) : (pure a : Proc ε σ α) s = (.ok a, s) := rfl

@[simp] theorem fail_apply (e : ε) (s : σ) : (fail e : Proc ε σ α) s = (.error e, s) := rfl

@[simp] theorem read_apply (s : σ) : (read : Proc ε σ σ) s = (.ok s, s) := rfl

@[simp] theorem modify_apply (f : σ → σ) (s : σ) :
  (modify f : Proc ε σ Unit) s = (.ok (), f s) := rfl

@[simp] theorem verify_apply (p : Prop) [Decidable p] (e : ε) (s : σ) :
  (verify p e : Proc ε σ Unit) s = if p then (.ok (), s) else (.error e, s) := rfl

@[simp] theorem lift_apply (r : Except ε α) (s : σ) : (lift r : Proc ε σ α) s = (r, s) := rfl

@[simp] theorem attempt_apply (m : Proc ε σ α) (s : σ) :
  attempt m s = (.ok (m s).1, (m s).2) := rfl

theorem bind_apply (m : Proc ε σ α) (f : α → Proc ε σ β) (s : σ) :
  (m >>= f) s = match m s with
    | (.ok a, s') => f a s'
    | (.error e, s') => (.error e, s') := rfl

variable {m : Proc ε σ α} {f : α → Proc ε σ β} {s s' : σ} {e : ε} {Q : Except ε β → σ → Prop}

theorem bind_ok {a : α} (h : m s = (.ok a, s')) : (m >>= f) s = f a s' := by
  rw [bind_apply, h]

theorem bind_error (h : m s = (.error e, s')) : (m >>= f) s = (.error e, s') := by
  rw [bind_apply, h]

theorem bind_congr {f g : α → Proc ε σ β} {s : σ} (h : ∀ a s', m s = (.ok a, s') → f a s' = g a s') :
  (m >>= f) s = (m >>= g) s := by
  rw [bind_apply, bind_apply]
  cases hm : m s with
  | mk result s' =>
    cases result with
    | error e => rfl
    | ok a => exact h a s' hm

@[simp] theorem read_bind (f : σ → Proc ε σ β) (s : σ) :
  ((read : Proc ε σ σ) >>= f) s = f s s := rfl

@[simp] theorem modify_bind (g : σ → σ) (f : Unit → Proc ε σ β) (s : σ) :
  ((modify g : Proc ε σ Unit) >>= f) s = f () (g s) := rfl

@[simp] theorem pure_bind_apply (a : α) (f : α → Proc ε σ β) (s : σ) :
  ((pure a : Proc ε σ α) >>= f) s = f a s := rfl

@[simp] theorem fail_bind (e : ε) (f : α → Proc ε σ β) (s : σ) :
  ((fail e : Proc ε σ α) >>= f) s = (.error e, s) := rfl

@[simp] theorem attempt_bind (m : Proc ε σ α) (f : Except ε α → Proc ε σ β) (s : σ) :
  (attempt m >>= f) s = f (m s).1 (m s).2 := rfl

@[simp] theorem verify_bind (p : Prop) [Decidable p] (e : ε) (f : Unit → Proc ε σ β) (s : σ) :
  ((verify p e : Proc ε σ Unit) >>= f) s = if p then f () s else (.error e, s) := by
  rw [bind_apply, verify_apply]
  by_cases h : p <;> simp [h]

theorem bind_pure_apply (m : Proc ε σ α) (f : α → β) (s : σ) :
  (m >>= fun a => pure (f a)) s = ((m s).1.map f, (m s).2) := by
  rw [bind_apply]
  cases hm : m s with
  | mk r s' => cases r <;> rfl

theorem bind_eq_ok {b : β} (h : (m >>= f) s = (.ok b, s')) :
  ∃ a t, m s = (.ok a, t) ∧ f a t = (.ok b, s') := by
  rw [bind_apply] at h
  cases hm : m s with
  | mk result t =>
    cases result with
    | error e => simp [hm] at h
    | ok a => exact ⟨a, t, rfl, by simpa [hm] using h⟩

theorem bind_eq_error (h : (m >>= f) s = (.error e, s')) :
  m s = (.error e, s') ∨ ∃ a t, m s = (.ok a, t) ∧ f a t = (.error e, s') := by
  rw [bind_apply] at h
  cases hm : m s with
  | mk result t =>
    rw [hm] at h
    cases result with
    | error e' =>
      cases h
      exact .inl rfl
    | ok a => exact .inr ⟨a, t, rfl, h⟩

theorem verify_eq_ok {p : Prop} [Decidable p] {u : Unit}
  (h : (verify p e : Proc ε σ Unit) s = (.ok u, s')) : p ∧ s' = s := by
  rw [verify_apply] at h
  by_cases hp : p
  · rw [if_pos hp] at h
    exact ⟨hp, (Prod.mk.inj h).2.symm⟩
  · rw [if_neg hp] at h
    cases h

theorem verify_bind_eq_ok {p : Prop} [Decidable p] {f : Unit → Proc ε σ β} {b : β}
  (h : ((verify p e : Proc ε σ Unit) >>= f) s = (.ok b, s')) :
  p ∧ f () s = (.ok b, s') := by
  rw [verify_bind] at h
  by_cases hp : p
  · rw [if_pos hp] at h
    exact ⟨hp, h⟩
  · rw [if_neg hp] at h
    cases h

theorem lift_bind_eq_ok {r : Except ε α} {b : β} (h : ((lift r : Proc ε σ α) >>= f) s = (.ok b, s')) :
  ∃ a, r = .ok a ∧ f a s = (.ok b, s') := by
  obtain ⟨a, t, hFirst, hRest⟩ := bind_eq_ok h
  cases hFirst
  exact ⟨a, rfl, hRest⟩

/-- Total correctness at one state: whatever the call returns, its result and
final state satisfy `Q`. -/
def Ensures (m : Proc ε σ α) (s : σ) (Q : Except ε α → σ → Prop) : Prop :=
  Q (m s).1 (m s).2

theorem Ensures.bind {s : σ}
  (h : Ensures m s fun r t => match r with | .ok a => Ensures (f a) t Q | .error e => Q (.error e) t) :
  Ensures (m >>= f) s Q := by
  unfold Ensures at h ⊢
  rw [bind_apply]
  cases hm : m s with
  | mk result t =>
    rw [hm] at h
    cases result with
    | ok a => exact h
    | error e => exact h

theorem Ensures.verify_bind {p : Prop} [Decidable p] {f : Unit → Proc ε σ α} {s : σ}
  {Q : Except ε α → σ → Prop} (hFail : Q (.error e) s) (hPass : p → Ensures (f ()) s Q) :
  Ensures (Proc.verify p e >>= f) s Q := by
  unfold Ensures
  rw [Proc.verify_bind]
  by_cases hp : p
  · rw [if_pos hp]
    exact hPass hp
  · rw [if_neg hp]
    exact hFail

/-- A call that leaves one part of the state as it is, whatever it returns. -/
def Keeps {κ : Type} (view : σ → κ) (m : Proc ε σ α) : Prop := ∀ s, view (m s).2 = view s

namespace Keeps

variable {κ : Type} {view : σ → κ}

theorem pure (a : α) : Keeps view (Pure.pure a : Proc ε σ α) := fun _ => rfl

theorem fail (e : ε) : Keeps view (Proc.fail e : Proc ε σ α) := fun _ => rfl

theorem verify (p : Prop) [Decidable p] (e : ε) : Keeps view (Proc.verify p e) := by
  intro s
  rw [verify_apply]
  split <;> rfl

theorem modify {f : σ → σ} (h : ∀ s, view (f s) = view s) :
  Keeps view (Proc.modify f : Proc ε σ Unit) := h

variable {m : Proc ε σ α}

theorem bind {f : α → Proc ε σ β} (hm : Keeps view m) (hf : ∀ a, Keeps view (f a)) :
  Keeps view (m >>= f) := by
  intro s
  have hFirst := hm s
  rw [bind_apply]
  cases hms : m s with
  | mk result t =>
    rw [hms] at hFirst
    cases result with
    | error e => exact hFirst
    | ok a => exact (hf a t).trans hFirst

theorem read_bind {f : σ → Proc ε σ β} (hf : ∀ s, Keeps view (f s)) :
  Keeps view (Proc.read >>= f) := fun s => hf s s

theorem lift (r : Except ε α) : Keeps view (Proc.lift r : Proc ε σ α) := fun _ => rfl

theorem attempt (hm : Keeps view m) : Keeps view (Proc.attempt m) := hm

theorem map {ι : Type} (g : κ → ι) (hm : Keeps view m) :
  Keeps (fun s => g (view s)) m := fun s => congrArg g (hm s)

end Keeps

/-- A call that keeps an invariant, whatever it returns, and returns only values of a kind. -/
def Maintains (P : σ → Prop) (m : Proc ε σ α) (Q : α → Prop) : Prop :=
  ∀ s, P s → P (m s).2 ∧ ∀ a, (m s).1 = .ok a → Q a

namespace Maintains

variable {P : σ → Prop} {Q : α → Prop} {R : β → Prop}

theorem pure {a : α} (h : Q a) : Maintains P (Pure.pure a : Proc ε σ α) Q := by
  intro s hs
  refine ⟨hs, ?_⟩
  rintro b ⟨⟩
  exact h

theorem fail (e : ε) : Maintains P (Proc.fail e : Proc ε σ α) Q :=
  fun s hs => ⟨hs, fun a h => by cases h⟩

theorem verify (p : Prop) [Decidable p] (e : ε) : Maintains P (Proc.verify p e) fun _ => p := by
  intro s hs
  rw [verify_apply]
  split_ifs with hp
  · exact ⟨hs, fun _ _ => hp⟩
  · exact ⟨hs, fun a h => by cases h⟩

theorem lift {r : Except ε α} (h : ∀ a, r = .ok a → Q a) : Maintains P (Proc.lift r) Q :=
  fun s hs => ⟨hs, h⟩

theorem modify {f : σ → σ} (h : ∀ s, P s → P (f s)) :
  Maintains P (Proc.modify f : Proc ε σ Unit) fun _ => True :=
  fun s hs => ⟨h s hs, fun _ _ => trivial⟩

variable {m : Proc ε σ α}

theorem mono {Q' : α → Prop} (hm : Maintains P m Q) (h : ∀ a, Q a → Q' a) :
  Maintains P m Q' :=
  fun s hs => ⟨(hm s hs).1, fun a ha => h a ((hm s hs).2 a ha)⟩

theorem bind {f : α → Proc ε σ β} (hm : Maintains P m Q) (hf : ∀ a, Q a → Maintains P (f a) R) :
  Maintains P (m >>= f) R := by
  intro s hs
  obtain ⟨hKept, hValue⟩ := hm s hs
  rw [bind_apply]
  cases hms : m s with
  | mk result t =>
    rw [hms] at hKept hValue
    cases result with
    | error e => exact ⟨hKept, fun a h => by cases h⟩
    | ok a => exact hf a (hValue a rfl) t hKept

theorem read_bind {f : σ → Proc ε σ β} (hf : ∀ s, P s → Maintains P (f s) R) :
  Maintains P (Proc.read >>= f) R := fun s hs => hf s hs s hs

theorem attempt (hm : Maintains P m Q) :
  Maintains P (Proc.attempt m) fun result => ∀ a, result = .ok a → Q a := by
  intro s hs
  obtain ⟨hKept, hValue⟩ := hm s hs
  refine ⟨hKept, ?_⟩
  rintro result ⟨⟩
  exact hValue

theorem of_keeps {κ : Type} {view : σ → κ} {k : κ} (hm : Keeps view m) :
  Maintains (fun s => view s = k) m fun _ => True :=
  fun s hs => ⟨(hm s).trans hs, fun _ _ => trivial⟩

end Maintains

/-- A call that leads from states of one kind to states of another, whatever it returns. -/
def LeadsTo (P : σ → Prop) (m : Proc ε σ α) (P' : σ → Prop) : Prop := ∀ s, P s → P' (m s).2

namespace LeadsTo

variable {P P' : σ → Prop} {Q : α → Prop}

theorem of_maintains {m : Proc ε σ α} (hm : Maintains P m Q) (h : ∀ s, P s → P' s) :
  LeadsTo P m P' :=
  fun s hs => h _ (hm s hs).1

theorem bind {m : Proc ε σ α} {f : α → Proc ε σ β} (hm : Maintains P m Q)
  (h : ∀ s, P s → P' s) (hf : ∀ a, Q a → LeadsTo P (f a) P') : LeadsTo P (m >>= f) P' := by
  intro s hs
  obtain ⟨hKept, hValue⟩ := hm s hs
  rw [bind_apply]
  cases hms : m s with
  | mk result t =>
    rw [hms] at hKept hValue
    cases result with
    | error e => exact h t hKept
    | ok a => exact hf a (hValue a rfl) t hKept

theorem read_bind {f : σ → Proc ε σ β} (hf : ∀ s, P s → LeadsTo P (f s) P') :
  LeadsTo P (Proc.read >>= f) P' := fun s hs => hf s hs s hs

end LeadsTo

def Avoids (e : ε) (m : Proc ε σ α) : Prop := ∀ s, (m s).1 ≠ .error e

namespace Avoids

variable {e : ε}

theorem pure (a : α) : Avoids e (Pure.pure a : Proc ε σ α) := by
  intro s hError
  cases hError

theorem fail {e' : ε} (hOther : e' ≠ e) : Avoids e (Proc.fail e' : Proc ε σ α) := by
  intro s hError
  cases hError
  exact hOther rfl

theorem modify (f : σ → σ) : Avoids e (Proc.modify f : Proc ε σ Unit) := by
  intro s hError
  cases hError

theorem verify {p : Prop} [Decidable p] {e' : ε} (hOther : e' ≠ e) :
  Avoids e (Proc.verify p e' : Proc ε σ Unit) := by
  intro s
  rw [verify_apply]
  split
  · exact fun hError => by cases hError
  · exact fun hError => hOther (Except.error.inj hError)

theorem bind {m : Proc ε σ α} {f : α → Proc ε σ β} (hm : Avoids e m) (hf : ∀ a, Avoids e (f a)) :
  Avoids e (m >>= f) := by
  intro s
  have hFirst := hm s
  rw [bind_apply]
  cases hms : m s with
  | mk result t =>
    rw [hms] at hFirst
    cases result with
    | ok a => exact hf a t
    | error e' =>
      intro hError
      cases hError
      exact hFirst rfl

theorem read_bind {f : σ → Proc ε σ β} (hf : ∀ s, Avoids e (f s)) :
  Avoids e (Proc.read >>= f) := fun s => hf s s

end Avoids

/-- Lockstep agreement at a pair of states: both calls return the same result
and leave related states. -/
def Agrees (R : σ → τ → Prop) (m : Proc ε σ α) (n : Proc ε τ α) (s : σ) (t : τ) : Prop :=
  (m s).1 = (n t).1 ∧ R (m s).2 (n t).2

namespace Agrees

variable {R : σ → τ → Prop} {s : σ} {t : τ}

theorem pure (a : α) (h : R s t) :
  Agrees (ε := ε) R (Pure.pure a) (Pure.pure a) s t := ⟨rfl, h⟩

theorem fail (e : ε) (h : R s t) :
  Agrees (α := α) R (Proc.fail e) (Proc.fail e) s t := ⟨rfl, h⟩

theorem modify {f : σ → σ} {g : τ → τ} (h : R (f s) (g t)) :
  Agrees (ε := ε) R (Proc.modify f) (Proc.modify g) s t := ⟨rfl, h⟩

theorem verify {p q : Prop} [Decidable p] [Decidable q] (e : ε) (hpq : p ↔ q) (h : R s t) :
  Agrees R (Proc.verify p e) (Proc.verify q e) s t := by
  by_cases hp : p
  · have hq := hpq.mp hp
    exact ⟨by simp [hp, hq], by simpa [hp, hq] using h⟩
  · have hq : ¬ q := fun hq => hp (hpq.mpr hq)
    exact ⟨by simp [hp, hq], by simpa [hp, hq] using h⟩

theorem read_bind {f : σ → Proc ε σ α} {g : τ → Proc ε τ α} (h : Agrees R (f s) (g t) s t) :
  Agrees R (Proc.read >>= f) (Proc.read >>= g) s t := h

theorem modify_bind {f : σ → σ} {g : τ → τ} {m : Unit → Proc ε σ α} {n : Unit → Proc ε τ α}
  (h : Agrees R (m ()) (n ()) (f s) (g t)) :
  Agrees R (Proc.modify f >>= m) (Proc.modify g >>= n) s t := h

variable {m : Proc ε σ α}

theorem bind {n : Proc ε τ α} {f : α → Proc ε σ β} {g : α → Proc ε τ β} (hm : Agrees R m n s t)
  (hf : ∀ a s' t', m s = (.ok a, s') → R s' t' → Agrees R (f a) (g a) s' t') :
  Agrees R (m >>= f) (n >>= g) s t := by
  obtain ⟨hResult, hState⟩ := hm
  unfold Agrees
  rw [bind_apply, bind_apply]
  cases hms : m s with
  | mk result s' =>
    cases hnt : n t with
    | mk result' t' =>
      rw [hms, hnt] at hResult hState
      subst hResult
      cases result with
      | ok a => exact hf a s' t' hms hState
      | error e => exact ⟨rfl, hState⟩

theorem bind_ok {γ : Type} {n : Proc ε τ β} {f : α → Proc ε σ γ} {g : β → Proc ε τ γ} {a : α} {b : β}
  {s' : σ} {t' : τ} (hm : m s = (.ok a, s')) (hn : n t = (.ok b, t')) (h : Agrees R (f a) (g b) s' t') :
  Agrees R (m >>= f) (n >>= g) s t := by
  unfold Agrees
  rw [Proc.bind_ok hm, Proc.bind_ok hn]
  exact h

theorem lift (r : Except ε α) (h : R s t) : Agrees R (Proc.lift r) (Proc.lift r) s t := ⟨rfl, h⟩

theorem attempt {n : Proc ε τ α} (h : Agrees R m n s t) :
  Agrees R (Proc.attempt m) (Proc.attempt n) s t :=
  ⟨congrArg Except.ok h.1, h.2⟩

end Agrees

/-- One-sided simulation at a pair of states: whatever the first call returns when
it succeeds, the second returns too, and leaves a related state. -/
def Follows (R : σ → τ → Prop) (m : Proc ε σ α) (n : Proc ε τ α) (s : σ) (t : τ) : Prop :=
  ∀ a s', m s = (.ok a, s') → ∃ t', n t = (.ok a, t') ∧ R s' t'

namespace Follows

variable {R : σ → τ → Prop} {s : σ} {t : τ}

theorem pure (a : α) (h : R s t) : Follows (ε := ε) R (Pure.pure a) (Pure.pure a) s t := by
  intro b s' hOk
  cases hOk
  exact ⟨t, rfl, h⟩

theorem fail (e : ε) (n : Proc ε τ α) : Follows R (Proc.fail e) n s t := by
  intro a s' hOk
  cases hOk

theorem bind {m : Proc ε σ α} {n : Proc ε τ α} {f : α → Proc ε σ β} {g : α → Proc ε τ β}
  (hm : Follows R m n s t)
  (hf : ∀ a s' t', m s = (.ok a, s') → R s' t' → Follows R (f a) (g a) s' t') :
  Follows R (m >>= f) (n >>= g) s t := by
  intro b s'' hOk
  obtain ⟨a, s', hFirst, hSecond⟩ := bind_eq_ok hOk
  obtain ⟨t', hFirst', hRel⟩ := hm a s' hFirst
  obtain ⟨t'', hSecond', hRel'⟩ := hf a s' t' hFirst hRel b s'' hSecond
  exact ⟨t'', (bind_ok hFirst').trans hSecond', hRel'⟩

theorem verify_bind {p q : Prop} [Decidable p] [Decidable q] {e e' : ε}
  {f : Unit → Proc ε σ β} {g : Unit → Proc ε τ β} (hpq : p → q)
  (hf : p → Follows R (f ()) (g ()) s t) :
  Follows R (Proc.verify p e >>= f) (Proc.verify q e' >>= g) s t := by
  intro b s' hOk
  rw [Proc.verify_bind] at hOk
  by_cases hp : p
  · rw [if_pos hp] at hOk
    obtain ⟨t', hOk', hRel⟩ := hf hp b s' hOk
    exact ⟨t', by rw [Proc.verify_bind, if_pos (hpq hp)]; exact hOk', hRel⟩
  · rw [if_neg hp] at hOk
    cases hOk

end Follows

/-- A call from this state ends in a state with an invariant, and not with this error. -/
def Stays (I : σ → Prop) (e : ε) (m : Proc ε σ α) (s : σ) : Prop := I (m s).2 ∧ (m s).1 ≠ .error e

namespace Stays

variable {I : σ → Prop} {e : ε} {s : σ}

theorem pure (a : α) (h : I s) : Stays I e (Pure.pure a) s := by
  refine ⟨h, fun hError => ?_⟩
  cases hError

theorem fail {e' : ε} (hOther : e' ≠ e) (h : I s) : Stays I e (Proc.fail e' : Proc ε σ α) s := by
  refine ⟨h, fun hError => ?_⟩
  cases hError
  exact hOther rfl

theorem modify {f : σ → σ} (h : I (f s)) : Stays I e (Proc.modify f) s := by
  refine ⟨h, fun hError => ?_⟩
  cases hError

theorem verify {p : Prop} [Decidable p] {e' : ε} (hOther : e' ≠ e) (h : I s) :
  Stays I e (Proc.verify p e') s := by
  by_cases hp : p
  · rw [Stays, verify_apply, if_pos hp]
    exact ⟨h, by rintro ⟨⟩⟩
  · rw [Stays, verify_apply, if_neg hp]
    exact ⟨h, fun hError => hOther (Except.error.inj hError)⟩

theorem mono {J : σ → Prop} {m : Proc ε σ α} (hm : Stays I e m s) (h : ∀ t, I t → J t) : Stays J e m s :=
  ⟨h _ hm.1, hm.2⟩

theorem bind {m : Proc ε σ α} {f : α → Proc ε σ β} (hm : Stays I e m s)
  (hf : ∀ a t, m s = (.ok a, t) → I t → Stays I e (f a) t) : Stays I e (m >>= f) s := by
  obtain ⟨hKept, hOther⟩ := hm
  rw [Stays, bind_apply]
  cases hms : m s with
  | mk result t =>
    rw [hms] at hKept hOther
    cases result with
    | error e' => exact ⟨hKept, fun hError => hOther (by rw [Except.error.inj hError])⟩
    | ok a => exact hf a t hms hKept

theorem read_bind {f : σ → Proc ε σ β} (hf : Stays I e (f s) s) :
  Stays I e (Proc.read >>= f) s := hf

theorem modify_bind {g : σ → σ} {f : Unit → Proc ε σ β} (hf : Stays I e (f ()) (g s)) :
  Stays I e (Proc.modify g >>= f) s := hf

theorem verify_bind {p : Prop} [Decidable p] {e' : ε} {f : Unit → Proc ε σ β} (hOther : e' ≠ e)
  (h : I s) (hf : p → Stays I e (f ()) s) : Stays I e (Proc.verify p e' >>= f) s := by
  refine (verify hOther h).bind fun _ t hOk _ => ?_
  obtain ⟨hp, rfl⟩ := verify_eq_ok hOk
  exact hf hp

end Stays
end Proc
end Chip
