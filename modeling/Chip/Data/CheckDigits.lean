import Mathlib.Algebra.Group.Basic
import Mathlib.Data.Set.Function

/-! Check digits over a group. Each digit of a code has a weight in the group that depends on its
position, and a code is accepted when the product of the weights is one. Positions are counted from
the check digit, which is the first item of the list. -/
namespace CheckDigits

variable {D G : Type*} [Group G] {w : Nat → D → G} {k : Nat} {a b : D} {digits pre post : List D}

/-- The product of the weights of these digits, the first of which is at position `k`. -/
def product (w : Nat → D → G) : Nat → List D → G
  | _, [] => 1
  | k, d :: ds => w k d * product w (k + 1) ds

def Accepted (w : Nat → D → G) (digits : List D) : Prop := product w 0 digits = 1

@[simp] theorem product_nil : product w k [] = 1 := rfl

@[simp] theorem product_cons : product w k (a :: digits) = w k a * product w (k + 1) digits := rfl

theorem product_append (w : Nat → D → G) (k : Nat) (pre post : List D) :
  product w k (pre ++ post) = product w k pre * product w (k + pre.length) post := by
  induction pre generalizing k with
  | nil => simp
  | cons d ds ih => simp [ih, mul_assoc, Nat.add_assoc, Nat.add_comm 1]

/-- The digits of `S` have weights that tell a digit from any other at the same position, and two
neighbours from the same ones exchanged. -/
structure Detects (w : Nat → D → G) (S : Set D) : Prop where
  injOn : ∀ k, Set.InjOn (w k) S
  twist : ∀ k, ∀ a ∈ S, ∀ b ∈ S, w k a * w (k + 1) b = w k b * w (k + 1) a → a = b

namespace Detects

variable {S : Set D} (h : Detects w S)
include h

section

variable (ha : a ∈ S) (hb : b ∈ S)
include ha hb

theorem product_substitute
  (hSame : product w k (pre ++ a :: post) = product w k (pre ++ b :: post)) : a = b := by
  simp only [product_append, product_cons, mul_right_inj, mul_left_inj] at hSame
  exact h.injOn _ ha hb hSame

theorem product_transpose
  (hSame : product w k (pre ++ a :: b :: post) = product w k (pre ++ b :: a :: post)) : a = b := by
  simp only [product_append, product_cons, ← mul_assoc, mul_left_inj] at hSame
  simp only [mul_assoc, mul_right_inj] at hSame
  exact h.twist _ a ha b hb hSame

theorem substitution (hNe : a ≠ b) (hAccepted : Accepted w (pre ++ a :: post)) :
  ¬Accepted w (pre ++ b :: post) := fun hOther =>
  hNe (h.product_substitute ha hb (hAccepted.trans hOther.symm))

theorem transposition (hNe : a ≠ b) (hAccepted : Accepted w (pre ++ a :: b :: post)) :
  ¬Accepted w (pre ++ b :: a :: post) :=
  fun hOther => hNe (h.product_transpose ha hb (hAccepted.trans hOther.symm))

end

omit h in
theorem congr {v : Nat → D → G} (h : Detects v S) (hSame : ∀ k, ∀ d ∈ S, w k d = v k d) :
  Detects w S where
  injOn k a ha b hb hEq := h.injOn k ha hb (by rwa [hSame k a ha, hSame k b hb] at hEq)
  twist k a ha b hb hEq := h.twist k a ha b hb (by
    rwa [hSame k a ha, hSame k b hb, hSame (k + 1) a ha, hSame (k + 1) b hb] at hEq)

end Detects

theorem detects_iterate {S : Set D} (value : D → G) (σ : D → D) (hMaps : Set.MapsTo σ S S)
  (hInj : Set.InjOn σ S) (hValue : Set.InjOn value S)
  (hTwist : ∀ a ∈ S, ∀ b ∈ S, value a * value (σ b) = value b * value (σ a) → a = b) :
  Detects (fun k d => value (σ^[k] d)) S where
  injOn k := hValue.comp (hInj.iterate hMaps k) (hMaps.iterate k)
  twist k a ha b hb hSame := by
    simp only [Function.iterate_succ_apply'] at hSame
    exact hInj.iterate hMaps k ha hb
      (hTwist _ (hMaps.iterate k ha) _ (hMaps.iterate k hb) hSame)

end CheckDigits
