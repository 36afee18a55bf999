import Mathlib.Logic.Basic

/-! Persistent contents that change by one atomic write at a time. A journal keeps the
writes of a call in order, so that losing power during the call leaves the contents
after one of its prefixes. -/
namespace Chip

structure Journal (σ ω : Type) where
  contents : σ
  journal : List ω

namespace Journal

variable {σ ω : Type} (apply : ω → σ → σ)

def start (contents : σ) : Journal σ ω := ⟨contents, []⟩

def write (w : ω) (j : Journal σ ω) : Journal σ ω := ⟨apply w j.contents, j.journal ++ [w]⟩

@[simp] theorem write_contents (w : ω) (j : Journal σ ω) :
  (write apply w j).contents = apply w j.contents := rfl

@[simp] theorem write_journal (w : ω) (j : Journal σ ω) :
  (write apply w j).journal = j.journal ++ [w] := rfl

def replay (writes : List ω) (contents : σ) : σ :=
  writes.foldl (fun s w => apply w s) contents

@[simp] theorem replay_nil (contents : σ) : replay apply [] contents = contents := rfl

@[simp] theorem replay_cons (w : ω) (writes : List ω) (contents : σ) :
  replay apply (w :: writes) contents = replay apply writes (apply w contents) := rfl

theorem replay_append (writes more : List ω) (contents : σ) :
  replay apply (writes ++ more) contents = replay apply more (replay apply writes contents) :=
  List.foldl_append

structure Logs (j : Journal σ ω) (writes : List ω) (j' : Journal σ ω) : Prop where
  contents : j'.contents = replay apply writes j.contents
  journal : j'.journal = j.journal ++ writes

variable {apply}

namespace Logs

variable {j j' j'' : Journal σ ω} {writes more : List ω}

theorem none (j : Journal σ ω) : Logs apply j [] j := ⟨rfl, by simp⟩

theorem write (w : ω) (j : Journal σ ω) : Logs apply j [w] (write apply w j) := ⟨rfl, rfl⟩

theorem trans (h : Logs apply j writes j') (h' : Logs apply j' more j'') :
  Logs apply j (writes ++ more) j'' := by
  refine ⟨?_, ?_⟩
  · rw [h'.contents, h.contents, replay_append]
  · rw [h'.journal, h.journal, List.append_assoc]

end Logs

/-- `P` holds right after every write of the list at which power may be lost. -/
def Survives (apply : ω → σ → σ) (mayStop : ω → Prop) (P : σ → Prop) : σ → List ω → Prop
  | _, [] => True
  | s, w :: writes => (mayStop w → P (apply w s)) ∧ Survives apply mayStop P (apply w s) writes

variable {mayStop : ω → Prop} {P : σ → Prop}

theorem survives_append {s : σ} {writes more : List ω} :
  Survives apply mayStop P s (writes ++ more) ↔
    Survives apply mayStop P s writes ∧
      Survives apply mayStop P (replay apply writes s) more := by
  induction writes generalizing s with
  | nil => simp [Survives]
  | cons w writes ih => simp [Survives, ih, and_assoc]

theorem Survives.replay_take {s : σ} {writes : List ω} (h : Survives apply mayStop P s writes)
  (k : Nat) (hSome : writes.take k ≠ [])
  (hStop : ∀ w, (writes.take k).getLast? = some w → mayStop w) :
  P (replay apply (writes.take k) s) := by
  induction writes generalizing s k with
  | nil => simp at hSome
  | cons w writes ih =>
    cases k with
    | zero => simp at hSome
    | succ k =>
      obtain ⟨hHere, hRest⟩ := h
      rw [List.take_succ_cons] at hStop ⊢
      rw [replay_cons]
      by_cases hEnd : writes.take k = []
      · rw [hEnd] at hStop ⊢
        exact hHere (hStop w rfl)
      · refine ih hRest k hEnd fun v hLast => hStop v ?_
        rw [List.getLast?_cons_of_ne_nil hEnd]
        exact hLast

theorem Survives.powerLoss {s : σ} {writes : List ω} (h : Survives apply mayStop P s writes)
  (hStart : P s) (k : Nat) (hStop : ∀ w, (writes.take k).getLast? = some w → mayStop w) :
  P (replay apply (writes.take k) s) := by
  by_cases hSome : writes.take k = []
  · rw [hSome]
    exact hStart
  · exact h.replay_take k hSome hStop

end Journal
end Chip
