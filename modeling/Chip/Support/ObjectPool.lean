import Chip.Support.HeapObjectPool

/-! Iterations over the two pools, from every state that creations, releases and other iterations
lead to. -/
namespace Chip.ObjectPool

open VisitedPool

/-- The pool on the heap serves all calls of its users. The pool of slots does so as long as no
release frees a slot that an iteration under way has loaded as used and has not come to. -/
theorem pools_serve (storage : Storage) :
    (∀ s, (bitMapObjectPool storage).Reached BitMapObjectPool.Allowed .start s →
      (bitMapObjectPool storage).Accounted s.pool ∧
        (bitMapObjectPool storage).Serves BitMapObjectPool.Allowed BitMapObjectPool.Full s) ∧
    ∀ s, heapObjectPool.Reached HeapObjectPool.Allowed .start s →
      heapObjectPool.Accounted s.pool ∧ heapObjectPool.Serves HeapObjectPool.Allowed HeapObjectPool.Full s := by
  constructor
  · intro s reached
    obtain ⟨hGood, hServes⟩ := reached.invariant BitMapObjectPool.good_start fun s call h hAllowed =>
      BitMapObjectPool.serves h call hAllowed
    exact ⟨hGood.accounted, hServes⟩
  · intro s reached
    obtain ⟨hGood, hServes⟩ := reached.invariant HeapObjectPool.good_start fun s call h hAllowed =>
      HeapObjectPool.serves h call hAllowed
    exact ⟨hGood.accounted, hServes⟩

def twoSlots : Storage := ⟨2, 0, 1, 64, by decide, by decide⟩

/-- The visitor of the first of two objects releases the second one, and the iteration goes on to
the second one. -/
theorem not_bitMapObjectPool_serves :
    ¬∀ s, (bitMapObjectPool twoSlots).Reached (bitMapObjectPool twoSlots).Legal .start s →
      (bitMapObjectPool twoSlots).Serves (bitMapObjectPool twoSlots).Legal BitMapObjectPool.Full s := by
  intro hServes
  have hFirst : (bitMapObjectPool twoSlots).Reached (bitMapObjectPool twoSlots).Legal .start _ :=
    .step .start (show Pool.Legal _ _ (.create ()) from trivial) rfl
  have hSecond := hFirst.step (show Pool.Legal _ _ (.create ()) from trivial) rfl
  have hVisit := hSecond.step (show Pool.Legal _ _ .forEach from trivial) rfl
  have hRelease := hVisit.step (show Pool.Legal _ _ (.release (some 1)) by
    show 1 ∈ (bitMapObjectPool twoSlots).live _
    decide) rfl
  obtain ⟨outcome, s', hStep, hSound⟩ := hServes _ hRelease (.returns .kContinue) (by simp [Pool.Legal])
  cases hStep
  have hLive : 1 ∈ (bitMapObjectPool twoSlots).live _ := hSound.1
  exact absurd hLive (by decide)

end Chip.ObjectPool
