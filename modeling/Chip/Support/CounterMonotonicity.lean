import Chip.Support.PersistedCounter

/-! A persisted counter grows over reboots as long as its record is ahead of it. -/
namespace Chip.Support

open CounterOp

variable {w : Nat} {st : CounterDevice w}

namespace CounterDevice

/-- The value that the counter starts from after the next boot. -/
def startValue (st : CounterDevice w) : Nat := (st.stored.getD 0).toNat

/-- The counter is only used after a successful `Init`, and the write at the end of an epoch
does not fail. It may be cut off by a power loss, and the accesses of `Init` may fail. -/
def Keeps (st : CounterDevice w) : CounterOp w → Prop
  | .boot _ _ _ => True
  | .advance fate => st.ready = true ∧
      (st.counter.mNextEpoch ≤ st.counter.mCounterValue + 1 → fate ≠ .fails)
  | .getValue => st.ready = true

def InRange (st : CounterDevice w) : CounterOp w → Prop
  | .boot aEpoch _ _ => st.startValue + 2 * aEpoch.toNat ≤ 2 ^ w - 1
  | .advance _ => st.counter.mCounterValue.toNat + 2 * st.counter.mEpoch.toNat ≤ 2 ^ w - 1
  | .getValue => True

instance (st : CounterDevice w) (op : CounterOp w) : Decidable (st.Keeps op) :=
  match op with
  | .boot _ _ _ => inferInstanceAs (Decidable True)
  | .advance _ => inferInstanceAs (Decidable (_ ∧ (_ → _)))
  | .getValue => inferInstanceAs (Decidable (_ = true))

instance (st : CounterDevice w) (op : CounterOp w) : Decidable (st.InRange op) :=
  match op with
  | .boot _ _ _ => inferInstanceAs (Decidable (_ ≤ _))
  | .advance _ => inferInstanceAs (Decidable (_ ≤ _))
  | .getValue => inferInstanceAs (Decidable True)

/-- Every call of a run is of this kind in the state it is made in. -/
def Orderly : CounterDevice w → List (CounterOp w) → Prop
  | _, [] => True
  | st, op :: ops => st.Keeps op ∧ st.InRange op ∧ Orderly (op.step st) ops

instance decidableOrderly : (st : CounterDevice w) → (ops : List (CounterOp w)) →
    Decidable (st.Orderly ops)
  | _, [] => inferInstanceAs (Decidable True)
  | st, op :: ops =>
    have := decidableOrderly (op.step st) ops
    inferInstanceAs (Decidable (_ ∧ _ ∧ _))

/-- While it is used the counter is below its record, which is the end of its epoch. -/
structure Running (st : CounterDevice w) : Prop where
  storage : st.counter.mStorage = true
  record : st.stored = some st.counter.mNextEpoch
  epoch : 0 < st.counter.mEpoch.toNat
  below : st.counter.mCounterValue.toNat < st.counter.mNextEpoch.toNat
  near : st.counter.mNextEpoch.toNat ≤ st.counter.mCounterValue.toNat + st.counter.mEpoch.toNat

/-- No value from now on is less than `low`. -/
structure From (low : Nat) (st : CounterDevice w) : Prop where
  start : low ≤ st.startValue
  running : st.ready = true → st.Running ∧ low ≤ st.counter.mCounterValue.toNat

end CounterDevice

open CounterDevice

theorem toNat_add_of_le {a b : BitVec w} (h : a.toNat + b.toNat ≤ 2 ^ w - 1) :
  (a + b).toNat = a.toNat + b.toNat := by
  have hPos := Nat.two_pow_pos w
  rw [BitVec.toNat_add]
  exact Nat.mod_eq_of_lt (by omega)

theorem toNat_succ_of_le {a : BitVec w} (h : a.toNat + 1 ≤ 2 ^ w - 1) :
  (a + 1).toNat = a.toNat + 1 := by
  have hBig : 1 < 2 ^ w := by omega
  have hOne : (1 : BitVec w).toNat = 1 := by
    rw [BitVec.ofNat_eq_ofNat, BitVec.toNat_ofNat]
    exact Nat.mod_eq_of_lt hBig
  rw [toNat_add_of_le (by rw [hOne]; exact h), hOne]

theorem boot_cases (aEpoch : BitVec w) (readFails : Bool) (fate : WriteFate) (st : CounterDevice w) :
  (((boot aEpoch readFails fate).step st).ready = false ∧
    (((boot aEpoch readFails fate).step st).stored = st.stored ∨
      ((boot aEpoch readFails fate).step st).stored = some (st.stored.getD 0 + aEpoch))) ∨
  (0 < aEpoch ∧ (boot aEpoch readFails fate).step st =
    ⟨some (st.stored.getD 0 + aEpoch),
      ⟨true, aEpoch, st.stored.getD 0 + aEpoch, st.stored.getD 0⟩, true⟩) := by
  have hStep : (boot aEpoch readFails fate).step st =
      .booted (CounterDevice.init aEpoch readFails fate { st with counter := .fresh }) := rfl
  rw [hStep, CounterDevice.init, Proc.verify_bind]
  by_cases hEpoch : 0 < aEpoch
  · rw [if_pos hEpoch]
    cases readFails with
    | true => exact .inl ⟨rfl, .inl rfl⟩
    | false =>
      cases fate with
      | done => exact .inr ⟨hEpoch, rfl⟩
      | fails => exact .inl ⟨rfl, .inl rfl⟩
      | lostBefore => exact .inl ⟨rfl, .inl rfl⟩
      | lostAfter => exact .inl ⟨rfl, .inr rfl⟩
  · rw [if_neg hEpoch]
    exact .inl ⟨rfl, .inl rfl⟩

theorem advance_cases {fate : WriteFate} (h : st.Running) (hReady : st.ready = true)
  (hKeeps : st.Keeps (.advance fate)) (hRange : st.InRange (.advance fate)) :
  ((CounterOp.advance fate).step st = st.setCounter fun c =>
      { c with mCounterValue := c.mCounterValue + 1 }) ∧
    st.counter.mCounterValue.toNat + 1 < st.counter.mNextEpoch.toNat ∨
  st.counter.mCounterValue.toNat + 1 = st.counter.mNextEpoch.toNat ∧
    ((CounterOp.advance fate).step st =
        ⟨some (st.counter.mNextEpoch + st.counter.mEpoch),
          { st.counter with
            mNextEpoch := st.counter.mNextEpoch + st.counter.mEpoch
            mCounterValue := st.counter.mCounterValue + 1 }, true⟩ ∨
      ((CounterOp.advance fate).step st).ready = false ∧
        (((CounterOp.advance fate).step st).stored = st.stored ∨
          ((CounterOp.advance fate).step st).stored =
            some (st.counter.mNextEpoch + st.counter.mEpoch))) := by
  obtain ⟨stored, ⟨mStorage, mEpoch, mNextEpoch, mCounterValue⟩, ready⟩ := st
  obtain ⟨hStorage, hRecord, hEpoch, hBelow, hNear⟩ := h
  simp only [CounterDevice.Keeps, CounterDevice.InRange] at *
  subst hStorage hReady
  have hOne : mCounterValue.toNat + 1 ≤ 2 ^ w - 1 := by omega
  have hValue := toNat_succ_of_le hOne
  have hStep : (CounterOp.advance fate).step ⟨stored, ⟨true, mEpoch, mNextEpoch, mCounterValue⟩, true⟩ =
      .returned (if mNextEpoch ≤ mCounterValue + 1 then
        (persistNextEpochStart fate (mNextEpoch + mEpoch) >>= fun _ => Proc.read >>= fun st =>
          Proc.verify (st.counter.mCounterValue < st.counter.mNextEpoch) (.error .internal))
          ⟨stored, ⟨true, mEpoch, mNextEpoch, mCounterValue + 1⟩, true⟩
      else (.ok (), ⟨stored, ⟨true, mEpoch, mNextEpoch, mCounterValue + 1⟩, true⟩)) := by
    change CounterDevice.returned ((if mNextEpoch ≤ mCounterValue + 1 then _ else _ : CounterM w Unit)
      _) = _
    by_cases hEnd : mNextEpoch ≤ mCounterValue + 1
    · rw [if_pos hEnd, if_pos hEnd]
      rfl
    · rw [if_neg hEnd, if_neg hEnd]
      rfl
  rw [hStep]
  by_cases hEnd : mNextEpoch ≤ mCounterValue + 1
  · have hAt : mCounterValue.toNat + 1 = mNextEpoch.toNat := by
      rw [BitVec.le_def, hValue] at hEnd
      omega
    have hNext : (mNextEpoch + mEpoch).toNat = mNextEpoch.toNat + mEpoch.toNat :=
      toNat_add_of_le (by omega)
    have hLess : mCounterValue + 1 < mNextEpoch + mEpoch := by
      rw [BitVec.lt_def, hValue, hNext]
      omega
    refine .inr ⟨hAt, ?_⟩
    rw [if_pos hEnd]
    cases fate with
    | done =>
      refine .inl ?_
      change CounterDevice.returned (Proc.verify (mCounterValue + 1 < mNextEpoch + mEpoch) _ _) = _
      rw [Proc.verify_apply, if_pos hLess]
      rfl
    | fails => exact absurd rfl (hKeeps.2 hEnd)
    | lostBefore => exact .inr ⟨rfl, .inl rfl⟩
    | lostAfter => exact .inr ⟨rfl, .inr rfl⟩
  · rw [if_neg hEnd]
    refine .inl ⟨rfl, ?_⟩
    rw [BitVec.le_def, hValue] at hEnd
    omega

theorem advance_startValue {fate : WriteFate} (h : st.Running) (hKeeps : st.Keeps (.advance fate))
  (hRange : st.InRange (.advance fate)) :
  st.startValue ≤ ((CounterOp.advance fate).step st).startValue := by
  have hRecord : st.startValue = st.counter.mNextEpoch.toNat := by
    rw [startValue, h.record]
    rfl
  have hRoom : st.counter.mCounterValue.toNat + 2 * st.counter.mEpoch.toNat ≤ 2 ^ w - 1 := hRange
  have hEpoch := h.epoch
  have hNear := h.near
  rcases advance_cases h hKeeps.1 hKeeps hRange with ⟨hStep, -⟩ | ⟨hEnd, hStep | ⟨-, hStored⟩⟩
  · rw [hStep]
    exact Nat.le_refl _
  all_goals
    have hNext : (st.counter.mNextEpoch + st.counter.mEpoch).toNat =
        st.counter.mNextEpoch.toNat + st.counter.mEpoch.toNat := toNat_add_of_le (by omega)
  · rw [hStep]
    change st.startValue ≤ (st.counter.mNextEpoch + st.counter.mEpoch).toNat
    omega
  · rcases hStored with hSame | hMoved
    · rw [startValue, startValue, hSame]
    · rw [startValue.eq_def ((CounterOp.advance fate).step st), hMoved, Option.getD_some]
      omega

theorem CounterDevice.From.step {low : Nat} (h : From low st) {op : CounterOp w}
  (hKeeps : st.Keeps op) (hRange : st.InRange op) :
  From low (op.step st) ∧ st.startValue ≤ (op.step st).startValue ∧
    ∀ v, op.shows st = some v → low ≤ v.toNat ∧ v.toNat < st.startValue := by
  cases op with
  | boot aEpoch readFails fate =>
    have hAdd : (st.stored.getD 0 + aEpoch).toNat = st.startValue + aEpoch.toNat :=
      toNat_add_of_le (by simp only [CounterDevice.InRange, startValue] at hRange; omega)
    have hStart := h.start
    rcases boot_cases aEpoch readFails fate st with ⟨hReady, hSame | hNext⟩ | ⟨hEpoch, hStep⟩
    · have hEq : ((CounterOp.boot aEpoch readFails fate).step st).startValue = st.startValue := by
        rw [startValue, hSame, startValue]
      refine ⟨⟨by omega, ?_⟩, by omega, fun v hv => by cases hv⟩
      intro hTrue
      rw [hReady] at hTrue
      cases hTrue
    · have hEq : ((CounterOp.boot aEpoch readFails fate).step st).startValue =
          st.startValue + aEpoch.toNat := by
        rw [startValue, hNext, Option.getD_some, hAdd]
      refine ⟨⟨by omega, ?_⟩, by omega, fun v hv => by cases hv⟩
      intro hTrue
      rw [hReady] at hTrue
      cases hTrue
    · have hEq : ((CounterOp.boot aEpoch readFails fate).step st).startValue =
          st.startValue + aEpoch.toNat := by
        rw [hStep, startValue, Option.getD_some, hAdd]
      have hPos : 0 < aEpoch.toNat := by
        rw [BitVec.lt_def] at hEpoch
        simpa using hEpoch
      refine ⟨⟨by omega, ?_⟩, by omega, fun v hv => by cases hv⟩
      intro _
      rw [hStep]
      refine ⟨⟨rfl, rfl, hPos, ?_, ?_⟩, hStart⟩
      · change (st.stored.getD 0).toNat < (st.stored.getD 0 + aEpoch).toNat
        rw [hAdd, startValue]
        omega
      · change (st.stored.getD 0 + aEpoch).toNat ≤ (st.stored.getD 0).toNat + aEpoch.toNat
        rw [hAdd, startValue]
  | advance fate =>
    obtain ⟨hRunning, hLow⟩ := h.running hKeeps.1
    have hStart := h.start
    have hRecord : st.startValue = st.counter.mNextEpoch.toNat := by
      rw [startValue, hRunning.record]
      rfl
    have hEpoch := hRunning.epoch
    have hNear := hRunning.near
    have hRoom : st.counter.mCounterValue.toNat + 2 * st.counter.mEpoch.toNat ≤ 2 ^ w - 1 := hRange
    have hValue := toNat_succ_of_le (a := st.counter.mCounterValue) (by omega)
    refine ⟨?_, ?_, fun v hv => by cases hv⟩
    · rcases advance_cases hRunning hKeeps.1 hKeeps hRange with ⟨hStep, hInside⟩ |
        ⟨hEnd, hStep | ⟨hReady, hStored⟩⟩
      · rw [hStep]
        refine ⟨hStart, fun _ => ⟨⟨hRunning.storage, hRunning.record, hEpoch, ?_, ?_⟩, ?_⟩⟩
        · change (st.counter.mCounterValue + 1).toNat < st.counter.mNextEpoch.toNat
          omega
        · change st.counter.mNextEpoch.toNat ≤
            (st.counter.mCounterValue + 1).toNat + st.counter.mEpoch.toNat
          omega
        · change low ≤ (st.counter.mCounterValue + 1).toNat
          omega
      · have hNext : (st.counter.mNextEpoch + st.counter.mEpoch).toNat =
            st.counter.mNextEpoch.toNat + st.counter.mEpoch.toNat := toNat_add_of_le (by omega)
        rw [hStep]
        refine ⟨?_, fun _ => ⟨⟨hRunning.storage, rfl, hEpoch, ?_, ?_⟩, ?_⟩⟩
        · change low ≤ (st.counter.mNextEpoch + st.counter.mEpoch).toNat
          omega
        · change (st.counter.mCounterValue + 1).toNat <
            (st.counter.mNextEpoch + st.counter.mEpoch).toNat
          omega
        · change (st.counter.mNextEpoch + st.counter.mEpoch).toNat ≤
            (st.counter.mCounterValue + 1).toNat + st.counter.mEpoch.toNat
          omega
        · change low ≤ (st.counter.mCounterValue + 1).toNat
          omega
      · refine ⟨Nat.le_trans hStart (advance_startValue hRunning hKeeps hRange), ?_⟩
        intro hTrue
        rw [hReady] at hTrue
        cases hTrue
    · exact advance_startValue hRunning hKeeps hRange
  | getValue =>
    obtain ⟨hRunning, hLow⟩ := h.running hKeeps
    refine ⟨h, Nat.le_refl _, ?_⟩
    rintro v hv
    cases hv
    refine ⟨hLow, ?_⟩
    rw [startValue, hRunning.record]
    exact hRunning.below

variable {ops : List (CounterOp w)}

theorem CounterDevice.From.run {low : Nat} (h : From low st) (hOrderly : st.Orderly ops) :
  st.startValue ≤ (counterRun ops st).startValue ∧
    ∀ v ∈ counterValues ops st, low ≤ v.toNat ∧ v.toNat < (counterRun ops st).startValue := by
  induction ops generalizing st with
  | nil => exact ⟨Nat.le_refl _, fun v hv => by cases hv⟩
  | cons op ops ih =>
    obtain ⟨hKeeps, hRange, hRest⟩ := hOrderly
    obtain ⟨hStep, hLe, hShows⟩ := h.step hKeeps hRange
    obtain ⟨hLe', hValues⟩ := ih hStep hRest
    refine ⟨Nat.le_trans hLe hLe', ?_⟩
    intro v hv
    rcases List.mem_append.mp hv with hHere | hLater
    · obtain ⟨hLow, hHigh⟩ := hShows v (Option.mem_toList.mp hHere)
      exact ⟨hLow, Nat.lt_of_lt_of_le hHigh (Nat.le_trans hLe hLe')⟩
    · exact hValues v hLater

theorem CounterDevice.Orderly.split (more : List (CounterOp w)) (h : st.Orderly (ops ++ more)) :
  st.Orderly ops ∧ (counterRun ops st).Orderly more := by
  induction ops generalizing st with
  | nil => exact ⟨trivial, h⟩
  | cons op ops ih =>
    obtain ⟨hKeeps, hRange, hRest⟩ := h
    obtain ⟨hFirst, hMore⟩ := ih hRest
    exact ⟨⟨hKeeps, hRange, hFirst⟩, hMore⟩

theorem from_boot (aEpoch : BitVec w) (readFails : Bool) (fate : WriteFate)
  (h : From 0 st) (hRange : st.InRange (.boot aEpoch readFails fate)) :
  From st.startValue ((boot aEpoch readFails fate).step st) := by
  have hKeeps : st.Keeps (.boot aEpoch readFails fate) := trivial
  obtain ⟨hStep, hLe, -⟩ := h.step hKeeps hRange
  refine ⟨hLe, fun hReady => ⟨(hStep.running hReady).1, ?_⟩⟩
  rcases boot_cases aEpoch readFails fate st with ⟨hNot, -⟩ | ⟨-, hBoot⟩
  · rw [hNot] at hReady
    cases hReady
  · rw [hBoot]
    exact Nat.le_refl _

theorem CounterDevice.From.after (h : From 0 st) (hOrderly : st.Orderly ops) :
  From 0 (counterRun ops st) := by
  induction ops generalizing st with
  | nil => exact h
  | cons op ops ih => exact ih (h.step hOrderly.1 hOrderly.2.1).1 hOrderly.2.2

/-- In an orderly run every value that is shown after a boot is greater than every value that
was shown before it. -/
theorem persistedCounter_monotonic (before after : List (CounterOp w)) (aEpoch : BitVec w)
    (readFails : Bool) (fate : WriteFate)
    (hOrderly : CounterDevice.new.Orderly (before ++ .boot aEpoch readFails fate :: after)) :
    ∀ v ∈ counterValues before (CounterDevice.new : CounterDevice w),
      ∀ v' ∈ counterValues after
        ((CounterOp.boot aEpoch readFails fate).step (counterRun before CounterDevice.new)),
      v < v' := by
  have hNew : From 0 (CounterDevice.new : CounterDevice w) :=
    ⟨Nat.zero_le _, fun hReady => by cases hReady⟩
  obtain ⟨hBefore, -, hRange, hAfter⟩ := hOrderly.split
  have hBoot := from_boot aEpoch readFails fate (hNew.after hBefore) hRange
  intro v hv v' hv'
  have hEarlier := ((hNew.run hBefore).2 v hv).2
  have hLater := ((hBoot.run hAfter).2 v' hv').1
  exact BitVec.lt_def.mpr (Nat.lt_of_lt_of_le hEarlier hLater)

/-- Epochs of two: the values 0 to 2 are shown, the power is lost, and 4 is shown. -/
theorem persistedCounter_monotonic_over_reboot :
    (CounterDevice.new : CounterDevice 64).Orderly
        ([.boot 2 false .done, .getValue, .advance .done, .advance .done, .getValue] ++
          .boot 2 false .done :: [.getValue]) ∧
      ∀ v ∈ counterValues [.boot 2 false .done, .getValue, .advance .done, .advance .done, .getValue]
          (CounterDevice.new : CounterDevice 64),
        ∀ v' ∈ counterValues [.getValue]
          ((CounterOp.boot 2 false .done).step (counterRun
            [.boot 2 false .done, .getValue, .advance .done, .advance .done, .getValue]
            CounterDevice.new)),
        v < v' := by
  exact ⟨by decide +kernel, persistedCounter_monotonic
    [.boot 2 false .done, .getValue, .advance .done, .advance .done, .getValue] [.getValue] 2 false
    .done (by decide +kernel)⟩

/-- The write at the end of the epoch fails. The value 2 is shown before a boot and again
after it. -/
theorem failed_epoch_write_repeats_value :
    counterValues [.boot 2 false .done, .advance .done, .advance .fails, .getValue]
        (CounterDevice.new : CounterDevice 64) = [2] ∧
      counterValues [.getValue] ((CounterOp.boot 2 false .done).step (counterRun
        [.boot 2 false .done, .advance .done, .advance .fails, .getValue]
        (CounterDevice.new : CounterDevice 64))) = [2] := by
  decide +kernel

end Chip.Support
