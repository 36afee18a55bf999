import Chip.Transport.GroupCounters

/-! No counter of an outgoing group message is used twice while the records are ahead of the
counters. The values of a counter are counted from the first one on, without rollover. -/
namespace Chip.Transport

open Proc GroupCounterOp List GroupCounterDevice

namespace GroupCounterDevice

/-- Messages are only sent after a successful `Init`, and when the counter reaches its record
the next record is written: neither the read nor the write fails. The power may be lost, and
every other access may fail. -/
def Keeps (st : GroupCounterDevice) : GroupCounterOp → Prop
  | .boot _ => True
  | .send isControl readFails fate => st.ready = true ∧
      (st.stored isControl = some (st.getCounter isControl + 1) →
        readFails = false ∧ fate ≠ .fails)

instance (st : GroupCounterDevice) (op : GroupCounterOp) : Decidable (st.Keeps op) :=
  match op with
  | .boot _ => inferInstanceAs (Decidable True)
  | .send _ _ _ => inferInstanceAs (Decidable (_ ∧ (_ → _ ∧ _)))

/-- Every step of a run is of this kind in the state it is made in. -/
def Orderly : GroupCounterDevice → List GroupCounterOp → Prop
  | _, [] => True
  | st, op :: ops => st.Keeps op ∧ Orderly (op.step st) ops

instance decidableOrderly : (st : GroupCounterDevice) → (ops : List GroupCounterOp) →
    Decidable (st.Orderly ops)
  | _, [] => inferInstanceAs (Decidable True)
  | st, op :: ops =>
    have := decidableOrderly (op.step st) ops
    inferInstanceAs (Decidable (_ ∧ _))

end GroupCounterDevice

section Step

variable {st : GroupCounterDevice} {k : Bool}

def continuesFrom (st : GroupCounterDevice) (isControl : Bool) (randU32 : UInt32) : UInt32 :=
  (st.stored isControl).getD ((randU32 &&& messageCounterRandomInitMask) + 1)

theorem loadCounter_ok (isControl : Bool) (randU32 : UInt32) (st : GroupCounterDevice) :
  loadCounter isControl false randU32 st =
    (.ok (), setCounter isControl (continuesFrom st isControl randU32) st) := by
  unfold loadCounter continuesFrom
  have hRead : syncGetKeyValue isControl false st = (.ok (st.stored isControl), st) := rfl
  rw [bind_ok hRead]
  cases st.stored isControl <;> rfl

theorem boot_step (fates : InitFates) (st : GroupCounterDevice) :
  (boot fates).step st = booted (init fates { st with counters := ⟨0, 0, false⟩ }) := rfl

theorem boot_cases (fates : InitFates) (st : GroupCounterDevice) (k : Bool) :
  ∃ start, (∀ v, st.stored k = some v → start = v) ∧
    ((((boot fates).step st).ready = false ∧
        (((boot fates).step st).stored k = st.stored k ∨
          ((boot fates).step st).stored k =
            some (start + groupMsgCounterMinIncrement))) ∨
      ((boot fates).step st).getCounter k = start ∧
        ((boot fates).step st).stored k =
          some (start + groupMsgCounterMinIncrement)) := by
  obtain ⟨controlReadFails, dataReadFails, controlWrite, dataWrite, controlRandom, dataRandom⟩ := fates
  refine ⟨continuesFrom st k (if k then controlRandom else dataRandom), ?_, ?_⟩
  · intro v hv
    rw [continuesFrom, hv]
    rfl
  rw [boot_step, init, modify_bind]
  cases controlReadFails with
  | true =>
    refine .inl ⟨rfl, .inl ?_⟩
    cases k <;> rfl
  | false =>
    rw [bind_ok (loadCounter_ok _ _ _)]
    cases dataReadFails with
    | true =>
      refine .inl ⟨rfl, .inl ?_⟩
      cases k <;> rfl
    | false =>
      rw [bind_ok (loadCounter_ok _ _ _)]
      cases controlWrite with
      | fails =>
        refine .inl ⟨rfl, .inl ?_⟩
        cases k <;> rfl
      | lostBefore =>
        refine .inl ⟨rfl, .inl ?_⟩
        cases k <;> rfl
      | lostAfter =>
        refine .inl ⟨rfl, ?_⟩
        cases k
        · exact .inl rfl
        · exact .inr rfl
      | done =>
        cases dataWrite with
        | done =>
          refine .inr ?_
          cases k
          · exact ⟨rfl, rfl⟩
          · exact ⟨rfl, rfl⟩
        | fails =>
          refine .inl ⟨rfl, ?_⟩
          cases k
          · exact .inl rfl
          · exact .inr rfl
        | lostBefore =>
          refine .inl ⟨rfl, ?_⟩
          cases k
          · exact .inl rfl
          · exact .inr rfl
        | lostAfter =>
          refine .inl ⟨rfl, ?_⟩
          cases k
          · exact .inr rfl
          · exact .inr rfl

theorem getCounter_setCounter (j : Bool) (v : UInt32) (st : GroupCounterDevice) :
  (setCounter j v st).getCounter k = if k = j then v else st.getCounter k := by
  cases j <;> cases k <;> rfl

theorem stored_setCounter (j : Bool) (v : UInt32) (st : GroupCounterDevice) :
  (setCounter j v st).stored k = st.stored k := by
  cases j <;> rfl

theorem stored_setStored (j : Bool) (v : UInt32) (st : GroupCounterDevice) :
  (setStored j v st).stored k = if k = j then some v else st.stored k := by
  cases j <;> cases k <;> rfl

theorem send_cases {readFails : Bool} {fate : WriteFate} {p : UInt32}
  (hStorage : st.counters.mStorage = true) (hStored : st.stored k = some p)
  (hKeeps : st.Keeps (.send k readFails fate)) :
  ((send k readFails fate).uses st = some (k, st.getCounter k) ∧
    p ≠ st.getCounter k + 1 ∧
    (send k readFails fate).step st = setCounter k (st.getCounter k + 1) st) ∨
  (p = st.getCounter k + 1 ∧
    (((send k readFails fate).uses st = some (k, st.getCounter k) ∧
        (send k readFails fate).step st =
          setStored k (p + groupMsgCounterMinIncrement) (setCounter k (st.getCounter k + 1) st)) ∨
      ((send k readFails fate).uses st = none ∧
        ((send k readFails fate).step st).ready = false ∧
        ((∀ j, ((send k readFails fate).step st).stored j = st.stored j) ∨
          ∀ j, ((send k readFails fate).step st).stored j =
            if j = k then some (p + groupMsgCounterMinIncrement) else st.stored j)))) := by
  have hValue : (setCounter k (st.getCounter k + 1) st).getCounter k = st.getCounter k + 1 := by
    rw [getCounter_setCounter, if_pos rfl]
  have hSet : (setCounter k (st.getCounter k + 1) st).counters.mStorage = true := by
    cases k <;> exact hStorage
  have hKept : (setCounter k (st.getCounter k + 1) st).stored k = some p := by
    rw [stored_setCounter, hStored]
  have hStep : (send k readFails fate).step st =
      returned (incrementCounter k readFails fate st) := rfl
  have hUsed : ∀ result s', incrementCounter k readFails fate st = (result, s') →
      result ≠ .error .powerLoss →
        (send k readFails fate).uses st = some (k, st.getCounter k) := by
    intro result s' hResult hPower
    rw [uses, hResult]
    split
    next hLost => exact absurd hLost hPower
    next => rfl
  have hLost : ∀ s', incrementCounter k readFails fate st = (.error .powerLoss, s') →
      (send k readFails fate).uses st = none := by
    intro s' hResult
    rw [uses, hResult]
  by_cases hReached : p = st.getCounter k + 1
  · obtain ⟨rfl, hFate⟩ := hKeeps.2 (hStored.trans (congrArg some hReached))
    have hRead : syncGetKeyValue k false (setCounter k (st.getCounter k + 1) st) =
        (.ok (some p), setCounter k (st.getCounter k + 1) st) := by
      rw [← hKept]
      rfl
    have hCall : incrementCounter k false fate st =
        syncSetKeyValue k fate (p + groupMsgCounterMinIncrement)
          (setCounter k (st.getCounter k + 1) st) := by
      rw [incrementCounter, modify_bind, read_bind, verify_bind, if_pos hSet, hValue,
        bind_ok hRead]
      simp only [hReached, ↓reduceIte]
    refine .inr ⟨hReached, ?_⟩
    rw [hStep, hCall]
    cases fate with
    | done => exact .inl ⟨hUsed _ _ hCall (by simp), rfl⟩
    | fails => exact absurd rfl hFate
    | lostBefore =>
      refine .inr ⟨hLost _ hCall, rfl, .inl fun j => ?_⟩
      cases k <;> cases j <;> rfl
    | lostAfter =>
      refine .inr ⟨hLost _ hCall, rfl, .inr fun j => ?_⟩
      cases k <;> cases j <;> rfl
  · refine .inl ?_
    cases readFails with
    | true =>
      have hFail : incrementCounter k true fate st =
          (.error (.error .persistedStorageFailed), setCounter k (st.getCounter k + 1) st) := by
        rw [incrementCounter, modify_bind, read_bind, verify_bind, if_pos hSet, hValue]
        exact bind_error rfl
      rw [hStep, hFail]
      exact ⟨hUsed _ _ hFail (by simp), hReached, rfl⟩
    | false =>
      have hRead : syncGetKeyValue k false (setCounter k (st.getCounter k + 1) st) =
          (.ok (some p), setCounter k (st.getCounter k + 1) st) := by
        rw [← hKept]
        rfl
      have hCall : incrementCounter k false fate st =
          (.ok (), setCounter k (st.getCounter k + 1) st) := by
        rw [incrementCounter, modify_bind, read_bind, verify_bind, if_pos hSet, hValue,
          bind_ok hRead]
        simp only [hReached, ↓reduceIte]
        rfl
      rw [hStep, hCall]
      exact ⟨hUsed _ _ hCall (by simp), hReached, rfl⟩

end Step

/-- One counter and its record, after `n` values have been set aside. With the first value as
the base, the values used so far are below `c`, where the counter stands while it is used. -/
def Ahead (used : List (Bool × UInt32)) (n : Nat) (st : GroupCounterDevice) (k : Bool) : Prop :=
  (st.stored k = none ∧ st.ready = false ∧ n = 0 ∧ ∀ v, (k, v) ∉ used) ∨
  ∃ base : UInt32, ∃ c, st.stored k = some (base + UInt32.ofNat n) ∧ c ≤ n ∧
    (∀ v, (k, v) ∈ used → ∃ o, o < c ∧ v = base + UInt32.ofNat o) ∧
    (st.ready = true → st.getCounter k = base + UInt32.ofNat c ∧ c < n ∧ n ≤ c + 1000)

theorem base_add (base : UInt32) (n m : Nat) :
  base + UInt32.ofNat n + UInt32.ofNat m = base + UInt32.ofNat (n + m) := by
  rw [UInt32.add_assoc, UInt32.ofNat_add]

theorem base_inj {base : UInt32} {n m : Nat} (hn : n < 2 ^ 32) (hm : m < 2 ^ 32)
  (h : base + UInt32.ofNat n = base + UInt32.ofNat m) : n = m := by
  have hEq := congrArg UInt32.toNat (UInt32.add_right_inj base |>.mp h)
  rw [UInt32.toNat_ofNat_of_lt' hn, UInt32.toNat_ofNat_of_lt' hm] at hEq
  exact hEq

def stepAside (k : Bool) (op : GroupCounterOp) (st : GroupCounterDevice) : Nat :=
  if (op.step st).stored k = st.stored k then 0 else groupMsgCounterMinIncrement.toNat

variable {op : GroupCounterOp} {st : GroupCounterDevice} {used : List (Bool × UInt32)}

theorem stepAside_same {k : Bool} (h : (op.step st).stored k = st.stored k) :
  stepAside k op st = 0 := if_pos h

theorem stepAside_next {k : Bool} {p : UInt32} (hOld : st.stored k = some p)
  (h : (op.step st).stored k = some (p + groupMsgCounterMinIncrement)) :
  stepAside k op st = 1000 := by
  refine if_neg fun hEq => ?_
  rw [h, hOld, Option.some.injEq] at hEq
  have hZero : groupMsgCounterMinIncrement = 0 := by
    rw [← UInt32.add_right_inj p, hEq, UInt32.add_zero]
  exact absurd hZero (by decide)

theorem Ahead.boot {n : Nat} {k : Bool} (h : Ahead used n st k) (fates : InitFates) :
  Ahead used (n + stepAside k (.boot fates) st) ((GroupCounterOp.boot fates).step st) k := by
  obtain ⟨start, hStart, hCases⟩ := boot_cases fates st k
  rcases h with ⟨hNone, hReady, rfl, hUsed⟩ | ⟨base, c, hStored, hc, hUsed, -⟩
  · have hFirst : ((GroupCounterOp.boot fates).step st).stored k =
        some (start + groupMsgCounterMinIncrement) → stepAside k (.boot fates) st = 1000 := by
      intro hNext
      refine if_neg fun hEq => ?_
      rw [hNext, hNone] at hEq
      cases hEq
    rcases hCases with ⟨hReady', hSame | hNext⟩ | ⟨hCounter, hNext⟩
    · rw [stepAside_same hSame]
      exact .inl ⟨hSame.trans hNone, hReady', rfl, hUsed⟩
    · rw [hFirst hNext]
      refine .inr ⟨start, 0, hNext, Nat.zero_le _, fun v hv => absurd hv (hUsed v), ?_⟩
      intro hTrue
      rw [hReady'] at hTrue
      cases hTrue
    · rw [hFirst hNext]
      refine .inr ⟨start, 0, hNext, Nat.zero_le _, fun v hv => absurd hv (hUsed v), fun _ => ?_⟩
      exact ⟨by rw [hCounter]; exact (UInt32.add_zero start).symm, by omega, by omega⟩
  · obtain rfl := hStart _ hStored
    have hBase : base + UInt32.ofNat n + groupMsgCounterMinIncrement =
        base + UInt32.ofNat (n + 1000) := base_add base n 1000
    rcases hCases with ⟨hReady', hSame | hNext⟩ | ⟨hCounter, hNext⟩
    · rw [stepAside_same hSame]
      refine .inr ⟨base, c, hSame.trans hStored, hc, hUsed, ?_⟩
      intro hTrue
      rw [hReady'] at hTrue
      cases hTrue
    · rw [stepAside_next hStored hNext]
      refine .inr ⟨base, c, hNext.trans (congrArg some hBase), by omega, hUsed, ?_⟩
      intro hTrue
      rw [hReady'] at hTrue
      cases hTrue
    · rw [stepAside_next hStored hNext]
      refine .inr ⟨base, n, hNext.trans (congrArg some hBase), by omega, ?_, fun _ => ?_⟩
      · intro v hv
        obtain ⟨o, ho, hEq⟩ := hUsed v hv
        exact ⟨o, by omega, hEq⟩
      · exact ⟨hCounter, by omega, by omega⟩

section Send

variable {used : List (Bool × UInt32)} {n : Nat} {st : GroupCounterDevice} {k : Bool}
  {readFails : Bool} {fate : WriteFate}

theorem ready_setCounter (j : Bool) (v : UInt32) (st : GroupCounterDevice) :
  (setCounter j v st).ready = st.ready := by
  cases j <;> rfl

theorem ready_setStored (j : Bool) (v : UInt32) (st : GroupCounterDevice) :
  (setStored j v st).ready = st.ready := by
  cases j <;> rfl

theorem getCounter_setStored (i j : Bool) (v : UInt32) (st : GroupCounterDevice) :
  (setStored j v st).getCounter i = st.getCounter i := by
  cases j <;> rfl

theorem Ahead.send (h : Ahead used n st k) (hStorage : st.counters.mStorage = true)
  (hKeeps : st.Keeps (.send k readFails fate)) (hn : n ≤ 2 ^ 32) :
  Ahead (used ++ ((GroupCounterOp.send k readFails fate).uses st).toList)
      (n + stepAside k (.send k readFails fate) st)
      ((GroupCounterOp.send k readFails fate).step st) k ∧
    ∀ x, (GroupCounterOp.send k readFails fate).uses st = some x → x ∉ used := by
  have hReady := hKeeps.1
  rcases h with ⟨-, hNot, -⟩ | ⟨base, c, hStored, hc, hUsed, hRunning⟩
  · rw [hNot] at hReady
    cases hReady
  obtain ⟨hCounter, hBelow, hNear⟩ := hRunning hReady
  have hSucc : st.getCounter k + 1 = base + UInt32.ofNat (c + 1) := by
    rw [hCounter]
    exact base_add base c 1
  have hNew : (k, st.getCounter k) ∉ used := by
    intro hMem
    obtain ⟨o, ho, hEq⟩ := hUsed _ hMem
    rw [hCounter] at hEq
    have hSame := base_inj (by omega) (by omega) hEq
    omega
  have hMore : ∀ v, (k, v) ∈ used ++ [(k, st.getCounter k)] →
      ∃ o, o < c + 1 ∧ v = base + UInt32.ofNat o := by
    intro v hv
    rcases List.mem_append.mp hv with hOld | hLast
    · obtain ⟨o, ho, hEq⟩ := hUsed v hOld
      exact ⟨o, by omega, hEq⟩
    · cases List.mem_singleton.mp hLast
      exact ⟨c, by omega, hCounter⟩
  have hReached : base + UInt32.ofNat n = st.getCounter k + 1 → n = c + 1 := by
    intro hEq
    obtain ⟨d, rfl⟩ : ∃ d, n = c + 1 + d := ⟨n - (c + 1), by omega⟩
    rw [hSucc, ← base_add] at hEq
    have hZero : UInt32.ofNat d = UInt32.ofNat 0 := by
      rw [← UInt32.add_right_inj (base + UInt32.ofNat (c + 1)), hEq]
      exact (UInt32.add_zero _).symm
    have hd := congrArg UInt32.toNat hZero
    rw [UInt32.toNat_ofNat_of_lt' (by simp only [UInt32.size]; omega)] at hd
    obtain rfl : d = 0 := hd
    rfl
  rcases send_cases hStorage hStored hKeeps with ⟨hUses, hNe, hStep⟩ |
    ⟨hEq, ⟨hUses, hStep⟩ | ⟨hUses, hLost, hRecord⟩⟩
  · have hFar : c + 1 ≠ n := by
      rintro rfl
      exact hNe hSucc.symm
    have hSame : ((GroupCounterOp.send k readFails fate).step st).stored k = st.stored k := by
      rw [hStep, stored_setCounter]
    rw [hUses, stepAside_same hSame]
    refine ⟨.inr ⟨base, c + 1, hSame.trans hStored, by omega, hMore, fun _ => ?_⟩, ?_⟩
    · rw [hStep, getCounter_setCounter, if_pos rfl]
      exact ⟨hSucc, by omega, by omega⟩
    · rintro x ⟨⟩
      exact hNew
  · obtain rfl := hReached hEq
    have hNext : ((GroupCounterOp.send k readFails fate).step st).stored k =
        some (base + UInt32.ofNat (c + 1) + groupMsgCounterMinIncrement) := by
      rw [hStep, stored_setStored, if_pos rfl]
    rw [hUses, stepAside_next hStored hNext]
    refine ⟨.inr ⟨base, c + 1, hNext.trans (congrArg some (base_add base (c + 1) 1000)), by omega,
      hMore, fun _ => ?_⟩, ?_⟩
    · rw [hStep, getCounter_setStored, getCounter_setCounter, if_pos rfl]
      exact ⟨hSucc, by omega, by omega⟩
    · rintro x ⟨⟩
      exact hNew
  · rw [hUses]
    refine ⟨?_, fun x hx => by cases hx⟩
    rw [Option.toList_none, List.append_nil]
    rcases hRecord with hSame | hNext
    · rw [stepAside_same (hSame k)]
      refine .inr ⟨base, c, (hSame k).trans hStored, hc, hUsed, ?_⟩
      intro hTrue
      rw [hLost] at hTrue
      cases hTrue
    · have hNext' := (hNext k).trans (if_pos rfl)
      rw [stepAside_next hStored hNext']
      refine .inr ⟨base, c, hNext'.trans (congrArg some (base_add base n 1000)), by omega, hUsed, ?_⟩
      intro hTrue
      rw [hLost] at hTrue
      cases hTrue

theorem Ahead.send_other {j : Bool} {m : Nat} {p : UInt32} (h : Ahead used m st j) (hNe : j ≠ k)
  (hStorage : st.counters.mStorage = true) (hStored : st.stored k = some p)
  (hKeeps : st.Keeps (.send k readFails fate)) :
  Ahead (used ++ ((GroupCounterOp.send k readFails fate).uses st).toList)
    (m + stepAside j (.send k readFails fate) st)
    ((GroupCounterOp.send k readFails fate).step st) j := by
  have hFrame : ((GroupCounterOp.send k readFails fate).step st).stored j = st.stored j ∧
      (((GroupCounterOp.send k readFails fate).step st).ready = true →
        st.ready = true ∧
          ((GroupCounterOp.send k readFails fate).step st).getCounter j = st.getCounter j) := by
    rcases send_cases hStorage hStored hKeeps with ⟨-, -, hStep⟩ | ⟨-, ⟨-, hStep⟩ | ⟨-, hLost, hRecord⟩⟩
    · rw [hStep, stored_setCounter, ready_setCounter, getCounter_setCounter, if_neg hNe]
      exact ⟨rfl, fun hReady => ⟨hReady, rfl⟩⟩
    · rw [hStep, stored_setStored, if_neg hNe, stored_setCounter, ready_setStored, ready_setCounter,
        getCounter_setStored, getCounter_setCounter, if_neg hNe]
      exact ⟨rfl, fun hReady => ⟨hReady, rfl⟩⟩
    · refine ⟨?_, fun hReady => ?_⟩
      · rcases hRecord with hSame | hNext
        · exact hSame j
        · rw [hNext j, if_neg hNe]
      · rw [hLost] at hReady
        cases hReady
  have hMem : ∀ v, (j, v) ∈ used ++ ((GroupCounterOp.send k readFails fate).uses st).toList →
      (j, v) ∈ used := by
    intro v hv
    rcases List.mem_append.mp hv with hOld | hLast
    · exact hOld
    · exfalso
      rw [Option.mem_toList] at hLast
      rcases send_cases hStorage hStored hKeeps with ⟨hUses, -⟩ | ⟨-, ⟨hUses, -⟩ | ⟨hUses, -⟩⟩
      · rw [hUses] at hLast
        cases hLast
        exact hNe rfl
      · rw [hUses] at hLast
        cases hLast
        exact hNe rfl
      · rw [hUses] at hLast
        cases hLast
  rw [stepAside_same hFrame.1]
  rcases h with ⟨hNone, hReady, hZero, hUsed⟩ | ⟨base, c, hSome, hc, hUsed, hRunning⟩
  · refine .inl ⟨hFrame.1.trans hNone, ?_, hZero, fun v hv => hUsed v (hMem v hv)⟩
    cases hTrue : ((GroupCounterOp.send k readFails fate).step st).ready with
    | false => rfl
    | true =>
      have hOld := (hFrame.2 hTrue).1
      rw [hReady] at hOld
      cases hOld
  · refine .inr ⟨base, c, hFrame.1.trans hSome, hc, fun v hv => hUsed v (hMem v hv), ?_⟩
    intro hTrue
    obtain ⟨hOld, hCounter⟩ := hFrame.2 hTrue
    rw [hCounter]
    exact hRunning hOld

end Send

/-- Both counters are behind their records, and counters that are used have their storage. -/
structure CountersAhead (used : List (Bool × UInt32)) (n : Bool → Nat) (st : GroupCounterDevice) :
    Prop where
  ahead : ∀ k, Ahead used (n k) st k
  storage : st.ready = true → st.counters.mStorage = true

theorem boot_storage (fates : InitFates) (st : GroupCounterDevice)
  (h : ((boot fates).step st).ready = true) :
  ((boot fates).step st).counters.mStorage = true := by
  obtain ⟨controlReadFails, dataReadFails, controlWrite, dataWrite, controlRandom, dataRandom⟩ := fates
  rw [boot_step, init, modify_bind] at h ⊢
  cases controlReadFails with
  | true => cases h
  | false =>
    rw [bind_ok (loadCounter_ok _ _ _)] at h ⊢
    cases dataReadFails with
    | true => cases h
    | false =>
      rw [bind_ok (loadCounter_ok _ _ _)] at h ⊢
      cases controlWrite with
      | done => cases dataWrite <;> rfl
      | fails => cases h
      | lostBefore => cases h
      | lostAfter => cases h

theorem Ahead.stored_of_ready {n : Nat} {k : Bool} (h : Ahead used n st k) (hReady : st.ready = true) :
  ∃ p, st.stored k = some p := by
  rcases h with ⟨-, hNot, -⟩ | ⟨base, c, hStored, -⟩
  · rw [hNot] at hReady
    cases hReady
  · exact ⟨_, hStored⟩

theorem CountersAhead.step {n : Bool → Nat} (h : CountersAhead used n st) (hKeeps : st.Keeps op)
  (hn : ∀ k, n k ≤ 2 ^ 32) :
  CountersAhead (used ++ (op.uses st).toList) (fun k => n k + stepAside k op st) (op.step st) ∧
    ∀ x, op.uses st = some x → x ∉ used := by
  cases op with
  | boot fates =>
    refine ⟨⟨fun k => ?_, boot_storage fates st⟩, fun x hx => by cases hx⟩
    have hUses : (boot fates).uses st = none := rfl
    rw [hUses, Option.toList_none, append_nil]
    exact (h.ahead k).boot fates
  | send isControl readFails fate =>
    have hStorage := h.storage hKeeps.1
    obtain ⟨p, hStored⟩ := (h.ahead isControl).stored_of_ready hKeeps.1
    obtain ⟨hSelf, hFresh⟩ := (h.ahead isControl).send hStorage hKeeps (hn isControl)
    refine ⟨⟨fun k => ?_, fun hReady => ?_⟩, hFresh⟩
    · by_cases hEq : k = isControl
      · subst hEq
        exact hSelf
      · exact (h.ahead k).send_other hEq hStorage hStored hKeeps
    · rcases send_cases hStorage hStored hKeeps with ⟨-, -, hStep⟩ |
        ⟨-, ⟨-, hStep⟩ | ⟨-, hLost, -⟩⟩
      · rw [hStep]
        cases isControl <;> exact hStorage
      · rw [hStep]
        cases isControl <;> exact hStorage
      · rw [hLost] at hReady
        cases hReady

theorem CountersAhead.run {n : Bool → Nat} (h : CountersAhead used n st) (hNodup : used.Nodup)
  {ops : List GroupCounterOp} (hOrderly : st.Orderly ops) (hn : ∀ k, n k + setAside k ops st ≤ 2 ^ 32) :
  (used ++ usedCounters ops st).Nodup := by
  induction ops generalizing used n st with
  | nil =>
    rw [usedCounters, append_nil]
    exact hNodup
  | cons op ops ih =>
    obtain ⟨hKeeps, hRest⟩ := hOrderly
    have hBound : ∀ k, n k ≤ 2 ^ 32 := fun k => Nat.le_trans (Nat.le_add_right _ _) (hn k)
    obtain ⟨hStep, hFresh⟩ := h.step hKeeps hBound
    have hNodup' : (used ++ (op.uses st).toList).Nodup := by
      cases hUses : op.uses st with
      | none =>
        rw [Option.toList_none, append_nil]
        exact hNodup
      | some x =>
        refine List.Nodup.append hNodup (nodup_singleton x) ?_
        exact disjoint_singleton.mpr (hFresh x hUses)
    rw [usedCounters, ← append_assoc]
    refine ih hStep hNodup' hRest fun k => ?_
    have hk := hn k
    rw [setAside] at hk
    change n k + stepAside k op st + setAside k ops (op.step st) ≤ 2 ^ 32
    change n k + (stepAside k op st + setAside k ops (op.step st)) ≤ 2 ^ 32 at hk
    omega

/-- No counter is used for two messages of an orderly run, as long as the values that its
records set aside go at most once around. -/
theorem groupCounters_never_reused (ops : List GroupCounterOp)
    (hOrderly : GroupCounterDevice.new.Orderly ops)
    (hConsumed : ∀ isControl, setAside isControl ops GroupCounterDevice.new ≤ 2 ^ 32) :
    (usedCounters ops GroupCounterDevice.new).Nodup := by
  have hNew : CountersAhead [] (fun _ => 0) GroupCounterDevice.new := by
    refine ⟨fun k => .inl ⟨?_, rfl, rfl, fun v hv => by cases hv⟩, fun hReady => by cases hReady⟩
    cases k <;> rfl
  refine hNew.run List.nodup_nil hOrderly fun k => ?_
  rw [Nat.zero_add]
  exact hConsumed k

/-- The storage accesses of an `Init` that all succeed. -/
def GroupCounterDevice.InitFates.smooth : InitFates := ⟨false, false, .done, .done, 0, 0⟩

/-- Three messages around a reboot, one with a read that fails and does no harm. -/
theorem groupCounters_never_reused_over_reboot :
    (usedCounters [.boot .smooth, .send false false .done, .send false true .done, .boot .smooth,
      .send false false .done] GroupCounterDevice.new).Nodup :=
  groupCounters_never_reused
    [.boot .smooth, .send false false .done, .send false true .done, .boot .smooth,
      .send false false .done] (by decide +kernel) (by decide +kernel)

/-- The counter reaches its record at the thousandth message, where the write fails. The
next message, and the first one after a reboot, have the same counter. -/
theorem failed_write_reuses_counter :
    (usedCounters ([.boot .smooth] ++ List.replicate 999 (.send false false .done) ++
      [.send false false .fails, .send false false .done, .boot .smooth, .send false false .done])
      GroupCounterDevice.new).drop 1000 = [(false, 1001), (false, 1001)] ∧
    ∀ isControl, setAside isControl ([.boot .smooth] ++
      List.replicate 999 (.send false false .done) ++
      [.send false false .fails, .send false false .done, .boot .smooth, .send false false .done])
      GroupCounterDevice.new = 2000 := by
  decide +kernel

end Chip.Transport
