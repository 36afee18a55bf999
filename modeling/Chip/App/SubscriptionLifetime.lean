import Chip.App.SubscriptionStorage

/-! How long a stored subscription lives. Records at or above the limit are found by no call but
`Init`, and `Init` finds them only through the record of the earlier limit. -/
namespace Chip.App

open List SubscriptionRecords TLV

section Calls

variable {build : SubscriptionBuild} {memory : ScanMemory} {st st' : SubscriptionRecords}

@[simp] theorem SubscriptionRecords.record_delete (index i : Nat) :
  (st.delete index).record i = if i = index then none else st.record i := by
  simp [delete, set, Function.update_apply]

variable {i : Nat}

theorem loadSubscription_congr (loadMemory : LoadMemory) (h : st.record i = st'.record i) :
  loadSubscription build loadMemory st i = loadSubscription build loadMemory st' i := by
  rw [loadSubscription, loadSubscription, h]

theorem loadSubscription_none (loadMemory : LoadMemory) (h : st.record i = none) (info : SubscriptionInfo) :
  loadSubscription build loadMemory st i ≠ .ok info := by
  rw [loadSubscription, h]
  split_ifs <;> simp

structure Shrunk (st st' : SubscriptionRecords) : Prop where
  record : ∀ i, st'.record i = st.record i ∨ st'.record i = none
  maxCount : st'.maxCount = st.maxCount

theorem Shrunk.refl (st : SubscriptionRecords) : Shrunk st st := ⟨fun _ => .inl rfl, rfl⟩

theorem Shrunk.trans {st₁ st₂ st₃ : SubscriptionRecords} (h : Shrunk st₁ st₂) (h' : Shrunk st₂ st₃) :
  Shrunk st₁ st₃ := by
  refine ⟨fun i => ?_, h'.maxCount.trans h.maxCount⟩
  rcases h'.record i with hSame | hNone
  · rw [hSame]
    exact h.record i
  · exact .inr hNone

theorem shrunk_delete (st : SubscriptionRecords) (index : Nat) : Shrunk st (st.delete index) := by
  refine ⟨fun i => ?_, rfl⟩
  rw [record_delete]
  split_ifs
  · exact .inr rfl
  · exact .inl rfl

variable (build memory) in
theorem saveScan_spec (info : SubscriptionInfo) (indices : List Nat) (firstEmpty : Option Nat)
  (st : SubscriptionRecords) :
  Shrunk st (saveScan build memory info indices firstEmpty st).2 ∧
    ∀ i, (saveScan build memory info indices firstEmpty st).1 = some i →
      firstEmpty = some i ∨ i ∈ indices := by
  induction indices generalizing firstEmpty st with
  | nil => exact ⟨Shrunk.refl st, fun i h => .inl h⟩
  | cons index rest ih =>
    have hOr : ∀ i, (firstEmpty <|> some index) = some i ∨ i ∈ rest →
        firstEmpty = some i ∨ i ∈ index :: rest := by
      intro i hi
      cases firstEmpty with
      | none => simpa [eq_comm] using hi
      | some j => exact hi.imp id (mem_cons_of_mem index)
    have hKeep : ∀ i, firstEmpty = some i ∨ i ∈ rest →
        firstEmpty = some i ∨ i ∈ index :: rest :=
      fun i hi => hi.imp id (mem_cons_of_mem index)
    rw [saveScan]
    split
    · split_ifs
      · obtain ⟨hShrunk, hIndex⟩ := ih (firstEmpty <|> some index) st
        exact ⟨hShrunk, fun i h => hOr i (hIndex i h)⟩
      · obtain ⟨hShrunk, hIndex⟩ := ih firstEmpty st
        exact ⟨hShrunk, fun i h => hKeep i (hIndex i h)⟩
    · split_ifs
      · obtain ⟨hShrunk, hIndex⟩ := ih (firstEmpty <|> some index) (st.delete index)
        exact ⟨(shrunk_delete st index).trans hShrunk, fun i h => hOr i (hIndex i h)⟩
      · obtain ⟨hShrunk, hIndex⟩ := ih firstEmpty st
        exact ⟨hShrunk, fun i h => hKeep i (hIndex i h)⟩

variable (build memory) in
theorem saveSubscription_spec (writeBuffer : Bool) (info : SubscriptionInfo)
  (st : SubscriptionRecords) :
  ∃ scanned, Shrunk st scanned ∧
    ((saveSubscription build memory writeBuffer info st).2 = scanned ∨
      ∃ index < build.limit, (subscriptionBytes info).length < 2 ^ 16 ∧
        (saveSubscription build memory writeBuffer info st).2 =
          scanned.set index (some (subscriptionBytes info))) := by
  obtain ⟨hShrunk, hIndex⟩ := saveScan_spec build memory info
    (range build.limit) none st
  refine ⟨_, hShrunk, ?_⟩
  rw [saveSubscription]
  split
  · rename_i scanned hScan
    exact .inl (by rw [hScan])
  · rename_i index scanned hScan
    rw [hScan] at hIndex ⊢
    split_ifs
    · exact .inl rfl
    · split
      · exact .inl rfl
      · rename_i bytes hEncode
        obtain ⟨rfl, -, -⟩ := encodeInto_ok hEncode
        split_ifs with hLength
        · refine .inr ⟨index, ?_, hLength, rfl⟩
          rcases hIndex index rfl with hNone | hMem
          · cases hNone
          · exact mem_range.mp hMem
        · exact .inl rfl

/-- A record that the loop of the deletions can load and that matches. -/
def Deletable (build : SubscriptionBuild) (memory : ScanMemory)
  (matching : SubscriptionInfo → Bool) (st : SubscriptionRecords) (i : Nat) : Prop :=
  ∃ info, loadSubscription build (memory i) st i = .ok info ∧ matching info = true

theorem Deletable.congr {matching : SubscriptionInfo → Bool} (h : st.record i = st'.record i) :
  Deletable build memory matching st i ↔ Deletable build memory matching st' i := by
  rw [Deletable, Deletable, loadSubscription_congr (memory i) h]

variable (build memory) in
theorem deleteScan_shrunk (matching : SubscriptionInfo → Bool) (indices : List Nat)
  (counts : Nat × Nat) (st : SubscriptionRecords) :
  Shrunk st (deleteScan build memory matching indices counts st).2 := by
  induction indices generalizing counts st with
  | nil => exact Shrunk.refl st
  | cons index rest ih =>
    rw [deleteScan]
    split
    · exact ih _ st
    · split_ifs
      · exact (shrunk_delete st index).trans (ih _ _)
      · exact ih _ st

theorem deleteScan_deletes (matching : SubscriptionInfo → Bool) (indices : List Nat) (counts : Nat × Nat)
  (st : SubscriptionRecords) (hMem : i ∈ indices) (h : Deletable build memory matching st i) :
  (deleteScan build memory matching indices counts st).2.record i = none := by
  induction indices generalizing counts st with
  | nil => cases hMem
  | cons index rest ih =>
    by_cases hIndex : i = index
    · subst hIndex
      obtain ⟨info, hLoad, hMatch⟩ := h
      rw [deleteScan, hLoad]
      simp only [hMatch, if_true]
      rcases (deleteScan_shrunk build memory matching rest (counts.1 + 1, counts.2) (st.delete i)).record i with
        hSame | hNone
      · rw [hSame]
        simp
      · exact hNone
    · have hRest := (mem_cons.mp hMem).resolve_left hIndex
      rw [deleteScan]
      split
      · exact ih _ st hRest h
      · split_ifs
        · exact ih _ _ hRest ((Deletable.congr (by simp [hIndex])).mp h)
        · exact ih _ st hRest h

theorem deleteScan_keeps (matching : SubscriptionInfo → Bool) (indices : List Nat) (counts : Nat × Nat)
  (st : SubscriptionRecords) (h : ¬ Deletable build memory matching st i) :
  (deleteScan build memory matching indices counts st).2.record i = st.record i := by
  induction indices generalizing counts st with
  | nil => rfl
  | cons index rest ih =>
    rw [deleteScan]
    split
    · exact ih _ st h
    · rename_i info hLoad
      split_ifs with hMatch
      · have hIndex : i ≠ index := by
          rintro rfl
          exact h ⟨info, hLoad, hMatch⟩
        have hSame : (st.delete index).record i = st.record i := by simp [hIndex]
        rw [ih _ _ (fun hDel => h ((Deletable.congr hSame).mp hDel)), hSame]
      · exact ih _ st h

theorem nextScan_shrunk (indices : List Nat) (st : SubscriptionRecords) :
  Shrunk st (nextScan build memory indices st).2 := by
  induction indices generalizing st with
  | nil => exact Shrunk.refl st
  | cons index rest ih =>
    rw [nextScan]
    split
    · exact Shrunk.refl st
    · split_ifs
      · exact ih st
      · exact (shrunk_delete st index).trans (ih _)

@[simp] theorem finishDelete_record (result : (Nat × Nat) × SubscriptionRecords) :
  (finishDelete result).record = result.2.record := by
  rw [finishDelete]
  split_ifs <;> rfl

theorem finishDelete_maxCount (result : (Nat × Nat) × SubscriptionRecords) :
  (finishDelete result).maxCount = result.2.maxCount ∨ (finishDelete result).maxCount = none := by
  rw [finishDelete]
  split_ifs
  · exact .inr rfl
  · exact .inl rfl

theorem foldl_delete_record (indices : List Nat) (st : SubscriptionRecords) (i : Nat) :
  (indices.foldl delete st).record i =
    if i ∈ indices then none else st.record i := by
  induction indices generalizing st with
  | nil => rfl
  | cons index rest ih =>
    rw [foldl_cons, ih, record_delete]
    by_cases hRest : i ∈ rest
    · simp [hRest]
    · simp [hRest]

theorem deleteRange_record (first last : Nat) (st : SubscriptionRecords) (i : Nat) :
  (deleteRange first last st).record i =
    if first ≤ i ∧ i < last then none else st.record i := by
  have hMem : i ∈ (range (last - first)).map (first + ·) ↔ first ≤ i ∧ i < last := by
    simp only [mem_map, mem_range]
    constructor
    · rintro ⟨j, hj, rfl⟩
      omega
    · intro h
      exact ⟨i - first, by omega, by omega⟩
  rw [deleteRange, foldl_delete_record]
  simp only [hMem]

end Calls

def RecordOf (fabric : UInt8) (bytes : Bytes) : Prop :=
  ∃ info : SubscriptionInfo, info.mFabricIndex = fabric ∧ bytes = subscriptionBytes info

def NoneBeyond (limit : Nat) (st : SubscriptionRecords) : Prop :=
  ∀ i, limit ≤ i → st.record i = none

def NoneOf (fabric : UInt8) (st : SubscriptionRecords) : Prop :=
  ∀ i bytes, st.record i = some bytes → ¬ RecordOf fabric bytes

/-- The condition on a step, in the state before it. `Init` has to find the record of the earlier
limit, unless nothing is stored at or above its own. `DeleteAll` has to be able to load the
records of the fabric below the limit: they fit its buffer and memory is granted. -/
def Meets (s : SubscriptionState) : SubscriptionCall → Prop
  | .init build => s.records.maxCount.isSome = true ∨ NoneBeyond build.limit s.records
  | .deleteAll memory fabricIndex =>
    ∀ i < s.build.limit, ∀ bytes, s.records.record i = some bytes → RecordOf fabricIndex bytes →
      ∃ info, loadSubscription s.build (memory i) s.records i = .ok info
  | _ => True

/-- What is kept from step to step: only indices below the limit are in use, and the stored limit
is the one of the build. -/
structure SubscriptionInv (s : SubscriptionState) : Prop where
  beyond : NoneBeyond s.build.limit s.records
  maxCount : ∀ m, s.records.maxCount = some m → m = s.build.maxNumSubscriptions
  written : ∀ i bytes, s.records.record i = some bytes →
    ∃ info, bytes = subscriptionBytes info ∧ bytes.length < 2 ^ 16

theorem subscriptionBytes_injective {info info' : SubscriptionInfo}
  (hLength : (subscriptionBytes info).length < 2 ^ 32)
  (h : subscriptionBytes info = subscriptionBytes info') : info = info' := by
  have hLoad := decodeSubscription_bytes .all info hLength
  have hLoad' := decodeSubscription_bytes .all info' (h ▸ hLength)
  rw [if_pos ⟨fun _ => rfl, fun _ => rfl⟩] at hLoad hLoad'
  rw [h, hLoad'] at hLoad
  exact (Except.ok.inj hLoad).symm

theorem loadSubscription_written {build : SubscriptionBuild} {loadMemory : LoadMemory}
  {st : SubscriptionRecords} {i : Nat} {info loaded : SubscriptionInfo}
  (hRecord : st.record i = some (subscriptionBytes info))
  (hLength : (subscriptionBytes info).length < 2 ^ 32)
  (hLoad : loadSubscription build loadMemory st i = .ok loaded) : loaded = info := by
  rw [loadSubscription, hRecord] at hLoad
  split_ifs at hLoad
  simp only at hLoad
  split_ifs at hLoad
  rw [decodeSubscription_bytes loadMemory info hLength] at hLoad
  split_ifs at hLoad
  exact (Except.ok.inj hLoad).symm

section Steps

variable {s : SubscriptionState}
variable {st st' : SubscriptionRecords}

theorem Shrunk.noneBeyond {limit : Nat} (h : Shrunk st st') (hBeyond : NoneBeyond limit st) :
  NoneBeyond limit st' := by
  intro i hi
  rcases h.record i with hSame | hNone
  · rw [hSame]
    exact hBeyond i hi
  · exact hNone

theorem Shrunk.noneOf {fabric : UInt8} (h : Shrunk st st') (hNone : NoneOf fabric st) :
  NoneOf fabric st' := by
  intro i bytes hRecord
  rcases h.record i with hSame | hEmpty
  · exact hNone i bytes (hSame ▸ hRecord)
  · rw [hEmpty] at hRecord
    cases hRecord

theorem noneOf_of_record {fabric : UInt8} (h : st'.record = st.record) (hNone : NoneOf fabric st) :
  NoneOf fabric st' := by
  intro i bytes hRecord
  exact hNone i bytes (h ▸ hRecord)

section

variable (hInv : SubscriptionInv s)
include hInv

theorem SubscriptionInv.of_shrunk {records : SubscriptionRecords} {st : SubscriptionRecords}
  (hShrunk : Shrunk s.records st) (hRecord : records.record = st.record)
  (hMax : records.maxCount = st.maxCount ∨ records.maxCount = none) :
  SubscriptionInv { s with records := records } := by
  refine ⟨?_, ?_, ?_⟩
  · intro i hi
    rw [hRecord]
    exact hShrunk.noneBeyond hInv.beyond i hi
  · intro m hm
    change records.maxCount = some m at hm
    rcases hMax with hSame | hNone
    · exact hInv.maxCount m (by rw [← hShrunk.maxCount, ← hSame, hm])
    · rw [hNone] at hm
      cases hm
  · intro i bytes hBytes
    change records.record i = some bytes at hBytes
    rw [hRecord] at hBytes
    rcases hShrunk.record i with hSame | hNone
    · exact hInv.written i bytes (hSame ▸ hBytes)
    · rw [hNone] at hBytes
      cases hBytes

theorem SubscriptionInv.save (memory : ScanMemory) (writeBuffer : Bool) (info : SubscriptionInfo) :
  SubscriptionInv (s.step (.save memory writeBuffer info)) := by
  obtain ⟨scanned, hShrunk, hSame | ⟨index, hIndex, hLength, hSet⟩⟩ :=
    saveSubscription_spec s.build memory writeBuffer info s.records
  · exact hInv.of_shrunk hShrunk (congrArg _ hSame) (.inl (congrArg _ hSame))
  · have hScanned := hInv.of_shrunk hShrunk rfl (.inl rfl)
    have hRecords : (s.step (.save memory writeBuffer info)).records =
        scanned.set index (some (subscriptionBytes info)) := hSet
    refine ⟨?_, ?_, ?_⟩
    · intro i hi
      have hNe : i ≠ index := by
        rintro rfl
        exact absurd hIndex (Nat.not_lt.mpr hi)
      rw [hRecords]
      simp only [SubscriptionRecords.set, Function.update_of_ne hNe]
      exact hScanned.beyond i hi
    · intro m hm
      rw [hRecords] at hm
      exact hScanned.maxCount m hm
    · intro i bytes hBytes
      rw [hRecords] at hBytes
      by_cases hi : i = index
      · subst hi
        simp only [SubscriptionRecords.set, Function.update_self] at hBytes
        cases hBytes
        exact ⟨info, rfl, hLength⟩
      · simp only [SubscriptionRecords.set, Function.update_of_ne hi] at hBytes
        exact hScanned.written i bytes hBytes

theorem initSubscriptions_record (build : SubscriptionBuild) (i : Nat) :
  (initSubscriptions build s.records).record i =
    if s.records.maxCount.isSome = true ∧ build.limit ≤ i then none
    else s.records.record i := by
  unfold initSubscriptions
  cases hMax : s.records.maxCount with
  | none => simp
  | some countMax =>
    have hCount : countMax.toNat = s.build.limit := by
      rw [hInv.maxCount countMax hMax]
      rfl
    simp only [Option.isSome_some, true_and]
    split_ifs with hNe hi hi
    · rw [deleteRange_record]
      split_ifs with hRange
      · rfl
      · exact hInv.beyond i (by omega)
    · rw [deleteRange_record, if_neg fun hRange => hi hRange.1]
    · have hSame : build.limit = s.build.limit := by
        simp only [ne_eq, not_not] at hNe
        rw [← hCount, hNe]
        rfl
      exact hInv.beyond i (hSame ▸ hi)
    · rfl

theorem init_noneBeyond (build : SubscriptionBuild) :
  NoneBeyond build.limit (s.step (.init build)).records ↔ Meets s (.init build) := by
  have hRecord := initSubscriptions_record hInv build
  constructor
  · intro h
    by_cases hMax : s.records.maxCount.isSome = true
    · exact .inl hMax
    · refine .inr fun i hi => ?_
      have hNone : (initSubscriptions build s.records).record i = none := h i hi
      rwa [hRecord, if_neg fun hBoth => hMax hBoth.1] at hNone
  · rintro (hMax | hNone) i hi
    · exact (hRecord i).trans (if_pos ⟨hMax, hi⟩)
    · refine (hRecord i).trans ?_
      rw [hNone i hi, ite_self]

theorem SubscriptionInv.init {build : SubscriptionBuild} (hMeets : Meets s (.init build)) :
  SubscriptionInv (s.step (.init build)) := by
  refine ⟨(init_noneBeyond hInv build).mpr hMeets, ?_, ?_⟩
  · intro m hm
    exact (Option.some.inj hm).symm
  · intro i bytes hBytes
    have hRecord := initSubscriptions_record hInv build i
    change (initSubscriptions build s.records).record i = some bytes at hBytes
    rw [hRecord] at hBytes
    split_ifs at hBytes
    exact hInv.written i bytes hBytes

theorem SubscriptionInv.step {call : SubscriptionCall} (hMeets : Meets s call) :
  SubscriptionInv (s.step call) := by
  cases call with
  | init build => exact hInv.init hMeets
  | save memory writeBuffer info => exact hInv.save memory writeBuffer info
  | delete memory nodeId fabricIndex subscriptionId =>
    exact hInv.of_shrunk (deleteScan_shrunk _ _ _ _ _ _) (finishDelete_record _)
      (finishDelete_maxCount _)
  | deleteAll memory fabricIndex =>
    exact hInv.of_shrunk (deleteScan_shrunk _ _ _ _ _ _) (finishDelete_record _)
      (finishDelete_maxCount _)
  | next memory nextIndex => exact hInv.of_shrunk (nextScan_shrunk _ _) rfl (.inl rfl)
  | count => exact hInv

theorem deleteAll_noneOf (memory : ScanMemory) (fabric : UInt8) :
  NoneOf fabric (s.step (.deleteAll memory fabric)).records ↔
    Meets s (.deleteAll memory fabric) := by
  let matching : SubscriptionInfo → Bool := fun info => fabric = info.mFabricIndex
  have hStep : (s.step (.deleteAll memory fabric)).records.record =
      (deleteScan s.build memory matching (range s.build.limit) (0, 0) s.records).2.record :=
    finishDelete_record _
  -- a loaded record of the fabric matches, for it is the subscription that was saved
  have hDeletable : ∀ i bytes, s.records.record i = some bytes → RecordOf fabric bytes →
      ((∃ info, loadSubscription s.build (memory i) s.records i = .ok info) ↔
        Deletable s.build memory matching s.records i) := by
    intro i bytes hRecord hOf
    obtain ⟨info, hFabric, rfl⟩ := hOf
    obtain ⟨-, -, hLength⟩ := hInv.written i _ hRecord
    constructor
    · rintro ⟨loaded, hLoad⟩
      have hSame := loadSubscription_written hRecord (by omega) hLoad
      exact ⟨loaded, hLoad, by simp [matching, hSame, hFabric]⟩
    · rintro ⟨loaded, hLoad, -⟩
      exact ⟨loaded, hLoad⟩
  constructor
  · intro hNone i hi bytes hRecord hOf
    by_contra hUnloaded
    have hNot : ¬ Deletable s.build memory matching s.records i :=
      fun h => hUnloaded ((hDeletable i bytes hRecord hOf).mpr h)
    refine hNone i bytes ?_ hOf
    rw [hStep, deleteScan_keeps matching _ _ _ hNot, hRecord]
  · intro hMeets i bytes hAfter hOf
    rw [hStep] at hAfter
    rcases (deleteScan_shrunk s.build memory matching
      (range s.build.limit) (0, 0) s.records).record i with hSame | hEmpty
    · rw [hSame] at hAfter
      by_cases hi : i < s.build.limit
      · have hDel := (hDeletable i bytes hAfter hOf).mp (hMeets i hi bytes hAfter hOf)
        have hGone := deleteScan_deletes matching (range s.build.limit) (0, 0) s.records
          (mem_range.mpr hi) hDel
        rw [hSame, hAfter] at hGone
        cases hGone
      · rw [hInv.beyond i (Nat.not_lt.mp hi)] at hAfter
        cases hAfter
    · rw [hEmpty] at hAfter
      cases hAfter

theorem step_noneOf {fabric : UInt8} (hNone : NoneOf fabric s.records) (call : SubscriptionCall)
  (hSave : ∀ memory writeBuffer info, call = .save memory writeBuffer info →
    info.mFabricIndex ≠ fabric) : NoneOf fabric (s.step call).records := by
  cases call with
  | init build =>
    intro i bytes hBytes
    change (initSubscriptions build s.records).record i = some bytes at hBytes
    rw [initSubscriptions_record hInv build i] at hBytes
    split_ifs at hBytes
    exact hNone i bytes hBytes
  | save memory writeBuffer info =>
    obtain ⟨scanned, hShrunk, hSame | ⟨index, -, hLength, hSet⟩⟩ :=
      saveSubscription_spec s.build memory writeBuffer info s.records
    · have hRecords : (s.step (.save memory writeBuffer info)).records = scanned := hSame
      rw [hRecords]
      exact hShrunk.noneOf hNone
    · have hRecords : (s.step (.save memory writeBuffer info)).records =
          scanned.set index (some (subscriptionBytes info)) := hSet
      rw [hRecords]
      intro i bytes hBytes
      by_cases hi : i = index
      · subst hi
        simp only [SubscriptionRecords.set, Function.update_self] at hBytes
        cases hBytes
        rintro ⟨other, hFabric, hOther⟩
        rw [← subscriptionBytes_injective (by omega) hOther] at hFabric
        exact hSave memory writeBuffer info rfl hFabric
      · simp only [SubscriptionRecords.set, Function.update_of_ne hi] at hBytes
        exact hShrunk.noneOf hNone i bytes hBytes
  | delete memory nodeId fabricIndex subscriptionId =>
    exact noneOf_of_record (finishDelete_record _)
      ((deleteScan_shrunk _ _ _ _ _ _).noneOf hNone)
  | deleteAll memory fabricIndex =>
    exact noneOf_of_record (finishDelete_record _)
      ((deleteScan_shrunk _ _ _ _ _ _).noneOf hNone)
  | next memory nextIndex => exact (nextScan_shrunk _ _).noneOf hNone
  | count => exact hNone

end

end Steps

theorem start_inv (build : SubscriptionBuild) : SubscriptionInv (.start build) := by
  refine ⟨fun i _ => rfl, ?_, ?_⟩
  · intro m hm
    exact (Option.some.inj hm).symm
  · intro i bytes hBytes
    cases hBytes

def stateAt (build : SubscriptionBuild) (calls : List SubscriptionCall) (n : Nat) :
  SubscriptionState :=
  (SubscriptionState.start build).run (calls.take n)

theorem stateAt_succ {build : SubscriptionBuild} {calls : List SubscriptionCall} {n : Nat}
  {call : SubscriptionCall} (h : calls[n]? = some call) :
  stateAt build calls (n + 1) = (stateAt build calls n).step call := by
  rw [stateAt, stateAt, SubscriptionState.run, take_add_one, h, foldl_append]
  rfl

/-- A run in which no stored subscription outlives its fabric. -/
structure NoneOutlives (build : SubscriptionBuild) (calls : List SubscriptionCall) : Prop where
  /-- After each `Init` nothing is stored at or above the limit. -/
  beyond : ∀ (n : Nat) (newBuild : SubscriptionBuild), calls[n]? = some (.init newBuild) →
    NoneBeyond newBuild.limit (stateAt build calls (n + 1)).records
  /-- After a `DeleteAll`, and until the next `Save` for the fabric, nothing of it is stored, and
  no `Load` shows a subscription of it. -/
  gone : ∀ (n : Nat) (memory : ScanMemory) (fabric : UInt8),
    calls[n]? = some (.deleteAll memory fabric) → ∀ m > n,
      (∀ k memory writeBuffer info, n < k → k < m →
        calls[k]? = some (.save memory writeBuffer info) → info.mFabricIndex ≠ fabric) →
      NoneOf fabric (stateAt build calls m).records ∧
        ∀ loadMemory i info, loadSubscription (stateAt build calls m).build loadMemory
          (stateAt build calls m).records i = .ok info → info.mFabricIndex ≠ fabric

section Runs

variable {build : SubscriptionBuild} {calls : List SubscriptionCall}

theorem stateAt_eq_of_end {n : Nat} (h : calls[n]? = none) :
  stateAt build calls (n + 1) = stateAt build calls n := by
  rw [stateAt, stateAt, take_add_one, h]
  simp

theorem stateAt_inv
  (h : ∀ (n : Nat) (call : SubscriptionCall), SubscriptionInv (stateAt build calls n) →
    calls[n]? = some call → Meets (stateAt build calls n) call) (n : Nat) :
  SubscriptionInv (stateAt build calls n) := by
  induction n with
  | zero => exact start_inv build
  | succ n ih =>
    cases hCall : calls[n]? with
    | none =>
      rw [stateAt_eq_of_end hCall]
      exact ih
    | some call =>
      rw [stateAt_succ hCall]
      exact ih.step (h n call ih hCall)

theorem NoneOutlives.meets (h : NoneOutlives build calls) {n : Nat} {call : SubscriptionCall}
  (hInv : SubscriptionInv (stateAt build calls n)) (hCall : calls[n]? = some call) :
  Meets (stateAt build calls n) call := by
  cases call with
  | init newBuild =>
    have hBeyond := h.beyond n newBuild hCall
    rw [stateAt_succ hCall] at hBeyond
    exact (init_noneBeyond hInv newBuild).mp hBeyond
  | deleteAll memory fabric =>
    have hGone := (h.gone n memory fabric hCall (n + 1) (Nat.lt_succ_self n) (by omega)).1
    rw [stateAt_succ hCall] at hGone
    exact (deleteAll_noneOf hInv memory fabric).mp hGone
  | save memory writeBuffer info => trivial
  | delete memory nodeId fabricIndex subscriptionId => trivial
  | next memory nextIndex => trivial
  | count => trivial

theorem noneOf_later (hInv : ∀ n, SubscriptionInv (stateAt build calls n)) {n : Nat}
  {fabric : UInt8} (hNone : NoneOf fabric (stateAt build calls (n + 1)).records) (more : Nat)
  (hSave : ∀ k memory writeBuffer info, n < k → k < n + 1 + more →
    calls[k]? = some (.save memory writeBuffer info) → info.mFabricIndex ≠ fabric) :
  NoneOf fabric (stateAt build calls (n + 1 + more)).records := by
  induction more with
  | zero => exact hNone
  | succ more ih =>
    have hBefore := ih fun k memory writeBuffer info hLow hHigh =>
      hSave k memory writeBuffer info hLow (by omega)
    rw [← Nat.add_assoc]
    cases hCall : calls[n + 1 + more]? with
    | none =>
      rw [stateAt_eq_of_end hCall]
      exact hBefore
    | some call =>
      rw [stateAt_succ hCall]
      refine step_noneOf (hInv _) hBefore call ?_
      rintro memory writeBuffer info rfl
      exact hSave _ memory writeBuffer info (by omega) (by omega) hCall

theorem load_of_noneOf {s : SubscriptionState} (hInv : SubscriptionInv s) {fabric : UInt8}
  (hNone : NoneOf fabric s.records) {loadMemory : LoadMemory} {i : Nat} {info : SubscriptionInfo}
  (hLoad : loadSubscription s.build loadMemory s.records i = .ok info) :
  info.mFabricIndex ≠ fabric := by
  intro hFabric
  cases hRecord : s.records.record i with
  | none => exact loadSubscription_none loadMemory hRecord info hLoad
  | some bytes =>
    obtain ⟨written, rfl, hLength⟩ := hInv.written i bytes hRecord
    have hSame := loadSubscription_written hRecord (by omega) hLoad
    exact hNone i _ hRecord ⟨info, hFabric, by rw [hSame]⟩

end Runs

/-- In every run of restarts with any limits and of calls in between, no stored subscription
outlives its fabric exactly if each `Init` finds the earlier limit or nothing at or above its own,
and each `DeleteAll` can load the records of its fabric. -/
theorem subscriptions_never_outlive_fabric (build : SubscriptionBuild)
    (calls : List SubscriptionCall) :
    NoneOutlives build calls ↔
      ∀ (n : Nat) (call : SubscriptionCall), calls[n]? = some call →
        Meets (stateAt build calls n) call := by
  constructor
  · intro h n call hCall
    exact h.meets (stateAt_inv (fun n call hInv hCall => h.meets hInv hCall) n) hCall
  · intro h
    have hInv := stateAt_inv fun n call _ hCall => h n call hCall
    refine ⟨?_, ?_⟩
    · intro n newBuild hCall
      rw [stateAt_succ hCall]
      exact (init_noneBeyond (hInv n) newBuild).mpr (h n _ hCall)
    · intro n memory fabric hCall m hm hSave
      obtain ⟨more, rfl⟩ : ∃ more, m = n + 1 + more := ⟨m - (n + 1), by omega⟩
      have hFirst : NoneOf fabric (stateAt build calls (n + 1)).records := by
        rw [stateAt_succ hCall]
        exact (deleteAll_noneOf (hInv n) memory fabric).mpr (h n _ hCall)
      have hNone := noneOf_later hInv hFirst more hSave
      exact ⟨hNone, fun loadMemory i info => load_of_noneOf (hInv _) hNone⟩

def bareSubscription (fabric : UInt8) (id : UInt32) : SubscriptionInfo where
  mNodeId := 1
  mFabricIndex := fabric
  mSubscriptionId := id
  mMinInterval := 0
  mMaxInterval := 60
  mFabricFiltered := false
  mAttributePaths := []
  mEventPaths := []

/-- The list is emptied, two subscriptions are saved, and the limit goes from 2 to 1 and back. The
`Init` in between does not find the second record, and neither does `DeleteAll`. -/
def limitChange : List SubscriptionCall :=
  [.deleteAll (fun _ => .all) 1, .save (fun _ => .all) true (bareSubscription 1 10),
    .save (fun _ => .all) true (bareSubscription 1 11), .init ⟨1, 3⟩,
    .deleteAll (fun _ => .all) 1, .init ⟨2, 6⟩]

/-- The second subscription is stored above the limit of 1, and is visible again after its fabric
was deleted. -/
theorem subscription_outlives_fabric :
    ((stateAt ⟨2, 6⟩ limitChange 4).records.record 1).isSome = true ∧
      loadSubscription ⟨2, 6⟩ .all (stateAt ⟨2, 6⟩ limitChange 6).records 1 =
        .ok (bareSubscription 1 11) := by
  decide +kernel

end Chip.App
