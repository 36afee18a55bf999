import Chip.App.ReportScheduler

/-! Reports and their intervals: each timeout that a scheduler computes is the time until the
moment that it aims at, and no timer outlasts a max timestamp that is still ahead, except where
the moment has passed already. -/
namespace Chip.App.Reporting

open Computation List Scheduler

namespace Computation

def due : Computation → Nat
  | .plain now check node handler _ =>
    if node.isReportableNow handler check then now
    else if handler.isReportable && decide (now < node.mMinTimestamp) then node.mMinTimestamp
    else node.mMaxTimestamp
  | .synchronized _ now _ mNextMaxTimestamp mNextMinTimestamp reportableNow reportableAtMin _ =>
    if reportableNow then now
    else if reportableAtMin then mNextMinTimestamp
    else mNextMaxTimestamp

/-- The timeout is the time until that moment, which is not before now, and a timer that is armed
for it expires no later than a max timestamp ahead: of its handler, or of any handler when the
timer is a common one. The timer of a handler that is reportable expires at its min timestamp at
the latest. -/
def RespectsIntervals (c : Computation) : Prop :=
  match c with
  | .plain now _ node handler timeout =>
    (timeout : Int) = c.due - now ∧
      (0 < timeout → (now < node.mMaxTimestamp → now + timeout ≤ node.mMaxTimestamp) ∧
        (handler.isReportable = true → now + timeout ≤ node.mMinTimestamp))
  | .synchronized _ now nodes _ _ _ _ timeout =>
    (timeout : Int) = c.due - now ∧
      (0 < timeout → ∀ node ∈ nodes, now < node.mMaxTimestamp → now + timeout ≤ node.mMaxTimestamp)

/-- The handler is generating reports or its max timestamp has not passed; for the common timer, a
handler is reportable now or the earliest max timestamp that was ahead at the first reading of the
clock has not passed by the reading that the timeout is computed from. -/
def MaxIsAhead : Computation → Prop
  | .plain now _ node handler _ => handler.isGeneratingReports = true ∨ now ≤ node.mMaxTimestamp
  | .synchronized first now nodes _ _ reportableNow _ _ =>
    reportableNow = true ∨ now ≤ Scheduler.findNextMaxInterval nodes first

end Computation

theorem timeoutBetween_of_le {later now : Nat} (h : now ≤ later) (hLater : later < 2 ^ 64)
  (hClose : later < now + 2 ^ 32) : timeoutBetween later now = later - now := by
  unfold timeoutBetween
  have hSum : later + (2 ^ 64 - now) = (later - now) + 2 ^ 64 := by omega
  rw [hSum, Nat.add_mod_right, Nat.mod_eq_of_lt (by omega), Nat.mod_eq_of_lt (by omega)]

/-- A node whose timestamps were set at one of the readings of the clock so far. -/
def WellTimed (clock : MonotonicClock) (readings : Nat) (node : ReadHandlerNode) : Prop :=
  ∃ k < readings, ∃ minInterval maxInterval, minInterval ≤ maxInterval ∧ maxInterval ≤ 65535 ∧
    node.mMinTimestamp = clock.reading k + 1000 * minInterval ∧
    node.mMaxTimestamp = clock.reading k + 1000 * maxInterval

variable {clock : MonotonicClock} {readings : Nat} {node : ReadHandlerNode}

theorem WellTimed.bounds (h : WellTimed clock readings node) :
  node.mMinTimestamp ≤ node.mMaxTimestamp ∧
    node.mMaxTimestamp ≤ clock.reading readings + 1000 * 65535 := by
  obtain ⟨k, hBefore, minInterval, maxInterval, hLe, hMax, hMinTimestamp, hMaxTimestamp⟩ := h
  have hClock := clock.monotone (Nat.le_of_lt hBefore)
  omega

theorem WellTimed.mono (h : WellTimed clock readings node) {later : Nat} (hLater : readings ≤ later) :
  WellTimed clock later node := by
  obtain ⟨k, hBefore, hNode⟩ := h
  exact ⟨k, Nat.lt_of_lt_of_le hBefore hLater, hNode⟩

variable {handler : ReadHandler}

theorem isReportableNow_iff {now : Nat} :
  node.isReportableNow handler now = true ↔ handler.isGeneratingReports = true ∧
    node.mMinTimestamp ≤ now ∧
    (handler.isDirty = true ∨ node.mMaxTimestamp ≤ now ∨ node.mSyncTimestamp ≤ now) := by
  simp only [ReadHandlerNode.isReportableNow, Bool.and_eq_true, Bool.or_eq_true, decide_eq_true_eq,
    or_assoc]

theorem isReportable_iff :
  handler.isReportable = true ↔ handler.isGeneratingReports = true ∧ handler.isDirty = true := by
  simp only [ReadHandler.isReportable, Bool.and_eq_true]

theorem plain_respects_iff {check : Nat} (hNode : WellTimed clock readings node)
    (hCheck : clock.reading readings ≤ check) :
    let timeout :=
      if node.isReportableNow handler check then 0
      else if handler.isReportable && decide (clock.reading readings < node.mMinTimestamp) then
        timeoutBetween node.mMinTimestamp (clock.reading readings)
      else timeoutBetween node.mMaxTimestamp (clock.reading readings)
    let c := plain (clock.reading readings) check node handler timeout
    c.RespectsIntervals ↔ c.MaxIsAhead := by
  obtain ⟨hMinMax, hMax⟩ := hNode.bounds
  have hRange := clock.inRange readings
  generalize clock.reading readings = now at *
  simp only [Computation.RespectsIntervals, Computation.MaxIsAhead, due]
  by_cases hNow : node.isReportableNow handler check = true
  · have hGenerating := (isReportableNow_iff.1 hNow).1
    simp [hNow, hGenerating]
  · by_cases hMin : (handler.isReportable && decide (now < node.mMinTimestamp)) = true
    · simp only [Bool.and_eq_true, decide_eq_true_eq] at hMin
      obtain ⟨hReportable, hAhead⟩ := hMin
      have hGenerating := (isReportable_iff.1 hReportable).1
      have hTimeout := timeoutBetween_of_le (Nat.le_of_lt hAhead) (by omega) (by omega)
      simp only [hNow, Bool.false_eq_true, if_false, hReportable, hAhead, decide_true, Bool.and_self,
        if_true, hTimeout, hGenerating, true_or, iff_true]
      omega
    · simp only [hNow, hMin, Bool.false_eq_true, if_false]
      by_cases hAhead : now ≤ node.mMaxTimestamp
      · have hTimeout := timeoutBetween_of_le hAhead (by omega) (by omega)
        rw [hTimeout]
        refine iff_of_true ⟨by omega, fun _ => ⟨fun _ => by omega, fun hReportable => ?_⟩⟩
          (.inr hAhead)
        obtain ⟨hGenerating, hDirty⟩ := isReportable_iff.1 hReportable
        have hPast : node.mMinTimestamp ≤ now := by simpa [hReportable] using hMin
        exact absurd (isReportableNow_iff.2 ⟨hGenerating, Nat.le_trans hPast hCheck, .inl hDirty⟩) hNow
      · have hNotGenerating : ¬ handler.isGeneratingReports = true := fun hGenerating =>
          hNow (isReportableNow_iff.2 ⟨hGenerating, by omega, .inr (.inl (by omega))⟩)
        refine iff_of_false (fun h => ?_) fun h => h.elim hNotGenerating hAhead
        have hNegative := h.1
        omega

section Common

variable {nodes : List ReadHandlerNode} {handlers : Nat → ReadHandler} {now nextMax : Nat}

theorem foldl_earliest (now : Nat) (nodes : List ReadHandlerNode) (earliest : Nat) :
    let result := nodes.foldl (fun earliest node =>
      if node.mMaxTimestamp < earliest ∧ now < node.mMaxTimestamp then node.mMaxTimestamp
      else earliest) earliest
    result ≤ earliest ∧ (∀ node ∈ nodes, now < node.mMaxTimestamp → result ≤ node.mMaxTimestamp) ∧
      (now < earliest → now < result) := by
  induction nodes generalizing earliest with
  | nil => exact ⟨Nat.le_refl _, fun _ hMem => (not_mem_nil hMem).elim, id⟩
  | cons node rest ih =>
    rw [foldl_cons]
    generalize hNext : (if node.mMaxTimestamp < earliest ∧ now < node.mMaxTimestamp
      then node.mMaxTimestamp else earliest) = next
    have hStep : next ≤ earliest ∧ (now < node.mMaxTimestamp → next ≤ node.mMaxTimestamp) ∧
        (now < earliest → now < next) := by
      subst hNext
      split <;> omega
    obtain ⟨hBound, hRest, hAhead⟩ := ih next
    refine ⟨Nat.le_trans hBound hStep.1, fun other hMem hOther => ?_,
      fun hEarliest => hAhead (hStep.2.2 hEarliest)⟩
    rcases mem_cons.1 hMem with rfl | hMem
    · exact Nat.le_trans hBound (hStep.2.1 hOther)
    · exact hRest other hMem hOther

theorem findNextMaxInterval_spec (nodes : List ReadHandlerNode) (hRange : now + 1000 * 65535 < 2 ^ 64) :
    let nextMax := findNextMaxInterval nodes now
    nextMax ≤ now + 1000 * 65535 ∧ now < nextMax ∧
      ∀ node ∈ nodes, now < node.mMaxTimestamp → nextMax ≤ node.mMaxTimestamp := by
  have hSum : add64 now (1000 * 65535) = now + 1000 * 65535 := Nat.mod_eq_of_lt hRange
  obtain ⟨hBound, hNodes, hAhead⟩ := foldl_earliest now nodes (add64 now (1000 * 65535))
  rw [hSum] at hBound hNodes hAhead
  unfold findNextMaxInterval
  rw [hSum]
  exact ⟨hBound, hAhead (by omega), hNodes⟩

theorem foldl_latest (handlers : Nat → ReadHandler) (nextMax : Nat) (nodes : List ReadHandlerNode)
    (latest : Nat) :
    let result := nodes.foldl (fun latest node =>
      if latest < node.mMinTimestamp ∧ (handlers node.mReadHandler).isReportable = true ∧
          node.mMinTimestamp ≤ nextMax then node.mMinTimestamp
      else latest) latest
    (result = latest ∨ result ≤ nextMax) ∧ latest ≤ result ∧
      ∀ node ∈ nodes, (handlers node.mReadHandler).isReportable = true →
        node.mMinTimestamp ≤ nextMax → node.mMinTimestamp ≤ result := by
  induction nodes generalizing latest with
  | nil => exact ⟨.inl rfl, Nat.le_refl _, fun _ hMem => (not_mem_nil hMem).elim⟩
  | cons node rest ih =>
    rw [foldl_cons]
    generalize hNext : (if latest < node.mMinTimestamp ∧
      (handlers node.mReadHandler).isReportable = true ∧ node.mMinTimestamp ≤ nextMax
      then node.mMinTimestamp else latest) = next
    have hStep : (next = latest ∨ next ≤ nextMax) ∧ latest ≤ next ∧
        ((handlers node.mReadHandler).isReportable = true → node.mMinTimestamp ≤ nextMax →
          node.mMinTimestamp ≤ next) := by
      subst hNext
      split
      · rename_i hTaken
        exact ⟨.inr hTaken.2.2, Nat.le_of_lt hTaken.1, fun _ _ => Nat.le_refl _⟩
      · rename_i hNot
        refine ⟨.inl rfl, Nat.le_refl _, fun hReportable hBelow => ?_⟩
        exact Nat.le_of_not_lt fun hLater => hNot ⟨hLater, hReportable, hBelow⟩
    obtain ⟨hEither, hLatest, hRest⟩ := ih next
    refine ⟨hEither.elim (fun hSame => hSame.symm ▸ hStep.1) .inr, Nat.le_trans hStep.2.1 hLatest,
      fun other hMem hReportable hBelow => ?_⟩
    rcases mem_cons.1 hMem with rfl | hMem
    · exact Nat.le_trans (hStep.2.2 hReportable hBelow) hLatest
    · exact hRest other hMem hReportable hBelow

theorem scanReportable_atMin {start : Nat} (reportableAtMin : Bool) (readings : Nat)
  (hStart : start ≤ readings)
  (hNone : (scanReportable clock handlers nextMax nodes reportableAtMin readings).1 =
    false)
  (hAtMin : (scanReportable clock handlers nextMax nodes reportableAtMin
    readings).2.1 = true) :
  reportableAtMin = true ∨ ∃ node ∈ nodes, (handlers node.mReadHandler).isReportable = true ∧
    node.mMinTimestamp ≤ nextMax ∧ clock.reading start < node.mMinTimestamp := by
  induction nodes generalizing reportableAtMin readings with
  | nil => exact .inl hAtMin
  | cons node rest ih =>
    have hWeaken : (∃ node ∈ rest, (handlers node.mReadHandler).isReportable = true ∧
        node.mMinTimestamp ≤ nextMax ∧ clock.reading start < node.mMinTimestamp) →
        ∃ other ∈ node :: rest, (handlers other.mReadHandler).isReportable = true ∧
          other.mMinTimestamp ≤ nextMax ∧ clock.reading start < other.mMinTimestamp :=
      fun ⟨other, hMem, hOther⟩ => ⟨other, mem_cons_of_mem _ hMem, hOther⟩
    rw [scanReportable] at hNone hAtMin
    split at hNone
    · rename_i hScheduled
      rw [if_pos hScheduled] at hAtMin
      exact (ih _ _ hStart hNone hAtMin).imp_right hWeaken
    · rename_i hUnscheduled
      rw [if_neg hUnscheduled] at hAtMin
      split at hNone
      · cases hNone
      · rename_i hNotNow
        rw [if_neg hNotNow] at hAtMin
        rcases ih _ _ (by omega) hNone hAtMin with hHere | hRest
        · rw [Bool.or_eq_true] at hHere
          refine hHere.imp_right fun hNode => ?_
          simp only [Bool.and_eq_true, decide_eq_true_eq] at hNode
          obtain ⟨hReportable, hBelow⟩ := hNode
          refine ⟨node, mem_cons_self, hReportable, hBelow, ?_⟩
          obtain ⟨hGenerating, hDirty⟩ := isReportable_iff.1 hReportable
          have hClock := clock.monotone hStart
          by_contra hPast
          exact hNotNow (isReportableNow_iff.2 ⟨hGenerating, by omega, .inl hDirty⟩)
        · exact .inr (hWeaken hRest)

theorem synchronized_respects_iff (s : Scheduler) :
    let nextMax := findNextMaxInterval s.mNodesPool (s.now clock)
    let nextMin := findNextMinInterval s.handlers s.mNodesPool nextMax
      ((s.afterReadings 1).now clock)
    let now := (s.afterReadings 2).now clock
    let scan := scanReportable clock s.handlers nextMax s.mNodesPool false (s.readings + 3)
    let timeout :=
      if scan.1 then 0
      else if scan.2.1 then timeoutBetween nextMin now
      else timeoutBetween nextMax now
    let c := synchronized (s.now clock) now s.mNodesPool nextMax nextMin scan.1 scan.2.1
      timeout
    c.RespectsIntervals ↔ c.MaxIsAhead := by
  intro nextMax nextMin now scan timeout c
  have hRange : s.now clock + 1000 * 65535 < 2 ^ 64 := clock.inRange s.readings
  have hSecond : s.now clock ≤ (s.afterReadings 1).now clock := clock.monotone (Nat.le_succ _)
  have hThird : (s.afterReadings 1).now clock ≤ now := clock.monotone (Nat.le_succ _)
  obtain ⟨hMaxBound, hMaxAhead, hMaxNodes⟩ :=
    findNextMaxInterval_spec s.mNodesPool hRange
  obtain ⟨hMinEither, hMinLatest, hMinNodes⟩ :=
    foldl_latest s.handlers nextMax s.mNodesPool ((s.afterReadings 1).now clock)
  change nextMax ≤ _ at hMaxBound
  change s.now clock < nextMax at hMaxAhead
  have hDeadline : ∀ node ∈ s.mNodesPool, now < node.mMaxTimestamp → nextMax ≤ node.mMaxTimestamp :=
    fun node hMem hAhead => hMaxNodes node hMem (by omega)
  by_cases hNow : scan.1 = true
  · have hTimeout : timeout = 0 := if_pos hNow
    simp only [c, Computation.RespectsIntervals, Computation.MaxIsAhead, due, hNow, hTimeout]
    simp
  · have hNotNow : scan.1 = false := by simpa using hNow
    by_cases hAtMin : scan.2.1 = true
    · -- A handler waits for its min timestamp, which is ahead and not beyond the common maximum.
      obtain ⟨node, hMem, hReportable, hBelow, hAhead⟩ :=
        (scanReportable_atMin false (s.readings + 3) (Nat.le_succ (s.readings + 2)) hNotNow
          hAtMin).resolve_left Bool.false_ne_true
      change now < node.mMinTimestamp at hAhead
      have hMin : node.mMinTimestamp ≤ nextMin := hMinNodes node hMem hReportable hBelow
      have hMinMax : nextMin ≤ nextMax := by
        rcases hMinEither with hSame | hLe
        · change nextMin = _ at hSame
          omega
        · exact hLe
      have hTimeout : timeout = nextMin - now := by
        simp only [timeout, hNotNow, hAtMin, Bool.false_eq_true, if_false, if_true]
        exact timeoutBetween_of_le (by omega) (by omega) (by omega)
      simp only [c, Computation.RespectsIntervals, Computation.MaxIsAhead, due, hNotNow,
        hAtMin, hTimeout, Bool.false_eq_true, if_false, if_true, false_or]
      refine iff_of_true ⟨by omega, fun _ other hOther hOtherAhead => ?_⟩ (by omega)
      have hOtherMax := hDeadline other hOther hOtherAhead
      omega
    · have hTimeout : timeout = timeoutBetween nextMax now := by
        simp only [timeout, hNow, hAtMin, Bool.false_eq_true, if_false]
      simp only [c, Computation.RespectsIntervals, Computation.MaxIsAhead, due, hNow,
        hAtMin, Bool.false_eq_true, if_false, false_or]
      by_cases hAhead : now ≤ nextMax
      · rw [hTimeout, timeoutBetween_of_le hAhead (by omega) (by omega)]
        refine iff_of_true ⟨by omega, fun _ other hOther hOtherAhead => ?_⟩ hAhead
        have hOtherMax := hDeadline other hOther hOtherAhead
        omega
      · refine iff_of_false (fun h => ?_) hAhead
        have hNegative := h.1
        omega

end Common

/-- Every node has timestamps of the past, and every timeout computed so far respects the
intervals exactly if the max timestamp was ahead. -/
structure Timely (clock : MonotonicClock) (s : Scheduler) : Prop where
  nodes : ∀ node ∈ s.mNodesPool, WellTimed clock s.readings node
  computed : ∀ c ∈ s.computed, c.RespectsIntervals ↔ c.MaxIsAhead

namespace Timely

variable {s : Scheduler} {impl : Implementation}

section

variable (h : Timely clock s)
include h

theorem of_nodes {nodes : List ReadHandlerNode} {later : Nat} (hLater : s.readings ≤ later)
  (hNodes : ∀ node ∈ nodes, ∃ old ∈ s.mNodesPool, node.mMinTimestamp = old.mMinTimestamp ∧
    node.mMaxTimestamp = old.mMaxTimestamp) : ∀ node ∈ nodes, WellTimed clock later node := by
  intro node hMem
  obtain ⟨old, hOld, hMin, hMax⟩ := hNodes node hMem
  obtain ⟨k, hBefore, minInterval, maxInterval, hLe, hBound, hOldMin, hOldMax⟩ := h.nodes old hOld
  exact ⟨k, Nat.lt_of_lt_of_le hBefore hLater, minInterval, maxInterval, hLe, hBound,
    hMin.trans hOldMin, hMax.trans hOldMax⟩

theorem afterReadings (count : Nat) : Timely clock (s.afterReadings count) :=
  ⟨fun node hMem => (h.nodes node hMem).mono (Nat.le_add_right _ _), h.computed⟩

theorem setTimer (context : TimerContext) (timeout : Option Nat) :
  Timely clock (s.setTimer context timeout) := ⟨h.nodes, h.computed⟩

theorem reportTimerCallback : Timely clock s.reportTimerCallback :=
  ⟨h.nodes, h.computed⟩

theorem updateNode (aReadHandler : Nat) {f : ReadHandlerNode → ReadHandlerNode}
  (hUpdate : ∀ node ∈ s.mNodesPool, WellTimed clock s.readings (f node)) :
  Timely clock (s.updateNode aReadHandler f) := by
  refine ⟨fun node hMem => ?_, h.computed⟩
  obtain ⟨old, hOld, rfl⟩ := mem_map.1 hMem
  split
  · exact hUpdate old hOld
  · exact h.nodes old hOld

theorem setEngineRunScheduled (aReadHandler : Nat) (scheduled : Bool) :
  Timely clock (s.updateNode aReadHandler (·.setEngineRunScheduled scheduled)) :=
  h.updateNode aReadHandler h.nodes

end

variable {node : ReadHandlerNode}

theorem calculatePlain (h : Timely clock s) (hNode : WellTimed clock s.readings node) :
  Timely clock (s.calculatePlain clock node).2 := by
  refine ⟨(h.afterReadings 2).nodes, fun c hMem => ?_⟩
  rcases mem_append.1 hMem with hBefore | hNew
  · exact h.computed c hBefore
  · rw [mem_singleton.1 hNew]
    exact plain_respects_iff hNode (clock.monotone (Nat.le_succ _))

theorem updateSyncTimestamps_intervals (handlers : Nat → ReadHandler) (aSyncTimestamp : Nat)
  (nodes : List ReadHandlerNode) (readings : Nat) :
  ∀ node ∈ updateSyncTimestamps clock handlers aSyncTimestamp nodes readings,
    ∃ old ∈ nodes, node.mMinTimestamp = old.mMinTimestamp ∧
      node.mMaxTimestamp = old.mMaxTimestamp := by
  induction nodes generalizing readings with
  | nil => exact fun _ hMem => (not_mem_nil hMem).elim
  | cons node rest ih =>
    intro other hMem
    rcases mem_cons.1 hMem with rfl | hMem
    · refine ⟨node, mem_cons_self, ?_⟩
      unfold ReadHandlerNode.setSyncTimestamp
      split
      · exact ⟨rfl, rfl⟩
      · split <;> exact ⟨rfl, rfl⟩
    · obtain ⟨old, hOld, hSame⟩ := ih _ other hMem
      exact ⟨old, mem_cons_of_mem _ hOld, hSame⟩

theorem scanReportable_readings (clock : MonotonicClock) (handlers : Nat → ReadHandler) (nextMax : Nat)
  (nodes : List ReadHandlerNode) (reportableAtMin : Bool) (readings : Nat) :
  readings ≤
    (scanReportable clock handlers nextMax nodes reportableAtMin readings).2.2 := by
  induction nodes generalizing reportableAtMin readings with
  | nil => exact Nat.le_refl _
  | cons node rest ih =>
    rw [scanReportable]
    split
    · exact ih _ _
    · split
      · exact Nat.le_succ _
      · exact Nat.le_trans (Nat.le_succ _) (ih _ _)

theorem calculateSynchronized (h : Timely clock s) :
  Timely clock (s.calculateSynchronized clock).2 := by
  refine ⟨h.of_nodes ?_ (updateSyncTimestamps_intervals _ _ _ _), fun c hMem => ?_⟩
  · have hScan := scanReportable_readings clock s.handlers
      (findNextMaxInterval s.mNodesPool (s.now clock)) s.mNodesPool false (s.readings + 3)
    change s.readings ≤ _ + s.mNodesPool.length
    omega
  · rcases mem_append.1 hMem with hBefore | hNew
    · exact h.computed c hBefore
    · rw [mem_singleton.1 hNew]
      exact synchronized_respects_iff s

theorem calculateNextReportTimeout (h : Timely clock s) (hNode : WellTimed clock s.readings node) :
  Timely clock (s.calculateNextReportTimeout clock impl node).2 := by
  cases impl with
  | plain => exact h.calculatePlain hNode
  | synchronized => exact h.calculateSynchronized

theorem scheduleReport (h : Timely clock s) (timeout aReadHandler : Nat) (fails : Bool) :
  Timely clock (s.scheduleReport impl timeout aReadHandler fails) := by
  cases impl with
  | plain =>
    unfold scheduleReport
    dsimp only
    split
    · exact ((h.setTimer _ _).reportTimerCallback).setEngineRunScheduled _ _
    · split
      · exact h.setTimer _ _
      · exact (h.setTimer _ _).setTimer _ _
  | synchronized =>
    unfold scheduleReport
    dsimp only
    split
    · exact (h.setTimer _ _).reportTimerCallback
    · split
      · exact h.setTimer _ _
      · exact ((h.setTimer _ _).setTimer _ _).afterReadings 1

theorem reschedule (h : Timely clock s) (hNode : WellTimed clock s.readings node) (fails : Bool) :
  Timely clock (s.reschedule clock impl node fails) :=
  (h.calculateNextReportTimeout hNode).scheduleReport _ _ _

theorem setIntervalTimeStamps_wellTimed (clock : MonotonicClock) (s : Scheduler) (node : ReadHandlerNode)
  (handler : ReadHandler) :
  WellTimed clock (s.readings + 1) (node.setIntervalTimeStamps handler (s.now clock)) := by
  have hLe := UInt16.le_iff_toNat_le.1 handler.min_le_max
  have hMax := handler.mMaxInterval.toNat_lt
  have hRange := clock.inRange s.readings
  refine ⟨s.readings, Nat.lt_succ_self _, _, _, hLe, by omega, ?_, ?_⟩ <;>
    · refine Nat.mod_eq_of_lt ?_
      unfold now
      omega

section

variable (h : Timely clock s)
include h

theorem find_wellTimed {aReadHandler : Nat}
  (hFind : s.findReadHandlerNode aReadHandler = some node) : WellTimed clock s.readings node :=
  h.nodes node (mem_of_find?_eq_some hFind)

theorem onReadHandlerCreated (aReadHandler : Nat) (fails : Bool) :
  Timely clock (s.onReadHandlerCreated clock impl aReadHandler fails) := by
  unfold Scheduler.onReadHandlerCreated
  split
  · exact h
  · have hNode := setIntervalTimeStamps_wellTimed clock s
      (ReadHandlerNode.mk aReadHandler 0 0 0 false) (s.handlers aReadHandler)
    generalize (ReadHandlerNode.mk aReadHandler 0 0 0 false).setIntervalTimeStamps
      (s.handlers aReadHandler) (s.now clock) = node at hNode ⊢
    have hRegistered : ∀ other ∈ s.mNodesPool ++ [node], WellTimed clock (s.readings + 1) other := by
      intro other hMem
      rcases List.mem_append.1 hMem with hOld | hNew
      · exact (h.afterReadings 1).nodes other hOld
      · rw [List.mem_singleton.1 hNew]
        exact hNode
    have hWith : Timely clock { s.afterReadings 1 with mNodesPool := s.mNodesPool ++ [node] } :=
      ⟨hRegistered, h.computed⟩
    exact hWith.reschedule hNode fails

theorem onBecameReportable (aReadHandler : Nat) (fails : Bool) :
  Timely clock (s.onBecameReportable clock impl aReadHandler fails) := by
  unfold Scheduler.onBecameReportable
  split
  · exact h
  · rename_i node hFind
    exact h.reschedule (h.find_wellTimed hFind) fails

theorem onSubscriptionAction (aReadHandler : Nat) (fails : Bool) :
  Timely clock (s.onSubscriptionAction clock impl aReadHandler fails) := by
  unfold Scheduler.onSubscriptionAction
  split
  · exact h
  · rename_i node hFind
    have hSet := fun other => setIntervalTimeStamps_wellTimed clock s other
      (s.handlers aReadHandler)
    exact (((h.afterReadings 1).updateNode aReadHandler fun other _ => hSet other).reschedule
      (hSet node) fails).setEngineRunScheduled _ _

theorem onReadHandlerDestroyed (aReadHandler : Nat) :
  Timely clock (s.onReadHandlerDestroyed impl aReadHandler) := by
  unfold Scheduler.onReadHandlerDestroyed
  split
  · exact h
  · have hReleased : Timely clock { s with
        mNodesPool := s.mNodesPool.filter fun node => node.mReadHandler ≠ aReadHandler } :=
      ⟨fun node hMem => h.nodes node (List.mem_filter.1 hMem).1, h.computed⟩
    cases impl with
    | plain => exact hReleased.setTimer _ _
    | synchronized =>
      dsimp only
      split
      · exact hReleased.setTimer _ _
      · exact hReleased

theorem timerFired (context : TimerContext) : Timely clock (s.timerFired clock context) := by
  cases context with
  | node aReadHandler =>
    exact ((h.setTimer _ _).reportTimerCallback).setEngineRunScheduled _ _
  | scheduler =>
    refine ⟨h.of_nodes (Nat.le_add_right _ _) fun node hMem => ?_, h.computed⟩
    obtain ⟨index, hIndex, rfl⟩ := mem_mapIdx.1 hMem
    refine ⟨_, getElem_mem hIndex, ?_⟩
    split <;> exact ⟨rfl, rfl⟩

theorem handlerForceDirtyState (aReadHandler : Nat) (fails : Bool) :
  Timely clock (s.handlerForceDirtyState clock impl aReadHandler fails) := by
  unfold Scheduler.handlerForceDirtyState
  have hDirty : ∀ changed, Timely clock { s with handlers := changed } :=
    fun _ => ⟨h.nodes, h.computed⟩
  dsimp only
  split
  · exact (hDirty _).onBecameReportable _ _
  · exact hDirty _

theorem onEnterActiveMode (fails : Bool) : Timely clock (s.onEnterActiveMode clock impl fails) := by
  unfold Scheduler.onEnterActiveMode
  dsimp only
  have hStart := h.afterReadings 1
  generalize s.afterReadings 1 = start at hStart ⊢
  induction s.mNodesPool generalizing start with
  | nil => exact hStart
  | cons node rest ih =>
    rw [List.foldl_cons]
    refine ih _ ?_
    split
    · exact hStart.handlerForceDirtyState _ _
    · exact hStart

theorem step (event : Event) : Timely clock (event.step clock impl s) := by
  cases event with
  | readHandlerCreated aReadHandler fails => exact h.onReadHandlerCreated _ _
  | becameReportable aReadHandler fails => exact h.onBecameReportable _ _
  | subscriptionAction aReadHandler fails => exact h.onSubscriptionAction _ _
  | readHandlerDestroyed aReadHandler => exact h.onReadHandlerDestroyed _
  | enterActiveMode fails => exact h.onEnterActiveMode _
  | timerFired context => exact h.timerFired _
  | handlerChanges aReadHandler handler => exact ⟨h.nodes, h.computed⟩

end

theorem run (clock : MonotonicClock) (impl : Implementation) (handlers : Nat → ReadHandler)
  (events : List Event) : Timely clock (runEvents clock impl handlers events) := by
  have hStart : Timely clock { handlers := handlers } :=
    ⟨fun _ hMem => (not_mem_nil hMem).elim, fun _ hMem => (not_mem_nil hMem).elim⟩
  unfold runEvents
  generalize ({ handlers := handlers } : Scheduler) = start at hStart
  induction events generalizing start with
  | nil => exact hStart
  | cons event rest ih => exact ih _ (hStart.step event)

end Timely

/-- In every run of either scheduler a handler is reportable only from its min timestamp on, and
a timeout respects the intervals exactly if the max timestamp that it may aim at has not passed
without the handler being able to report. -/
theorem intervals_respected_iff (clock : MonotonicClock) (impl : Implementation)
    (handlers : Nat → ReadHandler) (events : List Event) :
    (∀ (node : ReadHandlerNode) (handler : ReadHandler) (now : Nat),
      node.isReportableNow handler now = true → node.mMinTimestamp ≤ now) ∧
    ∀ c ∈ (runEvents clock impl handlers events).computed, c.RespectsIntervals ↔ c.MaxIsAhead :=
  ⟨fun _ _ _ hNow => (isReportableNow_iff.1 hNow).2.1,
    (Timely.run clock impl handlers events).computed⟩

/-- A clock that reads zero five times, and five seconds from then on. -/
def lateClock : MonotonicClock where
  reading n := if n < 5 then 0 else 5000
  monotone := by
    intro m n hLe
    dsimp only
    split <;> split <;> omega
  inRange n := by
    split <;> omega

/-- A handler with a max interval of one second, in this state. -/
def shortInterval (mState : HandlerState) (isDirty : Bool) : ReadHandler :=
  ⟨mState, isDirty, 0, 1, by decide⟩

/-- A report has been sent, and its answer has not come after five seconds, when an attribute
changes: the timer that is armed then expires in fifty days. -/
theorem intervals_not_respected :
    ¬ ∀ c ∈ (runEvents lateClock .plain (fun _ => shortInterval .idle false)
      [.readHandlerCreated 0 false, .handlerChanges 0 (shortInterval .awaitingReportResponse false),
        .subscriptionAction 0 false, .handlerChanges 0 (shortInterval .awaitingReportResponse true),
        .becameReportable 0 false]).computed, c.RespectsIntervals := by
  intro h
  have hLast : (runEvents lateClock .plain (fun _ => shortInterval .idle false)
      [.readHandlerCreated 0 false, .handlerChanges 0 (shortInterval .awaitingReportResponse false),
        .subscriptionAction 0 false, .handlerChanges 0 (shortInterval .awaitingReportResponse true),
        .becameReportable 0 false]).computed.getLast? =
      some (.plain 5000 5000 ⟨0, 0, 1000, 1000, false⟩ (shortInterval .awaitingReportResponse true)
        (2 ^ 32 - 4000)) := rfl
  have hRespects := (h _ (List.mem_of_getLast? hLast)).1
  exact absurd hRespects (by decide)

end Chip.App.Reporting
