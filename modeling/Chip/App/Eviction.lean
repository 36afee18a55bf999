import Mathlib.Algebra.Order.BigOperators.Group.List
import Mathlib.Algebra.Order.Group.Nat
import Mathlib.Data.List.Nodup
import Mathlib.Order.OrderDual
import Chip.Data.SelectionScan
import Chip.App.ResourceQuota

/-! Which handler the engine closes when it trims a fabric. The pass over the pool is a
selection scan; for subscriptions it starts with a wrong belief about its first candidate. -/
namespace Chip.App.InteractionModelEngine

open EvictionScan ReadHandler List SelectionScan

/-- The handlers of one type in one fabric, in the order of the pool. -/
def handlersOf (engine : InteractionModelEngine) (type : InteractionType) (fabric : UInt8) :
  List ReadHandler :=
  engine.readHandlers.filter (ReadHandler.servesFabric type fabric)

/-- A call closes a handler when it was active before and is not afterwards. -/
def Closes (before after : InteractionModelEngine) (handler : ReadHandler) : Prop :=
  handler ∈ before.readHandlers ∧ handler ∉ after.readHandlers

instance (before after : InteractionModelEngine) (handler : ReadHandler) :
    Decidable (Closes before after handler) :=
  inferInstanceAs (Decidable (_ ∧ _))

/-- The first handler visited is within the limit, or what follows hides that it is not: a
later one is over the limit too and no younger, or none is over the limit and none is older. -/
def FirstIsFair (limit : Nat) : List ReadHandler → Prop
  | [] => True
  | first :: rest => first.exceeds limit = true →
      (∃ handler ∈ rest, handler.exceeds limit = true ∧
        handler.mTransactionStartGeneration ≤ first.mTransactionStartGeneration) ∨
      ∀ handler ∈ rest, handler.exceeds limit = false ∧
        first.mTransactionStartGeneration ≤ handler.mTransactionStartGeneration

variable {engine : InteractionModelEngine} {fabric : UInt8} {handler candidate : ReadHandler}
  {limit : Nat} {scan : EvictionScan} {l : List ReadHandler}

/-- The candidate of the pass with the class its remembered figures put it in. -/
def EvictionScan.held (limit : Nat) (scan : EvictionScan) : Option (Held ReadHandler) :=
  scan.candidate.map fun candidate => ⟨candidate, scan.candidateExceeds limit⟩

theorem EvictionScan.not_candidateExceeds (scan : EvictionScan) (limit : Nat) :
  (decide (scan.candidateAttributePathsUsed ≤ limit) &&
    decide (scan.candidateEventPathsUsed ≤ limit)) = !scan.candidateExceeds limit := by
  simp [candidateExceeds, ← decide_not]

section Pass

variable {type : InteractionType} {visit : EvictionScan → ReadHandler → EvictionScan}

theorem foldl_eq_foldl_filter
  (hSkip : ∀ scan handler, handler.servesFabric type fabric = false → visit scan handler = scan)
  (l : List ReadHandler) (scan : EvictionScan) :
  l.foldl visit scan = (l.filter (servesFabric type fabric)).foldl visit scan := by
  induction l generalizing scan with
  | nil => rfl
  | cons handler l ih =>
    cases hServes : handler.servesFabric type fabric with
    | true => simp [hServes, ih]
    | false => simp [hServes, ih, hSkip scan handler hServes]

theorem foldl_used
  (hUsed : ∀ scan handler, handler.servesFabric type fabric = true →
    (visit scan handler).used = scan.used.add handler)
  (hAll : ∀ handler ∈ l, handler.servesFabric type fabric = true) (scan : EvictionScan) :
  (l.foldl visit scan).used = l.foldl Usage.add scan.used := by
  induction l generalizing scan with
  | nil => rfl
  | cons handler l ih =>
    have hHandler := hUsed scan handler (hAll handler mem_cons_self)
    rw [foldl_cons, foldl_cons, ← hHandler]
    exact ih (fun other h => hAll other (mem_cons_of_mem handler h)) _

end Pass

theorem mem_handlersOf {type : InteractionType} :
  handler ∈ engine.handlersOf type fabric ↔
    handler ∈ engine.readHandlers ∧ handler.servesFabric type fabric = true :=
  mem_filter

theorem fabricUsage_eq (engine : InteractionModelEngine) (type : InteractionType) (fabric : UInt8) :
  engine.fabricUsage type fabric = (engine.handlersOf type fabric).foldl Usage.add {} := by
  rw [handlersOf, foldl_filter]
  rfl

theorem foldl_add (l : List ReadHandler) (usage : Usage) :
  l.foldl Usage.add usage =
    { attributePaths := usage.attributePaths + (l.map attributePathCount).sum
      eventPaths := usage.eventPaths + (l.map eventPathCount).sum
      handlers := usage.handlers + l.length } := by
  induction l generalizing usage with
  | nil => rfl
  | cons handler l ih =>
    rw [foldl_cons, ih]
    simp only [Usage.add, map_cons, sum_cons, length_cons, Usage.mk.injEq]
    omega

section Subscriptions

variable {capacity : Nat}

theorem visitSubscription_skip (h : handler.servesFabric .subscribe fabric = false) :
  visitSubscription fabric capacity scan handler = scan := by
  rw [visitSubscription, if_pos h]

theorem visitSubscription_used (h : handler.servesFabric .subscribe fabric = true) :
  (visitSubscription fabric capacity scan handler).used = scan.used.add handler := by
  rw [visitSubscription, if_neg (by simp [h])]
  dsimp only
  split
  · rfl
  · split
    · rfl
    · split <;> rfl

theorem visitSubscription_held {held : Held ReadHandler}
  (h : handler.servesFabric .subscribe fabric = true) (hHeld : scan.held capacity = some held) :
  (visitSubscription fabric capacity scan handler).held capacity =
    some (step (exceeds capacity) mTransactionStartGeneration held
      handler) := by
  obtain ⟨candidate, hCandidate, rfl⟩ := Option.map_eq_some_iff.mp hHeld
  rw [visitSubscription, if_neg (by simp [h]), hCandidate]
  dsimp only
  rw [scan.not_candidateExceeds, step]
  dsimp only
  split
  · rename_i hReplace
    have hExceeds : handler.exceeds capacity = true := by simp_all
    exact congrArg (fun b => some (⟨handler, b⟩ : Held ReadHandler)) hExceeds
  · split
    · rfl
    · rfl

theorem foldl_visitSubscription_held {held : Held ReadHandler}
  (hAll : ∀ handler ∈ l, handler.servesFabric .subscribe fabric = true)
  (hHeld : scan.held capacity = some held) :
  (l.foldl (visitSubscription fabric capacity) scan).held capacity =
    some (l.foldl (step (exceeds capacity)
      mTransactionStartGeneration) held) := by
  induction l generalizing scan held with
  | nil => exact hHeld
  | cons handler l ih =>
    exact ih (fun other h => hAll other (mem_cons_of_mem handler h))
      (visitSubscription_held (hAll handler mem_cons_self) hHeld)

def subscriptionCandidate (engine : InteractionModelEngine) (fabric : UInt8) : Option ReadHandler :=
  (engine.readHandlers.foldl
    (visitSubscription fabric engine.perFabricPathCapacity) {}).candidate

theorem subscriptionCandidate_of_nil (h : engine.handlersOf .subscribe fabric = []) :
  engine.subscriptionCandidate fabric = none := by
  rw [subscriptionCandidate, foldl_eq_foldl_filter fun _ _ => visitSubscription_skip]
  rw [handlersOf] at h
  rw [h]
  rfl

theorem subscriptionCandidate_of_cons {first : ReadHandler}
  (h : engine.handlersOf .subscribe fabric = first :: l) :
  engine.subscriptionCandidate fabric =
    some (l.foldl (step (exceeds engine.perFabricPathCapacity)
      mTransactionStartGeneration) ⟨first, false⟩).candidate := by
  have hAll : ∀ handler ∈ first :: l, handler.servesFabric .subscribe fabric = true :=
    fun handler hMem => (mem_handlersOf.mp (h ▸ hMem)).2
  have hFirst : (visitSubscription fabric engine.perFabricPathCapacity {} first).held
      engine.perFabricPathCapacity = some ⟨first, false⟩ := by
    rw [visitSubscription, if_neg (by simp [hAll first mem_cons_self])]
    simp [held, candidateExceeds]
  have hScan := foldl_visitSubscription_held
    (fun handler hMem => hAll handler (mem_cons_of_mem first hMem)) hFirst
  rw [subscriptionCandidate, foldl_eq_foldl_filter fun _ _ => visitSubscription_skip]
  rw [handlersOf] at h
  rw [h, foldl_cons]
  obtain ⟨candidate, hCandidate, hHeld⟩ := Option.map_eq_some_iff.mp hScan
  rw [hCandidate, ← hHeld]

theorem subscriptionCandidate_mem (h : engine.subscriptionCandidate fabric = some candidate) :
  candidate ∈ engine.handlersOf .subscribe fabric := by
  cases hHandlers : engine.handlersOf .subscribe fabric with
  | nil => simp [subscriptionCandidate_of_nil hHandlers] at h
  | cons first rest =>
    rw [subscriptionCandidate_of_cons hHandlers, Option.some.injEq] at h
    rw [← h]
    exact foldl_candidate_mem ⟨first, false⟩ rest

/-- Does the fabric use more than its share of the subscription resources? -/
def exceedsSubscriptionShare (engine : InteractionModelEngine) (fabric : UInt8) : Bool :=
  decide ((engine.fabricUsage .subscribe fabric).attributePaths > engine.perFabricPathCapacity) ||
    decide ((engine.fabricUsage .subscribe fabric).eventPaths > engine.perFabricPathCapacity) ||
    decide ((engine.fabricUsage .subscribe fabric).handlers > engine.perFabricSubscriptionCapacity)

theorem exceedsSubscriptionShare_of_mem (hMem : handler ∈ engine.handlersOf .subscribe fabric)
  (h : handler.exceeds engine.perFabricPathCapacity = true) :
  engine.exceedsSubscriptionShare fabric = true := by
  have hAttributes : handler.attributePathCount ≤ _ :=
    le_sum_of_mem (mem_map_of_mem hMem)
  have hEvents : handler.eventPathCount ≤ _ := le_sum_of_mem (mem_map_of_mem hMem)
  simp only [exceeds, Bool.or_eq_true, decide_eq_true_eq] at h
  simp only [exceedsSubscriptionShare, fabricUsage_eq, foldl_add, Bool.or_eq_true, decide_eq_true_eq]
  omega

theorem trimFabricForSubscriptions_eq (engine : InteractionModelEngine) (fabric : UInt8)
  (forceEvict : Bool) :
  engine.trimFabricForSubscriptions fabric forceEvict =
    if engine.fabricCount ≠ 0 ∧ (forceEvict || engine.exceedsSubscriptionShare fabric) = true then
      (engine.subscriptionCandidate fabric).elim (engine, false)
        fun candidate => (engine.close candidate, true)
    else (engine, false) := by
  have hUsed : (engine.readHandlers.foldl
      (visitSubscription fabric engine.perFabricPathCapacity) {}).used =
        engine.fabricUsage .subscribe fabric := by
    rw [foldl_eq_foldl_filter fun _ _ => visitSubscription_skip, fabricUsage_eq]
    exact foldl_used (fun _ _ => visitSubscription_used) (fun _ h => (mem_handlersOf.mp h).2) _
  rw [trimFabricForSubscriptions]
  dsimp only
  rw [hUsed, exceedsSubscriptionShare, Bool.or_assoc, Bool.or_assoc, Bool.or_assoc]
  rw [← subscriptionCandidate]
  by_cases hCount : engine.fabricCount = 0
  · simp [hCount]
  · rw [if_neg hCount]
    cases engine.subscriptionCandidate fabric with
    | none => simp
    | some candidate => simp [hCount]

theorem subscriptionCandidate_isChoice_iff (engine : InteractionModelEngine) (fabric : UInt8) :
  (∀ candidate, engine.subscriptionCandidate fabric = some candidate →
    IsChoice (exceeds engine.perFabricPathCapacity)
      mTransactionStartGeneration (engine.handlersOf .subscribe fabric) candidate) ↔
    FirstIsFair engine.perFabricPathCapacity (engine.handlersOf .subscribe fabric) := by
  cases h : engine.handlersOf .subscribe fabric with
  | nil => simp [subscriptionCandidate_of_nil h, FirstIsFair]
  | cons first rest =>
    simp only [subscriptionCandidate_of_cons h, Option.some.injEq, forall_eq', FirstIsFair]
    cases hFirst : first.exceeds engine.perFabricPathCapacity with
    | true => simpa using isChoice_foldl_misjudged_iff hFirst rest
    | false => simpa using isChoice_foldl ⟨first, false⟩ hFirst.symm rest

end Subscriptions

section Reads

theorem visitRead_skip (h : handler.servesFabric .read fabric = false) :
  visitRead fabric scan handler = scan := by
  rw [visitRead, if_pos h]

theorem visitRead_used (h : handler.servesFabric .read fabric = true) :
  (visitRead fabric scan handler).used = scan.used.add handler := by
  rw [visitRead, if_neg (by simp [h])]
  dsimp only
  split <;> rfl

def youngestFirst (handler : ReadHandler) : Natᵒᵈ :=
  OrderDual.toDual handler.mTransactionStartGeneration

theorem visitRead_held {held : Held ReadHandler} (h : handler.servesFabric .read fabric = true)
  (hHeld : scan.held kMinSupportedPathsPerReadRequest = some held)
  (hOther : held.candidate.object ≠ handler.object) :
  (visitRead fabric scan handler).held kMinSupportedPathsPerReadRequest =
    some (step (exceeds kMinSupportedPathsPerReadRequest) youngestFirst held
      handler) := by
  obtain ⟨candidate, hCandidate, rfl⟩ := Option.map_eq_some_iff.mp hHeld
  have hYounger : (youngestFirst handler < youngestFirst candidate) =
      (candidate.mTransactionStartGeneration < handler.mTransactionStartGeneration) := rfl
  rw [visitRead, if_neg (by simp [h]), replaceReadCandidate, hCandidate]
  dsimp only
  rw [scan.not_candidateExceeds, step]
  simp only [hYounger]
  split
  · rename_i hReplace
    have hExceeds : handler.exceeds kMinSupportedPathsPerReadRequest = true := by simp_all
    rw [if_pos (by rfl)]
    exact congrArg (fun b => some (⟨handler, b⟩ : Held ReadHandler)) hExceeds
  · split
    · rename_i hReplace
      have hExceeds : handler.exceeds kMinSupportedPathsPerReadRequest =
          scan.candidateExceeds kMinSupportedPathsPerReadRequest := by simp_all
      rw [if_pos (by rfl)]
      exact congrArg (fun b => some (⟨handler, b⟩ : Held ReadHandler)) hExceeds
    · rw [if_neg (by simpa using hOther)]
      rfl

theorem foldl_visitRead_held {held : Held ReadHandler}
  (hAll : ∀ handler ∈ l, handler.servesFabric .read fabric = true)
  (hDistinct : (held.candidate :: l).Pairwise fun a b => a.object ≠ b.object)
  (hHeld : scan.held kMinSupportedPathsPerReadRequest = some held) :
  (l.foldl (visitRead fabric) scan).held kMinSupportedPathsPerReadRequest =
    some (l.foldl (step (exceeds kMinSupportedPathsPerReadRequest) youngestFirst)
      held) := by
  induction l generalizing scan held with
  | nil => exact hHeld
  | cons handler l ih =>
    have hOther := rel_of_pairwise_cons hDistinct mem_cons_self
    apply ih (fun other h => hAll other (mem_cons_of_mem handler h))
    · -- the candidate of the next step is the old one or the handler just visited
      have hNext : (step (exceeds kMinSupportedPathsPerReadRequest) youngestFirst
          held handler).candidate = held.candidate ∨ (step (exceeds
            kMinSupportedPathsPerReadRequest) youngestFirst held handler).candidate = handler := by
        rw [step]
        split
        · exact .inr rfl
        · split
          · exact .inr rfl
          · exact .inl rfl
      rcases hNext with hNext | hNext
      · rw [hNext]
        exact hDistinct.sublist (.cons_cons _ (.cons _ (.refl _)))
      · rw [hNext]
        exact hDistinct.of_cons
    · exact visitRead_held (hAll handler mem_cons_self) hHeld hOther

def readCandidate (engine : InteractionModelEngine) (fabric : UInt8) : Option ReadHandler :=
  (engine.readHandlers.foldl (visitRead fabric) {}).candidate

theorem handlersOf_distinct (engine : InteractionModelEngine) (type : InteractionType)
  (fabric : UInt8) :
  (engine.handlersOf type fabric).Pairwise fun a b => a.object ≠ b.object :=
  (pairwise_map.mp engine.distinct).sublist filter_sublist

theorem readCandidate_of_nil (h : engine.handlersOf .read fabric = []) :
  engine.readCandidate fabric = none := by
  rw [readCandidate, foldl_eq_foldl_filter fun _ _ => visitRead_skip, ← handlersOf, h]
  rfl

theorem readCandidate_of_cons {first : ReadHandler}
  (h : engine.handlersOf .read fabric = first :: l) :
  engine.readCandidate fabric =
    some (l.foldl (step (exceeds kMinSupportedPathsPerReadRequest) youngestFirst)
      ⟨first, first.exceeds kMinSupportedPathsPerReadRequest⟩).candidate := by
  have hDistinct := h ▸ engine.handlersOf_distinct .read fabric
  have hAll : ∀ handler ∈ first :: l, handler.servesFabric .read fabric = true :=
    fun _ hMem => (mem_handlersOf.mp (h ▸ hMem)).2
  have hFirst : (visitRead fabric {} first).held kMinSupportedPathsPerReadRequest =
      some ⟨first, first.exceeds kMinSupportedPathsPerReadRequest⟩ := by
    rw [visitRead, if_neg (by simp [hAll first mem_cons_self])]
    simp [replaceReadCandidate, held, candidateExceeds,
      exceeds]
  have hScan := foldl_visitRead_held
    (fun handler hMem => hAll handler (mem_cons_of_mem first hMem)) hDistinct hFirst
  obtain ⟨last, hLast, hHeld⟩ := Option.map_eq_some_iff.mp hScan
  rw [readCandidate, foldl_eq_foldl_filter fun _ _ => visitRead_skip, ← handlersOf, h,
    foldl_cons, hLast, ← hHeld]

theorem readCandidate_isChoice (h : engine.readCandidate fabric = some candidate) :
  IsChoice (exceeds kMinSupportedPathsPerReadRequest) youngestFirst
    (engine.handlersOf .read fabric) candidate := by
  cases hHandlers : engine.handlersOf .read fabric with
  | nil => simp [readCandidate_of_nil hHandlers] at h
  | cons first rest =>
    rw [readCandidate_of_cons hHandlers, Option.some.injEq] at h
    rw [← h]
    exact isChoice_foldl ⟨first, _⟩ rfl rest

def exceedsReadGuarantee (engine : InteractionModelEngine) (fabric : UInt8) : Bool :=
  decide ((engine.fabricUsage .read fabric).attributePaths >
      engine.guaranteedReadRequestsPerFabric * kMinSupportedPathsPerReadRequest) ||
    decide ((engine.fabricUsage .read fabric).eventPaths >
      engine.guaranteedReadRequestsPerFabric * kMinSupportedPathsPerReadRequest) ||
    decide ((engine.fabricUsage .read fabric).handlers > engine.guaranteedReadRequestsPerFabric)

theorem trimFabricForRead_eq (engine : InteractionModelEngine) (fabric : UInt8) :
  engine.trimFabricForRead fabric =
    if (engine.exceedsReadGuarantee fabric ||
        (decide (fabric = kUndefinedFabricIndex) && engine.fabricTableFull)) = true then
      (engine.readCandidate fabric).elim (engine, false)
        fun candidate => (engine.close candidate, true)
    else (engine, false) := by
  have hUsed : (engine.readHandlers.foldl (visitRead fabric) {}).used =
      engine.fabricUsage .read fabric := by
    rw [foldl_eq_foldl_filter fun _ _ => visitRead_skip, fabricUsage_eq]
    exact foldl_used (fun _ _ => visitRead_used) (fun _ h => (mem_handlersOf.mp h).2) _
  rw [trimFabricForRead, hUsed, ← readCandidate, ← exceedsReadGuarantee]
  cases engine.readCandidate fabric with
  | none => simp
  | some candidate => rfl

end Reads

theorem firstIsFair_of_not_exceeds (h : ∀ handler ∈ l, handler.exceeds limit ≠ true) :
  FirstIsFair limit l := by
  cases l with
  | nil => trivial
  | cons first rest => exact fun hFirst => absurd hFirst (h first mem_cons_self)

theorem closes_close (hMem : candidate ∈ engine.readHandlers) :
  Closes engine (engine.close candidate) handler ↔ handler = candidate := by
  constructor
  · rintro ⟨hBefore, hAfter⟩
    have hSame : handler.object = candidate.object := by
      simpa [close, hBefore] using hAfter
    exact inj_on_of_nodup_map engine.distinct hBefore hMem hSame
  · rintro rfl
    exact ⟨hMem, by simp [close]⟩

theorem not_closes_self (engine : InteractionModelEngine) (handler : ReadHandler) :
  ¬ Closes engine engine handler :=
  fun h => h.2 h.1

theorem closes_trimFabricForSubscriptions_iff {forceEvict : Bool} :
  Closes engine (engine.trimFabricForSubscriptions fabric forceEvict).1 handler ↔
    engine.fabricCount ≠ 0 ∧ (forceEvict || engine.exceedsSubscriptionShare fabric) = true ∧
      engine.subscriptionCandidate fabric = some handler := by
  rw [trimFabricForSubscriptions_eq]
  split
  · rename_i hTrim
    cases hCandidate : engine.subscriptionCandidate fabric with
    | none => simp [not_closes_self]
    | some candidate =>
      have hMem := (mem_handlersOf.mp (subscriptionCandidate_mem hCandidate)).1
      simp [closes_close hMem, hTrim.1, hTrim.2, eq_comm]
  · rename_i hTrim
    constructor
    · exact fun h => absurd h (not_closes_self engine handler)
    · exact fun h => absurd ⟨h.1, h.2.1⟩ hTrim

theorem closes_trimFabricForRead
  (h : Closes engine (engine.trimFabricForRead fabric).1 handler) :
  engine.readCandidate fabric = some handler := by
  rw [trimFabricForRead_eq] at h
  split at h
  · cases hCandidate : engine.readCandidate fabric with
    | none =>
      rw [hCandidate] at h
      exact absurd h (not_closes_self engine handler)
    | some candidate =>
      have hMem := (mem_handlersOf.mp (readCandidate_isChoice hCandidate).mem).1
      rw [hCandidate] at h
      rw [(closes_close hMem).mp h]
  · exact absurd h (not_closes_self engine handler)

/-- Trimming a fabric closes the right handler exactly where there is no fabric at all or the
first subscription of the fabric that the pool visits is fair: the oldest subscription, those
using more than the share of the paths first, and the youngest read, those using more paths
than a read is guaranteed first. -/
theorem evicted_isChoice_iff (engine : InteractionModelEngine) (fabric : UInt8)
    (forceEvict : Bool) :
    ((∀ handler, Closes engine (engine.trimFabricForSubscriptions fabric forceEvict).1 handler →
        IsChoice (ReadHandler.exceeds engine.perFabricPathCapacity)
          ReadHandler.mTransactionStartGeneration (engine.handlersOf .subscribe fabric) handler) ∧
      (∀ handler, Closes engine (engine.trimFabricForRead fabric).1 handler →
        IsChoice (ReadHandler.exceeds kMinSupportedPathsPerReadRequest) youngestFirst
          (engine.handlersOf .read fabric) handler)) ↔
      engine.fabricCount = 0 ∨
        FirstIsFair engine.perFabricPathCapacity (engine.handlersOf .subscribe fabric) := by
  have hReads : ∀ handler, Closes engine (engine.trimFabricForRead fabric).1 handler →
      IsChoice (ReadHandler.exceeds kMinSupportedPathsPerReadRequest) youngestFirst
        (engine.handlersOf .read fabric) handler :=
    fun _ h => readCandidate_isChoice (closes_trimFabricForRead h)
  rw [and_iff_left hReads]
  simp only [closes_trimFabricForSubscriptions_iff]
  by_cases hCount : engine.fabricCount = 0
  · simp [hCount]
  · rw [or_iff_right hCount]
    constructor
    · intro h
      by_cases hFirst : ∃ handler ∈ engine.handlersOf .subscribe fabric,
          handler.exceeds engine.perFabricPathCapacity = true
      · -- a subscription over the share is trimmed even when nothing forces it
        obtain ⟨handler, hMem, hExceeds⟩ := hFirst
        have hShare := exceedsSubscriptionShare_of_mem hMem hExceeds
        rw [← subscriptionCandidate_isChoice_iff]
        exact fun candidate hCandidate =>
          h candidate ⟨hCount, by rw [hShare, Bool.or_true], hCandidate⟩
      · exact firstIsFair_of_not_exceeds fun handler hMem hExceeds =>
          hFirst ⟨handler, hMem, hExceeds⟩
    · intro hFair candidate hCloses
      exact (subscriptionCandidate_isChoice_iff engine fabric).mpr hFair candidate hCloses.2.2

/-- Five fabrics share 45 paths, and one of them has two subscriptions with ten attribute paths
each, the older one visited first. -/
def twoLargeSubscriptions : InteractionModelEngine where
  config :=
    { allowUnlimited := false
      pathPoolCapacityForSubscriptions := 45
      readHandlerPoolCapacityForSubscriptions := 15
      pathPoolCapacityForReads := 45
      readHandlerPoolCapacityForReads := 5
      configMaxFabrics := 5
      sizeMax := 2 ^ 32 - 1 }
  fabricTable := [1, 2, 3, 4, 5]
  readHandlers := [⟨0, .subscribe, 1, 10, 0, 1⟩, ⟨1, .subscribe, 1, 10, 0, 2⟩]
  distinct := by decide

/-- The younger of the two is closed. -/
theorem evicted_not_oldest :
    ¬ ∀ (engine : InteractionModelEngine) (fabric : UInt8) (forceEvict : Bool)
      (handler : ReadHandler),
      Closes engine (engine.trimFabricForSubscriptions fabric forceEvict).1 handler →
        IsChoice (ReadHandler.exceeds engine.perFabricPathCapacity)
          ReadHandler.mTransactionStartGeneration (engine.handlersOf .subscribe fabric)
          handler := by
  intro h
  have hClosed : Closes twoLargeSubscriptions
      (twoLargeSubscriptions.trimFabricForSubscriptions 1 false).1
        ⟨1, .subscribe, 1, 10, 0, 2⟩ := by decide
  have hOldest := (h twoLargeSubscriptions 1 false _ hClosed).least
    ⟨0, .subscribe, 1, 10, 0, 1⟩ (by decide) (by decide)
  exact absurd hOldest (by decide)

end Chip.App.InteractionModelEngine
