import Chip.App.Eviction

/-! What a fabric may rely on when it asks for a subscription or a read. The eviction loops
end, and what they leave is enough as long as the shares of all fabrics fit the pools. -/
namespace Chip.App.InteractionModelEngine

open ReadHandler List

/-- The engine after some handlers were closed one by one, each of them one that `Allowed`
lets go in the state in which it is closed. -/
inductive Evictions (Allowed : InteractionModelEngine → ReadHandler → Prop) :
    InteractionModelEngine → InteractionModelEngine → Prop
  | none (engine) : Evictions Allowed engine engine
  | close {engine engine' handler} : handler ∈ engine.readHandlers → Allowed engine handler →
      Evictions Allowed (engine.close handler) engine' → Evictions Allowed engine engine'

/-- A state in which a request may come: the quota check is active, the pools meet the static
assertions, subscriptions belong to fabrics in the table, reads to these or to PASE sessions,
and all of them fit the capacities. -/
structure Supported (engine : InteractionModelEngine) : Prop where
  quotaChecked : engine.config.allowUnlimited = false
  asserts : engine.config.MeetsStaticAsserts
  fabricCount_pos : 0 < engine.fabricCount
  fabricCount_le : engine.fabricCount ≤ engine.config.configMaxFabrics
  fabrics_nodup : engine.fabricTable.Nodup
  undefined_not_mem : kUndefinedFabricIndex ∉ engine.fabricTable
  subscriber_mem : ∀ handler ∈ engine.readHandlers, handler.isType .subscribe = true →
    handler.accessingFabricIndex ∈ engine.fabricTable
  reader_mem : ∀ handler ∈ engine.readHandlers, handler.isType .read = true →
    handler.accessingFabricIndex ∈ kUndefinedFabricIndex :: engine.fabricTable
  attributePaths_le : ∀ type,
    (engine.countResourceUsage type).attributePaths ≤ engine.pathCap type
  eventPaths_le : ∀ type, (engine.countResourceUsage type).eventPaths ≤ engine.pathCap type
  handlers_le : ∀ type, (engine.countResourceUsage type).handlers ≤ engine.readHandlerCap type

/-- A subscription may be closed for the sake of `fabric` when it is the fabric's own, or its
fabric uses more than its share. -/
def MayCloseSubscription (fabric : UInt8) (engine : InteractionModelEngine)
  (handler : ReadHandler) : Prop :=
  handler.isType .subscribe = true ∧ (handler.accessingFabricIndex = fabric ∨
    engine.exceedsSubscriptionShare handler.accessingFabricIndex = true)

/-- A read may be closed for the sake of `fabric` when it is the fabric's own, or its fabric
uses more than its share, or it is one on a PASE session and the fabric table is full. -/
def MayCloseRead (fabric : UInt8) (engine : InteractionModelEngine) (handler : ReadHandler) :
  Prop :=
  handler.isType .read = true ∧ (handler.accessingFabricIndex = fabric ∨
    engine.exceedsReadGuarantee handler.accessingFabricIndex = true ∨
    (handler.accessingFabricIndex = kUndefinedFabricIndex ∧ engine.fabricTableFull = true))

/-- `EnsureResourceForSubscription` answers, rightly, and closes only what it may. -/
def SubscriptionGuarantee (engine : InteractionModelEngine) : Prop :=
  ∀ fabric ∈ engine.fabricTable, ∀ attributePaths eventPaths fuel,
    engine.readHandlers.length + 1 < fuel → ∃ engine' enough,
      engine.ensureResourceForSubscription fuel fabric attributePaths eventPaths =
        some (engine', .returned enough) ∧
      (enough = true → engine'.haveEnoughResources .subscribe attributePaths eventPaths = true) ∧
      (attributePaths ≤ kMinSupportedPathsPerSubscription →
        eventPaths ≤ kMinSupportedPathsPerSubscription → enough = true) ∧
      Evictions (MayCloseSubscription fabric) engine engine'

/-- `EnsureResourceForRead` answers, rightly, and closes only what it may. -/
def ReadGuarantee (engine : InteractionModelEngine) : Prop :=
  ∀ fabric ∈ kUndefinedFabricIndex :: engine.fabricTable, ∀ attributePaths eventPaths fuel,
    engine.readHandlers.length + 1 < fuel → ∃ engine' status,
      engine.ensureResourceForRead fuel fabric attributePaths eventPaths =
        some (engine', .returned status) ∧
      (status = .success →
        engine'.haveEnoughResources .read attributePaths eventPaths = true) ∧
      ((fabric = kUndefinedFabricIndex → engine.fabricTableFull = false) →
        engine.leavesGuarantee fabric attributePaths eventPaths = false → status = .success) ∧
      Evictions (MayCloseRead fabric) engine engine'

variable {engine engine' : InteractionModelEngine} {type : InteractionType} {fabric : UInt8}
  {handler : ReadHandler} {measure : ReadHandler → Nat}
  {Allowed : InteractionModelEngine → ReadHandler → Prop}

section Totals

def total (engine : InteractionModelEngine) (type : InteractionType)
  (measure : ReadHandler → Nat) : Nat :=
  ((engine.readHandlers.filter fun handler => handler.isType type).map measure).sum

/-- The sum of a figure over the handlers of one type in one fabric. -/
def fabricTotal (engine : InteractionModelEngine) (type : InteractionType) (fabric : UInt8)
  (measure : ReadHandler → Nat) : Nat :=
  ((engine.handlersOf type fabric).map measure).sum

theorem countResourceUsage_eq (engine : InteractionModelEngine) (type : InteractionType) :
  engine.countResourceUsage type =
    { attributePaths := engine.total type attributePathCount
      eventPaths := engine.total type eventPathCount
      handlers := engine.total type fun _ => 1 } := by
  have hFilter : engine.countResourceUsage type =
      (engine.readHandlers.filter fun handler => handler.isType type).foldl Usage.add {} := by
    rw [foldl_filter]
    rfl
  rw [hFilter, foldl_add]
  simp [total]

theorem fabricUsage_eq_fabricTotal (engine : InteractionModelEngine) (type : InteractionType)
  (fabric : UInt8) :
  engine.fabricUsage type fabric =
    { attributePaths := engine.fabricTotal type fabric attributePathCount
      eventPaths := engine.fabricTotal type fabric eventPathCount
      handlers := engine.fabricTotal type fabric fun _ => 1 } := by
  rw [fabricUsage_eq, foldl_add]
  simp [fabricTotal]

theorem sum_le_sum_classes {α κ : Type} [DecidableEq κ] (classify : α → κ) (figure : α → Nat)
  {keys : List κ} {l : List α} (h : ∀ a ∈ l, classify a ∈ keys) :
  (l.map figure).sum ≤
    (keys.map fun key => ((l.filter fun a => classify a = key).map figure).sum).sum := by
  induction l with
  | nil => simp
  | cons a l ih =>
    have hRest := ih fun b hb => h b (mem_cons_of_mem a hb)
    have hSplit : ∀ key, (((a :: l).filter fun b => classify b = key).map figure).sum =
        (if classify a = key then figure a else 0) +
          ((l.filter fun b => classify b = key).map figure).sum := by
      intro key
      by_cases hKey : classify a = key <;> simp [hKey]
    have hOwn : figure a ≤ (keys.map fun key => if classify a = key then figure a else 0).sum :=
      le_sum_of_mem (mem_map.mpr ⟨classify a, h a mem_cons_self, if_pos rfl⟩)
    simp only [hSplit, sum_map_add, map_cons, sum_cons]
    omega

theorem total_le {fabrics : List UInt8}
  (h : ∀ handler ∈ engine.readHandlers, handler.isType type = true →
    handler.accessingFabricIndex ∈ fabrics) (measure : ReadHandler → Nat) :
  engine.total type measure ≤
    (fabrics.map fun fabric => engine.fabricTotal type fabric measure).sum := by
  have hClasses := sum_le_sum_classes accessingFabricIndex measure
    (l := engine.readHandlers.filter fun handler => handler.isType type)
    fun handler hMem => h handler (mem_filter.mp hMem).1 (mem_filter.mp hMem).2
  simp only [filter_filter] at hClasses
  exact hClasses

theorem sum_add_le {fabrics : List UInt8} {used : UInt8 → Nat} {limit request : Nat}
  (hMem : fabric ∈ fabrics) (hOwn : used fabric + request ≤ limit)
  (hAll : ∀ other ∈ fabrics, used other ≤ limit) :
  (fabrics.map used).sum + request ≤ fabrics.length * limit := by
  induction fabrics with
  | nil => cases hMem
  | cons first rest ih =>
    have hSum : (rest.map used).sum ≤ rest.length * limit := by
      simpa using sum_le_card_nsmul (rest.map used) limit (by simp; grind)
    simp only [map_cons, sum_cons, length_cons, Nat.succ_mul]
    rcases mem_cons.mp hMem with rfl | hRest
    · omega
    · have hFirst := hAll first mem_cons_self
      have hTail := ih hRest fun other h => hAll other (mem_cons_of_mem first h)
      omega

theorem readHandlers_perm (hMem : handler ∈ engine.readHandlers) :
  engine.readHandlers.Perm (handler :: (engine.close handler).readHandlers) := by
  have hErase : (engine.close handler).readHandlers = engine.readHandlers.erase handler := by
    rw [engine.distinct.of_map.erase_eq_filter]
    apply filter_congr
    intro other hOther
    have hSame : other.object = handler.object ↔ other = handler :=
      ⟨inj_on_of_nodup_map engine.distinct hOther hMem, congrArg _⟩
    by_cases h : other = handler <;> simp [hSame, h]
  rw [hErase]
  exact perm_cons_erase hMem

theorem length_close (hMem : handler ∈ engine.readHandlers) :
  (engine.close handler).readHandlers.length + 1 = engine.readHandlers.length :=
  (readHandlers_perm hMem).length_eq.symm

theorem total_close_le (engine : InteractionModelEngine) (handler : ReadHandler) :
  (engine.close handler).total type measure ≤ engine.total type measure :=
  ((filter_sublist.filter _).map _).sum_le_sum fun _ _ => Nat.zero_le _

theorem fabricTotal_close_le (engine : InteractionModelEngine) (handler : ReadHandler) :
  (engine.close handler).fabricTotal type fabric measure ≤
    engine.fabricTotal type fabric measure :=
  ((filter_sublist.filter _).map _).sum_le_sum fun _ _ => Nat.zero_le _

end Totals

section Runs

section

variable (h : Evictions Allowed engine engine')
include h

theorem Evictions.trans {engine'' : InteractionModelEngine}
  (h' : Evictions Allowed engine' engine'') : Evictions Allowed engine engine'' := by
  induction h with
  | none => exact h'
  | close hMem hAllowed _ ih => exact .close hMem hAllowed (ih h')

theorem Evictions.config_eq :
  engine'.config = engine.config ∧ engine'.fabricTable = engine.fabricTable := by
  induction h with
  | none => exact ⟨rfl, rfl⟩
  | close _ _ _ ih => exact ih

theorem Evictions.total_le : engine'.total type measure ≤ engine.total type measure := by
  induction h with
  | none => exact le_rfl
  | close _ _ _ ih => exact ih.trans (total_close_le _ _)

theorem Evictions.fabricTotal_le :
  engine'.fabricTotal type fabric measure ≤ engine.fabricTotal type fabric measure := by
  induction h with
  | none => exact le_rfl
  | close _ _ _ ih => exact ih.trans (fabricTotal_close_le _ _)

theorem Evictions.length_le : engine'.readHandlers.length ≤ engine.readHandlers.length := by
  induction h with
  | none => exact le_rfl
  | close hMem _ _ ih => exact ih.trans (by have := length_close hMem; omega)

theorem Evictions.readHandlers_subset : engine'.readHandlers ⊆ engine.readHandlers := by
  induction h with
  | none => exact List.Subset.refl _
  | close _ _ _ ih => exact List.Subset.trans ih filter_sublist.subset

end

theorem Evictions.single (hMem : handler ∈ engine.readHandlers) (h : Allowed engine handler) :
  Evictions Allowed engine (engine.close handler) :=
  .close hMem h (.none _)

end Runs

section Subscriptions

variable {forceEvict : Bool} {enough : InteractionModelEngine → Bool}

theorem trimFabricForSubscriptions_cases (fabric : UInt8) (forceEvict : Bool)
  (hCount : 0 < engine.fabricCount) :
  (∃ handler ∈ engine.handlersOf .subscribe fabric,
    (forceEvict = true ∨ engine.exceedsSubscriptionShare fabric = true) ∧
    engine.trimFabricForSubscriptions fabric forceEvict = (engine.close handler, true)) ∨
  ((engine.handlersOf .subscribe fabric = [] ∨
      forceEvict = false ∧ engine.exceedsSubscriptionShare fabric = false) ∧
    engine.trimFabricForSubscriptions fabric forceEvict = (engine, false)) := by
  rw [trimFabricForSubscriptions_eq]
  split
  · rename_i hTrim
    cases hCandidate : engine.subscriptionCandidate fabric with
    | none =>
      refine .inr ⟨.inl ?_, rfl⟩
      cases hHandlers : engine.handlersOf .subscribe fabric with
      | nil => rfl
      | cons first rest => simp [subscriptionCandidate_of_cons hHandlers] at hCandidate
    | some candidate =>
      exact .inl ⟨candidate, subscriptionCandidate_mem hCandidate, by simpa using hTrim.2, rfl⟩
  · rename_i hTrim
    refine .inr ⟨.inr ?_, rfl⟩
    simpa [hCount.ne'] using hTrim

theorem not_exceedsSubscriptionShare_of_nil (h : engine.handlersOf .subscribe fabric = []) :
  engine.exceedsSubscriptionShare fabric = false := by
  simp [exceedsSubscriptionShare, fabricUsage_eq, h]

theorem exceedsSubscriptionShare_eq_false_iff :
  engine.exceedsSubscriptionShare fabric = false ↔
    engine.fabricTotal .subscribe fabric attributePathCount ≤
      engine.perFabricPathCapacity ∧
    engine.fabricTotal .subscribe fabric eventPathCount ≤
      engine.perFabricPathCapacity ∧
    engine.fabricTotal .subscribe fabric (fun _ => 1) ≤ engine.perFabricSubscriptionCapacity := by
  simp [exceedsSubscriptionShare, fabricUsage_eq_fabricTotal, and_assoc]

theorem Evictions.shares_eq (h : Evictions Allowed engine engine') :
  engine'.perFabricPathCapacity = engine.perFabricPathCapacity ∧
    engine'.perFabricSubscriptionCapacity = engine.perFabricSubscriptionCapacity := by
  obtain ⟨hConfig, hTable⟩ := h.config_eq
  simp only [perFabricPathCapacity, perFabricSubscriptionCapacity, fabricCount, hConfig, hTable,
    and_self]

theorem Evictions.exceedsSubscriptionShare (h : Evictions Allowed engine engine')
  (hShare : engine.exceedsSubscriptionShare fabric = false) :
  engine'.exceedsSubscriptionShare fabric = false := by
  obtain ⟨hPaths, hSubscriptions⟩ := h.shares_eq
  rw [exceedsSubscriptionShare_eq_false_iff] at hShare ⊢
  rw [hPaths, hSubscriptions]
  obtain ⟨hAttributes, hEvents, hHandlers⟩ := hShare
  exact ⟨h.fabricTotal_le.trans hAttributes, h.fabricTotal_le.trans hEvents,
    h.fabricTotal_le.trans hHandlers⟩

theorem mayClose_of_mem_handlersOf (own : UInt8)
  (hMem : handler ∈ engine.handlersOf .subscribe fabric)
  (h : fabric = own ∨ engine.exceedsSubscriptionShare fabric = true) :
  handler ∈ engine.readHandlers ∧ MayCloseSubscription own engine handler := by
  obtain ⟨hActive, hServes⟩ := mem_handlersOf.mp hMem
  simp only [servesFabric, Bool.and_eq_true, decide_eq_true_eq] at hServes
  obtain ⟨rfl, hType⟩ := hServes
  exact ⟨hActive, hType, h⟩

theorem trimSubscriptionsPass_true (fabrics : List UInt8) :
  trimSubscriptionsPass enough fabrics (engine, true) = (engine, true) := by
  induction fabrics with
  | nil => rfl
  | cons fabric fabrics ih =>
    rw [trimSubscriptionsPass]
    split
    · rfl
    · exact ih

theorem trimSubscriptionsPass_cases (enough : InteractionModelEngine → Bool) (own : UInt8)
  (hCount : 0 < engine.fabricCount)
  (fabrics : List UInt8) :
  (∃ handler ∈ engine.readHandlers, MayCloseSubscription own engine handler ∧
    trimSubscriptionsPass enough fabrics (engine, false) = (engine.close handler, true)) ∨
  ((enough engine = true ∨ ∀ fabric ∈ fabrics, engine.exceedsSubscriptionShare fabric = false) ∧
    trimSubscriptionsPass enough fabrics (engine, false) = (engine, false)) := by
  induction fabrics with
  | nil => exact .inr ⟨.inr (by simp), rfl⟩
  | cons fabric fabrics ih =>
    rw [trimSubscriptionsPass]
    cases hEnough : enough engine with
    | true => exact .inr ⟨.inl rfl, rfl⟩
    | false =>
      rw [if_neg (by simp), if_neg (by simp)]
      obtain ⟨handler, hMem, hShare, hTrim⟩ | ⟨hNone, hTrim⟩ :=
        trimFabricForSubscriptions_cases fabric false hCount
      · rw [hTrim, trimSubscriptionsPass_true]
        have hMay := mayClose_of_mem_handlersOf own hMem (.inr (by simpa using hShare))
        exact .inl ⟨handler, hMay.1, hMay.2, rfl⟩
      · have hWithin : engine.exceedsSubscriptionShare fabric = false :=
          hNone.elim not_exceedsSubscriptionShare_of_nil And.right
        rw [hTrim]
        simp only [hEnough, forall_mem_cons, hWithin, true_and] at ih ⊢
        exact ih

theorem trimSubscriptions_spec (enough : InteractionModelEngine → Bool) (own : UInt8) {fuel : Nat}
  (hCount : 0 < engine.fabricCount)
  (hFuel : engine.readHandlers.length < fuel) :
  ∃ engine', trimSubscriptions enough fuel engine = some engine' ∧
    Evictions (MayCloseSubscription own) engine engine' ∧
    (enough engine' = true ∨
      ∀ fabric ∈ engine'.fabricTable, engine'.exceedsSubscriptionShare fabric = false) := by
  induction fuel generalizing engine with
  | zero => simp at hFuel
  | succ fuel ih =>
    rw [trimSubscriptions]
    obtain ⟨handler, hMem, hMay, hPass⟩ | ⟨hDone, hPass⟩ :=
      trimSubscriptionsPass_cases enough own hCount engine.fabricTable
    · rw [hPass]
      have hLength := length_close hMem
      have hCount' : 0 < (engine.close handler).fabricCount := hCount
      obtain ⟨engine', hRun, hEvictions, hDone⟩ := ih hCount' (by omega)
      exact ⟨engine', hRun, .close hMem hMay hEvictions, hDone⟩
    · rw [hPass]
      exact ⟨engine, rfl, .none engine, hDone⟩

theorem evictOwnSubscriptions_spec (enough : InteractionModelEngine → Bool) (fabric : UInt8)
  {fuel : Nat} (hCount : 0 < engine.fabricCount)
  (hFuel : engine.readHandlers.length + 1 < fuel) :
  ∃ engine' didEvictHandler,
    evictOwnSubscriptions enough fabric fuel engine true = some (engine', didEvictHandler) ∧
    Evictions (MayCloseSubscription fabric) engine engine' ∧
    (enough engine' = true ∧ didEvictHandler = true ∨
      enough engine = false ∧ enough engine' = false ∧
        engine'.handlersOf .subscribe fabric = []) := by
  induction fuel generalizing engine with
  | zero => simp at hFuel
  | succ fuel ih =>
    rw [evictOwnSubscriptions]
    cases hEnough : enough engine with
    | true => exact ⟨engine, true, rfl, .none engine, .inl ⟨hEnough, rfl⟩⟩
    | false =>
      rw [if_pos (by simp)]
      obtain ⟨handler, hMem, -, hTrim⟩ | ⟨hNone, hTrim⟩ :=
        trimFabricForSubscriptions_cases fabric true hCount
      · rw [hTrim]
        have hMay := mayClose_of_mem_handlersOf fabric hMem (.inl rfl)
        have hLength := length_close hMay.1
        have hCount' : 0 < (engine.close handler).fabricCount := hCount
        obtain ⟨engine', did, hRun, hEvictions, hDone⟩ := ih hCount' (by omega)
        exact ⟨engine', did, hRun, .close hMay.1 hMay.2 hEvictions, hDone.imp_right (⟨rfl, ·.2⟩)⟩
      · rw [hTrim]
        have hNil : engine.handlersOf .subscribe fabric = [] := by simpa using hNone
        obtain ⟨fuel, rfl⟩ : ∃ n, fuel = n + 1 := ⟨fuel - 1, by omega⟩
        refine ⟨engine, false, ?_, .none engine, .inr ⟨rfl, hEnough, hNil⟩⟩
        simp [evictOwnSubscriptions]

theorem haveEnoughResources_iff {attributePaths eventPaths : Nat} :
  haveEnoughResources type attributePaths eventPaths engine = true ↔
    engine.total type attributePathCount + attributePaths ≤ engine.pathCap type ∧
    engine.total type eventPathCount + eventPaths ≤ engine.pathCap type ∧
    engine.total type (fun _ => 1) < engine.readHandlerCap type := by
  simp [haveEnoughResources, countResourceUsage_eq, and_assoc]

theorem asksTooMuch_eq_false_iff {limit attributePaths eventPaths : Nat} :
  engine.asksTooMuch type limit attributePaths eventPaths = false ↔
    (attributePaths ≤ limit ∨ engine.total type attributePathCount +
      attributePaths ≤ engine.pathCap type) ∧
    (eventPaths ≤ limit ∨ engine.total type eventPathCount +
      eventPaths ≤ engine.pathCap type) := by
  simp [asksTooMuch, countResourceUsage_eq, imp_iff_or_not, or_comm]

theorem haveEnoughResources_of_shares {attributePaths eventPaths : Nat}
  (hSupported : engine.Supported) (hEvictions : Evictions Allowed engine engine')
  (hMem : fabric ∈ engine.fabricTable)
  (hAsked : engine.asksTooMuch .subscribe kMinSupportedPathsPerSubscription attributePaths
    eventPaths = false)
  (hShares : ∀ fabric ∈ engine'.fabricTable, engine'.exceedsSubscriptionShare fabric = false)
  (hOwn : engine'.handlersOf .subscribe fabric = []) :
  haveEnoughResources .subscribe attributePaths eventPaths engine' = true := by
  obtain ⟨hConfig, hTable⟩ := hEvictions.config_eq
  have hCap : engine'.pathCap .subscribe = engine.config.pathPoolCapacityForSubscriptions := by
    simp [pathCap, hConfig, hSupported.quotaChecked]
  have hHandlerCap : engine'.readHandlerCap .subscribe =
      engine.config.readHandlerPoolCapacityForSubscriptions := by
    simp [readHandlerCap, hConfig, hSupported.quotaChecked]
  have hOwnTotal : ∀ measure, engine'.fabricTotal .subscribe fabric measure = 0 := by
    simp [fabricTotal, hOwn]
  have hSubscribers : ∀ handler ∈ engine'.readHandlers, handler.isType .subscribe = true →
      handler.accessingFabricIndex ∈ engine'.fabricTable := fun handler h hType =>
    hTable ▸ hSupported.subscriber_mem handler (hEvictions.readHandlers_subset h) hType
  -- the other fabrics leave one share of every figure
  have hRoom : ∀ measure share request,
      (∀ fabric ∈ engine'.fabricTable, engine'.fabricTotal .subscribe fabric measure ≤ share) →
      request ≤ share →
      engine'.total .subscribe measure + request ≤ engine.fabricCount * share := by
    intro measure share request hAll hRequest
    have hTotal := total_le hSubscribers measure
    have hOwnRoom : engine'.fabricTotal .subscribe fabric measure + request ≤ share := by
      rw [hOwnTotal, Nat.zero_add]
      exact hRequest
    have hSum := sum_add_le (hTable ▸ hMem) hOwnRoom hAll
    rw [hTable] at hTotal hSum
    exact (Nat.add_le_add_right hTotal request).trans hSum
  have hWithin := fun fabric h => exceedsSubscriptionShare_eq_false_iff.mp (hShares fabric h)
  rw [hEvictions.shares_eq.1, hEvictions.shares_eq.2] at hWithin
  have hAsserts := hSupported.asserts
  have hMax := hSupported.fabricCount_le
  have hPathShare : kMinSupportedPathsPerSubscription ≤ engine.perFabricPathCapacity := by
    rw [perFabricPathCapacity, Nat.le_div_iff_mul_le hSupported.fabricCount_pos]
    have hAssert := hAsserts.subscriptionPaths
    simp only [kMinSupportedPathsPerSubscription, kMinSupportedSubscriptionsPerFabric] at hAssert ⊢
    omega
  have hHandlerShare : 1 ≤ engine.perFabricSubscriptionCapacity := by
    rw [perFabricSubscriptionCapacity, Nat.le_div_iff_mul_le hSupported.fabricCount_pos]
    have hAssert := hAsserts.subscriptionHandlers
    simp only [kMinSupportedSubscriptionsPerFabric] at hAssert
    omega
  have hPaths : engine.fabricCount * engine.perFabricPathCapacity ≤
      engine.config.pathPoolCapacityForSubscriptions := Nat.mul_div_le _ _
  have hHandlers : engine.fabricCount * engine.perFabricSubscriptionCapacity ≤
      engine.config.readHandlerPoolCapacityForSubscriptions := Nat.mul_div_le _ _
  have hInitialCap : engine.pathCap .subscribe = engine.config.pathPoolCapacityForSubscriptions := by
    simp [pathCap, hSupported.quotaChecked]
  rw [asksTooMuch_eq_false_iff, hInitialCap] at hAsked
  rw [haveEnoughResources_iff, hCap, hHandlerCap]
  obtain ⟨hAttributes, hEvents⟩ := hAsked
  constructor
  · rcases hAttributes with hSmall | hFits
    · exact (hRoom _ _ _ (fun fabric h => (hWithin fabric h).1) (hSmall.trans hPathShare)).trans hPaths
    · exact (Nat.add_le_add_right hEvictions.total_le _).trans hFits
  constructor
  · rcases hEvents with hSmall | hFits
    · exact (hRoom _ _ _ (fun fabric h => (hWithin fabric h).2.1) (hSmall.trans hPathShare)).trans hPaths
    · exact (Nat.add_le_add_right hEvictions.total_le _).trans hFits
  · exact (hRoom _ _ _ (fun fabric h => (hWithin fabric h).2.2) hHandlerShare).trans hHandlers

theorem subscriptionGuarantee (hSupported : engine.Supported) : engine.SubscriptionGuarantee := by
  intro fabric hMem attributePaths eventPaths fuel hFuel
  rw [ensureResourceForSubscription]
  cases hEnough : haveEnoughResources .subscribe attributePaths eventPaths engine with
  | true => exact ⟨engine, true, rfl, fun _ => hEnough, fun _ _ => rfl, .none engine⟩
  | false =>
    cases hAsked : engine.asksTooMuch .subscribe kMinSupportedPathsPerSubscription attributePaths
        eventPaths with
    | true =>
      refine ⟨engine, false, rfl, fun h => (by cases h), ?_, .none engine⟩
      intro hAttributes hEvents
      simp [asksTooMuch, hAttributes.not_gt, hEvents.not_gt] at hAsked
    | false =>
      obtain ⟨engine₁, hTrim, hTrimmed, hShares⟩ :=
        trimSubscriptions_spec (haveEnoughResources .subscribe attributePaths eventPaths) fabric
          hSupported.fabricCount_pos (Nat.lt_of_succ_lt hFuel)
      have hTable := hTrimmed.config_eq.2
      have hCount : 0 < engine₁.fabricCount := by
        rw [fabricCount, hTable]
        exact hSupported.fabricCount_pos
      obtain ⟨engine₂, didEvictHandler, hEvict, hEvicted, hEnd⟩ :=
        evictOwnSubscriptions_spec (haveEnoughResources .subscribe attributePaths eventPaths)
          fabric hCount (Nat.lt_of_le_of_lt (Nat.succ_le_succ hTrimmed.length_le) hFuel)
      have hEvictions := hTrimmed.trans hEvicted
      rcases hEnd with ⟨hEnough, rfl⟩ | ⟨hShort₁, hShort, hNil⟩
      · refine ⟨engine₂, true, ?_, fun _ => hEnough, fun _ _ => rfl, hEvictions⟩
        simp [hTrim, hEvict]
      · -- with nothing of its own left the requester finds the others within their shares
        rcases hShares with hEnough₁ | hShares
        · simp [hEnough₁] at hShort₁
        · have hShares₂ : ∀ fabric ∈ engine₂.fabricTable,
              engine₂.exceedsSubscriptionShare fabric = false := fun other h =>
            hEvicted.exceedsSubscriptionShare (hShares other (hEvicted.config_eq.2 ▸ h))
          have hEnough := haveEnoughResources_of_shares hSupported hEvictions hMem hAsked
            hShares₂ hNil
          simp [hEnough] at hShort

end Subscriptions

section Reads

variable {enough : InteractionModelEngine → Bool}

theorem exceedsReadGuarantee_eq_false_iff :
  engine.exceedsReadGuarantee fabric = false ↔
    engine.fabricTotal .read fabric attributePathCount ≤
      engine.guaranteedReadRequestsPerFabric * kMinSupportedPathsPerReadRequest ∧
    engine.fabricTotal .read fabric eventPathCount ≤
      engine.guaranteedReadRequestsPerFabric * kMinSupportedPathsPerReadRequest ∧
    engine.fabricTotal .read fabric (fun _ => 1) ≤ engine.guaranteedReadRequestsPerFabric := by
  simp [exceedsReadGuarantee, fabricUsage_eq_fabricTotal, and_assoc]

theorem not_exceedsReadGuarantee_of_nil (h : engine.handlersOf .read fabric = []) :
  engine.exceedsReadGuarantee fabric = false := by
  simp [exceedsReadGuarantee, fabricUsage_eq, h]

def paseYields (engine : InteractionModelEngine) (fabric : UInt8) : Bool :=
  decide (fabric = kUndefinedFabricIndex) && engine.fabricTableFull

theorem readCandidate_eq_none (h : engine.readCandidate fabric = none) :
  engine.handlersOf .read fabric = [] := by
  cases hHandlers : engine.handlersOf .read fabric with
  | nil => rfl
  | cons first rest => simp [readCandidate_of_cons hHandlers] at h

theorem trimFabricForRead_cases (own : UInt8) (engine : InteractionModelEngine) (fabric : UInt8) :
  (∃ handler ∈ engine.readHandlers, MayCloseRead own engine handler ∧
    engine.trimFabricForRead fabric = (engine.close handler, true)) ∨
  (engine.exceedsReadGuarantee fabric = false ∧
    (engine.paseYields fabric = true → engine.handlersOf .read fabric = []) ∧
    engine.trimFabricForRead fabric = (engine, false)) := by
  rw [trimFabricForRead_eq, ← paseYields]
  split
  · rename_i hTrim
    cases hCandidate : engine.readCandidate fabric with
    | none =>
      have hNil := readCandidate_eq_none hCandidate
      exact .inr ⟨not_exceedsReadGuarantee_of_nil hNil, fun _ => hNil, rfl⟩
    | some candidate =>
      obtain ⟨hActive, hServes⟩ := mem_handlersOf.mp (readCandidate_isChoice hCandidate).mem
      simp only [servesFabric, Bool.and_eq_true, decide_eq_true_eq] at hServes
      obtain ⟨rfl, hType⟩ := hServes
      refine .inl ⟨candidate, hActive, ⟨hType, .inr ?_⟩, rfl⟩
      simpa [paseYields] using hTrim
  · rename_i hTrim
    rw [Bool.or_eq_true, not_or, Bool.not_eq_true, Bool.not_eq_true] at hTrim
    exact .inr ⟨hTrim.1, fun h => absurd h (by simp [hTrim.2]), rfl⟩

theorem trimReadsPass_true (fabrics : List UInt8) :
  trimReadsPass enough fabrics (engine, true) = (engine, true) := by
  induction fabrics with
  | nil => rfl
  | cons fabric fabrics ih =>
    rw [trimReadsPass]
    simp only [if_true]
    split
    · rfl
    · exact ih

theorem trimReadsPass_cases (own : UInt8) (hShort : enough engine = false)
  (fabrics : List UInt8) :
  (∃ handler ∈ engine.readHandlers, MayCloseRead own engine handler ∧
    trimReadsPass enough fabrics (engine, false) = (engine.close handler, true)) ∨
  ((∀ fabric ∈ fabrics, engine.exceedsReadGuarantee fabric = false) ∧
    trimReadsPass enough fabrics (engine, false) = (engine, false)) := by
  induction fabrics with
  | nil => exact .inr ⟨by simp, rfl⟩
  | cons fabric fabrics ih =>
    rw [trimReadsPass]
    simp only [Bool.false_eq_true, if_false]
    obtain ⟨handler, hMem, hMay, hTrim⟩ | ⟨hWithin, -, hTrim⟩ :=
      trimFabricForRead_cases own engine fabric
    · rw [hTrim, trimReadsPass_true, ite_self]
      exact .inl ⟨handler, hMem, hMay, rfl⟩
    · rw [hTrim]
      simp only [hShort, Bool.false_eq_true, if_false, forall_mem_cons, hWithin, true_and]
      exact ih

/-- The state in which no fabric, and no PASE session, has a read that may be closed. -/
structure ReadsWithinGuarantee (engine : InteractionModelEngine) : Prop where
  within : ∀ fabric ∈ kUndefinedFabricIndex :: engine.fabricTable,
    engine.exceedsReadGuarantee fabric = false
  pase_nil : engine.fabricTableFull = true → engine.handlersOf .read kUndefinedFabricIndex = []

theorem trimReads_spec (enough : InteractionModelEngine → Bool) (own : UInt8) {fuel : Nat}
  (hFuel : engine.readHandlers.length < fuel) :
  ∃ engine', trimReads enough fuel engine = some engine' ∧
    Evictions (MayCloseRead own) engine engine' ∧
    (enough engine' = true ∨ engine'.ReadsWithinGuarantee) := by
  induction fuel generalizing engine with
  | zero => simp at hFuel
  | succ fuel ih =>
    rw [trimReads]
    obtain ⟨handler, hMem, hMay, hTrim⟩ | ⟨hWithin, hPase, hTrim⟩ :=
      trimFabricForRead_cases own engine kUndefinedFabricIndex
    · -- a read on a PASE session was closed, and the pass closes nothing more
      have hLength : (engine.close handler).readHandlers.length < fuel := by
        have := length_close hMem
        omega
      obtain ⟨engine', hRun, hEvictions, hDone⟩ := ih hLength
      rw [hTrim, trimReadsPass_true]
      cases hEnough : enough (engine.close handler) with
      | true => exact ⟨_, rfl, .single hMem hMay, .inl hEnough⟩
      | false =>
        refine ⟨engine', ?_, .close hMem hMay hEvictions, hDone⟩
        simpa using hRun
    · rw [hTrim]
      cases hEnough : enough engine with
      | true => exact ⟨engine, rfl, .none engine, .inl hEnough⟩
      | false =>
        rw [if_neg (by simp), if_neg (by simp)]
        obtain ⟨handler, hMem, hMay, hPass⟩ | ⟨hAll, hPass⟩ :=
          trimReadsPass_cases own hEnough engine.fabricTable
        · have hLength : (engine.close handler).readHandlers.length < fuel := by
            have := length_close hMem
            omega
          obtain ⟨engine', hRun, hEvictions, hDone⟩ := ih hLength
          rw [hPass]
          exact ⟨engine', hRun, .close hMem hMay hEvictions, hDone⟩
        · rw [hPass]
          refine ⟨engine, rfl, .none engine, .inr ⟨?_, ?_⟩⟩
          · simpa [hWithin] using hAll
          · intro hFull
            exact hPase (by simp [paseYields, hFull])

theorem leavesGuarantee_eq_false_iff {attributePaths eventPaths : Nat} :
  engine.leavesGuarantee fabric attributePaths eventPaths = false ↔
    engine.fabricTotal .read fabric attributePathCount + attributePaths ≤
      kMinSupportedPathsPerReadRequest * engine.guaranteedReadRequestsPerFabric ∧
    engine.fabricTotal .read fabric eventPathCount + eventPaths ≤
      kMinSupportedPathsPerReadRequest * engine.guaranteedReadRequestsPerFabric ∧
    engine.fabricTotal .read fabric (fun _ => 1) < engine.guaranteedReadRequestsPerFabric := by
  simp [leavesGuarantee, fabricUsage_eq_fabricTotal, and_assoc]

theorem exists_readers (hSupported : engine.Supported) (hEvictions : Evictions Allowed engine engine')
  (hMem : fabric ∈ kUndefinedFabricIndex :: engine.fabricTable)
  (hPase : fabric = kUndefinedFabricIndex → engine.fabricTableFull = false)
  (hWithin : engine'.ReadsWithinGuarantee) :
  ∃ readers : List UInt8, fabric ∈ readers ∧ readers.length ≤ engine.config.configMaxFabrics ∧
    (∀ handler ∈ engine'.readHandlers, handler.isType .read = true →
      handler.accessingFabricIndex ∈ readers) ∧
    ∀ other ∈ readers, engine'.exceedsReadGuarantee other = false := by
  obtain ⟨hConfig, hTable⟩ := hEvictions.config_eq
  have hLe := hSupported.fabricCount_le
  have hReaders : ∀ handler ∈ engine'.readHandlers, handler.isType .read = true →
      handler.accessingFabricIndex ∈ kUndefinedFabricIndex :: engine.fabricTable :=
    fun handler h => hSupported.reader_mem handler (hEvictions.readHandlers_subset h)
  have hAll := hTable ▸ hWithin.within
  cases hFull : engine.fabricTableFull with
  | false =>
    have hLt : engine.fabricCount ≠ engine.config.configMaxFabrics := by
      simpa [fabricTableFull] using hFull
    rw [fabricCount] at hLe hLt
    exact ⟨_, hMem, by simp; omega, hReaders, hAll⟩
  | true =>
    -- the reads on PASE sessions are gone, and the request is not one on a PASE session
    have hNil : engine'.handlersOf .read kUndefinedFabricIndex = [] := by
      apply hWithin.pase_nil
      rw [← hFull, fabricTableFull, fabricTableFull, fabricCount, fabricCount, hConfig, hTable]
    refine ⟨engine.fabricTable, ?_, hLe, ?_, fun other h => hAll other (mem_cons_of_mem _ h)⟩
    · rcases mem_cons.mp hMem with h | h
      · simp [hPase h] at hFull
      · exact h
    · intro handler h hType
      rcases mem_cons.mp (hReaders handler h hType) with hUndefined | hListed
      · have hIn : handler ∈ engine'.handlersOf .read kUndefinedFabricIndex :=
          mem_handlersOf.mpr ⟨h, by simp [servesFabric, hUndefined, hType]⟩
        simp [hNil] at hIn
      · exact hListed

section

variable (hSupported : engine.Supported)
  (hOne : engine.config.readHandlerPoolCapacityForReads / engine.config.configMaxFabrics = 1)
include hSupported hOne

theorem haveEnoughResources_of_guarantee {attributePaths eventPaths : Nat}
  (hEvictions : Evictions Allowed engine engine')
  (hMem : fabric ∈ kUndefinedFabricIndex :: engine.fabricTable)
  (hPase : fabric = kUndefinedFabricIndex → engine.fabricTableFull = false)
  (hKeeps : engine.leavesGuarantee fabric attributePaths eventPaths = false)
  (hWithin : engine'.ReadsWithinGuarantee) :
  haveEnoughResources .read attributePaths eventPaths engine' = true := by
  have hConfig := hEvictions.config_eq.1
  obtain ⟨readers, hOwn, hLength, hReaders, hAll⟩ :=
    exists_readers hSupported hEvictions hMem hPase hWithin
  have hGuarantee : engine.guaranteedReadRequestsPerFabric = 1 := hOne
  have hGuarantee' : engine'.guaranteedReadRequestsPerFabric = 1 := by
    rw [guaranteedReadRequestsPerFabric, hConfig]
    exact hOne
  have hRoom : ∀ measure limit request,
      (∀ other ∈ readers, engine'.fabricTotal .read other measure ≤ limit) →
      engine.fabricTotal .read fabric measure + request ≤ limit →
      engine'.total .read measure + request ≤ engine.config.configMaxFabrics * limit := by
    intro measure limit request hOthers hRequest
    have hOwnRoom : engine'.fabricTotal .read fabric measure + request ≤ limit :=
      (Nat.add_le_add_right hEvictions.fabricTotal_le request).trans hRequest
    have hSum := sum_add_le hOwn hOwnRoom hOthers
    have hTotal := total_le hReaders measure
    exact (Nat.add_le_add_right hTotal request).trans
      (hSum.trans (Nat.mul_le_mul_right limit hLength))
  have hOthers := fun other h => exceedsReadGuarantee_eq_false_iff.mp (hAll other h)
  have hPaths := hSupported.asserts.readPaths
  have hHandlers := hSupported.asserts.readHandlers
  simp only [hGuarantee', Nat.one_mul] at hOthers
  rw [leavesGuarantee_eq_false_iff, hGuarantee, Nat.mul_one] at hKeeps
  rw [haveEnoughResources_iff, pathCap, readHandlerCap, hConfig, hSupported.quotaChecked]
  simp only [Bool.false_eq_true, if_false]
  rw [kMinSupportedReadRequestsPerFabric, Nat.one_mul] at hPaths
  rw [kMinSupportedReadRequestsPerFabric] at hHandlers
  obtain ⟨hAttributes, hEvents, hReads⟩ := hKeeps
  exact ⟨(hRoom _ _ _ (fun other h => (hOthers other h).1) hAttributes).trans hPaths,
    (hRoom _ _ _ (fun other h => (hOthers other h).2.1) hEvents).trans hPaths,
    (hRoom _ _ 1 (fun other h => (hOthers other h).2.2) hReads).trans hHandlers⟩

theorem readGuarantee : engine.ReadGuarantee := by
  intro fabric hMem attributePaths eventPaths fuel hFuel
  rw [ensureResourceForRead]
  cases hEnough : haveEnoughResources .read attributePaths eventPaths engine with
  | true => exact ⟨engine, .success, rfl, fun _ => hEnough, fun _ _ => rfl, .none engine⟩
  | false =>
    rw [if_neg (by simp)]
    split
    · -- more than nine paths of a kind never keep within the guarantee
      rename_i hAsked
      refine ⟨engine, .pathsExhausted, rfl, fun h => (by cases h), ?_, .none engine⟩
      intro _ hKeeps
      have hGuarantee : engine.guaranteedReadRequestsPerFabric = 1 := hOne
      rw [leavesGuarantee_eq_false_iff, hGuarantee, Nat.mul_one] at hKeeps
      have hFits : engine.asksTooMuch .read kMinSupportedPathsPerReadRequest attributePaths
          eventPaths = false := asksTooMuch_eq_false_iff.mpr
        ⟨.inl (Nat.le_of_add_left_le hKeeps.1), .inl (Nat.le_of_add_left_le hKeeps.2.1)⟩
      simp [hFits] at hAsked
    split
    · rename_i hPase
      refine ⟨engine, .busy, rfl, fun h => (by cases h), ?_, .none engine⟩
      intro hNotFull
      simp only [Bool.and_eq_true, decide_eq_true_eq] at hPase
      simp [hNotFull hPase.2] at hPase
    · rename_i hPase
      have hNotFull : fabric = kUndefinedFabricIndex → engine.fabricTableFull = false := by
        simpa [imp_not_comm] using hPase
      split
      · rename_i hLeaves
        exact ⟨engine, .busy, rfl, fun h => (by cases h), fun _ h => by simp [h] at hLeaves,
          .none engine⟩
      · rename_i hLeaves
        have hKeeps : engine.leavesGuarantee fabric attributePaths eventPaths = false := by
          simpa using hLeaves
        obtain ⟨engine', hTrim, hEvictions, hDone⟩ := trimReads_spec
          (haveEnoughResources .read attributePaths eventPaths) fabric
          (Nat.lt_of_succ_lt hFuel)
        have hEnough' : haveEnoughResources .read attributePaths eventPaths engine' = true :=
          hDone.elim id (haveEnoughResources_of_guarantee hSupported hOne hEvictions hMem
            hNotFull hKeeps)
        refine ⟨engine', .success, ?_, fun _ => hEnough', fun _ _ => rfl, hEvictions⟩
        simp [hTrim, hEnough']

end

end Reads

/-- One fabric, and a read on a PASE session that takes all the paths there are. -/
def paseTakesAll (config : EngineConfig) : InteractionModelEngine where
  config := config
  fabricTable := [1]
  readHandlers := [⟨0, .read, kUndefinedFabricIndex, config.pathPoolCapacityForReads, 0, 0⟩]
  distinct := by simp

theorem paseTakesAll_supported {config : EngineConfig} (hQuota : config.allowUnlimited = false)
  (hFabrics : 0 < config.configMaxFabrics) (hAsserts : config.MeetsStaticAsserts) :
  (paseTakesAll config).Supported where
  quotaChecked := hQuota
  asserts := hAsserts
  fabricCount_pos := Nat.one_pos
  fabricCount_le := hFabrics
  fabrics_nodup := by simp [paseTakesAll]
  undefined_not_mem := by simp [paseTakesAll, kUndefinedFabricIndex]
  subscriber_mem := by simp [paseTakesAll, isType]
  reader_mem := by simp [paseTakesAll]
  attributePaths_le := by
    intro type
    cases type <;>
      simp [countResourceUsage, paseTakesAll, isType, Usage.add, pathCap, hQuota]
  eventPaths_le := by
    intro type
    cases type <;> simp [countResourceUsage, paseTakesAll, isType, Usage.add]
  handlers_le := by
    intro type
    have hHandlers := hAsserts.readHandlers
    rw [kMinSupportedReadRequestsPerFabric, Nat.mul_one] at hHandlers
    cases type with
    | subscribe => simp [countResourceUsage, paseTakesAll, isType]
    | read =>
      have hOne : 1 ≤ config.readHandlerPoolCapacityForReads := hFabrics.trans_le hHandlers
      simpa [countResourceUsage, paseTakesAll, isType, Usage.add, readHandlerCap,
        hQuota] using hOne

theorem not_readGuarantee {config : EngineConfig} (hQuota : config.allowUnlimited = false)
  (hMore : 2 ≤ config.readHandlerPoolCapacityForReads / config.configMaxFabrics) :
  ¬ (paseTakesAll config).ReadGuarantee := by
  intro h
  obtain ⟨engine', status, hAnswer, -, hSuccess, -⟩ := h 1 (by simp [paseTakesAll]) 10 0 3
    (by simp [paseTakesAll])
  have hTotal : (paseTakesAll config).countResourceUsage .read =
      ⟨config.pathPoolCapacityForReads, 0, 1⟩ := by
    simp [countResourceUsage, paseTakesAll, isType, Usage.add]
  have hCap : (paseTakesAll config).pathCap .read = config.pathPoolCapacityForReads := by
    simp [pathCap, paseTakesAll, hQuota]
  have hRefused : (paseTakesAll config).ensureResourceForRead 3 1 10 0 =
      some (paseTakesAll config, .returned .pathsExhausted) := by
    rw [ensureResourceForRead, if_neg (by simp [haveEnoughResources, hTotal, hCap]),
      if_pos (by simp [asksTooMuch, hTotal, hCap, kMinSupportedPathsPerReadRequest])]
  have hOwn : (paseTakesAll config).fabricUsage .read 1 = ⟨0, 0, 0⟩ := by
    simp [fabricUsage, paseTakesAll, servesFabric, kUndefinedFabricIndex]
  have hKeeps : (paseTakesAll config).leavesGuarantee 1 10 0 = false := by
    have hGuarantee : 2 ≤ (paseTakesAll config).guaranteedReadRequestsPerFabric := hMore
    simp [leavesGuarantee, hOwn, kMinSupportedPathsPerReadRequest]
    omega
  have hStatus := hSuccess (fun hUndefined => absurd hUndefined (by decide)) hKeeps
  rw [hRefused, hStatus] at hAnswer
  cases hAnswer

/-- The engine keeps what it guarantees in every state exactly where the pool holds one
guaranteed read per fabric, as it does by default. -/
theorem guarantees_iff (config : EngineConfig) (hQuota : config.allowUnlimited = false)
    (hFabrics : 0 < config.configMaxFabrics) (hAsserts : config.MeetsStaticAsserts) :
    (∀ engine : InteractionModelEngine, engine.config = config → engine.Supported →
      engine.SubscriptionGuarantee ∧ engine.ReadGuarantee) ↔
      config.readHandlerPoolCapacityForReads / config.configMaxFabrics = 1 := by
  constructor
  · intro h
    have hRead := (h (paseTakesAll config) rfl
      (paseTakesAll_supported hQuota hFabrics hAsserts)).2
    have hOne : 1 ≤ config.readHandlerPoolCapacityForReads / config.configMaxFabrics := by
      rw [Nat.le_div_iff_mul_le hFabrics]
      have hHandlers := hAsserts.readHandlers
      rw [kMinSupportedReadRequestsPerFabric] at hHandlers
      omega
    by_contra hNotOne
    exact not_readGuarantee hQuota (by omega) hRead
  · rintro hOne engine rfl hSupported
    exact ⟨subscriptionGuarantee hSupported, readGuarantee hSupported hOne⟩

/-- Five fabrics, 45 paths and as many read handlers as asked for. -/
def fiveFabrics (readHandlers : Nat) : EngineConfig where
  allowUnlimited := false
  pathPoolCapacityForSubscriptions := 45
  readHandlerPoolCapacityForSubscriptions := 15
  pathPoolCapacityForReads := 45
  readHandlerPoolCapacityForReads := readHandlers
  configMaxFabrics := 5
  sizeMax := 2 ^ 32 - 1

/-- Five fabrics that share five read handlers. -/
theorem guarantees_iff_fiveFabrics :
    (∀ engine : InteractionModelEngine, engine.config = fiveFabrics 5 → engine.Supported →
      engine.SubscriptionGuarantee ∧ engine.ReadGuarantee) ↔
      (fiveFabrics 5).readHandlerPoolCapacityForReads / (fiveFabrics 5).configMaxFabrics = 1 :=
  guarantees_iff (fiveFabrics 5) rfl (by decide) ⟨by decide, by decide, by decide, by decide⟩

/-- With ten read handlers, each of the five fabrics has a read of nine paths, within the two
reads and eighteen paths guaranteed to it, and no path is left. -/
def nothingLeft : InteractionModelEngine where
  config := fiveFabrics 10
  fabricTable := [1, 2, 3, 4, 5]
  readHandlers := [⟨0, .read, 1, 9, 0, 0⟩, ⟨1, .read, 2, 9, 0, 1⟩, ⟨2, .read, 3, 9, 0, 2⟩,
    ⟨3, .read, 4, 9, 0, 3⟩, ⟨4, .read, 5, 9, 0, 4⟩]
  distinct := by decide

/-- A second read of nine paths aborts the process. -/
theorem not_guarantees :
    ¬ ∀ engine : InteractionModelEngine, engine.Supported → engine.ReadGuarantee := by
  intro h
  have hSupported : nothingLeft.Supported := by
    constructor
    case attributePaths_le => intro type; cases type <;> decide
    case eventPaths_le => intro type; cases type <;> decide
    case handlers_le => intro type; cases type <;> decide
    case asserts => exact ⟨by decide, by decide, by decide, by decide⟩
    all_goals decide
  obtain ⟨engine', status, hAnswer, -⟩ := h nothingLeft hSupported 1 (by decide) 9 0 7 (by decide)
  have hDied : (nothingLeft.ensureResourceForRead 7 1 9 0).map Prod.snd = some .died := by decide
  rw [hAnswer] at hDied
  cases hDied

end Chip.App.InteractionModelEngine
