import Mathlib.Algebra.GroupWithZero.Nat
import Mathlib.Data.List.Basic

/-! How the interaction model engine shares its read handlers and path objects among the
fabrics (`InteractionModelEngine.cpp`): the two functions that close one handler of a fabric,
and the two that make room for an incoming request by calling them. -/
namespace Chip.App

inductive InteractionType where
  | read
  | subscribe
  deriving DecidableEq

/-- What the engine looks at in a `ReadHandler`. The field `object` says which object of the
pool it is, so that comparing it compares the pointers. -/
structure ReadHandler where
  object : Nat
  mInteractionType : InteractionType
  accessingFabricIndex : UInt8
  attributePathCount : Nat
  eventPathCount : Nat
  mTransactionStartGeneration : Nat
  deriving DecidableEq

def kUndefinedFabricIndex : UInt8 := 0
def kMinSupportedSubscriptionsPerFabric : Nat := 3
def kMinSupportedPathsPerSubscription : Nat := 3
def kMinSupportedPathsPerReadRequest : Nat := 9
def kMinSupportedReadRequestsPerFabric : Nat := 1

namespace ReadHandler

def isType (handler : ReadHandler) (type : InteractionType) : Bool :=
  handler.mInteractionType = type

/-- Is this a handler of `fabric` doing an interaction of type `type`? -/
def servesFabric (type : InteractionType) (fabric : UInt8) (handler : ReadHandler) : Bool :=
  handler.accessingFabricIndex = fabric && handler.isType type

/-- Does the handler use more than `limit` attribute paths or event paths? -/
def exceeds (limit : Nat) (handler : ReadHandler) : Bool :=
  decide (handler.attributePathCount > limit) || decide (handler.eventPathCount > limit)

end ReadHandler

structure Usage where
  attributePaths : Nat := 0
  eventPaths : Nat := 0
  handlers : Nat := 0

def Usage.add (usage : Usage) (handler : ReadHandler) : Usage :=
  { attributePaths := usage.attributePaths + handler.attributePathCount
    eventPaths := usage.eventPaths + handler.eventPathCount
    handlers := usage.handlers + 1 }

/-- The build's pool sizes, as the getters of the engine return them. `allowUnlimited` is set
where the pools are on the heap and the quota check is not forced. -/
structure EngineConfig where
  allowUnlimited : Bool
  pathPoolCapacityForSubscriptions : Nat
  readHandlerPoolCapacityForSubscriptions : Nat
  pathPoolCapacityForReads : Nat
  readHandlerPoolCapacityForReads : Nat
  configMaxFabrics : Nat
  sizeMax : Nat

structure EngineConfig.MeetsStaticAsserts (config : EngineConfig) : Prop where
  subscriptionPaths : config.configMaxFabrics *
    (kMinSupportedPathsPerSubscription * kMinSupportedSubscriptionsPerFabric) ≤
      config.pathPoolCapacityForSubscriptions
  readPaths : config.configMaxFabrics *
    (kMinSupportedReadRequestsPerFabric * kMinSupportedPathsPerReadRequest) ≤
      config.pathPoolCapacityForReads
  subscriptionHandlers : config.configMaxFabrics * kMinSupportedSubscriptionsPerFabric ≤
    config.readHandlerPoolCapacityForSubscriptions
  readHandlers : config.configMaxFabrics * kMinSupportedReadRequestsPerFabric ≤
    config.readHandlerPoolCapacityForReads

/-- The engine: the indices of the fabric table in its own order, and the active objects of
the read handler pool in the order the pool visits them. -/
structure InteractionModelEngine where
  config : EngineConfig
  fabricTable : List UInt8
  readHandlers : List ReadHandler
  distinct : (readHandlers.map ReadHandler.object).Nodup

namespace InteractionModelEngine

variable (engine : InteractionModelEngine)

def fabricCount : Nat := engine.fabricTable.length

/-- `ReadHandler::Close`, which gives the object back to the pool. -/
def close (handler : ReadHandler) : InteractionModelEngine where
  config := engine.config
  fabricTable := engine.fabricTable
  readHandlers := engine.readHandlers.filter fun other => other.object ≠ handler.object
  distinct := engine.distinct.sublist (List.filter_sublist.map _)

/-- The local variables of the pass that picks a handler to close. -/
structure EvictionScan where
  used : Usage := {}
  candidate : Option ReadHandler := none
  candidateAttributePathsUsed : Nat := 0
  candidateEventPathsUsed : Nat := 0

/-- The comparisons with the figures remembered for the candidate. -/
def EvictionScan.candidateExceeds (scan : EvictionScan) (limit : Nat) : Bool :=
  decide (scan.candidateAttributePathsUsed > limit) || decide (scan.candidateEventPathsUsed > limit)

/-- The body of the pass of `TrimFabricForSubscriptions`. Two of the three assignments to the
candidate do not remember its figures. -/
def visitSubscription (fabric : UInt8) (perFabricPathCapacity : Nat) (scan : EvictionScan)
  (handler : ReadHandler) : EvictionScan :=
  if handler.servesFabric .subscribe fabric = false then scan
  else
    let used := scan.used.add handler
    match scan.candidate with
    | none => { scan with used, candidate := some handler }
    | some candidate =>
      if handler.exceeds perFabricPathCapacity &&
          (decide (scan.candidateAttributePathsUsed ≤ perFabricPathCapacity) &&
            decide (scan.candidateEventPathsUsed ≤ perFabricPathCapacity)) then
        { used
          candidate := some handler
          candidateAttributePathsUsed := handler.attributePathCount
          candidateEventPathsUsed := handler.eventPathCount }
      else if decide (handler.mTransactionStartGeneration < candidate.mTransactionStartGeneration) &&
          (handler.exceeds perFabricPathCapacity ==
            scan.candidateExceeds perFabricPathCapacity) then
        { scan with used, candidate := some handler }
      else { scan with used }

def perFabricPathCapacity : Nat :=
  engine.config.pathPoolCapacityForSubscriptions / engine.fabricCount

def perFabricSubscriptionCapacity : Nat :=
  engine.config.readHandlerPoolCapacityForSubscriptions / engine.fabricCount

/-- `TrimFabricForSubscriptions`: the engine afterwards and whether a handler was closed. -/
def trimFabricForSubscriptions (fabric : UInt8) (forceEvict : Bool) :
  InteractionModelEngine × Bool :=
  if engine.fabricCount = 0 then (engine, false)
  else
    let scan := engine.readHandlers.foldl
      (visitSubscription fabric engine.perFabricPathCapacity) {}
    match scan.candidate with
    | none => (engine, false)
    | some candidate =>
      if forceEvict || decide (scan.used.attributePaths > engine.perFabricPathCapacity) ||
          decide (scan.used.eventPaths > engine.perFabricPathCapacity) ||
          decide (scan.used.handlers > engine.perFabricSubscriptionCapacity) then
        (engine.close candidate, true)
      else (engine, false)

def guaranteedReadRequestsPerFabric : Nat :=
  engine.config.readHandlerPoolCapacityForReads / engine.config.configMaxFabrics

/-- The replacement rules in the pass of `TrimFabricForRead`, up to where it remembers the
figures of the candidate. -/
def replaceReadCandidate (scan : EvictionScan) (handler : ReadHandler) : Option ReadHandler :=
  match scan.candidate with
  | none => some handler
  | some candidate =>
    if handler.exceeds kMinSupportedPathsPerReadRequest &&
        (decide (scan.candidateAttributePathsUsed ≤ kMinSupportedPathsPerReadRequest) &&
          decide (scan.candidateEventPathsUsed ≤ kMinSupportedPathsPerReadRequest)) then
      some handler
    else if decide (candidate.mTransactionStartGeneration < handler.mTransactionStartGeneration) &&
        (handler.exceeds kMinSupportedPathsPerReadRequest ==
          scan.candidateExceeds kMinSupportedPathsPerReadRequest) then
      some handler
    else some candidate

/-- The body of the pass of `TrimFabricForRead`. -/
def visitRead (fabric : UInt8) (scan : EvictionScan) (handler : ReadHandler) : EvictionScan :=
  if handler.servesFabric .read fabric = false then scan
  else
    let used := scan.used.add handler
    let candidate := replaceReadCandidate scan handler
    if candidate.map ReadHandler.object = some handler.object then
      { used, candidate
        candidateAttributePathsUsed := handler.attributePathCount
        candidateEventPathsUsed := handler.eventPathCount }
    else { scan with used, candidate }

def fabricTableFull : Bool := decide (engine.fabricCount = engine.config.configMaxFabrics)

/-- `TrimFabricForRead`: the engine afterwards and whether a handler was closed. -/
def trimFabricForRead (fabric : UInt8) : InteractionModelEngine × Bool :=
  let minSupportedPathsPerFabricForRead :=
    engine.guaranteedReadRequestsPerFabric * kMinSupportedPathsPerReadRequest
  let scan := engine.readHandlers.foldl (visitRead fabric) {}
  match scan.candidate with
  | none => (engine, false)
  | some candidate =>
    if (decide (scan.used.attributePaths > minSupportedPathsPerFabricForRead) ||
        decide (scan.used.eventPaths > minSupportedPathsPerFabricForRead) ||
        decide (scan.used.handlers > engine.guaranteedReadRequestsPerFabric)) ||
        (decide (fabric = kUndefinedFabricIndex) && engine.fabricTableFull) then
      (engine.close candidate, true)
    else (engine, false)

/-- `countResourceUsage`: what the handlers of one type use. -/
def countResourceUsage (type : InteractionType) : Usage :=
  engine.readHandlers.foldl
    (fun usage handler => if handler.isType type then usage.add handler else usage) {}

def fabricUsage (type : InteractionType) (fabric : UInt8) : Usage :=
  engine.readHandlers.foldl
    (fun usage handler => if handler.servesFabric type fabric then usage.add handler else usage) {}

/-- The caps of `EnsureResourceForSubscription` and `EnsureResourceForRead`. -/
def pathCap : InteractionType → Nat
  | .subscribe => if engine.config.allowUnlimited then engine.config.sizeMax
      else engine.config.pathPoolCapacityForSubscriptions
  | .read => if engine.config.allowUnlimited then engine.config.sizeMax
      else engine.config.pathPoolCapacityForReads

def readHandlerCap : InteractionType → Nat
  | .subscribe => if engine.config.allowUnlimited then engine.config.sizeMax
      else engine.config.readHandlerPoolCapacityForSubscriptions
  | .read => if engine.config.allowUnlimited then engine.config.sizeMax
      else engine.config.readHandlerPoolCapacityForReads

/-- `haveEnoughResourcesForTheRequest`. The counters the source keeps are counted again after
every eviction, so they are always those of the handlers that are left. -/
def haveEnoughResources (type : InteractionType) (attributePaths eventPaths : Nat)
  (engine : InteractionModelEngine) : Bool :=
  decide ((engine.countResourceUsage type).attributePaths + attributePaths ≤ engine.pathCap type) &&
    decide ((engine.countResourceUsage type).eventPaths + eventPaths ≤ engine.pathCap type) &&
    decide ((engine.countResourceUsage type).handlers < engine.readHandlerCap type)

/-- Does the request ask for more paths of a kind than `limit` where there are not as many
left? -/
def asksTooMuch (type : InteractionType) (limit attributePaths eventPaths : Nat) : Bool :=
  (decide (attributePaths > limit) && decide ((engine.countResourceUsage type).attributePaths +
      attributePaths > engine.pathCap type)) ||
    (decide (eventPaths > limit) && decide ((engine.countResourceUsage type).eventPaths +
      eventPaths > engine.pathCap type))

/-- The `for` loop over the fabric table of `EnsureResourceForSubscription`. Once a handler
was closed, the remaining fabrics are only passed by. -/
def trimSubscriptionsPass (enough : InteractionModelEngine → Bool) :
  List UInt8 → InteractionModelEngine × Bool → InteractionModelEngine × Bool
  | [], state => state
  | fabric :: fabrics, (engine, didEvictHandler) =>
    if enough engine then (engine, didEvictHandler)
    else if didEvictHandler then trimSubscriptionsPass enough fabrics (engine, true)
    else trimSubscriptionsPass enough fabrics (engine.trimFabricForSubscriptions fabric false)

/-- The loop that trims the fabrics using excess resources; `none` when the fuel runs out. -/
def trimSubscriptions (enough : InteractionModelEngine → Bool) :
  Nat → InteractionModelEngine → Option InteractionModelEngine
  | 0, _ => none
  | fuel + 1, engine =>
    let (engine, didEvictHandler) := trimSubscriptionsPass enough engine.fabricTable (engine, false)
    if didEvictHandler then trimSubscriptions enough fuel engine else some engine

/-- The loop that evicts from the requesting fabric: the engine and the last value of
`didEvictHandler`; `none` when the fuel runs out. -/
def evictOwnSubscriptions (enough : InteractionModelEngine → Bool) (fabric : UInt8) :
  Nat → InteractionModelEngine → Bool → Option (InteractionModelEngine × Bool)
  | 0, _, _ => none
  | fuel + 1, engine, didEvictHandler =>
    if !enough engine && didEvictHandler then
      let (engine, didEvictHandler) := engine.trimFabricForSubscriptions fabric true
      evictOwnSubscriptions enough fabric fuel engine didEvictHandler
    else some (engine, didEvictHandler)

/-- What a call ends with: an answer, or the process aborted by `VerifyOrDie`. -/
inductive Answer (α : Type) where
  | returned (value : α)
  | died
  deriving DecidableEq

/-- `EnsureResourceForSubscription`; `none` when the fuel for its loops runs out. -/
def ensureResourceForSubscription (fuel : Nat) (fabric : UInt8) (attributePaths eventPaths : Nat) :
  Option (InteractionModelEngine × Answer Bool) :=
  let enough := haveEnoughResources .subscribe attributePaths eventPaths
  if enough engine then some (engine, .returned true)
  else if engine.asksTooMuch .subscribe kMinSupportedPathsPerSubscription attributePaths eventPaths
    then some (engine, .returned false)
  else do
    let engine ← trimSubscriptions enough fuel engine
    let (engine, didEvictHandler) ← evictOwnSubscriptions enough fabric fuel engine true
    some (engine, if didEvictHandler then .returned true else .died)

/-- `Protocols::InteractionModel::Status`, as far as the engine answers with it here. -/
inductive ReadStatus where
  | success
  | busy
  | pathsExhausted
  deriving DecidableEq

/-- The `for` loop over the fabric table of `EnsureResourceForRead`. -/
def trimReadsPass (enough : InteractionModelEngine → Bool) :
  List UInt8 → InteractionModelEngine × Bool → InteractionModelEngine × Bool
  | [], state => state
  | fabric :: fabrics, (engine, didEvictHandler) =>
    let state := if didEvictHandler then (engine, true) else engine.trimFabricForRead fabric
    if enough state.1 then state else trimReadsPass enough fabrics state

/-- The loop of `EnsureResourceForRead`, reads on PASE sessions first; `none` when the fuel
runs out. -/
def trimReads (enough : InteractionModelEngine → Bool) :
  Nat → InteractionModelEngine → Option InteractionModelEngine
  | 0, _ => none
  | fuel + 1, engine =>
    let state := engine.trimFabricForRead kUndefinedFabricIndex
    if enough state.1 then some state.1
    else if state.1.fabricTableFull && state.2 then trimReads enough fuel state.1
    else
      let (engine, didEvictHandler) := trimReadsPass enough state.1.fabricTable state
      if didEvictHandler then trimReads enough fuel engine else some engine

/-- Does one more request of this size take the fabric past what is guaranteed to it? -/
def leavesGuarantee (fabric : UInt8) (attributePaths eventPaths : Nat) : Bool :=
  let guaranteedPathsPerFabric :=
    kMinSupportedPathsPerReadRequest * engine.guaranteedReadRequestsPerFabric
  let used := engine.fabricUsage .read fabric
  decide (used.attributePaths + attributePaths > guaranteedPathsPerFabric) ||
    decide (used.eventPaths + eventPaths > guaranteedPathsPerFabric) ||
    decide (used.handlers ≥ engine.guaranteedReadRequestsPerFabric)

/-- `EnsureResourceForRead`; `none` when the fuel for its loop runs out. -/
def ensureResourceForRead (fuel : Nat) (fabric : UInt8) (attributePaths eventPaths : Nat) :
  Option (InteractionModelEngine × Answer ReadStatus) :=
  let enough := haveEnoughResources .read attributePaths eventPaths
  if enough engine then some (engine, .returned .success)
  else if engine.asksTooMuch .read kMinSupportedPathsPerReadRequest attributePaths eventPaths then
    some (engine, .returned .pathsExhausted)
  else if engine.fabricTableFull && decide (fabric = kUndefinedFabricIndex) then
    some (engine, .returned .busy)
  else if engine.leavesGuarantee fabric attributePaths eventPaths then
    some (engine, .returned .busy)
  else do
    let engine ← trimReads enough fuel engine
    some (engine, if enough engine then .returned .success else .died)

end InteractionModelEngine

end Chip.App
