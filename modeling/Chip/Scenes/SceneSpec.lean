import Mathlib.Algebra.BigOperators.Group.Finset.Basic
import Mathlib.Data.FinEnum
import Mathlib.Data.Set.Card
import Chip.Scenes.SceneTable

/-! What the scene table is for: a finite map from endpoint, fabric, group and scene to the
data of a scene. The calls are steps on the map. Only where a scene lies is taken from the
table, for the calls that name a position or go from one position to the next. -/
namespace Chip.Scenes

open TLV

abbrev SceneMap := UInt16 → UInt8 → SceneStorageId → Option SceneData

namespace SceneMap

def put (m : SceneMap) (e : UInt16) (f : UInt8) (id : SceneStorageId) (data : SceneData) : SceneMap :=
  fun e' f' id' => if e' = e ∧ f' = f ∧ id' = id then some data else m e' f' id'

open Classical in
noncomputable def without (m : SceneMap) (P : UInt16 → UInt8 → SceneStorageId → Prop) : SceneMap :=
  fun e f id => if P e f id then none else m e f id

noncomputable def fabricCount (m : SceneMap) (e : UInt16) (f : UInt8) : Nat :=
  {id | (m e f id).isSome}.ncard

noncomputable def endpointCount (m : SceneMap) (e : UInt16) : Nat :=
  ∑ f : UInt8, m.fabricCount e f

noncomputable def groupCount (m : SceneMap) (e : UInt16) (f : UInt8) (group : UInt16) : Nat :=
  {scene | (m e f ⟨group, scene⟩).isSome}.ncard

end SceneMap

/-- The scenes, the endpoint that the table is set to, and the iterators that are in use
with the position that each has reached. -/
structure SceneSpec where
  scenes : SceneMap
  endpoint : UInt16
  iterators : Nat → Option (UInt16 × UInt8 × Nat)

abbrev Positions := UInt16 → UInt8 → Nat → Option SceneStorageId

/-- The positions of the scenes in a table are those of their records. -/
def SceneTable.positions (st : SceneTable) : Positions := fun e f index =>
  (loadScene f e index st).1.toOption.map (·.mStorageId)

namespace SceneSpec

def init : SceneSpec := ⟨fun _ _ _ => none, invalidEndpointId, fun _ => none⟩

noncomputable def removeScenes (spec : SceneSpec) (P : UInt16 → UInt8 → SceneStorageId → Prop) :
    SceneSpec :=
  { spec with scenes := spec.scenes.without P }

def setIterator (spec : SceneSpec) (iterator : Nat) (it : Option (UInt16 × UInt8 × Nat)) : SceneSpec :=
  { spec with iterators := Function.update spec.iterators iterator it }

def NoKey (e : UInt16) (f : UInt8) : Prop := f = undefinedFabricIndex ∨ e = invalidEndpointId

def PoolUsed (spec : SceneSpec) : Prop :=
  iteratorsMax ≤ {iterator | (spec.iterators iterator).isSome}.ncard

variable (sizes : TableSizes) (endpoints : List UInt16)

inductive Step (positions : Positions) (spec : SceneSpec) :
    SceneOp → Except ChipError SceneValue → SceneSpec → Prop where
  | setEndpoint (e : UInt16) :
      Step positions spec (.setEndpoint e) (.ok .done) { spec with endpoint := e }
  | set (f : UInt8) (entry : SceneTableEntry) :
      Step positions spec (.set f entry) (.ok .done)
        { spec with scenes := spec.scenes.put spec.endpoint f entry.mStorageId entry.mStorageData }
  | setTooLarge {f : UInt8} {entry : SceneTableEntry}
      (hLarge : persistentSceneBufferMax < (serializeScene entry).bytes.length) :
      Step positions spec (.set f entry) (.error .bufferTooSmall) spec
  | setFull {f : UInt8} {entry : SceneTableEntry}
      (hNew : spec.scenes spec.endpoint f entry.mStorageId = none)
      (hFull : sizes.mMaxScenesPerFabric ≤ spec.scenes.fabricCount spec.endpoint f ∨
        sizes.mMaxScenesPerEndpoint ≤ spec.scenes.endpointCount spec.endpoint) :
      Step positions spec (.set f entry) (.error .noMemory) spec
  | setRefused {f : UInt8} {entry : SceneTableEntry} {err : ChipError}
      (hKey : NoKey spec.endpoint f) (hErr : err ≠ .noMemory) :
      Step positions spec (.set f entry) (.error err) spec
  | get {f : UInt8} {id : SceneStorageId} {data : SceneData}
      (hScene : spec.scenes spec.endpoint f id = some data) :
      Step positions spec (.get f id) (.ok (.entry ⟨id, data⟩)) spec
  | getMissing {f : UInt8} {id : SceneStorageId} {err : ChipError}
      (hNone : spec.scenes spec.endpoint f id = none)
      (hErr : err = .notFound ∨ NoKey spec.endpoint f) :
      Step positions spec (.get f id) (.error err) spec
  | remove (f : UInt8) (id : SceneStorageId) :
      Step positions spec (.remove f id) (.ok .done)
        (spec.removeScenes fun e' f' id' => e' = spec.endpoint ∧ f' = f ∧ id' = id)
  | removeMissing {f : UInt8} {id : SceneStorageId} {err : ChipError}
      (hEmpty : ∀ id, spec.scenes spec.endpoint f id = none)
      (hErr : err = .notFound ∨ NoKey spec.endpoint f) :
      Step positions spec (.remove f id) (.error err) spec
  | removeAt (e : UInt16) (f : UInt8) (index : Nat) :
      Step positions spec (.removeAt e f index) (.ok .done)
        (spec.removeScenes fun e' f' id' => e' = e ∧ f' = f ∧ positions e f index = some id')
  | removeAtMissing {e : UInt16} {f : UInt8} {index : Nat} {err : ChipError}
      (hEmpty : ∀ id, spec.scenes e f id = none) (hErr : err = .notFound ∨ NoKey e f) :
      Step positions spec (.removeAt e f index) (.error err) spec
  | list {f : UInt8} {group : UInt16} {size : Nat} {ids : List UInt8} (hNodup : ids.Nodup)
      (hIds : ∀ scene, scene ∈ ids ↔ (spec.scenes spec.endpoint f ⟨group, scene⟩).isSome) :
      Step positions spec (.list f group size) (.ok (.ids ids)) spec
  | listTooLong {f : UInt8} {group : UInt16} {size : Nat}
      (hLong : size < spec.scenes.groupCount spec.endpoint f group) :
      Step positions spec (.list f group size) (.error .bufferTooSmall) spec
  | listFails {f : UInt8} {group : UInt16} {size : Nat} (hUsed : spec.PoolUsed) :
      Step positions spec (.list f group size) (.error .internal) spec
  | deleteAll (f : UInt8) (group : UInt16) :
      Step positions spec (.deleteAll f group) (.ok .done)
        (spec.removeScenes fun e' f' id' => e' = spec.endpoint ∧ f' = f ∧ id'.mGroupId = group)
  | deleteAllMissing {f : UInt8} {group : UInt16} {err : ChipError}
      (hEmpty : ∀ id, spec.scenes spec.endpoint f id = none)
      (hErr : err = .notFound ∨ NoKey spec.endpoint f) :
      Step positions spec (.deleteAll f group) (.error err) spec
  | removeFabric (f : UInt8) :
      Step positions spec (.removeFabric f) (.ok .done)
        (spec.removeScenes fun e' f' _ => e' ∈ endpoints ∧ f' = f)
  | removeFabricRefused {f : UInt8} {err : ChipError} {done : List UInt16} {e : UInt16}
      (hDone : done ++ [e] <+: endpoints) (hKey : NoKey e f) :
      Step positions spec (.removeFabric f) (.error err)
        (spec.removeScenes fun e' f' _ => e' ∈ done ∧ f' = f)
  | iterate (iterator : Nat) (f : UInt8) :
      Step positions spec (.iterate iterator f) (.ok .done)
        (spec.setIterator iterator (some (spec.endpoint, f, 0)))
  | iterateFails {iterator : Nat} {f : UInt8} (hUsed : spec.PoolUsed) :
      Step positions spec (.iterate iterator f) (.error .internal) spec
  | next {iterator : Nat} {e : UInt16} {f : UInt8} {start index : Nat} {id : SceneStorageId}
      {data : SceneData} (hIterator : spec.iterators iterator = some (e, f, start))
      (hStart : start ≤ index) (hAt : positions e f index = some id)
      (hFirst : ∀ j, start ≤ j → j < index → positions e f j = none)
      (hScene : spec.scenes e f id = some data) :
      Step positions spec (.next iterator) (.ok (.next (some ⟨id, data⟩)))
        (spec.setIterator iterator (some (e, f, index + 1)))
  | nextEnd {iterator : Nat} {e : UInt16} {f : UInt8} {start stop : Nat}
      (hIterator : spec.iterators iterator = some (e, f, start))
      (hLast : ∀ j, start ≤ j → positions e f j = none)
      (hStop : stop = start ∨ stop = max start sizes.mMaxScenesPerFabric) :
      Step positions spec (.next iterator) (.ok (.next none))
        (spec.setIterator iterator (some (e, f, stop)))
  | nextUnused {iterator : Nat} {err : ChipError} (hIterator : spec.iterators iterator = none) :
      Step positions spec (.next iterator) (.error err) spec
  | release (iterator : Nat) :
      Step positions spec (.release iterator) (.ok .done) (spec.setIterator iterator none)

def Run : List SceneOp → SceneTable → SceneSpec → SceneSpec → Prop
  | [], _, spec, spec' => spec' = spec
  | op :: ops, st, spec, spec' =>
    ∃ middle, Step sizes endpoints st.positions spec op (op.call sizes endpoints st).1 middle ∧
      Run ops (op.call sizes endpoints st).2 middle spec'

end SceneSpec
end Chip.Scenes
