import Chip.Access.AclInvariant

/-! What the access control list is for: one list of entries per fabric, objects that
denote an entry or a copy of their own, and iterators that still have some entries to
return. An entry is known by a number that it is given when it is created. -/
namespace Chip.Access

/-- What an `Entry` object denotes: nothing, an entry of the list, or a value of its own. -/
inductive Handle where
  | default
  | live (id : Nat)
  | own (value : EntryStorage)

/-- The entries that an iterator has yet to return, unless it has reported the end. -/
structure IteratorSpec where
  fabricIndex : Option UInt8
  ahead : Option (List Nat)

structure AclSpec where
  lists : UInt8 → List (Nat × EntryStorage)
  /-- The entries of all fabrics, oldest first. -/
  order : List Nat
  fresh : Nat
  handles : Nat → Handle
  iterators : Nat → Option IteratorSpec

namespace AclSpec

def init : AclSpec := ⟨fun _ => [], [], 0, fun _ => .default, fun _ => none⟩

def Denotes (spec : AclSpec) : Handle → EntryStorage → Prop
  | .default, _ => False
  | .live id, value => ∃ f, (id, value) ∈ spec.lists f
  | .own value', value => value = value'

/-- The numbers of the entries that an iterator returns from the start. -/
def ids (spec : AclSpec) : Option UInt8 → List Nat
  | none => spec.order
  | some f => (spec.lists f).map Prod.fst

def setHandle (spec : AclSpec) (entry : Nat) (handle : Handle) : AclSpec :=
  { spec with handles := Function.update spec.handles entry handle }

def setIterator (spec : AclSpec) (iterator : Nat) (it : Option IteratorSpec) : AclSpec :=
  { spec with iterators := Function.update spec.iterators iterator it }

/-- A new entry comes last in the list of its fabric, and before the end of every iterator
that has not reported it. -/
def append (spec : AclSpec) (f : UInt8) (value : EntryStorage) : AclSpec :=
  { spec with
    lists := Function.update spec.lists f (spec.lists f ++ [(spec.fresh, value)])
    order := spec.order ++ [spec.fresh]
    fresh := spec.fresh + 1
    iterators := fun i => (spec.iterators i).map fun it =>
      { it with ahead := it.ahead.map fun ahead =>
          if it.fabricIndex.all (· = f) then ahead ++ [spec.fresh] else ahead } }

def replace (spec : AclSpec) (f : UInt8) (index id : Nat) (value : EntryStorage) : AclSpec :=
  { spec with lists := Function.update spec.lists f ((spec.lists f).set index (id, value)) }

/-- A deleted entry is in no list, and no iterator returns it any more. -/
def remove (spec : AclSpec) (f : UInt8) (index id : Nat) (handles : Nat → Handle) : AclSpec :=
  { spec with
    lists := Function.update spec.lists f ((spec.lists f).eraseIdx index)
    order := spec.order.filter (· ≠ id)
    handles := handles
    iterators := fun i => (spec.iterators i).map fun it =>
      { it with ahead := it.ahead.map (List.filter (· ≠ id)) } }

/-- The objects after the deletion of an entry: one that denoted it keeps its value, or is
reset. -/
def Survive (id : Nat) (value : EntryStorage) (handles handles' : Nat → Handle) : Prop :=
  ∀ entry, (handles entry = .live id ∧ (handles' entry = .own value ∨ handles' entry = .default)) ∨
    handles entry ≠ .live id ∧ handles' entry = handles entry

/-- The value that `CreateEntry` and `UpdateEntry` accept from an object. -/
def Accepts (spec : AclSpec) (entry : Nat) : Prop :=
  ∃ value, spec.Denotes (spec.handles entry) value ∧ value.isValid = true

variable (config : AclConfig)

/-- One call, and whether it succeeded. A call that needs a free element of a pool may fail
for want of one. -/
inductive Step (spec : AclSpec) : AclOp → Bool → AclSpec → Prop where
  | prepare (entry : Nat) :
      Step spec (.prepare entry) true (spec.setHandle entry
        (.own { EntryStorage.cleared config.maxSubjects config.maxTargets with mInUse := true }))
  | prepareFails (entry : Nat) : Step spec (.prepare entry) false spec
  | edit {entry : Nat} {change : EntryEdit} {value value' : EntryStorage}
      (hValue : spec.Denotes (spec.handles entry) value) (hEdit : value.edit change = .ok value') :
      Step spec (.edit entry change) true (spec.setHandle entry (.own value'))
  | editFails (entry : Nat) (change : EntryEdit) : Step spec (.edit entry change) false spec
  | editCopies {entry : Nat} {change : EntryEdit} {value : EntryStorage} {e : ChipError}
      (hValue : spec.Denotes (spec.handles entry) value) (hEdit : value.edit change = .error e) :
      Step spec (.edit entry change) false (spec.setHandle entry (.own value))
  | create {f : UInt8} {entry : Nat} {value : EntryStorage}
      (hValue : spec.Denotes (spec.handles entry) value) (hValid : value.isValid = true) :
      Step spec (.create (some f) entry) true (spec.append f value)
  | createFails {f : UInt8} {entry : Nat}
      (hFull : ¬ spec.Accepts entry ∨ config.maxEntriesPerFabric ≤ (spec.lists f).length ∨
        config.maxEntries ≤ spec.order.length) :
      Step spec (.create (some f) entry) false spec
  | read {f : UInt8} {index entry id : Nat} {value : EntryStorage}
      (hEntry : (spec.lists f)[index]? = some (id, value)) :
      Step spec (.read (some f) index entry) true (spec.setHandle entry (.live id))
  | readAny {index entry id : Nat} (hEntry : spec.order[index]? = some id) :
      Step spec (.read none index entry) true (spec.setHandle entry (.live id))
  | readFails (fabricIndex : Option UInt8) (index entry : Nat) :
      Step spec (.read fabricIndex index entry) false spec
  | update {f : UInt8} {index entry id : Nat} {old value : EntryStorage}
      (hEntry : (spec.lists f)[index]? = some (id, old))
      (hValue : spec.Denotes (spec.handles entry) value) (hValid : value.isValid = true) :
      Step spec (.update (some f) index entry) true (spec.replace f index id value)
  | updateFails {f : UInt8} {index entry : Nat}
      (hNone : ¬ spec.Accepts entry ∨ (spec.lists f)[index]? = none) :
      Step spec (.update (some f) index entry) false spec
  | delete {f : UInt8} {index id : Nat} {value : EntryStorage} {handles : Nat → Handle}
      (hEntry : (spec.lists f)[index]? = some (id, value))
      (hSurvive : Survive id value spec.handles handles) :
      Step spec (.delete (some f) index) true (spec.remove f index id handles)
  | deleteFails {f : UInt8} {index : Nat} (hNone : (spec.lists f)[index]? = none) :
      Step spec (.delete (some f) index) false spec
  | entries (iterator : Nat) (fabricIndex : Option UInt8) :
      Step spec (.entries iterator fabricIndex) true
        (spec.setIterator iterator (some ⟨fabricIndex, some (spec.ids fabricIndex)⟩))
  | entriesFails (iterator : Nat) (fabricIndex : Option UInt8) :
      Step spec (.entries iterator fabricIndex) false spec
  | next {iterator entry id : Nat} {fabricIndex : Option UInt8} {rest : List Nat}
      (hIterator : spec.iterators iterator = some ⟨fabricIndex, some (id :: rest)⟩) :
      Step spec (.next iterator entry) true
        ((spec.setIterator iterator (some ⟨fabricIndex, some rest⟩)).setHandle entry (.live id))
  | nextFails {iterator entry id : Nat} {fabricIndex : Option UInt8} {rest : List Nat}
      (hIterator : spec.iterators iterator = some ⟨fabricIndex, some (id :: rest)⟩) :
      Step spec (.next iterator entry) false
        (spec.setIterator iterator (some ⟨fabricIndex, some rest⟩))
  | nextEnd {iterator entry : Nat} {fabricIndex : Option UInt8}
      (hIterator : spec.iterators iterator = some ⟨fabricIndex, some []⟩) :
      Step spec (.next iterator entry) false (spec.setIterator iterator (some ⟨fabricIndex, none⟩))
  | nextEnded {iterator entry : Nat}
      (hIterator : ∀ it ∈ spec.iterators iterator, it.ahead = none) :
      Step spec (.next iterator entry) false spec
  | releaseEntry (entry : Nat) :
      Step spec (.releaseEntry entry) true (spec.setHandle entry .default)
  | releaseIterator (iterator : Nat) :
      Step spec (.releaseIterator iterator) true (spec.setIterator iterator none)

/-- A run of calls on the store, followed by the specification. -/
def Run : List AclOp → AclStore → AclSpec → AclSpec → Prop
  | [], _, spec, spec' => spec' = spec
  | op :: ops, st, spec, spec' =>
    ∃ middle, Step config spec op (op.call st).1.isOk middle ∧
      Run ops (op.call st).2 middle spec'

end AclSpec
end Chip.Access
