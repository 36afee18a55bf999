import Chip.Credentials.GroupDataProvider
import Chip.Data.LinkedSlots

/-! The list of the fabrics that have group data. In every state that calls lead to it links all
the fabrics with a record, each of them once. -/
namespace Chip.Credentials.Groups

open List FabricData Proc GroupData KeyMapData EndpointData KeySetData

structure Registry where
  list : FabricList
  links : FabricIndex → Option FabricIndex

def registry (storage : GroupStorage) : Registry where
  list := storage.fabricList.getD {}
  links fabricIndex := (storage.fabric fabricIndex).data.map fun record => record.next

structure Registry.Ordered (registry : Registry) (order : List FabricIndex) : Prop where
  linked : LinkedSlots (fun fabricIndex => (registry.links fabricIndex).getD kUndefinedFabricIndex)
    registry.list.firstEntry order kUndefinedFabricIndex
  count : registry.list.entryCount = order.length
  nodup : order.Nodup
  stored : ∀ fabricIndex, (registry.links fabricIndex).isSome ↔ fabricIndex ∈ order
  defined : kUndefinedFabricIndex ∉ order

def FabricsListed (storage : GroupStorage) : Prop :=
  ∃ order, (registry storage).Ordered order

/-- An object of a fabric that has the link that is stored, or the default if none is stored. -/
def FabricData.Linked (fabric : FabricData) (registry : Registry) : Prop :=
  fabric.fabricIndex ≠ kUndefinedFabricIndex ∧
    (registry.links fabric.fabricIndex).getD kUndefinedFabricIndex = fabric.next

def FabricData.Known (fabric : FabricData) (registry : Registry) : Prop :=
  fabric.fabricIndex ≠ kUndefinedFabricIndex ∧
    registry.links fabric.fabricIndex = some fabric.next

variable {fabric : FabricData} {this : FabricData}

theorem FabricData.Known.linked {registry : Registry} (h : fabric.Known registry) :
  fabric.Linked registry := ⟨h.1, by rw [h.2, Option.getD_some]⟩

variable {provider : GroupDataProvider} {storage : GroupStorage} {r : Registry}
variable {order : List FabricIndex}

theorem FabricsListed.empty : FabricsListed .empty :=
  ⟨[], rfl, rfl, List.nodup_nil, fun _ => by simp [registry, GroupStorage.empty], by simp⟩

theorem fabricKey_of_ne {fabricIndex : FabricIndex} (h : fabricIndex ≠ kUndefinedFabricIndex) :
  fabricKey fabricIndex = .ok () := if_neg h

theorem FabricData.load_of_links (fabric : FabricData) (storage : GroupStorage) :
  (∃ loaded, fabric.load storage = (.ok (), loaded) ∧ loaded.Known (registry storage) ∧
    loaded.fabricIndex = fabric.fabricIndex) ∨
  ∃ e left, fabric.load storage = (.error e, left) ∧
    (fabric.fabricIndex = kUndefinedFabricIndex ∧ e = .invalidFabricIndex ∨
      (registry storage).links fabric.fabricIndex = none ∧ e = .notFound ∧
        fabric.fabricIndex ≠ kUndefinedFabricIndex ∧ left = fabric.clear) := by
  unfold load loadRecord
  by_cases hZero : fabric.fabricIndex = kUndefinedFabricIndex
  · rw [fabricKey, if_pos hZero]
    exact .inr ⟨_, _, rfl, .inl ⟨hZero, rfl⟩⟩
  · rw [fabricKey_of_ne hZero]
    cases hData : (storage.fabric fabric.fabricIndex).data with
    | none => exact .inr ⟨_, _, rfl, .inr ⟨by simp [registry, hData], rfl, hZero, rfl⟩⟩
    | some record => exact .inl ⟨_, rfl, ⟨hZero, by simp [registry, hData, clear]⟩, rfl⟩

theorem loaded_known (fabricIndex : FabricIndex) :
  Proc.Maintains (fun storage => registry storage = r) (loaded fabricIndex)
    fun fabric => fabric.Known r ∧ fabric.fabricIndex = fabricIndex := by
  intro storage hRegistry
  rw [loaded, read_bind]
  rcases ({ fabricIndex } : FabricData).load_of_links storage with
    ⟨loaded, hLoad, hKnown, hIndex⟩ | ⟨e, left, hLoad, -⟩
  · rw [hLoad]
    refine ⟨hRegistry, ?_⟩
    rintro fabric ⟨⟩
    exact ⟨hRegistry ▸ hKnown, hIndex⟩
  · rw [hLoad]
    exact ⟨hRegistry, fun _ h => nomatch h⟩

theorem loadedOrDefault_linked (fabricIndex : FabricIndex) :
  Proc.Maintains (fun storage => registry storage = r) (FabricData.loadedOrDefault fabricIndex)
    fun fabric => fabric.Linked r ∧ fabric.fabricIndex = fabricIndex := by
  intro storage hRegistry
  rw [FabricData.loadedOrDefault, Proc.read_bind]
  rcases ({ fabricIndex } : FabricData).load_of_links storage with
    ⟨loaded, hLoad, hKnown, hIndex⟩ | ⟨e, left, hLoad, ⟨-, rfl⟩ | ⟨hNone, rfl, hZero, rfl⟩⟩
  · rw [hLoad]
    refine ⟨hRegistry, ?_⟩
    rintro fabric ⟨⟩
    exact ⟨hRegistry ▸ hKnown.linked, hIndex⟩
  · rw [hLoad]
    exact ⟨hRegistry, fun _ h => nomatch h⟩
  · rw [hLoad]
    refine ⟨hRegistry, ?_⟩
    rintro fabric ⟨⟩
    rw [hRegistry] at hNone
    exact ⟨⟨hZero, by rw [FabricData.clear, hNone]; rfl⟩, rfl⟩

theorem isRegistered_iff {target fabricIndex : FabricIndex} {fabrics : List FabricIndex}
  (hLinked : LinkedSlots (fun fabricIndex =>
    ((registry storage).links fabricIndex).getD kUndefinedFabricIndex) fabricIndex fabrics
    kUndefinedFabricIndex)
  (hStored : ∀ f ∈ fabrics, ((registry storage).links f).isSome ∧ f ≠ kUndefinedFabricIndex)
  (fabric : FabricData) (hFabric : fabric.fabricIndex = fabricIndex) :
  isRegistered storage target fabrics.length fabric = true ↔ target ∈ fabrics := by
  induction fabrics generalizing fabricIndex fabric with
  | nil => simp [isRegistered]
  | cons first fabrics ih =>
    obtain ⟨hFirst, hRest⟩ := hLinked
    obtain ⟨hSome, hDefined⟩ := hStored first mem_cons_self
    rw [length_cons, isRegistered]
    rcases fabric.load_of_links storage with
      ⟨loaded, hLoad, hKnown, hIndex⟩ | ⟨e, left, -, ⟨hZero, -⟩ | ⟨hNone, -⟩⟩
    · rw [hLoad]
      dsimp only
      rw [hIndex, hFabric, hFirst]
      by_cases hTarget : first = target
      · simp [hTarget]
      · rw [if_neg hTarget, ih hRest (fun f hf => hStored f (mem_cons_of_mem _ hf)) _ ?_]
        · simp [Ne.symm hTarget]
        · have hLink := hKnown.2
          rw [hIndex, hFabric, hFirst] at hLink
          simp only [hLink, Option.getD_some]
    · rw [hFabric, hFirst] at hZero
      exact absurd hZero hDefined
    · rw [hFabric, hFirst] at hNone
      rw [hNone] at hSome
      cases hSome

section

variable (h : (registry storage).Ordered order)
include h

theorem Registry.Ordered.isRegistered_iff (target : FabricIndex) :
  isRegistered storage target (registry storage).list.entryCount
    { fabricIndex := (registry storage).list.firstEntry } = true ↔ target ∈ order := by
  rw [h.count]
  refine Groups.isRegistered_iff h.linked (fun f hf => ⟨(h.stored f).mpr hf, ?_⟩) _ rfl
  rintro rfl
  exact h.defined hf

theorem FabricData.save_of_mem (hMem : fabric.fabricIndex ∈ order) :
  fabric.save storage = (.ok (), storage.onFabric fabric.fabricIndex fun store =>
    { store with data := some fabric.toFabricRecord }) := by
  have hDefined : fabric.fabricIndex ≠ kUndefinedFabricIndex := by
    intro hZero
    rw [hZero] at hMem
    exact h.defined hMem
  have hRegister : fabric.register storage = (.ok fabric, storage) := by
    have hFound := (h.isRegistered_iff fabric.fabricIndex).mpr hMem
    rw [register, read_bind]
    cases hList : storage.fabricList with
    | none =>
      have hCount := h.count
      simp only [registry, hList, Option.getD_none] at hCount
      rw [eq_nil_of_length_eq_zero hCount.symm] at hMem
      cases hMem
    | some list =>
      simp only [registry, hList, Option.getD_some] at hFound
      dsimp only
      rw [if_pos hFound]
      rfl
  rw [save, bind_ok hRegister, saveRecord, fabricKey_of_ne hDefined]
  rfl

theorem FabricData.save_of_notMem (hLinked : fabric.Linked (registry storage))
  (hMem : fabric.fabricIndex ∉ order) :
  fabric.save storage = (.ok (),
    { storage with fabricList := some ⟨fabric.fabricIndex, order.length + 1⟩ }.onFabric
      fabric.fabricIndex fun store =>
        { store with data := some { fabric.toFabricRecord with
            next := (registry storage).list.firstEntry } }) := by
  have hNext : fabric.next = kUndefinedFabricIndex := by
    have hNone : (registry storage).links fabric.fabricIndex = none := by
      rw [← Option.not_isSome_iff_eq_none, h.stored]
      exact hMem
    rw [← hLinked.2, hNone]
    rfl
  have hFound := mt (h.isRegistered_iff fabric.fabricIndex).mp hMem
  have hCount := h.count
  rw [save, register]
  cases hList : storage.fabricList with
  | none =>
    simp only [registry, hList, Option.getD_none] at hCount ⊢
    rw [bind_apply, read_bind, hList]
    dsimp only
    rw [modify_bind, pure_apply]
    dsimp only
    rw [saveRecord, fabricKey_of_ne hLinked.1, ← hCount, ← hNext]
    rfl
  | some list =>
    simp only [registry, hList, Option.getD_some] at hCount hFound ⊢
    rw [bind_apply, read_bind, hList]
    dsimp only
    rw [if_neg hFound, modify_bind, pure_apply]
    dsimp only
    rw [saveRecord, fabricKey_of_ne hLinked.1, hCount]
    rfl

end

theorem registry_setData (storage : GroupStorage) (fabricIndex : FabricIndex)
  (data : Option FabricRecord) :
  registry (storage.onFabric fabricIndex fun store => { store with data }) =
    { registry storage with
      links := Function.update (registry storage).links fabricIndex
        (data.map fun record => record.next) } := by
  have hLinks : (fun f => (Function.update storage.fabric fabricIndex
      { storage.fabric fabricIndex with data } f).data.map fun record => record.next) =
      Function.update (fun f => (storage.fabric f).data.map fun record => record.next) fabricIndex
        (data.map fun record => record.next) := by
    funext f
    by_cases hSame : f = fabricIndex
    · rw [hSame, Function.update_self, Function.update_self]
    · rw [Function.update_of_ne hSame, Function.update_of_ne hSame]
  simp only [registry, GroupStorage.onFabric, hLinks]

theorem save_known (hOrdered : r.Ordered order) (hKnown : fabric.Known r) :
  Proc.Maintains (fun storage => registry storage = r) fabric.save fun _ => True := by
  rintro storage rfl
  have hMem : fabric.fabricIndex ∈ order :=
    (hOrdered.stored _).mp (by rw [hKnown.2, Option.isSome_some])
  refine ⟨?_, fun _ _ => trivial⟩
  rw [save_of_mem hOrdered hMem]
  dsimp only
  rw [registry_setData, Option.map_some, ← hKnown.2, Function.update_eq_self]

theorem save_linked (hOrdered : r.Ordered order) (hLinked : fabric.Linked r) :
  Proc.LeadsTo (fun storage => registry storage = r) fabric.save FabricsListed := by
  rintro storage rfl
  by_cases hMem : fabric.fabricIndex ∈ order
  · have hKnown : fabric.Known (registry storage) := by
      have hSome := (hOrdered.stored _).mpr hMem
      obtain ⟨next, hNext⟩ := Option.isSome_iff_exists.mp hSome
      refine ⟨hLinked.1, ?_⟩
      rw [← hLinked.2, hNext, Option.getD_some]
    exact ⟨order, by rw [(save_known hOrdered hKnown storage rfl).1]; exact hOrdered⟩
  · refine ⟨fabric.fabricIndex :: order, ?_⟩
    rw [save_of_notMem hOrdered hLinked hMem, registry_setData]
    constructor
    · refine ⟨rfl, ?_⟩
      dsimp only
      rw [Function.update_self, Option.map_some, Option.getD_some]
      refine hOrdered.linked.congr fun f hf => ?_
      rw [Function.update_of_ne (by rintro rfl; exact hMem hf)]
      rfl
    · rfl
    · exact nodup_cons.mpr ⟨hMem, hOrdered.nodup⟩
    · intro f
      dsimp only
      by_cases hSame : f = fabric.fabricIndex
      · simp [hSame]
      · rw [Function.update_of_ne hSame, mem_cons]
        exact (hOrdered.stored f).trans ⟨.inr, fun h => h.resolve_left hSame⟩
    · exact fun h => (mem_cons.mp h).elim (fun h => hLinked.1 h.symm) hOrdered.defined

theorem Registry.Ordered.link_eq (h : r.Ordered order) {before after : List FabricIndex}
  {fabricIndex : FabricIndex} (hOrder : order = before ++ fabricIndex :: after) :
  LinkedSlots (fun f => (r.links f).getD kUndefinedFabricIndex)
    ((r.links fabricIndex).getD kUndefinedFabricIndex) after kUndefinedFabricIndex := by
  have hLinked := h.linked
  rw [hOrder, LinkedSlots.append_iff] at hLinked
  obtain ⟨middle, -, -, hAfter⟩ := hLinked
  exact hAfter

def GroupStorage.withList (storage : GroupStorage) (list : FabricList) : GroupStorage :=
  { storage with fabricList := some list }

def GroupStorage.withData (storage : GroupStorage) (fabricIndex : FabricIndex)
  (data : Option FabricRecord) : GroupStorage :=
  storage.onFabric fabricIndex fun store => { store with data }

/-- What is left of the list once a fabric has been taken out of it. -/
structure Unlinked (storage storage' : GroupStorage) (order : List FabricIndex) : Prop where
  linked : LinkedSlots (fun f => ((registry storage').links f).getD kUndefinedFabricIndex)
    (registry storage').list.firstEntry order kUndefinedFabricIndex
  count : (registry storage').list.entryCount = order.length
  stored : ∀ f, ((registry storage').links f).isSome = ((registry storage).links f).isSome

section

variable (hOrdered : (registry storage).Ordered order) (hThis : this.Known (registry storage))
include hOrdered hThis

theorem unlink_spec {before after : List FabricIndex}
  (hOrder : order = before ++ this.fabricIndex :: after) (prev : Option FabricData)
  (hPrev : ∀ fabric, prev = some fabric → fabric.Known (registry storage))
  (hLast : prev.map (fun fabric => fabric.fabricIndex) = before.getLast?) (left : Nat)
  (fabric : FabricData) (hFabric : fabric.fabricIndex = this.fabricIndex) :
  ∃ storage', this.unregisterLoop (registry storage).list (left + 1) prev fabric storage =
    (.ok (), storage') ∧ Unlinked storage storage' (before ++ after) := by
  have hCount : (registry storage).list.entryCount = (before ++ after).length + 1 := by
    rw [hOrdered.count, hOrder]
    simp only [length_append, length_cons]
    omega
  have hAfter := hOrdered.link_eq hOrder
  rw [hThis.2, Option.getD_some] at hAfter
  have hNodup := hOrdered.nodup
  rw [hOrder] at hNodup
  rcases fabric.load_of_links storage with
    ⟨loaded, hLoad, -, hIndex⟩ | ⟨e, left, -, ⟨hZero, -⟩ | ⟨hNone, -⟩⟩
  · cases prev with
    | none =>
      have hNil : before = [] := getLast?_eq_none_iff.mp hLast.symm
      refine ⟨storage.withList ⟨this.next, (registry storage).list.entryCount - 1⟩, ?_, ?_⟩
      · rw [unregisterLoop, read_bind, hLoad]
        dsimp only
        rw [if_pos (hIndex.trans hFabric), pure_bind_apply, verify_bind,
          if_pos (by omega)]
        rfl
      · rw [hNil] at hCount ⊢
        refine ⟨hAfter, ?_, fun _ => rfl⟩
        change (registry storage).list.entryCount - 1 = _
        omega
    | some prev =>
      have hKnown := hPrev prev rfl
      obtain ⟨init, hInit⟩ := getLast?_eq_some_iff.mp hLast.symm
      have hMem : prev.fabricIndex ∈ order := by
        rw [hOrder, hInit]
        simp
      have hSave : save { prev with next := this.next } storage = (.ok (),
          storage.withData prev.fabricIndex
            (some { prev.toFabricRecord with next := this.next })) :=
        save_of_mem hOrdered hMem
      refine ⟨(storage.withData prev.fabricIndex
        (some { prev.toFabricRecord with next := this.next })).withList
          ⟨(registry storage).list.firstEntry, (registry storage).list.entryCount - 1⟩, ?_, ?_⟩
      · rw [unregisterLoop, read_bind, hLoad]
        dsimp only
        rw [if_pos (hIndex.trans hFabric), bind_ok hSave, pure_bind_apply,
          verify_bind, if_pos (by omega)]
        rfl
      · have hLinks : (registry ((storage.withData prev.fabricIndex
            (some { prev.toFabricRecord with next := this.next })).withList
              ⟨(registry storage).list.firstEntry,
                (registry storage).list.entryCount - 1⟩)).links =
            Function.update (registry storage).links prev.fabricIndex (some this.next) :=
          congrArg Registry.links (registry_setData storage prev.fabricIndex _)
        refine ⟨?_, ?_, ?_⟩
        · have hFirst := hOrdered.linked
          rw [hOrder, LinkedSlots.append_iff] at hFirst
          obtain ⟨middle, hBefore, -, -⟩ := hFirst
          rw [hLinks, LinkedSlots.append_iff]
          have hUpdate : (fun f => (Function.update (registry storage).links prev.fabricIndex
              (some this.next) f).getD kUndefinedFabricIndex) =
              Function.update (fun f =>
                ((registry storage).links f).getD kUndefinedFabricIndex) prev.fabricIndex
                this.next := by
            funext f
            by_cases hSame : f = prev.fabricIndex
            · rw [hSame, Function.update_self, Function.update_self, Option.getD_some]
            · rw [Function.update_of_ne hSame, Function.update_of_ne hSame]
          rw [hUpdate]
          rw [hInit] at hBefore hNodup ⊢
          dsimp only at hBefore hNodup ⊢
          refine ⟨this.next, hBefore.redirect ?_, hAfter.update_of_notMem ?_⟩
          · intro hTwice
            rw [append_assoc, nodup_append] at hNodup
            exact hNodup.2.2 _ hTwice _ (by simp) rfl
          · intro hTwice
            rw [nodup_append] at hNodup
            exact hNodup.2.2 prev.fabricIndex (by simp) _
              (mem_cons_of_mem _ hTwice) rfl
        · change (registry storage).list.entryCount - 1 = _
          omega
        · intro f
          rw [hLinks]
          by_cases hSame : f = prev.fabricIndex
          · rw [hSame, Function.update_self, hKnown.2]
            rfl
          · rw [Function.update_of_ne hSame]
  · rw [hFabric] at hZero
    exact absurd hZero hThis.1
  · rw [hFabric, hThis.2] at hNone
    cases hNone

theorem unregisterLoop_spec (searched rest after : List FabricIndex)
  (hOrder : order = searched ++ rest ++ this.fabricIndex :: after) (prev : Option FabricData)
  (hPrev : ∀ fabric, prev = some fabric → fabric.Known (registry storage))
  (hLast : prev.map (fun fabric => fabric.fabricIndex) = searched.getLast?) (fabric : FabricData)
  (hFabric : fabric.fabricIndex = rest.headD this.fabricIndex) :
  ∃ storage', this.unregisterLoop (registry storage).list
      (rest.length + after.length + 1) prev fabric storage = (.ok (), storage') ∧
    Unlinked storage storage' (searched ++ rest ++ after) := by
  induction rest generalizing searched prev fabric with
  | nil =>
    rw [append_nil] at hOrder ⊢
    exact unlink_spec hOrdered hThis hOrder prev hPrev hLast _ fabric hFabric
  | cons f rest ih =>
    have hFabric : fabric.fabricIndex = f := hFabric
    have hMem : f ∈ order := by
      rw [hOrder]
      simp
    have hOther : f ≠ this.fabricIndex := by
      have hNodup := hOrdered.nodup
      rw [hOrder, nodup_append] at hNodup
      exact hNodup.2.2 f (by simp) _ mem_cons_self
    rcases fabric.load_of_links storage with
      ⟨loaded, hLoad, hKnown, hIndex⟩ | ⟨e, left, -, ⟨hZero, -⟩ | ⟨hNone, -⟩⟩
    · have hOrder' : order = (searched ++ [f]) ++ rest ++ this.fabricIndex :: after := by
        rw [hOrder]
        simp
      have hNext : loaded.next = rest.headD this.fabricIndex := by
        have hSplit : order = searched ++ f :: (rest ++ this.fabricIndex :: after) := by
          rw [hOrder]
          simp
        have hLink := (hOrdered.link_eq hSplit).first_eq
        have hLoaded := hKnown.2
        rw [hIndex, hFabric] at hLoaded
        rw [hLoaded, Option.getD_some] at hLink
        rw [hLink]
        cases rest <;> rfl
      obtain ⟨storage', hLoop, hUnlinked⟩ := ih (searched ++ [f]) hOrder' (some loaded)
        (by rintro _ ⟨⟩; exact hKnown) (by simp [hIndex, hFabric])
        { loaded with fabricIndex := loaded.next } hNext
      refine ⟨storage', ?_, ?_⟩
      · rw [length_cons, show rest.length + 1 + after.length + 1 =
          (rest.length + after.length + 1) + 1 by omega, unregisterLoop,
          read_bind, hLoad]
        dsimp only
        rw [if_neg (by rw [hIndex, hFabric]; exact hOther)]
        exact hLoop
      · rw [show searched ++ f :: rest ++ after = searched ++ [f] ++ rest ++ after by simp]
        exact hUnlinked
    · rw [hFabric] at hZero
      rw [hZero] at hMem
      exact absurd hMem hOrdered.defined
    · rw [hFabric] at hNone
      have hSome := (hOrdered.stored f).mpr hMem
      rw [hNone] at hSome
      cases hSome

end

theorem unregisterLoop_of_notMem (list : FabricList) {rest : List FabricIndex}
  (hRest : ∀ f ∈ rest, f ≠ this.fabricIndex) (prev : Option FabricData) (fabric : FabricData)
  (hLinked : LinkedSlots (fun f => ((registry storage).links f).getD kUndefinedFabricIndex)
    fabric.fabricIndex rest kUndefinedFabricIndex) :
  this.unregisterLoop list rest.length prev fabric storage = (.error .notFound, storage) := by
  induction rest generalizing prev fabric with
  | nil => rfl
  | cons f rest ih =>
    obtain ⟨hFabric, hLinked⟩ := hLinked
    rw [length_cons, unregisterLoop, read_bind]
    rcases fabric.load_of_links storage with
      ⟨loaded, hLoad, hKnown, hIndex⟩ | ⟨e, left, hLoad, -⟩
    · rw [hLoad]
      dsimp only
      rw [if_neg (by rw [hIndex, hFabric]; exact hRest f mem_cons_self)]
      refine ih (fun g hg => hRest g (mem_cons_of_mem _ hg)) _ _ ?_
      have hLink := hKnown.2
      rw [hIndex, hFabric] at hLink
      dsimp only at hLinked
      rw [hLink, Option.getD_some] at hLinked
      exact hLinked
    · rw [hLoad]
      rfl

theorem delete_linked (hOrdered : r.Ordered order) (hLinked : fabric.Linked r) :
  Proc.LeadsTo (fun storage => registry storage = r) fabric.delete FabricsListed := by
  rintro storage rfl
  by_cases hMem : fabric.fabricIndex ∈ order
  · have hKnown : fabric.Known (registry storage) := by
      obtain ⟨next, hNext⟩ := Option.isSome_iff_exists.mp ((hOrdered.stored _).mpr hMem)
      refine ⟨hLinked.1, ?_⟩
      rw [← hLinked.2, hNext, Option.getD_some]
    obtain ⟨before, after, rfl⟩ := List.append_of_mem hMem
    have hCount : (registry storage).list.entryCount = before.length + after.length + 1 := by
      rw [hOrdered.count]
      simp only [List.length_append, List.length_cons]
      omega
    obtain ⟨storage', hLoop, hUnlinked⟩ := unregisterLoop_spec hOrdered hKnown [] before
      after rfl none (fun _ h => nomatch h) rfl
      { fabricIndex := (registry storage).list.firstEntry } (by
        have hFirst := hOrdered.linked.first_eq
        rw [hFirst]
        cases before <;> rfl)
    have hUnregister : fabric.unregister storage = (.ok (), storage') := by
      rw [FabricData.unregister, Proc.read_bind]
      change fabric.unregisterLoop (registry storage).list (registry storage).list.entryCount none
        { fabricIndex := (registry storage).list.firstEntry } storage = _
      rw [hCount]
      exact hLoop
    have hSome : ((storage'.fabric fabric.fabricIndex).data).isSome = true := by
      have hStored := hUnlinked.stored fabric.fabricIndex
      rw [hKnown.2, Option.isSome_some] at hStored
      simpa [registry] using hStored
    have hDelete : fabric.delete storage =
        (.ok (), storage'.withData fabric.fabricIndex none) := by
      rw [FabricData.delete, Proc.bind_ok hUnregister, deleteRecord, fabricKey_of_ne hLinked.1]
      change ((Proc.verify _ _ : StorageM Unit) >>= fun _ => Proc.modify _) storage' = _
      rw [Proc.verify_bind, if_pos hSome]
      rfl
    have hNodup := hOrdered.nodup
    have hGone : fabric.fabricIndex ∉ before ++ after := by
      rw [List.nodup_append, List.nodup_cons] at hNodup
      rw [List.mem_append, not_or]
      exact ⟨fun h => hNodup.2.2 _ h _ List.mem_cons_self rfl, hNodup.2.1.1⟩
    refine ⟨before ++ after, ?_⟩
    rw [hDelete]
    dsimp only [GroupStorage.withData]
    rw [registry_setData]
    constructor
    · refine hUnlinked.linked.congr fun f hf => ?_
      dsimp only
      rw [Function.update_of_ne (by rintro rfl; exact hGone hf)]
    · exact hUnlinked.count
    · exact hNodup.sublist (by simp)
    · intro f
      dsimp only
      by_cases hSame : f = fabric.fabricIndex
      · rw [hSame, Function.update_self]
        simpa using hGone
      · rw [Function.update_of_ne hSame, hUnlinked.stored, hOrdered.stored]
        simp [hSame]
    · intro hZero
      exact hOrdered.defined (by
        rw [List.mem_append] at hZero ⊢
        exact hZero.imp id (List.mem_cons_of_mem _))
  · have hUnregister : fabric.unregister storage = (.error .notFound, storage) := by
      rw [FabricData.unregister, Proc.read_bind]
      change fabric.unregisterLoop (registry storage).list (registry storage).list.entryCount none
        { fabricIndex := (registry storage).list.firstEntry } storage = _
      rw [hOrdered.count]
      refine unregisterLoop_of_notMem _ (fun f hf => ?_) _ _ hOrdered.linked
      rintro rfl
      exact hMem hf
    refine ⟨order, ?_⟩
    rw [FabricData.delete, Proc.bind_error hUnregister]
    exact hOrdered

theorem registry_onFabric (storage : GroupStorage) (fabricIndex : FabricIndex)
  {f : FabricStore → FabricStore} (h : ∀ store, (f store).data = store.data) :
  registry (storage.onFabric fabricIndex f) = registry storage := by
  have hData : ∀ other, (Function.update storage.fabric fabricIndex
      (f (storage.fabric fabricIndex)) other).data = (storage.fabric other).data := by
    intro other
    by_cases hSame : other = fabricIndex
    · rw [hSame, Function.update_self, h]
    · rw [Function.update_of_ne hSame]
  simp only [registry, GroupStorage.onFabric, hData]

theorem saveRecord_keeps {key : Except ChipError Unit} {store : GroupStorage → GroupStorage}
  (h : ∀ storage, registry (store storage) = registry storage) :
  Proc.Keeps registry (saveRecord key store) :=
  .bind (.lift _) fun _ => .modify h

theorem deleteRecord_keeps {ρ : Type} {key : Except ChipError Unit}
  {stored : GroupStorage → Option ρ} {erase : GroupStorage → GroupStorage}
  (h : ∀ storage, registry (erase storage) = registry storage) :
  Proc.Keeps registry (deleteRecord key stored erase) :=
  .bind (.lift _) fun _ => .read_bind fun _ => .bind (.verify _ _) fun _ => .modify h

theorem GroupData.save_keeps (group : GroupData) : Proc.Keeps registry group.save :=
  saveRecord_keeps fun storage => registry_onFabric storage _ fun _ => rfl

theorem GroupData.delete_keeps (group : GroupData) : Proc.Keeps registry group.delete :=
  deleteRecord_keeps fun storage => registry_onFabric storage _ fun _ => rfl

theorem KeyMapData.save_keeps (map : KeyMapData) : Proc.Keeps registry map.save :=
  saveRecord_keeps fun storage => registry_onFabric storage _ fun _ => rfl

theorem KeyMapData.delete_keeps (map : KeyMapData) : Proc.Keeps registry map.delete :=
  deleteRecord_keeps fun storage => registry_onFabric storage _ fun _ => rfl

theorem EndpointData.save_keeps (endpoint : EndpointData) : Proc.Keeps registry endpoint.save :=
  saveRecord_keeps fun storage => registry_onFabric storage _ fun _ => rfl

theorem EndpointData.delete_keeps (endpoint : EndpointData) :
  Proc.Keeps registry endpoint.delete :=
  deleteRecord_keeps fun storage => registry_onFabric storage _ fun _ => rfl

theorem KeySetData.save_keeps (keyset : KeySetData) : Proc.Keeps registry keyset.save :=
  saveRecord_keeps fun storage => registry_onFabric storage _ fun _ => rfl

theorem KeySetData.delete_keeps (keyset : KeySetData) : Proc.Keeps registry keyset.delete :=
  deleteRecord_keeps fun storage => registry_onFabric storage _ fun _ => rfl

theorem relinkGroup_keeps (fabricIndex : FabricIndex) (prev next : GroupId) :
  Proc.Keeps registry (relinkGroup fabricIndex prev next) := by
  refine .read_bind fun storage => ?_
  split
  · exact .fail _
  · exact GroupData.save_keeps _

theorem relinkEndpoint_keeps (fabricIndex : FabricIndex) (groupId : GroupId)
  (prev next : EndpointId) :
  Proc.Keeps registry (relinkEndpoint fabricIndex groupId prev next) := by
  refine .read_bind fun storage => ?_
  split
  · exact .fail _
  · exact EndpointData.save_keeps _

theorem relinkMap_keeps (fabricIndex : FabricIndex) (prev next : UInt16) :
  Proc.Keeps registry (relinkMap fabricIndex prev next) := by
  refine .read_bind fun storage => ?_
  split
  · exact .fail _
  · exact KeyMapData.save_keeps _

theorem relinkKeyset_keeps (fabricIndex : FabricIndex) (prev next : KeysetId) :
  Proc.Keeps registry (relinkKeyset provider fabricIndex prev next) := by
  refine .read_bind fun storage => ?_
  split
  · exact .fail _
  · exact KeySetData.save_keeps _

theorem removeEndpointsLoop_keeps (left : Nat) (endpoint : EndpointData) :
  Proc.Keeps registry (removeEndpointsLoop left endpoint) := by
  induction left generalizing endpoint with
  | zero => exact .pure _
  | succ left ih =>
    refine .read_bind fun storage => ?_
    split
    · exact .fail _
    · exact .bind (.attempt (EndpointData.delete_keeps _)) fun _ => ih _

theorem dropEndpoints_keeps (left : Nat) (endpoint : EndpointData) :
  Proc.Keeps registry (dropEndpoints left endpoint) := by
  induction left generalizing endpoint with
  | zero => exact .pure _
  | succ left ih =>
    refine .read_bind fun storage => ?_
    split
    · exact .pure _
    · exact .bind (.attempt (EndpointData.delete_keeps _)) fun _ => ih _

theorem dropGroupKeys_keeps (left : Nat) (map : KeyMapData) :
  Proc.Keeps registry (dropGroupKeys left map) := by
  induction left generalizing map with
  | zero => exact .pure _
  | succ left ih =>
    refine .read_bind fun storage => ?_
    split
    · exact .pure _
    · exact .bind (.attempt (KeyMapData.delete_keeps _)) fun _ => ih _

theorem removeEndpoints_keeps (fabricIndex : FabricIndex) (groupId : GroupId) :
  Proc.Keeps registry (removeEndpoints fabricIndex groupId) := by
  refine .read_bind fun storage => ?_
  split
  · exact .fail _
  · exact .bind (.verify _ _) fun _ => .bind (removeEndpointsLoop_keeps _ _) fun _ =>
      GroupData.save_keeps _

abbrev SameRegistry (r : Registry) (storage : GroupStorage) : Prop := registry storage = r

section

variable (hOrdered : r.Ordered order)
include hOrdered

theorem removeGroupInfoAt_maintains (fabricIndex : FabricIndex) (index : Nat) :
  Proc.Maintains (SameRegistry r) (removeGroupInfoAt fabricIndex index) fun _ => True := by
  refine .bind (loaded_known fabricIndex) fun fabric hKnown => .read_bind fun storage _ => ?_
  refine .bind (.verify _ _) fun _ _ => .bind (.of_keeps (dropEndpoints_keeps _ _)) fun _ _ => ?_
  refine .bind (.of_keeps (GroupData.delete_keeps _)) fun _ _ => ?_
  split
  · exact save_known hOrdered hKnown.1
  · exact .bind (.of_keeps (relinkGroup_keeps _ _ _)) fun _ _ => save_known hOrdered hKnown.1

theorem removeGroupKeyAt_maintains (fabricIndex : FabricIndex) (index : Nat) :
  Proc.Maintains (SameRegistry r) (removeGroupKeyAt fabricIndex index) fun _ => True := by
  refine .bind (loaded_known fabricIndex) fun fabric hKnown => .read_bind fun storage _ => ?_
  refine .bind (.verify _ _) fun _ _ => .bind (.of_keeps (KeyMapData.delete_keeps _)) fun _ _ => ?_
  split
  · exact save_known hOrdered hKnown.1
  · exact .bind (.of_keeps (relinkMap_keeps _ _ _)) fun _ _ => save_known hOrdered hKnown.1

theorem removeGroupInfo_maintains (fabricIndex : FabricIndex) (groupId : GroupId) :
  Proc.Maintains (SameRegistry r) (removeGroupInfo fabricIndex groupId) fun _ => True := by
  refine .bind (loaded_known fabricIndex) fun fabric _ => .read_bind fun storage _ => ?_
  exact .bind (.verify _ _) fun _ _ => removeGroupInfoAt_maintains hOrdered _ _

theorem removeEndpoint_maintains (fabricIndex : FabricIndex) (groupId : GroupId)
  (endpointId : EndpointId) :
  Proc.Maintains (SameRegistry r) (removeEndpoint fabricIndex groupId endpointId)
    fun _ => True := by
  refine .bind (loaded_known fabricIndex) fun fabric _ => .read_bind fun storage _ => ?_
  refine .bind (.verify _ _) fun _ _ => .bind (.verify _ _) fun _ _ => ?_
  refine .bind (.of_keeps (.attempt (EndpointData.delete_keeps _))) fun _ _ => ?_
  have hRest : ∀ group : GroupData, Proc.Maintains (SameRegistry r)
      (if group.endpointCount > 1 then
        ({ group with endpointCount := group.endpointCount - 1 } : GroupData).save
      else removeGroupInfoAt fabricIndex group.index) fun _ => True := by
    intro group
    split
    · exact .of_keeps (GroupData.save_keeps _)
    · exact removeGroupInfoAt_maintains hOrdered _ _
  split
  · exact hRest _
  · exact .bind (.of_keeps (relinkEndpoint_keeps _ _ _ _)) fun _ _ => hRest _

theorem removeEndpointLoop_maintains (fabric : FabricData) (endpointId : EndpointId) (left : Nat)
  (group : GroupData) :
  Proc.Maintains (SameRegistry r) (removeEndpointLoop fabric endpointId left group)
    fun _ => True := by
  induction left generalizing group with
  | zero => exact .pure trivial
  | succ left ih =>
    refine .read_bind fun storage _ => ?_
    split
    · exact .pure trivial
    · split
      · exact .bind (removeEndpoint_maintains hOrdered _ _ _) fun _ _ => ih _
      · exact ih _

theorem removeEndpointOfFabric_maintains (fabricIndex : FabricIndex) (endpointId : EndpointId) :
  Proc.Maintains (SameRegistry r) (removeEndpointOfFabric fabricIndex endpointId)
    fun _ => True :=
  .bind (loaded_known fabricIndex) fun _ _ => removeEndpointLoop_maintains hOrdered _ _ _ _

theorem removeGroupKeys_maintains (fabricIndex : FabricIndex) :
  Proc.Maintains (SameRegistry r) (removeGroupKeys fabricIndex) fun _ => True := by
  refine .read_bind fun storage hRegistry => ?_
  rcases ({ fabricIndex } : FabricData).load_of_links storage with
    ⟨loaded, hLoad, hKnown, -⟩ | ⟨e, left, hLoad, -⟩
  · rw [hLoad]
    rw [hRegistry] at hKnown
    exact .bind (.of_keeps (dropGroupKeys_keeps _ _)) fun _ _ => save_known hOrdered hKnown
  · rw [hLoad]
    exact .fail _

theorem removeMappings_maintains (targetId : KeysetId) (left : Nat) (fabric : FabricData)
  (map : KeyMapData) :
  Proc.Maintains (SameRegistry r) (removeMappings targetId left fabric map) fun _ => True := by
  induction left generalizing fabric map with
  | zero => exact .pure trivial
  | succ left ih =>
    refine .read_bind fun storage _ => ?_
    dsimp only
    split
    · exact .pure trivial
    · exact .bind (.attempt (removeGroupKeyAt_maintains hOrdered _ _)) fun _ _ => ih _ _

theorem removeKeySet_maintains (fabricIndex : FabricIndex) (targetId : KeysetId) :
  Proc.Maintains (SameRegistry r) (removeKeySet provider fabricIndex targetId)
    fun _ => True := by
  refine .bind (loaded_known fabricIndex) fun fabric hKnown => .read_bind fun storage _ => ?_
  refine .bind (.verify _ _) fun _ _ => .bind (.of_keeps (KeySetData.delete_keeps _)) fun _ _ => ?_
  have hRest : ∀ fabric : FabricData, fabric.Known r → Proc.Maintains (SameRegistry r) (do
      fabric.save
      removeMappings targetId fabric.mapCount fabric { id := 1 }) fun _ => True :=
    fun fabric hKnown => .bind (save_known hOrdered hKnown) fun _ _ =>
      removeMappings_maintains hOrdered _ _ _ _
  split
  · exact hRest _ hKnown.1
  · exact .bind (.of_keeps (relinkKeyset_keeps _ _ _)) fun _ _ => hRest _ hKnown.1

end

theorem removeFromLast_maintains {removeAt : Nat → StorageM Unit}
  (h : ∀ index, Proc.Maintains (SameRegistry r) (removeAt index) fun _ => True) (left : Nat) :
  Proc.Maintains (SameRegistry r) (removeFromLast removeAt left) fun _ => True := by
  induction left with
  | zero => exact .pure trivial
  | succ left ih => exact .bind (.attempt (h _)) fun _ _ => ih

section

variable (hOrdered : r.Ordered order)
include hOrdered

theorem removeKeySets_maintains (fabricIndex : FabricIndex) (left : Nat) (keyset : KeySetData) :
  Proc.Maintains (SameRegistry r) (removeKeySets provider fabricIndex left keyset)
    fun _ => True := by
  induction left generalizing keyset with
  | zero => exact .pure trivial
  | succ left ih =>
    refine .read_bind fun storage _ => ?_
    split
    · exact .pure trivial
    · exact .bind (.attempt (removeKeySet_maintains hOrdered _ _)) fun _ _ => ih _

theorem listed_of_same (storage : GroupStorage) (h : SameRegistry r storage) :
  FabricsListed storage := ⟨order, h ▸ hOrdered⟩

theorem listed_of_maintains {call : StorageM Unit}
  (h : Proc.Maintains (SameRegistry r) call fun _ => True) :
  Proc.LeadsTo (SameRegistry r) call FabricsListed :=
  .of_maintains h (listed_of_same hOrdered)

section

variable (fabricIndex : FabricIndex)

theorem setGroupInfoAt_listed (index : Nat) (info : GroupInfo) :
  Proc.LeadsTo (SameRegistry r) (setGroupInfoAt provider fabricIndex index info)
    FabricsListed := by
  have hSame := listed_of_same hOrdered
  have hKept : ∀ {α : Type} {m : StorageM α} {f : α → StorageM Unit}, Proc.Keeps registry m →
      (∀ a, Proc.LeadsTo (SameRegistry r) (f a) FabricsListed) →
      Proc.LeadsTo (SameRegistry r) (m >>= f) FabricsListed :=
    fun hm hf => .bind (.of_keeps hm) hSame fun a _ => hf a
  refine .bind (loadedOrDefault_linked fabricIndex) hSame fun fabric hLinked => ?_
  refine .read_bind fun storage _ => .bind (.verify _ _) hSame fun _ _ => ?_
  have hRest : ∀ (group : GroupData) (fabric : FabricData), fabric.Linked r →
      Proc.LeadsTo (SameRegistry r) (do
        group.save
        let fabric ← if group.first then pure { fabric with firstGroup := group.groupId }
          else do
            relinkGroup fabricIndex group.prev group.groupId
            pure fabric
        fabric.save) FabricsListed := by
    intro group fabric hLinked
    refine hKept (GroupData.save_keeps _) fun _ => ?_
    split
    · exact save_linked hOrdered hLinked
    · exact hKept (relinkGroup_keeps _ _ _) fun _ => save_linked hOrdered hLinked
  dsimp only
  split
  · exact .of_maintains (.of_keeps (GroupData.save_keeps _)) hSame
  · split
    · exact hKept (removeEndpoints_keeps _ _) fun _ => hKept (GroupData.delete_keeps _) fun _ =>
        hRest _ _ hLinked.1
    · exact .bind (.verify _ _) hSame fun _ _ => .bind (.verify _ _) hSame fun _ _ =>
        hRest _ _ hLinked.1

theorem setGroupInfo_listed (info : GroupInfo) :
  Proc.LeadsTo (SameRegistry r) (setGroupInfo provider fabricIndex info) FabricsListed := by
  have hSame := listed_of_same hOrdered
  refine .bind (loadedOrDefault_linked fabricIndex) hSame fun fabric _ => ?_
  refine .read_bind fun storage _ => ?_
  dsimp only
  split
  · exact .of_maintains (.of_keeps (GroupData.save_keeps _)) hSame
  · exact setGroupInfoAt_listed hOrdered _ _ _

theorem addEndpoint_listed (groupId : GroupId) (endpointId : EndpointId) :
  Proc.LeadsTo (SameRegistry r) (addEndpoint provider fabricIndex groupId endpointId)
    FabricsListed := by
  have hSame := listed_of_same hOrdered
  refine .bind (loadedOrDefault_linked fabricIndex) hSame fun fabric hLinked => ?_
  refine .read_bind fun storage _ => ?_
  dsimp only
  split
  · exact .bind (.verify _ _) hSame fun _ _ =>
      .bind (.of_keeps (EndpointData.save_keeps _)) hSame fun _ _ =>
        .bind (.of_keeps (GroupData.save_keeps _)) hSame fun _ _ => save_linked hOrdered hLinked.1
  · split
    · exact .of_maintains (.pure (Q := fun _ => True) trivial) hSame
    · refine .bind (.of_keeps (EndpointData.save_keeps _)) hSame fun _ _ => ?_
      split
      · exact .of_maintains (.of_keeps (GroupData.save_keeps _)) hSame
      · exact .bind (.of_keeps (EndpointData.save_keeps _)) hSame fun _ _ =>
          .bind (.of_keeps (relinkEndpoint_keeps _ _ _ _)) hSame fun _ _ =>
            .of_maintains (.of_keeps (GroupData.save_keeps _)) hSame

theorem setGroupKeyAt_listed (index : Nat) (inMap : GroupKey) :
  Proc.LeadsTo (SameRegistry r) (setGroupKeyAt provider fabricIndex index inMap)
    FabricsListed := by
  have hSame := listed_of_same hOrdered
  refine .bind (loadedOrDefault_linked fabricIndex) hSame fun fabric hLinked => ?_
  refine .read_bind fun storage _ => .bind (.verify _ _) hSame fun _ _ => ?_
  dsimp only
  split
  · exact .of_maintains (.of_keeps (KeyMapData.save_keeps _)) hSame
  · refine .bind (.verify _ _) hSame fun _ _ => .bind (.verify _ _) hSame fun _ _ => ?_
    refine .bind (.of_keeps (KeyMapData.save_keeps _)) hSame fun _ _ => ?_
    split
    · exact save_linked hOrdered hLinked.1
    · exact .bind (.of_keeps (relinkMap_keeps _ _ _)) hSame fun _ _ =>
        save_linked hOrdered hLinked.1

theorem setKeySet_listed (compressedFabricId : List UInt8) (keyset : KeySet) :
  Proc.LeadsTo (SameRegistry r) (setKeySet provider fabricIndex compressedFabricId keyset)
    FabricsListed := by
  have hSame := listed_of_same hOrdered
  refine .bind (loadedOrDefault_linked fabricIndex) hSame fun fabric hLinked => ?_
  refine .read_bind fun storage _ => .bind (.of_keeps (.lift _)) hSame fun _ _ => ?_
  dsimp only
  split
  · exact .of_maintains (.of_keeps (KeySetData.save_keeps _)) hSame
  · exact .bind (.verify _ _) hSame fun _ _ =>
      .bind (.of_keeps (KeySetData.save_keeps _)) hSame fun _ _ => save_linked hOrdered hLinked.1

theorem removeFabric_listed :
  Proc.LeadsTo (SameRegistry r) (removeFabric provider fabricIndex) FabricsListed := by
  have hSame := listed_of_same hOrdered
  refine .bind (loadedOrDefault_linked fabricIndex) hSame fun fabric hLinked => ?_
  refine .bind (removeFromLast_maintains (removeGroupKeyAt_maintains hOrdered fabricIndex) _) hSame
    fun _ _ => ?_
  refine .bind (removeFromLast_maintains (removeGroupInfoAt_maintains hOrdered fabricIndex) _) hSame
    fun _ _ => ?_
  exact .bind (removeKeySets_maintains hOrdered _ _ _) hSame fun _ _ =>
    delete_linked hOrdered hLinked.1

end

end

theorem GroupCall.call_listed (call : GroupCall) (hOrdered : r.Ordered order) :
  Proc.LeadsTo (SameRegistry r) (call.call provider) FabricsListed := by
  cases call with
  | setGroupInfo fabricIndex info => exact setGroupInfo_listed hOrdered _ _
  | removeGroupInfo fabricIndex groupId =>
    exact listed_of_maintains hOrdered (removeGroupInfo_maintains hOrdered _ _)
  | setGroupInfoAt fabricIndex index info => exact setGroupInfoAt_listed hOrdered _ _ _
  | removeGroupInfoAt fabricIndex index =>
    exact listed_of_maintains hOrdered (removeGroupInfoAt_maintains hOrdered _ _)
  | addEndpoint fabricIndex groupId endpointId => exact addEndpoint_listed hOrdered _ _ _
  | removeEndpoint fabricIndex groupId endpointId =>
    exact listed_of_maintains hOrdered (removeEndpoint_maintains hOrdered _ _ _)
  | removeEndpointOfFabric fabricIndex endpointId =>
    exact listed_of_maintains hOrdered (removeEndpointOfFabric_maintains hOrdered _ _)
  | removeEndpoints fabricIndex groupId =>
    exact listed_of_maintains hOrdered (.of_keeps (removeEndpoints_keeps _ _))
  | setGroupKeyAt fabricIndex index map => exact setGroupKeyAt_listed hOrdered _ _ _
  | removeGroupKeyAt fabricIndex index =>
    exact listed_of_maintains hOrdered (removeGroupKeyAt_maintains hOrdered _ _)
  | removeGroupKeys fabricIndex =>
    exact listed_of_maintains hOrdered (removeGroupKeys_maintains hOrdered _)
  | setKeySet fabricIndex compressedFabricId keyset => exact setKeySet_listed hOrdered _ _ _
  | removeKeySet fabricIndex targetId =>
    exact listed_of_maintains hOrdered (removeKeySet_maintains hOrdered _ _)
  | removeFabric fabricIndex => exact removeFabric_listed hOrdered _

theorem runCalls_listed (provider : GroupDataProvider) (calls : List GroupCall) :
  ∀ storage, FabricsListed storage → FabricsListed (runCalls provider storage calls) := by
  induction calls with
  | nil => exact fun storage h => h
  | cons call calls ih =>
    rintro storage ⟨order, hOrdered⟩
    exact ih _ (call.call_listed hOrdered storage rfl)

end Chip.Credentials.Groups
