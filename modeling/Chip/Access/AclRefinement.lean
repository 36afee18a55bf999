import Chip.Access.AclSpec

/-! How the slots of the example delegate represent the lists of its specification, and that
every call but those that delete or iterate keeps the representation. -/
namespace Chip.Access

open List AclStore

/-- The slot of the entry with an index in the list of a fabric. -/
def Located (f : UInt8) (slots : List EntryStorage) (index slot : Nat) : Prop :=
  ∃ before x after, slots = before ++ x :: after ∧ x.mFabricIndex = f ∧ slot = before.length ∧
    index = (before.filter fun s => s.mFabricIndex = f).length

/-- The counts of the loops of `ConvertIndex`, from one slot to the next. -/
theorem located_from {f : UInt8} {x : EntryStorage} {slots : List EntryStorage}
  {index slot relative absolute : Nat} :
  (∃ i s, index = relative + i ∧ slot = absolute + s ∧ Located f (x :: slots) i s) ↔
    (x.mFabricIndex = f ∧ index = relative ∧ slot = absolute) ∨
    ∃ i s, index = (if x.mFabricIndex = f then relative + 1 else relative) + i ∧
      slot = absolute + 1 + s ∧ Located f slots i s := by
  constructor
  · rintro ⟨i, s, rfl, rfl, before, y, after, hSlots, hFabric, rfl, rfl⟩
    cases before with
    | nil =>
      obtain ⟨rfl, rfl⟩ := cons_eq_cons.mp hSlots
      exact .inl ⟨hFabric, rfl, rfl⟩
    | cons z before =>
      obtain ⟨rfl, rfl⟩ := cons_eq_cons.mp hSlots
      refine .inr ⟨_, before.length, ?_, ?_, before, y, after, rfl, hFabric, rfl, rfl⟩
      · by_cases hx : x.mFabricIndex = f <;> simp [hx]; omega
      · simp only [length_cons]
        omega
  · rintro (⟨hFabric, rfl, rfl⟩ | ⟨_, _, rfl, rfl, before, y, after, rfl, hFabric, rfl, rfl⟩)
    · exact ⟨0, 0, rfl, rfl, [], x, slots, rfl, hFabric, rfl, rfl⟩
    · refine ⟨_, _, ?_, ?_, x :: before, y, after, rfl, hFabric, rfl, rfl⟩
      · by_cases hx : x.mFabricIndex = f <;> simp [hx]; omega
      · simp only [length_cons]
        omega

theorem not_located_nil {f : UInt8} {index slot : Nat} : ¬ Located f [] index slot := by
  rintro ⟨before, x, after, hSlots, -⟩
  simp at hSlots

theorem split_of_filter {α : Type} {p : α → Bool} {l : List α} {i : Nat} {a : α}
  (h : (l.filter p)[i]? = some a) :
  ∃ before after, l = before ++ a :: after ∧ p a = true ∧ i = (before.filter p).length := by
  induction l generalizing i with
  | nil => simp at h
  | cons b l ih =>
    by_cases hb : p b = true
    · rw [filter_cons_of_pos hb] at h
      cases i with
      | zero =>
        cases h
        exact ⟨[], l, rfl, hb, rfl⟩
      | succ i =>
        obtain ⟨before, after, rfl, ha, rfl⟩ := ih h
        exact ⟨b :: before, after, rfl, ha, by simp [hb]⟩
    · rw [filter_cons_of_neg hb] at h
      obtain ⟨before, after, rfl, ha, rfl⟩ := ih h
      exact ⟨b :: before, after, rfl, ha, by simp [hb]⟩

section ConvertIndex

variable {f : UInt8} {slots : List EntryStorage} {blank : EntryStorage} {k : Nat}
  (hBlank : blank.mInUse = false) (hUse : ∀ s ∈ slots, s.mInUse = true)

include hBlank hUse

variable {index slot absolute relative : Nat}

theorem relativeToAbsolute_iff :
  relativeToAbsolute f index (slots ++ replicate k blank) absolute relative =
      some slot ↔
    ∃ i s, index = relative + i ∧ slot = absolute + s ∧ Located f slots i s := by
  induction slots generalizing absolute relative with
  | nil =>
    have hNone : relativeToAbsolute f index (replicate k blank) absolute relative =
        none := by
      cases k with
      | zero => rfl
      | succ k => simp [replicate_succ, relativeToAbsolute, hBlank]
    simp [hNone, not_located_nil]
  | cons x slots ih =>
    have hx := hUse x mem_cons_self
    have hRest := fun {a r} => @ih (fun y hy => hUse y (mem_cons_of_mem _ hy)) a r
    simp only [cons_append, relativeToAbsolute, hx, Bool.not_true, Bool.false_eq_true, ↓reduceIte,
      located_from]
    by_cases hFabric : x.mFabricIndex = f
    · by_cases hIndex : index = relative
      · have hLater : ∀ i, relative ≠ relative + 1 + i := by omega
        simp [hFabric, hIndex, hLater, eq_comm]
      · simp [hFabric, hIndex, hRest]
    · simp [hFabric, hRest]

theorem absoluteToRelative_iff :
  absoluteToRelative f slot (slots ++ replicate k blank) absolute relative =
      some index ↔
    ∃ i s, index = relative + i ∧ slot = absolute + s ∧ Located f slots i s := by
  induction slots generalizing absolute relative with
  | nil =>
    have hNone : absoluteToRelative f slot (replicate k blank) absolute relative =
        none := by
      cases k with
      | zero => rfl
      | succ k => simp [replicate_succ, absoluteToRelative, hBlank]
    simp [hNone, not_located_nil]
  | cons x slots ih =>
    have hx := hUse x mem_cons_self
    have hRest := fun {a r} => @ih (fun y hy => hUse y (mem_cons_of_mem _ hy)) a r
    simp only [cons_append, absoluteToRelative, hx, Bool.not_true, Bool.false_eq_true, ↓reduceIte,
      located_from]
    by_cases hFabric : x.mFabricIndex = f
    · by_cases hSlot : slot = absolute
      · have hLater : ∀ s, absolute ≠ absolute + 1 + s := by omega
        simp [hFabric, hSlot, hLater, eq_comm]
      · simp [hFabric, hSlot, hRest]
    · simp [hFabric, hRest]

end ConvertIndex

def HandleRel (st : AclStore) (entries : List (Nat × EntryStorage)) :
  Option StorageRef → Handle → Prop
  | none, .default => True
  | some (.acl slot), .live id => (entries.map Prod.fst)[slot]? = some id
  | some (.pool index), .own value => st.pool[index]? = some value
  | _, _ => False

theorem HandleRel.congr {st st' : AclStore} {entries entries' : List (Nat × EntryStorage)}
  {ref : Option StorageRef} {handle : Handle} (h : HandleRel st entries ref handle)
  (hPool : ∀ index, ref = some (.pool index) → st'.pool[index]? = st.pool[index]?)
  (hIds : ∀ slot id, ref = some (.acl slot) → (entries.map Prod.fst)[slot]? = some id →
    (entries'.map Prod.fst)[slot]? = some id) :
  HandleRel st' entries' ref handle := by
  cases ref with
  | none => cases handle <;> exact h
  | some ref =>
    cases ref with
    | acl slot =>
      cases handle with
      | default => exact h
      | own value => exact h
      | live id => exact hIds slot id rfl h
    | pool index =>
      cases handle with
      | default => exact h
      | live id => exact h
      | own value => exact (hPool index rfl).trans h

/-- The place of an iterator that has passed the first `k` slots of the list. -/
def placeAfter (k : Nat) : Option Nat := if k = 0 then none else some (k - 1)

/-- The entries of an iterator's fabric that come after the first `k` slots. -/
def idsAfter (entries : List (Nat × EntryStorage)) (fabricIndex : Option UInt8) (k : Nat) :
  List Nat :=
  ((entries.drop k).filter fun x => AclStore.matchesFabric fabricIndex x.2).map Prod.fst

def IteratorRel (length : Nat) (entries : List (Nat × EntryStorage)) :
  Option EntryIteratorDelegate → Option IteratorSpec → Prop
  | none, none => True
  | some delegate, some it => delegate.mFabricIndex = it.fabricIndex ∧
      match it.ahead with
      | none => delegate.mStorage = some length
      | some ahead => ∃ k ≤ entries.length, delegate.mStorage = placeAfter k ∧
          ahead = idsAfter entries it.fabricIndex k
  | _, _ => False

/-- The slots in use hold the entries of the specification, in their order. -/
structure Refines (config : AclConfig) (st : AclStore) (spec : AclSpec)
    (entries : List (Nat × EntryStorage)) : Prop where
  sound : st.Sound
  blank : st.blank = .cleared config.maxSubjects config.maxTargets
  maxEntriesPerFabric : st.maxEntriesPerFabric = config.maxEntriesPerFabric
  length : st.acl.length = config.maxEntries
  values : entries.map Prod.snd = st.used
  order : spec.order = entries.map Prod.fst
  lists : ∀ f, spec.lists f = entries.filter fun x => x.2.mFabricIndex = f
  fresh : ∀ x ∈ entries, x.1 < spec.fresh
  nodup : (entries.map Prod.fst).Nodup
  handles : ∀ entry, HandleRel st entries (st.delegates.lookup entry) (spec.handles entry)
  iterators : ∀ iterator, IteratorRel st.acl.length entries (st.iterators.lookup iterator)
    (spec.iterators iterator)

namespace Refines

variable {config : AclConfig} {st st' : AclStore} {spec : AclSpec}
  {entries : List (Nat × EntryStorage)}

theorem length_used (h : Refines config st spec entries) : st.used.length = entries.length := by
  rw [← h.values, length_map]

theorem used_le (st : AclStore) : st.used.length ≤ st.acl.length :=
  (takeWhile_sublist _).length_le

variable {entry : Nat} {entries entries' : List (Nat × EntryStorage)}

section

variable (h : Refines config st spec entries)
include h

theorem denotes {ref : StorageRef} (hRef : st.delegates.lookup entry = some ref) :
  spec.Denotes (spec.handles entry) (st.storageAt ref) := by
  have hRel := h.handles entry
  rw [hRef] at hRel
  cases ref with
  | acl slot =>
    cases hHandle : spec.handles entry with
    | default =>
      rw [hHandle] at hRel
      exact hRel.elim
    | own value =>
      rw [hHandle] at hRel
      exact hRel.elim
    | live id =>
      rw [hHandle] at hRel
      have hStored := (storageAt_acl h.sound (h.sound.inUse hRef)).1
      rw [← h.values] at hStored
      obtain ⟨x, hx, hValue⟩ := Option.map_eq_some_iff.mp ((getElem?_map ..).symm.trans hStored)
      obtain ⟨y, hy, hId⟩ := Option.map_eq_some_iff.mp ((getElem?_map ..).symm.trans hRel)
      rw [hx] at hy
      cases hy
      refine ⟨x.2.mFabricIndex, ?_⟩
      rw [h.lists, mem_filter, ← hValue, ← hId]
      exact ⟨mem_of_getElem? hx, by simp⟩
  | pool index =>
    cases hHandle : spec.handles entry with
    | default =>
      rw [hHandle] at hRel
      exact hRel.elim
    | live id =>
      rw [hHandle] at hRel
      exact hRel.elim
    | own value =>
      rw [hHandle] at hRel
      change st.pool.getD index st.blank = value
      rw [getD_eq_getElem?_getD, hRel]
      rfl

theorem denoted {value : EntryStorage} (hValue : spec.Denotes (spec.handles entry) value) :
  ∃ ref, st.delegates.lookup entry = some ref ∧ st.storageAt ref = value := by
  have hRel := h.handles entry
  cases hRef : st.delegates.lookup entry with
  | none =>
    rw [hRef] at hRel
    cases hHandle : spec.handles entry with
    | default =>
      rw [hHandle] at hValue
      exact hValue.elim
    | live id =>
      rw [hHandle] at hRel
      exact hRel.elim
    | own value' =>
      rw [hHandle] at hRel
      exact hRel.elim
  | some ref =>
    refine ⟨ref, rfl, ?_⟩
    have hDenotes := h.denotes hRef
    cases hHandle : spec.handles entry with
    | default =>
      rw [hHandle] at hValue
      exact hValue.elim
    | own value' =>
      rw [hHandle] at hValue hDenotes
      exact hDenotes.trans hValue.symm
    | live id =>
      rw [hHandle] at hValue hDenotes
      obtain ⟨f, hMem⟩ := hValue
      obtain ⟨f', hMem'⟩ := hDenotes
      rw [h.lists, mem_filter] at hMem hMem'
      have hEq := inj_on_of_nodup_map h.nodup hMem'.1 hMem.1 rfl
      exact congrArg Prod.snd hEq

theorem frame {handle : Handle} (hFrame : AclStore.Frame st st' entry) (hSound : st'.Sound)
  (hHandle : HandleRel st' entries (st'.delegates.lookup entry) handle) :
  Refines config st' (spec.setHandle entry handle) entries where
  sound := hSound
  blank := hFrame.blank.trans h.blank
  maxEntriesPerFabric := hFrame.maxEntriesPerFabric.trans h.maxEntriesPerFabric
  length := by
    rw [hFrame.acl]
    exact h.length
  values := h.values.trans hFrame.used.symm
  order := h.order
  lists := h.lists
  fresh := h.fresh
  nodup := h.nodup
  handles := by
    intro other
    change HandleRel _ _ _ (Function.update spec.handles entry handle other)
    by_cases hOther : other = entry
    · subst hOther
      rw [Function.update_self]
      exact hHandle
    · rw [Function.update_of_ne hOther, hFrame.others hOther]
      exact (h.handles other).congr (fun index hRef => hFrame.copies hOther hRef)
        fun _ _ _ hId => hId
  iterators := by
    intro iterator
    rw [hFrame.acl, hFrame.iterators]
    exact h.iterators iterator

theorem prepare (entry : Nat) :
  ∃ spec', AclSpec.Step config spec (.prepare entry) (prepareEntry entry st).1.isOk spec' ∧
    Refines config (prepareEntry entry st).2 spec' entries := by
  rcases prepareEntry_spec h.sound entry with hRun |
    ⟨st', index, hRun, hFrame, hSound, hRef, hGet⟩
  · rw [hRun]
    exact ⟨spec, .prepareFails entry, h⟩
  · rw [hRun]
    refine ⟨_, .prepare entry, h.frame hFrame hSound ?_⟩
    rw [hRef]
    change st'.pool[index]? = _
    rw [hGet, h.blank]

theorem edit (entry : Nat) (change' : EntryEdit) :
  ∃ spec', AclSpec.Step config spec (.edit entry change')
      (editEntry entry change' st).1.isOk spec' ∧
    Refines config (editEntry entry change' st).2 spec' entries := by
  rcases editEntry_spec h.sound entry change' with ⟨e, hRun⟩ |
    ⟨storage, st₁, index, hFrame₁, hSound₁, hRef₁, hGet₁, hValue, hSome, hRun⟩
  · rw [hRun]
    exact ⟨spec, .editFails entry change', h⟩
  · obtain ⟨ref, hRef⟩ := Option.isSome_iff_exists.mp hSome
    have hDenotes := h.denotes hRef
    rw [← hValue ref hRef] at hDenotes
    rcases hRun with ⟨e, hEdit, hRun⟩ | ⟨storage', st', hEdit, hRun, hFrame, hSound, hRef', hGet⟩
    · rw [hRun]
      refine ⟨_, .editCopies hDenotes hEdit, h.frame hFrame₁ hSound₁ ?_⟩
      rw [hRef₁]
      exact hGet₁
    · rw [hRun]
      refine ⟨_, .edit hDenotes hEdit, h.frame hFrame hSound ?_⟩
      rw [hRef']
      exact hGet

theorem releaseEntry (entry : Nat) :
  ∃ spec', AclSpec.Step config spec (.releaseEntry entry) true spec' ∧
    Refines config (st.release entry) spec' entries := by
  obtain ⟨hFrame, hNone⟩ := release_frame h.sound entry
  refine ⟨_, .releaseEntry entry, h.frame hFrame (release_sound h.sound entry) ?_⟩
  rw [hNone]
  trivial

theorem locate {f : UInt8} {index slot : Nat}
  (hFind : st.findUsedInAcl (some f) index = some slot) :
  ∃ before id value after, entries = before ++ (id, value) :: after ∧ value.mFabricIndex = f ∧
    slot = before.length ∧ index = (before.filter fun x => x.2.mFabricIndex = f).length ∧
    (spec.lists f)[index]? = some (id, value) := by
  obtain ⟨hFind, -⟩ := Option.filter_eq_some_iff.mp hFind
  obtain ⟨k, hAcl⟩ := h.sound.rest
  change relativeToAbsolute f index st.acl 0 0 = some slot at hFind
  rw [hAcl, relativeToAbsolute_iff rfl fun s hs => used_inUse st hs] at hFind
  obtain ⟨i, s, rfl, rfl, before, x, after, hUsed, hFabric, rfl, rfl⟩ := hFind
  rw [← h.values] at hUsed
  obtain ⟨first, rest, rfl, rfl, hRest⟩ := map_eq_append_iff.mp hUsed
  obtain ⟨y, last, rfl, rfl, rfl⟩ := map_eq_cons_iff.mp hRest
  have hLength : ((first.map Prod.snd).filter fun s => s.mFabricIndex = f).length =
      (first.filter fun x => x.2.mFabricIndex = f).length := by
    rw [filter_map, length_map]
    rfl
  refine ⟨first, y.1, y.2, last, rfl, hFabric, by simp, ?_, ?_⟩
  · rw [Nat.zero_add, hLength]
  · rw [h.lists, Nat.zero_add, hLength]
    simp [hFabric]

theorem locate_none {f : UInt8} {index : Nat} (hFind : st.findUsedInAcl (some f) index = none) :
  (spec.lists f)[index]? = none := by
  by_contra hSome
  obtain ⟨x, hx⟩ := Option.ne_none_iff_exists'.mp hSome
  rw [h.lists] at hx
  obtain ⟨before, after, rfl, hFabric, rfl⟩ := split_of_filter hx
  have hUsed : st.used = before.map Prod.snd ++ x.2 :: after.map Prod.snd := by
    rw [← h.values]
    simp
  have hLt : before.length < st.used.length := by
    rw [hUsed]
    simp
  obtain ⟨k, hAcl⟩ := h.sound.rest
  have hSlot : relativeToAbsolute f
      (before.filter fun x => x.2.mFabricIndex = f).length st.acl 0 0 = some before.length := by
    rw [hAcl, relativeToAbsolute_iff rfl fun s hs => used_inUse st hs]
    refine ⟨_, _, (Nat.zero_add _).symm, (Nat.zero_add _).symm, before.map Prod.snd, x.2,
      after.map Prod.snd, hUsed, by simpa using hFabric, by simp, ?_⟩
    rw [filter_map, length_map]
    rfl
  have hTest : (before.length < st.acl.length && (st.storageAt (.acl before.length)).mInUse) = true := by
    have hIn := used_inUse st (storageAt_acl h.sound hLt).2
    simp [hIn, Nat.lt_of_lt_of_le hLt (used_le st)]
  have hFound : st.findUsedInAcl (some f) (before.filter fun x => x.2.mFabricIndex = f).length =
      some before.length := Option.filter_eq_some_iff.mpr ⟨hSlot, hTest⟩
  rw [hFound] at hFind
  cases hFind

theorem read (fabricIndex : Option UInt8) (index entry : Nat) :
  ∃ spec', AclSpec.Step config spec (.read fabricIndex index entry)
      (readEntry fabricIndex index entry st).1.isOk spec' ∧
    Refines config (readEntry fabricIndex index entry st).2 spec' entries := by
  rcases readEntry_spec h.sound fabricIndex index entry with ⟨e, hRun⟩ |
    ⟨slot, st', hFind, hRun, hFrame, hSound, hRef⟩
  · rw [hRun]
    exact ⟨spec, .readFails fabricIndex index entry, h⟩
  · rw [hRun]
    cases fabricIndex with
    | none =>
      have hLt := findUsedInAcl_lt h.sound hFind
      unfold findUsedInAcl at hFind
      have hSlot : some index = some slot := (Option.filter_eq_some_iff.mp hFind).1
      obtain rfl : index = slot := Option.some.inj hSlot
      have hIn : index < (entries.map Prod.fst).length := by
        rw [length_map, ← h.length_used]
        exact hLt
      have hId := getElem?_eq_getElem hIn
      refine ⟨_, .readAny (by rw [h.order]; exact hId), h.frame hFrame hSound ?_⟩
      rw [hRef]
      exact hId
    | some f =>
      obtain ⟨before, id, value, after, hEntries, hFabric, rfl, -, hEntry⟩ := h.locate hFind
      refine ⟨_, .read hEntry, h.frame hFrame hSound ?_⟩
      rw [hRef]
      change (entries.map Prod.fst)[before.length]? = some id
      rw [hEntries]
      simp

theorem accepts_iff :
  spec.Accepts entry ↔
    ∃ ref, st.delegates.lookup entry = some ref ∧ (st.storageAt ref).isValid = true := by
  constructor
  · rintro ⟨value, hValue, hValid⟩
    obtain ⟨ref, hRef, rfl⟩ := h.denoted hValue
    exact ⟨ref, hRef, hValid⟩
  · rintro ⟨ref, hRef, hValid⟩
    exact ⟨_, h.denotes hRef, hValid⟩

theorem entryCount_eq (f : UInt8) : entryCount f st.acl = (spec.lists f).length := by
  change st.used.countP _ = _
  rw [← h.values, h.lists, countP_map, countP_eq_length_filter]
  rfl

end

theorem idsAfter_append {fabricIndex : Option UInt8} {k : Nat} (hk : k ≤ entries.length)
  (x : Nat × EntryStorage) :
  idsAfter (entries ++ [x]) fabricIndex k =
    if matchesFabric fabricIndex x.2 then idsAfter entries fabricIndex k ++ [x.1]
    else idsAfter entries fabricIndex k := by
  unfold idsAfter
  rw [drop_append_of_le_length hk, filter_append, map_append]
  split_ifs with hMatch
  · simp [hMatch]
  · simp [hMatch]

theorem create (h : Refines config st spec entries) (f : UInt8) (entry : Nat)
  (hFabric : ∀ value, spec.Denotes (spec.handles entry) value → value.mFabricIndex = f) :
  ∃ spec' entries', AclSpec.Step config spec (.create (some f) entry)
      (AclStore.createEntry (some f) entry st).1.isOk spec' ∧
    Refines config (AclStore.createEntry (some f) entry st).2 spec' entries' := by
  rcases AclStore.createEntry_spec h.sound (some f) entry with ⟨e, hRun⟩ |
    ⟨ref, k, hRef, hRun, hSound, hUsed, hLength⟩
  · have hWhy := AclStore.createEntry_fails h.sound hRun
    rw [hRun]
    refine ⟨spec, entries, .createFails ?_, h⟩
    rw [h.accepts_iff, ← h.maxEntriesPerFabric, ← h.entryCount_eq, ← h.length, h.order,
      List.length_map, ← h.length_used]
    exact hWhy
  · have hValue := h.denotes hRef
    have hOf := hFabric _ hValue
    have hValid : (st.storageAt ref).isValid = true := hSound.valid _ (by rw [hUsed]; simp)
    rw [hRun]
    refine ⟨spec.append f (st.storageAt ref), entries ++ [(spec.fresh, st.storageAt ref)],
      .create hValue hValid, hSound, h.blank, h.maxEntriesPerFabric, hLength.trans h.length, ?_, ?_, ?_, ?_, ?_,
      ?_, ?_⟩
    · rw [hUsed, ← h.values]
      simp
    · change spec.order ++ [spec.fresh] = _
      rw [h.order]
      simp
    · intro g
      change Function.update spec.lists f _ g = _
      rw [List.filter_append]
      by_cases hg : g = f
      · rw [hg, Function.update_self, h.lists]
        simp [hOf]
      · rw [Function.update_of_ne hg, h.lists]
        have hNe : (st.storageAt ref).mFabricIndex ≠ g := fun hEq => hg (hEq.symm.trans hOf)
        simp [hNe]
    · intro x hx
      change x.1 < spec.fresh + 1
      rcases List.mem_append.mp hx with hOld | hNew
      · exact Nat.lt_succ_of_lt (h.fresh x hOld)
      · rw [List.mem_singleton.mp hNew]
        exact Nat.lt_succ_self _
    · rw [List.map_append, List.nodup_append]
      refine ⟨h.nodup, List.nodup_singleton _, ?_⟩
      intro a ha b hb
      obtain ⟨x, hx, rfl⟩ := List.mem_map.mp ha
      have hLt := h.fresh x hx
      have hb : b = spec.fresh := by simpa using hb
      omega
    · intro other
      refine (h.handles other).congr (fun _ _ => rfl) fun slot id _ hId => ?_
      have hLt := (List.getElem?_eq_some_iff.mp hId).1
      rw [List.map_append, List.getElem?_append_left hLt]
      exact hId
    · intro iterator
      have hRel := h.iterators iterator
      change IteratorRel (st.used ++ [st.storageAt ref] ++ List.replicate k st.blank).length _
        (st.iterators.lookup iterator) ((spec.iterators iterator).map _)
      rw [hLength]
      cases hDelegate : st.iterators.lookup iterator with
      | none =>
        cases hIt : spec.iterators iterator with
        | none => trivial
        | some it =>
          rw [hDelegate, hIt] at hRel
          exact hRel
      | some delegate =>
        cases hIt : spec.iterators iterator with
        | none =>
          rw [hDelegate, hIt] at hRel
          exact hRel
        | some it =>
          rw [hDelegate, hIt] at hRel
          obtain ⟨hFilter, hAhead⟩ := hRel
          obtain ⟨fabricIndex, ahead⟩ := it
          refine ⟨hFilter, ?_⟩
          cases ahead with
          | none => exact hAhead
          | some ahead =>
            obtain ⟨k, hk, hPlace, hIds⟩ := hAhead
            refine ⟨k, by simp; omega, hPlace, ?_⟩
            rw [idsAfter_append hk, hIds]
            simp only [AclStore.matchesFabric, hOf, eq_comm]

theorem idsAfter_congr (h : entries.map (fun x => (x.1, x.2.mFabricIndex)) =
    entries'.map fun x => (x.1, x.2.mFabricIndex)) (fabricIndex : Option UInt8) (k : Nat) :
  idsAfter entries fabricIndex k = idsAfter entries' fabricIndex k := by
  have hKey : ∀ l : List (Nat × EntryStorage), idsAfter l fabricIndex k =
      (((l.map fun x => (x.1, x.2.mFabricIndex)).drop k).filter fun y =>
        fabricIndex.all fun f => y.2 = f).map Prod.fst := by
    intro l
    unfold idsAfter
    rw [← map_drop, filter_map, map_map]
    rfl
  rw [hKey, hKey, h]

theorem iteratorRel_congr {length : Nat} {delegate : Option EntryIteratorDelegate}
  {it : Option IteratorSpec} (h : IteratorRel length entries delegate it)
  (hKeys : entries.map (fun x => (x.1, x.2.mFabricIndex)) =
    entries'.map fun x => (x.1, x.2.mFabricIndex)) :
  IteratorRel length entries' delegate it := by
  cases delegate with
  | none => cases it <;> exact h
  | some delegate =>
    cases it with
    | none => exact h
    | some it =>
      obtain ⟨fabricIndex, ahead⟩ := it
      obtain ⟨hFilter, hAhead⟩ := h
      refine ⟨hFilter, ?_⟩
      cases ahead with
      | none => exact hAhead
      | some ahead =>
        obtain ⟨k, hk, hPlace, hIds⟩ := hAhead
        have hLength := congrArg List.length hKeys
        rw [List.length_map, List.length_map] at hLength
        exact ⟨k, hLength ▸ hk, hPlace, hIds.trans (idsAfter_congr hKeys fabricIndex k)⟩

theorem update (h : Refines config st spec entries) (f : UInt8) (index entry : Nat)
  (hFabric : ∀ value, spec.Denotes (spec.handles entry) value → value.mFabricIndex = f) :
  ∃ spec' entries', AclSpec.Step config spec (.update (some f) index entry)
      (updateEntry (some f) index entry st).1.isOk spec' ∧
    Refines config (updateEntry (some f) index entry st).2 spec' entries' := by
  rcases updateEntry_spec h.sound (some f) index entry with ⟨e, hRun⟩ |
    ⟨ref, k, slot, hRef, hFind, hLt, hRun, hSound, hUsed, hLength⟩
  · have hWhy := updateEntry_fails hRun
    rw [hRun]
    refine ⟨spec, entries, .updateFails ?_, h⟩
    rw [h.accepts_iff]
    exact hWhy.imp_right h.locate_none
  · have hValue := h.denotes hRef
    have hOf := hFabric _ hValue
    have hValid : (st.storageAt ref).isValid = true :=
      hSound.valid _ (by rw [hUsed]; exact mem_set hLt _)
    obtain ⟨before, id, old, after, rfl, hOld, rfl, rfl, hEntry⟩ := h.locate hFind
    have hKeys : (before ++ (id, old) :: after).map (fun x => (x.1, x.2.mFabricIndex)) =
        (before ++ (id, st.storageAt ref) :: after).map fun x => (x.1, x.2.mFabricIndex) := by
      simp [hOld, hOf]
    have hIds : (before ++ (id, st.storageAt ref) :: after).map Prod.fst =
        (before ++ (id, old) :: after).map Prod.fst := by simp
    rw [hRun]
    refine ⟨spec.replace f _ id (st.storageAt ref), before ++ (id, st.storageAt ref) :: after,
      .update hEntry hValue hValid, hSound, h.blank, h.maxEntriesPerFabric,
      hLength.trans h.length, ?_, ?_, ?_, ?_, ?_, ?_, ?_⟩
    · rw [hUsed, ← h.values]
      simp
    · rw [hIds]
      exact h.order
    · intro g
      change Function.update spec.lists f _ g = _
      by_cases hg : g = f
      · rw [hg, Function.update_self, h.lists]
        simp [hOld, hOf]
      · have hNe : old.mFabricIndex ≠ g := fun hEq => hg (hEq.symm.trans hOld)
        have hNe' : (st.storageAt ref).mFabricIndex ≠ g := fun hEq => hg (hEq.symm.trans hOf)
        rw [Function.update_of_ne hg, h.lists]
        simp [hNe, hNe']
    · intro x hx
      have hFresh : ∀ i ∈ (before ++ (id, old) :: after).map Prod.fst, i < spec.fresh := by
        intro i hi
        obtain ⟨y, hy, rfl⟩ := mem_map.mp hi
        exact h.fresh y hy
      exact hFresh x.1 (hIds ▸ mem_map_of_mem hx)
    · rw [hIds]
      exact h.nodup
    · intro other
      refine (h.handles other).congr (fun _ _ => rfl) fun slot id' _ hId => ?_
      rw [hIds]
      exact hId
    · intro iterator
      rw [hLength]
      exact iteratorRel_congr (h.iterators iterator) hKeys

end Refines

end Chip.Access
