import Chip.App.SubscriptionLifetime
import Chip.App.SubscriptionRefill
import Chip.Data.SlotTable

/-! The storage of subscriptions as a bounded map. With storage and memory that do not fail, it
keeps one subscription for each key, up to its limit, and iteration gives them all. -/
namespace Chip.App

open List SubscriptionInfo SubscriptionState TLV SlotTable

inductive MapCall where
  | save (info : SubscriptionInfo)
  | delete (nodeId : UInt64) (fabricIndex : UInt8) (subscriptionId : UInt32)
  | deleteAll (fabricIndex : UInt8)

/-- A subscription is known by its node, its fabric and its id. -/
def SubscriptionInfo.key (info : SubscriptionInfo) : UInt64 × UInt8 × UInt32 :=
  (info.mNodeId, info.mFabricIndex, info.mSubscriptionId)

/-- No more subscriptions can be kept, and none that is kept has the key. -/
def Refuses (limit : Nat) (kept : List SubscriptionInfo) (info : SubscriptionInfo) : Prop :=
  kept.length = limit ∧ info.key ∉ kept.map SubscriptionInfo.key

instance (limit : Nat) (kept : List SubscriptionInfo) (info : SubscriptionInfo) :
    Decidable (Refuses limit kept info) :=
  inferInstanceAs (Decidable (_ ∧ _))

def keptStep (limit : Nat) (kept : List SubscriptionInfo) : MapCall → List SubscriptionInfo
  | .save info =>
    if Refuses limit kept info then kept
    else info :: kept.filter fun other => info.key ≠ other.key
  | .delete nodeId fabricIndex subscriptionId =>
    kept.filter fun other => (nodeId, fabricIndex, subscriptionId) ≠ other.key
  | .deleteAll fabricIndex => kept.filter fun other => fabricIndex ≠ other.mFabricIndex

def keptAfter (limit : Nat) (calls : List MapCall) : List SubscriptionInfo :=
  calls.foldl (keptStep limit) []

theorem nodup_filter_keys {kept : List SubscriptionInfo} (p : SubscriptionInfo → Bool)
  (h : (kept.map key).Nodup) :
  ((kept.filter p).map key).Nodup :=
  (filter_sublist.map key).nodup h

theorem keptStep_keys {limit : Nat} {kept : List SubscriptionInfo} (call : MapCall)
  (h : (kept.map key).Nodup) :
  ((keptStep limit kept call).map key).Nodup := by
  cases call with
  | save info =>
    rw [keptStep]
    split_ifs
    · exact h
    · refine nodup_cons.mpr ⟨?_, nodup_filter_keys _ h⟩
      intro hMem
      obtain ⟨other, hOther, hKey⟩ := mem_map.mp hMem
      have hDifferent := (mem_filter.mp hOther).2
      simp [hKey] at hDifferent
  | delete nodeId fabricIndex subscriptionId => exact nodup_filter_keys _ h
  | deleteAll fabricIndex => exact nodup_filter_keys _ h

theorem keptAfter_keys (limit : Nat) (calls : List MapCall) :
  ((keptAfter limit calls).map key).Nodup := by
  have hFold : ∀ kept : List SubscriptionInfo, (kept.map key).Nodup →
      ((calls.foldl (keptStep limit) kept).map key).Nodup := by
    induction calls with
    | nil => exact fun kept h => h
    | cons call rest ih => exact fun kept h => ih _ (keptStep_keys call h)
  exact hFold [] nodup_nil

def grantedMemory : ScanMemory := fun _ => .all

/-- The records below the limit are those of a table of subscriptions, all of which fit. -/
structure StoredAs (build : SubscriptionBuild) (slots : Nat → Option SubscriptionInfo)
    (st : SubscriptionRecords) : Prop where
  record : ∀ i < build.limit, st.record i = (slots i).map subscriptionBytes
  within : ∀ i < build.limit, ∀ info, slots i = some info →
    info.WithinPathGroups build.maxNumPathGroups

/-- `Load` has room for every record that `Save` can write: the cast of `MaxSubscriptionSize` to
`uint16_t` does not truncate it. -/
def SubscriptionBuild.RecordsLoad (build : SubscriptionBuild) : Prop :=
  build.limit = 0 ∨ maxSubscriptionSize build.maxNumPathGroups < 2 ^ 16

instance (build : SubscriptionBuild) : Decidable build.RecordsLoad :=
  inferInstanceAs (Decidable (_ ∨ _))

def loadedFrom : Option SubscriptionInfo → Except ChipError SubscriptionInfo
  | none => .error .persistedStorageValueNotFound
  | some info => .ok info

section Records

variable {build : SubscriptionBuild} {slots : Nat → Option SubscriptionInfo}
  {st : SubscriptionRecords} {i : Nat}

theorem SubscriptionBuild.RecordsLoad.maxSize (hBuild : build.RecordsLoad) (hi : i < build.limit) :
  maxSubscriptionSize build.maxNumPathGroups < 2 ^ 16 :=
  hBuild.resolve_left (by omega)

theorem length_le_loadLength (hBuild : build.RecordsLoad) (hi : i < build.limit)
  {info : SubscriptionInfo} (h : info.WithinPathGroups build.maxNumPathGroups) :
  (subscriptionBytes info).length ≤ loadLength build := by
  rw [loadLength, Nat.mod_eq_of_lt (hBuild.maxSize hi)]
  exact length_subscriptionBytes_le h

section

variable (h : StoredAs build slots st) (hBuild : build.RecordsLoad) (hi : i < build.limit)
include h hBuild hi

theorem StoredAs.load : loadSubscription build .all st i = loadedFrom (slots i) := by
  rw [loadSubscription, if_neg (by decide), h.record i hi]
  cases hSlot : slots i with
  | none => rfl
  | some info =>
    have hFits := length_le_loadLength hBuild hi (h.within i hi info hSlot)
    have hCast : loadLength build < 2 ^ 16 := Nat.mod_lt _ (by decide)
    simp only [Option.map_some, if_pos hFits]
    rw [decodeSubscription_bytes .all info (by omega), if_pos ⟨fun _ => rfl, fun _ => rfl⟩,
      loadedFrom]

theorem StoredAs.loadInto (object : SubscriptionInfo) :
  loadInto build .all st i object = match slots i with
    | none => (.error .persistedStorageValueNotFound, object)
    | some info => (.ok (), info) := by
  have hRecord := h.record i hi
  cases hSlot : slots i with
  | none =>
    rw [hSlot] at hRecord
    exact loadInto_none hRecord object
  | some info =>
    rw [hSlot] at hRecord
    exact loadInto_subscriptionBytes hRecord
      (length_le_loadLength hBuild hi (h.within i hi info hSlot)) object

end

theorem StoredAs.count (h : StoredAs build slots st) :
  countSubscriptions build st = (items slots build.limit).length := by
  rw [countSubscriptions, length_items]
  apply countP_congr
  intro i hMem
  rw [h.record i (mem_range.mp hMem), Option.isSome_map]

end Records

section Scans

variable {build : SubscriptionBuild} {slots : Nat → Option SubscriptionInfo}
  {st st' : SubscriptionRecords}

section

variable (info : SubscriptionInfo) (indices : List Nat) (firstEmpty : Option Nat)
  (st : SubscriptionRecords)

theorem saveScan_deletes {memory : ScanMemory} {i : Nat} (hMem : i ∈ indices)
  (h : Deletable build memory info.isSame st i) :
  (saveScan build memory info indices firstEmpty st).2.record i = none := by
  induction indices generalizing firstEmpty st with
  | nil => cases hMem
  | cons index rest ih =>
    by_cases hIndex : i = index
    · subst hIndex
      obtain ⟨current, hLoad, hSame⟩ := h
      rw [saveScan, hLoad]
      simp only [hSame, if_true]
      have hShrunk := (saveScan_spec build memory info rest (firstEmpty <|> some i)
        (st.delete i)).1
      rcases hShrunk.record i with hKept | hNone
      · rw [hKept]
        simp
      · exact hNone
    · have hRest := (mem_cons.mp hMem).resolve_left hIndex
      rw [saveScan]
      split
      · exact ih _ st hRest h
      · split_ifs
        · exact ih _ _ hRest ((Deletable.congr (by simp [hIndex])).mp h)
        · exact ih _ st hRest h

theorem saveScan_keeps {memory : ScanMemory} {i : Nat}
  (h : i ∈ indices → ¬ Deletable build memory info.isSame st i) :
  (saveScan build memory info indices firstEmpty st).2.record i = st.record i := by
  induction indices generalizing firstEmpty st with
  | nil => rfl
  | cons index rest ih =>
    have hRest : i ∈ rest → ¬ Deletable build memory info.isSame st i :=
      fun hi => h (mem_cons_of_mem index hi)
    rw [saveScan]
    split
    · exact ih _ st hRest
    · rename_i current hLoad
      split_ifs with hMatch
      · have hIndex : i ≠ index := by
          rintro rfl
          exact h mem_cons_self ⟨current, hLoad, hMatch⟩
        have hSame : (st.delete index).record i = st.record i := by simp [hIndex]
        rw [ih _ _ (fun hi hDel => hRest hi ((Deletable.congr hSame).mp hDel)), hSame]
      · exact ih _ st hRest

theorem saveScan_index (hOnce : indices.Nodup)
  (hLoad : ∀ i ∈ indices, loadSubscription build .all st i = loadedFrom (slots i)) :
  (saveScan build grantedMemory info indices firstEmpty st).1 =
    (firstEmpty <|> indices.find? fun i => (slots i).all info.isSame) := by
  induction indices generalizing firstEmpty st with
  | nil => simp [saveScan]
  | cons index rest ih =>
    obtain ⟨hNew, hOnce⟩ := nodup_cons.mp hOnce
    have hRest : ∀ i ∈ rest, loadSubscription build .all st i = loadedFrom (slots i) :=
      fun i hi => hLoad i (mem_cons_of_mem index hi)
    have hDeleted : ∀ i ∈ rest,
        loadSubscription build .all (st.delete index) i = loadedFrom (slots i) := by
      intro i hi
      have hIndex : i ≠ index := fun h => hNew (h ▸ hi)
      rw [← hRest i hi]
      exact loadSubscription_congr .all (by simp [hIndex])
    have hHere : loadSubscription build (grantedMemory index) st index =
        loadedFrom (slots index) := hLoad index mem_cons_self
    rw [saveScan, hHere]
    cases hSlot : slots index with
    | none =>
      simp only [loadedFrom, if_true]
      rw [ih _ st hOnce hRest, find?_cons_of_pos (by simp [hSlot])]
      cases firstEmpty <;> simp
    | some current =>
      simp only [loadedFrom]
      by_cases hSame : info.isSame current = true
      · rw [if_pos hSame, ih _ _ hOnce hDeleted, find?_cons_of_pos (by simp [hSlot, hSame])]
        cases firstEmpty <;> simp
      · rw [if_neg hSame, ih _ st hOnce hRest, find?_cons_of_neg (by simp [hSlot, hSame])]

end

theorem StoredAs.deletable_iff (h : StoredAs build slots st)
  (hBuild : build.RecordsLoad)
  (matching : SubscriptionInfo → Bool) {i : Nat} (hi : i < build.limit) :
  Deletable build grantedMemory matching st i ↔ (slots i).any matching = true := by
  have hLoad : loadSubscription build (grantedMemory i) st i = loadedFrom (slots i) :=
    h.load hBuild hi
  rw [Deletable, hLoad]
  cases hSlot : slots i with
  | none => simp [loadedFrom]
  | some info => simp [loadedFrom]

theorem StoredAs.without (h : StoredAs build slots st)
  (hBuild : build.RecordsLoad)
  (matching : SubscriptionInfo → Bool)
  (hDeletes : ∀ i < build.limit, Deletable build grantedMemory matching st i →
    st'.record i = none)
  (hKeeps : ∀ i < build.limit, ¬ Deletable build grantedMemory matching st i →
    st'.record i = st.record i) :
  StoredAs build (SlotTable.without slots matching) st' := by
  refine ⟨fun i hi => ?_, fun i hi info hSlot => ?_⟩
  · have hDeletable := h.deletable_iff hBuild matching hi
    have hRecord := h.record i hi
    by_cases hMatch : (slots i).any matching = true
    · rw [hDeletes i hi (hDeletable.mpr hMatch), SlotTable.without]
      cases hSlot : slots i with
      | none => rfl
      | some info =>
        rw [hSlot, Option.any_some] at hMatch
        simp [hMatch]
    · rw [hKeeps i hi (mt hDeletable.mp hMatch), hRecord, SlotTable.without]
      cases hSlot : slots i with
      | none => rfl
      | some info =>
        rw [hSlot, Option.any_some] at hMatch
        simp [hMatch]
  · exact h.within i hi info (Option.filter_eq_some_iff.mp hSlot).1

theorem isSame_iff (info other : SubscriptionInfo) :
  info.isSame other = decide (info.key = other.key) := by
  simp [isSame, key, Bool.and_assoc, Prod.ext_iff]

theorem find_eq_none_iff {limit : Nat} (info : SubscriptionInfo) :
  ((range limit).find? fun i => (slots i).all info.isSame) = none ↔
    Refuses limit (items slots limit) info := by
  rw [find?_eq_none, Refuses, length_items_eq_iff]
  constructor
  · intro h
    have hSlot : ∀ i < limit, ∃ other, slots i = some other ∧ info.key ≠ other.key := by
      intro i hi
      have hNot := h i (mem_range.mpr hi)
      cases hSlot : slots i with
      | none => simp [hSlot] at hNot
      | some other =>
        rw [hSlot, Option.all_some, isSame_iff] at hNot
        exact ⟨other, rfl, by simpa using hNot⟩
    refine ⟨fun i hi hNone => ?_, fun hMem => ?_⟩
    · obtain ⟨other, hSome, -⟩ := hSlot i hi
      rw [hNone] at hSome
      cases hSome
    · obtain ⟨other, hOther, hKey⟩ := mem_map.mp hMem
      obtain ⟨i, hi, hPlace⟩ := mem_items.mp hOther
      obtain ⟨other', hPlace', hDifferent⟩ := hSlot i hi
      rw [hPlace] at hPlace'
      cases hPlace'
      exact hDifferent hKey.symm
  · rintro ⟨hFull, hNew⟩ i hMem hAll
    have hi := mem_range.mp hMem
    cases hSlot : slots i with
    | none => exact hFull i hi hSlot
    | some other =>
      rw [hSlot, Option.all_some, isSame_iff] at hAll
      have hKey : info.key = other.key := by simpa using hAll
      exact hNew (mem_map.mpr ⟨other, mem_items.mpr ⟨i, hi, hSlot⟩, hKey.symm⟩)

variable (hBuild : build.RecordsLoad)

include hBuild

variable {info : SubscriptionInfo}

section

variable (h : StoredAs build slots st)
include h

theorem StoredAs.save_refused (hRefuses : Refuses build.limit (items slots build.limit) info) :
  saveSubscription build grantedMemory true info st = (.error .noMemory, st) := by
  have hIndex := saveScan_index info (range build.limit) none st nodup_range
    fun i hi => h.load hBuild (mem_range.mp hi)
  rw [(find_eq_none_iff info).mpr hRefuses] at hIndex
  have hScanned : (saveScan build grantedMemory info (range build.limit) none st).2 = st := by
    have hRecord : (saveScan build grantedMemory info (range build.limit) none st).2.record =
        st.record := by
      funext i
      refine saveScan_keeps info (range build.limit) none st fun hMem hDel => ?_
      have hi := mem_range.mp hMem
      rw [h.deletable_iff hBuild _ hi] at hDel
      cases hSlot : slots i with
      | none => simp [hSlot] at hDel
      | some other =>
        rw [hSlot, Option.any_some, isSame_iff] at hDel
        have hKey : info.key = other.key := by simpa using hDel
        exact hRefuses.2 (mem_map.mpr ⟨other, mem_items.mpr ⟨i, hi, hSlot⟩, hKey.symm⟩)
    have hMax := (saveScan_spec build grantedMemory info (range build.limit) none st).1.maxCount
    cases hSt : (saveScan build grantedMemory info (range build.limit) none st).2
    rw [hSt] at hRecord hMax
    cases st
    simp only at hRecord hMax
    rw [hRecord, hMax]
  rw [saveSubscription]
  cases hScan : saveScan build grantedMemory info (range build.limit) none st with
  | mk index scanned =>
    rw [hScan] at hIndex hScanned
    simp only at hIndex hScanned
    subst hIndex hScanned
    rfl

theorem StoredAs.save_stored (hWithin : info.WithinPathGroups build.maxNumPathGroups)
  (hRefuses : ¬ Refuses build.limit (items slots build.limit) info) :
  ∃ slots' st', saveSubscription build grantedMemory true info st = (.ok (), st') ∧
    StoredAs build slots' st' ∧ (items slots' build.limit).Perm
      (info :: (items slots build.limit).filter fun other => info.key ≠ other.key) := by
  have hIndex := saveScan_index info (range build.limit) none st nodup_range
    fun i hi => h.load hBuild (mem_range.mp hi)
  cases hFind : (range build.limit).find? fun i => (slots i).all info.isSame with
  | none => exact absurd ((find_eq_none_iff info).mp hFind) hRefuses
  | some index =>
    have hi : index < build.limit := mem_range.mp (mem_of_find?_eq_some hFind)
    have hAll : (slots index).all info.isSame = true := by simpa using find?_some hFind
    have hEmpty : SlotTable.without slots info.isSame index = none := by
      rw [SlotTable.without]
      cases hSlot : slots index with
      | none => rfl
      | some other =>
        rw [hSlot, Option.all_some] at hAll
        simp [hAll]
    have hScanned := h.without hBuild info.isSame
      (fun i hi hDel => saveScan_deletes info _ none st (mem_range.mpr hi) hDel)
      (fun i hi hDel => saveScan_keeps info _ none st fun _ => hDel)
    have hMax := hBuild.maxSize hi
    have hEncode : encodeInto (maxSubscriptionSize build.maxNumPathGroups)
        (serializeSubscription info) = .ok (subscriptionBytes info) :=
      encodeInto_of_fits (serializeSubscription_legal info) (length_subscriptionBytes_le hWithin)
        (by omega)
    have hLength : (subscriptionBytes info).length < 2 ^ 16 :=
      (length_subscriptionBytes_le hWithin).trans_lt hMax
    refine ⟨Function.update (SlotTable.without slots info.isSame) index (some info),
      (saveScan build grantedMemory info (range build.limit) none st).2.set index
        (some (subscriptionBytes info)), ?_, ?_, ?_⟩
    · rw [saveSubscription]
      cases hScan : saveScan build grantedMemory info (range build.limit) none st with
      | mk found scanned =>
        rw [hScan, hFind] at hIndex
        have hFound : found = some index := hIndex
        subst hFound
        simp only [Bool.true_eq_false, if_false, hEncode, if_pos hLength]
    · refine ⟨fun i hi' => ?_, fun i hi' other hSlot => ?_⟩
      · have hRecord := hScanned.record i hi'
        by_cases hHere : i = index
        · subst hHere
          simp [SubscriptionRecords.set]
        · simp [SubscriptionRecords.set, hHere, hRecord]
      · by_cases hHere : i = index
        · subst hHere
          rw [Function.update_self] at hSlot
          cases hSlot
          exact hWithin
        · rw [Function.update_of_ne hHere] at hSlot
          exact hScanned.within i hi' other hSlot
    · refine (items_update_perm hi hEmpty info).trans ?_
      rw [items_without]
      simp [isSame_iff]

theorem StoredAs.deleteScan (matching : SubscriptionInfo → Bool) :
  StoredAs build (SlotTable.without slots matching)
    (finishDelete (deleteScan build grantedMemory matching (range build.limit) (0, 0) st)) :=
  h.without hBuild matching
    (fun i hi hDel => by
      rw [finishDelete_record]
      exact deleteScan_deletes matching _ _ st (mem_range.mpr hi) hDel)
    (fun i hi hDel => by
      rw [finishDelete_record]
      exact deleteScan_keeps matching _ _ st hDel)

theorem StoredAs.nextInto_none {index : Nat} (hi : index < build.limit)
  (hEmpty : slots index = none) (rest : List Nat) (object : SubscriptionInfo) :
  nextInto build grantedMemory (index :: rest) object st =
    nextInto build grantedMemory rest object st := by
  have hLoad : Chip.App.loadInto build (grantedMemory index) st index object = _ :=
    h.loadInto hBuild hi object
  rw [hEmpty] at hLoad
  rw [nextInto, hLoad]
  simp

theorem StoredAs.nextInto_some {index : Nat} (hi : index < build.limit)
  (hSlot : slots index = some info) (rest : List Nat) (object : SubscriptionInfo) :
  nextInto build grantedMemory (index :: rest) object st = (some index, info, st) := by
  have hLoad : Chip.App.loadInto build (grantedMemory index) st index object = _ :=
    h.loadInto hBuild hi object
  rw [hSlot] at hLoad
  rw [nextInto, hLoad]

theorem StoredAs.iterate (count : Nat) :
  ∀ (calls nextIndex : Nat) (object : SubscriptionInfo), nextIndex + count = build.limit →
    count < calls → iterate build grantedMemory calls nextIndex object st =
      (some ((range' nextIndex count).filterMap slots), st) := by
  induction count with
  | zero =>
    intro calls nextIndex object hIndex hCalls
    obtain ⟨calls, rfl⟩ := Nat.exists_eq_succ_of_ne_zero (Nat.ne_of_gt hCalls)
    have hRest : build.limit - nextIndex = 0 := by omega
    rw [Chip.App.iterate, hRest]
    rfl
  | succ count ih =>
    intro calls nextIndex object hIndex hCalls
    obtain ⟨calls, rfl⟩ := Nat.exists_eq_succ_of_ne_zero (show calls ≠ 0 by omega)
    have hi : nextIndex < build.limit := by omega
    have hRange : (range (build.limit - nextIndex)).map (nextIndex + ·) =
        nextIndex :: (range (build.limit - (nextIndex + 1))).map (nextIndex + 1 + ·) := by
      rw [← range'_eq_map_range, ← range'_eq_map_range,
        show build.limit - nextIndex = build.limit - (nextIndex + 1) + 1 by omega, range'_succ]
    rw [range'_succ]
    cases hSlot : slots nextIndex with
    | none =>
      rw [filterMap_cons_none hSlot, Chip.App.iterate, hRange,
        h.nextInto_none hBuild hi hSlot]
      have hLater := ih (calls + 1) (nextIndex + 1) object (by omega) (by omega)
      rwa [Chip.App.iterate] at hLater
    | some info =>
      rw [filterMap_cons_some hSlot, Chip.App.iterate, hRange,
        h.nextInto_some hBuild hi hSlot]
      simp only [ih calls (nextIndex + 1) info (by omega) (by omega), Option.map_some]

end

end Scans

def MapCall.call : MapCall → SubscriptionCall
  | .save info => .save grantedMemory true info
  | .delete nodeId fabricIndex subscriptionId =>
    .delete grantedMemory nodeId fabricIndex subscriptionId
  | .deleteAll fabricIndex => .deleteAll grantedMemory fabricIndex

/-- A `Save` is of a subscription with no more paths than the build allows. -/
def MapCall.Within (build : SubscriptionBuild) : MapCall → Prop
  | .save info => info.WithinPathGroups build.maxNumPathGroups
  | _ => True

def recordsAfter (build : SubscriptionBuild) (calls : List MapCall) : SubscriptionRecords :=
  ((SubscriptionState.start build).run (calls.map MapCall.call)).records

def Keeps (build : SubscriptionBuild) (kept : List SubscriptionInfo) (st : SubscriptionRecords) :
  Prop :=
  ∃ slots, StoredAs build slots st ∧ (items slots build.limit).Perm kept

section Runs

variable {build : SubscriptionBuild} {kept : List SubscriptionInfo} {st : SubscriptionRecords}

theorem Refuses.perm {limit : Nat} {kept' : List SubscriptionInfo} {info : SubscriptionInfo}
  (h : kept.Perm kept') : Refuses limit kept info ↔ Refuses limit kept' info := by
  rw [Refuses, Refuses, h.length_eq, (h.map key).mem_iff]

theorem Keeps.step (hBuild : build.RecordsLoad) (h : Keeps build kept st) (call : MapCall)
  (hWithin : call.Within build) :
  Keeps build (keptStep build.limit kept call)
    (SubscriptionState.step ⟨build, st⟩ call.call).records := by
  obtain ⟨slots, hStored, hPerm⟩ := h
  cases call with
  | save info =>
    by_cases hRefuses : Refuses build.limit (items slots build.limit) info
    · have hSave := hStored.save_refused hBuild hRefuses
      refine ⟨slots, ?_, ?_⟩
      · simpa only [MapCall.call, SubscriptionState.step, hSave] using hStored
      · rwa [keptStep, if_pos ((Refuses.perm hPerm).mp hRefuses)]
    · obtain ⟨slots', st', hSave, hStored', hPerm'⟩ :=
        hStored.save_stored hBuild hWithin hRefuses
      refine ⟨slots', ?_, ?_⟩
      · simpa only [MapCall.call, SubscriptionState.step, hSave] using hStored'
      · rw [keptStep, if_neg (mt (Refuses.perm hPerm).mpr hRefuses)]
        exact hPerm'.trans ((hPerm.filter _).cons info)
  | delete nodeId fabricIndex subscriptionId =>
    refine ⟨_, hStored.deleteScan hBuild _, ?_⟩
    rw [items_without]
    refine (hPerm.filter _).trans (List.Perm.of_eq ?_)
    apply filter_congr
    intro other _
    simp [key, Prod.ext_iff, Bool.and_assoc]
  | deleteAll fabricIndex =>
    refine ⟨_, hStored.deleteScan hBuild _, ?_⟩
    rw [items_without]
    refine (hPerm.filter _).trans (List.Perm.of_eq ?_)
    apply filter_congr
    intro other _
    simp

theorem start_record (build : SubscriptionBuild) (i : Nat) :
  (start build).records.record i = none := rfl

theorem keeps_run (hBuild : build.RecordsLoad) (calls : List MapCall)
  (hWithin : ∀ call ∈ calls, call.Within build) :
  Keeps build (keptAfter build.limit calls) (recordsAfter build calls) := by
  have hRun : ∀ kept st, Keeps build kept st →
      Keeps build (calls.foldl (keptStep build.limit) kept)
        (run (calls.map MapCall.call) ⟨build, st⟩).records := by
    induction calls with
    | nil => exact fun kept st h => h
    | cons call rest ih =>
      intro kept st h
      have hStep := h.step hBuild call (hWithin call mem_cons_self)
      have hSame : step ⟨build, st⟩ call.call =
          ⟨build, (step ⟨build, st⟩ call.call).records⟩ := by
        cases call <;> rfl
      rw [map_cons, run, foldl_cons, foldl_cons, hSame]
      exact ih (fun other hOther => hWithin other (mem_cons_of_mem call hOther)) _ _ hStep
  refine hRun [] _ ⟨fun _ => none, ⟨fun i hi => rfl, fun i hi info h => by cases h⟩, ?_⟩
  simp [items]

/-- The storage is the map that keeps these subscriptions. `Save` fails when the map refuses, and
then changes nothing; an iteration, with whatever object, gives each subscription once; and
`Count` is their number. -/
structure IsMapOf (build : SubscriptionBuild) (kept : List SubscriptionInfo)
    (st : SubscriptionRecords) : Prop where
  keys : (kept.map SubscriptionInfo.key).Nodup
  save : ∀ info : SubscriptionInfo, info.WithinPathGroups build.maxNumPathGroups →
    ((saveSubscription build grantedMemory true info st).1 ≠ .ok () ↔
      Refuses build.limit kept info)
  refused : ∀ info : SubscriptionInfo, info.WithinPathGroups build.maxNumPathGroups →
    Refuses build.limit kept info → (saveSubscription build grantedMemory true info st).2 = st
  iteration : ∀ object : SubscriptionInfo, ∃ subscriptions,
    iterate build grantedMemory (build.limit + 1) 0 object st = (some subscriptions, st) ∧
      subscriptions.Perm kept
  count : countSubscriptions build st = kept.length

theorem Keeps.isMapOf (hBuild : build.RecordsLoad) (h : Keeps build kept st)
  (hKeys : (kept.map key).Nodup) : IsMapOf build kept st := by
  obtain ⟨slots, hStored, hPerm⟩ := h
  refine ⟨hKeys, fun info hWithin => ⟨fun hFails => ?_, fun hRefuses => ?_⟩,
    fun info hWithin hRefuses => ?_, fun object => ?_, ?_⟩
  · by_contra hStores
    obtain ⟨slots', st', hSave, -, -⟩ :=
      hStored.save_stored hBuild hWithin (mt (Refuses.perm hPerm).mp hStores)
    rw [hSave] at hFails
    exact hFails rfl
  · rw [hStored.save_refused hBuild ((Refuses.perm hPerm).mpr hRefuses)]
    simp
  · rw [hStored.save_refused hBuild ((Refuses.perm hPerm).mpr hRefuses)]
  · refine ⟨items slots build.limit, ?_, hPerm⟩
    rw [hStored.iterate hBuild build.limit (build.limit + 1) 0 object (Nat.zero_add _)
      (Nat.lt_succ_self _), ← range_eq_range']
    rfl
  · rw [hStored.count, hPerm.length_eq]

/-- No record can be loaded: each is longer than `Load` has room for. -/
def TooLong (build : SubscriptionBuild) (st : SubscriptionRecords) : Prop :=
  ∀ i bytes, st.record i = some bytes → loadLength build < bytes.length

theorem TooLong.loadInto (h : TooLong build st) (index : Nat) (object : SubscriptionInfo) :
  ∃ e, loadInto build .all st index object = (.error e, object) := by
  rw [Chip.App.loadInto, if_neg (by decide)]
  cases hRecord : st.record index with
  | none => exact ⟨_, rfl⟩
  | some bytes => exact ⟨_, if_neg (Nat.not_le.mpr (h index bytes hRecord))⟩

theorem TooLong.nextInto (h : TooLong build st) (indices : List Nat) (object : SubscriptionInfo) :
  (nextInto build grantedMemory indices object st).1 = none := by
  induction indices generalizing st with
  | nil => rfl
  | cons index rest ih =>
    obtain ⟨e, hLoad⟩ := h.loadInto index object
    have hDeleted : TooLong build (st.delete index) := by
      intro i bytes hRecord
      rw [SubscriptionRecords.record_delete] at hRecord
      split_ifs at hRecord
      exact h i bytes hRecord
    rw [Chip.App.nextInto, show grantedMemory index = LoadMemory.all from rfl, hLoad]
    simp only
    split_ifs
    · exact ih h
    · exact ih hDeleted

theorem TooLong.iterate (h : TooLong build st) (calls nextIndex : Nat) (object : SubscriptionInfo) :
  (iterate build grantedMemory (calls + 1) nextIndex object st).1 = some [] := by
  have hNext := h.nextInto ((range (build.limit - nextIndex)).map (nextIndex + ·)) object
  rw [Chip.App.iterate]
  split
  · rfl
  · rename_i hSome
    rw [hSome] at hNext
    cases hNext

theorem loadLength_lt_widest (hBuild : ¬ build.RecordsLoad)
  (hLength : (subscriptionBytes (widestSubscription build.maxNumPathGroups
    build.maxNumPathGroups)).length < 2 ^ 16) :
  loadLength build < (subscriptionBytes (widestSubscription build.maxNumPathGroups
    build.maxNumPathGroups)).length := by
  have hSize : 2 ^ 16 ≤ maxSubscriptionSize build.maxNumPathGroups := by
    by_contra hSmall
    exact hBuild (.inr (by omega))
  rw [length_widestSubscription] at hLength ⊢
  rw [maxSubscriptionSize_eq] at hSize
  have hOnce : 66 + 58 * build.maxNumPathGroups < 2 * 2 ^ 16 := by omega
  rw [loadLength, maxSubscriptionSize_eq, Nat.mod_eq_sub_mod hSize, Nat.mod_eq_of_lt (by omega)]
  omega

theorem tooLong_save {info : SubscriptionInfo}
  (hLong : (subscriptionBytes info).length < 2 ^ 16 →
    loadLength build < (subscriptionBytes info).length) :
  TooLong build (recordsAfter build [.save info]) := by
  have hSave : recordsAfter build [.save info] =
      (saveSubscription build grantedMemory true info (start build).records).2 :=
    rfl
  obtain ⟨scanned, hShrunk, hStored⟩ := saveSubscription_spec build grantedMemory true info
    (start build).records
  have hScanned : ∀ i, scanned.record i = none := by
    intro i
    rcases hShrunk.record i with hSame | hNone
    · rw [hSame, start_record]
    · exact hNone
  intro i bytes hRecord
  rw [hSave] at hRecord
  rcases hStored with hNothing | ⟨index, -, hLength, hRecorded⟩
  · rw [hNothing, hScanned] at hRecord
    cases hRecord
  · rw [hRecorded] at hRecord
    by_cases hHere : i = index
    · subst hHere
      simp only [SubscriptionRecords.set, Function.update_self, Option.some.injEq] at hRecord
      rw [← hRecord]
      exact hLong hLength
    · simp [SubscriptionRecords.set, hHere, hScanned] at hRecord

end Runs

/-- After every sequence of calls the storage is the map that keeps what was saved. -/
def StoresAsMap (build : SubscriptionBuild) : Prop :=
  ∀ calls : List MapCall, (∀ call ∈ calls, call.Within build) →
    IsMapOf build (keptAfter build.limit calls) (recordsAfter build calls)

theorem not_storesAsMap {build : SubscriptionBuild} (hBuild : ¬ build.RecordsLoad) :
  ¬ StoresAsMap build := by
  intro h
  have hLimit : build.limit ≠ 0 := fun hZero => hBuild (.inl hZero)
  generalize hWidest : widestSubscription build.maxNumPathGroups build.maxNumPathGroups = widest
  have hWithin : widest.WithinPathGroups build.maxNumPathGroups := by
    rw [← hWidest]
    simp [SubscriptionInfo.WithinPathGroups, widestSubscription]
  have hAccepts : ¬ Refuses build.limit [] widest := fun hRefuses => hLimit hRefuses.1.symm
  obtain ⟨subscriptions, hIterate, hPerm⟩ :=
    (h [.save widest] (by simpa [MapCall.Within] using hWithin)).iteration widest
  have hKept : keptAfter build.limit [.save widest] = [widest] := by
    rw [keptAfter, foldl_cons, keptStep, if_neg hAccepts]
    rfl
  have hLong : TooLong build (recordsAfter build [.save widest]) := by
    rw [← hWidest]
    exact tooLong_save (loadLength_lt_widest hBuild)
  have hNothing := hLong.iterate build.limit 0 widest
  rw [hIterate] at hNothing
  cases hNothing
  rw [hKept] at hPerm
  exact absurd hPerm.length_eq (by simp)

/-- **The storage of subscriptions is a bounded map exactly in a build whose estimate of a record
fits the `uint16_t` that `Load` casts it to.** -/
theorem storesAsMap_iff (build : SubscriptionBuild) : StoresAsMap build ↔ build.RecordsLoad := by
  constructor
  · intro h
    by_contra hBuild
    exact not_storesAsMap hBuild h
  · intro hBuild calls hWithin
    exact (keeps_run hBuild calls hWithin).isMapOf hBuild (keptAfter_keys build.limit calls)

/-- A build for 126 fabrics has an estimate of 65838 bytes, of which the cast leaves 302. A
subscription with 14 wildcard paths takes 303: it is saved, and then deleted by the iteration that
should give it. -/
theorem storesAsMap_fails_wildcards :
    (saveSubscription ⟨378, 1134⟩ grantedMemory true (widestSubscription 14 0)
        (SubscriptionState.start ⟨378, 1134⟩).records).1 = .ok () ∧
      (iterate ⟨378, 1134⟩ grantedMemory 379 0 (bareSubscription 1 1)
        (recordsAfter ⟨378, 1134⟩ [.save (widestSubscription 14 0)])).1 = some [] ∧
      ¬ StoresAsMap ⟨378, 1134⟩ :=
  ⟨by decide +kernel, by decide +kernel, not_storesAsMap (by decide)⟩

end Chip.App
