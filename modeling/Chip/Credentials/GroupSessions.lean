import Chip.Credentials.GroupFabrics
import Chip.Credentials.GroupSessionIterator
import Chip.Data.StoppedWalk

/-! What the iterator over the group sessions is for: the sessions of all the entries of the key
maps. The walk of `Next` is the walk through the cells of the fabrics up to the first one that
is missing; `Count` starts such a walk in every fabric. -/
namespace Chip.Credentials.Groups

open GroupSessionIterator

section

variable (crypto : GroupCrypto) (storage : GroupStorage)

/-- The sessions of an entry of a key map from a key of its key set on: one for every key in use
whose hash is the session identifier, or a missing one if the entry or its key set does not
exist. -/
def cellsFromKey (sessionId : UInt16) (fabric : FabricData) (keyIndex : Nat) :
  Option GroupKey → List (Option GroupSession)
  | none => [none]
  | some entry =>
    match ({} : KeySetData).find crypto storage fabric entry.keysetId with
    | (false, _) => [none]
    | (true, keyset) =>
      ((keyset.usedKeys.drop keyIndex).filter fun key => key.hash = sessionId).map fun key =>
        some (groupSession sessionId fabric.fabricIndex entry.groupId keyset key)

def entryCells (sessionId : UInt16) (fabric : FabricData) :
  Option GroupKey → List (Option GroupSession) :=
  cellsFromKey crypto storage sessionId fabric 0

/-- What `GetGroupKeyAt` returns for the indices below the number of entries. -/
def keyMap (fabric : FabricData) : List (Option GroupKey) :=
  (List.range fabric.mapCount).map fun index =>
    (getGroupKeyAt fabric.fabricIndex index storage).1.toOption

def fabricCells (sessionId : UInt16) (fabricIndex : FabricIndex) : List (Option GroupSession) :=
  match ({ fabricIndex } : FabricData).load storage with
  | (.error _, _) => []
  | (.ok (), fabric) => (keyMap storage fabric).flatMap (entryCells crypto storage sessionId fabric)

/-- The walk along the list of fabrics, with so many fabrics left. -/
def registeredFrom : Nat → FabricIndex → List FabricIndex
  | 0, _ => []
  | left + 1, fabricIndex =>
    match ({ fabricIndex } : FabricData).load storage with
    | (.error _, _) => []
    | (.ok (), fabric) => fabricIndex :: registeredFrom left fabric.next

def registeredFabrics : List FabricIndex :=
  match storage.fabricList with
  | none => []
  | some fabricList => registeredFrom storage fabricList.entryCount fabricList.firstEntry

def sessionCells (sessionId : UInt16) : List (Option GroupSession) :=
  (registeredFabrics storage).flatMap (fabricCells crypto storage sessionId)

def allFabricIndices : List FabricIndex := (List.range 256).map UInt8.ofNat

/-- One session for each fabric, each entry of its key map and each key in use of the key set
that the entry names, if it exists, whose hash is the session identifier. -/
def matchingSessions (sessionId : UInt16) : List GroupSession :=
  (allFabricIndices.flatMap (fabricCells crypto storage sessionId)).reduceOption

end

variable {crypto : GroupCrypto} {storage : GroupStorage} {sessionId : UInt16}

theorem FabricData.load_fabricIndex {fabric loaded : FabricData}
  (h : fabric.load storage = (.ok (), loaded)) : loaded.fabricIndex = fabric.fabricIndex := by
  unfold FabricData.load loadRecord at h
  split at h
  · cases h
  · cases h
  · cases h
    rfl

theorem FabricData.load_cases (fabric : FabricData) (storage : GroupStorage) :
  (∃ loaded, fabric.load storage = (.ok (), loaded) ∧
    ({ fabricIndex := fabric.fabricIndex } : FabricData).load storage = (.ok (), loaded)) ∨
  ∃ e left other, fabric.load storage = (.error e, left) ∧
    ({ fabricIndex := fabric.fabricIndex } : FabricData).load storage = (.error e, other) := by
  unfold FabricData.load loadRecord
  dsimp only
  cases fabricKey fabric.fabricIndex with
  | error e => exact .inr ⟨e, _, _, rfl, rfl⟩
  | ok _ =>
    cases (storage.fabric fabric.fabricIndex).data with
    | none => exact .inr ⟨.notFound, _, _, rfl, rfl⟩
    | some record => exact .inl ⟨_, rfl, rfl⟩

def storedMap (storage : GroupStorage) (fabricIndex : FabricIndex) (id : UInt16) :
  Option KeyMapRecord :=
  match fabricKey fabricIndex with
  | .error _ => none
  | .ok () => (storage.fabric fabricIndex).maps id

theorem KeyMapData.load_of_some (map : KeyMapData) {record : KeyMapRecord}
  (h : storedMap storage map.fabricIndex map.id = some record) :
  map.load storage = (.ok (), { map with toKeyMapRecord := record }) := by
  unfold storedMap at h
  unfold KeyMapData.load loadRecord
  split at h
  · cases h
  · next hKey => rw [hKey, h]

theorem KeyMapData.load_of_none (map : KeyMapData)
  (h : storedMap storage map.fabricIndex map.id = none) :
  ∃ e, map.load storage = (.error e, map) := by
  unfold storedMap at h
  unfold KeyMapData.load loadRecord
  split at h
  · next e hKey =>
      rw [hKey]
      exact ⟨e, rfl⟩
  · next hKey =>
      rw [hKey, h]
      exact ⟨.notFound, rfl⟩

/-- The entries along the links from an entry, with so many entries left. -/
def entriesFrom (storage : GroupStorage) (fabricIndex : FabricIndex) :
  Nat → UInt16 → List (Option GroupKey)
  | 0, _ => []
  | left + 1, id =>
    match storedMap storage fabricIndex id with
    | none => List.replicate (left + 1) none
    | some record =>
      some ⟨record.groupId, record.keysetId⟩ :: entriesFrom storage fabricIndex left record.next

theorem entriesFrom_length (storage : GroupStorage) (fabricIndex : FabricIndex) (left : Nat) (id : UInt16) :
  (entriesFrom storage fabricIndex left id).length = left := by
  induction left generalizing id with
  | zero => rfl
  | succ left ih =>
    unfold entriesFrom
    split
    · rw [List.length_replicate]
    · rw [List.length_cons, ih]

theorem KeyMapData.scan_at (left : Nat) (map : KeyMapData) (target : Nat)
  (hIndex : map.index ≤ target) :
  ((entriesFrom storage map.fabricIndex left map.id)[target - map.index]?).join =
    match map.scan storage (fun map => map.index = target) left with
    | (true, map) => some ⟨map.groupId, map.keysetId⟩
    | (false, _) => none := by
  induction left generalizing map with
  | zero => simp [entriesFrom, KeyMapData.scan]
  | succ left ih =>
    unfold entriesFrom KeyMapData.scan
    cases hStored : storedMap storage map.fabricIndex map.id with
    | none =>
      obtain ⟨e, hLoad⟩ := KeyMapData.load_of_none _ hStored
      rw [hLoad]
      simp only [List.getElem?_replicate]
      split <;> rfl
    | some record =>
      rw [KeyMapData.load_of_some _ hStored]
      by_cases hHere : map.index = target
      · simp [hHere]
      · have hLater := ih { map with
          toKeyMapRecord := record
          maxId := max map.id map.maxId
          first := false
          prev := map.id
          id := record.next
          index := map.index + 1 } (by simp only; omega)
        simp only [hHere, decide_false, Bool.false_eq_true, if_false]
        rw [← hLater]
        have hStep : target - map.index = (target - (map.index + 1)) + 1 := by omega
        rw [hStep, List.getElem?_cons_succ]

variable {fabric : FabricData} {fabricIndex : FabricIndex}

section

variable
  (hLoad : ({ fabricIndex := fabric.fabricIndex } : FabricData).load storage = (.ok (), fabric))
include hLoad

theorem getGroupKeyAt_eq (index : Nat) :
  (getGroupKeyAt fabric.fabricIndex index storage).1.toOption =
    ((entriesFrom storage fabric.fabricIndex fabric.mapCount fabric.firstMap)[index]?).join := by
  have hLoaded : FabricData.loaded fabric.fabricIndex storage = (.ok fabric, storage) := by
    rw [FabricData.loaded, Proc.read_bind, hLoad]
    rfl
  have hAt : ((entriesFrom storage fabric.fabricIndex fabric.mapCount
      fabric.firstMap)[index]?).join =
        match ({} : KeyMapData).get storage fabric index with
        | (true, map) => some ⟨map.groupId, map.keysetId⟩
        | (false, _) => none :=
    KeyMapData.scan_at fabric.mapCount (({} : KeyMapData).start fabric) index (Nat.zero_le _)
  rw [getGroupKeyAt, Proc.bind_ok hLoaded, Proc.read_bind, hAt]
  cases ({} : KeyMapData).get storage fabric index with
  | mk found map => cases found <;> rfl

theorem keyMap_eq :
  keyMap storage fabric =
    entriesFrom storage fabric.fabricIndex fabric.mapCount fabric.firstMap := by
  have hLength := entriesFrom_length storage fabric.fabricIndex fabric.mapCount
    fabric.firstMap
  unfold keyMap
  apply List.ext_getElem
  · rw [List.length_map, List.length_range, hLength]
  · intro index hLeft hRight
    rw [List.getElem_map, List.getElem_range, getGroupKeyAt_eq hLoad,
      List.getElem?_eq_getElem hRight, Option.join_some]

end

section

variable (h : ({ fabricIndex } : FabricData).load storage = (.ok (), fabric))
include h

theorem FabricData.load_self :
  fabric.fabricIndex = fabricIndex ∧
    ({ fabricIndex := fabric.fabricIndex } : FabricData).load storage = (.ok (), fabric) := by
  have hSame : fabric.fabricIndex = fabricIndex := FabricData.load_fabricIndex h
  exact ⟨hSame, by rw [hSame, h]⟩

theorem fabricCells_of_load :
  fabricCells crypto storage sessionId fabricIndex =
    (entriesFrom storage fabric.fabricIndex fabric.mapCount fabric.firstMap).flatMap
      (entryCells crypto storage sessionId fabric) := by
  rw [fabricCells, h]
  dsimp only
  rw [keyMap_eq (FabricData.load_self h).2]

end

namespace GroupSessionIterator

variable {it it' : GroupSessionIterator} {fabric : FabricData}

/-- The entry the iterator is at, or will be at in a fabric it has just come to. -/
def mapping (it : GroupSessionIterator) (fabric : FabricData) : UInt16 :=
  if it.mFirstMap then fabric.firstMap else it.mMapping

def leftInFabric (crypto : GroupCrypto) (storage : GroupStorage) (it : GroupSessionIterator)
  (fabric : FabricData) : List (Option GroupSession) :=
  match entriesFrom storage fabric.fabricIndex (fabric.mapCount - it.mMapCount)
      (it.mapping fabric) with
  | [] => []
  | entry :: entries =>
    cellsFromKey crypto storage it.mSessionId fabric it.mKeyIndex entry ++
      entries.flatMap (entryCells crypto storage it.mSessionId fabric)

def left (crypto : GroupCrypto) (storage : GroupStorage) (it : GroupSessionIterator) :
  List (Option GroupSession) :=
  if it.mFabricCount < it.mFabricTotal then
    match ({ fabricIndex := it.mFabric } : FabricData).load storage with
    | (.error _, _) => []
    | (.ok (), fabric) =>
      it.leftInFabric crypto storage fabric ++
        (registeredFrom storage (it.mFabricTotal - it.mFabricCount - 1) fabric.next).flatMap
          (fabricCells crypto storage it.mSessionId)
  else []

def Settled (storage : GroupStorage) (it : GroupSessionIterator) : Prop :=
  ∀ fabric, ({ fabricIndex := it.mFabric } : FabricData).load storage = (.ok (), fabric) →
    fabric.mapCount ≤ it.mMapCount → it.mKeyIndex = 0

theorem leftInFabric_of_firstKey (hKey : it.mKeyIndex = 0) :
  it.leftInFabric crypto storage fabric =
    (entriesFrom storage fabric.fabricIndex (fabric.mapCount - it.mMapCount)
      (it.mapping fabric)).flatMap (entryCells crypto storage it.mSessionId fabric) := by
  unfold leftInFabric
  cases entriesFrom storage fabric.fabricIndex (fabric.mapCount - it.mMapCount)
      (it.mapping fabric) with
  | nil => rfl
  | cons entry entries => rw [hKey, List.flatMap_cons, entryCells]

theorem left_of_firstMap (hFirst : it.mFirstMap = true) (hMaps : it.mMapCount = 0)
  (hKey : it.mKeyIndex = 0) :
  it.left crypto storage =
    (registeredFrom storage (it.mFabricTotal - it.mFabricCount) it.mFabric).flatMap
      (fabricCells crypto storage it.mSessionId) := by
  unfold left
  split
  · next hCount =>
      obtain ⟨rest, hRest⟩ : ∃ rest, it.mFabricTotal - it.mFabricCount = rest + 1 :=
        ⟨it.mFabricTotal - it.mFabricCount - 1, by omega⟩
      rw [hRest, registeredFrom, Nat.add_sub_cancel]
      split
      · rfl
      · next fabric hLoad =>
          rw [List.flatMap_cons, fabricCells_of_load hLoad, leftInFabric_of_firstKey hKey, hMaps,
            Nat.sub_zero, mapping, if_pos hFirst]
  · next hCount =>
      rw [Nat.sub_eq_zero_of_le (Nat.le_of_not_lt hCount), registeredFrom, List.flatMap_nil]

theorem left_iterate :
  (iterateGroupSessions storage sessionId).left crypto storage =
    sessionCells crypto storage sessionId := by
  rw [sessionCells, registeredFabrics]
  unfold iterateGroupSessions
  cases storage.fabricList with
  | none =>
    rw [left_of_firstMap rfl rfl rfl]
    rfl
  | some fabricList => rw [left_of_firstMap rfl rfl rfl, Nat.sub_zero]

theorem settled_iterate : (iterateGroupSessions storage sessionId).Settled storage := by
  intro fabric _ _
  unfold iterateGroupSessions
  split <;> rfl

variable {keyset : KeySetData} {rest : List (Option GroupSession)}

theorem usedKeys_drop {i : Nat} (h : i < keyset.keysCount.val) :
  keyset.usedKeys.drop i =
    keyset.operationalKeys ⟨i, by omega⟩ :: keyset.usedKeys.drop (i + 1) := by
  have hLength : i < keyset.usedKeys.length := by
    have hBound := keyset.keysCount.isLt
    simp only [KeySetData.usedKeys, List.length_take, List.length_ofFn]
    omega
  rw [List.drop_eq_getElem_cons hLength]
  simp only [KeySetData.usedKeys, List.getElem_take, List.getElem_ofFn]

theorem usedKeys_drop_all {i : Nat} (h : keyset.keysCount.val ≤ i) :
  keyset.usedKeys.drop i = [] := by
  rw [List.drop_eq_nil_iff, KeySetData.usedKeys, List.length_take]
  omega

/-- What a pass through the loop does to the rest of the walk. -/
def PassSpec (crypto : GroupCrypto) (storage : GroupStorage) (cells : List (Option GroupSession))
  (sessionId : UInt16) : Pass → Prop
  | .again it' =>
    it'.left crypto storage = cells ∧ it'.Settled storage ∧ it'.mSessionId = sessionId
  | .return none _ => reached cells = []
  | .return (some session) it' =>
    cells = some session :: it'.left crypto storage ∧ it'.Settled storage

section

variable (hCount : it.mFabricCount < it.mFabricTotal)
  (hLoad : ({ fabricIndex := it.mFabric } : FabricData).load storage = (.ok (), fabric))
  (hMaps : it.mMapCount < fabric.mapCount) (hFirst : it.mFirstMap = false)
include hCount hLoad hMaps hFirst

theorem tryKey_spec {record : KeyMapRecord} {mapping : KeyMapData}
  (hStored : storedMap storage fabric.fabricIndex it.mMapping = some record)
  (hMapping : mapping.groupId = record.groupId ∧ mapping.next = record.next)
  (hKeyset : ({} : KeySetData).find crypto storage fabric record.keysetId = (true, keyset))
  (hRest : rest = (registeredFrom storage (it.mFabricTotal - it.mFabricCount - 1)
    fabric.next).flatMap (fabricCells crypto storage it.mSessionId)) :
  PassSpec crypto storage (it.leftInFabric crypto storage fabric ++ rest) it.mSessionId
    (it.tryKey fabric mapping keyset) := by
  obtain ⟨more, hMore⟩ : ∃ more, fabric.mapCount - it.mMapCount = more + 1 :=
    ⟨fabric.mapCount - it.mMapCount - 1, by omega⟩
  have hEntries : entriesFrom storage fabric.fabricIndex (fabric.mapCount - it.mMapCount)
      it.mMapping = some ⟨record.groupId, record.keysetId⟩ ::
        entriesFrom storage fabric.fabricIndex more record.next := by
    rw [hMore, entriesFrom, hStored]
  have hHere : it.leftInFabric crypto storage fabric =
      ((keyset.usedKeys.drop it.mKeyIndex).filter fun key => key.hash = it.mSessionId).map
          (fun key => some (groupSession it.mSessionId fabric.fabricIndex record.groupId keyset
            key)) ++
        (entriesFrom storage fabric.fabricIndex more record.next).flatMap
          (entryCells crypto storage it.mSessionId fabric) := by
    rw [leftInFabric, GroupSessionIterator.mapping, hFirst, if_neg Bool.false_ne_true, hEntries]
    simp only [cellsFromKey, hKeyset]
  have hAfter : { it with mKeyIndex := it.mKeyIndex + 1 }.left crypto storage =
      ((keyset.usedKeys.drop (it.mKeyIndex + 1)).filter fun key => key.hash = it.mSessionId).map
          (fun key => some (groupSession it.mSessionId fabric.fabricIndex record.groupId keyset
            key)) ++
        (entriesFrom storage fabric.fabricIndex more record.next).flatMap
          (entryCells crypto storage it.mSessionId fabric) ++ rest := by
    rw [left, if_pos hCount, hLoad]
    dsimp only
    rw [leftInFabric, GroupSessionIterator.mapping]
    dsimp only
    rw [hFirst, if_neg Bool.false_ne_true, hEntries, ← hRest]
    simp only [cellsFromKey, hKeyset]
  have hSettled : { it with mKeyIndex := it.mKeyIndex + 1 }.Settled storage := by
    intro fabric' hLoad' hDone
    rw [hLoad] at hLoad'
    cases hLoad'
    exact absurd hDone (Nat.not_le_of_lt hMaps)
  rw [hHere]
  unfold tryKey
  split
  · next hKey =>
      rw [usedKeys_drop hKey, List.filter_cons]
      dsimp only
      split
      · next hHash =>
          rw [if_pos (by simpa using hHash), hMapping.1]
          refine ⟨?_, hSettled⟩
          rw [hAfter, List.map_cons, List.cons_append, List.cons_append]
      · next hHash =>
          rw [if_neg (by simpa using hHash)]
          exact ⟨hAfter, hSettled, rfl⟩
  · next hKey =>
      rw [usedKeys_drop_all (Nat.le_of_not_lt hKey), List.filter_nil, List.map_nil, List.nil_append]
      refine ⟨?_, fun _ _ _ => rfl, rfl⟩
      rw [left, if_pos hCount, hLoad]
      dsimp only
      rw [leftInFabric_of_firstKey rfl, ← hRest, GroupSessionIterator.mapping]
      dsimp only
      rw [hFirst, if_neg Bool.false_ne_true, hMapping.2,
        show fabric.mapCount - (it.mMapCount + 1) = more by omega]

theorem tryMapping_spec
  (hRest : rest = (registeredFrom storage (it.mFabricTotal - it.mFabricCount - 1)
    fabric.next).flatMap (fabricCells crypto storage it.mSessionId)) :
  PassSpec crypto storage (it.leftInFabric crypto storage fabric ++ rest) it.mSessionId
    (it.tryMapping crypto storage fabric) := by
  obtain ⟨more, hMore⟩ : ∃ more, fabric.mapCount - it.mMapCount = more + 1 :=
    ⟨fabric.mapCount - it.mMapCount - 1, by omega⟩
  have hFabric : fabric.fabricIndex = it.mFabric := FabricData.load_fabricIndex hLoad
  unfold tryMapping
  cases hStored : storedMap storage it.mFabric it.mMapping with
  | none =>
    obtain ⟨e, hMapping⟩ := KeyMapData.load_of_none
      { fabricIndex := it.mFabric, id := it.mMapping } hStored
    rw [hMapping]
    change reached _ = []
    rw [leftInFabric, GroupSessionIterator.mapping, hFirst, if_neg Bool.false_ne_true, hMore,
      entriesFrom, hFabric, hStored]
    rfl
  | some record =>
    rw [KeyMapData.load_of_some { fabricIndex := it.mFabric, id := it.mMapping } hStored]
    dsimp only
    cases hKeyset : ({} : KeySetData).find crypto storage fabric record.keysetId with
    | mk found keyset =>
      cases found with
      | false =>
        change reached _ = []
        rw [leftInFabric, GroupSessionIterator.mapping, hFirst, if_neg Bool.false_ne_true,
          hMore, entriesFrom, hFabric, hStored]
        simp only [cellsFromKey, hKeyset]
        rfl
      | true =>
        rw [← hFabric] at hStored
        exact tryKey_spec hCount hLoad hMaps hFirst hStored ⟨rfl, rfl⟩ hKeyset hRest

end

theorem pass_spec (crypto : GroupCrypto) (hSettled : it.Settled storage) :
  PassSpec crypto storage (it.left crypto storage) it.mSessionId (it.pass crypto storage) := by
  by_cases hCount : it.mFabricCount < it.mFabricTotal
  · cases hLoad : ({ fabricIndex := it.mFabric } : FabricData).load storage with
    | mk result fabric =>
      cases result with
      | error e =>
        rw [pass, if_pos hCount, left, if_pos hCount, hLoad]
        rfl
      | ok _ =>
        rw [pass, if_pos hCount, left, if_pos hCount, hLoad]
        dsimp only
        by_cases hDone : it.mMapCount ≥ fabric.mapCount
        · have hKey : it.mKeyIndex = 0 := hSettled fabric hLoad hDone
          rw [if_pos hDone]
          refine ⟨?_, fun _ _ _ => hKey, rfl⟩
          refine Eq.trans (left_of_firstMap rfl rfl (by exact hKey)) ?_
          rw [leftInFabric_of_firstKey hKey, Nat.sub_eq_zero_of_le hDone, entriesFrom,
            List.flatMap_nil, List.nil_append, Nat.sub_sub]
        · have hMaps : it.mMapCount < fabric.mapCount := Nat.lt_of_not_le hDone
          rw [if_neg hDone]
          by_cases hFirst : it.mFirstMap = true
          · -- the iterator has just come to this fabric
            have hHere : it.leftInFabric crypto storage fabric =
                { it with mMapping := fabric.firstMap, mFirstMap := false }.leftInFabric crypto
                  storage fabric := by
              simp only [leftInFabric, mapping, hFirst, if_true,
                Bool.false_eq_true, if_false]
            rw [if_pos hFirst, hHere]
            exact tryMapping_spec hCount hLoad hMaps rfl rfl
          · rw [if_neg hFirst]
            exact tryMapping_spec hCount hLoad hMaps (by simpa using hFirst) rfl
  · rw [pass, if_neg hCount, left, if_neg hCount]
    rfl

theorem next_of_return {output : Option GroupSession}
  (h : it.pass crypto storage = .return output it') :
  it.next crypto storage = (output, it') := by
  rw [next]
  split <;> simp_all

theorem next_of_again (h : it.pass crypto storage = .again it') :
  it.next crypto storage = it'.next crypto storage := by
  rw [next]
  split <;> simp_all

theorem next_spec (crypto : GroupCrypto) (it : GroupSessionIterator) (hSettled : it.Settled storage) :
  match it.next crypto storage with
  | (none, _) => reached (it.left crypto storage) = []
  | (some session, it') =>
    it.left crypto storage = some session :: it'.left crypto storage ∧
      it'.Settled storage := by
  induction it using next.induct crypto storage with
  | case1 it output it' hPass =>
    have hSpec := pass_spec crypto hSettled
    rw [hPass] at hSpec
    rw [next_of_return hPass]
    cases output with
    | none => exact hSpec
    | some session => exact hSpec
  | case2 it it' hPass ih =>
    have hSpec := pass_spec crypto hSettled
    rw [hPass] at hSpec
    obtain ⟨hLeft, hSettled', -⟩ := hSpec
    rw [next_of_again hPass, ← hLeft]
    exact ih hSettled'

theorem Yields.eq_reached {sessions : List GroupSession} (h : Yields crypto storage it sessions)
  (hSettled : it.Settled storage) : sessions = reached (it.left crypto storage) := by
  induction h with
  | @done it it' hNext =>
    have hSpec := next_spec crypto it hSettled
    rw [hNext] at hSpec
    exact hSpec.symm
  | @session it it' session sessions hNext hRest ih =>
    have hSpec := next_spec crypto it hSettled
    rw [hNext] at hSpec
    rw [hSpec.1, reached, ih hSpec.2]

theorem yields_reached (crypto : GroupCrypto) (it : GroupSessionIterator) (hSettled : it.Settled storage) :
  Yields crypto storage it (reached (it.left crypto storage)) := by
  generalize hLength : (it.left crypto storage).length = n
  induction n generalizing it with
  | zero =>
    have hSpec := next_spec crypto it hSettled
    have hNil := List.eq_nil_of_length_eq_zero hLength
    cases hNext : it.next crypto storage with
    | mk output it' =>
      rw [hNext] at hSpec
      cases output with
      | none =>
        rw [hNil]
        exact .done hNext
      | some session => rw [hNil] at hSpec; cases hSpec.1
  | succ n ih =>
    have hSpec := next_spec crypto it hSettled
    cases hNext : it.next crypto storage with
    | mk output it' =>
      rw [hNext] at hSpec
      cases output with
      | none =>
        rw [show reached (it.left crypto storage) = [] from hSpec]
        exact .done hNext
      | some session =>
        obtain ⟨hLeft, hSettled'⟩ := hSpec
        rw [hLeft, reached]
        refine .session hNext (ih it' hSettled' ?_)
        rw [hLeft, List.length_cons] at hLength
        exact Nat.succ.inj hLength

theorem reached_entryCells_append (entry : GroupKey)
  (h : ({} : KeySetData).find crypto storage fabric entry.keysetId = (true, keyset))
  (cells : List (Option GroupSession)) :
  (reached (entryCells crypto storage sessionId fabric (some entry) ++ cells)).length =
    keyset.usedKeys.countP (fun key => key.hash = sessionId) + (reached cells).length := by
  simp only [entryCells, cellsFromKey, h, List.drop_zero]
  have hSome : ∀ keys : List GroupOperationalCredentials,
      keys.map (fun key =>
        some (groupSession sessionId fabric.fabricIndex entry.groupId keyset key)) =
      (keys.map (groupSession sessionId fabric.fabricIndex entry.groupId keyset)).map some :=
    fun keys => List.map_map.symm
  rw [hSome, reached_map_some_append, List.length_append, List.length_map,
    List.countP_eq_length_filter]

theorem countMaps_eq (fabric : FabricData) (left : Nat) (mapping : KeyMapData) :
  countMaps crypto storage sessionId fabric left mapping =
    (reached ((entriesFrom storage mapping.fabricIndex left mapping.id).flatMap
      (entryCells crypto storage sessionId fabric))).length := by
  induction left generalizing mapping with
  | zero => rfl
  | succ left ih =>
    unfold countMaps entriesFrom
    cases hStored : storedMap storage mapping.fabricIndex mapping.id with
    | none =>
      obtain ⟨e, hLoad⟩ := KeyMapData.load_of_none _ hStored
      rw [hLoad, List.replicate_succ, List.flatMap_cons]
      rfl
    | some record =>
      rw [KeyMapData.load_of_some _ hStored, List.flatMap_cons]
      dsimp only
      cases hKeyset : ({} : KeySetData).find crypto storage fabric record.keysetId with
      | mk found keyset =>
        cases found with
        | true =>
          rw [reached_entryCells_append ⟨record.groupId, record.keysetId⟩ hKeyset]
          dsimp only
          rw [ih]
        | false =>
          simp only [entryCells, cellsFromKey, hKeyset]
          rfl

theorem countFabrics_eq (left : Nat) (fabric : FabricData) :
  countFabrics crypto storage sessionId left fabric =
    ((registeredFrom storage left fabric.fabricIndex).map fun fabricIndex =>
      (reached (fabricCells crypto storage sessionId fabricIndex)).length).sum := by
  induction left generalizing fabric with
  | zero => rfl
  | succ left ih =>
    unfold countFabrics registeredFrom
    rcases fabric.load_cases storage with ⟨loaded, hLoad, hNew⟩ | ⟨e, _, _, hLoad, hNew⟩
    · rw [hLoad, hNew]
      dsimp only
      rw [countMaps_eq, ih, List.map_cons, List.sum_cons, fabricCells_of_load hNew]
    · rw [hLoad, hNew]
      rfl

theorem count_iterate :
  (iterateGroupSessions storage sessionId).count crypto storage =
    ((registeredFabrics storage).map fun fabricIndex =>
      (reached (fabricCells crypto storage sessionId fabricIndex)).length).sum := by
  rw [count, countFabrics_eq, registeredFabrics]
  unfold iterateGroupSessions
  cases storage.fabricList <;> rfl

end GroupSessionIterator
theorem registeredFrom_eq {first : FabricIndex} {fabrics : List FabricIndex}
  (hLinked : LinkedSlots (fun f => ((registry storage).links f).getD kUndefinedFabricIndex) first
    fabrics kUndefinedFabricIndex)
  (hStored : ∀ f ∈ fabrics, ((registry storage).links f).isSome ∧ f ≠ kUndefinedFabricIndex) :
  registeredFrom storage fabrics.length first = fabrics := by
  induction fabrics generalizing first with
  | nil => rfl
  | cons f fabrics ih =>
    obtain ⟨rfl, hRest⟩ := hLinked
    obtain ⟨hSome, hDefined⟩ := hStored first List.mem_cons_self
    rw [List.length_cons, registeredFrom]
    rcases ({ fabricIndex := first } : FabricData).load_of_links storage with
      ⟨loaded, hLoad, hKnown, hIndex⟩ | ⟨e, left, -, ⟨hZero, -⟩ | ⟨hNone, -⟩⟩
    · rw [hLoad]
      dsimp only
      have hLink := hKnown.2
      rw [hIndex] at hLink
      dsimp only at hLink hRest
      rw [hLink, Option.getD_some] at hRest
      rw [ih hRest fun f hf => hStored f (List.mem_cons_of_mem _ hf)]
    · exact absurd hZero hDefined
    · rw [hNone] at hSome
      cases hSome

theorem registeredFabrics_eq {order : List FabricIndex}
  (h : (registry storage).Ordered order) : registeredFabrics storage = order := by
  have hWalk := registeredFrom_eq h.linked fun f hf =>
    ⟨(h.stored f).mpr hf, by rintro rfl; exact h.defined hf⟩
  rw [← h.count] at hWalk
  rw [← hWalk, registeredFabrics]
  cases hList : storage.fabricList with
  | none => simp [registry, hList, registeredFrom]
  | some list => simp [registry, hList]

theorem fabricCells_of_notMem {order : List FabricIndex} (h : (registry storage).Ordered order)
  (hMem : fabricIndex ∉ order) :
  fabricCells crypto storage sessionId fabricIndex = [] := by
  rw [fabricCells]
  rcases ({ fabricIndex } : FabricData).load_of_links storage with
    ⟨loaded, -, hKnown, hIndex⟩ | ⟨e, left, hLoad, -⟩
  · have hSome := (h.stored loaded.fabricIndex).mp (by rw [hKnown.2, Option.isSome_some])
    rw [hIndex] at hSome
    exact absurd hSome hMem
  · rw [hLoad]

theorem mem_allFabricIndices (fabricIndex : FabricIndex) : fabricIndex ∈ allFabricIndices :=
  List.mem_map.mpr ⟨fabricIndex.toNat, List.mem_range.mpr fabricIndex.toNat_lt, by simp⟩

theorem allFabricIndices_nodup : allFabricIndices.Nodup := by
  refine List.nodup_range.map_on fun i hi j hj h => ?_
  have hToNat := congrArg UInt8.toNat h
  rw [List.mem_range] at hi hj
  rwa [UInt8.toNat_ofNat_of_lt' hi, UInt8.toNat_ofNat_of_lt' hj] at hToNat

theorem matchingSessions_perm (crypto : GroupCrypto) (sessionId : UInt16)
  (h : FabricsListed storage) :
  (matchingSessions crypto storage sessionId).Perm
    (sessionCells crypto storage sessionId).reduceOption := by
  obtain ⟨order, hOrdered⟩ := h
  rw [matchingSessions, sessionCells, registeredFabrics_eq hOrdered]
  have hOnly : allFabricIndices.flatMap (fabricCells crypto storage sessionId) =
      (allFabricIndices.filter (· ∈ order)).flatMap (fabricCells crypto storage sessionId) := by
    generalize allFabricIndices = fabrics
    induction fabrics with
    | nil => rfl
    | cons f fabrics ih =>
      rw [List.flatMap_cons, ih]
      by_cases hMem : f ∈ order
      · rw [List.filter_cons_of_pos (by simpa using hMem), List.flatMap_cons]
      · rw [List.filter_cons_of_neg (by simpa using hMem), fabricCells_of_notMem hOrdered hMem,
          List.nil_append]
  have hSame : (allFabricIndices.filter (· ∈ order)).Perm order := by
    rw [List.perm_ext_iff_of_nodup (allFabricIndices_nodup.filter _) hOrdered.nodup]
    intro f
    simp [mem_allFabricIndices]
  rw [hOnly]
  exact (hSame.flatMap_right _).filterMap _

/-- In every state that calls lead to, iterating to the end gives the sessions of all the fabrics,
entries and keys, and as many as `Count` says, exactly if in the order of the walk no session comes
after an entry that names a key set that does not exist. -/
theorem group_sessions_complete_iff (provider : GroupDataProvider) (calls : List GroupCall)
    (sessionId : UInt16) :
    let storage := runCalls provider .empty calls
    let it := iterateGroupSessions storage sessionId
    ∃ sessions, it.Yields provider.crypto storage sessions ∧
      (∀ other, it.Yields provider.crypto storage other → other = sessions) ∧
      ((sessions.Perm (matchingSessions provider.crypto storage sessionId) ∧
          sessions.length = it.count provider.crypto storage) ↔
        NothingSkipped (sessionCells provider.crypto storage sessionId)) := by
  intro storage it
  have hListed : FabricsListed storage := runCalls_listed provider calls _ .empty
  have hPerm := matchingSessions_perm provider.crypto sessionId hListed
  have hLeft : it.left provider.crypto storage = sessionCells provider.crypto storage sessionId :=
    GroupSessionIterator.left_iterate
  have hSettled : it.Settled storage := GroupSessionIterator.settled_iterate
  refine ⟨reached (sessionCells provider.crypto storage sessionId), ?_, ?_, ?_, ?_⟩
  · rw [← hLeft]
    exact GroupSessionIterator.yields_reached _ it hSettled
  · intro other hOther
    rw [← hLeft]
    exact hOther.eq_reached hSettled
  · rintro ⟨hAll, -⟩
    rw [← reached_length_eq_iff, (hAll.trans hPerm).length_eq]
  · intro hNothing
    refine ⟨by rw [reached_eq_reduceOption hNothing]; exact hPerm.symm, ?_⟩
    have hFlatten : ((registeredFabrics storage).map
        (fabricCells provider.crypto storage sessionId)).flatten =
        sessionCells provider.crypto storage sessionId := rfl
    rw [GroupSessionIterator.count_iterate, ← hFlatten, ← sum_reached_length, List.map_map]
    · rfl
    · rw [hFlatten]
      exact hNothing

def sampleProvider : GroupDataProvider where
  mMaxGroupsPerFabric := 4
  mMaxGroupKeysPerFabric := 3
  crypto :=
    { deriveGroupOperationalKey := fun key _ => .ok key
      deriveGroupSessionId := fun _ => .ok 7
      deriveGroupPrivacyKey := .ok }

/-- Fabric 2 has a key set and an entry that names it; fabric 1, which comes first in the list, has
an entry that names no key set. -/
def callsWithMissingKeyset : List GroupCall :=
  [.setKeySet 2 [] { epochKeys := fun _ => ⟨0, noKey⟩, keysetId := 5, numKeysUsed := oneKeyUsed },
    .setGroupKeyAt 2 0 ⟨1, 5⟩, .setGroupKeyAt 1 0 ⟨1, 9⟩]

/-- The entry of fabric 1 ends the walk of `Next`, so that the session of fabric 2 is not returned,
and `Count` counts it. -/
theorem missing_keyset_ends_iteration :
    let storage := runCalls sampleProvider .empty callsWithMissingKeyset
    let it := iterateGroupSessions storage 7
    it.Yields sampleProvider.crypto storage [] ∧
      (matchingSessions sampleProvider.crypto storage 7).map GroupSession.fabricIndex = [2] ∧
      it.count sampleProvider.crypto storage = 1 := by
  intro storage it
  refine ⟨?_, by decide +kernel, by decide +kernel⟩
  have hYields := GroupSessionIterator.yields_reached sampleProvider.crypto it
    GroupSessionIterator.settled_iterate
  rw [GroupSessionIterator.left_iterate] at hYields
  rwa [show reached (sessionCells sampleProvider.crypto storage 7) = [] by decide +kernel] at hYields

end Chip.Credentials.Groups
