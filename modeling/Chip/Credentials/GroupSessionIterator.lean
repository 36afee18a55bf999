import Chip.Credentials.GroupDataProvider
import Mathlib.Data.List.Perm.Basic

/-! The iterator over the group sessions whose key hash is a session identifier
(`GroupSessionIteratorImpl`). The walk over the fabrics, the entries of their key maps and the
keys of the key sets that these name is a state machine that can be resumed; `Count` makes the
same walk in nested loops. -/
namespace Chip.Credentials.Groups

/-- The context of a session, initialized anew for every session that is returned. -/
structure GroupKeyContext where
  mKeyHash : UInt16
  mEncryptionKey : SymmetricKey
  mPrivacyKey : SymmetricKey

structure GroupSession where
  groupId : GroupId
  fabricIndex : FabricIndex
  securityPolicy : GroupKeySecurityPolicy
  keyContext : GroupKeyContext

structure GroupSessionIterator where
  mSessionId : UInt16 := 0
  mFirstFabric : FabricIndex := kUndefinedFabricIndex
  mFabric : FabricIndex := kUndefinedFabricIndex
  mFabricCount : Nat := 0
  mFabricTotal : Nat := 0
  mMapping : UInt16 := 0
  mMapCount : Nat := 0
  mKeyIndex : Nat := 0
  mFirstMap : Bool := true

def iterateGroupSessions (storage : GroupStorage) (sessionId : UInt16) : GroupSessionIterator :=
  match storage.fabricList with
  | none => { mSessionId := sessionId }
  | some fabricList =>
    { mSessionId := sessionId
      mFirstFabric := fabricList.firstEntry
      mFabric := fabricList.firstEntry
      mFabricCount := 0
      mFabricTotal := fabricList.entryCount
      mMapCount := 0
      mFirstMap := true }

def KeySetData.usedKeys (keyset : KeySetData) : List GroupOperationalCredentials :=
  (List.ofFn keyset.operationalKeys).take keyset.keysCount

/-- What `Next` fills in for a key. -/
def groupSession (sessionId : UInt16) (fabricIndex : FabricIndex) (groupId : GroupId)
  (keyset : KeySetData) (credentials : GroupOperationalCredentials) : GroupSession where
  groupId := groupId
  fabricIndex := fabricIndex
  securityPolicy := keyset.policy
  keyContext := ⟨sessionId, credentials.encryptionKey, credentials.privacyKey⟩

variable (crypto : GroupCrypto) (storage : GroupStorage)

namespace GroupSessionIterator

/-- How a pass through the loop of `Next` ends: the loop goes on, or the call returns. -/
inductive Pass where
  | again (it : GroupSessionIterator)
  | return (output : Option GroupSession) (it : GroupSessionIterator)

/-- The last part of a pass, at a key of the key set that an entry names. -/
def tryKey (it : GroupSessionIterator) (fabric : FabricData) (mapping : KeyMapData)
  (keyset : KeySetData) : Pass :=
  if hKey : it.mKeyIndex < keyset.keysCount.val then
    let creds := keyset.operationalKeys ⟨it.mKeyIndex, by omega⟩
    let it := { it with mKeyIndex := it.mKeyIndex + 1 }
    if creds.hash = it.mSessionId then
      .return (some (groupSession it.mSessionId fabric.fabricIndex mapping.groupId keyset creds)) it
    else .again it
  else
    -- No more keys in current keyset, try next
    .again { it with mMapping := mapping.next, mMapCount := it.mMapCount + 1, mKeyIndex := 0 }

/-- The part of a pass at an entry of the key map of a fabric. -/
def tryMapping (it : GroupSessionIterator) (fabric : FabricData) : Pass :=
  match ({ fabricIndex := it.mFabric, id := it.mMapping } : KeyMapData).load storage with
  | (.error _, _) => .return none it
  | (.ok (), mapping) =>
    match ({} : KeySetData).find crypto storage fabric mapping.keysetId with
    | (false, _) => .return none it
    | (true, keyset) => it.tryKey fabric mapping keyset

/-- One pass through the loop of `Next`. -/
def pass (it : GroupSessionIterator) : Pass :=
  if it.mFabricCount < it.mFabricTotal then
    match ({ fabricIndex := it.mFabric } : FabricData).load storage with
    | (.error _, _) => .return none it
    | (.ok (), fabric) =>
      if it.mMapCount ≥ fabric.mapCount then
        -- No more keyset/group mappings on the current fabric, try next fabric
        .again { it with
          mFabric := fabric.next
          mFabricCount := it.mFabricCount + 1
          mFirstMap := true
          mMapCount := 0 }
      else
        let it := if it.mFirstMap then { it with mMapping := fabric.firstMap, mFirstMap := false }
          else it
        it.tryMapping crypto storage fabric
  else .return none it

/-- The entries that are left in the key map of the fabric the iterator is at. -/
def mapsLeft (it : GroupSessionIterator) : Nat :=
  match ({ fabricIndex := it.mFabric } : FabricData).load storage with
  | (.error _, _) => 0
  | (.ok (), fabric) => fabric.mapCount - it.mMapCount

theorem tryKey_again {it it' : GroupSessionIterator} {fabric : FabricData} {mapping : KeyMapData}
  {keyset : KeySetData} (h : it.tryKey fabric mapping keyset = .again it') :
  (it' = { it with mKeyIndex := it.mKeyIndex + 1 } ∧ it.mKeyIndex < kEpochKeysMax) ∨
    it' = { it with mMapping := mapping.next, mMapCount := it.mMapCount + 1, mKeyIndex := 0 } := by
  unfold tryKey at h
  split at h
  · next hKey =>
      have hBound := keyset.keysCount.isLt
      dsimp only at h
      split at h
      · cases h
      · cases h
        exact .inl ⟨rfl, by omega⟩
  · cases h
    exact .inr rfl

theorem pass_again {it it' : GroupSessionIterator} (h : it.pass crypto storage = .again it') :
  Prod.Lex (· < ·) (Prod.Lex (· < ·) (· < ·))
    (it'.mFabricTotal - it'.mFabricCount, it'.mapsLeft storage, kEpochKeysMax - it'.mKeyIndex)
    (it.mFabricTotal - it.mFabricCount, it.mapsLeft storage, kEpochKeysMax - it.mKeyIndex) := by
  unfold pass at h
  split at h
  · next hFabric =>
      split at h
      · cases h
      · next fabric hLoad =>
          split at h
          · cases h
            exact .left _ _ (by simp only; omega)
          · next hMaps =>
              have hLeft : it.mapsLeft storage = fabric.mapCount - it.mMapCount := by
                rw [mapsLeft, hLoad]
              dsimp only at h
              generalize hIt : (if it.mFirstMap = true then
                { it with mMapping := fabric.firstMap, mFirstMap := false } else it) = it₁ at h
              obtain ⟨hSame, hCount, hTotal, hMap, hKey⟩ : it₁.mFabric = it.mFabric ∧
                  it₁.mFabricCount = it.mFabricCount ∧ it₁.mFabricTotal = it.mFabricTotal ∧
                  it₁.mMapCount = it.mMapCount ∧ it₁.mKeyIndex = it.mKeyIndex := by
                rw [← hIt]
                split <;> exact ⟨rfl, rfl, rfl, rfl, rfl⟩
              unfold tryMapping at h
              split at h
              · cases h
              · next mapping hMapping =>
                split at h
                · cases h
                · rcases tryKey_again h with ⟨rfl, hBound⟩ | rfl
                  · have hSameLeft : mapsLeft storage { it₁ with mKeyIndex := it₁.mKeyIndex + 1 } =
                        it.mapsLeft storage := by
                      simp only [mapsLeft, hSame, hMap]
                    rw [hSameLeft]
                    dsimp only
                    rw [hTotal, hCount]
                    exact .right _ (.right _ (by omega))
                  · have hLess : mapsLeft storage { it₁ with
                          mMapping := mapping.next, mMapCount := it₁.mMapCount + 1, mKeyIndex := 0 } <
                        it.mapsLeft storage := by
                      rw [hLeft]
                      simp only [mapsLeft, hSame, hMap, hLoad]
                      omega
                    dsimp only
                    rw [hTotal, hCount]
                    exact .right _ (.left _ _ hLess)
  · cases h

/-- `Next`: the session it returns, if it returns true, and the iterator after it. -/
def next (it : GroupSessionIterator) : Option GroupSession × GroupSessionIterator :=
  match _h : it.pass crypto storage with
  | .return output it => (output, it)
  | .again it' => next it'
termination_by
  (it.mFabricTotal - it.mFabricCount, it.mapsLeft storage, kEpochKeysMax - it.mKeyIndex)
decreasing_by exact pass_again crypto storage ‹_›

/-- Calling `Next` until it returns false gives these sessions. -/
inductive Yields : GroupSessionIterator → List GroupSession → Prop where
  | done {it it' : GroupSessionIterator} (h : it.next crypto storage = (none, it')) : Yields it []
  | session {it it' : GroupSessionIterator} {session : GroupSession}
      {sessions : List GroupSession} (h : it.next crypto storage = (some session, it'))
      (hRest : Yields it' sessions) : Yields it (session :: sessions)

/-- The loop of `Count` over the key map of a fabric, with so many entries left. -/
def countMaps (sessionId : UInt16) (fabric : FabricData) : Nat → KeyMapData → Nat
  | 0, _ => 0
  | left + 1, mapping =>
    match mapping.load storage with
    | (.error _, _) => 0
    | (.ok (), mapping) =>
      match ({} : KeySetData).find crypto storage fabric mapping.keysetId with
      | (false, _) => 0
      | (true, keyset) =>
        keyset.usedKeys.countP (fun key => key.hash = sessionId) +
          countMaps sessionId fabric left { mapping with id := mapping.next }

/-- The loop of `Count` over the fabrics. -/
def countFabrics (sessionId : UInt16) : Nat → FabricData → Nat
  | 0, _ => 0
  | left + 1, fabric =>
    match fabric.load storage with
    | (.error _, _) => 0
    | (.ok (), fabric) =>
      countMaps crypto storage sessionId fabric fabric.mapCount
          { fabricIndex := fabric.fabricIndex, id := fabric.firstMap } +
        countFabrics sessionId left { fabric with fabricIndex := fabric.next }

def count (it : GroupSessionIterator) : Nat :=
  countFabrics crypto storage it.mSessionId it.mFabricTotal { fabricIndex := it.mFirstFabric }

end GroupSessionIterator
end Chip.Credentials.Groups
