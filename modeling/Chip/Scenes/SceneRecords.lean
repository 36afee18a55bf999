import Mathlib.Data.List.TakeWhile
import Chip.Scenes.SceneData

/-! Records are read back as they were written, but for names: the reader ends a text at an
information separator. -/
namespace Chip.Scenes

open Proc TagScene List TLV

/-- What a scene is after it has been stored: its name ends before the first information
separator. -/
def SceneData.stored (data : SceneData) : SceneData :=
  { data with
    mName := data.mName.takeWhile (· ≠ unicodeInformationSeparator1)
    nameFits := ((List.takeWhile_sublist _).length_le).trans data.nameFits }

def SceneData.Plain (data : SceneData) : Prop := unicodeInformationSeparator1 ∉ data.mName

instance (data : SceneData) : Decidable data.Plain := inferInstanceAs (Decidable (¬ _))

theorem SceneData.Plain.stored_eq {data : SceneData} (h : data.Plain) : data.stored = data := by
  have hName : data.mName.takeWhile (· ≠ unicodeInformationSeparator1) = data.mName := by
    rw [takeWhile_eq_self_iff]
    intro b hb
    simpa using fun hEq : b = unicodeInformationSeparator1 => h (hEq ▸ hb)
  simp only [SceneData.stored, hName]

section Reading

variable {profile : BitVec 32} {limit : Nat} {r : TLVReader} {tail : Bytes}

theorem TagScene.legal (tag : TagScene) : tag.tag.LegalIn .struct := by
  cases tag <;> exact legal_struct _

theorem TagEFS.legal (tag : TagEFS) : tag.tag.LegalIn .struct := by
  cases tag <;> exact legal_struct _

theorem deserializeId_before {id : SceneStorageId} {rest : Elements}
  (h : Before .struct profile limit ((serializeId id rest).encode profile .struct ++ tail) r) :
  ∃ r', deserializeId r = (.ok id, r') ∧
    Before .struct profile limit (rest.encode profile .struct ++ tail) r' := by
  obtain ⟨r₁, hNext₁, hHolds₁⟩ := h.nextTag_leaf (legal .groupID) (by simp [Value.data])
  have hGet₁ := hHolds₁.getUInt 16 (by simpa using id.mGroupId.toNat_lt)
  obtain ⟨r₂, hNext₂, hHolds₂⟩ := hHolds₁.before.nextTag_leaf (legal .sceneID)
    (by simp [Value.data])
  have hGet₂ := hHolds₂.getUInt 8 (by simpa using id.mSceneId.toNat_lt)
  refine ⟨r₂, ?_, hHolds₂.before⟩
  unfold deserializeId
  rw [bind_ok hNext₁, liftGet_bind hGet₁, bind_ok hNext₂, liftGet_bind hGet₂]
  simp

theorem deserializeFieldSet_before {fieldSet : ExtensionFieldSet} {next : Elements}
  (h : Before .array profile limit
    ((Elements.container anonymousTag .struct
      (.leaf TagEFS.clusterID.tag (.unsignedInteger fieldSet.mID.toUInt64)
        (.leaf TagEFS.clusterFieldSetData.tag (.byteString fieldSet.bytes) .nil))
      next).encode profile .array ++ tail) r) :
  ∃ r' r'', nextTag anonymousTag r = (.ok (), r') ∧ deserializeFieldSet r' = (.ok fieldSet, r'') ∧
    Before .array profile limit (next.encode profile .array ++ tail) r'' := by
  obtain ⟨r₀, r₁, hNext, hTag, -, hEnter, hBefore⟩ := h.next_container rfl rfl
  have hSmall : fieldSet.bytes.length < 2 ^ 32 := by
    have hFits := fieldSet.fits
    simp only [maxFieldBytesPerCluster] at hFits
    omega
  obtain ⟨r₂, hNext₂, hHolds₂⟩ := hBefore.nextTag_leaf (TagEFS.legal .clusterID) (by simp [Value.data])
  have hGet₂ := hHolds₂.getUInt 32 (by simpa using fieldSet.mID.toNat_lt)
  obtain ⟨r₃, hNext₃, hHolds₃⟩ := hHolds₂.before.nextTag_leaf (TagEFS.legal .clusterFieldSetData) hSmall
  obtain ⟨r₄, hExit, hBefore₄⟩ := (before_nil hHolds₃.before).exitContainer .array (by decide)
  refine ⟨r₀, r₄, ?_, ?_, hBefore₄⟩
  · rw [nextTag, bind_ok hNext, read_bind, verify_apply, if_pos hTag]
  · unfold deserializeFieldSet
    rw [bind_ok hEnter, bind_ok hNext₂, liftGet_bind hGet₂, bind_ok hNext₃,
      liftGet_bind hHolds₃.getByteSpan, dif_pos fieldSet.fits, bind_ok hExit]
    simp

theorem fieldSetsLoop_before (fieldSets : List ExtensionFieldSet) {n : Nat}
  (hFits : fieldSets.length ≤ n)
  (h : Before .array profile limit
    ((serializeFieldSets fieldSets).encode profile .array ++ (terminator ++ tail)) r) :
  ∃ r', fieldSetsLoop n r = (.ok ⟨fieldSets, hFits⟩, r') ∧ Reads .array profile limit tail r' ∧
    r'.elementType = .endOfContainer := by
  induction fieldSets generalizing n r with
  | nil =>
    obtain ⟨r', hNext, hReads, hEnd⟩ := nextTag_end anonymousTag (before_nil h) (by decide)
    refine ⟨r', ?_, hReads, hEnd⟩
    cases n with
    | zero => simp [fieldSetsLoop, hNext]
    | succ n => simp [fieldSetsLoop, hNext]
  | cons fieldSet rest ih =>
    obtain ⟨n, rfl⟩ : ∃ m, n = m + 1 := ⟨n - 1, by simp at hFits; omega⟩
    obtain ⟨r₁, r₂, hNext, hRead, hBefore⟩ := deserializeFieldSet_before h
    obtain ⟨r', hLoop, hReads, hEnd⟩ := ih (Nat.le_of_succ_le_succ hFits) hBefore
    refine ⟨r', ?_, hReads, hEnd⟩
    simp only [fieldSetsLoop, attempt_bind, hNext]
    rw [bind_ok hRead, bind_ok hLoop]
    rfl

theorem deserializeFieldSets_before (data : SceneData)
  (h : Before .struct profile limit
    ((Elements.container extensionFieldSetsContainer.tag .struct
      (.container TagEFS.fieldSetArrayContainer.tag .array (serializeFieldSets data.mFieldSets) .nil)
      .nil).encode profile .struct ++ tail) r) :
  ∃ r', deserializeFieldSets r = (.ok ⟨data.mFieldSets, data.fieldSetsFit⟩, r') ∧
    Before .struct profile limit tail r' := by
  obtain ⟨r₁, r₂, hNext₁, hEnter₁, hBefore₁⟩ := h.nextTypeTag_container
    (legal .extensionFieldSetsContainer) rfl
  obtain ⟨r₃, r₄, hNext₂, hEnter₂, hBefore₂⟩ := hBefore₁.nextTypeTag_container
    (TagEFS.legal .fieldSetArrayContainer) rfl
  obtain ⟨r₅, hLoop, hReads, hEnd⟩ := fieldSetsLoop_before data.mFieldSets data.fieldSetsFit hBefore₂
  obtain ⟨r₆, hExit₁, hBefore₃⟩ := exitContainer_before .struct hEnd hReads
  obtain ⟨r₇, hExit₂, hBefore₄⟩ := (before_nil hBefore₃).exitContainer .struct (by decide)
  refine ⟨r₇, ?_, before_nil hBefore₄⟩
  unfold deserializeFieldSets
  rw [bind_ok hNext₁, bind_ok hEnter₁, bind_ok hNext₂, bind_ok hEnter₂,
    bind_ok hLoop, bind_ok hExit₁, bind_ok hExit₂]
  rfl

theorem deserializeName_before (data : SceneData)
  (h : Before .struct profile limit ((serializeData data).encode profile .struct ++ tail) r) :
  ∃ r', deserializeName r =
      (.ok (data.mName.takeWhile (· ≠ unicodeInformationSeparator1)), r') ∧
    Holds .struct profile limit transitionTimeMs.tag
      (.unsignedInteger data.mSceneTransitionTimeMs.toUInt64)
      ((Elements.container extensionFieldSetsContainer.tag .struct
        (.container TagEFS.fieldSetArrayContainer.tag .array (serializeFieldSets data.mFieldSets)
          .nil) .nil).encode profile .struct ++ tail) r' := by
  have hTags : transitionTimeMs.tag ≠ name.tag := by decide
  unfold serializeData at h
  by_cases hName : data.mName = []
  · rw [if_pos hName] at h
    obtain ⟨r₁, hNext, hHolds⟩ := h.next_leaf (legal .transitionTimeMs) (by simp [Value.data])
    refine ⟨r₁, ?_, hHolds⟩
    have hTag : r₁.getTag = transitionTimeMs.tag := hHolds.tag
    unfold deserializeName
    rw [bind_ok hNext, read_bind, verify_bind, if_pos (.inr hTag), hTag,
      if_neg hTags, hName]
    rfl
  · rw [if_neg hName] at h
    have hSmall : data.mName.length < 2 ^ 32 := by
      have hFits := data.nameFits
      simp only [sceneNameMaxLength] at hFits
      omega
    obtain ⟨r₁, hNext₁, hHolds₁⟩ := h.next_leaf (legal .name) hSmall
    obtain ⟨r₂, hNext₂, hHolds₂⟩ := hHolds₁.before.nextTag_leaf (legal .transitionTimeMs)
      (by simp [Value.data])
    refine ⟨r₂, ?_, hHolds₂⟩
    have hTag : r₁.getTag = name.tag := hHolds₁.tag
    unfold deserializeName
    rw [bind_ok hNext₁, read_bind, verify_bind, if_pos (.inl hTag), if_pos hTag,
      liftGet_bind hHolds₁.getCharSpan, bind_ok hNext₂]
    rfl

theorem deserializeScene_before (entry : SceneTableEntry)
  (h : Before .notSpecified profile limit
    ((serializeScene entry).encode profile .notSpecified ++ tail) r) :
  ∃ r', deserializeScene r = (.ok ⟨entry.mStorageId, entry.mStorageData.stored⟩, r') := by
  obtain ⟨r₁, r₂, hNext, hEnter, hBefore⟩ := h.nextTypeTag_container (.inl rfl) rfl
  obtain ⟨r₃, hId, hBefore₃⟩ := deserializeId_before hBefore
  obtain ⟨r₄, hName, hHolds⟩ := deserializeName_before entry.mStorageData hBefore₃
  have hTime := hHolds.getUInt 32 (by simpa using entry.mStorageData.mSceneTransitionTimeMs.toNat_lt)
  obtain ⟨r₅, hSets, hBefore₅⟩ := deserializeFieldSets_before entry.mStorageData hHolds.before
  obtain ⟨r₆, hExit, -⟩ := hBefore₅.exitContainer .notSpecified (by decide)
  have hTake : (entry.mStorageData.mName.takeWhile (· ≠ unicodeInformationSeparator1)).take
      sceneNameMaxLength = entry.mStorageData.mName.takeWhile (· ≠ unicodeInformationSeparator1) :=
    take_of_length_le entry.mStorageData.stored.nameFits
  refine ⟨r₆, ?_⟩
  unfold deserializeScene
  rw [bind_ok hNext, bind_ok hEnter, bind_ok hId, bind_ok hName,
    liftGet_bind hTime, bind_ok hSets, bind_ok hExit]
  simp only [pure_apply, setName, hTake, SceneData.stored, UInt32.toNat_toUInt64,
    UInt32.ofNat_toNat]

theorem deserializeCount_before (countValue : UInt8)
  (h : Before .notSpecified profile limit
    ((serializeCount countValue).encode profile .notSpecified ++ tail) r) :
  ∃ r', deserializeCount r = (.ok countValue, r') := by
  obtain ⟨r₁, r₂, hNext, hEnter, hBefore⟩ := h.nextTypeTag_container (.inl rfl) rfl
  obtain ⟨r₃, hNext₃, hHolds⟩ := hBefore.nextTag_leaf (legal .endpointSceneCount)
    (by simp [Value.data])
  have hGet := hHolds.getUInt 8 (by simpa using countValue.toNat_lt)
  obtain ⟨r₄, hExit, -⟩ := (before_nil hHolds.before).exitContainer .notSpecified (by decide)
  refine ⟨r₄, ?_⟩
  unfold deserializeCount
  rw [bind_ok hNext, bind_ok hEnter, bind_ok hNext₃, liftGet_bind hGet,
    bind_ok hExit]
  simp

theorem deserializeMap_before (sceneMap : List SceneStorageId) {fuel : Nat}
  (hFuel : sceneMap.length < fuel)
  (h : Before .array profile limit
    ((serializeMap sceneMap).encode profile .array ++ (terminator ++ tail)) r) :
  ∃ r', deserializeMap fuel r = (sceneMap, .ok r') ∧ Reads .array profile limit tail r' ∧
    r'.elementType = .endOfContainer := by
  induction sceneMap generalizing fuel r with
  | nil =>
    obtain ⟨fuel, rfl⟩ : ∃ n, fuel = n + 1 := ⟨fuel - 1, by omega⟩
    obtain ⟨r', hNext, hReads, hEnd⟩ := nextTag_end anonymousTag (before_nil h) (by decide)
    exact ⟨r', by simp [deserializeMap, hNext], hReads, hEnd⟩
  | cons id rest ih =>
    obtain ⟨fuel, rfl⟩ : ∃ n, fuel = n + 1 := ⟨fuel - 1, by omega⟩
    obtain ⟨r₁, r₂, hNext, hTag, -, hEnter, hBefore⟩ := h.next_container rfl rfl
    obtain ⟨r₃, hId, hBefore₃⟩ := deserializeId_before hBefore
    obtain ⟨r₄, hExit, hBefore₄⟩ := (before_nil hBefore₃).exitContainer .array (by decide)
    have hNextTag : nextTag anonymousTag r = (.ok (), r₁) := by
      rw [nextTag, bind_ok hNext, read_bind, verify_apply, if_pos hTag]
    have hEntry : deserializeMapEntry r₁ = (.ok id, r₄) := by
      rw [deserializeMapEntry, bind_ok hEnter, bind_ok hId, bind_ok hExit]
      rfl
    obtain ⟨r', hLoop, hReads, hEnd⟩ := ih (Nat.lt_of_succ_lt_succ hFuel) hBefore₄
    refine ⟨r', ?_, hReads, hEnd⟩
    simp only [deserializeMap, hNextTag, hEntry, hLoop]

theorem deserializeFabric_before (sceneCount : UInt8) (sceneMap : List SceneStorageId) {fuel : Nat}
  (hFuel : sceneMap.length < fuel)
  (h : Before .notSpecified profile limit
    ((serializeFabric sceneCount sceneMap).encode profile .notSpecified ++ tail) r) :
  ∃ r' r'' r₃ r₄, deserializeSceneCount r = (.ok (sceneCount, .notSpecified, .struct), r') ∧
    deserializeMap fuel r' = (sceneMap, .ok r'') ∧
    exitContainer .struct r'' = (.ok (), r₃) ∧ exitContainer .notSpecified r₃ = (.ok (), r₄) := by
  obtain ⟨r₁, r₂, hNext, hEnter, hBefore⟩ := h.nextTypeTag_container (.inl rfl) rfl
  obtain ⟨r₃, hNext₃, hHolds⟩ := hBefore.nextTag_leaf (legal .sceneCount) (by simp [Value.data])
  have hGet := hHolds.getUInt 8 (by simpa using sceneCount.toNat_lt)
  obtain ⟨r₄, r₅, hNext₄, hEnter₄, hBefore₄⟩ := hHolds.before.nextTypeTag_container
    (legal .storageIDArray) rfl
  obtain ⟨r₆, hLoop, hReads, hEnd⟩ := deserializeMap_before sceneMap hFuel hBefore₄
  obtain ⟨r₇, hExit₁, hBefore₅⟩ := exitContainer_before .struct hEnd hReads
  obtain ⟨r₈, hExit₂, -⟩ := (before_nil hBefore₅).exitContainer .notSpecified (by decide)
  refine ⟨r₅, r₆, r₇, r₈, ?_, hLoop, hExit₁, hExit₂⟩
  unfold deserializeSceneCount
  rw [bind_ok hNext, bind_ok hEnter, bind_ok hNext₃, liftGet_bind hGet,
    bind_ok hNext₄, bind_ok hEnter₄]
  simp

end Reading

section Sizes

variable (profile : BitVec 32)

theorem serializeId_length (id : SceneStorageId) (rest : Elements) :
  ((serializeId id rest).encode profile .struct).length ≤
    7 + (rest.encode profile .struct).length := by
  have hGroup := uintElementType_uint16 id.mGroupId
  have hScene := uintElementType_uint8 id.mSceneId
  simp only [serializeId, Elements.encode, tag, length_append,
    headBytes_context_length, Value.elementType, Value.data, length_nil]
  omega

theorem serializeMap_length (sceneMap : List SceneStorageId) :
  ((serializeMap sceneMap).encode profile .array).length ≤ 9 * sceneMap.length := by
  induction sceneMap with
  | nil => exact Nat.zero_le _
  | cons id rest ih =>
    have hId := serializeId_length profile id .nil
    have hHead := headBytes_anonymous_length profile TLVType.struct.toElementType 0 (.inr rfl)
    simp only [serializeMap, Elements.encode, length_append, hHead, terminator,
      length_cons, length_nil] at hId ⊢
    simp only [struct_fieldBytes]
    omega

theorem serializeFabric_length (sceneCount : UInt8) (sceneMap : List SceneStorageId) :
  (serializeFabric sceneCount sceneMap).bytes.length ≤ 8 + 9 * sceneMap.length := by
  have hCount := uintElementType_uint8 sceneCount
  have hMap := serializeMap_length profileIdNotSpecified sceneMap
  have hHead := headBytes_anonymous_length profileIdNotSpecified TLVType.struct.toElementType 0 (.inl rfl)
  simp only [serializeFabric, Elements.bytes, Elements.encode, length_append, hHead,
    tag, headBytes_context_length, terminator, length_cons, length_nil,
    Value.elementType, Value.data]
  simp only [struct_fieldBytes, array_fieldBytes]
  omega

theorem serializeCount_length (countValue : UInt8) : (serializeCount countValue).bytes.length ≤ 5 := by
  have hCount := uintElementType_uint8 countValue
  have hHead := headBytes_anonymous_length profileIdNotSpecified TLVType.struct.toElementType 0 (.inl rfl)
  simp only [serializeCount, Elements.bytes, Elements.encode, length_append, hHead,
    tag, headBytes_context_length, terminator, length_cons, length_nil,
    Value.elementType, Value.data]
  simp only [struct_fieldBytes]
  omega

theorem byteStringElementType_bytes (n : Nat) : (byteStringElementType n).fieldSize.bytes ≤ 4 := by
  unfold byteStringElementType
  split_ifs <;> simp [TLVElementType.fieldSize, TLVFieldSize.bytes]

theorem utf8StringElementType_bytes (n : Nat) : (utf8StringElementType n).fieldSize.bytes ≤ 4 := by
  unfold utf8StringElementType
  split_ifs <;> simp [TLVElementType.fieldSize, TLVFieldSize.bytes]

theorem serializeFieldSets_length (fieldSets : List ExtensionFieldSet) :
  ((serializeFieldSets fieldSets).encode profile .array).length ≤ 200 * fieldSets.length := by
  induction fieldSets with
  | nil => exact Nat.zero_le _
  | cons fieldSet rest ih =>
    have hID := uintElementType_uint32 fieldSet.mID
    have hBytes := byteStringElementType_bytes fieldSet.bytes.length
    have hFits := fieldSet.fits
    have hHead := headBytes_anonymous_length profile TLVType.struct.toElementType 0 (.inr rfl)
    simp only [serializeFieldSets, Elements.encode, length_append, hHead, TagEFS.tag,
      headBytes_context_length, terminator, length_cons, length_nil, Value.elementType,
      Value.data]
    simp only [struct_fieldBytes, maxFieldBytesPerCluster] at hFits ⊢
    omega

theorem serializeScene_length (entry : SceneTableEntry) :
  (serializeScene entry).bytes.length ≤ 700 := by
  have hId := serializeId_length profileIdNotSpecified entry.mStorageId
    (serializeData entry.mStorageData)
  have hTime := uintElementType_uint32 entry.mStorageData.mSceneTransitionTimeMs
  have hName := utf8StringElementType_bytes entry.mStorageData.mName.length
  have hNameFits := entry.mStorageData.nameFits
  have hSetsFit := entry.mStorageData.fieldSetsFit
  have hSets := serializeFieldSets_length profileIdNotSpecified
    entry.mStorageData.mFieldSets
  have hHead := headBytes_anonymous_length profileIdNotSpecified TLVType.struct.toElementType 0 (.inl rfl)
  have hData : ((serializeData entry.mStorageData).encode profileIdNotSpecified .struct).length ≤
      40 + ((serializeFieldSets entry.mStorageData.mFieldSets).encode profileIdNotSpecified
        .array).length := by
    simp only [sceneNameMaxLength] at hNameFits
    unfold serializeData
    split_ifs <;>
      simp only [Elements.encode, length_append, TagEFS.tag, tag,
        headBytes_context_length, terminator, length_cons, length_nil,
        Value.elementType, Value.data, struct_fieldBytes, array_fieldBytes] <;> omega
  simp only [serializeScene, Elements.bytes, Elements.encode, length_append, hHead, terminator,
    length_cons, length_nil]
  simp only [struct_fieldBytes, maxClustersPerScene] at hSetsFit ⊢
  omega

end Sizes

theorem serializeFieldSets_legal (fieldSets : List ExtensionFieldSet) :
  (serializeFieldSets fieldSets).Legal .array := by
  induction fieldSets with
  | nil => trivial
  | cons fieldSet rest ih =>
    have hFits : fieldSet.bytes.length < 2 ^ 32 := by
      have hFits := fieldSet.fits
      simp only [maxFieldBytesPerCluster] at hFits
      omega
    exact ⟨rfl, rfl, ⟨TagEFS.legal .clusterID, by simp [Value.data],
      TagEFS.legal .clusterFieldSetData, hFits, trivial⟩, ih⟩

theorem serializeId_legal (id : SceneStorageId) {rest : Elements} (h : rest.Legal .struct) :
  (serializeId id rest).Legal .struct :=
  ⟨legal .groupID, by simp [Value.data], legal .sceneID, by simp [Value.data], h⟩

theorem serializeScene_legal (entry : SceneTableEntry) :
  (serializeScene entry).Legal .notSpecified := by
  have hName : entry.mStorageData.mName.length < 2 ^ 32 := by
    have hFits := entry.mStorageData.nameFits
    simp only [sceneNameMaxLength] at hFits
    omega
  refine ⟨.inl rfl, rfl, serializeId_legal _ ?_, trivial⟩
  unfold serializeData
  have hRest : (Elements.leaf transitionTimeMs.tag
      (.unsignedInteger entry.mStorageData.mSceneTransitionTimeMs.toUInt64)
      (.container extensionFieldSetsContainer.tag .struct
        (.container TagEFS.fieldSetArrayContainer.tag .array
          (serializeFieldSets entry.mStorageData.mFieldSets) .nil) .nil)).Legal .struct :=
    ⟨legal .transitionTimeMs, by simp [Value.data],
      legal .extensionFieldSetsContainer, rfl,
      ⟨TagEFS.legal .fieldSetArrayContainer, rfl, serializeFieldSets_legal _, trivial⟩, trivial⟩
  split_ifs
  · exact hRest
  · exact ⟨legal .name, hName, hRest⟩

theorem serializeMap_legal (sceneMap : List SceneStorageId) : (serializeMap sceneMap).Legal .array := by
  induction sceneMap with
  | nil => trivial
  | cons id rest ih => exact ⟨rfl, rfl, serializeId_legal id trivial, ih⟩

theorem serializeFabric_legal (sceneCount : UInt8) (sceneMap : List SceneStorageId) :
  (serializeFabric sceneCount sceneMap).Legal .notSpecified :=
  ⟨.inl rfl, rfl, ⟨legal .sceneCount, by simp [Value.data], legal .storageIDArray,
    rfl, serializeMap_legal sceneMap, trivial⟩, trivial⟩

theorem serializeCount_legal (countValue : UInt8) :
  (serializeCount countValue).Legal .notSpecified :=
  ⟨.inl rfl, rfl, ⟨legal .endpointSceneCount, by simp [Value.data], trivial⟩, trivial⟩

theorem serializeFabric_fuel (sceneCount : UInt8) (sceneMap : List SceneStorageId) :
  sceneMap.length < (serializeFabric sceneCount sceneMap).bytes.length + 1 := by
  have hSize := (serializeFabric sceneCount sceneMap).size_le_encode profileIdNotSpecified
    (serializeFabric_legal sceneCount sceneMap)
  have hMap : sceneMap.length ≤ (serializeMap sceneMap).size := by
    induction sceneMap with
    | nil => exact Nat.zero_le _
    | cons id rest ih =>
      have hRest := ih ((serializeFabric sceneCount rest).size_le_encode profileIdNotSpecified
        (serializeFabric_legal sceneCount rest))
      simp only [serializeMap, Elements.size, length_cons]
      omega
  simp only [serializeFabric, Elements.size] at hSize
  simp only [serializeFabric, Elements.bytes]
  omega

end Chip.Scenes
