import Chip.App.SubscriptionRecord
import Chip.SecureChannel.SessionResumption

/-! The records of session resumption as bytes (`SimpleSessionResumptionStorage.cpp`): how they
are written and loaded, that they fit their buffers, and that they are loaded as they were
written. -/
namespace Chip.SecureChannel

open Proc List TLV
open App (estimateStructOverhead maxScopedNodeIdSize)

/-- `kMaxSubjectCATAttributeCount`. -/
def maxSubjectCATAttributeCount : Nat := 3

/-- `P256ECDHDerivedSecret::Capacity`. -/
def derivedSecretCapacity : Nat := 32

def maxIndexSize (cacheSize : Nat) : Nat :=
  estimateStructOverhead [(1 + maxScopedNodeIdSize) * cacheSize]

def maxStateSize : Nat :=
  estimateStructOverhead [16, derivedSecretCapacity, 4 * maxSubjectCATAttributeCount]

/-- What the types of the arguments of `SaveState` hold. -/
structure SessionState.Fits (state : SessionState) : Prop where
  sharedSecret : state.sharedSecret.length ≤ derivedSecretCapacity
  peerCATs : state.peerCATs.length = maxSubjectCATAttributeCount

instance (state : SessionState) : Decidable state.Fits :=
  decidable_of_iff (state.sharedSecret.length ≤ derivedSecretCapacity ∧
      state.peerCATs.length = maxSubjectCATAttributeCount)
    ⟨fun h => ⟨h.1, h.2⟩, fun h => ⟨h.sharedSecret, h.peerCATs⟩⟩

inductive ResumptionTag where
  | fabricIndex
  | peerNodeId
  | resumptionId
  | sharedSecret
  | cat

def ResumptionTag.tag : ResumptionTag → Tag
  | fabricIndex => contextTag 1
  | peerNodeId => contextTag 2
  | resumptionId => contextTag 3
  | sharedSecret => contextTag 4
  | cat => contextTag 5

/-- `CATValues::Serialize`. -/
def serializeCATs (values : List UInt32) : Bytes :=
  values.flatMap fun value => LittleEndian.encode 4 value.toNat

def serializeNode (node : ScopedNodeId) (next : Elements) : Elements :=
  .container anonymousTag .struct
    (.leaf ResumptionTag.fabricIndex.tag (.unsignedInteger node.mFabricIndex.toUInt64)
      (.leaf ResumptionTag.peerNodeId.tag (.unsignedInteger node.mNodeId) .nil))
    next

def serializeNodes : List ScopedNodeId → Elements
  | [] => .nil
  | node :: rest => serializeNode node (serializeNodes rest)

/-- What `SaveIndex` writes. -/
def serializeIndex (nodes : List ScopedNodeId) : Elements :=
  .container anonymousTag .array (serializeNodes nodes) .nil

/-- What `SaveLink` writes. -/
def serializeLink (node : ScopedNodeId) : Elements := serializeNode node .nil

/-- What `SaveState` writes. -/
def serializeState (state : SessionState) : Elements :=
  .container anonymousTag .struct
    (.leaf ResumptionTag.resumptionId.tag (.byteString state.resumptionId.toList)
      (.leaf ResumptionTag.sharedSecret.tag (.byteString state.sharedSecret)
        (.leaf ResumptionTag.cat.tag (.byteString (serializeCATs state.peerCATs)) .nil)))
    .nil

/-- `CATValues::Deserialize`. -/
def deserializeCATs : Nat → Bytes → List UInt32
  | 0, _ => []
  | count + 1, bytes =>
    UInt32.ofNat (LittleEndian.value (bytes.take 4)) :: deserializeCATs count (bytes.drop 4)

def verifyEndOfContainer : ReaderM Unit := do
  match ← Proc.attempt next with
  | .ok () => Proc.fail .unexpectedTLVElement
  | .error e => Proc.verify (e = .endOfTLV) e

def readNode : ReaderM ScopedNodeId := do
  nextTag ResumptionTag.fabricIndex.tag
  let fabricIndex ← liftGet (getUInt 8)
  nextTag ResumptionTag.peerNodeId.tag
  let peerNodeId ← liftGet (getUInt 64)
  pure ⟨UInt64.ofNat peerNodeId, UInt8.ofNat fabricIndex⟩

/-- The condition of the loop of `LoadIndex`: whether there is another node. -/
def nextNode : ReaderM Bool := do
  match ← Proc.attempt (nextTypeTag .struct anonymousTag) with
  | .ok () => pure true
  | .error e => do
      Proc.verify (e = .endOfTLV) e
      pure false

/-- The loop of `LoadIndex`, with room for so many nodes. -/
def readNodes : Nat → ReaderM (List ScopedNodeId)
  | 0 => do
      if ← nextNode then Proc.fail .noMemory else pure []
  | room + 1 => do
      if ← nextNode then do
        let containerType ← enterContainer
        let node ← readNode
        exitContainer containerType
        let rest ← readNodes room
        pure (node :: rest)
      else pure []

/-- What `LoadIndex` reads from the bytes of the index. -/
def deserializeIndex (cacheSize : Nat) : ReaderM (List ScopedNodeId) := do
  nextTypeTag .array anonymousTag
  let arrayType ← enterContainer
  let nodes ← readNodes cacheSize
  exitContainer arrayType
  verifyEndOfContainer
  pure nodes

/-- What `LoadLink` reads from the bytes of a link. -/
def deserializeLink : ReaderM ScopedNodeId := do
  nextTypeTag .struct anonymousTag
  let containerType ← enterContainer
  let node ← readNode
  exitContainer containerType
  verifyEndOfContainer
  pure node

/-- The resumption id of the bytes of a field, which must have its size. -/
def resumptionIdOf (bytes : Bytes) : Except ChipError ResumptionId :=
  if h : bytes.length = 16 then .ok ⟨bytes.toArray, by simpa using h⟩ else .error .keyNotFound

/-- What `LoadState` reads from the bytes of a state. -/
def deserializeState : ReaderM SessionState := do
  nextTypeTag .struct anonymousTag
  let containerType ← enterContainer
  nextTag ResumptionTag.resumptionId.tag
  let resumptionIdSpan ← liftGet getByteSpan
  let resumptionId ← Proc.lift (resumptionIdOf resumptionIdSpan)
  nextTag ResumptionTag.sharedSecret.tag
  let sharedSecretSpan ← liftGet getByteSpan
  Proc.verify (sharedSecretSpan.length ≤ derivedSecretCapacity) .bufferTooSmall
  nextTag ResumptionTag.cat.tag
  let catSpan ← liftGet getByteSpan
  Proc.verify (4 * maxSubjectCATAttributeCount = catSpan.length) .invalidTLVElement
  exitContainer containerType
  verifyEndOfContainer
  pure ⟨resumptionId, sharedSecretSpan, deserializeCATs maxSubjectCATAttributeCount catSpan⟩

section Reading

variable {profile : BitVec 32} {limit : Nat} {r : TLVReader} {tail : Bytes}

theorem ResumptionTag.legal (tag : ResumptionTag) : tag.tag.LegalIn .struct := by
  cases tag <;> exact legal_struct _

theorem serializeCATs_length (values : List UInt32) :
  (serializeCATs values).length = 4 * values.length := by
  induction values with
  | nil => rfl
  | cons value rest ih =>
    simp only [serializeCATs, flatMap_cons, length_append,
      LittleEndian.encode_length, length_cons] at ih ⊢
    omega

theorem deserializeCATs_serializeCATs (values : List UInt32) :
  deserializeCATs values.length (serializeCATs values) = values := by
  induction values with
  | nil => rfl
  | cons value rest ih =>
    have hLength : (LittleEndian.encode 4 value.toNat).length = 4 := LittleEndian.encode_length 4 _
    have hValue : LittleEndian.value (LittleEndian.encode 4 value.toNat) = value.toNat :=
      LittleEndian.value_encode_of_lt value.toNat_lt
    have hFirst : UInt32.ofNat (LittleEndian.value (LittleEndian.encode 4 value.toNat)) = value := by
      rw [hValue, UInt32.ofNat_toNat]
    rw [length_cons, deserializeCATs, serializeCATs, flatMap_cons,
      take_left' hLength, drop_left' hLength, hFirst]
    exact congrArg (value :: ·) ih

theorem verifyEndOfContainer_before (h : Before .notSpecified profile limit [] r) :
  ∃ r', verifyEndOfContainer r = (.ok (), r') := by
  obtain ⟨r₀, hSkip, hReads⟩ := h.skips
  have hSkipAll : skip r = (.ok (), r₀.clearElementState) := by
    simp only [skip, read_bind, verify_bind, if_pos h.notEnd, h.notContainer,
      Bool.false_eq_true, if_false]
    exact bind_ok hSkip
  have hSettled := settled_clear r₀
  have hEnd := next_end hSettled hReads.clearElementState
  have hNext : next r = next r₀.clearElementState := by
    unfold TLV.next
    rw [bind_ok hSkipAll, bind_ok (skip_settled hSettled)]
    rfl
  rw [← hNext] at hEnd
  refine ⟨r₀.clearElementState.clearElementState, ?_⟩
  rw [verifyEndOfContainer, attempt_bind, hEnd]
  rfl

theorem readNode_before {node : ScopedNodeId} {next : Elements}
  (h : Before .struct profile limit ((Elements.leaf ResumptionTag.fabricIndex.tag
    (.unsignedInteger node.mFabricIndex.toUInt64) (.leaf ResumptionTag.peerNodeId.tag
      (.unsignedInteger node.mNodeId) next)).encode profile .struct ++ tail) r) :
  ∃ r', readNode r = (.ok node, r') ∧
    Before .struct profile limit (next.encode profile .struct ++ tail) r' := by
  obtain ⟨r₁, hNext₁, hHolds₁⟩ := h.nextTag_leaf (ResumptionTag.legal .fabricIndex)
    (by simp [Value.data])
  have hFabric := hHolds₁.getUInt 8 (by simpa using node.mFabricIndex.toNat_lt)
  obtain ⟨r₂, hNext₂, hHolds₂⟩ := hHolds₁.before.nextTag_leaf (ResumptionTag.legal .peerNodeId)
    (by simp [Value.data])
  have hNode := hHolds₂.getUInt 64 node.mNodeId.toNat_lt
  refine ⟨r₂, ?_, hHolds₂.before⟩
  rw [readNode, bind_ok hNext₁, liftGet_bind hFabric, bind_ok hNext₂, liftGet_bind hNode]
  simp

theorem readNodes_before (nodes : List ScopedNodeId) {room : Nat} (hRoom : nodes.length ≤ room)
  (h : Before .array profile limit
    ((serializeNodes nodes).encode profile .array ++ (terminator ++ tail)) r) :
  ∃ r', readNodes room r = (.ok nodes, r') ∧ Reads .array profile limit tail r' ∧
    r'.elementType = .endOfContainer := by
  induction nodes generalizing room r with
  | nil =>
    obtain ⟨r', hNext, hReads, hEnd⟩ := nextTag_end anonymousTag (before_nil h) (by decide)
    have hNone : nextNode r = (.ok false, r') := by
      have hNextType : nextTypeTag .struct anonymousTag r = (.error .endOfTLV, r') :=
        bind_error hNext
      rw [nextNode, attempt_bind, hNextType]
      rfl
    refine ⟨r', ?_, hReads, hEnd⟩
    cases room <;> exact bind_ok hNone
  | cons node rest ih =>
    obtain ⟨room, rfl⟩ : ∃ k, room = k + 1 := ⟨room - 1, by simp at hRoom; omega⟩
    obtain ⟨r₁, r₂, hNext, hEnter, hBefore₂⟩ := h.nextTypeTag_container rfl rfl
    obtain ⟨r₃, hNode, hBefore₃⟩ := readNode_before hBefore₂
    obtain ⟨r₄, hExit, hBefore₄⟩ := (before_nil hBefore₃).exitContainer .array (by decide)
    obtain ⟨r₅, hRest, hReads, hEnd⟩ := ih (Nat.le_of_succ_le_succ hRoom) hBefore₄
    have hOne : nextNode r = (.ok true, r₁) := by
      rw [nextNode, attempt_bind, hNext]
      rfl
    refine ⟨r₅, ?_, hReads, hEnd⟩
    rw [readNodes, bind_ok hOne, if_pos rfl, bind_ok hEnter,
      bind_ok hNode, bind_ok hExit, bind_ok hRest]
    rfl

theorem deserializeIndex_before {nodes : List ScopedNodeId} {cacheSize : Nat}
  (hSize : nodes.length ≤ cacheSize)
  (h : Before .notSpecified profile limit
    ((serializeIndex nodes).encode profile .notSpecified ++ []) r) :
  ∃ r', deserializeIndex cacheSize r = (.ok nodes, r') := by
  obtain ⟨r₁, r₂, hNext, hEnter, hBefore₂⟩ := h.nextTypeTag_container (.inl rfl) rfl
  obtain ⟨r₃, hNodes, hReads, hEnd⟩ := readNodes_before nodes hSize hBefore₂
  obtain ⟨r₄, hExit, hBefore₄⟩ := exitContainer_before .notSpecified hEnd hReads
  obtain ⟨r₅, hVerify⟩ := verifyEndOfContainer_before hBefore₄
  refine ⟨r₅, ?_⟩
  rw [deserializeIndex, bind_ok hNext, bind_ok hEnter, bind_ok hNodes,
    bind_ok hExit, bind_ok hVerify]
  rfl

theorem deserializeLink_before {node : ScopedNodeId}
  (h : Before .notSpecified profile limit
    ((serializeLink node).encode profile .notSpecified ++ []) r) :
  ∃ r', deserializeLink r = (.ok node, r') := by
  obtain ⟨r₁, r₂, hNext, hEnter, hBefore₂⟩ := h.nextTypeTag_container (.inl rfl) rfl
  obtain ⟨r₃, hNode, hBefore₃⟩ := readNode_before hBefore₂
  obtain ⟨r₄, hExit, hBefore₄⟩ := (before_nil hBefore₃).exitContainer .notSpecified (by decide)
  obtain ⟨r₅, hVerify⟩ := verifyEndOfContainer_before hBefore₄
  refine ⟨r₅, ?_⟩
  rw [deserializeLink, bind_ok hNext, bind_ok hEnter, bind_ok hNode,
    bind_ok hExit, bind_ok hVerify]
  rfl

theorem resumptionIdOf_toList (resumptionId : ResumptionId) :
  resumptionIdOf resumptionId.toList = .ok resumptionId := by
  rw [resumptionIdOf, dif_pos (by simp)]
  rfl

theorem deserializeState_before {state : SessionState} (hFits : state.Fits)
  (h : Before .notSpecified profile limit
    ((serializeState state).encode profile .notSpecified ++ []) r) :
  ∃ r', deserializeState r = (.ok state, r') := by
  have hSecret := hFits.sharedSecret
  have hCATs := serializeCATs_length state.peerCATs
  rw [hFits.peerCATs] at hCATs
  have hCAT := deserializeCATs_serializeCATs state.peerCATs
  rw [hFits.peerCATs] at hCAT
  obtain ⟨r₁, r₂, hNext, hEnter, hBefore₂⟩ := h.nextTypeTag_container (.inl rfl) rfl
  obtain ⟨r₃, hNext₃, hHolds₃⟩ := hBefore₂.nextTag_leaf (ResumptionTag.legal .resumptionId)
    (by simp [Value.data])
  obtain ⟨r₄, hNext₄, hHolds₄⟩ := hHolds₃.before.nextTag_leaf (ResumptionTag.legal .sharedSecret)
    (by simp only [Value.data]; simp only [derivedSecretCapacity] at hSecret; omega)
  obtain ⟨r₅, hNext₅, hHolds₅⟩ := hHolds₄.before.nextTag_leaf (ResumptionTag.legal .cat)
    (by simp only [Value.data, hCATs]; decide)
  obtain ⟨r₆, hExit, hBefore₆⟩ := (before_nil hHolds₅.before).exitContainer .notSpecified (by decide)
  obtain ⟨r₇, hVerify⟩ := verifyEndOfContainer_before hBefore₆
  refine ⟨r₇, ?_⟩
  rw [deserializeState, bind_ok hNext, bind_ok hEnter, bind_ok hNext₃,
    liftGet_bind hHolds₃.getByteSpan]
  rw [resumptionIdOf_toList, bind_ok (lift_apply _ _), bind_ok hNext₄,
    liftGet_bind hHolds₄.getByteSpan, verify_bind, if_pos hSecret, bind_ok hNext₅,
    liftGet_bind hHolds₅.getByteSpan, verify_bind, if_pos hCATs.symm, bind_ok hExit,
    bind_ok hVerify, hCAT]
  rfl

end Reading

section Sizes

variable {context : TLVType} (profile : BitVec 32)

theorem serializeNode_length (hContext : context = .notSpecified ∨ context = .array)
  (node : ScopedNodeId) (next : Elements) :
  ((serializeNode node next).encode profile context).length ≤
    15 + (next.encode profile context).length := by
  have hFabric := uintElementType_uint8 node.mFabricIndex
  have hNode := uintElementType_uint64 node.mNodeId
  have hHead := headBytes_anonymous_length profile TLVType.struct.toElementType 0 hContext
  simp only [serializeNode, Elements.encode, length_append, hHead, ResumptionTag.tag,
    headBytes_context_length, terminator, length_cons, length_nil, Value.elementType,
    Value.data]
  simp only [struct_fieldBytes]
  omega

theorem serializeNodes_length (nodes : List ScopedNodeId) :
  ((serializeNodes nodes).encode profile .array).length ≤ 15 * nodes.length := by
  induction nodes with
  | nil => exact Nat.zero_le _
  | cons node rest ih =>
    have hNode := serializeNode_length profile (.inr rfl) node (serializeNodes rest)
    rw [serializeNodes, length_cons]
    omega

theorem serializeIndex_length {nodes : List ScopedNodeId} {cacheSize : Nat}
  (hSize : nodes.length ≤ cacheSize) :
  (serializeIndex nodes).bytes.length ≤ maxIndexSize cacheSize := by
  have hNodes := serializeNodes_length profileIdNotSpecified nodes
  have hHead := headBytes_anonymous_length profileIdNotSpecified TLVType.array.toElementType 0
    (.inl rfl)
  simp only [serializeIndex, Elements.bytes, Elements.encode, length_append, hHead, terminator,
    length_cons, length_nil, maxIndexSize, estimateStructOverhead, maxScopedNodeIdSize,
    map_cons, map_nil, sum_cons, sum_nil]
  simp only [array_fieldBytes]
  omega

theorem serializeLink_length (node : ScopedNodeId) :
  (serializeLink node).bytes.length ≤ maxScopedNodeIdSize := by
  have hNode := serializeNode_length profileIdNotSpecified (.inl rfl) node .nil
  rw [Elements.encode, length_nil] at hNode
  rw [serializeLink, Elements.bytes, show maxScopedNodeIdSize = 19 from rfl]
  omega

theorem byteStringElementType_short {n : Nat} (h : n < 2 ^ 8) :
  (byteStringElementType n).fieldSize.bytes = 1 := by
  rw [byteStringElementType, if_pos h]
  rfl

theorem serializeState_length {state : SessionState} (hFits : state.Fits) :
  (serializeState state).bytes.length ≤ maxStateSize := by
  have hSecret := hFits.sharedSecret
  simp only [derivedSecretCapacity] at hSecret
  have hCATs := serializeCATs_length state.peerCATs
  simp only [hFits.peerCATs, maxSubjectCATAttributeCount] at hCATs
  have hId : state.resumptionId.toList.length = 16 := by simp
  have hHead := headBytes_anonymous_length profileIdNotSpecified TLVType.struct.toElementType 0
    (.inl rfl)
  have hIdType := byteStringElementType_short (show state.resumptionId.toList.length < 2 ^ 8 by omega)
  have hSecretType := byteStringElementType_short (show state.sharedSecret.length < 2 ^ 8 by omega)
  have hCATType := byteStringElementType_short
    (show (serializeCATs state.peerCATs).length < 2 ^ 8 by omega)
  simp only [serializeState, Elements.bytes, Elements.encode, length_append, hHead,
    ResumptionTag.tag, headBytes_context_length, terminator, length_cons, length_nil,
    Value.elementType, Value.data, hIdType, hSecretType, hCATType]
  simp only [struct_fieldBytes, maxStateSize, estimateStructOverhead, derivedSecretCapacity,
    maxSubjectCATAttributeCount, map_cons, map_nil, sum_cons, sum_nil]
  omega

end Sizes

section Legality

theorem serializeNode_legal (context : TLVType) (hTag : anonymousTag.LegalIn context)
  (node : ScopedNodeId) {next : Elements} (hNext : next.Legal context) :
  (serializeNode node next).Legal context :=
  ⟨hTag, rfl, ⟨ResumptionTag.legal .fabricIndex, by simp [Value.data],
    ResumptionTag.legal .peerNodeId, by simp [Value.data], trivial⟩, hNext⟩

theorem serializeNodes_legal (nodes : List ScopedNodeId) :
  (serializeNodes nodes).Legal .array := by
  induction nodes with
  | nil => trivial
  | cons node rest ih => exact serializeNode_legal .array rfl node ih

theorem serializeIndex_legal (nodes : List ScopedNodeId) :
  (serializeIndex nodes).Legal .notSpecified :=
  ⟨.inl rfl, rfl, serializeNodes_legal nodes, trivial⟩

theorem serializeState_legal {state : SessionState} (hFits : state.Fits) :
  (serializeState state).Legal .notSpecified := by
  have hSecret : state.sharedSecret.length < 2 ^ 32 :=
    hFits.sharedSecret.trans_lt (by decide)
  have hCATs : (serializeCATs state.peerCATs).length < 2 ^ 32 := by
    rw [serializeCATs_length, hFits.peerCATs]
    decide
  exact ⟨.inl rfl, rfl, ⟨ResumptionTag.legal .resumptionId, by simp [Value.data],
    ResumptionTag.legal .sharedSecret, hSecret, ResumptionTag.legal .cat, hCATs, trivial⟩, trivial⟩

end Legality

/-- `SyncGetKeyValue` into a buffer of this size. -/
def getRecord (size : Nat) : Option Bytes → Except ChipError Bytes
  | none => .error .persistedStorageValueNotFound
  | some bytes => if bytes.length ≤ size then .ok bytes else .error .bufferTooSmall

def readRecord {α : Type} (deserialize : ReaderM α) (bytes : Bytes) : Except ChipError α :=
  (deserialize (TLVReader.init bytes bytes.length)).1

section Records

variable {nodes : List ScopedNodeId} {cacheSize : Nat} {node : ScopedNodeId} {state : SessionState}

theorem encodeInto_index (hBuild : maxIndexSize cacheSize < 2 ^ 16)
  (hSize : nodes.length ≤ cacheSize) :
  encodeInto (maxIndexSize cacheSize) (serializeIndex nodes) = .ok (serializeIndex nodes).bytes :=
  encodeInto_of_fits (serializeIndex_legal nodes) (serializeIndex_length hSize)
    (hBuild.trans (by decide))

theorem getRecord_index (hSize : nodes.length ≤ cacheSize) :
  getRecord (maxIndexSize cacheSize) (some (serializeIndex nodes).bytes) =
    .ok (serializeIndex nodes).bytes :=
  if_pos (serializeIndex_length hSize)

theorem readRecord_index (hBuild : maxIndexSize cacheSize < 2 ^ 16)
  (hSize : nodes.length ≤ cacheSize) :
  readRecord (deserializeIndex cacheSize) (serializeIndex nodes).bytes = .ok nodes := by
  have hLength : (serializeIndex nodes).bytes.length < 2 ^ 32 :=
    ((serializeIndex_length hSize).trans_lt hBuild).trans (by decide)
  obtain ⟨r', hRead⟩ := deserializeIndex_before hSize (before_init (serializeIndex nodes) hLength)
  rw [readRecord, hRead]

theorem encodeInto_link (node : ScopedNodeId) :
  encodeInto maxScopedNodeIdSize (serializeLink node) = .ok (serializeLink node).bytes :=
  encodeInto_of_fits (serializeNode_legal .notSpecified (.inl rfl) node trivial) (serializeLink_length node)
    (by decide)

theorem getRecord_link (node : ScopedNodeId) :
  getRecord maxScopedNodeIdSize (some (serializeLink node).bytes) =
    .ok (serializeLink node).bytes :=
  if_pos (serializeLink_length node)

theorem readRecord_link (node : ScopedNodeId) :
  readRecord deserializeLink (serializeLink node).bytes = .ok node := by
  have hLength : (serializeLink node).bytes.length < 2 ^ 32 :=
    (serializeLink_length node).trans_lt (by decide)
  obtain ⟨r', hRead⟩ := deserializeLink_before (before_init (serializeLink node) hLength)
  rw [readRecord, hRead]

theorem encodeInto_state (hFits : state.Fits) :
  encodeInto maxStateSize (serializeState state) = .ok (serializeState state).bytes :=
  encodeInto_of_fits (serializeState_legal hFits) (serializeState_length hFits) (by decide)

theorem getRecord_state (hFits : state.Fits) :
  getRecord maxStateSize (some (serializeState state).bytes) =
    .ok (serializeState state).bytes :=
  if_pos (serializeState_length hFits)

theorem readRecord_state (hFits : state.Fits) :
  readRecord deserializeState (serializeState state).bytes = .ok state := by
  have hLength : (serializeState state).bytes.length < 2 ^ 32 :=
    (serializeState_length hFits).trans_lt (by decide)
  obtain ⟨r', hRead⟩ := deserializeState_before hFits (before_init (serializeState state) hLength)
  rw [readRecord, hRead]

end Records

end Chip.SecureChannel
