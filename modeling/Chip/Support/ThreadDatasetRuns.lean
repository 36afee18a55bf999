import Mathlib
import Chip.Support.ThreadDatasetElements

/-! The calls of a dataset's users: what they ask for, and what they get from every dataset that has
been accepted. -/
namespace Chip.Thread

open Checked OperationalDataset TypedRecord ThreadTLV

section Numbers

theorem shiftLeft_or {n low : Nat} (high : Nat) (hLow : low < 2 ^ n) : high <<< n ||| low = high * 2 ^ n + low := by
  rw [← Nat.shiftLeft_add_eq_or_of_lt hLow, Nat.shiftLeft_eq]

theorem ofNat_and (n : Nat) : UInt8.ofNat (n &&& 0xff) = UInt8.ofNat n := by
  rw [← UInt8.toNat_inj, UInt8.toNat_ofNat', UInt8.toNat_ofNat',
    show 0xff = 2 ^ 8 - 1 from rfl, Nat.and_two_pow_sub_one_eq_mod, Nat.mod_mod]

theorem bytes64_eq (v : UInt64) : bytes64 v = (LittleEndian.encode 8 v.toNat).reverse := by
  simp only [bytes64, List.map_cons, List.map_nil, ofNat_and]
  simp [LittleEndian.encode, Nat.shiftRight_eq_div_pow, Nat.div_div_eq_div_mul]

theorem bytes16_eq (v : UInt16) : bytes16 v = (LittleEndian.encode 2 v.toNat).reverse := by
  simp only [bytes16, ofNat_and]
  simp [LittleEndian.encode, Nat.shiftRight_eq_div_pow]

theorem bytes64_inj {v w : UInt64} (h : bytes64 v = bytes64 w) : v = w := by
  rw [bytes64_eq, bytes64_eq, List.reverse_inj] at h
  have hValue := congrArg LittleEndian.value h
  rwa [LittleEndian.value_encode_of_lt v.toNat_lt, LittleEndian.value_encode_of_lt w.toNat_lt,
    UInt64.toNat_inj] at hValue

theorem bytes16_inj {v w : UInt16} (h : bytes16 v = bytes16 w) : v = w := by
  rw [bytes16_eq, bytes16_eq, List.reverse_inj] at h
  have hValue := congrArg LittleEndian.value h
  rwa [LittleEndian.value_encode_of_lt v.toNat_lt, LittleEndian.value_encode_of_lt w.toNat_lt,
    UInt16.toNat_inj] at hValue

theorem bytes64_value {p : List UInt8} (hLength : p.length = 8) :
  bytes64 (UInt64.ofNat ((p.getD 0 0).toNat <<< 56 ||| (p.getD 1 0).toNat <<< 48 ||| (p.getD 2 0).toNat <<< 40 |||
    (p.getD 3 0).toNat <<< 32 ||| (p.getD 4 0).toNat <<< 24 ||| (p.getD 5 0).toNat <<< 16 |||
    (p.getD 6 0).toNat <<< 8 ||| (p.getD 7 0).toNat)) = p := by
  match p, hLength with
  | [a, b, c, d, e, f, g, h], _ =>
    have hA := a.toNat_lt
    have hB := b.toNat_lt
    have hC := c.toNat_lt
    have hD := d.toNat_lt
    have hE := e.toNat_lt
    have hF := f.toNat_lt
    have hG := g.toNat_lt
    have hH := h.toNat_lt
    have hNumber : a.toNat <<< 56 ||| b.toNat <<< 48 ||| c.toNat <<< 40 ||| d.toNat <<< 32 ||| e.toNat <<< 24 |||
        f.toNat <<< 16 ||| g.toNat <<< 8 ||| h.toNat = LittleEndian.value [h, g, f, e, d, c, b, a] := by
      simp only [Nat.or_assoc]
      rw [shiftLeft_or g.toNat (by omega), shiftLeft_or f.toNat (by omega), shiftLeft_or e.toNat (by omega),
        shiftLeft_or d.toNat (by omega), shiftLeft_or c.toNat (by omega), shiftLeft_or b.toNat (by omega),
        shiftLeft_or a.toNat (by omega)]
      simp only [LittleEndian.value]
      omega
    have hLt : LittleEndian.value [h, g, f, e, d, c, b, a] < 2 ^ 64 :=
      lt_of_lt_of_eq (LittleEndian.value_lt _) (by norm_num)
    show bytes64 (UInt64.ofNat (a.toNat <<< 56 ||| b.toNat <<< 48 ||| c.toNat <<< 40 ||| d.toNat <<< 32 |||
      e.toNat <<< 24 ||| f.toNat <<< 16 ||| g.toNat <<< 8 ||| h.toNat)) = _
    rw [hNumber, bytes64_eq, UInt64.toNat_ofNat', Nat.mod_eq_of_lt hLt]
    exact congrArg List.reverse (LittleEndian.encode_value [h, g, f, e, d, c, b, a])

theorem bytes16_value {p : List UInt8} (hLength : p.length = 2) :
  bytes16 (UInt16.ofNat ((p.getD 0 0).toNat <<< 8 ||| (p.getD 1 0).toNat)) = p := by
  match p, hLength with
  | [a, b], _ =>
    have hA := a.toNat_lt
    have hB := b.toNat_lt
    have hNumber : a.toNat <<< 8 ||| b.toNat = LittleEndian.value [b, a] := by
      rw [shiftLeft_or a.toNat (by omega)]
      simp only [LittleEndian.value]
      omega
    have hLt : LittleEndian.value [b, a] < 2 ^ 16 := lt_of_lt_of_eq (LittleEndian.value_lt _) (by norm_num)
    show bytes16 (UInt16.ofNat (a.toNat <<< 8 ||| b.toNat)) = _
    rw [hNumber, bytes16_eq, UInt16.toNat_ofNat', Nat.mod_eq_of_lt hLt]
    exact congrArg List.reverse (LittleEndian.encode_value [b, a])

end Numbers

inductive Field where
  | activeTimestamp
  | channel
  | extendedPanId
  | masterKey
  | meshLocalPrefix
  | networkName
  | panId
  | pSKc

inductive Setting where
  | activeTimestamp (value : UInt64)
  | channel (value : UInt16)
  | extendedPanId (value : Vector UInt8 kSizeExtendedPanId)
  | masterKey (value : Vector UInt8 kSizeMasterKey)
  | meshLocalPrefix (value : Vector UInt8 kSizeMeshLocalPrefix)
  | networkName (value : List UInt8)
  | panId (value : UInt16)
  | pSKc (value : Vector UInt8 kSizePSKc)

inductive Value where
  | timestamp (value : UInt64)
  | short (value : UInt16)
  | bytes (value : List UInt8)

inductive Call where
  | get (field : Field)
  | getExtendedPanIdAsByteSpan
  | set (setting : Setting)
  | unsetMasterKey
  | unsetPSKc

inductive Reply where
  | value (result : Except ChipError Value)
  | done (result : Except ChipError Unit)

def Field.type : Field → UInt8
  | activeTimestamp => kActiveTimestamp
  | channel => kChannel
  | extendedPanId => kExtendedPanId
  | masterKey => kMasterKey
  | meshLocalPrefix => kMeshLocalPrefix
  | networkName => kNetworkName
  | panId => kPanId
  | pSKc => kPSKc

namespace Setting

def field : Setting → Field
  | activeTimestamp _ => .activeTimestamp
  | channel _ => .channel
  | extendedPanId _ => .extendedPanId
  | masterKey _ => .masterKey
  | meshLocalPrefix _ => .meshLocalPrefix
  | networkName _ => .networkName
  | panId _ => .panId
  | pSKc _ => .pSKc

def value : Setting → Value
  | activeTimestamp value => .timestamp value
  | channel value => .short value
  | extendedPanId value => .bytes value.toList
  | masterKey value => .bytes value.toList
  | meshLocalPrefix value => .bytes value.toList
  | networkName value => .bytes value
  | panId value => .short value
  | pSKc value => .bytes value.toList

def record (setting : Setting) : TypedRecord where
  type := setting.field.type
  value := match setting with
    | activeTimestamp value => bytes64 value
    | channel value => 0 :: bytes16 value
    | extendedPanId value => value.toList
    | masterKey value => value.toList
    | meshLocalPrefix value => value.toList
    | networkName value => value
    | panId value => bytes16 value
    | pSKc value => value.toList

/-- A network name has at least one character, and not too many. -/
def Named : Setting → Prop
  | networkName value => value ≠ [] ∧ value.length ≤ kSizeNetworkName
  | _ => True

end Setting

namespace OperationalDataset

def get (s : OperationalDataset) : Field → Checked (Except ChipError Value)
  | .activeTimestamp => (·.map Value.timestamp) <$> s.getActiveTimestamp
  | .channel => (·.map Value.short) <$> s.getChannel
  | .extendedPanId => (·.map Value.bytes) <$> s.getExtendedPanId
  | .masterKey => (·.map Value.bytes) <$> s.getMasterKey
  | .meshLocalPrefix => (·.map Value.bytes) <$> s.getMeshLocalPrefix
  | .networkName => (·.map Value.bytes) <$> s.getNetworkName
  | .panId => (·.map Value.short) <$> s.getPanId
  | .pSKc => (·.map Value.bytes) <$> s.getPSKc

def set (s : OperationalDataset) : Setting → Checked (Except ChipError Unit × OperationalDataset)
  | .activeTimestamp value => s.setActiveTimestamp value
  | .channel value => s.setChannel value
  | .extendedPanId value => s.setExtendedPanId value
  | .masterKey value => s.setMasterKey value
  | .meshLocalPrefix value => s.setMeshLocalPrefix value
  | .networkName value => s.setNetworkName value
  | .panId value => s.setPanId value
  | .pSKc value => s.setPSKc value

def perform (s : OperationalDataset) : Call → Checked (Reply × OperationalDataset)
  | .get field => do
      let result ← s.get field
      pure (.value result, s)
  | .getExtendedPanIdAsByteSpan => do
      let result ← s.getExtendedPanIdAsByteSpan
      pure (.value (result.map Value.bytes), s)
  | .set setting => do
      let (result, s) ← s.set setting
      pure (.done result, s)
  | .unsetMasterKey => do
      let s ← s.unsetMasterKey
      pure (.done (.ok ()), s)
  | .unsetPSKc => do
      let s ← s.unsetPSKc
      pure (.done (.ok ()), s)

end OperationalDataset

inductive Kind where
  | timestamp
  | short
  | bytes

def Field.kind : Field → Kind
  | activeTimestamp => .timestamp
  | channel => .short
  | panId => .short
  | _ => .bytes

/-- The part of an element that is its value. The first byte of a channel is its page. -/
def Field.part (field : Field) (element : List UInt8) : List UInt8 :=
  match field with
  | channel => element.tail
  | _ => element

def Field.Sized : Field → Nat → Prop
  | activeTimestamp, length => length = 8
  | channel, length => length = 3
  | extendedPanId, length => length = kSizeExtendedPanId
  | masterKey, length => length = kSizeMasterKey
  | meshLocalPrefix, length => length = kSizeMeshLocalPrefix
  | networkName, length => length ≤ kSizeNetworkName
  | panId, length => length = 2
  | pSKc, length => length = kSizePSKc

namespace Value

def kind : Value → Kind
  | timestamp _ => .timestamp
  | short _ => .short
  | bytes _ => .bytes

def encoding : Value → List UInt8
  | timestamp value => bytes64 value
  | short value => bytes16 value
  | bytes value => value

structure Of (field : Field) (element : List UInt8) (value : Value) : Prop where
  kind : value.kind = field.kind
  encoding : field.part element = value.encoding
  sized : field.Sized element.length

theorem eq_of_encoding {v w : Value} (hKind : v.kind = w.kind) (hEncoding : v.encoding = w.encoding) : v = w := by
  cases v with
  | timestamp v =>
    cases w with
    | timestamp w => exact congrArg timestamp (bytes64_inj hEncoding)
    | short w => cases hKind
    | bytes w => cases hKind
  | short v =>
    cases w with
    | timestamp w => cases hKind
    | short w => exact congrArg short (bytes16_inj hEncoding)
    | bytes w => cases hKind
  | bytes v =>
    cases w with
    | timestamp w => cases hKind
    | short w => cases hKind
    | bytes w => exact congrArg bytes hEncoding

theorem Of.unique {field : Field} {element : List UInt8} {v w : Value} (hv : Of field element v)
  (hw : Of field element w) : v = w :=
  eq_of_encoding (hv.kind.trans hw.kind.symm) (hv.encoding.symm.trans hw.encoding)

end Value

theorem Setting.of_record {setting : Setting} (hNamed : setting.Named) :
  setting.value.Of setting.field setting.record.value := by
  cases setting with
  | activeTimestamp value => exact ⟨rfl, rfl, rfl⟩
  | channel value => exact ⟨rfl, rfl, rfl⟩
  | extendedPanId value => exact ⟨rfl, rfl, value.length_toList⟩
  | masterKey value => exact ⟨rfl, rfl, value.length_toList⟩
  | meshLocalPrefix value => exact ⟨rfl, rfl, value.length_toList⟩
  | networkName value => exact ⟨rfl, rfl, hNamed.2⟩
  | panId value => exact ⟨rfl, rfl, rfl⟩
  | pSKc value => exact ⟨rfl, rfl, value.length_toList⟩

/-- What a getter may answer: that there is no element of the field, that the first one has not
the size of the field, or its value. -/
def Answers (records : List TypedRecord) (field : Field) : Except ChipError Value → Prop
  | .error .tlvTagNotFound => records.find? (·.type = field.type) = none
  | .error .invalidTLVElement => ∃ r, records.find? (·.type = field.type) = some r ∧ ¬field.Sized r.value.length
  | .error _ => False
  | .ok value => ∃ r, records.find? (·.type = field.type) = some r ∧ value.Of field r.value

namespace OperationalDataset

section Getting

variable {s : OperationalDataset} {records : List TypedRecord} {field : Field} {r : TypedRecord}

theorem readValue_all {data : List UInt8} {tlv size : Nat} (h : Stands data tlv r) (hLength : r.value.length = size) :
  readValue data tlv 0 size = .ok r.value := by
  rw [h.readValue_eq (by omega), List.drop_zero, ← hLength, List.take_length]

section

variable (h : s.Holds records) (hFind : records.find? (·.type = kExtendedPanId) = some r)
include h hFind

theorem getExtendedPanIdAsByteSpan_found (hLength : r.value.length = kSizeExtendedPanId) :
  s.getExtendedPanIdAsByteSpan = .ok (.ok r.value) := by
  obtain ⟨tlv, hStands, hGet⟩ := getElement_found h hFind
  rw [getExtendedPanIdAsByteSpan, hGet, hStands.getLength_eq, ok_bind, if_neg (fun hNot => hNot hLength),
    readValue_all hStands rfl, map_ok]

theorem getExtendedPanIdAsByteSpan_malformed (hLength : r.value.length ≠ kSizeExtendedPanId) :
  s.getExtendedPanIdAsByteSpan = .ok (.error .invalidTLVElement) := by
  obtain ⟨tlv, hStands, hGet⟩ := getElement_found h hFind
  rw [getExtendedPanIdAsByteSpan, hGet, hStands.getLength_eq, ok_bind, if_pos hLength, pure_eq]

end

theorem get_found (h : s.Holds records) (hFind : records.find? (·.type = field.type) = some r)
  (hSized : field.Sized r.value.length) : ∃ value, s.get field = .ok (.ok value) ∧ value.Of field r.value := by
  cases field with
  | activeTimestamp =>
    have hFind : records.find? (·.type = kActiveTimestamp) = some r := hFind
    obtain ⟨tlv, hStands, hGet⟩ := getElement_found h hFind
    have hSized : r.value.length = 8 := hSized
    refine ⟨.timestamp _, ?_, rfl, (bytes64_value hSized).symm, hSized⟩
    rw [get, getActiveTimestamp, hGet, get64, hStands.getLength_eq, ok_bind, asserts_of (Nat.le_of_eq hSized.symm), ok_bind,
      readValue_all hStands hSized]
    rfl
  | channel =>
    have hFind : records.find? (·.type = kChannel) = some r := hFind
    obtain ⟨tlv, hStands, hGet⟩ := getElement_found h hFind
    have hSized : r.value.length = 3 := hSized
    have hTail : (r.value.drop 1).take 2 = r.value.tail := by
      rw [List.drop_one, List.take_of_length_le (by rw [List.length_tail]; omega)]
    have hLength : r.value.tail.length = 2 := by
      rw [List.length_tail]
      omega
    refine ⟨.short _, ?_, rfl, (bytes16_value hLength).symm, hSized⟩
    rw [get, getChannel, hGet, hStands.readValue_eq (by omega), ok_bind, hTail]
    rfl
  | extendedPanId =>
    refine ⟨.bytes r.value, ?_, rfl, rfl, hSized⟩
    have hIn : r.value.length ≤ kSizeExtendedPanId := Nat.le_of_eq hSized
    rw [get, getExtendedPanId, getExtendedPanIdAsByteSpan_found h hFind hSized, ok_bind]
    dsimp only
    rw [within_of hIn]
    rfl
  | masterKey =>
    have hFind : records.find? (·.type = kMasterKey) = some r := hFind
    obtain ⟨tlv, hStands, hGet⟩ := getElement_found h hFind
    refine ⟨.bytes r.value, ?_, rfl, rfl, hSized⟩
    rw [get, getMasterKey, hGet, readValue_all hStands hSized]
    rfl
  | meshLocalPrefix =>
    have hFind : records.find? (·.type = kMeshLocalPrefix) = some r := hFind
    obtain ⟨tlv, hStands, hGet⟩ := getElement_found h hFind
    refine ⟨.bytes r.value, ?_, rfl, rfl, hSized⟩
    rw [get, getMeshLocalPrefix, hGet, readValue_all hStands hSized]
    rfl
  | networkName =>
    have hFind : records.find? (·.type = kNetworkName) = some r := hFind
    obtain ⟨tlv, hStands, hGet⟩ := getElement_found h hFind
    refine ⟨.bytes r.value, ?_, rfl, rfl, hSized⟩
    rw [get, getNetworkName, hGet, hStands.getLength_eq, ok_bind, readValue_all hStands rfl, ok_bind,
      within_of (Nat.succ_le_succ hSized)]
    rfl
  | panId =>
    have hFind : records.find? (·.type = kPanId) = some r := hFind
    obtain ⟨tlv, hStands, hGet⟩ := getElement_found h hFind
    have hSized : r.value.length = 2 := hSized
    refine ⟨.short _, ?_, rfl, (bytes16_value hSized).symm, hSized⟩
    rw [get, getPanId, hGet, get16, hStands.getLength_eq, ok_bind, asserts_of (Nat.le_of_eq hSized.symm), ok_bind,
      readValue_all hStands hSized]
    rfl
  | pSKc =>
    have hFind : records.find? (·.type = kPSKc) = some r := hFind
    obtain ⟨tlv, hStands, hGet⟩ := getElement_found h hFind
    refine ⟨.bytes r.value, ?_, rfl, rfl, hSized⟩
    rw [get, getPSKc, hGet, readValue_all hStands hSized]
    rfl

theorem get_missing (h : s.Holds records) (hLocatable : s.Locatable records field.type)
  (hFind : records.find? (·.type = field.type) = none) : s.get field = .ok (.error .tlvTagNotFound) := by
  cases field with
  | activeTimestamp => exact congrArg ((·.map Value.timestamp) <$> ·) (getElement_missing h hLocatable hFind)
  | channel => exact congrArg ((·.map Value.short) <$> ·) (getElement_missing h hLocatable hFind)
  | extendedPanId =>
    have hSpan : s.getExtendedPanIdAsByteSpan = .ok (.error .tlvTagNotFound) :=
      getElement_missing h hLocatable hFind
    rw [get, getExtendedPanId, hSpan]
    rfl
  | masterKey => exact congrArg ((·.map Value.bytes) <$> ·) (getElement_missing h hLocatable hFind)
  | meshLocalPrefix => exact congrArg ((·.map Value.bytes) <$> ·) (getElement_missing h hLocatable hFind)
  | networkName => exact congrArg ((·.map Value.bytes) <$> ·) (getElement_missing h hLocatable hFind)
  | panId => exact congrArg ((·.map Value.short) <$> ·) (getElement_missing h hLocatable hFind)
  | pSKc => exact congrArg ((·.map Value.bytes) <$> ·) (getElement_missing h hLocatable hFind)

end Getting

section Setting

variable {s : OperationalDataset} {records : List TypedRecord} {setting : Setting}

def Storable (records : List TypedRecord) (setting : Setting) : Prop :=
  setting.Named ∧ HasRoom records setting.field.type (2 + setting.record.value.length)

theorem set_eq_setElement (hNamed : setting.Named) : ∃ write asserted, Writes write setting.record.value ∧
  s.set setting = s.setElement setting.field.type (2 + setting.record.value.length) write asserted := by
  cases setting with
  | activeTimestamp value => exact ⟨_, _, setNumber_writes _, rfl⟩
  | channel value => exact ⟨_, _, setValue_writes _, rfl⟩
  | extendedPanId value =>
    refine ⟨_, true, setValue_writes value.toList, ?_⟩
    show _ = s.setElement kExtendedPanId (2 + value.toList.length) _ _
    rw [value.length_toList]
    rfl
  | masterKey value =>
    refine ⟨_, true, setValue_writes value.toList, ?_⟩
    show _ = s.setElement kMasterKey (2 + value.toList.length) _ _
    rw [value.length_toList]
    rfl
  | meshLocalPrefix value =>
    refine ⟨_, false, setValue_writes value.toList, ?_⟩
    show _ = s.setElement kMeshLocalPrefix (2 + value.toList.length) _ _
    rw [value.length_toList]
    rfl
  | networkName value =>
    refine ⟨_, false, setValue_writes value, ?_⟩
    have hLength : ¬(value.length > kSizeNetworkName ∨ value.length = 0) := by
      rw [List.length_eq_zero_iff, not_or]
      exact ⟨Nat.not_lt.2 hNamed.2, hNamed.1⟩
    rw [set, setNetworkName]
    exact if_neg hLength
  | panId value => exact ⟨_, _, setNumber_writes _, rfl⟩
  | pSKc value =>
    refine ⟨_, false, setValue_writes value.toList, ?_⟩
    show _ = s.setElement kPSKc (2 + value.toList.length) _ _
    rw [value.length_toList]
    rfl

theorem set_unnamed (hNamed : ¬setting.Named) : s.set setting = .ok (.error .invalidStringLength, s) := by
  cases setting with
  | networkName value =>
    have hLength : value.length > kSizeNetworkName ∨ value.length = 0 := by
      rw [List.length_eq_zero_iff]
      by_contra hNot
      rw [not_or, Nat.not_lt] at hNot
      exact hNamed ⟨hNot.2, hNot.1⟩
    rw [set, setNetworkName]
    exact if_pos hLength
  | activeTimestamp value => exact (hNamed trivial).elim
  | channel value => exact (hNamed trivial).elim
  | extendedPanId value => exact (hNamed trivial).elim
  | masterKey value => exact (hNamed trivial).elim
  | meshLocalPrefix value => exact (hNamed trivial).elim
  | panId value => exact (hNamed trivial).elim
  | pSKc value => exact (hNamed trivial).elim

/-- The outcome of a setter: nothing changes where the setting cannot be stored. Else its element
takes the place of the first one of its type, and the getter gives its value. -/
structure Stored (s : OperationalDataset) (records : List TypedRecord) (setting : Setting)
    (s' : OperationalDataset) : Prop where
  holds : s'.Holds (replace records setting.record)
  others : (replace records setting.record).filter (·.type ≠ setting.field.type) =
    records.filter (·.type ≠ setting.field.type)
  gets : s'.get setting.field = .ok (.ok setting.value)

theorem set_full (h : s.Holds records) (hLocatable : setting.Named → s.Locatable records setting.field.type)
  (hNot : ¬Storable records setting) : ∃ error, s.set setting = .ok (.error error, s) := by
  by_cases hNamed : setting.Named
  · obtain ⟨write, asserted, _, hSet⟩ := set_eq_setElement (s := s) hNamed
    exact ⟨.noMemory, hSet.trans (setElement_full h (hLocatable hNamed) (fun hRoom => hNot ⟨hNamed, hRoom⟩) asserted)⟩
  · exact ⟨.invalidStringLength, set_unnamed hNamed⟩

theorem set_stored (h : s.Holds records) (hLocatable : s.Locatable records setting.field.type)
  (hStorable : Storable records setting)
  (hWritable : s.Writable (encode (records.eraseP (·.type = setting.field.type))).length)
  (hOnly : records.countP (·.type = setting.field.type) ≤ 1) :
  ∃ s', s.set setting = .ok (.ok (), s') ∧ Stored s records setting s' := by
  obtain ⟨write, asserted, hWrites, hSet⟩ := set_eq_setElement (s := s) hStorable.1
  obtain ⟨s', hStored, hHolds⟩ := setElement_eq h hLocatable hStorable.2 hWrites hWritable asserted
  have hFind : (replace records setting.record).find? (·.type = setting.record.type) = some setting.record :=
    find?_replace hOnly
  have hOf := Setting.of_record hStorable.1
  obtain ⟨value, hGet, hValue⟩ := get_found hHolds hFind hOf.sized
  have hOthers : (replace records setting.record).filter (·.type ≠ setting.record.type) =
      records.filter (·.type ≠ setting.record.type) := filter_replace
  refine ⟨s', hSet.trans hStored, hHolds, hOthers, ?_⟩
  rw [hGet, hValue.unique hOf]

end Setting

def Serves (s : OperationalDataset) (records : List TypedRecord) (s' : OperationalDataset) : Call → Reply → Prop
  | .get field, .value result => s' = s ∧ Answers records field result
  | .getExtendedPanIdAsByteSpan, .value result => s' = s ∧ Answers records .extendedPanId result
  | .set setting, .done (.ok ()) => Stored s records setting s'
  | .set setting, .done (.error _) => s' = s ∧ ¬Storable records setting
  | .unsetMasterKey, .done (.ok ()) => s'.Holds (records.eraseP (·.type = kMasterKey))
  | .unsetPSKc, .done (.ok ()) => s'.Holds (records.eraseP (·.type = kPSKc))
  | _, _ => False

def Fits (s : OperationalDataset) (records : List TypedRecord) : Call → Prop
  | .get field => s.Locatable records field.type ∧ ∀ r, records.find? (·.type = field.type) = some r →
      field = .extendedPanId ∨ field.Sized r.value.length
  | .getExtendedPanIdAsByteSpan => s.Locatable records kExtendedPanId
  | .set setting => setting.Named → s.Locatable records setting.field.type ∧ (Storable records setting →
      s.Writable (encode (records.eraseP (·.type = setting.field.type))).length ∧
        records.countP (·.type = setting.field.type) ≤ 1)
  | .unsetMasterKey => s.Locatable records kMasterKey
  | .unsetPSKc => s.Locatable records kPSKc

section Calls

variable {s : OperationalDataset} {records : List TypedRecord}

theorem get_answers (h : s.Holds records) {field : Field} (hFits : s.Fits records (.get field)) :
  ∃ result, s.get field = .ok result ∧ Answers records field result := by
  obtain ⟨hLocatable, hSized⟩ := hFits
  cases hFind : records.find? (·.type = field.type) with
  | none => exact ⟨_, get_missing h hLocatable hFind, hFind⟩
  | some r =>
    by_cases hSize : field.Sized r.value.length
    · obtain ⟨value, hGet, hValue⟩ := get_found h hFind hSize
      exact ⟨_, hGet, r, hFind, hValue⟩
    · have hField := (hSized r hFind).resolve_right hSize
      subst hField
      refine ⟨.error .invalidTLVElement, ?_, r, hFind, hSize⟩
      rw [get, getExtendedPanId, getExtendedPanIdAsByteSpan_malformed h hFind hSize]
      rfl

theorem getExtendedPanIdAsByteSpan_answers (h : s.Holds records) (hLocatable : s.Locatable records kExtendedPanId) :
  ∃ result, s.getExtendedPanIdAsByteSpan = .ok result ∧
    Answers records .extendedPanId (result.map Value.bytes) := by
  cases hFind : records.find? (·.type = kExtendedPanId) with
  | none => exact ⟨_, getElement_missing h hLocatable hFind, hFind⟩
  | some r =>
    by_cases hSize : r.value.length = kSizeExtendedPanId
    · exact ⟨_, getExtendedPanIdAsByteSpan_found h hFind hSize, r, hFind, rfl, rfl, hSize⟩
    · exact ⟨_, getExtendedPanIdAsByteSpan_malformed h hFind hSize, r, hFind, hSize⟩

theorem perform_serves (h : s.Holds records) {call : Call} (hFits : s.Fits records call) :
  ∃ reply s', s.perform call = .ok (reply, s') ∧ s.Serves records s' call reply ∧
    ∃ records', s'.Holds records' := by
  cases call with
  | get field =>
    obtain ⟨result, hGet, hAnswers⟩ := get_answers h hFits
    refine ⟨.value result, s, ?_, ⟨rfl, hAnswers⟩, records, h⟩
    rw [perform, hGet, ok_bind, pure_eq]
  | getExtendedPanIdAsByteSpan =>
    obtain ⟨result, hGet, hAnswers⟩ := getExtendedPanIdAsByteSpan_answers h hFits
    refine ⟨.value (result.map Value.bytes), s, ?_, ⟨rfl, hAnswers⟩, records, h⟩
    rw [perform, hGet, ok_bind, pure_eq]
  | set setting =>
    by_cases hStorable : Storable records setting
    · obtain ⟨hLocatable, hStored⟩ := hFits hStorable.1
      obtain ⟨hWritable, hOnly⟩ := hStored hStorable
      obtain ⟨s', hSet, hStored⟩ := set_stored h hLocatable hStorable hWritable hOnly
      refine ⟨.done (.ok ()), s', ?_, hStored, _, hStored.holds⟩
      rw [perform, hSet, ok_bind]
      rfl
    · obtain ⟨error, hSet⟩ := set_full h (fun hNamed => (hFits hNamed).1) hStorable
      refine ⟨.done (.error error), s, ?_, ⟨rfl, hStorable⟩, records, h⟩
      rw [perform, hSet, ok_bind]
      rfl
  | unsetMasterKey =>
    obtain ⟨s', hRemove, hHolds⟩ := remove_eq h hFits
    refine ⟨.done (.ok ()), s', ?_, hHolds, _, hHolds⟩
    rw [perform, unsetMasterKey, hRemove, ok_bind, pure_eq]
  | unsetPSKc =>
    obtain ⟨s', hRemove, hHolds⟩ := remove_eq h hFits
    refine ⟨.done (.ok ()), s', ?_, hHolds, _, hHolds⟩
    rw [perform, unsetPSKc, hRemove, ok_bind, pure_eq]

end Calls

end OperationalDataset

end Chip.Thread
