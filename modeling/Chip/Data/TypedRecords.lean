import Mathlib.Data.List.Basic

/-! Records of a type byte, a length byte and a value, one after the other. The largest length is
an escape, which no record has. -/
namespace Chip

open List

structure TypedRecord where
  type : UInt8
  value : List UInt8

namespace TypedRecord

def bytes (r : TypedRecord) : List UInt8 := r.type :: UInt8.ofNat r.value.length :: r.value

def encode (records : List TypedRecord) : List UInt8 := records.flatMap bytes

def Short (records : List TypedRecord) : Prop := ∀ r ∈ records, r.value.length < 255

/-- Bytes that begin with records, up to a rest of this kind. -/
def Leads (Rest : List UInt8 → Prop) (data : List UInt8) : Prop :=
  ∃ records rest, Short records ∧ data = encode records ++ rest ∧ Rest rest

def Framed (data : List UInt8) : Prop := ∃ records, Short records ∧ data = encode records

/-- The records with the first one of a type removed, and a new one of this type at the end. -/
def replace (records : List TypedRecord) (new : TypedRecord) : List TypedRecord :=
  records.eraseP (·.type = new.type) ++ [new]

variable {records earlier later : List TypedRecord} {r : TypedRecord} {type : UInt8}

@[simp] theorem length_bytes (r : TypedRecord) : r.bytes.length = 2 + r.value.length := by
  simp only [bytes, length_cons]
  omega

@[simp] theorem encode_nil : encode [] = [] := rfl

@[simp] theorem encode_cons : encode (r :: records) = r.bytes ++ encode records := flatMap_cons

@[simp] theorem encode_append : encode (earlier ++ later) = encode earlier ++ encode later :=
  flatMap_append

theorem short_cons : Short (r :: records) ↔ r.value.length < 255 ∧ Short records := forall_mem_cons

theorem short_append : Short (earlier ++ later) ↔ Short earlier ∧ Short later := forall_mem_append

theorem toNat_length (h : r.value.length < 255) : (UInt8.ofNat r.value.length).toNat = r.value.length := by
  rw [UInt8.toNat_ofNat']
  omega

theorem framed_iff {data : List UInt8} : Framed data ↔ Leads (· = []) data := by
  constructor
  · rintro ⟨records, hShort, rfl⟩
    exact ⟨records, [], hShort, (append_nil _).symm, rfl⟩
  · rintro ⟨records, _, hShort, rfl, rfl⟩
    exact ⟨records, hShort, append_nil _⟩

theorem leads_short {Rest : List UInt8 → Prop} {data : List UInt8} (hData : data.length < 2) :
  Leads Rest data ↔ Rest data := by
  constructor
  · rintro ⟨records, rest, _, rfl, hRest⟩
    cases records with
    | nil => exact hRest
    | cons r records =>
      rw [encode_cons, length_append, length_append, length_bytes] at hData
      omega
  · exact fun hRest => ⟨[], data, forall_mem_nil _, rfl, hRest⟩

theorem leads_cons {Rest : List UInt8 → Prop} {length : UInt8} {more : List UInt8} :
  Leads Rest (type :: length :: more) ↔ Rest (type :: length :: more) ∨
    length.toNat ≠ 255 ∧ length.toNat ≤ more.length ∧ Leads Rest (more.drop length.toNat) := by
  constructor
  · rintro ⟨records, rest, hShort, hData, hRest⟩
    cases records with
    | nil =>
      rw [encode_nil, nil_append] at hData
      exact Or.inl (hData ▸ hRest)
    | cons r records =>
      obtain ⟨hValue, hShort⟩ := short_cons.1 hShort
      simp only [encode_cons, bytes, cons_append, cons.injEq, append_assoc] at hData
      obtain ⟨-, rfl, rfl⟩ := hData
      rw [toNat_length hValue]
      refine Or.inr ⟨Nat.ne_of_lt hValue, ?_, records, rest, hShort, ?_, hRest⟩
      · rw [length_append]
        omega
      · rw [drop_left]
  · rintro (hRest | ⟨hEscape, hLength, records, rest, hShort, hMore, hRest⟩)
    · exact ⟨[], _, forall_mem_nil _, rfl, hRest⟩
    · have hValue : (more.take length.toNat).length = length.toNat := length_take_of_le hLength
      have hByte := length.toNat_lt
      refine ⟨⟨type, more.take length.toNat⟩ :: records, rest, short_cons.2 ⟨?_, hShort⟩, ?_, hRest⟩
      · dsimp only
        omega
      · rw [encode_cons, bytes, hValue, UInt8.ofNat_toNat, append_assoc, ← hMore, cons_append,
          cons_append, take_append_drop]

variable {new : TypedRecord}

theorem short_replace (hShort : Short records) (hNew : new.value.length < 255) :
  Short (replace records new) :=
  short_append.2 ⟨fun r hMem => hShort r (mem_of_mem_eraseP hMem), short_cons.2 ⟨hNew, forall_mem_nil _⟩⟩

theorem filter_replace :
  (replace records new).filter (·.type ≠ new.type) = records.filter (·.type ≠ new.type) := by
  have hErase : (records.eraseP (·.type = new.type)).filter (·.type ≠ new.type) =
      records.filter (·.type ≠ new.type) := by
    induction records with
    | nil => rfl
    | cons r records ih =>
      by_cases hType : r.type = new.type
      · rw [eraseP_cons_of_pos (by simpa using hType), filter_cons_of_neg (by simpa using hType)]
      · rw [eraseP_cons_of_neg (by simpa using hType), filter_cons_of_pos (by simpa using hType),
          filter_cons_of_pos (by simpa using hType), ih]
  rw [replace, filter_append, hErase, filter_cons_of_neg (by simp), filter_nil, append_nil]

theorem find?_erased {records : List TypedRecord} (hOnly : records.countP (·.type = type) ≤ 1) :
  (records.eraseP (·.type = type)).find? (·.type = type) = none := by
  induction records with
  | nil => rfl
  | cons r records ih =>
    by_cases hType : r.type = type
    · rw [countP_cons_of_pos (by simpa using hType)] at hOnly
      have hNone : records.countP (·.type = type) = 0 := by omega
      rw [eraseP_cons_of_pos (by simpa using hType), find?_eq_none]
      exact fun other hMem => countP_eq_zero.1 hNone other hMem
    · rw [countP_cons_of_neg (by simpa using hType)] at hOnly
      rw [eraseP_cons_of_neg (by simpa using hType), find?_cons_of_neg (by simpa using hType),
        ih hOnly]

theorem find?_replace (hOnly : records.countP (·.type = new.type) ≤ 1) :
  (replace records new).find? (·.type = new.type) = some new := by
  rw [replace, find?_append, find?_erased hOnly, Option.none_or, find?_cons_of_pos (by simp)]

end TypedRecord

end Chip
