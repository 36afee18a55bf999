import Chip.Core.OTAImageHeader

/-! Parsing the header of a software image does not depend on the chunks it comes in. -/
namespace Chip.OTAImageHeaderParser

open Proc List TLV

section Errors

variable {α : Type}

theorem onReader_avoids {m : ReaderM α} (h : Proc.Avoids .bufferTooSmall m) :
  Proc.Avoids .bufferTooSmall (onReader m) := fun s => h s.1

theorem onField_avoids {field : OTAImageHeader → α} {store : α → OTAImageHeader → OTAImageHeader}
  {get : TLVReader → Proc ChipError α Unit} (h : ∀ r, Proc.Avoids .bufferTooSmall (get r)) :
  Proc.Avoids .bufferTooSmall (onField field store get) := fun s => h s.1 (field s.2)

theorem getUInt64_ne (r : TLVReader) : r.getUInt64 ≠ .error .bufferTooSmall := by
  unfold TLVReader.getUInt64
  split <;> simp

theorem getNarrow_avoids (bits : Nat) (r : TLVReader) : Proc.Avoids .bufferTooSmall (getNarrow bits r) := by
  intro v
  unfold getNarrow
  cases h : r.getUInt64 with
  | error e =>
    rintro ⟨⟩
    exact getUInt64_ne r h
  | ok v64 =>
    dsimp only
    split <;> simp

theorem getWide_avoids (r : TLVReader) : Proc.Avoids .bufferTooSmall (getWide r) := by
  intro v
  unfold getWide
  cases h : r.getUInt64 with
  | error e =>
    rintro ⟨⟩
    exact getUInt64_ne r h
  | ok v64 => simp

theorem getEnum_avoids (bits : Nat) (r : TLVReader) : Proc.Avoids .bufferTooSmall (getEnum bits r) := by
  intro v
  have hNarrow := getNarrow_avoids bits r 0
  unfold getEnum
  split
  · simp
  · next h =>
      rw [h] at hNarrow
      exact hNarrow

theorem getOptional_avoids (bits : Nat) (r : TLVReader) :
  Proc.Avoids .bufferTooSmall (getOptional bits r) := fun _ => getNarrow_avoids bits r 0

theorem getDataPtr_ne (r : TLVReader) : getDataPtr r ≠ .error .bufferTooSmall := by
  unfold getDataPtr
  split_ifs <;> simp

theorem lift_getDataPtr_avoids (r : TLVReader) :
  Proc.Avoids .bufferTooSmall (lift (getDataPtr r) : Proc ChipError Bytes (Option Bytes)) :=
  fun _ => getDataPtr_ne r

theorem getBytes_avoids (r : TLVReader) : Proc.Avoids .bufferTooSmall (getBytes r) := by
  refine (lift_getDataPtr_avoids r).bind fun data => ?_
  cases data <;> exact .modify _

theorem getText_avoids (r : TLVReader) : Proc.Avoids .bufferTooSmall (getText r) := by
  refine (Proc.Avoids.verify (by decide)).bind fun _ => (lift_getDataPtr_avoids r).bind fun data => ?_
  cases data with
  | none => exact .pure _
  | some bytes => exact .modify _

theorem nextField_avoids (tag : HeaderTag) : Proc.Avoids .bufferTooSmall (nextField tag) :=
  onReader_avoids (nextTag_avoids _)

theorem optionalField_avoids (tag : HeaderTag) {get : DecodeM Unit}
  (h : Proc.Avoids .bufferTooSmall get) : Proc.Avoids .bufferTooSmall (optionalField tag get) := by
  refine .read_bind fun s => ?_
  split
  · exact h.bind fun _ => onReader_avoids next_avoids
  · exact .pure _

theorem getReleaseNotesURL_avoids : Proc.Avoids .bufferTooSmall getReleaseNotesURL :=
  (onField_avoids getText_avoids).bind fun _ => .read_bind fun _ => .verify (by decide)

theorem decodeFields_avoids : Proc.Avoids .bufferTooSmall decodeFields := by
  refine (nextField_avoids _).bind fun _ => (onField_avoids (getNarrow_avoids _)).bind fun _ => ?_
  refine (nextField_avoids _).bind fun _ => (onField_avoids (getNarrow_avoids _)).bind fun _ => ?_
  refine (nextField_avoids _).bind fun _ => (onField_avoids (getNarrow_avoids _)).bind fun _ => ?_
  refine (nextField_avoids _).bind fun _ => (onField_avoids getText_avoids).bind fun _ => ?_
  refine .read_bind fun s => (Proc.Avoids.verify (by decide)).bind fun _ => ?_
  refine (nextField_avoids _).bind fun _ => (onField_avoids getWide_avoids).bind fun _ => ?_
  refine (onReader_avoids next_avoids).bind fun _ => ?_
  refine (optionalField_avoids _ (onField_avoids (getOptional_avoids _))).bind fun _ => ?_
  refine (optionalField_avoids _ (onField_avoids (getOptional_avoids _))).bind fun _ => ?_
  refine (optionalField_avoids _ getReleaseNotesURL_avoids).bind fun _ => .read_bind fun s => ?_
  refine (Proc.Avoids.verify (by decide)).bind fun _ => (onField_avoids (getEnum_avoids _)).bind fun _ => ?_
  exact (nextField_avoids _).bind fun _ => onField_avoids getBytes_avoids

theorem headerOf_ne (tlv : Bytes) (header : OTAImageHeader) :
  (headerOf tlv header).1 ≠ .error .bufferTooSmall := by
  have hDecode : Proc.Avoids .bufferTooSmall decodeHeader :=
    (onReader_avoids (nextTypeTag_avoids _ _)).bind fun _ =>
      (onReader_avoids enterContainer_avoids).bind fun outer =>
        decodeFields_avoids.bind fun _ => onReader_avoids (exitContainer_avoids outer)
  exact hDecode (TLVReader.init tlv tlv.length, header)

end Errors

/-- The size of the TLV that the fixed part of a header announces. -/
def announced (s : Bytes) : Nat := readField s 12 4

variable (alloc : Nat → Bool)

def Accepted (s : Bytes) : Prop :=
  kFixedHeaderSize ≤ s.length ∧ readField s 0 4 = kOTAImageFileIdentifier ∧
    announced s ≤ kMaxHeaderSize ∧ alloc (announced s) = true

instance (s : Bytes) : Decidable (Accepted alloc s) := inferInstanceAs (Decidable (_ ∧ _ ∧ _ ∧ _))

/-- The error for a complete fixed part that is not accepted. -/
def refusal (s : Bytes) : ChipError :=
  if readField s 0 4 = kOTAImageFileIdentifier then .noMemory else .invalidFileIdentifier

/-- What a string of bytes parses to, the bytes that takes and the header after it. -/
def parse (s : Bytes) (header : OTAImageHeader) : Except ChipError Unit × Nat × OTAImageHeader :=
  if s.length < kFixedHeaderSize then (.error .bufferTooSmall, s.length, header)
  else if ¬Accepted alloc s then (.error (refusal s), kFixedHeaderSize, header)
  else if s.length < kFixedHeaderSize + announced s then (.error .bufferTooSmall, s.length, header)
  else
    let (result, header) := headerOf ((s.drop kFixedHeaderSize).take (announced s)) header
    (result, kFixedHeaderSize + announced s, header)

def after (s : Bytes) : OTAImageHeaderParser :=
  if s.length < kFixedHeaderSize then ⟨.kInitialized, 0, s.length, s⟩
  else ⟨.kTlv, announced s, s.length - kFixedHeaderSize, s.drop kFixedHeaderSize⟩

def Taken (s : Bytes) : Prop :=
  s.length < kFixedHeaderSize ∨ Accepted alloc s ∧ s.length ≤ kFixedHeaderSize + announced s

/-- A length that the narrowing of the chunk's size does not cut below what a call can take. -/
def Countable (length : Nat) : Prop :=
  length < 2 ^ 32 ∨ kFixedHeaderSize + kMaxHeaderSize ≤ length % 2 ^ 32

variable {alloc} {s chunk : Bytes} {parser : OTAImageHeaderParser} {n : Nat}

theorem readField_append (s more : Bytes) {offset size : Nat} (h : offset + size ≤ s.length) :
  readField (s ++ more) offset size = readField s offset size := by
  rw [readField, readField, drop_append_of_le_length (by omega), take_append_of_le_length]
  rw [length_drop]
  omega

theorem announced_append (more : Bytes) (h : kFixedHeaderSize ≤ s.length) :
  announced (s ++ more) = announced s :=
  readField_append s more h

theorem accepted_append (alloc : Nat → Bool) (more : Bytes) (h : kFixedHeaderSize ≤ s.length) :
  Accepted alloc (s ++ more) ↔ Accepted alloc s := by
  have hIdentifier : readField (s ++ more) 0 4 = readField s 0 4 :=
    readField_append s more (Nat.le_trans (by decide) h)
  have hLength : kFixedHeaderSize ≤ (s ++ more).length := by
    rw [length_append]
    omega
  rw [Accepted, Accepted, announced_append more h, hIdentifier]
  simp only [hLength, h, true_and]

theorem parse_short (alloc : Nat → Bool) (header : OTAImageHeader) (h : s.length < kFixedHeaderSize) :
  parse alloc s header = (.error .bufferTooSmall, s.length, header) := if_pos h

theorem parse_refused (header : OTAImageHeader) (h : kFixedHeaderSize ≤ s.length)
  (hRefused : ¬Accepted alloc s) :
  parse alloc s header = (.error (refusal s), kFixedHeaderSize, header) := by
  rw [parse, if_neg (Nat.not_lt.mpr h), if_pos hRefused]

theorem parse_part (header : OTAImageHeader) (h : Accepted alloc s)
  (hPart : s.length < kFixedHeaderSize + announced s) :
  parse alloc s header = (.error .bufferTooSmall, s.length, header) := by
  rw [parse, if_neg (Nat.not_lt.mpr h.1), if_neg (not_not.mpr h), if_pos hPart]

theorem parse_whole (header : OTAImageHeader) (h : Accepted alloc s)
  (hWhole : kFixedHeaderSize + announced s ≤ s.length) :
  parse alloc s header =
    ((headerOf ((s.drop kFixedHeaderSize).take (announced s)) header).1,
      kFixedHeaderSize + announced s,
      (headerOf ((s.drop kFixedHeaderSize).take (announced s)) header).2) := by
  rw [parse, if_neg (Nat.not_lt.mpr h.1), if_neg (not_not.mpr h), if_neg (Nat.not_lt.mpr hWhole)]

theorem parse_append (more : Bytes) (header : OTAImageHeader)
  (hDone : (parse alloc s header).1 ≠ .error .bufferTooSmall) :
  parse alloc (s ++ more) header = parse alloc s header := by
  by_cases hShort : s.length < kFixedHeaderSize
  · rw [parse_short alloc header hShort] at hDone
    exact absurd rfl hDone
  have hFixed : kFixedHeaderSize ≤ s.length := Nat.le_of_not_lt hShort
  have hLonger : s.length ≤ (s ++ more).length := by
    rw [length_append]
    omega
  by_cases hAccepted : Accepted alloc s
  · by_cases hPart : s.length < kFixedHeaderSize + announced s
    · rw [parse_part header hAccepted hPart] at hDone
      exact absurd rfl hDone
    · have hTlv : ((s ++ more).drop kFixedHeaderSize).take (announced s) =
          (s.drop kFixedHeaderSize).take (announced s) := by
        rw [drop_append_of_le_length hFixed, take_append_of_le_length]
        rw [length_drop]
        omega
      rw [parse_whole header hAccepted (Nat.le_of_not_lt hPart),
        parse_whole header ((accepted_append alloc more hFixed).mpr hAccepted), announced_append more hFixed,
        hTlv]
      rw [announced_append more hFixed]
      omega
  · have hRefusal : refusal (s ++ more) = refusal s := by
      rw [refusal, refusal, readField_append s more (Nat.le_trans (by decide) hFixed)]
    have hStill : ¬Accepted alloc (s ++ more) := fun h => hAccepted ((accepted_append alloc more hFixed).mp h)
    rw [parse_refused header hFixed hAccepted, parse_refused header (Nat.le_trans hFixed hLonger) hStill,
      hRefusal]

theorem parse_le (s : Bytes) (header : OTAImageHeader) : (parse alloc s header).2.1 ≤ s.length := by
  unfold parse
  split_ifs with hShort hAccepted hPart
  · exact Nat.le_refl _
  · exact Nat.le_refl _
  · exact Nat.le_of_not_lt hPart
  · exact Nat.le_of_not_lt hShort

theorem le_parse (more : Bytes) (header : OTAImageHeader) (hTaken : Taken alloc s) :
  s.length ≤ (parse alloc (s ++ more) header).2.1 := by
  have hMore : s.length ≤ (s ++ more).length := by
    rw [length_append]
    omega
  unfold parse
  split_ifs with hShort hAccepted hPart
  · exact hMore
  · exact hMore
  · rcases hTaken with hBefore | ⟨hAccepted, hLess⟩
    · exact Nat.le_trans (Nat.le_of_lt hBefore) (Nat.le_add_right _ _)
    · rwa [← announced_append more hAccepted.1] at hLess
  · rcases hTaken with hBefore | ⟨hTaken, -⟩
    · exact Nat.le_of_lt hBefore
    · exact absurd ((accepted_append alloc more hTaken.1).mpr hTaken) hAccepted

theorem Countable.min_eq (hCount : Countable n) (need taken : Nat) (hTaken : taken ≤ n)
  (hNeed : taken + need ≤ kFixedHeaderSize + kMaxHeaderSize) :
  min need ((n - taken) % 2 ^ 32) = min need (n - taken) := by
  unfold Countable kFixedHeaderSize kMaxHeaderSize at hCount
  unfold kFixedHeaderSize kMaxHeaderSize at hNeed
  omega

theorem append_eq (parser : OTAImageHeaderParser) (need : Nat)
  (hOffset : parser.mBufferOffset = parser.mBuffer.length)
  (hCount : min need (chunk.length % 2 ^ 32) = min need chunk.length) :
  parser.append chunk need = ({ parser with
    mBuffer := parser.mBuffer ++ chunk.take need
    mBufferOffset := (parser.mBuffer ++ chunk.take need).length }, chunk.drop need) := by
  have hTake : chunk.take (min need chunk.length) = chunk.take need := by
    rw [← take_take, take_length]
  have hDrop : chunk.drop (min need chunk.length) = chunk.drop need := by
    rcases Nat.le_total need chunk.length with h | h
    · rw [Nat.min_eq_left h]
    · rw [Nat.min_eq_right h, drop_of_length_le (Nat.le_refl _), drop_of_length_le h]
  simp only [append, hCount, hTake, hDrop, hOffset, overwrite_at_end, length_append,
    length_take]

theorem decodeFixed_accepted (hLength : s.length = kFixedHeaderSize) (hAccepted : Accepted alloc s) :
  decodeFixed alloc ⟨.kInitialized, 0, s.length, s⟩ = (.ok (), ⟨.kTlv, announced s, 0, []⟩) := by
  obtain ⟨-, hIdentifier, hSize, hAlloc⟩ := hAccepted
  have hRoom : ¬s.length < kFixedHeaderSize := by omega
  unfold announced at hSize hAlloc
  unfold decodeFixed announced
  simp [read_bind, verify_bind, modify_bind, hRoom, hIdentifier, hSize, hAlloc]

theorem decodeFixed_refused (hLength : s.length = kFixedHeaderSize) (hRefused : ¬Accepted alloc s) :
  ∃ parser, decodeFixed alloc ⟨.kInitialized, 0, s.length, s⟩ = (.error (refusal s), parser) ∧
    parser.mState = .kInitialized := by
  have hRoom : ¬s.length < kFixedHeaderSize := by omega
  unfold decodeFixed refusal
  by_cases hIdentifier : readField s 0 4 = kOTAImageFileIdentifier
  · by_cases hSize : readField s 12 4 ≤ kMaxHeaderSize
    · have hAlloc : alloc (readField s 12 4) = false := by
        rw [← Bool.not_eq_true]
        exact fun hAlloc => hRefused ⟨Nat.le_of_eq hLength.symm, hIdentifier, hSize, hAlloc⟩
      simp [read_bind, verify_bind, modify_bind, hRoom, hIdentifier, hSize, hAlloc]
    · simp [read_bind, verify_bind, modify_bind, hRoom, hIdentifier, hSize]
  · simp [read_bind, verify_bind, modify_bind, hRoom, hIdentifier]

theorem take_fixed (alloc : Nat → Bool) (h : kFixedHeaderSize ≤ s.length) :
  (s.take kFixedHeaderSize).length = kFixedHeaderSize ∧
    announced (s.take kFixedHeaderSize) = announced s ∧
    refusal (s.take kFixedHeaderSize) = refusal s ∧
    (Accepted alloc (s.take kFixedHeaderSize) ↔ Accepted alloc s) := by
  have hLength : (s.take kFixedHeaderSize).length = kFixedHeaderSize := length_take_of_le h
  have hFixed : kFixedHeaderSize ≤ (s.take kFixedHeaderSize).length := Nat.le_of_eq hLength.symm
  have hSize := announced_append (s.drop kFixedHeaderSize) hFixed
  have hAccepted : Accepted alloc (s.take kFixedHeaderSize ++ s.drop kFixedHeaderSize) ↔
      Accepted alloc (s.take kFixedHeaderSize) := accepted_append alloc (s.drop kFixedHeaderSize) hFixed
  have hIdentifier := readField_append (s.take kFixedHeaderSize) (s.drop kFixedHeaderSize)
    (Nat.le_trans (by decide : 0 + 4 ≤ kFixedHeaderSize) hFixed)
  rw [take_append_drop] at hSize hAccepted hIdentifier
  exact ⟨hLength, hSize.symm, by rw [refusal, refusal, hIdentifier], hAccepted.symm⟩

theorem fixedPhase_short (hCount : Countable chunk.length)
  (hShort : (s ++ chunk).length < kFixedHeaderSize) :
  fixedPhase alloc (after s) chunk = (.error .bufferTooSmall, after (s ++ chunk), []) := by
  have hLength : s.length + chunk.length < kFixedHeaderSize := by
    rwa [length_append] at hShort
  have hMin := hCount.min_eq (kFixedHeaderSize - s.length) 0 (Nat.zero_le _) (by omega)
  have hAppend := append_eq ⟨.kInitialized, 0, s.length, s⟩ _ rfl hMin
  rw [take_of_length_le (by omega), drop_of_length_le (by omega)] at hAppend
  rw [after, after, if_pos (by omega), if_pos hShort, fixedPhase, if_pos rfl, hAppend]
  simp [decodeFixed, read_bind, verify_bind, hLength]

section

variable (hCount : Countable chunk.length) (hBefore : s.length < kFixedHeaderSize)
include hCount hBefore

theorem append_fixed :
  (after s).append chunk (kFixedHeaderSize - s.length) =
    (⟨.kInitialized, 0, ((s ++ chunk).take kFixedHeaderSize).length, (s ++ chunk).take kFixedHeaderSize⟩,
      chunk.drop (kFixedHeaderSize - s.length)) := by
  have hMin := hCount.min_eq (kFixedHeaderSize - s.length) 0 (Nat.zero_le _) (by omega)
  have hFixed : s ++ chunk.take (kFixedHeaderSize - s.length) = (s ++ chunk).take kFixedHeaderSize := by
    rw [take_append, take_of_length_le (Nat.le_of_lt hBefore)]
  rw [after, if_pos hBefore, append_eq ⟨.kInitialized, 0, s.length, s⟩ _ rfl hMin, hFixed]

theorem fixedPhase_accepted (hAccepted : Accepted alloc (s ++ chunk)) :
  fixedPhase alloc (after s) chunk = (.ok (), ⟨.kTlv, announced (s ++ chunk), 0, []⟩,
    chunk.drop (kFixedHeaderSize - s.length)) := by
  obtain ⟨hLength, hSize, -, hSame⟩ := take_fixed alloc hAccepted.1
  have hAppend := append_fixed hCount hBefore
  have hState : (after s).mState = .kInitialized ∧ (after s).mBufferOffset = s.length := by
    rw [after, if_pos hBefore]
    exact ⟨rfl, rfl⟩
  rw [fixedPhase, if_pos hState.1, hState.2, hAppend]
  simp only [decodeFixed_accepted hLength (hSame.mpr hAccepted), hSize]

theorem fixedPhase_refused (hComplete : kFixedHeaderSize ≤ (s ++ chunk).length)
  (hRefused : ¬Accepted alloc (s ++ chunk)) :
  ∃ parser, fixedPhase alloc (after s) chunk = (.error (refusal (s ++ chunk)), parser,
    chunk.drop (kFixedHeaderSize - s.length)) ∧ parser.mState = .kInitialized := by
  obtain ⟨hLength, -, hRefusal, hSame⟩ := take_fixed alloc hComplete
  have hAppend := append_fixed hCount hBefore
  have hState : (after s).mState = .kInitialized ∧ (after s).mBufferOffset = s.length := by
    rw [after, if_pos hBefore]
    exact ⟨rfl, rfl⟩
  obtain ⟨parser, hDecode, hStill⟩ := decodeFixed_refused hLength fun h => hRefused (hSame.mp h)
  refine ⟨parser, ?_, hStill⟩
  rw [fixedPhase, if_pos hState.1, hState.2, hAppend]
  simp only [hDecode, hRefusal]

end

theorem bothPhases_tlv (header : OTAImageHeader) {stored rest : Bytes} {size : Nat}
  (hFixed : fixedPhase alloc parser chunk = (.ok (), ⟨.kTlv, size, stored.length, stored⟩, rest))
  (hStored : stored.length ≤ size)
  (hMin : min (size - stored.length) (rest.length % 2 ^ 32) = min (size - stored.length) rest.length) :
  bothPhases alloc parser chunk header =
    ((if (stored ++ rest).length < size then (.error .bufferTooSmall, header)
        else headerOf ((stored ++ rest).take size) header).1,
      ⟨.kTlv, size, ((stored ++ rest).take size).length, (stored ++ rest).take size⟩,
      rest.drop (size - stored.length),
      (if (stored ++ rest).length < size then (.error .bufferTooSmall, header)
        else headerOf ((stored ++ rest).take size) header).2) := by
  have hTlv : stored ++ rest.take (size - stored.length) = (stored ++ rest).take size := by
    rw [take_append, take_of_length_le hStored]
  have hPart : ((stored ++ rest).take size).length < size ↔ (stored ++ rest).length < size := by
    rw [length_take]
    omega
  rw [bothPhases, hFixed]
  simp only [if_true, append_eq ⟨.kTlv, size, stored.length, stored⟩ _ rfl hMin, hTlv, decodeTlv, hPart,
    take_length]

theorem accumulate_of_phases {result : Except ChipError Unit} {next : OTAImageHeaderParser} {rest : Bytes}
  {header header' : OTAImageHeader}
  (hPhases : bothPhases alloc parser chunk header = (result, next, rest, header')) :
  ∃ last, accumulateAndDecode alloc parser chunk header = (result, last, rest, header') ∧
    (last = next ∧ (result = .ok () ∨ result = .error .bufferTooSmall) ∨
      last = clear ∧ result ≠ .error .bufferTooSmall) := by
  rw [accumulateAndDecode, hPhases]
  match result with
  | .ok () => exact ⟨next, rfl, .inl ⟨rfl, .inl rfl⟩⟩
  | .error e =>
    by_cases he : e = .bufferTooSmall
    · subst he
      exact ⟨next, rfl, .inl ⟨rfl, .inr rfl⟩⟩
    · refine ⟨clear, ?_, .inr ⟨rfl, fun h => he (Except.error.inj h)⟩⟩
      cases e <;> first | rfl | exact absurd rfl he

theorem drop_eq_drop {a b : Nat} (h : a = b ∨ chunk.length ≤ a ∧ chunk.length ≤ b) :
  chunk.drop a = chunk.drop b := by
  rcases h with rfl | ⟨ha, hb⟩
  · rfl
  · rw [drop_of_length_le ha, drop_of_length_le hb]

/-- A call gives what a parse of all bytes taken so far and the chunk gives, and leaves the bytes
of the chunk that the parse does not take. -/
structure Continues (alloc : Nat → Bool) (s chunk : Bytes) (header : OTAImageHeader)
    (next : OTAImageHeaderParser) : Prop where
  call : accumulateAndDecode alloc (after s) chunk header = ((parse alloc (s ++ chunk) header).1, next,
    chunk.drop ((parse alloc (s ++ chunk) header).2.1 - s.length), (parse alloc (s ++ chunk) header).2.2)
  ready : next.mState ≠ .kNotInitialized ∨
      (parse alloc (s ++ chunk) header).1 = .error .bufferTooSmall →
    next = after ((s ++ chunk).take (parse alloc (s ++ chunk) header).2.1) ∧
      Taken alloc ((s ++ chunk).take (parse alloc (s ++ chunk) header).2.1)

theorem continues_tlv (hAccepted : Accepted alloc (s ++ chunk)) (hCount : Countable chunk.length)
  (hLess : s.length ≤ kFixedHeaderSize + announced (s ++ chunk))
  (hFixed : fixedPhase alloc (after s) chunk = (.ok (), ⟨.kTlv, announced (s ++ chunk),
    (s.drop kFixedHeaderSize).length, s.drop kFixedHeaderSize⟩, chunk.drop (kFixedHeaderSize - s.length)))
  (header : OTAImageHeader) : ∃ next, Continues alloc s chunk header next := by
  have hMax : announced (s ++ chunk) ≤ kMaxHeaderSize := hAccepted.2.2.1
  have hLength : (s ++ chunk).length = s.length + chunk.length := length_append
  have hLong := hAccepted.1
  have hStored : (s.drop kFixedHeaderSize).length = s.length - kFixedHeaderSize := length_drop
  have hRest : (chunk.drop (kFixedHeaderSize - s.length)).length =
      chunk.length - (kFixedHeaderSize - s.length) := length_drop
  have hTlv : s.drop kFixedHeaderSize ++ chunk.drop (kFixedHeaderSize - s.length) =
      (s ++ chunk).drop kFixedHeaderSize := by
    rw [drop_append]
  have hTlvLength : ((s ++ chunk).drop kFixedHeaderSize).length = (s ++ chunk).length - kFixedHeaderSize :=
    length_drop
  have hMin := hCount.min_eq (announced (s ++ chunk) - (s.drop kFixedHeaderSize).length)
    (kFixedHeaderSize - s.length) (by omega) (by omega)
  rw [← hRest] at hMin
  have hPhases := bothPhases_tlv header hFixed (by omega) hMin
  rw [hTlv] at hPhases
  obtain ⟨next, hCall, hNext⟩ := accumulate_of_phases hPhases
  have hBefore : s.length - kFixedHeaderSize ≤ announced (s ++ chunk) := by omega
  rw [drop_drop, hStored] at hCall
  refine ⟨next, ?_⟩
  by_cases hPart : (s ++ chunk).length < kFixedHeaderSize + announced (s ++ chunk)
  · have hParse := parse_part header hAccepted hPart
    have hShort : ((s ++ chunk).drop kFixedHeaderSize).length < announced (s ++ chunk) := by omega
    rw [if_pos hShort] at hCall hNext
    refine ⟨?_, fun hReady => ?_⟩
    · rw [hParse, hCall, drop_eq_drop]
      dsimp only
      omega
    · rcases hNext with ⟨rfl, -⟩ | ⟨rfl, hOther⟩
      · rw [hParse, take_length]
        refine ⟨?_, .inr ⟨hAccepted, Nat.le_of_lt hPart⟩⟩
        rw [after, if_neg (Nat.not_lt.mpr hLong), take_of_length_le (Nat.le_of_lt hShort), hTlvLength]
      · exact absurd rfl hOther
  · have hWhole := Nat.le_of_not_lt hPart
    have hParse := parse_whole header hAccepted hWhole
    have hEnough : ¬((s ++ chunk).drop kFixedHeaderSize).length < announced (s ++ chunk) := by omega
    rw [if_neg hEnough] at hCall hNext
    refine ⟨?_, fun hReady => ?_⟩
    · have hLeft : chunk.drop (kFixedHeaderSize - s.length +
          (announced (s ++ chunk) - (s.length - kFixedHeaderSize))) =
            chunk.drop (kFixedHeaderSize + announced (s ++ chunk) - s.length) := drop_eq_drop (by omega)
      rw [hParse, hCall, hLeft]
    · rcases hNext with ⟨rfl, -⟩ | ⟨rfl, hOther⟩
      · rw [hParse]
        have hTaken : ((s ++ chunk).take (kFixedHeaderSize + announced (s ++ chunk))).length =
            kFixedHeaderSize + announced (s ++ chunk) := length_take_of_le hWhole
        have hFirst : kFixedHeaderSize ≤
            ((s ++ chunk).take (kFixedHeaderSize + announced (s ++ chunk))).length := by omega
        have hSize := announced_append
          ((s ++ chunk).drop (kFixedHeaderSize + announced (s ++ chunk))) hFirst
        have hStill := (accepted_append alloc
          ((s ++ chunk).drop (kFixedHeaderSize + announced (s ++ chunk))) hFirst).mp
        rw [take_append_drop] at hSize hStill
        refine ⟨?_, .inr ⟨hStill hAccepted, by rw [← hSize]; exact Nat.le_of_eq hTaken⟩⟩
        rw [after, if_neg (Nat.not_lt.mpr hFirst), ← hSize, drop_take, length_take, hTaken,
          Nat.add_sub_cancel_left]
        congr 1
        omega
      · exact hReady.elim (absurd rfl) fun h => absurd (by rwa [hParse] at h) hOther

theorem call_continues (hTaken : Taken alloc s) (hCount : Countable chunk.length)
  (header : OTAImageHeader) : ∃ next, Continues alloc s chunk header next := by
  have hLength : (s ++ chunk).length = s.length + chunk.length := length_append
  by_cases hBefore : s.length < kFixedHeaderSize
  · by_cases hShort : (s ++ chunk).length < kFixedHeaderSize
    · have hParse := parse_short alloc header hShort
      have hState : (after (s ++ chunk)).mState ≠ .kTlv := by
        rw [after, if_pos hShort]
        simp
      have hPhases : bothPhases alloc (after s) chunk header =
          (.error .bufferTooSmall, after (s ++ chunk), [], header) := by
        rw [bothPhases, fixedPhase_short hCount hShort]
        simp only [if_neg hState]
      obtain ⟨next, hCall, hNext⟩ := accumulate_of_phases hPhases
      refine ⟨next, ?_, fun hReady => ?_⟩
      · rw [hParse, hCall, drop_of_length_le]
        dsimp only
        omega
      · rcases hNext with ⟨rfl, -⟩ | ⟨rfl, hOther⟩
        · rw [hParse, take_length]
          exact ⟨rfl, .inl hShort⟩
        · exact absurd rfl hOther
    · have hComplete := Nat.le_of_not_lt hShort
      by_cases hAccepted : Accepted alloc (s ++ chunk)
      · refine continues_tlv hAccepted hCount (by omega) ?_ header
        rw [fixedPhase_accepted hCount hBefore hAccepted, drop_of_length_le (Nat.le_of_lt hBefore)]
        rfl
      · have hParse := parse_refused header hComplete hAccepted
        obtain ⟨parser, hFixed, hStill⟩ := fixedPhase_refused hCount hBefore hComplete hAccepted
        have hPhases : bothPhases alloc (after s) chunk header =
            (.error (refusal (s ++ chunk)), parser, chunk.drop (kFixedHeaderSize - s.length), header) := by
          rw [bothPhases, hFixed]
          simp only [hStill]
          rfl
        obtain ⟨next, hCall, hNext⟩ := accumulate_of_phases hPhases
        refine ⟨next, by rw [hParse, hCall], fun hReady => ?_⟩
        rcases hNext with ⟨-, hResult⟩ | ⟨rfl, hOther⟩
        · unfold refusal at hResult
          split at hResult <;> simp at hResult
        · exact hReady.elim (absurd rfl) fun h => absurd (by rwa [hParse] at h) hOther
  · obtain hShort | ⟨hAccepted, hLess⟩ := hTaken
    · exact absurd hShort hBefore
    · have hFixed := Nat.le_of_not_lt hBefore
      have hSize := announced_append chunk hFixed
      refine continues_tlv ((accepted_append alloc chunk hFixed).mpr hAccepted) hCount (by rwa [hSize]) ?_ header
      rw [fixedPhase, after, if_neg hBefore, hSize, Nat.sub_eq_zero_of_le hFixed, length_drop]
      rfl

/-- A chunk after another is passed until a call returns something other than
`CHIP_ERROR_BUFFER_TOO_SMALL`: the last result, the bytes taken and the header. -/
def feed (alloc : Nat → Bool) (parser : OTAImageHeaderParser) (header : OTAImageHeader) :
  List Bytes → Except ChipError Unit × Nat × OTAImageHeader
  | [] => (.error .bufferTooSmall, 0, header)
  | chunk :: rest =>
    let (result, parser, left, header) := accumulateAndDecode alloc parser chunk header
    let taken := chunk.length - left.length
    if result = .error .bufferTooSmall then
      let (result, more, header) := feed alloc parser header rest
      (result, taken + more, header)
    else (result, taken, header)

theorem parse_waits (header : OTAImageHeader)
  (hWaits : (parse alloc s header).1 = .error .bufferTooSmall) :
  parse alloc s header = (.error .bufferTooSmall, s.length, header) := by
  by_cases hShort : s.length < kFixedHeaderSize
  · exact parse_short alloc header hShort
  · have hFixed := Nat.le_of_not_lt hShort
    by_cases hAccepted : Accepted alloc s
    · by_cases hPart : s.length < kFixedHeaderSize + announced s
      · exact parse_part header hAccepted hPart
      · rw [parse_whole header hAccepted (Nat.le_of_not_lt hPart)] at hWaits
        exact absurd hWaits (headerOf_ne _ _)
    · rw [parse_refused header hFixed hAccepted] at hWaits
      unfold refusal at hWaits
      split at hWaits <;> simp at hWaits

theorem feed_eq (header : OTAImageHeader) (chunks : List Bytes) (hTaken : Taken alloc s)
  (hWaits : (parse alloc s header).1 = .error .bufferTooSmall)
  (hCount : ∀ chunk ∈ chunks, Countable chunk.length) :
  feed alloc (after s) header chunks =
    ((parse alloc (s ++ chunks.flatten) header).1,
      (parse alloc (s ++ chunks.flatten) header).2.1 - s.length,
      (parse alloc (s ++ chunks.flatten) header).2.2) := by
  induction chunks generalizing s with
  | nil =>
    rw [flatten_nil, List.append_nil, parse_waits header hWaits]
    simp [feed]
  | cons chunk chunks ih =>
    obtain ⟨next, hCall, hReady⟩ :=
      call_continues hTaken (hCount chunk mem_cons_self) header
    have hLength : (s ++ chunk).length = s.length + chunk.length := length_append
    have hAppend : s ++ (chunk :: chunks).flatten = s ++ chunk ++ chunks.flatten := by
      rw [flatten_cons, append_assoc]
    rw [feed, hCall, hAppend]
    simp only [length_drop]
    by_cases hMore : (parse alloc (s ++ chunk) header).1 = .error .bufferTooSmall
    · have hParse := parse_waits header hMore
      obtain ⟨rfl, hTaken'⟩ := hReady (.inr hMore)
      rw [hParse, take_length] at hTaken' ⊢
      rw [if_pos rfl, ih hTaken' hMore fun c hc => hCount c (mem_cons_of_mem _ hc)]
      have hLeast := le_parse chunks.flatten header hTaken'
      have hSum : chunk.length - (chunk.length - ((s ++ chunk).length - s.length)) +
          ((parse alloc (s ++ chunk ++ chunks.flatten) header).2.1 - (s ++ chunk).length) =
            (parse alloc (s ++ chunk ++ chunks.flatten) header).2.1 - s.length := by omega
      rw [hSum]
    · have hMost : (parse alloc (s ++ chunk) header).2.1 ≤ (s ++ chunk).length := parse_le _ _
      have hTook : chunk.length - (chunk.length - ((parse alloc (s ++ chunk) header).2.1 - s.length)) =
          (parse alloc (s ++ chunk) header).2.1 - s.length := by omega
      rw [if_neg hMore, parse_append _ _ hMore, hTook]

/-- The calls after `Init` up to a point: the parser, the header and the bytes taken so far. No
call is made after an error, and no chunk is so long that its size is cut too short. -/
inductive Calls (alloc : Nat → Bool) (header₀ : OTAImageHeader) :
    OTAImageHeaderParser → OTAImageHeader → Bytes → Prop where
  | init : Calls alloc header₀ init header₀ []
  | call {parser next : OTAImageHeaderParser} {header header' : OTAImageHeader}
      {taken chunk left : Bytes} {result : Except ChipError Unit}
      (prior : Calls alloc header₀ parser header taken) (hReady : parser.mState ≠ .kNotInitialized)
      (hCount : Countable chunk.length)
      (hCall : accumulateAndDecode alloc parser chunk header = (result, next, left, header')) :
      Calls alloc header₀ next header' (taken ++ chunk.take (chunk.length - left.length))

/-- The bytes are one complete header, of an accepted size, whose TLV is decoded. -/
structure Complete (taken : Bytes) (header header' : OTAImageHeader) : Prop where
  identifier : readField taken 0 4 = kOTAImageFileIdentifier
  size : announced taken ≤ kMaxHeaderSize
  length : taken.length = kFixedHeaderSize + announced taken
  decoded : headerOf (taken.drop kFixedHeaderSize) header = (.ok (), header')

theorem taken_eq (header : OTAImageHeader) (hTaken : Taken alloc s) :
  s ++ chunk.take (chunk.length -
    (chunk.drop ((parse alloc (s ++ chunk) header).2.1 - s.length)).length) =
      (s ++ chunk).take (parse alloc (s ++ chunk) header).2.1 := by
  have hLeast : s.length ≤ (parse alloc (s ++ chunk) header).2.1 := le_parse chunk header hTaken
  have hMost : (parse alloc (s ++ chunk) header).2.1 ≤ (s ++ chunk).length := parse_le _ _
  rw [length_append] at hMost
  have hTook : chunk.length -
      (chunk.drop ((parse alloc (s ++ chunk) header).2.1 - s.length)).length =
        (parse alloc (s ++ chunk) header).2.1 - s.length := by
    rw [length_drop]
    omega
  rw [hTook, take_append, take_of_length_le hLeast]

variable {header₀ header : OTAImageHeader}

theorem Calls.taken (h : Calls alloc header₀ parser header s) (hReady : parser.mState ≠ .kNotInitialized) :
  parser = after s ∧ Taken alloc s := by
  induction h with
  | init => exact ⟨rfl, .inl (by decide)⟩
  | @call parser next header header' taken chunk left result prior hBefore hCount hCall ih =>
    obtain ⟨rfl, hTaken⟩ := ih hBefore
    obtain ⟨next', hSame, hNext⟩ := call_continues hTaken hCount header
    rw [hCall] at hSame
    obtain ⟨-, hState, hLeft, -⟩ := by simpa only [Prod.mk.injEq] using hSame
    subst hState hLeft
    rw [taken_eq header hTaken]
    exact hNext (.inl hReady)

theorem parse_complete (s : Bytes) (header : OTAImageHeader) :
  (s.take (parse alloc s header).2.1).length ≤
      kFixedHeaderSize + announced (s.take (parse alloc s header).2.1) ∧
    ((parse alloc s header).1 = .ok () →
      Complete (s.take (parse alloc s header).2.1) header (parse alloc s header).2.2) := by
  by_cases hShort : s.length < kFixedHeaderSize
  · rw [parse_short alloc header hShort, take_length]
    exact ⟨Nat.le_trans (Nat.le_of_lt hShort) (Nat.le_add_right _ _), fun hResult => by cases hResult⟩
  have hFixed := Nat.le_of_not_lt hShort
  by_cases hAccepted : Accepted alloc s
  · by_cases hPart : s.length < kFixedHeaderSize + announced s
    · rw [parse_part header hAccepted hPart, take_length]
      exact ⟨Nat.le_of_lt hPart, fun hResult => by cases hResult⟩
    · have hWhole := Nat.le_of_not_lt hPart
      have hLength : (s.take (kFixedHeaderSize + announced s)).length = kFixedHeaderSize + announced s :=
        length_take_of_le hWhole
      have hFirst : kFixedHeaderSize ≤ (s.take (kFixedHeaderSize + announced s)).length := by omega
      have hSize := announced_append (s.drop (kFixedHeaderSize + announced s)) hFirst
      have hStill := (accepted_append alloc (s.drop (kFixedHeaderSize + announced s)) hFirst).mp
      rw [take_append_drop] at hSize hStill
      obtain ⟨-, hIdentifier, hMax, -⟩ := hStill hAccepted
      rw [parse_whole header hAccepted hWhole]
      refine ⟨by rw [← hSize, hLength], fun hResult => ⟨hIdentifier, hMax, by rw [← hSize, hLength], ?_⟩⟩
      have hTlv : (s.take (kFixedHeaderSize + announced s)).drop kFixedHeaderSize =
          (s.drop kFixedHeaderSize).take (announced s) := by
        rw [drop_take, Nat.add_sub_cancel_left]
      rw [hTlv]
      exact Prod.ext hResult rfl
  · rw [parse_refused header hFixed hAccepted, length_take_of_le hFixed]
    exact ⟨Nat.le_add_right _ _, fun hResult => by cases hResult⟩

theorem Calls.next (h : Calls alloc header₀ parser header s) (hReady : parser.mState ≠ .kNotInitialized)
  (hCount : Countable chunk.length) {result : Except ChipError Unit} {next : OTAImageHeaderParser}
  {left : Bytes} {header' : OTAImageHeader}
  (hCall : accumulateAndDecode alloc parser chunk header = (result, next, left, header')) :
  ∃ taken, chunk = taken ++ left ∧
    (s ++ taken).length ≤ kFixedHeaderSize + announced (s ++ taken) ∧
    (result = .ok () → Complete (s ++ taken) header header') := by
  obtain ⟨rfl, hTaken⟩ := h.taken hReady
  obtain ⟨next', hSame, -⟩ := call_continues hTaken hCount header
  rw [hCall] at hSame
  obtain ⟨hResult, -, hLeft, hHeader⟩ := by simpa only [Prod.mk.injEq] using hSame
  subst hResult hLeft hHeader
  refine ⟨chunk.take ((parse alloc (s ++ chunk) header).2.1 - s.length),
    (take_append_drop _ _).symm, ?_⟩
  have hLeast : s.length ≤ (parse alloc (s ++ chunk) header).2.1 := le_parse chunk header hTaken
  have hTook : s ++ chunk.take ((parse alloc (s ++ chunk) header).2.1 - s.length) =
      (s ++ chunk).take (parse alloc (s ++ chunk) header).2.1 := by
    rw [take_append, take_of_length_le hLeast]
  rw [hTook]
  exact parse_complete (s ++ chunk) header

/-- Any chunks give the result, the fields and the number of bytes taken of one call on the whole
string; and in every sequence of calls that goes on only after results without an error, a call
is successful only when one complete header has been taken, and no byte behind it is. -/
theorem parsing_by_chunks (alloc : Nat → Bool) (header₀ : OTAImageHeader) :
    (∀ chunks : List Bytes, (∀ chunk ∈ chunks, Countable chunk.length) → Countable chunks.flatten.length →
      ∀ result next left header,
        accumulateAndDecode alloc init chunks.flatten header₀ = (result, next, left, header) →
          feed alloc init header₀ chunks = (result, chunks.flatten.length - left.length, header)) ∧
    ∀ parser header s, Calls alloc header₀ parser header s → parser.mState ≠ .kNotInitialized →
      ∀ chunk : Bytes, Countable chunk.length → ∀ result next left header',
        accumulateAndDecode alloc parser chunk header = (result, next, left, header') →
          ∃ taken, chunk = taken ++ left ∧
            (s ++ taken).length ≤ kFixedHeaderSize + announced (s ++ taken) ∧
            (result = .ok () → Complete (s ++ taken) header header') := by
  constructor
  · intro chunks hCount hWhole result next left header hCall
    have hStart : Taken alloc [] := .inl (by decide)
    have hChunks := feed_eq header₀ chunks hStart rfl hCount
    obtain ⟨next', hOne, -⟩ := call_continues hStart hWhole header₀
    rw [List.nil_append] at hChunks hOne
    rw [show after [] = init from rfl, hCall] at hOne
    obtain ⟨hResult, -, hLeft, hHeader⟩ := by simpa only [Prod.mk.injEq] using hOne
    have hMost : (parse alloc chunks.flatten header₀).2.1 ≤ chunks.flatten.length := parse_le _ _
    rw [show init = after [] from rfl, hChunks, hResult, hLeft, hHeader, List.length_drop]
    simp only [List.length_nil, Nat.sub_zero, Prod.mk.injEq, true_and, and_true]
    omega
  · intro parser header s hCalls hReady chunk hCount result next left header' hCall
    exact hCalls.next hReady hCount hCall

def emptyHeader : OTAImageHeader where
  mVendorId := 0
  mProductId := 0
  mSoftwareVersion := 0
  mSoftwareVersionString := []
  mPayloadSize := 0
  mMinApplicableVersion := none
  mMaxApplicableVersion := none
  mReleaseNotesURL := []
  mImageDigestType := 0
  mImageDigest := []

/-- After 16 bytes that are no header, a call with no bytes is successful. -/
theorem success_after_error :
    accumulateAndDecode (fun _ => true) init (List.replicate 16 0) emptyHeader =
        (.error .invalidFileIdentifier, clear, [], emptyHeader) ∧
      accumulateAndDecode (fun _ => true) clear [] emptyHeader = (.ok (), clear, [], emptyHeader) :=
  ⟨rfl, rfl⟩

end Chip.OTAImageHeaderParser
