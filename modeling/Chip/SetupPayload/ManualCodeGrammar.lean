import Chip.SetupPayload.ManualCode

/-! What manual pairing codes are: the numbers of a code determine its characters, and the parser reads
them back. -/
namespace Chip.SetupPayload

open List Verhoeff10

/-- The numbers that a code is made of. A long code has the vendor and the product too. -/
structure ManualCode where
  chunk1 : Nat
  chunk2 : Nat
  chunk3 : Nat
  ids : Option (Nat × Nat)

namespace ManualCode

open ManualSetupPayloadParser

def idDigits : Option (Nat × Nat) → Bytes
  | none => []
  | some (vendorID, productID) => decimalDigits kManualSetupVendorIdCharLength vendorID ++
      decimalDigits kManualSetupProductIdCharLength productID

def digits (code : ManualCode) : Bytes :=
  decimalDigits kManualSetupCodeChunk1CharLength code.chunk1 ++
    decimalDigits kManualSetupCodeChunk2CharLength code.chunk2 ++
    decimalDigits kManualSetupCodeChunk3CharLength code.chunk3 ++ idDigits code.ids

def string (code : ManualCode) : Bytes := code.digits ++ [computeCheckChar code.digits]

/-- The numbers have as many digits as there is room for, the first one tells a long code, and the
PIN is not zero. -/
structure WellFormed (code : ManualCode) : Prop where
  chunk1 : code.chunk1 < 8
  chunk2 : code.chunk2 < 10 ^ kManualSetupCodeChunk2CharLength
  chunk3 : code.chunk3 < 10 ^ kManualSetupCodeChunk3CharLength
  long : 4 ≤ code.chunk1 ↔ code.ids.isSome
  ids : ∀ vendorID productID, code.ids = some (vendorID, productID) →
    vendorID < 10 ^ kManualSetupVendorIdCharLength ∧ productID < 10 ^ kManualSetupProductIdCharLength
  pin : setUpPINCodeOf code.chunk2 code.chunk3 ≠ 0

end ManualCode

variable {len n number index : Nat} {s pre post : Bytes}

theorem decimalDigits_length (len n : Nat) : (decimalDigits len n).length = len := by
  induction len generalizing n with
  | zero => rfl
  | succ len ih => rw [decimalDigits, length_append, ih]; rfl

theorem isDigit_ofNat (n : Nat) : IsDigit (UInt8.ofNat (48 + n % 10)) ∧
  (UInt8.ofNat (48 + n % 10)).toNat - 48 = n % 10 := by
  have hDigit : n % 10 < 10 := Nat.mod_lt _ (by decide)
  generalize n % 10 = d at *
  interval_cases d <;> decide

theorem decimalDigits_isDigit (len n : Nat) : ∀ ch ∈ decimalDigits len n, IsDigit ch := by
  induction len generalizing n with
  | zero => simp [decimalDigits]
  | succ len ih =>
    intro ch hMem
    rcases mem_append.mp hMem with hFront | hLast
    · exact ih _ ch hFront
    · rw [mem_singleton.mp hLast]
      exact (isDigit_ofNat n).1

namespace ManualSetupPayloadParser

theorem toNumberLoop_append (number : Nat) (s : Bytes) (c : UInt8) :
  toNumberLoop number (s ++ [c]) = (toNumberLoop number s).bind fun n =>
    if ¬IsDigit c then .error .invalidIntegerValue else .ok ((n * 10 + (c.toNat - 48)) % 2 ^ 32) := by
  induction s generalizing number with
  | nil => simp [toNumberLoop, Except.bind]
  | cons a s ih =>
    rw [cons_append, toNumberLoop, toNumberLoop]
    split
    · rfl
    · exact ih _

theorem toNumber_eq_ok (hLength : s.length ≤ 9) :
  toNumber s = .ok n ↔ n < 10 ^ s.length ∧ s = decimalDigits s.length n := by
  induction s using reverseRecOn generalizing n with
  | nil =>
    rw [toNumber, toNumberLoop, length_nil, pow_zero, Nat.lt_one_iff]
    constructor
    · intro h
      cases h
      exact ⟨rfl, rfl⟩
    · rintro ⟨rfl, -⟩
      rfl
  | append_singleton s c ih =>
    rw [length_append, length_singleton] at hLength ⊢
    have hShort : 10 ^ s.length ≤ 10 ^ 8 := Nat.pow_le_pow_right (by decide) (by omega)
    rw [toNumber, toNumberLoop_append, ← toNumber, pow_succ, decimalDigits, append_singleton_inj]
    constructor
    · intro h
      cases hFront : toNumber s with
      | error e => simp [hFront, Except.bind] at h
      | ok m =>
        obtain ⟨hLess, hDigits⟩ := (ih (by omega)).mp hFront
        by_cases hDigit : IsDigit c
        · have hValue := value_lt hDigit
          rw [value, base] at hValue
          obtain rfl : m * 10 + (c.toNat - 48) = n := by
            simp only [hFront, Except.bind, hDigit, not_true, if_false, Except.ok.injEq] at h
            omega
          have hDiv : (m * 10 + (c.toNat - 48)) / 10 = m := by omega
          have hMod : (m * 10 + (c.toNat - 48)) % 10 = c.toNat - 48 := by omega
          have hLow : 48 ≤ c.toNat := UInt8.le_iff_toNat_le.mp hDigit.1
          rw [hDiv, hMod, Nat.add_sub_cancel' hLow, UInt8.ofNat_toNat]
          exact ⟨by omega, hDigits, rfl⟩
        · simp [hFront, Except.bind, hDigit] at h
    · rintro ⟨hLess, hDigits, rfl⟩
      obtain ⟨hDigit, hValue⟩ := isDigit_ofNat n
      rw [(ih (by omega)).mpr ⟨by omega, hDigits⟩]
      simp only [Except.bind, hDigit, not_true, if_false, hValue, Except.ok.injEq]
      omega

theorem toNumber_decimalDigits (hLen : len ≤ 9) (h : n < 10 ^ len) : toNumber (decimalDigits len n) = .ok n := by
  rw [toNumber_eq_ok (by rwa [decimalDigits_length]), decimalDigits_length]
  exact ⟨h, rfl⟩

theorem readDigits_append (pre post : Bytes) (hLen : len ≤ 9) (h : n < 10 ^ len) :
  readDigitsFromDecimalString (pre ++ decimalDigits len n ++ post) pre.length len =
    .ok (n, pre.length + len) := by
  have hLength : (pre ++ decimalDigits len n ++ post).length = pre.length + len + post.length := by
    rw [length_append, length_append, decimalDigits_length]
  have hSlice : ((pre ++ decimalDigits len n ++ post).drop pre.length).take len = decimalDigits len n := by
    rw [append_assoc, drop_left]
    exact take_left' (decimalDigits_length len n)
  rw [readDigitsFromDecimalString, hLength, if_neg (by omega), hSlice, toNumber_decimalDigits hLen h]
  rfl

theorem readDigits_eq_ok (hLen : len ≤ 9) {r : Nat × Nat}
  (h : readDigitsFromDecimalString s index len = .ok r) :
  r.2 = index + len ∧ r.1 < 10 ^ len ∧ s.drop index = decimalDigits len r.1 ++ s.drop (index + len) := by
  rw [readDigitsFromDecimalString] at h
  split at h
  case isTrue => cases h
  case isFalse hFits =>
    have hSlice : ((s.drop index).take len).length = len := by
      rw [length_take, length_drop]
      omega
    cases hNumber : toNumber ((s.drop index).take len) with
    | error e => simp [hNumber, Except.map] at h
    | ok n =>
      obtain ⟨hLess, hDigits⟩ := (toNumber_eq_ok (hSlice.trans_le hLen)).mp hNumber
      rw [hNumber] at h
      cases h
      rw [hSlice] at hLess hDigits
      refine ⟨rfl, hLess, ?_⟩
      rw [← hDigits, ← drop_drop, take_append_drop]

/-- What the parser reads and tests before it stores anything. -/
def readCode (s : Bytes) : Except ChipError ManualCode := do
  let rep ← checkDecimalStringValidity s
  let (chunk1, stringOffset) ← readDigitsFromDecimalString rep 0 kManualSetupCodeChunk1CharLength
  let (chunk2, stringOffset) ← readDigitsFromDecimalString rep stringOffset kManualSetupCodeChunk2CharLength
  let (chunk3, stringOffset) ← readDigitsFromDecimalString rep stringOffset kManualSetupCodeChunk3CharLength
  check (¬(chunk1 = 8 ∨ chunk1 = 9)) .invalidArgument
  let isLongCode : Bool := (chunk1 >>> kManualSetupChunk1VidPidPresentBitPos) &&& 1 = 1
  checkCodeLengthValidity rep isLongCode
  check (setUpPINCodeOf chunk2 chunk3 ≠ 0) .invalidArgument
  if isLongCode then do
    let (vendorID, stringOffset) ← readDigitsFromDecimalString rep stringOffset kManualSetupVendorIdCharLength
    let (productID, _) ← readDigitsFromDecimalString rep stringOffset kManualSetupProductIdCharLength
    pure ⟨chunk1, chunk2, chunk3, some (vendorID, productID)⟩
  else pure ⟨chunk1, chunk2, chunk3, none⟩

theorem discriminator_lt (code : ManualCode) :
  discriminatorOf code.chunk1 code.chunk2 < 2 ^ kShortBits :=
  discriminatorOf_lt _ _

def storeCode (code : ManualCode) : Proc ChipError SetupPayload Unit := do
  match code.ids with
  | some (vendorID, productID) => do
      Proc.verify (vendorID < 2 ^ 16) .invalidIntegerValue
      Proc.modify fun out => { out with vendorID := UInt16.ofNat vendorID }
      Proc.verify (productID < 2 ^ 16) .invalidIntegerValue
      Proc.modify fun out => { out with productID := UInt16.ofNat productID }
  | none => pure ()
  Proc.modify fun out =>
    { out with
      commissioningFlow := if code.ids.isSome then .kCustom else .kStandard
      setUpPINCode := UInt32.ofNat (setUpPINCodeOf code.chunk2 code.chunk3)
      discriminator :=
        .shortValue (discriminatorOf code.chunk1 code.chunk2) (discriminatorOf_lt code.chunk1 code.chunk2) }

variable {α : Type} {out : SetupPayload}

def Stores (m : Proc ChipError SetupPayload Unit) (r : Except ChipError ManualCode) (out : SetupPayload) :
  Prop :=
  m out = match r with
    | .error e => (.error e, out)
    | .ok code => storeCode code out

theorem Stores.lift_bind {r : Except ChipError α} {f : α → Proc ChipError SetupPayload Unit}
  {g : α → Except ChipError ManualCode} (h : ∀ a, Stores (f a) (g a) out) :
  Stores (Proc.lift r >>= f) (r >>= g) out := by
  cases r with
  | error e => rfl
  | ok a => exact h a

theorem Stores.verify_bind {p : Prop} [Decidable p] {e : ChipError}
  {f : Unit → Proc ChipError SetupPayload Unit} {g : Unit → Except ChipError ManualCode}
  (h : Stores (f ()) (g ()) out) : Stores (Proc.verify p e >>= f) (check p e >>= g) out := by
  unfold Stores
  rw [Proc.verify_bind, check]
  by_cases hp : p
  · rw [if_pos hp, if_pos hp]
    exact h
  · rw [if_neg hp, if_neg hp]
    rfl

theorem populatePayload_stores (s : Bytes) (out : SetupPayload) :
  Stores (populatePayload s) (readCode s) out := by
  refine .lift_bind fun rep => .lift_bind fun ⟨chunk1, afterFirst⟩ => .lift_bind fun ⟨chunk2, afterSecond⟩ =>
    .lift_bind fun ⟨chunk3, afterThird⟩ => .verify_bind (.lift_bind fun _ => .verify_bind ?_)
  dsimp only
  generalize hLong : (decide (chunk1 >>> kManualSetupChunk1VidPidPresentBitPos &&& 1 = 1)) = isLongCode
  cases isLongCode with
  | true => exact .lift_bind fun ⟨vendorID, afterVendor⟩ => .lift_bind fun ⟨productID, _⟩ => rfl
  | false => rfl

theorem except_bind_eq_ok {β : Type} {r : Except ChipError α} {f : α → Except ChipError β} {b : β} :
  r >>= f = .ok b ↔ ∃ a, r = .ok a ∧ f a = .ok b := by
  cases r with
  | error e => simp [bind, Except.bind]
  | ok a => simp [bind, Except.bind]

theorem check_eq_ok {p : Prop} [Decidable p] {e : ChipError} {u : Unit} : check p e = .ok u ↔ p := by
  rw [check]
  split <;> simp_all

theorem checkDecimalStringValidity_eq_ok {rep : Bytes} :
  checkDecimalStringValidity s = .ok rep ↔ rep ≠ [] ∧ s = rep ++ [computeCheckChar (cString rep)] := by
  rw [checkDecimalStringValidity]
  constructor
  · intro h
    split at h
    case isTrue => cases h
    case isFalse hLength =>
      obtain ⟨body, c, rfl⟩ := (eq_nil_or_concat s).resolve_left (by rintro rfl; exact hLength (by decide))
      rw [concat_eq_append] at h hLength ⊢
      rw [length_append, length_singleton] at hLength
      simp only [length_append, length_singleton, Nat.add_sub_cancel, take_left,
        getLastD_concat] at h
      split at h
      case isTrue hValid =>
        cases h
        rw [validateCheckChar, beq_iff_eq] at hValid
        exact ⟨by rintro rfl; exact hLength (by decide), by rw [hValid]⟩
      case isFalse => cases h
  · rintro ⟨hNonempty, rfl⟩
    have hPos := length_pos_iff.mpr hNonempty
    rw [if_neg (by rw [length_append, length_singleton]; omega)]
    simp [validateCheckChar]

theorem checkCodeLengthValidity_eq_ok {rep : Bytes} {isLongCode : Bool} {u : Unit} :
  checkCodeLengthValidity rep isLongCode = .ok u ↔
    rep.length = if isLongCode then kManualSetupLongCodeCharLength else kManualSetupShortCodeCharLength := by
  rw [checkCodeLengthValidity]
  split <;> simp_all

theorem isLongCode_iff {chunk1 : Nat} (h : chunk1 < 8) :
  chunk1 >>> kManualSetupChunk1VidPidPresentBitPos &&& 1 = 1 ↔ 4 ≤ chunk1 := by
  interval_cases chunk1 <;> decide

end ManualSetupPayloadParser

namespace ManualCode

open ManualSetupPayloadParser

variable {code : ManualCode}

theorem digits_isDigit (code : ManualCode) : ∀ ch ∈ code.digits, IsDigit ch := by
  intro ch hMem
  rw [digits] at hMem
  rcases mem_append.mp hMem with hChunks | hIds
  · rcases mem_append.mp hChunks with hFirst | hThird
    · rcases mem_append.mp hFirst with hFirst | hSecond
      · exact decimalDigits_isDigit _ _ ch hFirst
      · exact decimalDigits_isDigit _ _ ch hSecond
    · exact decimalDigits_isDigit _ _ ch hThird
  · match hCode : code.ids with
    | none => simp [hCode, idDigits] at hIds
    | some (vendorID, productID) =>
      rw [hCode] at hIds
      rcases mem_append.mp hIds with hVendor | hProduct
      · exact decimalDigits_isDigit _ _ ch hVendor
      · exact decimalDigits_isDigit _ _ ch hProduct

theorem digits_length (code : ManualCode) : code.digits.length =
  if code.ids.isSome then kManualSetupLongCodeCharLength else kManualSetupShortCodeCharLength := by
  match hCode : code.ids with
  | none => simp [digits, idDigits, hCode, decimalDigits_length]; rfl
  | some (vendorID, productID) => simp [digits, idDigits, hCode, decimalDigits_length]; rfl

theorem WellFormed.readCode (h : code.WellFormed) : readCode code.string = .ok code := by
  have hCheck : checkDecimalStringValidity code.string = .ok code.digits := by
    refine checkDecimalStringValidity_eq_ok.mpr ⟨?_, by rw [cString_digits (digits_isDigit _), string]⟩
    refine length_pos_iff.mp ?_
    rw [digits_length]
    split <;> decide
  obtain ⟨chunk1, chunk2, chunk3, ids⟩ := code
  have hLong := h.long
  have hFirst := readDigits_append [] (decimalDigits 5 chunk2 ++ decimalDigits 4 chunk3 ++ idDigits ids)
    (show 1 ≤ 9 by decide) (h.chunk1.trans (by decide))
  have hSecond := readDigits_append (decimalDigits 1 chunk1) (decimalDigits 4 chunk3 ++ idDigits ids)
    (show 5 ≤ 9 by decide) h.chunk2
  have hThird := readDigits_append (decimalDigits 1 chunk1 ++ decimalDigits 5 chunk2) (idDigits ids)
    (show 4 ≤ 9 by decide) h.chunk3
  simp only [nil_append, length_nil, length_append, decimalDigits_length] at hFirst hSecond hThird
  have hDigits : digits ⟨chunk1, chunk2, chunk3, ids⟩ =
      decimalDigits 1 chunk1 ++ decimalDigits 5 chunk2 ++ decimalDigits 4 chunk3 ++ idDigits ids := rfl
  have hLength := checkCodeLengthValidity_eq_ok (u := ()).mpr (digits_length ⟨chunk1, chunk2, chunk3, ids⟩)
  rw [hDigits] at hCheck hLength
  simp only [← append_assoc] at hFirst hSecond
  refine except_bind_eq_ok.mpr ⟨_, hCheck, except_bind_eq_ok.mpr ⟨_, hFirst, except_bind_eq_ok.mpr ⟨_, hSecond,
    except_bind_eq_ok.mpr ⟨_, hThird, except_bind_eq_ok.mpr ⟨(), check_eq_ok.mpr ?_, ?_⟩⟩⟩⟩⟩
  · have := h.chunk1
    dsimp only at this ⊢
    omega
  · have hFlag : (decide (chunk1 >>> kManualSetupChunk1VidPidPresentBitPos &&& 1 = 1)) = ids.isSome := by
      rw [Bool.eq_iff_iff, decide_eq_true_iff, isLongCode_iff h.chunk1]
      exact hLong
    dsimp only
    rw [hFlag]
    refine except_bind_eq_ok.mpr ⟨(), hLength, except_bind_eq_ok.mpr ⟨(), check_eq_ok.mpr h.pin, ?_⟩⟩
    cases ids with
    | none => exact if_neg (by simp)
    | some pair =>
      obtain ⟨vendorID, productID⟩ := pair
      obtain ⟨hVendorLess, hProductLess⟩ := h.ids vendorID productID rfl
      have hVendor := readDigits_append (decimalDigits 1 chunk1 ++ decimalDigits 5 chunk2 ++ decimalDigits 4 chunk3)
        (decimalDigits 5 productID) (show 5 ≤ 9 by decide) hVendorLess
      have hProduct := readDigits_append (decimalDigits 1 chunk1 ++ decimalDigits 5 chunk2 ++
        decimalDigits 4 chunk3 ++ decimalDigits 5 vendorID) [] (show 5 ≤ 9 by decide) hProductLess
      simp only [length_append, decimalDigits_length, append_nil] at hVendor hProduct
      simp only [idDigits, ← append_assoc]
      rw [if_pos (by simp)]
      exact except_bind_eq_ok.mpr ⟨_, hVendor, except_bind_eq_ok.mpr ⟨_, hProduct, rfl⟩⟩

theorem wellFormed_of_readCode (h : ManualSetupPayloadParser.readCode s = .ok code) :
  code.WellFormed ∧ s = code.string := by
  obtain ⟨rep, hCheck, h⟩ := except_bind_eq_ok.mp h
  obtain ⟨⟨chunk1, o1⟩, hFirst, h⟩ := except_bind_eq_ok.mp h
  obtain ⟨⟨chunk2, o2⟩, hSecond, h⟩ := except_bind_eq_ok.mp h
  obtain ⟨⟨chunk3, o3⟩, hThird, h⟩ := except_bind_eq_ok.mp h
  obtain ⟨⟨⟩, hNew, h⟩ := except_bind_eq_ok.mp h
  obtain ⟨⟨⟩, hLength, h⟩ := except_bind_eq_ok.mp h
  obtain ⟨⟨⟩, hPin, h⟩ := except_bind_eq_ok.mp h
  obtain ⟨hNonempty, rfl⟩ := checkDecimalStringValidity_eq_ok.mp hCheck
  obtain ⟨rfl, hLess1, hDigits1⟩ := readDigits_eq_ok (by decide) hFirst
  obtain ⟨rfl, hLess2, hDigits2⟩ := readDigits_eq_ok (by decide) hSecond
  obtain ⟨rfl, hLess3, hDigits3⟩ := readDigits_eq_ok (by decide) hThird
  have hEight : chunk1 < 8 := by
    have hTen : chunk1 < 10 := hLess1
    have := check_eq_ok.mp hNew
    omega
  have hLengthEq := checkCodeLengthValidity_eq_ok.mp hLength
  have hRep : rep = decimalDigits 1 chunk1 ++ decimalDigits 5 chunk2 ++ decimalDigits 4 chunk3 ++ rep.drop 10 := by
    calc rep = rep.drop 0 := rfl
      _ = _ := by
        rw [hDigits1, hDigits2, hDigits3]
        simp only [append_assoc]
        rfl
  by_cases hLong : 4 ≤ chunk1
  · have hFlag := (isLongCode_iff hEight).mpr hLong
    simp only [hFlag, decide_true, if_true] at h hLengthEq
    obtain ⟨⟨vendorID, o4⟩, hVendor, h⟩ := except_bind_eq_ok.mp h
    obtain ⟨⟨productID, o5⟩, hProduct, h⟩ := except_bind_eq_ok.mp h
    cases h
    obtain ⟨rfl, hLess4, hDigits4⟩ := readDigits_eq_ok (by decide) hVendor
    obtain ⟨rfl, hLess5, hDigits5⟩ := readDigits_eq_ok (by decide) hProduct
    have hWhole : rep = digits ⟨chunk1, chunk2, chunk3, some (vendorID, productID)⟩ := by
      have hEnd : rep.drop (0 + 1 + 5 + 4 + 5 + 5) = [] := drop_eq_nil_of_le hLengthEq.le
      have hIds : rep.drop 10 = idDigits (some (vendorID, productID)) := by
        refine hDigits4.trans (congrArg _ (hDigits5.trans ?_))
        exact (congrArg _ hEnd).trans (append_nil _)
      rw [hIds] at hRep
      exact hRep
    refine ⟨⟨hEight, hLess2, hLess3, iff_of_true hLong rfl, ?_, check_eq_ok.mp hPin⟩, ?_⟩
    · rintro _ _ ⟨rfl, rfl⟩
      exact ⟨hLess4, hLess5⟩
    · rw [hWhole, cString_digits (digits_isDigit _), string]
  · have hFlag := mt (isLongCode_iff hEight).mp hLong
    simp only [hFlag, decide_false, Bool.false_eq_true, if_false] at h hLengthEq
    cases h
    have hWhole : rep = digits ⟨chunk1, chunk2, chunk3, none⟩ := by
      have hEnd : rep.drop 10 = [] := drop_eq_nil_of_le hLengthEq.le
      rw [hEnd] at hRep
      exact hRep
    refine ⟨⟨hEight, hLess2, hLess3, iff_of_false hLong (by simp), by simp, check_eq_ok.mp hPin⟩, ?_⟩
    rw [hWhole, cString_digits (digits_isDigit _), string]

theorem readCode_eq_ok :
  ManualSetupPayloadParser.readCode s = .ok code ↔ code.WellFormed ∧ s = code.string := by
  constructor
  · exact wellFormed_of_readCode
  · rintro ⟨hWellFormed, rfl⟩
    exact hWellFormed.readCode

end ManualCode

end Chip.SetupPayload
