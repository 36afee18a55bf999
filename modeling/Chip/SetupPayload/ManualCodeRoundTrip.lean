import Chip.SetupPayload.ManualCodeGrammar

/-! The generator and the parser of manual codes undo each other. -/
namespace Chip.SetupPayload

open List ManualCode ManualSetupPayloadGenerator Proc Verhoeff10 ManualSetupPayloadParser

variable {payload : PayloadContents} {code : ManualCode} {s : Bytes} {out : SetupPayload}

theorem chunk1PayloadRepresentation_eq (payload : PayloadContents) :
  chunk1PayloadRepresentation payload =
    (if payload.commissioningFlow ≠ .kStandard then 1 else 0) * 2 ^ 2 +
      payload.discriminator.getShortValue / 4 := by
  have hRange : payload.discriminator.getShortValue < 16 := payload.discriminator.getShortValue_lt
  have hLow : lowBits 2 (payload.discriminator.getShortValue >>> 2) = payload.discriminator.getShortValue / 4 := by
    rw [lowBits_eq, Nat.shiftRight_eq_div_pow]
    omega
  have hLess : payload.discriminator.getShortValue / 4 < 2 ^ 2 := by omega
  calc chunk1PayloadRepresentation payload
      = lowBits 2 (payload.discriminator.getShortValue >>> 2) |||
          ((if payload.commissioningFlow ≠ .kStandard then 1 else 0) <<< 2) := rfl
    _ = _ := by rw [hLow, shiftLeft_or _ hLess]

theorem chunk2PayloadRepresentation_eq (payload : PayloadContents) : chunk2PayloadRepresentation payload =
  payload.discriminator.getShortValue % 4 * 2 ^ 14 + payload.setUpPINCode.toNat % 2 ^ 14 := by
  have hLow : payload.setUpPINCode.toNat % 2 ^ 14 < 2 ^ 14 := Nat.mod_lt _ (by decide)
  rw [chunk2PayloadRepresentation, lowBits_eq, lowBits_eq]
  exact shiftLeft_or _ hLow

theorem chunk3PayloadRepresentation_eq (payload : PayloadContents) :
  chunk3PayloadRepresentation payload = payload.setUpPINCode.toNat / 2 ^ 14 % 2 ^ 13 := by
  rw [chunk3PayloadRepresentation, lowBits_eq, Nat.shiftRight_eq_div_pow]
  rfl

def ManualCode.ofPayload (payload : PayloadContents) : ManualCode where
  chunk1 := chunk1PayloadRepresentation payload
  chunk2 := chunk2PayloadRepresentation payload
  chunk3 := chunk3PayloadRepresentation payload
  ids := if payload.commissioningFlow ≠ .kStandard then
      some (payload.vendorID.toNat, payload.productID.toNat) else none

theorem decimalStringWithPadding_eq {len n : Nat} (h : n < 10 ^ len) :
  decimalStringWithPadding len n = .ok (decimalDigits len n) := if_pos h

theorem decimalDigits_value {ch : UInt8} (h : IsDigit ch) : decimalDigits 1 (value ch) = [ch] := by
  have hLess : value ch < 10 := value_lt h
  have hLow : 48 ≤ ch.toNat := UInt8.le_iff_toNat_le.mp h.1
  rw [decimalDigits, decimalDigits, Nat.mod_eq_of_lt hLess, value, Nat.add_sub_cancel' hLow, UInt8.ofNat_toNat,
    nil_append]

theorem toDecimalString_eq {g : ManualSetupPayloadGenerator} (hValid : g.mPayloadContents.isValidManualCode = true)
  (hLong : g.mForceShortCode = false) :
  g.toDecimalString = .ok (ofPayload g.mPayloadContents).string := by
  obtain ⟨payload, allow, force⟩ := g
  dsimp only at hValid hLong
  subst hLong
  have hRange : payload.discriminator.getShortValue < 16 := payload.discriminator.getShortValue_lt
  have hVendor : payload.vendorID.toNat < 2 ^ 16 := payload.vendorID.toNat_lt
  have hProduct : payload.productID.toNat < 2 ^ 16 := payload.productID.toNat_lt
  have hChunk1 : chunk1PayloadRepresentation payload < 10 ^ kManualSetupCodeChunk1CharLength := by
    rw [chunk1PayloadRepresentation_eq, kManualSetupCodeChunk1CharLength]
    split <;> omega
  have hChunk2 : chunk2PayloadRepresentation payload < 10 ^ kManualSetupCodeChunk2CharLength := by
    rw [chunk2PayloadRepresentation_eq, kManualSetupCodeChunk2CharLength]
    omega
  have hChunk3 : chunk3PayloadRepresentation payload < 10 ^ kManualSetupCodeChunk3CharLength := by
    rw [chunk3PayloadRepresentation_eq, kManualSetupCodeChunk3CharLength]
    omega
  have hCheck := (computeCheckChar_digits (digits_isDigit (.ofPayload payload))).1
  have hLast : decimalStringWithPadding 1 ((charToVal (computeCheckChar
      (cString (ofPayload payload).digits))).getD (2 ^ 32 - 1)) =
        .ok [computeCheckChar (ofPayload payload).digits] := by
    rw [cString_digits (digits_isDigit _), charToVal_digit hCheck, Option.getD_some,
      decimalStringWithPadding_eq (value_lt hCheck), decimalDigits_value hCheck]
  have hIds : vidPidRepresentation payload
      (payload.commissioningFlow ≠ .kStandard ∧ ¬false = true : Bool) =
        .ok (idDigits (ofPayload payload).ids) := by
    rw [vidPidRepresentation, ofPayload]
    by_cases hFlow : payload.commissioningFlow = .kStandard
    · simp [hFlow, idDigits]
    · rw [if_pos (by simpa using hFlow)]
      simp only [ne_eq, hFlow, not_false_eq_true, if_true]
      exact except_bind_eq_ok.mpr ⟨_, decimalStringWithPadding_eq (hVendor.trans (by decide)),
        except_bind_eq_ok.mpr ⟨_, decimalStringWithPadding_eq (hProduct.trans (by decide)), rfl⟩⟩
  refine except_bind_eq_ok.mpr ⟨(), check_eq_ok.mpr (.inr hValid), except_bind_eq_ok.mpr ⟨(), check_eq_ok.mpr ?_,
    except_bind_eq_ok.mpr ⟨_, decimalStringWithPadding_eq hChunk1, except_bind_eq_ok.mpr
      ⟨_, decimalStringWithPadding_eq hChunk2, except_bind_eq_ok.mpr ⟨_, decimalStringWithPadding_eq hChunk3,
        except_bind_eq_ok.mpr ⟨_, hIds, except_bind_eq_ok.mpr ⟨_, hLast, rfl⟩⟩⟩⟩⟩⟩⟩
  rintro (⟨-, hSize⟩ | ⟨-, hSize⟩)
  · exact absurd hSize (by decide)
  · exact absurd hSize (by decide)

def ManualCode.stored (code : ManualCode) (out : SetupPayload) : SetupPayload :=
  { out with
    vendorID := match code.ids with | none => out.vendorID | some ids => UInt16.ofNat ids.1
    productID := match code.ids with | none => out.productID | some ids => UInt16.ofNat ids.2
    commissioningFlow := if code.ids.isSome then .kCustom else .kStandard
    setUpPINCode := UInt32.ofNat (setUpPINCodeOf code.chunk2 code.chunk3)
    discriminator :=
      .shortValue (discriminatorOf code.chunk1 code.chunk2) (discriminator_lt code) }

def ManualCode.IdsFit (code : ManualCode) : Prop :=
  ∀ vendorID productID, code.ids = some (vendorID, productID) → vendorID < 2 ^ 16 ∧ productID < 2 ^ 16

theorem storeCode_none (h : code.ids = none) : storeCode code out = (.ok (), code.stored out) := by
  obtain ⟨chunk1, chunk2, chunk3, ids⟩ := code
  cases h
  rfl

theorem storeCode_some {vendorID productID : Nat} (h : code.ids = some (vendorID, productID)) :
  storeCode code out =
    if vendorID < 2 ^ 16 then
      if productID < 2 ^ 16 then (.ok (), code.stored out)
      else (.error .invalidIntegerValue, { out with vendorID := UInt16.ofNat vendorID })
    else (.error .invalidIntegerValue, out) := by
  obtain ⟨chunk1, chunk2, chunk3, ids⟩ := code
  cases h
  by_cases hVendor : vendorID < 2 ^ 16
  · by_cases hProduct : productID < 2 ^ 16
    · simp only [storeCode, bind_apply, verify_apply, modify_apply, if_pos hVendor, if_pos hProduct]
      rfl
    · simp only [storeCode, bind_apply, verify_apply, modify_apply, if_pos hVendor, if_neg hProduct]
  · simp only [storeCode, bind_apply, verify_apply, if_neg hVendor]

theorem storeCode_fit (h : code.IdsFit) (out : SetupPayload) : storeCode code out = (.ok (), code.stored out) := by
  match hIds : code.ids with
  | none => exact storeCode_none hIds
  | some (vendorID, productID) =>
    obtain ⟨hVendor, hProduct⟩ := h vendorID productID hIds
    rw [storeCode_some hIds, if_pos hVendor, if_pos hProduct]

variable {q : SetupPayload}

theorem storeCode_eq_ok {u : Unit} (h : storeCode code out = (.ok u, q)) :
  code.IdsFit ∧ q = code.stored out := by
  have hFit : code.IdsFit := by
    intro vendorID productID hIds
    rw [storeCode_some hIds] at h
    by_cases hVendor : vendorID < 2 ^ 16
    · rw [if_pos hVendor] at h
      by_cases hProduct : productID < 2 ^ 16
      · exact ⟨hVendor, hProduct⟩
      · rw [if_neg hProduct] at h
        cases h
    · rw [if_neg hVendor] at h
      cases h
  rw [storeCode_fit hFit] at h
  cases h
  exact ⟨hFit, rfl⟩

theorem populatePayload_eq_ok {u : Unit} :
  populatePayload s out = (.ok u, q) ↔
    ∃ code, ManualCode.WellFormed code ∧ s = code.string ∧ code.IdsFit ∧ q = code.stored out := by
  have hStores := populatePayload_stores s out
  unfold Stores at hStores
  rw [hStores]
  constructor
  · intro h
    cases hRead : readCode s with
    | error e => simp [hRead] at h
    | ok code =>
      rw [hRead] at h
      obtain ⟨hWellFormed, hString⟩ := readCode_eq_ok.mp hRead
      obtain ⟨hFit, hStored⟩ := storeCode_eq_ok h
      exact ⟨code, hWellFormed, hString, hFit, hStored⟩
  · rintro ⟨code, hWellFormed, hString, hFit, rfl⟩
    rw [readCode_eq_ok.mpr ⟨hWellFormed, hString⟩]
    exact storeCode_fit hFit out

theorem isValidManualCode_pin (h : payload.isValidManualCode = true) :
  payload.setUpPINCode.toNat < 2 ^ 27 ∧ payload.setUpPINCode ≠ 0 := by
  have hValid : payload.setUpPINCode.toNat < 1 <<< kSetupPINCodeFieldLengthInBits ∧
      payload.checkPayloadCommonConstraints := of_decide_eq_true h
  have hCommon := of_decide_eq_true hValid.2
  refine ⟨hValid.1, fun hZero => ?_⟩
  have hPin := hCommon.2.1
  rw [hZero] at hPin
  exact absurd hPin (by decide)

theorem pin_ofPayload (h : payload.setUpPINCode.toNat < 2 ^ 27) :
  setUpPINCodeOf (chunk2PayloadRepresentation payload) (chunk3PayloadRepresentation payload) =
    payload.setUpPINCode.toNat := by
  rw [setUpPINCodeOf_eq, chunk2PayloadRepresentation_eq, chunk3PayloadRepresentation_eq]
  omega

theorem discriminator_ofPayload (payload : PayloadContents) :
  discriminatorOf (chunk1PayloadRepresentation payload) (chunk2PayloadRepresentation payload) =
    payload.discriminator.getShortValue := by
  have hRange : payload.discriminator.getShortValue < 16 := payload.discriminator.getShortValue_lt
  rw [discriminatorOf_eq, chunk1PayloadRepresentation_eq, chunk2PayloadRepresentation_eq]
  omega

theorem wellFormed_ofPayload (h : payload.isValidManualCode = true) :
  (ofPayload payload).WellFormed ∧ (ofPayload payload).IdsFit := by
  have hRange : payload.discriminator.getShortValue < 16 := payload.discriminator.getShortValue_lt
  have hVendor : payload.vendorID.toNat < 2 ^ 16 := payload.vendorID.toNat_lt
  have hProduct : payload.productID.toNat < 2 ^ 16 := payload.productID.toNat_lt
  obtain ⟨hPin, hNotZero⟩ := isValidManualCode_pin h
  have hFit : (ofPayload payload).IdsFit := by
    intro vendorID productID hIds
    dsimp only [ofPayload] at hIds
    split at hIds
    · cases hIds
      exact ⟨hVendor, hProduct⟩
    · cases hIds
  have hTen : 2 ^ 16 < 10 ^ 5 := by decide
  refine ⟨⟨?_, ?_, ?_, ?_, fun vendorID productID hIds => ?_, ?_⟩, hFit⟩
  · dsimp only [ofPayload]
    rw [chunk1PayloadRepresentation_eq]
    split <;> omega
  · dsimp only [ofPayload]
    rw [chunk2PayloadRepresentation_eq, kManualSetupCodeChunk2CharLength]
    omega
  · dsimp only [ofPayload]
    rw [chunk3PayloadRepresentation_eq, kManualSetupCodeChunk3CharLength]
    omega
  · dsimp only [ofPayload]
    rw [chunk1PayloadRepresentation_eq]
    split
    · exact iff_of_true (by omega) rfl
    · exact iff_of_false (by omega) (by simp)
  · obtain ⟨hLessVendor, hLessProduct⟩ := hFit vendorID productID hIds
    exact ⟨hLessVendor.trans hTen, hLessProduct.trans hTen⟩
  · dsimp only [ofPayload]
    rw [pin_ofPayload hPin]
    exact fun hZero => hNotZero (UInt32.toNat_inj.mp hZero)

/-- The numbers of the second and the third chunk fit in their bits. -/
def ManualCode.ChunksFit (code : ManualCode) : Prop := code.chunk2 < 2 ^ 16 ∧ code.chunk3 < 2 ^ 13

theorem ofPayload_stored (h : code.WellFormed) (hFit : code.IdsFit) (hChunks : code.ChunksFit) :
  ManualCode.ofPayload (code.stored out).toPayloadContents = code := by
  obtain ⟨chunk1, chunk2, chunk3, ids⟩ := code
  obtain ⟨hLess2, hLess3⟩ := hChunks
  have hEight := h.chunk1
  have hLong := h.long
  dsimp only at hLess2 hLess3 hEight hLong
  have hPin := setUpPINCodeOf_eq chunk2 chunk3
  have hPinNat : (UInt32.ofNat (setUpPINCodeOf chunk2 chunk3)).toNat = setUpPINCodeOf chunk2 chunk3 := by
    rw [UInt32.toNat_ofNat']
    omega
  have hShort := discriminatorOf_eq chunk1 chunk2
  have hFlow : (if ids.isSome then CommissioningFlow.kCustom else .kStandard) ≠ .kStandard ↔ ids.isSome := by
    cases ids <;> simp
  rw [ManualCode.ofPayload, ManualCode.mk.injEq, chunk1PayloadRepresentation_eq, chunk2PayloadRepresentation_eq,
    chunk3PayloadRepresentation_eq]
  simp only [ManualCode.stored, SetupDiscriminator.getShortValue_shortValue, hPinNat, hFlow]
  refine ⟨?_, by omega, by omega, ?_⟩
  · split
    case isTrue hSome =>
      have := hLong.mpr hSome
      omega
    case isFalse hNone =>
      have := mt hLong.mp hNone
      omega
  · cases ids with
    | none => rfl
    | some pair =>
      obtain ⟨vendorID, productID⟩ := pair
      obtain ⟨hVendor, hProduct⟩ := hFit vendorID productID rfl
      simp only [Option.isSome_some, if_true, UInt16.toNat_ofNat']
      rw [Nat.mod_eq_of_lt hVendor, Nat.mod_eq_of_lt hProduct]

theorem init_string (code : ManualCode) : init code.string = code.string := by
  refine filter_eq_self.mpr fun ch hMem => ?_
  have hDigit : IsDigit ch := by
    rcases mem_append.mp hMem with hBody | hLast
    · exact code.digits_isDigit ch hBody
    · exact mem_singleton.mp hLast ▸ (computeCheckChar_digits code.digits_isDigit).1
  exact decide_eq_true (by rintro rfl; exact absurd hDigit (by decide))

/-- The digits after the first one make a number of 16 bits, and the four after these one of 13. -/
def BitsFit (s : Bytes) : Prop :=
  (∀ n, toNumber ((s.drop 1).take 5) = .ok n → n < 2 ^ 16) ∧
    ∀ n, toNumber ((s.drop 6).take 4) = .ok n → n < 2 ^ 13

theorem chunksFit_of_bitsFit (h : code.WellFormed) (hBits : BitsFit code.string) : code.ChunksFit := by
  obtain ⟨chunk1, chunk2, chunk3, ids⟩ := code
  have hString : string ⟨chunk1, chunk2, chunk3, ids⟩ = decimalDigits 1 chunk1 ++
      (decimalDigits 5 chunk2 ++ (decimalDigits 4 chunk3 ++ (idDigits ids ++
        [computeCheckChar (digits ⟨chunk1, chunk2, chunk3, ids⟩)]))) := by
    simp only [string, digits, append_assoc]
    rfl
  rw [hString] at hBits
  refine ⟨hBits.1 chunk2 ?_, hBits.2 chunk3 ?_⟩
  · rw [drop_left' (decimalDigits_length 1 chunk1), take_left' (decimalDigits_length 5 chunk2)]
    exact toNumber_decimalDigits (by decide) h.chunk2
  · rw [← append_assoc, drop_left' (by simp [decimalDigits_length]),
      take_left' (decimalDigits_length 4 chunk3)]
    exact toNumber_decimalDigits (by decide) h.chunk3

theorem parse_generated {g : ManualSetupPayloadGenerator} (hValid : g.mPayloadContents.isValidManualCode = true)
  (hLong : g.mForceShortCode = false) :
  ∃ s, g.toDecimalString = .ok s ∧ ∀ out, ∃ q, populatePayload (init s) out = (.ok (), q) ∧
    q.discriminator.getShortValue = g.mPayloadContents.discriminator.getShortValue ∧
    q.setUpPINCode = g.mPayloadContents.setUpPINCode ∧
    (q.commissioningFlow = .kStandard ↔ g.mPayloadContents.commissioningFlow = .kStandard) ∧
    (g.mPayloadContents.commissioningFlow ≠ .kStandard →
      q.vendorID = g.mPayloadContents.vendorID ∧ q.productID = g.mPayloadContents.productID) := by
  obtain ⟨hPin, -⟩ := isValidManualCode_pin hValid
  obtain ⟨hWellFormed, hFit⟩ := wellFormed_ofPayload hValid
  refine ⟨_, toDecimalString_eq hValid hLong, fun out =>
    ⟨(ofPayload g.mPayloadContents).stored out, ?_, ?_, ?_, ?_, fun hFlow => ?_⟩⟩
  · exact populatePayload_eq_ok.mpr ⟨_, hWellFormed, init_string _, hFit, rfl⟩
  · exact discriminator_ofPayload _
  · dsimp only [stored, ofPayload]
    rw [pin_ofPayload hPin, UInt32.ofNat_toNat]
  · dsimp only [stored, ofPayload]
    by_cases hFlow : g.mPayloadContents.commissioningFlow = .kStandard <;> simp [hFlow]
  · dsimp only [stored, ofPayload]
    simp [hFlow]

theorem generate_parsed (hParsed : populatePayload (init s) out = (.ok (), q))
  (hValid : q.toPayloadContents.isValidManualCode = true) (hBits : BitsFit (init s)) :
  toDecimalString ⟨q.toPayloadContents, false, false⟩ = .ok (init s) := by
  obtain ⟨code, hWellFormed, hString, hFit, rfl⟩ := populatePayload_eq_ok.mp hParsed
  rw [hString] at hBits ⊢
  rw [toDecimalString_eq hValid rfl, ofPayload_stored hWellFormed hFit (chunksFit_of_bitsFit hWellFormed hBits)]

/-- The code of a valid payload is parsed to that payload, and a code whose numbers fit in their bits
and that is parsed to a valid payload is, without its dashes, the code of that payload. -/
theorem manual_codes_round_trip :
    (∀ g : ManualSetupPayloadGenerator, g.mPayloadContents.isValidManualCode = true → g.mForceShortCode = false →
      ∃ s, g.toDecimalString = .ok s ∧ ∀ out, ∃ q, populatePayload (init s) out = (.ok (), q) ∧
        q.discriminator.getShortValue = g.mPayloadContents.discriminator.getShortValue ∧
        q.setUpPINCode = g.mPayloadContents.setUpPINCode ∧
        (q.commissioningFlow = .kStandard ↔ g.mPayloadContents.commissioningFlow = .kStandard) ∧
        (g.mPayloadContents.commissioningFlow ≠ .kStandard →
          q.vendorID = g.mPayloadContents.vendorID ∧ q.productID = g.mPayloadContents.productID)) ∧
    (∀ s out q, populatePayload (init s) out = (.ok (), q) → q.toPayloadContents.isValidManualCode = true →
      BitsFit (init s) →
        ManualSetupPayloadGenerator.toDecimalString ⟨q.toPayloadContents, false, false⟩ = .ok (init s)) ∧
    ∀ s s' out out' q, populatePayload (init s) out = (.ok (), q) → populatePayload (init s') out' = (.ok (), q) →
      q.toPayloadContents.isValidManualCode = true → BitsFit (init s) → BitsFit (init s') → init s = init s' := by
  refine ⟨fun g hValid hLong => parse_generated hValid hLong,
    fun s out q hParsed hValid hBits => generate_parsed hParsed hValid hBits,
    fun s s' out out' q hParsed hParsed' hValid hBits hBits' => ?_⟩
  have hSame := (generate_parsed hParsed hValid hBits).symm.trans (generate_parsed hParsed' hValid hBits')
  exact Except.ok.inj hSame

/-- `"34970112332"`, the code of the PIN 20202021 and the discriminator 3840. -/
def sampleCode : Bytes := [51, 52, 57, 55, 48, 49, 49, 50, 51, 51, 50]

/-- `"3497-011-2332"`. -/
def dashedCode : Bytes := [51, 52, 57, 55, 45, 48, 49, 49, 45, 50, 51, 51, 50]

def sampleNumbers : ManualCode := ⟨3, 49701, 1233, none⟩

theorem sampleNumbers_wellFormed : sampleNumbers.WellFormed where
  chunk1 := by decide
  chunk2 := by decide
  chunk3 := by decide
  long := by decide
  ids := by
    intro vendorID productID hNone
    cases hNone
  pin := by decide

theorem manual_code_sample :
    ManualSetupPayloadGenerator.toDecimalString
      ⟨{ setUpPINCode := 20202021, discriminator := .shortValue 15 (by decide) }, false, false⟩ =
        .ok (init sampleCode) := by
  have hParsed : populatePayload (init sampleCode) {} =
      (.ok (), { setUpPINCode := 20202021, discriminator := .shortValue 15 (by decide) }) :=
    populatePayload_eq_ok.mpr ⟨_, sampleNumbers_wellFormed, by decide +kernel, (fun _ _ h => by cases h), rfl⟩
  refine manual_codes_round_trip.2.1 _ _ _ hParsed (by decide +kernel) ⟨fun n hNumber => ?_, fun n hNumber => ?_⟩
  · have hChunk : toNumber (((init sampleCode).drop 1).take 5) = .ok 49701 := by decide +kernel
    cases hChunk.symm.trans hNumber
    decide
  · have hChunk : toNumber (((init sampleCode).drop 6).take 4) = .ok 1233 := by decide +kernel
    cases hChunk.symm.trans hNumber
    decide

/-- A code is accepted with dashes in it, and none are generated. -/
theorem dashed_code_is_not_generated :
    ¬∀ s out q, populatePayload (init s) out = (.ok (), q) → q.toPayloadContents.isValidManualCode = true →
      ManualSetupPayloadGenerator.toDecimalString ⟨q.toPayloadContents, false, false⟩ = .ok s := by
  intro h
  have hParsed : populatePayload (init dashedCode) {} =
      (.ok (), { setUpPINCode := 20202021, discriminator := .shortValue 15 (by decide) }) :=
    populatePayload_eq_ok.mpr ⟨_, sampleNumbers_wellFormed, by decide +kernel, (fun _ _ h => by cases h), rfl⟩
  exact absurd (h _ _ _ hParsed (by decide +kernel)) (by decide +kernel)

end Chip.SetupPayload
