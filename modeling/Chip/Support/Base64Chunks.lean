import Chip.Support.Base64RoundTrip

/-! Decoding a string in chunks. A call of the decoder may stop before the end of its chunk, at
a pad character or a character that is not graphic, and the next chunk is decoded all the same. -/
namespace Chip.Base64

open List

variable (alphabet : Alphabet)

def Groups (groups : Bytes) : Prop :=
  groups.length % 4 = 0 ∧ ∀ c ∈ groups, alphabet.charToVal c ≠ 255

/-- At the start of these characters, which is the start of a group, decoding stops. -/
inductive Stops : Bytes → Prop where
  | blank {c : UInt8} {rest : Bytes} (hBlank : isgraph c = false) : Stops (c :: rest)
  | pad3 {c1 c2 : UInt8} {rest : Bytes} (h1 : alphabet.charToVal c1 ≠ 255)
      (h2 : alphabet.charToVal c2 ≠ 255) : Stops (c1 :: c2 :: padChar :: rest)
  | pad4 {c1 c2 c3 : UInt8} {rest : Bytes} (h1 : alphabet.charToVal c1 ≠ 255)
      (h2 : alphabet.charToVal c2 ≠ 255) (h3 : alphabet.charToVal c3 ≠ 255) :
      Stops (c1 :: c2 :: c3 :: padChar :: rest)

/-- No chunk behind the place at which decoding stops begins with a graphic character. -/
def NothingBehind (s : Bytes) : Prop :=
  ∀ groups tail, s = groups ++ tail → Groups alphabet groups → Stops alphabet tail →
    ∀ k c, groups.length < 65532 * k → s[65532 * k]? = some c → isgraph c = false

variable {alphabet} {s front back rest groups tail : Bytes} {c1 c2 c3 c4 : UInt8}

theorem Groups.cons (h1 : alphabet.charToVal c1 ≠ 255) (h2 : alphabet.charToVal c2 ≠ 255)
  (h3 : alphabet.charToVal c3 ≠ 255) (h4 : alphabet.charToVal c4 ≠ 255)
  (h : Groups alphabet groups) : Groups alphabet (c1 :: c2 :: c3 :: c4 :: groups) := by
  obtain ⟨hLength, hValid⟩ := h
  refine ⟨by simp only [length_cons]; omega, ?_⟩
  simp only [mem_cons, forall_eq_or_imp]
  exact ⟨h1, h2, h3, h4, hValid⟩

theorem Groups.append (hFront : Groups alphabet front) (hBack : Groups alphabet back) :
  Groups alphabet (front ++ back) := by
  refine ⟨?_, fun c hc => (mem_append.mp hc).elim (hFront.2 c) (hBack.2 c)⟩
  rw [length_append]
  have h1 := hFront.1
  have h2 := hBack.1
  omega

theorem Groups.cases (h : Groups alphabet s) : s = [] ∨ ∃ c1 c2 c3 c4 rest,
  s = c1 :: c2 :: c3 :: c4 :: rest ∧ alphabet.charToVal c1 ≠ 255 ∧ alphabet.charToVal c2 ≠ 255 ∧
    alphabet.charToVal c3 ≠ 255 ∧ alphabet.charToVal c4 ≠ 255 ∧ Groups alphabet rest := by
  obtain ⟨hLength, hValid⟩ := h
  match s, hLength, hValid with
  | [], _, _ => exact .inl rfl
  | [_], hLength, _ => simp at hLength
  | [_, _], hLength, _ => simp at hLength
  | [_, _, _], hLength, _ => simp at hLength
  | c1 :: c2 :: c3 :: c4 :: rest, hLength, hValid =>
    refine .inr ⟨c1, c2, c3, c4, rest, rfl, hValid c1 (by simp), hValid c2 (by simp),
      hValid c3 (by simp), hValid c4 (by simp), ?_, fun c hc => hValid c (by simp [hc])⟩
    simp only [length_cons] at hLength
    omega

theorem Stops.start (hStops : Stops alphabet (c1 :: c2 :: c3 :: c4 :: rest)) :
  isgraph c1 = false ∨ alphabet.charToVal c1 ≠ 255 ∧ alphabet.charToVal c2 ≠ 255 ∧
    (c3 = padChar ∨ alphabet.charToVal c3 ≠ 255 ∧ c4 = padChar) := by
  cases hStops with
  | blank hBlank => exact .inl hBlank
  | pad3 h1 h2 => exact .inr ⟨h1, h2, .inl rfl⟩
  | pad4 h1 h2 h3 => exact .inr ⟨h1, h2, .inr ⟨h3, rfl⟩⟩

theorem not_stops_of_valid (h1 : alphabet.charToVal c1 ≠ 255) (h3 : alphabet.charToVal c3 ≠ 255)
  (h4 : alphabet.charToVal c4 ≠ 255) : ¬Stops alphabet (c1 :: c2 :: c3 :: c4 :: rest) := by
  intro hStops
  have hGraph := alphabet.isgraph_of_valid h1
  have hPad3 := alphabet.ne_padChar h3
  have hPad4 := alphabet.ne_padChar h4
  simpa [hGraph, hPad3, hPad4] using hStops.start

theorem group_cases (alphabet : Alphabet) (c1 c2 c3 c4 : UInt8) :
  (alphabet.charToVal c1 ≠ 255 ∧ alphabet.charToVal c2 ≠ 255 ∧ alphabet.charToVal c3 ≠ 255 ∧
    alphabet.charToVal c4 ≠ 255) ∨
  (∃ out, ∀ rest, Stops alphabet (c1 :: c2 :: c3 :: c4 :: rest) ∧
    base64Decode alphabet.charToVal (c1 :: c2 :: c3 :: c4 :: rest) = some out) ∨
  ∀ rest, ¬Stops alphabet (c1 :: c2 :: c3 :: c4 :: rest) ∧
    base64Decode alphabet.charToVal (c1 :: c2 :: c3 :: c4 :: rest) = none := by
  by_cases hGraph : isgraph c1 = true
  swap
  · refine .inr (.inl ⟨[], fun rest => ⟨.blank (Bool.eq_false_iff.mpr hGraph), ?_⟩⟩)
    rw [base64Decode.eq_def]
    simp [hGraph]
  by_cases hFirst : alphabet.charToVal c1 = 255 ∨ alphabet.charToVal c2 = 255
  · refine .inr (.inr fun rest => ⟨fun hStops => ?_, ?_⟩)
    · rcases hStops.start with hBlank | ⟨h1, h2, -⟩
      · exact Bool.false_ne_true (hBlank.symm.trans hGraph)
      · exact hFirst.elim h1 h2
    · rw [base64Decode.eq_def]
      simp [hGraph, hFirst]
  obtain ⟨h1, h2⟩ := not_or.mp hFirst
  by_cases hPad3 : c3 = padChar
  · subst hPad3
    exact .inr (.inl ⟨_, fun rest => ⟨.pad3 h1 h2, decode_pad3 alphabet h1 h2 _⟩⟩)
  by_cases h3 : alphabet.charToVal c3 = 255
  · refine .inr (.inr fun rest => ⟨fun hStops => ?_, ?_⟩)
    · simpa [hGraph, hPad3, h3] using hStops.start
    · rw [base64Decode.eq_def]
      simp [hGraph, h1, h2, hPad3, h3]
  by_cases hPad4 : c4 = padChar
  · subst hPad4
    exact .inr (.inl ⟨_, fun rest => ⟨.pad4 h1 h2 h3, decode_pad4 alphabet h1 h2 h3 _⟩⟩)
  by_cases h4 : alphabet.charToVal c4 = 255
  · refine .inr (.inr fun rest => ⟨fun hStops => ?_, ?_⟩)
    · simpa [hGraph, hPad3, hPad4] using hStops.start
    · rw [base64Decode.eq_def]
      simp [hGraph, h1, h2, hPad3, h3, hPad4, h4]
  exact .inl ⟨h1, h2, h3, h4⟩

inductive ChunkDoes (alphabet : Alphabet) (front : Bytes) : Prop where
  | decoded (out : Bytes) (hGroups : Groups alphabet front)
      (hDecode : ∀ rest, base64Decode alphabet.charToVal (front ++ rest) =
        (base64Decode alphabet.charToVal rest).map (out ++ ·))
  | stopped (out groups tail : Bytes) (hParts : front = groups ++ tail) (hGroups : Groups alphabet groups)
      (hBefore : groups.length < front.length) (hStops : ∀ rest, Stops alphabet (tail ++ rest))
      (hDecode : ∀ rest, base64Decode alphabet.charToVal (front ++ rest) = some out)
  | refused (hNowhere : ∀ rest groups tail, front ++ rest = groups ++ tail → Groups alphabet groups →
        ¬Stops alphabet tail)
      (hDecode : ∀ rest, base64Decode alphabet.charToVal (front ++ rest) = none)

theorem chunkDoes (alphabet : Alphabet) (m : Nat) (front : Bytes) (hLength : front.length = 4 * m) :
  ChunkDoes alphabet front := by
  induction m generalizing front with
  | zero =>
    obtain rfl := length_eq_zero_iff.mp (hLength.trans (Nat.mul_zero 4))
    refine .decoded [] ⟨rfl, by simp⟩ fun rest => ?_
    cases h : base64Decode alphabet.charToVal rest <;> simp [h]
  | succ m ih =>
    match front, hLength with
    | c1 :: c2 :: c3 :: c4 :: front, hLength =>
      rcases group_cases alphabet c1 c2 c3 c4 with ⟨h1, h2, h3, h4⟩ | ⟨out, hStop⟩ | hRefuse
      · have hStep := decode_group alphabet h1 h2 h3 h4
        have hRest : front.length = 4 * m := by
          simp only [length_cons] at hLength
          omega
        cases ih front hRest with
        | decoded out hGroups hDecode =>
          refine .decoded (groupBytes alphabet.charToVal c1 c2 c3 c4 ++ out)
            (hGroups.cons h1 h2 h3 h4) fun rest => ?_
          simp only [cons_append, hStep, hDecode, Option.map_map]
          congr 1
        | stopped out groups tail hParts hGroups hBefore hStops hDecode =>
          refine .stopped (groupBytes alphabet.charToVal c1 c2 c3 c4 ++ out)
            (c1 :: c2 :: c3 :: c4 :: groups) tail (by rw [hParts]; rfl)
            (hGroups.cons h1 h2 h3 h4) ?_ hStops fun rest => ?_
          · simpa using hBefore
          · simp only [cons_append, hStep, hDecode, Option.map_some]
        | refused hNowhere hDecode =>
          refine .refused (fun rest groups tail hParts hGroups hStops => ?_) fun rest => ?_
          · rcases hGroups.cases with rfl | ⟨_, _, _, _, groups, rfl, -, -, -, -, hInner⟩
            · rw [nil_append] at hParts
              rw [← hParts] at hStops
              exact not_stops_of_valid h1 h3 h4 hStops
            · simp only [cons_append, cons.injEq] at hParts
              exact hNowhere rest groups tail hParts.2.2.2.2 hInner hStops
          · simp only [cons_append, hStep, hDecode, Option.map_none]
      · refine .stopped out [] _ rfl ⟨rfl, by simp⟩ (by simp) (fun rest => (hStop _).1) fun rest => ?_
        exact (hStop _).2
      · refine .refused (fun rest groups tail hParts hGroups hStops => ?_) fun rest => (hRefuse _).2
        rcases hGroups.cases with rfl | ⟨_, _, _, _, groups, rfl, h1, h2, h3, h4, -⟩
        · rw [nil_append] at hParts
          rw [← hParts] at hStops
          exact (hRefuse _).1 hStops
        · simp only [cons_append, cons.injEq] at hParts
          obtain ⟨rfl, rfl, rfl, rfl, -⟩ := hParts
          have hNone := (hRefuse []).2
          rw [decode_group alphabet h1 h2 h3 h4, base64Decode] at hNone
          cases hNone

theorem base64Decode_ne_nil (charToVal : UInt8 → UInt8) (s : Bytes) (hGraph : isgraph c1 = true) :
  s[0]? = some c1 → base64Decode charToVal s ≠ some [] := by
  fun_cases base64Decode charToVal s with
  | case1 => simp
  | case2 in1 rest hBlank =>
    intro hStart
    obtain rfl : in1 = c1 := by simpa using hStart
    simp [hGraph] at hBlank
  | _ => simp

theorem base64Decode_eq_nil_iff : base64Decode alphabet.charToVal s = some [] ↔
  ∀ c, s[0]? = some c → isgraph c = false := by
  cases s with
  | nil => simp [base64Decode]
  | cons c1 rest =>
    by_cases hGraph : isgraph c1 = true
    · simp [base64Decode_ne_nil alphabet.charToVal (c1 :: rest) hGraph rfl, hGraph]
    · rw [base64Decode.eq_def]
      simp [hGraph]

theorem base64Decode32_eq_nil_iff : base64Decode32 alphabet.charToVal s = some [] ↔
  ∀ k c, s[65532 * k]? = some c → isgraph c = false := by
  induction hSize : s.length using Nat.strong_induction_on generalizing s with
  | _ size ih =>
    by_cases hShort : s.length ≤ 65532
    · rw [base64Decode32_short hShort, base64Decode_eq_nil_iff]
      refine ⟨fun h k c hc => ?_, fun h c hc => h 0 c hc⟩
      cases k with
      | zero => exact h c hc
      | succ k =>
        rw [getElem?_eq_none (by omega)] at hc
        cases hc
    · have hFull : (s.take 65532).length = 65532 := by
        rw [length_take]
        omega
      have hMore : s.drop 65532 ≠ [] := by
        rw [← length_pos_iff, length_drop]
        omega
      have hRest := ih _ (by rw [length_drop]; omega) (s := s.drop 65532) rfl
      have hHere : base64Decode32 alphabet.charToVal s = some [] ↔
          base64Decode alphabet.charToVal (s.take 65532) = some [] ∧
            base64Decode32 alphabet.charToVal (s.drop 65532) = some [] := by
        conv_lhs => rw [← take_append_drop 65532 s, base64Decode32_append hFull hMore]
        cases base64Decode alphabet.charToVal (s.take 65532) with
        | none => simp
        | some out => cases base64Decode32 alphabet.charToVal (s.drop 65532) <;> simp
      rw [hHere, base64Decode_eq_nil_iff, hRest, getElem?_take_of_lt (by omega)]
      simp only [getElem?_drop]
      constructor
      · rintro ⟨hFirst, hLater⟩ k c hc
        cases k with
        | zero => exact hFirst c hc
        | succ k => exact hLater k c (by rwa [Nat.mul_succ, Nat.add_comm] at hc)
      · exact fun h => ⟨h 0, fun k c hc => h (k + 1) c (by rwa [Nat.mul_succ, Nat.add_comm])⟩

theorem nothingBehind_append (hFull : front.length = 65532) (hGroups : Groups alphabet front) :
  NothingBehind alphabet (front ++ back) ↔ NothingBehind alphabet back := by
  constructor
  · intro h groups tail hParts hInner hStops k c hk hc
    refine h (front ++ groups) tail (by rw [hParts, append_assoc]) (hGroups.append hInner) hStops
      (k + 1) c ?_ ?_
    · rw [length_append]
      omega
    · rw [getElem?_append_right (by omega), hFull]
      rwa [Nat.mul_succ, Nat.add_sub_cancel]
  · intro h groups tail hParts hInner hStops k c hk hc
    rcases append_eq_append_iff.mp hParts with ⟨inner, hLong, hBack⟩ | ⟨inner, hFront, hTail⟩
    · have hInner' : Groups alphabet inner := by
        refine ⟨?_, fun c hc => hInner.2 c (by rw [hLong]; exact mem_append_right _ hc)⟩
        have h1 := hInner.1
        rw [hLong, length_append] at h1
        omega
      rw [hLong, length_append] at hk
      refine h inner tail hBack hInner' hStops (k - 1) c (by omega) ?_
      rw [getElem?_append_right (by omega), hFull] at hc
      rwa [Nat.mul_sub, Nat.mul_one]
    · -- a stop inside the decoded groups is none
      have hInner' : Groups alphabet inner := by
        refine ⟨?_, fun c hc => hGroups.2 c (by rw [hFront]; exact mem_append_right _ hc)⟩
        have h1 := hInner.1
        rw [hFront, length_append] at hFull
        omega
      rcases hInner'.cases with rfl | ⟨c1, c2, c3, c4, rest, rfl, h1, h2, h3, h4, -⟩
      · obtain rfl : front = groups := by rw [hFront, append_nil]
        obtain rfl : tail = back := by rw [hTail, nil_append]
        refine h [] tail rfl ⟨rfl, by simp⟩ hStops (k - 1) c ?_ ?_
        · rw [length_nil]
          omega
        · rw [getElem?_append_right (by omega), hFull] at hc
          rwa [Nat.mul_sub, Nat.mul_one]
      · rw [hTail] at hStops
        exact absurd hStops (not_stops_of_valid h1 h3 h4)

theorem base64Decode32_eq_iff (alphabet : Alphabet) (s : Bytes) :
  base64Decode32 alphabet.charToVal s = base64Decode alphabet.charToVal s ↔
    NothingBehind alphabet s := by
  induction hSize : s.length using Nat.strong_induction_on generalizing s with
  | _ size ih =>
    by_cases hShort : s.length ≤ 65532
    · rw [base64Decode32_short hShort]
      refine ⟨fun _ groups tail hParts hGroups hStops k c hk hc => ?_, fun _ => rfl⟩
      rw [getElem?_eq_none (by omega)] at hc
      cases hc
    · obtain ⟨front, back, rfl, hFull, hMore⟩ : ∃ front back, s = front ++ back ∧
          front.length = 65532 ∧ back ≠ [] := by
        refine ⟨s.take 65532, s.drop 65532, (take_append_drop ..).symm, ?_, ?_⟩
        · rw [length_take]
          omega
        · rw [← length_pos_iff, length_drop]
          omega
      have hRest := ih _ (by rw [← hSize, length_append]; omega) back rfl
      rw [base64Decode32_append hFull hMore]
      cases chunkDoes alphabet 16383 front hFull with
      | decoded out hGroups hDecode =>
        have hFront := hDecode []
        rw [append_nil, base64Decode, Option.map_some] at hFront
        rw [hDecode, hFront, Option.bind_some, append_nil, nothingBehind_append hFull hGroups,
          ← hRest]
        exact (Option.map_injective (append_right_injective out)).eq_iff
      | stopped out groups tail hParts hGroups hBefore hStops hDecode =>
        have hFront := hDecode []
        rw [append_nil] at hFront
        have hNothing : (base64Decode32 alphabet.charToVal back).map (out ++ ·) = some out ↔
            base64Decode32 alphabet.charToVal back = some [] := by
          cases base64Decode32 alphabet.charToVal back <;> simp
        rw [hDecode, hFront, Option.bind_some, hNothing, base64Decode32_eq_nil_iff]
        constructor
        · intro h _ _ _ _ _ k c hk hc
          rw [getElem?_append_right (by omega), hFull] at hc
          exact h (k - 1) c (by rwa [Nat.mul_sub, Nat.mul_one])
        · intro h k c hc
          refine h groups (tail ++ back) (by rw [hParts, append_assoc]) hGroups (hStops back)
            (k + 1) c (by omega) ?_
          rw [getElem?_append_right (by omega), hFull]
          rwa [Nat.mul_succ, Nat.add_sub_cancel]
      | refused hNowhere hDecode =>
        have hFront := hDecode []
        rw [append_nil] at hFront
        rw [hDecode, hFront]
        refine ⟨fun _ groups tail hParts hGroups hStops => ?_, fun _ => rfl⟩
        exact absurd hStops (hNowhere back groups tail hParts hGroups)

theorem rfcEncode_length_lt (chars : Bytes) {b : Bytes} (h : b.length < 3 * 2 ^ 29) :
  (rfcEncode chars b).length < 2 ^ 32 := by
  rw [rfcEncode_length]
  omega

/-- Strings of bytes keep their value through all conversions and have the encoding of RFC 4648.
A string of characters is decoded as without chunks exactly when nothing stands behind the place
at which its decoding stops. -/
theorem conversions_iff (b s : Bytes) :
    ((b.length < 3 * 2 ^ 29 →
        base64Encode32 base64ValToChar b =
          (rfcEncode standard.chars b, (rfcEncode standard.chars b).length) ∧
        base64Decode32 base64CharToVal (base64Encode32 base64ValToChar b).1 = some b) ∧
      (b.length ≤ 49149 → ∀ alphabet ∈ [standard, url],
        base64Encode alphabet.valToChar b =
          (rfcEncode alphabet.chars b, (rfcEncode alphabet.chars b).length) ∧
        base64Decode alphabet.charToVal (base64Encode alphabet.valToChar b).1 = some b) ∧
      base64Decode32 base64CharToVal s = base64Decode base64CharToVal s) ↔
    NothingBehind standard s := by
  have hChunked : b.length < 3 * 2 ^ 29 →
      base64Encode32 base64ValToChar b =
        (rfcEncode standard.chars b, (rfcEncode standard.chars b).length) ∧
      base64Decode32 base64CharToVal (base64Encode32 base64ValToChar b).1 = some b := by
    intro hLength
    have hEncode := base64Encode32_eq standard b
    rw [Nat.mod_eq_of_lt (rfcEncode_length_lt _ hLength)] at hEncode
    refine ⟨hEncode, ?_⟩
    rw [show base64Encode32 base64ValToChar b = _ from hEncode]
    exact base64Decode32_rfcEncode standard b
  have hWhole : b.length ≤ 49149 → ∀ alphabet ∈ [standard, url],
      base64Encode alphabet.valToChar b =
        (rfcEncode alphabet.chars b, (rfcEncode alphabet.chars b).length) ∧
      base64Decode alphabet.charToVal (base64Encode alphabet.valToChar b).1 = some b := by
    intro hLength alphabet _
    have hReturned : (rfcEncode alphabet.chars b).length < 2 ^ 16 := by
      rw [rfcEncode_length]
      omega
    refine ⟨?_, base64Decode_encodeLoop alphabet b⟩
    rw [base64Encode, encodeLoop_eq, Nat.mod_eq_of_lt hReturned]
  refine ⟨fun h => (base64Decode32_eq_iff standard s).mp h.2.2, fun h => ⟨hChunked, hWhole, ?_⟩⟩
  exact (base64Decode32_eq_iff standard s).mpr h

/-- A blank in front of one chunk and four characters more: decoding stops at the blank, but the
last four characters are decoded. -/
theorem decode32_behind_blank :
    base64Decode base64CharToVal (32 :: List.replicate 65535 65) = some [] ∧
      base64Decode32 base64CharToVal (32 :: List.replicate 65535 65) = some [0, 0, 0] := by
  have hBlank : ∀ rest, base64Decode base64CharToVal (32 :: rest) = some [] := by
    intro rest
    rw [base64Decode.eq_def]
    rfl
  have hParts : List.replicate 65535 (65 : UInt8) = List.replicate 65531 65 ++ [65, 65, 65, 65] := by
    rw [show [(65 : UInt8), 65, 65, 65] = List.replicate 4 65 from rfl, List.replicate_append_replicate]
  have hFull : (32 :: List.replicate 65531 (65 : UInt8)).length = 65532 := by
    rw [List.length_cons, List.length_replicate]
  refine ⟨hBlank _, ?_⟩
  rw [hParts, ← List.cons_append, base64Decode32_append hFull (List.cons_ne_nil _ _), hBlank,
    base64Decode32_short (by decide)]
  decide +kernel

end Chip.Base64
