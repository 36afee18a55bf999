import Chip.Support.ThreadDatasetRuns

/-! Datasets that are accepted, and what holds after every sequence of calls. -/
namespace Chip.Thread

open List Checked TypedRecord ThreadTLV

/-- A header with the escape for its length, and at least one byte behind it. -/
def Escape (rest : List UInt8) : Prop := ∃ type more, rest = type :: 255 :: more ∧ more ≠ []

def Bare (rest : List UInt8) : Prop := ∃ type, rest = [type, 0]

section Validity

variable {rest more : List UInt8} {type length : UInt8}

structure Judged (rest : List UInt8) (judged : Checked Bool) : Prop where
  escape : Leads Escape rest → judged = .error .assertion
  bare : ¬Leads Escape rest → Leads Bare rest → Framed rest ∧ judged = .ok false
  exact : ¬Leads Escape rest → ¬Leads Bare rest → ∃ valid, judged = .ok valid ∧ (valid = true ↔ Framed rest)

theorem judged_short (hRest : rest.length < 2) : Judged rest (.ok (rest.isEmpty)) where
  escape := by
    rw [leads_short hRest]
    rintro ⟨type, more, rfl, _⟩
    simp only [List.length_cons] at hRest
    omega
  bare := by
    rw [leads_short hRest, leads_short hRest]
    rintro - ⟨type, rfl⟩
    simp only [List.length_cons] at hRest
    omega
  exact := fun _ _ => ⟨_, rfl, by rw [framed_iff, leads_short hRest, List.isEmpty_iff]⟩

theorem judged_header : Judged [type, length] (.ok false) := by
  have hEscape : ¬Leads Escape [type, length] := by
    rw [leads_cons]
    rintro (⟨_, _, hSame, hMore⟩ | ⟨_, _, hLeads⟩)
    · simp only [cons.injEq] at hSame
      exact hMore hSame.2.2.symm
    · rw [drop_nil, leads_short (by decide)] at hLeads
      obtain ⟨_, _, hSame, _⟩ := hLeads
      cases hSame
  have hBare : Leads Bare [type, length] ↔ length = 0 := by
    rw [leads_cons]
    constructor
    · rintro (⟨_, hSame⟩ | ⟨_, _, hLeads⟩)
      · simp only [cons.injEq] at hSame
        exact hSame.2.1
      · rw [drop_nil, leads_short (by decide)] at hLeads
        obtain ⟨_, hSame⟩ := hLeads
        cases hSame
    · rintro rfl
      exact Or.inl ⟨type, rfl⟩
  have hFramed : Framed [type, length] ↔ length = 0 := by
    rw [framed_iff, leads_cons]
    constructor
    · rintro (hSame | ⟨_, hLength, _⟩)
      · cases hSame
      · rw [length_nil, Nat.le_zero] at hLength
        exact UInt8.toNat_inj.1 hLength
    · rintro rfl
      refine Or.inr ⟨by decide, Nat.le_refl _, ?_⟩
      rw [drop_nil, leads_short (by decide)]
  exact ⟨fun h => absurd h hEscape, fun _ h => ⟨hFramed.2 (hBare.1 h), rfl⟩,
    fun _ h => ⟨false, rfl, by rw [hFramed, ← hBare]; simpa using h⟩⟩

theorem leads_step {Rest : List UInt8 → Prop} (hRest : ¬Rest (type :: length :: more)) :
  Leads Rest (type :: length :: more) ↔
    length.toNat ≠ 255 ∧ length.toNat ≤ more.length ∧ Leads Rest (more.drop length.toNat) := by
  rw [leads_cons]
  exact or_iff_right hRest

theorem judged_step (hMore : more ≠ []) (hLength : length.toNat ≠ 255) {judged : Checked Bool}
  (hBehind : length.toNat ≤ more.length → Judged (more.drop length.toNat) judged)
  (hOver : more.length < length.toNat → judged = .ok false) : Judged (type :: length :: more) judged := by
  have hEscape : ¬Escape (type :: length :: more) := by
    rintro ⟨_, _, hSame, _⟩
    simp only [cons.injEq] at hSame
    exact hLength (by rw [hSame.2.1]; rfl)
  have hBare : ¬Bare (type :: length :: more) := by
    rintro ⟨_, hSame⟩
    simp only [cons.injEq] at hSame
    exact hMore hSame.2.2
  have hNil : ¬(type :: length :: more) = [] := cons_ne_nil _ _
  by_cases hFits : length.toNat ≤ more.length
  · obtain ⟨hJudgedEscape, hJudgedBare, hJudged⟩ := hBehind hFits
    have hStep : ∀ {Rest : List UInt8 → Prop}, ¬Rest (type :: length :: more) →
        (Leads Rest (type :: length :: more) ↔ Leads Rest (more.drop length.toNat)) := fun hRest =>
      (leads_step hRest).trans ((and_iff_right hLength).trans (and_iff_right hFits))
    constructor
    · rwa [hStep hEscape]
    · rwa [hStep hEscape, hStep hBare, framed_iff, hStep hNil, ← framed_iff]
    · rwa [hStep hEscape, hStep hBare, framed_iff, hStep hNil, ← framed_iff]
  · have hNot : ∀ {Rest : List UInt8 → Prop}, ¬Rest (type :: length :: more) →
        ¬Leads Rest (type :: length :: more) := fun hRest hLeads => hFits ((leads_step hRest).1 hLeads).2.1
    refine ⟨fun h => absurd h (hNot hEscape), fun _ h => absurd h (hNot hBare), fun _ _ => ⟨false, ?_, ?_⟩⟩
    · exact hOver (Nat.not_le.1 hFits)
    · rw [framed_iff]
      simpa using hNot hNil

theorem isValidLoop_judged (rest before : List UInt8) :
  Judged rest (isValidLoop (before ++ rest) before.length) := by
  match rest with
  | [] =>
    rw [isValidLoop, if_neg (by simp [headerSize])]
    simpa using @judged_short [] (by decide)
  | [byte] =>
    rw [isValidLoop, if_neg (by simp [headerSize])]
    simpa using @judged_short [byte] (by simp)
  | [type, length] =>
    rw [isValidLoop, if_neg (by simp [headerSize])]
    simpa using judged_header
  | type :: length :: next :: more =>
    have hIn : before.length + headerSize < (before ++ type :: length :: next :: more).length := by
      simp only [length_append, length_cons, headerSize]
      omega
    have hRead : readByte (before ++ type :: length :: next :: more) (before.length + 1) = .ok length := by
      have hPrefix : (before ++ [type]) ++ length :: next :: more <+: before ++ type :: length :: next :: more := by
        rw [append_assoc]
        exact prefix_refl _
      have hByte := readByte_of_prefix hPrefix
      rwa [length_append] at hByte
    rw [isValidLoop, if_pos hIn, getLength, hRead, ok_bind]
    by_cases hLength : length.toNat = 255
    · have hEscape : Leads Escape (type :: length :: next :: more) := by
        refine leads_cons.2 (Or.inl ⟨type, next :: more, ?_, cons_ne_nil _ _⟩)
        rw [UInt8.toNat_inj.1 (hLength.trans rfl : length.toNat = (255 : UInt8).toNat)]
      rw [asserts, if_neg (fun h => h hLength)]
      exact ⟨fun _ => rfl, fun h => absurd hEscape h, fun h => absurd hEscape h⟩
    · have hNot : length.toNat ≠ kLengthEscape := hLength
      rw [asserts_of hNot, ok_bind, pure_eq, ok_bind, if_neg hNot]
      refine judged_step (cons_ne_nil _ _) hLength (fun hFits => ?_) fun hOver => ?_
      · have hBehind := isValidLoop_judged ((next :: more).drop length.toNat)
          (before ++ type :: length :: (next :: more).take length.toNat)
        have hData : before ++ type :: length :: (next :: more).take length.toNat ++
            (next :: more).drop length.toNat = before ++ type :: length :: next :: more := by
          rw [append_assoc, cons_append, cons_append, take_append_drop]
        have hAt : (before ++ type :: length :: (next :: more).take length.toNat).length =
            before.length + headerSize + length.toNat := by
          simp only [length_append, length_cons, length_take_of_le hFits, headerSize]
          omega
        rwa [hData, hAt] at hBehind
      · have hBeyond : (before ++ type :: length :: next :: more).length < before.length + headerSize + length.toNat := by
          simp only [length_append, length_cons, headerSize] at hOver ⊢
          omega
        rw [isValidLoop, if_neg (by omega), pure_eq, decide_eq_false (by omega)]
termination_by rest.length
decreasing_by
  simp only [List.length_drop, List.length_cons]
  omega

end Validity

namespace OperationalDataset

variable {s s' : OperationalDataset} {aData : List UInt8}

theorem isValid_judged (aData : List UInt8) : Judged aData (isValid aData) := isValidLoop_judged aData []

theorem store_start (h : aData.length ≤ 254) : ∃ s', s.store 0 aData = .ok s' ∧ aData <+: s'.mData := by
  obtain ⟨s', hStore, hPrefix, _⟩ := store_eq aData ( nil_prefix : [] <+: s.mData) (by
    rw [length_nil]
    omega)
  exact ⟨s', hStore, hPrefix⟩

/-- `Init` accepts what is framed and not too long, and rejects the rest. -/
def InitMeets (s : OperationalDataset) (aData : List UInt8) : Prop :=
  ∃ result s', s.init aData = .ok (result, s') ∧ (result = .ok () ↔ aData.length ≤ 254 ∧ Framed aData)

/-- The loop comes neither upon an escape nor upon a last element without a value. -/
def InitFits (aData : List UInt8) : Prop := 254 < aData.length ∨ ¬Leads Escape aData ∧ ¬Leads Bare aData

theorem init_of_valid (hLength : aData.length ≤ 254) (hNil : aData ≠ []) {judged : Checked Bool}
  (hValid : isValid aData = judged) : s.init aData = judged >>= fun valid =>
    if !valid then .ok (.error .invalidArgument, s)
    else s.store 0 aData >>= fun s => .ok (.ok (), { s with mLength := aData.length }) := by
  have hFits : ¬aData.length > kSizeOperationalDataset := Nat.not_lt.2 hLength
  rw [init, if_neg hFits, if_pos (length_pos_iff.2 hNil), hValid]
  rfl

theorem init_nil : s.init [] = .ok (.ok (), { s with mLength := 0 }) := rfl

theorem initMeets_iff : s.InitMeets aData ↔ InitFits aData := by
  by_cases hLong : 254 < aData.length
  · have hInit : s.init aData = .ok (.error .invalidArgument, s) := if_pos hLong
    refine iff_of_true ⟨_, _, hInit, ?_⟩ (Or.inl hLong)
    simp only [reduceCtorEq, false_iff, not_and]
    intro hFits
    omega
  · unfold InitFits
    rw [or_iff_right hLong]
    by_cases hNil : aData = []
    · subst hNil
      refine iff_of_true ⟨_, _, init_nil, ?_⟩ ⟨?_, ?_⟩
      · exact iff_of_true rfl ⟨by decide, [], forall_mem_nil _, rfl⟩
      · rw [leads_short (by decide)]
        rintro ⟨_, _, hSame, _⟩
        cases hSame
      · rw [leads_short (by decide)]
        rintro ⟨_, hSame⟩
        cases hSame
    · obtain ⟨hEscape, hBare, hExact⟩ := isValid_judged aData
      have hFits : aData.length ≤ 254 := Nat.not_lt.1 hLong
      by_cases hLeadsEscape : Leads Escape aData
      · refine iff_of_false ?_ fun h => h.1 hLeadsEscape
        rintro ⟨result, s', hInit, _⟩
        rw [init_of_valid hFits hNil (hEscape hLeadsEscape)] at hInit
        cases hInit
      by_cases hLeadsBare : Leads Bare aData
      · obtain ⟨hFramed, hValid⟩ := hBare hLeadsEscape hLeadsBare
        refine iff_of_false ?_ fun h => h.2 hLeadsBare
        rintro ⟨result, s', hInit, hMeets⟩
        rw [init_of_valid hFits hNil hValid] at hInit
        obtain ⟨rfl, rfl⟩ := Prod.mk.inj (Except.ok.inj hInit)
        cases hMeets.2 ⟨hFits, hFramed⟩
      · obtain ⟨valid, hValid, hFramed⟩ := hExact hLeadsEscape hLeadsBare
        refine iff_of_true ?_ ⟨hLeadsEscape, hLeadsBare⟩
        unfold InitMeets
        rw [init_of_valid hFits hNil hValid, ← hFramed]
        cases valid with
        | false => exact ⟨_, _, rfl, by simp⟩
        | true =>
          obtain ⟨s', hStore, _⟩ := store_start (s := s) hFits
          refine ⟨.ok (), { s' with mLength := aData.length }, ?_, by simp [hFits]⟩
          rw [ok_bind, if_neg (by decide), hStore, ok_bind]

theorem holds_of_init (hInit : s.init aData = .ok (.ok (), s')) :
  ∃ records, encode records = aData ∧ s'.Holds records := by
  have hFits : aData.length ≤ 254 := by
    by_contra hLong
    have hFail : s.init aData = .ok (.error .invalidArgument, s) := if_pos (Nat.not_le.1 hLong)
    rw [hFail] at hInit
    cases hInit
  by_cases hNil : aData = []
  · subst hNil
    rw [init_nil] at hInit
    obtain ⟨-, rfl⟩ := Prod.mk.inj (Except.ok.inj hInit)
    exact ⟨[], rfl, forall_mem_nil _, nil_prefix, rfl⟩
  · obtain ⟨hEscape, hBare, hExact⟩ := isValid_judged aData
    by_cases hLeadsEscape : Leads Escape aData
    · rw [init_of_valid hFits hNil (hEscape hLeadsEscape)] at hInit
      cases hInit
    by_cases hLeadsBare : Leads Bare aData
    · rw [init_of_valid hFits hNil (hBare hLeadsEscape hLeadsBare).2] at hInit
      cases hInit
    obtain ⟨valid, hValid, hFramed⟩ := hExact hLeadsEscape hLeadsBare
    rw [init_of_valid hFits hNil hValid] at hInit
    cases valid with
    | false => cases hInit
    | true =>
      obtain ⟨stored, hStore, hPrefix⟩ := store_start (s := s) hFits
      rw [ok_bind, if_neg (by decide), hStore, ok_bind] at hInit
      obtain ⟨-, rfl⟩ := Prod.mk.inj (Except.ok.inj hInit)
      obtain ⟨records, hShort, rfl⟩ := hFramed.1 rfl
      exact ⟨records, rfl, hShort, hPrefix, rfl⟩

/-- The datasets that calls lead to from one that has been accepted, whatever was in the buffer
before. Each call has to meet its condition. -/
inductive Reached : OperationalDataset → Prop where
  | accepted {s s' : OperationalDataset} (aData : List UInt8) (hInit : s.init aData = .ok (.ok (), s')) :
      Reached s'
  | step {s s' : OperationalDataset} {records : List TypedRecord} {call : Call} {reply : Reply}
      (prior : Reached s) (hHolds : s.Holds records) (hFits : s.Fits records call)
      (hCall : s.perform call = .ok (reply, s')) : Reached s'

theorem Reached.holds (reached : Reached s) : ∃ records, s.Holds records := by
  induction reached with
  | accepted aData hInit =>
    obtain ⟨records, _, hHolds⟩ := holds_of_init hInit
    exact ⟨records, hHolds⟩
  | step prior hHolds hFits hCall ih =>
    obtain ⟨reply, s', hSame, _, hKept⟩ := perform_serves hHolds hFits
    rw [hCall, Except.ok.injEq, Prod.mk.injEq] at hSame
    rw [hSame.2]
    exact hKept

theorem Holds.asByteSpan_eq {records : List TypedRecord} (h : s.Holds records) : s.asByteSpan = encode records := by
  rw [asByteSpan, h.length, ← prefix_iff_eq_take.1 h.contents]

/-- `Init` does what it has to do on exactly the bytes whose loop meets neither an escape nor a last
element without a value. On every dataset that is reached, every call that meets its condition is
served. -/
theorem init_and_calls_serve (s : OperationalDataset) :
    (∀ aData, s.InitMeets aData ↔ InitFits aData) ∧
    (Reached s → ∃ records, s.Holds records ∧ s.asByteSpan = encode records ∧ s.asByteSpan.length ≤ 254 ∧
      ∀ call, s.Fits records call → ∃ reply s', s.perform call = .ok (reply, s') ∧
        s.Serves records s' call reply) := by
  refine ⟨fun aData => initMeets_iff, fun reached => ?_⟩
  obtain ⟨records, hHolds⟩ := reached.holds
  refine ⟨records, hHolds, hHolds.asByteSpan_eq, ?_, fun call hFits => ?_⟩
  · rw [hHolds.asByteSpan_eq]
    exact hHolds.fits
  · obtain ⟨reply, s', hCall, hServes, _⟩ := perform_serves hHolds hFits
    exact ⟨reply, s', hCall, hServes⟩

def blank : OperationalDataset := ⟨List.replicate 254 0, 0, List.length_replicate⟩

/-- A network name without a value is not accepted. A dataset whose master key is one byte is
accepted, and the getter of the master key reads behind the element. -/
theorem not_init_and_calls_serve :
    ¬blank.InitMeets [kNetworkName, 0] ∧
    ∃ s, blank.init [kMasterKey, 1, 7] = .ok (.ok (), s) ∧ s.perform (.get .masterKey) = .error .outside := by
  constructor
  · rw [initMeets_iff]
    rintro (hLong | ⟨_, hBare⟩)
    · simp at hLong
    · exact hBare (leads_cons.2 (Or.inl ⟨kNetworkName, rfl⟩))
  · have hValid : isValid [kMasterKey, 1, 7] = .ok true := by
      rw [isValid, isValidLoop]
      simp [headerSize, getLength, readByte, asserts, kLengthEscape]
      rw [isValidLoop]
      simp [headerSize]
    obtain ⟨stored, hStore, hPrefix⟩ := @store_start blank [kMasterKey, 1, 7] (by simp)
    have hHolds : ({ stored with mLength := 3 } : OperationalDataset).Holds [⟨kMasterKey, [7]⟩] :=
      ⟨by simp [Short], hPrefix, rfl⟩
    have hFind : [(⟨kMasterKey, [7]⟩ : TypedRecord)].find? (·.type = kMasterKey) = some ⟨kMasterKey, [7]⟩ := rfl
    obtain ⟨tlv, hStands, hGet⟩ := getElement_found hHolds hFind
    refine ⟨{ stored with mLength := 3 }, ?_, ?_⟩
    · rw [init_of_valid (by simp) (List.cons_ne_nil _ _) hValid, Checked.ok_bind, if_neg (by decide), hStore]
      rfl
    · rw [perform, OperationalDataset.get, getMasterKey, hGet, readValue, hStands.getValue_eq, Checked.ok_bind,
        hStands.readLength_eq, Checked.ok_bind]
      rfl

end OperationalDataset

end Chip.Thread
