import Chip.TLV.Containment

/-! Input that ends inside a container. The bytes that are missing are kept in view, so that a reader
of the truncated input is followed through the whole encoding. -/
namespace Chip.TLV

open Proc List LittleEndian TLVReader

variable {data q rest tail d : Bytes} {r r' : TLVReader}

/-- A reader with this before it, the last part of which is missing from its bytes. -/
structure Ahead (data q rest : Bytes) (r : TLVReader) : Prop where
  within : Within data r
  ahead : r.mBuf ++ q = rest

theorem readTag_rest (profile : BitVec 32) (control : TLVTagControl) {tagBytes : Bytes} (field : Bytes)
  (hLength : tagBytes.length = control.tagSize) :
  (readTag profile control (tagBytes ++ field)).2 = field ∨
    (readTag profile control (tagBytes ++ field)).1 = unknownImplicitTag := by
  have hDrop : (tagBytes ++ field).drop control.tagSize = field := drop_left' hLength
  cases control with
  | implicitProfile2Bytes =>
    rw [readTag]
    split_ifs
    · exact .inr rfl
    · exact .inl hDrop
  | implicitProfile4Bytes =>
    rw [readTag]
    split_ifs
    · exact .inr rfl
    · exact .inl hDrop
  | _ => exact .inl hDrop

theorem Ahead.readElement (hSize : data.length < 2 ^ 32) {head : ElementHead} (hHead : head.WellFormed)
  (h : Ahead data q (head.bytes ++ rest) r) (hOk : readElement r = (.ok (), r')) :
  Ahead data q rest r' ∧ r'.elementType = head.elemType ∧
    (head.elemType ≠ .endOfContainer → r'.mElemLenOrVal = value head.field ∧
      (head.elemType.hasLength = true → value head.field < 2 ^ 32)) := by
  have hWithin := (readElement_contained hSize h.within).1
  rw [hOk] at hWithin
  obtain ⟨_, r₁, hEnsure, hOk⟩ := bind_eq_ok hOk
  rw [ensureData_plain h.within.store] at hEnsure
  obtain ⟨hNonempty, rfl⟩ : r.mBuf ≠ [] ∧ r = r₁ := by
    obtain ⟨hResult, rfl⟩ := Prod.mk.inj hEnsure
    refine ⟨fun hNil => ?_, rfl⟩
    rw [if_pos hNil] at hResult
    cases hResult
  have hControl : r.mBuf.headD 0 = controlByte head.control head.elemType := by
    obtain ⟨c, cs, hCons⟩ := exists_cons_of_ne_nil hNonempty
    have hAhead := h.ahead
    rw [hCons] at hAhead ⊢
    exact (cons.inj hAhead).1
  rw [read_bind, modify_bind, hControl, elementType_controlByte _ hHead.named,
    tagControl_controlByte _ hHead.named] at hOk
  obtain ⟨-, hOk⟩ := verify_bind_eq_ok hOk
  obtain ⟨taken, r₂, hRead, hOk⟩ := bind_eq_ok hOk
  have hMarked : Within data { r with mControlByte := some (controlByte head.control head.elemType) } :=
    h.within.of_position rfl rfl rfl rfl
  obtain ⟨hFits, hTaken, rfl⟩ := readHead_eq_ok hSize hMarked hRead
  rw [← ElementHead.bytes_length hHead] at hFits hTaken hOk
  have hTaken : taken = head.bytes := by
    rw [hTaken]
    change r.mBuf.take head.bytes.length = head.bytes
    calc r.mBuf.take head.bytes.length = (r.mBuf ++ q).take head.bytes.length := (take_append_of_le_length hFits).symm
      _ = head.bytes := by rw [h.ahead, take_left]
  have hDropped : r.mBuf.drop head.bytes.length ++ q = rest := by
    calc r.mBuf.drop head.bytes.length ++ q = (r.mBuf ++ q).drop head.bytes.length :=
          (drop_append_of_le_length hFits).symm
      _ = rest := by rw [h.ahead, drop_left]
  subst hTaken
  rw [modify_bind, read_bind] at hOk
  obtain ⟨hShort, hOk⟩ := verify_bind_eq_ok hOk
  obtain ⟨rfl, hKnown, -⟩ := verifyElement_eq_ok hOk
  have hType : (decodeHead head.control head.elemType.fieldSize head.bytes
      (TLVReader.advance head.bytes.length
        { r with mControlByte := some (controlByte head.control head.elemType) })).elementType = head.elemType :=
    elementType_controlByte _ hHead.named
  refine ⟨⟨hWithin, hDropped⟩, hType, fun hNotEnd => ?_⟩
  have hField : (head.bytes.drop 1) = head.tagBytes ++ head.field := rfl
  have hResolved := (readTag_rest r.implicitProfileId head.control head.field hHead.tagBytes).resolve_right
    (hKnown fun hEnd => hNotEnd (hType.symm.trans hEnd))
  have hValue : value (((readTag r.implicitProfileId head.control
      (head.tagBytes ++ head.field)).2).take head.elemType.fieldSize.bytes) = value head.field := by
    rw [hResolved, take_of_length_le hHead.field.le]
  refine ⟨hValue, fun hHas => ?_⟩
  by_cases hEight : head.elemType.fieldSize = .size8Byte
  · have hLess := hShort hEight hHas
    exact hValue ▸ hLess
  · have hLess := value_lt head.field
    rw [hHead.field] at hLess
    refine hLess.trans_le ?_
    cases hFieldSize : head.elemType.fieldSize with
    | size8Byte => exact absurd hFieldSize hEight
    | _ => decide

/-- The data that `SkipData` passes over. -/
def HasData (d : Bytes) (r : TLVReader) : Prop :=
  if r.elementType.hasLength then r.mElemLenOrVal % 2 ^ 32 = d.length else d = []

theorem HasData.of_head {head : ElementHead} (hType : r.elementType = head.elemType)
  (hField : r.mElemLenOrVal = value head.field ∧
    (head.elemType.hasLength = true → value head.field < 2 ^ 32))
  (hLength : d.length = if head.elemType.hasLength then value head.field else 0) :
  HasData d r := by
  obtain ⟨hValue, hShort⟩ := hField
  rw [HasData, hType, hValue]
  split_ifs at hLength ⊢ with hHas
  · rw [hLength, Nat.mod_eq_of_lt (hShort hHas)]
  · exact length_eq_zero_iff.mp hLength

theorem Ahead.skipData (hSize : data.length < 2 ^ 32) (h : Ahead data q (d ++ rest) r) (hData : HasData d r)
  (hOk : skipData r = (.ok (), r')) :
  Ahead data q rest r' ∧ r'.elementType = r.elementType ∧ r'.mContainerType = r.mContainerType := by
  have hWithin := (skipData_contained hSize h.within).1
  have hLenRead := h.within.lenRead
  rw [hOk] at hWithin
  rw [TLV.skipData, read_bind] at hOk
  by_cases hHas : r.elementType.hasLength = true
  · rw [HasData, if_pos hHas] at hData
    rw [if_pos hHas, hData, readData, ] at hOk
    obtain ⟨taken, r₁, hRead, hOk⟩ := bind_eq_ok hOk
    cases hOk
    rw [readDataLoop_contiguous _ _ h.within.store (by omega) (Nat.le_refl _), readPlain] at hRead
    split at hRead
    case isTrue hFits =>
      cases hRead
      refine ⟨⟨hWithin, ?_⟩, rfl, rfl⟩
      calc r.mBuf.drop d.length ++ q = (r.mBuf ++ q).drop d.length := (drop_append_of_le_length hFits).symm
        _ = rest := by rw [h.ahead, drop_left]
    case isFalse => cases hRead
  · rw [HasData, if_neg hHas] at hData
    rw [if_neg hHas] at hOk
    cases hOk
    exact ⟨⟨hWithin, by rw [h.ahead, hData, nil_append]⟩, rfl, rfl⟩

variable {outer : TLVType} {nestLevel : Nat} {readers readers₁ : Readers} {i j : Nat}

theorem skipFrom_eq_ok (hOk : skipFrom outer nestLevel r = (.ok (), r')) :
  (r.elementType = .endOfContainer ∧ nestLevel = 0 ∧ r' = r) ∨
    ∃ nestLevel' r₁ r₂, ¬(r.elementType = .endOfContainer ∧ nestLevel = 0) ∧
      enterOrLeave outer nestLevel r = (.ok nestLevel', r₁) ∧ skipData r₁ = (.ok (), r₂) ∧
      skipRest outer nestLevel' r₂ = (.ok (), r') := by
  by_cases hDone : r.elementType = .endOfContainer ∧ nestLevel = 0
  · obtain ⟨hEnd, rfl⟩ := hDone
    rw [skipFrom_done hEnd] at hOk
    cases hOk
    exact .inl ⟨hEnd, rfl, rfl⟩
  · refine .inr ?_
    have hTurn := hOk
    rw [skipFrom, skipLoop, read_bind, if_neg hDone] at hTurn
    obtain ⟨nestLevel', r₁, hEnter, hTurn⟩ := bind_eq_ok hTurn
    obtain ⟨_, r₂, hSkip, -⟩ := bind_eq_ok hTurn
    exact ⟨nestLevel', r₁, r₂, hDone, hEnter, hSkip, (skipFrom_turn hDone hEnter hSkip).symm.trans hOk⟩

section

variable (hSize : data.length < 2 ^ 32)
include hSize

theorem Ahead.skipFrom_leaf (h : Ahead data q (d ++ rest) r)
  (hNotEnd : r.elementType ≠ .endOfContainer) (hNotContainer : r.elementType.isContainer = false)
  (hData : HasData d r) (hOk : skipFrom outer nestLevel r = (.ok (), r')) :
  ∃ r₁, Ahead data q rest r₁ ∧ skipRest outer nestLevel r₁ = (.ok (), r') := by
  obtain ⟨hEnd, -⟩ | ⟨level, r₁, r₂, -, hEnter, hSkip, hRest⟩ := skipFrom_eq_ok hOk
  · exact absurd hEnd hNotEnd
  · simp only [enterOrLeave, read_bind, if_neg hNotEnd, hNotContainer, Bool.false_eq_true, if_false] at hEnter
    cases hEnter
    exact ⟨r₂, (h.skipData hSize hData hSkip).1, hRest⟩

theorem Ahead.skipFrom_container (h : Ahead data q rest r)
  (hContainer : r.elementType.isContainer = true)
  (hOk : skipFrom outer nestLevel r = (.ok (), r')) :
  ∃ r₁, Ahead data q rest r₁ ∧ skipRest outer (nestLevel + 1) r₁ = (.ok (), r') := by
  have hNotEnd : r.elementType ≠ .endOfContainer := by
    intro hEnd
    rw [hEnd] at hContainer
    cases hContainer
  have hNoLength : r.elementType.hasLength = false := by
    cases hType : r.elementType <;> rw [hType] at hContainer <;> first | rfl | cases hContainer
  obtain ⟨hEnd, -⟩ | ⟨level, r₁, r₂, -, hEnter, hSkip, hRest⟩ := skipFrom_eq_ok hOk
  · exact absurd hEnd hNotEnd
  · simp only [enterOrLeave, read_bind, if_neg hNotEnd, hContainer, if_true] at hEnter
    cases hEnter
    have hInside : Ahead data q ([] ++ rest) { r with mContainerType := r.elementType.toTLVType } :=
      ⟨h.within.of_position rfl rfl rfl rfl, h.ahead⟩
    have hData : HasData [] { r with mContainerType := r.elementType.toTLVType } := by
      have hSame : ({ r with mContainerType := r.elementType.toTLVType } : TLVReader).elementType =
          r.elementType := rfl
      rw [HasData, hSame, hNoLength]
      rfl
    exact ⟨r₂, (hInside.skipData hSize hData hSkip).1, hRest⟩

theorem Ahead.readTerminator (h : Ahead data q (terminator ++ rest) r)
  (hOk : TLV.readElement r = (.ok (), r')) :
  Ahead data q rest r' ∧ r'.elementType = .endOfContainer := by
  obtain ⟨hAhead, hEnd, -⟩ := Ahead.readElement hSize ElementHead.wellFormed_endOfContainer h hOk
  exact ⟨hAhead, hEnd⟩

theorem Ahead.skipRest_terminator (h : Ahead data q (terminator ++ rest) r)
  (hOk : skipRest outer nestLevel r = (.ok (), r')) :
  (nestLevel = 0 ∧ Ahead data q rest r') ∨
    ∃ r₁, nestLevel ≠ 0 ∧ Ahead data q rest r₁ ∧ skipRest outer (nestLevel - 1) r₁ = (.ok (), r') := by
  obtain ⟨_, r₁, hRead, hOk⟩ := bind_eq_ok hOk
  obtain ⟨hAhead, hEnd⟩ := Ahead.readTerminator hSize h hRead
  obtain ⟨-, rfl, rfl⟩ | ⟨level, r₂, r₃, hNotDone, hEnter, hSkip, hRest⟩ := skipFrom_eq_ok hOk
  · exact .inl ⟨rfl, hAhead⟩
  · have hEnd : r₁.elementType = .endOfContainer := hEnd
    simp only [enterOrLeave, read_bind, if_pos hEnd] at hEnter
    obtain ⟨hLevel, rfl⟩ := Prod.mk.inj hEnter
    cases hLevel
    let s : TLVReader :=
      { r₁ with mContainerType := if nestLevel - 1 = 0 then outer else .unknownContainer }
    have hLeft : Ahead data q ([] ++ rest) s := ⟨hAhead.within.of_position rfl rfl rfl rfl, hAhead.ahead⟩
    have hEndLeft : s.elementType = .endOfContainer := hEnd
    have hData : HasData [] s := by
      rw [HasData, hEndLeft]
      rfl
    exact .inr ⟨r₃, fun hZero => hNotDone ⟨hEnd, hZero⟩, (hLeft.skipData hSize hData hSkip).1, hRest⟩

theorem Ahead.skipRest_nodes (nodes : Nodes) (hNodes : nodes.WellFormed)
  (h : Ahead data q (nodes.bytes ++ tail) r) (hOk : skipRest outer nestLevel r = (.ok (), r')) :
  ∃ r₁, Ahead data q tail r₁ ∧ skipRest outer nestLevel r₁ = (.ok (), r') := by
  induction nodes generalizing tail nestLevel r with
  | nil => exact ⟨r, h, hOk⟩
  | leaf head d next ih =>
    obtain ⟨hHead, hNotEnd, hNotContainer, hLength, hNext⟩ := hNodes
    rw [Nodes.bytes, append_assoc, append_assoc] at h
    obtain ⟨_, r₁, hRead, hRest⟩ := bind_eq_ok hOk
    obtain ⟨h₁, hType, hField⟩ := h.readElement hSize hHead hRead
    obtain ⟨r₂, h₂, hRest⟩ := h₁.skipFrom_leaf hSize (hType ▸ hNotEnd) (hType ▸ hNotContainer)
      (.of_head hType (hField hNotEnd) hLength) hRest
    exact ih hNext h₂ hRest
  | container head members next ihMembers ihNext =>
    obtain ⟨hHead, hContainer, hMembers, hNext⟩ := hNodes
    rw [Nodes.bytes, append_assoc, append_assoc, append_assoc] at h
    obtain ⟨_, r₁, hRead, hRest⟩ := bind_eq_ok hOk
    obtain ⟨h₁, hType, -⟩ := h.readElement hSize hHead hRead
    obtain ⟨r₂, h₂, hRest⟩ := h₁.skipFrom_container hSize (hType ▸ hContainer) hRest
    obtain ⟨r₃, h₃, hRest⟩ := ihMembers hMembers h₂ hRest
    obtain ⟨hZero, -⟩ | ⟨r₄, -, h₄, hRest⟩ := h₃.skipRest_terminator hSize hRest
    · exact absurd hZero (Nat.succ_ne_zero _)
    · rw [Nat.add_sub_cancel] at hRest
      exact ihNext hNext h₄ hRest

end

/-- A reader in a container that is followed by `tail`: on an element that is no container, or on none;
on a container; or on the terminator. -/
inductive Position (data q tail : Bytes) : TLVReader → Prop where
  | leaf {r : TLVReader} {d : Bytes} (rest : Nodes) (wellFormed : rest.WellFormed) (notEnd : r.elementType ≠ .endOfContainer)
      (notContainer : r.elementType.isContainer = false) (hasData : HasData d r)
      (ahead : Ahead data q (d ++ (rest.bytes ++ (terminator ++ tail))) r) : Position data q tail r
  | container {r : TLVReader} (members rest : Nodes) (membersWellFormed : members.WellFormed) (wellFormed : rest.WellFormed)
      (isContainer : r.elementType.isContainer = true)
      (ahead : Ahead data q (members.bytes ++ (terminator ++ (rest.bytes ++ (terminator ++ tail)))) r) :
      Position data q tail r
  | terminator {r : TLVReader} (isEnd : r.elementType = .endOfContainer) (ahead : Ahead data q tail r) : Position data q tail r

theorem Position.skipFrom (hSize : data.length < 2 ^ 32) (h : Position data q tail r)
  (hOk : skipFrom outer 0 r = (.ok (), r')) : Ahead data q tail r' := by
  have hRest : ∀ {rest : Nodes} {s : TLVReader}, rest.WellFormed →
      Ahead data q (rest.bytes ++ (TLV.terminator ++ tail)) s → skipRest outer 0 s = (.ok (), r') →
      Ahead data q tail r' := by
    intro rest s hWellFormed hAhead hOk
    obtain ⟨s₁, h₁, hOk⟩ := hAhead.skipRest_nodes hSize rest hWellFormed hOk
    obtain ⟨-, hDone⟩ | ⟨_, hNot, -⟩ := h₁.skipRest_terminator hSize hOk
    · exact hDone
    · exact absurd rfl hNot
  cases h with
  | leaf rest hWellFormed hNotEnd hNotContainer hData hAhead =>
    obtain ⟨r₁, h₁, hOk⟩ := hAhead.skipFrom_leaf hSize hNotEnd hNotContainer hData hOk
    exact hRest hWellFormed h₁ hOk
  | container members rest hMembers hWellFormed hContainer hAhead =>
    obtain ⟨r₁, h₁, hOk⟩ := hAhead.skipFrom_container hSize hContainer hOk
    obtain ⟨r₂, h₂, hOk⟩ := h₁.skipRest_nodes hSize members hMembers hOk
    obtain ⟨hZero, -⟩ | ⟨r₃, -, h₃, hOk⟩ := h₂.skipRest_terminator hSize hOk
    · exact absurd hZero (Nat.succ_ne_zero _)
    · exact hRest hWellFormed h₃ hOk
  | terminator hEnd hAhead =>
    rw [skipFrom_done hEnd] at hOk
    cases hOk
    exact hAhead

theorem Position.of_element (h : Position data q tail r) (hControl : r'.mControlByte = r.mControlByte)
  (hLenOrVal : r'.mElemLenOrVal = r.mElemLenOrVal) (hWithin : Within data r') (hBuf : r'.mBuf = r.mBuf) :
  Position data q tail r' := by
  have hType : r'.elementType = r.elementType := by rw [elementType, elementType, hControl]
  have hAhead : ∀ {rest : Bytes}, Ahead data q rest r → Ahead data q rest r' :=
    fun hAhead => ⟨hWithin, by rw [hBuf]; exact hAhead.ahead⟩
  cases h with
  | leaf rest hWellFormed hNotEnd hNotContainer hData hOld =>
    refine .leaf rest hWellFormed (hType ▸ hNotEnd) (hType ▸ hNotContainer) ?_ (hAhead hOld)
    rwa [HasData, hType, hLenOrVal]
  | container members rest hMembers hWellFormed hContainer hOld =>
    exact .container members rest hMembers hWellFormed (hType ▸ hContainer) (hAhead hOld)
  | terminator hEnd hOld => exact .terminator (hType.trans hEnd) (hAhead hOld)

theorem Ahead.position {rest : Nodes} (hWellFormed : rest.WellFormed)
  (h : Ahead data q (rest.bytes ++ (terminator ++ tail)) r) (hControl : r.mControlByte = none) :
  Position data q tail r := by
  have hType : r.elementType = .notSpecified := by rw [elementType, hControl]
  refine .leaf (d := []) rest hWellFormed (by rw [hType]; decide) (by rw [hType]; rfl) ?_ h
  rw [HasData, hType]
  rfl

theorem Position.skipToEndOfContainer (hSize : data.length < 2 ^ 32) (h : Position data q tail r)
  (hOk : skipToEndOfContainer r = (.ok (), r')) : Ahead data q tail r' := by
  have hWithin : Within data r := by
    cases h with
    | leaf _ _ _ _ _ hAhead => exact hAhead.within
    | container _ _ _ _ _ hAhead => exact hAhead.within
    | terminator _ hAhead => exact hAhead.within
  have hSame : Position data q tail { r with mContainerOpen := false } :=
    h.of_element rfl rfl (hWithin.of_position rfl rfl rfl rfl) rfl
  exact hSame.skipFrom hSize hOk

theorem Position.exitContainer (hSize : data.length < 2 ^ 32) (h : Position data q tail r)
  (hOk : exitContainer outer r = (.ok (), r')) : Ahead data q tail r' ∧ r'.mControlByte = none := by
  obtain ⟨_, r₁, hSkip, hOk⟩ := bind_eq_ok hOk
  have hAhead := h.skipToEndOfContainer hSize hSkip
  cases hOk
  exact ⟨⟨hAhead.within.of_position rfl rfl rfl rfl, hAhead.ahead⟩, rfl⟩

theorem Ahead.enterContainer {members : Nodes} (hMembers : members.WellFormed)
  (h : Ahead data q (members.bytes ++ (terminator ++ tail)) r)
  (hOk : enterContainer r = (.ok outer, r')) :
  Position data q tail r' := by
  rw [TLV.enterContainer, read_bind] at hOk
  obtain ⟨-, hOk⟩ := verify_bind_eq_ok hOk
  rw [modify_bind] at hOk
  obtain ⟨-, rfl⟩ := Prod.mk.inj hOk
  exact Ahead.position hMembers ⟨h.within.of_position rfl rfl rfl rfl, h.ahead⟩ rfl

theorem enterContainer_isContainer (hOk : enterContainer r = (.ok outer, r')) :
  r.elementType.isContainer = true := by
  rw [enterContainer, read_bind] at hOk
  exact (verify_bind_eq_ok hOk).1

theorem Position.enterContainer (h : Position data q tail r) (hOk : enterContainer r = (.ok outer, r')) :
  ∃ rest : Nodes, rest.WellFormed ∧ Position data q (rest.bytes ++ (TLV.terminator ++ tail)) r' := by
  have hIs := enterContainer_isContainer hOk
  cases h with
  | leaf rest hWellFormed hNotEnd hNotContainer hData hAhead =>
    rw [hNotContainer] at hIs
    cases hIs
  | container members rest hMembers hWellFormed hContainer hAhead =>
    exact ⟨rest, hWellFormed, hAhead.enterContainer hMembers hOk⟩
  | terminator hEnd hAhead =>
    rw [hEnd] at hIs
    cases hIs

theorem Position.skip (hSize : data.length < 2 ^ 32) (h : Position data q tail r) (hOk : skip r = (.ok (), r')) :
  ∃ rest : Nodes, rest.WellFormed ∧ Ahead data q (rest.bytes ++ (TLV.terminator ++ tail)) r' ∧
    r'.mControlByte = none := by
  have hPosition := h
  rw [TLV.skip, read_bind] at hOk
  obtain ⟨hNotEnd, hOk⟩ := verify_bind_eq_ok hOk
  split_ifs at hOk with hContainer
  · obtain ⟨outer, r₁, hEnter, hExit⟩ := bind_eq_ok hOk
    obtain ⟨rest, hWellFormed, h₁⟩ := h.enterContainer hEnter
    exact ⟨rest, hWellFormed, h₁.exitContainer hSize hExit⟩
  · obtain ⟨_, r₁, hSkip, hOk⟩ := bind_eq_ok hOk
    cases hOk
    cases h with
    | leaf rest hWellFormed _ _ hData hAhead =>
      have hPast := (hAhead.skipData hSize hData hSkip).1
      exact ⟨rest, hWellFormed, ⟨hPast.within.clearElementState, hPast.ahead⟩, rfl⟩
    | container _ _ _ _ hIs _ => exact absurd hIs hContainer
    | terminator hEnd _ => exact absurd hEnd hNotEnd

theorem Ahead.position_of_read (hSize : data.length < 2 ^ 32) {rest : Nodes} (hWellFormed : rest.WellFormed)
  (h : Ahead data q (rest.bytes ++ (terminator ++ tail)) r) (hOk : TLV.readElement r = (.ok (), r')) :
  Position data q tail r' := by
  cases rest with
  | nil =>
    obtain ⟨hAhead, hEnd⟩ := Ahead.readTerminator hSize h hOk
    exact .terminator hEnd hAhead
  | leaf head d next =>
    obtain ⟨hHead, hNotEnd, hNotContainer, hLength, hNext⟩ := hWellFormed
    rw [Nodes.bytes, append_assoc, append_assoc] at h
    obtain ⟨hAhead, hType, hField⟩ := h.readElement hSize hHead hOk
    exact .leaf next hNext (hType ▸ hNotEnd) (hType ▸ hNotContainer)
      (.of_head hType (hField hNotEnd) hLength) hAhead
  | container head members next =>
    obtain ⟨hHead, hContainer, hMembers, hNext⟩ := hWellFormed
    rw [Nodes.bytes, append_assoc, append_assoc, append_assoc] at h
    obtain ⟨hAhead, hType, -⟩ := h.readElement hSize hHead hOk
    exact .container members next hMembers hNext (hType ▸ hContainer) hAhead

structure Exhausted (data : Bytes) (r : TLVReader) : Prop where
  within : Within data r
  noElement : r.mControlByte = none
  empty : r.mBuf = []

namespace Exhausted

theorem readElement (h : Exhausted data r) : readElement r = (.error .endOfTLV, r) := by
  refine bind_error ?_
  rw [ensureData_plain h.within.store, if_pos h.empty]

theorem elementType (h : Exhausted data r) : r.elementType = .notSpecified := by
  rw [TLVReader.elementType, h.noElement]

theorem clearElementState (h : Exhausted data r) : Exhausted data r.clearElementState :=
  ⟨h.within.clearElementState, rfl, h.empty⟩

theorem skip (h : Exhausted data r) : skip r = (.ok (), r.clearElementState) := by
  refine skip_settled ⟨?_, ?_, ?_⟩ <;> rw [h.elementType]
  · decide
  · rfl
  · exact fun hHas => by cases hHas

theorem next (h : Exhausted data r) : next r = (.error .endOfTLV, r.clearElementState) := by
  rw [TLV.next, bind_ok h.skip]
  exact bind_error h.clearElementState.readElement

theorem skipToEndOfContainer (h : Exhausted data r) : ∃ e r', skipToEndOfContainer r = (.error e, r') := by
  let s : TLVReader := { r with mContainerOpen := false }
  have hSame : Exhausted data s := ⟨h.within.of_position rfl rfl rfl rfl, h.noElement, h.empty⟩
  have hType := hSame.elementType
  have hEnter : enterOrLeave r.mContainerType 0 s = (.ok 0, s) := by
    simp [enterOrLeave, hType, TLVElementType.isContainer]
  have hSkip : skipData s = (.ok (), s) := by
    simp [skipData, hType, TLVElementType.hasLength]
  refine ⟨.endOfTLV, s, ?_⟩
  have hTurn := skipFrom_turn (by simp [hType]) hEnter hSkip
  exact hTurn.trans (bind_error hSame.readElement)

end Exhausted

/-- A reader in a container, or one that has used up its bytes there. -/
def Inside (data q tail : Bytes) (r : TLVReader) : Prop := Exhausted data r ∨ Position data q tail r

theorem readElement_end (hSize : data.length < 2 ^ 32) (h : Within data r)
  (hEnd : readElement r = (.error .endOfTLV, r')) : r.mBuf = [] ∧ r' = r := by
  by_cases hEmpty : r.mBuf = []
  · have hEnsure : ensureData .endOfTLV r = (.error .endOfTLV, r) := by
      rw [ensureData_plain h.store, if_pos hEmpty]
    rw [readElement, bind_error hEnsure] at hEnd
    exact ⟨hEmpty, (Prod.mk.inj hEnd).2.symm⟩
  · have hOther := (readElement_stays hSize h (.inr ⟨rfl, hEmpty⟩)).2
    exact absurd (congrArg Prod.fst hEnd) hOther

theorem Position.next (hSize : data.length < 2 ^ 32) (h : Position data q tail r) {r₁ : TLVReader}
  (hSkip : TLV.skip r = (.ok (), r₁)) {result : Except ChipError Unit} (hNext : next r = (result, r'))
  (hResult : result = .ok () ∨ result = .error .endOfTLV) : Inside data q tail r' := by
  obtain ⟨rest, hWellFormed, h₁, hControl⟩ := h.skip hSize hSkip
  have hAfter : r' = (TLV.next r).2 := by rw [hNext]
  cases hRead : readElement r₁ with
  | mk read r₂ =>
    cases read with
    | ok value =>
      have h₂ := h₁.position_of_read hSize hWellFormed hRead
      have hStore : r₂.mBackingStore = none := by
        have hWithin := (readElement_contained hSize h₁.within).1
        rw [hRead] at hWithin
        exact hWithin.store
      rw [hAfter, next_after_read hSkip hStore hRead]
      exact .inr h₂
    | error e =>
      have hError : TLV.next r = (.error e, r₂) := by
        rw [TLV.next, bind_ok hSkip]
        exact bind_error hRead
      rw [hError] at hNext
      obtain ⟨rfl, rfl⟩ := Prod.mk.inj hNext
      obtain rfl : e = .endOfTLV := by
        rcases hResult with hOk | hEnd
        · cases hOk
        · exact Except.error.inj hEnd
      obtain ⟨hEmpty, rfl⟩ := readElement_end hSize h₁.within hRead
      exact .inl ⟨h₁.within, hControl, hEmpty⟩

/-- The second reader is the first one after calls in the container, each of which has gone well: it
has succeeded, or it has passed over the element that the reader was on and reports the end. A
container inside is entered and exited, or opened and closed. What is called on the terminator changes
nothing. -/
inductive Passes : TLVReader → TLVReader → Prop where
  | refl (r : TLVReader) : Passes r r
  | next {r s t : TLVReader} (before : Passes r s) (ok : TLV.next s = (.ok (), t)) : Passes r t
  | nextEnd {r s t u : TLVReader} (before : Passes r s) (skipped : TLV.skip s = (.ok (), u))
      (atEnd : TLV.next s = (.error .endOfTLV, t)) : Passes r t
  | skip {r s t : TLVReader} (before : Passes r s) (ok : TLV.skip s = (.ok (), t)) : Passes r t
  | entered {r s t u v : TLVReader} {outer outer' : TLVType} (before : Passes r s)
      (enter : enterContainer s = (.ok outer, t)) (inside : Passes t u)
      (exit : exitContainer outer' u = (.ok (), v)) : Passes r v
  | opened {r c : TLVReader} {readers readers₁ readers₂ : Readers} {i j : Nat} (before : Passes r (readers i))
      (other : i ≠ j) (openIt : Readers.openContainer i j readers = (.ok (), readers₁))
      (inside : Passes (readers₁ j) c)
      (close : Readers.closeContainer i j (Function.update readers₁ j c) = (.ok (), readers₂)) :
      Passes r (readers₂ i)

theorem Ahead.openContainer {members : Nodes} (hMembers : members.WellFormed) (hOther : i ≠ j)
  (h : Ahead data q (members.bytes ++ (terminator ++ tail)) (readers i))
  (hOk : Readers.openContainer i j readers = (.ok (), readers₁)) :
  Position data q tail (readers₁ j) := by
  rw [Readers.openContainer, read_bind] at hOk
  obtain ⟨-, hOk⟩ := verify_bind_eq_ok hOk
  rw [modify_bind] at hOk
  obtain ⟨-, rfl⟩ := Prod.mk.inj hOk
  dsimp only
  rw [Function.update_of_ne hOther.symm, Function.update_self]
  exact Ahead.position hMembers ⟨h.within.of_position rfl rfl rfl rfl, h.ahead⟩ rfl

theorem openContainer_isContainer (hOk : Readers.openContainer i j readers = (.ok (), readers₁)) :
  (readers i).elementType.isContainer = true := by
  rw [Readers.openContainer, read_bind] at hOk
  exact (verify_bind_eq_ok hOk).1

theorem Position.openContainer (hOther : i ≠ j) (h : Position data q tail (readers i))
  (hOk : Readers.openContainer i j readers = (.ok (), readers₁)) :
  ∃ rest : Nodes, rest.WellFormed ∧ Position data q (rest.bytes ++ (TLV.terminator ++ tail)) (readers₁ j) := by
  have hIs := openContainer_isContainer hOk
  cases h with
  | leaf rest hWellFormed hNotEnd hNotContainer hData hAhead =>
    rw [hNotContainer] at hIs
    cases hIs
  | container members rest hMembers hWellFormed hContainer hAhead =>
    exact ⟨rest, hWellFormed, hAhead.openContainer hMembers hOther hOk⟩
  | terminator hEnd hAhead =>
    rw [hEnd] at hIs
    cases hIs

theorem closeContainer_eq_ok {readers readers' : Readers} {rest : Bytes}
  (hSkip : ∀ r', skipToEndOfContainer (readers j) = (.ok (), r') → Ahead data q rest r')
  (hOk : Readers.closeContainer i j readers = (.ok (), readers')) :
  Ahead data q rest (readers' i) ∧ (readers' i).mControlByte = none := by
  rw [Readers.closeContainer, read_bind] at hOk
  obtain ⟨-, hOk⟩ := verify_bind_eq_ok hOk
  obtain ⟨-, hOk⟩ := verify_bind_eq_ok hOk
  obtain ⟨_, readers₁, hClose, hOk⟩ := bind_eq_ok hOk
  obtain ⟨-, rfl⟩ := Prod.mk.inj hOk
  obtain ⟨hResult, rfl⟩ := Prod.mk.inj hClose
  have hAhead := hSkip (skipToEndOfContainer (readers j)).2 (Prod.ext hResult rfl)
  have hTaken : Function.update readers j (skipToEndOfContainer (readers j)).2 j =
      (skipToEndOfContainer (readers j)).2 := Function.update_self ..
  dsimp only
  rw [Function.update_self, Readers.takePosition, hTaken]
  exact ⟨⟨hAhead.within.of_position rfl rfl rfl rfl, hAhead.ahead⟩, rfl⟩

theorem Inside.skipToEndOfContainer (hSize : data.length < 2 ^ 32) (h : Inside data q tail r)
  (hOk : skipToEndOfContainer r = (.ok (), r')) : Ahead data q tail r' := by
  rcases h with hExhausted | hPosition
  · obtain ⟨e, s, hError⟩ := hExhausted.skipToEndOfContainer
    rw [hError] at hOk
    cases hOk
  · exact hPosition.skipToEndOfContainer hSize hOk

theorem Inside.exitContainer (hSize : data.length < 2 ^ 32) (h : Inside data q tail r)
  (hOk : exitContainer outer r = (.ok (), r')) : Ahead data q tail r' ∧ r'.mControlByte = none := by
  obtain ⟨_, r₁, hSkip, hOk⟩ := bind_eq_ok hOk
  have hAhead := h.skipToEndOfContainer hSize hSkip
  cases hOk
  exact ⟨⟨hAhead.within.of_position rfl rfl rfl rfl, hAhead.ahead⟩, rfl⟩

theorem Inside.position (h : Inside data q tail r) (hContainer : r.elementType.isContainer = true) :
  Position data q tail r := by
  refine h.resolve_left fun hExhausted => ?_
  rw [hExhausted.elementType] at hContainer
  cases hContainer

theorem Passes.inside (hSize : data.length < 2 ^ 32) (hPasses : Passes r r') :
  ∀ {tail : Bytes}, Inside data q tail r → Inside data q tail r' := by
  induction hPasses with
  | refl => exact id
  | @next r s t _ hOk ih =>
    intro tail h
    rcases ih h with hExhausted | hPosition
    · rw [hExhausted.next] at hOk
      cases hOk
    · obtain ⟨_, u, hSkip, -⟩ := bind_eq_ok hOk
      exact hPosition.next hSize hSkip hOk (.inl rfl)
  | @nextEnd r s t u _ hSkip hEnd ih =>
    intro tail h
    rcases ih h with hExhausted | hPosition
    · rw [hExhausted.next] at hEnd
      cases hEnd
      exact .inl hExhausted.clearElementState
    · exact hPosition.next hSize hSkip hEnd (.inr rfl)
  | @skip r s t _ hOk ih =>
    intro tail h
    rcases ih h with hExhausted | hPosition
    · rw [hExhausted.skip] at hOk
      cases hOk
      exact .inl hExhausted.clearElementState
    · obtain ⟨rest, hWellFormed, hAhead, hControl⟩ := hPosition.skip hSize hOk
      exact .inr (hAhead.position hWellFormed hControl)
  | @entered r s t u v outer outer' _ hEnter _ hExit ih ihInside =>
    intro tail h
    obtain ⟨rest, hWellFormed, hMembers⟩ :=
      ((ih h).position (enterContainer_isContainer hEnter)).enterContainer hEnter
    obtain ⟨hAhead, hControl⟩ := (ihInside (.inr hMembers)).exitContainer hSize hExit
    exact .inr (hAhead.position hWellFormed hControl)
  | @opened r c readers readers₁ readers₂ i j _ hOther hOpen _ hClose ih ihInside =>
    intro tail h
    obtain ⟨rest, hWellFormed, hMembers⟩ :=
      ((ih h).position (openContainer_isContainer hOpen)).openContainer hOther hOpen
    obtain ⟨hAhead, hControl⟩ := closeContainer_eq_ok
      (fun r' hSkip => by
        rw [Function.update_self] at hSkip
        exact (ihInside (.inr hMembers)).skipToEndOfContainer hSize hSkip) hClose
    exact .inr (hAhead.position hWellFormed hControl)

/-- A reader before a container whose encoding goes on after the end of the bytes. -/
structure BeforeTruncated (data : Bytes) (r : TLVReader) : Prop where
  size : data.length < 2 ^ 32
  within : Within data r
  noElement : r.mControlByte = none
  truncated : ∃ q head members, q ≠ [] ∧ (Nodes.container head members .nil).WellFormed ∧
    r.mBuf ++ q = (Nodes.container head members .nil).bytes

theorem not_ok {α : Type} {m : ReaderM α} (h : ∀ a r', m r ≠ (.ok a, r')) : ∃ e, (m r).1 = .error e := by
  cases hResult : m r with
  | mk result r' =>
    cases result with
    | ok a => exact absurd hResult (h a r')
    | error e => exact ⟨e, rfl⟩

theorem BeforeTruncated.next (h : BeforeTruncated data r) (hOk : next r = (.ok (), r')) :
  ∃ (q : Bytes) (members : Nodes), q ≠ [] ∧ members.WellFormed ∧
    Ahead data q (members.bytes ++ (terminator ++ [])) r' := by
  obtain ⟨q, head, members, hMissing, ⟨hHead, hContainer, hMembers, -⟩, hBuffer⟩ := h.truncated
  refine ⟨q, members, hMissing, hMembers, ?_⟩
  have hType : r.elementType = .notSpecified := by rw [elementType, h.noElement]
  have hSkip : skip r = (.ok (), r.clearElementState) := by
    refine skip_settled ⟨?_, ?_, ?_⟩ <;> rw [hType]
    · decide
    · rfl
    · exact fun hHas => by cases hHas
  obtain ⟨_, r₁, hSkip', hRest⟩ := bind_eq_ok hOk
  rw [hSkip] at hSkip'
  cases hSkip'
  obtain ⟨_, r₂, hRead, -⟩ := bind_eq_ok hRest
  have hAhead : Ahead data q (head.bytes ++ (members.bytes ++ (terminator ++ []))) r.clearElementState :=
    ⟨h.within.clearElementState, hBuffer⟩
  have hDone := (hAhead.readElement h.size hHead hRead).1
  have hAfter := next_after_read hSkip hDone.within.store hRead
  rw [hOk] at hAfter
  obtain rfl : r' = r₂ := hAfter
  exact hDone

theorem Ahead.elim {α : Prop} (hMissing : q ≠ []) (h : Ahead data q [] r) : α :=
  absurd (append_eq_nil_iff.mp h.ahead).2 hMissing

section

variable (h : BeforeTruncated data r)
include h

theorem BeforeTruncated.exitContainer {s r₁ r₂ : TLVReader} (hNext : TLV.next r = (.ok (), s))
  (hEnter : enterContainer s = (.ok outer, r₁)) (hPasses : Passes r₁ r₂) (outer' : TLVType) :
  ∃ e, (exitContainer outer' r₂).1 = .error e := by
  obtain ⟨q, members, hMissing, hMembers, hAhead⟩ := h.next hNext
  refine not_ok fun _ r' hOk => ?_
  have hInside := hPasses.inside h.size (.inr (hAhead.enterContainer hMembers hEnter))
  exact (hInside.exitContainer h.size hOk).1.elim hMissing

theorem BeforeTruncated.skip {s : TLVReader} (hNext : TLV.next r = (.ok (), s))
  (hContainer : s.elementType.isContainer = true) : ∃ e, (skip s).1 = .error e := by
  refine not_ok fun _ r' hOk => ?_
  rw [TLV.skip, read_bind] at hOk
  obtain ⟨-, hOk⟩ := verify_bind_eq_ok hOk
  rw [if_pos hContainer] at hOk
  obtain ⟨outer, r₁, hEnter, hExit⟩ := bind_eq_ok hOk
  obtain ⟨e, hError⟩ := h.exitContainer hNext hEnter (.refl r₁) outer
  rw [hExit] at hError
  cases hError

theorem BeforeTruncated.closeContainer {c : TLVReader} (hOther : i ≠ j)
  (hNext : TLV.next r = (.ok (), readers i))
  (hOpen : Readers.openContainer i j readers = (.ok (), readers₁))
  (hPasses : Passes (readers₁ j) c) :
  ∃ e, (Readers.closeContainer i j (Function.update readers₁ j c)).1 = .error e := by
  obtain ⟨q, members, hMissing, hMembers, hAhead⟩ := h.next hNext
  have hInside := hPasses.inside h.size (.inr (hAhead.openContainer hMembers hOther hOpen))
  cases hClose : Readers.closeContainer i j (Function.update readers₁ j c) with
  | mk result readers₂ =>
    cases result with
    | error e => exact ⟨e, rfl⟩
    | ok value =>
      have hEnd : ∀ r', skipToEndOfContainer (Function.update readers₁ j c j) = (.ok (), r') →
          Ahead data q [] r' := by
        intro r' hSkip
        rw [Function.update_self] at hSkip
        exact hInside.skipToEndOfContainer h.size hSkip
      exact (closeContainer_eq_ok hEnd hClose).1.elim hMissing

end

end Chip.TLV
