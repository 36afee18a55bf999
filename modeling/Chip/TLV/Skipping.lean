import Chip.TLV.Nodes

/-! Passing over elements without looking into them. `SkipToEndOfContainer` does not keep the
types of the containers around it, so after a nested container it admits every tag. -/
namespace Chip.TLV

open Proc Elements TLVReader

variable {profile : BitVec 32} {limit : Nat}

/-- The loop of `SkipToEndOfContainer` with as many turns as it can need. -/
def skipFrom (outer : TLVType) (nestLevel : Nat) : ReaderM Unit := fun r =>
  skipLoop outer (r.available + 1) nestLevel r

/-- The loop from the point where the data of the current element has been skipped. -/
def skipRest (outer : TLVType) (nestLevel : Nat) : ReaderM Unit := do
  readElement
  skipFrom outer nestLevel

variable {r : TLVReader} {rest : Bytes}

theorem skipFrom_done {outer : TLVType} (h : r.elementType = .endOfContainer) :
  skipFrom outer 0 r = (.ok (), r) := by
  rw [skipFrom, skipLoop, read_bind, if_pos ⟨h, rfl⟩]
  rfl

theorem skipFrom_turn {outer : TLVType} {nestLevel nestLevel' : Nat} {r r₁ r₂ : TLVReader}
  (hNotDone : ¬ (r.elementType = .endOfContainer ∧ nestLevel = 0))
  (hEnter : enterOrLeave outer nestLevel r = (.ok nestLevel', r₁))
  (hSkip : skipData r₁ = (.ok (), r₂)) :
  skipFrom outer nestLevel r = skipRest outer nestLevel' r₂ := by
  rw [skipFrom, skipLoop, read_bind, if_neg hNotDone, bind_ok hEnter, bind_ok hSkip]
  refine bind_congr fun _ r₃ hRead => ?_
  have hAvailable := enterOrLeave_available outer nestLevel r
  have hShrink := skipData_shrinks r₁
  have hLess := readElement_available hRead
  rw [hEnter] at hAvailable
  rw [hSkip] at hShrink
  simp only at hAvailable hShrink
  obtain ⟨more, hMore⟩ : ∃ more, r.available = r₃.available + 1 + more :=
    ⟨r.available - (r₃.available + 1), by omega⟩
  rw [hMore, skipLoop_turns]
  rfl

/-- A reader in `current` admits what may stand in a container of type `context`. -/
def Admits (context current : TLVType) : Prop := current = context ∨ current = .unknownContainer

theorem Admits.ne_notSpecified {context current : TLVType} (h : Admits context current)
  (hContext : context ≠ .notSpecified) : current ≠ .notSpecified := by
  rcases h with rfl | rfl
  · exact hContext
  · decide

theorem ElementHead.Accepted.mono {head : ElementHead} {context current : TLVType} (hHead : head.Accepted profile context)
  (hAdmits : Admits context current) : head.Accepted profile current := by
  rcases hAdmits with rfl | rfl
  · exact hHead
  · exact { hHead with admitted := rfl }

theorem skipRest_nodes (nodes : Nodes) {context current outer : TLVType} {tail : Bytes} {nestLevel : Nat}
  (hNodes : nodes.Accepted profile context) (hOuter : nestLevel = 0 → outer = context)
  (hAdmits : Admits context current) (h : Reads current profile limit (nodes.bytes ++ tail) r) :
  ∃ current' r', skipRest outer nestLevel r = skipRest outer nestLevel r' ∧
    Admits context current' ∧ Reads current' profile limit tail r' := by
  induction nodes generalizing context current outer tail nestLevel r with
  | nil => exact ⟨current, r, rfl, hAdmits, h⟩
  | leaf head data next ih =>
    obtain ⟨hHead, hNotContainer, hData, hNext⟩ := hNodes
    simp only [Nodes.bytes, List.append_assoc] at h
    obtain ⟨r₁, hRead, hReads₁, hType, -, hField⟩ := readElement_accepted (hHead.mono hAdmits)
      (fun hHas => by rw [List.length_append, hData, if_pos hHas]; omega) h
    obtain ⟨r₂, hSkip, hReads₂⟩ := (before_leaf hHead hNotContainer hData hType hField hReads₁).skips
    have hEnter : enterOrLeave outer nestLevel r₁ = (.ok nestLevel, r₁) := by
      simp [enterOrLeave, hType, hHead.notEnd, hNotContainer]
    obtain ⟨current', r', hRest, hDone⟩ := ih hNext hOuter hAdmits hReads₂
    refine ⟨current', r', ?_, hDone⟩
    calc skipRest outer nestLevel r
        _ = skipFrom outer nestLevel r₁ := bind_ok hRead
        _ = skipRest outer nestLevel r' :=
          (skipFrom_turn (fun hBoth => hHead.notEnd (hType ▸ hBoth.1)) hEnter hSkip).trans hRest
  | container head members next ihMembers ihNext =>
    obtain ⟨hHead, hContainer, hMembers, hNext⟩ := hNodes
    obtain ⟨-, -, hNotTop, hNoLength, -⟩ := hHead.container hContainer
    simp only [Nodes.bytes, List.append_assoc] at h
    obtain ⟨r₁, hRead, hReads₁, hType, -, -⟩ := readElement_accepted (hHead.mono hAdmits)
      (fun hHas => by simp [hNoLength] at hHas) h
    let r₂ : TLVReader := { r₁ with mContainerType := head.elemType.toTLVType }
    have hEnter : enterOrLeave outer nestLevel r₁ = (.ok (nestLevel + 1), r₂) := by
      simp [enterOrLeave, hType, hHead.notEnd, hContainer, r₂]
    have hSkip : skipData r₂ = (.ok (), r₂) := by
      have hType₂ : r₂.elementType = head.elemType := hType
      simp [skipData, hType₂, hNoLength]
    have hReads₂ : Reads head.elemType.toTLVType profile limit
        (members.bytes ++ (terminator ++ (next.bytes ++ tail))) r₂ :=
      { hReads₁ with buffer := hReads₁.buffer, context := rfl }
    have hInside : nestLevel + 1 = 0 → outer = head.elemType.toTLVType := by omega
    obtain ⟨current₃, r₃, hRest₃, hAdmits₃, hReads₃⟩ := ihMembers hMembers hInside (.inl rfl) hReads₂
    obtain ⟨r₄, hRead₄, hReads₄, hEnd⟩ := readElement_terminator (hAdmits₃.ne_notSpecified hNotTop) hReads₃
    let current₅ : TLVType := if nestLevel = 0 then outer else .unknownContainer
    let r₅ : TLVReader := { r₄ with mContainerType := current₅ }
    have hLeave : enterOrLeave outer (nestLevel + 1) r₄ = (.ok nestLevel, r₅) := by
      simp [enterOrLeave, hEnd, r₅, current₅]
    have hSkip₅ : skipData r₅ = (.ok (), r₅) := by
      have hEnd₅ : r₅.elementType = .endOfContainer := hEnd
      simp [skipData, hEnd₅, TLVElementType.hasLength]
    have hAdmits₅ : Admits context current₅ := by
      by_cases hLevel : nestLevel = 0
      · exact .inl ((if_pos hLevel).trans (hOuter hLevel))
      · exact .inr (if_neg hLevel)
    have hReads₅ : Reads current₅ profile limit (next.bytes ++ tail) r₅ :=
      { hReads₄ with buffer := hReads₄.buffer, context := rfl }
    obtain ⟨current', r', hRest, hDone⟩ := ihNext hNext hOuter hAdmits₅ hReads₅
    refine ⟨current', r', ?_, hDone⟩
    calc skipRest outer nestLevel r
        _ = skipFrom outer nestLevel r₁ := bind_ok hRead
        _ = skipRest outer (nestLevel + 1) r₃ :=
          (skipFrom_turn (by simp [hType, hHead.notEnd]) hEnter hSkip).trans hRest₃
        _ = skipFrom outer (nestLevel + 1) r₄ := bind_ok hRead₄
        _ = skipRest outer nestLevel r' := (skipFrom_turn (by simp) hLeave hSkip₅).trans hRest

theorem Before.exitContainer_nodes {nodes : Nodes} {inner : TLVType} (context : TLVType)
  (hNodes : nodes.Accepted profile inner) (hInner : inner ≠ .notSpecified)
  (h : Before inner profile limit (nodes.bytes ++ (terminator ++ rest)) r) :
  ∃ r', TLV.exitContainer context r = (.ok (), r') ∧ r'.clearElementState = r' ∧
    Reads context profile limit rest r' := by
  let r₁ : TLVReader := { r with mContainerOpen := false }
  have hBefore₁ : Before inner profile limit (nodes.bytes ++ (terminator ++ rest)) r₁ := by
    obtain ⟨data, hReads, hData⟩ := h.data
    exact ⟨h.notEnd, h.notContainer, data, { hReads with buffer := hReads.buffer }, hData⟩
  obtain ⟨r₂, hSkip, hReads₂⟩ := hBefore₁.skips
  have hEnter : enterOrLeave inner 0 r₁ = (.ok 0, r₁) := by
    simp [enterOrLeave, hBefore₁.notEnd, hBefore₁.notContainer]
  obtain ⟨current, r₃, hRest, hAdmits, hReads₃⟩ := skipRest_nodes nodes hNodes
    (fun _ => rfl) (.inl rfl) hReads₂
  obtain ⟨r₄, hRead₄, hReads₄, hEnd⟩ := readElement_terminator (hAdmits.ne_notSpecified hInner) hReads₃
  have hContext : r.mContainerType = inner := by
    obtain ⟨data, hReads, -⟩ := h.data
    exact hReads.context
  have hLoop : skipToEndOfContainer r = (.ok (), r₄) :=
    calc skipToEndOfContainer r
        _ = skipFrom inner 0 r₁ := by rw [skipToEndOfContainer, read_bind, hContext]; rfl
        _ = skipRest inner 0 r₃ :=
          (skipFrom_turn (fun hBoth => hBefore₁.notEnd hBoth.1) hEnter hSkip).trans hRest
        _ = skipFrom inner 0 r₄ := bind_ok hRead₄
        _ = (.ok (), r₄) := skipFrom_done hEnd
  refine ⟨{ r₄.clearElementState with mContainerType := context }, bind_ok hLoop, rfl, ?_⟩
  exact { hReads₄ with buffer := hReads₄.buffer, context := rfl }

theorem Before.exitContainer_elements {elements : Elements} {inner : TLVType} (context : TLVType)
  (hLegal : elements.Legal inner) (hInner : inner ≠ .notSpecified)
  (h : Before inner profile limit (elements.encode profile inner ++ (terminator ++ rest)) r) :
  ∃ r', TLV.exitContainer context r = (.ok (), r') ∧ r'.clearElementState = r' ∧
    Reads context profile limit rest r' := by
  obtain ⟨nodes, hNodes, -, hBytes⟩ := elements.exists_accepted profile hLegal
  exact Before.exitContainer_nodes context hNodes hInner (hBytes.symm ▸ h)

/-- A reader on an element, a container or not, that `Skip` takes to the bytes `buf`. -/
def Past (context : TLVType) (profile : BitVec 32) (limit : Nat) (buf : Bytes)
  (r : TLVReader) : Prop :=
  ∃ r', skip r = (.ok (), r') ∧ r'.clearElementState = r' ∧ Reads context profile limit buf r'

section Past

variable {context : TLVType} {r : TLVReader}

theorem Before.past {buf : Bytes} (h : Before context profile limit buf r) :
  Past context profile limit buf r := by
  obtain ⟨r₀, hSkip, hReads⟩ := h.skips
  refine ⟨r₀.clearElementState, ?_, rfl, hReads.clearElementState⟩
  simp only [skip, read_bind, verify_bind, if_pos h.notEnd, h.notContainer,
    Bool.false_eq_true, if_false]
  exact bind_ok hSkip

theorem past_nodes {type : TLVType} {members : Nodes} {rest : Bytes} (hIsContainer : type.isContainer = true)
  (hMembers : members.Accepted profile type) (hType : r.elementType = type.toElementType)
  (h : Reads context profile limit (members.bytes ++ (terminator ++ rest)) r) :
  Past context profile limit rest r := by
  obtain ⟨hNotTop, hContainer, hBack, -, -, hNotEnd, -⟩ := TLVType.isContainer_cases hIsContainer
  let r₂ : TLVReader := { r.clearElementState with
    mContainerType := r.elementType.toTLVType, mContainerOpen := false }
  have hEnter : enterContainer r = (.ok context, r₂) := by
    simp [enterContainer, hType, hContainer, r₂, h.context]
  have hSettled : Settled r₂ := ⟨(settled_clear r).notEnd, (settled_clear r).notContainer,
    (settled_clear r).noData⟩
  have hReads₂ : Reads type profile limit (members.bytes ++ (terminator ++ rest)) r₂ :=
    { h with buffer := h.buffer, context := by simp [r₂, hType, hBack] }
  obtain ⟨r₃, hExit, hClear, hReads₃⟩ := (hSettled.before hReads₂).exitContainer_nodes context
    hMembers hNotTop
  refine ⟨r₃, ?_, hClear, hReads₃⟩
  simp only [skip, read_bind, verify_bind, hType, if_pos hNotEnd, hContainer, if_true]
  rw [bind_ok hEnter, hExit]

theorem Past.next_eq {buf : Bytes} (h : Past context profile limit buf r) :
  ∃ r', next r = next r' ∧ Before context profile limit buf r' := by
  obtain ⟨r', hSkip, hClear, hReads⟩ := h
  have hSettled : Settled r' := hClear ▸ settled_clear r'
  have hAgain : skip r' = (.ok (), r') := by
    rw [skip_settled hSettled, hClear]
  refine ⟨r', ?_, hSettled.before hReads⟩
  rw [next, bind_ok hSkip, bind_ok hAgain]

theorem Past.next_leaf {tag : Tag} {value : Value} {next : Elements} {tail : Bytes}
  (h : Past context profile limit
    ((leaf tag value next).encode profile context ++ tail) r)
  (hTag : tag.LegalIn context) (hLength : value.data.length < 2 ^ 32) :
  ∃ r', TLV.next r = (.ok (), r') ∧
    Past context profile limit (next.encode profile context ++ tail) r' := by
  obtain ⟨r₀, hNext, hBefore⟩ := h.next_eq
  obtain ⟨r', hLeaf, hHolds⟩ := hBefore.next_leaf hTag hLength
  exact ⟨r', hNext.trans hLeaf, hHolds.before.past⟩

theorem Past.next_container {tag : Tag} {type : TLVType} {members next : Elements} {tail : Bytes}
  (h : Past context profile limit
    ((container tag type members next).encode profile context ++ tail) r)
  (hTag : tag.LegalIn context) (hIsContainer : type.isContainer = true)
  (hMembers : members.Legal type) :
  ∃ r', TLV.next r = (.ok (), r') ∧
    Past context profile limit (next.encode profile context ++ tail) r' := by
  obtain ⟨r₀, hNext, hBefore⟩ := h.next_eq
  obtain ⟨r₁, r₂, hContainer, -, hType, hEnter, hInside⟩ := hBefore.next_container hTag hIsContainer
  obtain ⟨hNotTop, hIs, hBack, -, -, hNotEnd, -⟩ := TLVType.isContainer_cases hIsContainer
  obtain ⟨r₃, hExit, hClear, hReads⟩ := hInside.exitContainer_elements context hMembers hNotTop
  have hElement : r₁.elementType ≠ .endOfContainer ∧ r₁.elementType.isContainer = true := by
    by_cases hIsElement : r₁.elementType.isContainer = true
    · refine ⟨fun hEnd => ?_, hIsElement⟩
      rw [hEnd] at hIsElement
      cases hIsElement
    · simp [enterContainer, hIsElement] at hEnter
  refine ⟨r₁, hNext.trans hContainer, r₃, ?_, hClear, hReads⟩
  simp only [skip, read_bind, verify_bind, if_pos hElement.1, hElement.2, if_true]
  rw [bind_ok hEnter, hExit]

theorem Past.next_end {rest : Bytes} (h : Past context profile limit (terminator ++ rest) r)
  (hContext : context ≠ .notSpecified) :
  ∃ r', TLV.next r = (.error .endOfTLV, r') := by
  obtain ⟨r₀, hNext, hBefore⟩ := h.next_eq
  obtain ⟨r', hEnd, -⟩ := hBefore.next_end hContext
  exact ⟨r', hNext.trans hEnd⟩

end Past

/-- The loop of `CountRemainingInContainer` over a copy of the reader. Each turn reads an element
head, so the number of available bytes bounds the number of turns. -/
def countLoop : Nat → Nat → TLVReader → Except ChipError Nat
  | 0, _, _ => .error .internal
  | fuel + 1, count, r =>
    match next r with
    | (.ok (), r') => countLoop fuel (count + 1) r'
    | (.error e, _) => if e = .endOfTLV then .ok count else .error e

def countRemainingInContainer (r : TLVReader) : Except ChipError Nat :=
  if r.mContainerType = .notSpecified then .error .incorrectState
  else countLoop (r.available + 1) 0 r

/-- The number of elements in a sequence, without those inside them. -/
def Elements.siblings : Elements → Nat
  | .nil => 0
  | .leaf _ _ next => next.siblings + 1
  | .container _ _ _ next => next.siblings + 1

theorem Elements.siblings_le_size (elements : Elements) : elements.siblings ≤ elements.size := by
  induction elements with
  | nil => exact Nat.le_refl 0
  | leaf tag value next ih =>
    simp only [siblings, size]
    omega
  | container tag type members next _ ih =>
    simp only [siblings, size]
    omega

theorem countLoop_elements (elements : Elements) {context : TLVType} {fuel : Nat} (count : Nat)
  (hLegal : elements.Legal context) (hContext : context ≠ .notSpecified)
  (hFuel : elements.siblings < fuel)
  (h : Past context profile limit (elements.encode profile context ++ (terminator ++ rest)) r) :
  countLoop fuel count r = .ok (count + elements.siblings) := by
  induction elements generalizing r fuel count with
  | nil =>
    obtain ⟨fuel, rfl⟩ : ∃ n, fuel = n + 1 := ⟨fuel - 1, by omega⟩
    obtain ⟨r', hNext⟩ := h.next_end hContext
    simp [countLoop, hNext, siblings]
  | leaf tag value next ih =>
    obtain ⟨fuel, rfl⟩ : ∃ n, fuel = n + 1 := ⟨fuel - 1, by omega⟩
    obtain ⟨hTag, hLength, hRest⟩ := hLegal
    obtain ⟨r', hNext, hPast⟩ := h.next_leaf hTag hLength
    have hLoop := ih (count + 1) hRest (Nat.lt_of_succ_lt_succ hFuel) hPast
    simp only [countLoop, hNext, hLoop, siblings]
    congr 1
    omega
  | container tag type members next _ ih =>
    obtain ⟨fuel, rfl⟩ : ∃ n, fuel = n + 1 := ⟨fuel - 1, by omega⟩
    obtain ⟨hTag, hType, hMembers, hRest⟩ := hLegal
    obtain ⟨r', hNext, hPast⟩ := h.next_container hTag hType hMembers
    have hLoop := ih (count + 1) hRest (Nat.lt_of_succ_lt_succ hFuel) hPast
    simp only [countLoop, hNext, hLoop, siblings]
    congr 1
    omega

theorem Before.countRemainingInContainer {elements : Elements} {context : TLVType}
  (hLegal : elements.Legal context) (hContext : context ≠ .notSpecified)
  (h : Before context profile limit (elements.encode profile context ++ (terminator ++ rest)) r) :
  TLV.countRemainingInContainer r = .ok elements.siblings := by
  obtain ⟨data, hReads, -⟩ := h.data
  have hSize := elements.size_le_encode profile hLegal
  have hSiblings := elements.siblings_le_size
  have hAvailable : elements.siblings < r.available + 1 := by
    have hBuffer : (elements.encode profile context).length ≤ r.mBuf.length := by
      rw [hReads.buffer, List.length_append, List.length_append]
      omega
    rw [TLVReader.available]
    omega
  rw [TLV.countRemainingInContainer, if_neg (hReads.context ▸ hContext),
    countLoop_elements elements 0 hLegal hContext hAvailable h.past, Nat.zero_add]

end Chip.TLV
