import Chip.App.BufferedRead
import Chip.TLV.Copying

/-! Chunked lists are put together again. Between two calls the adapter either has nothing to
deliver or holds one list; the next call for another attribute, or the end of the report,
delivers it. -/
namespace Chip.App

open Proc StatusIB ConcreteDataAttributePath TLV

section Copying

variable {s : BufferedReadCallback}

def listSize (items : List Item) : Nat := (items.map fun item => item.bytes.length).sum

theorem flatten_length (items : List Item) :
  (items.map Item.bytes).flatten.length = listSize items := by
  simp [listSize, List.length_flatten, Function.comp_def]

theorem copyItems_ok (items : List Item) (index : Nat) {w : TLVWriter} (s : BufferedReadCallback)
  (hLegal : ∀ item ∈ items, item.Legal) (hType : w.mContainerType = .array)
  (hProfile : w.implicitProfileId = profileIdNotSpecified) (hFits : Fits (listSize items) w) :
  ∃ moved, copyItems (items.map Item.bytes) index w s =
    (.ok (w.append (items.map Item.bytes).flatten), { s with mBufferedList := moved }) := by
  induction items generalizing index w s with
  | nil =>
    have hLimit := hFits.limit
    have hBound := hFits.bound
    refine ⟨s.mBufferedList, ?_⟩
    simp only [List.map_nil, List.flatten_nil]
    rw [append_nil (by omega)]
    rfl
  | cons item rest ih =>
    obtain ⟨hItem, hRest⟩ := List.forall_mem_cons.mp hLegal
    have hSum : listSize (item :: rest) = item.bytes.length + listSize rest := by simp [listSize]
    rw [hSum] at hFits
    have hLimit := hFits.limit
    have hBound := hFits.bound
    obtain ⟨r, hNext, hOn⟩ := next_itemBytes hItem (by omega)
    have hEncode : (item.elements anonymousTag .nil).encode profileIdNotSpecified w.mContainerType =
        item.bytes := by
      rw [hType, Item.encode_elements, headBytes_array]
      simp [Item.bytes, Elements.encode]
    have hTag : Tag.LegalIn anonymousTag w.mContainerType := by
      rw [hType]
      rfl
    obtain ⟨r', hCopy, -⟩ := hOn.copyElement hItem hTag hProfile
      (hEncode.symm ▸ hFits.mono (Nat.le_add_right _ _))
    rw [hEncode] at hCopy
    have hType' : (w.append item.bytes).mContainerType = .array := hType
    have hProfile' : (w.append item.bytes).implicitProfileId = profileIdNotSpecified := hProfile
    obtain ⟨moved, hLoop⟩ := ih (index + 1)
      { s with mBufferedList := s.mBufferedList.set index none } hRest hType' hProfile' hFits.append
    refine ⟨moved, ?_⟩
    simp only [List.map_cons, copyItems, moveHandle, modify_bind, hNext, hCopy, hLoop,
      append_append, List.flatten_cons]

theorem before_array (items : List Item) (hSize : listSize items + 4 < 2 ^ 32) :
  Before .notSpecified profileIdNotSpecified (listSize items + 4)
    ((Elements.container anonymousTag .array (arrayElements items) .nil).bytes ++ [0, 0])
    (TLVReader.init ((Elements.container anonymousTag .array (arrayElements items) .nil).bytes ++
      [0, 0]) (listSize items + 4)) := by
  have hHead : (headBytes .notSpecified profileIdNotSpecified TLVType.array.toElementType
      anonymousTag 0).length = 1 :=
    headBytes_anonymous_length profileIdNotSpecified TLVType.array.toElementType 0 (.inl rfl)
  have hLength : ((Elements.container anonymousTag .array (arrayElements items) .nil).bytes ++
      [0, 0]).length = listSize items + 4 := by
    simp only [Elements.bytes, Elements.encode, encode_arrayElements, List.length_append, hHead,
      flatten_length, terminator, List.length_cons, List.length_nil]
    omega
  have hMin : min (listSize items + 4) (2 ^ 32 - 1) = listSize items + 4 := by omega
  refine Settled.before ⟨by simp [TLVReader.init, TLVReader.elementType], rfl,
    by simp [TLVReader.init]⟩ ?_
  exact {
    store := rfl
    buffer := by
      simp only [TLVReader.init, hMin]
      rw [← hLength, List.take_length]
    maxLen := by simp only [TLVReader.init, hMin]
    length := by
      simp only [TLVReader.init, Nat.zero_add]
      exact hLength
    bound := hSize
    context := rfl
    profile := rfl }

theorem mapM_some (items : List Bytes) : (items.map some).mapM id = some items := by
  induction items with
  | nil => rfl
  | cons item rest ih => simp [List.mapM_cons, ih]

theorem generateListTLV_ok (items : List Item) (hLegal : ∀ item ∈ items, item.Legal)
  (hSize : listSize items + 4 < 2 ^ 32)
  (hBuffered : s.mBufferedList = (items.map Item.bytes).map some) :
  ∃ moved, generateListTLV s =
    (.ok (TLVReader.init ((Elements.container anonymousTag .array (arrayElements items) .nil).bytes ++
      [0, 0]) (listSize items + 4)), { s with mBufferedList := moved }) := by
  let size := listSize items + 4
  let head := headBytes .notSpecified profileIdNotSpecified TLVType.array.toElementType anonymousTag 0
  have hHeadLength : head.length = 1 :=
    headBytes_anonymous_length profileIdNotSpecified TLVType.array.toElementType 0 (.inl rfl)
  have hTotal : totalBufSize (items.map Item.bytes) = size := by
    have hSum : ((items.map Item.bytes).map List.length).sum = listSize items := by
      simp [listSize, Function.comp_def]
    rw [totalBufSize, hSum]
    exact Nat.mod_eq_of_lt hSize
  have hMin : min size (2 ^ 32 - 1) = size := by omega
  have hMax : (TLVWriter.init size).mMaxLen = size := hMin
  have hRemaining : (TLVWriter.init size).mRemainingLen = size := hMin
  have hFits : Fits (head.length + 1) (TLVWriter.init size) := by
    refine ⟨rfl, ?_, ?_, ?_⟩
    · rw [hMax, hHeadLength]
      change 0 + (1 + 1) ≤ listSize items + 4
      omega
    · rw [hMax]
      exact hSize
    · rw [hRemaining, hHeadLength]
      change 1 + 1 ≤ listSize items + 4
      omega
  have hTag : Tag.LegalIn anonymousTag .notSpecified := .inl rfl
  have hStart := hFits.startContainer rfl
    (elementHead_of_legal hTag profileIdNotSpecified TLVType.array.toElementType 0) rfl
  let w₁ := afterStart .array head (TLVWriter.init size)
  have hMax₁ : w₁.mMaxLen = listSize items + 3 := by
    change (TLVWriter.init size).mMaxLen - 1 = _
    rw [hMax]
    rfl
  have hRemaining₁ : w₁.mRemainingLen = listSize items + 3 := by
    change (TLVWriter.init size).mRemainingLen - head.length = _
    rw [hRemaining, hHeadLength]
    rfl
  have hLen₁ : w₁.mLenWritten = 1 := by
    change add32 0 head.length = 1
    rw [hHeadLength]
    rfl
  have hFits₁ : Fits (listSize items) w₁ := ⟨rfl, by omega, by omega, by omega⟩
  obtain ⟨moved, hCopy⟩ := copyItems_ok items 0 s hLegal (w := w₁) rfl rfl hFits₁
  let w₂ := w₁.append (items.map Item.bytes).flatten
  have hLen₂ : w₂.mLenWritten = 1 + listSize items := by
    change add32 w₁.mLenWritten _ = _
    rw [flatten_length, hLen₁, add32_of_lt (by omega)]
  have hMax₂ : w₂.mMaxLen = listSize items + 3 := hMax₁
  have hRemaining₂ : w₂.mRemainingLen = 3 := by
    change w₁.mRemainingLen - _ = _
    rw [flatten_length, hRemaining₁]
    omega
  have hEnd := Fits.endContainer .notSpecified (w := w₂) rfl rfl rfl (by omega) (by omega) (by omega)
  have hBuf : (afterEnd .notSpecified w₂).mBuf =
      (Elements.container anonymousTag .array (arrayElements items) .nil).bytes := by
    change ([] ++ head) ++ (items.map Item.bytes).flatten ++ terminator = _
    simp [Elements.bytes, Elements.encode, encode_arrayElements, head]
  have hBufLength : (afterEnd .notSpecified w₂).mBuf.length = listSize items + 2 := by
    change (([] ++ head) ++ (items.map Item.bytes).flatten ++ terminator).length = _
    simp only [List.nil_append, List.length_append, hHeadLength, flatten_length, terminator,
      List.length_cons, List.length_nil]
    omega
  refine ⟨moved, ?_⟩
  simp only [generateListTLV, read_bind, hBuffered, mapM_some, hTotal]
  rw [hStart]
  simp only
  rw [bind_ok hCopy]
  rw [show w₁.append (items.map Item.bytes).flatten = w₂ from rfl]
  rw [show (TLVWriter.init size).mContainerType = .notSpecified from rfl, hEnd]
  simp only [hBufLength]
  rw [hBuf, show size - (listSize items + 2) = 2 by omega]
  rfl

variable {maxSecureSduLength : Nat} {context : TLVType} {limit : Nat} {rest : Bytes} {r : TLVReader}

structure Bufferable (maxSecureSduLength : Nat) (item : Item) : Prop where
  legal : item.Legal
  fits : item.bytes.length ≤ maxSecureSduLength

theorem bufferListItem_ok {item : Item} (hMax : maxSecureSduLength < 2 ^ 32)
  (hItem : Bufferable maxSecureSduLength item) (hOn : On context limit item rest r)
  (s : BufferedReadCallback) :
  ∃ r', bufferListItem maxSecureSduLength r s =
      (.ok r', { s with mBufferedList := s.mBufferedList ++ [some item.bytes] }) ∧
    r'.clearElementState = r' ∧ Reads context profileIdNotSpecified limit rest r' := by
  let w := TLVWriter.initBackingStore maxSecureSduLength [] (2 ^ 32 - 1)
  have hBytes : (item.elements anonymousTag .nil).encode profileIdNotSpecified w.mContainerType =
      item.bytes := item.bytes_eq.symm
  have hTag : Tag.LegalIn anonymousTag w.mContainerType := .inl rfl
  have hFits : Fits item.bytes.length w := by
    have hLength := hItem.fits
    refine ⟨rfl, ?_, ?_, hItem.fits⟩
    · change 0 + item.bytes.length ≤ 2 ^ 32 - 1
      omega
    · change 2 ^ 32 - 1 < 2 ^ 32
      omega
  obtain ⟨r', hCopy, hClear, hReads⟩ := hOn.copyElement hItem.legal hTag rfl (hBytes.symm ▸ hFits)
  rw [hBytes] at hCopy
  refine ⟨r', ?_, hClear, hReads⟩
  simp only [bufferListItem]
  rw [hCopy]
  rfl

theorem bufferItems_ok (items : List Item) {fuel : Nat} (hMax : maxSecureSduLength < 2 ^ 32)
  (hItems : ∀ item ∈ items, Bufferable maxSecureSduLength item) (hFuel : items.length < fuel)
  (h : Past .array profileIdNotSpecified limit
    ((arrayElements items).encode profileIdNotSpecified .array ++ (terminator ++ rest)) r)
  (s : BufferedReadCallback) :
  ∃ r', bufferItems maxSecureSduLength fuel r s =
      (.ok r', { s with mBufferedList := s.mBufferedList ++ (items.map Item.bytes).map some }) ∧
    Reads .array profileIdNotSpecified limit rest r' ∧ r'.elementType = .endOfContainer := by
  induction items generalizing fuel r s with
  | nil =>
    obtain ⟨fuel, rfl⟩ : ∃ n, fuel = n + 1 := ⟨fuel - 1, by omega⟩
    obtain ⟨r₀, hNext, hBefore⟩ := h.next_eq
    obtain ⟨r', hEnd, hReads, hType⟩ := (before_nil hBefore).next_end (by decide)
    refine ⟨r', ?_, hReads, hType⟩
    simp [bufferItems, hNext, hEnd]
  | cons item items ih =>
    obtain ⟨fuel, rfl⟩ : ∃ n, fuel = n + 1 := ⟨fuel - 1, by omega⟩
    obtain ⟨hItem, hRest⟩ := List.forall_mem_cons.mp hItems
    obtain ⟨r₁, hNext, -, hOn⟩ := h.next_item rfl hItem.legal
    obtain ⟨r₂, hBuffer, hClear, hReads⟩ := bufferListItem_ok hMax hItem hOn s
    have hSettled : Settled r₂ := hClear ▸ TLV.settled_clear r₂
    obtain ⟨r', hLoop, hDone⟩ := ih hRest (Nat.lt_of_succ_lt_succ hFuel)
      (hSettled.before hReads).past
      { s with mBufferedList := s.mBufferedList ++ [some item.bytes] }
    refine ⟨r', ?_, hDone⟩
    simp only [bufferItems, hNext]
    rw [bind_ok hBuffer, hLoop]
    simp

theorem bufferArray_ok (items : List Item) (hMax : maxSecureSduLength < 2 ^ 32)
  (hItems : ∀ item ∈ items, Bufferable maxSecureSduLength item)
  (hOn : On context limit (.container .array (arrayElements items)) rest r)
  (s : BufferedReadCallback) :
  bufferArray maxSecureSduLength r s =
    (.ok (), { s with mBufferedList := (items.map Item.bytes).map some }) := by
  obtain ⟨r₁, hArray, hEnter, hSettled, hReads₁⟩ := hOn.enterContainer
  have hLegal := arrayElements_legal fun item hItem => (hItems item hItem).legal
  have hFuel : items.length < r₁.available + 1 := by
    have hSize := (arrayElements items).size_le_encode profileIdNotSpecified hLegal
    have hSiblings := (arrayElements items).siblings_le_size
    have hAvailable := available_of_reads hReads₁
    rw [arrayElements_siblings] at hSiblings
    omega
  obtain ⟨r₂, hLoop, hReads₂, hEnd⟩ := bufferItems_ok items hMax hItems hFuel
    (hSettled.before hReads₁).past { s with mBufferedList := [] }
  obtain ⟨r₃, hExit, -⟩ := exitContainer_terminator context hEnd hReads₂
  simp only [bufferArray, verify_bind, if_pos hArray, modify_bind, hEnter]
  rw [bind_ok hLoop, hExit]
  rfl

end Copying

structure AppendedItem where
  path : ConcreteDataAttributePath
  reader : TLVReader
  item : Item

/-- What a report says of an attribute: a list, as a whole array and items appended to it; a value
that is no list; or a status. -/
inductive AttributeReport where
  | list (path : ConcreteDataAttributePath) (reader : TLVReader) (items : List Item)
      (appended : List AppendedItem)
  | value (path : ConcreteDataAttributePath) (data : Option TLVReader)
  | errorStatus (path : ConcreteDataAttributePath) (status : StatusIB)

namespace AttributeReport

def path : AttributeReport → ConcreteDataAttributePath
  | list path .. => path
  | value path _ => path
  | errorStatus path _ => path

/-- The calls of `OnAttributeData` by which it arrives. -/
def messages : AttributeReport →
  List (ConcreteDataAttributePath × Option TLVReader × StatusIB)
  | list path reader _ appended =>
    (path, some reader, .success) :: appended.map fun a => (a.path, some a.reader, .success)
  | value path data => [(path, data, .success)]
  | errorStatus path status => [(path, none, status)]

def ReaderOn (reader : TLVReader) (item : Item) : Prop :=
  ∃ context limit rest, On context limit item rest reader

/-- A list comes as one array under a replace-all path, and items under append paths for the same
attribute. Its items fit packet buffers, for they came in messages, and they take less than
`2 ^ 32` bytes with the four that are added for the array. Values and error statuses have paths
without a list operation. -/
def WellFormed (maxSecureSduLength : Nat) : AttributeReport → Prop
  | list path reader items appended =>
    path.mListOp = .replaceAll ∧ ReaderOn reader (.container .array (arrayElements items)) ∧
      (∀ item ∈ items, Bufferable maxSecureSduLength item) ∧
      (∀ a ∈ appended, a.path.mListOp = .appendItem ∧ a.path.sameAttribute path = true ∧
        ReaderOn a.reader a.item ∧ Bufferable maxSecureSduLength a.item) ∧
      listSize (items ++ appended.map AppendedItem.item) + 4 < 2 ^ 32
  | value path _ => path.mListOp = .notList
  | errorStatus path status => path.mListOp = .notList ∧ status.isSuccess = false

/-- A list that the next report, for the same attribute, takes the place of. -/
def supersededBy : AttributeReport → List AttributeReport → Bool
  | list path .., next :: _ => next.path.sameAttribute path
  | _, _ => false

/-- The path of the last chunk of a list, with the operation that replaces all. -/
def listPath (path : ConcreteDataAttributePath) (appended : List AppendedItem) :
  ConcreteDataAttributePath :=
  { ((appended.map AppendedItem.path).getLast?.getD path) with mListOp := .replaceAll }

/-- The call that delivers a report: the list under a replace-all path with an array of all items
in order, or what came, unchanged. -/
def DeliveredBy : AttributeReport → ReadCall → Prop
  | list path _ items appended, call =>
    ∃ reader, call = .attributeData (listPath path appended) (some reader) .success ∧
      reader.getType = .array ∧
      readArray reader = .ok (arrayElements (items ++ appended.map AppendedItem.item))
  | value path data, call => call = .attributeData path data .success
  | errorStatus path status, call => call = .attributeData path none status

end AttributeReport

open AttributeReport

/-- The reports that are delivered: all but the lists that are superseded. -/
def deliveredReports : List AttributeReport → List AttributeReport
  | [] => []
  | report :: rest =>
    if report.supersededBy rest then deliveredReports rest else report :: deliveredReports rest

def receiveMessages (maxSecureSduLength : Nat) :
  List (ConcreteDataAttributePath × Option TLVReader × StatusIB) → BufferedReadCallback →
    Option BufferedReadCallback
  | [], s => some s
  | (path, data, status) :: rest, s => do
      let s ← onAttributeData maxSecureSduLength path data status s
      receiveMessages maxSecureSduLength rest s

def receiveReport (maxSecureSduLength : Nat) (reports : List AttributeReport)
  (s : BufferedReadCallback) : Option BufferedReadCallback := do
  let s ← receiveMessages maxSecureSduLength (reports.flatMap messages) (onReportBegin s)
  onReportEnd s

def receiveReports (maxSecureSduLength : Nat) :
  List (List AttributeReport) → BufferedReadCallback → Option BufferedReadCallback
  | [], s => some s
  | reports :: rest, s => do
      let s ← receiveReport maxSecureSduLength reports s
      receiveReports maxSecureSduLength rest s

/-- Nothing is to be delivered, or the list that has arrived so far is held. -/
def Buffers (maxSecureSduLength : Nat) : Option AttributeReport → BufferedReadCallback → Prop
  | none, s => s.mBufferedPath.isListOperation = false
  | some (.list path reader items appended), s =>
    (list path reader items appended).WellFormed maxSecureSduLength ∧
      s.mBufferedPath.isListOperation = true ∧
      { s.mBufferedPath with mListOp := .replaceAll } = listPath path appended ∧
      s.mBufferedPath.sameAttribute path = true ∧
      s.mBufferedList = ((items ++ appended.map AppendedItem.item).map Item.bytes).map some
  | some _, _ => False

section Steps

variable {maxSecureSduLength : Nat} {s : BufferedReadCallback}

theorem sameAttribute_iff {a b : ConcreteDataAttributePath} :
  a.sameAttribute b = true ↔
    a.mEndpointId = b.mEndpointId ∧ a.mClusterId = b.mClusterId ∧ a.mAttributeId = b.mAttributeId := by
  simp [sameAttribute, and_assoc]

theorem sameAttribute_congr {a b : ConcreteDataAttributePath} (h : a.sameAttribute b = true)
  (path : ConcreteDataAttributePath) : path.sameAttribute a = path.sameAttribute b := by
  rw [Bool.eq_iff_iff, sameAttribute_iff, sameAttribute_iff]
  obtain ⟨h₁, h₂, h₃⟩ := sameAttribute_iff.mp h
  rw [h₁, h₂, h₃]

theorem dispatchList_ok {report : AttributeReport} (h : Buffers maxSecureSduLength (some report) s) :
  ∃ call s', dispatchList s = (.ok (), s') ∧ report.DeliveredBy call ∧
    s'.calls = s.calls ++ [call] ∧ Buffers maxSecureSduLength none s' := by
  cases report with
  | value path data => exact absurd h id
  | errorStatus path status => exact absurd h id
  | list path reader items appended =>
    obtain ⟨hWell, -, hPath, -, hBuffered⟩ := h
    obtain ⟨-, -, hItems, hAppended, hSize⟩ := hWell
    let all := items ++ appended.map AppendedItem.item
    have hLegal : ∀ item ∈ all, item.Legal := by
      intro item hItem
      rcases List.mem_append.mp hItem with hFirst | hLast
      · exact (hItems item hFirst).legal
      · obtain ⟨a, ha, rfl⟩ := List.mem_map.mp hLast
        exact (hAppended a ha).2.2.2.legal
    obtain ⟨moved, hGenerate⟩ := generateListTLV_ok all hLegal hSize hBuffered
    have hBefore := (before_array all hSize).past
    have hArray : (Item.container .array (arrayElements all)).Legal :=
      ⟨rfl, arrayElements_legal hLegal⟩
    have hTag : Tag.LegalIn anonymousTag .notSpecified := .inl rfl
    obtain ⟨r, hNext, -, hOn⟩ := Past.next_item hBefore hTag hArray
    obtain ⟨hType, hRead⟩ := hOn.readArray hArray.2
    let call : ReadCall := .attributeData (listPath path appended) (some r) .success
    refine ⟨call, ⟨.empty, [], s.calls ++ [call]⟩, ?_, ⟨r, rfl, hType, hRead⟩, rfl, rfl⟩
    rw [dispatchList, bind_ok hGenerate]
    simp only [modify_bind, hNext, read_bind, deliver]
    rw [hPath]
    rfl

variable {pending : Option AttributeReport} {path : ConcreteDataAttributePath} {reader : TLVReader}
  {items : List Item}

section

variable (h : Buffers maxSecureSduLength pending s)
include h

theorem dispatchBufferedData_ok (path : ConcreteDataAttributePath) (status : StatusIB) :
  ∃ calls s', dispatchBufferedData path status false s = (.ok (), s') ∧
    s'.calls = s.calls ++ calls ∧
    ((∃ report, pending = some report ∧ path.sameAttribute report.path = false ∧
        (∃ call, calls = [call] ∧ report.DeliveredBy call) ∧
        Buffers maxSecureSduLength none s') ∨
      ((∀ report, pending = some report → path.sameAttribute report.path = true) ∧
        calls = [] ∧ s' = s)) := by
  cases pending with
  | none =>
    have hNot : s.mBufferedPath.isListOperation = false := h
    refine ⟨[], s, ?_, by simp, .inr ⟨by simp, rfl, rfl⟩⟩
    simp [dispatchBufferedData, hNot]
  | some report =>
    have hSame : path.sameAttribute s.mBufferedPath = path.sameAttribute report.path := by
      cases report with
      | value path data => exact absurd h id
      | errorStatus path status => exact absurd h id
      | list first reader items appended =>
        obtain ⟨-, -, -, hSame, -⟩ := h
        exact sameAttribute_congr hSame path
    have hList : s.mBufferedPath.isListOperation = true := by
      cases report with
      | value path data => exact absurd h id
      | errorStatus path status => exact absurd h id
      | list first reader items appended => exact h.2.1
    cases hCase : path.sameAttribute report.path with
    | true =>
      refine ⟨[], s, ?_, by simp, .inr ⟨by simpa using hCase, rfl, rfl⟩⟩
      simp [dispatchBufferedData, hSame, hCase]
    | false =>
      obtain ⟨call, s', hDispatch, hDelivered, hCalls, hNone⟩ := dispatchList_ok h
      refine ⟨[call], s', ?_, hCalls,
        .inl ⟨report, rfl, hCase, ⟨call, rfl, hDelivered⟩, hNone⟩⟩
      simpa [dispatchBufferedData, hSame, hCase, hList] using hDispatch

theorem deliveredReports_pending (report : AttributeReport) (rest : List AttributeReport) :
  deliveredReports (pending.toList ++ report :: rest) =
    (pending.toList.filter fun p => !report.path.sameAttribute p.path) ++
      deliveredReports (report :: rest) := by
  cases pending with
  | none => rfl
  | some held =>
    cases held with
    | value path data => exact absurd h id
    | errorStatus path status => exact absurd h id
    | list path reader items appended =>
      let held := list path reader items appended
      have hHead : deliveredReports (held :: report :: rest) =
          if report.path.sameAttribute path then deliveredReports (report :: rest)
          else held :: deliveredReports (report :: rest) := rfl
      have hFilter : ([held].filter fun p => !report.path.sameAttribute p.path) =
          if report.path.sameAttribute path then [] else [held] := by
        cases hSame : report.path.sameAttribute path with
        | true => simp [show held.path = path from rfl, hSame]
        | false => simp [show held.path = path from rfl, hSame]
      change deliveredReports (held :: report :: rest) =
        ([held].filter fun p => !report.path.sameAttribute p.path) ++ _
      rw [hHead, hFilter]
      split
      · rfl
      · rfl

theorem dispatchBefore (path : ConcreteDataAttributePath) (status : StatusIB) :
  ∃ calls s', dispatchBufferedData path status false s = (.ok (), s') ∧
    s'.calls = s.calls ++ calls ∧
    List.Forall₂ DeliveredBy (pending.toList.filter fun p => !path.sameAttribute p.path) calls := by
  obtain ⟨calls, s', hDispatch, hCalls, hCase⟩ := dispatchBufferedData_ok h path status
  refine ⟨calls, s', hDispatch, hCalls, ?_⟩
  rcases hCase with ⟨report, rfl, hOther, ⟨call, rfl, hDelivered⟩, -⟩ | ⟨hSame, rfl, -⟩
  · simpa [hOther] using hDelivered
  · cases pending with
    | none => exact .nil
    | some report =>
      have := hSame report rfl
      simp [this]

theorem onAttributeData_plain (hPath : path.mListOp = .notList) (data : Option TLVReader)
  (status : StatusIB) :
  ∃ calls s', onAttributeData maxSecureSduLength path data status s = some s' ∧
    s'.calls = s.calls ++ calls ++ [.attributeData path data status] ∧
    List.Forall₂ DeliveredBy (pending.toList.filter fun p => !path.sameAttribute p.path) calls ∧
    Buffers maxSecureSduLength none s' := by
  obtain ⟨calls, s₁, hDispatch, hCalls, hDelivered⟩ := dispatchBefore h path status
  have hNot : path.isListOperation = false := by
    simp [isListOperation, hPath]
  refine ⟨calls, { s₁ with
      mBufferedPath := path
      calls := s₁.calls ++ [.attributeData path data status] }, ?_, ?_, hDelivered, hNot⟩
  · rw [onAttributeData, handleAttributeData, bind_ok hDispatch]
    simp [hNot, deliver, reportError]
  · simp [hCalls]

end

theorem onAttributeData_array (hMax : maxSecureSduLength < 2 ^ 32)
  (h : Buffers maxSecureSduLength pending s)
  (hWell : (list path reader items []).WellFormed maxSecureSduLength) :
  ∃ calls s', onAttributeData maxSecureSduLength path (some reader) .success s = some s' ∧
    s'.calls = s.calls ++ calls ∧
    List.Forall₂ DeliveredBy (pending.toList.filter fun p => !path.sameAttribute p.path) calls ∧
    Buffers maxSecureSduLength (some (list path reader items [])) s' := by
  obtain ⟨calls, s₁, hDispatch, hCalls, hDelivered⟩ := dispatchBefore h path .success
  obtain ⟨hOp, ⟨context, limit, rest, hOn⟩, hItems, -, -⟩ := id hWell
  have hList : path.isListOperation = true := by
    simp [isListOperation, hOp]
  have hBuffer := bufferArray_ok items hMax hItems hOn s₁
  refine ⟨calls, { s₁ with
      mBufferedPath := path
      mBufferedList := (items.map Item.bytes).map some }, ?_, hCalls, hDelivered, hWell, hList, ?_, ?_, ?_⟩
  · rw [onAttributeData, handleAttributeData, bind_ok hDispatch]
    simp only [hList, Bool.true_and, bufferData, hOp]
    rw [if_pos (show success.isSuccess = true from rfl), bind_ok hBuffer]
    rfl
  · rfl
  · exact sameAttribute_iff.mpr ⟨rfl, rfl, rfl⟩
  · simp

theorem wellFormed_take {before after : List AppendedItem}
  (h : (list path reader items (before ++ after)).WellFormed maxSecureSduLength) :
  (list path reader items before).WellFormed maxSecureSduLength := by
  obtain ⟨hOp, hOn, hItems, hAppended, hSize⟩ := h
  refine ⟨hOp, hOn, hItems, fun a ha => hAppended a (List.mem_append_left after ha), ?_⟩
  simp only [listSize, List.map_append, List.sum_append] at hSize ⊢
  omega

theorem receiveMessages_appended (hMax : maxSecureSduLength < 2 ^ 32) (before after : List AppendedItem)
  (hWell : (list path reader items (before ++ after)).WellFormed maxSecureSduLength)
  (h : Buffers maxSecureSduLength (some (list path reader items before)) s) :
  ∃ s', receiveMessages maxSecureSduLength
      (after.map fun a => (a.path, some a.reader, success)) s = some s' ∧
    s'.calls = s.calls ∧
    Buffers maxSecureSduLength (some (list path reader items (before ++ after))) s' := by
  induction after generalizing before s with
  | nil => exact ⟨s, rfl, rfl, by simpa using h⟩
  | cons a after ih =>
    obtain ⟨-, -, -, hAppended, -⟩ := id hWell
    obtain ⟨hOp, hSame, ⟨context, limit, rest, hOn⟩, hItem⟩ :=
      hAppended a (List.mem_append_right before (List.mem_cons_self ..))
    obtain ⟨calls, s₁, hDispatch, -, hCase⟩ := dispatchBufferedData_ok h a.path .success
    obtain ⟨-, -, rfl⟩ : (∀ report, some (list path reader items before) = some report →
        a.path.sameAttribute report.path = true) ∧ calls = [] ∧ s₁ = s := by
      rcases hCase with ⟨report, hReport, hOther, -⟩ | hKept
      · cases hReport
        rw [show (list path reader items before).path = path from rfl, hSame] at hOther
        cases hOther
      · exact hKept
    have hList : a.path.isListOperation = true := by
      simp [isListOperation, hOp]
    obtain ⟨r', hBuffer, -⟩ := bufferListItem_ok hMax hItem hOn s₁
    let s₂ : BufferedReadCallback := { s₁ with
      mBufferedPath := a.path
      mBufferedList := s₁.mBufferedList ++ [some a.item.bytes] }
    have hStep : onAttributeData maxSecureSduLength a.path (some a.reader) .success s₁ = some s₂ := by
      rw [onAttributeData, handleAttributeData, bind_ok hDispatch]
      have hData : bufferData maxSecureSduLength a.path (some a.reader) s₁ =
          (.ok (), { s₁ with mBufferedList := s₁.mBufferedList ++ [some a.item.bytes] }) := by
        simp only [bufferData, hOp]
        rw [bind_ok hBuffer]
        rfl
      simp only [hList, Bool.true_and]
      rw [if_pos (show success.isSuccess = true from rfl), bind_ok hData]
      rfl
    have hWell' : (list path reader items ((before ++ [a]) ++ after)).WellFormed
        maxSecureSduLength := by
      simpa using hWell
    have hHeld : Buffers maxSecureSduLength (some (list path reader items (before ++ [a]))) s₂ := by
      obtain ⟨-, -, -, -, hBuffered⟩ := h
      refine ⟨wellFormed_take hWell', hList, ?_, hSame, ?_⟩
      · simp [listPath, s₂]
      · simp [s₂, hBuffered]
    obtain ⟨s', hRest, hCalls, hDone⟩ := ih (before ++ [a]) hWell' hHeld
    refine ⟨s', ?_, hCalls, by simpa using hDone⟩
    simp only [List.map_cons, receiveMessages, hStep]
    exact hRest

theorem receiveMessages_append
  (messages rest : List (ConcreteDataAttributePath × Option TLVReader × StatusIB))
  (s : BufferedReadCallback) :
  receiveMessages maxSecureSduLength (messages ++ rest) s =
    (receiveMessages maxSecureSduLength messages s).bind
      (receiveMessages maxSecureSduLength rest) := by
  induction messages generalizing s with
  | nil => rfl
  | cons message messages ih =>
    obtain ⟨path, data, status⟩ := message
    simp only [List.cons_append, receiveMessages]
    cases onAttributeData maxSecureSduLength path data status s with
    | none => rfl
    | some s' => exact ih s'

section

variable (hMax : maxSecureSduLength < 2 ^ 32) (h : Buffers maxSecureSduLength pending s)
include hMax h

theorem receiveMessages_report {report : AttributeReport}
  (hWell : report.WellFormed maxSecureSduLength) :
  ∃ pending' out calls s', receiveMessages maxSecureSduLength report.messages s = some s' ∧
    s'.calls = s.calls ++ calls ∧ List.Forall₂ DeliveredBy out calls ∧
    Buffers maxSecureSduLength pending' s' ∧
    ∀ rest, deliveredReports (pending.toList ++ report :: rest) =
      out ++ deliveredReports (pending'.toList ++ rest) := by
  let out := pending.toList.filter fun p => !report.path.sameAttribute p.path
  cases report with
  | list path reader items appended =>
    have hFirst : (list path reader items ([] ++ appended)).WellFormed maxSecureSduLength := hWell
    obtain ⟨calls, s₁, hArray, hCalls, hDelivered, hHeld⟩ :=
      onAttributeData_array hMax h (wellFormed_take hFirst)
    obtain ⟨s', hAppended, hCalls', hHeld'⟩ := receiveMessages_appended hMax [] appended hFirst hHeld
    refine ⟨some (list path reader items appended), out, calls, s', ?_, hCalls' ▸ hCalls,
      hDelivered, hHeld', deliveredReports_pending h _⟩
    simp only [messages, receiveMessages, hArray]
    exact hAppended
  | value path data =>
    obtain ⟨calls, s', hStep, hCalls, hDelivered, hNone⟩ :=
      onAttributeData_plain h hWell data .success
    have hSelf : List.Forall₂ DeliveredBy [value path data] [.attributeData path data .success] :=
      .cons rfl .nil
    refine ⟨none, out ++ [value path data], calls ++ [.attributeData path data .success], s', ?_,
      by simpa using hCalls, List.rel_append hDelivered hSelf, hNone, ?_⟩
    · simp only [messages, receiveMessages, hStep]
      rfl
    · intro rest
      rw [deliveredReports_pending h, List.append_assoc]
      rfl
  | errorStatus path status =>
    obtain ⟨calls, s', hStep, hCalls, hDelivered, hNone⟩ :=
      onAttributeData_plain h hWell.1 none status
    have hSelf : List.Forall₂ DeliveredBy [errorStatus path status]
        [.attributeData path none status] :=
      .cons rfl .nil
    refine ⟨none, out ++ [errorStatus path status], calls ++ [.attributeData path none status], s',
      ?_, by simpa using hCalls, List.rel_append hDelivered hSelf, hNone, ?_⟩
    · simp only [messages, receiveMessages, hStep]
      rfl
    · intro rest
      rw [deliveredReports_pending h, List.append_assoc]
      rfl

theorem receiveMessages_reports (reports : List AttributeReport)
  (hWell : ∀ report ∈ reports, report.WellFormed maxSecureSduLength) :
  ∃ pending' out calls s',
    receiveMessages maxSecureSduLength (reports.flatMap messages) s = some s' ∧
    s'.calls = s.calls ++ calls ∧ List.Forall₂ DeliveredBy out calls ∧
    Buffers maxSecureSduLength pending' s' ∧
    deliveredReports (pending.toList ++ reports) = out ++ pending'.toList := by
  induction reports generalizing pending s with
  | nil =>
    refine ⟨pending, [], [], s, rfl, by simp, .nil, h, ?_⟩
    cases pending with
    | none => rfl
    | some report =>
      cases report with
      | value path data => exact absurd h id
      | errorStatus path status => exact absurd h id
      | list path reader items appended => rfl
  | cons report reports ih =>
    obtain ⟨hReport, hReports⟩ := List.forall_mem_cons.mp hWell
    obtain ⟨pending₁, out₁, calls₁, s₁, hStep, hCalls₁, hDelivered₁, hHeld₁, hOut₁⟩ :=
      receiveMessages_report hMax h hReport
    obtain ⟨pending', out, calls, s', hRest, hCalls, hDelivered, hHeld, hOut⟩ := ih hHeld₁ hReports
    refine ⟨pending', out₁ ++ out, calls₁ ++ calls, s', ?_, ?_, List.rel_append hDelivered₁ hDelivered,
      hHeld, ?_⟩
    · rw [List.flatMap_cons, receiveMessages_append, hStep]
      exact hRest
    · rw [hCalls, hCalls₁, List.append_assoc]
    · rw [hOut₁, hOut, List.append_assoc]

end

theorem onReportEnd_ok (h : Buffers maxSecureSduLength pending s) :
  ∃ calls s', onReportEnd s = some s' ∧ s'.calls = s.calls ++ calls ++ [.reportEnd] ∧
    List.Forall₂ DeliveredBy pending.toList calls ∧ Buffers maxSecureSduLength none s' := by
  cases pending with
  | none =>
    have hNot : s.mBufferedPath.isListOperation = false := h
    refine ⟨[], { s with calls := s.calls ++ [.reportEnd] }, ?_, by simp, .nil, hNot⟩
    simp [onReportEnd, dispatchBufferedData, hNot, reportError]
  | some report =>
    have hList : s.mBufferedPath.isListOperation = true := by
      cases report with
      | value path data => exact absurd h id
      | errorStatus path status => exact absurd h id
      | list first reader items appended => exact h.2.1
    obtain ⟨call, s', hDispatch, hDelivered, hCalls, hNone⟩ := dispatchList_ok h
    refine ⟨[call], { s' with calls := s'.calls ++ [.reportEnd] }, ?_, by simp [hCalls],
      .cons hDelivered .nil, hNone⟩
    have hEnd : dispatchBufferedData s.mBufferedPath .success true s = (.ok (), s') := by
      simpa [dispatchBufferedData, isSuccess, success, hList] using hDispatch
    simp [onReportEnd, hEnd, reportError]

theorem receiveReport_ok (hMax : maxSecureSduLength < 2 ^ 32)
  (h : Buffers maxSecureSduLength none s) (reports : List AttributeReport)
  (hWell : ∀ report ∈ reports, report.WellFormed maxSecureSduLength) :
  ∃ calls s', receiveReport maxSecureSduLength reports s = some s' ∧
    s'.calls = s.calls ++ (.reportBegin :: calls ++ [.reportEnd]) ∧
    List.Forall₂ DeliveredBy (deliveredReports reports) calls ∧
    Buffers maxSecureSduLength none s' := by
  have hBegin : Buffers maxSecureSduLength none (onReportBegin s) := h
  obtain ⟨pending, out, calls₁, s₁, hMessages, hCalls₁, hDelivered₁, hHeld, hOut⟩ :=
    receiveMessages_reports hMax hBegin reports hWell
  obtain ⟨calls₂, s', hEnd, hCalls₂, hDelivered₂, hNone⟩ := onReportEnd_ok hHeld
  refine ⟨calls₁ ++ calls₂, s', ?_, ?_, ?_, hNone⟩
  · simp only [receiveReport, hMessages]
    exact hEnd
  · rw [hCalls₂, hCalls₁]
    simp [onReportBegin]
  · have hAll : deliveredReports reports = out ++ pending.toList := hOut
    rw [hAll]
    exact List.rel_append hDelivered₁ hDelivered₂

end Steps

/-- Over any number of reports, the wrapped callback gets, between the begin and the end of each,
one call for every report that is not superseded, in the order in which they came. -/
theorem lists_reassembled (maxSecureSduLength : Nat) (hMax : maxSecureSduLength < 2 ^ 32)
    (reports : List (List AttributeReport))
    (hWell : ∀ report ∈ reports, ∀ r ∈ report, r.WellFormed maxSecureSduLength) :
    ∃ s callss, receiveReports maxSecureSduLength reports .initial = some s ∧
      List.Forall₂ (List.Forall₂ DeliveredBy) (reports.map deliveredReports) callss ∧
      s.calls = callss.flatMap fun calls => .reportBegin :: calls ++ [.reportEnd] := by
  have hRun : ∀ s, Buffers maxSecureSduLength none s →
      ∃ s' callss, receiveReports maxSecureSduLength reports s = some s' ∧
        List.Forall₂ (List.Forall₂ DeliveredBy) (reports.map deliveredReports) callss ∧
        s'.calls = s.calls ++ callss.flatMap fun calls => .reportBegin :: calls ++ [.reportEnd] := by
    induction reports with
    | nil => exact fun s _ => ⟨s, [], rfl, .nil, by simp⟩
    | cons report reports ih =>
      intro s h
      obtain ⟨hReport, hReports⟩ := List.forall_mem_cons.mp hWell
      obtain ⟨calls, s₁, hStep, hCalls₁, hDelivered, hNone⟩ := receiveReport_ok hMax h report hReport
      obtain ⟨s', callss, hRest, hDelivered', hCalls⟩ := ih hReports s₁ hNone
      refine ⟨s', calls :: callss, ?_, .cons hDelivered hDelivered', ?_⟩
      · simp only [receiveReports, hStep]
        exact hRest
      · rw [hCalls, hCalls₁]
        simp
  obtain ⟨s, callss, hReceive, hDelivered, hCalls⟩ := hRun .initial rfl
  exact ⟨s, callss, hReceive, hDelivered, hCalls⟩

theorem readerOn_reader {item : Item} (hLegal : item.Legal) (hLength : item.bytes.length < 2 ^ 32) :
  ReaderOn item.reader item :=
  ⟨_, _, _, On.reader hLegal hLength⟩

/-- A list of two items that arrives in two chunks, a value and an error status. -/
def chunkedReport : List AttributeReport :=
  let path : ConcreteDataAttributePath := ⟨1, 29, 3, false, 0, .replaceAll, some 7⟩
  [.list path (Item.reader (.container .array (arrayElements [.leaf (.boolean true)]))) [.leaf (.boolean true)]
    [⟨{ path with mListOp := .appendItem }, Item.reader (.leaf .null), .leaf .null⟩],
   .value ⟨1, 29, 0, false, 0, .notList, some 7⟩ (some (Item.reader (.leaf .null))),
   .errorStatus ⟨1, 29, 3, false, 0, .notList, none⟩ ⟨1, none⟩]

theorem chunkedReport_wellFormed : ∀ r ∈ chunkedReport, r.WellFormed 1024 := by
  have hFirst : Bufferable 1024 (.leaf (.boolean true)) := ⟨show 0 < 2 ^ 32 by decide, by decide⟩
  have hSecond : Bufferable 1024 (.leaf .null) := ⟨show 0 < 2 ^ 32 by decide, by decide⟩
  have hArray : (Item.container .array (arrayElements [.leaf (.boolean true)])).Legal :=
    ⟨rfl, arrayElements_legal (by simpa using hFirst.legal)⟩
  intro r hr
  simp only [chunkedReport, List.mem_cons, List.not_mem_nil, or_false] at hr
  rcases hr with rfl | rfl | rfl
  · refine ⟨rfl, readerOn_reader hArray (by decide), by simpa using hFirst, ?_, by decide⟩
    intro a ha
    rw [List.mem_singleton.mp ha]
    exact ⟨rfl, by decide, readerOn_reader hSecond.legal (by decide), hSecond⟩
  · rfl
  · exact ⟨rfl, rfl⟩

theorem chunkedReport_reassembled :
    1024 < 2 ^ 32 ∧ (∀ report ∈ [chunkedReport, chunkedReport], ∀ r ∈ report, r.WellFormed 1024) ∧
      ∃ s callss, receiveReports 1024 [chunkedReport, chunkedReport] .initial = some s ∧
        List.Forall₂ (List.Forall₂ DeliveredBy) ([chunkedReport, chunkedReport].map deliveredReports)
          callss ∧
        s.calls = callss.flatMap fun calls => .reportBegin :: calls ++ [.reportEnd] := by
  have hWell : ∀ report ∈ [chunkedReport, chunkedReport], ∀ r ∈ report, r.WellFormed 1024 := by
    intro report hReport
    simp only [List.mem_cons, List.not_mem_nil, or_false, or_self] at hReport
    exact hReport ▸ chunkedReport_wellFormed
  exact ⟨by decide, hWell, lists_reassembled 1024 (by decide) _ hWell⟩

def supersededList : AttributeReport :=
  .list ⟨1, 29, 3, false, 0, .replaceAll, some 7⟩
    (Item.reader (.container .array (arrayElements [.leaf (.boolean true)]))) [.leaf (.boolean true)] []

def supersedingValue : AttributeReport :=
  .value ⟨1, 29, 3, false, 0, .notList, some 7⟩ (some (Item.reader (.leaf .null)))

theorem list_before_value_lost :
  (∀ r ∈ [supersededList, supersedingValue], r.WellFormed 1024) ∧
    ∃ s, receiveReports 1024 [[supersededList, supersedingValue]] .initial = some s ∧
      s.calls = [.reportBegin,
        .attributeData ⟨1, 29, 3, false, 0, .notList, some 7⟩ (some (Item.reader (.leaf .null)))
          .success, .reportEnd] ∧
      ∀ call ∈ s.calls, ¬ supersededList.DeliveredBy call := by
  have hItem : Bufferable 1024 (.leaf (.boolean true)) := ⟨show 0 < 2 ^ 32 by decide, by decide⟩
  have hArray : (Item.container .array (arrayElements [.leaf (.boolean true)])).Legal :=
    ⟨rfl, arrayElements_legal (by simpa using hItem.legal)⟩
  refine ⟨?_, ⟨⟨1, 29, 3, false, 0, .notList, some 7⟩, [some [9]], [.reportBegin,
      .attributeData ⟨1, 29, 3, false, 0, .notList, some 7⟩ (some (Item.reader (.leaf .null)))
            .success, .reportEnd]⟩, ?_, rfl, ?_⟩
  · intro r hr
    simp only [List.mem_cons, List.not_mem_nil, or_false] at hr
    rcases hr with rfl | rfl
    · exact ⟨rfl, readerOn_reader hArray (by decide), by simpa using hItem, by simp, by decide⟩
    · rfl
  · rfl
  · simp [supersededList, DeliveredBy, listPath]

theorem status_with_list_operation :
  ∃ s reader, receiveReports 1024 [[.errorStatus ⟨1, 29, 3, false, 0, .appendItem, none⟩ ⟨1, none⟩]]
      .initial = some s ∧
    s.calls = [.reportBegin, .attributeData ⟨1, 29, 3, false, 0, .appendItem, none⟩ none ⟨1, none⟩,
      .attributeData ⟨1, 29, 3, false, 0, .replaceAll, none⟩ (some reader) .success, .reportEnd] :=
  ⟨_, _, rfl, rfl⟩

theorem oversized_list_lost (path : ConcreteDataAttributePath) (hOp : path.mListOp = .replaceAll)
    {items : List Item} (hItems : ∀ item ∈ items, Bufferable 1024 item)
    (hSize : listSize items + 4 = 2 ^ 32) :
    let reader := Item.reader (.container .array (arrayElements items))
    ReaderOn reader (.container .array (arrayElements items)) ∧
      ∃ s, receiveReports 1024 [[.list path reader items []]] .initial = some s ∧
        s.calls = [.reportBegin, .error .bufferTooSmall, .reportEnd] := by
  intro reader
  let array := Item.container .array (arrayElements items)
  have hHead : (headBytes .notSpecified profileIdNotSpecified TLVType.array.toElementType
      anonymousTag 0).length = 1 :=
    headBytes_anonymous_length profileIdNotSpecified TLVType.array.toElementType 0 (.inl rfl)
  have hLegal : array.Legal := ⟨rfl, arrayElements_legal fun item hItem => (hItems item hItem).legal⟩
  have hLength : array.bytes.length < 2 ^ 32 := by
    simp only [array, Item.bytes, Item.elementType, Item.lenOrVal, Item.data, encode_arrayElements,
      List.length_append, hHead, flatten_length, terminator, List.length_cons, List.length_nil]
    omega
  have hReader : ReaderOn reader array := readerOn_reader hLegal hLength
  obtain ⟨context, limit, rest, hOn⟩ := id hReader
  have hBuffer := bufferArray_ok items (by decide) hItems hOn (onReportBegin .initial)
  let s₁ : BufferedReadCallback :=
    ⟨path, (items.map Item.bytes).map some, [.reportBegin]⟩
  have hList : path.isListOperation = true := by
    simp [isListOperation, hOp]
  have hStep : onAttributeData 1024 path (some reader) .success (onReportBegin .initial) = some s₁ := by
    have hDispatch : dispatchBufferedData path .success false (onReportBegin .initial) =
        (.ok (), onReportBegin .initial) := by
      simp [dispatchBufferedData, onReportBegin, BufferedReadCallback.initial,
        isListOperation, empty]
    rw [onAttributeData, handleAttributeData, bind_ok hDispatch]
    simp only [hList, Bool.true_and, bufferData, hOp]
    rw [if_pos (show success.isSuccess = true from rfl), bind_ok hBuffer]
    rfl
  have hTotal : totalBufSize (items.map Item.bytes) = 0 := by
    have hSum : ((items.map Item.bytes).map List.length).sum = listSize items := by
      simp [listSize, Function.comp_def]
    rw [totalBufSize, hSum, hSize]
    exact Nat.mod_self _
  have hStart : startContainer anonymousTag .array (TLVWriter.init 0) =
      (.error .bufferTooSmall, TLVWriter.init 0) := rfl
  have hGenerate : generateListTLV s₁ = (.error (.error .bufferTooSmall), s₁) := by
    simp only [generateListTLV, read_bind, s₁, mapM_some, hTotal, hStart]
    rfl
  have hEnd : dispatchBufferedData path .success true s₁ = (.error (.error .bufferTooSmall), s₁) := by
    simp only [dispatchBufferedData, read_bind, s₁, hList, dispatchList, isSuccess,
      success]
    simp only [Bool.not_true, Bool.or_self, Bool.and_false, if_true, decide_true]
    exact bind_error hGenerate
  refine ⟨hReader, { s₁ with calls := [.reportBegin, .error .bufferTooSmall, .reportEnd] }, ?_, rfl⟩
  have hMessages : receiveMessages 1024 ([.list path reader items []].flatMap messages)
      (onReportBegin .initial) = some s₁ := by
    simp only [messages, List.flatMap_cons, List.flatMap_nil, List.map_nil, List.append_nil,
      receiveMessages, hStep]
    rfl
  have hReportEnd : onReportEnd s₁ = some { s₁ with
      calls := [.reportBegin, .error .bufferTooSmall, .reportEnd] } := by
    simp only [onReportEnd, show s₁.mBufferedPath = path from rfl, hEnd]
    rfl
  simp only [receiveReports, receiveReport, hMessages]
  change (do
    let s ← onReportEnd s₁
    some s) = _
  rw [hReportEnd]
  rfl

theorem oversized_nulls_lost (path : ConcreteDataAttributePath) (hOp : path.mListOp = .replaceAll)
  (n : Nat) (hSize : n + 4 = 2 ^ 32) :
  ∃ reader items, ReaderOn reader (.container .array (arrayElements items)) ∧
    (∀ item ∈ items, Bufferable 1024 item) ∧
    ∃ s, receiveReports 1024 [[.list path reader items []]] .initial = some s ∧
      s.calls = [.reportBegin, .error .bufferTooSmall, .reportEnd] := by
  have hItems : ∀ item ∈ List.replicate n (Item.leaf .null), Bufferable 1024 item := by
    intro item hItem
    rw [List.eq_of_mem_replicate hItem]
    exact ⟨show 0 < 2 ^ 32 by decide, by decide⟩
  have hTotal : listSize (List.replicate n (Item.leaf .null)) + 4 = 2 ^ 32 := by
    have hOne : (Item.leaf .null).bytes.length = 1 := rfl
    rw [listSize, List.map_replicate, hOne, List.sum_replicate_nat, Nat.mul_one, hSize]
  obtain ⟨hReader, hLost⟩ := oversized_list_lost path hOp hItems hTotal
  exact ⟨_, _, hReader, hItems, hLost⟩

/-- Lists can be lost without an error status for their path, and a status can bring a list: a list
is lost before a value for its own attribute, and when the size of its array wraps around; a status
with a list operation brings an empty list. -/
theorem lists_not_always_reassembled :
    ((∀ r ∈ [supersededList, supersedingValue], r.WellFormed 1024) ∧
      ∃ s, receiveReports 1024 [[supersededList, supersedingValue]] .initial = some s ∧
        s.calls = [.reportBegin,
          .attributeData ⟨1, 29, 3, false, 0, .notList, some 7⟩ (some (Item.reader (.leaf .null)))
            .success, .reportEnd] ∧
        ∀ call ∈ s.calls, ¬ supersededList.DeliveredBy call) ∧
    (∃ s reader,
      receiveReports 1024 [[.errorStatus ⟨1, 29, 3, false, 0, .appendItem, none⟩ ⟨1, none⟩]]
          .initial = some s ∧
        s.calls = [.reportBegin,
          .attributeData ⟨1, 29, 3, false, 0, .appendItem, none⟩ none ⟨1, none⟩,
          .attributeData ⟨1, 29, 3, false, 0, .replaceAll, none⟩ (some reader) .success,
          .reportEnd]) ∧
    ∃ reader items, ReaderOn reader (.container .array (arrayElements items)) ∧
      (∀ item ∈ items, Bufferable 1024 item) ∧
      ∃ s, receiveReports 1024 [[.list ⟨1, 29, 3, false, 0, .replaceAll, some 7⟩ reader items []]]
          .initial = some s ∧
        s.calls = [.reportBegin, .error .bufferTooSmall, .reportEnd] := by
  have hLost := oversized_nulls_lost ⟨1, 29, 3, false, 0, .replaceAll, some 7⟩ rfl 4294967292
    (by omega)
  exact ⟨list_before_value_lost, status_with_list_operation, hLost⟩

end Chip.App
