import Chip.Dnssd.NameTermination
import Chip.Dnssd.NameRoundTrip
import Chip.Dnssd.Parser

/-! What comes to an end for every received packet, and what does for those whose names do not lead
back to where they came from. -/
namespace Chip.Dnssd

open SerializedQNameIterator BytesRange Looping ResourceData

namespace SerializedQNameIterator

variable {it : SerializedQNameIterator}

theorem Safe.nextItem (h : it.Safe) : (it.nextItem false).Yields fun r => r.2.Safe ∧
  r.2.mValidData = it.mValidData ∧
    (r.1 = true → it.mCurrentPosition < r.2.mCurrentPosition ∧
      r.2.mCurrentPosition < it.mValidData.size) := by
  cases hValid : it.mIsValid with
  | false =>
    rw [SerializedQNameIterator.nextItem, hValid]
    exact .pure ⟨h, rfl, (absurd · Bool.false_ne_true)⟩
  | true =>
    have hStays : nextTurn false it = pure (.inr (false, it)) →
        (it.nextItem false).Yields fun r => r.2.Safe ∧ r.2.mValidData = it.mValidData ∧
          (r.1 = true → it.mCurrentPosition < r.2.mCurrentPosition ∧
            r.2.mCurrentPosition < it.mValidData.size) :=
      fun hTurn => (nextItem_stays hValid hTurn).mono fun r hr => by
        cases hr
        exact ⟨h, rfl, (absurd · Bool.false_ne_true)⟩
    cases hItem : it.item with
    | stop => exact hStays (nextTurn_stop hItem)
    | label label =>
      refine (nextItem_label hValid hItem).mono fun r hr => ?_
      cases hr
      have hInside := (itemAt_label_length hItem).2
      rw [bytes, h.readable.bytes_length] at hInside
      refine ⟨h.past hItem, rfl, fun _ => ⟨?_, hInside⟩⟩
      change it.mCurrentPosition < it.mCurrentPosition + label.length + 1
      omega
    | pointer offset => exact hStays (nextTurn_stays hItem)
    | malformed =>
      rcases nextTurn_malformed false h.readable (h.inside hValid) hItem with
        ⟨-, hTurn⟩ | hTurn
      · exact hStays hTurn
      · rw [SerializedQNameIterator.nextItem, hValid]
        refine Looping.Yields.loop_turn ?_
        rw [hTurn]
        exact .pure ⟨h.invalid, rfl, (absurd · Bool.false_ne_true)⟩

theorem Safe.findDataEnd (h : it.Safe) :
  it.findDataEnd.Yields fun dataEnd => ∀ p ∈ dataEnd, p ≤ it.mValidData.size := by
  refine Looping.Yields.bind (P := fun it' => it'.Safe ∧ it'.mValidData = it.mValidData) ?_ ?_
  · refine .loop (I := fun it' => it'.Safe ∧ it'.mValidData = it.mValidData)
      (measure fun it' : SerializedQNameIterator => it.mValidData.size - it'.mCurrentPosition).wf
      (fun it' hInv => ?_) ⟨h, rfl⟩
    obtain ⟨hSafe, hSame⟩ := hInv
    refine hSafe.nextItem.bind fun ⟨has, after⟩ hAfter => .pure ?_
    obtain ⟨hSafe', hSame', hMoves⟩ := hAfter
    cases has with
    | false => exact ⟨hSafe', hSame'.trans hSame⟩
    | true =>
      rw [hSame] at hMoves
      have hPlace : it'.mCurrentPosition < after.mCurrentPosition ∧
          after.mCurrentPosition < it.mValidData.size := hMoves rfl
      refine ⟨⟨hSafe', hSame'.trans hSame⟩, ?_⟩
      change it.mValidData.size - after.mCurrentPosition < it.mValidData.size - it'.mCurrentPosition
      omega
  · rintro it' ⟨hSafe, hSame⟩
    cases hValid : it'.mIsValid with
    | false => exact .pure nofun
    | true =>
      have hInside := hSafe.inside hValid
      obtain ⟨byte, hByte⟩ : ∃ byte, it'.mValidData.bytes[it'.mCurrentPosition]? = some byte :=
        ⟨_, List.getElem?_eq_getElem (hSafe.readable.contains_iff.mp hInside)⟩
      rw [(read_eq hByte).2, pure_bind, ← hSame]
      have hPlace : it'.mCurrentPosition < it'.mValidData.size := of_decide_eq_true hInside
      simp only [Bool.not_true, Bool.false_eq_true, if_false]
      split
      · refine .pure fun p hp => ?_
        cases hp
        exact hPlace
      · split
        · cases hNext : it'.mValidData.contains (it'.mCurrentPosition + 1) with
          | false => exact .pure nofun
          | true =>
            refine .pure fun p hp => ?_
            cases hp
            exact of_decide_eq_true hNext
        · exact .pure nofun

end SerializedQNameIterator
namespace BytesRange

variable {r : BytesRange} {p : Nat}

theorem Readable.read (h : r.Readable) (hInside : p < r.size) : (r.read p).Yields fun _ => True := by
  obtain ⟨byte, hByte⟩ : ∃ byte, r.memory[p]? = some byte :=
    ⟨_, List.getElem?_eq_getElem (hInside.trans_le h)⟩
  rw [BytesRange.read, hByte]
  exact .pure trivial

theorem Readable.read16 (h : r.Readable) (hInside : p + 1 < r.size) :
  (r.read16 p).Yields fun _ => True :=
  (h.read (Nat.lt_of_succ_lt hInside)).bind fun _ _ => (h.read hInside).bind fun _ _ => .pure trivial

theorem Readable.read32 (h : r.Readable) (hInside : p + 3 < r.size) :
  (r.read32 p).Yields fun _ => True :=
  (h.read16 (by omega)).bind fun _ _ => (h.read16 hInside).bind fun _ _ => .pure trivial

end BytesRange

section Parse

variable {packet : BytesRange}

theorem safe_at (h : packet.Readable) {start : Nat} (hInside : packet.contains start = true) :
  (init packet start).Safe :=
  ⟨h, fun _ => hInside, Nat.le_refl start, Nat.zero_le _⟩

theorem QueryData.parse_yields (h : packet.Readable) (start : Nat) :
  (QueryData.parse packet start).Yields fun _ => True := by
  rw [QueryData.parse]
  split
  · exact .pure trivial
  · rename_i hStart
    rw [Bool.not_eq_true', Bool.not_eq_false] at hStart
    refine (safe_at h hStart).findDataEnd.bind fun nameEnd _ => ?_
    cases nameEnd with
    | none => exact .pure trivial
    | some nameEnd =>
      dsimp only
      split
      · exact .pure trivial
      · rename_i hRoom
        rw [Bool.not_eq_true', Bool.not_eq_false] at hRoom
        have hSize : nameEnd + 3 < packet.size := of_decide_eq_true hRoom
        exact (h.read16 (p := nameEnd) (by omega)).bind fun _ _ =>
          (h.read16 (p := nameEnd + 2) (by omega)).bind fun _ _ => .pure trivial

theorem ResourceData.parse_yields (h : packet.Readable) (start : Nat) :
  (parse packet start).Yields fun _ => True := by
  rw [parse]
  split
  · exact .pure trivial
  · rename_i hStart
    rw [Bool.not_eq_true', Bool.not_eq_false] at hStart
    refine (safe_at h hStart).findDataEnd.bind fun nameEnd _ => ?_
    cases nameEnd with
    | none => exact .pure trivial
    | some nameEnd =>
      dsimp only
      split
      · exact .pure trivial
      · rename_i hRoom
        rw [Bool.not_eq_true', Bool.not_eq_false] at hRoom
        have hSize : nameEnd + 9 < packet.size := of_decide_eq_true hRoom
        refine (h.read16 (p := nameEnd) (by omega)).bind fun _ _ =>
          (h.read16 (p := nameEnd + 2) (by omega)).bind fun _ _ =>
            (h.read32 (p := nameEnd + 4) (by omega)).bind fun _ _ =>
              (h.read16 (p := nameEnd + 8) (by omega)).bind fun dataLen _ => ?_
        split
        · exact .pure trivial
        · exact .pure trivial

theorem parseRecords_yields {α : Type} {parse : Nat → Looping Fault (Option (α × Nat))}
  (hParse : ∀ start, (parse start).Yields fun _ => True) (event : α → ParserEvent)
  (count start : Nat) : (parseRecords parse event count start).Yields fun _ => True := by
  induction count generalizing start with
  | zero => exact .pure trivial
  | succ count ih =>
    refine (hParse start).bind fun parsed _ => ?_
    cases parsed with
    | none => exact .pure trivial
    | some parsed => exact (ih parsed.2).bind fun _ _ => .pure trivial

theorem parseResources_yields (h : packet.Readable) (sections : List (ResourceType × Nat))
  (start : Nat) : (parseResources packet sections start).Yields fun _ => True := by
  induction sections generalizing start with
  | nil => exact .pure trivial
  | cons first rest ih =>
    refine (parseRecords_yields (parse_yields h) _ first.2 start).bind
      fun ⟨last, events⟩ _ => ?_
    cases last with
    | none => exact .pure trivial
    | some next => exact (ih next).bind fun _ _ => .pure trivial

theorem parsePacket_yields (h : packet.Readable) : (parsePacket packet).Yields fun _ => True := by
  rw [parsePacket]
  split
  · exact .pure trivial
  · rename_i hSize
    rw [kSizeBytes] at hSize
    have hHeader : (readHeader packet).Yields fun _ => True :=
      (h.read16 (p := 0) (by omega)).bind fun _ _ => (h.read16 (p := 2) (by omega)).bind fun _ _ =>
        (h.read16 (p := 4) (by omega)).bind fun _ _ => (h.read16 (p := 6) (by omega)).bind fun _ _ =>
          (h.read16 (p := 8) (by omega)).bind fun _ _ => (h.read16 (p := 10) (by omega)).bind fun _ _ =>
            .pure trivial
    refine hHeader.bind fun header _ => ?_
    split
    · exact .pure trivial
    · refine (parseRecords_yields (QueryData.parse_yields h) .onQuery header.queryCount kSizeBytes).bind
        fun ⟨last, events⟩ _ => ?_
      cases last with
      | none => exact .pure trivial
      | some next =>
        exact (parseResources_yields h (resourceSections header) next).bind fun _ _ => .pure trivial

end Parse

namespace SerializedQNameIterator

variable {it : SerializedQNameIterator}

theorem Safe.next_after (h : it.Safe) :
  it.next.Yields fun r => r.2.Safe ∧ (r.1 = true → After r.2 it) := by
  obtain ⟨⟨has, after⟩, hGives, hSafe⟩ := h.next
  refine ⟨(has, after), hGives, hSafe, fun hHas => ?_⟩
  obtain rfl : has = true := hHas
  exact hGives

theorem Safe.whileNext {α : Type} {body : α → QNamePart → α} {a : α} (h : it.Safe)
  (hAcc : Acc After it) : (it.whileNext body a).Yields fun _ => True := by
  refine .loop_acc (I := fun s => s.1.Safe) (R := InvImage After Prod.fst)
    (InvImage.accessible Prod.fst hAcc) (fun ⟨it', a⟩ hSafe => ?_) h
  refine hSafe.next_after.bind fun ⟨has, after⟩ hAfter => .pure ?_
  cases has with
  | false => trivial
  | true => exact ⟨hAfter.1, hAfter.2 rfl⟩

theorem Safe.labels (h : it.Safe) (hAcc : Acc After it) : it.labels.Yields fun _ => True :=
  (h.whileNext hAcc).bind fun _ _ => .pure trivial

theorem Safe.equalsTurn {s : SerializedQNameIterator × SerializedQNameIterator} (hA : s.1.Safe)
  (hB : s.2.Safe) : (equalsTurn s).Yields fun turn => match turn with
    | .inl s' => (s'.1.Safe ∧ s'.2.Safe) ∧ After s'.1 s.1 ∧ After s'.2 s.2
    | .inr _ => True := by
  refine hA.next_after.bind fun ⟨hasA, a⟩ hAfterA => hB.next_after.bind fun ⟨hasB, b⟩ hAfterB => .pure ?_
  have hBoth : hasA = true → hasB = true →
      (a.Safe ∧ b.Safe) ∧ After a s.1 ∧ After b s.2 := fun hHasA hHasB =>
    ⟨⟨hAfterA.1, hAfterB.1⟩, hAfterA.2 hHasA, hAfterB.2 hHasB⟩
  cases hasA <;> cases hasB <;> split_ifs <;> first | trivial | exact hBoth rfl rfl

theorem Safe.equals {other : SerializedQNameIterator} (h : it.Safe) (hOther : other.Safe)
  (hAcc : Acc After it ∨ Acc After other) : (it.equals other).Yields fun _ => True := by
  have hTurn : ∀ s : SerializedQNameIterator × SerializedQNameIterator, s.1.Safe ∧ s.2.Safe →
      (SerializedQNameIterator.equalsTurn s).Yields fun turn => match turn with
        | .inl s' => (s'.1.Safe ∧ s'.2.Safe) ∧ After s'.1 s.1 ∧ After s'.2 s.2
        | .inr _ => True := fun s hSafe => hSafe.1.equalsTurn hSafe.2
  rcases hAcc with hAcc | hAcc
  · refine .loop_acc (R := InvImage After Prod.fst) (InvImage.accessible Prod.fst hAcc)
      (fun s hSafe => (hTurn s hSafe).mono fun turn hNext => ?_) ⟨h, hOther⟩
    match turn with
    | .inl s' => exact ⟨hNext.1, hNext.2.1⟩
    | .inr _ => trivial
  · refine .loop_acc (R := InvImage After Prod.snd) (InvImage.accessible Prod.snd hAcc)
      (fun s hSafe => (hTurn s hSafe).mono fun turn hNext => ?_) ⟨h, hOther⟩
    match turn with
    | .inl s' => exact ⟨hNext.1, hNext.2.2⟩
    | .inr _ => trivial

end SerializedQNameIterator
namespace HeapQName

variable {it : SerializedQNameIterator}

theorem copy_yields (allocates : Nat → Bool) (h : it.Safe)
  (hAcc : Acc SerializedQNameIterator.After it) (parts : FullQName) :
  ∃ after count, (it.whileNext (fun count _ => count + 1) parts.length).Gives (.ok (after, count)) ∧
    parts.length ≤ count ∧
    (loop (copyTurn allocates count) (it, parts)).Yields fun _ => True := by
  induction hAcc generalizing parts with
  | intro it _ ih =>
    obtain ⟨⟨has, next⟩, hGives, hSafe, hAfter⟩ := h.next_after
    cases has with
    | false =>
      refine ⟨next, parts.length, .loop_last (hGives.bind (gives_pure.mpr rfl)), le_refl _, ?_⟩
      exact ⟨_, .loop_last (hGives.bind (gives_pure.mpr rfl)), trivial⟩
    | true =>
      obtain ⟨after, count, hCount, hMore, hCopy⟩ := ih next (hAfter rfl) hSafe (parts ++ [next.value])
      rw [List.length_append, List.length_singleton] at hCount hMore
      refine ⟨after, count, .loop_next (hGives.bind (gives_pure.mpr rfl)) hCount,
        Nat.le_of_succ_le hMore, .loop_turn (.bind ⟨_, hGives, rfl⟩ ?_)⟩
      rintro _ rfl
      simp only [Bool.not_true, Bool.false_eq_true, if_false]
      rw [if_neg (Nat.not_le.mpr hMore)]
      split
      · exact .pure trivial
      · exact .pure hCopy

theorem ofIterator_yields (allocates : Nat → Bool) (h : it.Safe)
  (hAcc : Acc SerializedQNameIterator.After it) :
  (ofIterator allocates it).Yields fun _ => True := by
  obtain ⟨after, count, hCount, -, hCopy⟩ := copy_yields allocates h hAcc []
  refine .bind ⟨_, hCount, rfl⟩ ?_
  rintro _ rfl
  dsimp only
  split
  · exact .pure trivial
  · split
    · exact .pure trivial
    · exact hCopy.bind fun _ _ => .pure trivial

end HeapQName

namespace RecordWriter

open SerializedQNameIterator

variable {output : BufferWriter} {w w' current : RecordWriter} {buf bytes : Bytes} {parts : FullQName}
  {copy : SerializedQNameIterator}

/-- A writer after calls that ended. The names given to it have labels that fit, or come from bytes
that are there. -/
inductive Reached (output : BufferWriter) : RecordWriter → Prop where
  | start : Reached output (init output)
  | put {w : RecordWriter} (prior : Reached output w) (call : PutCall) : Reached output (w.perform call)
  | full {w w' : RecordWriter} {names : FullQName} (prior : Reached output w)
      (sizes : ∀ part ∈ names, part.strlen ≤ kMaxValueSize)
      (writes : (w.writeQName (.full names)).Gives (.ok w')) : Reached output w'
  | serialized {w w' : RecordWriter} {it : SerializedQNameIterator} (prior : Reached output w)
      (safe : it.Safe) (writes : (w.writeQName (.serialized it)).Gives (.ok w')) : Reached output w'

/-- The state of the loop of `WriteQName` for any serialized name. -/
structure InSerialized (w : RecordWriter) (buf bytes : Bytes)
    (s : SerializedQNameIterator × RecordWriter × Bool) : Prop where
  safe : s.1.Safe
  writing : ∃ parts, Writing w buf bytes parts s.2.1

theorem InSerialized.turn {s : SerializedQNameIterator × RecordWriter × Bool}
  (hSound : w.Sound buf bytes) (h : InSerialized w buf bytes s) :
  (writeSerializedTurn w s).Yields fun turn => match turn with
    | .inl s' => InSerialized w buf bytes s' ∧ After s'.1 s.1
    | .inr w' => ∃ more, w'.Sound buf (bytes ++ more) := by
  obtain ⟨copy, current, isFullyCompressed⟩ := s
  obtain ⟨hSafe, parts, hWriting⟩ := h
  refine findPreviousName_bind (equals_ends hSafe) hSound hWriting fun place hFinds => ?_
  cases place with
  | some p =>
    obtain ⟨rest, hName, -⟩ := hFinds.place
    exact .pure ⟨_, (hWriting.putPointer hSound hName isFullyCompressed).1⟩
  | none =>
    refine hSafe.next_after.bind fun ⟨has, after⟩ hAfter => ?_
    obtain ⟨hSafe', hNext⟩ := hAfter
    dsimp only
    split
    · exact .pure ⟨_, (hWriting.putEnd hSound).1⟩
    · rename_i hHas
      split
      · exact .pure ⟨_, (hWriting.putEnd hSound).1⟩
      · refine .pure ⟨⟨hSafe', _, hWriting.putPart after.value ?_⟩, hNext (by simpa using hHas)⟩
        exact (List.IsPrefix.length_le <| List.takeWhile_prefix _).trans hSafe'.fits

theorem writeSerializedQName_secures (hSound : w.Sound buf bytes) (h : copy.Safe) :
  (w.writeSerializedQName copy).Secures fun w' => ∃ more, w'.Sound buf (bytes ++ more) := by
  refine secures_loop (I := InSerialized w buf bytes) (fun s hInv => ?_) ⟨h, [], hSound.writing⟩
  refine (hInv.turn hSound).mono fun turn hTurn => ?_
  match turn with
  | .inl s' => exact hTurn.1
  | .inr w' => exact hTurn

theorem writeSerializedQName_ends (hSound : w.Sound buf bytes) (h : copy.Safe)
  (hAcc : Acc After copy) : (w.writeSerializedQName copy).Yields fun _ => True := by
  refine .loop_acc (I := InSerialized w buf bytes) (R := InvImage After Prod.fst)
    (InvImage.accessible Prod.fst hAcc) (fun s hInv => ?_) ⟨h, [], hSound.writing⟩
  refine (hInv.turn hSound).mono fun turn hTurn => ?_
  match turn with
  | .inl s' => exact hTurn
  | .inr w' => trivial

theorem Reached.sound (h : Reached output w) : ∃ bytes, w.Sound output.mBuf bytes := by
  induction h with
  | start => exact sound_init output
  | put _ call ih =>
    obtain ⟨bytes, hSound⟩ := ih
    obtain ⟨more, hMore⟩ := hSound.perform call
    exact ⟨_, hMore⟩
  | full _ sizes writes ih =>
    obtain ⟨bytes, hSound⟩ := ih
    obtain ⟨_, hOk, more, hMore, -⟩ := writeFullQName_secures hSound sizes _ writes
    cases hOk
    exact ⟨_, hMore⟩
  | serialized _ safe writes ih =>
    obtain ⟨bytes, hSound⟩ := ih
    obtain ⟨_, hOk, more, hMore⟩ := writeSerializedQName_secures hSound safe _ writes
    cases hOk
    exact ⟨_, hMore⟩

end RecordWriter

/-- Reading the name and everything that reads it come to an end, with no byte read outside the
packet and no failed assertion. -/
structure ParsingEnds (packet : Bytes) (start : Nat) : Prop where
  next : (SerializedQNameIterator.init (.ofBytes packet) start).labels.Yields fun _ => True
  findDataEnd : (SerializedQNameIterator.init (.ofBytes packet) start).findDataEnd.Yields
    fun dataEnd => ∀ p ∈ dataEnd, p ≤ packet.length
  equals : ∀ other : SerializedQNameIterator, other.Safe →
    ((SerializedQNameIterator.init (.ofBytes packet) start).equals other).Yields (fun _ => True) ∧
      (other.equals (SerializedQNameIterator.init (.ofBytes packet) start)).Yields fun _ => True
  heapQName : ∀ allocates : Nat → Bool,
    (HeapQName.ofIterator allocates (.init (.ofBytes packet) start)).Yields fun _ => True
  writeQName : ∀ (output : BufferWriter) (w : RecordWriter), RecordWriter.Reached output w →
    (w.writeQName (.serialized (.init (.ofBytes packet) start))).Yields fun _ => True
  parsePacket : (parsePacket (.ofBytes packet)).Yields fun _ => True

section Names

variable {packet : Bytes} {start : Nat}

theorem ParsingEnds.neverLeadsBack (hEnds : ParsingEnds packet start) (h : start < packet.length) :
  NeverLeadsBack packet start := by
  intro p hPath hBack
  obtain ⟨_, hLabels, -⟩ := hEnds.next
  have hOn := onName_init h
  have hBytes : (init (.ofBytes packet) start).bytes = packet :=
    bytes_ofBytes packet
  have hNever := @SerializedQNameIterator.OnName.not_ends _ _ (fun parts part => parts ++ [part]) [] hOn
    ⟨p, by rwa [hBytes], by rwa [hBytes]⟩
  refine hNever ?_
  obtain ⟨a, hGives, -⟩ | ⟨e, -, hError⟩ := gives_bind.mp hLabels
  · exact ⟨_, hGives⟩
  · cases hError

theorem NeverLeadsBack.parsingEnds (hNever : NeverLeadsBack packet start) (h : start < packet.length) :
  ParsingEnds packet start := by
  have hOn := onName_init h
  have hBytes : (init (.ofBytes packet) start).bytes = packet :=
    bytes_ofBytes packet
  have hAcc := hOn.acc (hBytes.symm ▸ hNever)
  exact {
    next := hOn.safe.labels hAcc
    findDataEnd := hOn.safe.findDataEnd
    equals := fun other hOther =>
      ⟨hOn.safe.equals hOther (.inl hAcc), hOther.equals hOn.safe (.inr hAcc)⟩
    heapQName := fun allocates => HeapQName.ofIterator_yields allocates hOn.safe hAcc
    writeQName := fun output w hReached => by
      obtain ⟨bytes, hSound⟩ := hReached.sound
      exact RecordWriter.writeSerializedQName_ends hSound hOn.safe hAcc
    parsePacket := parsePacket_yields (readable_ofBytes packet) }

/-- Parsing a name ends exactly if its pointers never lead back to the labels that they end. -/
theorem parsing_ends_iff (h : start < packet.length) :
    ParsingEnds packet start ↔ NeverLeadsBack packet start :=
  ⟨fun hEnds => hEnds.neverLeadsBack h, fun hNever => hNever.parsingEnds h⟩

end Names

/-- A label, and a pointer back to it. -/
theorem label_leads_back : ¬∀ (packet : Bytes) (start : Nat), start < packet.length →
    ParsingEnds packet start := by
  intro hAll
  have hNever := (hAll [1, 97, 0xC0, 0] 0 (by decide)).neverLeadsBack (by decide)
  exact hNever 0 .refl ⟨2, .single ⟨[97], by decide, rfl⟩, by decide, le_refl 0, by decide⟩

/-- A label, and a pointer to the end of an earlier name. -/
theorem name_with_pointer_ends : ParsingEnds [0, 1, 97, 0xC0, 0] 1 := by
  have hFirst : ∀ offset, Jump [0, 1, 97, 0xC0, 0] 1 offset → offset = 0 := by
    rintro offset ⟨q, hPath, hPointer, -, -⟩
    have hLabel : Relation.ReflTransGen (LabelStep [0, 1, 97, 0xC0, 0]) 1 3 :=
      .single ⟨[97], by decide, rfl⟩
    have hItem : itemAt [0, 1, 97, 0xC0, 0] 3 = .pointer 0 := by decide
    obtain ⟨label, hOther⟩ | rfl := item_before_pointer hLabel hPath hPointer
    · cases hItem.symm.trans hOther
    · exact Item.pointer.inj (hPointer.symm.trans hItem)
  have hSecond : ∀ offset, ¬Jump [0, 1, 97, 0xC0, 0] 0 offset := by
    rintro offset ⟨q, hPath, hPointer, -, -⟩
    have hItem : itemAt [0, 1, 97, 0xC0, 0] 0 = .stop := by decide
    obtain ⟨label, hLabel⟩ | rfl := item_before_pointer .refl hPath hPointer
    · cases hItem.symm.trans hLabel
    · cases hItem.symm.trans hPointer
  refine (parsing_ends_iff (by decide)).mpr fun p hPath hBack => ?_
  rcases hPath.cases_head with rfl | ⟨offset, hJump, hRest⟩
  · exact absurd (hFirst 1 hBack) (by decide)
  · cases hFirst offset hJump
    rcases hRest.cases_head with rfl | ⟨offset', hJump', -⟩
    · exact hSecond 0 hBack
    · exact hSecond offset' hJump'

end Chip.Dnssd
