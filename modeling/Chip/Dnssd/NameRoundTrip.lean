import Chip.Dnssd.NameCompression

/-! Whole messages: every name that was written to one is read from it. -/
namespace Chip.Dnssd

open List

theorem NameAt.sizes {bytes : Bytes} {bound p : Nat} {rest : List (Bytes × Nat)}
  (h : NameAt bytes bound p rest) : ∀ part ∈ labelsOf rest, part.strlen ≤ kMaxValueSize := by
  induction h with
  | stop item => nofun
  | label item _ ih =>
    intro part hMem
    rcases mem_cons.mp hMem with rfl | hLater
    · exact (IsPrefix.length_le <| takeWhile_prefix _).trans (itemAt_label_length item).1.2
    · exact ih part hLater
  | pointer _ _ _ _ ih => exact ih

namespace RecordWriter

/-- The name is this one: labels of 1 to 63 bytes, or a serialized name that is read to its end. -/
def Name.Is : Name → FullQName → Prop
  | .full names, qname => names = qname ∧ ∀ part ∈ qname, 0 < part.strlen ∧ part.strlen ≤ kMaxValueSize
  | .serialized it, qname => it.Safe ∧ it.labels.Gives (.ok (qname, true))

/-- How many parts of the name are looked for. Of a serialized name its end is one, too. -/
def Name.suffixes : Name → FullQName → Nat
  | .full _, qname => qname.length
  | .serialized _, qname => qname.length + 1

inductive PutCall where
  | put8 (value : UInt8)
  | put16 (value : Nat)
  | put32 (value : Nat)
  | putString (value : QNamePart)
  | put (range : Bytes)

def perform (w : RecordWriter) : PutCall → RecordWriter
  | .put8 value => w.put8 value
  | .put16 value => w.put16 value
  | .put32 value => w.put32 value
  | .putString value => w.putString value
  | .put range => w.put range

/-- A name in a message, with the write positions before and after it. -/
structure WrittenName where
  start : Nat
  dataEnd : Nat
  qname : FullQName

/-- Calls that write a message, with the names that were written. The condition is one on each name
and the writer before it. -/
inductive Message (P : RecordWriter → Name → FullQName → Prop) (output : BufferWriter) :
    RecordWriter → List WrittenName → Prop where
  | start : Message P output (init output) []
  | put {w : RecordWriter} {names : List WrittenName} (prior : Message P output w names)
      (call : PutCall) : Message P output (w.perform call) names
  | name {w w' : RecordWriter} {names : List WrittenName} (prior : Message P output w names)
      (name : Name) {qname : FullQName} (isName : name.Is qname) (condition : P w name qname)
      (writes : (w.writeQName name).Gives (.ok w')) :
      Message P output w' (⟨w.mOutput.mNeeded, w'.mOutput.mNeeded, qname⟩ :: names)

/-- Whatever pointer is put for the name can hold its offset, and no label is cut to nothing at a
NUL. -/
def Representable (w : RecordWriter) (name : Name) (qname : FullQName) : Prop :=
  FoundLow w qname (name.suffixes qname) ∧ ∀ part ∈ qname, 0 < part.strlen

variable {P : RecordWriter → Name → FullQName → Prop} {output : BufferWriter} {w w' : RecordWriter}
  {buf bytes : Bytes} {names : List WrittenName} {name : Name} {qname : FullQName}

theorem Sound.perform (h : w.Sound buf bytes) (call : PutCall) :
  ∃ more, (w.perform call).Sound buf (bytes ++ more) := by
  cases call with
  | put8 value => exact ⟨_, h.of_append (h.holds.putByte value) rfl⟩
  | put16 value => exact ⟨_, h.of_append (h.holds.bigEndianPut value 2) rfl⟩
  | put32 value => exact ⟨_, h.of_append (h.holds.bigEndianPut value 4) rfl⟩
  | putString value => exact ⟨_, h.put value.chars⟩
  | put range => exact ⟨_, h.put range⟩

theorem writeQName_secures (hSound : w.Sound buf bytes) (hName : name.Is qname) :
  (w.writeQName name).Secures (Wrote w buf bytes qname (name.suffixes qname)) := by
  cases name with
  | full names =>
    obtain ⟨rfl, hSizes⟩ := hName
    exact writeFullQName_secures hSound fun part hMem => (hSizes part hMem).2
  | serialized it =>
    obtain ⟨hSafe, hLabels⟩ := hName
    obtain ⟨rest, hReads, rfl⟩ := hSafe.reads_of_labels hLabels
    have hCount : rest.length = (labelsOf rest).length := (length_map _).symm
    rw [Name.suffixes, ← hCount]
    exact (writeSerializedQName_yields hSound hReads.name.sizes hReads).secures

theorem writeQName_ends (hSound : w.Sound buf bytes) (hName : name.Is qname)
  (hCount : qname.length < 2 ^ 16) : (w.writeQName name).Ends := by
  cases name with
  | full names =>
    obtain ⟨rfl, hSizes⟩ := hName
    exact (writeFullQName_yields hSound (fun part hMem => (hSizes part hMem).2) hCount).ends
  | serialized it =>
    obtain ⟨hSafe, hLabels⟩ := hName
    obtain ⟨rest, hReads, -⟩ := hSafe.reads_of_labels hLabels
    exact (writeSerializedQName_yields hSound hReads.name.sizes hReads).ends

theorem Message.readsBack (h : Message Representable output w names) :
  ∃ bytes, w.Sound output.mBuf bytes ∧
    ∀ written ∈ names, ReadsBack bytes written.start written.dataEnd written.qname := by
  induction h with
  | start =>
    obtain ⟨bytes, hSound⟩ := sound_init output
    exact ⟨bytes, hSound, nofun⟩
  | put _ call ih =>
    obtain ⟨bytes, hSound, hNames⟩ := ih
    obtain ⟨more, hMore⟩ := hSound.perform call
    exact ⟨_, hMore, fun written hMem => (hNames written hMem).append more⟩
  | @name w w' names _ name qname isName condition writes ih =>
    obtain ⟨bytes, hSound, hNames⟩ := ih
    obtain ⟨_, hOk, more, hMore, hRead⟩ := writeQName_secures hSound isName _ writes
    cases hOk
    refine ⟨_, hMore, fun written hMem => ?_⟩
    rcases mem_cons.mp hMem with rfl | hOld
    · rw [hSound.holds.needed, hMore.holds.needed]
      exact hRead condition.1 condition.2
    · exact (hNames written hOld).append more

/-- The iterator at the start of a name gives its labels, up to the case of letters, and the end of
its data is where the writer was after it. -/
def ReadFrom (w : RecordWriter) (written : WrittenName) : Prop :=
  (SerializedQNameIterator.init w.validData written.start).labels.Yields
      (fun r => sameName r.1 written.qname = true ∧ r.2 = true) ∧
    (SerializedQNameIterator.init w.validData written.start).findDataEnd.Gives
      (.ok (some written.dataEnd))

/-- As long as everything fits, each name of a message whose pointers can all hold their offsets is
read as it was written. Writing one more name ends if its labels can be counted. -/
theorem written_names_are_read (h : Message Representable output w names) :
    (w.fit = true → ∀ written ∈ names, w.ReadFrom written) ∧
      ∀ (name : Name) (qname : FullQName), name.Is qname → qname.length < 2 ^ 16 →
        (w.writeQName name).Ends := by
  obtain ⟨bytes, hSound, hNames⟩ := h.readsBack
  refine ⟨fun hFit written hMem => ?_, fun name qname hName => writeQName_ends hSound hName⟩
  obtain ⟨rest, hName, hSame, hEnd⟩ := hNames written hMem
  have hBytes : w.validData.bytes = bytes := by
    rw [hSound.validData_bytes, List.take_of_length_le ((fit_iff hSound.holds).mp hFit)]
  rw [← hBytes] at hName hEnd
  have hReads : (SerializedQNameIterator.init w.validData written.start).Reads rest :=
    ⟨rfl, Nat.le_refl _, hName⟩
  constructor
  · refine hReads.labels.mono fun r hLabels => ?_
    cases hLabels
    exact ⟨hSame, rfl⟩
  · obtain ⟨r, hGives, rfl⟩ := SerializedQNameIterator.findDataEnd_yields
      (show (SerializedQNameIterator.init w.validData written.start).mIsValid = true from rfl) hEnd
    exact hGives

def labelA : QNamePart := ⟨[97], by decide⟩

def labelB : QNamePart := ⟨[98], by decide⟩

/-- The writer after a name of two labels was put to its end. -/
def afterFirst (w : RecordWriter) : RecordWriter :=
  ((w.putPart labelA).putPart labelB).putEnd w.mOutput.mNeeded

theorem afterFirst_gives (w : RecordWriter)
  (hFree : w.mPreviousQNames = replicate kMaxCachedReferences kInvalidOffset) :
  (w.writeQName (.full [labelA, labelB])).Gives (.ok w.afterFirst) := by
  obtain ⟨output, slots⟩ := w
  cases hFree
  exact ⟨30, rfl⟩

theorem representable_first (w : RecordWriter)
  (hFree : w.mPreviousQNames = replicate kMaxCachedReferences kInvalidOffset) :
  Representable w (.full [labelA, labelB]) [labelA, labelB] := by
  refine ⟨fun k _ _ p hFound => ?_, by decide⟩
  obtain ⟨output, slots⟩ := w
  cases hFree
  cases Looping.Gives.unique hFound (t := .ok none) ⟨30, rfl⟩

/-- The second of these names is the end of the first one, and is written as a pointer to it. -/
theorem two_names_are_read :
    let w := ((init (.init (List.replicate 16 0))).afterFirst).putPointer 5 2 true
    w.ReadFrom ⟨0, 5, [labelA, labelB]⟩ ∧ w.ReadFrom ⟨5, 7, [labelB]⟩ := by
  have hFirst : Message Representable (.init (List.replicate 16 0))
      (init (.init (List.replicate 16 0))).afterFirst [⟨0, 5, [labelA, labelB]⟩] :=
    .name .start (.full [labelA, labelB]) ⟨rfl, by decide⟩ (representable_first _ rfl)
      (afterFirst_gives _ rfl)
  have hBoth : Message Representable (.init (List.replicate 16 0))
      ((init (.init (List.replicate 16 0))).afterFirst.putPointer 5 2 true)
      [⟨5, 7, [labelB]⟩, ⟨0, 5, [labelA, labelB]⟩] := by
    refine .name hFirst (.full [labelB]) ⟨rfl, by decide⟩ ⟨fun k hk _ p hFound => ?_, by decide⟩ ⟨30, rfl⟩
    obtain rfl : k = 0 := Nat.lt_one_iff.mp hk
    cases Looping.Gives.unique hFound (t := .ok (some 2)) ⟨30, rfl⟩
    decide
  have hAll := (written_names_are_read hBoth).1 (by decide)
  exact ⟨hAll _ (List.mem_cons_of_mem _ List.mem_cons_self), hAll _ List.mem_cons_self⟩

@[irreducible] def limitBuffer : Bytes := List.replicate 0x5000 0

/-- So many bytes that a name of two labels begins among the first `2 ^ 14` and ends after them. -/
@[irreducible] def limitFiller : Bytes := List.replicate 0x3FFE 0

theorem limitBuffer_length : limitBuffer.length = 0x5000 := by
  rw [limitBuffer, length_replicate]

theorem limitFiller_length : limitFiller.length = 0x3FFE := by
  rw [limitFiller, length_replicate]

def atTheLimit : RecordWriter := (init (.init limitBuffer)).put limitFiller

/-- A pointer to the second label, whose offset is `2 ^ 14`, is one to the start of the message. -/
def withCutOffset : RecordWriter := atTheLimit.afterFirst.putPointer 0x4003 0x4000 true

def firstBytes : Bytes := limitFiller ++ (encodeParts [labelA, labelB] ++ [0])

theorem firstBytes_length : firstBytes.length = 0x4003 := by
  rw [firstBytes, length_append, limitFiller_length]
  rfl

theorem atTheLimit_sound : atTheLimit.Sound limitBuffer limitFiller := by
  have hFresh : (init (.init limitBuffer)).Sound limitBuffer [] :=
    ⟨BufferWriter.holds_init _, fun _ hMem hUsed => absurd (eq_of_mem_replicate hMem) hUsed⟩
  exact hFresh.put limitFiller

theorem atTheLimit_first : atTheLimit.afterFirst.Sound limitBuffer firstBytes ∧
  atTheLimit.afterFirst.mPreviousQNames = 0x3FFE :: replicate 7 kInvalidOffset := by
  have hWriting : Writing atTheLimit limitBuffer limitFiller [labelA, labelB]
      ((atTheLimit.putPart labelA).putPart labelB) :=
    (atTheLimit_sound.writing.putPart labelA (by decide)).putPart labelB (by decide)
  refine ⟨(hWriting.putEnd atTheLimit_sound).1, ?_⟩
  have hHolds := hWriting.holds.putByte 0
  rw [append_assoc] at hHolds
  have hFit : (((atTheLimit.putPart labelA).putPart labelB).put8 0).fit = true := by
    refine (fit_iff hHolds).mpr ?_
    rw [length_append, limitFiller_length, limitBuffer_length]
    decide
  rw [afterFirst, putEnd, if_pos hFit, atTheLimit_sound.holds.needed, limitFiller_length]
  rfl

theorem firstBytes_name (more : Bytes) :
  NameAt (firstBytes ++ more) 0x3FFE 0x3FFE [([97], 0x4000), ([98], 0x4002)] := by
  have hSecond : (limitFiller ++ encodePart labelA).length = 0x4000 := by
    rw [length_append, limitFiller_length]
    rfl
  have hEnd : (limitFiller ++ encodePart labelA ++ encodePart labelB).length = 0x4002 := by
    rw [length_append, hSecond]
    rfl
  have hItemA := @itemAt_part limitFiller (encodePart labelB ++ [0]) labelA (by decide) (by decide)
    (by simp)
  have hItemB := @itemAt_part (limitFiller ++ encodePart labelA) [0] labelB (by decide) (by decide)
    (by simp)
  have hStop := itemAt_zero (limitFiller ++ encodePart labelA ++ encodePart labelB) []
  rw [limitFiller_length] at hItemA
  rw [hSecond, append_assoc] at hItemB
  rw [hEnd, append_assoc, append_assoc] at hStop
  exact (NameAt.label hItemA (.label hItemB (.stop hStop))).append more

theorem atTheLimit_finds : (atTheLimit.afterFirst.findPreviousPosition (·.equalsFull [labelB])).Gives
  (.ok (some 0x4000)) := by
  obtain ⟨hSound, hSlots⟩ := atTheLimit_first
  have hName := firstBytes_name []
  rw [append_nil] at hName
  rw [hSound.finds_iff, hSlots, take_of_length_le]
  · rw [Finds, if_neg (by decide)]
    refine ⟨_, some 0x4000, hName, ?_, rfl⟩
    exact .inr ⟨by decide, .inl ⟨by decide, rfl⟩⟩
  · rw [firstBytes_length, limitBuffer_length]
    decide

theorem writeQName_found {p : Nat} {part : QNamePart}
  (h : (w.findPreviousPosition (·.equalsFull [part])).Gives (.ok (some p))) :
  (w.writeQName (.full [part])).Gives (.ok (w.putPointer w.mOutput.mNeeded (p % 2 ^ 16) true)) := by
  have hName : (w.findPreviousName (·.equalsFull [part])).Gives (.ok (some (p % 2 ^ 16))) :=
    h.bind (Looping.gives_pure.mpr rfl)
  exact Looping.Gives.loop_last (hName.bind (Looping.gives_pure.mpr rfl))

theorem atTheLimit_needed : atTheLimit.afterFirst.mOutput.mNeeded = 0x4003 := by
  rw [atTheLimit_first.1.holds.needed, firstBytes_length]

theorem withCutOffset_message : Message (fun _ _ _ => True) (.init limitBuffer)
  withCutOffset [⟨0x4003, withCutOffset.mOutput.mNeeded, [labelB]⟩,
    ⟨atTheLimit.mOutput.mNeeded, 0x4003, [labelA, labelB]⟩] := by
  have hPut : Message (fun _ _ _ => True) (.init limitBuffer) atTheLimit [] :=
    .put .start (.put limitFiller)
  have hFirst := hPut.name (.full [labelA, labelB]) ⟨rfl, by decide⟩ trivial
    (afterFirst_gives atTheLimit rfl)
  have hSecond := hFirst.name (.full [labelB]) ⟨rfl, by decide⟩ trivial (writeQName_found atTheLimit_finds)
  rwa [atTheLimit_needed] at hSecond

theorem withCutOffset_sound : withCutOffset.Sound limitBuffer (firstBytes ++ encodePointer 0) := by
  obtain ⟨hSound, -⟩ := atTheLimit_first
  obtain ⟨rest, hSecond, -⟩ := ((hSound.finds_iff _).mp atTheLimit_finds).place
  have hPointer := (hSound.writing.putPointer hSound hSecond true).1
  rw [atTheLimit_needed] at hPointer
  exact hPointer

/-- The name after it is read as one without labels. -/
theorem cut_offset_is_read_wrong :
    ¬∀ (output : BufferWriter) (w : RecordWriter) (names : List WrittenName),
      Message (fun _ _ _ => True) output w names → w.fit = true →
        ∀ written ∈ names, w.ReadFrom written := by
  intro hAll
  have hFit : withCutOffset.fit = true := by
    refine (fit_iff withCutOffset_sound.holds).mpr ?_
    rw [List.length_append, firstBytes_length, limitBuffer_length]
    decide
  have hRead := (hAll _ _ _ withCutOffset_message hFit _ List.mem_cons_self).1
  have hItem : itemAt (firstBytes ++ encodePointer 0) 0x4003 = .pointer 0 := by
    have hPointer := @itemAt_pointer firstBytes [] 0 (Nat.zero_le kMaxReuseOffset)
    rwa [List.append_nil, firstBytes_length] at hPointer
  have hStop : itemAt (firstBytes ++ encodePointer 0) 0 = .stop := by
    rw [itemAt_eq_stop, firstBytes, limitFiller, List.replicate_succ]
    rfl
  have hBytes : withCutOffset.validData.bytes = firstBytes ++ encodePointer 0 := by
    rw [withCutOffset_sound.validData_bytes,
      List.take_of_length_le ((fit_iff withCutOffset_sound.holds).mp hFit)]
  have hName : NameAt withCutOffset.validData.bytes 0x4003 0x4003 [] := by
    rw [hBytes]
    exact .pointer hItem (Nat.zero_le _) (by decide) (.stop hStop)
  have hNone : (SerializedQNameIterator.init withCutOffset.validData 0x4003).Reads [] :=
    ⟨rfl, Nat.le_refl _, hName⟩
  obtain ⟨r, hGives, hSame, -⟩ := hRead
  obtain ⟨_, hOk, rfl⟩ := hNone.labels.of_gives hGives
  cases hOk
  revert hSame
  decide

end RecordWriter
end Chip.Dnssd
