import Chip.Dnssd.QName

/-! The parser of received packets (`Parser.cpp`), and names that are copied out of them
(`HeapQName.h`). -/
namespace Chip.Dnssd

structure HeapQName where
  mIsOk : Bool
  mElementCount : Nat
  mElementPointers : FullQName

namespace HeapQName

/-- Copy one label. The storage was allocated for so many of them, and each copy is an allocation
that may fail. -/
def copyTurn (allocates : Nat → Bool) (count : Nat) (s : SerializedQNameIterator × FullQName) :
  Looping Fault ((SerializedQNameIterator × FullQName) ⊕ (Bool × FullQName)) := do
  let (has, it) ← s.1.next
  if !has then pure (.inr (true, s.2))
  else if count ≤ s.2.length then .fail .outOfRange
  else if !allocates (s.2.length + 1) then pure (.inr (false, s.2))
  else pure (.inl (it, s.2 ++ [it.value]))

def ofIterator (allocates : Nat → Bool) (name : SerializedQNameIterator) : Looping Fault HeapQName := do
  -- Count all elements
  let (it, count) ← name.whileNext (fun count _ => count + 1) 0
  if !it.mIsValid then pure ⟨false, count, []⟩
  else if !allocates 0 then pure ⟨false, count, []⟩
  else do
    let (isOk, parts) ← Looping.loop (copyTurn allocates count) (name, [])
    pure ⟨isOk, count, parts⟩

end HeapQName

namespace BytesRange

/-- `BigEndian::Get16`. -/
def read16 (r : BytesRange) (p : Nat) : Looping Fault Nat := do
  let high ← r.read p
  let low ← r.read (p + 1)
  pure (high.toNat * 2 ^ 8 + low.toNat)

def read32 (r : BytesRange) (p : Nat) : Looping Fault Nat := do
  let high ← r.read16 p
  let low ← r.read16 (p + 2)
  pure (high * 2 ^ 16 + low)

end BytesRange

def kSizeBytes : Nat := 12

/-- The fields of `ConstHeaderRef`. -/
structure Header where
  messageId : Nat
  flags : Nat
  queryCount : Nat
  answerCount : Nat
  authorityCount : Nat
  additionalCount : Nat

def readHeader (packet : BytesRange) : Looping Fault Header := do
  pure ⟨← packet.read16 0, ← packet.read16 2, ← packet.read16 4, ← packet.read16 6,
    ← packet.read16 8, ← packet.read16 10⟩

def Header.isValidMdns (header : Header) : Bool := header.flags &&& (0x7000 ||| 0x000F) == 0

def kQClassUnicastAnswerFlag : Nat := 0x8000

structure QueryData where
  mType : Nat
  mClass : Nat
  mAnswerViaUnicast : Bool
  mNameIterator : SerializedQNameIterator

def QueryData.parse (validData : BytesRange) (start : Nat) : Looping Fault (Option (QueryData × Nat)) :=
  if !validData.contains start then pure none
  else do
    match ← (SerializedQNameIterator.init validData start).findDataEnd with
    | none => pure none
    | some nameEnd =>
      if !validData.contains (nameEnd + 3) then pure none
      else do
        let type ← validData.read16 nameEnd
        let klass ← validData.read16 (nameEnd + 2)
        pure (some (
          { mType := type
            mClass := klass % kQClassUnicastAnswerFlag
            mAnswerViaUnicast := klass &&& kQClassUnicastAnswerFlag != 0
            mNameIterator := .init validData start }, nameEnd + 4))

structure ResourceData where
  mType : Nat
  mClass : Nat
  mTtl : Nat
  mData : BytesRange
  mNameIterator : SerializedQNameIterator

def ResourceData.parse (validData : BytesRange) (start : Nat) :
  Looping Fault (Option (ResourceData × Nat)) :=
  if !validData.contains start then pure none
  else do
    match ← (SerializedQNameIterator.init validData start).findDataEnd with
    | none => pure none
    | some nameEnd =>
      -- need 3*u16 + u32
      if !validData.contains (nameEnd + 9) then pure none
      else do
        let type ← validData.read16 nameEnd
        let klass ← validData.read16 (nameEnd + 2)
        let ttl ← validData.read32 (nameEnd + 4)
        let dataLen ← validData.read16 (nameEnd + 8)
        -- no space for RDATA
        if !validData.contains (nameEnd + 10 + dataLen - 1) then pure none
        else pure (some (
          { mType := type
            mClass := klass
            mTtl := ttl
            mData := ⟨validData.memory.drop (nameEnd + 10), dataLen⟩
            mNameIterator := .init validData start }, nameEnd + 10 + dataLen))

inductive ResourceType where
  | kAnswer
  | kAuthority
  | kAdditional

inductive ParserEvent where
  | onHeader (header : Header)
  | onQuery (data : QueryData)
  | onResource (type : ResourceType) (data : ResourceData)

/-- So many records of one kind, with the place after them unless one cannot be parsed. -/
def parseRecords {α : Type} (parse : Nat → Looping Fault (Option (α × Nat)))
  (event : α → ParserEvent) : (count : Nat) → (start : Nat) →
  Looping Fault (Option Nat × List ParserEvent)
  | 0, start => pure (some start, [])
  | count + 1, start => do
      match ← parse start with
      | none => pure (none, [])
      | some (data, next) => do
          let (last, events) ← parseRecords parse event count next
          pure (last, event data :: events)

/-- The three kinds of resources of a packet, with how many there are. -/
def resourceSections (header : Header) : List (ResourceType × Nat) :=
  [(.kAnswer, header.answerCount), (.kAuthority, header.authorityCount),
    (.kAdditional, header.additionalCount)]

def parseResources (packet : BytesRange) : List (ResourceType × Nat) → (start : Nat) →
  Looping Fault (Bool × List ParserEvent)
  | [], _ => pure (true, [])
  | (type, count) :: rest, start => do
      match ← parseRecords (ResourceData.parse packet) (.onResource type) count start with
      | (none, events) => pure (false, events)
      | (some next, events) => do
          let (isOk, later) ← parseResources packet rest next
          pure (isOk, events ++ later)

/-- `ParsePacket`, with the calls that the delegate gets. -/
def parsePacket (packet : BytesRange) : Looping Fault (Bool × List ParserEvent) :=
  if packet.size < kSizeBytes then pure (false, [])
  else do
    let header ← readHeader packet
    if !header.isValidMdns then pure (false, [])
    else do
      match ← parseRecords (QueryData.parse packet) .onQuery header.queryCount kSizeBytes with
      | (none, events) => pure (false, .onHeader header :: events)
      | (some next, events) => do
          let (isOk, later) ← parseResources packet (resourceSections header) next
          pure (isOk, .onHeader header :: events ++ later)

end Chip.Dnssd
