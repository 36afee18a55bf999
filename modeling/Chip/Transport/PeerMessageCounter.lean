import Chip.Core.Error

/-! The message counter of a remote node (`PeerMessageCounter.h`). The window size
is `CHIP_CONFIG_MESSAGE_COUNTER_WINDOW_SIZE`, which the build chooses. Counters are
`uint32_t`, so their differences wrap. A failed `VerifyOrDie` has no next state. -/
namespace Chip.Transport

abbrev Challenge := Vector UInt8 8

structure Synced (windowSize : Nat) where
  mMaxCounter : UInt32
  mWindow : BitVec windowSize

inductive PeerMessageCounter (windowSize : Nat) where
  | notSynced
  | syncInProcess (mChallenge : Challenge)
  | synced (s : Synced windowSize)

/-- Where a counter lies with respect to `mMaxCounter`. -/
inductive Position where
  | beforeWindow
  | inWindow
  | maxCounter
  | futureCounter

variable {windowSize : Nat}

namespace Synced

def classifyNonFutureCounter (s : Synced windowSize) (counter : UInt32) : Position :=
  if counter = s.mMaxCounter then .maxCounter
  else if (s.mMaxCounter - counter).toNat ≤ windowSize then .inWindow
  else .beforeWindow

def classifyWithoutRollover (s : Synced windowSize) (counter : UInt32) : Position :=
  if counter > s.mMaxCounter then .futureCounter else s.classifyNonFutureCounter counter

def classifyWithRollover (s : Synced windowSize) (counter : UInt32) : Position :=
  let counterIncrease := counter - s.mMaxCounter
  let futureCounterWindow : UInt32 := 0x7FFFFFFF
  if counterIncrease ≥ 1 ∧ counterIncrease ≤ futureCounterWindow then .futureCounter
  else s.classifyNonFutureCounter counter

/-- `mWindow.test(offset - 1)` for the counter's offset below the maximum. -/
def seenInWindow (s : Synced windowSize) (counter : UInt32) : Bool :=
  s.mWindow.getLsbD ((s.mMaxCounter - counter).toNat - 1)

def verifyPositionEncrypted (s : Synced windowSize) (position : Position) (counter : UInt32) :
  Except ChipError Unit :=
  match position with
  | .futureCounter => .ok ()
  | .inWindow => if s.seenInWindow counter then .error .duplicateMessageReceived else .ok ()
  | .maxCounter | .beforeWindow => .error .duplicateMessageReceived

def commitWithPosition (s : Synced windowSize) (position : Position) (counter : UInt32) :
  Synced windowSize :=
  match position with
  | .inWindow =>
    let offset := (s.mMaxCounter - counter).toNat
    { s with mWindow := s.mWindow ||| BitVec.twoPow windowSize (offset - 1) }
  | .maxCounter => s
  | .futureCounter | .beforeWindow =>
    let shift := (counter - s.mMaxCounter).toNat
    { mMaxCounter := counter
      mWindow :=
        if shift > windowSize then 0
        else s.mWindow <<< shift ||| BitVec.twoPow windowSize (shift - 1) }

def commitWithRollover (s : Synced windowSize) (counter : UInt32) : Synced windowSize :=
  s.commitWithPosition (s.classifyWithRollover counter) counter

def commitWithoutRollover (s : Synced windowSize) (counter : UInt32) : Synced windowSize :=
  s.commitWithPosition (s.classifyWithoutRollover counter) counter

end Synced

namespace PeerMessageCounter

def isSynchronizing : PeerMessageCounter windowSize → Bool
  | syncInProcess _ => true
  | _ => false

def isSynchronized : PeerMessageCounter windowSize → Bool
  | synced _ => true
  | _ => false

def verifyChallenge (counter : UInt32) (challenge : Challenge) :
  PeerMessageCounter windowSize → Except ChipError Unit × PeerMessageCounter windowSize
  | syncInProcess mChallenge =>
    if mChallenge = challenge then (.ok (), synced ⟨counter, 0⟩)
    else (.error .invalidArgument, syncInProcess mChallenge)
  | p => (.error .incorrectState, p)

def setCounter (value : UInt32) (_ : PeerMessageCounter windowSize) :
  PeerMessageCounter windowSize :=
  synced ⟨value, 0⟩

def verifyGroup (counter : UInt32) : PeerMessageCounter windowSize → Except ChipError Unit
  | synced s => s.verifyPositionEncrypted (s.classifyWithRollover counter) counter
  | _ => .error .incorrectState

def verifyOrTrustFirstGroup (counter : UInt32) :
  PeerMessageCounter windowSize →
    Option (Except ChipError Unit × PeerMessageCounter windowSize)
  | notSynced => some (.ok (), synced ⟨counter, 0⟩)
  | syncInProcess _ => none
  | synced s => some (verifyGroup counter (synced s), synced s)

def verifyEncryptedUnicast (counter : UInt32) :
  PeerMessageCounter windowSize → Except ChipError Unit
  | synced s => s.verifyPositionEncrypted (s.classifyWithoutRollover counter) counter
  | _ => .error .incorrectState

/-- `CommitEncryptedUnicast`, whose precondition is a successful verification and
with it the synced state. -/
def commitEncryptedUnicast (counter : UInt32) :
  PeerMessageCounter windowSize → PeerMessageCounter windowSize
  | synced s => synced (s.commitWithoutRollover counter)
  | p => p

/-- `CommitGroup` and `CommitUnencrypted`. -/
def commitWithRollover (counter : UInt32) :
  PeerMessageCounter windowSize → PeerMessageCounter windowSize
  | synced s => synced (s.commitWithRollover counter)
  | p => p

def getCounter : PeerMessageCounter windowSize → Option UInt32
  | synced s => some s.mMaxCounter
  | _ => none

end PeerMessageCounter

end Chip.Transport
