import Chip.Data.SlotTable
import Chip.SecureChannel.SessionResumption
import Chip.Support.SortUtils

/-! The table of secure sessions (`SecureSessionTable.cpp`): how a new session gets its id, and
which session makes room for it when the table is full. -/
namespace Chip.Transport

open SecureChannel (ScopedNodeId)

inductive SecureSession.State where
  | establishing | active | defunct | pendingEviction
  deriving DecidableEq

/-- `SecureSession::Type`. -/
inductive SecureSessionType where
  | pase | case
  deriving DecidableEq

/-- The part of a `SecureSession` that its table reads. -/
structure SecureSession where
  mState : SecureSession.State
  mSecureSessionType : SecureSessionType
  mLocalSessionId : UInt16
  mPeerNodeId : UInt64
  mFabricIndex : UInt8
  mLastActivityTime : UInt64
  deriving DecidableEq

namespace SecureSession

def isActiveSession (session : SecureSession) : Bool := session.mState = .active

def isPendingEviction (session : SecureSession) : Bool := session.mState = .pendingEviction

def isDefunct (session : SecureSession) : Bool := session.mState = .defunct

def getPeer (session : SecureSession) : ScopedNodeId := ⟨session.mPeerNodeId, session.mFabricIndex⟩

def new (secureSessionType : SecureSessionType) (localSessionId : UInt16) (now : UInt64) :
  SecureSession where
  mState := .establishing
  mSecureSessionType := secureSessionType
  mLocalSessionId := localSessionId
  mPeerNodeId := 0
  mFabricIndex := 0
  mLastActivityTime := now

/-- What a session can become. Its local session id is constant, and it does not come back once
it is marked for eviction. -/
def become (session changed : SecureSession) : SecureSession :=
  { changed with
    mLocalSessionId := session.mLocalSessionId
    mState := if session.isPendingEviction then .pendingEviction else changed.mState }

@[simp] theorem become_mLocalSessionId (session changed : SecureSession) :
  (session.become changed).mLocalSessionId = session.mLocalSessionId := rfl

end SecureSession

/-- `CHIP_CONFIG_SECURE_SESSION_POOL_SIZE`, which static assertions bound. -/
structure SessionPool where
  size : Nat
  size_pos : 0 < size
  size_le : size ≤ 65535

/-- The elements of the pool `mEntries`. -/
abbrev SessionEntries := Nat → Option SecureSession

/-- What the rest of the stack does to the session in an element: it goes on changed, or its
last reference is dropped and it is released. -/
abbrev SessionChange := Nat → SecureSession → Option SecureSession

namespace SessionEntries

variable (pool : SessionPool) (entries : SessionEntries)

/-- The sessions with their elements, in the order of `ForEachSession`. -/
def sessions : List (Nat × SecureSession) :=
  SlotTable.items (fun i => (entries i).map (i, ·)) pool.size

def allocated : Nat := (entries.sessions pool).length

def localSessionIds : List UInt16 := (entries.sessions pool).map (·.2.mLocalSessionId)

/-- `CreateObject`. The first free element is taken. -/
def createObject (session : SecureSession) : Option (Nat × SessionEntries) :=
  ((List.range pool.size).find? fun i => (entries i).isNone).map fun i =>
    (i, Function.update entries i (some session))

def releaseObject (element : Nat) : SessionEntries := Function.update entries element none

def change (changes : SessionChange) : SessionEntries := fun i =>
  (entries i).bind fun session => (changes i session).map session.become

/-- `MarkForEviction` on the session in an element. The holders of the session are notified, and
what they do is arbitrary, save that they create no session. -/
def markForEviction (changes : SessionChange) (element : Nat) : SessionEntries :=
  match entries element with
  | none => entries
  | some session =>
    if session.isPendingEviction then entries
    else
      let marked := { session with mState := .pendingEviction }
      change (Function.update entries element (some marked)) changes

end SessionEntries

def kUnsecuredSessionId : UInt16 := 0

/-- Set the bit of an id, when the bucket of 64 ids from a base on has one for it. -/
def setBit (candidateBase : UInt16) (mask : BitVec 64) (id : UInt16) : BitVec 64 :=
  let shift := id - candidateBase
  if shift ≤ 63 then mask ||| 1#64 <<< shift.toNat else mask

/-- The loop over the sessions, which ends early when the bucket is full. -/
def setBits (candidateBase : UInt16) : List UInt16 → BitVec 64 → BitVec 64
  | [], mask => mask
  | id :: rest, mask =>
    let mask := setBit candidateBase mask id
    if mask = BitVec.allOnes 64 then mask else setBits candidateBase rest mask

def candidateMask (ids : List UInt16) (candidateBase : UInt16) : BitVec 64 :=
  setBits candidateBase ids (setBit candidateBase 0#64 kUnsecuredSessionId)

theorem shiftRight_lt {mask : BitVec 64} (h : mask.getLsbD 0) : (mask >>> 1).toNat < mask.toNat := by
  have hOdd : mask.toNat % 2 = 1 := by simpa [BitVec.getLsbD, Nat.testBit_zero] using h
  rw [BitVec.toNat_ushiftRight, Nat.shiftRight_eq_div_pow]
  omega

/-- The loop that shifts set bits out of a mask and counts them. -/
def trailingOnes (mask : BitVec 64) : Nat :=
  if mask.getLsbD 0 then trailingOnes (mask >>> 1) + 1 else 0
termination_by mask.toNat
decreasing_by exact shiftRight_lt ‹_›

/-- The base of a bucket of the search, which wraps through 0. -/
def candidateBase (mNextSessionId : UInt16) (bucket : Nat) : UInt16 :=
  UInt16.ofNat (64 * bucket + mNextSessionId.toNat)

/-- `FindUnusedSessionId`, for the ids that are in use. The first bucket that is not full has an
id to give. -/
def findUnusedSessionId (ids : List UInt16) (mNextSessionId : UInt16) : Option UInt16 :=
  let bucket := (List.range 1024).find? fun n =>
    candidateMask ids (candidateBase mNextSessionId n) ≠ BitVec.allOnes 64
  bucket.map fun n =>
    candidateBase mNextSessionId n +
      UInt16.ofNat (trailingOnes (candidateMask ids (candidateBase mNextSessionId n)))

/-- `SortableSession`: a session of the table, with its element. -/
structure SortableSession where
  element : Nat
  mSession : SecureSession
  mNumMatchingOnFabric : UInt16
  mNumMatchingOnPeer : UInt16
  deriving DecidableEq

def countMatching (element : Nat) (session : SecureSession) (others : List (Nat × SecureSession)) :
  UInt16 × UInt16 :=
  others.foldl
    (fun (onFabric, onPeer) (otherElement, other) =>
      if element ≠ otherElement then
        if session.mFabricIndex = other.mFabricIndex then
          (onFabric + 1, if session.mPeerNodeId = other.mPeerNodeId then onPeer + 1 else onPeer)
        else (onFabric, onPeer)
      else (onFabric, onPeer))
    (0, 0)

def sortableSessions (pool : SessionPool) (entries : SessionEntries) : List SortableSession :=
  (entries.sessions pool).map fun (element, session) =>
    let counts := countMatching element session (entries.sessions pool)
    ⟨element, session, counts.1, counts.2⟩

/-- `assignStateScore`. -/
def stateScore (session : SecureSession) : Nat :=
  if session.isDefunct then 2 else if session.isActiveSession then 1 else 0

/-- The comparison of `DefaultEvictionPolicy`: is the first session the better candidate? -/
def evictsBefore (hint : ScopedNodeId) (a b : SortableSession) : Bool :=
  if a.mNumMatchingOnFabric ≠ b.mNumMatchingOnFabric then
    a.mNumMatchingOnFabric > b.mNumMatchingOnFabric
  else
    let doesAMatchSessionHintFabric := a.mSession.getPeer.mFabricIndex = hint.mFabricIndex
    let doesBMatchSessionHintFabric := b.mSession.getPeer.mFabricIndex = hint.mFabricIndex
    if decide doesAMatchSessionHintFabric ≠ decide doesBMatchSessionHintFabric then
      decide doesAMatchSessionHintFabric > decide doesBMatchSessionHintFabric
    else if a.mNumMatchingOnPeer ≠ b.mNumMatchingOnPeer then
      a.mNumMatchingOnPeer > b.mNumMatchingOnPeer
    else
      let doesAMatchSessionHint := a.mSession.getPeer = hint
      let doesBMatchSessionHint := b.mSession.getPeer = hint
      if decide doesAMatchSessionHint ≠ decide doesBMatchSessionHint then
        decide doesAMatchSessionHint > decide doesBMatchSessionHint
      else if stateScore a.mSession ≠ stateScore b.mSession then
        stateScore a.mSession > stateScore b.mSession
      else a.mSession.mLastActivityTime < b.mSession.mLastActivityTime

def defaultEvictionPolicy (hint : ScopedNodeId) (candidates : List SortableSession) :
  List SortableSession :=
  Sorting.bubbleSort (evictsBefore hint) candidates

/-- The sessions that an eviction marks, in order, and the pool once one of them made room. It
ends without a pool when none did, which aborts the program. -/
structure Eviction where
  tried : List Nat
  room : Option SessionEntries

/-- The loop of `EvictAndAllocate` over the sorted candidates. The delegates have their part in
each attempt. -/
def tryCandidates (pool : SessionPool) :
  List SortableSession → (Nat → SessionChange) → SessionEntries → Eviction
  | [], _, _ => ⟨[], none⟩
  | candidate :: rest, delegates, entries =>
    if (entries candidate.element).any SecureSession.isPendingEviction then
      tryCandidates pool rest delegates entries
    else
      let entries' := entries.markForEviction (delegates 0) candidate.element
      if entries'.allocated pool < entries.allocated pool then
        ⟨[candidate.element], some entries'⟩
      else
        let eviction := tryCandidates pool rest (fun n => delegates (n + 1)) entries'
        { eviction with tried := candidate.element :: eviction.tried }

def evict (pool : SessionPool) (hint : ScopedNodeId) (delegates : Nat → SessionChange)
  (entries : SessionEntries) : Eviction :=
  tryCandidates pool (defaultEvictionPolicy hint (sortableSessions pool entries)) delegates entries

def evictAndAllocate (pool : SessionPool) (session : SecureSession) (hint : ScopedNodeId)
  (delegates : Nat → SessionChange) (entries : SessionEntries) : Option (Nat × SessionEntries) :=
  (evict pool hint delegates entries).room.bind fun entries => entries.createObject pool session

structure SecureSessionTable where
  mEntries : SessionEntries
  mNextSessionId : UInt16

namespace SecureSessionTable

def kMaxSessionID : UInt16 := 65535

/-- `Init`, with the random number. -/
def init (random : UInt16) : SecureSessionTable := ⟨fun _ => none, random⟩

/-- `CreateNewSecureSession`. The result is the element of the new session when there is one;
there is no result when the program aborts. -/
def createNewSecureSession (pool : SessionPool) (secureSessionType : SecureSessionType)
  (sessionEvictionHint : ScopedNodeId) (now : UInt64) (delegates : Nat → SessionChange)
  (table : SecureSessionTable) : Option (Option Nat × SecureSessionTable) :=
  match findUnusedSessionId (table.mEntries.localSessionIds pool) table.mNextSessionId with
  | none => some (none, table)
  | some sessionId =>
    let session := SecureSession.new secureSessionType sessionId now
    let mNextSessionId := if sessionId = kMaxSessionID then kUnsecuredSessionId + 1 else sessionId + 1
    if table.mEntries.allocated pool < pool.size then
      match table.mEntries.createObject pool session with
      | none => some (none, table)
      | some (element, mEntries) => some (some element, ⟨mEntries, mNextSessionId⟩)
    else
      (evictAndAllocate pool session sessionEvictionHint delegates table.mEntries).map
        fun (element, mEntries) => (some element, ⟨mEntries, mNextSessionId⟩)

end SecureSessionTable

end Chip.Transport
