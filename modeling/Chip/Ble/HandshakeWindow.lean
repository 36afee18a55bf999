import Chip.Ble.FlowControl
import Chip.Ble.Fragments
import Chip.Ble.WindowUse

/-! The parameters that the handshake negotiates, and what becomes of them in the runs after it. The
peripheral does not look at the MTU and the window of the request, nor the central at those of the
response, except for a fragment size of zero. -/
namespace Chip.Ble

open List BtpEngine Proc

open Chip.System (PacketBuffer)
open EndPointCore

def Wire.isSent : Wire → Bool
  | .sent .. => true
  | .received _ => false

/-- The fragments that have come since the last acknowledgement was sent. The handshake response of
the peripheral is one. -/
def noteUnacked (unacked : Nat) : Wire → Nat
  | .sent _ ack _ => if ack.isSome then 0 else unacked
  | .received _ => unacked + 1

def unackedOn (role : BleRole) (wire : List Wire) : Nat :=
  wire.foldl noteUnacked (if role = .central then 1 else 0)

theorem unackedOn_concat (role : BleRole) (wire : List Wire) (entry : Wire) :
  unackedOn role (wire ++ [entry]) = noteUnacked (unackedOn role wire) entry := by
  rw [unackedOn, foldl_append]
  rfl

namespace BLEEndPoint

def news (e after : BLEEndPoint) : List Wire := after.wire.drop e.wire.length

/-- No window goes below zero with an event. It takes from each window once at most: from the local
one first of all, and from the remote one last, which is then 255 if it was zero. -/
structure InBounds (e after : BLEEndPoint) : Prop where
  once : ((e.news after).filter Wire.isSent).length ≤ 1 ∧
    ((e.news after).filter fun entry => !entry.isSent).length ≤ 1
  localWindow : (∃ entry ∈ e.news after, entry.isSent = false) → e.mLocalReceiveWindowSize ≠ 0
  remoteWindow : (∃ entry ∈ e.news after, entry.isSent = true) →
    after.mRemoteReceiveWindowSize ≠ 255

def remaining (engine : BtpEngine) (data : Option PacketBuffer) : Nat :=
  (data.map PacketBuffer.len).getD engine.mTxLength

/-- Every fragment that is made takes something from the message, or it is the last one. -/
def Advances (engine : BtpEngine) : Prop :=
  ∀ data sendAck sent, engine.handleCharacteristicSend data sendAck = (true, sent) →
    sent.mTxState = .complete ∨ sent.mTxLength < remaining engine data

/-- The peer keeps to the window: fewer fragments than the window have come since the last
acknowledgement was sent when another one is accepted. -/
def InWindow (role : BleRole) (e : BLEEndPoint) (event : Event) : Prop :=
  ∀ fragment, Accepts e event fragment →
    unackedOn role e.wire < e.mReceiveWindowMaxSize.toNat

/-- The runs from an end point whose events meet a condition. -/
inductive RunFrom (meets : BLEEndPoint → Event → Prop) (e : BLEEndPoint) : BLEEndPoint → Prop
  | start : RunFrom meets e e
  | step {e' : BLEEndPoint} (p : BlePlatform) (event : Event) (run : RunFrom meets e e')
      (isOpen : e'.mState ≠ .closed) (met : meets e' event) : RunFrom meets e (e'.step p event)

/-- An end point after the handshake: fragments have room for data, and in every run in which the peer
keeps to the window every message is sent in the end, and the windows stay in bounds with the next
event exactly if the peer keeps to the window with it. -/
structure Usable (role : BleRole) (e : BLEEndPoint) : Prop where
  fragmentSize : BtpEngine.maxHeaderSize < e.mBtpEngine.mTxFragmentSize
  advances : ∀ e', RunFrom (InWindow role) e e' → e'.mState ≠ .closed → Advances e'.mBtpEngine
  inBounds : ∀ e', RunFrom (InWindow role) e e' → e'.mState ≠ .closed →
    ∀ p event, InBounds e' (e'.step p event) ↔ InWindow role e' event

theorem writeFragment_advances (engine : BtpEngine) (sendAck : Bool) (kind : UInt8)
  {lengthField : List UInt8} (buf : PacketBuffer) (hField : lengthField.length ≤ 2)
  (hSize : maxHeaderSize < engine.mTxFragmentSize) :
  (engine.writeFragment sendAck kind lengthField buf).mTxState = .complete ∨
    (engine.writeFragment sendAck kind lengthField buf).mTxLength < engine.mTxLength := by
  have hHeader : 1 + (engine.headerRest sendAck lengthField).length ≤ maxHeaderSize := by
    rw [headerRest_length, maxHeaderSize]
    cases sendAck with
    | true =>
      rw [if_pos rfl]
      omega
    | false =>
      rw [if_neg (by decide)]
      omega
  rw [writeFragment_eq]
  dsimp only
  by_cases hFits : engine.mTxLength + (1 + (engine.headerRest sendAck lengthField).length) ≤
      engine.mTxFragmentSize
  · rw [if_pos hFits]
    exact .inl rfl
  · rw [if_neg hFits]
    right
    dsimp only
    omega

theorem advances_of_size {engine : BtpEngine}
  (hSize : maxHeaderSize < engine.mTxFragmentSize) : Advances engine := by
  intro data sendAck sent hSent
  rcases send_cases engine data sendAck with hRefused | ⟨msg, -, hNoRoom⟩ | ⟨hAck, hMakes⟩
  · rw [hRefused] at hSent
    cases hSent
  · rw [hNoRoom] at hSent
    cases hSent
  · rw [handleCharacteristicSend.eq_def, ackGuard hAck, if_neg (by decide)]
      at hSent
    rcases hMakes with ⟨msg, rfl, hIdle, hRoom⟩ | ⟨rfl, hState⟩
    · obtain ⟨moved, hMoved, -, hLength, -⟩ := msg.ensureReservedSize_spec
        (firstHeaderSize sendAck + blePktReservedSize) hRoom
      rw [hIdle] at hSent
      dsimp only at hSent
      rw [← firstHeaderSize, hMoved] at hSent
      injection hSent with _ hEq
      rw [← hEq, remaining, Option.map_some, Option.getD_some, ← hLength]
      exact writeFragment_advances
        { engine with mTxState := .inProgress, mTxLength := moved.len } sendAck _ _
        (Nat.le_refl 2) hSize
    · rw [hState] at hSent
      dsimp only at hSent
      cases hBuf : engine.mTxBuf with
      | none =>
        rw [hBuf] at hSent
        cases hSent
      | some buf =>
        rw [hBuf] at hSent
        injection hSent with _ hEq
        rw [← hEq]
        exact writeFragment_advances _ sendAck _ _ (Nat.zero_le 2) hSize

variable {role : BleRole} {size : Nat} {c c' : EndPointCore} {asks : BtpEngine → Prop}

/-- The local window is what the peer has not used since the last acknowledgement. -/
structure Grants (role : BleRole) (size : Nat) (c : EndPointCore) : Prop where
  sum : c.localWindow.toNat + unackedOn role c.wire = c.maxWindow.toNat
  fragmentSize : c.engine.mTxFragmentSize = size
  unsubscribing : c.unsubscribing = true → c.closed = true

theorem send_fragmentSize {engine sent : BtpEngine} {data : Option PacketBuffer} {sendAck : Bool}
  (hSent : engine.handleCharacteristicSend data sendAck = (true, sent)) :
  sent.mTxFragmentSize = engine.mTxFragmentSize := by
  have hSession := (session_send hSent).1
  have hSame : sent.mTxFragmentSize = (engine.counted sendAck).mTxFragmentSize :=
    (congrArg mTxFragmentSize hSession :)
  exact hSame.trans counted_mTxFragmentSize

theorem acknowledged_fragmentSize (engine : BtpEngine) (ack : Option UInt8) :
  (engine.acknowledged ack).mTxFragmentSize = engine.mTxFragmentSize := by
  cases ack with
  | none => rfl
  | some ackNum =>
    rw [acknowledged, Option.elim_some, handleAckReceived]
    split_ifs
    · rfl
    · rfl
    · rfl

theorem received_fragmentSize (engine : BtpEngine) (allocSize : Nat) (fragment : List UInt8) :
  (engine.handleCharacteristicReceived allocSize fragment).2.2.mTxFragmentSize =
    engine.mTxFragmentSize := by
  have hSide := txSide_received (e := engine) allocSize fragment
  have hSame : (engine.handleCharacteristicReceived allocSize fragment).2.2.mTxFragmentSize =
      (engine.acknowledged (ackOf fragment)).mTxFragmentSize :=
    (congrArg mTxFragmentSize hSide :)
  exact hSame.trans (acknowledged_fragmentSize engine _)

theorem Grants.move (hGrants : Grants role size c) (hMove : Move asks c c') : Grants role size c' := by
  cases hMove with
  | takeTx _ => exact ⟨hGrants.sum, hGrants.fragmentSize, hGrants.unsubscribing⟩
  | takeRx => exact ⟨hGrants.sum, hGrants.fragmentSize, hGrants.unsubscribing⟩
  | ask _ => exact ⟨hGrants.sum, hGrants.fragmentSize, hGrants.unsubscribing⟩
  | fragment data sentAck engine hMade _ _ _ =>
    refine ⟨?_, (send_fragmentSize hMade).trans hGrants.fragmentSize, hGrants.unsubscribing⟩
    change (if sentAck then c.maxWindow else c.localWindow).toNat +
      unackedOn role (c.wire ++ [.sent _ (c.engine.ackWith sentAck) _]) = c.maxWindow.toNat
    rw [unackedOn_concat]
    cases sentAck with
    | true => rfl
    | false => exact hGrants.sum
  | standAloneAck _ _ _ =>
    refine ⟨?_, hGrants.fragmentSize, hGrants.unsubscribing⟩
    change c.maxWindow.toNat + unackedOn role (c.wire ++ [.sent _ (c.engine.ackWith true) _]) = _
    rw [unackedOn_concat]
    rfl
  | close freed operationInFlight _ _ =>
    refine ⟨hGrants.sum, ?_, fun _ => rfl⟩
    rw [← hGrants.fragmentSize]
    cases freed with
    | true => rfl
    | false => rfl

theorem Grants.moves (hGrants : Grants role size c) (hMoves : Moves asks c c') :
  Grants role size c' := by
  induction hMoves with
  | refl => exact hGrants
  | tail _ hMove ih => exact ih.move hMove

theorem toNat_pred {n : UInt8} (hSome : n ≠ 0) : (n - 1).toNat = n.toNat - 1 := by
  have hPositive : 0 < n.toNat := Nat.pos_of_ne_zero fun hZero => hSome (UInt8.toNat_inj.mp hZero)
  have hLess := n.toNat_lt
  rw [CyclicSequence.toNat_sub, UInt8.toNat_one]
  omega

theorem Grants.begins {event : Event} {begun : EndPointCore} (hGrants : Grants role size c)
  (hBegins : EndPointCore.Begins event c begun)
  (hRoom : ∀ allocSize fragment ack engine, event = .receive allocSize fragment →
    c.engine.handleCharacteristicReceived allocSize fragment = (ack, .ok (), engine) →
      c.localWindow ≠ 0) : Grants role size begun := by
  cases hBegins with
  | same _ _ _ => exact hGrants
  | fragmentConfirmed _ => exact ⟨hGrants.sum, hGrants.fragmentSize, hGrants.unsubscribing⟩
  | handshakeConfirmed _ => exact ⟨hGrants.sum, hGrants.fragmentSize, hGrants.unsubscribing⟩
  | subscribes _ => exact ⟨hGrants.sum, hGrants.fragmentSize, hGrants.unsubscribing⟩
  | subscribed => exact ⟨hGrants.sum, hGrants.fragmentSize, hGrants.unsubscribing⟩
  | received _ allocSize fragment ack engine hAccepted =>
    have hSome := hRoom allocSize fragment ack engine rfl hAccepted
    have hSize := received_fragmentSize c.engine allocSize fragment
    rw [hAccepted] at hSize
    refine ⟨?_, hSize.trans hGrants.fragmentSize, hGrants.unsubscribing⟩
    have hSum := hGrants.sum
    have hPositive : 0 < c.localWindow.toNat :=
      Nat.pos_of_ne_zero fun hZero => hSome (UInt8.toNat_inj.mp hZero)
    change (c.localWindow - 1).toNat + unackedOn role (c.wire ++ [.received fragment]) =
      c.maxWindow.toNat
    rw [unackedOn_concat, toNat_pred hSome, noteUnacked]
    omega

def KeepsGrants (role : BleRole) (size : Nat) (e : BLEEndPoint) : Prop :=
  e.mState = .closed ∨ Grants role size e.core

variable {e : BLEEndPoint} {event : Event}

theorem Grants.isOpen (hGrants : Grants role size e.core) (hOpen : e.mState ≠ .closed) :
  e.unsubscribeTimerRunning = false := by
  rw [← Bool.not_eq_true]
  intro hUnsubscribing
  have hClosed : e.core.closed = true := hGrants.unsubscribing hUnsubscribing
  exact hOpen (by simpa [core] using hClosed)

theorem Grants.room_iff (hGrants : Grants role size e.core) :
  unackedOn role e.wire < e.mReceiveWindowMaxSize.toNat ↔ e.mLocalReceiveWindowSize ≠ 0 := by
  have hSum : e.mLocalReceiveWindowSize.toNat + unackedOn role e.wire =
      e.mReceiveWindowMaxSize.toNat := hGrants.sum
  have hZero : e.mLocalReceiveWindowSize ≠ 0 ↔ e.mLocalReceiveWindowSize.toNat ≠ 0 :=
    not_congr UInt8.toNat_inj.symm
  rw [hZero]
  omega

theorem closed_of_receive (p : BlePlatform) {allocSize : Nat} {fragment : List UInt8}
  (hOpen : e.unsubscribeTimerRunning = false) (hConnected : e.isConnected = false) :
  (e.step p (.receive allocSize fragment)).mState = .closed := by
  have hFail : receive p allocSize fragment e = (.error .incorrectState, e) := by
    rw [receive, read_bind, if_neg (by simp [hOpen]), if_pos (by simp [hConnected])]
    rfl
  exact (congrArg mState (orClose_fail hFail)).trans doClose_abort

theorem grants_step (p : BlePlatform) (hGrants : Grants role size e.core)
  (hOpen : e.mState ≠ .closed) (hIn : InWindow role e event) :
  KeepsGrants role size (e.step p event) := by
  have hTimer := hGrants.isOpen hOpen
  by_cases hStays : (e.step p event).mState = .closed
  · exact .inl hStays
  · right
    have hSteps : StepsTo (fun _ => True) e event (e.step p event) :=
      stepsTo_step event hTimer (fun _ _ => trivial) (fun _ => trivial) fun _ _ _ => trivial
    rcases hSteps with ⟨-, hClosed⟩ | ⟨begun, hBegins, c, hMoves, -, hAfter⟩
    · exact absurd hClosed hStays
    · have hBegun : Grants role size begun := by
        apply hGrants.begins hBegins
        rintro allocSize fragment ack engine rfl hAccepted
        have hConnected : e.isConnected = true := by
          rw [← Bool.not_eq_false]
          exact fun hNot => hStays (closed_of_receive p hTimer hNot)
        exact hGrants.room_iff.mp
          (hIn fragment ⟨allocSize, ack, engine, rfl, hTimer, hConnected, hAccepted⟩)
      rw [hAfter.resolve_left hStays]
      exact hBegun.moves hMoves

theorem RunFrom.grants {e' : BLEEndPoint} (hRun : RunFrom (InWindow role) e e')
  (hGrants : Grants role size e.core) : KeepsGrants role size e' := by
  induction hRun with
  | start => exact .inr hGrants
  | step p event run isOpen met ih => exact grants_step p (ih.resolve_left isOpen) isOpen met

theorem news_step (p : BlePlatform) (e : BLEEndPoint) (event : Event) :
  ∃ brought sent, e.news (e.step p event) = brought ++ sent ∧
    ((brought = [] ∧ ∀ fragment, ¬ Accepts e event fragment) ∨
      ∃ fragment, Accepts e event fragment ∧ brought = [.received fragment]) ∧
    (sent = [] ∨ (∃ seq ack fragment, sent = [.sent seq ack fragment]) ∧
      (e.step p event).mRemoteReceiveWindowSize ≠ 255) := by
  obtain ⟨begun, hSpent, hBrought⟩ := (exchanges_step p e event).begun
  have hNews : ∃ brought, begun.wire = e.wire ++ brought ∧
      ((brought = [] ∧ ∀ fragment, ¬ Accepts e event fragment) ∨
        ∃ fragment, Accepts e event fragment ∧ brought = [.received fragment]) := by
    rcases hBrought with ⟨hWire, hNone⟩ | ⟨fragment, hAccepts, hWire⟩
    · exact ⟨[], by rw [hWire, append_nil], .inl ⟨rfl, hNone⟩⟩
    · exact ⟨[.received fragment], hWire, .inr ⟨fragment, hAccepts, rfl⟩⟩
  obtain ⟨brought, hWire, hWhich⟩ := hNews
  cases hSpent with
  | nothing hSame _ _ =>
    refine ⟨brought, [], ?_, hWhich, .inl rfl⟩
    rw [news, hSame, hWire, drop_left, append_nil]
  | fragment hRoom _ seq ack fragment hMore hRemote _ =>
    refine ⟨brought, [.sent seq ack fragment], ?_, hWhich, .inr ⟨⟨seq, ack, fragment, rfl⟩, ?_⟩⟩
    · rw [news, hMore, hWire, append_assoc, drop_left]
    · rw [hRemote]
      intro hWrapped
      have hPred := toNat_pred hRoom
      rw [hWrapped] at hPred
      have hLess := begun.mRemoteReceiveWindowSize.toNat_lt
      change 255 = _ at hPred
      omega

theorem inBounds_iff (p : BlePlatform) (hGrants : Grants role size e.core) :
  InBounds e (e.step p event) ↔ InWindow role e event := by
  obtain ⟨brought, sent, hNews, hBrought, hSent⟩ := news_step p e event
  refine ⟨?_, ?_⟩
  · intro hBounds fragment hAccepts
    rcases hBrought with ⟨-, hNone⟩ | ⟨fragment', -, rfl⟩
    · exact absurd hAccepts (hNone fragment)
    · apply hGrants.room_iff.mpr
      apply hBounds.localWindow
      exact ⟨.received fragment', by rw [hNews]; exact mem_append_left _ mem_cons_self, rfl⟩
  · intro hIn
    have hLocal (fragment : List UInt8) (hAccepts : Accepts e event fragment) :
        e.mLocalReceiveWindowSize ≠ 0 := hGrants.room_iff.mp (hIn fragment hAccepts)
    rcases hBrought with ⟨rfl, -⟩ | ⟨fragment, hAccepts, rfl⟩
    · rcases hSent with rfl | ⟨⟨seq, ack, fragment, rfl⟩, hRemote⟩
      · exact ⟨by rw [hNews]; exact ⟨Nat.zero_le 1, Nat.zero_le 1⟩, by simp [hNews], by simp [hNews]⟩
      · exact ⟨by rw [hNews]; exact ⟨Nat.le_refl 1, Nat.zero_le 1⟩, by simp [hNews, Wire.isSent],
          fun _ => hRemote⟩
    · have hOpen := hLocal fragment hAccepts
      rcases hSent with rfl | ⟨⟨seq, ack, fragment', rfl⟩, hRemote⟩
      · exact ⟨by rw [hNews]; exact ⟨Nat.zero_le 1, Nat.le_refl 1⟩, fun _ => hOpen,
          by simp [hNews, Wire.isSent]⟩
      · exact ⟨by rw [hNews]; exact ⟨Nat.le_refl 1, Nat.le_refl 1⟩, fun _ => hOpen,
          fun _ => hRemote⟩

theorem usable_of_grants (hGrants : Grants role size e.core)
  (hSize : maxHeaderSize < size) : Usable role e where
  fragmentSize := hGrants.fragmentSize.symm ▸ hSize
  advances e' hRun hOpen := by
    have hKept := (hRun.grants hGrants).resolve_left hOpen
    exact advances_of_size (hKept.fragmentSize.symm ▸ hSize)
  inBounds e' hRun hOpen p event := inBounds_iff p ((hRun.grants hGrants).resolve_left hOpen)

/-- The peripheral after the subscription of the central. It aborts when no version is supported. -/
def answered (resp : CapabilitiesResponse) : BLEEndPoint :=
  if resp.mSelectedProtocolVersion = protocolVersionNone then
    { connectedPeripheral resp.mWindowSize defaultFragmentSize (bufferOf resp.encode) with
      mState := .aborting }
  else connectedPeripheral resp.mWindowSize resp.mFragmentSize.toNat (bufferOf resp.encode)

def requested (resp : CapabilitiesResponse) : BLEEndPoint :=
  { init .peripheral with
    mState := if resp.mSelectedProtocolVersion = protocolVersionNone then .aborting else .connecting
    mBtpEngine := if resp.mSelectedProtocolVersion = protocolVersionNone then BtpEngine.init true
      else { BtpEngine.init true with
        mRxFragmentSize := resp.mFragmentSize.toNat
        mTxFragmentSize := resp.mFragmentSize.toNat }
    mSendQueue := [bufferOf resp.encode]
    mLocalReceiveWindowSize := resp.mWindowSize
    mRemoteReceiveWindowSize := resp.mWindowSize
    mReceiveWindowMaxSize := resp.mWindowSize }

theorem handleCapabilitiesRequestReceived_ok {granted timer : Bool} {platformMtu : UInt16}
  {data : List UInt8} {req : CapabilitiesRequest}
  (hDecode : CapabilitiesRequest.decode data = .ok req)
  (hOk : handleCapabilitiesRequestReceived granted timer platformMtu data (init .peripheral) =
    (.ok (), e)) : e = requested (responseTo req platformMtu) := by
  rw [handleCapabilitiesRequestReceived, modify_bind, hDecode,
    bind_ok (lift_apply _ _)] at hOk
  obtain ⟨-, hOk⟩ := verify_bind_eq_ok hOk
  rw [modify_bind] at hOk
  unfold requested
  by_cases hNone : (responseTo req platformMtu).mSelectedProtocolVersion = protocolVersionNone
  · rw [if_pos hNone, modify_bind] at hOk
    dsimp only at hOk
    rw [modify_bind, verify_apply] at hOk
    rw [if_pos hNone, if_pos hNone]
    split at hOk
    · injection hOk with _ hEq
      exact hEq.symm
    · cases hOk
  · rw [if_neg hNone, modify_bind] at hOk
    dsimp only at hOk
    rw [modify_bind, verify_apply] at hOk
    rw [if_neg hNone, if_neg hNone]
    split at hOk
    · injection hOk with _ hEq
      exact hEq.symm
    · cases hOk

theorem handleSubscribeReceived_ok {p : BlePlatform} {accepts : Bool} {resp : CapabilitiesResponse}
  {after : BLEEndPoint}
  (hOk : handleSubscribeReceived p accepts (requested resp) = (.ok (), after)) :
  after = answered resp := by
  rw [handleSubscribeReceived, read_bind] at hOk
  obtain ⟨-, hOk⟩ := verify_bind_eq_ok hOk
  obtain ⟨-, hOk⟩ := verify_bind_eq_ok hOk
  rw [modify_bind] at hOk
  cases hSend : p.gattSend with
  | false =>
    rw [hSend] at hOk
    cases hOk
  | true =>
    rw [hSend, if_neg (by decide), modify_bind] at hOk
    obtain ⟨-, hOk⟩ := verify_bind_eq_ok hOk
    rw [modify_bind] at hOk
    unfold answered
    unfold requested at hOk
    by_cases hNone : resp.mSelectedProtocolVersion = protocolVersionNone
    · simp only [hNone, if_true] at hOk ⊢
      injection hOk with _ hEq
      exact hEq.symm
    · simp only [hNone, if_false] at hOk ⊢
      rw [if_neg (by decide), modify_bind, verify_apply] at hOk
      split at hOk
      · injection hOk with _ hEq
        exact hEq.symm
      · cases hOk

theorem handleCapabilitiesResponseReceived_ok {p : BlePlatform} {callback subscribing : Bool}
  {data : List UInt8} {resp : CapabilitiesResponse}
  (hDecode : CapabilitiesResponse.decode data = .ok resp)
  (hOk : handleCapabilitiesResponseReceived p callback data (awaitingResponse subscribing) =
    (.ok (), e)) :
  e = connectedCentral resp.mWindowSize (min resp.mFragmentSize sMaxFragmentSize).toNat
    subscribing := by
  rw [handleCapabilitiesResponseReceived, hDecode, bind_ok (lift_apply _ _)] at hOk
  obtain ⟨-, hOk⟩ := verify_bind_eq_ok hOk
  obtain ⟨-, hOk⟩ := verify_bind_eq_ok hOk
  rw [modify_bind, modify_bind] at hOk
  obtain ⟨-, hOk⟩ := verify_bind_eq_ok hOk
  rw [modify_bind, verify_apply] at hOk
  split at hOk
  · injection hOk with _ hEq
    exact hEq.symm
  · cases hOk

theorem min_toNat (a b : UInt16) : (min a b).toNat = min a.toNat b.toNat := by
  change (if a ≤ b then a else b).toNat = _
  by_cases hLe : a ≤ b
  · rw [if_pos hLe, Nat.min_eq_left (UInt16.le_iff_toNat_le.mp hLe)]
  · have hLess : b.toNat < a.toNat := UInt16.lt_iff_toNat_lt.mp (UInt16.not_le.mp hLe)
    rw [if_neg hLe, Nat.min_eq_right (Nat.le_of_lt hLess)]

theorem selectFragmentSize_iff (mtu : UInt16) :
  maxHeaderSize < (selectFragmentSize mtu).toNat ↔ ¬ (3 ≤ mtu ∧ mtu ≤ 8) := by
  have hLess := mtu.toNat_lt
  rw [UInt16.le_iff_toNat_le, UInt16.le_iff_toNat_le, maxHeaderSize, selectFragmentSize]
  change _ ↔ ¬ (3 ≤ mtu.toNat ∧ mtu.toNat ≤ 8)
  by_cases hSome : 0 < mtu
  · have hPositive : 0 < mtu.toNat := UInt16.lt_iff_toNat_lt.mp hSome
    have hTaken : (mtu - 3).toNat = (mtu.toNat + 65533) % 65536 := by
      rw [UInt16.toNat_sub]
      change (65536 - 3 + mtu.toNat) % 65536 = _
      omega
    rw [if_pos hSome, min_toNat, hTaken]
    change 5 < min _ 244 ↔ _
    omega
  · have hZero : mtu.toNat = 0 := by
      rw [UInt16.lt_iff_toNat_lt] at hSome
      change ¬ 0 < mtu.toNat at hSome
      omega
    rw [if_neg hSome, hZero]
    decide

theorem grants_answered (resp : CapabilitiesResponse) :
  Grants .peripheral (if resp.mSelectedProtocolVersion = protocolVersionNone then defaultFragmentSize
    else resp.mFragmentSize.toNat) (answered resp).core := by
  unfold answered
  by_cases hNone : resp.mSelectedProtocolVersion = protocolVersionNone
  · rw [if_pos hNone, if_pos hNone]
    exact ⟨rfl, rfl, nofun⟩
  · rw [if_neg hNone, if_neg hNone]
    exact ⟨rfl, rfl, nofun⟩

theorem grants_connectedCentral {window : UInt8} (hWindow : window ≠ 0) (fragmentSize : Nat)
  (subscribing : Bool) :
  Grants .central fragmentSize (connectedCentral window fragmentSize subscribing).core := by
  refine ⟨?_, rfl, nofun⟩
  have hPositive : 0 < window.toNat :=
    Nat.pos_of_ne_zero fun hZero => hWindow (UInt8.toNat_inj.mp hZero)
  change (window - 1).toNat + 1 = window.toNat
  rw [toNat_pred hWindow]
  omega

theorem min_window_eq_zero (window : UInt8) : min window maxReceiveWindowSize = 0 ↔ window = 0 := by
  change (if window ≤ maxReceiveWindowSize then window else maxReceiveWindowSize) = 0 ↔ _
  by_cases hLe : window ≤ maxReceiveWindowSize
  · rw [if_pos hLe]
  · rw [if_neg hLe]
    refine iff_of_false (by decide) ?_
    rintro rfl
    exact hLe (by decide)

theorem pred_eq_max_iff (window : UInt8) : window - 1 = 255 ↔ window = 0 := by
  refine ⟨?_, ?_⟩
  · intro hWrapped
    by_contra hSome
    have hPred := toNat_pred hSome
    have hLess := window.toNat_lt
    rw [hWrapped] at hPred
    change 255 = _ at hPred
    omega
  · rintro rfl
    rfl

theorem answered_usable_iff (req : CapabilitiesRequest) (platformMtu : UInt16) :
  ((answered (responseTo req platformMtu)).mRemoteReceiveWindowSize ≠ 255 ∧
      Usable .peripheral (answered (responseTo req platformMtu))) ↔
    (req.highestSupportedProtocolVersion = protocolVersionNone ∨
      ¬ (3 ≤ mtuOf req platformMtu ∧ mtuOf req platformMtu ≤ 8)) ∧ req.mWindowSize ≠ 0 := by
  have hGrants := grants_answered (responseTo req platformMtu)
  have hRemote : (answered (responseTo req platformMtu)).mRemoteReceiveWindowSize =
      min req.mWindowSize maxReceiveWindowSize - 1 := by
    unfold answered
    split_ifs
    · rfl
    · rfl
  have hWindow : min req.mWindowSize maxReceiveWindowSize = 0 ↔ req.mWindowSize = 0 :=
    min_window_eq_zero req.mWindowSize
  have hSize : maxHeaderSize < (if req.highestSupportedProtocolVersion =
      protocolVersionNone then defaultFragmentSize
      else (selectFragmentSize (mtuOf req platformMtu)).toNat) ↔
      (req.highestSupportedProtocolVersion = protocolVersionNone ∨
        ¬ (3 ≤ mtuOf req platformMtu ∧ mtuOf req platformMtu ≤ 8)) := by
    by_cases hNone : req.highestSupportedProtocolVersion = protocolVersionNone
    · rw [if_pos hNone]
      exact iff_of_true (by decide) (.inl hNone)
    · rw [if_neg hNone, selectFragmentSize_iff, or_iff_right hNone]
  rw [hRemote, ne_eq, pred_eq_max_iff, hWindow, and_comm, ← hSize]
  refine and_congr_left fun _ => ⟨?_, usable_of_grants hGrants⟩
  intro hUsable
  exact hGrants.fragmentSize ▸ hUsable.fragmentSize

theorem connectedCentral_usable_iff (resp : CapabilitiesResponse) (subscribing : Bool) :
  ((connectedCentral resp.mWindowSize (min resp.mFragmentSize sMaxFragmentSize).toNat
      subscribing).mLocalReceiveWindowSize ≠ 255 ∧
    Usable .central (connectedCentral resp.mWindowSize
      (min resp.mFragmentSize sMaxFragmentSize).toNat subscribing)) ↔
    5 < resp.mFragmentSize ∧ resp.mWindowSize ≠ 0 := by
  have hSize : maxHeaderSize < (min resp.mFragmentSize sMaxFragmentSize).toNat ↔
      5 < resp.mFragmentSize := by
    rw [min_toNat, UInt16.lt_iff_toNat_lt, maxHeaderSize]
    change 5 < min _ 244 ↔ 5 < _
    omega
  change resp.mWindowSize - 1 ≠ 255 ∧ _ ↔ _
  rw [ne_eq, pred_eq_max_iff, and_comm, ← hSize]
  refine and_congr_left fun hWindow => ⟨fun hUsable => hUsable.fragmentSize, ?_⟩
  exact usable_of_grants (grants_connectedCentral hWindow _ subscribing)

/-- When the peripheral has accepted a request and sent its response, its parameters are usable and
its first decrement was in bounds exactly if no version is supported or the MTU is not from three to
eight, and the window of the request is not zero. When the central has accepted a response, they are
exactly if the fragment size is above the largest header and the window is not zero. -/
theorem handshake_usable_iff (p : BlePlatform) :
    (∀ granted timer platformMtu data req e accepts after,
      CapabilitiesRequest.decode data = .ok req →
      handleCapabilitiesRequestReceived granted timer platformMtu data (init .peripheral) =
        (.ok (), e) →
      handleSubscribeReceived p accepts e = (.ok (), after) →
      ((after.mRemoteReceiveWindowSize ≠ 255 ∧ Usable .peripheral after) ↔
        (req.highestSupportedProtocolVersion = protocolVersionNone ∨
          ¬ (3 ≤ mtuOf req platformMtu ∧ mtuOf req platformMtu ≤ 8)) ∧ req.mWindowSize ≠ 0)) ∧
    ∀ callback subscribing data resp e,
      CapabilitiesResponse.decode data = .ok resp →
      handleCapabilitiesResponseReceived p callback data (awaitingResponse subscribing) =
        (.ok (), e) →
      ((e.mLocalReceiveWindowSize ≠ 255 ∧ Usable .central e) ↔
        5 < resp.mFragmentSize ∧ resp.mWindowSize ≠ 0) := by
  refine ⟨?_, ?_⟩
  · intro granted timer platformMtu data req e accepts after hDecode hRequest hSubscribe
    rw [handleCapabilitiesRequestReceived_ok hDecode hRequest] at hSubscribe
    rw [handleSubscribeReceived_ok hSubscribe]
    exact answered_usable_iff req platformMtu
  · intro callback subscribing data resp e hDecode hResponse
    rw [handleCapabilitiesResponseReceived_ok hDecode hResponse]
    exact connectedCentral_usable_iff resp subscribing

/-- An MTU of 23 bytes and a window of six. -/
theorem handshake_usable_mtu23 :
    (∃ e after, handleCapabilitiesRequestReceived true true 0 [0x65, 0x6C, 4, 0, 0, 0, 23, 0, 6]
        (init .peripheral) = (.ok (), e) ∧
      handleSubscribeReceived willing true e = (.ok (), after) ∧ Usable .peripheral after) ∧
    ∃ e, handleCapabilitiesResponseReceived willing true [0x65, 0x6C, 4, 20, 0, 6]
      (awaitingResponse true) = (.ok (), e) ∧ Usable .central e := by
  refine ⟨⟨_, _, rfl, rfl, ?_⟩, ⟨_, rfl, ?_⟩⟩
  · exact (((handshake_usable_iff willing).1 true true 0 [0x65, 0x6C, 4, 0, 0, 0, 23, 0, 6] _ _ true
      _ rfl rfl rfl).mpr (by decide)).2
  · exact (((handshake_usable_iff willing).2 true true [0x65, 0x6C, 4, 20, 0, 6] _ _ rfl rfl).mpr
      (by decide)).2

/-- With an MTU of three bytes no fragment takes anything from a message, and with a window of zero the
first decrement goes below zero. -/
theorem handshake_not_usable :
    (∃ e after, handleCapabilitiesRequestReceived true true 0 [0x65, 0x6C, 4, 0, 0, 0, 3, 0, 6]
        (init .peripheral) = (.ok (), e) ∧
      handleSubscribeReceived willing true e = (.ok (), after) ∧ ¬ Advances after.mBtpEngine) ∧
    ∃ e, handleCapabilitiesResponseReceived willing true [0x65, 0x6C, 4, 20, 0, 0]
      (awaitingResponse true) = (.ok (), e) ∧ e.mLocalReceiveWindowSize = 255 := by
  refine ⟨⟨_, _, rfl, rfl, ?_⟩, ⟨_, rfl, rfl⟩⟩
  intro hAdvances
  have hOne := hAdvances (some oneByte) false _ rfl
  revert hOne
  decide

end BLEEndPoint

end Chip.Ble
