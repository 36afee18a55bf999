import Chip.Messaging.ExchangeLifecycle
import Mathlib.Data.List.Basic

/-! What an exchange promises its delegate: a failed `SendMessage` leaves the exchange waiting for
what it waited for, a response that is waited for with a timeout has a timer, and the delegate is
told once that the exchange is closing and is not called after that. -/
namespace Chip.Messaging.Lifecycle

open Proc List ExchangeContext

def ExchangeContext.waits (c : ExchangeContext) : Bool × Bool :=
  (c.responseExpected, c.willSendMessage)

/-- How far the exchange has been closed, and what its delegate has heard. -/
def ExchangeContext.life (c : ExchangeContext) : Bool × Bool × List Callback :=
  (c.closed, c.mDelegate, c.callbacks)

/-- An exchange that is not closed: `held` references are held besides the one of the retransmission
table, and a response that is waited for with a timeout has its timer. -/
structure Live (held : Nat) (c : ExchangeContext) : Prop where
  references : held + c.messageNotAcked.toNat ≤ c.mRefCount
  timer : c.responseExpected = true → c.awaitedTimeout ≠ 0 → c.responseTimer = true

/-- The exchange is still as far in its life, and live unless it is closed. -/
def Undisturbed (held : Nat) (life : Bool × Bool × List Callback) (c : ExchangeContext) : Prop :=
  c.life = life ∧ (c.closed = false → Live held c)

section Calls

variable {held : Nat} {life : Bool × Bool × List Callback}
variable {c : ExchangeContext}

theorem Undisturbed.releaseEntry (h : Undisturbed held life c) :
  Undisturbed held life c.releaseEntry := by
  unfold ExchangeContext.releaseEntry
  split_ifs with hEntry
  · refine ⟨h.1, fun hOpen => ⟨?_, (h.2 hOpen).timer⟩⟩
    have hHeld := (h.2 hOpen).references
    rw [hEntry, Bool.toNat_true] at hHeld
    exact Nat.le_sub_one_of_lt hHeld
  · exact h

theorem Undisturbed.setPendingPeerAckMessageCounter (messageCounter : UInt32)
  (h : Undisturbed held life c) :
  Undisturbed held life (c.setPendingPeerAckMessageCounter messageCounter) :=
  ⟨h.1, fun hOpen => ⟨(h.2 hOpen).references, (h.2 hOpen).timer⟩⟩

theorem Undisturbed.retain (h : Undisturbed held life c) :
  Undisturbed (held + 1) life c.retain := by
  refine ⟨h.1, fun hOpen => ⟨?_, (h.2 hOpen).timer⟩⟩
  rw [Nat.add_right_comm]
  exact Nat.succ_le_succ (h.2 hOpen).references

theorem dispatchMessage_undisturbed (permitted : Bool) (sent : Except ChipError Unit)
  (reliable : Bool) :
  Proc.Maintains (Undisturbed held life) (dispatchMessage permitted sent reliable)
    fun _ => True := by
  have hAck : Proc.Maintains (ε := ChipError) (Undisturbed held life)
      (modify fun c => if c.ackMessageCounterIsValid then { c with ackPending := false } else c)
      fun _ => True := by
    refine .modify fun c h => ?_
    split_ifs
    · exact ⟨h.1, fun hOpen => ⟨(h.2 hOpen).references, (h.2 hOpen).timer⟩⟩
    · exact h
  have hEntry : Proc.Maintains (Undisturbed held life) (do
        lift sent
        modify fun c : ExchangeContext => { c.retain with messageNotAcked := true })
      fun _ => True := by
    refine .bind (.lift fun _ _ => trivial) fun _ _ => .modify fun c h => ?_
    refine ⟨h.1, fun hOpen => ⟨?_, (h.2 hOpen).timer⟩⟩
    exact Nat.succ_le_succ ((Nat.le_add_right held _).trans (h.2 hOpen).references)
  refine .bind (.verify _ _) fun _ _ => .bind hAck fun _ _ => .read_bind fun c _ => ?_
  split
  · split
    · refine .bind (.modify fun c h => ?_) fun _ _ => .bind (.fail _) fun _ (_ : True) => hEntry
      exact ⟨h.1, fun hOpen => ⟨(h.2 hOpen).references, (h.2 hOpen).timer⟩⟩
    · exact hEntry
  · exact .lift fun _ _ => trivial

theorem expectResponse_undisturbed (timer : Except ChipError Unit) :
  Proc.Maintains (Undisturbed held life) (expectResponse timer) fun _ => True := by
  intro c h
  refine ⟨?_, fun _ _ => trivial⟩
  unfold expectResponse
  rw [read_bind, verify_bind]
  by_cases hFree : c.responseExpected = false
  · rw [if_pos hFree, modify_bind]
    by_cases hTimeout : c.mResponseTimeout > 0
    · rw [if_pos hTimeout]
      cases timer with
      | error err => exact ⟨h.1, fun hOpen => ⟨(h.2 hOpen).references, fun hExpected => nomatch hExpected⟩⟩
      | ok _ => exact ⟨h.1, fun hOpen => ⟨(h.2 hOpen).references, fun _ _ => rfl⟩⟩
    · rw [if_neg hTimeout]
      refine ⟨h.1, fun hOpen => ⟨(h.2 hOpen).references, fun _ hAwaited => ?_⟩⟩
      exact absurd (Nat.pos_of_ne_zero hAwaited) hTimeout
  · rw [if_neg hFree]
    exact h

theorem Undisturbed.stopResponseTimer (h : Undisturbed held life c) :
  Undisturbed held life { c with responseTimer := false, responseExpected := false } :=
  ⟨h.1, fun hOpen => ⟨(h.2 hOpen).references, fun hExpected => nomatch hExpected⟩⟩

theorem sendOnSession_undisturbed (isStandaloneAck : Bool) (session : Session)
  (reliable startedResponseTimer : Bool) (answers : Answers) :
  Proc.Maintains (Undisturbed held life)
    (sendOnSession isStandaloneAck session reliable startedResponseTimer answers)
    fun _ => True := by
  refine .read_bind fun c _ => .bind (.verify _ _) fun _ _ => ?_
  refine .bind (.attempt (dispatchMessage_undisturbed _ _ _)) fun result _ => ?_
  cases result with
  | error err =>
    have hFail : Proc.Maintains (α := Unit) (Undisturbed held life)
        (fail err : ExchangeM Unit) fun _ => True := .fail err
    cases startedResponseTimer with
    | true => exact .bind (.modify fun c h => h.stopResponseTimer) fun _ _ => hFail
    | false => exact hFail
  | ok _ =>
    cases isStandaloneAck with
    | true => exact .pure trivial
    | false =>
      exact .modify fun c h =>
        ⟨h.1, fun hOpen => ⟨(h.2 hOpen).references, (h.2 hOpen).timer⟩⟩

theorem sendMessage_undisturbed (isStandaloneAck : Bool) (flags : SendMessageFlags)
  (answers : Answers) :
  Proc.Maintains (Undisturbed held life) (sendMessage isStandaloneAck flags answers)
    fun _ => True := by
  refine .read_bind fun c _ => ?_
  cases c.mSession with
  | none => exact .fail _
  | some session =>
    have hSend : ∀ startedResponseTimer, Proc.Maintains (Undisturbed held life)
        (sendOnSession isStandaloneAck session
          (session.requireMRP && !flags.noAutoRequestAck && !session.isGroupSession)
          startedResponseTimer answers) fun _ => True :=
      fun _ => sendOnSession_undisturbed _ _ _ _ _
    dsimp only
    split
    · exact .bind (expectResponse_undisturbed _) fun _ _ => hSend _
    · exact .bind (.pure trivial) fun _ (_ : True) => hSend _

theorem sendStandaloneAckMessage_undisturbed (ack : AckAnswers) :
  Proc.Maintains (Undisturbed held life) (sendStandaloneAckMessage ack) fun _ => True := by
  refine .bind (.verify _ _) fun _ _ => ?_
  refine .bind (.attempt (sendMessage_undisturbed _ _ _)) fun result _ => ?_
  cases result with
  | ok _ => exact .pure trivial
  | error err =>
    dsimp only
    split
    · exact .pure trivial
    · exact .fail _

theorem flushAcks_undisturbed (ack : AckAnswers) :
  Proc.Maintains (Undisturbed held life) (flushAcks ack) fun _ => True := by
  refine .read_bind fun c _ => ?_
  split
  · exact sendStandaloneAckMessage_undisturbed ack
  · exact .pure trivial

end Calls

/-- The delegate of a closed exchange has heard of the closing last, and once. -/
def Told (closed : Bool) (callbacks : List Callback) : Prop :=
  if closed = true then
    ∃ before, callbacks = before ++ [.onExchangeClosing] ∧ Callback.onExchangeClosing ∉ before
  else Callback.onExchangeClosing ∉ callbacks

variable {callbacks : List Callback} {s : Running}

theorem Told.open_append {callback : Callback} (h : Told false callbacks)
  (hOther : callback ≠ .onExchangeClosing) :
  Told false (callbacks ++ [callback]) := by
  rw [Told, if_neg (by decide)] at h ⊢
  rw [mem_append, mem_singleton]
  rintro (hBefore | hLast)
  · exact h hBefore
  · exact hOther hLast.symm

theorem Told.close (h : Told false callbacks) :
  Told true (callbacks ++ [.onExchangeClosing]) := by
  rw [Told, if_neg (by decide)] at h
  rw [Told, if_pos rfl]
  exact ⟨callbacks, rfl, h⟩

/-- The delegate of a closed exchange is only left while it hears of the closing. -/
structure Orderly (s : Running) : Prop where
  live : s.exchange.closed = false →
    s.exchange.mDelegate = true ∧ Live (1 + s.tasks.count .release) s.exchange
  told : Told s.exchange.closed s.exchange.callbacks
  closing : s.exchange.closed = true → s.exchange.mDelegate = true →
    ∃ pre clearRetransTable post,
      s.tasks = pre ++ .finishClose clearRetransTable :: post ∧ Task.notifyDelegate ∉ pre
  begun : ∀ clearRetransTable, .finishClose clearRetransTable ∈ s.tasks → s.exchange.closed = true

def Plain (s : Running) (pushed : List Task) : Prop :=
  (∀ clearRetransTable, Task.finishClose clearRetransTable ∉ pushed) ∧
    (s.exchange.closed = true → s.exchange.mDelegate = true → Task.notifyDelegate ∉ pushed)

namespace Orderly

variable {s : Running} {pushed : List Task}
variable {c : ExchangeContext} {tasks : List Task}

section

variable (h : Orderly s)
include h

theorem push {callbacks : List Callback}
  (hKept : Undisturbed (1 + s.tasks.count .release + pushed.count .release)
    (s.exchange.closed, s.exchange.mDelegate, callbacks) c)
  (hTold : Told s.exchange.closed callbacks) (hPlain : Plain s pushed) :
  Orderly (s.push (c, pushed)) := by
  obtain ⟨hLife, hLive⟩ := hKept
  obtain ⟨hClosed, hRest⟩ := Prod.mk.inj hLife
  obtain ⟨hDelegate, hCallbacks⟩ := Prod.mk.inj hRest
  refine ⟨fun hOpen => ⟨?_, ?_, (hLive hOpen).timer⟩, ?_, fun hShut hHas => ?_,
    fun clear hMem => ?_⟩
  · exact hDelegate.trans (h.live (hClosed.symm.trans hOpen)).1
  · have hHeld := (hLive hOpen).references
    rw [Nat.add_assoc 1, Nat.add_comm (s.tasks.count _), ← count_append] at hHeld
    exact hHeld
  · change Told c.closed c.callbacks
    rw [hClosed, hCallbacks]
    exact hTold
  · have hShut' := hClosed.symm.trans hShut
    have hHas' := hDelegate.symm.trans hHas
    obtain ⟨pre, clear, post, hTasks, hQuiet⟩ := h.closing hShut' hHas'
    refine ⟨pushed ++ pre, clear, post, ?_, ?_⟩
    · change pushed ++ s.tasks = _
      rw [hTasks, append_assoc]
    · rw [mem_append]
      rintro (hPushed | hPre)
      · exact hPlain.2 hShut' hHas' hPushed
      · exact hQuiet hPre
  · rcases mem_append.mp hMem with hPushed | hOld
    · exact absurd hPushed (hPlain.1 clear)
    · exact hClosed.trans (h.begun clear hOld)

theorem undisturbed : Undisturbed (1 + s.tasks.count .release) s.exchange.life s.exchange :=
  ⟨rfl, fun hOpen => (h.live hOpen).2⟩

theorem push_same
  (hKept : Undisturbed (1 + s.tasks.count .release + pushed.count .release) s.exchange.life c)
  (hPlain : Plain s pushed) : Orderly (s.push (c, pushed)) :=
  h.push hKept h.told hPlain

theorem heard {callback : Callback} (hOpen : s.exchange.closed = false)
  (hOther : callback ≠ .onExchangeClosing)
  (hKept : Undisturbed (1 + s.tasks.count .release + pushed.count .release)
    (s.exchange.closed, s.exchange.mDelegate, s.exchange.callbacks ++ [callback]) c)
  (hPlain : Plain s pushed) : Orderly (s.push (c, pushed)) := by
  refine h.push hKept ?_ hPlain
  have hTold := h.told
  rw [hOpen] at hTold ⊢
  exact hTold.open_append hOther

theorem pop {task : Task} (hTasks : s.tasks = task :: tasks)
  (hOther : ∀ clearRetransTable, task ≠ .finishClose clearRetransTable) :
  Orderly { s with tasks } := by
  refine ⟨fun hOpen => ⟨(h.live hOpen).1, ?_, (h.live hOpen).2.timer⟩, h.told,
    fun hShut hHas => ?_, fun clear hMem => h.begun clear ?_⟩
  · have hHeld := (h.live hOpen).2.references
    rw [hTasks] at hHeld
    have hLess := count_le_count_cons (a := Task.release) (b := task) (l := tasks)
    dsimp only at hHeld ⊢
    omega
  · obtain ⟨pre, clear, post, hSplit, hQuiet⟩ := h.closing hShut hHas
    rw [hTasks] at hSplit
    cases pre with
    | nil => exact absurd (cons.inj hSplit).1 (hOther clear)
    | cons first pre =>
      exact ⟨pre, clear, post, (cons.inj hSplit).2,
        fun hMem => hQuiet (mem_cons_of_mem _ hMem)⟩
  · rw [hTasks]
    exact mem_cons_of_mem _ hMem

theorem doClose (clearRetransTable : Bool) (extra : List Task) (hPlain : Plain s extra) :
  Orderly (s.push ((s.exchange.doClose clearRetransTable).1,
    (s.exchange.doClose clearRetransTable).2 ++ extra)) := by
  unfold ExchangeContext.doClose
  cases hClosed : s.exchange.closed with
  | true =>
    rw [if_pos rfl]
    refine h.push_same ⟨rfl, fun hOpen => ?_⟩ hPlain
    rw [hClosed] at hOpen
    cases hOpen
  | false =>
    have hTold := h.told
    rw [hClosed] at hTold
    rw [if_neg (by decide), if_pos (h.live hClosed).1]
    refine ⟨(fun hOpen => nomatch hOpen), hTold.close, fun _ _ => ?_, fun _ _ => rfl⟩
    exact ⟨[.callback], clearRetransTable, extra ++ s.tasks, rfl, by decide⟩

theorem doClose_alone (clearRetransTable : Bool) :
  Orderly (s.push (s.exchange.doClose clearRetransTable)) := by
  have hClosing := h.doClose clearRetransTable [] ⟨by simp, by simp⟩
  rw [append_nil] at hClosing
  exact hClosing

theorem finishClose {clearRetransTable : Bool}
  (hTasks : s.tasks = .finishClose clearRetransTable :: tasks) (ack : AckAnswers) :
  Orderly
    { exchange := s.exchange.finishClose clearRetransTable ack, tasks := tasks } := by
  have hClosed : s.exchange.closed = true := h.begun clearRetransTable (by simp [hTasks])
  have hLife : (s.exchange.finishClose clearRetransTable ack).life =
      (true, false, s.exchange.callbacks) := by
    have hLeft : Undisturbed 0 (true, false, s.exchange.callbacks)
        { s.exchange with mDelegate := false } := by
      refine ⟨by rw [life, hClosed], fun hOpen => ?_⟩
      rw [hClosed] at hOpen
      cases hOpen
    have hFlushed := (flushAcks_undisturbed ack _ hLeft).1
    have hTimer : ∀ c : ExchangeContext, c.life = (true, false, s.exchange.callbacks) →
        (if c.responseExpected then { c with responseTimer := false } else c).life =
          (true, false, s.exchange.callbacks) := by
      intro c hLife
      split_ifs
      · exact hLife
      · exact hLife
    apply hTimer
    cases clearRetransTable with
    | true => exact hFlushed.releaseEntry.1
    | false => exact hFlushed.1
  obtain ⟨hShut, hRest⟩ := Prod.mk.inj hLife
  obtain ⟨hGone, hCallbacks⟩ := Prod.mk.inj hRest
  refine ⟨fun hOpen => ?_, ?_, fun _ hHas => ?_, fun _ _ => hShut⟩
  · rw [hShut] at hOpen
    cases hOpen
  · have hTold := h.told
    rw [hClosed] at hTold
    dsimp only
    rw [hShut, hCallbacks]
    exact hTold
  · rw [hGone] at hHas
    cases hHas

theorem release (hTasks : s.tasks = .release :: tasks) :
  Orderly
    { exchange := { s.exchange with mRefCount := s.exchange.mRefCount - 1 }, tasks := tasks } := by
  have hPopped := h.pop hTasks (by simp)
  refine ⟨fun hOpen => ⟨(h.live hOpen).1, ?_, (h.live hOpen).2.timer⟩, h.told, hPopped.closing,
    hPopped.begun⟩
  have hHeld := (h.live hOpen).2.references
  rw [hTasks, count_cons_self] at hHeld
  dsimp only
  omega

theorem messageHandled : Orderly (s.push (s.exchange, s.exchange.messageHandled)) := by
  unfold ExchangeContext.messageHandled
  split
  · exact h
  · exact h.push_same h.undisturbed ⟨by simp, by simp⟩

theorem notifyDelegate (hTasks : s.tasks = .notifyDelegate :: tasks) (ack : AckAnswers) :
  Orderly ({ s with tasks }.push (s.exchange.runTask ack .notifyDelegate)) := by
  have hPopped := h.pop hTasks (by simp)
  unfold runTask
  dsimp only
  split
  next hHas =>
    have hOpen : s.exchange.closed = false := by
      by_contra hShut
      obtain ⟨pre, clear, post, hSplit, hQuiet⟩ := h.closing (Bool.not_eq_false _ ▸ hShut) hHas
      rw [hTasks] at hSplit
      cases pre with
      | nil => cases hSplit
      | cons first pre =>
        obtain ⟨hFirst, -⟩ := cons.inj hSplit
        exact hQuiet (by simp [hFirst])
    refine hPopped.heard hOpen (by decide) ⟨rfl, fun _ => ?_⟩ ⟨by simp, by simp⟩
    exact ⟨(hPopped.live hOpen).2.references, (hPopped.live hOpen).2.timer⟩
  next => exact hPopped

theorem runTask {task : Task} (hTasks : s.tasks = task :: tasks) (ack : AckAnswers) :
  Orderly ({ s with tasks }.push (s.exchange.runTask ack task)) := by
  cases task with
  | callback => exact h.pop hTasks (by simp)
  | notifyDelegate => exact h.notifyDelegate hTasks ack
  | messageHandled => exact (h.pop hTasks (by simp)).messageHandled
  | finishMessage msg =>
    have hPopped := h.pop hTasks (by simp)
    unfold ExchangeContext.runTask
    dsimp only
    split
    · exact hPopped
    · exact hPopped.messageHandled
  | doClose clear => exact (h.pop hTasks (by simp)).doClose_alone clear
  | finishClose clear => exact h.finishClose hTasks ack
  | close clear => exact (h.pop hTasks (by simp)).doClose clear [.release] ⟨by simp, by simp⟩
  | release => exact h.release hTasks

end

end Orderly

theorem Told.count {closed : Bool} (h : Told closed callbacks) :
  callbacks.count .onExchangeClosing = if closed = true then 1 else 0 := by
  cases closed with
  | false => exact count_eq_zero_of_not_mem h
  | true =>
    obtain ⟨before, rfl, hBefore⟩ := h
    rw [count_append, count_eq_zero_of_not_mem hBefore]
    rfl

theorem Told.last {closed : Bool} {callbacks before after : List Callback}
  (h : Told closed callbacks) (hSplit : callbacks = before ++ .onExchangeClosing :: after) :
  after = [] := by
  cases closed with
  | false => exact absurd (by simp [hSplit]) h
  | true =>
    obtain ⟨earlier, rfl, hEarlier⟩ := h
    rcases append_eq_append_iff.mp hSplit with ⟨more, rfl, hRest⟩ | ⟨more, rfl, hRest⟩
    · cases more with
      | nil => exact (cons.inj hRest).2.symm
      | cons first more =>
        obtain ⟨-, hNone⟩ := cons.inj hRest
        simp at hNone
    · cases more with
      | nil => exact (cons.inj hRest).2
      | cons first more =>
        obtain ⟨rfl, -⟩ := cons.inj hRest
        simp at hEarlier

end Chip.Messaging.Lifecycle
