import AdbDaemon.Transport.Task

/-!
# Who is woken when a socket changes

Reference: `SocketBackend::shutdown`, `SocketBackend::handle_message` and the polls of
`packages/transport/src/socket.rs`; the wait of `Transport::open_socket` in
`packages/transport/src/transport.rs`.

A socket has two halves, each with a waker. A poll registers the waker of its half, then takes the
locks, and `poll_shutdown` takes them again to close the socket and to write the `CLSE`. Messages are
dispatched at any point between. The polls of one socket take it by `&mut`, so they never overlap;
nothing here needs that, and the halves are free to run against each other. Each step is handed the
shared connection as it finds it, without a latched error.

`handle_message` notifies the wakers of the halves it may have made ready. `shutdown` closes the
socket and notifies nobody. `socket_wakeups_iff` is the exact condition under which no half sleeps
through a change.
-/

namespace AdbDaemon.Transport

open Common

/-! ## Polls -/

/-- The two halves of a socket that may be polled by different tasks. -/
inductive Half where
  | reader
  | writer
deriving DecidableEq

/-- The polls of a socket, by the half whose waker they register. -/
inductive HalfPoll : Half → Type where
  | read (remaining : Nat) : HalfPoll .reader
  | write (buf : List UInt8) : HalfPoll .writer
  | flush : HalfPoll .writer
  | shutdown : HalfPoll .writer
  /-- The wait of `open_socket` for the reply of the device. -/
  | openWait : HalfPoll .writer

/-- The wait of `open_socket`, after it registered. -/
def pollOpen (st : State) (sh : Shared) : Outcome Error UInt32 :=
  match sh.checkError with
  | .error err => .ready (.error err)
  | .ok () =>
    if st.remoteId ≠ 0 then .ready (.ok st.remoteId)
    else if st.closed then .ready (.error (.kind .closed))
    else .pending

/-- It is the poll of a task that waits. -/
theorem Sock.poll_waiting {s : Sock} (h : s.phase = .waiting) (sh : Shared) :
    (s.poll sh).map SockNext.event = some (.waited (pollOpen s.state sh)) := by
  simp only [Sock.poll, h, pollOpen]
  cases sh.checkError with
  | error err => rfl
  | ok =>
    by_cases hid : s.state.remoteId = 0
    · cases s.state.closed <;> simp [hid]
    · simp [hid]

/-- What the caller of a poll gets to see. -/
inductive Answer where
  | pending
  | failed
  | done
deriving DecidableEq

def Outcome.answer {ε α : Type} : Outcome ε α → Answer
  | .pending => .pending
  | .ready (.ok _) => .done
  | .ready (.error _) | .panic => .failed

/-- Why a poll that returned `Pending` did. -/
inductive Reason where
  /-- The connection has transfers to flush. -/
  | connection
  /-- `write_throttle` has not ticked. -/
  | throttle
  /-- The state of the socket. -/
  | socket
deriving DecidableEq

namespace HalfPoll

variable (localId : UInt32) (tick : Bool) (st : State) (sh : Shared)

/-- What a poll does when it takes the locks for the first time; for `poll_shutdown` this is its
flush. -/
def locked {h : Half} : HalfPoll h → Answer × State
  | .read remaining =>
    let p := pollRead localId remaining st sh
    (p.outcome.answer, p.state)
  | .write buf =>
    let p := pollWrite localId buf tick st sh
    (p.outcome.answer, p.state)
  | .flush | .shutdown =>
    let p := pollFlush st sh
    (p.outcome.answer, p.state)
  | .openWait => ((pollOpen st sh).answer, st)

/-- The reason of a `Pending`: only `open_socket` waits without a flush of the connection, and only
`poll_write` has a throttle, which it looks at when there is credit. -/
def reason {h : Half} : HalfPoll h → Reason
  | .openWait => .socket
  | .write _ =>
    if sh.pollFlush.1 = .pending then .connection
    else if st.acknowledged = 0 then .socket
    else .throttle
  | .read _ | .flush | .shutdown => if sh.pollFlush.1 = .pending then .connection else .socket

/-- Polling again with a flushed connection would not return `Pending`. The throttle has ticked, and
a `poll_shutdown` gets past its flush. -/
def Ready {h : Half} (p : HalfPoll h) : Prop :=
  ∃ sh : Shared, sh.error = none ∧ (∃ sh', sh.pollFlush = (.ready (.ok ()), sh')) ∧
    (p.locked localId true st sh).1 ≠ .pending

end HalfPoll

/-! ## Halves -/

/-- Where a half of a socket stands. -/
inductive HalfStage : Half → Type where
  | idle {h : Half} : HalfStage h
  /-- The poll registered, and takes the locks next. -/
  | begun {h : Half} (p : HalfPoll h) : HalfStage h
  /-- `poll_shutdown`, after its flush. -/
  | flushed : HalfStage .writer
  /-- `poll_shutdown`, after `SocketBackend::shutdown` handed out the `CLSE`. -/
  | closing (msg : AdbMessage) : HalfStage .writer
  /-- The latest poll returned `Pending`. -/
  | pending {h : Half} (p : HalfPoll h) (reason : Reason) : HalfStage h

/-- No poll is under way. -/
def HalfStage.resting {h : Half} : HalfStage h → Bool
  | .idle | .pending _ _ => true
  | .begun _ | .flushed | .closing _ => false

/-- Where a half goes when its poll releases the locks. -/
def HalfPoll.next {h : Half} (p : HalfPoll h) (reason : Reason) : Answer → HalfStage h
  | .pending => .pending p reason
  | .failed => .idle
  | .done =>
    match h, p with
    | .writer, .shutdown => .flushed
    | _, _ => .idle

/-- A half with its waker. -/
structure Waiter (h : Half) where
  stage : HalfStage h
  /-- The `WakeSink` holds a waker. -/
  registered : Bool
  /-- The half was woken since its latest poll started. -/
  woken : Bool

namespace Waiter

variable {h : Half}

/-- A poll starts with `WakeSink::register`. -/
def register (p : HalfPoll h) : Waiter h where
  stage := .begun p
  registered := true
  woken := false

/-- `WakeSource::notify` wakes the registered waker and takes it out. -/
def notify (w : Waiter h) : Waiter h :=
  if w.registered then { w with registered := false, woken := true } else w

/-- The half waits for its socket, and was not woken. -/
def asleep (w : Waiter h) : Bool :=
  match w.stage with
  | .pending _ .socket => !w.woken
  | _ => false

/-- A half that waits for its socket, and that would not wait if it polled again, was woken. -/
def Complete (localId : UInt32) (st : State) (w : Waiter h) : Prop :=
  ∀ p, w.stage = .pending p .socket → p.Ready localId st → w.woken = true

/-- A half that polls or waits can be woken, or was. -/
def Listens (w : Waiter h) : Prop :=
  w.stage ≠ .idle → w.registered = true ∨ w.woken = true

end Waiter

/-! ## The socket -/

/-- One socket, with what its two halves wait for. -/
structure NotifySt where
  localId : UInt32
  state : State
  waiters : (h : Half) → Waiter h

/-- Polls of the halves, notifications, the parts of a shutdown, and dispatches. -/
inductive NotifyAct where
  /-- A half starts a poll. -/
  | register (h : Half) (p : HalfPoll h)
  /-- Its poll takes the locks. -/
  | locked (h : Half) (tick : Bool) (sh : Shared)
  /-- `SocketBackend::shutdown` of a `poll_shutdown`. -/
  | close (sh : Shared)
  /-- `poll_shutdown` writes the `CLSE` and flushes the connection. -/
  | writeClose (sh : Shared)
  | dispatch (msg : AdbMessage)

/-- The action calls `SocketBackend::shutdown`. -/
def NotifyAct.closes : NotifyAct → Bool
  | .close _ => true
  | _ => false

namespace NotifySt

/-- A socket that `open_socket` or `accept` created. -/
def new (localId remoteId : UInt32) (acknowledged : Nat) : NotifySt where
  localId := localId
  state := State.new remoteId acknowledged
  waiters _ := ⟨.idle, false, false⟩

/-- A half moves on. -/
def setStage (s : NotifySt) (h : Half) (stage : HalfStage h) : NotifySt :=
  { s with waiters := Function.update s.waiters h { s.waiters h with stage } }

def notify (s : NotifySt) (h : Half) : NotifySt :=
  { s with waiters := Function.update s.waiters h (s.waiters h).notify }

/-- The notifications of `SocketBackend::handle_message`. -/
def notifyFor (s : NotifySt) : AdbCommand → NotifySt
  | .OKAY => s.notify .writer
  | .WRTE => s.notify .reader
  | .CLSE => (s.notify .writer).notify .reader
  | _ => s

/-- One step; between two locks of a poll anything else may happen. -/
def step (s : NotifySt) : NotifyAct → Option NotifySt
  | .register h p =>
    if (s.waiters h).stage.resting then
      some { s with waiters := Function.update s.waiters h (.register p) }
    else none
  | .locked h tick sh =>
    match (s.waiters h).stage with
    | .begun p =>
      -- without a latched error `check_transport_error` lets every poll pass
      if sh.error.isSome then none
      else
        let (answer, state) := p.locked s.localId tick s.state sh
        some ({ s with state }.setStage h (p.next (p.reason s.state sh) answer))
    | _ => none
  | .close sh =>
    match (s.waiters .writer).stage with
    | .flushed =>
      if sh.error.isSome then none
      else
        match shutdown s.localId s.state sh with
        | (some msg, state) => some ({ s with state }.setStage .writer (.closing msg))
        | (none, state) => some ({ s with state }.setStage .writer .idle)
    | _ => none
  | .writeClose sh =>
    match (s.waiters .writer).stage with
    | .closing msg =>
      match sh.writeMessage msg with
      | some (.ok (), sh) =>
        -- the only `Pending` of `poll_shutdown` after it closed the socket
        match sh.pollFlush.1 with
        | .pending => some (s.setStage .writer (.pending .shutdown .connection))
        | .ready _ => some (s.setStage .writer .idle)
      | _ => some (s.setStage .writer .idle)
    | _ => none
  | .dispatch msg =>
    match handleMessage msg s.state with
    | .ready (.ok state) => some ({ s with state }.notifyFor msg.header.command)
    | _ => none

end NotifySt

/-- A step of a socket, with the states around it. -/
structure NotifyEvent where
  before : NotifySt
  act : NotifyAct
  after : NotifySt

/-- One socket with its halves, under every interleaving of their polls and of messages. -/
def notifyMachine : Machine NotifySt NotifyAct NotifyEvent where
  step s a := (s.step a).map fun s' => (s', ⟨s, a, s'⟩)

/-- No half sleeps through a change of the socket. -/
def NotifySt.Complete (s : NotifySt) : Prop := ∀ h, (s.waiters h).Complete s.localId s.state

/-- A `shutdown` that closes the socket finds no reader asleep. -/
def NotifyEvent.ReaderAwake (e : NotifyEvent) : Prop :=
  e.act.closes = true → e.before.state.closed = false → (e.before.waiters .reader).asleep = false
deriving Decidable

/-! ## When a poll is ready -/

/-- An answer is pending when its outcome is. -/
@[simp] theorem Outcome.answer_eq_pending {ε α : Type} {o : Outcome ε α} :
    o.answer = .pending ↔ o = .pending := by
  unfold Outcome.answer
  split <;> simp

section Flushed

variable {st : State} {sh sh' : Shared} (herr : sh.error = none)
  (hflush : sh.pollFlush = (.ready (.ok ()), sh'))

include herr hflush

/-- A read is pending while there is nothing to read and no end. -/
theorem pollRead_pending_iff (localId : UInt32) (remaining : Nat) :
    (pollRead localId remaining st sh).outcome = .pending ↔
      st.closed = false ∧ st.readable remaining = [] := by
  rcases pollRead_cases localId st sh remaining with ⟨-, hstop⟩ | ⟨-, -, -, hcases⟩
  · exact absurd ⟨herr, sh', hflush⟩ hstop
  · rcases hcases with ⟨hcl, hout, -⟩ | ⟨hcl, hread, hout, -⟩ | ⟨hcl, hread, hout, -⟩
    · simp [hout, hcl]
    · simp [hout, hcl, hread]
    · simp [hout, hcl, hread]

/-- A write is pending without credit, or with little of it until the throttle lets it through. -/
theorem pollWrite_pending_iff (localId : UInt32) (buf : List UInt8) (tick : Bool) :
    (pollWrite localId buf tick st sh).outcome = .pending ↔
      st.closed = false ∧
        (st.acknowledged = 0 ∨ st.acknowledged ≤ st.initialAcknowledgment / 2 ∧ tick = false) := by
  have hlen : ¬ st.acknowledged < min (min buf.length st.acknowledged) MAX_PAYLOAD.toNat := by
    omega
  obtain ⟨sh'', hwrite, -⟩ := Shared.writeMessage_of_pollFlush hflush (writeWrte localId st buf)
  rw [writeWrte, State.writable] at hwrite
  simp only [pollWrite, Shared.checkError, herr, hflush, if_neg hlen, hwrite]
  split
  · rename_i hcl
    simp [hcl]
  · rename_i hcl
    rw [Bool.not_eq_true] at hcl
    split
    · rename_i hack
      simp [hcl, hack]
    · rename_i hack
      split
      · rename_i hthrottle
        simp [hcl, hthrottle]
      · rename_i hthrottle
        simp [hack, hthrottle]

/-- A flush is pending until everything is acknowledged. -/
theorem pollFlush_pending_iff :
    (pollFlush st sh).outcome = .pending ↔
      st.closed = false ∧ st.acknowledged ≠ st.initialAcknowledgment := by
  simp only [pollFlush, Shared.checkError, herr, hflush]
  split
  · rename_i hack
    simp [hack]
  · rename_i hack
    split
    · rename_i hcl
      simp [hcl]
    · rename_i hcl
      rw [Bool.not_eq_true] at hcl
      simp [hcl, hack]

end Flushed

/-- An open is pending until the device has given its id. -/
theorem pollOpen_pending_iff {st : State} {sh : Shared} (herr : sh.error = none) :
    pollOpen st sh = .pending ↔ st.closed = false ∧ st.remoteId = 0 := by
  simp only [pollOpen, Shared.checkError, herr]
  cases st.closed <;> by_cases hid : st.remoteId = 0 <;> simp [hid]

namespace HalfPoll

/-- What a poll waits for. -/
def Enabled {h : Half} (p : HalfPoll h) (st : State) : Prop :=
  match p with
  | .read remaining => st.closed = true ∨ st.readable remaining ≠ []
  | .write _ => st.closed = true ∨ st.acknowledged ≠ 0
  | .flush | .shutdown => st.closed = true ∨ st.acknowledged = st.initialAcknowledgment
  | .openWait => st.closed = true ∨ st.remoteId ≠ 0

variable {localId : UInt32} {tick : Bool} {st : State} {sh sh' : Shared} {h : Half} {p : HalfPoll h}

/-- Once the connection is flushed and the throttle lets it pass, a poll is `Pending` exactly while
what it waits for has not come. -/
theorem locked_pending_iff (herr : sh.error = none) (hflush : sh.pollFlush = (.ready (.ok ()), sh'))
    (hpass : tick = true ∨ p.reason st sh = .socket) :
    (p.locked localId tick st sh).1 = .pending ↔ ¬ p.Enabled st := by
  cases p with
  | read remaining => simp [locked, Enabled, pollRead_pending_iff herr hflush]
  | write buf =>
    -- A `Pending` of the throttle has another reason.
    have hthrottle : tick = false → st.acknowledged = 0 := by
      intro htick
      by_contra hack
      simp [htick, reason, hflush, hack] at hpass
    simp only [locked, Enabled, Outcome.answer_eq_pending, pollWrite_pending_iff herr hflush]
    grind
  | flush | shutdown => simp [locked, Enabled, pollFlush_pending_iff herr hflush]
  | openWait => simp [locked, Enabled, pollOpen_pending_iff herr]

/-- Nobody waits for a closed socket. -/
theorem enabled_of_closed (hclosed : st.closed = true) : p.Enabled st := by
  cases p <;> exact .inl hclosed

/-- A connection with nothing to flush. -/
def flushedShared : Shared := ⟨some (UsbConnection.new 64), none⟩

/-- A poll answers exactly when it is enabled. -/
theorem ready_iff : p.Ready localId st ↔ p.Enabled st := by
  constructor
  · rintro ⟨sh, herr, ⟨sh', hflush⟩, hready⟩
    by_contra henabled
    exact hready ((locked_pending_iff herr hflush (.inl rfl)).mpr henabled)
  · intro henabled
    refine ⟨flushedShared, rfl, ⟨flushedShared, rfl⟩, fun hpending => ?_⟩
    exact (locked_pending_iff rfl rfl (.inl rfl)).mp hpending henabled

/-- A poll that is `Pending` because of the socket waits for something that has not come. -/
theorem not_enabled_of_pending (herr : sh.error = none)
    (hpending : (p.locked localId tick st sh).1 = .pending) (hreason : p.reason st sh = .socket) :
    ¬ p.Enabled st := by
  cases p with
  | openWait => simpa [locked, Enabled, pollOpen_pending_iff herr] using hpending
  | read _ | write _ | flush | shutdown =>
    rcases hflush : sh.pollFlush with ⟨_ | err | ⟨⟩, sh'⟩
    · simp [reason, hflush] at hreason
    · -- A connection that fails to flush is no `Pending`.
      simp only [locked, pollRead, pollWrite, pollFlush, Shared.checkError, herr, hflush,
        Outcome.answer_eq_pending] at hpending
      grind
    · exact (locked_pending_iff herr hflush (.inr hreason)).mp hpending

/-- A read takes from the buffer or leaves the socket as it is. -/
theorem locked_read (localId : UInt32) (tick : Bool) (st : State) (sh : Shared) (remaining : Nat) :
    ((HalfPoll.read remaining).locked localId tick st sh).2 = st ∨
      ((HalfPoll.read remaining).locked localId tick st sh).2 = st.afterRead remaining := by
  rcases pollRead_cases localId st sh remaining with ⟨hstop, -⟩ | ⟨-, -, hstate, -⟩
  · exact .inl hstop.state
  · exact .inr hstate

/-- The polls of the writer half change the credit, and only when they return. -/
theorem locked_writer (localId : UInt32) (tick : Bool) (st : State) (sh : Shared)
    (p : HalfPoll .writer) :
    (p.locked localId tick st sh).2 = st ∨
      (p.locked localId tick st sh).1 ≠ .pending ∧
        ∃ acknowledged, (p.locked localId tick st sh).2 = { st with acknowledged } := by
  cases p with
  | write buf =>
    rcases pollWrite_cases localId st sh buf tick with hstop | ⟨-, -, -, hout, -, hstate⟩
    · exact .inl hstop.state
    · exact .inr ⟨by simp [locked, hout], _, hstate⟩
  | flush | shutdown => exact .inl (pollFlush_cases st sh).1
  | openWait => exact .inl rfl

/-- A read that found nothing finds nothing afterwards. -/
theorem not_enabled_afterRead {remaining : Nat} (hread : ¬ (HalfPoll.read remaining).Enabled st) :
    ¬ (HalfPoll.read remaining).Enabled (st.afterRead remaining) := by
  simp only [Enabled, State.readable, unread_afterRead] at hread ⊢
  rintro (hclosed | hbytes)
  · exact hread (.inl hclosed)
  · -- the loop took the empty payloads at most
    refine hbytes ?_
    have hnil : st.unread.take remaining = [] := not_not.mp fun hne => hread (.inr hne)
    rcases List.take_eq_nil_iff.mp hnil with hzero | hunread
    · rw [hzero, List.take_zero]
    · rw [hunread, List.drop_nil, List.take_nil]

/-- A half that starts to wait for the socket is not ready. -/
theorem not_enabled_locked (herr : sh.error = none)
    (hpending : (p.locked localId tick st sh).1 = .pending) (hreason : p.reason st sh = .socket) :
    ¬ p.Enabled (p.locked localId tick st sh).2 := by
  have hbefore : ¬ p.Enabled st := not_enabled_of_pending herr hpending hreason
  cases h with
  | reader =>
    cases p with
    | read remaining =>
      rcases locked_read localId tick st sh remaining with hstate | hstate
      · rw [hstate]
        exact hbefore
      · rw [hstate]
        exact not_enabled_afterRead hbefore
  | writer =>
    rcases locked_writer localId tick st sh p with hstate | ⟨hne, -⟩
    · rw [hstate]
      exact hbefore
    · exact absurd hpending hne

/-- A poll never makes the other half ready. -/
theorem enabled_locked_other {h' : Half} {q : HalfPoll h'} (hne : h' ≠ h)
    (henabled : q.Enabled (p.locked localId tick st sh).2) : q.Enabled st := by
  cases h with
  | reader =>
    -- the read buffer is no matter of the writer half, nor the credit of the reader half
    cases p with
    | read remaining =>
      rcases locked_read localId tick st sh remaining with hstate | hstate <;> rw [hstate] at henabled
      · exact henabled
      · cases q with
        | read _ => exact absurd rfl hne
        | write _ | flush | shutdown | openWait => exact henabled
  | writer =>
    cases q with
    | write _ | flush | shutdown | openWait => exact absurd rfl hne
    | read remaining =>
      rcases locked_writer localId tick st sh p with hstate | ⟨-, acknowledged, hstate⟩ <;>
        rw [hstate] at henabled <;> exact henabled

/-- A call that stays pending waits for what it waited for. -/
theorem next_eq_pending {q : HalfPoll h} {reason reason' : Reason} {answer : Answer}
    (hnext : p.next reason answer = .pending q reason') :
    answer = .pending ∧ p = q ∧ reason = reason' := by
  cases answer with
  | pending =>
    cases hnext
    exact ⟨rfl, rfl, rfl⟩
  | failed => cases hnext
  | done =>
    simp only [next] at hnext
    split at hnext <;> cases hnext

/-- Only `OKAY` and `CLSE` make the writer half ready, only `WRTE` and `CLSE` the reader half. -/
theorem enabled_handleMessage {msg : AdbMessage} {st' : State}
    (hmsg : handleMessage msg st = .ready (.ok st')) (henabled : p.Enabled st')
    (hbefore : ¬ p.Enabled st) :
    msg.header.command = .CLSE ∨ (h = .writer ∧ msg.header.command = .OKAY) ∨
      (h = .reader ∧ msg.header.command = .WRTE) := by
  rcases handleMessage_cases st hmsg with ⟨hcmd, avail, -, rfl⟩ | ⟨hcmd, rfl⟩ | ⟨hcmd, -⟩
  · cases p with
    | read _ => exact absurd henabled hbefore
    | write _ | flush | shutdown | openWait => exact .inr (.inl ⟨rfl, hcmd⟩)
  · cases p with
    | read _ => exact .inr (.inr ⟨rfl, hcmd⟩)
    | write _ | flush | shutdown | openWait => exact absurd henabled hbefore
  · exact .inl hcmd

end HalfPoll

/-! ## Steps -/

namespace Waiter

variable {h : Half} {w : Waiter h} {localId : UInt32} {st : State}

/-- A half sleeps if its poll waits for the socket and it has not been woken. -/
theorem asleep_iff : w.asleep = true ↔ ∃ p, w.stage = .pending p .socket ∧ w.woken = false := by
  unfold asleep
  split
  · rename_i p hstage
    simp [hstage]
  · rename_i hstage
    exact ⟨nofun, fun ⟨p, hp, _⟩ => (hstage p hp).elim⟩

/-- A notification does not move the half itself. -/
theorem notify_stage : w.notify.stage = w.stage := by
  unfold notify
  split <;> rfl

theorem Listens.woken_notify (hw : w.Listens) (hstage : w.stage ≠ .idle) : w.notify.woken = true := by
  unfold notify
  split
  · rfl
  · rename_i hregistered
    exact (hw hstage).resolve_left hregistered

/-- A half that was woken still listens. -/
theorem Listens.notify (hw : w.Listens) : w.notify.Listens := by
  intro hstage
  rw [notify_stage] at hstage
  exact .inr (hw.woken_notify hstage)

/-- A half that moves on within a poll keeps its waker. -/
theorem Listens.setStage (hw : w.Listens) (hstage : w.stage ≠ .idle) (stage : HalfStage h) :
    Listens { w with stage } := fun _ => hw hstage

/-- A half that does not wait for the socket misses nothing. -/
theorem Complete.of_stage {stage : HalfStage h} (hstage : ∀ p, stage ≠ .pending p .socket) :
    Complete localId st { w with stage } := fun p hp => absurd hp (hstage p)

/-- A half that was complete stays so while nothing makes it ready. -/
theorem Complete.of_enabled {st' : State} (hw : w.Complete localId st)
    (henabled : ∀ p : HalfPoll h, p.Enabled st' → p.Enabled st) : w.Complete localId st' := by
  intro p hstage hready
  rw [HalfPoll.ready_iff] at hready
  exact hw p hstage (HalfPoll.ready_iff.mpr (henabled p hready))

/-- On a closed socket a half that misses nothing does not sleep. -/
theorem Complete.not_asleep (hw : w.Complete localId st) (hclosed : st.closed = true) :
    w.asleep = false := by
  rw [Bool.eq_false_iff]
  intro hasleep
  obtain ⟨p, hstage, hwoken⟩ := asleep_iff.mp hasleep
  have hready : p.Ready localId st := HalfPoll.ready_iff.mpr (HalfPoll.enabled_of_closed hclosed)
  rw [hw p hstage hready] at hwoken
  cases hwoken

/-- A half that is awake is complete in every state. -/
theorem Complete.of_not_asleep (hw : w.asleep = false) : w.Complete localId st := by
  intro p hstage _
  by_contra hwoken
  have hasleep : w.asleep = true := asleep_iff.mpr ⟨p, hstage, by simpa using hwoken⟩
  rw [hw] at hasleep
  cases hasleep

end Waiter

namespace NotifySt

variable {s s' : NotifySt} {h : Half}

theorem setStage_self (stage : HalfStage h) :
    (s.setStage h stage).waiters h = { s.waiters h with stage } := Function.update_self ..

theorem setStage_of_ne {h' : Half} (hne : h' ≠ h) (stage : HalfStage h) :
    (s.setStage h stage).waiters h' = s.waiters h' := Function.update_of_ne hne ..

/-- A half is notified of a message, unless the message is none of its own. -/
theorem notifyFor_cases (s : NotifySt) (command : AdbCommand) (h : Half) :
    (s.notifyFor command).waiters h = (s.waiters h).notify ∨
      ((s.notifyFor command).waiters h = s.waiters h ∧
        ¬ (command = .CLSE ∨ (h = .writer ∧ command = .OKAY) ∨ (h = .reader ∧ command = .WRTE))) := by
  unfold notifyFor notify
  cases h <;> cases command <;> simp

/-- A notification does not touch the socket. -/
theorem notifyFor_state (s : NotifySt) (command : AdbCommand) :
    (s.notifyFor command).state = s.state := by
  cases command <;> rfl

/-- What holds between two steps. -/
structure Law (s : NotifySt) : Prop where
  listens : ∀ h, (s.waiters h).Listens
  complete : s.Complete

theorem Law.new (localId remoteId : UInt32) (acknowledged : Nat) :
    (NotifySt.new localId remoteId acknowledged).Law where
  listens _ := fun hstage => absurd rfl hstage
  complete _ := nofun

/-- What a step can do. -/
inductive Step (s : NotifySt) : NotifyAct → NotifySt → Prop
  | register (h : Half) (p : HalfPoll h) :
      Step s (.register h p) { s with waiters := Function.update s.waiters h (.register p) }
  | locked {h : Half} {p : HalfPoll h} (tick : Bool) {sh : Shared} (herr : sh.error = none)
      (hstage : (s.waiters h).stage = .begun p) :
      Step s (.locked h tick sh)
        ({ s with state := (p.locked s.localId tick s.state sh).2 }.setStage h
          (p.next (p.reason s.state sh) (p.locked s.localId tick s.state sh).1))
  | close {stage : HalfStage .writer} (sh : Shared) (hflushed : (s.waiters .writer).stage = .flushed)
      (hstage : ∀ p, stage ≠ .pending p .socket) :
      Step s (.close sh)
        ({ s with state := { s.state with closed := true } }.setStage .writer stage)
  | writeClose {msg : AdbMessage} {stage : HalfStage .writer} (sh : Shared)
      (hclosing : (s.waiters .writer).stage = .closing msg)
      (hstage : ∀ p, stage ≠ .pending p .socket) :
      Step s (.writeClose sh) (s.setStage .writer stage)
  | dispatch {msg : AdbMessage} {state : State}
      (hmsg : handleMessage msg s.state = .ready (.ok state)) :
      Step s (.dispatch msg) ({ s with state }.notifyFor msg.header.command)

theorem step_of_eq {a : NotifyAct} (hs : s.step a = some s') : s.Step a s' := by
  cases a with
  | register h p =>
    simp only [step, Option.ite_none_right_eq_some] at hs
    obtain ⟨-, hs⟩ := hs
    cases hs
    exact .register h p
  | locked h tick sh =>
    simp only [step] at hs
    split at hs
    · rename_i p hstage
      obtain ⟨herr, hs⟩ := Option.ite_none_left_eq_some.mp hs
      cases hs
      exact .locked tick (by simpa using herr) hstage
    · cases hs
  | close sh =>
    simp only [step] at hs
    split at hs
    · rename_i hflushed
      obtain ⟨herr, hs⟩ := Option.ite_none_left_eq_some.mp hs
      rcases shutdown_cases s.localId s.state sh with ⟨-, -, heq⟩ | ⟨hor, heq⟩
      · rw [heq] at hs
        cases hs
        exact .close sh hflushed nofun
      · -- The socket was closed before.
        have hclosed : s.state.closed = true := hor.resolve_left (by simpa using herr)
        have hstate : { s.state with closed := true } = s.state := by rw [← hclosed]
        rw [heq] at hs
        cases hs
        have hstep : s.Step (.close sh)
            ({ s with state := { s.state with closed := true } }.setStage .writer .idle) :=
          .close sh hflushed nofun
        rwa [hstate] at hstep
    · cases hs
  | writeClose sh =>
    simp only [step] at hs
    split at hs
    · rename_i msg hclosing
      split at hs
      · split at hs
        · cases hs
          exact .writeClose sh hclosing nofun
        · cases hs
          exact .writeClose sh hclosing nofun
      · cases hs
        exact .writeClose sh hclosing nofun
    · cases hs
  | dispatch msg =>
    simp only [step] at hs
    split at hs
    · rename_i state hmsg
      cases hs
      exact .dispatch hmsg
    · cases hs

/-- One half moves on within its poll. -/
theorem listens_setStage (hs : ∀ h, (s.waiters h).Listens) (hstage : (s.waiters h).stage ≠ .idle)
    (stage : HalfStage h) (h' : Half) : ((s.setStage h stage).waiters h').Listens := by
  by_cases hne : h' = h
  · subst hne
    rw [setStage_self]
    exact (hs h').setStage hstage stage
  · rw [setStage_of_ne hne]
    exact hs h'

/-- In every step a half that waits is registered first. -/
theorem Step.listens {a : NotifyAct} (hstep : s.Step a s') (hs : ∀ h, (s.waiters h).Listens)
    (h' : Half) : (s'.waiters h').Listens := by
  cases hstep with
  | register h p =>
    by_cases hne : h' = h
    · subst hne
      simp only [Function.update_self]
      exact fun _ => .inl rfl
    · simp only [Function.update_of_ne hne]
      exact hs h'
  | locked tick herr hstage => exact listens_setStage hs (by simp [hstage]) _ h'
  | close sh hflushed hstage => exact listens_setStage hs (by simp [hflushed]) _ h'
  | writeClose sh hclosing hstage => exact listens_setStage hs (by simp [hclosing]) _ h'
  | @dispatch msg state hmsg =>
    rcases notifyFor_cases { s with state } msg.header.command h' with hw | ⟨hw, -⟩ <;> rw [hw]
    · exact (hs h').notify
    · exact hs h'

/-- The half that moved on does not wait for the socket, and nothing made the other one ready. -/
theorem complete_setStage {state : State} {stage : HalfStage h} (hs : s.Complete)
    (hstage : Waiter.Complete s.localId state { s.waiters h with stage })
    (hother : ∀ h' ≠ h, ∀ p : HalfPoll h', p.Enabled state → p.Enabled s.state) :
    ({ s with state }.setStage h stage).Complete := by
  intro h'
  by_cases hne : h' = h
  · subst hne
    rw [setStage_self]
    exact hstage
  · rw [setStage_of_ne hne]
    exact (hs h').of_enabled (hother h' hne)

/-- `shutdown` makes the reader half ready and does not notify it: the notifications stay complete
only if that half is not asleep. -/
theorem complete_close_iff {stage : HalfStage .writer} (hs : s.Complete)
    (hstage : ∀ p, stage ≠ .pending p .socket) :
    ({ s with state := { s.state with closed := true } }.setStage .writer stage).Complete ↔
      (s.state.closed = false → (s.waiters .reader).asleep = false) := by
  constructor
  · intro hcomplete _
    have hreader := (hcomplete .reader).not_asleep rfl
    rwa [setStage_of_ne (by simp)] at hreader
  · intro hawake
    cases hclosed : s.state.closed with
    | true =>
      refine complete_setStage hs (.of_stage hstage) fun h' _ p henabled => ?_
      rwa [← hclosed] at henabled
    | false =>
      intro h'
      cases h' with
      | writer =>
        rw [setStage_self]
        exact .of_stage hstage
      | reader =>
        rw [setStage_of_ne (by simp)]
        exact .of_not_asleep (hawake hclosed)

/-- After a message of the device the halves that it enables are notified. -/
theorem complete_dispatch {msg : AdbMessage} {state : State} (hs : s.Law)
    (hmsg : handleMessage msg s.state = .ready (.ok state)) :
    ({ s with state }.notifyFor msg.header.command).Complete := by
  intro h p hp hready
  rw [notifyFor_state, HalfPoll.ready_iff] at hready
  rcases notifyFor_cases { s with state } msg.header.command h with hw | ⟨hw, hother⟩ <;>
    rw [hw] at hp ⊢
  · rw [Waiter.notify_stage] at hp
    refine (hs.listens h).woken_notify fun hidle => ?_
    cases hidle.symm.trans hp
  · -- a message that does not notify the half does not make it ready either
    refine hs.complete h p hp (HalfPoll.ready_iff.mpr ?_)
    by_contra hbefore
    exact hother (HalfPoll.enabled_handleMessage hmsg hready hbefore)

/-- A step keeps both halves from missing anything, unless it closes the socket while the reader
sleeps. -/
theorem Step.complete_iff {a : NotifyAct} (hstep : s.Step a s') (hs : s.Law) :
    s'.Complete ↔
      (a.closes = true → s.state.closed = false → (s.waiters .reader).asleep = false) := by
  cases hstep with
  | register h p =>
    refine iff_of_true (fun h' => ?_) nofun
    by_cases hne : h' = h
    · subst hne
      simp only [Function.update_self]
      exact nofun
    · simp only [Function.update_of_ne hne]
      exact hs.complete h'
  | @locked h p tick sh herr hstage =>
    refine iff_of_true (complete_setStage hs.complete ?_ ?_) nofun
    · -- the half starts to wait in the state that its poll left
      intro q hq hready
      obtain ⟨hpending, rfl, hreason⟩ := HalfPoll.next_eq_pending hq
      exact absurd (HalfPoll.ready_iff.mp hready) (HalfPoll.not_enabled_locked herr hpending hreason)
    · exact fun h' hne q henabled => HalfPoll.enabled_locked_other hne henabled
  | close sh hflushed hstage =>
    rw [complete_close_iff hs.complete hstage]
    exact ⟨fun h _ => h, fun h => h rfl⟩
  | writeClose sh hclosing hstage =>
    refine iff_of_true (complete_setStage hs.complete (.of_stage hstage) ?_) nofun
    exact fun _ _ _ henabled => henabled
  | dispatch hmsg => exact iff_of_true (complete_dispatch hs hmsg) nofun

end NotifySt

/-- In every run of one socket, from its creation on: no half ever sleeps through a change that
makes it ready, exactly when every `poll_shutdown` that closes the socket finds the reader half
awake. -/
theorem socket_wakeups_iff {localId remoteId : UInt32} {acknowledged : Nat} {tr : List NotifyEvent}
    {s : NotifySt} (hrun : notifyMachine.Run (NotifySt.new localId remoteId acknowledged) tr s) :
    (∀ e ∈ tr, e.after.Complete) ↔ ∀ e ∈ tr, e.ReaderAwake := by
  refine hrun.forall_iff NotifySt.Law _ _ (.new localId remoteId acknowledged) ?_
  intro s a s' e hs hstep
  simp only [notifyMachine, Option.map_eq_some_iff, Prod.mk.injEq] at hstep
  obtain ⟨s', hstep, rfl, rfl⟩ := hstep
  have hstep := NotifySt.step_of_eq hstep
  exact ⟨hstep.complete_iff hs, fun hcomplete => ⟨hstep.listens hs.listens, hcomplete⟩⟩

/-- A poll of a half that runs without interruption. -/
def pollHalf {h : Half} (p : HalfPoll h) : List NotifyAct :=
  [.register h p, .locked h true HalfPoll.flushedShared]

/-- A `poll_shutdown` that runs without interruption. -/
def pollShutdown : List NotifyAct :=
  pollHalf .shutdown ++ [.close HalfPoll.flushedShared, .writeClose HalfPoll.flushedShared]

/-- `open_socket` waits for the device, the reader waits for bytes, and both are woken before the
socket is closed. -/
theorem socket_wakeups_notified :
    ∃ tr s, notifyMachine.Run (NotifySt.new 1 0 0) tr s ∧
      s.state.closed = true ∧ (s.waiters .reader).woken = true ∧ ∀ e ∈ tr, e.after.Complete := by
  obtain ⟨s, tr, hrun, htest⟩ := Machine.exists_run_of_exec (M := notifyMachine)
    (s := NotifySt.new 1 0 0)
    (pollHalf .openWait ++ [.dispatch (AdbMessage.new .OKAY 7 1 (toLeBytes 100))] ++
      pollHalf .openWait ++ pollHalf (.read 8) ++ [.dispatch (AdbMessage.new .WRTE 7 1 [5])] ++
      pollShutdown)
    (fun s tr => s.state.closed && (s.waiters .reader).woken && tr.all fun e => decide e.ReaderAwake)
    (by decide)
  rw [Bool.and_eq_true, Bool.and_eq_true, List.all_eq_true] at htest
  refine ⟨tr, s, hrun, htest.1.1, htest.1.2, (socket_wakeups_iff hrun).mpr fun e he => ?_⟩
  exact of_decide_eq_true (htest.2 e he)

/-- A reader that waits for bytes is not told that its own side closed the socket. -/
theorem socket_wakeups_missed :
    ¬ ∀ (localId remoteId : UInt32) (acknowledged : Nat) (tr : List NotifyEvent) (s : NotifySt),
      notifyMachine.Run (NotifySt.new localId remoteId acknowledged) tr s →
      ∀ e ∈ tr, e.after.Complete := by
  intro hall
  obtain ⟨s, tr, hrun, htest⟩ := Machine.exists_run_of_exec (M := notifyMachine)
    (s := NotifySt.new 1 7 100) (pollHalf (.read 8) ++ pollShutdown)
    (fun _ tr => tr.any fun e => e.after.state.closed && (e.after.waiters .reader).asleep) (by decide)
  obtain ⟨e, he, hasleep⟩ := List.any_eq_true.mp htest
  rw [Bool.and_eq_true] at hasleep
  have hawake := (hall 1 7 100 tr s hrun e he .reader).not_asleep hasleep.1
  rw [hawake] at hasleep
  cases hasleep.2

end AdbDaemon.Transport
