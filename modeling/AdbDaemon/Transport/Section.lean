import AdbDaemon.Transport.Task

/-!
# Critical sections

Reference: `ConnectionWrapperGuard` of `packages/transport/src/transport.rs`; the polls of
`packages/transport/src/socket.rs`.

A poll of a socket registers its waker, checks the error of the transport, and then takes the locks
for one section, which is `Sock.step`; where the section fails, `on_error` comes after it. The lemmas
say when a section can run, and what it does once the error is set, once the connection is gone, and
when it fails.
-/

namespace AdbDaemon.Transport

/-- How a poll returned. -/
inductive Return where
  | pending
  | ok
  | err
  | panic
deriving DecidableEq

def Outcome.ret {ε α : Type} : Outcome ε α → Return
  | .pending => .pending
  | .ready (.ok _) => .ok
  | .ready (.error _) => .err
  | .panic => .panic

def SockEvent.ret : SockEvent → Return
  | .polled outcome _ => outcome.ret
  | .waited outcome => outcome.ret
  | .read _ outcome _ => outcome.ret
  | .wrote _ outcome _ => outcome.ret
  | .flushed outcome | .shutdownFlushed outcome | .shutdownWritten outcome _ => outcome.ret
  | .shutdownMarked _ | .dropped _ => .ok

/-- The events of a section. -/
def SockEvent.of (e : SockEvent) (a : SockAct) : Bool :=
  match a, e with
  | .poll, .polled _ _ | .poll, .waited _ | .read _, .read _ _ _ | .write _ _, .wrote _ _ _
  | .flush, .flushed _ | .shutdownFlush, .shutdownFlushed _ | .shutdownMark, .shutdownMarked _
  | .shutdownWrite, .shutdownWritten _ _ | .drop, .dropped _ => true
  | _, _ => false

/-- A call that is under way. -/
inductive Pc where
  /-- The waker is registered, and the error is checked next. -/
  | begun (a : SockAct)
  /-- The locks are taken next. -/
  | checked (a : SockAct)
  /-- Inside `on_error`: the error is set next, -/
  | raising (ret : Return) (err : Error)
  /-- the connection is taken next, -/
  | taking (ret : Return)
  /-- and the sockets are notified next. -/
  | notifying (ret : Return)

/-- The polls that a task can start, and the drop. -/
def Sock.begins (k : Sock) (a : SockAct) : Bool :=
  match a, k.phase with
  | .poll, .writing _ _ | .poll, .waiting => true
  | .read _, .idle | .write _ _, .idle | .flush, .idle | .shutdownFlush, .idle => true
  | .drop, phase => phase.droppable
  | _, _ => false

/-- `write_message_async` starts without a look at the error, and `poll_shutdown` writes its message
without another one. -/
def Sock.checks (k : Sock) (a : SockAct) : Bool :=
  match a, k.phase with
  | .poll, .writing _ _ | .shutdownWrite, _ => false
  | _, _ => true

/-- The section flushes the connection. -/
def Sock.flushes (k : Sock) (a : SockAct) : Bool :=
  match a with
  | .poll => !k.checks .poll
  | .write _ _ => !k.state.closed
  | .read _ | .flush | .shutdownFlush | .shutdownWrite => true
  | .shutdownMark | .drop => false

/-- The connection as a section that failed leaves it: its `on_error` is still to come. -/
def Sock.leftover (k : Sock) (connection : Option UsbConnection) (err : Error) :
    Option UsbConnection :=
  match k.phase with
  | .writing _ msg => (writeMessageAsync msg ⟨connection, some err⟩).shared.connection
  | .closing msg => (k.shutdownWrite ⟨connection, some err⟩ msg).shared.connection
  | _ => (Shared.pollFlush ⟨connection, some err⟩).2.connection

/-- Where a poll goes on that did not return: `open_socket` waits for the reply, and `poll_shutdown`
has three parts. -/
def SockNext.goesOn (n : SockNext) : Option Pc :=
  match n.event, n.sock.phase with
  | .polled _ _, .waiting => some (.begun .poll)
  | .shutdownFlushed _, .flushed => some (.begun .shutdownMark)
  | .shutdownMarked _, .closing _ => some (.checked .shutdownWrite)
  | _, _ => none

/-- The task can go on with the section. -/
def Sock.ready (k : Sock) (a : SockAct) : Bool :=
  match a, k.phase with
  | .shutdownMark, .flushed | .shutdownWrite, .closing _ => true
  | a, _ => k.begins a

/-- `open_socket` finds no reply. -/
def Sock.waits (k : Sock) : Bool :=
  decide (k.phase = .waiting) && decide (k.state.remoteId = 0) && !k.state.closed

section Sections

variable {k : Sock} {sh : Shared} {a : SockAct} {n : SockNext}

/-- Where a call begins, its first poll can follow. -/
theorem Sock.ready_of_begins (h : k.begins a = true) : k.ready a = true := by
  unfold ready
  split
  · rfl
  · rfl
  · exact h

/-- Whether a section can run does not depend on the connection, only on the phase of its socket. -/
theorem Sock.step_isSome : (k.step sh a).isSome = k.ready a := by
  cases a with
  | poll =>
    simp only [step, poll, ready, begins]
    cases k.phase with
    | waiting =>
      simp only
      split
      · rfl
      · split
        · rfl
        · split <;> rfl
    | _ => rfl
  | shutdownWrite =>
    simp only [step, ready, begins]
    cases k.phase <;> rfl
  | drop =>
    simp only [step, ready, begins]
    cases hd : k.phase.droppable <;> simp
  | shutdownMark =>
    simp only [step, ready, begins]
    cases k.phase <;> rfl
  | read remaining =>
    simp only [step, ready, begins]
    cases k.phase <;> rfl
  | write buf tick =>
    simp only [step, ready, begins]
    cases k.phase <;> rfl
  | flush =>
    simp only [step, ready, begins]
    cases k.phase <;> rfl
  | shutdownFlush =>
    simp only [step, ready, begins]
    cases k.phase <;> rfl

/-- What a call does that finds the error set: it returns it, and leaves the connection alone. -/
theorem Sock.step_of_error (hchecks : k.checks a = true) (herr : sh.error.isSome)
    (hs : k.step sh a = some n) :
    n.shared = sh ∧ n.event.sent = [] ∧ n.goesOn = none ∧
      (n.event.ret = .err ∨ a = .drop ∨ a = .shutdownMark) ∧
      (∀ msg, n.event = .dropped msg → a = .drop) := by
  obtain ⟨err, herr⟩ := Option.isSome_iff_exists.mp herr
  have hcheck : sh.checkError = .error (.transport err) := by rw [Shared.checkError, herr]
  cases a with
  | shutdownWrite => simp [checks] at hchecks
  | poll =>
    simp only [step, poll] at hs
    split at hs
    · rename_i hph
      simp [checks, hph] at hchecks
    · simp only [hcheck, Option.some.injEq] at hs
      subst hs
      exact ⟨rfl, rfl, rfl, .inl rfl, by simp⟩
    · exact absurd hs (by simp)
  | drop =>
    simp only [step, drop, shutdown, hcheck, Option.ite_none_right_eq_some, Option.some.injEq] at hs
    obtain ⟨-, rfl⟩ := hs
    exact ⟨rfl, rfl, rfl, .inr (.inl rfl), fun _ _ => rfl⟩
  | shutdownMark =>
    simp only [step, shutdown, hcheck, Option.ite_none_right_eq_some, Option.some.injEq] at hs
    obtain ⟨-, rfl⟩ := hs
    exact ⟨rfl, rfl, rfl, .inr (.inr rfl), by simp⟩
  | read remaining =>
    simp only [step, pollRead, hcheck, Option.ite_none_right_eq_some, Option.some.injEq] at hs
    obtain ⟨-, rfl⟩ := hs
    exact ⟨rfl, rfl, rfl, .inl rfl, by simp⟩
  | write buf tick =>
    simp only [step, pollWrite, hcheck, Option.ite_none_right_eq_some, Option.some.injEq] at hs
    obtain ⟨-, rfl⟩ := hs
    exact ⟨rfl, rfl, rfl, .inl rfl, by simp⟩
  | flush =>
    simp only [step, pollFlush, hcheck, Option.ite_none_right_eq_some, Option.some.injEq] at hs
    obtain ⟨-, rfl⟩ := hs
    exact ⟨rfl, rfl, rfl, .inl rfl, by simp⟩
  | shutdownFlush =>
    simp only [step, pollFlush, hcheck, Option.ite_none_right_eq_some, Option.some.injEq] at hs
    obtain ⟨-, rfl⟩ := hs
    exact ⟨rfl, rfl, rfl, .inl rfl, by simp⟩

/-- Without error and connection, which the latch rules out, a write would fail as closed. -/
theorem writeMessageAsync_of_none (msg : Option AdbMessage) :
    writeMessageAsync msg ⟨none, none⟩ =
      ⟨.ready (.error (.kind .closed)), msg, ⟨none, none⟩, []⟩ := by
  cases msg <;> rfl

/-- What a section does without a connection: it submits nothing, and only `open_socket` can still
wait and `poll_shutdown` go on. -/
theorem Sock.step_of_no_connection (hs : k.step ⟨none, none⟩ a = some n) :
    n.shared = ⟨none, none⟩ ∧ n.event.sent = [] ∧ (n.goesOn = none ∨ a = .shutdownMark) ∧
      (n.event.ret = .err ∨ a = .drop ∨ a = .shutdownMark ∨ (a = .poll ∧ k.phase = .waiting)) := by
  cases a with
  | poll =>
    simp only [step, poll] at hs
    split at hs
    · rename_i call msg hph
      simp only [writeMessageAsync_of_none, Option.some.injEq] at hs
      subst hs
      exact ⟨rfl, rfl, .inl rfl, .inl rfl⟩
    · rename_i hph
      simp only [Shared.checkError] at hs
      split at hs
      · cases hs
        exact ⟨rfl, rfl, .inl rfl, .inr (.inr (.inr ⟨rfl, hph⟩))⟩
      · split at hs
        · cases hs
          exact ⟨rfl, rfl, .inl rfl, .inl rfl⟩
        · cases hs
          exact ⟨rfl, rfl, .inl (by simp [SockNext.goesOn]), .inr (.inr (.inr ⟨rfl, hph⟩))⟩
    · exact absurd hs (by simp)
  | read remaining =>
    simp only [step, Option.ite_none_right_eq_some, Option.some.injEq] at hs
    obtain ⟨-, rfl⟩ := hs
    exact ⟨rfl, rfl, .inl rfl, .inl rfl⟩
  | write buf tick =>
    simp only [step, pollWrite, Shared.checkError, Shared.pollFlush, Option.ite_none_right_eq_some,
      Option.some.injEq] at hs
    obtain ⟨-, rfl⟩ := hs
    split <;> exact ⟨rfl, rfl, .inl rfl, .inl rfl⟩
  | flush =>
    simp only [step, Option.ite_none_right_eq_some, Option.some.injEq] at hs
    obtain ⟨-, rfl⟩ := hs
    exact ⟨rfl, rfl, .inl rfl, .inl rfl⟩
  | shutdownFlush =>
    simp only [step, Option.ite_none_right_eq_some, Option.some.injEq] at hs
    obtain ⟨-, rfl⟩ := hs
    exact ⟨rfl, rfl, .inl rfl, .inl rfl⟩
  | shutdownMark =>
    simp only [step, Option.ite_none_right_eq_some, Option.some.injEq] at hs
    obtain ⟨-, rfl⟩ := hs
    exact ⟨rfl, rfl, .inr rfl, .inr (.inr (.inl rfl))⟩
  | shutdownWrite =>
    simp only [step] at hs
    split at hs
    · cases hs
      exact ⟨rfl, rfl, .inl rfl, .inl rfl⟩
    · exact absurd hs (by simp)
  | drop =>
    simp only [step, Option.ite_none_right_eq_some, Option.some.injEq] at hs
    obtain ⟨-, rfl⟩ := hs
    exact ⟨rfl, rfl, .inl rfl, .inr (.inl rfl)⟩

/-- A section that runs where the error is latched does not take the connection. -/
theorem Shared.pollFlush_held (herr : sh.error.isSome) :
    sh.pollFlush.2.error.isSome ∧ sh.pollFlush.2.connection.isSome = sh.connection.isSome := by
  unfold pollFlush
  split
  · exact ⟨herr, rfl⟩
  · rename_i c hc
    rw [hc]
    split
    · exact ⟨herr, rfl⟩
    · exact ⟨herr, rfl⟩
    · simp only [onError, herr, if_true]
      exact ⟨trivial, rfl⟩

/-- With an error set nobody takes or brings back a connection. -/
theorem pollWritten_held (herr : sh.error.isSome) (sent : List AdbMessage) :
    (pollWritten sh sent).shared.connection.isSome = sh.connection.isSome := by
  have hheld := (Shared.pollFlush_held herr).2
  unfold pollWritten
  split <;> rename_i hf <;> rw [hf] at hheld <;> exact hheld

/-- Writing a message keeps the error and the connection. -/
theorem writeMessage_held {sh' : Shared} {msg : AdbMessage} {res : Except Error Unit}
    (hw : sh.writeMessage msg = some (res, sh')) :
    sh'.error = sh.error ∧ sh'.connection.isSome = sh.connection.isSome := by
  unfold Shared.writeMessage at hw
  split at hw
  · cases hw
    exact ⟨rfl, rfl⟩
  · rename_i c hc
    split at hw
    · exact absurd hw (by simp)
    · cases hw
      exact ⟨rfl, by rw [hc]; rfl⟩

/-- With an error set a write and its flush leave the connection, or its absence, as it is. -/
theorem writeMessageAsync_held (herr : sh.error.isSome) (msg : Option AdbMessage) :
    (writeMessageAsync msg sh).shared.connection.isSome = sh.connection.isSome := by
  unfold writeMessageAsync
  have hheld := Shared.pollFlush_held herr
  split
  · exact pollWritten_held herr []
  · split <;> rename_i hf <;> rw [hf] at hheld
    · exact hheld.2
    · exact hheld.2
    · split <;> rename_i hw
      · exact hheld.2
      · exact (writeMessage_held hw).2.trans hheld.2
      · obtain ⟨he, hc⟩ := writeMessage_held hw
        rw [pollWritten_held (by rw [he]; exact hheld.1), hc]
        exact hheld.2

/-- With an error set the write of a shutdown leaves the connection, or its absence, as it is. -/
theorem Sock.shutdownWrite_held (herr : sh.error.isSome) (k : Sock) (msg : AdbMessage) :
    (k.shutdownWrite sh msg).shared.connection.isSome = sh.connection.isSome := by
  unfold shutdownWrite
  split
  · rfl
  · rename_i hw
    exact (writeMessage_held hw).2
  · rename_i sh' hw
    obtain ⟨he, hc⟩ := writeMessage_held hw
    have hheld := (Shared.pollFlush_held (by rw [he]; exact herr)).2.trans hc
    split <;> rename_i hf <;> rw [hf] at hheld <;> exact hheld

/-- A poll that has the connection gives it back. -/
theorem Sock.leftover_isSome (k : Sock) (connection : Option UsbConnection) (err : Error) :
    (k.leftover connection err).isSome = connection.isSome := by
  unfold leftover
  split
  · exact writeMessageAsync_held rfl _
  · exact shutdownWrite_held rfl k _
  · exact (Shared.pollFlush_held rfl).2

/-- A section that does not fail keeps the connection, or its absence. -/
theorem Sock.step_connection {connection : Option UsbConnection}
    (hs : k.step ⟨connection, none⟩ a = some n) (herr : n.shared.error = none) :
    n.shared.connection.isSome = connection.isSome := by
  cases connection with
  | none =>
    obtain ⟨hsh, -⟩ := step_of_no_connection hs
    rw [hsh]
  | some c => exact (Sock.step_cases hs).2.1.connection herr rfl

/-- The connection is gone when the error is set, as it is after `on_error`. -/
def Shared.Taken (sh : Shared) : Prop := sh.error ≠ none → sh.connection = none

/-- `on_error` takes the connection away with the first error. -/
theorem Shared.onError_taken (h : sh.Taken) (err : Error) : (sh.onError err).2.Taken := by
  unfold onError
  split
  · exact h
  · exact fun _ => rfl

/-- A flush keeps that the connection is gone once there is an error. -/
theorem Shared.pollFlush_taken (h : sh.Taken) : sh.pollFlush.2.Taken := by
  unfold pollFlush
  split
  · exact h
  · rename_i c hc
    have hkeep : ∀ c', ({ sh with connection := some c' } : Shared).Taken := by
      intro c' herr
      exact absurd (hc.symm.trans (h herr)) (by simp)
    split
    · exact hkeep _
    · exact hkeep _
    · exact onError_taken (hkeep _) _

/-- Writing a message keeps that the connection is gone once there is an error. -/
theorem writeMessage_taken {sh' : Shared} {msg : AdbMessage} {res : Except Error Unit} (h : sh.Taken)
    (hw : sh.writeMessage msg = some (res, sh')) : sh'.Taken := by
  obtain ⟨herr, hsame⟩ := writeMessage_held hw
  intro hsome
  rw [herr] at hsome
  simpa [h hsome] using hsame

/-- The flush behind a write keeps that the connection is gone once there is an error. -/
theorem pollWritten_taken (h : sh.Taken) (sent : List AdbMessage) :
    (pollWritten sh sent).shared.Taken := by
  have htaken := Shared.pollFlush_taken h
  unfold pollWritten
  split <;> rename_i hf <;> rw [hf] at htaken <;> exact htaken

/-- A write and its flush keep that the connection is gone once there is an error. -/
theorem writeMessageAsync_taken (h : sh.Taken) (msg : Option AdbMessage) :
    (writeMessageAsync msg sh).shared.Taken := by
  have htaken := Shared.pollFlush_taken h
  unfold writeMessageAsync
  split
  · exact pollWritten_taken h []
  · split <;> rename_i hf <;> rw [hf] at htaken
    · exact htaken
    · exact htaken
    · split <;> rename_i hw
      · exact htaken
      · exact writeMessage_taken htaken hw
      · exact pollWritten_taken (writeMessage_taken htaken hw) _

/-- The write of a shutdown keeps that the connection is gone once there is an error. -/
theorem Sock.shutdownWrite_taken (h : sh.Taken) (k : Sock) (msg : AdbMessage) :
    (k.shutdownWrite sh msg).shared.Taken := by
  unfold shutdownWrite
  split
  · exact h
  · rename_i hw
    exact writeMessage_taken h hw
  · rename_i sh' hw
    have htaken := Shared.pollFlush_taken (writeMessage_taken h hw)
    split <;> rename_i hf <;> rw [hf] at htaken <;> exact htaken

/-- A read keeps that the connection is gone once there is an error. -/
theorem pollRead_taken (h : sh.Taken) (localId : UInt32) (remaining : Nat) (st : State) :
    (pollRead localId remaining st sh).shared.Taken := by
  have htaken := Shared.pollFlush_taken h
  unfold pollRead
  split
  · exact h
  · split <;> rename_i hf <;> rw [hf] at htaken
    · exact htaken
    · exact htaken
    · obtain ⟨sh'', hw, -⟩ := Shared.writeMessage_of_pollFlush hf
        (AdbMessage.new .OKAY localId st.remoteId
          (toLeBytes (UInt32.ofNat (fill remaining st.readBuffer).1.length)))
      simp only [hw]
      split
      · exact htaken
      · split
        · exact htaken
        · exact writeMessage_taken htaken hw

/-- A write keeps that the connection is gone once there is an error. -/
theorem pollWrite_taken (h : sh.Taken) (localId : UInt32) (buf : List UInt8) (tick : Bool)
    (st : State) : (pollWrite localId buf tick st sh).shared.Taken := by
  have htaken := Shared.pollFlush_taken h
  unfold pollWrite
  split
  · exact h
  · split
    · exact h
    · split <;> rename_i hf <;> rw [hf] at htaken
      · exact htaken
      · exact htaken
      · obtain ⟨sh'', hw, -⟩ := Shared.writeMessage_of_pollFlush hf
          (AdbMessage.new .WRTE localId st.remoteId
            (buf.take (min (min buf.length st.acknowledged) MAX_PAYLOAD.toNat)))
        simp only [hw]
        split
        · exact htaken
        · split
          · exact htaken
          · split
            · exact htaken
            · exact writeMessage_taken htaken hw

/-- A flush of the socket keeps that the connection is gone once there is an error. -/
theorem pollFlush_taken (h : sh.Taken) (st : State) : (pollFlush st sh).shared.Taken := by
  have htaken := Shared.pollFlush_taken h
  unfold pollFlush
  split
  · exact h
  · split <;> rename_i hf <;> rw [hf] at htaken
    · exact htaken
    · exact htaken
    · split
      · exact htaken
      · split <;> exact htaken

/-- A section that fails takes the connection: if there was no error before it, there is no
connection after it. -/
theorem Sock.step_taken (hs : k.step sh a = some n) (h : sh.Taken) : n.shared.Taken := by
  cases a with
  | poll =>
    simp only [step, poll] at hs
    -- only the writing of a message can raise an error; the other phases leave `sh` as it is
    split at hs
    · cases hs
      exact writeMessageAsync_taken h _
    · split at hs
      · cases hs
        exact h
      · split at hs
        · cases hs
          exact h
        · split at hs <;> cases hs <;> exact h
    · exact absurd hs (by simp)
  | shutdownWrite =>
    simp only [step] at hs
    split at hs
    · cases hs
      exact shutdownWrite_taken h k _
    · exact absurd hs (by simp)
  | read remaining =>
    simp only [step, Option.ite_none_right_eq_some, Option.some.injEq] at hs
    obtain ⟨-, rfl⟩ := hs
    exact pollRead_taken h _ _ _
  | write buf tick =>
    simp only [step, Option.ite_none_right_eq_some, Option.some.injEq] at hs
    obtain ⟨-, rfl⟩ := hs
    exact pollWrite_taken h _ _ _ _
  | flush | shutdownFlush =>
    simp only [step, Option.ite_none_right_eq_some, Option.some.injEq] at hs
    obtain ⟨-, rfl⟩ := hs
    exact pollFlush_taken h _
  | shutdownMark | drop =>
    simp only [step, Option.ite_none_right_eq_some, Option.some.injEq] at hs
    obtain ⟨-, rfl⟩ := hs
    exact h

/-- A step shows an event of its own kind. -/
theorem Sock.step_event (hs : k.step sh a = some n) : n.event.of a = true := by
  cases a with
  | poll =>
    simp only [step, poll] at hs
    split at hs
    · cases hs
      rfl
    · split at hs
      · cases hs
        rfl
      · split at hs
        · cases hs
          rfl
        · split at hs <;> cases hs <;> rfl
    · exact absurd hs (by simp)
  | shutdownWrite =>
    simp only [step] at hs
    split at hs
    · cases hs
      unfold shutdownWrite
      split
      · rfl
      · rfl
      · split <;> rfl
    · exact absurd hs (by simp)
  | read | write | flush | shutdownFlush | shutdownMark | drop =>
    simp only [step, Option.ite_none_right_eq_some, Option.some.injEq] at hs
    obtain ⟨-, rfl⟩ := hs
    rfl

/-- A drop shows the `CLSE` that it hands out, if any. -/
theorem SockEvent.of_drop {e : SockEvent} (h : e.of .drop = true) : ∃ msg, e = .dropped msg := by
  cases e <;> simp [of] at h ⊢

theorem SockEvent.of_dropped {e : SockEvent} {msg : Option AdbMessage} (h : e.of a = true)
    (he : e = .dropped msg) : a = .drop := by
  subst he
  cases a <;> simp [of] at h ⊢

/-- The polls that go on after a lock was released, by the phase of the socket. -/
theorem SockNext.goesOn_cases {pc : Pc} (h : n.goesOn = some pc) :
    (pc = .begun .poll ∧ n.sock.phase = .waiting) ∨
      (pc = .begun .shutdownMark ∧ n.sock.phase = .flushed) ∨
      ∃ msg, pc = .checked .shutdownWrite ∧ n.sock.phase = .closing msg := by
  unfold goesOn at h
  split at h
  · rename_i hph
    exact .inl ⟨(Option.some.inj h).symm, hph⟩
  · rename_i hph
    exact .inr (.inl ⟨(Option.some.inj h).symm, hph⟩)
  · rename_i hph
    exact .inr (.inr ⟨_, (Option.some.inj h).symm, hph⟩)
  · exact absurd h (by simp)

/-- A message of the device never makes `open_socket` wait. -/
theorem Sock.waits_of_handleMessage {msg : AdbMessage} {st : State}
    (h : handleMessage msg k.state = .ready (.ok st))
    (hwaits : ({ k with state := st } : Sock).waits = true) : k.waits = true := by
  simp only [waits, Bool.and_eq_true, decide_eq_true_eq, Bool.not_eq_true'] at hwaits ⊢
  obtain ⟨⟨hph, hid⟩, hcl⟩ := hwaits
  unfold handleMessage at h
  split at h
  · split at h
    · simp at h
    · simp only [Outcome.ready.injEq, Except.ok.injEq] at h
      subst h
      split at hcl
      · rename_i hzero
        exact ⟨⟨hph, hzero⟩, hcl⟩
      · rename_i hne
        rw [if_neg hne] at hid
        exact ⟨⟨hph, hid⟩, hcl⟩
  · simp only [Outcome.ready.injEq, Except.ok.injEq] at h
    subst h
    exact ⟨⟨hph, hid⟩, hcl⟩
  · simp only [Outcome.ready.injEq, Except.ok.injEq] at h
    subst h
    exact absurd hcl (by simp)
  · simp at h

/-- The polls that go on, by what they show. -/
theorem SockNext.goesOn_event {pc : Pc} (h : n.goesOn = some pc) :
    ((∃ outcome sent, n.event = .polled outcome sent) ∧ pc = .begun .poll) ∨
      ((∃ outcome, n.event = .shutdownFlushed outcome) ∧ pc = .begun .shutdownMark) ∨
      ((∃ msg, n.event = .shutdownMarked msg) ∧ pc = .checked .shutdownWrite) := by
  unfold goesOn at h
  split at h
  · rename_i hev _
    exact .inl ⟨⟨_, _, hev⟩, (Option.some.inj h).symm⟩
  · rename_i hev _
    exact .inr (.inl ⟨⟨_, hev⟩, (Option.some.inj h).symm⟩)
  · rename_i hev _
    exact .inr (.inr ⟨⟨_, hev⟩, (Option.some.inj h).symm⟩)
  · exact absurd h (by simp)

/-- The section after which a poll goes on. -/
theorem Sock.goesOn_of_step {pc : Pc} (hs : k.step sh a = some n) (h : n.goesOn = some pc) :
    (a = .poll ∧ pc = .begun .poll) ∨
      (a = .shutdownFlush ∧ pc = .begun .shutdownMark) ∨
      (a = .shutdownMark ∧ pc = .checked .shutdownWrite) := by
  have hof := step_event hs
  obtain ⟨⟨_, _, hev⟩, rfl⟩ | ⟨⟨_, hev⟩, rfl⟩ | ⟨⟨_, hev⟩, rfl⟩ := SockNext.goesOn_event h
  · rw [hev] at hof
    cases a <;> simp [SockEvent.of] at hof ⊢
  · rw [hev] at hof
    cases a <;> simp [SockEvent.of] at hof ⊢
  · rw [hev] at hof
    cases a <;> simp [SockEvent.of] at hof ⊢

/-! ### Waiting for the reply -/

/-- Marking a socket as shut down always returns. -/
theorem SockEvent.ret_of_shutdownMark {e : SockEvent} (h : e.of .shutdownMark = true) :
    e.ret = .ok := by
  cases e <;> simp [of, ret] at h ⊢

/-- A poll that checks for an error is not pending once there is one. -/
theorem Sock.not_pending_of_error (hchecks : k.checks a = true) (herr : sh.error.isSome)
    (hs : k.step sh a = some n) (ha : a ≠ .drop) : n.event.ret ≠ .pending := by
  intro hret
  obtain ⟨-, -, -, herr' | hdrop | rfl, -⟩ := step_of_error hchecks herr hs
  · simp [hret] at herr'
  · exact ha hdrop
  · have hok := SockEvent.ret_of_shutdownMark (step_event hs)
    simp [hret] at hok

/-- Without a connection only `open_socket` can still wait, if it found no error before. -/
theorem Sock.waits_of_no_connection (hs : k.step ⟨none, none⟩ a = some n) (ha : a ≠ .drop)
    (hret : n.event.ret = .pending) : a = .poll ∧ k.waits = true := by
  obtain ⟨-, -, -, herr | hdrop | rfl | ⟨rfl, hph⟩⟩ := step_of_no_connection hs
  · simp [hret] at herr
  · exact absurd hdrop ha
  · have hok := SockEvent.ret_of_shutdownMark (step_event hs)
    simp [hret] at hok
  · refine ⟨rfl, ?_⟩
    simp only [step, poll, hph, Shared.checkError] at hs
    split at hs
    · cases hs
      simp [SockEvent.ret, Outcome.ret] at hret
    · rename_i hid
      split at hs
      · cases hs
        simp [SockEvent.ret, Outcome.ret] at hret
      · rename_i hcl
        simp only [ne_eq, not_not] at hid
        simp [waits, hph, hid, hcl]

/-- A socket that waits for its id does not need the connection to say so. -/
theorem Sock.step_of_waits (h : k.waits = true) :
    k.step ⟨none, none⟩ .poll = some ⟨k, ⟨none, none⟩, .waited .pending⟩ := by
  simp only [waits, Bool.and_eq_true, decide_eq_true_eq, Bool.not_eq_true'] at h
  obtain ⟨⟨hph, hid⟩, hcl⟩ := h
  simp [step, poll, hph, Shared.checkError, hid, hcl]

/-- A socket that waits for its id checks for an error. -/
theorem Sock.checks_of_waits (h : k.waits = true) : k.checks .poll = true := by
  simp only [waits, Bool.and_eq_true, decide_eq_true_eq] at h
  simp [checks, h.1.1]

/-! ### The first message -/

/-- Of the polls of an opening only the one that writes does not check. -/
theorem Sock.checks_poll : k.checks .poll = false ↔ ∃ call msg, k.phase = .writing call msg := by
  unfold checks
  constructor
  · intro h
    split at h
    · rename_i hph
      exact ⟨_, _, hph⟩
    · simp_all
    · simp at h
  · rintro ⟨call, msg, hph⟩
    rw [hph]

/-- Only the poll and the drop meet a call that is still writing its message. -/
theorem Sock.ready_writing (hready : k.ready a = true) (hwriting : k.checks .poll = false) :
    a = .poll ∨ a = .drop := by
  obtain ⟨call, msg, hph⟩ := checks_poll.mp hwriting
  cases a <;> simp_all [ready, begins]

/-- No section goes back to the first message. -/
theorem Sock.step_writing (hs : k.step sh a = some n) (h : n.sock.checks .poll = false) :
    k.checks .poll = false := by
  obtain ⟨call, msg, hph⟩ := checks_poll.mp h
  obtain ⟨msg', hph'⟩ := (step_cases hs).2.2.writing hph
  exact checks_poll.mpr ⟨call, msg', hph'⟩

/-- A poll that waits for the connection is still writing its message. -/
theorem Sock.poll_writing (hs : k.step sh .poll = some n) (h : k.checks .poll = false)
    (hret : n.event.ret = .pending) : n.sock.checks .poll = false := by
  obtain ⟨call, msg, hph⟩ := checks_poll.mp h
  simp only [step, poll, hph, Option.some.injEq] at hs
  subst hs
  refine checks_poll.mpr ⟨call, (writeMessageAsync msg sh).msg, ?_⟩
  simp only [SockEvent.ret] at hret
  simp only
  split
  · rfl
  · rename_i hok
    simp [hok, Outcome.ret] at hret
  · rename_i hpending hok
    cases ho : (writeMessageAsync msg sh).outcome with
    | pending => exact absurd ho hpending
    | ready res =>
      cases res <;> simp [ho, Outcome.ret] at hret
    | panic => simp [ho, Outcome.ret] at hret

/-! ### Only the phase counts -/

theorem Sock.ready_congr {k k' : Sock} (h : k'.phase = k.phase) (a : SockAct) :
    k'.ready a = k.ready a := by
  simp only [ready, begins, h]

/-- A first poll that does not check is one of an opening. -/
theorem Sock.begins_of_not_checks {k : Sock} {a : SockAct} (hbegins : k.begins a = true)
    (hchecks : k.checks a = false) : a = .poll := by
  cases a <;> simp_all [checks, begins]

theorem Sock.checks_congr {k k' : Sock} (h : k'.phase = k.phase) (a : SockAct) :
    k'.checks a = k.checks a := by
  simp only [checks, h]

theorem Sock.begins_congr {k k' : Sock} (h : k'.phase = k.phase) (a : SockAct) :
    k'.begins a = k.begins a := by
  simp only [begins, h]

end Sections

end AdbDaemon.Transport
