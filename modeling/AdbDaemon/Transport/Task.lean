import AdbDaemon.Transport.Credit

/-!
# The task that owns a socket

Reference: `Transport::open_socket` and `PendingSocket::accept` of
`packages/transport/src/transport.rs`; `Socket::poll_shutdown`, `Socket::drop` and
`SocketBackend::drop` of `packages/transport/src/socket.rs`.

A `Sock` is a socket together with the place where its task stands. One step is one acquisition of
the locks: `poll_shutdown` takes them three times, so it is three steps, and other tasks may run in
between. A future that is dropped at an await point, a handle that is dropped, and the unwinding of
a panicked task are all `SockAct.drop`.

`Sock.step_cases` says once what a step can do.
-/

namespace AdbDaemon.Transport

/-- The two calls that create a socket and then write its first message. -/
inductive Call where
  | openSocket
  | accept
deriving DecidableEq

/-- Where the task of a socket stands. -/
inductive Phase where
  /-- Inside `write_message_async`, with the message not submitted yet. -/
  | writing (call : Call) (msg : Option AdbMessage)
  /-- `open_socket` waits for the reply of the device. -/
  | waiting
  /-- The call returned the socket. -/
  | idle
  /-- `poll_shutdown`, after its flush. -/
  | flushed
  /-- `poll_shutdown`, after `SocketBackend::shutdown` handed out the `CLSE`. -/
  | closing (msg : AdbMessage)
  /-- The call returned an error, or the task panicked: the socket is about to be dropped. -/
  | failed
  | dropped
deriving DecidableEq

/-- Where the task goes when the first message is written. -/
def Call.next : Call → Phase
  | .openSocket => .waiting
  | .accept => .idle

/-- A future is dropped between two polls, a handle between two operations. -/
def Phase.droppable : Phase → Bool
  | .writing _ _ | .waiting | .idle | .failed => true
  | .flushed | .closing _ | .dropped => false

/-- A socket: its id, its state, and how far its task has come. -/
structure Sock where
  localId : UInt32
  state : State
  phase : Phase
deriving DecidableEq

/-- The steps of the task that has the socket. -/
inductive SockAct where
  /-- Poll the future of `open_socket` or `accept`. -/
  | poll
  | read (remaining : Nat)
  | write (buf : List UInt8) (tick : Bool)
  | flush
  | shutdownFlush
  | shutdownMark
  | shutdownWrite
  | drop

/-- What a step returned and submitted. -/
inductive SockEvent where
  | polled (outcome : Outcome Error Unit) (sent : List AdbMessage)
  | waited (outcome : Outcome Error UInt32)
  | read (remaining : Nat) (outcome : Outcome IoError (List UInt8)) (sent : List AdbMessage)
  | wrote (buf : List UInt8) (outcome : Outcome IoError Nat) (sent : List AdbMessage)
  | flushed (outcome : Outcome IoError Unit)
  | shutdownFlushed (outcome : Outcome IoError Unit)
  | shutdownMarked (msg : Option AdbMessage)
  | shutdownWritten (outcome : Outcome IoError Unit) (sent : List AdbMessage)
  /-- The socket is gone; a `CLSE` is left to a spawned task. -/
  | dropped (msg : Option AdbMessage)
deriving DecidableEq

/-- A step of a task: its socket and the shared connection after it. -/
structure SockNext where
  sock : Sock
  shared : Shared
  event : SockEvent

namespace Sock

/-- One poll of the future of `open_socket` or `accept`. -/
def poll (s : Sock) (sh : Shared) : Option SockNext :=
  match s.phase with
  | .writing call msg =>
    let w := writeMessageAsync msg sh
    let phase :=
      match w.outcome with
      | .pending => .writing call w.msg
      | .ready (.ok ()) => call.next
      | _ => .failed
    some ⟨{ s with phase }, w.shared, .polled w.outcome w.sent⟩
  | .waiting =>
    match sh.checkError with
    | .error err => some ⟨{ s with phase := .failed }, sh, .waited (.ready (.error err))⟩
    | .ok () =>
      if s.state.remoteId ≠ 0 then
        some ⟨{ s with phase := .idle }, sh, .waited (.ready (.ok s.state.remoteId))⟩
      else if s.state.closed then
        some ⟨{ s with phase := .failed }, sh, .waited (.ready (.error (.kind .closed)))⟩
      else some ⟨s, sh, .waited .pending⟩
  | _ => none

/-- The last part of `poll_shutdown`: it relies on its first part having flushed the connection. -/
def shutdownWrite (s : Sock) (sh : Shared) (msg : AdbMessage) : SockNext :=
  match sh.writeMessage msg with
  | none => ⟨{ s with phase := .failed }, sh, .shutdownWritten .panic []⟩
  | some (.error err, sh) =>
    ⟨{ s with phase := .idle }, sh, .shutdownWritten (.ready (.error (ioError err))) []⟩
  | some (.ok (), sh) =>
    match sh.pollFlush with
    | (.pending, sh) => ⟨{ s with phase := .idle }, sh, .shutdownWritten .pending [msg]⟩
    | (.ready (.ok ()), sh) =>
      ⟨{ s with phase := .idle }, sh, .shutdownWritten (.ready (.ok ())) [msg]⟩
    | (.ready (.error err), sh) =>
      ⟨{ s with phase := .idle }, sh, .shutdownWritten (.ready (.error (ioError err))) [msg]⟩

/-- `SocketBackend::drop`. -/
def drop (s : Sock) (sh : Shared) : SockNext :=
  let (msg, state) := shutdown s.localId s.state sh
  ⟨{ s with state, phase := .dropped }, sh, .dropped msg⟩

/-- One step of the task, if its socket is in the phase for it. -/
def step (s : Sock) (sh : Shared) : SockAct → Option SockNext
  | .poll => s.poll sh
  | .read remaining =>
    if s.phase = .idle then
      let p := pollRead s.localId remaining s.state sh
      some ⟨{ s with state := p.state }, p.shared, .read remaining p.outcome p.sent⟩
    else none
  | .write buf tick =>
    if s.phase = .idle then
      let p := pollWrite s.localId buf tick s.state sh
      some ⟨{ s with state := p.state }, p.shared, .wrote buf p.outcome p.sent⟩
    else none
  | .flush =>
    if s.phase = .idle then
      let p := pollFlush s.state sh
      some ⟨{ s with state := p.state }, p.shared, .flushed p.outcome⟩
    else none
  | .shutdownFlush =>
    if s.phase = .idle then
      let p := pollFlush s.state sh
      let phase := if p.outcome = .ready (.ok ()) then .flushed else .idle
      some ⟨{ s with state := p.state, phase }, p.shared, .shutdownFlushed p.outcome⟩
    else none
  -- `poll_shutdown` between its two locks: the stream is marked closed, the `CLSE` not yet
  -- written
  | .shutdownMark =>
    if s.phase = .flushed then
      let (msg, state) := shutdown s.localId s.state sh
      let phase :=
        match msg with
        | some msg => .closing msg
        | none => .idle
      some ⟨{ s with state, phase }, sh, .shutdownMarked msg⟩
    else none
  | .shutdownWrite =>
    match s.phase with
    | .closing msg => some (s.shutdownWrite sh msg)
    | _ => none
  | .drop => if s.phase.droppable then some (s.drop sh) else none

end Sock

/-- The messages a step submitted. -/
def SockEvent.sent : SockEvent → List AdbMessage
  | .polled _ sent | .read _ _ sent | .wrote _ _ sent | .shutdownWritten _ sent => sent
  | _ => []

/-- The step ended in a panic. -/
def SockEvent.panicked : SockEvent → Bool
  | .polled outcome _ => outcome.isPanic
  | .read _ outcome _ => outcome.isPanic
  | .wrote _ outcome _ => outcome.isPanic
  | .flushed outcome | .shutdownFlushed outcome | .shutdownWritten outcome _ => outcome.isPanic
  | _ => false

/-- The step as the state of the socket sees it. -/
def SockEvent.toSocket : SockEvent → SocketEvent
  | .read remaining outcome sent => .read remaining outcome sent
  | .wrote buf outcome sent => .wrote buf outcome sent
  | .flushed outcome | .shutdownFlushed outcome => .flushed outcome
  | .shutdownMarked msg | .dropped msg => .shutdown msg
  | _ => .env

/-! ## What a step can do -/

/-- A read, a write or a flush. -/
def SockEvent.isPoll : SockEvent → Bool
  | .read _ _ _ | .wrote _ _ _ | .flushed _ => true
  | _ => false

/-- The socket machine sees what a poll sends. -/
theorem SockEvent.sent_toSocket {e : SockEvent} (h : e.isPoll = true) :
    e.toSocket.sent = e.sent := by
  cases e <;> first | rfl | simp [SockEvent.isPoll] at h

/-- The steps of a socket's task: the state and the phase after it, and the event. -/
inductive SockStep (s : Sock) (sh sh' : Shared) : State → Phase → SockEvent → Prop
  /-- The first message goes out. -/
  | submit {call : Call} {msg : AdbMessage} {phase : Phase} {o : Outcome Error Unit}
      (hph : s.phase = .writing call (some msg))
      (hphase : phase = .writing call none ∨ phase = call.next ∨ phase = .failed) :
      SockStep s sh sh' s.state phase (.polled o [msg])
  | pollWriting {call : Call} {msg : Option AdbMessage} {phase : Phase} {o : Outcome Error Unit}
      (hph : s.phase = .writing call msg)
      (hphase : phase = .writing call msg ∨ msg = none ∧ phase = call.next ∨ phase = .failed) :
      SockStep s sh sh' s.state phase (.polled o [])
  | opened (hph : s.phase = .waiting) (hid : s.state.remoteId ≠ 0) :
      SockStep s sh sh' s.state .idle (.waited (.ready (.ok s.state.remoteId)))
  | pollWaiting {phase : Phase} {o : Outcome Error UInt32} (hph : s.phase = .waiting)
      (hphase : phase = .waiting ∨ phase = .failed) :
      SockStep s sh sh' s.state phase (.waited o)
  | op {st : State} {e : SockEvent} (hph : s.phase = .idle) (hpoll : e.isPoll = true)
      (hst : StateStep s.localId s.state st e.toSocket) :
      SockStep s sh sh' st .idle e
  | shutdownFlush {phase : Phase} {o : Outcome IoError Unit} (hph : s.phase = .idle)
      (hphase : phase = .idle ∨ phase = .flushed ∧ sh'.Flushed) :
      SockStep s sh sh' s.state phase (.shutdownFlushed o)
  | mark (hph : s.phase = .flushed) (hcl : s.state.closed = false) :
      SockStep s sh sh' { s.state with closed := true }
        (.closing (AdbMessage.new .CLSE s.localId s.state.remoteId []))
        (.shutdownMarked (some (AdbMessage.new .CLSE s.localId s.state.remoteId [])))
  | markNone (hph : s.phase = .flushed) : SockStep s sh sh' s.state .idle (.shutdownMarked none)
  | close {msg : AdbMessage} {o : Outcome IoError Unit} (hph : s.phase = .closing msg) :
      SockStep s sh sh' s.state .idle (.shutdownWritten o [msg])
  /-- The connection is gone. -/
  | closeLost {msg : AdbMessage} {o : Outcome IoError Unit} (hph : s.phase = .closing msg)
      (hlost : sh.connection = none) :
      SockStep s sh sh' s.state .idle (.shutdownWritten o [])
  /-- The assertion of `write_message` fails. -/
  | closePanic {msg : AdbMessage} (hph : s.phase = .closing msg) (hfl : ¬ sh.Flushed) :
      SockStep s sh sh' s.state .failed (.shutdownWritten .panic [])
  | drop (hph : s.phase.droppable = true) (hcl : s.state.closed = false) :
      SockStep s sh sh' { s.state with closed := true } .dropped
        (.dropped (some (AdbMessage.new .CLSE s.localId s.state.remoteId [])))
  | dropNone (hph : s.phase.droppable = true) (hnone : sh.error ≠ none ∨ s.state.closed = true) :
      SockStep s sh sh' s.state .dropped (.dropped none)

/-- The last part of `poll_shutdown` submits the `CLSE`, finds the connection gone, or panics. -/
theorem Sock.shutdownWrite_cases (s : Sock) (sh : Shared) {msg : AdbMessage}
    (hph : s.phase = .closing msg) :
    let n := s.shutdownWrite sh msg
    n.sock.localId = s.localId ∧ sh.Next n.shared n.event.sent ∧
      SockStep s sh n.shared n.sock.state n.sock.phase n.event := by
  intro n
  have hn : n = s.shutdownWrite sh msg := rfl
  rw [shutdownWrite] at hn
  split at hn
  · rename_i hw
    rw [hn]
    exact ⟨rfl, .refl sh, .closePanic hph fun hfl => hfl.writeMessage_ne_none msg hw⟩
  · rename_i err sh' hw
    rw [hn]
    obtain ⟨hlost, rfl⟩ := Shared.writeMessage_error hw
    exact ⟨rfl, .refl sh, .closeLost hph hlost⟩
  · rename_i sh' hw
    have hnext := (Shared.writeMessage_next hw).trans sh'.pollFlush_next
    split at hn <;> rename_i hf <;> rw [hf] at hnext <;> rw [hn] <;> exact ⟨rfl, hnext, .close hph⟩

/-- One poll of the future of `open_socket` or `accept`: it writes its first message, waits for the
reply, or returns. -/
theorem Sock.poll_cases {s : Sock} {sh : Shared} {n : SockNext} (h : s.poll sh = some n) :
    n.sock.localId = s.localId ∧ sh.Next n.shared n.event.sent ∧
      SockStep s sh n.shared n.sock.state n.sock.phase n.event := by
  unfold poll at h
  split at h
  · rename_i call msg hph
    obtain rfl := Option.some.inj h
    obtain ⟨hpanic, hnext, hcase⟩ := writeMessageAsync_spec msg sh
    refine ⟨rfl, hnext, ?_⟩
    simp only
    rcases hcase with ⟨hmsg, hsent, hok⟩ | ⟨m, rfl, hmsg, hsent⟩
    · rw [hsent, hmsg]
      refine .pollWriting hph ?_
      split
      · exact .inl rfl
      · rename_i ho
        exact .inr (.inl ⟨hok ho, rfl⟩)
      · exact .inr (.inr rfl)
    · rw [hsent, hmsg]
      refine .submit hph ?_
      split
      · exact .inl rfl
      · exact .inr (.inl rfl)
      · exact .inr (.inr rfl)
  · rename_i hph
    split at h
    · obtain rfl := Option.some.inj h
      exact ⟨rfl, .refl sh, .pollWaiting hph (.inr rfl)⟩
    · split at h
      · rename_i hid
        obtain rfl := Option.some.inj h
        exact ⟨rfl, .refl sh, .opened hph hid⟩
      · split at h
        · obtain rfl := Option.some.inj h
          exact ⟨rfl, .refl sh, .pollWaiting hph (.inr rfl)⟩
        · obtain rfl := Option.some.inj h
          exact ⟨rfl, .refl sh, .pollWaiting hph (.inl hph)⟩
  · exact absurd h (by simp)

/-- Every step of a task is one of these. It keeps the local id, and the shared connection changes
only as the messages submitted allow. -/
theorem Sock.step_cases {s : Sock} {sh : Shared} {a : SockAct} {n : SockNext}
    (h : s.step sh a = some n) :
    n.sock.localId = s.localId ∧ sh.Next n.shared n.event.sent ∧
      SockStep s sh n.shared n.sock.state n.sock.phase n.event := by
  cases a with
  | poll => exact poll_cases h
  | read remaining =>
    simp only [step, Option.ite_none_right_eq_some, Option.some.injEq] at h
    obtain ⟨hph, rfl⟩ := h
    refine ⟨rfl, pollRead_next _ _ _ _, ?_⟩
    simp only [hph]
    exact .op hph rfl (stateStep_of_step (s := ⟨s.state, sh⟩) (a := .read remaining) rfl)
  | write buf tick =>
    simp only [step, Option.ite_none_right_eq_some, Option.some.injEq] at h
    obtain ⟨hph, rfl⟩ := h
    refine ⟨rfl, pollWrite_next _ _ _ _ _, ?_⟩
    simp only [hph]
    exact .op hph rfl (stateStep_of_step (s := ⟨s.state, sh⟩) (a := .write buf tick) rfl)
  | flush =>
    simp only [step, Option.ite_none_right_eq_some, Option.some.injEq] at h
    obtain ⟨hph, rfl⟩ := h
    have hnext := Transport.pollFlush_next s.state sh
    rw [(pollFlush_cases s.state sh).2.1] at hnext
    refine ⟨rfl, hnext, ?_⟩
    simp only [hph]
    have hflush : (socketMachine s.localId).step ⟨s.state, sh⟩ .flush = some _ := rfl
    exact .op hph rfl (stateStep_of_step hflush)
  | shutdownFlush =>
    simp only [step, Option.ite_none_right_eq_some, Option.some.injEq] at h
    obtain ⟨hph, rfl⟩ := h
    have hnext := Transport.pollFlush_next s.state sh
    obtain ⟨hst, hsent, -⟩ := pollFlush_cases s.state sh
    rw [hsent] at hnext
    refine ⟨rfl, hnext, ?_⟩
    simp only [hst]
    refine .shutdownFlush hph ?_
    split
    · rename_i ho
      exact .inr ⟨rfl, pollFlush_flushed s.state sh ho⟩
    · exact .inl rfl
  | shutdownMark =>
    simp only [step, Option.ite_none_right_eq_some, Option.some.injEq] at h
    obtain ⟨hph, rfl⟩ := h
    refine ⟨rfl, .refl sh, ?_⟩
    rcases shutdown_cases s.localId s.state sh with ⟨-, hcl, heq⟩ | ⟨-, heq⟩
    · rw [heq]
      exact .mark hph hcl
    · rw [heq]
      exact .markNone hph
  | shutdownWrite =>
    simp only [step] at h
    split at h
    · rename_i msg hph
      obtain rfl := Option.some.inj h
      exact s.shutdownWrite_cases sh hph
    · exact absurd h (by simp)
  | drop =>
    simp only [step, Option.ite_none_right_eq_some, Option.some.injEq] at h
    obtain ⟨hph, rfl⟩ := h
    refine ⟨rfl, .refl sh, ?_⟩
    rcases shutdown_cases s.localId s.state sh with ⟨-, hcl, heq⟩ | ⟨hnone, heq⟩
    · rw [Sock.drop, heq]
      exact .drop hph hcl
    · rw [Sock.drop, heq]
      exact .dropNone hph hnone

/-- A step of the task is a step of the socket's state. -/
theorem SockStep.stateStep {s : Sock} {sh sh' : Shared} {st : State} {ph : Phase} {e : SockEvent}
    (h : SockStep s sh sh' st ph e) : StateStep s.localId s.state st e.toSocket := by
  cases h with
  | submit | pollWriting | opened | pollWaiting | close | closeLost | closePanic => exact .env
  | op hph hpoll hst => exact hst
  | shutdownFlush => exact .flush
  | mark hph hcl => exact .shutdown hcl
  | drop hph hcl => exact .shutdown hcl
  | markNone | dropNone => exact .shutdownNone

section Inversion

variable {s : Sock} {sh sh' : Shared} {st : State} {ph : Phase} {e : SockEvent} {msg : AdbMessage}

/-- A dropped socket takes no further step. -/
theorem SockStep.not_dropped (h : SockStep s sh sh' st ph e) : s.phase ≠ .dropped := by
  intro hdr
  cases h with
  | drop hph | dropNone hph => simp [hdr, Phase.droppable] at hph
  | submit hph | pollWriting hph | opened hph | pollWaiting hph | op hph | shutdownFlush hph | mark hph
  | markNone hph | close hph | closeLost hph | closePanic hph => simp [hdr] at hph

/-- A task that has not submitted its first message has done nothing. -/
theorem SockStep.of_writing {call : Call} (h : SockStep s sh sh' st ph e)
    (hph : ph = .writing call (some msg)) :
    s.phase = .writing call (some msg) ∧ st = s.state ∧ e.sent = [] ∧ ∀ m, e ≠ .dropped m := by
  cases h with
  | @submit call' _ _ _ _ hphase =>
    rcases hphase with rfl | rfl | rfl
    · simp at hph
    · cases call' <;> simp [Call.next] at hph
    · simp at hph
  | @pollWriting call' _ _ _ hph' hphase =>
    rcases hphase with rfl | ⟨-, rfl⟩ | rfl
    · exact ⟨hph'.trans hph, rfl, rfl, by simp⟩
    · cases call' <;> simp [Call.next] at hph
    · simp at hph
  | pollWaiting _ hphase => rcases hphase with rfl | rfl <;> simp at hph
  | shutdownFlush _ hphase => rcases hphase with rfl | ⟨rfl, -⟩ <;> simp at hph
  | _ => simp at hph

/-- A task that is still writing was writing before, for the same call. -/
theorem SockStep.writing (h : SockStep s sh sh' st ph e) {call : Call} {msg : Option AdbMessage}
    (hph : ph = .writing call msg) : ∃ msg', s.phase = .writing call msg' := by
  cases h with
  | @submit call' _ _ _ hph' hphase =>
    rcases hphase with rfl | rfl | rfl
    · obtain ⟨rfl, -⟩ := Phase.writing.inj hph
      exact ⟨_, hph'⟩
    · cases call' <;> simp [Call.next] at hph
    · simp at hph
  | @pollWriting call' _ _ _ hph' hphase =>
    rcases hphase with rfl | ⟨-, rfl⟩ | rfl
    · obtain ⟨rfl, -⟩ := Phase.writing.inj hph
      exact ⟨_, hph'⟩
    · cases call' <;> simp [Call.next] at hph
    · simp at hph
  | pollWaiting _ hphase => rcases hphase with rfl | rfl <;> simp at hph
  | shutdownFlush _ hphase => rcases hphase with rfl | ⟨rfl, -⟩ <;> simp at hph
  | _ => simp at hph

/-- A task that is about to write a `CLSE` has just closed the socket. -/
theorem SockStep.of_closing (h : SockStep s sh sh' st ph e) (hph : ph = .closing msg) :
    st = { s.state with closed := true } ∧
      msg = AdbMessage.new .CLSE s.localId s.state.remoteId [] := by
  cases h with
  | @submit call _ _ _ _ hphase =>
    rcases hphase with rfl | rfl | rfl
    · simp at hph
    · cases call <;> simp [Call.next] at hph
    · simp at hph
  | @pollWriting call _ _ _ _ hphase =>
    rcases hphase with rfl | ⟨-, rfl⟩ | rfl
    · simp at hph
    · cases call <;> simp [Call.next] at hph
    · simp at hph
  | pollWaiting _ hphase => rcases hphase with rfl | rfl <;> simp at hph
  | shutdownFlush _ hphase => rcases hphase with rfl | ⟨rfl, -⟩ <;> simp at hph
  | mark hph' hcl => exact ⟨rfl, (Phase.closing.inj hph).symm⟩
  | _ => simp at hph

/-- A dropped socket, and the `CLSE` it leaves to a spawned task. -/
theorem SockStep.of_dropped {m : Option AdbMessage} (h : SockStep s sh sh' st ph e)
    (he : e = .dropped m) :
    ph = .dropped ∧ ∀ msg ∈ m, st = { s.state with closed := true } ∧
      msg = AdbMessage.new .CLSE s.localId s.state.remoteId [] := by
  cases h with
  | drop hph hcl =>
    obtain rfl := SockEvent.dropped.inj he
    exact ⟨rfl, fun msg hm => ⟨rfl, (Option.some.inj hm).symm⟩⟩
  | dropNone hph hnone =>
    obtain rfl := SockEvent.dropped.inj he
    exact ⟨rfl, by simp⟩
  | op hph hpoll =>
    subst he
    simp [SockEvent.isPoll] at hpoll
  | _ => simp at he

end Inversion

/-! ## Panics -/

/-- A read does not panic: it writes only behind its own flush, with the lock held. -/
theorem pollRead_ne_panic (localId : UInt32) (remaining : Nat) (st : State) (sh : Shared) :
    (pollRead localId remaining st sh).outcome ≠ .panic := by
  rcases pollRead_cases localId st sh remaining with
    ⟨hstop, -⟩ | ⟨-, -, -, ⟨-, ho, -⟩ | ⟨-, -, ho, -⟩ | ⟨-, -, ho, -⟩⟩
  · rcases hstop.outcome with ho | ⟨err, ho⟩ <;> rw [ho] <;> simp
  all_goals rw [ho]; simp

/-- The write of a shutdown panics only where the connection is not flushed. -/
theorem Sock.shutdownWrite_panicked {s : Sock} {sh : Shared} {msg : AdbMessage}
    (hp : (s.shutdownWrite sh msg).event.panicked = true) : ¬ sh.Flushed := by
  intro hfl
  have hw := hfl.writeMessage_ne_none msg
  rw [shutdownWrite] at hp
  split at hp
  · contradiction
  · simp [SockEvent.panicked] at hp
  · split at hp <;> simp [SockEvent.panicked] at hp

/-- A poll of an opening does not panic. -/
theorem Sock.poll_not_panicked {s : Sock} {sh : Shared} {n : SockNext} (h : s.poll sh = some n) :
    n.event.panicked = false := by
  unfold poll at h
  split at h
  · rename_i call msg hph
    obtain rfl := Option.some.inj h
    simpa [SockEvent.panicked] using (writeMessageAsync_spec msg sh).1
  · split at h
    · obtain rfl := Option.some.inj h
      rfl
    · split at h
      · obtain rfl := Option.some.inj h
        rfl
      · split at h <;> obtain rfl := Option.some.inj h <;> rfl
  · exact absurd h (by simp)

/-- Only the last part of `poll_shutdown` can panic; every other writer flushes and writes under the
same guard. -/
theorem Sock.step_panicked {s : Sock} {sh : Shared} {a : SockAct} {n : SockNext}
    (h : s.step sh a = some n) (hp : n.event.panicked = true) :
    (∃ msg, s.phase = .closing msg) ∧ ¬ sh.Flushed := by
  have hflush := (pollFlush_cases s.state sh).2.2.1
  cases a with
  | poll => simp [poll_not_panicked h] at hp
  | read remaining =>
    simp only [step, Option.ite_none_right_eq_some, Option.some.injEq] at h
    obtain ⟨hph, rfl⟩ := h
    simp [SockEvent.panicked, pollRead_ne_panic] at hp
  | write buf tick =>
    simp only [step, Option.ite_none_right_eq_some, Option.some.injEq] at h
    obtain ⟨hph, rfl⟩ := h
    simp [SockEvent.panicked, (pollWrite_bounds s.localId s.state sh buf tick).1] at hp
  | flush | shutdownFlush =>
    simp only [step, Option.ite_none_right_eq_some, Option.some.injEq] at h
    obtain ⟨hph, rfl⟩ := h
    simp [SockEvent.panicked, hflush] at hp
  | shutdownMark =>
    simp only [step, Option.ite_none_right_eq_some, Option.some.injEq] at h
    obtain ⟨hph, rfl⟩ := h
    simp [SockEvent.panicked] at hp
  | shutdownWrite =>
    simp only [step] at h
    split at h
    · rename_i msg hph
      obtain rfl := Option.some.inj h
      exact ⟨⟨msg, hph⟩, shutdownWrite_panicked hp⟩
    · exact absurd h (by simp)
  | drop =>
    simp only [step, Option.ite_none_right_eq_some, Option.some.injEq] at h
    obtain ⟨hph, rfl⟩ := h
    simp [Sock.drop, SockEvent.panicked] at hp

end AdbDaemon.Transport
