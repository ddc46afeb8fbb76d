import AdbDaemon.Transport.Limit
import AdbDaemon.Transport.UsbWrite

/-!
# What a step of the host leaves on the endpoint

Reference: `UsbConnection::write_message` of `packages/transport/src/connection/usb.rs`,
`ConnectionWrapperGuard` and `write_message_async` of `packages/transport/src/transport.rs`, and the
operations of `packages/transport/src/socket.rs`.

A message is submitted on a flushed endpoint, under one guard with the flush or, in `poll_shutdown`,
checked by the assertion. So after a step that submits a message the endpoint holds the transfers of
this message and nothing else (`host_puts`).
-/

namespace AdbDaemon.Transport

open Common

/-- The packet size of the endpoint, and no more results than transfers. -/
def OutLaw (P : Nat) (sh : Shared) : Prop :=
  ∀ c, sh.connection = some c →
    c.packetSize = P ∧ c.outEndpoint.completions.length ≤ c.outEndpoint.submitted.length

/-- The message was submitted on a flushed endpoint, and nothing after it. -/
def Put (P : Nat) (m : AdbMessage) (sh' : Shared) : Prop :=
  ∃ c c' : UsbConnection, c.outEndpoint.pending = 0 ∧ c.outEndpoint.completions = [] ∧
    c.packetSize = P ∧ c.writeMessage m = some c' ∧ sh'.connection = some c'

/-- What one critical section does to the connection. -/
structure Puts (P : Nat) (sh sh' : Shared) (sent : List AdbMessage) : Prop where
  law : OutLaw P sh'
  gone : sh.connection = none → sh'.connection = none
  sent : sent = [] ∨ ∃ m, sent = [m] ∧ Put P m sh'

section
variable {P : Nat} {sh sh' sh'' : Shared} {sent : List AdbMessage}

theorem Puts.refl (h : OutLaw P sh) : Puts P sh sh [] := ⟨h, id, .inl rfl⟩

/-- What follows a step that submits nothing. -/
theorem Puts.trans (h : Puts P sh sh' []) (h' : Puts P sh' sh'' sent) : Puts P sh sh'' sent :=
  ⟨h'.law, fun hnone => h'.gone (h.gone hnone), h'.sent⟩

/-- An error takes the connection away. -/
theorem Shared.onError_puts (h : OutLaw P sh) (err : Error) : Puts P sh (sh.onError err).2 [] := by
  unfold onError
  split
  · exact .refl h
  · exact ⟨nofun, fun _ => rfl, .inl rfl⟩

/-- The loop takes a result with each transfer. -/
theorem UsbConnection.flushLoop_le {submitted : List (List UInt8)}
    {completions : List (Except TransferError Unit)} (h : completions.length ≤ submitted.length) :
    (flushLoop submitted completions).2.completions.length ≤
      (flushLoop submitted completions).2.submitted.length := by
  induction submitted generalizing completions with
  | nil => exact h
  | cons t submitted ih =>
    match completions with
    | [] => exact Nat.zero_le _
    | .error e :: completions =>
      simp only [flushLoop]
      simpa using h
    | .ok () :: completions =>
      simp only [flushLoop]
      exact ih (by simpa using h)

theorem Shared.pollFlush_puts (h : OutLaw P sh) : Puts P sh sh.pollFlush.2 [] := by
  unfold pollFlush
  split
  · exact .refl h
  · rename_i inner hinner
    have hflushed : ∀ (r : Poll (Except Error Unit)) (inner' : UsbConnection),
        inner.pollFlush = (r, inner') → Puts P sh { sh with connection := some inner' } [] := by
      intro r inner' hf
      refine ⟨fun c hc => ?_, fun hnone => ?_, .inl rfl⟩
      · obtain rfl : inner' = c := Option.some.inj hc
        have hle := UsbConnection.flushLoop_le (h inner hinner).2
        cases hf
        exact ⟨(h inner hinner).1, hle⟩
      · cases hinner.symm.trans hnone
    split <;> rename_i hf
    · exact hflushed _ _ hf
    · exact hflushed _ _ hf
    · exact (hflushed _ _ hf).trans (onError_puts (hflushed _ _ hf).law _)

/-- A message is written to an endpoint with nothing pending, and leaves its transfers there. -/
theorem UsbConnection.writeMessage_out {c c' : UsbConnection} {m : AdbMessage}
    (h : c.writeMessage m = some c') :
    c.outEndpoint.pending = 0 ∧ c'.packetSize = c.packetSize ∧
      c'.outEndpoint.completions = c.outEndpoint.completions ∧ c'.outEndpoint.submitted ≠ [] := by
  simp only [writeMessage, Option.ite_none_right_eq_some, Option.some.injEq] at h
  obtain ⟨hpend, rfl⟩ := h
  refine ⟨hpend, rfl, ?_⟩
  simp only [OutEndpoint.submit]
  split
  · simp
  · split <;> simp

/-- A message that is written is put on the endpoint, and is all that is there, since the endpoint
was flushed. -/
theorem Shared.writeMessage_puts (h : OutLaw P sh) {m : AdbMessage}
    (hw : sh.writeMessage m = some (.ok (), sh')) : Puts P sh sh' [m] := by
  unfold writeMessage at hw
  split at hw
  · cases hw
  · rename_i inner hinner
    split at hw
    · cases hw
    · rename_i inner' hput
      cases hw
      obtain ⟨hsize, hle⟩ := h inner hinner
      obtain ⟨hpend, hsize', hcompletions, -⟩ := UsbConnection.writeMessage_out hput
      have hnil : inner.outEndpoint.completions = [] := by
        apply List.eq_nil_of_length_eq_zero
        have hzero : inner.outEndpoint.submitted.length = 0 := hpend
        omega
      refine ⟨fun c hc => ?_, fun hnone => ?_,
        .inr ⟨m, rfl, inner, inner', hpend, hnil, hsize, hput, rfl⟩⟩
      · obtain rfl : inner' = c := Option.some.inj hc
        rw [hcompletions, hnil]
        exact ⟨hsize'.trans hsize, Nat.zero_le _⟩
      · cases hinner.symm.trans hnone

/-- After a submission there is no result to flush. -/
theorem Put.pollFlush {m : AdbMessage} (h : Put P m sh) : sh.pollFlush = (.pending, sh) := by
  obtain ⟨c, c', -, hnil, -, hput, hconn⟩ := h
  obtain ⟨-, -, hcompletions, hne⟩ := UsbConnection.writeMessage_out hput
  obtain ⟨t, ts, hsubmitted⟩ := List.exists_cons_of_ne_nil hne
  obtain ⟨connection, error⟩ := sh
  obtain ⟨inEndpoint, ⟨submitted, completions⟩, packetSize, inHeader⟩ := c'
  cases hconn
  cases hsubmitted
  obtain rfl : completions = [] := hcompletions.trans hnil
  rfl

/-- What follows the submission of a message in the same section. -/
theorem Puts.pollFlush {m : AdbMessage} (h : Puts P sh sh' [m]) :
    sh'.pollFlush = (.pending, sh') := by
  obtain hnil | ⟨m', -, hput⟩ := h.sent
  · cases hnil
  · exact hput.pollFlush

/-- A write behind a flush puts its message on the endpoint. -/
theorem writeMessageAsync_puts (h : OutLaw P sh) (msg : Option AdbMessage) :
    Puts P sh (writeMessageAsync msg sh).shared (writeMessageAsync msg sh).sent := by
  have hflush := Shared.pollFlush_puts h
  cases msg with
  | none =>
    simp only [writeMessageAsync, pollWritten]
    split <;> rename_i hf <;> rwa [hf] at hflush
  | some m =>
    simp only [writeMessageAsync]
    split <;> rename_i hf <;> rw [hf] at hflush
    · exact hflush
    · exact hflush
    · split
      · exact hflush
      · rename_i hw
        obtain ⟨sh'', hok, -⟩ := Shared.writeMessage_of_pollFlush hf m
        cases hok.symm.trans hw
      · rename_i hw
        have hputs := hflush.trans (Shared.writeMessage_puts hflush.law hw)
        rw [pollWritten, hputs.pollFlush]
        exact hputs

/-! ## The operations of a socket -/

variable (localId : UInt32) (st : State)

/-- A read puts its `OKAY` on the endpoint. -/
theorem pollRead_puts (h : OutLaw P sh) (remaining : Nat) :
    Puts P sh (pollRead localId remaining st sh).shared (pollRead localId remaining st sh).sent := by
  have hflush := Shared.pollFlush_puts h
  unfold pollRead
  split
  · exact .refl h
  · split <;> rename_i hf <;> rw [hf] at hflush
    · exact hflush
    · exact hflush
    · simp only
      split
      · exact hflush
      · split
        · exact hflush
        · split
          · exact hflush
          · rename_i hw
            obtain ⟨hlost, rfl⟩ := Shared.writeMessage_error hw
            exact hflush
          · rename_i hw
            exact hflush.trans (Shared.writeMessage_puts hflush.law hw)

/-- A write puts its `WRTE` on the endpoint. -/
theorem pollWrite_puts (h : OutLaw P sh) (buf : List UInt8) (tick : Bool) :
    Puts P sh (pollWrite localId buf tick st sh).shared (pollWrite localId buf tick st sh).sent := by
  have hflush := Shared.pollFlush_puts h
  unfold pollWrite
  split
  · exact .refl h
  · split
    · exact .refl h
    · split <;> rename_i hf <;> rw [hf] at hflush
      · exact hflush
      · exact hflush
      · split
        · exact hflush
        · split
          · exact hflush
          · simp only
            split
            · exact hflush
            · split
              · exact hflush
              · rename_i hw
                obtain ⟨hlost, rfl⟩ := Shared.writeMessage_error hw
                exact hflush
              · rename_i hw
                exact hflush.trans (Shared.writeMessage_puts hflush.law hw)

/-- A flush of the socket submits nothing. -/
theorem socketFlush_puts (h : OutLaw P sh) : Puts P sh (pollFlush st sh).shared [] := by
  have hflush := Shared.pollFlush_puts h
  unfold pollFlush
  split
  · exact .refl h
  · split <;> rename_i hf <;> rw [hf] at hflush
    · exact hflush
    · exact hflush
    · split
      · exact hflush
      · split <;> exact hflush

/-- A shutdown puts its `CLSE` on the endpoint. -/
theorem shutdownWrite_puts (h : OutLaw P sh) (s : Sock) (msg : AdbMessage) :
    Puts P sh (s.shutdownWrite sh msg).shared (s.shutdownWrite sh msg).event.sent := by
  unfold Sock.shutdownWrite
  split
  · exact .refl h
  · rename_i hw
    obtain ⟨hlost, rfl⟩ := Shared.writeMessage_error hw
    exact .refl h
  · rename_i hw
    have hputs := Shared.writeMessage_puts h hw
    rw [hputs.pollFlush]
    exact hputs

/-- Every step of a socket puts what it sends on the endpoint. -/
theorem Sock.step_puts (h : OutLaw P sh) {s : Sock} {a : SockAct} {n : SockNext}
    (hs : s.step sh a = some n) : Puts P sh n.shared n.event.sent := by
  cases a with
  | poll =>
    simp only [step, poll] at hs
    split at hs
    · cases hs
      exact writeMessageAsync_puts h _
    · split at hs
      · cases hs
        exact .refl h
      · split at hs
        · cases hs
          exact .refl h
        · split at hs <;> cases hs <;> exact .refl h
    · cases hs
  | read remaining =>
    simp only [step, Option.ite_none_right_eq_some, Option.some.injEq] at hs
    obtain ⟨-, rfl⟩ := hs
    exact pollRead_puts _ _ h _
  | write buf tick =>
    simp only [step, Option.ite_none_right_eq_some, Option.some.injEq] at hs
    obtain ⟨-, rfl⟩ := hs
    exact pollWrite_puts _ _ h _ _
  | flush | shutdownFlush =>
    simp only [step, Option.ite_none_right_eq_some, Option.some.injEq] at hs
    obtain ⟨-, rfl⟩ := hs
    exact socketFlush_puts _ h
  | shutdownMark =>
    simp only [step, Option.ite_none_right_eq_some, Option.some.injEq] at hs
    obtain ⟨-, rfl⟩ := hs
    exact .refl h
  | shutdownWrite =>
    simp only [step] at hs
    split at hs
    · cases hs
      exact shutdownWrite_puts h s _
    · cases hs
  | drop =>
    simp only [step, Option.ite_none_right_eq_some, Option.some.injEq] at hs
    obtain ⟨-, rfl⟩ := hs
    exact .refl h

/-! ## The host -/

theorem complete_puts (h : OutLaw P sh) (c : Except TransferError Unit) :
    Puts P sh (sh.complete c) [] := by
  refine ⟨fun conn hconn => ?_, fun hnone => ?_, .inl rfl⟩
  · obtain ⟨inner, hinner, rfl⟩ := Option.map_eq_some_iff.mp hconn
    obtain ⟨hsize, hle⟩ := h inner hinner
    refine ⟨hsize, ?_⟩
    show (inner.outEndpoint.complete c).completions.length ≤ _
    unfold OutEndpoint.complete
    split
    · simp only [List.length_append, List.length_singleton]
      omega
    · exact hle
  · rw [Shared.complete, hnone]
    rfl

/-- The reader task submits nothing by itself: an `OPEN` is queued, a refusal is left to a spawned
writer. -/
theorem dispatch_puts {b b' : TransportBackend} {msg : AdbMessage} {e : HostEvent}
    (h : OutLaw P b.shared) (hs : b.dispatch msg = some (b', e)) :
    Puts P b.shared b'.shared e.sent := by
  have hsocket : b.handleSocket msg = some (b', e) → Puts P b.shared b'.shared e.sent := by
    intro hs
    unfold TransportBackend.handleSocket at hs
    split at hs
    · cases hs
      exact .refl h
    · split at hs
      · cases hs
      · split at hs
        · cases hs
          exact .refl h
        · cases hs
          exact Shared.onError_puts h _
        · cases hs
  unfold TransportBackend.dispatch at hs
  split at hs
  · cases hs
  · split at hs
    · cases hs
      unfold TransportBackend.handleOpen
      simp only
      split
      · exact Shared.onError_puts h _
      · split <;> exact .refl h
    · exact hsocket hs
    · exact hsocket hs
    · exact hsocket hs
    · cases hs
      exact .refl h

/-- **What a step submits is on the endpoint**, and alone there. -/
theorem host_puts {b b' : TransportBackend} {a : HostAct} {e : HostEvent} (h : OutLaw P b.shared)
    (hs : hostMachine.step b a = some (b', e)) : Puts P b.shared b'.shared e.sent := by
  have hs : b.step a = some (b', e) := hs
  cases a with
  | openSocket service =>
    simp only [TransportBackend.step] at hs
    split at hs <;> cases hs <;> exact .refl h
  | accept i | refuse i =>
    simp only [TransportBackend.step] at hs
    split at hs
    · cases hs
    · cases hs
      exact .refl h
  | dropInbound =>
    cases hs
    exact .refl h
  | sock r a =>
    simp only [TransportBackend.step] at hs
    split at hs
    · cases hs
    · split at hs
      · cases hs
      · rename_i hn
        cases hs
        exact Sock.step_puts h hn
  -- a spawned writer submits as a socket does; a dispatch submits nothing
  | writer i =>
    simp only [TransportBackend.step] at hs
    split at hs
    · cases hs
    · split at hs
      · cases hs
      · cases hs
        exact writeMessageAsync_puts h _
  | dispatch msg => exact dispatch_puts h hs
  | removeClosed =>
    simp only [TransportBackend.step] at hs
    split at hs
    · cases hs
    · cases hs
      exact .refl h
  | complete c =>
    cases hs
    exact complete_puts h c
  | fail err =>
    cases hs
    exact Shared.onError_puts h err

end

/-! ## The messages are built by `AdbMessage::new` -/

/-- The message is one that `AdbMessage::new` returns. -/
def IsNew (m : AdbMessage) : Prop :=
  m = AdbMessage.new m.header.command m.header.arg0 m.header.arg1 m.payload

/-- A header announces the length of a payload that fits. -/
theorem IsNew.wellFormed {m : AdbMessage} (h : IsNew m) (hfits : Fits m) : WellFormed m := by
  have hlt : m.payload.length < 2 ^ 32 := Nat.lt_of_le_of_lt hfits (by decide)
  exact Built.wellFormed ⟨_, _, _, _, hlt, h⟩

/-- Every message that waits to be submitted is new. -/
structure UnsentNew (b : TransportBackend) : Prop where
  sockets : ∀ (r : Nat) (k : Sock) (msg : AdbMessage), b.backends[r]? = some k →
    k.phase.unsent = some msg → IsNew msg
  writers : ∀ (w : Writer) (msg : AdbMessage), w ∈ b.writers → w.msg = some msg → IsNew msg

theorem StateStep.sent_new {localId : UInt32} {st st' : State} {e : SocketEvent}
    (h : StateStep localId st st' e) {msg : AdbMessage} (hmsg : msg ∈ e.sent) : IsNew msg := by
  cases h with
  | readBytes hcl hb =>
    obtain rfl : msg = readOkay localId st _ := by simpa [SocketEvent.sent] using hmsg
    rfl
  | @write buf hcl hack =>
    obtain rfl : msg = writeWrte localId st buf := by simpa [SocketEvent.sent] using hmsg
    rfl
  | _ => simp [SocketEvent.sent] at hmsg

section
variable {s : Sock} {sh sh' : Shared} {st : State} {ph : Phase} {e : SockEvent} {msg : AdbMessage}

theorem SockStep.sent_new (h : SockStep s sh sh' st ph e)
    (hunsent : ∀ msg, s.phase.unsent = some msg → IsNew msg) (hmsg : msg ∈ e.sent) : IsNew msg := by
  cases h with
  | submit hph | close hph =>
    obtain rfl := List.mem_singleton.mp hmsg
    exact hunsent msg (by rw [hph]; rfl)
  | op hph hpoll hst =>
    rw [← SockEvent.sent_toSocket hpoll] at hmsg
    exact hst.sent_new hmsg
  | _ => cases hmsg

theorem SockStep.unsent_new (h : SockStep s sh sh' st ph e)
    (hunsent : ∀ msg, s.phase.unsent = some msg → IsNew msg) (hmsg : ph.unsent = some msg) :
    IsNew msg := by
  cases ph with
  | writing call m =>
    obtain rfl : m = some msg := hmsg
    exact hunsent msg (by rw [(h.of_writing rfl).1]; rfl)
  | closing m =>
    obtain rfl : m = msg := Option.some.inj hmsg
    rw [(h.of_closing rfl).2]
    rfl
  | _ => cases hmsg

end

namespace UnsentNew

variable {b b' : TransportBackend} {e : HostEvent}

theorem new (connection : UsbConnection) : UnsentNew (TransportBackend.new connection) where
  sockets := by simp [TransportBackend.new]
  writers := by simp [TransportBackend.new]

/-- What the host sends is made by `AdbMessage::new`. -/
theorem sent (h : UnsentNew b) (hstep : HostStep b b' e) {msg : AdbMessage} (hmsg : msg ∈ e.sent) :
    IsNew msg := by
  cases hstep with
  | @sock r k a n hr hs =>
    exact (Sock.step_cases hs).2.2.sent_new (fun m hm => h.sockets r k m hr hm) hmsg
  | @writer i w hi hdone =>
    exact h.writers w msg (List.mem_of_getElem? hi) (writeMessageAsync_msg.2 hmsg)
  | create | handled | rejected | remove | env => cases hmsg

/-- Every step keeps that what is to be sent is made by `AdbMessage::new`. -/
theorem step (h : UnsentNew b) (hstep : HostStep b b' e) : UnsentNew b' := by
  constructor
  · intro r k' msg hr' hmsg
    obtain ⟨-, -, hnew⟩ | ⟨k, hr, -, hcase⟩ := hstep.socket hr'
    · cases hnew with
      | opened service | accepted p =>
        cases hmsg
        rfl
    · have hold : ∀ m, k.phase.unsent = some m → IsNew m := fun m hm => h.sockets r k m hr hm
      obtain ⟨rfl, -⟩ | ⟨e', rfl, hsock⟩ | ⟨m, rfl, hph, -⟩ := hcase
      · exact hold msg hmsg
      · exact hsock.unsent_new hold hmsg
      · exact hold msg (hph ▸ hmsg)
  · intro w msg hw hmsg
    obtain ⟨w₀, hw₀, -, hsame⟩ | ⟨remoteId, rfl⟩ | ⟨r, m, rfl, rfl⟩ := hstep.writers hw
    · exact h.writers w₀ msg hw₀ (hsame msg hmsg)
    · cases hmsg
      rfl
    · obtain rfl : m = msg := Option.some.inj hmsg
      obtain ⟨k, k', hr, -, -, hsock⟩ := hstep.of_sock
      rw [((hsock.of_dropped rfl).2 m rfl).2]
      rfl

end UnsentNew

end AdbDaemon.Transport
