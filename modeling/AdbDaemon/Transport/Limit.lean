import AdbDaemon.SmartSocket.Protocol
import AdbDaemon.Transport.Handshake

/-!
# The size of a payload

Reference: `AuthTransport::handle_cnxn` and `Transport::open_socket` of
`packages/transport/src/transport.rs`, `Socket::poll_write` of `packages/transport/src/socket.rs`.

A `WRTE` is cut to `MAX_PAYLOAD`, and an `OPEN` carries the service, which a client can make at most
`0xffff` bytes long. The largest payload a device announces in its `CNXN` is read nowhere, so a
device with a smaller limit gets longer messages.
-/

namespace AdbDaemon.Transport

open Common

/-- The payload is not above the limit of the host. -/
def Fits (msg : AdbMessage) : Prop := msg.payload.length ≤ MAX_PAYLOAD.toNat

instance (msg : AdbMessage) : Decidable (Fits msg) := inferInstanceAs (Decidable (_ ≤ _))

/-- The service of an `open_socket` leaves room for the byte that ends it. -/
def ServiceFits : HostAct → Prop
  | .openSocket service => service.utf8ByteSize < MAX_PAYLOAD.toNat
  | _ => True

instance : (a : HostAct) → Decidable (ServiceFits a)
  | .openSocket _ => inferInstanceAs (Decidable (_ < _))
  | .accept _ | .refuse _ | .dropInbound | .sock _ _ | .writer _ | .dispatch _ | .removeClosed
  | .complete _ | .fail _ => .isTrue trivial

/-- Every service that a client can ask for fits. -/
theorem serviceFits_of_request {stream rest : List UInt8} {service : String}
    (h : SmartSocket.readProtocolString stream = .ok (service, rest)) :
    ServiceFits (.openSocket service) := by
  have hsize := SmartSocket.readProtocolString_size h
  exact Nat.lt_of_le_of_lt hsize (by decide)

/-- The host, opening services that fit. -/
def servingHost : Machine TransportBackend HostAct HostEvent :=
  hostMachine.restrict fun _ a _ => ServiceFits a

/-! ## The messages that wait to be submitted -/

/-- The message of a task that is not submitted yet. -/
def Phase.unsent : Phase → Option AdbMessage
  | .writing _ msg => msg
  | .closing msg => some msg
  | _ => none

/-- Every message that waits to be submitted fits. -/
structure UnsentFit (b : TransportBackend) : Prop where
  sockets : ∀ (r : Nat) (k : Sock) (msg : AdbMessage), b.backends[r]? = some k →
    k.phase.unsent = some msg → Fits msg
  writers : ∀ (w : Writer) (msg : AdbMessage), w ∈ b.writers → w.msg = some msg → Fits msg

theorem fits_of_payload_nil {command : AdbCommand} {arg0 arg1 : UInt32} :
    Fits (AdbMessage.new command arg0 arg1 []) := Nat.zero_le _

/-- A message with a word of payload fits. -/
theorem fits_word {command : AdbCommand} {arg0 arg1 v : UInt32} :
    Fits (AdbMessage.new command arg0 arg1 (toLeBytes v)) := by
  show (toLeBytes v).length ≤ MAX_PAYLOAD.toNat
  rw [length_toLeBytes]
  decide

/-- An `OPEN` fits if its service does. -/
theorem fits_openMessage {service : String} (h : ServiceFits (.openSocket service))
    (localId : UInt32) : Fits (openMessage service localId) := by
  have hlen : (service.toUTF8.data.toList ++ [0]).length = service.utf8ByteSize + 1 := by simp
  show (service.toUTF8.data.toList ++ [0]).length ≤ MAX_PAYLOAD.toNat
  rw [hlen]
  exact h

/-! ## One step -/

/-- What a read or a write of a socket submits fits. -/
theorem StateStep.sent_fits {localId : UInt32} {st st' : State} {e : SocketEvent}
    (h : StateStep localId st st' e) {msg : AdbMessage} (hmsg : msg ∈ e.sent) : Fits msg := by
  cases h with
  | readBytes hcl hb =>
    obtain rfl : msg = readOkay localId st _ := by simpa [SocketEvent.sent] using hmsg
    exact fits_word
  | @write buf hcl hack =>
    obtain rfl : msg = writeWrte localId st buf := by simpa [SocketEvent.sent] using hmsg
    show (buf.take (st.writable buf)).length ≤ MAX_PAYLOAD.toNat
    rw [length_take_writable]
    exact (st.writable_le buf).2.2
  | _ => simp [SocketEvent.sent] at hmsg

/-- What the task of a socket submits waited before the step, or is that of a read or a write. -/
theorem SockStep.sent_fits {s : Sock} {sh sh' : Shared} {st : State} {ph : Phase} {e : SockEvent}
    (h : SockStep s sh sh' st ph e) (hunsent : ∀ msg, s.phase.unsent = some msg → Fits msg)
    {msg : AdbMessage} (hmsg : msg ∈ e.sent) : Fits msg := by
  cases h with
  | submit hph =>
    obtain rfl : msg = _ := by simpa [SockEvent.sent] using hmsg
    exact hunsent msg (by rw [hph]; rfl)
  | op hph hpoll hst =>
    rw [← SockEvent.sent_toSocket hpoll] at hmsg
    exact hst.sent_fits hmsg
  | close hph =>
    obtain rfl : msg = _ := by simpa [SockEvent.sent] using hmsg
    exact hunsent msg (by rw [hph]; rfl)
  | _ => simp [SockEvent.sent] at hmsg

/-- A message that waits after a step of its task waited before, or is the `CLSE` of a shutdown. -/
theorem SockStep.unsent_fits {s : Sock} {sh sh' : Shared} {st : State} {ph : Phase} {e : SockEvent}
    (h : SockStep s sh sh' st ph e) (hunsent : ∀ msg, s.phase.unsent = some msg → Fits msg)
    {msg : AdbMessage} (hmsg : ph.unsent = some msg) : Fits msg := by
  cases ph with
  | writing call m =>
    obtain rfl : m = some msg := hmsg
    exact hunsent msg (by rw [(h.of_writing rfl).1]; rfl)
  | closing m =>
    rw [Phase.unsent, Option.some.injEq] at hmsg
    rw [← hmsg, (h.of_closing rfl).2]
    exact fits_of_payload_nil
  | _ => simp [Phase.unsent] at hmsg

/-- A socket is created by `open_socket`, with its service, or by `accept`. -/
theorem act_of_created {b b' : TransportBackend} {a : HostAct} {r : Nat}
    (h : hostMachine.step b a = some (b', .created r)) :
    (∃ service, a = .openSocket service ∧
        b' = b.create .openSocket (State.new 0 0) (openMessage service)) ∨
      ∃ i, a = .accept i := by
  cases a with
  | openSocket service =>
    simp only [hostMachine, TransportBackend.step] at h
    split at h
    · simp at h
    · simp only [Option.some.injEq, Prod.mk.injEq] at h
      exact .inl ⟨service, rfl, h.1.symm⟩
  | accept i => exact .inr ⟨i, rfl⟩
  | refuse i =>
    simp only [hostMachine, TransportBackend.step] at h
    split at h <;> simp at h
  | sock r' a =>
    simp only [hostMachine, TransportBackend.step] at h
    split at h
    · simp at h
    · split at h <;> simp at h
  | writer i =>
    simp only [hostMachine, TransportBackend.step] at h
    split at h
    · simp at h
    · split at h <;> simp at h
  | dispatch msg =>
    simp only [hostMachine, TransportBackend.step, TransportBackend.dispatch] at h
    -- no message makes a socket: an `OPEN` is only queued
    have hsock : b.handleSocket msg ≠ some (b', .created r) := by
      intro hs
      unfold TransportBackend.handleSocket at hs
      split at hs
      · simp at hs
      · split at hs
        · simp at hs
        · split at hs <;> simp at hs
    split at h
    · simp at h
    · split at h
      · simp at h
      · exact absurd h hsock
      · exact absurd h hsock
      · exact absurd h hsock
      · simp at h
  | removeClosed =>
    simp only [hostMachine, TransportBackend.step] at h
    split at h <;> simp at h
  | dropInbound | complete | fail => simp [hostMachine, TransportBackend.step] at h

/-- The first message of a new socket fits: the service of an `OPEN` fits by assumption, and an
`OKAY` has four bytes. -/
theorem newSocket_fits {b b' : TransportBackend} {a : HostAct} {r : Nat} {k : Sock}
    (h : hostMachine.step b a = some (b', .created r)) (hfits : ServiceFits a)
    (hr : b'.backends[b.backends.length]? = some k)
    (hnew : NewSocket b.lastId b.pending k) {msg : AdbMessage}
    (hmsg : k.phase.unsent = some msg) : Fits msg := by
  cases hnew with
  | opened service =>
    obtain rfl : openMessage service b.lastId = msg := Option.some.inj hmsg
    rcases act_of_created h with ⟨service', rfl, rfl⟩ | ⟨i, rfl⟩
    · simp only [TransportBackend.create, List.getElem?_concat_length, Option.some.injEq,
        Sock.mk.injEq, Phase.writing.injEq, true_and] at hr
      rw [← hr]
      exact fits_openMessage hfits _
    · simp only [hostMachine, TransportBackend.step] at h
      split at h
      · simp at h
      · simp only [Option.some.injEq, Prod.mk.injEq] at h
        obtain ⟨rfl, -⟩ := h
        simp [TransportBackend.create] at hr
  | accepted p hp =>
    obtain rfl : acceptMessage p.remoteId b.lastId = msg := Option.some.inj hmsg
    exact fits_word

namespace UnsentFit

variable {b b' : TransportBackend} {e : HostEvent}

/-- Every message submitted fits. -/
theorem sent (h : UnsentFit b) (hstep : HostStep b b' e) {msg : AdbMessage} (hmsg : msg ∈ e.sent) :
    Fits msg := by
  cases hstep with
  | @sock r k a n hr hs =>
    exact (Sock.step_cases hs).2.2.sent_fits (fun m hm => h.sockets r k m hr hm) hmsg
  | @writer i w hi hdone =>
    exact h.writers w msg (List.mem_of_getElem? hi) (writeMessageAsync_msg.2 hmsg)
  | create | handled | rejected | remove | env => simp [HostEvent.sent] at hmsg

/-- Every step keeps that what is to be sent fits. -/
theorem step (h : UnsentFit b) {a : HostAct} (hs : hostMachine.step b a = some (b', e))
    (hfits : ServiceFits a) : UnsentFit b' := by
  have hstep := hostStep_of_step hs
  constructor
  · intro r k' msg hr' hmsg
    rcases hstep.socket hr' with ⟨rfl, rfl, hnew⟩ | ⟨k, hr, -, hcase⟩
    · exact newSocket_fits hs hfits hr' hnew hmsg
    · have hold : ∀ m, k.phase.unsent = some m → Fits m := fun m hm => h.sockets r k m hr hm
      rcases hcase with ⟨rfl, -⟩ | ⟨e', rfl, hsock⟩ | ⟨m, rfl, hph, -⟩
      · exact hold msg hmsg
      · exact hsock.unsent_fits hold hmsg
      · exact hold msg (hph ▸ hmsg)
  · intro w msg hw hmsg
    rcases hstep.writers hw with ⟨w₀, hw₀, -, hsame⟩ | ⟨remoteId, rfl⟩ | ⟨r, m, rfl, rfl⟩
    · exact h.writers w₀ msg hw₀ (hsame msg hmsg)
    · obtain rfl : refuseMessage remoteId = msg := Option.some.inj hmsg
      exact fits_of_payload_nil
    · obtain rfl : m = msg := Option.some.inj hmsg
      obtain ⟨k, k', hr, -, -, hsock⟩ := hstep.of_sock
      rw [((hsock.of_dropped rfl).2 m rfl).2]
      exact fits_of_payload_nil

end UnsentFit

/-! ## Whole schedules -/

/-- **The limit of the host.** Whatever a device's `CNXN` announces, once it led to a transport no
message the host submits has a payload above `MAX_PAYLOAD`. -/
theorem payload_within_limit (conn : UsbConnection) (cnxn : AdbMessage) (b₀ b : TransportBackend)
    (banner : Connections.Banner) (hcnxn : handleCnxn conn cnxn = .ok (b₀, banner))
    (tr : List HostEvent) (hrun : servingHost.Run b₀ tr b) :
    ∀ e ∈ tr, ∀ msg ∈ e.sent, msg.payload.length ≤ MAX_PAYLOAD.toNat := by
  obtain rfl := handleCnxn_ok hcnxn
  have hinv : UnsentFit b ∧ ∀ e ∈ tr, ∀ msg ∈ e.sent, Fits msg := by
    refine hrun.invariant_forall UnsentFit (fun e => ∀ msg ∈ e.sent, Fits msg) ?_ ?_
    · exact ⟨by simp [TransportBackend.new], by simp [TransportBackend.new]⟩
    · intro b a b' e hunsent hs
      obtain ⟨hs, hfits⟩ := Machine.restrict_step.mp hs
      exact ⟨hunsent.step hs hfits, fun msg hmsg => hunsent.sent (hostStep_of_step hs) hmsg⟩
  exact hinv.2

/-- The `CNXN` of a device that accepts payloads of up to 4096 bytes. -/
def smallCnxn : AdbMessage :=
  AdbMessage.new .CNXN 0x01000001 4096 "device::features=delayed_ack".toUTF8.data.toList

/-- The device is accepted, whatever maximum it announces. -/
theorem handleCnxn_smallCnxn :
    ∃ banner, handleCnxn (UsbConnection.new 512) smallCnxn =
      .ok (TransportBackend.new (UsbConnection.new 512), banner) := by
  have hok : (handleCnxn (UsbConnection.new 512) smallCnxn).toBool = true := by decide +kernel
  cases h : handleCnxn (UsbConnection.new 512) smallCnxn with
  | error err => simp [h, Except.toBool] at hok
  | ok p =>
    obtain ⟨b, banner⟩ := p
    obtain rfl := handleCnxn_ok h
    exact ⟨banner, rfl⟩

/-- A socket is opened and 5000 bytes are written: more than the device announced, in one `WRTE`. -/
theorem payload_within_limit_write :
    ∃ banner b tr, handleCnxn (UsbConnection.new 512) smallCnxn =
        .ok (TransportBackend.new (UsbConnection.new 512), banner) ∧
      servingHost.Run (TransportBackend.new (UsbConnection.new 512)) tr b ∧
      (∃ e ∈ tr, ∃ msg ∈ e.sent, msg.header.command = .WRTE ∧ msg.payload.length = 5000) ∧
      ∀ e ∈ tr, ∀ msg ∈ e.sent, msg.payload.length ≤ MAX_PAYLOAD.toNat := by
  obtain ⟨banner, hcnxn⟩ := handleCnxn_smallCnxn
  obtain ⟨b, tr, hrun, htest⟩ := Machine.exists_run_of_exec (M := servingHost)
    (s := TransportBackend.new (UsbConnection.new 512))
    [.openSocket "x", .sock 0 .poll, .complete (.ok ()), .complete (.ok ()), .sock 0 .poll,
      .dispatch (AdbMessage.new .OKAY 7 1 (toLeBytes 5000)), .sock 0 .poll,
      .sock 0 (.write (List.replicate 5000 6) true)]
    (fun _ tr => decide (∃ e ∈ tr, ∃ msg ∈ e.sent,
      msg.header.command = .WRTE ∧ msg.payload.length = 5000)) (by decide +kernel)
  exact ⟨banner, b, tr, hcnxn, hrun, of_decide_eq_true htest,
    payload_within_limit _ _ _ b banner hcnxn tr hrun⟩

/-- A device that announced 4096 bytes is sent a `WRTE` of 4097. -/
theorem announced_limit_ignored :
    ¬ ∀ (conn : UsbConnection) (cnxn : AdbMessage) (b₀ b : TransportBackend)
        (banner : Connections.Banner) (tr : List HostEvent),
      handleCnxn conn cnxn = .ok (b₀, banner) → hostMachine.Run b₀ tr b →
        ∀ e ∈ tr, ∀ msg ∈ e.sent,
          msg.payload.length ≤ min MAX_PAYLOAD.toNat cnxn.header.arg1.toNat := by
  intro h
  obtain ⟨banner, hcnxn⟩ := handleCnxn_smallCnxn
  obtain ⟨b, tr, hrun, htest⟩ := Machine.exists_run_of_exec (M := hostMachine)
    (s := TransportBackend.new (UsbConnection.new 512))
    [.openSocket "x", .sock 0 .poll, .complete (.ok ()), .complete (.ok ()), .sock 0 .poll,
      .dispatch (AdbMessage.new .OKAY 7 1 (toLeBytes 100000)), .sock 0 .poll,
      .sock 0 (.write (List.replicate 4097 0) true)]
    (fun _ tr => tr.any fun e => e.sent.any fun msg => decide (4096 < msg.payload.length))
    (by decide +kernel)
  obtain ⟨e, he, hany⟩ := List.any_eq_true.mp htest
  obtain ⟨msg, hmsg, hlong⟩ := List.any_eq_true.mp hany
  have hle := h _ _ _ b banner tr hcnxn hrun e he msg hmsg
  have hsmall : min MAX_PAYLOAD.toNat smallCnxn.header.arg1.toNat = 4096 := by decide
  rw [hsmall] at hle
  exact absurd (of_decide_eq_true hlong) (Nat.not_lt.mpr hle)

end AdbDaemon.Transport
