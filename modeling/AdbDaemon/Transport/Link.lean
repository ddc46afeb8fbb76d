import AdbDaemon.Common.Pipes
import AdbDaemon.Transport.Orphan

/-!
# Host and device over a link

Reference: `packages/transport/src/transport.rs`, `packages/transport/src/socket.rs`.

The host of `AdbDaemon.Transport.Backend`, a queue of messages in each direction, and a device that
may send whatever it likes, whenever it likes, about streams whose id it has been told: an id of the
host is in the first message of its socket. Streams are opened from either side.

`LinkEvent.streams` is what a step does to the byte streams: writes and reads at the two ends, the
ends of the streams, and streams that the host gives up. `linkStep_of_step` says once what a step can
do, and `LinkLaw` is what every schedule keeps about the ids in the messages.
-/

namespace AdbDaemon.Transport

open Common

/-! ## The machine -/

/-- One direction of a stream, under the id that the host gave it. -/
inductive Direction where
  | toHost (localId : UInt32)
  | toDevice (localId : UInt32)
deriving DecidableEq

abbrev StreamEvent : Type := Direction × PipeAct UInt8

/-- The host, the messages on their way, and the ids that the device was told. -/
structure LinkSt where
  host : TransportBackend
  /-- Messages submitted by the host and not yet received. -/
  toDevice : List AdbMessage
  /-- Messages sent by the device and not yet dispatched. -/
  toHost : List AdbMessage
  /-- The ids the device has been told. -/
  told : List UInt32

inductive LinkAct where
  /-- A step of the host other than a dispatch. -/
  | host (a : HostAct)
  /-- The reader task dispatches the next message. -/
  | deliver
  /-- The device receives the next message. -/
  | receive
  | send (msg : AdbMessage)

/-- What the host shows, and the uses of the streams. -/
structure LinkEvent where
  host : HostEvent
  streams : List StreamEvent

def HostAct.isDispatch : HostAct → Bool
  | .dispatch _ => true
  | _ => false

/-- The message is about the stream that its second argument names. -/
def AdbMessage.isReply (msg : AdbMessage) : Bool :=
  match msg.header.command with
  | .OKAY | .WRTE | .CLSE => true
  | _ => false

/-- The message tells the device an id. -/
def AdbMessage.announces (msg : AdbMessage) : Bool :=
  match msg.header.command with
  | .OPEN | .OKAY => true
  | _ => false

/-- What an operation of a socket does to its streams. -/
def SockEvent.streams (localId : UInt32) : SockEvent → List StreamEvent
  | .read remaining (.ready (.ok bytes)) _ =>
    (.toHost localId, .read bytes) ::
      if 0 < remaining ∧ bytes = [] then [(.toHost localId, .eof)] else []
  | .wrote buf (.ready (.ok n)) _ => [(.toDevice localId, .write (buf.take n))]
  | .shutdownMarked (some _) | .dropped (some _) =>
    [(.toHost localId, .abandon), (.toDevice localId, .finish)]
  | _ => []

def TransportBackend.idOf (b : TransportBackend) (r : Nat) : UInt32 :=
  (b.backends[r]?.map Sock.localId).getD 0

def HostEvent.streams (b : TransportBackend) : HostEvent → List StreamEvent
  | .sock r e => e.streams (b.idOf r)
  | _ => []

/-- What the device does to a stream by sending a message. -/
def sendStreams (msg : AdbMessage) : List StreamEvent :=
  match msg.header.command with
  | .WRTE => [(.toHost msg.header.arg1, .write msg.payload)]
  | .CLSE => [(.toHost msg.header.arg1, .finish)]
  | _ => []

/-- What the device learns about a stream from a message; a `CLSE` that refuses an `OPEN` names no
stream. -/
def receiveStreams (msg : AdbMessage) : List StreamEvent :=
  match msg.header.command with
  | .WRTE => [(.toDevice msg.header.arg0, .read msg.payload)]
  | .CLSE => if msg.header.arg0 = 0 then [] else [(.toDevice msg.header.arg0, .eof)]
  | _ => []

namespace LinkSt

def new (connection : UsbConnection) : LinkSt := ⟨TransportBackend.new connection, [], [], []⟩

/-- One step of the host, of the reader task, or of the device. -/
def step (s : LinkSt) : LinkAct → Option (LinkSt × LinkEvent)
  | .host a =>
    if a.isDispatch then none
    else
      match hostMachine.step s.host a with
      | none => none
      | some (host, e) =>
        some ({ s with host, toDevice := s.toDevice ++ e.sent }, ⟨e, e.streams s.host⟩)
  | .deliver =>
    match s.toHost with
    | [] => none
    | msg :: toHost =>
      match hostMachine.step s.host (.dispatch msg) with
      | none => none
      | some (host, e) => some ({ s with host, toHost }, ⟨e, []⟩)
  | .receive =>
    match s.toDevice with
    | [] => none
    | msg :: toDevice =>
      let told := if msg.announces then msg.header.arg0 :: s.told else s.told
      some ({ s with toDevice, told }, ⟨.internal, receiveStreams msg⟩)
  | .send msg =>
    if msg.isReply = true → msg.header.arg1 ∈ s.told then
      some ({ s with toHost := s.toHost ++ [msg] }, ⟨.internal, sendStreams msg⟩)
    else none

end LinkSt

/-- The host and a device that sends what it likes, with a queue in each direction. -/
def linkMachine : Machine LinkSt LinkAct LinkEvent := ⟨LinkSt.step⟩

/-- The schedules in which the host does not run out of ids. -/
def unwrappedLink : Machine LinkSt LinkAct LinkEvent :=
  linkMachine.restrict fun s _ e => IdNotWrapped s.host e.host

/-! ## What a step can do -/

/-- The steps, with the facts about the queues under which each is taken. -/
inductive LinkStep (s : LinkSt) : LinkSt → LinkEvent → Prop
  | host {host : TransportBackend} {e : HostEvent} (hs : HostStep s.host host e)
      (hnot : ∀ r msg, e ≠ .handled r msg) :
      LinkStep s { s with host, toDevice := s.toDevice ++ e.sent } ⟨e, e.streams s.host⟩
  | deliver {msg : AdbMessage} {toHost : List AdbMessage} {host : TransportBackend} {e : HostEvent}
      (hto : s.toHost = msg :: toHost)
      (hs : hostMachine.step s.host (.dispatch msg) = some (host, e)) :
      LinkStep s { s with host, toHost } ⟨e, []⟩
  | receive {msg : AdbMessage} {toDevice : List AdbMessage} {told : List UInt32}
      (hto : s.toDevice = msg :: toDevice)
      (htold : ∀ id ∈ told, id ∈ s.told ∨ id = msg.header.arg0 ∧ msg.announces = true) :
      LinkStep s { s with toDevice, told } ⟨.internal, receiveStreams msg⟩
  | send {msg : AdbMessage} (htold : msg.isReply = true → msg.header.arg1 ∈ s.told) :
      LinkStep s { s with toHost := s.toHost ++ [msg] } ⟨.internal, sendStreams msg⟩

/-- Every step of the machine is one of `LinkStep`: a step of the host, a dispatch, or the device
that takes or sends a message. -/
theorem linkStep_of_step {s s' : LinkSt} {a : LinkAct} {e : LinkEvent}
    (h : linkMachine.step s a = some (s', e)) : LinkStep s s' e := by
  simp only [linkMachine] at h
  cases a with
  | host a =>
    simp only [LinkSt.step] at h
    split at h
    · cases h
    · rename_i ha
      split at h
      · cases h
      · rename_i host e hs
        cases h
        refine .host (hostStep_of_step hs) (not_handled_of_step hs fun msg => ?_)
        rintro rfl
        exact ha rfl
  | deliver =>
    simp only [LinkSt.step] at h
    split at h
    · cases h
    · rename_i msg toHost hto
      split at h
      · cases h
      · rename_i host e hs
        cases h
        exact .deliver hto hs
  | receive =>
    simp only [LinkSt.step] at h
    split at h
    · cases h
    · rename_i msg toDevice hto
      cases h
      refine .receive hto fun id hid => ?_
      split at hid
      · rename_i hann
        obtain rfl | hid := List.mem_cons.mp hid
        · exact .inr ⟨rfl, hann⟩
        · exact .inl hid
      · exact .inl hid
  | send msg =>
    simp only [LinkSt.step, Option.ite_none_right_eq_some, Option.some.injEq, Prod.mk.injEq] at h
    obtain ⟨htold, rfl, rfl⟩ := h
    exact .send htold

/-- How a dispatched message about a stream ends: no socket has the id, the socket takes it, or the
socket refuses an `OKAY` that carries no credit. -/
inductive SocketDispatch (b : TransportBackend) (msg : AdbMessage) :
    TransportBackend → HostEvent → Prop
  | unknown (hnone : b.sockets msg.header.arg1 = none) : SocketDispatch b msg b .internal
  | handled {r : Nat} {k : Sock} {state : State} (hid : b.sockets msg.header.arg1 = some r)
      (hr : b.backends[r]? = some k) (hm : handleMessage msg k.state = .ready (.ok state)) :
      SocketDispatch b msg
        { b with
          backends := b.backends.set r { k with state }
          removing := if state.closed then some msg.header.arg1 else none }
        (.handled r msg)
  | rejected {r : Nat} {err : Error} (hcmd : msg.header.command = .OKAY) :
      SocketDispatch b msg (b.fail err) (.rejected r msg)

/-- A message for a socket is dispatched while no other dispatch is under way. -/
theorem socketDispatch_of_step {b b' : TransportBackend} {msg : AdbMessage} {e : HostEvent}
    (hreply : msg.isReply = true) (h : hostMachine.step b (.dispatch msg) = some (b', e)) :
    b.removing = none ∧ SocketDispatch b msg b' e := by
  simp only [hostMachine, TransportBackend.step, TransportBackend.dispatch] at h
  split at h
  · cases h
  · rename_i hidle
    refine ⟨hidle, ?_⟩
    have hsocket : b.handleSocket msg = some (b', e) := by
      simp only [AdbMessage.isReply] at hreply
      split at hreply <;> rename_i hcmd
      · simpa only [hcmd] using h
      · simpa only [hcmd] using h
      · simpa only [hcmd] using h
      · cases hreply
    rw [TransportBackend.handleSocket] at hsocket
    split at hsocket
    · rename_i hnone
      cases hsocket
      exact .unknown hnone
    · rename_i r hid
      split at hsocket
      · cases hsocket
      · rename_i k hr
        split at hsocket
        · rename_i state hm
          cases hsocket
          exact .handled hid hr hm
        · rename_i err hm
          cases hsocket
          refine .rejected ?_
          -- only the credit of an `OKAY` can be malformed
          simp only [handleMessage] at hm
          split at hm
          · assumption
          · cases hm
          · cases hm
          · cases hm
        · cases hsocket

/-- Any other message concerns no socket. -/
theorem dispatch_other {b b' : TransportBackend} {msg : AdbMessage} {e : HostEvent}
    (hreply : msg.isReply = false) (h : hostMachine.step b (.dispatch msg) = some (b', e)) :
    e = .internal ∧ b'.backends = b.backends ∧ b'.sockets = b.sockets ∧
      b'.removing = b.removing := by
  simp only [hostMachine, TransportBackend.step, TransportBackend.dispatch] at h
  split at h
  · cases h
  · split at h
    · cases h
      refine ⟨rfl, ?_⟩
      rw [TransportBackend.handleOpen]
      split
      · exact ⟨rfl, rfl, rfl⟩
      · split <;> exact ⟨rfl, rfl, rfl⟩
    · rename_i hcmd
      simp [AdbMessage.isReply, hcmd] at hreply
    · rename_i hcmd
      simp [AdbMessage.isReply, hcmd] at hreply
    · rename_i hcmd
      simp [AdbMessage.isReply, hcmd] at hreply
    · cases h
      exact ⟨rfl, rfl, rfl, rfl⟩

/-! ## What the host sends -/

/-- Some socket has the id. -/
def TransportBackend.Knows (b : TransportBackend) (id : UInt32) : Prop :=
  ∃ (r : Nat) (k : Sock), b.backends[r]? = some k ∧ k.localId = id

/-- An id that is known stays known. -/
theorem TransportBackend.Knows.step {b b' : TransportBackend} {e : HostEvent} {id : UInt32}
    (h : b.Knows id) (hstep : HostStep b b' e) : b'.Knows id := by
  obtain ⟨r, k, hr, rfl⟩ := h
  obtain ⟨k', hr', hid, -⟩ := hstep.backend hr
  exact ⟨r, k', hr', hid⟩

/-- What waits to be sent names its socket; a `CLSE` waits only for a closed socket, or refuses an
`OPEN` and names none. -/
structure SendLaw (b : TransportBackend) : Prop where
  writing : ∀ (r : Nat) (k : Sock) call msg, b.backends[r]? = some k →
    k.phase = .writing call (some msg) → msg.announces = true ∧ msg.header.arg0 = k.localId
  closing : ∀ (r : Nat) (k : Sock) msg, b.backends[r]? = some k → k.phase = .closing msg →
    msg.header.command = .CLSE ∧ msg.header.arg0 = k.localId ∧ k.state.closed = true
  writers : ∀ w ∈ b.writers, ∀ msg, w.msg = some msg → msg.header.command = .CLSE ∧
    (msg.header.arg0 = 0 ∨ ∃ (r : Nat) (k : Sock), b.backends[r]? = some k ∧
      k.localId = msg.header.arg0 ∧ k.state.closed = true)

theorem sendLaw_new (connection : UsbConnection) : SendLaw (TransportBackend.new connection) where
  writing := by simp [TransportBackend.new]
  closing := by simp [TransportBackend.new]
  writers := by simp [TransportBackend.new]

/-- What a new socket writes first is the announcement of its own id. -/
theorem NewSocket.writing {localId : UInt32} {pending : List PendingSocket} {k : Sock}
    (h : NewSocket localId pending k) {call : Call} {msg : AdbMessage}
    (hph : k.phase = .writing call (some msg)) :
    msg.announces = true ∧ msg.header.arg0 = k.localId := by
  cases h with
  | opened service =>
    obtain ⟨-, hmsg⟩ := Phase.writing.inj hph
    obtain rfl := Option.some.inj hmsg
    exact ⟨rfl, rfl⟩
  | accepted p hp =>
    obtain ⟨-, hmsg⟩ := Phase.writing.inj hph
    obtain rfl := Option.some.inj hmsg
    exact ⟨rfl, rfl⟩

/-- Every step keeps what is said about the messages to be sent. -/
theorem SendLaw.step {b b' : TransportBackend} {e : HostEvent} (h : SendLaw b)
    (hstep : HostStep b b' e) : SendLaw b' := by
  refine ⟨fun r k' call msg hr' hph => ?_, fun r k' msg hr' hph => ?_, fun w hw msg hmsg => ?_⟩
  · obtain ⟨-, -, hnew⟩ | ⟨k, hr, hid, hcase⟩ := hstep.socket hr'
    · exact hnew.writing hph
    · rw [hid]
      obtain ⟨rfl, -⟩ | ⟨e', rfl, hsock⟩ | ⟨m, rfl, hph', -⟩ := hcase
      · exact h.writing r _ call msg hr hph
      · exact h.writing r k call msg hr (hsock.of_writing hph).1
      · exact h.writing r k call msg hr (hph' ▸ hph)
  · obtain ⟨-, -, hnew⟩ | ⟨k, hr, hid, hcase⟩ := hstep.socket hr'
    · cases hnew <;> cases hph
    · rw [hid]
      obtain ⟨rfl, -⟩ | ⟨e', rfl, hsock⟩ | ⟨m, rfl, hph', -⟩ := hcase
      · exact h.closing r _ msg hr hph
      · obtain ⟨hst, rfl⟩ := hsock.of_closing hph
        exact ⟨rfl, rfl, by rw [hst]⟩
      · obtain ⟨hcmd, harg, hcl⟩ := h.closing r k msg hr (hph' ▸ hph)
        obtain ⟨k'', hr'', -, hmove⟩ := hstep.backend hr
        obtain rfl := Option.some.inj (hr''.symm.trans hr')
        exact ⟨hcmd, harg, hmove.closed_mono hcl⟩
  · -- an older writer, the one of a refusal, or the one of a drop
    obtain ⟨w₀, hw₀, -, hold⟩ | ⟨remoteId, rfl⟩ | ⟨r, m, rfl, rfl⟩ := hstep.writers hw
    · obtain ⟨hcmd, hname⟩ := h.writers w₀ hw₀ msg (hold msg hmsg)
      refine ⟨hcmd, hname.imp_right fun ⟨r, k, hr, hid, hcl⟩ => ?_⟩
      obtain ⟨k', hr', hid', hmove⟩ := hstep.backend hr
      exact ⟨r, k', hr', hid'.trans hid, hmove.closed_mono hcl⟩
    · obtain rfl := Option.some.inj hmsg
      exact ⟨rfl, .inl rfl⟩
    · obtain rfl := Option.some.inj hmsg
      obtain ⟨k, k', -, hr', hid, hsock⟩ := hstep.of_sock
      obtain ⟨hst, rfl⟩ := (hsock.of_dropped rfl).2 _ rfl
      exact ⟨rfl, .inr ⟨r, k', hr', hid, by rw [hst]⟩⟩

/-- What a step of a socket sends, and what that does to the stream to the device. -/
inductive Sends (k : Sock) (e : SockEvent) : Prop
  | nothing (hsent : e.sent = [])
      (hacts : ∀ id, actsOf (.toDevice id) (e.streams k.localId) = [])
  /-- A message that tells the id, or acknowledges a read. -/
  | tell {msg : AdbMessage} (hsent : e.sent = [msg]) (hann : msg.announces = true)
      (hid : msg.header.arg0 = k.localId)
      (hacts : ∀ id, actsOf (.toDevice id) (e.streams k.localId) = [])
  | write {buf : List UInt8} (hopen : k.state.closed = false)
      (he : e = .wrote buf (.ready (.ok (k.state.writable buf))) [writeWrte k.localId k.state buf])
  | shutdown {msg : AdbMessage} (hopen : k.state.closed = false)
      (he : e = .shutdownMarked (some msg) ∨ e = .dropped (some msg))
  | close {msg : AdbMessage} (hph : k.phase = .closing msg) (hsent : e.sent = [msg])
      (hacts : ∀ id, actsOf (.toDevice id) (e.streams k.localId) = [])

/-- A read does not use the pipe to the device. -/
theorem actsOf_toDevice_read (localId id : UInt32) (n : Nat) (o : Outcome IoError (List UInt8))
    (sent : List AdbMessage) :
    actsOf (.toDevice id) (SockEvent.streams localId (.read n o sent)) = [] := by
  cases o with
  | ready res =>
    cases res with
    | ok bytes =>
      simp only [SockEvent.streams]
      split <;> rfl
    | error => rfl
  | _ => rfl

/-- A write that took nothing shows nothing. -/
theorem streams_wrote_stopped (localId : UInt32) {buf : List UInt8} {o : Outcome IoError Nat}
    (ho : ∀ n, o ≠ .ready (.ok n)) (sent : List AdbMessage) :
    SockEvent.streams localId (.wrote buf o sent) = [] := by
  cases o with
  | ready res =>
    cases res with
    | ok n => exact absurd rfl (ho n)
    | error => rfl
  | _ => rfl

/-- What a socket sends names its own id, and tells of the bytes that it took. -/
theorem SockStep.sends {k : Sock} {sh sh' : Shared} {st : State} {ph : Phase} {e : SockEvent}
    (h : SockStep k sh sh' st ph e)
    (hwriting : ∀ call msg, k.phase = .writing call (some msg) →
      msg.announces = true ∧ msg.header.arg0 = k.localId) : Sends k e := by
  cases h with
  | submit hph =>
    obtain ⟨hann, hid⟩ := hwriting _ _ hph
    exact .tell rfl hann hid fun _ => rfl
  | close hph => exact .close hph rfl fun _ => rfl
  | mark hph hcl => exact .shutdown hcl (.inl rfl)
  | drop hph hcl => exact .shutdown hcl (.inr rfl)
  | pollWriting | opened | pollWaiting | shutdownFlush | markNone | closeLost | closePanic | dropNone =>
    exact .nothing rfl fun _ => rfl
  | op hph hpoll hst =>
    cases e with
    | read n o sent =>
      have hacts := fun id => actsOf_toDevice_read k.localId id n o sent
      cases hst with
      | readStopped | readEmpty | readClosed => exact .nothing rfl hacts
      | readBytes => exact .tell rfl rfl rfl hacts
    | wrote buf o sent =>
      cases hst with
      | writeStopped ho =>
        refine .nothing rfl fun id => ?_
        rw [streams_wrote_stopped _ ho]
        rfl
      | write hcl hack => exact .write hcl rfl
    | flushed o => exact .nothing rfl fun _ => rfl
    | polled | waited | shutdownFlushed | shutdownMarked | shutdownWritten | dropped => cases hpoll

/-! ## Ids -/

/-- Every id that the device uses, has been told or is about to be told is that of a socket. -/
structure LinkLaw (s : LinkSt) : Prop where
  table : TableLaw s.host
  sends : SendLaw s.host
  told : ∀ id ∈ s.told, s.host.Knows id
  toDevice : ∀ m ∈ s.toDevice, m.announces = true → s.host.Knows m.header.arg0
  toHost : ∀ m ∈ s.toHost, m.isReply = true → s.host.Knows m.header.arg1

theorem linkLaw_new (connection : UsbConnection) : LinkLaw (LinkSt.new connection) where
  table := tableLaw_new connection
  sends := sendLaw_new connection
  told := by simp [LinkSt.new]
  toDevice := by simp [LinkSt.new]
  toHost := by simp [LinkSt.new]

/-- A message that tells an id tells that of a socket. -/
theorem SendLaw.knows {b b' : TransportBackend} {e : HostEvent} (h : SendLaw b)
    (hstep : HostStep b b' e) {msg : AdbMessage} (hmsg : msg ∈ e.sent)
    (hann : msg.announces = true) : b.Knows msg.header.arg0 := by
  cases hstep with
  | @sock r k a n hr hs =>
    refine ⟨r, k, hr, ?_⟩
    obtain hsent | ⟨hsent, -, hid, -⟩ | ⟨-, he⟩ | ⟨-, he⟩ | ⟨hph, hsent, -⟩ :=
      (Sock.step_cases hs).2.2.sends fun call msg => h.writing r k call msg hr
    · simp [HostEvent.sent, hsent] at hmsg
    · simp only [HostEvent.sent, hsent, List.mem_singleton] at hmsg
      rw [hmsg, hid]
    · simp only [HostEvent.sent, he, SockEvent.sent, List.mem_singleton] at hmsg
      rw [hmsg]
      rfl
    · obtain he | he := he <;> simp [HostEvent.sent, he, SockEvent.sent] at hmsg
    · simp only [HostEvent.sent, hsent, List.mem_singleton] at hmsg
      rw [hmsg, (h.closing r k _ hr hph).2.1]
  | writer hi hdone =>
    have hcmd := (h.writers _ (List.mem_of_getElem? hi) msg (writeMessageAsync_msg.2 hmsg)).1
    simp [AdbMessage.announces, hcmd] at hann
  | create | handled | rejected | remove | env => simp [HostEvent.sent] at hmsg

/-- Every step keeps the law of the link: each message on its way to the device, and each that names
a socket, names one that there is. -/
theorem LinkLaw.step {s s' : LinkSt} {e : LinkEvent} (h : LinkLaw s) (hstep : LinkStep s s' e)
    (hwrap : IdNotWrapped s.host e.host) : LinkLaw s' := by
  cases hstep with
  | host hs hnot =>
    refine ⟨h.table.step hs hwrap, h.sends.step hs, fun id hid => (h.told id hid).step hs,
      fun m hm hann => ?_, fun m hm hreply => (h.toHost m hm hreply).step hs⟩
    obtain hm | hm := List.mem_append.mp hm
    · exact (h.toDevice m hm hann).step hs
    · exact (h.sends.knows hs hm hann).step hs
  | deliver hto hs =>
    have hs := hostStep_of_step hs
    refine ⟨h.table.step hs hwrap, h.sends.step hs, fun id hid => (h.told id hid).step hs,
      fun m hm hann => (h.toDevice m hm hann).step hs, fun m hm hreply => ?_⟩
    exact (h.toHost m (by rw [hto]; exact List.mem_cons_of_mem _ hm) hreply).step hs
  | receive hto htold =>
    refine ⟨h.table, h.sends, fun id hid => ?_, fun m hm hann => ?_, h.toHost⟩
    · obtain hold | ⟨rfl, hann⟩ := htold id hid
      · exact h.told id hold
      · exact h.toDevice _ (by rw [hto]; exact List.mem_cons_self) hann
    · exact h.toDevice m (by rw [hto]; exact List.mem_cons_of_mem _ hm) hann
  | send htold =>
    refine ⟨h.table, h.sends, h.told, h.toDevice, fun m hm hreply => ?_⟩
    obtain hm | hm := List.mem_append.mp hm
    · exact h.toHost m hm hreply
    · rw [List.mem_singleton.mp hm] at hreply ⊢
      exact h.told _ (htold hreply)

/-! ## Streams of one socket -/

/-- Only the streams of the socket are touched: what a step shows of any other stream is nothing. -/
theorem actsOf_streams_ne {localId id : UInt32} (hne : localId ≠ id) (e : SockEvent) :
    actsOf (.toHost id) (e.streams localId) = [] ∧ actsOf (.toDevice id) (e.streams localId) = [] := by
  cases e with
  | read n o sent =>
    refine ⟨?_, actsOf_toDevice_read _ _ _ _ _⟩
    cases o with
    | ready res =>
      cases res with
      | ok bytes =>
        simp only [SockEvent.streams]
        split <;> simp [actsOf, hne]
      | error => exact rfl
    | _ => exact rfl
  | wrote buf o sent =>
    cases o with
    | ready res =>
      cases res with
      | ok n => simp [SockEvent.streams, actsOf, hne]
      | error => exact ⟨rfl, rfl⟩
    | _ => exact ⟨rfl, rfl⟩
  | shutdownMarked msg => cases msg <;> simp [SockEvent.streams, actsOf, hne]
  | dropped msg => cases msg <;> simp [SockEvent.streams, actsOf, hne]
  | polled | waited | flushed | shutdownFlushed | shutdownWritten => exact ⟨rfl, rfl⟩

/-- A removal under way is finished by no other step. -/
theorem HostStep.removing {b b' : TransportBackend} {e : HostEvent} (h : HostStep b b' e)
    (hnot : ∀ r msg, e ≠ .handled r msg) : b'.removing = b.removing ∨ b'.removing = none := by
  cases h with
  | handled => exact absurd rfl (hnot _ _)
  | remove => exact .inr rfl
  | create | sock | writer | rejected | env => exact .inl rfl

/-- Only a step of the socket with the id touches its streams. -/
theorem streams_of_other {b b' : TransportBackend} {e : HostEvent} {id : UInt32}
    (h : HostStep b b' e)
    (hother : ∀ (r : Nat) (k : Sock), b.backends[r]? = some k → k.localId = id →
      ∀ e', e ≠ .sock r e') :
    actsOf (.toHost id) (e.streams b) = [] ∧ actsOf (.toDevice id) (e.streams b) = [] := by
  cases h with
  | @sock r k a n hr hs =>
    have hid : b.idOf r = k.localId := by rw [TransportBackend.idOf, hr]; rfl
    have hne : k.localId ≠ id := fun heq => hother r k hr heq n.event rfl
    simp only [HostEvent.streams, hid]
    exact actsOf_streams_ne hne n.event
  | create | writer | handled | rejected | remove | env => exact ⟨rfl, rfl⟩

/-- No socket has the next id. -/
theorem TableLaw.ne_lastId {b : TransportBackend} (h : TableLaw b) {r : Nat} {k : Sock}
    (hr : b.backends[r]? = some k) : k.localId ≠ b.lastId := by
  intro hid
  have hk := h.ids r k hr
  have hlt := (List.getElem?_eq_some_iff.mp hr).1
  by_cases hzero : b.lastId = 0
  · rw [hid, hzero] at hk
    exact absurd hk (by simp)
  · rw [hid, (h.toNat_lastId hzero).1] at hk
    omega

end AdbDaemon.Transport
