import Mathlib.Algebra.BigOperators.Group.List.Basic
import Mathlib.Order.Nat
import AdbDaemon.Transport.Backend

/-!
# One stream: the receiver's credit

Reference: `Socket::poll_read` and `SocketBackend::handle_message` of
`packages/transport/src/socket.rs`; `Transport::open_socket` and `PendingSocket::accept` of
`packages/transport/src/transport.rs`.

`streamMachine` is one socket with its task, the two directions of the connection, and a device that
sends `WRTE` bytes only within the credit it has been granted. The shared connection may change in
any way between two steps of the socket. The `CLSE` that a dropped socket leaves to a spawned task
is counted as in flight from the start.
-/

namespace AdbDaemon.Transport

open Common

inductive DeviceStatus where
  /-- The device has not received the first message of the socket. -/
  | idle
  | opened (remoteId : UInt32)
  | closed
deriving DecidableEq

/-- One socket, the messages on their way, and the device's end of the stream. -/
structure StreamSt where
  sock : Sock
  /-- The socket is in the table of the transport. -/
  inTable : Bool
  shared : Shared
  /-- Messages submitted and not yet received by the device. -/
  toDevice : List AdbMessage
  /-- Messages sent by the device and not yet dispatched. -/
  toHost : List AdbMessage
  status : DeviceStatus
  /-- The credit the device has received and not spent. -/
  credit : Nat

/-- The steps of the socket, of the reader task and of the device. -/
inductive StreamAct where
  | sock (a : SockAct)
  /-- The reader task dispatches the next message. -/
  | dispatch
  /-- Everything else that can happen to the shared connection. -/
  | env (shared : Shared)
  /-- The device receives the first message of the socket: an `OPEN`, which it answers with its id
  and a grant, or the `OKAY` of `accept`. -/
  | open (remoteId avail : UInt32)
  | refuse
  | receive
  | ack (avail : UInt32)
  | write (payload : List UInt8)
  | close

/-- The credit a message to the device carries. -/
def creditOf (msg : AdbMessage) : Nat :=
  match msg.header.command with
  | .OPEN => msg.header.arg1.toNat
  | .OKAY => avail msg
  | _ => 0

/-- The payload bytes a message to the host carries. -/
def payloadBytes (msg : AdbMessage) : Nat :=
  match msg.header.command with
  | .WRTE => msg.payload.length
  | _ => 0

namespace StreamSt

/-- The socket as it was created, with nothing in flight. -/
def new (sock : Sock) (shared : Shared) : StreamSt where
  sock := sock
  inTable := true
  shared := shared
  toDevice := []
  toHost := []
  status := .idle
  credit := 0

/-- A step of the socket's task. -/
def sockStep (s : StreamSt) (a : SockAct) : Option StreamSt :=
  match s.sock.step s.shared a with
  | none => none
  | some n =>
    let s := { s with sock := n.sock, shared := n.shared, toDevice := s.toDevice ++ n.event.sent }
    match n.event with
    | .dropped msg => some { s with inTable := false, toDevice := s.toDevice ++ msg.toList }
    | _ => some s

/-- `TransportBackend::handle_message` on the next message. -/
def dispatch (s : StreamSt) : Option StreamSt :=
  match s.toHost with
  | [] => none
  | msg :: toHost =>
    if s.inTable then
      match handleMessage msg s.sock.state with
      | .ready (.ok state) => some { s with sock.state := state, inTable := !state.closed, toHost }
      | _ => some { s with toHost }
    else some { s with toHost }

/-- One step of either end. -/
def step (s : StreamSt) : StreamAct → Option StreamSt
  | .sock a => s.sockStep a
  | .dispatch => s.dispatch
  | .env shared => some { s with shared }
  | .open remoteId avail =>
    match s.status, s.toDevice with
    | .idle, msg :: toDevice =>
      let s := { s with toDevice, status := .opened remoteId, credit := s.credit + creditOf msg }
      match msg.header.command with
      | .OPEN =>
        some { s with
          toHost := s.toHost ++ [AdbMessage.new .OKAY remoteId s.sock.localId (toLeBytes avail)] }
      | .OKAY => some s
      | _ => none
    | _, _ => none
  | .refuse =>
    match s.status, s.toDevice with
    | .idle, msg :: toDevice =>
      if msg.header.command = .OPEN then
        some { s with
          toDevice
          status := .closed
          credit := s.credit + creditOf msg
          toHost := s.toHost ++ [AdbMessage.new .CLSE 0 s.sock.localId []] }
      else none
    | _, _ => none
  | .receive =>
    match s.toDevice with
    | [] => none
    | msg :: toDevice =>
      if s.status = .idle ∧ msg.header.command ≠ .CLSE then none
      else
        some { s with
          toDevice
          status := if msg.header.command = .CLSE then .closed else s.status
          credit := s.credit + creditOf msg }
  | .ack avail =>
    match s.status with
    | .opened remoteId =>
      some { s with
        toHost := s.toHost ++ [AdbMessage.new .OKAY remoteId s.sock.localId (toLeBytes avail)] }
    | _ => none
  -- the device spends credit only, so it never sends more than it was granted
  | .write payload =>
    match s.status with
    | .opened remoteId =>
      if payload.length ≤ s.credit then
        some { s with
          credit := s.credit - payload.length
          toHost := s.toHost ++ [AdbMessage.new .WRTE remoteId s.sock.localId payload] }
      else none
    | _ => none
  | .close =>
    match s.status with
    | .opened remoteId =>
      some { s with
        status := .closed
        toHost := s.toHost ++ [AdbMessage.new .CLSE remoteId s.sock.localId []] }
    | _ => none

/-- Where the credit is: with the device, in flight either way, or in the read buffer. -/
def total (s : StreamSt) : Nat :=
  s.credit + (s.toHost.map payloadBytes).sum + s.sock.state.unread.length +
    (s.toDevice.map creditOf).sum

end StreamSt

/-- One stream between its socket and a device that keeps to its credit. -/
def streamMachine : Machine StreamSt StreamAct Unit :=
  ⟨fun s a => (s.step a).map fun s' => (s', ())⟩

/-- The first message was submitted, and the call that created the socket has not failed. -/
def Phase.announced : Phase → Bool
  | .writing _ none | .waiting | .idle | .flushed | .closing _ => true
  | .writing _ (some _) | .failed | .dropped => false

/-- The stream is open on the side of the host. -/
def Sock.isOpen (s : Sock) : Prop := s.phase.announced = true ∧ s.state.closed = false

/-! ## What a step of the socket does to the credit -/

/-- An `OKAY` returns the credit in its payload. -/
@[simp] theorem creditOf_okay (localId remoteId avail : UInt32) :
    creditOf (AdbMessage.new .OKAY localId remoteId (toLeBytes avail)) = avail.toNat := by
  simp [creditOf, Transport.avail]

/-- A read returns the credit of the bytes that it took, as 32 bits. -/
theorem creditOf_readOkay (localId : UInt32) (st : State) {bytes : List UInt8}
    (h : bytes.length < 2 ^ 32) : creditOf (readOkay localId st bytes) = bytes.length := by
  rw [readOkay, creditOf_okay, UInt32.toNat_ofNat_of_lt' h]

/-- What a read takes is no longer unread. -/
theorem length_afterRead (st : State) (n : Nat) :
    (st.afterRead n).unread.length + (st.readable n).length = st.unread.length := by
  rw [unread_afterRead, State.readable, List.length_drop, List.length_take]
  omega

/-- A read, a write or a flush gives back the credit for the bytes it takes from the buffer; a
closed socket gives none back. -/
theorem StateStep.unread_add_creditOf {localId : UInt32} {st st' : State} {e : SockEvent}
    (hpoll : e.isPoll = true) (h : StateStep localId st st' e.toSocket)
    (hsmall : st.unread.length < 2 ^ 32) :
    st'.unread.length + (e.sent.map creditOf).sum ≤ st.unread.length ∧
      (st.closed = false → st'.unread.length + (e.sent.map creditOf).sum = st.unread.length) := by
  rw [← SockEvent.sent_toSocket hpoll]
  have hnot : ∀ msg, e.toSocket ≠ .handled msg := by
    intro msg
    cases e <;> simp [SockEvent.toSocket]
  generalize e.toSocket = e' at h hnot
  cases h with
  | @readEmpty n hcl hb =>
    have hlen := length_afterRead st n
    rw [hb, List.length_nil, Nat.add_zero] at hlen
    simp [SocketEvent.sent, hlen]
  | @readClosed n hcl =>
    have hlen := length_afterRead st n
    simp only [SocketEvent.sent, List.map_nil, List.sum_nil, hcl]
    refine ⟨by omega, by simp⟩
  | @readBytes n hcl hb =>
    have hlen := length_afterRead st n
    have hok : creditOf (readOkay localId st (st.readable n)) = (st.readable n).length :=
      creditOf_readOkay localId st (by omega)
    simp only [SocketEvent.sent, List.map_cons, List.map_nil, List.sum_singleton, hok]
    exact ⟨Nat.le_of_eq hlen, fun _ => hlen⟩
  | write hcl hack => simp [SocketEvent.sent, writeWrte, creditOf, State.unread]
  | grant | payload | close => exact absurd rfl (hnot _)
  | refuse | readStopped | writeStopped | flush | shutdown | shutdownNone | env =>
    simp [SocketEvent.sent, State.unread]

/-- What a step of the socket's task does to the credit: it submits the first message, or it gives
back what it takes from the buffer. -/
theorem SockStep.creditOf {s : Sock} {sh sh' : Shared} {st : State} {ph : Phase} {e : SockEvent}
    (h : SockStep s sh sh' st ph e) (hsmall : s.state.unread.length < 2 ^ 32)
    (hclosing : ∀ msg, s.phase = .closing msg → creditOf msg = 0) :
    (∃ call msg, s.phase = .writing call (some msg) ∧ st = s.state ∧ e.sent = [msg]) ∨
      (st.unread.length + (e.sent.map Transport.creditOf).sum ≤ s.state.unread.length ∧
        (s.state.closed = false →
          st.unread.length + (e.sent.map Transport.creditOf).sum = s.state.unread.length) ∧
        (ph.announced = true → s.phase.announced = true)) := by
  cases h with
  | @submit call msg _ _ hph hphase => exact .inl ⟨call, msg, hph, rfl, rfl⟩
  | op hph hpoll hst =>
    obtain ⟨hle, heq⟩ := hst.unread_add_creditOf hpoll hsmall
    exact .inr ⟨hle, heq, fun _ => by rw [hph]; rfl⟩
  | close hph => exact .inr (by simp [SockEvent.sent, hclosing _ hph, hph, Phase.announced])
  | pollWriting hph hphase =>
    refine .inr ⟨by simp [SockEvent.sent], by simp [SockEvent.sent], fun hann => ?_⟩
    rcases hphase with rfl | ⟨rfl, -⟩ | rfl
    · rwa [hph]
    · rw [hph]
      rfl
    · simp [Phase.announced] at hann
  | opened hph | pollWaiting hph | shutdownFlush hph | mark hph | markNone hph | closeLost hph
  | closePanic hph => exact .inr (by simp [SockEvent.sent, State.unread, hph, Phase.announced])
  | drop | dropNone => exact .inr (by simp [SockEvent.sent, State.unread, Phase.announced])

/-! ## The invariant -/

/-- What every run keeps of the credit. -/
structure StreamLaw (s : StreamSt) : Prop where
  /-- Before the first message is submitted nothing is in flight. -/
  blank : ∀ call msg, s.sock.phase = .writing call (some msg) →
    creditOf msg = DELAYED_ACK_BYTES.toNat ∧ s.status = .idle ∧ s.toDevice = [] ∧ s.toHost = [] ∧
      s.credit = 0 ∧ s.sock.state.unread = []
  closing : ∀ msg, s.sock.phase = .closing msg → creditOf msg = 0
  inTable : s.sock.phase ≠ .dropped → s.sock.state.closed = false → s.inTable = true
  bound : s.total ≤ DELAYED_ACK_BYTES.toNat
  conserved : s.sock.isOpen → s.total = DELAYED_ACK_BYTES.toNat

namespace StreamSt

variable {s s' : StreamSt}

/-- The steps of the device, and of the rest of the host, keep the credit where it adds up. -/
theorem total_of_device {a : StreamAct} (h : s.step a = some s') (hsock : ∀ a', a ≠ .sock a')
    (hdispatch : a ≠ .dispatch) :
    s'.sock = s.sock ∧ s'.inTable = s.inTable ∧ s'.total = s.total ∧
      (s.status = .idle → s.toDevice = [] → s'.status = s.status ∧ s'.toDevice = s.toDevice ∧
        s'.toHost = s.toHost ∧ s'.credit = s.credit) := by
  cases a with
  | sock a => exact absurd rfl (hsock a)
  | dispatch => exact absurd rfl hdispatch
  | env shared =>
    obtain rfl := Option.some.inj h
    exact ⟨rfl, rfl, rfl, fun _ _ => ⟨rfl, rfl, rfl, rfl⟩⟩
  | «open» remoteId avail =>
    simp only [step] at h
    split at h
    · rename_i msg toDevice hst hto
      split at h
      · obtain rfl := Option.some.inj h
        refine ⟨rfl, rfl, ?_, fun _ hnil => by simp [hto] at hnil⟩
        simp [total, hto, payloadBytes]
        omega
      · obtain rfl := Option.some.inj h
        refine ⟨rfl, rfl, ?_, fun _ hnil => by simp [hto] at hnil⟩
        simp [total, hto]
        omega
      · exact absurd h (by simp)
    · exact absurd h (by simp)
  | refuse =>
    simp only [step] at h
    split at h
    · rename_i msg toDevice hst hto
      simp only [Option.ite_none_right_eq_some, Option.some.injEq] at h
      obtain ⟨-, rfl⟩ := h
      refine ⟨rfl, rfl, ?_, fun _ hnil => by simp [hto] at hnil⟩
      simp [total, hto, payloadBytes]
      omega
    · exact absurd h (by simp)
  | receive =>
    simp only [step] at h
    split at h
    · exact absurd h (by simp)
    · rename_i msg toDevice hto
      simp only [Option.ite_none_left_eq_some, Option.some.injEq] at h
      obtain ⟨-, rfl⟩ := h
      refine ⟨rfl, rfl, ?_, fun _ hnil => by simp [hto] at hnil⟩
      simp [total, hto]
      omega
  | ack avail =>
    simp only [step] at h
    split at h
    · rename_i remoteId hst
      obtain rfl := Option.some.inj h
      refine ⟨rfl, rfl, ?_, fun hidle => by simp [hst] at hidle⟩
      simp [total, payloadBytes]
    · exact absurd h (by simp)
  | write payload =>
    simp only [step] at h
    split at h
    · rename_i remoteId hst
      simp only [Option.ite_none_right_eq_some, Option.some.injEq] at h
      obtain ⟨hle, rfl⟩ := h
      refine ⟨rfl, rfl, ?_, fun hidle => by simp [hst] at hidle⟩
      simp [total, payloadBytes]
      omega
    · exact absurd h (by simp)
  | close =>
    simp only [step] at h
    split at h
    · rename_i remoteId hst
      obtain rfl := Option.some.inj h
      refine ⟨rfl, rfl, ?_, fun hidle => by simp [hst] at hidle⟩
      simp [total, payloadBytes]
    · exact absurd h (by simp)

/-- Handling a message moves its payload into the buffer. -/
theorem unread_of_handleMessage {msg : AdbMessage} {st st' : State}
    (h : handleMessage msg st = .ready (.ok st')) :
    st'.unread.length = st.unread.length + payloadBytes msg := by
  rcases handleMessage_cases st h with ⟨hcmd, avail, -, rfl⟩ | ⟨hcmd, rfl⟩ | ⟨hcmd, rfl⟩
  · simp [payloadBytes, hcmd, State.unread, State.granted]
  · simp [payloadBytes, hcmd, State.unread]
  · simp [payloadBytes, hcmd, State.unread]

/-- A message that is not handled has no payload. -/
theorem payloadBytes_of_not_handled {msg : AdbMessage} {st : State}
    (h : ∀ st', handleMessage msg st ≠ .ready (.ok st')) : payloadBytes msg = 0 := by
  unfold payloadBytes
  split
  · rename_i hcmd
    simp [handleMessage, hcmd] at h
  · rfl

/-- The reader task keeps the credit where it adds up, unless the socket was removed. -/
theorem total_of_dispatch (h : s.dispatch = some s') :
    s.toHost ≠ [] ∧ s'.sock.phase = s.sock.phase ∧ s'.total ≤ s.total ∧
      (s.inTable = true → s'.total = s.total ∧ (s'.sock.state.closed = false → s'.inTable = true)) ∧
      (s.sock.state.closed = true → s'.sock.state.closed = true) ∧
      (s.inTable = false → s'.sock = s.sock) := by
  unfold dispatch at h
  split at h
  · exact absurd h (by simp)
  · rename_i msg toHost hto
    refine ⟨by simp [hto], ?_⟩
    split at h
    · rename_i hin
      split at h
      · rename_i state hm
        obtain rfl := Option.some.inj h
        have hlen := unread_of_handleMessage hm
        have htotal : s.total =
            StreamSt.total { s with sock.state := state, inTable := !state.closed, toHost } := by
          simp [total, hto, hlen]
          omega
        refine ⟨rfl, htotal.ge, fun _ => ⟨htotal.symm, fun hcl => ?_⟩, fun hcl => ?_, fun hout => ?_⟩
        · simpa using hcl
        · rcases handleMessage_cases s.sock.state hm with ⟨-, avail, -, rfl⟩ | ⟨-, rfl⟩ | ⟨-, rfl⟩
          · exact hcl
          · exact hcl
          · rfl
        · simp [hin] at hout
      · rename_i hm
        obtain rfl := Option.some.inj h
        -- a message that is refused carries no bytes of the stream
        have hpay : payloadBytes msg = 0 := payloadBytes_of_not_handled fun st' h => hm st' h
        have htotal : StreamSt.total { s with toHost } = s.total := by simp [total, hto, hpay]
        exact ⟨rfl, htotal.le, fun _ => ⟨htotal, fun _ => hin⟩, id, fun _ => rfl⟩
    · rename_i hin
      obtain rfl := Option.some.inj h
      refine ⟨rfl, ?_, fun h => absurd h hin, id, fun _ => rfl⟩
      simp [total, hto]

/-- A step of the socket's task, with what it puts in flight. -/
theorem sockStep_cases {a : SockAct} (h : s.sockStep a = some s') :
    ∃ n, s.sock.step s.shared a = some n ∧ s'.sock = n.sock ∧ s'.toHost = s.toHost ∧
      s'.status = s.status ∧ s'.credit = s.credit ∧
      (s'.toDevice.map creditOf).sum =
        (s.toDevice.map creditOf).sum + (n.event.sent.map creditOf).sum ∧
      (n.sock.phase ≠ .dropped →
        s'.inTable = s.inTable ∧ s'.toDevice = s.toDevice ++ n.event.sent) := by
  unfold sockStep at h
  split at h
  · exact absurd h (by simp)
  · rename_i n hn
    obtain ⟨-, -, hstep⟩ := Sock.step_cases hn
    refine ⟨n, hn, ?_⟩
    cases hev : n.event with
    | dropped msg =>
      obtain ⟨hph, hmsg⟩ := hstep.of_dropped hev
      have hzero : (msg.toList.map creditOf).sum = 0 := by
        cases msg with
        | none => rfl
        | some msg =>
          obtain ⟨-, rfl⟩ := hmsg msg rfl
          simp [creditOf]
      simp only [hev] at h
      obtain rfl := Option.some.inj h
      exact ⟨rfl, rfl, rfl, rfl, by simp [hzero], fun hne => absurd hph hne⟩
    | _ =>
      simp only [hev] at h
      obtain rfl := Option.some.inj h
      exact ⟨rfl, rfl, rfl, rfl, by simp, fun _ => ⟨rfl, rfl⟩⟩

end StreamSt

/-- Every step of the socket keeps the law: what a read takes out of the buffer it grants anew. -/
theorem StreamLaw.sockStep {s s' : StreamSt} {a : SockAct} (h : StreamLaw s)
    (hs : s.sockStep a = some s') : StreamLaw s' := by
  obtain ⟨n, hn, hsock, hhost, hstatus, hcredit, hsum, hkept⟩ := StreamSt.sockStep_cases hs
  obtain ⟨-, -, hstep⟩ := Sock.step_cases hn
  have hbound := h.bound
  have hsmall : s.sock.state.unread.length < 2 ^ 32 := by
    have : DELAYED_ACK_BYTES.toNat < 2 ^ 32 := by decide
    simp only [StreamSt.total] at hbound
    omega
  have htotal : s'.total = s.credit + (s.toHost.map payloadBytes).sum + n.sock.state.unread.length +
      ((s.toDevice.map creditOf).sum + (n.event.sent.map creditOf).sum) := by
    rw [StreamSt.total, hcredit, hhost, hsock, hsum]
  have hclosed : n.sock.state.closed = false → s.sock.state.closed = false := by
    intro hcl
    by_contra hne
    have := hstep.stateStep.closed_mono (by simpa using hne)
    simp [hcl] at this
  -- the first message, or an exchange of buffered bytes for credit
  have hmove : s'.total ≤ DELAYED_ACK_BYTES.toNat ∧
      (s'.sock.isOpen → s'.total = DELAYED_ACK_BYTES.toNat) := by
    rw [htotal]
    rcases hstep.creditOf hsmall h.closing with ⟨call, msg, hph, hst, hsent⟩ | ⟨hle, heq, hann⟩
    · obtain ⟨hmsg, -, hdev, hhst, hcr, hun⟩ := h.blank call msg hph
      simp [hdev, hhst, hcr, hst, hun, hsent, hmsg]
    · simp only [StreamSt.total] at hbound
      refine ⟨by omega, fun hopen => ?_⟩
      rw [hsock] at hopen
      have hcl := hclosed hopen.2
      have htot := h.conserved ⟨hann hopen.1, hcl⟩
      have := heq hcl
      simp only [StreamSt.total] at htot
      omega
  refine ⟨fun call msg hph => ?_, fun msg hph => ?_, fun hph hcl => ?_, hmove.1, hmove.2⟩
  · rw [hsock] at hph
    obtain ⟨hold, hst, hsent, -⟩ := hstep.of_writing hph
    obtain ⟨hmsg, hidle, hdev, hhst, hcr, hun⟩ := h.blank call msg hold
    obtain ⟨-, hto⟩ := hkept (by simp [hph])
    rw [hstatus, hto, hhost, hcredit, hsock, hsent, hst]
    exact ⟨hmsg, hidle, by simp [hdev], hhst, hcr, hun⟩
  · rw [hsock] at hph
    obtain ⟨-, rfl⟩ := hstep.of_closing hph
    simp [creditOf]
  · rw [hsock] at hph hcl
    rw [(hkept hph).1]
    exact h.inTable hstep.not_dropped (hclosed hcl)

/-- Every step keeps the law: credit, bytes on their way, bytes unread and grants on their way add
up to what was granted at first. -/
theorem StreamLaw.step {s s' : StreamSt} {a : StreamAct} (h : StreamLaw s)
    (hs : s.step a = some s') :
    StreamLaw s' := by
  by_cases hdispatch : a = .dispatch
  · subst hdispatch
    obtain ⟨hne, hph, hle, hin, hcl, hout⟩ := StreamSt.total_of_dispatch hs
    -- a socket that is open was in the table
    have hwas : s'.sock.phase ≠ .dropped → s'.sock.state.closed = false → s.inTable = true := by
      intro hp hc
      rw [hph] at hp
      refine h.inTable hp ?_
      by_contra hcon
      simp [hcl (by simpa using hcon)] at hc
    refine ⟨fun call msg hw => ?_, fun msg hc => ?_, fun hp hc => ?_, hle.trans h.bound,
      fun hopen => ?_⟩
    · rw [hph] at hw
      exact absurd (h.blank call msg hw).2.2.2.1 hne
    · rw [hph] at hc
      exact h.closing msg hc
    · exact (hin (hwas hp hc)).2 hc
    · have hp : s'.sock.phase ≠ .dropped := by
        intro hp
        simp [Sock.isOpen, hp, Phase.announced] at hopen
      rw [(hin (hwas hp hopen.2)).1]
      refine h.conserved ⟨hph ▸ hopen.1, ?_⟩
      by_contra hcon
      have hcl' := hopen.2
      simp [hcl (by simpa using hcon)] at hcl'
  · by_cases hsock : ∃ a', a = .sock a'
    · obtain ⟨a', rfl⟩ := hsock
      exact h.sockStep hs
    · obtain ⟨hk, htab, htot, hblank⟩ := StreamSt.total_of_device hs (not_exists.mp hsock) hdispatch
      refine ⟨fun call msg hw => ?_, fun msg hc => ?_, fun hp hc => ?_, htot ▸ h.bound,
        fun hopen => ?_⟩
      · rw [hk] at hw ⊢
        obtain ⟨hmsg, hidle, hdev, hhst, hcr, hun⟩ := h.blank call msg hw
        obtain ⟨h1, h2, h3, h4⟩ := hblank hidle hdev
        rw [h1, h2, h3, h4]
        exact ⟨hmsg, hidle, hdev, hhst, hcr, hun⟩
      · rw [hk] at hc
        exact h.closing msg hc
      · rw [hk] at hp hc
        rw [htab]
        exact h.inTable hp hc
      · rw [hk] at hopen
        rw [htot]
        exact h.conserved hopen

theorem streamLaw_new {localId : UInt32} {pending : List PendingSocket} {sock : Sock}
    (hnew : NewSocket localId pending sock) (shared : Shared) :
    StreamLaw (StreamSt.new sock shared) := by
  cases hnew with
  | opened service =>
    refine ⟨fun call msg hph => ?_, by simp [StreamSt.new], fun _ _ => rfl, ?_, ?_⟩
    · obtain ⟨-, hmsg⟩ : _ ∧ openMessage service localId = msg := by simpa [StreamSt.new] using hph
      rw [← hmsg]
      exact ⟨rfl, rfl, rfl, rfl, rfl, rfl⟩
    · simp [StreamSt.total, StreamSt.new, State.new, State.unread]
    · simp [Sock.isOpen, StreamSt.new, Phase.announced]
  | accepted p hp =>
    refine ⟨fun call msg hph => ?_, by simp [StreamSt.new], fun _ _ => rfl, ?_, ?_⟩
    · obtain ⟨-, hmsg⟩ : _ ∧ acceptMessage p.remoteId localId = msg := by
        simpa [StreamSt.new] using hph
      rw [← hmsg]
      exact ⟨creditOf_okay _ _ _, rfl, rfl, rfl, rfl, rfl⟩
    · simp [StreamSt.total, StreamSt.new, State.new, State.unread]
    · simp [Sock.isOpen, StreamSt.new, Phase.announced]

/-- **Credit of the receiver.** For a socket that `open_socket` or `accept` creates, after any
schedule of its task, the reader task, the device and the rest of the host: while the socket is
open, the device's unspent credit, the `WRTE` bytes in flight, the unread bytes and the credit in
flight add up to `DELAYED_ACK_BYTES`; the buffer never holds more than 32 MiB; and the length a read
acknowledges fits its 32 bits. -/
theorem receiver_credit (localId : UInt32) (pending : List PendingSocket) (sock : Sock)
    (hnew : NewSocket localId pending sock) (shared : Shared) (tr : List Unit) (s : StreamSt)
    (hrun : streamMachine.Run (StreamSt.new sock shared) tr s) :
    (s.sock.isOpen →
      s.credit + (s.toHost.map payloadBytes).sum + s.sock.state.unread.length +
        (s.toDevice.map creditOf).sum = DELAYED_ACK_BYTES.toNat) ∧
      s.sock.state.unread.length ≤ 32 * 1024 * 1024 ∧
      ∀ n bytes, (pollRead s.sock.localId n s.sock.state s.shared).outcome = .ready (.ok bytes) →
        (UInt32.ofNat bytes.length).toNat = bytes.length := by
  have hlaw : StreamLaw s := by
    refine hrun.invariant (fun _ s => StreamLaw s) (streamLaw_new hnew shared) ?_
    rintro tr s a s' e - h hs
    simp only [streamMachine, Option.map_eq_some_iff, Prod.mk.injEq] at hs
    obtain ⟨s₁, hs₁, rfl, -⟩ := hs
    exact h.step hs₁
  have hbuf : s.sock.state.unread.length ≤ 32 * 1024 * 1024 := by
    have hbound := hlaw.bound
    have : DELAYED_ACK_BYTES.toNat = 32 * 1024 * 1024 := by decide
    simp only [StreamSt.total] at hbound
    omega
  refine ⟨hlaw.conserved, hbuf, fun n bytes ho => ?_⟩
  have hread : bytes = s.sock.state.readable n := by
    rcases pollRead_cases s.sock.localId s.sock.state s.shared n with
      ⟨hstop, -⟩ | ⟨-, -, -, ⟨-, ho', -⟩ | ⟨-, -, ho', -⟩ | ⟨-, -, ho', -⟩⟩
    · exact absurd ho (hstop.ne_ok bytes)
    · rw [ho] at ho'
      simpa using ho'
    · rw [ho] at ho'
      simp at ho'
    · rw [ho] at ho'
      simpa using ho'
  have hlen := length_afterRead s.sock.state n
  rw [hread]
  exact UInt32.toNat_ofNat_of_lt' (by simp only [UInt32.size]; omega)

/-- The device opens the stream, sends three bytes, and two of them are read. -/
theorem receiver_credit_partial_read :
    ∃ s tr, streamMachine.Run
        (StreamSt.new ⟨1, State.new 0 0, .writing .openSocket (some (openMessage "x" 1))⟩
          ⟨some (UsbConnection.new 512), none⟩) tr s ∧
      s.sock.isOpen ∧ s.sock.state.unread = [3] ∧ (s.toDevice.map creditOf).sum = 2 ∧
      s.credit + (s.toHost.map payloadBytes).sum + s.sock.state.unread.length +
        (s.toDevice.map creditOf).sum = DELAYED_ACK_BYTES.toNat := by
  obtain ⟨s, tr, hrun, htest⟩ := Machine.exists_run_of_exec (M := streamMachine)
    (s := StreamSt.new ⟨1, State.new 0 0, .writing .openSocket (some (openMessage "x" 1))⟩
      ⟨some (UsbConnection.new 512), none⟩)
    [.sock .poll, .env ⟨some (UsbConnection.new 512), none⟩, .sock .poll, .open 7 100, .dispatch,
      .sock .poll, .write [1, 2, 3], .dispatch, .sock (.read 2)]
    (fun s _ => decide ((s.sock.phase.announced = true ∧ s.sock.state.closed = false) ∧
      s.sock.state.unread = [3] ∧ (s.toDevice.map creditOf).sum = 2)) (by decide)
  obtain ⟨hopen, hunread, hsum⟩ := of_decide_eq_true htest
  exact ⟨s, tr, hrun, hopen, hunread, hsum,
    (receiver_credit 1 [] _ (.opened "x") _ tr s hrun).1 hopen⟩

end AdbDaemon.Transport
