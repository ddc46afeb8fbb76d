import AdbDaemon.Forward.Reverse
import AdbDaemon.Transport.SocketTable

/-!
# Streams that the device opens

Reference: `TransportBackend::handle_message`, `PendingSocket::accept` and `PendingSocket::close` of
`packages/transport/src/transport.rs`; `accept_sockets_task` of `src/connection/usb.rs`;
`ForwardingMgr::handle_socket` of `src/forward.rs`.

The reader task puts every `OPEN` into the channel of pending sockets, `accept_sockets_task` takes
them out one by one, and `handle_socket` answers each. `acceptMachine` is that task over
`hostMachine`, with the other tasks of the transport and a table of reverse forwards that may change
at any time. The socket being handled stays at the head of `pending` until it is accepted or closed.
The task runs on, so the receiver of the channel is not dropped and no future of its is cancelled.

The `k`-th `OPEN` that was received is the `k`-th that is answered (`inbound_open_answered`).
-/

namespace AdbDaemon.Forward

open Common Transport

/-- Where `accept_sockets_task` stands. -/
inductive AcceptStage where
  /-- Inside `accept_socket`. -/
  | waiting
  | handling
  | connecting (port : UInt16)
  | connected (port : UInt16)
  /-- The `async` block returned an error while the socket was there. -/
  | failed
  /-- Inside `PendingSocket::accept`, with the socket it created. -/
  | accepting (r : Nat)
  /-- Inside `PendingSocket::close`, with the index of its write. -/
  | closing (i : Nat)
deriving DecidableEq

/-- The transport, the table of reverse forwards, and the task that handles one `OPEN` after the
other. -/
structure AcceptSt where
  host : TransportBackend
  forwards : ReverseForwards
  /-- The number of pending sockets that were handled. -/
  count : Nat
  stage : AcceptStage

/-- The steps of the task, of the reader task, and of everybody else on the transport. -/
inductive AcceptAct where
  /-- The reader task reads an `OPEN`. -/
  | receive (msg : AdbMessage)
  /-- Another task, or the reader task on another message. -/
  | host (a : HostAct)
  | forwards (forwards : ReverseForwards)
  /-- `accept_socket` returns. -/
  | take
  /-- `handle_socket` up to its call of `connect`. -/
  | check
  | connect (success : Bool)
  | accept
  | close
  /-- Poll the future of `accept` or `close`. -/
  | poll

/-- The events of the task carry the number of the `OPEN` that it handles. -/
inductive AcceptEvent where
  | received (msg : AdbMessage)
  | host (e : HostEvent)
  /-- `TcpStream::connect`, with the table that permitted it. -/
  | connecting (k : Nat) (forwards : ReverseForwards) (port : UInt16)
  | connected (k : Nat) (port : UInt16)
  /-- `accept` took a local id. -/
  | accepting (k : Nat) (localId : UInt32)
  /-- The messages that the poll submitted; `handle_socket` has returned if `returned`. -/
  | polled (k : Nat) (sent : List AdbMessage) (returned : Bool)
  | internal

namespace AcceptSt

/-- A new transport, and a task that waits for its first `OPEN`. -/
def new (connection : UsbConnection) (forwards : ReverseForwards) : AcceptSt where
  host := TransportBackend.new connection
  forwards := forwards
  count := 0
  stage := .waiting

/-- What is left to the other tasks. -/
def permits (s : AcceptSt) : HostAct → Bool
  | .accept _ | .refuse _ | .dropInbound => false
  | .sock r .poll | .sock r .drop => decide (s.stage ≠ .accepting r)
  | .writer i => decide (s.stage ≠ .closing i)
  | .dispatch msg => decide (msg.header.command ≠ .OPEN)
  | _ => true

/-- The task after a poll of the last future of `handle_socket`. -/
def afterPoll (s : AcceptSt) (host : TransportBackend) (outcome : Outcome Error Unit)
    (sent : List AdbMessage) : AcceptSt × AcceptEvent :=
  match outcome with
  | .pending => ({ s with host }, .polled s.count sent false)
  | _ => ({ s with host, count := s.count + 1, stage := .waiting }, .polled s.count sent true)

/-- One step; the others on the transport may take any step but those of the reply under way. -/
def step (s : AcceptSt) : AcceptAct → Option (AcceptSt × AcceptEvent)
  | .receive msg =>
    if msg.header.command = .OPEN then
      match hostMachine.step s.host (.dispatch msg) with
      | none => none
      | some (host, _) => some ({ s with host }, .received msg)
    else none
  | .host a =>
    if s.permits a then
      match hostMachine.step s.host a with
      | none => none
      | some (host, e) => some ({ s with host }, .host e)
    else none
  | .forwards forwards => some ({ s with forwards }, .internal)
  | .take =>
    match s.stage, s.host.pending with
    | .waiting, _ :: _ => some ({ s with stage := .handling }, .internal)
    | _, _ => none
  -- `handle_socket` looks the remote up in `reverse_forwards` as it is now
  | .check =>
    match s.stage, s.host.pending with
    | .handling, p :: _ =>
      match handleSocket s.forwards p.service with
      | .ok port =>
        some ({ s with stage := .connecting port }, .connecting s.count s.forwards port)
      | .error _ => some ({ s with stage := .failed }, .internal)
    | _, _ => none
  | .connect success =>
    match s.stage with
    | .connecting port =>
      if success then some ({ s with stage := .connected port }, .connected s.count port)
      else some ({ s with stage := .failed }, .internal)
    | _ => none
  | .accept =>
    match s.stage with
    | .connected _ =>
      match hostMachine.step s.host (.accept 0) with
      | none => none
      | some (host, _) =>
        some ({ s with host, stage := .accepting s.host.backends.length },
          .accepting s.count s.host.lastId)
    | _ => none
  | .close =>
    match s.stage with
    | .failed =>
      match hostMachine.step s.host (.refuse 0) with
      | none => none
      | some (host, _) => some ({ s with host, stage := .closing s.host.writers.length }, .internal)
    | _ => none
  -- `accept` and `close` are polled until their message is written
  | .poll =>
    match s.stage with
    | .accepting r =>
      match hostMachine.step s.host (.sock r .poll) with
      | some (host, .sock _ (.polled outcome sent)) => some (s.afterPoll host outcome sent)
      | _ => none
    | .closing i =>
      match hostMachine.step s.host (.writer i) with
      | some (host, .written _ outcome sent) => some (s.afterPoll host outcome sent)
      | _ => none
    | _ => none

end AcceptSt

/-- `accept_sockets_task` and `handle_socket`, interleaved with the rest of the transport. -/
def acceptMachine : Machine AcceptSt AcceptAct AcceptEvent := ⟨AcceptSt.step⟩

/-! ## Requests and replies -/

/-- The pending socket of an `OPEN`, if its service is UTF-8. -/
def pendingSocket (msg : AdbMessage) : Option PendingSocket :=
  let payload := if msg.payload.getLast? = some 0 then msg.payload.dropLast else msg.payload
  (String.fromUTF8? ⟨payload.toArray⟩).map fun service =>
    ⟨msg.header.arg0, msg.header.arg1.toNat, service⟩

/-- The `OPEN` that a step adds to the queue, if its service is a text. -/
def AcceptEvent.open? : AcceptEvent → Option PendingSocket
  | .received msg => pendingSocket msg
  | _ => none

/-- The `OPEN`s that were received, in order. -/
def opens (tr : List AcceptEvent) : List PendingSocket := tr.filterMap AcceptEvent.open?

/-- What a step submits in reply to the `OPEN` with this number. -/
def AcceptEvent.sentTo (k : Nat) : AcceptEvent → List AdbMessage
  | .polled k' sent _ => if k' = k then sent else []
  | _ => []

/-- What `handle_socket` submitted for the `k`-th `OPEN`. -/
def replies (k : Nat) (tr : List AcceptEvent) : List AdbMessage := tr.flatMap (AcceptEvent.sentTo k)

/-- The messages that the device could take for a reply to an `OPEN`: the `OKAY` of an `accept`, and
a `CLSE` of no socket. -/
def openingReplies : HostEvent → List AdbMessage
  | .sock _ (.polled _ sent) => sent.filter fun msg => msg.header.command = .OKAY
  | .written none _ sent => sent
  | _ => []

/-- `handle_socket` has returned from the `k`-th `OPEN`. -/
def Returned (tr : List AcceptEvent) (k : Nat) : Prop := ∃ sent, .polled k sent true ∈ tr

/-- A connection to the port was permitted: the service of the `OPEN` names the port, and at that
time the table had an entry with this local end. -/
def Permitted (tr : List AcceptEvent) (k : Nat) (p : PendingSocket) (port : UInt16) : Prop :=
  Proto.parse p.service = .ok (.tcp port) ∧
    ∃ forwards x, .connecting k forwards port ∈ tr ∧ forwards.lookup x = some ⟨.tcp port⟩

/-- A reply to an `OPEN`. -/
inductive Reply (tr : List AcceptEvent) (k : Nat) (p : PendingSocket) : AdbMessage → Prop
  | refused : Reply tr k p (refuseMessage p.remoteId)
  | accepted {port : UInt16} {localId : UInt32} (hpermitted : Permitted tr k p port)
      (hconnected : .connected k port ∈ tr) (hid : .accepting k localId ∈ tr) :
      Reply tr k p (acceptMessage p.remoteId localId)

/-! ## The other tasks -/

/-- An `OPEN` with a UTF-8 service goes into the channel, if there is still a reader of it. -/
theorem handleOpen_eq (b : TransportBackend) (msg : AdbMessage) :
    b.handleOpen msg =
      match pendingSocket msg with
      | none => b.fail (.text .invalidData "service is not utf8")
      | some p => if b.inbound then { b with pending := b.pending ++ [p] } else b.refuse p.remoteId := by
  simp only [TransportBackend.handleOpen, pendingSocket]
  split <;> rename_i hutf <;> rw [hutf] <;> rfl

/-- What the other tasks can do to the sockets, the writers and the channel. -/
inductive OtherStep (s : AcceptSt) (b : TransportBackend) : HostEvent → Prop
  | opened {service : String}
      (hb : b = s.host.create .openSocket (State.new 0 0) (openMessage service)) :
      OtherStep s b (.created s.host.backends.length)
  | sock {r : Nat} {k : Sock} {act : SockAct} {n : SockNext} (hr : s.host.backends[r]? = some k)
      (hs : k.step s.host.shared act = some n)
      (hnot : s.stage = .accepting r → act ≠ .poll ∧ act ≠ .drop)
      (hb : b = s.host.afterSock r n) : OtherStep s b (.sock r n.event)
  | writer {i : Nat} {w w' : Writer} {o : Outcome Error Unit} {sent : List AdbMessage}
      (hi : s.host.writers[i]? = some w) (hdone : w.done = false) (hnot : s.stage ≠ .closing i)
      (hwriters : b.writers = s.host.writers.set i w') (hw : w'.owner = w.owner)
      (hbackends : b.backends = s.host.backends) (hpending : b.pending = s.host.pending)
      (hinbound : b.inbound = s.host.inbound) : OtherStep s b (.written w.owner o sent)
  | handled {r : Nat} {k : Sock} {state : State} {msg : AdbMessage}
      (hr : s.host.backends[r]? = some k)
      (hbackends : b.backends = s.host.backends.set r { k with state })
      (hwriters : b.writers = s.host.writers) (hpending : b.pending = s.host.pending)
      (hinbound : b.inbound = s.host.inbound) : OtherStep s b (.handled r msg)
  | rest {e : HostEvent} (hreplies : openingReplies e = []) (hbackends : b.backends = s.host.backends)
      (hwriters : b.writers = s.host.writers) (hpending : b.pending = s.host.pending)
      (hinbound : b.inbound = s.host.inbound) : OtherStep s b e

/-- Every step that the transport may take by itself is one of `OtherStep`. -/
theorem otherStep_of_step {s : AcceptSt} {a : HostAct} {b : TransportBackend} {e : HostEvent}
    (hp : s.permits a = true) (hs : hostMachine.step s.host a = some (b, e)) : OtherStep s b e := by
  simp only [hostMachine] at hs
  cases a with
  | openSocket service =>
    simp only [TransportBackend.step] at hs
    split at hs
    · cases hs
      exact .rest rfl rfl rfl rfl rfl
    · cases hs
      exact .opened rfl
  | accept i | refuse i | dropInbound => exact absurd hp (by simp [AcceptSt.permits])
  | sock r act =>
    simp only [TransportBackend.step] at hs
    split at hs
    · exact absurd hs (by simp)
    · rename_i k hr
      split at hs
      · exact absurd hs (by simp)
      · rename_i n hn
        cases hs
        refine .sock hr hn (fun hstage => ⟨?_, ?_⟩) rfl
        · rintro rfl
          simp [AcceptSt.permits, hstage] at hp
        · rintro rfl
          simp [AcceptSt.permits, hstage] at hp
  | writer i =>
    simp only [TransportBackend.step] at hs
    split at hs
    · exact absurd hs (by simp)
    · rename_i w hi
      split at hs
      · exact absurd hs (by simp)
      · rename_i hdone
        cases hs
        exact .writer hi (by simpa using hdone) (by simpa [AcceptSt.permits] using hp) rfl rfl rfl rfl
          rfl
  | dispatch msg =>
    simp only [TransportBackend.step, TransportBackend.dispatch] at hs
    have hsocket : s.host.handleSocket msg = some (b, e) → OtherStep s b e := by
      intro hs
      unfold TransportBackend.handleSocket at hs
      split at hs
      · cases hs
        exact .rest rfl rfl rfl rfl rfl
      · split at hs
        · exact absurd hs (by simp)
        · rename_i k hr
          split at hs
          · cases hs
            exact .handled hr rfl rfl rfl rfl
          · cases hs
            exact .rest rfl rfl rfl rfl rfl
          · exact absurd hs (by simp)
    split at hs
    · exact absurd hs (by simp)
    · split at hs
      · rename_i hopen
        exact absurd hp (by simp [AcceptSt.permits, hopen])
      · exact hsocket hs
      · exact hsocket hs
      · exact hsocket hs
      · cases hs
        exact .rest rfl rfl rfl rfl rfl
  | removeClosed =>
    simp only [TransportBackend.step] at hs
    split at hs
    · exact absurd hs (by simp)
    · cases hs
      exact .rest rfl rfl rfl rfl rfl
  | complete c | fail err =>
    cases hs
    exact .rest rfl rfl rfl rfl rfl

/-- Only the task that handles the `OPEN`s has a reply to write: the one future of an `accept` and the
one unowned write are its own. -/
structure ReplyLaw (stage : AcceptStage) (b : TransportBackend) : Prop where
  inbound : b.inbound = true
  opening : ∀ (r : Nat) (k : Sock) (msg : AdbMessage), b.backends[r]? = some k →
    k.phase = .writing .openSocket (some msg) → msg.header.command = .OPEN
  accepting : ∀ (r : Nat) (k : Sock) (msg : Option AdbMessage), b.backends[r]? = some k →
    k.phase = .writing .accept msg → stage = .accepting r
  closing : ∀ (i : Nat) (w : Writer), b.writers[i]? = some w → w.owner = none → w.done = false →
    stage = .closing i

namespace ReplyLaw

variable {stage stage' : AcceptStage} {b b' : TransportBackend}

theorem new (connection : UsbConnection) : ReplyLaw .waiting (TransportBackend.new connection) where
  inbound := rfl
  opening := by simp [TransportBackend.new]
  accepting := by simp [TransportBackend.new]
  closing := by simp [TransportBackend.new]

/-- The law looks at no other part of the transport. -/
theorem congr (h : ReplyLaw stage b) (hinbound : b'.inbound = b.inbound)
    (hbackends : b'.backends = b.backends) (hwriters : b'.writers = b.writers) :
    ReplyLaw stage b' where
  inbound := hinbound.trans h.inbound
  opening := by
    rw [hbackends]
    exact h.opening
  accepting := by
    rw [hbackends]
    exact h.accepting
  closing := by
    rw [hwriters]
    exact h.closing

/-- A socket steps or is handed a message: what it has to write, it had to write before. -/
theorem set_backend (h : ReplyLaw stage b) {r : Nat} {k k' : Sock} (hr : b.backends[r]? = some k)
    (hopening : ∀ msg, k'.phase = .writing .openSocket (some msg) →
      k.phase = .writing .openSocket (some msg))
    (haccepting : ∀ msg, k'.phase = .writing .accept msg → stage' = .accepting r)
    (hother : ∀ r', r' ≠ r → stage = .accepting r' → stage' = .accepting r')
    (hclosing : ∀ i, stage = .closing i → stage' = .closing i)
    (hinbound : b'.inbound = b.inbound) (hbackends : b'.backends = b.backends.set r k')
    (hwriters : ∀ (i : Nat) (w : Writer), b'.writers[i]? = some w → w.owner = none →
      b.writers[i]? = some w) :
    ReplyLaw stage' b' := by
  refine ⟨hinbound.trans h.inbound, fun r' k₁ msg hr' hph => ?_, fun r' k₁ msg hr' hph => ?_,
    fun i w hi howner hdone => hclosing i (h.closing i w (hwriters i w hi howner) howner hdone)⟩
  · rw [hbackends] at hr'
    by_cases heq : r = r'
    · subst heq
      rw [getElem?_set_of_some hr] at hr'
      obtain rfl := Option.some.inj hr'
      exact h.opening r k msg hr (hopening msg hph)
    · rw [List.getElem?_set_ne heq] at hr'
      exact h.opening r' k₁ msg hr' hph
  · rw [hbackends] at hr'
    by_cases heq : r = r'
    · subst heq
      rw [getElem?_set_of_some hr] at hr'
      obtain rfl := Option.some.inj hr'
      exact haccepting msg hph
    · rw [List.getElem?_set_ne heq] at hr'
      exact hother r' (Ne.symm heq) (h.accepting r' k₁ msg hr' hph)

/-- A new socket and its first message, if `open_socket` made it or the task that handles the
`OPEN`: the law knows of the second only. -/
theorem create (h : ReplyLaw stage b) {call : Call} {state : State} {msg : UInt32 → AdbMessage}
    (hopening : call = .openSocket → (msg b.lastId).header.command = .OPEN)
    (haccepting : call = .accept → stage' = .accepting b.backends.length)
    (hother : ∀ r, stage = .accepting r → stage' = .accepting r)
    (hclosing : ∀ i, stage = .closing i → stage' = .closing i) :
    ReplyLaw stage' (b.create call state msg) := by
  have hnew : ∀ (r : Nat) (k : Sock), (b.create call state msg).backends[r]? = some k →
      b.backends[r]? = some k ∨
        r = b.backends.length ∧ k = ⟨b.lastId, state, .writing call (some (msg b.lastId))⟩ := by
    intro r k hr
    simp only [TransportBackend.create, List.getElem?_append] at hr
    split at hr
    · exact .inl hr
    · rename_i hlt
      obtain ⟨hlen, heq⟩ := List.getElem?_eq_some_iff.mp hr
      simp only [List.length_singleton] at hlen
      exact .inr ⟨by omega, by simpa using heq.symm⟩
  refine ⟨h.inbound, fun r k m hr hph => ?_, fun r k m hr hph => ?_,
    fun i w hi howner hdone => hclosing i (h.closing i w hi howner hdone)⟩
  · rcases hnew r k hr with hold | ⟨rfl, rfl⟩
    · exact h.opening r k m hold hph
    · obtain ⟨rfl, hm⟩ := Phase.writing.inj hph
      obtain rfl := Option.some.inj hm
      exact hopening rfl
  · rcases hnew r k hr with hold | ⟨rfl, rfl⟩
    · exact hother r (h.accepting r k m hold hph)
    · obtain ⟨rfl, -⟩ := Phase.writing.inj hph
      exact haccepting rfl

/-- A write proceeds. -/
theorem set_writer (h : ReplyLaw stage b) {i : Nat} {w w' : Writer} (hi : b.writers[i]? = some w)
    (hself : w'.owner = none → w'.done = false → stage' = .closing i)
    (hother : ∀ j, j ≠ i → stage = .closing j → stage' = .closing j)
    (haccepting : ∀ r, stage = .accepting r → stage' = .accepting r)
    (hinbound : b'.inbound = b.inbound) (hbackends : b'.backends = b.backends)
    (hwriters : b'.writers = b.writers.set i w') : ReplyLaw stage' b' := by
  refine ⟨hinbound.trans h.inbound, ?_, fun r k msg hr hph => ?_, fun j w₁ hj howner hdone => ?_⟩
  · rw [hbackends]
    exact h.opening
  · rw [hbackends] at hr
    exact haccepting r (h.accepting r k msg hr hph)
  · rw [hwriters] at hj
    by_cases heq : i = j
    · subst heq
      rw [getElem?_set_of_some hi] at hj
      obtain rfl := Option.some.inj hj
      exact hself howner hdone
    · rw [List.getElem?_set_ne heq] at hj
      exact hother j (Ne.symm heq) (h.closing j w₁ hj howner hdone)

end ReplyLaw

/-- A task inside `write_message_async` can only be polled or dropped. -/
theorem act_of_writing {k : Sock} {sh : Shared} {act : SockAct} {n : SockNext} {call : Call}
    {msg : Option AdbMessage} (hs : k.step sh act = some n) (hph : k.phase = .writing call msg) :
    act = .poll ∨ act = .drop := by
  cases act with
  | poll => exact .inl rfl
  | drop => exact .inr rfl
  | read remaining | write buf tick | flush | shutdownFlush | shutdownMark | shutdownWrite =>
    simp [Sock.step, hph] at hs

namespace OtherStep

variable {s : AcceptSt} {b : TransportBackend} {e : HostEvent}

theorem pending (h : OtherStep s b e) : b.pending = s.host.pending := by
  cases h with
  | opened hb | sock _ _ _ hb =>
    rw [hb]
    rfl
  | writer _ _ _ _ _ _ hpending _ | handled _ _ _ hpending _ | rest _ _ _ hpending _ => exact hpending

/-- The reply under way is not touched, so that the stage of the task still names the socket or the
writer that has it. -/
theorem replyLaw (h : OtherStep s b e) (hlaw : ReplyLaw s.stage s.host) : ReplyLaw s.stage b := by
  cases h with
  | opened hb =>
    rw [hb]
    exact hlaw.create (fun _ => rfl) (by simp) (fun _ h => h) fun _ h => h
  | @sock r k act n hr hs hnot hb =>
    obtain ⟨-, -, hstep⟩ := Sock.step_cases hs
    refine hlaw.set_backend hr (fun msg hph => (hstep.of_writing hph).1) (fun msg hph => ?_)
      (fun _ _ h => h) (fun _ h => h) (by rw [hb]; rfl) (by rw [hb]; rfl)
      fun i w => by rw [hb]; exact afterSock_writers.2
    obtain ⟨msg', hold⟩ := hstep.writing hph
    exact hlaw.accepting r k msg' hr hold
  | @writer i w w' o sent hi hdone hnot hwriters hw hbackends _ hinbound =>
    refine hlaw.set_writer hi (fun howner _ => ?_) (fun _ _ h => h) (fun _ h => h) hinbound hbackends
      hwriters
    exact hlaw.closing i w hi (hw ▸ howner) hdone
  | @handled r k state _ hr hbackends hwriters _ hinbound =>
    refine hlaw.set_backend hr ?_ ?_ (fun _ _ h => h) (fun _ h => h) hinbound hbackends ?_
    · exact fun msg hph => hph
    · exact fun msg hph => hlaw.accepting r k msg hr hph
    · rw [hwriters]
      exact fun i w hi _ => hi
  | rest _ hbackends hwriters _ hinbound => exact hlaw.congr hinbound hbackends hwriters

/-- The other tasks submit no reply to an `OPEN`: neither an `OKAY` from `accept` nor a `CLSE` with
the local id 0. -/
theorem openingReplies (h : OtherStep s b e) (hlaw : ReplyLaw s.stage s.host) :
    Forward.openingReplies e = [] := by
  cases h with
  | opened _ => rfl
  | handled _ _ _ _ _ => rfl
  | rest hreplies _ _ _ _ => exact hreplies
  | @writer i w w' o sent hi hdone hnot _ _ _ _ _ =>
    cases howner : w.owner with
    | none => exact absurd (hlaw.closing i w hi howner hdone) hnot
    | some r => rfl
  | @sock r k act n hr hs hnot _ =>
    obtain ⟨-, -, hstep⟩ := Sock.step_cases hs
    cases hev : n.event with
    | polled o sent =>
      rw [hev] at hstep
      generalize n.sock.state = st, n.sock.phase = ph at hstep
      cases hstep with
      | @submit call msg _ _ hph hphase =>
        cases call with
        | openSocket => simp [Forward.openingReplies, hlaw.opening r k msg hr hph]
        | accept =>
          -- only the task itself polls an `accept`
          have hstage := hlaw.accepting r k _ hr hph
          rcases act_of_writing hs hph with rfl | rfl
          · exact absurd rfl (hnot hstage).1
          · exact absurd rfl (hnot hstage).2
      | pollWriting hph hphase => rfl
      | op hph hpoll _ => simp [SockEvent.isPoll] at hpoll
    | _ => rfl

/-- The `accept` of the task is where it was, in the same phase and with the same message. -/
theorem backend (h : OtherStep s b e) {r : Nat} {k : Sock} {msg : Option AdbMessage}
    (hstage : s.stage = .accepting r) (hr : s.host.backends[r]? = some k)
    (hph : k.phase = .writing .accept msg) :
    ∃ k', b.backends[r]? = some k' ∧ k'.localId = k.localId ∧ k'.phase = k.phase := by
  cases h with
  | opened hb =>
    refine ⟨k, ?_, rfl, rfl⟩
    rw [hb]
    exact (List.getElem?_append_left (List.getElem?_eq_some_iff.mp hr).1).trans hr
  | @sock r' k₁ act n hr₁ hs hnot hb =>
    have hne : r' ≠ r := by
      rintro rfl
      obtain rfl : k₁ = k := Option.some.inj (hr₁.symm.trans hr)
      rcases act_of_writing hs hph with rfl | rfl
      · exact (hnot hstage).1 rfl
      · exact (hnot hstage).2 rfl
    refine ⟨k, ?_, rfl, rfl⟩
    rw [hb]
    exact (List.getElem?_set_ne hne).trans hr
  | @handled r' k₁ state msg' hr₁ hbackends _ _ _ =>
    rw [hbackends]
    by_cases heq : r' = r
    · subst heq
      obtain rfl : k₁ = k := Option.some.inj (hr₁.symm.trans hr)
      exact ⟨_, getElem?_set_of_some hr _, rfl, rfl⟩
    · exact ⟨k, (List.getElem?_set_ne heq).trans hr, rfl, rfl⟩
  | writer _ _ _ _ _ hbackends _ _ | rest _ hbackends _ _ _ =>
    rw [hbackends]
    exact ⟨k, hr, rfl, rfl⟩

/-- The `close` of the task is where it was. -/
theorem writer_kept (h : OtherStep s b e) {i : Nat} {w : Writer} (hstage : s.stage = .closing i)
    (hi : s.host.writers[i]? = some w) : b.writers[i]? = some w := by
  cases h with
  | opened hb =>
    rw [hb]
    exact hi
  | sock hr hs hnot hb =>
    rw [hb]
    exact afterSock_writers.1 hi
  | @writer j w₁ w' o sent _ _ hnot hwriters _ _ _ _ =>
    rw [hwriters, List.getElem?_set_ne (by rintro rfl; exact hnot hstage)]
    exact hi
  | handled _ _ hwriters _ _ | rest _ _ hwriters _ _ =>
    rw [hwriters]
    exact hi

end OtherStep

/-! ## The task -/

/-- Where the handling of the `k`-th `OPEN` stands, and what was submitted for it. -/
inductive Progress (tr : List AcceptEvent) (b : TransportBackend) (k : Nat) (p : PendingSocket) :
    AcceptStage → Prop
  | handling (hnone : replies k tr = []) : Progress tr b k p .handling
  | connecting {port : UInt16} (hnone : replies k tr = []) (hpermitted : Permitted tr k p port) :
      Progress tr b k p (.connecting port)
  | connected {port : UInt16} (hnone : replies k tr = []) (hpermitted : Permitted tr k p port)
      (hconnected : .connected k port ∈ tr) : Progress tr b k p (.connected port)
  | failed (hnone : replies k tr = []) : Progress tr b k p .failed
  | accepting {r : Nat} {sock : Sock} (hr : b.backends[r]? = some sock)
      (hreply : Reply tr k p (acceptMessage p.remoteId sock.localId))
      (hmsg : (sock.phase = .writing .accept (some (acceptMessage p.remoteId sock.localId)) ∧
          replies k tr = []) ∨
        (sock.phase = .writing .accept none ∧
          replies k tr = [acceptMessage p.remoteId sock.localId])) :
      Progress tr b k p (.accepting r)
  | closing {i : Nat} {w : Writer} (hi : b.writers[i]? = some w) (howner : w.owner = none)
      (hdone : w.done = false)
      (hmsg : (w.msg = some (refuseMessage p.remoteId) ∧ replies k tr = []) ∨
        (w.msg = none ∧ replies k tr = [refuseMessage p.remoteId])) :
      Progress tr b k p (.closing i)

/-- At most one reply, of the right form. -/
def Answered (tr : List AcceptEvent) (k : Nat) (p : PendingSocket) : Prop :=
  replies k tr = [] ∨ ∃ msg, replies k tr = [msg] ∧ Reply tr k p msg

/-- A socket that is being handled has been answered at most once. -/
theorem Progress.answered {tr : List AcceptEvent} {b : TransportBackend} {k : Nat}
    {p : PendingSocket} {stage : AcceptStage} (h : Progress tr b k p stage) : Answered tr k p := by
  cases h with
  | handling hnone | connecting hnone | connected hnone | failed hnone => exact .inl hnone
  | accepting _ hreply hmsg => exact hmsg.imp (fun h => h.2) fun h => ⟨_, h.2, hreply⟩
  | closing _ _ _ hmsg => exact hmsg.imp (fun h => h.2) fun h => ⟨_, h.2, .refused⟩

section Trace

variable {tr : List AcceptEvent} {e : AcceptEvent} {k : Nat} {p : PendingSocket} {port : UInt16}

theorem opens_snoc : opens (tr ++ [e]) = opens tr ++ e.open?.toList := by
  rw [opens, List.filterMap_append]
  cases h : e.open? with
  | none => simp [opens, h]
  | some p => simp [opens, h]

theorem replies_snoc : replies k (tr ++ [e]) = replies k tr ++ e.sentTo k := by
  simp [replies]

/-- A check that was passed stays passed. -/
theorem Permitted.snoc (h : Permitted tr k p port) : Permitted (tr ++ [e]) k p port := by
  obtain ⟨hparse, forwards, x, hmem, hlookup⟩ := h
  exact ⟨hparse, forwards, x, List.mem_append_left _ hmem, hlookup⟩

/-- A reply that was permitted stays so. -/
theorem Reply.snoc {msg : AdbMessage} (h : Reply tr k p msg) : Reply (tr ++ [e]) k p msg := by
  cases h with
  | refused => exact .refused
  | accepted hpermitted hconnected hid =>
    exact .accepted hpermitted.snoc (List.mem_append_left _ hconnected) (List.mem_append_left _ hid)

/-- An event that sends nothing for the socket leaves its answer as it is. -/
theorem Answered.snoc (h : Answered tr k p) (he : e.sentTo k = []) : Answered (tr ++ [e]) k p := by
  unfold Answered
  rw [replies_snoc, he, List.append_nil]
  exact h.imp id fun ⟨msg, hmsg, hreply⟩ => ⟨msg, hmsg, hreply.snoc⟩

/-- The other tasks do not disturb the handling: they neither reply to the `OPEN` nor touch the
socket or the writer that is to reply. -/
theorem Progress.snoc {b b' : TransportBackend} {stage : AcceptStage} (h : Progress tr b k p stage)
    (he : e.sentTo k = [])
    (hbackend : ∀ (r : Nat) (sock : Sock) (msg : Option AdbMessage), stage = .accepting r →
      b.backends[r]? = some sock → sock.phase = .writing .accept msg →
        ∃ sock', b'.backends[r]? = some sock' ∧ sock'.localId = sock.localId ∧
          sock'.phase = sock.phase)
    (hwriter : ∀ (i : Nat) (w : Writer), stage = .closing i → b.writers[i]? = some w →
      b'.writers[i]? = some w) :
    Progress (tr ++ [e]) b' k p stage := by
  have hsame : replies k (tr ++ [e]) = replies k tr := by rw [replies_snoc, he, List.append_nil]
  cases h with
  | handling hnone => exact .handling (hsame.trans hnone)
  | connecting hnone hpermitted => exact .connecting (hsame.trans hnone) hpermitted.snoc
  | connected hnone hpermitted hconnected =>
    exact .connected (hsame.trans hnone) hpermitted.snoc (List.mem_append_left _ hconnected)
  | failed hnone => exact .failed (hsame.trans hnone)
  | @accepting r sock hr hreply hmsg =>
    have hph : ∃ msg, sock.phase = .writing .accept msg :=
      hmsg.elim (fun h => ⟨_, h.1⟩) fun h => ⟨_, h.1⟩
    obtain ⟨msg, hph⟩ := hph
    obtain ⟨sock', hr', hid, hph'⟩ := hbackend r sock msg rfl hr hph
    refine .accepting hr' (hid ▸ hreply.snoc) ?_
    rw [hsame, hph', hid]
    exact hmsg
  | closing hi howner hdone hmsg =>
    refine .closing (hwriter _ _ rfl hi) howner hdone ?_
    rw [hsame]
    exact hmsg

end Trace

/-- The number of pending sockets that were taken out of the channel and consumed. -/
def AcceptSt.taken (s : AcceptSt) : Nat :=
  match s.stage with
  | .accepting _ | .closing _ => s.count + 1
  | _ => s.count

/-- `past`: every `OPEN` that was handled was answered, unless the transport failed. `later`: those
that were not handled yet were not. -/
structure AcceptInv (tr : List AcceptEvent) (s : AcceptSt) : Prop where
  law : ReplyLaw s.stage s.host
  connection : s.host.shared.error = none → s.host.shared.connection.isSome
  queue : s.host.pending = (opens tr).drop s.taken
  current : s.stage ≠ .waiting →
    ∃ p, (opens tr)[s.count]? = some p ∧ Progress tr s.host s.count p s.stage
  past : ∀ k < s.count, ∃ p, (opens tr)[k]? = some p ∧ Answered tr k p ∧
    (s.host.shared.error = none → replies k tr ≠ [])
  later : ∀ k, (s.stage = .waiting ∧ s.count = k) ∨ s.count < k → replies k tr = []
  attempts : ∀ (k : Nat) (forwards : ReverseForwards) (port : UInt16),
    .connecting k forwards port ∈ tr →
      ∃ p, (opens tr)[k]? = some p ∧ handleSocket forwards p.service = .ok port
  returned : ∀ k, Returned tr k → k < s.count
  others : ∀ e, .host e ∈ tr → openingReplies e = []

namespace AcceptInv

variable {tr : List AcceptEvent} {s s' : AcceptSt} {e : AcceptEvent}

theorem new (connection : UsbConnection) (forwards : ReverseForwards) :
    AcceptInv [] (AcceptSt.new connection forwards) where
  law := ReplyLaw.new connection
  connection := fun _ => rfl
  queue := rfl
  current := by simp [AcceptSt.new]
  past := by simp [AcceptSt.new]
  later := fun _ _ => rfl
  attempts := by simp
  returned := by simp [Returned]
  others := by simp

theorem getElem?_opens_snoc {k : Nat} {p : PendingSocket} (h : (opens tr)[k]? = some p) :
    (opens (tr ++ [e]))[k]? = some p := by
  rw [opens_snoc, List.getElem?_append_left (List.getElem?_eq_some_iff.mp h).1]
  exact h

/-- The sockets that were handled before stay answered, whatever is sent for the current one. -/
theorem past_snoc (h : AcceptInv tr s) (hsent : ∀ k, k ≠ s.count → e.sentTo k = [])
    (herr : s'.host.shared.error = none → s.host.shared.error = none) :
    ∀ k < s.count, ∃ p, (opens (tr ++ [e]))[k]? = some p ∧ Answered (tr ++ [e]) k p ∧
      (s'.host.shared.error = none → replies k (tr ++ [e]) ≠ []) := by
  intro k hk
  obtain ⟨p, hp, hanswered, hreply⟩ := h.past k hk
  have he := hsent k (Nat.ne_of_lt hk)
  refine ⟨p, getElem?_opens_snoc hp, hanswered.snoc he, fun hnone => ?_⟩
  rw [replies_snoc, he, List.append_nil]
  exact hreply (herr hnone)

/-- Every connection that was tried was permitted, if the last one was. -/
theorem attempts_snoc (h : AcceptInv tr s)
    (hattempt : ∀ (k : Nat) (forwards : ReverseForwards) (port : UInt16),
      e = .connecting k forwards port →
        ∃ p, (opens tr)[k]? = some p ∧ handleSocket forwards p.service = .ok port) :
    ∀ (k : Nat) (forwards : ReverseForwards) (port : UInt16),
      .connecting k forwards port ∈ tr ++ [e] →
        ∃ p, (opens (tr ++ [e]))[k]? = some p ∧ handleSocket forwards p.service = .ok port := by
  intro k forwards port hmem
  have hold : ∃ p, (opens tr)[k]? = some p ∧ handleSocket forwards p.service = .ok port := by
    rcases List.mem_append.mp hmem with hmem | hmem
    · exact h.attempts k forwards port hmem
    · exact hattempt k forwards port (List.mem_singleton.mp hmem).symm
  obtain ⟨p, hp, hok⟩ := hold
  exact ⟨p, getElem?_opens_snoc hp, hok⟩

theorem others_snoc (h : AcceptInv tr s) (hother : ∀ e', e = .host e' → openingReplies e' = []) :
    ∀ e', .host e' ∈ tr ++ [e] → openingReplies e' = [] := by
  intro e' hmem
  rcases List.mem_append.mp hmem with hmem | hmem
  · exact h.others e' hmem
  · exact hother e' (List.mem_singleton.mp hmem).symm

/-- A step inside the handling of one `OPEN`, or outside of all. -/
theorem next (h : AcceptInv tr s) (hcount : s'.count = s.count)
    (hstage : s'.stage = .waiting → s.stage = .waiting) (hlaw : ReplyLaw s'.stage s'.host)
    (hnext : ∃ sent, s.host.shared.Next s'.host.shared sent)
    (hqueue : s'.host.pending = (opens (tr ++ [e])).drop s'.taken)
    (hcurrent : s'.stage ≠ .waiting → ∃ p, (opens (tr ++ [e]))[s.count]? = some p ∧
      Progress (tr ++ [e]) s'.host s.count p s'.stage)
    (hsent : ∀ k, s.stage = .waiting ∨ k ≠ s.count → e.sentTo k = [])
    (hattempt : ∀ (k : Nat) (forwards : ReverseForwards) (port : UInt16),
      e = .connecting k forwards port →
        ∃ p, (opens tr)[k]? = some p ∧ handleSocket forwards p.service = .ok port)
    (hreturned : ∀ k sent, e ≠ .polled k sent true)
    (hother : ∀ e', e = .host e' → openingReplies e' = []) : AcceptInv (tr ++ [e]) s' := by
  obtain ⟨sent, hnext⟩ := hnext
  refine ⟨hlaw, fun hnone => ?_, hqueue, ?_, ?_, fun k hk => ?_, h.attempts_snoc hattempt, ?_,
    h.others_snoc hother⟩
  · exact hnext.connection hnone (h.connection (hnext.error hnone))
  · rw [hcount]
    exact hcurrent
  · rw [hcount]
    exact h.past_snoc (fun k hk => hsent k (.inr hk)) hnext.error
  · rw [hcount] at hk
    rw [replies_snoc]
    rcases hk with ⟨hwaiting, rfl⟩ | hlt
    · rw [h.later _ (.inl ⟨hstage hwaiting, rfl⟩), hsent _ (.inl (hstage hwaiting))]
      rfl
    · rw [h.later k (.inr hlt), hsent k (.inr (Nat.ne_of_gt hlt))]
      rfl
  · rintro k ⟨sent', hmem⟩
    rw [hcount]
    rcases List.mem_append.mp hmem with hmem | hmem
    · exact h.returned k ⟨sent', hmem⟩
    · exact absurd (List.mem_singleton.mp hmem).symm (hreturned k sent')

/-- `handle_socket` returns: the `OPEN` belongs to the past now, and the next one in the queue, if
there is one, becomes the current one. -/
theorem done (h : AcceptInv tr s) {p : PendingSocket} {sent : List AdbMessage}
    (hp : (opens tr)[s.count]? = some p) (hcount : s'.count = s.count + 1)
    (hstage : s'.stage = .waiting) (hlaw : ReplyLaw .waiting s'.host)
    (hnext : ∃ sent, s.host.shared.Next s'.host.shared sent)
    (hqueue : s'.host.pending = (opens tr).drop (s.count + 1))
    (hanswered : Answered (tr ++ [.polled s.count sent true]) s.count p)
    (hreply : s'.host.shared.error = none →
      replies s.count (tr ++ [.polled s.count sent true]) ≠ []) :
    AcceptInv (tr ++ [.polled s.count sent true]) s' := by
  obtain ⟨_, hnext⟩ := hnext
  have hsent : ∀ k, k ≠ s.count → (AcceptEvent.polled s.count sent true).sentTo k = [] :=
    fun k hk => if_neg (Ne.symm hk)
  refine ⟨hstage ▸ hlaw, fun hnone => ?_, ?_, fun hne => absurd hstage hne, fun k hk => ?_,
    fun k hk => ?_, h.attempts_snoc (by simp), ?_, h.others_snoc (by simp)⟩
  · exact hnext.connection hnone (h.connection (hnext.error hnone))
  · rw [hqueue, opens_snoc, AcceptSt.taken, hstage, hcount]
    simp [AcceptEvent.open?]
  · -- one more `OPEN` belongs to the past: the one that was current
    rcases Nat.lt_succ_iff_lt_or_eq.mp (hcount ▸ hk) with hlt | rfl
    · exact h.past_snoc hsent hnext.error k hlt
    · exact ⟨p, getElem?_opens_snoc hp, hanswered, hreply⟩
  · have hlt : s.count < k := by omega
    rw [replies_snoc, h.later k (.inr hlt), hsent k (Nat.ne_of_gt hlt)]
    rfl
  · rintro k ⟨sent', hmem⟩
    rcases List.mem_append.mp hmem with hmem | hmem
    · have := h.returned k ⟨sent', hmem⟩
      omega
    · obtain ⟨rfl, -, -⟩ : k = s.count ∧ sent' = sent ∧ true = true := by simpa using hmem
      omega

/-- The reader task appends to the channel, behind every `OPEN` that the task has taken or has yet
to take. -/
theorem receive (h : AcceptInv tr s) {msg : AdbMessage} {b : TransportBackend} {ev : HostEvent}
    (hopen : msg.header.command = .OPEN)
    (hs : hostMachine.step s.host (.dispatch msg) = some (b, ev)) :
    AcceptInv (tr ++ [.received msg]) { s with host := b } := by
  have hb : b = s.host.handleOpen msg := by
    simp only [hostMachine, TransportBackend.step, TransportBackend.dispatch, hopen] at hs
    split at hs
    · exact absurd hs (by simp)
    · cases hs
      rfl
  -- a payload that is no UTF-8 closes the transport, and otherwise the `OPEN` is queued
  have hkept : b.inbound = s.host.inbound ∧ b.backends = s.host.backends ∧
      b.writers = s.host.writers ∧
      b.pending = s.host.pending ++ (AcceptEvent.received msg).open?.toList := by
    rw [hb, handleOpen_eq, AcceptEvent.open?]
    cases pendingSocket msg with
    | none => simp [TransportBackend.fail]
    | some p => simp [h.law.inbound]
  obtain ⟨hinbound, hbackends, hwriters, hpending⟩ := hkept
  refine h.next rfl id (h.law.congr hinbound hbackends hwriters) ⟨_, (hostStep_of_step hs).next⟩ ?_
    (fun hne => ?_) (fun _ _ => rfl) (by simp) (by simp) (by simp)
  · have hle : s.taken ≤ (opens tr).length := by
      unfold AcceptSt.taken
      split <;> rename_i hstage
      · obtain ⟨p, hp, -⟩ := h.current (by simp [hstage])
        exact (List.getElem?_eq_some_iff.mp hp).1
      · obtain ⟨p, hp, -⟩ := h.current (by simp [hstage])
        exact (List.getElem?_eq_some_iff.mp hp).1
      · -- the last `OPEN` that was handled was received
        cases hcount : s.count with
        | zero => exact Nat.zero_le _
        | succ n =>
          obtain ⟨p, hp, -⟩ := h.past n (by omega)
          exact (List.getElem?_eq_some_iff.mp hp).1
    change b.pending = (opens (tr ++ [.received msg])).drop s.taken
    rw [hpending, h.queue, opens_snoc, List.drop_append_of_le_length hle]
  · obtain ⟨p, hp, hprogress⟩ := h.current hne
    refine ⟨p, getElem?_opens_snoc hp, hprogress.snoc rfl (fun r sock m _ hr _ => ?_) ?_⟩
    · exact ⟨sock, by rw [hbackends]; exact hr, rfl, rfl⟩
    · rw [hwriters]
      exact fun i w _ hi => hi

/-- A step of the transport by itself. It may fail, which only ends the obligation to answer. -/
theorem other (h : AcceptInv tr s) {a : HostAct} {b : TransportBackend} {ev : HostEvent}
    (hp : s.permits a = true) (hs : hostMachine.step s.host a = some (b, ev)) :
    AcceptInv (tr ++ [.host ev]) { s with host := b } := by
  have hother := otherStep_of_step hp hs
  refine h.next rfl id (hother.replyLaw h.law) ⟨_, (hostStep_of_step hs).next⟩ ?_ (fun hne => ?_)
    (fun _ _ => rfl) (by simp) (by simp) ?_
  · change b.pending = (opens (tr ++ [.host ev])).drop s.taken
    rw [opens_snoc]
    simpa [AcceptEvent.open?, hother.pending] using h.queue
  · obtain ⟨p, hp, hprogress⟩ := h.current hne
    exact ⟨p, getElem?_opens_snoc hp, hprogress.snoc rfl (fun _ _ _ => hother.backend)
      fun _ _ => hother.writer_kept⟩
  · rintro e' ⟨⟩
    exact hother.openingReplies h.law

/-- The task goes on without touching the transport. -/
theorem stage (h : AcceptInv tr s) {st : AcceptStage} (hne : st ≠ .waiting)
    (hlaw : ReplyLaw st s.host) (htaken : ({ s with stage := st } : AcceptSt).taken = s.taken)
    (hopen : e.open? = none) (hsent : ∀ k, e.sentTo k = [])
    (hprogress : ∃ p, (opens tr)[s.count]? = some p ∧ Progress (tr ++ [e]) s.host s.count p st)
    (hattempt : ∀ (k : Nat) (forwards : ReverseForwards) (port : UInt16),
      e = .connecting k forwards port →
        ∃ p, (opens tr)[k]? = some p ∧ handleSocket forwards p.service = .ok port)
    (hreturned : ∀ k sent, e ≠ .polled k sent true) (hother : ∀ e', e ≠ .host e') :
    AcceptInv (tr ++ [e]) { s with stage := st } := by
  refine h.next rfl (fun h => absurd h hne) hlaw ⟨_, .refl _⟩ ?_ (fun _ => ?_) (fun k _ => hsent k)
    hattempt hreturned fun e' he => absurd he (hother e')
  · rw [opens_snoc, hopen, htaken]
    simpa using h.queue
  · obtain ⟨p, hp, hprogress⟩ := hprogress
    exact ⟨p, getElem?_opens_snoc hp, hprogress⟩

/-- The task neither accepts nor closes, before and after. -/
theorem replyLaw_of_stage (h : ReplyLaw s.stage s.host) {st : AcceptStage}
    (haccepting : ∀ r, s.stage ≠ .accepting r) (hclosing : ∀ i, s.stage ≠ .closing i) :
    ReplyLaw st s.host where
  inbound := h.inbound
  opening := h.opening
  accepting r k msg hr hph := absurd (h.accepting r k msg hr hph) (haccepting r)
  closing i w hi howner hdone := absurd (h.closing i w hi howner hdone) (hclosing i)

/-- The socket being handled is at the head of the channel. -/
theorem head (h : AcceptInv tr s) (htaken : s.taken = s.count) {p : PendingSocket}
    {rest : List PendingSocket} (hpending : s.host.pending = p :: rest) :
    (opens tr)[s.count]? = some p := by
  have hhead : ((opens tr).drop s.count)[0]? = some p := by
    rw [← htaken, ← h.queue, hpending]
    rfl
  rw [List.getElem?_drop] at hhead
  exact hhead

/-- `accept_sockets_task` takes the next socket out of the channel. -/
theorem take (h : AcceptInv tr s) {p : PendingSocket} {rest : List PendingSocket}
    (hstage : s.stage = .waiting) (hpending : s.host.pending = p :: rest) :
    AcceptInv (tr ++ [.internal]) { s with stage := .handling } := by
  have htaken : s.taken = s.count := by simp [AcceptSt.taken, hstage]
  refine h.stage (by simp) (replyLaw_of_stage h.law (by simp [hstage]) (by simp [hstage]))
    htaken.symm rfl (fun _ => rfl) ⟨p, h.head htaken hpending, .handling ?_⟩ (by simp) (by simp)
    (by simp)
  rw [replies_snoc, h.later _ (.inl ⟨hstage, rfl⟩)]
  rfl

/-- The service is checked against the table as it is now: it names a permitted port, or the task
goes on to refuse it. -/
theorem check (h : AcceptInv tr s) {p : PendingSocket} {rest : List PendingSocket}
    (hstage : s.stage = .handling) (hpending : s.host.pending = p :: rest) :
    (∀ port, handleSocket s.forwards p.service = .ok port →
      AcceptInv (tr ++ [.connecting s.count s.forwards port])
        { s with stage := .connecting port }) ∧
    AcceptInv (tr ++ [.internal]) { s with stage := .failed } := by
  have htaken : s.taken = s.count := by simp [AcceptSt.taken, hstage]
  have hp := h.head htaken hpending
  obtain ⟨p', hp', hprogress⟩ := h.current (by simp [hstage])
  obtain rfl : p = p' := Option.some.inj (hp.symm.trans hp')
  have hnone : replies s.count tr = [] := by
    rw [hstage] at hprogress
    cases hprogress with
    | handling hnone => exact hnone
  have hlaw : ∀ {st}, ReplyLaw st s.host :=
    replyLaw_of_stage h.law (by simp [hstage]) (by simp [hstage])
  refine ⟨fun port hok => ?_, ?_⟩
  · -- the service names a forwarded port, and the loop connects to it
    obtain ⟨hparse, x, hx⟩ := handleSocket_eq_ok.mp hok
    refine h.stage (by simp) hlaw htaken.symm rfl (fun _ => rfl) ⟨p, hp, .connecting ?_ ?_⟩ ?_
      (by simp) (by simp)
    · rw [replies_snoc, hnone]
      rfl
    · exact ⟨hparse, s.forwards, x, by simp, hx⟩
    · rintro k forwards port' ⟨⟩
      exact ⟨p, hp, hok⟩
  · refine h.stage (by simp) hlaw htaken.symm rfl (fun _ => rfl) ⟨p, hp, .failed ?_⟩ (by simp)
      (by simp) (by simp)
    rw [replies_snoc, hnone]
    rfl

/-- The connection to the local port is made. -/
theorem connect (h : AcceptInv tr s) {port : UInt16} (hstage : s.stage = .connecting port) :
    AcceptInv (tr ++ [.connected s.count port]) { s with stage := .connected port } ∧
    AcceptInv (tr ++ [.internal]) { s with stage := .failed } := by
  have htaken : s.taken = s.count := by simp [AcceptSt.taken, hstage]
  obtain ⟨p, hp, hprogress⟩ := h.current (by simp [hstage])
  rw [hstage] at hprogress
  have hlaw : ∀ {st}, ReplyLaw st s.host :=
    replyLaw_of_stage h.law (by simp [hstage]) (by simp [hstage])
  cases hprogress with
  | connecting hnone hpermitted =>
    refine ⟨?_, ?_⟩
    · refine h.stage (by simp) hlaw htaken.symm rfl (fun _ => rfl)
        ⟨p, hp, .connected ?_ hpermitted.snoc (by simp)⟩ (by simp) (by simp) (by simp)
      rw [replies_snoc, hnone]
      rfl
    · refine h.stage (by simp) hlaw htaken.symm rfl (fun _ => rfl) ⟨p, hp, .failed ?_⟩ (by simp)
        (by simp) (by simp)
      rw [replies_snoc, hnone]
      rfl

/-- `accept` takes the socket out of the channel and the next local id. -/
theorem accept (h : AcceptInv tr s) {port : UInt16} {b : TransportBackend} {ev : HostEvent}
    (hstage : s.stage = .connected port)
    (hs : hostMachine.step s.host (.accept 0) = some (b, ev)) :
    AcceptInv (tr ++ [.accepting s.count s.host.lastId])
      { s with host := b, stage := .accepting s.host.backends.length } := by
  have htaken : s.taken = s.count := by simp [AcceptSt.taken, hstage]
  obtain ⟨p, hp, hprogress⟩ := h.current (by simp [hstage])
  rw [hstage] at hprogress
  have hnext := (hostStep_of_step hs).next
  simp only [hostMachine, TransportBackend.step] at hs
  split at hs
  · exact absurd hs (by simp)
  · rename_i p' hp'
    rw [h.queue, htaken, List.getElem?_drop] at hp'
    obtain rfl : p = p' := Option.some.inj (hp.symm.trans hp')
    simp only [Option.some.injEq, Prod.mk.injEq] at hs
    obtain ⟨rfl, -⟩ := hs
    cases hprogress with
    | connected hnone hpermitted hconnected =>
      refine h.next rfl (by simp) ?_ ⟨_, hnext⟩ ?_ (fun _ => ?_) (fun _ _ => rfl) (by simp) (by simp)
        (by simp)
      · have hlaw : ReplyLaw s.stage { s.host with pending := s.host.pending.eraseIdx 0 } :=
          h.law.congr rfl rfl rfl
        exact hlaw.create (by simp) (fun _ => rfl) (by simp [hstage]) (by simp [hstage])
      · change s.host.pending.eraseIdx 0 = (opens (tr ++ [_])).drop (s.count + 1)
        rw [opens_snoc, h.queue, htaken, List.eraseIdx_zero, List.tail_drop]
        simp [AcceptEvent.open?]
      · refine ⟨p, getElem?_opens_snoc hp, .accepting (List.getElem?_concat_length ..) ?_ ?_⟩
        · exact .accepted hpermitted.snoc (List.mem_append_left _ hconnected) (by simp)
        · refine .inl ⟨rfl, ?_⟩
          rw [replies_snoc, hnone]
          rfl

/-- The socket is refused: its `CLSE` is left to a spawned writer. -/
theorem close (h : AcceptInv tr s) {b : TransportBackend} {ev : HostEvent}
    (hstage : s.stage = .failed) (hs : hostMachine.step s.host (.refuse 0) = some (b, ev)) :
    AcceptInv (tr ++ [.internal]) { s with host := b, stage := .closing s.host.writers.length } := by
  have htaken : s.taken = s.count := by simp [AcceptSt.taken, hstage]
  obtain ⟨p, hp, hprogress⟩ := h.current (by simp [hstage])
  rw [hstage] at hprogress
  have hnext := (hostStep_of_step hs).next
  simp only [hostMachine, TransportBackend.step] at hs
  split at hs
  · exact absurd hs (by simp)
  · rename_i p' hp'
    rw [h.queue, htaken, List.getElem?_drop] at hp'
    obtain rfl : p = p' := Option.some.inj (hp.symm.trans hp')
    simp only [Option.some.injEq, Prod.mk.injEq] at hs
    obtain ⟨rfl, -⟩ := hs
    cases hprogress with
    | failed hnone =>
      refine h.next rfl (by simp) ⟨h.law.inbound, h.law.opening, ?_, ?_⟩ ⟨_, hnext⟩ ?_ (fun _ => ?_)
        (fun _ _ => rfl) (by simp) (by simp) (by simp)
      · intro r k msg hr hph
        exact absurd (h.law.accepting r k msg hr hph) (by simp [hstage])
      · intro i w hi howner hdone
        have hi' : (s.host.writers ++ [⟨none, some (refuseMessage p.remoteId), false⟩])[i]? = some w :=
          hi
        rw [List.getElem?_append] at hi'
        split at hi'
        · -- an older writer of this kind would mean that the loop were closing already
          exact absurd (h.law.closing i w hi' howner hdone) (by simp [hstage])
        · rename_i hlt
          obtain ⟨hlen, -⟩ := List.getElem?_eq_some_iff.mp hi'
          simp only [List.length_singleton] at hlen
          -- the writer that `refuse` has just spawned
          have hlast : i = s.host.writers.length := by omega
          rw [hlast]
      · change s.host.pending.eraseIdx 0 = (opens (tr ++ [_])).drop (s.count + 1)
        rw [opens_snoc, h.queue, htaken, List.eraseIdx_zero, List.tail_drop]
        simp [AcceptEvent.open?]
      · refine ⟨p, getElem?_opens_snoc hp, .closing (List.getElem?_concat_length ..) rfl rfl ?_⟩
        refine .inl ⟨rfl, ?_⟩
        rw [replies_snoc, hnone]
        rfl

/-- A poll of `write_message_async` with the reply: either the reply is still to be written, or it is
the one message submitted. Without an error the future ends in the second way. -/
theorem write_reply {msg : Option AdbMessage} {m : AdbMessage} {l : List AdbMessage} (sh : Shared)
    (hmsg : (msg = some m ∧ l = []) ∨ (msg = none ∧ l = [m])) :
    (((writeMessageAsync msg sh).msg = some m ∧ l ++ (writeMessageAsync msg sh).sent = []) ∨
      ((writeMessageAsync msg sh).msg = none ∧ l ++ (writeMessageAsync msg sh).sent = [m])) ∧
    (sh.connection.isSome → (writeMessageAsync msg sh).shared.error = none →
      (writeMessageAsync msg sh).outcome ≠ .pending →
        l ++ (writeMessageAsync msg sh).sent ≠ []) := by
  obtain ⟨-, -, hcase⟩ := writeMessageAsync_spec msg sh
  rcases hmsg with ⟨rfl, rfl⟩ | ⟨rfl, rfl⟩
  · refine ⟨?_, fun hconn herr hdone => ?_⟩
    · rcases hcase with ⟨hkept, hsent, -⟩ | ⟨m', hm, hkept, hsent⟩
      · exact .inl ⟨hkept, hsent⟩
      · obtain rfl := Option.some.inj hm
        exact .inr ⟨hkept, hsent⟩
    · rcases writeMessageAsync_kept hconn herr with hmem | ⟨-, hpending⟩
      · exact List.ne_nil_of_mem hmem
      · exact absurd hpending hdone
  · rcases hcase with ⟨hkept, hsent, -⟩ | ⟨m', hm, -⟩
    · exact ⟨.inr ⟨hkept, by rw [hsent]; rfl⟩, by simp⟩
    · exact absurd hm (by simp)

/-- One poll of the last future of `handle_socket`, with the reply that it writes. -/
theorem poll (h : AcceptInv tr s) {p : PendingSocket} {reply : AdbMessage} {b : TransportBackend}
    {msg : Option AdbMessage} (hne : s.stage ≠ .waiting) (htaken : s.taken = s.count + 1)
    (hp : (opens tr)[s.count]? = some p)
    (hnext : ∃ sent, s.host.shared.Next b.shared sent)
    (hpending : b.pending = s.host.pending)
    (hshared : b.shared = (writeMessageAsync msg s.host.shared).shared)
    (hreply : Reply tr s.count p reply)
    (hmsg : (msg = some reply ∧ replies s.count tr = []) ∨
      (msg = none ∧ replies s.count tr = [reply]))
    (hlaw : ∀ st, ((writeMessageAsync msg s.host.shared).outcome = .pending ∧ st = s.stage) ∨
      ((writeMessageAsync msg s.host.shared).outcome ≠ .pending ∧ st = .waiting) →
        ReplyLaw st b)
    (hprogress : (writeMessageAsync msg s.host.shared).outcome = .pending → ∀ e,
      replies s.count (tr ++ [e]) =
        replies s.count tr ++ (writeMessageAsync msg s.host.shared).sent →
      (∀ m, Reply tr s.count p m → Reply (tr ++ [e]) s.count p m) →
        Progress (tr ++ [e]) b s.count p s.stage)
    (hs : s.afterPoll b (writeMessageAsync msg s.host.shared).outcome
      (writeMessageAsync msg s.host.shared).sent = (s', e)) :
    AcceptInv (tr ++ [e]) s' := by
  obtain ⟨hwritten, hended⟩ := write_reply s.host.shared hmsg
  have hqueue : b.pending = (opens tr).drop (s.count + 1) := by rw [hpending, h.queue, htaken]
  unfold AcceptSt.afterPoll at hs
  split at hs
  · rename_i hout
    -- still pending: the same reply goes on being written
    cases hs
    refine h.next rfl id (hlaw _ (.inl ⟨hout, rfl⟩)) hnext ?_ (fun _ => ?_) (fun k hk => ?_) (by simp)
      (by simp) (by simp)
    · change b.pending = (opens (tr ++ [_])).drop s.taken
      rw [opens_snoc, hqueue, htaken]
      simp [AcceptEvent.open?]
    · refine ⟨p, getElem?_opens_snoc hp, hprogress hout _ ?_ fun m hm => hm.snoc⟩
      rw [replies_snoc]
      simp [AcceptEvent.sentTo]
    · exact if_neg (Ne.symm (hk.resolve_left hne))
  · rename_i hout
    -- done, and the loop takes the next `OPEN`
    cases hs
    have hsame : replies s.count (tr ++ [.polled s.count
        (writeMessageAsync msg s.host.shared).sent true]) =
          replies s.count tr ++ (writeMessageAsync msg s.host.shared).sent := by
      rw [replies_snoc]
      simp [AcceptEvent.sentTo]
    refine h.done hp rfl rfl (hlaw _ (.inr ⟨hout, rfl⟩)) hnext hqueue ?_ fun hnone => ?_
    · unfold Answered
      rw [hsame]
      rcases hwritten with ⟨-, hnil⟩ | ⟨-, hone⟩
      · exact .inl hnil
      · exact .inr ⟨reply, hone, hreply.snoc⟩
    · rw [hsame]
      obtain ⟨_, hnext⟩ := hnext
      have herr : b.shared.error = none := hnone
      exact hended (h.connection (hnext.error herr)) (hshared ▸ herr) hout

/-- A poll of `accept`, whose only message is the `OKAY`: it writes it, waits for room, or ends with
the error of the transport. -/
theorem pollAccept (h : AcceptInv tr s) {r : Nat} {b : TransportBackend} {r' : Nat}
    {outcome : Outcome Error Unit} {sent : List AdbMessage} (hstage : s.stage = .accepting r)
    (hs : hostMachine.step s.host (.sock r .poll) = some (b, .sock r' (.polled outcome sent)))
    (hafter : s.afterPoll b outcome sent = (s', e)) : AcceptInv (tr ++ [e]) s' := by
  obtain ⟨p, hp, hprogress⟩ := h.current (by simp [hstage])
  have hnext := (hostStep_of_step hs).next
  rw [hstage] at hprogress
  cases hprogress with
  | @accepting _ sock hr hreply hmsg =>
    obtain ⟨msg, hph⟩ : ∃ msg, sock.phase = .writing .accept msg :=
      hmsg.elim (fun h => ⟨_, h.1⟩) fun h => ⟨_, h.1⟩
    simp only [hostMachine, TransportBackend.step, hr, Sock.step, Sock.poll, hph, Option.some.injEq,
      Prod.mk.injEq, HostEvent.sock.injEq, SockEvent.polled.injEq] at hs
    obtain ⟨rfl, rfl, rfl, rfl⟩ := hs
    -- the three clauses left: what is being written, the law of the new stage, the progress if
    -- it is pending
    refine h.poll (by simp [hstage]) (by simp [AcceptSt.taken, hstage]) hp ⟨_, hnext⟩ rfl rfl hreply ?_
      ?_ ?_ hafter
    · simpa [hph] using hmsg
    · intro st hst
      refine h.law.set_backend hr ?_ ?_ ?_ (by simp [hstage]) rfl rfl fun i w =>
        afterSock_writers.2
      · intro m hm
        simp only at hm
        split at hm
        · simp at hm
        · simp [Call.next] at hm
        · simp at hm
      · intro m hm
        rcases hst with ⟨-, rfl⟩ | ⟨hout, -⟩
        · exact hstage
        · simp only at hm
          split at hm
          · rename_i hpending
            exact absurd hpending hout
          · simp [Call.next] at hm
          · simp at hm
      · intro r' hne heq
        rw [hstage] at heq
        exact absurd (AcceptStage.accepting.inj heq).symm hne
    · intro hout e' hsame hsnoc
      rw [hstage]
      refine .accepting (getElem?_set_of_some hr _) (hsnoc _ hreply) ?_
      simp only [hout, hsame]
      have hmsg' : (msg = some (acceptMessage p.remoteId sock.localId) ∧ replies s.count tr = []) ∨
          (msg = none ∧ replies s.count tr = [acceptMessage p.remoteId sock.localId]) := by
        simpa [hph] using hmsg
      exact (write_reply s.host.shared hmsg').1.imp (fun h => ⟨by rw [h.1], h.2⟩)
        fun h => ⟨by rw [h.1], h.2⟩

/-- A poll of the spawned writer, whose only message is the `CLSE`. -/
theorem pollClose (h : AcceptInv tr s) {i : Nat} {b : TransportBackend} {owner : Option Nat}
    {outcome : Outcome Error Unit} {sent : List AdbMessage} (hstage : s.stage = .closing i)
    (hs : hostMachine.step s.host (.writer i) = some (b, .written owner outcome sent))
    (hafter : s.afterPoll b outcome sent = (s', e)) : AcceptInv (tr ++ [e]) s' := by
  obtain ⟨p, hp, hprogress⟩ := h.current (by simp [hstage])
  have hnext := (hostStep_of_step hs).next
  rw [hstage] at hprogress
  cases hprogress with
  | @closing _ w hi howner hdone hmsg =>
    simp only [hostMachine, TransportBackend.step, hi, hdone, Bool.false_eq_true, if_false,
      Option.some.injEq, Prod.mk.injEq, HostEvent.written.injEq] at hs
    obtain ⟨rfl, -, rfl, rfl⟩ := hs
    refine h.poll (by simp [hstage]) (by simp [AcceptSt.taken, hstage]) hp ⟨_, hnext⟩ rfl rfl .refused
      hmsg ?_ ?_ hafter
    · intro st hst
      refine h.law.set_writer hi ?_ ?_ (by simp [hstage]) rfl rfl rfl
      · intro _ hnot
        rcases hst with ⟨-, rfl⟩ | ⟨hout, -⟩
        · exact hstage
        · simp [hout] at hnot
      · intro j hne heq
        rw [hstage] at heq
        exact absurd (AcceptStage.closing.inj heq).symm hne
    · intro hout e' hsame _
      rw [hstage]
      refine .closing (getElem?_set_of_some hi _) howner (by simp [hout]) ?_
      rw [hsame]
      exact (write_reply s.host.shared hmsg).1

/-- Every step keeps the invariant, each stage of the handling by its own lemma. -/
theorem step (h : AcceptInv tr s) {a : AcceptAct} (hs : acceptMachine.step s a = some (s', e)) :
    AcceptInv (tr ++ [e]) s' := by
  cases a with
  | receive msg =>
    simp only [acceptMachine, AcceptSt.step] at hs
    split at hs
    · rename_i hopen
      split at hs
      · exact absurd hs (by simp)
      · rename_i host ev hhost
        cases hs
        exact h.receive hopen hhost
    · exact absurd hs (by simp)
  | host a =>
    simp only [acceptMachine, AcceptSt.step] at hs
    split at hs
    · rename_i hp
      split at hs
      · exact absurd hs (by simp)
      · rename_i host ev hhost
        cases hs
        exact h.other hp hhost
    · exact absurd hs (by simp)
  | forwards forwards =>
    cases hs
    refine h.next rfl id h.law ⟨_, .refl _⟩ ?_ (fun hne => ?_) (fun _ _ => rfl) (by simp) (by simp)
      (by simp)
    · change s.host.pending = (opens (tr ++ [_])).drop s.taken
      rw [opens_snoc]
      simpa [AcceptEvent.open?] using h.queue
    · obtain ⟨p, hp, hprogress⟩ := h.current hne
      refine ⟨p, getElem?_opens_snoc hp, hprogress.snoc rfl (fun _ sock _ _ hr _ => ?_)
        fun _ _ _ hi => hi⟩
      exact ⟨sock, hr, rfl, rfl⟩
  | take =>
    simp only [acceptMachine, AcceptSt.step] at hs
    split at hs
    · rename_i hstage hpending
      cases hs
      exact h.take hstage hpending
    · exact absurd hs (by simp)
  | check =>
    simp only [acceptMachine, AcceptSt.step] at hs
    split at hs
    · rename_i hstage hpending
      split at hs
      · rename_i port hok
        cases hs
        exact (h.check hstage hpending).1 port hok
      · cases hs
        exact (h.check hstage hpending).2
    · exact absurd hs (by simp)
  | connect success =>
    simp only [acceptMachine, AcceptSt.step] at hs
    split at hs
    · rename_i port hstage
      split at hs
      · cases hs
        exact (h.connect hstage).1
      · cases hs
        exact (h.connect hstage).2
    · exact absurd hs (by simp)
  | accept =>
    simp only [acceptMachine, AcceptSt.step] at hs
    split at hs
    · rename_i port hstage
      split at hs
      · exact absurd hs (by simp)
      · rename_i host ev hhost
        cases hs
        exact h.accept hstage hhost
    · exact absurd hs (by simp)
  | close =>
    simp only [acceptMachine, AcceptSt.step] at hs
    split at hs
    · rename_i hstage
      split at hs
      · exact absurd hs (by simp)
      · rename_i host ev hhost
        cases hs
        exact h.close hstage hhost
    · exact absurd hs (by simp)
  | poll =>
    simp only [acceptMachine, AcceptSt.step] at hs
    split at hs
    · rename_i r hstage
      split at hs
      · rename_i host r' outcome sent hhost
        exact h.pollAccept hstage hhost (Option.some.inj hs)
      · exact absurd hs (by simp)
    · rename_i i hstage
      split at hs
      · rename_i host owner outcome sent hhost
        exact h.pollClose hstage hhost (Option.some.inj hs)
      · exact absurd hs (by simp)
    · exact absurd hs (by simp)

end AcceptInv

/-- Every step leaves the transport alone or is one of the transport. -/
theorem hostStep_of_acceptStep {s s' : AcceptSt} {a : AcceptAct} {e : AcceptEvent}
    (h : acceptMachine.step s a = some (s', e)) :
    s'.host = s.host ∨ ∃ ev, HostStep s.host s'.host ev := by
  have hpoll : ∀ {host : TransportBackend} {outcome : Outcome Error Unit}
      {sent : List AdbMessage} {ev : HostEvent}, HostStep s.host host ev →
      s.afterPoll host outcome sent = (s', e) → ∃ ev, HostStep s.host s'.host ev := by
    intro host outcome sent ev hstep hafter
    unfold AcceptSt.afterPoll at hafter
    split at hafter <;> cases hafter <;> exact ⟨ev, hstep⟩
  simp only [acceptMachine] at h
  cases a with
  | forwards | take | check | connect =>
    -- these do not touch the transport
    simp only [AcceptSt.step] at h
    repeat' split at h
    all_goals first
      | (cases h; exact .inl rfl)
      | cases h
  | receive | host | accept | close =>
    simp only [AcceptSt.step] at h
    repeat' split at h
    all_goals first
      | (rename_i hhost; cases h; exact .inr ⟨_, hostStep_of_step hhost⟩)
      | cases h
  | poll =>
    simp only [AcceptSt.step] at h
    repeat' split at h
    all_goals first
      | (rename_i hhost; exact .inr (hpoll (hostStep_of_step hhost) (Option.some.inj h)))
      | cases h

/-- The ids of the sockets are counted as in any other run of the transport. -/
theorem counterLaw_of_acceptRun {connection : UsbConnection} {forwards : ReverseForwards}
    {tr : List AcceptEvent} {s : AcceptSt}
    (h : acceptMachine.Run (AcceptSt.new connection forwards) tr s) : CounterLaw s.host := by
  induction h with
  | nil => exact counterLaw_new connection
  | snoc _ hs ih =>
    obtain hsame | ⟨ev, hstep⟩ := hostStep_of_acceptStep hs
    · rw [hsame]
      exact ih
    · exact ih.step hstep

/-- The local id of an `accept` is fresh when it is taken. -/
theorem fresh_of_accepting {connection : UsbConnection} {forwards : ReverseForwards}
    {pre post : List AcceptEvent} {s : AcceptSt} {k : Nat} {localId : UInt32}
    (h : acceptMachine.Run (AcceptSt.new connection forwards)
      (pre ++ .accepting k localId :: post) s) :
    ∃ s₀, acceptMachine.Run (AcceptSt.new connection forwards) pre s₀ ∧ Fresh s₀.host localId := by
  obtain ⟨s₀, a, s₁, hpre, hstep, -⟩ := h.split
  refine ⟨s₀, hpre, ?_⟩
  have hid : localId = s₀.host.lastId := by
    simp only [acceptMachine] at hstep
    cases a with
    | accept =>
      simp only [AcceptSt.step] at hstep
      repeat' split at hstep
      all_goals cases hstep
      rfl
    | receive | host | forwards | take | check | connect | close =>
      simp only [AcceptSt.step] at hstep
      repeat' split at hstep
      all_goals cases hstep
    | poll =>
      simp only [AcceptSt.step, AcceptSt.afterPoll] at hstep
      repeat' split at hstep
      all_goals cases hstep
  rw [hid]
  exact (counterLaw_of_acceptRun hpre).fresh

/-- The steps of the task that handles the `OPEN`s. -/
def AcceptAct.own : AcceptAct → Bool
  | .receive _ | .host _ | .forwards _ => false
  | _ => true

/-- The task never gets stuck in `handle_socket`: in each of its stages there is a step of its own
that can be taken. -/
theorem AcceptInv.exists_step {tr : List AcceptEvent} {s : AcceptSt} (h : AcceptInv tr s)
    (hne : s.stage ≠ .waiting) :
    ∃ a, AcceptAct.own a = true ∧ (acceptMachine.step s a).isSome = true := by
  obtain ⟨p, hp, hprogress⟩ := h.current hne
  -- the `OPEN` that the loop is about is the first in the queue
  have hhead : s.taken = s.count → s.host.pending[0]? = some p := by
    intro htaken
    rw [h.queue, htaken, List.getElem?_drop]
    exact hp
  generalize hstage : s.stage = stage at hprogress
  cases hprogress with
  | handling _ =>
    have hpending := hhead (by simp [AcceptSt.taken, hstage])
    rw [← List.head?_eq_getElem?, List.head?_eq_some_iff] at hpending
    obtain ⟨rest, hpending⟩ := hpending
    refine ⟨.check, rfl, ?_⟩
    cases hok : handleSocket s.forwards p.service with
    | ok port => simp [acceptMachine, AcceptSt.step, hstage, hpending, hok]
    | error err => simp [acceptMachine, AcceptSt.step, hstage, hpending, hok]
  | connecting _ _ => exact ⟨.connect true, rfl, by simp [acceptMachine, AcceptSt.step, hstage]⟩
  | connected _ _ _ =>
    have hpending := hhead (by simp [AcceptSt.taken, hstage])
    refine ⟨.accept, rfl, ?_⟩
    simp [acceptMachine, AcceptSt.step, hstage, hostMachine, TransportBackend.step, hpending]
  | failed _ =>
    have hpending := hhead (by simp [AcceptSt.taken, hstage])
    refine ⟨.close, rfl, ?_⟩
    simp [acceptMachine, AcceptSt.step, hstage, hostMachine, TransportBackend.step, hpending]
  | @accepting r sock hr _ hmsg =>
    obtain ⟨msg, hph⟩ : ∃ msg, sock.phase = .writing .accept msg :=
      hmsg.elim (fun h => ⟨_, h.1⟩) fun h => ⟨_, h.1⟩
    refine ⟨.poll, rfl, ?_⟩
    simp [acceptMachine, AcceptSt.step, hstage, hostMachine, TransportBackend.step, hr, Sock.step,
      Sock.poll, hph]
  | @closing i w hi _ hdone _ =>
    refine ⟨.poll, rfl, ?_⟩
    simp [acceptMachine, AcceptSt.step, hstage, hostMachine, TransportBackend.step, hi, hdone]

/-- **Every inbound `OPEN` is answered once, and only permitted ports are reached.** Whatever the
device sends and however the table of reverse forwards changes: `handle_socket` submits at most one
reply to each `OPEN`, and exactly one by the time it has returned if the transport has no error. The
reply is a `CLSE` with local id 0, or an `OKAY` from the local id that `accept` took after the service
named a port that the table permitted and the connection to it succeeded. That id is fresh: it is the
next one of the counter, not 0, and no socket has had it before, as long as the counter has not wrapped.
A connection is attempted only to a port that was permitted, for an `OPEN` that was received; nobody
else submits a reply; and the task always has a next step. -/
theorem inbound_open_answered (connection : UsbConnection) (forwards : ReverseForwards)
    (tr : List AcceptEvent) (s : AcceptSt)
    (hrun : acceptMachine.Run (AcceptSt.new connection forwards) tr s) :
    (∀ k p, (opens tr)[k]? = some p →
      (replies k tr = [] ∨ ∃ msg, replies k tr = [msg] ∧ Reply tr k p msg) ∧
      (Returned tr k → s.host.shared.error = none →
        ∃ msg, replies k tr = [msg] ∧ Reply tr k p msg)) ∧
    (∀ pre k localId post, tr = pre ++ .accepting k localId :: post →
      ∃ s₀, acceptMachine.Run (AcceptSt.new connection forwards) pre s₀ ∧
        Fresh s₀.host localId) ∧
    (∀ k forwards port, .connecting k forwards port ∈ tr →
      ∃ p, (opens tr)[k]? = some p ∧ Proto.parse p.service = .ok (.tcp port) ∧
        ∃ x, forwards.lookup x = some ⟨.tcp port⟩) ∧
    (∀ k, (opens tr)[k]? = none → replies k tr = []) ∧
    (∀ e, .host e ∈ tr → openingReplies e = []) ∧
    (s.stage ≠ .waiting →
      ∃ a, AcceptAct.own a = true ∧ (acceptMachine.step s a).isSome = true) := by
  have h : AcceptInv tr s :=
    hrun.invariant AcceptInv (AcceptInv.new connection forwards) fun _ _ _ _ _ _ h hs => h.step hs
  refine ⟨fun k p hp => ?_, fun pre k localId post htr => fresh_of_accepting (htr ▸ hrun),
    fun k forwards port hmem => ?_, fun k hk => ?_, h.others, h.exists_step⟩
  · have hanswered : Answered tr k p := by
      -- an `OPEN` dealt with, the current one, or one still in the queue
      rcases Nat.lt_trichotomy k s.count with hlt | rfl | hgt
      · obtain ⟨p', hp', hanswered, -⟩ := h.past k hlt
        obtain rfl : p = p' := Option.some.inj (hp.symm.trans hp')
        exact hanswered
      · by_cases hstage : s.stage = .waiting
        · exact .inl (h.later _ (.inl ⟨hstage, rfl⟩))
        · obtain ⟨p', hp', hprogress⟩ := h.current hstage
          obtain rfl : p = p' := Option.some.inj (hp.symm.trans hp')
          exact hprogress.answered
      · exact .inl (h.later k (.inr hgt))
    refine ⟨hanswered, fun hret hnone => ?_⟩
    obtain ⟨p', hp', -, hne⟩ := h.past k (h.returned k hret)
    exact hanswered.resolve_left (hne hnone)
  · obtain ⟨p, hp, hok⟩ := h.attempts k forwards port hmem
    exact ⟨p, hp, handleSocket_eq_ok.mp hok⟩
  · -- only an `OPEN` that was received can be dealt with
    rcases Nat.lt_trichotomy k s.count with hlt | rfl | hgt
    · obtain ⟨p, hp, -⟩ := h.past k hlt
      simp [hk] at hp
    · by_cases hstage : s.stage = .waiting
      · exact h.later _ (.inl ⟨hstage, rfl⟩)
      · obtain ⟨p, hp, -⟩ := h.current hstage
        simp [hk] at hp
    · exact h.later k (.inr hgt)

/-- `handle_socket` returns for the `OPEN` with the number `k`. -/
def AcceptEvent.returns (k : Nat) : AcceptEvent → Bool
  | .polled k' _ returned => decide (k' = k) && returned
  | _ => false

/-- `accept` takes the id `localId` for the `OPEN` with the number `k`. -/
def AcceptEvent.accepts (k : Nat) (localId : UInt32) : AcceptEvent → Bool
  | .accepting k' localId' => decide (k' = k) && decide (localId' = localId)
  | _ => false

/-- A trace with such an event has the acceptance in it. -/
theorem mem_of_accepts {tr : List AcceptEvent} {k : Nat} {localId : UInt32}
    (h : tr.any (AcceptEvent.accepts k localId) = true) : .accepting k localId ∈ tr := by
  obtain ⟨e, he, hacc⟩ := List.any_eq_true.mp h
  cases e with
  | accepting k' localId' =>
    simp only [AcceptEvent.accepts, Bool.and_eq_true, decide_eq_true_eq] at hacc
    obtain ⟨rfl, rfl⟩ := hacc
    exact he
  | _ => cases hacc

/-- A trace with such an event shows that `handle_socket` has returned. -/
theorem returned_of_returns {tr : List AcceptEvent} {k : Nat} {e : AcceptEvent}
    (h : e.returns k = true) (he : e ∈ tr) : Returned tr k := by
  cases e with
  | polled k' sent returned =>
    simp only [AcceptEvent.returns, Bool.and_eq_true, decide_eq_true_eq] at h
    obtain ⟨rfl, rfl⟩ := h
    exact ⟨sent, he⟩
  | _ => simp [AcceptEvent.returns] at h

/-- Another task has opened a stream; a permitted one is accepted under the next id, and the one after
it is refused. -/
theorem inbound_open_answered_two :
    ∃ tr s, acceptMachine.Run
        (AcceptSt.new (.new 512) (AList.singleton (.tcp 9000) ⟨.tcp 80⟩)) tr s ∧
      opens tr = [⟨7, 4096, "tcp:80"⟩, ⟨8, 4096, "tcp:22"⟩] ∧
      (∃ msg, replies 0 tr = [msg] ∧ Reply tr 0 ⟨7, 4096, "tcp:80"⟩ msg) ∧
      replies 0 tr = [acceptMessage 7 2] ∧ replies 1 tr = [refuseMessage 8] ∧
      ∃ pre post s₀, tr = pre ++ .accepting 0 2 :: post ∧
        acceptMachine.Run (AcceptSt.new (.new 512) (AList.singleton (.tcp 9000) ⟨.tcp 80⟩)) pre s₀ ∧
        Fresh s₀.host 2 := by
  obtain ⟨s, tr, hrun, htest⟩ := Machine.exists_run_of_exec (M := acceptMachine)
    (s := AcceptSt.new (.new 512) (AList.singleton (.tcp 9000) ⟨.tcp 80⟩))
    [.host (.openSocket "x"),
      .receive (AdbMessage.new .OPEN 7 4096 ("tcp:80".toUTF8.data.toList ++ [0])),
      .receive (AdbMessage.new .OPEN 8 4096 "tcp:22".toUTF8.data.toList),
      .take, .check, .connect true, .accept, .poll, .host (.complete (.ok ())),
      .host (.complete (.ok ())), .poll,
      .take, .check, .close, .poll, .host (.complete (.ok ())), .poll]
    (fun s tr => decide (opens tr = [⟨7, 4096, "tcp:80"⟩, ⟨8, 4096, "tcp:22"⟩]) &&
      decide (s.host.shared.error = none) &&
      tr.any (AcceptEvent.returns 0) && tr.any (AcceptEvent.accepts 0 2) &&
      decide (replies 0 tr = [acceptMessage 7 2] ∧ replies 1 tr = [refuseMessage 8]))
    (by decide +kernel)
  simp only [Bool.and_eq_true, decide_eq_true_eq] at htest
  obtain ⟨⟨⟨⟨hopens, hnone⟩, hmem⟩, haccepts⟩, hfirst, hsecond⟩ := htest
  have hreturned : Returned tr 0 := by
    obtain ⟨e, he, hret⟩ := List.any_eq_true.mp hmem
    exact returned_of_returns hret he
  obtain ⟨pre, post, htr⟩ := List.append_of_mem (mem_of_accepts haccepts)
  obtain ⟨hanswered, hfresh, -⟩ := inbound_open_answered _ _ tr s hrun
  refine ⟨tr, s, hrun, hopens, ?_, hfirst, hsecond, ?_⟩
  · -- the first `OPEN` was answered, and the transport has no error
    exact (hanswered 0 ⟨7, 4096, "tcp:80"⟩ (by rw [hopens]; rfl)).2 hreturned hnone
  · obtain ⟨s₀, hpre, hid⟩ := hfresh pre 0 2 post htr
    exact ⟨pre, post, s₀, htr, hpre, hid⟩

end AdbDaemon.Forward
