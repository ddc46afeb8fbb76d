import Mathlib.Logic.Function.Basic
import AdbDaemon.Transport.Task

/-!
# The transport: sockets, reader task and spawned writers

Reference: `TransportBackend`, `PendingSocket` and `Transport` of
`packages/transport/src/transport.rs`.

Sockets are kept in `backends` in the order of their creation and named by their index, since local
ids wrap; `sockets` is the table of the source. The reader task dispatches any message at any time.
`hostMachine` interleaves all tasks: its runs are the schedules of the host against a device that
may send anything.

The bound of the channel of pending sockets only delays the reader task and is left out.
-/

namespace AdbDaemon.Transport

open Common

/-- An `OPEN` of the device that waits to be accepted. -/
structure PendingSocket where
  remoteId : UInt32
  acknowledged : Nat
  service : String
deriving DecidableEq

/-- A `write_message_async` that is not part of a socket's task: the `CLSE` of a dropped socket,
whose index is `owner`, or the `CLSE` that refuses an `OPEN`. -/
structure Writer where
  owner : Option Nat
  msg : Option AdbMessage
  done : Bool
deriving DecidableEq

/-- `TransportBackend`: the connection, the sockets with the table of their ids, the spawned
writers, and the queue of pending sockets. -/
structure TransportBackend where
  shared : Shared
  lastId : UInt32
  sockets : UInt32 → Option Nat
  backends : List Sock
  pending : List PendingSocket
  /-- `false` once `drop_inbound` was called. -/
  inbound : Bool
  writers : List Writer
  /-- The reader task handled a message of a closed socket, and is about to remove its id. -/
  removing : Option UInt32

/-- The steps of the tasks on a transport. -/
inductive HostAct where
  | openSocket (service : String)
  /-- `accept` on a pending socket. -/
  | accept (i : Nat)
  /-- `close` on a pending socket. -/
  | refuse (i : Nat)
  | dropInbound
  | sock (r : Nat) (a : SockAct)
  | writer (i : Nat)
  | dispatch (msg : AdbMessage)
  | removeClosed
  | complete (c : Except TransferError Unit)
  /-- `Transport::close`, or an error of the reader task. -/
  | fail (err : Error)

/-- What can be seen of a step, with the messages it submits. -/
inductive HostEvent where
  | created (r : Nat)
  | sock (r : Nat) (e : SockEvent)
  | written (owner : Option Nat) (outcome : Outcome Error Unit) (sent : List AdbMessage)
  | handled (r : Nat) (msg : AdbMessage)
  /-- `handle_message` of the socket returned an error. -/
  | rejected (r : Nat) (msg : AdbMessage)
  | internal
deriving DecidableEq

/-- The first message of `open_socket`. -/
def openMessage (service : String) (localId : UInt32) : AdbMessage :=
  AdbMessage.new .OPEN localId DELAYED_ACK_BYTES (service.toUTF8.data.toList ++ [0])

/-- The first message of `accept`. -/
def acceptMessage (remoteId localId : UInt32) : AdbMessage :=
  AdbMessage.new .OKAY localId remoteId (toLeBytes DELAYED_ACK_BYTES)

/-- `PendingSocket::close`. -/
def refuseMessage (remoteId : UInt32) : AdbMessage := AdbMessage.new .CLSE 0 remoteId []

namespace TransportBackend

/-- The backend over a fresh connection, as `handle_cnxn` creates it. -/
def new (connection : UsbConnection) : TransportBackend where
  shared := ⟨some connection, none⟩
  lastId := 1
  sockets := fun _ => none
  backends := []
  pending := []
  inbound := true
  writers := []
  removing := none

/-- `on_error`, as one step. -/
def fail (b : TransportBackend) (err : Error) : TransportBackend :=
  { b with shared := (b.shared.onError err).2 }

/-- The start of `open_socket` and `accept`: take an id and enter the socket into the table. -/
def create (b : TransportBackend) (call : Call) (state : State) (msg : UInt32 → AdbMessage) :
    TransportBackend :=
  { b with
    lastId := b.lastId + 1
    sockets := Function.update b.sockets b.lastId (some b.backends.length)
    backends := b.backends ++ [⟨b.lastId, state, .writing call (some (msg b.lastId))⟩] }

/-- The `CLSE` of `PendingSocket::close`, left to a task of its own. -/
def refuse (b : TransportBackend) (remoteId : UInt32) : TransportBackend :=
  { b with writers := b.writers ++ [⟨none, some (refuseMessage remoteId), false⟩] }

/-- The step of a socket's task; dropping the socket removes its id and spawns the write of its
`CLSE`. -/
def afterSock (b : TransportBackend) (r : Nat) (n : SockNext) : TransportBackend :=
  { b with
    shared := n.shared
    backends := b.backends.set r n.sock
    sockets :=
      match n.event with
      | .dropped _ => Function.update b.sockets n.sock.localId none
      | _ => b.sockets
    writers :=
      match n.event with
      | .dropped (some msg) => b.writers ++ [⟨some r, some msg, false⟩]
      | _ => b.writers }

/-- The `OPEN` branch of `TransportBackend::handle_message`. -/
def handleOpen (b : TransportBackend) (msg : AdbMessage) : TransportBackend :=
  let payload := if msg.payload.getLast? = some 0 then msg.payload.dropLast else msg.payload
  match String.fromUTF8? ⟨payload.toArray⟩ with
  | none => b.fail (.text .invalidData "service is not utf8")
  | some service =>
    if b.inbound then
      { b with pending := b.pending ++ [⟨msg.header.arg0, msg.header.arg1.toNat, service⟩] }
    else b.refuse msg.header.arg0

/-- The branch of `TransportBackend::handle_message` for the messages of a socket. -/
def handleSocket (b : TransportBackend) (msg : AdbMessage) :
    Option (TransportBackend × HostEvent) :=
  match b.sockets msg.header.arg1 with
  | none => some (b, .internal)
  | some r =>
    match b.backends[r]? with
    | none => none
    | some s =>
      match handleMessage msg s.state with
      | .ready (.ok state) =>
        some ({ b with
          backends := b.backends.set r { s with state }
          removing := if state.closed then some msg.header.arg1 else none }, .handled r msg)
      | .ready (.error err) => some (b.fail err, .rejected r msg)
      | _ => none

/-- `TransportBackend::handle_message` on a message that was read, up to the removal of a closed
socket. -/
def dispatch (b : TransportBackend) (msg : AdbMessage) : Option (TransportBackend × HostEvent) :=
  match b.removing with
  | some _ => none
  | none =>
    match msg.header.command with
    | .OPEN => some (b.handleOpen msg, .internal)
    | .OKAY | .WRTE | .CLSE => b.handleSocket msg
    | _ => some (b, .internal)

/-- One step of a socket's task, of a spawned writer, of the reader task or of the endpoint. -/
def step (b : TransportBackend) : HostAct → Option (TransportBackend × HostEvent)
  | .openSocket service =>
    match b.shared.checkError with
    | .error _ => some (b, .internal)
    | .ok () =>
      some (b.create .openSocket (State.new 0 0) (openMessage service), .created b.backends.length)
  | .accept i =>
    match b.pending[i]? with
    | none => none
    | some p =>
      some ({ b with pending := b.pending.eraseIdx i }.create .accept
        (State.new p.remoteId p.acknowledged) (acceptMessage p.remoteId),
        .created b.backends.length)
  | .refuse i =>
    match b.pending[i]? with
    | none => none
    | some p => some ({ b with pending := b.pending.eraseIdx i }.refuse p.remoteId, .internal)
  -- the receiver is gone, and what was queued goes with it
  | .dropInbound => some ({ b with inbound := false, pending := [] }, .internal)
  | .sock r a =>
    match b.backends[r]? with
    | none => none
    | some s =>
      match s.step b.shared a with
      | none => none
      | some n => some (b.afterSock r n, .sock r n.event)
  | .writer i =>
    match b.writers[i]? with
    | none => none
    | some w =>
      if w.done then none
      else
        let p := writeMessageAsync w.msg b.shared
        some ({ b with
          shared := p.shared
          writers := b.writers.set i { w with msg := p.msg, done := decide (p.outcome ≠ .pending) } },
          .written w.owner p.outcome p.sent)
  | .dispatch msg => b.dispatch msg
  | .removeClosed =>
    match b.removing with
    | none => none
    | some id =>
      some ({ b with sockets := Function.update b.sockets id none, removing := none }, .internal)
  | .complete c => some ({ b with shared := b.shared.complete c }, .internal)
  | .fail err => some (b.fail err, .internal)

end TransportBackend

/-- The host's end of a transport, with its tasks in any order. -/
def hostMachine : Machine TransportBackend HostAct HostEvent := ⟨TransportBackend.step⟩

/-! ## Events -/

namespace HostEvent

/-- The messages submitted to the connection. -/
def sent : HostEvent → List AdbMessage
  | .sock _ e => e.sent
  | .written _ _ sent => sent
  | _ => []

/-- The messages submitted for one socket. -/
def sentBy (r : Nat) : HostEvent → List AdbMessage
  | .sock r' e => if r' = r then e.sent else []
  | .written owner _ sent => if owner = some r then sent else []
  | _ => []

def panicked : HostEvent → Bool
  | .sock _ e => e.panicked
  | .written _ outcome _ => outcome.isPanic
  | _ => false

/-- The event as the state of one socket sees it. -/
def toSocket (r : Nat) : HostEvent → SocketEvent
  | .sock r' e => if r' = r then e.toSocket else .env
  | .handled r' msg => if r' = r then .handled msg else .env
  | .rejected r' msg => if r' = r then .refused msg else .env
  | _ => .env

end HostEvent

/-! ## What a step can do -/

/-- The steps of the host: what each does to sockets, table, writers and the shared state, and the
event it shows. -/
inductive HostStep (b : TransportBackend) : TransportBackend → HostEvent → Prop
  | create {call : Call} {state : State} {msg : UInt32 → AdbMessage} {pending : List PendingSocket}
      (hcall : (call = .openSocket ∧ b.shared.error = none ∧ state = State.new 0 0 ∧
          (∃ service, msg = openMessage service) ∧ pending = b.pending) ∨
        ∃ p ∈ b.pending, call = .accept ∧ state = State.new p.remoteId p.acknowledged ∧
          msg = acceptMessage p.remoteId ∧ pending ⊆ b.pending) :
      HostStep b ({ b with pending }.create call state msg) (.created b.backends.length)
  | sock {r : Nat} {s : Sock} {a : SockAct} {n : SockNext} (hr : b.backends[r]? = some s)
      (hs : s.step b.shared a = some n) :
      HostStep b (b.afterSock r n) (.sock r n.event)
  | writer {i : Nat} {w : Writer} (hi : b.writers[i]? = some w) (hdone : w.done = false) :
      HostStep b
        { b with
          shared := (writeMessageAsync w.msg b.shared).shared
          writers := b.writers.set i
            { w with
              msg := (writeMessageAsync w.msg b.shared).msg
              done := decide ((writeMessageAsync w.msg b.shared).outcome ≠ .pending) } }
        (.written w.owner (writeMessageAsync w.msg b.shared).outcome
          (writeMessageAsync w.msg b.shared).sent)
  | handled {r : Nat} {s : Sock} {msg : AdbMessage} {state : State} (hidle : b.removing = none)
      (hid : b.sockets msg.header.arg1 = some r) (hr : b.backends[r]? = some s)
      (hm : handleMessage msg s.state = .ready (.ok state)) :
      HostStep b
        { b with
          backends := b.backends.set r { s with state }
          removing := if state.closed then some msg.header.arg1 else none }
        (.handled r msg)
  | rejected {r : Nat} {s : Sock} {msg : AdbMessage} {err : Error} (hr : b.backends[r]? = some s) :
      HostStep b (b.fail err) (.rejected r msg)
  | remove {id : UInt32} (hid : b.removing = some id) :
      HostStep b { b with sockets := Function.update b.sockets id none, removing := none } .internal
  /-- Nothing happens to sockets, table and reader. -/
  | env {shared : Shared} {pending : List PendingSocket} {inbound : Bool} {writers : List Writer}
      (hnext : b.shared.Next shared [])
      (hwriters : writers = b.writers ∨
        ∃ remoteId, writers = b.writers ++ [⟨none, some (refuseMessage remoteId), false⟩]) :
      HostStep b { b with shared, pending, inbound, writers } .internal

/-- An `OPEN` is put into the channel, or dropped with an error, which is a step of `HostStep`. -/
theorem TransportBackend.handleOpen_step (b : TransportBackend) (msg : AdbMessage) :
    HostStep b (b.handleOpen msg) .internal := by
  unfold handleOpen
  simp only
  split
  · exact .env (b.shared.onError_next _) (.inl rfl)
  · split
    · exact .env (.refl _) (.inl rfl)
    · exact .env (.refl _) (.inr ⟨_, rfl⟩)

/-- What `handle_message` does with a message for a socket is a step of `HostStep`. -/
theorem TransportBackend.handleSocket_step {b b' : TransportBackend} {msg : AdbMessage}
    {e : HostEvent}
    (hidle : b.removing = none) (h : b.handleSocket msg = some (b', e)) : HostStep b b' e := by
  unfold handleSocket at h
  split at h
  · simp only [Option.some.injEq, Prod.mk.injEq] at h
    obtain ⟨rfl, rfl⟩ := h
    exact .env (.refl _) (.inl rfl)
  · rename_i r hid
    split at h
    · exact absurd h (by simp)
    · rename_i s hr
      split at h
      · rename_i state hm
        simp only [Option.some.injEq, Prod.mk.injEq] at h
        obtain ⟨rfl, rfl⟩ := h
        exact .handled hidle hid hr hm
      · simp only [Option.some.injEq, Prod.mk.injEq] at h
        obtain ⟨rfl, rfl⟩ := h
        exact .rejected hr
      · exact absurd h (by simp)

/-- Every step of the host is one of these. The invariants split on them, so that only this proof
unfolds `TransportBackend.step`. -/
theorem hostStep_of_step {b b' : TransportBackend} {a : HostAct} {e : HostEvent}
    (h : hostMachine.step b a = some (b', e)) : HostStep b b' e := by
  simp only [hostMachine] at h
  cases a with
  | openSocket service =>
    simp only [TransportBackend.step] at h
    split at h
    · simp only [Option.some.injEq, Prod.mk.injEq] at h
      obtain ⟨rfl, rfl⟩ := h
      exact .env (.refl _) (.inl rfl)
    · rename_i hok
      simp only [Option.some.injEq, Prod.mk.injEq] at h
      obtain ⟨rfl, rfl⟩ := h
      exact .create (.inl ⟨rfl, Shared.checkError_ok.mp hok, rfl, ⟨service, rfl⟩, rfl⟩)
  | accept i =>
    simp only [TransportBackend.step] at h
    split at h
    · exact absurd h (by simp)
    · rename_i p hp
      simp only [Option.some.injEq, Prod.mk.injEq] at h
      obtain ⟨rfl, rfl⟩ := h
      exact .create (.inr ⟨p, List.mem_of_getElem? hp, rfl, rfl, rfl, List.eraseIdx_subset⟩)
  | refuse i =>
    simp only [TransportBackend.step] at h
    split at h
    · exact absurd h (by simp)
    · simp only [Option.some.injEq, Prod.mk.injEq] at h
      obtain ⟨rfl, rfl⟩ := h
      exact .env (.refl _) (.inr ⟨_, rfl⟩)
  | dropInbound =>
    simp only [TransportBackend.step, Option.some.injEq, Prod.mk.injEq] at h
    obtain ⟨rfl, rfl⟩ := h
    exact .env (.refl _) (.inl rfl)
  | sock r a =>
    simp only [TransportBackend.step] at h
    split at h
    · exact absurd h (by simp)
    · rename_i s hr
      split at h
      · exact absurd h (by simp)
      · rename_i n hs
        simp only [Option.some.injEq, Prod.mk.injEq] at h
        obtain ⟨rfl, rfl⟩ := h
        exact .sock hr hs
  | writer i =>
    simp only [TransportBackend.step] at h
    split at h
    · exact absurd h (by simp)
    · rename_i w hi
      split at h
      · exact absurd h (by simp)
      · rename_i hdone
        simp only [Option.some.injEq, Prod.mk.injEq] at h
        obtain ⟨rfl, rfl⟩ := h
        exact .writer hi (by simpa using hdone)
  | dispatch msg =>
    simp only [TransportBackend.step, TransportBackend.dispatch] at h
    split at h
    · exact absurd h (by simp)
    · rename_i hidle
      split at h
      · simp only [Option.some.injEq, Prod.mk.injEq] at h
        obtain ⟨rfl, rfl⟩ := h
        exact b.handleOpen_step msg
      · exact TransportBackend.handleSocket_step hidle h
      · exact TransportBackend.handleSocket_step hidle h
      · exact TransportBackend.handleSocket_step hidle h
      · simp only [Option.some.injEq, Prod.mk.injEq] at h
        obtain ⟨rfl, rfl⟩ := h
        exact .env (.refl _) (.inl rfl)
  | removeClosed =>
    simp only [TransportBackend.step] at h
    split at h
    · exact absurd h (by simp)
    · rename_i id hid
      simp only [Option.some.injEq, Prod.mk.injEq] at h
      obtain ⟨rfl, rfl⟩ := h
      exact .remove hid
  | complete c =>
    simp only [TransportBackend.step, Option.some.injEq, Prod.mk.injEq] at h
    obtain ⟨rfl, rfl⟩ := h
    exact .env (b.shared.complete_next c) (.inl rfl)
  | fail err =>
    simp only [TransportBackend.step, Option.some.injEq, Prod.mk.injEq] at h
    obtain ⟨rfl, rfl⟩ := h
    exact .env (b.shared.onError_next err) (.inl rfl)

/-- The shared connection changes only as the messages submitted allow. -/
theorem HostStep.next {b b' : TransportBackend} {e : HostEvent} (h : HostStep b b' e) :
    b.shared.Next b'.shared e.sent := by
  cases h with
  | create _ => exact .refl _
  | sock hr hs => exact (Sock.step_cases hs).2.1
  | writer hi hdone => exact (writeMessageAsync_spec _ _).2.1
  | handled _ _ _ _ => exact .refl _
  | rejected _ => exact b.shared.onError_next _
  | remove _ => exact .refl _
  | env hnext _ => exact hnext

/-! ## The sockets after a step -/

/-- A list that is written at one of its positions has the new element there. -/
theorem getElem?_set_of_some {α : Type} {l : List α} {i : Nat} {x : α} (h : l[i]? = some x)
    (y : α) :
    (l.set i y)[i]? = some y :=
  List.getElem?_set_self (List.getElem?_eq_some_iff.mp h).1

/-- A dropped socket leaves a write that it owns. -/
theorem afterSock_writers {b : TransportBackend} {r : Nat} {n : SockNext} {i : Nat} {w : Writer} :
    (b.writers[i]? = some w → (b.afterSock r n).writers[i]? = some w) ∧
      ((b.afterSock r n).writers[i]? = some w → w.owner = none → b.writers[i]? = some w) := by
  simp only [TransportBackend.afterSock]
  split
  · rename_i msg hev
    refine ⟨fun hi => ?_, fun hi howner => ?_⟩
    · rw [List.getElem?_append_left (List.getElem?_eq_some_iff.mp hi).1]
      exact hi
    · rw [List.getElem?_append] at hi
      split at hi
      · exact hi
      · rw [List.getElem?_singleton] at hi
        split at hi
        · obtain rfl := Option.some.inj hi
          simp at howner
        · exact absurd hi (by simp)
  · exact ⟨id, fun hi _ => hi⟩

/-- A socket stays at its index; its id never changes, and its state takes a step of its own. -/
theorem HostStep.backend {b b' : TransportBackend} {e : HostEvent} (h : HostStep b b' e) {r : Nat}
    {s : Sock} (hr : b.backends[r]? = some s) :
    ∃ s', b'.backends[r]? = some s' ∧ s'.localId = s.localId ∧
      StateStep s.localId s.state s'.state (e.toSocket r) := by
  cases h with
  | create _ =>
    refine ⟨s, ?_, rfl, .env⟩
    exact (List.getElem?_append_left (List.getElem?_eq_some_iff.mp hr).1).trans hr
  | @sock r' s₁ a n hr' hs =>
    obtain ⟨hid, -, hstep⟩ := Sock.step_cases hs
    by_cases heq : r' = r
    · subst heq
      obtain rfl : s₁ = s := Option.some.inj (hr'.symm.trans hr)
      refine ⟨n.sock, getElem?_set_of_some hr _, hid, ?_⟩
      simpa only [HostEvent.toSocket, if_true] using hstep.stateStep
    · refine ⟨s, ?_, rfl, ?_⟩
      · exact (List.getElem?_set_ne heq).trans hr
      · simpa only [HostEvent.toSocket, if_neg heq] using .env
  | writer hi hdone => exact ⟨s, hr, rfl, .env⟩
  | @handled r' s₁ msg state hidle hid hr' hm =>
    by_cases heq : r' = r
    · subst heq
      obtain rfl : s₁ = s := Option.some.inj (hr'.symm.trans hr)
      refine ⟨{ s₁ with state }, getElem?_set_of_some hr _, rfl, ?_⟩
      simp only [HostEvent.toSocket, if_true]
      have hhandle : (socketMachine s₁.localId).step ⟨s₁.state, b.shared⟩ (.handle msg) =
          some (⟨state, b.shared⟩, .handled msg) := by
        simp [socketMachine, SocketSt.step, hm]
      exact stateStep_of_step hhandle
    · refine ⟨s, (List.getElem?_set_ne heq).trans hr, rfl, ?_⟩
      simpa only [HostEvent.toSocket, if_neg heq] using .env
  | @rejected r' s₁ msg err hr' =>
    refine ⟨s, hr, rfl, ?_⟩
    by_cases heq : r' = r
    · simpa only [HostEvent.toSocket, if_pos heq] using .refuse
    · simpa only [HostEvent.toSocket, if_neg heq] using .env
  | remove _ => exact ⟨s, hr, rfl, .env⟩
  | env _ _ => exact ⟨s, hr, rfl, .env⟩

/-- A socket as `open_socket` or `accept` creates it. -/
inductive NewSocket (localId : UInt32) (pending : List PendingSocket) : Sock → Prop
  | opened (service : String) :
      NewSocket localId pending
        ⟨localId, State.new 0 0, .writing .openSocket (some (openMessage service localId))⟩
  | accepted (p : PendingSocket) (hp : p ∈ pending) :
      NewSocket localId pending
        ⟨localId, State.new p.remoteId p.acknowledged,
          .writing .accept (some (acceptMessage p.remoteId localId))⟩

/-- Where a socket comes from: it was created by this step, or it was there before and did not take
part, or took a step of its task, or was handed a message. -/
theorem HostStep.socket {b b' : TransportBackend} {e : HostEvent} (h : HostStep b b' e) {r : Nat}
    {s' : Sock} (hr : b'.backends[r]? = some s') :
    (r = b.backends.length ∧ e = .created r ∧ NewSocket b.lastId b.pending s') ∨
      ∃ s, b.backends[r]? = some s ∧ s'.localId = s.localId ∧
        ((s' = s ∧ (∀ e', e ≠ .sock r e') ∧ ∀ msg, e ≠ .handled r msg) ∨
          (∃ e', e = .sock r e' ∧ SockStep s b.shared b'.shared s'.state s'.phase e') ∨
          ∃ msg, e = .handled r msg ∧ s'.phase = s.phase ∧
            handleMessage msg s.state = .ready (.ok s'.state)) := by
  cases h with
  | @create call state msg pending hcall =>
    have hnew : NewSocket b.lastId b.pending ⟨b.lastId, state, .writing call (some (msg b.lastId))⟩ := by
      rcases hcall with ⟨rfl, -, rfl, ⟨service, rfl⟩, -⟩ | ⟨p, hp, rfl, rfl, rfl, -⟩
      · exact .opened service
      · exact .accepted p hp
    have hr' : (b.backends ++ [⟨b.lastId, state, .writing call (some (msg b.lastId))⟩])[r]? =
      some s' := hr
    rw [List.getElem?_append] at hr'
    split at hr'
    · -- an older socket: `create` appends its own
      exact .inr ⟨s', hr', rfl, .inl ⟨rfl, by simp, by simp⟩⟩
    · rename_i hlt
      obtain ⟨hlen, hs'⟩ := List.getElem?_eq_some_iff.mp hr'
      have hr0 : r = b.backends.length := by
        simp only [List.length_singleton] at hlen
        omega
      simp only [List.getElem_singleton] at hs'
      subst hs'
      exact .inl ⟨hr0, by rw [hr0], hnew⟩
  | @sock r' s a n hr₁ hs =>
    obtain ⟨hid, -, hstep⟩ := Sock.step_cases hs
    have hr' : (b.backends.set r' n.sock)[r]? = some s' := hr
    by_cases heq : r' = r
    · subst heq
      rw [getElem?_set_of_some hr₁] at hr'
      obtain rfl := Option.some.inj hr'
      exact .inr ⟨s, hr₁, hid, .inr (.inl ⟨n.event, rfl, hstep⟩)⟩
    · rw [List.getElem?_set_ne heq] at hr'
      exact .inr ⟨s', hr', rfl, .inl ⟨rfl, by simp [heq], by simp⟩⟩
  | @handled r' s msg state hidle hid hr₁ hm =>
    have hr' : (b.backends.set r' { s with state })[r]? = some s' := hr
    by_cases heq : r' = r
    · subst heq
      rw [getElem?_set_of_some hr₁] at hr'
      obtain rfl := Option.some.inj hr'
      exact .inr ⟨s, hr₁, rfl, .inr (.inr ⟨msg, rfl, rfl, hm⟩)⟩
    · rw [List.getElem?_set_ne heq] at hr'
      exact .inr ⟨s', hr', rfl, .inl ⟨rfl, by simp, by simp [heq]⟩⟩
  | writer | rejected | remove | env => exact .inr ⟨s', hr, rfl, .inl ⟨rfl, by simp, by simp⟩⟩

/-- A step of a socket's task, seen from that socket. -/
theorem HostStep.of_sock {b b' : TransportBackend} {r : Nat} {e : SockEvent}
    (h : HostStep b b' (.sock r e)) :
    ∃ s s' : Sock, b.backends[r]? = some s ∧ b'.backends[r]? = some s' ∧ s'.localId = s.localId ∧
      SockStep s b.shared b'.shared s'.state s'.phase e := by
  cases h with
  | @sock _ s a n hr hs =>
    obtain ⟨hid, -, hstep⟩ := Sock.step_cases hs
    exact ⟨s, n.sock, hr, getElem?_set_of_some hr _, hid, hstep⟩

/-- An entry of the table is an old one, which the reader task did not just remove, or the one of
the socket just created. -/
theorem HostStep.table {b b' : TransportBackend} {e : HostEvent} (h : HostStep b b' e) {id : UInt32}
    {r : Nat} (hid : b'.sockets id = some r) :
    (b.sockets id = some r ∧ (b.removing = some id → b'.removing = some id)) ∨
      (r = b.backends.length ∧ id = b.lastId ∧ e = .created r) := by
  cases h with
  | create =>
    simp only [TransportBackend.create, Function.update_apply] at hid
    split at hid
    · rename_i heq
      obtain rfl := Option.some.inj hid
      exact .inr ⟨rfl, heq, rfl⟩
    · exact .inl ⟨hid, fun h => h⟩
  | @sock r' s a n hr hs =>
    refine .inl ⟨?_, fun h => h⟩
    unfold TransportBackend.afterSock at hid
    cases hev : n.event with
    | dropped msg =>
      simp only [hev, Function.update_apply] at hid
      split at hid
      · exact absurd hid (by simp)
      · exact hid
    | _ => simpa only [hev] using hid
  | handled hidle => exact .inl ⟨hid, fun h => by simp [hidle] at h⟩
  -- the entry that `handle_message` left behind after a `CLSE`
  | @remove id' hrem =>
    simp only [Function.update_apply] at hid
    split at hid
    · exact absurd hid (by simp)
    · rename_i hne
      refine .inl ⟨hid, fun h => ?_⟩
      rw [hrem] at h
      exact absurd (Option.some.inj h).symm hne
  | writer | rejected | env => exact .inl ⟨hid, fun h => h⟩

/-- Sockets are never forgotten by the model, also when they have left the table. -/
theorem HostStep.length_le {b b' : TransportBackend} {e : HostEvent} (h : HostStep b b' e) :
    b.backends.length ≤ b'.backends.length := by
  cases h with
  | create => simp [TransportBackend.create]
  | sock => simp [TransportBackend.afterSock]
  | handled => simp
  | writer | rejected | remove | env => exact Nat.le_refl _

/-- An entry of the table stays, unless a new socket takes its id, its socket is dropped, or the
reader task removes it. -/
theorem HostStep.table_kept {b b' : TransportBackend} {e : HostEvent} (h : HostStep b b' e)
    (id : UInt32) :
    b'.sockets id = b.sockets id ∨ (id = b.lastId ∧ e = .created b.backends.length) ∨
      (∃ r s msg, b.backends[r]? = some s ∧ s.localId = id ∧ e = .sock r (.dropped msg)) ∨
      b.removing = some id := by
  cases h with
  | create =>
    by_cases heq : id = b.lastId
    · exact .inr (.inl ⟨heq, rfl⟩)
    · exact .inl (Function.update_of_ne heq _ _)
  | @sock r s a n hr hs =>
    obtain ⟨hid, -, -⟩ := Sock.step_cases hs
    unfold TransportBackend.afterSock
    cases hev : n.event with
    | dropped msg =>
      by_cases heq : id = n.sock.localId
      · exact .inr (.inr (.inl ⟨r, s, msg, hr, (heq.trans hid).symm, rfl⟩))
      · exact .inl (Function.update_of_ne heq _ _)
    | _ => exact .inl rfl
  | @remove id' hrem =>
    by_cases heq : id = id'
    · exact .inr (.inr (.inr (heq ▸ hrem)))
    · exact .inl (Function.update_of_ne heq _ _)
  | writer | handled | rejected | env => exact .inl rfl

/-- The writers after a step: each was there before with the same message or without it, refuses an
`OPEN`, or was spawned with the `CLSE` of a socket just dropped. -/
theorem HostStep.writers {b b' : TransportBackend} {e : HostEvent} (hstep : HostStep b b' e)
    {w : Writer}
    (hw : w ∈ b'.writers) :
    (∃ w₀ ∈ b.writers, w₀.owner = w.owner ∧ ∀ msg, w.msg = some msg → w₀.msg = some msg) ∨
      (∃ remoteId, w = ⟨none, some (refuseMessage remoteId), false⟩) ∨
      ∃ r msg, e = .sock r (.dropped (some msg)) ∧ w = ⟨some r, some msg, false⟩ := by
  cases hstep with
  | @sock r s a n hr hs =>
    cases hev : n.event with
    | dropped msg =>
      cases msg with
      | none =>
        simp only [TransportBackend.afterSock, hev] at hw
        exact .inl ⟨w, hw, rfl, fun _ h => h⟩
      | some msg =>
        simp only [TransportBackend.afterSock, hev] at hw
        rcases List.mem_append.mp hw with hw | hw
        · exact .inl ⟨w, hw, rfl, fun _ h => h⟩
        · exact .inr (.inr ⟨r, msg, rfl, by simpa using hw⟩)
    | _ =>
      simp only [TransportBackend.afterSock, hev] at hw
      exact .inl ⟨w, hw, rfl, fun _ h => h⟩
  | @writer i w₀ hi hdone =>
    rcases List.mem_or_eq_of_mem_set hw with hw | rfl
    · exact .inl ⟨w, hw, rfl, fun _ h => h⟩
    · exact .inl ⟨w₀, List.mem_of_getElem? hi, rfl, fun _ h => writeMessageAsync_msg.1 h⟩
  | env _ hwriters =>
    -- only `refuse` spawns a writer that belongs to no socket
    rcases hwriters with rfl | ⟨remoteId, rfl⟩
    · exact .inl ⟨w, hw, rfl, fun _ h => h⟩
    · rcases List.mem_append.mp hw with hw | hw
      · exact .inl ⟨w, hw, rfl, fun _ h => h⟩
      · exact .inr (.inl ⟨remoteId, by simpa using hw⟩)
  | create | handled | rejected | remove => exact .inl ⟨w, hw, rfl, fun _ h => h⟩

/-- A closed socket stays closed. -/
theorem HostStep.closed_mono {b b' : TransportBackend} {e : HostEvent} (hstep : HostStep b b' e)
    {r : Nat} (h : ∃ s : Sock, b.backends[r]? = some s ∧ s.state.closed = true) :
    ∃ s : Sock, b'.backends[r]? = some s ∧ s.state.closed = true := by
  obtain ⟨s, hr, hcl⟩ := h
  obtain ⟨s', hr', -, hmove⟩ := hstep.backend hr
  exact ⟨s', hr', hmove.closed_mono hcl⟩

/-- Handling the device's `CLSE` closes the socket. -/
theorem HostStep.closed_of_clse {b b' : TransportBackend} {r : Nat} {msg : AdbMessage}
    (hstep : HostStep b b' (.handled r msg)) (hcmd : msg.header.command = .CLSE) :
    ∃ s : Sock, b'.backends[r]? = some s ∧ s.state.closed = true := by
  cases hstep with
  | @handled _ s _ state hidle hid hr hm =>
    refine ⟨_, getElem?_set_of_some hr _, ?_⟩
    simp only [handleMessage, hcmd, Outcome.ready.injEq, Except.ok.injEq] at hm
    rw [← hm]

end AdbDaemon.Transport
