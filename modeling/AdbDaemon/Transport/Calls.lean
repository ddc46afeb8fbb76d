import AdbDaemon.Transport.Backend
import AdbDaemon.Transport.Section

/-!
# Calls under way

Reference: `TransportBackend::on_error`, `check_error`, `reader_task`, `handle_message`,
`ConnectionWrapperGuard`, `Transport` and `PendingSocket` of `packages/transport/src/transport.rs`;
the polls of `packages/transport/src/socket.rs`.

`hostMachine` takes a whole poll as one step. `latchMachine` cuts a poll where other threads may come
in: it registers its waker, checks the error, and then takes the locks for one critical section; if
that fails, `on_error` runs with the connection unlocked, and sets the error, takes the connection and
notifies the sockets one after the other. Any number of polls, closes and calls of `on_error` are
under way at the same time. The sections themselves are those of `hostMachine`: a section and its
`on_error` are a step of it when nothing comes between (`exists_run_of_sock`, `exists_run_of_writer`).

`LatchStep` says once what a step can do and which call takes it, and `LatchStep.undisturbed` that the
others stay where they were.
-/

namespace AdbDaemon.Transport

open Common

/-! ## Wakers -/

/-- A task, named by what it polls: the reading half of a socket; the writing half, or the call that
creates the socket; or an unowned write. -/
inductive Task where
  | read (r : Nat)
  | write (r : Nat)
  | close (i : Nat)
deriving DecidableEq

/-- The wakers that sockets and connection hold, and the tasks that are parked or have been
woken. -/
structure Wakers where
  /-- `read_waker` of the socket holds a waker. -/
  read : Nat → Bool
  write : Nat → Bool
  /-- `write_wakers` of the connection. -/
  collection : List Task
  /-- The calls of `WakerCollection::wake` that are under way. -/
  waking : Nat
  /-- The latest poll of the task returned `Pending`. -/
  parked : Task → Bool
  /-- The task was woken since its latest poll started. -/
  woken : Task → Bool

namespace Wakers

def new : Wakers where
  read := fun _ => false
  write := fun _ => false
  collection := []
  waking := 0
  parked := fun _ => false
  woken := fun _ => false

/-- A poll starts. -/
def start (w : Wakers) (t : Task) : Wakers :=
  { w with parked := Function.update w.parked t false, woken := Function.update w.woken t false }

/-- `WakeSink::register`. -/
def register (w : Wakers) : Task → Wakers
  | .read r => { w with read := Function.update w.read r true }
  | .write r => { w with write := Function.update w.write r true }
  | .close _ => w

/-- `ConnectionWrapperGuard::poll_flush` adds the waker to the collection. -/
def push (w : Wakers) (t : Task) : Wakers := { w with collection := w.collection ++ [t] }

def park (w : Wakers) (t : Task) : Wakers := { w with parked := Function.update w.parked t true }

/-- The socket is dropped, and nobody waits for it. -/
def forget (w : Wakers) (r : Nat) : Wakers :=
  { w with parked := Function.update (Function.update w.parked (.read r) false) (.write r) false }

/-- `read_waker.notify()`, which wakes the registered waker and takes it out. -/
def notifyRead (w : Wakers) (r : Nat) : Wakers :=
  if w.read r then
    { w with read := Function.update w.read r false, woken := Function.update w.woken (.read r) true }
  else w

def notifyWrite (w : Wakers) (r : Nat) : Wakers :=
  if w.write r then
    { w with
      write := Function.update w.write r false
      woken := Function.update w.woken (.write r) true }
  else w

/-- `notify` on both wakers of every socket in the table. -/
def notifyAll (w : Wakers) (table : Nat → Bool) : Wakers :=
  { w with
    read := fun r => w.read r && !table r
    write := fun r => w.write r && !table r
    woken := fun t => w.woken t ||
      match t with
      | .read r => table r && w.read r
      | .write r => table r && w.write r
      | .close _ => false }

/-- `WakerCollection::wake`. -/
def drain (w : Wakers) : Wakers :=
  { w with
    collection := []
    waking := w.waking - 1
    woken := fun t => w.woken t || decide (t ∈ w.collection) }

/-- What `SocketBackend::handle_message` notifies. -/
def handled (w : Wakers) (r : Nat) (msg : AdbMessage) : Wakers :=
  match msg.header.command with
  | .OKAY => w.notifyWrite r
  | .WRTE => w.notifyRead r
  | .CLSE => (w.notifyWrite r).notifyRead r
  | _ => w

end Wakers

/-! ## Where a call stands -/

/-- Whoever may call `on_error`: the task of a socket, an unowned write, a caller of
`Transport::close`, or the reader task. -/
inductive Agent where
  | sock (r : Nat)
  | writer (i : Nat)
  | closer (c : Nat)
  | reader
deriving DecidableEq

/-- Where the reader task stands in its loop. -/
inductive ReaderStage where
  | top
  /-- Inside the `select!` on the next message. -/
  | reading
  | dispatching (msg : AdbMessage)
  /-- The loop is left, by way of `on_error`. -/
  | stopped
deriving DecidableEq

/-- The transport, where each call stands in the code, the reader task, and the wakers. -/
structure LatchSt where
  /-- Between the two steps of `on_error` the connection outlives the error. -/
  host : TransportBackend
  pcs : Agent → Option Pc
  /-- The calls of `open_socket` that passed their check. -/
  opening : List String
  reader : ReaderStage
  /-- `close_notify` was notified while the reader task waited for a message. -/
  notified : Bool
  wakers : Wakers

/-- The sections of the calls, each under one lock, and what happens around them. -/
inductive LatchAct where
  | begin (r : Nat) (a : SockAct)
  | check (r : Nat)
  | enter (r : Nat)
  | beginWriter (i : Nat)
  | enterWriter (i : Nat)
  /-- `open_socket` up to its check. -/
  | openSocket (service : String)
  | create (j : Nat)
  | accept (i : Nat)
  | refuse (i : Nat)
  | dropInbound
  /-- `Transport::close`. -/
  | close (c : Nat)
  | readerCheck
  | readerPoll
  | readerNotified
  | dispatch
  | removeClosed
  /-- A packet from the device. -/
  | receive (packet : List UInt8)
  | complete (c : Except TransferError Unit)
  | wake
  | set (g : Agent)
  | take (g : Agent)
  | notify (g : Agent)

/-- What can be seen of a step. -/
inductive LatchEvent where
  | began (g : Agent)
  /-- A critical section was left, and the poll goes on. -/
  | passed (g : Agent) (sent : List AdbMessage)
  | returned (g : Agent) (ret : Return) (sent : List AdbMessage)
  /-- `open_socket` found the error. -/
  | refused
  | read (msg : AdbMessage)
  | dispatched (msg : AdbMessage)
  /-- The `on_error` that set the error returned. -/
  | latched (g : Agent)
  | internal
deriving DecidableEq

/-- The messages submitted. -/
def LatchEvent.sent : LatchEvent → List AdbMessage
  | .passed _ sent | .returned _ _ sent => sent
  | _ => []

/-! ## The steps -/

def SockAct.task (r : Nat) : SockAct → Task
  | .read _ => .read r
  | _ => .write r

namespace LatchSt

def new (connection : UsbConnection) : LatchSt where
  host := TransportBackend.new connection
  pcs := fun _ => none
  opening := []
  reader := .top
  notified := false
  wakers := Wakers.new

/-- The call goes on from another place, or has returned. -/
def setPc (s : LatchSt) (g : Agent) (pc : Option Pc) : LatchSt :=
  { s with pcs := Function.update s.pcs g pc }

/-- The socket is in the table. -/
def inTable (s : LatchSt) (r : Nat) : Bool :=
  s.host.backends[r]?.any fun k => decide (s.host.sockets k.localId = some r)

/-- The end of a section that did not fail. -/
def leave (s : LatchSt) (r : Nat) (a : SockAct) (n : SockNext) : LatchSt × LatchEvent :=
  let s := { s with host := s.host.afterSock r n }
  match n.goesOn with
  | some (.begun .poll) =>
    ({ s.setPc (.sock r) (some (.begun .poll)) with wakers := s.wakers.register (.write r) },
      .passed (.sock r) n.event.sent)
  | some pc => (s.setPc (.sock r) (some pc), .passed (.sock r) n.event.sent)
  | none =>
    match n.event with
    | .dropped _ => ({ s.setPc (.sock r) none with wakers := s.wakers.forget r }, .internal)
    | e =>
      let wakers := if e.ret = .pending then s.wakers.park (a.task r) else s.wakers
      ({ s.setPc (.sock r) none with wakers }, .returned (.sock r) e.ret e.sent)

/-- A call on a socket begins. -/
def begin (s : LatchSt) (r : Nat) (a : SockAct) : Option (LatchSt × LatchEvent) :=
  match s.host.backends[r]?, s.pcs (.sock r) with
  | some k, none =>
    if k.begins a then
      let s := s.setPc (.sock r) (some (.begun a))
      match a with
      | .drop => some (s, .internal)
      | a =>
        let wakers := s.wakers.start (a.task r)
        let wakers := if k.checks a then wakers.register (a.task r) else wakers
        some ({ s with wakers }, .began (.sock r))
    else none
  | _, _ => none

/-- The call looks for an error, and returns if there is one. -/
def check (s : LatchSt) (r : Nat) : Option (LatchSt × LatchEvent) :=
  match s.host.backends[r]?, s.pcs (.sock r) with
  | some k, some (.begun a) =>
    if k.checks a ∧ s.host.shared.error.isSome then
      -- the poll ends here
      match k.step s.host.shared a with
      | none => none
      | some n => some (s.leave r a n)
    else some (s.setPc (.sock r) (some (.checked a)), .internal)
  | _, _ => none

/-- The section under the lock of the connection. If it fails, the call goes on to `on_error`. -/
def enter (s : LatchSt) (r : Nat) : Option (LatchSt × LatchEvent) :=
  match s.host.backends[r]?, s.pcs (.sock r) with
  | some k, some (.checked a) =>
    let connection := s.host.shared.connection
    let wakers := if k.flushes a ∧ connection.isSome then s.wakers.push (a.task r) else s.wakers
    let s := { s with wakers }
    match k.step ⟨connection, none⟩ a with
    | none => none
    | some n =>
      match n.shared.error with
      | none => some (s.leave r a { n with shared := ⟨n.shared.connection, s.host.shared.error⟩ })
      | some err =>
        let shared := ⟨k.leftover connection err, s.host.shared.error⟩
        some ({ s with host := s.host.afterSock r { n with shared } }.setPc (.sock r)
            (some (.raising n.event.ret err)),
          .passed (.sock r) n.event.sent)
  | _, _ => none

/-- A spawned task is polled. -/
def beginWriter (s : LatchSt) (i : Nat) : Option (LatchSt × LatchEvent) :=
  match s.host.writers[i]?, s.pcs (.writer i) with
  | some w, none =>
    if w.done then none
    else
      some ({ s.setPc (.writer i) (some (.checked .poll)) with
        wakers := s.wakers.start (.close i) }, .began (.writer i))
  | _, _ => none

/-- The section of a spawned writer. -/
def enterWriter (s : LatchSt) (i : Nat) : Option (LatchSt × LatchEvent) :=
  match s.host.writers[i]?, s.pcs (.writer i) with
  | some w, some (.checked _) =>
    let connection := s.host.shared.connection
    let wakers := if connection.isSome then s.wakers.push (.close i) else s.wakers
    let p := writeMessageAsync w.msg ⟨connection, none⟩
    let writers := s.host.writers.set i
      { w with msg := p.msg, done := decide (p.outcome ≠ .pending) }
    match p.shared.error with
    | none =>
      let wakers := if p.outcome.ret = .pending then wakers.park (.close i) else wakers
      some ({ s with
          host := { s.host with writers, shared := ⟨p.shared.connection, s.host.shared.error⟩ }
          wakers }.setPc (.writer i) none,
        .returned (.writer i) p.outcome.ret p.sent)
    | some err =>
      let leftover := (writeMessageAsync w.msg ⟨connection, some err⟩).shared.connection
      some ({ s with
          host := { s.host with writers, shared := ⟨leftover, s.host.shared.error⟩ }
          wakers }.setPc (.writer i) (some (.raising p.outcome.ret err)),
        .passed (.writer i) p.sent)
  | _, _ => none

/-- `reader_task` hands the error of `handle_message` to `on_error` and stops. -/
def stopReader (s : LatchSt) (err : Error) : LatchSt :=
  { s with reader := .stopped }.setPc .reader (some (.raising .err err))

/-- The reader task looks for an error at the top of its loop. -/
def readerCheck (s : LatchSt) : Option (LatchSt × LatchEvent) :=
  match s.reader, s.host.removing with
  | .top, none =>
    match s.host.shared.checkError with
    | .error err => some (s.stopReader err, .internal)
    | .ok () => some ({ s with reader := .reading, notified := false }, .internal)
  | _, _ => none

/-- The reader task polls the connection for a message. -/
def readerPoll (s : LatchSt) : Option (LatchSt × LatchEvent) :=
  match s.reader with
  | .reading =>
    match s.host.shared.connection with
    | none => some (s.stopReader (.kind .closed), .internal)
    | some c =>
      match c.pollReadMessage with
      | (.pending, c) => some ({ s with host.shared.connection := some c }, .internal)
      | (.ready (.ok msg), c) =>
        some ({ s with host.shared.connection := some c, reader := .dispatching msg }, .read msg)
      | (.ready (.error err), c) =>
        some ({ s with host.shared.connection := some c }.stopReader err, .internal)
  | _ => none

/-- The reader task hands on the message it has read. -/
def dispatch (s : LatchSt) : Option (LatchSt × LatchEvent) :=
  match s.reader with
  | .dispatching msg =>
    match { s.host with shared.error := none }.dispatch msg with
    | none => none
    | some (host, e) =>
      let wakers :=
        match e with
        | .handled r msg => s.wakers.handled r msg
        | _ => s.wakers
      match host.shared.error with
      | some err => some (s.stopReader err, .dispatched msg)
      | none =>
        some ({ s with
          host := { host with shared.error := s.host.shared.error }
          reader := .top
          wakers }, .dispatched msg)
  | _ => none

/-- A new socket and the poll that writes its first message. -/
def create (s : LatchSt) (host : TransportBackend) : LatchSt :=
  { s with host, wakers := s.wakers.start (.write s.host.backends.length) }.setPc
    (.sock s.host.backends.length) (some (.checked .poll))

/-- One section of a call, or one step around them. -/
def step (s : LatchSt) : LatchAct → Option (LatchSt × LatchEvent)
  | .begin r a => s.begin r a
  | .check r => s.check r
  | .enter r => s.enter r
  | .beginWriter i => s.beginWriter i
  | .enterWriter i => s.enterWriter i
  | .openSocket service =>
    match s.host.shared.checkError with
    | .error _ => some (s, .refused)
    | .ok () => some ({ s with opening := s.opening ++ [service] }, .internal)
  | .create j =>
    match s.opening[j]? with
    | none => none
    | some service =>
      some ({ s with opening := s.opening.eraseIdx j }.create
        (s.host.create .openSocket (State.new 0 0) (openMessage service)), .internal)
  | .accept i =>
    match hostMachine.step s.host (.accept i) with
    | none => none
    | some (host, _) => some (s.create host, .began (.sock s.host.backends.length))
  | .refuse i =>
    match hostMachine.step s.host (.refuse i) with
    | none => none
    | some (host, _) => some ({ s with host }, .internal)
  | .dropInbound => some ({ s with host.inbound := false, host.pending := [] }, .internal)
  | .close c =>
    match s.pcs (.closer c) with
    | none => some (s.setPc (.closer c) (some (.raising .ok (.kind .closed))), .internal)
    | some _ => none
  | .readerCheck => s.readerCheck
  | .readerPoll => s.readerPoll
  | .readerNotified =>
    if s.reader = .reading ∧ s.notified then
      some ({ s with reader := .top, notified := false }, .internal)
    else none
  | .dispatch => s.dispatch
  | .removeClosed =>
    match hostMachine.step s.host .removeClosed with
    | none => none
    | some (host, _) => some ({ s with host }, .internal)
  | .receive packet =>
    match s.host.shared.connection with
    | none => none
    | some c =>
      match c.inEndpoint.receive c.packetSize packet with
      | none => none
      | some inEndpoint =>
        some ({ s with host.shared.connection := some { c with inEndpoint } }, .internal)
  | .complete c =>
    match s.host.shared.connection with
    | none => none
    | some _ =>
      some ({ s with host.shared := s.host.shared.complete c, wakers.waking := s.wakers.waking + 1 },
        .internal)
  | .wake =>
    if 0 < s.wakers.waking then some ({ s with wakers := s.wakers.drain }, .internal) else none
  -- `on_error`, in its three critical sections: the error, the connection, the wakers
  | .set g =>
    match s.pcs g with
    | some (.raising ret err) =>
      -- an error was set before: this call of `on_error` does nothing more
      if s.host.shared.error.isSome then some (s.setPc g none, .returned g ret [])
      else some ({ s with host.shared.error := some err }.setPc g (some (.taking ret)), .internal)
    | _ => none
  | .take g =>
    match s.pcs g with
    | some (.taking ret) =>
      some ({ s with host.shared.connection := none }.setPc g (some (.notifying ret)), .internal)
    | _ => none
  | .notify g =>
    match s.pcs g with
    | some (.notifying _) =>
      some ({ s with
          wakers := s.wakers.notifyAll s.inTable
          notified := decide (s.reader = ReaderStage.reading) }.setPc g none, .latched g)
    | _ => none

end LatchSt

/-- The calls on a transport, cut at every lock. -/
def latchMachine : Machine LatchSt LatchAct LatchEvent := ⟨LatchSt.step⟩

/-! ## What a step can do -/

/-- The wakers at the start of a poll. -/
def Wakers.begun (w : Wakers) (k : Sock) (r : Nat) (a : SockAct) : Wakers :=
  if k.checks a then (w.start (a.task r)).register (a.task r) else w.start (a.task r)

/-- The wakers when a section may flush the connection. -/
def Wakers.entered (w : Wakers) (t : Task) (flushes : Prop) [Decidable flushes] : Wakers :=
  if flushes then w.push t else w

/-- What the reader task leaves of a message that it dispatched without an error: the connection, and
where each socket and each write stands. -/
structure Dispatched (b b' : TransportBackend) : Prop where
  shared : b'.shared = b.shared
  backend : ∀ (r : Nat) (k : Sock), b.backends[r]? = some k →
    ∃ k', b'.backends[r]? = some k' ∧ k'.phase = k.phase ∧ (k'.waits = true → k.waits = true)
  writer : ∀ (i : Nat) (w : Writer), b.writers[i]? = some w → b'.writers[i]? = some w

/-- The steps, each with the call that takes it, and cut at every lock: what a call has read before
may have changed when it goes on. -/
inductive LatchStep (s : LatchSt) : Option Agent → LatchSt → LatchEvent → Prop
  | begin {r : Nat} {k : Sock} {a : SockAct} (hr : s.host.backends[r]? = some k)
      (hpc : s.pcs (.sock r) = none) (hbegins : k.begins a = true) (ha : a ≠ .drop) :
      LatchStep s (some (.sock r))
        { s.setPc (.sock r) (some (.begun a)) with wakers := s.wakers.begun k r a }
        (.began (.sock r))
  | beginDrop {r : Nat} {k : Sock} (hr : s.host.backends[r]? = some k)
      (hpc : s.pcs (.sock r) = none) (hbegins : k.begins .drop = true) :
      LatchStep s (some (.sock r)) (s.setPc (.sock r) (some (.begun .drop))) .internal
  | checkFails {r : Nat} {k : Sock} {a : SockAct} {n : SockNext}
      (hr : s.host.backends[r]? = some k) (hpc : s.pcs (.sock r) = some (.begun a))
      (hchecks : k.checks a = true) (herr : s.host.shared.error.isSome)
      (hs : k.step s.host.shared a = some n) :
      LatchStep s (some (.sock r)) (s.leave r a n).1 (s.leave r a n).2
  | checkPasses {r : Nat} {k : Sock} {a : SockAct} (hr : s.host.backends[r]? = some k)
      (hpc : s.pcs (.sock r) = some (.begun a))
      (herr : k.checks a = true → s.host.shared.error = none) :
      LatchStep s (some (.sock r)) (s.setPc (.sock r) (some (.checked a))) .internal
  | enter {r : Nat} {k : Sock} {a : SockAct} {n : SockNext} {wakers : Wakers}
      (hr : s.host.backends[r]? = some k) (hpc : s.pcs (.sock r) = some (.checked a))
      (hw : wakers = s.wakers.entered (a.task r)
        (k.flushes a = true ∧ s.host.shared.connection.isSome = true))
      (hs : k.step ⟨s.host.shared.connection, none⟩ a = some n) (herr : n.shared.error = none) :
      LatchStep s (some (.sock r))
        ({ s with wakers }.leave r a
          { n with shared := ⟨n.shared.connection, s.host.shared.error⟩ }).1
        ({ s with wakers }.leave r a
          { n with shared := ⟨n.shared.connection, s.host.shared.error⟩ }).2
  | raise {r : Nat} {k : Sock} {a : SockAct} {n : SockNext} {wakers : Wakers} {err : Error}
      (hr : s.host.backends[r]? = some k) (hpc : s.pcs (.sock r) = some (.checked a))
      (hw : wakers = s.wakers.entered (a.task r)
        (k.flushes a = true ∧ s.host.shared.connection.isSome = true))
      (hs : k.step ⟨s.host.shared.connection, none⟩ a = some n) (herr : n.shared.error = some err) :
      LatchStep s (some (.sock r))
        ({ s with
          wakers
          host := s.host.afterSock r
            { n with
              shared := ⟨k.leftover s.host.shared.connection err, s.host.shared.error⟩ } }.setPc
          (.sock r) (some (.raising n.event.ret err)))
        (.passed (.sock r) n.event.sent)
  | beginWriter {i : Nat} {w : Writer} (hi : s.host.writers[i]? = some w)
      (hpc : s.pcs (.writer i) = none) (hdone : w.done = false) :
      LatchStep s (some (.writer i))
        { s.setPc (.writer i) (some (.checked .poll)) with wakers := s.wakers.start (.close i) }
        (.began (.writer i))
  | enterWriter {i : Nat} {w : Writer} {a : SockAct} {p : AsyncWrite} {wakers : Wakers}
      (hi : s.host.writers[i]? = some w) (hpc : s.pcs (.writer i) = some (.checked a))
      (hp : p = writeMessageAsync w.msg ⟨s.host.shared.connection, none⟩)
      (herr : p.shared.error = none)
      (hw : wakers = s.wakers.entered (.close i) (s.host.shared.connection.isSome = true)) :
      LatchStep s (some (.writer i))
        ({ s with
          host := { s.host with
            writers := s.host.writers.set i
              { w with msg := p.msg, done := decide (p.outcome ≠ Outcome.pending) }
            shared := ⟨p.shared.connection, s.host.shared.error⟩ }
          wakers := if p.outcome.ret = Return.pending then wakers.park (.close i) else wakers }.setPc
          (.writer i) none)
        (.returned (.writer i) p.outcome.ret p.sent)
  | raiseWriter {i : Nat} {w : Writer} {a : SockAct} {p : AsyncWrite} {wakers : Wakers}
      {err : Error} (hi : s.host.writers[i]? = some w)
      (hpc : s.pcs (.writer i) = some (.checked a))
      (hp : p = writeMessageAsync w.msg ⟨s.host.shared.connection, none⟩)
      (herr : p.shared.error = some err)
      (hw : wakers = s.wakers.entered (.close i) (s.host.shared.connection.isSome = true)) :
      LatchStep s (some (.writer i))
        ({ s with
          host := { s.host with
            writers := s.host.writers.set i
              { w with msg := p.msg, done := decide (p.outcome ≠ Outcome.pending) }
            shared := ⟨(writeMessageAsync w.msg
              ⟨s.host.shared.connection, some err⟩).shared.connection, s.host.shared.error⟩ }
          wakers }.setPc (.writer i) (some (.raising p.outcome.ret err)))
        (.passed (.writer i) p.sent)
  | create {opening : List String} {pending : List PendingSocket} {call : Call} {state : State}
      {msg : UInt32 → AdbMessage} {e : LatchEvent}
      (he : e = .internal ∨ e = .began (.sock s.host.backends.length)) :
      LatchStep s (some (.sock s.host.backends.length))
        ({ s with opening }.create ({ s.host with pending }.create call state msg)) e
  | close {c : Nat} (hpc : s.pcs (.closer c) = none) :
      LatchStep s (some (.closer c))
        (s.setPc (.closer c) (some (.raising .ok (.kind .closed)))) .internal
  | readerStops {connection : Option UsbConnection} {err : Error} {e : LatchEvent}
      (hreader : (e = .internal ∧ (s.reader = .top ∨ s.reader = .reading)) ∨
        ∃ msg, e = .dispatched msg ∧ s.reader = .dispatching msg)
      (hconn : connection.isSome = s.host.shared.connection.isSome) :
      LatchStep s (some .reader) ({ s with host.shared.connection := connection }.stopReader err) e
  | readerReads {msg : AdbMessage} {c : UsbConnection} (hreader : s.reader = .reading)
      (hconn : s.host.shared.connection.isSome) :
      LatchStep s none
        { s with host.shared.connection := some c, reader := .dispatching msg } (.read msg)
  | dispatched {msg : AdbMessage} {host : TransportBackend} {wakers : Wakers}
      (hreader : s.reader = .dispatching msg) (hhost : Dispatched s.host host)
      (hw : wakers = s.wakers ∨ ∃ r msg, wakers = s.wakers.handled r msg) :
      LatchStep s none { s with host, reader := .top, wakers } (.dispatched msg)
  | setFails {g : Agent} {ret : Return} {err : Error} (hpc : s.pcs g = some (.raising ret err))
      (herr : s.host.shared.error.isSome) :
      LatchStep s (some g) (s.setPc g none) (.returned g ret [])
  | set {g : Agent} {ret : Return} {err : Error} (hpc : s.pcs g = some (.raising ret err))
      (herr : s.host.shared.error = none) :
      LatchStep s (some g)
        ({ s with host.shared.error := some err }.setPc g (some (.taking ret))) .internal
  | take {g : Agent} {ret : Return} (hpc : s.pcs g = some (.taking ret)) :
      LatchStep s (some g)
        ({ s with host.shared.connection := none }.setPc g (some (.notifying ret))) .internal
  | notify {g : Agent} {ret : Return} {notified : Bool} (hpc : s.pcs g = some (.notifying ret)) :
      LatchStep s (some g)
        ({ s with wakers := s.wakers.notifyAll s.inTable, notified }.setPc g none) (.latched g)
  /-- Nothing happens to the calls that are under way. -/
  | other {s' : LatchSt} {e : LatchEvent} (hpcs : s'.pcs = s.pcs)
      (herror : s'.host.shared.error = s.host.shared.error)
      (hconn : s'.host.shared.connection.isSome = s.host.shared.connection.isSome)
      (hbackends : s'.host.backends = s.host.backends)
      (hwriters : ∃ new, s'.host.writers = s.host.writers ++ new)
      (hreader : s'.reader = s.reader ∨ ((s.reader = .top ∨ s.reader = .reading) ∧
        (s'.reader = .top ∨ s'.reader = .reading)))
      (hwakers : (∃ waking, s'.wakers = { s.wakers with waking }) ∨ s'.wakers = s.wakers.drain)
      (he : e = .internal ∨ e = .refused) : LatchStep s none s' e

/-- Dispatching a message, as far as the calls under way are concerned. -/
theorem dispatched_of_dispatch {b b' : TransportBackend} {msg : AdbMessage} {e : HostEvent}
    (h : { b with shared.error := none }.dispatch msg = some (b', e))
    (herr : b'.shared.error = none) :
    Dispatched b { b' with shared.error := b.shared.error } := by
  -- an `OPEN` touches the queue and the writers, never a socket
  have hsame : ∀ {pending : List PendingSocket} {inbound : Bool} {writers : List Writer}
      {sh : Shared}, sh = b.shared → (∃ new, writers = b.writers ++ new) →
      Dispatched b { b with shared := sh, pending, inbound, writers } := by
    rintro pending inbound writers sh rfl ⟨new, rfl⟩
    refine ⟨rfl, fun r k hr => ⟨k, hr, rfl, id⟩, fun i w hi => ?_⟩
    exact (List.getElem?_append_left (List.getElem?_eq_some_iff.mp hi).1).trans hi
  have hsocket : { b with shared.error := none }.handleSocket msg = some (b', e) →
      Dispatched b { b' with shared.error := b.shared.error } := by
    intro h
    unfold TransportBackend.handleSocket at h
    split at h
    · cases h
      exact hsame rfl ⟨[], by simp⟩
    · rename_i r hid
      split at h
      · exact absurd h (by simp)
      · rename_i k hr
        split at h
        · rename_i st hm
          cases h
          refine ⟨rfl, fun r' k' hr' => ?_, fun i w hi => hi⟩
          by_cases heq : r = r'
          · subst heq
            obtain rfl : k = k' := Option.some.inj (hr.symm.trans hr')
            exact ⟨_, getElem?_set_of_some hr _, rfl, Sock.waits_of_handleMessage hm⟩
          · exact ⟨k', (List.getElem?_set_ne heq).trans hr', rfl, id⟩
        · cases h
          simp [TransportBackend.fail, Shared.onError] at herr
        · exact absurd h (by simp)
  unfold TransportBackend.dispatch at h
  split at h
  · exact absurd h (by simp)
  · split at h
    · obtain ⟨hb, -⟩ := Prod.mk.inj (Option.some.inj h)
      unfold TransportBackend.handleOpen at hb
      simp only at hb
      split at hb
      · rw [← hb] at herr
        simp [TransportBackend.fail, Shared.onError] at herr
      · split at hb
        · rw [← hb]
          exact hsame rfl ⟨[], by simp⟩
        · rw [← hb]
          exact hsame rfl ⟨_, rfl⟩
    · exact hsocket h
    · exact hsocket h
    · exact hsocket h
    · cases h
      exact hsame rfl ⟨[], by simp⟩

/-- A step that leaves the calls, the reader task and the wakers alone. -/
theorem LatchStep.quiet {s s' : LatchSt} {e : LatchEvent} (hpcs : s'.pcs = s.pcs)
    (herror : s'.host.shared.error = s.host.shared.error)
    (hconn : s'.host.shared.connection.isSome = s.host.shared.connection.isSome)
    (hbackends : s'.host.backends = s.host.backends)
    (hwriters : ∃ new, s'.host.writers = s.host.writers ++ new) (hreader : s'.reader = s.reader)
    (hwakers : s'.wakers = s.wakers) (he : e = .internal ∨ e = .refused) : LatchStep s none s' e :=
  .other hpcs herror hconn hbackends hwriters (.inl hreader) (.inl ⟨s.wakers.waking, hwakers⟩) he

namespace LatchSt

variable {s s' : LatchSt} {e : LatchEvent}

theorem latchStep_of_begin {r : Nat} {a : SockAct} (hs : s.begin r a = some (s', e)) :
    ∃ g, LatchStep s g s' e := by
  unfold begin at hs
  split at hs
  · rename_i k hr hpc
    split at hs
    · rename_i hbegins
      split at hs
      · cases hs
        exact ⟨_, .beginDrop hr hpc hbegins⟩
      · rename_i ha
        cases hs
        exact ⟨_, .begin hr hpc hbegins ha⟩
    · exact absurd hs (by simp)
  · exact absurd hs (by simp)

/-- The check of the error, before the connection is locked. -/
theorem latchStep_of_check {r : Nat} (hs : s.check r = some (s', e)) : ∃ g, LatchStep s g s' e := by
  unfold check at hs
  split at hs
  · rename_i k a hr hpc
    split at hs
    · rename_i hcond
      split at hs
      · exact absurd hs (by simp)
      · rename_i n hn
        obtain ⟨rfl, rfl⟩ := Prod.mk.inj (Option.some.inj hs)
        exact ⟨_, .checkFails hr hpc hcond.1 hcond.2 hn⟩
    · rename_i hcond
      cases hs
      exact ⟨_, .checkPasses hr hpc fun hchecks => by simpa [hchecks] using hcond⟩
  · exact absurd hs (by simp)

/-- The poll itself, with the connection locked. -/
theorem latchStep_of_enter {r : Nat} (hs : s.enter r = some (s', e)) : ∃ g, LatchStep s g s' e := by
  unfold enter at hs
  split at hs
  · rename_i k a hr hpc
    simp only at hs
    split at hs
    · exact absurd hs (by simp)
    · rename_i n hn
      split at hs
      · rename_i herr
        obtain ⟨rfl, rfl⟩ := Prod.mk.inj (Option.some.inj hs)
        exact ⟨_, .enter hr hpc rfl hn herr⟩
      · rename_i err herr
        cases hs
        exact ⟨_, .raise hr hpc rfl hn herr⟩
  · exact absurd hs (by simp)

/-- A spawned writer that begins a poll. -/
theorem latchStep_of_beginWriter {i : Nat} (hs : s.beginWriter i = some (s', e)) :
    ∃ g, LatchStep s g s' e := by
  unfold beginWriter at hs
  split at hs
  · rename_i w hi hpc
    split at hs
    · exact absurd hs (by simp)
    · rename_i hdone
      cases hs
      exact ⟨_, .beginWriter hi hpc (by simpa using hdone)⟩
  · exact absurd hs (by simp)

theorem latchStep_of_enterWriter {i : Nat} (hs : s.enterWriter i = some (s', e)) :
    ∃ g, LatchStep s g s' e := by
  unfold enterWriter at hs
  split at hs
  · rename_i w a hi hpc
    simp only at hs
    split at hs
    · rename_i herr
      cases hs
      exact ⟨_, .enterWriter hi hpc rfl herr rfl⟩
    · rename_i err herr
      cases hs
      exact ⟨_, .raiseWriter hi hpc rfl herr rfl⟩
  · exact absurd hs (by simp)

/-- The reader task checks for an error. -/
theorem latchStep_of_readerCheck (hs : s.readerCheck = some (s', e)) : ∃ g, LatchStep s g s' e := by
  unfold readerCheck at hs
  split at hs
  · rename_i hreader hremoving
    split at hs
    · cases hs
      exact ⟨_, .readerStops (.inl ⟨rfl, .inl hreader⟩) rfl⟩
    · cases hs
      exact ⟨_, .other rfl rfl rfl rfl ⟨[], by simp⟩ (.inr ⟨.inl hreader, .inr rfl⟩) (.inl ⟨_, rfl⟩)
        (.inl rfl)⟩
  · exact absurd hs (by simp)

/-- The reader task polls for a message. -/
theorem latchStep_of_readerPoll (hs : s.readerPoll = some (s', e)) : ∃ g, LatchStep s g s' e := by
  unfold readerPoll at hs
  split at hs
  · rename_i hreader
    split at hs
    · cases hs
      exact ⟨_, .readerStops (.inl ⟨rfl, .inr hreader⟩) rfl⟩
    · rename_i c hc
      split at hs
      · cases hs
        exact ⟨_, .quiet rfl rfl (by rw [hc]; rfl) rfl ⟨[], by simp⟩ rfl rfl (.inl rfl)⟩
      · cases hs
        exact ⟨_, .readerReads hreader (by rw [hc]; rfl)⟩
      · cases hs
        exact ⟨_, .readerStops (.inl ⟨rfl, .inr hreader⟩) (by rw [hc]; rfl)⟩
  · exact absurd hs (by simp)

/-- The reader task dispatches what it has read. -/
theorem latchStep_of_dispatch (hs : s.dispatch = some (s', e)) : ∃ g, LatchStep s g s' e := by
  unfold dispatch at hs
  split at hs
  · rename_i msg hreader
    split at hs
    · exact absurd hs (by simp)
    · rename_i host ev hhost
      simp only at hs
      split at hs
      · cases hs
        exact ⟨_, .readerStops (.inr ⟨msg, rfl, hreader⟩) rfl⟩
      · rename_i herr
        cases hs
        refine ⟨_, .dispatched hreader (dispatched_of_dispatch hhost herr) ?_⟩
        split
        · exact .inr ⟨_, _, rfl⟩
        · exact .inl rfl
  · exact absurd hs (by simp)

end LatchSt

/-- Every step of the machine is one of `LatchStep`, of some task. -/
theorem latchStep_of_step {s s' : LatchSt} {a : LatchAct} {e : LatchEvent}
    (hs : latchMachine.step s a = some (s', e)) : ∃ g, LatchStep s g s' e := by
  cases a with
  | begin r a => exact LatchSt.latchStep_of_begin hs
  | check r => exact LatchSt.latchStep_of_check hs
  | enter r => exact LatchSt.latchStep_of_enter hs
  | beginWriter i => exact LatchSt.latchStep_of_beginWriter hs
  | enterWriter i => exact LatchSt.latchStep_of_enterWriter hs
  | openSocket service =>
    simp only [latchMachine, LatchSt.step] at hs
    split at hs
    · cases hs
      exact ⟨_, .quiet rfl rfl rfl rfl ⟨[], by simp⟩ rfl rfl (.inr rfl)⟩
    · cases hs
      exact ⟨_, .quiet rfl rfl rfl rfl ⟨[], by simp⟩ rfl rfl (.inl rfl)⟩
  | create j =>
    simp only [latchMachine, LatchSt.step] at hs
    split at hs
    · exact absurd hs (by simp)
    · cases hs
      exact ⟨_, .create (.inl rfl)⟩
  | accept i =>
    simp only [latchMachine, LatchSt.step] at hs
    split at hs
    · exact absurd hs (by simp)
    · rename_i host ev hhost
      cases hs
      simp only [hostMachine, TransportBackend.step] at hhost
      split at hhost
      · exact absurd hhost (by simp)
      · cases hhost
        exact ⟨_, .create (.inr rfl)⟩
  | refuse i =>
    simp only [latchMachine, LatchSt.step] at hs
    split at hs
    · exact absurd hs (by simp)
    · rename_i host ev hhost
      cases hs
      simp only [hostMachine, TransportBackend.step] at hhost
      split at hhost
      · exact absurd hhost (by simp)
      · cases hhost
        exact ⟨_, .quiet rfl rfl rfl rfl ⟨_, rfl⟩ rfl rfl (.inl rfl)⟩
  | dropInbound =>
    cases hs
    exact ⟨_, .quiet rfl rfl rfl rfl ⟨[], by simp⟩ rfl rfl (.inl rfl)⟩
  | close c =>
    simp only [latchMachine, LatchSt.step] at hs
    split at hs
    · rename_i hpc
      cases hs
      exact ⟨_, .close hpc⟩
    · exact absurd hs (by simp)
  | readerCheck => exact LatchSt.latchStep_of_readerCheck hs
  | readerPoll => exact LatchSt.latchStep_of_readerPoll hs
  | readerNotified =>
    simp only [latchMachine, LatchSt.step] at hs
    split at hs
    · rename_i hcond
      cases hs
      exact ⟨_, .other rfl rfl rfl rfl ⟨[], by simp⟩ (.inr ⟨.inr hcond.1, .inl rfl⟩) (.inl ⟨_, rfl⟩)
        (.inl rfl)⟩
    · exact absurd hs (by simp)
  | dispatch => exact LatchSt.latchStep_of_dispatch hs
  | removeClosed =>
    simp only [latchMachine, LatchSt.step] at hs
    split at hs
    · exact absurd hs (by simp)
    · rename_i host ev hhost
      cases hs
      simp only [hostMachine, TransportBackend.step] at hhost
      split at hhost
      · exact absurd hhost (by simp)
      · cases hhost
        exact ⟨_, .quiet rfl rfl rfl rfl ⟨[], by simp⟩ rfl rfl (.inl rfl)⟩
  | receive packet =>
    simp only [latchMachine, LatchSt.step] at hs
    split at hs
    · exact absurd hs (by simp)
    · rename_i c hc
      split at hs
      · exact absurd hs (by simp)
      · cases hs
        exact ⟨_, .quiet rfl rfl (by rw [hc]; rfl) rfl ⟨[], by simp⟩ rfl rfl (.inl rfl)⟩
  | complete c =>
    simp only [latchMachine, LatchSt.step] at hs
    split at hs
    · exact absurd hs (by simp)
    · cases hs
      exact ⟨_, .other rfl rfl (by simp [Shared.complete]) rfl ⟨[], by simp⟩ (.inl rfl) (.inl ⟨_, rfl⟩)
        (.inl rfl)⟩
  | wake =>
    simp only [latchMachine, LatchSt.step] at hs
    split at hs
    · cases hs
      exact ⟨_, .other rfl rfl rfl rfl ⟨[], by simp⟩ (.inl rfl) (.inr rfl) (.inl rfl)⟩
    · exact absurd hs (by simp)
  | set g =>
    simp only [latchMachine, LatchSt.step] at hs
    split at hs
    · rename_i ret err hpc
      split at hs
      · rename_i herr
        cases hs
        exact ⟨_, .setFails hpc herr⟩
      · rename_i herr
        cases hs
        exact ⟨_, .set hpc (by simpa using herr)⟩
    · exact absurd hs (by simp)
  | take g =>
    simp only [latchMachine, LatchSt.step] at hs
    split at hs
    · rename_i ret hpc
      cases hs
      exact ⟨_, .take hpc⟩
    · exact absurd hs (by simp)
  | notify g =>
    simp only [latchMachine, LatchSt.step] at hs
    split at hs
    · rename_i ret hpc
      cases hs
      exact ⟨_, .notify hpc⟩
    · exact absurd hs (by simp)

/-! ## The end of a section -/

section Leave

variable {s : LatchSt} {r : Nat} {a : SockAct} {n : SockNext}

/-- The calls and the event after a section. -/
theorem LatchSt.leave_cases (s : LatchSt) (r : Nat) (a : SockAct) (n : SockNext) :
    (s.leave r a n).1.pcs = Function.update s.pcs (.sock r) n.goesOn ∧
      (s.leave r a n).1.host = s.host.afterSock r n ∧ (s.leave r a n).1.reader = s.reader ∧
      ((∃ pc, n.goesOn = some pc ∧ (s.leave r a n).2 = .passed (.sock r) n.event.sent) ∨
        (n.goesOn = none ∧ (∃ msg, n.event = .dropped msg) ∧ (s.leave r a n).2 = .internal) ∨
        (n.goesOn = none ∧ (∀ msg, n.event ≠ .dropped msg) ∧
          (s.leave r a n).2 = .returned (.sock r) n.event.ret n.event.sent)) := by
  unfold leave
  simp only
  split
  · rename_i hon
    exact ⟨by rw [hon]; rfl, rfl, rfl, .inl ⟨_, hon, rfl⟩⟩
  · rename_i pc _ hon
    exact ⟨by rw [hon]; rfl, rfl, rfl, .inl ⟨pc, hon, rfl⟩⟩
  · rename_i hon
    split
    · rename_i msg hev
      exact ⟨by rw [hon]; rfl, rfl, rfl, .inr (.inl ⟨hon, ⟨msg, hev⟩, rfl⟩)⟩
    · rename_i hev
      exact ⟨by rw [hon]; rfl, rfl, rfl, .inr (.inr ⟨hon, hev, rfl⟩)⟩

/-- What a poll has sent is shown with its return. -/
theorem LatchSt.leave_sent : (s.leave r a n).2.sent = n.event.sent := by
  obtain ⟨-, -, -, ⟨_, -, he⟩ | ⟨-, ⟨msg, hev⟩, he⟩ | ⟨-, -, he⟩⟩ := s.leave_cases r a n
  · rw [he]
    rfl
  · rw [he, hev]
    rfl
  · rw [he]
    rfl

/-- A section of a socket is none of the events of the reader task or of `on_error`. -/
theorem LatchSt.leave_event {e : LatchEvent} (h : (s.leave r a n).2 = e) :
    (∀ msg, e ≠ .read msg) ∧ (∀ msg, e ≠ .dispatched msg) ∧ (∀ g, e ≠ .latched g) ∧
      ∀ g, e ≠ .began g := by
  obtain ⟨-, -, -, ⟨_, -, he⟩ | ⟨-, -, he⟩ | ⟨-, -, he⟩⟩ := s.leave_cases r a n
  · rw [← h, he]
    simp
  · rw [← h, he]
    simp
  · rw [← h, he]
    simp

end Leave

/-! ## The shared state -/

namespace LatchStep

variable {s s' : LatchSt} {g : Option Agent} {e : LatchEvent}

/-- The error is set once. -/
theorem error (h : LatchStep s g s' e) {err : Error} (herr : s.host.shared.error = some err) :
    s'.host.shared.error = some err := by
  cases h with
  | begin | beginDrop | checkPasses | beginWriter | enterWriter | raiseWriter | create | close
  | readerStops | readerReads | setFails | take | notify | raise => exact herr
  | @checkFails _ _ _ n hr hpc hchecks hsome hs =>
    rw [(LatchSt.leave_cases ..).2.1]
    change n.shared.error = some err
    rw [(Sock.step_of_error hchecks hsome hs).1]
    exact herr
  | enter hr hpc hw hs hnone =>
    rw [(LatchSt.leave_cases ..).2.1]
    exact herr
  | dispatched hreader hhost hw =>
    rw [hhost.shared]
    exact herr
  | set hpc hnone => simp [hnone] at herr
  | other hpcs herror => rw [herror, herr]

/-- Without a connection nothing is submitted and nothing is read, since every poll and write begins
by looking for it. -/
theorem no_connection (h : LatchStep s g s' e) (hconn : s.host.shared.connection = none) :
    s'.host.shared.connection = none ∧ e.sent = [] ∧ ∀ msg, e ≠ .read msg := by
  cases h with
  | begin | beginDrop | checkPasses | beginWriter | close | setFails | set | notify =>
    exact ⟨hconn, rfl, by simp⟩
  -- every other step leaves the slot empty, and this one empties it
  | take => exact ⟨rfl, rfl, by simp⟩
  | @checkFails r k a n hr hpc hchecks hsome hs =>
    obtain ⟨hsh, hsent, -⟩ := Sock.step_of_error hchecks hsome hs
    refine ⟨?_, LatchSt.leave_sent.trans hsent, (LatchSt.leave_event rfl).1⟩
    rw [(LatchSt.leave_cases ..).2.1]
    change n.shared.connection = none
    rw [hsh, hconn]
  | @enter r k a n wakers hr hpc hw hs hnone =>
    rw [hconn] at hs
    obtain ⟨hsh, hsent, -⟩ := Sock.step_of_no_connection hs
    refine ⟨?_, LatchSt.leave_sent.trans hsent, (LatchSt.leave_event rfl).1⟩
    rw [(LatchSt.leave_cases ..).2.1]
    change n.shared.connection = none
    rw [hsh]
  | raise hr hpc hw hs hsome =>
    rw [hconn] at hs
    rw [(Sock.step_of_no_connection hs).1] at hsome
    exact absurd hsome (by simp)
  | enterWriter hi hpc hp hnone hw =>
    rw [hconn, writeMessageAsync_of_none] at hp
    subst hp
    exact ⟨rfl, rfl, by simp⟩
  | raiseWriter hi hpc hp hsome hw =>
    rw [hconn, writeMessageAsync_of_none] at hp
    subst hp
    exact absurd hsome (by simp)
  | create he =>
    refine ⟨hconn, ?_⟩
    rcases he with rfl | rfl <;> simp [LatchEvent.sent]
  | @readerStops connection err _ hreader hsame =>
    have hnone : connection = none := by simpa [hconn] using hsame
    refine ⟨hnone, ?_⟩
    rcases hreader with ⟨rfl, -⟩ | ⟨msg, rfl, -⟩ <;> simp [LatchEvent.sent]
  | readerReads hreader hsome => simp [hconn] at hsome
  | dispatched hreader hhost hw =>
    refine ⟨?_, rfl, by simp⟩
    rw [hhost.shared]
    exact hconn
  | other hpcs herror hsame hbackends hwriters hreader hwakers he =>
    rw [hconn] at hsame
    refine ⟨by simpa using hsame, ?_⟩
    rcases he with rfl | rfl <;> simp [LatchEvent.sent]

end LatchStep

/-! ## Sections without interference -/

section Sound

variable {s : LatchSt} {b : TransportBackend} {ev : HostEvent}

/-- `on_error`, when nothing comes between its steps. -/
theorem LatchSt.exists_run_of_raising {g : Agent} {ret : Return} {err : Error}
    (hpc : s.pcs g = some (.raising ret err)) (herr : s.host.shared.error = none) :
    ∃ tr s', latchMachine.Run s tr s' ∧ s'.host = { s.host with shared := ⟨none, some err⟩ } ∧
      tr.flatMap LatchEvent.sent = [] := by
  have hset : latchMachine.step s (.set g) =
      some ({ s with host.shared.error := some err }.setPc g (some (.taking ret)), .internal) := by
    simp only [latchMachine, step, hpc, herr, Option.isSome_none, Bool.false_eq_true, if_false]
  have hupdate : ∀ (s : LatchSt) (pc : Pc), (s.setPc g (some pc)).pcs g = some pc :=
    fun s pc => Function.update_self ..
  have htake : latchMachine.step
      ({ s with host.shared.error := some err }.setPc g (some (.taking ret))) (.take g) =
      some ({ s with host.shared := ⟨none, some err⟩ }.setPc g (some (.notifying ret)), .internal) := by
    simp only [latchMachine, step, hupdate]
    simp [setPc]
  have hnotify : ∃ s', latchMachine.step
      ({ s with host.shared := ⟨none, some err⟩ }.setPc g (some (.notifying ret))) (.notify g) =
      some (s', .latched g) ∧ s'.host = { s.host with shared := ⟨none, some err⟩ } := by
    simp only [latchMachine, step, hupdate]
    exact ⟨_, rfl, rfl⟩
  obtain ⟨s', hnotify, hhost⟩ := hnotify
  exact ⟨_, s', ((Machine.Run.single hset).snoc htake).snoc hnotify, hhost, rfl⟩

/-- A section of a socket, with the `on_error` after it, is a step of `hostMachine`. -/
theorem LatchSt.exists_run_of_sock {r : Nat} {a : SockAct}
    (hpc : s.pcs (.sock r) = some (.checked a)) (herr : s.host.shared.error = none)
    (hhost : hostMachine.step s.host (.sock r a) = some (b, ev)) :
    ∃ tr s', latchMachine.Run s tr s' ∧ s'.host = b ∧ tr.flatMap LatchEvent.sent = ev.sent := by
  have hshared : s.host.shared = ⟨s.host.shared.connection, none⟩ := by rw [← herr]
  simp only [hostMachine, TransportBackend.step] at hhost
  split at hhost
  · exact absurd hhost (by simp)
  · rename_i k hr
    split at hhost
    · exact absurd hhost (by simp)
    · rename_i n hn
      cases hhost
      have htaken := Sock.step_taken hn fun h => absurd herr h
      rw [hshared] at hn
      cases hfail : n.shared.error with
      | none =>
        have henter : ∃ s' e, latchMachine.step s (.enter r) = some (s', e) ∧
            s'.host = s.host.afterSock r n ∧ e.sent = n.event.sent := by
          have hn' : ({ n with shared := ⟨n.shared.connection, none⟩ } : SockNext) = n := by
            rw [← hfail]
          simp only [latchMachine, step, enter, hr, hpc, hn, hfail, herr, hn']
          exact ⟨_, _, rfl, (leave_cases ..).2.1, leave_sent⟩
        obtain ⟨s', e, henter, hhost', hsent⟩ := henter
        exact ⟨_, s', Machine.Run.single henter, hhost', by simpa [HostEvent.sent] using hsent⟩
      -- the step failed: the agent goes through the sections of `on_error` with nobody in
      -- between
      | some err =>
        have henter : ∃ s', latchMachine.step s (.enter r) =
              some (s', .passed (.sock r) n.event.sent) ∧
            s'.pcs (.sock r) = some (.raising n.event.ret err) ∧
            s'.host = s.host.afterSock r
              { n with shared := ⟨k.leftover s.host.shared.connection err, none⟩ } := by
          simp only [latchMachine, step, enter, hr, hpc, hn, hfail, herr]
          exact ⟨_, rfl, Function.update_self .., rfl⟩
        obtain ⟨s₁, henter, hpc₁, hhost₁⟩ := henter
        obtain ⟨tr, s', hrun, hhost', hsent⟩ :=
          exists_run_of_raising hpc₁ (by rw [hhost₁]; rfl)
        refine ⟨_, s', (Machine.Run.single henter).trans hrun, ?_, ?_⟩
        · have hn' : n.shared = ⟨none, some err⟩ := by
            rw [← hfail, ← htaken (by rw [hfail]; simp)]
          rw [hhost', hhost₁]
          simp only [TransportBackend.afterSock, hn']
        · simpa [HostEvent.sent, LatchEvent.sent] using hsent

/-- So is a poll of a write: with nobody in between, its steps and those of its `on_error` do what
the host does in one. -/
theorem LatchSt.exists_run_of_writer {i : Nat} {a : SockAct}
    (hpc : s.pcs (.writer i) = some (.checked a)) (herr : s.host.shared.error = none)
    (hhost : hostMachine.step s.host (.writer i) = some (b, ev)) :
    ∃ tr s', latchMachine.Run s tr s' ∧ s'.host = b ∧ tr.flatMap LatchEvent.sent = ev.sent := by
  have hshared : s.host.shared = ⟨s.host.shared.connection, none⟩ := by rw [← herr]
  simp only [hostMachine, TransportBackend.step] at hhost
  split at hhost
  · exact absurd hhost (by simp)
  · rename_i w hi
    split at hhost
    · exact absurd hhost (by simp)
    · cases hhost
      have htaken := writeMessageAsync_taken (fun h => absurd herr h) w.msg
      rw [hshared] at htaken ⊢
      generalize hp : writeMessageAsync w.msg ⟨s.host.shared.connection, none⟩ = p at htaken ⊢
      cases hfail : p.shared.error with
      | none =>
        have henter : ∃ s', latchMachine.step s (.enterWriter i) =
              some (s', .returned (.writer i) p.outcome.ret p.sent) ∧
            s'.host = { s.host with
              shared := ⟨p.shared.connection, none⟩
              writers := s.host.writers.set i
                { w with msg := p.msg, done := decide (p.outcome ≠ Outcome.pending) } } := by
          simp only [latchMachine, step, enterWriter, hi, hpc, hp, hfail, herr]
          exact ⟨_, rfl, rfl⟩
        obtain ⟨s', henter, hhost'⟩ := henter
        refine ⟨_, s', Machine.Run.single henter, ?_, by simp [HostEvent.sent, LatchEvent.sent]⟩
        rw [hhost', ← hfail]
      | some err =>
        have henter : ∃ s' leftover, latchMachine.step s (.enterWriter i) =
              some (s', .passed (.writer i) p.sent) ∧
            s'.pcs (.writer i) = some (.raising p.outcome.ret err) ∧
            s'.host = { s.host with
              shared := ⟨leftover, none⟩
              writers := s.host.writers.set i
                { w with msg := p.msg, done := decide (p.outcome ≠ Outcome.pending) } } := by
          simp only [latchMachine, step, enterWriter, hi, hpc, hp, hfail, herr]
          exact ⟨_, _, rfl, Function.update_self .., rfl⟩
        obtain ⟨s₁, leftover, henter, hpc₁, hhost₁⟩ := henter
        obtain ⟨tr, s', hrun, hhost', hsent⟩ :=
          exists_run_of_raising hpc₁ (by rw [hhost₁])
        refine ⟨_, s', (Machine.Run.single henter).trans hrun, ?_, ?_⟩
        · have hp' : p.shared = ⟨none, some err⟩ := by
            rw [← hfail, ← htaken (by rw [hfail]; simp)]
          rw [hhost', hhost₁, hp']
        · simpa [HostEvent.sent, LatchEvent.sent] using hsent

end Sound

/-! ## Calls under way -/

/-- A step leaves a call where it was. -/
structure Undisturbed (s s' : LatchSt) (e : LatchEvent) (g : Agent) : Prop where
  pc : s'.pcs g = s.pcs g
  backend : ∀ (r : Nat) (k : Sock), g = .sock r → s.host.backends[r]? = some k →
    ∃ k', s'.host.backends[r]? = some k' ∧ k'.phase = k.phase ∧ (k'.waits = true → k.waits = true)
  writer : ∀ (i : Nat) (w : Writer), g = .writer i → s.host.writers[i]? = some w →
    s'.host.writers[i]? = some w
  began : e ≠ .began g
  returned : ∀ ret sent, e ≠ .returned g ret sent

section Undisturbed

variable {s s' : LatchSt} {e : LatchEvent} {g g₀ : Agent}

/-- Another call goes on, and neither sockets nor writes change. -/
theorem Undisturbed.of_host {pc : Option Pc} (hg : g₀ ≠ g)
    (hpcs : s'.pcs = Function.update s.pcs g₀ pc) (hbackends : s'.host.backends = s.host.backends)
    (hwriters : s'.host.writers = s.host.writers) (hbegan : e ≠ .began g)
    (hreturned : ∀ ret sent, e ≠ .returned g ret sent) : Undisturbed s s' e g where
  pc := by rw [hpcs, Function.update_of_ne hg.symm]
  backend r k _ hr := ⟨k, by rw [hbackends, hr], rfl, id⟩
  writer i w _ hi := by rw [hwriters, hi]
  began := hbegan
  returned := hreturned

/-- Another socket leaves its section. -/
theorem Undisturbed.of_afterSock {r : Nat} {n : SockNext} {pc : Option Pc} (hg : .sock r ≠ g)
    (hpcs : s'.pcs = Function.update s.pcs (.sock r) pc) (hhost : s'.host = s.host.afterSock r n)
    (hbegan : e ≠ .began g) (hreturned : ∀ ret sent, e ≠ .returned g ret sent) :
    Undisturbed s s' e g where
  pc := by rw [hpcs, Function.update_of_ne hg.symm]
  backend r' k hr' hk := by
    have hne : r ≠ r' := fun heq => hg (by rw [hr', heq])
    refine ⟨k, ?_, rfl, id⟩
    rw [hhost]
    exact (List.getElem?_set_ne hne).trans hk
  writer i w _ hi := by
    rw [hhost]
    exact afterSock_writers.1 hi
  began := hbegan
  returned := hreturned

/-- The return of one task does not disturb another. -/
theorem Undisturbed.of_leave {s₁ : LatchSt} {r : Nat} {a : SockAct} {n : SockNext}
    (hg : .sock r ≠ g) (hpcs : s₁.pcs = s.pcs) (hhost : s₁.host = s.host) :
    Undisturbed s (s₁.leave r a n).1 (s₁.leave r a n).2 g := by
  obtain ⟨hpcs', hhost', -, hevent⟩ := s₁.leave_cases r a n
  refine .of_afterSock hg (by rw [hpcs', hpcs]) (by rw [hhost', hhost])
    ((LatchSt.leave_event rfl).2.2.2 g) fun ret sent hret => ?_
  rcases hevent with ⟨_, -, he⟩ | ⟨-, -, he⟩ | ⟨-, -, he⟩
  · simp [he] at hret
  · simp [he] at hret
  · rw [he] at hret
    injection hret with hsock
    exact hg hsock

/-- Another write ends a poll. -/
theorem Undisturbed.of_writer {i : Nat} {w : Writer} {pc : Option Pc} (hg : .writer i ≠ g)
    (hpcs : s'.pcs = Function.update s.pcs (.writer i) pc)
    (hbackends : s'.host.backends = s.host.backends)
    (hwriters : s'.host.writers = s.host.writers.set i w) (hbegan : e ≠ .began g)
    (hreturned : ∀ ret sent, e ≠ .returned g ret sent) : Undisturbed s s' e g where
  pc := by rw [hpcs, Function.update_of_ne hg.symm]
  backend r k _ hr := ⟨k, by rw [hbackends, hr], rfl, id⟩
  writer i' w' hi' hw' := by
    have hne : i ≠ i' := fun heq => hg (by rw [hi', heq])
    rw [hwriters]
    exact (List.getElem?_set_ne hne).trans hw'
  began := hbegan
  returned := hreturned

/-- A step is taken by one call, and leaves the others where they were. -/
theorem LatchStep.undisturbed {g' : Option Agent} (h : LatchStep s g' s' e) (hg : g' ≠ some g) :
    Undisturbed s s' e g := by
  have hne : ∀ {g₀}, some g₀ ≠ some g → g₀ ≠ g := fun h heq => h (by rw [heq])
  cases h with
  | begin hr hpc =>
    refine .of_host (hne hg) rfl rfl rfl (fun he => ?_) (by simp)
    injection he with heq
    exact hne hg heq
  | beginDrop | checkPasses | close | set | take | notify =>
    exact .of_host (hne hg) rfl rfl rfl (by simp) (by simp)
  | setFails =>
    refine .of_host (hne hg) rfl rfl rfl (by simp) fun ret sent he => ?_
    injection he with heq
    exact hne hg heq
  | beginWriter hi hpc =>
    refine .of_host (hne hg) rfl rfl rfl (fun he => ?_) (by simp)
    injection he with heq
    exact hne hg heq
  | checkFails | enter => exact .of_leave (hne hg) rfl rfl
  | raise => exact .of_afterSock (hne hg) rfl rfl (by simp) (by simp)
  | enterWriter =>
    refine .of_writer (hne hg) rfl rfl rfl (by simp) fun ret sent he => ?_
    injection he with heq
    exact hne hg heq
  | raiseWriter => exact .of_writer (hne hg) rfl rfl rfl (by simp) (by simp)
  | create he =>
    refine ⟨Function.update_of_ne (hne hg).symm _ _, fun r k _ hr => ⟨k, ?_, rfl, id⟩, fun i w _ hi => hi,
      fun hbegan => ?_, fun ret sent hret => ?_⟩
    · exact (List.getElem?_append_left (List.getElem?_eq_some_iff.mp hr).1).trans hr
    · rcases he with rfl | rfl
      · simp at hbegan
      · injection hbegan with heq
        exact hne hg heq
    · rcases he with rfl | rfl <;> simp at hret
  | readerStops hreader =>
    refine .of_host (hne hg) rfl rfl rfl ?_ ?_
    · rcases hreader with ⟨rfl, -⟩ | ⟨msg, rfl, -⟩ <;> simp
    · rcases hreader with ⟨rfl, -⟩ | ⟨msg, rfl, -⟩ <;> simp
  | readerReads =>
    exact ⟨rfl, fun r k _ hr => ⟨k, hr, rfl, id⟩, fun i w _ hi => hi, by simp, by simp⟩
  | dispatched hreader hhost =>
    exact ⟨rfl, fun r k _ hr => hhost.backend r k hr, fun i w _ hi => hhost.writer i w hi, by simp,
      by simp⟩
  | other hpcs herror hconn hbackends hwriters hreader hwakers he =>
    obtain ⟨new, hwriters⟩ := hwriters
    refine ⟨by rw [hpcs], fun r k _ hr => ⟨k, by rw [hbackends, hr], rfl, id⟩, fun i w _ hi => ?_, ?_, ?_⟩
    · rw [hwriters]
      exact (List.getElem?_append_left (List.getElem?_eq_some_iff.mp hi).1).trans hi
    · rcases he with rfl | rfl <;> simp
    · rcases he with rfl | rfl <;> simp

end Undisturbed

end AdbDaemon.Transport
