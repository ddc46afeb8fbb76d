import AdbDaemon.SmartSocket.Session

/-!
# Starting a daemon

Reference: `src/daemon.rs`, `check_adb_server` and `bind_smartsocket`, with the caller `main` of
`src/main.rs`.

Any number of processes may call `bind_smartsocket` at once, on a port that an adb server, an earlier
daemon or nobody holds. `startupMachine` interleaves them: a connection goes to the server that holds
the port, which answers when it gets to it, and a server that was told to exit does so later. A
daemon answers as `sessionMachine` does; what an adb server answers is a parameter.

The system is asked for three things: a port is held by one listener at a time, a connection to a port
that nobody holds is refused, and the end of a process closes its connections.

A process that has bound the port goes on to serve it. That is how `main` calls `bind_smartsocket`; the
caller `adb_shim` of `src/sys/unix.rs`, whose parent process keeps its copy of the listener across
`exec`, is not modelled.
-/

namespace AdbDaemon.Daemon

open Common SmartSocket

/-! ## One request -/

/-- What `run_service` is called for. -/
inductive Query where
  | probe
  | kill
deriving DecidableEq

/-- The service that `run_service` asks for. -/
def Query.service : Query → String
  | .probe => "host:is-adb-daemon-rs"
  | .kill => "host:kill"

/-- What a server makes of a request: the bytes it writes, after which it closes the connection, and
whether its process ends. -/
structure Answer where
  reply : List UInt8
  exits : Bool
deriving DecidableEq

/-- What `run_service` returns for a reply: the status, or `none` if there is none. -/
def runService (reply : List UInt8) : Option Bool :=
  if reply.length < 4 then none else some (reply.take 4 = toBytes "OKAY")

def isExited : SessionStage → Bool
  | .exited => true
  | _ => false

/-- The answer of a daemon is what a session sends for the bytes of the request. -/
def daemonAnswer (q : Query) : Answer :=
  let request := writeProtocolString (toBytes q.service)
  match Session.new.step (.read ((readProtocolString request).map Prod.fst)) with
  | none => ⟨[], false⟩
  | some (s, e) => ⟨e.sent.flatMap Frame.encode, isExited s.stage⟩

/-! ## The processes and the port -/

/-- Who may listen on the port: an adb server, or the daemon of a start. -/
inductive Server where
  | adb
  /-- The daemon that this process has started. -/
  | daemon (p : Nat)
deriving DecidableEq

/-- Why `bind_smartsocket` fails. -/
inductive StartError where
  /-- An error of `run_service` for the probe. -/
  | probe
  | kill
  /-- "failed to kill adb". -/
  | notKilled
  /-- Any other error, of a connection or of `bind`, or the end of the process. -/
  | other
deriving DecidableEq

def Query.error : Query → StartError
  | .probe => .probe
  | .kill => .kill

/-- Where a call of `bind_smartsocket` is; servers are numbered in the order in which they listened. -/
inductive StartStage where
  | connecting (q : Query)
  | asked (q : Query) (i : Nat)
  | answered (q : Query) (i : Nat) (answer : Answer)
  /-- `check_adb_server` has returned `false`. -/
  | binding
  /-- `Some`: the process has become this server. -/
  | bound (i : Nat)
  /-- `None`, a daemon is running already. -/
  | running
  | failed (err : StartError)
deriving DecidableEq

def StartStage.ended : StartStage → Bool
  | .bound _ | .running | .failed _ => true
  | _ => false

/-- Every server there has been, who holds the port, whether that one was told to exit, and how far
each start has come. -/
structure StartupSt where
  servers : List Server
  /-- Who holds the port. -/
  port : Option Nat
  /-- Whether it has been told to exit. -/
  exiting : Bool
  starts : List StartStage
deriving DecidableEq

/-- The host that the processes run on. -/
structure Host where
  /-- What an adb server answers. -/
  adb : Query → Answer
  /-- Whether `127.0.0.1` leads to the address that is listened on. -/
  loopback : Bool

/-- The steps of the starts, of the servers, and of the system. -/
inductive StartAct where
  | launch
  /-- `TcpStream::connect`. -/
  | connect (p : Nat)
  /-- The server answers. -/
  | serve (p : Nat)
  /-- `run_service` returns. -/
  | finish (p : Nat)
  /-- The server is gone before it has answered. -/
  | lose (p : Nat)
  /-- `TcpListener::bind`. -/
  | bind (p : Nat)
  /-- The server exits as it was told to. -/
  | exit
  /-- The server ends for a reason of its own. -/
  | die
  /-- An adb server is started. -/
  | adbStart
  /-- A start fails, or its process ends. -/
  | stop (p : Nat)

/-- What can be seen of a step, with the start that takes it. -/
inductive StartEvent where
  | launched (p : Nat)
  | connected (p : Nat) (q : Query) (i : Nat)
  | refused (p : Nat) (q : Query)
  | served (p : Nat) (q : Query) (i : Nat)
  | heard (p : Nat) (q : Query) (i : Nat) (ok : Option Bool)
  | lost (p : Nat) (q : Query) (i : Nat)
  | bound (p : Nat) (i : Nat)
  | inUse (p : Nat)
  | exited (i : Nat)
  | died (i : Nat)
  | adbStarted (i : Nat)
  | stopped (p : Nat)
deriving DecidableEq

/-- The answer of a server: that of adb is a parameter, and a daemon answers by its session. -/
def Host.answer (host : Host) (q : Query) : Server → Answer
  | .adb => host.adb q
  | .daemon _ => daemonAnswer q

/-- What follows `run_service`. -/
def Query.next (q : Query) (ok : Option Bool) : StartStage :=
  match q, ok with
  | .probe, some true => .running
  | .probe, some false => .connecting .kill
  | .kill, some true => .binding
  | .kill, some false => .failed .notKilled
  | q, none => .failed q.error

namespace StartupSt

/-- Nobody has started anything. -/
def new : StartupSt := ⟨[], none, false, []⟩

/-- An adb server holds the port. -/
def withAdb : StartupSt := ⟨[.adb], some 0, false, []⟩

def move (s : StartupSt) (p : Nat) (stage : StartStage) : StartupSt :=
  { s with starts := s.starts.set p stage }

/-- A server begins to listen. -/
def listen (s : StartupSt) (server : Server) : StartupSt :=
  { s with servers := s.servers ++ [server], port := some s.servers.length, exiting := false }

/-- The server has ended. -/
def free (s : StartupSt) : StartupSt := { s with port := none, exiting := false }

/-- Whom a connection to `127.0.0.1` reaches. -/
def reach (s : StartupSt) (host : Host) : Option Nat := if host.loopback then s.port else none

/-- The start connects, if it reaches somebody; otherwise it goes on as `check_adb_server` does. -/
def connect (s : StartupSt) (host : Host) (p : Nat) : Option (StartupSt × StartEvent) :=
  match s.starts[p]?, s.reach host with
  | some (.connecting q), some i => some (s.move p (.asked q i), .connected p q i)
  -- `ConnectionRefused`
  | some (.connecting .probe), none => some (s.move p .binding, .refused p .probe)
  | some (.connecting .kill), none => some (s.move p (.failed .kill), .refused p .kill)
  | _, _ => none

/-- The server answers the start that has asked it, and begins to exit if it was told to. -/
def serve (s : StartupSt) (host : Host) (p : Nat) : Option (StartupSt × StartEvent) :=
  match s.starts[p]? with
  | some (.asked q i) =>
    match s.servers[i]? with
    | none => none
    | some server =>
      if s.port = some i then
        let answer := host.answer q server
        some ({ s.move p (.answered q i answer) with exiting := s.exiting || answer.exits },
          .served p q i)
      else none
  | _ => none

/-- The start reads the answer to its end, and takes the next branch. -/
def finish (s : StartupSt) (p : Nat) : Option (StartupSt × StartEvent) :=
  match s.starts[p]? with
  | some (.answered q i answer) =>
    -- one byte more, or the end of the connection
    if 4 < answer.reply.length ∨ answer.exits = false ∨ s.port ≠ some i then
      some (s.move p (q.next (runService answer.reply)), .heard p q i (runService answer.reply))
    else none
  | _ => none

/-- The server has gone before it answered: the read fails. -/
def lose (s : StartupSt) (p : Nat) : Option (StartupSt × StartEvent) :=
  match s.starts[p]? with
  | some (.asked q i) =>
    if s.port = some i then none else some (s.move p (.failed q.error), .lost p q i)
  | _ => none

/-- The start binds the port, or begins its round again because the port is in use. -/
def bind (s : StartupSt) (p : Nat) : Option (StartupSt × StartEvent) :=
  match s.starts[p]?, s.port with
  | some .binding, none =>
    some ((s.listen (.daemon p)).move p (.bound s.servers.length), .bound p s.servers.length)
  -- `AddrInUse`
  | some .binding, some _ => some (s.move p (.connecting .probe), .inUse p)
  | _, _ => none

/-- One step of a start, of a server or of the system. -/
def step (host : Host) (s : StartupSt) : StartAct → Option (StartupSt × StartEvent)
  | .launch =>
    some ({ s with starts := s.starts ++ [.connecting .probe] }, .launched s.starts.length)
  | .connect p => s.connect host p
  | .serve p => s.serve host p
  | .finish p => s.finish p
  | .lose p => s.lose p
  | .bind p => s.bind p
  | .exit =>
    match s.port with
    | some i => if s.exiting then some (s.free, .exited i) else none
    | none => none
  | .die => s.port.map fun i => (s.free, .died i)
  | .adbStart =>
    match s.port with
    | none => some (s.listen .adb, .adbStarted s.servers.length)
    | some _ => none
  | .stop p =>
    match s.starts[p]? with
    | some stage => if stage.ended then none else some (s.move p (.failed .other), .stopped p)
    | none => none

end StartupSt

/-- Any number of starts and the servers they meet, interleaved. -/
def startupMachine (host : Host) : Machine StartupSt StartAct StartEvent := ⟨StartupSt.step host⟩

/-! ## What a step does -/

/-- The steps of the machine, with the facts about the servers under which each is taken. -/
inductive StartStep (host : Host) (s : StartupSt) : StartupSt → StartEvent → Prop
  | launch :
      StartStep host s { s with starts := s.starts ++ [.connecting .probe] }
        (.launched s.starts.length)
  | connect {p i : Nat} {q : Query} (hp : s.starts[p]? = some (.connecting q))
      (hreach : s.reach host = some i) : StartStep host s (s.move p (.asked q i)) (.connected p q i)
  | refused {p : Nat} (hp : s.starts[p]? = some (.connecting .probe)) (hreach : s.reach host = none) :
      StartStep host s (s.move p .binding) (.refused p .probe)
  | unkilled {p : Nat} (hp : s.starts[p]? = some (.connecting .kill)) (hreach : s.reach host = none) :
      StartStep host s (s.move p (.failed .kill)) (.refused p .kill)
  | serve {p i : Nat} {q : Query} {server : Server} (hp : s.starts[p]? = some (.asked q i))
      (hserver : s.servers[i]? = some server) (hport : s.port = some i) :
      StartStep host s
        { s.move p (.answered q i (host.answer q server)) with
          exiting := s.exiting || (host.answer q server).exits }
        (.served p q i)
  | finish {p i : Nat} {q : Query} {answer : Answer}
      (hp : s.starts[p]? = some (.answered q i answer))
      (hdone : 4 < answer.reply.length ∨ answer.exits = false ∨ s.port ≠ some i) :
      StartStep host s (s.move p (q.next (runService answer.reply)))
        (.heard p q i (runService answer.reply))
  | lose {p i : Nat} {q : Query} (hp : s.starts[p]? = some (.asked q i)) (hport : s.port ≠ some i) :
      StartStep host s (s.move p (.failed q.error)) (.lost p q i)
  | bind {p : Nat} (hp : s.starts[p]? = some .binding) (hport : s.port = none) :
      StartStep host s ((s.listen (.daemon p)).move p (.bound s.servers.length))
        (.bound p s.servers.length)
  | inUse {p i : Nat} (hp : s.starts[p]? = some .binding) (hport : s.port = some i) :
      StartStep host s (s.move p (.connecting .probe)) (.inUse p)
  | exit {i : Nat} (hexit : s.exiting = true) (hport : s.port = some i) :
      StartStep host s s.free (.exited i)
  | die {i : Nat} (hport : s.port = some i) : StartStep host s s.free (.died i)
  | adbStart (hport : s.port = none) :
      StartStep host s (s.listen .adb) (.adbStarted s.servers.length)
  | stop {p : Nat} {stage : StartStage} (hp : s.starts[p]? = some stage)
      (hlive : stage.ended = false) : StartStep host s (s.move p (.failed .other)) (.stopped p)

/-- Every step of the machine is one of `StartStep`; the cases are those of the action, and within it
the branches of its definition. -/
theorem startStep_of_step {host : Host} {s s' : StartupSt} {a : StartAct} {e : StartEvent}
    (h : (startupMachine host).step s a = some (s', e)) : StartStep host s s' e := by
  have hs : s.step host a = some (s', e) := h
  cases a with
  | launch =>
    cases hs
    exact .launch
  | connect p =>
    simp only [StartupSt.step, StartupSt.connect] at hs
    split at hs
    · rename_i hp hreach
      cases hs
      exact .connect hp hreach
    · rename_i hp hreach
      cases hs
      exact .refused hp hreach
    · rename_i hp hreach
      cases hs
      exact .unkilled hp hreach
    · cases hs
  | serve p =>
    simp only [StartupSt.step, StartupSt.serve] at hs
    split at hs
    · rename_i hp
      split at hs
      · cases hs
      · rename_i hserver
        split at hs
        · rename_i hport
          cases hs
          exact .serve hp hserver hport
        · cases hs
    · cases hs
  | finish p =>
    simp only [StartupSt.step, StartupSt.finish] at hs
    split at hs
    · rename_i hp
      split at hs
      · rename_i hdone
        cases hs
        exact .finish hp hdone
      · cases hs
    · cases hs
  | lose p =>
    simp only [StartupSt.step, StartupSt.lose] at hs
    split at hs
    · rename_i hp
      split at hs
      · cases hs
      · rename_i hport
        cases hs
        exact .lose hp hport
    · cases hs
  | bind p =>
    simp only [StartupSt.step, StartupSt.bind] at hs
    split at hs
    · rename_i hp hport
      cases hs
      exact .bind hp hport
    · rename_i hp hport
      cases hs
      exact .inUse hp hport
    · cases hs
  | exit =>
    simp only [StartupSt.step] at hs
    split at hs
    · rename_i hport
      split at hs
      · rename_i hexit
        cases hs
        exact .exit hexit hport
      · cases hs
    · cases hs
  | die =>
    obtain ⟨i, hport, hn⟩ := Option.map_eq_some_iff.mp hs
    cases hn
    exact .die hport
  | adbStart =>
    simp only [StartupSt.step] at hs
    split at hs
    · rename_i hport
      cases hs
      exact .adbStart hport
    · cases hs
  | stop p =>
    simp only [StartupSt.step] at hs
    split at hs
    · rename_i hp
      split at hs
      · cases hs
      · rename_i hlive
        cases hs
        exact .stop hp (by simpa using hlive)
    · cases hs

/-! ## The answers of a daemon -/

/-- A daemon says `OKAY` to the probe, and goes on. -/
theorem daemonAnswer_probe : daemonAnswer .probe = ⟨toBytes "OKAY", false⟩ := by decide

/-- A daemon says `OKAY` to `host:kill`, and exits. -/
theorem daemonAnswer_kill : daemonAnswer .kill = ⟨toBytes "OKAY", true⟩ := by decide

theorem runService_okay : runService (toBytes "OKAY") = some true := by decide

end AdbDaemon.Daemon
