import AdbDaemon.Common.Copy
import AdbDaemon.Transport.LinkStreams

/-!
# Relaying a stream to a client

Reference: `handle_service` of `src/smart_socket/services.rs`, from `open_socket` on.

The session of a client that asked for a service of a device copies between its connection and the
socket, with one task for each way. When the device is done, the connection is shut down, the other
task is dropped, and what the client still sends is read and thrown away.

`relayMachine` runs the session over `linkMachine`; the connection is a pipe in each direction. What
the client and the device see is a run of one pipe for each way (`relay_simulation`); a way is given
up where its task fails or is dropped, and the way to the client also when the socket is shut down,
since a stream of the transport has no half-close.
-/

namespace AdbDaemon.SmartSocket

open Common Transport

def BUF_SIZE : Nat := 1024 * 1024

/-! ## The machine -/

/-- The two ways of a relayed stream. -/
inductive Way where
  | toClient
  | toDevice
deriving DecidableEq

/-- `socket_to_conn`: `copy_buf`, then the shutdown of the connection. -/
inductive DownStage where
  | fill
  | write (buf : List UInt8)
  | shutdown
  | ended

/-- `conn_to_socket`: `copy_buf` and its flush, then `poll_shutdown` of the socket; the stages
`shutdownMark` and `shutdownWrite` lie within one poll. -/
inductive UpStage where
  | fill
  | write (buf : List UInt8)
  | flush
  | shutdownFlush
  | shutdownMark
  | shutdownWrite
  | ended
deriving DecidableEq

/-- How far `handle_service` has come. -/
inductive MainStage where
  /-- `open_socket`, and the answer to the client. -/
  | opening
  | copying
  /-- Reading the connection to its end. -/
  | draining
  | dropping
  | returned
deriving DecidableEq

/-- What a task has read and not written, as long as it copies. -/
def DownStage.buf : DownStage → Option (List UInt8)
  | .fill => some []
  | .write buf => some buf
  | .shutdown | .ended => none

def UpStage.buf : UpStage → Option (List UInt8)
  | .fill => some []
  | .write buf => some buf
  | _ => none

/-- What a poll comes to. -/
inductive Turn (σ : Type) where
  | to (stage : σ)
  /-- The copy ends before its stream does. -/
  | fail (stage : σ)
  | panic

namespace DownStage

/-- `poll_fill_buf` of the socket. -/
def read : SockEvent → Turn DownStage
  | .read _ .pending _ => .to .fill
  | .read _ (.ready (.ok bytes)) _ => .to (if bytes = [] then .shutdown else .write bytes)
  | .read _ (.ready (.error _)) _ => .fail .shutdown
  | _ => .panic

/-- The connection takes `n` bytes, or fails. -/
def written (buf : List UInt8) : Option Nat → Turn DownStage
  | none | some 0 => .fail .shutdown
  | some n => .to (if buf.drop n = [] then .fill else .write (buf.drop n))

end DownStage

namespace UpStage

/-- What the task does with the socket; `tick` is about the write throttle. -/
def op (tick : Bool) : UpStage → Option SockAct
  | .write buf => some (.write buf tick)
  | .flush => some .flush
  | .shutdownFlush => some .shutdownFlush
  | .shutdownMark => some .shutdownMark
  | .shutdownWrite => some .shutdownWrite
  | .fill | .ended => none

/-- The poll of the socket is not over. -/
def midPoll : UpStage → Bool
  | .shutdownMark | .shutdownWrite => true
  | _ => false

def next : UpStage → SockEvent → Turn UpStage
  | .write buf, .wrote _ .pending _ => .to (.write buf)
  | .write _, .wrote _ (.ready (.ok 0)) _ => .fail .shutdownFlush
  | .write buf, .wrote _ (.ready (.ok n)) _ =>
    .to (if buf.drop n = [] then .fill else .write (buf.drop n))
  | .write _, .wrote _ (.ready (.error _)) _ => .fail .shutdownFlush
  | .flush, .flushed .pending => .to .flush
  | .flush, .flushed (.ready _) => .to .shutdownFlush
  | .shutdownFlush, .shutdownFlushed .pending => .to .shutdownFlush
  | .shutdownFlush, .shutdownFlushed (.ready (.ok ())) => .to .shutdownMark
  | .shutdownFlush, .shutdownFlushed (.ready (.error _)) => .to .ended
  | .shutdownMark, .shutdownMarked (some _) => .to .shutdownWrite
  | .shutdownMark, .shutdownMarked none => .to .ended
  | .shutdownWrite, .shutdownWritten .pending _ => .to .shutdownFlush
  | .shutdownWrite, .shutdownWritten (.ready _) _ => .to .ended
  | _, _ => .panic

end UpStage

/-- What reading the connection gives. -/
inductive TcpRead where
  | bytes (bs : List UInt8)
  | eof
  | error

/-- The transport with its device, the client's connection, and the three places in the code of the
session. -/
structure RelaySt where
  link : LinkSt
  /-- From the client, up to the buffer of `conn_r`. -/
  fromClient : Pipe UInt8
  toClient : Pipe UInt8
  down : DownStage
  up : UpStage
  main : MainStage

/-- The steps of the session, and of everybody else. -/
inductive RelayAct where
  /-- A step of the link that is not one of the session. -/
  | link (a : LinkAct)
  /-- The client uses its end of the connection. -/
  | client (a : PipeAct UInt8)
  /-- `open_socket` and `respond` are done, or one of them failed. -/
  | respond (ok : Bool)
  | downRead
  | downWrite (n : Option Nat)
  /-- The connection is shut down, if that succeeds; the loop ends. -/
  | downShutdown (ok : Bool)
  | upRead (res : TcpRead)
  | upPoll (tick : Bool)
  | drain (res : TcpRead)
  | timeout
  /-- Socket and connection are dropped. -/
  | drop

/-- What the host shows, and the uses of the two ways. -/
structure RelayEvent where
  host : HostEvent
  ways : List (Way × PipeAct UInt8)

/-- A step of the task that has the socket, other than a poll of `open_socket`. -/
def HostEvent.drives (r : Nat) : HostEvent → Bool
  | .sock _ (.polled _ _) | .sock _ (.waited _) => false
  | .sock r' _ => r' = r
  | _ => false

/-- What the device does at its end of the stream with this id. -/
def wayOf (id : UInt32) : StreamEvent → Option (Way × PipeAct UInt8)
  | (.toHost i, a) => if i = id ∧ a.byWriter = true then some (.toClient, a) else none
  | (.toDevice i, a) => if i = id ∧ a.byReader = true then some (.toDevice, a) else none

/-- The uses of the two ways by the device, at its end of this stream. -/
def deviceWays (id : Option UInt32) (acts : List StreamEvent) : List (Way × PipeAct UInt8) :=
  id.elim [] fun id => acts.filterMap (wayOf id)

/-- A task that has not come to the end of its copy is dropped. -/
def giveUp (way : Way) (buf : Option (List UInt8)) : List (Way × PipeAct UInt8) :=
  if buf.isSome then [(way, .abandon)] else []

namespace RelaySt

/-- A new transport, and a session that is about to open its socket. -/
def new (connection : UsbConnection) : RelaySt where
  link := LinkSt.new connection
  fromClient := .empty
  toClient := .empty
  down := .fill
  up := .fill
  main := .opening

/-- The id of the session's socket, once it has one. -/
def idOf (r : Nat) (s : RelaySt) : Option UInt32 := s.link.host.backends[r]?.map Sock.localId

/-- An operation of the session's socket. -/
def sock (r : Nat) (s : RelaySt) (op : SockAct) : Option (LinkSt × SockEvent) :=
  match linkMachine.step s.link (.host (.sock r op)) with
  | some (link, ⟨.sock _ e, _⟩) => some (link, e)
  | _ => none

/-- Both tasks are dropped. -/
def abort (s : RelaySt) : RelaySt × List (Way × PipeAct UInt8) :=
  ({ s with down := .ended, up := .ended, main := .dropping },
    giveUp .toClient s.down.buf ++ giveUp .toDevice s.up.buf)

/-- What a turn of `socket_to_conn` leads to, and what it gives up. -/
def downTo (s : RelaySt) : Turn DownStage → RelaySt × List (Way × PipeAct UInt8)
  | .to down => ({ s with down }, [])
  | .fail down => ({ s with down }, giveUp .toClient s.down.buf)
  | .panic => s.abort

/-- What a turn of `conn_to_socket` leads to, and what it gives up. -/
def upTo (s : RelaySt) : Turn UpStage → RelaySt × List (Way × PipeAct UInt8)
  | .to up => ({ s with up }, [])
  | .fail up => ({ s with up }, giveUp .toDevice s.up.buf)
  | .panic => s.abort

/-- One step; the two copies take turns, as the `select!` of the loop polls them. -/
def step (r : Nat) (s : RelaySt) : RelayAct → Option (RelaySt × RelayEvent)
  | .link a =>
    match linkMachine.step s.link a with
    | none => none
    | some (link, e) =>
      -- the socket of this session is driven by its own task only
      if HostEvent.drives r e.host then none
      else some ({ s with link }, ⟨e.host, deviceWays (s.idOf r) e.streams⟩)
  | .client a =>
    match a with
    | .write _ | .finish =>
      (s.fromClient.step a).map fun fromClient =>
        ({ s with fromClient }, ⟨.internal, [(.toDevice, a)]⟩)
    | .read _ | .eof =>
      (s.toClient.step a).map fun toClient => ({ s with toClient }, ⟨.internal, [(.toClient, a)]⟩)
    | .abandon => none
  | .respond ok =>
    if s.main = .opening then
      if ok then
        if (s.link.host.backends[r]?.any fun k => k.phase = .idle) then
          some ({ s with main := .copying }, ⟨.internal, []⟩)
        else none
      else some (s.abort.1, ⟨.internal, s.abort.2⟩)
    else none
  | .downRead =>
    if s.main = .copying ∧ s.up.midPoll = false then
      match s.down with
      | .fill =>
        match s.sock r (.read BUF_SIZE) with
        | none => none
        | some (link, e) =>
          let (s, ways) := { s with link }.downTo (DownStage.read e)
          some (s, ⟨.sock r e, ways⟩)
      | _ => none
    else none
  | .downWrite n =>
    if s.main = .copying ∧ s.up.midPoll = false then
      match s.down with
      | .write buf =>
        (s.toClient.step (.write (buf.take (n.getD 0)))).map fun toClient =>
          let (s, ways) := { s with toClient }.downTo (DownStage.written buf n)
          (s, ⟨.internal, ways⟩)
      | _ => none
    else none
  | .downShutdown ok =>
    if s.main = .copying ∧ s.up.midPoll = false then
      match s.down with
      | .shutdown =>
        (if ok then s.toClient.step .finish else some s.toClient).map fun toClient =>
          ({ s with toClient, down := .ended, up := .ended, main := .draining },
            ⟨.internal, giveUp .toDevice s.up.buf⟩)
      | _ => none
    else none
  | .upRead res =>
    if s.main = .copying then
      match s.up with
      | .fill =>
        match res with
        | .bytes bs =>
          if bs ≠ [] ∧ bs.length ≤ BUF_SIZE then
            (s.fromClient.step (.read bs)).map fun fromClient =>
              ({ s with fromClient, up := .write bs }, ⟨.internal, []⟩)
          else none
        | .eof =>
          (s.fromClient.step .eof).map fun fromClient =>
            ({ s with fromClient, up := .flush }, ⟨.internal, []⟩)
        | .error => some ({ s with up := .shutdownFlush }, ⟨.internal, giveUp .toDevice s.up.buf⟩)
      | _ => none
    else none
  | .upPoll tick =>
    if s.main = .copying then
      match s.up.op tick with
      | none => none
      | some op =>
        match s.sock r op with
        | none => none
        | some (link, e) =>
          let marked :=
            match e with
            | .shutdownMarked (some _) => giveUp .toClient s.down.buf
            | _ => []
          let (s, ways) := { s with link }.upTo (s.up.next e)
          some (s, ⟨.sock r e, marked ++ ways⟩)
    else none
  -- what the client still sends is read and dropped, until it closes or five seconds have
  -- passed
  | .drain res =>
    if s.main = .draining then
      match res with
      | .bytes bs =>
        (s.fromClient.step (.read bs)).map fun fromClient =>
          ({ s with fromClient }, ⟨.internal, []⟩)
      | .eof =>
        (s.fromClient.step .eof).map fun fromClient =>
          ({ s with fromClient, main := .dropping }, ⟨.internal, []⟩)
      | .error => some ({ s with main := .dropping }, ⟨.internal, []⟩)
    else none
  | .timeout =>
    if s.main = .draining then some ({ s with main := .dropping }, ⟨.internal, []⟩) else none
  | .drop =>
    if s.main = .dropping then
      match s.sock r .drop with
      | none => none
      | some (link, e) =>
        (s.toClient.step .finish).map fun toClient =>
          ({ s with link, toClient, main := .returned }, ⟨.sock r e, []⟩)
    else none

end RelaySt

/-- The session whose socket is number `r`, interleaved with the transport, the device and the
client. -/
def relayMachine (r : Nat) : Machine RelaySt RelayAct RelayEvent := ⟨RelaySt.step r⟩

/-- The schedules in which the host does not run out of ids. -/
def unwrappedRelay (r : Nat) : Machine RelaySt RelayAct RelayEvent :=
  (relayMachine r).restrict fun s _ e => IdNotWrapped s.link.host e.host

/-! ## When a way is given up -/

/-- The copy ends with an error. -/
def Turn.fails {σ : Type} : Turn σ → Bool
  | .fail _ => true
  | _ => false

/-- The poll ends in a panic, which takes the whole session with it. -/
def Turn.panics {σ : Type} : Turn σ → Bool
  | .panic => true
  | _ => false

/-- What the task of a way has read and not written, as long as it copies. -/
def RelaySt.buf (s : RelaySt) : Way → Option (List UInt8)
  | .toClient => s.down.buf
  | .toDevice => s.up.buf

/-- The steps that end the copy of a way before its stream has ended. -/
inductive GivesUp (s : RelaySt) : Way → RelayAct → HostEvent → Prop
  /-- There is no stream, or the client does not take the answer. -/
  | refused (way : Way) : GivesUp s way (.respond false) .internal
  | socketRead {r : Nat} {ev : SockEvent} (h : (DownStage.read ev).fails = true) :
      GivesUp s .toClient .downRead (.sock r ev)
  | connWrite {n : Option Nat} (h : n.getD 0 = 0) :
      GivesUp s .toClient (.downWrite n) .internal
  /-- The loop ends with the copy to the client, and the other task is dropped. -/
  | connShutdown (ok : Bool) : GivesUp s .toDevice (.downShutdown ok) .internal
  | connRead : GivesUp s .toDevice (.upRead .error) .internal
  | socketWrite {r : Nat} {tick : Bool} {ev : SockEvent} (h : (s.up.next ev).fails = true) :
      GivesUp s .toDevice (.upPoll tick) (.sock r ev)
  /-- `conn_to_socket` has ended, with or without an error, and shuts the socket down: with the `CLSE`
  the stream is over in both directions. -/
  | socketShutdown {r : Nat} {tick : Bool} {msg : AdbMessage} :
      GivesUp s .toClient (.upPoll tick) (.sock r (.shutdownMarked (some msg)))
  | readPanic (way : Way) {r : Nat} {ev : SockEvent} (h : (DownStage.read ev).panics = true) :
      GivesUp s way .downRead (.sock r ev)
  | pollPanic (way : Way) {r : Nat} {tick : Bool} {ev : SockEvent}
      (h : (s.up.next ev).panics = true) : GivesUp s way (.upPoll tick) (.sock r ev)

section
variable {s : RelaySt} {way : Way}

/-- A way is given up as long as its task copies. -/
theorem mem_giveUp {way' : Way} {buf : Option (List UInt8)} :
    (way, PipeAct.abandon) ∈ giveUp way' buf ↔ way = way' ∧ buf.isSome = true := by
  cases buf <;> simp [giveUp]

/-- Both ways are given up, if their tasks copy. -/
theorem mem_abort : (way, PipeAct.abandon) ∈ s.abort.2 ↔ (s.buf way).isSome = true := by
  cases way <;> simp [RelaySt.abort, mem_giveUp, RelaySt.buf]

/-- What a turn of `socket_to_conn` gives up. -/
theorem mem_downTo {turn : Turn DownStage} :
    (way, PipeAct.abandon) ∈ (s.downTo turn).2 ↔
      (s.buf way).isSome = true ∧ (turn.panics = true ∨ way = .toClient ∧ turn.fails = true) := by
  obtain down | down | _ := turn
  · simp [RelaySt.downTo, Turn.panics, Turn.fails]
  · cases way <;> simp [RelaySt.downTo, mem_giveUp, RelaySt.buf, Turn.panics, Turn.fails]
  · simp [RelaySt.downTo, mem_abort, Turn.panics]

/-- What a turn of `conn_to_socket` gives up. -/
theorem mem_upTo {turn : Turn UpStage} :
    (way, PipeAct.abandon) ∈ (s.upTo turn).2 ↔
      (s.buf way).isSome = true ∧ (turn.panics = true ∨ way = .toDevice ∧ turn.fails = true) := by
  obtain up | up | _ := turn
  · simp [RelaySt.upTo, Turn.panics, Turn.fails]
  · cases way <;> simp [RelaySt.upTo, mem_giveUp, RelaySt.buf, Turn.panics, Turn.fails]
  · simp [RelaySt.upTo, mem_abort, Turn.panics]

/-- The connection takes the bytes or fails, and it fails if it takes none. -/
theorem DownStage.written_fails (buf : List UInt8) (n : Option Nat) :
    (DownStage.written buf n).panics = false ∧
      ((DownStage.written buf n).fails = true ↔ n.getD 0 = 0) := by
  match n with
  | none | some 0 | some (_ + 1) => exact ⟨rfl, by simp [DownStage.written, Turn.fails]⟩

/-- What the shutdown of the socket gives up besides what its turn does. -/
theorem mem_marked {buf : Option (List UInt8)} {ev : SockEvent} :
    (way, PipeAct.abandon) ∈ (match ev with
      | .shutdownMarked (some _) => giveUp .toClient buf
      | _ => []) ↔ (∃ msg, ev = .shutdownMarked (some msg)) ∧ way = .toClient ∧ buf.isSome = true := by
  split
  · rename_i msg
    rw [mem_giveUp]
    exact ⟨fun h => ⟨⟨msg, rfl⟩, h⟩, And.right⟩
  · rename_i hne
    refine iff_of_false List.not_mem_nil ?_
    rintro ⟨⟨msg, rfl⟩, -⟩
    exact hne msg rfl

/-- The device gives up nothing. -/
theorem abandon_not_mem_deviceWays (id : Option UInt32) (acts : List StreamEvent) :
    (way, PipeAct.abandon) ∉ deviceWays id acts := by
  cases id with
  | none => exact List.not_mem_nil
  | some id =>
    simp only [deviceWays, Option.elim_some, List.mem_filterMap, not_exists, not_and]
    rintro ⟨d, a⟩ - hway
    cases d with
    | toHost i =>
      simp only [wayOf, Option.ite_none_right_eq_some, Option.some.injEq, Prod.mk.injEq] at hway
      obtain ⟨⟨-, ha⟩, -, rfl⟩ := hway
      cases ha
    | toDevice i =>
      simp only [wayOf, Option.ite_none_right_eq_some, Option.some.injEq, Prod.mk.injEq] at hway
      obtain ⟨⟨-, ha⟩, -, rfl⟩ := hway
      cases ha

section
variable {r : Nat} {s' : RelaySt} {e : RelayEvent}

/-- A step of the device or of another session gives up no way. -/
theorem abandon_link {a : LinkAct} (hs : s.step r (.link a) = some (s', e)) :
    (way, PipeAct.abandon) ∈ e.ways ↔
      (s.buf way).isSome = true ∧ GivesUp s way (.link a) e.host := by
  simp only [RelaySt.step] at hs
  split at hs
  · cases hs
  · split at hs
    · cases hs
    · cases hs
      refine iff_of_false (abandon_not_mem_deviceWays _ _) ?_
      rintro ⟨-, ⟨⟩⟩

/-- The client gives up no way: what it does not read stays in the pipe. -/
theorem abandon_client {a : PipeAct UInt8} (hs : s.step r (.client a) = some (s', e)) :
    (way, PipeAct.abandon) ∈ e.ways ↔
      (s.buf way).isSome = true ∧ GivesUp s way (.client a) e.host := by
  have hother : ∀ way', a ≠ .abandon → e.ways = [(way', a)] →
      ((way, PipeAct.abandon) ∈ e.ways ↔
        (s.buf way).isSome = true ∧ GivesUp s way (.client a) e.host) := fun way' ha hways => by
    refine iff_of_false ?_ ?_
    · rw [hways, List.mem_singleton, Prod.mk.injEq]
      exact fun h => ha h.2.symm
    · rintro ⟨-, ⟨⟩⟩
  cases a with
  | write | finish | read | eof =>
    simp only [RelaySt.step, Option.map_eq_some_iff, Prod.mk.injEq] at hs
    obtain ⟨pipe, -, rfl, rfl⟩ := hs
    exact hother _ (by simp) rfl
  | abandon => cases hs

/-- Before the copy begins both ways are given up together. -/
theorem abandon_respond {ok : Bool} (hs : s.step r (.respond ok) = some (s', e)) :
    (way, PipeAct.abandon) ∈ e.ways ↔
      (s.buf way).isSome = true ∧ GivesUp s way (.respond ok) e.host := by
  simp only [RelaySt.step] at hs
  split at hs
  · cases ok with
    | true =>
      simp only [if_true] at hs
      split at hs
      · cases hs
        refine iff_of_false List.not_mem_nil ?_
        rintro ⟨-, ⟨⟩⟩
      · cases hs
    | false =>
      cases hs
      rw [mem_abort]
      exact ⟨fun h => ⟨h, .refused way⟩, And.left⟩
  · cases hs

/-- A read of the socket gives up its own way if it fails, and both if it panics. -/
theorem abandon_downRead (hs : s.step r .downRead = some (s', e)) :
    (way, PipeAct.abandon) ∈ e.ways ↔
      (s.buf way).isSome = true ∧ GivesUp s way .downRead e.host := by
  simp only [RelaySt.step] at hs
  split at hs
  · split at hs
    · split at hs
      · cases hs
      · cases hs
        rw [mem_downTo]
        refine and_congr_right fun _ => ⟨?_, ?_⟩
        · rintro (hpanic | ⟨rfl, hfail⟩)
          · exact .readPanic way hpanic
          · exact .socketRead hfail
        · intro hcause
          cases hcause with
          | socketRead hfail => exact .inr ⟨rfl, hfail⟩
          | readPanic _ hpanic => exact .inl hpanic
    · cases hs
  · cases hs

/-- A write to the client gives up its way if it fails or takes nothing. -/
theorem abandon_downWrite {n : Option Nat} (hs : s.step r (.downWrite n) = some (s', e)) :
    (way, PipeAct.abandon) ∈ e.ways ↔
      (s.buf way).isSome = true ∧ GivesUp s way (.downWrite n) e.host := by
  simp only [RelaySt.step] at hs
  split at hs
  · split at hs
    · rename_i buf hwrite
      simp only [Option.map_eq_some_iff, Prod.mk.injEq] at hs
      obtain ⟨toClient, -, rfl, rfl⟩ := hs
      obtain ⟨hpanics, hfails⟩ := DownStage.written_fails buf n
      rw [mem_downTo, hpanics, hfails]
      refine and_congr_right fun _ => ⟨?_, ?_⟩
      · rintro (hpanic | ⟨rfl, hnone⟩)
        · cases hpanic
        · exact .connWrite hnone
      · intro hcause
        cases hcause with
        | connWrite hnone => exact .inr ⟨rfl, hnone⟩
    · cases hs
  · cases hs

/-- `socket_to_conn` is done, and `conn_to_socket` is dropped where it stands. -/
theorem abandon_downShutdown {ok : Bool} (hs : s.step r (.downShutdown ok) = some (s', e)) :
    (way, PipeAct.abandon) ∈ e.ways ↔
      (s.buf way).isSome = true ∧ GivesUp s way (.downShutdown ok) e.host := by
  simp only [RelaySt.step] at hs
  split at hs
  · split at hs
    · simp only [Option.map_eq_some_iff, Prod.mk.injEq] at hs
      obtain ⟨toClient, -, rfl, rfl⟩ := hs
      rw [mem_giveUp]
      constructor
      · rintro ⟨rfl, hbuf⟩
        exact ⟨hbuf, .connShutdown ok⟩
      · rintro ⟨hbuf, hcause⟩
        cases hcause with
        | connShutdown => exact ⟨rfl, hbuf⟩
    · cases hs
  · cases hs

/-- A read of the client gives up its way if it fails. -/
theorem abandon_upRead {res : TcpRead} (hs : s.step r (.upRead res) = some (s', e)) :
    (way, PipeAct.abandon) ∈ e.ways ↔
      (s.buf way).isSome = true ∧ GivesUp s way (.upRead res) e.host := by
  simp only [RelaySt.step] at hs
  split at hs
  · split at hs
    · cases res with
      | bytes bs =>
        simp only at hs
        split at hs
        · simp only [Option.map_eq_some_iff, Prod.mk.injEq] at hs
          obtain ⟨fromClient, -, rfl, rfl⟩ := hs
          refine iff_of_false List.not_mem_nil ?_
          rintro ⟨-, ⟨⟩⟩
        · cases hs
      | eof =>
        simp only [Option.map_eq_some_iff, Prod.mk.injEq] at hs
        obtain ⟨fromClient, -, rfl, rfl⟩ := hs
        refine iff_of_false List.not_mem_nil ?_
        rintro ⟨-, ⟨⟩⟩
      | error =>
        cases hs
        rw [mem_giveUp]
        constructor
        · rintro ⟨rfl, hbuf⟩
          exact ⟨hbuf, .connRead⟩
        · rintro ⟨hbuf, hcause⟩
          cases hcause with
          | connRead => exact ⟨rfl, hbuf⟩
    · cases hs
  · cases hs

/-- A poll of `conn_to_socket` gives up its way if it fails, both if it panics, and with the `CLSE` of
its shutdown the way back. -/
theorem abandon_upPoll {tick : Bool} (hs : s.step r (.upPoll tick) = some (s', e)) :
    (way, PipeAct.abandon) ∈ e.ways ↔
      (s.buf way).isSome = true ∧ GivesUp s way (.upPoll tick) e.host := by
  simp only [RelaySt.step] at hs
  split at hs
  · split at hs
    · cases hs
    · split at hs
      · cases hs
      · rename_i link ev hsock
        cases hs
        rw [List.mem_append, mem_marked, mem_upTo]
        constructor
        · rintro (⟨⟨msg, rfl⟩, rfl, hbuf⟩ | ⟨hbuf, hpanic | ⟨rfl, hfail⟩⟩)
          · exact ⟨hbuf, .socketShutdown⟩
          · exact ⟨hbuf, .pollPanic way hpanic⟩
          · exact ⟨hbuf, .socketWrite hfail⟩
        · rintro ⟨hbuf, hcause⟩
          cases hcause with
          | socketWrite hfail => exact .inr ⟨hbuf, .inr ⟨rfl, hfail⟩⟩
          | socketShutdown => exact .inl ⟨⟨_, rfl⟩, rfl, hbuf⟩
          | pollPanic _ hpanic => exact .inr ⟨hbuf, .inl hpanic⟩
  · cases hs

/-- When the copy is over there is no way left to give up. -/
theorem ways_of_late {a : RelayAct} (ha : a = .timeout ∨ a = .drop ∨ ∃ res, a = .drain res)
    (hs : s.step r a = some (s', e)) : e.ways = [] := by
  obtain rfl | rfl | ⟨res, rfl⟩ := ha
  · simp only [RelaySt.step] at hs
    split at hs
    · cases hs
      rfl
    · cases hs
  · simp only [RelaySt.step] at hs
    split at hs
    · split at hs
      · cases hs
      · simp only [Option.map_eq_some_iff, Prod.mk.injEq] at hs
        obtain ⟨toClient, -, rfl, rfl⟩ := hs
        rfl
    · cases hs
  · simp only [RelaySt.step] at hs
    split at hs
    · cases res with
      | bytes | eof =>
        simp only [Option.map_eq_some_iff, Prod.mk.injEq] at hs
        obtain ⟨fromClient, -, rfl, rfl⟩ := hs
        rfl
      | error =>
        cases hs
        rfl
    · cases hs

/-- A way is given up in these steps and no others, if its task still copies: the device and the
client give up nothing. -/
theorem abandon_mem_ways_iff {a : RelayAct} (hs : s.step r a = some (s', e)) :
    (way, PipeAct.abandon) ∈ e.ways ↔ (s.buf way).isSome = true ∧ GivesUp s way a e.host := by
  have hlate : (a = .timeout ∨ a = .drop ∨ ∃ res, a = .drain res) →
      ¬ GivesUp s way a e.host →
      ((way, PipeAct.abandon) ∈ e.ways ↔ (s.buf way).isSome = true ∧ GivesUp s way a e.host) := by
    intro ha hnot
    rw [ways_of_late ha hs]
    exact iff_of_false List.not_mem_nil fun h => hnot h.2
  cases a with
  | link a => exact abandon_link hs
  | client a => exact abandon_client hs
  | respond ok => exact abandon_respond hs
  | downRead => exact abandon_downRead hs
  | downWrite n => exact abandon_downWrite hs
  | downShutdown ok => exact abandon_downShutdown hs
  | upRead res => exact abandon_upRead hs
  | upPoll tick => exact abandon_upPoll hs
  | drain res => exact hlate (.inr (.inr ⟨res, rfl⟩)) (by rintro ⟨⟩)
  | timeout => exact hlate (.inl rfl) (by rintro ⟨⟩)
  | drop => exact hlate (.inr (.inl rfl)) (by rintro ⟨⟩)

end

end

/-! ## What a step of the link does to the stream -/

theorem LinkStep.backend {s s' : LinkSt} {e : LinkEvent} (h : LinkStep s s' e) {r : Nat} {k : Sock}
    (hr : s.host.backends[r]? = some k) :
    ∃ k', s'.host.backends[r]? = some k' ∧ k'.localId = k.localId := by
  cases h with
  | host hs =>
    obtain ⟨k', hr', hid, -⟩ := hs.backend hr
    exact ⟨k', hr', hid⟩
  | deliver hto hs =>
    obtain ⟨k', hr', hid, -⟩ := (hostStep_of_step hs).backend hr
    exact ⟨k', hr', hid⟩
  | receive | send => exact ⟨k, hr, rfl⟩

/-- Other than by the socket with the id a stream is used by the device, at its own end. -/
theorem LinkStep.device_acts {s s' : LinkSt} {e : LinkEvent} (h : LinkStep s s' e) (id : UInt32)
    (hquiet : ∀ (r : Nat) (k : Sock), s.host.backends[r]? = some k → k.localId = id →
      ∀ e', e.host = .sock r e' → e'.streams id = []) :
    (∀ a ∈ actsOf (.toHost id) e.streams, a.byWriter = true) ∧
      ∀ a ∈ actsOf (.toDevice id) e.streams, a.byReader = true := by
  cases h with
  | @host host e hs =>
    -- a step of the socket with this id shows nothing, by `hquiet`
    by_cases hown : ∃ (r : Nat) (k : Sock) (e' : SockEvent), s.host.backends[r]? = some k ∧
        k.localId = id ∧ e = .sock r e'
    · obtain ⟨r, k, e', hr, hid, rfl⟩ := hown
      have hidOf : s.host.idOf r = id := by
        rw [TransportBackend.idOf, hr]
        exact hid
      have hnil : HostEvent.streams s.host (.sock r e') = [] := by
        rw [HostEvent.streams, hidOf]
        exact hquiet r k hr hid e' rfl
      simp [hnil, actsOf]
    · have hother : ∀ (r : Nat) (k : Sock), s.host.backends[r]? = some k → k.localId = id →
          ∀ e', e ≠ .sock r e' := fun r k hr hid e' he => hown ⟨r, k, e', hr, hid, he⟩
      obtain ⟨htoHost, htoDevice⟩ := streams_of_other hs hother
      simp [htoHost, htoDevice]
  | deliver => simp [actsOf]
  | @receive msg =>
    refine ⟨by simp [actsOf_toHost_receive], fun a ha => ?_⟩
    rw [receiveStreams] at ha
    split at ha
    · rw [actsOf_singleton] at ha
      split at ha
      · rw [List.mem_singleton.mp ha]
        rfl
      · cases ha
    · split at ha
      · cases ha
      · rw [actsOf_singleton] at ha
        split at ha
        · rw [List.mem_singleton.mp ha]
          rfl
        · cases ha
    · cases ha
  | @send msg =>
    refine ⟨fun a ha => ?_, by simp [actsOf_toDevice_send]⟩
    rw [sendStreams] at ha
    split at ha
    · rw [actsOf_singleton] at ha
      split at ha
      · rw [List.mem_singleton.mp ha]
        rfl
      · cases ha
    · rw [actsOf_singleton] at ha
      split at ha
      · rw [List.mem_singleton.mp ha]
        rfl
      · cases ha
    · cases ha

/-- A new socket has a new id. -/
theorem LinkStep.created {s s' : LinkSt} {e : LinkEvent} (h : LinkStep s s' e)
    (htable : TableLaw s.host) {r : Nat} {k : Sock} (hr : s.host.backends[r]? = none)
    (hr' : s'.host.backends[r]? = some k) : e.streams = [] ∧ ¬ s.host.Knows k.localId := by
  have hfresh : NewSocket s.host.lastId s.host.pending k → ¬ s.host.Knows k.localId := by
    rintro hnew ⟨r', k', hk', hid⟩
    have hlast : k.localId = s.host.lastId := by cases hnew <;> rfl
    exact htable.ne_lastId hk' (hid.trans hlast)
  cases h with
  | @host host e hs =>
    obtain ⟨-, rfl, hnew⟩ | ⟨k₀, hold, -⟩ := hs.socket hr'
    · exact ⟨rfl, hfresh hnew⟩
    · rw [hr] at hold
      cases hold
  | deliver hto hs =>
    obtain ⟨-, -, hnew⟩ | ⟨k₀, hold, -⟩ := (hostStep_of_step hs).socket hr'
    · exact ⟨rfl, hfresh hnew⟩
    · rw [hr] at hold
      cases hold
  | receive | send =>
    rw [hr] at hr'
    cases hr'

/-- The pipes of the link, of which those to the device are empty before their socket exists. -/
structure PipesRel (s : LinkSt) (p : Direction → Pipe UInt8) : Prop where
  link : LinkRel s p
  unknown : ∀ id, ¬ s.host.Knows id → p (.toDevice id) = .empty

/-- Before its socket exists the pipe to the host is empty. -/
theorem PipesRel.toHost_unknown {s : LinkSt} {p : Direction → Pipe UInt8} (h : PipesRel s p)
    {id : UInt32} (hid : ¬ s.host.Knows id) : p (.toHost id) = .empty := by
  cases h.link.toHost id with
  | unknown _ hq => exact hq
  | attached hr hk => exact absurd ⟨_, _, hr, hk⟩ hid
  | detached hr hk => exact absurd ⟨_, _, hr, hk⟩ hid

/-- Every step of the link uses the pipes as it shows. -/
theorem PipesRel.step {s s' : LinkSt} {a : LinkAct} {e : LinkEvent} {p : Direction → Pipe UInt8}
    (h : PipesRel s p) (hs : linkMachine.step s a = some (s', e))
    (hwrap : IdNotWrapped s.host e.host) :
    ∃ p', PipesRel s' p' ∧ ∀ d, (p d).exec (actsOf d e.streams) = some (p' d) := by
  have hstep := linkStep_of_step hs
  obtain ⟨p', hrun, hrel⟩ := h.link.step hstep hwrap
  have hexec := pipes_exec hrun
  refine ⟨p', ⟨hrel, fun id hid => ?_⟩, hexec⟩
  have hnot : ¬ s.host.Knows id := by
    rintro ⟨r, k, hr, hk⟩
    obtain ⟨k', hr', hid'⟩ := LinkStep.backend hstep hr
    exact hid ⟨r, k', hr', hid'.trans hk⟩
  obtain ⟨-, hacts⟩ := LinkStep.device_acts hstep id fun r k hr hk =>
    absurd ⟨r, k, hr, hk⟩ hnot
  have hempty := hexec (.toDevice id)
  rw [h.unknown id hnot] at hempty
  exact Pipe.exec_empty hacts hempty

/-- The pipe of the socket at `r`. -/
def streamOf (b : TransportBackend) (r : Nat) (p : Direction → Pipe UInt8)
    (d : UInt32 → Direction) : Pipe UInt8 :=
  b.backends[r]?.elim .empty fun k => p (d k.localId)

/-- The pipe of a socket is that of its id. -/
theorem streamOf_some {b : TransportBackend} {r : Nat} {k : Sock} (hr : b.backends[r]? = some k)
    (p : Direction → Pipe UInt8) (d : UInt32 → Direction) : streamOf b r p d = p (d k.localId) := by
  rw [streamOf, hr]
  rfl

/-- What the device does at its end of the stream is all that the ways show of it. -/
theorem actsOf_deviceWays (id : UInt32) (acts : List StreamEvent) :
    actsOf .toClient (deviceWays (some id) acts) =
        (actsOf (.toHost id) acts).filter PipeAct.byWriter ∧
      actsOf .toDevice (deviceWays (some id) acts) =
        (actsOf (.toDevice id) acts).filter PipeAct.byReader := by
  simp only [deviceWays, Option.elim_some, actsOf]
  induction acts with
  | nil => exact ⟨rfl, rfl⟩
  | cons x acts ih =>
    obtain ⟨d, a⟩ := x
    cases d with
    | toHost i =>
      by_cases hi : i = id <;> by_cases ha : a.byWriter = true <;>
        simp [wayOf, hi, ha, ih.1, ih.2]
    | toDevice i =>
      by_cases hi : i = id <;> by_cases ha : a.byReader = true <;>
        simp [wayOf, hi, ha, ih.1, ih.2]

/-- A poll of `open_socket` does not use the stream. -/
theorem drives_eq_false {r : Nat} {e : SockEvent} (h : HostEvent.drives r (.sock r e) = false)
    (id : UInt32) : e.streams id = [] := by
  cases e with
  | polled | waited => rfl
  | read | wrote | flushed | shutdownFlushed | shutdownMarked | shutdownWritten | dropped =>
    simp [HostEvent.drives] at h

/-- A step of the link that is not one of the session. -/
theorem PipesRel.other {s s' : LinkSt} {a : LinkAct} {e : LinkEvent} {p : Direction → Pipe UInt8}
    {r : Nat} (h : PipesRel s p) (hs : linkMachine.step s a = some (s', e))
    (hwrap : IdNotWrapped s.host e.host) (hdrives : HostEvent.drives r e.host = false) :
    ∃ p' down up, PipesRel s' p' ∧
      (∀ a ∈ down, PipeAct.byWriter a = true) ∧ (∀ a ∈ up, PipeAct.byReader a = true) ∧
      (streamOf s.host r p .toHost).exec down = some (streamOf s'.host r p' .toHost) ∧
      (streamOf s.host r p .toDevice).exec up = some (streamOf s'.host r p' .toDevice) ∧
      actsOf .toClient (deviceWays (s.host.backends[r]?.map Sock.localId) e.streams) = down ∧
      actsOf .toDevice (deviceWays (s.host.backends[r]?.map Sock.localId) e.streams) = up := by
  obtain ⟨p', hrel', hexec⟩ := h.step hs hwrap
  have hstep := linkStep_of_step hs
  cases hr : s.host.backends[r]? with
  -- the stream goes by the id that `create` gave the socket
  | some k =>
    obtain ⟨k', hr', hid⟩ := LinkStep.backend hstep hr
    have hquiet : ∀ (r' : Nat) (k₁ : Sock), s.host.backends[r']? = some k₁ →
        k₁.localId = k.localId → ∀ e', e.host = .sock r' e' → e'.streams k.localId = [] := by
      intro r' k₁ hr₁ hk e' he
      obtain ⟨rfl, -⟩ := h.link.law.table.unique hr₁ hr hk
      rw [he] at hdrives
      exact drives_eq_false hdrives k.localId
    obtain ⟨hdown, hup⟩ := LinkStep.device_acts hstep k.localId hquiet
    obtain ⟨hways, hways'⟩ := actsOf_deviceWays k.localId e.streams
    refine ⟨p', _, _, hrel', hdown, hup, ?_, ?_, ?_, ?_⟩
    · rw [streamOf_some hr, streamOf_some hr', hid]
      exact hexec _
    · rw [streamOf_some hr, streamOf_some hr', hid]
      exact hexec _
    · rw [Option.map_some, hways, List.filter_eq_self]
      exact hdown
    · rw [Option.map_some, hways', List.filter_eq_self]
      exact hup
  -- no stream yet: if one is created in this step, its pipes are still empty
  | none =>
    have hempty : ∀ d : UInt32 → Direction, streamOf s.host r p d = .empty := by
      intro d
      rw [streamOf, hr]
      rfl
    have hempty' : streamOf s'.host r p' .toHost = .empty ∧
        streamOf s'.host r p' .toDevice = .empty := by
      cases hr' : s'.host.backends[r]? with
      | none => exact ⟨by rw [streamOf, hr']; rfl, by rw [streamOf, hr']; rfl⟩
      | some k =>
        obtain ⟨hnil, hnot⟩ := LinkStep.created hstep h.link.law.table hr hr'
        have hsame : ∀ d, p' d = p d := by
          intro d
          have hd := hexec d
          rw [hnil] at hd
          exact (Option.some.inj hd).symm
        rw [streamOf_some hr', streamOf_some hr', hsame, hsame]
        exact ⟨h.toHost_unknown hnot, h.unknown _ hnot⟩
    refine ⟨p', [], [], hrel', by simp, by simp, ?_, ?_, rfl, rfl⟩
    · rw [hempty, hempty'.1]
      rfl
    · rw [hempty, hempty'.2]
      rfl

/-- A step of the session's socket: what it shows is what its stream goes through, at the host's
end. -/
theorem PipesRel.sock {s : RelaySt} {link : LinkSt} {e : SockEvent} {p : Direction → Pipe UInt8}
    {r : Nat} {op : SockAct} (h : PipesRel s.link p) (hs : s.sock r op = some (link, e)) :
    ∃ p' id, PipesRel link p' ∧
      (streamOf s.link.host r p .toHost).exec (actsOf (.toHost id) (e.streams id)) =
        some (streamOf link.host r p' .toHost) ∧
      (streamOf s.link.host r p .toDevice).exec (actsOf (.toDevice id) (e.streams id)) =
        some (streamOf link.host r p' .toDevice) ∧
      ∃ (k : Sock) (n : SockNext), k.step s.link.host.shared op = some n ∧ n.event = e := by
  unfold RelaySt.sock at hs
  split at hs
  · rename_i link' r' e' streams hlink
    cases hs
    have hlink' := hlink
    simp only [linkMachine, LinkSt.step, HostAct.isDispatch, Bool.false_eq_true, if_false,
      hostMachine, TransportBackend.step] at hlink'
    cases hr : s.link.host.backends[r]? with
    | none => simp [hr] at hlink'
    | some k =>
      cases hn : k.step s.link.host.shared op with
      | none => simp [hr, hn] at hlink'
      | some n =>
        simp only [hr, hn, Option.some.injEq, Prod.mk.injEq, LinkEvent.mk.injEq,
          HostEvent.sock.injEq] at hlink'
        obtain ⟨-, ⟨rfl, rfl⟩, rfl⟩ := hlink'
        obtain ⟨p', hrel', hexec⟩ := h.step hlink trivial
        obtain ⟨k', hr', hid⟩ := LinkStep.backend (linkStep_of_step hlink) hr
        have hidOf : s.link.host.idOf r = k.localId := by
          rw [TransportBackend.idOf, hr]
          rfl
        simp only [HostEvent.streams, hidOf] at hexec
        refine ⟨p', k.localId, hrel', ?_, ?_, k, n, hn, rfl⟩
        · rw [streamOf_some hr, streamOf_some hr', hid]
          exact hexec _
        · rw [streamOf_some hr, streamOf_some hr', hid]
          exact hexec _
  · cases hs

/-! ## The session is a pipe for each way -/

/-- Each way is a copy from the client's connection to the stream or back, with what the session
holds in between. -/
structure RelayRel (r : Nat) (s : RelaySt) (p : Direction → Pipe UInt8) (q : Way → Pipe UInt8) :
    Prop where
  pipes : PipesRel s.link p
  down : CopyRel (streamOf s.link.host r p .toHost) s.toClient (q .toClient) s.down.buf
  up : CopyRel s.fromClient (streamOf s.link.host r p .toDevice) (q .toDevice) s.up.buf
  ended : s.main = .draining ∨ s.main = .dropping ∨ s.main = .returned →
    s.down.buf = none ∧ s.up.buf = none

/-- The session shows `ways` and comes to `s`. -/
def Shows (r : Nat) (q : Way → Pipe UInt8) (ways : List (Way × PipeAct UInt8)) (s : RelaySt) :
    Prop :=
  ∃ p' q', (Common.pipes Way UInt8).Run q ways q' ∧ RelayRel r s p' q'

section
variable {r : Nat} {s s' : RelaySt} {p p' : Direction → Pipe UInt8} {q : Way → Pipe UInt8}
  {e : RelayEvent}

theorem relayRel_new (connection : UsbConnection) :
    RelayRel r (RelaySt.new connection) (fun _ => .empty) fun _ => .empty where
  pipes := ⟨linkRel_new connection, fun _ _ => rfl⟩
  down := .new
  up := .new
  ended := by simp [RelaySt.new]

/-- A session that copies has not ended. -/
theorem not_ended_of_copying (h : s.main = .copying) :
    ¬ (s.main = .draining ∨ s.main = .dropping ∨ s.main = .returned) := by simp [h]

/-- Each way takes its own steps. -/
theorem ways_run {ways : List (Way × PipeAct UInt8)} {q₁ q₂ : Pipe UInt8}
    (h₁ : (q .toClient).exec (actsOf .toClient ways) = some q₁)
    (h₂ : (q .toDevice).exec (actsOf .toDevice ways) = some q₂) :
    ∃ q', (pipes Way UInt8).Run q ways q' ∧ q' .toClient = q₁ ∧ q' .toDevice = q₂ := by
  have hall : ∀ i, ∃ x, (q i).exec (actsOf i ways) = some x ∧
      x = (match i with | .toClient => q₁ | .toDevice => q₂) := by
    rintro (_ | _)
    · exact ⟨q₁, h₁, rfl⟩
    · exact ⟨q₂, h₂, rfl⟩
  obtain ⟨q', hrun, hq⟩ := pipes_run_of_forall ways hall
  exact ⟨q', hrun, hq .toClient, hq .toDevice⟩

/-- Giving up one way is no use of the other. -/
theorem actsOf_giveUp (way way' : Way) (buf : Option (List UInt8)) :
    actsOf way' (giveUp way buf) = if way = way' ∧ buf.isSome then [.abandon] else [] := by
  cases buf <;> by_cases hway : way = way' <;> simp [giveUp, actsOf, hway]

/-- A copy that is given up is one that has stopped. -/
theorem giveUp_exec {source target whole : Pipe UInt8} {buf : Option (List UInt8)}
    (h : CopyRel source target whole buf) (way : Way) :
    ∃ whole', whole.exec (actsOf way (giveUp way buf)) = some whole' ∧
      CopyRel source target whole' none := by
  rw [actsOf_giveUp]
  cases buf with
  | none =>
    rw [if_neg (by simp)]
    exact ⟨whole, rfl, h⟩
  | some bs =>
    rw [if_pos ⟨rfl, rfl⟩]
    exact ⟨_, rfl, h.fail⟩

theorem actsOf_giveUp_other {way way' : Way} (hne : way ≠ way') (buf : Option (List UInt8)) :
    actsOf way' (giveUp way buf) = [] := by
  rw [actsOf_giveUp, if_neg fun h => hne h.1]

/-- The other way stays as it is. -/
theorem exec_giveUp_other {way way' : Way} (hne : way ≠ way') (buf : Option (List UInt8))
    (q : Pipe UInt8) : q.exec (actsOf way' (giveUp way buf)) = some q := by
  rw [actsOf_giveUp_other hne]
  rfl

/-- Both tasks are dropped. -/
theorem RelayRel.abort (h : RelayRel r s p q) : Shows r q s.abort.2 s.abort.1 := by
  obtain ⟨q₁, hq₁, hdown⟩ := giveUp_exec h.down .toClient
  obtain ⟨q₂, hq₂, hup⟩ := giveUp_exec h.up .toDevice
  have hways₁ : (q .toClient).exec (actsOf .toClient s.abort.2) = some q₁ := by
    rw [RelaySt.abort, actsOf_append,
      actsOf_giveUp_other (show Way.toDevice ≠ .toClient by decide), List.append_nil]
    exact hq₁
  have hways₂ : (q .toDevice).exec (actsOf .toDevice s.abort.2) = some q₂ := by
    rw [RelaySt.abort, actsOf_append,
      actsOf_giveUp_other (show Way.toClient ≠ .toDevice by decide), List.nil_append]
    exact hq₂
  obtain ⟨q', hrun, rfl, rfl⟩ := ways_run hways₁ hways₂
  exact ⟨p, q', hrun, h.pipes, hdown, hup, fun _ => ⟨rfl, rfl⟩⟩

/-- The task to the client stops. -/
theorem RelayRel.stopDown (h : RelayRel r s p q) {down : DownStage} (hbuf : down.buf = none) :
    Shows r q (giveUp .toClient s.down.buf) { s with down } := by
  obtain ⟨q₁, hq₁, hdown⟩ := giveUp_exec h.down .toClient
  have hkept := exec_giveUp_other (show Way.toClient ≠ .toDevice by decide) s.down.buf (q .toDevice)
  obtain ⟨q', hrun, rfl, hq₂⟩ := ways_run hq₁ hkept
  exact ⟨p, q', hrun, h.pipes, hbuf ▸ hdown, hq₂ ▸ h.up, fun hm => ⟨hbuf, (h.ended hm).2⟩⟩

/-- The task to the device stops. -/
theorem RelayRel.stopUp (h : RelayRel r s p q) {up : UpStage} (hbuf : up.buf = none) :
    Shows r q (giveUp .toDevice s.up.buf) { s with up } := by
  obtain ⟨q₂, hq₂, hup⟩ := giveUp_exec h.up .toDevice
  have hkept := exec_giveUp_other (show Way.toDevice ≠ .toClient by decide) s.up.buf (q .toClient)
  obtain ⟨q', hrun, hq₁, rfl⟩ := ways_run hkept hq₂
  exact ⟨p, q', hrun, h.pipes, hq₁ ▸ h.down, hbuf ▸ hup, fun hm => ⟨(h.ended hm).1, hbuf⟩⟩

/-- After a write the rest of the buffer is left to be written. -/
theorem DownStage.buf_rest (rest : List UInt8) :
    (if rest = [] then DownStage.fill else .write rest).buf = some rest := by
  split
  · rename_i hnil
    rw [hnil]
    rfl
  · rfl

/-- After a write the rest of the buffer is left to be written. -/
theorem UpStage.buf_rest (rest : List UInt8) :
    (if rest = [] then UpStage.fill else .write rest).buf = some rest := by
  split
  · rename_i hnil
    rw [hnil]
    rfl
  · rfl

/-- A step of the transport or the device moves the stream at the device's end, which is the outer
end of both ways. -/
theorem RelayRel.link (h : RelayRel r s p q) {a : LinkAct}
    (hs : s.step r (.link a) = some (s', e)) (hwrap : IdNotWrapped s.link.host e.host) :
    Shows r q e.ways s' := by
  simp only [RelaySt.step] at hs
  split at hs
  · cases hs
  · rename_i link le hlink
    split at hs
    · cases hs
    · rename_i hdrives
      cases hs
      obtain ⟨p', downs, ups, hrel', hdowns, hups, hsource, htarget, hways, hways'⟩ :=
        h.pipes.other hlink hwrap (by simpa using hdrives)
      obtain ⟨q₁, hq₁, hdown⟩ := h.down.byWriters hdowns hsource
      obtain ⟨q₂, hq₂, hup⟩ := h.up.byReaders hups htarget
      obtain ⟨q', hrun, rfl, rfl⟩ := ways_run (hways ▸ hq₁) (hways' ▸ hq₂)
      exact ⟨p', q', hrun, hrel', hdown, hup, h.ended⟩

/-- The client uses the outer ends of the connection, and the copies between stay as they are. -/
theorem RelayRel.client (h : RelayRel r s p q) {a : PipeAct UInt8}
    (hs : s.step r (.client a) = some (s', e)) : Shows r q e.ways s' := by
  -- the client writes at one end of its way
  have hsource : ∀ {fromClient}, a.byWriter = true → s.fromClient.step a = some fromClient →
      Shows r q [(.toDevice, a)] { s with fromClient } := by
    intro fromClient ha hstep
    obtain ⟨q₂, hq₂, hup⟩ := h.up.byWriter ha hstep
    have hkept : (q .toClient).exec (actsOf Way.toClient [(Way.toDevice, a)]) =
        some (q .toClient) := rfl
    have htaken : (q .toDevice).exec (actsOf Way.toDevice [(Way.toDevice, a)]) = some q₂ := by
      rw [actsOf_singleton, if_pos rfl, Pipe.exec, hq₂]
      rfl
    obtain ⟨q', hrun, hq₁, rfl⟩ := ways_run hkept htaken
    exact ⟨p, q', hrun, h.pipes, hq₁ ▸ h.down, hup, h.ended⟩
  -- and reads at the far end of the other
  have htarget : ∀ {toClient}, a.byReader = true → s.toClient.step a = some toClient →
      Shows r q [(.toClient, a)] { s with toClient } := by
    intro toClient ha hstep
    obtain ⟨q₁, hq₁, hdown⟩ := h.down.byReader ha hstep
    have htaken : (q .toClient).exec (actsOf Way.toClient [(Way.toClient, a)]) = some q₁ := by
      rw [actsOf_singleton, if_pos rfl, Pipe.exec, hq₁]
      rfl
    have hkept : (q .toDevice).exec (actsOf Way.toDevice [(Way.toClient, a)]) =
        some (q .toDevice) := rfl
    obtain ⟨q', hrun, rfl, hq₂⟩ := ways_run htaken hkept
    exact ⟨p, q', hrun, h.pipes, hdown, hq₂ ▸ h.up, h.ended⟩
  cases a with
  | write | finish =>
    simp only [RelaySt.step, Option.map_eq_some_iff, Prod.mk.injEq] at hs
    obtain ⟨fromClient, hstep, rfl, rfl⟩ := hs
    exact hsource rfl hstep
  | read | eof =>
    simp only [RelaySt.step, Option.map_eq_some_iff, Prod.mk.injEq] at hs
    obtain ⟨toClient, hstep, rfl, rfl⟩ := hs
    exact htarget rfl hstep
  | abandon => cases hs

/-- With the answer to the client the copies begin, or both ways are given up. -/
theorem RelayRel.respond (h : RelayRel r s p q) {ok : Bool}
    (hs : s.step r (.respond ok) = some (s', e)) : Shows r q e.ways s' := by
  simp only [RelaySt.step] at hs
  split at hs
  · split at hs
    · split at hs
      · cases hs
        exact ⟨p, q, .nil, h.pipes, h.down, h.up, by simp⟩
      · cases hs
    · cases hs
      exact h.abort
  · cases hs

/-- An operation of the socket that its streams do not see. -/
theorem RelayRel.unseen (h : RelayRel r s p q) {link : LinkSt} {ev : SockEvent} {id : UInt32}
    (hrel' : PipesRel link p')
    (hsource : (streamOf s.link.host r p .toHost).exec (actsOf (.toHost id) (ev.streams id)) =
      some (streamOf link.host r p' .toHost))
    (htarget : (streamOf s.link.host r p .toDevice).exec (actsOf (.toDevice id) (ev.streams id)) =
      some (streamOf link.host r p' .toDevice))
    (hnil : ev.streams id = []) : RelayRel r { s with link } p' q := by
  rw [hnil] at hsource htarget
  refine ⟨hrel', ?_, ?_, h.ended⟩
  · rw [← Option.some.inj hsource]
    exact h.down
  · rw [← Option.some.inj htarget]
    exact h.up

/-- What `socket_to_conn` has read goes into its buffer, and no bytes are the end of the stream from
the device. -/
theorem RelayRel.downReady (h : RelayRel r s p q) {link : LinkSt} {id : UInt32}
    {bytes : List UInt8} {sent : List AdbMessage} (hmain : s.main = .copying)
    (hfill : s.down = .fill) (hrel' : PipesRel link p')
    (hsource : (streamOf s.link.host r p .toHost).exec
      (actsOf (.toHost id) (SockEvent.streams id (.read BUF_SIZE (.ready (.ok bytes)) sent))) =
        some (streamOf link.host r p' .toHost))
    (htarget : (streamOf s.link.host r p .toDevice).exec
      (actsOf (.toDevice id) (SockEvent.streams id (.read BUF_SIZE (.ready (.ok bytes)) sent))) =
        some (streamOf link.host r p' .toDevice)) :
    Shows r q [] { s with link, down := if bytes = [] then .shutdown else .write bytes } := by
  have hdown := h.down
  rw [hfill] at hdown
  have hup := h.up
  rw [actsOf_toDevice_read] at htarget
  rw [Option.some.inj htarget] at hup
  have hnot := not_ended_of_copying hmain
  rw [actsOf_toHost_read] at hsource
  -- no bytes is the end of the stream, since the buffer has room
  by_cases hnil : bytes = []
  · rw [if_pos ⟨by decide, hnil⟩, hnil] at hsource
    obtain ⟨source₁, hread, hrest⟩ := Option.bind_eq_some_iff.mp hsource
    obtain ⟨source₂, heof, hlast⟩ := Option.bind_eq_some_iff.mp hrest
    obtain rfl := Option.some.inj hlast
    refine ⟨p', q, .nil, hrel', ?_, hup, fun hm => absurd hm hnot⟩
    rw [if_pos hnil]
    exact (hdown.read hread).eof heof
  · rw [if_neg fun hb => hnil hb.2] at hsource
    obtain ⟨source₁, hread, hlast⟩ := Option.bind_eq_some_iff.mp hsource
    obtain rfl := Option.some.inj hlast
    refine ⟨p', q, .nil, hrel', ?_, hup, fun hm => absurd hm hnot⟩
    rw [if_neg hnil]
    exact hdown.read hread

/-- `socket_to_conn` reads the socket: it waits, has bytes, comes to the end, or fails and gives its
way up. -/
theorem RelayRel.downRead (h : RelayRel r s p q) (hs : s.step r .downRead = some (s', e)) :
    Shows r q e.ways s' := by
  simp only [RelaySt.step] at hs
  split at hs
  · rename_i hmain
    split at hs
    · rename_i hfill
      split at hs
      · cases hs
      · rename_i link ev hsock
        cases hs
        obtain ⟨p', id, hrel', hsource, htarget, k, n, hn, rfl⟩ := h.pipes.sock hsock
        simp only [Sock.step, Option.ite_none_right_eq_some, Option.some.injEq] at hn
        obtain ⟨-, rfl⟩ := hn
        generalize (pollRead k.localId BUF_SIZE k.state s.link.host.shared) = poll
          at hsource htarget
        cases ho : poll.outcome with
        | pending =>
          rw [ho] at hsource htarget
          have hunseen := h.unseen hrel' hsource htarget rfl
          have hdown := hunseen.down
          rw [hfill] at hdown
          exact ⟨p', q, .nil, hrel', hdown, hunseen.up,
            fun hm => absurd hm (not_ended_of_copying hmain.1)⟩
        | panic =>
          rw [ho] at hsource htarget
          exact (h.unseen hrel' hsource htarget rfl).abort
        | ready res =>
          cases res with
          | error err =>
            rw [ho] at hsource htarget
            exact (h.unseen hrel' hsource htarget rfl).stopDown rfl
          | ok bytes =>
            rw [ho] at hsource htarget
            exact h.downReady hmain.1 hfill hrel' hsource htarget
    · cases hs
  · cases hs

/-- `socket_to_conn` writes to the connection, which takes some of the buffer or fails. -/
theorem RelayRel.downWrite (h : RelayRel r s p q) {n : Option Nat}
    (hs : s.step r (.downWrite n) = some (s', e)) : Shows r q e.ways s' := by
  simp only [RelaySt.step] at hs
  split at hs
  · rename_i hmain
    split at hs
    · rename_i buf hwrite
      simp only [Option.map_eq_some_iff, Prod.mk.injEq] at hs
      obtain ⟨toClient, hstep, rfl, rfl⟩ := hs
      have hnot := not_ended_of_copying hmain.1
      have hdown := h.down
      rw [hwrite] at hdown
      -- what the connection has taken is written, the rest stays in the buffer
      have hrest : CopyRel (streamOf s.link.host r p .toHost) toClient (q .toClient)
          (some (buf.drop (n.getD 0))) := by
        refine CopyRel.write ?_ hstep
        rw [List.take_append_drop]
        exact hdown
      have hfail : Shows r q (giveUp .toClient s.down.buf)
          { s with toClient, down := .shutdown } := by
        obtain ⟨q₁, hq₁, hstopped⟩ := giveUp_exec hrest .toClient
        have hkept := exec_giveUp_other (show Way.toClient ≠ .toDevice by decide)
          s.down.buf (q .toDevice)
        have htaken : (q .toClient).exec (actsOf .toClient (giveUp .toClient s.down.buf)) =
            some q₁ := by
          rw [← hq₁, hwrite]
          rfl
        obtain ⟨q', hrun, rfl, hq₂⟩ := ways_run htaken hkept
        exact ⟨p, q', hrun, h.pipes, hstopped, hq₂ ▸ h.up, fun hm => absurd hm hnot⟩
      unfold DownStage.written
      split
      · exact hfail
      · exact hfail
      · refine ⟨p, q, .nil, h.pipes, ?_, h.up, fun hm => absurd hm hnot⟩
        rw [RelaySt.downTo]
        simp only [DownStage.buf_rest]
        exact hrest
    · cases hs
  · cases hs

/-- The connection is shut down, and the loop ends: the client is told of the end, and
`conn_to_socket` is dropped where it stands. -/
theorem RelayRel.downShutdown (h : RelayRel r s p q) {ok : Bool}
    (hs : s.step r (.downShutdown ok) = some (s', e)) : Shows r q e.ways s' := by
  simp only [RelaySt.step] at hs
  split at hs
  · split at hs
    · rename_i hshutdown
      simp only [Option.map_eq_some_iff, Prod.mk.injEq] at hs
      obtain ⟨toClient, hstep, rfl, rfl⟩ := hs
      have hdown := h.down
      rw [hshutdown] at hdown
      have hended : CopyRel (streamOf s.link.host r p .toHost) toClient (q .toClient) none := by
        cases ok with
        | true => exact CopyRel.finish hdown hstep
        | false =>
          obtain rfl := Option.some.inj hstep
          exact hdown
      obtain ⟨q₂, hq₂, hup⟩ := giveUp_exec h.up .toDevice
      have hkept := exec_giveUp_other (show Way.toDevice ≠ .toClient by decide)
        s.up.buf (q .toClient)
      obtain ⟨q', hrun, hq₁, rfl⟩ := ways_run hkept hq₂
      exact ⟨p, q', hrun, h.pipes, hq₁ ▸ hended, hup, fun _ => ⟨rfl, rfl⟩⟩
    · cases hs
  · cases hs

/-- `conn_to_socket` reads the connection: bytes for its buffer, the end that the client has made,
or an error. -/
theorem RelayRel.upRead (h : RelayRel r s p q) {res : TcpRead}
    (hs : s.step r (.upRead res) = some (s', e)) : Shows r q e.ways s' := by
  simp only [RelaySt.step] at hs
  split at hs
  · rename_i hmain
    split at hs
    · rename_i hfill
      have hnot := not_ended_of_copying hmain
      have hup := h.up
      rw [hfill] at hup
      cases res with
      | bytes bs =>
        simp only at hs
        split at hs
        · simp only [Option.map_eq_some_iff, Prod.mk.injEq] at hs
          obtain ⟨fromClient, hstep, rfl, rfl⟩ := hs
          exact ⟨p, q, .nil, h.pipes, h.down, hup.read hstep, fun hm => absurd hm hnot⟩
        · cases hs
      | eof =>
        simp only [Option.map_eq_some_iff, Prod.mk.injEq] at hs
        obtain ⟨fromClient, hstep, rfl, rfl⟩ := hs
        exact ⟨p, q, .nil, h.pipes, h.down, hup.eof hstep, fun hm => absurd hm hnot⟩
      | error =>
        cases hs
        exact h.stopUp rfl
    · cases hs
  · cases hs

/-- Reading the connection to its end. The bytes go nowhere, and the way to the device has ended
before. -/
theorem RelayRel.drain (h : RelayRel r s p q) {res : TcpRead}
    (hs : s.step r (.drain res) = some (s', e)) : Shows r q e.ways s' := by
  simp only [RelaySt.step] at hs
  split at hs
  · rename_i hmain
    obtain ⟨hdown, hup⟩ := h.ended (.inl hmain)
    have hcopy := h.up
    rw [hup] at hcopy
    cases res with
    | bytes bs =>
      simp only [Option.map_eq_some_iff, Prod.mk.injEq] at hs
      obtain ⟨fromClient, hstep, rfl, rfl⟩ := hs
      obtain ⟨-, rfl⟩ := Pipe.step_read.mp hstep
      exact ⟨p, q, .nil, h.pipes, h.down, by rw [hup]; exact hcopy.after rfl, h.ended⟩
    | eof =>
      simp only [Option.map_eq_some_iff, Prod.mk.injEq] at hs
      obtain ⟨fromClient, hstep, rfl, rfl⟩ := hs
      obtain ⟨-, rfl⟩ := Pipe.step_eof.mp hstep
      exact ⟨p, q, .nil, h.pipes, h.down, h.up, fun _ => ⟨hdown, hup⟩⟩
    | error =>
      cases hs
      exact ⟨p, q, .nil, h.pipes, h.down, h.up, fun _ => ⟨hdown, hup⟩⟩
  · cases hs

/-- After five seconds the session stops reading, and no copy is left by then. -/
theorem RelayRel.timeout (h : RelayRel r s p q) (hs : s.step r .timeout = some (s', e)) :
    Shows r q e.ways s' := by
  simp only [RelaySt.step] at hs
  split at hs
  · rename_i hmain
    cases hs
    exact ⟨p, q, .nil, h.pipes, h.down, h.up, fun _ => h.ended (.inl hmain)⟩
  · cases hs

/-- `SocketBackend::shutdown` hands out the `CLSE`: the stream to the device is finished, and the
one from it abandoned. -/
theorem RelayRel.shutdown (h : RelayRel r s p q) {link : LinkSt} (up : UpStage)
    (hrel' : PipesRel link p') (hup : s.up.buf = none) (hup' : up.buf = none)
    (hsource : (streamOf s.link.host r p .toHost).exec [.abandon] =
      some (streamOf link.host r p' .toHost))
    (htarget : (streamOf s.link.host r p .toDevice).exec [.finish] =
      some (streamOf link.host r p' .toDevice)) :
    Shows r q (giveUp .toClient s.down.buf) { s with link, up } := by
  obtain ⟨source, habandon, hlast⟩ := Option.bind_eq_some_iff.mp hsource
  obtain ⟨target, hfinish, hlast'⟩ := Option.bind_eq_some_iff.mp htarget
  obtain rfl := Option.some.inj hlast
  obtain rfl := Option.some.inj hlast'
  have hcopy := h.up
  rw [hup] at hcopy
  have hcopy' : CopyRel s.fromClient (streamOf link.host r p' .toDevice) (q .toDevice) up.buf :=
    hup' ▸ hcopy.finish hfinish
  -- the `CLSE` abandons the stream from the device, which the copy to the client may still read
  obtain ⟨q₁, hq₁, hdown⟩ : ∃ q₁,
      (q .toClient).exec (actsOf .toClient (giveUp .toClient s.down.buf)) = some q₁ ∧
      CopyRel (streamOf link.host r p' .toHost) s.toClient q₁ s.down.buf := by
    rw [← Option.some.inj habandon, actsOf_giveUp]
    have hdown := h.down
    cases hbuf : s.down.buf with
    | none =>
      rw [hbuf] at hdown
      exact ⟨_, rfl, hdown.after rfl⟩
    | some bs =>
      rw [hbuf] at hdown
      exact ⟨_, rfl, hdown.abandon⟩
  have hkept := exec_giveUp_other (show Way.toClient ≠ .toDevice by decide) s.down.buf (q .toDevice)
  obtain ⟨q', hrun, rfl, hq₂⟩ := ways_run hq₁ hkept
  exact ⟨p', q', hrun, hrel', hdown, hq₂ ▸ hcopy', fun hm => ⟨(h.ended hm).1, hup'⟩⟩

/-- `conn_to_socket` writes to the socket, which takes some of the buffer, waits for credit, or
fails. -/
theorem RelayRel.upWrite (h : RelayRel r s p q) {link : LinkSt} {id : UInt32} {buf : List UInt8}
    {o : Outcome IoError Nat} {sent : List AdbMessage} (hwrite : s.up = .write buf)
    (hrel' : PipesRel link p')
    (hsource : (streamOf s.link.host r p .toHost).exec
      (actsOf (.toHost id) (SockEvent.streams id (.wrote buf o sent))) =
        some (streamOf link.host r p' .toHost))
    (htarget : (streamOf s.link.host r p .toDevice).exec
      (actsOf (.toDevice id) (SockEvent.streams id (.wrote buf o sent))) =
        some (streamOf link.host r p' .toDevice)) :
    Shows r q ({ s with link }.upTo (s.up.next (.wrote buf o sent))).2
      ({ s with link }.upTo (s.up.next (.wrote buf o sent))).1 := by
  have hnext : s.up.next (.wrote buf o sent) = UpStage.next (.write buf) (.wrote buf o sent) := by
    rw [hwrite]
  rw [hnext]
  have hrest : ∀ n, o = .ready (.ok n) →
      CopyRel (streamOf link.host r p' .toHost) s.toClient (q .toClient) s.down.buf ∧
      CopyRel s.fromClient (streamOf link.host r p' .toDevice) (q .toDevice)
        (some (buf.drop n)) := by
    rintro n rfl
    have hup := h.up
    rw [hwrite] at hup
    have hways : ¬ Direction.toDevice id = .toHost id := by simp
    simp only [SockEvent.streams, actsOf_singleton, if_neg hways, if_true] at hsource htarget
    obtain ⟨target, hstep, hlast⟩ := Option.bind_eq_some_iff.mp htarget
    obtain rfl := Option.some.inj hlast
    refine ⟨?_, CopyRel.write ?_ hstep⟩
    · rw [← Option.some.inj hsource]
      exact h.down
    · rw [List.take_append_drop]
      exact hup
  cases o with
  | pending =>
    obtain ⟨-, hdown, hup, hended⟩ := h.unseen hrel' hsource htarget rfl
    refine ⟨p', q, .nil, hrel', hdown, ?_, fun hm => ?_⟩
    · rw [hwrite] at hup
      exact hup
    · have hbuf := (hended hm).2
      rw [hwrite] at hbuf
      cases hbuf
  | panic => exact (h.unseen hrel' hsource htarget rfl).abort
  | ready res =>
    cases res with
    | error err => exact (h.unseen hrel' hsource htarget rfl).stopUp rfl
    | ok n =>
      obtain ⟨hdown, hup⟩ := hrest n rfl
      have hnot : ¬ (s.main = .draining ∨ s.main = .dropping ∨ s.main = .returned) := by
        intro hm
        have hbuf := (h.ended hm).2
        rw [hwrite] at hbuf
        cases hbuf
      -- `copy_buf` takes a write of no bytes for an error
      cases n with
      | zero =>
        have hrel : RelayRel r { s with link } p' q :=
          ⟨hrel', hdown, by rw [hwrite]; exact hup, fun hm => absurd hm hnot⟩
        exact hrel.stopUp rfl
      | succ n =>
        refine ⟨p', q, .nil, hrel', hdown, ?_, fun hm => absurd hm hnot⟩
        simp only [UpStage.next, RelaySt.upTo, UpStage.buf_rest]
        exact hup

/-- Writing the `CLSE` shows no bytes of the stream. -/
theorem event_shutdownWrite {k : Sock} {sh : Shared} {n : SockNext}
    (hn : k.step sh .shutdownWrite = some n) : ∃ o sent, n.event = .shutdownWritten o sent := by
  simp only [Sock.step] at hn
  split at hn
  · cases hn
    unfold Sock.shutdownWrite
    split
    · exact ⟨_, _, rfl⟩
    · exact ⟨_, _, rfl⟩
    · split <;> exact ⟨_, _, rfl⟩
  · cases hn

/-- After the copy `conn_to_socket` does not copy again. -/
theorem UpStage.next_after {up : UpStage} (hbuf : up.buf = none) (ev : SockEvent) :
    (∃ up', up.next ev = .to up' ∧ up'.buf = none) ∨ up.next ev = .panic := by
  cases up with
  | fill | write => cases hbuf
  | flush | shutdownFlush | shutdownMark | shutdownWrite | ended =>
    unfold UpStage.next
    split <;> simp_all [UpStage.buf]

/-- `conn_to_socket` uses the socket after the copy, unseen by its streams. -/
theorem RelayRel.upAfter (h : RelayRel r s p q) {link : LinkSt} {ev : SockEvent} {id : UInt32}
    (hmain : s.main = .copying) (hrel' : PipesRel link p')
    (hsource : (streamOf s.link.host r p .toHost).exec (actsOf (.toHost id) (ev.streams id)) =
      some (streamOf link.host r p' .toHost))
    (htarget : (streamOf s.link.host r p .toDevice).exec (actsOf (.toDevice id) (ev.streams id)) =
      some (streamOf link.host r p' .toDevice))
    (hbuf : s.up.buf = none) (hnil : ev.streams id = []) :
    Shows r q ({ s with link }.upTo (s.up.next ev)).2 ({ s with link }.upTo (s.up.next ev)).1 := by
  have hunseen := h.unseen hrel' hsource htarget hnil
  obtain ⟨up, hnext, hup⟩ | hnext := UpStage.next_after hbuf ev
  · rw [hnext]
    have hcopy : CopyRel s.fromClient (streamOf link.host r p' .toDevice) (q .toDevice) up.buf := by
      rw [hup, ← hbuf]
      exact hunseen.up
    exact ⟨p', q, .nil, hrel', hunseen.down, hcopy,
      fun hm => absurd hm (not_ended_of_copying hmain)⟩
  · rw [hnext]
    exact hunseen.abort

/-- `conn_to_socket` polls the socket, in whichever of its stages it is: writing, flushing, or one
of the three parts of the shutdown. -/
theorem RelayRel.upPoll (h : RelayRel r s p q) {tick : Bool}
    (hs : s.step r (.upPoll tick) = some (s', e)) : Shows r q e.ways s' := by
  simp only [RelaySt.step] at hs
  split at hs
  · rename_i hmain
    split at hs
    · cases hs
    · rename_i op hop
      split at hs
      · cases hs
      · rename_i link ev hsock
        cases hs
        obtain ⟨p', id, hrel', hsource, htarget, k, n, hn, rfl⟩ := h.pipes.sock hsock
        have hafter := h.upAfter hmain hrel' hsource htarget
        obtain ⟨up, hup⟩ : ∃ up, s.up = up := ⟨_, rfl⟩
        cases up with
        | fill | ended =>
          rw [hup] at hop
          cases hop
        | write buf =>
          rw [hup] at hop
          cases hop
          simp only [Sock.step, Option.ite_none_right_eq_some, Option.some.injEq] at hn
          obtain ⟨-, rfl⟩ := hn
          exact h.upWrite hup hrel' hsource htarget
        | flush | shutdownFlush =>
          rw [hup] at hop
          cases hop
          simp only [Sock.step, Option.ite_none_right_eq_some, Option.some.injEq] at hn
          obtain ⟨-, rfl⟩ := hn
          exact hafter (by rw [hup]; rfl) rfl
        -- the step in which the `CLSE` is made, if no one has made it before
        | shutdownMark =>
          rw [hup] at hop
          cases hop
          simp only [Sock.step, Option.ite_none_right_eq_some, Option.some.injEq] at hn
          obtain ⟨-, rfl⟩ := hn
          have hbuf : s.up.buf = none := by rw [hup]; rfl
          simp only at hsource htarget hafter ⊢
          generalize (Transport.shutdown k.localId k.state s.link.host.shared).1 = msg
            at hsource htarget hafter ⊢
          cases msg with
          | none => exact hafter hbuf rfl
          | some msg =>
            have hshown := h.shutdown .shutdownWrite hrel' hbuf rfl
              (by simpa [SockEvent.streams, actsOf] using hsource)
              (by simpa [SockEvent.streams, actsOf] using htarget)
            simpa [hup, UpStage.next, RelaySt.upTo] using hshown
        | shutdownWrite =>
          rw [hup] at hop
          cases hop
          obtain ⟨o, sent, hev⟩ := event_shutdownWrite hn
          rw [hev] at hafter ⊢
          exact hafter (by rw [hup]; rfl) rfl
  · cases hs

/-- Socket and connection are dropped: the client sees the end at the latest now, and the device
gets a `CLSE` if it had none. -/
theorem RelayRel.dropped (h : RelayRel r s p q) (hs : s.step r .drop = some (s', e)) :
    Shows r q e.ways s' := by
  simp only [RelaySt.step] at hs
  split at hs
  · rename_i hmain
    split at hs
    · cases hs
    · rename_i link ev hsock
      simp only [Option.map_eq_some_iff, Prod.mk.injEq] at hs
      obtain ⟨toClient, hfinish, rfl, rfl⟩ := hs
      obtain ⟨hdown, hup⟩ := h.ended (.inr (.inl hmain))
      obtain ⟨p', id, hrel', hsource, htarget, k, n, hn, rfl⟩ := h.pipes.sock hsock
      have hclosed : ∀ (s₁ : RelaySt) {p₁ q₁}, s₁.down.buf = none → s₁.up.buf = none →
          (Common.pipes Way UInt8).Run q [] q₁ → RelayRel r s₁ p₁ q₁ →
          s₁.toClient.step .finish = some toClient →
          Shows r q [] { s₁ with toClient, main := .returned } := by
        intro s₁ p₁ q₁ hdown hup hrun hrel hfinish
        have hcopy := hrel.down
        rw [hdown] at hcopy
        refine ⟨p₁, q₁, hrun, hrel.pipes, ?_, hrel.up, fun _ => ⟨hdown, hup⟩⟩
        rw [show DownStage.buf _ = none from hdown]
        exact hcopy.finish hfinish
      simp only [Sock.step, Option.ite_none_right_eq_some, Option.some.injEq] at hn
      obtain ⟨-, rfl⟩ := hn
      simp only [Sock.drop] at hsource htarget
      generalize (Transport.shutdown k.localId k.state s.link.host.shared).1 = msg
        at hsource htarget
      -- both copies are over, so the drop ends no way that was still open
      cases msg with
      | none =>
        have hunseen : RelayRel r { s with link } p' q := h.unseen hrel' hsource htarget rfl
        exact hclosed { s with link } hdown hup .nil hunseen hfinish
      | some msg =>
        have hshown : Shows r q (giveUp .toClient s.down.buf) { s with link } :=
          h.shutdown s.up hrel' hup hup
            (by simpa [SockEvent.streams, actsOf] using hsource)
            (by simpa [SockEvent.streams, actsOf] using htarget)
        rw [hdown] at hshown
        obtain ⟨p₂, q₂, hrun, hrel⟩ := hshown
        exact hclosed { s with link } hdown hup hrun hrel hfinish
  · cases hs

/-- Every step of the session shows what the ways do, each action by its own lemma. -/
theorem RelayRel.step (h : RelayRel r s p q) {a : RelayAct} (hs : s.step r a = some (s', e))
    (hwrap : IdNotWrapped s.link.host e.host) : Shows r q e.ways s' := by
  cases a with
  | link a => exact h.link hs hwrap
  | client a => exact h.client hs
  | respond ok => exact h.respond hs
  | downRead => exact h.downRead hs
  | downWrite n => exact h.downWrite hs
  | downShutdown ok => exact h.downShutdown hs
  | upRead res => exact h.upRead hs
  | upPoll tick => exact h.upPoll hs
  | drain res => exact h.drain hs
  | timeout => exact h.timeout hs
  | drop => exact h.dropped hs

end

/-- The relayed stream is simulated by a pipe for each way. -/
theorem relay_simulation (r : Nat) :
    Machine.Simulation (unwrappedRelay r) (pipes Way UInt8) RelayEvent.ways
      fun s q => ∃ p, RelayRel r s p q where
  step := by
    rintro s s' q a e ⟨p, hrel⟩ hs
    obtain ⟨hs, hwrap⟩ := Machine.restrict_step.mp hs
    obtain ⟨p', q', hrun, hrel'⟩ := hrel.step hs hwrap
    exact ⟨q', hrun, p', hrel'⟩

/-- **What arrives through a session.** For every schedule of the session, the transport, the device
and the client: at either end of the relayed stream the bytes read are a prefix of the bytes written
at the other end, and an end that is told of the end of the stream has read all of them, unless the
session had given that way up. -/
theorem relay_streams_intact (r : Nat) (connection : UsbConnection) (tr : List RelayEvent)
    (s : RelaySt) (hrun : (unwrappedRelay r).Run (RelaySt.new connection) tr s) :
    (∀ way, PipeAct.taken (actsOf way (tr.flatMap RelayEvent.ways)) <+:
      PipeAct.written (actsOf way (tr.flatMap RelayEvent.ways))) ∧
    ∀ way pre post, tr.flatMap RelayEvent.ways = pre ++ (way, .eof) :: post →
      (way, .abandon) ∉ pre →
        PipeAct.taken (actsOf way pre) =
          PipeAct.written (actsOf way (tr.flatMap RelayEvent.ways)) := by
  obtain ⟨q, hpipes, -⟩ := (relay_simulation r).run ⟨_, relayRel_new connection⟩ hrun
  refine ⟨pipes_read_isPrefix hpipes, fun way pre post hways hkept => ?_⟩
  rw [hways] at hpipes ⊢
  exact pipes_complete_of_eof hpipes (any_isAbandon_eq_false hkept)

/-- A session in which each end reads what the other wrote and is told of the end. -/
def servedSession : List (Way × PipeAct UInt8) :=
  [(.toDevice, .write [9, 8]), (.toDevice, .read [9, 8]), (.toClient, .write [1, 2]),
    (.toClient, .finish), (.toDevice, .abandon), (.toClient, .read [1, 2]), (.toClient, .eof)]

/-- The schedule: open, copy both ways, close, and drop after the timeout. -/
theorem exists_run_servedSession :
    ∃ s tr, (unwrappedRelay 0).Run (RelaySt.new (UsbConnection.new 512)) tr s ∧
      tr.flatMap RelayEvent.ways = servedSession := by
  obtain ⟨s, tr, hrun, htest⟩ := Machine.exists_run_of_exec (M := unwrappedRelay 0)
    (s := RelaySt.new (UsbConnection.new 512))
    [.link (.host (.openSocket "x")), .link (.host (.sock 0 .poll)),
      .link (.host (.complete (.ok ()))), .link (.host (.complete (.ok ()))),
      .link (.host (.sock 0 .poll)), .link .receive,
      .link (.send (AdbMessage.new .OKAY 7 1 (toLeBytes 100))), .link .deliver,
      .link (.host (.sock 0 .poll)), .respond true, .client (.write [9, 8]),
      .upRead (.bytes [9, 8]), .upPoll true, .link .receive,
      .link (.send (AdbMessage.new .WRTE 7 1 [1, 2])), .link (.send (AdbMessage.new .CLSE 7 1 [])),
      .link .deliver, .link .deliver, .link (.host .removeClosed),
      .link (.host (.complete (.ok ()))), .link (.host (.complete (.ok ()))), .downRead,
      .downWrite (some 2), .downRead, .downShutdown true, .client (.read [1, 2]), .client .eof,
      .timeout, .drop]
    (fun _ tr => decide (tr.flatMap RelayEvent.ways = servedSession)) (by decide +kernel)
  exact ⟨s, tr, hrun, of_decide_eq_true htest⟩

/-- In this session the client has read what the device wrote. -/
theorem relay_streams_intact_servedSession : PipeAct.taken (actsOf .toClient servedSession) <+:
    PipeAct.written (actsOf .toClient servedSession) := by
  obtain ⟨s, tr, hrun, hways⟩ := exists_run_servedSession
  have hintact := (relay_streams_intact 0 _ tr s hrun).1 .toClient
  rwa [hways] at hintact

end AdbDaemon.SmartSocket
