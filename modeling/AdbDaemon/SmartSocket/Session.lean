import AdbDaemon.Forward.Table
import AdbDaemon.SmartSocket.Selector
import AdbDaemon.SmartSocket.Services
import AdbDaemon.Transport.Banner

/-!
# A session with a client

Reference: `src/smart_socket/mod.rs`, `handle_service` of `src/smart_socket/services.rs`,
`consume_device_selector` of `src/smart_socket/devices.rs` and `handle_forward` of `src/forward.rs`.

`sessionMachine` is one `SmartSocket::run`, up to the relaying of a stream. An action is what the
session gets from elsewhere when it asks: a string of the client, the connections that a table
yields, the answer of a device, an update; other clients and the connection manager may do anything
in between. An event is what the client said, or the frames it is sent.
-/

namespace AdbDaemon.SmartSocket

open Common Connections Forward

/-! ## What a client is sent -/

/-- What a session sends at once. -/
inductive Frame where
  | okay
  | fail
  /-- The id of a connection. -/
  | id (id : Nat)
  /-- A protocol string. -/
  | text (s : String)
deriving DecidableEq

/-- `u64::to_le_bytes`. -/
def idBytes (id : Nat) : List UInt8 := (List.range 8).map fun i => UInt8.ofNat (id / 256 ^ i)

/-- The bytes of a frame. -/
def Frame.encode : Frame → List UInt8
  | .okay => toBytes "OKAY"
  | .fail => toBytes "FAIL"
  | .id n => idBytes n
  | .text s => writeProtocolString (toBytes s)

/-- `respond_data` with `FAIL`. -/
def failFrames (msg : String) : List Frame := [.fail, .text msg]

/-- `respond_data` with `OKAY`. -/
def okayFrames (s : String) : List Frame := [.okay, .text s]

/-! ## The session -/

/-- What a connection is picked for. -/
inductive Goal where
  | transport (legacy : Bool)
  | stream (service : String)
  | features
  | getState
  | reconnect
  /-- A round of `wait-for-any-device`, with the selector it began with. -/
  | wait (selector : DeviceSelector)

/-- What the session asks for next. -/
inductive SessionStage where
  /-- The first string of the client. -/
  | request
  /-- The service after a selector of its own. -/
  | second
  | picking (goal : Goal)
  /-- The reverse table, for a service of the device. -/
  | replaying (service : String)
  | upgrading (goal : Goal)
  | opening
  /-- `list_devices`; `tracking` if the list is one of many. -/
  | listing (long tracking : Bool)
  | tracking (long : Bool)
  | waiting (selector : DeviceSelector)
  | forwarding (cmd : ForwardCommand)
  /-- The stream is open, and copied in both directions. -/
  | relaying
  | ended
  /-- `process::exit`. -/
  | exited

/-- `SmartSocket`: the device that was chosen, and how far the session has come. -/
structure Session where
  device : DeviceSelector
  stage : SessionStage

/-- What the session waits for, with the outcome. -/
inductive SessionAct where
  | read (res : Except ReadError String)
  /-- What the table yields, by serial or in an iteration. -/
  | pick (found : List Connection)
  | replay (forwards : ReverseForwards)
  | upgrade (banner : Option Banner)
  | openSocket (opening : Opening)
  | list (found : List Connection)
  /-- `handle_forward` on the tables as they are, and the port that the system chooses. -/
  | forward (mgr : ForwardingMgr) (env : Env) (found : List Connection) (fresh : UInt16)
  | update
  /-- `wait_for` fails: the receiver has lagged, or the client has sent a byte, or was reset. -/
  | waitFailed (msg : String)
  /-- `wait_for` reads the end of the client's stream. -/
  | eof
  /-- A write to the client fails. -/
  | broken

/-- What a step received and sent. -/
structure SessionEvent where
  /-- The string that was read from the client. -/
  received : Option String
  sent : List Frame
deriving DecidableEq

/-- `pick_connection`, from what the table yields. -/
def pickFrom (found : List Connection) : DeviceSelector → Except PickDeviceError Connection
  | .connection c => .ok c
  | .serial serial => pickSerial serial found.head?
  | .any => pickAny found
  | .none => .error .notSelected

/-- The first part of `consume_device_selector`. -/
inductive Selected where
  /-- The device is picked at once, and the service read next. -/
  | transport (device : DeviceSelector) (legacy : Bool)
  | service (device : DeviceSelector) (service : String)
  | malformed

/-- `consume_device_selector`, on the string that was read. -/
def select (device : DeviceSelector) (service : String) : Selected :=
  let (service, legacy) :=
    match stripPrefix "host:transport:" service with
    | some serial => ("host:tport:serial:" ++ serial, true)
    | none => (service, false)
  match stripPrefix "host:tport:" service with
  | some s =>
    match stripPrefix "serial:" s with
    | some s => .transport (.serial s) legacy
    | none => .transport .any legacy
  | none =>
    match stripPrefix "host-serial:" service with
    | some s =>
      match splitOnce ':' s with
      | none => .malformed
      | some (serial, service) => .service (.serial serial) ("host:" ++ service)
    | none =>
      match stripPrefix "host:" service with
      | some _ => .service .any service
      | none => .service device service

/-- The outermost message of a report. -/
def outermost (report : Report) : String := report.headD ""

namespace Session

/-- A client has connected. -/
def new : Session := ⟨.none, .request⟩

/-- `run`, when `handle_service` returns an error that is not the end of the client's stream. -/
def fail (s : Session) (msg : String) : Session × List Frame :=
  ({ s with stage := .ended }, failFrames msg)

/-- `read_pstring` failed: an early end of the stream is not answered. -/
def readFailed (s : Session) : ReadError → Session × List Frame
  | .unexpectedEof => ({ s with stage := .ended }, [])
  | _ => s.fail "read service"

/-- The match on a service of the host. -/
def hostService (s : Session) (service : String) : Session × List Frame :=
  match service with
  | "version" => ({ s with stage := .ended }, okayFrames "0029")
  | "is-adb-daemon-rs" => ({ s with stage := .ended }, [.okay])
  | "kill" => ({ s with stage := .exited }, [.okay])
  | "features" => ({ s with stage := .picking .features }, [])
  -- `ends_with('l')`
  | "devices" => ({ s with stage := .listing false false }, [])
  | "devices-l" => ({ s with stage := .listing true false }, [])
  | "track-devices" => ({ s with stage := .listing false true }, [.okay])
  | "track-devices-l" => ({ s with stage := .listing true true }, [.okay])
  | "get-state" => ({ s with stage := .picking .getState }, [])
  | "wait-for-any-device" => ({ s with stage := .picking (.wait s.device) }, [.okay])
  | "reconnect" => ({ s with stage := .picking .reconnect }, [])
  | "reconnect-offline" => ({ s with stage := .ended }, okayFrames "")
  | service =>
    match ForwardCommand.parse service with
    | .error report => s.fail (outermost report)
    | .ok none => s.fail "service not found"
    | .ok (some cmd) => ({ s with stage := .forwarding cmd }, [])

/-- `handle_service` after the selector. -/
def service (s : Session) (service : String) : Session × List Frame :=
  match stripPrefix "host:" service with
  | none => ({ s with stage := .picking (.stream service) }, [])
  | some service => s.hostService service

/-- `handle_service` on the first string of the client. -/
def request (s : Session) (service : String) : Session × List Frame :=
  match select s.device service with
  | .malformed => s.fail "malformed service"
  | .transport device legacy => ({ device, stage := .picking (.transport legacy) }, [])
  | .service device service => ({ s with device }).service service

/-- What follows `pick_connection`. -/
def picked (s : Session) (goal : Goal) : Except PickDeviceError Connection → Session × List Frame
  | .error err =>
    match goal, err with
    | .wait selector, .noDevices => ({ s with stage := .waiting selector }, [])
    | .wait selector, .notFound _ => ({ s with stage := .waiting selector }, [])
    | _, _ => s.fail err.toString
  | .ok conn =>
    let s := { s with device := .connection conn }
    match goal with
    | .transport legacy =>
      ({ s with stage := .second }, .okay :: if legacy then [] else [.id conn.id])
    | .stream service => ({ s with stage := .replaying service }, [])
    | .features => ({ s with stage := .upgrading .features }, [])
    | .reconnect => ({ s with stage := .upgrading .reconnect }, [])
    | .getState => ({ s with stage := .ended }, okayFrames "device")
    | .wait selector =>
      if conn.banner.deviceType = .device then ({ s with stage := .ended }, [.okay])
      else ({ s with stage := .waiting selector }, [])

/-- What `handle_forward` writes for its answer. -/
def forwarded (s : Session) : ForwardReply → Option (Session × List Frame)
  | .notHandled => none
  | .okay allocated =>
    some ({ s with stage := .ended },
      [.okay, .okay] ++ (allocated.map fun port => .text port.toNat.repr).toList)
  | .listed text => some ({ s with stage := .ended }, okayFrames text)
  | .failed report => some (s.fail (outermost report))

/-- A step after the requests are read, with what it sends: the arms of `handle_service`, cut where
they wait. -/
def answer (s : Session) : SessionAct → Option (Session × List Frame)
  | .read _ => none
  | .pick found =>
    match s.stage with
    | .picking goal => some (s.picked goal (pickFrom found s.device))
    | _ => none
  | .replay forwards =>
    match s.stage with
    | .replaying service =>
      match handleReverse forwards service with
      | .error report => some (s.fail (outermost report))
      | .ok _ => some ({ s with stage := .upgrading (.stream service) }, [])
    | _ => none
  | .upgrade banner =>
    match s.stage, banner with
    | .upgrading _, none => some (s.fail "device disconnected")
    | .upgrading (.stream _), some _ => some ({ s with stage := .opening }, [])
    | .upgrading .features, some banner =>
      some ({ s with stage := .ended }, okayFrames (Transport.featuresStr banner.features))
    | .upgrading .reconnect, some _ => some ({ s with stage := .ended }, okayFrames "")
    | _, _ => none
  | .openSocket opening =>
    match s.stage with
    | .opening =>
      match SmartSocket.openSocket opening with
      | .error _ => some (s.fail "open socket")
      | .ok _ => some ({ s with stage := .relaying }, [.okay])
    | _ => none
  | .list found =>
    match s.stage with
    | .listing long true =>
      some ({ s with stage := .tracking long }, [.text (listDevices long found)])
    | .listing long false => some ({ s with stage := .ended }, okayFrames (listDevices long found))
    | _ => none
  | .forward mgr env found fresh =>
    match s.stage with
    | .forwarding cmd =>
      match mgr.handleCommand env cmd (pickFrom found s.device) fresh with
      | none => none
      | some (_, reply) => s.forwarded reply
    | _ => none
  | .update =>
    match s.stage with
    | .tracking long => some ({ s with stage := .listing long true }, [])
    -- an update only makes it look again
    | .waiting selector => some (⟨selector, .picking (.wait selector)⟩, [])
    | _ => none
  | .waitFailed msg =>
    match s.stage with
    | .tracking _ | .waiting _ => some (s.fail msg)
    | _ => none
  | .eof =>
    match s.stage with
    | .tracking _ => some ({ s with stage := .ended }, [])
    -- at the end of the stream `wait_for` is `None`: the loop breaks and still answers
    | .waiting _ => some ({ s with stage := .ended }, [.okay])
    | _ => none
  | .broken =>
    match s.stage with
    | .ended | .exited | .relaying => none
    | _ => some ({ s with stage := .ended }, [])

/-- One step: a string is read, or one of the later waits is over. -/
def step (s : Session) (a : SessionAct) : Option (Session × SessionEvent) :=
  match a, s.stage with
  | .read (.error err), .request | .read (.error err), .second =>
    some ((s.readFailed err).1, ⟨none, (s.readFailed err).2⟩)
  | .read (.ok service), .request => some ((s.request service).1, ⟨some service, (s.request service).2⟩)
  | .read (.ok service), .second => some ((s.service service).1, ⟨some service, (s.service service).2⟩)
  | a, _ => (s.answer a).map fun n => (n.1, ⟨none, n.2⟩)

end Session

/-- A session with its client, for any outcome of what it waits for. -/
def sessionMachine : Machine Session SessionAct SessionEvent := ⟨Session.step⟩

/-- The strings that the client was heard to say. -/
def requests (tr : List SessionEvent) : List String := tr.filterMap SessionEvent.received

/-- What the client was sent. -/
def frames (tr : List SessionEvent) : List Frame := tr.flatMap SessionEvent.sent

/-- The selector of a request of its own is consumed as by `consumeDeviceSelector`, on tables that do
not change. -/
theorem consumeDeviceSelector_eq (mgr : ConnectionMgr) (device : DeviceSelector) (service : String)
    (next : Except ReadError String) :
    consumeDeviceSelector mgr device service next =
      match select device service with
      | .malformed => .error .malformedService
      | .service device service => .ok (service, device, [])
      | .transport device legacy =>
        match pickConnection mgr device with
        | .error err => .error (.pick err)
        | .ok conn =>
          match next with
          | .error err => .error (.readService err)
          | .ok service =>
            .ok (service, .connection conn, if legacy then [.okay] else [.okay, .id conn.id]) := by
  simp only [consumeDeviceSelector, select]
  cases hlegacy : stripPrefix "host:transport:" service with
  | none =>
    cases htport : stripPrefix "host:tport:" service with
    | none =>
      dsimp only
      split
      · split <;> simp only [*]
      · split <;> simp only [*]
    | some s =>
      cases hserial : stripPrefix "serial:" s with
      | none =>
        cases hpick : pickConnection mgr .any with
        | error err => simp only [hserial, hpick]
        | ok conn => cases next <;> simp only [hserial, hpick]
      | some serial =>
        cases hpick : pickConnection mgr (.serial serial) with
        | error err => simp only [hserial, hpick]
        | ok conn => cases next <;> simp only [hserial, hpick]
  | some serial =>
    have hserial : stripPrefix "serial:" ("serial:" ++ serial) = some serial := stripPrefix_append _ _
    cases hpick : pickConnection mgr (.serial serial) with
    | error err => simp only [stripPrefix_tport, hserial, hpick]
    | ok conn => cases next <;> simp only [stripPrefix_tport, hserial, hpick]

end AdbDaemon.SmartSocket
