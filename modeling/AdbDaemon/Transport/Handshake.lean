import AdbDaemon.Common.Text
import AdbDaemon.Connections.Types
import AdbDaemon.Transport.Backend

/-!
# The device's banner and its `CNXN`

Reference: `Banner::from_str` of `packages/transport/src/banner.rs` and `AuthTransport::handle_cnxn`
of `packages/transport/src/transport.rs`.

The `CNXN` of a device carries its banner as payload; a transport is created when the banner names
the feature `delayed_ack`. `arg0` and `arg1` of the message, the device's version and the largest
payload it accepts, are not read.
-/

namespace AdbDaemon.Transport

open Common Connections

/-- `EnumString`, derived with a default variant: every text is some type of device. -/
def deviceTypeFromStr (s : String) : DeviceType := if s = "device" then .device else .other s

/-- Collect `key=value` segments; the last value of a key stays. -/
def parseProperties : List String → Table String String → Except Error (Table String String)
  | [], properties => .ok properties
  | segment :: segments, properties =>
    match splitOnce '=' segment with
    | none => .error (.kind .invalidData)
    | some (key, value) => parseProperties segments (properties.insert key value)

/-- `Banner::from_str`. -/
def bannerFromStr (s : String) : Except Error Banner :=
  match splitOnceStr "::" s with
  | none => .error (.kind .invalidData)
  | some (type, properties) =>
    match parseProperties (split ';' properties) ∅ with
    | .error err => .error err
    | .ok properties =>
      let features := (properties.lookup "features").getD ""
      .ok
        { deviceType := deviceTypeFromStr type
          properties := properties.erase "features"
          features := (split ',' features).dedup }

/-- `AuthTransport::handle_cnxn`: the backend of the transport and its banner. -/
def handleCnxn (conn : UsbConnection) (msg : AdbMessage) :
    Except Error (TransportBackend × Banner) :=
  match String.fromUTF8? ⟨msg.payload.toArray⟩ with
  | none => .error (.text .invalidData "malformed conn str")
  | some connStr =>
    match bannerFromStr connStr with
    | .error err => .error (.cause (.msg "parse banner") err)
    | .ok banner =>
      if "delayed_ack" ∈ banner.features then .ok (TransportBackend.new conn, banner)
      else .error (.kind .delayedAckNotAvailable)

/-- The transport of an accepted `CNXN` is a new one over the same connection. -/
theorem handleCnxn_ok {conn : UsbConnection} {msg : AdbMessage} {b : TransportBackend}
    {banner : Banner} (h : handleCnxn conn msg = .ok (b, banner)) : b = TransportBackend.new conn := by
  unfold handleCnxn at h
  split at h
  · cases h
  · split at h
    · cases h
    · split at h
      · cases h
        rfl
      · cases h

end AdbDaemon.Transport
