import AdbDaemon.Common.Text
import AdbDaemon.Connections.Manager

/-!
# Device selection and listings

Reference: `pick_connection` and `list_devices` of `src/smart_socket/devices.rs`.

`listDevices` is the text written for the connections that `ConnectionMgr::iter` yields, in their
order.
-/

namespace AdbDaemon.SmartSocket

open Common Connections

/-- How a client has chosen its device. -/
inductive DeviceSelector where
  | connection (c : Connection)
  | serial (serial : String)
  | any
  | none

/-- Why no connection is picked. -/
inductive PickDeviceError where
  | notSelected
  | noDevices
  | moreThanOne
  | notFound (serial : String)
deriving DecidableEq

/-- `Display`. -/
def PickDeviceError.toString : PickDeviceError → String
  | notSelected => "no device selected"
  | noDevices => "no devices/emulators found"
  | moreThanOne => "more than one device/emulator"
  | notFound serial => "device '" ++ serial ++ "' not found"

/-- The only one of the connections that an iteration yields. -/
def pickAny : List Connection → Except PickDeviceError Connection
  | [] => .error .noDevices
  | [c] => .ok c
  | _ :: _ :: _ => .error .moreThanOne

def pickSerial (serial : String) : Option Connection → Except PickDeviceError Connection
  | some c => .ok c
  | none => .error (.notFound serial)

/-- `pick_connection`, on tables that do not change meanwhile. It also pins the selector to the
connection. -/
def pickConnection (mgr : ConnectionMgr) : DeviceSelector → Except PickDeviceError Connection
  | .connection c => .ok c
  | .serial serial => pickSerial serial (mgr.get serial)
  | .any => pickAny mgr.iter
  | .none => .error .notSelected

/-- Left-aligned in a field of `width` characters. -/
def padRight (width : Nat) (s : String) : String :=
  s ++ String.ofList (List.replicate (width - s.length) ' ')

/-- Every character that is not an ASCII letter or digit becomes an underscore. -/
def replaceNonAlphanumeric (s : String) : String := s.map fun c => if c.isAlphanum then c else '_'

/-- The properties of a long listing, with the names they are printed under. -/
def listedProperties : List (String × String) :=
  [("product", Banner.PRODUCT_NAME), ("model", Banner.PRODUCT_MODEL),
    ("device", Banner.PRODUCT_DEVICE)]

def propertyText (device : Connection) (name key : String) : String :=
  " " ++ name ++ ":" ++ replaceNonAlphanumeric ((device.banner.getprop key).getD "Unknown")

/-- What is written for one device, up to the line break. -/
def deviceLine (long : Bool) (device : Connection) : String :=
  if long then
    padRight 22 device.serial ++ "\t" ++ device.banner.deviceType.toString ++ " " ++
      toString device.id
      ++ listedProperties.foldl (fun s p => s ++ propertyText device p.1 p.2) ""
      ++ " transport_id:" ++ toString device.id
  else device.serial ++ "\t" ++ device.banner.deviceType.toString

/-- `list_devices`: a line for each open connection. -/
def listDevices (long : Bool) (devices : List Connection) : String :=
  devices.foldl (fun s device => s ++ (deviceLine long device ++ "\n")) ""

/-- The lines of a text. -/
def lines (s : String) : List (List Char) := s.toList.splitOn '\n'

/-- A listing has a line for each device, with a break behind it. -/
theorem toList_listDevices (long : Bool) (devices : List Connection) :
    (listDevices long devices).toList =
      devices.flatMap fun device => (deviceLine long device).toList ++ ['\n'] := by
  rw [listDevices, toList_foldl_append]
  simp [String.toList_append]

/-- A listing has the lines of each device, and an empty one at its end. -/
theorem mem_lines_listDevices {long : Bool} {devices : List Connection} {l : List Char} :
    l ∈ lines (listDevices long devices) ↔
      l = [] ∨ ∃ device ∈ devices, l ∈ lines (deviceLine long device) := by
  rw [lines, toList_listDevices]
  induction devices with
  | nil => simp
  | cons device devices ih =>
    rw [List.flatMap_cons, List.append_assoc, List.singleton_append, List.splitOn_append_cons_self,
      List.mem_append, ih, ← lines]
    simp only [List.mem_cons, exists_eq_or_imp]
    tauto

/-- Listings of the same devices, in any order and number, have the same lines. -/
theorem lines_listDevices_congr {long : Bool} {devices devices' : List Connection}
    (h : ∀ c, c ∈ devices ↔ c ∈ devices') (l : List Char) :
    l ∈ lines (listDevices long devices) ↔ l ∈ lines (listDevices long devices') := by
  simp only [mem_lines_listDevices, h]

end AdbDaemon.SmartSocket
