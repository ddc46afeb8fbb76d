import AdbDaemon.Common.Table

/-!
# Connections

Reference: `src/connection/types.rs` and `packages/transport/src/banner.rs`.

A connection is identified by its id, which `MaybeConnection::alloc` draws from a counter of 64 bits;
as a number it is faithful for the first `2 ^ 64 - 1` allocations (`KeysFree`). Whether the transport
of a connection has failed is not part of the connection: the manager's state lists the ids of the
closed ones.
-/

namespace AdbDaemon.Connections

open Common

/-- What the banner says that a device is. -/
inductive DeviceType where
  | device
  | other (s : String)
deriving DecidableEq

/-- What a device says about itself in its `CNXN`. -/
structure Banner where
  deviceType : DeviceType
  properties : Table String String
  features : List String

namespace DeviceType

/-- `Display`, derived with lowercase names. -/
def toString : DeviceType → String
  | device => "device"
  | other s => s

end DeviceType

namespace Banner

def PRODUCT_NAME : String := "ro.product.name"

def PRODUCT_MODEL : String := "ro.product.model"

def PRODUCT_DEVICE : String := "ro.product.device"

def getprop (b : Banner) (key : String) : Option String := b.properties.lookup key

end Banner

/-- An id and a serial for which no connection exists yet: the handshake is under way. -/
structure MaybeConnection where
  id : Nat
  serial : String
deriving DecidableEq

/-- A connection, by its id, with the serial and the banner that it keeps. -/
structure Connection where
  id : Nat
  serial : String
  banner : Banner

/-- `MaybeConnection::create` over a transport with this banner. -/
def MaybeConnection.create (conn : MaybeConnection) (banner : Banner) : Connection :=
  ⟨conn.id, conn.serial, banner⟩

@[simp] theorem MaybeConnection.create_id (conn : MaybeConnection) (banner : Banner) :
    (conn.create banner).id = conn.id := rfl

@[simp] theorem MaybeConnection.create_serial (conn : MaybeConnection) (banner : Banner) :
    (conn.create banner).serial = conn.serial := rfl

end AdbDaemon.Connections
