import Mathlib.Algebra.GroupWithZero.Nat
import Mathlib.Data.List.Basic
import Mathlib.Tactic.Common

/-!
# Messages, headers and errors of the transport

Reference: `packages/transport/src/message.rs`, `packages/transport/src/error.rs`.

A header is six little-endian `u32` words. `AdbMessageHeader.read_toVec` is the codec's round trip,
which the USB framing proofs rest on.
-/

namespace AdbDaemon.Transport

/-! ## Errors -/

/-- `nusb::transfer::TransferError`. -/
inductive TransferError where
  | cancelled
  | stall
  | disconnected
  | fault
  | invalidArgument
  | unknown (code : UInt32)
deriving DecidableEq

inductive UsbError where
  | unsupported
  | claim
  | transfer (e : TransferError)
  | other
deriving DecidableEq

/-- `ErrorKind` without `TransportError`, which is the constructor `Error.transport`. -/
inductive ErrorKind where
  | invalidData
  | closed
  | usb (e : UsbError)
  | sign
  | invalidKey
  | delayedAckNotAvailable
  | other
  | msg (text : String)
deriving DecidableEq

/-- `Error`, by what it was built from: a kind alone, a kind with a text, a kind with the error that
caused it, or the latched error of a failed transport. -/
inductive Error where
  | kind (k : ErrorKind)
  | text (k : ErrorKind) (text : String)
  | cause (k : ErrorKind) (source : Error)
  | transport (e : Error)
deriving DecidableEq

/-- The `io::Error` of the socket operations; its kind is always `BrokenPipe`. -/
structure IoError where
  cause : Error
deriving DecidableEq

def ioError (cause : Error) : IoError := ⟨cause⟩

/-! ## Little-endian words -/

/-- `u32::to_le_bytes`, also `BufMut::put_u32_le` on an empty buffer. -/
def toLeBytes (v : UInt32) : List UInt8 :=
  [UInt8.ofNat v.toNat, UInt8.ofNat (v.toNat / 2 ^ 8), UInt8.ofNat (v.toNat / 2 ^ 16),
    UInt8.ofNat (v.toNat / 2 ^ 24)]

def ofLeBytes (b₀ b₁ b₂ b₃ : UInt8) : UInt32 :=
  UInt32.ofNat (b₀.toNat + 2 ^ 8 * b₁.toNat + 2 ^ 16 * b₂.toNat + 2 ^ 24 * b₃.toNat)

/-- `u32::from_le_bytes` of a payload converted with `try_into`: `none` unless it has four bytes. -/
def fromLeBytes : List UInt8 → Option UInt32
  | [b₀, b₁, b₂, b₃] => some (ofLeBytes b₀ b₁ b₂ b₃)
  | _ => none

@[simp] theorem length_toLeBytes (v : UInt32) : (toLeBytes v).length = 4 := rfl

/-- The four bytes of a word give it back. -/
@[simp] theorem ofLeBytes_toLeBytes (v : UInt32) :
    ofLeBytes (UInt8.ofNat v.toNat) (UInt8.ofNat (v.toNat / 2 ^ 8)) (UInt8.ofNat (v.toNat / 2 ^ 16))
      (UInt8.ofNat (v.toNat / 2 ^ 24)) = v := by
  apply UInt32.toNat_inj.mp
  have hv : v.toNat < 2 ^ 32 := v.toNat_lt
  simp only [ofLeBytes, UInt8.toNat_ofNat', UInt32.toNat_ofNat']
  omega

/-- A payload of one word is read back. -/
@[simp] theorem fromLeBytes_toLeBytes (v : UInt32) : fromLeBytes (toLeBytes v) = some v := by
  simp only [toLeBytes, fromLeBytes, ofLeBytes_toLeBytes]

/-- `Buf::get_u32_le`. The short case panics in the source; `AdbMessageHeader.read` checks the
length before it reads. -/
def getU32Le : List UInt8 → UInt32 × List UInt8
  | b₀ :: b₁ :: b₂ :: b₃ :: rest => (ofLeBytes b₀ b₁ b₂ b₃, rest)
  | rest => (0, rest)

@[simp] theorem getU32Le_append (v : UInt32) (rest : List UInt8) :
    getU32Le (toLeBytes v ++ rest) = (v, rest) := by
  simp only [toLeBytes, List.cons_append, List.nil_append, getU32Le, ofLeBytes_toLeBytes]

/-! ## Commands, headers and messages -/

/-- The commands of the protocol. -/
inductive AdbCommand where
  | SYNC
  | CNXN
  | OPEN
  | OKAY
  | CLSE
  | WRTE
  | AUTH
  | STLS
deriving DecidableEq

/-- The `repr(u32)` value of a command. -/
def AdbCommand.toU32 : AdbCommand → UInt32
  | .SYNC => 0x434e5953
  | .CNXN => 0x4e584e43
  | .OPEN => 0x4e45504f
  | .OKAY => 0x59414b4f
  | .CLSE => 0x45534c43
  | .WRTE => 0x45545257
  | .AUTH => 0x48545541
  | .STLS => 0x534C5453

/-- The derived `TryFrom<u32>`. -/
def AdbCommand.tryFrom (v : UInt32) : Option AdbCommand :=
  [SYNC, CNXN, OPEN, OKAY, CLSE, WRTE, AUTH, STLS].find? fun c => c.toU32 == v

/-- Every command is read as the one it was written for. -/
theorem AdbCommand.tryFrom_toU32 (c : AdbCommand) : AdbCommand.tryFrom c.toU32 = some c := by
  cases c <;> decide

/-- The header of a message, word by word. -/
structure AdbMessageHeader where
  command : AdbCommand
  arg0 : UInt32
  arg1 : UInt32
  dataLength : UInt32
  crc32 : UInt32
  magic : UInt32
deriving DecidableEq

/-- `AdbMessageHeader::LENGTH`. -/
def AdbMessageHeader.LENGTH : Nat := 24

/-- `AdbMessageHeader::read`, which refuses what is too short and a command it does not know. -/
def AdbMessageHeader.read (buf : List UInt8) : Except Error AdbMessageHeader :=
  if buf.length < LENGTH then .error (.text .invalidData "header too short")
  else
    let (word, buf) := getU32Le buf
    match AdbCommand.tryFrom word with
    | none => .error (.text .invalidData "unknown command")
    | some command =>
      let (arg0, buf) := getU32Le buf
      let (arg1, buf) := getU32Le buf
      let (dataLength, buf) := getU32Le buf
      let (crc32, buf) := getU32Le buf
      let (magic, _) := getU32Le buf
      .ok { command, arg0, arg1, dataLength, crc32, magic }

/-- `AdbMessageHeader::write` into an empty vector. -/
def AdbMessageHeader.toVec (h : AdbMessageHeader) : List UInt8 :=
  toLeBytes h.command.toU32 ++ (toLeBytes h.arg0 ++ (toLeBytes h.arg1 ++
    (toLeBytes h.dataLength ++ (toLeBytes h.crc32 ++ toLeBytes h.magic))))

@[simp] theorem AdbMessageHeader.length_toVec (h : AdbMessageHeader) : h.toVec.length = LENGTH := by
  simp [toVec, LENGTH]

/-- Reading back a written header gives every field of it. -/
theorem AdbMessageHeader.read_toVec (h : AdbMessageHeader) : read h.toVec = .ok h := by
  have hlen : ¬ h.toVec.length < LENGTH := by simp
  have hlast : getU32Le (toLeBytes h.magic) = (h.magic, []) := by
    simpa using getU32Le_append h.magic []
  rw [read, if_neg hlen]
  simp only [toVec, getU32Le_append, AdbCommand.tryFrom_toU32, hlast]

/-- `AdbMessage`: header and payload. -/
structure AdbMessage where
  header : AdbMessageHeader
  payload : List UInt8
deriving DecidableEq

/-- `AdbMessage::new`; `payload.len() as u32` truncates. -/
def AdbMessage.new (command : AdbCommand) (arg0 arg1 : UInt32) (payload : List UInt8) :
    AdbMessage where
  header := {
    command, arg0, arg1
    dataLength := UInt32.ofNat payload.length
    crc32 := 0
    magic := command.toU32 ^^^ 0xffffffff }
  payload := payload

section New

variable (command : AdbCommand) (arg0 arg1 : UInt32) (payload : List UInt8)

@[simp] theorem AdbMessage.new_command :
    (AdbMessage.new command arg0 arg1 payload).header.command = command := rfl

@[simp] theorem AdbMessage.new_arg0 :
    (AdbMessage.new command arg0 arg1 payload).header.arg0 = arg0 := rfl

@[simp] theorem AdbMessage.new_arg1 :
    (AdbMessage.new command arg0 arg1 payload).header.arg1 = arg1 := rfl

@[simp] theorem AdbMessage.new_payload :
    (AdbMessage.new command arg0 arg1 payload).payload = payload := rfl

end New

end AdbDaemon.Transport
