import AdbDaemon.Common.Text

/-!
# Endpoints and forward commands

Reference: `Proto` and `ForwardCommand` of `src/forward.rs`.

`host:` and `reverse:` requests share this grammar. An error is its chain of messages, outermost
first.
-/

namespace AdbDaemon.Forward

open Common

/-- The messages of an error, outermost context first. -/
abbrev Report := List String

/-- Add a message to an error. -/
def context {α : Type} (msg : String) : Except Report α → Except Report α
  | .ok a => .ok a
  | .error report => .error (msg :: report)

def intErrorMessage : IntErrorKind → String
  | .empty => "cannot parse integer from empty string"
  | .invalidDigit => "invalid digit found in string"
  | .posOverflow => "number too large to fit in target type"

/-- `Proto`: a TCP port, or an endpoint that the host does not interpret. -/
inductive Proto where
  | tcp (port : UInt16)
  | other (s : String)
deriving DecidableEq

/-- `ForwardCommand`, of forwards and reverse forwards alike. -/
inductive ForwardCommand where
  | add (left right : Proto) (norebind : Bool)
  | remove (proto : Proto)
  | removeAll
  | list
deriving DecidableEq

namespace Proto

/-- `Display`. -/
def toString : Proto → String
  | tcp port => "tcp:" ++ port.toNat.repr
  | other s => s

def parse (s : String) : Except Report Proto :=
  match stripPrefix "tcp:" s with
  | some port =>
    match parseUnsigned (2 ^ 16 - 1) port with
    | .ok n => .ok (tcp (UInt16.ofNat n))
    | .error kind => .error ["parse port", intErrorMessage kind]
  | none => .ok (other s)

/-- A printed port is read back. -/
theorem parse_toString_tcp (port : UInt16) : parse (tcp port).toString = .ok (tcp port) := by
  have hle : port.toNat ≤ 2 ^ 16 - 1 := Nat.le_sub_one_of_lt port.toNat_lt
  rw [parse, toString, stripPrefix_append]
  simp only [parseUnsigned_repr hle, UInt16.ofNat_toNat]

end Proto

namespace ForwardCommand

def parse (service : String) : Except Report (Option ForwardCommand) :=
  match stripPrefix "forward:" service with
  | some service =>
    let (norebind, service) :=
      match stripPrefix "norebind:" service with
      | some s => (true, s)
      | none => (false, service)
    match splitOnce ';' service with
    | none => .error ["invalid"]
    | some (left, right) => do
      let left ← context "parse local" (Proto.parse left)
      let right ← context "parse remote" (Proto.parse right)
      return some (add left right norebind)
  | none =>
    match stripPrefix "killforward:" service with
    | some service => do return some (remove (← Proto.parse service))
    | none =>
      if service = "killforward-all" then .ok (some removeAll)
      else if service = "list-forward" then .ok (some list)
      else .ok none

example : parse "forward:norebind:tcp:0;tcp:+080" =
    .ok (some (add (.tcp 0) (.tcp 80) true)) := by decide

example : parse "forward:tcp:65536;tcp:1" =
    .error ["parse local", "parse port", "number too large to fit in target type"] := by decide

end ForwardCommand

end AdbDaemon.Forward
