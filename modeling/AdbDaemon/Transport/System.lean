import AdbDaemon.Transport.Flush

/-!
# Host and device

The host of `AdbDaemon.Transport.Backend` against a conforming device, with ordered delivery in each
direction. The device answers an `OPEN` with an id that none of its open streams has, or refuses it;
it closes a stream when a `CLSE` names it and ignores a `CLSE` that names none; it may close a
stream, send on it and acknowledge at any time. It opens no streams of its own.

`systemStep_of_step` says once what a step can do.
-/

namespace AdbDaemon.Transport

open Common

/-- A stream that is open on the device. -/
structure DeviceStream where
  remoteId : UInt32
  localId : UInt32
deriving DecidableEq

/-- The host, the messages on their way, and the streams of the device. -/
structure SystemSt where
  host : TransportBackend
  /-- Messages submitted by the host and not yet received. -/
  toDevice : List AdbMessage
  /-- Messages sent by the device and not yet dispatched. -/
  toHost : List AdbMessage
  streams : List DeviceStream

/-- The steps of the host, of the reader task and of the device. -/
inductive SystemAct where
  /-- A step of the host other than a dispatch. -/
  | host (a : HostAct)
  /-- The reader task dispatches the next message. -/
  | deliver
  /-- The device receives an `OPEN` and accepts it. -/
  | accept (remoteId avail : UInt32)
  /-- The device receives an `OPEN` and refuses it. -/
  | refuse
  /-- The device receives any other message. -/
  | receive
  | close (remoteId : UInt32)
  | write (remoteId : UInt32) (payload : List UInt8)
  | ack (remoteId avail : UInt32)

namespace SystemSt

/-- A new transport, and a device without streams. -/
def new (connection : UsbConnection) : SystemSt where
  host := TransportBackend.new connection
  toDevice := []
  toHost := []
  streams := []

/-- The open stream with an id. -/
def stream (s : SystemSt) (remoteId : UInt32) : Option DeviceStream :=
  s.streams.find? fun p => p.remoteId = remoteId

def closeStream (s : SystemSt) (remoteId : UInt32) : SystemSt :=
  { s with streams := s.streams.filter fun p => p.remoteId ≠ remoteId }

def sendToHost (s : SystemSt) (msg : AdbMessage) : SystemSt :=
  { s with toHost := s.toHost ++ [msg] }

def isDispatch : HostAct → Bool
  | .dispatch _ => true
  | _ => false

/-- One step; the device answers what it is asked, in its own time. -/
def step (s : SystemSt) : SystemAct → Option (SystemSt × HostEvent)
  | .host a =>
    if isDispatch a then none
    else
      match s.host.step a with
      | none => none
      | some (host, e) => some ({ s with host, toDevice := s.toDevice ++ e.sent }, e)
  | .deliver =>
    match s.toHost with
    | [] => none
    | msg :: toHost =>
      match s.host.step (.dispatch msg) with
      | none => none
      | some (host, e) => some ({ s with host, toHost }, e)
  -- the device takes an id of its own that none of its streams has
  | .accept remoteId avail =>
    match s.toDevice with
    | [] => none
    | msg :: toDevice =>
      if msg.header.command = .OPEN ∧ remoteId ≠ 0 ∧ s.stream remoteId = none then
        let s : SystemSt := { s with toDevice, streams := s.streams ++ [⟨remoteId, msg.header.arg0⟩] }
        some (s.sendToHost (AdbMessage.new .OKAY remoteId msg.header.arg0 (toLeBytes avail)),
          .internal)
      else none
  | .refuse =>
    match s.toDevice with
    | [] => none
    | msg :: toDevice =>
      if msg.header.command = .OPEN then
        some ({ s with toDevice }.sendToHost (AdbMessage.new .CLSE 0 msg.header.arg0 []), .internal)
      else none
  | .receive =>
    match s.toDevice with
    | [] => none
    | msg :: toDevice =>
      match msg.header.command with
      | .OPEN => none
      | .CLSE => some ({ s with toDevice }.closeStream msg.header.arg1, .internal)
      | _ => some ({ s with toDevice }, .internal)
  | .close remoteId =>
    match s.stream remoteId with
    | none => none
    | some p =>
      some ((s.closeStream remoteId).sendToHost (AdbMessage.new .CLSE remoteId p.localId []),
        .internal)
  | .write remoteId payload =>
    match s.stream remoteId with
    | none => none
    | some p => some (s.sendToHost (AdbMessage.new .WRTE remoteId p.localId payload), .internal)
  | .ack remoteId avail =>
    match s.stream remoteId with
    | none => none
    | some p =>
      some (s.sendToHost (AdbMessage.new .OKAY remoteId p.localId (toLeBytes avail)), .internal)

/-- No message is in flight in either direction, and every spawned write has finished. -/
def Quiescent (s : SystemSt) : Prop :=
  s.toDevice = [] ∧ s.toHost = [] ∧ ∀ w ∈ s.host.writers, w.done = true

/-- The stream is the peer of a socket that is still alive. -/
def HasPeer (s : SystemSt) (p : DeviceStream) : Prop :=
  ∃ k ∈ s.host.backends, k.localId = p.localId ∧ k.state.remoteId = p.remoteId ∧ k.phase ≠ .dropped

instance (s : SystemSt) : Decidable s.Quiescent :=
  inferInstanceAs (Decidable (_ ∧ _ ∧ ∀ w ∈ s.host.writers, w.done = true))

instance (s : SystemSt) (p : DeviceStream) : Decidable (s.HasPeer p) :=
  inferInstanceAs (Decidable (∃ k ∈ s.host.backends, _))

end SystemSt

/-- The host and a device that keeps to the protocol. -/
def systemMachine : Machine SystemSt SystemAct HostEvent := ⟨SystemSt.step⟩

/-! ## What a step can do -/

/-- A message the device sends about a stream, or in answer to an `OPEN`. -/
def Reply (msg : AdbMessage) : Prop :=
  (msg.header.command = .OKAY ∧ fromLeBytes msg.payload ≠ none) ∨ msg.header.command = .WRTE ∨
    msg.header.command = .CLSE

/-- The steps, with the facts about queues and streams under which each is taken. -/
inductive SystemStep (s : SystemSt) : SystemSt → HostEvent → Prop
  | host {a : HostAct} {host : TransportBackend} {e : HostEvent}
      (hs : hostMachine.step s.host a = some (host, e))
      (ha : ∀ msg, a ≠ .dispatch msg) :
      SystemStep s { s with host, toDevice := s.toDevice ++ e.sent } e
  | deliver {msg : AdbMessage} {toHost : List AdbMessage} {host : TransportBackend} {e : HostEvent}
      (hto : s.toHost = msg :: toHost)
      (hs : hostMachine.step s.host (.dispatch msg) = some (host, e)) :
      SystemStep s { s with host, toHost } e
  | accept {msg : AdbMessage} {toDevice : List AdbMessage} {remoteId avail : UInt32}
      (hto : s.toDevice = msg :: toDevice) (hcmd : msg.header.command = .OPEN)
      (hne : remoteId ≠ 0) :
      SystemStep s
        { s with
          toDevice
          streams := s.streams ++ [⟨remoteId, msg.header.arg0⟩]
          toHost := s.toHost ++ [AdbMessage.new .OKAY remoteId msg.header.arg0 (toLeBytes avail)] }
        .internal
  | refuse {msg : AdbMessage} {toDevice : List AdbMessage} (hto : s.toDevice = msg :: toDevice)
      (hcmd : msg.header.command = .OPEN) :
      SystemStep s
        { s with toDevice, toHost := s.toHost ++ [AdbMessage.new .CLSE 0 msg.header.arg0 []] }
        .internal
  | receiveClose {msg : AdbMessage} {toDevice : List AdbMessage}
      (hto : s.toDevice = msg :: toDevice)
      (hcmd : msg.header.command = .CLSE) :
      SystemStep s
        { s with toDevice, streams := s.streams.filter fun p => p.remoteId ≠ msg.header.arg1 }
        .internal
  | receive {msg : AdbMessage} {toDevice : List AdbMessage} (hto : s.toDevice = msg :: toDevice)
      (hcmd : msg.header.command ≠ .OPEN ∧ msg.header.command ≠ .CLSE) :
      SystemStep s { s with toDevice } .internal
  | close {p : DeviceStream} (hp : p ∈ s.streams) :
      SystemStep s
        { s with
          streams := s.streams.filter fun q => q.remoteId ≠ p.remoteId
          toHost := s.toHost ++ [AdbMessage.new .CLSE p.remoteId p.localId []] }
        .internal
  | send {p : DeviceStream} {msg : AdbMessage} (hp : p ∈ s.streams)
      (hid : msg.header.arg1 = p.localId)
      (hreply : Reply msg) (hcmd : msg.header.command ≠ .CLSE) :
      SystemStep s { s with toHost := s.toHost ++ [msg] } .internal

/-- A stream of the device that is found has the id it was looked for by. -/
theorem SystemSt.stream_some {s : SystemSt} {remoteId : UInt32} {p : DeviceStream}
    (h : s.stream remoteId = some p) : p ∈ s.streams ∧ p.remoteId = remoteId :=
  ⟨List.mem_of_find?_eq_some h, by simpa using List.find?_some h⟩

/-- Every step of the machine is one of `SystemStep`: a step of the host, a dispatch, or one of the
device with what it takes and sends. -/
theorem systemStep_of_step {s s' : SystemSt} {a : SystemAct} {e : HostEvent}
    (h : systemMachine.step s a = some (s', e)) : SystemStep s s' e := by
  simp only [systemMachine] at h
  cases a with
  | host a =>
    simp only [SystemSt.step] at h
    split at h
    · exact absurd h (by simp)
    · rename_i ha
      split at h
      · exact absurd h (by simp)
      · rename_i host e' hs
        simp only [Option.some.injEq, Prod.mk.injEq] at h
        obtain ⟨rfl, rfl⟩ := h
        refine .host hs ?_
        rintro msg rfl
        simp [SystemSt.isDispatch] at ha
  | deliver =>
    simp only [SystemSt.step] at h
    split at h
    · exact absurd h (by simp)
    · rename_i msg toHost hto
      split at h
      · exact absurd h (by simp)
      · rename_i host e' hs
        simp only [Option.some.injEq, Prod.mk.injEq] at h
        obtain ⟨rfl, rfl⟩ := h
        exact .deliver hto hs
  | accept remoteId avail =>
    simp only [SystemSt.step] at h
    split at h
    · exact absurd h (by simp)
    · rename_i msg toDevice hto
      simp only [Option.ite_none_right_eq_some, Option.some.injEq, Prod.mk.injEq] at h
      obtain ⟨⟨hcmd, hne, -⟩, rfl, rfl⟩ := h
      exact .accept hto hcmd hne
  | refuse =>
    simp only [SystemSt.step] at h
    split at h
    · exact absurd h (by simp)
    · rename_i msg toDevice hto
      simp only [Option.ite_none_right_eq_some, Option.some.injEq, Prod.mk.injEq] at h
      obtain ⟨hcmd, rfl, rfl⟩ := h
      exact .refuse hto hcmd
  | receive =>
    simp only [SystemSt.step] at h
    split at h
    · exact absurd h (by simp)
    · rename_i msg toDevice hto
      split at h
      · exact absurd h (by simp)
      · rename_i hcmd
        simp only [Option.some.injEq, Prod.mk.injEq] at h
        obtain ⟨rfl, rfl⟩ := h
        exact .receiveClose hto hcmd
      · rename_i hopen hclose
        simp only [Option.some.injEq, Prod.mk.injEq] at h
        obtain ⟨rfl, rfl⟩ := h
        exact .receive hto ⟨hopen, hclose⟩
  | close remoteId =>
    simp only [SystemSt.step] at h
    split at h
    · exact absurd h (by simp)
    · rename_i p hp
      simp only [Option.some.injEq, Prod.mk.injEq] at h
      obtain ⟨rfl, rfl⟩ := h
      obtain ⟨hmem, rfl⟩ := SystemSt.stream_some hp
      exact .close hmem
  | write remoteId payload =>
    simp only [SystemSt.step] at h
    split at h
    · exact absurd h (by simp)
    · rename_i p hp
      simp only [Option.some.injEq, Prod.mk.injEq] at h
      obtain ⟨rfl, rfl⟩ := h
      exact .send (SystemSt.stream_some hp).1 rfl (.inr (.inl rfl)) (by simp)
  | ack remoteId avail =>
    simp only [SystemSt.step] at h
    split at h
    · exact absurd h (by simp)
    · rename_i p hp
      simp only [Option.some.injEq, Prod.mk.injEq] at h
      obtain ⟨rfl, rfl⟩ := h
      exact .send (SystemSt.stream_some hp).1 rfl (.inl ⟨rfl, by simp⟩) (by simp)

end AdbDaemon.Transport
