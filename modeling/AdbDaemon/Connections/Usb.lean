import AdbDaemon.Connections.Manager
import AdbDaemon.Transport.Auth

/-!
# USB devices

Reference: `src/connection/usb.rs`, `ConnectionMgr::run` of `src/connection/manager.rs`, `UsbConfig`
of `src/config.rs` and `UsbConnection::new` of `packages/transport/src/connection/usb.rs`.

The loop of the manager opens every device that is allowed and not in `by_serial`, and leaves the
handshake to a task of its own. An interface is claimed by one transport at a time, and a transport
gives its claim up when it fails; nothing else keeps the loop from a device whose handshake is under
way.

`get_iff` says exactly when the connection of a device that is plugged in is found: unless another
one under its serial was added after it and was late, its transport failed or its device gone.
-/

namespace AdbDaemon.Connections

open Common Transport

/-! ## Opening a device -/

def ADB_CLASS : UInt8 := 0xff

def ADB_SUBCLASS : UInt8 := 0x42

def ADB_PROTOCOL : UInt8 := 0x1

/-- An interface as it is listed before the device is opened. -/
structure InterfaceInfo where
  interfaceNumber : UInt8
  cls : UInt8
  subclass : UInt8
  protocol : UInt8
deriving DecidableEq

/-- A device as `list_devices` shows it. -/
structure DeviceInfo where
  /-- A new one each time the device is plugged in. -/
  id : Nat
  serialNumber : Option String
  interfaces : List InterfaceInfo
deriving DecidableEq

inductive TransferType where
  | control
  | isochronous
  | bulk
  | interrupt
deriving DecidableEq

inductive EndpointDirection where
  | out
  | «in»
deriving DecidableEq

/-- An endpoint, as far as `UsbConnection::new` looks at it. -/
structure EndpointDescriptor where
  address : UInt8
  transferType : TransferType
  direction : EndpointDirection
  maxPacketSize : Nat

/-- The endpoints of a claimed interface. -/
structure InterfaceDescriptor where
  endpoints : List EndpointDescriptor

/-- What the system answers to the calls of `UsbConnection::new`; a text is an error of `nusb`. -/
structure UsbAnswers where
  opened : Except String Unit
  /-- The claim of an interface, with its descriptors. -/
  claimed : UInt8 → Except String (List InterfaceDescriptor)
  endpoint : UInt8 → Except String Unit

/-- The interface that `open_device` looks for. -/
def InterfaceInfo.isAdb (i : InterfaceInfo) : Bool :=
  i.cls == ADB_CLASS && i.subclass == ADB_SUBCLASS && i.protocol == ADB_PROTOCOL

/-- `UsbConnection::open_device`, other than on Windows. -/
def openDevice (device : DeviceInfo) (answers : UsbAnswers) : Except Error UInt8 :=
  match device.interfaces.find? InterfaceInfo.isAdb with
  | none => .error (.kind (.usb .unsupported))
  | some iface =>
    match answers.opened with
    | .error err => .error (.text (.usb .other) err)
    | .ok () => .ok iface.interfaceNumber

/-- The first bulk endpoint in the direction. -/
def InterfaceDescriptor.findBulk (desc : InterfaceDescriptor) (direction : EndpointDirection) :
    Option EndpointDescriptor :=
  desc.endpoints.find? fun e => e.transferType == .bulk && e.direction == direction

/-- What `UsbConnection::new` does with the descriptors of the interface it has claimed. -/
def connectInterface (answers : UsbAnswers) : List InterfaceDescriptor → Except Error UsbConnection
  | [] => .error (.text (.usb .other) "no interface")
  | desc :: _ =>
    match desc.findBulk .in with
    | none => .error (.text (.usb .unsupported) "no in endpoint")
    | some inEp =>
      match desc.findBulk .out with
      | none => .error (.text (.usb .unsupported) "no out endpoint")
      | some outEp =>
        if inEp.maxPacketSize ≠ outEp.maxPacketSize then
          .error (.text (.usb .other) "in packet size != out packet size")
        else if inEp.maxPacketSize < AdbMessageHeader.LENGTH then
          .error (.text (.usb .unsupported) "packet_size < header len")
        else
          match answers.endpoint inEp.address, answers.endpoint outEp.address with
          | .ok (), .ok () => .ok (UsbConnection.new inEp.maxPacketSize)
          | .error err, _ | .ok (), .error err => .error (.text (.usb .other) err)

/-- `UsbConnection::new`. -/
def newUsbConnection (device : DeviceInfo) (answers : UsbAnswers) : Except Error UsbConnection :=
  match openDevice device answers with
  | .error err => .error err
  | .ok iface =>
    match answers.claimed iface with
    | .error err => .error (.text (.usb .claim) err)
    | .ok descriptors => connectInterface answers descriptors

/-- A header fits in one packet of every connection. -/
theorem newUsbConnection_packetSize {device : DeviceInfo} {answers : UsbAnswers} {c : UsbConnection}
    (h : newUsbConnection device answers = .ok c) :
    c = UsbConnection.new c.packetSize ∧ AdbMessageHeader.LENGTH ≤ c.packetSize := by
  unfold newUsbConnection at h
  split at h
  · cases h
  · split at h
    · cases h
    · unfold connectInterface at h
      split at h
      · cases h
      · split at h
        · cases h
        · split at h
          · cases h
          · split_ifs at h with hsize hlen
            split at h
            · cases h
              exact ⟨rfl, Nat.le_of_not_lt hlen⟩
            all_goals cases h

/-! ## The machine -/

/-- The section `usb` of the configuration. -/
structure UsbConfig where
  enabled : Option Bool
  includes : List String
  excludes : List String

namespace UsbConfig

/-- `UsbConfig::enabled`, true by default. -/
def isEnabled (config : UsbConfig) : Bool := config.enabled.getD true

/-- `UsbConfig::is_whitelisted`: no list of includes admits every serial, and an exclude always
counts. -/
def isWhitelisted (config : UsbConfig) (serial : String) : Bool :=
  (config.includes.isEmpty || config.includes.contains serial) && !config.excludes.contains serial

end UsbConfig

/-- Where the loop of `ConnectionMgr::run` stands. -/
inductive LoopStage where
  /-- At `list_devices`. -/
  | refresh
  | devices (rest : List DeviceInfo)
  /-- At `UsbConnection::new`. -/
  | opening (device : DeviceInfo) (serial : String) (rest : List DeviceInfo)
  | remove
  | sleep

/-- The loop of the manager, the handshakes and transports it has started, and what is plugged
in. -/
structure UsbMgr where
  mgr : ConnectionMgr
  stage : LoopStage
  /-- The devices that are plugged in. -/
  plugged : List DeviceInfo
  nextDevice : Nat
  /-- The devices whose interface is claimed, by the id of the connection. -/
  claims : Table Nat DeviceInfo
  /-- The transports, by the id of the connection, with their banners. -/
  transports : Table Nat Banner

/-- The steps of the loop and of the tasks, and what happens at the ports. -/
inductive UsbAct where
  | plug (serialNumber : Option String) (interfaces : List InterfaceInfo)
  | unplug (id : Nat)
  /-- `list_devices`, which may fail. -/
  | list (ok : Bool)
  | next
  | open (answers : UsbAnswers)
  | remove
  /-- A device came or went, or five seconds have passed. -/
  | wake
  /-- The handshake at `i` ends. -/
  | authenticate (i : Nat) (res : HandshakeEnd)
  /-- The call of `new_connection` that follows it. -/
  | create (i : Nat)
  /-- The transport with this id fails, or is closed by `reconnect`. -/
  | fail (id : Nat)

/-- What can be seen of a step: a device that comes, a claim, a connection that is added or fails, a
pass. -/
inductive UsbEvent where
  | internal
  | plugged (device : DeviceInfo)
  | claimed (conn : MaybeConnection) (device : DeviceInfo)
  /-- A connection is added, `late` if its transport has failed or its device is gone. -/
  | added (c : Connection) (late : Bool)
  | closed (id : Nat)
  | passed (removed : List Connection)

namespace UsbMgr

/-- The head of the loop. -/
def round (config : UsbConfig) : LoopStage := if config.isEnabled then .refresh else .remove

/-- The loop before its first round. -/
def new (config : UsbConfig) : UsbMgr where
  mgr := ConnectionMgr.new
  stage := round config
  plugged := []
  nextDevice := 0
  claims := ∅
  transports := ∅

/-- The checks of `refresh_usb` before it opens a device. -/
def visit (config : UsbConfig) (s : UsbMgr) (device : DeviceInfo) (rest : List DeviceInfo) :
    LoopStage :=
  match device.serialNumber with
  | none => .devices rest
  | some serial =>
    if config.isWhitelisted serial = false then .devices rest
    else if (s.mgr.bySerial.lookup serial).isSome then .devices rest
    else .opening device serial rest

/-- A claim is exclusive. -/
def Claimable (s : UsbMgr) (device : DeviceInfo) : Prop :=
  device ∈ s.plugged ∧ device ∉ Table.values s.claims

instance (s : UsbMgr) (device : DeviceInfo) : Decidable (s.Claimable device) :=
  inferInstanceAs (Decidable (_ ∧ _))

/-- The device of the claim is plugged in. -/
def Holds (s : UsbMgr) (id : Nat) : Prop := ∃ d ∈ s.plugged, s.claims.lookup id = some d

instance (s : UsbMgr) (id : Nat) : Decidable (s.Holds id) :=
  inferInstanceAs (Decidable (∃ d ∈ s.plugged, s.claims.lookup id = some d))

/-- One step of the loop, of a handshake, of a transport or of a port. -/
def step (config : UsbConfig) (s : UsbMgr) : UsbAct → Option (UsbMgr × UsbEvent)
  | .plug serialNumber interfaces =>
    let device := ⟨s.nextDevice, serialNumber, interfaces⟩
    some ({ s with plugged := s.plugged ++ [device], nextDevice := s.nextDevice + 1 },
      .plugged device)
  | .unplug id => some ({ s with plugged := s.plugged.filter fun d => d.id ≠ id }, .internal)
  | .list ok =>
    match s.stage with
    | .refresh => some ({ s with stage := if ok then .devices s.plugged else .remove }, .internal)
    | _ => none
  | .next =>
    match s.stage with
    | .devices [] => some ({ s with stage := .remove }, .internal)
    | .devices (device :: rest) => some ({ s with stage := s.visit config device rest }, .internal)
    | _ => none
  | .open answers =>
    match s.stage with
    | .opening device serial rest =>
      match newUsbConnection device answers with
      | .error _ => some ({ s with stage := .devices rest }, .internal)
      | .ok _ =>
        if s.Claimable device then
          let (conn, mgr) := s.mgr.alloc serial
          some ({ s with mgr, stage := .devices rest, claims := s.claims.insert conn.id device },
            .claimed conn device)
        else none
    | _ => none
  | .remove =>
    match s.stage with
    | .remove =>
      let (removed, mgr) := s.mgr.removeClosedConnections
      some ({ s with mgr, stage := .sleep }, .passed removed)
    | _ => none
  | .wake =>
    match s.stage with
    | .sleep => some ({ s with stage := round config }, .internal)
    | _ => none
  -- the handshake has its answer, but `Connection::create` comes with a later step
  | .authenticate i res =>
    match s.mgr.handshakes[i]? with
    | none => none
    | some conn =>
      if (s.transports.lookup conn.id).isSome then none
      else
        match res with
        | .waiting => none
        | .transport _ banner =>
          some ({ s with transports := s.transports.insert conn.id banner }, .internal)
        | .keyRejected | .failed _ =>
          let mgr := { s.mgr with handshakes := s.mgr.handshakes.eraseIdx i }
          some ({ s with mgr, claims := s.claims.erase conn.id }, .internal)
  | .create i =>
    match s.mgr.handshakes[i]? with
    | none => none
    | some conn =>
      match s.transports.lookup conn.id with
      | none => none
      | some banner =>
        let c := conn.create banner
        let mgr := { s.mgr with handshakes := s.mgr.handshakes.eraseIdx i }.newConnection c
        some ({ s with mgr }, .added c !decide (s.Holds conn.id))
  | .fail id =>
    if (s.transports.lookup id).isSome ∧ id ∉ s.mgr.closed then
      let mgr := { s.mgr with closed := id :: s.mgr.closed }
      some ({ s with mgr, claims := s.claims.erase id }, .closed id)
    else none

end UsbMgr

/-- The loop of `ConnectionMgr::run`, interleaved with the tasks it has spawned. -/
def usbMachine (config : UsbConfig) : Machine UsbMgr UsbAct UsbEvent := ⟨UsbMgr.step config⟩

/-! ## What a step can do -/

/-- The steps, with what they do to tables, claims and transports; where the loop stands in its
round is left open. -/
inductive UsbStep (config : UsbConfig) (s : UsbMgr) : UsbMgr → UsbEvent → Prop
  | moved (stage : LoopStage)
      (hopening : ∀ device serial rest, stage = .opening device serial rest →
        device.serialNumber = some serial ∧ config.isWhitelisted serial = true) :
      UsbStep config s { s with stage } .internal
  | plug (serialNumber : Option String) (interfaces : List InterfaceInfo) :
      UsbStep config s
        { s with
          plugged := s.plugged ++ [⟨s.nextDevice, serialNumber, interfaces⟩]
          nextDevice := s.nextDevice + 1 }
        (.plugged ⟨s.nextDevice, serialNumber, interfaces⟩)
  | unplug (id : Nat) :
      UsbStep config s { s with plugged := s.plugged.filter fun d => d.id ≠ id } .internal
  | claim {device : DeviceInfo} {serial : String} {rest : List DeviceInfo}
      (hstage : s.stage = .opening device serial rest) (hclaim : s.Claimable device) :
      UsbStep config s
        { s with
          mgr := (s.mgr.alloc serial).2
          stage := .devices rest
          claims := s.claims.insert s.mgr.nextId device }
        (.claimed ⟨s.mgr.nextId, serial⟩ device)
  | transport {i : Nat} {conn : MaybeConnection} (hconn : s.mgr.handshakes[i]? = some conn)
      (banner : Banner) :
      UsbStep config s { s with transports := s.transports.insert conn.id banner } .internal
  | rejected {i : Nat} {conn : MaybeConnection} (hconn : s.mgr.handshakes[i]? = some conn) :
      UsbStep config s
        { s with
          mgr := { s.mgr with handshakes := s.mgr.handshakes.eraseIdx i }
          claims := s.claims.erase conn.id }
        .internal
  | create {i : Nat} {conn : MaybeConnection} (hconn : s.mgr.handshakes[i]? = some conn)
      (banner : Banner) :
      UsbStep config s
        { s with
          mgr := { s.mgr with
            handshakes := s.mgr.handshakes.eraseIdx i }.newConnection (conn.create banner) }
        (.added (conn.create banner) !decide (s.Holds conn.id))
  | fail {id : Nat} (htransport : (s.transports.lookup id).isSome) :
      UsbStep config s
        { s with
          mgr := { s.mgr with closed := id :: s.mgr.closed }
          claims := s.claims.erase id }
        (.closed id)
  | pass :
      UsbStep config s { s with mgr := s.mgr.removeClosedConnections.2, stage := .sleep }
        (.passed s.mgr.closedConnections)

section
variable {config : UsbConfig} {s s' : UsbMgr} {e : UsbEvent}

/-- A round ends at the list of devices, not at one of them. -/
theorem round_ne_opening {device : DeviceInfo} {serial : String} {rest : List DeviceInfo}
    (h : UsbMgr.round config = .opening device serial rest) : False := by
  unfold UsbMgr.round at h
  split at h <;> cases h

/-- A device that is opened has a serial, which the configuration admits. -/
theorem visit_opening {device device' : DeviceInfo} {serial : String} {rest rest' : List DeviceInfo}
    (h : s.visit config device rest = .opening device' serial rest') :
    device'.serialNumber = some serial ∧ config.isWhitelisted serial = true := by
  unfold UsbMgr.visit at h
  split at h
  · cases h
  · rename_i serial' hserial
    split_ifs at h with hlisted hknown
    cases h
    exact ⟨hserial, by simpa using hlisted⟩

/-- Every step of the machine is one of `UsbStep`, which forgets where the loop was and keeps what
the invariants need. -/
theorem usbStep_of_step {a : UsbAct} (h : (usbMachine config).step s a = some (s', e)) :
    UsbStep config s s' e := by
  cases a with
  | plug serialNumber interfaces =>
    cases h
    exact .plug serialNumber interfaces
  | unplug id =>
    cases h
    exact .unplug id
  | list ok =>
    simp only [usbMachine, UsbMgr.step] at h
    split at h
    · cases h
      refine .moved _ fun device serial rest hstage => ?_
      split at hstage <;> cases hstage
    · cases h
  | next =>
    simp only [usbMachine, UsbMgr.step] at h
    split at h
    · cases h
      exact .moved _ fun _ _ _ hstage => by cases hstage
    · cases h
      exact .moved _ fun _ _ _ hstage => visit_opening hstage
    · cases h
  | «open» answers =>
    simp only [usbMachine, UsbMgr.step] at h
    split at h
    · rename_i device serial rest hstage
      split at h
      · cases h
        exact .moved _ fun _ _ _ hstage => by cases hstage
      · split_ifs at h with hclaim
        cases h
        exact .claim hstage hclaim
    · cases h
  | remove =>
    simp only [usbMachine, UsbMgr.step] at h
    split at h
    · cases h
      exact .pass
    · cases h
  | wake =>
    simp only [usbMachine, UsbMgr.step] at h
    split at h
    · cases h
      exact .moved _ fun _ _ _ hstage => (round_ne_opening hstage).elim
    · cases h
  | authenticate i res =>
    simp only [usbMachine, UsbMgr.step] at h
    split at h
    · cases h
    · rename_i conn hconn
      split_ifs at h with htransport
      split at h
      · cases h
      · cases h
        exact .transport hconn _
      all_goals
        cases h
        exact .rejected hconn
  | create i =>
    simp only [usbMachine, UsbMgr.step] at h
    split at h
    · cases h
    · rename_i conn hconn
      split at h
      · cases h
      · cases h
        exact .create hconn _
  | fail id =>
    simp only [usbMachine, UsbMgr.step] at h
    split_ifs at h with htransport
    cases h
    exact .fail htransport.1

end

/-! ## Claims -/

/-- No two devices that are plugged in have one serial. -/
def SerialsUnique (s : UsbMgr) (_ : UsbAct) : UsbEvent → Prop
  | .plugged d => ∀ d' ∈ s.plugged, d.serialNumber ≠ none → d'.serialNumber ≠ d.serialNumber
  | _ => True

instance (s : UsbMgr) (a : UsbAct) : DecidablePred (SerialsUnique s a)
  | .plugged d => inferInstanceAs
      (Decidable (∀ d' ∈ s.plugged, d.serialNumber ≠ none → d'.serialNumber ≠ d.serialNumber))
  | .internal | .claimed _ _ | .added _ _ | .closed _ | .passed _ => .isTrue trivial

/-- What every run keeps about the claims. -/
structure ClaimLaw (config : UsbConfig) (tr : List UsbEvent) (s : UsbMgr) : Prop where
  opening : ∀ device serial rest, s.stage = .opening device serial rest →
    device.serialNumber = some serial ∧ config.isWhitelisted serial = true
  plugged_lt : ∀ d ∈ s.plugged, d.id < s.nextDevice
  plugged_serial : ∀ d ∈ s.plugged, ∀ d' ∈ s.plugged, d.serialNumber ≠ none →
    d.serialNumber = d'.serialNumber → d = d'
  claim_lt : ∀ i d, s.claims.lookup i = some d → i < s.mgr.nextId ∧ d.id < s.nextDevice
  /-- A device is claimed once. -/
  claim_unique : ∀ i j d, s.claims.lookup i = some d → s.claims.lookup j = some d → i = j
  handshake : ∀ conn ∈ s.mgr.handshakes, conn.id < s.mgr.nextId ∧
    config.isWhitelisted conn.serial = true ∧
    ∀ d, s.claims.lookup conn.id = some d → d.serialNumber = some conn.serial
  handshakes_nodup : (s.mgr.handshakes.map MaybeConnection.id).Nodup
  added : ∀ c late, .added c late ∈ tr → c.id < s.mgr.nextId ∧
    config.isWhitelisted c.serial = true ∧
    (∀ d, s.claims.lookup c.id = some d → d.serialNumber = some c.serial) ∧
    ∀ conn ∈ s.mgr.handshakes, conn.id ≠ c.id
  transport_lt : ∀ i, (s.transports.lookup i).isSome → i < s.mgr.nextId
  closed_lt : ∀ i ∈ s.mgr.closed, i < s.mgr.nextId
  closed : ∀ i ∈ s.mgr.closed, s.claims.lookup i = none

namespace ClaimLaw
variable {config : UsbConfig} {tr : List UsbEvent} {s s' : UsbMgr} {e : UsbEvent} {a : UsbAct}

theorem init (config : UsbConfig) : ClaimLaw config [] (UsbMgr.new config) where
  opening _ _ _ h := (round_ne_opening h).elim
  plugged_lt := by simp [UsbMgr.new]
  plugged_serial := by simp [UsbMgr.new]
  claim_lt := by simp [UsbMgr.new]
  claim_unique := by simp [UsbMgr.new]
  handshake := by simp [UsbMgr.new, ConnectionMgr.new]
  handshakes_nodup := by simp [UsbMgr.new, ConnectionMgr.new]
  added := by simp
  transport_lt := by simp [UsbMgr.new]
  closed_lt := by simp [UsbMgr.new, ConnectionMgr.new]
  closed := by simp [UsbMgr.new, ConnectionMgr.new]

/-- Another handshake has another id. -/
theorem other_id (h : ClaimLaw config tr s) {i : Nat} {conn other : MaybeConnection}
    (hconn : s.mgr.handshakes[i]? = some conn) (hother : other ∈ s.mgr.handshakes.eraseIdx i) :
    conn.id ≠ other.id := by
  obtain ⟨j, hj, hother⟩ := List.mem_eraseIdx_iff_getElem?.mp hother
  intro hid
  have hlt : i < (s.mgr.handshakes.map MaybeConnection.id).length := by
    rw [List.length_map]
    exact (List.getElem?_eq_some_iff.mp hconn).1
  refine hj ((List.getElem?_inj hlt h.handshakes_nodup).mp ?_).symm
  rw [List.getElem?_map, List.getElem?_map, hconn, hother, Option.map_some, Option.map_some, hid]

/-- An event other than `added`. -/
theorem snoc (h : ClaimLaw config tr s) (hne : ∀ c late, e ≠ .added c late) :
    ClaimLaw config (tr ++ [e]) s := by
  refine { h with added := fun c late hmem => ?_ }
  obtain hmem | hmem := List.mem_append.mp hmem
  · exact h.added c late hmem
  · exact absurd (List.mem_singleton.mp hmem).symm (hne c late)

/-- A claim is given up. -/
theorem release (h : ClaimLaw config tr s) (id : Nat) :
    ClaimLaw config tr { s with claims := s.claims.erase id } := by
  have herase : ∀ {j d}, (s.claims.erase id).lookup j = some d → s.claims.lookup j = some d :=
    fun hj => (Table.lookup_erase_eq_some.mp hj).2
  refine { h with
    claim_lt := fun j d hj => h.claim_lt j d (herase hj)
    claim_unique := fun j k d hj hk => h.claim_unique j k d (herase hj) (herase hk)
    handshake := fun conn hconn => ?_
    added := fun c late hc => ?_
    closed := fun j hj => ?_ }
  · obtain ⟨hlt, hlisted, hclaims⟩ := h.handshake conn hconn
    exact ⟨hlt, hlisted, fun d hd => hclaims d (herase hd)⟩
  · obtain ⟨hlt, hlisted, hclaims, hne⟩ := h.added c late hc
    exact ⟨hlt, hlisted, fun d hd => hclaims d (herase hd), hne⟩
  · refine Option.eq_none_iff_forall_ne_some.mpr fun d hd => ?_
    have hnone := h.closed j hj
    rw [herase hd] at hnone
    cases hnone

/-- A device that is plugged in has no claim on it, and a serial of its own. -/
theorem plug (h : ClaimLaw config tr s) (serialNumber : Option String)
    (interfaces : List InterfaceInfo)
    (hunique : ∀ d ∈ s.plugged, serialNumber ≠ none → d.serialNumber ≠ serialNumber) :
    ClaimLaw config tr
      { s with
        plugged := s.plugged ++ [⟨s.nextDevice, serialNumber, interfaces⟩]
        nextDevice := s.nextDevice + 1 } := by
  refine { h with
    plugged_lt := fun d hd => ?_
    plugged_serial := fun d hd d' hd' hsome hserial => ?_
    claim_lt := fun i d hi => ⟨(h.claim_lt i d hi).1, Nat.lt_succ_of_lt (h.claim_lt i d hi).2⟩ }
  · obtain hd | hd := List.mem_append.mp hd
    · exact Nat.lt_succ_of_lt (h.plugged_lt d hd)
    · rw [List.mem_singleton.mp hd]
      exact Nat.lt_succ_self _
  · obtain hd | hd := List.mem_append.mp hd <;> obtain hd' | hd' := List.mem_append.mp hd'
    · exact h.plugged_serial d hd d' hd' hsome hserial
    · obtain rfl := List.mem_singleton.mp hd'
      exact absurd hserial (hunique d hd fun hnone => hsome (hserial.trans hnone))
    · obtain rfl := List.mem_singleton.mp hd
      exact absurd hserial.symm (hunique d' hd' hsome)
    · rw [List.mem_singleton.mp hd, List.mem_singleton.mp hd']

/-- The connection that is allocated for a claimed device is new, and has its serial. -/
theorem claim (h : ClaimLaw config tr s) {device : DeviceInfo} {serial : String}
    {rest : List DeviceInfo} (hstage : s.stage = .opening device serial rest)
    (hclaim : s.Claimable device) :
    ClaimLaw config tr
      { s with
        mgr := (s.mgr.alloc serial).2
        stage := .devices rest
        claims := s.claims.insert s.mgr.nextId device } := by
  obtain ⟨hserial, hlisted⟩ := h.opening device serial rest hstage
  have hother : ∀ {i d}, i < s.mgr.nextId →
      (s.claims.insert s.mgr.nextId device).lookup i = some d → s.claims.lookup i = some d := by
    intro i d hlt hi
    rwa [AList.lookup_insert_ne (Nat.ne_of_lt hlt)] at hi
  constructor
  case opening => simp
  case plugged_lt => exact h.plugged_lt
  case plugged_serial => exact h.plugged_serial
  case claim_lt =>
    intro i d hi
    obtain ⟨rfl, rfl⟩ | ⟨-, hi⟩ := Table.lookup_insert_eq_some.mp hi
    · exact ⟨Nat.lt_succ_self _, h.plugged_lt _ hclaim.1⟩
    · exact ⟨Nat.lt_succ_of_lt (h.claim_lt i d hi).1, (h.claim_lt i d hi).2⟩
  case claim_unique =>
    -- the new claim is of a device that had none
    intro i j d hi hj
    obtain ⟨rfl, rfl⟩ | ⟨-, hi⟩ := Table.lookup_insert_eq_some.mp hi <;>
      obtain ⟨rfl, hd⟩ | ⟨-, hj⟩ := Table.lookup_insert_eq_some.mp hj
    · rfl
    · exact absurd (Table.mem_values.mpr ⟨j, hj⟩) hclaim.2
    · exact absurd (Table.mem_values.mpr ⟨i, hd ▸ hi⟩) hclaim.2
    · exact h.claim_unique i j d hi hj
  case handshake =>
    intro conn hconn
    obtain hconn | hconn := List.mem_append.mp hconn
    · obtain ⟨hlt, hlisted, hclaims⟩ := h.handshake conn hconn
      exact ⟨Nat.lt_succ_of_lt hlt, hlisted, fun d hd => hclaims d (hother hlt hd)⟩
    · obtain rfl := List.mem_singleton.mp hconn
      refine ⟨Nat.lt_succ_self _, hlisted, fun d hd => ?_⟩
      obtain rfl : device = d := by simpa [AList.lookup_insert] using hd
      exact hserial
  case handshakes_nodup =>
    show ((s.mgr.handshakes ++ [_]).map MaybeConnection.id).Nodup
    rw [List.map_append, List.nodup_append]
    refine ⟨h.handshakes_nodup, by simp, fun i hi j hj => ?_⟩
    obtain ⟨conn, hconn, rfl⟩ := List.mem_map.mp hi
    obtain rfl : j = s.mgr.nextId := by simpa using hj
    exact Nat.ne_of_lt (h.handshake conn hconn).1
  case added =>
    intro c late hc
    obtain ⟨hlt, hlisted, hclaims, hne⟩ := h.added c late hc
    refine ⟨Nat.lt_succ_of_lt hlt, hlisted, fun d hd => hclaims d (hother hlt hd), ?_⟩
    intro conn hconn
    obtain hconn | hconn := List.mem_append.mp hconn
    · exact hne conn hconn
    · rw [List.mem_singleton.mp hconn]
      exact (Nat.ne_of_lt hlt).symm
  case transport_lt => exact fun i hi => Nat.lt_succ_of_lt (h.transport_lt i hi)
  case closed_lt => exact fun i hi => Nat.lt_succ_of_lt (h.closed_lt i hi)
  case closed =>
    intro i hi
    show (s.claims.insert s.mgr.nextId device).lookup i = none
    rw [AList.lookup_insert_ne (Nat.ne_of_lt (h.closed_lt i hi))]
    exact h.closed i hi

/-- A connection that has its claim is open. -/
theorem isClosed_of_holds (h : ClaimLaw config tr s) {c : Connection} (hc : s.Holds c.id) :
    s.mgr.isClosed c = false := by
  obtain ⟨d, -, hclaim⟩ := hc
  refine decide_eq_false fun hclosed => ?_
  have hnone := h.closed c.id hclosed
  rw [hclaim] at hnone
  cases hnone

/-- Of two connections under one serial one has its device. -/
theorem not_holds (h : ClaimLaw config tr s) {i : Nat} {conn : MaybeConnection} {c : Connection}
    {late : Bool} (hconn : s.mgr.handshakes[i]? = some conn) (hadded : .added c late ∈ tr)
    (hc : s.Holds c.id) (hserial : c.serial = conn.serial) : ¬ s.Holds conn.id := by
  rintro ⟨d, hd, hclaim⟩
  obtain ⟨d', hd', hclaim'⟩ := hc
  have hmem := List.mem_of_getElem? hconn
  have hsome := (h.handshake conn hmem).2.2 d hclaim
  have hsome' := (h.added c late hadded).2.2.1 d' hclaim'
  have heq : d = d' :=
    h.plugged_serial d hd d' hd' (by simp [hsome]) (by rw [hsome, hsome', hserial])
  exact (h.added c late hadded).2.2.2 conn hmem (h.claim_unique _ _ d hclaim (heq ▸ hclaim'))

/-- A handshake that is over leaves the claims to the connection or to nobody. -/
theorem handshakeEnded (h : ClaimLaw config tr s) (i : Nat) :
    ClaimLaw config tr
      { s with mgr := { s.mgr with handshakes := s.mgr.handshakes.eraseIdx i } } where
  __ := h
  handshake conn hconn := h.handshake conn (List.mem_of_mem_eraseIdx hconn)
  handshakes_nodup := ((List.eraseIdx_sublist _ _).map _).nodup h.handshakes_nodup
  added c late hc :=
    have ⟨hlt, hlisted, hclaims, hne⟩ := h.added c late hc
    ⟨hlt, hlisted, hclaims, fun conn hconn => hne conn (List.mem_of_mem_eraseIdx hconn)⟩

/-- Every step keeps the law of the claims, if serials stay unique. -/
theorem step (h : ClaimLaw config tr s) (hs : UsbStep config s s' e)
    (hunique : SerialsUnique s a e) : ClaimLaw config (tr ++ [e]) s' := by
  cases hs with
  | moved stage hopening =>
    refine ClaimLaw.snoc ?_ (by simp)
    exact { h with opening := hopening }
  | plug serialNumber interfaces => exact (h.plug serialNumber interfaces hunique).snoc (by simp)
  | unplug id =>
    refine ClaimLaw.snoc ?_ (by simp)
    exact { h with
      plugged_lt := fun d hd => h.plugged_lt d (List.mem_filter.mp hd).1
      plugged_serial := fun d hd d' hd' =>
        h.plugged_serial d (List.mem_filter.mp hd).1 d' (List.mem_filter.mp hd').1 }
  | claim hstage hclaim => exact (h.claim hstage hclaim).snoc (by simp)
  | @transport i conn hconn banner =>
    refine ClaimLaw.snoc ?_ (by simp)
    refine { h with transport_lt := fun j hj => ?_ }
    by_cases hij : j = conn.id
    · rw [hij]
      exact (h.handshake conn (List.mem_of_getElem? hconn)).1
    · rw [AList.lookup_insert_ne hij] at hj
      exact h.transport_lt j hj
  | @rejected i conn hconn => exact ((h.handshakeEnded i).release conn.id).snoc (by simp)
  | @create i conn hconn banner =>
    refine { h.handshakeEnded i with added := fun c late hc => ?_ }
    obtain hc | hc := List.mem_append.mp hc
    · exact (h.handshakeEnded i).added c late hc
    · obtain ⟨rfl, -⟩ : c = conn.create banner ∧ _ := by simpa using hc
      obtain ⟨hlt, hlisted, hclaims⟩ := h.handshake conn (List.mem_of_getElem? hconn)
      exact ⟨hlt, hlisted, hclaims, fun other hother => (h.other_id hconn hother).symm⟩
  | @fail id htransport =>
    refine ClaimLaw.snoc ?_ (by simp)
    refine { h.release id with closed_lt := fun j hj => ?_, closed := fun j hj => ?_ }
    · obtain rfl | hj := List.mem_cons.mp hj
      · exact h.transport_lt j htransport
      · exact h.closed_lt j hj
    · obtain rfl | hj := List.mem_cons.mp hj
      · exact AList.lookup_erase _ _
      · exact (h.release id).closed j hj
  | pass =>
    refine ClaimLaw.snoc ?_ (by simp)
    exact { h with opening := fun _ _ _ hstage => by cases hstage }

end ClaimLaw

/-! ## The connection of a device is found -/

/-- Of a connection whose device is plugged in and claimed by it: it is in `by_serial`, or one that
came late is there instead. -/
structure FoundLaw (tr : List UsbEvent) (s : UsbMgr) : Prop where
  found : ∀ pre c late post, tr = pre ++ .added c late :: post → s.Holds c.id →
    (s.mgr.bySerial.lookup c.serial = some c ∧
      ∀ c' late', .added c' late' ∈ post → c'.serial ≠ c.serial) ∨
    (s.mgr.bySerial.lookup c.serial ≠ some c ∧ ∃ c', .added c' true ∈ post ∧ c'.serial = c.serial)

/-- A cut of a longer trace is at its last event or within the shorter one. -/
theorem snoc_eq_cut {ε : Type} {tr pre post : List ε} {e a : ε}
    (h : tr ++ [e] = pre ++ a :: post) :
    (post = [] ∧ tr = pre ∧ e = a) ∨ ∃ post', post = post' ++ [e] ∧ tr = pre ++ a :: post' := by
  obtain rfl | ⟨post', e', rfl⟩ := List.eq_nil_or_concat post
  · obtain ⟨rfl, he⟩ := List.append_inj' h rfl
    exact .inl ⟨rfl, rfl, List.singleton_inj.mp he⟩
  · rw [List.concat_eq_append, ← List.cons_append, ← List.append_assoc] at h
    obtain ⟨rfl, he⟩ := List.append_inj' h rfl
    obtain rfl : e = e' := List.singleton_inj.mp he
    exact .inr ⟨post', List.concat_eq_append, rfl⟩

namespace FoundLaw
variable {config : UsbConfig} {tr : List UsbEvent} {s s' : UsbMgr} {e : UsbEvent}

theorem init (config : UsbConfig) : FoundLaw [] (UsbMgr.new config) := ⟨by simp⟩

/-- A step that adds no connection and keeps the entries of those that hold their claim. -/
theorem snoc (h : FoundLaw tr s) (hne : ∀ c late, e ≠ .added c late)
    (hholds : ∀ c late, .added c late ∈ tr → s'.Holds c.id → s.Holds c.id)
    (hentry : ∀ c, s'.Holds c.id →
      (s'.mgr.bySerial.lookup c.serial = some c ↔ s.mgr.bySerial.lookup c.serial = some c)) :
    FoundLaw (tr ++ [e]) s' where
  found pre c late post htr hc := by
    obtain ⟨-, -, rfl⟩ | ⟨post', rfl, rfl⟩ := snoc_eq_cut htr
    · exact absurd rfl (hne c late)
    · rw [ne_eq, hentry c hc]
      obtain ⟨hfound, hafter⟩ | ⟨hlost, c', hc', hserial⟩ :=
        h.found pre c late post' rfl (hholds c late (by simp) hc)
      · refine .inl ⟨hfound, fun c' late' hmem => ?_⟩
        obtain hmem | hmem := List.mem_append.mp hmem
        · exact hafter c' late' hmem
        · exact absurd (List.mem_singleton.mp hmem).symm (hne c' late')
      · exact .inr ⟨hlost, c', List.mem_append_left _ hc', hserial⟩

/-- A claim is one that the connection had before. -/
theorem holds_of_claims {id : Nat} (hclaims : ∀ d, s'.claims.lookup id = some d →
      s.claims.lookup id = some d) (hplugged : ∀ d ∈ s'.plugged, s.claims.lookup id = some d →
      d ∈ s.plugged) (h : s'.Holds id) : s.Holds id := by
  obtain ⟨d, hd, hclaim⟩ := h
  exact ⟨d, hplugged d hd (hclaims d hclaim), hclaims d hclaim⟩

/-- Every step keeps what is said about `get`. -/
theorem step (hlaw : ClaimLaw config tr s) (h : FoundLaw tr s) (hs : UsbStep config s s' e) :
    FoundLaw (tr ++ [e]) s' := by
  cases hs with
  | moved stage hopening => exact h.snoc (by simp) (fun _ _ _ hc => hc) fun _ _ => .rfl
  | plug serialNumber interfaces =>
    refine h.snoc (by simp) (fun c late hmem => holds_of_claims (fun d hd => hd) ?_) fun _ _ => .rfl
    -- the new device has no claim
    intro d hd hclaim
    obtain hd | hd := List.mem_append.mp hd
    · exact hd
    · rw [List.mem_singleton.mp hd] at hclaim
      exact absurd (hlaw.claim_lt _ _ hclaim).2 (Nat.lt_irrefl _)
  | unplug id =>
    exact h.snoc (by simp) (fun c late hmem => holds_of_claims (fun d hd => hd)
      fun d hd _ => (List.mem_filter.mp hd).1) fun _ _ => .rfl
  | claim hstage hclaim =>
    refine h.snoc (by simp) (fun c late hmem => holds_of_claims ?_ fun d hd _ => hd) fun _ _ => .rfl
    intro d hd
    rwa [AList.lookup_insert_ne (Nat.ne_of_lt (hlaw.added c late hmem).1)] at hd
  | transport hconn banner => exact h.snoc (by simp) (fun _ _ _ hc => hc) fun _ _ => .rfl
  | rejected hconn =>
    exact h.snoc (by simp) (fun c late hmem => holds_of_claims
      (fun d hd => (Table.lookup_erase_eq_some.mp hd).2) fun d hd _ => hd) fun _ _ => .rfl
  -- the connection is added, and may displace an older one of the same serial
  | @create i conn hconn banner =>
    refine ⟨fun pre c late post htr hc => ?_⟩
    have hentry : ∀ k w,
        (s.mgr.bySerial.insert conn.serial (conn.create banner)).lookup k = some w ↔
          (k = conn.serial ∧ w = conn.create banner) ∨
            (k ≠ conn.serial ∧ s.mgr.bySerial.lookup k = some w) :=
      fun k w => Table.lookup_insert_eq_some
    obtain ⟨rfl, rfl, hadded⟩ | ⟨post', rfl, rfl⟩ := snoc_eq_cut htr
    · cases hadded
      exact .inl ⟨(hentry _ _).mpr (.inl ⟨rfl, rfl⟩), by simp⟩
    · have hold : .added c late ∈ pre ++ .added c late :: post' := by simp
      have hne := (hlaw.added c late hold).2.2.2 conn (List.mem_of_getElem? hconn)
      by_cases hserial : c.serial = conn.serial
      · have hlate : ¬ s.Holds conn.id := hlaw.not_holds hconn hold hc hserial
        refine .inr ⟨fun hfound => ?_, conn.create banner, by simp [hlate], hserial.symm⟩
        obtain ⟨-, rfl⟩ | ⟨hother, -⟩ := (hentry _ _).mp hfound
        · exact hne rfl
        · exact hother hserial
      · have hkeep : (s.mgr.bySerial.insert conn.serial (conn.create banner)).lookup c.serial =
            some c ↔ s.mgr.bySerial.lookup c.serial = some c := by
          rw [hentry]
          simp [hserial]
        obtain ⟨hfound, hafter⟩ | ⟨hlost, c', hc', hserial'⟩ := h.found pre c late post' rfl hc
        · refine .inl ⟨hkeep.mpr hfound, fun c' late' hmem => ?_⟩
          obtain hmem | hmem := List.mem_append.mp hmem
          · exact hafter c' late' hmem
          · obtain ⟨rfl, -⟩ : c' = conn.create banner ∧ _ := by simpa using hmem
            exact fun heq => hserial heq.symm
        · refine .inr ⟨fun hfound => hlost (hkeep.mp hfound), c', ?_, hserial'⟩
          exact List.mem_append_left _ hc'
  | fail htransport =>
    exact h.snoc (by simp) (fun c late hmem => holds_of_claims
      (fun d hd => (Table.lookup_erase_eq_some.mp hd).2) fun d hd _ => hd) fun _ _ => .rfl
  | pass =>
    refine h.snoc (by simp) (fun _ _ _ hc => hc) fun c hc => ?_
    have hopen : s.mgr.isClosed c = false := hlaw.isClosed_of_holds hc
    show (Table.retain s.mgr.bySerial fun _ c => !s.mgr.isClosed c).lookup c.serial = some c ↔ _
    simp [Table.lookup_retain_eq_some, hopen]

end FoundLaw

/-- **When a device is found.** In every run of the loop, the handshakes and the transports in which
devices plugged in at one time have different serials: a connection that holds the claim of a device
which is plugged in is the one that `get` finds, unless a connection of the same serial was added
after it whose transport had failed, or whose device was gone, before it was added. -/
theorem get_iff (config : UsbConfig) (tr : List UsbEvent) (s : UsbMgr)
    (hrun : ((usbMachine config).restrict SerialsUnique).Run (UsbMgr.new config) tr s)
    (pre post : List UsbEvent) (c : Connection) (late : Bool)
    (htr : tr = pre ++ .added c late :: post) (hc : s.Holds c.id) :
    s.mgr.get c.serial = some c ↔ ∀ c', .added c' true ∈ post → c'.serial ≠ c.serial := by
  obtain ⟨hlaw, hfound⟩ := hrun.invariant (fun tr s => ClaimLaw config tr s ∧ FoundLaw tr s)
    ⟨.init config, .init config⟩ fun tr s a s' e _ h hs => by
      obtain ⟨hs, hunique⟩ := Machine.restrict_step.mp hs
      have hstep := usbStep_of_step hs
      exact ⟨h.1.step hstep hunique, h.2.step h.1 hstep⟩
  have hopen := hlaw.isClosed_of_holds hc
  have hget : s.mgr.get c.serial = some c ↔ s.mgr.bySerial.lookup c.serial = some c := by
    simp [ConnectionMgr.get, Option.filter_eq_some_iff, ConnectionMgr.connectionFilter, hopen]
  rw [hget]
  obtain ⟨hentry, hafter⟩ | ⟨hlost, c', hc', hserial⟩ := hfound.found pre c late post htr hc
  · exact ⟨fun _ c' hmem => hafter c' true hmem, fun _ => hentry⟩
  · exact ⟨fun hentry => absurd hentry hlost, fun hnone => absurd hserial (hnone c' hc')⟩

/-- An interface with endpoints of 64 bytes, open to everybody. -/
def answersOf64 : UsbAnswers where
  opened := .ok ()
  claimed _ := .ok [⟨[⟨0x81, .bulk, .in, 64⟩, ⟨1, .bulk, .out, 64⟩]⟩]
  endpoint _ := .ok ()

/-- A device is plugged in again before the task of its first handshake has added the connection; it
does so after the second one. -/
theorem get_iff_replugged :
    ∃ s : UsbMgr, s.Holds 2 ∧ s.mgr.get "usb" ≠ some (usbConnection 2) := by
  let adb : List InterfaceInfo := [⟨0, ADB_CLASS, ADB_SUBCLASS, ADB_PROTOCOL⟩]
  let transport : HandshakeEnd :=
    .transport (TransportBackend.new (UsbConnection.new 64)) ⟨.device, ∅, []⟩
  let events : List UsbEvent :=
    [.plugged ⟨0, some "usb", adb⟩, .internal, .internal, .claimed ⟨1, "usb"⟩ ⟨0, some "usb", adb⟩,
      .internal, .internal, .passed [], .internal, .plugged ⟨1, some "usb", adb⟩, .internal,
      .internal, .internal, .claimed ⟨2, "usb"⟩ ⟨1, some "usb", adb⟩, .internal]
  obtain ⟨s, hexec, hholds⟩ : ∃ s, ((usbMachine ⟨none, [], []⟩).restrict SerialsUnique).exec
      (UsbMgr.new ⟨none, [], []⟩)
      [.plug (some "usb") adb, .list true, .next, .open answersOf64, .authenticate 0 transport,
        .next, .remove, .unplug 0, .plug (some "usb") adb, .wake, .list true, .next, .open answersOf64,
        .authenticate 1 transport, .create 1, .create 0] =
      some (s, events ++ [.added (usbConnection 2) false, .added (usbConnection 1) true]) ∧
      s.Holds 2 := ⟨_, rfl, by decide⟩
  refine ⟨s, hholds, fun hget => ?_⟩
  have hiff := get_iff _ _ s (Machine.run_of_exec _ hexec) events [.added (usbConnection 1) true]
    (usbConnection 2) false rfl hholds
  exact hiff.mp hget (usbConnection 1) (List.mem_singleton_self _) rfl

end AdbDaemon.Connections
