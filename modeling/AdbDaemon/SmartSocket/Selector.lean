import AdbDaemon.Connections.Tasks
import AdbDaemon.SmartSocket.Devices
import AdbDaemon.SmartSocket.Protocol

/-!
# Device selectors in a request

Reference: `consume_device_selector` of `src/smart_socket/devices.rs`.

A client names its device in one of three ways: in front of the service, or in a request of its own,
of an old or a new form.  The first is taken apart at its first colon, the others are not taken apart
at all, and so the three agree exactly on the serials without a colon (`selector_forms_agree_iff`).
-/

namespace AdbDaemon.SmartSocket

open Common Connections

/-- Why no service is left after the selector. -/
inductive SelectError where
  | pick (err : PickDeviceError)
  /-- The request after the selector could not be read. -/
  | readService (err : ReadError)
  | malformedService
deriving DecidableEq

/-- What the client is sent while its device is selected. -/
inductive Reply where
  | okay
  | id (id : Nat)
deriving DecidableEq

/-- `consume_device_selector`: the service, the selector that the socket is left with, and what was
sent.  `next` is what the next read from the client gives, if there is one. -/
def consumeDeviceSelector (mgr : ConnectionMgr) (device : DeviceSelector) (service : String)
    (next : Except ReadError String) :
    Except SelectError (String × DeviceSelector × List Reply) :=
  let (service, legacy) :=
    -- the legacy form is rewritten into the other one
    match stripPrefix "host:transport:" service with
    | some serial => ("host:tport:serial:" ++ serial, true)
    | none => (service, false)
  match stripPrefix "host:tport:" service with
  | some s =>
    let device :=
      match stripPrefix "serial:" s with
      | some s => .serial s
      | none => .any
    match pickConnection mgr device with
    | .error err => .error (.pick err)
    | .ok conn =>
      match next with
      | .error err => .error (.readService err)
      | .ok service =>
        .ok (service, .connection conn, if legacy then [.okay] else [.okay, .id conn.id])
  | none =>
    match stripPrefix "host-serial:" service with
    | some s =>
      -- `split_once`: the serial ends at the first colon
      match splitOnce ':' s with
      | none => .error .malformedService
      | some (serial, service) => .ok ("host:" ++ service, .serial serial, [])
    | none =>
      match stripPrefix "host:" service with
      | some _ => .ok (service, .any, [])
      | none => .ok (service, device, [])

/-- The service of a new client, and the connection it is dispatched on. -/
def selectService (mgr : ConnectionMgr) (service : String) (next : Except ReadError String) :
    Except SelectError (String × Connection) :=
  match consumeDeviceSelector mgr .none service next with
  | .error err => .error err
  | .ok (service, device, _) =>
    match pickConnection mgr device with
    | .error err => .error (.pick err)
    | .ok conn => .ok (service, conn)

/-! ## The three forms -/

/-- What a request for the service `host:v` of the device with the serial `serial` comes to. -/
def resolve (mgr : ConnectionMgr) (serial v : String) : Except SelectError (String × Connection) :=
  match pickSerial serial (mgr.get serial) with
  | .error err => .error (.pick err)
  | .ok conn => .ok ("host:" ++ v, conn)

/-- What is left of a `tport` request that names a serial. -/
theorem stripPrefix_tport (serial : String) :
    stripPrefix "host:tport:" ("host:tport:serial:" ++ serial) = some ("serial:" ++ serial) := by
  rw [stripPrefix_eq_some, ← String.append_assoc]
  rfl

section
variable (mgr : ConnectionMgr) (serial v : String)

/-- A `tport` request is resolved by the whole serial. -/
theorem selectService_tport :
    selectService mgr ("host:tport:serial:" ++ serial) (.ok ("host:" ++ v)) =
      resolve mgr serial v := by
  have hlegacy : stripPrefix "host:transport:" ("host:tport:serial:" ++ serial) = none :=
    stripPrefix_append_of_not (by decide) (by decide)
  have hserial : stripPrefix "serial:" ("serial:" ++ serial) = some serial := stripPrefix_append _ _
  unfold selectService consumeDeviceSelector
  simp only [hlegacy, stripPrefix_tport, hserial, pickConnection, resolve]
  cases pickSerial serial (mgr.get serial) <;> rfl

/-- A `transport` request is a `tport` request by another name. -/
theorem selectService_transport :
    selectService mgr ("host:transport:" ++ serial) (.ok ("host:" ++ v)) =
      resolve mgr serial v := by
  have hlegacy : stripPrefix "host:transport:" ("host:transport:" ++ serial) = some serial :=
    stripPrefix_append _ _
  have hserial : stripPrefix "serial:" ("serial:" ++ serial) = some serial := stripPrefix_append _ _
  unfold selectService consumeDeviceSelector
  simp only [hlegacy, stripPrefix_tport, hserial, pickConnection, resolve]
  cases pickSerial serial (mgr.get serial) <;> rfl

/-- The form that carries the service is split at the first colon after its head. -/
theorem selectService_hostSerial {serial : String} (hserial : ':' ∉ serial.toList)
    (next : Except ReadError String) :
    selectService mgr ("host-serial:" ++ (serial ++ ":" ++ v)) next = resolve mgr serial v := by
  have hlegacy : stripPrefix "host:transport:" ("host-serial:" ++ (serial ++ ":" ++ v)) = none :=
    stripPrefix_append_of_not (by decide) (by decide)
  have htport : stripPrefix "host:tport:" ("host-serial:" ++ (serial ++ ":" ++ v)) = none :=
    stripPrefix_append_of_not (by decide) (by decide)
  have hhost : stripPrefix "host-serial:" ("host-serial:" ++ (serial ++ ":" ++ v)) =
      some (serial ++ ":" ++ v) := stripPrefix_append _ _
  have hsplit : splitOnce ':' (serial ++ ":" ++ v) = some (serial, v) := splitOnce_append hserial
  unfold selectService consumeDeviceSelector
  simp only [hlegacy, htport, hhost, hsplit, pickConnection, resolve]

end

/-! ## Agreement -/

/-- The three forms lead to one outcome: the service `host:v` on the open connection whose serial is
`serial`, or the error that there is none. -/
def FormsAgree (mgr : ConnectionMgr) (serial v : String) : Prop :=
  ∃ outcome : Except SelectError (String × Connection),
    (∀ next, selectService mgr ("host-serial:" ++ (serial ++ ":" ++ v)) next = outcome) ∧
    selectService mgr ("host:tport:serial:" ++ serial) (.ok ("host:" ++ v)) = outcome ∧
    selectService mgr ("host:transport:" ++ serial) (.ok ("host:" ++ v)) = outcome ∧
    ((∃ conn ∈ mgr.iter, conn.serial = serial ∧ outcome = .ok ("host:" ++ v, conn)) ∨
      (∀ conn ∈ mgr.iter, conn.serial ≠ serial) ∧ outcome = .error (.pick (.notFound serial)))

/-- With every connection under its serial, a request is resolved to the open connection with that
serial. -/
theorem resolve_spec {t : MgrTasks} (hkeyed : t.Keyed) (serial v : String) :
    (∃ conn ∈ t.mgr.iter, conn.serial = serial ∧
      resolve t.mgr serial v = .ok ("host:" ++ v, conn)) ∨
    (∀ conn ∈ t.mgr.iter, conn.serial ≠ serial) ∧
      resolve t.mgr serial v = .error (.pick (.notFound serial)) := by
  cases hget : t.mgr.get serial with
  | some conn =>
    obtain ⟨hlookup, hopen⟩ := Option.filter_eq_some_iff.mp hget
    refine .inl ⟨conn, ?_, hkeyed serial conn hlookup, by rw [resolve, hget]; rfl⟩
    exact List.mem_filter.mpr ⟨Table.mem_values.mpr ⟨serial, hlookup⟩, hopen⟩
  | none =>
    refine .inr ⟨?_, by rw [resolve, hget]; rfl⟩
    rintro conn hmem rfl
    obtain ⟨hvalue, hopen⟩ := List.mem_filter.mp hmem
    obtain ⟨k, hk⟩ := Table.mem_values.mp hvalue
    rw [← hkeyed k conn hk] at hk
    have hsome : t.mgr.get conn.serial = some conn := Option.filter_eq_some_iff.mpr ⟨hk, hopen⟩
    rw [hget] at hsome
    cases hsome

/-- A serial with a colon is cut at it by one form and not by the others: another service is
dispatched, or another serial is not found. -/
theorem not_formsAgree_of_colon {mgr : ConnectionMgr} {serial v : String}
    (h : ':' ∈ serial.toList) : ¬ FormsAgree mgr serial v := by
  obtain ⟨a, b, ha, rfl⟩ := exists_append_of_mem h
  rintro ⟨outcome, hform, htport, -, -⟩
  have hcut := hform (.ok "")
  rw [show a ++ String.singleton ':' ++ b ++ ":" ++ v = a ++ ":" ++ (b ++ ":" ++ v) by
      simp only [String.append_assoc]; rfl,
    selectService_hostSerial mgr (b ++ ":" ++ v) ha] at hcut
  rw [selectService_tport, ← hcut] at htport
  have hlonger : "host:" ++ v ≠ "host:" ++ (b ++ ":" ++ v) := by
    intro heq
    have hlen := congrArg String.length heq
    simp only [String.length_append] at hlen
    have hcolon : ":".length = 1 := rfl
    omega
  have hother : a ++ String.singleton ':' ++ b ≠ a := by
    intro heq
    have hlen := congrArg String.length heq
    simp only [String.length_append, String.length_singleton] at hlen
    omega
  -- whichever of the two serials is connected, the outcomes differ
  simp only [resolve] at htport
  cases hwhole : mgr.get (a ++ String.singleton ':' ++ b) <;> cases hpart : mgr.get a <;>
    simp only [hwhole, hpart, pickSerial, Except.error.injEq, SelectError.pick.injEq,
      PickDeviceError.notFound.injEq, Except.ok.injEq, Prod.mk.injEq, reduceCtorEq] at htport
  · exact hother htport
  · exact hlonger htport.1

/-- In every state of the manager's tables the three forms of a request agree exactly on the serials
without a colon. -/
theorem selector_forms_agree_iff {tr : List (Option DeviceUpdate)} {t : MgrTasks}
    (hrun : tasksMachine.Run MgrTasks.new tr t) (serial v : String) :
    FormsAgree t.mgr serial v ↔ ':' ∉ serial.toList := by
  refine ⟨fun hagree hcolon => not_formsAgree_of_colon hcolon hagree, fun hserial => ?_⟩
  refine ⟨resolve t.mgr serial v, selectService_hostSerial t.mgr v hserial,
    selectService_tport t.mgr serial v, selectService_transport t.mgr serial v, ?_⟩
  exact resolve_spec (MgrTasks.keyed_of_run hrun) serial v

/-- The tasks that bring up the device with the serial `serial`. -/
def connectDevice (serial : String) : List TaskAct :=
  [.alloc serial, .beginCall 0 ⟨.device, ∅, []⟩, .insertBySerial 0, .insertById 0, .sendAdded 0]

/-- A connected device, and a service on it. -/
theorem selector_forms_agree_connected :
    ∃ tr t, tasksMachine.Run MgrTasks.new tr t ∧ (t.mgr.get "usb").isSome = true ∧
      FormsAgree t.mgr "usb" "features" := by
  obtain ⟨t, tr, hrun, htest⟩ := Machine.exists_run_of_exec (M := tasksMachine) (s := MgrTasks.new)
    (connectDevice "usb") (fun t _ => (t.mgr.get "usb").isSome) rfl
  exact ⟨tr, t, hrun, htest, (selector_forms_agree_iff hrun "usb" "features").mpr (by decide)⟩

/-- A connected device with a colon in its serial, reached by two of the three forms. -/
theorem selector_forms_disagree :
    ¬ ∀ tr t, tasksMachine.Run MgrTasks.new tr t → ∀ serial v, (t.mgr.get serial).isSome = true →
      FormsAgree t.mgr serial v := by
  intro h
  obtain ⟨t, tr, hrun, htest⟩ := Machine.exists_run_of_exec (M := tasksMachine) (s := MgrTasks.new)
    (connectDevice "usb:1") (fun t _ => (t.mgr.get "usb:1").isSome) rfl
  exact not_formsAgree_of_colon (by decide) (h tr t hrun "usb:1" "features" htest)

end AdbDaemon.SmartSocket
