import AdbDaemon.Connections.Tasks
import AdbDaemon.SmartSocket.Devices

/-!
# Waiting for a device

Reference: `wait-for-any-device` of `src/smart_socket/services.rs` and `pick_connection` of
`src/smart_socket/devices.rs`.

`waitMachine` interleaves one handler with the manager's calls. The handler subscribes first and
looks for a device in every round, with the selector it began with. A serial is looked up in one
step; an iteration visits the keys one at a time and stops at the second connection it yields. A
receiver that is more than 128 updates behind gets an error instead of an update.

With an empty receiver the handler has missed nothing but the changes of `new_connection` calls under
way (`MgrTasks.Current`), so while it waits there is no device for it.
-/

namespace AdbDaemon.SmartSocket

open Common Connections

/-- Where the handler stands. -/
inductive WaitStage where
  /-- Before the first `OKAY` and the subscription. -/
  | start
  | subscribing
  /-- At the head of the loop. -/
  | round
  /-- Inside `pick_connection`. -/
  | picking
  /-- The iteration of `pick_connection`, for `Any`. -/
  | scanning (scan : Scan) (found : List Connection)
  /-- `pick_connection` has returned. -/
  | picked (res : Except PickDeviceError Connection)
  | waiting
  /-- The loop is over, and the second `OKAY` is to be sent. -/
  | answering
  | done
  | failed

/-- The capacity of the channel of updates. -/
def UPDATES_CAPACITY : Nat := 128

/-- The manager's tasks, the handler, its receiver, and whether the client is there. -/
structure WaitSt where
  tasks : MgrTasks
  stage : WaitStage
  device : DeviceSelector
  /-- The receiver of the handler, once it has subscribed. -/
  rx : Option (List DeviceUpdate)
  /-- The client has not closed its connection yet. -/
  connected : Bool

/-- The steps of the handler, of the client and of the manager. -/
inductive WaitAct where
  /-- A step of the manager's calls. -/
  | task (a : TaskAct)
  | accept
  | subscribe
  | beginRound
  | beginPick
  | visit (k : String)
  | endScan
  | check
  | recv
  /-- The client closes its connection. -/
  | hangUp
  /-- `wait_for` reads the end of the client's stream. -/
  | eof
  /-- `wait_for` reads a byte, which no client should send. -/
  | input
  | answer

/-- What can be seen of a step. -/
inductive WaitEvent where
  | broadcast (update : DeviceUpdate)
  | accepted
  | picked (res : Except PickDeviceError Connection)
  | hungUp
  | answered
  | internal

namespace WaitSt

/-- A handler that is about to accept the request. -/
def new (selector : DeviceSelector) : WaitSt where
  tasks := MgrTasks.new
  stage := .start
  device := selector
  rx := none
  connected := true

/-- `pick_connection` returns, and pins the selector to the connection it returns. -/
def pick (s : WaitSt) (res : Except PickDeviceError Connection) : WaitSt :=
  { s with
    stage := .picked res
    device :=
      match res with
      | .ok c => .connection c
      | .error _ => s.device }

/-- The match on the result of `pick_connection`. -/
def afterPick : Except PickDeviceError Connection → WaitStage
  | .ok c => if c.banner.deviceType = .device then .answering else .waiting
  | .error .noDevices => .waiting
  | .error (.notFound _) => .waiting
  | .error _ => .failed

/-- One step; the search for a device is made key by key, under a lock of its own for each. -/
def step (selector : DeviceSelector) (s : WaitSt) : WaitAct → Option (WaitSt × WaitEvent)
  | .task a =>
    match s.tasks.step a with
    | none => none
    | some (tasks, none) => some ({ s with tasks }, .internal)
    | some (tasks, some update) =>
      some ({ s with tasks, rx := s.rx.map fun q => q ++ [update] }, .broadcast update)
  | .accept =>
    match s.stage with
    | .start => some ({ s with stage := .subscribing }, .accepted)
    | _ => none
  | .subscribe =>
    match s.stage with
    | .subscribing => some ({ s with stage := .round, rx := some [] }, .internal)
    | _ => none
  | .beginRound =>
    match s.stage with
    | .round => some ({ s with stage := .picking, device := selector }, .internal)
    | _ => none
  | .beginPick =>
    match s.stage with
    | .picking =>
      match s.device with
      | .connection c => some (s.pick (.ok c), .picked (.ok c))
      | .serial serial =>
        let res := pickSerial serial (s.tasks.mgr.get serial)
        some (s.pick res, .picked res)
      | .any => some ({ s with stage := .scanning s.tasks.scan [] }, .internal)
      | .none => some (s.pick (.error .notSelected), .picked (.error .notSelected))
    | _ => none
  -- a second open connection ends the scan at once
  | .visit k =>
    match s.stage with
    | .scanning scan found =>
      if k ∈ scan.visited then none
      else
        match s.tasks.mgr.get k, found with
        | none, _ => some ({ s with stage := .scanning (scan.visit k) found }, .internal)
        | some c, [] => some ({ s with stage := .scanning (scan.visit k) [c] }, .internal)
        | some _, _ :: _ => some (s.pick (.error .moreThanOne), .picked (.error .moreThanOne))
    | _ => none
  | .endScan =>
    match s.stage with
    | .scanning scan found =>
      if scan.done then some (s.pick (pickAny found), .picked (pickAny found)) else none
    | _ => none
  | .check =>
    match s.stage with
    | .picked res => some ({ s with stage := afterPick res }, .internal)
    | _ => none
  | .recv =>
    match s.stage, s.rx with
    | .waiting, some (_ :: rx) =>
      -- the receiver has lagged when more updates came than the channel holds
      if rx.length < UPDATES_CAPACITY then
        some ({ s with stage := .round, rx := some rx }, .internal)
      else some ({ s with stage := .failed }, .internal)
    | _, _ => none
  | .hangUp => some ({ s with connected := false }, .hungUp)
  | .eof =>
    match s.stage with
    | .waiting => if s.connected then none else some ({ s with stage := .answering }, .internal)
    | _ => none
  | .input =>
    match s.stage with
    | .waiting => some ({ s with stage := .failed }, .internal)
    | _ => none
  | .answer =>
    match s.stage with
    | .answering => some ({ s with stage := .done }, .answered)
    | _ => none

end WaitSt

/-- `wait-for-any-device` with the selector of its client, interleaved with the calls of the
manager. -/
def waitMachine (selector : DeviceSelector) : Machine WaitSt WaitAct WaitEvent where
  step := WaitSt.step selector

/-! ## What a step can do -/

/-- The handler is in its loop, so it has subscribed. -/
def WaitStage.inLoop : WaitStage → Bool
  | .round | .picking | .scanning _ _ | .picked _ | .waiting => true
  | _ => false

/-- The steps of `waitMachine`, one for each thing that they may do to the handler or to the
manager. -/
inductive WaitStep (selector : DeviceSelector) (s : WaitSt) : WaitSt → WaitEvent → Prop
  | silent {tasks : MgrTasks} {a : TaskAct} (hs : s.tasks.step a = some (tasks, none)) :
      WaitStep selector s { s with tasks } .internal
  | broadcast {tasks : MgrTasks} {a : TaskAct} {update : DeviceUpdate}
      (hs : s.tasks.step a = some (tasks, some update)) :
      WaitStep selector s { s with tasks, rx := s.rx.map fun q => q ++ [update] }
        (.broadcast update)
  | accept (hstage : s.stage = .start) :
      WaitStep selector s { s with stage := .subscribing } .accepted
  | subscribe (hstage : s.stage = .subscribing) :
      WaitStep selector s { s with stage := .round, rx := some [] } .internal
  | beginRound (hstage : s.stage = .round) :
      WaitStep selector s { s with stage := .picking, device := selector } .internal
  | pinned {c : Connection} (hstage : s.stage = .picking) (hdevice : s.device = .connection c) :
      WaitStep selector s (s.pick (.ok c)) (.picked (.ok c))
  | lookUp {serial : String} (hstage : s.stage = .picking) (hdevice : s.device = .serial serial) :
      WaitStep selector s (s.pick (pickSerial serial (s.tasks.mgr.get serial)))
        (.picked (pickSerial serial (s.tasks.mgr.get serial)))
  | beginScan (hstage : s.stage = .picking) (hdevice : s.device = .any) :
      WaitStep selector s { s with stage := .scanning s.tasks.scan [] } .internal
  | visit {scan : Scan} {found : List Connection} (k : String)
      (hstage : s.stage = .scanning scan found)
      (hone : s.tasks.mgr.get k = none ∨ found = []) :
      WaitStep selector s
        { s with stage := .scanning (scan.visit k) (found ++ (s.tasks.mgr.get k).toList) } .internal
  | endScan {scan : Scan} {found : List Connection} (hstage : s.stage = .scanning scan found)
      (hdone : scan.done = true) :
      WaitStep selector s (s.pick (pickAny found)) (.picked (pickAny found))
  /-- The handler is going to fail. -/
  | refuse {err : PickDeviceError} (hloop : s.stage.inLoop = true)
      (herr : WaitSt.afterPick (.error err) = .failed) :
      WaitStep selector s (s.pick (.error err)) (.picked (.error err))
  | check {res : Except PickDeviceError Connection} (hstage : s.stage = .picked res) :
      WaitStep selector s { s with stage := WaitSt.afterPick res } .internal
  | recv {update : DeviceUpdate} {rx : List DeviceUpdate} (hstage : s.stage = .waiting)
      (hrx : s.rx = some (update :: rx)) :
      WaitStep selector s { s with stage := .round, rx := some rx } .internal
  | fail : WaitStep selector s { s with stage := .failed } .internal
  | hangUp : WaitStep selector s { s with connected := false } .hungUp
  | eof (hgone : s.connected = false) :
      WaitStep selector s { s with stage := .answering } .internal
  | answer (hstage : s.stage = .answering) :
      WaitStep selector s { s with stage := .done } .answered

/-- Every step of the machine is one of `WaitStep`: the failures of a pick are one constructor, and
so are the ways to fail. -/
theorem waitStep_of_step {selector : DeviceSelector} {s s' : WaitSt} {a : WaitAct} {e : WaitEvent}
    (h : (waitMachine selector).step s a = some (s', e)) : WaitStep selector s s' e := by
  cases a with
  | task a =>
    simp only [waitMachine, WaitSt.step] at h
    split at h
    · exact absurd h (by simp)
    · rename_i hs
      cases h
      exact .silent hs
    · rename_i hs
      cases h
      exact .broadcast hs
  | accept =>
    simp only [waitMachine, WaitSt.step] at h
    split at h
    · rename_i hstage
      cases h
      exact .accept hstage
    · exact absurd h (by simp)
  | subscribe =>
    simp only [waitMachine, WaitSt.step] at h
    split at h
    · rename_i hstage
      cases h
      exact .subscribe hstage
    · exact absurd h (by simp)
  | beginRound =>
    simp only [waitMachine, WaitSt.step] at h
    split at h
    · rename_i hstage
      cases h
      exact .beginRound hstage
    · exact absurd h (by simp)
  | beginPick =>
    simp only [waitMachine, WaitSt.step] at h
    split at h
    · rename_i hstage
      split at h
      · rename_i hdevice
        cases h
        exact .pinned hstage hdevice
      · rename_i hdevice
        cases h
        exact .lookUp hstage hdevice
      · rename_i hdevice
        cases h
        exact .beginScan hstage hdevice
      · cases h
        exact .refuse (by rw [hstage]; rfl) rfl
    · exact absurd h (by simp)
  | visit k =>
    simp only [waitMachine, WaitSt.step] at h
    split at h
    · rename_i scan found hstage
      split at h
      · exact absurd h (by simp)
      · split at h
        · rename_i hget
          cases h
          have hvisit : WaitStep selector s _ _ := .visit k hstage (.inl hget)
          rwa [hget, Option.toList_none, List.append_nil] at hvisit
        · rename_i c hget
          cases h
          have hvisit : WaitStep selector s _ _ := .visit k hstage (.inr rfl)
          rwa [hget, Option.toList_some, List.nil_append] at hvisit
        · cases h
          exact .refuse (by rw [hstage]; rfl) rfl
    · exact absurd h (by simp)
  | endScan =>
    simp only [waitMachine, WaitSt.step] at h
    split at h
    · rename_i hstage
      split at h
      · rename_i hdone
        cases h
        exact .endScan hstage hdone
      · exact absurd h (by simp)
    · exact absurd h (by simp)
  | check =>
    simp only [waitMachine, WaitSt.step] at h
    split at h
    · rename_i hstage
      cases h
      exact .check hstage
    · exact absurd h (by simp)
  | recv =>
    simp only [waitMachine, WaitSt.step] at h
    split at h
    · rename_i hstage hrx
      split at h
      · cases h
        exact .recv hstage hrx
      · cases h
        exact .fail
    · exact absurd h (by simp)
  | hangUp =>
    cases h
    exact .hangUp
  | eof =>
    simp only [waitMachine, WaitSt.step] at h
    split at h
    · split at h
      · exact absurd h (by simp)
      · rename_i hgone
        cases h
        exact .eof (by simpa using hgone)
    · exact absurd h (by simp)
  | input =>
    simp only [waitMachine, WaitSt.step] at h
    split at h
    · cases h
      exact .fail
    · exact absurd h (by simp)
  | answer =>
    simp only [waitMachine, WaitSt.step] at h
    split at h
    · rename_i hstage
      cases h
      exact .answer hstage
    · exact absurd h (by simp)

/-! ## A handler with an empty receiver knows every device it waits for -/

/-- An observer that found `found` knows what the selector can choose from. -/
def Known (selector : DeviceSelector) (t : MgrTasks) (found : List Connection) : Prop :=
  match selector with
  | .any => t.Current (fun _ => False) found
  | .serial serial => t.Current (fun k => k ≠ serial) found
  | _ => True

/-- What was found stays found, in a step of the manager without a broadcast. -/
theorem Known.step {selector : DeviceSelector} {t t' : MgrTasks} {found : List Connection}
    (h : Known selector t found) (hs : t.Silent t') : Known selector t' found := by
  cases selector with
  | any => exact MgrTasks.Current.step h hs
  | serial serial => exact MgrTasks.Current.step h hs
  | connection | none => trivial

/-- An iteration that is over knows all. -/
theorem Known.of_scan {selector : DeviceSelector} {t : MgrTasks} {found : List Connection}
    (h : t.Current (fun _ => False) found) : Known selector t found := by
  cases selector with
  | any => exact h
  | serial serial => exact ⟨fun k c hk hopen => (h.complete k c hk hopen).imp_left False.elim, h.sound⟩
  | connection | none => trivial

/-- A lookup knows its serial. -/
theorem Known.of_get {t : MgrTasks} (hkeyed : t.Keyed) (serial : String) :
    Known (.serial serial) t (t.mgr.get serial).toList where
  complete k c hk hopen := by
    by_cases heq : k = serial
    · subst heq
      refine .inr (.inl ?_)
      simp [ConnectionMgr.get, hk, Option.filter_some, ConnectionMgr.connectionFilter, hopen]
    · exact .inl heq
  sound c hc := by
    left
    rw [Option.mem_toList, ConnectionMgr.get] at hc
    have hlookup := (Option.filter_eq_some_iff.mp hc).1
    rw [hkeyed serial c hlookup]
    exact hlookup

/-- With no call under way, whoever knows the devices has what `pick_connection` returns. -/
theorem Known.mem_of_pick {selector : DeviceSelector} {t : MgrTasks} {found : List Connection}
    {c : Connection} (h : Known selector t found) (hcalls : t.calls = [])
    (hsel : selector = .any ∨ ∃ serial, selector = .serial serial)
    (hpick : pickConnection t.mgr selector = .ok c) : c ∈ found := by
  have harriving : ¬ t.Arriving c := by simp [MgrTasks.Arriving, hcalls]
  rcases hsel with rfl | ⟨serial, rfl⟩
  · -- the table has one open connection, and it is this one
    have hiter : t.mgr.iter = [c] := by
      simp only [pickConnection] at hpick
      cases hi : t.mgr.iter with
      | nil => simp [hi, pickAny] at hpick
      | cons d rest =>
        cases rest with
        | nil => simpa [hi, pickAny] using hpick
        | cons _ _ => simp [hi, pickAny] at hpick
    have hmem : c ∈ t.mgr.iter := by simp [hiter]
    rw [ConnectionMgr.iter, List.mem_filter] at hmem
    obtain ⟨k, hk⟩ := Table.mem_values.mp hmem.1
    have hopen : t.mgr.isClosed c = false := by
      simpa [ConnectionMgr.connectionFilter] using hmem.2
    rcases MgrTasks.Current.complete h k c hk hopen with hno | hfound | harr
    · exact hno.elim
    · exact hfound
    · exact absurd harr harriving
  · have hget : t.mgr.get serial = some c := by
      simp only [pickConnection] at hpick
      cases hg : t.mgr.get serial with
      | none => simp [hg, pickSerial] at hpick
      | some d => simpa [hg, pickSerial] using hpick
    obtain ⟨hk, hfilter⟩ := Option.filter_eq_some_iff.mp hget
    have hopen : t.mgr.isClosed c = false := by
      simpa [ConnectionMgr.connectionFilter] using hfilter
    rcases MgrTasks.Current.complete h serial c hk hopen with hne | hfound | harr
    · exact absurd rfl hne
    · exact hfound
    · exact absurd harr harriving

/-- What the handler has found is current, and while it waits none of it is a device. -/
def WaitStage.UpToDate (selector : DeviceSelector) (t : MgrTasks) : WaitStage → Prop
  | .scanning scan found => t.Current scan.Owes found
  | .picked res =>
    WaitSt.afterPick res = .failed ∨ ∃ found, Known selector t found ∧ ∀ c ∈ found, res = .ok c
  | .waiting => ∃ found, Known selector t found ∧ ∀ c ∈ found, c.banner.deviceType ≠ .device
  | _ => True

/-- A step of the manager without a broadcast keeps the waiter up to date. -/
theorem WaitStage.UpToDate.step {selector : DeviceSelector} {t t' : MgrTasks} {stage : WaitStage}
    (h : stage.UpToDate selector t) (hs : t.Silent t') : stage.UpToDate selector t' := by
  cases stage with
  | scanning scan found => exact MgrTasks.Current.step h hs
  | picked res =>
    rcases h with hfail | ⟨found, hknown, hres⟩
    · exact .inl hfail
    · exact .inr ⟨found, hknown.step hs, hres⟩
  | waiting =>
    obtain ⟨found, hknown, hnone⟩ := h
    exact ⟨found, hknown.step hs, hnone⟩
  | _ => trivial

/-- The handler goes on to the second `OKAY` with a device, waits without one, or fails. -/
theorem afterPick_cases (res : Except PickDeviceError Connection) :
    (∃ c, res = .ok c ∧ c.banner.deviceType = .device ∧ WaitSt.afterPick res = .answering) ∨
      ((∀ c, res = .ok c → c.banner.deviceType ≠ .device) ∧ WaitSt.afterPick res = .waiting) ∨
      WaitSt.afterPick res = .failed := by
  cases res with
  | ok c =>
    by_cases hdev : c.banner.deviceType = .device
    · exact .inl ⟨c, rfl, hdev, by rw [WaitSt.afterPick, if_pos hdev]⟩
    · refine .inr (.inl ⟨?_, by rw [WaitSt.afterPick, if_neg hdev]⟩)
      rintro _ ⟨⟩
      exact hdev
  | error err =>
    cases err with
    | noDevices | notFound => exact .inr (.inl ⟨by simp, rfl⟩)
    | notSelected | moreThanOne => exact .inr (.inr rfl)

/-- What every run keeps: inside its loop the handler is subscribed, and with nothing in the receiver
its view of the tables is up to date. -/
structure WaitInv (selector : DeviceSelector) (s : WaitSt) : Prop where
  keyed : s.tasks.Keyed
  subscribed : s.stage.inLoop = true → s.rx.isSome = true
  device : s.stage = .picking → s.device = selector
  upToDate : s.rx.getD [] = [] → s.stage.UpToDate selector s.tasks

namespace WaitInv

variable {selector : DeviceSelector} {s s' : WaitSt} {e : WaitEvent}

theorem init : WaitInv selector (WaitSt.new selector) where
  keyed := by simp [MgrTasks.Keyed, WaitSt.new, MgrTasks.new, ConnectionMgr.new]
  subscribed := by simp [WaitSt.new, WaitStage.inLoop]
  device := by simp [WaitSt.new]
  upToDate := by simp [WaitSt.new, WaitStage.UpToDate]

/-- In the loop the waiter has subscribed. -/
theorem subscribed_at (h : WaitInv selector s) {stage : WaitStage} (hstage : s.stage = stage)
    (hloop : stage.inLoop = true) : s.rx.isSome = true := h.subscribed (hstage ▸ hloop)

/-- After a broadcast the handler has an update to receive, or it is not in its loop. -/
theorem upToDate_broadcast (h : WaitInv selector s) {update : DeviceUpdate} {tasks : MgrTasks}
    (hrx : (s.rx.map fun q => q ++ [update]).getD [] = []) : s.stage.UpToDate selector tasks := by
  have hnone : s.rx = none := by
    cases hs : s.rx with
    | none => rfl
    | some q => simp [hs] at hrx
  have hout : s.stage.inLoop ≠ true := fun hin => by simpa [hnone] using h.subscribed hin
  cases hstage : s.stage with
  | scanning | picked | waiting => simp [hstage, WaitStage.inLoop] at hout
  | _ => trivial

/-- A waiter that found no device waits with nothing in its channel. -/
theorem upToDate_afterPick (h : WaitInv selector s) {res : Except PickDeviceError Connection}
    (hstage : s.stage = .picked res) (hrx : s.rx.getD [] = []) :
    (WaitSt.afterPick res).UpToDate selector s.tasks := by
  have hup := h.upToDate hrx
  rw [hstage] at hup
  rcases hup with hfail | ⟨found, hknown, hres⟩
  · rw [hfail]
    trivial
  · rcases afterPick_cases res with ⟨c, rfl, hdev, hafter⟩ | ⟨hnone, hafter⟩ | hafter
    · rw [hafter]
      trivial
    · rw [hafter]
      exact ⟨found, hknown, fun c hc => hnone c (hres c hc)⟩
    · rw [hafter]
      trivial

/-- Every step keeps the invariant. -/
theorem step (h : WaitInv selector s) (hs : WaitStep selector s s' e) : WaitInv selector s' := by
  cases hs with
  | silent hs =>
    exact ⟨h.keyed.step hs, h.subscribed, h.device,
      fun hrx => (h.upToDate hrx).step (MgrTasks.silent_of_step hs)⟩
  | broadcast hs =>
    refine ⟨h.keyed.step hs, fun hin => ?_, h.device, h.upToDate_broadcast⟩
    simpa using h.subscribed hin
  | accept | answer => exact ⟨h.keyed, by simp [WaitStage.inLoop], by simp, fun _ => trivial⟩
  | subscribe => exact ⟨h.keyed, by simp, by simp, fun _ => trivial⟩
  | beginRound hstage =>
    exact ⟨h.keyed, fun _ => h.subscribed_at hstage rfl, fun _ => rfl,
      fun _ => trivial⟩
  | @pinned c hstage hdevice =>
    refine ⟨h.keyed, fun _ => h.subscribed_at hstage rfl, by simp [WaitSt.pick],
      fun _ => ?_⟩
    have hsel := h.device hstage
    rw [hdevice] at hsel
    subst hsel
    exact .inr ⟨[], trivial, by simp⟩
  -- one look-up under the read lock, so there is no scan to keep track of
  | @lookUp serial hstage hdevice =>
    refine ⟨h.keyed, fun _ => h.subscribed_at hstage rfl, by simp [WaitSt.pick],
      fun _ => ?_⟩
    have hsel := h.device hstage
    rw [hdevice] at hsel
    subst hsel
    refine .inr ⟨(s.tasks.mgr.get serial).toList, .of_get h.keyed serial, fun c hc => ?_⟩
    rw [Option.mem_toList] at hc
    rw [hc, pickSerial]
  | beginScan hstage hdevice =>
    exact ⟨h.keyed, fun _ => h.subscribed_at hstage rfl, by simp,
      fun _ => .begin s.tasks⟩
  | visit k hstage hone =>
    refine ⟨h.keyed, fun _ => h.subscribed_at hstage rfl, by simp,
      fun hrx => ?_⟩
    have hcur := h.upToDate hrx
    rw [hstage] at hcur
    exact MgrTasks.Current.visit h.keyed hcur k
  | @endScan scan found hstage hdone =>
    refine ⟨h.keyed, fun _ => h.subscribed_at hstage rfl, by simp [WaitSt.pick],
      fun hrx => ?_⟩
    have hcur := h.upToDate hrx
    rw [hstage] at hcur
    have hknown : Known selector s.tasks found := .of_scan (MgrTasks.Current.done hcur hdone)
    cases found with
    | nil => exact .inr ⟨[], hknown, by simp⟩
    | cons c rest =>
      cases rest with
      | nil => exact .inr ⟨[c], hknown, by simp [pickAny]⟩
      | cons _ _ => exact .inl rfl
  | refuse hloop herr =>
    exact ⟨h.keyed, fun _ => h.subscribed hloop, by simp [WaitSt.pick], fun _ => .inl herr⟩
  | @check res hstage =>
    refine ⟨h.keyed, fun _ => h.subscribed_at hstage rfl, ?_,
      h.upToDate_afterPick hstage⟩
    rcases afterPick_cases res with ⟨c, rfl, hdev, hafter⟩ | ⟨hnone, hafter⟩ | hafter <;>
      simp [hafter]
  | recv hstage hrx => exact ⟨h.keyed, fun _ => rfl, by simp, fun _ => trivial⟩
  | fail => exact ⟨h.keyed, by simp [WaitStage.inLoop], by simp, fun _ => trivial⟩
  | hangUp => exact ⟨h.keyed, h.subscribed, h.device, h.upToDate⟩
  | eof hgone => exact ⟨h.keyed, by simp [WaitStage.inLoop], by simp, fun _ => trivial⟩

end WaitInv

/-! ## The second `OKAY` -/

/-- At some point of the schedule the connection was in `by_serial`, and open. -/
def SeenOpen (selector : DeviceSelector) (tr : List WaitEvent) (c : Connection) : Prop :=
  ∃ tr₁ tr₂ s, tr = tr₁ ++ tr₂ ∧ (waitMachine selector).Run (WaitSt.new selector) tr₁ s ∧
    s.tasks.mgr.bySerial.lookup c.serial = some c ∧ s.tasks.mgr.isClosed c = false

/-- `pick_connection` returned a device that was open when it was looked up. -/
def PickedDevice (selector : DeviceSelector) (tr : List WaitEvent) : Prop :=
  ∃ c, .picked (.ok c) ∈ tr ∧ c.banner.deviceType = .device ∧ SeenOpen selector tr c

variable {selector : DeviceSelector} {tr : List WaitEvent} {s s' : WaitSt} {e : WaitEvent}

theorem SeenOpen.append {c : Connection} (h : SeenOpen selector tr c) (tr' : List WaitEvent) :
    SeenOpen selector (tr ++ tr') c := by
  obtain ⟨tr₁, tr₂, s, rfl, hrun, hk, hopen⟩ := h
  exact ⟨tr₁, tr₂ ++ tr', s, by simp, hrun, hk, hopen⟩

theorem PickedDevice.append (h : PickedDevice selector tr) (tr' : List WaitEvent) :
    PickedDevice selector (tr ++ tr') := by
  obtain ⟨c, hpicked, hdev, hseen⟩ := h
  exact ⟨c, List.mem_append_left _ hpicked, hdev, hseen.append tr'⟩

/-- What `get` returns is seen open. -/
theorem seenOpen_of_get {k : String} {c : Connection}
    (hrun : (waitMachine selector).Run (WaitSt.new selector) tr s) (hkeyed : s.tasks.Keyed)
    (hget : s.tasks.mgr.get k = some c) : SeenOpen selector tr c := by
  obtain ⟨hk, hfilter⟩ := Option.filter_eq_some_iff.mp hget
  refine ⟨tr, [], s, by simp, hrun, ?_, by simpa [ConnectionMgr.connectionFilter] using hfilter⟩
  rw [hkeyed k c hk]
  exact hk

/-- What the handler holds was seen open, and the loop ends with a device or without a client. -/
structure PickInv (selector : DeviceSelector) (tr : List WaitEvent) (s : WaitSt) : Prop where
  connected : .hungUp ∉ tr → s.connected = true
  scanning : ∀ scan found, s.stage = .scanning scan found → ∀ c ∈ found, SeenOpen selector tr c
  picked : ∀ c, s.stage = .picked (.ok c) → .picked (.ok c) ∈ tr ∧ SeenOpen selector tr c
  answering : s.stage = .answering → .hungUp ∉ tr → PickedDevice selector tr

namespace PickInv

/-- A step of the handler that hands on nothing. -/
theorem of_quiet (h : PickInv selector tr s) (hconn : e = .hungUp ∨ s'.connected = s.connected)
    (hscan : ∀ scan found, s'.stage = .scanning scan found →
      s.stage = .scanning scan found ∨ found = [])
    (hpicked : ∀ c, s'.stage = .picked (.ok c) → s.stage = .picked (.ok c))
    (hanswer : s'.stage = .answering → s.stage = .answering) : PickInv selector (tr ++ [e]) s' := by
  have hmem : .hungUp ∉ tr ++ [e] → .hungUp ∉ tr ∧ e ≠ .hungUp := by
    intro hno
    rw [List.mem_append, not_or, List.mem_singleton] at hno
    exact ⟨hno.1, Ne.symm hno.2⟩
  refine ⟨fun hno => ?_, fun scan found hstage c hc => ?_, fun c hstage => ?_, fun hstage hno => ?_⟩
  · rcases hconn with rfl | heq
    · exact absurd rfl (hmem hno).2
    · rw [heq]
      exact h.connected (hmem hno).1
  · rcases hscan scan found hstage with hold | rfl
    · exact (h.scanning scan found hold c hc).append [e]
    · simp at hc
  · obtain ⟨hin, hseen⟩ := h.picked c (hpicked c hstage)
    exact ⟨List.mem_append_left _ hin, hseen.append [e]⟩
  · exact (h.answering (hanswer hstage) (hmem hno).1).append [e]

/-- A pick gives a connection that was seen open. -/
theorem of_pick (h : PickInv selector tr s) {res : Except PickDeviceError Connection}
    (hres : ∀ c, res = .ok c → SeenOpen selector tr c) :
    PickInv selector (tr ++ [.picked res]) (s.pick res) := by
  refine ⟨fun hno => ?_, by simp [WaitSt.pick], fun c hstage => ?_, by simp [WaitSt.pick]⟩
  · exact h.connected fun hin => hno (List.mem_append_left _ hin)
  · obtain rfl : res = .ok c := by simpa [WaitSt.pick] using hstage
    exact ⟨by simp, (hres c rfl).append _⟩

/-- Every step keeps what is said about the picks. -/
theorem step (h : PickInv selector tr s) (hinv : WaitInv selector s)
    (hrun : (waitMachine selector).Run (WaitSt.new selector) tr s)
    (hsel : ∀ c, selector ≠ .connection c) (hs : WaitStep selector s s' e) :
    PickInv selector (tr ++ [e]) s' := by
  cases hs with
  | silent | broadcast =>
    exact h.of_quiet (.inr rfl) (fun _ _ h => .inl h) (fun _ h => h) fun h => h
  | hangUp => exact h.of_quiet (.inl rfl) (fun _ _ h => .inl h) (fun _ h => h) fun h => h
  | accept | subscribe | beginRound | recv | fail | answer =>
    exact h.of_quiet (.inr rfl) (by simp) (by simp) (by simp)
  | pinned hstage hdevice =>
    have hpin := hinv.device hstage
    rw [hdevice] at hpin
    exact absurd hpin.symm (hsel _)
  | @lookUp serial hstage hdevice =>
    refine h.of_pick fun c hc => seenOpen_of_get hrun hinv.keyed (k := serial) ?_
    cases hg : s.tasks.mgr.get serial with
    | none => simp [hg, pickSerial] at hc
    | some d => simpa [hg, pickSerial] using hc
  | beginScan => exact h.of_quiet (.inr rfl) (by simp) (by simp) (by simp)
  | @visit scan found k hstage hone =>
    refine ⟨fun hno => h.connected fun hin => hno (List.mem_append_left _ hin), ?_, by simp, by simp⟩
    intro scan' found' hstage' c hc
    obtain ⟨-, rfl⟩ := WaitStage.scanning.inj hstage'
    rcases List.mem_append.mp hc with hold | hnew
    · exact (h.scanning scan found hstage c hold).append _
    · exact (seenOpen_of_get hrun hinv.keyed (Option.mem_toList.mp hnew)).append _
  | @endScan scan found hstage hdone =>
    refine h.of_pick fun c hc => h.scanning scan found hstage c ?_
    cases found with
    | nil => simp [pickAny] at hc
    | cons d rest =>
      cases rest with
      | nil => simpa [pickAny, eq_comm] using hc
      | cons _ _ => simp [pickAny] at hc
  | refuse => exact h.of_pick (by simp)
  | @check res hstage =>
    refine ⟨fun hno => h.connected fun hin => hno (List.mem_append_left _ hin), ?_, ?_, ?_⟩
    · rcases afterPick_cases res with ⟨c, rfl, hdev, hafter⟩ | ⟨hnone, hafter⟩ | hafter <;>
        simp [hafter]
    · rcases afterPick_cases res with ⟨c, rfl, hdev, hafter⟩ | ⟨hnone, hafter⟩ | hafter <;>
        simp [hafter]
    · intro hanswer hno
      rcases afterPick_cases res with ⟨c, rfl, hdev, hafter⟩ | ⟨hnone, hafter⟩ | hafter
      · obtain ⟨hin, hseen⟩ := h.picked c hstage
        exact ⟨c, List.mem_append_left _ hin, hdev, hseen.append _⟩
      · simp [hafter] at hanswer
      · simp [hafter] at hanswer
  | eof hgone =>
    -- only a client that hung up ends the wait
    refine ⟨fun hno => h.connected fun hin => hno (List.mem_append_left _ hin), by simp, by simp,
      fun _ hno => ?_⟩
    have hconn := h.connected fun hin => hno (List.mem_append_left _ hin)
    simp [hgone] at hconn

end PickInv

/-- The invariant holds in every interleaving. -/
theorem waitInv_of_run (hrun : (waitMachine selector).Run (WaitSt.new selector) tr s) :
    WaitInv selector s := by
  refine hrun.invariant (fun _ s => WaitInv selector s) WaitInv.init ?_
  exact fun tr s a s' e _ h hs => h.step (waitStep_of_step hs)

/-- In every interleaving what was picked had been seen open. -/
theorem pickInv_of_run (hsel : ∀ c, selector ≠ .connection c)
    (hrun : (waitMachine selector).Run (WaitSt.new selector) tr s) : PickInv selector tr s := by
  refine hrun.invariant (PickInv selector) ?_ ?_
  · exact ⟨fun _ => rfl, by simp [WaitSt.new], by simp [WaitSt.new], by simp [WaitSt.new]⟩
  · intro tr s a s' e hrun h hs
    exact h.step (waitInv_of_run hrun) hrun hsel (waitStep_of_step hs)

/-- **Waiting for a device.** For the selector `Any` and every serial, and every schedule of the
handler and the manager's calls: while the handler waits with an empty receiver and no
`new_connection` is under way, `pick_connection` would not return an open device; and if the second
`OKAY` is sent before the client hangs up, `pick_connection` had returned one. -/
theorem wait_misses_no_device {selector : DeviceSelector} {tr : List WaitEvent} {s : WaitSt}
    (hsel : selector = .any ∨ ∃ serial, selector = .serial serial)
    (hrun : (waitMachine selector).Run (WaitSt.new selector) tr s) :
    (s.stage = .waiting → s.rx = some [] → s.tasks.calls = [] →
      ¬ ∃ c, pickConnection s.tasks.mgr selector = .ok c ∧ s.tasks.mgr.isClosed c = false ∧
        c.banner.deviceType = .device) ∧
    ∀ pre post, tr = pre ++ .answered :: post → .hungUp ∉ pre → PickedDevice selector pre := by
  have hpin : ∀ c, selector ≠ .connection c := by
    rcases hsel with rfl | ⟨serial, rfl⟩ <;> simp
  constructor
  · rintro hstage hrx hcalls ⟨c, hpick, -, hdev⟩
    have hup := (waitInv_of_run hrun).upToDate (by simp [hrx])
    rw [hstage] at hup
    obtain ⟨found, hknown, hnone⟩ := hup
    exact hnone c (hknown.mem_of_pick hcalls hsel hpick) hdev
  · rintro pre post rfl hno
    obtain ⟨s₁, a, s₂, hrun₁, hs, -⟩ := hrun.split
    have hstage : s₁.stage = .answering := by
      generalize he : WaitEvent.answered = e at hs
      cases waitStep_of_step hs with
      | answer hstage => exact hstage
      | _ => simp at he
    exact (pickInv_of_run hpin hrun₁).answering hstage hno

/-- The handler finds nothing and waits. -/
def waitForAny : List WaitAct :=
  [.accept, .subscribe, .beginRound, .beginPick, .endScan, .check]

/-- A device connects; the handler receives its update, finds it and answers. -/
def deviceConnects : List WaitAct :=
  [.task (.alloc "usb"), .task (.beginCall 0 ⟨.device, ∅, []⟩), .task (.insertBySerial 0),
    .task (.insertById 0), .task (.sendAdded 0), .recv, .beginRound, .beginPick, .visit "usb",
    .endScan, .check, .answer]

/-- A handler that waits with nothing to find, and answers after a device has connected. -/
theorem wait_misses_no_device_connect :
    (∃ tr s, (waitMachine .any).Run (WaitSt.new .any) tr s ∧ s.stage = .waiting ∧
      s.rx = some [] ∧ s.tasks.calls = [] ∧
      ¬ ∃ c, pickConnection s.tasks.mgr .any = .ok c ∧ s.tasks.mgr.isClosed c = false ∧
        c.banner.deviceType = .device) ∧
    ∃ pre s, (waitMachine .any).Run (WaitSt.new .any) (pre ++ [.answered]) s ∧
      .hungUp ∉ pre ∧ PickedDevice .any pre := by
  constructor
  · have hrun : (waitMachine .any).Run (WaitSt.new .any) _ ⟨MgrTasks.new, .waiting, .any, some [], true⟩ :=
      Machine.run_of_exec waitForAny rfl
    exact ⟨_, _, hrun, rfl, rfl, rfl, (wait_misses_no_device (.inl rfl) hrun).1 rfl rfl rfl⟩
  · have hrun : (waitMachine .any).Run (WaitSt.new .any)
        ([.accepted, .internal, .internal, .internal, .picked (.error .noDevices), .internal,
          .internal, .internal, .internal, .internal, .broadcast (.added (usbConnection 1)),
          .internal, .internal, .internal, .internal, .picked (.ok (usbConnection 1)), .internal]
          ++ [.answered]) _ :=
      Machine.run_of_exec (waitForAny ++ deviceConnects) rfl
    exact ⟨_, _, hrun, by simp, (wait_misses_no_device (.inl rfl) hrun).2 _ [] rfl (by simp)⟩

end AdbDaemon.SmartSocket
