import AdbDaemon.Connections.Tasks
import AdbDaemon.SmartSocket.Devices

/-!
# Tracking devices

Reference: `track-devices` of `src/smart_socket/services.rs`.

`trackMachine` interleaves one handler with the manager's calls. The update channel never lags, and
hands a receiver the updates that are sent after its subscription. A list is iterated key by key;
the write that sends it is the step that ends it.

A handler with an empty receiver has missed nothing but the changes of calls under way, provided
that no update was broadcast between the begin of its first list and its subscription
(`SubscribedInTime`).
-/

namespace AdbDaemon.SmartSocket

open Common Connections

/-- Where the handler stands. -/
inductive Stage where
  | start
  | listing (scan : Scan) (found : List Connection)
  /-- The first list was sent. -/
  | listed (text : String)
  | waiting (text : String)
  /-- The client has left. -/
  | left

/-- The manager's tasks, the handler, and its receiver of updates. -/
structure TrackSt where
  tasks : MgrTasks
  stage : Stage
  /-- The receiver of the handler, once it has subscribed. -/
  rx : Option (List DeviceUpdate)

/-- The steps of the handler and of the manager. -/
inductive TrackAct where
  /-- A step of the manager's calls. -/
  | task (a : TaskAct)
  | beginList
  | visit (k : String)
  | sendList
  | subscribe
  | recv
  | leave

/-- An update that was broadcast, or a list that was sent. -/
inductive TrackEvent where
  | broadcast (update : DeviceUpdate)
  | sent (text : String)
  | internal

namespace TrackSt

/-- A handler that is about to make its first list. -/
def new : TrackSt where
  tasks := MgrTasks.new
  stage := .start
  rx := none

/-- Where the handler goes on after a list: only the first one is sent before the subscription. -/
def afterList (s : TrackSt) (text : String) : Stage :=
  if s.rx.isSome then .waiting text else .listed text

/-- One step; the list is made key by key, under a lock of its own for each. -/
def step (long : Bool) (s : TrackSt) : TrackAct → Option (TrackSt × TrackEvent)
  -- the update reaches the receiver only if there is one
  | .task a =>
    match s.tasks.step a with
    | none => none
    | some (tasks, none) => some ({ s with tasks }, .internal)
    | some (tasks, some update) =>
      some ({ s with tasks, rx := s.rx.map fun q => q ++ [update] }, .broadcast update)
  | .beginList =>
    match s.stage with
    | .start => some ({ s with stage := .listing s.tasks.scan [] }, .internal)
    | _ => none
  | .visit k =>
    match s.stage with
    | .listing scan found =>
      if k ∈ scan.visited then none
      else
        some ({ s with
          stage := .listing (scan.visit k) (found ++ (s.tasks.mgr.get k).toList) }, .internal)
    | _ => none
  | .sendList =>
    match s.stage with
    | .listing scan found =>
      if scan.done then
        let text := listDevices long found
        some ({ s with stage := s.afterList text }, .sent text)
      else none
    | _ => none
  | .subscribe =>
    match s.stage with
    | .listed text => some ({ s with stage := .waiting text, rx := some [] }, .internal)
    | _ => none
  | .recv =>
    match s.stage, s.rx with
    | .waiting _, some (_ :: rx) =>
      some ({ s with stage := .listing s.tasks.scan [], rx := some rx }, .internal)
    | _, _ => none
  | .leave => some ({ s with stage := .left, rx := none }, .internal)

end TrackSt

/-- `track-devices`, short or long, interleaved with the calls of the manager. -/
def trackMachine (long : Bool) : Machine TrackSt TrackAct TrackEvent where
  step := TrackSt.step long

/-! ## What a step can do -/

/-- The steps of `trackMachine`, one constructor each. -/
inductive TrackStep (long : Bool) (s : TrackSt) : TrackSt → TrackEvent → Prop
  | silent {tasks : MgrTasks} {a : TaskAct} (hs : s.tasks.step a = some (tasks, none)) :
      TrackStep long s { s with tasks } .internal
  | broadcast {tasks : MgrTasks} {a : TaskAct} {update : DeviceUpdate}
      (hs : s.tasks.step a = some (tasks, some update)) :
      TrackStep long s { s with tasks, rx := s.rx.map fun q => q ++ [update] } (.broadcast update)
  | beginList (hstage : s.stage = .start) :
      TrackStep long s { s with stage := .listing s.tasks.scan [] } .internal
  | visit {scan : Scan} {found : List Connection} (k : String)
      (hstage : s.stage = .listing scan found) :
      TrackStep long s
        { s with stage := .listing (scan.visit k) (found ++ (s.tasks.mgr.get k).toList) } .internal
  | sendList {scan : Scan} {found : List Connection} (hstage : s.stage = .listing scan found)
      (hdone : scan.done = true) :
      TrackStep long s
        { s with stage := s.afterList (listDevices long found) } (.sent (listDevices long found))
  | subscribe {text : String} (hstage : s.stage = .listed text) :
      TrackStep long s { s with stage := .waiting text, rx := some [] } .internal
  | recv {text : String} {update : DeviceUpdate} {rx : List DeviceUpdate}
      (hstage : s.stage = .waiting text) (hrx : s.rx = some (update :: rx)) :
      TrackStep long s { s with stage := .listing s.tasks.scan [], rx := some rx } .internal
  | leave : TrackStep long s { s with stage := .left, rx := none } .internal

/-- Every step of the machine is one of `TrackStep`, which tells the steps of the manager with an
update from those without. -/
theorem trackStep_of_step {long : Bool} {s s' : TrackSt} {a : TrackAct} {e : TrackEvent}
    (h : (trackMachine long).step s a = some (s', e)) : TrackStep long s s' e := by
  simp only [trackMachine, TrackSt.step] at h
  cases a with
  | task a =>
    simp only at h
    split at h
    · exact absurd h (by simp)
    · rename_i hs
      cases h
      exact .silent hs
    · rename_i hs
      cases h
      exact .broadcast hs
  | beginList =>
    simp only at h
    split at h
    · rename_i hstage
      cases h
      exact .beginList hstage
    · exact absurd h (by simp)
  | visit k =>
    simp only at h
    split at h
    · rename_i hstage
      split at h
      · exact absurd h (by simp)
      · cases h
        exact .visit k hstage
    · exact absurd h (by simp)
  | sendList =>
    simp only at h
    split at h
    · rename_i hstage
      split at h
      · rename_i hdone
        cases h
        exact .sendList hstage hdone
      · exact absurd h (by simp)
    · exact absurd h (by simp)
  | subscribe =>
    simp only at h
    split at h
    · rename_i hstage
      cases h
      exact .subscribe hstage
    · exact absurd h (by simp)
  | recv =>
    simp only at h
    split at h
    · rename_i hstage hrx
      cases h
      exact .recv hstage hrx
    · exact absurd h (by simp)
  | leave =>
    cases h
    exact .leave

/-- No update is broadcast between the begin of the first list and the subscription. -/
def SubscribedInTime (s : TrackSt) (_ : TrackAct) : TrackEvent → Prop
  | .broadcast _ =>
    match s.stage with
    | .listing _ _ => s.rx.isSome = true
    | .listed _ => False
    | _ => True
  | _ => True

instance (s : TrackSt) (a : TrackAct) (e : TrackEvent) : Decidable (SubscribedInTime s a e) :=
  match e with
  | .broadcast _ =>
    match h : s.stage with
    | .listing _ _ => decidable_of_iff (s.rx.isSome = true) (by simp [SubscribedInTime, h])
    | .listed _ => isFalse (by simp [SubscribedInTime, h])
    | .start => isTrue (by simp [SubscribedInTime, h])
    | .waiting _ => isTrue (by simp [SubscribedInTime, h])
    | .left => isTrue (by simp [SubscribedInTime, h])
  | .sent _ => isTrue trivial
  | .internal => isTrue trivial

/-! ## A handler with an empty receiver is up to date -/

/-- What the handler has listed is current. -/
def Stage.UpToDate (long : Bool) (t : MgrTasks) : Stage → Prop
  | .listing scan found => t.Current scan.Owes found
  | .listed text => ∃ found, text = listDevices long found ∧ t.Current (fun _ => False) found
  | .waiting text => ∃ found, text = listDevices long found ∧ t.Current (fun _ => False) found
  | _ => True

/-- A step of the manager without a broadcast keeps the tracker up to date. -/
theorem Stage.UpToDate.step {long : Bool} {t t' : MgrTasks} {stage : Stage}
    (h : stage.UpToDate long t) (hs : t.Silent t') : stage.UpToDate long t' := by
  cases stage with
  | listing scan found => exact MgrTasks.Current.step h hs
  | listed text =>
    obtain ⟨found, htext, hcur⟩ := h
    exact ⟨found, htext, hcur.step hs⟩
  | waiting text =>
    obtain ⟨found, htext, hcur⟩ := h
    exact ⟨found, htext, hcur.step hs⟩
  | start => trivial
  | left => trivial

/-- The text that an event sends to the client. -/
def TrackEvent.text? : TrackEvent → Option String
  | .sent text => some text
  | _ => none

/-- The last device list sent to the client. -/
def lastSent (tr : List TrackEvent) : Option String := (tr.filterMap TrackEvent.text?).getLast?

/-- A list that is sent is the last one. -/
theorem lastSent_snoc_sent {tr : List TrackEvent} {text : String} :
    lastSent (tr ++ [.sent text]) = some text := by
  simp [lastSent, TrackEvent.text?]

theorem lastSent_snoc {tr : List TrackEvent} {e : TrackEvent} (he : e.text? = none) :
    lastSent (tr ++ [e]) = lastSent tr := by
  simp [lastSent, he]

/-- What every run keeps, until an update comes between the list and the subscription. -/
structure TrackInv (long : Bool) (tr : List TrackEvent) (s : TrackSt) : Prop where
  keyed : s.tasks.Keyed
  listed : ∀ text, s.stage = .listed text → s.rx = none ∧ lastSent tr = some text
  waiting : ∀ text, s.stage = .waiting text → s.rx.isSome = true ∧ lastSent tr = some text
  upToDate : s.rx.getD [] = [] → s.stage.UpToDate long s.tasks

namespace TrackInv

variable {long : Bool} {tr : List TrackEvent} {s s' : TrackSt}

theorem init : TrackInv long [] TrackSt.new where
  keyed := by simp [MgrTasks.Keyed, TrackSt.new, MgrTasks.new, ConnectionMgr.new]
  listed := by simp [TrackSt.new]
  waiting := by simp [TrackSt.new]
  upToDate := by simp [TrackSt.new, Stage.UpToDate]

/-- After a broadcast the handler has an update to receive, or it has not begun its first list. -/
theorem upToDate_broadcast (h : TrackInv long tr s) {a : TrackAct} {update : DeviceUpdate}
    {tasks : MgrTasks} (hcond : SubscribedInTime s a (.broadcast update))
    (hrx : (s.rx.map fun q => q ++ [update]).getD [] = []) : s.stage.UpToDate long tasks := by
  have hnone : s.rx = none := by
    cases hs : s.rx with
    | none => rfl
    | some q => simp [hs] at hrx
  cases hstage : s.stage with
  | listing scan found => simp [SubscribedInTime, hstage, hnone] at hcond
  | listed text => simp [SubscribedInTime, hstage] at hcond
  | waiting text => simpa [hnone] using (h.waiting text hstage).1
  | start => trivial
  | left => trivial

/-- A list that is sent shows what its iteration has found, which is current apart from what is in
the receiver or yet to be announced. -/
theorem step_sendList (h : TrackInv long tr s) {scan : Scan} {found : List Connection}
    (hstage : s.stage = .listing scan found) (hdone : scan.done = true) :
    TrackInv long (tr ++ [.sent (listDevices long found)])
      { s with stage := s.afterList (listDevices long found) } := by
  have hcur : s.rx.getD [] = [] → s.tasks.Current (fun _ => False) found := by
    intro hrx
    have hcur := h.upToDate hrx
    rw [hstage] at hcur
    exact MgrTasks.Current.done hcur hdone
  rw [TrackSt.afterList]
  -- the first list is sent before the subscription, all others after it
  cases hrx : s.rx with
  | none =>
    refine ⟨h.keyed, ?_, by simp, fun _ => ⟨found, rfl, hcur (by simp [hrx])⟩⟩
    intro text htext
    obtain rfl : listDevices long found = text := by simpa using htext
    exact ⟨rfl, lastSent_snoc_sent⟩
  | some q =>
    refine ⟨h.keyed, by simp, ?_, fun hq => ⟨found, rfl, hcur (by simpa [hrx] using hq)⟩⟩
    intro text htext
    obtain rfl : listDevices long found = text := by simpa using htext
    exact ⟨rfl, lastSent_snoc_sent⟩

/-- Every step keeps the invariant, if the tracker has subscribed in time. -/
theorem step (h : TrackInv long tr s) {a : TrackAct} {e : TrackEvent} (hs : TrackStep long s s' e)
    (hcond : SubscribedInTime s a e) : TrackInv long (tr ++ [e]) s' := by
  cases hs with
  | silent hs =>
    refine ⟨h.keyed.step hs, ?_, ?_, fun hrx => (h.upToDate hrx).step (MgrTasks.silent_of_step hs)⟩
    · rw [lastSent_snoc rfl]
      exact h.listed
    · rw [lastSent_snoc rfl]
      exact h.waiting
  | broadcast hs =>
    refine ⟨h.keyed.step hs, ?_, ?_, h.upToDate_broadcast hcond⟩
    · intro text hstage
      simp [SubscribedInTime, show s.stage = .listed text from hstage] at hcond
    · rw [lastSent_snoc rfl]
      simpa using h.waiting
  | beginList hstage => exact ⟨h.keyed, by simp, by simp, fun _ => .begin s.tasks⟩
  | visit k hstage =>
    refine ⟨h.keyed, by simp, by simp, fun hrx => ?_⟩
    have hcur := h.upToDate hrx
    rw [hstage] at hcur
    exact MgrTasks.Current.visit h.keyed hcur k
  | sendList hstage hdone => exact h.step_sendList hstage hdone
  | subscribe hstage =>
    obtain ⟨hrx, hsent⟩ := h.listed _ hstage
    refine ⟨h.keyed, by simp, ?_, fun _ => ?_⟩
    · rintro _ ⟨⟩
      exact ⟨rfl, by rw [lastSent_snoc rfl, hsent]⟩
    · have hcur := h.upToDate (by simp [hrx])
      rw [hstage] at hcur
      exact hcur
  | recv hstage hrx => exact ⟨h.keyed, by simp, by simp, fun _ => .begin s.tasks⟩
  | leave => exact ⟨h.keyed, by simp, by simp, fun _ => trivial⟩

/-- The invariant holds in every interleaving in which it has. -/
theorem run (h : ((trackMachine long).restrict SubscribedInTime).Run TrackSt.new tr s) :
    TrackInv long tr s := by
  refine Machine.Run.invariant (TrackInv long) init ?_ h
  intro tr s a s' e _ hinv hs
  obtain ⟨hstep, hcond⟩ := Machine.restrict_step.mp hs
  exact hinv.step (trackStep_of_step hstep) hcond

end TrackInv

/-- When the handler waits with an empty receiver, no call of the manager is under way and no closed
connection is left, the last list it sent has the lines that `list_devices` would produce now. -/
theorem track_misses_no_update {long : Bool} {tr : List TrackEvent} {s : TrackSt} {text : String}
    (h : ((trackMachine long).restrict SubscribedInTime).Run TrackSt.new tr s)
    (hstage : s.stage = .waiting text) (hrx : s.rx = some []) (hcalls : s.tasks.calls = [])
    (hpass : s.tasks.pass = none)
    (hclosed : ∀ c ∈ Table.values s.tasks.mgr.bySerial, s.tasks.mgr.isClosed c = false) :
    ∃ sent, lastSent tr = some sent ∧
      ∀ l, l ∈ lines sent ↔ l ∈ lines (listDevices long s.tasks.mgr.iter) := by
  have hinv := TrackInv.run h
  have hup := hinv.upToDate (by simp [hrx])
  rw [hstage] at hup
  obtain ⟨found, rfl, hcur⟩ := hup
  exact ⟨_, (hinv.waiting _ hstage).2,
    lines_listDevices_congr fun c => hcur.eq_iter hcalls hpass hclosed c⟩

/-- The schedule of a `new_connection` for a device of serial `usb`. -/
def connectUsb : List TrackAct :=
  [.task (.alloc "usb"), .task (.beginCall 0 ⟨.device, ∅, []⟩), .task (.insertBySerial 0),
    .task (.insertById 0), .task (.sendAdded 0)]

/-- The manager once that call is over. -/
def usbConnected : MgrTasks :=
  ⟨⟨.singleton "usb" (usbConnection 1), .singleton 1 (usbConnection 1), [], 2, []⟩, [], none⟩

theorem usbConnected_open :
    ∀ c ∈ Table.values usbConnected.mgr.bySerial, usbConnected.mgr.isClosed c = false := by
  simp [usbConnected, ConnectionMgr.isClosed]

/-- A device connects after the subscription: the second list has it. -/
theorem track_misses_no_update_connect :
    ∃ tr s, ((trackMachine false).restrict SubscribedInTime).Run TrackSt.new tr s ∧
      s.stage = .waiting "usb\tdevice\n" ∧
      ∃ sent, lastSent tr = some sent ∧
        ∀ l, l ∈ lines sent ↔ l ∈ lines (listDevices false s.tasks.mgr.iter) := by
  have hrun : ((trackMachine false).restrict SubscribedInTime).Run TrackSt.new _
      ⟨usbConnected, .waiting "usb\tdevice\n", some []⟩ :=
    Machine.run_of_exec
      ([.beginList, .sendList, .subscribe] ++ connectUsb ++ [.recv, .visit "usb", .sendList]) rfl
  exact ⟨_, _, hrun, rfl, track_misses_no_update hrun rfl rfl rfl rfl usbConnected_open⟩

/-- A device connects between the first list and the subscription: its update reaches no receiver,
and the handler waits with a list that lacks it. -/
theorem track_misses_update_before_subscription :
    ∃ tr s text, (trackMachine false).Run TrackSt.new tr s ∧ s.stage = .waiting text ∧
      s.rx = some [] ∧
      s.tasks.calls = [] ∧ s.tasks.pass = none ∧
      (∀ c ∈ Table.values s.tasks.mgr.bySerial, s.tasks.mgr.isClosed c = false) ∧
      ∃ sent, lastSent tr = some sent ∧
        ¬ ∀ l, l ∈ lines sent ↔ l ∈ lines (listDevices false s.tasks.mgr.iter) := by
  have hrun : (trackMachine false).Run TrackSt.new _ ⟨usbConnected, .waiting "", some []⟩ :=
    Machine.run_of_exec ([.beginList, .sendList] ++ connectUsb ++ [.subscribe]) rfl
  refine ⟨_, _, _, hrun, rfl, rfl, rfl, rfl, usbConnected_open, "", rfl, ?_⟩
  intro hsame
  exact absurd ((hsame "usb\tdevice".toList).mpr (by decide)) (by decide)

end AdbDaemon.SmartSocket
