import AdbDaemon.Forward.PortMap
import AdbDaemon.Forward.Race

/-!
# The release of a port

Reference: `ForwardTask::drop`, `ForwardingMgr::clean_forwards` and `ForwardingMgr::handle_forward` of
`src/forward.rs`.

Dropping the entry of a forward only asks the runtime to abort its `forward_task`.  The task leaves
the table at once, and its listener is closed when the runtime gets to it.  In between the daemon
itself stands in the way of a new listener on the port.

`releaseMachine` is made of the two critical sections of a call, in any order and number, with the
runtime, the tasks, the devices and other processes between them.
-/

namespace AdbDaemon.Forward

open Common Connections SmartSocket

/-- The table of forwards, the system, and the aborted tasks that still have their listeners. -/
structure ReleaseSt where
  mgr : ForwardingMgr
  env : Env
  /-- The tasks that are aborted and still own their listener. -/
  releasing : List Nat

inductive ReleaseAct where
  /-- `clean_forwards`, of any call. -/
  | clean
  /-- The section of a call after it. -/
  | enter (cmd : ForwardCommand) (pick : Except PickDeviceError Connection) (fresh : UInt16)
  /-- The runtime drops an aborted task. -/
  | release (i : Nat)
  /-- A task returns by itself. -/
  | finish (i : Nat)
  /-- The transport of a connection fails. -/
  | close (id : Nat)
  /-- The last reference to a connection goes away. -/
  | drop (id : Nat)
  | othersBind (port : UInt16)
  | othersRelease (port : UInt16)

/-- What can be seen of a step. -/
inductive ReleaseEvent where
  /-- A section of a call: the fixed port that it binds, if there is one without an entry that no
  other process holds; whether a listener of the daemon on this port is still to be released; and
  the reply. -/
  | entered (port : Option UInt16) (unreleased : Bool) (reply : ForwardReply)
  | internal
deriving DecidableEq

namespace ReleaseSt

/-- No forwards and no listeners. -/
def new : ReleaseSt where
  mgr := ForwardingMgr.new
  env := ⟨[], [], []⟩
  releasing := []

/-- A listener of an aborted task is still open on the port. -/
def unreleased (s : ReleaseSt) (port : UInt16) : Bool :=
  s.releasing.any fun i => s.mgr.tasks[i]?.any fun task => decide (task.port = port)

/-- The ports that a bind finds taken although no entry has them. -/
def blocking (s : ReleaseSt) : Env :=
  { s.env with
    others := s.env.others ++ s.releasing.filterMap fun i => s.mgr.tasks[i]?.map ForwardTask.port }

/-- The fixed port that a section binds, if no other process holds it. -/
def binds (s : ReleaseSt) (cmd : ForwardCommand) (pick : Except PickDeviceError Connection) :
    Option UInt16 :=
  match cmd, pick with
  | .add (.tcp port) _ _, .ok _ =>
    if port ≠ 0 ∧ s.mgr.listeners.lookup (.tcp port) = none ∧ port ∉ s.env.others then some port
    else none
  | _, _ => none

/-- The tasks that a section dropped are aborted, and not released yet. -/
def update (s : ReleaseSt) (mgr : ForwardingMgr) : ReleaseSt :=
  { s with mgr, releasing := s.releasing ++ s.mgr.stopped mgr }

/-- One step: an aborted task keeps its listener until the runtime has dropped it. -/
def step (s : ReleaseSt) : ReleaseAct → Option (ReleaseSt × ReleaseEvent)
  | .clean => some (s.update (s.mgr.cleanForwards s.env), .internal)
  | .enter cmd pick fresh =>
    match s.mgr.enter s.blocking cmd pick fresh with
    | none => none
    | some (mgr, reply) =>
      some (s.update mgr,
        .entered (s.binds cmd pick) ((s.binds cmd pick).any s.unreleased) reply)
  -- the runtime drops an aborted task, and its listener with it
  | .release i =>
    if i ∈ s.releasing then some ({ s with releasing := s.releasing.filter (· ≠ i) }, .internal)
    else none
  | .finish i =>
    match s.mgr.tasks[i]? with
    | none => none
    | some task =>
      if task.finished then none else some ({ s with mgr := s.mgr.finish i }, .internal)
  | .close id => some ({ s with env.closed := id :: s.env.closed }, .internal)
  | .drop id => some ({ s with env.dropped := id :: s.env.dropped }, .internal)
  | .othersBind port =>
    if s.mgr.held s.blocking port then none
    else some ({ s with env.others := port :: s.env.others }, .internal)
  | .othersRelease port =>
    some ({ s with env.others := s.env.others.filter (· ≠ port) }, .internal)

end ReleaseSt

/-- The forwards, with the runtime that releases listeners in its own time. -/
def releaseMachine : Machine ReleaseSt ReleaseAct ReleaseEvent := ⟨ReleaseSt.step⟩

/-- The error of a bind to a port that is taken. -/
def addressInUse : ForwardReply := .failed ["bind", "Address already in use"]

/-- A section that binds a free port does not find it taken. -/
def ReleaseEvent.Binds : ReleaseEvent → Prop
  | .entered (some _) _ reply => reply ≠ addressInUse
  | _ => True

/-- When a section binds a free port, every listener that the daemon had on it is released. -/
def ReleaseEvent.Released : ReleaseEvent → Prop
  | .entered (some _) unreleased _ => unreleased = false
  | _ => True

instance : DecidablePred ReleaseEvent.Released
  | .entered (some _) unreleased _ => inferInstanceAs (Decidable (unreleased = false))
  | .entered none _ _ => .isTrue trivial
  | .internal => .isTrue trivial

/-! ## What a bind finds -/

namespace ReleaseSt

variable {s s' : ReleaseSt}

/-- A port is taken by others, or by a task of the table that was aborted and has not been dropped.
-/
theorem mem_blocking_others {port : UInt16} :
    port ∈ s.blocking.others ↔ port ∈ s.env.others ∨ s.unreleased port = true := by
  simp only [blocking, unreleased, List.mem_append, List.mem_filterMap, Option.map_eq_some_iff,
    List.any_eq_true, Option.any_eq_true, decide_eq_true_eq]

/-- What nobody holds with the listeners that are not released, nobody holds without them. -/
theorem not_held_of_blocking {port : UInt16} (h : s.mgr.held s.blocking port = false) :
    s.mgr.held s.env port = false := by
  simp only [ForwardingMgr.held, Bool.or_eq_false_iff, decide_eq_false_iff_not] at h ⊢
  exact ⟨fun hmem => h.1 (mem_blocking_others.mpr (.inl hmem)), h.2⟩

/-- A port without an entry that no other process holds is held only by a listener that is not
released: every task that runs has an entry. -/
theorem held_blocking (hlaw : s.mgr.Law s.env) {port : UInt16}
    (hentry : s.mgr.listeners.lookup (.tcp port) = none) (hothers : port ∉ s.env.others) :
    s.mgr.held s.blocking port = s.unreleased port := by
  have hrunning : (s.mgr.tasks.any fun task => decide (task.port = port) && !task.finished) =
      false := by
    rw [List.any_eq_false]
    intro task htask
    obtain ⟨i, hi⟩ := List.getElem?_of_mem htask
    rw [Bool.and_eq_true, decide_eq_true_eq, Bool.not_eq_true']
    rintro ⟨rfl, hrun⟩
    rw [hlaw.running i task hi hrun] at hentry
    cases hentry
  rw [ForwardingMgr.held, hrunning, Bool.or_false]
  refine Bool.eq_iff_iff.mpr ?_
  rw [decide_eq_true_eq, mem_blocking_others]
  exact or_iff_right hothers

/-- A section that binds a free port fails exactly when a listener on it is not released. -/
theorem enter_addressInUse_iff (hlaw : s.mgr.Law s.env) {cmd : ForwardCommand}
    {pick : Except PickDeviceError Connection} {fresh port : UInt16} {mgr : ForwardingMgr}
    {reply : ForwardReply} (hbinds : s.binds cmd pick = some port)
    (henter : s.mgr.enter s.blocking cmd pick fresh = some (mgr, reply)) :
    reply = addressInUse ↔ s.unreleased port = true := by
  unfold binds at hbinds
  split at hbinds
  · rename_i port' remote norebind conn
    obtain ⟨⟨hport, hentry, hothers⟩, hsome⟩ := Option.ite_none_right_eq_some.mp hbinds
    cases hsome
    rw [← held_blocking hlaw hentry hothers]
    simp only [ForwardingMgr.enter, ForwardingMgr.add, if_neg hport, hentry,
      ForwardingMgr.bind] at henter
    -- nobody else has the port, so it is held exactly by a listener that is not released
    by_cases hheld : s.mgr.held s.blocking port = true
    · simp only [if_pos hheld] at henter
      cases henter
      exact ⟨fun _ => hheld, fun _ => rfl⟩
    · simp only [if_neg hheld] at henter
      cases henter
      exact ⟨nofun, fun h => absurd h hheld⟩
  · cases hbinds

/-! ## Runs -/

/-- The tables keep their law: a section sees the ports that are not released as held by others. -/
theorem law_enter (hlaw : s.mgr.Law s.env) {cmd : ForwardCommand}
    {pick : Except PickDeviceError Connection} {fresh : UInt16} {mgr : ForwardingMgr}
    {reply : ForwardReply} (henter : s.mgr.enter s.blocking cmd pick fresh = some (mgr, reply)) :
    mgr.Law s.env := by
  rcases ForwardingMgr.enter_cases henter with
    rfl | ⟨i, target, rfl⟩ | ⟨bound, target, hne, hheld, rfl⟩ | ⟨proto, rfl⟩ | rfl
  · exact hlaw
  · exact hlaw.rebind i target
  · exact hlaw.insert hne (not_held_of_blocking hheld)
  · exact hlaw.remove proto
  · exact hlaw.retain

/-- One step: the law is kept, and a bind succeeds exactly when the port was released. -/
theorem step_spec {a : ReleaseAct} {e : ReleaseEvent} (hlaw : s.mgr.Law s.env)
    (h : releaseMachine.step s a = some (s', e)) :
    s'.mgr.Law s'.env ∧ (e.Binds ↔ e.Released) := by
  have hinternal : ReleaseEvent.internal.Binds ↔ ReleaseEvent.internal.Released := Iff.rfl
  simp only [releaseMachine] at h
  cases a with
  | clean =>
    cases h
    exact ⟨hlaw.retain, hinternal⟩
  | enter cmd pick fresh =>
    simp only [step] at h
    split at h
    · cases h
    rename_i mgr reply henter
    cases h
    refine ⟨law_enter hlaw henter, ?_⟩
    cases hbinds : s.binds cmd pick with
    | none => exact Iff.rfl
    | some port =>
      have hiff := enter_addressInUse_iff hlaw hbinds henter
      simp only [ReleaseEvent.Binds, ReleaseEvent.Released, Option.any_some, ne_eq, hiff,
        Bool.not_eq_true]
  | release i =>
    simp only [step, Option.ite_none_right_eq_some] at h
    obtain ⟨-, h⟩ := h
    cases h
    exact ⟨hlaw, hinternal⟩
  | finish i =>
    simp only [step] at h
    split at h
    · cases h
    · split at h
      · cases h
      · cases h
        exact ⟨hlaw.finish i, hinternal⟩
  | close id =>
    cases h
    exact ⟨hlaw.of_env fun _ _ _ _ hmem => hmem, hinternal⟩
  | drop id =>
    cases h
    exact ⟨hlaw.of_env fun _ _ _ _ hmem => hmem, hinternal⟩
  | othersBind port =>
    simp only [step, Option.ite_none_left_eq_some] at h
    obtain ⟨hheld, h⟩ := h
    cases h
    rw [Bool.not_eq_true] at hheld
    -- another program binds only what no task holds
    refine ⟨hlaw.of_env fun i task ht hrun hmem => ?_, hinternal⟩
    obtain heq | hmem := List.mem_cons.mp hmem
    · exact absurd heq (ForwardingMgr.port_ne_of_not_held hheld ht hrun)
    · exact hmem
  | othersRelease port =>
    cases h
    exact ⟨hlaw.of_env fun _ _ _ _ hmem => (List.mem_filter.mp hmem).1, hinternal⟩

end ReleaseSt

/-- In every run, no `Add` of a fixed port without an entry that no other process holds fails because
the address is in use, exactly when each of them comes after the release of the listeners that the
daemon had on the port. -/
theorem forward_released_port_iff {tr : List ReleaseEvent} {s : ReleaseSt}
    (hrun : releaseMachine.Run ReleaseSt.new tr s) :
    (∀ e ∈ tr, e.Binds) ↔ ∀ e ∈ tr, e.Released := by
  refine hrun.forall_iff (fun s => s.mgr.Law s.env) ReleaseEvent.Binds ReleaseEvent.Released
    ForwardingMgr.law_new ?_
  intro s a s' e hlaw hstep
  obtain ⟨hlaw', hiff⟩ := ReleaseSt.step_spec hlaw hstep
  exact ⟨hiff, fun _ => hlaw'⟩

/-- The section of an `Add` of `tcp:7100` for the connection with this id. -/
def addPort (id : Nat) : ReleaseAct :=
  .enter (.add (.tcp 7100) (.tcp 7200) false) (.ok (usbConnection id)) 0

/-- A forward, the disconnection of its device, and the first section of an `Add` for the next. -/
def reconnect : List ReleaseAct := [.clean, addPort 1, .close 1, .clean]

/-- The runtime comes first. -/
theorem forward_released_port_after :
    ∃ tr s, releaseMachine.Run ReleaseSt.new tr s ∧
      tr.getLast? = some (.entered (some 7100) false (.okay none)) ∧ ∀ e ∈ tr, e.Binds := by
  obtain ⟨s, tr, hrun, htest⟩ := Machine.exists_run_of_exec (M := releaseMachine)
    (s := ReleaseSt.new) (reconnect ++ [.release 0, addPort 2])
    (fun _ tr => decide (tr.getLast? = some (.entered (some 7100) false (.okay none))) &&
      tr.all fun e => decide e.Released) (by decide)
  rw [Bool.and_eq_true, decide_eq_true_eq, List.all_eq_true] at htest
  refine ⟨tr, s, hrun, htest.1, (forward_released_port_iff hrun).mpr fun e he => ?_⟩
  exact of_decide_eq_true (htest.2 e he)

/-- The `Add` comes first: the entry that its own `clean_forwards` removed still has the port. -/
theorem forward_unreleased_port :
    ¬ ∀ tr s, releaseMachine.Run ReleaseSt.new tr s → ∀ e ∈ tr, e.Binds := by
  intro h
  obtain ⟨s, tr, hrun, htest⟩ := Machine.exists_run_of_exec (M := releaseMachine)
    (s := ReleaseSt.new) (reconnect ++ [addPort 2])
    (fun _ tr => decide (.entered (some 7100) true addressInUse ∈ tr)) (by decide)
  exact h tr s hrun _ (of_decide_eq_true htest) rfl

end AdbDaemon.Forward
