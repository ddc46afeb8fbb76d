import Mathlib.Logic.Function.Basic
import AdbDaemon.Common.Machine
import AdbDaemon.Forward.Command
import AdbDaemon.SmartSocket.Devices

/-!
# Forwarded ports

Reference: `Forward`, `ForwardTask`, `forward_task` and `ForwardingMgr` of `src/forward.rs`.

A `forward_task` owns a listener and shares its target with the entry of the table. Tasks are kept in
`tasks` in the order in which they were spawned and named by their index; the table maps endpoints to
them. A task that is dropped from the table is aborted, and an aborted task releases its port at once.

A call of `handle_forward` that adds a forward is `clean_forwards`, a choice of the device, and the
critical section `add`.
-/

namespace AdbDaemon.Forward

open Common Connections SmartSocket

/-- What the calls cannot see in the table: the connections whose transport has failed, those that
are gone altogether, and the ports that other processes hold. -/
structure Env where
  closed : List Nat
  dropped : List Nat
  others : List UInt16

/-- `WeakConnection::upgrade`. -/
def Env.upgrade (env : Env) (conn : Connection) : Option Connection :=
  if conn.id ∈ env.dropped then none else some conn

/-- `WeakConnection::is_closed`. -/
def Env.isClosed (env : Env) (conn : Connection) : Bool :=
  match env.upgrade conn with
  | none => true
  | some conn => decide (conn.id ∈ env.closed)

/-- A connection is closed when its transport failed or nobody holds it any more. -/
theorem Env.isClosed_eq_true {env : Env} {conn : Connection} :
    env.isClosed conn = true ↔ conn.id ∈ env.dropped ∨ conn.id ∈ env.closed := by
  unfold isClosed upgrade
  by_cases hdropped : conn.id ∈ env.dropped
  · simp [hdropped]
  · simp [hdropped]

theorem Env.upgrade_of_open {env : Env} {conn : Connection} (h : env.isClosed conn = false) :
    env.upgrade conn = some conn := by
  rw [← Bool.not_eq_true, isClosed_eq_true, not_or] at h
  rw [upgrade, if_neg h.1]

/-- `Forward`, the target that a task and its entry share. -/
structure ForwardTarget where
  conn : Connection
  remote : Proto

/-- A task of the table: its port, its target, and whether it has ended. -/
structure ForwardTask where
  /-- The port of its listener. -/
  port : UInt16
  target : ForwardTarget
  finished : Bool

/-- `ForwardingMgr`: the entries by their local endpoint, and all tasks there have been. -/
structure ForwardingMgr where
  listeners : Table Proto Nat
  tasks : List ForwardTask

/-- The answer to a request: what `handle_forward` writes, or the error it returns. -/
inductive ForwardReply where
  /-- Not a request for a forward. -/
  | notHandled
  /-- Twice `OKAY`, and the port if it was allocated. -/
  | okay (allocated : Option UInt16)
  | listed (text : String)
  | failed (report : Report)
deriving DecidableEq

namespace ForwardingMgr

/-- `ForwardingMgr::new`, with no entry. -/
def new : ForwardingMgr where
  listeners := ∅
  tasks := []

/-- `ForwardTask::drop` of several tasks. -/
def abort (m : ForwardingMgr) (dropped : List Nat) : List ForwardTask :=
  m.tasks.mapIdx fun i task => if i ∈ dropped then { task with finished := true } else task

/-- `retain` on the table. -/
def retain (m : ForwardingMgr) (keep : Nat → Bool) : ForwardingMgr where
  listeners := Table.retain m.listeners fun _ i => keep i
  tasks := m.abort ((Table.values m.listeners).filter fun i => !keep i)

/-- The device of a task is connected, and the task runs. -/
def alive (m : ForwardingMgr) (env : Env) (i : Nat) : Bool :=
  match m.tasks[i]? with
  | none => false
  | some task => !env.isClosed task.target.conn && !task.finished

/-- `clean_forwards`: entries whose task or device has gone are dropped. -/
def cleanForwards (m : ForwardingMgr) (env : Env) : ForwardingMgr := m.retain (m.alive env)

/-- Somebody listens on the port. -/
def held (m : ForwardingMgr) (env : Env) (port : UInt16) : Bool :=
  decide (port ∈ env.others) || m.tasks.any fun task => decide (task.port = port) && !task.finished

/-- `TcpListener::bind` and `local_addr`: the port that is bound. For port 0 the system chooses
`fresh`, which nobody holds; `none` if it could not choose that one. -/
def bind (m : ForwardingMgr) (env : Env) (port fresh : UInt16) : Option (Except Report UInt16) :=
  if port = 0 then if fresh = 0 ∨ m.held env fresh then none else some (.ok fresh)
  else if m.held env port then some (.error ["bind", "Address already in use"])
  else some (.ok port)

/-- `*forward.target.write() = target`. -/
def rebind (m : ForwardingMgr) (i : Nat) (target : ForwardTarget) : ForwardingMgr :=
  { m with tasks := m.tasks.modify i fun task => { task with target } }

/-- Spawn a `forward_task` and enter it; an entry of that port would be dropped. -/
def insert (m : ForwardingMgr) (port : UInt16) (target : ForwardTarget) : ForwardingMgr where
  listeners := m.listeners.insert (.tcp port) m.tasks.length
  tasks := m.abort (m.listeners.lookup (.tcp port)).toList ++ [⟨port, target, false⟩]

/-- The critical section of `ForwardCommand::Add`. -/
def add (m : ForwardingMgr) (env : Env) (port fresh : UInt16) (target : ForwardTarget) (norebind : Bool) :
    Option (ForwardingMgr × ForwardReply) :=
  match if port = 0 then none else m.listeners.lookup (.tcp port) with
  | some i =>
    if norebind then some (m, .failed ["already bound"]) else some (m.rebind i target, .okay none)
  | none =>
    match m.bind env port fresh with
    | none => none
    | some (.error report) => some (m, .failed report)
    | some (.ok bound) =>
      some (m.insert bound target, .okay (if port = 0 then some bound else none))

/-- `Remove`: the entry goes, and its task is aborted. -/
def remove (m : ForwardingMgr) (proto : Proto) : ForwardingMgr where
  listeners := m.listeners.erase proto
  tasks := m.abort (m.listeners.lookup proto).toList

/-- The line of `list-forward` for one entry. -/
def record (m : ForwardingMgr) (env : Env) (proto : Proto) (i : Nat) : String :=
  match m.tasks[i]? with
  | none => ""
  | some task =>
    let serial :=
      match env.upgrade task.target.conn with
      | some conn => conn.serial
      | none => "disconnected"
    serial ++ " " ++ proto.toString ++ " " ++ task.target.remote.toString ++ "\n"

/-- `list-forward`: a line for each entry, in the order of the iteration. -/
def list (m : ForwardingMgr) (env : Env) : String :=
  m.listeners.entries.foldl (fun s e => s ++ m.record env e.1 e.2) ""

/-- `handle_forward` on a command. `pick` is what `pick_connection` returns, and `fresh` the port that
the system chooses. -/
def handleCommand (m : ForwardingMgr) (env : Env) (cmd : ForwardCommand)
    (pick : Except PickDeviceError Connection) (fresh : UInt16) :
    Option (ForwardingMgr × ForwardReply) :=
  match cmd with
  | .add left right norebind =>
    let m := m.cleanForwards env
    match left with
    | .other s => some (m, .failed ["unsupported protocol: " ++ s])
    | .tcp port =>
      match pick with
      | .error err => some (m, .failed [err.toString])
      | .ok conn => m.add env port fresh ⟨conn, right⟩ norebind
  | .remove proto => some ((m.cleanForwards env).remove proto, .okay none)
  | .removeAll => some (m.retain fun _ => false, .okay none)
  | .list =>
    let m := m.cleanForwards env
    some (m, .listed (m.list env))

/-- `handle_forward` as a whole, for a text that may be no forward command. -/
def handleForward (m : ForwardingMgr) (env : Env) (service : String)
    (pick : Except PickDeviceError Connection) (fresh : UInt16) :
    Option (ForwardingMgr × ForwardReply) :=
  match ForwardCommand.parse service with
  | .error report => some (m, .failed report)
  | .ok none => some (m, .notHandled)
  | .ok (some cmd) => m.handleCommand env cmd pick fresh

/-- A task ends. -/
def finish (m : ForwardingMgr) (i : Nat) : ForwardingMgr :=
  { m with tasks := m.tasks.modify i fun task => { task with finished := true } }

/-! ## Live entries -/

/-- The live entry of a port: its task and where that forwards to. -/
def live (m : ForwardingMgr) (env : Env) (port : UInt16) : Option (Nat × ForwardTarget) :=
  (m.listeners.lookup (.tcp port)).bind fun i =>
    m.tasks[i]?.bind fun task =>
      if !env.isClosed task.target.conn && !task.finished then some (i, task.target) else none

variable {m : ForwardingMgr} {env : Env}

/-- A port is forwarded if its entry has a running task and an open connection. -/
theorem live_eq_some {port : UInt16} {i : Nat} {target : ForwardTarget} :
    m.live env port = some (i, target) ↔
      m.listeners.lookup (.tcp port) = some i ∧
        ∃ task, m.tasks[i]? = some task ∧ task.target = target ∧
          env.isClosed task.target.conn = false ∧ task.finished = false := by
  unfold live
  simp only [Option.bind_eq_some_iff, Option.ite_none_right_eq_some, Bool.and_eq_true,
    Bool.not_eq_true', Option.some.injEq, Prod.mk.injEq]
  constructor
  · rintro ⟨j, hk, task, ht, halive, rfl, rfl⟩
    exact ⟨hk, task, ht, rfl, halive⟩
  · rintro ⟨hk, task, ht, rfl, halive⟩
    exact ⟨i, hk, task, ht, halive, rfl, rfl⟩

/-- The test of the cleaning, for a task that exists. -/
theorem alive_eq_true {i : Nat} :
    m.alive env i = true ↔
      ∃ task, m.tasks[i]? = some task ∧ env.isClosed task.target.conn = false ∧
        task.finished = false := by
  unfold alive
  cases ht : m.tasks[i]? with
  | none => simp
  | some task => simp

/-- An abort ends the tasks in the list. -/
theorem getElem?_abort {dropped : List Nat} {i : Nat} :
    (m.abort dropped)[i]? = m.tasks[i]?.map fun task =>
      if i ∈ dropped then { task with finished := true } else task := by
  simp [abort]

/-- Every entry is that of a port other than 0, whose task listens on it; every task that runs is in
the table under its port; and it shares its port with no other process. -/
structure Law (m : ForwardingMgr) (env : Env) : Prop where
  keys : ∀ (k : Proto) (i : Nat), m.listeners.lookup k = some i →
    ∃ port task, k = .tcp port ∧ port ≠ 0 ∧ m.tasks[i]? = some task ∧ task.port = port
  running : ∀ (i : Nat) (task : ForwardTask), m.tasks[i]? = some task → task.finished = false →
    m.listeners.lookup (.tcp task.port) = some i
  others : ∀ (i : Nat) (task : ForwardTask), m.tasks[i]? = some task → task.finished = false →
    task.port ∉ env.others

/-- A task that is not aborted is as it was. -/
theorem of_abort {dropped : List Nat} {i : Nat} {task : ForwardTask}
    (h : (m.abort dropped)[i]? = some task) (hrun : task.finished = false) :
    m.tasks[i]? = some task ∧ i ∉ dropped := by
  rw [getElem?_abort, Option.map_eq_some_iff] at h
  obtain ⟨task', ht, heq⟩ := h
  split at heq
  · rw [← heq] at hrun
    simp at hrun
  · rename_i hnot
    exact ⟨heq ▸ ht, hnot⟩

theorem getElem?_abort_of_notMem {dropped : List Nat} {i : Nat} (h : i ∉ dropped) :
    (m.abort dropped)[i]? = m.tasks[i]? := by
  rw [getElem?_abort]
  simp [h]

/-- An entry still has a task of its port. -/
theorem exists_abort {dropped : List Nat} {i : Nat} {task : ForwardTask}
    (h : m.tasks[i]? = some task) :
    ∃ task', (m.abort dropped)[i]? = some task' ∧ task'.port = task.port := by
  rw [getElem?_abort, h]
  refine ⟨_, rfl, ?_⟩
  split <;> rfl

/-! ### `retain` and `clean_forwards` -/

section Retain

variable {keep : Nat → Bool}

theorem lookup_retain {k : Proto} {i : Nat} :
    (m.retain keep).listeners.lookup k = some i ↔
      m.listeners.lookup k = some i ∧ keep i = true :=
  Table.lookup_retain_eq_some

/-- The tasks that are aborted are those of the entries that go. -/
theorem mem_dropped {i : Nat} :
    i ∈ (Table.values m.listeners).filter (fun i => !keep i) ↔
      (∃ k, m.listeners.lookup k = some i) ∧ keep i = false := by
  rw [List.mem_filter, Table.mem_values, Bool.not_eq_true']

/-- The law holds of what a cleaning keeps. -/
theorem Law.retain (h : m.Law env) : (m.retain keep).Law env where
  keys k i hk := by
    obtain ⟨hk, -⟩ := lookup_retain.mp hk
    obtain ⟨port, task, rfl, hne, ht, hport⟩ := h.keys k i hk
    obtain ⟨task', ht', hport'⟩ := exists_abort ht
    exact ⟨port, task', rfl, hne, ht', hport'.trans hport⟩
  running i task ht hrun := by
    obtain ⟨ht, hnot⟩ := of_abort ht hrun
    have hk := h.running i task ht hrun
    refine lookup_retain.mpr ⟨hk, ?_⟩
    by_contra hkeep
    exact hnot (mem_dropped.mpr ⟨⟨_, hk⟩, by simpa using hkeep⟩)
  others i task ht hrun := h.others i task (of_abort ht hrun).1 hrun

/-- A task that is kept is not touched. -/
theorem getElem?_retain {i : Nat} (hkeep : keep i = true) :
    (m.retain keep).tasks[i]? = m.tasks[i]? := by
  refine getElem?_abort_of_notMem fun hmem => ?_
  simp [(mem_dropped.mp hmem).2] at hkeep

/-- A port stays forwarded if its entry is kept. -/
theorem live_retain {port : UInt16} :
    (m.retain keep).live env port = (m.live env port).filter fun p => keep p.1 := by
  ext ⟨i, target⟩
  rw [live_eq_some, Option.filter_eq_some_iff, live_eq_some, lookup_retain]
  constructor
  · rintro ⟨⟨hk, hkeep⟩, task, ht, htarget⟩
    rw [getElem?_retain hkeep] at ht
    exact ⟨⟨hk, task, ht, htarget⟩, hkeep⟩
  · rintro ⟨⟨hk, task, ht, htarget⟩, hkeep⟩
    refine ⟨⟨hk, hkeep⟩, task, ?_, htarget⟩
    rw [getElem?_retain hkeep]
    exact ht

end Retain

/-- Cleaning keeps every live entry. -/
theorem live_cleanForwards : (m.cleanForwards env).live env = m.live env := by
  funext port
  rw [cleanForwards, live_retain]
  cases hlive : m.live env port with
  | none => rfl
  | some p =>
    obtain ⟨-, task, ht, -, halive⟩ := live_eq_some.mp hlive
    exact Option.filter_some_pos (alive_eq_true.mpr ⟨task, ht, halive⟩)

/-- The entries that are left are live. -/
theorem lookup_cleanForwards {port : UInt16} {i : Nat}
    (h : (m.cleanForwards env).listeners.lookup (.tcp port) = some i) :
    ∃ target, (m.cleanForwards env).live env port = some (i, target) := by
  obtain ⟨-, hkeep⟩ := lookup_retain.mp h
  obtain ⟨task, ht, halive⟩ := alive_eq_true.mp hkeep
  refine ⟨task.target, live_eq_some.mpr ⟨h, task, ?_, rfl, halive⟩⟩
  rw [cleanForwards, getElem?_retain hkeep]
  exact ht

/-! ### The other operations -/

/-- The entry of a target, if its device is connected. -/
def entry (env : Env) (i : Nat) (target : ForwardTarget) : Option (Nat × ForwardTarget) :=
  if env.isClosed target.conn then none else some (i, target)

theorem entry_eq_some {i j : Nat} {target target' : ForwardTarget} :
    entry env i target = some (j, target') ↔
      env.isClosed target.conn = false ∧ i = j ∧ target = target' := by
  simp [entry]

/-- A removal aborts the task of its entry, so no running task is left without one. -/
theorem Law.remove (h : m.Law env) (proto : Proto) : (m.remove proto).Law env where
  keys k i hk := by
    obtain ⟨-, hk⟩ := Table.lookup_erase_eq_some.mp hk
    obtain ⟨port, task, rfl, hne, ht, hport⟩ := h.keys k i hk
    obtain ⟨task', ht', hport'⟩ := exists_abort ht
    exact ⟨port, task', rfl, hne, ht', hport'.trans hport⟩
  running i task ht hrun := by
    obtain ⟨ht, hnot⟩ := of_abort ht hrun
    have hk := h.running i task ht hrun
    refine Table.lookup_erase_eq_some.mpr ⟨?_, hk⟩
    rintro rfl
    exact hnot (by simp [hk])
  others i task ht hrun := h.others i task (of_abort ht hrun).1 hrun

/-- The entries of two ports have different tasks. -/
theorem Law.port_unique (h : m.Law env) {k k' : Proto} {i : Nat}
    (hk : m.listeners.lookup k = some i) (hk' : m.listeners.lookup k' = some i) : k = k' := by
  obtain ⟨port, task, rfl, -, ht, hport⟩ := h.keys k i hk
  obtain ⟨port', task', rfl, -, ht', hport'⟩ := h.keys k' i hk'
  obtain rfl : task = task' := Option.some.inj (ht.symm.trans ht')
  rw [← hport, ← hport']

/-- A removal ends the forward of this port and no other. -/
theorem live_remove (h : m.Law env) (proto : Proto) (port : UInt16) :
    (m.remove proto).live env port = if proto = .tcp port then none else m.live env port := by
  split
  · rename_i heq
    simp [live, ForwardingMgr.remove, heq, AList.lookup_erase]
  · rename_i hne
    have hlookup : (m.remove proto).listeners.lookup (.tcp port) = m.listeners.lookup (.tcp port) :=
      AList.lookup_erase_ne (Ne.symm hne)
    ext ⟨i, target⟩
    rw [live_eq_some, live_eq_some, hlookup]
    refine and_congr_right fun hk => ?_
    have htask : (m.remove proto).tasks[i]? = m.tasks[i]? := by
      refine getElem?_abort_of_notMem fun hmem => hne ?_
      exact h.port_unique (Option.mem_toList.mp hmem) hk
    rw [htask]

theorem getElem?_rebind {i j : Nat} {target : ForwardTarget} :
    (m.rebind i target).tasks[j]? =
      m.tasks[j]?.map fun task => if i = j then { task with target } else task := by
  simp only [rebind, List.getElem?_modify]
  split <;> simp

/-- Only the target of a task changes. -/
theorem of_rebind {i j : Nat} {target : ForwardTarget} {task : ForwardTask}
    (h : (m.rebind i target).tasks[j]? = some task) :
    ∃ old, m.tasks[j]? = some old ∧ task.port = old.port ∧ task.finished = old.finished ∧
      task.target = if i = j then target else old.target := by
  rw [getElem?_rebind, Option.map_eq_some_iff] at h
  obtain ⟨old, ht, rfl⟩ := h
  exact ⟨old, ht, by split <;> rfl, by split <;> rfl, by split <;> rfl⟩

theorem Law.rebind (h : m.Law env) (i : Nat) (target : ForwardTarget) :
    (m.rebind i target).Law env where
  keys k j hk := by
    obtain ⟨port, task, rfl, hne, ht, hport⟩ := h.keys k j hk
    refine ⟨port, _, rfl, hne, by rw [getElem?_rebind, ht]; rfl, ?_⟩
    split <;> exact hport
  running j task ht hrun := by
    obtain ⟨old, hold, hport, hfin, -⟩ := of_rebind ht
    rw [hport]
    exact h.running j old hold (hfin ▸ hrun)
  others j task ht hrun := by
    obtain ⟨old, hold, hport, hfin, -⟩ := of_rebind ht
    rw [hport]
    exact h.others j old hold (hfin ▸ hrun)

/-- Rebinding a live entry replaces its target, and no other port sees it. -/
theorem live_rebind (h : m.Law env) {port : UInt16} {i : Nat} {old target : ForwardTarget}
    (hlive : m.live env port = some (i, old)) :
    (m.rebind i target).live env = Function.update (m.live env) port (entry env i target) := by
  obtain ⟨hk, task, ht, -, -, hrun⟩ := live_eq_some.mp hlive
  funext port'
  ext ⟨j, target'⟩
  by_cases heq : port' = port
  · subst heq
    rw [Function.update_self, live_eq_some, entry_eq_some]
    constructor
    · rintro ⟨hk', task', ht', rfl, hopen, -⟩
      obtain rfl : i = j := Option.some.inj (hk.symm.trans hk')
      obtain ⟨_, _, _, _, htarget⟩ := of_rebind ht'
      rw [if_pos rfl] at htarget
      exact ⟨htarget ▸ hopen, rfl, htarget.symm⟩
    · rintro ⟨hopen, rfl, rfl⟩
      exact ⟨hk, { task with target }, by simp [getElem?_rebind, ht], rfl, hopen, hrun⟩
  · rw [Function.update_of_ne heq, live_eq_some, live_eq_some]
    refine and_congr_right fun hk' => ?_
    have hne : i ≠ j := by
      rintro rfl
      exact heq (Proto.tcp.inj (h.port_unique hk' hk))
    have htask : (m.rebind i target).tasks[j]? = m.tasks[j]? := by simp [getElem?_rebind, hne]
    rw [htask]

theorem abort_nil : m.abort [] = m.tasks := by
  refine List.ext_getElem? fun i => ?_
  simp [getElem?_abort]

theorem insert_eq {port : UInt16} {target : ForwardTarget}
    (hk : m.listeners.lookup (.tcp port) = none) :
    m.insert port target =
      ⟨m.listeners.insert (.tcp port) m.tasks.length, m.tasks ++ [⟨port, target, false⟩]⟩ := by
  simp [insert, hk, abort_nil]

/-- A port that is not held is not held by others. -/
theorem not_mem_others {port : UInt16} (hheld : m.held env port = false) : port ∉ env.others := by
  simp only [held, Bool.or_eq_false_iff, decide_eq_false_iff_not] at hheld
  exact hheld.1

/-- No task that runs listens on a port that nobody holds. -/
theorem port_ne_of_not_held {port : UInt16} (hheld : m.held env port = false) {i : Nat}
    {task : ForwardTask} (ht : m.tasks[i]? = some task) (hrun : task.finished = false) :
    task.port ≠ port := by
  rintro rfl
  simp only [held, Bool.or_eq_false_iff, List.any_eq_false] at hheld
  exact absurd (hheld.2 task (List.mem_of_getElem? ht)) (by simp [hrun])

/-- The tasks after a spawn: those that were there, one of them aborted, and the new one. -/
theorem of_insert {port : UInt16} {target : ForwardTarget} {i : Nat} {task : ForwardTask}
    (h : (m.insert port target).tasks[i]? = some task) :
    (m.abort (m.listeners.lookup (.tcp port)).toList)[i]? = some task ∨
      i = m.tasks.length ∧ task = ⟨port, target, false⟩ := by
  simp only [insert] at h
  rw [List.getElem?_append] at h
  split at h
  · exact .inl h
  · rename_i hlt
    obtain ⟨hlen, heq⟩ := List.getElem?_eq_some_iff.mp h
    simp only [List.length_singleton] at hlen
    simp only [abort, List.length_mapIdx] at hlen hlt
    exact .inr ⟨by omega, by simpa using heq.symm⟩

/-- An insertion keeps the tasks but the one whose entry it replaces. -/
theorem getElem?_insert {port : UInt16} {target : ForwardTarget} {i : Nat} {task : ForwardTask}
    (h : m.tasks[i]? = some task) :
    (m.insert port target).tasks[i]? =
      (m.abort (m.listeners.lookup (.tcp port)).toList)[i]? := by
  refine List.getElem?_append_left ?_
  simpa [abort] using (List.getElem?_eq_some_iff.mp h).1

/-- The new task is the last one. -/
theorem getElem?_insert_length {port : UInt16} {target : ForwardTarget} :
    (m.insert port target).tasks[m.tasks.length]? = some ⟨port, target, false⟩ := by
  simp [insert, abort]

/-- A port that nobody holds may still have an entry, of a task that has ended. -/
theorem Law.insert (h : m.Law env) {port : UInt16} {target : ForwardTarget} (hne : port ≠ 0)
    (hheld : m.held env port = false) : (m.insert port target).Law env := by
  constructor
  · intro k i hk
    rcases Table.lookup_insert_eq_some.mp hk with ⟨rfl, rfl⟩ | ⟨-, hold⟩
    · exact ⟨port, _, rfl, hne, getElem?_insert_length, rfl⟩
    · obtain ⟨port', task, rfl, hne', ht, hport⟩ := h.keys k i hold
      obtain ⟨task', ht', hport'⟩ := exists_abort ht
      exact ⟨port', task', rfl, hne', (getElem?_insert ht).trans ht', hport'.trans hport⟩
  · intro i task ht hrun
    rcases of_insert ht with hold | ⟨rfl, rfl⟩
    · obtain ⟨hold, -⟩ := of_abort hold hrun
      have hport := port_ne_of_not_held hheld hold hrun
      exact Table.lookup_insert_eq_some.mpr
        (.inr ⟨fun heq => hport (Proto.tcp.inj heq), h.running i task hold hrun⟩)
    · exact AList.lookup_insert _
  · intro i task ht hrun
    rcases of_insert ht with hold | ⟨rfl, rfl⟩
    · exact h.others i task (of_abort hold hrun).1 hrun
    · exact not_mem_others hheld

/-- After an insertion the port is forwarded to its target. -/
theorem live_insert (h : m.Law env) {port : UInt16} {target : ForwardTarget}
    (hk : m.listeners.lookup (.tcp port) = none) :
    (m.insert port target).live env =
      Function.update (m.live env) port (entry env m.tasks.length target) := by
  rw [insert_eq hk]
  funext port'
  ext ⟨j, target'⟩
  by_cases heq : port' = port
  · subst heq
    rw [Function.update_self, live_eq_some, entry_eq_some, AList.lookup_insert]
    constructor
    · rintro ⟨⟨⟩, task, ht, rfl, hopen, -⟩
      obtain rfl : (⟨port', target, false⟩ : ForwardTask) = task := by simpa using ht
      exact ⟨hopen, rfl, rfl⟩
    · rintro ⟨hopen, rfl, rfl⟩
      exact ⟨rfl, ⟨port', target, false⟩, by simp, rfl, hopen, rfl⟩
  · rw [Function.update_of_ne heq, live_eq_some, live_eq_some, AList.lookup_insert_ne (by simp [heq])]
    refine and_congr_right fun hk' => ?_
    obtain ⟨_, _, -, -, ht, -⟩ := h.keys _ j hk'
    rw [List.getElem?_append_left (List.getElem?_eq_some_iff.mp ht).1]

/-- What the critical section of `Add` can do. -/
inductive AddCases (m : ForwardingMgr) (env : Env) (port : UInt16) (target : ForwardTarget)
    (norebind : Bool) : ForwardingMgr → ForwardReply → Prop
  /-- The port has an entry, which gets the target. -/
  | rebind {i : Nat} (hport : port ≠ 0) (hk : m.listeners.lookup (.tcp port) = some i)
      (hno : norebind = false) :
      AddCases m env port target norebind (m.rebind i target) (.okay none)
  | norebind {i : Nat} (hport : port ≠ 0) (hk : m.listeners.lookup (.tcp port) = some i)
      (hno : norebind = true) :
      AddCases m env port target norebind m (.failed ["already bound"])
  /-- The port has no entry, and somebody holds it. -/
  | occupied (hport : port ≠ 0) (hk : m.listeners.lookup (.tcp port) = none)
      (hheld : m.held env port = true) :
      AddCases m env port target norebind m (.failed ["bind", "Address already in use"])
  /-- A task is spawned on a port that nobody holds. -/
  | insert {bound : UInt16} (hbound : bound ≠ 0) (hheld : m.held env bound = false)
      (hfixed : port ≠ 0 → bound = port ∧ m.listeners.lookup (.tcp port) = none) :
      AddCases m env port target norebind (m.insert bound target)
        (.okay (if port = 0 then some bound else none))

/-- The ways in which an `Add` can end, in the order of the code. -/
theorem add_cases {m' : ForwardingMgr} {port fresh : UInt16} {target : ForwardTarget}
    {norebind : Bool} {reply : ForwardReply}
    (hadd : m.add env port fresh target norebind = some (m', reply)) :
    AddCases m env port target norebind m' reply := by
  unfold add at hadd
  split at hadd
  · -- the port has an entry
    rename_i i hk
    rw [Option.ite_none_left_eq_some] at hk
    split at hadd
    · rename_i hno
      cases hadd
      exact .norebind hk.1 hk.2 hno
    · rename_i hno
      cases hadd
      exact .rebind hk.1 hk.2 (by simpa using hno)
  · rename_i hk
    unfold bind at hadd
    by_cases hport : port = 0
    · -- the system chooses
      simp only [if_pos hport] at hadd
      by_cases hfresh : fresh = 0 ∨ m.held env fresh = true
      · rw [if_pos hfresh] at hadd
        cases hadd
      · rw [if_neg hfresh] at hadd
        cases hadd
        rw [not_or, Bool.not_eq_true] at hfresh
        have hinsert : AddCases m env port target norebind (m.insert fresh target)
            (.okay (if port = 0 then some fresh else none)) :=
          .insert hfresh.1 hfresh.2 fun hne => absurd hport hne
        rwa [if_pos hport] at hinsert
    · rw [if_neg hport] at hk
      simp only [if_neg hport] at hadd
      by_cases hheld : m.held env port = true
      · rw [if_pos hheld] at hadd
        cases hadd
        exact .occupied hport hk hheld
      · rw [if_neg hheld] at hadd
        cases hadd
        rw [Bool.not_eq_true] at hheld
        -- a fixed port is bound as it is, and is not reported back
        have hinsert : AddCases m env port target norebind (m.insert port target)
            (.okay (if port = 0 then some port else none)) :=
          .insert hport hheld fun _ => ⟨rfl, hk⟩
        rwa [if_neg hport] at hinsert

/-- A task that returns ends, and no other. -/
theorem getElem?_finish {i j : Nat} :
    (m.finish i).tasks[j]? =
      m.tasks[j]?.map fun task => if i = j then { task with finished := true } else task := by
  simp only [finish, List.getElem?_modify]
  split <;> simp

/-- A task that runs is not the one that ended. -/
theorem of_finish {i j : Nat} {task : ForwardTask} (h : (m.finish i).tasks[j]? = some task)
    (hrun : task.finished = false) : m.tasks[j]? = some task ∧ i ≠ j := by
  rw [getElem?_finish, Option.map_eq_some_iff] at h
  obtain ⟨old, ht, heq⟩ := h
  split at heq
  · rw [← heq] at hrun
    simp at hrun
  · rename_i hne
    exact ⟨heq ▸ ht, hne⟩

/-- The law holds after a task has returned. -/
theorem Law.finish (h : m.Law env) (i : Nat) : (m.finish i).Law env where
  keys k j hk := by
    obtain ⟨port, task, rfl, hne, ht, hport⟩ := h.keys k j hk
    refine ⟨port, _, rfl, hne, by rw [getElem?_finish, ht]; rfl, ?_⟩
    split <;> exact hport
  running j task ht hrun := h.running j task (of_finish ht hrun).1 hrun
  others j task ht hrun := h.others j task (of_finish ht hrun).1 hrun

/-- A port is not forwarded any more when its task has returned. -/
theorem live_finish {i : Nat} {port : UInt16} :
    (m.finish i).live env port = (m.live env port).filter fun p => decide (i ≠ p.1) := by
  ext ⟨j, target⟩
  rw [live_eq_some, Option.filter_eq_some_iff, live_eq_some, decide_eq_true_iff, and_assoc]
  refine and_congr_right fun _ => ?_
  constructor
  · rintro ⟨task, ht, htarget, hopen, hrun⟩
    obtain ⟨ht, hne⟩ := of_finish ht hrun
    exact ⟨⟨task, ht, htarget, hopen, hrun⟩, hne⟩
  · rintro ⟨⟨task, ht, htarget⟩, hne⟩
    exact ⟨task, by simp [getElem?_finish, ht, hne], htarget⟩

/-- The law survives changes around the table that take no port from a running task. -/
theorem Law.of_env {env' : Env} (h : m.Law env)
    (hothers : ∀ (i : Nat) (task : ForwardTask), m.tasks[i]? = some task → task.finished = false →
      task.port ∈ env'.others → task.port ∈ env.others) : m.Law env' where
  keys := h.keys
  running := h.running
  others i task ht hrun hmem := h.others i task ht hrun (hothers i task ht hrun hmem)

/-- When devices are disconnected, their entries are no longer live. -/
theorem live_env {env' : Env} {port : UInt16}
    (hclosed : ∀ c, env.isClosed c = true → env'.isClosed c = true) :
    m.live env' port = (m.live env port).filter fun p => !env'.isClosed p.2.conn := by
  ext ⟨j, target⟩
  rw [live_eq_some, Option.filter_eq_some_iff, live_eq_some, Bool.not_eq_true']
  constructor
  · rintro ⟨hk, task, ht, rfl, hopen, hrun⟩
    refine ⟨⟨hk, task, ht, rfl, ?_, hrun⟩, hopen⟩
    by_contra hcl
    simp [hclosed _ (by simpa using hcl)] at hopen
  · rintro ⟨⟨hk, task, ht, rfl, -, hrun⟩, hopen⟩
    exact ⟨hk, task, ht, rfl, hopen, hrun⟩

end ForwardingMgr

end AdbDaemon.Forward
