import AdbDaemon.Forward.Table

/-!
# The forward table is a map from ports to targets

Reference: `forward_task` and `ForwardingMgr::handle_forward` of `src/forward.rs`.

`forwardMachine` runs whole calls of `handle_forward`, one after the other, between the steps of the
tasks and of the world: devices disconnect, connections arrive, other processes take and release
ports. What it means is `PortMap`: from ports to a task that listens and the target it forwards to.
Dead entries, those whose device is disconnected or whose task has ended, do not show in it;
`PortMapRun` says what the commands do to it, and the table does just that (`forward_table_refines`).
-/

namespace AdbDaemon.Forward

open Common Connections SmartSocket

/-! ## The machine -/

/-- The table of forwards and the system around it. -/
structure ForwardSt where
  mgr : ForwardingMgr
  env : Env

/-- A call, or a step of a task, a connection or another process. -/
inductive ForwardAct where
  | call (service : String) (pick : Except PickDeviceError Connection) (fresh : UInt16)
  /-- The transport of a connection fails. -/
  | close (id : Nat)
  /-- The last reference to a connection goes away. -/
  | drop (id : Nat)
  /-- A task accepts a connection. -/
  | accept (i : Nat)
  | acceptFails (i : Nat)
  | othersBind (port : UInt16)
  | othersRelease (port : UInt16)

/-- A call with its reply, a connection that was forwarded, or a change of the system. -/
inductive ForwardEvent where
  | called (service : String) (pick : Except PickDeviceError Connection) (reply : ForwardReply)
  /-- `open_socket` for a connection accepted on this port. -/
  | opening (port : UInt16) (target : ForwardTarget)
  | disconnected
  | ended (i : Nat)
  | internal

def ForwardEvent.reply? : ForwardEvent → Option ForwardReply
  | .called _ _ reply => some reply
  | _ => none

namespace ForwardSt

/-- No forwards, and nobody else on any port. -/
def new : ForwardSt where
  mgr := ForwardingMgr.new
  env := ⟨[], [], []⟩

/-- One round of the loop of `forward_task`, for a connection that it accepted. -/
def accept (s : ForwardSt) (i : Nat) : Option (ForwardSt × ForwardEvent) :=
  match s.mgr.tasks[i]? with
  | none => none
  | some task =>
    if task.finished then none
    else
      match s.env.upgrade task.target.conn with
      | none => some ({ s with mgr := s.mgr.finish i }, .ended i)
      | some conn =>
        -- `open_socket` of a failed transport returns an error, and the loop goes on
        if conn.id ∈ s.env.closed then some (s, .internal)
        else some (s, .opening task.port task.target)

/-- One call as a whole, or one step of the rest. -/
def step (s : ForwardSt) : ForwardAct → Option (ForwardSt × ForwardEvent)
  | .call service pick fresh =>
    match s.mgr.handleForward s.env service pick fresh with
    | none => none
    | some (mgr, reply) => some ({ s with mgr }, .called service pick reply)
  | .close id => some ({ s with env.closed := id :: s.env.closed }, .disconnected)
  | .drop id => some ({ s with env.dropped := id :: s.env.dropped }, .disconnected)
  | .accept i => s.accept i
  | .acceptFails i =>
    match s.mgr.tasks[i]? with
    | none => none
    | some task =>
      if task.finished then none else some ({ s with mgr := s.mgr.finish i }, .ended i)
  | .othersBind port =>
    if s.mgr.held s.env port then none
    else some ({ s with env.others := port :: s.env.others }, .internal)
  | .othersRelease port =>
    some ({ s with env.others := s.env.others.filter (· ≠ port) }, .internal)

end ForwardSt

/-- The forwards, with calls that do not overlap. -/
def forwardMachine : Machine ForwardSt ForwardAct ForwardEvent := ⟨ForwardSt.step⟩

/-! ## The map -/

/-- The ports that are forwarded: the task that listens on each, and the target. -/
abbrev PortMap := UInt16 → Option (Nat × ForwardTarget)

/-- The line of `list-forward` for one port. -/
def PortMap.record (M : PortMap) (port : UInt16) : String :=
  match M port with
  | none => ""
  | some (_, target) =>
    target.conn.serial ++ " " ++ (Proto.tcp port).toString ++ " " ++ target.remote.toString ++ "\n"

/-- A task that no port has. -/
def PortMap.New (M : PortMap) (i : Nat) : Prop := ∀ port j target, M port = some (j, target) → j ≠ i

/-- What a command does to the map from ports to targets, and its reply. Where the system chooses a
port, or the device was picked before, both are arguments. -/
inductive CallSpec (env : Env) (M : PortMap) :
    ForwardCommand → Except PickDeviceError Connection → PortMap → ForwardReply → Prop
  /-- A port that is forwarded gets a new target and keeps its task. -/
  | rebind {port : UInt16} {i : Nat} {old : ForwardTarget} {conn : Connection} {remote : Proto}
      (hport : port ≠ 0) (hM : M port = some (i, old)) :
      CallSpec env M (.add (.tcp port) remote false) (.ok conn)
        (Function.update M port (ForwardingMgr.entry env i ⟨conn, remote⟩)) (.okay none)
  | norebind {port : UInt16} {i : Nat} {old : ForwardTarget} {conn : Connection} {remote : Proto}
      (hport : port ≠ 0) (hM : M port = some (i, old)) :
      CallSpec env M (.add (.tcp port) remote true) (.ok conn) M (.failed ["already bound"])
  | create {port : UInt16} {i : Nat} {conn : Connection} {remote : Proto} {norebind : Bool}
      (hport : port ≠ 0) (hM : M port = none) (hfree : port ∉ env.others) (hnew : M.New i) :
      CallSpec env M (.add (.tcp port) remote norebind) (.ok conn)
        (Function.update M port (ForwardingMgr.entry env i ⟨conn, remote⟩)) (.okay none)
  /-- Another process holds the port. -/
  | occupied {port : UInt16} {conn : Connection} {remote : Proto} {norebind : Bool}
      (hport : port ≠ 0) (hM : M port = none) (hheld : port ∈ env.others) :
      CallSpec env M (.add (.tcp port) remote norebind) (.ok conn) M
        (.failed ["bind", "Address already in use"])
  /-- A free port is chosen, entered and reported. -/
  | allocate {port : UInt16} {i : Nat} {conn : Connection} {remote : Proto} {norebind : Bool}
      (hport : port ≠ 0) (hM : M port = none) (hfree : port ∉ env.others) (hnew : M.New i) :
      CallSpec env M (.add (.tcp 0) remote norebind) (.ok conn)
        (Function.update M port (ForwardingMgr.entry env i ⟨conn, remote⟩)) (.okay (some port))
  | unsupported {s : String} {remote : Proto} {norebind : Bool}
      {pick : Except PickDeviceError Connection} :
      CallSpec env M (.add (.other s) remote norebind) pick M
        (.failed ["unsupported protocol: " ++ s])
  | noDevice {port : UInt16} {remote : Proto} {norebind : Bool} {err : PickDeviceError} :
      CallSpec env M (.add (.tcp port) remote norebind) (.error err) M (.failed [err.toString])
  | remove {proto : Proto} {pick : Except PickDeviceError Connection} :
      CallSpec env M (.remove proto) pick
        (fun port => if proto = .tcp port then none else M port) (.okay none)
  | removeAll {pick : Except PickDeviceError Connection} :
      CallSpec env M .removeAll pick (fun _ => none) (.okay none)
  /-- One record for each port that is forwarded. -/
  | list {ports : List UInt16} {pick : Except PickDeviceError Connection} (hnodup : ports.Nodup)
      (hports : ∀ port, port ∈ ports ↔ M port ≠ none) :
      CallSpec env M .list pick M (.listed (ports.foldl (fun s port => s ++ M.record port) ""))

/-- The steps of the map. -/
inductive PortMapStep (env : Env) (M : PortMap) : Env → PortMap → ForwardEvent → Prop
  | command {service : String} {cmd : ForwardCommand} {pick : Except PickDeviceError Connection}
      {M' : PortMap} {reply : ForwardReply} (hparse : ForwardCommand.parse service = .ok (some cmd))
      (hcall : CallSpec env M cmd pick M' reply) :
      PortMapStep env M env M' (.called service pick reply)
  | malformed {service : String} {pick : Except PickDeviceError Connection} {report : Report}
      (hparse : ForwardCommand.parse service = .error report) :
      PortMapStep env M env M (.called service pick (.failed report))
  | notHandled {service : String} {pick : Except PickDeviceError Connection}
      (hparse : ForwardCommand.parse service = .ok none) :
      PortMapStep env M env M (.called service pick .notHandled)
  /-- A connection to a port goes to the target of the port. -/
  | opening {port : UInt16} {i : Nat} {target : ForwardTarget} (hM : M port = some (i, target)) :
      PortMapStep env M env M (.opening port target)
  /-- The forwards to a device end with its connection. -/
  | disconnected {env' : Env} (hclosed : ∀ c, env.isClosed c = true → env'.isClosed c = true) :
      PortMapStep env M env' (fun port => (M port).filter fun e => !env'.isClosed e.2.conn)
        .disconnected
  | ended {i : Nat} :
      PortMapStep env M env (fun port => (M port).filter fun e => decide (i ≠ e.1)) (.ended i)
  | internal {others : List UInt16} : PortMapStep env M { env with others } M .internal

/-- The map that a trace leads to, by the effect of each of its events and nothing else. -/
inductive PortMapRun : List ForwardEvent → Env → PortMap → Prop
  | nil : PortMapRun [] ⟨[], [], []⟩ fun _ => none
  | snoc {tr : List ForwardEvent} {env env' : Env} {M M' : PortMap} {e : ForwardEvent} :
      PortMapRun tr env M → PortMapStep env M env' M' e → PortMapRun (tr ++ [e]) env' M'

/-- A call that fails leaves the map as it is. -/
theorem PortMapStep.of_failed {env env' : Env} {M M' : PortMap} {service : String}
    {pick : Except PickDeviceError Connection} {report : Report}
    (h : PortMapStep env M env' M' (.called service pick (.failed report))) : M' = M := by
  cases h with
  | command hparse hcall => cases hcall <;> rfl
  | malformed => rfl

/-! ## Commands -/

namespace ForwardingMgr

variable {m m' : ForwardingMgr} {env : Env}

/-- Every entry of the table is live. -/
def Clean (m : ForwardingMgr) (env : Env) : Prop :=
  ∀ port i, m.listeners.lookup (.tcp port) = some i → ∃ target, m.live env port = some (i, target)

/-- After the cleaning every entry that is left has an open connection. -/
theorem clean_cleanForwards : (m.cleanForwards env).Clean env := fun _ _ => lookup_cleanForwards

/-- In a clean table a port that is not forwarded has no entry. -/
theorem Clean.lookup_eq_none (h : m.Clean env) {port : UInt16} (hlive : m.live env port = none) :
    m.listeners.lookup (.tcp port) = none := by
  cases hk : m.listeners.lookup (.tcp port) with
  | none => rfl
  | some i =>
    obtain ⟨target, hsome⟩ := h port i hk
    simp [hlive] at hsome

theorem live_eq_none_of_lookup {port : UInt16} (hk : m.listeners.lookup (.tcp port) = none) :
    m.live env port = none := by
  simp [live, hk]

/-- The next task is that of no port. -/
theorem new_length : PortMap.New (m.live env) m.tasks.length := by
  rintro port j target hlive rfl
  obtain ⟨-, task, ht, -⟩ := live_eq_some.mp hlive
  exact absurd (List.getElem?_eq_some_iff.mp ht).1 (Nat.lt_irrefl _)

/-- A port that somebody holds and that is not forwarded is held by another process. -/
theorem Clean.mem_others (hclean : m.Clean env) (h : m.Law env) {port : UInt16}
    (hlive : m.live env port = none) (hheld : m.held env port = true) : port ∈ env.others := by
  simp only [held, Bool.or_eq_true, decide_eq_true_eq, List.any_eq_true, Bool.and_eq_true,
    Bool.not_eq_true'] at hheld
  rcases hheld with hmem | ⟨task, hmem, rfl, hrun⟩
  · exact hmem
  · obtain ⟨i, ht⟩ := List.mem_iff_getElem?.mp hmem
    have hk := h.running i task ht hrun
    rw [hclean.lookup_eq_none hlive] at hk
    exact absurd hk (by simp)

/-- On a port that nobody holds there is no entry. -/
theorem Clean.lookup_of_not_held (hclean : m.Clean env) (h : m.Law env) {port : UInt16}
    (hheld : m.held env port = false) : m.listeners.lookup (.tcp port) = none := by
  cases hk : m.listeners.lookup (.tcp port) with
  | none => rfl
  | some i =>
    obtain ⟨target, hlive⟩ := hclean port i hk
    obtain ⟨-, task, ht, -, -, hrun⟩ := live_eq_some.mp hlive
    obtain ⟨port', task', hport', -, ht', rfl⟩ := h.keys _ i hk
    obtain rfl : task = task' := Option.some.inj (ht.symm.trans ht')
    cases hport'
    exact absurd rfl (port_ne_of_not_held hheld ht hrun)

/-- The critical section of `Add`, on a table without dead entries: there an entry and a listening
task are the same thing. -/
theorem add_spec (h : m.Law env) (hclean : m.Clean env) {port fresh : UInt16} {conn : Connection}
    {remote : Proto} {norebind : Bool} {reply : ForwardReply}
    (hadd : m.add env port fresh ⟨conn, remote⟩ norebind = some (m', reply)) :
    m'.Law env ∧
      CallSpec env (m.live env) (.add (.tcp port) remote norebind) (.ok conn) (m'.live env) reply := by
  have hcases := add_cases hadd
  cases hcases with
  -- after the clean every entry has a running task, so a found entry is live
  | rebind hport hk hno =>
    obtain ⟨old, hlive⟩ := hclean port _ hk
    rw [hno, live_rebind h hlive]
    exact ⟨h.rebind _ _, .rebind hport hlive⟩
  | norebind hport hk hno =>
    obtain ⟨old, hlive⟩ := hclean port _ hk
    rw [hno]
    exact ⟨h, .norebind hport hlive⟩
  | occupied hport hk hheld =>
    have hlive : m.live env port = none := live_eq_none_of_lookup hk
    exact ⟨h, .occupied hport hlive (hclean.mem_others h hlive hheld)⟩
  | @insert bound hbound hheld hfixed =>
    have hk := hclean.lookup_of_not_held h hheld
    have hlive : m.live env bound = none := live_eq_none_of_lookup hk
    refine ⟨h.insert hbound hheld, ?_⟩
    rw [live_insert h hk]
    by_cases hport : port = 0
    · rw [if_pos hport, hport]
      -- `tcp:0`: the system has chosen the port
      exact .allocate hbound hlive (not_mem_others hheld) new_length
    · obtain ⟨rfl, -⟩ := hfixed hport
      rw [if_neg hport]
      exact .create hbound hlive (not_mem_others hheld) new_length

/-- The port of an endpoint of the table. -/
def portOf : Proto → UInt16
  | .tcp port => port
  | .other _ => 0

theorem Law.key_eq (h : m.Law env) {k : Proto} {i : Nat} (hk : m.listeners.lookup k = some i) :
    k = .tcp (portOf k) := by
  obtain ⟨port, _, rfl, -⟩ := h.keys k i hk
  rfl

/-- The record of an entry is that of its port. -/
theorem record_eq (h : m.Law env) (hclean : m.Clean env) {k : Proto} {i : Nat}
    (hk : m.listeners.lookup k = some i) :
    m.record env k i = PortMap.record (m.live env) (portOf k) := by
  have hkey := h.key_eq hk
  rw [hkey] at hk
  obtain ⟨target, hlive⟩ := hclean _ i hk
  obtain ⟨-, task, ht, rfl, hopen, -⟩ := live_eq_some.mp hlive
  simp only [record, PortMap.record, ht, hlive, Env.upgrade_of_open hopen]
  rw [← hkey]

/-- `list-forward` on a table without dead entries: one record for each port of the map, in some
order. -/
theorem list_spec (h : m.Law env) (hclean : m.Clean env)
    {pick : Except PickDeviceError Connection} :
    CallSpec env (m.live env) .list pick (m.live env) (.listed (m.list env)) := by
  have hmem : ∀ e ∈ m.listeners.entries, m.listeners.lookup e.1 = some e.2 := fun e he =>
    AList.mem_lookup_iff.mpr he
  have htext : m.list env = (m.listeners.entries.map fun e => portOf e.1).foldl
      (fun s port => s ++ PortMap.record (m.live env) port) "" := by
    rw [list, List.foldl_map]
    refine List.foldl_ext _ _ _ fun s e he => ?_
    rw [record_eq h hclean (hmem e he)]
  rw [htext]
  refine .list ?_ ?_
  · -- the keys are distinct, and each is given by its port
    refine List.Nodup.of_map Proto.tcp ?_
    rw [List.map_map]
    have hkeys : m.listeners.entries.map (Proto.tcp ∘ fun e => portOf e.1) = m.listeners.keys :=
      List.map_congr_left fun e he => (h.key_eq (hmem e he)).symm
    rw [hkeys]
    exact m.listeners.keys_nodup
  · intro port
    rw [List.mem_map]
    constructor
    · rintro ⟨e, he, rfl⟩
      have hk := hmem e he
      rw [h.key_eq hk] at hk
      obtain ⟨target, hlive⟩ := hclean _ _ hk
      simp [hlive]
    · intro hne
      cases hlive : m.live env port with
      | none => exact absurd hlive hne
      | some p =>
        obtain ⟨i, target⟩ := p
        have hk := (live_eq_some.mp hlive).1
        exact ⟨⟨.tcp port, i⟩, AList.mem_lookup_iff.mp hk, rfl⟩

/-- Every command does to the table what `CallSpec` says, as seen in its live entries. -/
theorem handleCommand_spec (h : m.Law env) {cmd : ForwardCommand}
    {pick : Except PickDeviceError Connection} {fresh : UInt16} {reply : ForwardReply}
    (hcall : m.handleCommand env cmd pick fresh = some (m', reply)) :
    m'.Law env ∧ CallSpec env (m.live env) cmd pick (m'.live env) reply := by
  have hlaw : (m.cleanForwards env).Law env := h.retain
  unfold handleCommand at hcall
  split at hcall
  · rename_i left right norebind
    split at hcall
    · cases hcall
      rw [live_cleanForwards]
      exact ⟨hlaw, .unsupported⟩
    · split at hcall
      · cases hcall
        rw [live_cleanForwards]
        exact ⟨hlaw, .noDevice⟩
      · -- `handle_command` has cleaned the table first
        have hspec := add_spec hlaw clean_cleanForwards hcall
        rwa [live_cleanForwards] at hspec
  · rename_i proto
    cases hcall
    refine ⟨hlaw.remove proto, ?_⟩
    have hlive : ((m.cleanForwards env).remove proto).live env =
        fun port => if proto = .tcp port then none else m.live env port := by
      funext port
      rw [live_remove hlaw, live_cleanForwards]
    rw [hlive]
    exact .remove
  · cases hcall
    refine ⟨h.retain, ?_⟩
    have hlive : (m.retain fun _ => false).live env = fun _ => none := by
      funext port
      rw [live_retain]
      cases m.live env port <;> simp [Option.filter_some]
    rw [hlive]
    exact .removeAll
  · cases hcall
    have hspec : CallSpec env _ .list pick _ _ := list_spec hlaw clean_cleanForwards
    rw [live_cleanForwards] at hspec ⊢
    exact ⟨hlaw, hspec⟩

end ForwardingMgr

/-! ## Whole schedules -/

theorem ForwardingMgr.law_new : ForwardingMgr.new.Law ⟨[], [], []⟩ where
  keys := by simp [ForwardingMgr.new]
  running := by simp [ForwardingMgr.new]
  others := by simp [ForwardingMgr.new]

/-- The simulation: one step of the machine is one step of the map of live entries. -/
theorem portMapStep_of_step {s s' : ForwardSt} {a : ForwardAct} {e : ForwardEvent}
    (h : s.mgr.Law s.env) (hs : forwardMachine.step s a = some (s', e)) :
    s'.mgr.Law s'.env ∧
      PortMapStep s.env (s.mgr.live s.env) s'.env (s'.mgr.live s'.env) e := by
  have hdisconnected : ∀ env' : Env, env'.others = s.env.others →
      (∀ c, s.env.isClosed c = true → env'.isClosed c = true) →
      s.mgr.Law env' ∧
        PortMapStep s.env (s.mgr.live s.env) env' (s.mgr.live env') .disconnected := by
    intro env' hothers hclosed
    refine ⟨h.of_env fun _ _ _ _ hmem => hothers ▸ hmem, ?_⟩
    have hlive : s.mgr.live env' = fun port =>
        (s.mgr.live s.env port).filter fun p => !env'.isClosed p.2.conn := by
      funext port
      exact ForwardingMgr.live_env hclosed
    rw [hlive]
    exact .disconnected hclosed
  have hended : ∀ i, (s.mgr.finish i).Law s.env ∧
      PortMapStep s.env (s.mgr.live s.env) s.env ((s.mgr.finish i).live s.env) (.ended i) := by
    intro i
    refine ⟨h.finish i, ?_⟩
    have hlive : (s.mgr.finish i).live s.env = fun port =>
        (s.mgr.live s.env port).filter fun p => decide (i ≠ p.1) := by
      funext port
      exact ForwardingMgr.live_finish
    rw [hlive]
    exact .ended
  cases a with
  | call service pick fresh =>
    simp only [forwardMachine, ForwardSt.step] at hs
    split at hs
    · exact absurd hs (by simp)
    · rename_i mgr reply hcall
      cases hs
      unfold ForwardingMgr.handleForward at hcall
      split at hcall
      · rename_i hparse
        cases hcall
        exact ⟨h, .malformed hparse⟩
      · rename_i hparse
        cases hcall
        exact ⟨h, .notHandled hparse⟩
      · rename_i cmd hparse
        obtain ⟨hlaw, hspec⟩ := ForwardingMgr.handleCommand_spec h hcall
        exact ⟨hlaw, .command hparse hspec⟩
  | close id =>
    cases hs
    refine hdisconnected _ rfl fun c hc => ?_
    rw [Env.isClosed_eq_true] at hc ⊢
    exact hc.imp_right (List.mem_cons_of_mem _)
  | drop id =>
    cases hs
    refine hdisconnected _ rfl fun c hc => ?_
    rw [Env.isClosed_eq_true] at hc ⊢
    exact hc.imp_left (List.mem_cons_of_mem _)
  | accept i =>
    simp only [forwardMachine, ForwardSt.step, ForwardSt.accept] at hs
    split at hs
    · exact absurd hs (by simp)
    · rename_i task ht
      split at hs
      · exact absurd hs (by simp)
      · rename_i hrun
        rw [Bool.not_eq_true] at hrun
        split at hs
        · cases hs
          exact hended i
        · rename_i conn hup
          split at hs
          · cases hs
            exact ⟨h, .internal⟩
          · rename_i hopen
            cases hs
            refine ⟨h, .opening (i := i) (ForwardingMgr.live_eq_some.mpr ?_)⟩
            refine ⟨h.running i task ht hrun, task, ht, rfl, ?_, hrun⟩
            -- the connection could be upgraded, and its transport has not failed
            unfold Env.upgrade at hup
            split at hup
            · simp at hup
            · rename_i hdropped
              cases hup
              rw [← Bool.not_eq_true, Env.isClosed_eq_true, not_or]
              exact ⟨hdropped, hopen⟩
  | acceptFails i =>
    simp only [forwardMachine, ForwardSt.step] at hs
    split at hs
    · exact absurd hs (by simp)
    · split at hs
      · exact absurd hs (by simp)
      · cases hs
        exact hended i
  | othersBind port =>
    simp only [forwardMachine, ForwardSt.step] at hs
    split at hs
    · exact absurd hs (by simp)
    · rename_i hheld
      cases hs
      rw [Bool.not_eq_true] at hheld
      refine ⟨h.of_env fun i task ht hrun hmem => ?_, .internal⟩
      exact (List.mem_cons.mp hmem).resolve_left
        (ForwardingMgr.port_ne_of_not_held hheld ht hrun)
  | othersRelease port =>
    cases hs
    exact ⟨h.of_env fun _ _ _ _ hmem => (List.mem_filter.mp hmem).1, .internal⟩

/-- A call returns, given a port that the system can choose: one that is not 0 and that nobody holds
after the table is cleaned. -/
theorem ForwardingMgr.handleForward_isSome {m : ForwardingMgr} {env : Env} (service : String)
    (pick : Except PickDeviceError Connection) {fresh : UInt16} (hne : fresh ≠ 0)
    (hfree : (m.cleanForwards env).held env fresh = false) :
    ∃ m' reply, m.handleForward env service pick fresh = some (m', reply) := by
  -- only `add` can be stuck, and only when the system has no port to choose
  have hadd : ∀ port target norebind,
      ∃ m' reply, (m.cleanForwards env).add env port fresh target norebind = some (m', reply) := by
    intro port target norebind
    unfold add
    split
    · split <;> exact ⟨_, _, rfl⟩
    · unfold bind
      by_cases hport : port = 0
      · simp [hport, hne, hfree]
      · cases hheld : (m.cleanForwards env).held env port with
        | true => simp [hport]
        | false => simp [hport]
  unfold handleForward
  split
  · exact ⟨_, _, rfl⟩
  · exact ⟨_, _, rfl⟩
  · unfold handleCommand
    split
    · split
      · exact ⟨_, _, rfl⟩
      · split
        · exact ⟨_, _, rfl⟩
        · exact hadd _ _ _
    · exact ⟨_, _, rfl⟩
    · exact ⟨_, _, rfl⟩
    · exact ⟨_, _, rfl⟩

/-- A connection that the task of a live entry accepts goes to the target that the entry has by then,
so after a rebinding to the new one. -/
theorem accept_of_live {s : ForwardSt} (h : s.mgr.Law s.env) {port : UInt16} {i : Nat}
    {target : ForwardTarget} (hlive : s.mgr.live s.env port = some (i, target)) :
    forwardMachine.step s (.accept i) = some (s, .opening port target) := by
  obtain ⟨hk, task, ht, rfl, hopen, hrun⟩ := ForwardingMgr.live_eq_some.mp hlive
  -- the entry and its task have the same port
  obtain ⟨port', task', hport, -, ht', rfl⟩ := h.keys _ i hk
  obtain rfl : task = task' := Option.some.inj (ht.symm.trans ht')
  obtain rfl : port = task.port := Proto.tcp.inj hport
  have hnot : task.target.conn.id ∉ s.env.closed := by
    rw [← Bool.not_eq_true, Env.isClosed_eq_true, not_or] at hopen
    exact hopen.2
  simp [forwardMachine, ForwardSt.step, ForwardSt.accept, ht, hrun, Env.upgrade_of_open hopen, hnot]

/-- **The forward table is a map from ports to targets.** After every sequence of calls,
disconnections and steps of the tasks and of other processes: every entry is that of a port other
than 0 on which its task listens; the live entries are the map that the same events lead to; a
connection to a port with a live entry goes to the target of that entry; a call that fails leaves the
entries as they are; and every call returns. -/
theorem forward_table_refines (tr : List ForwardEvent) (s : ForwardSt)
    (hrun : forwardMachine.Run ForwardSt.new tr s) :
    (∀ k i, s.mgr.listeners.lookup k = some i →
      ∃ port task, k = .tcp port ∧ port ≠ 0 ∧ s.mgr.tasks[i]? = some task ∧ task.port = port) ∧
    PortMapRun tr s.env (s.mgr.live s.env) ∧
    (∀ port i target, s.mgr.live s.env port = some (i, target) →
      forwardMachine.step s (.accept i) = some (s, .opening port target)) ∧
    (∀ a s' service pick report,
      forwardMachine.step s a = some (s', .called service pick (.failed report)) →
        s'.mgr.live s'.env = s.mgr.live s.env) ∧
    ∀ service pick fresh, fresh ≠ 0 → (s.mgr.cleanForwards s.env).held s.env fresh = false →
      ∃ s' reply, forwardMachine.step s (.call service pick fresh) =
        some (s', .called service pick reply) := by
  have hinv : s.mgr.Law s.env ∧ PortMapRun tr s.env (s.mgr.live s.env) := by
    refine hrun.invariant
      (fun tr s => s.mgr.Law s.env ∧ PortMapRun tr s.env (s.mgr.live s.env)) ?_ ?_
    · exact ⟨ForwardingMgr.law_new, .nil⟩
    · rintro tr s a s' e - ⟨hlaw, hmap⟩ hs
      obtain ⟨hlaw', hstep⟩ := portMapStep_of_step hlaw hs
      exact ⟨hlaw', hmap.snoc hstep⟩
  refine ⟨hinv.1.keys, hinv.2, fun port i target => accept_of_live hinv.1,
    fun a s' service pick report hs => ?_, fun service pick fresh hne hfree => ?_⟩
  · exact (portMapStep_of_step hinv.1 hs).2.of_failed
  · obtain ⟨mgr, reply, hcall⟩ := ForwardingMgr.handleForward_isSome service pick hne hfree
    exact ⟨{ s with mgr }, reply, by simp [forwardMachine, ForwardSt.step, hcall]⟩

/-- Where the tasks sent the connections that they accepted. -/
def ForwardEvent.opening? : ForwardEvent → Option (UInt16 × Nat × Proto)
  | .opening port target => some (port, target.conn.id, target.remote)
  | _ => none

/-- A port is allocated, gets a new target on another device, and is listed. The connections accepted
before and after go to the old and to the new target. -/
theorem forward_table_refines_rebind :
    ∃ tr s, forwardMachine.Run ForwardSt.new tr s ∧
      tr.filterMap ForwardEvent.reply? =
        [.okay (some 40001), .okay none, .failed ["already bound"],
          .listed "usb tcp:40001 tcp:81\n"] ∧
      tr.filterMap ForwardEvent.opening? = [(40001, 1, .tcp 80), (40001, 2, .tcp 81)] ∧
      (∃ target, s.mgr.live s.env 40001 = some (0, target) ∧
        forwardMachine.step s (.accept 0) = some (s, .opening 40001 target)) ∧
      PortMapRun tr s.env (s.mgr.live s.env) := by
  obtain ⟨s, tr, hrun, htest⟩ := Machine.exists_run_of_exec (M := forwardMachine) (s := ForwardSt.new)
    [.call "forward:tcp:0;tcp:80" (.ok (usbConnection 1)) 40001, .accept 0,
      .call "forward:tcp:40001;tcp:81" (.ok (usbConnection 2)) 40002, .accept 0,
      .call "forward:norebind:tcp:40001;tcp:82" (.ok (usbConnection 1)) 40002,
      .call "list-forward" (.error .notSelected) 40002]
    (fun s tr => decide (tr.filterMap ForwardEvent.reply? =
        [.okay (some 40001), .okay none, .failed ["already bound"],
          .listed "usb tcp:40001 tcp:81\n"]) &&
      decide (tr.filterMap ForwardEvent.opening? = [(40001, 1, .tcp 80), (40001, 2, .tcp 81)]) &&
      decide ((s.mgr.live s.env 40001).map Prod.fst = some 0)) (by decide +kernel)
  simp only [Bool.and_eq_true, decide_eq_true_eq] at htest
  obtain ⟨⟨hreplies, hopened⟩, hlive⟩ := htest
  obtain ⟨⟨i, target⟩, hlive, rfl⟩ := Option.map_eq_some_iff.mp hlive
  obtain ⟨-, hmap, haccept, -⟩ := forward_table_refines tr s hrun
  exact ⟨tr, s, hrun, hreplies, hopened, ⟨target, hlive, haccept _ _ _ hlive⟩, hmap⟩

end AdbDaemon.Forward
