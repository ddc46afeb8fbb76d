import Mathlib.Data.List.Induction
import AdbDaemon.Forward.Table

/-!
# Clients that add the same forward

Reference: `forward_task`, `ForwardingMgr::clean_forwards` and `ForwardingMgr::handle_forward` of
`src/forward.rs`.

A call takes the lock on the table twice, once in `clean_forwards` and once for its own work, and
anything may happen in between: calls of other clients, disconnections, and the steps of the
`forward_task`s, which do not take the lock at all. `raceMachine` interleaves these steps.

The entry that an `Add` finds in its second critical section passed the test of `clean_forwards`, but
its task may have returned since. The `Add` then rebinds a dead entry and answers `OKAY`
(`acknowledged_unheard`). `acknowledged_listens_iff` says in which schedules that does not happen.
-/

namespace AdbDaemon.Forward

open Common Connections SmartSocket

/-! ## Calls in two sections -/

/-- `killforward-all` is the one command that does not clean the table first. -/
def ForwardCommand.cleans : ForwardCommand → Bool
  | .removeAll => false
  | _ => true

namespace ForwardingMgr

/-- A call after `clean_forwards`, in its own critical section. -/
def enter (m : ForwardingMgr) (env : Env) (cmd : ForwardCommand)
    (pick : Except PickDeviceError Connection) (fresh : UInt16) :
    Option (ForwardingMgr × ForwardReply) :=
  match cmd with
  | .add left right norebind =>
    match left with
    | .other s => some (m, .failed ["unsupported protocol: " ++ s])
    | .tcp port =>
      match pick with
      | .error err => some (m, .failed [err.toString])
      | .ok conn => m.add env port fresh ⟨conn, right⟩ norebind
  | .remove proto => some (m.remove proto, .okay none)
  | .removeAll => some (m.retain fun _ => false, .okay none)
  | .list => some (m, .listed (m.list env))

/-- The two sections, one right after the other, are the whole call. -/
theorem handleCommand_eq_enter (m : ForwardingMgr) (env : Env) (cmd : ForwardCommand)
    (pick : Except PickDeviceError Connection) (fresh : UInt16) :
    m.handleCommand env cmd pick fresh =
      (if cmd.cleans then m.cleanForwards env else m).enter env cmd pick fresh := by
  cases cmd with
  | add left right norebind => cases left <;> rfl
  | remove proto => rfl
  | removeAll => rfl
  | list => rfl

/-- The task of the entry that an `Add` created or rebound. -/
def entryOf (m : ForwardingMgr) : ForwardCommand → ForwardReply → Option Nat
  | .add left _ _, .okay none => m.listeners.lookup left
  | .add _ _ _, .okay (some bound) => m.listeners.lookup (.tcp bound)
  | _, _ => none

/-- The tasks that ran before a step and do not run after it. -/
def stopped (m m' : ForwardingMgr) : List Nat :=
  (List.range m.tasks.length).filter fun i =>
    m.tasks[i]?.any (fun task => !task.finished) && m'.tasks[i]?.any fun task => task.finished

/-- The entry of the port has this task, and the task still listens. -/
def Listening (m : ForwardingMgr) (port : UInt16) (i : Nat) : Prop :=
  m.listeners.lookup (.tcp port) = some i ∧
    ∃ task, m.tasks[i]? = some task ∧ task.port = port ∧ task.finished = false

end ForwardingMgr

/-! ## The machine -/

/-- How far a call of `handle_forward` has come. -/
inductive CallStage where
  | start (cmd : ForwardCommand)
  | cleaned (cmd : ForwardCommand)
  /-- The lock is released, and the reply is about to be written. -/
  | answering (cmd : ForwardCommand) (entry : Option Nat) (reply : ForwardReply)
  | answered
deriving DecidableEq

/-- The table, the system, and the calls under way. -/
structure RaceSt where
  mgr : ForwardingMgr
  env : Env
  calls : List CallStage
  /-- The tasks inside `open_socket`. -/
  opening : List Nat
  /-- The tasks that are about to return. -/
  returning : List Nat

/-- The two critical sections of a call and its answer, and the steps of everybody else. -/
inductive RaceAct where
  | request (service : String)
  | clean (c : Nat)
  | enter (c : Nat) (pick : Except PickDeviceError Connection) (fresh : UInt16)
  | answer (c : Nat)
  /-- The transport of a connection fails. -/
  | close (id : Nat)
  /-- The last reference to a connection goes away. -/
  | drop (id : Nat)
  /-- A task accepts a connection. -/
  | accept (i : Nat)
  | acceptFails (i : Nat)
  /-- `open_socket` returns to a task. -/
  | opened (i : Nat)
  | finish (i : Nat)
  | othersBind (port : UInt16)
  | othersRelease (port : UInt16)

/-- What can be seen of a step: which tasks it ended, and which entry it is about. -/
inductive RaceEvent where
  | cleaned (aborted : List Nat)
  | entered (c : Nat) (entry : Option Nat) (aborted : List Nat)
  /-- A `forward_task` returned by itself. -/
  | returned (i : Nat)
  | internal
deriving DecidableEq

/-- The task ends with this event. -/
def RaceEvent.ends (i : Nat) : RaceEvent → Bool
  | .cleaned aborted => decide (i ∈ aborted)
  | .entered _ _ aborted => decide (i ∈ aborted)
  | .returned j => decide (i = j)
  | .internal => false

namespace RaceSt

/-- No calls and no forwards. -/
def new : RaceSt where
  mgr := ForwardingMgr.new
  env := ⟨[], [], []⟩
  calls := []
  opening := []
  returning := []

/-- The task waits for the next connection. -/
def accepting (s : RaceSt) (i : Nat) : Option ForwardTask :=
  match s.mgr.tasks[i]? with
  | none => none
  | some task => if task.finished ∨ i ∈ s.opening ∨ i ∈ s.returning then none else some task

def enter (s : RaceSt) (c : Nat) (cmd : ForwardCommand) (pick : Except PickDeviceError Connection)
    (fresh : UInt16) : Option (RaceSt × RaceEvent) :=
  match s.mgr.enter s.env cmd pick fresh with
  | none => none
  | some (mgr, reply) =>
    let entry := mgr.entryOf cmd reply
    some ({ s with mgr, calls := s.calls.set c (.answering cmd entry reply) },
      .entered c entry (s.mgr.stopped mgr))

/-- One step; a call is cut between its two critical sections and before its answer. -/
def step (s : RaceSt) : RaceAct → Option (RaceSt × RaceEvent)
  | .request service =>
    match ForwardCommand.parse service with
    | .ok (some cmd) => some ({ s with calls := s.calls ++ [.start cmd] }, .internal)
    | _ => some (s, .internal)
  | .clean c =>
    match s.calls[c]? with
    | some (.start cmd) =>
      if cmd.cleans then
        let mgr := s.mgr.cleanForwards s.env
        some ({ s with mgr, calls := s.calls.set c (.cleaned cmd) }, .cleaned (s.mgr.stopped mgr))
      else none
    | _ => none
  | .enter c pick fresh =>
    match s.calls[c]? with
    | some (.start cmd) => if cmd.cleans then none else s.enter c cmd pick fresh
    | some (.cleaned cmd) => s.enter c cmd pick fresh
    | _ => none
  | .answer c =>
    match s.calls[c]? with
    | some (.answering ..) => some ({ s with calls := s.calls.set c .answered }, .internal)
    | _ => none
  | .close id => some ({ s with env.closed := id :: s.env.closed }, .internal)
  | .drop id => some ({ s with env.dropped := id :: s.env.dropped }, .internal)
  | .accept i =>
    match s.accepting i with
    | none => none
    | some task =>
      match s.env.upgrade task.target.conn with
      | none => some ({ s with returning := i :: s.returning }, .internal)
      | some _ => some ({ s with opening := i :: s.opening }, .internal)
  | .acceptFails i =>
    match s.accepting i with
    | none => none
    | some _ => some ({ s with returning := i :: s.returning }, .internal)
  -- with an error or with a socket that is copied elsewhere, the loop goes on
  | .opened i =>
    if i ∈ s.opening then some ({ s with opening := s.opening.erase i }, .internal) else none
  | .finish i =>
    match s.mgr.tasks[i]? with
    | none => none
    | some task =>
      if task.finished = false ∧ i ∈ s.returning then
        some ({ s with mgr := s.mgr.finish i }, .returned i)
      else none
  | .othersBind port =>
    if s.mgr.held s.env port then none
    else some ({ s with env.others := port :: s.env.others }, .internal)
  | .othersRelease port =>
    some ({ s with env.others := s.env.others.filter (· ≠ port) }, .internal)

end RaceSt

/-- The forwards, with calls that overlap. -/
def raceMachine : Machine RaceSt RaceAct RaceEvent := ⟨RaceSt.step⟩

/-! ## The condition -/

/-- The events since the table was last cleaned. -/
def sinceClean (tr : List RaceEvent) : List RaceEvent :=
  tr.foldl (fun acc e =>
    match e with
    | .cleaned _ => []
    | e => acc ++ [e]) []

/-- The task of an `Add` was left alone: it did not return between the last cleaning of the table
before the critical section and that section, and it was not ended after it. -/
def Undisturbed (tr : List RaceEvent) (c i : Nat) : Prop :=
  ∃ before aborted after, tr = before ++ .entered c (some i) aborted :: after ∧
    .returned i ∉ sinceClean before ∧ ∀ e ∈ after, e.ends i = false

/-- A cleaning begins a new account of the tasks that returned. -/
theorem sinceClean_cleaned {tr : List RaceEvent} {aborted : List Nat} :
    sinceClean (tr ++ [.cleaned aborted]) = [] := by
  simp [sinceClean]

theorem sinceClean_snoc {tr : List RaceEvent} {e : RaceEvent} (h : ∀ aborted, e ≠ .cleaned aborted) :
    sinceClean (tr ++ [e]) = sinceClean tr ++ [e] := by
  rw [sinceClean, List.foldl_append]
  cases e with
  | cleaned aborted => exact absurd rfl (h aborted)
  | entered c entry aborted => rfl
  | returned i => rfl
  | internal => rfl

theorem mem_of_mem_sinceClean {tr : List RaceEvent} {e : RaceEvent} (h : e ∈ sinceClean tr) :
    e ∈ tr := by
  induction tr using List.reverseRecOn with
  | nil => exact absurd h (by simp [sinceClean])
  | append_singleton tr e' ih =>
    by_cases hclean : ∃ aborted, e' = .cleaned aborted
    · obtain ⟨aborted, rfl⟩ := hclean
      simp [sinceClean_cleaned] at h
    · rw [sinceClean_snoc fun aborted heq => hclean ⟨aborted, heq⟩, List.mem_append] at h
      rw [List.mem_append]
      exact h.imp_left ih

/-! ## What a critical section does -/

namespace ForwardingMgr

variable {m m' : ForwardingMgr} {env : Env}

/-- What the critical section of a call can do to the table. -/
theorem enter_cases {cmd : ForwardCommand} {pick : Except PickDeviceError Connection}
    {fresh : UInt16} {reply : ForwardReply} (h : m.enter env cmd pick fresh = some (m', reply)) :
    m' = m ∨ (∃ i target, m' = m.rebind i target) ∨
    (∃ bound target, bound ≠ 0 ∧ m.held env bound = false ∧ m' = m.insert bound target) ∨
    (∃ proto, m' = m.remove proto) ∨ m' = m.retain fun _ => false := by
  cases cmd with
  | add left right norebind =>
    cases left with
    | other s =>
      cases h
      exact .inl rfl
    | tcp port =>
      cases pick with
      | error err =>
        cases h
        exact .inl rfl
      | ok conn =>
        have hadd := add_cases h
        cases hadd with
        | rebind _ _ _ => exact .inr (.inl ⟨_, _, rfl⟩)
        | norebind _ _ _ => exact .inl rfl
        | occupied _ _ _ => exact .inl rfl
        | insert hbound hheld _ => exact .inr (.inr (.inl ⟨_, _, hbound, hheld, rfl⟩))
  | remove proto =>
    cases h
    exact .inr (.inr (.inr (.inl ⟨proto, rfl⟩)))
  | removeAll =>
    cases h
    exact .inr (.inr (.inr (.inr rfl)))
  | list =>
    cases h
    exact .inl rfl

/-- Tasks stay where they are, keep their port, and do not start again. -/
def Extends (m m' : ForwardingMgr) : Prop :=
  ∀ (i : Nat) (task : ForwardTask), m.tasks[i]? = some task →
    ∃ task', m'.tasks[i]? = some task' ∧ task'.port = task.port ∧
      (task.finished = true → task'.finished = true)

theorem extends_rfl : m.Extends m := fun _ task ht => ⟨task, ht, rfl, id⟩

theorem extends_of_abort {dropped : List Nat}
    (h : ∀ (i : Nat) (task : ForwardTask), m.tasks[i]? = some task →
      m'.tasks[i]? = (m.abort dropped)[i]?) :
    m.Extends m' := by
  intro i task ht
  refine ⟨_, (h i task ht).trans (by rw [getElem?_abort, ht]; rfl), ?_, ?_⟩
  · split <;> rfl
  · intro hfin
    split
    · rfl
    · exact hfin

/-- Cleaning aborts the tasks of the entries that go. -/
theorem extends_retain {keep : Nat → Bool} : m.Extends (m.retain keep) :=
  extends_of_abort fun _ _ _ => rfl

/-- A task that returns keeps its number. -/
theorem extends_finish {i : Nat} : m.Extends (m.finish i) := by
  intro j task ht
  refine ⟨_, by rw [getElem?_finish, ht]; rfl, ?_, ?_⟩
  · split <;> rfl
  · intro hfin
    split
    · rfl
    · exact hfin

/-- A critical section may add a task, and keeps the numbers of the others. -/
theorem extends_enter {cmd : ForwardCommand} {pick : Except PickDeviceError Connection}
    {fresh : UInt16} {reply : ForwardReply} (h : m.enter env cmd pick fresh = some (m', reply)) :
    m.Extends m' := by
  rcases enter_cases h with rfl | ⟨i, target, rfl⟩ | ⟨bound, target, -, -, rfl⟩ | ⟨proto, rfl⟩ | rfl
  · exact extends_rfl
  · intro j task ht
    refine ⟨_, by rw [getElem?_rebind, ht]; rfl, ?_, ?_⟩
    · split <;> rfl
    · intro hfin
      split <;> exact hfin
  · exact extends_of_abort fun i task ht => getElem?_insert ht
  · exact extends_of_abort fun _ _ _ => rfl
  · exact extends_retain

/-- The law of the table holds after every critical section. -/
theorem Law.enter (h : m.Law env) {cmd : ForwardCommand} {pick : Except PickDeviceError Connection}
    {fresh : UInt16} {reply : ForwardReply}
    (henter : m.enter env cmd pick fresh = some (m', reply)) : m'.Law env := by
  rcases enter_cases henter with
    rfl | ⟨i, target, rfl⟩ | ⟨bound, target, hne, hheld, rfl⟩ | ⟨proto, rfl⟩ | rfl
  · exact h
  · exact h.rebind i target
  · exact h.insert hne hheld
  · exact h.remove proto
  · exact h.retain

/-- An aborted entry is gone from the table, so a dead entry that is left was dead before. -/
theorem finished_of_abort {dropped : List Nat} {i : Nat} {task' : ForwardTask} (hnot : i ∉ dropped)
    (ht' : (m.abort dropped)[i]? = some task') (hfin : task'.finished = true) :
    ∃ task, m.tasks[i]? = some task ∧ task.finished = true := by
  rw [getElem?_abort_of_notMem hnot] at ht'
  exact ⟨task', ht', hfin⟩

/-- No critical section makes a dead entry: a task it starts runs, and an entry it leaves had the
task before. -/
theorem finished_of_enter (h : m.Law env) {cmd : ForwardCommand}
    {pick : Except PickDeviceError Connection} {fresh : UInt16} {reply : ForwardReply}
    (henter : m.enter env cmd pick fresh = some (m', reply)) {k : Proto} {i : Nat}
    {task' : ForwardTask} (hk : m'.listeners.lookup k = some i) (ht' : m'.tasks[i]? = some task')
    (hfin : task'.finished = true) :
    m.listeners.lookup k = some i ∧ ∃ task, m.tasks[i]? = some task ∧ task.finished = true := by
  rcases enter_cases henter with
    rfl | ⟨j, target, rfl⟩ | ⟨bound, target, hne, hheld, rfl⟩ | ⟨proto, rfl⟩ | rfl
  · exact ⟨hk, task', ht', hfin⟩
  · obtain ⟨task, ht, -, heq, -⟩ := of_rebind ht'
    exact ⟨hk, task, ht, heq ▸ hfin⟩
  · rcases Table.lookup_insert_eq_some.mp hk with ⟨-, rfl⟩ | ⟨hkey, hold⟩
    · -- the new task runs
      rw [getElem?_insert_length] at ht'
      cases ht'
      exact absurd hfin (by simp)
    · obtain ⟨_, task, -, -, ht, -⟩ := h.keys k i hold
      rw [getElem?_insert ht] at ht'
      refine ⟨hold, finished_of_abort (fun hmem => ?_) ht' hfin⟩
      exact hkey (h.port_unique hold (Option.mem_toList.mp hmem))
  · obtain ⟨hkey, hold⟩ := Table.lookup_erase_eq_some.mp hk
    refine ⟨hold, finished_of_abort (fun hmem => ?_) ht' hfin⟩
    exact hkey (h.port_unique hold (Option.mem_toList.mp hmem))
  · exact absurd (lookup_retain.mp hk).2 (by simp)

/-- The entries that are left after `clean_forwards` run. -/
theorem running_of_cleanForwards {k : Proto} {i : Nat} {task : ForwardTask}
    (hk : (m.cleanForwards env).listeners.lookup k = some i)
    (ht : (m.cleanForwards env).tasks[i]? = some task) : task.finished = false := by
  obtain ⟨-, hkeep⟩ := lookup_retain.mp hk
  obtain ⟨task', ht', -, hrun⟩ := alive_eq_true.mp hkeep
  rw [cleanForwards, getElem?_retain hkeep] at ht
  obtain rfl : task' = task := Option.some.inj (ht'.symm.trans ht)
  exact hrun

/-- What was stopped ran before and does not run now. -/
theorem mem_stopped {i : Nat} :
    i ∈ m.stopped m' ↔
      (∃ task, m.tasks[i]? = some task ∧ task.finished = false) ∧
        ∃ task, m'.tasks[i]? = some task ∧ task.finished = true := by
  simp only [stopped, List.mem_filter, List.mem_range, Bool.and_eq_true, Option.any_eq_true,
    Bool.not_eq_true']
  constructor
  · rintro ⟨-, hrun, hfin⟩
    exact ⟨hrun, hfin⟩
  · rintro ⟨⟨task, ht, hrun⟩, hfin⟩
    exact ⟨(List.getElem?_eq_some_iff.mp ht).1, ⟨task, ht, hrun⟩, hfin⟩

/-- An `Add` for a fixed port that succeeds has an entry for the port. -/
theorem entryOf_enter (h : m.Law env) {port : UInt16} {remote : Proto} {norebind : Bool}
    {pick : Except PickDeviceError Connection} {fresh : UInt16} {allocated : Option UInt16}
    (hport : port ≠ 0)
    (henter : m.enter env (.add (.tcp port) remote norebind) pick fresh =
      some (m', .okay allocated)) :
    ∃ i task, m'.entryOf (.add (.tcp port) remote norebind) (.okay allocated) = some i ∧
      m'.tasks[i]? = some task ∧ task.port = port := by
  have hlaw := h.enter henter
  have hentry : allocated = none ∧ ∃ i, m'.listeners.lookup (.tcp port) = some i := by
    cases pick with
    | error err => cases henter
    | ok conn =>
      have hadd := add_cases henter
      cases hadd with
      | rebind _ hk _ => exact ⟨rfl, _, hk⟩
      | insert _ _ hfixed =>
        obtain ⟨rfl, -⟩ := hfixed hport
        exact ⟨if_neg hport, _, AList.lookup_insert _⟩
  obtain ⟨rfl, i, hk⟩ := hentry
  obtain ⟨port', task, heq, -, ht, rfl⟩ := hlaw.keys _ i hk
  cases heq
  exact ⟨i, task, hk, ht, rfl⟩

end ForwardingMgr

/-! ## Steps -/

/-- What a step does to the table and to the calls that are being answered. -/
inductive RaceStep (s s' : RaceSt) : RaceEvent → Prop
  | cleaned {c : Nat} {cmd : ForwardCommand} (hmgr : s'.mgr = s.mgr.cleanForwards s.env)
      (henv : s'.env = s.env) (hcalls : s'.calls = s.calls.set c (.cleaned cmd)) :
      RaceStep s s' (.cleaned (s.mgr.stopped s'.mgr))
  | entered {c : Nat} {cmd : ForwardCommand} {pick : Except PickDeviceError Connection}
      {fresh : UInt16} {reply : ForwardReply}
      (henter : s.mgr.enter s.env cmd pick fresh = some (s'.mgr, reply)) (henv : s'.env = s.env)
      (hcalls : s'.calls = s.calls.set c (.answering cmd (s'.mgr.entryOf cmd reply) reply)) :
      RaceStep s s' (.entered c (s'.mgr.entryOf cmd reply) (s.mgr.stopped s'.mgr))
  | returned {i : Nat} {task : ForwardTask} (ht : s.mgr.tasks[i]? = some task)
      (hmgr : s'.mgr = s.mgr.finish i) (henv : s'.env = s.env) (hcalls : s'.calls = s.calls) :
      RaceStep s s' (.returned i)
  | internal (hmgr : s'.mgr = s.mgr) (hlaw : s.mgr.Law s.env → s.mgr.Law s'.env)
      (hcalls : ∀ (c : Nat) (cmd : ForwardCommand) (entry : Option Nat) (reply : ForwardReply),
        s'.calls[c]? = some (.answering cmd entry reply) →
          s.calls[c]? = some (.answering cmd entry reply)) :
      RaceStep s s' .internal

/-- The critical section is a step of `RaceStep`. -/
theorem RaceSt.enter_step {s s' : RaceSt} {c : Nat} {cmd : ForwardCommand}
    {pick : Except PickDeviceError Connection} {fresh : UInt16} {e : RaceEvent}
    (h : s.enter c cmd pick fresh = some (s', e)) : RaceStep s s' e := by
  unfold RaceSt.enter at h
  split at h
  · exact absurd h (by simp)
  · rename_i mgr reply henter
    cases h
    exact .entered henter rfl rfl

/-- Every step of the machine is one of `RaceStep`, which keeps of each call only whether it is
about to answer. -/
theorem raceStep_of_step {s s' : RaceSt} {a : RaceAct} {e : RaceEvent}
    (hs : raceMachine.step s a = some (s', e)) : RaceStep s s' e := by
  -- an answer that is still to come survives the end of another call
  have hlater : ∀ (c c' : Nat) (stage : CallStage) (cmd : ForwardCommand) (entry : Option Nat)
      (reply : ForwardReply), stage = .answered →
      (s.calls.set c stage)[c']? = some (.answering cmd entry reply) →
        s.calls[c']? = some (.answering cmd entry reply) := by
    rintro c c' stage cmd entry reply rfl h
    rw [List.getElem?_set] at h
    split at h
    · split at h <;> cases h
    · exact h
  cases a with
  | request service =>
    simp only [raceMachine, RaceSt.step] at hs
    split at hs
    · cases hs
      refine .internal rfl id fun c cmd entry reply hcall => ?_
      rw [List.getElem?_append] at hcall
      split at hcall
      · exact hcall
      · rw [List.getElem?_singleton] at hcall
        split at hcall <;> cases hcall
    · cases hs
      exact .internal rfl id fun _ _ _ _ => id
  | clean c =>
    simp only [raceMachine, RaceSt.step] at hs
    split at hs
    · split at hs
      · cases hs
        exact .cleaned rfl rfl rfl
      · exact absurd hs (by simp)
    · exact absurd hs (by simp)
  | enter c pick fresh =>
    simp only [raceMachine, RaceSt.step] at hs
    split at hs
    · split at hs
      · exact absurd hs (by simp)
      · exact RaceSt.enter_step hs
    · exact RaceSt.enter_step hs
    · exact absurd hs (by simp)
  | answer c =>
    simp only [raceMachine, RaceSt.step] at hs
    split at hs
    · cases hs
      exact .internal rfl id fun c' cmd entry reply => hlater c c' _ cmd entry reply rfl
    · exact absurd hs (by simp)
  | close conn =>
    cases hs
    exact .internal rfl (fun h => h.of_env fun _ _ _ _ => id) fun _ _ _ _ => id
  | drop conn =>
    cases hs
    exact .internal rfl (fun h => h.of_env fun _ _ _ _ => id) fun _ _ _ _ => id
  | accept i =>
    simp only [raceMachine, RaceSt.step] at hs
    split at hs
    · exact absurd hs (by simp)
    · split at hs
      · cases hs
        exact .internal rfl id fun _ _ _ _ => id
      · cases hs
        exact .internal rfl id fun _ _ _ _ => id
  | acceptFails i =>
    simp only [raceMachine, RaceSt.step] at hs
    split at hs
    · exact absurd hs (by simp)
    · cases hs
      exact .internal rfl id fun _ _ _ _ => id
  | opened i =>
    simp only [raceMachine, RaceSt.step] at hs
    split at hs
    · cases hs
      exact .internal rfl id fun _ _ _ _ => id
    · exact absurd hs (by simp)
  | finish i =>
    simp only [raceMachine, RaceSt.step] at hs
    split at hs
    · exact absurd hs (by simp)
    · rename_i task ht
      split at hs
      · cases hs
        exact .returned ht rfl rfl rfl
      · exact absurd hs (by simp)
  | othersBind port =>
    simp only [raceMachine, RaceSt.step] at hs
    split at hs
    · exact absurd hs (by simp)
    · rename_i hheld
      cases hs
      refine .internal rfl (fun h => h.of_env fun i task ht hrun hmem => ?_) fun _ _ _ _ => id
      rw [Bool.not_eq_true] at hheld
      exact (List.mem_cons.mp hmem).resolve_left
        (ForwardingMgr.port_ne_of_not_held hheld ht hrun)
  | othersRelease port =>
    cases hs
    exact .internal rfl (fun h => h.of_env fun _ _ _ _ hmem => (List.mem_filter.mp hmem).1)
      fun _ _ _ _ => id

/-- The task has ended. -/
def ForwardingMgr.Ended (m : ForwardingMgr) (i : Nat) : Prop :=
  ∃ task, m.tasks[i]? = some task ∧ task.finished = true

section Step

variable {s s' : RaceSt} {e : RaceEvent} {i : Nat}

/-- Every step keeps the law of the table. -/
theorem RaceStep.law (h : RaceStep s s' e) (hlaw : s.mgr.Law s.env) : s'.mgr.Law s'.env := by
  cases h with
  | cleaned hmgr henv _ =>
    rw [hmgr, henv]
    exact hlaw.retain
  | entered henter henv _ =>
    rw [henv]
    exact hlaw.enter henter
  | returned _ hmgr henv _ =>
    rw [hmgr, henv]
    exact hlaw.finish _
  | internal hmgr hothers _ =>
    rw [hmgr]
    exact hothers hlaw

/-- Every step keeps the tasks and their ports. -/
theorem RaceStep.extends (h : RaceStep s s' e) : s.mgr.Extends s'.mgr := by
  cases h with
  | cleaned hmgr _ _ =>
    rw [hmgr]
    exact ForwardingMgr.extends_retain
  | entered henter _ _ => exact ForwardingMgr.extends_enter henter
  | returned _ hmgr _ _ =>
    rw [hmgr]
    exact ForwardingMgr.extends_finish
  | internal hmgr _ _ =>
    rw [hmgr]
    exact ForwardingMgr.extends_rfl

/-- A task that has ended stays so. -/
theorem RaceStep.ended (h : RaceStep s s' e) (hended : s.mgr.Ended i) : s'.mgr.Ended i := by
  obtain ⟨task, ht, hfin⟩ := hended
  obtain ⟨task', ht', -, hfin'⟩ := h.extends i task ht
  exact ⟨task', ht', hfin' hfin⟩

/-- The event says which tasks end. -/
theorem RaceStep.ended_of_ends (h : RaceStep s s' e) (hends : e.ends i = true) :
    s'.mgr.Ended i := by
  cases h with
  | cleaned hmgr _ _ =>
    exact (ForwardingMgr.mem_stopped.mp (by simpa [RaceEvent.ends] using hends)).2
  | entered henter _ _ =>
    exact (ForwardingMgr.mem_stopped.mp (by simpa [RaceEvent.ends] using hends)).2
  | returned ht hmgr _ _ =>
    obtain rfl : i = _ := by simpa [RaceEvent.ends] using hends
    rw [hmgr]
    exact ⟨_, by rw [ForwardingMgr.getElem?_finish, ht]; rfl, by simp⟩
  | internal _ _ _ => exact absurd hends (by simp [RaceEvent.ends])

/-- A task ends in a step that says so: it returns, or a critical section aborts it. -/
theorem RaceStep.ends_of_ended (h : RaceStep s s' e) {task : ForwardTask}
    (ht : s.mgr.tasks[i]? = some task) (hended : s'.mgr.Ended i) :
    s.mgr.Ended i ∨ e.ends i = true := by
  cases hfin : task.finished with
  | true => exact .inl ⟨task, ht, hfin⟩
  | false =>
    right
    cases h with
    | cleaned _ _ _ =>
      simpa [RaceEvent.ends] using ForwardingMgr.mem_stopped.mpr ⟨⟨task, ht, hfin⟩, hended⟩
    | entered _ _ _ =>
      simpa [RaceEvent.ends] using ForwardingMgr.mem_stopped.mpr ⟨⟨task, ht, hfin⟩, hended⟩
    | returned _ hmgr _ _ =>
      obtain ⟨task', ht', hfin'⟩ := hended
      rw [hmgr, ForwardingMgr.getElem?_finish, ht, Option.map_some, Option.some.injEq] at ht'
      split at ht'
      · rename_i heq
        simp [RaceEvent.ends, heq]
      · rw [← ht', hfin] at hfin'
        exact absurd hfin' (by simp)
    | internal hmgr _ _ =>
      obtain ⟨task', ht', hfin'⟩ := hended
      rw [hmgr, ht, Option.some.injEq] at ht'
      rw [← ht', hfin] at hfin'
      exact absurd hfin' (by simp)

end Step

/-! ## Whole schedules -/

/-- `ended`: a task that an event ended stays so. `dead`: a dead entry is that of a task that returned
since the table was cleaned. `entered`: the entry that an `Add` left behind is dead only for one of the
two reasons. `answering`: an `Add` that is being answered went through its critical section. -/
structure RaceInv (tr : List RaceEvent) (s : RaceSt) : Prop where
  law : s.mgr.Law s.env
  ended : ∀ (i : Nat) (e : RaceEvent), e ∈ tr → e.ends i = true → s.mgr.Ended i
  dead : ∀ (k : Proto) (i : Nat), s.mgr.listeners.lookup k = some i → s.mgr.Ended i →
    .returned i ∈ sinceClean tr
  entered : ∀ (before : List RaceEvent) (c i : Nat) (aborted : List Nat) (after : List RaceEvent),
    tr = before ++ .entered c (some i) aborted :: after →
      (∃ task, s.mgr.tasks[i]? = some task) ∧
        (s.mgr.Ended i → .returned i ∈ sinceClean before ∨ ∃ e ∈ after, e.ends i = true)
  answering : ∀ (c : Nat) (port : UInt16) (remote : Proto) (norebind : Bool) (entry : Option Nat)
    (allocated : Option UInt16), port ≠ 0 →
    s.calls[c]? = some (.answering (.add (.tcp port) remote norebind) entry (.okay allocated)) →
      ∃ i task aborted, entry = some i ∧ .entered c (some i) aborted ∈ tr ∧
        s.mgr.tasks[i]? = some task ∧ task.port = port

section Invariant

variable {tr : List RaceEvent} {s s' : RaceSt} {e : RaceEvent}

theorem RaceInv.new : RaceInv [] RaceSt.new where
  law := ⟨by simp [RaceSt.new, ForwardingMgr.new], by simp [RaceSt.new, ForwardingMgr.new],
    by simp [RaceSt.new]⟩
  ended := by simp
  dead := by simp [RaceSt.new, ForwardingMgr.new]
  entered := by simp
  answering := by simp [RaceSt.new]

/-- An entry that is dead after a step was dead before, or its task returned. -/
theorem RaceInv.dead_step (h : RaceInv tr s) (hs : RaceStep s s' e) {k : Proto} {i : Nat}
    (hk : s'.mgr.listeners.lookup k = some i) (hended : s'.mgr.Ended i) :
    .returned i ∈ sinceClean (tr ++ [e]) := by
  cases hs with
  -- after the clean no entry has an ended task
  | cleaned hmgr _ _ =>
    obtain ⟨task, ht, hfin⟩ := hended
    rw [hmgr] at hk ht
    exact absurd hfin (by simp [ForwardingMgr.running_of_cleanForwards hk ht])
  | entered henter _ _ =>
    obtain ⟨task, ht, hfin⟩ := hended
    obtain ⟨hold, hdead⟩ := ForwardingMgr.finished_of_enter h.law henter hk ht hfin
    rw [sinceClean_snoc (by simp), List.mem_append]
    exact .inl (h.dead k i hold hdead)
  | returned ht hmgr henv hcalls =>
    rw [sinceClean_snoc (by simp), List.mem_append]
    have hk' : s.mgr.listeners.lookup k = some i := by
      rw [hmgr] at hk
      exact hk
    obtain ⟨_, task, -, -, htask, -⟩ := h.law.keys k i hk'
    -- it had ended before, or it is the task that has returned just now
    rcases (RaceStep.returned ht hmgr henv hcalls).ends_of_ended htask hended with hold | hends
    · exact .inl (h.dead k i hk' hold)
    · obtain rfl : i = _ := by simpa [RaceEvent.ends] using hends
      exact .inr (by simp)
  | internal hmgr _ _ =>
    rw [hmgr] at hk hended
    rw [sinceClean_snoc (by simp), List.mem_append]
    exact .inl (h.dead k i hk hended)

/-- What a call is told to have entered is in the table. -/
theorem ForwardingMgr.lookup_of_entryOf {m : ForwardingMgr} {cmd : ForwardCommand}
    {reply : ForwardReply} {i : Nat} (h : m.entryOf cmd reply = some i) :
    ∃ k, m.listeners.lookup k = some i := by
  unfold entryOf at h
  split at h
  · exact ⟨_, h⟩
  · exact ⟨_, h⟩
  · exact absurd h (by simp)

/-- What an `Add` has entered still runs, unless its task returned before the `Add` or an event
since has ended it. -/
theorem RaceInv.entered_step (h : RaceInv tr s) (hs : RaceStep s s' e) {before after : List RaceEvent}
    {c i : Nat} {aborted : List Nat}
    (htr : tr ++ [e] = before ++ .entered c (some i) aborted :: after) :
    (∃ task, s'.mgr.tasks[i]? = some task) ∧
      (s'.mgr.Ended i → .returned i ∈ sinceClean before ∨ ∃ e ∈ after, e.ends i = true) := by
  rcases List.eq_nil_or_concat after with rfl | ⟨after', e', rfl⟩
  · -- the section has just been left
    obtain ⟨rfl, he⟩ := List.append_inj' htr rfl
    obtain rfl : e = .entered c (some i) aborted := by simpa using he
    have hentry : ∃ k, s'.mgr.listeners.lookup k = some i := by
      generalize hev : RaceEvent.entered c (some i) aborted = ev at hs
      cases hs with
      | entered henter _ _ =>
        obtain ⟨-, hentry, -⟩ := RaceEvent.entered.inj hev
        exact ForwardingMgr.lookup_of_entryOf hentry.symm
      | cleaned _ _ _ => cases hev
      | returned _ _ _ _ => cases hev
      | internal _ _ _ => cases hev
    obtain ⟨k, hk⟩ := hentry
    obtain ⟨_, task, -, -, ht, -⟩ := (hs.law h.law).keys k i hk
    refine ⟨⟨task, ht⟩, fun hended => .inl ?_⟩
    have hmem := h.dead_step hs hk hended
    rw [sinceClean_snoc (by simp)] at hmem
    simpa using hmem
  · rw [List.concat_eq_append, ← List.cons_append, ← List.append_assoc] at htr
    obtain ⟨hold, he⟩ := List.append_inj' htr rfl
    obtain rfl : e = e' := by simpa using he
    obtain ⟨⟨task, ht⟩, hold⟩ := h.entered before c i aborted after' hold
    obtain ⟨task', ht', -⟩ := hs.extends i task ht
    refine ⟨⟨task', ht'⟩, fun hended => ?_⟩
    rcases hs.ends_of_ended ht hended with hended | hends
    · rcases hold hended with hmem | ⟨e', hmem, hends⟩
      · exact .inl hmem
      · exact .inr ⟨e', by simp [hmem], hends⟩
    · exact .inr ⟨e, by simp, hends⟩

/-- A call that is being answered after a step was so before, or has just left its section. -/
theorem RaceStep.answering (hs : RaceStep s s' e) {c : Nat} {cmd : ForwardCommand}
    {entry : Option Nat} {reply : ForwardReply}
    (hcall : s'.calls[c]? = some (.answering cmd entry reply)) :
    s.calls[c]? = some (.answering cmd entry reply) ∨
      ∃ pick fresh, s.mgr.enter s.env cmd pick fresh = some (s'.mgr, reply) ∧
        entry = s'.mgr.entryOf cmd reply ∧ e = .entered c entry (s.mgr.stopped s'.mgr) := by
  cases hs with
  | cleaned _ _ hcalls =>
    rw [hcalls, List.getElem?_set] at hcall
    split at hcall
    · split at hcall <;> cases hcall
    · exact .inl hcall
  | entered henter _ hcalls =>
    rw [hcalls, List.getElem?_set] at hcall
    split at hcall
    · -- it is this call that has left its section
      rename_i heq
      subst heq
      split at hcall
      · cases hcall
        exact .inr ⟨_, _, henter, rfl, rfl⟩
      · cases hcall
    · exact .inl hcall
  | returned _ _ _ hcalls =>
    rw [hcalls] at hcall
    exact .inl hcall
  | internal _ _ hcalls => exact .inl (hcalls c cmd entry reply hcall)

/-- Every step keeps the invariant. -/
theorem RaceInv.step (h : RaceInv tr s) (hs : RaceStep s s' e) : RaceInv (tr ++ [e]) s' where
  law := hs.law h.law
  ended i e' hmem hends := by
    rcases List.mem_append.mp hmem with hold | hnew
    · exact hs.ended (h.ended i e' hold hends)
    · obtain rfl : e' = e := by simpa using hnew
      exact hs.ended_of_ends hends
  dead k i hk hended := h.dead_step hs hk hended
  entered before c i aborted after htr := h.entered_step hs htr
  answering c port remote norebind entry allocated hport hcall := by
    rcases hs.answering hcall with hold | ⟨pick, fresh, henter, rfl, rfl⟩
    · obtain ⟨i, task, aborted, hi, hmem, ht, rfl⟩ :=
        h.answering c port remote norebind entry allocated hport hold
      obtain ⟨task', ht', hport', -⟩ := hs.extends i task ht
      exact ⟨i, task', aborted, hi, List.mem_append_left _ hmem, ht', hport'⟩
    · obtain ⟨i, task, hi, ht, rfl⟩ := ForwardingMgr.entryOf_enter h.law hport henter
      exact ⟨i, task, s.mgr.stopped s'.mgr, hi, by simp [hi], ht, rfl⟩

/-- The invariant holds in every interleaving. -/
theorem RaceInv.of_run (hrun : raceMachine.Run RaceSt.new tr s) : RaceInv tr s :=
  hrun.invariant RaceInv RaceInv.new fun _ _ _ _ _ _ h hs => h.step (raceStep_of_step hs)

end Invariant

/-- **When an acknowledged forward is listened on.** In every state in which an `Add` for a fixed port
is about to be answered with `OKAY`, its entry has a task that still listens on the port if and only
if that task was undisturbed: it did not return between the last cleaning of the table and the
critical section of the `Add`, and neither returned nor lost its entry since. -/
theorem acknowledged_listens_iff (tr : List RaceEvent) (s : RaceSt)
    (hrun : raceMachine.Run RaceSt.new tr s) (c : Nat) (port : UInt16) (remote : Proto)
    (norebind : Bool) (entry : Option Nat) (allocated : Option UInt16) (hport : port ≠ 0)
    (hcall : s.calls[c]? =
      some (.answering (.add (.tcp port) remote norebind) entry (.okay allocated))) :
    ∃ i, entry = some i ∧ (s.mgr.Listening port i ↔ Undisturbed tr c i) := by
  have h := RaceInv.of_run hrun
  obtain ⟨i, task, aborted, hi, hmem, ht, rfl⟩ :=
    h.answering c port remote norebind entry allocated hport hcall
  refine ⟨i, hi, ?_, ?_⟩
  · rintro ⟨-, task', ht', -, hrunning⟩
    -- a listening task has never ended
    have hnot : ∀ e ∈ tr, e.ends i = false := by
      intro e he
      by_contra hends
      obtain ⟨task'', ht'', hfin⟩ := h.ended i e he (by simpa using hends)
      rw [ht', Option.some.injEq] at ht''
      rw [ht'', hfin] at hrunning
      exact absurd hrunning (by simp)
    obtain ⟨before, after, rfl⟩ := List.append_of_mem hmem
    refine ⟨before, aborted, after, rfl, fun hret => ?_, fun e he => hnot e (by simp [he])⟩
    have hends := hnot _ (List.mem_append_left _ (mem_of_mem_sinceClean hret))
    simp [RaceEvent.ends] at hends
  · rintro ⟨before, aborted', after, htr, hret, hafter⟩
    -- what ended the task would be in the trace, before the section or after it
    have hrunning : task.finished = false := by
      by_contra hfin
      have hended : s.mgr.Ended i := ⟨task, ht, by simpa using hfin⟩
      rcases (h.entered before c i aborted' after htr).2 hended with hret' | ⟨e, he, hends⟩
      · exact hret hret'
      · exact absurd hends (by simp [hafter e he])
    exact ⟨h.law.running i task ht hrunning, task, ht, rfl, hrunning⟩

/-- The first `Add` for a port, about to be answered. -/
theorem acknowledged_listens_iff_first :
    ∃ tr s, raceMachine.Run RaceSt.new tr s ∧
      s.calls[0]? = some (.answering (.add (.tcp 5000) (.tcp 80) false) (some 0) (.okay none)) ∧
      s.mgr.Listening 5000 0 := by
  obtain ⟨s, tr, hrun, htest⟩ := Machine.exists_run_of_exec (M := raceMachine) (s := RaceSt.new)
    [.request "forward:tcp:5000;tcp:80", .clean 0, .enter 0 (.ok (usbConnection 1)) 0]
    (fun s tr => decide (s.calls[0]? =
        some (CallStage.answering (.add (.tcp 5000) (.tcp 80) false) (some 0) (.okay none))) &&
      decide (tr = [.internal, .cleaned [], .entered 0 (some 0) []])) (by decide +kernel)
  rw [Bool.and_eq_true, decide_eq_true_eq, decide_eq_true_eq] at htest
  obtain ⟨i, hi, hiff⟩ :=
    acknowledged_listens_iff tr s hrun 0 5000 (.tcp 80) false (some 0) none (by decide) htest.1
  obtain rfl : 0 = i := Option.some.inj hi
  refine ⟨tr, s, hrun, htest.1, hiff.mpr ?_⟩
  exact ⟨[.internal, .cleaned []], [], [], htest.2, by simp [sinceClean], by simp⟩

/-- The device of a forward disconnects and a connection arrives between the two sections of a second
`Add` for the port: the task returns, and the `Add` rebinds its entry and is about to answer `OKAY`. -/
theorem acknowledged_unheard :
    ∃ tr s, raceMachine.Run RaceSt.new tr s ∧
      s.calls[1]? = some (.answering (.add (.tcp 5000) (.tcp 81) false) (some 0) (.okay none)) ∧
      ¬ s.mgr.Listening 5000 0 := by
  obtain ⟨s, tr, hrun, htest⟩ := Machine.exists_run_of_exec (M := raceMachine) (s := RaceSt.new)
    [.request "forward:tcp:5000;tcp:80", .clean 0, .enter 0 (.ok (usbConnection 1)) 0, .answer 0,
      .request "forward:tcp:5000;tcp:81", .clean 1, .close 1, .drop 1, .accept 0, .finish 0,
      .enter 1 (.ok (usbConnection 2)) 0]
    (fun s _ => decide (s.calls[1]? =
        some (CallStage.answering (.add (.tcp 5000) (.tcp 81) false) (some 0) (.okay none))) &&
      s.mgr.tasks[0]?.any ForwardTask.finished) (by decide +kernel)
  rw [Bool.and_eq_true, decide_eq_true_eq, Option.any_eq_true] at htest
  obtain ⟨hcall, task, ht, hfin⟩ := htest
  refine ⟨tr, s, hrun, hcall, ?_⟩
  rintro ⟨-, task', ht', -, hrunning⟩
  obtain rfl : task = task' := Option.some.inj (ht.symm.trans ht')
  exact absurd hfin (by simp [hrunning])

end AdbDaemon.Forward
