import AdbDaemon.Common.Machine
import AdbDaemon.Connections.Types

/-!
# The connection manager

Reference: `src/connection/manager.rs`.

The manager keeps every connection in two tables, by serial and by id, and cleans both through the
first. `mgrMachine` takes one whole operation at a time: an allocation, a `new_connection`, the
failure of a transport, a `remove_closed_connections` pass.

As long as no `new_connection` displaces an entry of `by_serial`, and fewer than `2 ^ 64` connections
were allocated, both tables hold the connections that were announced as added and not yet as removed
(`Announced`); everything else follows.
-/

namespace AdbDaemon.Connections

open Common

/-- `ConnectionMgr`: its two tables, the handshakes under way, the ids whose transport has failed,
and the counter of `MaybeConnection::alloc`. -/
structure ConnectionMgr where
  bySerial : Table String Connection
  byId : Table Nat Connection
  /-- The ids whose transport has failed. -/
  closed : List Nat
  /-- The counter of `MaybeConnection::alloc`. -/
  nextId : Nat
  /-- The handshakes under way. -/
  handshakes : List MaybeConnection

/-- A handshake begins, ends with a connection or without one; a connection fails; a pass of the
loop. -/
inductive MgrAct where
  | alloc (serial : String)
  /-- The handshake at `i` is done, and the device sent `banner`. -/
  | newConnection (i : Nat) (banner : Banner)
  /-- The transport with this id fails. -/
  | close (id : Nat)
  | removeClosedConnections

/-- What an operation shows. A pass announces its connections one after the other as removed. -/
inductive MgrEvent where
  | allocated (conn : MaybeConnection)
  | added (c : Connection)
  | closed (id : Nat)
  | passed (removed : List Connection)

namespace ConnectionMgr

/-- `ConnectionMgr::new`, before anything is plugged in. -/
def new : ConnectionMgr where
  bySerial := ∅
  byId := ∅
  closed := []
  nextId := 1
  handshakes := []

/-- `WeakConnection::is_closed`, for a connection that a table keeps alive. -/
def isClosed (m : ConnectionMgr) (c : Connection) : Bool := decide (c.id ∈ m.closed)

/-- `connection_filter`: a connection counts as long as its transport has not failed. -/
def connectionFilter (m : ConnectionMgr) (c : Connection) : Bool := !m.isClosed c

/-- `ConnectionMgr::get`: the entry of the serial, if it passes the filter. -/
def get (m : ConnectionMgr) (serial : String) : Option Connection :=
  (m.bySerial.lookup serial).filter m.connectionFilter

/-- `ConnectionMgr::iter`: the entries of `by_serial` that pass the filter. -/
def iter (m : ConnectionMgr) : List Connection :=
  (Table.values m.bySerial).filter m.connectionFilter

/-- `MaybeConnection::alloc`, which takes the next id. -/
def alloc (m : ConnectionMgr) (serial : String) : MaybeConnection × ConnectionMgr :=
  let conn := ⟨m.nextId, serial⟩
  (conn, { m with nextId := m.nextId + 1, handshakes := m.handshakes ++ [conn] })

def insertBySerial (m : ConnectionMgr) (c : Connection) : ConnectionMgr :=
  { m with bySerial := m.bySerial.insert c.serial c }

def insertById (m : ConnectionMgr) (c : Connection) : ConnectionMgr :=
  { m with byId := m.byId.insert c.id c }

/-- `new_connection`: both tables get the connection, and an older one of its serial is displaced
from `by_serial`. -/
def newConnection (m : ConnectionMgr) (c : Connection) : ConnectionMgr :=
  (m.insertBySerial c).insertById c

/-- The connections a pass collects: the closed ones of `by_serial`. -/
def closedConnections (m : ConnectionMgr) : List Connection :=
  (Table.values m.bySerial).filter m.isClosed

/-- `remove_closed_connections`: `retain` on `by_serial` collects the closed ones, which are then
removed from `by_id`. -/
def removeClosedConnections (m : ConnectionMgr) : List Connection × ConnectionMgr :=
  let removed := m.closedConnections
  (removed,
    { m with
      bySerial := Table.retain m.bySerial fun _ c => !m.isClosed c
      byId := Table.eraseAll m.byId (removed.map Connection.id) })

/-- One operation of the manager, taken as a whole. -/
def step (m : ConnectionMgr) : MgrAct → Option (ConnectionMgr × MgrEvent)
  | .alloc serial => some ((m.alloc serial).2, .allocated (m.alloc serial).1)
  | .newConnection i banner =>
    match m.handshakes[i]? with
    | none => none
    | some conn =>
      let c := conn.create banner
      some ({ m with handshakes := m.handshakes.eraseIdx i }.newConnection c, .added c)
  | .close id =>
    if id < m.nextId then some ({ m with closed := id :: m.closed }, .closed id) else none
  | .removeClosedConnections =>
    some (m.removeClosedConnections.2, .passed m.removeClosedConnections.1)

end ConnectionMgr

/-- The manager, with operations that do not overlap. -/
def mgrMachine : Machine ConnectionMgr MgrAct MgrEvent where
  step := ConnectionMgr.step

/-! ## What a step can do -/

/-- The steps of `mgrMachine`, one constructor each. -/
inductive MgrStep (m : ConnectionMgr) : ConnectionMgr → MgrEvent → Prop
  | alloc (serial : String) :
      MgrStep m
        { m with nextId := m.nextId + 1, handshakes := m.handshakes ++ [⟨m.nextId, serial⟩] }
        (.allocated ⟨m.nextId, serial⟩)
  | newConnection {i : Nat} {conn : MaybeConnection} (banner : Banner)
      (hconn : m.handshakes[i]? = some conn) :
      MgrStep m
        ({ m with handshakes := m.handshakes.eraseIdx i }.newConnection (conn.create banner))
        (.added (conn.create banner))
  | close {id : Nat} (hid : id < m.nextId) :
      MgrStep m { m with closed := id :: m.closed } (.closed id)
  | pass : MgrStep m m.removeClosedConnections.2 (.passed m.closedConnections)

/-- Every step of the machine is one of `MgrStep`, so that the invariants split on its constructors
and never unfold the step. -/
theorem mgrStep_of_step {m m' : ConnectionMgr} {a : MgrAct} {e : MgrEvent}
    (h : mgrMachine.step m a = some (m', e)) : MgrStep m m' e := by
  simp only [mgrMachine, ConnectionMgr.step] at h
  cases a with
  | alloc serial =>
    cases h
    exact .alloc serial
  | newConnection i banner =>
    cases hi : m.handshakes[i]? with
    | none => simp [hi] at h
    | some conn =>
      simp only [hi] at h
      cases h
      exact .newConnection banner hi
  | close id =>
    by_cases hid : id < m.nextId
    · simp only [hid, if_true] at h
      cases h
      exact .close hid
    · simp [hid] at h
  | removeClosedConnections =>
    cases h
    exact .pass

/-- An entry that a `new_connection` overwrites would be lost: the condition excludes it. It also
excludes that the counter of 64 bits comes round and an id is drawn again. -/
def KeysFree (m : ConnectionMgr) (_ : MgrAct) : MgrEvent → Prop
  | .added c => m.bySerial.lookup c.serial = none
  | .allocated conn => conn.id < UInt64.size
  | _ => True

instance (m : ConnectionMgr) (a : MgrAct) (e : MgrEvent) : Decidable (KeysFree m a e) :=
  match e with
  | .added c => inferInstanceAs (Decidable (m.bySerial.lookup c.serial = none))
  | .allocated conn => inferInstanceAs (Decidable (conn.id < UInt64.size))
  | .closed _ => isTrue trivial
  | .passed _ => isTrue trivial

/-! ## The announced connections -/

/-- Announced as added, and by no pass as removed. -/
def Announced (tr : List MgrEvent) (c : Connection) : Prop :=
  .added c ∈ tr ∧ ∀ removed, .passed removed ∈ tr → c ∉ removed

theorem announced_snoc_allocated {tr : List MgrEvent} {c : Connection} {conn : MaybeConnection} :
    Announced (tr ++ [.allocated conn]) c ↔ Announced tr c := by
  simp [Announced]

/-- The failure of a transport announces nothing: a pass has to find it. -/
theorem announced_snoc_closed {tr : List MgrEvent} {c : Connection} {id : Nat} :
    Announced (tr ++ [.closed id]) c ↔ Announced tr c := by
  simp [Announced]

/-- A pass ends the announcement of what it removes. -/
theorem announced_snoc_passed {tr : List MgrEvent} {c : Connection} {removed : List Connection} :
    Announced (tr ++ [.passed removed]) c ↔ Announced tr c ∧ c ∉ removed := by
  simp only [Announced, List.mem_append, List.mem_singleton, reduceCtorEq, or_false,
    MgrEvent.passed.injEq]
  constructor
  · rintro ⟨hadd, hrem⟩
    exact ⟨⟨hadd, fun r hr => hrem r (.inl hr)⟩, hrem removed (.inr rfl)⟩
  · rintro ⟨⟨hadd, hrem⟩, hc⟩
    refine ⟨hadd, ?_⟩
    rintro r (hr | rfl)
    · exact hrem r hr
    · exact hc

/-- A connection that no pass has removed yet is announced when it is added. -/
theorem announced_snoc_added {tr : List MgrEvent} {c d : Connection}
    (hnew : ∀ removed, .passed removed ∈ tr → d ∉ removed) :
    Announced (tr ++ [.added d]) c ↔ Announced tr c ∨ c = d := by
  simp only [Announced, List.mem_append, List.mem_singleton, reduceCtorEq, or_false,
    MgrEvent.added.injEq]
  constructor
  · rintro ⟨hadd | rfl, hrem⟩
    · exact .inl ⟨hadd, hrem⟩
    · exact .inr rfl
  · rintro (⟨hadd, hrem⟩ | rfl)
    · exact ⟨.inl hadd, hrem⟩
    · exact ⟨.inr rfl, hnew⟩

/-! ## The tables hold the announced connections -/

/-- What holds after every run in which no entry is displaced. -/
structure TablesAgree (tr : List MgrEvent) (m : ConnectionMgr) : Prop where
  /-- An entry of `by_serial` is an announced connection under its serial. -/
  bySerial : ∀ k c, m.bySerial.lookup k = some c ↔ c.serial = k ∧ Announced tr c
  /-- An entry of `by_id` is an announced connection under its id. -/
  byId : ∀ i c, m.byId.lookup i = some c ↔ c.id = i ∧ Announced tr c
  closed : ∀ id, id ∈ m.closed ↔ .closed id ∈ tr
  /-- A pass announces only what was added before. -/
  passed : ∀ removed, .passed removed ∈ tr → ∀ c ∈ removed, .added c ∈ tr
  handshakes_nodup : (m.handshakes.map MaybeConnection.id).Nodup
  /-- The ids of the handshakes under way are allocated, and no connection has them. -/
  handshakes_fresh : ∀ conn ∈ m.handshakes, conn.id < m.nextId ∧ ∀ c, .added c ∈ tr → c.id ≠ conn.id
  added_lt : ∀ c, .added c ∈ tr → c.id < m.nextId

namespace TablesAgree

theorem init : TablesAgree [] ConnectionMgr.new where
  bySerial := by simp [ConnectionMgr.new, Announced]
  byId := by simp [ConnectionMgr.new, Announced]
  closed := by simp [ConnectionMgr.new]
  passed := by simp
  handshakes_nodup := by simp [ConnectionMgr.new]
  handshakes_fresh := by simp [ConnectionMgr.new]
  added_lt := by simp

variable {tr : List MgrEvent} {m : ConnectionMgr}

/-- An announced connection is determined by its id. -/
theorem eq_of_id (h : TablesAgree tr m) {c d : Connection} (hc : Announced tr c)
    (hd : Announced tr d) (hid : c.id = d.id) : c = d := by
  have h₁ := (h.byId d.id c).mpr ⟨hid, hc⟩
  have h₂ := (h.byId d.id d).mpr ⟨rfl, hd⟩
  exact Option.some.inj (h₁.symm.trans h₂)

/-- A pass collects the announced connections that are closed. -/
theorem mem_closedConnections (h : TablesAgree tr m) {c : Connection} :
    c ∈ m.closedConnections ↔ Announced tr c ∧ .closed c.id ∈ tr := by
  simp only [ConnectionMgr.closedConnections, List.mem_filter, Table.mem_values, h.bySerial,
    ConnectionMgr.isClosed, decide_eq_true_eq, h.closed]
  simp

/-- The new id is above all others, so it is free in both tables. -/
theorem step_alloc (h : TablesAgree tr m) (serial : String) :
    TablesAgree (tr ++ [.allocated ⟨m.nextId, serial⟩])
      { m with nextId := m.nextId + 1, handshakes := m.handshakes ++ [⟨m.nextId, serial⟩] } where
  bySerial k c := by rw [announced_snoc_allocated, h.bySerial]
  byId i c := by rw [announced_snoc_allocated, h.byId]
  closed id := by simp [h.closed]
  passed removed hr c hc := by
    have hadd := h.passed removed (by simpa using hr) c hc
    simp [hadd]
  handshakes_nodup := by
    rw [List.map_append, List.nodup_append]
    refine ⟨h.handshakes_nodup, by simp, ?_⟩
    -- the ids under way are below the counter
    intro i hi j hj
    obtain ⟨conn, hconn, rfl⟩ := List.mem_map.mp hi
    obtain rfl : j = m.nextId := by simpa using hj
    exact Nat.ne_of_lt (h.handshakes_fresh conn hconn).1
  handshakes_fresh := by
    intro conn hconn
    rcases List.mem_append.mp hconn with hold | hnew
    · obtain ⟨hlt, hfresh⟩ := h.handshakes_fresh conn hold
      exact ⟨Nat.lt_succ_of_lt hlt, fun c hc => hfresh c (by simpa using hc)⟩
    · obtain rfl : conn = ⟨m.nextId, serial⟩ := by simpa using hnew
      exact ⟨Nat.lt_succ_self _, fun c hc => Nat.ne_of_lt (h.added_lt c (by simpa using hc))⟩
  added_lt c hc := Nat.lt_succ_of_lt (h.added_lt c (by simpa using hc))

/-- A failure leaves the tables as they are, until the next pass. -/
theorem step_close (h : TablesAgree tr m) (id : Nat) :
    TablesAgree (tr ++ [.closed id]) { m with closed := id :: m.closed } where
  bySerial k c := by rw [announced_snoc_closed, h.bySerial]
  byId i c := by rw [announced_snoc_closed, h.byId]
  closed id' := by simp [h.closed, or_comm]
  passed removed hr c hc := by
    have hadd := h.passed removed (by simpa using hr) c hc
    simp [hadd]
  handshakes_nodup := h.handshakes_nodup
  handshakes_fresh conn hconn := by simpa using h.handshakes_fresh conn hconn
  added_lt c hc := h.added_lt c (by simpa using hc)

/-- A pass takes the closed connections out of both tables, and announces them: it is their first
pass since they were added and closed. -/
theorem step_pass (h : TablesAgree tr m) :
    TablesAgree (tr ++ [.passed m.closedConnections]) m.removeClosedConnections.2 where
  bySerial k c := by
    rw [announced_snoc_passed, h.mem_closedConnections]
    simp only [ConnectionMgr.removeClosedConnections, Table.lookup_retain_eq_some, h.bySerial,
      ConnectionMgr.isClosed, Bool.not_eq_true', decide_eq_false_iff_not, h.closed]
    tauto
  byId i c := by
    rw [announced_snoc_passed]
    simp only [ConnectionMgr.removeClosedConnections, Table.lookup_eraseAll_eq_some, h.byId,
      List.mem_map, not_exists, not_and]
    constructor
    · rintro ⟨hrem, rfl, hann⟩
      exact ⟨rfl, hann, fun hc => hrem c hc rfl⟩
    · rintro ⟨rfl, hann, hc⟩
      refine ⟨fun d hd hid => hc ?_, rfl, hann⟩
      -- ids are unique among the announced, so another removed one has another id
      rwa [h.eq_of_id hann (h.mem_closedConnections.mp hd).1 hid.symm]
  closed id := by simp [ConnectionMgr.removeClosedConnections, h.closed]
  passed removed hr c hc := by
    rcases List.mem_append.mp hr with hold | hnew
    · exact List.mem_append_left _ (h.passed removed hold c hc)
    · obtain rfl : removed = m.closedConnections := by simpa using hnew
      exact List.mem_append_left _ (h.mem_closedConnections.mp hc).1.1
  handshakes_nodup := h.handshakes_nodup
  handshakes_fresh conn hconn := by
    simpa [ConnectionMgr.removeClosedConnections] using h.handshakes_fresh conn hconn
  added_lt c hc := h.added_lt c (by simpa using hc)

/-- Another handshake under way has another id. -/
theorem handshake_ne (h : TablesAgree tr m) {i : Nat} {conn other : MaybeConnection}
    (hconn : m.handshakes[i]? = some conn) (hother : other ∈ m.handshakes.eraseIdx i) :
    conn.id ≠ other.id := by
  obtain ⟨j, hj, hother⟩ := List.mem_eraseIdx_iff_getElem?.mp hother
  intro hid
  have hlt : i < (m.handshakes.map MaybeConnection.id).length := by
    rw [List.length_map]
    exact (List.getElem?_eq_some_iff.mp hconn).1
  refine hj ((List.getElem?_inj hlt h.handshakes_nodup).mp ?_).symm
  rw [List.getElem?_map, List.getElem?_map, hconn, hother, Option.map_some, Option.map_some, hid]

/-- A new connection with free keys enters both tables. Its id is fresh, so no earlier pass can have
announced it. -/
theorem step_added (h : TablesAgree tr m) {i : Nat} {conn : MaybeConnection} (banner : Banner)
    (hconn : m.handshakes[i]? = some conn) (hfree : m.bySerial.lookup conn.serial = none) :
    TablesAgree (tr ++ [.added (conn.create banner)])
      ({ m with handshakes := m.handshakes.eraseIdx i }.newConnection (conn.create banner)) := by
  obtain ⟨hlt, hfresh⟩ := h.handshakes_fresh conn (List.mem_of_getElem? hconn)
  -- a new id, so no earlier pass can have removed this connection
  have hnew : ∀ removed, .passed removed ∈ tr → conn.create banner ∉ removed := by
    intro removed hr hc
    exact hfresh _ (h.passed removed hr _ hc) rfl
  constructor
  case bySerial =>
    intro k c
    rw [announced_snoc_added hnew]
    refine Table.lookup_insert_keyed (f := Connection.serial) h.bySerial ?_ k c
    intro d hd hserial
    rw [(h.bySerial conn.serial d).mpr ⟨hserial, hd⟩] at hfree
    exact absurd hfree (by simp)
  case byId =>
    intro k c
    rw [announced_snoc_added hnew]
    exact Table.lookup_insert_keyed (f := Connection.id) h.byId (fun d hd => hfresh d hd.1) k c
  case closed =>
    intro id
    simp [ConnectionMgr.newConnection, ConnectionMgr.insertById, ConnectionMgr.insertBySerial,
      h.closed]
  case passed =>
    intro removed hr c hc
    exact List.mem_append_left _ (h.passed removed (by simpa using hr) c hc)
  case handshakes_nodup =>
    exact ((List.eraseIdx_sublist _ _).map _).nodup h.handshakes_nodup
  case handshakes_fresh =>
    intro other hother
    obtain ⟨hlt', hfresh'⟩ := h.handshakes_fresh other (List.mem_of_mem_eraseIdx hother)
    refine ⟨hlt', ?_⟩
    intro c hc
    rcases List.mem_append.mp hc with hold | hadd
    · exact hfresh' c hold
    · obtain rfl : c = conn.create banner := by simpa using hadd
      exact h.handshake_ne hconn hother
  case added_lt =>
    intro c hc
    rcases List.mem_append.mp hc with hold | hadd
    · exact h.added_lt c hold
    · obtain rfl : c = conn.create banner := by simpa using hadd
      exact hlt

/-- One step that displaces no entry. -/
theorem step (h : TablesAgree tr m) {m' : ConnectionMgr} {a : MgrAct} {e : MgrEvent}
    (hs : MgrStep m m' e) (hfree : KeysFree m a e) : TablesAgree (tr ++ [e]) m' := by
  cases hs with
  | alloc serial => exact h.step_alloc serial
  | newConnection banner hconn => exact h.step_added banner hconn hfree
  | close _ => exact h.step_close _
  | pass => exact h.step_pass

/-- Every run that displaces no entry. -/
theorem run (h : (mgrMachine.restrict KeysFree).Run ConnectionMgr.new tr m) :
    TablesAgree tr m := by
  refine Machine.Run.invariant TablesAgree init ?_ h
  intro tr m a m' e _ hinv hs
  obtain ⟨hstep, hfree⟩ := Machine.restrict_step.mp hs
  exact hinv.step (mgrStep_of_step hstep) hfree

end TablesAgree

/-! ## Removal -/

/-- After `pre`, a pass is the first one since `c` was both added and closed. -/
def FirstPassAfter (pre : List MgrEvent) (c : Connection) : Prop :=
  .added c ∈ pre ∧ .closed c.id ∈ pre ∧
    ¬ ∃ pre₁ removed pre₂, pre = pre₁ ++ .passed removed :: pre₂ ∧ .added c ∈ pre₁ ∧
      .closed c.id ∈ pre₁

/-- What a pass removes, read off the trace before it. -/
theorem mem_passed {pre post : List MgrEvent} {removed : List Connection} {m : ConnectionMgr}
    (h : (mgrMachine.restrict KeysFree).Run ConnectionMgr.new (pre ++ .passed removed :: post) m) :
    removed.Nodup ∧ ∀ c, c ∈ removed ↔ Announced pre c ∧ .closed c.id ∈ pre := by
  obtain ⟨m₁, a, m₂, hpre, hs, -⟩ := h.split
  have hinv := TablesAgree.run hpre
  obtain ⟨hstep, -⟩ := Machine.restrict_step.mp hs
  cases mgrStep_of_step hstep with
  | pass =>
    refine ⟨?_, fun c => hinv.mem_closedConnections⟩
    exact (Table.nodup_values fun k c hc => ((hinv.bySerial k c).mp hc).1).filter _

/-- A closed connection is announced until the first pass after its close. -/
theorem announced_iff_firstPassAfter {pre : List MgrEvent} {m : ConnectionMgr}
    (h : (mgrMachine.restrict KeysFree).Run ConnectionMgr.new pre m) {c : Connection} :
    Announced pre c ∧ .closed c.id ∈ pre ↔ FirstPassAfter pre c := by
  constructor
  · rintro ⟨⟨hadd, hrem⟩, hclosed⟩
    refine ⟨hadd, hclosed, ?_⟩
    rintro ⟨pre₁, removed, pre₂, rfl, hadd₁, hclosed₁⟩
    -- an earlier pass after both would have removed it
    refine hrem removed (by simp) (((mem_passed h).2 c).mpr ⟨⟨hadd₁, ?_⟩, hclosed₁⟩)
    intro r hr
    exact hrem r (List.mem_append_left _ hr)
  · rintro ⟨hadd, hclosed, hfirst⟩
    refine ⟨⟨hadd, ?_⟩, hclosed⟩
    intro removed hr hc
    obtain ⟨pre₁, pre₂, rfl⟩ := List.append_of_mem hr
    obtain ⟨hann, hclosed₁⟩ := ((mem_passed h).2 c).mp hc
    exact hfirst ⟨pre₁, removed, pre₂, rfl, hann.1, hclosed₁⟩

/-- After every run in which no `new_connection` finds its serial taken, and fewer than `2 ^ 64` ids
are allocated: the tables hold the same connections; after a pass they hold no closed one; and a pass
announces as removed, once each, exactly the connections for which it is the first pass since they
were added and closed. -/
theorem tables_agree {tr : List MgrEvent} {m : ConnectionMgr}
    (h : (mgrMachine.restrict KeysFree).Run ConnectionMgr.new tr m) :
    (∀ c, c ∈ Table.values m.bySerial ↔ c ∈ Table.values m.byId) ∧
    (∀ pre removed, tr = pre ++ [.passed removed] →
      ∀ c, m.isClosed c = true → c ∉ Table.values m.bySerial ∧ c ∉ Table.values m.byId) ∧
    (∀ pre removed post, tr = pre ++ .passed removed :: post →
      removed.Nodup ∧ ∀ c, c ∈ removed ↔ FirstPassAfter pre c) := by
  have hinv := TablesAgree.run h
  have hserial : ∀ c, c ∈ Table.values m.bySerial ↔ Announced tr c := by
    intro c
    simp [Table.mem_values, hinv.bySerial]
  have hid : ∀ c, c ∈ Table.values m.byId ↔ Announced tr c := by
    intro c
    simp [Table.mem_values, hinv.byId]
  refine ⟨fun c => (hserial c).trans (hid c).symm, ?_, ?_⟩
  · rintro pre removed rfl c hc
    have hgone : ¬ Announced (pre ++ [.passed removed]) c := by
      rw [announced_snoc_passed, (mem_passed h).2 c]
      have hclosed : .closed c.id ∈ pre := by
        simpa [ConnectionMgr.isClosed, hinv.closed] using hc
      tauto
    exact ⟨fun hv => hgone ((hserial c).mp hv), fun hv => hgone ((hid c).mp hv)⟩
  · rintro pre removed post rfl
    obtain ⟨hnodup, hmem⟩ := mem_passed h
    obtain ⟨m₁, -, -, hpre, -, -⟩ := h.split
    exact ⟨hnodup, fun c => (hmem c).trans (announced_iff_firstPassAfter hpre)⟩

/-- A connection to a device of serial `usb`. -/
def usbConnection (id : Nat) : Connection := ⟨id, "usb", ⟨.device, ∅, []⟩⟩

/-- One device connects and disconnects: the next pass removes it. -/
theorem tables_agree_add_close_pass :
    ∃ tr m, (mgrMachine.restrict KeysFree).Run ConnectionMgr.new tr m ∧
      tr = [.allocated ⟨1, "usb"⟩, .added (usbConnection 1), .closed 1, .passed [usbConnection 1]] ∧
      FirstPassAfter (tr.take 3) (usbConnection 1) ∧
      ∀ c, c ∈ Table.values m.bySerial ↔ c ∈ Table.values m.byId := by
  have hrun : (mgrMachine.restrict KeysFree).Run ConnectionMgr.new
      [.allocated ⟨1, "usb"⟩, .added (usbConnection 1), .closed 1, .passed [usbConnection 1]]
      ⟨∅, ∅, [1], 2, []⟩ :=
    Machine.run_of_exec
      [.alloc "usb", .newConnection 0 ⟨.device, ∅, []⟩, .close 1, .removeClosedConnections] rfl
  obtain ⟨hsame, -, hpass⟩ := tables_agree hrun
  exact ⟨_, _, hrun, rfl, ((hpass _ _ [] rfl).2 _).mp (by simp), hsame⟩

/-- Two handshakes for one serial finish one after the other. The first connection stays in `by_id`
only: when it fails, no pass finds it. -/
theorem displaced_connection_stays :
    ∃ pre m, mgrMachine.Run ConnectionMgr.new (pre ++ [.passed []]) m ∧
      .added (usbConnection 1) ∈ pre ∧ .closed 1 ∈ pre ∧
      usbConnection 1 ∈ Table.values m.byId ∧ usbConnection 1 ∉ Table.values m.bySerial := by
  have hrun : mgrMachine.Run ConnectionMgr.new
      ([.allocated ⟨1, "usb"⟩, .allocated ⟨2, "usb"⟩, .added (usbConnection 1),
        .added (usbConnection 2), .closed 1] ++ [.passed []])
      ⟨.singleton "usb" (usbConnection 2),
        .insert 2 (usbConnection 2) (.singleton 1 (usbConnection 1)), [1], 3, []⟩ :=
    Machine.run_of_exec
      [.alloc "usb", .alloc "usb", .newConnection 0 ⟨.device, ∅, []⟩,
        .newConnection 0 ⟨.device, ∅, []⟩, .close 1, .removeClosedConnections] rfl
  refine ⟨_, _, hrun, by simp, by simp, Table.mem_values.mpr ⟨1, rfl⟩, ?_⟩
  simp [Table.values, usbConnection]

end AdbDaemon.Connections
