import AdbDaemon.Transport.Inbound

/-!
# The table of sockets and the ids in it

Reference: `Transport::open_socket`, `PendingSocket::accept` and `TransportBackend::handle_message`
of `packages/transport/src/transport.rs`; `Socket::drop` of `packages/transport/src/socket.rs`.

Ids come from a 32-bit counter, entries are put into the table without a look and removed by id from
two places. As long as the counter has not wrapped, the id of a socket is its index plus one
(`TableLaw`), so ids are unique and an entry is removed only by its own socket. After 2^32 - 1
sockets the counter hands out the id 0 (`socket_id_wraps`).
-/

namespace AdbDaemon.Transport

open Common

/-- `last_id` has not wrapped when a socket takes its id. -/
def IdNotWrapped (b : TransportBackend) (e : HostEvent) : Prop :=
  match e with
  | .created _ => b.lastId ≠ 0
  | _ => True

instance (b : TransportBackend) : (e : HostEvent) → Decidable (IdNotWrapped b e)
  | .created _ => inferInstanceAs (Decidable (_ ≠ _))
  | .sock _ _ | .written _ _ _ | .handled _ _ | .rejected _ _ | .internal => .isTrue trivial

/-- The host, in the schedules in which `last_id` does not wrap. -/
def unwrappedHost : Machine TransportBackend HostAct HostEvent :=
  hostMachine.restrict fun b _ e => IdNotWrapped b e

/-! ## Ids and entries -/

/-- Ids are indices plus one, a socket that is alive and open is in the table, and the reader task
removes only entries of closed sockets. -/
structure TableLaw (b : TransportBackend) : Prop where
  ids : ∀ (r : Nat) (k : Sock), b.backends[r]? = some k → k.localId.toNat = r + 1
  lastId : b.lastId = UInt32.ofNat (b.backends.length + 1) ∧ b.backends.length < 2 ^ 32
  names : TableNames b
  table : ∀ (r : Nat) (k : Sock), b.backends[r]? = some k → k.phase ≠ .dropped →
    k.state.closed = false → b.sockets k.localId = some r
  removing : ∀ id, b.removing = some id →
    ∃ (r : Nat) (k : Sock), b.backends[r]? = some k ∧ k.localId = id ∧ k.state.closed = true

theorem tableLaw_new (connection : UsbConnection) :
    TableLaw (TransportBackend.new connection) where
  ids := by simp [TransportBackend.new]
  lastId := ⟨rfl, by simp [TransportBackend.new]⟩
  names := fun id r h => by simp [TransportBackend.new] at h
  table := by simp [TransportBackend.new]
  removing := by simp [TransportBackend.new]

/-- The counter moves with a new socket, and with nothing else. -/
theorem HostStep.lastId {b b' : TransportBackend} {e : HostEvent} (h : HostStep b b' e) :
    (e = .created b.backends.length ∧ b'.lastId = b.lastId + 1 ∧
        b'.backends.length = b.backends.length + 1 ∧
        b'.sockets b.lastId = some b.backends.length) ∨
      ((∀ r, e ≠ .created r) ∧ b'.lastId = b.lastId ∧ b'.backends.length = b.backends.length) := by
  cases h with
  | create =>
    refine .inl ⟨rfl, rfl, by simp [TransportBackend.create], ?_⟩
    simp [TransportBackend.create]
  | sock => exact .inr ⟨by simp, rfl, by simp [TransportBackend.afterSock]⟩
  | handled => exact .inr ⟨by simp, rfl, by simp⟩
  | writer | rejected | remove | env => exact .inr ⟨by simp, rfl, rfl⟩

/-- The counter, wrapped or not: the ids are taken from it in the order of the sockets. -/
structure CounterLaw (b : TransportBackend) : Prop where
  ids : ∀ (r : Nat) (k : Sock), b.backends[r]? = some k → k.localId = UInt32.ofNat (r + 1)
  lastId : b.lastId = UInt32.ofNat (b.backends.length + 1)

theorem counterLaw_new (connection : UsbConnection) :
    CounterLaw (TransportBackend.new connection) where
  ids := by simp [TransportBackend.new]
  lastId := rfl

/-- A step creates a socket with the next id, or leaves the ids alone. -/
theorem CounterLaw.step {b b' : TransportBackend} {e : HostEvent} (h : CounterLaw b)
    (hstep : HostStep b b' e) : CounterLaw b' where
  ids r k' hr' := by
    rcases hstep.socket hr' with ⟨hlen, -, hnew⟩ | ⟨k, hr, hid, -⟩
    · have hkid : k'.localId = b.lastId := by cases hnew <;> rfl
      rw [hkid, h.lastId, hlen]
    · rw [hid]
      exact h.ids r k hr
  lastId := by
    rcases hstep.lastId with ⟨-, hid, hlen, -⟩ | ⟨-, hid, hlen⟩
    · rw [hid, hlen, h.lastId, ← UInt32.ofNat_one, ← UInt32.ofNat_add]
    · rw [hid, hlen]
      exact h.lastId

/-- The id is the next one of the counter; as long as that has not wrapped, it is not 0 and no socket
has had it. -/
def Fresh (b : TransportBackend) (localId : UInt32) : Prop :=
  localId = b.lastId ∧
    (b.backends.length + 1 < 2 ^ 32 → localId ≠ 0 ∧ ∀ k ∈ b.backends, k.localId ≠ localId)

/-- While the counter has not come round, its value is an id that no socket has had. -/
theorem CounterLaw.fresh {b : TransportBackend} (h : CounterLaw b) : Fresh b b.lastId := by
  refine ⟨rfl, fun hlt => ⟨fun hzero => ?_, fun k hk hid => ?_⟩⟩
  · have hnat := congrArg UInt32.toNat (h.lastId.symm.trans hzero)
    rw [UInt32.toNat_ofNat_of_lt' hlt] at hnat
    cases hnat
  · obtain ⟨r, hr⟩ := List.mem_iff_getElem?.mp hk
    have hindex := (List.getElem?_eq_some_iff.mp hr).1
    have hlt' : r + 1 < 2 ^ 32 := by omega
    -- both ids are counted without a wrap, so they are as different as the indices
    have hnat := congrArg UInt32.toNat ((h.ids r k hr).symm.trans (hid.trans h.lastId))
    rw [UInt32.toNat_ofNat_of_lt' hlt, UInt32.toNat_ofNat_of_lt' hlt'] at hnat
    omega

namespace TableLaw

variable {b b' : TransportBackend} {e : HostEvent}

/-- Local ids are unique. -/
theorem unique (h : TableLaw b) {r r' : Nat} {k k' : Sock} (hr : b.backends[r]? = some k)
    (hr' : b.backends[r']? = some k') (hid : k.localId = k'.localId) : r = r' ∧ k = k' := by
  have h₁ := h.ids r k hr
  have h₂ := h.ids r' k' hr'
  rw [hid] at h₁
  obtain rfl : r = r' := by omega
  exact ⟨rfl, Option.some.inj (hr.symm.trans hr')⟩

/-- The next id is that of no socket, unless it has wrapped. -/
theorem toNat_lastId (h : TableLaw b) (hne : b.lastId ≠ 0) :
    b.lastId.toNat = b.backends.length + 1 ∧ b.backends.length + 1 < 2 ^ 32 := by
  obtain ⟨hid, hlt⟩ := h.lastId
  have hlt' : b.backends.length + 1 < 2 ^ 32 := by
    by_contra hge
    obtain hmax : b.backends.length + 1 = 2 ^ 32 := by omega
    rw [hmax] at hid
    exact hne hid
  exact ⟨by rw [hid, UInt32.toNat_ofNat_of_lt' hlt'], hlt'⟩

/-- The sockets are numbered in the order of their creation. -/
theorem ids_step (h : TableLaw b) (hstep : HostStep b b' e) (hwrap : IdNotWrapped b e) (r : Nat)
    (k' : Sock) (hr' : b'.backends[r]? = some k') : k'.localId.toNat = r + 1 := by
  rcases hstep.socket hr' with ⟨hlen, rfl, hnew⟩ | ⟨k, hr, hid, -⟩
  · have hkid : k'.localId = b.lastId := by cases hnew <;> rfl
    rw [hkid, (h.toNat_lastId hwrap).1, hlen]
  · rw [hid]
    exact h.ids r k hr

/-- The counter is one above the last socket. -/
theorem lastId_step (h : TableLaw b) (hstep : HostStep b b' e) (hwrap : IdNotWrapped b e) :
    b'.lastId = UInt32.ofNat (b'.backends.length + 1) ∧ b'.backends.length < 2 ^ 32 := by
  rcases hstep.lastId with ⟨rfl, hid, hlen, -⟩ | ⟨-, hid, hlen⟩
  · have hlt := (h.toNat_lastId hwrap).2
    rw [hid, hlen, h.lastId.1]
    exact ⟨by rw [← UInt32.ofNat_one, ← UInt32.ofNat_add], hlt⟩
  · rw [hid, hlen]
    exact h.lastId

/-- Only a closed socket is taken out of the table. -/
theorem removing_step (h : TableLaw b) (hstep : HostStep b b' e) :
    ∀ id, b'.removing = some id →
      ∃ (r : Nat) (k : Sock), b'.backends[r]? = some k ∧ k.localId = id ∧
        k.state.closed = true := by
  intro id hid
  -- what was about to be removed still is, or is the socket that was just handed a message
  have hold : b.removing = some id →
      ∃ (r : Nat) (k : Sock), b'.backends[r]? = some k ∧ k.localId = id ∧
        k.state.closed = true := by
    intro hrem
    obtain ⟨r, k, hr, hkid, hcl⟩ := h.removing id hrem
    obtain ⟨k', hr', hid', hmove⟩ := hstep.backend hr
    exact ⟨r, k', hr', hid'.trans hkid, hmove.closed_mono hcl⟩
  cases hstep with
  | @handled r k msg state hidle hsock hr hm =>
    simp only [Option.ite_none_right_eq_some, Option.some.injEq] at hid
    obtain ⟨k₁, hr₁, hk₁⟩ := h.names _ _ hsock
    obtain rfl : k = k₁ := Option.some.inj (hr.symm.trans hr₁)
    exact ⟨r, _, getElem?_set_of_some hr _, hk₁.trans hid.2, hid.1⟩
  | remove hrem => simp at hid
  | create | sock | writer | rejected | env => exact hold hid

/-- An open socket is in the table under its id: only its drop and the dispatch of a `CLSE` to it
take the entry out. -/
theorem table_step (h : TableLaw b) (hstep : HostStep b b' e) (hwrap : IdNotWrapped b e) :
    ∀ (r : Nat) (k : Sock), b'.backends[r]? = some k → k.phase ≠ .dropped →
      k.state.closed = false → b'.sockets k.localId = some r := by
  intro r k' hr' hph hcl
  rcases hstep.socket hr' with ⟨hlen, rfl, hnew⟩ | ⟨k, hr, hid, hcase⟩
  · rcases hstep.lastId with ⟨-, -, -, hsock⟩ | ⟨hne, -⟩
    · have hkid : k'.localId = b.lastId := by cases hnew <;> rfl
      rw [hkid, hsock, hlen]
    · exact absurd rfl (hne r)
  · -- the socket was alive and open before, so it was in the table
    have hwas : k.phase ≠ .dropped := by
      rcases hcase with ⟨rfl, -⟩ | ⟨e', rfl, hsock⟩ | ⟨msg, rfl, hph', -⟩
      · exact hph
      · exact hsock.not_dropped
      · exact hph' ▸ hph
    have hopen : k.state.closed = false := by
      obtain ⟨k'', hr'', -, hmove⟩ := hstep.backend hr
      obtain rfl : k'' = k' := Option.some.inj (hr''.symm.trans hr')
      by_contra hne
      simp [hmove.closed_mono (by simpa using hne)] at hcl
    have hin := h.table r k hr hwas hopen
    rw [hid]
    rcases hstep.table_kept k.localId with
      hkept | ⟨hlast, rfl⟩ | ⟨r₁, k₁, msg, hr₁, hk₁, rfl⟩ | hrem
    · rw [hkept, hin]
    · have hk := h.ids r k hr
      rw [hlast, (h.toNat_lastId hwrap).1] at hk
      have := (List.getElem?_eq_some_iff.mp hr).1
      omega
    · obtain ⟨rfl, rfl⟩ := h.unique hr₁ hr hk₁
      obtain ⟨_, k₂, -, hr₂, -, hsock⟩ := hstep.of_sock
      obtain rfl : k₂ = k' := Option.some.inj (hr₂.symm.trans hr')
      exact absurd (hsock.of_dropped rfl).1 hph
    · obtain ⟨r₁, k₁, hr₁, hk₁, hcl₁⟩ := h.removing _ hrem
      obtain ⟨-, rfl⟩ := h.unique hr₁ hr hk₁
      simp [hopen] at hcl₁

/-- Every step keeps the law of the table, as long as the counter does not come round. -/
theorem step (h : TableLaw b) (hstep : HostStep b b' e) (hwrap : IdNotWrapped b e) :
    TableLaw b' where
  ids := h.ids_step hstep hwrap
  lastId := h.lastId_step hstep hwrap
  names := h.names.step hstep
  table := h.table_step hstep hwrap
  removing := h.removing_step hstep

end TableLaw

/-- A task ends with its socket dropped only by dropping it. -/
theorem SockStep.event_of_dropped {s : Sock} {sh sh' : Shared} {st : State} {ph : Phase}
    {e : SockEvent} (h : SockStep s sh sh' st ph e) (hph : ph = .dropped) : ∃ m, e = .dropped m := by
  cases h with
  | drop | dropNone => exact ⟨_, rfl⟩
  | @submit call _ _ _ _ hphase =>
    rcases hphase with rfl | rfl | rfl
    · simp at hph
    · cases call <;> simp [Call.next] at hph
    · simp at hph
  | @pollWriting call _ _ _ _ hphase =>
    rcases hphase with rfl | ⟨-, rfl⟩ | rfl
    · simp at hph
    · cases call <;> simp [Call.next] at hph
    · simp at hph
  | pollWaiting _ hphase => rcases hphase with rfl | rfl <;> simp at hph
  | shutdownFlush _ hphase => rcases hphase with rfl | ⟨rfl, -⟩ <;> simp at hph
  | _ => simp at hph

/-- `Socket::drop` removes the entry under the id of the socket. -/
theorem HostStep.sockets_of_dropped {b b' : TransportBackend} {r : Nat} {k : Sock}
    {m : Option AdbMessage} (h : HostStep b b' (.sock r (.dropped m)))
    (hr : b.backends[r]? = some k) : b'.sockets k.localId = none := by
  generalize he : SockEvent.dropped m = e at h
  cases h with
  | @sock _ k₀ a n hr₀ hs =>
    obtain ⟨hid, -, -⟩ := Sock.step_cases hs
    obtain rfl : k₀ = k := Option.some.inj (hr₀.symm.trans hr)
    simp [TransportBackend.afterSock, ← he, hid]

/-- Every entry of the table is that of a socket that is alive. -/
def TableAlive (b : TransportBackend) : Prop :=
  ∀ id r k, b.sockets id = some r → b.backends[r]? = some k → k.phase ≠ .dropped

/-- What is in the table was not dropped. -/
theorem TableAlive.step {b b' : TransportBackend} {e : HostEvent} (h : TableAlive b)
    (hnames : TableNames b) (hstep : HostStep b b' e) : TableAlive b' := by
  intro id r k' hid hr' hdrop
  rcases hstep.socket hr' with ⟨-, -, hnew⟩ | ⟨k, hr, hkid, hcase⟩
  · cases hnew <;> simp at hdrop
  · have hlt : r ≠ b.backends.length := (List.getElem?_eq_some_iff.mp hr).1.ne
    rcases hstep.table hid with ⟨hold, -⟩ | ⟨hlen, -⟩
    · rcases hcase with ⟨rfl, -⟩ | ⟨e', rfl, hsock⟩ | ⟨msg, rfl, hph, -⟩
      · exact h id r _ hold hr hdrop
      · -- the task dropped its socket in this step, and removed the entry under its id
        obtain ⟨m, rfl⟩ := hsock.event_of_dropped hdrop
        obtain ⟨k₀, hr₀, rfl⟩ := hnames id r hold
        obtain rfl : k₀ = k := Option.some.inj (hr₀.symm.trans hr)
        simp [hstep.sockets_of_dropped hr] at hid
      · exact h id r k hold hr (hph ▸ hdrop)
    · exact hlt hlen

/-! ## Whole schedules -/

/-- The ids of the sockets that are alive are non-zero and distinct; every entry of the table is the
socket that is alive under that id; every socket that is alive and open is in the table under its
own id; and a message addressed to it is handed to it. -/
structure SocketTable (b : TransportBackend) : Prop where
  nonzero : ∀ k ∈ b.backends, k.phase ≠ .dropped → k.localId ≠ 0
  distinct : ∀ (r r' : Nat) (k k' : Sock), b.backends[r]? = some k → b.backends[r']? = some k' →
    k.phase ≠ .dropped → k'.phase ≠ .dropped → k.localId = k'.localId → r = r'
  entries : ∀ id r, b.sockets id = some r →
    ∃ k, b.backends[r]? = some k ∧ k.localId = id ∧ k.phase ≠ .dropped
  present : ∀ (r : Nat) (k : Sock), b.backends[r]? = some k → k.phase ≠ .dropped →
    k.state.closed = false → b.sockets k.localId = some r
  delivered : ∀ (r : Nat) (k : Sock) (msg : AdbMessage), b.backends[r]? = some k →
    k.phase ≠ .dropped → k.state.closed = false → msg.header.arg1 = k.localId →
    msg.header.command ∈ [.OKAY, .WRTE, .CLSE] → b.removing = none →
    ∃ b' e, hostMachine.step b (.dispatch msg) = some (b', e) ∧
      (e = .handled r msg ∨ e = .rejected r msg)

/-- A message for an entry of the table is handed to the socket of that entry. -/
theorem dispatch_of_entry {b : TransportBackend} {r : Nat} {k : Sock} {msg : AdbMessage}
    (hentry : b.sockets msg.header.arg1 = some r) (hr : b.backends[r]? = some k)
    (hcmd : msg.header.command ∈ [.OKAY, .WRTE, .CLSE]) (hidle : b.removing = none) :
    ∃ b' e, hostMachine.step b (.dispatch msg) = some (b', e) ∧
      (e = .handled r msg ∨ e = .rejected r msg) := by
  have hdispatch : hostMachine.step b (.dispatch msg) = b.handleSocket msg := by
    simp only [List.mem_cons, List.not_mem_nil, or_false] at hcmd
    rcases hcmd with hcmd | hcmd | hcmd <;>
      simp [hostMachine, TransportBackend.step, TransportBackend.dispatch, hidle, hcmd]
  rw [hdispatch, TransportBackend.handleSocket, hentry]
  simp only [hr]
  have hready : ∃ res, handleMessage msg k.state = .ready res := by
    simp only [List.mem_cons, List.not_mem_nil, or_false] at hcmd
    rcases hcmd with hcmd | hcmd | hcmd
    · simp only [handleMessage, hcmd]
      split <;> exact ⟨_, rfl⟩
    · exact ⟨_, by simp only [handleMessage, hcmd]; rfl⟩
    · exact ⟨_, by simp only [handleMessage, hcmd]; rfl⟩
  obtain ⟨res, hres⟩ := hready
  rw [hres]
  cases res with
  | ok state => exact ⟨_, _, rfl, .inl rfl⟩
  | error err => exact ⟨_, _, rfl, .inr rfl⟩

/-- **The socket table.** In every schedule of opens, accepts, dispatches, shutdowns and drops in
which `last_id` does not wrap, ids and table are as they should be. -/
theorem socket_table_of_run (connection : UsbConnection) (tr : List HostEvent)
    (b : TransportBackend)
    (hrun : unwrappedHost.Run (TransportBackend.new connection) tr b) : SocketTable b := by
  have hinv : TableLaw b ∧ TableAlive b := by
    refine hrun.invariant (fun _ b => TableLaw b ∧ TableAlive b) ?_ ?_
    · exact ⟨tableLaw_new connection, fun id r k h => by simp [TransportBackend.new] at h⟩
    · rintro tr b a b' e - ⟨hlaw, halive⟩ hs
      obtain ⟨hs, hwrap⟩ := Machine.restrict_step.mp hs
      have hstep := hostStep_of_step hs
      exact ⟨hlaw.step hstep hwrap, halive.step hlaw.names hstep⟩
  obtain ⟨hlaw, halive⟩ := hinv
  refine ⟨fun k hk _ hzero => ?_, fun r r' k k' hr hr' _ _ hid => (hlaw.unique hr hr' hid).1,
    fun id r hid => ?_, hlaw.table, fun r k msg hr hph hcl harg => ?_⟩
  · obtain ⟨r, hr⟩ := List.mem_iff_getElem?.mp hk
    have hid := hlaw.ids r k hr
    rw [hzero] at hid
    exact absurd hid (by simp)
  · obtain ⟨k, hr, hk⟩ := hlaw.names id r hid
    exact ⟨k, hr, hk, halive id r k hid hr⟩
  · refine dispatch_of_entry ?_ hr
    rw [harg]
    exact hlaw.table r k hr hph hcl

/-- Two sockets, one of which is dropped again. -/
theorem socket_table_of_run_open_drop :
    ∃ b tr, unwrappedHost.Run (TransportBackend.new (UsbConnection.new 512)) tr b ∧
      b.backends.map (fun k => (k.localId, decide (k.phase = .dropped))) =
        [(1, true), (2, false)] ∧ SocketTable b := by
  obtain ⟨b, tr, hrun, htest⟩ := Machine.exists_run_of_exec (M := unwrappedHost)
    (s := TransportBackend.new (UsbConnection.new 512))
    [.openSocket "x", .openSocket "y", .sock 0 .drop]
    (fun b _ => decide (b.backends.map (fun k => (k.localId, decide (k.phase = .dropped))) =
      [(1, true), (2, false)])) (by decide)
  exact ⟨b, tr, hrun, of_decide_eq_true htest, socket_table_of_run _ tr b hrun⟩

/-- Opening a socket creates it. -/
theorem step_openSocket {b : TransportBackend} (herr : b.shared.error = none) (service : String) :
    hostMachine.step b (.openSocket service) =
      some (b.create .openSocket (State.new 0 0) (openMessage service),
        .created b.backends.length) := by
  simp only [hostMachine, TransportBackend.step, Shared.checkError_ok.mpr herr]

/-- A socket can be dropped between its calls. -/
theorem step_drop {b : TransportBackend} {r : Nat} {k : Sock} (hr : b.backends[r]? = some k)
    (hph : k.phase.droppable = true) :
    hostMachine.step b (.sock r .drop) =
      some (b.afterSock r (k.drop b.shared), .sock r (k.drop b.shared).event) := by
  simp only [hostMachine, TransportBackend.step, hr, Sock.step, hph, if_true]

/-- Open a socket and drop the future at once, any number of times. -/
theorem exists_run_open_drop (connection : UsbConnection) (n : Nat) :
    ∃ tr b, hostMachine.Run (TransportBackend.new connection) tr b ∧
      b.shared.error = none ∧ b.lastId = UInt32.ofNat (n + 1) := by
  induction n with
  | zero => exact ⟨[], _, .nil, rfl, rfl⟩
  | succ n ih =>
    obtain ⟨tr, b, hrun, herr, hid⟩ := ih
    have hr : (b.create .openSocket (State.new 0 0) (openMessage "x")).backends[b.backends.length]? =
        some ⟨b.lastId, State.new 0 0, .writing .openSocket (some (openMessage "x" b.lastId))⟩ := by
      simp [TransportBackend.create]
    refine ⟨_, _, (hrun.snoc (step_openSocket herr "x")).snoc (step_drop hr rfl), herr, ?_⟩
    show b.lastId + 1 = _
    rw [hid, ← UInt32.ofNat_one, ← UInt32.ofNat_add]

/-- After 2^32 - 1 sockets `last_id` has wrapped, and the next socket has the id 0. -/
theorem socket_id_wraps :
    ¬ ∀ (connection : UsbConnection) (tr : List HostEvent) (b : TransportBackend),
      hostMachine.Run (TransportBackend.new connection) tr b → SocketTable b := by
  intro h
  obtain ⟨tr, b, hrun, herr, hid⟩ := exists_run_open_drop (UsbConnection.new 512) (2 ^ 32 - 1)
  have htable := h _ _ _ (hrun.snoc (step_openSocket herr "x"))
  refine htable.nonzero
    ⟨b.lastId, State.new 0 0, .writing .openSocket (some (openMessage "x" b.lastId))⟩ ?_ (by simp) hid
  simp [TransportBackend.create]

end AdbDaemon.Transport
