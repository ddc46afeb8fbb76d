import Mathlib.Data.List.Induction
import Mathlib.Order.Nat
import AdbDaemon.Transport.Backend

/-!
# The inbound stream of a socket

Reference: `Socket::poll_read` and `SocketBackend::handle_message` of
`packages/transport/src/socket.rs`, `TransportBackend::handle_message` of
`packages/transport/src/transport.rs`.

`inbound_integrity` is about every socket of every schedule of the host. It rests on two facts: the
schedule, seen from the socket, is a `StateRun` (`stateRun_of_hostRun`), for which
`delivered_append_unread` holds; and a socket that was handed the device's `CLSE` is handed nothing
more (`Detached`), since the reader task removes it from the table before it goes on.
-/

namespace AdbDaemon.Transport

open Common

/-- The bytes reads of one socket delivered. -/
def delivered (r : Nat) (tr : List HostEvent) : List UInt8 :=
  tr.flatMap fun e => (e.toSocket r).delivered

/-- The payloads dispatched to one socket. -/
def payloads (r : Nat) (tr : List HostEvent) : List UInt8 :=
  tr.flatMap fun e => (e.toSocket r).payload

@[simp] theorem delivered_append (r : Nat) (tr tr' : List HostEvent) :
    delivered r (tr ++ tr') = delivered r tr ++ delivered r tr' := List.flatMap_append

@[simp] theorem payloads_append (r : Nat) (tr tr' : List HostEvent) :
    payloads r (tr ++ tr') = payloads r tr ++ payloads r tr' := List.flatMap_append

/-! ## A schedule as one socket sees it -/

/-- Nothing concerns a socket before it is created. -/
theorem HostStep.toSocket_of_length_le {b b' : TransportBackend} {e : HostEvent}
    (h : HostStep b b' e)
    {r : Nat} (hr : b.backends.length ≤ r) : e.toSocket r = .env := by
  have hne : ∀ {r' : Nat} {s : Sock}, b.backends[r']? = some s → r' ≠ r := by
    intro r' s hs
    have := (List.getElem?_eq_some_iff.mp hs).1
    omega
  cases h with
  | sock hr' hs => simp [HostEvent.toSocket, hne hr']
  | handled _ _ hr' _ => simp [HostEvent.toSocket, hne hr']
  | rejected hr' => simp [HostEvent.toSocket, hne hr']
  | create | writer | remove | env => rfl

/-- Events of others leave the state of a socket alone. -/
theorem stateRun_env {localId : UInt32} {st : State} {tr : List SocketEvent}
    (h : ∀ e ∈ tr, e = .env) :
    StateRun localId st tr st := by
  induction tr using List.reverseRecOn with
  | nil => exact .nil
  | append_singleton tr e ih =>
    obtain rfl := h e (by simp)
    exact (ih fun e he => h e (by simp [he])).snoc .env

/-- A new socket has an empty buffer. -/
theorem NewSocket.state {localId : UInt32} {pending : List PendingSocket} {s : Sock}
    (h : NewSocket localId pending s) :
    ∃ rid ack, s.state = State.new rid ack := by
  cases h <;> exact ⟨_, _, rfl⟩

/-- Seen from one socket, every schedule is a run of that socket alone. -/
theorem stateRun_of_hostRun {connection : UsbConnection} {tr : List HostEvent}
    {b : TransportBackend}
    (hrun : hostMachine.Run (TransportBackend.new connection) tr b) {r : Nat} {s : Sock}
    (hr : b.backends[r]? = some s) :
    ∃ rid ack, StateRun s.localId (State.new rid ack) (tr.map (HostEvent.toSocket r)) s.state := by
  -- a socket that does not exist yet has only seen `env`
  have hinv := hrun.invariant (fun tr b =>
    (∀ r s, b.backends[r]? = some s →
      ∃ rid ack, StateRun s.localId (State.new rid ack) (tr.map (HostEvent.toSocket r)) s.state) ∧
    ∀ r, b.backends.length ≤ r → ∀ e ∈ tr, e.toSocket r = .env) ?_ ?_
  · exact hinv.1 r s hr
  · exact ⟨fun r s hr => by simp [TransportBackend.new] at hr, by simp⟩
  · rintro tr b a b' e - ⟨hruns, hfresh⟩ hs
    have hstep := hostStep_of_step hs
    refine ⟨fun r s' hr' => ?_, fun r hr e' he' => ?_⟩
    · rw [List.map_append, List.map_cons, List.map_nil]
      rcases hstep.socket hr' with ⟨hlen, -, hnew⟩ | ⟨s, hr, hid, -⟩
      · obtain ⟨rid, ack, hst⟩ := hnew.state
        refine ⟨rid, ack, ?_⟩
        rw [hst]
        refine .snoc (stateRun_env ?_) ?_
        · intro e' he'
          obtain ⟨e₁, he₁, rfl⟩ := List.mem_map.mp he'
          exact hfresh r hlen.ge e₁ he₁
        · rw [hstep.toSocket_of_length_le hlen.ge]
          exact .env
      · obtain ⟨rid, ack, hprev⟩ := hruns r s hr
        obtain ⟨s'', hr'', -, hmove⟩ := hstep.backend hr
        obtain rfl : s'' = s' := Option.some.inj (hr''.symm.trans hr')
        rw [hid]
        exact ⟨rid, ack, hprev.snoc hmove⟩
    · have hlen := hstep.length_le
      rcases List.mem_append.mp he' with he' | he'
      · exact hfresh r (by omega) e' he'
      · obtain rfl : e' = e := by simpa using he'
        exact hstep.toSocket_of_length_le (by omega)

/-- Nothing is lost, duplicated or reordered. -/
theorem delivered_append_unread_of_hostRun {connection : UsbConnection} {tr : List HostEvent}
    {b : TransportBackend} (hrun : hostMachine.Run (TransportBackend.new connection) tr b) {r : Nat}
    {s : Sock} (hr : b.backends[r]? = some s) :
    delivered r tr ++ s.state.unread = payloads r tr := by
  obtain ⟨rid, ack, h⟩ := stateRun_of_hostRun hrun hr
  have := delivered_append_unread h
  simpa [delivered, payloads, List.flatMap_map, State.unread, State.new] using this

/-! ## After the device's `CLSE` -/

/-- The table names a socket only under its own id. -/
def TableNames (b : TransportBackend) : Prop :=
  ∀ id r, b.sockets id = some r → ∃ s, b.backends[r]? = some s ∧ s.localId = id

/-- An entry is only ever made for a socket with this id. -/
theorem TableNames.step {b b' : TransportBackend} {e : HostEvent} (h : TableNames b)
    (hstep : HostStep b b' e) : TableNames b' := by
  intro id r hid
  rcases hstep.table hid with ⟨hold, -⟩ | ⟨rfl, rfl, rfl⟩
  · obtain ⟨s, hr, hs⟩ := h id r hold
    obtain ⟨s', hr', hs', -⟩ := hstep.backend hr
    exact ⟨s', hr', hs'.trans hs⟩
  · cases hstep with
    | @create call state msg _ _ =>
      exact ⟨⟨b.lastId, state, .writing call (some (msg b.lastId))⟩,
        by simp [TransportBackend.create], rfl⟩

/-- In every run an entry leads to a socket that has its id. -/
theorem tableNames_of_run {connection : UsbConnection} {tr : List HostEvent} {b : TransportBackend}
    (hrun : hostMachine.Run (TransportBackend.new connection) tr b) : TableNames b :=
  hrun.invariant (fun _ b => TableNames b) (fun id r h => by simp [TransportBackend.new] at h)
    fun _ _ _ _ _ _ h hs => h.step (hostStep_of_step hs)

/-- The reader task will not hand the socket another message: it is not in the table, or about to be
removed from it. -/
def Detached (b : TransportBackend) (r : Nat) : Prop :=
  r < b.backends.length ∧ ∀ id, b.sockets id = some r → b.removing = some id

/-- A socket that has left the table is handed no message. -/
theorem Detached.not_handled {b b' : TransportBackend} {e : HostEvent} {r : Nat} (h : Detached b r)
    (hstep : HostStep b b' e) (msg : AdbMessage) : e ≠ .handled r msg := by
  rintro rfl
  cases hstep with
  | handled hidle hid hr hm => simpa [hidle] using h.2 _ hid

/-- It never enters the table again. -/
theorem Detached.step {b b' : TransportBackend} {e : HostEvent} {r : Nat} (h : Detached b r)
    (hstep : HostStep b b' e) : Detached b' r := by
  refine ⟨h.1.trans_le hstep.length_le, fun id hid => ?_⟩
  rcases hstep.table hid with ⟨hold, hrem⟩ | ⟨hlen, -⟩
  · exact hrem (h.2 id hold)
  · exact absurd hlen h.1.ne

/-- A socket that is handed the device's `CLSE` is detached. -/
theorem HostStep.detached_of_clse {b b' : TransportBackend} {r : Nat} {msg : AdbMessage}
    (hstep : HostStep b b' (.handled r msg)) (hnames : TableNames b)
    (hcmd : msg.header.command = .CLSE) : Detached b' r := by
  cases hstep with
  | @handled _ s _ state hidle hid hr hm =>
    have hclosed : state.closed = true := by
      simp only [handleMessage, hcmd, Outcome.ready.injEq, Except.ok.injEq] at hm
      rw [← hm]
    refine ⟨?_, fun id' hid' => ?_⟩
    · simpa using (List.getElem?_eq_some_iff.mp hr).1
    · -- both entries name the socket, so they are under its id
      obtain ⟨s₁, hs₁, h₁⟩ := hnames _ _ hid
      obtain ⟨s₂, hs₂, h₂⟩ := hnames _ _ hid'
      obtain rfl : s₁ = s₂ := Option.some.inj (hs₁.symm.trans hs₂)
      simp only [hclosed, if_true, ← h₁, ← h₂]

/-- From then on no message is handed to it, and it stays closed. -/
theorem detached_of_run {b₀ b : TransportBackend} {tr : List HostEvent}
    (hrun : hostMachine.Run b₀ tr b) {r : Nat} (h : Detached b₀ r)
    (hcl : ∃ s, b₀.backends[r]? = some s ∧ s.state.closed = true) :
    Detached b r ∧ (∃ s, b.backends[r]? = some s ∧ s.state.closed = true) ∧
      ∀ msg, .handled r msg ∉ tr := by
  refine hrun.invariant (fun tr b => Detached b r ∧
    (∃ s, b.backends[r]? = some s ∧ s.state.closed = true) ∧ ∀ msg, .handled r msg ∉ tr)
    ⟨h, hcl, by simp⟩ ?_
  rintro tr b a b' e - ⟨hdet, ⟨s, hr, hs⟩, hnone⟩ hstep
  have hstep := hostStep_of_step hstep
  obtain ⟨s', hr', -, hmove⟩ := hstep.backend hr
  refine ⟨hdet.step hstep, ⟨s', hr', hmove.closed_mono hs⟩, fun msg hmem => ?_⟩
  rcases List.mem_append.mp hmem with hmem | hmem
  · exact hnone msg hmem
  · obtain rfl : .handled r msg = e := by simpa using hmem
    exact hdet.not_handled hstep msg rfl

/-! ## Reads -/

/-- A read into a non-empty buffer that returns no bytes: the socket is closed and nothing is
left. -/
theorem pollRead_eof {localId : UInt32} {n : Nat} {st : State} {sh : Shared} (hn : 0 < n)
    (h : (pollRead localId n st sh).outcome = .ready (.ok [])) :
    st.closed = true ∧ st.unread = [] ∧ (pollRead localId n st sh).state.readBuffer = [] := by
  rcases pollRead_cases localId st sh n with
    ⟨hstop, -⟩ | ⟨-, -, hst, ⟨hcl, ho, -⟩ | ⟨-, -, ho, -⟩ | ⟨-, hb, ho, -⟩⟩
  · exact absurd h (hstop.ne_ok [])
  · rw [ho, Outcome.ready.injEq, Except.ok.injEq] at h
    have hunread : st.unread = [] := by
      rcases List.take_eq_nil_iff.mp h with h0 | h0
      · omega
      · exact h0
    refine ⟨hcl, hunread, ?_⟩
    rw [hst]
    exact fill_snd_eq_nil hn ((fill_fst n st.readBuffer).trans h)
  · rw [ho] at h
    exact absurd h (by simp)
  · rw [ho, Outcome.ready.injEq, Except.ok.injEq] at h
    exact absurd h hb

/-- A read of a closed socket that gets past the flush returns the next bytes there are. -/
theorem pollRead_closed {localId : UInt32} {n : Nat} {st : State} {sh sh' : Shared}
    (hcl : st.closed = true) (herr : sh.error = none) (hf : sh.pollFlush = (.ready (.ok ()), sh')) :
    (pollRead localId n st sh).outcome = .ready (.ok (st.unread.take n)) := by
  rcases pollRead_cases localId st sh n with
    ⟨-, hstop⟩ | ⟨-, -, -, ⟨-, ho, -⟩ | ⟨hop, -⟩ | ⟨hop, -⟩⟩
  · exact absurd ⟨herr, sh', hf⟩ hstop
  · exact ho
  · simp [hcl] at hop
  · simp [hcl] at hop

/-- After a read that returned no bytes nothing is left to read. -/
theorem StateStep.unread_of_eof {localId : UInt32} {st st' : State} {n : Nat}
    {sent : List AdbMessage}
    (h : StateStep localId st st' (.read n (.ready (.ok [])) sent)) (hn : 0 < n) :
    st'.unread = [] := by
  generalize ho : (Outcome.ready (.ok []) : Outcome IoError (List UInt8)) = o at h
  cases h with
  | readStopped hstop => exact absurd ho.symm (hstop [])
  | readEmpty => exact absurd ho (by simp)
  | readClosed hcl =>
    rw [Outcome.ready.injEq, Except.ok.injEq] at ho
    rcases List.take_eq_nil_iff.mp ho.symm with h0 | h0
    · omega
    · rw [unread_afterRead, h0, List.drop_nil]
  | readBytes hcl hb =>
    rw [Outcome.ready.injEq, Except.ok.injEq] at ho
    exact absurd ho.symm hb

/-- Only messages handed to the socket bring payloads. -/
theorem payloads_eq_nil {r : Nat} {tr : List HostEvent} (h : ∀ msg, .handled r msg ∉ tr) :
    payloads r tr = [] := by
  refine List.flatMap_eq_nil_iff.mpr fun e he => ?_
  cases e with
  | handled r' msg =>
    have hne : r' ≠ r := by
      rintro rfl
      exact h msg he
    simp [HostEvent.toSocket, hne, SocketEvent.payload]
  | sock r' e =>
    simp only [HostEvent.toSocket]
    split
    · cases e <;> rfl
    · rfl
  | rejected r' msg =>
    simp only [HostEvent.toSocket]
    split <;> rfl
  | created | written | internal => rfl

/-- **Inbound stream integrity.** For every socket of every schedule: the bytes delivered, followed
by the bytes buffered, are the payloads dispatched; a read into a non-empty buffer returns no bytes
only when the socket is closed and its buffer empty; and once the device's `CLSE` was handled,
nothing more is dispatched to the socket, each read that gets past the flush returns the next of the
bytes that preceded the `CLSE`, and after a read without bytes all of them were delivered and every
further read is without bytes. -/
theorem inbound_integrity (connection : UsbConnection) (tr : List HostEvent) (b : TransportBackend)
    (hrun : hostMachine.Run (TransportBackend.new connection) tr b) (r : Nat) (s : Sock)
    (hr : b.backends[r]? = some s) :
    delivered r tr ++ s.state.unread = payloads r tr ∧
      (∀ n, 0 < n → (pollRead s.localId n s.state b.shared).outcome = .ready (.ok []) →
        s.state.closed = true ∧ s.state.unread = [] ∧
          (pollRead s.localId n s.state b.shared).state.readBuffer = []) ∧
      ∀ pre msg post, tr = pre ++ .handled r msg :: post → msg.header.command = .CLSE →
        s.state.closed = true ∧ (∀ m, .handled r m ∉ post) ∧
          delivered r tr ++ s.state.unread = payloads r pre ∧
          (∀ n sh', b.shared.error = none → b.shared.pollFlush = (.ready (.ok ()), sh') →
            (pollRead s.localId n s.state b.shared).outcome = .ready (.ok (s.state.unread.take n))) ∧
          ∀ mid n sent rest, post = mid ++ .sock r (.read n (.ready (.ok [])) sent) :: rest → 0 < n →
            delivered r (pre ++ .handled r msg :: mid) = payloads r pre ∧
              delivered r rest = [] := by
  have hlaw := delivered_append_unread_of_hostRun hrun hr
  refine ⟨hlaw, fun n hn h => pollRead_eof hn h, ?_⟩
  rintro pre msg post rfl hcmd
  obtain ⟨b₁, a, b₂, hpre, hs, hpost⟩ := hrun.split
  have hdet := (hostStep_of_step hs).detached_of_clse (tableNames_of_run hpre) hcmd
  have hcl := (hostStep_of_step hs).closed_of_clse hcmd
  obtain ⟨-, ⟨s', hr', hclosed⟩, hnone⟩ := detached_of_run hpost hdet hcl
  obtain rfl : s' = s := Option.some.inj (hr'.symm.trans hr)
  -- the `CLSE` and what follows bring no payload
  have hpay : ∀ tr', (∀ m, .handled r m ∉ tr') →
      payloads r (pre ++ .handled r msg :: tr') = payloads r pre := by
    intro tr' htr'
    rw [payloads_append, ← List.singleton_append, payloads_append, payloads_eq_nil htr']
    simp [payloads, HostEvent.toSocket, SocketEvent.payload, hcmd]
  rw [hpay post hnone] at hlaw
  refine ⟨hclosed, hnone, hlaw, fun n sh' herr hf => pollRead_closed hclosed herr hf, ?_⟩
  rintro mid n sent rest rfl hn
  obtain ⟨b₃, a', b₄, hmid, hread, -⟩ := hpost.split
  obtain ⟨-, ⟨s₃, hr₃, -⟩, hnone₃⟩ := detached_of_run hmid hdet hcl
  obtain ⟨s₄, hr₄, -, hmove⟩ := (hostStep_of_step hread).backend hr₃
  simp only [HostEvent.toSocket, if_true, SockEvent.toSocket] at hmove
  have hrun₃ := (hpre.snoc hs).trans hmid
  rw [List.append_assoc, List.singleton_append] at hrun₃
  have hlaw₄ := delivered_append_unread_of_hostRun (hrun₃.snoc hread) hr₄
  have hempty : delivered r [.sock r (.read n (.ready (.ok [])) sent)] = [] := by
    simp [delivered, HostEvent.toSocket, SockEvent.toSocket, SocketEvent.delivered]
  have hno : payloads r [.sock r (.read n (.ready (.ok [])) sent)] = [] := payloads_eq_nil (by simp)
  rw [hmove.unread_of_eof hn, delivered_append, payloads_append, hempty, hno, hpay mid hnone₃,
    List.append_nil, List.append_nil, List.append_nil] at hlaw₄
  refine ⟨hlaw₄, ?_⟩
  have hsplit : delivered r (pre ++ .handled r msg ::
      (mid ++ .sock r (.read n (.ready (.ok [])) sent) :: rest)) =
        payloads r pre ++ delivered r rest := by
    rw [← List.cons_append, ← List.append_assoc, delivered_append, hlaw₄,
      ← List.singleton_append (l := rest), delivered_append, hempty, List.nil_append]
  rw [hsplit, List.append_assoc, List.append_right_eq_self, List.append_eq_nil_iff] at hlaw
  exact hlaw.1

/-- Two payloads and the `CLSE`, read in pieces up to the end of file. -/
theorem inbound_integrity_read_to_eof :
    ∃ b tr, hostMachine.Run (TransportBackend.new (UsbConnection.new 512)) tr b ∧
      payloads 0 tr = [1, 2, 3] ∧ delivered 0 tr = [1, 2, 3] := by
  obtain ⟨b, tr, hrun, htest⟩ := Machine.exists_run_of_exec (M := hostMachine)
    (s := TransportBackend.new (UsbConnection.new 512))
    [.openSocket "x", .sock 0 .poll, .complete (.ok ()), .complete (.ok ()), .sock 0 .poll,
      .dispatch (AdbMessage.new .OKAY 7 1 (toLeBytes 100)), .sock 0 .poll,
      .dispatch (AdbMessage.new .WRTE 7 1 [1]), .dispatch (AdbMessage.new .WRTE 7 1 [2, 3]),
      .dispatch (AdbMessage.new .CLSE 7 1 []), .removeClosed, .sock 0 (.read 2), .sock 0 (.read 2),
      .sock 0 (.read 2)]
    (fun b tr => decide (payloads 0 tr = [1, 2, 3] ∧
      (b.backends[0]?.map fun (s : Sock) => s.state.unread) = some [])) (by decide)
  obtain ⟨hpay, hunread⟩ := of_decide_eq_true htest
  obtain ⟨s, hr, hs⟩ := Option.map_eq_some_iff.mp hunread
  have h := (inbound_integrity _ tr b hrun 0 s hr).1
  rw [hs, hpay, List.append_nil] at h
  exact ⟨b, tr, hrun, hpay, h⟩

end AdbDaemon.Transport
