import AdbDaemon.Common.Machine
import AdbDaemon.Transport.Socket

/-!
# One socket over any schedule: credit and bytes

Reference: `packages/transport/src/socket.rs`.

`socketMachine` is one socket in an environment that may do anything to the shared connection
between two of its operations: other sockets write, transfers complete, the transport fails. Its
runs are all sequences of socket operations and dispatched messages.

* `sender_credit` — credit is conserved, and what `poll_write` and `poll_flush` report about it.
* `delivered_append_unread` — bytes delivered, then bytes buffered, are the bytes dispatched.
-/

namespace AdbDaemon.Transport

open Common

/-- One socket and the connection it shares. -/
structure SocketSt where
  state : State
  shared : Shared

/-- The operations of a socket, and what others do to the transport. -/
inductive SocketAct where
  | handle (msg : AdbMessage)
  | read (remaining : Nat)
  | write (buf : List UInt8) (tick : Bool)
  | flush
  | shutdown
  /-- Everything else that can happen to the shared connection. -/
  | env (shared : Shared)

/-- What an operation returned and submitted. -/
inductive SocketEvent where
  | handled (msg : AdbMessage)
  /-- `handle_message` returned an error. -/
  | refused (msg : AdbMessage)
  | read (remaining : Nat) (outcome : Outcome IoError (List UInt8)) (sent : List AdbMessage)
  | wrote (buf : List UInt8) (outcome : Outcome IoError Nat) (sent : List AdbMessage)
  | flushed (outcome : Outcome IoError Unit)
  | shutdown (msg : Option AdbMessage)
  | env
deriving DecidableEq

/-- One operation, or any change of the shared state by others. -/
def SocketSt.step (localId : UInt32) (s : SocketSt) : SocketAct → Option (SocketSt × SocketEvent)
  | .handle msg =>
    match handleMessage msg s.state with
    | .ready (.ok state) => some ({ s with state }, .handled msg)
    | .ready (.error _) => some (s, .refused msg)
    | _ => none
  | .read remaining =>
    let p := pollRead localId remaining s.state s.shared
    some (⟨p.state, p.shared⟩, .read remaining p.outcome p.sent)
  | .write buf tick =>
    let p := pollWrite localId buf tick s.state s.shared
    some (⟨p.state, p.shared⟩, .wrote buf p.outcome p.sent)
  | .flush =>
    let p := pollFlush s.state s.shared
    some (⟨p.state, p.shared⟩, .flushed p.outcome)
  | .shutdown =>
    let (msg, state) := Transport.shutdown localId s.state s.shared
    some ({ s with state }, .shutdown msg)
  | .env shared => some ({ s with shared }, .env)

/-- One socket, in an arbitrary transport. -/
def socketMachine (localId : UInt32) : Machine SocketSt SocketAct SocketEvent :=
  ⟨SocketSt.step localId⟩

/-- What one step can do to the state of the socket, with the event it emits. -/
inductive StateStep (localId : UInt32) (st : State) : State → SocketEvent → Prop
  | grant {msg : AdbMessage} {avail : UInt32} (hcmd : msg.header.command = .OKAY)
      (hav : fromLeBytes msg.payload = some avail) :
      StateStep localId st (st.granted msg.header.arg0 avail) (.handled msg)
  | payload {msg : AdbMessage} (hcmd : msg.header.command = .WRTE) :
      StateStep localId st { st with readBuffer := st.readBuffer ++ [msg.payload] } (.handled msg)
  | close {msg : AdbMessage} (hcmd : msg.header.command = .CLSE) :
      StateStep localId st { st with closed := true } (.handled msg)
  | refuse {msg : AdbMessage} : StateStep localId st st (.refused msg)
  | readStopped {n : Nat} {o : Outcome IoError (List UInt8)}
      (ho : ∀ bytes, o ≠ .ready (.ok bytes)) :
      StateStep localId st st (.read n o [])
  | readEmpty {n : Nat} (hcl : st.closed = false) (hb : st.readable n = []) :
      StateStep localId st (st.afterRead n) (.read n .pending [])
  | readClosed {n : Nat} (hcl : st.closed = true) :
      StateStep localId st (st.afterRead n) (.read n (.ready (.ok (st.readable n))) [])
  | readBytes {n : Nat} (hcl : st.closed = false) (hb : st.readable n ≠ []) :
      StateStep localId st (st.afterRead n)
        (.read n (.ready (.ok (st.readable n))) [readOkay localId st (st.readable n)])
  | writeStopped {buf : List UInt8} {o : Outcome IoError Nat} (ho : ∀ n, o ≠ .ready (.ok n)) :
      StateStep localId st st (.wrote buf o [])
  | write {buf : List UInt8} (hcl : st.closed = false) (hack : 0 < st.acknowledged) :
      StateStep localId st { st with acknowledged := st.acknowledged - st.writable buf }
        (.wrote buf (.ready (.ok (st.writable buf))) [writeWrte localId st buf])
  | flush {o : Outcome IoError Unit} : StateStep localId st st (.flushed o)
  | shutdown (hcl : st.closed = false) :
      StateStep localId st { st with closed := true }
        (.shutdown (some (AdbMessage.new .CLSE localId st.remoteId [])))
  | shutdownNone : StateStep localId st st (.shutdown none)
  | env : StateStep localId st st .env

/-- Every step is one of these: a poll that stopped, one that did something, a message that was
handled, or one that was refused. -/
theorem stateStep_of_step {localId : UInt32} {s s' : SocketSt} {a : SocketAct} {e : SocketEvent}
    (h : (socketMachine localId).step s a = some (s', e)) :
    StateStep localId s.state s'.state e := by
  cases a with
  | handle msg =>
    simp only [socketMachine, SocketSt.step] at h
    split at h
    · rename_i st' hm
      simp only [Option.some.injEq, Prod.mk.injEq] at h
      obtain ⟨rfl, rfl⟩ := h
      rcases handleMessage_cases s.state hm with ⟨hcmd, avail, hav, rfl⟩ | ⟨hcmd, rfl⟩ | ⟨hcmd, rfl⟩
      · exact .grant hcmd hav
      · exact .payload hcmd
      · exact .close hcmd
    · simp only [Option.some.injEq, Prod.mk.injEq] at h
      obtain ⟨rfl, rfl⟩ := h
      exact .refuse
    · simp at h
  | read n =>
    simp only [socketMachine, SocketSt.step, Option.some.injEq, Prod.mk.injEq] at h
    obtain ⟨rfl, rfl⟩ := h
    rcases pollRead_cases localId s.state s.shared n with
      ⟨hstop, -⟩ | ⟨-, -, hst, ⟨hcl, ho, hsent⟩ | ⟨hcl, hb, ho, hsent⟩ | ⟨hcl, hb, ho, hsent⟩⟩
    · rw [hstop.state, hstop.sent]
      exact .readStopped hstop.ne_ok
    · rw [hst, ho, hsent]
      exact .readClosed hcl
    · rw [hst, ho, hsent]
      exact .readEmpty hcl hb
    · rw [hst, ho, hsent]
      exact .readBytes hcl hb
  | write buf tick =>
    simp only [socketMachine, SocketSt.step, Option.some.injEq, Prod.mk.injEq] at h
    obtain ⟨rfl, rfl⟩ := h
    rcases pollWrite_cases localId s.state s.shared buf tick with
      hstop | ⟨-, hcl, hack, ho, hsent, hst⟩
    · rw [hstop.state, hstop.sent]
      exact .writeStopped hstop.ne_ok
    · rw [hst, ho, hsent]
      exact .write hcl hack
  | flush =>
    simp only [socketMachine, SocketSt.step, Option.some.injEq, Prod.mk.injEq] at h
    obtain ⟨rfl, rfl⟩ := h
    rw [(pollFlush_cases s.state s.shared).1]
    exact .flush
  | shutdown =>
    simp only [socketMachine, SocketSt.step, Option.some.injEq, Prod.mk.injEq] at h
    obtain ⟨rfl, rfl⟩ := h
    rcases shutdown_cases localId s.state s.shared with ⟨-, hcl, heq⟩ | ⟨-, heq⟩
    · rw [heq]
      exact .shutdown hcl
    · rw [heq]
      exact .shutdownNone
  | env shared =>
    simp only [socketMachine, SocketSt.step, Option.some.injEq, Prod.mk.injEq] at h
    obtain ⟨rfl, rfl⟩ := h
    exact .env

/-- A closed socket stays closed. -/
theorem StateStep.closed_mono {localId : UInt32} {st st' : State} {e : SocketEvent}
    (h : StateStep localId st st' e) (hcl : st.closed = true) : st'.closed = true := by
  cases h <;> first | exact hcl | rfl

/-- A sequence of such steps: what a schedule looks like from the state of one socket. -/
inductive StateRun (localId : UInt32) (st₀ : State) : List SocketEvent → State → Prop
  | nil : StateRun localId st₀ [] st₀
  | snoc {tr : List SocketEvent} {st st' : State} {e : SocketEvent} :
      StateRun localId st₀ tr st → StateStep localId st st' e → StateRun localId st₀ (tr ++ [e]) st'

/-- A run of the socket is one of its state. -/
theorem stateRun_of_run {localId : UInt32} {s₀ s : SocketSt} {tr : List SocketEvent}
    (h : (socketMachine localId).Run s₀ tr s) : StateRun localId s₀.state tr s.state := by
  induction h with
  | nil => exact .nil
  | snoc _ hstep ih => exact ih.snoc (stateStep_of_step hstep)

/-! ## Credit of the sender -/

/-- The `OKAY` a socket handled, if the event is one. -/
def SocketEvent.okay : SocketEvent → Option AdbMessage
  | .handled msg => if msg.header.command = .OKAY then some msg else none
  | _ => none

/-- The `OKAY`s handled, in order. -/
def okays (tr : List SocketEvent) : List AdbMessage := tr.filterMap SocketEvent.okay

/-- The credit an `OKAY` carries. -/
def avail (msg : AdbMessage) : Nat := ((fromLeBytes msg.payload).getD 0).toNat

/-- The credits granted by `OKAY`s, in order. -/
def grants (tr : List SocketEvent) : List Nat := (okays tr).map avail

/-- The messages an operation submitted. -/
def SocketEvent.sent : SocketEvent → List AdbMessage
  | .read _ _ sent | .wrote _ _ sent => sent
  | _ => []

/-- The bytes submitted in `WRTE` messages. -/
def submittedBytes (tr : List SocketEvent) : Nat :=
  ((tr.flatMap SocketEvent.sent).map fun m =>
    if m.header.command = .WRTE then m.payload.length else 0).sum

/-- How a socket starts: opened by the host, or accepted with the id and the grant of an `OPEN`. -/
inductive Initial : State → Prop
  | opened : Initial (State.new 0 0)
  | accepted (remoteId grant : UInt32) (h : remoteId ≠ 0) : Initial (State.new remoteId grant.toNat)

/-- The acknowledgements: the credits granted after the initial grant, which for a socket opened by
the host is the one of the first `OKAY`. -/
def acknowledgedBytes (st₀ : State) (tr : List SocketEvent) : Nat :=
  if st₀.remoteId = 0 then (grants tr).tail.sum else (grants tr).sum

@[simp] theorem okays_snoc (tr : List SocketEvent) (e : SocketEvent) :
    okays (tr ++ [e]) = okays tr ++ e.okay.toList := by
  rw [okays, List.filterMap_append]
  cases he : e.okay <;> simp [he, okays]

@[simp] theorem grants_snoc (tr : List SocketEvent) (e : SocketEvent) :
    grants (tr ++ [e]) = grants tr ++ e.okay.toList.map avail := by
  rw [grants, okays_snoc, List.map_append, grants]

@[simp] theorem submittedBytes_snoc (tr : List SocketEvent) (e : SocketEvent) :
    submittedBytes (tr ++ [e]) = submittedBytes tr + (e.sent.map fun m =>
      if m.header.command = .WRTE then m.payload.length else 0).sum := by
  simp only [submittedBytes, List.flatMap_append, List.map_append, List.sum_append,
    List.flatMap_cons, List.flatMap_nil, List.append_nil]

/-- The law that a run keeps: before the initial grant a socket has no credit and has sent nothing,
after it `acknowledged + submitted = initial + granted since`. -/
structure CreditLaw (st₀ : State) (tr : List SocketEvent) (st : State) : Prop where
  unopened : st₀.remoteId = 0 → grants tr = [] →
    st.remoteId = 0 ∧ st.acknowledged = 0 ∧ st.initialAcknowledgment = 0 ∧ submittedBytes tr = 0
  opened : st₀.remoteId = 0 → ∀ g gs, grants tr = g :: gs →
    st.remoteId ≠ 0 ∧ st.initialAcknowledgment = g ∧
      st.acknowledged + submittedBytes tr = g + gs.sum
  accepted : st₀.remoteId ≠ 0 →
    st.remoteId ≠ 0 ∧ st.initialAcknowledgment = st₀.acknowledged ∧
      st.acknowledged + submittedBytes tr = st₀.acknowledged + (grants tr).sum

/-- A step that grants nothing keeps the law if it moves credit into submitted bytes. -/
theorem CreditLaw.of_no_grant {st₀ st st' : State} {tr : List SocketEvent} {e : SocketEvent}
    (h : CreditLaw st₀ tr st) (he : e.okay = none) (hid : st'.remoteId = st.remoteId)
    (hinit : st'.initialAcknowledgment = st.initialAcknowledgment)
    (hmove : st'.acknowledged + (e.sent.map fun m =>
      if m.header.command = .WRTE then m.payload.length else 0).sum = st.acknowledged) :
    CreditLaw st₀ (tr ++ [e]) st' := by
  have hg : grants (tr ++ [e]) = grants tr := by simp [he]
  refine ⟨fun h0 hnil => ?_, fun h0 g gs hcons => ?_, fun h0 => ?_⟩
  · rw [hg] at hnil
    obtain ⟨h1, h2, h3, h4⟩ := h.unopened h0 hnil
    rw [submittedBytes_snoc, hid, hinit]
    refine ⟨h1, by omega, h3, by omega⟩
  · rw [hg] at hcons
    obtain ⟨h1, h2, h3⟩ := h.opened h0 g gs hcons
    rw [submittedBytes_snoc, hid, hinit]
    exact ⟨h1, h2, by omega⟩
  · obtain ⟨h1, h2, h3⟩ := h.accepted h0
    rw [submittedBytes_snoc, hid, hinit, hg]
    exact ⟨h1, h2, by omega⟩

/-- A granting `OKAY` keeps the law while the sum of all grants fits a `usize`. -/
theorem CreditLaw.of_grant {st₀ st : State} {tr : List SocketEvent} {msg : AdbMessage}
    {av : UInt32} (h : CreditLaw st₀ tr st) (hcmd : msg.header.command = .OKAY)
    (hav : fromLeBytes msg.payload = some av)
    (hfirst : st₀.remoteId = 0 → ∀ m ∈ (okays (tr ++ [.handled msg])).head?, m.header.arg0 ≠ 0)
    (hsum : st₀.acknowledged + (grants (tr ++ [.handled msg])).sum < USIZE_MODULUS) :
    CreditLaw st₀ (tr ++ [.handled msg]) (st.granted msg.header.arg0 av) := by
  have hokay : (SocketEvent.handled msg).okay = some msg := by simp [SocketEvent.okay, hcmd]
  have havail : avail msg = av.toNat := by simp [avail, hav]
  have hg : grants (tr ++ [.handled msg]) = grants tr ++ [av.toNat] := by simp [hokay, havail]
  have hsub : submittedBytes (tr ++ [.handled msg]) = submittedBytes tr := by
    simp [SocketEvent.sent]
  rw [hg, List.sum_append, List.sum_singleton] at hsum
  refine ⟨fun h0 hnil => ?_, fun h0 g gs hcons => ?_, fun h0 => ?_⟩
  · rw [hg] at hnil
    simp at hnil
  · rw [hg] at hcons
    rw [hsub]
    match hgr : grants tr, hcons with
    | [], hcons =>
      -- the initial grant
      obtain ⟨h1, h2, h3, h4⟩ := h.unopened h0 hgr
      simp only [List.nil_append, List.cons.injEq] at hcons
      obtain ⟨rfl, rfl⟩ := hcons
      have hnone : okays tr = [] := by simpa [grants] using hgr
      have harg : msg.header.arg0 ≠ 0 := hfirst h0 msg (by simp [hnone, hokay])
      simp only [State.granted, h1, if_true, h2, h4, Nat.zero_add, List.sum_nil, Nat.add_zero]
      exact ⟨harg, trivial, Nat.mod_eq_of_lt (by omega)⟩
    | g' :: gs', hcons =>
      obtain ⟨h1, h2, h3⟩ := h.opened h0 g' gs' hgr
      simp only [List.cons_append, List.cons.injEq] at hcons
      obtain ⟨rfl, rfl⟩ := hcons
      rw [hgr, List.sum_cons] at hsum
      simp only [State.granted, if_neg h1]
      refine ⟨h1, h2, ?_⟩
      rw [List.sum_append, List.sum_singleton, Nat.mod_eq_of_lt (by omega)]
      omega
  · obtain ⟨h1, h2, h3⟩ := h.accepted h0
    simp only [State.granted, if_neg h1]
    refine ⟨h1, h2, ?_⟩
    rw [hsub, hg, List.sum_append, List.sum_singleton, Nat.mod_eq_of_lt (by omega)]
    omega

/-- What a write may take is bounded by its buffer, by the credit and by `MAX_PAYLOAD`. -/
theorem State.writable_le (st : State) (buf : List UInt8) :
    st.writable buf ≤ buf.length ∧ st.writable buf ≤ st.acknowledged ∧
      st.writable buf ≤ MAX_PAYLOAD.toNat := by
  unfold State.writable
  omega

/-- The part of the buffer that is taken has this length. -/
@[simp] theorem length_take_writable (st : State) (buf : List UInt8) :
    (buf.take (st.writable buf)).length = st.writable buf := by
  rw [List.length_take, Nat.min_eq_left (st.writable_le buf).1]

/-- One step keeps the credit law. -/
theorem CreditLaw.step {localId : UInt32} {st₀ st st' : State} {tr : List SocketEvent}
    {e : SocketEvent} (h : CreditLaw st₀ tr st) (hstep : StateStep localId st st' e)
    (hfirst : st₀.remoteId = 0 → ∀ m ∈ (okays (tr ++ [e])).head?, m.header.arg0 ≠ 0)
    (hsum : st₀.acknowledged + (grants (tr ++ [e])).sum < USIZE_MODULUS) :
    CreditLaw st₀ (tr ++ [e]) st' := by
  cases hstep with
  | grant hcmd hav => exact h.of_grant hcmd hav hfirst hsum
  | payload hcmd | close hcmd =>
    exact h.of_no_grant (by simp [SocketEvent.okay, hcmd]) rfl rfl rfl
  | readBytes =>
    exact h.of_no_grant rfl rfl rfl (by simp [SocketEvent.sent, readOkay, State.afterRead])
  | @write buf hcl hack =>
    refine h.of_no_grant rfl rfl rfl ?_
    simp only [SocketEvent.sent, writeWrte, List.map_cons, List.map_nil, AdbMessage.new_command,
      if_true, AdbMessage.new_payload, length_take_writable, List.sum_singleton]
    exact Nat.sub_add_cancel (st.writable_le buf).2.1
  | refuse | readStopped _ | readEmpty _ _ | readClosed _ | writeStopped _ | flush | shutdown _
  | shutdownNone | env => exact h.of_no_grant rfl rfl rfl rfl

/-- The credit law over every run: what was granted is what was submitted and what is left. -/
theorem creditLaw_of_run {localId : UInt32} {st₀ st : State} (hst₀ : Initial st₀)
    {tr : List SocketEvent} (hrun : StateRun localId st₀ tr st)
    (hfirst : st₀.remoteId = 0 → ∀ m ∈ (okays tr).head?, m.header.arg0 ≠ 0)
    (hsum : st₀.acknowledged + (grants tr).sum < USIZE_MODULUS) : CreditLaw st₀ tr st := by
  induction hrun with
  | nil =>
    cases hst₀ with
    | opened =>
      exact ⟨fun _ _ => ⟨rfl, rfl, rfl, rfl⟩, fun _ g gs h => by simp [grants, okays] at h,
        fun h => absurd rfl h⟩
    | accepted rid grant hne =>
      refine ⟨fun h => absurd h hne, fun h => absurd h hne, fun _ => ⟨hne, rfl, ?_⟩⟩
      simp [grants, okays, submittedBytes]
  | @snoc tr st st' e _ hstep ih =>
    -- the hypotheses on the longer trace give those on the shorter one
    have hfirst' : st₀.remoteId = 0 → ∀ m ∈ (okays tr).head?, m.header.arg0 ≠ 0 := by
      intro h0 m hm
      refine hfirst h0 m ?_
      rw [okays_snoc, List.head?_append, Option.mem_def.mp hm]
      rfl
    have hsum' : st₀.acknowledged + (grants tr).sum < USIZE_MODULUS := by
      rw [grants_snoc, List.sum_append] at hsum
      omega
    exact (ih hfirst' hsum').step hstep hfirst hsum

/-- The credit law as one equation, from the start of the socket on. -/
theorem CreditLaw.conserved {st₀ st : State} {tr : List SocketEvent} (hst₀ : Initial st₀)
    (h : CreditLaw st₀ tr st) :
    st.acknowledged + submittedBytes tr = st.initialAcknowledgment + acknowledgedBytes st₀ tr ∧
      submittedBytes tr ≤ st₀.acknowledged + (grants tr).sum := by
  rw [acknowledgedBytes]
  cases hst₀ with
  | opened =>
    rw [if_pos (by rfl)]
    match hg : grants tr with
    | [] =>
      obtain ⟨-, h2, h3, h4⟩ := h.unopened rfl hg
      rw [h2, h3, h4]
      exact ⟨rfl, Nat.zero_le _⟩
    | g :: gs =>
      obtain ⟨-, h2, h3⟩ := h.opened rfl g gs hg
      rw [h2, List.tail_cons, List.sum_cons]
      exact ⟨h3, by omega⟩
  | accepted rid grant hne =>
    obtain ⟨-, h2, h3⟩ := h.accepted hne
    rw [if_neg (show (State.new rid grant.toNat).remoteId ≠ 0 from hne), h2]
    exact ⟨h3, by omega⟩

/-! ## What the writer is told -/

/-- `poll_write` reports `n` exactly when it submitted the first `n` bytes as one `WRTE`. -/
theorem pollWrite_ok_iff (localId : UInt32) (st : State) (sh : Shared) (buf : List UInt8)
    (tick : Bool)
    (n : Nat) :
    (pollWrite localId buf tick st sh).outcome = .ready (.ok n) ↔
      n ≤ buf.length ∧ (pollWrite localId buf tick st sh).sent =
        [AdbMessage.new .WRTE localId st.remoteId (buf.take n)] := by
  rcases pollWrite_cases localId st sh buf tick with hstop | ⟨-, -, -, ho, hsent, -⟩
  · constructor
    · intro h
      exact absurd h (hstop.ne_ok n)
    · rintro ⟨-, h⟩
      rw [hstop.sent] at h
      simp at h
  · rw [ho, hsent, writeWrte]
    constructor
    · intro h
      obtain rfl : st.writable buf = n := by simpa using h
      exact ⟨(st.writable_le buf).1, rfl⟩
    · rintro ⟨hn, h⟩
      have hpay : buf.take (st.writable buf) = buf.take n := by
        have := congrArg (List.map AdbMessage.payload) h
        simpa using this
      have hlen := congrArg List.length hpay
      rw [length_take_writable, List.length_take, Nat.min_eq_left hn] at hlen
      rw [hlen]

/-- The bounds on what `poll_write` takes, and that `Pending` is free. -/
theorem pollWrite_bounds (localId : UInt32) (st : State) (sh : Shared) (buf : List UInt8)
    (tick : Bool) :
    let p := pollWrite localId buf tick st sh
    p.outcome ≠ .panic ∧
      (∀ n, p.outcome = .ready (.ok n) →
        n ≤ MAX_PAYLOAD.toNat ∧ (buf ≠ [] → 1 ≤ n) ∧ p.state.acknowledged + n = st.acknowledged) ∧
      (p.outcome = .pending → p.state.acknowledged = st.acknowledged ∧ p.sent = []) := by
  intro p
  rcases pollWrite_cases localId st sh buf tick with hstop | ⟨-, -, hack, ho, hsent, hst⟩
  · refine ⟨?_, fun n h => absurd h (hstop.ne_ok n), fun _ => ⟨by rw [hstop.state], hstop.sent⟩⟩
    rcases hstop.outcome with h | ⟨err, h⟩
    · rw [h]
      simp
    · rw [h]
      simp
  · have hle := st.writable_le buf
    refine ⟨by rw [ho]; simp, fun n hn => ?_, fun h => by rw [ho] at h; simp at h⟩
    obtain rfl : st.writable buf = n := by
      rw [ho] at hn
      simpa using hn
    refine ⟨hle.2.2, fun hne => ?_, ?_⟩
    · have hpos : 0 < buf.length := List.length_pos_iff.mpr hne
      have hmax : 0 < MAX_PAYLOAD.toNat := by decide
      unfold State.writable
      omega
    · rw [hst]
      exact Nat.sub_add_cancel hle.2.1

/-- **Credit of the sender.** For a socket opened by the host whose first `OKAY` names a non-zero
remote id, or accepted from an `OPEN` that does, after any sequence of operations and messages whose
grants fit a `usize`: credit and submitted bytes add up to the initial grant and the
acknowledgements, so no more is sent than was granted; `poll_write` reports `n` exactly when it
submitted the first `n` bytes as one `WRTE`, within the bounds, never underflows, and is free when
`Pending`; and if only submitted bytes are acknowledged, `poll_flush` succeeds exactly when the
connection is flushed and all of them are. -/
theorem sender_credit (localId : UInt32) (st₀ : State) (hst₀ : Initial st₀) (sh₀ : Shared)
    (tr : List SocketEvent) (s : SocketSt) (hrun : (socketMachine localId).Run ⟨st₀, sh₀⟩ tr s)
    (hfirst : st₀.remoteId = 0 → ∀ m ∈ (okays tr).head?, m.header.arg0 ≠ 0)
    (hsum : st₀.acknowledged + (grants tr).sum < USIZE_MODULUS) :
    s.state.acknowledged + submittedBytes tr =
        s.state.initialAcknowledgment + acknowledgedBytes st₀ tr ∧
      submittedBytes tr ≤ st₀.acknowledged + (grants tr).sum ∧
      (∀ buf tick,
        let p := pollWrite localId buf tick s.state s.shared
        p.outcome ≠ .panic ∧
          (∀ n, p.outcome = .ready (.ok n) ↔ n ≤ buf.length ∧
            p.sent = [AdbMessage.new .WRTE localId s.state.remoteId (buf.take n)]) ∧
          (∀ n, p.outcome = .ready (.ok n) → n ≤ MAX_PAYLOAD.toNat ∧ (buf ≠ [] → 1 ≤ n) ∧
            p.state.acknowledged + n = s.state.acknowledged) ∧
          (p.outcome = .pending → p.state.acknowledged = s.state.acknowledged ∧ p.sent = [])) ∧
      (acknowledgedBytes st₀ tr ≤ submittedBytes tr →
        ((pollFlush s.state s.shared).outcome = .ready (.ok ()) ↔
          (s.shared.error = none ∧ ∃ sh', s.shared.pollFlush = (.ready (.ok ()), sh')) ∧
            submittedBytes tr ≤ acknowledgedBytes st₀ tr)) := by
  have hlaw := creditLaw_of_run hst₀ (stateRun_of_run hrun) hfirst hsum
  obtain ⟨heq, hle⟩ := hlaw.conserved hst₀
  refine ⟨heq, hle, fun buf tick => ?_, fun hdev => ?_⟩
  · obtain ⟨h1, h2, h3⟩ := pollWrite_bounds localId s.state s.shared buf tick
    exact ⟨h1, pollWrite_ok_iff localId s.state s.shared buf tick, h2, h3⟩
  · rw [(pollFlush_cases s.state s.shared).2.2.2]
    -- the two counters agree exactly when submitted and acknowledged bytes do
    have hiff : s.state.acknowledged = s.state.initialAcknowledgment ↔
        submittedBytes tr ≤ acknowledgedBytes st₀ tr := by omega
    rw [hiff]

/-- A socket opened by the host is granted 100 bytes, writes three and has them acknowledged. -/
theorem sender_credit_open_write_okay :
    ∃ s tr, (socketMachine 1).Run ⟨State.new 0 0, ⟨some (UsbConnection.new 512), none⟩⟩ tr s ∧
      submittedBytes tr = 3 ∧
      s.state.acknowledged + 3 =
        s.state.initialAcknowledgment + acknowledgedBytes (State.new 0 0) tr := by
  obtain ⟨s, tr, hrun, htest⟩ := Machine.exists_run_of_exec (M := socketMachine 1)
    (s := ⟨State.new 0 0, ⟨some (UsbConnection.new 512), none⟩⟩)
    [.handle (AdbMessage.new .OKAY 7 1 (toLeBytes 100)), .write [1, 2, 3] true,
      .handle (AdbMessage.new .OKAY 7 1 (toLeBytes 3))]
    (fun _ tr => decide (submittedBytes tr = 3 ∧ (grants tr).sum = 103 ∧
      (okays tr).head? = some (AdbMessage.new .OKAY 7 1 (toLeBytes 100)))) (by decide)
  obtain ⟨hsub, hsum, hhead⟩ := of_decide_eq_true htest
  refine ⟨s, tr, hrun, hsub, ?_⟩
  have h := sender_credit 1 _ .opened _ tr s hrun
    (fun _ m hm => by rw [hhead] at hm; obtain rfl := Option.some.inj hm; decide)
    (by rw [hsum]; decide)
  rw [hsub] at h
  exact h.1

/-! ## Bytes of the reader -/

/-- The bytes a read delivered. -/
def SocketEvent.delivered : SocketEvent → List UInt8
  | .read _ (.ready (.ok bytes)) _ => bytes
  | _ => []

/-- The payload a dispatched message brought. -/
def SocketEvent.payload : SocketEvent → List UInt8
  | .handled msg => if msg.header.command = .WRTE then msg.payload else []
  | _ => []

/-- What a step delivers comes from the front of what was unread, and what it receives goes to the
end. -/
theorem StateStep.delivered_append_unread {localId : UInt32} {st st' : State} {e : SocketEvent}
    (h : StateStep localId st st' e) : e.delivered ++ st'.unread = st.unread ++ e.payload := by
  cases h with
  | grant hcmd hav =>
    simp [SocketEvent.delivered, SocketEvent.payload, hcmd, State.unread, State.granted]
  | payload hcmd => simp [SocketEvent.delivered, SocketEvent.payload, hcmd, State.unread]
  | close hcmd => simp [SocketEvent.delivered, SocketEvent.payload, hcmd, State.unread]
  | @readEmpty n hcl hb =>
    have htake := List.take_append_drop n st.unread
    rw [State.readable] at hb
    rw [hb] at htake
    simpa [SocketEvent.delivered, SocketEvent.payload, unread_afterRead] using htake
  | readClosed | readBytes =>
    simp [SocketEvent.delivered, SocketEvent.payload, unread_afterRead, State.readable]
  | readStopped ho =>
    simp only [SocketEvent.payload, List.append_nil, SocketEvent.delivered]
    split
    · rename_i heq
      simp only [SocketEvent.read.injEq] at heq
      exact absurd heq.2.1 (ho _)
    · simp
  | refuse | writeStopped _ | write _ _ | flush | shutdown _ | shutdownNone | env =>
    simp [SocketEvent.delivered, SocketEvent.payload, State.unread]

/-- Nothing is lost, duplicated or reordered: the bytes delivered, followed by the bytes buffered,
are the payloads dispatched. -/
theorem delivered_append_unread {localId : UInt32} {st₀ st : State} {tr : List SocketEvent}
    (hrun : StateRun localId st₀ tr st) :
    tr.flatMap SocketEvent.delivered ++ st.unread =
      st₀.unread ++ tr.flatMap SocketEvent.payload := by
  induction hrun with
  | nil => simp
  | snoc _ hstep ih =>
    simp only [List.flatMap_append, List.flatMap_cons, List.flatMap_nil, List.append_nil,
      List.append_assoc]
    rw [hstep.delivered_append_unread, ← List.append_assoc, ih, List.append_assoc]

end AdbDaemon.Transport
