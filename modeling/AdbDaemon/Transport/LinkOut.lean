import AdbDaemon.Transport.Link

/-!
# The streams to the device

Reference: `packages/transport/src/transport.rs`, `packages/transport/src/socket.rs`.

The bytes of a stream to the device are in messages on their way. `OutRel` adds to this what makes
the end of the stream come last: the stream is ended by the step that hands out the `CLSE` of the
socket, and from then on nothing is written to it.
-/

namespace AdbDaemon.Transport

open Common

/-! ## Where the bytes are -/

/-- The message carries bytes of the stream to the device. -/
def AdbMessage.carries (id : UInt32) (msg : AdbMessage) : Prop :=
  msg.header.command = .WRTE ∧ msg.header.arg0 = id

instance (id : UInt32) (msg : AdbMessage) : Decidable (msg.carries id) :=
  inferInstanceAs (Decidable (_ ∧ _))

/-- The message ends the stream to the device. -/
def AdbMessage.ends (id : UInt32) (msg : AdbMessage) : Prop :=
  msg.header.command = .CLSE ∧ msg.header.arg0 = id ∧ id ≠ 0

/-- The bytes of a stream to the device in messages. -/
def wrteFrom (id : UInt32) (msgs : List AdbMessage) : List UInt8 :=
  msgs.flatMap fun m => if m.carries id then m.payload else []

/-- The bytes on their way, of two queues one after the other. -/
@[simp] theorem wrteFrom_append (id : UInt32) (msgs msgs' : List AdbMessage) :
    wrteFrom id (msgs ++ msgs') = wrteFrom id msgs ++ wrteFrom id msgs' := List.flatMap_append

theorem wrteFrom_singleton (id : UInt32) (msg : AdbMessage) :
    wrteFrom id [msg] = if msg.carries id then msg.payload else [] := by
  rw [wrteFrom, List.flatMap_singleton]

/-- A `CLSE` for the stream waits to be sent. -/
def CloseWaits (b : TransportBackend) (id : UInt32) : Prop :=
  (∃ (r : Nat) (k : Sock) (msg : AdbMessage), b.backends[r]? = some k ∧ k.phase = .closing msg ∧
    msg.header.arg0 = id) ∨
  ∃ w ∈ b.writers, ∃ msg : AdbMessage, w.msg = some msg ∧ msg.header.arg0 = id

/-- The pipe to the device: it holds what is in flight, it is ended before a `CLSE` is sent, and
nothing is sent after the `CLSE`. -/
structure OutRel (s : LinkSt) (id : UInt32) (q : Pipe UInt8) : Prop where
  queue : q.queue = wrteFrom id s.toDevice
  closed : ∀ (r : Nat) (k : Sock), s.host.backends[r]? = some k → k.localId = id →
    q.finished = true → k.state.closed = true
  unknown : ¬ s.host.Knows id → q.finished = false
  waits : id ≠ 0 → CloseWaits s.host id → q.finished = true
  ended : ∀ m ∈ s.toDevice, m.ends id → q.finished = true
  last : s.toDevice.Pairwise fun m m' => m.ends id → ¬ m'.carries id

/-! ## A step of the host -/

section ToDevice

variable {s : LinkSt} {host : TransportBackend} {e : HostEvent} {id : UInt32} {q : Pipe UInt8}

/-- A task goes on to write a `CLSE` only from marking its socket closed. -/
theorem SockStep.event_of_closing {k : Sock} {sh sh' : Shared} {st : State} {ph : Phase}
    {e : SockEvent} {msg : AdbMessage} (h : SockStep k sh sh' st ph e) (hph : ph = .closing msg) :
    e = .shutdownMarked (some msg) := by
  cases h with
  | @submit call _ _ _ _ hphase =>
    rcases hphase with rfl | rfl | rfl
    · simp at hph
    · cases call <;> simp [Call.next] at hph
    · simp at hph
  | @pollWriting call _ _ _ _ hphase =>
    rcases hphase with rfl | ⟨-, rfl⟩ | rfl
    · simp at hph
    · cases call <;> simp [Call.next] at hph
    · simp at hph
  | pollWaiting _ hphase => rcases hphase with rfl | rfl <;> simp at hph
  | shutdownFlush _ hphase => rcases hphase with rfl | ⟨rfl, -⟩ <;> simp at hph
  | mark => rw [Phase.closing.inj hph]
  | _ => simp at hph

/-- A `CLSE` for the stream waits to be sent only by a closed socket that has told it. -/
theorem CloseWaits.of_step {b b' : TransportBackend} (hs : HostStep b b' e) (hid : id ≠ 0)
    (h : CloseWaits b' id) :
    CloseWaits b id ∨ ∃ (r : Nat) (k : Sock) (e' : SockEvent) (msg : AdbMessage),
      b.backends[r]? = some k ∧ e = .sock r e' ∧ msg.header.arg0 = id ∧
        (e' = .shutdownMarked (some msg) ∨ e' = .dropped (some msg)) := by
  obtain ⟨r, k', msg, hr', hph, harg⟩ | ⟨w, hw, msg, hmsg, harg⟩ := h
  · obtain ⟨-, -, hnew⟩ | ⟨k, hr, -, hcase⟩ := hs.socket hr'
    · cases hnew <;> cases hph
    · obtain ⟨rfl, -⟩ | ⟨e', rfl, hsock⟩ | ⟨m, rfl, hph', -⟩ := hcase
      · exact .inl (.inl ⟨r, _, msg, hr, hph, harg⟩)
      · exact .inr ⟨r, k, e', msg, hr, rfl, harg, .inl (hsock.event_of_closing hph)⟩
      · exact .inl (.inl ⟨r, k, msg, hr, hph' ▸ hph, harg⟩)
  · obtain ⟨w₀, hw₀, -, hold⟩ | ⟨remoteId, rfl⟩ | ⟨r, m, rfl, rfl⟩ := hs.writers hw
    · exact .inl (.inr ⟨w₀, hw₀, msg, hold msg hmsg, harg⟩)
    · obtain rfl := Option.some.inj hmsg
      exact absurd harg (Ne.symm hid)
    · obtain rfl := Option.some.inj hmsg
      obtain ⟨k, -, hr, -, -, -⟩ := hs.of_sock
      exact .inr ⟨r, k, _, m, hr, rfl, harg, .inr rfl⟩

/-- Without a message of the stream no bytes are on their way. -/
theorem wrteFrom_eq_nil {msgs : List AdbMessage} (h : ∀ m ∈ msgs, ¬ m.carries id) :
    wrteFrom id msgs = [] :=
  List.flatMap_eq_nil_iff.mpr fun m hm => if_neg (h m hm)

/-- A message that announces an id neither carries bytes nor ends a stream. -/
theorem AdbMessage.not_carries_of_announces {msg : AdbMessage} (h : msg.announces = true)
    (id : UInt32) : ¬ msg.carries id ∧ ¬ msg.ends id := by
  refine ⟨fun hc => ?_, fun hends => ?_⟩
  · simp [AdbMessage.announces, hc.1] at h
  · simp [AdbMessage.announces, hends.1] at h

/-- What stays of the relation when the host takes a step that does not end the stream. -/
theorem OutRel.of_hostStep (h : OutRel s id q) (hlaw : LinkLaw s) (hs : HostStep s.host host e)
    (hmark : ∀ (r : Nat) (k : Sock) (e' : SockEvent) (msg : AdbMessage),
      s.host.backends[r]? = some k → e = .sock r e' → msg.header.arg0 = id →
        e' ≠ .shutdownMarked (some msg) ∧ e' ≠ .dropped (some msg)) (q' : Pipe UInt8)
    (hfin : q'.finished = q.finished) {toDevice : List AdbMessage}
    (hqueue : q'.queue = wrteFrom id toDevice)
    (hended : ∀ m ∈ toDevice, m.ends id → q.finished = true)
    (hlast : toDevice.Pairwise fun m m' => m.ends id → ¬ m'.carries id) :
    OutRel { s with host, toDevice } id q' where
  queue := hqueue
  closed := fun r k' hr' hid' hf => by
    rw [hfin] at hf
    obtain ⟨-, -, hnew⟩ | ⟨k, hr, hid, -⟩ := hs.socket hr'
    · -- no socket had the id before
      have hlast : k'.localId = s.host.lastId := by cases hnew <;> rfl
      have hnot : ¬ s.host.Knows id := by
        rintro ⟨r₀, k₀, hr₀, hid₀⟩
        exact hlaw.table.ne_lastId hr₀ (hid₀.trans (hid'.symm.trans hlast))
      rw [h.unknown hnot] at hf
      cases hf
    · obtain ⟨k'', hr'', -, hmove⟩ := hs.backend hr
      obtain rfl := Option.some.inj (hr''.symm.trans hr')
      exact hmove.closed_mono (h.closed r k hr (hid.symm.trans hid') hf)
  unknown := fun hnot => by
    rw [hfin]
    exact h.unknown fun hknows => hnot (hknows.step hs)
  waits := fun hid hwait => by
    rw [hfin]
    obtain hold | ⟨r, k, e', msg, hr, he, harg, hnew⟩ := hwait.of_step hs hid
    · exact h.waits hid hold
    · obtain ⟨hmarked, hdropped⟩ := hmark r k e' msg hr he harg
      exact absurd hnew (not_or.mpr ⟨hmarked, hdropped⟩)
  ended := fun m hm hends => by
    rw [hfin]
    exact hended m hm hends
  last := hlast

/-- One message more, which neither carries bytes of the stream nor ends it. -/
theorem OutRel.snoc (h : OutRel s id q) {msg : AdbMessage} (hcarries : ¬ msg.carries id)
    (hends : msg.ends id → q.finished = true) :
    q.queue = wrteFrom id (s.toDevice ++ [msg]) ∧
      (∀ m ∈ s.toDevice ++ [msg], m.ends id → q.finished = true) ∧
      (s.toDevice ++ [msg]).Pairwise fun m m' => m.ends id → ¬ m'.carries id := by
  refine ⟨?_, fun m hm hm' => ?_, ?_⟩
  · have hnil : wrteFrom id [msg] = [] := wrteFrom_eq_nil (by simpa using hcarries)
    rw [wrteFrom_append, ← h.queue, hnil, List.append_nil]
  · obtain hm | hm := List.mem_append.mp hm
    · exact h.ended m hm hm'
    · exact hends (List.mem_singleton.mp hm ▸ hm')
  · refine List.pairwise_append.mpr ⟨h.last, List.pairwise_singleton _ _, fun m _ m' hm' _ => ?_⟩
    rw [List.mem_singleton.mp hm']
    exact hcarries

/-- One message more, which carries bytes of the stream before its end. -/
theorem OutRel.snoc_wrte (h : OutRel s id q) (hfin : q.finished = false) {msg : AdbMessage}
    (hmsg : msg.carries id) :
    q.queue ++ msg.payload = wrteFrom id (s.toDevice ++ [msg]) ∧
      (∀ m ∈ s.toDevice ++ [msg], m.ends id → q.finished = true) ∧
      (s.toDevice ++ [msg]).Pairwise fun m m' => m.ends id → ¬ m'.carries id := by
  have hnone : ∀ m ∈ s.toDevice, ¬ m.ends id := fun m hm hends => by
    rw [h.ended m hm hends] at hfin
    cases hfin
  refine ⟨?_, fun m hm hends => ?_, ?_⟩
  · rw [wrteFrom_append, ← h.queue, wrteFrom_singleton, if_pos hmsg]
  · obtain hm | hm := List.mem_append.mp hm
    · exact absurd hends (hnone m hm)
    · rw [List.mem_singleton.mp hm] at hends
      exact absurd (hmsg.1.symm.trans hends.1) (by decide)
  · exact List.pairwise_append.mpr ⟨h.last, List.pairwise_singleton _ _, fun m hm m' _ hends =>
      absurd hends (hnone m hm)⟩

/-- A socket that hands out its `CLSE`, which names it, is closed. -/
theorem SockStep.of_shutdown {k : Sock} {sh sh' : Shared} {st : State} {ph : Phase}
    {e : SockEvent} {msg : AdbMessage} (h : SockStep k sh sh' st ph e)
    (he : e = .shutdownMarked (some msg) ∨ e = .dropped (some msg)) :
    msg.header.arg0 = k.localId ∧ st.closed = true := by
  cases h with
  | mark | drop =>
    obtain he | he := he <;> cases he
    exact ⟨rfl, rfl⟩
  | op hph hpoll => obtain rfl | rfl := he <;> cases hpoll
  | _ => obtain he | he := he <;> cases he

/-- Only handing out the `CLSE` ends the stream to the device. -/
theorem not_shutdown_of_acts {localId : UInt32} {e : SockEvent}
    (h : ∀ id, actsOf (.toDevice id) (e.streams localId) = []) (msg : AdbMessage) :
    e ≠ .shutdownMarked (some msg) ∧ e ≠ .dropped (some msg) := by
  have hid := h localId
  refine ⟨?_, ?_⟩ <;> rintro rfl <;> simp [SockEvent.streams, actsOf] at hid

/-- What a socket sends names the socket. -/
theorem Sends.names {b : TransportBackend} {r : Nat} {k : Sock} {e' : SockEvent} (h : Sends k e')
    (hlaw : SendLaw b) (hr : b.backends[r]? = some k) :
    e'.sent = [] ∨ ∃ msg, e'.sent = [msg] ∧ msg.header.arg0 = k.localId := by
  cases h with
  | nothing hsent => exact .inl hsent
  | tell hsent _ hid => exact .inr ⟨_, hsent, hid⟩
  | write hopen he => exact .inr ⟨_, by rw [he]; rfl, rfl⟩
  | shutdown hopen he => exact .inl (by obtain rfl | rfl := he <;> rfl)
  | close hph hsent => exact .inr ⟨_, hsent, (hlaw.closing r k _ hr hph).2.1⟩

/-- A step that is not one of the socket leaves the pipe as it is. -/
theorem OutRel.hostStep_other (h : OutRel s id q) (hlaw : LinkLaw s) (hs : HostStep s.host host e)
    (hother : ∀ (r : Nat) (k : Sock), s.host.backends[r]? = some k → k.localId = id →
      ∀ e', e ≠ .sock r e') :
    OutRel { s with host, toDevice := s.toDevice ++ e.sent } id q := by
  have hmark : ∀ (r : Nat) (k : Sock) (e' : SockEvent) (msg : AdbMessage),
      s.host.backends[r]? = some k → e = .sock r e' → msg.header.arg0 = id →
        e' ≠ .shutdownMarked (some msg) ∧ e' ≠ .dropped (some msg) := by
    rintro r k e' msg hr rfl harg
    obtain ⟨k₀, k', hr₀, -, -, hsock⟩ := hs.of_sock
    obtain rfl : k₀ = k := Option.some.inj (hr₀.symm.trans hr)
    refine ⟨?_, ?_⟩ <;> rintro rfl
    · exact hother r k₀ hr ((hsock.of_shutdown (.inl rfl)).1.symm.trans harg) _ rfl
    · exact hother r k₀ hr ((hsock.of_shutdown (.inr rfl)).1.symm.trans harg) _ rfl
  have hquiet : e.sent = [] ∨ ∃ msg, e.sent = [msg] ∧ ¬ msg.carries id ∧
      (msg.ends id → q.finished = true) := by
    cases hs with
    | @sock r k a n hr hstep =>
      have hne : k.localId ≠ id := fun heq => hother r k hr heq n.event rfl
      have hsends := (Sock.step_cases hstep).2.2.sends fun call msg => hlaw.sends.writing r k call msg hr
      obtain hnil | ⟨msg, hmsg, hid⟩ := hsends.names hlaw.sends hr
      · exact .inl hnil
      · exact .inr ⟨msg, hmsg, fun hc => hne (hid.symm.trans hc.2),
          fun hends => absurd (hid.symm.trans hends.2.1) hne⟩
    -- a spawned writer sends nothing but a `CLSE`
    | @writer i w hi hdone =>
      obtain ⟨-, -, ⟨-, hsent, -⟩ | ⟨msg, hmsg, -, hsent⟩⟩ := writeMessageAsync_spec w.msg s.host.shared
      · exact .inl hsent
      · have hw := List.mem_of_getElem? hi
        have hcmd := (hlaw.sends.writers w hw msg hmsg).1
        refine .inr ⟨msg, hsent, fun hc => ?_, fun hends => ?_⟩
        · exact absurd (hcmd.symm.trans hc.1) (by decide)
        · exact h.waits hends.2.2 (.inr ⟨w, hw, msg, hmsg, hends.2.1⟩)
    | create | handled | rejected | remove | env => exact .inl rfl
  obtain hnil | ⟨msg, hmsg, hcarries, hends⟩ := hquiet
  · rw [hnil, List.append_nil]
    exact h.of_hostStep hlaw hs hmark q rfl h.queue h.ended h.last
  · rw [hmsg]
    obtain ⟨hqueue, hended, hlast⟩ := h.snoc hcarries hends
    exact h.of_hostStep hlaw hs hmark q rfl hqueue hended hlast

/-- A step of the task of the socket: it sends its opening message, bytes of the stream, the `CLSE`,
or nothing. -/
theorem OutRel.hostStep_sock (h : OutRel s id q) (hlaw : LinkLaw s) {r : Nat} {k : Sock}
    {e' : SockEvent} (hs : HostStep s.host host (.sock r e')) (hr : s.host.backends[r]? = some k)
    (hid : k.localId = id) :
    ∃ q', q.exec (actsOf (.toDevice id) (e'.streams id)) = some q' ∧
      OutRel { s with host, toDevice := s.toDevice ++ e'.sent } id q' := by
  obtain ⟨k₀, k', hr₀, hr', hid', hsock⟩ := hs.of_sock
  obtain rfl : k₀ = k := Option.some.inj (hr₀.symm.trans hr)
  subst hid
  have hknows : s.host.Knows k₀.localId := ⟨r, k₀, hr, rfl⟩
  have hmark : (∀ msg, e' ≠ .shutdownMarked (some msg) ∧ e' ≠ .dropped (some msg)) →
      ∀ (r₁ : Nat) (k₁ : Sock) (e₁ : SockEvent) (msg : AdbMessage),
      s.host.backends[r₁]? = some k₁ → HostEvent.sock r e' = .sock r₁ e₁ →
        msg.header.arg0 = k₀.localId → e₁ ≠ .shutdownMarked (some msg) ∧ e₁ ≠ .dropped (some msg) := by
    rintro hnot r₁ k₁ e₁ msg - he -
    cases he
    exact hnot msg
  obtain ⟨hsent, hacts⟩ | ⟨hsent, hann, -, hacts⟩ | @⟨buf, hopen, rfl⟩ |
      ⟨hopen, hshut⟩ | ⟨hph, hsent, hacts⟩ :=
    hsock.sends fun call msg => hlaw.sends.writing r k₀ call msg hr
  · refine ⟨q, by rw [hacts]; rfl, ?_⟩
    rw [hsent, List.append_nil]
    exact h.of_hostStep hlaw hs (hmark (not_shutdown_of_acts hacts)) q rfl h.queue h.ended h.last
  · refine ⟨q, by rw [hacts]; rfl, ?_⟩
    rw [hsent]
    have hother := AdbMessage.not_carries_of_announces hann k₀.localId
    obtain ⟨hqueue, hended, hlast⟩ := h.snoc hother.1 fun hends =>
      absurd hends hother.2
    exact h.of_hostStep hlaw hs (hmark (not_shutdown_of_acts hacts)) q rfl hqueue hended hlast
  · -- the stream has not ended, so no `CLSE` was sent
    have hfin : q.finished = false := by
      by_contra hne
      have hcl := h.closed r k₀ hr rfl (by simpa using hne)
      rw [hopen] at hcl
      cases hcl
    have hmsg : (writeWrte k₀.localId k₀.state buf).carries k₀.localId := ⟨rfl, rfl⟩
    obtain ⟨hqueue, hended, hlast⟩ := h.snoc_wrte hfin hmsg
    refine ⟨_, ?_, h.of_hostStep hlaw hs (hmark fun msg => by simp)
      { q with queue := q.queue ++ buf.take (k₀.state.writable buf) } rfl hqueue hended hlast⟩
    simp [SockEvent.streams, actsOf, Pipe.exec, Pipe.step, hfin]
  · have hacts : actsOf (.toDevice k₀.localId) (e'.streams k₀.localId) = [.finish] := by
      obtain rfl | rfl := hshut <;> simp [SockEvent.streams, actsOf]
    have hsent : e'.sent = [] := by obtain rfl | rfl := hshut <;> rfl
    rw [hacts, hsent, List.append_nil]
    refine ⟨{ q with finished := true }, rfl, h.queue, fun r₁ k₁ hr₁ hid₁ _ => ?_, fun hnot => ?_,
      fun _ _ => rfl, fun _ _ _ => rfl, h.last⟩
    · obtain ⟨-, rfl⟩ := (hlaw.table.step hs trivial).unique hr₁ hr' (hid₁.trans hid'.symm)
      exact (hsock.of_shutdown hshut).2
    · exact absurd (hknows.step hs) hnot
  · refine ⟨q, by rw [hacts]; rfl, ?_⟩
    rw [hsent]
    obtain ⟨hcmd, -, -⟩ := hlaw.sends.closing r k₀ _ hr hph
    obtain ⟨hqueue, hended, hlast⟩ := h.snoc (fun hc => by
      exact absurd (hcmd.symm.trans hc.1) (by decide)) fun hends =>
        h.waits hends.2.2 (.inl ⟨r, k₀, _, hr, hph, hends.2.1⟩)
    exact h.of_hostStep hlaw hs (hmark (not_shutdown_of_acts hacts)) q rfl hqueue hended hlast

/-- A step of the host puts its bytes into the pipe, with the message that carries them. -/
theorem OutRel.hostStep (h : OutRel s id q) (hlaw : LinkLaw s) (hs : HostStep s.host host e) :
    ∃ q', q.exec (actsOf (.toDevice id) (e.streams s.host)) = some q' ∧
      OutRel { s with host, toDevice := s.toDevice ++ e.sent } id q' := by
  by_cases hmine : ∃ (r : Nat) (k : Sock) (e' : SockEvent), s.host.backends[r]? = some k ∧
      k.localId = id ∧ e = .sock r e'
  · obtain ⟨r, k, e', hr, hid, rfl⟩ := hmine
    have hidOf : s.host.idOf r = id := by
      rw [TransportBackend.idOf, hr]
      exact hid
    simp only [HostEvent.streams, hidOf, HostEvent.sent]
    exact h.hostStep_sock hlaw hs hr hid
  · have hother : ∀ (r : Nat) (k : Sock), s.host.backends[r]? = some k → k.localId = id →
        ∀ e', e ≠ .sock r e' := fun r k hr hid e' he => hmine ⟨r, k, e', hr, hid, he⟩
    refine ⟨q, ?_, h.hostStep_other hlaw hs hother⟩
    rw [(streams_of_other hs hother).2]
    rfl

/-- What matters of the state to a stream to the device. -/
theorem OutRel.congr {s' : LinkSt} (h : OutRel s id q) (hhost : s'.host = s.host)
    (htoDevice : s'.toDevice = s.toDevice) : OutRel s' id q where
  queue := by rw [htoDevice, h.queue]
  closed := hhost ▸ h.closed
  unknown := hhost ▸ h.unknown
  waits := hhost ▸ h.waits
  ended := htoDevice ▸ h.ended
  last := htoDevice ▸ h.last

/-- The device takes the next message: the bytes of a `WRTE`, or the end of the stream with a
`CLSE`. -/
theorem OutRel.receive {msg : AdbMessage} {toDevice : List AdbMessage} {told : List UInt32}
    (h : OutRel s id q) (hto : s.toDevice = msg :: toDevice) :
    ∃ q', q.exec (actsOf (.toDevice id) (receiveStreams msg)) = some q' ∧
      OutRel { s with toDevice, told } id q' := by
  have hqueue := h.queue
  have hlast := h.last
  rw [hto, ← List.singleton_append, wrteFrom_append, wrteFrom_singleton] at hqueue
  rw [hto, List.pairwise_cons] at hlast
  have hended : ∀ m ∈ toDevice, m.ends id → q.finished = true := fun m hm =>
    h.ended m (hto ▸ List.mem_cons_of_mem _ hm)
  by_cases hcarries : msg.carries id
  · rw [if_pos hcarries] at hqueue
    obtain ⟨hcmd, harg⟩ := hcarries
    have hacts : actsOf (.toDevice id) (receiveStreams msg) = [.read msg.payload] := by
      simp [receiveStreams, hcmd, harg, actsOf]
    refine ⟨{ q with queue := q.queue.drop msg.payload.length }, ?_,
      ⟨?_, h.closed, h.unknown, h.waits, hended, hlast.2⟩⟩
    · simp [hacts, Pipe.exec, Pipe.step, hqueue]
    · simp [hqueue]
  · rw [if_neg hcarries, List.nil_append] at hqueue
    refine ⟨q, ?_, hqueue, h.closed, h.unknown, h.waits, hended, hlast.2⟩
    -- nothing of the stream comes behind its `CLSE`, so all has been read
    by_cases hends : msg.ends id
    · have hfin := h.ended msg (hto ▸ List.mem_cons_self) hends
      have hnil : q.queue = [] := by
        rw [hqueue]
        exact wrteFrom_eq_nil fun m hm => hlast.1 m hm hends
      obtain ⟨hcmd, rfl, hne⟩ := hends
      simp [receiveStreams, hcmd, hne, actsOf, Pipe.exec, Pipe.step, hfin, hnil]
    · have hacts : actsOf (.toDevice id) (receiveStreams msg) = [] := by
        rw [receiveStreams]
        split
        · rename_i hcmd
          simp only [actsOf_singleton, Direction.toDevice.injEq]
          exact if_neg fun harg => hcarries ⟨hcmd, harg⟩
        · rename_i hcmd
          split
          · rfl
          · rename_i hne
            simp only [actsOf_singleton, Direction.toDevice.injEq]
            exact if_neg fun harg => hends ⟨hcmd, harg, harg ▸ hne⟩
        · rfl
      rw [hacts]
      rfl

end ToDevice

end AdbDaemon.Transport
