import AdbDaemon.Transport.LinkIn
import AdbDaemon.Transport.LinkOut

/-!
# The link carries independent byte streams

Reference: `packages/transport/src/transport.rs`, `packages/transport/src/socket.rs`.

`link_refines_pipes`: whatever host and device do, and in whatever order the tasks of the host run,
what happens to the streams of a transport is a run of `pipes`, one pipe for each direction of each
stream.
-/

namespace AdbDaemon.Transport

open Common

structure LinkRel (s : LinkSt) (p : Direction → Pipe UInt8) : Prop where
  law : LinkLaw s
  toHost : ∀ id, InRel s id (p (.toHost id))
  toDevice : ∀ id, OutRel s id (p (.toDevice id))

theorem linkRel_new (connection : UsbConnection) :
    LinkRel (LinkSt.new connection) fun _ => .empty where
  law := linkLaw_new connection
  toHost := fun id =>
    .unknown (by simp [LinkSt.new, TransportBackend.new, TransportBackend.Knows]) rfl
  toDevice := fun id => {
    queue := rfl
    closed := by simp [LinkSt.new, TransportBackend.new]
    unknown := fun _ => rfl
    waits := by simp [CloseWaits, LinkSt.new, TransportBackend.new]
    ended := by simp [LinkSt.new]
    last := .nil }

/-- What the device receives comes out of the other pipe. -/
theorem actsOf_toHost_receive (id : UInt32) (msg : AdbMessage) :
    actsOf (.toHost id) (receiveStreams msg) = [] := by
  rw [receiveStreams]
  split
  · rfl
  · split <;> rfl
  · rfl

/-- What the device sends goes into the other pipe. -/
theorem actsOf_toDevice_send (id : UInt32) (msg : AdbMessage) :
    actsOf (.toDevice id) (sendStreams msg) = [] := by
  rw [sendStreams]
  split <;> rfl

/-- A dispatch sends nothing, and shows nothing of the streams. -/
theorem dispatch_quiet {b b' : TransportBackend} {msg : AdbMessage} {e : HostEvent}
    (h : hostMachine.step b (.dispatch msg) = some (b', e)) : e.streams b = [] ∧ e.sent = [] := by
  cases hreply : msg.isReply with
  | false =>
    obtain ⟨rfl, -⟩ := dispatch_other hreply h
    exact ⟨rfl, rfl⟩
  | true =>
    obtain ⟨-, hcase⟩ := socketDispatch_of_step hreply h
    cases hcase <;> exact ⟨rfl, rfl⟩

/-- What the relation says of one pipe. -/
def StreamRel (s : LinkSt) : Direction → Pipe UInt8 → Prop
  | .toHost id, q => InRel s id q
  | .toDevice id, q => OutRel s id q

/-- Every step of the link is matched by its uses of the pipes, in each direction by the lemma of
that side. -/
theorem LinkRel.step {s s' : LinkSt} {e : LinkEvent} {p : Direction → Pipe UInt8}
    (h : LinkRel s p) (hstep : LinkStep s s' e) (hwrap : IdNotWrapped s.host e.host) :
    ∃ p', (pipes Direction UInt8).Run p e.streams p' ∧ LinkRel s' p' := by
  have hlaw := h.law.step hstep hwrap
  -- stream by stream and in both directions; the pipes are then put together
  have hall : ∀ i, ∃ q, (p i).exec (actsOf i e.streams) = some q ∧ StreamRel s' i q := by
    rintro (id | id)
    · have hin := h.toHost id
      cases hstep with
      | host hs hnot => exact hin.hostStep h.law hs hnot
      | deliver hto hs => exact ⟨_, rfl, hin.deliver h.law.table.names hto hs⟩
      | receive => exact ⟨_, by rw [actsOf_toHost_receive]; rfl, hin.congr rfl rfl rfl rfl⟩
      | @send msg htold =>
        rw [← inFlight_singleton]
        exact hin.send h.law htold
    · have hout := h.toDevice id
      cases hstep with
      | host hs hnot => exact hout.hostStep h.law hs
      | deliver hto hs =>
        obtain ⟨hstreams, hsent⟩ := dispatch_quiet hs
        obtain ⟨q', hexec, hrel⟩ := hout.hostStep h.law (hostStep_of_step hs)
        rw [hstreams] at hexec
        rw [hsent, List.append_nil] at hrel
        exact ⟨q', hexec, hrel.congr rfl rfl⟩
      | receive hto htold => exact hout.receive hto
      | send => exact ⟨_, by rw [actsOf_toDevice_send]; rfl, hout.congr rfl rfl⟩
  obtain ⟨p', hrun, hrel⟩ := pipes_run_of_forall e.streams hall
  exact ⟨p', hrun, hlaw, fun id => hrel (.toHost id), fun id => hrel (.toDevice id)⟩

/-- The link is simulated by the pipes. -/
theorem link_simulation :
    Machine.Simulation unwrappedLink (pipes Direction UInt8) LinkEvent.streams LinkRel where
  step := by
    intro s s' p a e hrel hs
    obtain ⟨hs, hwrap⟩ := Machine.restrict_step.mp hs
    exact hrel.step (linkStep_of_step hs) hwrap

/-- **The link refines independent pipes.** For every schedule of the host's tasks and of a device
that sends what it likes: what happens at the two ends of all streams is a run of `pipes`. The pipe
to the device holds the bytes on their way to it; the pipe to the host holds what its socket has
buffered and the bytes on their way, as long as messages are handed to the socket. -/
theorem link_refines_pipes (connection : UsbConnection) (tr : List LinkEvent) (s : LinkSt)
    (hrun : unwrappedLink.Run (LinkSt.new connection) tr s) :
    ∃ p, (pipes Direction UInt8).Run (fun _ => .empty) (tr.flatMap LinkEvent.streams) p ∧
      (∀ id, (p (.toDevice id)).queue = wrteFrom id s.toDevice) ∧
      ∀ (r : Nat) (k : Sock), s.host.backends[r]? = some k → s.host.sockets k.localId = some r →
        s.host.removing ≠ some k.localId →
          (p (.toHost k.localId)).queue =
            k.state.unread ++ PipeAct.written (inFlight k.localId s.toHost) := by
  obtain ⟨p, hpipes, hrel⟩ := link_simulation.run (linkRel_new connection) hrun
  refine ⟨p, hpipes, fun id => (hrel.toDevice id).queue, fun r k hr hentry hrem => ?_⟩
  exact (hrel.toHost k.localId).queue_of_entry hrel.law.table hr hentry hrem

/-- A stream that was written at both ends and closed by the device. -/
def closedStream : List StreamEvent :=
  [(.toDevice 1, .write [9, 8]), (.toDevice 1, .read [9, 8]), (.toHost 1, .write [1, 2]),
    (.toHost 1, .finish), (.toHost 1, .read [1, 2]), (.toHost 1, .read []), (.toHost 1, .eof)]

/-- The schedule: open, write in both directions, and close. -/
theorem exists_run_closedStream :
    ∃ s tr, unwrappedLink.Run (LinkSt.new (UsbConnection.new 512)) tr s ∧
      tr.flatMap LinkEvent.streams = closedStream := by
  obtain ⟨s, tr, hrun, htest⟩ := Machine.exists_run_of_exec (M := unwrappedLink)
    (s := LinkSt.new (UsbConnection.new 512))
    [.host (.openSocket "x"), .host (.sock 0 .poll), .host (.complete (.ok ())),
      .host (.complete (.ok ())), .host (.sock 0 .poll), .receive,
      .send (AdbMessage.new .OKAY 7 1 (toLeBytes 100)), .deliver, .host (.sock 0 .poll),
      .host (.sock 0 (.write [9, 8] true)), .receive, .send (AdbMessage.new .WRTE 7 1 [1, 2]),
      .send (AdbMessage.new .CLSE 7 1 []), .deliver, .deliver, .host .removeClosed,
      .host (.complete (.ok ())), .host (.complete (.ok ())), .host (.sock 0 (.read 4)),
      .host (.sock 0 (.read 4))]
    (fun _ tr => decide (tr.flatMap LinkEvent.streams = closedStream)) (by decide)
  exact ⟨s, tr, hrun, of_decide_eq_true htest⟩

/-- What this stream shows is a run of the pipes. -/
theorem link_refines_pipes_closedStream :
    ∃ p, (pipes Direction UInt8).Run (fun _ => .empty) closedStream p := by
  obtain ⟨s, tr, hrun, hstreams⟩ := exists_run_closedStream
  obtain ⟨p, hpipes, -, -⟩ := link_refines_pipes _ tr s hrun
  exact ⟨p, hstreams ▸ hpipes⟩

/-! ## What arrives -/

/-- The device never gives a stream up. -/
theorem LinkStep.not_abandoned {s s' : LinkSt} {e : LinkEvent} (h : LinkStep s s' e) (id : UInt32) :
    (.toDevice id, .abandon) ∉ e.streams := by
  cases h with
  | @host host e hs hnot =>
    cases e with
    | sock r e =>
      simp only [HostEvent.streams, SockEvent.streams]
      split
      · split <;> simp
      all_goals simp
    | created | written | handled | rejected | internal => simp [HostEvent.streams]
  | deliver => simp
  | receive =>
    simp only [receiveStreams]
    split
    · simp
    · split <;> simp
    · simp
  | send =>
    simp only [sendStreams]
    split <;> simp

/-- **What arrives.** In every schedule: at either end of every stream the bytes read are a prefix
of the bytes written at the other end before it was closed; a device that is told of the end has
received everything that `poll_write` accepted; a read that reports the end of a stream which the
host did not shut down itself comes after all the bytes that the device sent before its `CLSE`; and
bytes not read yet are in flight or in the buffer of the socket. -/
structure StreamsIntact (s : LinkSt) (acts : List StreamEvent) : Prop where
  inOrder : ∀ d, PipeAct.taken (actsOf d acts) <+: PipeAct.written (actsOf d acts)
  deviceEnd : ∀ id pre post, acts = pre ++ (.toDevice id, .eof) :: post →
    PipeAct.taken (actsOf (.toDevice id) pre) = PipeAct.written (actsOf (.toDevice id) acts)
  hostEnd : ∀ id pre post, acts = pre ++ (.toHost id, .eof) :: post →
    (actsOf (.toHost id) pre).any PipeAct.isAbandon = false →
      PipeAct.taken (actsOf (.toHost id) pre) = PipeAct.written (actsOf (.toHost id) acts)
  deviceRest : ∀ id, PipeAct.taken (actsOf (.toDevice id) acts) ++ wrteFrom id s.toDevice =
    PipeAct.written (actsOf (.toDevice id) acts)
  hostRest : ∀ (r : Nat) (k : Sock), s.host.backends[r]? = some k → k.phase ≠ .dropped →
    k.state.closed = false →
      PipeAct.taken (actsOf (.toHost k.localId) acts) ++
          (k.state.unread ++ PipeAct.written (inFlight k.localId s.toHost)) =
        PipeAct.written (actsOf (.toHost k.localId) acts)

/-- The device reads everything it is sent, so its pipe is never given up. -/
theorem not_abandoned_of_run {s₀ s : LinkSt} {tr : List LinkEvent}
    (hrun : unwrappedLink.Run s₀ tr s) (id : UInt32) :
    (.toDevice id, .abandon) ∉ tr.flatMap LinkEvent.streams := by
  obtain ⟨-, hquiet⟩ := hrun.invariant_forall (fun _ => True)
    (fun e => (.toDevice id, .abandon) ∉ e.streams) trivial
    fun s a s' e _ hs =>
      ⟨trivial, (linkStep_of_step (Machine.restrict_step.mp hs).1).not_abandoned id⟩
  intro hmem
  obtain ⟨e, he, hmem⟩ := List.mem_flatMap.mp hmem
  exact hquiet e he hmem

/-- What the pipes say of the streams, for whichever uses the ends have shown so far. -/
theorem LinkRel.intact {s : LinkSt} {acts : List StreamEvent} {p : Direction → Pipe UInt8}
    (hrel : LinkRel s p) (hpipes : (pipes Direction UInt8).Run (fun _ => .empty) acts p)
    (hnone : ∀ id, (.toDevice id, .abandon) ∉ acts) : StreamsIntact s acts := by
  refine ⟨pipes_read_isPrefix hpipes, fun id pre post hacts => ?_, fun id pre post hacts hab => ?_,
    fun id => ?_, fun r k hr hph hcl => ?_⟩
  · have hnone := hnone id
    rw [hacts] at hpipes hnone ⊢
    exact pipes_complete_of_eof hpipes
      (any_isAbandon_eq_false fun hmem => hnone (List.mem_append_left _ hmem))
  · rw [hacts] at hpipes ⊢
    exact pipes_complete_of_eof hpipes hab
  · rw [← (hrel.toDevice id).queue]
    exact pipes_conserve hpipes (.toDevice id)
  · have htable := hrel.law.table
    have hentry := htable.table r k hr hph hcl
    have hrem : s.host.removing ≠ some k.localId := by
      intro hrem
      obtain ⟨r', k', hr', hid, hcl'⟩ := htable.removing _ hrem
      obtain ⟨-, rfl⟩ := htable.unique hr' hr hid
      rw [hcl] at hcl'
      cases hcl'
    rw [← (hrel.toHost k.localId).queue_of_entry htable hr hentry hrem]
    exact pipes_conserve hpipes (.toHost k.localId)

/-- **What arrives through a stream.** What holds of the pipes holds of the streams. -/
theorem streams_intact_of_run (connection : UsbConnection) (tr : List LinkEvent) (s : LinkSt)
    (hrun : unwrappedLink.Run (LinkSt.new connection) tr s) :
    StreamsIntact s (tr.flatMap LinkEvent.streams) := by
  obtain ⟨p, hpipes, hrel⟩ := link_simulation.run (linkRel_new connection) hrun
  exact hrel.intact hpipes (not_abandoned_of_run hrun)

/-- The streams of this run are intact. -/
theorem streams_intact_of_run_closedStream : ∃ s, StreamsIntact s closedStream := by
  obtain ⟨s, tr, hrun, hstreams⟩ := exists_run_closedStream
  exact ⟨s, hstreams ▸ streams_intact_of_run _ tr s hrun⟩

end AdbDaemon.Transport
