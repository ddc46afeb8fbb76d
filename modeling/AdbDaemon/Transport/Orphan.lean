import Mathlib.Data.List.Nodup
import AdbDaemon.Transport.HostLaw
import AdbDaemon.Transport.System

/-!
# No orphaned device streams

Reference: `Transport::open_socket` and `TransportBackend::handle_message` of
`packages/transport/src/transport.rs`; `SocketBackend::drop` of `packages/transport/src/socket.rs`;
`ForwardTask::drop` of `src/forward.rs`.

A socket that is dropped between submitting its `OPEN` and handling the reply does not know the id
of the device's stream. Its `CLSE` names the stream 0, the reply finds no socket, and the stream
stays open on the device (`orphan_of_cancelled_open`). In the schedules without such a drop, in
which no `poll_shutdown` panics and the local ids have not wrapped, there is no orphan
(`no_orphaned_streams`).

`Linked` ties every stream of the device, and every `OPEN` in flight, to its socket. Each step of
the host and of the device keeps it.
-/

namespace AdbDaemon.Transport

open Common

/-! ## The condition -/

/-- No future of `open_socket` is dropped between the submission of its `OPEN` and the reply. -/
def OpenNotCancelled (b : TransportBackend) (e : HostEvent) : Prop :=
  match e with
  | .sock r (.dropped _) =>
    (b.backends[r]?.all fun k => k.phase.unannounced || k.state.closed || k.state.remoteId != 0) = true
  | _ => True

instance (b : TransportBackend) : (e : HostEvent) → Decidable (OpenNotCancelled b e)
  | .sock _ (.dropped _) => inferInstanceAs (Decidable (_ = true))
  | .sock _ (.polled _ _) | .sock _ (.waited _) | .sock _ (.read _ _ _) | .sock _ (.wrote _ _ _)
  | .sock _ (.flushed _) | .sock _ (.shutdownFlushed _) | .sock _ (.shutdownMarked _)
  | .sock _ (.shutdownWritten _ _) => .isTrue trivial
  | .created _ | .written _ _ _ | .handled _ _ | .rejected _ _ | .internal => .isTrue trivial

/-- Host and device, in the schedules that meet the condition. -/
def settledSystem : Machine SystemSt SystemAct HostEvent :=
  systemMachine.restrict fun s _ e =>
    ShutdownUndisturbed s.host e ∧ OpenNotCancelled s.host e ∧ IdNotWrapped s.host e

/-! ## A socket and its stream -/

/-- The `OPEN` was submitted and the reply not handled: the socket waits, and does not know its
peer. -/
structure Opening (k : Sock) : Prop where
  alive : k.phase ≠ .dropped
  announced : k.phase.unannounced = false
  remoteId : k.state.remoteId = 0
  closed : k.state.closed = false

/-- The `CLSE` of a socket that knows its peer. -/
def clse (k : Sock) : AdbMessage := AdbMessage.new .CLSE k.localId k.state.remoteId []

/-- The socket knows its peer and is open, or its `CLSE` is on the way. -/
def Known (writers : List Writer) (toDevice : List AdbMessage) (k : Sock) : Prop :=
  (k.phase ≠ .dropped ∧ k.state.closed = false) ∨ (∃ msg, k.phase = .closing msg) ∨
    (∃ w ∈ writers, w.done = false ∧ w.msg = some (clse k)) ∨ clse k ∈ toDevice

/-- An id that the device was told stays told. -/
theorem SockStep.announced {s : Sock} {sh sh' : Shared} {st : State} {ph : Phase} {e : SockEvent}
    (h : SockStep s sh sh' st ph e) (hann : s.phase.unannounced = false) :
    ph.unannounced = false := by
  by_contra hun
  obtain ⟨call, msg, hw⟩ := Phase.unannounced_iff.mp (by simpa using hun)
  simp [(h.of_writing hw).1, Phase.unannounced] at hann

/-- The last part of `poll_shutdown` submits its `CLSE` on a connection that is there and
flushed. -/
theorem SockStep.sent_of_closing {s : Sock} {sh sh' : Shared} {st : State} {ph : Phase}
    {e : SockEvent}
    (h : SockStep s sh sh' st ph e) {msg : AdbMessage} (hph : s.phase = .closing msg)
    (hconn : sh.connection ≠ none) (hfl : sh.Flushed) : msg ∈ e.sent := by
  cases h with
  | close hph' =>
    rw [hph] at hph'
    obtain rfl := Phase.closing.inj hph'
    simp [SockEvent.sent]
  | closeLost _ hlost => exact absurd hlost hconn
  | closePanic _ hfl' => exact absurd hfl hfl'
  | drop hph' | dropNone hph' => simp [hph, Phase.droppable] at hph'
  | submit hph' | pollWriting hph' | opened hph' | pollWaiting hph' | op hph' | shutdownFlush hph'
  | mark hph' | markNone hph' => simp [hph] at hph'

/-- What closes a socket, and what drops it: it stays as it was, goes on to write its `CLSE`, hands
that to a spawned task, or is dropped without one. -/
theorem SockStep.closed_cases {s : Sock} {sh sh' : Shared} {st : State} {ph : Phase} {e : SockEvent}
    (h : SockStep s sh sh' st ph e) :
    (st.closed = s.state.closed ∧ ph ≠ .dropped) ∨ (s.phase = .flushed ∧ ∃ msg, ph = .closing msg) ∨
      (∃ msg, e = .dropped (some msg) ∧ s.state.closed = false) ∨
      (e = .dropped none ∧ (sh.error ≠ none ∨ s.state.closed = true)) := by
  cases h with
  | @submit call _ _ _ _ hphase =>
    refine .inl ⟨rfl, ?_⟩
    rcases hphase with rfl | rfl | rfl
    · simp
    · cases call <;> simp [Call.next]
    · simp
  | @pollWriting call _ _ _ _ hphase =>
    refine .inl ⟨rfl, ?_⟩
    rcases hphase with rfl | ⟨-, rfl⟩ | rfl
    · simp
    · cases call <;> simp [Call.next]
    · simp
  | pollWaiting _ hphase => exact .inl ⟨rfl, by rcases hphase with rfl | rfl <;> simp⟩
  | shutdownFlush _ hphase => exact .inl ⟨rfl, by rcases hphase with rfl | ⟨rfl, -⟩ <;> simp⟩
  | @op st e hph hpoll hst =>
    refine .inl ⟨?_, by simp⟩
    have hnot : (∀ msg, e.toSocket ≠ .handled msg) ∧ ∀ msg, e.toSocket ≠ .shutdown msg := by
      constructor <;> intro msg <;> cases e <;> simp_all [SockEvent.toSocket, SockEvent.isPoll]
    generalize e.toSocket = e' at hst hnot
    cases hst with
    | close => exact absurd rfl (hnot.1 _)
    | shutdown => exact absurd rfl (hnot.2 _)
    | _ => rfl
  | mark hph hcl => exact .inr (.inl ⟨hph, _, rfl⟩)
  | drop hph hcl => exact .inr (.inr (.inl ⟨_, rfl, hcl⟩))
  | dropNone hph hnone => exact .inr (.inr (.inr ⟨rfl, hnone⟩))
  | opened | markNone | close | closeLost | closePanic => exact .inl ⟨rfl, by simp⟩

section Host

variable {b b' : TransportBackend} {e : HostEvent} {r : Nat} {k k' : Sock}

/-- A socket that waits for the reply keeps waiting, unless it is handed a message. -/
theorem Opening.step (h : Opening k) (hb : HostLaw b) (hstep : HostStep b b' e)
    (hcancel : OpenNotCancelled b e) (hr : b.backends[r]? = some k)
    (hr' : b'.backends[r]? = some k')
    (hnot : ∀ msg, e ≠ .handled r msg) : Opening k' := by
  rcases hstep.socket hr' with ⟨hlen, -⟩ | ⟨k₁, hr₁, hid, hcase⟩
  · have := (List.getElem?_eq_some_iff.mp hr).1
    omega
  obtain rfl : k₁ = k := Option.some.inj (hr₁.symm.trans hr)
  rcases hcase with ⟨rfl, -⟩ | ⟨e', rfl, hsock⟩ | ⟨msg, rfl, -⟩
  · exact h
  · have hdrop : ∀ m, e' ≠ .dropped m := by
      rintro m rfl
      simp [OpenNotCancelled, hr, h.announced, h.closed, h.remoteId] at hcancel
    rcases hsock.closed_cases with ⟨hcl, hph⟩ | ⟨hfl, -⟩ | ⟨m, rfl, -⟩ | ⟨rfl, -⟩
    · refine ⟨hph, ?_, hsock.remoteId.trans h.remoteId, hcl.trans h.closed⟩
      exact hsock.announced h.announced
    · exact absurd h.remoteId ((hb.socks r k₁ hr).inUse (by rw [hfl]; rfl))
    · exact absurd rfl (hdrop _)
    · exact absurd rfl (hdrop _)
  · exact absurd rfl (hnot msg)

/-- A writer that is not done submits its message or keeps it. -/
theorem HostLaw.writer_kept (hb : HostLaw b) (hstep : HostStep b b' e)
    (herr : b'.shared.error = none)
    {w : Writer} (hw : w ∈ b.writers) (hdone : w.done = false) {m : AdbMessage}
    (hm : w.msg = some m) :
    (∃ w' ∈ b'.writers, w'.done = false ∧ w'.msg = some m) ∨ m ∈ e.sent := by
  have hconn := hb.connection (hstep.next.error herr)
  cases hstep with
  | @sock r s a n hr hs =>
    refine .inl ⟨w, ?_, hdone, hm⟩
    unfold TransportBackend.afterSock
    simp only
    split
    · exact List.mem_append_left _ hw
    · exact hw
  | @writer i w₁ hi hdone₁ =>
    obtain ⟨j, hj, hget⟩ := List.mem_iff_getElem.mp hw
    by_cases hij : i = j
    · subst hij
      obtain rfl : w = w₁ := by
        rw [List.getElem?_eq_getElem hj, hget] at hi
        exact Option.some.inj hi
      simp only [hm] at herr ⊢
      rcases writeMessageAsync_kept hconn herr with hsent | ⟨hkept, hpend⟩
      · exact .inr hsent
      · refine .inl ⟨_, List.mem_set hj _, ?_, hkept⟩
        simp [hpend]
    · refine .inl ⟨w, ?_, hdone, hm⟩
      refine List.mem_iff_getElem?.mpr ⟨j, ?_⟩
      simp only
      rw [List.getElem?_set_ne hij, List.getElem?_eq_getElem hj, hget]
  | env _ hwriters =>
    refine .inl ⟨w, ?_, hdone, hm⟩
    rcases hwriters with rfl | ⟨remoteId, rfl⟩
    · exact hw
    · exact List.mem_append_left _ hw
  | create | handled | rejected | remove => exact .inl ⟨w, hw, hdone, hm⟩

/-- The writer of the `CLSE` of a dropped socket. -/
theorem HostStep.writer_of_dropped {msg : AdbMessage}
    (hstep : HostStep b b' (.sock r (.dropped (some msg)))) :
    ⟨some r, some msg, false⟩ ∈ b'.writers := by
  generalize he : SockEvent.dropped (some msg) = e' at hstep
  cases hstep with
  | @sock _ s a n hr hs => simp [TransportBackend.afterSock, ← he]

/-- A socket that knows its peer keeps knowing it: it is open, or its `CLSE` is on the way. -/
theorem Known.step {toDevice : List AdbMessage} (h : Known b.writers toDevice k) (hb : HostLaw b)
    (hstep : HostStep b b' e) (herr : b'.shared.error = none) (hr : b.backends[r]? = some k)
    (hr' : b'.backends[r]? = some k') (hne : k.state.remoteId ≠ 0)
    (hnot : ∀ msg, e = .handled r msg → msg.header.command ≠ .CLSE) :
    k'.state.remoteId = k.state.remoteId ∧ Known b'.writers (toDevice ++ e.sent) k' := by
  have herr₀ := hstep.next.error herr
  obtain ⟨k₂, hr₂, hid, hmove⟩ := hstep.backend hr
  obtain rfl : k₂ = k' := Option.some.inj (hr₂.symm.trans hr')
  have hrid := hmove.remoteId hne
  have hclse : clse k₂ = clse k := by rw [clse, clse, hid, hrid]
  refine ⟨hrid, ?_⟩
  rcases hstep.socket hr' with ⟨hlen, -⟩ | ⟨k₁, hr₁, -, hcase⟩
  · have := (List.getElem?_eq_some_iff.mp hr).1
    omega
  obtain rfl : k₁ = k := Option.some.inj (hr₁.symm.trans hr)
  rcases h with ⟨hph, hcl⟩ | ⟨msg, hph⟩ | ⟨w, hw, hdone, hmsg⟩ | hmem
  · rcases hcase with ⟨rfl, -⟩ | ⟨e', rfl, hsock⟩ | ⟨msg, rfl, hph', hm⟩
    · exact .inl ⟨hph, hcl⟩
    · rcases hsock.closed_cases with ⟨hcl', hph'⟩ | ⟨-, hclosing⟩ | ⟨m, rfl, -⟩ | ⟨rfl, hnone⟩
      · exact .inl ⟨hph', hcl'.trans hcl⟩
      · exact .inr (.inl hclosing)
      · -- the spawned task has the `CLSE`
        obtain ⟨-, rfl⟩ := (hsock.of_dropped rfl).2 m rfl
        refine .inr (.inr (.inl ⟨_, hstep.writer_of_dropped, rfl, ?_⟩))
        rw [hclse, clse]
      · rcases hnone with hne' | hcl'
        · exact absurd herr₀ hne'
        · simp [hcl] at hcl'
    · refine .inl ⟨hph' ▸ hph, ?_⟩
      rcases handleMessage_cases k₁.state hm with ⟨-, avail, -, heq⟩ | ⟨-, heq⟩ | ⟨hcmd, -⟩
      · rw [heq]
        exact hcl
      · rw [heq]
        exact hcl
      · exact absurd hcmd (hnot msg rfl)
  · rcases hcase with ⟨rfl, -⟩ | ⟨e', rfl, hsock⟩ | ⟨msg', rfl, hph', -⟩
    · exact .inr (.inl ⟨msg, hph⟩)
    · -- the `CLSE` goes out: the connection is there, and flushed
      obtain rfl := (hb.socks r k₁ hr).closing msg hph
      have hsent := hsock.sent_of_closing hph (Option.isSome_iff_ne_none.mp (hb.connection herr₀))
        (hb.flush r k₁ hr (by rw [hph]; rfl))
      refine .inr (.inr (.inr (List.mem_append_right _ ?_)))
      rw [hclse]
      exact hsent
    · exact .inr (.inl ⟨msg, hph'.trans hph⟩)
  · rcases hb.writer_kept hstep herr hw hdone hmsg with ⟨w', hw', hd', hm'⟩ | hsent
    · exact .inr (.inr (.inl ⟨w', hw', hd', hclse ▸ hm'⟩))
    · exact .inr (.inr (.inr (List.mem_append_right _ (hclse ▸ hsent))))
  · exact .inr (.inr (.inr (List.mem_append_left _ (hclse ▸ hmem))))

/-- The reply to an `OPEN` tells the socket its peer. -/
theorem Opening.handled {toDevice : List AdbMessage} {msg : AdbMessage} (hk : Opening k)
    (hstep : HostStep b b' (.handled r msg)) (hr : b.backends[r]? = some k)
    (hr' : b'.backends[r]? = some k') (hcmd : msg.header.command = .OKAY) :
    k'.state.remoteId = msg.header.arg0 ∧ Known b'.writers toDevice k' := by
  rcases hstep.socket hr' with ⟨-, he, -⟩ | ⟨k₁, hr₁, -, hmove⟩
  · simp at he
  obtain rfl : k₁ = k := Option.some.inj (hr₁.symm.trans hr)
  rcases hmove with ⟨-, -, hnot⟩ | ⟨e', he, -⟩ | ⟨m, he, hph, hm⟩
  · exact absurd rfl (hnot _)
  · simp at he
  obtain ⟨-, rfl⟩ := HostEvent.handled.inj he
  rcases handleMessage_cases k₁.state hm with ⟨-, avail, -, heq⟩ | ⟨hcmd', -⟩ | ⟨hcmd', -⟩
  · refine ⟨?_, .inl ⟨hph ▸ hk.alive, ?_⟩⟩
    · rw [heq]
      simp [State.granted, hk.remoteId]
    · rw [heq]
      exact hk.closed
  · simp [hcmd] at hcmd'
  · simp [hcmd] at hcmd'

end Host

/-! ## Host, channels and device -/

/-- The device was told the id of a socket. -/
def Told (b : TransportBackend) (id : UInt32) : Prop :=
  ∃ (r : Nat) (k : Sock), b.backends[r]? = some k ∧ k.localId = id ∧ k.phase.unannounced = false

/-- The stream of a device and its socket: the reply is on its way to the socket, or the socket
knows the stream. -/
structure StreamLinked (s : SystemSt) (p : DeviceStream) : Prop where
  remoteId : p.remoteId ≠ 0
  /-- The device has not closed the stream. -/
  notClosed : ∀ m ∈ s.toHost, m.header.arg1 = p.localId → m.header.command ≠ .CLSE
  peer : ∃ (r : Nat) (k : Sock), s.host.backends[r]? = some k ∧ k.localId = p.localId ∧
    k.phase.unannounced = false ∧
    ((Opening k ∧ ∃ m, s.toHost.find? (fun m => m.header.arg1 = p.localId) = some m ∧
        m.header.command = .OKAY ∧ m.header.arg0 = p.remoteId) ∨
      (k.state.remoteId = p.remoteId ∧ Known s.host.writers s.toDevice k))

/-- An `OPEN` in flight and its socket: the socket waits, and nothing else concerns it. -/
structure OpenLinked (s : SystemSt) (id : UInt32) : Prop where
  peer : ∃ (r : Nat) (k : Sock), s.host.backends[r]? = some k ∧ k.localId = id ∧ Opening k
  noStream : ∀ p ∈ s.streams, p.localId ≠ id
  noReply : ∀ m ∈ s.toHost, m.header.arg1 ≠ id

def AdbMessage.isOpen (msg : AdbMessage) : Bool := decide (msg.header.command = .OPEN)

/-- The ids of the `OPEN`s in a list of messages. -/
def openIds (msgs : List AdbMessage) : List UInt32 :=
  (msgs.filter AdbMessage.isOpen).map fun m => m.header.arg0

/-- What every run keeps of the streams: each has its peer among the sockets, or the message that
will take care of it is on its way. -/
structure Linked (s : SystemSt) : Prop where
  host : HostLaw s.host
  toHost : ∀ m ∈ s.toHost, Reply m ∧ Told s.host m.header.arg1
  opens : ∀ id ∈ openIds s.toDevice, OpenLinked s id
  openIdsNodup : (openIds s.toDevice).Nodup
  streams : ∀ p ∈ s.streams, StreamLinked s p
  streamsNodup : (s.streams.map DeviceStream.localId).Nodup

theorem linked_new (connection : UsbConnection) : Linked (SystemSt.new connection) where
  host := hostLaw_new connection
  toHost := by simp [SystemSt.new]
  opens := by simp [SystemSt.new, openIds]
  openIdsNodup := by simp [SystemSt.new, openIds]
  streams := by simp [SystemSt.new]
  streamsNodup := by simp [SystemSt.new]

/-! ### Steps of the device -/

section Device

variable {s : SystemSt} {toDevice : List AdbMessage} {msg : AdbMessage}

/-- An `OPEN` on its way has an id. -/
theorem openIds_cons_of_open (hcmd : msg.header.command = .OPEN) :
    openIds (msg :: toDevice) = msg.header.arg0 :: openIds toDevice := by
  simp [openIds, AdbMessage.isOpen, hcmd]

theorem openIds_cons_of_ne (hcmd : msg.header.command ≠ .OPEN) :
    openIds (msg :: toDevice) = openIds toDevice := by
  simp [openIds, AdbMessage.isOpen, hcmd]

/-- The id of an `OPEN` was told to the device. -/
theorem OpenLinked.told {id : UInt32} (h : OpenLinked s id) : Told s.host id := by
  obtain ⟨r, k, hr, hid, hk⟩ := h.peer
  exact ⟨r, k, hr, hid, hk.announced⟩

/-- The id of a stream was told to the device. -/
theorem StreamLinked.told {p : DeviceStream} (h : StreamLinked s p) : Told s.host p.localId := by
  obtain ⟨r, k, hr, hid, hann, -⟩ := h.peer
  exact ⟨r, k, hr, hid, hann⟩

/-- The device sends a reply to a socket that was told to it. -/
theorem Linked.toHost_append (h : Linked s) (hreply : Reply msg)
    (htold : Told s.host msg.header.arg1) :
    ∀ m ∈ s.toHost ++ [msg], Reply m ∧ Told s.host m.header.arg1 :=
  List.forall_mem_append.mpr ⟨h.toHost, List.forall_mem_singleton.mpr ⟨hreply, htold⟩⟩

/-- A message to another socket is no reply to an `OPEN`. -/
theorem OpenLinked.noReply_append {id : UInt32} (h : OpenLinked s id) (hne : msg.header.arg1 ≠ id) :
    ∀ m ∈ s.toHost ++ [msg], m.header.arg1 ≠ id :=
  List.forall_mem_append.mpr ⟨h.noReply, List.forall_mem_singleton.mpr hne⟩

/-- A message of the device that is not about a stream leaves its link alone, and so does receiving
a message that is not the socket's `CLSE`. -/
theorem StreamLinked.device {p : DeviceStream} (h : StreamLinked s p) {s' : SystemSt}
    (hhost : s'.host = s.host) (hto : s'.toHost = s.toHost ∨
      ∃ m, s'.toHost = s.toHost ++ [m] ∧ (m.header.arg1 = p.localId → m.header.command ≠ .CLSE))
    (hdev : ∀ k : Sock, k.state.remoteId = p.remoteId → clse k ∈ s.toDevice →
      clse k ∈ s'.toDevice) :
    StreamLinked s' p := by
  refine ⟨h.remoteId, fun m hm harg => ?_, ?_⟩
  · rcases hto with hto | ⟨m', hto, hm'⟩
    · exact h.notClosed m (hto ▸ hm) harg
    · rw [hto, List.mem_append, List.mem_singleton] at hm
      rcases hm with hm | rfl
      · exact h.notClosed m hm harg
      · exact hm' harg
  · obtain ⟨r, k, hr, hid, hann, hcase⟩ := h.peer
    refine ⟨r, k, hhost ▸ hr, hid, hann, ?_⟩
    rcases hcase with ⟨hk, m, hfind, hm⟩ | ⟨hrid, hk⟩
    · refine .inl ⟨hk, m, ?_, hm⟩
      rcases hto with hto | ⟨m', hto, -⟩
      · rw [hto, hfind]
      · rw [hto, List.find?_append, hfind]
        rfl
    · refine .inr ⟨hrid, ?_⟩
      rw [hhost]
      rcases hk with hk | hk | hk | hk
      · exact .inl hk
      · exact .inr (.inl hk)
      · exact .inr (.inr (.inl hk))
      · exact .inr (.inr (.inr (hdev k hrid hk)))

/-- A `CLSE` that is on its way is still so when another message has arrived. -/
theorem clse_mem_of_cons {k : Sock} (hcmd : msg.header.command ≠ .CLSE)
    (h : clse k ∈ msg :: toDevice) :
    clse k ∈ toDevice := by
  rcases List.mem_cons.mp h with rfl | h
  · simp [clse] at hcmd
  · exact h

/-- The device accepts an `OPEN`: the reply is the first message to the socket. -/
theorem Linked.accept (h : Linked s) (hto : s.toDevice = msg :: toDevice)
    (hcmd : msg.header.command = .OPEN) {remoteId avail : UInt32} (hne : remoteId ≠ 0) :
    Linked { s with
      toDevice
      streams := s.streams ++ [⟨remoteId, msg.header.arg0⟩]
      toHost := s.toHost ++ [AdbMessage.new .OKAY remoteId msg.header.arg0 (toLeBytes avail)] } := by
  have hopens : openIds s.toDevice = msg.header.arg0 :: openIds toDevice := by
    rw [hto, openIds_cons_of_open hcmd]
  have hnew := h.opens msg.header.arg0 (by simp [hopens])
  have hnodup := h.openIdsNodup
  rw [hopens, List.nodup_cons] at hnodup
  have hnotClse : msg.header.command ≠ .CLSE := by simp [hcmd]
  refine ⟨h.host, h.toHost_append (.inl ⟨rfl, by simp⟩) hnew.told, fun id hid => ?_, hnodup.2,
    fun p hp => ?_, ?_⟩
  · -- the other `OPEN`s on their way keep their own ids
    have hidne : msg.header.arg0 ≠ id := by
      rintro rfl
      exact hnodup.1 hid
    have hold := h.opens id (by simp [hopens, hid])
    refine ⟨hold.peer, fun p hp => ?_, hold.noReply_append hidne⟩
    rcases List.mem_append.mp hp with hp | hp
    · exact hold.noStream p hp
    · obtain rfl := List.mem_singleton.mp hp
      exact hidne
  · rcases List.mem_append.mp hp with hp | hp
    · refine (h.streams p hp).device rfl (.inr ⟨_, rfl, by simp⟩) fun k _ hk => ?_
      exact clse_mem_of_cons hnotClse (hto ▸ hk)
    · obtain rfl := List.mem_singleton.mp hp
      refine ⟨hne, fun m hm harg => ?_, ?_⟩
      · rcases List.mem_append.mp hm with hm | hm
        · exact absurd harg (hnew.noReply m hm)
        · obtain rfl := List.mem_singleton.mp hm
          simp
      · obtain ⟨r, k, hr, hid, hk⟩ := hnew.peer
        have hfind : s.toHost.find? (fun m => m.header.arg1 = msg.header.arg0) = none :=
          List.find?_eq_none.mpr fun m hm => by simpa using hnew.noReply m hm
        refine ⟨r, k, hr, hid, hk.announced, .inl ⟨hk,
          AdbMessage.new .OKAY remoteId msg.header.arg0 (toLeBytes avail), ?_, rfl, rfl⟩⟩
        rw [List.find?_append, hfind]
        simp
  · rw [List.map_append, List.map_singleton, List.nodup_append]
    refine ⟨h.streamsNodup, List.nodup_singleton _, ?_⟩
    intro id hid id' hid'
    obtain ⟨p, hp, rfl⟩ := List.mem_map.mp hid
    obtain rfl := List.mem_singleton.mp hid'
    exact hnew.noStream p hp

/-- The device refuses an `OPEN`. -/
theorem Linked.refuse (h : Linked s) (hto : s.toDevice = msg :: toDevice)
    (hcmd : msg.header.command = .OPEN) :
    Linked { s with
      toDevice, toHost := s.toHost ++ [AdbMessage.new .CLSE 0 msg.header.arg0 []] } := by
  have hopens : openIds s.toDevice = msg.header.arg0 :: openIds toDevice := by
    rw [hto, openIds_cons_of_open hcmd]
  have hnew := h.opens msg.header.arg0 (by simp [hopens])
  have hnodup := h.openIdsNodup
  rw [hopens, List.nodup_cons] at hnodup
  have hnotClse : msg.header.command ≠ .CLSE := by simp [hcmd]
  refine ⟨h.host, h.toHost_append (.inr (.inr rfl)) hnew.told, fun id hid => ?_, hnodup.2,
    fun p hp => ?_, h.streamsNodup⟩
  · have hold := h.opens id (by simp [hopens, hid])
    refine ⟨hold.peer, hold.noStream, hold.noReply_append ?_⟩
    rintro rfl
    exact hnodup.1 hid
  · refine (h.streams p hp).device rfl (.inr ⟨_, rfl, fun harg => ?_⟩) fun k _ hk => ?_
    · exact absurd harg.symm (hnew.noStream p hp)
    · exact clse_mem_of_cons hnotClse (hto ▸ hk)

/-- The device receives a `CLSE` and closes the stream it names. -/
theorem Linked.receiveClose (h : Linked s) (hto : s.toDevice = msg :: toDevice)
    (hcmd : msg.header.command = .CLSE) :
    Linked { s with
      toDevice, streams := s.streams.filter fun p => p.remoteId ≠ msg.header.arg1 } := by
  have hopens : openIds s.toDevice = openIds toDevice := by
    rw [hto, openIds_cons_of_ne (by simp [hcmd])]
  refine ⟨h.host, h.toHost, fun id hid => ?_, hopens ▸ h.openIdsNodup, fun p hp => ?_, ?_⟩
  · have hold := h.opens id (hopens ▸ hid)
    exact ⟨hold.peer, fun p hp => hold.noStream p (List.mem_filter.mp hp).1, hold.noReply⟩
  · obtain ⟨hmem, hne⟩ := List.mem_filter.mp hp
    refine (h.streams p hmem).device rfl (.inl rfl) fun k hrid hk => ?_
    -- the `CLSE` of this stream's socket names this stream
    rw [hto] at hk
    rcases List.mem_cons.mp hk with rfl | hk
    · simp [clse, hrid] at hne
    · exact hk
  · exact h.streamsNodup.sublist (List.filter_sublist.map _)

/-- The device receives an `OKAY` or a `WRTE`. -/
theorem Linked.receive (h : Linked s) (hto : s.toDevice = msg :: toDevice)
    (hcmd : msg.header.command ≠ .OPEN ∧ msg.header.command ≠ .CLSE) :
    Linked { s with toDevice } := by
  have hopens : openIds s.toDevice = openIds toDevice := by
    rw [hto, openIds_cons_of_ne hcmd.1]
  refine ⟨h.host, h.toHost, fun id hid => ?_, hopens ▸ h.openIdsNodup, fun p hp => ?_,
    h.streamsNodup⟩
  · have hold := h.opens id (hopens ▸ hid)
    exact ⟨hold.peer, hold.noStream, hold.noReply⟩
  · exact (h.streams p hp).device rfl (.inl rfl) fun k _ hk => clse_mem_of_cons hcmd.2 (hto ▸ hk)

/-- The device closes a stream. -/
theorem Linked.close (h : Linked s) {p : DeviceStream} (hp : p ∈ s.streams) :
    Linked { s with
      streams := s.streams.filter fun q => q.remoteId ≠ p.remoteId
      toHost := s.toHost ++ [AdbMessage.new .CLSE p.remoteId p.localId []] } := by
  have hlink := h.streams p hp
  refine ⟨h.host, h.toHost_append (.inr (.inr rfl)) hlink.told, fun id hid => ?_, h.openIdsNodup,
    fun q hq => ?_, ?_⟩
  · have hold := h.opens id hid
    exact ⟨hold.peer, fun q hq => hold.noStream q (List.mem_filter.mp hq).1,
      hold.noReply_append (hold.noStream p hp)⟩
  · obtain ⟨hmem, hne⟩ := List.mem_filter.mp hq
    refine (h.streams q hmem).device rfl (.inr ⟨_, rfl, fun harg => ?_⟩) fun k _ hk => hk
    -- two streams have different local ids
    have : p = q := List.inj_on_of_nodup_map h.streamsNodup hp hmem harg
    simp [this] at hne
  · exact h.streamsNodup.sublist (List.filter_sublist.map _)

/-- The device sends on a stream. -/
theorem Linked.send (h : Linked s) {p : DeviceStream} (hp : p ∈ s.streams)
    (hid : msg.header.arg1 = p.localId) (hreply : Reply msg) (hcmd : msg.header.command ≠ .CLSE) :
    Linked { s with toHost := s.toHost ++ [msg] } := by
  refine ⟨h.host, h.toHost_append hreply (hid ▸ (h.streams p hp).told), fun id hid' => ?_,
    h.openIdsNodup, fun q hq => ?_, h.streamsNodup⟩
  · have hold := h.opens id hid'
    exact ⟨hold.peer, hold.noStream, hold.noReply_append (hid ▸ hold.noStream p hp)⟩
  · exact (h.streams q hq).device rfl (.inr ⟨msg, rfl, fun _ => hcmd⟩) fun k _ hk => hk

end Device

/-! ### Steps of the host -/

section HostStep

variable {s : SystemSt} {b b' : TransportBackend} {e : HostEvent}

/-- A message for a socket does not touch the channel of the `OPEN`s. -/
theorem TransportBackend.handleSocket_pending {msg : AdbMessage}
    (h : b.handleSocket msg = some (b', e)) : b'.pending = b.pending := by
  unfold handleSocket at h
  split at h
  · simp only [Option.some.injEq, Prod.mk.injEq] at h
    obtain ⟨rfl, rfl⟩ := h
    rfl
  · split at h
    · exact absurd h (by simp)
    · split at h
      · simp only [Option.some.injEq, Prod.mk.injEq] at h
        obtain ⟨rfl, rfl⟩ := h
        rfl
      · simp only [Option.some.injEq, Prod.mk.injEq] at h
        obtain ⟨rfl, rfl⟩ := h
        rfl
      · exact absurd h (by simp)

/-- Only the `OPEN` of the device makes a pending socket. -/
theorem TransportBackend.pending_of_step {a : HostAct} (h : hostMachine.step b a = some (b', e))
    (ha : ∀ msg, a = .dispatch msg → msg.header.command ≠ .OPEN) (hpend : b.pending = []) :
    b'.pending = [] := by
  simp only [hostMachine] at h
  cases a with
  | openSocket service =>
    simp only [step] at h
    split at h <;> simp only [Option.some.injEq, Prod.mk.injEq] at h <;> obtain ⟨rfl, rfl⟩ := h
    · exact hpend
    · exact hpend
  | accept i | refuse i => simp [step, hpend] at h
  | dropInbound =>
    simp only [step, Option.some.injEq, Prod.mk.injEq] at h
    obtain ⟨rfl, rfl⟩ := h
    rfl
  | sock r a =>
    simp only [step] at h
    split at h
    · exact absurd h (by simp)
    · split at h
      · exact absurd h (by simp)
      · simp only [Option.some.injEq, Prod.mk.injEq] at h
        obtain ⟨rfl, rfl⟩ := h
        exact hpend
  | writer i =>
    simp only [step] at h
    split at h
    · exact absurd h (by simp)
    · split at h
      · exact absurd h (by simp)
      · simp only [Option.some.injEq, Prod.mk.injEq] at h
        obtain ⟨rfl, rfl⟩ := h
        exact hpend
  | dispatch msg =>
    simp only [step, dispatch] at h
    split at h
    · exact absurd h (by simp)
    · split at h
      · rename_i hcmd
        exact absurd hcmd (ha msg rfl)
      · exact (handleSocket_pending h).trans hpend
      · exact (handleSocket_pending h).trans hpend
      · exact (handleSocket_pending h).trans hpend
      · simp only [Option.some.injEq, Prod.mk.injEq] at h
        obtain ⟨rfl, rfl⟩ := h
        exact hpend
  | removeClosed =>
    simp only [step] at h
    split at h
    · exact absurd h (by simp)
    · simp only [Option.some.injEq, Prod.mk.injEq] at h
      obtain ⟨rfl, rfl⟩ := h
      exact hpend
  | complete c | fail err =>
    simp only [step, Option.some.injEq, Prod.mk.injEq] at h
    obtain ⟨rfl, rfl⟩ := h
    exact hpend

/-- Only the reader task hands out messages. -/
theorem not_handled_of_step {a : HostAct} (h : hostMachine.step b a = some (b', e))
    (ha : ∀ msg, a ≠ .dispatch msg) (r : Nat) (msg : AdbMessage) : e ≠ .handled r msg := by
  rintro rfl
  simp only [hostMachine] at h
  cases a with
  | dispatch m => exact absurd rfl (ha m)
  | openSocket service =>
    simp only [TransportBackend.step] at h
    split at h <;> simp at h
  | accept i | refuse i | removeClosed =>
    simp only [TransportBackend.step] at h
    split at h <;> simp at h
  | sock r a | writer i =>
    simp only [TransportBackend.step] at h
    split at h
    · simp at h
    · split at h <;> simp at h
  | dropInbound | complete c | fail err => simp [TransportBackend.step] at h

/-- A socket that has announced its id has done so for good. -/
theorem HostStep.announced (hstep : HostStep b b' e) {r : Nat} {k k' : Sock}
    (hr : b.backends[r]? = some k) (hr' : b'.backends[r]? = some k')
    (hann : k.phase.unannounced = false) : k'.phase.unannounced = false := by
  rcases hstep.socket hr' with ⟨hlen, -⟩ | ⟨k₁, hr₁, -, hcase⟩
  · have := (List.getElem?_eq_some_iff.mp hr).1
    omega
  obtain rfl : k₁ = k := Option.some.inj (hr₁.symm.trans hr)
  rcases hcase with ⟨rfl, -⟩ | ⟨e', rfl, hsock⟩ | ⟨msg, rfl, hph, -⟩
  · exact hann
  · exact hsock.announced hann
  · rw [hph]
    exact hann

/-- What was told stays told. -/
theorem Told.step {id : UInt32} (h : Told b id) (hstep : HostStep b b' e) : Told b' id := by
  obtain ⟨r, k, hr, hid, hann⟩ := h
  obtain ⟨k', hr', hid', -⟩ := hstep.backend hr
  exact ⟨r, k', hr', hid'.trans hid, hstep.announced hr hr' hann⟩

/-- An `OPEN` is submitted by the task of a socket the device was not told of; then the socket
waits. -/
theorem HostLaw.sent_open (hb : HostLaw b) (hstep : HostStep b b' e) {m : AdbMessage}
    (hm : m ∈ e.sent)
    (hcmd : m.header.command = .OPEN) :
    ∃ (r : Nat) (k k' : Sock), b.backends[r]? = some k ∧ b'.backends[r]? = some k' ∧
      k'.localId = k.localId ∧ k.phase.unannounced = true ∧ m.header.arg0 = k.localId ∧
      e.sent = [m] ∧ Opening k' := by
  cases e with
  | sock r e' =>
    obtain ⟨k, k', hr, hr', hid, hsock⟩ := hstep.of_sock
    have hlaw := hb.socks r k hr
    have hm' : m ∈ e'.sent := hm
    generalize hst : k'.state = st, hphase : k'.phase = ph at hsock
    cases hsock with
    | @submit call msg _ _ hph hnext =>
      obtain rfl : m = msg := by simpa [SockEvent.sent] using hm'
      obtain ⟨hrid, hcl, -, harg⟩ := hlaw.fresh call m hph
      obtain rfl := hlaw.call call _ hph
      have hopening : Opening k' := by
        refine ⟨?_, ?_, by rw [hst, hrid], by rw [hst, hcl]⟩ <;> rw [hphase] <;>
          rcases hnext with rfl | rfl | rfl <;> simp [Call.next, Phase.unannounced]
      exact ⟨r, k, k', hr, hr', hid, by rw [hph]; rfl, harg, rfl, hopening⟩
    | op hph hpoll hstate =>
      rw [← SockEvent.sent_toSocket hpoll] at hm'
      rcases (hstate.sent hm').2 with hcmd' | hcmd' <;> simp [hcmd'] at hcmd
    | @close msg _ hph =>
      obtain rfl : m = msg := by simpa [SockEvent.sent] using hm'
      rw [hlaw.closing m hph] at hcmd
      simp at hcmd
    | _ => simp [SockEvent.sent] at hm'
  | written owner o sent =>
    cases hstep with
    | @writer i w hi hdone =>
      rw [hb.writers w (List.mem_of_getElem? hi) m (writeMessageAsync_msg.2 hm)] at hcmd
      simp at hcmd
  | _ => simp [HostEvent.sent] at hm

@[simp] theorem openIds_append (msgs msgs' : List AdbMessage) :
    openIds (msgs ++ msgs') = openIds msgs ++ openIds msgs' := by
  simp [openIds]

/-- An id on its way comes from an `OPEN`. -/
theorem mem_openIds {msgs : List AdbMessage} {id : UInt32} (h : id ∈ openIds msgs) :
    ∃ m ∈ msgs, m.header.command = .OPEN ∧ m.header.arg0 = id := by
  obtain ⟨m, hm, rfl⟩ := List.mem_map.mp h
  obtain ⟨hmem, hopen⟩ := List.mem_filter.mp hm
  exact ⟨m, hmem, by simpa [AdbMessage.isOpen] using hopen, rfl⟩

/-- The device was not told the id of a socket before its first message. -/
theorem HostLaw.not_told (hb : HostLaw b) {r : Nat} {k : Sock} (hr : b.backends[r]? = some k)
    (hun : k.phase.unannounced = true) : ¬ Told b k.localId := by
  rintro ⟨r', k', hr', hid, hann⟩
  obtain ⟨-, rfl⟩ := hb.tableLaw.unique hr' hr hid
  simp [hun] at hann

/-- The link of a stream over a step of the host that hands its socket no message. -/
theorem StreamLinked.hostStep {p : DeviceStream} {toHost : List AdbMessage} (h : StreamLinked s p)
    (hb : HostLaw s.host) (hstep : HostStep s.host b' e) (hcancel : OpenNotCancelled s.host e)
    (herr : b'.shared.error = none) (hsub : ∀ m ∈ toHost, m ∈ s.toHost)
    (hfind : toHost.find? (fun m => m.header.arg1 = p.localId) =
      s.toHost.find? (fun m => m.header.arg1 = p.localId))
    (hnot : ∀ (r : Nat) (k : Sock), s.host.backends[r]? = some k → k.localId = p.localId →
      ∀ msg, e ≠ .handled r msg) :
    StreamLinked ⟨b', s.toDevice ++ e.sent, toHost, s.streams⟩ p := by
  refine ⟨h.remoteId, fun m hm => h.notClosed m (hsub m hm), ?_⟩
  obtain ⟨r, k, hr, hid, hann, hcase⟩ := h.peer
  obtain ⟨k', hr', hid', -⟩ := hstep.backend hr
  refine ⟨r, k', hr', hid'.trans hid, hstep.announced hr hr' hann, ?_⟩
  rcases hcase with ⟨hk, m, hm⟩ | ⟨hrid, hk⟩
  · exact .inl ⟨hk.step hb hstep hcancel hr hr' (hnot r k hr hid), m, hfind ▸ hm⟩
  · obtain ⟨hrid', hk'⟩ := hk.step hb hstep herr hr hr' (by rw [hrid]; exact h.remoteId)
      fun msg he => absurd he (hnot r k hr hid msg)
    exact .inr ⟨hrid'.trans hrid, hk'⟩

/-- The link of an `OPEN` in flight over such a step. -/
theorem OpenLinked.hostStep {id : UInt32} {toHost toDevice : List AdbMessage} (h : OpenLinked s id)
    (hb : HostLaw s.host) (hstep : HostStep s.host b' e) (hcancel : OpenNotCancelled s.host e)
    (hsub : ∀ m ∈ toHost, m ∈ s.toHost)
    (hnot : ∀ (r : Nat) (k : Sock), s.host.backends[r]? = some k → k.localId = id →
      ∀ msg, e ≠ .handled r msg) :
    OpenLinked ⟨b', toDevice, toHost, s.streams⟩ id := by
  obtain ⟨r, k, hr, hid, hk⟩ := h.peer
  obtain ⟨k', hr', hid', -⟩ := hstep.backend hr
  exact ⟨⟨r, k', hr', hid'.trans hid, hk.step hb hstep hcancel hr hr' (hnot r k hr hid)⟩,
    h.noStream, fun m hm => h.noReply m (hsub m hm)⟩

/-- A step of the host other than a dispatch keeps every link. -/
theorem Linked.hostStep {a : HostAct} (h : Linked s) (hs : hostMachine.step s.host a = some (b', e))
    (ha : ∀ msg, a ≠ .dispatch msg) (hund : ShutdownUndisturbed s.host e)
    (hcancel : OpenNotCancelled s.host e) (hwrap : IdNotWrapped s.host e)
    (herr : b'.shared.error = none) :
    Linked { s with host := b', toDevice := s.toDevice ++ e.sent } := by
  have hstep := hostStep_of_step hs
  have hnot := not_handled_of_step hs ha
  have htold : AddressesTold s.host e := by
    cases e with
    | handled r msg => exact absurd rfl (hnot r msg)
    | _ => trivial
  have hpend := TransportBackend.pending_of_step hs (fun msg hd => absurd hd (ha msg))
    h.host.pending
  -- the id of an `OPEN` submitted now was not told before
  have hfresh : ∀ m ∈ e.sent, m.header.command = .OPEN → ¬ Told s.host m.header.arg0 := by
    intro m hm hcmd
    obtain ⟨r, k, -, hr, -, -, hun, harg, -⟩ := h.host.sent_open hstep hm hcmd
    rw [harg]
    exact h.host.not_told hr hun
  refine ⟨h.host.step hstep hund hwrap htold hpend, fun m hm => ?_, fun id hid => ?_, ?_,
    fun p hp => ?_, h.streamsNodup⟩
  · exact ⟨(h.toHost m hm).1, (h.toHost m hm).2.step hstep⟩
  · rw [openIds_append, List.mem_append] at hid
    rcases hid with hid | hid
    · exact (h.opens id hid).hostStep h.host hstep hcancel (fun m hm => hm) fun r _ _ _ => hnot r
    · obtain ⟨m, hm, hcmd, rfl⟩ := mem_openIds hid
      obtain ⟨r, k, k', hr, hr', hid', -, harg, -, hopening⟩ := h.host.sent_open hstep hm hcmd
      refine ⟨⟨r, k', hr', hid'.trans harg.symm, hopening⟩, fun p hp heq => ?_,
        fun m' hm' heq => ?_⟩
      · exact hfresh m hm hcmd (heq ▸ (h.streams p hp).told)
      · exact hfresh m hm hcmd (heq ▸ (h.toHost m' hm').2)
  · rw [openIds_append, List.nodup_append]
    refine ⟨h.openIdsNodup, ?_, ?_⟩
    · by_cases hnone : ∃ m ∈ e.sent, m.header.command = .OPEN
      · obtain ⟨m, hm, hcmd⟩ := hnone
        obtain ⟨r, k, k', -, -, -, -, -, hsent, -⟩ := h.host.sent_open hstep hm hcmd
        rw [hsent, openIds_cons_of_open hcmd]
        exact List.nodup_singleton _
      · have : openIds e.sent = [] := by
          refine List.eq_nil_iff_forall_not_mem.mpr fun id hid => ?_
          obtain ⟨m, hm, hcmd, -⟩ := mem_openIds hid
          exact hnone ⟨m, hm, hcmd⟩
        rw [this]
        exact List.nodup_nil
    · rintro id hid id' hid' rfl
      obtain ⟨m, hm, hcmd, rfl⟩ := mem_openIds hid'
      exact hfresh m hm hcmd (h.opens _ hid).told
  · exact (h.streams p hp).hostStep h.host hstep hcancel herr (fun m hm => hm) rfl
      fun r _ _ _ => hnot r

/-- What the reader task does with a message of a conforming device. -/
theorem dispatch_cases {msg : AdbMessage} (hs : hostMachine.step b (.dispatch msg) = some (b', e))
    (hreply : Reply msg) :
    (b.sockets msg.header.arg1 = none ∧ b' = b ∧ e = .internal) ∨
      (∃ r k, b.sockets msg.header.arg1 = some r ∧ b.backends[r]? = some k ∧ e = .handled r msg) ∨
      b'.shared.error ≠ none := by
  simp only [hostMachine, TransportBackend.step, TransportBackend.dispatch] at hs
  split at hs
  · exact absurd hs (by simp)
  · have hs' : b.handleSocket msg = some (b', e) := by
      rcases hreply with ⟨hcmd, -⟩ | hcmd | hcmd <;> simpa [hcmd] using hs
    unfold TransportBackend.handleSocket at hs'
    split at hs'
    · rename_i hnone
      simp only [Option.some.injEq, Prod.mk.injEq] at hs'
      exact .inl ⟨hnone, hs'.1.symm, hs'.2.symm⟩
    · rename_i r hsock
      split at hs'
      · exact absurd hs' (by simp)
      · rename_i k hr
        split at hs'
        · simp only [Option.some.injEq, Prod.mk.injEq] at hs'
          exact .inr (.inl ⟨r, k, hsock, hr, hs'.2.symm⟩)
        · simp only [Option.some.injEq, Prod.mk.injEq] at hs'
          exact .inr (.inr (hs'.1 ▸ b.shared.onError_error _))
        · exact absurd hs' (by simp)

/-- The first message to the socket of a stream, or a later one: the socket knows the stream. -/
theorem StreamLinked.deliver {p : DeviceStream} {msg : AdbMessage} {toHost : List AdbMessage}
    (h : StreamLinked s p) (hb : HostLaw s.host) (hstep : HostStep s.host b' e)
    (herr : b'.shared.error = none) (hto : s.toHost = msg :: toHost)
    (hp : msg.header.arg1 = p.localId)
    (hcase : (s.host.sockets msg.header.arg1 = none ∧ e = .internal) ∨
      ∃ r, s.host.sockets msg.header.arg1 = some r ∧ e = .handled r msg) :
    StreamLinked { s with host := b', toHost } p := by
  have hsub : ∀ m ∈ toHost, m ∈ s.toHost := fun m hm => by simp [hto, hm]
  have hsent : e.sent = [] := by rcases hcase with ⟨-, rfl⟩ | ⟨r, -, rfl⟩ <;> rfl
  refine ⟨h.remoteId, fun m hm => h.notClosed m (hsub m hm), ?_⟩
  obtain ⟨r, k, hr, hid, hann, hpeer⟩ := h.peer
  obtain ⟨k', hr', hid', -⟩ := hstep.backend hr
  refine ⟨r, k', hr', hid'.trans hid, hstep.announced hr hr' hann, .inr ?_⟩
  rcases hpeer with ⟨hk, m, hfind, hcmd, harg⟩ | ⟨hrid, hk⟩
  · -- the reply: the socket is still in the table, and is handed it
    rw [hto, List.find?_cons_of_pos (by simpa using hp)] at hfind
    obtain rfl := Option.some.inj hfind
    have hsock := hb.table r k hr hk.alive hk.closed
    rw [hid, ← hp] at hsock
    rcases hcase with ⟨hnone, -⟩ | ⟨r₁, hsock₁, rfl⟩
    · simp [hsock] at hnone
    obtain rfl : r = r₁ := Option.some.inj (hsock.symm.trans hsock₁)
    obtain ⟨hrid, hknown⟩ := hk.handled hstep hr hr' hcmd
    exact ⟨hrid.trans harg, hknown⟩
  · have hcmd : ∀ m, e = .handled r m → m.header.command ≠ .CLSE := by
      rintro m rfl
      rcases hcase with ⟨-, he⟩ | ⟨r₁, -, he⟩
      · simp at he
      · obtain ⟨-, rfl⟩ := HostEvent.handled.inj he
        exact h.notClosed m (by simp [hto]) hp
    obtain ⟨hrid', hk'⟩ := hk.step hb hstep herr hr hr' (by rw [hrid]; exact h.remoteId) hcmd
    rw [hsent, List.append_nil] at hk'
    exact ⟨hrid'.trans hrid, hk'⟩

/-- A dispatch keeps every link, and turns the reply to an `OPEN` into a link of the socket that
sent it. -/
theorem Linked.deliver {msg : AdbMessage} {toHost : List AdbMessage} (h : Linked s)
    (hto : s.toHost = msg :: toHost) (hs : hostMachine.step s.host (.dispatch msg) = some (b', e))
    (hund : ShutdownUndisturbed s.host e) (hcancel : OpenNotCancelled s.host e)
    (hwrap : IdNotWrapped s.host e) (herr : b'.shared.error = none) :
    Linked { s with host := b', toHost } := by
  have hstep := hostStep_of_step hs
  obtain ⟨hreply, htold⟩ := h.toHost msg (by simp [hto])
  have hsub : ∀ m ∈ toHost, m ∈ s.toHost := fun m hm => by simp [hto, hm]
  have hcase : (s.host.sockets msg.header.arg1 = none ∧ e = .internal) ∨
      ∃ r, s.host.sockets msg.header.arg1 = some r ∧ e = .handled r msg := by
    rcases dispatch_cases hs hreply with ⟨hnone, -, he⟩ | ⟨r, k, hsock, hr, he⟩ | hne
    · exact .inl ⟨hnone, he⟩
    · exact .inr ⟨r, hsock, he⟩
    · exact absurd herr hne
  have hsent : e.sent = [] := by rcases hcase with ⟨-, rfl⟩ | ⟨r, -, rfl⟩ <;> rfl
  -- a message reaches only the socket with its id
  have hroute : ∀ (r : Nat) (k : Sock), s.host.backends[r]? = some k → ∀ m, e = .handled r m →
      m = msg ∧ k.localId = msg.header.arg1 := by
    rintro r k hr m rfl
    rcases hcase with ⟨-, he⟩ | ⟨r', hsock, he⟩
    · simp at he
    · obtain ⟨rfl, rfl⟩ := HostEvent.handled.inj he
      obtain ⟨k', hr', hid⟩ := h.host.names _ _ hsock
      exact ⟨rfl, Option.some.inj (hr'.symm.trans hr) ▸ hid⟩
  have haddr : AddressesTold s.host e := by
    rcases hcase with ⟨-, rfl⟩ | ⟨r, hsock, rfl⟩
    · trivial
    · obtain ⟨k, hr, hid⟩ := h.host.names _ _ hsock
      obtain ⟨r', k', hr', hid', hann⟩ := htold
      obtain ⟨-, rfl⟩ := h.host.tableLaw.unique hr' hr (hid'.trans hid.symm)
      simp [AddressesTold, hr, hann]
  have hpend := TransportBackend.pending_of_step hs
    (fun m hm => by
      obtain rfl := HostAct.dispatch.inj hm
      rcases hreply with ⟨hcmd, -⟩ | hcmd | hcmd <;> simp [hcmd]) h.host.pending
  have hhost : HostLaw b' := h.host.step hstep hund hwrap haddr hpend
  refine ⟨hhost, fun m hm => ?_, fun id hid => ?_, h.openIdsNodup, fun p hp => ?_, h.streamsNodup⟩
  · exact ⟨(h.toHost m (hsub m hm)).1, (h.toHost m (hsub m hm)).2.step hstep⟩
  · have hold := h.opens id hid
    refine hold.hostStep h.host hstep hcancel hsub fun r k hr hkid m he => ?_
    exact hold.noReply msg (by simp [hto]) ((hroute r k hr m he).2.symm.trans hkid)
  · have hold := h.streams p hp
    by_cases hp' : msg.header.arg1 = p.localId
    · exact hold.deliver h.host hstep herr hto hp' hcase
    · have hlink := hold.hostStep h.host hstep hcancel herr hsub
        (by rw [hto, List.find?_cons_of_neg (by simpa using hp')])
        fun r k hr hkid m he => hp' ((hroute r k hr m he).2.symm.trans hkid)
      rw [hsent, List.append_nil] at hlink
      exact hlink

end HostStep

/-! ## Whole schedules -/

/-- Every step that meets the condition, and leaves the transport without error, keeps every
link. -/
theorem Linked.step {s s' : SystemSt} {e : HostEvent} (h : Linked s) (hstep : SystemStep s s' e)
    (hund : ShutdownUndisturbed s.host e) (hcancel : OpenNotCancelled s.host e)
    (hwrap : IdNotWrapped s.host e) (herr : s'.host.shared.error = none) : Linked s' := by
  cases hstep with
  | host hs ha => exact h.hostStep hs ha hund hcancel hwrap herr
  | deliver hto hs => exact h.deliver hto hs hund hcancel hwrap herr
  | accept hto hcmd hne => exact h.accept hto hcmd hne
  | refuse hto hcmd => exact h.refuse hto hcmd
  | receiveClose hto hcmd => exact h.receiveClose hto hcmd
  | receive hto hcmd => exact h.receive hto hcmd
  | close hp => exact h.close hp
  | send hp hid hreply hcmd => exact h.send hp hid hreply hcmd

/-- An error of the transport stays. -/
theorem SystemStep.error {s s' : SystemSt} {e : HostEvent} (hstep : SystemStep s s' e)
    (herr : s'.host.shared.error = none) : s.host.shared.error = none := by
  cases hstep with
  | host hs ha => exact (hostStep_of_step hs).next.error herr
  | deliver hto hs => exact (hostStep_of_step hs).next.error herr
  | accept | refuse | receiveClose | receive | close | send => exact herr

/-- **No orphaned streams.** In every schedule in which no future of `open_socket` is dropped
between the submission of its `OPEN` and the reply, no task disturbs a `poll_shutdown`, and
`last_id` has not wrapped: in every state without transport error in which nothing is in flight and
every spawned write has finished, each stream of the device is the peer of a socket that is alive.
-/
theorem no_orphaned_streams (connection : UsbConnection) (tr : List HostEvent) (s : SystemSt)
    (hrun : settledSystem.Run (SystemSt.new connection) tr s) (herr : s.host.shared.error = none)
    (hquiet : s.Quiescent) : ∀ p ∈ s.streams, s.HasPeer p := by
  have hlinked : s.host.shared.error = none → Linked s := by
    refine hrun.invariant (fun _ s => s.host.shared.error = none → Linked s) (fun _ => linked_new _) ?_
    rintro tr s a s' e - ih hs herr
    obtain ⟨hs, hund, hcancel, hwrap⟩ := Machine.restrict_step.mp hs
    have hstep := systemStep_of_step hs
    exact (ih (hstep.error herr)).step hstep hund hcancel hwrap herr
  obtain ⟨hdev, hhost, hdone⟩ := hquiet
  intro p hp
  obtain ⟨r, k, hr, hid, -, hcase⟩ := ((hlinked herr).streams p hp).peer
  refine ⟨k, List.mem_of_getElem? hr, hid, ?_⟩
  rcases hcase with ⟨-, m, hfind, -⟩ | ⟨hrid, hk⟩
  · simp [hhost] at hfind
  · refine ⟨hrid, ?_⟩
    rcases hk with ⟨halive, -⟩ | ⟨msg, hph⟩ | ⟨w, hw, hnot, -⟩ | hmem
    · exact halive
    · simp [hph]
    · simp [hdone w hw] at hnot
    · simp [hdev] at hmem

/-- Submit an `OPEN` and have its transfers completed. -/
def submitOpen : List SystemAct :=
  [.host (.openSocket "x"), .host (.sock 0 .poll), .host (.complete (.ok ())),
    .host (.complete (.ok ())), .host (.sock 0 .poll)]

/-- A stream that is opened and answered has its peer. -/
theorem no_orphaned_streams_opened :
    ∃ s tr, settledSystem.Run (SystemSt.new (UsbConnection.new 512)) tr s ∧
      s.streams = [⟨7, 1⟩] ∧ s.HasPeer ⟨7, 1⟩ := by
  obtain ⟨s, tr, hrun, htest⟩ := Machine.exists_run_of_exec (M := settledSystem)
    (s := SystemSt.new (UsbConnection.new 512)) (submitOpen ++ [.accept 7 100, .deliver])
    (fun s _ => decide (s.host.shared.error.isNone = true ∧ s.Quiescent ∧ s.streams = [⟨7, 1⟩]))
    (by decide)
  obtain ⟨herr, hquiet, hstreams⟩ := of_decide_eq_true htest
  refine ⟨s, tr, hrun, hstreams, ?_⟩
  exact no_orphaned_streams _ tr s hrun (by simpa using herr) hquiet _ (by simp [hstreams])

/-- The future of `open_socket` is dropped after its `OPEN` was submitted and before the reply: the
device's stream 7 stays open without a socket. -/
theorem orphan_of_cancelled_open :
    ¬ ∀ (connection : UsbConnection) (tr : List HostEvent) (s : SystemSt),
      systemMachine.Run (SystemSt.new connection) tr s → s.host.shared.error = none → s.Quiescent →
        ∀ p ∈ s.streams, s.HasPeer p := by
  intro h
  obtain ⟨s, tr, hrun, htest⟩ := Machine.exists_run_of_exec (M := systemMachine)
    (s := SystemSt.new (UsbConnection.new 512))
    (submitOpen ++ [.host (.sock 0 .drop), .host (.writer 0), .accept 7 100, .receive, .deliver,
      .host (.complete (.ok ())), .host (.writer 0)])
    (fun s _ => decide (s.host.shared.error.isNone = true ∧ s.Quiescent ∧ s.streams = [⟨7, 1⟩] ∧
      ¬ s.HasPeer ⟨7, 1⟩)) (by decide)
  obtain ⟨herr, hquiet, hstreams, hnone⟩ := of_decide_eq_true htest
  exact hnone (h _ tr s hrun (by simpa using herr) hquiet _ (by simp [hstreams]))

end AdbDaemon.Transport
