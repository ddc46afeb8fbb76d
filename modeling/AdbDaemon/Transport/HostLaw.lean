import AdbDaemon.Transport.Flush
import AdbDaemon.Transport.Outbound
import AdbDaemon.Transport.SocketTable

/-!
# The sockets that `open_socket` creates

Reference: `packages/transport/src/transport.rs` and `packages/transport/src/socket.rs`.

`HostLaw` is what holds of the host against a device that opens no streams, as long as `last_id` has
not wrapped and no `poll_shutdown` is disturbed: local ids are unique, every socket that is alive
and open is in the table, and the phase of each socket agrees with its state.
-/

namespace AdbDaemon.Transport

open Common

/-! ## One socket -/

/-- The call returned the socket. -/
def Phase.inUse : Phase → Bool
  | .idle | .flushed | .closing _ => true
  | _ => false

/-- A socket that `open_socket` created: its id is its index, and its phase and state agree. -/
structure SockLaw (r : Nat) (k : Sock) : Prop where
  id : k.localId.toNat = r + 1
  call : ∀ call msg, k.phase = .writing call msg → call = .openSocket
  fresh : ∀ call msg, k.phase = .writing call (some msg) →
    k.state.remoteId = 0 ∧ k.state.closed = false ∧ msg.header.command = .OPEN ∧
      msg.header.arg0 = k.localId
  inUse : k.phase.inUse = true → k.state.remoteId ≠ 0
  closing : ∀ msg, k.phase = .closing msg → msg = AdbMessage.new .CLSE k.localId k.state.remoteId []

/-- A remote id that is known stays the same. -/
theorem StateStep.remoteId {localId : UInt32} {st st' : State} {e : SocketEvent}
    (h : StateStep localId st st' e) : st.remoteId ≠ 0 → st'.remoteId = st.remoteId := by
  cases h with
  | grant hcmd hav =>
    intro hne
    simp [State.granted, hne]
  | _ => exact fun _ => rfl

/-- A step of the task does not touch the remote id. -/
theorem SockStep.remoteId {s : Sock} {sh sh' : Shared} {st : State} {ph : Phase} {e : SockEvent}
    (h : SockStep s sh sh' st ph e) : st.remoteId = s.state.remoteId := by
  cases h with
  | @op st e hph hpoll hst =>
    have hnot : ∀ msg, e.toSocket ≠ .handled msg := by
      intro msg
      cases e <;> simp [SockEvent.toSocket]
    generalize e.toSocket = e' at hst hnot
    cases hst with
    | grant => exact absurd rfl (hnot _)
    | _ => rfl
  | _ => rfl

/-- A task gets to a socket it can use by `accept`, or when the reply is there. -/
theorem SockStep.inUse {s : Sock} {sh sh' : Shared} {st : State} {ph : Phase} {e : SockEvent}
    (h : SockStep s sh sh' st ph e) (hph : ph.inUse = true) :
    s.phase.inUse = true ∨ s.state.remoteId ≠ 0 ∨ ∃ msg, s.phase = .writing .accept msg := by
  cases h with
  | @submit call _ _ _ hph' hphase =>
    rcases hphase with rfl | rfl | rfl
    · simp [Phase.inUse] at hph
    · cases call with
      | openSocket => simp [Call.next, Phase.inUse] at hph
      | accept => exact .inr (.inr ⟨_, hph'⟩)
    · simp [Phase.inUse] at hph
  | @pollWriting call _ _ _ hph' hphase =>
    rcases hphase with rfl | ⟨-, rfl⟩ | rfl
    · simp [Phase.inUse] at hph
    · cases call with
      | openSocket => simp [Call.next, Phase.inUse] at hph
      | accept => exact .inr (.inr ⟨_, hph'⟩)
    · simp [Phase.inUse] at hph
  | opened hph' hid => exact .inr (.inl hid)
  | pollWaiting hph' hphase => rcases hphase with rfl | rfl <;> simp [Phase.inUse] at hph
  | op hph' | shutdownFlush hph' | mark hph' | markNone hph' | close hph' | closeLost hph' =>
    exact .inl (by rw [hph']; rfl)
  | closePanic | drop | dropNone => simp [Phase.inUse] at hph

/-- A step of a socket keeps its law. -/
theorem SockLaw.sockStep {r : Nat} {k k' : Sock} {sh sh' : Shared} {e : SockEvent} (h : SockLaw r k)
    (hid : k'.localId = k.localId) (hstep : SockStep k sh sh' k'.state k'.phase e) :
    SockLaw r k' := by
  have hrid := hstep.remoteId
  refine ⟨hid ▸ h.id, fun call msg hph => ?_, fun call msg hph => ?_, fun huse => ?_,
    fun msg hph => ?_⟩
  · obtain ⟨msg', hold⟩ := hstep.writing hph
    exact h.call call msg' hold
  · obtain ⟨hold, hst, -⟩ := hstep.of_writing hph
    rw [hst, hid]
    exact h.fresh call msg hold
  · rw [hrid]
    rcases hstep.inUse huse with hold | hne | ⟨msg, hacc⟩
    · exact h.inUse hold
    · exact hne
    · exact absurd (h.call _ _ hacc) (by simp)
  · obtain ⟨-, rfl⟩ := hstep.of_closing hph
    rw [hid, hrid]

/-- A message that reaches a socket after its first message keeps the law. -/
theorem SockLaw.handled {r : Nat} {k k' : Sock} (h : SockLaw r k)
    (hid : k'.localId = k.localId) (hph : k'.phase = k.phase) (hun : k.phase.unannounced = false)
    (hrid : k.state.remoteId ≠ 0 → k'.state.remoteId = k.state.remoteId) : SockLaw r k' := by
  refine ⟨hid ▸ h.id, fun call msg hw => h.call call msg (hph ▸ hw), fun call msg hw => ?_,
    fun huse => ?_, fun msg hc => ?_⟩
  · rw [hph] at hw
    simp [hw, Phase.unannounced] at hun
  · rw [hph] at huse
    rw [hrid (h.inUse huse)]
    exact h.inUse huse
  · rw [hph] at hc
    rw [hid, hrid (h.inUse (by rw [hc]; rfl))]
    exact h.closing msg hc

/-! ## All sockets -/

/-- What holds of the host while the transport has no error and the device opens no stream. -/
structure HostLaw (b : TransportBackend) : Prop where
  socks : ∀ (r : Nat) (k : Sock), b.backends[r]? = some k → SockLaw r k
  lastId : b.lastId = UInt32.ofNat (b.backends.length + 1) ∧ b.backends.length < 2 ^ 32
  connection : b.shared.error = none → b.shared.connection.isSome
  flush : FlushKept b
  pending : b.pending = []
  table : ∀ (r : Nat) (k : Sock), b.backends[r]? = some k → k.phase ≠ .dropped →
    k.state.closed = false → b.sockets k.localId = some r
  names : TableNames b
  removing : ∀ id, b.removing = some id →
    ∃ (r : Nat) (k : Sock), b.backends[r]? = some k ∧ k.localId = id ∧ k.state.closed = true
  writers : ∀ w ∈ b.writers, ∀ msg, w.msg = some msg → msg.header.command = .CLSE

theorem hostLaw_new (connection : UsbConnection) : HostLaw (TransportBackend.new connection) where
  socks := by simp [TransportBackend.new]
  lastId := ⟨rfl, by simp [TransportBackend.new]⟩
  connection := fun _ => rfl
  flush := fun r s hr => by simp [TransportBackend.new] at hr
  pending := rfl
  table := by simp [TransportBackend.new]
  names := fun id r h => by simp [TransportBackend.new] at h
  removing := by simp [TransportBackend.new]
  writers := by simp [TransportBackend.new]

/-- What the law says of ids and table alone. -/
theorem HostLaw.tableLaw {b : TransportBackend} (h : HostLaw b) : TableLaw b where
  ids := fun r k hr => (h.socks r k hr).id
  lastId := h.lastId
  names := h.names
  table := h.table
  removing := h.removing

section HostLaw

variable {b b' : TransportBackend} {e : HostEvent}

/-- After a step of the transport every socket obeys its law, the new one included. -/
theorem HostLaw.socks_step (h : HostLaw b) (hstep : HostStep b b' e) (hwrap : IdNotWrapped b e)
    (htold : AddressesTold b e) :
    ∀ (r : Nat) (k : Sock), b'.backends[r]? = some k → SockLaw r k := by
  intro r k' hr'
  rcases hstep.socket hr' with ⟨hlen, rfl, hnew⟩ | ⟨k, hr, hid, hcase⟩
  · rw [h.pending] at hnew
    cases hnew with
    | opened service =>
      refine ⟨?_, ?_, ?_, ?_, ?_⟩
      · exact h.tableLaw.ids_step hstep hwrap r _ hr'
      · intro call msg hph
        exact (Phase.writing.inj hph).1.symm
      · intro call msg hph
        obtain ⟨-, hmsg⟩ := Phase.writing.inj hph
        obtain rfl := Option.some.inj hmsg
        exact ⟨rfl, rfl, rfl, rfl⟩
      · simp [Phase.inUse]
      · simp
    -- nothing is queued, so no socket is accepted
    | accepted p hp => simp at hp
  · have hk := h.socks r k hr
    rcases hcase with ⟨rfl, -⟩ | ⟨e', rfl, hsock⟩ | ⟨msg, rfl, hph, hm⟩
    · exact hk
    · exact hk.sockStep hid hsock
    · have hun : k.phase.unannounced = false := by simpa [AddressesTold, hr] using htold
      -- the device knows the socket, so its messages fit what was announced
      obtain ⟨k'', hr'', -, hmove⟩ := hstep.backend hr
      obtain rfl : k'' = k' := Option.some.inj (hr''.symm.trans hr')
      exact hk.handled hid hph hun hmove.remoteId

/-- Every step that meets the condition keeps the law. -/
theorem HostLaw.step (h : HostLaw b) (hstep : HostStep b b' e) (hund : ShutdownUndisturbed b e)
    (hwrap : IdNotWrapped b e) (htold : AddressesTold b e) (hpend : b'.pending = []) :
    HostLaw b' where
  socks := h.socks_step hstep hwrap htold
  lastId := (h.tableLaw.step hstep hwrap).lastId
  connection := fun herr => hstep.next.connection herr (h.connection (hstep.next.error herr))
  flush := h.flush.step hstep hund
  pending := hpend
  table := (h.tableLaw.step hstep hwrap).table
  names := h.names.step hstep
  removing := (h.tableLaw.step hstep hwrap).removing
  writers := by
    intro w hw msg hmsg
    rcases hstep.writers hw with ⟨w₀, hw₀, -, hold⟩ | ⟨remoteId, rfl⟩ | ⟨r, msg', rfl, rfl⟩
    · exact h.writers w₀ hw₀ msg (hold msg hmsg)
    · obtain rfl := Option.some.inj hmsg
      rfl
    · obtain ⟨k, k', -, -, -, hsock⟩ := hstep.of_sock
      obtain rfl := Option.some.inj hmsg
      obtain ⟨-, rfl⟩ := (hsock.of_dropped rfl).2 _ rfl
      rfl

end HostLaw

end AdbDaemon.Transport
