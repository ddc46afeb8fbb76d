import AdbDaemon.Transport.Backend

/-!
# Flush before write

Reference: `UsbConnection::write_message` of `packages/transport/src/connection/usb.rs` and
`Socket::poll_shutdown` of `packages/transport/src/socket.rs`.

`write_message` asserts that the OUT endpoint has no pending transfer. Every writer but one flushes
and writes under one acquisition of the connection. `poll_shutdown` releases it in between, so a
message of another task can get there first and the assertion fails; as long as none does, it holds.
-/

namespace AdbDaemon.Transport

open Common

/-- `poll_shutdown` has flushed the connection and has not written its `CLSE` yet. -/
def Phase.midShutdown : Phase → Bool
  | .flushed | .closing _ => true
  | _ => false

/-- The socket whose task took the step. -/
def HostEvent.task : HostEvent → Option Nat
  | .sock r _ => some r
  | _ => none

/-- Between the flush of a `poll_shutdown` and its write, no other task submits a message. -/
def ShutdownUndisturbed (b : TransportBackend) (e : HostEvent) : Prop :=
  ∀ p ∈ b.backends.zipIdx, p.1.phase.midShutdown = true → e.sent = [] ∨ e.task = some p.2

instance (b : TransportBackend) (e : HostEvent) : Decidable (ShutdownUndisturbed b e) :=
  inferInstanceAs (Decidable (∀ p ∈ b.backends.zipIdx, _))

/-- The host, in the schedules that disturb no `poll_shutdown`. -/
def undisturbedHost : Machine TransportBackend HostAct HostEvent :=
  hostMachine.restrict fun b _ e => ShutdownUndisturbed b e

/-- While a socket is between the flush and the write of its shutdown nobody else submits. -/
theorem ShutdownUndisturbed.at {b : TransportBackend} {e : HostEvent} (h : ShutdownUndisturbed b e)
    {r : Nat} {s : Sock} (hr : b.backends[r]? = some s)
    (hmid : s.phase.midShutdown = true) : e.sent = [] ∨ e.task = some r :=
  h (s, r) (List.mk_mem_zipIdx_iff_getElem?.mpr hr) hmid

/-- While some `poll_shutdown` relies on its flush, the connection is flushed. -/
def FlushKept (b : TransportBackend) : Prop :=
  ∀ (r : Nat) (s : Sock), b.backends[r]? = some s → s.phase.midShutdown = true → b.shared.Flushed

/-- The task of a socket gets into the middle of `poll_shutdown` by a flush or from there, and
leaves it when it submits a message. -/
theorem SockStep.midShutdown {s : Sock} {sh sh' : Shared} {st : State} {ph : Phase} {e : SockEvent}
    (h : SockStep s sh sh' st ph e) (hmid : ph.midShutdown = true) :
    e.sent = [] ∧ (s.phase.midShutdown = true ∨ sh'.Flushed) := by
  cases h with
  | submit hph hphase =>
    rcases hphase with rfl | rfl | rfl
    · simp [Phase.midShutdown] at hmid
    · rename_i call _ _
      cases call <;> simp [Call.next, Phase.midShutdown] at hmid
    · simp [Phase.midShutdown] at hmid
  | pollWriting hph hphase =>
    rcases hphase with rfl | ⟨-, rfl⟩ | rfl
    · simp [Phase.midShutdown] at hmid
    · rename_i call _ _
      cases call <;> simp [Call.next, Phase.midShutdown] at hmid
    · simp [Phase.midShutdown] at hmid
  | pollWaiting hph hphase => rcases hphase with rfl | rfl <;> simp [Phase.midShutdown] at hmid
  | shutdownFlush hph hphase =>
    rcases hphase with rfl | ⟨rfl, hfl⟩
    · simp [Phase.midShutdown] at hmid
    · exact ⟨rfl, .inr hfl⟩
  | mark hph hcl => exact ⟨rfl, .inl (by rw [hph]; rfl)⟩
  | opened | op | markNone | close | closeLost | closePanic | drop | dropNone =>
    simp [Phase.midShutdown] at hmid

/-- A step that does not disturb a `poll_shutdown` keeps the flush it relies on. -/
theorem FlushKept.step {b b' : TransportBackend} {e : HostEvent} (h : FlushKept b)
    (hstep : HostStep b b' e) (hund : ShutdownUndisturbed b e) : FlushKept b' := by
  intro r s' hr' hmid
  rcases hstep.socket hr' with ⟨-, -, hnew⟩ | ⟨s, hr, -, hcase⟩
  · cases hnew <;> simp [Phase.midShutdown] at hmid
  · -- the flush is kept from the state before the step, or was made by the step
    have hold : s.phase.midShutdown = true → e.sent = [] → b'.shared.Flushed := fun hs hsent =>
      hstep.next.flushed hsent (h r s hr hs)
    rcases hcase with ⟨rfl, hown, -⟩ | ⟨e', rfl, hsock⟩ | ⟨msg, rfl, hph, -⟩
    · rcases hund.at hr hmid with hsent | htask
      · exact hold hmid hsent
      · cases e with
        | sock r' e' =>
          obtain rfl : r' = r := by simpa [HostEvent.task] using htask
          exact absurd rfl (hown e')
        | _ => simp [HostEvent.task] at htask
    · obtain ⟨hsent, hs | hfl⟩ := hsock.midShutdown hmid
      · exact hold hs hsent
      · exact hfl
    · exact hold (hph ▸ hmid) rfl

/-- A step panics only in the middle of a `poll_shutdown` whose flush was lost. -/
theorem HostStep.panicked_false {b b' : TransportBackend} {e : HostEvent} (h : HostStep b b' e)
    (hkept : FlushKept b) : e.panicked = false := by
  cases h with
  | @sock r s a n hr hs =>
    by_contra hp
    obtain ⟨⟨msg, hph⟩, hfl⟩ := Sock.step_panicked hs (by simpa [HostEvent.panicked] using hp)
    exact hfl (hkept r s hr (by rw [hph]; rfl))
  | writer hi hdone => simpa [HostEvent.panicked] using (writeMessageAsync_spec _ _).1
  | create | handled | rejected | remove | env => rfl

/-- **Flush before write.** In every schedule in which no task submits a message between the flush
and the write of another task's `poll_shutdown`, no call of `write_message` finds a pending
transfer. -/
theorem writeMessage_never_panics (connection : UsbConnection) (tr : List HostEvent)
    (b : TransportBackend)
    (hrun : undisturbedHost.Run (TransportBackend.new connection) tr b) :
    ∀ e ∈ tr, e.panicked = false := by
  have hinv : FlushKept b ∧ ∀ e ∈ tr, e.panicked = false := by
    refine hrun.invariant_forall FlushKept (fun e => e.panicked = false) ?_ ?_
    · exact fun r s hr => by simp [TransportBackend.new] at hr
    · intro b a b' e hkept hs
      obtain ⟨hs, hund⟩ := Machine.restrict_step.mp hs
      have hstep := hostStep_of_step hs
      exact ⟨hkept.step hstep hund, hstep.panicked_false hkept⟩
  exact hinv.2

/-- Open a socket: the `OPEN` goes out, its two transfers complete, and the device grants 100
bytes. -/
def openSchedule (r : Nat) (localId remoteId : UInt32) : List HostAct :=
  [.openSocket "x", .sock r .poll, .complete (.ok ()), .complete (.ok ()), .sock r .poll,
    .dispatch (AdbMessage.new .OKAY remoteId localId (toLeBytes 100)), .sock r .poll]

/-- A `poll_shutdown` that no other task disturbs writes its `CLSE`. -/
theorem writeMessage_never_panics_shutdown :
    ∃ b tr, undisturbedHost.Run
        (TransportBackend.new (UsbConnection.new 512)) tr b ∧
      tr.flatMap (HostEvent.sentBy 0) = [openMessage "x" 1, AdbMessage.new .CLSE 1 7 []] ∧
      ∀ e ∈ tr, e.panicked = false := by
  obtain ⟨b, tr, hrun, htest⟩ := Machine.exists_run_of_exec
    (M := undisturbedHost)
    (s := TransportBackend.new (UsbConnection.new 512))
    (openSchedule 0 1 7 ++ [.sock 0 .shutdownFlush, .sock 0 .shutdownMark, .sock 0 .shutdownWrite])
    (fun _ tr => decide (tr.flatMap (HostEvent.sentBy 0) =
      [openMessage "x" 1, AdbMessage.new .CLSE 1 7 []])) (by decide)
  exact ⟨b, tr, hrun, of_decide_eq_true htest, writeMessage_never_panics _ tr b hrun⟩

/-- The write of a second socket between the flush and the write of the first one's `poll_shutdown`
makes the assertion fail. -/
theorem writeMessage_panics_between_flush_and_write :
    ¬ ∀ (connection : UsbConnection) (tr : List HostEvent) (b : TransportBackend),
      hostMachine.Run (TransportBackend.new connection) tr b → ∀ e ∈ tr, e.panicked = false := by
  intro h
  obtain ⟨b, tr, hrun, htest⟩ := Machine.exists_run_of_exec (M := hostMachine)
    (s := TransportBackend.new (UsbConnection.new 512))
    (openSchedule 0 1 7 ++ openSchedule 1 2 8 ++
      [.sock 0 .shutdownFlush, .sock 1 (.write [0] true), .sock 0 .shutdownMark,
        .sock 0 .shutdownWrite])
    (fun _ tr => tr.any HostEvent.panicked) (by decide)
  obtain ⟨e, he, hp⟩ := List.any_eq_true.mp htest
  simp [h _ tr b hrun e he] at hp

end AdbDaemon.Transport
