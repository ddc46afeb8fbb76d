import Mathlib.Algebra.BigOperators.Group.List.Basic
import AdbDaemon.Transport.Backend

/-!
# The outbound messages of a socket

Reference: `packages/transport/src/socket.rs`.

A `CLSE` is issued by `SocketBackend::shutdown` under the state lock and submitted later, by
`poll_shutdown` or by the task that `SocketBackend::drop` spawns. `clses_add_issued_le` accounts for
every `CLSE` from one to the other; `shutdown` issues it only when it closes the socket, and reads
and writes submit only while the socket is not closed.
-/

namespace AdbDaemon.Transport

open Common

/-- The message that ends a stream. -/
def AdbMessage.isClse (msg : AdbMessage) : Bool := decide (msg.header.command = .CLSE)

/-- The number of `CLSE`s submitted for one socket. -/
def clses (r : Nat) (tr : List HostEvent) : Nat :=
  (tr.flatMap (HostEvent.sentBy r)).countP AdbMessage.isClse

/-- The device has not been told the id of the socket yet. -/
def Phase.unannounced : Phase → Bool
  | .writing _ (some _) => true
  | _ => false

/-- A socket has not announced its id as long as that message is still to be written. -/
theorem Phase.unannounced_iff {ph : Phase} :
    ph.unannounced = true ↔ ∃ call msg, ph = .writing call (some msg) := by
  cases ph with
  | writing call msg => cases msg <;> simp [Phase.unannounced]
  | _ => simp [Phase.unannounced]

/-- The device addresses only sockets whose id it has been told. -/
def AddressesTold (b : TransportBackend) (e : HostEvent) : Prop :=
  match e with
  | .handled r _ => (b.backends[r]?.all fun s => !s.phase.unannounced) = true
  | _ => True

instance (b : TransportBackend) : (e : HostEvent) → Decidable (AddressesTold b e)
  | .handled _ _ => inferInstanceAs (Decidable (_ = true))
  | .created _ | .sock _ _ | .written _ _ _ | .rejected _ _ | .internal => .isTrue trivial

/-- The host against a device that does. -/
def toldHost : Machine TransportBackend HostAct HostEvent :=
  hostMachine.restrict fun b _ e => AddressesTold b e

/-! ## Who may submit what -/

/-- A first message is pending only while the socket is open; a `CLSE` is pending only after it was
closed. -/
structure OutboundLaw (b : TransportBackend) : Prop where
  writing : ∀ (r : Nat) (s : Sock) call msg, b.backends[r]? = some s →
    s.phase = .writing call (some msg) → s.state.closed = false ∧ msg.isClse = false
  closing : ∀ (r : Nat) (s : Sock) msg, b.backends[r]? = some s →
    s.phase = .closing msg → s.state.closed = true ∧ msg.isClse = true
  writers : ∀ w ∈ b.writers, ∀ r, w.owner = some r →
    (∃ s : Sock, b.backends[r]? = some s ∧ s.state.closed = true) ∧
      ∀ msg, w.msg = some msg → msg.isClse = true

/-- Reads and writes submit only while the socket is open, and only `OKAY` and `WRTE`. -/
theorem StateStep.sent {localId : UInt32} {st st' : State} {e : SocketEvent}
    (h : StateStep localId st st' e) {m : AdbMessage} (hm : m ∈ e.sent) :
    st.closed = false ∧ (m.header.command = .OKAY ∨ m.header.command = .WRTE) := by
  cases h with
  | readBytes hcl hb =>
    obtain rfl : m = readOkay localId st _ := by simpa [SocketEvent.sent] using hm
    exact ⟨hcl, .inl rfl⟩
  | write hcl hack =>
    obtain rfl : m = writeWrte localId st _ := by simpa [SocketEvent.sent] using hm
    exact ⟨hcl, .inr rfl⟩
  | _ => simp [SocketEvent.sent] at hm

/-- Neither an `OKAY` nor a `WRTE` is a `CLSE`. -/
theorem AdbMessage.isClse_eq_false {msg : AdbMessage}
    (h : msg.header.command = .OKAY ∨ msg.header.command = .WRTE) : msg.isClse = false := by
  rcases h with h | h <;> simp [isClse, h]

/-- What the task of a socket submits is a `CLSE` exactly when the socket is closed. -/
theorem SockStep.sent {s : Sock} {sh sh' : Shared} {st : State} {ph : Phase} {e : SockEvent}
    (h : SockStep s sh sh' st ph e)
    (hwriting : ∀ call msg, s.phase = .writing call (some msg) →
      s.state.closed = false ∧ msg.isClse = false)
    (hclosing : ∀ msg, s.phase = .closing msg → s.state.closed = true ∧ msg.isClse = true)
    {m : AdbMessage} (hm : m ∈ e.sent) : m.isClse = s.state.closed := by
  cases h with
  | submit hph =>
    obtain rfl : m = _ := by simpa [SockEvent.sent] using hm
    obtain ⟨h₁, h₂⟩ := hwriting _ _ hph
    rw [h₁, h₂]
  | op hph hpoll hst =>
    rw [← SockEvent.sent_toSocket hpoll] at hm
    obtain ⟨h₁, h₂⟩ := hst.sent hm
    rw [h₁, AdbMessage.isClse_eq_false h₂]
  | close hph =>
    obtain rfl : m = _ := by simpa [SockEvent.sent] using hm
    obtain ⟨h₁, h₂⟩ := hclosing _ hph
    rw [h₁, h₂]
  | _ => simp [SockEvent.sent] at hm

/-- Every message submitted for a socket is a `CLSE` exactly when the socket is closed. -/
theorem OutboundLaw.sent {b b' : TransportBackend} {e : HostEvent} (h : OutboundLaw b)
    (hstep : HostStep b b' e) {r : Nat} {m : AdbMessage} (hm : m ∈ e.sentBy r) :
    ∃ s : Sock, b.backends[r]? = some s ∧ m.isClse = s.state.closed := by
  cases hstep with
  | @sock r' s a n hr hs =>
    simp only [HostEvent.sentBy] at hm
    split at hm
    · rename_i heq
      subst heq
      refine ⟨s, hr, (Sock.step_cases hs).2.2.sent ?_ ?_ hm⟩
      · exact fun call msg => h.writing r' s call msg hr
      · exact fun msg => h.closing r' s msg hr
    · simp at hm
  | @writer i w hi hdone =>
    simp only [HostEvent.sentBy] at hm
    split at hm
    · rename_i hown
      obtain ⟨⟨s, hr, hcl⟩, hclse⟩ := h.writers w (List.mem_of_getElem? hi) r hown
      refine ⟨s, hr, ?_⟩
      rw [hcl]
      exact hclse m (writeMessageAsync_msg.2 hm)
    · simp at hm
  | create | handled | rejected | remove | env => simp [HostEvent.sentBy] at hm

/-- A step to a socket whose id the device was told keeps the law. -/
theorem OutboundLaw.step {b b' : TransportBackend} {e : HostEvent} (h : OutboundLaw b)
    (hstep : HostStep b b' e) (htold : AddressesTold b e) : OutboundLaw b' := by
  have hphase : ∀ (r : Nat) (s' : Sock), b'.backends[r]? = some s' →
      (∀ call msg, s'.phase = .writing call (some msg) →
        s'.state.closed = false ∧ msg.isClse = false) ∧
      ∀ msg, s'.phase = .closing msg → s'.state.closed = true ∧ msg.isClse = true := by
    intro r s' hr'
    rcases hstep.socket hr' with ⟨-, -, hnew⟩ | ⟨s, hr, -, hcase⟩
    · cases hnew <;>
        simp [State.new, openMessage, acceptMessage, AdbMessage.isClse]
    · rcases hcase with ⟨rfl, -⟩ | ⟨e', rfl, hsock⟩ | ⟨msg, rfl, hph, hm⟩
      · exact ⟨fun call msg => h.writing r s' call msg hr, fun msg => h.closing r s' msg hr⟩
      · refine ⟨fun call msg hw => ?_, fun msg hc => ?_⟩
        · obtain ⟨hph, hst, -⟩ := hsock.of_writing hw
          rw [hst]
          exact h.writing r s call msg hr hph
        · obtain ⟨hst, rfl⟩ := hsock.of_closing hc
          rw [hst]
          exact ⟨rfl, by simp [AdbMessage.isClse]⟩
      · -- the device was told the id, so the first message is out
        have hnot : s.phase.unannounced = false := by simpa [AddressesTold, hr] using htold
        rw [hph]
        refine ⟨fun call msg hw => ?_, fun msg hc => ⟨?_, (h.closing r s msg hr hc).2⟩⟩
        · rw [hw] at hnot
          simp [Phase.unannounced] at hnot
        · obtain ⟨s'', hr'', hcl⟩ := hstep.closed_mono ⟨s, hr, (h.closing r s msg hr hc).1⟩
          rwa [Option.some.inj (hr''.symm.trans hr')] at hcl
  refine ⟨fun r s call msg hr => (hphase r s hr).1 call msg, fun r s msg hr => (hphase r s hr).2 msg,
    fun w hw r hown => ?_⟩
  rcases hstep.writers hw with ⟨w₀, hw₀, hown₀, hmsg⟩ | ⟨remoteId, rfl⟩ | ⟨r', msg, rfl, rfl⟩
  · obtain ⟨hcl, hclse⟩ := h.writers w₀ hw₀ r (hown₀.trans hown)
    exact ⟨hstep.closed_mono hcl, fun msg hm => hclse msg (hmsg msg hm)⟩
  · exact absurd hown (by simp)
  · obtain rfl : r' = r := by simpa using hown
    obtain ⟨s, s', hr, hr', -, hsock⟩ := hstep.of_sock
    obtain ⟨-, hdrop⟩ := hsock.of_dropped rfl
    obtain ⟨hst, rfl⟩ := hdrop msg rfl
    refine ⟨⟨s', hr', by rw [hst]⟩, fun m hm => ?_⟩
    obtain rfl := Option.some.inj hm
    simp [AdbMessage.isClse]

/-! ## From `shutdown` to the connection -/

/-- A socket that is about to submit its `CLSE`. -/
def Phase.closes : Phase → Nat
  | .closing _ => 1
  | _ => 0

/-- The writers of a socket's `CLSE` that have not submitted it. -/
def unwritten (r : Nat) (w : Writer) : Bool := decide (w.owner = some r) && w.msg.isSome

/-- The `CLSE`s of a socket that were issued and not submitted yet. -/
def issued (b : TransportBackend) (r : Nat) : Nat :=
  ((b.backends[r]?.map fun (s : Sock) => s.phase.closes).getD 0) + b.writers.countP (unwritten r)

/-- The `CLSE`s a step of `shutdown` issues, and those of them left to a spawned writer. -/
def SockEvent.issues : SockEvent → Nat
  | .shutdownMarked (some _) | .dropped (some _) => 1
  | _ => 0

/-- A drop that leaves the `CLSE` to a spawned task. -/
def SockEvent.spawns : SockEvent → Nat
  | .dropped (some _) => 1
  | _ => 0

def HostEvent.issues (r : Nat) : HostEvent → Nat
  | .sock r' e => if r' = r then e.issues else 0
  | _ => 0

/-- A `CLSE` that the task of a socket submits, keeps or spawns a writer for was kept before or is
issued now. -/
theorem SockStep.closes_le {s : Sock} {sh sh' : Shared} {st : State} {ph : Phase} {e : SockEvent}
    (h : SockStep s sh sh' st ph e)
    (hwriting : ∀ call msg, s.phase = .writing call (some msg) → msg.isClse = false) :
    e.sent.countP AdbMessage.isClse + ph.closes + e.spawns ≤ s.phase.closes + e.issues := by
  cases h with
  | @submit call _ _ _ hph hphase =>
    rcases hphase with rfl | rfl | rfl
    · simp [SockEvent.sent, Phase.closes, SockEvent.spawns, hwriting _ _ hph]
    · cases call <;>
        simp [SockEvent.sent, Call.next, Phase.closes, SockEvent.spawns, hwriting _ _ hph]
    · simp [SockEvent.sent, Phase.closes, SockEvent.spawns, hwriting _ _ hph]
  | @pollWriting call _ _ _ hph hphase =>
    rcases hphase with rfl | ⟨-, rfl⟩ | rfl
    · simp [SockEvent.sent, Phase.closes, SockEvent.spawns]
    · cases call <;> simp [SockEvent.sent, Call.next, Phase.closes, SockEvent.spawns]
    · simp [SockEvent.sent, Phase.closes, SockEvent.spawns]
  | pollWaiting hph hphase =>
    rcases hphase with rfl | rfl <;> simp [SockEvent.sent, Phase.closes, SockEvent.spawns]
  | @op st e hph hpoll hst =>
    have hnone : e.sent.countP AdbMessage.isClse = 0 := by
      refine List.countP_eq_zero.mpr fun m hm => ?_
      rw [← SockEvent.sent_toSocket hpoll] at hm
      simp [AdbMessage.isClse_eq_false (hst.sent hm).2]
    have hspawn : e.spawns = 0 := by
      cases e <;> first | rfl | simp [SockEvent.isPoll] at hpoll
    rw [hnone, hspawn]
    simp [Phase.closes]
  | shutdownFlush hph hphase =>
    rcases hphase with rfl | ⟨rfl, -⟩ <;> simp [SockEvent.sent, Phase.closes, SockEvent.spawns]
  | close hph =>
    rw [hph]
    have := List.countP_le_length (p := AdbMessage.isClse) (l := [‹AdbMessage›])
    simpa [SockEvent.sent, Phase.closes, SockEvent.spawns, SockEvent.issues] using this
  | opened | mark | markNone | closeLost | closePanic | drop | dropNone =>
    simp [SockEvent.sent, Phase.closes, SockEvent.spawns, SockEvent.issues]

/-- `shutdown` issues a `CLSE` only when it closes the socket. -/
theorem SockStep.issues {s : Sock} {sh sh' : Shared} {st : State} {ph : Phase} {e : SockEvent}
    (h : SockStep s sh sh' st ph e) (hne : e.issues ≠ 0) :
    e.issues = 1 ∧ s.state.closed = false ∧ st.closed = true := by
  cases h with
  | mark hph hcl => exact ⟨rfl, hcl, rfl⟩
  | drop hph hcl => exact ⟨rfl, hcl, rfl⟩
  | @op _ e hph hpoll hst =>
    refine absurd ?_ hne
    cases e <;> first | rfl | simp [SockEvent.isPoll] at hpoll
  | _ => exact absurd rfl hne

/-- A step issues at most one `CLSE` of a socket, and closes it with that. -/
theorem HostStep.issues {b b' : TransportBackend} {e : HostEvent} (hstep : HostStep b b' e)
    {r : Nat}
    (hne : e.issues r ≠ 0) :
    e.issues r = 1 ∧ (∃ s : Sock, b.backends[r]? = some s ∧ s.state.closed = false) ∧
      ∃ s : Sock, b'.backends[r]? = some s ∧ s.state.closed = true := by
  cases e with
  | sock r' e =>
    simp only [HostEvent.issues] at hne ⊢
    split at hne
    · rename_i heq
      subst heq
      obtain ⟨s, s', hr, hr', -, hsock⟩ := hstep.of_sock
      obtain ⟨h₁, h₂, h₃⟩ := hsock.issues hne
      exact ⟨by simpa using h₁, ⟨s, hr, h₂⟩, s', hr', h₃⟩
    · exact absurd rfl hne
  | _ => exact absurd rfl hne

/-- Only a dropped socket leaves its `CLSE` to a new writer. -/
theorem TransportBackend.countP_afterSock (b : TransportBackend) (r r' : Nat) (n : SockNext) :
    (b.afterSock r' n).writers.countP (unwritten r) =
      b.writers.countP (unwritten r) + if r' = r then n.event.spawns else 0 := by
  cases hev : n.event with
  | dropped msg =>
    cases msg with
    | none => simp [afterSock, hev, SockEvent.spawns]
    | some msg => simp [afterSock, hev, SockEvent.spawns, unwritten, List.countP_append]
  | _ => simp [afterSock, hev, SockEvent.spawns]

/-- A writer submits the `CLSE` it kept, or keeps it: sent and unwritten ones together do not get
more. -/
theorem countP_writer (b : TransportBackend) {r i : Nat} {w : Writer} (hi : b.writers[i]? = some w)
    (done : Bool) :
    (HostEvent.sentBy r (.written w.owner (writeMessageAsync w.msg b.shared).outcome
        (writeMessageAsync w.msg b.shared).sent)).countP AdbMessage.isClse +
      (b.writers.set i ⟨w.owner, (writeMessageAsync w.msg b.shared).msg, done⟩).countP
          (unwritten r) ≤
    b.writers.countP (unwritten r) := by
  obtain ⟨hlt, hget⟩ := List.getElem?_eq_some_iff.mp hi
  rw [List.countP_set hlt, hget]
  have hpos : unwritten r w = true → 0 < b.writers.countP (unwritten r) := fun hw =>
    List.countP_pos_iff.mpr ⟨w, List.mem_of_getElem? hi, hw⟩
  obtain ⟨-, -, ⟨hmsg, hsent, -⟩ | ⟨m, hw, hmsg, hsent⟩⟩ := writeMessageAsync_spec w.msg b.shared
  · have hsame : unwritten r ⟨w.owner, w.msg, done⟩ = unwritten r w := rfl
    have hzero : ∀ o, (HostEvent.sentBy r (.written w.owner o [])).countP AdbMessage.isClse = 0 := by
      simp [HostEvent.sentBy]
    rw [hmsg, hsent, hsame, hzero]
    split
    · rename_i hw
      have := hpos hw
      omega
    · omega
  · -- the message goes out: one fewer unwritten, one more sent
    have hnone : unwritten r ⟨w.owner, none, done⟩ = false := by simp [unwritten]
    rw [hmsg, hsent, hnone]
    simp only [HostEvent.sentBy, Bool.false_eq_true, if_false, Nat.add_zero]
    by_cases hown : w.owner = some r
    · have hunw : unwritten r w = true := by simp [unwritten, hown, hw]
      have hle := List.countP_le_length (p := AdbMessage.isClse) (l := [m])
      have := hpos hunw
      rw [if_pos hown, if_pos hunw]
      simp only [List.length_singleton] at hle
      omega
    · simp [hown]

/-- No `CLSE` comes from nowhere: what is submitted or left to submit was issued. -/
theorem OutboundLaw.issued_step {b b' : TransportBackend} {e : HostEvent} (h : OutboundLaw b)
    (hstep : HostStep b b' e) (r : Nat) :
    (e.sentBy r).countP AdbMessage.isClse + issued b' r ≤ issued b r + e.issues r := by
  cases hstep with
  | @create call state msg pending _ =>
    have hr' : ((b.backends ++ [⟨b.lastId, state, .writing call (some (msg b.lastId))⟩])[r]?.map
        fun (s : Sock) => s.phase.closes).getD 0 =
        (b.backends[r]?.map fun (s : Sock) => s.phase.closes).getD 0 := by
      rw [List.getElem?_append]
      split
      · rfl
      · rename_i hlt
        rw [List.getElem?_eq_none (Nat.le_of_not_lt hlt), List.getElem?_singleton]
        split <;> rfl
    simp [issued, TransportBackend.create, hr', HostEvent.sentBy]
  | @sock r' s a n hr hs =>
    simp only [issued, b.countP_afterSock]
    by_cases heq : r' = r
    · subst heq
      have hle := (Sock.step_cases hs).2.2.closes_le fun call msg hph =>
        (h.writing r' s call msg hr hph).2
      have hr' : (b.afterSock r' n).backends[r']? = some n.sock := getElem?_set_of_some hr _
      simp only [HostEvent.sentBy, HostEvent.issues, if_true, hr, hr', Option.map_some,
        Option.getD_some]
      omega
    · have hr' : (b.afterSock r' n).backends[r]? = b.backends[r]? := List.getElem?_set_ne heq
      simp [HostEvent.sentBy, HostEvent.issues, heq, hr']
  | @writer i w hi hdone =>
    have := countP_writer b (r := r) hi (decide ((writeMessageAsync w.msg b.shared).outcome ≠ .pending))
    simp only [issued, HostEvent.issues]
    omega
  | @handled r' s msg state hidle hid hr hm =>
    have hr' : ((b.backends.set r' { s with state })[r]?.map fun (s : Sock) => s.phase.closes) =
        b.backends[r]?.map fun (s : Sock) => s.phase.closes := by
      by_cases heq : r' = r
      · subst heq
        rw [getElem?_set_of_some hr, hr]
        rfl
      · rw [List.getElem?_set_ne heq]
    simp [issued, hr', HostEvent.sentBy]
  | env hnext hwriters =>
    rcases hwriters with rfl | ⟨remoteId, rfl⟩
    · simp [issued, HostEvent.sentBy]
    · simp [issued, HostEvent.sentBy, List.countP_append, unwritten]
  | rejected | remove => simp [issued, TransportBackend.fail, HostEvent.sentBy]

/-! ## Whole schedules -/

variable {b₀ b : TransportBackend} {tr : List HostEvent} {r : Nat}

/-- The law holds in every run. -/
theorem outboundLaw_of_run (h₀ : OutboundLaw b₀)
    (hrun : toldHost.Run b₀ tr b) : OutboundLaw b :=
  hrun.invariant (fun _ b => OutboundLaw b) h₀ fun _ _ _ _ _ _ h hs =>
    h.step (hostStep_of_step (Machine.restrict_step.mp hs).1) (Machine.restrict_step.mp hs).2

/-- Every `CLSE` submitted was issued. -/
theorem clses_add_issued_le (h₀ : OutboundLaw b₀) (hrun : toldHost.Run b₀ tr b) :
    clses r tr + issued b r ≤ issued b₀ r + (tr.map (HostEvent.issues r)).sum := by
  refine hrun.invariant (fun tr b =>
    clses r tr + issued b r ≤ issued b₀ r + (tr.map (HostEvent.issues r)).sum) (by simp [clses]) ?_
  rintro tr b a b' e hrun ih hs
  have hstep := hostStep_of_step (Machine.restrict_step.mp hs).1
  have hle := (outboundLaw_of_run h₀ hrun).issued_step hstep r
  simp only [clses, List.flatMap_append, List.flatMap_singleton, List.countP_append,
    List.map_append,
    List.map_singleton, List.sum_append, List.sum_singleton] at ih ⊢
  omega

/-- A closed socket issues no `CLSE` any more, and stays closed. -/
theorem issues_of_closed (hcl : ∃ s : Sock, b₀.backends[r]? = some s ∧ s.state.closed = true)
    (hrun : hostMachine.Run b₀ tr b) :
    (∃ s : Sock, b.backends[r]? = some s ∧ s.state.closed = true) ∧
      (tr.map (HostEvent.issues r)).sum = 0 := by
  refine hrun.invariant (fun tr b => (∃ s : Sock, b.backends[r]? = some s ∧ s.state.closed = true) ∧
    (tr.map (HostEvent.issues r)).sum = 0) ⟨hcl, rfl⟩ ?_
  rintro tr b a b' e - ⟨hclosed, hsum⟩ hs
  have hstep := hostStep_of_step hs
  refine ⟨hstep.closed_mono hclosed, ?_⟩
  rw [List.map_append, List.sum_append, hsum, List.map_singleton, List.sum_singleton, Nat.zero_add]
  by_contra hne
  obtain ⟨-, ⟨s, hr, hopen⟩, -⟩ := hstep.issues hne
  obtain ⟨s', hr', hcl'⟩ := hclosed
  rw [Option.some.inj (hr'.symm.trans hr), hopen] at hcl'
  simp at hcl'

/-- At most one `CLSE` is issued, and none while the socket is open. -/
theorem sum_issues_le (hrun : hostMachine.Run b₀ tr b) :
    (tr.map (HostEvent.issues r)).sum ≤ 1 ∧ ((tr.map (HostEvent.issues r)).sum ≠ 0 →
      ∃ s : Sock, b.backends[r]? = some s ∧ s.state.closed = true) := by
  refine hrun.invariant (fun tr b => (tr.map (HostEvent.issues r)).sum ≤ 1 ∧
    ((tr.map (HostEvent.issues r)).sum ≠ 0 →
      ∃ s : Sock, b.backends[r]? = some s ∧ s.state.closed = true)) ⟨Nat.zero_le 1, by simp⟩ ?_
  rintro tr b a b' e - ⟨hle, hclosed⟩ hs
  have hstep := hostStep_of_step hs
  simp only [List.map_append, List.sum_append, List.map_singleton, List.sum_singleton]
  by_cases hne : e.issues r = 0
  · rw [hne, Nat.add_zero]
    exact ⟨hle, fun h => hstep.closed_mono (hclosed h)⟩
  · obtain ⟨hone, ⟨s, hr, hopen⟩, hcl'⟩ := hstep.issues hne
    have hzero : (tr.map (HostEvent.issues r)).sum = 0 := by
      by_contra h
      obtain ⟨s', hr', hs'⟩ := hclosed h
      rw [Option.some.inj (hr'.symm.trans hr), hopen] at hs'
      simp at hs'
    rw [hzero, hone]
    exact ⟨Nat.le_refl 1, fun _ => hcl'⟩

/-- A call of `SocketBackend::shutdown`, by `poll_shutdown` or by a drop. -/
def HostEvent.shutsDown (r : Nat) : HostEvent → Bool
  | .sock r' (.shutdownMarked _) | .sock r' (.dropped _) => decide (r' = r)
  | _ => false

/-- A step that does not shut the socket down issues no `CLSE`. -/
theorem HostEvent.issues_eq_zero {e : HostEvent} (h : e.shutsDown r = false) : e.issues r = 0 := by
  cases e with
  | sock r' e =>
    simp only [HostEvent.issues]
    split
    · rename_i heq
      cases e <;> first | rfl | simp [HostEvent.shutsDown, heq] at h
    · rfl
  | _ => rfl

/-- Once the socket is closed, only `CLSE`s are submitted for it. -/
theorem isClse_of_closed (h₀ : OutboundLaw b₀)
    (hcl : ∃ s : Sock, b₀.backends[r]? = some s ∧ s.state.closed = true)
    (hrun : toldHost.Run b₀ tr b) :
    ∀ m ∈ tr.flatMap (HostEvent.sentBy r), m.isClse = true := by
  refine hrun.invariant (fun tr _ => ∀ m ∈ tr.flatMap (HostEvent.sentBy r), m.isClse = true)
    (by simp) ?_
  rintro tr b a b' e hrun ih hs m hm
  rw [List.flatMap_append, List.flatMap_singleton, List.mem_append] at hm
  rcases hm with hm | hm
  · exact ih m hm
  · obtain ⟨s, hr, hclse⟩ := (outboundLaw_of_run h₀ hrun).sent
      (hostStep_of_step (Machine.restrict_step.mp hs).1) hm
    obtain ⟨s', hr', hs'⟩ := (issues_of_closed hcl hrun.of_restrict).1
    rw [hclse, Option.some.inj (hr.symm.trans hr'), hs']

theorem outboundLaw_new (connection : UsbConnection) :
    OutboundLaw (TransportBackend.new connection) where
  writing := by simp [TransportBackend.new]
  closing := by simp [TransportBackend.new]
  writers := by simp [TransportBackend.new]

/-- **Outbound discipline.** In every schedule in which the device addresses only sockets it has
been told, for every socket: at most one `CLSE` is submitted; none if the device's `CLSE` was
handled before any local shutdown or drop; and neither `WRTE` nor `OKAY` after the socket's own
`CLSE` was submitted or the device's was handled. -/
theorem outbound_discipline (connection : UsbConnection) (tr : List HostEvent)
    (b : TransportBackend)
    (hrun : toldHost.Run (TransportBackend.new connection) tr b) (r : Nat) :
    clses r tr ≤ 1 ∧
      (∀ pre msg post, tr = pre ++ .handled r msg :: post → msg.header.command = .CLSE →
        (∀ e ∈ pre, e.shutsDown r = false) → clses r tr = 0) ∧
      ∀ pre e post, tr = pre ++ e :: post →
        ((∃ m ∈ e.sentBy r, m.header.command = .CLSE) ∨
          ∃ msg, e = .handled r msg ∧ msg.header.command = .CLSE) →
        ∀ m ∈ post.flatMap (HostEvent.sentBy r),
          m.header.command ≠ .WRTE ∧ m.header.command ≠ .OKAY := by
  have h₀ := outboundLaw_new connection
  have hle := clses_add_issued_le (r := r) h₀ hrun
  have hissued : issued (TransportBackend.new connection) r = 0 := by
    simp [issued, TransportBackend.new]
  rw [hissued, Nat.zero_add] at hle
  refine ⟨?_, ?_, ?_⟩
  · have := (sum_issues_le (r := r) hrun.of_restrict).1
    omega
  · rintro pre msg post rfl hcmd hpre
    obtain ⟨b₁, a, b₂, -, hs, hpost⟩ := hrun.split
    have hcl := (hostStep_of_step (Machine.restrict_step.mp hs).1).closed_of_clse hcmd
    have hsum := (issues_of_closed hcl hpost.of_restrict).2
    -- nothing was issued before, and a closed socket issues nothing
    have hzero : (pre.map (HostEvent.issues r)).sum = 0 := by
      refine List.sum_eq_zero fun n hn => ?_
      obtain ⟨e, he, rfl⟩ := List.mem_map.mp hn
      exact HostEvent.issues_eq_zero (hpre e he)
    have hhandled : HostEvent.issues r (.handled r msg) = 0 := rfl
    rw [List.map_append, List.sum_append, List.map_cons, List.sum_cons, hsum, hzero, hhandled] at hle
    omega
  · rintro pre e post rfl hclose m hm
    obtain ⟨b₁, a, b₂, hpre, hs, hpost⟩ := hrun.split
    have hstep := hostStep_of_step (Machine.restrict_step.mp hs).1
    have hlaw := outboundLaw_of_run h₀ hpre
    have hcl : ∃ s : Sock, b₂.backends[r]? = some s ∧ s.state.closed = true := by
      rcases hclose with ⟨m', hm', hcmd⟩ | ⟨msg, rfl, hcmd⟩
      · obtain ⟨s, hr, hs'⟩ := hlaw.sent hstep hm'
        refine hstep.closed_mono ⟨s, hr, ?_⟩
        rw [← hs']
        simpa [AdbMessage.isClse] using hcmd
      · exact hstep.closed_of_clse hcmd
    have hclse := isClse_of_closed (hlaw.step hstep (Machine.restrict_step.mp hs).2) hcl hpost m hm
    have hcmd : m.header.command = .CLSE := by simpa [AdbMessage.isClse] using hclse
    rw [hcmd]
    exact ⟨by decide, by decide⟩

/-- A socket is opened, written to and dropped; the spawned task submits its `CLSE`. -/
theorem outbound_discipline_write_drop :
    ∃ b tr, toldHost.Run (TransportBackend.new (UsbConnection.new 512)) tr b ∧
      (tr.flatMap (HostEvent.sentBy 0)).map (fun m => m.header.command) = [.OPEN, .WRTE, .CLSE] ∧
      clses 0 tr ≤ 1 := by
  obtain ⟨b, tr, hrun, htest⟩ := Machine.exists_run_of_exec (M := toldHost)
    (s := TransportBackend.new (UsbConnection.new 512))
    [.openSocket "x", .sock 0 .poll, .complete (.ok ()), .complete (.ok ()), .sock 0 .poll,
      .dispatch (AdbMessage.new .OKAY 7 1 (toLeBytes 100)), .sock 0 .poll,
      .sock 0 (.write [1, 2] true), .sock 0 .drop, .complete (.ok ()), .complete (.ok ()),
      .writer 0]
    (fun _ tr => decide ((tr.flatMap (HostEvent.sentBy 0)).map (fun m => m.header.command) =
      [.OPEN, .WRTE, .CLSE])) (by decide)
  exact ⟨b, tr, hrun, of_decide_eq_true htest, (outbound_discipline _ tr b hrun 0).1⟩

end AdbDaemon.Transport
