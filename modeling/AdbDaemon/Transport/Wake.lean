import AdbDaemon.Transport.Latch

/-!
# Who is woken when the transport fails

Reference: `TransportBackend::on_error`, `ConnectionWrapperGuard::poll_flush`, `write_message_async`
and `Transport::open_socket` of `packages/transport/src/transport.rs`; the polls of
`packages/transport/src/socket.rs`.

A poll of a socket registers its task with the socket before anything else, and `on_error` notifies
the sockets in the table. A task inside `write_message_async` is only in the collection of the
connection, which `on_error` drops, and a socket that was removed from the table is not notified.

The notification of all sockets is one step here. `SockWakers` is what the wakers of one socket know
about its tasks. `on_error_wakes_iff` is the exact condition under which no task is left behind.
-/

namespace AdbDaemon.Transport

open Common

/-! ## Wakers of one task -/

/-- The socket of a task. -/
def Task.sock : Task → Option Nat
  | .read r | .write r => some r
  | .close _ => none

/-- The call that polls for a task. -/
def Task.agent : Task → Agent
  | .read r | .write r => .sock r
  | .close i => .writer i

def Wakers.registered (w : Wakers) : Task → Bool
  | .read r => w.read r
  | .write r => w.write r
  | .close _ => false

/-- The task is as it was, or it was woken. -/
structure Wakers.Wakes (w w' : Wakers) (t : Task) : Prop where
  parked : w'.parked t = w.parked t
  woken : w.woken t = true → w'.woken t = true
  registered : w'.registered t = true → w.registered t = true
  kept : w.registered t = true → w'.registered t = true ∨ w'.woken t = true

namespace Wakers

variable {w w' w'' : Wakers} {t t' : Task}

theorem Wakes.of_same (hparked : w'.parked t = w.parked t) (hwoken : w'.woken t = w.woken t)
    (hregistered : w'.registered t = w.registered t) : w.Wakes w' t where
  parked := hparked
  woken h := hwoken.trans h
  registered h := hregistered.symm.trans h
  kept h := .inl (hregistered.trans h)

theorem Wakes.refl (w : Wakers) (t : Task) : w.Wakes w t := .of_same rfl rfl rfl

theorem Wakes.trans (h : w.Wakes w' t) (h' : w'.Wakes w'' t) : w.Wakes w'' t where
  parked := h'.parked.trans h.parked
  woken hw := h'.woken (h.woken hw)
  registered hr := h.registered (h'.registered hr)
  kept hr := by
    rcases h.kept hr with hr' | hw'
    · exact h'.kept hr'
    · exact .inr (h'.woken hw')

/-- A task that starts leaves the others as they are. -/
theorem start_wakes (w : Wakers) (h : t ≠ t') : w.Wakes (w.start t') t :=
  .of_same (Function.update_of_ne h _ _) (Function.update_of_ne h _ _) (by cases t <;> rfl)

/-- A task that is parked leaves the others as they are. -/
theorem park_wakes (w : Wakers) (h : t ≠ t') : w.Wakes (w.park t') t :=
  .of_same (Function.update_of_ne h _ _) rfl (by cases t <;> rfl)

theorem register_registered (w : Wakers) (h : t ≠ t') :
    (w.register t').registered t = w.registered t := by
  cases t' with
  | close i => rfl
  | read r =>
    cases t with
    | read r' => exact Function.update_of_ne (fun heq => h (by rw [heq])) _ _
    | write r' | close i => rfl
  | write r =>
    cases t with
    | write r' => exact Function.update_of_ne (fun heq => h (by rw [heq])) _ _
    | read r' | close i => rfl

theorem register_parked (w : Wakers) (t' : Task) : (w.register t').parked = w.parked := by
  cases t' <;> rfl

theorem register_woken (w : Wakers) (t' : Task) : (w.register t').woken = w.woken := by
  cases t' <;> rfl

/-- A task that registers leaves the others as they are. -/
theorem register_wakes (w : Wakers) (h : t ≠ t') : w.Wakes (w.register t') t :=
  .of_same (by rw [register_parked]) (by rw [register_woken]) (w.register_registered h)

/-- A socket that is dropped takes only its own tasks with it. -/
theorem forget_wakes (w : Wakers) {r : Nat} (h : t.sock ≠ some r) : w.Wakes (w.forget r) t := by
  refine .of_same ?_ rfl (by cases t <;> rfl)
  have hread : t ≠ .read r := fun heq => h (by rw [heq]; rfl)
  have hwrite : t ≠ .write r := fun heq => h (by rw [heq]; rfl)
  exact (Function.update_of_ne hwrite _ _).trans (Function.update_of_ne hread _ _)

/-- A task of a socket that was dropped is not parked any more. -/
theorem forget_parked (w : Wakers) {r : Nat} (h : t.sock = some r) : (w.forget r).parked t = false := by
  cases t with
  | close i => simp [Task.sock] at h
  | write r' =>
    obtain rfl : r' = r := Option.some.inj h
    exact Function.update_self ..
  | read r' =>
    obtain rfl : r' = r := Option.some.inj h
    simp [forget]

/-- Parking behind a poll touches no other task. -/
theorem entered_wakes (w : Wakers) (t t' : Task) (p : Prop) [Decidable p] :
    w.Wakes (w.entered t' p) t := by
  unfold entered
  split
  · exact .of_same rfl rfl (by cases t <;> rfl)
  · exact .refl w t

/-- A call that begins leaves the tasks of others as they are. -/
theorem begun_wakes (w : Wakers) {k : Sock} {r : Nat} {a : SockAct} (h : t ≠ a.task r) :
    w.Wakes (w.begun k r a) t := by
  unfold begun
  split
  · exact (w.start_wakes h).trans ((w.start (a.task r)).register_wakes h)
  · exact w.start_wakes h

/-- A call that begins is not parked. -/
theorem begun_parked (w : Wakers) (k : Sock) (r : Nat) (a : SockAct) :
    (w.begun k r a).parked (a.task r) = false := by
  unfold begun
  split
  · rw [register_parked]
    exact Function.update_self ..
  · exact Function.update_self ..

/-- A poll that checks for an error has registered before. -/
theorem begun_registered (w : Wakers) {k : Sock} (r : Nat) {a : SockAct} (h : k.checks a = true) :
    (w.begun k r a).registered (a.task r) = true := by
  unfold begun
  rw [if_pos h]
  cases a <;> exact Function.update_self ..

/-- A notification of the reader only wakes. -/
theorem notifyRead_wakes (w : Wakers) (r : Nat) (t : Task) : w.Wakes (w.notifyRead r) t := by
  unfold notifyRead
  split
  · by_cases ht : t = .read r
    · subst ht
      refine ⟨rfl, fun _ => Function.update_self .., fun h => ?_, fun _ => .inr (Function.update_self ..)⟩
      exact absurd ((Function.update_self ..).symm.trans h) (by simp)
    · refine .of_same rfl (Function.update_of_ne ht _ _) ?_
      cases t with
      | read r' => exact Function.update_of_ne (fun heq => ht (by rw [heq])) _ _
      | write r' | close i => rfl
  · exact .refl w t

/-- A notification of the writer only wakes. -/
theorem notifyWrite_wakes (w : Wakers) (r : Nat) (t : Task) : w.Wakes (w.notifyWrite r) t := by
  unfold notifyWrite
  split
  · by_cases ht : t = .write r
    · subst ht
      refine ⟨rfl, fun _ => Function.update_self .., fun h => ?_, fun _ => .inr (Function.update_self ..)⟩
      exact absurd ((Function.update_self ..).symm.trans h) (by simp)
    · refine .of_same rfl (Function.update_of_ne ht _ _) ?_
      cases t with
      | write r' => exact Function.update_of_ne (fun heq => ht (by rw [heq])) _ _
      | read r' | close i => rfl
  · exact .refl w t

/-- What a message of the device notifies is only woken. -/
theorem handled_wakes (w : Wakers) (r : Nat) (msg : AdbMessage) (t : Task) :
    w.Wakes (w.handled r msg) t := by
  unfold handled
  split
  · exact w.notifyWrite_wakes r t
  · exact w.notifyRead_wakes r t
  · exact (w.notifyWrite_wakes r t).trans ((w.notifyWrite r).notifyRead_wakes r t)
  · exact .refl w t

/-- Taking the wakers out of the list only wakes. -/
theorem drain_wakes (w : Wakers) (t : Task) : w.Wakes w.drain t where
  parked := rfl
  woken h := by simp [drain, h]
  registered h := by cases t <;> exact h
  kept h := by cases t <;> exact .inl h

/-- The notification of all sockets only wakes. -/
theorem notifyAll_wakes (w : Wakers) (table : Nat → Bool) (t : Task) :
    w.Wakes (w.notifyAll table) t where
  parked := rfl
  woken h := by simp [notifyAll, h]
  registered h := by
    cases t with
    | read r | write r =>
      simp only [registered, notifyAll, Bool.and_eq_true] at h
      exact h.1
    | close i => exact h
  kept h := by
    cases t with
    | read r | write r =>
      simp only [registered] at h
      cases htable : table r <;> simp [registered, notifyAll, h, htable]
    | close i => exact .inl h

end Wakers

/-- A task of a socket belongs to it. -/
theorem SockAct.task_sock (r : Nat) (a : SockAct) : (a.task r).sock = some r := by
  cases a <;> rfl

/-- The calls of a socket are made by one agent. -/
theorem Task.agent_of_sock {t : Task} {r : Nat} (h : t.sock = some r) : t.agent = .sock r := by
  cases t with
  | close i => simp [sock] at h
  | read r' | write r' => rw [agent, Option.some.inj h]

/-- A step of another call wakes a task or leaves it alone. -/
theorem LatchStep.wakes {s s' : LatchSt} {g : Option Agent} {e : LatchEvent} {t : Task}
    (hs : LatchStep s g s' e) (hg : g ≠ some t.agent) : s.wakers.Wakes s'.wakers t := by
  have hne : ∀ {r' : Nat}, some (Agent.sock r') ≠ some t.agent → t.sock ≠ some r' := by
    intro r' hother hsame
    exact hother (by rw [Task.agent_of_sock hsame])
  have htask : ∀ {r' : Nat} {a : SockAct}, some (Agent.sock r') ≠ some t.agent → t ≠ a.task r' := by
    rintro r' a hother rfl
    exact hne hother (a.task_sock r')
  have hclose : ∀ {i : Nat}, some (Agent.writer i) ≠ some t.agent → t ≠ .close i := by
    rintro i hother rfl
    exact hother rfl
  have hleave : ∀ {s₁ : LatchSt} {r' : Nat} {a : SockAct} {n : SockNext},
      some (Agent.sock r') ≠ some t.agent → s.wakers.Wakes s₁.wakers t →
      s.wakers.Wakes (s₁.leave r' a n).1.wakers t := by
    intro s₁ r' a n hother hw
    have hwrite : t ≠ .write r' := fun h => hne hother (h ▸ rfl)
    unfold LatchSt.leave
    simp only
    split
    · exact hw.trans (s₁.wakers.register_wakes hwrite)
    · exact hw
    · split
      · exact hw.trans (s₁.wakers.forget_wakes (hne hother))
      · simp only
        split
        · exact hw.trans (s₁.wakers.park_wakes (htask hother))
        · exact hw
  cases hs with
  | begin => exact s.wakers.begun_wakes (htask hg)
  | checkFails => exact hleave hg (.refl _ _)
  | enter _ _ hw =>
    refine hleave hg ?_
    rw [hw]
    exact s.wakers.entered_wakes ..
  | raise _ _ hw =>
    rw [hw]
    exact s.wakers.entered_wakes ..
  | beginWriter => exact s.wakers.start_wakes (hclose hg)
  | enterWriter _ _ _ _ hw =>
    rw [hw]
    simp only [LatchSt.setPc]
    split
    · exact (s.wakers.entered_wakes ..).trans (Wakers.park_wakes _ (hclose hg))
    · exact s.wakers.entered_wakes ..
  | raiseWriter _ _ _ _ hw =>
    rw [hw]
    exact s.wakers.entered_wakes ..
  | create =>
    have hwrite : t ≠ .write s.host.backends.length := fun h => hne hg (h ▸ rfl)
    exact s.wakers.start_wakes hwrite
  | dispatched _ _ hw =>
    rcases hw with rfl | ⟨r', msg, rfl⟩
    · exact .refl _ _
    · exact s.wakers.handled_wakes ..
  | notify => exact s.wakers.notifyAll_wakes ..
  | other _ _ _ _ _ _ hwakers =>
    rcases hwakers with ⟨waking, hw⟩ | hw
    · rw [hw]
      exact .of_same rfl rfl (by cases t <;> rfl)
    · rw [hw]
      exact s.wakers.drain_wakes t
  | _ => exact .refl _ _

/-! ## The wakers of one socket -/

/-- A poll of the socket is under way, outside `on_error`. -/
def LatchSt.Under (s : LatchSt) (r : Nat) (a : SockAct) : Prop :=
  s.pcs (.sock r) = some (.begun a) ∨ s.pcs (.sock r) = some (.checked a)

/-- The call that creates the socket is inside `write_message_async`. -/
def LatchSt.Writing (s : LatchSt) (r : Nat) : Prop :=
  ∃ k, s.host.backends[r]? = some k ∧ k.checks .poll = false

/-- The polls of the task register it with its socket. -/
def LatchSt.Registers (s : LatchSt) : Task → Prop
  | .read _ => True
  | .write r => ¬ s.Writing r
  | .close _ => False

/-- A task of the socket that waits and was not woken is registered, unless it is inside
`write_message_async`. -/
structure SockWakers (s : LatchSt) (r : Nat) : Prop where
  exist : ∀ t, t.sock = some r → s.wakers.parked t = true ∨ s.wakers.registered t = true →
    r < s.host.backends.length
  parked : ∀ t, t.sock = some r → s.wakers.parked t = true → s.wakers.woken t = false →
    s.Registers t → s.wakers.registered t = true
  under : ∀ a, s.Under r a → a ≠ .drop → s.wakers.parked (a.task r) = false ∧
    (s.Registers (a.task r) → s.wakers.woken (a.task r) = true ∨
      s.wakers.registered (a.task r) = true)
  writing : s.Writing r → s.wakers.write r = false

section SockWakers

variable {s s' : LatchSt} {g : Option Agent} {e : LatchEvent} {r : Nat} {t : Task}

theorem LatchSt.Registers.congr {k k' : Sock} (ht : t.sock = some r)
    (hr : s.host.backends[r]? = some k) (hr' : s'.host.backends[r]? = some k')
    (hph : k'.phase = k.phase) (h : s'.Registers t) : s.Registers t := by
  cases t with
  | read r' => trivial
  | close i => exact h
  | write r' =>
    obtain rfl : r' = r := Option.some.inj ht
    rintro ⟨k₁, hk₁, hchecks⟩
    obtain rfl : k = k₁ := Option.some.inj (hr.symm.trans hk₁)
    exact h ⟨k', hr', (Sock.checks_congr hph .poll).trans hchecks⟩

/-- A poll under way is one that its socket is ready for. -/
theorem LatchInv.under (h : LatchInv s) {a : SockAct} (hunder : s.Under r a) :
    ∃ k, s.host.backends[r]? = some k ∧ k.ready a = true := by
  rcases hunder with hpc | hpc <;> exact h.calls _ _ hpc

/-- The socket stays where it is, and its tasks are woken or left alone. -/
theorem SockWakers.frame (h : SockWakers s r) (hinv : LatchInv s)
    (hbackend : ∀ k, s.host.backends[r]? = some k →
      ∃ k', s'.host.backends[r]? = some k' ∧ k'.phase = k.phase)
    (hunder : ∀ a, s'.Under r a → a ≠ .drop → s.Under r a)
    (hwakes : ∀ t, t.sock = some r → s.wakers.Wakes s'.wakers t) : SockWakers s' r where
  exist t ht hpre := by
    have hlt : r < s.host.backends.length := by
      refine h.exist t ht (hpre.imp (fun hp => ?_) (hwakes t ht).registered)
      rw [← (hwakes t ht).parked, hp]
    obtain ⟨k', hr', -⟩ := hbackend _ (List.getElem?_eq_getElem hlt)
    exact (List.getElem?_eq_some_iff.mp hr').1
  parked t ht hp hw hreg := by
    have hw' := hwakes t ht
    rw [hw'.parked] at hp
    have hlt := h.exist t ht (.inl hp)
    obtain ⟨k', hr', hph⟩ := hbackend _ (List.getElem?_eq_getElem hlt)
    -- nobody is put back to sleep by another's step
    have hwoken : s.wakers.woken t = false := by
      by_contra hwoken
      exact absurd (hw'.woken (by simpa using hwoken)) (by simp [hw])
    have hregistered := h.parked t ht hp hwoken
      (hreg.congr ht (List.getElem?_eq_getElem hlt) hr' hph)
    exact (hw'.kept hregistered).resolve_right (by simp [hw])
  under a hu ha := by
    have hu := hunder a hu ha
    have hw' := hwakes (a.task r) (a.task_sock r)
    obtain ⟨k, hr, -⟩ := hinv.under hu
    obtain ⟨k', hr', hph⟩ := hbackend k hr
    obtain ⟨hp, hcalled⟩ := h.under a hu ha
    refine ⟨hw'.parked.trans hp, fun hreg => ?_⟩
    rcases hcalled (hreg.congr (a.task_sock r) hr hr' hph) with hwoken | hregistered
    · exact .inl (hw'.woken hwoken)
    · exact (hw'.kept hregistered).symm
  writing hwriting := by
    by_contra hwrite
    have hregistered : s.wakers.write r = true :=
      (hwakes (.write r) rfl).registered (by simpa [Wakers.registered] using hwrite)
    have hlt := h.exist (.write r) rfl (.inr hregistered)
    obtain ⟨k', hr', hph⟩ := hbackend _ (List.getElem?_eq_getElem hlt)
    obtain ⟨k₁, hr₁, hchecks⟩ := hwriting
    obtain rfl : k' = k₁ := Option.some.inj (hr'.symm.trans hr₁)
    refine absurd (h.writing ⟨_, List.getElem?_eq_getElem hlt, ?_⟩) (by simp [hregistered])
    rw [← Sock.checks_congr hph, hchecks]

end SockWakers

/-! ### The end of a section -/

/-- What the end of a section does to the wakers. -/
inductive Wakers.After (w : Wakers) (r : Nat) (a : SockAct) (n : SockNext) : Wakers → Prop
  | goesOn (h : n.goesOn = some (.begun .poll)) : After w r a n (w.register (.write r))
  | forget (ha : a = .drop) : After w r a n (w.forget r)
  | park (ha : a ≠ .drop) (hon : n.goesOn = none) (h : n.event.ret = .pending) :
      After w r a n (w.park (a.task r))
  | same (ha : a ≠ .drop) : After w r a n w

section After

variable {s s' : LatchSt} {r : Nat} {k : Sock} {sh sh' : Shared} {a : SockAct} {n : SockNext}

/-- The wakers after a poll are those of the poll. -/
theorem LatchSt.leave_after (hstep : k.step sh a = some n) :
    s.wakers.After r a n (s.leave r a { n with shared := sh' }).1.wakers := by
  have hdrop : (∀ msg, n.event ≠ .dropped msg) → a ≠ .drop := by
    rintro hev rfl
    obtain ⟨msg, hmsg⟩ := SockEvent.of_drop (Sock.step_event hstep)
    exact hev msg hmsg
  have hgoes : ∀ {pc}, n.goesOn = some pc → a ≠ .drop := by
    rintro pc hon rfl
    have hcases := Sock.goesOn_of_step hstep hon
    simp at hcases
  unfold leave
  simp only
  split
  · rename_i hon
    exact .goesOn hon
  · rename_i hon
    exact .same (hgoes hon)
  · rename_i hon
    split
    · rename_i hev
      exact .forget (SockEvent.of_dropped (Sock.step_event hstep) hev)
    · rename_i hev
      simp only
      split
      · rename_i hret
        exact .park (hdrop hev) hon hret
      · exact .same (hdrop hev)

/-- After a poll has left, the call under way is the one that goes on. -/
theorem LatchSt.leave_under {s₁ : LatchSt} {a' : SockAct}
    (h : (s₁.leave r a { n with shared := sh' }).1.Under r a') :
    (n.goesOn = some (.begun a') ∨ n.goesOn = some (.checked a')) ∧
      (n.goesOn = some (.begun .poll) →
        (s₁.leave r a { n with shared := sh' }).1.wakers = s₁.wakers.register (.write r)) := by
  obtain ⟨hpcs, -⟩ := s₁.leave_cases r a { n with shared := sh' }
  have hon : (s₁.leave r a { n with shared := sh' }).1.pcs (.sock r) = n.goesOn := by
    rw [hpcs]
    exact Function.update_self ..
  unfold Under at h
  rw [hon] at h
  refine ⟨h, fun hpoll => ?_⟩
  have hpoll' : ({ n with shared := sh' } : SockNext).goesOn = some (.begun .poll) := hpoll
  simp only [leave, hpoll']

/-- A socket in a section other than a poll of `open_socket` or `accept` has written its first
message. -/
theorem LatchSt.Under.not_writing (hunder : s.Under r a) (hinv : LatchInv s) (hpoll : a ≠ .poll)
    (hdrop : a ≠ .drop) : ¬ s.Writing r := by
  rintro ⟨k₁, hr₁, hchecks⟩
  obtain ⟨k₂, hr₂, hready⟩ := hinv.under hunder
  obtain rfl : k₂ = k₁ := Option.some.inj (hr₂.symm.trans hr₁)
  rcases Sock.ready_writing hready hchecks with ha | ha
  · exact hpoll ha
  · exact hdrop ha

/-- The polls of the other half of the socket register it. -/
theorem LatchSt.Under.registers_other (hunder : s.Under r a) (hinv : LatchInv s) {t : Task}
    (ht : t.sock = some r) (hne : t ≠ a.task r) : s.Registers t := by
  cases t with
  | read r' => trivial
  | close i => exact absurd ht (by simp [Task.sock])
  | write r' =>
    obtain rfl : r' = r := Option.some.inj ht
    exact hunder.not_writing hinv (fun ha => hne (by rw [ha]; rfl)) (fun ha => hne (by rw [ha]; rfl))

/-- A poll that is left waiting by a section that registers was registered before it. -/
theorem LatchSt.Under.registers_own (hunder : s.Under r a) (hinv : LatchInv s)
    (hr : s.host.backends[r]? = some k) (hstep : k.step sh a = some n)
    (hback : s'.host.backends[r]? = some n.sock) (hret : n.event.ret = .pending)
    (hdrop : a ≠ .drop) (hreg : s'.Registers (a.task r)) : s.Registers (a.task r) := by
  cases a with
  | poll =>
    rintro ⟨k₁, hr₁, hchecks⟩
    obtain rfl : k = k₁ := Option.some.inj (hr.symm.trans hr₁)
    exact hreg ⟨n.sock, hback, Sock.poll_writing hstep hchecks hret⟩
  | drop => exact absurd rfl hdrop
  | read => trivial
  | write | flush | shutdownFlush | shutdownMark | shutdownWrite =>
    exact hunder.not_writing hinv (by simp) (by simp)

/-- Who waits and was not woken is registered, also when a section ends. -/
theorem SockWakers.parked_after (h : SockWakers s r) (hinv : LatchInv s) (hunder : s.Under r a)
    (hr : s.host.backends[r]? = some k) (hstep : k.step sh a = some n)
    (hback : s'.host.backends[r]? = some n.sock) (hw : s.wakers.After r a n s'.wakers) {t : Task}
    (ht : t.sock = some r) (hp : s'.wakers.parked t = true) (hwoken : s'.wakers.woken t = false)
    (hreg : s'.Registers t) : s'.wakers.registered t = true := by
  have hother : t ≠ a.task r → s.Registers t := hunder.registers_other hinv ht
  generalize s'.wakers = w' at hw hp hwoken ⊢
  cases hw with
  | goesOn hon =>
    by_cases htask : t = .write r
    · rw [htask]
      exact Function.update_self ..
    · rw [Wakers.register_parked] at hp
      rw [Wakers.register_woken] at hwoken
      rw [Wakers.register_registered _ htask]
      obtain ⟨rfl, -⟩ | ⟨rfl, -⟩ | ⟨rfl, -⟩ := Sock.goesOn_of_step hstep hon <;>
        exact h.parked t ht hp hwoken (hother htask)
  | forget =>
    have hforgot := s.wakers.forget_parked ht
    simp [hforgot] at hp
  | park hdrop _ hret =>
    have hsame : (s.wakers.park (a.task r)).registered t = s.wakers.registered t := by
      cases t <;> rfl
    rw [hsame]
    by_cases htask : t = a.task r
    · subst htask
      have hown : s.Registers (a.task r) :=
        hunder.registers_own hinv hr hstep hback hret hdrop hreg
      rcases (h.under a hunder hdrop).2 hown with hwoken' | hregistered
      · exact absurd (hwoken'.symm.trans hwoken) (by simp)
      · exact hregistered
    · exact h.parked t ht ((s.wakers.park_wakes htask).parked.symm.trans hp) hwoken (hother htask)
  | same hdrop =>
    by_cases htask : t = a.task r
    · subst htask
      exact absurd ((h.under a hunder hdrop).1.symm.trans hp) (by simp)
    · exact h.parked t ht hp hwoken (hother htask)

/-- Between the parts of `poll_shutdown` nothing happens to the wakers. -/
theorem SockWakers.shutdown_after (h : SockWakers s r) (hinv : LatchInv s) (hunder : s.Under r a)
    (hw : s.wakers.After r a n s'.wakers) (hpoll : a ≠ .poll) (hdrop : a ≠ .drop)
    (htask : a.task r = .write r) (hsome : n.goesOn ≠ none) (hne : n.goesOn ≠ some (.begun .poll)) :
    s'.wakers.parked (.write r) = false ∧ (s'.Registers (.write r) →
      s'.wakers.woken (.write r) = true ∨ s'.wakers.registered (.write r) = true) := by
  have hkept : s'.wakers = s.wakers := by
    generalize s'.wakers = w' at hw ⊢
    cases hw with
    | goesOn hon => exact absurd hon hne
    | forget ha => exact absurd ha hdrop
    | park _ hon _ => exact absurd hon hsome
    | same => rfl
  obtain ⟨hp, hcalled⟩ := h.under a hunder hdrop
  rw [htask] at hp hcalled
  rw [hkept]
  exact ⟨hp, fun _ => hcalled (hunder.not_writing hinv hpoll hdrop)⟩

/-- The socket whose section ends: its task is parked with its waker where the section put it, or it
is not parked. -/
theorem SockWakers.after (h : SockWakers s r) (hinv : LatchInv s) (hunder : s.Under r a)
    (hr : s.host.backends[r]? = some k) (hstep : k.step sh a = some n)
    (hback : s'.host.backends[r]? = some n.sock)
    (hunder' : ∀ a', s'.Under r a' →
      (n.goesOn = some (.begun a') ∨ n.goesOn = some (.checked a')) ∧
        (n.goesOn = some (.begun .poll) → s'.wakers = s.wakers.register (.write r)))
    (hw : s.wakers.After r a n s'.wakers) : SockWakers s' r := by
  refine ⟨fun _ _ _ => (List.getElem?_eq_some_iff.mp hback).1,
    fun t ht => h.parked_after hinv hunder hr hstep hback hw ht, ?_, ?_⟩
  · intro a' hu' ha'
    obtain ⟨hon, hpoll⟩ := hunder' a' hu'
    rcases hon with hon | hon
    · obtain ⟨rfl, hpc⟩ | ⟨rfl, hpc⟩ | ⟨-, hpc⟩ := Sock.goesOn_of_step hstep hon
      · cases hpc
        rw [hpoll hon, Wakers.register_parked]
        exact ⟨(h.under .poll hunder (by simp)).1, fun _ => .inr (Function.update_self ..)⟩
      · cases hpc
        exact h.shutdown_after hinv hunder hw (by simp) (by simp) rfl (by simp [hon]) (by simp [hon])
      · simp at hpc
    · obtain ⟨-, hpc⟩ | ⟨-, hpc⟩ | ⟨rfl, hpc⟩ := Sock.goesOn_of_step hstep hon
      · simp at hpc
      · simp at hpc
      · cases hpc
        exact h.shutdown_after hinv hunder hw (by simp) (by simp) rfl (by simp [hon]) (by simp [hon])
  · rintro ⟨k', hr', hchecks⟩
    obtain rfl : n.sock = k' := Option.some.inj (hback.symm.trans hr')
    have hwrite := h.writing ⟨k, hr, Sock.step_writing hstep hchecks⟩
    generalize s'.wakers = w' at hw ⊢
    cases hw with
    | goesOn hon =>
      obtain ⟨-, hph⟩ | ⟨hpc, -⟩ | ⟨msg, hpc, -⟩ := SockNext.goesOn_cases hon
      · simp [Sock.checks, hph] at hchecks
      · simp at hpc
      · simp at hpc
    | forget | park | same => exact hwrite

end After

/-! ### Runs -/

section Run

variable {s s' : LatchSt} {g : Option Agent} {e : LatchEvent} {r : Nat}

/-- A poll of the socket starts: its task is awake, and is not parked until the poll has ended. -/
theorem SockWakers.begin {k : Sock} {a : SockAct} (h : SockWakers s r)
    (hr : s.host.backends[r]? = some k) (hbegins : k.begins a = true) (ha : a ≠ .drop)
    (hhost : s'.host = s.host) (hpcs : s'.pcs (.sock r) = some (.begun a))
    (hw : s'.wakers = s.wakers.begun k r a) : SockWakers s' r := by
  have hwriting : s'.Writing r ↔ k.checks .poll = false := by
    unfold LatchSt.Writing
    rw [hhost, hr]
    simp
  have hsame : ∀ t, s'.Registers t → s.Registers t := by
    intro t hreg
    cases t with
    | write r' => exact fun hwr => hreg (by unfold LatchSt.Writing; rw [hhost]; exact hwr)
    | read | close => exact hreg
  refine ⟨fun _ _ _ => ?_, fun t ht hp hwoken hreg => ?_, fun a' hu ha' => ?_, fun hwr => ?_⟩
  · rw [hhost]
    exact (List.getElem?_eq_some_iff.mp hr).1
  · rw [hw] at hp hwoken ⊢
    by_cases htask : t = a.task r
    · rw [htask, Wakers.begun_parked] at hp
      simp at hp
    · have hwakes := s.wakers.begun_wakes (k := k) htask
      rw [hwakes.parked] at hp
      have hwoken' : s.wakers.woken t = false := by
        by_contra hne
        exact absurd (hwakes.woken (by simpa using hne)) (by simp [hwoken])
      exact (hwakes.kept (h.parked t ht hp hwoken' (hsame t hreg))).resolve_right (by simp [hwoken])
  · obtain rfl : a = a' := by
      rcases hu with hu | hu
      · simpa using hpcs.symm.trans hu
      · simp [hpcs] at hu
    rw [hw]
    refine ⟨s.wakers.begun_parked k r a, fun hreg => .inr (s.wakers.begun_registered r ?_)⟩
    by_contra hchecks
    have hchecks : k.checks a = false := by simpa using hchecks
    obtain rfl := Sock.begins_of_not_checks hbegins hchecks
    exact hreg (hwriting.mpr hchecks)
  · have hchecks := hwriting.mp hwr
    obtain rfl := (Sock.ready_writing (Sock.ready_of_begins hbegins) hchecks).resolve_right ha
    have hwrite := h.writing ⟨k, hr, hchecks⟩
    rw [hw]
    simp only [Wakers.begun, hchecks]
    exact hwrite

/-- A new socket. -/
theorem SockWakers.create {opening : List String} {b : TransportBackend} {call : Call}
    {msg : Option AdbMessage} {k : Sock} (h : SockWakers s s.host.backends.length)
    (hback : b.backends = s.host.backends ++ [k]) (hph : k.phase = .writing call msg) :
    SockWakers ({ s with opening }.create b) s.host.backends.length := by
  have hwriting : ({ s with opening }.create b).Writing s.host.backends.length := by
    refine ⟨k, ?_, Sock.checks_poll.mpr ⟨call, msg, hph⟩⟩
    simp only [LatchSt.create, LatchSt.setPc, hback]
    exact List.getElem?_concat_length
  have hfresh : ∀ t, t.sock = some s.host.backends.length →
      s.wakers.parked t = false ∧ s.wakers.registered t = false := by
    intro t ht
    by_contra hpre
    refine absurd (h.exist t ht ?_) (Nat.lt_irrefl _)
    cases hp : s.wakers.parked t <;> cases hreg : s.wakers.registered t <;> simp_all
  have hparked : ∀ t, t.sock = some s.host.backends.length →
      ({ s with opening }.create b).wakers.parked t = false := by
    intro t ht
    by_cases htask : t = .write s.host.backends.length
    · rw [htask]
      exact Function.update_self ..
    · exact (Function.update_of_ne htask _ _).trans (hfresh t ht).1
  refine ⟨fun _ _ _ => ?_, fun t ht hp => ?_, fun a hu _ => ?_, fun _ => ?_⟩
  · simp [LatchSt.create, LatchSt.setPc, hback]
  · simp [hparked t ht] at hp
  · have hpc : ({ s with opening }.create b).pcs (.sock s.host.backends.length) =
        some (.checked .poll) := Function.update_self ..
    obtain rfl : a = .poll := by
      rcases hu with hu | hu
      · simp [hpc] at hu
      · simpa using (hpc.symm.trans hu).symm
    exact ⟨hparked _ rfl, fun hreg => absurd hwriting hreg⟩
  · exact (hfresh (.write s.host.backends.length) rfl).2

/-- A step of the call of the socket keeps the law of its wakers, from the start of a poll over its
sections to its end. -/
theorem LatchStep.sockWakers (hs : LatchStep s (some (.sock r)) s' e) (hinv : LatchInv s)
    (h : SockWakers s r) : SockWakers s' r := by
  have hentered : ∀ {t : Task} {p : Prop} [Decidable p] {w : Wakers}, w = s.wakers.entered t p →
      SockWakers { s with wakers := w } r := by
    rintro t p _ w rfl
    exact h.frame hinv (fun k hr => ⟨k, hr, rfl⟩) (fun a hu _ => hu) fun t' _ =>
      s.wakers.entered_wakes t' t p
  have hquiet : ∀ {s' : LatchSt}, s'.host.backends = s.host.backends → s'.wakers = s.wakers →
      (∀ a, s'.Under r a → a ≠ .drop → s.Under r a) → SockWakers s' r := by
    intro s' hback hw hunder
    refine h.frame hinv (fun k hr => ⟨k, by rw [hback, hr], rfl⟩) hunder fun t _ => ?_
    rw [hw]
    exact .refl _ _
  have hpc_of : ∀ {s₁ : LatchSt} {pc : Option Pc} {a : SockAct},
      s₁.pcs = Function.update s.pcs (.sock r) pc → s₁.Under r a →
      pc = some (.begun a) ∨ pc = some (.checked a) := by
    intro s₁ pc a hpcs hu
    exact hu.imp (LatchSt.pc_of_update hpcs) (LatchSt.pc_of_update hpcs)
  have hback : ∀ {s₁ : LatchSt} {k : Sock} {a : SockAct} {n : SockNext} {sh : Shared},
      s₁.host = s.host → s.host.backends[r]? = some k →
      (s₁.leave r a { n with shared := sh }).1.host.backends[r]? = some n.sock := by
    intro s₁ k a n sh hhost hr
    rw [(LatchSt.leave_cases ..).2.1, hhost]
    exact getElem?_set_of_some hr _
  cases hs with
  | begin hr hpc hbegins ha => exact h.begin hr hbegins ha rfl (Function.update_self ..) rfl
  | beginDrop =>
    refine hquiet rfl rfl fun a hu ha => ?_
    rcases hpc_of rfl hu with hpc | hpc
    · exact absurd (by simpa using hpc.symm) ha
    · simp at hpc
  | checkPasses hr hpc =>
    refine hquiet rfl rfl fun a hu ha => ?_
    rcases hpc_of rfl hu with hpc' | hpc'
    · simp at hpc'
    · simp only [Option.some.injEq, Pc.checked.injEq] at hpc'
      exact .inl (by rw [hpc, hpc'])
  | @checkFails _ k a n hr hpc hchecks herr hstep =>
    exact h.after hinv (.inl hpc) hr hstep (hback rfl hr) (fun a' hu => LatchSt.leave_under hu)
      (LatchSt.leave_after hstep)
  | @enter _ k a n w hr hpc hw hstep =>
    exact (hentered hw).after ⟨hinv.connection, hinv.calls⟩ (.inr hpc) hr hstep (hback rfl hr)
      (fun a' hu => LatchSt.leave_under hu) (LatchSt.leave_after hstep)
  | @raise _ k a n w err hr hpc hw hstep herr =>
    have ha : a ≠ .drop := by
      rintro rfl
      simp only [Sock.step, Option.ite_none_right_eq_some, Option.some.injEq] at hstep
      obtain ⟨-, rfl⟩ := hstep
      simp [Sock.drop] at herr
    refine (hentered hw).after ⟨hinv.connection, hinv.calls⟩ (.inr hpc) hr hstep
      (getElem?_set_of_some hr _) (fun a' hu => ?_) (.same ha)
    rcases hpc_of rfl hu with hpc' | hpc' <;> simp at hpc'
  | create => exact h.create rfl rfl
  | setFails | set | take =>
    refine hquiet rfl rfl fun a hu _ => ?_
    rcases hpc_of rfl hu with hpc' | hpc' <;> simp at hpc'
  | notify =>
    refine h.frame hinv (fun k hr => ⟨k, hr, rfl⟩) (fun a hu _ => ?_) fun t _ =>
      s.wakers.notifyAll_wakes _ t
    rcases hpc_of rfl hu with hpc' | hpc' <;> simp at hpc'

/-- Every step keeps the law of one socket's wakers. -/
theorem SockWakers.step (h : SockWakers s r) (hs : LatchStep s g s' e) (hinv : LatchInv s) :
    SockWakers s' r := by
  by_cases hg : g = some (.sock r)
  · subst hg
    exact hs.sockWakers hinv h
  · have hother := hs.undisturbed hg
    refine h.frame hinv (fun k hr => ?_) (fun a hu _ => ?_) fun t ht =>
      hs.wakes (by rw [Task.agent_of_sock ht]; exact hg)
    · obtain ⟨k', hr', hph, -⟩ := hother.backend r k rfl hr
      exact ⟨k', hr', hph⟩
    · unfold LatchSt.Under at hu ⊢
      rw [← hother.pc]
      exact hu

theorem SockWakers.new (connection : UsbConnection) (r : Nat) :
    SockWakers (LatchSt.new connection) r where
  exist t ht h := by cases t <;> simp [LatchSt.new, Wakers.new, Wakers.registered] at h
  parked t ht h := by simp [LatchSt.new, Wakers.new] at h
  under a h := by simp [LatchSt.Under, LatchSt.new] at h
  writing _ := rfl

/-- The wakers of all tasks. -/
structure WakerInv (s : LatchSt) : Prop where
  sock : ∀ r, SockWakers s r
  close : ∀ i, s.wakers.parked (.close i) = true → ∃ w, s.host.writers[i]? = some w

/-- The write that takes the step. -/
theorem LatchStep.closeWakers {i : Nat} (hs : LatchStep s (some (.writer i)) s' e)
    (h : s.wakers.parked (.close i) = true → ∃ w, s.host.writers[i]? = some w) :
    s'.wakers.parked (.close i) = true → ∃ w, s'.host.writers[i]? = some w := by
  cases hs with
  | beginWriter hi => exact fun _ => ⟨_, hi⟩
  | enterWriter hi | raiseWriter hi => exact fun _ => ⟨_, getElem?_set_of_some hi _⟩
  | setFails | set | take | notify => exact h

/-- Every step keeps the law of the wakers. -/
theorem WakerInv.step (h : WakerInv s) (hs : LatchStep s g s' e) (hinv : LatchInv s) :
    WakerInv s' where
  sock r := (h.sock r).step hs hinv
  close i hp := by
    by_cases hg : g = some (.writer i)
    · subst hg
      exact hs.closeWakers (h.close i) hp
    · obtain ⟨w, hi⟩ := h.close i ((hs.wakes (t := .close i) hg).parked.symm.trans hp)
      exact ⟨w, (hs.undisturbed hg).writer i w rfl hi⟩

/-- The law of the wakers holds in every run. -/
theorem wakerInv_of_run {connection : UsbConnection} {tr : List LatchEvent}
    (h : latchMachine.Run (LatchSt.new connection) tr s) : WakerInv s := by
  refine h.invariant (fun _ s => WakerInv s) ⟨.new connection, fun i hp => ?_⟩ ?_
  · simp [LatchSt.new, Wakers.new] at hp
  · intro tr s a s' e hrun ih hs
    obtain ⟨g, hstep⟩ := latchStep_of_step hs
    exact ih.step hstep (latchInv_of_run hrun)

end Run

/-! ## Tasks left behind -/

/-- `poll_read`, `poll_write`, `poll_flush`, `poll_shutdown`, `open_socket`, `accept` and `close` of a
pending socket; the write that a dropped socket leaves behind is nobody's call. -/
def LatchSt.Listed (s : LatchSt) : Task → Prop
  | .read _ | .write _ => True
  | .close i => ∃ w, s.host.writers[i]? = some w ∧ w.owner = none

/-- Every task whose latest poll returned `Pending` was woken since. -/
def LatchSt.Served (s : LatchSt) : Prop :=
  ∀ t, s.Listed t → s.wakers.parked t = true → s.wakers.woken t = true

/-- `open_socket` found no error, and is about to find no reply. -/
def LatchSt.Waits (s : LatchSt) (r : Nat) : Prop :=
  s.pcs (.sock r) = some (.checked .poll) ∧ ∃ k, s.host.backends[r]? = some k ∧ k.waits = true

/-- The task waits, or is about to, and was not woken. -/
structure LatchSt.Open (s : LatchSt) (t : Task) : Prop where
  listed : s.Listed t
  asleep : s.wakers.woken t = false
  parked : s.wakers.parked t = true ∨ ∃ r, t = .write r ∧ s.Waits r

/-- The notification of `on_error` reaches the task: its polls register it with its socket, and the
socket is in the table. -/
def LatchSt.Reaches (s : LatchSt) (t : Task) : Prop :=
  s.Registers t ∧ ∃ r, t.sock = some r ∧ s.inTable r = true

section Open

variable {s s' : LatchSt} {g : Option Agent} {e : LatchEvent} {t : Task}

/-- Who is not woken after a step was not before. -/
theorem Wakers.Wakes.asleep {w w' : Wakers} (h : w.Wakes w' t) (hw : w'.woken t = false) :
    w.woken t = false := by
  by_contra hne
  exact absurd (h.woken (by simpa using hne)) (by simp [hw])

/-- A step of another call leaves no further task behind: it puts nobody to sleep and takes no waker
away. -/
theorem LatchStep.open_of_other (hs : LatchStep s g s' e) (hinv : LatchInv s) (hw : WakerInv s)
    (hg : g ≠ some t.agent) (h : s'.Open t) : s.Open t := by
  have hwakes := hs.wakes hg
  have hother := hs.undisturbed hg
  have hparked : s.wakers.parked t = true ∨ ∃ r, t = .write r ∧ s.Waits r := by
    refine h.parked.imp hwakes.parked.symm.trans ?_
    rintro ⟨r, rfl, hpc, k', hr', hwaits⟩
    rw [show Agent.sock r = (Task.write r).agent from rfl, hother.pc] at hpc
    obtain ⟨k, hr, -⟩ := hinv.under (.inr hpc)
    obtain ⟨k₁, hr₁, -, hmono⟩ := hother.backend r k rfl hr
    obtain rfl : k' = k₁ := Option.some.inj (hr'.symm.trans hr₁)
    exact ⟨r, rfl, hpc, k, hr, hmono hwaits⟩
  refine ⟨?_, hwakes.asleep h.asleep, hparked⟩
  cases t with
  | read r | write r => trivial
  | close i =>
    obtain ⟨w', hi', howner⟩ := h.listed
    rcases hparked with hp | ⟨r, heq, -⟩
    · obtain ⟨w, hi⟩ := hw.close i hp
      have hi₁ := hother.writer i w rfl hi
      obtain rfl : w' = w := Option.some.inj (hi'.symm.trans hi₁)
      exact ⟨w', hi, howner⟩
    · simp at heq

/-- A task that is parked and not woken is left waiting. -/
theorem LatchSt.Open.of_parked {r : Nat} (ht : t.sock = some r) (hwoken : s.wakers.woken t = false)
    (hp : s.wakers.parked t = true) : s.Open t := by
  refine ⟨?_, hwoken, .inl hp⟩
  cases t with
  | read r | write r => trivial
  | close i => simp [Task.sock] at ht

/-- A socket that leaves its section is left behind only if it was before. -/
theorem Wakers.After.open_of {r : Nat} {a : SockAct} {n : SockNext} {w : Wakers}
    (hafter : s.wakers.After r a n w) (ht : t.sock = some r) (hon : n.goesOn ≠ some (.begun .poll))
    (hret : a ≠ .drop → n.event.ret = .pending → t = a.task r → s.wakers.woken t = false → s.Open t)
    (hp : w.parked t = true) (hwoken : w.woken t = false) : s.Open t := by
  cases hafter with
  | goesOn hon' => exact absurd hon' hon
  | forget => simp [s.wakers.forget_parked ht] at hp
  | same => exact .of_parked ht hwoken hp
  | park ha _ hpending =>
    by_cases htask : t = a.task r
    · exact hret ha hpending htask hwoken
    · exact .of_parked ht hwoken ((s.wakers.park_wakes htask).parked.symm.trans hp)

/-- Nor does a step of its own, once the connection is gone. -/
theorem LatchStep.open_of_sock {r : Nat} (hs : LatchStep s (some (.sock r)) s' e)
    (herr : s.host.shared.error ≠ none) (hconn : s.host.shared.connection = none)
    (ht : t.sock = some r) (h : s'.Open t) : s.Open t := by
  have hparked : s'.pcs (.sock r) ≠ some (.checked .poll) → s'.wakers.parked t = true := by
    intro hne
    rcases h.parked with hp | ⟨r', rfl, hpc, -⟩
    · exact hp
    · obtain rfl : r' = r := Option.some.inj ht
      exact absurd hpc hne
  have hupdate : ∀ {pc : Option Pc}, s'.pcs = Function.update s.pcs (.sock r) pc →
      pc ≠ some (.checked .poll) → s'.wakers.parked t = true := by
    intro pc hpcs hne
    refine hparked ?_
    rw [hpcs, Function.update_self]
    exact hne
  cases hs with
  | @begin _ k a hr hpc hbegins ha =>
    have hp := hupdate rfl (by simp)
    -- a task that begins a call is awake; the others of the socket stay as they are
    by_cases htask : t = a.task r
    · rw [htask] at hp
      exact absurd ((s.wakers.begun_parked k r a).symm.trans hp) (by simp)
    · have hwakes := s.wakers.begun_wakes (k := k) htask
      exact .of_parked ht (hwakes.asleep h.asleep) (hwakes.parked.symm.trans hp)
  | beginDrop => exact .of_parked ht h.asleep (hupdate rfl (by simp))
  | @checkPasses _ k a hr hpc hnone =>
    refine .of_parked ht h.asleep ?_
    rcases h.parked with hp | ⟨r', rfl, hpc', k', hr', hwaits⟩
    · exact hp
    · obtain rfl : r' = r := Option.some.inj ht
      obtain rfl : k = k' := Option.some.inj (hr.symm.trans hr')
      obtain rfl : a = .poll := by simpa using LatchSt.pc_of_update rfl hpc'
      exact absurd (hnone (Sock.checks_of_waits hwaits)) herr
  | @checkFails _ k a n hr hpc hchecks hsome hstep =>
    have hon := (Sock.step_of_error hchecks hsome hstep).2.2.1
    refine (LatchSt.leave_after hstep).open_of ht (by simp [hon])
      (fun ha hpending => absurd hpending (Sock.not_pending_of_error hchecks hsome hstep ha)) ?_ h.asleep
    refine hparked ?_
    rw [(LatchSt.leave_cases ..).1, hon, Function.update_self]
    simp
  | @enter _ k a n w hr hpc hw hstep =>
    rw [hconn] at hstep
    obtain rfl : w = s.wakers := by simp [hw, Wakers.entered, hconn]
    have hgoes := fun pc (hon : n.goesOn = some pc) => Sock.goesOn_of_step hstep hon
    have hon : n.goesOn ≠ some (.begun .poll) := by
      intro hon
      obtain ⟨-, -, hnone | rfl, -⟩ := Sock.step_of_no_connection hstep
      · simp [hnone] at hon
      · simpa using hgoes _ hon
    refine (LatchSt.leave_after hstep).open_of ht hon (fun ha hpending htask hwoken => ?_) ?_ h.asleep
    · obtain ⟨rfl, hwaits⟩ := Sock.waits_of_no_connection hstep ha hpending
      subst htask
      exact ⟨trivial, hwoken, .inr ⟨r, rfl, hpc, k, hr, hwaits⟩⟩
    · refine hparked ?_
      rw [(LatchSt.leave_cases ..).1, Function.update_self]
      intro hchecked
      simpa using hgoes _ hchecked
  | raise hr hpc hw hstep hsome =>
    rw [hconn] at hstep
    rw [(Sock.step_of_no_connection hstep).1] at hsome
    exact absurd hsome (by simp)
  | create =>
    by_cases htask : t = .write s.host.backends.length
    · subst htask
      rcases h.parked with hp | ⟨r', hr', -, k', hk', hwaits⟩
      · exact absurd ((Function.update_self ..).symm.trans hp) (by simp)
      · -- the new socket writes its first message
        cases hr'
        have hk := Option.some.inj (hk'.symm.trans List.getElem?_concat_length)
        simp [hk, Sock.waits] at hwaits
    · have hwakes := s.wakers.start_wakes htask
      refine .of_parked ht (hwakes.asleep h.asleep) (hwakes.parked.symm.trans ?_)
      rcases h.parked with hp | ⟨r', rfl, -⟩
      · exact hp
      · exact absurd (by rw [Option.some.inj ht]) htask
  | setFails | set | take => exact .of_parked ht h.asleep (hupdate rfl (by simp))
  | notify =>
    have hwakes := s.wakers.notifyAll_wakes s.inTable t
    exact .of_parked ht (hwakes.asleep h.asleep) (hupdate rfl (by simp))

/-- A step of a spawned writer leaves nobody waiting that was not. -/
theorem LatchStep.open_of_writer {i : Nat} (hs : LatchStep s (some (.writer i)) s' e)
    (hconn : s.host.shared.connection = none) (h : s'.Open (.close i)) : s.Open (.close i) := by
  have hp : s'.wakers.parked (.close i) = true := by
    rcases h.parked with hp | ⟨r, heq, -⟩
    · exact hp
    · simp at heq
  cases hs with
  | beginWriter => exact absurd ((Function.update_self ..).symm.trans hp) (by simp)
  | @enterWriter _ w _ p wakers hi hpc heq herr hw =>
    rw [hconn, writeMessageAsync_of_none] at heq
    subst heq
    obtain rfl : wakers = s.wakers := by simp [hw, Wakers.entered, hconn]
    obtain ⟨w', hi', howner⟩ := h.listed
    obtain rfl := Option.some.inj ((getElem?_set_of_some hi _).symm.trans hi')
    exact ⟨⟨w, hi, howner⟩, h.asleep, .inl hp⟩
  | raiseWriter hi hpc heq hsome =>
    rw [hconn, writeMessageAsync_of_none] at heq
    subst heq
    exact absurd hsome (by simp)
  | setFails | set | take => exact ⟨h.listed, h.asleep, .inl hp⟩
  | notify =>
    have hwakes := s.wakers.notifyAll_wakes s.inTable (.close i)
    exact ⟨h.listed, hwakes.asleep h.asleep, .inl (hwakes.parked.symm.trans hp)⟩

/-- Once the connection is gone, nobody is left behind who was not before. -/
theorem LatchStep.open_of (hs : LatchStep s g s' e) (hinv : LatchInv s) (hw : WakerInv s)
    (herr : s.host.shared.error ≠ none) (hconn : s.host.shared.connection = none) (h : s'.Open t) :
    s.Open t := by
  by_cases hg : g = some t.agent
  · subst hg
    cases t with
    | read r | write r => exact hs.open_of_sock herr hconn rfl h
    | close i => exact hs.open_of_writer hconn h
  · exact hs.open_of_other hinv hw hg h

/-! ### The notification -/

/-- The notification wakes the tasks that are registered at a socket of the table. -/
theorem Wakers.notifyAll_woken (w : Wakers) (table : Nat → Bool) (t : Task) :
    (w.notifyAll table).woken t = (w.woken t || (t.sock.any table && w.registered t)) := by
  cases t <;> rfl

/-- A task that is left waiting, and whose kind registers, is registered. -/
theorem LatchSt.Open.registered {r : Nat} (h : s.Open t) (hw : WakerInv s) (ht : t.sock = some r)
    (hreg : s.Registers t) : s.wakers.registered t = true := by
  rcases h.parked with hp | ⟨r', rfl, hwaits⟩
  · exact (hw.sock r).parked t ht hp h.asleep hreg
  · have hunder := ((hw.sock r').under .poll (.inr hwaits.1) (by simp)).2 hreg
    exact hunder.resolve_left (by simp [SockAct.task, h.asleep])

/-- Only tasks of a kind that registers are registered. -/
theorem WakerInv.registers (hw : WakerInv s) {r : Nat} (ht : t.sock = some r)
    (h : s.wakers.registered t = true) : s.Registers t := by
  cases t with
  | read r' => trivial
  | close i => simp [Task.sock] at ht
  | write r' =>
    intro hwriting
    exact absurd ((hw.sock r').writing hwriting) (by simpa [Wakers.registered] using h)

/-- The notification of `on_error` leaves behind the tasks that it does not reach. -/
theorem LatchSt.open_notify {g : Agent} (hw : WakerInv s)
    (hs : latchMachine.step s (.notify g) = some (s', .latched g)) :
    s'.Open t ↔ s.Open t ∧ ¬ s.Reaches t := by
  simp only [latchMachine, step] at hs
  split at hs
  · rename_i ret hpc
    cases hs
    -- where the tasks stand in the code is not touched by a notification
    have hwaits : ∀ r, LatchSt.Waits ({ s with
        wakers := s.wakers.notifyAll s.inTable
        notified := decide (s.reader = ReaderStage.reading) }.setPc g none) r ↔ s.Waits r := by
      intro r
      refine and_congr_left fun _ => ?_
      by_cases hg : g = .sock r
      · subst hg
        simp [setPc, hpc]
      · rw [setPc]
        simp only [Function.update_of_ne (Ne.symm hg)]
    have hparked : (s.wakers.parked t = true ∨ ∃ r, t = .write r ∧ LatchSt.Waits ({ s with
          wakers := s.wakers.notifyAll s.inTable
          notified := decide (s.reader = ReaderStage.reading) }.setPc g none) r) ↔
        (s.wakers.parked t = true ∨ ∃ r, t = .write r ∧ s.Waits r) := by
      simp only [hwaits]
    constructor
    · intro h
      have hasleep := h.asleep
      rw [setPc, Wakers.notifyAll_woken, Bool.or_eq_false_iff] at hasleep
      have hopen : s.Open t := by
        refine ⟨?_, hasleep.1, hparked.mp h.parked⟩
        have hlisted := h.listed
        cases t <;> exact hlisted
      refine ⟨hopen, ?_⟩
      rintro ⟨hreg, r, ht, htable⟩
      simp [ht, htable, hopen.registered hw ht hreg] at hasleep
    · rintro ⟨h, hreach⟩
      refine ⟨?_, ?_, hparked.mpr h.parked⟩
      · have hlisted := h.listed
        cases t <;> exact hlisted
      · rw [setPc, Wakers.notifyAll_woken, h.asleep, Bool.false_or]
        by_contra hwoken
        simp only [Bool.not_eq_false, Bool.and_eq_true, Option.any_eq_true] at hwoken
        obtain ⟨⟨r, ht, htable⟩, hregistered⟩ := hwoken
        exact hreach ⟨hw.registers ht hregistered, r, ht, htable⟩
  · exact absurd hs (by simp)

/-- The poll of `open_socket` that is about to wait does. -/
theorem LatchSt.Waits.enter {r : Nat} (h : s.Waits r) (hconn : s.host.shared.connection = none) :
    ∃ s' e, latchMachine.step s (.enter r) = some (s', e) ∧
      s'.wakers.parked (.write r) = true ∧
      s'.wakers.woken (.write r) = s.wakers.woken (.write r) := by
  obtain ⟨hpc, k, hr, hwaits⟩ := h
  simp only [latchMachine, LatchSt.step, LatchSt.enter, hr, hpc, hconn, Sock.step_of_waits hwaits,
    LatchSt.leave, SockNext.goesOn, Option.isSome_none, Bool.false_eq_true, and_false, if_false]
  exact ⟨_, _, rfl, Function.update_self .., rfl⟩

end Open

/-- For every schedule, up to the notification of the `on_error` that set the error: whoever waits
then or later was woken, exactly when the tasks that were asleep before it are all registered with a
socket of the table. A task inside `write_message_async` is not, nor is one whose socket was removed. -/
theorem on_error_wakes_iff {connection : UsbConnection} {tr : List LatchEvent} {s s' : LatchSt}
    {g : Agent} (h : latchMachine.Run (LatchSt.new connection) tr s)
    (hs : latchMachine.step s (.notify g) = some (s', .latched g)) :
    (∀ later s'', latchMachine.Run s' later s'' → s''.Served) ↔ ∀ t, s.Open t → s.Reaches t := by
  have hw := wakerInv_of_run h
  obtain ⟨herr, hconn⟩ := latched_of_step (latchInv_of_run h) hs
  obtain ⟨err, herr⟩ := Option.ne_none_iff_exists'.mp herr
  constructor
  · intro hserved t hopen
    by_contra hreach
    -- nobody reaches the task, now or later: it is not served in this very state, or after its
    -- next poll
    have hopen' : s'.Open t := (LatchSt.open_notify hw hs).mpr ⟨hopen, hreach⟩
    rcases hopen'.parked with hp | ⟨r, rfl, hwaits⟩
    · exact absurd (hserved [] s' .nil t hopen'.listed hp) (by simp [hopen'.asleep])
    · obtain ⟨s'', e, henter, hp, hwoken⟩ := hwaits.enter hconn
      rw [hopen'.asleep] at hwoken
      exact absurd (hserved [e] s'' (Machine.Run.single henter) (.write r) trivial hp) (by simp [hwoken])
  · intro hreach later s'' hrun
    have hnone : ∀ t, ¬ s''.Open t := by
      refine hrun.invariant (fun _ s => ∀ t, ¬ s.Open t) ?_ ?_
      · intro t hopen
        obtain ⟨hopen, hnot⟩ := (LatchSt.open_notify hw hs).mp hopen
        exact hnot (hreach t hopen)
      · intro tr₁ s₁ a s₂ e hrun₁ ih hstep t hopen
        obtain ⟨g', hstep'⟩ := latchStep_of_step hstep
        have hreached := (h.snoc hs).trans hrun₁
        have hlatched := latched_of_run hrun₁ herr hconn
        exact ih t (hstep'.open_of (latchInv_of_run hreached) (wakerInv_of_run hreached)
          (by rw [hlatched.error]; simp) hlatched.connection hopen)
    intro t hlisted hp
    by_contra hwoken
    exact hnone t ⟨hlisted, by simpa using hwoken, .inl hp⟩

/-- A notification that a test can follow is a step of the machine. -/
theorem latched_of_notify {s : LatchSt} {g : Agent} (test : LatchSt → Bool)
    (h : (latchMachine.step s (.notify g)).any (fun p => test p.1) = true) :
    ∃ s', latchMachine.step s (.notify g) = some (s', .latched g) ∧ test s' = true := by
  obtain ⟨⟨s', e⟩, hs, htest⟩ := (Option.any_eq_true _ _).mp h
  have hevent : e = .latched g := by
    simp only [latchMachine, LatchSt.step] at hs
    split at hs
    · cases hs
      rfl
    · exact absurd hs (by simp)
  subst hevent
  exact ⟨s', hs, htest⟩

/-- An `open_socket` that waits for the reply of the device is woken. -/
theorem on_error_wakes_iff_waiting :
    ∃ tr s s', latchMachine.Run (LatchSt.new (.new 512)) tr s ∧
      latchMachine.step s (.notify (.closer 0)) = some (s', .latched (.closer 0)) ∧
      (s.wakers.parked (.write 0) = true ∧ s.wakers.woken (.write 0) = false) ∧
      ∀ later s'', latchMachine.Run s' later s'' → s''.Served := by
  obtain ⟨s, tr, hrun, htest⟩ := Machine.exists_run_of_exec (M := latchMachine)
    (s := LatchSt.new (.new 512))
    [.openSocket "shell:", .create 0, .enter 0, .complete (.ok ()), .complete (.ok ()), .wake,
      .begin 0 .poll, .check 0, .enter 0, .check 0, .enter 0, .close 0, .set (.closer 0),
      .take (.closer 0)]
    (fun s _ => decide (s.host.backends.length = 1 ∧ s.host.writers.length = 0) &&
      decide (s.wakers.parked (.read 0) = false ∧ s.wakers.parked (.write 0) = true ∧
        s.wakers.woken (.write 0) = false) &&
      (s.inTable 0 && s.host.backends[0]?.any (fun k => k.checks .poll)) &&
      (latchMachine.step s (.notify (.closer 0))).any (fun _ => true))
    (by decide +kernel)
  simp only [Bool.and_eq_true, decide_eq_true_eq] at htest
  obtain ⟨⟨⟨⟨hlen, hwriters⟩, hread, hwrite, hwoken⟩, htable, hchecks⟩, hnotify⟩ := htest
  obtain ⟨s', hs, -⟩ := latched_of_notify (fun _ => true) hnotify
  refine ⟨tr, s, s', hrun, hs, ⟨hwrite, hwoken⟩, (on_error_wakes_iff hrun hs).mpr fun t hopen => ?_⟩
  have hw := wakerInv_of_run hrun
  have hzero : ∀ {r}, r < s.host.backends.length → r = 0 := by omega
  cases t with
  | read r =>
    rcases hopen.parked with hp | ⟨r', heq, -⟩
    · obtain rfl := hzero ((hw.sock r).exist (.read r) rfl (.inl hp))
      simp [hread] at hp
    · simp at heq
  | close i =>
    obtain ⟨w, hi, -⟩ := hopen.listed
    have hlt := (List.getElem?_eq_some_iff.mp hi).1
    omega
  | write r =>
    have hr : r = 0 := by
      rcases hopen.parked with hp | ⟨r', heq, -, k, hk, -⟩
      · exact hzero ((hw.sock r).exist (.write r) rfl (.inl hp))
      · cases heq
        exact hzero (List.getElem?_eq_some_iff.mp hk).1
    subst hr
    refine ⟨?_, 0, rfl, htable⟩
    rintro ⟨k, hk, hwriting⟩
    simp [hk, hwriting] at hchecks

/-- `Transport::close` while the first message of an `open_socket` is written: its task is in the
collection of the connection only, and nobody wakes it. -/
theorem on_error_forgets :
    ∃ tr s s', latchMachine.Run (LatchSt.new (.new 512)) tr s ∧
      latchMachine.step s (.notify (.closer 0)) = some (s', .latched (.closer 0)) ∧ ¬ s'.Served := by
  obtain ⟨s, tr, hrun, htest⟩ := Machine.exists_run_of_exec (M := latchMachine)
    (s := LatchSt.new (.new 512))
    [.openSocket "shell:", .create 0, .enter 0, .close 0, .set (.closer 0), .take (.closer 0)]
    (fun s _ => (latchMachine.step s (.notify (.closer 0))).any
      fun p => p.1.wakers.parked (.write 0) && !p.1.wakers.woken (.write 0))
    (by decide +kernel)
  obtain ⟨s', hs, hleft⟩ := latched_of_notify
    (fun s => s.wakers.parked (.write 0) && !s.wakers.woken (.write 0)) htest
  simp only [Bool.and_eq_true, Bool.not_eq_true'] at hleft
  refine ⟨tr, s, s', hrun, hs, fun hserved => ?_⟩
  simpa [hleft.2] using hserved (.write 0) trivial hleft.1

end AdbDaemon.Transport
