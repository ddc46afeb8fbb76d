import AdbDaemon.Transport.Calls

/-!
# The error latch

Reference: `TransportBackend::on_error` and `check_error` of `packages/transport/src/transport.rs`;
the polls of `packages/transport/src/socket.rs`.

`LatchInv` holds of every schedule: the connection goes only with the error, and every call under way
can go on. A poll that starts when the connection is gone can stand in few places (`Late`), and from
each of them it ends with an error. `error_latch` is the whole of it.
-/

namespace AdbDaemon.Transport

open Common

/-! ## Calls under way -/

/-- What holds of a call that is under way. -/
def LatchSt.Ready (s : LatchSt) : Agent → Pc → Prop
  | .sock r, .begun a | .sock r, .checked a =>
    ∃ k, s.host.backends[r]? = some k ∧ k.ready a = true
  | .writer i, .checked _ => ∃ w, s.host.writers[i]? = some w ∧ w.done = false
  | _, .begun _ | _, .checked _ => False
  | _, .raising _ _ => True
  | _, .taking _ => s.host.shared.error ≠ none
  | _, .notifying _ => s.host.shared.error ≠ none ∧ s.host.shared.connection = none

/-- The connection goes only with an error, and every call under way can go on. -/
structure LatchInv (s : LatchSt) : Prop where
  connection : s.host.shared.connection = none → s.host.shared.error ≠ none
  calls : ∀ g pc, s.pcs g = some pc → s.Ready g pc

section Invariant

variable {s s' : LatchSt} {e : LatchEvent} {g : Agent} {g' : Option Agent}

/-- Where a task is after a step of its own. -/
theorem LatchSt.pc_of_update {pc₀ : Option Pc} {pc : Pc} (hpcs : s'.pcs = Function.update s.pcs g pc₀)
    (hpc : s'.pcs g = some pc) : pc₀ = some pc := by
  rw [← hpc, hpcs, Function.update_self]

theorem LatchStep.error_ne_none (h : LatchStep s g' s' e) (herr : s.host.shared.error ≠ none) :
    s'.host.shared.error ≠ none := by
  obtain ⟨err, herr⟩ := Option.ne_none_iff_exists'.mp herr
  rw [h.error herr]
  simp

/-- What others do does not stop a call: the socket or the writer it is about stays, and in the same
phase. -/
theorem LatchSt.Ready.step {pc : Pc} (h : s.Ready g pc) (hs : LatchStep s g' s' e)
    (hother : Undisturbed s s' e g) : s'.Ready g pc := by
  have hsock : ∀ r a, g = .sock r → (∃ k, s.host.backends[r]? = some k ∧ k.ready a = true) →
      ∃ k, s'.host.backends[r]? = some k ∧ k.ready a = true := by
    rintro r a hg ⟨k, hr, hready⟩
    obtain ⟨k', hr', hph, -⟩ := hother.backend r k hg hr
    exact ⟨k', hr', (Sock.ready_congr hph a).trans hready⟩
  cases pc with
  | begun a =>
    cases g with
    | sock r => exact hsock r a rfl h
    | writer i | closer c | reader => exact h
  | checked a =>
    cases g with
    | sock r => exact hsock r a rfl h
    | writer i =>
      obtain ⟨w, hi, hdone⟩ := h
      exact ⟨w, hother.writer i w rfl hi, hdone⟩
    | closer c | reader => exact h
  | raising ret err => cases g <;> trivial
  | taking ret => cases g <;> exact hs.error_ne_none h
  | notifying ret => cases g <;> exact ⟨hs.error_ne_none h.1, (hs.no_connection h.2).1⟩

/-- The poll that goes on after a section can. -/
theorem LatchSt.ready_goesOn {s₁ : LatchSt} {r : Nat} {k : Sock} {a : SockAct} {n : SockNext}
    {pc : Pc} (hr : s₁.host.backends[r]? = some k)
    (hpc : (s₁.leave r a n).1.pcs (.sock r) = some pc) :
    (s₁.leave r a n).1.Ready (.sock r) pc := by
  obtain ⟨hpcs, hhost, -⟩ := s₁.leave_cases r a n
  rw [hpcs, Function.update_self] at hpc
  have hr' : (s₁.leave r a n).1.host.backends[r]? = some n.sock := by
    rw [hhost]
    exact getElem?_set_of_some hr _
  obtain ⟨rfl, hph⟩ | ⟨rfl, hph⟩ | ⟨msg, rfl, hph⟩ := SockNext.goesOn_cases hpc
  · exact ⟨_, hr', by simp only [Sock.ready, Sock.begins, hph]⟩
  · exact ⟨_, hr', by simp only [Sock.ready, hph]⟩
  · exact ⟨_, hr', by simp only [Sock.ready, hph]⟩

/-- The call that takes the step can go on after it, from the place in the code that it has come
to. -/
theorem LatchStep.ready (hs : LatchStep s (some g) s' e) (h : LatchInv s) {pc : Pc}
    (hpc : s'.pcs g = some pc) : s'.Ready g pc := by
  cases hs with
  | begin hr _ hbegins | beginDrop hr _ hbegins =>
    obtain rfl := Option.some.inj (LatchSt.pc_of_update rfl hpc)
    exact ⟨_, hr, Sock.ready_of_begins hbegins⟩
  | checkFails hr => exact LatchSt.ready_goesOn hr hpc
  | enter hr => exact LatchSt.ready_goesOn hr hpc
  | checkPasses hr hbegun =>
    obtain rfl := Option.some.inj (LatchSt.pc_of_update rfl hpc)
    exact h.calls _ _ hbegun
  | beginWriter hi hnone hdone =>
    obtain rfl := Option.some.inj (LatchSt.pc_of_update rfl hpc)
    exact ⟨_, hi, hdone⟩
  | create =>
    obtain rfl := Option.some.inj (LatchSt.pc_of_update rfl hpc)
    exact ⟨_, List.getElem?_concat_length, rfl⟩
  | raise | raiseWriter | close | readerStops =>
    obtain rfl := Option.some.inj (LatchSt.pc_of_update rfl hpc)
    trivial
  | set =>
    obtain rfl := Option.some.inj (LatchSt.pc_of_update rfl hpc)
    cases g <;> exact Option.some_ne_none _
  | take htaking =>
    obtain rfl := Option.some.inj (LatchSt.pc_of_update rfl hpc)
    have herr := h.calls _ _ htaking
    cases g <;> exact ⟨herr, rfl⟩
  | setFails | notify | enterWriter =>
    exact absurd (LatchSt.pc_of_update rfl hpc) (by simp)

/-- The connection is taken after the error is set: `take` is the only step that empties the slot,
and `set` comes before it in `on_error`. -/
theorem LatchStep.connection_error (hs : LatchStep s g' s' e) (h : LatchInv s)
    (hconn : s'.host.shared.connection = none) : s'.host.shared.error ≠ none := by
  by_cases hnone : s.host.shared.connection = none
  · exact hs.error_ne_none (h.connection hnone)
  · -- of all steps only `take` empties the slot, and `set` comes before it
    have hlost : ∀ {connection : Option UsbConnection},
        connection.isSome = s.host.shared.connection.isSome → connection ≠ none := by
      intro connection hsame hnone'
      rw [hnone', Option.isSome_none, eq_comm, Option.isSome_eq_false_iff,
        Option.isNone_iff_eq_none] at hsame
      exact hnone hsame
    cases hs with
    | begin | beginDrop | checkPasses | beginWriter | create | close | setFails | set | notify =>
      exact absurd hconn hnone
    | take htaking =>
      have herr := h.calls _ _ htaking
      revert herr
      cases ‹Agent› <;> exact id
    | checkFails hr hpc hchecks herr hs =>
      rw [(LatchSt.leave_cases ..).2.1] at hconn ⊢
      obtain ⟨hshared, -⟩ := Sock.step_of_error hchecks herr hs
      refine absurd ?_ hnone
      rw [← hshared]
      exact hconn
    | enter hr hpc hw hs herr =>
      rw [(LatchSt.leave_cases ..).2.1] at hconn
      exact absurd hconn (hlost (Sock.step_connection hs herr))
    | raise => exact absurd hconn (hlost (Sock.leftover_isSome _ _ _))
    | enterWriter hi hpc hp herr =>
      subst hp
      obtain ⟨c, hc⟩ := Option.ne_none_iff_exists'.mp hnone
      have hkept := (writeMessageAsync_spec _ _).2.1.connection herr (by rw [hc]; rfl)
      change (writeMessageAsync _ _).shared.connection = none at hconn
      simp [hconn] at hkept
    | raiseWriter => exact absurd hconn (hlost (writeMessageAsync_held rfl _))
    | readerStops hreader hsame => exact absurd hconn (hlost hsame)
    | readerReads => exact absurd hconn (Option.some_ne_none _)
    | dispatched hreader hhost =>
      rw [hhost.shared] at hconn
      exact absurd hconn hnone
    | other hpcs herror hsame => exact absurd hconn (hlost hsame)

/-- Every step keeps the invariant. -/
theorem LatchInv.step (h : LatchInv s) (hs : LatchStep s g' s' e) : LatchInv s' where
  connection := hs.connection_error h
  calls g pc hpc := by
    by_cases hg : g' = some g
    · subst hg
      exact hs.ready h hpc
    · have hother := hs.undisturbed hg
      rw [hother.pc] at hpc
      exact (h.calls g pc hpc).step hs hother

theorem LatchInv.new (connection : UsbConnection) : LatchInv (LatchSt.new connection) where
  connection h := absurd h (Option.some_ne_none _)
  calls g pc h := absurd h (by simp [LatchSt.new])

end Invariant

/-! ## Polls that start after the latch -/

/-- The calls that `began` announces. -/
def Agent.polls : Agent → Bool
  | .sock _ | .writer _ => true
  | .closer _ | .reader => false

/-- The steps with which a poll goes on. -/
def Agent.steps : Agent → List LatchAct
  | .sock r => [.check r, .enter r]
  | .writer i => [.enterWriter i]
  | .closer _ | .reader => []

/-- Where a poll can stand that started without a connection. -/
def LatchSt.Late (s : LatchSt) : Agent → Pc → Prop
  | .sock r, .begun a => ∃ k, s.host.backends[r]? = some k ∧ k.begins a = true
  | .sock r, .checked a => ∃ k, s.host.backends[r]? = some k ∧ a = .poll ∧ k.checks .poll = false
  | .writer i, .checked _ => ∃ w, s.host.writers[i]? = some w
  | _, _ => False

section Late

variable {s s' : LatchSt} {e : LatchEvent} {g : Agent} {g' : Option Agent}

/-- The poll ends with an error. -/
theorem LatchSt.leave_err {r : Nat} {a : SockAct} {n : SockNext} (hon : n.goesOn = none)
    (hret : n.event.ret = .err) (hsent : n.event.sent = []) :
    (s.leave r a n).2 = .returned (.sock r) .err [] ∧ (s.leave r a n).1.pcs (.sock r) = none := by
  obtain ⟨hpcs, -, -, ⟨pc, hon', -⟩ | ⟨-, ⟨msg, hev⟩, -⟩ | ⟨-, -, he⟩⟩ := s.leave_cases r a n
  · exact absurd (hon.symm.trans hon') (by simp)
  · rw [hev] at hret
    exact absurd hret (by simp [SockEvent.ret])
  · rw [hpcs, he, hret, hsent, hon]
    exact ⟨rfl, Function.update_self ..⟩

/-- A poll that checks the error ends there. -/
theorem LatchSt.leave_late {r : Nat} {k : Sock} {a : SockAct} {n : SockNext}
    (hbegins : k.begins a = true) (ha : a ≠ .drop) (hchecks : k.checks a = true)
    (herr : s.host.shared.error.isSome) (hs : k.step s.host.shared a = some n) :
    (s.leave r a n).2 = .returned (.sock r) .err [] ∧ (s.leave r a n).1.pcs (.sock r) = none := by
  obtain ⟨-, hsent, hon, hret | rfl | rfl, -⟩ := Sock.step_of_error hchecks herr hs
  · exact leave_err hon hret hsent
  · exact absurd rfl ha
  · simp [Sock.begins] at hbegins

/-- A poll that goes straight to the connection ends there. -/
theorem LatchSt.enter_late {s₁ : LatchSt} {r : Nat} {k : Sock} {n : SockNext} {sh : Shared}
    (hchecks : k.checks .poll = false) (hs : k.step ⟨none, none⟩ .poll = some n) :
    (s₁.leave r .poll { n with shared := sh }).2 = .returned (.sock r) .err [] ∧
      (s₁.leave r .poll { n with shared := sh }).1.pcs (.sock r) = none := by
  obtain ⟨-, hsent, hon, hret⟩ := Sock.step_of_no_connection hs
  have hon : n.goesOn = none := hon.resolve_right (by simp)
  rcases hret with hret | hdrop | hmark | ⟨-, hph⟩
  · exact leave_err hon hret hsent
  · exact absurd hdrop (by simp)
  · exact absurd hmark (by simp)
  · simp [Sock.checks, hph] at hchecks

/-- A task that is too late for the connection stays so. -/
theorem LatchSt.Late.step {pc : Pc} (h : s.Late g pc) (hother : Undisturbed s s' e g) :
    s'.Late g pc := by
  cases g with
  | sock r =>
    cases pc with
    | begun a =>
      obtain ⟨k, hr, hbegins⟩ := h
      obtain ⟨k', hr', hph, -⟩ := hother.backend r k rfl hr
      exact ⟨k', hr', (Sock.begins_congr hph a).trans hbegins⟩
    | checked a =>
      obtain ⟨k, hr, ha, hchecks⟩ := h
      obtain ⟨k', hr', hph, -⟩ := hother.backend r k rfl hr
      exact ⟨k', hr', ha, (Sock.checks_congr hph .poll).trans hchecks⟩
    | raising | taking | notifying => exact h
  | writer i =>
    cases pc with
    | checked a =>
      obtain ⟨w, hi⟩ := h
      exact ⟨w, hother.writer i w rfl hi⟩
    | begun | raising | taking | notifying => exact h
  | closer c | reader => exact h

/-- A poll that started without a connection ends with an error, at the latest when it takes the
locks. -/
structure Answers (tr : List LatchEvent) (s : LatchSt) (g : Agent) : Prop where
  late : ∀ pc, s.pcs g = some pc → s.Late g pc
  err : ∀ ret sent, .returned g ret sent ∈ tr → ret = .err
  answer : .returned g .err [] ∈ tr ∨ ∃ pc, s.pcs g = some pc ∧ pc ≠ .begun .drop

/-- The step that a poll takes: it ends with an error, or goes on. -/
theorem LatchStep.late (hs : LatchStep s (some g) s' e) (hg : g.polls = true)
    (herr : s.host.shared.error ≠ none) (hconn : s.host.shared.connection = none)
    (hlate : ∀ pc, s.pcs g = some pc → s.Late g pc) :
    (e = .returned g .err [] ∧ s'.pcs g = none) ∨
      ((∀ ret sent, e ≠ .returned g ret sent) ∧ (∀ pc, s'.pcs g = some pc → s'.Late g pc) ∧
        ((∃ pc, s'.pcs g = some pc ∧ pc ≠ .begun .drop) ∨ s.pcs g = none ∨
          s.pcs g = some (.begun .drop))) := by
  cases hs with
  | begin hr hpc hbegins ha =>
    refine .inr ⟨by simp, fun pc hpc' => ?_, .inr (.inl hpc)⟩
    obtain rfl := Option.some.inj (LatchSt.pc_of_update rfl hpc')
    exact ⟨_, hr, hbegins⟩
  | beginDrop hr hpc hbegins =>
    refine .inr ⟨by simp, fun pc hpc' => ?_, .inr (.inl hpc)⟩
    obtain rfl := Option.some.inj (LatchSt.pc_of_update rfl hpc')
    exact ⟨_, hr, hbegins⟩
  | @checkFails r k a n hr hpc hchecks hsome hstep =>
    obtain ⟨k', hr', hbegins⟩ := hlate _ hpc
    obtain rfl : k = k' := Option.some.inj (hr.symm.trans hr')
    by_cases ha : a = .drop
    · subst ha
      -- a drop is no poll: it shows no result
      obtain ⟨msg, hev⟩ := SockEvent.of_drop (Sock.step_event hstep)
      have hon : n.goesOn = none := (Sock.step_of_error hchecks hsome hstep).2.2.1
      obtain ⟨hpcs, -, -, hevent⟩ := s.leave_cases r .drop n
      refine .inr ⟨fun ret sent he => ?_, fun pc hpc' => ?_, .inr (.inr hpc)⟩
      · rcases hevent with ⟨_, hon', -⟩ | ⟨-, -, he'⟩ | ⟨-, hev', -⟩
        · exact absurd (hon.symm.trans hon') (by simp)
        · exact absurd (he'.symm.trans he) (by simp)
        · exact hev' msg hev
      · rw [hpcs, hon, Function.update_self] at hpc'
        exact absurd hpc' (by simp)
    · exact .inl (LatchSt.leave_late hbegins ha hchecks hsome hstep)
  | @checkPasses r k a hr hpc hnone =>
    obtain ⟨k', hr', hbegins⟩ := hlate _ hpc
    obtain rfl : k = k' := Option.some.inj (hr.symm.trans hr')
    have hchecks : k.checks a = false := by
      by_contra hchecks
      exact herr (hnone (by simpa using hchecks))
    obtain rfl := Sock.begins_of_not_checks hbegins hchecks
    refine .inr ⟨by simp, fun pc hpc' => ?_, .inl ⟨_, Function.update_self .., by simp⟩⟩
    obtain rfl := Option.some.inj (LatchSt.pc_of_update rfl hpc')
    exact ⟨k, hr, rfl, hchecks⟩
  | @enter r k a n _ hr hpc _ hstep =>
    obtain ⟨k', hr', rfl, hchecks⟩ := hlate _ hpc
    obtain rfl : k = k' := Option.some.inj (hr.symm.trans hr')
    rw [hconn] at hstep
    -- the slot is empty, so the poll ends in the error
    exact .inl (LatchSt.enter_late hchecks hstep)
  | raise hr hpc _ hstep hsome =>
    rw [hconn] at hstep
    rw [(Sock.step_of_no_connection hstep).1] at hsome
    exact absurd hsome (by simp)
  | beginWriter hi hpc =>
    refine .inr ⟨by simp, fun pc hpc' => ?_, .inr (.inl hpc)⟩
    obtain rfl := Option.some.inj (LatchSt.pc_of_update rfl hpc')
    exact ⟨_, hi⟩
  | enterWriter hi hpc hp =>
    rw [hconn, writeMessageAsync_of_none] at hp
    subst hp
    exact .inl ⟨rfl, Function.update_self ..⟩
  | raiseWriter hi hpc hp hsome =>
    rw [hconn, writeMessageAsync_of_none] at hp
    subst hp
    exact absurd hsome (by simp)
  | create he =>
    refine .inr ⟨fun ret sent => ?_, fun pc hpc' => ?_, .inl ⟨_, Function.update_self .., by simp⟩⟩
    · rcases he with rfl | rfl <;> simp
    · obtain rfl := Option.some.inj (LatchSt.pc_of_update rfl hpc')
      exact ⟨_, List.getElem?_concat_length, rfl, rfl⟩
  | close | readerStops => simp [Agent.polls] at hg
  | setFails hpc | set hpc | take hpc | notify hpc =>
    have hfalse := hlate _ hpc
    cases g <;> exact hfalse.elim

/-- A poll under way comes to its answer, and only its own steps move it. -/
theorem Answers.step {tr : List LatchEvent} (h : Answers tr s g) (hs : LatchStep s g' s' e)
    (hg : g.polls = true) (herr : s.host.shared.error ≠ none)
    (hconn : s.host.shared.connection = none) : Answers (tr ++ [e]) s' g := by
  -- a step of the agent itself, or one that leaves its place in the code alone
  by_cases hown : g' = some g
  · subst hown
    rcases hs.late hg herr hconn h.late with ⟨rfl, hpc⟩ | ⟨hret, hlate, hopen⟩
    · refine ⟨fun pc hpc' => absurd (hpc.symm.trans hpc') (by simp), fun ret sent hmem => ?_,
        .inl (by simp)⟩
      rcases List.mem_append.mp hmem with hmem | hmem
      · exact h.err ret sent hmem
      · simp only [List.mem_singleton, LatchEvent.returned.injEq] at hmem
        exact hmem.2.1
    · refine ⟨hlate, fun ret sent hmem => ?_, ?_⟩
      · rcases List.mem_append.mp hmem with hmem | hmem
        · exact h.err ret sent hmem
        · exact absurd (List.mem_singleton.mp hmem).symm (hret ret sent)
      · rcases h.answer with hmem | ⟨pc, hpc, hdrop⟩
        · exact .inl (List.mem_append_left _ hmem)
        · rcases hopen with hopen | hnone | hdrop'
          · exact .inr hopen
          · exact absurd (hnone.symm.trans hpc) (by simp)
          · exact absurd (Option.some.inj (hpc.symm.trans hdrop')) hdrop
  · have hother := hs.undisturbed hown
    refine ⟨fun pc hpc => ?_, fun ret sent hmem => ?_, ?_⟩
    · rw [hother.pc] at hpc
      exact (h.late pc hpc).step hother
    · rcases List.mem_append.mp hmem with hmem | hmem
      · exact h.err ret sent hmem
      · exact absurd (List.mem_singleton.mp hmem).symm (hother.returned ret sent)
    · rw [hother.pc]
      exact h.answer.imp_left (List.mem_append_left _)

/-- A poll that starts is that of a socket or of a write, and it is not under way yet. -/
theorem LatchStep.answers (hs : LatchStep s g' s' (.began g)) : g.polls = true ∧ Answers [] s' g := by
  generalize he : LatchEvent.began g = e at hs
  cases hs with
  | @begin r k a hr hpc hbegins ha =>
    cases he
    refine ⟨rfl, fun pc hpc' => ?_, by simp, .inr ⟨_, Function.update_self .., by simpa using ha⟩⟩
    obtain rfl := Option.some.inj (LatchSt.pc_of_update rfl hpc')
    exact ⟨k, hr, hbegins⟩
  | beginWriter hi hpc =>
    cases he
    refine ⟨rfl, fun pc hpc' => ?_, by simp, .inr ⟨_, Function.update_self .., by simp⟩⟩
    obtain rfl := Option.some.inj (LatchSt.pc_of_update rfl hpc')
    exact ⟨_, hi⟩
  | create hevent =>
    rcases hevent with rfl | rfl
    · exact absurd he (by simp)
    · cases he
      refine ⟨rfl, fun pc hpc' => ?_, by simp, .inr ⟨_, Function.update_self .., by simp⟩⟩
      obtain rfl := Option.some.inj (LatchSt.pc_of_update rfl hpc')
      exact ⟨_, List.getElem?_concat_length, rfl, rfl⟩
  | checkFails | enter => exact absurd he.symm ((LatchSt.leave_event rfl).2.2.2 g)
  | readerStops hreader =>
    rcases hreader with ⟨rfl, -⟩ | ⟨msg, rfl, -⟩
    · exact absurd he (by simp)
    · exact absurd he (by simp)
  | other _ _ _ _ _ _ _ hevent =>
    rcases hevent with rfl | rfl
    · exact absurd he (by simp)
    · exact absurd he (by simp)
  | _ => exact absurd he (by simp)

/-! ### Its own steps are enough -/

/-- Without a connection a poll that does not check for an error returns with it all the same. -/
theorem LatchSt.enter_returns {r : Nat} {k : Sock} (hr : s.host.backends[r]? = some k)
    (hpc : s.pcs (.sock r) = some (.checked .poll)) (hchecks : k.checks .poll = false)
    (hconn : s.host.shared.connection = none) :
    ∃ s', latchMachine.step s (.enter r) = some (s', .returned (.sock r) .err []) := by
  have hready : (k.step ⟨none, none⟩ .poll).isSome := by
    rw [Sock.step_isSome]
    simp only [Sock.ready, Sock.begins]
    unfold Sock.checks at hchecks
    split at hchecks
    · rename_i hph
      rw [hph]
    · simp at *
    · simp at hchecks
  obtain ⟨n, hn⟩ := Option.isSome_iff_exists.mp hready
  simp only [latchMachine, step, enter, hr, hpc, hconn, hn, (Sock.step_of_no_connection hn).1]
  exact ⟨_, congrArg some (Prod.ext rfl (enter_late hchecks hn).1)⟩

/-- A poll that checks for an error returns with it at once. -/
theorem LatchSt.check_returns {r : Nat} {k : Sock} {a : SockAct} (hr : s.host.backends[r]? = some k)
    (hpc : s.pcs (.sock r) = some (.begun a)) (hbegins : k.begins a = true) (ha : a ≠ .drop)
    (hchecks : k.checks a = true) (herr : s.host.shared.error ≠ none) :
    ∃ s', latchMachine.step s (.check r) = some (s', .returned (.sock r) .err []) := by
  have hsome := Option.isSome_iff_ne_none.mpr herr
  have hready : (k.step s.host.shared a).isSome := by
    rw [Sock.step_isSome]
    exact Sock.ready_of_begins hbegins
  obtain ⟨n, hn⟩ := Option.isSome_iff_exists.mp hready
  simp only [latchMachine, step, check, hr, hpc, hchecks, hsome, and_self, if_true, hn]
  exact ⟨_, congrArg some (Prod.ext rfl (leave_late hbegins ha hchecks hsome hn).1)⟩

/-- A spawned writer returns with the error. -/
theorem LatchSt.enterWriter_returns {i : Nat} {w : Writer} {a : SockAct}
    (hi : s.host.writers[i]? = some w) (hpc : s.pcs (.writer i) = some (.checked a))
    (hconn : s.host.shared.connection = none) :
    ∃ s', latchMachine.step s (.enterWriter i) = some (s', .returned (.writer i) .err []) := by
  simp only [latchMachine, step, enterWriter, hi, hpc, hconn, writeMessageAsync_of_none]
  exact ⟨_, rfl⟩

/-- A poll that started without a connection ends by its own steps. -/
theorem Answers.finish {tr : List LatchEvent} (h : Answers tr s g)
    (herr : s.host.shared.error ≠ none) (hconn : s.host.shared.connection = none) :
    .returned g .err [] ∈ tr ∨ ∃ as s' tr', (∀ a ∈ as, a ∈ g.steps) ∧
      latchMachine.exec s as = some (s', tr') ∧ .returned g .err [] ∈ tr' := by
  rcases h.answer with hmem | ⟨pc, hpc, hdrop⟩
  · exact .inl hmem
  · refine .inr ?_
    have hlate := h.late pc hpc
    cases g with
    | sock r =>
      cases pc with
      | begun a =>
        obtain ⟨k, hr, hbegins⟩ := hlate
        by_cases hchecks : k.checks a = true
        · have ha : a ≠ .drop := fun ha => hdrop (by rw [ha])
          obtain ⟨s', hs⟩ := LatchSt.check_returns hr hpc hbegins ha hchecks herr
          exact ⟨[.check r], s', [.returned (.sock r) .err []], by simp [Agent.steps],
            by simp [Machine.exec, hs], by simp⟩
        · have hchecks : k.checks a = false := by simpa using hchecks
          obtain rfl := Sock.begins_of_not_checks hbegins hchecks
          -- the poll writes its first message, and takes the locks unchecked
          have hcheck : latchMachine.step s (.check r) =
              some (s.setPc (.sock r) (some (.checked .poll)), .internal) := by
            simp [latchMachine, LatchSt.step, LatchSt.check, hr, hpc, hchecks]
          obtain ⟨s', hs⟩ := LatchSt.enter_returns
            (s := s.setPc (.sock r) (some (.checked .poll))) hr (Function.update_self ..) hchecks hconn
          exact ⟨[.check r, .enter r], s', [.internal, .returned (.sock r) .err []], by simp [Agent.steps],
            by simp [Machine.exec, hcheck, hs], by simp⟩
      | checked a =>
        obtain ⟨k, hr, rfl, hchecks⟩ := hlate
        obtain ⟨s', hs⟩ := LatchSt.enter_returns hr hpc hchecks hconn
        exact ⟨[.enter r], s', [.returned (.sock r) .err []], by simp [Agent.steps],
          by simp [Machine.exec, hs], by simp⟩
      | raising | taking | notifying => exact hlate.elim
    | writer i =>
      cases pc with
      | checked a =>
        obtain ⟨w, hi⟩ := hlate
        obtain ⟨s', hs⟩ := LatchSt.enterWriter_returns hi hpc hconn
        exact ⟨[.enterWriter i], s', [.returned (.writer i) .err []], by simp [Agent.steps],
          by simp [Machine.exec, hs], by simp⟩
      | begun | raising | taking | notifying => exact hlate.elim
    | closer c | reader => exact hlate.elim

end Late

/-! ## The messages read -/

def LatchEvent.readMsg : LatchEvent → Option AdbMessage
  | .read msg => some msg
  | _ => none

def LatchEvent.dispatchedMsg : LatchEvent → Option AdbMessage
  | .dispatched msg => some msg
  | _ => none

/-- The message that was read and is dispatched next. -/
def ReaderStage.held : ReaderStage → List AdbMessage
  | .dispatching msg => [msg]
  | _ => []

section Reader

variable {s s' : LatchSt} {e : LatchEvent} {g' : Option Agent}

/-- A reader between two messages holds none. -/
theorem ReaderStage.held_of_idle {stage : ReaderStage} (h : stage = .top ∨ stage = .reading) :
    stage.held = [] := by
  rcases h with rfl | rfl <;> rfl

/-- A step dispatches the message that was read, or keeps it; and nothing is read while one is
held. -/
theorem LatchStep.held (hs : LatchStep s g' s' e) :
    s.reader.held ++ e.readMsg.toList = e.dispatchedMsg.toList ++ s'.reader.held := by
  have hleave : ∀ {s₁ : LatchSt} {r : Nat} {a : SockAct} {n : SockNext}, s₁.reader = s.reader →
      s.reader.held ++ (s₁.leave r a n).2.readMsg.toList =
        (s₁.leave r a n).2.dispatchedMsg.toList ++ (s₁.leave r a n).1.reader.held := by
    intro s₁ r a n hreader
    obtain ⟨-, -, hsame, ⟨_, -, he⟩ | ⟨-, -, he⟩ | ⟨-, -, he⟩⟩ := s₁.leave_cases r a n <;>
      rw [hsame, he, hreader] <;> exact List.append_nil _
  cases hs with
  | checkFails | enter => exact hleave rfl
  | create he =>
    rcases he with rfl | rfl <;> exact List.append_nil _
  | readerStops hreader =>
    rcases hreader with ⟨rfl, hidle⟩ | ⟨msg, rfl, hmsg⟩
    · rw [ReaderStage.held_of_idle hidle]
      rfl
    · rw [hmsg]
      rfl
  | readerReads hreader =>
    rw [hreader]
    rfl
  | dispatched hreader =>
    rw [hreader]
    rfl
  | other _ _ _ _ _ hreader _ he =>
    have hheld : s.reader.held = s'.reader.held := by
      rcases hreader with hsame | ⟨hidle, hidle'⟩
      · rw [hsame]
      · rw [ReaderStage.held_of_idle hidle, ReaderStage.held_of_idle hidle']
    rcases he with rfl | rfl <;> rw [hheld] <;> exact List.append_nil _
  | _ => exact List.append_nil _

end Reader

/-! ## Runs -/

section Run

variable {connection : UsbConnection} {tr : List LatchEvent} {s : LatchSt}

/-- The invariant holds in every run. -/
theorem latchInv_of_run (h : latchMachine.Run (LatchSt.new connection) tr s) : LatchInv s := by
  refine h.invariant (fun _ s => LatchInv s) (.new connection) ?_
  intro tr s a s' e _ ih hs
  obtain ⟨g, hstep⟩ := latchStep_of_step hs
  exact ih.step hstep

/-- What was read is what was dispatched and what is held. -/
theorem reads_of_run (h : latchMachine.Run (LatchSt.new connection) tr s) :
    tr.filterMap LatchEvent.readMsg = tr.filterMap LatchEvent.dispatchedMsg ++ s.reader.held := by
  refine h.invariant (fun tr s => tr.filterMap LatchEvent.readMsg =
    tr.filterMap LatchEvent.dispatchedMsg ++ s.reader.held) rfl ?_
  intro tr s a s' e _ ih hs
  obtain ⟨g, hstep⟩ := latchStep_of_step hs
  rw [List.filterMap_append, List.filterMap_append, ih, List.append_assoc, List.append_assoc]
  have hheld := hstep.held
  cases hread : e.readMsg <;> cases hdispatched : e.dispatchedMsg <;>
    simpa [hread, hdispatched] using hheld

/-- After the connection was taken. -/
structure Latched (err : Error) (post : List LatchEvent) (s : LatchSt) : Prop where
  error : s.host.shared.error = some err
  connection : s.host.shared.connection = none
  sent : ∀ e ∈ post, e.sent = []
  read : post.filterMap LatchEvent.readMsg = []

/-- The first error is the one that stays. -/
theorem error_of_run {s' : LatchSt} {err : Error} (h : latchMachine.Run s tr s')
    (herr : s.host.shared.error = some err) : s'.host.shared.error = some err := by
  refine h.invariant (fun _ s => s.host.shared.error = some err) herr ?_
  intro tr s a s' e _ ih hs
  obtain ⟨g, hstep⟩ := latchStep_of_step hs
  exact hstep.error ih

/-- After the error and the loss of the connection every step is as the latch allows. -/
theorem latched_of_run {s' : LatchSt} {err : Error} (h : latchMachine.Run s tr s')
    (herr : s.host.shared.error = some err) (hconn : s.host.shared.connection = none) :
    Latched err tr s' := by
  refine h.invariant (fun tr s => Latched err tr s) ⟨herr, hconn, by simp, rfl⟩ ?_
  intro tr s a s' e _ ih hs
  obtain ⟨g, hstep⟩ := latchStep_of_step hs
  obtain ⟨hconn', hsent, hread⟩ := hstep.no_connection ih.connection
  refine ⟨hstep.error ih.error, hconn', fun e' he' => ?_, ?_⟩
  · rcases List.mem_append.mp he' with he' | he'
    · exact ih.sent e' he'
    · rw [List.mem_singleton.mp he', hsent]
  · rw [List.filterMap_append, ih.read]
    cases e with
    | read msg => exact absurd rfl (hread msg)
    | _ => rfl

/-- `on_error` returns with the error set and the connection gone, whoever called it and whatever
happened in between. -/
theorem latched_of_step {s' : LatchSt} {a : LatchAct} {g : Agent} (hinv : LatchInv s)
    (hs : latchMachine.step s a = some (s', .latched g)) :
    s'.host.shared.error ≠ none ∧ s'.host.shared.connection = none := by
  obtain ⟨g', hstep⟩ := latchStep_of_step hs
  generalize he : LatchEvent.latched g = e at hstep
  cases hstep with
  | @notify g' ret _ hpc =>
    have hready := hinv.calls _ _ hpc
    cases g' <;> exact hready
  | checkFails | enter => exact absurd he.symm ((LatchSt.leave_event rfl).2.2.1 g)
  | create hevent =>
    rcases hevent with rfl | rfl
    · exact absurd he (by simp)
    · exact absurd he (by simp)
  | readerStops hreader =>
    rcases hreader with ⟨rfl, -⟩ | ⟨msg, rfl, -⟩
    · exact absurd he (by simp)
    · exact absurd he (by simp)
  | other _ _ _ _ _ _ _ hevent =>
    rcases hevent with rfl | rfl
    · exact absurd he (by simp)
    · exact absurd he (by simp)
  | _ => exact absurd he (by simp)

/-- A poll that starts after the latch. -/
theorem answers_of_run {s' : LatchSt} {mid rest : List LatchEvent} {g : Agent} {err : Error}
    (h : latchMachine.Run s (mid ++ .began g :: rest) s') (herr : s.host.shared.error = some err)
    (hconn : s.host.shared.connection = none) : Answers rest s' g := by
  obtain ⟨s₁, a, s₂, hmid, hbegan, hrest⟩ := h.split
  obtain ⟨g', hstep⟩ := latchStep_of_step hbegan
  have hlatched := latched_of_run hmid herr hconn
  have herr₂ := hstep.error hlatched.error
  have hconn₂ := (hstep.no_connection hlatched.connection).1
  obtain ⟨hpolls, hanswers⟩ := hstep.answers
  refine hrest.invariant (fun tr s => Answers tr s g) hanswers ?_
  intro tr s a s' e hrun ih hs
  obtain ⟨g', hstep⟩ := latchStep_of_step hs
  have hlatched := latched_of_run hrun herr₂ hconn₂
  exact ih.step hstep hpolls (by rw [hlatched.error]; simp) hlatched.connection

end Run

/-- For every schedule of the tasks on a transport: the error is set once, the connection goes only
with the error, and after `on_error` has returned nothing is submitted, every poll ends with an error
and nothing is read, so that the reader task dispatches only what it had read. -/
theorem error_latch {connection : UsbConnection} {tr : List LatchEvent} {s : LatchSt}
    (h : latchMachine.Run (LatchSt.new connection) tr s) :
    (∀ err later s', s.host.shared.error = some err → latchMachine.Run s later s' →
        s'.host.shared.error = some err) ∧
      (s.host.shared.connection = none → s.host.shared.error ≠ none) ∧
      ∀ pre g post, tr = pre ++ .latched g :: post →
        (s.host.shared.connection = none ∧ ∀ e ∈ post, e.sent = []) ∧
        (∀ mid g' rest, post = mid ++ .began g' :: rest →
          (∀ ret sent, .returned g' ret sent ∈ rest → ret = .err) ∧
          (.returned g' .err [] ∈ rest ∨ ∃ as s' tr', (∀ a ∈ as, a ∈ g'.steps) ∧
            latchMachine.exec s as = some (s', tr') ∧ .returned g' .err [] ∈ tr')) ∧
        (∀ service, latchMachine.step s (.openSocket service) = some (s, .refused)) ∧
        post.filterMap LatchEvent.readMsg = [] ∧
        tr.filterMap LatchEvent.dispatchedMsg <+: pre.filterMap LatchEvent.readMsg := by
  refine ⟨fun err later s' herr hlater => error_of_run hlater herr, (latchInv_of_run h).connection, ?_⟩
  rintro pre g post rfl
  obtain ⟨s₁, a, s₂, hpre, hs, hpost⟩ := h.split
  obtain ⟨herr, hconn⟩ := latched_of_step (latchInv_of_run hpre) hs
  obtain ⟨err, herr⟩ := Option.ne_none_iff_exists'.mp herr
  have hlatched := latched_of_run hpost herr hconn
  have hset : s.host.shared.error ≠ none := by
    rw [hlatched.error]
    simp
  refine ⟨⟨hlatched.connection, hlatched.sent⟩, ?_, fun service => ?_, hlatched.read, ?_⟩
  · rintro mid g' rest rfl
    -- whatever begins after the latch ends in the error
    have hanswers := answers_of_run hpost herr hconn
    exact ⟨hanswers.err, hanswers.finish hset hlatched.connection⟩
  · simp [latchMachine, LatchSt.step, Shared.checkError, hlatched.error]
  · have hreads := reads_of_run h
    rw [List.filterMap_append, List.filterMap_cons_none rfl, hlatched.read, List.append_nil] at hreads
    exact ⟨_, hreads.symm⟩

/-- `Transport::close` sets the error while the first message of an `open_socket` is written, and
the next poll of that call ends with an error. -/
theorem error_latch_close :
    ∃ tr s, latchMachine.Run (LatchSt.new (.new 512)) tr s ∧
      ∃ pre rest, tr = pre ++ .latched (.closer 0) :: .began (.sock 0) :: rest ∧
        .returned (.sock 0) .err [] ∈ rest ∧
        (∀ ret sent, .returned (.sock 0) ret sent ∈ rest → ret = .err) ∧
        pre.flatMap LatchEvent.sent = [openMessage "shell:" 1] := by
  obtain ⟨s, tr, hrun, htest⟩ := Machine.exists_run_of_exec (M := latchMachine)
    (s := LatchSt.new (.new 512))
    [.openSocket "shell:", .create 0, .close 0, .set (.closer 0), .enter 0, .take (.closer 0),
      .notify (.closer 0), .begin 0 .poll, .check 0, .enter 0]
    (fun _ tr => decide (tr = [.internal, .internal, .internal, .internal,
        .returned (.sock 0) .pending [openMessage "shell:" 1], .internal] ++
      .latched (.closer 0) :: .began (.sock 0) :: [.internal, .returned (.sock 0) .err []]))
    (by decide +kernel)
  simp only [decide_eq_true_eq] at htest
  refine ⟨tr, s, hrun, _, _, htest, by simp, ?_, rfl⟩
  exact ((error_latch hrun).2.2 _ _ _ htest).2.1 [] (.sock 0) _ rfl |>.1

end AdbDaemon.Transport
