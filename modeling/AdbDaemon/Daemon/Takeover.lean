import AdbDaemon.Daemon.Startup

/-!
# Taking the port over

Reference: `src/daemon.rs`, `check_adb_server` and `bind_smartsocket`.

What holds of any number of starts in any order: a server is told to exit only by a start that an adb
server has answered before (`heard_of_kill`); a start ends after a number of steps that the number of
servers bounds, which needs that `127.0.0.1` leads to the address (`startup_bounded_iff`); and once all
starts have ended, one of them has become the daemon that holds the port, though others may have been
killed on the way (`takeover_serves`).
-/

namespace AdbDaemon.Daemon

open Common SmartSocket

/-- What is documented of an adb server: it does not know the service of the probe, and exits when it
is told to. -/
structure Host.AdbLaw (host : Host) : Prop where
  probe : runService (host.adb .probe).reply = some false
  probe_lives : (host.adb .probe).exits = false
  kill : host.adb .kill = ⟨toBytes "OKAY", true⟩

/-- The process that takes the step. -/
def StartEvent.starter? : StartEvent → Option Nat
  | .launched p | .connected p _ _ | .refused p _ | .served p _ _ | .heard p _ _ _ | .lost p _ _
  | .bound p _ | .inUse p | .stopped p => some p
  | .exited _ | .died _ | .adbStarted _ => none

/-- The steps of a start. -/
def stepsOf (p : Nat) (tr : List StartEvent) : Nat := tr.countP fun e => e.starter? = some p

/-- How often it finds the port in use. -/
def retries (p : Nat) (tr : List StartEvent) : Nat := tr.count (.inUse p)

/-- Nothing has been started by a daemon yet. -/
def StartupSt.Initial (s : StartupSt) : Prop := s = .new ∨ s = .withAdb

namespace StartupSt

variable {s : StartupSt} {p : Nat} {stage : StartStage}

@[simp]
theorem move_servers : (s.move p stage).servers = s.servers := rfl

@[simp]
theorem move_port : (s.move p stage).port = s.port := rfl

@[simp]
theorem move_exiting : (s.move p stage).exiting = s.exiting := rfl

@[simp]
theorem move_starts : (s.move p stage).starts = s.starts.set p stage := rfl

@[simp]
theorem listen_servers (server : Server) : (s.listen server).servers = s.servers ++ [server] := rfl

@[simp]
theorem listen_port (server : Server) : (s.listen server).port = some s.servers.length := rfl

@[simp]
theorem listen_starts (server : Server) : (s.listen server).starts = s.starts := rfl

@[simp]
theorem free_servers : s.free.servers = s.servers := rfl

@[simp]
theorem free_port : s.free.port = none := rfl

@[simp]
theorem free_starts : s.free.starts = s.starts := rfl

/-- A start is moved, and the others stay where they are. -/
theorem getElem?_move {old : StartStage} (hp : s.starts[p]? = some old) (p' : Nat) :
    (s.starts.set p stage)[p']? = if p = p' then some stage else s.starts[p']? := by
  rw [List.getElem?_set]
  have hlt := (List.getElem?_eq_some_iff.mp hp).1
  by_cases heq : p = p'
  · subst heq
    simp [hlt]
  · simp [heq]

end StartupSt

/-! ## Who is told to exit -/

/-- The request that a start is at. -/
def StartStage.query? : StartStage → Option Query
  | .connecting q | .asked q _ | .answered q _ _ => some q
  | _ => none

/-- The server that a start has asked. -/
def StartStage.server? : StartStage → Option Nat
  | .asked _ i | .answered _ i _ => some i
  | _ => none

/-- What every run keeps of the servers. -/
structure ServerLaw (host : Host) (s : StartupSt) : Prop where
  port_last : ∀ i, s.port = some i → i + 1 = s.servers.length
  asked : ∀ (p : Nat) (stage : StartStage) i, s.starts[p]? = some stage → stage.server? = some i →
    i < s.servers.length
  answers : ∀ (p : Nat) q i answer, s.starts[p]? = some (.answered q i answer) →
    ∃ server, s.servers[i]? = some server ∧ answer = host.answer q server

section
variable {host : Host} {s₀ s s' : StartupSt} {tr : List StartEvent} {e : StartEvent}

/-- Before the first start there is an adb server or nobody. -/
theorem serverLaw_of_initial (h : s₀.Initial) : ServerLaw host s₀ := by
  obtain rfl | rfl := h
  · exact ⟨by simp [StartupSt.new], by simp [StartupSt.new], by simp [StartupSt.new]⟩
  · exact ⟨by simp [StartupSt.withAdb], by simp [StartupSt.withAdb], by simp [StartupSt.withAdb]⟩

/-- A start moves to a stage that asks no new server. -/
theorem ServerLaw.move (h : ServerLaw host s) {p : Nat} {old stage : StartStage}
    (hp : s.starts[p]? = some old) (hserver : ∀ i, stage.server? = some i → i < s.servers.length)
    (hanswer : ∀ q i answer, stage = .answered q i answer →
      ∃ server, s.servers[i]? = some server ∧ answer = host.answer q server) :
    ServerLaw host (s.move p stage) := by
  refine ⟨h.port_last, fun p' stage' i hp' hi => ?_, fun p' q i answer hp' => ?_⟩
  · rw [StartupSt.move_starts, StartupSt.getElem?_move hp] at hp'
    split at hp'
    · cases hp'
      exact hserver i hi
    · exact h.asked p' stage' i hp' hi
  · rw [StartupSt.move_starts, StartupSt.getElem?_move hp] at hp'
    split at hp'
    · exact hanswer q i answer (Option.some.inj hp')
    · exact h.answers p' q i answer hp'

/-- A server begins to listen. -/
theorem ServerLaw.listen (h : ServerLaw host s) (server : Server) :
    ServerLaw host (s.listen server) := by
  refine ⟨fun i hi => ?_, fun p stage i hp hi => ?_, fun p q i answer hp => ?_⟩
  · obtain rfl : s.servers.length = i := by simpa using hi
    simp
  · have hlt := h.asked p stage i hp hi
    simp only [StartupSt.listen_servers, List.length_append]
    omega
  · obtain ⟨server', hi, hanswer⟩ := h.answers p q i answer hp
    have hlt := (List.getElem?_eq_some_iff.mp hi).1
    exact ⟨server', by rwa [StartupSt.listen_servers, List.getElem?_append_left hlt], hanswer⟩

/-- A port that becomes free has no server that needs checking. -/
theorem ServerLaw.free (h : ServerLaw host s) : ServerLaw host s.free :=
  ⟨by simp, h.asked, h.answers⟩

/-- Only the server on the port can be reached. -/
theorem reach_eq_some {i : Nat} (h : s.reach host = some i) : s.port = some i := by
  unfold StartupSt.reach at h
  split at h
  · exact h
  · cases h

/-- A new start is asking nothing yet. -/
theorem getElem?_launch {p : Nat} {stage : StartStage}
    (hp : (s.starts ++ [.connecting .probe])[p]? = some stage) :
    stage = .connecting .probe ∧ p = s.starts.length ∨ s.starts[p]? = some stage := by
  rw [List.getElem?_append] at hp
  split at hp
  · exact .inr hp
  · have hlt := (List.getElem?_eq_some_iff.mp hp).1
    have hmem := List.mem_of_getElem? hp
    simp only [List.length_singleton] at hlt
    exact .inl ⟨by simpa using hmem, by omega⟩

/-- With its answer a start is done with the server. -/
theorem server?_next (q : Query) (ok : Option Bool) : (q.next ok).server? = none := by
  cases q <;> rcases ok with - | - | - <;> rfl

/-- Every step keeps the law of the servers: a start asks only a server that has been there, and is
answered as that server answers. -/
theorem ServerLaw.step (h : ServerLaw host s) (hstep : StartStep host s s' e) :
    ServerLaw host s' := by
  cases hstep with
  | launch =>
    refine ⟨h.port_last, fun p stage i hp hi => ?_, fun p q i answer hp => ?_⟩
    · obtain ⟨rfl, -⟩ | hp := getElem?_launch hp
      · cases hi
      · exact h.asked p stage i hp hi
    · obtain ⟨hstage, -⟩ | hp := getElem?_launch hp
      · cases hstage
      · exact h.answers p q i answer hp
  | connect hp hreach =>
    -- it reached whoever held the port, so that server exists
    refine h.move hp (fun i hi => ?_) nofun
    have hlast := h.port_last _ (reach_eq_some hreach)
    cases hi
    omega
  | @serve p i q server hp hserver hport =>
    have hmove : ServerLaw host (s.move p (.answered q i (host.answer q server))) := by
      refine h.move hp (fun i hi => ?_) (fun q i answer heq => ?_)
      · cases hi
        exact (List.getElem?_eq_some_iff.mp hserver).1
      · cases heq
        exact ⟨server, hserver, rfl⟩
    exact ⟨hmove.port_last, hmove.asked, hmove.answers⟩
  | @finish p i q answer hp hdone =>
    refine h.move hp (fun i hi => ?_) (fun q' i' answer' heq => ?_)
    · rw [server?_next] at hi
      cases hi
    · have hnone := server?_next q (runService answer.reply)
      rw [heq] at hnone
      cases hnone
  | bind hp hport => exact (h.listen _).move hp nofun nofun
  | refused hp | unkilled hp | lose hp | inUse hp | stop hp => exact h.move hp nofun nofun
  | exit | die => exact h.free
  | adbStart => exact h.listen _

/-- The law of the servers holds in every run. -/
theorem serverLaw_of_run (hinit : s₀.Initial) (h : (startupMachine host).Run s₀ tr s) :
    ServerLaw host s := by
  induction h with
  | nil => exact serverLaw_of_initial hinit
  | snoc _ hs ih => exact ih.step (startStep_of_step hs)

/-- A server never loses its number. -/
theorem servers_of_step (hstep : StartStep host s s' e) {i : Nat} {server : Server}
    (hi : s.servers[i]? = some server) : s'.servers[i]? = some server := by
  have hlisten : ∀ server', (s.servers ++ [server'])[i]? = some server := fun server' => by
    rwa [List.getElem?_append_left (List.getElem?_eq_some_iff.mp hi).1]
  cases hstep with
  | bind | adbStart => exact hlisten _
  | _ => exact hi

/-- A start that wants the server killed was answered by an adb server. -/
def KillLaw (tr : List StartEvent) (s : StartupSt) : Prop :=
  ∀ p stage, s.starts[p]? = some stage → stage.query? = some .kill →
    ∃ j, s.servers[j]? = some .adb ∧ .heard p .probe j (some false) ∈ tr

/-- A start is at `host:kill` only after its probe was refused, which a step cannot undo. -/
theorem KillLaw.step (h : KillLaw tr s) (hlaw : ServerLaw host s) (hstep : StartStep host s s' e) :
    KillLaw (tr ++ [e]) s' := by
  have hkeep : ∀ p, (∃ j, s.servers[j]? = some .adb ∧ .heard p .probe j (some false) ∈ tr) →
      ∃ j, s'.servers[j]? = some .adb ∧ .heard p .probe j (some false) ∈ tr ++ [e] := by
    rintro p ⟨j, hj, hheard⟩
    exact ⟨j, servers_of_step hstep hj, List.mem_append_left _ hheard⟩
  -- where a start came from, unless it has just heard from an adb server
  have hmove : ∀ {p : Nat} {old new : StartStage}, s.starts[p]? = some old →
      s'.starts = s.starts.set p new → (new.query? = some .kill → old.query? = some .kill) →
      KillLaw (tr ++ [e]) s' := by
    intro p old new hp hstarts hkills p' stage hp' hstage
    apply hkeep
    rw [hstarts, StartupSt.getElem?_move hp] at hp'
    split at hp'
    · rename_i heq
      cases hp'
      exact heq ▸ h p old hp (hkills hstage)
    · exact h p' stage hp' hstage
  have hsame : s'.starts = s.starts → KillLaw (tr ++ [e]) s' := fun hstarts p stage hp hstage =>
    hkeep p (h p stage (hstarts ▸ hp) hstage)
  cases hstep with
  | launch =>
    intro p stage hp hstage
    obtain ⟨rfl, -⟩ | hp := getElem?_launch hp
    · cases hstage
    · exact hkeep p (h p stage hp hstage)
  | connect hp => exact hmove hp rfl id
  | serve hp => exact hmove hp rfl id
  | @finish p i q answer hp =>
    intro p' stage hp' hstage
    rw [StartupSt.move_starts, StartupSt.getElem?_move hp] at hp'
    split at hp'
    · rename_i heq
      subst heq
      cases hp'
      obtain ⟨server, hserver, rfl⟩ := hlaw.answers p q i _ hp
      cases q with
      | probe =>
        cases server with
        | adb =>
          refine ⟨i, hserver, List.mem_append_right _ ?_⟩
          rcases hok : runService (host.answer .probe .adb).reply with - | - | -
          · rw [hok] at hstage
            cases hstage
          · exact List.mem_singleton_self _
          · rw [hok] at hstage
            cases hstage
        | daemon p₀ =>
          have hokay : runService (host.answer .probe (.daemon p₀)).reply = some true := by
            rw [Host.answer, daemonAnswer_probe, runService_okay]
          rw [hokay] at hstage
          cases hstage
      | kill =>
        rcases hok : runService (host.answer .kill server).reply with - | - | - <;>
          rw [hok] at hstage <;> cases hstage
    · exact hkeep p' (h p' stage hp' hstage)
  | refused hp | unkilled hp | lose hp | bind hp | inUse hp | stop hp =>
    exact hmove hp rfl fun hkills => by cases hkills
  | exit | die | adbStart => exact hsame rfl

/-- In every run whoever is sent `host:kill` is sent it by a start whose probe was refused. -/
theorem killLaw_of_run (hinit : s₀.Initial) (h : (startupMachine host).Run s₀ tr s) :
    KillLaw tr s := by
  induction h with
  | nil =>
    obtain rfl | rfl := hinit <;> exact fun p stage hp => by cases hp
  | snoc hrun hs ih => exact ih.step (serverLaw_of_run hinit hrun) (startStep_of_step hs)

/-- A start that is asking, or wants the server killed, has reached a server. -/
def ReachLaw (host : Host) (s : StartupSt) : Prop :=
  ∀ (p : Nat) (stage : StartStage), s.starts[p]? = some stage →
    stage.server? ≠ none ∨ stage.query? = some .kill → host.loopback = true

/-- A step reaches a server only by connecting, which needs the loopback; every later stage of the
start comes from there. -/
theorem ReachLaw.step (h : ReachLaw host s) (hstep : StartStep host s s' e) : ReachLaw host s' := by
  have hmove : ∀ {p : Nat} {old new : StartStage}, s.starts[p]? = some old →
      (new.server? ≠ none ∨ new.query? = some .kill → host.loopback = true) →
      ∀ (p' : Nat) (stage : StartStage), (s.starts.set p new)[p']? = some stage →
        stage.server? ≠ none ∨ stage.query? = some .kill → host.loopback = true := by
    intro p old new hp hnew p' stage hp' hstage
    rw [StartupSt.getElem?_move hp] at hp'
    split at hp'
    · cases hp'
      exact hnew hstage
    · exact h p' stage hp' hstage
  cases hstep with
  | launch =>
    intro p stage hp hstage
    obtain ⟨rfl, -⟩ | hp := getElem?_launch hp
    · simp [StartStage.server?, StartStage.query?] at hstage
    · exact h p stage hp hstage
  | connect hp hreach =>
    refine hmove hp fun _ => ?_
    by_contra hloop
    -- without the loopback no connection succeeds
    rw [StartupSt.reach, if_neg hloop] at hreach
    cases hreach
  | serve hp | finish hp =>
    have hloop := h _ _ hp (.inl (Option.some_ne_none _))
    exact hmove hp fun _ => hloop
  | refused hp | unkilled hp | bind hp | inUse hp | stop hp =>
    exact hmove hp fun hnew => by simp [StartStage.server?, StartStage.query?] at hnew
  | lose hp => exact hmove hp fun hnew => by simp [StartStage.server?, StartStage.query?] at hnew
  | exit | die | adbStart => exact h

/-- In every run a server that was asked was on the port. -/
theorem reachLaw_of_run (hinit : s₀.Initial) (h : (startupMachine host).Run s₀ tr s) :
    ReachLaw host s := by
  induction h with
  | nil =>
    obtain rfl | rfl := hinit <;> exact fun p stage hp => by cases hp
  | snoc _ hs ih => exact ih.step (startStep_of_step hs)

/-- A server is told to exit by a start that an adb server has answered before; a daemon is told so
only if the adb server has been replaced by it meanwhile. -/
theorem heard_of_kill (hinit : s₀.Initial) (h : (startupMachine host).Run s₀ tr s) {a : StartAct}
    {p i : Nat} (hstep : (startupMachine host).step s a = some (s', .served p .kill i)) :
    ∃ j ≤ i, s.servers[j]? = some .adb ∧ .heard p .probe j (some false) ∈ tr := by
  have hserve := startStep_of_step hstep
  cases hserve with
  | serve hp hserver hport =>
    obtain ⟨j, hj, hheard⟩ := killLaw_of_run hinit h p _ hp rfl
    have hlast := (serverLaw_of_run hinit h).port_last i hport
    have hlt := (List.getElem?_eq_some_iff.mp hj).1
    exact ⟨j, by omega, hj, hheard⟩

/-! ## How long a start takes -/

/-- How far a start is in its round of `bind_smartsocket`. -/
def Query.rank : Query → Nat
  | .probe => 0
  | .kill => 3

/-- How far a stage is in its round, so that every step but a retry raises it. -/
def StartStage.rank : StartStage → Nat
  | .connecting q => q.rank
  | .asked q _ => q.rank + 1
  | .answered q _ _ => q.rank + 2
  | .binding => 6
  | .bound _ | .running | .failed _ => 7

/-- A start that has not ended has a step left. -/
theorem rank_lt {stage : StartStage} (h : stage.ended = false) : stage.rank < 7 := by
  cases stage with
  | connecting q | asked q | answered q => cases q <;> simp [StartStage.rank, Query.rank]
  | binding => decide
  | bound | running | failed => cases h

/-- An answer brings a start forward by three ranks. -/
theorem rank_next (q : Query) (ok : Option Bool) : q.rank + 3 ≤ (q.next ok).rank := by
  cases q <;> rcases ok with - | - | - <;> decide

theorem stepsOf_snoc (p : Nat) :
    stepsOf p (tr ++ [e]) = stepsOf p tr + if e.starter? = some p then 1 else 0 := by
  by_cases hp : e.starter? = some p <;> simp [stepsOf, hp]

theorem retries_snoc (p : Nat) :
    retries p (tr ++ [e]) = retries p tr + if e = .inUse p then 1 else 0 := by
  by_cases hp : e = .inUse p <;> simp [retries, hp]

/-- Every retry is a step. -/
theorem retries_le_stepsOf (p : Nat) (tr : List StartEvent) : retries p tr ≤ stepsOf p tr := by
  unfold retries stepsOf List.count
  refine List.countP_mono_left fun e _ he => ?_
  obtain rfl : e = .inUse p := by simpa using he
  simp [StartEvent.starter?]

/-- Each time the port is in use, a server has begun to listen since it was last in use. -/
structure RetryLaw (tr : List StartEvent) (s : StartupSt) : Prop where
  le : ∀ p, retries p tr ≤ s.servers.length
  asked : ∀ (p : Nat) (stage : StartStage) i, s.starts[p]? = some stage → stage.server? = some i →
    retries p tr ≤ i + 1
  binding : ∀ (p i : Nat), s.starts[p]? = some .binding → s.port = some i → retries p tr ≤ i
  steps : ∀ (p : Nat) (stage : StartStage), s.starts[p]? = some stage →
    stepsOf p tr ≤ 1 + 7 * retries p tr + stage.rank
  fresh : ∀ p : Nat, s.starts[p]? = none → stepsOf p tr = 0

/-- What a step has to keep for the start that takes it. -/
structure Advances (tr : List StartEvent) (s' : StartupSt) (p : Nat) (new : StartStage) : Prop where
  moved : s'.starts[p]? = some new
  le : retries p tr ≤ s'.servers.length
  asked : ∀ i, new.server? = some i → retries p tr ≤ i + 1
  binding : ∀ i, new = .binding → s'.port = some i → retries p tr ≤ i
  steps : stepsOf p tr ≤ 1 + 7 * retries p tr + new.rank

/-- If the port only changes hands with a new server, every start that moves has a server to show
for each of its retries. -/
theorem RetryLaw.advance (h : RetryLaw tr s) (hlen : s.servers.length ≤ s'.servers.length)
    (hport : ∀ i, s'.port = some i → s.port = some i ∨ s.servers.length ≤ i)
    (hothers : ∀ p, e.starter? ≠ some p → s'.starts[p]? = s.starts[p]?)
    (hmoved : ∀ p, e.starter? = some p → ∃ new, Advances (tr ++ [e]) s' p new) :
    RetryLaw (tr ++ [e]) s' := by
  have hretries : ∀ p, e.starter? ≠ some p → retries p (tr ++ [e]) = retries p tr := by
    intro p hp
    have hne : e ≠ .inUse p := by
      rintro rfl
      exact hp rfl
    rw [retries_snoc, if_neg hne, Nat.add_zero]
  have hsteps : ∀ p, e.starter? ≠ some p → stepsOf p (tr ++ [e]) = stepsOf p tr := by
    intro p hp
    rw [stepsOf_snoc, if_neg hp, Nat.add_zero]
  -- each clause twice: for the start that takes this step, and for the others, which it leaves
  -- as they are
  refine ⟨fun p => ?_, fun p stage i hp hi => ?_, fun p i hp hi => ?_, fun p stage hp => ?_,
    fun p hp => ?_⟩
  all_goals by_cases he : e.starter? = some p
  · obtain ⟨new, hnew⟩ := hmoved p he
    exact hnew.le
  · rw [hretries p he]
    exact (h.le p).trans hlen
  · obtain ⟨new, hnew⟩ := hmoved p he
    cases hnew.moved.symm.trans hp
    exact hnew.asked i hi
  · rw [hothers p he] at hp
    rw [hretries p he]
    exact h.asked p stage i hp hi
  · obtain ⟨new, hnew⟩ := hmoved p he
    cases hnew.moved.symm.trans hp
    exact hnew.binding i rfl hi
  · rw [hothers p he] at hp
    rw [hretries p he]
    obtain hold | hnew := hport i hi
    · exact h.binding p i hp hold
    · exact (h.le p).trans hnew
  · obtain ⟨new, hnew⟩ := hmoved p he
    cases hnew.moved.symm.trans hp
    exact hnew.steps
  · rw [hothers p he] at hp
    rw [hretries p he, hsteps p he]
    exact h.steps p stage hp
  · obtain ⟨new, hnew⟩ := hmoved p he
    cases hnew.moved.symm.trans hp
  · rw [hothers p he] at hp
    rw [hsteps p he]
    exact h.fresh p hp

/-- A start goes on in its round, with a higher rank: a server that it newly asks is the last one
there has been. -/
theorem RetryLaw.move (h : RetryLaw tr s) {p : Nat} {old new : StartStage}
    (hp : s.starts[p]? = some old) (hstarts : s'.starts = s.starts.set p new)
    (hlen : s.servers.length ≤ s'.servers.length)
    (hport : ∀ i, s'.port = some i → s.port = some i ∨ s.servers.length ≤ i)
    (he : e.starter? = some p) (hne : e ≠ .inUse p) (hrank : old.rank < new.rank)
    (hasked : ∀ i, new.server? = some i → old.server? = some i ∨ s.servers.length = i + 1)
    (hbinding : new = .binding → ∀ i, s'.port = some i → retries p tr ≤ i) :
    RetryLaw (tr ++ [e]) s' := by
  refine h.advance hlen hport (fun p' hp' => ?_) (fun p' hp' => ?_)
  · have hother : p ≠ p' := fun heq => hp' (heq ▸ he)
    rw [hstarts, StartupSt.getElem?_move hp, if_neg hother]
  · obtain rfl : p = p' := Option.some.inj (he.symm.trans hp')
    have hretries : retries p (tr ++ [e]) = retries p tr := by
      rw [retries_snoc, if_neg hne, Nat.add_zero]
    refine ⟨new, ?_, ?_, fun i hi => ?_, fun i hnew hi => ?_, ?_⟩
    · rw [hstarts, StartupSt.getElem?_move hp, if_pos rfl]
    · rw [hretries]
      exact (h.le p).trans hlen
    · rw [hretries]
      obtain hold | hlast := hasked i hi
      · exact h.asked p old i hp hold
      · exact hlast ▸ h.le p
    · rw [hretries]
      exact hbinding hnew i hi
    · have hsteps := h.steps p old hp
      rw [hretries, stepsOf_snoc, if_pos he]
      omega

/-- Where `127.0.0.1` leads to the address, nobody is reached only if nobody listens. -/
theorem reach_eq_none (hloop : host.loopback = true) (h : s.reach host = none) : s.port = none := by
  rwa [StartupSt.reach, if_pos hloop] at h

/-- After a kill the port is not in the hands of the server that was killed. -/
theorem next_eq_binding {q : Query} {ok : Option Bool} (h : q.next ok = .binding) :
    q = .kill ∧ ok = some true := by
  cases q <;> rcases ok with - | - | - <;> first | exact ⟨rfl, rfl⟩ | cases h

theorem answer_kill (hadb : host.AdbLaw) (server : Server) :
    host.answer .kill server = ⟨toBytes "OKAY", true⟩ := by
  cases server with
  | adb => exact hadb.kill
  | daemon => exact daemonAnswer_kill

/-- `run_service` returns from a kill when the server has ended. -/
theorem gone_of_killed {i : Nat}
    (hdone : 4 < (toBytes "OKAY").length ∨ true = false ∨ s.port ≠ some i) : s.port ≠ some i := by
  obtain hlong | hstays | hgone := hdone
  · exact absurd hlong (by decide)
  · cases hstays
  · exact hgone

/-- Every step keeps the law of the retries; only a start that finds the port in use again needs an
argument, the server that took it meanwhile. -/
theorem RetryLaw.step (hadb : host.AdbLaw) (hloop : host.loopback = true) (h : RetryLaw tr s)
    (hlaw : ServerLaw host s) (hstep : StartStep host s s' e) : RetryLaw (tr ++ [e]) s' := by
  have hsame : ∀ i, s.port = some i → s.port = some i ∨ s.servers.length ≤ i := fun i hi => .inl hi
  -- nobody is moved
  have hstay : s'.starts = s.starts → e.starter? = none → s.servers.length ≤ s'.servers.length →
      (∀ i, s'.port = some i → s.port = some i ∨ s.servers.length ≤ i) → RetryLaw (tr ++ [e]) s' :=
    fun hstarts he hlen hport => h.advance hlen hport (fun p _ => by rw [hstarts])
      fun p hp => by rw [he] at hp; cases hp
  cases hstep with
  | launch =>
    refine h.advance (Nat.le_refl _) hsame (fun p hp => ?_) (fun p hp => ?_)
    · have hne : p ≠ s.starts.length := fun heq => hp (by rw [heq]; rfl)
      rw [List.getElem?_append]
      split
      · rfl
      · rw [List.getElem?_eq_none (by simp; omega), List.getElem?_eq_none (by omega)]
    · obtain rfl : s.starts.length = p := Option.some.inj hp
      have hfresh := h.fresh s.starts.length (List.getElem?_eq_none (Nat.le_refl _))
      have hle := retries_le_stepsOf s.starts.length tr
      refine ⟨.connecting .probe, List.getElem?_concat_length, ?_, nofun, nofun, ?_⟩
      · rw [retries_snoc, if_neg nofun]
        omega
      · rw [stepsOf_snoc, if_pos hp]
        omega
  | connect hp hreach =>
    have hlast := hlaw.port_last _ (reach_eq_some hreach)
    refine h.move hp rfl (Nat.le_refl _) hsame rfl nofun (Nat.lt_succ_self _) (fun i hi => ?_) nofun
    cases hi
    exact .inr hlast.symm
  | refused hp hreach =>
    refine h.move hp rfl (Nat.le_refl _) hsame rfl nofun (by decide) nofun (fun _ i hi => ?_)
    rw [StartupSt.move_port, reach_eq_none hloop hreach] at hi
    cases hi
  | unkilled hp => exact h.move hp rfl (Nat.le_refl _) hsame rfl nofun (by decide) nofun nofun
  | serve hp =>
    exact h.move hp rfl (Nat.le_refl _) hsame rfl nofun (Nat.lt_succ_self _) (fun i => .inl) nofun
  | @finish p i q answer hp hdone =>
    refine h.move hp rfl (Nat.le_refl _) hsame rfl nofun ?_ (fun j hj => ?_) (fun hnext j hj => ?_)
    · have hrank := rank_next q (runService answer.reply)
      exact hrank
    · rw [server?_next] at hj
      cases hj
    · obtain ⟨rfl, -⟩ := next_eq_binding hnext
      obtain ⟨server, hserver, rfl⟩ := hlaw.answers p .kill i _ hp
      rw [answer_kill hadb] at hdone
      have hgone := gone_of_killed hdone
      have hlast := hlaw.port_last j hj
      have hlt := hlaw.asked p _ i hp rfl
      have hretries := h.asked p _ i hp rfl
      have hne : j ≠ i := fun heq => hgone (heq ▸ hj)
      omega
  | lose hp =>
    exact h.move hp rfl (Nat.le_refl _) hsame rfl nofun (rank_lt rfl) nofun nofun
  | bind hp hport =>
    refine h.move hp rfl (by simp) (fun i hi => .inr ?_) rfl nofun (rank_lt rfl) nofun nofun
    cases hi
    exact Nat.le_refl _
  | @inUse p i hp hport =>
    have hlast := hlaw.port_last i hport
    have hretries := h.binding p i hp hport
    refine h.advance (Nat.le_refl _) hsame (fun p' hp' => ?_) (fun p' hp' => ?_)
    · have hother : p ≠ p' := fun heq => hp' (heq ▸ rfl)
      rw [StartupSt.move_starts, StartupSt.getElem?_move hp, if_neg hother]
    · obtain rfl : p = p' := Option.some.inj hp'
      have hsteps := h.steps p _ hp
      have hagain : retries p (tr ++ [.inUse p]) = retries p tr + 1 := by
        rw [retries_snoc, if_pos rfl]
      refine ⟨.connecting .probe, ?_, ?_, nofun, nofun, ?_⟩
      · rw [StartupSt.move_starts, StartupSt.getElem?_move hp, if_pos rfl]
      · rw [hagain, StartupSt.move_servers]
        omega
      · rw [hagain, stepsOf_snoc, if_pos hp']
        simp only [StartStage.rank, Query.rank] at hsteps ⊢
        omega
  | exit | die => exact hstay rfl rfl (Nat.le_refl _) nofun
  | adbStart =>
    refine hstay rfl rfl (by simp) (fun i hi => .inr ?_)
    cases hi
    exact Nat.le_refl _
  | @stop p stage hp hlive =>
    exact h.move hp rfl (Nat.le_refl _) hsame rfl nofun (rank_lt hlive) nofun nofun

/-- The retries of each start are bounded by the servers, in every run. -/
theorem retryLaw_of_run (hadb : host.AdbLaw) (hloop : host.loopback = true)
    (hinit : s₀.Initial) (h : (startupMachine host).Run s₀ tr s) : RetryLaw tr s := by
  induction h with
  | nil =>
    have hnone : s₀.starts = [] := by obtain rfl | rfl := hinit <;> rfl
    exact ⟨fun p => Nat.zero_le _, by simp [hnone], by simp [hnone], by simp [hnone], fun p _ => rfl⟩
  | snoc hrun hs ih =>
    exact ih.step hadb hloop (serverLaw_of_run hinit hrun) (startStep_of_step hs)

/-- There are seven ranks above the first. -/
theorem rank_le (stage : StartStage) : stage.rank ≤ 7 := by
  cases hended : stage.ended with
  | false => exact (rank_lt hended).le
  | true => cases stage <;> first | exact Nat.le_refl _ | cases hended

/-- Where a start that cannot reach the server goes around. -/
def spinning : StartupSt := ⟨[.adb], some 0, false, [.connecting .probe]⟩

/-- A connection is refused, and the port is in use: the start is back where it was. -/
theorem run_spinning (hloop : host.loopback = false) :
    (startupMachine host).Run spinning [.refused 0 .probe, .inUse 0] spinning := by
  have hreach : spinning.reach host = none := by rw [StartupSt.reach, if_neg (by simp [hloop])]
  have hconnect : (startupMachine host).step spinning (.connect 0) =
      some (spinning.move 0 .binding, .refused 0 .probe) := by
    show spinning.connect host 0 = _
    rw [StartupSt.connect, hreach]
    rfl
  have hbind : (startupMachine host).step (spinning.move 0 .binding) (.bind 0) =
      some (spinning, .inUse 0) := rfl
  exact (Machine.Run.nil.snoc hconnect).snoc hbind

/-- The first start over an adb server, up to its first probe. -/
theorem launch_spinning : (startupMachine host).Run .withAdb [.launched 0] spinning :=
  .single (a := .launch) rfl

/-- It goes around as often as it likes. -/
theorem exists_run_spinning (hloop : host.loopback = false) (n : Nat) :
    ∃ tr, (startupMachine host).Run .withAdb tr spinning ∧ stepsOf 0 tr = 1 + 2 * n := by
  induction n with
  | zero => exact ⟨[.launched 0], launch_spinning, rfl⟩
  | succ n ih =>
    obtain ⟨tr, hrun, hsteps⟩ := ih
    refine ⟨_, hrun.trans (run_spinning hloop), ?_⟩
    have hround : stepsOf 0 [.refused 0 .probe, .inUse 0] = 2 := rfl
    rw [stepsOf, List.countP_append, ← stepsOf, ← stepsOf, hsteps, hround]
    omega

/-- A start ends after a number of steps that depends on the servers that came and went, whatever they
and the other starts do, if and only if the address can be reached from here. Where it cannot, a start
comes to a point from which it is refused and finds the port in use, and is at that point again. -/
theorem startup_bounded_iff (hadb : host.AdbLaw) :
    ((∀ s₀ tr s, s₀.Initial → (startupMachine host).Run s₀ tr s →
        ∀ p, stepsOf p tr ≤ 8 + 7 * s.servers.length) ↔
      host.loopback = true) ∧
    (host.loopback = false → ∃ tr s, (startupMachine host).Run .withAdb tr s ∧
      (startupMachine host).Run s [.refused 0 .probe, .inUse 0] s) := by
  refine ⟨⟨fun hbound => ?_, fun hloop s₀ tr s hinit hrun p => ?_⟩, fun hloop => ?_⟩
  · by_contra hloop
    obtain ⟨tr, hrun, hsteps⟩ := exists_run_spinning (by simpa using hloop) 8
    have hle := hbound _ tr _ (.inr rfl) hrun 0
    have hone : spinning.servers.length = 1 := rfl
    omega
  · have hlaw := retryLaw_of_run hadb hloop hinit hrun
    have hretries := hlaw.le p
    cases hp : s.starts[p]? with
    | none =>
      rw [hlaw.fresh p hp]
      omega
    | some stage =>
      have hsteps := hlaw.steps p stage hp
      have hrank := rank_le stage
      omega
  · exact ⟨_, spinning, launch_spinning, run_spinning hloop⟩

/-! ## What is left at the end -/

/-- A server or a start that ends for a reason of its own, or an adb server that is started. -/
def StartEvent.fault : StartEvent → Bool
  | .died _ | .stopped _ | .adbStarted _ => true
  | _ => false

/-- The start is on its way to the port. -/
def StartStage.tries : StartStage → Bool
  | .connecting .probe | .answered .kill _ _ | .binding => true
  | _ => false

/-- The start is on its way to have server `i` killed. -/
def StartStage.attacks (i : Nat) : StartStage → Bool
  | .connecting .kill => true
  | .asked _ j => i = j
  | .answered .probe j _ => i = j
  | _ => false

/-- A start that will not leave the port to an adb server or to nobody. -/
def Hopeful (s : StartupSt) (stage : StartStage) : Prop :=
  stage.tries = true ∨
    ∃ i, s.port = some i ∧ s.servers[i]? = some .adb ∧ stage.attacks i = true

/-- A start that may still become the daemon has not ended. -/
theorem Hopeful.not_ended {stage : StartStage} (h : Hopeful s stage) : stage.ended = false := by
  cases stage with
  | bound | running | failed =>
    obtain htries | ⟨i, -, -, hattacks⟩ := h
    · cases htries
    · cases hattacks
  | connecting | asked | answered | binding => rfl

/-- What a run without faults keeps. -/
structure TakeoverLaw (s : StartupSt) : Prop where
  daemons : ∀ (i p : Nat), s.servers[i]? = some (.daemon p) → s.starts[p]? = some (.bound i)
  exits : s.exiting = true →
    ∃ (p i : Nat) (answer : Answer), s.port = some i ∧ s.starts[p]? = some (.answered .kill i answer)
  hope : s.starts ≠ [] →
    (∃ i p, s.port = some i ∧ s.servers[i]? = some (.daemon p)) ∨
      ∃ (p : Nat) (stage : StartStage), s.starts[p]? = some stage ∧ Hopeful s stage

/-- Without a start there is nothing to show. -/
theorem takeoverLaw_of_initial (h : s₀.Initial) : TakeoverLaw s₀ := by
  obtain rfl | rfl := h
  · exact ⟨by simp [StartupSt.new], nofun, fun hne => absurd rfl hne⟩
  · refine ⟨fun i p hi => ?_, nofun, fun hne => absurd rfl hne⟩
    have hmem := List.mem_of_getElem? hi
    simp [StartupSt.withAdb] at hmem

/-- A start that is under way moves on. It may have been the last that could still become the
daemon; then another can, or there is one. -/
theorem TakeoverLaw.move (h : TakeoverLaw s) {p : Nat} {old new : StartStage}
    (hp : s.starts[p]? = some old) (hlive : old.ended = false)
    (hexits : ∀ i answer, s.port = some i → old ≠ .answered .kill i answer)
    (hhope : Hopeful s old →
      (∃ i p, s.port = some i ∧ s.servers[i]? = some (.daemon p)) ∨ Hopeful s new) :
    TakeoverLaw (s.move p new) := by
  have hstays : ∀ (p' : Nat) (stage : StartStage), s.starts[p']? = some stage → stage ≠ old →
      (s.move p new).starts[p']? = some stage := by
    intro p' stage hp' hne
    rw [StartupSt.move_starts, StartupSt.getElem?_move hp]
    split
    · rename_i heq
      subst heq
      exact absurd (Option.some.inj (hp'.symm.trans hp)) hne
    · exact hp'
  refine ⟨fun i p' hi => ?_, fun hexit => ?_, fun _ => ?_⟩
  · refine hstays p' _ (h.daemons i p' hi) ?_
    rintro rfl
    cases hlive
  · obtain ⟨p', i, answer, hport, hp'⟩ := h.exits hexit
    exact ⟨p', i, answer, hport, hstays p' _ hp' (hexits i answer hport).symm⟩
  · have hne : s.starts ≠ [] := by
      rintro hnil
      rw [hnil] at hp
      cases hp
    obtain hserves | ⟨p', stage, hp', hhopeful⟩ := h.hope hne
    · exact .inl hserves
    · -- the start that kept the hope up may be the one that moves
      by_cases heq : p = p'
      · subst heq
        cases hp.symm.trans hp'
        obtain hserves | hnew := hhope hhopeful
        · exact .inl hserves
        · refine .inr ⟨p, new, ?_, hnew⟩
          rw [StartupSt.move_starts, StartupSt.getElem?_move hp, if_pos rfl]
      · refine .inr ⟨p', stage, ?_, hhopeful⟩
        rw [StartupSt.move_starts, StartupSt.getElem?_move hp, if_neg heq]
        exact hp'

/-- One step without a fault keeps `TakeoverLaw`. Only a start that takes the port, or one that will,
lets go of what it was after. -/
theorem TakeoverLaw.step (hadb : host.AdbLaw) (h : TakeoverLaw s) (hlaw : ServerLaw host s)
    (hreached : ReachLaw host s) (hstep : StartStep host s s' e) (hfault : e.fault = false) :
    TakeoverLaw s' := by
  -- the port is held by a daemon, or by an adb server
  have hheld : ∀ {i : Nat} {stage : StartStage}, s.port = some i → stage.attacks i = true →
      (∃ i p, s.port = some i ∧ s.servers[i]? = some (.daemon p)) ∨ Hopeful s stage := by
    intro i stage hport hattacks
    have hlast := hlaw.port_last i hport
    cases hserver : s.servers[i]? with
    | none =>
      have hlen := List.getElem?_eq_none_iff.mp hserver
      omega
    | some server =>
      cases server with
      | adb => exact .inr (.inr ⟨i, hport, hserver, hattacks⟩)
      | daemon p => exact .inl ⟨i, p, hport, hserver⟩
  cases hstep with
  | launch =>
    refine ⟨fun i p hi => ?_, fun hexit => ?_, fun _ => ?_⟩
    · have hp := h.daemons i p hi
      rwa [List.getElem?_append_left (List.getElem?_eq_some_iff.mp hp).1]
    · obtain ⟨p, i, answer, hport, hp⟩ := h.exits hexit
      refine ⟨p, i, answer, hport, ?_⟩
      rwa [List.getElem?_append_left (List.getElem?_eq_some_iff.mp hp).1]
    · exact .inr ⟨s.starts.length, _, List.getElem?_concat_length, .inl rfl⟩
  | @connect p i q hp hreach =>
    exact h.move hp rfl nofun fun _ => hheld (reach_eq_some hreach) (by simp [StartStage.attacks])
  | refused hp hreach => exact h.move hp rfl nofun fun _ => .inr (.inl rfl)
  | unkilled hp hreach =>
    refine h.move hp rfl nofun fun hhopeful => ?_
    obtain htries | ⟨i, hport, -⟩ := hhopeful
    · cases htries
    · -- an adb server has answered this start, so the address can be reached
      have hloop := hreached _ _ hp (.inr rfl)
      rw [reach_eq_none hloop hreach] at hport
      cases hport
  | @serve p i q server hp hserver hport =>
    cases q with
    | probe =>
      have hlives : (host.answer .probe server).exits = false := by
        cases server with
        | adb => exact hadb.probe_lives
        | daemon => rw [Host.answer, daemonAnswer_probe]
      have hmove : TakeoverLaw (s.move p (.answered .probe i (host.answer .probe server))) :=
        h.move hp rfl nofun fun _ => hheld hport (by simp [StartStage.attacks])
      rw [hlives, Bool.or_false]
      exact ⟨hmove.daemons, hmove.exits, hmove.hope⟩
    | kill =>
      have hmove : TakeoverLaw (s.move p (.answered .kill i (host.answer .kill server))) :=
        h.move hp rfl nofun fun _ => .inr (.inl rfl)
      refine ⟨hmove.daemons, fun _ => ⟨p, i, host.answer .kill server, hport, ?_⟩, hmove.hope⟩
      rw [StartupSt.move_starts, StartupSt.getElem?_move hp, if_pos rfl]
  | @finish p i q answer hp hdone =>
    obtain ⟨server, hserver, rfl⟩ := hlaw.answers p q i _ hp
    cases q with
    | probe =>
      refine h.move hp rfl nofun fun hhopeful => ?_
      obtain htries | ⟨j, hport, hj, hattacks⟩ := hhopeful
      · cases htries
      · obtain rfl : j = i := by simpa [StartStage.attacks] using hattacks
        cases hj.symm.trans hserver
        rw [Host.answer, hadb.probe]
        exact hheld hport rfl
    | kill =>
      have hkill := answer_kill hadb server
      rw [hkill] at hdone hp ⊢
      have hgone := gone_of_killed hdone
      refine h.move hp rfl (fun j answer hport heq => ?_) fun _ => .inr (.inl rfl)
      cases heq
      exact hgone hport
  | @lose p i q hp hport =>
    refine h.move hp rfl nofun fun hhopeful => ?_
    obtain htries | ⟨j, hj, -, hattacks⟩ := hhopeful
    · cases htries
    · obtain rfl : j = i := by simpa [StartStage.attacks] using hattacks
      exact absurd hj hport
  | @bind p hp hport =>
    refine ⟨fun i p' hi => ?_, nofun, fun _ => .inl ⟨s.servers.length, p, rfl, by simp⟩⟩
    rw [StartupSt.move_starts, StartupSt.listen_starts, StartupSt.getElem?_move hp]
    rw [StartupSt.move_servers, StartupSt.listen_servers, List.getElem?_append] at hi
    split at hi
    · have hp' := h.daemons i p' hi
      have hne : p ≠ p' := by
        rintro rfl
        cases hp.symm.trans hp'
      rw [if_neg hne, hp']
    · rename_i hlast
      obtain ⟨hzero, hdaemon⟩ := List.getElem?_eq_some_iff.mp hi
      simp only [List.length_singleton] at hzero
      obtain rfl : i = s.servers.length := by omega
      obtain rfl : p = p' := by simpa using hdaemon
      rw [if_pos rfl]
  | inUse hp hport => exact h.move hp rfl nofun fun _ => .inr (.inl rfl)
  | exit hexit hport =>
    refine ⟨h.daemons, nofun, fun _ => ?_⟩
    obtain ⟨p, i, answer, -, hp⟩ := h.exits hexit
    exact .inr ⟨p, _, hp, .inl rfl⟩
  | die | adbStart | stop => cases hfault

/-- Every run without faults keeps `TakeoverLaw`. -/
theorem takeoverLaw_of_run (hadb : host.AdbLaw) (hinit : s₀.Initial)
    (h : (startupMachine host).Run s₀ tr s) (hfault : ∀ e ∈ tr, e.fault = false) :
    TakeoverLaw s := by
  induction h with
  | nil => exact takeoverLaw_of_initial hinit
  | snoc hrun hs ih =>
    rw [List.forall_mem_append] at hfault
    exact (ih hfault.1).step hadb (serverLaw_of_run hinit hrun) (reachLaw_of_run hinit hrun)
      (startStep_of_step hs) (hfault.2 _ (List.mem_singleton_self _))

/-- Once all starts have ended, one of them has become the daemon that holds the port, and nobody has
told it to exit: however the starts overlap, and though they may have killed each other's daemons on
the way. -/
theorem takeover_serves (hadb : host.AdbLaw) (hinit : s₀.Initial)
    (h : (startupMachine host).Run s₀ tr s) (hfault : ∀ e ∈ tr, e.fault = false)
    (hstarts : s.starts ≠ []) (hended : ∀ stage ∈ s.starts, stage.ended = true) :
    ∃ p i, s.port = some i ∧ s.servers[i]? = some (.daemon p) ∧ s.starts[p]? = some (.bound i) ∧
      s.exiting = false := by
  have hlaw := takeoverLaw_of_run hadb hinit h hfault
  have hexiting : s.exiting = false := by
    by_contra hexit
    obtain ⟨p, i, answer, -, hp⟩ := hlaw.exits (by simpa using hexit)
    cases hended _ (List.mem_of_getElem? hp)
  obtain ⟨i, p, hport, hserver⟩ | ⟨p, stage, hp, hhopeful⟩ := hlaw.hope hstarts
  · exact ⟨p, i, hport, hserver, hlaw.daemons i p hserver, hexiting⟩
  · have hend := hended stage (List.mem_of_getElem? hp)
    rw [hhopeful.not_ended] at hend
    cases hend

/-! ## Without an adb server -/

/-- What a run without faults and adb servers keeps. -/
structure LoneLaw (tr : List StartEvent) (s : StartupSt) : Prop where
  daemons : ∀ server ∈ s.servers, server ≠ .adb
  le_one : s.servers.length ≤ 1
  held : s.servers ≠ [] → s.port = some 0
  stays : s.exiting = false
  stages : ∀ stage ∈ s.starts, stage.query? ≠ some .kill ∧ ∀ err, stage ≠ .failed err
  unkilled : ∀ p i, .served p .kill i ∉ tr

/-- A start that moves without `host:kill` and without a failure. -/
theorem LoneLaw.move (h : LoneLaw tr s) {p : Nat} {new : StartStage}
    (hquery : new.query? ≠ some .kill) (hok : ∀ err, new ≠ .failed err)
    (he : ∀ p i, e ≠ .served p .kill i) : LoneLaw (tr ++ [e]) (s.move p new) := by
  refine ⟨h.daemons, h.le_one, h.held, h.stays, fun stage hstage => ?_, fun p' i hmem => ?_⟩
  · obtain hold | rfl := List.mem_or_eq_of_mem_set hstage
    · exact h.stages stage hold
    · exact ⟨hquery, hok⟩
  · obtain hold | hlast := List.mem_append.mp hmem
    · exact h.unkilled p' i hold
    · exact he p' i (List.mem_singleton.mp hlast).symm

/-- No step of a start on a free port leads to `host:kill` or to a failure. -/
theorem LoneLaw.step (h : LoneLaw tr s) (hlaw : ServerLaw host s) (hstep : StartStep host s s' e)
    (hfault : e.fault = false) : LoneLaw (tr ++ [e]) s' := by
  -- without a fault nobody ever sends `host:kill`
  have hprobe : ∀ {p : Nat} {stage : StartStage} {q : Query}, s.starts[p]? = some stage →
      stage.query? = some q → q = .probe := by
    intro p stage q hp hq
    cases q with
    | probe => rfl
    | kill => exact absurd hq (h.stages stage (List.mem_of_getElem? hp)).1
  have hanswer : ∀ {i : Nat} {server : Server}, s.servers[i]? = some server →
      host.answer .probe server = ⟨toBytes "OKAY", false⟩ := by
    intro i server hi
    cases server with
    | adb => exact absurd rfl (h.daemons _ (List.mem_of_getElem? hi))
    | daemon => exact daemonAnswer_probe
  cases hstep with
  | launch =>
    refine ⟨h.daemons, h.le_one, h.held, h.stays, fun stage hstage => ?_, fun p i hmem => ?_⟩
    · obtain hold | hnew := List.mem_append.mp hstage
      · exact h.stages stage hold
      · obtain rfl := List.mem_singleton.mp hnew
        exact ⟨nofun, nofun⟩
    · obtain hold | hlast := List.mem_append.mp hmem
      · exact h.unkilled p i hold
      · cases List.mem_singleton.mp hlast
  | connect hp hreach =>
    obtain rfl := hprobe hp rfl
    exact h.move nofun nofun nofun
  | refused hp hreach => exact h.move nofun nofun nofun
  | unkilled hp hreach => cases hprobe hp rfl
  | @serve p i q server hp hserver hport =>
    obtain rfl := hprobe hp rfl
    have hmove : LoneLaw (tr ++ [.served p .probe i])
        (s.move p (.answered .probe i ⟨toBytes "OKAY", false⟩)) := h.move nofun nofun nofun
    rw [hanswer hserver, Bool.or_false]
    exact ⟨hmove.daemons, hmove.le_one, hmove.held, hmove.stays, hmove.stages, hmove.unkilled⟩
  | @finish p i q answer hp hdone =>
    obtain rfl := hprobe hp rfl
    obtain ⟨server, hserver, rfl⟩ := hlaw.answers p .probe i _ hp
    rw [hanswer hserver, runService_okay]
    exact h.move nofun nofun nofun
  | @lose p i q hp hport =>
    -- the only server there has been still holds the port
    have hlt := hlaw.asked p _ i hp rfl
    have hone := h.le_one
    have hheld := h.held (List.ne_nil_of_length_pos (by omega))
    obtain rfl : i = 0 := by omega
    exact absurd hheld hport
  | @bind p hp hport =>
    -- the port was free, so no daemon had been started yet
    have hnil : s.servers = [] := by
      by_contra hne
      cases hport.symm.trans (h.held hne)
    have hmove : LoneLaw (tr ++ [.bound p s.servers.length]) (s.move p (.bound s.servers.length)) :=
      h.move nofun nofun nofun
    refine ⟨fun server hserver => ?_, ?_, fun _ => ?_, rfl, hmove.stages, hmove.unkilled⟩
    · simp only [StartupSt.move_servers, StartupSt.listen_servers, hnil, List.nil_append,
        List.mem_singleton] at hserver
      rw [hserver]
      exact nofun
    · simp [hnil]
    · simp [hnil]
  | inUse hp hport => exact h.move nofun nofun nofun
  | exit hexit hport =>
    rw [h.stays] at hexit
    cases hexit
  | die | adbStart | stop => cases hfault

/-- Where no adb server comes up and nothing ends for a reason of its own, one daemon at most ever
listens, nobody is told to exit, and no start fails. -/
theorem lone_daemon (h : (startupMachine host).Run .new tr s) (hfault : ∀ e ∈ tr, e.fault = false) :
    s.servers.length ≤ 1 ∧ (∀ p i, .served p .kill i ∉ tr) ∧
      ∀ stage ∈ s.starts, ∀ err, stage ≠ .failed err := by
  have hlaw : LoneLaw tr s := by
    induction h with
    | nil =>
      exact ⟨nofun, Nat.zero_le _, fun hne => absurd rfl hne, rfl, nofun, fun _ _ => List.not_mem_nil⟩
    | snoc hrun hs ih =>
      rw [List.forall_mem_append] at hfault
      exact (ih hfault.1).step (serverLaw_of_run (.inl rfl) hrun) (startStep_of_step hs)
        (hfault.2 _ (List.mem_singleton_self _))
  exact ⟨hlaw.le_one, hlaw.unkilled, fun stage hstage => (hlaw.stages stage hstage).2⟩

end

/-! ## Two starts at once -/

/-- A host with an adb server that says `FAIL` and its reason to the probe. -/
def adbHost : Host where
  adb
    | .probe => ⟨failFrames "unknown host service" |>.flatMap Frame.encode, false⟩
    | .kill => ⟨toBytes "OKAY", true⟩
  loopback := true

/-- The adb server of the witnesses is as documented. -/
theorem adbLaw_adbHost : adbHost.AdbLaw := ⟨by decide, rfl, rfl⟩

/-- Both starts hear from the adb server; one of them replaces it before the other has it killed. -/
def overtaken : List StartAct :=
  [.launch, .launch, .connect 0, .connect 1, .serve 0, .serve 1, .finish 0, .finish 1,
    .connect 0, .serve 0, .exit, .finish 0, .bind 0, .connect 1]

/-- The second start has heard the refusal from the adb server, and sends `host:kill` to the daemon
of the first. -/
theorem heard_of_kill_overtaken :
    ∃ tr s, (startupMachine adbHost).Run .withAdb tr s ∧ s.servers = [.adb, .daemon 0] ∧
      ∃ j ≤ 1, s.servers[j]? = some .adb ∧ .heard 1 .probe j (some false) ∈ tr := by
  obtain ⟨s, tr, hrun, htest⟩ := Machine.exists_run_of_exec (M := startupMachine adbHost)
    (s := .withAdb) overtaken
    (fun s _ => s = ⟨[.adb, .daemon 0], some 1, false, [.bound 1, .asked .kill 1]⟩) (by decide)
  obtain rfl := of_decide_eq_true htest
  have hstep : ∃ s', (startupMachine adbHost).step
      ⟨[.adb, .daemon 0], some 1, false, [.bound 1, .asked .kill 1]⟩ (.serve 1) =
        some (s', .served 1 .kill 1) := ⟨_, rfl⟩
  obtain ⟨s', hserved⟩ := hstep
  exact ⟨tr, _, hrun, rfl, heard_of_kill (.inr rfl) hrun hserved⟩

/-- The bound holds on that host, and not on one whose address cannot be reached. -/
theorem startup_bounded_iff_adbHost :
    (∀ s₀ tr s, s₀.Initial → (startupMachine adbHost).Run s₀ tr s →
        ∀ p, stepsOf p tr ≤ 8 + 7 * s.servers.length) ∧
      ∃ tr s, (startupMachine { adbHost with loopback := false }).Run .withAdb tr s ∧
        (startupMachine { adbHost with loopback := false }).Run s [.refused 0 .probe, .inUse 0] s := by
  have hadb : Host.AdbLaw { adbHost with loopback := false } := ⟨by decide, rfl, rfl⟩
  exact ⟨(startup_bounded_iff adbLaw_adbHost).1.mpr rfl, (startup_bounded_iff hadb).2 rfl⟩

/-- The daemon of the first start is killed, and the second becomes the daemon. -/
theorem takeover_serves_overtaken :
    ∃ s : StartupSt, s.starts = [.bound 1, .bound 2] ∧ ∃ p i, s.port = some i ∧
      s.servers[i]? = some (.daemon p) ∧ s.starts[p]? = some (.bound i) ∧ s.exiting = false := by
  obtain ⟨s, tr, hrun, htest⟩ := Machine.exists_run_of_exec (M := startupMachine adbHost)
    (s := .withAdb) (overtaken ++ [.serve 1, .exit, .finish 1, .bind 1])
    (fun s tr => s.starts = [.bound 1, .bound 2] ∧ ∀ e ∈ tr, e.fault = false) (by decide)
  obtain ⟨hstarts, hfault⟩ := of_decide_eq_true htest
  refine ⟨s, hstarts, takeover_serves adbLaw_adbHost (.inr rfl) hrun hfault ?_ ?_⟩
  · rw [hstarts]
    exact List.cons_ne_nil _ _
  · rw [hstarts]
    decide

/-- Two starts find the port free, and one of them binds it first. -/
theorem lone_daemon_raced :
    ∃ tr s, (startupMachine adbHost).Run .new tr s ∧ s.starts = [.bound 0, .running] ∧
      s.servers.length ≤ 1 ∧ (∀ p i, .served p .kill i ∉ tr) ∧
      ∀ stage ∈ s.starts, ∀ err, stage ≠ .failed err := by
  obtain ⟨s, tr, hrun, htest⟩ := Machine.exists_run_of_exec (M := startupMachine adbHost) (s := .new)
    [.launch, .launch, .connect 0, .connect 1, .bind 0, .bind 1, .connect 1, .serve 1, .finish 1]
    (fun s tr => s.starts = [.bound 0, .running] ∧ ∀ e ∈ tr, e.fault = false) (by decide)
  obtain ⟨hstarts, hfault⟩ := of_decide_eq_true htest
  exact ⟨tr, s, hrun, hstarts, lone_daemon hrun hfault⟩

end AdbDaemon.Daemon
