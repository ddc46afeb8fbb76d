import AdbDaemon.Connections.Manager

/-!
# The manager's calls under way

Reference: `new_connection` and `remove_closed_connections` of `src/connection/manager.rs`.

The calls of `AdbDaemon.Connections.Manager`, cut at every access to a shared table and at every
broadcast; several `new_connection` calls may be under way, and one pass, as there is one task that
makes them. The tables are sharded, so an iteration is no single step: it visits the keys one at a
time and is bound to visit those that were there when it began (`Scan`).

An update is broadcast after the change it announces. `Current` says that an observer of `by_serial`
has missed nothing but the changes of calls whose update is still to come; a step without a
broadcast keeps it.
-/

namespace AdbDaemon.Connections

open Common

/-- What `device_updates` broadcasts. -/
inductive DeviceUpdate where
  | added (c : Connection)
  | removed (c : Connection)

/-- An iteration over `by_serial`. -/
structure Scan where
  start : List String
  visited : List String

namespace Scan

/-- The keys the iteration still has to visit. -/
def Owes (scan : Scan) (k : String) : Prop := k ∈ scan.start ∧ k ∉ scan.visited

def visit (scan : Scan) (k : String) : Scan := { scan with visited := k :: scan.visited }

def done (scan : Scan) : Bool := scan.start.all fun k => decide (k ∈ scan.visited)

theorem owes_visit {scan : Scan} {k k' : String} :
    (scan.visit k).Owes k' ↔ scan.Owes k' ∧ k' ≠ k := by
  simp only [Owes, visit, List.mem_cons, not_or]
  tauto

/-- An iteration that is done owes nothing. -/
theorem not_owes_of_done {scan : Scan} (h : scan.done = true) (k : String) : ¬ scan.Owes k := by
  rintro ⟨hstart, hvisited⟩
  exact hvisited (by simpa using List.all_eq_true.mp h k hstart)

end Scan

/-- How far a `new_connection` call has come. -/
inductive CallPhase where
  | created
  | inBySerial
  | inById
deriving DecidableEq

/-- A `new_connection` call under way. -/
structure NewCall where
  conn : Connection
  phase : CallPhase

/-- A `remove_closed_connections` pass under way. -/
inductive Pass where
  | retaining (scan : Scan) (removed : List Connection)
  /-- The loop over the removed connections; `erased` if the first one has left `by_id`. -/
  | announcing (erased : Bool) (removed : List Connection)

/-- The connections taken out of `by_serial` and not yet announced as removed. -/
def Pass.removed : Pass → List Connection
  | .retaining _ removed => removed
  | .announcing _ removed => removed

/-- The manager with the calls and the pass that are under way. -/
structure MgrTasks where
  mgr : ConnectionMgr
  calls : List NewCall
  pass : Option Pass

/-- The steps of the tasks: between two of them any other task may run. -/
inductive TaskAct where
  | alloc (serial : String)
  /-- The handshake at `i` is done, and `new_connection` is called. -/
  | beginCall (i : Nat) (banner : Banner)
  | insertBySerial (j : Nat)
  | insertById (j : Nat)
  | sendAdded (j : Nat)
  | close (id : Nat)
  | beginPass
  | retain (k : String)
  | endRetain
  | removeById
  | sendRemoved
  | endPass

namespace MgrTasks

/-- No call and no pass is under way. -/
def new : MgrTasks where
  mgr := ConnectionMgr.new
  calls := []
  pass := none

/-- Begin an iteration over `by_serial`. -/
def scan (t : MgrTasks) : Scan := ⟨t.mgr.bySerial.keys, []⟩

/-- One step, with the update it broadcasts. -/
def step (t : MgrTasks) : TaskAct → Option (MgrTasks × Option DeviceUpdate)
  | .alloc serial => some ({ t with mgr := (t.mgr.alloc serial).2 }, none)
  | .beginCall i banner =>
    match t.mgr.handshakes[i]? with
    | none => none
    | some conn =>
      some ({ t with
        mgr := { t.mgr with handshakes := t.mgr.handshakes.eraseIdx i }
        calls := t.calls ++ [⟨conn.create banner, .created⟩] }, none)
  -- `new_connection` takes the locks one after the other, so other tasks run between them
  | .insertBySerial j =>
    match t.calls[j]? with
    | some ⟨c, .created⟩ =>
      some ({ t with mgr := t.mgr.insertBySerial c, calls := t.calls.set j ⟨c, .inBySerial⟩ }, none)
    | _ => none
  | .insertById j =>
    match t.calls[j]? with
    | some ⟨c, .inBySerial⟩ =>
      some ({ t with mgr := t.mgr.insertById c, calls := t.calls.set j ⟨c, .inById⟩ }, none)
    | _ => none
  | .sendAdded j =>
    match t.calls[j]? with
    | some ⟨c, .inById⟩ => some ({ t with calls := t.calls.eraseIdx j }, some (.added c))
    | _ => none
  | .close id =>
    if id < t.mgr.nextId then
      some ({ t with mgr := { t.mgr with closed := id :: t.mgr.closed } }, none)
    else none
  | .beginPass =>
    match t.pass with
    | none => some ({ t with pass := some (.retaining t.scan []) }, none)
    | some _ => none
  | .retain k =>
    match t.pass with
    | some (.retaining scan removed) =>
      if k ∈ scan.visited then none
      else
        match (t.mgr.bySerial.lookup k).filter t.mgr.isClosed with
        | some c =>
          some ({ t with
            mgr := { t.mgr with bySerial := t.mgr.bySerial.erase k }
            pass := some (.retaining (scan.visit k) (removed ++ [c])) }, none)
        | none => some ({ t with pass := some (.retaining (scan.visit k) removed) }, none)
    | _ => none
  | .endRetain =>
    match t.pass with
    | some (.retaining scan removed) =>
      if scan.done then some ({ t with pass := some (.announcing false removed) }, none) else none
    | _ => none
  -- for each removed connection: first out of `by_id`, then the update
  | .removeById =>
    match t.pass with
    | some (.announcing false (c :: removed)) =>
      some ({ t with
        mgr := { t.mgr with byId := t.mgr.byId.erase c.id }
        pass := some (.announcing true (c :: removed)) }, none)
    | _ => none
  | .sendRemoved =>
    match t.pass with
    | some (.announcing true (c :: removed)) =>
      some ({ t with pass := some (.announcing false removed) }, some (.removed c))
    | _ => none
  | .endPass =>
    match t.pass with
    | some (.announcing false []) => some ({ t with pass := none }, none)
    | _ => none

/-- `c` is in `by_serial` for a `new_connection` that has not announced it yet. -/
def Arriving (t : MgrTasks) (c : Connection) : Prop :=
  ∃ call ∈ t.calls, call.conn = c ∧ call.phase ≠ .created

/-- `c` was taken out of `by_serial` by a pass that has not announced it yet. -/
def Leaving (t : MgrTasks) (c : Connection) : Prop := ∃ pass, t.pass = some pass ∧ c ∈ pass.removed

/-- The entries of `by_serial` are under their serials. -/
def Keyed (t : MgrTasks) : Prop := ∀ k c, t.mgr.bySerial.lookup k = some c → c.serial = k

/-- What a step that broadcasts nothing does to the connections that an observer may see. -/
structure Silent (t t' : MgrTasks) : Prop where
  closed : ∀ id ∈ t.mgr.closed, id ∈ t'.mgr.closed
  arriving : ∀ c, t.Arriving c → t'.Arriving c
  leaving : ∀ c, t.Leaving c → t'.Leaving c
  /-- An entry that comes is arriving, and one that goes is leaving or overwritten. -/
  bySerial : t'.mgr.bySerial = t.mgr.bySerial ∨
    (∃ c, t'.Arriving c ∧ t'.mgr.bySerial = t.mgr.bySerial.insert c.serial c) ∨
    (∃ k c, t.mgr.bySerial.lookup k = some c ∧ t'.Leaving c ∧
      t'.mgr.bySerial = t.mgr.bySerial.erase k)

variable {t t' : MgrTasks}

/-- A call that goes on is still there, in its next phase. -/
theorem mem_calls_set {calls : List NewCall} {j : Nat} {c : Connection} {phase phase' : CallPhase}
    (hj : calls[j]? = some ⟨c, phase⟩) : ⟨c, phase'⟩ ∈ calls.set j ⟨c, phase'⟩ := by
  obtain ⟨hlt, -⟩ := List.getElem?_eq_some_iff.mp hj
  exact List.mem_iff_getElem?.mpr ⟨j, by rw [List.getElem?_set_self hlt]⟩

/-- A call that goes on keeps what is arriving. -/
theorem arriving_set {mgr : ConnectionMgr} {j : Nat} {c d : Connection} {phase phase' : CallPhase}
    (hj : t.calls[j]? = some ⟨c, phase⟩) (hphase : phase' ≠ .created) (hd : t.Arriving d) :
    Arriving { t with mgr := mgr, calls := t.calls.set j ⟨c, phase'⟩ } d := by
  obtain ⟨call, hcall, rfl, hp⟩ := hd
  obtain ⟨i, hi⟩ := List.mem_iff_getElem?.mp hcall
  by_cases hij : i = j
  · subst hij
    obtain rfl : call = ⟨c, phase⟩ := Option.some.inj (hi.symm.trans hj)
    exact ⟨⟨c, phase'⟩, mem_calls_set hj, rfl, hphase⟩
  · refine ⟨call, List.mem_iff_getElem?.mpr ⟨i, ?_⟩, rfl, hp⟩
    rw [List.getElem?_set_ne (Ne.symm hij), hi]

/-- The pass goes on, and what it had removed is still to be announced. -/
theorem leaving_of_pass {mgr : ConnectionMgr} {pass pass' : Pass} (hpass : t.pass = some pass)
    (hsub : pass.removed ⊆ pass'.removed) {c : Connection} (hc : t.Leaving c) :
    Leaving { t with mgr := mgr, pass := some pass' } c := by
  obtain ⟨p, hp, hmem⟩ := hc
  obtain rfl : pass = p := Option.some.inj (hpass.symm.trans hp)
  exact ⟨pass', rfl, hsub hmem⟩

/-- What each step without a broadcast can do, case by case: it closes connections, begins calls, or
changes one entry of the table on behalf of a call or a pass that has yet to broadcast. -/
theorem silent_of_step {a : TaskAct} (h : t.step a = some (t', none)) : t.Silent t' := by
  cases a with
  | alloc serial =>
    cases h
    exact ⟨fun _ h => h, fun _ h => h, fun _ h => h, .inl rfl⟩
  | beginCall i banner =>
    simp only [step] at h
    split at h
    · exact absurd h (by simp)
    · cases h
      refine ⟨fun _ h => h, ?_, fun _ h => h, .inl rfl⟩
      rintro c ⟨call, hcall, hc⟩
      exact ⟨call, List.mem_append_left _ hcall, hc⟩
  | insertBySerial j =>
    simp only [step] at h
    split at h
    · rename_i c hj
      cases h
      refine ⟨fun _ h => h, fun _ => arriving_set hj (by simp), fun _ h => h,
        .inr (.inl ⟨c, ?_, rfl⟩)⟩
      exact ⟨_, mem_calls_set hj, rfl, by simp⟩
    · exact absurd h (by simp)
  | insertById j =>
    simp only [step] at h
    split at h
    · rename_i c hj
      cases h
      exact ⟨fun _ h => h, fun _ => arriving_set hj (by simp), fun _ h => h, .inl rfl⟩
    · exact absurd h (by simp)
  | sendAdded j =>
    simp only [step] at h
    split at h <;> simp at h
  | close id =>
    simp only [step] at h
    split at h
    · cases h
      exact ⟨fun _ h => List.mem_cons_of_mem _ h, fun _ h => h, fun _ h => h, .inl rfl⟩
    · exact absurd h (by simp)
  | beginPass =>
    simp only [step] at h
    split at h
    · rename_i hpass
      cases h
      refine ⟨fun _ h => h, fun _ h => h, ?_, .inl rfl⟩
      rintro c ⟨p, hp, -⟩
      rw [hpass] at hp
      exact absurd hp (by simp)
    · exact absurd h (by simp)
  | retain k =>
    simp only [step] at h
    split at h
    · rename_i scan removed hpass
      split at h
      · exact absurd h (by simp)
      · split at h
        · -- `retain` drops the entry, and its removal is announced after the pass
          rename_i c hc
          cases h
          refine ⟨fun _ h => h, fun _ h => h,
            fun _ => leaving_of_pass hpass (by simp [Pass.removed]),
            .inr (.inr ⟨k, c, (Option.filter_eq_some_iff.mp hc).1, ?_, rfl⟩)⟩
          exact ⟨_, rfl, by simp [Pass.removed]⟩
        · cases h
          exact ⟨fun _ h => h, fun _ h => h,
            fun _ => leaving_of_pass hpass (by simp [Pass.removed]), .inl rfl⟩
    · exact absurd h (by simp)
  | endRetain =>
    simp only [step] at h
    split at h
    · rename_i scan removed hpass
      split at h
      · cases h
        exact ⟨fun _ h => h, fun _ h => h, fun _ => leaving_of_pass hpass (by simp [Pass.removed]),
          .inl rfl⟩
      · exact absurd h (by simp)
    · exact absurd h (by simp)
  | removeById =>
    simp only [step] at h
    split at h
    · rename_i c removed hpass
      cases h
      exact ⟨fun _ h => h, fun _ h => h, fun _ => leaving_of_pass hpass (by simp [Pass.removed]),
        .inl rfl⟩
    · exact absurd h (by simp)
  | sendRemoved =>
    simp only [step] at h
    split at h <;> simp at h
  | endPass =>
    simp only [step] at h
    split at h
    · rename_i hpass
      cases h
      refine ⟨fun _ h => h, fun _ h => h, ?_, .inl rfl⟩
      rintro c ⟨p, hp, hc⟩
      obtain rfl := Option.some.inj (hpass.symm.trans hp)
      exact absurd hc (by simp [Pass.removed])
    · exact absurd h (by simp)

/-- A broadcast leaves the tables as they are: each of them was changed before, in a step of its
own. -/
theorem mgr_of_broadcast {a : TaskAct} {update : DeviceUpdate}
    (h : t.step a = some (t', some update)) :
    t'.mgr = t.mgr := by
  cases a with
  | sendAdded j =>
    simp only [step] at h
    split at h
    · cases h
      rfl
    · exact absurd h (by simp)
  | sendRemoved =>
    simp only [step] at h
    split at h
    · cases h
      rfl
    · exact absurd h (by simp)
  | alloc serial => simp [step] at h
  | retain k =>
    simp only [step] at h
    split at h
    · split at h
      · exact absurd h (by simp)
      · split at h <;> simp at h
    · exact absurd h (by simp)
  | _ =>
    simp only [step] at h
    split at h <;> simp at h

/-- Connections are entered under their own serials only. -/
theorem Keyed.step (h : t.Keyed) {a : TaskAct} {update : Option DeviceUpdate}
    (hs : t.step a = some (t', update)) : t'.Keyed := by
  intro k c hk
  cases update with
  | some u =>
    rw [mgr_of_broadcast hs] at hk
    exact h k c hk
  | none =>
    rcases (silent_of_step hs).bySerial with heq | ⟨d, -, heq⟩ | ⟨k', d, -, -, heq⟩
    · rw [heq] at hk
      exact h k c hk
    · rw [heq] at hk
      rcases Table.lookup_insert_eq_some.mp hk with ⟨rfl, rfl⟩ | ⟨-, hold⟩
      · rfl
      · exact h k c hold
    · rw [heq] at hk
      exact h k c (Table.lookup_erase_eq_some.mp hk).2

/-! ## Observers -/

/-- An observer that found the connections `found` and has yet to look at the keys in `owes` is up
to date, except for updates to come: it has every open connection but those arriving, and what it
has is in `by_serial`, overwritten by an arriving connection, or leaving. -/
structure Current (t : MgrTasks) (owes : String → Prop) (found : List Connection) : Prop where
  complete : ∀ k c, t.mgr.bySerial.lookup k = some c → t.mgr.isClosed c = false →
    owes k ∨ c ∈ found ∨ t.Arriving c
  sound : ∀ c ∈ found, t.mgr.bySerial.lookup c.serial = some c ∨
    (∃ d, t.Arriving d ∧ d.serial = c.serial) ∨ t.Leaving c

/-- An iteration that begins is up to date. -/
theorem Current.begin (t : MgrTasks) : t.Current t.scan.Owes [] where
  complete k c hk _ := by
    refine .inl ⟨?_, by simp [scan]⟩
    exact AList.lookup_isSome.mp (by simp [hk])
  sound := by simp

/-- Look at one key. -/
theorem Current.visit {scan : Scan} {found : List Connection} (hkeyed : t.Keyed)
    (h : t.Current scan.Owes found) (k : String) :
    t.Current (scan.visit k).Owes (found ++ (t.mgr.get k).toList) where
  complete k' c hk' hopen := by
    by_cases hk : k' = k
    · subst hk
      refine .inr (.inl (List.mem_append_right _ ?_))
      simp [ConnectionMgr.get, hk', Option.filter_some, ConnectionMgr.connectionFilter, hopen]
    · rcases h.complete k' c hk' hopen with howes | hfound | harr
      · exact .inl (Scan.owes_visit.mpr ⟨howes, hk⟩)
      · exact .inr (.inl (List.mem_append_left _ hfound))
      · exact .inr (.inr harr)
  sound c hc := by
    rcases List.mem_append.mp hc with hold | hnew
    · exact h.sound c hold
    · left
      have hlookup : t.mgr.bySerial.lookup k = some c := by
        rw [Option.mem_toList, ConnectionMgr.get] at hnew
        exact (Option.filter_eq_some_iff.mp hnew).1
      rw [hkeyed k c hlookup]
      exact hlookup

/-- Whoever owes nothing keeps that. -/
theorem Current.done {scan : Scan} {found : List Connection} (h : t.Current scan.Owes found)
    (hdone : scan.done = true) : t.Current (fun _ => False) found where
  complete k c hk hopen := (h.complete k c hk hopen).imp_left (Scan.not_owes_of_done hdone k)
  sound := h.sound

/-- A step that broadcasts nothing keeps an observer up to date: what it changes in the table is
still to be announced by the call or the pass that changed it. -/
theorem Current.step {owes : String → Prop} {found : List Connection} (h : t.Current owes found)
    (hs : t.Silent t') : t'.Current owes found := by
  have hopen : ∀ c, t'.mgr.isClosed c = false → t.mgr.isClosed c = false := by
    intro c hc
    simp only [ConnectionMgr.isClosed, decide_eq_false_iff_not] at hc ⊢
    exact fun hmem => hc (hs.closed _ hmem)
  have hcomplete : ∀ k c, t.mgr.bySerial.lookup k = some c → t'.mgr.isClosed c = false →
      owes k ∨ c ∈ found ∨ t'.Arriving c := fun k c hk hc =>
    (h.complete k c hk (hopen c hc)).imp_right (Or.imp_right (hs.arriving c))
  have hsound : ∀ c ∈ found, t.mgr.bySerial.lookup c.serial = some c ∨
      (∃ d, t'.Arriving d ∧ d.serial = c.serial) ∨ t'.Leaving c := by
    intro c hc
    rcases h.sound c hc with hk | ⟨d, hd, hserial⟩ | hleave
    · exact .inl hk
    · exact .inr (.inl ⟨d, hs.arriving d hd, hserial⟩)
    · exact .inr (.inr (hs.leaving c hleave))
  -- the table is as before, or a call has put `d` in, or a pass has taken `d` out
  rcases hs.bySerial with heq | ⟨d, hd, heq⟩ | ⟨k', d, hlookup, hd, heq⟩
  · rw [← heq] at hcomplete hsound
    exact ⟨hcomplete, hsound⟩
  · constructor
    · intro k c hk hc
      rw [heq] at hk
      rcases Table.lookup_insert_eq_some.mp hk with ⟨rfl, rfl⟩ | ⟨-, hold⟩
      · exact .inr (.inr hd)
      · exact hcomplete k c hold hc
    · intro c hc
      rcases hsound c hc with hk | hrest
      · by_cases hserial : d.serial = c.serial
        · -- displaced: the call that did so has yet to announce its own device
          exact .inr (.inl ⟨d, hd, hserial⟩)
        · left
          rw [heq, AList.lookup_insert_ne (Ne.symm hserial)]
          exact hk
      · exact .inr hrest
  · constructor
    · intro k c hk hc
      rw [heq] at hk
      exact hcomplete k c (Table.lookup_erase_eq_some.mp hk).2 hc
    · intro c hc
      rcases hsound c hc with hk | hrest
      · by_cases hserial : c.serial = k'
        · rw [hserial, hlookup] at hk
          obtain rfl := Option.some.inj hk
          -- removed: the pass has yet to announce it
          exact .inr (.inr hd)
        · left
          rw [heq, AList.lookup_erase_ne hserial]
          exact hk
      · exact .inr hrest

/-- With no call under way and every closed connection removed, an observer that owes nothing has
found the connections that `iter` yields. -/
theorem Current.eq_iter {found : List Connection} (h : t.Current (fun _ => False) found)
    (hcalls : t.calls = []) (hpass : t.pass = none)
    (hclosed : ∀ c ∈ Table.values t.mgr.bySerial, t.mgr.isClosed c = false) (c : Connection) :
    c ∈ found ↔ c ∈ t.mgr.iter := by
  have harriving : ∀ d, ¬ t.Arriving d := by simp [Arriving, hcalls]
  have hleaving : ∀ d, ¬ t.Leaving d := by simp [Leaving, hpass]
  rw [ConnectionMgr.iter, List.mem_filter]
  constructor
  · intro hc
    have hmem : c ∈ Table.values t.mgr.bySerial := by
      rcases h.sound c hc with hk | ⟨d, hd, -⟩ | hl
      · exact Table.mem_values.mpr ⟨_, hk⟩
      · exact absurd hd (harriving d)
      · exact absurd hl (hleaving c)
    exact ⟨hmem, by simp [ConnectionMgr.connectionFilter, hclosed c hmem]⟩
  · rintro ⟨hmem, -⟩
    obtain ⟨k, hk⟩ := Table.mem_values.mp hmem
    rcases h.complete k c hk (hclosed c hmem) with howes | hfound | harr
    · exact howes.elim
    · exact hfound
    · exact absurd harr (harriving c)

end MgrTasks

/-- The manager on its own: its tasks, in any order. -/
def tasksMachine : Machine MgrTasks TaskAct (Option DeviceUpdate) where
  step := MgrTasks.step

/-- Every entry of `by_serial` is under its serial, in every state. -/
theorem MgrTasks.keyed_of_run {tr : List (Option DeviceUpdate)} {t : MgrTasks}
    (h : tasksMachine.Run MgrTasks.new tr t) : t.Keyed := by
  refine Machine.Run.invariant (fun _ t => t.Keyed) ?_ ?_ h
  · simp [MgrTasks.Keyed, MgrTasks.new, ConnectionMgr.new]
  · intro tr t a t' e _ hkeyed hs
    exact hkeyed.step hs

end AdbDaemon.Connections
