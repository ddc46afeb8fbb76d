import Mathlib.Logic.Function.Basic
import AdbDaemon.Common.Machine
import AdbDaemon.Transport.Usb

/-!
# Many tasks, one waker slot

Reference: `WakerCollection` and `ConnectionWrapperGuard::poll_flush` of
`packages/transport/src/transport.rs`, `UsbConnection::poll_flush` of
`packages/transport/src/connection/usb.rs`.

`Shared.pollFlush` is `poll_flush` as one step. Here it is cut at every lock it takes, with the
wakers: a task pushes its waker to the collection, then the endpoint stores the collection's waker
in its only slot and is asked for a result. A completion takes the waker out of the slot and starts
a `WakerCollection::wake`, which drains the collection some time later; it holds the collection's
lock while it wakes. Tasks are numbers.

Everything a poll does, it does with the connection locked. Only `on_error` lets go of the lock, and
takes the connection away under another one.
-/

namespace AdbDaemon.Transport

open Common

/-- Where a task stands inside `poll_flush`, with the connection locked. -/
inductive FlushStage where
  | locked
  /-- The waker is in the collection; `pending()` is looked at next. -/
  | looping
  /-- `poll_next_complete` has stored the waker, and looks for a result next. -/
  | registered
deriving DecidableEq

/-- The connection, its collection of wakers, the slot of the endpoint, and the tasks. -/
structure FlushSt where
  shared : Shared
  writeWakers : List Nat
  /-- The OUT endpoint holds the waker of the collection. -/
  slot : Bool
  /-- The calls of `WakerCollection::wake` that have not drained the collection yet. -/
  waking : Nat
  active : Option (Nat × FlushStage)
  /-- The first `on_error` has set the error and is about to take the connection. -/
  taking : Bool
  /-- The latest poll of the task returned `Pending`. -/
  parked : Nat → Bool
  /-- The task was woken since its latest poll started. -/
  woken : Nat → Bool

/-- The parts of a poll, and what the endpoint and other tasks do. -/
inductive FlushAct where
  /-- A task locks the connection for a poll. -/
  | lock (t : Nat)
  | push
  | register
  | poll
  | write (msg : AdbMessage)
  | complete (c : Except TransferError Unit)
  | wake
  /-- Some other call of `on_error`. -/
  | fail (err : Error)
  | take

/-- A poll that starts, or returns. -/
inductive FlushEvent where
  | started (t : Nat)
  | returned (t : Nat) (res : Poll (Except Error Unit))
  | completed
  | internal
deriving DecidableEq

namespace FlushSt

/-- A new connection that nobody waits for. -/
def init (connection : UsbConnection) : FlushSt where
  shared := ⟨some connection, none⟩
  writeWakers := []
  slot := false
  waking := 0
  active := none
  taking := false
  parked := fun _ => false
  woken := fun _ => false

/-- The error of a transfer, as `ConnectionWrapperGuard::poll_flush` passes it to `on_error`. -/
def flushError (e : TransferError) : Error :=
  .cause (.msg "write (flush)") (.kind (.usb (.transfer e)))

/-- `on_error` up to the point where it takes the connection. -/
def setError (s : FlushSt) (err : Error) : FlushSt :=
  if s.shared.error.isSome then s
  else { s with shared.error := some err, taking := true }

/-- One step, cut where the collection of wakers or the slot is touched. -/
def step (s : FlushSt) : FlushAct → Option (FlushSt × FlushEvent)
  | .lock t =>
    match s.active with
    | some _ => none
    | none =>
      some ({ s with
        active := some (t, .locked)
        parked := Function.update s.parked t false
        woken := Function.update s.woken t false }, .started t)
  | .push =>
    match s.active with
    | some (t, .locked) =>
      match s.shared.connection with
      | none => some ({ s with active := none }, .returned t (.ready (.error (.kind .closed))))
      | some _ =>
        some ({ s with writeWakers := s.writeWakers ++ [t], active := some (t, .looping) },
          .internal)
    | _ => none
  | .register =>
    match s.active, s.shared.connection with
    | some (t, .looping), some inner =>
      if 0 < inner.outEndpoint.pending then
        some ({ s with slot := true, active := some (t, .registered) }, .internal)
      else some ({ s with active := none }, .returned t (.ready (.ok ())))
    | _, _ => none
  | .poll =>
    match s.active, s.shared.connection with
    | some (t, .registered), some inner =>
      match inner.outEndpoint.submitted, inner.outEndpoint.completions with
      | _ :: _, [] =>
        some ({ s with active := none, parked := Function.update s.parked t true },
          .returned t .pending)
      | _ :: submitted, .ok () :: completions =>
        some ({ s with
          shared.connection := some { inner with outEndpoint := ⟨submitted, completions⟩ }
          active := some (t, .looping) }, .internal)
      | _ :: submitted, .error e :: completions =>
        -- the lock is released before `on_error` takes it again
        some ({ s with
          shared.connection := some { inner with outEndpoint := ⟨submitted, completions⟩ }
          active := none }.setError (flushError e),
          .returned t (.ready (.error (.transport (flushError e)))))
      | [], _ => none
    | _, _ => none
  | .write msg =>
    match s.active, s.shared.connection with
    | none, some inner =>
      match inner.writeMessage msg with
      | none => none
      | some inner => some ({ s with shared.connection := some inner }, .internal)
    | _, _ => none
  | .complete c =>
    match s.shared.connection with
    | none => none
    | some inner =>
      if inner.outEndpoint.completions.length < inner.outEndpoint.submitted.length then
        some ({ s with
          shared := s.shared.complete c
          slot := false
          waking := if s.slot then s.waking + 1 else s.waking }, .completed)
      else none
  | .wake =>
    if 0 < s.waking then
      some ({ s with
        waking := s.waking - 1
        writeWakers := []
        woken := fun t => s.woken t || decide (t ∈ s.writeWakers) }, .internal)
    else none
  | .fail err => some (s.setError err, .internal)
  | .take =>
    match s.active with
    | some _ => none
    | none =>
      if s.taking then
        -- the collection goes with the connection, unless a `wake` still holds it
        some ({ s with
          shared.connection := none
          slot := false
          writeWakers := if 0 < s.waking then s.writeWakers else []
          taking := false }, .internal)
      else none

end FlushSt

/-- Any tasks that flush one connection. -/
def flushMachine : Machine FlushSt FlushAct FlushEvent := ⟨FlushSt.step⟩

/-! ## What a step can do -/

/-- The steps, with what they do to wakers and tasks. -/
inductive FlushStep (s : FlushSt) : FlushSt → FlushEvent → Prop
  | lock (t : Nat) (hidle : s.active = none) :
      FlushStep s
        { s with
          active := some (t, .locked)
          parked := Function.update s.parked t false
          woken := Function.update s.woken t false }
        (.started t)
  | push {t : Nat} (hactive : s.active = some (t, .locked)) :
      FlushStep s { s with writeWakers := s.writeWakers ++ [t], active := some (t, .looping) }
        .internal
  | register {t : Nat} (hactive : s.active = some (t, .looping)) :
      FlushStep s { s with slot := true, active := some (t, .registered) } .internal
  | pending {t : Nat} (hactive : s.active = some (t, .registered)) :
      FlushStep s { s with active := none, parked := Function.update s.parked t true }
        (.returned t .pending)
  | consume {t : Nat} (inner : UsbConnection) (hactive : s.active = some (t, .registered))
      (hconn : s.shared.connection ≠ none) :
      FlushStep s { s with shared.connection := some inner, active := some (t, .looping) } .internal
  /-- A poll that is ready: flushed, failed, or without a connection. -/
  | ready {t : Nat} {shared : Shared} {taking : Bool} (res : Except Error Unit)
      (hconn : shared.connection = none ↔ s.shared.connection = none) :
      FlushStep s { s with shared, taking, active := none } (.returned t (.ready res))
  | complete (c : Except TransferError Unit) (hconn : s.shared.connection ≠ none) :
      FlushStep s
        { s with
          shared := s.shared.complete c
          slot := false
          waking := if s.slot then s.waking + 1 else s.waking }
        .completed
  | wake (hpos : 0 < s.waking) :
      FlushStep s
        { s with
          waking := s.waking - 1
          writeWakers := []
          woken := fun t => s.woken t || decide (t ∈ s.writeWakers) }
        .internal
  | take (hidle : s.active = none) :
      FlushStep s
        { s with
          shared.connection := none
          slot := false
          writeWakers := if 0 < s.waking then s.writeWakers else []
          taking := false }
        .internal
  /-- A write, or the start of an `on_error`. -/
  | env {shared : Shared} {taking : Bool}
      (hconn : shared.connection = none ↔ s.shared.connection = none) :
      FlushStep s { s with shared, taking } .internal

theorem FlushSt.setError_eq (s : FlushSt) (err : Error) :
    ∃ shared taking, shared.connection = s.shared.connection ∧
      s.setError err = { s with shared, taking } := by
  unfold setError
  split
  · exact ⟨s.shared, s.taking, rfl, rfl⟩
  · exact ⟨{ s.shared with error := some err }, true, rfl, rfl⟩

/-- Every step is one of these: a task that takes the lock, the parts of its poll, a completion,
`wake`, or an error. -/
theorem flushStep_of_step {s s' : FlushSt} {a : FlushAct} {e : FlushEvent}
    (h : flushMachine.step s a = some (s', e)) : FlushStep s s' e := by
  cases a with
  | lock t =>
    simp only [flushMachine, FlushSt.step] at h
    split at h
    · exact absurd h (by simp)
    · rename_i hidle
      cases h
      exact .lock t hidle
  | push =>
    simp only [flushMachine, FlushSt.step] at h
    split at h
    · rename_i t hactive
      split at h
      · cases h
        exact .ready _ Iff.rfl
      · cases h
        exact .push hactive
    · exact absurd h (by simp)
  | register =>
    simp only [flushMachine, FlushSt.step] at h
    split at h
    · rename_i t inner hactive hconn
      split at h
      · cases h
        exact .register hactive
      · cases h
        exact .ready _ Iff.rfl
    · exact absurd h (by simp)
  | poll =>
    simp only [flushMachine, FlushSt.step] at h
    split at h
    · rename_i t inner hactive hconn
      split at h
      · cases h
        exact .pending hactive
      · cases h
        exact .consume _ hactive (by rw [hconn]; simp)
      · rename_i submitted e completions _ _
        obtain ⟨shared, taking, hsame, heq⟩ := FlushSt.setError_eq
          { s with
            shared.connection := some { inner with outEndpoint := ⟨submitted, completions⟩ }
            active := none } (FlushSt.flushError e)
        rw [heq] at h
        cases h
        exact .ready _ (by rw [hsame, hconn]; simp)
      · exact absurd h (by simp)
    · exact absurd h (by simp)
  | write msg =>
    simp only [flushMachine, FlushSt.step] at h
    split at h
    · rename_i inner _ hconn
      split at h
      · exact absurd h (by simp)
      · cases h
        exact .env (by rw [hconn]; simp)
    · exact absurd h (by simp)
  | complete c =>
    simp only [flushMachine, FlushSt.step] at h
    split at h
    · exact absurd h (by simp)
    · rename_i inner hconn
      split at h
      · cases h
        exact .complete c (by rw [hconn]; simp)
      · exact absurd h (by simp)
  | wake =>
    simp only [flushMachine, FlushSt.step, Option.ite_none_right_eq_some] at h
    obtain ⟨hpos, h⟩ := h
    cases h
    exact .wake hpos
  | fail err =>
    obtain ⟨shared, taking, hsame, heq⟩ := s.setError_eq err
    simp only [flushMachine, FlushSt.step, heq] at h
    cases h
    exact .env (by rw [hsame])
  | take =>
    simp only [flushMachine, FlushSt.step] at h
    split at h
    · exact absurd h (by simp)
    · rename_i hidle
      split at h
      · cases h
        exact .take hidle
      · exact absurd h (by simp)

/-! ## A poll that nothing interrupts

Its steps, one after the other, are `Shared.pollFlush`.
-/

section PollFlush

variable {sh : Shared} {inner : UsbConnection} {transfer : List UInt8}
  {submitted : List (List UInt8)} {completions : List (Except TransferError Unit)}

/-- With nothing submitted a flush is done. -/
theorem Shared.pollFlush_empty (hconn : sh.connection = some inner)
    (hout : inner.outEndpoint = ⟨[], completions⟩) : sh.pollFlush = (.ready (.ok ()), sh) := by
  have hsame : { inner with outEndpoint := ⟨[], completions⟩ } = inner := by rw [← hout]
  simp only [Shared.pollFlush, hconn, UsbConnection.pollFlush, hout, UsbConnection.flushLoop, hsame]
  rw [← hconn]

/-- With a transfer under way a flush is pending. -/
theorem Shared.pollFlush_waiting (hconn : sh.connection = some inner)
    (hout : inner.outEndpoint = ⟨transfer :: submitted, []⟩) : sh.pollFlush = (.pending, sh) := by
  have hsame : { inner with outEndpoint := ⟨transfer :: submitted, []⟩ } = inner := by rw [← hout]
  simp only [Shared.pollFlush, hconn, UsbConnection.pollFlush, hout, UsbConnection.flushLoop, hsame]
  rw [← hconn]

/-- A flush after its first transfer was handed back is the rest of the flush. -/
theorem Shared.pollFlush_consume (hconn : sh.connection = some inner)
    (hout : inner.outEndpoint = ⟨transfer :: submitted, .ok () :: completions⟩) :
    sh.pollFlush = { sh with
      connection := some { inner with outEndpoint := ⟨submitted, completions⟩ } }.pollFlush := by
  simp [Shared.pollFlush, hconn, UsbConnection.pollFlush, hout, UsbConnection.flushLoop]

/-- A transfer that was handed back with an error ends the flush. -/
theorem Shared.pollFlush_failed {e : TransferError} (hconn : sh.connection = some inner)
    (hout : inner.outEndpoint = ⟨transfer :: submitted, .error e :: completions⟩) :
    sh.pollFlush = (.ready (.error (.transport (FlushSt.flushError e))),
      (Shared.onError { sh with
        connection := some { inner with outEndpoint := ⟨submitted, completions⟩ } }
        (FlushSt.flushError e)).2) := by
  simp [Shared.pollFlush, hconn, UsbConnection.pollFlush, hout, UsbConnection.flushLoop,
    Shared.onError, FlushSt.flushError]

end PollFlush

/-- The connection is taken when no poll is under way. -/
theorem step_take {s : FlushSt} (hidle : s.active = none) (htaking : s.taking = true) :
    flushMachine.step s .take =
      some ({ s with
        shared.connection := none
        slot := false
        writeWakers := if 0 < s.waking then s.writeWakers else []
        taking := false }, .internal) := by
  simp [flushMachine, FlushSt.step, hidle, htaking]

/-- The loop of a poll runs to its end, over the completions that are there. -/
theorem exists_run_loop {s : FlushSt} {t : Nat} {inner : UsbConnection}
    {submitted : List (List UInt8)} {completions : List (Except TransferError Unit)}
    (hactive : s.active = some (t, .looping)) (hconn : s.shared.connection = some inner)
    (hout : inner.outEndpoint = ⟨submitted, completions⟩) (htaking : s.taking = false) :
    ∃ tr s', flushMachine.Run s tr s' ∧ .returned t s.shared.pollFlush.1 ∈ tr ∧
      s'.shared = s.shared.pollFlush.2 := by
  induction submitted generalizing s inner completions with
  | nil =>
    have hs : flushMachine.step s .register =
        some ({ s with active := none }, .returned t (.ready (.ok ()))) := by
      simp [flushMachine, FlushSt.step, hactive, hconn, hout, OutEndpoint.pending]
    have hflush := Shared.pollFlush_empty hconn hout
    exact ⟨_, _, .single hs, by simp [hflush], by simp [hflush]⟩
  | cons transfer submitted ih =>
    have hreg : flushMachine.step s .register =
        some ({ s with slot := true, active := some (t, .registered) }, .internal) := by
      simp [flushMachine, FlushSt.step, hactive, hconn, hout, OutEndpoint.pending]
    cases completions with
    | nil =>
      have hflush := Shared.pollFlush_waiting hconn hout
      have hpoll : flushMachine.step { s with slot := true, active := some (t, .registered) } .poll =
          some ({ s with
            slot := true, active := none, parked := Function.update s.parked t true },
            .returned t .pending) := by
        simp [flushMachine, FlushSt.step, hconn, hout]
      exact ⟨_, _, (Machine.Run.single hreg).snoc hpoll, by simp [hflush], by simp [hflush]⟩
    | cons res completions =>
      cases res with
      | error e =>
        have hflush := Shared.pollFlush_failed hconn hout
        have hpoll : flushMachine.step { s with slot := true, active := some (t, .registered) } .poll =
            some ({ s with
              shared.connection := some { inner with outEndpoint := ⟨submitted, completions⟩ }
              slot := true
              active := none }.setError (FlushSt.flushError e),
              .returned t (.ready (.error (.transport (FlushSt.flushError e))))) := by
          simp [flushMachine, FlushSt.step, hconn, hout]
        have hrun := (Machine.Run.single hreg).snoc hpoll
        cases hset : s.shared.error with
        | some err =>
          refine ⟨_, _, hrun, by simp [hflush], ?_⟩
          simp [hflush, FlushSt.setError, Shared.onError, hset]
        | none =>
          -- the first error takes the connection, in a step of its own
          have htake := step_take (s := { s with
              shared.connection := some { inner with outEndpoint := ⟨submitted, completions⟩ }
              slot := true
              active := none }.setError (FlushSt.flushError e))
            (by simp [FlushSt.setError, hset]) (by simp [FlushSt.setError, hset])
          refine ⟨_, _, hrun.snoc htake, by simp [hflush], ?_⟩
          simp [hflush, Shared.onError, FlushSt.setError, hset]
      | ok u =>
        cases u
        have hpoll : flushMachine.step { s with slot := true, active := some (t, .registered) } .poll =
            some ({ s with
              shared.connection := some { inner with outEndpoint := ⟨submitted, completions⟩ }
              slot := true
              active := some (t, .looping) }, .internal) := by
          simp [flushMachine, FlushSt.step, hconn, hout]
        rw [Shared.pollFlush_consume hconn hout]
        obtain ⟨tr, s', hrun, hret, hshared⟩ := ih
          (s := { s with
            shared.connection := some { inner with outEndpoint := ⟨submitted, completions⟩ }
            slot := true
            active := some (t, .looping) }) rfl rfl rfl htaking
        refine ⟨_, s', ((Machine.Run.single hreg).snoc hpoll).trans hrun, ?_, hshared⟩
        exact List.mem_append_right _ hret

/-- The steps of an uninterrupted poll end as `Shared.pollFlush` says. -/
theorem exists_run_pollFlush (s : FlushSt) (t : Nat) (hidle : s.active = none)
    (htaking : s.taking = false) :
    ∃ tr s', flushMachine.Run s tr s' ∧ .returned t s.shared.pollFlush.1 ∈ tr ∧
      s'.shared = s.shared.pollFlush.2 := by
  have hlock : flushMachine.step s (.lock t) =
      some ({ s with
        active := some (t, .locked)
        parked := Function.update s.parked t false
        woken := Function.update s.woken t false }, .started t) := by
    simp [flushMachine, FlushSt.step, hidle]
  cases hconn : s.shared.connection with
  | none =>
    have hpush : flushMachine.step { s with
          active := some (t, .locked)
          parked := Function.update s.parked t false
          woken := Function.update s.woken t false } .push =
        some ({ s with
          active := none
          parked := Function.update s.parked t false
          woken := Function.update s.woken t false },
          .returned t (.ready (.error (.kind .closed)))) := by
      simp [flushMachine, FlushSt.step, hconn]
    refine ⟨_, _, (Machine.Run.single hlock).snoc hpush, ?_, ?_⟩
    · simp [Shared.pollFlush, hconn]
    · simp [Shared.pollFlush, hconn]
  | some inner =>
    have hpush : flushMachine.step { s with
          active := some (t, .locked)
          parked := Function.update s.parked t false
          woken := Function.update s.woken t false } .push =
        some ({ s with
          writeWakers := s.writeWakers ++ [t]
          active := some (t, .looping)
          parked := Function.update s.parked t false
          woken := Function.update s.woken t false }, .internal) := by
      simp [flushMachine, FlushSt.step, hconn]
    obtain ⟨tr, s', hrun, hret, hshared⟩ := exists_run_loop
      (s := { s with
        writeWakers := s.writeWakers ++ [t]
        active := some (t, .looping)
        parked := Function.update s.parked t false
        woken := Function.update s.woken t false }) rfl hconn rfl htaking
    refine ⟨_, s', ((Machine.Run.single hlock).snoc hpush).trans hrun, ?_, hshared⟩
    exact List.mem_append_right _ hret

/-! ## Every parked task is covered -/

/-- The task was woken, or the next `wake` of the collection wakes it and one is in progress. -/
def FlushSt.Waking (s : FlushSt) (t : Nat) : Prop :=
  s.woken t = true ∨ (t ∈ s.writeWakers ∧ 0 < s.waking)

/-- The task was woken, or its waker is in the collection, and the endpoint holds the waker of the
collection or a `wake` is in progress. -/
def FlushSt.Covered (s : FlushSt) (t : Nat) : Prop :=
  s.woken t = true ∨ (t ∈ s.writeWakers ∧ (s.slot = true ∨ 0 < s.waking))

/-- What holds between two steps. A poll that has registered is covered, whatever it finds. -/
structure FlushLaw (s : FlushSt) : Prop where
  looping : ∀ t, s.active = some (t, .looping) → s.woken t = true ∨ t ∈ s.writeWakers
  registered : ∀ t, s.active = some (t, .registered) → s.Covered t
  parked : ∀ t, s.parked t = true → s.shared.connection ≠ none → s.Covered t

/-- A completion wakes whoever is registered at the endpoint. -/
theorem FlushSt.Covered.complete {s : FlushSt} {t : Nat} (h : s.Covered t)
    (c : Except TransferError Unit) :
    FlushSt.Waking { s with
      shared := s.shared.complete c
      slot := false
      waking := if s.slot then s.waking + 1 else s.waking } t := by
  rcases h with hwoken | ⟨hmem, hslot | hpos⟩
  · exact .inl hwoken
  · refine .inr ⟨hmem, ?_⟩
    simp [hslot]
  · refine .inr ⟨hmem, ?_⟩
    simp only
    split <;> omega

/-- A task that will be woken is covered. -/
theorem FlushSt.Waking.covered {s : FlushSt} {t : Nat} (h : s.Waking t) : s.Covered t := by
  rcases h with hwoken | ⟨hmem, hpos⟩
  · exact .inl hwoken
  · exact .inr ⟨hmem, .inr hpos⟩

/-- A task that is covered stays so, as long as the connection is there and it is not polled
again. -/
theorem FlushSt.Covered.step {s s' : FlushSt} {e : FlushEvent} {t : Nat} (h : s.Covered t)
    (hstep : FlushStep s s' e) (hpoll : e ≠ .started t) (hconn : s'.shared.connection ≠ none) :
    s'.Covered t := by
  cases hstep with
  | lock t' hidle =>
    have hne : t ≠ t' := fun heq => hpoll (by rw [heq])
    rcases h with hwoken | hmem
    · exact .inl ((Function.update_of_ne hne _ _).trans hwoken)
    · exact .inr hmem
  | push =>
    rcases h with hwoken | ⟨hmem, hslot⟩
    · exact .inl hwoken
    · exact .inr ⟨List.mem_append_left _ hmem, hslot⟩
  | register =>
    rcases h with hwoken | ⟨hmem, -⟩
    · exact .inl hwoken
    · exact .inr ⟨hmem, .inl rfl⟩
  | complete c => exact (h.complete c).covered
  | wake hpos =>
    left
    rcases h with hwoken | ⟨hmem, -⟩
    · simp [hwoken]
    · simp [hmem]
  | take => exact absurd rfl hconn
  | pending | consume | ready | env => exact h

/-- A task for which a `wake` is under way stays so until it is woken, even if the connection is
taken meanwhile. -/
theorem FlushSt.Waking.step {s s' : FlushSt} {e : FlushEvent} {t : Nat} (h : s.Waking t)
    (hstep : FlushStep s s' e) (hpoll : e ≠ .started t) : s'.Waking t := by
  cases hstep with
  | lock t' hidle =>
    have hne : t ≠ t' := fun heq => hpoll (by rw [heq])
    rcases h with hwoken | hmem
    · exact .inl ((Function.update_of_ne hne _ _).trans hwoken)
    · exact .inr hmem
  | push =>
    rcases h with hwoken | ⟨hmem, hpos⟩
    · exact .inl hwoken
    · exact .inr ⟨List.mem_append_left _ hmem, hpos⟩
  | complete c => exact h.covered.complete c
  | wake hpos =>
    left
    rcases h with hwoken | ⟨hmem, -⟩
    · simp [hwoken]
    · simp [hmem]
  | take =>
    rcases h with hwoken | ⟨hmem, hpos⟩
    · exact .inl hwoken
    · refine .inr ⟨?_, hpos⟩
      simpa only [if_pos hpos] using hmem
  | register | pending | consume | ready | env => exact h

namespace FlushLaw

variable {s s' : FlushSt} {e : FlushEvent}

/-- A task in the loop is among the wakers, or was woken meanwhile. -/
theorem looping_step (h : FlushLaw s) (hstep : FlushStep s s' e) (t : Nat)
    (hactive : s'.active = some (t, .looping)) : s'.woken t = true ∨ t ∈ s'.writeWakers := by
  cases hstep with
  | push =>
    cases hactive
    exact .inr (by simp)
  | consume inner hreg =>
    cases hactive
    rcases h.registered t hreg with hwoken | ⟨hmem, -⟩
    · exact .inl hwoken
    · exact .inr hmem
  | wake =>
    left
    rcases h.looping t hactive with hwoken | hmem
    · simp [hwoken]
    · simp [hmem]
  | take hidle => simp [hidle] at hactive
  | lock | register | pending | ready => simp at hactive
  | complete | env => exact h.looping t hactive

/-- A task that has registered at the endpoint is covered. -/
theorem registered_step (h : FlushLaw s) (hstep : FlushStep s s' e) (t : Nat)
    (hactive : s'.active = some (t, .registered)) : s'.Covered t := by
  cases hstep with
  | register hloop =>
    cases hactive
    rcases h.looping t hloop with hwoken | hmem
    · exact .inl hwoken
    · exact .inr ⟨hmem, .inl rfl⟩
  | complete c => exact ((h.registered t hactive).complete c).covered
  | wake =>
    left
    rcases h.registered t hactive with hwoken | ⟨hmem, -⟩
    · simp [hwoken]
    · simp [hmem]
  | take hidle => simp [hidle] at hactive
  | lock | push | pending | consume | ready => simp at hactive
  | env => exact h.registered t hactive

/-- A task that is parked stays covered: by its waker in the collection, with the slot filled or a
waking under way, or by having been woken. -/
theorem parked_step (h : FlushLaw s) (hstep : FlushStep s s' e) (t : Nat)
    (hparked : s'.parked t = true) (hconn : s'.shared.connection ≠ none) : s'.Covered t := by
  -- the connection never comes back
  have hwas : s.shared.connection ≠ none := by
    intro hnone
    cases hstep with
    | consume _ _ hsome => exact hsome hnone
    | ready _ hiff | env hiff => exact hconn (hiff.mpr hnone)
    | complete _ hsome => exact hsome hnone
    | take => exact hconn rfl
    | lock | push | register | pending | wake => exact hconn hnone
  by_cases hreg : s.active = some (t, .registered) ∧ e = .returned t .pending
  · obtain ⟨hreg, rfl⟩ := hreg
    have hcov := h.registered t hreg
    exact hcov.step hstep (by simp) hconn
  · have hold : s.parked t = true ∧ e ≠ .started t := by
      cases hstep with
      | lock t' =>
        by_cases heq : t = t'
        · simp [heq] at hparked
        · exact ⟨(Function.update_of_ne heq _ _).symm.trans hparked, by simp [Ne.symm heq]⟩
      | @pending t' hactive =>
        by_cases heq : t = t'
        · subst heq
          exact absurd ⟨hactive, rfl⟩ hreg
        · exact ⟨(Function.update_of_ne heq _ _).symm.trans hparked, by simp⟩
      | push | register | consume | ready | complete | wake | take | env =>
        exact ⟨hparked, by simp⟩
    exact (h.parked t hold.1 hwas).step hstep hold.2 hconn

/-- Every step keeps the law, at each place of the polling task by its own lemma. -/
theorem step (h : FlushLaw s) (hstep : FlushStep s s' e) : FlushLaw s' where
  looping := h.looping_step hstep
  registered := h.registered_step hstep
  parked := h.parked_step hstep

end FlushLaw

/-- The law holds in every run. -/
theorem flushLaw_of_run {connection : UsbConnection} {tr : List FlushEvent} {s : FlushSt}
    (hrun : flushMachine.Run (FlushSt.init connection) tr s) : FlushLaw s := by
  refine hrun.invariant (fun _ s => FlushLaw s) ?_ ?_
  · exact ⟨by simp [FlushSt.init], by simp [FlushSt.init], by simp [FlushSt.init]⟩
  · exact fun tr s a s' e _ h hs => h.step (flushStep_of_step hs)

/-- A task for which a `wake` is under way is woken by it, if it is not polled again before. -/
theorem FlushSt.Waking.run {s s' : FlushSt} {tr : List FlushEvent} {t : Nat} (h : s.Waking t)
    (hrun : flushMachine.Run s tr s') (hpoll : .started t ∉ tr) : s'.Waking t := by
  induction hrun with
  | nil => exact h
  | snoc _ hs ih =>
    rw [List.mem_append, not_or] at hpoll
    exact (ih hpoll.1).step (flushStep_of_step hs) fun heq => hpoll.2 (by simp [heq])

/-- **No wake-up is lost.** After every schedule of polls of `poll_flush` by any tasks, writes,
completions, `wake`s and errors: a task whose latest poll returned `Pending` was woken since, or its
waker is in the collection and the endpoint holds that of the collection or a `wake` is in progress,
as long as there is a connection. And a completion wakes every task that is parked when it occurs:
after any further steps without a new poll of that task, it was woken unless a `wake` is in progress,
and this one wakes it. -/
theorem flush_loses_no_wakeup (connection : UsbConnection) (tr : List FlushEvent) (s : FlushSt)
    (hrun : flushMachine.Run (FlushSt.init connection) tr s) (t : Nat) (hparked : s.parked t = true) :
    (s.shared.connection ≠ none →
      s.woken t = true ∨ (t ∈ s.writeWakers ∧ (s.slot = true ∨ 0 < s.waking))) ∧
    ∀ c s₁ e tr' s₂, flushMachine.step s (.complete c) = some (s₁, e) →
      flushMachine.Run s₁ tr' s₂ → .started t ∉ tr' →
        (s₂.waking = 0 → s₂.woken t = true) ∧
        ∀ s₃ e', flushMachine.step s₂ .wake = some (s₃, e') → s₃.woken t = true := by
  have hlaw := flushLaw_of_run hrun
  refine ⟨hlaw.parked t hparked, fun c s₁ e tr' s₂ hs hrun' hpoll => ?_⟩
  have hwaking : s₁.Waking t := by
    simp only [flushMachine, FlushSt.step] at hs
    split at hs
    · exact absurd hs (by simp)
    · rename_i inner hconn
      split at hs
      · cases hs
        exact (hlaw.parked t hparked (by rw [hconn]; simp)).complete c
      · exact absurd hs (by simp)
  -- once the waking has begun it reaches the task, unless the task polls before
  have hlater := hwaking.run hrun' hpoll
  refine ⟨fun hzero => ?_, fun s₃ e' hs₃ => ?_⟩
  · rcases hlater with hwoken | ⟨-, hpos⟩
    · exact hwoken
    · omega
  · simp only [flushMachine, FlushSt.step, Option.ite_none_right_eq_some, Option.some.injEq,
      Prod.mk.injEq] at hs₃
    obtain ⟨-, rfl, -⟩ := hs₃
    rcases hlater with hwoken | ⟨hmem, -⟩
    · simp [hwoken]
    · simp [hmem]

/-- Two tasks wait for one transfer. The slot holds one waker, and its completion wakes both. -/
theorem flush_loses_no_wakeup_two :
    ∃ tr s s₁ s₂, flushMachine.Run (FlushSt.init (UsbConnection.new 512)) tr s ∧
      s.parked 0 = true ∧ s.parked 1 = true ∧
      flushMachine.step s (.complete (.ok ())) = some (s₁, .completed) ∧
      flushMachine.step s₁ .wake = some (s₂, .internal) ∧
      s₂.woken 0 = true ∧ s₂.woken 1 = true := by
  obtain ⟨s, tr, hrun, htest⟩ := Machine.exists_run_of_exec (M := flushMachine)
    (s := FlushSt.init (UsbConnection.new 512))
    [.write (AdbMessage.new .CLSE 1 7 []), .lock 0, .push, .register, .poll, .lock 1, .push,
      .register, .poll]
    (fun s _ => s.parked 0 && s.parked 1 &&
      ((flushMachine.step s (.complete (.ok ()))).any fun (p : FlushSt × FlushEvent) =>
        decide (p.2 = .completed) && (flushMachine.step p.1 .wake).any
          fun (q : FlushSt × FlushEvent) => decide (q.2 = .internal))) (by decide)
  simp only [Bool.and_eq_true, Option.any_eq_true, decide_eq_true_eq] at htest
  obtain ⟨⟨h0, h1⟩, ⟨s₁, e₁⟩, hs₁, he₁, ⟨s₂, e₂⟩, hs₂, he₂⟩ := htest
  subst he₁ he₂
  refine ⟨tr, s, s₁, s₂, hrun, h0, h1, hs₁, hs₂, ?_, ?_⟩
  · exact ((flush_loses_no_wakeup _ tr s hrun 0 h0).2 _ _ _ [] s₁ hs₁ .nil (by simp)).2 _ _ hs₂
  · exact ((flush_loses_no_wakeup _ tr s hrun 1 h1).2 _ _ _ [] s₁ hs₁ .nil (by simp)).2 _ _ hs₂

end AdbDaemon.Transport
