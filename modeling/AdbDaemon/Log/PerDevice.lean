import AdbDaemon.Log.Rolling
import Mathlib.Data.Set.Function

/-!
# Where the log of a device goes

Reference: `DeviceSerial`, `DeviceSerialFilter` and `PerDeviceWriter` of `src/log.rs`.

An event is logged under the serial in its own fields or else in those of the outermost span that has
one. `make_writer` joins the serial to the log directory as it is, so what a device reports as its
serial is a path. `perDeviceMachine` runs events and the rolls of the writers they open, over
whatever the directories hold at that time; an event of the machine names the paths of the files that
a roll created and removed.

These paths lie in the log directory exactly when the serials lead to places in it
(`logs_safe_iff`). Serials that are single names do, and to different ones (`safe_of_isName`).
-/

namespace AdbDaemon.Log

open Common

/-! ## The serial of an event -/

/-- The fields with a text for a value. `DeviceSerial` looks at no other. -/
abbrev Fields : Type := List (String × String)

/-- `DeviceSerial::record_str`, for one field after the other. -/
def record (serial : Option String) (fields : Fields) : Option String :=
  fields.foldl (fun serial field => if field.1 = "serial" then some field.2 else serial) serial

/-- A span is the fields that it was created with, and those recorded on it later. -/
def spanSerial (span : List Fields) : Option String := span.foldl record none

/-- `event_enabled`: the serial for an event inside the spans of `scope`, the root first. -/
def eventSerial (event : Fields) (scope : List (List Fields)) : Option String :=
  (record none event).or (scope.findSome? spanSerial)

/-! ## The writers -/

/-- `PerDeviceWriter`: the directory, and a writer for each serial that has been logged. -/
structure PerDeviceWriter where
  dir : String
  writers : Table String RollingWriter

namespace PerDeviceWriter

def new (dir : String) : PerDeviceWriter := ⟨dir, ∅⟩

/-- The writer that is created for a serial. -/
def newWriter (p : PerDeviceWriter) (serial : String) : RollingWriter :=
  if serial = "" then RollingWriter.new p.dir (10 * 1024 * 1024) 5
  else RollingWriter.new (join p.dir serial) (20 * 1024 * 1024) 5

/-- `make_writer`, of which the writers are left. -/
def makeWriter (p : PerDeviceWriter) (serial : Option String) : PerDeviceWriter :=
  let serial := serial.getD ""
  if serial ∈ p.writers then p
  else { p with writers := p.writers.insert serial (p.newWriter serial) }

end PerDeviceWriter

/-- The path of a file that is created at `now`: a name without an extension gets one. -/
def RollingWriter.createdPath (w : RollingWriter) (now : OffsetDateTime) : String :=
  join w.dir (String.ofList now.format) ++ ".log"

def RollingWriter.removedPath (w : RollingWriter) (name : Name) : String := join w.dir name.1

/-- An event with its spans, or a write of the writer that was made for one. -/
inductive PerDeviceAct where
  | event (fields : Fields) (scope : List (List Fields))
  /-- The writer of `serial` writes, and finds its directory like this. -/
  | write (serial : String) (content : Option Directory) (io : RollIo) (buf : List UInt8) (n : Nat)

inductive PerDeviceEvent where
  | logged (serial : Option String)
  /-- The files that were created and removed. -/
  | wrote (serial : String) (created removed : List String)

namespace PerDeviceWriter

/-- One event or one write. -/
def step (p : PerDeviceWriter) : PerDeviceAct → Option (PerDeviceWriter × PerDeviceEvent)
  | .event fields scope =>
    let serial := eventSerial fields scope
    some (p.makeWriter serial, .logged serial)
  | .write serial content io buf n =>
    match p.writers.lookup serial with
    | none => none
    | some w =>
      let r := w.roll content io
      let writer :=
        match r.result with
        | .ok () => (r.writer.append r.content buf n).1
        | .error _ => r.writer
      some ({ p with writers := p.writers.insert serial writer },
        .wrote serial (r.opened.toList.map fun _ => w.createdPath io.now)
          (r.removed.map w.removedPath))

end PerDeviceWriter

/-- The writers of all serials, interleaved. -/
def perDeviceMachine : Machine PerDeviceWriter PerDeviceAct PerDeviceEvent := ⟨PerDeviceWriter.step⟩

/-! ## What is safe -/

/-- The files created and removed under the serials of `S` lie at or below the log directory, and no
two of these serials share a directory. -/
structure Safe (cwd : List String) (dir : String) (S : Set String) : Prop where
  inside : ∀ tr p, perDeviceMachine.Run (PerDeviceWriter.new dir) tr p →
    ∀ serial created removed, .wrote serial created removed ∈ tr → serial ∈ S →
      ∀ path ∈ created ++ removed, walk cwd dir <+: walk cwd path
  apart : ∀ tr p, perDeviceMachine.Run (PerDeviceWriter.new dir) tr p →
    ∀ serial ∈ S, ∀ serial' ∈ S, serial ≠ serial' →
      ∀ w w', p.writers.lookup serial = some w → p.writers.lookup serial' = some w' →
        walk cwd w.dir ≠ walk cwd w'.dir

/-! ## Paths -/

/-- The extension goes to the name at the end. -/
theorem createdPath_eq (w : RollingWriter) (now : OffsetDateTime) :
    w.createdPath now = join w.dir (logName now).1 := by
  have hformat : isAbsolute (String.ofList now.format) = false :=
    isAbsolute_eq_false (by simpa using slash_not_mem_format now)
  have hname : isAbsolute (logName now).1 = false := isAbsolute_eq_false (logName now).2.2.1
  rw [RollingWriter.createdPath, join, join, hformat, hname]
  simp only [Bool.false_eq_true, if_false]
  split
  · rw [String.append_assoc]
    rfl
  · rw [String.append_assoc]
    rfl

/-- A log file is created within the directory of its writer. -/
theorem walk_createdPath (cwd : List String) (w : RollingWriter) (now : OffsetDateTime) :
    walk cwd (w.createdPath now) = walk cwd w.dir ++ [(logName now).1] := by
  rw [createdPath_eq, walk_join, walk_name (logName now).2]

/-- A file is removed from the directory of the writer. -/
theorem walk_removedPath (cwd : List String) (w : RollingWriter) (name : Name) :
    walk cwd (w.removedPath name) = walk cwd w.dir ++ [name.1] := by
  rw [RollingWriter.removedPath, walk_join, walk_name name.2]

/-! ## What a run can do -/

theorem RollCases.dir_eq {w : RollingWriter} {content : Option Directory} {io : RollIo} {r : Rolled}
    (h : RollCases w content io r) : r.writer.dir = w.dir := by
  cases h <;> rfl

/-- A write does not change where a writer writes. -/
theorem append_dir (w : RollingWriter) (content : Option Directory) (buf : List UInt8) (n : Nat) :
    (w.append content buf n).1.dir = w.dir := by
  rw [RollingWriter.append]
  split <;> rfl

namespace PerDeviceWriter

variable {p p' : PerDeviceWriter}

/-- Each writer has the directory of its serial. -/
def Keyed (p : PerDeviceWriter) (dir : String) : Prop :=
  p.dir = dir ∧ ∀ serial w, p.writers.lookup serial = some w →
    w.dir = ((PerDeviceWriter.new dir).newWriter serial).dir

/-- The directory of a serial is where it leads from the log directory. -/
theorem walk_newWriter (cwd : List String) (dir serial : String) :
    walk cwd ((PerDeviceWriter.new dir).newWriter serial).dir = walk (walk cwd dir) serial := by
  rw [newWriter]
  split
  · rename_i hserial
    rw [hserial, walk_empty]
    rfl
  · exact walk_join cwd dir serial

/-- The directory of a writer is that of its serial, below the common one. -/
theorem Keyed.walk_dir {dir serial : String} {w : RollingWriter} (h : p.Keyed dir)
    (hw : p.writers.lookup serial = some w) {cwd : List String} :
    walk cwd w.dir = walk (walk cwd dir) serial := by
  rw [h.2 serial w hw, walk_newWriter]

/-- A writer that is entered under its own serial. -/
theorem Keyed.insert {dir serial : String} {w : RollingWriter} (h : p.Keyed dir)
    (hw : w.dir = ((PerDeviceWriter.new dir).newWriter serial).dir) :
    Keyed { p with writers := p.writers.insert serial w } dir := by
  refine ⟨h.1, fun serial' w' hlookup => ?_⟩
  obtain ⟨rfl, rfl⟩ | ⟨-, hold⟩ := Table.lookup_insert_eq_some.mp hlookup
  · exact hw
  · exact h.2 serial' w' hold

/-- The writer that is made for a serial is entered under it. -/
theorem Keyed.makeWriter {dir : String} (h : p.Keyed dir) (serial : Option String) :
    (p.makeWriter serial).Keyed dir := by
  rw [PerDeviceWriter.makeWriter]
  split
  · exact h
  · refine h.insert ?_
    rw [newWriter, newWriter, h.1]
    rfl

/-- A write touches entries of the directory of its serial: the file it creates, and the files that
its roll removes. -/
theorem Keyed.step {dir : String} (h : p.Keyed dir) {a : PerDeviceAct} {e : PerDeviceEvent}
    (hs : perDeviceMachine.step p a = some (p', e)) (cwd : List String) :
    p'.Keyed dir ∧ ∀ serial created removed, e = .wrote serial created removed →
      ∀ path ∈ created ++ removed, ∃ name, walk cwd path = walk (walk cwd dir) serial ++ [name] := by
  simp only [perDeviceMachine, PerDeviceWriter.step] at hs
  cases a with
  | event fields scope =>
    cases hs
    exact ⟨h.makeWriter _, nofun⟩
  | write serial content io buf n =>
    simp only at hs
    split at hs
    · cases hs
    · rename_i w hw
      have hdir := h.2 serial w hw
      have hroll := w.roll_cases content io
      cases hs
      refine ⟨h.insert ?_, ?_⟩
      · split
        · rw [append_dir, hroll.dir_eq, hdir]
        · rw [hroll.dir_eq, hdir]
      · rintro serial' created removed heq path hpath
        cases heq
        rw [← walk_newWriter, ← hdir]
        -- whatever a writer touches is a name in its own directory
        obtain hcreated | hremoved := List.mem_append.mp hpath
        · obtain ⟨_, -, rfl⟩ := List.mem_map.mp hcreated
          exact ⟨_, walk_createdPath cwd w io.now⟩
        · obtain ⟨name, -, rfl⟩ := List.mem_map.mp hremoved
          exact ⟨_, walk_removedPath cwd w name⟩

/-- In every run writers are entered under their serials, and all that is created or removed is a
file in the directory of the serial of the write. -/
theorem keyed_run {dir : String} {tr : List PerDeviceEvent} (cwd : List String)
    (hrun : perDeviceMachine.Run (PerDeviceWriter.new dir) tr p) :
    p.Keyed dir ∧ ∀ e ∈ tr, ∀ serial created removed, e = .wrote serial created removed →
      ∀ path ∈ created ++ removed, ∃ name, walk cwd path = walk (walk cwd dir) serial ++ [name] := by
  have hinit : (PerDeviceWriter.new dir).Keyed dir := by
    refine ⟨rfl, fun serial w hlookup => ?_⟩
    cases hlookup
  exact hrun.invariant_forall (fun p => p.Keyed dir) _ hinit fun p a p' e h hs => h.step hs cwd

/-- An event with a serial in its own fields. -/
def eventOf (serial : String) : PerDeviceAct := .event [("serial", serial)] []

/-- There is a writer for the serial now. -/
theorem mem_makeWriter (p : PerDeviceWriter) (serial : String) :
    serial ∈ (p.makeWriter (some serial)).writers := by
  rw [PerDeviceWriter.makeWriter]
  split
  · assumption
  · exact (AList.mem_insert _).mpr (.inl rfl)

theorem mem_makeWriter_of_mem {serial : String} (h : serial ∈ p.writers) (serial' : Option String) :
    serial ∈ (p.makeWriter serial').writers := by
  rw [PerDeviceWriter.makeWriter]
  split
  · exact h
  · exact (AList.mem_insert _).mpr (.inr h)

/-- Two serials that are logged have their writers at the same time. -/
theorem exists_run_both (dir serial serial' : String) :
    ∃ tr p w w', perDeviceMachine.Run (PerDeviceWriter.new dir) tr p ∧
      p.writers.lookup serial = some w ∧ p.writers.lookup serial' = some w' := by
  let p₁ := (PerDeviceWriter.new dir).makeWriter (some serial)
  let p₂ := p₁.makeWriter (some serial')
  have hrun : perDeviceMachine.Run (PerDeviceWriter.new dir)
      [.logged (some serial), .logged (some serial')] p₂ :=
    (Machine.Run.single (a := eventOf serial) rfl).snoc (a := eventOf serial') rfl
  have hfirst : serial ∈ p₂.writers := mem_makeWriter_of_mem (mem_makeWriter _ serial) _
  have hsecond : serial' ∈ p₂.writers := mem_makeWriter p₁ serial'
  rw [← AList.lookup_isSome, Option.isSome_iff_exists] at hfirst hsecond
  obtain ⟨w, hw⟩ := hfirst
  obtain ⟨w', hw'⟩ := hsecond
  exact ⟨_, p₂, w, w', hrun, hw, hw'⟩

/-- The first file of a writer. -/
theorem roll_first {w : RollingWriter} (hfile : w.file = none) (now : OffsetDateTime) :
    (w.roll none (RollIo.fine now)).opened = some (logName now) ∧
      (w.roll none (RollIo.fine now)).removed = [] := by
  have hold : w.old ∅ = [] := List.drop_nil
  rw [RollingWriter.roll, hfile]
  simp only [RollingWriter.openFile, RollingWriter.rotate, RollIo.fine, hold, prune, if_true]
  exact ⟨rfl, rfl⟩

/-- Under any serial a file can be created, at any time. -/
theorem exists_run_creating (dir serial : String) (now : OffsetDateTime) :
    ∃ tr p path, perDeviceMachine.Run (PerDeviceWriter.new dir) tr p ∧
      .wrote serial [path] [] ∈ tr ∧
      ∀ cwd, walk cwd path = walk (walk cwd dir) serial ++ [(logName now).1] := by
  let w := (PerDeviceWriter.new dir).newWriter serial
  let p₁ := (PerDeviceWriter.new dir).makeWriter (some serial)
  have hlookup : p₁.writers.lookup serial = some w := AList.lookup_insert _
  have hfile : w.file = none := by
    show ((PerDeviceWriter.new dir).newWriter serial).file = none
    rw [newWriter]
    split <;> rfl
  obtain ⟨hopened, hremoved⟩ := roll_first hfile now
  have hevent : perDeviceMachine.Run (PerDeviceWriter.new dir) [.logged (some serial)] p₁ :=
    Machine.Run.single (a := eventOf serial) rfl
  have hwrite : ∃ p₂, perDeviceMachine.step p₁ (.write serial none (RollIo.fine now) [] 0) =
      some (p₂, .wrote serial [w.createdPath now] []) := by
    simp only [perDeviceMachine, PerDeviceWriter.step, hlookup, hopened, hremoved]
    exact ⟨_, rfl⟩
  obtain ⟨p₂, hwrite⟩ := hwrite
  refine ⟨_, p₂, w.createdPath now, hevent.snoc hwrite, by simp, fun cwd => ?_⟩
  rw [walk_createdPath, walk_newWriter]

end PerDeviceWriter

/-! ## When the logs are safe -/

/-- A place that lies below `root` under two different names lies below it. -/
theorem isPrefix_of_two {root place : List String} {n n' : String} (hne : n ≠ n')
    (h : root <+: place ++ [n]) (h' : root <+: place ++ [n']) : root <+: place := by
  obtain heq | h := List.prefix_concat_iff.mp h
  · obtain heq' | h' := List.prefix_concat_iff.mp h'
    · rw [heq] at heq'
      exact absurd (List.singleton_inj.mp (List.append_cancel_left heq')) hne
    · exact h'
  · exact h

/-- Files created in different seconds are not both the log directory itself. -/
theorem Safe.inside_place {cwd : List String} {dir : String} {S : Set String} (h : Safe cwd dir S)
    {serial : String} (hserial : serial ∈ S) :
    walk cwd dir <+: walk (walk cwd dir) serial := by
  have hcreated : ∀ now : OffsetDateTime,
      walk cwd dir <+: walk (walk cwd dir) serial ++ [(logName now).1] := by
    intro now
    obtain ⟨tr, p, path, hrun, hmem, hpath⟩ := PerDeviceWriter.exists_run_creating dir serial now
    rw [← hpath cwd]
    exact h.inside tr p hrun serial [path] [] hmem hserial path (by simp)
  exact isPrefix_of_two (by decide) (hcreated ⟨2025, 1, 1, 0, 0, 0⟩)
    (hcreated ⟨2025, 1, 1, 0, 0, 1⟩)

/-- With safe serials no two writers share a directory. -/
theorem Safe.injOn {cwd : List String} {dir : String} {S : Set String} (h : Safe cwd dir S) :
    Set.InjOn (walk (walk cwd dir)) S := by
  intro serial hserial serial' hserial' heq
  by_contra hne
  obtain ⟨tr, p, w, w', hrun, hw, hw'⟩ := PerDeviceWriter.exists_run_both dir serial serial'
  have hkeyed := (PerDeviceWriter.keyed_run cwd hrun).1
  refine h.apart tr p hrun serial hserial serial' hserial' hne w w' hw hw' ?_
  rw [hkeyed.walk_dir hw, hkeyed.walk_dir hw']
  exact heq

/-- A serial is safe if it leads below the common directory, and to a place of its own. -/
theorem safe_of_walk {cwd : List String} {dir : String} {S : Set String}
    (hinside : ∀ serial ∈ S, walk cwd dir <+: walk (walk cwd dir) serial)
    (hapart : Set.InjOn (walk (walk cwd dir)) S) : Safe cwd dir S := by
  refine ⟨fun tr p hrun serial created removed hmem hserial path hpath => ?_, ?_⟩
  · obtain ⟨name, hname⟩ :=
      (PerDeviceWriter.keyed_run cwd hrun).2 _ hmem serial created removed rfl path hpath
    rw [hname]
    exact (hinside serial hserial).trans (List.prefix_append _ _)
  · intro tr p hrun serial hserial serial' hserial' hne w w' hw hw' heq
    have hkeyed := (PerDeviceWriter.keyed_run cwd hrun).1
    rw [hkeyed.walk_dir hw, hkeyed.walk_dir hw'] at heq
    exact hne (hapart hserial hserial' heq)

/-- **Where logs go.** The files created and removed under the serials of `S` lie in the log
directory, and these serials have different directories, exactly when each of them leads from the log
directory to a place in it, and no two to the same. -/
theorem logs_safe_iff (cwd : List String) (dir : String) (S : Set String) :
    Safe cwd dir S ↔
      (∀ serial ∈ S, walk cwd dir <+: walk (walk cwd dir) serial) ∧
        Set.InjOn (walk (walk cwd dir)) S :=
  ⟨fun h => ⟨fun _ => h.inside_place, h.injOn⟩, fun h => safe_of_walk h.1 h.2⟩

/-- Serials that are names, and the log of what belongs to no device. -/
theorem safe_of_isName (cwd : List String) (dir : String) :
    Safe cwd dir { serial | serial = "" ∨ IsName serial } := by
  refine safe_of_walk (fun serial hserial => ?_) fun serial hserial serial' hserial' heq => ?_
  · obtain rfl | hname := hserial
    · exact List.prefix_rfl
    · rw [walk_name hname]
      exact List.prefix_append _ _
  · obtain rfl | hname := hserial
    · obtain rfl | hname' := hserial'
      · rfl
      · rw [walk_empty, walk_name hname'] at heq
        simp at heq
    · obtain rfl | hname' := hserial'
      · rw [walk_empty, walk_name hname] at heq
        simp at heq
      · rw [walk_name hname, walk_name hname'] at heq
        exact List.singleton_inj.mp (List.append_cancel_left heq)

/-- A serial with a parent directory in it brings the log, and its pruning, into the directory of
another program. -/
theorem logs_escape : ¬ ∀ (cwd : List String) (dir : String), Safe cwd dir Set.univ := by
  intro h
  obtain ⟨tr, p, path, hrun, hmem, hpath⟩ :=
    PerDeviceWriter.exists_run_creating "/var/log/adb" "../apt" ⟨2025, 1, 1, 0, 0, 0⟩
  have hinside := (h [] "/var/log/adb").inside tr p hrun "../apt" [path] [] hmem trivial path (by simp)
  rw [hpath []] at hinside
  exact absurd hinside (by decide)

end AdbDaemon.Log
