import AdbDaemon.Log.Rolling

/-!
# What a rotated log keeps

Reference: `RollingWriter::roll` and its `Write::write` of `src/log.rs`.

`rollMachine` runs the writes of one daemon after the other on one directory, whatever the directory
holds at first and whatever the clock shows. A roll that opens a file always leaves the newest files
and at most one more (`RollCases.few`, `RollCases.oldest`). Nothing is lost from a file that stays,
except by `File::create`: a file that is created twice within a second, after a restart or because
it reached the cut-off at once, is emptied the second time. `rotation_keeps_iff` says that this is
the only way.
-/

namespace AdbDaemon.Log

open Common

/-! ## The machine -/

/-- The writer and the directory it writes to. -/
structure RollSt where
  writer : RollingWriter
  /-- What the directory holds, if it exists. -/
  content : Option Directory

inductive RollAct where
  /-- The file accepts the first `n` bytes, or none because the write fails. -/
  | write (io : RollIo) (buf : List UInt8) (n : Nat)
  /-- Another daemon starts with a writer of its own. -/
  | restart (cutoff count : Nat)

/-- A write: what its roll starts from, what that leaves, and the directory at the end. -/
structure Written where
  writer : RollingWriter
  content : Option Directory
  io : RollIo
  rolled : Directory
  removed : List Name
  opened : Option Name
  after : Directory

/-- The directory before the write, empty if it does not exist. -/
def Written.before (e : Written) : Directory := e.content.getD ∅

/-- A write, with all that its roll and itself did, or a start of the daemon. -/
inductive LogEvent where
  | restarted
  | written (w : Written)

namespace RollSt

/-- One write: the roll, and as many bytes as the file takes. -/
def write (s : RollSt) (io : RollIo) (buf : List UInt8) (n : Nat) : RollSt × LogEvent :=
  let r := s.writer.roll s.content io
  let (writer, content) :=
    match r.result with
    | .ok () => r.writer.append r.content buf n
    | .error _ => (r.writer, r.content)
  (⟨writer, content⟩,
    .written
      { writer := s.writer
        content := s.content
        io
        rolled := r.content.getD ∅
        removed := r.removed
        opened := r.opened
        after := content.getD ∅ })

/-- One write or one start. -/
def step (s : RollSt) : RollAct → Option (RollSt × LogEvent)
  | .write io buf n => if n ≤ buf.length then some (s.write io buf n) else none
  | .restart cutoff count =>
    some ({ s with writer := RollingWriter.new s.writer.dir cutoff count }, .restarted)

end RollSt

/-- A daemon that logs, and may start again at any time. -/
def rollMachine : Machine RollSt RollAct LogEvent := ⟨RollSt.step⟩

/-! ## What is kept -/

/-- The files of `d` but the removed ones are there in `d'`, with what they held at their
beginning. -/
def Directory.Extends (removed : List Name) (d d' : Directory) : Prop :=
  ∀ name bytes, d.lookup name = some (.file bytes) → name ∉ removed →
    ∃ bytes', d'.lookup name = some (.file bytes') ∧ bytes <+: bytes'

/-- A write keeps what it should. If its roll opened a file, at most `count + 1` `.log` entries are
left, and those that were removed come before all that were kept. Neither the roll nor the write
takes a byte from a file that is not removed. -/
structure Written.Keeps (e : Written) : Prop where
  few : e.opened.isSome → e.rolled.logNames.length ≤ e.writer.count + 1
  oldest : e.opened.isSome → ∀ name ∈ e.removed, ∀ kept ∈ e.before.logNames, kept ∉ e.removed →
    name < kept
  rolled : e.before.Extends e.removed e.rolled
  written : e.rolled.Extends [] e.after

/-- If the roll is to open a file, the name of that second is not that of a file with something in
it, unless that one is old enough to be removed before. -/
def Written.Fresh (e : Written) : Prop :=
  e.writer.Opens e.content e.io →
    ∀ bytes, e.before.lookup (logName e.io.now) = some (.file bytes) →
      logName e.io.now ∉ e.writer.old e.before → bytes = []

def LogEvent.Keeps : LogEvent → Prop
  | restarted => True
  | written w => w.Keeps

def LogEvent.Fresh : LogEvent → Prop
  | restarted => True
  | written w => w.Fresh

def LogEvent.removed : LogEvent → List Name
  | restarted => []
  | written w => w.removed

/-! ## Directories -/

namespace Directory

variable {d d' d'' : Directory} {removed removed' : List Name}

theorem extends_rfl : d.Extends removed d := fun _ bytes h _ => ⟨bytes, h, List.prefix_rfl⟩

/-- What two steps remove is removed by both together. -/
theorem Extends.trans (h : d.Extends removed d') (h' : d'.Extends removed' d'') :
    d.Extends (removed ++ removed') d'' := by
  intro name bytes hname hkept
  rw [List.mem_append, not_or] at hkept
  obtain ⟨bytes', hname', hle⟩ := h name bytes hname hkept.1
  obtain ⟨bytes'', hname'', hle'⟩ := h' name bytes' hname' hkept.2
  exact ⟨bytes'', hname'', hle.trans hle'⟩

/-- A removal loses what it names and nothing else. -/
theorem extends_eraseAll : d.Extends removed (Table.eraseAll d removed) :=
  fun _ bytes h hkept => ⟨bytes, Table.lookup_eraseAll_eq_some.mpr ⟨hkept, h⟩, List.prefix_rfl⟩

/-- Creating a file takes what a file of that name holds. -/
theorem extends_insert_iff {name : Name} :
    d.Extends removed ((Table.eraseAll d removed).insert name (.file [])) ↔
      ∀ bytes, d.lookup name = some (.file bytes) → name ∉ removed → bytes = [] := by
  constructor
  · intro h bytes hname hkept
    obtain ⟨bytes', hname', hle⟩ := h name bytes hname hkept
    rw [AList.lookup_insert] at hname'
    cases hname'
    exact List.prefix_nil.mp hle
  · intro h name' bytes hname' hkept
    by_cases heq : name' = name
    · subst heq
      obtain rfl := h bytes hname' hkept
      exact ⟨[], AList.lookup_insert _, List.prefix_rfl⟩
    · rw [AList.lookup_insert_ne heq]
      exact extends_eraseAll name' bytes hname' hkept

/-- Writing at the end of a file adds to it. -/
theorem extends_writeFile {name : Name} {old bytes : List UInt8} {position : Nat}
    (hname : d.lookup name = some (.file old)) (hposition : old.length = position) :
    d.Extends [] (d.writeFile name position bytes) := by
  intro name' old' hname' _
  simp only [writeFile, hname]
  by_cases heq : name' = name
  · subst heq
    rw [hname] at hname'
    cases hname'
    refine ⟨_, AList.lookup_insert _, ?_⟩
    rw [← hposition, List.take_length, List.append_assoc]
    exact List.prefix_append _ _
  · rw [AList.lookup_insert_ne heq]
    exact ⟨old', hname', List.prefix_rfl⟩

/-- A write at the end of a file adds its bytes to it. -/
theorem lookup_writeFile {name : Name} {old : List UInt8} {position : Nat} (bytes : List UInt8)
    (hname : d.lookup name = some (.file old)) (hposition : old.length = position) :
    ∃ new, (d.writeFile name position bytes).lookup name = some (.file new) ∧
      new.length = position + bytes.length := by
  simp only [writeFile, hname]
  refine ⟨_, AList.lookup_insert _, ?_⟩
  rw [List.length_append, List.length_append, List.length_take, List.length_drop]
  omega

theorem mem_logNames {name : Name} : name ∈ d.logNames ↔ name ∈ d ∧ isLog name = true := by
  rw [logNames, List.mem_filter, AList.mem_keys]

theorem mem_eraseAll {name : Name} {names : List Name} :
    name ∈ Table.eraseAll d names ↔ name ∉ names ∧ name ∈ d := by
  simp only [← AList.lookup_isSome, Option.isSome_iff_exists, Table.lookup_eraseAll_eq_some,
    exists_and_left]

/-- The newest files, and the created one. -/
theorem length_logNames_insert_le (d : Directory) (count : Nat) (name : Name) :
    (logNames ((Table.eraseAll d (beyond count d.logNames)).insert name (.file []))).length ≤
      count + 1 := by
  let d' : Directory := (Table.eraseAll d (beyond count d.logNames)).insert name (.file [])
  have hothers : ∀ kept ∈ d'.logNames.erase name,
      kept ∈ d.logNames ∧ kept ∉ beyond count d.logNames := by
    intro kept hkept
    rw [nodup_logNames.mem_erase_iff, mem_logNames, AList.mem_insert, mem_eraseAll] at hkept
    obtain ⟨hne, hmem, hlog⟩ := hkept
    obtain ⟨hnot, hmem⟩ := hmem.resolve_left hne
    exact ⟨mem_logNames.mpr ⟨hmem, hlog⟩, hnot⟩
  have hkept := length_le_of_not_mem_beyond (nodup_logNames.erase name) hothers
  have hone := List.le_length_erase (l := d'.logNames) (a := name)
  show d'.logNames.length ≤ count + 1
  omega

end Directory

/-! ## Single steps -/

section Roll

variable {w : RollingWriter} {content : Option Directory} {io : RollIo} {r : Rolled}

/-- After a roll there are at most `count` files beside the new one. -/
theorem RollCases.few (h : RollCases w content io r) (hopened : r.opened.isSome) :
    (r.content.getD ∅).logNames.length ≤ w.count + 1 := by
  cases h with
  | stays => cases hopened
  | fails _ _ => cases hopened
  | opens _ => exact Directory.length_logNames_insert_le (content.getD ∅) w.count (logName io.now)

/-- What is removed is older by name than what is kept. -/
theorem RollCases.oldest (h : RollCases w content io r) (hopened : r.opened.isSome) {name : Name}
    (hname : name ∈ r.removed) {kept : Name} (hmem : kept ∈ (content.getD ∅).logNames)
    (hkept : kept ∉ r.removed) : name < kept := by
  cases h with
  | stays => cases hopened
  | fails _ _ => cases hopened
  | opens _ => exact lt_of_mem_beyond (Directory.nodup_logNames) hname hmem hkept

/-- A roll takes nothing from a file that stays exactly when the file it creates is new or empty. -/
theorem RollCases.extends_iff (h : RollCases w content io r) :
    (content.getD ∅).Extends r.removed (r.content.getD ∅) ↔
      (r.opened.isSome → ∀ bytes, (content.getD ∅).lookup (logName io.now) = some (.file bytes) →
        logName io.now ∉ w.old (content.getD ∅) → bytes = []) := by
  cases h with
  | stays => exact ⟨fun _ => nofun, fun _ => Directory.extends_rfl⟩
  | fails _ hcontent =>
    refine ⟨fun _ => nofun, fun _ => ?_⟩
    rw [hcontent]
    exact Directory.extends_eraseAll
  | opens _ =>
    simp only [Option.isSome_some, forall_const]
    exact Directory.extends_insert_iff

end Roll

/-- The writer is at the end of the file that it has open. -/
def RollSt.AtEnd (s : RollSt) : Prop :=
  ∀ file, s.writer.file = some file → ∃ d bytes, s.content = some d ∧
    d.lookup file.name = some (.file bytes) ∧ bytes.length = file.position

/-- After a roll the writer is at the end of its file. -/
theorem RollCases.atEnd {s : RollSt} {io : RollIo} {r : Rolled}
    (h : RollCases s.writer s.content io r) (hs : s.AtEnd) :
    RollSt.AtEnd ⟨r.writer, r.content⟩ := by
  cases h with
  | stays => exact hs
  | fails _ _ => exact nofun
  | opens _ =>
    rintro file ⟨⟩
    exact ⟨_, [], rfl, AList.lookup_insert _, rfl⟩

/-- What a write adds goes to the end of the open file. -/
theorem append_spec {s : RollSt} (h : s.AtEnd) (buf : List UInt8) (n : Nat) :
    RollSt.AtEnd ⟨(s.writer.append s.content buf n).1, (s.writer.append s.content buf n).2⟩ ∧
      (s.content.getD ∅).Extends [] ((s.writer.append s.content buf n).2.getD ∅) := by
  cases hfile : s.writer.file with
  | none =>
    simp only [RollingWriter.append, hfile]
    exact ⟨h, Directory.extends_rfl⟩
  | some file =>
    obtain ⟨d, bytes, hd, hname, hposition⟩ := h file hfile
    simp only [RollingWriter.append, hfile, hd, Option.map_some, Option.getD_some]
    refine ⟨?_, Directory.extends_writeFile hname hposition⟩
    rintro file' ⟨⟩
    obtain ⟨new, hnew, hlen⟩ := Directory.lookup_writeFile (buf.take n) hname hposition
    exact ⟨_, new, rfl, hnew, hlen⟩

/-- A write after a roll that succeeded or failed: the file it appends to is at its end, and it
keeps what it should exactly when the name of that second was free, empty or to be removed. -/
theorem RollSt.write_spec {s : RollSt} (h : s.AtEnd) (io : RollIo) (buf : List UInt8) (n : Nat) :
    (s.write io buf n).1.AtEnd ∧ ((s.write io buf n).2.Keeps ↔ (s.write io buf n).2.Fresh) ∧
      ∃ w, (s.write io buf n).2 = .written w ∧ w.before = s.content.getD ∅ ∧
        w.after = (s.write io buf n).1.content.getD ∅ := by
  have hroll := s.writer.roll_cases s.content io
  have hrolled := hroll.atEnd h
  have hkeeps : ∀ after : Directory,
      Directory.Extends [] ((s.writer.roll s.content io).content.getD ∅) after →
      let w : Written :=
        ⟨s.writer, s.content, io, (s.writer.roll s.content io).content.getD ∅,
          (s.writer.roll s.content io).removed, (s.writer.roll s.content io).opened, after⟩
      w.Keeps ↔ w.Fresh := by
    intro after hafter
    have hextends := hroll.extends_iff
    rw [s.writer.roll_opened_iff] at hextends
    refine ⟨fun hkeeps => hextends.mp hkeeps.rolled, fun hfresh => ?_⟩
    exact ⟨hroll.few, fun hopened _ hname _ hmem => hroll.oldest hopened hname hmem,
      hextends.mpr hfresh, hafter⟩
  -- a write comes only after a roll that succeeded
  cases hresult : (s.writer.roll s.content io).result with
  | ok _ =>
    obtain ⟨hatEnd, hafter⟩ := append_spec hrolled buf n
    simp only [RollSt.write, hresult]
    exact ⟨hatEnd, hkeeps _ hafter, _, rfl, rfl, rfl⟩
  | error report =>
    simp only [RollSt.write, hresult]
    exact ⟨hrolled, hkeeps _ Directory.extends_rfl, _, rfl, rfl, rfl⟩

/-- The steps of the machine. -/
theorem rollMachine_step {s s' : RollSt} {a : RollAct} {e : LogEvent}
    (h : rollMachine.step s a = some (s', e)) :
    (∃ io buf n, s' = (s.write io buf n).1 ∧ e = (s.write io buf n).2) ∨
      s'.writer.file = none ∧ s'.content = s.content ∧ e = .restarted := by
  cases a with
  | write io buf n =>
    simp only [rollMachine, RollSt.step, Option.ite_none_right_eq_some, Option.some.injEq] at h
    obtain ⟨-, h⟩ := h
    exact .inl ⟨io, buf, n, by rw [h], by rw [h]⟩
  | restart cutoff count =>
    cases h
    exact .inr ⟨rfl, rfl, rfl⟩

/-- One write: the writer stays at the end of its file, and loses no byte exactly when its roll was
fresh. -/
theorem RollSt.AtEnd.step {s s' : RollSt} {a : RollAct} {e : LogEvent} (h : s.AtEnd)
    (hs : rollMachine.step s a = some (s', e)) : s'.AtEnd ∧ (e.Keeps ↔ e.Fresh) := by
  obtain ⟨io, buf, n, rfl, rfl⟩ | ⟨hfile, -, rfl⟩ := rollMachine_step hs
  · obtain ⟨hatEnd, hiff, -⟩ := RollSt.write_spec h io buf n
    exact ⟨hatEnd, hiff⟩
  · refine ⟨fun file heq => ?_, Iff.rfl⟩
    rw [hfile] at heq
    cases heq

/-- One step keeps what it should, as seen in the states before and after it. -/
theorem extends_of_keeps {s s' : RollSt} {a : RollAct} {e : LogEvent} (h : s.AtEnd)
    (hs : rollMachine.step s a = some (s', e)) (hkeeps : e.Keeps) :
    (s.content.getD ∅).Extends e.removed (s'.content.getD ∅) := by
  obtain ⟨io, buf, n, rfl, rfl⟩ | ⟨-, hcontent, rfl⟩ := rollMachine_step hs
  · obtain ⟨-, -, w, hw, hbefore, hafter⟩ := RollSt.write_spec h io buf n
    rw [hw] at hkeeps ⊢
    have hboth := hkeeps.rolled.trans hkeeps.written
    rwa [List.append_nil, hbefore, hafter] at hboth
  · rw [hcontent]
    exact Directory.extends_rfl

/-! ## Whole histories -/

/-- **Rotation.** Whatever the directory holds at first, and however often the daemon starts again:
every write keeps what it should exactly when no roll is to open a file under the name of one that
has something in it and is not removed; and then what was there at first, and was not removed, is
still there at the end. -/
theorem rotation_keeps_iff {dir : String} {cutoff count : Nat} {content : Option Directory}
    {tr : List LogEvent} {s : RollSt}
    (hrun : rollMachine.Run ⟨RollingWriter.new dir cutoff count, content⟩ tr s) :
    ((∀ e ∈ tr, e.Keeps) ↔ ∀ e ∈ tr, e.Fresh) ∧
      ((∀ e ∈ tr, e.Fresh) →
        (content.getD ∅).Extends (tr.flatMap LogEvent.removed) (s.content.getD ∅)) := by
  have hinit : RollSt.AtEnd ⟨RollingWriter.new dir cutoff count, content⟩ := nofun
  have hiff := hrun.forall_iff RollSt.AtEnd LogEvent.Keeps LogEvent.Fresh hinit
    fun s a s' e h hs => ⟨(h.step hs).2, fun _ => (h.step hs).1⟩
  refine ⟨hiff, fun hfresh => ?_⟩
  have hkeeps := hiff.mpr hfresh
  -- what was there at first is there after every step
  have hall : s.AtEnd ∧ ((∀ e ∈ tr, e.Keeps) →
      (content.getD ∅).Extends (tr.flatMap LogEvent.removed) (s.content.getD ∅)) := by
    refine hrun.invariant (fun tr s => s.AtEnd ∧ ((∀ e ∈ tr, e.Keeps) →
      (content.getD ∅).Extends (tr.flatMap LogEvent.removed) (s.content.getD ∅))) ?_ ?_
    · exact ⟨hinit, fun _ => Directory.extends_rfl⟩
    · rintro tr s a s' e - ⟨hatEnd, hextends⟩ hs
      refine ⟨(hatEnd.step hs).1, fun hkeeps => ?_⟩
      rw [List.forall_mem_append, List.forall_mem_singleton] at hkeeps
      rw [List.flatMap_append, List.flatMap_singleton]
      exact (hextends hkeeps.1).trans (extends_of_keeps hatEnd hs hkeeps.2)
  exact hall.2 hkeeps

/-- Three old logs. -/
def oldLogs : Directory :=
  AList.insert (logName ⟨2024, 1, 1, 0, 0, 0⟩) (.file [1])
    (AList.insert (logName ⟨2024, 3, 1, 0, 0, 0⟩) (.file [3])
      (AList.singleton (logName ⟨2024, 2, 1, 0, 0, 0⟩) (.file [2])))

/-- The name of a second that has none yet. -/
def LogEvent.named : LogEvent → Bool
  | restarted => false
  | written w => (w.before.lookup (logName w.io.now)).isSome

/-- A roll that opens no file that existed is fresh. -/
theorem LogEvent.fresh_of_not_named {e : LogEvent} (h : e.named = false) : e.Fresh := by
  cases e with
  | restarted => trivial
  | written w =>
    intro _ bytes hlookup _
    rw [named, hlookup] at h
    cases h

def LogEvent.opened? : LogEvent → Option Name
  | restarted => none
  | written w => w.opened

/-- With a cut-off of two bytes and one file to keep: the first roll removes the two oldest logs, the
second comes when the cut-off is exceeded, and the third after a restart. -/
def rotatingWrites : List RollAct :=
  [.write (RollIo.fine ⟨2025, 1, 2, 3, 4, 5⟩) [97, 98] 2,
    .write (RollIo.fine ⟨2025, 1, 2, 3, 4, 6⟩) [99] 1,
    .write (RollIo.fine ⟨2025, 1, 2, 3, 4, 7⟩) [100] 1,
    .restart 2 1,
    .write (RollIo.fine ⟨2025, 1, 2, 3, 4, 8⟩) [101] 1]

/-- Three rolls, over more files than are to be kept: four are removed, the newest and the new one are
left, and of those nothing is lost. -/
theorem rotation_keeps_rotated :
    ∃ tr s, rollMachine.Run ⟨RollingWriter.new "log" 2 1, some oldLogs⟩ tr s ∧
      tr.filterMap LogEvent.opened? = [logName ⟨2025, 1, 2, 3, 4, 5⟩,
        logName ⟨2025, 1, 2, 3, 4, 7⟩, logName ⟨2025, 1, 2, 3, 4, 8⟩] ∧
      tr.flatMap LogEvent.removed = [logName ⟨2024, 2, 1, 0, 0, 0⟩, logName ⟨2024, 1, 1, 0, 0, 0⟩,
        logName ⟨2024, 3, 1, 0, 0, 0⟩, logName ⟨2025, 1, 2, 3, 4, 5⟩] ∧
      (s.content.getD ∅).logNames.length = 2 ∧ (∀ e ∈ tr, e.Keeps) ∧
      oldLogs.Extends (tr.flatMap LogEvent.removed) (s.content.getD ∅) := by
  obtain ⟨s, tr, hrun, htest⟩ := Machine.exists_run_of_exec (M := rollMachine)
    (s := ⟨RollingWriter.new "log" 2 1, some oldLogs⟩) rotatingWrites
    (fun s tr => tr.all (fun e => !e.named) &&
      decide (tr.filterMap LogEvent.opened? = [logName ⟨2025, 1, 2, 3, 4, 5⟩,
        logName ⟨2025, 1, 2, 3, 4, 7⟩, logName ⟨2025, 1, 2, 3, 4, 8⟩]) &&
      decide (tr.flatMap LogEvent.removed = [logName ⟨2024, 2, 1, 0, 0, 0⟩,
        logName ⟨2024, 1, 1, 0, 0, 0⟩, logName ⟨2024, 3, 1, 0, 0, 0⟩,
        logName ⟨2025, 1, 2, 3, 4, 5⟩]) &&
      decide ((s.content.getD ∅).logNames.length = 2)) (by decide +kernel)
  simp only [Bool.and_eq_true, List.all_eq_true, decide_eq_true_eq, Bool.not_eq_true'] at htest
  obtain ⟨⟨⟨hnamed, hopened⟩, hremoved⟩, hleft⟩ := htest
  have hfresh : ∀ e ∈ tr, e.Fresh := fun e he => LogEvent.fresh_of_not_named (hnamed e he)
  obtain ⟨hkeeps, hextends⟩ := rotation_keeps_iff hrun
  exact ⟨tr, s, hrun, hopened, hremoved, hleft, hkeeps.mpr hfresh, hextends hfresh⟩

/-- No log yet. -/
def RollSt.first : RollSt := ⟨RollingWriter.new "log" (10 * 1024 * 1024) 5, none⟩

/-- The roll emptied a file that it did not remove. -/
def LogEvent.truncates (now : OffsetDateTime) : LogEvent → Bool
  | restarted => false
  | written w =>
    (w.before.lookup (logName now)).any (fun entry => entry ≠ .file [] && entry ≠ .directory) &&
      decide (logName now ∉ w.removed) && decide (w.rolled.lookup (logName now) = some (.file []))

/-- A file that was emptied has lost its bytes. -/
theorem LogEvent.not_keeps_of_truncates {now : OffsetDateTime} {e : LogEvent}
    (h : e.truncates now = true) : ¬ e.Keeps := by
  intro hkeeps
  cases e with
  | restarted => cases h
  | written w =>
    simp only [truncates, Bool.and_eq_true, decide_eq_true_eq, Option.any_eq_true] at h
    obtain ⟨⟨⟨entry, hbefore, hne, hfile⟩, hkept⟩, hrolled⟩ := h
    cases entry with
    | directory => exact hfile rfl
    | file bytes =>
      obtain ⟨bytes', hlookup, hle⟩ := hkeeps.rolled _ bytes hbefore hkept
      rw [hrolled] at hlookup
      cases hlookup
      rw [List.prefix_nil.mp hle] at hne
      exact hne rfl

def LogEvent.happensAt (now : OffsetDateTime) : LogEvent → Bool
  | restarted => true
  | written w => decide (w.io.now = now)

/-- A daemon that starts again within the second takes what its predecessor logged in it. -/
theorem rotation_loses :
    ¬ ∀ (now : OffsetDateTime) (dir : String) (cutoff count : Nat) (content : Option Directory)
      (tr : List LogEvent) (s : RollSt),
      rollMachine.Run ⟨RollingWriter.new dir cutoff count, content⟩ tr s →
        (∀ e ∈ tr, e.happensAt now = true) → ∀ e ∈ tr, e.Keeps := by
  intro h
  obtain ⟨s, tr, hrun, htest⟩ := Machine.exists_run_of_exec (M := rollMachine)
    (s := RollSt.first)
    [.write (RollIo.fine ⟨2025, 1, 2, 3, 4, 5⟩) [97] 1, .restart (10 * 1024 * 1024) 5,
      .write (RollIo.fine ⟨2025, 1, 2, 3, 4, 5⟩) [98] 1]
    (fun _ tr => tr.all (LogEvent.happensAt ⟨2025, 1, 2, 3, 4, 5⟩) &&
      tr.any (LogEvent.truncates ⟨2025, 1, 2, 3, 4, 5⟩)) (by decide +kernel)
  rw [Bool.and_eq_true, List.all_eq_true, List.any_eq_true] at htest
  obtain ⟨htime, e, he, htruncates⟩ := htest
  exact LogEvent.not_keeps_of_truncates htruncates (h _ _ _ _ _ tr s hrun htime e he)

end AdbDaemon.Log
