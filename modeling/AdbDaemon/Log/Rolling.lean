import AdbDaemon.Common.Largest
import AdbDaemon.Common.Machine
import AdbDaemon.Common.Paths
import AdbDaemon.Common.Table
import Mathlib.Data.String.Basic

/-!
# The rotation of a log

Reference: `RollingWriter` of `src/log.rs`.

A writer keeps one file of its directory open and starts another one when that is longer than the
cut-off; before, all but the `count` files with the largest names are removed. A file is named after
the second in which it is created, and `File::create` empties a file that has the name already.

A directory is what the listing shows of it: an entry whose name is not UTF-8 is passed over by
`filter_map(Result::ok)`, and no call touches it. The calls of the system may fail, and a write may
be accepted in part; `RollIo` and the actions of `rollMachine` say how they end. When the writer last
complained about a failure (`error_timeout`) is left out.
-/

namespace AdbDaemon.Log

open Common

/-! ## File names -/

/-- `OffsetDateTime`, to the second. -/
structure OffsetDateTime where
  year : Int
  month : Nat
  day : Nat
  hour : Nat
  minute : Nat
  second : Nat
deriving DecidableEq

/-- The decimal digits of `n`, with zeros in front of them up to `width`. -/
def padZero (width n : Nat) : List Char := (Nat.toDigits 10 n).leftpad width '0'

/-- `[year]`, which has a sign when it is negative or longer than four digits. -/
def formatYear (year : Int) : List Char :=
  (if year < 0 then ['-'] else if 10000 ≤ year then ['+'] else []) ++ padZero 4 year.natAbs

/-- `[year]_[month]_[day]__[hour]_[minute]_[second]` -/
def OffsetDateTime.format (t : OffsetDateTime) : List Char :=
  formatYear t.year ++ '_' :: padZero 2 t.month ++ '_' :: padZero 2 t.day ++
    '_' :: '_' :: padZero 2 t.hour ++ '_' :: padZero 2 t.minute ++ '_' :: padZero 2 t.second

theorem slash_not_mem_padZero (width n : Nat) : '/' ∉ padZero width n := by
  rw [padZero, List.leftpad, List.mem_append, not_or]
  refine ⟨fun h => absurd (List.eq_of_mem_replicate h) (by decide), fun h => ?_⟩
  exact absurd (Nat.isDigit_of_mem_toDigits (by decide) (by decide) h) (by decide)

/-- The text of a time holds no slash. -/
theorem slash_not_mem_format (t : OffsetDateTime) : '/' ∉ t.format := by
  have hyear : '/' ∉ formatYear t.year := by
    rw [formatYear, List.mem_append, not_or]
    refine ⟨?_, slash_not_mem_padZero _ _⟩
    split
    · decide
    · split <;> decide
  simp [OffsetDateTime.format, hyear, slash_not_mem_padZero]

/-- A text that ends in `.log` and has no slash names an entry of a directory. -/
theorem isName_append_log {cs : List Char} (h : '/' ∉ cs) : IsName (String.ofList cs ++ ".log") := by
  have hlen : 4 ≤ (String.ofList cs ++ ".log").length := by
    rw [String.length_append]
    exact Nat.le_add_left _ _
  refine ⟨?_, by simp [String.toList_append, h], ?_, ?_⟩
  · rintro heq
    rw [heq] at hlen
    exact absurd hlen (by decide)
  · rintro heq
    rw [heq] at hlen
    exact absurd hlen (by decide)
  · rintro heq
    rw [heq] at hlen
    exact absurd hlen (by decide)

/-- The name of a file created at `t`. The formatted time has no extension that `with_extension`
would replace. -/
def logName (t : OffsetDateTime) : Name :=
  ⟨String.ofList t.format ++ ".log", isName_append_log (slash_not_mem_format t)⟩

def isLog (name : Name) : Bool := ".log".toList.isSuffixOf name.1.toList

/-! ## Directories -/

/-- What a name of a directory stands for. -/
inductive Entry where
  | file (bytes : List UInt8)
  | directory
deriving DecidableEq

abbrev Directory : Type := Table Name Entry

namespace Directory

/-- The names of the `.log` entries. -/
def logNames (d : Directory) : List Name := d.keys.filter isLog

/-- `fs::remove_file` -/
def removeFile (d : Directory) (name : Name) : Option Directory :=
  match d.lookup name with
  | some (.file _) => some (d.erase name)
  | _ => none

/-- `File::create` -/
def createFile (d : Directory) (name : Name) : Option Directory :=
  match d.lookup name with
  | some .directory => none
  | _ => some (d.insert name (.file []))

/-- Put `bytes` into a file at `position`, over what is there. -/
def writeFile (d : Directory) (name : Name) (position : Nat) (bytes : List UInt8) : Directory :=
  match d.lookup name with
  | some (.file old) =>
    d.insert name (.file (old.take position ++ bytes ++ old.drop (position + bytes.length)))
  | _ => d

variable {d d' : Directory} {name : Name}

theorem nodup_logNames : d.logNames.Nodup :=
  d.keys_nodup.sublist List.filter_sublist

/-- A file can be created unless there is a directory of that name. -/
theorem isSome_createFile : (d.createFile name).isSome ↔ d.lookup name ≠ some .directory := by
  rw [createFile]
  split
  · rename_i hname
    simp [hname]
  · rename_i hname
    simpa using hname

/-- A file is removed, and a directory is not. -/
theorem removeFile_eq_some :
    d.removeFile name = some d' ↔
      (∃ bytes, d.lookup name = some (.file bytes)) ∧ d.erase name = d' := by
  rw [removeFile]
  split
  · rename_i bytes hname
    simp [hname]
  · rename_i hname
    refine ⟨nofun, fun ⟨⟨bytes, h⟩, _⟩ => ?_⟩
    exact absurd h (hname bytes)

end Directory

/-! ## The writer -/

/-- An open file and where the next byte goes. -/
structure LogFile where
  name : Name
  position : Nat
deriving DecidableEq

/-- `RollingWriter`: directory, cut-off, how many files to keep, and the file that is open. -/
structure RollingWriter where
  dir : String
  cutoff : Nat
  count : Nat
  file : Option LogFile
deriving DecidableEq

/-- `RollingWriter::new`: no file is open yet. -/
def RollingWriter.new (dir : String) (cutoff count : Nat) : RollingWriter := ⟨dir, cutoff, count, none⟩

/-- How the calls of a roll end, and the time it reads. -/
structure RollIo where
  now : OffsetDateTime
  streamPosition : Bool
  createDirAll : Bool
  readDir : Bool
  removeFile : Name → Bool
  create : Bool

/-- No call fails. -/
def RollIo.fine (now : OffsetDateTime) : RollIo := ⟨now, true, true, true, fun _ => true, true⟩

/-- What is left after a roll: the writer, the directory if it exists, the files that were removed
and the one that was created, and the result. -/
structure Rolled where
  writer : RollingWriter
  content : Option Directory
  removed : List Name
  opened : Option Name
  result : Except String Unit

/-- Remove files one after the other, up to the first failure: the directory, the files that were
removed, and whether all of them were. -/
def prune (remove : Name → Bool) : Directory → List Name → Directory × List Name × Bool
  | d, [] => (d, [], true)
  | d, name :: names =>
    match if remove name then d.removeFile name else none with
    | none => (d, [], false)
    | some d' =>
      let (d'', removed, all) := prune remove d' names
      (d'', name :: removed, all)

namespace RollingWriter

/-- The files that a roll removes: the `.log` entries but the last `count` in the order of names. -/
def old (w : RollingWriter) (d : Directory) : List Name := beyond w.count d.logNames

/-- A new file in a directory that exists. -/
def rotate (w : RollingWriter) (d : Directory) (io : RollIo) : Rolled :=
  if io.readDir then
    match prune io.removeFile d (w.old d) with
    | (d', removed, false) => ⟨w, some d', removed, none, .error "remove old log file"⟩
    | (d', removed, true) =>
      match if io.create then d'.createFile (logName io.now) else none with
      | none => ⟨w, some d', removed, none, .error "create log file"⟩
      | some d'' =>
        ⟨{ w with file := some ⟨logName io.now, 0⟩ }, some d'', removed, some (logName io.now),
          .ok ()⟩
  else ⟨w, some d, [], none, .error "read log dir"⟩

/-- A new file. -/
def openFile (w : RollingWriter) (content : Option Directory) (io : RollIo) : Rolled :=
  match content with
  | some d => w.rotate d io
  | none =>
    if io.createDirAll then w.rotate ∅ io else ⟨w, none, [], none, .error "create log dir"⟩

/-- `RollingWriter::roll`: a file is opened if none is open, or if that one is past the cut-off. -/
def roll (w : RollingWriter) (content : Option Directory) (io : RollIo) : Rolled :=
  match w.file with
  | none => w.openFile content io
  | some file =>
    if io.streamPosition then
      if file.position > w.cutoff then { w with file := none }.openFile content io
      else ⟨w, content, [], none, .ok ()⟩
    else ⟨w, content, [], none, .error "stream position"⟩

/-- `n` bytes of `buf` are accepted by the open file. -/
def append (w : RollingWriter) (content : Option Directory) (buf : List UInt8) (n : Nat) :
    RollingWriter × Option Directory :=
  match w.file with
  | none => (w, content)
  | some file =>
    ({ w with file := some { file with position := file.position + (buf.take n).length } },
      content.map fun d => d.writeFile file.name file.position (buf.take n))

end RollingWriter

/-! ## What a roll can do -/

/-- The names are taken in their order, up to the first that cannot be removed. -/
theorem prune_spec {remove : Name → Bool} {d d' : Directory} {names removed : List Name}
    {all : Bool} (h : prune remove d names = (d', removed, all)) :
    removed <+: names ∧ (all = true → removed = names) ∧ d' = Table.eraseAll d removed := by
  induction names generalizing d d' removed all with
  | nil =>
    cases h
    exact ⟨List.prefix_rfl, fun _ => rfl, rfl⟩
  | cons name names ih =>
    rw [prune] at h
    split at h
    · cases h
      exact ⟨List.nil_prefix, nofun, rfl⟩
    · rename_i d₁ hremove
      rw [Option.ite_none_right_eq_some, Directory.removeFile_eq_some] at hremove
      obtain ⟨-, -, rfl⟩ := hremove
      cases hrest : prune remove (d.erase name) names with
      | mk d₂ rest =>
        obtain ⟨removed', all'⟩ := rest
        simp only [hrest] at h
        cases h
        obtain ⟨hfirst, hall, rfl⟩ := ih hrest
        exact ⟨List.cons_prefix_cons.mpr ⟨rfl, hfirst⟩, fun h => by rw [hall h], rfl⟩

/-- The outcomes of a roll. -/
inductive RollCases (w : RollingWriter) (content : Option Directory) (io : RollIo) : Rolled → Prop
  /-- The open file is not too long, or its length cannot be told. -/
  | stays {result : Except String Unit} : RollCases w content io ⟨w, content, [], none, result⟩
  /-- No file is open any more, and some old ones may be gone. -/
  | fails {content' : Option Directory} {removed : List Name} {report : String}
      (hold : removed <+: w.old (content.getD ∅))
      (hcontent : content'.getD ∅ = Table.eraseAll (content.getD ∅) removed) :
      RollCases w content io ⟨{ w with file := none }, content', removed, none, .error report⟩
  | opens (hdirectory : (Table.eraseAll (content.getD ∅) (w.old (content.getD ∅))).lookup
        (logName io.now) ≠ some .directory) :
      RollCases w content io
        ⟨{ w with file := some ⟨logName io.now, 0⟩ },
          some ((Table.eraseAll (content.getD ∅) (w.old (content.getD ∅))).insert
            (logName io.now) (.file [])),
          w.old (content.getD ∅), some (logName io.now), .ok ()⟩

theorem RollingWriter.rotate_cases (w : RollingWriter) (content : Option Directory) (io : RollIo) :
    RollCases w content io ({ w with file := none }.rotate (content.getD ∅) io) := by
  rw [rotate]
  split
  · split
    · rename_i d' removed hprune
      obtain ⟨hold, -, hd'⟩ := prune_spec hprune
      exact .fails hold hd'
    · rename_i d' removed hprune
      obtain ⟨hold, hall, hd'⟩ := prune_spec hprune
      split
      · exact .fails hold hd'
      · rename_i d'' hcreate
        rw [Option.ite_none_right_eq_some, Directory.createFile] at hcreate
        obtain ⟨-, hcreate⟩ := hcreate
        split at hcreate
        · cases hcreate
        · rename_i hdirectory
          cases hcreate
          obtain rfl := hall rfl
          subst hd'
          exact .opens hdirectory
  · exact .fails List.nil_prefix rfl

/-- An opening is one of `RollCases`, with or without a directory to make. -/
theorem RollingWriter.openFile_cases (w : RollingWriter) (content : Option Directory) (io : RollIo) :
    RollCases w content io ({ w with file := none }.openFile content io) := by
  cases content with
  | some d => exact w.rotate_cases (some d) io
  | none =>
    rw [openFile]
    split
    · exact w.rotate_cases none io
    · exact .fails List.nil_prefix rfl

theorem RollingWriter.roll_cases (w : RollingWriter) (content : Option Directory) (io : RollIo) :
    RollCases w content io (w.roll content io) := by
  rw [roll]
  split
  · rename_i hfile
    have hclosed : w = { w with file := none } := by rw [← hfile]
    have hopen := w.openFile_cases content io
    rwa [← hclosed] at hopen
  · split
    · split
      · exact w.openFile_cases content io
      · exact .stays
    · exact .stays

/-! ## When a roll opens a file -/

/-- No file is open, or the open one is too long. -/
def RollingWriter.due (w : RollingWriter) (io : RollIo) : Bool :=
  match w.file with
  | none => true
  | some file => io.streamPosition && decide (file.position > w.cutoff)

/-- A new file is due, and every call that it takes succeeds: what is too old are files that can be
removed, and no directory has the name of the new file. -/
structure RollingWriter.Opens (w : RollingWriter) (content : Option Directory) (io : RollIo) :
    Prop where
  due : w.due io = true
  createDirAll : content = none → io.createDirAll = true
  readDir : io.readDir = true
  removeFile : ∀ name ∈ w.old (content.getD ∅), io.removeFile name = true ∧
    ∃ bytes, (content.getD ∅).lookup name = some (.file bytes)
  create : io.create = true
  isFile : (content.getD ∅).lookup (logName io.now) ≠ some .directory

/-- Different files are removed independently of each other, so all of them go exactly when each of
them can be removed. -/
theorem prune_all_iff {remove : Name → Bool} {d : Directory} {names : List Name}
    (hnodup : names.Nodup) :
    (prune remove d names).2.2 = true ↔
      ∀ name ∈ names, remove name = true ∧ ∃ bytes, d.lookup name = some (.file bytes) := by
  induction names generalizing d with
  | nil => exact ⟨fun _ => nofun, fun _ => rfl⟩
  | cons name names ih =>
    obtain ⟨hname, hnodup⟩ := List.nodup_cons.mp hnodup
    rw [List.forall_mem_cons, prune]
    split
    · rename_i hremove
      refine ⟨nofun, fun ⟨⟨hok, bytes, hfile⟩, _⟩ => ?_⟩
      rw [if_pos hok, Directory.removeFile_eq_some.mpr ⟨⟨bytes, hfile⟩, rfl⟩] at hremove
      cases hremove
    · rename_i d' hremove
      rw [Option.ite_none_right_eq_some, Directory.removeFile_eq_some] at hremove
      obtain ⟨hok, hfile, rfl⟩ := hremove
      -- the other names are in the directory after as they were before
      have hothers : ∀ name' ∈ names, (d.erase name).lookup name' = d.lookup name' := by
        intro name' hname'
        exact AList.lookup_erase_ne (by rintro rfl; exact hname hname')
      show (prune remove (d.erase name) names).2.2 = true ↔ _
      rw [ih hnodup]
      constructor
      · exact fun h => ⟨⟨hok, hfile⟩, fun name' hname' => by
          rw [← hothers name' hname']
          exact h name' hname'⟩
      · exact fun h name' hname' => by
          rw [hothers name' hname']
          exact h.2 name' hname'

/-- Once what is too old is gone, the name of the new file is a directory's only if it was before. -/
theorem RollingWriter.isSome_createFile_eraseAll {w : RollingWriter} {d : Directory} {name : Name}
    (hfiles : ∀ name ∈ w.old d, ∃ bytes, d.lookup name = some (.file bytes)) :
    (Directory.createFile (Table.eraseAll d (w.old d)) name).isSome ↔
      d.lookup name ≠ some .directory := by
  rw [Directory.isSome_createFile, not_iff_not, Table.lookup_eraseAll_eq_some]
  refine ⟨And.right, fun hdirectory => ⟨fun hold => ?_, hdirectory⟩⟩
  obtain ⟨bytes, hfile⟩ := hfiles name hold
  rw [hdirectory] at hfile
  cases hfile

/-- A rotation comes to an open file exactly when all calls to the system succeed. -/
theorem RollingWriter.rotate_opened_iff (w : RollingWriter) (d : Directory) (io : RollIo) :
    (w.rotate d io).opened.isSome ↔
      io.readDir = true ∧
        (∀ name ∈ w.old d, io.removeFile name = true ∧
          ∃ bytes, d.lookup name = some (.file bytes)) ∧
        io.create = true ∧ d.lookup (logName io.now) ≠ some .directory := by
  have hall : (prune io.removeFile d (w.old d)).2.2 = true ↔ _ :=
    prune_all_iff (nodup_beyond Directory.nodup_logNames)
  rw [rotate]
  split
  · rename_i hread
    rw [← hall]
    split
    · rename_i hprune
      -- a removal failed, and the rotation with it
      simp [hprune]
    · rename_i d' removed hprune
      obtain ⟨-, hremoved, rfl⟩ := prune_spec hprune
      rw [hprune] at hall
      -- everything old is removed, so the new name is looked up in what is left
      obtain rfl := hremoved rfl
      have hcreate : (Directory.createFile (Table.eraseAll d (w.old d)) (logName io.now)).isSome ↔
          d.lookup (logName io.now) ≠ some .directory :=
        isSome_createFile_eraseAll fun name hname => (hall.mp rfl name hname).2
      simp only [hread, hprune, true_and, ← hcreate]
      cases io.create with
      | false => simp
      | true =>
        simp only [if_true, true_and]
        split
        · rename_i hnone
          simp [hnone]
        · rename_i hsome
          simp [hsome]
  · rename_i hread
    exact ⟨nofun, fun h => absurd h.1 hread⟩

/-- So does an opening, which may have to make the directory first. -/
theorem RollingWriter.openFile_opened_iff {w : RollingWriter} {content : Option Directory}
    {io : RollIo} (hdue : w.due io = true) (w' : RollingWriter) (hcount : w'.count = w.count) :
    (w'.openFile content io).opened.isSome ↔ w.Opens content io := by
  have hold : w'.old (content.getD ∅) = w.old (content.getD ∅) := by rw [old, old, hcount]
  have hrotate := w'.rotate_opened_iff (content.getD ∅) io
  rw [hold] at hrotate
  have hopens : (w.Opens content io ↔ (content = none → io.createDirAll = true) ∧
      (w'.rotate (content.getD ∅) io).opened.isSome) := by
    rw [hrotate]
    exact ⟨fun ⟨_, h₁, h₂, h₃, h₄, h₅⟩ => ⟨h₁, h₂, h₃, h₄, h₅⟩,
      fun ⟨h₁, h₂, h₃, h₄, h₅⟩ => ⟨hdue, h₁, h₂, h₃, h₄, h₅⟩⟩
  rw [hopens]
  cases content with
  | some d => simp [openFile]
  | none =>
    rw [openFile]
    split
    · rename_i hcreate
      simp [hcreate]
    · rename_i hcreate
      simp [hcreate]

/-- A roll for which a file is due opens one. -/
theorem RollingWriter.roll_of_due {w : RollingWriter} {io : RollIo} (hdue : w.due io = true)
    (content : Option Directory) :
    w.roll content io = { w with file := none }.openFile content io := by
  cases hfile : w.file with
  | none =>
    have hclosed : w = { w with file := none } := by rw [← hfile]
    rw [roll, hfile, ← hclosed]
  | some file =>
    rw [due, hfile, Bool.and_eq_true, decide_eq_true_eq] at hdue
    simp only [roll, hfile, hdue, if_true]

/-- A roll for which none is due opens none. -/
theorem RollingWriter.opened_of_not_due {w : RollingWriter} {io : RollIo}
    (hdue : ¬ w.due io = true) (content : Option Directory) :
    (w.roll content io).opened = none := by
  cases hfile : w.file with
  | none =>
    rw [due, hfile] at hdue
    exact absurd rfl hdue
  | some file =>
    rw [due, hfile, Bool.and_eq_true, decide_eq_true_eq] at hdue
    simp only [roll, hfile]
    split
    · rename_i hposition
      rw [if_neg fun hlong => hdue ⟨hposition, hlong⟩]
    · rfl

/-- A roll opens a file exactly when one is due and no call fails. -/
theorem RollingWriter.roll_opened_iff (w : RollingWriter) (content : Option Directory)
    (io : RollIo) : (w.roll content io).opened.isSome ↔ w.Opens content io := by
  by_cases hdue : w.due io = true
  · rw [roll_of_due hdue]
    exact openFile_opened_iff hdue _ rfl
  · rw [opened_of_not_due hdue]
    exact ⟨nofun, fun h => absurd h.due hdue⟩

end AdbDaemon.Log
