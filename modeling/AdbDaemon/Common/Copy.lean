import AdbDaemon.Common.Pipes

/-!
# Copying from one pipe to another

A task that reads from a pipe and writes to another one makes them one pipe, as long as it copies:
what is on its way is in the target, in the buffer of the task and in the source, in this order
(`CopyRel`). A task that stops early leaves a pipe whose reader has been given up; one that stops at
the end of its source has copied everything.
-/

namespace AdbDaemon.Common

universe u

namespace PipeAct

variable {β : Type u}

/-- What a writer does. -/
def byWriter : PipeAct β → Bool
  | .write _ | .finish => true
  | _ => false

/-- What a reader does that does not give the stream up. -/
def byReader : PipeAct β → Bool
  | .read _ | .eof => true
  | _ => false

end PipeAct

section
variable {β : Type u} [DecidableEq β]

namespace Pipe

variable {p q : Pipe β} {bs : List β}

/-- A read takes from the front of the queue. -/
theorem step_read : p.step (.read bs) = some q ↔
    bs <+: p.queue ∧ q = { p with queue := p.queue.drop bs.length } := by
  rw [step, Option.ite_none_right_eq_some, Option.some.injEq]
  exact and_congr_right fun _ => eq_comm

/-- The end is told of a pipe that was given up, or of one that is finished and empty. -/
theorem step_eof : p.step .eof = some q ↔
    (p.abandoned = true ∨ p.finished = true ∧ p.queue = []) ∧ q = p := by
  rw [step, Option.ite_none_right_eq_some, Option.some.injEq]
  exact and_congr_right fun _ => eq_comm

/-- Nothing is read from a pipe to which nothing was written. -/
theorem exec_empty {acts : List (PipeAct β)} (hacts : ∀ a ∈ acts, a.byReader = true)
    (h : Pipe.empty.exec acts = some q) : q = .empty := by
  induction acts with
  | nil => exact (Option.some.inj h).symm
  | cons a acts ih =>
    obtain ⟨p, hp, hrest⟩ := Option.bind_eq_some_iff.mp h
    have hempty : p = .empty := by
      cases a with
      | read bs =>
        obtain ⟨hbefore, rfl⟩ := step_read.mp hp
        simp [empty]
      | eof => exact (step_eof.mp hp).2
      | write | finish | abandon => exact absurd (hacts _ (.head _)) (by simp [PipeAct.byReader])
    rw [hempty] at hrest
    exact ih (fun a ha => hacts a (.tail _ ha)) hrest

theorem exec_append {acts acts' : List (PipeAct β)} :
    p.exec (acts ++ acts') = (p.exec acts).bind fun q => q.exec acts' := by
  induction acts generalizing p with
  | nil => rfl
  | cons a acts ih =>
    rw [List.cons_append, exec, exec]
    cases p.step a with
    | none => rfl
    | some q => exact ih

end Pipe

/-- What a run of the family does to one pipe. -/
theorem pipes_exec {ι : Type u} [DecidableEq ι] {p p' : ι → Pipe β} {tr : List (ι × PipeAct β)}
    (h : (pipes ι β).Run p tr p') (i : ι) : (p i).exec (actsOf i tr) = some (p' i) := by
  induction h with
  | nil => rfl
  | snoc _ hs ih =>
    obtain ⟨rfl, q, hq, rfl⟩ := pipes_step hs
    rw [actsOf_append, Pipe.exec_append, ih, Option.bind_some, actsOf_singleton]
    split
    · rename_i hi
      subst hi
      rw [Function.update_self, Pipe.exec, hq]
      rfl
    · rename_i hi
      rw [Function.update_of_ne (Ne.symm hi)]
      rfl

/-! ## The relation -/

/-- Source, target and what they are together; `buf` is what the task has read and not written, and
`none` if it no longer copies. -/
structure CopyRel (source target whole : Pipe β) (buf : Option (List β)) : Prop where
  finished : whole.finished = source.finished
  kept : target.abandoned = false
  copying : ∀ bs, buf = some bs → target.finished = false ∧
    whole.queue = target.queue ++ bs ++ source.queue ∧
    (source.abandoned = true → whole.abandoned = true)
  stopped : buf = none → target.queue <+: whole.queue ∧
    (whole.abandoned = false → whole.finished = true ∧ whole.queue = target.queue)

namespace CopyRel

variable {source source' target target' whole : Pipe β} {buf : Option (List β)} {bs rest : List β}
  {a : PipeAct β}

omit [DecidableEq β] in
theorem new : CopyRel (β := β) .empty .empty .empty (some []) where
  finished := rfl
  kept := rfl
  copying bs h := by
    cases h
    exact ⟨rfl, rfl, id⟩
  stopped h := by cases h

/-- The writer of the source writes, or finishes: the whole pipe gets the same bytes behind what the
copier holds, or the same end. -/
theorem byWriter (h : CopyRel source target whole buf) (ha : a.byWriter = true)
    (hs : source.step a = some source') :
    ∃ whole', whole.step a = some whole' ∧ CopyRel source' target whole' buf := by
  cases a with
  -- the copier has not taken the bytes yet: they go behind what it holds, in both pipes
  | write bs =>
    cases hs
    refine ⟨_, rfl, ?_⟩
    have hfin := h.finished
    cases hend : source.finished with
    | true => simpa [hfin, hend] using h
    | false =>
      rw [hend] at hfin
      simp only [hfin, Bool.false_eq_true, if_false]
      refine ⟨rfl, h.kept, fun bs' hbuf => ?_, fun hbuf => ?_⟩
      · obtain ⟨hopen, hqueue, hab⟩ := h.copying bs' hbuf
        exact ⟨hopen, by rw [hqueue, List.append_assoc], hab⟩
      · -- a copier that stopped takes nothing more, so the target keeps a prefix only
        obtain ⟨hbefore, hend'⟩ := h.stopped hbuf
        refine ⟨hbefore.trans (List.prefix_append _ _), fun hab => ?_⟩
        rw [(hend' hab).1] at hfin
        cases hfin
  | finish =>
    cases hs
    refine ⟨_, rfl, rfl, h.kept, h.copying, fun hbuf => ?_⟩
    obtain ⟨hbefore, hend⟩ := h.stopped hbuf
    exact ⟨hbefore, fun hab => ⟨rfl, (hend hab).2⟩⟩
  | read | eof | abandon => cases ha

/-- The reader of the target reads what the copier has written already, which the whole pipe holds
in front, or finds the end that the copier has passed on. -/
theorem byReader (h : CopyRel source target whole buf) (ha : a.byReader = true)
    (hs : target.step a = some target') :
    ∃ whole', whole.step a = some whole' ∧ CopyRel source target' whole' buf := by
  -- whether the copier still runs or not, the target holds the first part of the whole pipe
  have hbefore : target.queue <+: whole.queue := by
    cases buf with
    | none => exact (h.stopped rfl).1
    | some bs =>
      rw [(h.copying bs rfl).2.1, List.append_assoc]
      exact List.prefix_append _ _
  cases a with
  | read bs =>
    obtain ⟨hbs, rfl⟩ := Pipe.step_read.mp hs
    refine ⟨_, Pipe.step_read.mpr ⟨hbs.trans hbefore, rfl⟩, h.finished, h.kept, ?_, ?_⟩
    · intro bs' hbuf
      obtain ⟨hopen, hqueue, hab⟩ := h.copying bs' hbuf
      refine ⟨hopen, ?_, hab⟩
      rw [hqueue, List.append_assoc, List.drop_append_of_le_length hbs.length_le, List.append_assoc]
    · intro hbuf
      refine ⟨hbefore.drop _, fun hab => ?_⟩
      obtain ⟨hfin, hqueue⟩ := (h.stopped hbuf).2 hab
      exact ⟨hfin, by rw [hqueue]⟩
  | eof =>
    obtain ⟨hend, rfl⟩ := Pipe.step_eof.mp hs
    refine ⟨whole, Pipe.step_eof.mpr ⟨?_, rfl⟩, h⟩
    rw [h.kept] at hend
    obtain hfalse | ⟨hfin, hnil⟩ := hend
    · cases hfalse
    cases buf with
    -- a running copier has not finished the target, so there is no end to read
    | some bs =>
      rw [(h.copying bs rfl).1] at hfin
      cases hfin
    | none =>
      cases hab : whole.abandoned with
      | true => exact .inl rfl
      | false =>
        obtain ⟨hfin, hqueue⟩ := (h.stopped rfl).2 hab
        exact .inr ⟨hfin, by rw [hqueue, hnil]⟩
  | write | finish | abandon => cases ha

/-- Several steps of the writer of the source. -/
theorem byWriters (h : CopyRel source target whole buf) {acts : List (PipeAct β)}
    (hacts : ∀ a ∈ acts, a.byWriter = true) (hs : source.exec acts = some source') :
    ∃ whole', whole.exec acts = some whole' ∧ CopyRel source' target whole' buf := by
  induction acts generalizing source whole with
  | nil =>
    cases hs
    exact ⟨whole, rfl, h⟩
  | cons a acts ih =>
    obtain ⟨source₁, hstep, hrest⟩ := Option.bind_eq_some_iff.mp hs
    obtain ⟨whole₁, hwhole, h₁⟩ := h.byWriter (hacts a (.head _)) hstep
    obtain ⟨whole', hexec, h'⟩ := ih h₁ (fun a ha => hacts a (.tail _ ha)) hrest
    exact ⟨whole', by rw [Pipe.exec, hwhole]; exact hexec, h'⟩

/-- Several steps of the reader of the target. -/
theorem byReaders (h : CopyRel source target whole buf) {acts : List (PipeAct β)}
    (hacts : ∀ a ∈ acts, a.byReader = true) (hs : target.exec acts = some target') :
    ∃ whole', whole.exec acts = some whole' ∧ CopyRel source target' whole' buf := by
  induction acts generalizing target whole with
  | nil =>
    cases hs
    exact ⟨whole, rfl, h⟩
  | cons a acts ih =>
    obtain ⟨target₁, hstep, hrest⟩ := Option.bind_eq_some_iff.mp hs
    obtain ⟨whole₁, hwhole, h₁⟩ := h.byReader (hacts a (.head _)) hstep
    obtain ⟨whole', hexec, h'⟩ := ih h₁ (fun a ha => hacts a (.tail _ ha)) hrest
    exact ⟨whole', by rw [Pipe.exec, hwhole]; exact hexec, h'⟩

/-- The task reads. -/
theorem read (h : CopyRel source target whole (some [])) (hs : source.step (.read bs) = some source') :
    CopyRel source' target whole (some bs) := by
  obtain ⟨⟨rest, hrest⟩, rfl⟩ := Pipe.step_read.mp hs
  refine ⟨h.finished, h.kept, fun bs' hbuf => ?_, fun hbuf => by cases hbuf⟩
  cases hbuf
  obtain ⟨hopen, hqueue, hab⟩ := h.copying [] rfl
  refine ⟨hopen, ?_, hab⟩
  rw [hqueue, ← hrest, List.drop_left, List.append_nil, List.append_assoc]

/-- The task writes a part of its buffer. -/
theorem write (h : CopyRel source target whole (some (bs ++ rest)))
    (hs : target.step (.write bs) = some target') : CopyRel source target' whole (some rest) := by
  obtain ⟨hopen, hqueue, hab⟩ := h.copying _ rfl
  have hstep : target.step (.write bs) = some { target with queue := target.queue ++ bs } := by
    simp [Pipe.step, hopen]
  obtain rfl := Option.some.inj (hstep.symm.trans hs)
  refine ⟨h.finished, h.kept, fun bs' hbuf => ?_, fun hbuf => by cases hbuf⟩
  cases hbuf
  refine ⟨hopen, ?_, hab⟩
  rw [hqueue]
  simp

/-- The task comes to the end of the source. -/
theorem eof (h : CopyRel source target whole (some [])) (hs : source.step .eof = some source') :
    CopyRel source' target whole none := by
  obtain ⟨hend, rfl⟩ := Pipe.step_eof.mp hs
  obtain ⟨-, hqueue, hab⟩ := h.copying [] rfl
  rw [List.append_nil] at hqueue
  refine ⟨h.finished, h.kept, fun _ hbuf => (by cases hbuf),
    fun _ => ⟨⟨_, hqueue.symm⟩, fun hkept => ?_⟩⟩
  obtain hgone | ⟨hfin, hnil⟩ := hend
  · rw [hab hgone] at hkept
    cases hkept
  · exact ⟨h.finished.trans hfin, by rw [hqueue, hnil, List.append_nil]⟩

omit [DecidableEq β] in
/-- The task stops early. -/
theorem fail (h : CopyRel source target whole buf) :
    CopyRel source target { whole with abandoned := true } none where
  finished := h.finished
  kept := h.kept
  copying _ hbuf := by cases hbuf
  stopped _ := by
    refine ⟨?_, fun hab => by cases hab⟩
    cases buf with
    | none => exact (h.stopped rfl).1
    | some bs =>
      rw [(h.copying bs rfl).2.1, List.append_assoc]
      exact List.prefix_append _ _

omit [DecidableEq β] in
/-- The source is given up. -/
theorem abandon (h : CopyRel source target whole (some bs)) :
    CopyRel { source with abandoned := true } target { whole with abandoned := true } (some bs) where
  finished := h.finished
  kept := h.kept
  copying bs' hbuf := by
    obtain ⟨hopen, hqueue, -⟩ := h.copying bs' hbuf
    exact ⟨hopen, hqueue, fun _ => rfl⟩
  stopped hbuf := by cases hbuf

omit [DecidableEq β] in
/-- What happens to the source after the task has stopped, other than by its writer. -/
theorem after (h : CopyRel source target whole none) (hfin : source'.finished = source.finished) :
    CopyRel source' target whole none where
  finished := h.finished.trans hfin.symm
  kept := h.kept
  copying _ hbuf := by cases hbuf
  stopped := h.stopped

/-- The task ends the target. -/
theorem finish (h : CopyRel source target whole none) (hs : target.step .finish = some target') :
    CopyRel source target' whole none := by
  cases hs
  exact ⟨h.finished, h.kept, fun _ hbuf => (by cases hbuf), h.stopped⟩

end CopyRel

end

end AdbDaemon.Common
