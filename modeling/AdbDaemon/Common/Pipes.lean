import AdbDaemon.Common.Machine
import Mathlib.Data.List.Infix

/-!
# Simulations, and pipes as what they are for

`Machine.Simulation` relates two machines: each step of the first is matched by steps of the second
that show what the first shows of them. `Simulation.run` lifts it to runs.

A `Pipe` is what a byte stream is meant to be: what is written is read in order, once, and without
gaps, and the reader is told of the end when the writer has ended the stream and nothing is left.
`pipes` is a family of independent pipes. A machine that simulates it loses no element out of the
middle of a stream, never mixes streams and never ends one early (`pipes_read_isPrefix`,
`pipes_complete_of_eof`).
-/

namespace AdbDaemon.Common

universe u v w

/-! ## Simulations -/

namespace Machine

variable {σ₁ σ₂ : Type u} {α₁ α₂ : Type v} {ε₁ ε₂ : Type w}

/-- Each step of `M` is matched by a run of `A` whose trace is what `view` shows of its event. -/
structure Simulation (M : Machine σ₁ α₁ ε₁) (A : Machine σ₂ α₂ ε₂) (view : ε₁ → List ε₂)
    (Rel : σ₁ → σ₂ → Prop) : Prop where
  step : ∀ {s s' : σ₁} {t : σ₂} {a : α₁} {e : ε₁}, Rel s t → M.step s a = some (s', e) →
    ∃ t', A.Run t (view e) t' ∧ Rel s' t'

variable {M : Machine σ₁ α₁ ε₁} {A : Machine σ₂ α₂ ε₂} {view : ε₁ → List ε₂}
  {Rel : σ₁ → σ₂ → Prop}

/-- Each run of `M` is matched by a run of `A`. -/
theorem Simulation.run (h : Simulation M A view Rel) {s₀ s : σ₁} {t₀ : σ₂} {tr : List ε₁}
    (hinit : Rel s₀ t₀) (hrun : M.Run s₀ tr s) : ∃ t, A.Run t₀ (tr.flatMap view) t ∧ Rel s t := by
  induction hrun with
  | nil => exact ⟨t₀, .nil, hinit⟩
  | snoc _ hs ih =>
    obtain ⟨t, hrunA, hrel⟩ := ih
    obtain ⟨t', hstep, hrel'⟩ := h.step hrel hs
    refine ⟨t', ?_, hrel'⟩
    rw [List.flatMap_append, List.flatMap_singleton]
    exact hrunA.trans hstep

end Machine

/-! ## One pipe -/

/-- What writer and reader do with a pipe. -/
inductive PipeAct (β : Type u) where
  | write (bs : List β)
  /-- The writer ends the stream. -/
  | finish
  | read (bs : List β)
  /-- The reader is told that the stream has ended. -/
  | eof
  /-- The reader gives the stream up: from then on it may be told so early. -/
  | abandon
deriving DecidableEq

/-- What is written and not read, and who has left. -/
structure Pipe (β : Type u) where
  queue : List β
  finished : Bool
  abandoned : Bool

namespace Pipe

variable {β : Type u} [DecidableEq β]

/-- A pipe that nobody has used. -/
def empty : Pipe β := ⟨[], false, false⟩

/-- What is written after the end is not part of the stream. -/
def step (p : Pipe β) : PipeAct β → Option (Pipe β)
  | .write bs => some (if p.finished then p else { p with queue := p.queue ++ bs })
  | .finish => some { p with finished := true }
  | .read bs => if bs <+: p.queue then some { p with queue := p.queue.drop bs.length } else none
  | .eof => if p.abandoned = true ∨ p.finished = true ∧ p.queue = [] then some p else none
  | .abandon => some { p with abandoned := true }

/-- Take several steps. -/
def exec (p : Pipe β) : List (PipeAct β) → Option (Pipe β)
  | [] => some p
  | a :: acts => (p.step a).bind fun q => q.exec acts

end Pipe

namespace PipeAct

variable {β : Type u}

def isFinish : PipeAct β → Bool
  | .finish => true
  | _ => false

def isAbandon : PipeAct β → Bool
  | .abandon => true
  | _ => false

/-- The elements of the stream: what is written before it is ended. -/
def written : List (PipeAct β) → List β
  | [] => []
  | .write bs :: acts => bs ++ written acts
  | .finish :: _ => []
  | _ :: acts => written acts

/-- The elements that were read. -/
def taken (acts : List (PipeAct β)) : List β :=
  acts.flatMap fun
    | .read bs => bs
    | _ => []

/-- What is written after the end of a pipe does not count. -/
theorem written_append (acts acts' : List (PipeAct β)) :
    written (acts ++ acts') =
      written acts ++ if acts.any isFinish then [] else written acts' := by
  induction acts with
  | nil => rfl
  | cons a acts ih => cases a <;> simp [written, isFinish, ih]

@[simp] theorem taken_append (acts acts' : List (PipeAct β)) :
    taken (acts ++ acts') = taken acts ++ taken acts' := List.flatMap_append

end PipeAct

/-! ## A family of pipes -/

section Pipes

variable (ι : Type v) (β : Type u) [DecidableEq ι] [DecidableEq β]

/-- Independent pipes: an action of one leaves the others alone. -/
def pipes : Machine (ι → Pipe β) (ι × PipeAct β) (ι × PipeAct β) where
  step p a := (p a.1).step a.2 |>.map fun q => (Function.update p a.1 q, a)

variable {ι β} {tr tr' : List (ι × PipeAct β)} {p : ι → Pipe β} {i : ι}

/-- What happened to one pipe. -/
def actsOf (i : ι) (tr : List (ι × PipeAct β)) : List (PipeAct β) :=
  (tr.filter fun a => a.1 = i).map Prod.snd

omit [DecidableEq β] in
@[simp] theorem actsOf_append : actsOf i (tr ++ tr') = actsOf i tr ++ actsOf i tr' := by
  simp [actsOf]

omit [DecidableEq β] in
theorem actsOf_singleton (a : ι × PipeAct β) : actsOf i [a] = if a.1 = i then [a.2] else [] := by
  by_cases h : a.1 = i <;> simp [actsOf, h]

omit [DecidableEq β] in
/-- A pipe that the trace does not give up is not given up by its uses. -/
theorem any_isAbandon_eq_false (h : (i, .abandon) ∉ tr) :
    (actsOf i tr).any PipeAct.isAbandon = false := by
  refine List.any_eq_false.mpr fun a ha habandon => h ?_
  obtain ⟨⟨j, b⟩, hmem, rfl⟩ := List.mem_map.mp ha
  obtain ⟨hmem, hj⟩ := List.mem_filter.mp hmem
  cases b with
  | abandon => exact of_decide_eq_true hj ▸ hmem
  | _ => cases habandon

/-- What a pipe holds, as its history tells it. -/
structure PipeLaw (acts : List (PipeAct β)) (p : Pipe β) : Prop where
  queue : PipeAct.taken acts ++ p.queue = PipeAct.written acts
  finished : p.finished = acts.any PipeAct.isFinish
  abandoned : p.abandoned = acts.any PipeAct.isAbandon

/-- Every use of a pipe keeps the law: the queue is what was written before the end, less what was
taken. -/
theorem PipeLaw.step {acts : List (PipeAct β)} {p q : Pipe β} {a : PipeAct β} (h : PipeLaw acts p)
    (hs : p.step a = some q) : PipeLaw (acts ++ [a]) q := by
  have hfin := h.finished
  have hab := h.abandoned
  cases a with
  | write bs =>
    cases hs
    refine ⟨?_, ?_, ?_⟩
    · rw [PipeAct.written_append, ← hfin, ← h.queue]
      -- a write after the end adds nothing, on either side
      cases p.finished <;> simp [PipeAct.taken, PipeAct.written]
    · cases hf : p.finished <;> simp [PipeAct.isFinish, ← hfin, hf]
    · cases hf : p.finished <;> simp [PipeAct.isAbandon, ← hab]
  | finish =>
    cases hs
    refine ⟨?_, ?_, ?_⟩
    · rw [PipeAct.written_append, ← h.queue]
      simp [PipeAct.taken, PipeAct.written]
    · simp [PipeAct.isFinish]
    · simp [PipeAct.isAbandon, ← hab]
  | read bs =>
    simp only [Pipe.step, Option.ite_none_right_eq_some, Option.some.injEq] at hs
    obtain ⟨⟨rest, hrest⟩, rfl⟩ := hs
    refine ⟨?_, ?_, ?_⟩
    · rw [PipeAct.written_append, ← h.queue, ← hrest]
      simp [PipeAct.taken, PipeAct.written]
    · simp [PipeAct.isFinish, ← hfin]
    · simp [PipeAct.isAbandon, ← hab]
  | eof =>
    simp only [Pipe.step, Option.ite_none_right_eq_some, Option.some.injEq] at hs
    obtain ⟨-, rfl⟩ := hs
    refine ⟨?_, ?_, ?_⟩
    · rw [PipeAct.written_append, ← h.queue]
      simp [PipeAct.taken, PipeAct.written]
    · simp [PipeAct.isFinish, ← hfin]
    · simp [PipeAct.isAbandon, ← hab]
  | abandon =>
    cases hs
    refine ⟨?_, ?_, ?_⟩
    · rw [PipeAct.written_append, ← h.queue]
      simp [PipeAct.taken, PipeAct.written]
    · simp [PipeAct.isFinish, ← hfin]
    · simp [PipeAct.isAbandon]

/-- A step of the family is a step of one pipe. -/
theorem pipes_step {p' : ι → Pipe β} {a e : ι × PipeAct β}
    (h : (pipes ι β).step p a = some (p', e)) :
    e = a ∧ ∃ q, (p a.1).step a.2 = some q ∧ p' = Function.update p a.1 q := by
  simp only [pipes, Option.map_eq_some_iff, Prod.mk.injEq] at h
  obtain ⟨q, hq, rfl, rfl⟩ := h
  exact ⟨rfl, q, hq, rfl⟩

/-- The family takes the steps that each of its pipes can take by itself. -/
theorem pipes_run_of_forall {R : ι → Pipe β → Prop} (acts : List (ι × PipeAct β))
    (h : ∀ i, ∃ q, (p i).exec (actsOf i acts) = some q ∧ R i q) :
    ∃ p', (pipes ι β).Run p acts p' ∧ ∀ i, R i (p' i) := by
  induction acts generalizing p with
  | nil =>
    refine ⟨p, .nil, fun i => ?_⟩
    obtain ⟨q, hq, hR⟩ := h i
    cases hq
    exact hR
  | cons a acts ih =>
    -- the first use is of the pipe `a.1`: its own run begins with it
    obtain ⟨q₁, hq₁, hrest⟩ : ∃ q₁, (p a.1).step a.2 = some q₁ ∧
        ∃ q, q₁.exec (actsOf a.1 acts) = some q ∧ R a.1 q := by
      obtain ⟨q, hq, hR⟩ := h a.1
      rw [← List.singleton_append, actsOf_append, actsOf_singleton, if_pos rfl,
        List.singleton_append, Pipe.exec, Option.bind_eq_some_iff] at hq
      obtain ⟨q₁, hq₁, hq⟩ := hq
      exact ⟨q₁, hq₁, q, hq, hR⟩
    -- the other pipes do not see it
    obtain ⟨p', hrun, hR⟩ := ih (p := Function.update p a.1 q₁) fun i => by
      by_cases hi : i = a.1
      · subst hi
        rwa [Function.update_self]
      · rw [Function.update_of_ne hi]
        have hi' := h i
        rwa [← List.singleton_append, actsOf_append, actsOf_singleton, if_neg (Ne.symm hi),
          List.nil_append] at hi'
    have hstep : (pipes ι β).step p a = some (Function.update p a.1 q₁, a) := by
      simp only [pipes, hq₁, Option.map_some]
    exact ⟨p', (Machine.Run.single hstep).trans hrun, hR⟩

/-- In a run of many pipes each obeys its law on its own. -/
theorem pipes_law (h : (pipes ι β).Run (fun _ => .empty) tr p) (i : ι) :
    PipeLaw (actsOf i tr) (p i) := by
  refine h.invariant (fun tr p => PipeLaw (actsOf i tr) (p i)) ⟨rfl, rfl, rfl⟩ ?_
  rintro tr p a p' e - hlaw hs
  obtain ⟨rfl, q, hq, rfl⟩ := pipes_step hs
  rw [actsOf_append, actsOf_singleton]
  by_cases hi : e.1 = i
  · subst hi
    rw [if_pos rfl, Function.update_self]
    exact hlaw.step hq
  · rw [if_neg hi, Function.update_of_ne (Ne.symm hi), List.append_nil]
    exact hlaw

/-- What is read is what was written, from the beginning and without gaps. -/
theorem pipes_read_isPrefix (h : (pipes ι β).Run (fun _ => .empty) tr p) (i : ι) :
    PipeAct.taken (actsOf i tr) <+: PipeAct.written (actsOf i tr) :=
  ⟨_, (pipes_law h i).queue⟩

/-- A reader that did not give up is told of the end only when the writer has ended the stream and
all of it was read. -/
theorem pipes_complete_of_eof {pre post : List (ι × PipeAct β)}
    (h : (pipes ι β).Run (fun _ => .empty) (pre ++ (i, .eof) :: post) p)
    (hab : (actsOf i pre).any PipeAct.isAbandon = false) :
    PipeAct.taken (actsOf i pre) = PipeAct.written (actsOf i (pre ++ (i, .eof) :: post)) := by
  obtain ⟨q, a, q', hpre, hs, -⟩ := h.split
  obtain ⟨rfl, q'', heof, -⟩ := pipes_step hs
  have hlaw := pipes_law hpre i
  simp only [Pipe.step, Option.ite_none_right_eq_some] at heof
  obtain habandoned | ⟨hfin, hnil⟩ := heof.1
  · rw [hlaw.abandoned, hab] at habandoned
    exact absurd habandoned (by decide)
  · have hqueue := hlaw.queue
    rw [hnil, List.append_nil] at hqueue
    rw [actsOf_append, PipeAct.written_append, ← hlaw.finished, if_pos hfin, List.append_nil]
    exact hqueue

/-- What is written and not yet read is in the pipe. -/
theorem pipes_conserve (h : (pipes ι β).Run (fun _ => .empty) tr p) (i : ι) :
    PipeAct.taken (actsOf i tr) ++ (p i).queue = PipeAct.written (actsOf i tr) :=
  (pipes_law h i).queue

end Pipes

end AdbDaemon.Common
