import Mathlib.Data.List.Basic
import Mathlib.Tactic.Common

/-!
# Machines, runs and traces

A `Machine` takes one action at a time and emits one event for it; a step that is not enabled is
`none`. `Run` is every finite schedule of steps, with the events in order. The rules below are the
only way the rest of the development reasons about schedules:

* `Run.invariant` — a property of trace and state that every step keeps holds after every run.
* `Run.invariant_forall`, `Run.forall_iff` — what every event of a run shows, and exactly when.
* `Run.split` — a run can be cut at any event of its trace.
* `Run.of_restrict` — the runs of `M.restrict C` are runs of `M`, those whose steps all meet `C`.
* `exists_run_of_exec` — a concrete schedule, executed.
-/

namespace AdbDaemon.Common

universe u v w

/-- A deterministic machine with actions `α` and events `ε`; `none` is a step that is not
enabled. -/
structure Machine (σ : Type u) (α : Type v) (ε : Type w) where
  step : σ → α → Option (σ × ε)

namespace Machine

variable {σ : Type u} {α : Type v} {ε : Type w} (M : Machine σ α ε)

/-- `M.Run s₀ tr s`: some schedule leads from `s₀` to `s` and emits `tr`. -/
inductive Run (s₀ : σ) : List ε → σ → Prop
  | nil : Run s₀ [] s₀
  | snoc {tr : List ε} {s s' : σ} {a : α} {e : ε} :
      Run s₀ tr s → M.step s a = some (s', e) → Run s₀ (tr ++ [e]) s'

/-- Run a given schedule. -/
def exec (s : σ) : List α → Option (σ × List ε)
  | [] => some (s, [])
  | a :: as =>
    match M.step s a with
    | none => none
    | some (s', e) =>
      match exec s' as with
      | none => none
      | some (s'', tr) => some (s'', e :: tr)

/-- The machine that takes a step only when it meets `C`. -/
def restrict (C : σ → α → ε → Prop) [∀ s a e, Decidable (C s a e)] : Machine σ α ε where
  step s a :=
    match M.step s a with
    | none => none
    | some (s', e) => if C s a e then some (s', e) else none

variable {M} {s₀ : σ}

/-- Two runs compose. -/
theorem Run.trans {tr tr' : List ε} {s s' : σ} (h : M.Run s₀ tr s) (h' : M.Run s tr' s') :
    M.Run s₀ (tr ++ tr') s' := by
  induction h' with
  | nil => simpa using h
  | snoc _ hstep ih =>
    rw [← List.append_assoc]
    exact ih.snoc hstep

/-- A single step is a run. -/
theorem Run.single {s s' : σ} {a : α} {e : ε} (h : M.step s a = some (s', e)) : M.Run s [e] s' := by
  rw [← List.nil_append [e]]
  exact Run.nil.snoc h

/-- Every schedule that `exec` can follow is a run. -/
theorem run_of_exec (as : List α) {s s' : σ} {tr : List ε} (h : M.exec s as = some (s', tr)) :
    M.Run s tr s' := by
  induction as generalizing s tr with
  | nil =>
    simp only [exec, Option.some.injEq, Prod.mk.injEq] at h
    obtain ⟨rfl, rfl⟩ := h
    exact .nil
  | cons a as ih =>
    simp only [exec] at h
    split at h
    · exact absurd h (by simp)
    · rename_i s₁ e hstep
      split at h
      · exact absurd h (by simp)
      · rename_i s₂ tr₂ hrest
        simp only [Option.some.injEq, Prod.mk.injEq] at h
        obtain ⟨rfl, rfl⟩ := h
        exact (Run.single hstep).trans (ih hrest)

/-- A schedule that `exec` follows to a state and a trace passing a test is such a run. -/
theorem exists_run_of_exec {s : σ} (as : List α) (test : σ → List ε → Bool)
    (h : (M.exec s as).any (fun r => test r.1 r.2) = true) :
    ∃ s' tr, M.Run s tr s' ∧ test s' tr = true := by
  obtain ⟨⟨s', tr⟩, hexec, htest⟩ := (Option.any_eq_true _ _).mp h
  exact ⟨s', tr, run_of_exec as hexec, htest⟩

/-- The invariant rule. The step case may use that the state before the step was reached. -/
theorem Run.invariant (I : List ε → σ → Prop) (hinit : I [] s₀)
    (hstep : ∀ tr s a s' e, M.Run s₀ tr s → I tr s → M.step s a = some (s', e) → I (tr ++ [e]) s')
    {tr : List ε} {s : σ} (h : M.Run s₀ tr s) : I tr s := by
  induction h with
  | nil => exact hinit
  | snoc hrun hs ih => exact hstep _ _ _ _ _ hrun ih hs

/-- The invariant rule for what every step shows: an invariant of the states, and what it makes sure
of at each event. -/
theorem Run.invariant_forall (I : σ → Prop) (P : ε → Prop) (hinit : I s₀)
    (hstep : ∀ s a s' e, I s → M.step s a = some (s', e) → I s' ∧ P e)
    {tr : List ε} {s : σ} (h : M.Run s₀ tr s) : I s ∧ ∀ e ∈ tr, P e := by
  induction h with
  | nil => exact ⟨hinit, nofun⟩
  | snoc _ hs ih =>
    obtain ⟨hI, hP⟩ := hstep _ _ _ _ ih.1 hs
    refine ⟨hI, fun e he => ?_⟩
    obtain he | he := List.mem_append.mp he
    · exact ih.2 e he
    · rw [List.mem_singleton.mp he]
      exact hP

/-- The rule for an exact condition: while the invariant `I` holds, a step shows `P` exactly when it
meets `C`, and a step that shows `P` keeps `I`. -/
theorem Run.forall_iff (I : σ → Prop) (P C : ε → Prop) (hinit : I s₀)
    (hstep : ∀ s a s' e, I s → M.step s a = some (s', e) → (P e ↔ C e) ∧ (P e → I s'))
    {tr : List ε} {s : σ} (h : M.Run s₀ tr s) : (∀ e ∈ tr, P e) ↔ ∀ e ∈ tr, C e := by
  have hboth : ((∀ e ∈ tr, P e) ↔ ∀ e ∈ tr, C e) ∧ ((∀ e ∈ tr, P e) → I s) := by
    induction h with
    | nil => exact ⟨by simp, fun _ => hinit⟩
    | @snoc tr s s' a e _ hs ih =>
      simp only [List.forall_mem_append, List.forall_mem_singleton]
      -- Until the first event that fails `P`, and `C` with it, the invariant holds.
      have hlast : (∀ e ∈ tr, P e) → (P e ↔ C e) ∧ (P e → I s') := fun hall =>
        hstep _ _ _ _ (ih.2 hall) hs
      refine ⟨⟨fun hP => ⟨ih.1.mp hP.1, (hlast hP.1).1.mp hP.2⟩, fun hC => ?_⟩, fun hP => ?_⟩
      · have hall : ∀ e ∈ tr, P e := ih.1.mpr hC.1
        exact ⟨hall, (hlast hall).1.mpr hC.2⟩
      · exact (hlast hP.1).2 hP.2
  exact hboth.1

/-- Cut a run at one event of its trace. -/
theorem Run.split {pre post : List ε} {e : ε} {s : σ} (h : M.Run s₀ (pre ++ e :: post) s) :
    ∃ s₁ a s₂, M.Run s₀ pre s₁ ∧ M.step s₁ a = some (s₂, e) ∧ M.Run s₂ post s := by
  generalize htr : pre ++ e :: post = tr at h
  induction h generalizing post with
  | nil => exact absurd htr (by simp)
  | @snoc tr' s₁ s₂ a e' hrun hs ih =>
    rcases List.eq_nil_or_concat post with rfl | ⟨post', e₂, rfl⟩
    · obtain ⟨rfl, he⟩ := List.append_inj' htr rfl
      obtain rfl : e = e' := by simpa using he
      exact ⟨s₁, a, s₂, hrun, hs, .nil⟩
    · rw [List.concat_eq_append, ← List.cons_append, ← List.append_assoc] at htr
      obtain ⟨hpre, he⟩ := List.append_inj' htr rfl
      obtain rfl : e₂ = e' := by simpa using he
      obtain ⟨t₁, b, t₂, h₁, h₂, h₃⟩ := ih hpre
      rw [List.concat_eq_append]
      exact ⟨t₁, b, t₂, h₁, h₂, h₃.snoc hs⟩

section Restrict

variable {C : σ → α → ε → Prop} [∀ s a e, Decidable (C s a e)]

/-- A step of the restricted machine is a step of the machine that meets the condition. -/
theorem restrict_step {s s' : σ} {a : α} {e : ε} :
    (M.restrict C).step s a = some (s', e) ↔ M.step s a = some (s', e) ∧ C s a e := by
  simp only [restrict]
  cases hs : M.step s a with
  | none => simp
  | some p =>
    obtain ⟨t, f⟩ := p
    simp only [Option.some.injEq, Prod.mk.injEq]
    constructor
    · intro h
      split at h
      · rename_i hc
        simp only [Option.some.injEq, Prod.mk.injEq] at h
        obtain ⟨rfl, rfl⟩ := h
        exact ⟨⟨rfl, rfl⟩, hc⟩
      · exact absurd h (by simp)
    · rintro ⟨⟨rfl, rfl⟩, hc⟩
      rw [if_pos hc]

/-- A run whose steps all meet `C` is a run. -/
theorem Run.of_restrict {tr : List ε} {s : σ} (h : (M.restrict C).Run s₀ tr s) : M.Run s₀ tr s := by
  induction h with
  | nil => exact .nil
  | snoc _ hs ih => exact ih.snoc (restrict_step.mp hs).1

end Restrict

end Machine

end AdbDaemon.Common
